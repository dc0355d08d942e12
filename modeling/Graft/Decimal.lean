/-!
# Decimal

Binary fractions of double precision as decimal numbers.  A decimal number is rounded to the
nearest one (`Binary.ofDecimal?`), and one is written with the fewest digits that read back as it,
and of those the nearest (`Binary.shortest`).
-/

namespace Graft.Decimal

/-- A number `mantissa * 2 ^ exponent`, or its negative. -/
structure Binary where
  negative : Bool
  mantissa : Nat
  exponent : Int
  deriving DecidableEq, Repr

/-- `n * base ^ e` as a quotient. -/
def scale (base n : Nat) (e : Int) : Nat × Nat :=
  if 0 ≤ e then (n * Nat.pow base e.toNat, 1) else (n, Nat.pow base (-e).toNat)

/-- `num / den` to the nearest whole number, a half to the even one. -/
def roundDiv (num den : Nat) : Nat :=
  let q := num / den
  let twice := 2 * (num % den)
  if den < twice || (twice == den && q % 2 == 1) then q + 1 else q

namespace Binary

/-- The exponent of the last place of a fraction. -/
def lastPlace (num den : Nat) : Int :=
  let guess : Int := (Nat.log2 num : Int) - (Nat.log2 den : Int) - 53
  let (a, b) := scale 2 den guess
  let e := if Nat.pow 2 53 * a ≤ num * b then guess + 1 else guess
  max e (-1074)

/-- The fraction nearest to `digits * 10 ^ exponent`; none when that is too large. -/
def ofDecimal? (negative : Bool) (digits : Nat) (exponent : Int) : Option Binary :=
  let places : Int := (Nat.toDigits 10 digits).length + exponent
  if digits = 0 || places < -400 then some ⟨negative, 0, -1074⟩
  else if 400 < places then none
  else
    let (num, den) := scale 10 digits exponent
    let e := lastPlace num den
    let (a, b) := scale 2 den e
    let m := roundDiv (num * b) a
    let (m, e) := if m = Nat.pow 2 53 then (Nat.pow 2 52, e + 1) else (m, e)
    if 971 < e then none else some ⟨negative, m, e⟩

/-- The decimal `c * 10 ^ p` with the fewest digits between the neighbours of a fraction, which is
`value / den`; `low` and `high` are the ends of the interval that reads back as it. -/
def search (value low high den : Nat) (ends : Bool) (top : Int) : Nat → Nat → Nat × Int
  | 0, n => (value / den, top - n)
  | fuel + 1, n =>
      let p := top - n
      let (unit, factor) := if 0 ≤ p then (den * Nat.pow 10 p.toNat, 1) else (den, Nat.pow 10 (-p).toNat)
      let inside (c : Nat) : Bool :=
        let x := c * unit
        let (l, h) := (low * factor, high * factor)
        if ends then l ≤ x && x ≤ h else l < x && x < h
      let below := value * factor / unit
      let near := if value * factor - below * unit ≤ (below + 1) * unit - value * factor
        then below else below + 1
      let other := if near = below then below + 1 else below
      if inside near && near != 0 then (near, p)
      else if inside other && other != 0 then (other, p)
      else search value low high den ends top fuel (n + 1)

/-- The fewest digits that read back as a fraction, and the exponent of the last one. -/
def shortest (b : Binary) : Nat × Int :=
  if b.mantissa = 0 then (0, 0)
  else
    let (up, den) := scale 2 1 (b.exponent - 2)
    let m := b.mantissa
    let gap := if m = Nat.pow 2 52 && -1074 < b.exponent then 1 else 2
    let value := 4 * m * up
    let whole := value / den
    let top : Int :=
      if 0 < whole then (Nat.toDigits 10 whole).length
      else 1 - ((Nat.toDigits 10 (den / value)).length : Int)
    search value ((4 * m - gap) * up) ((4 * m + 2) * up) den (m % 2 == 0) (top + 1) 20 1

/-- Digits written without an exponent, with at least one place after the point. -/
def positional (digits : Nat) (exponent : Int) : String :=
  let ds := Nat.toDigits 10 digits
  if 0 ≤ exponent then
    String.ofList (ds ++ List.replicate exponent.toNat '0' ++ ['.', '0'])
  else
    let places := (-exponent).toNat
    let padded := List.replicate (places + 1 - ds.length) '0' ++ ds
    String.ofList (padded.take (padded.length - places) ++ '.' :: padded.drop (padded.length - places))

/-- A fraction as it stands in a message. -/
def text (b : Binary) : String :=
  let (digits, exponent) := b.shortest
  (if b.negative then "-" else "") ++ positional digits exponent

end Binary

end Graft.Decimal
