import Graft.Toml.Quoted

/-!
# Numbers, dates and words

Values that stand without quotes: truth values, whole numbers, floating-point numbers, and dates
and times.
-/

namespace Graft.Toml

/-- Digits with single underscores between them, read without the underscores. -/
def digits? (p : Char → Bool) : Text → Option (Text)
  | []            => none
  | [c]           => if p c then some [c] else none
  | c :: '_' :: t => if p c then (digits? p t).map (c :: ·) else none
  | c :: d :: t   => if p c then (digits? p (d :: t)).map (c :: ·) else none

/-- The sign of a number, and what follows it. -/
def sign : Text → Bool × Text
  | '-' :: t => (true, t)
  | '+' :: t => (false, t)
  | t        => (false, t)

def number (base : Nat) (ds : Text) : Nat :=
  ds.foldl (fun n d => n * base + (Unicode.Ranges.hexDigit? d).getD 0) 0

/-- Decimal digits that do not start with a zero, unless they are only that. -/
def whole? (t : Text) : Option (Text) :=
  match digits? Char.isDigit t with
  | some ('0' :: _ :: _) => none
  | ds                   => ds

/-- A whole number of 64 bits with its sign. -/
def bounded? (n : Int) : Option Int :=
  if -9223372036854775808 ≤ n && n ≤ 9223372036854775807 then some n else none

/-- A whole number: decimal, or with the mark of another base. -/
def integer? (t : Text) : Option (Option Int) :=
  let based (base : Nat) (p : Char → Bool) (t : Text) : Option (Option Int) :=
    (digits? p t).map fun ds => bounded? (number base ds)
  match t with
  | '0' :: 'x' :: t => based 16 (fun c => (Unicode.Ranges.hexDigit? c).isSome) t
  | '0' :: 'o' :: t => based 8 (fun c => '0' ≤ c && c ≤ '7') t
  | '0' :: 'b' :: t => based 2 (fun c => c == '0' || c == '1') t
  | t =>
      let (negative, t) := sign t
      (whole? t).map fun ds =>
        let n : Int := number 10 ds
        bounded? (if negative then -n else n)

/-- The exponent of a number: its digits after a sign, at least one of them. -/
def exponent? (t : Text) : Option Int :=
  let (negative, t) := sign t
  (digits? Char.isDigit t).map fun ds =>
    let n : Int := min (number 10 ds) 100000
    if negative then -n else n

/-- A floating-point number with a point, an exponent, or both. -/
def real? (t : Text) : Option Real := do
  let (negative, t) := sign t
  if t == ['i', 'n', 'f'] then return .infinite negative
  if t == ['n', 'a', 'n'] then return .notANumber
  let isMark (c : Char) : Bool := c == 'e' || c == 'E'
  let (before, after) := (t.takeWhile (!isMark ·), t.dropWhile (!isMark ·))
  let exponent ← match after with
    | []     => pure 0
    | _ :: t => exponent? t
  let (ones, places) := (before.takeWhile (· != '.'), before.dropWhile (· != '.'))
  let ones ← whole? ones
  let places ← match places with
    | []     => pure []
    | _ :: t => digits? Char.isDigit t
  if after.isEmpty && places.isEmpty then none
  let b ← Decimal.Binary.ofDecimal? negative (number 10 (ones ++ places))
    (exponent - places.length)
  return .finite b

/-- A number of exactly `n` digits. -/
def fixed? (n : Nat) (t : Text) : Option (Nat × Text) :=
  if (t.take n).length = n && (t.take n).all Char.isDigit then some (number 10 (t.take n), t.drop n)
  else none

def daysIn (year month : Nat) : Nat :=
  if month == 2 then
    if year % 4 == 0 && (year % 100 != 0 || year % 400 == 0) then 29 else 28
  else if [4, 6, 9, 11].contains month then 30
  else 31

/-- What follows a date. -/
def afterDate? (t : Text) : Option (Text) := do
  let (year, t) ← fixed? 4 t
  let '-' :: t := t | none
  let (month, t) ← fixed? 2 t
  let '-' :: t := t | none
  let (day, t) ← fixed? 2 t
  if 1 ≤ month && month ≤ 12 && 1 ≤ day && day ≤ daysIn year month then some t else none

/-- What follows hours and minutes. -/
def afterMinutes? (t : Text) : Option (Text) := do
  let (hour, t) ← fixed? 2 t
  let ':' :: t := t | none
  let (minute, t) ← fixed? 2 t
  if hour ≤ 23 && minute ≤ 59 then some t else none

/-- What follows a time of day; seconds and parts of them may be left out. -/
def afterTime? (t : Text) : Option (Text) := do
  let t ← afterMinutes? t
  match t with
  | ':' :: t =>
      let (second, t) ← fixed? 2 t
      if 60 < second then none
      match t with
      | '.' :: t => if (t.takeWhile Char.isDigit).isEmpty then none else some (t.dropWhile Char.isDigit)
      | t        => some t
  | t => some t

/-- Whether `t` is the distance from universal time, or nothing. -/
def isOffset : Text → Bool
  | []       => true
  | ['Z']    => true
  | ['z']    => true
  | '+' :: t => afterMinutes? t == some []
  | '-' :: t => afterMinutes? t == some []
  | _        => false

/-- Whether `t` is a date, a time, or both. -/
def isDatetime (t : Text) : Bool :=
  match afterDate? t with
  | some []       => true
  | some (c :: t) => (c == 'T' || c == 't' || c == ' ') && (afterTime? t).any isOffset
  | none          => afterTime? t == some []

/-- Characters of values without quotes. -/
def isAtom (c : Char) : Bool := c.isAlphanum || c == '+' || c == '-' || c == '_' || c == '.' || c == ':'

/-- The word that `t` starts with; a date takes in the time after a blank. -/
def readAtom (t : Text) : Text × Text :=
  let (word, rest) := (t.takeWhile isAtom, t.dropWhile isAtom)
  match afterDate? word, rest with
  | some [], ' ' :: c :: rest =>
      if c.isDigit then
        (word ++ ' ' :: (c :: rest).takeWhile isAtom, (c :: rest).dropWhile isAtom)
      else (word, ' ' :: c :: rest)
  | _, _ => (word, rest)

/-- The value of a word. -/
def atom (word : Text) : Except SyntaxError Value :=
  if word == ['t', 'r', 'u', 'e'] then .ok (.boolean true)
  else if word == ['f', 'a', 'l', 's', 'e'] then .ok (.boolean false)
  else if isDatetime word then .ok .datetime
  else
    match integer? word with
    | some (some n) => .ok (.integer n)
    | some none     => .error .number
    | none =>
        match real? word with
        | some x => .ok (.real x)
        | none   => .error .value

end Graft.Toml
