/-!
# Text

A text is a list of characters, and a place in it is a byte offset into its UTF-8 form.  Cutting
is partial: an offset inside a character, or past the end, cuts nothing (`Text.splitAt?`).

* `Text.size`, `Text.splitAt?`, `Text.slice?`: length, cut and slice in bytes.
* `Text.indexOf?`, `Text.occurrences`: the leftmost occurrence of a literal, and the ones that do
  not overlap.
* `Text.lines`: the lines of a text as a fragment is written, without their terminators.
-/

namespace Graft

/-- A text, character by character. -/
abbrev Text := List Char

/-- White space, anywhere in Unicode. -/
def isSpace (c : Char) : Bool :=
  let n := c.toNat
  (9 ≤ n && n ≤ 13) || n == 0x20 || n == 0x85 || n == 0xA0 || n == 0x1680 ||
  (0x2000 ≤ n && n ≤ 0x200A) || n == 0x2028 || n == 0x2029 || n == 0x202F || n == 0x205F ||
  n == 0x3000

/-- A span of bytes, its end excluded. -/
structure Span where
  start : Nat
  stop  : Nat
  deriving DecidableEq, Repr

namespace Text

/-- Number of bytes of the UTF-8 form. -/
def size : Text → Nat
  | []     => 0
  | c :: t => c.utf8Size + size t

/-- `t` cut at byte offset `n`; nothing when `n` is inside a character or past the end. -/
def splitAt? : Text → Nat → Option (Text × Text)
  | t, 0          => some ([], t)
  | [], _ + 1     => none
  | c :: t, n + 1 =>
      if c.utf8Size ≤ n + 1 then
        (splitAt? t (n + 1 - c.utf8Size)).map fun cut => (c :: cut.1, cut.2)
      else none

/-- Whether byte offset `n` lies between two characters, or at an end. -/
def isBoundary (t : Text) (n : Nat) : Bool := (splitAt? t n).isSome

/-- What stands at the bytes from `first` up to `last`. -/
def slice? (t : Text) (first last : Nat) : Option Text :=
  if first ≤ last then do
    let (_, rest) ← splitAt? t first
    let (piece, _) ← splitAt? rest (last - first)
    return piece
  else none

/-- `t` without its trailing `c`s. -/
def trimEnd (c : Char) (t : Text) : Text := (t.reverse.dropWhile (· == c)).reverse

/-- Only white space, if anything. -/
def isBlank (t : Text) : Bool := t.all isSpace

/-- Byte offset of the leftmost occurrence of `needle`. -/
def indexOf? (needle : Text) : Text → Option Nat
  | []     => if needle.isEmpty then some 0 else none
  | c :: t =>
      if needle.isPrefixOf (c :: t) then some 0
      else (indexOf? needle t).map (· + c.utf8Size)

/-- Byte offsets of the occurrences of `needle` that do not overlap, leftmost first.  `pos` is
where the text starts, and the first `skip` characters belong to an occurrence already counted. -/
def occurrencesFrom (needle : Text) (pos skip : Nat) : Text → List Nat
  | []     => []
  | c :: t =>
      match skip with
      | skip + 1 => occurrencesFrom needle (pos + c.utf8Size) skip t
      | 0 =>
          if needle.isPrefixOf (c :: t) then
            pos :: occurrencesFrom needle (pos + c.utf8Size) (needle.length - 1) t
          else occurrencesFrom needle (pos + c.utf8Size) 0 t

/-- Byte offsets of the occurrences of a non-empty `needle` that do not overlap. -/
def occurrences (needle t : Text) : List Nat := occurrencesFrom needle 0 0 t

/-- Whether `needle` occurs in `t`. -/
def contains (needle t : Text) : Bool := (indexOf? needle t).isSome

/-- The pieces of `t` between line feeds, and whether each one ended in a line feed.  A final
empty piece is no piece. -/
def pieces : Text → List (Text × Bool)
  | []     => []
  | c :: t =>
      if c = '\n' then ([], true) :: pieces t
      else
        match pieces t with
        | []               => [([c], false)]
        | (p, ended) :: ps => (c :: p, ended) :: ps

/-- One carriage return taken off the end of `t`, if one stands there. -/
def dropReturn (t : Text) : Text := if t.getLast? = some '\r' then t.dropLast else t

/-- The lines of `t` without their terminators: a line feed, with one carriage return before it.
A carriage return that ends the text is no terminator. -/
def lines (t : Text) : List Text :=
  (pieces t).map fun piece => if piece.2 then dropReturn piece.1 else piece.1

end Text

end Graft
