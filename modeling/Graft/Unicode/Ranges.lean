/-!
# Ranges

Sets of characters as ranges of code points in order, and the text form the tables are kept in:
ranges in hexadecimal with a blank between them, `41-5A 61-7A AA`.
-/

namespace Graft.Unicode

/-- Ranges of code points, both ends included, in increasing order. -/
structure Ranges where
  pairs : List (Nat × Nat)
  deriving DecidableEq, Repr

namespace Ranges

/-- The value of a hexadecimal digit. -/
def hexDigit? (c : Char) : Option Nat :=
  if '0' ≤ c && c ≤ '9' then some (c.toNat - '0'.toNat)
  else if 'a' ≤ c && c ≤ 'f' then some (c.toNat - 'a'.toNat + 10)
  else if 'A' ≤ c && c ≤ 'F' then some (c.toNat - 'A'.toNat + 10)
  else none

/-- The number that hexadecimal digits write; characters that are no digits count nothing. -/
def hex (digits : List Char) : Nat :=
  digits.foldl (fun n c => 16 * n + (hexDigit? c).getD 0) 0

/-- One entry of a table. -/
def entry (s : String) : Nat × Nat :=
  match s.splitOn "-" with
  | [one]      => (hex one.toList, hex one.toList)
  | lo :: hi :: _ => (hex lo.toList, hex hi.toList)
  | []         => (0, 0)

/-- The ranges that the lines of a table write. -/
def ofTable (lines : List String) : Ranges :=
  ⟨lines.flatMap fun line => (line.splitOn " ").map entry⟩

def hasCode : List (Nat × Nat) → Nat → Bool
  | [], _               => false
  | (lo, hi) :: rest, n => lo ≤ n && (n ≤ hi || hasCode rest n)

def contains (r : Ranges) (c : Char) : Bool := hasCode r.pairs c.toNat

end Ranges

end Graft.Unicode
