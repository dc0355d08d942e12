import Graft.Regex.Reader
import Graft.Regex.Search

/-!
# Regular expressions over text

A pattern is read once (`Regex.ofText`) and then searched for: the leftmost match, and of the
matches that start there the one that the pattern prefers.  The ends of lines are a line feed, a
carriage return, or both together, and the line signs of a pattern match at each of them.
-/

namespace Graft

/-- A regular expression with its written form. -/
structure Regex where
  source : Text
  root   : Regex.Node
  deriving DecidableEq, Repr

namespace Regex

def ofText (source : Text) : Except SyntaxError Regex := do
  return ⟨source, ← Node.read source⟩

/-- The number of groups, the whole match included. -/
def groupCount (r : Regex) : Nat := r.root.groups.foldl (fun n g => max n g.1) 0 + 1

/-- The named groups with their numbers. -/
def names (r : Regex) : List (String × Nat) :=
  r.root.groups.filterMap fun g => g.2.map fun name => (name, g.1)

/-- The leftmost match in `t`. -/
def find? (r : Regex) (t : Text) : Option Groups := (Cursor.ofText t).find? r.root

/-- All matches in `t` that do not overlap, from left to right. -/
def findAll (r : Regex) (t : Text) : List Groups :=
  Cursor.findAll r.root (t.length + 2) none (.ofText t)

/-- Whether `t` has a match. -/
def isMatch (r : Regex) (t : Text) : Bool := (r.find? t).isSome

end Regex

end Graft
