import Graft.Regex

/-!
# Cache

Regular expressions that were read before, by their written form.  A full cache is emptied before
the next one is read, and what cannot be read is not kept.
-/

namespace Graft.Regex

/-- The expressions read so far, the last one first. -/
structure Cache where
  entries : List (Text × Regex) := []
  deriving DecidableEq, Repr

namespace Cache

/-- How many expressions are kept. -/
def capacity : Nat := 256

def size (c : Cache) : Nat := c.entries.length

def get? (c : Cache) (source : Text) : Option Regex := c.entries.lookup source

/-- The expression of `source`, and the cache afterwards. -/
def lookup (c : Cache) (source : Text) : Except SyntaxError Regex × Cache :=
  match c.get? source with
  | some r => (.ok r, c)
  | none =>
      let room : Cache := if capacity ≤ c.size then {} else c
      match Regex.ofText source with
      | .ok r      => (.ok r, ⟨(source, r) :: room.entries⟩)
      | .error why => (.error why, room)

def clear (_ : Cache) : Cache := {}

end Cache

end Graft.Regex
