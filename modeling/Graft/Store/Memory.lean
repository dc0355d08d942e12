import Graft.Store

/-!
# Memory

A store that lives in memory and counts its writes.
-/

namespace Graft

/-- Texts by the components of their paths, and how often one was written. -/
structure Memory where
  files  : List (List Path.Component × Text) := []
  writes : Nat := 0
  deriving DecidableEq, Repr

namespace Memory

def get? (s : Memory) (p : Path) : Option Text := s.files.lookup p.components

/-- The files with `t` at `p`. -/
def put (s : Memory) (p : Path) (t : Text) : Memory :=
  { s with files := (p.components, t) :: s.files.filter (·.1 != p.components) }

def read (p : Path) (s : Memory) : Except StoreError Text :=
  match s.get? p with
  | some t => .ok t
  | none   => .error (.notFound p)

def write (p : Path) (t : Text) (s : Memory) : Memory :=
  { s.put p t with writes := s.writes + 1 }

instance : TextStore (StateM Memory) where
  readText p := fun s => (read p s, s)
  writeText p t := fun s => (.ok (), write p t s)

end Memory

end Graft
