import Graft.Text

/-!
# Path

A path keeps the way it is spelled, and is read as a list of components.  Two spellings of one list
of components name the same place: separators may be doubled, and a dot that is not in front counts
nothing.
-/

namespace Graft

/-- A path as it is spelled. -/
structure Path where
  spelling : Text
  deriving DecidableEq, Repr

namespace Path

def ofString (s : String) : Path := ⟨s.toList⟩

instance : ToString Path := ⟨fun p => String.ofList p.spelling⟩

/-- A part of a path. -/
inductive Component where
  | root
  | current
  | up
  | name (n : Text)
  deriving DecidableEq, Repr

/-- The texts between the separators, the empty ones included. -/
def split : Text → List Text
  | []     => [[]]
  | c :: t =>
      if c = '/' then [] :: split t
      else
        match split t with
        | []      => [[c]]
        | s :: ss => (c :: s) :: ss

def segments (p : Path) : List Text := split p.spelling

def isAbsolute (p : Path) : Bool := p.spelling.head? == some '/'

/-- What a segment stands for, inside a path. -/
def Component.ofSegment? (s : Text) : Option Component :=
  if s = [] || s = ['.'] then none
  else if s = ['.', '.'] then some .up
  else some (.name s)

/-- The components; a dot counts only in front of a path that is not absolute. -/
def components (p : Path) : List Component :=
  let inner := p.segments.filterMap Component.ofSegment?
  if p.isAbsolute then .root :: inner
  else if p.segments.head? == some ['.'] then .current :: inner
  else inner

/-- Whether two paths name the same place by their components. -/
def same (p q : Path) : Bool := p.components == q.components

/-- `q` seen from `p`; an absolute path stays what it is. -/
def join (p q : Path) : Path :=
  if q.isAbsolute then q
  else if p.spelling.isEmpty || p.spelling.getLast? == some '/' then ⟨p.spelling ++ q.spelling⟩
  else ⟨p.spelling ++ '/' :: q.spelling⟩

/-- The name at the end of a path. -/
def fileName? (p : Path) : Option Text :=
  match p.components.getLast? with
  | some (.name n) => some n
  | _              => none

/-- A component as it is written. -/
def Component.written : Component → Text
  | .root    => []
  | .current => ['.']
  | .up      => ['.', '.']
  | .name n  => n

/-- The path of a list of components. -/
def ofComponents (cs : List Component) : Path :=
  if cs = [.root] then ⟨['/']⟩ else ⟨['/'].intercalate (cs.map Component.written)⟩

/-- The path without its last component. -/
def parent (p : Path) : Path := ofComponents p.components.dropLast

/-- The names in a path, its dots left out. -/
def names (p : Path) : List Text :=
  p.components.filterMap fun c =>
    match c with
    | .name n => some n
    | _       => none

/-- The absolute path of a list of names. -/
def ofNames (ns : List Text) : Path := ofComponents (.root :: ns.map .name)

end Path

end Graft
