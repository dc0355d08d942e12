import Graft.Anchor
import Graft.Document

/-!
# Match

Where an anchor stands in a document, and the spans of its groups.  A search looks at the slice of
the document that a range covers and at nothing around it (`Document.clip`), so the start and the
end of the range are a start and an end of text for the pattern too.
-/

namespace Graft

/-- An occurrence of an anchor.  Group 0 is the whole occurrence. -/
structure Match where
  span   : Span
  text   : Text
  groups : List (Option Span)
  names  : List (String × Nat)
  deriving DecidableEq, Repr

/-- The start of a range and the text that it covers, cut to the document's end. -/
def Document.clip (d : Document) (range : Span) : Option (Nat × Text) :=
  (Text.slice? d.text range.start (min range.stop d.size)).map fun t => (range.start, t)

def Document.whole (d : Document) : Span := ⟨0, d.size⟩

def Span.shift (s : Span) (by_ : Nat) : Span := ⟨s.start + by_, s.stop + by_⟩

namespace Match

def ofLiteral (needle : Text) (start : Nat) : Match :=
  let span : Span := ⟨start, start + Text.size needle⟩
  ⟨span, needle, [some span], []⟩

/-- A match in a slice that starts at `offset`. -/
def ofGroups (r : Regex) (offset : Nat) (slice : Text) (g : Regex.Groups) : Match where
  span   := g.whole.shift offset
  text   := (Text.slice? slice g.whole.start g.whole.stop).getD []
  groups := (List.range r.groupCount).map fun i => (g.get? i).map (·.shift offset)
  names  := r.names

/-- The span of the group of a number or name. -/
def captureSpan (m : Match) (name : String) : Option Span :=
  match numeral? name with
  | some i => m.groups[i]?.join
  | none   => (m.names.lookup name).bind fun i => m.groups[i]?.join

/-- What stands at a group in `source`. -/
def capture (m : Match) (source : Text) (name : String) : Option Text :=
  (m.captureSpan name).bind fun s => Text.slice? source s.start s.stop

end Match

namespace Pattern

/-- The leftmost occurrence inside a range. -/
def findIn (p : Pattern) (d : Document) (range : Span) : Option Match := do
  let (offset, slice) ← d.clip range
  match p with
  | .literal needle =>
      return .ofLiteral needle ((← Text.indexOf? needle slice) + offset)
  | .regex r => return .ofGroups r offset slice (← r.find? slice)

/-- The occurrences inside a range that do not overlap, from left to right. -/
def findAllIn (p : Pattern) (d : Document) (range : Span) : List Match :=
  match d.clip range with
  | none => []
  | some (offset, slice) =>
      match p with
      | .literal needle => (Text.occurrences needle slice).map fun i => .ofLiteral needle (i + offset)
      | .regex r        => (r.findAll slice).map (.ofGroups r offset slice)

end Pattern

namespace Anchor

def findIn (a : Anchor) (d : Document) (range : Span) : Option Match := a.pattern.findIn d range

def find (a : Anchor) (d : Document) : Option Match := a.findIn d d.whole

def findAllIn (a : Anchor) (d : Document) (range : Span) : List Match := a.pattern.findAllIn d range

end Anchor

end Graft
