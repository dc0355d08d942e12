import Graft.Anchor.Match
import Graft.Code.Block

/-!
# Marker

What tells that a change is in place, whichever way it got there: an identifier, context that has
to stand near it, and optionally the block that both have to stand in (`Marker.evaluate`).
-/

namespace Graft

/-- The mark of a change: an identifier, what has to stand within `window` lines of it, and the
anchor of the block to look in. -/
structure Marker where
  identifier : Anchor
  context    : List Anchor
  window     : Nat
  scope      : Option Anchor
  deriving DecidableEq, Repr

/-- Why a marker cannot be looked for. -/
inductive MarkerError where
  | scopeNotFound (scope : Anchor)
  | unclosedScope (opening : Nat)
  deriving DecidableEq, Repr

def MarkerError.message : MarkerError → String
  | .scopeNotFound a => s!"scope anchor {a.describe} not found"
  | .unclosedScope n => s!"scope opened at byte {n} never closes"

namespace Marker

/-- The part of the document to look in: all of it, or from the scope's anchor to the end of the
block that opens there. -/
def region (m : Marker) (d : Document) : Except MarkerError Span :=
  match m.scope with
  | none => .ok d.whole
  | some scope =>
      match scope.find d with
      | none => .error (.scopeNotFound scope)
      | some opener =>
          match Block.find d.text ⟨opener.span.start, d.size⟩ .any with
          | .error _ => .error (.unclosedScope opener.span.start)
          | .ok b    => .ok ⟨opener.span.start, b.closing + 1⟩

/-- The lines around an occurrence, as far as they belong to the region. -/
def around (m : Marker) (d : Document) (region occurrence : Span) : Span :=
  let lines := d.contextWindow occurrence m.window
  ⟨max lines.start region.start, min lines.stop region.stop⟩

/-- Whether an occurrence of the identifier has its context. -/
def satisfiedAt (m : Marker) (d : Document) (region occurrence : Span) : Bool :=
  m.context.all fun token => (token.findIn d (m.around d region occurrence)).isSome

/-- Whether some occurrence of the identifier in the region has its context. -/
def evaluate (m : Marker) (d : Document) : Except MarkerError Bool :=
  (m.region d).map fun region =>
    (m.identifier.findAllIn d region).any fun o => m.satisfiedAt d region o.span

/-- Whether the change is in place; a marker that cannot be looked for is not. -/
def present (m : Marker) (d : Document) : Bool :=
  match m.evaluate d with
  | .ok held => held
  | .error _ => false

end Marker

end Graft
