import Graft.Marker
import Graft.Transform

/-!
# Rule

One way to make a change: an anchor, and what to do where it stands.  An attempt gives a new
document of the same balance, or says why there is none, and never half an edit (`Rule.attempt`).
-/

namespace Graft

/-- One way to make a change.  The transform may look at `contextLines` lines around the match, and
inserted lines are indented like their surroundings if `matchIndent` says so. -/
structure Rule where
  id           : String
  anchor       : Anchor
  contextLines : Nat
  matchIndent  : Bool
  transform    : Transform
  deriving DecidableEq, Repr

namespace Rule

/-- Whether the transform refers only to a group that the anchor has. -/
def check (r : Rule) : Except AnchorError Unit :=
  match r.transform with
  | .replaceCapture capture _ => r.anchor.requireCapture capture
  | _                         => .ok ()

/-- The edit of the rule for a match in `d`. -/
def plan (r : Rule) (d : Document) (m : Match) : Except Miss Edit :=
  r.transform.plan d m (d.contextWindow m.span r.contextLines) r.matchIndent

/-- The document after an edit that changes something and keeps the balance. -/
def commit (d : Document) (e : Edit) : Except Miss Document :=
  if e.isNoop d then .error .noChange
  else
    match e.apply d with
    | .error why => .error (.edit why)
    | .ok d'     => if Balance.of d'.text = Balance.of d.text then .ok d' else .error .unbalanced

/-- The document with the rule applied to the leftmost match. -/
def attempt (r : Rule) (d : Document) : Except Miss Document :=
  match r.anchor.find d with
  | none   => .error .noAnchor
  | some m => (r.plan d m).bind (commit d)

end Rule

/-- A change to one file: what tells that it is done, and the rules that can do it, the preferred
one first. -/
structure Change where
  id     : String
  marker : Marker
  rules  : List Rule
  deriving DecidableEq, Repr

/-- Whether every rule of a list refers only to groups that its anchor has. -/
def Rule.checkAll : List Rule → Except AnchorError Unit
  | []      => .ok ()
  | r :: rs => r.check.bind fun _ => checkAll rs

/-- A change whose rules have been checked. -/
def Change.ofRules (id : String) (marker : Marker) (rules : List Rule) :
    Except AnchorError Change :=
  (Rule.checkAll rules).map fun _ => ⟨id, marker, rules⟩

end Graft
