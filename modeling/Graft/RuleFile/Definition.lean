import Graft.Rule

/-!
# Definitions

What a rule file says, before its patterns are read: plain data with every default filled in.
Compiling reads the patterns in their order and stops at the first that fails
(`ChangeDefinition.compile`).
-/

namespace Graft

inductive PatternKind where
  | literal
  | regex
  deriving DecidableEq, Repr

/-- A landmark as it is written. -/
structure PatternDefinition where
  kind    : PatternKind
  pattern : String
  role    : Role
  deriving DecidableEq, Repr

structure MarkerDefinition where
  identifier : PatternDefinition
  context    : List PatternDefinition
  window     : Nat
  scope      : Option PatternDefinition
  deriving DecidableEq, Repr

structure RuleDefinition where
  id           : String
  anchor       : PatternDefinition
  contextLines : Nat
  matchIndent  : Bool
  transform    : Transform
  deriving DecidableEq, Repr

structure ChangeDefinition where
  id          : String
  description : Option String
  marker      : MarkerDefinition
  rules       : List RuleDefinition
  deriving DecidableEq, Repr

/-- What a rule file says about itself; `target` is the file to change, from the workspace on. -/
structure Metadata where
  name        : String := ""
  description : Option String := none
  target      : Option String := none
  deriving DecidableEq, Repr

/-- The contents of a rule file. -/
structure Definition where
  metadata : Metadata
  changes  : List ChangeDefinition
  deriving DecidableEq, Repr

/-- The part of a definition that cannot be used, and why. -/
structure CompileFailure where
  change : String
  rule   : Option String
  why    : AnchorError
  deriving DecidableEq, Repr

def CompileFailure.message (f : CompileFailure) : String :=
  match f.rule with
  | some rule => s!"change '{f.change}' rule '{rule}': {f.why.message}"
  | none      => s!"change '{f.change}': {f.why.message}"

def PatternDefinition.compile (p : PatternDefinition) : Except AnchorError Anchor :=
  match p.kind with
  | .literal => Anchor.literal p.pattern.toList p.role
  | .regex   => Anchor.regex p.pattern.toList p.role

/-- The marker of a definition: its identifier is read first, then its context, then its scope. -/
def MarkerDefinition.compile (m : MarkerDefinition) : Except AnchorError Marker := do
  let identifier ← m.identifier.compile
  let context ← m.context.mapM PatternDefinition.compile
  let scope ← m.scope.mapM PatternDefinition.compile
  return ⟨identifier, context, m.window, scope⟩

/-- The rule of a definition, its reference to a group checked. -/
def RuleDefinition.compile (r : RuleDefinition) : Except AnchorError Rule := do
  let anchor ← r.anchor.compile
  let rule : Rule := ⟨r.id, anchor, r.contextLines, r.matchIndent, r.transform⟩
  rule.check
  return rule

namespace ChangeDefinition

def compileRule (c : ChangeDefinition) (r : RuleDefinition) : Except CompileFailure Rule :=
  r.compile.mapError fun why => ⟨c.id, some r.id, why⟩

/-- The change of a definition: its marker is read first, then its rules. -/
def compile (c : ChangeDefinition) : Except CompileFailure Change := do
  let marker ← c.marker.compile.mapError fun why => ⟨c.id, none, why⟩
  let rules ← c.rules.mapM c.compileRule
  (Change.ofRules c.id marker rules).mapError fun why => ⟨c.id, none, why⟩

end ChangeDefinition

/-- The changes of a rule file. -/
def Definition.compile (d : Definition) : Except CompileFailure (List Change) :=
  d.changes.mapM ChangeDefinition.compile

end Graft
