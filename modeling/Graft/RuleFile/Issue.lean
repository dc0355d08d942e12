import Graft.RuleFile.Definition

/-!
# Issues

What is wrong with a definition that has the right shape: names that are blank or used twice,
patterns and texts that are missing, and parts that do not go together.  All issues are reported,
in the order of the file (`Definition.issues`).
-/

namespace Graft

/-- Parts that do not go together. -/
inductive Clash where
  | duplicateChange
  | noRules
  | duplicateRule (rule : String)
  | captureOfLiteral (rule : String)
  deriving DecidableEq, Repr

def Clash.message : Clash → String
  | .duplicateChange    => "duplicate change id"
  | .noRules            => "change has no rules"
  | .duplicateRule r    => s!"duplicate rule id '{r}'"
  | .captureOfLiteral r => s!"rule '{r}': replace-capture requires a regex anchor"

/-- Something wrong, and the change and rule it is in, as far as they have names. -/
inductive Issue where
  | noChanges
  | missing (change rule : Option String) (field : String)
  | clash (change : Option String) (what : Clash)
  deriving DecidableEq, Repr

def Issue.message : Issue → String
  | .noChanges => "rule file contains no changes"
  | .missing (some c) (some r) f => s!"change '{c}' rule '{r}' missing required field '{f}'"
  | .missing (some c) none f     => s!"change '{c}' missing required field '{f}'"
  | .missing none _ f            => s!"change missing required field '{f}'"
  | .clash (some c) what         => s!"change '{c}' has invalid configuration: {what.message}"
  | .clash none what             => s!"invalid rule configuration: {what.message}"

/-- All issues, each on a line. -/
def Issue.listing (issues : List Issue) : String := "\n".intercalate (issues.map Issue.message)

/-- Whether a name is blank. -/
def blankName (name : String) : Bool := Text.isBlank name.toList

/-- A name, unless it is blank. -/
def properName? (name : String) : Option String := if blankName name then none else some name

/-- `issue` if `wrong` holds. -/
def issueIf (wrong : Bool) (issue : Issue) : List Issue := if wrong then [issue] else []

def Transform.text : Transform → Text
  | .replace t | .replaceCapture _ t | .insertBefore t | .insertAfter t => t
  | .insertAfterBlock t _ | .insertIntoBlock t _                        => t

/-- Whether the transform inserts whole lines. -/
def Transform.insertsLines : Transform → Bool
  | .replace _ | .replaceCapture _ _ => false
  | _                                => true

namespace RuleDefinition

/-- The issues of a rule; `seen` are the names of the rules before it. -/
def issues (change : Option String) (seen : List String) (r : RuleDefinition) : List Issue :=
  let rule := properName? r.id
  (if blankName r.id then [.missing change none "rules.id"]
    else issueIf (seen.contains r.id) (.clash change (.duplicateRule r.id))) ++
  issueIf r.anchor.pattern.isEmpty (.missing change rule "rules.anchor.pattern") ++
  issueIf (r.transform.insertsLines && Text.isBlank r.transform.text)
    (.missing change rule "rules.transform.text") ++
  match r.transform with
  | .replaceCapture capture _ =>
      issueIf (blankName capture) (.missing change rule "rules.transform.capture") ++
      issueIf (r.anchor.kind == .literal) (.clash change (.captureOfLiteral r.id))
  | _ => []

/-- The issues of rules in order. -/
def allIssues (change : Option String) (seen : List String) : List RuleDefinition → List Issue
  | []      => []
  | r :: rs => r.issues change seen ++ allIssues change (r.id :: seen) rs

end RuleDefinition

namespace ChangeDefinition

/-- The issues of a change; `seen` are the names of the changes before it. -/
def issues (seen : List String) (c : ChangeDefinition) : List Issue :=
  let change := properName? c.id
  (if blankName c.id then [.missing none none "id"]
    else issueIf (seen.contains c.id) (.clash change .duplicateChange)) ++
  issueIf c.marker.identifier.pattern.isEmpty (.missing change none "marker.identifier.pattern") ++
  issueIf (c.marker.context.any (·.pattern.isEmpty))
    (.missing change none "marker.context.pattern") ++
  issueIf (c.marker.scope.any (·.pattern.isEmpty)) (.missing change none "marker.scope.pattern") ++
  issueIf c.rules.isEmpty (.clash change .noRules) ++
  RuleDefinition.allIssues change [] c.rules

/-- The issues of changes in order. -/
def allIssues (seen : List String) : List ChangeDefinition → List Issue
  | []      => []
  | c :: cs => c.issues seen ++ allIssues (c.id :: seen) cs

end ChangeDefinition

/-- Everything wrong with a definition. -/
def Definition.issues (d : Definition) : List Issue :=
  issueIf d.changes.isEmpty .noChanges ++ ChangeDefinition.allIssues [] d.changes

end Graft
