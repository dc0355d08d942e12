import Graft.Path
import Graft.RuleFile.Issue
import Graft.RuleFile.Shape
import Graft.Store
import Graft.Toml.Reader

/-!
# Rule files

A rule file is TOML text.  It has to be well-formed, to have the right shape, to have no issues, and
its patterns have to be usable; the first of these that fails is the error (`RuleFile.ofText`).
-/

namespace Graft

/-- Why a rule file cannot be used. -/
inductive RuleFileError where
  | unreadable (path : Path) (why : OsError)
  | malformed (path : Option Path) (why : Toml.SyntaxError)
  | misshapen (path : Option Path) (why : ShapeError)
  | invalid (path : Option Path) (issues : List Issue)
  | uncompilable (path : Option Path) (why : CompileFailure)
  deriving Repr

namespace RuleFileError

/-- The error with the path of its file, if it has none. -/
def withPath (p : Path) : RuleFileError → RuleFileError
  | .malformed none why    => .malformed p why
  | .misshapen none why    => .misshapen p why
  | .invalid none issues   => .invalid p issues
  | .uncompilable none why => .uncompilable p why
  | e                      => e

/-- The path of an error between brackets, with a blank before it. -/
def bracketed : Option Path → String
  | some p => s!" ({p})"
  | none   => ""

/-- What an error comes from, in words. -/
def cause : RuleFileError → String
  | .unreadable _ why   => why.message
  | .malformed _ why    => s!"TOML parse error: {why.message}"
  | .misshapen _ why    => s!"TOML parse error: {why.message}"
  | .invalid _ issues   => Issue.listing issues
  | .uncompilable _ why => why.message

def message (e : RuleFileError) : String :=
  match e with
  | .unreadable p _          => s!"failed to read rule file {p}: {e.cause}"
  | .malformed p _           => s!"failed to parse rule file TOML{bracketed p}: {e.cause}"
  | .misshapen p _           => s!"failed to parse rule file TOML{bracketed p}: {e.cause}"
  | .invalid p _             => s!"invalid rule file{bracketed p}: {e.cause}"
  | .uncompilable (some p) _ => s!"rule file {p} does not compile: {e.cause}"
  | .uncompilable none _     => s!"rule file does not compile: {e.cause}"

end RuleFileError

/-- A rule file that can be used. -/
structure RuleFile where
  path     : Option Path
  metadata : Metadata
  changes  : List Change
  deriving DecidableEq, Repr

/-- The definition that a text writes, if it has no issues. -/
def Definition.ofText (t : Text) : Except RuleFileError Definition :=
  match Toml.read t with
  | .error why => .error (.malformed none why)
  | .ok es =>
      match Shape.definition (.table es) with
      | .error why => .error (.misshapen none why)
      | .ok d      => if d.issues.isEmpty then .ok d else .error (.invalid none d.issues)

namespace RuleFile

/-- The rule file of a definition. -/
def ofDefinition (d : Definition) : Except RuleFileError RuleFile :=
  match d.compile with
  | .error why   => .error (.uncompilable none why)
  | .ok changes  => .ok ⟨none, d.metadata, changes⟩

/-- The rule file that a text writes. -/
def ofText (t : Text) : Except RuleFileError RuleFile := (Definition.ofText t).bind ofDefinition

end RuleFile

end Graft
