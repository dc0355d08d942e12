import Graft.Command.Arguments
import Graft.Command.Failure
import Graft.Command.Style
import Graft.RuleFile.Load

/-!
# Setting

What a command works on: the workspace, and the rule files in the order they are used.  All rule
files are loaded before anything else happens, and the first that cannot be used ends the command.
-/

namespace Graft

/-- The variables that a command looks at. -/
structure Environment where
  workspace   : Option String := none
  forceColour : Option String := none
  deriving DecidableEq, Repr

namespace Environment

/-- The variable that names the workspace. -/
def workspaceVariable : String := "ANCHOR_PATCHER_WORKSPACE"

/-- The variable that asks for colours where there is no terminal. -/
def colourVariable : String := "CLICOLOR_FORCE"

/-- Styles are shown if they are asked for, with anything but a zero. -/
def showsStyle (e : Environment) : Bool := e.forceColour.any (· != "0")

end Environment

/-- What a command prints, and its exit code. -/
structure Output where
  out  : String := ""
  err  : String := ""
  code : Nat := 0
  deriving DecidableEq, Repr

namespace Output

/-- The end of a command that gives up. -/
def ofFailure (f : Failure) : Output := ⟨"", f.text, 1⟩

/-- One output after another; the code is that of the second. -/
def append (a b : Output) : Output := ⟨a.out ++ b.out, a.err ++ b.err, b.code⟩

instance : Append Output := ⟨append⟩

end Output

namespace RuleSource

variable {m : Type → Type} [Monad m] [FileSystem m]

/-- The directory of the workspace: the one that is given, or the one that the environment names if
it exists, or the current one. -/
def root (s : RuleSource) (e : Environment) : ExceptT Failure m Location :=
  match s.workspace with
  | some p =>
      ExceptT.adapt (fun why => ⟨s!"workspace not found: {p}", [why.message]⟩) (canonicalize p)
  | none   =>
      let here : ExceptT Failure m Location :=
        ExceptT.adapt (fun why => ⟨why.message, []⟩) (canonicalize ⟨['.']⟩)
      match e.workspace with
      | some v => tryCatch (ExceptT.adapt (fun why => ⟨why.message, []⟩)
          (canonicalize (.ofString v))) fun _ => here
      | none   => here

/-- What is said about an environment that names a workspace that does not exist. -/
def warning (s : RuleSource) (e : Environment) : m String := do
  match s.workspace, e.workspace with
  | none, some v =>
      match ← (canonicalize (.ofString v) : ExceptT OsError m Location).run with
      | .ok _    => return ""
      | .error _ =>
          let text := s!"Warning: {Environment.workspaceVariable} is set but path doesn't exist: {v}"
          return (Style.coloured .yellow).paint e.showsStyle text ++ "\n"
  | _, _ => return ""

/-- What stands after the last dot of a name that does not start with it. -/
def extension? (name : Text) : Option Text :=
  match name.reverse.span (· != '.') with
  | (ending, _ :: _ :: _) => some ending.reverse
  | _                     => none

/-- The rule files of a workspace, by name. -/
def discover (root : Location) : ExceptT Failure m (List Path) := do
  let dir := Path.ofNames (root ++ ["patches".toList])
  if ← ExceptT.lift (isDirectory dir) then
    let names ← ExceptT.adapt (fun why => (⟨why.message, []⟩ : Failure)) (regularFiles dir)
    match (names.filter (extension? · == some "toml".toList)).mergeSort (fun a b => !b.lex a) with
    | []    => throw ⟨s!"No .toml rule files found in {dir}", []⟩
    | names => return names.map fun n => dir.join ⟨n⟩
  else throw ⟨s!"No rule files given and {dir} does not exist (use --rules)", []⟩

/-- The rule files: those that are given, or those of the workspace. -/
def load (s : RuleSource) (root : Location) : ExceptT Failure m (List RuleFile) := do
  let paths ← if s.rules.isEmpty then discover root else pure s.rules
  paths.mapM fun p => ExceptT.adapt Failure.ofRuleFile (RuleFile.load p)

end RuleSource

/-- How a rule file is named in what is printed. -/
def RuleFile.label (f : RuleFile) : String :=
  match f.path with
  | some p => toString p
  | none   => f.metadata.name

/-- The target of a rule file: the one that is given, or its own. -/
def RuleFile.target {m : Type → Type} [Monad m] [FileSystem m] (f : RuleFile) (w : Workspace)
    (given : Option Path) : ExceptT Failure m Location := do
  match given <|> f.metadata.target.map Path.ofString with
  | some p => ExceptT.adapt Failure.ofWorkspace (w.resolve p)
  | none   => throw ⟨s!"no target given and {f.label} has no meta.target", []⟩

end Graft
