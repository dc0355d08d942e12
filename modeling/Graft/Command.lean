import Graft.Command.Apply
import Graft.Command.Listing
import Graft.Command.Status

/-!
# Command

The commands as a whole: from the words of a command line to what is printed and the exit code.
-/

namespace Graft

namespace Command

def programName : String := "anchor-patcher"

def version : String := "0.1.0"

def usage : String :=
  s!"Usage: {programName} [OPTIONS] <COMMAND>\n\nCommands:\n" ++
  "  apply   Apply rule files to a target\n" ++
  "  status  Report what apply would do, without writing\n" ++
  "  list    List rule files with their changes and rules\n"

def source : Command → RuleSource
  | .apply _ s _ _ | .status _ s _ | .list s => s

variable {m : Type → Type} [Monad m] [FileSystem m]

/-- What a command does once its workspace and its rule files are known. -/
def perform (styled : Bool) (root : Location) (fs : List RuleFile) (c : Command) :
    ExceptT Failure m Output := do
  match c with
  | .apply target _ dryRun showDiff =>
      let progress ← ExceptT.lift (applyAll ⟨root⟩ target dryRun fs)
      return ⟨applyBanner styled dryRun root, "", 0⟩ ++ progress.output styled dryRun showDiff
  | .status target _ json =>
      let entries ← statusAll ⟨root⟩ target fs
      let out := if json then StatusEntry.jsonList entries else StatusEntry.report styled root entries
      return ⟨out, "", 0⟩
  | .list _ => return ⟨String.join (fs.map (RuleFile.listing styled)), "", 0⟩

/-- Runs a command. -/
def run (e : Environment) (c : Command) : m Output := do
  let warning ← c.source.warning e
  let act : ExceptT Failure m Output := do
    let root ← c.source.root e
    let files ← c.source.load root
    c.perform e.showsStyle root files
  match ← act.run with
  | .ok output => return ⟨"", warning, 0⟩ ++ output
  | .error why => return ⟨"", warning, 0⟩ ++ Output.ofFailure why

/-- Runs the command that words ask for. -/
def runWords (e : Environment) (words : List Text) : m Output := do
  match ofWords words with
  | .ok c                => c.run e
  | .error .help         => return ⟨usage, "", 0⟩
  | .error .version      => return ⟨s!"{programName} {version}\n", "", 0⟩
  | .error (.usage why)  => return ⟨"", s!"error: {why.message}\n\n{usage}", 2⟩

end Command

end Graft
