import Graft.FileSystem
import Graft.RuleFile

/-!
# Loading rule files

Rule files that are read from a file system.  An error names the file it is about.
-/

namespace Graft

variable {m : Type → Type} [Monad m] [FileSystem m]

/-- The text of a rule file. -/
def readRules (p : Path) : ExceptT RuleFileError m Text :=
  ExceptT.adapt (.unreadable p) (readString p)

/-- The definition in a file. -/
def Definition.load (p : Path) : ExceptT RuleFileError m Definition := do
  let text ← readRules p
  ExceptT.mk (pure ((Definition.ofText text).mapError (·.withPath p)))

/-- The rule file at a path. -/
def RuleFile.load (p : Path) : ExceptT RuleFileError m RuleFile := do
  let text ← readRules p
  match RuleFile.ofText text with
  | .ok f    => return { f with path := p }
  | .error e => throw (e.withPath p)

end Graft
