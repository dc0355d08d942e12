import Graft.Plan
import Graft.Store

/-!
# Patch

Changes applied to a text of a store: one text is read, the changes are planned, and the result is
written if some change was applied.  What is skipped or in place already is not written, so a file
that needs nothing is not touched.
-/

namespace Graft

/-- What a list of changes did to one file. -/
structure FileReport where
  path    : Path
  before  : Text
  after   : Text
  reports : List Report
  written : Bool
  deriving DecidableEq

namespace FileReport

def changed (r : FileReport) : Bool := r.before != r.after

/-- Whether some change was applied. -/
def anyApplied (r : FileReport) : Bool := r.reports.any (·.outcome.isApplied)

end FileReport

variable {m : Type → Type} [Monad m] [TextStore m]

/-- Applies one change to the text at a path. -/
def patch (path : Path) (c : Change) : ExceptT StoreError m Report := do
  let text ← readText path
  let (d, report) := c.plan ⟨text⟩
  if report.outcome.isApplied then writeText path d.text
  return report

/-- What the changes would do to the text at a path. -/
def check (path : Path) (cs : List Change) : ExceptT StoreError m FileReport := do
  let text ← readText path
  let (d, reports) := planAll ⟨text⟩ cs
  return ⟨path, text, d.text, reports, false⟩

/-- Applies changes to the text at a path with one reading and at most one writing. -/
def patchAll (path : Path) (cs : List Change) : ExceptT StoreError m FileReport := do
  let report ← check path cs
  if report.anyApplied then
    writeText path report.after
    return { report with written := true }
  else return report

end Graft
