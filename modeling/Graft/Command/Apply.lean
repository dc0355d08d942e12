import Graft.Command.Setting
import Graft.Diff
import Graft.Patch

/-!
# Apply

Rule files applied one after another.  A file that cannot be read or written counts all changes of
its rule file as failed, and the others go on (`applyAll`); a rule file without a target ends the
command.  What is printed is made from what happened (`Progress.output`).
-/

namespace Graft

/-- What one rule file did to its target. -/
structure FileRun where
  file   : RuleFile
  result : Except StoreError FileReport

/-- What rule files did, and the one that ended the command, if any. -/
structure Progress where
  runs    : List FileRun
  stopped : Option (RuleFile × Failure)

section

variable {m : Type → Type} [Monad m] [FileSystem m]

/-- Applies a rule file to its target, or only looks at what that would do. -/
def RuleFile.run (w : Workspace) (target : Option Path) (dryRun : Bool) (f : RuleFile) :
    ExceptT Failure m FileRun := do
  let path := Path.ofNames (← f.target w target)
  let act : ExceptT StoreError m FileReport :=
    if dryRun then check path f.changes else patchAll path f.changes
  return ⟨f, ← ExceptT.lift act.run⟩

/-- Applies rule files in their order, up to one that has no target. -/
def applyAll (w : Workspace) (target : Option Path) (dryRun : Bool) : List RuleFile → m Progress
  | []      => return ⟨[], none⟩
  | f :: fs => do
      match ← (f.run w target dryRun).run with
      | .error why => return ⟨[], some (f, why)⟩
      | .ok run    =>
          let rest ← applyAll w target dryRun fs
          return { rest with runs := run :: rest.runs }

end

/-- How many changes ended in which way. -/
structure Totals where
  applied        : Nat := 0
  alreadyApplied : Nat := 0
  skipped        : Nat := 0
  failed         : Nat := 0
  deriving DecidableEq, Repr

namespace Totals

def add (a b : Totals) : Totals :=
  ⟨a.applied + b.applied, a.alreadyApplied + b.alreadyApplied, a.skipped + b.skipped,
    a.failed + b.failed⟩

def ofOutcome : Outcome → Totals
  | .applied _      => ⟨1, 0, 0, 0⟩
  | .alreadyApplied => ⟨0, 1, 0, 0⟩
  | .skipped        => ⟨0, 0, 1, 0⟩

def ofRun (r : FileRun) : Totals :=
  match r.result with
  | .ok report => (report.reports.map fun c => ofOutcome c.outcome).foldr add {}
  | .error _   => ⟨0, 0, 0, r.file.changes.length⟩

def ofRuns (rs : List FileRun) : Totals := (rs.map ofRun).foldr add {}

/-- The exit code: one if something failed. -/
def code (t : Totals) : Nat := if 0 < t.failed then 1 else 0

/-- The summary, as it is printed. -/
def summary (t : Totals) (styled : Bool) : String :=
  let line (c : Colour) (n : Nat) (what : String) :=
    s!"  {(Style.coloured c).paint styled (toString n)} {what}\n"
  Style.bold.paint styled "Summary:" ++ "\n" ++ line .green t.applied "applied" ++
    line .yellow t.alreadyApplied "already applied" ++ line .cyan t.skipped "skipped" ++
    line .red t.failed "failed"

end Totals

/-- The rules that a change tried in vain, as they are printed. -/
def Report.missedText (styled : Bool) (r : Report) : String :=
  let line (a : Attempt) : String :=
    match a.result with
    | .missed why => "    - " ++ Style.dimmed.paint styled s!"{a.rule}: {why.message}" ++ "\n"
    | .applied    => ""
  String.join (r.attempts.map line)

/-- What became of a change, as it is printed. -/
def Report.text (styled dryRun : Bool) (file : Path) (r : Report) : String :=
  let mark (c : Colour) (s : String) := (Style.coloured c).paint styled s
  match r.outcome with
  | .applied rule   =>
      let verb := if dryRun then "Would apply" else "Applied"
      mark .green "✓" ++ s!" {r.change}: {verb} (rule {rule}) to {file}\n"
  | .alreadyApplied => mark .yellow "⊙" ++ s!" {r.change}: Already applied to {file}\n"
  | .skipped        =>
      mark .cyan "⊘" ++ s!" {r.change}: Skipped (no rule matched)\n" ++ r.missedText styled

/-- A line of a diff, as it is printed; a line without a terminator is set off by an empty line. -/
def diffLine (styled : Bool) (kind : HunkKind) (line : Text) : String :=
  let closing := if Diff.terminated line then "" else "\n"
  let body := String.ofList line ++ closing
  let shown := match kind with
    | .removed => (Style.coloured .red).paint styled ("-" ++ body)
    | .added   => (Style.coloured .green).paint styled ("+" ++ body)
    | .same    => " " ++ body
  shown ++ closing

/-- How a file changed, line by line, as it is printed. -/
def FileReport.diffText (styled : Bool) (r : FileReport) : String :=
  let head (s : String) := Style.dimmed.paint styled s ++ "\n"
  let lines := Diff.changes (Diff.lines r.before) (Diff.lines r.after)
  "\n" ++ head s!"--- {r.path} (original)" ++ head s!"+++ {r.path} (patched)" ++
    String.join (lines.map fun (kind, line) => diffLine styled kind line)

/-- How the use of a rule file is announced. -/
def RuleFile.heading (f : RuleFile) : String := s!"Loading rules from {f.label}...\n"

/-- What one rule file did, as it is printed. -/
def FileRun.output (styled dryRun showDiff : Bool) (r : FileRun) : Output :=
  match r.result with
  | .ok report =>
      let changes := report.reports.map (Report.text styled dryRun report.path)
      let diff := if showDiff && report.changed then report.diffText styled else ""
      ⟨r.file.heading ++ String.join changes ++ diff ++ "\n", "", 0⟩
  | .error why =>
      let mark := (Style.coloured .red).paint styled "✗"
      ⟨r.file.heading ++ "\n", s!"{mark} {r.file.label}: Error - {why.message}\n", 0⟩

/-- What rule files did, as it is printed: the summary comes only when all were used. -/
def Progress.output (styled dryRun showDiff : Bool) (p : Progress) : Output :=
  let runs := (p.runs.map (FileRun.output styled dryRun showDiff)).foldl (· ++ ·) {}
  match p.stopped with
  | some (f, why) => runs ++ ⟨f.heading, "", 0⟩ ++ Output.ofFailure why
  | none          =>
      let totals := Totals.ofRuns p.runs
      runs ++ ⟨totals.summary styled, "", totals.code⟩

/-- What is printed before the first rule file. -/
def applyBanner (styled dryRun : Bool) (root : Location) : String :=
  let note := if dryRun then
      (Style.coloured .cyan).paint styled "[DRY RUN - showing what would be applied]" ++ "\n"
    else ""
  s!"Workspace: {Path.ofNames root}\n{note}\n"

end Graft
