import Graft.Command.Setting
import Graft.Patch

/-!
# Status

What applying rule files would do, told change by change, without a write (`statusAll`).
-/

namespace Graft

/-- What would become of a change. -/
structure StatusEntry where
  rules   : String
  target  : Path
  change  : String
  outcome : Outcome
  deriving DecidableEq, Repr

section

variable {m : Type → Type} [Monad m] [FileSystem m]

/-- What a rule file would do to its target. -/
def RuleFile.status (w : Workspace) (target : Option Path) (f : RuleFile) :
    ExceptT Failure m (List StatusEntry) := do
  let path := Path.ofNames (← f.target w target)
  let report ← ExceptT.adapt
    (fun why => (Failure.ofStore why).under s!"checking {f.label}") (check path f.changes)
  return report.reports.map fun c => ⟨f.label, report.path, c.change, c.outcome⟩

/-- What rule files would do, each on the files as they are. -/
def statusAll (w : Workspace) (target : Option Path) :
    List RuleFile → ExceptT Failure m (List StatusEntry)
  | []      => return []
  | f :: fs => do
      let entries ← f.status w target
      return entries ++ (← statusAll w target fs)

end

namespace StatusEntry

/-- A text between quotes; quotes, backslashes and control characters are escaped. -/
def jsonText (s : String) : String :=
  let hex (n : Nat) := String.ofList [Nat.digitChar (n / 16), Nat.digitChar (n % 16)]
  let escaped (c : Char) : String :=
    match c with
    | '"'    => "\\\""
    | '\\'   => "\\\\"
    | '\n'   => "\\n"
    | '\r'   => "\\r"
    | '\t'   => "\\t"
    | '\x08' => "\\b"
    | '\x0c' => "\\f"
    | c      => if c.toNat < 0x20 then "\\u00" ++ hex c.toNat else String.ofList [c]
  "\"" ++ String.join (s.toList.map escaped) ++ "\""

/-- The fields of an entry in the order they are written. -/
def fields (e : StatusEntry) : List (String × String) :=
  [("rules", e.rules), ("target", toString e.target), ("change", e.change)] ++
    match e.outcome with
    | .applied rule   => [("outcome", "applied"), ("rule", rule)]
    | .alreadyApplied => [("outcome", "already-applied")]
    | .skipped        => [("outcome", "skipped")]

def json (e : StatusEntry) : String :=
  let fields := e.fields.map fun (k, v) => s!"    {jsonText k}: {jsonText v}"
  "  \x7b\n" ++ ",\n".intercalate fields ++ "\n  \x7d"

/-- Entries as a list of objects. -/
def jsonList (es : List StatusEntry) : String :=
  if es.isEmpty then "[]\n" else "[\n" ++ ",\n".intercalate (es.map json) ++ "\n]\n"

/-- Entries under a heading, as they are printed; nothing when there are none. -/
def group (styled : Bool) (colour : Colour) (mark title : String)
    (es : List StatusEntry) (detail : StatusEntry → String) : String :=
  if es.isEmpty then ""
  else
    let lines := es.map fun e => s!"  - {e.change} ({detail e})\n"
    s!"{(Style.coloured colour).paint styled mark} {(Style.strong colour).paint styled title} " ++
      s!"({es.length} changes)\n" ++ String.join lines ++ "\n"

/-- Entries by outcome, as they are printed. -/
def report (styled : Bool) (root : Location) (es : List StatusEntry) : String :=
  let pending (e : StatusEntry) : String :=
    match e.outcome with
    | .applied rule => Style.dimmed.paint styled s!"rule {rule} would apply"
    | _             => ""
  Style.bold.paint styled "Patch Status Report" ++ s!"\nWorkspace: {Path.ofNames root}\n\n" ++
    group styled .green "✓" "APPLIED" (es.filter (·.outcome == .alreadyApplied))
      (fun e => toString e.target) ++
    group styled .yellow "⊙" "NOT APPLIED" (es.filter (·.outcome.isApplied)) pending ++
    group styled .cyan "⊘" "SKIPPED" (es.filter (·.outcome == .skipped))
      (fun _ => Style.dimmed.paint styled "no rule matches")

end StatusEntry

end Graft
