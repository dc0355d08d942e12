import Graft.Command
import Graft.Proofs.DryRun

/-!
# Commands that give up

What an application leaves of the files when it gives up.  All rule files are loaded before a target
is looked for, so a rule file that cannot be used leaves everything as it was.  Targets are looked
for one at a time, so a target that is refused leaves what the rule files before it have written.

* `Command.run_apply`: an application as a function of the tree it starts from.
* `applyAll_refused`: a target that is refused ends the command with the tree that the rule files
  before it leave.
* `applyAll_bytes`: what a file holds at the end is what was written there last, and what it held at
  the start if nothing was.
* `apply_aborted`: so a command that gives up changes no file exactly when what was written last to
  each file is what it held before.  `addThenUntargeted_touches` is a command that changes one.
-/

namespace Graft

/-! ### Looking for rule files -/

theorem quiet_canonicalize (p : Path) :
    Quiet (canonicalize p : ExceptT OsError (StateM FileTree) Location) := fun _ => rfl

namespace RuleFile

theorem quiet_load (p : Path) :
    Quiet (RuleFile.load p : ExceptT RuleFileError (StateM FileTree) RuleFile) := by
  refine Quiet.bind (fun _ => rfl) fun text => ?_
  intro t
  cases RuleFile.ofText text <;> rfl

/-- The rule file at a path, in a tree. -/
def loadIn (p : Path) (t : FileTree) : Except RuleFileError RuleFile :=
  ((RuleFile.load p : ExceptT RuleFileError (StateM FileTree) RuleFile) t).1

end RuleFile

namespace RuleSource

theorem quiet_root (s : RuleSource) (e : Environment) :
    Quiet (s.root e : ExceptT Failure (StateM FileTree) Location) := by
  unfold root
  cases s.workspace with
  | some p => exact (quiet_canonicalize p).adapt _
  | none =>
      have hhere := (quiet_canonicalize ⟨['.']⟩).adapt fun why => (⟨why.message, []⟩ : Failure)
      cases e.workspace with
      | none => exact hhere
      | some v => exact ((quiet_canonicalize (.ofString v)).adapt _).tryCatch fun _ => hhere

theorem quiet_discover (root : Location) :
    Quiet (discover root : ExceptT Failure (StateM FileTree) (List Path)) := by
  refine Quiet.bind (fun _ => rfl) fun found => ?_
  cases found with
  | false => exact fun _ => rfl
  | true =>
      refine Quiet.bind (fun _ => rfl) fun names => ?_
      split
      · exact fun _ => rfl
      · exact fun _ => rfl

theorem warning_run (s : RuleSource) (e : Environment) (t : FileTree) :
    ((s.warning e : StateM FileTree String) t).2 = t := by
  unfold warning
  cases s.workspace with
  | some p => rfl
  | none =>
      cases e.workspace with
      | none => rfl
      | some v =>
          simp only [bind, StateT.bind, ExceptT.run, run_canonicalize]
          cases t.canonicalize (.ofString v) <;> rfl

/-- The directory of the workspace, in a tree. -/
def rootIn (s : RuleSource) (e : Environment) (t : FileTree) : Except Failure Location :=
  ((s.root e : ExceptT Failure (StateM FileTree) Location) t).1

/-- The paths of the rule files, in a tree. -/
def pathsIn (s : RuleSource) (root : Location) (t : FileTree) : Except Failure (List Path) :=
  if s.rules.isEmpty then ((discover root : ExceptT Failure (StateM FileTree) (List Path)) t).1
  else .ok s.rules

/-- The rule files, in a tree. -/
def filesIn (s : RuleSource) (root : Location) (t : FileTree) : Except Failure (List RuleFile) :=
  (s.pathsIn root t).bind fun paths =>
    paths.mapM fun p => (RuleFile.loadIn p t).mapError Failure.ofRuleFile

theorem load_run (s : RuleSource) (root : Location) (t : FileTree) :
    (s.load root : ExceptT Failure (StateM FileTree) (List RuleFile)) t = (s.filesIn root t, t) := by
  have hfiles := Quiet.mapM fun p => (RuleFile.quiet_load p).adapt Failure.ofRuleFile
  unfold load filesIn pathsIn
  by_cases hgiven : s.rules.isEmpty = true
  · simp only [hgiven, if_true, run_bind]
    rw [(quiet_discover root).run]
    cases ((discover root : ExceptT Failure (StateM FileTree) (List Path)) t).1 with
    | error why => rfl
    | ok paths => exact hfiles paths t
  · simp only [hgiven]
    exact hfiles s.rules t

/-- A rule file that cannot be used ends the loading. -/
theorem filesIn_error {s : RuleSource} {root : Location} {t : FileTree} {paths : List Path} {p : Path}
    {why : RuleFileError} (hpaths : s.pathsIn root t = .ok paths) (hp : p ∈ paths)
    (hload : RuleFile.loadIn p t = .error why) : ∃ failure, s.filesIn root t = .error failure := by
  rw [filesIn, hpaths]
  exact mapM_error_of_mem hp (by rw [hload]; rfl)

end RuleSource

/-! ### The command as a function of the tree -/

/-- **An application**, from the words that are said about the workspace to the tree that it
leaves. -/
theorem Command.run_apply (e : Environment) (target : Option Path) (source : RuleSource)
    (dryRun showDiff : Bool) (t : FileTree) :
    (Command.run e (.apply target source dryRun showDiff) : StateM FileTree Output) t =
      let said : Output := ⟨"", ((source.warning e : StateM FileTree String) t).1, 0⟩
      match source.rootIn e t with
      | .error why => (said ++ Output.ofFailure why, t)
      | .ok root   =>
          match source.filesIn root t with
          | .error why => (said ++ Output.ofFailure why, t)
          | .ok files  =>
              let step := (applyAll ⟨root⟩ target dryRun files : StateM FileTree Progress) t
              (said ++ (⟨applyBanner e.showsStyle dryRun root, "", 0⟩ ++
                step.1.output e.showsStyle dryRun showDiff), step.2) := by
  rw [Command.run, run_bindState, run_bindState, RuleSource.warning_run, ExceptT.run, run_bind,
    (RuleSource.quiet_root _ e).run]
  unfold RuleSource.rootIn
  simp only [Command.source]
  cases ((source.root e : ExceptT Failure (StateM FileTree) Location) t).1 with
  | error why => rfl
  | ok root =>
      simp only [andThen, run_bind, RuleSource.load_run]
      cases source.filesIn root t with
      | error why => rfl
      | ok files => rfl

namespace Output

theorem append_assoc (a b c : Output) : a ++ b ++ c = a ++ (b ++ c) := by
  change append (append a b) c = append a (append b c)
  simp [append, String.append_assoc]

/-- The output ends with the words of a failure, and has its exit code. -/
def GivesUp (o : Output) (why : Failure) : Prop := ∃ before : Output, o = before ++ ofFailure why

theorem GivesUp.after {o : Output} {why : Failure} (h : o.GivesUp why) (before : Output) :
    (before ++ o).GivesUp why := by
  obtain ⟨said, rfl⟩ := h
  exact ⟨before ++ said, (append_assoc _ _ _).symm⟩

end Output

theorem Progress.givesUp_output {p : Progress} {f : RuleFile} {why : Failure}
    (h : p.stopped = some (f, why)) (styled dryRun showDiff : Bool) :
    (p.output styled dryRun showDiff).GivesUp why := by
  rw [Progress.output, h]
  exact ⟨_, rfl⟩

/-! ### Targets that are refused -/

variable {w : Workspace} {given : Option Path} {t t' : FileTree} {f : RuleFile}

/-- **A target that is refused** ends the command, with the tree that the rule files before it
leave. -/
theorem applyAll_refused {pre : List RuleFile} {why : Failure} (post : List RuleFile)
    (hpre : ((applyAll w given false pre : StateM FileTree Progress) t).1.stopped = none)
    (hf : f.targetIn w given (treeAfter w given pre t) = .error why) :
    (applyAll w given false (pre ++ f :: post) : StateM FileTree Progress) t =
      (⟨((applyAll w given false pre : StateM FileTree Progress) t).1.runs, some (f, why)⟩,
        treeAfter w given pre t) := by
  induction pre generalizing t with
  | nil =>
      rw [treeAfter_nil] at hf
      rw [List.nil_append, applyAll_cons, RuleFile.run_run, hf]
      rfl
  | cons g pre ih =>
      rw [applyAll_cons] at hpre
      rcases hrun : (g.run w given false : ExceptT Failure (StateM FileTree) FileRun) t with
        ⟨why' | r, t₁⟩
      · rw [hrun] at hpre; cases hpre
      · rw [hrun] at hpre
        rw [treeAfter_cons g pre t hrun] at hf ⊢
        rw [List.cons_append, applyAll_cons, applyAll_cons, hrun]
        simp only [ih hpre hf]

/-! ### What is written -/

/-- The text that a run wrote to a location. -/
def FileRun.wrote? (r : FileRun) (l : Location) : Option Text :=
  match r.result with
  | .ok report => if report.written ∧ report.path.names = l then some report.after else none
  | .error _   => none

/-- The text that runs wrote last to a location. -/
def lastWritten (l : Location) : List FileRun → Option Text
  | []      => none
  | r :: rs => lastWritten l rs <|> r.wrote? l

/-- What a file holds once a text may have been written to it. -/
def holding (x : Option Text) (old : Option ByteArray) : Option ByteArray :=
  (x.map FileTree.encode) <|> old

/-- **What one rule file writes** is what its run tells. -/
theorem run_bytes {r : FileRun}
    (hrun : (f.run w given false : ExceptT Failure (StateM FileTree) FileRun) t = (.ok r, t'))
    (l : Location) : t'.bytesAt? l = holding (r.wrote? l) (t.bytesAt? l) := by
  cases htarget : f.targetIn w given t with
  | error why => rw [RuleFile.run_run, htarget] at hrun; cases hrun
  | ok l₀ =>
      have hplaced := RuleFile.targetIn_placed htarget
      rw [run_patch htarget, patchAll_run run_treeRead, textIn_tree] at hrun
      cases hread : t.readText (Path.ofNames l₀) with
      | error why => rw [hread] at hrun; cases hrun; rfl
      | ok text =>
          simp only [hread, run_treeWrite] at hrun
          by_cases happ : (FileReport.ofPlan (Path.ofNames l₀) f.changes text).anyApplied = true
          · simp only [happ, if_true] at hrun
            cases hwrite : t.write (Path.ofNames l₀)
                (FileTree.encode (FileReport.ofPlan (Path.ofNames l₀) f.changes text).after) with
            | error why => rw [hwrite] at hrun; cases hrun; rfl
            | ok t₁ =>
                rw [hwrite] at hrun
                cases hrun
                obtain ⟨hne, mode, rfl⟩ := FileTree.write_of_placed hplaced hwrite
                simp only [FileTree.bytesAt?_put hne, FileRun.wrote?, Path.names_ofNames hplaced.2,
                  FileReport.ofPlan, true_and]
                by_cases hl : l₀ = l <;> simp [hl, holding]
          · simp only [happ] at hrun
            cases hrun
            rfl

theorem holding_holding (x y : Option Text) (old : Option ByteArray) :
    holding x (holding y old) = holding (x <|> y) old := by
  cases x <;> rfl

theorem tree_of_refused {why : Failure}
    (hrun : (f.run w given false : ExceptT Failure (StateM FileTree) FileRun) t = (.error why, t')) :
    t' = t := by
  rw [RuleFile.run_run] at hrun
  cases htarget : f.targetIn w given t with
  | error why' => rw [htarget] at hrun; cases hrun; rfl
  | ok l => rw [htarget] at hrun; cases hrun

/-- **What rule files leave of a file**: what was written there last, or what it held before. -/
theorem applyAll_bytes (fs : List RuleFile) (t : FileTree) (l : Location) :
    let step := (applyAll w given false fs : StateM FileTree Progress) t
    step.2.bytesAt? l = holding (lastWritten l step.1.runs) (t.bytesAt? l) := by
  induction fs generalizing t with
  | nil => rfl
  | cons f fs ih =>
      rw [applyAll_cons]
      rcases hrun : (f.run w given false : ExceptT Failure (StateM FileTree) FileRun) t with
        ⟨why | r, t₁⟩
      · obtain rfl := tree_of_refused hrun
        rfl
      · have hrest := ih t₁
        simp only at hrest ⊢
        rw [hrest, run_bytes hrun, holding_holding]
        rfl

/-- Files hold what they held exactly when what was written last to each is what it held. -/
theorem applyAll_bytes_eq_iff (fs : List RuleFile) (t : FileTree) :
    let step := (applyAll w given false fs : StateM FileTree Progress) t
    step.2.bytesAt? = t.bytesAt? ↔
      ∀ l x, lastWritten l step.1.runs = some x → t.bytesAt? l = some (FileTree.encode x) := by
  intro step
  have hbytes : ∀ l, step.2.bytesAt? l = holding (lastWritten l step.1.runs) (t.bytesAt? l) :=
    applyAll_bytes fs t
  constructor
  · intro h l x hx
    rw [← h, hbytes, hx]
    rfl
  · intro h
    funext l
    rw [hbytes]
    cases hx : lastWritten l step.1.runs with
    | none => rfl
    | some x => rw [h l x hx]; rfl

/-- **What an application that gives up leaves.**  If a rule file cannot be read, parsed, validated
or compiled, the tree stays as it was.  If the target of `f` is missing or refused, the tree is the
one that the rule files before `f` leave: each file holds the text that was written there last, or
what it held before if nothing was.  So all files hold what they held exactly when the last text
that was written to each is what it held. -/
theorem apply_aborted (e : Environment) (target : Option Path) (source : RuleSource)
    (showDiff : Bool) (t : FileTree) :
    let step := (Command.run e (.apply target source false showDiff) : StateM FileTree Output) t
    (∀ root paths p why, source.rootIn e t = .ok root → source.pathsIn root t = .ok paths →
        p ∈ paths → RuleFile.loadIn p t = .error why →
      (∃ failure, step.1.GivesUp failure) ∧ step.2 = t) ∧
    (∀ root pre f post why, source.rootIn e t = .ok root →
        source.filesIn root t = .ok (pre ++ f :: post) →
      let first := (applyAll ⟨root⟩ target false pre : StateM FileTree Progress) t
      first.1.stopped = none → f.targetIn ⟨root⟩ target first.2 = .error why →
        step.1.GivesUp why ∧ step.2 = first.2 ∧
        (∀ l, step.2.bytesAt? l = holding (lastWritten l first.1.runs) (t.bytesAt? l)) ∧
        (step.2.bytesAt? = t.bytesAt? ↔ ∀ l x, lastWritten l first.1.runs = some x →
          t.bytesAt? l = some (FileTree.encode x))) := by
  intro step
  have hrun := Command.run_apply e target source false showDiff t
  constructor
  · intro root paths p why hroot hpaths hp hload
    obtain ⟨failure, hfiles⟩ := RuleSource.filesIn_error hpaths hp hload
    simp only [hroot, hfiles] at hrun
    simp only [step, hrun]
    exact ⟨⟨failure, _, rfl⟩, trivial⟩
  · intro root pre f post why hroot hfiles first hpre hf
    simp only [hroot, hfiles, applyAll_refused post hpre hf] at hrun
    have htree : step.2 = first.2 := congrArg Prod.snd hrun
    rw [htree]
    refine ⟨?_, rfl, applyAll_bytes pre t, applyAll_bytes_eq_iff pre t⟩
    simp only [step, hrun]
    exact ((Progress.givesUp_output rfl _ _ _).after _).after _

/-! ### A command that changes a file and gives up -/

/-- The text of a change: an `a` is written after an `x`. -/
def additionText : Text :=
  "[[changes]]
  id = 'add'
  marker.identifier = \x7btype = 'literal', pattern = 'a'\x7d
  [[changes.rules]]
  id = 'add'
  anchor = \x7btype = 'literal', pattern = 'x'\x7d
  transform = \x7btype = 'replace', text = 'xa'\x7d".toList

/-- The value that this text writes. -/
def additionValue : Toml.Value :=
  let literal (s : String) := .table [("type", .string "literal"), ("pattern", .string s)]
  let rule := .table [("id", .string "add"), ("anchor", literal "x"),
    ("transform", .table [("type", .string "replace"), ("text", .string "xa")])]
  .array [.table [("id", .string "add"), ("marker", .table [("identifier", literal "a")]),
    ("rules", .array [rule])]]

/-- A heading that names the target `f`. -/
def targetedText : Text := "meta = \x7bname = 'add', target = 'f'\x7d\n".toList

/-- A heading without a target. -/
def untargetedText : Text := "meta = \x7bname = 'stray'\x7d\n".toList

/-- The rule file `1`, which adds to `f`. -/
def adding : RuleFile :=
  ⟨some (.ofNames [['w'], ['1']]), ⟨"add", none, some "f"⟩,
    [Change.replacing "add" ['x'] ['x', 'a'] ['a']]⟩

/-- The rule file `2`, which has no target. -/
def stray : RuleFile := ⟨some (.ofNames [['w'], ['2']]), ⟨"stray", none, none⟩, adding.changes⟩

section

-- the evaluation goes as deep as the text is long
set_option maxRecDepth 20000

theorem read_targeted : Toml.read (targetedText ++ additionText) =
    .ok [("meta", .table [("name", .string "add"), ("target", .string "f")]),
      ("changes", additionValue)] := by
  have htext : additionText = _ := String.toList_ofList
  rewrite [htext]
  cbv

theorem read_untargeted : Toml.read (untargetedText ++ additionText) =
    .ok [("meta", .table [("name", .string "stray")]), ("changes", additionValue)] := by
  have htext : additionText = _ := String.toList_ofList
  rewrite [htext]
  cbv

end

theorem ofText_adding :
    RuleFile.ofText (targetedText ++ additionText) = .ok { adding with path := none } := by
  rw [RuleFile.ofText, Definition.ofText, read_targeted]
  rfl

theorem ofText_stray :
    RuleFile.ofText (untargetedText ++ additionText) = .ok { stray with path := none } := by
  rw [RuleFile.ofText, Definition.ofText, read_untargeted]
  rfl

/-- A workspace that holds a file and two rule files. -/
def ruled (x y : Text) : FileTree where
  entries := oneFile.entries ++ [([['w'], ['1']], .file (FileTree.encode x) 0o644),
    ([['w'], ['2']], .file (FileTree.encode y) 0o644)]

def addThenUntargeted : FileTree :=
  ruled (targetedText ++ additionText) (untargetedText ++ additionText)

/-- That workspace, and its rule files. -/
def bothRules : RuleSource :=
  ⟨some (.ofNames [['w']]), [.ofNames [['w'], ['1']], .ofNames [['w'], ['2']]]⟩

theorem RuleFile.loadIn_of_file {p : Path} {x : Text}
    (hfile : t.readBytes p = .ok (FileTree.encode x)) (hx : RuleFile.ofText x = .ok f) :
    RuleFile.loadIn p t = .ok { f with path := some p } := by
  have hread : (readRules p : ExceptT RuleFileError (StateM FileTree) Text) t = (.ok x, t) := by
    change ((t.readString p).mapError _, t) = _
    simp only [FileTree.readString, hfile, bind, Except.bind, FileTree.decode?_encode]
    rfl
  rw [loadIn, RuleFile.load, run_bind, hread]
  simp only [andThen, hx]
  rfl

theorem rootIn_addThenUntargeted : bothRules.rootIn {} addThenUntargeted = .ok [['w']] := by
  have hroot : ∀ x y : Text, bothRules.rootIn {} (ruled x y) = .ok [['w']] := by
    intro x y
    cbv
  exact hroot _ _

theorem filesIn_addThenUntargeted :
    bothRules.filesIn [['w']] addThenUntargeted = .ok [adding, stray] := by
  have hfiles : ∀ x y : Text,
      (ruled x y).readBytes (.ofNames [['w'], ['1']]) = .ok (FileTree.encode x) ∧
      (ruled x y).readBytes (.ofNames [['w'], ['2']]) = .ok (FileTree.encode y) := by
    intro x y
    constructor
    · cbv
    · cbv
  have hadding : RuleFile.loadIn _ addThenUntargeted = .ok adding :=
    RuleFile.loadIn_of_file (hfiles _ _).1 ofText_adding
  have hstray : RuleFile.loadIn _ addThenUntargeted = .ok stray :=
    RuleFile.loadIn_of_file (hfiles _ _).2 ofText_stray
  have hpaths : bothRules.pathsIn [['w']] addThenUntargeted = .ok bothRules.rules := rfl
  rw [RuleSource.filesIn, hpaths]
  simp only [Except.bind, bothRules, List.mapM_cons, hadding, hstray]
  rfl

theorem applyAll_adding :
    let first := (applyAll ⟨[['w']]⟩ none false [adding] : StateM FileTree Progress) addThenUntargeted
    first.1.stopped = none ∧ lastWritten [['w'], ['f']] first.1.runs = some ['x', 'a'] := by
  have hruled : ∀ x y : Text,
      let first := (applyAll ⟨[['w']]⟩ none false [adding] : StateM FileTree Progress) (ruled x y)
      first.1.stopped = none ∧ lastWritten [['w'], ['f']] first.1.runs = some ['x', 'a'] := by
    intro x y
    constructor
    · cbv
    · cbv
  exact hruled _ _

theorem bytesAt?_addThenUntargeted :
    addThenUntargeted.bytesAt? [['w'], ['f']] = some (FileTree.encode ['x']) := rfl

/-- The command gives up on the rule file that has no target, and has changed `f` by then. -/
theorem addThenUntargeted_touches :
    let step := (Command.run {} (.apply none bothRules false false) : StateM FileTree Output)
      addThenUntargeted
    (∃ why, step.1.GivesUp why) ∧
      addThenUntargeted.bytesAt? [['w'], ['f']] = some (FileTree.encode ['x']) ∧
      step.2.bytesAt? [['w'], ['f']] = some (FileTree.encode ['x', 'a']) := by
  intro step
  obtain ⟨hpre, hwritten⟩ := applyAll_adding
  have hrefused : (applyAll ⟨[['w']]⟩ none false [adding, stray] : StateM FileTree Progress)
      addThenUntargeted = _ := applyAll_refused [] hpre rfl
  have hrun := Command.run_apply {} none bothRules false false addThenUntargeted
  simp only [rootIn_addThenUntargeted, filesIn_addThenUntargeted, hrefused] at hrun
  simp only [step, hrun]
  refine ⟨⟨_, ((Progress.givesUp_output rfl _ _ _).after _).after _⟩, bytesAt?_addThenUntargeted, ?_⟩
  rw [treeAfter, applyAll_bytes, hwritten]
  rfl

/-- The refused target comes after a write that changes what `f` holds. -/
theorem apply_aborted_addThenUntargeted :
    let step := (Command.run {} (.apply none bothRules false false) : StateM FileTree Output)
      addThenUntargeted
    (∃ why, step.1.GivesUp why) ∧ step.2.bytesAt? ≠ addThenUntargeted.bytesAt? := by
  intro step
  obtain ⟨hpre, hwritten⟩ := applyAll_adding
  obtain ⟨hgives, -, -, hsame⟩ := (apply_aborted {} none bothRules false addThenUntargeted).2 _ [adding]
    stray [] _ rootIn_addThenUntargeted filesIn_addThenUntargeted hpre rfl
  refine ⟨⟨_, hgives⟩, fun h => ?_⟩
  have hheld := bytesAt?_addThenUntargeted.symm.trans (hsame.mp h _ _ hwritten)
  exact absurd (FileTree.encode_injective (Option.some.inj hheld)) (by decide)

end Graft
