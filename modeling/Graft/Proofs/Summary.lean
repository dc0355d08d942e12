import Graft.Proofs.Abort
import Graft.Proofs.Compile

/-!
# What a summary counts

Every change of every rule file is counted once.  A rule file that was used tells one outcome for
each of its changes, and one whose target could not be read or written counts all of them as failed
(`Totals.ofRuns_counts`, `Totals.ofRuns_sum`).

A rule file that was loaded has at least one change (`RuleFile.Loaded.changes_ne_nil`), so the
number of failed changes is zero exactly when no target failed to be read or written
(`applyAll_failed_iff`).  A target that was read can be written unless the system refuses to
(`RuleFile.writeFails_iff_refused`).  The exit code only looks at the number of failed changes and is
right for this reason (`apply_summary`).
-/

namespace Graft

/-! ### Counting outcomes -/

namespace Totals

/-- What outcomes add up to. -/
theorem ofOutcomes_eq (outcomes : List Outcome) :
    (outcomes.map ofOutcome).foldr add {} =
      ⟨outcomes.countP Outcome.isApplied, outcomes.count .alreadyApplied, outcomes.count .skipped,
        0⟩ := by
  induction outcomes with
  | nil => rfl
  | cons o outcomes ih =>
      rw [List.map_cons, List.foldr_cons, ih]
      cases o with
      | applied rule => simp [add, ofOutcome, List.countP_cons, Outcome.isApplied, Nat.add_comm]
      | alreadyApplied => simp [add, ofOutcome, Outcome.isApplied, Nat.add_comm]
      | skipped => simp [add, ofOutcome, Outcome.isApplied, Nat.add_comm]

theorem length_outcomes (outcomes : List Outcome) :
    outcomes.countP Outcome.isApplied + outcomes.count .alreadyApplied + outcomes.count .skipped =
      outcomes.length := by
  induction outcomes with
  | nil => rfl
  | cons o outcomes ih =>
      rw [List.length_cons, ← ih, List.countP_cons]
      cases o with
      | applied rule => simp only [Outcome.isApplied, List.count_cons]; grind
      | alreadyApplied => simp only [Outcome.isApplied, List.count_cons]; grind
      | skipped => simp only [Outcome.isApplied, List.count_cons]; grind

/-- The changes that a run counts as failed. -/
def failures (r : FileRun) : Nat :=
  match r.result with
  | .ok _    => 0
  | .error _ => r.file.changes.length

/-- **What a run counts**: the outcomes that it tells, and its failures. -/
theorem ofRun_eq (r : FileRun) :
    let outcomes := r.verdicts.map Verdict.outcome
    ofRun r = ⟨outcomes.countP Outcome.isApplied, outcomes.count .alreadyApplied,
      outcomes.count .skipped, failures r⟩ := by
  obtain ⟨f, result⟩ := r
  cases result with
  | error why => rfl
  | ok report =>
      have houtcomes : (FileRun.verdicts ⟨f, .ok report⟩).map Verdict.outcome =
          report.reports.map Report.outcome := by
        simp [FileRun.verdicts, RuleFile.verdicts, Function.comp_def]
      have hreports : (report.reports.map fun c => ofOutcome c.outcome) =
          (report.reports.map Report.outcome).map ofOutcome := by
        simp [Function.comp_def]
      simp only [ofRun, houtcomes, hreports, ofOutcomes_eq, failures]

theorem ofRuns_counts (rs : List FileRun) :
    let outcomes := (rs.flatMap FileRun.verdicts).map Verdict.outcome
    ofRuns rs = ⟨outcomes.countP Outcome.isApplied, outcomes.count .alreadyApplied,
      outcomes.count .skipped, (rs.map failures).sum⟩ := by
  induction rs with
  | nil => rfl
  | cons r rs ih =>
      have hcons : ofRuns (r :: rs) = add (ofRun r) (ofRuns rs) := rfl
      rw [hcons, ofRun_eq, ih]
      simp [add, List.flatMap_cons]

/-- A run tells an outcome for each change of its rule file, unless it fails. -/
def Accounts (r : FileRun) : Prop :=
  ∀ report, r.result = .ok report → report.reports.length = r.file.changes.length

theorem Accounts.length_add {r : FileRun} (h : Accounts r) :
    r.verdicts.length + failures r = r.file.changes.length := by
  obtain ⟨f, result⟩ := r
  cases result with
  | error why => simp [FileRun.verdicts, failures]
  | ok report => simpa [FileRun.verdicts, RuleFile.verdicts, failures] using h report rfl

/-- **Every change is counted once.** -/
theorem ofRuns_sum {rs : List FileRun} (h : ∀ r ∈ rs, Accounts r) :
    (ofRuns rs).applied + (ofRuns rs).alreadyApplied + (ofRuns rs).skipped + (ofRuns rs).failed =
      (rs.map fun r => r.file.changes.length).sum := by
  rw [ofRuns_counts]
  simp only [length_outcomes, List.length_map]
  induction rs with
  | nil => rfl
  | cons r rs ih =>
      obtain ⟨hr, hrs⟩ := List.forall_mem_cons.mp h
      have hhead := hr.length_add
      have htail := ih hrs
      simp only [List.flatMap_cons, List.length_append, List.map_cons, List.sum_cons]
      omega

end Totals

/-! ### Rule files that were loaded -/

namespace RuleFile

/-- The rule file was loaded from some tree. -/
def Loaded (f : RuleFile) : Prop := ∃ p t, loadIn p t = .ok f

/-- A rule file that is loaded is what a text writes. -/
theorem ofText_of_loadIn {p : Path} {t : FileTree} {f : RuleFile} (h : loadIn p t = .ok f) :
    ∃ text g, RuleFile.ofText text = .ok g ∧ f = { g with path := some p } := by
  rcases hread : (readRules p : ExceptT RuleFileError (StateM FileTree) Text) t with
    ⟨why | text, t'⟩
  · rw [loadIn, RuleFile.load, run_bind, hread] at h
    cases h
  · rw [loadIn, RuleFile.load, run_bind, hread] at h
    cases hg : RuleFile.ofText text with
    | error why =>
        simp only [andThen, hg] at h
        cases h
    | ok g =>
        simp only [andThen, hg] at h
        cases h
        exact ⟨text, g, hg, rfl⟩

/-- A definition that a text writes has a change: one without any has an issue. -/
theorem changes_of_definition {text : Text} {d : Definition} (h : Definition.ofText text = .ok d) :
    d.changes ≠ [] := by
  unfold Definition.ofText at h
  split at h
  · cases h
  · split at h
    · cases h
    · split_ifs at h with hempty
      cases h
      have hissues := List.append_eq_nil_iff.mp (List.isEmpty_iff.mp hempty)
      simpa using issueIf_eq_nil_iff.mp hissues.1

/-- **A rule file that was loaded has a change.** -/
theorem Loaded.changes_ne_nil {f : RuleFile} (h : f.Loaded) : f.changes ≠ [] := by
  obtain ⟨p, t, hload⟩ := h
  obtain ⟨text, g, htext, rfl⟩ := ofText_of_loadIn hload
  unfold ofText at htext
  cases hd : Definition.ofText text with
  | error why => rw [hd] at htext; cases htext
  | ok d =>
      rw [hd] at htext
      cases hcompile : d.compile with
      | error why => simp [Except.bind, ofDefinition, hcompile] at htext
      | ok changes =>
          simp only [Except.bind, ofDefinition, hcompile] at htext
          cases htext
          -- compiling gives a change for each change of the definition
          have hlength := (mapM_eq_ok_iff.mp hcompile).length_eq
          rintro rfl
          exact changes_of_definition hd (List.length_eq_zero_iff.mp hlength)

end RuleFile

/-! ### Targets that cannot be read or written -/

section

variable (w : Workspace) (given : Option Path)

/-- The target of the rule file is found, and cannot be read. -/
def RuleFile.ReadFails (f : RuleFile) (t : FileTree) : Prop :=
  ∃ l why, f.targetIn w given t = .ok l ∧ t.readText (Path.ofNames l) = .error why

/-- The target of the rule file is read and has to be written, since some change is applied, and it
cannot be. -/
def RuleFile.WriteFails (f : RuleFile) (t : FileTree) : Prop :=
  ∃ l text why, f.targetIn w given t = .ok l ∧ t.readText (Path.ofNames l) = .ok text ∧
    (∃ r ∈ (planAll ⟨text⟩ f.changes).2, r.outcome.isApplied = true) ∧
    t.write (Path.ofNames l) (FileTree.encode (planAll ⟨text⟩ f.changes).1.text) = .error why

/-- The target of the rule file cannot be read, or it cannot be written.  A dry run writes nothing. -/
def RuleFile.StoreFails (dryRun : Bool) (f : RuleFile) (t : FileTree) : Prop :=
  f.ReadFails w given t ∨ dryRun = false ∧ f.WriteFails w given t

end

/-- What a rule file does to its target `l`, in a tree. -/
def RuleFile.resultIn (dryRun : Bool) (f : RuleFile) (l : Location) (t : FileTree) :
    Except StoreError FileReport :=
  match t.readText (Path.ofNames l) with
  | .error why => .error why
  | .ok text   =>
      let report := FileReport.ofPlan (Path.ofNames l) f.changes text
      if dryRun = false ∧ report.anyApplied = true then
        match t.write (Path.ofNames l) (FileTree.encode report.after) with
        | .ok _      => .ok { report with written := true }
        | .error why => .error (.write (Path.ofNames l) why)
      else .ok report

variable {w : Workspace} {given : Option Path} {dryRun : Bool} {t t' : FileTree} {f : RuleFile}

theorem RuleFile.run_result {l : Location} (htarget : f.targetIn w given t = .ok l) :
    ((f.run w given dryRun : ExceptT Failure (StateM FileTree) FileRun) t).1 =
      .ok ⟨f, f.resultIn dryRun l t⟩ := by
  rw [RuleFile.run_run, htarget, resultIn]
  cases dryRun with
  | true =>
      simp only [if_true, check_run run_treeRead, textIn_tree]
      cases t.readText (Path.ofNames l) <;> rfl
  | false =>
      simp only [Bool.false_eq_true, if_false, patchAll_run run_treeRead, textIn_tree, run_treeWrite]
      cases t.readText (Path.ofNames l) with
      | error why => rfl
      | ok text =>
          simp only [true_and]
          split_ifs
          · cases t.write (Path.ofNames l) _ <;> rfl
          · rfl

theorem RuleFile.accounts_resultIn (l : Location) : Totals.Accounts ⟨f, f.resultIn dryRun l t⟩ := by
  intro report hreport
  simp only [resultIn] at hreport
  cases hread : t.readText (Path.ofNames l) with
  | error why => rw [hread] at hreport; cases hreport
  | ok text =>
      simp only [hread] at hreport
      split at hreport
      · split at hreport
        · cases hreport
          exact length_planAll _ _
        · cases hreport
      · cases hreport
        exact length_planAll _ _

theorem not_readFails {l : Location} {text : Text} (htarget : f.targetIn w given t = .ok l)
    (hread : t.readText (Path.ofNames l) = .ok text) : ¬ f.ReadFails w given t := by
  rintro ⟨l', why, htarget', hread'⟩
  cases htarget.symm.trans htarget'
  cases hread.symm.trans hread'

/-- A target that is read fails to be written when its report is written in vain. -/
theorem writeFails_of_read {l : Location} {text : Text} (htarget : f.targetIn w given t = .ok l)
    (hread : t.readText (Path.ofNames l) = .ok text) :
    f.WriteFails w given t ↔ (FileReport.ofPlan (Path.ofNames l) f.changes text).anyApplied = true ∧
      ∃ why, t.write (Path.ofNames l)
        (FileTree.encode (FileReport.ofPlan (Path.ofNames l) f.changes text).after) = .error why := by
  simp [RuleFile.WriteFails, htarget, hread, FileReport.ofPlan, FileReport.anyApplied]

/-- **A target that is read cannot be written** exactly when the system refuses a step of the write. -/
theorem RuleFile.writeFails_iff_refused {l : Location} {text : Text}
    (htarget : f.targetIn w given t = .ok l) (hread : t.readText (Path.ofNames l) = .ok text) :
    f.WriteFails w given t ↔ (FileReport.ofPlan (Path.ofNames l) f.changes text).anyApplied = true ∧
      ∃ why, t.refusal? (Path.ofNames l) l.dropLast
        (FileTree.encode (FileReport.ofPlan (Path.ofNames l) f.changes text).after) = some why := by
  obtain ⟨bytes, mode, hfind⟩ := FileTree.find_of_readText hread
  rw [writeFails_of_read htarget hread, FileTree.write_of_find (targetIn_placed htarget) hfind]
  cases t.refusal? (Path.ofNames l) l.dropLast _ <;> simp

theorem RuleFile.resultIn_eq_error_iff {l : Location} (htarget : f.targetIn w given t = .ok l) :
    (∃ why, f.resultIn dryRun l t = .error why) ↔ f.StoreFails w given dryRun t := by
  cases hread : t.readText (Path.ofNames l) with
  | error why =>
      have hresult : f.resultIn dryRun l t = .error why := by simp [resultIn, hread]
      exact iff_of_true ⟨why, hresult⟩ (.inl ⟨l, why, htarget, hread⟩)
  | ok text =>
      rw [StoreFails, or_iff_right (not_readFails htarget hread), writeFails_of_read htarget hread,
        ← and_assoc]
      simp only [resultIn, hread]
      split_ifs with hwritten
      · cases t.write (Path.ofNames l) _ <;> simp [hwritten]
      · simp [hwritten]

/-- **What one rule file counts for**: an outcome for each of its changes, unless its target cannot
be read or written. -/
theorem RuleFile.run_accounts {r : FileRun}
    (hrun : (f.run w given dryRun : ExceptT Failure (StateM FileTree) FileRun) t = (.ok r, t')) :
    r.file = f ∧ Totals.Accounts r ∧
      ((∃ why, r.result = .error why) ↔ f.StoreFails w given dryRun t) := by
  cases htarget : f.targetIn w given t with
  | error why => rw [RuleFile.run_run, htarget] at hrun; cases hrun
  | ok l =>
      have hresult := @RuleFile.run_result w given dryRun t f l htarget
      rw [hrun] at hresult
      cases hresult
      exact ⟨rfl, accounts_resultIn l, resultIn_eq_error_iff htarget⟩

/-! ### All rule files -/

/-- Rule files that are all used are counted one by one. -/
theorem applyAll_accounts {fs : List RuleFile}
    (h : ((applyAll w given dryRun fs : StateM FileTree Progress) t).1.stopped = none) :
    let runs := ((applyAll w given dryRun fs : StateM FileTree Progress) t).1.runs
    runs.map FileRun.file = fs ∧ ∀ r ∈ runs, Totals.Accounts r := by
  induction fs generalizing t with
  | nil => exact ⟨rfl, nofun⟩
  | cons f fs ih =>
      rw [applyAll_cons] at h ⊢
      rcases hrun : (f.run w given dryRun : ExceptT Failure (StateM FileTree) FileRun) t with
        ⟨why | r, t₁⟩
      · rw [hrun] at h
        cases h
      · rw [hrun] at h
        obtain ⟨hfile, haccounts, -⟩ := RuleFile.run_accounts hrun
        obtain ⟨hfiles, hrest⟩ := ih h
        exact ⟨congrArg₂ List.cons hfile hfiles, List.forall_mem_cons.mpr ⟨haccounts, hrest⟩⟩

theorem Totals.failures_eq_zero_iff {r : FileRun} (h : r.file.changes ≠ []) :
    failures r = 0 ↔ ¬ ∃ why, r.result = .error why := by
  obtain ⟨f, result⟩ := r
  cases result with
  | ok report => simp [failures]
  | error why => simpa [failures] using h

/-- **No change is counted as failed** exactly when every target can be read and written at the turn
of its rule file, if each rule file has a change. -/
theorem applyAll_failed_iff {fs : List RuleFile} (hfs : ∀ f ∈ fs, f.changes ≠ [])
    (h : ((applyAll w given dryRun fs : StateM FileTree Progress) t).1.stopped = none) :
    (Totals.ofRuns ((applyAll w given dryRun fs : StateM FileTree Progress) t).1.runs).failed = 0 ↔
      ∀ pre f post, fs = pre ++ f :: post → ¬ f.StoreFails w given dryRun
        ((applyAll w given dryRun pre : StateM FileTree Progress) t).2 := by
  rw [Totals.ofRuns_counts]
  simp only
  induction fs generalizing t with
  | nil => exact iff_of_true rfl fun pre f post hsplit => by simp at hsplit
  | cons f fs ih =>
      obtain ⟨hf, hfs⟩ := List.forall_mem_cons.mp hfs
      rw [applyAll_cons] at h
      rw [forall_split_cons, applyAll_cons]
      rcases hrun : (f.run w given dryRun : ExceptT Failure (StateM FileTree) FileRun) t with
        ⟨why | r, t₁⟩
      · rw [hrun] at h
        cases h
      · rw [hrun] at h
        obtain ⟨hfile, -, hfails⟩ := RuleFile.run_accounts hrun
        -- the rule files after `f` start from the tree that it leaves
        have hrest : ∀ pre, ((applyAll w given dryRun (f :: pre) : StateM FileTree Progress) t).2 =
            ((applyAll w given dryRun pre : StateM FileTree Progress) t₁).2 := by
          intro pre
          rw [applyAll_cons, hrun]
        simp only [hrest, List.map_cons, List.sum_cons, Nat.add_eq_zero_iff]
        rw [ih hfs h, Totals.failures_eq_zero_iff (hfile ▸ hf), hfails]
        rfl

theorem Totals.code_ne_zero_iff (totals : Totals) : totals.code ≠ 0 ↔ totals.failed ≠ 0 := by
  unfold Totals.code
  split_ifs <;> omega

/-- The output of a command that uses all its rule files ends with the summary, and its code. -/
theorem Progress.output_of_reached {p : Progress} (h : p.stopped = none)
    (styled dryRun showDiff : Bool) : ∃ said, p.output styled dryRun showDiff =
      said ++ ⟨(Totals.ofRuns p.runs).summary styled, "", (Totals.ofRuns p.runs).code⟩ := by
  rw [Progress.output, h]
  exact ⟨_, rfl⟩

/-- **What a summary counts.**  Let rule files that were loaded be applied, or only looked at, and
let the command reach its summary.  The changes that it counts as applied are those that are told to
be applied, and so for the ones in place already and the skipped ones; together with the failed ones
they are all changes of the rule files.  The exit code is not zero exactly when the target of some
rule file could not be read or written, at its turn. -/
theorem apply_summary (root : Location) (given : Option Path) (dryRun : Bool) (fs : List RuleFile)
    (t : FileTree) (hloaded : ∀ f ∈ fs, f.Loaded)
    (hreached : ((applyAll ⟨root⟩ given dryRun fs : StateM FileTree Progress) t).1.stopped = none) :
    let progress := ((applyAll ⟨root⟩ given dryRun fs : StateM FileTree Progress) t).1
    let totals := Totals.ofRuns progress.runs
    let outcomes := progress.verdicts.map Verdict.outcome
    totals.applied + totals.alreadyApplied + totals.skipped + totals.failed =
      (fs.map fun f => f.changes.length).sum ∧
    (totals.applied = outcomes.countP Outcome.isApplied ∧
      totals.alreadyApplied = outcomes.count .alreadyApplied ∧
      totals.skipped = outcomes.count .skipped) ∧
    (totals.code ≠ 0 ↔ ∃ pre f post, fs = pre ++ f :: post ∧ f.StoreFails ⟨root⟩ given dryRun
      ((applyAll ⟨root⟩ given dryRun pre : StateM FileTree Progress) t).2) ∧
    (∀ e source showDiff, source.rootIn e t = .ok root → source.filesIn root t = .ok fs →
      let output := ((Command.run e (.apply given source dryRun showDiff) :
        StateM FileTree Output) t).1
      output.code = totals.code ∧
      ∃ said, output = said ++ ⟨totals.summary e.showsStyle, "", totals.code⟩) := by
  intro progress totals outcomes
  obtain ⟨hfiles, haccounts⟩ := applyAll_accounts hreached
  have hcounts : totals = _ := Totals.ofRuns_counts progress.runs
  have hchanges : ∀ f ∈ fs, f.changes ≠ [] := fun f hf => (hloaded f hf).changes_ne_nil
  refine ⟨?_, ?_, ?_, ?_⟩
  · rw [Totals.ofRuns_sum haccounts]
    conv_rhs => rw [← hfiles, List.map_map]
    rfl
  · rw [hcounts]
    exact ⟨rfl, rfl, rfl⟩
  · rw [Totals.code_ne_zero_iff, Ne, applyAll_failed_iff hchanges hreached]
    push Not
    rfl
  · intro e source showDiff hroot hsource output
    obtain ⟨said, hsaid⟩ := Progress.output_of_reached hreached e.showsStyle dryRun showDiff
    have hrun := congrArg Prod.fst (Command.run_apply e given source dryRun showDiff t)
    simp only [hroot, hsource] at hrun
    rw [hsaid, ← Output.append_assoc, ← Output.append_assoc] at hrun
    exact ⟨congrArg Output.code hrun, _, hrun⟩

/-! ### A target that is not there, and one that cannot be written -/

/-- A heading that names the target `g`. -/
def absentText : Text := "meta = \x7bname = 'absent', target = 'g'\x7d\n".toList

/-- A heading that names the target `d/f`. -/
def lockedText : Text := "meta = \x7bname = 'locked', target = 'd/f'\x7d\n".toList

/-- The rule file `2`, whose target is not there. -/
def absent : RuleFile :=
  ⟨some (.ofNames [['w'], ['2']]), ⟨"absent", none, some "g"⟩, adding.changes⟩

/-- The rule file `3`, whose target lies in the directory `d`. -/
def locked : RuleFile :=
  ⟨some (.ofNames [['w'], ['3']]), ⟨"locked", none, some "d/f"⟩, adding.changes⟩

section

-- the evaluation goes as deep as the text is long
set_option maxRecDepth 20000

theorem read_absent : Toml.read (absentText ++ additionText) =
    .ok [("meta", .table [("name", .string "absent"), ("target", .string "g")]),
      ("changes", additionValue)] := by
  have htext : additionText = _ := String.toList_ofList
  rewrite [htext]
  cbv

theorem read_locked : Toml.read (lockedText ++ additionText) =
    .ok [("meta", .table [("name", .string "locked"), ("target", .string "d/f")]),
      ("changes", additionValue)] := by
  have htext : additionText = _ := String.toList_ofList
  rewrite [htext]
  cbv

end

theorem ofText_absent :
    RuleFile.ofText (absentText ++ additionText) = .ok { absent with path := none } := by
  rw [RuleFile.ofText, Definition.ofText, read_absent]
  rfl

theorem ofText_locked :
    RuleFile.ofText (lockedText ++ additionText) = .ok { locked with path := none } := by
  rw [RuleFile.ofText, Definition.ofText, read_locked]
  rfl

/-- A system that makes no file in a directory that its owner may not write to. -/
def byOwnerMode : Refusals
  | .create, entries, dir, _ =>
      match entries.lookup dir with
      | some (.directory mode) =>
          if mode &&& 0o200 = 0 then some (.other "Permission denied (os error 13)") else none
      | _ => none
  | _, _, _, _ => none

/-- A workspace that holds a file, three rule files, and a file in a directory that nobody may write
to. -/
def guarded (x y z : Text) : FileTree where
  entries := (ruled x y).entries ++ [([['w'], ['3']], .file (FileTree.encode z) 0o644),
    ([['w'], ['d']], .directory 0o555), ([['w'], ['d'], ['f']], .file (FileTree.encode ['x']) 0o644)]
  refusals := byOwnerMode

def addThenFail : FileTree :=
  guarded (targetedText ++ additionText) (absentText ++ additionText) (lockedText ++ additionText)

theorem loaded_addThenFail : ∀ f ∈ [adding, absent, locked], f.Loaded := by
  have hfiles : ∀ x y z : Text,
      (guarded x y z).readBytes (.ofNames [['w'], ['1']]) = .ok (FileTree.encode x) ∧
      (guarded x y z).readBytes (.ofNames [['w'], ['2']]) = .ok (FileTree.encode y) ∧
      (guarded x y z).readBytes (.ofNames [['w'], ['3']]) = .ok (FileTree.encode z) := by
    intro x y z
    refine ⟨?_, ?_, ?_⟩
    · cbv
    · cbv
    · cbv
  obtain ⟨hfirst, hsecond, hthird⟩ := hfiles (targetedText ++ additionText)
    (absentText ++ additionText) (lockedText ++ additionText)
  have hadding : adding.Loaded := ⟨_, addThenFail, RuleFile.loadIn_of_file hfirst ofText_adding⟩
  have habsent : absent.Loaded := ⟨_, addThenFail, RuleFile.loadIn_of_file hsecond ofText_absent⟩
  have hlocked : locked.Loaded := ⟨_, addThenFail, RuleFile.loadIn_of_file hthird ofText_locked⟩
  simp [hadding, habsent, hlocked]

theorem applyAll_addThenFail :
    let progress := ((applyAll ⟨[['w']]⟩ none false [adding, absent, locked] :
      StateM FileTree Progress) addThenFail).1
    progress.stopped = none ∧ Totals.ofRuns progress.runs = ⟨1, 0, 0, 2⟩ := by
  have hguarded : ∀ x y z : Text,
      let progress := ((applyAll ⟨[['w']]⟩ none false [adding, absent, locked] :
        StateM FileTree Progress) (guarded x y z)).1
      progress.stopped = none ∧ Totals.ofRuns progress.runs = ⟨1, 0, 0, 2⟩ := by
    intro x y z
    constructor
    · cbv
    · cbv
  exact hguarded _ _ _

/-- The target of `locked` is there and can be read, and the system refuses to write it. -/
theorem locked_writeFails : locked.WriteFails ⟨[['w']]⟩ none
    ((applyAll ⟨[['w']]⟩ none false [adding, absent] : StateM FileTree Progress) addThenFail).2 := by
  have hguarded : ∀ x y z : Text,
      let t := ((applyAll ⟨[['w']]⟩ none false [adding, absent] : StateM FileTree Progress)
        (guarded x y z)).2
      locked.targetIn ⟨[['w']]⟩ none t = .ok [['w'], ['d'], ['f']] ∧
      t.readText (.ofNames [['w'], ['d'], ['f']]) = .ok ['x'] ∧
      ∀ bytes, t.refusal? (.ofNames [['w'], ['d'], ['f']]) [['w'], ['d']] bytes =
        some (.other "Permission denied (os error 13)") := by
    intro x y z
    refine ⟨?_, ?_, fun bytes => ?_⟩
    · cbv
    · cbv
    · cbv
  obtain ⟨htarget, hread, hrefused⟩ := hguarded (targetedText ++ additionText)
    (absentText ++ additionText) (lockedText ++ additionText)
  exact (RuleFile.writeFails_iff_refused htarget hread).mpr ⟨by cbv, _, hrefused _⟩

/-- One change is applied and two fail: the target of one cannot be read, and that of the other cannot
be written.  The exit code tells. -/
theorem apply_summary_addThenFail :
    let t := addThenFail
    let progress := ((applyAll ⟨[['w']]⟩ none false [adding, absent, locked] :
      StateM FileTree Progress) t).1
    let totals := Totals.ofRuns progress.runs
    totals = ⟨1, 0, 0, 2⟩ ∧
    1 + 0 + 0 + 2 = ([adding, absent, locked].map fun f => f.changes.length).sum ∧
    absent.ReadFails ⟨[['w']]⟩ none
      ((applyAll ⟨[['w']]⟩ none false [adding] : StateM FileTree Progress) t).2 ∧
    locked.WriteFails ⟨[['w']]⟩ none
      ((applyAll ⟨[['w']]⟩ none false [adding, absent] : StateM FileTree Progress) t).2 ∧
    totals.code ≠ 0 := by
  intro t progress totals
  obtain ⟨hreached, htotals⟩ := applyAll_addThenFail
  obtain ⟨hsum, -, hcode, -⟩ :=
    apply_summary [['w']] none false _ addThenFail loaded_addThenFail hreached
  have habsent : ∀ x y z : Text, absent.ReadFails ⟨[['w']]⟩ none
      ((applyAll ⟨[['w']]⟩ none false [adding] : StateM FileTree Progress) (guarded x y z)).2 :=
    fun x y z => ⟨[['w'], ['g']], .notFound (.ofNames [['w'], ['g']]), by cbv, by cbv⟩
  rw [htotals] at hsum
  exact ⟨htotals, hsum, habsent _ _ _, locked_writeFails,
    hcode.mpr ⟨[adding, absent], locked, [], rfl, .inr ⟨rfl, locked_writeFails⟩⟩⟩

end Graft
