import Graft.Command.Apply
import Graft.Command.Status
import Graft.Proofs.Patch
import Graft.Proofs.Workspace

/-!
# Dry runs

What a dry run and a status tell about rule files, against what applying them tells.  Both look at
every rule file on the tree as it is (`RuleFile.look`), while an application looks at each on the
tree that the ones before it leave (`treeAfter`).

* `foretold_iff_lookAll`: a dry run and a status tell the truth when looking at all rule files on
  the first tree does.
* `lookAll_eq_some_iff`: looking at a tree tells what an application does exactly when each rule
  file tells there what it tells at its turn.
* `treeAfter_direct`: if the targets are text files by their canonical paths, what an application
  leaves of a text are the changes of the rule files with that target, run on it in their order.
* `foretold_iff`: so a dry run can be wrong only about rule files that share a target, or whose
  targets lead through links that an application replaces.  `addThenRename_not_foretold` is such a
  case.
-/

namespace Graft

/-! ### What is told -/

/-- What is told about a change: its rule file, its name and how it ended. -/
structure Verdict where
  rules   : String
  change  : String
  outcome : Outcome
  deriving DecidableEq, Repr

def StatusEntry.verdict (e : StatusEntry) : Verdict := ⟨e.rules, e.change, e.outcome⟩

def RuleFile.verdicts (f : RuleFile) (rs : List Report) : List Verdict :=
  rs.map fun r => ⟨f.label, r.change, r.outcome⟩

def FileRun.verdicts (r : FileRun) : List Verdict :=
  match r.result with
  | .ok report => r.file.verdicts report.reports
  | .error _   => []

def Progress.verdicts (p : Progress) : List Verdict := p.runs.flatMap FileRun.verdicts

/-- Every rule file was used, and no change failed. -/
def Progress.Clean (p : Progress) : Prop :=
  p.stopped = none ∧ (Totals.ofRuns p.runs).failed = 0

theorem RuleFile.length_verdicts (f : RuleFile) (d : Document) :
    (f.verdicts (planAll d f.changes).2).length = f.changes.length := by
  rw [verdicts, List.length_map, length_planAll]

/-- Verdicts on the same changes differ only in their outcomes. -/
theorem RuleFile.verdicts_eq_iff (f : RuleFile) (d d' : Document) :
    f.verdicts (planAll d f.changes).2 = f.verdicts (planAll d' f.changes).2 ↔
      (planAll d f.changes).2.map (·.outcome) = (planAll d' f.changes).2.map (·.outcome) := by
  -- labels and names come from the rule file, whatever the document is
  have hzip : ∀ e : Document, f.verdicts (planAll e f.changes).2 =
      List.zipWith (Verdict.mk f.label) (f.changes.map (·.id))
        ((planAll e f.changes).2.map (·.outcome)) := by
    intro e
    rw [← planAll_changes e, verdicts, List.zipWith_map, List.zipWith_self]
  constructor
  · intro h
    have := congrArg (List.map Verdict.outcome) h
    simpa [verdicts, Function.comp_def] using this
  · intro h
    rw [hzip, hzip, h]

/-! ### Looking at a tree -/

section

variable (w : Workspace) (given : Option Path)

/-- What a rule file tells when it is looked at on a tree; nothing if its target cannot be found or
read. -/
def RuleFile.look (f : RuleFile) (t : FileTree) : Option (List Verdict) :=
  match f.targetIn w given t with
  | .error _ => none
  | .ok l    =>
      match t.readText (Path.ofNames l) with
      | .error _ => none
      | .ok text => some (f.verdicts (planAll ⟨text⟩ f.changes).2)

/-- What rule files tell when all are looked at on one tree. -/
def lookAll (t : FileTree) : List RuleFile → Option (List Verdict)
  | []      => some []
  | f :: fs => (f.look w given t).bind fun vs => (lookAll t fs).map (vs ++ ·)

/-- The tree that applying rule files leaves. -/
def treeAfter (fs : List RuleFile) (t : FileTree) : FileTree :=
  ((applyAll w given false fs : StateM FileTree Progress) t).2

/-- What a dry run and a status tell, from the tree that an application starts from, is what the
application tells. -/
def Foretold (fs : List RuleFile) (t : FileTree) : Prop :=
  let told := ((applyAll w given false fs : StateM FileTree Progress) t).1.verdicts
  ((applyAll w given true fs : StateM FileTree Progress) t).1.verdicts = told ∧
  ∃ entries, ((statusAll w given fs : ExceptT Failure (StateM FileTree) (List StatusEntry)) t).1 =
    .ok entries ∧ entries.map StatusEntry.verdict = told

end

variable {w : Workspace} {given : Option Path} {t t' : FileTree} {f : RuleFile}

theorem look_eq_some_iff {vs : List Verdict} :
    f.look w given t = some vs ↔ ∃ l text, f.targetIn w given t = .ok l ∧
      t.readText (Path.ofNames l) = .ok text ∧ vs = f.verdicts (planAll ⟨text⟩ f.changes).2 := by
  unfold RuleFile.look
  cases htarget : f.targetIn w given t with
  | error why => simp
  | ok l =>
      cases hread : t.readText (Path.ofNames l) with
      | error why => simp [hread]
      | ok text => simp [hread, eq_comm]

theorem length_of_look {vs : List Verdict} (h : f.look w given t = some vs) :
    vs.length = f.changes.length := by
  obtain ⟨l, text, -, -, rfl⟩ := look_eq_some_iff.mp h
  exact f.length_verdicts _

theorem run_treeRead (p : Path) (t : FileTree) :
    ((readText p : ExceptT StoreError (StateM FileTree) Text) t).2 = t := rfl

theorem textIn_tree (t : FileTree) (p : Path) : textIn t p = t.readText p := rfl

/-- A rule file is looked at, or applied, once its target is found. -/
theorem RuleFile.run_run (dryRun : Bool) (f : RuleFile) (t : FileTree) :
    (f.run w given dryRun : ExceptT Failure (StateM FileTree) FileRun) t =
      match f.targetIn w given t with
      | .error why => (.error why, t)
      | .ok l      =>
          let act : ExceptT StoreError (StateM FileTree) FileReport :=
            if dryRun then check (Path.ofNames l) f.changes
            else patchAll (Path.ofNames l) f.changes
          (.ok ⟨f, (act t).1⟩, (act t).2) := by
  rw [RuleFile.run, run_bind, RuleFile.target_run]
  cases f.targetIn w given t with
  | error why => rfl
  | ok l => rfl

theorem applyAll_cons (dryRun : Bool) (f : RuleFile) (fs : List RuleFile) (t : FileTree) :
    (applyAll w given dryRun (f :: fs) : StateM FileTree Progress) t =
      match (f.run w given dryRun : ExceptT Failure (StateM FileTree) FileRun) t with
      | (.error why, t') => (⟨[], some (f, why)⟩, t')
      | (.ok run, t')    =>
          let rest := (applyAll w given dryRun fs : StateM FileTree Progress) t'
          ({ rest.1 with runs := run :: rest.1.runs }, rest.2) := by
  simp only [applyAll, bind, StateT.bind, ExceptT.run]
  rcases (f.run w given dryRun : ExceptT Failure (StateM FileTree) FileRun) t with ⟨why | run, t'⟩
  · rfl
  · rfl

/-- Rule files are applied cleanly when the first is, and the others are on the tree that it leaves. -/
theorem clean_cons_iff {fs : List RuleFile} :
    ((applyAll w given false (f :: fs) : StateM FileTree Progress) t).1.Clean ↔ ∃ r t₁,
      (f.run w given false : ExceptT Failure (StateM FileTree) FileRun) t = (.ok r, t₁) ∧
        (Totals.ofRun r).failed = 0 ∧
        ((applyAll w given false fs : StateM FileTree Progress) t₁).1.Clean := by
  rw [applyAll_cons]
  rcases (f.run w given false : ExceptT Failure (StateM FileTree) FileRun) t with ⟨why | r, t₁⟩
  · constructor
    · rintro ⟨hstopped, -⟩
      cases hstopped
    · rintro ⟨r, t', heq, -⟩
      cases heq
  · have hsum : ∀ rs : List FileRun, (Totals.ofRuns (r :: rs)).failed =
        (Totals.ofRun r).failed + (Totals.ofRuns rs).failed := fun _ => rfl
    simp only [Progress.Clean, hsum, Nat.add_eq_zero_iff]
    constructor
    · rintro ⟨hstopped, hfirst, hrest⟩
      exact ⟨r, t₁, rfl, hfirst, hstopped, hrest⟩
    · rintro ⟨r', t', heq, hfirst, hstopped, hrest⟩
      cases heq
      exact ⟨hstopped, hfirst, hrest⟩

theorem clean_of_append {fs gs : List RuleFile}
    (h : ((applyAll w given false (fs ++ gs) : StateM FileTree Progress) t).1.Clean) :
    ((applyAll w given false fs : StateM FileTree Progress) t).1.Clean := by
  induction fs generalizing t with
  | nil => exact ⟨rfl, rfl⟩
  | cons f fs ih =>
      obtain ⟨r, t₁, hrun, hfirst, hrest⟩ := clean_cons_iff.mp h
      exact clean_cons_iff.mpr ⟨r, t₁, hrun, hfirst, ih hrest⟩

/-! ### Dry runs and status look at one tree -/

theorem run_dry {l : Location} {text : Text} (htarget : f.targetIn w given t = .ok l)
    (hread : t.readText (Path.ofNames l) = .ok text) :
    (f.run w given true : ExceptT Failure (StateM FileTree) FileRun) t =
      (.ok ⟨f, .ok (.ofPlan (Path.ofNames l) f.changes text)⟩, t) := by
  have hcheck := check_run run_treeRead (Path.ofNames l) f.changes t
  rw [textIn_tree, hread] at hcheck
  rw [RuleFile.run_run, htarget]
  simp only [if_true, hcheck]
  rfl

/-- A dry run that finds and reads every target tells what a look tells. -/
theorem verdicts_dry {fs : List RuleFile} {vs : List Verdict} (h : lookAll w given t fs = some vs) :
    ((applyAll w given true fs : StateM FileTree Progress) t).1.verdicts = vs := by
  induction fs generalizing vs with
  | nil => cases h; rfl
  | cons f fs ih =>
      obtain ⟨us, hlook, hrest⟩ := Option.bind_eq_some_iff.mp h
      obtain ⟨us', hlooks, rfl⟩ := Option.map_eq_some_iff.mp hrest
      obtain ⟨l, text, htarget, hread, rfl⟩ := look_eq_some_iff.mp hlook
      rw [applyAll_cons, run_dry htarget hread, ← ih hlooks]
      rfl

theorem run_status (f : RuleFile) (t : FileTree) :
    let step := (f.status w given : ExceptT Failure (StateM FileTree) (List StatusEntry)) t
    step.1.toOption.map (·.map StatusEntry.verdict) = f.look w given t ∧ step.2 = t := by
  have hcheck := fun p => check_run run_treeRead p f.changes t
  simp only [RuleFile.status, run_bind, RuleFile.target_run, RuleFile.look]
  cases f.targetIn w given t with
  | error why => exact ⟨rfl, rfl⟩
  | ok l =>
      simp only [andThen, run_bind, run_adapt, hcheck, textIn_tree]
      cases t.readText (Path.ofNames l) with
      | error why => exact ⟨rfl, rfl⟩
      | ok text =>
          refine ⟨?_, rfl⟩
          simp [Except.map, Except.mapError, run_pure, Except.toOption, RuleFile.verdicts,
            StatusEntry.verdict, FileReport.ofPlan, Function.comp_def]

theorem run_statusAll (fs : List RuleFile) (t : FileTree) :
    let step := (statusAll w given fs : ExceptT Failure (StateM FileTree) (List StatusEntry)) t
    step.1.toOption.map (·.map StatusEntry.verdict) = lookAll w given t fs ∧ step.2 = t := by
  induction fs with
  | nil => exact ⟨rfl, rfl⟩
  | cons f fs ih =>
      have hhead := @run_status w given f t
      simp only [statusAll, run_bind, lookAll]
      rcases hf : (f.status w given : ExceptT Failure (StateM FileTree) (List StatusEntry)) t with
        ⟨why | entries, t₁⟩
      · rw [hf] at hhead
        obtain ⟨hlook, rfl⟩ := hhead
        rw [← hlook]
        exact ⟨rfl, rfl⟩
      · rw [hf] at hhead
        obtain ⟨hlook, rfl⟩ := hhead
        rw [← hlook]
        simp only [andThen, run_bind]
        rcases hfs : (statusAll w given fs : ExceptT Failure (StateM FileTree) (List StatusEntry)) t₁
          with ⟨why | rest, t₂⟩
        · rw [hfs] at ih
          obtain ⟨hrest, rfl⟩ := ih
          rw [← hrest]
          exact ⟨rfl, rfl⟩
        · rw [hfs] at ih
          obtain ⟨hrest, rfl⟩ := ih
          rw [← hrest]
          refine ⟨?_, rfl⟩
          simp [run_pure, Except.toOption]

/-- **What a dry run and a status look at.**  They tell the truth exactly when looking at all rule
files on the first tree tells what applying them does. -/
theorem foretold_iff_lookAll {fs : List RuleFile} :
    Foretold w given fs t ↔ lookAll w given t fs =
      some ((applyAll w given false fs : StateM FileTree Progress) t).1.verdicts := by
  have hstatus := (@run_statusAll w given fs t).1
  constructor
  · rintro ⟨-, entries, hok, htold⟩
    rw [← hstatus, hok, ← htold]
    rfl
  · intro h
    refine ⟨verdicts_dry h, ?_⟩
    rw [h] at hstatus
    obtain ⟨entries, hopt, htold⟩ := Option.map_eq_some_iff.mp hstatus
    cases hok : ((statusAll w given fs :
        ExceptT Failure (StateM FileTree) (List StatusEntry)) t).1 with
    | error why => rw [hok] at hopt; cases hopt
    | ok entries' => rw [hok] at hopt; cases hopt; exact ⟨entries, rfl, htold⟩

/-! ### An application looks at one tree after another -/

theorem treeAfter_nil (t : FileTree) : treeAfter w given [] t = t := rfl

theorem treeAfter_cons (f : RuleFile) (fs : List RuleFile) (t : FileTree) {r : FileRun}
    (h : (f.run w given false : ExceptT Failure (StateM FileTree) FileRun) t = (.ok r, t')) :
    treeAfter w given (f :: fs) t = treeAfter w given fs t' := by
  rw [treeAfter, applyAll_cons, h]
  rfl

theorem run_patch {l : Location} (htarget : f.targetIn w given t = .ok l) :
    (f.run w given false : ExceptT Failure (StateM FileTree) FileRun) t =
      let step := (patchAll (Path.ofNames l) f.changes :
        ExceptT StoreError (StateM FileTree) FileReport) t
      (.ok ⟨f, step.1⟩, step.2) := by
  rw [RuleFile.run_run, htarget]
  rfl

/-- A patch that succeeds reports what a plan on the text that was read does. -/
theorem reports_of_patchAll {p : Path} {cs : List Change} {report : FileReport}
    (h : (patchAll p cs : ExceptT StoreError (StateM FileTree) FileReport) t = (.ok report, t')) :
    ∃ text, t.readText p = .ok text ∧ report.reports = (planAll ⟨text⟩ cs).2 := by
  rw [patchAll_run run_treeRead, textIn_tree] at h
  cases hread : t.readText p with
  | error why => rw [hread] at h; cases h
  | ok text =>
      refine ⟨text, rfl, ?_⟩
      rw [hread] at h
      simp only at h
      split at h
      · split at h
        · cases h; rfl
        · cases h
      · cases h; rfl

/-- A run without failed changes tells what a look at its tree tells. -/
theorem look_of_run {r : FileRun}
    (hrun : (f.run w given false : ExceptT Failure (StateM FileTree) FileRun) t = (.ok r, t'))
    (hfailed : (Totals.ofRun r).failed = 0) :
    r.verdicts.length = f.changes.length ∧
      (f.changes ≠ [] → f.look w given t = some r.verdicts) := by
  cases htarget : f.targetIn w given t with
  | error why => rw [RuleFile.run_run, htarget] at hrun; cases hrun
  | ok l =>
      rw [run_patch htarget] at hrun
      rcases hpatch : (patchAll (Path.ofNames l) f.changes :
        ExceptT StoreError (StateM FileTree) FileReport) t with ⟨why | report, t₁⟩
      · rw [hpatch] at hrun
        cases hrun
        -- a run that fails counts all changes of its rule file
        have hnone : f.changes = [] := List.length_eq_zero_iff.mp hfailed
        exact ⟨by rw [hnone]; rfl, fun h => absurd hnone h⟩
      · rw [hpatch] at hrun
        cases hrun
        obtain ⟨text, hread, hreports⟩ := reports_of_patchAll hpatch
        have hverdicts : FileRun.verdicts ⟨f, .ok report⟩ =
            f.verdicts (planAll ⟨text⟩ f.changes).2 := by
          rw [← hreports]
          rfl
        rw [hverdicts]
        exact ⟨f.length_verdicts _, fun _ => look_eq_some_iff.mpr ⟨l, text, htarget, hread, rfl⟩⟩

theorem forall_split_cons {α : Type} {a : α} {as : List α} {P : List α → α → Prop} :
    (∀ pre b post, a :: as = pre ++ b :: post → P pre b) ↔
      P [] a ∧ ∀ pre b post, as = pre ++ b :: post → P (a :: pre) b := by
  constructor
  · intro h
    exact ⟨h [] a as rfl, fun pre b post has => h (a :: pre) b post (by rw [has]; rfl)⟩
  · rintro ⟨hhead, htail⟩ pre b post has
    cases pre with
    | nil => cases has; exact hhead
    | cons c pre =>
        obtain ⟨rfl, hrest⟩ := List.cons.inj has
        exact htail pre b post hrest

/-- The rule file tells on `t₀` what it tells on `t`; on `t` it need not tell anything if it has no
changes. -/
def RuleFile.TellsAlike (w : Workspace) (given : Option Path) (f : RuleFile) (t₀ t : FileTree) : Prop :=
  ∃ vs, f.look w given t₀ = some vs ∧ (f.changes ≠ [] → f.look w given t = some vs)

theorem tellsAlike_of_run {t₀ : FileTree} {r : FileRun}
    (hrun : (f.run w given false : ExceptT Failure (StateM FileTree) FileRun) t = (.ok r, t'))
    (hfailed : (Totals.ofRun r).failed = 0) :
    f.TellsAlike w given t₀ t ↔ f.look w given t₀ = some r.verdicts := by
  obtain ⟨hlength, hlook⟩ := look_of_run hrun hfailed
  constructor
  · rintro ⟨vs, hvs, hsame⟩
    by_cases hnone : f.changes = []
    · have hlen := length_of_look hvs
      rw [hnone, List.length_nil, List.length_eq_zero_iff] at hlen hlength
      rw [hvs, hlen, hlength]
    · rw [hvs, ← hsame hnone, hlook hnone]
  · exact fun h => ⟨_, h, hlook⟩

/-- **An application tells what looking at `t₀` tells** exactly when each rule file tells there what
it tells on the tree that the ones before it leave. -/
theorem lookAll_eq_some_iff {t₀ : FileTree} {fs : List RuleFile}
    (hclean : ((applyAll w given false fs : StateM FileTree Progress) t).1.Clean) :
    lookAll w given t₀ fs =
        some ((applyAll w given false fs : StateM FileTree Progress) t).1.verdicts ↔
      ∀ pre f post, fs = pre ++ f :: post → f.TellsAlike w given t₀ (treeAfter w given pre t) := by
  induction fs generalizing t with
  | nil => exact ⟨fun _ pre f post h => by simp at h, fun _ => rfl⟩
  | cons f fs ih =>
      obtain ⟨r, t₁, hrun, hfailed, hrest⟩ := clean_cons_iff.mp hclean
      have hlength := (look_of_run hrun hfailed).1
      -- there is one verdict for each change, so the lists can only be split in one place
      have hsplit : ∀ rest : List Verdict,
          lookAll w given t₀ (f :: fs) = some (r.verdicts ++ rest) ↔
            f.look w given t₀ = some r.verdicts ∧ lookAll w given t₀ fs = some rest := by
        intro rest
        rw [lookAll, Option.bind_eq_some_iff]
        constructor
        · rintro ⟨us, hus, hmap⟩
          obtain ⟨us', hus', happend⟩ := Option.map_eq_some_iff.mp hmap
          obtain ⟨rfl, rfl⟩ :=
            List.append_inj happend ((length_of_look hus).trans hlength.symm)
          exact ⟨hus, hus'⟩
        · rintro ⟨hus, hus'⟩
          exact ⟨_, hus, Option.map_eq_some_iff.mpr ⟨_, hus', rfl⟩⟩
      rw [forall_split_cons, treeAfter_nil, tellsAlike_of_run hrun hfailed, applyAll_cons, hrun]
      simp only [treeAfter_cons f _ t hrun]
      rw [← ih hrest]
      exact hsplit _

/-! ### Targets that are their own canonical path -/

section

variable (w : Workspace) (given : Option Path)

/-- The target of the rule file is a text file, and its own canonical path. -/
def RuleFile.Direct (f : RuleFile) (t : FileTree) : Prop :=
  ∃ l x, f.targetIn w given t = .ok l ∧ t.IsCanonical l ∧ t.textAt? l = some x

/-- The changes of the rule files that have the target `l`, in their order. -/
def sharing (t : FileTree) (l : Location) (fs : List RuleFile) : List Change :=
  (fs.filter fun f => (f.targetIn w given t).toOption == some l).flatMap (·.changes)

end

theorem sharing_congr (h : t.Alike t') (l : Location) (fs : List RuleFile) :
    sharing w given t l fs = sharing w given t' l fs := by
  simp only [sharing, RuleFile.targetIn_congr h]

theorem run_treeWrite (p : Path) (x : Text) (t : FileTree) :
    (writeText p x : ExceptT StoreError (StateM FileTree) Unit) t =
      match t.write p (FileTree.encode x) with
      | .ok t'     => (.ok (), t')
      | .error why => (.error (.write p why), t) := rfl

/-- **One rule file applied to a direct target** without a failure rewrites the text of that file by
its changes, and nothing else. -/
theorem run_direct {l : Location} {x : Text} {r : FileRun} (htarget : f.targetIn w given t = .ok l)
    (hcan : t.IsCanonical l) (htext : t.textAt? l = some x)
    (hrun : (f.run w given false : ExceptT Failure (StateM FileTree) FileRun) t = (.ok r, t'))
    (hfailed : (Totals.ofRun r).failed = 0) :
    t.Alike t' ∧ t'.textAt? l = some (planAll ⟨x⟩ f.changes).1.text ∧
      ∀ l', l' ≠ l → t'.textAt? l' = t.textAt? l' := by
  have hread := (FileTree.readText_of_canonical hcan).mpr htext
  obtain ⟨bytes, mode, hget⟩ := FileTree.file_of_textAt? htext
  have hfind : t.find (Path.ofNames l) = .ok (.file bytes mode) := by
    rw [FileTree.find_of_canonical hcan, hget]
  rw [run_patch htarget, patchAll_run run_treeRead, textIn_tree, hread] at hrun
  by_cases happ : (FileReport.ofPlan (Path.ofNames l) f.changes x).anyApplied = true
  · simp only [happ, if_true, run_treeWrite,
      FileTree.write_of_find (RuleFile.targetIn_placed htarget) hfind] at hrun
    cases hrefused : t.refusal? (Path.ofNames l) l.dropLast
        (FileTree.encode (FileReport.ofPlan (Path.ofNames l) f.changes x).after) with
    | some why =>
        -- a write that is refused fails all changes, and some change was to be written
        rw [hrefused] at hrun
        cases hrun
        have hnone : f.changes = [] := List.length_eq_zero_iff.mp hfailed
        rw [hnone] at happ
        cases happ
    | none =>
        rw [hrefused] at hrun
        cases hrun
        exact ⟨FileTree.alike_put hget, FileTree.textAt?_put_self (FileTree.ne_nil_of_file hget),
          fun l' hl' => FileTree.textAt?_put_of_ne hl'⟩
  · have hsame := FileReport.ofPlan_after (Bool.not_eq_true _ ▸ happ)
    simp only [happ, Bool.false_eq_true, if_false] at hrun
    cases hrun
    exact ⟨.refl t, by rw [htext, hsame], fun _ _ => rfl⟩

/-- **Rule files with direct targets**, applied one after another without a failure: the text of a file
is rewritten by the changes of the rule files that have it for their target. -/
theorem treeAfter_direct {fs : List RuleFile}
    (hclean : ((applyAll w given false fs : StateM FileTree Progress) t).1.Clean)
    (hd : ∀ f ∈ fs, f.Direct w given t) :
    t.Alike (treeAfter w given fs t) ∧ ∀ l x, t.textAt? l = some x →
      (treeAfter w given fs t).textAt? l = some (planAll ⟨x⟩ (sharing w given t l fs)).1.text := by
  induction fs generalizing t with
  | nil => exact ⟨.refl t, fun l x hx => hx⟩
  | cons f fs ih =>
      obtain ⟨⟨l₀, x₀, htarget, hcan, htext⟩, hfs⟩ := List.forall_mem_cons.mp hd
      obtain ⟨r, t₁, hrun, hfailed, hrest⟩ := clean_cons_iff.mp hclean
      obtain ⟨halike, hself, hother⟩ := run_direct htarget hcan htext hrun hfailed
      -- what the first rule file leaves of any text
      have hstep : ∀ l x, t.textAt? l = some x →
          t₁.textAt? l = some (planAll ⟨x⟩ (if l = l₀ then f.changes else [])).1.text := by
        intro l x hx
        by_cases hl : l = l₀
        · subst hl
          rw [htext] at hx
          cases hx
          simpa using hself
        · simpa [hl, hx] using hother l hl
      have hdirect : ∀ g ∈ fs, g.Direct w given t₁ := by
        intro g hg
        obtain ⟨l, x, hgt, hgc, hgx⟩ := hfs g hg
        exact ⟨l, _, (g.targetIn_congr halike w given).symm.trans hgt, halike.isCanonical hgc,
          hstep l x hgx⟩
      obtain ⟨halike', htexts⟩ := ih hrest hdirect
      rw [treeAfter_cons f fs t hrun]
      refine ⟨halike.trans halike', fun l x hx => ?_⟩
      have hshare : sharing w given t l (f :: fs) =
          (if l = l₀ then f.changes else []) ++ sharing w given t l fs := by
        by_cases hl : l = l₀
        · simp [sharing, htarget, Except.toOption, hl]
        · have hne : (some l₀ == some l) = false := by simpa using Ne.symm hl
          simp [sharing, htarget, Except.toOption, hl, hne]
      rw [htexts l _ (hstep l x hx), hshare, planAll_append, sharing_congr halike]

theorem look_direct {l : Location} {x : Text} (htarget : f.targetIn w given t = .ok l)
    (hcan : t.IsCanonical l) (htext : t.textAt? l = some x) :
    f.look w given t = some (f.verdicts (planAll ⟨x⟩ f.changes).2) :=
  look_eq_some_iff.mpr ⟨l, x, htarget, (FileTree.readText_of_canonical hcan).mpr htext, rfl⟩

/-- After rule files with direct targets, a rule file tells what it did before exactly when the
outcomes of its changes are the same on the text that those with its target leave. -/
theorem tellsAlike_direct {pre : List RuleFile} {l : Location} {x : Text}
    (hclean : ((applyAll w given false pre : StateM FileTree Progress) t).1.Clean)
    (hpre : ∀ g ∈ pre, g.Direct w given t) (htarget : f.targetIn w given t = .ok l)
    (hcan : t.IsCanonical l) (htext : t.textAt? l = some x) :
    f.TellsAlike w given t (treeAfter w given pre t) ↔
      (planAll (planAll ⟨x⟩ (sharing w given t l pre)).1 f.changes).2.map (·.outcome) =
        (planAll ⟨x⟩ f.changes).2.map (·.outcome) := by
  obtain ⟨halike, htexts⟩ := treeAfter_direct hclean hpre
  have hthen : f.look w given (treeAfter w given pre t) =
      some (f.verdicts (planAll (planAll ⟨x⟩ (sharing w given t l pre)).1 f.changes).2) :=
    look_direct ((f.targetIn_congr halike w given).symm.trans htarget) (halike.isCanonical hcan)
      (htexts l x htext)
  rw [← f.verdicts_eq_iff, RuleFile.TellsAlike, look_direct htarget hcan htext, hthen]
  constructor
  · rintro ⟨vs, hnow, hsame⟩
    cases hnow
    by_cases hnone : f.changes = []
    · simp [hnone, RuleFile.verdicts]
    · exact Option.some.inj (hsame hnone)
  · exact fun h => ⟨_, rfl, fun _ => congrArg some h⟩

theorem sharing_eq_nil {l : Location} {fs : List RuleFile}
    (h : ∀ g ∈ fs, g.targetIn w given t ≠ .ok l) : sharing w given t l fs = [] := by
  have hfilter : (fs.filter fun g => (g.targetIn w given t).toOption == some l) = [] := by
    rw [List.filter_eq_nil_iff]
    intro g hg hl
    cases hgt : g.targetIn w given t with
    | error why => simp [hgt, Except.toOption] at hl
    | ok l' =>
        simp only [hgt, Except.toOption, beq_iff_eq, Option.some.injEq] at hl
        exact h g hg (hl ▸ hgt)
  rw [sharing, hfilter, List.flatMap_nil]

theorem foretold_iff_tellsAlike {fs : List RuleFile}
    (hclean : ((applyAll w given false fs : StateM FileTree Progress) t).1.Clean) :
    Foretold w given fs t ↔ ∀ pre f post, fs = pre ++ f :: post →
      f.TellsAlike w given t (treeAfter w given pre t) :=
  foretold_iff_lookAll.trans (lookAll_eq_some_iff hclean)

/-- For direct targets only the texts matter that are left by rule files with the same target. -/
theorem foretold_iff_of_direct {fs : List RuleFile}
    (hclean : ((applyAll w given false fs : StateM FileTree Progress) t).1.Clean)
    (hd : ∀ f ∈ fs, f.Direct w given t) :
    Foretold w given fs t ↔ ∀ pre f post l x, fs = pre ++ f :: post →
      f.targetIn w given t = .ok l → t.textAt? l = some x →
      (planAll (planAll ⟨x⟩ (sharing w given t l pre)).1 f.changes).2.map (·.outcome) =
        (planAll ⟨x⟩ f.changes).2.map (·.outcome) := by
  rw [foretold_iff_tellsAlike hclean]
  -- the rule files before any other are applied without a failure too
  have hpre : ∀ pre f post, fs = pre ++ f :: post →
      ((applyAll w given false pre : StateM FileTree Progress) t).1.Clean ∧
        ∀ g ∈ pre, g.Direct w given t := by
    intro pre f post hfs
    exact ⟨clean_of_append (hfs ▸ hclean), fun g hg => hd g (by simp [hfs, hg])⟩
  constructor
  · intro h pre f post l x hfs htarget htext
    obtain ⟨hbefore, hdirect⟩ := hpre pre f post hfs
    obtain ⟨l', x', htarget', hcan, htext'⟩ := hd f (by simp [hfs])
    rw [htarget] at htarget'
    cases htarget'
    exact (tellsAlike_direct hbefore hdirect htarget hcan htext).mp (h pre f post hfs)
  · intro h pre f post hfs
    obtain ⟨hbefore, hdirect⟩ := hpre pre f post hfs
    obtain ⟨l, x, htarget, hcan, htext⟩ := hd f (by simp [hfs])
    exact (tellsAlike_direct hbefore hdirect htarget hcan htext).mpr (h pre f post l x hfs htarget htext)

/-- **When a dry run and a status tell the truth.**  Let rule files be applied without a failed
change.  What a dry run and a status tell from the same tree is what the application tells exactly
when every rule file tells on that tree what it tells on the tree that the ones before it leave.

If every target is a text file and its own canonical path, this is so exactly when the outcomes of
the changes of every rule file are the same on the text that the rule files before it with the same
target leave; and it is always so if no two rule files have the same target. -/
theorem foretold_iff (w : Workspace) (given : Option Path) (fs : List RuleFile) (t : FileTree)
    (hclean : ((applyAll w given false fs : StateM FileTree Progress) t).1.Clean) :
    (Foretold w given fs t ↔ ∀ pre f post, fs = pre ++ f :: post →
      f.TellsAlike w given t (treeAfter w given pre t)) ∧
    ((∀ f ∈ fs, f.Direct w given t) →
      (Foretold w given fs t ↔ ∀ pre f post l x, fs = pre ++ f :: post →
        f.targetIn w given t = .ok l → t.textAt? l = some x →
        (planAll (planAll ⟨x⟩ (sharing w given t l pre)).1 f.changes).2.map (·.outcome) =
          (planAll ⟨x⟩ f.changes).2.map (·.outcome)) ∧
      (fs.Pairwise (fun f g => f.targetIn w given t ≠ g.targetIn w given t) →
        Foretold w given fs t)) := by
  refine ⟨foretold_iff_tellsAlike hclean, fun hd => ?_⟩
  have htexts := foretold_iff_of_direct hclean hd
  refine ⟨htexts, fun hpair => htexts.mpr ?_⟩
  rintro pre f post l x rfl htarget htext
  have hother : ∀ g ∈ pre, g.targetIn w given t ≠ .ok l := fun g hg =>
    htarget ▸ (List.pairwise_append.mp hpair).2.2 g hg f List.mem_cons_self
  rw [sharing_eq_nil hother]
  rfl

/-- A workspace that holds one file. -/
def oneFile : FileTree where
  entries := [([['w']], .directory 0o755), ([['w'], ['f']], .file (FileTree.encode ['x']) 0o644)]

/-- Two rule files for that file.  The second finds its landmark only after the first. -/
def addThenRename : List RuleFile :=
  [⟨none, ⟨"add", none, some "f"⟩, [Change.replacing "add" ['x'] ['x', 'a'] ['a']]⟩,
    ⟨none, ⟨"rename", none, some "f"⟩, [Change.replacing "rename" ['a'] ['b'] ['b']]⟩]

theorem addThenRename_clean :
    ((applyAll ⟨[['w']]⟩ none false addThenRename : StateM FileTree Progress) oneFile).1.Clean := by
  constructor
  · cbv
  · cbv

theorem addThenRename_target {f : RuleFile} (hf : f ∈ addThenRename) :
    f.targetIn ⟨[['w']]⟩ none oneFile = .ok [['w'], ['f']] := by
  simp only [addThenRename, List.mem_cons, List.not_mem_nil, or_false] at hf
  rcases hf with rfl | rfl
  · cbv
  · cbv

/-- The second rule file is applied, and a dry run tells that it would be skipped. -/
theorem addThenRename_not_foretold :
    ((applyAll ⟨[['w']]⟩ none false addThenRename : StateM FileTree Progress) oneFile).1.Clean ∧
    ¬ Foretold ⟨[['w']]⟩ none addThenRename oneFile := by
  have hreal : ((applyAll ⟨[['w']]⟩ none false addThenRename : StateM FileTree Progress)
      oneFile).1.verdicts =
      [⟨"add", "add", .applied "add"⟩, ⟨"rename", "rename", .applied "rename"⟩] := by cbv
  have hdry : ((applyAll ⟨[['w']]⟩ none true addThenRename : StateM FileTree Progress)
      oneFile).1.verdicts =
      [⟨"add", "add", .applied "add"⟩, ⟨"rename", "rename", .skipped⟩] := by cbv
  refine ⟨addThenRename_clean, fun h => ?_⟩
  have hsame := h.1
  rw [hreal, hdry] at hsame
  exact absurd hsame (by decide)

/-- Both targets are direct and the same, and the outcome of the second change is not the same on
the text that the first leaves. -/
theorem foretold_iff_addThenRename :
    ((applyAll ⟨[['w']]⟩ none false addThenRename : StateM FileTree Progress) oneFile).1.Clean ∧
    (∀ f ∈ addThenRename, f.Direct ⟨[['w']]⟩ none oneFile) ∧
    ¬ ∀ pre f post, addThenRename = pre ++ f :: post →
      f.TellsAlike ⟨[['w']]⟩ none oneFile (treeAfter ⟨[['w']]⟩ none pre oneFile) := by
  have hcan : oneFile.IsCanonical [['w'], ['f']] := by
    unfold FileTree.IsCanonical
    cbv
  have htext : oneFile.textAt? [['w'], ['f']] = some ['x'] := by cbv
  have hdirect : ∀ f ∈ addThenRename, f.Direct ⟨[['w']]⟩ none oneFile := fun f hf =>
    ⟨_, _, addThenRename_target hf, hcan, htext⟩
  obtain ⟨hexact, htexts⟩ := foretold_iff _ _ _ _ addThenRename_clean
  refine ⟨addThenRename_clean, hdirect, fun h => ?_⟩
  have houtcomes := (htexts hdirect).1.mp (hexact.mpr h) [addThenRename[0]] addThenRename[1] [] _ _
    rfl (addThenRename_target (by simp [addThenRename])) htext
  cbv at houtcomes
  cases houtcomes

end Graft
