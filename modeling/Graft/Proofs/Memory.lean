import Graft.Proofs.Edit
import Graft.Proofs.FileTree
import Graft.Proofs.Patch
import Graft.Store.Memory

/-!
# Texts in memory

What reading, writing, checking and patching do to a store in memory, one use after another.

* `Memory.get?_update`: where a plan applies nothing it leaves the text alone, so not writing the
  result cannot be told from writing it.
* `patch_each_patchAll`: changes that are patched in one by one give the reports and the texts of
  the same changes patched in at once, and differ only in how often they write.
* `Step.lawful`: what one use of the store may change, and what it tells about that.
* `runSteps_lawful`: so it is along every run, texts that no step names stay, and the write count is
  the number of writes that the answers tell of.
-/

namespace Graft

namespace Memory

variable {s : Memory} {p q : Path} {t x : Text}

theorem get?_congr (h : q.components = p.components) : s.get? q = s.get? p := by
  rw [get?, h, ← get?]

@[simp] theorem get?_write_self : (write p t s).get? p = some t := by
  simp [get?, write, put]

theorem get?_write_of_ne (h : q.components ≠ p.components) : (write p t s).get? q = s.get? q := by
  have hbeq : (q.components == p.components) = false := by simpa using h
  rw [get?, get?, write, put]
  simp only [List.lookup_cons, hbeq, lookup_filter_ne h]

/-- The store with a text written, if there is something to write. -/
def update (s : Memory) (p : Path) (applied : Bool) (t : Text) : Memory :=
  if applied then write p t s else s

theorem writes_update (applied : Bool) :
    (s.update p applied t).writes = s.writes + applied.toNat := by
  cases applied <;> rfl

/-- **Not writing a text that stays is like writing it.** -/
theorem get?_update {applied : Bool} (hx : s.get? p = some x) (ht : applied = false → t = x)
    (q : Path) : (s.update p applied t).get? q =
      if q.components = p.components then some t else s.get? q := by
  split
  · next h =>
      rw [get?_congr h]
      cases applied with
      | true => exact get?_write_self
      | false => rw [ht rfl]; exact hx
  · next h =>
      cases applied with
      | true => exact get?_write_of_ne h
      | false => rfl

/-! ### What each use does -/

theorem run_memoryRead (p : Path) (s : Memory) :
    ((readText p : ExceptT StoreError (StateM Memory) Text) s).2 = s := rfl

theorem textIn_of_get? (hx : s.get? p = some x) : textIn s p = .ok x := by
  show read p s = .ok x
  rw [read, hx]

theorem textIn_of_missing (hp : s.get? p = none) : textIn s p = .error (.notFound p) := by
  show read p s = _
  rw [read, hp]

theorem run_memoryWrite (p : Path) (t : Text) (s : Memory) :
    (writeText p t : ExceptT StoreError (StateM Memory) Unit) s = (.ok (), write p t s) := rfl

theorem patch_of_get? (hx : s.get? p = some x) (c : Change) :
    (patch p c : ExceptT StoreError (StateM Memory) Report) s =
      (.ok (c.plan ⟨x⟩).2,
        s.update p (c.plan ⟨x⟩).2.outcome.isApplied (c.plan ⟨x⟩).1.text) := by
  rw [patch_run run_memoryRead, textIn_of_get? hx]
  simp only [run_memoryWrite, update]
  split <;> rfl

theorem check_of_get? (hx : s.get? p = some x) (cs : List Change) :
    (check p cs : ExceptT StoreError (StateM Memory) FileReport) s =
      (.ok (.ofPlan p cs x), s) := by
  rw [check_run run_memoryRead, textIn_of_get? hx]
  rfl

theorem patchAll_of_get? (hx : s.get? p = some x) (cs : List Change) :
    (patchAll p cs : ExceptT StoreError (StateM Memory) FileReport) s =
      let report := FileReport.ofPlan p cs x
      (.ok { report with written := report.anyApplied },
        s.update p report.anyApplied report.after) := by
  rw [patchAll_run run_memoryRead, textIn_of_get? hx]
  simp only [run_memoryWrite, update]
  cases hany : (FileReport.ofPlan p cs x).anyApplied with
  | true => rfl
  | false => rfl

end Memory

/-! ### One by one and at once -/

theorem Change.plan_text_of_not_applied {c : Change} {d : Document}
    (h : (c.plan d).2.outcome.isApplied = false) : (c.plan d).1.text = d.text := by
  by_contra hne
  rw [Change.isApplied_iff_text_ne.mpr hne] at h
  cases h

theorem Memory.get?_planned {s : Memory} {p : Path} {x : Text} (hx : s.get? p = some x) (c : Change)
    (q : Path) :
    (s.update p (c.plan ⟨x⟩).2.outcome.isApplied (c.plan ⟨x⟩).1.text).get? q =
      if q.components = p.components then some (c.plan ⟨x⟩).1.text else s.get? q :=
  Memory.get?_update hx Change.plan_text_of_not_applied q

theorem Memory.get?_plannedAll {s : Memory} {p : Path} {x : Text} (hx : s.get? p = some x)
    (cs : List Change) (q : Path) :
    (s.update p (FileReport.ofPlan p cs x).anyApplied (FileReport.ofPlan p cs x).after).get? q =
      if q.components = p.components then some (planAll ⟨x⟩ cs).1.text else s.get? q :=
  Memory.get?_update hx FileReport.ofPlan_after q

/-- **Changes patched in one by one**: the reports are those of the plan, the text at the path is
what the plan leaves, and each change that is applied writes once. -/
theorem Memory.patchEach_of_get? {s : Memory} {p : Path} {x : Text} (hx : s.get? p = some x)
    (cs : List Change) :
    ∃ s', (cs.mapM (patch p) : ExceptT StoreError (StateM Memory) (List Report)) s =
        (.ok (planAll ⟨x⟩ cs).2, s') ∧
      (∀ q, s'.get? q =
        if q.components = p.components then some (planAll ⟨x⟩ cs).1.text else s.get? q) ∧
      s'.writes = s.writes + (planAll ⟨x⟩ cs).2.countP (·.outcome.isApplied) := by
  induction cs generalizing s x with
  | nil =>
      refine ⟨s, rfl, fun q => ?_, rfl⟩
      split
      · next h => rw [Memory.get?_congr h]; exact hx
      · rfl
  | cons c cs ih =>
      have hstep := Memory.get?_planned hx c
      have hnext : planAll ⟨(c.plan ⟨x⟩).1.text⟩ cs = planAll (c.plan ⟨x⟩).1 cs := rfl
      -- the next change reads the text that this one has left
      obtain ⟨s', hrun, htexts, hwrites⟩ := ih (by simpa using hstep p)
      rw [hnext] at hrun hwrites
      refine ⟨s', ?_, fun q => ?_, ?_⟩
      · rw [List.mapM_cons, run_bind, Memory.patch_of_get? hx]
        simp only [andThen, run_bind, hrun]
        rfl
      · rw [htexts, planAll_cons, hnext]
        split
        · rfl
        · next h => rw [hstep, if_neg h]
      · rw [hwrites, Memory.writes_update, planAll_cons, List.countP_cons]
        cases (c.plan ⟨x⟩).2.outcome.isApplied with
        | true => simp; omega
        | false => simp

theorem toNat_any {α : Type} (f : α → Bool) (as : List α) :
    (as.any f).toNat = min 1 (as.countP f) := by
  cases hany : as.any f with
  | true =>
      have hpos : 0 < as.countP f := List.countP_pos_iff.mpr (List.any_eq_true.mp hany)
      rw [Nat.min_eq_left hpos]
      rfl
  | false =>
      have hzero : as.countP f = 0 := List.countP_eq_zero.mpr (List.any_eq_false.mp hany)
      simp [hzero]

/-- **One by one or at once.**  For every path of the store and every list of changes, patching the
changes in one after another and patching them in at once both succeed, with the same reports and
the same texts at every path.  The first writes as often as a change is applied, the second once if
one is. -/
theorem patch_each_patchAll (s : Memory) (p : Path) (cs : List Change) (hp : (s.get? p).isSome) :
    ∃ reports each report all,
      (cs.mapM (patch p) : ExceptT StoreError (StateM Memory) (List Report)) s =
        (.ok reports, each) ∧
      (patchAll p cs : ExceptT StoreError (StateM Memory) FileReport) s = (.ok report, all) ∧
      report.reports = reports ∧ (∀ q, each.get? q = all.get? q) ∧
      each.writes = s.writes + reports.countP (·.outcome.isApplied) ∧
      all.writes = s.writes + min 1 (reports.countP (·.outcome.isApplied)) := by
  obtain ⟨x, hx⟩ := Option.isSome_iff_exists.mp hp
  obtain ⟨each, heach, htexts, hwrites⟩ := Memory.patchEach_of_get? hx cs
  refine ⟨_, each, _, _, heach, Memory.patchAll_of_get? hx cs, rfl, fun q => ?_, hwrites, ?_⟩
  · exact (htexts q).trans (Memory.get?_plannedAll hx cs q).symm
  · rw [Memory.writes_update, ← toNat_any]
    rfl

/-- A store that holds one text. -/
def oneText : Memory := ⟨[([.name ['f']], ['x'])], 0⟩

/-- Two changes are applied: one by one they are two writes, at once one. -/
theorem patch_each_patchAll_addThenRename :
    let cs := [Change.replacing "add" ['x'] ['x', 'a'] ['a'],
      Change.replacing "rename" ['a'] ['b'] ['b']]
    (oneText.get? ⟨['f']⟩).isSome ∧ ∃ reports each report all,
      (cs.mapM (patch ⟨['f']⟩) : ExceptT StoreError (StateM Memory) (List Report)) oneText =
        (.ok reports, each) ∧
      (patchAll ⟨['f']⟩ cs : ExceptT StoreError (StateM Memory) FileReport) oneText =
        (.ok report, all) ∧
      report.reports = reports ∧ (∀ q, each.get? q = all.get? q) ∧
      each.writes = 2 ∧ all.writes = 1 := by
  intro cs
  have hp : (oneText.get? ⟨['f']⟩).isSome := by decide
  obtain ⟨reports, each, report, all, heach, hall, hreports, htexts, hwrites, hwrites'⟩ :=
    patch_each_patchAll oneText ⟨['f']⟩ cs hp
  have hcount : reports.countP (·.outcome.isApplied) = 2 := by
    have heval : ((cs.mapM (patch ⟨['f']⟩) : ExceptT StoreError (StateM Memory) (List Report))
        oneText).1.toOption.map (·.countP (·.outcome.isApplied)) = some 2 := by decide +kernel
    rw [heach] at heval
    exact Option.some.inj heval
  rw [hcount] at hwrites hwrites'
  exact ⟨hp, reports, each, report, all, heach, hall, hreports, htexts, hwrites, hwrites'⟩

/-! ### Steps -/

/-- One use of a store. -/
inductive Step where
  | read (path : Path)
  | write (path : Path) (text : Text)
  | patch (path : Path) (change : Change)
  | patchAll (path : Path) (changes : List Change)
  | check (path : Path) (changes : List Change)

/-- What a step answers. -/
inductive Answer where
  | text (t : Text)
  | done
  | report (r : Report)
  | file (r : FileReport)

namespace Step

def path : Step → Path
  | .read p | .write p _ | .patch p _ | .patchAll p _ | .check p _ => p

def run : Step → ExceptT StoreError (StateM Memory) Answer
  | .read p        => .text <$> readText p
  | .write p t     => (fun _ => .done) <$> writeText p t
  | .patch p c     => .report <$> Graft.patch p c
  | .patchAll p cs => .file <$> Graft.patchAll p cs
  | .check p cs    => .file <$> Graft.check p cs

end Step

/-- The answer, told as if nothing had been written. -/
def Answer.unwritten : Answer → Answer
  | .file r => .file { r with written := false }
  | a       => a

/-- How many writes an answer tells of. -/
def Answer.writes : Answer → Nat
  | .text _   => 0
  | .done     => 1
  | .report r => r.outcome.isApplied.toNat
  | .file r   => r.written.toNat

/-- The writes that the outcome of a step tells of; a step that fails writes nothing. -/
def writesTold : Except StoreError Answer → Nat
  | .ok a    => a.writes
  | .error _ => 0

namespace Step

/-- What a step does to the text at its path and to the count of writes, and what it tells about
that.
* Reading changes nothing and answers the text; writing puts its text in place.
* A patch changes the text, and counts one write, exactly if its change is applied.
* A patch of several changes writes, and says so, once if some change is applied and otherwise not,
  and leaves the text that it reports.
* A check changes nothing, and answers what a patch would, but that nothing is written. -/
def Effect (s s' : Memory) (answer : Except StoreError Answer) : Step → Prop
  | .read p       => s' = s ∧ ∀ x, s.get? p = some x → answer = .ok (.text x)
  | .write p t    => s'.get? p = some t ∧ s'.writes = s.writes + 1
  | .patch p _    => (∃ why, answer = .error why) ∨ ∃ report, answer = .ok (.report report) ∧
      (s'.get? p ≠ s.get? p ↔ report.outcome.isApplied = true) ∧
      s'.writes = s.writes + report.outcome.isApplied.toNat
  | .patchAll p _ => (∃ why, answer = .error why) ∨ ∃ report, answer = .ok (.file report) ∧
      report.written = report.anyApplied ∧ s'.writes = s.writes + report.anyApplied.toNat ∧
      s'.get? p = some report.after
  | .check p cs   => s' = s ∧ answer = ((Step.patchAll p cs).run s).1.map Answer.unwritten

/-- What a step may do to a store. -/
structure Lawful (st : Step) (s s' : Memory) (answer : Except StoreError Answer) : Prop where
  /-- The texts at other paths stay. -/
  frame : ∀ q, q.components ≠ st.path.components → s'.get? q = s.get? q
  /-- A step that fails changes nothing. -/
  failed : ∀ why, answer = .error why → s' = s
  /-- A step on a text that is there does not fail. -/
  succeeded : (s.get? st.path).isSome → ∃ a, answer = .ok a
  /-- The count grows by the writes that the answer tells of. -/
  count : s'.writes = s.writes + writesTold answer
  effect : st.Effect s s' answer

variable {s : Memory} {st : Step}

/-- A step on a text that is not there fails, if it does not put one there. -/
theorem run_of_missing (hp : s.get? st.path = none) (hw : ∀ p t, st ≠ .write p t) :
    st.run s = (.error (.notFound st.path), s) := by
  cases st with
  | write p t => exact absurd rfl (hw p t)
  | read p | patch p _ | patchAll p _ | check p _ =>
      have htext := Memory.textIn_of_missing (p := p) hp
      simp only [run, run_map, run_readText Memory.run_memoryRead, patch_run Memory.run_memoryRead,
        patchAll_run Memory.run_memoryRead, check_run Memory.run_memoryRead, htext]
      rfl

theorem run_patch {p : Path} {x : Text} (hx : s.get? p = some x) (c : Change) :
    (Step.patch p c).run s = (.ok (.report (c.plan ⟨x⟩).2),
      s.update p (c.plan ⟨x⟩).2.outcome.isApplied (c.plan ⟨x⟩).1.text) := by
  rw [run, run_map, Memory.patch_of_get? hx]
  rfl

theorem run_patchAll {p : Path} {x : Text} (hx : s.get? p = some x) (cs : List Change) :
    (Step.patchAll p cs).run s =
      let report := FileReport.ofPlan p cs x
      (.ok (.file { report with written := report.anyApplied }),
        s.update p report.anyApplied report.after) := by
  rw [run, run_map, Memory.patchAll_of_get? hx]
  rfl

theorem run_check {p : Path} {x : Text} (hx : s.get? p = some x) (cs : List Change) :
    (Step.check p cs).run s = (.ok (.file (.ofPlan p cs x)), s) := by
  rw [run, run_map, Memory.check_of_get? hx]
  rfl

theorem run_read {p : Path} {x : Text} (hx : s.get? p = some x) :
    (Step.read p).run s = (.ok (.text x), s) := by
  rw [run, run_map, run_readText Memory.run_memoryRead, Memory.textIn_of_get? hx]
  rfl

theorem lawful_of_missing (hp : s.get? st.path = none) (hw : ∀ p t, st ≠ .write p t) :
    st.Lawful s (st.run s).2 (st.run s).1 := by
  rw [run_of_missing hp hw]
  refine ⟨fun _ _ => rfl, fun _ _ => rfl, fun h => ?_, rfl, ?_⟩
  · rw [hp] at h; cases h
  · cases st with
    | read p => exact ⟨rfl, fun x hx => (nomatch hp.symm.trans hx)⟩
    | write p t => exact absurd rfl (hw p t)
    | patch p c => exact .inl ⟨_, rfl⟩
    | patchAll p cs => exact .inl ⟨_, rfl⟩
    | check p cs =>
        -- a patch would have failed in the same way
        have hpatch : (Step.patchAll p cs).run s = _ := run_of_missing hp (fun _ _ h => (nomatch h))
        exact ⟨rfl, by rw [hpatch]; rfl⟩

theorem lawful_read {p : Path} {x : Text} (hx : s.get? p = some x) :
    (Step.read p).Lawful s ((Step.read p).run s).2 ((Step.read p).run s).1 := by
  rw [run_read hx]
  refine ⟨fun _ _ => rfl, fun _ _ => rfl, fun _ => ⟨_, rfl⟩, rfl, rfl, fun y hy => ?_⟩
  rw [hx] at hy
  cases hy
  rfl

theorem lawful_write (p : Path) (t : Text) (s : Memory) :
    (Step.write p t).Lawful s (s.write p t) (.ok .done) :=
  ⟨fun _ hq => Memory.get?_write_of_ne hq, fun _ h => (nomatch h), fun _ => ⟨_, rfl⟩, rfl,
    Memory.get?_write_self, rfl⟩

theorem lawful_patch {p : Path} {x : Text} (hx : s.get? p = some x) (c : Change) :
    (Step.patch p c).Lawful s ((Step.patch p c).run s).2 ((Step.patch p c).run s).1 := by
  rw [run_patch hx]
  have htexts := Memory.get?_planned hx c
  refine ⟨fun q hq => ?_, fun _ h => (nomatch h), fun _ => ⟨_, rfl⟩, Memory.writes_update _,
    .inr ⟨_, rfl, ?_, Memory.writes_update _⟩⟩
  · exact (htexts q).trans (if_neg hq)
  · rw [htexts p, if_pos rfl, hx, Change.isApplied_iff_text_ne]
    simp

theorem lawful_patchAll {p : Path} {x : Text} (hx : s.get? p = some x) (cs : List Change) :
    (Step.patchAll p cs).Lawful s ((Step.patchAll p cs).run s).2 ((Step.patchAll p cs).run s).1 := by
  rw [run_patchAll hx]
  have htexts := Memory.get?_plannedAll hx cs
  refine ⟨fun q hq => ?_, fun _ h => (nomatch h), fun _ => ⟨_, rfl⟩, Memory.writes_update _,
    .inr ⟨_, rfl, rfl, Memory.writes_update _, ?_⟩⟩
  · exact (htexts q).trans (if_neg hq)
  · exact (htexts p).trans (if_pos rfl)

theorem lawful_check {p : Path} {x : Text} (hx : s.get? p = some x) (cs : List Change) :
    (Step.check p cs).Lawful s ((Step.check p cs).run s).2 ((Step.check p cs).run s).1 := by
  rw [run_check hx]
  refine ⟨fun _ _ => rfl, fun _ h => (nomatch h), fun _ => ⟨_, rfl⟩, rfl, rfl, ?_⟩
  rw [run_patchAll hx]
  rfl

/-- **What one step may do**, from any state of the store. -/
theorem lawful (st : Step) (s : Memory) : st.Lawful s (st.run s).2 (st.run s).1 := by
  by_cases hw : ∀ p t, st ≠ .write p t
  · cases hp : s.get? st.path with
    | none => exact lawful_of_missing hp hw
    | some x =>
        cases st with
        | read p => exact lawful_read hp
        | write p t => exact absurd rfl (hw p t)
        | patch p c => exact lawful_patch hp c
        | patchAll p cs => exact lawful_patchAll hp cs
        | check p cs => exact lawful_check hp cs
  · simp only [ne_eq, not_forall, not_not] at hw
    obtain ⟨p, t, rfl⟩ := hw
    exact lawful_write p t s

end Step

/-! ### Runs of steps -/

/-- The answers of steps, one after another, and the store that they leave. -/
def runSteps : List Step → Memory → List (Except StoreError Answer) × Memory
  | [], s          => ([], s)
  | st :: steps, s =>
      let (answer, s') := st.run s
      let (answers, s'') := runSteps steps s'
      (answer :: answers, s'')

theorem runSteps_cons (st : Step) (steps : List Step) (s : Memory) :
    runSteps (st :: steps) s =
      ((st.run s).1 :: (runSteps steps (st.run s).2).1, (runSteps steps (st.run s).2).2) := rfl

theorem runSteps_append (steps steps' : List Step) (s : Memory) :
    runSteps (steps ++ steps') s =
      ((runSteps steps s).1 ++ (runSteps steps' (runSteps steps s).2).1,
        (runSteps steps' (runSteps steps s).2).2) := by
  induction steps generalizing s with
  | nil => rfl
  | cons st steps ih => simp only [List.cons_append, runSteps_cons, ih]

theorem length_runSteps (steps : List Step) (s : Memory) :
    (runSteps steps s).1.length = steps.length := by
  induction steps generalizing s with
  | nil => rfl
  | cons st steps ih => rw [runSteps_cons, List.length_cons, List.length_cons, ih]

theorem runSteps_frame {steps : List Step} {q : Path}
    (hq : ∀ st ∈ steps, q.components ≠ st.path.components) (s : Memory) :
    (runSteps steps s).2.get? q = s.get? q := by
  induction steps generalizing s with
  | nil => rfl
  | cons st steps ih =>
      obtain ⟨hst, hsteps⟩ := List.forall_mem_cons.mp hq
      exact (ih hsteps _).trans ((st.lawful s).frame q hst)

theorem runSteps_writes (steps : List Step) (s : Memory) :
    (runSteps steps s).2.writes = s.writes + ((runSteps steps s).1.map writesTold).sum := by
  induction steps generalizing s with
  | nil => rfl
  | cons st steps ih =>
      rw [runSteps_cons, List.map_cons, List.sum_cons, ih, (st.lawful s).count]
      omega

/-- **Stores along a run.**  For every store and every list of steps, each step does to the store
that the steps before it leave what `Step.Lawful` allows, and answers accordingly.  So a text that
no step names stays, and the count of writes grows by the writes that the answers tell of. -/
theorem runSteps_lawful (s : Memory) (steps : List Step) :
    (∀ pre st post, steps = pre ++ st :: post → ∃ answer,
      (runSteps steps s).1[pre.length]? = some answer ∧
      st.Lawful (runSteps pre s).2 (runSteps (pre ++ [st]) s).2 answer) ∧
    (∀ q, (∀ st ∈ steps, q.components ≠ st.path.components) →
      (runSteps steps s).2.get? q = s.get? q) ∧
    (runSteps steps s).2.writes = s.writes + ((runSteps steps s).1.map writesTold).sum := by
  refine ⟨?_, fun q hq => runSteps_frame hq s, runSteps_writes steps s⟩
  rintro pre st post rfl
  refine ⟨(st.run (runSteps pre s).2).1, ?_, ?_⟩
  · rw [runSteps_append, runSteps_cons, ← length_runSteps pre s, List.getElem?_append_right le_rfl,
      Nat.sub_self]
    rfl
  · rw [runSteps_append]
    exact st.lawful _

end Graft
