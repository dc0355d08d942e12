import Graft.Plan
import Mathlib

/-!
# Runs of changes

What a run over a document keeps, for every document and every list of changes.

* `Change.plan_cases`: the three ways a change ends.  It was in place, a rule landed, or no rule
  lands; only the second gives a new document, and that one carries the marker.
* `Change.plan_rerun`: a change that has run once does nothing the second time.
* `planAll_rerun_iff`: several changes do nothing the second time exactly when each of them is
  still *settled* at the end: its marker is present, or none of its rules lands
  (`Change.Settled`).  Each change is settled after its own turn, so only a later change can undo
  that, and `planAll_rerun_unsettled` is a run in which one does.
* `planAll_balance`: the balance of the document never changes.
-/

namespace Graft

/-! ### The chain -/

/-- A rule lands at `d'` when its attempt leads there and `d'` carries the marker. -/
theorem Rule.land_eq_ok_iff {r : Rule} {m : Marker} {d d' : Document} :
    r.land m d = .ok d' ↔ r.attempt d = .ok d' ∧ m.present d' = true := by
  unfold Rule.land
  cases r.attempt d with
  | error why => simp
  | ok e =>
      by_cases h : m.present e = true
      · simp only [h, if_true, Except.ok.injEq]
        exact ⟨fun he => ⟨he, he ▸ h⟩, fun he => he.1⟩
      · simp only [h, Except.ok.injEq]
        exact ⟨fun he => (nomatch he), fun ⟨he, hm⟩ => absurd (he ▸ hm) h⟩

/-- **What a chain can do**: keep the result of a rule that lands, or leave the document alone
because none does. -/
theorem runChain_cases (d : Document) (m : Marker) (rs : List Rule) :
    (∃ r ∈ rs, ∃ d', r.land m d = .ok d' ∧ (runChain d m rs).document = d' ∧
      (runChain d m rs).applied = some r.id) ∨
    ((∀ r ∈ rs, ∀ d', r.land m d ≠ .ok d') ∧ (runChain d m rs).document = d ∧
      (runChain d m rs).applied = none) := by
  induction rs with
  | nil => exact .inr ⟨fun _ hr => (nomatch hr), rfl, rfl⟩
  | cons r rs ih =>
      cases hland : r.land m d with
      | ok d' =>
          exact .inl ⟨r, List.mem_cons_self, d', hland, by simp [runChain, hland],
            by simp [runChain, hland]⟩
      | error why =>
          -- the first rule misses, and the chain goes on as the chain of the others
          have hdoc : (runChain d m (r :: rs)).document = (runChain d m rs).document := by
            simp [runChain, hland]
          have happ : (runChain d m (r :: rs)).applied = (runChain d m rs).applied := by
            simp [runChain, hland]
          rw [hdoc, happ]
          rcases ih with ⟨q, hq, d', h⟩ | ⟨hno, h⟩
          · exact .inl ⟨q, List.mem_cons_of_mem _ hq, d', h⟩
          · refine .inr ⟨fun q hq d' => ?_, h⟩
            rcases List.mem_cons.mp hq with rfl | hq
            · rw [hland]; exact fun h => (nomatch h)
            · exact hno q hq d'

/-! ### One change -/

namespace Change

/-- **The three ways a change ends.** -/
theorem plan_cases (c : Change) (d : Document) :
    (c.marker.present d = true ∧ c.plan d = (d, ⟨c.id, .alreadyApplied, []⟩)) ∨
    (c.marker.present d = false ∧ ∃ r ∈ c.rules, ∃ d' attempts, r.land c.marker d = .ok d' ∧
      c.plan d = (d', ⟨c.id, .applied r.id, attempts⟩)) ∨
    (c.marker.present d = false ∧ (∀ r ∈ c.rules, ∀ d', r.land c.marker d ≠ .ok d') ∧
      ∃ attempts, c.plan d = (d, ⟨c.id, .skipped, attempts⟩)) := by
  cases hm : c.marker.present d with
  | true => exact .inl ⟨rfl, by simp [plan, hm]⟩
  | false =>
      refine .inr ?_
      rcases runChain_cases d c.marker c.rules with
        ⟨r, hr, d', hland, hdoc, happ⟩ | ⟨hno, hdoc, happ⟩
      · refine .inl ⟨rfl, r, hr, d', (runChain d c.marker c.rules).attempts, hland, ?_⟩
        simp [plan, hm, hdoc, happ]
      · refine .inr ⟨rfl, hno, (runChain d c.marker c.rules).attempts, ?_⟩
        simp [plan, hm, hdoc, happ]

/-- A change is settled on a document when running it there would not apply it: its marker is
present, or none of its rules lands. -/
def Settled (c : Change) (d : Document) : Prop :=
  c.marker.present d = true ∨ ∀ r ∈ c.rules, ∀ d', r.land c.marker d ≠ .ok d'

/-- Exactly the changes that are not settled are applied. -/
theorem settled_iff {c : Change} {d : Document} :
    c.Settled d ↔ (c.plan d).2.outcome.isApplied = false := by
  rcases plan_cases c d with ⟨hm, h⟩ | ⟨hm, r, hr, d', a, hland, h⟩ | ⟨hm, hno, a, h⟩
  · simp [h, Settled, hm, Outcome.isApplied]
  · refine ⟨fun hs => ?_, fun hn => by simp [h, Outcome.isApplied] at hn⟩
    rcases hs with hp | hno
    · rw [hm] at hp; cases hp
    · exact absurd hland (hno r hr d')
  · simp only [h, Outcome.isApplied, iff_true]
    exact .inr hno

/-- A settled change leaves the document alone. -/
theorem plan_of_settled {c : Change} {d : Document} (hs : c.Settled d) : (c.plan d).1 = d := by
  rcases plan_cases c d with ⟨-, h⟩ | ⟨-, r, -, d', a, -, h⟩ | ⟨-, -, a, h⟩
  · rw [h]
  · have hn := settled_iff.mp hs
    rw [h] at hn
    cases hn
  · rw [h]

/-- After its turn a change is settled: a rule that landed has left the marker behind. -/
theorem settled_plan (c : Change) (d : Document) : c.Settled (c.plan d).1 := by
  rcases plan_cases c d with ⟨hm, h⟩ | ⟨-, r, -, d', a, hland, h⟩ | ⟨-, hno, a, h⟩
  · rw [h]; exact .inl hm
  · rw [h]; exact .inl (Rule.land_eq_ok_iff.mp hland).2
  · rw [h]; exact .inr hno

/-- **A change that has run once does nothing the second time.**  The second run leaves the first
run's document as it is.  If the first run ended with the marker in place, the second finds it
there and tries no rule; if the first run was skipped, so is the second, for the same reasons. -/
theorem plan_rerun (d : Document) (c : Change) :
    let first := c.plan d
    let second := c.plan first.1
    second.1 = first.1 ∧
    ((∃ rule, first.2.outcome = .applied rule) ∨ first.2.outcome = .alreadyApplied →
      second.2.outcome = .alreadyApplied ∧ second.2.attempts = []) ∧
    (first.2.outcome = .skipped → first.1 = d ∧ second.2 = first.2) ∧
    (first.2.outcome = .skipped ↔ c.marker.present first.1 = false) ∧
    second.2.outcome.isApplied = false := by
  intro first second
  have hsame : second.1 = first.1 := plan_of_settled (settled_plan c d)
  have hnot : second.2.outcome.isApplied = false := settled_iff.mp (settled_plan c d)
  have found : c.marker.present first.1 = true →
      second = (first.1, ⟨c.id, .alreadyApplied, []⟩) := by
    intro hm
    show c.plan first.1 = _
    rw [plan, if_pos hm]
  -- only a first run that was skipped leaves the marker absent
  have hcases : (first.2.outcome ≠ .skipped ∧ c.marker.present first.1 = true) ∨
      (first.2.outcome = .skipped ∧ first.1 = d ∧ c.marker.present first.1 = false) := by
    rcases plan_cases c d with ⟨hm, h⟩ | ⟨-, r, -, d', a, hland, h⟩ | ⟨hm, -, a, h⟩
    · exact .inl (by simpa [first, h] using hm)
    · exact .inl (by simpa [first, h] using (Rule.land_eq_ok_iff.mp hland).2)
    · exact .inr (by simpa [first, h] using hm)
  rcases hcases with ⟨hout, hm⟩ | ⟨hout, hdoc, hm⟩
  · refine ⟨hsame, fun _ => ?_, fun h => absurd h hout, ?_, hnot⟩
    · rw [found hm]; exact ⟨rfl, rfl⟩
    · exact ⟨fun h => absurd h hout, fun h => by rw [hm] at h; cases h⟩
  · refine ⟨hsame, fun h => ?_, fun _ => ⟨hdoc, ?_⟩, ⟨fun _ => hm, fun _ => hout⟩, hnot⟩
    · rcases h with ⟨rule, h⟩ | h <;> rw [hout] at h <;> cases h
    · show (c.plan first.1).2 = (c.plan d).2
      rw [hdoc]

end Change

/-! ### Several changes -/

@[simp] theorem planAll_nil (d : Document) : planAll d [] = (d, []) := rfl

theorem planAll_cons (d : Document) (c : Change) (cs : List Change) :
    planAll d (c :: cs) =
      ((planAll (c.plan d).1 cs).1, (c.plan d).2 :: (planAll (c.plan d).1 cs).2) := rfl

/-- Running two lists of changes is running the second on what the first leaves. -/
theorem planAll_append (d : Document) (cs cs' : List Change) :
    planAll d (cs ++ cs') =
      ((planAll (planAll d cs).1 cs').1, (planAll d cs).2 ++ (planAll (planAll d cs).1 cs').2) := by
  induction cs generalizing d with
  | nil => rfl
  | cons c cs ih => simp only [List.cons_append, planAll_cons, ih]

theorem planAll_concat (d : Document) (cs : List Change) (c : Change) :
    (planAll d (cs ++ [c])).1 = (c.plan (planAll d cs).1).1 := by
  rw [planAll_append]; rfl

/-- A run applies nothing exactly when every change is settled on the document it starts from. -/
theorem planAll_settled_iff {d : Document} {cs : List Change} :
    (∀ c ∈ cs, c.Settled d) ↔ ∀ r ∈ (planAll d cs).2, r.outcome.isApplied = false := by
  induction cs with
  | nil => simp
  | cons c cs ih =>
      rw [planAll_cons, List.forall_mem_cons, List.forall_mem_cons, ← Change.settled_iff]
      refine and_congr_right fun hs => ?_
      rw [Change.plan_of_settled hs, ih]

theorem planAll_of_settled {d : Document} {cs : List Change} (hs : ∀ c ∈ cs, c.Settled d) :
    (planAll d cs).1 = d := by
  induction cs with
  | nil => rfl
  | cons c cs ih =>
      obtain ⟨hc, hcs⟩ := List.forall_mem_cons.mp hs
      rw [planAll_cons, Change.plan_of_settled hc]
      exact ih hcs

/-- In the run from `d`, no change that is applied unsettles a change that came before it. -/
def Undisturbed (d : Document) (cs : List Change) : Prop :=
  ∀ pre c mid c' post, cs = pre ++ c :: mid ++ c' :: post →
    (c'.plan (planAll d (pre ++ c :: mid)).1).2.outcome.isApplied = true →
    c.Settled (planAll d (pre ++ c :: mid)).1 →
    c.Settled (planAll d (pre ++ c :: mid ++ [c'])).1

theorem settled_after_turn (d : Document) (pre : List Change) (c : Change) :
    c.Settled (planAll d (pre ++ [c])).1 := by
  rw [planAll_concat]
  exact c.settled_plan _

/-- A change that no later one disturbs is still settled at the end. -/
theorem Undisturbed.settled {d : Document} {cs : List Change} (hu : Undisturbed d cs) :
    ∀ c ∈ cs, c.Settled (planAll d cs).1 := by
  intro c hc
  obtain ⟨pre, post, rfl⟩ := List.append_of_mem hc
  -- the changes after `c`, taken one by one from its turn on
  suffices h : ∀ mid rest, post = mid ++ rest → c.Settled (planAll d (pre ++ c :: mid)).1 from
    h post [] (List.append_nil post).symm
  intro mid
  induction mid using List.reverseRecOn with
  | nil => exact fun _ _ => settled_after_turn d pre c
  | append_singleton mid c' ih =>
      intro rest hpost
      have hmid := ih (c' :: rest) (by simp [hpost])
      by_cases happ : (c'.plan (planAll d (pre ++ c :: mid)).1).2.outcome.isApplied = true
      · have := hu pre c mid c' rest (by simp [hpost]) happ hmid
        simpa using this
      · have hc' : c'.Settled (planAll d (pre ++ c :: mid)).1 :=
          Change.settled_iff.mpr (Bool.not_eq_true _ ▸ happ)
        rw [← List.cons_append, ← List.append_assoc, planAll_concat, Change.plan_of_settled hc']
        exact hmid

/-- **When several changes do nothing the second time.**  Each change is settled after its own
turn.  A second run over the final document leaves it alone and applies nothing exactly when every
change is still settled there, and this is so whenever no applied change unsettles one before
it. -/
theorem planAll_rerun_iff (d : Document) (cs : List Change) :
    let final := (planAll d cs).1
    let second := planAll final cs
    let noop := second.1 = final ∧ ∀ r ∈ second.2, r.outcome.isApplied = false
    (∀ pre c post, cs = pre ++ c :: post → c.Settled (planAll d (pre ++ [c])).1) ∧
    (noop ↔ ∀ c ∈ cs, c.Settled final) ∧
    (Undisturbed d cs → noop) := by
  intro final second noop
  have hnoop : noop ↔ ∀ c ∈ cs, c.Settled final :=
    ⟨fun h => planAll_settled_iff.mpr h.2,
      fun h => ⟨planAll_of_settled h, planAll_settled_iff.mp h⟩⟩
  exact ⟨fun pre c _ _ => settled_after_turn d pre c, hnoop, fun hu => hnoop.mpr hu.settled⟩

/-- The change that puts `new` for the literal `old`, and is in place where `mark` stands. -/
def Change.replacing (id : String) (old new mark : Text)
    (hold : old.isEmpty = false := by exact .refl false)
    (hmark : mark.isEmpty = false := by exact .refl false) : Change :=
  ⟨id, ⟨⟨.literal mark, .other, hmark⟩, [], 0, none⟩,
    [⟨id, ⟨.literal old, .other, hold⟩, 0, false, .replace new⟩]⟩

/-- A change that adds `a` and one that turns `a` into `b`: the second takes the marker of the
first away, so a second run adds `a` again. -/
theorem planAll_rerun_unsettled :
    let cs := [Change.replacing "add" ['x'] ['x', 'a'] ['a'],
      Change.replacing "rename" ['a'] ['b'] ['b']]
    let final := (planAll ⟨['x']⟩ cs).1
    (planAll final cs).1 ≠ final ∧ ∃ r ∈ (planAll final cs).2, r.outcome.isApplied = true := by
  decide +kernel

/-! ### The balance -/

theorem Rule.commit_balance {d d' : Document} {e : Edit} (h : Rule.commit d e = .ok d') :
    Balance.of d'.text = Balance.of d.text := by
  unfold Rule.commit at h
  split at h
  · cases h
  · split at h
    · cases h
    · split at h
      · next hb => cases h; exact hb
      · cases h

theorem Rule.attempt_balance {r : Rule} {d d' : Document} (h : r.attempt d = .ok d') :
    Balance.of d'.text = Balance.of d.text := by
  unfold Rule.attempt at h
  split at h
  · cases h
  · next m _ =>
      cases he : r.plan d m with
      | error why => rw [he] at h; cases h
      | ok e => rw [he] at h; exact Rule.commit_balance h

theorem Change.plan_balance (c : Change) (d : Document) :
    Balance.of (c.plan d).1.text = Balance.of d.text := by
  rcases c.plan_cases d with ⟨-, h⟩ | ⟨-, r, -, d', a, hland, h⟩ | ⟨-, -, a, h⟩
  · rw [h]
  · rw [h]; exact Rule.attempt_balance (Rule.land_eq_ok_iff.mp hland).1
  · rw [h]

/-- **A run keeps the balance.**  Whatever the changes do, the document ends with as many openings
less closings of each kind of delimiter as it started with. -/
theorem planAll_balance (d : Document) (cs : List Change) :
    Balance.of (planAll d cs).1.text = Balance.of d.text := by
  induction cs generalizing d with
  | nil => rfl
  | cons c cs ih =>
      rw [planAll_cons]
      exact (ih (c.plan d).1).trans (c.plan_balance d)

end Graft
