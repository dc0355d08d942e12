import Graft.Proofs.Plan

/-!
# First landings

Which rule a chain keeps, and what it tells about the rules it tried.  A rule *lands* at a document
when its attempt leads there and the marker is present there (`Rule.Lands`); otherwise it *misses*,
for the reason of its own attempt or because the marker is not established (`Rule.Misses`).

* `Rule.misses_or_lands`: a rule that lands nowhere misses, and says why.
* `runChain_past`: rules that miss only add to the trace; the chain goes on as the chain of the
  rules after them.
* `runChain_keeps_first`: so the rule that is kept is the first that lands, the trace tells the
  misses before it and ends with it, and without a landing the trace tells all rules.
-/

namespace Graft

namespace Rule

/-- The rule leads from `d` to `d'`, and the marker is present there. -/
def Lands (r : Rule) (m : Marker) (d d' : Document) : Prop :=
  r.attempt d = .ok d' ∧ m.present d' = true

/-- Why the rule does not land: its attempt says why, or it leads to a document without the
marker. -/
inductive Misses (r : Rule) (m : Marker) (d : Document) : Miss → Prop where
  | attempt {why : Miss} (h : r.attempt d = .error why) : Misses r m d why
  | unmarked {d' : Document} (h : r.attempt d = .ok d') (hm : m.present d' = false) :
      Misses r m d .markerNotEstablished

/-- The attempt tells that the rule missed, and why. -/
def MissedBy (m : Marker) (d : Document) (r : Rule) (a : Attempt) : Prop :=
  ∃ why, a = ⟨r.id, .missed why⟩ ∧ r.Misses m d why

theorem land_of_lands {r : Rule} {m : Marker} {d d' : Document} (h : r.Lands m d d') :
    r.land m d = .ok d' :=
  land_eq_ok_iff.mpr h

theorem misses_or_lands (r : Rule) (m : Marker) (d : Document) :
    (∃ d', r.Lands m d d') ∨ ∃ why, r.land m d = .error why ∧ r.Misses m d why := by
  cases hattempt : r.attempt d with
  | error why => exact .inr ⟨why, by simp [land, hattempt], .attempt hattempt⟩
  | ok d' =>
      cases hm : m.present d' with
      | true => exact .inl ⟨d', hattempt, hm⟩
      | false => exact .inr ⟨_, by simp [land, hattempt, hm], .unmarked hattempt hm⟩

end Rule

/-- **Rules that miss only add to the trace.** -/
theorem runChain_past {d : Document} {m : Marker} {pre : List Rule}
    (hpre : ∀ q ∈ pre, ∀ e, ¬ q.Lands m d e) :
    ∃ misses, List.Forall₂ (Rule.MissedBy m d) pre misses ∧ ∀ rest,
      runChain d m (pre ++ rest) =
        { runChain d m rest with attempts := misses ++ (runChain d m rest).attempts } := by
  induction pre with
  | nil => exact ⟨[], .nil, fun _ => rfl⟩
  | cons q pre ih =>
      obtain ⟨hq, hpre⟩ := List.forall_mem_cons.mp hpre
      obtain ⟨misses, htold, hrun⟩ := ih hpre
      rcases q.misses_or_lands m d with ⟨e, hlands⟩ | ⟨why, hland, hmiss⟩
      · exact absurd hlands (hq e)
      · refine ⟨⟨q.id, .missed why⟩ :: misses, .cons ⟨why, rfl, hmiss⟩ htold, fun rest => ?_⟩
        rw [List.cons_append, runChain, hland, hrun rest]
        rfl

/-- The chain stops at a rule that lands after rules that miss. -/
theorem runChain_landing {d d' : Document} {m : Marker} {pre : List Rule} {r : Rule}
    (hpre : ∀ q ∈ pre, ∀ e, ¬ q.Lands m d e) (hr : r.Lands m d d') (post : List Rule) :
    ∃ misses, List.Forall₂ (Rule.MissedBy m d) pre misses ∧
      runChain d m (pre ++ r :: post) = ⟨d', some r.id, misses ++ [⟨r.id, .applied⟩]⟩ := by
  obtain ⟨misses, htold, hrun⟩ := runChain_past hpre
  refine ⟨misses, htold, ?_⟩
  rw [hrun, runChain, Rule.land_of_lands hr]

/-- A chain of rules that all miss tries them all, and leaves the document alone. -/
theorem runChain_no_landing {d : Document} {m : Marker} {rs : List Rule}
    (hrs : ∀ r ∈ rs, ∀ e, ¬ r.Lands m d e) :
    ∃ misses, List.Forall₂ (Rule.MissedBy m d) rs misses ∧
      runChain d m rs = ⟨d, none, misses⟩ := by
  obtain ⟨misses, htold, hrun⟩ := runChain_past hrs
  refine ⟨misses, htold, ?_⟩
  have hend := hrun []
  rwa [List.append_nil, runChain, List.append_nil] at hend

/-- **The chain keeps exactly the first rule that lands.**  If `rs[i]` lands at `d'` and no rule
before it lands, the result is `d'` with the name of `rs[i]`, and the trace has `i + 1` attempts:
the misses of the rules before it, in their order and with their reasons, and its own success.  If
no rule lands, the document stays, no rule is named, and the trace has the miss of every rule.

So a change that is applied leaves a document with the marker, and any other leaves the document
as it was. -/
theorem runChain_keeps_first (d : Document) (m : Marker) (rs : List Rule) :
    let result := runChain d m rs
    (∀ i r d', rs[i]? = some r → r.Lands m d d' →
        (∀ j < i, ∀ q, rs[j]? = some q → ∀ e, ¬ q.Lands m d e) →
      result.document = d' ∧ result.applied = some r.id ∧ result.attempts.length = i + 1 ∧
      List.Forall₂ (Rule.MissedBy m d) (rs.take i) (result.attempts.take i) ∧
      result.attempts[i]? = some ⟨r.id, .applied⟩) ∧
    ((∀ r ∈ rs, ∀ e, ¬ r.Lands m d e) →
      result.document = d ∧ result.applied = none ∧
      List.Forall₂ (Rule.MissedBy m d) rs result.attempts) ∧
    (∀ id, let planned := Change.plan d ⟨id, m, rs⟩
      (∀ rule, planned.2.outcome = .applied rule → m.present planned.1 = true) ∧
      (planned.2.outcome = .alreadyApplied ∨ planned.2.outcome = .skipped → planned.1 = d)) := by
  intro result
  refine ⟨fun i r d' hr hlands hfirst => ?_, fun hnone => ?_, fun id => ?_⟩
  · obtain ⟨hi, hget⟩ := List.getElem?_eq_some_iff.mp hr
    have hsplit : rs = rs.take i ++ r :: rs.drop (i + 1) := by
      rw [← hget, List.getElem_cons_drop, List.take_append_drop]
    have hpre : ∀ q ∈ rs.take i, ∀ e, ¬ q.Lands m d e := by
      intro q hq
      obtain ⟨j, hj, rfl⟩ := List.mem_take_iff_getElem.mp hq
      have hjs : j < rs.length := by omega
      exact hfirst j (by omega) _ (List.getElem?_eq_getElem hjs)
    obtain ⟨misses, htold, hrun⟩ := runChain_landing hpre hlands (rs.drop (i + 1))
    have hlength : misses.length = i := by
      rw [← htold.length_eq, List.length_take, Nat.min_eq_left hi.le]
    rw [← hsplit] at hrun
    simp only [result, hrun]
    refine ⟨trivial, trivial, by simp [hlength], ?_, by simp [← hlength]⟩
    rwa [List.take_left' hlength]
  · obtain ⟨misses, htold, hrun⟩ := runChain_no_landing hnone
    simp only [result, hrun]
    exact ⟨trivial, trivial, htold⟩
  · rcases Change.plan_cases ⟨id, m, rs⟩ d with ⟨-, h⟩ | ⟨-, r, -, d', a, hland, h⟩ | ⟨-, -, a, h⟩
    · simp [h]
    · simp [h, (Rule.land_eq_ok_iff.mp hland).2]
    · simp [h]

end Graft
