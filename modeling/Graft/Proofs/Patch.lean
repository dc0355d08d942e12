import Graft.Patch
import Graft.Proofs.Effects
import Graft.Proofs.Plan

/-!
# Patches of a text

What checking and patching do to a store whose reads leave it as it is (`check_run`, `patch_run`,
`patchAll_run`).  All plan the changes on the text that is read, so they give the same reports; a
patch writes only if some change was applied.
-/

namespace Graft

namespace FileReport

/-- What a plan on the text of a file is reported as, before anything is written. -/
def ofPlan (path : Path) (cs : List Change) (text : Text) : FileReport :=
  ⟨path, text, (planAll ⟨text⟩ cs).1.text, (planAll ⟨text⟩ cs).2, false⟩

/-- A plan that applies nothing leaves the text alone. -/
theorem ofPlan_after {path : Path} {cs : List Change} {text : Text}
    (h : (ofPlan path cs text).anyApplied = false) : (planAll ⟨text⟩ cs).1.text = text := by
  have hnone : ∀ r ∈ (planAll ⟨text⟩ cs).2, r.outcome.isApplied = false := by
    simpa [anyApplied, ofPlan] using h
  rw [planAll_of_settled (planAll_settled_iff.mpr hnone)]

end FileReport

/-- The reports of a run are about the changes, in their order. -/
theorem planAll_changes (d : Document) (cs : List Change) :
    (planAll d cs).2.map (·.change) = cs.map (·.id) := by
  induction cs generalizing d with
  | nil => rfl
  | cons c cs ih =>
      have hid : (c.plan d).2.change = c.id := by
        rcases c.plan_cases d with ⟨-, h⟩ | ⟨-, r, -, d', a, -, h⟩ | ⟨-, -, a, h⟩ <;> rw [h]
      rw [planAll_cons, List.map_cons, List.map_cons, hid, ih]

theorem length_planAll (d : Document) (cs : List Change) : (planAll d cs).2.length = cs.length := by
  simpa using congrArg List.length (planAll_changes d cs)

section

variable {σ : Type} [TextStore (StateM σ)]

/-- What reading a path gives in a state. -/
def textIn (s : σ) (p : Path) : Except StoreError Text :=
  ((readText p : ExceptT StoreError (StateM σ) Text) s).1

variable (hread : ∀ p (s : σ), ((readText p : ExceptT StoreError (StateM σ) Text) s).2 = s)

include hread

theorem run_readText (p : Path) (s : σ) :
    (readText p : ExceptT StoreError (StateM σ) Text) s = (textIn s p, s) :=
  Prod.ext rfl (hread p s)

theorem check_run (p : Path) (cs : List Change) (s : σ) :
    (check p cs : ExceptT StoreError (StateM σ) FileReport) s =
      ((textIn s p).map (FileReport.ofPlan p cs), s) := by
  rw [check, run_bind, run_readText hread]
  cases textIn s p <;> rfl

theorem patch_run (p : Path) (c : Change) (s : σ) :
    (patch p c : ExceptT StoreError (StateM σ) Report) s =
      match textIn s p with
      | .error why => (.error why, s)
      | .ok text   =>
          let planned := c.plan ⟨text⟩
          if planned.2.outcome.isApplied then
            match (writeText p planned.1.text : ExceptT StoreError (StateM σ) Unit) s with
            | (.ok _, s')      => (.ok planned.2, s')
            | (.error why, s') => (.error why, s')
          else (.ok planned.2, s) := by
  rw [patch, run_bind, run_readText hread]
  cases textIn s p with
  | error why => rfl
  | ok text =>
      simp only [andThen]
      split
      · rw [run_bind]
        rcases (writeText p (c.plan ⟨text⟩).1.text : ExceptT StoreError (StateM σ) Unit) s with
          ⟨why | u, s'⟩ <;> rfl
      · rfl

theorem patchAll_run (p : Path) (cs : List Change) (s : σ) :
    (patchAll p cs : ExceptT StoreError (StateM σ) FileReport) s =
      match textIn s p with
      | .error why => (.error why, s)
      | .ok text   =>
          let report := FileReport.ofPlan p cs text
          if report.anyApplied then
            match (writeText p report.after : ExceptT StoreError (StateM σ) Unit) s with
            | (.ok _, s')      => (.ok { report with written := true }, s')
            | (.error why, s') => (.error why, s')
          else (.ok report, s) := by
  rw [patchAll, run_bind, check_run hread]
  cases textIn s p with
  | error why => rfl
  | ok text =>
      simp only [Except.map, andThen]
      split
      · rw [run_bind]
        rcases (writeText p (FileReport.ofPlan p cs text).after :
          ExceptT StoreError (StateM σ) Unit) s with ⟨why | u, s'⟩ <;> rfl
      · rfl

end

end Graft
