import Mathlib

/-!
# Effects over a state

How a computation that can fail runs from a state: one equation for each way to build one.  A
computation is applied to the state that it starts from, and gives its result and the state that it
leaves.  One that only looks at the state is `Quiet`.
-/

namespace Graft

variable {σ ε ε' α β : Type}

/-- The result of one computation handed on to the next. -/
def andThen (step : Except ε α × σ) (next : α → ExceptT ε (StateM σ) β) : Except ε β × σ :=
  match step with
  | (.ok a, s)    => next a s
  | (.error e, s) => (.error e, s)

theorem run_pure (a : α) (s : σ) : (pure a : ExceptT ε (StateM σ) α) s = (.ok a, s) := rfl

theorem run_bind (x : ExceptT ε (StateM σ) α) (f : α → ExceptT ε (StateM σ) β) (s : σ) :
    (x >>= f) s = andThen (x s) f := by
  simp only [bind, ExceptT.bind, ExceptT.mk, StateT.bind]
  rcases x s with ⟨e | a, s'⟩ <;> rfl

theorem run_bindState (x : StateM σ α) (f : α → StateM σ β) (s : σ) :
    (x >>= f) s = f (x s).1 (x s).2 := rfl

theorem run_map (f : α → β) (x : ExceptT ε (StateM σ) α) (s : σ) :
    (f <$> x) s = ((x s).1.map f, (x s).2) := by
  simp only [Functor.map, ExceptT.map, ExceptT.mk, bind, StateT.bind]
  rcases x s with ⟨e | a, s'⟩ <;> rfl

theorem run_adapt (f : ε → ε') (x : ExceptT ε (StateM σ) α) (s : σ) :
    (ExceptT.adapt f x) s = ((x s).1.mapError f, (x s).2) := rfl

theorem run_tryCatch (x : ExceptT ε (StateM σ) α) (handle : ε → ExceptT ε (StateM σ) α) (s : σ) :
    (tryCatch x handle) s = match x s with
      | (.ok a, s')    => (.ok a, s')
      | (.error e, s') => handle e s' := by
  simp only [tryCatch, tryCatchThe, MonadExceptOf.tryCatch, ExceptT.tryCatch, ExceptT.mk, bind,
    StateT.bind]
  rcases x s with ⟨e | a, s'⟩ <;> rfl

/-! ### Computations that only look -/

/-- The computation leaves every state as it is. -/
def Quiet (x : ExceptT ε (StateM σ) α) : Prop := ∀ s, (x s).2 = s

theorem Quiet.run {x : ExceptT ε (StateM σ) α} (h : Quiet x) (s : σ) : x s = ((x s).1, s) :=
  Prod.ext rfl (h s)

theorem Quiet.bind {x : ExceptT ε (StateM σ) α} {f : α → ExceptT ε (StateM σ) β} (hx : Quiet x)
    (hf : ∀ a, Quiet (f a)) : Quiet (x >>= f) := by
  intro s
  rw [run_bind, hx.run]
  cases (x s).1 with
  | error e => rfl
  | ok a => exact hf a s

theorem Quiet.adapt {x : ExceptT ε (StateM σ) α} (hx : Quiet x) (f : ε → ε') :
    Quiet (ExceptT.adapt f x) :=
  hx

theorem Quiet.tryCatch {x : ExceptT ε (StateM σ) α} {handle : ε → ExceptT ε (StateM σ) α}
    (hx : Quiet x) (hh : ∀ e, Quiet (handle e)) : Quiet (tryCatch x handle) := by
  intro s
  rw [run_tryCatch, hx.run]
  cases (x s).1 with
  | error e => exact hh e s
  | ok a => rfl

/-- Looking at each member of a list gives what looking at each from the same state gives. -/
theorem Quiet.mapM {f : α → ExceptT ε (StateM σ) β} (hf : ∀ a, Quiet (f a)) (as : List α) (s : σ) :
    (as.mapM f) s = (as.mapM fun a => (f a s).1, s) := by
  induction as with
  | nil => rfl
  | cons a as ih =>
      rw [List.mapM_cons, List.mapM_cons, run_bind, (hf a).run]
      cases (f a s).1 with
      | error e => rfl
      | ok b =>
          simp only [andThen, run_bind, ih]
          cases (as.mapM fun a => (f a s).1) <;> rfl

theorem mapM_error_of_mem {f : α → Except ε β} {as : List α} {a : α} {e : ε} (ha : a ∈ as)
    (h : f a = .error e) : ∃ e', as.mapM f = .error e' := by
  induction as with
  | nil => cases ha
  | cons b as ih =>
      rw [List.mapM_cons]
      cases hb : f b with
      | error e' => exact ⟨e', rfl⟩
      | ok c =>
          have hmem : a ∈ as := by
            rcases List.mem_cons.mp ha with rfl | hmem
            · rw [h] at hb; cases hb
            · exact hmem
          obtain ⟨e', he'⟩ := ih hmem
          exact ⟨e', by rw [he']; rfl⟩

end Graft
