import CrudScaffold.Problem

/-!
# Outcomes

When computations that may fail succeed, and what those leave behind that work on a state.
-/

namespace CrudScaffold

variable {ε ε' σ α β : Type}

/-! ### Without a state -/

theorem bind_eq_ok_iff {x : Except ε α} {f : α → Except ε β} {b : β} :
    (x >>= f) = .ok b ↔ ∃ a, x = .ok a ∧ f a = .ok b := by
  cases x <;> simp [bind, Except.bind]

theorem map_eq_ok_iff {x : Except ε α} {f : α → β} {b : β} : x.map f = .ok b ↔ ∃ a, x = .ok a ∧ f a = b := by
  cases x <;> simp [Except.map]

theorem mapError_eq_ok_iff {x : Except ε α} {f : ε → ε'} {a : α} : x.mapError f = .ok a ↔ x = .ok a := by
  cases x with
  | error e => constructor <;> exact fun h => by cases h
  | ok b => constructor <;> exact fun h => congrArg _ (Except.ok.inj h)

theorem bind_eq_error_iff {x : Except ε α} {f : α → Except ε β} {e : ε} :
    (x >>= f) = .error e ↔ x = .error e ∨ ∃ a, x = .ok a ∧ f a = .error e := by
  cases x <;> simp [bind, Except.bind]

theorem map_eq_error_iff {x : Except ε α} {f : α → β} {e : ε} : x.map f = .error e ↔ x = .error e := by
  cases x with
  | error e' => constructor <;> exact fun h => congrArg _ (Except.error.inj h)
  | ok a => constructor <;> exact fun h => by cases h

theorem mapError_eq_error_iff {x : Except ε α} {f : ε → ε'} {e' : ε'} :
    x.mapError f = .error e' ↔ ∃ e, x = .error e ∧ f e = e' := by
  cases x with
  | error e =>
    constructor
    · exact fun h => ⟨e, rfl, Except.error.inj h⟩
    · rintro ⟨_, he, rfl⟩
      rw [Except.error.inj he]
      rfl
  | ok a =>
    constructor
    · exact fun h => by cases h
    · rintro ⟨_, he, -⟩
      cases he

/-- A result that is tested is a result. -/
theorem exists_of_any_toOption {x : Except ε α} {p : α → Bool} (h : x.toOption.any p = true) :
    ∃ a, x = .ok a ∧ p a = true := by
  cases x with
  | error e => cases h
  | ok a => exact ⟨a, rfl, h⟩

/-- What is refused under a condition succeeds only when the condition fails. -/
theorem refuse_eq_ok_iff {p : Prop} [Decidable p] {e : ε} {x : Except ε α} {a : α} :
    (if p then .error e else x) = .ok a ↔ ¬ p ∧ x = .ok a := by
  by_cases hp : p <;> simp [hp]

theorem refuse_eq_error_iff {p : Prop} [Decidable p] {e e' : ε} {x : Except ε α} :
    (if p then .error e else x) = .error e' ↔ p ∧ e = e' ∨ ¬ p ∧ x = .error e' := by
  by_cases hp : p <;> simp [hp]

theorem ne_ok_of_isOk_eq_false {x : Except ε α} (h : x.isOk = false) (a : α) : x ≠ .ok a := by
  rintro rfl
  cases h

/-! ### With a state -/

/-- The result of a computation, and the state that it leaves whether it succeeds or not. -/
def outcome (x : ExceptT ε (StateM σ) α) (s : σ) : Except ε α × σ := x.run.run s

variable {x : ExceptT ε (StateM σ) α} {f : α → ExceptT ε (StateM σ) β} {s s' : σ}

/-- Computations with the same outcomes are the same. -/
theorem eq_of_outcome {y : ExceptT ε (StateM σ) α} (h : ∀ s, outcome x s = outcome y s) : x = y := funext h

@[simp] theorem outcome_pure (a : α) : outcome (pure a : ExceptT ε (StateM σ) α) s = (.ok a, s) := rfl

@[simp] theorem outcome_throw (e : ε) : outcome (throw e : ExceptT ε (StateM σ) α) s = (.error e, s) := rfl

@[simp] theorem outcome_get : outcome (getThe σ : ExceptT ε (StateM σ) σ) s = (.ok s, s) := rfl

@[simp] theorem outcome_modify (g : σ → σ) :
    outcome (modifyThe σ g : ExceptT ε (StateM σ) PUnit) s = (.ok ⟨⟩, g s) := rfl

theorem exists_outcome_of_isOk (h : (outcome x s).1.isOk = true) : ∃ a s', outcome x s = (.ok a, s') := by
  rcases hx : outcome x s with ⟨e | a, s'⟩
  · rw [hx] at h
    cases h
  · exact ⟨a, s', rfl⟩

theorem outcome_bind_of_ok {a : α} (h : outcome x s = (.ok a, s')) : outcome (x >>= f) s = outcome (f a) s' := by
  unfold outcome at h ⊢
  rw [ExceptT.run_bind, StateT.run_bind, h]
  rfl

theorem outcome_bind_of_error {e : ε} (h : outcome x s = (.error e, s')) : outcome (x >>= f) s = (.error e, s') := by
  unfold outcome at h ⊢
  rw [ExceptT.run_bind, StateT.run_bind, h]
  rfl

theorem fst_outcome_bind_of_error {e : ε} (h : (outcome x s).1 = .error e) : (outcome (x >>= f) s).1 = .error e := by
  rcases hx : outcome x s with ⟨result, m⟩
  rw [hx] at h
  obtain rfl : result = .error e := h
  rw [outcome_bind_of_error hx]

theorem outcome_bind_eq_ok_iff {b : β} :
    outcome (x >>= f) s = (.ok b, s') ↔ ∃ a m, outcome x s = (.ok a, m) ∧ outcome (f a) m = (.ok b, s') := by
  rcases h : outcome x s with ⟨e | a, m⟩
  · rw [outcome_bind_of_error h]
    simp
  · rw [outcome_bind_of_ok h]
    constructor
    · exact fun hf => ⟨a, m, rfl, hf⟩
    · rintro ⟨_, _, heq, hf⟩
      cases heq
      exact hf

theorem outcome_bind_pure (g : α → β) :
    outcome (x >>= fun a => pure (g a)) s = ((outcome x s).1.map g, (outcome x s).2) := by
  rcases h : outcome x s with ⟨e | a, m⟩
  · rw [outcome_bind_of_error h]
    rfl
  · rw [outcome_bind_of_ok h]
    rfl

section Catch

variable {handle : ε → ExceptT ε (StateM σ) α}

theorem outcome_tryCatch_of_ok {a : α} (h : outcome x s = (.ok a, s')) :
    outcome (tryCatch x handle) s = (.ok a, s') := by
  have hx : StateT.run x s = (.ok a, s') := h
  change StateT.run (ExceptT.tryCatch x handle) s = _
  unfold ExceptT.tryCatch ExceptT.mk
  rw [StateT.run_bind, hx]
  rfl

theorem outcome_tryCatch_of_error {e : ε} (h : outcome x s = (.error e, s')) :
    outcome (tryCatch x handle) s = outcome (handle e) s' := by
  have hx : StateT.run x s = (.error e, s') := h
  change StateT.run (ExceptT.tryCatch x handle) s = _
  unfold ExceptT.tryCatch ExceptT.mk
  rw [StateT.run_bind, hx]
  rfl

end Catch

/-- What is done to the state in the end is done whether the computation succeeds or fails. -/
theorem outcome_tryFinally_modify (g : σ → σ) :
    outcome (tryFinally x (modifyThe σ g : ExceptT ε (StateM σ) PUnit)) s = ((outcome x s).1, g (outcome x s).2) := by
  rcases h : outcome x s with ⟨e | a, m⟩ <;>
  · have hx : x s = _ := h
    simp only [outcome, tryFinally, tryFinally', ExceptT.run, ExceptT.mk, StateT.run, bind, StateT.bind, Functor.map,
      ExceptT.map, hx]
    rfl

/-! ### What every run leaves -/

/-- Whether it succeeds or not, the computation leaves a state that is related to the one before. -/
def Leaves (R : σ → σ → Prop) (x : ExceptT ε (StateM σ) α) : Prop := ∀ s, R s (outcome x s).2

namespace Leaves

variable {R : σ → σ → Prop}

theorem pure (hR : ∀ s, R s s) (a : α) : Leaves R (pure a : ExceptT ε (StateM σ) α) := hR

theorem throw (hR : ∀ s, R s s) (e : ε) : Leaves R (throw e : ExceptT ε (StateM σ) α) := hR

theorem bind (hx : Leaves R x) (hf : ∀ a, Leaves R (f a)) (hR : ∀ a b c, R a b → R b c → R a c) :
    Leaves R (x >>= f) := by
  intro s
  have hs := hx s
  rcases h : outcome x s with ⟨e | a, m⟩
  · rw [outcome_bind_of_error h]
    rwa [h] at hs
  · rw [outcome_bind_of_ok h]
    rw [h] at hs
    exact hR s m _ hs (hf a m)

theorem tryCatch {handle : ε → ExceptT ε (StateM σ) α} (hx : Leaves R x) (hh : ∀ e, Leaves R (handle e))
    (hR : ∀ a b c, R a b → R b c → R a c) : Leaves R (tryCatch x handle) := by
  intro s
  have hs := hx s
  rcases h : outcome x s with ⟨e | a, m⟩
  · rw [outcome_tryCatch_of_error h]
    rw [h] at hs
    exact hR s m _ hs (hh e m)
  · rw [outcome_tryCatch_of_ok h]
    rwa [h] at hs

end Leaves

/-! ### What every failure is -/

/-- Whatever the state is, the computation fails with nothing but errors of a sort. -/
def FailsWith (P : ε → Prop) (x : ExceptT ε (StateM σ) α) : Prop := ∀ s e, (outcome x s).1 = .error e → P e

namespace FailsWith

variable {P Q : ε → Prop}

theorem pure (a : α) : FailsWith P (pure a : ExceptT ε (StateM σ) α) := fun _ _ => nofun

theorem throw {e : ε} (h : P e) : FailsWith P (throw e : ExceptT ε (StateM σ) α) :=
  fun _ _ he => Except.error.inj he ▸ h

theorem modify (g : σ → σ) : FailsWith P (modifyThe σ g : ExceptT ε (StateM σ) PUnit) := fun _ _ => nofun

theorem get : FailsWith P (getThe σ : ExceptT ε (StateM σ) σ) := fun _ _ => nofun

theorem bind (hx : FailsWith P x) (hf : ∀ a, FailsWith P (f a)) : FailsWith P (x >>= f) := by
  intro s e he
  rcases h : outcome x s with ⟨e' | a, m⟩
  · rw [outcome_bind_of_error h] at he
    exact Except.error.inj he ▸ hx s e' (by rw [h])
  · rw [outcome_bind_of_ok h] at he
    exact hf a m e he

theorem tryCatch {handle : ε → ExceptT ε (StateM σ) α} (hx : FailsWith Q x) (hh : ∀ e, Q e → FailsWith P (handle e)) :
    FailsWith P (tryCatch x handle) := by
  intro s e he
  rcases h : outcome x s with ⟨e' | a, m⟩
  · rw [outcome_tryCatch_of_error h] at he
    exact hh e' (hx s e' (by rw [h])) m e he
  · rw [outcome_tryCatch_of_ok h] at he
    cases he

end FailsWith

end CrudScaffold
