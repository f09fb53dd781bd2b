/-! # Two computations in parallel

Two computations, each on a state of its own, run in parallel if from related states they come to
related outcomes and related states. Steps that do so one by one do so in a row.
-/

namespace FleetGate

variable {ε ε₁ ε₂ α α₁ α₂ β₁ β₂ σ₁ σ₂ : Type} {P : σ₁ → σ₂ → Prop} {E : ε₁ → ε₂ → Prop}
  {S : α₁ → α₂ → Prop} {T : β₁ → β₂ → Prop}

/-- Two outcomes that are both successes or both failures, and related. -/
inductive Agree (E : ε₁ → ε₂ → Prop) (S : α₁ → α₂ → Prop) : Except ε₁ α₁ → Except ε₂ α₂ → Prop where
  | ok {a₁ : α₁} {a₂ : α₂} (h : S a₁ a₂) : Agree E S (.ok a₁) (.ok a₂)
  | error {e₁ : ε₁} {e₂ : ε₂} (h : E e₁ e₂) : Agree E S (.error e₁) (.error e₂)

namespace Agree

theorem refl {E : ε → ε → Prop} {S : α → α → Prop} (hE : ∀ e, E e e) (hS : ∀ a, S a a)
    (outcome : Except ε α) : Agree E S outcome outcome := by
  cases outcome with
  | error e => exact .error (hE e)
  | ok a => exact .ok (hS a)

theorem imp {S' : α₁ → α₂ → Prop} {o₁ : Except ε₁ α₁} {o₂ : Except ε₂ α₂} (h : Agree E S o₁ o₂)
    (hS : ∀ a₁ a₂, S a₁ a₂ → S' a₁ a₂) : Agree E S' o₁ o₂ := by
  cases h with
  | ok h => exact .ok (hS _ _ h)
  | error h => exact .error h

/-- Outcomes that are equal are related equally. -/
theorem eq {o₁ o₂ : Except ε α} (h : Agree Eq Eq o₁ o₂) : o₁ = o₂ := by
  cases h with
  | ok h => rw [h]
  | error h => rw [h]

/-- To be equal up to what failures are mapped to. -/
theorem iff_mapError_eq {f : ε₁ → ε} {f₂ : ε₂ → ε} {o₁ : Except ε₁ α} {o₂ : Except ε₂ α} :
    Agree (fun e₁ e₂ => f e₁ = f₂ e₂) Eq o₁ o₂ ↔ o₁.mapError f = o₂.mapError f₂ := by
  constructor
  · intro h
    cases h with
    | ok h => rw [h]; rfl
    | error h => exact congrArg Except.error h
  · intro h
    cases o₁ with
    | error e₁ =>
        cases o₂ with
        | error e₂ => exact .error (Except.error.inj h)
        | ok a₂ => cases h
    | ok a₁ =>
        cases o₂ with
        | error e₂ => cases h
        | ok a₂ => exact .ok (Except.ok.inj h)

end Agree

/-- Two computations that from related states come to related outcomes and related states. -/
def Parallel (P : σ₁ → σ₂ → Prop) (E : ε₁ → ε₂ → Prop) (S : α₁ → α₂ → Prop)
    (x₁ : ExceptT ε₁ (StateM σ₁) α₁) (x₂ : ExceptT ε₂ (StateM σ₂) α₂) : Prop :=
  ∀ s₁ s₂, P s₁ s₂ → Agree E S (x₁ s₁).1 (x₂ s₂).1 ∧ P (x₁ s₁).2 (x₂ s₂).2

namespace Parallel

variable {x₁ : ExceptT ε₁ (StateM σ₁) α₁} {x₂ : ExceptT ε₂ (StateM σ₂) α₂}

/-- What two computations that run in parallel come to from related states. -/
theorem run {s₁ : σ₁} {s₂ : σ₂} (h : Parallel P E S x₁ x₂) (hs : P s₁ s₂) :
    (∃ a₁ a₂ t₁ t₂, x₁ s₁ = (.ok a₁, t₁) ∧ x₂ s₂ = (.ok a₂, t₂) ∧ S a₁ a₂ ∧ P t₁ t₂) ∨
      ∃ e₁ e₂ t₁ t₂, x₁ s₁ = (.error e₁, t₁) ∧ x₂ s₂ = (.error e₂, t₂) ∧ E e₁ e₂ ∧ P t₁ t₂ := by
  obtain ⟨houtcome, hafter⟩ := h s₁ s₂ hs
  generalize x₁ s₁ = after₁ at houtcome hafter ⊢
  generalize x₂ s₂ = after₂ at houtcome hafter ⊢
  obtain ⟨o₁, t₁⟩ := after₁
  obtain ⟨o₂, t₂⟩ := after₂
  cases houtcome with
  | ok h => exact Or.inl ⟨_, _, t₁, t₂, rfl, rfl, h, hafter⟩
  | error h => exact Or.inr ⟨_, _, t₁, t₂, rfl, rfl, h, hafter⟩

theorem imp {S' : α₁ → α₂ → Prop} (h : Parallel P E S x₁ x₂) (hS : ∀ a₁ a₂, S a₁ a₂ → S' a₁ a₂) :
    Parallel P E S' x₁ x₂ :=
  fun s₁ s₂ hs => ⟨(h s₁ s₂ hs).1.imp hS, (h s₁ s₂ hs).2⟩

theorem pure {a₁ : α₁} {a₂ : α₂} (h : S a₁ a₂) :
    Parallel P E S (pure a₁) (pure a₂) :=
  fun _ _ hs => ⟨.ok h, hs⟩

theorem throw {e₁ : ε₁} {e₂ : ε₂} (h : E e₁ e₂) :
    Parallel P E S (throw e₁) (throw e₂) :=
  fun _ _ hs => ⟨.error h, hs⟩

theorem bind {f₁ : α₁ → ExceptT ε₁ (StateM σ₁) β₁} {f₂ : α₂ → ExceptT ε₂ (StateM σ₂) β₂}
    (hx : Parallel P E S x₁ x₂) (hf : ∀ a₁ a₂, S a₁ a₂ → Parallel P E T (f₁ a₁) (f₂ a₂)) :
    Parallel P E T (x₁ >>= f₁) (x₂ >>= f₂) := by
  intro s₁ s₂ hs
  change Agree E T (ExceptT.bindCont f₁ (x₁ s₁).1 (x₁ s₁).2).1
      (ExceptT.bindCont f₂ (x₂ s₂).1 (x₂ s₂).2).1 ∧
    P (ExceptT.bindCont f₁ (x₁ s₁).1 (x₁ s₁).2).2 (ExceptT.bindCont f₂ (x₂ s₂).1 (x₂ s₂).2).2
  rcases hx.run hs with ⟨a₁, a₂, t₁, t₂, h₁, h₂, h, ht⟩ | ⟨e₁, e₂, t₁, t₂, h₁, h₂, h, ht⟩
  · rw [h₁, h₂]
    exact hf a₁ a₂ h t₁ t₂ ht
  · rw [h₁, h₂]
    exact ⟨.error h, ht⟩

/-- A step that comes to the same on both sides. -/
theorem bind_eq {x₁ : ExceptT ε₁ (StateM σ₁) α} {x₂ : ExceptT ε₂ (StateM σ₂) α}
    {f₁ : α → ExceptT ε₁ (StateM σ₁) β₁} {f₂ : α → ExceptT ε₂ (StateM σ₂) β₂}
    (hx : Parallel P E Eq x₁ x₂) (hf : ∀ a, Parallel P E T (f₁ a) (f₂ a)) :
    Parallel P E T (x₁ >>= f₁) (x₂ >>= f₂) := by
  refine hx.bind fun a _ h => ?_
  rw [← h]
  exact hf a

theorem tryCatch {h₁ : ε₁ → ExceptT ε₁ (StateM σ₁) α₁} {h₂ : ε₂ → ExceptT ε₂ (StateM σ₂) α₂}
    (hx : Parallel P E S x₁ x₂) (hh : ∀ e₁ e₂, E e₁ e₂ → Parallel P E S (h₁ e₁) (h₂ e₂)) :
    Parallel P E S (tryCatch x₁ h₁) (tryCatch x₂ h₂) := by
  intro s₁ s₂ hs
  change Agree E S (ExceptT.tryCatch x₁ h₁ s₁).1 (ExceptT.tryCatch x₂ h₂ s₂).1 ∧
    P (ExceptT.tryCatch x₁ h₁ s₁).2 (ExceptT.tryCatch x₂ h₂ s₂).2
  simp only [ExceptT.tryCatch, ExceptT.mk, Bind.bind, StateT.bind]
  rcases hx.run hs with ⟨a₁, a₂, t₁, t₂, hx₁, hx₂, h, ht⟩ | ⟨e₁, e₂, t₁, t₂, hx₁, hx₂, h, ht⟩
  · rw [hx₁, hx₂]
    exact ⟨.ok h, ht⟩
  · rw [hx₁, hx₂]
    exact hh e₁ e₂ h t₁ t₂ ht

end Parallel

end FleetGate
