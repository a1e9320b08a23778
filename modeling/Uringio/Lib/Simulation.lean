import Uringio.Lib.Transition

/-!
# Forward simulation

A relation between the states of two systems is a simulation if every guarded step of the first is
matched by a guarded run of the second, perhaps of no steps, that ends in a related state
(`Simulates`). Then every run is matched (`Simulates.run`), and what holds in all states that the
second system reaches can be said of the states of the first (`Simulates.transport`).
-/

namespace Transition

variable {σ α τ β : Type*} {step : σ → α → Option σ} {ok : σ → α → Prop}
  {step' : τ → β → Option τ} {ok' : τ → β → Prop} {R : σ → τ → Prop} {s u : σ} {t : τ}

/-- Every guarded step of the first system is matched by a guarded run of the second. -/
def Simulates (step : σ → α → Option σ) (ok : σ → α → Prop) (step' : τ → β → Option τ)
    (ok' : τ → β → Prop) (R : σ → τ → Prop) : Prop :=
  ∀ s t a u, R s t → ok s a → step s a = some u → ∃ t', Run step' ok' t t' ∧ R u t'

/-- **Every run is matched.** -/
theorem Simulates.run (h : Simulates step ok step' ok' R) (hrun : Run step ok s u) (hst : R s t) :
    ∃ t', Run step' ok' t t' ∧ R u t' := by
  induction hrun with
  | refl => exact ⟨t, .refl t, hst⟩
  | tail _ hok hstep ih =>
    obtain ⟨t₁, hrun₁, hR₁⟩ := ih
    obtain ⟨t₂, hrun₂, hR₂⟩ := h _ _ _ _ hR₁ hok hstep
    exact ⟨t₂, hrun₁.trans hrun₂, hR₂⟩

/-- **What holds of the second system is said of the first.** -/
theorem Simulates.transport {P : τ → Prop} (h : Simulates step ok step' ok' R)
    (hP : ∀ t', Run step' ok' t t' → P t') (hrun : Run step ok s u) (hst : R s t) :
    ∃ t', P t' ∧ R u t' := by
  obtain ⟨t', hrun', hR⟩ := h.run hrun hst
  exact ⟨t', hP t' hrun', hR⟩

end Transition
