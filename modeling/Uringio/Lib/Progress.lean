import Mathlib.Data.List.Basic
import Uringio.Lib.Transition

/-!
# Runs that end

A guarded run is finite if each of its steps lowers a measure, and it ends where no step is enabled
that meets the guard. `Steps` counts the steps of a run. `Ranked` says that a property is kept and a
measure is lowered by every guarded step: then a run is not longer than the measure of its first
state (`Ranked.bounded`), and every state with the property has a run that gets stuck
(`Ranked.exists_stuck`). What is to be shown of a system is what its stuck states look like.
-/

namespace Transition

variable {σ α : Type*} {step : σ → α → Option σ} {ok : σ → α → Prop}

/-- `Steps step ok n s t`: a guarded run of `n` steps leads from `s` to `t`. -/
inductive Steps (step : σ → α → Option σ) (ok : σ → α → Prop) : ℕ → σ → σ → Prop
  | zero (s : σ) : Steps step ok 0 s s
  | succ {n : ℕ} {s t u : σ} {a : α} (hsteps : Steps step ok n s t) (hok : ok t a)
      (hstep : step t a = some u) : Steps step ok (n + 1) s u

/-- No step is enabled that meets the guard. -/
def Stuck (step : σ → α → Option σ) (ok : σ → α → Prop) (s : σ) : Prop :=
  ∀ a, ok s a → step s a = none

/-- Guarded steps keep the property `P` and lower the measure `μ`. -/
def Ranked (step : σ → α → Option σ) (ok : σ → α → Prop) (P : σ → Prop) (μ : σ → ℕ) : Prop :=
  ∀ s a t, P s → ok s a → step s a = some t → P t ∧ μ t < μ s

variable {P : σ → Prop} {μ : σ → ℕ}

/-- The property holds after every run. -/
theorem Ranked.kept (h : Ranked step ok P μ) {s t : σ} (hrun : Run step ok s t) (hs : P s) : P t :=
  hrun.invariant hs fun _ _ _ ht hok hstep => (h _ _ _ ht hok hstep).1

/-- **A run is not longer than the measure.** -/
theorem Ranked.bounded (h : Ranked step ok P μ) {n : ℕ} {s t : σ} (hsteps : Steps step ok n s t)
    (hs : P s) : P t ∧ n + μ t ≤ μ s := by
  induction hsteps with
  | zero => exact ⟨hs, by omega⟩
  | succ _ hok hstep ih =>
    obtain ⟨ht, hle⟩ := ih hs
    obtain ⟨hu, hlt⟩ := h _ _ _ ht hok hstep
    exact ⟨hu, by omega⟩

/-- **Every state has a run that gets stuck.** -/
theorem Ranked.exists_stuck (h : Ranked step ok P μ) {s : σ} (hs : P s) :
    ∃ t, Run step ok s t ∧ Stuck step ok t := by
  induction hμ : μ s using Nat.strongRecOn generalizing s with
  | ind m ih =>
    by_cases hstuck : Stuck step ok s
    · exact ⟨s, .refl s, hstuck⟩
    · -- Take a step that is enabled, and go on from there.
      obtain ⟨a, hok, hsome⟩ : ∃ a, ok s a ∧ step s a ≠ none := by
        simpa [Stuck] using hstuck
      obtain ⟨t, hstep⟩ := Option.ne_none_iff_exists'.mp hsome
      obtain ⟨ht, hlt⟩ := h s a t hs hok hstep
      obtain ⟨u, hrun, hu⟩ := ih (μ t) (by omega) ht rfl
      exact ⟨u, (Run.tail (.refl s) hok hstep).trans hrun, hu⟩

end Transition
