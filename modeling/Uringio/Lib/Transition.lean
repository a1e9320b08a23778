import Mathlib.Data.List.Basic

/-!
# Guarded runs of a transition system

A system is a partial step function `step : σ → α → Option σ`: a label of type `α` carries every
choice that the system and its environment make in a step, and `step s a` is `none` where the
label is not enabled in `s`. A guard `ok : σ → α → Prop` restricts the steps of a run by the state
before the step and the label. `Run.invariant` is the induction rule: what holds initially and is
preserved by every guarded step holds in every state that a guarded run reaches.
-/

namespace Transition

variable {σ α : Type*} {step : σ → α → Option σ} {ok ok' : σ → α → Prop}

/-- `Run step ok s t`: a run leads from `s` to `t`, and each of its steps meets the guard `ok` in
the state in which it is taken. -/
inductive Run (step : σ → α → Option σ) (ok : σ → α → Prop) : σ → σ → Prop
  /-- The run of no steps. -/
  | refl (s : σ) : Run step ok s s
  /-- A run and one more step. -/
  | tail {s t u : σ} {a : α} (hrun : Run step ok s t) (hok : ok t a)
      (hstep : step t a = some u) : Run step ok s u

/-- The guard that every step meets. -/
abbrev anyStep : σ → α → Prop := fun _ _ => True

/-- **Invariant rule.** A property of the first state that every guarded step preserves holds in
the last state of every guarded run. -/
theorem Run.invariant {P : σ → Prop} {s t : σ} (h : Run step ok s t) (hinit : P s)
    (hpres : ∀ t a u, P t → ok t a → step t a = some u → P u) : P t := by
  induction h with
  | refl => exact hinit
  | tail _ hok hstep ih => exact hpres _ _ _ ih hok hstep

/-- Runs compose. -/
theorem Run.trans {s t u : σ} (h₁ : Run step ok s t) (h₂ : Run step ok t u) :
    Run step ok s u := by
  induction h₂ with
  | refl => exact h₁
  | tail _ hok hstep ih => exact ih.tail hok hstep

/-- A run that meets a guard meets every weaker guard. -/
theorem Run.mono (h : ∀ s a, ok s a → ok' s a) {s t : σ} (hrun : Run step ok s t) :
    Run step ok' s t := by
  induction hrun with
  | refl => exact .refl _
  | tail _ hok hstep ih => exact ih.tail (h _ _ hok) hstep

/-- Execute a list of labels from left to right; `none` when one of them does not meet the guard
or is not enabled. -/
def exec (step : σ → α → Option σ) (ok : σ → α → Prop) [∀ s a, Decidable (ok s a)] :
    σ → List α → Option σ
  | s, [] => some s
  | s, a :: as => if ok s a then (step s a).bind fun t => exec step ok t as else none

/-- An executed list of labels is a run. -/
theorem Run.of_exec [∀ s a, Decidable (ok s a)] :
    ∀ {s t : σ} {as : List α}, exec step ok s as = some t → Run step ok s t
  | s, t, [], h => by
    simp only [exec, Option.some.injEq] at h
    exact h ▸ .refl s
  | s, t, a :: as, h => by
    simp only [exec] at h
    split at h
    · next hok =>
      obtain ⟨u, hstep, hrest⟩ := Option.bind_eq_some_iff.mp h
      exact (Run.tail (.refl s) hok hstep).trans (Run.of_exec hrest)
    · cases h

/-- What is observed of the state that an executed list of labels ends in. -/
theorem exec_eval [∀ s a, Decidable (ok s a)] {β : Type*} {f : σ → β} {b : β} {s t : σ}
    {as : List α} (h : exec step ok s as = some t) (hf : (exec step ok s as).map f = some b) :
    f t = b := by
  rw [h] at hf
  exact Option.some.inj hf

/-- The state that an executed list of labels ends in is reached by a run. -/
theorem Run.of_exec_get [∀ s a, Decidable (ok s a)] {s : σ} {as : List α}
    (h : (exec step ok s as).isSome) : Run step ok s ((exec step ok s as).get h) :=
  .of_exec (Option.some_get h).symm

end Transition
