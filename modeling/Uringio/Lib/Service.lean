import Mathlib.Data.List.Nodup
import Mathlib.Logic.Function.Basic
import Uringio.Lib.Transition

/-!
# A service that hands out tickets

A client asks questions and gets a ticket for each; a provider answers the tickets in any order; the
service turns the answer of a ticket into a result and hands it out. `respond` says which result the
question of a ticket and the answer to it have. The log keeps what was handed out, in that order.

Whatever the order, a ticket is handed out once, and its result is that of its own question and its
own answer: nothing that happens to other tickets has a part in it (`Sound`, `sound_of_run`).
-/

namespace Service

open Transition (Run anyStep)

/-- What became of a ticket. -/
inductive Ticket (Q A : Type*)
  | unused
  | asked (question : Q)
  | answered (question : Q) (answer : A)
  | handed (question : Q) (answer : A)

/-- The state of the service. -/
structure State (Q A R : Type*) where
  /-- The tickets, by number. -/
  ticket : ℕ → Ticket Q A
  /-- The results, as they were handed out. -/
  log : List (ℕ × R)

/-- A step of the service. -/
inductive Label (Q A : Type*)
  /-- A client asks, and gets the ticket. -/
  | ask (ticket : ℕ) (question : Q)
  /-- The provider answers. -/
  | answer (ticket : ℕ) (answer : A)
  /-- The result is handed out. -/
  | hand (ticket : ℕ)

variable {Q A R : Type*} (respond : ℕ → Q → A → R)

/-- The ticket `k` becomes `x`. -/
def State.set (t : State Q A R) (k : ℕ) (x : Ticket Q A) : State Q A R :=
  { t with ticket := Function.update t.ticket k x }

/-- One step; `none` where the ticket does not allow it. -/
def step (t : State Q A R) : Label Q A → Option (State Q A R)
  | .ask k q =>
    match t.ticket k with
    | .unused => some (t.set k (.asked q))
    | _ => none
  | .answer k a =>
    match t.ticket k with
    | .asked q => some (t.set k (.answered q a))
    | _ => none
  | .hand k =>
    match t.ticket k with
    | .answered q a => some { t.set k (.handed q a) with log := t.log ++ [(k, respond k q a)] }
    | _ => none

/-- No ticket was used. -/
def init : State Q A R := ⟨fun _ => .unused, []⟩

/-- What was handed out is what the tickets say, and no ticket was handed out twice. -/
structure Sound (t : State Q A R) : Prop where
  /-- What was handed out is in the log with its result. -/
  log : ∀ k r, (k, r) ∈ t.log ↔ ∃ q a, t.ticket k = .handed q a ∧ r = respond k q a
  /-- Each ticket is there once at most. -/
  once : (t.log.map Prod.fst).Nodup

variable {respond} {t t' : State Q A R} {k : ℕ} {x : Ticket Q A}

/-- A ticket that was set is read back. -/
@[simp] theorem set_self : (t.set k x).ticket k = x := Function.update_self ..

/-- Setting a ticket leaves the others. -/
theorem set_ne {j : ℕ} (hj : j ≠ k) : (t.set k x).ticket j = t.ticket j :=
  Function.update_of_ne hj ..

/-- Setting a ticket leaves the log. -/
@[simp] theorem set_log : (t.set k x).log = t.log := rfl

/-- A ticket that is not handed out before and after the change stands for nothing in the log. -/
theorem Sound.set (h : Sound respond t) (hold : ∀ q a, t.ticket k ≠ .handed q a)
    (hnew : ∀ q a, x ≠ .handed q a) : Sound respond (t.set k x) := by
  refine ⟨fun j r => ?_, h.once⟩
  rw [set_log, h.log]
  by_cases hj : j = k
  · subst hj
    constructor
    · intro hhanded
      obtain ⟨q, a, hq, -⟩ := hhanded
      exact absurd hq (hold q a)
    · intro hhanded
      obtain ⟨q, a, hq, -⟩ := hhanded
      rw [set_self] at hq
      exact absurd hq (hnew q a)
  · rw [set_ne hj]

/-- A ticket that is not handed out is not in the log. -/
theorem Sound.not_mem (h : Sound respond t) (hold : ∀ q a, t.ticket k ≠ .handed q a) :
    k ∉ t.log.map Prod.fst := by
  intro hmem
  obtain ⟨⟨j, r⟩, hlog, rfl⟩ := List.mem_map.mp hmem
  obtain ⟨q, a, hq, -⟩ := (h.log j r).mp hlog
  exact hold q a hq

/-- **Steps keep the service sound.** -/
theorem Sound.step {l : Label Q A} (h : Sound respond t)
    (hstep : Service.step respond t l = some t') : Sound respond t' := by
  cases l with
  | ask k q =>
    simp only [Service.step] at hstep
    split at hstep
    · next hunused =>
      cases hstep
      exact h.set (fun q' a => by rw [hunused]; simp) (by simp)
    · cases hstep
  | answer k a =>
    simp only [Service.step] at hstep
    split at hstep
    · next q hasked =>
      cases hstep
      exact h.set (fun q' a' => by rw [hasked]; simp) (by simp)
    · cases hstep
  | hand k =>
    simp only [Service.step] at hstep
    split at hstep
    · next q a hanswered =>
      cases hstep
      have hold : ∀ q a, t.ticket k ≠ .handed q a := fun q' a' => by rw [hanswered]; simp
      constructor
      · intro j r
        simp only [List.mem_append, List.mem_singleton, Prod.mk.injEq]
        rw [h.log]
        by_cases hj : j = k
        · subst hj
          constructor
          · intro hor
            rcases hor with ⟨q', a', hq', -⟩ | ⟨-, rfl⟩
            · exact absurd hq' (hold q' a')
            · exact ⟨q, a, set_self, rfl⟩
          · intro hhanded
            obtain ⟨q', a', hq', rfl⟩ := hhanded
            have heq : (t.set j (.handed q a)).ticket j = .handed q' a' := hq'
            rw [set_self] at heq
            cases heq
            exact .inr ⟨rfl, rfl⟩
        · have hsame : (t.set k (.handed q a)).ticket j = t.ticket j := set_ne hj
          change _ ↔ ∃ q' a', (t.set k (.handed q a)).ticket j = .handed q' a' ∧ _
          rw [hsame]
          simp [hj]
      · rw [List.map_append, List.nodup_append]
        refine ⟨h.once, List.nodup_singleton _, fun i hi j hj => ?_⟩
        obtain rfl := List.mem_singleton.mp hj
        intro heq
        exact h.not_mem hold (heq ▸ hi)
    · cases hstep

/-- **In every run of the service** a ticket is handed out once, with the result of its own question
and answer. -/
theorem sound_of_run (hrun : Run (Service.step respond) anyStep init t) : Sound respond t := by
  refine hrun.invariant ⟨fun k r => ?_, List.nodup_nil⟩ fun _ _ _ h _ hstep => h.step hstep
  simp [init]

end Service
