import Uringio.Scheduling.Iterations

/-!
# A handle that raises

`Handle._run` raises `SystemExit` and `KeyboardInterrupt` again. `drain_ready` does not look at the
result of `_run`: the next `popleft` takes a handle off the deque and fails, which ends the loop,
and `_run_once` returns `None` with the exception pending. (A `popleft` is a call, which keeps the
exception in every version of the interpreter.) So the drain ends as it should exactly if nothing
was raised (`runOnce_raising_iff`).
-/

namespace Uringio

namespace Scheduler

variable {heapq : HeapQ} {s : Scheduler} {env : IterEnv} {run : HandleRef → Scheduler → Ran}

/-- The first handle that raises among the next `n` of the deque: the queues behind it, and its
exception. -/
def firstRaise (heapq : HeapQ) (run : HandleRef → Scheduler → Ran) :
    ℕ → Scheduler → Option (Scheduler × PendingExc)
  | 0, _ => none
  | n + 1, s =>
    match s._ready with
    | [] => none
    | h :: ready =>
      let s := runHandle heapq run h { s with _ready := ready }
      match s.pending with
      | some e => some (s, e)
      | none => firstRaise heapq run n s

/-- The first handle that raises in the drain of the iteration, when nothing is pending before. -/
def raisesIn (heapq : HeapQ) (env : IterEnv) (s : Scheduler) : Option (Scheduler × PendingExc) :=
  firstRaise heapq env.run (promoted heapq env s)._ready.length
    { promoted heapq env s with pending := none }

/-- What `_run_once` should return. -/
structure StopsAtRaise (heapq : HeapQ) (env : IterEnv) (s : Scheduler) (r : Returned) : Prop where
  /-- The first handle that raises is the last one that is run, the others stay in the deque, and
  its exception is the one that is pending. -/
  raised : ∀ stopped e, raisesIn heapq env s = some (stopped, e) →
    r.null = true ∧ r.queues.pending = some e ∧ r.queues._ready = stopped._ready ∧
      r.queues.events = stopped.events
  /-- If none raises, there is no exception. -/
  returned : raisesIn heapq env s = none → r.null = false ∧ r.queues.pending = none

/-- Without a handle that raises, an exception is pending at the end exactly if it was before. -/
theorem drainReady_pending_iff (hq : heapq.Lawful) {n : ℕ} (hn : n ≤ s._ready.length)
    (hnone : firstRaise heapq run n { s with pending := none } = none) :
    (drainReady heapq run n s).pending = none ↔ s.pending = none := by
  have hclear : ∀ t : Scheduler, t.pending = none → { t with pending := none } = t := by
    rintro ⟨⟩ ht
    exact congrArg _ ht.symm
  induction n generalizing s with
  | zero => exact Iff.rfl
  | succ n ih =>
    cases hready : s._ready with
    | nil =>
      rw [hready] at hn
      cases hn
    | cons h ready =>
      by_cases hp : s.pending = none
      · rw [drainReady_cons n hready hp]
        obtain ⟨new, hfrag⟩ := runHandle_fragment hq run hready
        have hlen := congrArg List.length hfrag.ready
        rw [hready] at hn
        simp only [hready, List.length_append, List.length_cons, List.length_nil] at hlen hn
        rw [hclear s hp] at hnone
        simp only [firstRaise, hready] at hnone
        split at hnone
        · cases hnone
        · next hquiet =>
          rw [← hclear _ hquiet] at hnone
          exact iff_of_true ((ih (by omega) hnone).mpr hquiet) hp
      · have hsome : s.pending.isSome = true := Option.isSome_iff_ne_none.mpr hp
        rw [drainReady_cons_pending n hready hsome]
        exact iff_of_false (by simp) hp

/-- Nothing is pending behind the promotion exactly if the reader left nothing. -/
theorem promoted_pending_iff : (promoted heapq env s).pending = none ↔ Quiet env := by
  constructor
  · intro hp
    by_contra hquiet
    obtain ⟨e, he⟩ := Option.ne_none_iff_exists'.mp hquiet
    have hsome : (read heapq env s).pending.isSome = true := by simp [read, he]
    rw [show promoted heapq env s = _ from if_pos hsome] at hp
    cases hp
  · exact fun hquiet => promoted_pending hquiet s

/-- Handles that return raise nothing. -/
theorem firstRaise_of_returns (hret : Returns env) (n : ℕ) (hp : s.pending = none) :
    firstRaise heapq env.run n s = none := by
  induction n generalizing s with
  | zero => rfl
  | succ n ih =>
    unfold firstRaise
    cases s._ready with
    | nil => rfl
    | cons h ready =>
      have hnone : (runHandle heapq env.run h { s with _ready := ready }).pending = none :=
        runHandle_pending (s := { s with _ready := ready }) hret hp h
      simp only [hnone]
      exact ih hnone

/-- If the handles return, an exception is pending at the end exactly if the reader left one. -/
theorem runOnce_pending_iff (hq : heapq.Lawful) (hret : Returns env) :
    (runOnce heapq env s).queues.pending = none ↔ Quiet env :=
  (drainReady_pending_iff hq (le_refl _) (firstRaise_of_returns hret _ rfl)).trans
    promoted_pending_iff

/-- **When a drain ends as it should.** Exactly if no exception is pending when the promotion starts
and no handle that the iteration runs raises. -/
theorem runOnce_raising_iff (hq : heapq.Lawful) (env : IterEnv) (s : Scheduler) :
    StopsAtRaise heapq env s (runOnce heapq env s) ↔
      Quiet env ∧ raisesIn heapq env s = none := by
  cases hraises : raisesIn heapq env s with
  | some stopped =>
    refine iff_of_false (fun h => ?_) (by simp)
    have hnull := (h.raised _ _ hraises).1
    cases hnull
  | none =>
    have hdrained : (runOnce heapq env s).queues.pending = none ↔
        (promoted heapq env s).pending = none := drainReady_pending_iff hq (le_refl _) hraises
    constructor
    · intro h
      exact ⟨promoted_pending_iff.mp (hdrained.mp (h.returned hraises).2), rfl⟩
    · rintro ⟨hquiet, -⟩
      refine ⟨fun stopped e h => ?_, fun _ =>
        ⟨rfl, hdrained.mpr (promoted_pending_iff.mpr hquiet)⟩⟩
      rw [hraises] at h
      cases h

/-- Handles that return, and a quiet reader: the iteration ends as it should. -/
theorem runOnce_busy : StopsAtRaise (HeapQueue.sorted _) busyEnv twoHandles
    (runOnce (HeapQueue.sorted _) busyEnv twoHandles) :=
  (runOnce_raising_iff HeapQueue.sorted_lawful busyEnv twoHandles).mpr
    ⟨rfl, by decide +kernel⟩

/-- The first of the ready handles raises, as on Ctrl-C. -/
def interruptEnv : IterEnv := { busyEnv with run :=
  fun h _ => ⟨[], if h = 0 then some 7 else none⟩ }

/-- The iteration returns `None` with another exception pending, and the second handle is lost. -/
theorem runOnce_interrupt_not_stops :
    (raisesIn (HeapQueue.sorted _) interruptEnv twoHandles).map
        (fun r => (r.1._ready, r.2)) = some ([1, 2], .raised 7) ∧
      (runOnce (HeapQueue.sorted _) interruptEnv twoHandles).null = false ∧
      (runOnce (HeapQueue.sorted _) interruptEnv twoHandles).queues.pending = some .SystemError ∧
      (runOnce (HeapQueue.sorted _) interruptEnv twoHandles).queues._ready = [2] ∧
      ¬ StopsAtRaise (HeapQueue.sorted _) interruptEnv twoHandles
        (runOnce (HeapQueue.sorted _) interruptEnv twoHandles) := by
  have hraises : (raisesIn (HeapQueue.sorted _) interruptEnv twoHandles).map
      (fun r => (r.1._ready, r.2)) = some ([1, 2], .raised 7) := by decide +kernel
  refine ⟨hraises, rfl, by decide +kernel, by decide +kernel, fun h => ?_⟩
  obtain ⟨r, hr, -⟩ := Option.map_eq_some_iff.mp hraises
  have hnull := (h.raised r.1 r.2 hr).1
  cases hnull

end Scheduler

end Uringio
