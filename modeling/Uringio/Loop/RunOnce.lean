import Uringio.Loop.Harmless
import Uringio.Scheduling.Raising

/-!
# One iteration of the loop

`_run_once` reads the completion queue, moves the handles that are due to the ready queue and runs
those that are ready: the reader of this development, and then its scheduling code, which starts
with the exception that the reader leaves. An iteration is harmless, whichever futures were
cancelled before, exactly if the flag of the pending exception can be carried through its
completions (`runOnce_harmless_iff`).

The scheduling code is that of the interpreter from version 3.13 on. In 3.12 the lookup of `_ready`
at the start of `drain_ready` clears the exception that is pending; the promotion, which comes
before it, fails in every version.
-/

namespace Uringio

open Loop Scheduler

/-- `_run_once` on the entries of the completion queue: the loop behind the reader, what the
function returns, and the calls of `set_result` and `set_exception`. What the callbacks ask of the
loop are calls of their own. -/
def runOnce (heapq : HeapQ) (env : IterEnv) (L : Loop) (s : Scheduler)
    (batch : List (ReadEnv × Cqe)) :
    Except Fault (Loop × Returned × List (FutureRef × Outcome)) := do
  let (L, calls) ← onUringReady L batch
  let env := { env with readerRaises := if L.err then some 0 else none }
  .ok (L, Scheduler.runOnce heapq env s, calls)

/-- **When cancellation is harmless.** The batch is read as it should be, and `_run_once` returns
`None` without a pending exception, exactly if the flag of the pending exception can be carried
through the batch: it is clear at the end, no completion of a pending future is read while it is
set (unless the reader prints it first), every completion of a pending future without an error has a
value, and no `accept` is left. -/
theorem runOnce_harmless_iff {L : Loop} (hL : L.Sound) (herr : L.err = false) {heapq : HeapQ}
    (hq : heapq.Lawful) {env : IterEnv} (hret : Returns env) (s : Scheduler)
    (batch : List (ReadEnv × Cqe)) :
    (∃ M calls r, onUringReady L batch = .ok (M, calls) ∧ Harmless L batch M calls ∧
      runOnce heapq env L s batch = .ok (M, r, calls) ∧ r.null = false ∧
      r.queues.pending = none) ↔
    L.Absorbs batch := by
  have hstart := Progress.start hL
  rw [herr] at hstart
  -- What the scheduling code returns depends on the flag alone.
  have hclear : ∀ M : Loop, (Scheduler.runOnce heapq
      { env with readerRaises := if M.err then some 0 else none } s).queues.pending = none ↔
      M.err = false := by
    intro M
    have hret' : Returns { env with readerRaises := if M.err then some 0 else none } := hret
    rw [runOnce_pending_iff hq hret', Scheduler.Quiet]
    cases M.err <;> simp
  have honce : ∀ M calls, onUringReady L batch = .ok (M, calls) →
      runOnce heapq env L s batch = .ok (M, Scheduler.runOnce heapq
        { env with readerRaises := if M.err then some 0 else none } s, calls) :=
    fun M calls hread => bind_eq_ok.mpr ⟨_, hread, rfl⟩
  constructor
  · rintro ⟨M, calls, r, hread, hharm, hlast, -, hnone⟩
    cases habsorb : L.absorbAll false [] batch with
    | none =>
      obtain ⟨x, hx, k, hs, hpend, hlost⟩ := hstart.stuckAll hL habsorb hread
      obtain ⟨o, -, hdone⟩ := hharm.resolved x hx k hs hpend
      exact absurd hdone (hlost o)
    | some e =>
      obtain ⟨M', calls', hread', hp⟩ := hstart.readAll hL habsorb
      rw [hread] at hread'
      cases hread'
      rw [honce M calls hread] at hlast
      cases hlast
      have hflag : e.1 = false := hp.err.symm.trans ((hclear M).mp hnone)
      exact ⟨e.2, by rw [habsorb, ← hflag], hp.releases_iff.mp hharm.freed⟩
  · rintro ⟨removed, habsorb, hfreed⟩
    obtain ⟨M, calls, hread, hp⟩ := hstart.readAll hL habsorb
    exact ⟨M, calls, _, hread, hp.harmless hfreed, honce M calls hread, rfl, (hclear M).mpr hp.err⟩

/-- Without the completion of the cancelled future, the other one is read as it should be, and the
ready handles are run. -/
theorem runOnce_harmless_secondTimer : ∃ L M calls r, cancelledTimer = .ok L ∧
    onUringReady L [secondTimer] = .ok (M, calls) ∧ Harmless L [secondTimer] M calls ∧
      runOnce (HeapQueue.sorted _) busyEnv L twoHandles [secondTimer] = .ok (M, r, calls) ∧
      r.null = false ∧ r.queues.pending = none := by
  obtain ⟨L, h, herr, -, -, -, habsorb⟩ := cancelledTimer_isOk
  have hindex : secondTimer.2.index = 0 := by decide
  obtain ⟨M, calls, r, hall⟩ := (runOnce_harmless_iff (cancelledTimer_sound h) herr
    HeapQueue.sorted_lawful busyEnv_returns twoHandles [secondTimer]).mpr
      ⟨[0], habsorb, by simp [hindex]⟩
  exact ⟨L, M, calls, r, h, hall⟩

/-- With it, the future of the second timer is never resolved. -/
theorem runOnce_not_harmless_bothTimers : ∃ L, cancelledTimer = .ok L ∧ L.Sound ∧
    L.err = false ∧ ¬ ∃ M calls r, onUringReady L bothTimers = .ok (M, calls) ∧
      Harmless L bothTimers M calls ∧
      runOnce (HeapQueue.sorted _) busyEnv L twoHandles bothTimers = .ok (M, r, calls) ∧
      r.null = false ∧ r.queues.pending = none := by
  obtain ⟨L, h, herr, hserves, hpend, hlost, -⟩ := cancelledTimer_isOk
  refine ⟨L, h, cancelledTimer_sound h, herr, ?_⟩
  rintro ⟨M, calls, r, hread, hharm, -⟩
  rw [hread] at hlost
  have hindex : secondTimer.2.index = 0 := by decide
  obtain ⟨o, -, hdone⟩ := hharm.resolved secondTimer (by simp [bothTimers]) 1
    (by rw [hindex]; exact hserves) hpend
  have hstill : M.futures 1 = .pending := Option.some.inj hlost
  rw [hstill] at hdone
  cases hdone

end Uringio
