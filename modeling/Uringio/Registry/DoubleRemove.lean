import Uringio.Registry.Partition

/-!
# Which stray removals are caught

`registry_remove` does not look at the slot: it aborts when every cell of the stack is taken. In a
registry whose indices are partitioned that is the state without live requests, so the removal of an
index that is not live is caught exactly then (`remove_caught_iff`). In a history whose stray
removals all come then, each of them aborts, and so the partition is kept (`guarded_of_run`).
Elsewhere a stray removal puts its index on the stack a second time, and the index is given to two
requests (`strayRemove_not_caught`).
-/

namespace Uringio

namespace RequestRegistry

namespace History

variable {n : ℕ} {s s' : History} {i : ℤ} {req : Request}

/-- The call removes no index of the array that is not live, unless nothing is live. -/
def strayOk (s : History) : Call → Prop
  | .add _ => True
  | .remove index => s.reg.InRange index → index ∉ s.indices → s.live = []

instance (s : History) : (call : Call) → Decidable (strayOk s call)
  | .add _ => inferInstanceAs (Decidable True)
  | .remove _ => inferInstanceAs (Decidable (_ → _ → _))

/-- A removal from a partitioned registry aborts exactly when nothing is live. -/
theorem Inv.remove_eq_none_iff (h : Inv n s) (hi : s.reg.InRange i) :
    registryRemove s.reg i = none ↔ s.live = [] := by
  have hlen : s.reg.available_indices.entries.length + s.live.length = n := by
    have := h.partition.length_add
    rwa [indices, List.length_map] at this
  have hsize : s.reg.size = n := h.size_eq
  rw [← List.length_eq_zero_iff]
  rcases registryRemove_cases hi with ⟨hfull, hnone⟩ | ⟨reg', slot, -, hsome, hpush, hsize', -⟩
  · rw [hnone]
    exact iff_of_true rfl (by omega)
  · -- The entry that was pushed has a cell, which was not taken before.
    have hroom : reg'.available_indices.entries.length ≤ reg'.size := by
      rw [← reg'.cells_length]
      exact List.length_take_le' ..
    rw [hpush, List.length_append, List.length_singleton] at hroom
    rw [hsome]
    exact iff_of_false (by simp) (by omega)

/-- A stray removal that does not abort is one that the callers may not make. -/
theorem Inv.callersOk (h : Inv n s) {call : Call} (hok : strayOk s call)
    (hstep : step s call = some s') : callersOk s call := by
  cases call with
  | add req => trivial
  | remove index =>
    by_contra hstray
    obtain ⟨hdead, hrange⟩ := not_or.mp hstray
    have hrange : s.reg.InRange index := not_not.mp hrange
    have habort : registryRemove s.reg index = none :=
      (h.remove_eq_none_iff hrange).mpr (hok hrange hdead)
    simp only [step, habort, Option.map_none] at hstep
    cases hstep

/-- What the guard of `registry_remove` is there for. -/
structure Guarded (s : History) : Prop where
  /-- No index is on the free stack twice. -/
  distinct : s.reg.available_indices.entries.Nodup
  /-- No two live requests share a slot. -/
  live_distinct : s.indices.Nodup
  /-- `registry_add` gives a request no slot of a live one. -/
  add_fresh : ∀ req, (registryAdd s.reg req).1 ≠ -1 → (registryAdd s.reg req).1 ∉ s.indices
  /-- The removal of an index that is not live is caught exactly when nothing is live. -/
  caught_iff : ∀ i, s.reg.InRange i → i ∉ s.indices →
    (registryRemove s.reg i = none ↔ s.live = [])

/-- **Which double removals are caught.** In every history whose removals of indices that are not
live come when nothing is live, no index is free twice and no two requests share a slot; there the
next such removal is caught exactly if nothing is live either. -/
theorem guarded_of_run (hpos : 1 ≤ n) (hn : n < 2^31)
    (hrun : Transition.Run step strayOk (start n hn) s) : Guarded s := by
  have hinv : Inv n s := by
    refine hrun.invariant (Inv.start hpos hn) fun t call u ht hok hstep => ?_
    have hcallers := ht.callersOk hok hstep
    cases call with
    | add req => exact ht.add hstep
    | remove index => exact ht.remove hcallers hstep
  have hcorrect := hinv.correct
  exact
    { distinct := hcorrect.distinct
      live_distinct := hcorrect.live_distinct
      add_fresh := fun req hadded => (hcorrect.add_fresh req hadded).2
      caught_iff := fun i hi _ => hinv.remove_eq_none_iff hi }

/-- The requests of the examples. -/
def request (f : FutureRef) : Request := ⟨f, none, .ONESHOT, .fsync, some 7, none, none, none⟩

/-- One slot, added and removed: the height of the stack tells that it is not live. -/
def removedOnce : Option History :=
  Transition.exec step strayOk (start 1 (by decide)) [.add (request 1), .remove 0]

/-- After one index was removed, a second removal of it aborts. -/
theorem guarded_removedOnce :
    Guarded (removedOnce.get (by decide)) ∧
      registryRemove (removedOnce.get (by decide)).reg 0 = none :=
  have h := guarded_of_run (by decide) (by decide) (Transition.Run.of_exec_get (by decide))
  ⟨h, (h.caught_iff 0 (by decide) (by decide)).mpr (by decide)⟩

/-- Two slots, both in use, and the second removed twice. -/
def removedTwice : Option History :=
  Transition.exec step (fun _ _ => True) (start 2 CInt.two_lt)
    [.add (request 1), .add (request 2), .remove 0, .remove 0]

/-- The second removal does not abort: index `0` is on the stack twice, and the next two requests
both get it. -/
theorem strayRemove_not_caught : ∃ s, removedTwice = some s ∧
    s.reg.available_indices.entries = [0, 0] ∧ s.indices = [1] ∧
    (registryAdd s.reg (request 3)).1 = 0 ∧
    (registryAdd (registryAdd s.reg (request 3)).2.1 (request 4)).1 = 0 := by
  obtain ⟨s, hs, hfacts⟩ := Option.map_eq_some_iff.mp
    (show removedTwice.map (fun s => (s.reg.available_indices.entries, s.indices,
      (registryAdd s.reg (request 3)).1,
      (registryAdd (registryAdd s.reg (request 3)).2.1 (request 4)).1)) =
        some ([0, 0], [1], 0, 0) by decide)
  simp only [Prod.mk.injEq] at hfacts
  exact ⟨s, hs, hfacts⟩

end History

end RequestRegistry

end Uringio
