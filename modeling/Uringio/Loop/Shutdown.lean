import Uringio.Loop.Released

/-!
# Closing a loop

`graceful_shutdown`: the completions that still arrive are drained, the registry is destroyed, and
then the ring. The drain gives the exception of a closed loop to the future of each request that a
completion names and removes the request, whether the slot is in use or not. `registry_destroy`
frees what the slots still hold.

The model is followed by what the drain does to the registry: it removes slots in use only, and then
does not abort, exactly when the slots that the completions name are in use and distinct
(`removesLive_iff`).
-/

namespace Uringio

/-- The exception that the drain sets. -/
def loopClosed : Outcome := .runtimeError "Event loop is closed"

/-- A completion that the drain takes. `raises` says whether `set_exception` raises behind the
exception that it sets, as it does when callbacks would have to be scheduled on a closed loop. -/
structure Drained where
  /-- The completion. -/
  cqe : Cqe
  /-- The exception that the drain makes of it cannot be set. -/
  raises : Bool
  deriving DecidableEq

namespace Loop

variable (L : Loop)

/-- The future of a drained request gets its exception. The call that makes the exception object
fails while another exception is pending. -/
def closeFuture (future : FutureRef) (raises : Bool) : Loop :=
  if L.err then L
  else
    let closed := L.resolve future loopClosed
    { closed with err := closed.err || raises }

/-- What the drain does with a completion, given the slot that `registry_get` returned. -/
def drainSlot (d : Drained) : Option RequestSlot → Except Fault Loop
  | none => .ok L
  | some slot =>
    let L := match slot.future with
      | none => L
      | some future => L.closeFuture future d.raises
    L.registryRemove d.cqe.index

/-- One iteration of the drain. -/
def drainCqe (d : Drained) : Except Fault Loop :=
  if d.cqe.user_data = WAKEUP_FD_TAG then .ok L
  else L.drainSlot d (registryGet L.registry d.cqe.index)

/-- The drain of `graceful_shutdown`: the completions that arrive before a wait of 100 ms ends
without one. -/
def drain (L : Loop) : List Drained → Except Fault Loop
  | [] => .ok L
  | d :: ds => L.drainCqe d >>= fun L => L.drain ds

/-- One iteration of `registry_destroy`. -/
def destroySlot (index : ℤ) : Loop :=
  match registryGet L.registry index with
  | none => L
  | some slot =>
    let L := L.applyEffects (slot.future.map fun f => .decref (.future f)).toList
    let L := match slot.buffer_payload with
      | none => L
      | some p => L.dropPayload index p true
    L.applyEffects ((slot.socket.map fun s => .decref (.socket s)).toList ++
      (slot.file.map fun f => .decref (.file f)).toList)

/-- The first `n` iterations of `registry_destroy`. -/
def destroySlots (n : ℕ) : Loop := (List.range n).foldl (fun L (i : ℕ) => L.destroySlot i) L

/-- `registry_destroy`, up to the release of the arrays. -/
def registryDestroy : Loop := L.destroySlots L.registry.size

/-- `ring_destroy` comes to `io_uring_queue_exit`: there is an entry for the cancellation, and its
submission, with result `r`, succeeds. -/
def ringDestroy (r : ℤ) : Bool := (getSqe L.ring).isSome ∧ 0 ≤ r

end Loop

/-- What a shutdown leaves: the loop when `ring_destroy` is called, and whether the ring was torn
down. -/
structure Closed where
  /-- The loop after the shutdown. -/
  loop : Loop
  /-- The ring was torn down. -/
  torn : Bool

/-- `graceful_shutdown`, with the completions that arrive and the result of the submission. -/
def gracefulShutdown (L : Loop) (ds : List Drained) (r : ℤ) : Except Fault Closed := do
  let L ← L.drain ds
  let L := L.registryDestroy
  .ok ⟨L, L.ringDestroy r⟩

namespace Loop

variable {L L' : Loop} {d : Drained} {ds : List Drained} {i : ℤ} {k : ℕ}

/-- The slot that the drain finds for a completion, none for the tag of the eventfd. -/
def names (L : Loop) (d : Drained) : Option ℤ :=
  if d.cqe.user_data = WAKEUP_FD_TAG ∨ ¬ L.registry.InRange d.cqe.index then none
  else some d.cqe.index

/-- Every call of `registry_remove` in the drain is made on a slot in use. -/
def RemovesLive (L : Loop) : List Drained → Prop
  | [] => True
  | d :: ds => (∀ i, L.names d = some i → L.registry.Live i) ∧
      ∀ L', L.drainCqe d = .ok L' → L'.RemovesLive ds

/-- A future that gets the exception: nothing but futures and the pending exception changes. -/
theorem closeFuture_eq (L : Loop) (future : FutureRef) (raises : Bool) :
    ∃ futures err, L.closeFuture future raises = { L with futures := futures, err := err } := by
  unfold closeFuture resolve
  split
  · exact ⟨L.futures, L.err, rfl⟩
  · split
    · exact ⟨_, _, rfl⟩
    · exact ⟨_, _, rfl⟩

/-- **What one iteration of the drain does.** A completion that names no slot is skipped; else the
slot's future may get the exception, and `registry_remove` is called on it. -/
theorem drainCqe_cases (L : Loop) (d : Drained) :
    (L.names d = none ∧ L.drainCqe d = .ok L) ∨
    ∃ slot, L.names d = some d.cqe.index ∧ registryGet L.registry d.cqe.index = some slot ∧
      L.drainCqe d = ((slot.future.map (L.closeFuture · d.raises)).getD L).registryRemove
        d.cqe.index := by
  unfold drainCqe names
  by_cases htag : d.cqe.user_data = WAKEUP_FD_TAG
  · simp [htag]
  · rw [if_neg htag]
    by_cases hr : L.registry.InRange d.cqe.index
    · obtain ⟨slot, hslot⟩ := Option.isSome_iff_exists.mp
        (RequestRegistry.registryGet_isSome.mpr hr)
      refine .inr ⟨slot, by simp [htag, hr], hslot, ?_⟩
      rw [hslot, drainSlot]
      cases slot.future <;> rfl
    · refine .inl ⟨by simp [hr], ?_⟩
      rw [RequestRegistry.registryGet_eq_none hr, drainSlot]

/-- The futures and the pending exception after a slot was drained. -/
def closedFuture (L : Loop) (d : Drained) (slot : RequestSlot) : Loop :=
  (slot.future.map (L.closeFuture · d.raises)).getD L

/-- Closing a future changes the futures and what is pending. -/
theorem closedFuture_eq (L : Loop) (d : Drained) (slot : RequestSlot) :
    ∃ futures err, L.closedFuture d slot = { L with futures := futures, err := err } := by
  unfold closedFuture
  cases slot.future with
  | none => exact ⟨L.futures, L.err, rfl⟩
  | some f => exact closeFuture_eq L f d.raises

/-- What the drain has removed with a completion: the slot is cleared, its index is on the stack
once more, and what the slot held was given up. -/
structure Drops (L : Loop) (d : Drained) (i : ℤ) (slot : RequestSlot) (L' : Loop) : Prop where
  /-- The slot as it was. -/
  get : registryGet L.registry i = some slot
  /-- The index is on the stack once more. -/
  stack : L'.registry.available_indices.entries = L.registry.available_indices.entries ++ [i]
  /-- The size is the same. -/
  size : L'.registry.size = L.registry.size
  /-- The slot is cleared. -/
  cleared : registryGet L'.registry i = some slot.clear
  /-- The other slots are as they were. -/
  others : ∀ j, j ≠ i → registryGet L'.registry j = registryGet L.registry j
  /-- The payloads are as they were. -/
  payloads : L'.payloads = L.payloads
  /-- The future was given its exception. -/
  futures : L'.futures = (L.closedFuture d slot).futures
  /-- What is pending comes from that. -/
  err : L'.err = (L.closedFuture d slot).err
  /-- What the slot held was given up. -/
  released : L'.released = (L.applyEffects slot.releases).released

/-- The effects of the registry do not depend on the futures or the pending exception. -/
theorem applyEffects_released_congr {M : Loop} (es : List Effect) (hpay : M.payloads = L.payloads)
    (hrel : M.released = L.released) :
      (M.applyEffects es).released = (L.applyEffects es).released := by
  induction es generalizing L M with
  | nil => exact hrel
  | cons e es ih =>
    refine ih ?_ ?_
    · rw [(applyEffect_sameBut M e).payloads, (applyEffect_sameBut L e).payloads, hpay]
    · cases e <;> simp only [applyEffect, freeBufferPayload, release, hpay, hrel]
      split <;> simp [hrel]

/-- **The two outcomes of a removal in the drain.** It aborts when the stack is full. -/
theorem drainCqe_of_names (h : L.names d = some i) :
    (L.registry.available_indices.entries.length = L.registry.size ∧ L.drainCqe d = .error .abort) ∨
    ∃ slot L', L.drainCqe d = .ok L' ∧ Drops L d i slot L' := by
  rcases drainCqe_cases L d with ⟨hnone, -⟩ | ⟨slot, hname, hget, hdrain⟩
  · rw [hnone] at h
    cases h
  · have hi : d.cqe.index = i := Option.some.inj (hname.symm.trans h)
    change L.drainCqe d = (L.closedFuture d slot).registryRemove d.cqe.index at hdrain
    rw [hi] at hget hdrain
    have hr : L.registry.InRange i :=
      RequestRegistry.registryGet_isSome.mp (Option.isSome_iff_exists.mpr ⟨slot, hget⟩)
    obtain ⟨futures, err, heq⟩ := closedFuture_eq L d slot
    rcases registryRemove_cases hr with ⟨hfull, habort⟩ | ⟨reg, slot', hget', hremove, hrest⟩
    · refine .inl ⟨hfull, ?_⟩
      rw [hdrain, heq, Loop.registryRemove, habort]
    · have hslot : slot = slot' := by
        rw [hget, Option.some.injEq] at hget'
        exact hget'
      rw [← hslot] at hremove hrest
      obtain ⟨hstack, hsize, hcleared, hothers⟩ := hrest
      let M : Loop := { L with futures := futures, err := err, registry := reg }
      have hok : L.drainCqe d = .ok (M.applyEffects slot.releases) := by
        rw [hdrain, heq, Loop.registryRemove, hremove]
      have hsame := applyEffects_sameBut M slot.releases
      exact .inr ⟨slot, _, hok,
        { get := hget
          stack := by rw [hsame.registry]; exact hstack
          size := by rw [hsame.registry]; exact hsize
          cleared := by rw [hsame.registry]; exact hcleared
          others := fun j hj => by rw [hsame.registry]; exact hothers j hj
          payloads := hsame.payloads
          futures := by rw [hsame.futures, heq]
          err := by rw [hsame.err, heq]
          released := applyEffects_released_congr _ rfl rfl }⟩

/-- The range of the indices stays. -/
theorem Drops.names {slot : RequestSlot} (h : Drops L d i slot L') (d' : Drained) :
    L'.names d' = L.names d' := by
  have hr : L'.registry.InRange d'.cqe.index ↔ L.registry.InRange d'.cqe.index :=
    RequestRegistry.inRange_congr h.size
  simp only [Loop.names, hr]

/-! ## The registry under the drain -/

/-- The slots that the completions name, in order. -/
def removals (L : Loop) (ds : List Drained) : List ℤ := ds.filterMap L.names

/-- A drop leaves the removals that were collected. -/
theorem Drops.removals {slot : RequestSlot} (h : Drops L d i slot L') :
    L'.removals ds = L.removals ds := by
  unfold Loop.removals
  rw [funext h.names]

/-- The removal of a slot in use keeps the registry consistent and frees just that slot. -/
theorem Drops.consistent {slot : RequestSlot} (h : Drops L d i slot L')
    (hcons : L.registry.Consistent) (hlive : L.registry.Live i) :
    L'.registry.Consistent ∧ ∀ j, L'.registry.Live j ↔ j ≠ i ∧ L.registry.Live j := by
  have hiff : ∀ j, L'.registry.Live j ↔ j ≠ i ∧ L.registry.Live j := by
    intro j
    by_cases hj : j = i
    · subst hj
      constructor
      · rintro ⟨s, hs, hf⟩
        rw [h.cleared, Option.some.injEq] at hs
        rw [← hs] at hf
        cases hf
      · exact fun hne => absurd rfl hne.1
    · rw [RequestRegistry.live_congr (h.others j hj)]
      exact ⟨fun hl => ⟨hj, hl⟩, fun hl => hl.2⟩
  have hnot : i ∉ L.registry.available_indices.entries :=
    fun hmem => ((hcons.mem_iff i).mp hmem).2 hlive
  refine ⟨⟨?_, fun j => ?_⟩, hiff⟩
  · rw [h.stack, List.nodup_append]
    exact ⟨hcons.nodup, List.nodup_singleton i, fun a ha b hb => by
      rw [List.mem_singleton.mp hb]
      exact fun heq => hnot (heq ▸ ha)⟩
  · rw [h.stack, List.mem_append, List.mem_singleton, hcons.mem_iff, hiff,
      RequestRegistry.inRange_congr h.size]
    by_cases hj : j = i
    · subst hj
      simp [hlive.inRange]
    · simp [hj]

/-- A slot in use is drained without an abort: its index is not on the stack, so that the stack is
not full. -/
theorem drainCqe_of_live (hcons : L.registry.Consistent) (h : L.names d = some i)
    (hlive : L.registry.Live i) : ∃ slot L', L.drainCqe d = .ok L' ∧ Drops L d i slot L' := by
  rcases drainCqe_of_names h with ⟨hfull, -⟩ | hok
  · exfalso
    obtain ⟨reg, slot, -, -, -, hstack, hsize, -⟩ := registryRemove_live hcons hlive
    have hlen := congrArg List.length hstack
    have htop := reg.available_indices.top_lt
    have hcells := reg.cells_length
    rw [List.length_append, List.length_singleton, IndexStack.length_entries] at hlen
    omega
  · exact hok

/-- A completion that names no slot is skipped. -/
theorem drainCqe_of_no_name (h : L.names d = none) : L.drainCqe d = .ok L := by
  rcases drainCqe_cases L d with ⟨-, hskip⟩ | ⟨slot, hsome, -⟩
  · exact hskip
  · rw [h] at hsome
    cases hsome

/-- A drain that removes slots in use only does not abort, and leaves a consistent registry. -/
theorem drain_of_removesLive (hcons : L.registry.Consistent) (h : L.RemovesLive ds) :
    ∃ L', L.drain ds = .ok L' ∧ L'.registry.Consistent := by
  induction ds generalizing L with
  | nil => exact ⟨L, rfl, hcons⟩
  | cons d ds ih =>
    obtain ⟨hlive, hrest⟩ := h
    cases hname : L.names d with
    | none =>
      have hskip := drainCqe_of_no_name hname
      obtain ⟨L', hdrain, hcons'⟩ := ih hcons (hrest L hskip)
      exact ⟨L', bind_eq_ok.mpr ⟨L, hskip, hdrain⟩, hcons'⟩
    | some i =>
      have hi := hlive i hname
      obtain ⟨slot, L₁, hstep, hdrops⟩ := drainCqe_of_live hcons hname hi
      have hcons₁ := (hdrops.consistent hcons hi).1
      obtain ⟨L', hdrain, hcons'⟩ := ih hcons₁ (hrest L₁ hstep)
      exact ⟨L', bind_eq_ok.mpr ⟨L₁, hstep, hdrain⟩, hcons'⟩

/-- **What the drain removes.** The slots are in use exactly when the completions name distinct
slots in use. -/
theorem removesLive_iff (hcons : L.registry.Consistent) :
    L.RemovesLive ds ↔ (L.removals ds).Nodup ∧ ∀ i ∈ L.removals ds, L.registry.Live i := by
  induction ds generalizing L with
  | nil => simp [RemovesLive, removals]
  | cons d ds ih =>
    cases hname : L.names d with
    | none =>
      have hskip := drainCqe_of_no_name hname
      have hremovals : L.removals (d :: ds) = L.removals ds := by simp [removals, hname]
      rw [hremovals, ← ih hcons]
      constructor
      · exact fun h => h.2 L hskip
      · intro h
        refine ⟨fun i hi => absurd hi (by simp [hname]), fun L' hL' => ?_⟩
        rw [hskip] at hL'
        cases hL'
        exact h
    | some i =>
      have hremovals : L.removals (d :: ds) = i :: L.removals ds := by simp [removals, hname]
      rw [hremovals, List.nodup_cons]
      -- After the removal of `i` the slots in use are the others.
      have hstep : ∀ L', L.drainCqe d = .ok L' → L.registry.Live i →
          (L'.RemovesLive ds ↔ (L.removals ds).Nodup ∧
            ∀ j ∈ L.removals ds, j ≠ i ∧ L.registry.Live j) := by
        intro L' hL' hi
        obtain ⟨slot, L₁, hok, hdrops⟩ := drainCqe_of_live hcons hname hi
        rw [hok] at hL'
        cases hL'
        obtain ⟨hcons', hiff⟩ := hdrops.consistent hcons hi
        rw [ih hcons', hdrops.removals]
        simp only [hiff]
      constructor
      · rintro ⟨hlive, hrest⟩
        have hi := hlive i hname
        obtain ⟨slot, L₁, hok, -⟩ := drainCqe_of_live hcons hname hi
        obtain ⟨hnodup, hall⟩ := (hstep L₁ hok hi).mp (hrest L₁ hok)
        refine ⟨⟨fun hmem => (hall i hmem).1 rfl, hnodup⟩, fun j hj => ?_⟩
        rcases List.mem_cons.mp hj with rfl | hj
        · exact hi
        · exact (hall j hj).2
      · rintro ⟨⟨hnot, hnodup⟩, hall⟩
        have hi := hall i List.mem_cons_self
        refine ⟨fun j hj => ?_, fun L' hL' => (hstep L' hL' hi).mpr ⟨hnodup, fun j hj => ?_⟩⟩
        · rw [hname, Option.some.injEq] at hj
          exact hj ▸ hi
        · exact ⟨fun heq => hnot (heq ▸ hj), hall j (List.mem_cons_of_mem _ hj)⟩

/-! ## What the drain releases -/

/-- No payload and no message header was released twice, none that a slot points to was released,
and two slots share the payload of a context at most, which a removal does not free. -/
structure Apart (L : Loop) : Prop where
  /-- Nothing was released more than once. -/
  once : ∀ o, (∀ a, o ≠ .sockaddr a) → L.released o ≤ 1
  /-- What a slot points to was not released. -/
  unfreed : ∀ i slot o, registryGet L.registry i = some slot → o ∈ slot.objects → L.released o = 0
  /-- Two slots point to one object only if it is the payload of a context. -/
  own : ∀ i j slot slot' o, i ≠ j → registryGet L.registry i = some slot →
    registryGet L.registry j = some slot' → o ∈ slot.objects → o ∈ slot'.objects →
    ∃ n, o = .payload (.context n)
  /-- The payload of a context is in no normal mode. -/
  shared : ∀ i slot n, registryGet L.registry i = some slot →
    slot.buffer_payload = some (.context n) → (L.payloads (.context n)).mode ≠ .NORMAL_BUF

/-- In a sound and tidy loop the payloads are held apart. -/
theorem apart_of_sound (hs : L.Sound) (ht : L.Tidy) : L.Apart := by
  -- A slot that points to something is in use, and what it points to belongs to its call.
  have hslot : ∀ i slot o, registryGet L.registry i = some slot → o ∈ slot.objects →
      ∃ k, L.Serves i k ∧ SlotOf L k slot ∧ L.released o = 0 := by
    intro i slot o hget ho
    cases hfut : slot.future with
    | none =>
      rw [ht.unused i slot hget hfut] at ho
      cases ho
    | some k =>
      obtain ⟨-, hof, hobj⟩ := hs.slots i slot k hget hfut
      exact ⟨k, ⟨slot, hget, hfut⟩, hof, hobj o ho⟩
  constructor
  · exact ht.once
  · intro i slot o hget ho
    obtain ⟨k, -, -, hrel⟩ := hslot i slot o hget ho
    exact hrel
  · intro i j slot slot' o hne hi hj ho ho'
    obtain ⟨k, hserves, hof, -⟩ := hslot i slot o hi ho
    obtain ⟨k', hserves', hof', -⟩ := hslot j slot' o hj ho'
    rcases call_of_mem_objects hof ho with hcall | hcontext
    · rcases call_of_mem_objects hof' ho' with hcall' | hcontext
      · rw [hcall, Option.some.injEq] at hcall'
        rw [← hcall'] at hserves'
        exact absurd (hs.injective i j k hserves hserves') hne
      · exact hcontext
    · exact hcontext
  · intro i slot n hget hp
    have ho : HeapRef.payload (.context n) ∈ slot.objects := by simp [RequestSlot.objects, hp]
    obtain ⟨k, -, hof, -⟩ := hslot i slot _ hget ho
    rcases hof.payload _ hp with heq | ⟨-, hmode⟩
    · cases heq
    · exact hmode

/-- What a removal in the drain releases. -/
theorem Drops.released_count {slot : RequestSlot} (h : Drops L d i slot L') (o : HeapRef) :
    L'.released o = L.released o + (L.frees slot).count o := by
  rw [h.released, applyEffects_count]
  rfl

/-- A drop keeps the payloads apart. -/
theorem Apart.drops {slot : RequestSlot} (h : L.Apart) (hd : Drops L d i slot L') : L'.Apart := by
  -- What is released here no other slot points to.
  have hfree : ∀ j s o, j ≠ i → registryGet L.registry j = some s → o ∈ s.objects →
      o ∉ L.frees slot := by
    intro j s o hne hget ho hmem
    obtain ⟨n, rfl⟩ := h.own i j slot s o (Ne.symm hne) hd.get hget (objects_of_mem_frees hmem) ho
    rcases mem_frees.mp hmem with ⟨p, hp, hmode, heq⟩ | ⟨m, -, heq⟩
    · cases heq
      exact h.shared i slot n hd.get hp hmode
    · cases heq
  have hold : ∀ j s o, registryGet L'.registry j = some s → o ∈ s.objects →
      j ≠ i ∧ registryGet L.registry j = some s := by
    intro j s o hget ho
    by_cases hj : j = i
    · rw [hj, hd.cleared, Option.some.injEq] at hget
      rw [← hget] at ho
      cases ho
    · exact ⟨hj, hd.others j hj ▸ hget⟩
  constructor
  · intro o ho
    have hcount := count_frees_le L slot o
    rw [hd.released_count]
    by_cases hmem : o ∈ L.frees slot
    · have hzero := h.unfreed i slot o hd.get (objects_of_mem_frees hmem)
      omega
    · rw [List.count_eq_zero.mpr hmem]
      exact h.once o ho
  · intro j s o hget ho
    obtain ⟨hne, hget⟩ := hold j s o hget ho
    rw [hd.released_count, List.count_eq_zero.mpr (hfree j s o hne hget ho)]
    exact h.unfreed j s o hget ho
  · intro j j' s s' o hne hj hj' ho ho'
    exact h.own j j' s s' o hne (hold j s o hj ho).2 (hold j' s' o hj' ho').2 ho ho'
  · intro j s n hget hp
    have ho : HeapRef.payload (.context n) ∈ s.objects := by simp [RequestSlot.objects, hp]
    rw [hd.payloads]
    exact h.shared j s n (hold j s _ hget ho).2 hp

/-- An iteration of the drain that does not abort skips the completion, or removes a request. -/
theorem drainCqe_ok (h : L.drainCqe d = .ok L') :
    (L.names d = none ∧ L' = L) ∨
      ∃ i slot, L.names d = some i ∧ Drops L d i slot L' := by
  cases hname : L.names d with
  | none =>
    rw [drainCqe_of_no_name hname] at h
    cases h
    exact .inl ⟨rfl, rfl⟩
  | some i =>
    rcases drainCqe_of_names hname with ⟨-, habort⟩ | ⟨slot, L₁, hok, hdrops⟩
    · rw [habort] at h
      cases h
    · rw [hok] at h
      cases h
      exact .inr ⟨i, slot, rfl, hdrops⟩

/-- **The drain keeps what the slots point to apart.** -/
theorem Apart.drain (h : L.Apart) (hdrain : L.drain ds = .ok L') : L'.Apart := by
  induction ds generalizing L with
  | nil =>
    cases hdrain
    exact h
  | cons d ds ih =>
    obtain ⟨L₁, hstep, hrest⟩ := bind_eq_ok.mp hdrain
    rcases drainCqe_ok hstep with ⟨-, rfl⟩ | ⟨i, slot, -, hdrops⟩
    · exact ih h hrest
    · exact ih (h.drops hdrops) hrest

/-! ## What `registry_destroy` frees -/

/-- The payload of the slot at `index`. -/
def heldAt (L : Loop) (index : ℤ) : Option PayloadRef :=
  (registryGet L.registry index).bind RequestSlot.buffer_payload

/-- The first `n` slots that hold the payload. -/
def holders (L : Loop) (p : PayloadRef) (n : ℕ) : List ℕ :=
  (List.range n).filter fun i => L.heldAt i = some p

/-- What the first `n` iterations have done: each slot has lost its payload, which was released once
for each slot that held it. -/
structure Destroyed (L : Loop) (n : ℕ) (L' : Loop) : Prop where
  /-- The first slots have no payload, the others are as they were. -/
  held : ∀ i : ℤ, 0 ≤ i → L'.heldAt i = if i < n then none else L.heldAt i
  /-- A payload was released once for each of the slots that held it. -/
  freed : ∀ p, L'.released (.payload p) = L.released (.payload p) + (L.holders p n).length
  /-- Nothing else was released. -/
  others : ∀ o, (∀ p, o ≠ .payload p) → L'.released o = L.released o
  /-- The futures are as they were. -/
  futures : L'.futures = L.futures

/-- `Py_DECREF` releases nothing that is counted here. -/
theorem applyEffects_decref (L : Loop) (es : List Effect) (hes : ∀ e ∈ es, ∃ o, e = .decref o) :
    (L.applyEffects es).released = L.released := by
  funext o
  refine applyEffects_released L es o fun e he => ?_
  obtain ⟨obj, rfl⟩ := hes e he
  simp [releasedBy]

/-- The payload of a slot is freed by force and taken out of it. -/
theorem dropPayload_cases (L : Loop) {index : ℤ} {slot : RequestSlot} {p : PayloadRef}
    (hget : registryGet L.registry index = some slot) :
    (∀ j, (L.dropPayload index p true).heldAt j = if j = index then none else L.heldAt j) ∧
      (L.dropPayload index p true).released = (L.release (.payload p)).released ∧
      (L.dropPayload index p true).futures = L.futures := by
  have hi : 0 ≤ index := (RequestRegistry.registryGet_isSome.mp
    (Option.isSome_iff_exists.mpr ⟨slot, hget⟩)).1
  have hfree : L.freeBufferPayload (some p) true = L.release (.payload p) := by
    simp [freeBufferPayload]
  unfold dropPayload
  rw [hfree]
  refine ⟨fun j => ?_, rfl, rfl⟩
  change (registryGet (L.registry.modifySlot index _) j).bind RequestSlot.buffer_payload = _
  by_cases hj : j = index
  · rw [if_pos hj, hj, RequestRegistry.registryGet_modifySlot_self, hget]
    rfl
  · rw [if_neg hj, RequestRegistry.registryGet_modifySlot_ne _ hi hj]
    rfl

/-- The payload of a slot is freed between calls of `Py_DECREF`. -/
theorem freed_between (L : Loop) {index : ℤ} {slot : RequestSlot} {es es' : List Effect}
    (hget : registryGet L.registry index = some slot) (hes : ∀ e ∈ es, ∃ o, e = .decref o)
    (hes' : ∀ e ∈ es', ∃ o, e = .decref o) {M : Loop}
    (hM : M = match slot.buffer_payload with
      | none => L.applyEffects es
      | some p => (L.applyEffects es).dropPayload index p true) :
    (∀ j, (M.applyEffects es').heldAt j = if j = index then none else L.heldAt j) ∧
      (∀ o, (M.applyEffects es').released o =
        L.released o + if (L.heldAt index).map .payload = some o then 1 else 0) ∧
      (M.applyEffects es').futures = L.futures := by
  have hheld : L.heldAt index = slot.buffer_payload := by simp [heldAt, hget]
  have hsame := applyEffects_sameBut L es
  have hafter := applyEffects_sameBut M es'
  have hget₁ : registryGet (L.applyEffects es).registry index = some slot := by
    rw [hsame.registry]
    exact hget
  have hheld₁ : (L.applyEffects es).heldAt = L.heldAt := by
    funext j
    rw [heldAt, heldAt, hsame.registry]
  have hheld₂ : (M.applyEffects es').heldAt = M.heldAt := by
    funext j
    rw [heldAt, heldAt, hafter.registry]
  rw [hheld₂, applyEffects_decref M es' hes', hafter.futures]
  cases hp : slot.buffer_payload with
  | none =>
    rw [hp] at hM hheld
    simp only at hM
    rw [hM, hheld₁, applyEffects_decref L es hes, hsame.futures]
    refine ⟨fun j => ?_, fun o => by simp [hheld], rfl⟩
    by_cases hj : j = index
    · rw [if_pos hj, hj, hheld]
    · rw [if_neg hj]
  | some p =>
    rw [hp] at hM hheld
    simp only at hM
    obtain ⟨hdrop, hreleased, hfutures⟩ := dropPayload_cases (L.applyEffects es) (p := p) hget₁
    rw [hM, hreleased, hfutures, hsame.futures]
    refine ⟨fun j => by rw [hdrop, hheld₁], fun o => ?_, rfl⟩
    by_cases ho : o = .payload p
    · rw [ho, release_released_self, applyEffects_decref L es hes, hheld, Option.map_some,
        if_pos rfl]
    · rw [release_released_ne ho, applyEffects_decref L es hes, hheld, Option.map_some,
        if_neg fun heq => ho (Option.some.inj heq).symm, add_zero]

/-- One iteration: the slot loses its payload, and that is released. -/
theorem destroySlot_cases (L : Loop) (index : ℤ) :
    (∀ j, (L.destroySlot index).heldAt j = if j = index then none else L.heldAt j) ∧
      (∀ o, (L.destroySlot index).released o =
        L.released o + if (L.heldAt index).map .payload = some o then 1 else 0) ∧
      (L.destroySlot index).futures = L.futures := by
  unfold destroySlot
  cases hget : registryGet L.registry index with
  | none =>
    have hnone : L.heldAt index = none := by simp [heldAt, hget]
    refine ⟨fun j => ?_, fun o => by simp [hnone], rfl⟩
    by_cases hj : j = index
    · rw [if_pos hj, hj, hnone]
    · rw [if_neg hj]
  | some slot =>
    refine freed_between L hget (fun e he => ?_) (fun e he => ?_) rfl
    · obtain ⟨f, -, rfl⟩ := Option.map_eq_some_iff.mp (Option.mem_toList.mp he)
      exact ⟨_, rfl⟩
    · rcases List.mem_append.mp he with he | he <;>
        obtain ⟨f, -, rfl⟩ := Option.map_eq_some_iff.mp (Option.mem_toList.mp he) <;>
        exact ⟨_, rfl⟩

/-- The last slot is destroyed after the others. -/
theorem destroySlots_succ (L : Loop) (n : ℕ) :
    L.destroySlots (n + 1) = (L.destroySlots n).destroySlot n := by
  unfold destroySlots
  rw [List.range_succ, List.foldl_append, List.foldl_cons, List.foldl_nil]

/-- **What `registry_destroy` has freed** after `n` slots. -/
theorem destroySlots_destroyed (L : Loop) (n : ℕ) : Destroyed L n (L.destroySlots n) := by
  induction n with
  | zero =>
    have hzero : L.destroySlots 0 = L := by simp [destroySlots]
    rw [hzero]
    exact ⟨fun i hi => by rw [if_neg (by omega)], fun p => by simp [holders], fun o _ => rfl, rfl⟩
  | succ n ih =>
    have hstep := destroySlots_succ L n
    obtain ⟨hheld, hreleased, hfutures⟩ := destroySlot_cases (L.destroySlots n) n
    -- The slot at `n` is still as it was.
    have hn : (L.destroySlots n).heldAt n = L.heldAt n := by
      rw [ih.held n (by omega), if_neg (by omega)]
    constructor
    · intro i hi
      rw [hstep, hheld, ih.held i hi]
      by_cases heq : i = n
      · rw [if_pos heq, if_pos (by omega)]
      · rw [if_neg heq]
        by_cases hlt : i < n
        · rw [if_pos hlt, if_pos (by omega)]
        · rw [if_neg hlt, if_neg (by omega)]
    · intro p
      rw [hstep, hreleased, ih.freed, hn]
      simp only [holders, List.range_succ, List.filter_append, List.length_append]
      by_cases hp : L.heldAt n = some p
      · simp [hp, add_assoc]
      · have hne : (L.heldAt n).map HeapRef.payload ≠ some (.payload p) := by
          intro heq
          obtain ⟨q, hq, hqp⟩ := Option.map_eq_some_iff.mp heq
          cases hqp
          exact hp hq
        simp [hp, hne]
    · intro o ho
      have hne : (L.heldAt n).map HeapRef.payload ≠ some o := by
        intro heq
        obtain ⟨q, -, hqp⟩ := Option.map_eq_some_iff.mp heq
        exact ho q hqp.symm
      rw [hstep, hreleased, hn, if_neg hne, add_zero]
      exact ih.others o ho
    · rw [hstep, hfutures, ih.futures]

/-- However far `registry_destroy` has come, each payload was freed once at most, and no slot holds
a payload that was freed. -/
def FreedOnce (L : Loop) : Prop := ∀ n ≤ L.registry.size,
  (∀ p, (L.destroySlots n).released (.payload p) ≤ 1) ∧
    ∀ i p, 0 ≤ i → (L.destroySlots n).heldAt i = some p →
      (L.destroySlots n).released (.payload p) = 0

/-- A payload that is held at an index is the slot's. -/
theorem heldAt_eq_some {p : PayloadRef} (h : L.heldAt i = some p) :
    ∃ slot, registryGet L.registry i = some slot ∧ slot.buffer_payload = some p ∧ 0 ≤ i ∧
      i < L.registry.size := by
  obtain ⟨slot, hget, hp⟩ := Option.bind_eq_some_iff.mp h
  have hr : L.registry.InRange i :=
    RequestRegistry.registryGet_isSome.mp (Option.isSome_iff_exists.mpr ⟨slot, hget⟩)
  exact ⟨slot, hget, hp, RequestRegistry.inRange_iff.mp hr⟩

/-- What a slot holds was not released. -/
theorem Apart.released_of_held {p : PayloadRef} (h : L.Apart) (hheld : L.heldAt i = some p) :
    L.released (.payload p) = 0 := by
  obtain ⟨slot, hget, hp, -⟩ := heldAt_eq_some hheld
  exact h.unfreed i slot _ hget (by simp [RequestSlot.objects, hp])

/-- The holders of a payload are the indices that hold it. -/
theorem mem_holders {p : PayloadRef} {n j : ℕ} :
    j ∈ L.holders p n ↔ j < n ∧ L.heldAt j = some p := by
  simp [holders]

/-- A payload that one slot holds at most has one holder at most. -/
theorem length_holders_le {p : PayloadRef} {n : ℕ}
    (h : ∀ i j, L.heldAt i = some p → L.heldAt j = some p → i = j) :
      (L.holders p n).length ≤ 1 := by
  have hnodup : (L.holders p n).Nodup := List.Nodup.filter _ List.nodup_range
  match hlist : L.holders p n with
  | [] | [_] => simp
  | a :: b :: rest =>
    rw [hlist] at hnodup
    have ha : a ∈ L.holders p n := by rw [hlist]; simp
    have hb : b ∈ L.holders p n := by rw [hlist]; simp
    have hab : (a : ℤ) = b := h a b (mem_holders.mp ha).2 (mem_holders.mp hb).2
    have hne : a ≠ b := fun heq => (List.nodup_cons.mp hnodup).1 (heq ▸ List.mem_cons_self)
    omega

/-- **When `registry_destroy` frees each payload once**: when no two slots hold the same one. -/
theorem freedOnce_iff (h : L.Apart) :
    L.FreedOnce ↔ ∀ i j p, L.heldAt i = some p → L.heldAt j = some p → i = j := by
  constructor
  · intro hfreed
    -- Of two slots that hold a payload, the later one still does when the earlier one is done.
    have hlt : ∀ i j p, L.heldAt i = some p → L.heldAt j = some p → ¬ i < j := by
      intro i j p hi hj hij
      obtain ⟨-, -, -, hi₀, -⟩ := heldAt_eq_some hi
      obtain ⟨-, -, -, hj₀, hjsize⟩ := heldAt_eq_some hj
      obtain ⟨n, rfl⟩ := Int.eq_ofNat_of_zero_le hi₀
      have hdone := destroySlots_destroyed L (n + 1)
      have hstill : (L.destroySlots (n + 1)).heldAt j = some p := by
        rw [hdone.held j hj₀, if_neg (by omega)]
        exact hj
      have hzero := (hfreed (n + 1) (by omega)).2 j p hj₀ hstill
      have hmem : n ∈ L.holders p (n + 1) := mem_holders.mpr ⟨by omega, hi⟩
      have hpos := List.length_pos_of_mem hmem
      rw [hdone.freed] at hzero
      omega
    intro i j p hi hj
    have h₁ := hlt i j p hi hj
    have h₂ := hlt j i p hj hi
    omega
  · intro hunique n _
    have hdone := destroySlots_destroyed L n
    refine ⟨fun p => ?_, fun i p hi hheld => ?_⟩
    · rw [hdone.freed]
      have hlen := length_holders_le (n := n) (hunique · · p)
      by_cases hnil : L.holders p n = []
      · rw [hnil]
        exact h.once _ (by simp)
      · obtain ⟨j, hj⟩ := List.exists_mem_of_ne_nil _ hnil
        have hzero := h.released_of_held (mem_holders.mp hj).2
        omega
    · rw [hdone.held i hi] at hheld
      split at hheld
      · cases hheld
      · have hnil : L.holders p n = [] := by
          by_contra hne
          obtain ⟨j, hj⟩ := List.exists_mem_of_ne_nil _ hne
          obtain ⟨hjn, hjheld⟩ := mem_holders.mp hj
          have heq := hunique i j p hheld hjheld
          omega
        rw [hdone.freed, hnil, h.released_of_held hheld]
        rfl

end Loop

end Uringio
