import Uringio.Loop.Calls
import Uringio.Loop.Reading

/-!
# The invariant of the loop

Every slot in use is that of one call, no two slots are of the same call, and what a slot points to
has not been released. `Loop.Sound` says so; calls keep it (`Loop.Sound.call`), and so does the
reader, whatever entry of the completion queue it is given (`Loop.Sound.read`).
-/

namespace Uringio

/-- The objects that the reader follows or releases through the slot: its payload and its message
header. -/
def RequestSlot.objects (slot : RequestSlot) : List HeapRef :=
  (slot.buffer_payload.map .payload).toList ++ (slot.msghdr.map .msghdr).toList

namespace Loop

/-- The slot at `index` is in use for the request of call number `k`. -/
def Serves (L : Loop) (index : ℤ) (k : ℕ) : Prop :=
  ∃ slot, registryGet L.registry index = some slot ∧ slot.future = some k

/-- The invariant. -/
structure Sound (L : Loop) : Prop where
  /-- The payloads of the contexts are sound. -/
  contexts : L.ContextsSound
  /-- The registry is consistent. -/
  consistent : L.registry.Consistent
  /-- A slot in use is that of a call, and what it points to was not released. -/
  slots : ∀ index slot (k : ℕ), registryGet L.registry index = some slot → slot.future = some k →
    k < L.calls ∧ SlotOf L k slot ∧ ∀ h ∈ slot.objects, L.released h = 0
  /-- No two slots have the same future. -/
  injective : ∀ i j (k : ℕ), L.Serves i k → L.Serves j k → i = j
  /-- What a later call will make was not released yet. -/
  fresh : ∀ (h : HeapRef) (k : ℕ), h.call = some k → L.calls ≤ k → L.released h = 0
  /-- The payload of a context outlives its requests. -/
  shared : ∀ n, L.released (.payload (.context n)) = 0

variable {k : ℕ} {index : ℤ} {L L' : Loop} {slot : RequestSlot} {ctx : ExecutionContext} {op : Op}
  {env : CallEnv} {c : Called} {renv : ReadEnv} {cqe : Cqe} {r : Read}

/-- A slot in use serves a call. -/
theorem live_iff_serves : L.registry.Live index ↔ ∃ k, L.Serves index k := by
  constructor
  · rintro ⟨slot, hget, hsome⟩
    obtain ⟨k, hk⟩ := Option.isSome_iff_exists.mp hsome
    exact ⟨k, slot, hget, hk⟩
  · rintro ⟨k, slot, hget, hk⟩
    exact ⟨slot, hget, by rw [hk]; rfl⟩

/-- A slot serves one call at a time. -/
theorem Serves.unique {j : ℕ} (h : L.Serves index k) (h' : L.Serves index j) : k = j := by
  obtain ⟨slot, hget, hk⟩ := h
  obtain ⟨slot', hget', hj⟩ := h'
  rw [hget] at hget'
  cases hget'
  exact Option.some.inj (hk.symm.trans hj)

/-- A slot that reads the same serves the same call. -/
theorem serves_congr (h : registryGet L'.registry index = registryGet L.registry index) :
    L'.Serves index k ↔ L.Serves index k := by
  unfold Serves
  rw [h]

/-! ## What a frame keeps -/

/-- What a slot points to was made by its call, or is the payload of a context. -/
theorem call_of_mem_objects {h : HeapRef} (hs : SlotOf L k slot) (hh : h ∈ slot.objects) :
    h.call = some k ∨ ∃ n, h = .payload (.context n) := by
  simp only [RequestSlot.objects, List.mem_append, Option.mem_toList, Option.map_eq_some_iff] at hh
  rcases hh with ⟨p, hp, rfl⟩ | ⟨m, hm, rfl⟩
  · rcases hs.payload p hp with rfl | ⟨⟨n, rfl⟩, -⟩
    · exact .inl rfl
    · exact .inr ⟨n, rfl⟩
  · cases hs.msghdr m hm
    exact .inl rfl

/-- A slot stays one of its call, whatever another call does. -/
theorem slotOf_frame {j : ℕ} (hs : SlotOf L k slot) (hf : Frame j L L') : SlotOf L' k slot := {
  hs with
    payload := fun p hp => by
      rcases hs.payload p hp with hown | ⟨⟨n, rfl⟩, hmode⟩
      · exact .inl hown
      · refine .inr ⟨⟨n, rfl⟩, ?_⟩
        rwa [(hf.payloads (.context n) (by simp)).mode] }

/-- The contexts stay sound outside the call. -/
theorem contextsSound_frame (h : L.ContextsSound) (hf : Frame k L L') : L'.ContextsSound := by
  intro n hmode
  have hsame := hf.payloads (.context n) (by simp)
  rw [hsame.mode] at hmode
  rw [hsame.payload_type]
  exact h n hmode

/-- What every step keeps, if the slots are those of calls whose objects were not released. -/
theorem Sound.of_frame (h : L.Sound) (hf : Frame k L L') (hk : k < L'.calls)
    (hcons : L'.registry.Consistent)
    (hslots : ∀ i slot (j : ℕ), registryGet L'.registry i = some slot → slot.future = some j →
      j < L'.calls ∧ SlotOf L' j slot ∧ ∀ o ∈ slot.objects, L'.released o = 0)
    (hinj : ∀ i j (m : ℕ), L'.Serves i m → L'.Serves j m → i = j) : L'.Sound where
  contexts := contextsSound_frame h.contexts hf
  consistent := hcons
  slots := hslots
  injective := hinj
  fresh o j ho hj := by
    rw [hf.released o (by rw [ho]; intro heq; cases heq; omega)]
    exact h.fresh o j ho (le_trans hf.calls hj)
  shared n := by
    rw [hf.released _ (by simp [HeapRef.call])]
    exact h.shared n

/-- A slot of another call is sound as before. -/
theorem Sound.slot_frame {i : ℤ} {j : ℕ} (h : L.Sound) (hf : Frame k L L') (hj : j ≠ k)
    (hget : registryGet L.registry i = some slot) (hfut : slot.future = some j) :
    j < L'.calls ∧ SlotOf L' j slot ∧ ∀ o ∈ slot.objects, L'.released o = 0 := by
  obtain ⟨hlt, hs, hrel⟩ := h.slots i slot j hget hfut
  refine ⟨lt_of_lt_of_le hlt hf.calls, slotOf_frame hs hf, fun o ho => ?_⟩
  rw [hf.released o ?_, hrel o ho]
  rcases call_of_mem_objects hs ho with hcall | ⟨n, rfl⟩
  · rw [hcall]
    exact fun heq => hj (Option.some.inj heq)
  · simp [HeapRef.call]

/-! ## Calls -/

/-- The slots of a loop that kept those in use and took no new one. -/
theorem Sound.rejected (h : L.Sound) (hc : Rejected L c) : c.loop.Sound := by
  rcases hc.calls with heq | hnext
  · rw [heq]
    exact h
  have hback : ∀ i slot (j : ℕ), registryGet c.loop.registry i = some slot → slot.future = some j →
      registryGet L.registry i = some slot := by
    intro i slot j hget hfut
    have hlive := hc.live i ⟨slot, hget, by rw [hfut]; rfl⟩
    rw [← hc.slots i hlive]
    exact hget
  refine h.of_frame hc.frame (by omega) hc.consistent (fun i slot j hget hfut => ?_)
    fun i j m hi hj => ?_
  · have hget' := hback i slot j hget hfut
    have hlt := (h.slots i slot j hget' hfut).1
    exact h.slot_frame hc.frame (by omega) hget' hfut
  · obtain ⟨slot, hget, hfut⟩ := hi
    obtain ⟨slot', hget', hfut'⟩ := hj
    exact h.injective i j m ⟨slot, hback _ _ _ hget hfut, hfut⟩
      ⟨slot', hback _ _ _ hget' hfut', hfut'⟩

/-- The slot of a request that was accepted. -/
theorem slotOf_accepted {req : Request} {e : Sqe} (hc : Accepted L ctx op env c req index e) :
    SlotOf c.loop L.calls (req.slot index) where
  future := congrArg some hc.request.future
  payload p hp := by
    rcases hc.request.payload p hp with
      ⟨rfl, -⟩ | ⟨n, -, rfl, hmode⟩
    · exact .inl rfl
    · exact .inr ⟨⟨n, rfl⟩, hmode⟩
  write hop := hc.request.write (hc.request.opcode.symm.trans hop)
  sockaddr := hc.request.sockaddr
  msghdr := hc.request.msghdr

/-- The slot of an accepted request serves the call. -/
theorem serves_accepted {req : Request} {e : Sqe} (hc : Accepted L ctx op env c req index e) :
    c.loop.Serves index L.calls := ⟨_, hc.slot, (slotOf_accepted hc).future⟩

/-- The slots of another index are as before. -/
theorem serves_accepted_iff {req : Request} {e : Sqe} {i : ℤ}
    (hc : Accepted L ctx op env c req index e) (hi : i ≠ index) :
    c.loop.Serves i k ↔ L.Serves i k := serves_congr (hc.others i hi)

/-- An accepted request keeps the loop sound. -/
theorem Sound.accepted {req : Request} {e : Sqe} (h : L.Sound)
    (hc : Accepted L ctx op env c req index e) : c.loop.Sound := by
  have hnext := hc.calls
  have hs := slotOf_accepted hc
  have hold : ∀ i (m : ℕ), i ≠ index → c.loop.Serves i m → m ≠ L.calls := by
    intro i m hi hserves
    obtain ⟨slot, hget, hfut⟩ := (serves_accepted_iff hc hi).mp hserves
    have := (h.slots i slot m hget hfut).1
    omega
  have hnew : ∀ m : ℕ, c.loop.Serves index m → m = L.calls := fun m hm =>
    hm.unique (serves_accepted hc)
  refine h.of_frame hc.frame (by omega) hc.consistent (fun i slot j hget hfut => ?_)
    fun i j m hi hj => ?_
  · by_cases hi : i = index
    · subst hi
      have hslot := hget.symm.trans hc.slot
      cases hslot
      cases hnew j ⟨_, hget, hfut⟩
      refine ⟨by omega, hs, fun o ho => ?_⟩
      rw [hc.released]
      rcases call_of_mem_objects hs ho with hcall | ⟨n, rfl⟩
      · exact h.fresh o _ hcall le_rfl
      · exact h.shared n
    · have hne := hold i j hi ⟨slot, hget, hfut⟩
      rw [hc.others i hi] at hget
      exact h.slot_frame hc.frame hne hget hfut
  · by_cases hi' : i = index <;> by_cases hj' : j = index
    · exact hi'.trans hj'.symm
    · exact absurd (hnew m (hi' ▸ hi)) (hold j m hj' hj)
    · exact absurd (hnew m (hj' ▸ hj)) (hold i m hi' hi)
    · exact h.injective i j m ((serves_accepted_iff hc hi').mp hi)
        ((serves_accepted_iff hc hj').mp hj)

/-- **Calls keep the invariant.** -/
theorem Sound.call (h : L.Sound) (hcall : L.call ctx op env = .ok c) : c.loop.Sound := by
  rcases call_cases h.contexts h.consistent hcall with hrej | ⟨req, idx, e, hacc⟩
  · exact h.rejected hrej
  · exact h.accepted hacc

/-! ## The reader -/

/-- What the reader can do with a completion, in a sound loop. -/
theorem Sound.read_cases (h : L.Sound) (hread : readCqe L renv cqe = .ok r) :
    (¬ L.registry.Live cqe.index ∧ r = ⟨L, none, [], false⟩) ∨
      ∃ slot k, registryGet L.registry cqe.index = some slot ∧ slot.future = some k ∧
        k < L.calls ∧ (Left L k slot renv cqe r ∨ Finished L k slot cqe r) := by
  by_cases hlive : L.registry.Live cqe.index
  · obtain ⟨slot, hget, hsome⟩ := hlive
    obtain ⟨k, hk⟩ := Option.isSome_iff_exists.mp hsome
    obtain ⟨hlt, hs, -⟩ := h.slots _ slot k hget hk
    exact .inr ⟨slot, k, hget, hk, hlt, readCqe_cases h.consistent hget hs hread⟩
  · rw [readCqe_of_not_live hlive] at hread
    cases hread
    exact .inl ⟨hlive, rfl⟩

/-- A completion that leaves its slot keeps the loop sound. -/
theorem Sound.left (h : L.Sound) (hk : k < L.calls) (hr : Left L k slot renv cqe r) :
    r.loop.Sound := by
  have hserves : ∀ i (m : ℕ), r.loop.Serves i m ↔ L.Serves i m := fun i m =>
    serves_congr (by rw [hr.registry])
  refine h.of_frame hr.frame (by rw [hr.calls]; exact hk) (by rw [hr.registry]; exact h.consistent)
    (fun i s j hget hfut => ?_) fun i j m hi hj => ?_
  · rw [hr.registry] at hget
    obtain ⟨hlt, hs, hrel⟩ := h.slots i s j hget hfut
    refine ⟨by rw [hr.calls]; exact hlt, slotOf_frame hs hr.frame, fun o ho => ?_⟩
    rw [hr.released o ?_, hrel o ho]
    rintro a rfl
    simp [RequestSlot.objects] at ho
  · exact h.injective i j m ((hserves i m).mp hi) ((hserves j m).mp hj)

/-- After the request of a slot is finished, the others are served as before. -/
theorem serves_finished {i : ℤ} {j : ℕ} (hr : Finished L k slot cqe r) :
    r.loop.Serves i j ↔ i ≠ cqe.index ∧ L.Serves i j := by
  constructor
  · intro hs
    have hi : i ≠ cqe.index := fun heq => hr.dead (heq ▸ live_iff_serves.mpr ⟨j, hs⟩)
    exact ⟨hi, (serves_congr (hr.others i hi)).mp hs⟩
  · rintro ⟨hi, hs⟩
    exact (serves_congr (hr.others i hi)).mpr hs

/-- A completion that ends its request keeps the loop sound. -/
theorem Sound.finished (h : L.Sound) (hget : registryGet L.registry cqe.index = some slot)
    (hfut : slot.future = some k) (hr : Finished L k slot cqe r) : r.loop.Sound := by
  have hlt := (h.slots _ slot k hget hfut).1
  refine h.of_frame hr.frame (by rw [hr.calls]; exact hlt) hr.consistent (fun i s j hi hj => ?_)
    fun i j m hi hj => ?_
  · obtain ⟨hne, hserves⟩ := (serves_finished hr).mp ⟨s, hi, hj⟩
    have hjk : j ≠ k := by
      rintro rfl
      exact hne (h.injective i cqe.index j hserves ⟨slot, hget, hfut⟩)
    rw [hr.others i hne] at hi
    exact h.slot_frame hr.frame hjk hi hj
  · exact h.injective i j m ((serves_finished hr).mp hi).2 ((serves_finished hr).mp hj).2

/-- **The reader keeps the invariant.** -/
theorem Sound.read (h : L.Sound) (hread : readCqe L renv cqe = .ok r) : r.loop.Sound := by
  rcases h.read_cases hread with ⟨-, rfl⟩ | ⟨slot, k, hget, hfut, hlt, hleft | hfin⟩
  · exact h
  · exact h.left hlt hleft
  · exact h.finished hget hfut hfin

/-- A change outside of what the invariant speaks about. -/
theorem Sound.congr (h : L.Sound) (hreg : L'.registry = L.registry)
    (hpay : L'.payloads = L.payloads) (hrel : L'.released = L.released)
    (hcalls : L'.calls = L.calls) : L'.Sound where
  contexts := by
    intro n hmode
    rw [hpay] at hmode ⊢
    exact h.contexts n hmode
  consistent := by rw [hreg]; exact h.consistent
  slots i slot k hget hfut := by
    rw [hreg] at hget
    obtain ⟨hlt, hs, hobj⟩ := h.slots i slot k hget hfut
    exact ⟨by rw [hcalls]; exact hlt, { hs with payload := by rw [hpay]; exact hs.payload },
      by rw [hrel]; exact hobj⟩
  injective i j k hi hj :=
    h.injective i j k ((serves_congr (by rw [hreg])).mp hi) ((serves_congr (by rw [hreg])).mp hj)
  fresh := by rw [hrel, hcalls]; exact h.fresh
  shared := by rw [hrel]; exact h.shared

end Loop

end Uringio
