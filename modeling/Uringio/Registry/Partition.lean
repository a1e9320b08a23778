import Uringio.Lib.Transition
import Uringio.Registry.Registry

/-!
# The registry over whole histories of calls

What `registry_add` and `registry_remove` do to the registry is stated once for each
(`registryAdd_cases`, `registryRemove_cases`), in terms of the stack's entries and of
`registry_get`. Two invariants rest on these:

- `Consistent`: the stack holds each index whose slot has no future, once. A caller that removes
  only slots that have one keeps it, and the reader is such a caller.
- `History`: a sequence of calls with the list of the requests that are live, those added and not
  yet removed. The free and the live indices partition the indices of the registry, and each live
  slot holds what its own call of `registry_add` put there (`registry_correct`).
-/

namespace Uringio

open IndexStack (Partition)

/-- The slot of a request: nothing in it comes from an earlier occupant. -/
def Request.slot (req : Request) (index : ℤ) : RequestSlot := RequestSlot.zero.fill index req

variable {reg reg' : RequestRegistry} {i j : ℤ} {req : Request} {es : List Effect}

namespace RequestRegistry

/-- The range check, with the size as the number that it is. -/
theorem inRange_iff : reg.InRange i ↔ 0 ≤ i ∧ i < reg.size := by
  rw [InRange, CInt.toInt_natCast reg.size_lt]

/-- `registry_get` returns a slot exactly for the indices of the array. -/
theorem registryGet_isSome : (registryGet reg i).isSome ↔ reg.InRange i := by
  have hlen := reg.slots_length
  rw [inRange_iff, registryGet, CInt.toInt_natCast reg.size_lt]
  split
  · simp
    omega
  · simp [hlen]
    omega

/-- An index out of range has no slot. -/
theorem registryGet_eq_none (h : ¬ reg.InRange i) : registryGet reg i = none := by
  rw [← registryGet_isSome] at h
  simpa using h

/-- The range check depends on the size only. -/
theorem inRange_congr (h : reg'.size = reg.size) : reg'.InRange i ↔ reg.InRange i := by
  rw [inRange_iff, inRange_iff, h]

/-- A modified slot is read back. -/
theorem registryGet_modifySlot_self (f : RequestSlot → RequestSlot) :
    registryGet (reg.modifySlot i f) i = (registryGet reg i).map f := by
  simp only [registryGet, modifySlot]
  by_cases h : i < 0 ∨ CInt.toInt reg.size ≤ i
  · simp [h]
  · simp [h]

/-- `registry_get` does not read the stack. -/
@[simp] theorem registryGet_withStack (stack : IndexStack) (h₁ h₂) (i : ℤ) :
    registryGet (reg.withStack stack h₁ h₂) i = registryGet reg i := rfl

/-- A modification of one slot leaves the others. -/
theorem registryGet_modifySlot_ne (f : RequestSlot → RequestSlot) (hi : 0 ≤ i) (h : j ≠ i) :
    registryGet (reg.modifySlot i f) j = registryGet reg j := by
  simp only [registryGet, modifySlot]
  by_cases hj : j < 0 ∨ CInt.toInt reg.size ≤ j
  · simp [hj]
  · have hne : i.toNat ≠ j.toNat := by omega
    simp [hj, hne]

end RequestRegistry

open RequestRegistry

/-- **What `registry_add` does.** With an empty stack it changes nothing; else it takes the
topmost index and fills that slot. -/
theorem registryAdd_cases (reg : RequestRegistry) (req : Request) :
    (reg.available_indices.entries = [] ∧ registryAdd reg req = (-1, reg, [])) ∨
    ∃ i reg', registryAdd reg req = (i, reg', RequestSlot.acquires req) ∧ reg.InRange i ∧
      reg.available_indices.entries = reg'.available_indices.entries ++ [i] ∧
      reg'.size = reg.size ∧ registryGet reg' i = some (req.slot i) ∧
      ∀ j, j ≠ i → registryGet reg' j = registryGet reg j := by
  unfold registryAdd
  split
  · next hpop => exact .inl ⟨IndexStack.pop_eq_none.mp hpop, rfl⟩
  · next i available hpop =>
    have hentries := (IndexStack.pop_eq_some hpop).1
    have hr : reg.InRange i := inRange_iff.mpr (reg.in_range i (by simp [hentries]))
    refine .inr ⟨i, _, rfl, hr, hentries, rfl, ?_, fun j hj => ?_⟩
    · obtain ⟨slot, hslot⟩ := Option.isSome_iff_exists.mp (registryGet_isSome.mpr hr)
      rw [registryGet_modifySlot_self, registryGet_withStack, hslot]
      rfl
    · rw [registryGet_modifySlot_ne _ hr.1 hj, registryGet_withStack]

/-- **What `registry_remove` does.** For an index of the array it aborts when the stack is full,
else it clears the slot and pushes the index. -/
theorem registryRemove_cases (hr : reg.InRange i) :
    (reg.available_indices.entries.length = reg.size ∧ registryRemove reg i = none) ∨
    ∃ reg' slot, registryGet reg i = some slot ∧
      registryRemove reg i = some (reg', slot.releases) ∧
      reg'.available_indices.entries = reg.available_indices.entries ++ [i] ∧
      reg'.size = reg.size ∧ registryGet reg' i = some slot.clear ∧
      ∀ j, j ≠ i → registryGet reg' j = registryGet reg j := by
  obtain ⟨slot, hslot⟩ := Option.isSome_iff_exists.mp (registryGet_isSome.mpr hr)
  unfold registryRemove
  rw [dif_neg (not_not.mpr hr)]
  split
  · next hpush =>
    exact .inl ⟨(IndexStack.push_eq_none.mp hpush).trans reg.cells_length, rfl⟩
  · next available hpush =>
    refine .inr ⟨_, slot, hslot, congrArg some (Prod.ext rfl (by rw [hslot]; rfl)),
      (IndexStack.push_eq_some hpush).1, rfl, ?_, fun j hj => ?_⟩
    · rw [registryGet_modifySlot_self, registryGet_withStack, hslot]
      rfl
    · rw [registryGet_modifySlot_ne _ hr.1 hj, registryGet_withStack]

/-- An index outside the array is ignored by `registry_remove`. -/
theorem registryRemove_out_of_range (h : ¬ reg.InRange i) : registryRemove reg i = some (reg, []) :=
  dif_pos h

/-! ## The registry of a caller that removes live slots only -/

/-- The slot at `i` is in use. -/
def RequestRegistry.Live (reg : RequestRegistry) (i : ℤ) : Prop :=
  ∃ slot, registryGet reg i = some slot ∧ slot.future.isSome

instance (reg : RequestRegistry) (i : ℤ) : Decidable (reg.Live i) :=
  inferInstanceAs (Decidable (∃ slot ∈ registryGet reg i, slot.future.isSome))

/-- The stack holds exactly the indices of the slots that are not in use, each once. -/
structure RequestRegistry.Consistent (reg : RequestRegistry) : Prop where
  /-- No index is on the stack twice. -/
  nodup : reg.available_indices.entries.Nodup
  /-- The indices on the stack are those of the slots that are not in use. -/
  mem_iff : ∀ i, i ∈ reg.available_indices.entries ↔ reg.InRange i ∧ ¬ reg.Live i

/-- A slot in use is one of the array. -/
theorem RequestRegistry.Live.inRange (h : reg.Live i) : reg.InRange i := by
  obtain ⟨slot, hslot, -⟩ := h
  exact registryGet_isSome.mp (by rw [hslot]; rfl)

/-- A slot that reads the same is in use or not as it was. -/
theorem RequestRegistry.live_congr (h : registryGet reg' i = registryGet reg i) :
    reg'.Live i ↔ reg.Live i := by
  unfold Live
  rw [h]

/-- The fill of an index makes its slot live. -/
theorem RequestRegistry.live_of_slot (h : registryGet reg i = some (req.slot i)) : reg.Live i :=
  ⟨_, h, rfl⟩

/-- The slots of a new registry are cleared memory. -/
theorem registryGet_new {n : ℕ} {hn : n < 2^31} {slot : RequestSlot}
    (hget : registryGet (registryNew n hn) i = some slot) : slot = .zero := by
  have hzero : slot ∈ (registryNew n hn).slots := by
    unfold registryGet at hget
    split at hget
    · cases hget
    · exact List.mem_of_getElem? hget
  exact List.eq_of_mem_replicate hzero

/-- No slot of a new registry is in use. -/
theorem registryNew_not_live (n : ℕ) (hn : n < 2^31) : ¬ (registryNew n hn).Live i := by
  rintro ⟨slot, hget, hsome⟩
  rw [registryGet_new hget] at hsome
  cases hsome

/-- The stack of a new registry holds every index. -/
theorem registryNew_consistent (n : ℕ) (hn : n < 2^31) : (registryNew n hn).Consistent := by
  have hp : Partition (registryNew n hn).size (registryNew n hn).available_indices.entries [] :=
    Partition.range _
  refine ⟨by simpa using hp.nodup, fun i => ?_⟩
  rw [inRange_iff, hp.mem_free_iff]
  simp [registryNew_not_live]

/-- `registry_add` keeps the stack consistent, and the index that it hands out was not live. -/
theorem registryAdd_consistent (h : reg.Consistent) (hadd : registryAdd reg req = (i, reg', es))
    (hi : i ≠ -1) : reg'.Consistent ∧ ¬ reg.Live i ∧ reg.InRange i := by
  rcases registryAdd_cases reg req with ⟨-, hnone⟩ | ⟨k, reg₁, hsome, hr, he, hsize, hk, hother⟩
  · rw [hnone] at hadd
    cases hadd
    exact absurd rfl hi
  · rw [hsome] at hadd
    cases hadd
    have hnd := h.nodup
    rw [he, List.nodup_append] at hnd
    obtain ⟨hnd₁, -, hdis⟩ := hnd
    have hfree : ¬ reg.Live i := ((h.mem_iff i).mp (by simp [he])).2
    refine ⟨⟨hnd₁, fun j => ?_⟩, hfree, hr⟩
    rw [inRange_congr hsize]
    by_cases hj : j = i
    · subst hj
      have : j ∉ reg'.available_indices.entries := fun hm => hdis j hm j (by simp) rfl
      simp [this, live_of_slot hk]
    · rw [live_congr (hother j hj), ← h.mem_iff j, he]
      simp [hj]

/-- `registry_remove` of a live slot does not abort, keeps the stack consistent, gives up what
the slot holds, and leaves the other slots. -/
theorem registryRemove_live (h : reg.Consistent) (hlive : reg.Live i) :
    ∃ reg' slot, registryGet reg i = some slot ∧
      registryRemove reg i = some (reg', slot.releases) ∧ reg'.Consistent ∧
      reg'.available_indices.entries = reg.available_indices.entries ++ [i] ∧
      reg'.size = reg.size ∧ registryGet reg' i = some slot.clear ∧
      ∀ j, j ≠ i → registryGet reg' j = registryGet reg j := by
  have hr := hlive.inRange
  have hni : i ∉ reg.available_indices.entries := fun hm => ((h.mem_iff i).mp hm).2 hlive
  rcases registryRemove_cases hr with ⟨hfull, -⟩ | ⟨reg₁, slot, hs, hrem, he, hsize, hi, hother⟩
  · -- A stack of `size` distinct indices of the array holds every one of them.
    exfalso
    have hsub : reg.available_indices.entries ⊆ ((List.range reg.size).map Int.ofNat).erase i := by
      intro j hj
      have hrj := inRange_iff.mp ((h.mem_iff j).mp hj).1
      refine (List.mem_erase_of_ne (fun hji : j = i => hni (hji ▸ hj))).mpr ?_
      exact List.mem_map.mpr ⟨j.toNat, List.mem_range.mpr (by omega), by simp; omega⟩
    have hle := (List.subperm_of_subset h.nodup hsub).length_le
    have hir := inRange_iff.mp hr
    have hmem : i ∈ (List.range reg.size).map Int.ofNat :=
      List.mem_map.mpr ⟨i.toNat, List.mem_range.mpr (by omega), by simp; omega⟩
    rw [List.length_erase_of_mem hmem] at hle
    simp only [List.length_map, List.length_range] at hle
    omega
  · refine ⟨reg₁, slot, hs, hrem, ⟨?_, fun j => ?_⟩, he, hsize, hi, hother⟩
    · rw [he, List.nodup_append]
      refine ⟨h.nodup, by simp, fun a ha b hb hab => hni ?_⟩
      rwa [← List.mem_singleton.mp hb, ← hab]
    · rw [inRange_congr hsize, he, List.mem_append, List.mem_singleton]
      by_cases hj : j = i
      · subst hj
        have : ¬ reg₁.Live j := by
          rintro ⟨s, hs', hf⟩
          rw [hi] at hs'
          cases hs'
          cases hf
        simp [this, hr]
      · rw [live_congr (hother j hj), ← h.mem_iff j]
        simp [hj]

/-! ## Histories of calls -/

namespace RequestRegistry

/-- A registry and the requests that were added and not yet removed, with their indices. -/
structure History where
  /-- The registry. -/
  reg : RequestRegistry
  /-- The requests in progress, with their indices. -/
  live : List (ℤ × Request)

/-- A call of a history. -/
inductive Call
  | add (req : Request)
  | remove (index : ℤ)

namespace History

/-- The indices of the live requests. -/
def indices (s : History) : List ℤ := s.live.map Prod.fst

/-- The history of no calls on `registry_new(n)`. -/
def start (n : ℕ) (h : n < 2^31) : History := ⟨registryNew n h, []⟩

/-- One call; `none` when it aborts. -/
def step (s : History) : Call → Option History
  | .add req =>
    let (index, reg, _) := registryAdd s.reg req
    some ⟨reg, if index = -1 then s.live else (index, req) :: s.live⟩
  | .remove index =>
    (registryRemove s.reg index).map fun r => ⟨r.1, s.live.filter fun e => e.1 ≠ index⟩

/-- What the callers guarantee: an index is removed while it is live, or it is not one of the
array. -/
def callersOk (s : History) : Call → Prop
  | .add _ => True
  | .remove index => index ∈ s.indices ∨ ¬ s.reg.InRange index

instance (s : History) : (call : Call) → Decidable (callersOk s call)
  | .add _ => inferInstanceAs (Decidable True)
  | .remove _ => inferInstanceAs (Decidable (_ ∨ ¬ _))

/-- What holds of a registry of `n` slots after any sequence of calls. -/
structure Correct (n : ℕ) (s : History) : Prop where
  /-- The entries of the stack are distinct. -/
  distinct : s.reg.available_indices.entries.Nodup
  /-- They are exactly the indices that are not live. -/
  free_iff : ∀ i, i ∈ s.reg.available_indices.entries ↔ (0 ≤ i ∧ i < n) ∧ i ∉ s.indices
  /-- No two live requests share an index. -/
  live_distinct : s.indices.Nodup
  /-- `registry_add` fails exactly when `n` requests are live. -/
  add_full : ∀ req, (registryAdd s.reg req).1 = -1 ↔ s.live.length = n
  /-- A failed `registry_add` changes nothing and takes no reference. -/
  add_rejected : ∀ req, (registryAdd s.reg req).1 = -1 → registryAdd s.reg req = (-1, s.reg, [])
  /-- A successful one returns an index that is not live. -/
  add_fresh : ∀ req, (registryAdd s.reg req).1 ≠ -1 →
    (0 ≤ (registryAdd s.reg req).1 ∧ (registryAdd s.reg req).1 < n) ∧
      (registryAdd s.reg req).1 ∉ s.indices
  /-- A live slot holds what its own `registry_add` put there. -/
  get_live : ∀ i req, (i, req) ∈ s.live → registryGet s.reg i = some (req.slot i)
  /-- A call on another index does not change it. -/
  get_frame : ∀ i call s', i ∈ s.indices → step s call = some s' → call ≠ .remove i →
    registryGet s'.reg i = registryGet s.reg i
  /-- `registry_remove` never aborts. -/
  remove_total : ∀ i, callersOk s (.remove i) → (registryRemove s.reg i).isSome

/-- The invariant: free and live indices partition the array, live slots are filled. -/
structure Inv (n : ℕ) (s : History) : Prop where
  /-- The size is that of the creation. -/
  size_eq : s.reg.size = n
  /-- Each index is free or that of a request in progress. -/
  partition : Partition n s.reg.available_indices.entries s.indices
  /-- The slot of a request in progress is filled with it. -/
  filled : ∀ i req, (i, req) ∈ s.live → registryGet s.reg i = some (req.slot i)

variable {n : ℕ} {s s' : History}

/-- The invariant holds at the start. -/
theorem Inv.start (hpos : 1 ≤ n) (hn : n < 2^31) : Inv n (start n hn) := by
  have hsize : (registryNew n hn).size = n := if_neg (by omega)
  have hfree : (registryNew n hn).available_indices = IndexStack.range n :=
    congrArg IndexStack.range hsize
  refine ⟨hsize, ?_, fun _ _ h => by cases h⟩
  rw [History.start, hfree]
  exact Partition.range n

/-- A live index is one of the array. -/
theorem Inv.inRange (h : Inv n s) (hi : i ∈ s.indices) : s.reg.InRange i := by
  rw [inRange_iff, h.size_eq]
  exact h.partition.mem_iff.mp (.inr hi)

/-- The entries left by the removal of a live index. -/
theorem indices_filter (s : History) (hnd : s.indices.Nodup) :
    (s.live.filter fun e => e.1 ≠ i).map Prod.fst = s.indices.erase i := by
  rw [hnd.erase_eq_filter, indices, List.filter_map]
  congr 1
  exact List.filter_congr fun e _ => by by_cases he : e.1 = i <;> simp [he]

/-- An addition keeps the invariant. -/
theorem Inv.add (h : Inv n s) (hstep : step s (.add req) = some s') : Inv n s' := by
  simp only [step, Option.some.injEq] at hstep
  subst hstep
  rcases registryAdd_cases s.reg req with ⟨-, hnone⟩ | ⟨k, reg₁, hsome, hr, he, hsize, hk, hother⟩
  · simpa [hnone] using h
  · have hne : k ≠ -1 := by have := hr.1; omega
    have hp := h.partition
    rw [he] at hp
    rw [hsome]
    simp only [if_neg hne]
    refine ⟨hsize.trans h.size_eq, hp.acquire, fun j r hj => ?_⟩
    rcases List.mem_cons.mp hj with heq | hmem
    · cases heq
      exact hk
    · have hlive : j ∈ s.indices := List.mem_map_of_mem hmem
      have hjk : j ≠ k := fun hjk => hp.not_held (by simp [hjk]) hlive
      rw [hother j hjk]
      exact h.filled j r hmem

/-- A removal that the callers may make keeps the invariant. -/
theorem Inv.remove (h : Inv n s) (hok : callersOk s (.remove i))
    (hstep : step s (.remove i) = some s') : Inv n s' := by
  have hnd : s.indices.Nodup := (List.nodup_append.mp h.partition.nodup).2.1
  simp only [step, Option.map_eq_some_iff] at hstep
  obtain ⟨r, hrem, rfl⟩ := hstep
  by_cases hr : s.reg.InRange i
  · have hi : i ∈ s.indices := hok.resolve_right (not_not.mpr hr)
    rcases registryRemove_cases hr with ⟨-, hnone⟩ | ⟨reg₁, slot, -, hsome, he, hsize, -, hother⟩
    · rw [hnone] at hrem
      cases hrem
    · rw [hsome] at hrem
      cases hrem
      refine ⟨hsize.trans h.size_eq, ?_, fun j r hj => ?_⟩
      · rw [he, indices, indices_filter s hnd]
        exact h.partition.release hi
      · obtain ⟨hmem, hne⟩ := List.mem_filter.mp hj
        rw [hother j (by simpa using hne)]
        exact h.filled j r hmem
  · rw [registryRemove_out_of_range hr] at hrem
    cases hrem
    have hall : s.live.filter (fun e => e.1 ≠ i) = s.live :=
      List.filter_eq_self.mpr fun e he => by
        have := h.inRange (List.mem_map_of_mem he)
        simp only [ne_eq, decide_not, Bool.not_eq_eq_eq_not, Bool.not_true, decide_eq_false_iff_not]
        rintro rfl
        exact hr this
    rw [hall]
    exact h

/-- Every history of calls that the callers may make keeps the invariant. -/
theorem Inv.run (h : Inv n s) (hrun : Transition.Run step callersOk s s') : Inv n s' := by
  refine hrun.invariant h fun t call u ht hok hstep => ?_
  cases call with
  | add req => exact ht.add hstep
  | remove i => exact ht.remove hok hstep

/-- A failed addition is one on an empty stack. -/
theorem registryAdd_eq_neg_one : (registryAdd reg req).1 = -1 ↔
    reg.available_indices.entries = [] := by
  rcases registryAdd_cases reg req with ⟨he, hnone⟩ | ⟨k, reg₁, hsome, hr, he, -⟩
  · simp [he, hnone]
  · have := hr.1
    simp only [hsome, he]
    constructor
    · omega
    · simp

/-- The invariant gives all that the registry promises. -/
theorem Inv.correct (h : Inv n s) : Correct n s := by
  have hlen := h.partition.length_add
  refine ⟨(List.nodup_append.mp h.partition.nodup).1, fun i => h.partition.mem_free_iff,
    (List.nodup_append.mp h.partition.nodup).2.1, fun req => ?_, fun req hfail => ?_,
    fun req hok => ?_, h.filled, fun i call s' hi hstep hne => ?_, fun i hok => ?_⟩
  · rw [registryAdd_eq_neg_one, ← List.length_eq_zero_iff]
    simp only [indices, List.length_map] at hlen
    omega
  · rcases registryAdd_cases s.reg req with ⟨-, hnone⟩ | ⟨k, reg₁, hsome, hr, -⟩
    · exact hnone
    · rw [hsome] at hfail
      have := hr.1
      omega
  · rcases registryAdd_cases s.reg req with ⟨-, hnone⟩ | ⟨k, reg₁, hsome, -, he, -⟩
    · exact absurd (by rw [hnone]) hok
    · rw [hsome]
      exact h.partition.mem_free_iff.mp (by simp [he])
  · cases call with
    | add req =>
      simp only [step, Option.some.injEq] at hstep
      subst hstep
      rcases registryAdd_cases s.reg req with ⟨-, hnone⟩ | ⟨k, reg₁, hsome, -, he, -, -, hother⟩
      · rw [hnone]
      · rw [hsome]
        refine hother i ?_
        rintro rfl
        exact h.partition.not_held (by simp [he]) hi
    | remove k =>
      simp only [step, Option.map_eq_some_iff] at hstep
      obtain ⟨r, hrem, rfl⟩ := hstep
      have hik : i ≠ k := fun hik => hne (by rw [hik])
      by_cases hr : s.reg.InRange k
      · rcases registryRemove_cases hr with ⟨-, hnone⟩ | ⟨reg₁, slot, -, hsome, -, -, -, hother⟩
        · rw [hnone] at hrem
          cases hrem
        · rw [hsome] at hrem
          cases hrem
          exact hother i hik
      · rw [registryRemove_out_of_range hr] at hrem
        cases hrem
        rfl
  · by_cases hr : s.reg.InRange i
    · rcases registryRemove_cases hr with ⟨hfull, -⟩ | ⟨reg₁, slot, -, hsome, -⟩
      · -- A full stack leaves no index live.
        have hi : i ∈ s.indices := hok.resolve_right (not_not.mpr hr)
        have := List.length_pos_of_mem hi
        have := h.size_eq
        omega
      · rw [hsome]
        rfl
    · rw [registryRemove_out_of_range hr]
      rfl

/-- **Registry partition.** After any sequence of calls that the callers may make on a registry of
`n` slots, the free and the live indices partition the array, each live slot holds what its own
call of `registry_add` put there, and no permitted call aborts. -/
theorem registry_correct (hpos : 1 ≤ n) (hn : n < 2^31)
    (hrun : Transition.Run step callersOk (start n hn) s) : Correct n s :=
  ((Inv.start hpos hn).run hrun).correct

/-- A history on two slots: the third addition is refused, a removal out of range is ignored, and
index `0` is used again. -/
def reuse : Option History :=
  let req (f : FutureRef) : Request := ⟨f, none, .ONESHOT, .fsync, some 7, none, none, none⟩
  Transition.exec step callersOk (start 2 (by decide))
    [.add (req 1), .add (req 2), .add (req 3), .remove 0, .remove 5, .add (req 4)]

/-- A history that reuses an index is correct. -/
theorem registry_correct_reuse :
    Correct 2 (reuse.get (by decide)) ∧ (reuse.get (by decide)).indices = [0, 1] :=
  ⟨registry_correct (by decide) (by decide) (Transition.Run.of_exec_get (by decide)), by decide⟩

end History

end RequestRegistry

end Uringio
