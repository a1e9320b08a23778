import Uringio.Lib.Tally
import Uringio.Loop.Rejection
import Uringio.Loop.Shutdown

/-!
# The references that the registry holds

A slot in use holds a reference to its future, and to its file or its socket; a slot that is not in
use holds none. The counts that the program keeps with `Py_INCREF` and `Py_DECREF` say how often the
slots point to an object (`Balanced`). `registry_add` and `registry_remove` change both sides alike,
whatever the index; the dispatchers and the cases of the reader change neither (`SameReferences`);
and `registry_destroy` gives up what the slots hold, which leaves no reference at all
(`destroySlots_refs`).
-/

namespace Uringio

open Tally

/-- The objects that a slot holds references to. -/
def RequestSlot.pointers (slot : RequestSlot) : List ObjRef :=
  (slot.future.map .future).toList ++ (slot.socket.map .socket).toList ++
    (slot.file.map .file).toList

/-- How often the slots point to an object. -/
def RequestRegistry.references (reg : RequestRegistry) (o : ObjRef) : ℕ :=
  tally RequestSlot.pointers reg.slots o

/-- A slot that is not in use points to nothing. -/
def RequestRegistry.Unused (reg : RequestRegistry) : Prop :=
  ∀ (i : ℕ) slot, reg.slots[i]? = some slot → slot.future = none → slot.pointers = []

namespace Loop

variable {L L' L₁ M : Loop} {slot : RequestSlot} {index : ℤ} {o : ObjRef} {req : Request}
  {env : ReadEnv} {cqe : Cqe} {a : Attempt} {c : Called} {r : Read}

/-- The counts say how often the slots point to an object. -/
structure Balanced (L : Loop) : Prop where
  /-- A slot that is not in use points to nothing. -/
  unused : L.registry.Unused
  /-- Each count is the number of slots that point to the object. -/
  refs : ∀ o, L.refs o = L.registry.references o

/-- Neither the counts nor what the slots point to has changed. -/
structure SameReferences (L L' : Loop) : Prop where
  /-- The counts are as they were. -/
  refs : L'.refs = L.refs
  /-- The references are the same. -/
  references : L'.registry.references = L.registry.references
  /-- A slot that is not in use points to nothing, as before. -/
  unused : L.registry.Unused → L'.registry.Unused

/-- A loop has its own references. -/
theorem SameReferences.refl (L : Loop) : SameReferences L L := ⟨rfl, rfl, id⟩

/-- References that are the same twice are the same. -/
theorem SameReferences.trans (h₁ : SameReferences L L₁) (h₂ : SameReferences L₁ L') :
    SameReferences L L' :=
  ⟨h₂.refs.trans h₁.refs, h₂.references.trans h₁.references, h₂.unused ∘ h₁.unused⟩

/-- Where the counts and the registry are the same, the references are. -/
theorem SameCounts.sameReferences (h : SameCounts L L') : SameReferences L L' :=
  ⟨h.refs, by rw [h.registry], by rw [h.registry]; exact id⟩

/-- Balance depends on the references alone. -/
theorem Balanced.same (h : L.Balanced) (hsame : SameReferences L L') : L'.Balanced where
  unused := hsame.unused h.unused
  refs o := by rw [hsame.refs, hsame.references, h.refs]

/-! ## What a slot takes and gives up -/

/-- `registry_add` takes a reference for each pointer of the slot that it fills. -/
theorem countChange_acquires (slot : RequestSlot) (req : Request) (index : ℤ) (o : ObjRef) :
    ((RequestSlot.acquires req).map (countChange o)).sum =
      ((slot.fill index req).pointers.count o : ℤ) := by
  obtain ⟨future, payload, stream, opcode, file, socket, addr, msghdr⟩ := req
  cases file <;> cases socket <;>
    simp [RequestSlot.acquires, RequestSlot.pointers, RequestSlot.fill, countChange,
      List.count_cons] <;>
    split_ifs <;> rfl

/-- `registry_remove` gives up the reference of each pointer of the slot. -/
theorem countChange_pointers (slot : RequestSlot) (o : ObjRef) :
    (slot.releases.map (countChange o)).sum = -(slot.pointers.count o : ℤ) := by
  obtain ⟨user_data, future, stream, payload, opcode, file, socket, addr, msghdr⟩ := slot
  cases future <;> cases payload <;> cases file <;> cases socket <;> cases msghdr <;>
    simp [RequestSlot.releases, RequestSlot.pointers, countChange, List.count_cons] <;>
    split_ifs <;> rfl

/-- A cleared slot refers to nothing. -/
@[simp] theorem pointers_clear (slot : RequestSlot) : slot.clear.pointers = [] := rfl

/-! ## Changes of the registry -/

/-- A slot of the array after one of them was changed. -/
theorem getElem?_modifySlot (reg : RequestRegistry) (index : ℤ) (f : RequestSlot → RequestSlot)
    (i : ℕ) :
    (reg.modifySlot index f).slots[i]? =
      if index.toNat = i then (reg.slots[i]?).map f else reg.slots[i]? := by
  change (reg.slots.modify index.toNat f)[i]? = _
  rw [List.getElem?_modify]
  split <;> simp_all

/-- A change of a slot that leaves its pointers and its future. -/
theorem sameReferences_modifySlot {f : RequestSlot → RequestSlot}
    (hf : ∀ s, (f s).pointers = s.pointers ∧ (f s).future = s.future) :
    SameReferences L (L.modifySlot index f) where
  refs := rfl
  references := tally_modify_of_eq fun s => (hf s).1
  unused hunused i s hget hfut := by
    change (L.registry.modifySlot index f).slots[i]? = some s at hget
    rw [getElem?_modifySlot] at hget
    split at hget
    · obtain ⟨s₀, hs₀, rfl⟩ := Option.map_eq_some_iff.mp hget
      rw [(hf s₀).1]
      exact hunused i s₀ hs₀ ((hf s₀).2 ▸ hfut)
    · exact hunused i s hget hfut

/-- A slot is replaced, and the counts change by what the new one points to less what the old one
pointed to. -/
theorem Balanced.replace (h : L.Balanced) {i : ℕ} {f : RequestSlot → RequestSlot}
    (hget : L.registry.slots[i]? = some slot)
    (hslots : L'.registry.slots = L.registry.slots.modify i f)
    (hf : (f slot).future = none → (f slot).pointers = [])
    (hrefs : ∀ o, L'.refs o = L.refs o + ((f slot).pointers.count o - slot.pointers.count o)) :
    L'.Balanced where
  unused j s hs hfut := by
    rw [hslots, List.getElem?_modify] at hs
    by_cases hij : i = j
    · subst hij
      rw [hget] at hs
      simp only [if_true, Option.map_eq_map, Option.map_some, Option.some.injEq] at hs
      subst hs
      exact hf hfut
    · refine h.unused j s ?_ hfut
      simpa [hij] using hs
  refs o := by
    have htally := tally_modify (p := RequestSlot.pointers) (x := o) (f := f) hget
    rw [hrefs, h.refs, RequestRegistry.references, RequestRegistry.references, hslots]
    omega

/-- `registry_add` writes one slot of the array. -/
theorem slots_registryAdd {reg reg' : RequestRegistry} {es : List Effect}
    (h : registryAdd reg req = (index, reg', es)) (hi : 0 ≤ index) :
    reg'.slots = reg.slots.modify index.toNat (·.fill index req) ∧
      es = RequestSlot.acquires req ∧
      reg.available_indices.entries = reg'.available_indices.entries ++ [index] := by
  unfold registryAdd at h
  split at h
  · cases h
    exact absurd hi (by decide)
  · next hpop =>
    cases h
    exact ⟨rfl, rfl, (IndexStack.pop_eq_some hpop).1⟩

/-- `registry_remove` clears one slot of the array. -/
theorem slots_registryRemove {reg reg' : RequestRegistry} {es : List Effect}
    (h : Uringio.registryRemove reg index = some (reg', es)) (hr : reg.InRange index) :
    reg'.slots = reg.slots.modify index.toNat .clear ∧
      es = ((registryGet reg index).map (·.releases)).getD [] := by
  unfold Uringio.registryRemove at h
  rw [dif_neg (not_not.mpr hr)] at h
  split at h
  · cases h
  · cases h
    exact ⟨rfl, rfl⟩

/-- The slot that `registry_get` returns is the one of the array. -/
theorem getElem?_of_registryGet {reg : RequestRegistry} (h : registryGet reg index = some slot) :
    reg.slots[index.toNat]? = some slot := by
  unfold registryGet at h
  split at h
  · cases h
  · exact h

/-- **A request is added**: the slot that it gets was not in use, and pointed to nothing. -/
theorem Balanced.add (h : L.Balanced) (hcons : L.registry.Consistent)
    {reg : RequestRegistry} {es : List Effect}
    (hadd : registryAdd L.registry req = (index, reg, es))
    (hi : 0 ≤ index) : ({ L with registry := reg }.applyEffects es).Balanced := by
  obtain ⟨hslots, rfl, hstack⟩ := slots_registryAdd hadd hi
  have hmem : index ∈ L.registry.available_indices.entries := by rw [hstack]; simp
  obtain ⟨hr, hlive⟩ := (hcons.mem_iff index).mp hmem
  obtain ⟨slot, hget⟩ := Option.isSome_iff_exists.mp (RequestRegistry.registryGet_isSome.mpr hr)
  have hold := getElem?_of_registryGet hget
  have hfut : slot.future = none := by
    by_contra hne
    exact hlive ⟨slot, hget, Option.ne_none_iff_isSome.mp hne⟩
  have hnone : slot.pointers = [] := h.unused _ slot hold hfut
  refine h.replace (f := (·.fill index req)) hold ?_ (fun hfill => by cases hfill) fun o => ?_
  · rw [(applyEffects_sameBut _ _).registry]
    exact hslots
  · rw [applyEffects_refs, countChange_acquires slot req index o, hnone, List.count_nil,
      Nat.cast_zero, sub_zero]

/-- **A request is removed**, in a slot that is in use or not; an index that is not one of the array
is ignored. -/
theorem Balanced.remove (h : L.Balanced) (hrem : L.registryRemove index = .ok L') :
    L'.Balanced := by
  unfold Loop.registryRemove at hrem
  by_cases hr : L.registry.InRange index
  · split at hrem
    · cases hrem
    · next reg es hremove =>
      cases hrem
      obtain ⟨hslots, rfl⟩ := slots_registryRemove hremove hr
      obtain ⟨slot, hget⟩ := Option.isSome_iff_exists.mp (RequestRegistry.registryGet_isSome.mpr hr)
      refine h.replace (getElem?_of_registryGet hget) (f := .clear) ?_ (fun _ => rfl) fun o => ?_
      · rw [(applyEffects_sameBut _ _).registry]
        exact hslots
      · rw [applyEffects_refs, hget, Option.map_some, Option.getD_some, countChange_pointers,
          pointers_clear, List.count_nil, Nat.cast_zero, zero_sub]
  · rw [registryRemove_out_of_range hr] at hrem
    cases hrem
    exact h

/-! ## A call -/

/-- **An attempt keeps the balance**, whether it is accepted or not. -/
theorem Balanced.attempt (h : L.Balanced) (hcons : L.registry.Consistent) (ha : CountSpec a)
    (hcall : L.attempt a = .ok c) : c.loop.Balanced := by
  have hcreated : L.createFuture.Balanced := h.same ⟨rfl, rfl, id⟩
  unfold Loop.attempt at hcall
  obtain ⟨idx, reg, es, hadd⟩ : ∃ idx reg es, registryAdd L.registry a.request = (idx, reg, es) :=
    ⟨_, _, _, rfl⟩
  rw [hadd] at hcall
  simp only at hcall
  split at hcall
  · -- The registry is full.
    cases hcall
    exact hcreated.same (ha.full _).sameReferences
  · next hidx =>
    obtain ⟨d, hd, hcall⟩ := bind_eq_ok.mp hcall
    -- What the dispatcher leaves still has the request.
    have hadded := hcreated.add hcons hadd (by omega)
    have hdispatched : d.loop.Balanced :=
      (hadded.same (ha.before _).sameReferences).same (ha.dispatch _ _ d hd).sameReferences
    split at hcall
    · obtain ⟨M, hrem, hcall⟩ := bind_eq_ok.mp hcall
      cases hcall
      exact (hdispatched.remove hrem).same (ha.failed M).sameReferences
    · cases hcall
      exact hdispatched

/-- **Every call keeps the balance.** -/
theorem Balanced.call (h : L.Balanced) (hcons : L.registry.Consistent) {ctx : ExecutionContext}
    {op : Op} {cenv : CallEnv} (hcall : L.call ctx op cenv = .ok c) : c.loop.Balanced := by
  obtain ⟨closed, L₁, a, heq, hcounts, ha⟩ := call_counts L ctx op cenv
  rw [heq, unlessClosed] at hcall
  split at hcall
  · cases hcall
    exact h
  · exact (h.same hcounts.sameReferences).attempt (hcounts.registry ▸ hcons) ha hcall

/-! ## A completion -/

/-- Freeing a payload leaves the references. -/
theorem sameReferences_freeBufferPayload (p : Option PayloadRef) (force : Bool) :
    SameReferences L (L.freeBufferPayload p force) :=
  (sameCounts_freeBufferPayload L p force).sameReferences

/-- Freeing an address leaves the references. -/
theorem sameReferences_freeSockaddr (addr : Option SockaddrRef) :
    SameReferences L (L.freeSockaddr addr) := by
  obtain ⟨released, heq, -⟩ := freeSockaddr_eq L addr
  rw [heq]
  exact ⟨rfl, rfl, id⟩

/-- Dropping a payload leaves the references. -/
theorem sameReferences_dropPayload {p : PayloadRef} {force : Bool} :
    SameReferences L (L.dropPayload index p force) :=
  (sameReferences_freeBufferPayload (some p) force).trans
    (sameReferences_modifySlot fun _ => ⟨rfl, rfl⟩)

/-- Giving back a fixed index leaves the references. -/
theorem sameReferences_releaseFixed {p : PayloadRef} (h : L.releaseFixed p = .ok L') :
    SameReferences L L' := by
  unfold releaseFixed at h
  split at h
  · split at h
    · cases h
    · cases h
      exact ⟨rfl, rfl, id⟩
  · cases h
    exact ⟨rfl, rfl, id⟩

variable {disp : Disposition} {k : FutureRef}

/-- Finishing a payload leaves the references. -/
theorem finishPayload_references {p : PayloadRef} {force : Bool} {result : Option Outcome}
    (h : L.finishPayload index p force result = .ok disp) : SameReferences L disp.loop := by
  obtain ⟨L₁, hrel, h⟩ := bind_eq_ok.mp h
  cases h
  exact (sameReferences_releaseFixed hrel).trans sameReferences_dropPayload

/-- A completed `recvmsg` leaves the references. -/
theorem completeRecvmsg_references (h : L.completeRecvmsg index slot env cqe = .ok disp) :
    SameReferences L disp.loop := by
  obtain ⟨⟨p, payload⟩, -, h⟩ := bind_eq_ok.mp h
  obtain ⟨L₁, hrel, h⟩ := bind_eq_ok.mp h
  have hsame := sameReferences_releaseFixed hrel
  simp only at h
  split at h
  · obtain ⟨linear, -, h⟩ := bind_eq_ok.mp h
    simp only at h
    split at h
    · cases h
      exact hsame.trans ⟨rfl, rfl, id⟩
    · split at h
      · cases h
      · cases h
        exact hsame.trans ⟨rfl, rfl, id⟩
  · split at h
    · obtain ⟨linear, -, h⟩ := bind_eq_ok.mp h
      cases h
      have haddr : SameReferences (L₁.freeSockaddr slot.addr)
          ((L₁.freeSockaddr slot.addr).modifySlot index fun s => { s with addr := none }) :=
        sameReferences_modifySlot fun _ => ⟨rfl, rfl⟩
      exact ((hsame.trans (sameReferences_freeSockaddr slot.addr)).trans haddr).trans
        sameReferences_dropPayload
    · obtain ⟨vec, -, h⟩ := bind_eq_ok.mp h
      cases h
      exact hsame.trans sameReferences_dropPayload

/-- **The switch of the reader takes and gives up no reference.** -/
theorem complete_references (h : L.complete index slot k env cqe = .ok disp) :
    SameReferences L disp.loop := by
  unfold complete at h
  cases hop : slot.opcode with
  | read =>
    simp only [hop, completeRead] at h
    obtain ⟨⟨p, payload⟩, -, h⟩ := bind_eq_ok.mp h
    obtain ⟨linear, -, h⟩ := bind_eq_ok.mp h
    exact finishPayload_references h
  | readv =>
    simp only [hop, completeReadv] at h
    obtain ⟨⟨p, payload⟩, -, h⟩ := bind_eq_ok.mp h
    obtain ⟨vec, -, h⟩ := bind_eq_ok.mp h
    cases h
    exact sameReferences_dropPayload
  | write =>
    simp only [hop, completeWrite] at h
    obtain ⟨⟨p, payload⟩, -, h⟩ := bind_eq_ok.mp h
    exact finishPayload_references h
  | writev =>
    simp only [hop, completeWritev] at h
    split at h <;> cases h
    · exact .refl L
    · exact sameReferences_dropPayload
  | send | sendmsg =>
    simp only [hop, completeSend] at h
    split at h
    · cases h
      exact .refl L
    · obtain ⟨⟨p, payload⟩, -, h⟩ := bind_eq_ok.mp h
      exact finishPayload_references h
  | recv =>
    simp only [hop, completeRecv] at h
    split at h
    · cases h
      exact .refl L
    · obtain ⟨⟨p, payload⟩, -, h⟩ := bind_eq_ok.mp h
      simp only at h
      split at h
      · exact finishPayload_references h
      · split at h
        · obtain ⟨linear, -, h⟩ := bind_eq_ok.mp h
          exact finishPayload_references h
        · exact finishPayload_references h
  | recvmsg =>
    simp only [hop] at h
    exact completeRecvmsg_references h
  | accept =>
    simp only [hop, completeAccept] at h
    split at h
    · cases h
      exact .refl L
    · split at h <;> cases h
      · have herr : SameReferences L { L with err := false } := ⟨rfl, rfl, id⟩
        exact herr.trans (sameReferences_freeSockaddr slot.addr)
      · -- The socket of the new connection is no request's pointer.
        refine SameReferences.trans ?_ (sameReferences_modifySlot fun _ => ⟨rfl, rfl⟩)
        exact ⟨rfl, rfl, id⟩
  | openat2 | socket | close =>
    simp only [hop, completeOpenat2, completeSocket, completeClose] at h
    split at h <;> cases h <;> exact ⟨rfl, rfl, id⟩
  | _ =>
    simp only [hop, completeOnSocket] at h
    cases h
    exact .refl L

/-- Resolving a future leaves the references. -/
theorem sameReferences_resolve (future : FutureRef) (outcome : Outcome) :
    SameReferences L (L.resolve future outcome) := by
  unfold resolve
  split <;> exact ⟨rfl, rfl, id⟩

/-- Setting a result leaves the references. -/
theorem sameReferences_setResult (future : FutureRef) (result : Option Outcome) :
    SameReferences L (L.setResult future result) := by
  cases result with
  | none => exact .refl L
  | some outcome => exact sameReferences_resolve future outcome

/-- Setting an exception leaves the references. -/
theorem sameReferences_setException (future : FutureRef) :
    SameReferences L (L.setException future cqe).1 := by
  unfold setException
  split
  · exact ⟨rfl, rfl, id⟩
  · exact sameReferences_resolve future _

/-- **Every completion keeps the balance**: one of a slot that is not in use, an error, a result. -/
theorem Balanced.read (h : L.Balanced) (hread : readCqe L env cqe = .ok r) : r.loop.Balanced := by
  by_cases hlive : L.registry.Live cqe.index
  · obtain ⟨slot, hget, hsome⟩ := hlive
    obtain ⟨future, hfut⟩ := Option.isSome_iff_exists.mp hsome
    rw [readCqe, hget] at hread
    simp only [readSlot, hfut] at hread
    split at hread
    · -- An error, or a cancellation.
      obtain ⟨L₁, hrem, hread⟩ := bind_eq_ok.mp hread
      cases hread
      exact (h.same (sameReferences_setException future)).remove hrem
    · rw [if_neg (user_data_ne_of_live ⟨slot, hget, hsome⟩)] at hread
      obtain ⟨disp, hcomplete, hread⟩ := bind_eq_ok.mp hread
      have hsame := h.same (complete_references hcomplete)
      cases disp with
      | leave M =>
        cases hread
        exact hsame
      | finish M result consumed =>
        obtain ⟨L₁, hrem, hread⟩ := bind_eq_ok.mp hread
        cases hread
        exact (hsame.same (sameReferences_setResult future result)).remove hrem
  · rw [readCqe_of_not_live hlive] at hread
    cases hread
    exact h

/-! ## A shutdown -/

/-- An iteration of the drain keeps the balance, whichever slot the completion names. -/
theorem Balanced.drainCqe {d : Drained} (h : L.Balanced) (hdrain : L.drainCqe d = .ok L') :
    L'.Balanced := by
  rcases drainCqe_cases L d with ⟨-, hskip⟩ | ⟨slot, -, -, hremove⟩
  · rw [hskip] at hdrain
    cases hdrain
    exact h
  · rw [hremove] at hdrain
    refine Balanced.remove (h.same ?_) hdrain
    obtain ⟨futures, err, heq⟩ := closedFuture_eq L d slot
    change SameReferences L (L.closedFuture d slot)
    rw [heq]
    exact ⟨rfl, rfl, id⟩

/-- **The drain keeps the balance.** -/
theorem Balanced.drain {ds : List Drained} (h : L.Balanced) (hdrain : L.drain ds = .ok L') :
    L'.Balanced := by
  induction ds generalizing L with
  | nil =>
    cases hdrain
    exact h
  | cons d ds ih =>
    obtain ⟨L₁, hstep, hrest⟩ := bind_eq_ok.mp hdrain
    exact ih (h.drainCqe hstep) hrest

/-- What is given up for the pointers of a slot, in the order of `registry_destroy`. -/
theorem countChange_destroy (slot : RequestSlot) (o : ObjRef) :
    (((slot.future.map fun f => Effect.decref (.future f)).toList).map (countChange o)).sum +
      (((slot.socket.map fun s => Effect.decref (.socket s)).toList ++
        (slot.file.map fun f => Effect.decref (.file f)).toList).map (countChange o)).sum =
      -(slot.pointers.count o : ℤ) := by
  obtain ⟨user_data, future, stream, payload, opcode, file, socket, addr, msghdr⟩ := slot
  cases future <;> cases file <;> cases socket <;>
    simp [RequestSlot.pointers, countChange, List.count_cons] <;>
    split_ifs <;> rfl

/-- A loop whose slots point to what those of another one do. -/
structure SamePointers (L L' : Loop) : Prop where
  /-- Each slot points to what it pointed to. -/
  slots : L'.registry.slots.map RequestSlot.pointers = L.registry.slots.map RequestSlot.pointers
  /-- The size is the same. -/
  size : L'.registry.size = L.registry.size

/-- A loop has its own pointers. -/
theorem SamePointers.refl (L : Loop) : SamePointers L L := ⟨rfl, rfl⟩

/-- Pointers that are the same twice are the same. -/
theorem SamePointers.trans (h₁ : SamePointers L L₁) (h₂ : SamePointers L₁ L') :
    SamePointers L L' := ⟨h₂.slots.trans h₁.slots, h₂.size.trans h₁.size⟩

/-- Effects leave the pointers. -/
theorem samePointers_applyEffects (L : Loop) (es : List Effect) :
    SamePointers L (L.applyEffects es) := by
  constructor <;> rw [(applyEffects_sameBut L es).registry]

/-- Dropping a payload leaves the pointers. -/
theorem samePointers_dropPayload {p : PayloadRef} {force : Bool} :
    SamePointers L (L.dropPayload index p force) := by
  obtain ⟨released, heq⟩ := freeBufferPayload_eq L (some p) force
  unfold dropPayload
  rw [heq]
  exact ⟨map_modify_of_eq fun _ => rfl, rfl⟩

/-- The payload that is freed in between is none of the objects that are counted. -/
theorem given_up_between (L : Loop) {M : Loop}
    (hM : M = match slot.buffer_payload with
      | none => L.applyEffects (slot.future.map fun f => .decref (.future f)).toList
      | some p => (L.applyEffects (slot.future.map fun f =>
          .decref (.future f)).toList).dropPayload index p true) (o : ObjRef) :
    (M.applyEffects ((slot.socket.map fun s => .decref (.socket s)).toList ++
        (slot.file.map fun f => .decref (.file f)).toList)).refs o =
        L.refs o - slot.pointers.count o ∧
      SamePointers L (M.applyEffects ((slot.socket.map fun s => .decref (.socket s)).toList ++
        (slot.file.map fun f => .decref (.file f)).toList)) := by
  let first := L.applyEffects (slot.future.map fun f => .decref (.future f)).toList
  have hfirst : SamePointers L first := samePointers_applyEffects L _
  have hbetween : M.refs = first.refs ∧ SamePointers first M := by
    subst hM
    split
    · exact ⟨rfl, .refl first⟩
    · exact ⟨sameReferences_dropPayload.refs, samePointers_dropPayload⟩
  refine ⟨?_, (hfirst.trans hbetween.2).trans (samePointers_applyEffects M _)⟩
  have hsum := countChange_destroy slot o
  have hdecref : first.refs o = L.refs o + _ := applyEffects_refs L _ o
  rw [applyEffects_refs, hbetween.1, hdecref]
  omega

/-- **`registry_destroy` gives up what a slot points to**, once, and leaves the pointers. -/
theorem destroySlot_references (L : Loop) (hget : registryGet L.registry index = some slot)
    (o : ObjRef) : (L.destroySlot index).refs o = L.refs o - slot.pointers.count o ∧
      SamePointers L (L.destroySlot index) := by
  unfold destroySlot
  rw [hget]
  exact given_up_between L rfl o

/-- After `n` slots, what the first `n` point to has been given up. -/
theorem destroySlots_references (L : Loop) {n : ℕ} (hn : n ≤ L.registry.size) (o : ObjRef) :
    (L.destroySlots n).refs o =
        L.refs o - tally RequestSlot.pointers (L.registry.slots.take n) o ∧
      SamePointers L (L.destroySlots n) := by
  induction n with
  | zero =>
    have hzero : L.destroySlots 0 = L := by simp [destroySlots]
    rw [hzero]
    exact ⟨by simp, .refl L⟩
  | succ n ih =>
    obtain ⟨hrefs, hsame⟩ := ih (by omega)
    obtain ⟨slot, hget⟩ : ∃ slot, registryGet (L.destroySlots n).registry n = some slot :=
      Option.isSome_iff_exists.mp (RequestRegistry.registryGet_isSome.mpr
        (RequestRegistry.inRange_iff.mpr ⟨by omega, by rw [hsame.size]; omega⟩))
    obtain ⟨hstep, hsame'⟩ := destroySlot_references (L.destroySlots n) hget o
    -- The slot at `n` still points to what it pointed to at the start.
    have hslot := congrArg (·[n]?) hsame.slots
    simp only [List.getElem?_map] at hslot
    rw [show (L.destroySlots n).registry.slots[n]? = some slot from getElem?_of_registryGet hget,
      Option.map_some] at hslot
    obtain ⟨slot₀, hget₀, hpointers⟩ := Option.map_eq_some_iff.mp hslot.symm
    rw [destroySlots_succ]
    refine ⟨?_, hsame.trans hsame'⟩
    rw [hstep, hrefs, tally_take_succ hget₀, hpointers]
    omega

/-- **`registry_destroy` gives up everything**: no reference is left, whatever the slots hold. -/
theorem Balanced.destroyed (h : L.Balanced) (o : ObjRef) : L.registryDestroy.refs o = 0 := by
  obtain ⟨hrefs, -⟩ := destroySlots_references L le_rfl o
  have hall : L.registry.slots.take L.registry.size = L.registry.slots :=
    List.take_of_length_le (by rw [L.registry.slots_length])
  rw [registryDestroy, hrefs, hall, h.refs, RequestRegistry.references]
  omega

end Loop

end Uringio
