import Uringio.Loop.Sound

/-!
# How often an object is released

`registry_remove` releases the payload of the slot, if it is in `NORMAL_BUF` mode, and its message
header: these are `frees`. The cases of the reader release the payload themselves and take it out of
the slot, so that the removal which follows does not release it again: what was released and what
the slot still frees are together the same before and after (`due`). What the reader releases in all
is therefore what the slot freed (`read_released`).
-/

namespace Uringio

namespace Loop

variable {L L' L₁ L₂ L₃ : Loop} {slot : RequestSlot} {index : ℤ} {h : HeapRef} {p : PayloadRef}
  {env : ReadEnv} {cqe : Cqe} {k : ℕ} {r : Read}

/-! ## The effects of the registry -/

/-- What `registry_remove` releases of a slot. -/
def frees (L : Loop) (slot : RequestSlot) : List HeapRef := slot.releases.filterMap L.releasedBy

/-- An effect releases what it frees, once. -/
theorem applyEffect_count (L : Loop) (e : Effect) (h : HeapRef) :
    (L.applyEffect e).released h = L.released h + (L.releasedBy e).toList.count h := by
  by_cases hby : L.releasedBy e = some h
  · cases e with
    | incref | decref => cases hby
    | freeMsghdr m =>
      cases hby
      simp [applyEffect, releasedBy]
    | freePayload p =>
      have hmode : (L.payloads p).mode = .NORMAL_BUF := by
        by_contra hne
        simp [releasedBy, hne] at hby
      rw [releasedBy, if_pos hmode, Option.some.injEq] at hby
      rw [← hby]
      simp [applyEffect, freeBufferPayload, releasedBy, hmode]
  · rw [applyEffect_released L e h hby]
    have hcount : (L.releasedBy e).toList.count h = 0 := by
      refine List.count_eq_zero.mpr fun hmem => hby ?_
      exact Option.mem_toList.mp hmem
    rw [hcount, add_zero]

/-- The effects of a list release what each of them does. -/
theorem applyEffects_count (L : Loop) (es : List Effect) (h : HeapRef) :
    (L.applyEffects es).released h = L.released h + (es.filterMap L.releasedBy).count h := by
  induction es generalizing L with
  | nil => rfl
  | cons e es ih =>
    have hsame := applyEffect_sameBut L e
    have hby : (L.applyEffect e).releasedBy = L.releasedBy := by
      funext e'
      cases e' <;> simp [releasedBy, hsame.payloads]
    have hrest := ih (L.applyEffect e)
    rw [hby, applyEffect_count] at hrest
    change ((L.applyEffect e).applyEffects es).released h = _
    rw [hrest, add_assoc, ← List.count_append]
    cases hone : L.releasedBy e <;> simp [hone]

/-- The payload, if a removal frees it, and the message header. -/
theorem frees_eq (L : Loop) (slot : RequestSlot) :
    L.frees slot = (slot.buffer_payload.toList.filter fun p =>
      (L.payloads p).mode = .NORMAL_BUF).map
      .payload ++ (slot.msghdr.map .msghdr).toList := by
  unfold frees RequestSlot.releases
  cases slot.future <;> cases slot.socket <;> cases slot.file <;> cases slot.msghdr <;>
    cases slot.buffer_payload <;> simp [releasedBy, List.filterMap_cons, List.filter_cons] <;>
    split <;> simp_all

/-- A slot frees its own payload and its own message header. -/
theorem mem_frees : h ∈ L.frees slot ↔
    (∃ p, slot.buffer_payload = some p ∧ (L.payloads p).mode = .NORMAL_BUF ∧ h = .payload p) ∨
      ∃ m, slot.msghdr = some m ∧ h = .msghdr m := by
  rw [frees_eq]
  simp only [List.mem_append, List.mem_map, List.mem_filter, Option.mem_toList,
    Option.map_eq_some_iff,
    decide_eq_true_eq]
  constructor
  · rintro (⟨p, ⟨hp, hmode⟩, rfl⟩ | ⟨m, hm, rfl⟩)
    · exact .inl ⟨p, hp, hmode, rfl⟩
    · exact .inr ⟨m, hm, rfl⟩
  · rintro (⟨p, hp, hmode, rfl⟩ | ⟨m, hm, rfl⟩)
    · exact .inl ⟨p, ⟨hp, hmode⟩, rfl⟩
    · exact .inr ⟨m, hm, rfl⟩

/-- What a removal releases the slot points to. -/
theorem objects_of_mem_frees (hmem : h ∈ L.frees slot) : h ∈ slot.objects := by
  rcases mem_frees.mp hmem with ⟨p, hp, -, rfl⟩ | ⟨m, hm, rfl⟩
  · simp [RequestSlot.objects, hp]
  · simp [RequestSlot.objects, hm]

/-- Nothing is released twice by a removal. -/
theorem count_frees_le (L : Loop) (slot : RequestSlot) (h : HeapRef) :
    (L.frees slot).count h ≤ 1 := by
  refine List.nodup_iff_count_le_one.mp ?_ h
  rw [frees_eq]
  cases slot.buffer_payload <;> cases slot.msghdr <;> simp [List.filter_cons] <;> split <;> simp

/-- What a removal releases depends on the modes of the payloads only. -/
theorem frees_congr (hmode : ∀ p, (L'.payloads p).mode = (L.payloads p).mode)
    {slot' : RequestSlot} (hp : slot'.buffer_payload = slot.buffer_payload)
    (hm : slot'.msghdr = slot.msghdr) : L'.frees slot' = L.frees slot := by
  rw [frees_eq, frees_eq, hp, hm]
  simp only [hmode]

/-! ## The cases of the reader -/

/-- What was released, and what the removal of the slot would release. -/
def due (L : Loop) (index : ℤ) (h : HeapRef) : ℕ :=
  L.released h + (((registryGet L.registry index).map L.frees).getD []).count h

/-- What is due of a slot is what was released and what it frees. -/
theorem due_of_get (hget : registryGet L.registry index = some slot) :
    L.due index h = L.released h + (L.frees slot).count h := by
  rw [due, hget]
  rfl

/-- Payloads and message headers are released, or due, as often as before. -/
def SameDue (index : ℤ) (L L' : Loop) : Prop :=
  ∀ h, (∀ a, h ≠ .sockaddr a) → L'.due index h = L.due index h

/-- What is due is the same in a loop and itself. -/
theorem SameDue.refl (index : ℤ) (L : Loop) : SameDue index L L := fun _ _ => rfl

/-- What is due stays the same in two steps. -/
theorem SameDue.trans (h₁ : SameDue index L₁ L₂) (h₂ : SameDue index L₂ L₃) :
    SameDue index L₁ L₃ := fun o ho => (h₂ o ho).trans (h₁ o ho)

/-- A change that leaves the slot, the modes and what was released. -/
theorem sameDue_of_eq (hreg : L'.registry = L.registry) (hrel : L'.released = L.released)
    (hmode : ∀ p, (L'.payloads p).mode = (L.payloads p).mode) : SameDue index L L' := by
  intro o _
  have hfrees : L'.frees = L.frees := funext fun slot => frees_congr hmode rfl rfl
  rw [due, due, hreg, hrel, hfrees]

/-- A payload that the reader frees and takes out of the slot. One that is freed by force is in
`NORMAL_BUF` mode. -/
theorem sameDue_dropPayload {f : Bool} (hget : registryGet L.registry index = some slot)
    (hp : slot.buffer_payload = some p) (hf : f = true → (L.payloads p).mode = .NORMAL_BUF) :
    SameDue index L (L.dropPayload index p f) := by
  intro o _
  obtain ⟨released, hfree⟩ := freeBufferPayload_eq L (some p) f
  let emptied : RequestSlot := { slot with buffer_payload := none }
  have hget' : registryGet (L.dropPayload index p f).registry index = some emptied := by
    rw [dropPayload, hfree]
    change registryGet (L.registry.modifySlot index _) index = _
    rw [RequestRegistry.registryGet_modifySlot_self, hget]
    rfl
  have hpay : (L.dropPayload index p f).payloads = L.payloads := by
    rw [dropPayload, hfree]
    rfl
  have hreleased : (L.dropPayload index p f).released =
      (L.freeBufferPayload (some p) f).released := rfl
  rw [due_of_get hget', due_of_get hget, hreleased, frees_eq, frees_eq, hpay, hp]
  by_cases hmode : (L.payloads p).mode = .NORMAL_BUF
  · have hcond : ¬ ((L.payloads p).mode ≠ .NORMAL_BUF ∧ ¬ f) := fun hne => hne.1 hmode
    simp only [freeBufferPayload, if_neg hcond]
    by_cases ho : o = .payload p
    · subst ho
      simp only [release_released_self, emptied, Option.toList_none, List.filter_nil, List.map_nil,
        List.nil_append, Option.toList_some, hmode, decide_true, List.filter_cons_of_pos,
        List.map_cons, List.singleton_append, List.count_cons_self]
      omega
    · rw [release_released_ne ho]
      simp [emptied, hmode, Ne.symm ho]
  · have hcond : (L.payloads p).mode ≠ .NORMAL_BUF ∧ ¬ f := ⟨hmode, fun h => hmode (hf h)⟩
    simp only [freeBufferPayload, if_pos hcond]
    simp [emptied, hmode]

/-- The index that a `FIXED` payload gives back changes nothing here. -/
theorem sameDue_releaseFixed (h : L.releaseFixed p = .ok L') : SameDue index L L' := by
  obtain ⟨hk, -, hreg⟩ := releaseFixed_keeps h
  exact sameDue_of_eq hreg hk.released fun q => (hk.payloads q).mode

/-- The release of an address is not counted here. -/
theorem sameDue_freeSockaddr (addr : Option SockaddrRef) :
    SameDue index L (L.freeSockaddr addr) := by
  intro o ho
  obtain ⟨released, heq, hrel⟩ := freeSockaddr_eq L addr
  have hsame : released o = L.released o := hrel o fun a _ => ho a
  rw [heq]
  change released o + _ = L.released o + _
  rw [hsame]
  rfl

/-- A change of the slot that leaves its payload and its message header. -/
theorem sameDue_modifySlot (f : RequestSlot → RequestSlot)
    (hf : ∀ s, (f s).buffer_payload = s.buffer_payload ∧ (f s).msghdr = s.msghdr) :
    SameDue index L (L.modifySlot index f) := by
  intro o _
  have hget : registryGet (L.modifySlot index f).registry index =
      (registryGet L.registry index).map f := RequestRegistry.registryGet_modifySlot_self f
  have hfrees : ∀ s, (L.modifySlot index f).frees (f s) = L.frees s := fun s =>
    frees_congr (fun _ => rfl) (hf s).1 (hf s).2
  rw [due, due, hget]
  cases registryGet L.registry index with
  | none => rfl
  | some s =>
    simp only [Option.map_some, Option.getD_some, hfrees]
    rfl

/-- The outcome of the switch leaves what is due. -/
def KeepsDue (index : ℤ) (L : Loop) : Disposition → Prop
  | .leave L' => SameDue index L L'
  | .finish L' _ _ => SameDue index L L'

/-- Finishing a payload keeps what is due. -/
theorem finishPayload_due {f : Bool} {result : Option Outcome} {disp : Disposition}
    (hget : registryGet L.registry index = some slot) (hp : slot.buffer_payload = some p)
    (hf : f = true → (L.payloads p).mode = .NORMAL_BUF)
    (h : L.finishPayload index p f result = .ok disp) : KeepsDue index L disp := by
  unfold finishPayload at h
  obtain ⟨L₁, hrel, h⟩ := bind_eq_ok.mp h
  obtain ⟨hk, -, hreg⟩ := releaseFixed_keeps hrel
  cases h
  have hget₁ : registryGet L₁.registry index = some slot := by rw [hreg]; exact hget
  refine (sameDue_releaseFixed hrel).trans (sameDue_dropPayload hget₁ hp fun hforce => ?_)
  rw [(hk.payloads p).mode]
  exact hf hforce

/-- A completed `recvmsg` keeps what is due. -/
theorem completeRecvmsg_due {disp : Disposition}
    (hget : registryGet L.registry cqe.index = some slot)
    (h : L.completeRecvmsg cqe.index slot env cqe = .ok disp) : KeepsDue cqe.index L disp := by
  unfold completeRecvmsg at h
  obtain ⟨⟨p, payload⟩, hderef, h⟩ := bind_eq_ok.mp h
  obtain ⟨L₁, hrel, h⟩ := bind_eq_ok.mp h
  have hp := (deref_eq_ok hderef).1
  obtain ⟨hk, -, hreg⟩ := releaseFixed_keeps hrel
  have hsame : SameDue cqe.index L L₁ := sameDue_releaseFixed hrel
  have hget₁ : registryGet L₁.registry cqe.index = some slot := by rw [hreg]; exact hget
  have hno : ∀ {M : Loop}, false = true → (M.payloads p).mode = .NORMAL_BUF :=
    fun h => (by cases h)
  simp only at h
  split at h
  · -- A multishot request keeps its payload.
    unfold completeRecvmsgMultishot at h
    obtain ⟨linear, -, h⟩ := bind_eq_ok.mp h
    simp only at h
    split at h
    · cases h
      exact hsame.trans (sameDue_of_eq rfl rfl fun _ => rfl)
    · split at h
      · cases h
      · cases h
        exact hsame.trans (sameDue_of_eq rfl rfl fun _ => rfl)
  · split at h
    · obtain ⟨linear, -, h⟩ := bind_eq_ok.mp h
      cases h
      obtain ⟨released, heq, -⟩ := freeSockaddr_eq L₁ slot.addr
      let freed := (L₁.freeSockaddr slot.addr).modifySlot cqe.index fun s => { s with addr := none }
      have hget₂ : registryGet freed.registry cqe.index = some { slot with addr := none } := by
        change registryGet ((L₁.freeSockaddr slot.addr).registry.modifySlot cqe.index _) _ = _
        rw [RequestRegistry.registryGet_modifySlot_self, heq]
        exact congrArg (Option.map _) hget₁
      have hfreed : SameDue cqe.index L freed :=
        (hsame.trans (sameDue_freeSockaddr slot.addr)).trans
          (sameDue_modifySlot _ fun _ => ⟨rfl, rfl⟩)
      exact hfreed.trans (sameDue_dropPayload hget₂ hp hno)
    · obtain ⟨vec, -, h⟩ := bind_eq_ok.mp h
      cases h
      exact hsame.trans (sameDue_dropPayload hget₁ hp hno)

/-- **The switch leaves what is due**, but for `accept`, which takes the payload out of its slot. -/
theorem complete_due {disp : Disposition} (hget : registryGet L.registry cqe.index = some slot)
    (haccept : slot.opcode ≠ .accept)
    (hwrite : slot.opcode = .write → ∀ p, slot.buffer_payload = some p →
      (L.payloads p).mode = .NORMAL_BUF)
    (h : L.complete cqe.index slot k env cqe = .ok disp) : KeepsDue cqe.index L disp := by
  have hno : ∀ {p : PayloadRef}, false = true → (L.payloads p).mode = .NORMAL_BUF :=
    fun h => (by cases h)
  unfold complete at h
  cases hop : slot.opcode with
  | accept => exact absurd hop haccept
  | read =>
    simp only [hop, completeRead] at h
    obtain ⟨⟨p, payload⟩, hderef, h⟩ := bind_eq_ok.mp h
    obtain ⟨linear, -, h⟩ := bind_eq_ok.mp h
    exact finishPayload_due hget (deref_eq_ok hderef).1 hno h
  | readv =>
    simp only [hop, completeReadv] at h
    obtain ⟨⟨p, payload⟩, hderef, h⟩ := bind_eq_ok.mp h
    obtain ⟨vec, -, h⟩ := bind_eq_ok.mp h
    cases h
    exact sameDue_dropPayload hget (deref_eq_ok hderef).1 hno
  | write =>
    simp only [hop, completeWrite] at h
    obtain ⟨⟨p, payload⟩, hderef, h⟩ := bind_eq_ok.mp h
    have hp := (deref_eq_ok hderef).1
    exact finishPayload_due hget hp (fun _ => hwrite hop p hp) h
  | writev =>
    simp only [hop, completeWritev] at h
    cases hp : slot.buffer_payload with
    | none =>
      simp only [hp] at h
      cases h
      exact .refl _ _
    | some p =>
      simp only [hp] at h
      cases h
      exact sameDue_dropPayload hget hp hno
  | send | sendmsg =>
    simp only [hop, completeSend] at h
    cases hp : slot.buffer_payload with
    | none =>
      simp only [hp] at h
      cases h
      exact .refl _ _
    | some q =>
      simp only [hp] at h
      obtain ⟨⟨p, payload⟩, hderef, h⟩ := bind_eq_ok.mp h
      exact finishPayload_due hget (hp.trans (deref_eq_ok hderef).1) hno h
  | recv =>
    simp only [hop, completeRecv] at h
    split at h
    · cases h
      exact .refl _ _
    · obtain ⟨⟨p, payload⟩, hderef, h⟩ := bind_eq_ok.mp h
      have hp := (deref_eq_ok hderef).1
      simp only at h
      split at h
      · exact finishPayload_due hget hp hno h
      · split at h
        · obtain ⟨linear, -, h⟩ := bind_eq_ok.mp h
          exact finishPayload_due hget hp hno h
        · exact finishPayload_due hget hp hno h
  | recvmsg =>
    simp only [hop] at h
    exact completeRecvmsg_due hget h
  | openat2 | socket =>
    simp only [hop, completeOpenat2, completeSocket] at h
    split at h <;> cases h
    · exact .refl _ _
    · exact sameDue_of_eq rfl rfl fun _ => rfl
  | close =>
    simp only [hop, completeClose] at h
    split at h <;> cases h
    · exact sameDue_of_eq rfl rfl fun _ => rfl
    · exact sameDue_of_eq rfl rfl fun _ => rfl
    · exact .refl _ _
  | _ =>
    simp only [hop, completeOnSocket] at h
    cases h
    exact .refl _ _

/-- The payload that `accept` takes out of its slot, if there is one, is not due any more. -/
theorem completeAccept_due {result : Option Outcome} {consumed : List (ℕ × Sqe)}
    (hget : registryGet L.registry index = some slot)
    (h : L.completeAccept index slot k env cqe = .finish L' result consumed) (o : HeapRef) :
    L'.due index o ≤ L.due index o ∧
      (slot.buffer_payload = none → L'.due index o = L.due index o) := by
  unfold completeAccept at h
  split at h
  · cases h
    exact ⟨le_rfl, fun _ => rfl⟩
  · split at h
    · cases h
    · next s hs hgc =>
      obtain ⟨hL, -, -⟩ : _ ∧ _ ∧ _ := by simpa using h
      have hget' : registryGet L'.registry index = some { slot with buffer_payload := none } := by
        rw [← hL]
        change registryGet (L.registry.modifySlot index _) index = _
        rw [RequestRegistry.registryGet_modifySlot_self, hget]
        rfl
      have hpay : L'.payloads = L.payloads := by rw [← hL]; rfl
      have hrel : L'.released = L.released := by rw [← hL]; rfl
      rw [due_of_get hget', due_of_get hget, hrel, frees_eq, frees_eq, hpay, List.count_append,
        List.count_append]
      refine ⟨by simp, fun hnone => by rw [hnone]⟩

/-! ## The removal -/

/-- A removal releases what is due, and leaves a slot that holds nothing. -/
theorem registryRemove_released (hget : registryGet L.registry index = some slot)
    (h : L.registryRemove index = .ok L') :
    (∀ o, L'.released o = L.due index o) ∧ L'.payloads = L.payloads ∧
      registryGet L'.registry index = some slot.clear ∧
      ∀ j, j ≠ index → registryGet L'.registry j = registryGet L.registry j := by
  have hr : L.registry.InRange index :=
    RequestRegistry.registryGet_isSome.mp (Option.isSome_iff_exists.mpr ⟨slot, hget⟩)
  rcases registryRemove_cases hr with ⟨-, habort⟩ | ⟨reg, s, hs, hrem, -, -, hclear, hother⟩
  · rw [Loop.registryRemove, habort] at h
    cases h
  · rw [hget, Option.some.injEq] at hs
    rw [Loop.registryRemove, hrem] at h
    cases h
    have hsame := applyEffects_sameBut { L with registry := reg } s.releases
    refine ⟨fun o => ?_, hsame.payloads, by rw [hsame.registry, hclear, hs], fun j hj => by
      rw [hsame.registry, hother j hj]⟩
    rw [applyEffects_count, due_of_get hget, hs]
    rfl

/-- What the end of a request leaves of its slot, and what it released: what the slot freed. -/
structure Ended (L : Loop) (slot : RequestSlot) (index : ℤ) (L' : Loop) : Prop where
  /-- The slot is cleared. -/
  cleared : ∃ s, registryGet L'.registry index = some s ∧ s.future = none ∧ s.objects = []
  /-- What was released was held by the slot. -/
  released_le : ∀ o, (∀ a, o ≠ .sockaddr a) →
    L'.released o ≤ L.released o + (L.frees slot).count o
  /-- What the slot held was released, unless it is an accept with a payload. -/
  released : slot.opcode ≠ .accept ∨ slot.buffer_payload = none → ∀ o, (∀ a, o ≠ .sockaddr a) →
    L'.released o = L.released o + (L.frees slot).count o

/-- The removal that ends a request, after a step that leaves what is due. -/
theorem ended_of_remove {L₁ : Loop} {s : RequestSlot}
    (hget : registryGet L.registry index = some slot) (hs : registryGet L₁.registry index = some s)
    (hle : ∀ o, (∀ a, o ≠ .sockaddr a) → L₁.due index o ≤ L.due index o)
    (heq : slot.opcode ≠ .accept ∨ slot.buffer_payload = none → SameDue index L L₁)
    (hreg : L₂.registry = L₁.registry) (hrel : L₂.released = L₁.released)
    (hpay : L₂.payloads = L₁.payloads) (h : L₂.registryRemove index = .ok L') :
    Ended L slot index L' := by
  have hs₂ : registryGet L₂.registry index = some s := by rw [hreg]; exact hs
  have hdue : ∀ o, L₂.due index o = L₁.due index o := by
    intro o
    have hfrees : L₂.frees s = L₁.frees s := frees_congr (fun p => by rw [hpay]) rfl rfl
    rw [due_of_get hs₂, due_of_get hs, hrel, hfrees]
  obtain ⟨hreleased, -, hclear, -⟩ := registryRemove_released hs₂ h
  refine ⟨⟨s.clear, hclear, rfl, rfl⟩, fun o ho => ?_, fun hop o ho => ?_⟩
  · rw [hreleased, hdue, ← due_of_get hget]
    exact hle o ho
  · rw [hreleased, hdue, ← due_of_get hget]
    exact heq hop o ho

/-- **What the reader releases with a completion**: what the slot freed, if the request ends. -/
theorem readCqe_ended (h : L.Sound) (hget : registryGet L.registry cqe.index = some slot)
    (hfut : slot.future = some k)
    (hwrite : slot.opcode = .write → ∀ p, slot.buffer_payload = some p →
      (L.payloads p).mode = .NORMAL_BUF) (hread : readCqe L env cqe = .ok r) :
    Left L k slot env cqe r ∨ Finished L k slot cqe r ∧ Ended L slot cqe.index r.loop := by
  obtain ⟨-, hs, -⟩ := h.slots _ slot k hget hfut
  have hlive : L.registry.Live cqe.index := ⟨slot, hget, by rw [hfut]; rfl⟩
  refine (readCqe_cases h.consistent hget hs hread).imp id fun hfin => ⟨hfin, ?_⟩
  rw [readCqe, hget] at hread
  simp only [readSlot, hfut] at hread
  split at hread
  · -- The error branch: the future gets its exception, and the request is removed.
    obtain ⟨L', hrem, hread⟩ := bind_eq_ok.mp hread
    cases hread
    have hset : (L.setException k cqe).1.registry = L.registry ∧
        (L.setException k cqe).1.released = L.released ∧
        (L.setException k cqe).1.payloads = L.payloads := by
      unfold setException
      split
      · exact ⟨rfl, rfl, rfl⟩
      · exact resolve_eq L k _
    exact ended_of_remove hget hget (fun _ _ => le_rfl) (fun _ => .refl _ _) hset.1 hset.2.1
      hset.2.2 hrem
  · next herror =>
    rw [if_neg (user_data_ne_of_live hlive)] at hread
    obtain ⟨disp, hcomp, hread⟩ := bind_eq_ok.mp hread
    have hres : 0 ≤ cqe.res ∨ slot.opcode = .timeout := by
      by_cases hneg : cqe.res < 0
      · have hexp : timeoutExpired slot cqe = true := by simpa [hneg] using herror
        simp only [timeoutExpired, decide_eq_true_eq] at hexp
        exact .inr hexp.1
      · exact .inl (by omega)
    have hspec := complete_spec hlive.inRange.1 hs hres hcomp
    cases disp with
    | leave L' =>
      cases hread
      exact absurd (hspec.2.1 ▸ hlive) hfin.dead
    | finish L₁ result consumed =>
      obtain ⟨L', hrem, hread⟩ := bind_eq_ok.mp hread
      cases hread
      have hset : (L₁.setResult k result).registry = L₁.registry ∧
          (L₁.setResult k result).released = L₁.released ∧
          (L₁.setResult k result).payloads = L₁.payloads := by
        cases result with
        | none => exact ⟨rfl, rfl, rfl⟩
        | some outcome => exact resolve_eq L₁ k outcome
      obtain ⟨s, hs₁, -⟩ := hspec.1.slot slot hget
      by_cases hop : slot.opcode = .accept
      · have hacc : L.completeAccept cqe.index slot k env cqe = .finish L₁ result consumed := by
          rw [complete, hop] at hcomp
          exact Except.ok.inj hcomp
        have hdue := completeAccept_due hget hacc
        exact ended_of_remove hget hs₁ (fun o _ => (hdue o).1)
          (fun hor o _ => (hdue o).2 (hor.resolve_left fun hne => hne hop)) hset.1 hset.2.1
          hset.2.2 hrem
      · have hsame : SameDue cqe.index L L₁ := complete_due hget hop hwrite hcomp
        exact ended_of_remove hget hs₁ (fun o ho => (hsame o ho).le) (fun _ => hsame) hset.1
          hset.2.1 hset.2.2 hrem

/-! ## Calls -/

variable {ctx : ExecutionContext} {op : Op} {cenv : CallEnv} {c : Called} {a : Attempt}
    {req : Request}

/-- Freeing a payload releases nothing else. -/
theorem freeBufferPayload_released_ne {f : Bool} (hne : h ≠ .payload p) :
    (L.freeBufferPayload (some p) f).released h = L.released h := by
  unfold freeBufferPayload
  simp only
  split
  · rfl
  · exact release_released_ne hne

/-- Freeing a payload releases each block once at most. -/
theorem freeBufferPayload_le (L : Loop) (p : PayloadRef) (f : Bool) (o : HeapRef) :
    (L.freeBufferPayload (some p) f).released o ≤ L.released o + 1 := by
  unfold freeBufferPayload
  simp only
  split
  · omega
  · by_cases ho : o = .payload p
    · rw [ho, release_released_self]
    · rw [release_released_ne ho]
      omega

/-- Freeing a payload leaves the registry. -/
theorem freeBufferPayload_registry (L : Loop) (p : PayloadRef) (f : Bool) :
    (L.freeBufferPayload (some p) f).registry = L.registry := by
  obtain ⟨released, heq⟩ := freeBufferPayload_eq L (some p) f
  rw [heq]

/-- What is given up when the registry is full is given up once. -/
def FullOnce (a : Attempt) : Prop := ∀ M : Loop, (a.full M).registry = M.registry ∧
  ∀ o, (a.full M).released o ≤ M.released o + 1

/-- The call is an attempt that gives up once. -/
def GivesUpOnce (L : Loop) (result : Except Fault Called) : Prop :=
  ∃ (closed : Bool) (L₁ : Loop) (a : Attempt), result = L.unlessClosed closed (L₁.attempt a) ∧
    L₁.registry = L.registry ∧ L₁.released = L.released ∧ FullOnce a

/-- A call that is prepared gives up its objects once. -/
theorem givesUpOnce_of_prepares {closed : Bool} (hprep : Prepares L L₁) (hfull : FullOnce a) :
    GivesUpOnce L (L.unlessClosed closed (L₁.attempt a)) :=
  ⟨closed, L₁, a, rfl, hprep.registry, hprep.released, hfull⟩

/-- An attempt that is prepared gives up its objects once. -/
theorem givesUpOnce_attempt (hprep : Prepares L L₁) (hfull : FullOnce a) :
    GivesUpOnce L (L₁.attempt a) := ⟨false, L₁, a, rfl, hprep.registry, hprep.released, hfull⟩

/-- A call with a payload gives up its objects once. -/
theorem givesUpOnce_withPayload {closed : Bool} {dispatch : Loop → ℤ → Except Fault Dispatched}
    (hprep : Prepares L L₁) :
    GivesUpOnce L (L.unlessClosed closed (L₁.withPayload p req dispatch)) :=
  givesUpOnce_of_prepares hprep fun M =>
    ⟨freeBufferPayload_registry M p false, freeBufferPayload_le M p false⟩

/-- Each call gives up its objects once. -/
theorem call_givesUpOnce (hctx : L.ContextsSound) (ctx : ExecutionContext) (op : Op)
    (cenv : CallEnv) : GivesUpOnce L (L.call ctx op cenv) := by
  have hid : ∀ M : Loop, (id M).registry = M.registry ∧
      ∀ o, (id M).released o ≤ M.released o + 1 := fun M => ⟨rfl, fun o => Nat.le_succ _⟩
  cases op with
  | «open» => exact givesUpOnce_attempt (prepares_newFile L) hid
  | socket domain => exact givesUpOnce_attempt (prepares_newSocket L domain) hid
  | aexitFile | aexitSocket | timer => exact givesUpOnce_attempt (.refl L) hid
  | fsync | fdatasync | splice | closeFile | bind | connect | listen | accept | closeSocket =>
    exact givesUpOnce_of_prepares (.refl L) hid
  | readvRaw | write | writevRaw | send =>
    exact givesUpOnce_withPayload (prepares_newPayload L _)
  | read f offset size tp =>
    rcases hp : L.getOrCreateLinearBuffer ctx none size cenv with ⟨p, L₁⟩
    simp only [call, uringioFileRead, hp]
    exact givesUpOnce_withPayload (getOrCreateLinearBuffer_spec hctx hp).1.prepares
  | recv s bufsize buffer is_poll_first tp =>
    rcases hp : L.getOrCreateLinearBuffer ctx buffer bufsize cenv with ⟨p, L₁⟩
    simp only [call, uringioSocketRecv, hp]
    exact givesUpOnce_withPayload (getOrCreateLinearBuffer_spec hctx hp).1.prepares
  | readv f buffers offset nowait tp =>
    rcases hp : L.readvPayload ctx buffers cenv with ⟨p, L₁⟩
    simp only [call, uringioFileReadv, hp]
    exact givesUpOnce_withPayload (readvPayload_spec hctx hp).prepares
  | writev f buffers flags offset tp =>
    rcases hp : L.getOrCreateVectoredBuffer ctx (some buffers) cenv with ⟨p, L₁⟩
    simp only [call, uringioFileWritev, hp, writevAttempt]
    exact givesUpOnce_withPayload (getOrCreateVectoredBuffer_spec hctx hp).1.prepares
  | sendmsg s buffers domain is_poll_first tp =>
    rcases hp : L.getOrCreateVectoredBuffer ctx (some buffers) cenv with ⟨p, L₁⟩
    simp only [call, uringioSocketSendmsg, hp]
    exact givesUpOnce_withPayload (getOrCreateVectoredBuffer_spec hctx hp).1.prepares
  | recvmsg s buffers is_poll_first tp =>
    rcases hp : L.getOrCreateVectoredBuffer ctx (some buffers) cenv with ⟨p, L₁⟩
    simp only [call, uringioSocketRecvmsg, hp]
    exact givesUpOnce_withPayload (getOrCreateVectoredBuffer_spec hctx hp).1.prepares
  | sendto s data domain is_poll_first tp =>
    exact givesUpOnce_of_prepares (prepares_newPayload L _) fun M =>
      ⟨freeBufferPayload_registry M _ _, freeBufferPayload_le M _ _⟩
  | recvfrom s bufsize buffer domain is_poll_first tp =>
    rcases hp : L.getOrCreateLinearBuffer ctx buffer (CInt.toInt bufsize) cenv with ⟨p, L₁⟩
    simp only [call, uringioSocketRecvfrom, hp]
    refine givesUpOnce_of_prepares (getOrCreateLinearBuffer_spec hctx hp).1.prepares fun M =>
      ⟨freeBufferPayload_registry M p false, fun o => ?_⟩
    -- The payload, the address and the message header are three objects.
    by_cases hm : o = .msghdr L.calls
    · rw [hm, release_released_self, release_released_ne (by simp),
        freeBufferPayload_released_ne (by simp)]
    · rw [release_released_ne hm]
      by_cases hs : o = .sockaddr L.calls
      · rw [hs, release_released_self, freeBufferPayload_released_ne (by simp)]
      · rw [release_released_ne hs]
        exact freeBufferPayload_le M p false o

/-- What a call that raises leaves: the slots as they were, but for one that was cleared, and every
object released once more at most. -/
structure LeavesSlots (L L' : Loop) : Prop where
  /-- A slot is as it was, or it is cleared. -/
  slots : ∀ i s, registryGet L'.registry i = some s →
    registryGet L.registry i = some s ∨ s.future = none ∧ s.objects = []
  /-- Nothing was released more than once. -/
  released : ∀ o, L'.released o ≤ L.released o + 1

/-- The dispatcher of an attempt failed. -/
theorem attempt_failed (ha : a.Spec L ctx op cenv) (h : L.attempt a = .ok c)
    (hnone : c.future = none) (hsome : L.registry.available_indices.entries ≠ []) :
    LeavesSlots L c.loop := by
  unfold attempt at h
  rcases registryAdd_cases L.registry a.request with
    ⟨hempty, -⟩ | ⟨idx, reg, hadd, hr, -, -, hslot, hother⟩
  · exact absurd hempty hsome
  · rw [hadd] at h
    simp only [show ¬ idx < 0 by have := hr.1; omega, if_false] at h
    obtain ⟨d, hd, h⟩ := bind_eq_ok.mp h
    obtain ⟨hk, -, hregistry, hpay⟩ := added_spec ha reg a.request
    have hspec := ha.dispatch _ idx d hpay hd
    have hdreg : d.loop.registry = reg := hspec.registry.trans hregistry
    have hreleased : d.loop.released = L.released := hspec.keeps.released.trans hk.released
    split at h
    · obtain ⟨L₂, hrem, h⟩ := bind_eq_ok.mp h
      cases h
      have hget : registryGet d.loop.registry idx = some (a.request.slot idx) := by
        rw [hdreg]
        exact hslot
      obtain ⟨hdue, -, hclear, hothers⟩ := registryRemove_released hget hrem
      have hq := ha.failed L₂
      refine ⟨fun i s hs => ?_, fun o => ?_⟩
      · rw [hq.registry] at hs
        by_cases hi : i = idx
        · rw [hi, hclear] at hs
          cases hs
          exact .inr ⟨rfl, rfl⟩
        · rw [hothers i hi, hdreg, hother i hi] at hs
          exact .inl hs
      · have hcount := count_frees_le d.loop (a.request.slot idx) o
        rw [hq.released, hdue, due_of_get hget, hreleased]
        omega
    · cases h
      cases hnone

/-- **What a rejected call leaves.** -/
theorem call_leavesSlots (hctx : L.ContextsSound) (h : L.call ctx op cenv = .ok c)
    (hrej : Rejected L c) : LeavesSlots L c.loop := by
  have hrefused : LeavesSlots L L := ⟨fun i s hs => .inl hs, fun o => Nat.le_succ _⟩
  by_cases hempty : L.registry.available_indices.entries = []
  · -- The registry is full, unless the object of the call is closed.
    obtain ⟨closed, L₁, a, hcall, hreg, hrel, hfull⟩ := call_givesUpOnce hctx ctx op cenv
    rw [hcall, unlessClosed] at h
    split at h
    · cases h
      exact hrefused
    · unfold attempt at h
      rcases registryAdd_cases L₁.registry a.request with ⟨-, hadd⟩ | ⟨idx, reg, -, -, hstack, -⟩
      · rw [hadd] at h
        simp only [show (-1 : ℤ) < 0 by decide, if_true, Except.ok.injEq] at h
        refine ⟨fun i s hs => ?_, fun o => ?_⟩
        · rw [← h] at hs
          have hsame : registryGet L₁.registry i = some s := (hfull L₁.createFuture).1 ▸ hs
          exact .inl (hreg ▸ hsame)
        · rw [← h, ← hrel]
          exact (hfull L₁.createFuture).2 o
      · rw [hreg, hempty] at hstack
        exact absurd hstack (by simp)
  · obtain ⟨closed, L₁, a, hcall, hprep, ha⟩ := call_shape hctx ctx op cenv
    rw [hcall, unlessClosed] at h
    split at h
    · cases h
      exact hrefused
    · obtain ⟨hslots, hreleased⟩ := attempt_failed ha h hrej.future (by rwa [hprep.registry])
      rw [hprep.registry] at hslots
      rw [hprep.released] at hreleased
      exact ⟨hslots, hreleased⟩

/-! ## The invariant -/

/-- A slot that is not in use holds nothing, the payload that a call made for itself is in
`NORMAL_BUF` mode, and no payload and no message header was released twice. -/
structure Tidy (L : Loop) : Prop where
  /-- A slot that is not in use points to nothing. -/
  unused : ∀ i slot, registryGet L.registry i = some slot → slot.future = none → slot.objects = []
  /-- The payload of a call that a slot points to is in the normal mode. -/
  normal : ∀ i slot (k : ℕ), registryGet L.registry i = some slot → slot.future = some k →
    slot.buffer_payload = some (.own k) → (L.payloads (.own k)).mode = .NORMAL_BUF
  /-- Nothing was released more than once. -/
  once : ∀ o, (∀ a, o ≠ .sockaddr a) → L.released o ≤ 1

/-- A change outside of what the invariant speaks about. -/
theorem Tidy.congr (h : L.Tidy) (hreg : L'.registry = L.registry)
    (hpay : L'.payloads = L.payloads) (hrel : L'.released = L.released) : L'.Tidy where
  unused := by rw [hreg]; exact h.unused
  normal := by rw [hreg, hpay]; exact h.normal
  once := by rw [hrel]; exact h.once

/-- What a frame of call `k` keeps: the payloads of the slots of other calls, and what was released
of other calls. What belongs to `k` was not released, and is released once at most. -/
theorem Tidy.of_frame (h : L.Tidy) (hf : Frame k L L')
    (hunused : ∀ i slot, registryGet L'.registry i = some slot → slot.future = none →
      slot.objects = [])
    (hslots : ∀ i slot (j : ℕ), registryGet L'.registry i = some slot → slot.future = some j →
      j ≠ k ∧ registryGet L.registry i = some slot ∨
        (slot.buffer_payload = some (.own j) → (L'.payloads (.own j)).mode = .NORMAL_BUF))
    (hreleased : ∀ o, o.call = some k → (∀ a, o ≠ .sockaddr a) → L'.released o ≤ 1) : L'.Tidy where
  unused := hunused
  normal i slot j hget hfut hp := by
    rcases hslots i slot j hget hfut with ⟨hne, hold⟩ | hnew
    · rw [(hf.payloads (.own j) (by simpa using hne)).mode]
      exact h.normal i slot j hold hfut hp
    · exact hnew hp
  once o ho := by
    by_cases hk : o.call = some k
    · exact hreleased o hk ho
    · rw [hf.released o hk]
      exact h.once o ho

/-- **Calls keep the invariant.** -/
theorem Tidy.call (h : L.Tidy) (hs : L.Sound) (hcall : L.call ctx op cenv = .ok c) :
    c.loop.Tidy := by
  rcases call_cases hs.contexts hs.consistent hcall with hrej | ⟨req, idx, e, hacc⟩
  · obtain ⟨hslots, hreleased⟩ := call_leavesSlots hs.contexts hcall hrej
    refine h.of_frame hrej.frame (fun i slot hget hfut => ?_) (fun i slot j hget hfut => ?_)
      fun o ho _ => ?_
    · rcases hslots i slot hget with hold | ⟨-, hnone⟩
      · exact h.unused i slot hold hfut
      · exact hnone
    · rcases hslots i slot hget with hold | ⟨hnone, -⟩
      · exact .inl ⟨(hs.slots i slot j hold hfut).1.ne, hold⟩
      · rw [hnone] at hfut
        cases hfut
    · have hfresh := hs.fresh o L.calls ho le_rfl
      have hle := hreleased o
      omega
  · have hother : ∀ i slot, i ≠ idx → registryGet c.loop.registry i = some slot →
        registryGet L.registry i = some slot := fun i slot hi hget => hacc.others i hi ▸ hget
    refine h.of_frame hacc.frame (fun i slot hget hfut => ?_) (fun i slot j hget hfut => ?_)
      fun o ho _ => ?_
    · by_cases hi : i = idx
      · rw [hi, hacc.slot, Option.some.injEq] at hget
        rw [← hget] at hfut
        cases hfut
      · exact h.unused i slot (hother i slot hi hget) hfut
    · by_cases hi : i = idx
      · rw [hi, hacc.slot, Option.some.injEq] at hget
        refine .inr fun hp => ?_
        rw [← hget] at hp
        rcases hacc.request.payload _ hp with ⟨-, hmode⟩ | ⟨n, -, heq, -⟩
        · exact hmode
        · cases heq
      · have hold := hother i slot hi hget
        exact .inl ⟨(hs.slots i slot j hold hfut).1.ne, hold⟩
    · rw [hacc.released, hs.fresh o L.calls ho le_rfl]
      exact Nat.zero_le 1

/-- **The reader keeps the invariant.** -/
theorem Tidy.read (h : L.Tidy) (hs : L.Sound) (hread : readCqe L env cqe = .ok r) :
    r.loop.Tidy := by
  rcases hs.read_cases hread with ⟨-, rfl⟩ | ⟨slot, k, hget, hfut, hlt, -⟩
  · exact h
  obtain ⟨-, hslot, hobj⟩ := hs.slots _ slot k hget hfut
  have hwrite : slot.opcode = .write → ∀ p, slot.buffer_payload = some p →
      (L.payloads p).mode = .NORMAL_BUF := by
    intro hop p hp
    have hown := hslot.write hop
    rw [hp, Option.some.injEq] at hown
    rw [hown] at hp ⊢
    exact h.normal _ slot k hget hfut hp
  rcases readCqe_ended hs hget hfut hwrite hread with hleft | ⟨hfin, hend⟩
  · refine h.of_frame hleft.frame ?_ (fun i s j hi hj => .inr fun hp => ?_) fun o _ ho => ?_
    · rw [hleft.registry]
      exact h.unused
    · rw [hleft.registry] at hi
      rw [hleft.payloads]
      exact h.normal i s j hi hj hp
    · rw [hleft.released o ho]
      exact h.once o ho
  · obtain ⟨s, hcleared, hnone, hempty⟩ := hend.cleared
    refine h.of_frame hfin.frame (fun i s' hi hf => ?_) (fun i s' j hi hj => .inl ?_)
      fun o _ ho => ?_
    · by_cases hidx : i = cqe.index
      · rw [hidx, hcleared, Option.some.injEq] at hi
        rw [← hi]
        exact hempty
      · rw [hfin.others i hidx] at hi
        exact h.unused i s' hi hf
    · have hserves := (serves_finished hfin).mp ⟨s', hi, hj⟩
      rw [hfin.others i hserves.1] at hi
      refine ⟨fun heq => ?_, hi⟩
      rw [heq] at hserves
      exact hserves.1 (hs.injective i cqe.index k hserves.2 ⟨slot, hget, hfut⟩)
    · have hle := hend.released_le o ho
      have hcount := count_frees_le L slot o
      by_cases hmem : o ∈ L.frees slot
      · have hzero := hobj o (objects_of_mem_frees hmem)
        omega
      · rw [List.count_eq_zero.mpr hmem] at hle
        exact hle.trans (h.once o ho)

end Loop

end Uringio
