import Uringio.Loop.Frame
import Uringio.Registry.Partition
import Uringio.Ring.Submission

/-!
# What the reader can do

An entry whose slot is not in use is dropped. Else the reader finishes the request of the slot, or
leaves it as it is; either way nothing changes but what belongs to the request's own call, and the
queue when a multishot receiver is submitted again. `readCqe_cases` says so for every opcode;
nothing else is used of the reader where the order of things matters.
-/

namespace Uringio

open Loop

/-- The slot is that of a request of call number `k`: what it points to was made by that call, or
is the payload of a context, which a request does not free. -/
structure SlotOf (L : Loop) (k : ℕ) (slot : RequestSlot) : Prop where
  /-- The future is that of the call. -/
  future : slot.future = some k
  /-- The payload is the call's own, or that of a context. -/
  payload : ∀ p, slot.buffer_payload = some p →
    p = .own k ∨ (∃ n, p = .context n) ∧ (L.payloads p).mode ≠ .NORMAL_BUF
  /-- A write has the payload of the call. -/
  write : slot.opcode = .write → slot.buffer_payload = some (.own k)
  /-- The address block is that of the call. -/
  sockaddr : ∀ a, slot.addr = some a → a = k
  /-- The message header is that of the call. -/
  msghdr : ∀ m, slot.msghdr = some m → m = k

/-- The reader submits the receiver of the slot again. -/
def resubmits (slot : RequestSlot) (cqe : Cqe) : Bool :=
  slot.opcode = .recvmsg ∧ slot.stream_strategy = .MULTISHOT ∧ 0 ≤ cqe.res ∧ ¬ cqe.more

namespace Loop

variable {k : ℕ} {index : ℤ} {L L' L₁ L₂ L₃ : Loop} {slot : RequestSlot} {env : ReadEnv}
  {cqe : Cqe} {p : PayloadRef}

/-- Up to the resolution of the future, only what belongs to the request has changed, and its slot
has lost its payload at most. -/
structure Within (k : ℕ) (index : ℤ) (L L' : Loop) : Prop extends Frame k L L' where
  /-- The futures are as they were. -/
  futures_eq : L'.futures = L.futures
  /-- No call was made. -/
  calls_eq : L'.calls = L.calls
  /-- The stack is as it was. -/
  stack : L'.registry.available_indices = L.registry.available_indices
  /-- The size is the same. -/
  size : L'.registry.size = L.registry.size
  /-- The other slots are as they were. -/
  others : ∀ j, j ≠ index → registryGet L'.registry j = registryGet L.registry j
  /-- The slot keeps its future and its header, and loses its payload at most. -/
  slot : ∀ s, registryGet L.registry index = some s →
    ∃ s', registryGet L'.registry index = some s' ∧
    s'.future = s.future ∧ s'.msghdr = s.msghdr ∧
      (s'.buffer_payload = s.buffer_payload ∨ s'.buffer_payload = none)

/-- A change outside the registry. -/
theorem Frame.within (h : Frame k L L') (hreg : L'.registry = L.registry)
    (hfutures : L'.futures = L.futures) (hcalls : L'.calls = L.calls) : Within k index L L' := {
  h with
    futures_eq := hfutures
    calls_eq := hcalls
    stack := by rw [hreg]
    size := by rw [hreg]
    others := fun j _ => by rw [hreg]
    slot := fun s hs => ⟨s, by rw [hreg]; exact hs, rfl, rfl, .inl rfl⟩ }

/-- A loop is within its own changes. -/
theorem Within.refl (k : ℕ) (index : ℤ) (L : Loop) : Within k index L L :=
  (Keeps.refl L).frame.within rfl rfl rfl

/-- Two steps within the same slot are within it. -/
theorem Within.trans (h : Within k index L₁ L₂) (h' : Within k index L₂ L₃) :
    Within k index L₁ L₃ := {
  h.toFrame.trans h'.toFrame with
    futures_eq := h'.futures_eq.trans h.futures_eq
    calls_eq := h'.calls_eq.trans h.calls_eq
    stack := h'.stack.trans h.stack
    size := h'.size.trans h.size
    others := fun j hj => (h'.others j hj).trans (h.others j hj)
    slot := fun s hs => by
      obtain ⟨s₂, hs₂, hf₂, hm₂, hp₂⟩ := h.slot s hs
      obtain ⟨s₃, hs₃, hf₃, hm₃, hp₃⟩ := h'.slot s₂ hs₂
      refine ⟨s₃, hs₃, hf₃.trans hf₂, hm₃.trans hm₂, ?_⟩
      rcases hp₃ with hp₃ | hp₃
      · rw [hp₃]
        exact hp₂
      · exact .inr hp₃ }

/-- A change of the slot that takes its payload at most. -/
theorem within_modifySlot (hi : 0 ≤ index) (f : RequestSlot → RequestSlot)
    (hf : ∀ s, (f s).future = s.future ∧ (f s).msghdr = s.msghdr ∧
      ((f s).buffer_payload = s.buffer_payload ∨ (f s).buffer_payload = none)) :
    Within k index L (L.modifySlot index f) := {
  (Keeps.refl L).frame with
    futures_eq := rfl
    calls_eq := rfl
    stack := rfl
    size := rfl
    others := fun j hj => RequestRegistry.registryGet_modifySlot_ne f hi hj
    slot := fun s hs => ⟨f s, by
      rw [show (L.modifySlot index f).registry = L.registry.modifySlot index f from rfl,
        RequestRegistry.registryGet_modifySlot_self, hs]
      rfl, hf s⟩ }

/-! ## The steps of the switch -/

/-- A release of something that belongs to the call. -/
theorem frame_release {h : HeapRef} (hh : h.call = some k) : Frame k L (L.release h) := {
  (Keeps.refl L).frame with
    released := fun _ ho => release_released_ne fun heq => ho (heq ▸ hh) }

/-- The payload of the request is freed, if it is the call's own; one of a context is not. -/
theorem frame_freeBufferPayload {force : Bool}
    (hp : p = .own k ∨ force = false ∧ (L.payloads p).mode ≠ .NORMAL_BUF) :
    Frame k L (L.freeBufferPayload (some p) force) := by
  unfold freeBufferPayload
  split
  · cases ‹_›
  · next q hq =>
    cases hq
    split
    · exact (Keeps.refl L).frame
    · next hmode =>
      rcases hp with rfl | ⟨rfl, hp⟩
      · exact frame_release rfl
      · exact absurd ⟨hp, by simp⟩ hmode

/-- Freeing a payload changes nothing but what was released. -/
theorem freeBufferPayload_eq (L : Loop) (p : Option PayloadRef) (force : Bool) :
    ∃ released, L.freeBufferPayload p force = { L with released := released } := by
  unfold freeBufferPayload
  split
  · exact ⟨_, rfl⟩
  · split <;> exact ⟨_, rfl⟩

/-- `free_buffer_payload(slot->buffer_payload, force); slot->buffer_payload = NULL`. -/
theorem dropPayload_within {f : Bool} (hi : 0 ≤ index)
    (hp : p = .own k ∨ f = false ∧ (L.payloads p).mode ≠ .NORMAL_BUF) :
    Within k index L (L.dropPayload index p f) ∧
      (L.dropPayload index p f).ring = L.ring := by
  obtain ⟨released, heq⟩ := freeBufferPayload_eq L (some p) f
  have hframe := frame_freeBufferPayload hp
  have hslot : Within k index (L.freeBufferPayload (some p) f) (L.dropPayload index p f) :=
    within_modifySlot hi _ fun _ => ⟨rfl, rfl, .inr rfl⟩
  refine ⟨Within.trans (hframe.within ?_ ?_ ?_) hslot, ?_⟩
  · rw [heq]
  · rw [heq]
  · rw [heq]
  · unfold dropPayload
    rw [heq]
    rfl

/-- The release of a fixed index changes the pool only. -/
theorem releaseFixed_keeps (h : L.releaseFixed p = .ok L') :
    Keeps L L' ∧ L'.ring = L.ring ∧ L'.registry = L.registry := by
  unfold releaseFixed at h
  split at h
  · split at h
    · cases h
    · next reg hreg =>
      cases h
      exact ⟨keeps_setPayload ⟨rfl, by simp [hreg]⟩, rfl, rfl⟩
  · cases h
    exact ⟨.refl L, rfl, rfl⟩

/-- What the switch leaves: a slot that is left is one of a failed `accept`; the queue changes only
when a receiver is submitted again. -/
def Disposition.Spec (k : ℕ) (slot : RequestSlot) (env : ReadEnv) (cqe : Cqe) (L : Loop) :
    Disposition → Prop
  | .leave L' => Frame k L L' ∧ L'.registry = L.registry ∧ L'.calls = L.calls ∧
      L'.futures = L.futures ∧ L'.ring = L.ring ∧ slot.opcode = .accept ∧
      slot.socket.isSome = true ∧ env.gcNew = false ∧ L'.payloads = L.payloads ∧
      ∀ h, (∀ a, h ≠ .sockaddr a) → L'.released h = L.released h
  | .finish L' _ consumed => Within k cqe.index L L' ∧
      ((consumed = [] ∧ L'.ring = L.ring) ∨
        (resubmits slot cqe = true ∧ ∃ sock_fd bgid msghdr,
          let again := uringioRecvmsgMultishot L.ring cqe.index sock_fd bgid false msghdr .zero
            env.submitted
          consumed = again.consumed ∧ L'.ring = again.ring))

/-- A finished slot whose request did not touch the queue. -/
theorem finish_spec {result : Option Outcome} (hw : Within k cqe.index L L')
    (hring : L'.ring = L.ring) : Disposition.Spec k slot env cqe L (.finish L' result []) :=
  ⟨hw, .inl ⟨rfl, hring⟩⟩

/-- The end of the cases that release the index of the slot's payload. -/
theorem finishPayload_spec {force : Bool} {result : Option Outcome} {disp : Disposition}
    (hi : 0 ≤ cqe.index) (hp : p = .own k ∨ force = false ∧ (L.payloads p).mode ≠ .NORMAL_BUF)
    (h : L.finishPayload cqe.index p force result = .ok disp) :
    Disposition.Spec k slot env cqe L disp := by
  unfold finishPayload at h
  obtain ⟨L₁, hrel, h⟩ := bind_eq_ok.mp h
  obtain ⟨hk, hring, hreg⟩ := releaseFixed_keeps hrel
  cases h
  have hp' : p = .own k ∨ force = false ∧ (L₁.payloads p).mode ≠ .NORMAL_BUF := by
    rwa [(hk.payloads p).mode]
  obtain ⟨hw, hring'⟩ := dropPayload_within hi hp'
  exact finish_spec ((hk.frame.within hreg hk.futures hk.calls).trans hw) (hring'.trans hring)

/-- A payload that can be followed is the one that the slot points to. -/
theorem deref_eq_ok {q : Option PayloadRef} {payload : BufferPayload}
    (h : L.deref q = .ok (p, payload)) :
    q = some p ∧ payload = L.payloads p ∧ L.released (.payload p) = 0 := by
  unfold deref at h
  split at h
  · cases h
  · split at h
    · next hrel =>
      cases h
      exact ⟨rfl, rfl, hrel⟩
    · cases h

/-- The payload of a request, where it is not freed by force. -/
theorem keeps_payload (h : SlotOf L k slot) (hp : slot.buffer_payload = some p) :
    p = .own k ∨ false = false ∧ (L.payloads p).mode ≠ .NORMAL_BUF :=
  (h.payload p hp).imp id fun h => ⟨rfl, h.2⟩

/-- Descriptors and flags of files and sockets may change. -/
theorem within_files (files : FileRef → UringioFile) :
    Within k cqe.index L { L with files := files } :=
  Frame.within { (Keeps.refl L).frame with } rfl rfl rfl

/-- A change of sockets that keeps their domains is within the slot. -/
theorem within_sockets (sockets : SocketRef → UringioSocket)
    (h : ∀ s, (sockets s).domain = (L.sockets s).domain) :
    Within k cqe.index L { L with sockets := sockets } :=
  Frame.within { (Keeps.refl L).frame with domain := fun s _ => h s } rfl rfl rfl

/-- An update of a socket that keeps its domain keeps all domains. -/
theorem domain_update (s : SocketRef) (sock : UringioSocket)
    (h : sock.domain = (L.sockets s).domain) (t : SocketRef) :
    (Function.update L.sockets s sock t).domain = (L.sockets t).domain := by
  by_cases ht : t = s
  · subst ht
    simpa using h
  · simp [ht]

/-- `free(addr)` of the address of the request. -/
theorem freeSockaddr_eq (L : Loop) (addr : Option SockaddrRef) :
    ∃ released, L.freeSockaddr addr = { L with released := released } ∧
      ∀ h, (∀ a, addr = some a → h ≠ .sockaddr a) → released h = L.released h := by
  unfold freeSockaddr
  split
  · exact ⟨_, rfl, fun _ _ => rfl⟩
  · exact ⟨_, rfl, fun o ho => release_released_ne (ho _ rfl)⟩

/-- The address belongs to the call. -/
theorem freeSockaddr_within (h : SlotOf L₁ k slot) :
    Within k cqe.index L (L.freeSockaddr slot.addr) ∧
      (L.freeSockaddr slot.addr).ring = L.ring := by
  obtain ⟨released, heq, hrel⟩ := freeSockaddr_eq L slot.addr
  rw [heq]
  refine ⟨Frame.within { (Keeps.refl L).frame with released := fun o ho => hrel o ?_ } rfl rfl rfl,
    rfl⟩
  intro a ha
  rw [h.sockaddr a ha]
  rintro rfl
  exact ho rfl

/-! ## The cases of the switch -/

/-- What a completed `close` leaves. -/
theorem completeClose_spec {disp : Disposition} (h : L.completeClose slot cqe = disp) :
    Disposition.Spec k slot env cqe L disp := by
  unfold completeClose at h
  split at h
  · cases h
    exact finish_spec (within_sockets _ (domain_update _ _ rfl)) rfl
  · cases h
    exact finish_spec (within_files _) rfl
  · cases h
    exact finish_spec (.refl _ _ _) rfl

section Complete

variable (hi : 0 ≤ cqe.index) (hs : SlotOf L k slot) {disp : Disposition}
include hi hs

/-- What a completed `read` leaves. -/
theorem completeRead_spec (h : L.completeRead cqe.index slot cqe = .ok disp) :
    Disposition.Spec k slot env cqe L disp := by
  obtain ⟨⟨p, payload⟩, hderef, h⟩ := bind_eq_ok.mp h
  obtain ⟨linear, -, h⟩ := bind_eq_ok.mp h
  exact finishPayload_spec hi (keeps_payload hs (deref_eq_ok hderef).1) h

/-- What a completed `readv` leaves. -/
theorem completeReadv_spec (h : L.completeReadv cqe.index slot cqe = .ok disp) :
    Disposition.Spec k slot env cqe L disp := by
  obtain ⟨⟨p, payload⟩, hderef, h⟩ := bind_eq_ok.mp h
  obtain ⟨vec, -, h⟩ := bind_eq_ok.mp h
  cases h
  obtain ⟨hw, hring⟩ := dropPayload_within hi (keeps_payload hs (deref_eq_ok hderef).1)
  exact finish_spec hw hring

/-- What a completed `write` leaves. -/
theorem completeWrite_spec (hop : slot.opcode = .write)
    (h : L.completeWrite cqe.index slot cqe = .ok disp) :
    Disposition.Spec k slot env cqe L disp := by
  obtain ⟨⟨p, payload⟩, hderef, h⟩ := bind_eq_ok.mp h
  have hp : p = .own k :=
    Option.some.inj ((deref_eq_ok hderef).1.symm.trans (hs.write hop))
  exact finishPayload_spec hi (.inl hp) h

/-- What a completed `writev` leaves. -/
theorem completeWritev_spec (h : L.completeWritev cqe.index slot cqe = disp) :
    Disposition.Spec k slot env cqe L disp := by
  unfold completeWritev at h
  split at h
  · cases h
    exact finish_spec (.refl _ _ _) rfl
  · next p hp =>
    cases h
    obtain ⟨hw, hring⟩ := dropPayload_within hi (keeps_payload hs hp)
    exact finish_spec hw hring

/-- What a completed `send` leaves. -/
theorem completeSend_spec (h : L.completeSend cqe.index slot cqe = .ok disp) :
    Disposition.Spec k slot env cqe L disp := by
  unfold completeSend at h
  split at h
  · cases h
    exact finish_spec (.refl _ _ _) rfl
  · obtain ⟨⟨p, payload⟩, hderef, h⟩ := bind_eq_ok.mp h
    exact finishPayload_spec hi (keeps_payload hs (deref_eq_ok hderef).1) h

/-- What a completed `accept` leaves. -/
theorem completeAccept_spec (hop : slot.opcode = .accept)
    (h : L.completeAccept cqe.index slot k env cqe = disp) :
    Disposition.Spec k slot env cqe L disp := by
  unfold completeAccept at h
  split at h
  · cases h
    exact finish_spec (.refl _ _ _) rfl
  · next s hsock =>
    split at h
    · next hgc =>
      cases h
      have hgc' : env.gcNew = false := by simpa using hgc
      unfold freeSockaddr
      split
      · exact ⟨{ (Keeps.refl L).frame with }, rfl, rfl, rfl, rfl, hop, by rw [hsock]; rfl, hgc',
          rfl, fun _ _ => rfl⟩
      · next a ha =>
        cases hs.sockaddr a ha
        have hframe : Frame k L { L with err := false } := { (Keeps.refl L).frame with }
        exact ⟨hframe.trans (frame_release rfl), rfl, rfl, rfl, rfl, hop, by rw [hsock]; rfl, hgc',
          rfl, fun o ho => release_released_ne (ho _)⟩
    · cases h
      have hconn : Within k cqe.index L { L with
          sockets := Function.update L.sockets (.accepted k (L.accepted k))
            ⟨cqe.res, (L.sockets s).domain, slot.addr, false⟩
          accepted := Function.update L.accepted k (L.accepted k + 1) } := by
        refine Frame.within
          { (Keeps.refl L).frame with accepted := fun j => ?_, domain := fun t ht => ?_ }
          rfl rfl rfl
        · by_cases hj : j = k
          · subst hj
            simp
          · simp [hj]
        · have hne : t ≠ .accepted k (L.accepted k) := by
            rintro rfl
            exact lt_irrefl _ ht
          simp [hne]
      refine finish_spec (hconn.trans (within_modifySlot hi
        (fun s => { s with buffer_payload := none }) fun _ => ⟨rfl, rfl, .inr ?_⟩)) ?_
      · rfl
      · exact modifySlot_ring _ _ _

/-- What a completed `recv` leaves. -/
theorem completeRecv_spec (h : L.completeRecv cqe.index slot cqe = .ok disp) :
    Disposition.Spec k slot env cqe L disp := by
  unfold completeRecv at h
  split at h
  · cases h
    exact finish_spec (.refl _ _ _) rfl
  · obtain ⟨⟨p, payload⟩, hderef, h⟩ := bind_eq_ok.mp h
    have hp := keeps_payload hs (deref_eq_ok hderef).1
    simp only at h
    split at h
    · exact finishPayload_spec hi hp h
    · split at h
      · obtain ⟨linear, -, h⟩ := bind_eq_ok.mp h
        exact finishPayload_spec hi hp h
      · exact finishPayload_spec hi hp h

/-- What a completed `recvmsg` leaves. -/
theorem completeRecvmsg_spec (hop : slot.opcode = .recvmsg) (hres : 0 ≤ cqe.res)
    (h : L.completeRecvmsg cqe.index slot env cqe = .ok disp) :
    Disposition.Spec k slot env cqe L disp := by
  obtain ⟨⟨p, payload⟩, hderef, h⟩ := bind_eq_ok.mp h
  obtain ⟨L₁, hrel, h⟩ := bind_eq_ok.mp h
  have hp := keeps_payload hs (deref_eq_ok hderef).1
  obtain ⟨hk, hring, hreg⟩ := releaseFixed_keeps hrel
  have hw : Within k cqe.index L L₁ := hk.frame.within hreg hk.futures hk.calls
  have hp₁ : p = .own k ∨ false = false ∧ (L₁.payloads p).mode ≠ .NORMAL_BUF := by
    rwa [(hk.payloads p).mode]
  simp only at h
  split at h
  · next hstream =>
    obtain ⟨linear, -, h⟩ := bind_eq_ok.mp h
    simp only at h
    have hclear : Within k cqe.index L₁ { L₁ with err := L₁.err && (env.recvmsgOut (linear.buffer +
        (cqe.flags >>> IORING_CQE_BUFFER_SHIFT) * linear.len)).isSome } :=
      Frame.within { (Keeps.refl L₁).frame with } rfl rfl rfl
    split at h
    · cases h
      exact finish_spec (hw.trans hclear) hring
    · next hmore =>
      split at h
      · cases h
      · next s hsock =>
        cases h
        have hagain : ∀ ring, Within k cqe.index L₁ { L₁ with
            ring := ring
            err := L₁.err && (env.recvmsgOut (linear.buffer +
              (cqe.flags >>> IORING_CQE_BUFFER_SHIFT) * linear.len)).isSome } := fun ring =>
          Frame.within { (Keeps.refl L₁).frame with } rfl rfl rfl
        refine ⟨hw.trans (hagain _), .inr ⟨?_, (L₁.sockets s).sock_fd, payload.bgid, slot.msghdr,
          ?_, ?_⟩⟩
        · simp [resubmits, hop, hstream, hres, hmore]
        · rw [← hring]
        · rw [← hring]
  · split at h
    · obtain ⟨linear, -, h⟩ := bind_eq_ok.mp h
      cases h
      obtain ⟨haddr, haddrring⟩ : Within k cqe.index L₁ (L₁.freeSockaddr slot.addr) ∧ _ :=
        freeSockaddr_within hs
      have hslot : Within k cqe.index (L₁.freeSockaddr slot.addr)
          ((L₁.freeSockaddr slot.addr).modifySlot cqe.index fun s => { s with addr := none }) :=
        within_modifySlot hi (fun s => { s with addr := none }) fun _ => ⟨rfl, rfl, .inl rfl⟩
      have hall := haddr.trans hslot
      obtain ⟨released, hfree, -⟩ := freeSockaddr_eq L₁ slot.addr
      obtain ⟨hw', hring'⟩ := dropPayload_within (k := k) (p := p) (f := false)
        (L := (L₁.freeSockaddr slot.addr).modifySlot cqe.index fun s => { s with addr := none }) hi
        (by rw [hfree]; exact hp₁)
      refine finish_spec ((hw.trans hall).trans hw') ?_
      rw [hring', modifySlot_ring, haddrring, hring]
    · obtain ⟨vec, -, h⟩ := bind_eq_ok.mp h
      cases h
      obtain ⟨hw', hring'⟩ := dropPayload_within hi hp₁
      exact finish_spec (hw.trans hw') (hring'.trans hring)

/-- **What the switch can do.** -/
theorem complete_spec (hres : 0 ≤ cqe.res ∨ slot.opcode = .timeout)
    (h : L.complete cqe.index slot k env cqe = .ok disp) :
    Disposition.Spec k slot env cqe L disp := by
  unfold complete at h
  split at h
  · exact completeRead_spec hi hs h
  · exact completeReadv_spec hi hs h
  · next hop => exact completeWrite_spec hi hs hop h
  · exact completeWritev_spec hi hs (Except.ok.inj h)
  · cases h
    unfold completeOpenat2
    split
    · exact finish_spec (.refl _ _ _) rfl
    · exact finish_spec (within_files _) rfl
  · cases h
    unfold completeSocket
    split
    · exact finish_spec (.refl _ _ _) rfl
    · exact finish_spec (within_sockets _ (domain_update _ _ rfl)) rfl
  · cases h
    exact finish_spec (.refl _ _ _) rfl
  · cases h
    exact finish_spec (.refl _ _ _) rfl
  · cases h
    exact finish_spec (.refl _ _ _) rfl
  · next hop => exact completeAccept_spec hi hs hop (Except.ok.inj h)
  · exact completeRecv_spec hi hs h
  · next hop =>
    refine completeRecvmsg_spec hi hs hop (hres.resolve_right fun ht => ?_) h
    rw [hop] at ht
    cases ht
  · exact completeSend_spec hi hs h
  · exact completeSend_spec hi hs h
  · exact completeClose_spec (Except.ok.inj h)
  · cases h
    exact finish_spec (.refl _ _ _) rfl
  · cases h
    exact finish_spec (.refl _ _ _) rfl

end Complete

end Loop

/-! ## The reader -/

variable {k : ℕ} {L L' : Loop} {slot : RequestSlot} {env : ReadEnv} {cqe : Cqe} {r : Read}

/-- The completion of an `accept` for which no socket could be allocated: the request stays. -/
structure Left (L : Loop) (k : ℕ) (slot : RequestSlot) (env : ReadEnv) (cqe : Cqe) (r : Read) :
    Prop where
  /-- Of the objects, only those of the call have changed. -/
  frame : Frame k L r.loop
  /-- The registry is as it was. -/
  registry : r.loop.registry = L.registry
  /-- The ring is as it was. -/
  ring : r.loop.ring = L.ring
  /-- No call was made. -/
  calls : r.loop.calls = L.calls
  /-- The payloads are as they were. -/
  payloads : r.loop.payloads = L.payloads
  /-- Nothing but an address block was released. -/
  released : ∀ h, (∀ a, h ≠ .sockaddr a) → r.loop.released h = L.released h
  /-- Nothing was resolved. -/
  call : r.call = none
  /-- Nothing was submitted. -/
  consumed : r.consumed = []
  /-- The completion is no error. -/
  res : 0 ≤ cqe.res
  /-- The request is an accept. -/
  accept : slot.opcode = .accept
  /-- Its slot has a socket. -/
  socket : slot.socket.isSome = true
  /-- There was no memory for the connection. -/
  gcNew : env.gcNew = false

/-- The request of the slot was finished: its slot is free again, the others are as before, and
the queue has changed only if a receiver was submitted again. -/
structure Finished (L : Loop) (k : ℕ) (slot : RequestSlot) (cqe : Cqe) (r : Read) : Prop where
  /-- Of the objects, only those of the call have changed. -/
  frame : Frame k L r.loop
  /-- No call was made. -/
  calls : r.loop.calls = L.calls
  /-- The registry is consistent. -/
  consistent : r.loop.registry.Consistent
  /-- The slot is free. -/
  dead : ¬ r.loop.registry.Live cqe.index
  /-- The other slots are as they were. -/
  others : ∀ j, j ≠ cqe.index → registryGet r.loop.registry j = registryGet L.registry j
  /-- The queue is as it was, or the receiver was submitted again. -/
  ring : (r.consumed = [] ∧ r.loop.ring = L.ring) ∨
    resubmits slot cqe = true ∧ L.ring.free ≠ 0 ∧ ∃ added, Adds L.ring r.consumed r.loop.ring added
  /-- No other future was resolved. -/
  call : ∀ f o, r.call = some (f, o) → f = k

/-- An entry whose slot is not in use is dropped. -/
theorem readCqe_of_not_live (h : ¬ L.registry.Live cqe.index) :
    readCqe L env cqe = .ok ⟨L, none, [], false⟩ := by
  rw [readCqe]
  cases hget : registryGet L.registry cqe.index with
  | none => rfl
  | some slot =>
    cases hf : slot.future with
    | none => simp only [readSlot, hf]
    | some f =>
      have hsome : slot.future.isSome = true := by rw [hf, Option.isSome_some]
      exact absurd ⟨slot, hget, hsome⟩ h

/-- The tag of the wakeup read is the index `-1`. -/
theorem toInt_WAKEUP_FD_TAG : CInt.toInt WAKEUP_FD_TAG = -1 := by
  simp [WAKEUP_FD_TAG, CInt.toInt, Int.bmod]

/-- A slot that is in use is not the one of the wakeup tag. -/
theorem user_data_ne_of_live (h : L.registry.Live cqe.index) : cqe.user_data ≠ WAKEUP_FD_TAG := by
  intro htag
  have hr := h.inRange.1
  rw [Cqe.index, htag, toInt_WAKEUP_FD_TAG] at hr
  omega

/-- Up to the removal the registry is consistent, and the same slots are in use. -/
theorem consistent_of_within {L₁ : Loop} (hcons : L.registry.Consistent)
    (hlive : L.registry.Live cqe.index) (hw : Within k cqe.index L L₁) :
    L₁.registry.Consistent ∧ L₁.registry.Live cqe.index := by
  obtain ⟨slot, hget, hsome⟩ := hlive
  obtain ⟨slot', hget', hfut, -, -⟩ := hw.slot slot hget
  have hlive' : L₁.registry.Live cqe.index := ⟨slot', hget', by rw [hfut]; exact hsome⟩
  refine ⟨⟨by rw [hw.stack]; exact hcons.nodup, fun i => ?_⟩, hlive'⟩
  have hsame : L₁.registry.Live i ↔ L.registry.Live i := by
    by_cases hi : i = cqe.index
    · rw [hi]
      exact iff_of_true hlive' ⟨slot, hget, hsome⟩
    · exact RequestRegistry.live_congr (hw.others i hi)
  rw [hsame, hw.stack, RequestRegistry.inRange_congr hw.size]
  exact hcons.mem_iff i

/-- The removal of a request that is there does not abort. -/
theorem registryRemove_isOk {index : ℤ} (hcons : L.registry.Consistent)
    (hlive : L.registry.Live index) : ∃ L', L.registryRemove index = .ok L' := by
  obtain ⟨reg, slot, -, hrem, -⟩ := registryRemove_live hcons hlive
  exact ⟨_, by rw [Loop.registryRemove, hrem]⟩

/-- The removal of a request resolves no future. -/
theorem registryRemove_futures {index : ℤ} (h : L.registryRemove index = .ok L') :
    L'.futures = L.futures ∧ L'.err = L.err := by
  unfold Loop.registryRemove at h
  split at h
  · cases h
  · next reg es hrem =>
    cases h
    have hsame := applyEffects_sameBut { L with registry := reg } es
    exact ⟨hsame.futures, hsame.err⟩

/-- The removal that ends every request. -/
theorem finished_of_within {L₁ L₂ : Loop} (hcons : L.registry.Consistent)
    (hlive : L.registry.Live cqe.index) (hget : registryGet L.registry cqe.index = some slot)
    (hs : SlotOf L k slot) (hw : Within k cqe.index L L₁) (hreg : L₂.registry = L₁.registry)
    (hring : L₂.ring = L₁.ring) (hframe : Frame k L₁ L₂) (hcalls : L₂.calls = L₁.calls)
    (h : L₂.registryRemove cqe.index = .ok L') :
    Frame k L L' ∧ L'.ring = L₁.ring ∧ L'.calls = L.calls ∧ L'.registry.Consistent ∧
      ¬ L'.registry.Live cqe.index ∧
      ∀ j, j ≠ cqe.index → registryGet L'.registry j = registryGet L.registry j := by
  obtain ⟨slot', hget', hfut, hmsg, hpay⟩ := hw.slot slot hget
  obtain ⟨hcons', hlive'⟩ := consistent_of_within hcons hlive hw
  rw [← hreg] at hcons' hlive'
  obtain ⟨reg, s, hs', hrem, hcons'', -, -, hclear, hother⟩ :=
    registryRemove_live hcons' hlive'
  rw [hreg, hget'] at hs'
  cases hs'
  have hmode : ∀ p, (L.payloads p).mode ≠ .NORMAL_BUF → p ≠ .own k →
      (L₂.payloads p).mode ≠ .NORMAL_BUF := by
    intro p hp hne
    rwa [(hframe.payloads p hne).mode, (hw.payloads p hne).mode]
  have hholds : ∀ p, slot'.buffer_payload = some p →
      p = .own k ∨ (L₂.payloads p).mode ≠ .NORMAL_BUF := by
    intro p hp
    rcases hpay with hpay | hpay
    · rw [hpay] at hp
      rcases hs.payload p hp with hown | ⟨⟨n, rfl⟩, hm⟩
      · exact .inl hown
      · exact .inr (hmode _ hm (by simp))
    · rw [hpay] at hp
      cases hp
  obtain ⟨hf, hr, hrg, hc, -⟩ :=
    registryRemove_frame (k := k) hrem hholds (fun m hm => hs.msghdr m (hmsg ▸ hm)) h
  refine ⟨(hw.toFrame.trans hframe).trans hf, hr.trans hring, (hc.trans hcalls).trans hw.calls_eq,
    hrg ▸ hcons'', ?_, fun j hj => ?_⟩
  · rw [hrg]
    rintro ⟨t, ht, hft⟩
    rw [hclear] at ht
    cases ht
    exact absurd hft (by simp [RequestSlot.clear])
  · rw [hrg, hother j hj, hreg, hw.others j hj]

/-- `set_result` or `set_exception` on the request's own future. -/
theorem resolve_frame (L : Loop) (k : ℕ) (o : Outcome) :
    Frame k L (L.resolve k o) ∧ (L.resolve k o).registry = L.registry ∧
      (L.resolve k o).ring = L.ring ∧ (L.resolve k o).calls = L.calls := by
  unfold resolve
  split
  · exact ⟨{ (Keeps.refl L).frame with futures := fun j hj => by simp [hj] }, rfl, rfl, rfl⟩
  · exact ⟨{ (Keeps.refl L).frame with }, rfl, rfl, rfl⟩

/-- Resolving a future changes neither the registry nor the payloads. -/
theorem resolve_eq (L : Loop) (k : ℕ) (o : Outcome) :
    (L.resolve k o).registry = L.registry ∧ (L.resolve k o).released = L.released ∧
      (L.resolve k o).payloads = L.payloads := by
  unfold resolve
  split <;> exact ⟨rfl, rfl, rfl⟩

/-- Setting a result changes the future alone. -/
theorem setResult_frame (L : Loop) (k : ℕ) (result : Option Outcome) :
    Frame k L (L.setResult k result) ∧ (L.setResult k result).registry = L.registry ∧
      (L.setResult k result).ring = L.ring ∧ (L.setResult k result).calls = L.calls := by
  cases result with
  | none => exact ⟨(Keeps.refl L).frame, rfl, rfl, rfl⟩
  | some o => exact resolve_frame L k o

/-- Setting an exception changes the future alone. -/
theorem setException_frame (L : Loop) (k : ℕ) (cqe : Cqe) :
    Frame k L (L.setException k cqe).1 ∧ (L.setException k cqe).1.registry = L.registry ∧
      (L.setException k cqe).1.ring = L.ring ∧ (L.setException k cqe).1.calls = L.calls ∧
      ∀ f o, (L.setException k cqe).2 = some (f, o) → f = k := by
  unfold setException
  split
  · exact ⟨{ (Keeps.refl L).frame with }, rfl, rfl, rfl, fun _ _ h => by cases h⟩
  · obtain ⟨h₁, h₂, h₃, h₄⟩ := resolve_frame L k (.osError (-cqe.res))
    exact ⟨h₁, h₂, h₃, h₄, fun _ _ h => by cases h; rfl⟩

/-- The queue after a receiver was submitted again: nothing has changed if it was full. -/
theorem resubmission_cases (ring : Ring) (idx sock_fd bgid : ℤ) (msghdr : Option MsghdrRef)
    (r : ℤ) :
    let again := uringioRecvmsgMultishot ring idx sock_fd bgid false msghdr .zero r
    (again.consumed = [] ∧ again.ring = ring) ∨
      ring.free ≠ 0 ∧ ∃ added, Adds ring again.consumed again.ring added := by
  intro again
  have hsub : again.Submits ring _ := submitRequest_submits ring idx _ (selectBuffer bgid) true
    .zero r fun e => ⟨rfl, fun h => (by cases h)⟩
  obtain ⟨added, hadds, -⟩ := hsub
  by_cases hfree : ring.free = 0
  · left
    have hget : getSqe ring = none := getSqe_eq_none.mpr hfree
    have hagain : again = .abandoned (-1) ring := by
      simp only [again, uringioRecvmsgMultishot, submitRequest, submitOp, sqeWithOptionalTimeout,
        createSqe, hget]
    rw [hagain]
    exact ⟨rfl, rfl⟩
  · exact .inr ⟨hfree, added, hadds⟩

/-- **What the reader can do** with a completion whose slot is in use. -/
theorem readCqe_cases (hcons : L.registry.Consistent)
    (hget : registryGet L.registry cqe.index = some slot) (hs : SlotOf L k slot)
    (h : readCqe L env cqe = .ok r) : Left L k slot env cqe r ∨ Finished L k slot cqe r := by
  have hsome : slot.future.isSome = true := by rw [hs.future, Option.isSome_some]
  have hlive : L.registry.Live cqe.index := ⟨slot, hget, hsome⟩
  have hi : 0 ≤ cqe.index := hlive.inRange.1
  rw [readCqe, hget] at h
  simp only [readSlot, hs.future] at h
  split at h
  · -- The error branch.
    obtain ⟨hf, hreg, hring, hcalls, hcall⟩ := setException_frame L k cqe
    unfold raise at h
    obtain ⟨L', hrem, h⟩ := bind_eq_ok.mp h
    cases h
    obtain ⟨hframe, hring', hcalls', hcons', hdead, hothers⟩ :=
      finished_of_within hcons hlive hget hs (.refl k _ L) hreg hring hf hcalls hrem
    exact .inr ⟨hframe, hcalls', hcons', hdead, hothers, .inl ⟨rfl, hring'⟩, hcall⟩
  · next herror =>
    rw [if_neg (user_data_ne_of_live hlive)] at h
    obtain ⟨disp, hcomp, h⟩ := bind_eq_ok.mp h
    have hres : 0 ≤ cqe.res ∨ slot.opcode = .timeout := by
      by_cases hneg : cqe.res < 0
      · have hexp : timeoutExpired slot cqe = true := by simpa [hneg] using herror
        simp only [timeoutExpired, decide_eq_true_eq] at hexp
        exact .inr hexp.1
      · exact .inl (by omega)
    have hspec := complete_spec hi hs hres hcomp
    cases disp with
    | leave L' =>
      cases h
      obtain ⟨hf, hreg, hcalls, -, hring, hop, hsock, hgc, hpay, hrel⟩ := hspec
      have hres' : 0 ≤ cqe.res := hres.resolve_right fun ht => by
        rw [hop] at ht
        cases ht
      exact .inl ⟨hf, hreg, hring, hcalls, hpay, hrel, rfl, rfl, hres', hop, hsock, hgc⟩
    | finish L₁ result consumed =>
      obtain ⟨L', hrem, h⟩ := bind_eq_ok.mp h
      cases h
      obtain ⟨hw, hq⟩ := hspec
      obtain ⟨hf, hreg, hring, hcalls⟩ := setResult_frame L₁ k result
      obtain ⟨hframe, hring', hcalls', hcons', hdead, hothers⟩ :=
        finished_of_within hcons hlive hget hs hw hreg hring hf hcalls hrem
      refine .inr ⟨hframe, hcalls', hcons', hdead, hothers, ?_, fun f o hfo => ?_⟩
      · rcases hq with ⟨hc, hr⟩ | ⟨hresub, sock_fd, bgid, msghdr, hc, hr⟩
        · exact .inl ⟨hc, hring'.trans hr⟩
        · rcases resubmission_cases L.ring cqe.index sock_fd bgid msghdr env.submitted with
            ⟨hc', hr'⟩ | ⟨hfree, added, hadds⟩
          · exact .inl ⟨hc.trans hc', (hring'.trans hr).trans hr'⟩
          · refine .inr ⟨hresub, hfree, added, ?_⟩
            rw [hring', hr, show consumed = _ from hc]
            exact hadds
      · simp only [Option.map_eq_some_iff, Prod.mk.injEq] at hfo
        obtain ⟨_, _, rfl, _⟩ := hfo
        rfl

end Uringio
