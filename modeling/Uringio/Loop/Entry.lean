import Uringio.Loop.Call
import Uringio.Loop.Frame
import Uringio.Ring.Kernel
import Uringio.Ring.Submission

/-!
# The entry that a dispatcher submits

Whatever function of the ops layer a dispatcher chooses, the entry that it adds first carries the
request's tag, and where the kernel puts the bytes of a receiving operation is where the reader
will look for them (`Entry`). That holds as long as the payload itself names the memory, which it
does in the modes `NORMAL_BUF` and `FIXED`.
-/

namespace Uringio

open Memory (Region)

/-- The bytes go to the front of the first linear buffer. -/
def BufferPayload.LandsLinear (payload : BufferPayload) (dest : List Region) : Prop :=
  ∃ b bs n, payload.linear = some (b :: bs) ∧ dest = [⟨b.buffer, n⟩]

/-- The bytes go to the regions of the vector. -/
def BufferPayload.LandsVector (payload : BufferPayload) (dest : List Region) : Prop :=
  ∃ v, payload.vector = some v ∧ dest = v.regions

/-- The bytes of an operation go to where the reader takes them from. -/
def Lands (opcode : Opcode) (payload : Option BufferPayload) (dest : List Region) : Prop :=
  match opcode with
  | .read | .recv => ∃ p, payload = some p ∧ p.LandsLinear dest
  | .readv => ∃ p, payload = some p ∧ p.LandsVector dest
  | .recvmsg => ∃ p, payload = some p ∧
      if p.payload_type = .PAYLOAD_LINEAR then p.LandsLinear dest else p.LandsVector dest
  | _ => dest = []

/-- The payload, if there is one, names the memory of its operation. -/
def Direct (payload : Option BufferPayload) : Prop :=
  ∀ b, payload = some b → b.mode = .NORMAL_BUF ∨ b.mode = .FIXED

/-- What holds of the entry of an operation. -/
structure Entry (stream : StreamStrategy) (transfer_mode : TransferMode) (opcode : Opcode)
    (payload : Option BufferPayload) (request_idx : ℤ) (e : Sqe) : Prop where
  /-- The tag is the index of the request. -/
  user_data : e.user_data = CInt.toU64 request_idx
  /-- In a one-shot context, there is one completion. -/
  oneshot : stream = .ONESHOT → e.multishot = false
  /-- In the normal transfer, there is no notification. -/
  copied : transfer_mode = .NORMAL_TRANSFER → e.zeroCopy = false
  /-- A payload that names its memory is where the bytes land. -/
  lands : Direct payload → e.selectsBuffer = false ∧ Lands opcode payload e.destination

variable {stream : StreamStrategy} {transfer_mode : TransferMode} {opcode : Opcode}
  {payload : Option BufferPayload} {request_idx : ℤ} {e : Sqe} {call : PrepCall} {select : Bool}

/-- An entry is as the helper call that filled it. -/
theorem Tagged.entry (h : Tagged request_idx call select e)
    (hone : stream = .ONESHOT → call.multishot = false)
    (hcopy : transfer_mode = .NORMAL_TRANSFER → call.zeroCopy = false)
    (hlands : Direct payload → select = false ∧ call.selectsBuffer = false ∧
      Lands opcode payload call.destination) :
    Entry stream transfer_mode opcode payload request_idx e where
  user_data := h.user_data
  oneshot hs := by simpa [Sqe.multishot, h.prep] using hone hs
  copied ht := by simpa [Sqe.zeroCopy, h.prep] using hcopy ht
  lands hd := by
    obtain ⟨hsel, hcall, hl⟩ := hlands hd
    refine ⟨?_, by simpa [Sqe.destination, h.prep] using hl⟩
    rcases h.selects hsel with hf | hf <;> simp [Sqe.selectsBuffer, h.prep, hf, hcall]
    decide

namespace Loop

variable {L L₁ : Loop} {d : Dispatched} {P Q : Sqe → Prop} {s : Submission}

/-- What a dispatcher may do: it keeps what requests depend on, and submits from the loop's ring. -/
structure Dispatches (L : Loop) (d : Dispatched) (P : Sqe → Prop) : Prop where
  /-- Only indices of pools and counts of references have changed. -/
  keeps : Keeps L d.loop
  /-- The registry is as it was. -/
  registry : d.loop.registry = L.registry
  /-- The ring is that of the submission. -/
  ring : d.loop.ring = d.submission.ring
  /-- The submission is of an entry with the property. -/
  submits : d.submission.Submits L.ring P

/-- What a dispatcher submits is what the submission says. -/
theorem dispatched_spec (hk : Keeps L L₁) (hring : L₁.ring = L.ring)
    (hreg : L₁.registry = L.registry) (hs : s.Submits L₁.ring P) :
    Dispatches L (L₁.dispatched s) P where
  keeps := hk.trans (keeps_with L₁ s.ring L₁.registry L₁.refs)
  registry := hreg
  ring := rfl
  submits := hring ▸ hs

/-- A dispatcher that calls one function on the loop's ring. -/
theorem dispatched_spec_self (hs : s.Submits L.ring P) : Dispatches L (L.dispatched s) P :=
  dispatched_spec (.refl L) rfl rfl hs

/-- An index that is taken from a pool. -/
theorem acquireIdx_keeps {p : PayloadRef} {buf_idx : ℤ}
    (h : L.acquireIdx p = .ok (buf_idx, L₁)) :
    Keeps L L₁ ∧ L₁.ring = L.ring ∧ L₁.registry = L.registry := by
  unfold acquireIdx at h
  split at h
  · cases h
  · next reg hreg =>
    cases h
    exact ⟨keeps_setPayload ⟨rfl, by simp [hreg]⟩, rfl, rfl⟩

end Loop

namespace Loop

variable {L : Loop} {d : Dispatched} {fd : ℤ} {p : PayloadRef} {size offset : ℤ}
  {nowait is_poll_first : Bool} {timeout_params : TimeoutParams} {r : ℤ} {request_idx : ℤ}
  {stream : StreamStrategy} {transfer_mode : TransferMode} {opcode : Opcode}
  {payload : Option BufferPayload} {call : PrepCall}

/-- A payload whose mode is one of the provided ones does not name its memory. -/
theorem not_direct (h : (L.payloads p).mode = .PROVIDED ∨ (L.payloads p).mode = .BUF_RING) :
    ¬ Direct (some (L.payloads p)) := by
  intro hd
  have := hd _ rfl
  rcases h with h | h <;> simp [h] at this

/-- A dispatcher that calls a function of the ops layer which adds no flags to its entry. -/
theorem request_spec {L₁ : Loop} (hk : Keeps L L₁) (hring : L₁.ring = L.ring)
    (hreg : L₁.registry = L.registry) {set : Sqe → Sqe}
    (hset : ∀ e, (set e).prep = e.prep ∧ (set e).flags = e.flags)
    (hone : stream = .ONESHOT → call.multishot = false)
    (hcopy : transfer_mode = .NORMAL_TRANSFER → call.zeroCopy = false)
    (hlands : Direct payload → call.selectsBuffer = false ∧ Lands opcode payload call.destination) :
    Dispatches L (L₁.dispatched (submitRequest L₁.ring request_idx call set timeout_params r))
      (Entry stream transfer_mode opcode payload request_idx) :=
  dispatched_spec hk hring hreg <|
    (submitRequest_submits _ _ _ set false _ _ fun e => ⟨(hset e).1, fun _ => (hset e).2⟩).mono
      fun _ he => he.entry hone hcopy fun hd => ⟨rfl, hlands hd⟩

/-- The same on the loop itself, with nothing set after the helper call. -/
theorem request_spec_self (hone : stream = .ONESHOT → call.multishot = false)
    (hcopy : transfer_mode = .NORMAL_TRANSFER → call.zeroCopy = false)
    (hlands : Direct payload → call.selectsBuffer = false ∧ Lands opcode payload call.destination) :
    Dispatches L (L.dispatched (submitRequest L.ring request_idx call id timeout_params r))
      (Entry stream transfer_mode opcode payload request_idx) :=
  request_spec (.refl L) rfl rfl (fun _ => ⟨rfl, rfl⟩) hone hcopy hlands

/-- A dispatcher that calls a function which selects a buffer. -/
theorem select_spec (hnot : ¬ Direct payload) {set : Sqe → Sqe} (hset : ∀ e, (set e).prep = e.prep)
    (hone : stream = .ONESHOT → call.multishot = false)
    (hcopy : transfer_mode = .NORMAL_TRANSFER → call.zeroCopy = false) :
    Dispatches L (L.dispatched (submitRequest L.ring request_idx call set timeout_params r))
      (Entry stream transfer_mode opcode payload request_idx) :=
  dispatched_spec_self <|
    (submitRequest_submits _ _ _ set true _ _ fun e => ⟨hset e, fun h => (by cases h)⟩).mono
      fun _ he => he.entry hone hcopy fun hd => absurd hd hnot

/-! ## The dispatchers -/

/-- The entry of `read`. -/
theorem readDispatcher_spec
    (h : L.readDispatcher fd p stream request_idx size offset timeout_params r = .ok d) :
    Dispatches L d (Entry stream transfer_mode .read (some (L.payloads p)) request_idx) := by
  unfold readDispatcher at h
  cases hmode : (L.payloads p).mode with
  | FIXED =>
    simp only [hmode] at h
    obtain ⟨⟨buf_idx, L₁⟩, hacq, h⟩ := bind_eq_ok.mp h
    obtain ⟨b, hb, h⟩ := bind_eq_ok.mp h
    obtain ⟨bs, hbs⟩ := BufferPayload.firstLinear_eq_ok.mp hb
    obtain ⟨hk, hring, hreg⟩ := acquireIdx_keeps hacq
    cases h
    exact request_spec hk hring hreg (fun _ => ⟨rfl, rfl⟩) (fun _ => rfl) (fun _ => rfl)
      fun _ => ⟨rfl, _, rfl, b, bs, _, hbs, rfl⟩
  | PROVIDED | BUF_RING =>
    have hnot : ¬ Direct (some (L.payloads p)) := not_direct (by simp [hmode])
    simp only [hmode] at h
    split at h
    · next hs =>
      cases h
      exact request_spec_self (fun h' => by simp [hs] at h') (fun _ => rfl)
        fun hd => absurd hd hnot
    · cases h
      exact select_spec hnot (fun _ => rfl) (fun _ => rfl) (fun _ => rfl)
  | NORMAL_BUF =>
    simp only [hmode] at h
    obtain ⟨b, hb, h⟩ := bind_eq_ok.mp h
    obtain ⟨bs, hbs⟩ := BufferPayload.firstLinear_eq_ok.mp hb
    cases h
    exact request_spec_self (fun _ => rfl) (fun _ => rfl)
      fun _ => ⟨rfl, _, rfl, b, bs, _, hbs, rfl⟩

/-- The entry of `readv`. -/
theorem readvDispatcher_spec
    (h : L.readvDispatcher fd p request_idx offset nowait timeout_params r = .ok d) :
    Dispatches L d (Entry stream transfer_mode .readv (some (L.payloads p)) request_idx) := by
  unfold readvDispatcher at h
  cases hmode : (L.payloads p).mode with
  | PROVIDED | BUF_RING =>
    have hnot : ¬ Direct (some (L.payloads p)) := not_direct (by simp [hmode])
    simp only [hmode] at h
    obtain ⟨b, -, h⟩ := bind_eq_ok.mp h
    cases h
    exact select_spec hnot (fun _ => rfl) (fun _ => rfl) (fun _ => rfl)
  | FIXED | NORMAL_BUF =>
    simp only [hmode] at h
    obtain ⟨v, hv, h⟩ := bind_eq_ok.mp h
    cases h
    exact request_spec_self (fun _ => rfl) (fun _ => rfl)
      fun _ => ⟨rfl, _, rfl, v, BufferPayload.derefVector_eq_ok.mp hv, rfl⟩

/-- The entry of `write`. -/
theorem writeDispatcher_spec
    (h : L.writeDispatcher fd p request_idx offset timeout_params r = .ok d) :
    Dispatches L d (Entry stream transfer_mode .write (some (L.payloads p)) request_idx) := by
  unfold writeDispatcher at h
  obtain ⟨b, hb, h⟩ := bind_eq_ok.mp h
  cases hmode : (L.payloads p).mode with
  | FIXED =>
    simp only [hmode] at h
    obtain ⟨⟨buf_idx, L₁⟩, hacq, h⟩ := bind_eq_ok.mp h
    obtain ⟨hk, hring, hreg⟩ := acquireIdx_keeps hacq
    cases h
    exact request_spec hk hring hreg (fun _ => ⟨rfl, rfl⟩) (fun _ => rfl) (fun _ => rfl)
      fun _ => ⟨rfl, rfl⟩
  | PROVIDED | BUF_RING | NORMAL_BUF =>
    simp only [hmode] at h
    cases h
    exact request_spec_self (fun _ => rfl) (fun _ => rfl) fun _ => ⟨rfl, rfl⟩

/-- The entry of `accept`. -/
theorem acceptDispatcher_spec (addr len : ℕ) :
    Dispatches L (L.acceptDispatcher fd stream request_idx addr len timeout_params r)
      (Entry stream transfer_mode .accept none request_idx) := by
  unfold acceptDispatcher
  cases stream with
  | MULTISHOT =>
    exact request_spec_self (fun h => by cases h) (fun _ => rfl) fun _ => ⟨rfl, rfl⟩
  | ONESHOT => exact request_spec_self (fun _ => rfl) (fun _ => rfl) fun _ => ⟨rfl, rfl⟩

/-- The entry of `recv`. -/
theorem recvDispatcher_spec
    (h : L.recvDispatcher fd p stream request_idx is_poll_first timeout_params r = .ok d) :
    Dispatches L d (Entry stream transfer_mode .recv (some (L.payloads p)) request_idx) := by
  unfold recvDispatcher at h
  obtain ⟨b, hb, h⟩ := bind_eq_ok.mp h
  obtain ⟨bs, hbs⟩ := BufferPayload.firstLinear_eq_ok.mp hb
  cases hmode : (L.payloads p).mode with
  | PROVIDED | BUF_RING =>
    have hnot : ¬ Direct (some (L.payloads p)) := not_direct (by simp [hmode])
    simp only [hmode] at h
    split at h
    · next hs =>
      cases h
      exact select_spec hnot (fun _ => rfl) (fun h' => by simp [hs] at h') (fun _ => rfl)
    · cases h
      exact select_spec hnot (fun _ => rfl) (fun _ => rfl) (fun _ => rfl)
  | FIXED | NORMAL_BUF =>
    simp only [hmode] at h
    cases h
    exact request_spec_self (fun _ => rfl) (fun _ => rfl)
      fun _ => ⟨rfl, _, rfl, b, bs, _, hbs, rfl⟩

/-- The receiver of a message gets a payload of vectors. -/
theorem recvmsgDispatcher_spec {msghdr : Option MsghdrRef}
    (htype : (L.payloads p).payload_type = .PAYLOAD_IOVEC)
    (h : L.recvmsgDispatcher fd p stream request_idx is_poll_first msghdr timeout_params r =
      .ok d) :
    Dispatches L d (Entry stream transfer_mode .recvmsg (some (L.payloads p)) request_idx) := by
  unfold recvmsgDispatcher at h
  cases hmode : (L.payloads p).mode with
  | PROVIDED | BUF_RING =>
    have hnot : ¬ Direct (some (L.payloads p)) := not_direct (by simp [hmode])
    simp only [hmode] at h
    split at h
    · next hs =>
      cases h
      exact select_spec hnot (fun _ => rfl) (fun h' => by simp [hs] at h') (fun _ => rfl)
    · cases h
      exact select_spec hnot (fun _ => rfl) (fun _ => rfl) (fun _ => rfl)
  | FIXED | NORMAL_BUF =>
    simp only [hmode] at h
    obtain ⟨v, hv, h⟩ := bind_eq_ok.mp h
    cases h
    refine request_spec_self (fun _ => rfl) (fun _ => rfl) fun _ => ⟨rfl, _, rfl, ?_⟩
    rw [if_neg (by simp [htype])]
    exact ⟨v, BufferPayload.derefVector_eq_ok.mp hv, rfl⟩

/-- The entry of `send`. -/
theorem sendDispatcher_spec
    (h : L.sendDispatcher fd p transfer_mode request_idx is_poll_first timeout_params r = .ok d) :
    Dispatches L d (Entry stream transfer_mode .send (some (L.payloads p)) request_idx) := by
  unfold sendDispatcher at h
  obtain ⟨b, -, h⟩ := bind_eq_ok.mp h
  cases transfer_mode with
  | ZERO_COPY =>
    simp only at h
    split at h
    · obtain ⟨⟨buf_idx, L₁⟩, hacq, h⟩ := bind_eq_ok.mp h
      obtain ⟨hk, hring, hreg⟩ := acquireIdx_keeps hacq
      cases h
      exact request_spec hk hring hreg (fun _ => ⟨rfl, rfl⟩) (fun _ => rfl) (fun h => by cases h)
        fun _ => ⟨rfl, rfl⟩
    · cases h
      exact request_spec_self (fun _ => rfl) (fun h => by cases h) fun _ => ⟨rfl, rfl⟩
  | NORMAL_TRANSFER =>
    cases h
    exact request_spec_self (fun _ => rfl) (fun _ => rfl) fun _ => ⟨rfl, rfl⟩

/-- The entry of `sendmsg`. -/
theorem sendmsgDispatcher_spec {addr addrlen : ℕ}
    (h : L.sendmsgDispatcher fd p transfer_mode request_idx addr addrlen is_poll_first
      timeout_params r = .ok d) :
    Dispatches L d (Entry stream transfer_mode .sendmsg (some (L.payloads p)) request_idx) := by
  unfold sendmsgDispatcher at h
  cases transfer_mode with
  | ZERO_COPY =>
    simp only at h
    obtain ⟨⟨buf_idx, L₁⟩, hacq, h⟩ := bind_eq_ok.mp h
    obtain ⟨v, -, h⟩ := bind_eq_ok.mp h
    obtain ⟨hk, hring, hreg⟩ := acquireIdx_keeps hacq
    cases h
    exact request_spec hk hring hreg (fun _ => ⟨rfl, rfl⟩) (fun _ => rfl) (fun h => by cases h)
      fun _ => ⟨rfl, rfl⟩
  | NORMAL_TRANSFER =>
    simp only at h
    obtain ⟨v, -, h⟩ := bind_eq_ok.mp h
    cases h
    exact request_spec_self (fun _ => rfl) (fun _ => rfl) fun _ => ⟨rfl, rfl⟩

end Loop

end Uringio
