import Uringio.Loop.Shape

/-!
# When a submission succeeds

Every dispatcher ends in one submission, and this succeeds exactly when the queue has room for the
entry of the operation, and for the entry of a timeout that is required, and `io_uring_submit` does
not fail (`CanSubmit`); `prep_socket` moreover wants a domain that it supports. Beside the queue, a
dispatcher changes the pools of payloads only.
-/

namespace Uringio

open Memory (Region)

/-- There is room for the entry of an operation and for a timeout that is required, and the
submission succeeds. -/
def CanSubmit (ring : Ring) (timeout_params : TimeoutParams) (r : ℤ) : Prop :=
  0 < ring.free ∧ ¬ (ring.free = 1 ∧ timeout_params.is_required = true) ∧ 0 ≤ r

instance (ring : Ring) (timeout_params : TimeoutParams) (r : ℤ) :
    Decidable (CanSubmit ring timeout_params r) := inferInstanceAs (Decidable (_ ∧ _ ∧ _))

namespace Op

/-- The timeout of the call. -/
def timeoutParams : Op → TimeoutParams
  | .open _ _ _ _ _ tp | .read _ _ _ tp | .readv _ _ _ _ tp | .readvRaw _ _ _ _ tp
  | .write _ _ _ tp | .writev _ _ _ _ tp | .writevRaw _ _ _ _ tp | .fsync _ tp | .fdatasync _ tp
  | .splice _ _ _ _ _ _ _ tp | .closeFile _ tp | .socket _ _ tp | .bind _ tp | .connect _ tp
  | .listen _ _ tp | .accept _ tp | .closeSocket _ tp | .send _ _ _ tp | .recv _ _ _ _ tp
  | .sendto _ _ _ _ tp | .recvfrom _ _ _ _ _ tp | .sendmsg _ _ _ _ tp | .recvmsg _ _ _ tp => tp
  | .aexitFile _ | .aexitSocket _ | .timer .. => .zero

/-- The domain of the call is one that `prep_socket` supports. -/
def supported : Op → Bool
  | .socket domain _ _ => domain = AF_INET ∨ domain = AF_INET6
  | _ => true

end Op

/-- The submission of the call succeeds. -/
def Op.canSubmit (op : Op) (env : CallEnv) (ring : Ring) : Prop :=
  op.supported = true ∧ CanSubmit ring op.timeoutParams env.submitted

instance (op : Op) (env : CallEnv) (ring : Ring) : Decidable (op.canSubmit env ring) :=
  inferInstanceAs (Decidable (_ ∧ _))

/-! ## Submissions that succeed -/

variable {ring : Ring} {request_idx : ℤ} {timeout_params : TimeoutParams} {r : ℤ}

/-- A filled entry is submitted when the submission is not refused. -/
theorem fillAndSubmit_result (ring : Ring) (sqe : ℕ) (fill : Sqe → Sqe) :
    1 ≤ (fillAndSubmit ring sqe fill 0 r).result ↔ 0 ≤ r := by
  unfold fillAndSubmit
  simp only
  split <;> omega

/-- A return before the queue was submitted. -/
theorem abandoned_result_iff {P : Prop} {result : ℤ} (hres : result < 1) (hP : ¬ P) :
    1 ≤ (Submission.abandoned result ring).result ↔ P :=
  iff_of_false (not_le.mpr hres) hP

/-- A request is submitted when the ring can submit it. -/
theorem submitRequest_result (call : PrepCall) (set : Sqe → Sqe) :
    1 ≤ (submitRequest ring request_idx call set timeout_params r).result ↔
      CanSubmit ring timeout_params r := by
  unfold submitRequest submitOp CanSubmit
  rcases sqeWithOptionalTimeout_cases ring (some timeout_params) with
    ⟨hfree, hreserved⟩ | ⟨hfree, hreq, ring', e, hreserved, -⟩ |
      ⟨hfree, hroom, ring', e, link, hreserved, -⟩
  · rw [hreserved]
    exact abandoned_result_iff (by decide) fun h => by omega
  · rw [hreserved]
    exact abandoned_result_iff (by decide) fun h => h.2.1 ⟨hfree, hreq⟩
  · rw [hreserved]
    exact (fillAndSubmit_result ring' ring.tail _).trans
      ⟨fun h => ⟨hfree, hroom, h⟩, fun h => h.2.2⟩

/-- `prep_socket` submits when the domain is known and the ring can. -/
theorem prepSocket_result (domain type : ℤ) :
    1 ≤ (prepSocket ring request_idx domain type timeout_params r).result ↔
      (domain = AF_INET ∨ domain = AF_INET6) ∧ CanSubmit ring timeout_params r := by
  unfold prepSocket CanSubmit
  rcases sqeWithOptionalTimeout_cases ring (some timeout_params) with
    ⟨hfree, hreserved⟩ | ⟨hfree, hreq, ring', e, hreserved, -⟩ |
      ⟨hfree, hroom, ring', e, link, hreserved, -⟩
  · rw [hreserved]
    exact abandoned_result_iff (by decide) fun h => by omega
  · rw [hreserved]
    exact abandoned_result_iff (by decide) fun h => h.2.2.1 ⟨hfree, hreq⟩
  · rw [hreserved]
    simp only
    split
    · next hdomain =>
      exact abandoned_result_iff (by decide) fun h => hdomain h.1
    · next hdomain =>
      exact (fillAndSubmit_result ring' ring.tail _).trans
        ⟨fun h => ⟨not_not.mp hdomain, hfree, hroom, h⟩, fun h => h.2.2.2⟩

/-- `timer` submits when the ring can, without a linked timeout. -/
theorem timer_result (params : TimerParams) :
    1 ≤ (timer ring request_idx (some params) r).result ↔ CanSubmit ring .zero r := by
  unfold timer CanSubmit
  cases hget : createSqe ring with
  | none =>
    have hfree : ring.free = 0 := getSqe_eq_none.mp hget
    exact abandoned_result_iff (by decide) fun h => by omega
  | some got =>
    obtain ⟨sqe, ring'⟩ := got
    have hfree := (getSqe_eq_some hget).2.2.1
    exact (fillAndSubmit_result ring' sqe _).trans
      ⟨fun h => ⟨by omega, fun hreq => Bool.false_ne_true hreq.2, h⟩, fun h => h.2.2⟩

namespace Loop

variable {L L₁ M : Loop} {ctx : ExecutionContext} {env : CallEnv} {can : Ring → Prop}
  {d : Dispatched} {p : PayloadRef} {fd : ℤ} {stream : StreamStrategy}
  {transfer_mode : TransferMode} {is_poll_first : Bool}

/-- Only payloads were built. -/
def OnlyPayloads (L L₁ : Loop) : Prop := ∃ payloads, L₁ = { L with payloads := payloads }

/-- A linear buffer changes payloads alone. -/
theorem onlyPayloads_linear (buffers_obj : Option (List Region)) (bufsize : ℤ) :
    OnlyPayloads L (L.getOrCreateLinearBuffer ctx buffers_obj bufsize env).2 := by
  unfold getOrCreateLinearBuffer
  split
  · exact ⟨_, rfl⟩
  · split
    · exact ⟨L.payloads, rfl⟩
    · exact ⟨_, rfl⟩

/-- A vectored buffer changes payloads alone. -/
theorem onlyPayloads_vectored (buffers_obj : Option (List Region)) :
    OnlyPayloads L (L.getOrCreateVectoredBuffer ctx buffers_obj env).2 := by
  unfold getOrCreateVectoredBuffer
  split
  · exact ⟨_, rfl⟩
  · split
    · exact ⟨L.payloads, rfl⟩
    · exact ⟨_, rfl⟩

/-- The payload of `readv` changes payloads alone. -/
theorem onlyPayloads_readv (buffers_obj : Option (List Region)) :
    OnlyPayloads L (L.readvPayload ctx buffers_obj env).2 := by
  unfold Loop.readvPayload
  split
  · exact onlyPayloads_vectored buffers_obj
  · simp only
    split
    · exact ⟨L.payloads, rfl⟩
    · exact onlyPayloads_vectored buffers_obj

/-- Taking an index changes payloads alone. -/
theorem onlyPayloads_acquireIdx {buf_idx : ℤ} (h : L.acquireIdx p = .ok (buf_idx, L₁)) :
    OnlyPayloads L L₁ := by
  unfold acquireIdx at h
  split at h
  · cases h
  · cases h
    exact ⟨_, rfl⟩

/-! ## The dispatchers -/

/-- The dispatcher left the objects and the registry alone and the buffers of all payloads, and it
succeeded exactly when the queue allowed it. -/
structure Submitting (can : Ring → Prop) (M : Loop) (d : Dispatched) : Prop where
  /-- The files are as they were. -/
  files : d.loop.files = M.files
  /-- The sockets are as they were. -/
  sockets : d.loop.sockets = M.sockets
  /-- The accepted sockets are the same. -/
  accepted : d.loop.accepted = M.accepted
  /-- The registry is as it was. -/
  registry : d.loop.registry = M.registry
  /-- The counts are as they were. -/
  refs : d.loop.refs = M.refs
  /-- The payloads have the same buffers. -/
  payloads : ∀ p, (M.payloads p).SameBuffers (d.loop.payloads p)
  /-- The submission succeeds exactly if the queue allows it. -/
  result : 1 ≤ d.submission.result ↔ can M.ring

/-- A dispatcher submits what its submission does. -/
theorem submitting_of_result {s : Submission} (h : 1 ≤ s.result ↔ can M.ring) :
    Submitting can M (M.dispatched s) := ⟨rfl, rfl, rfl, rfl, rfl, fun _ => .refl _, h⟩

/-- The submission of a tagged operation. -/
theorem submitting_request {call : PrepCall} {set : Sqe → Sqe} (h : OnlyPayloads M L₁)
    (hsame : ∀ p, (M.payloads p).SameBuffers (L₁.payloads p)) :
    Submitting (fun ring => CanSubmit ring timeout_params r) M
      (L₁.dispatched (submitRequest L₁.ring request_idx call set timeout_params r)) := by
  obtain ⟨payloads, rfl⟩ := h
  exact ⟨rfl, rfl, rfl, rfl, rfl, hsame, submitRequest_result call set⟩

/-- A dispatcher of one request submits when the ring can. -/
theorem submitting_request_self {call : PrepCall} {set : Sqe → Sqe} :
    Submitting (fun ring => CanSubmit ring timeout_params r) M
      (M.dispatched (submitRequest M.ring request_idx call set timeout_params r)) :=
  submitting_request ⟨M.payloads, rfl⟩ fun _ => .refl _

/-- The dispatcher of `read` submits when the ring can. -/
theorem readDispatcher_submitting {size offset : ℤ}
    (h : M.readDispatcher fd p stream request_idx size offset timeout_params r = .ok d) :
    Submitting (fun ring => CanSubmit ring timeout_params r) M d := by
  unfold readDispatcher at h
  cases hmode : (M.payloads p).mode with
  | FIXED =>
    simp only [hmode] at h
    obtain ⟨⟨buf_idx, M₁⟩, hacq, h⟩ := bind_eq_ok.mp h
    obtain ⟨b, -, h⟩ := bind_eq_ok.mp h
    cases h
    exact submitting_request (onlyPayloads_acquireIdx hacq) (acquireIdx_keeps hacq).1.payloads
  | PROVIDED | BUF_RING =>
    simp only [hmode] at h
    split at h
    · cases h
      exact submitting_request_self
    · cases h
      exact submitting_request_self
  | NORMAL_BUF =>
    simp only [hmode] at h
    obtain ⟨b, -, h⟩ := bind_eq_ok.mp h
    cases h
    exact submitting_request_self

/-- The dispatcher of `readv` submits when the ring can. -/
theorem readvDispatcher_submitting {offset : ℤ} {nowait : Bool}
    (h : M.readvDispatcher fd p request_idx offset nowait timeout_params r = .ok d) :
    Submitting (fun ring => CanSubmit ring timeout_params r) M d := by
  unfold readvDispatcher at h
  cases hmode : (M.payloads p).mode with
  | PROVIDED | BUF_RING | FIXED | NORMAL_BUF =>
    simp only [hmode] at h
    obtain ⟨b, -, h⟩ := bind_eq_ok.mp h
    cases h
    exact submitting_request_self

/-- The dispatcher of `write` submits when the ring can. -/
theorem writeDispatcher_submitting {offset : ℤ}
    (h : M.writeDispatcher fd p request_idx offset timeout_params r = .ok d) :
    Submitting (fun ring => CanSubmit ring timeout_params r) M d := by
  unfold writeDispatcher at h
  obtain ⟨b, -, h⟩ := bind_eq_ok.mp h
  cases hmode : (M.payloads p).mode with
  | FIXED =>
    simp only [hmode] at h
    obtain ⟨⟨buf_idx, M₁⟩, hacq, h⟩ := bind_eq_ok.mp h
    cases h
    exact submitting_request (onlyPayloads_acquireIdx hacq) (acquireIdx_keeps hacq).1.payloads
  | PROVIDED | BUF_RING | NORMAL_BUF =>
    simp only [hmode] at h
    cases h
    exact submitting_request_self

/-- The dispatcher of `recv` submits when the ring can. -/
theorem recvDispatcher_submitting
    (h : M.recvDispatcher fd p stream request_idx is_poll_first timeout_params r = .ok d) :
    Submitting (fun ring => CanSubmit ring timeout_params r) M d := by
  unfold recvDispatcher at h
  obtain ⟨b, -, h⟩ := bind_eq_ok.mp h
  cases hmode : (M.payloads p).mode with
  | PROVIDED | BUF_RING =>
    simp only [hmode] at h
    split at h
    · cases h
      exact submitting_request_self
    · cases h
      exact submitting_request_self
  | FIXED | NORMAL_BUF =>
    simp only [hmode] at h
    cases h
    exact submitting_request_self

/-- The dispatcher of `recvmsg` submits when the ring can. -/
theorem recvmsgDispatcher_submitting {msghdr : Option MsghdrRef}
    (h : M.recvmsgDispatcher fd p stream request_idx is_poll_first msghdr timeout_params r =
      .ok d) :
    Submitting (fun ring => CanSubmit ring timeout_params r) M d := by
  unfold recvmsgDispatcher at h
  cases hmode : (M.payloads p).mode with
  | PROVIDED | BUF_RING =>
    simp only [hmode] at h
    split at h
    · cases h
      exact submitting_request_self
    · cases h
      exact submitting_request_self
  | FIXED | NORMAL_BUF =>
    simp only [hmode] at h
    obtain ⟨v, -, h⟩ := bind_eq_ok.mp h
    cases h
    exact submitting_request_self

/-- The dispatcher of `send` submits when the ring can. -/
theorem sendDispatcher_submitting
    (h : M.sendDispatcher fd p transfer_mode request_idx is_poll_first timeout_params r = .ok d) :
    Submitting (fun ring => CanSubmit ring timeout_params r) M d := by
  unfold sendDispatcher at h
  obtain ⟨b, -, h⟩ := bind_eq_ok.mp h
  cases transfer_mode with
  | ZERO_COPY =>
    simp only at h
    split at h
    · obtain ⟨⟨buf_idx, M₁⟩, hacq, h⟩ := bind_eq_ok.mp h
      cases h
      exact submitting_request (onlyPayloads_acquireIdx hacq) (acquireIdx_keeps hacq).1.payloads
    · cases h
      exact submitting_request_self
  | NORMAL_TRANSFER =>
    cases h
    exact submitting_request_self

/-- The dispatcher of `sendmsg` submits when the ring can. -/
theorem sendmsgDispatcher_submitting {addr addrlen : ℕ}
    (h : M.sendmsgDispatcher fd p transfer_mode request_idx addr addrlen is_poll_first
      timeout_params r = .ok d) :
    Submitting (fun ring => CanSubmit ring timeout_params r) M d := by
  unfold sendmsgDispatcher at h
  cases transfer_mode with
  | ZERO_COPY =>
    simp only at h
    obtain ⟨⟨buf_idx, M₁⟩, hacq, h⟩ := bind_eq_ok.mp h
    obtain ⟨v, -, h⟩ := bind_eq_ok.mp h
    cases h
    exact submitting_request (onlyPayloads_acquireIdx hacq) (acquireIdx_keeps hacq).1.payloads
  | NORMAL_TRANSFER =>
    simp only at h
    obtain ⟨v, -, h⟩ := bind_eq_ok.mp h
    cases h
    exact submitting_request_self

/-- The dispatcher of `accept` submits when the ring can. -/
theorem acceptDispatcher_submitting (stream : StreamStrategy) (addr len : ℕ) :
    Submitting (fun ring => CanSubmit ring timeout_params r) M
      (M.acceptDispatcher fd stream request_idx addr len timeout_params r) := by
  cases stream with
  | MULTISHOT | ONESHOT => exact submitting_request_self

end Loop

end Uringio
