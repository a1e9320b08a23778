import Uringio.Ops.Sockets
import Uringio.Ops.Timer
import Uringio.Ring.Pending

/-!
# Which calls leave the submission queue clean

`OpsCall` lists the functions of the ops layer with their arguments. A call is clean when a failure
leaves the pending entries as they were, and a success added only entries that a helper has filled.
All functions have one shape (`run_shape`): reserve, check, fill, submit. Every exit between the
reservation and a successful submission leaves the reserved entry behind, so a call is clean exactly
when it takes none of them (`opsCall_clean_iff`).
-/

namespace Uringio

/-- A call of a function of the ops layer. -/
inductive OpsCall
  | openFile (request_idx dfd : ℤ) (path : String) (flags resolve : ℤ) (mode : ℕ)
      (timeout_params : TimeoutParams)
  | read (request_idx fd : ℤ) (buf size : ℕ) (offset : ℤ) (timeout_params : TimeoutParams)
  | readv (request_idx fd : ℤ) (iovecs : List Iovec) (nr_vecs : ℕ) (offset : ℤ) (nowait : Bool)
      (timeout_params : TimeoutParams)
  | write (request_idx fd : ℤ) (buf size : ℕ) (offset : ℤ) (timeout_params : TimeoutParams)
  | writev (request_idx fd : ℤ) (iovecs : List Iovec) (nr_vecs : ℕ) (offset flags : ℤ)
      (timeout_params : TimeoutParams)
  | closeFile (request_idx fd : ℤ) (timeout_params : TimeoutParams)
  | fsync (request_idx fd : ℤ) (timeout_params : TimeoutParams)
  | fdatasync (request_idx fd : ℤ) (timeout_params : TimeoutParams)
  | splice (request_idx fd_in off_in fd_out off_out nbytes flag : ℤ)
      (timeout_params : TimeoutParams)
  | readFixed (request_idx fd : ℤ) (buf size : ℕ) (offset buf_index : ℤ)
      (timeout_params : TimeoutParams)
  | writeFixed (request_idx fd : ℤ) (buf size : ℕ) (offset buf_index : ℤ)
      (timeout_params : TimeoutParams)
  | readBufferSelect (request_idx fd : ℤ) (size : ℕ) (offset bgid : ℤ)
      (timeout_params : TimeoutParams)
  | readvBufferSelect (request_idx fd : ℤ) (size : ℕ) (offset bgid : ℤ) (nowait : Bool)
      (timeout_params : TimeoutParams)
  | readMultishot (request_idx fd offset bgid : ℤ) (timeout_params : TimeoutParams)
  | socket (request_idx domain type : ℤ) (timeout_params : TimeoutParams)
  | bind (request_idx fd : ℤ) (addr addrlen : ℕ) (timeout_params : TimeoutParams)
  | connect (request_idx fd : ℤ) (addr addrlen : ℕ) (timeout_params : TimeoutParams)
  | listen (request_idx fd backlog : ℤ) (timeout_params : TimeoutParams)
  | accept (request_idx sockfd : ℤ) (addr len : ℕ) (flags : ℤ) (timeout_params : TimeoutParams)
  | acceptMultishot (request_idx sockfd : ℤ) (addr len : ℕ) (flags : ℤ)
      (timeout_params : TimeoutParams)
  | closeSocket (request_idx sockfd : ℤ) (timeout_params : TimeoutParams)
  | send (request_idx sockfd : ℤ) (buf len : ℕ) (is_poll_first : Bool)
      (timeout_params : TimeoutParams)
  | sendto (request_idx sockfd : ℤ) (buf len addr addrlen : ℕ) (is_poll_first : Bool)
      (timeout_params : TimeoutParams)
  | sendZc (request_idx sockfd : ℤ) (buf len : ℕ) (is_poll_first : Bool)
      (timeout_params : TimeoutParams)
  | sendZcFixed (request_idx sockfd : ℤ) (buf len : ℕ) (is_poll_first : Bool) (buf_index : ℤ)
      (timeout_params : TimeoutParams)
  | recv (request_idx sockfd : ℤ) (buf len : ℕ) (is_poll_first : Bool)
      (timeout_params : TimeoutParams)
  | recvFixed (request_idx sockfd : ℤ) (buf len : ℕ) (is_poll_first : Bool) (buf_index : ℤ)
      (timeout_params : TimeoutParams)
  | recvBufferSelect (request_idx sockfd : ℤ) (len : ℕ) (bgid : ℤ) (is_poll_first : Bool)
      (timeout_params : TimeoutParams)
  | recvMultishot (request_idx sockfd : ℤ) (len : ℕ) (bgid : ℤ) (is_poll_first : Bool)
      (timeout_params : TimeoutParams)
  | recvfrom (request_idx sockfd : ℤ) (buf len addr addrlen : ℕ) (is_poll_first : Bool)
      (timeout_params : TimeoutParams)
  | sendmsg (request_idx sockfd : ℤ) (iovecs : List Iovec) (nr_vecs addr addrlen : ℕ)
      (is_poll_first : Bool) (timeout_params : TimeoutParams)
  | sendmsgZc (request_idx sockfd : ℤ) (iovecs : List Iovec) (nr_vecs addr addrlen : ℕ)
      (is_poll_first : Bool) (buf_index : ℤ) (timeout_params : TimeoutParams)
  | recvmsg (request_idx sockfd : ℤ) (iovecs : List Iovec) (nr_vecs : ℕ) (is_poll_first : Bool)
      (timeout_params : TimeoutParams)
  | recvmsgFixed (request_idx sockfd : ℤ) (iovecs : List Iovec) (nr_vecs : ℕ) (is_poll_first : Bool)
      (buf_index : ℤ) (timeout_params : TimeoutParams)
  | recvmsgBufferSelect (request_idx sockfd : ℤ) (is_poll_first : Bool) (bgid : ℤ)
      (timeout_params : TimeoutParams)
  | recvmsgMultishot (request_idx sockfd bgid : ℤ) (is_poll_first : Bool)
    (msghdr : Option MsghdrRef)
      (timeout_params : TimeoutParams)
  | timer (request_idx : ℤ) (timer_params : Option TimerParams)
  | initProvidedMode (addr : ℕ) (len nr bgid : ℤ)
  | closeProvidedMode (nr bgid : ℤ)

namespace OpsCall

/-- Make the call, with the result `r` of the submission if it gets there. -/
def run : OpsCall → Ring → ℤ → Submission
  | .openFile idx dfd path flags resolve mode tp, ring, r =>
    Uringio.openFile ring idx dfd path flags resolve mode tp r
  | .read idx fd buf size offset tp, ring, r => uringioRead ring idx fd buf size offset tp r
  | .readv idx fd iovecs nr_vecs offset nowait tp, ring, r =>
    uringioReadv ring idx fd iovecs nr_vecs offset nowait tp r
  | .write idx fd buf size offset tp, ring, r => uringioWrite ring idx fd buf size offset tp r
  | .writev idx fd iovecs nr_vecs offset flags tp, ring, r =>
    uringioWritev ring idx fd iovecs nr_vecs offset flags tp r
  | .closeFile idx fd tp, ring, r => uringioCloseFile ring idx fd tp r
  | .fsync idx fd tp, ring, r => uringioFsync ring idx fd tp r
  | .fdatasync idx fd tp, ring, r => uringioFdatasync ring idx fd tp r
  | .splice idx fd_in off_in fd_out off_out nbytes flag tp, ring, r =>
    uringioSplice ring idx fd_in off_in fd_out off_out nbytes flag tp r
  | .readFixed idx fd buf size offset buf_index tp, ring, r =>
    uringioReadFixed ring idx fd buf size offset buf_index tp r
  | .writeFixed idx fd buf size offset buf_index tp, ring, r =>
    uringioWriteFixed ring idx fd buf size offset buf_index tp r
  | .readBufferSelect idx fd size offset bgid tp, ring, r =>
    uringioReadBufferSelect ring idx fd size offset bgid tp r
  | .readvBufferSelect idx fd size offset bgid nowait tp, ring, r =>
    uringioReadvBufferSelect ring idx fd size offset bgid nowait tp r
  | .readMultishot idx fd offset bgid tp, ring, r =>
    uringioReadMultishot ring idx fd offset bgid tp r
  | .socket idx domain type tp, ring, r => prepSocket ring idx domain type tp r
  | .bind idx fd addr addrlen tp, ring, r => uringioBind ring idx fd addr addrlen tp r
  | .connect idx fd addr addrlen tp, ring, r => uringioConnect ring idx fd addr addrlen tp r
  | .listen idx fd backlog tp, ring, r => uringioListen ring idx fd backlog tp r
  | .accept idx sockfd addr len flags tp, ring, r =>
    uringioAccept ring idx sockfd addr len flags tp r
  | .acceptMultishot idx sockfd addr len flags tp, ring, r =>
    uringioAcceptMultishot ring idx sockfd addr len flags tp r
  | .closeSocket idx sockfd tp, ring, r => uringioCloseSocket ring idx sockfd tp r
  | .send idx sockfd buf len is_poll_first tp, ring, r =>
    uringioSend ring idx sockfd buf len is_poll_first tp r
  | .sendto idx sockfd buf len addr addrlen is_poll_first tp, ring, r =>
    uringioSendto ring idx sockfd buf len addr addrlen is_poll_first tp r
  | .sendZc idx sockfd buf len is_poll_first tp, ring, r =>
    uringioSendZc ring idx sockfd buf len is_poll_first tp r
  | .sendZcFixed idx sockfd buf len is_poll_first buf_index tp, ring, r =>
    uringioSendZcFixed ring idx sockfd buf len is_poll_first buf_index tp r
  | .recv idx sockfd buf len is_poll_first tp, ring, r =>
    uringioRecv ring idx sockfd buf len is_poll_first tp r
  | .recvFixed idx sockfd buf len is_poll_first buf_index tp, ring, r =>
    uringioRecvFixed ring idx sockfd buf len is_poll_first buf_index tp r
  | .recvBufferSelect idx sockfd len bgid is_poll_first tp, ring, r =>
    uringioRecvBufferSelect ring idx sockfd len bgid is_poll_first tp r
  | .recvMultishot idx sockfd len bgid is_poll_first tp, ring, r =>
    uringioRecvMultishot ring idx sockfd len bgid is_poll_first tp r
  | .recvfrom idx sockfd buf len addr addrlen is_poll_first tp, ring, r =>
    uringioRecvfrom ring idx sockfd buf len addr addrlen is_poll_first tp r
  | .sendmsg idx sockfd iovecs nr_vecs addr addrlen is_poll_first tp, ring, r =>
    uringioSendmsg ring idx sockfd iovecs nr_vecs addr addrlen is_poll_first tp r
  | .sendmsgZc idx sockfd iovecs nr_vecs addr addrlen is_poll_first buf_index tp, ring, r =>
    uringioSendmsgZc ring idx sockfd iovecs nr_vecs addr addrlen is_poll_first buf_index tp r
  | .recvmsg idx sockfd iovecs nr_vecs is_poll_first tp, ring, r =>
    uringioRecvmsg ring idx sockfd iovecs nr_vecs is_poll_first tp r
  | .recvmsgFixed idx sockfd iovecs nr_vecs is_poll_first buf_index tp, ring, r =>
    uringioRecvmsgFixed ring idx sockfd iovecs nr_vecs is_poll_first buf_index tp r
  | .recvmsgBufferSelect idx sockfd is_poll_first bgid tp, ring, r =>
    uringioRecvmsgBufferSelect ring idx sockfd is_poll_first bgid tp r
  | .recvmsgMultishot idx sockfd bgid is_poll_first msghdr tp, ring, r =>
    uringioRecvmsgMultishot ring idx sockfd bgid is_poll_first msghdr tp r
  | .timer idx timer_params, ring, r => Uringio.timer ring idx timer_params r
  | .initProvidedMode addr len nr bgid, ring, r => Uringio.initProvidedMode ring addr len nr bgid r
  | .closeProvidedMode nr bgid, ring, r => Uringio.closeProvidedMode ring nr bgid r

/-- The timeout parameters of the call. -/
def timeoutParams : OpsCall → Option TimeoutParams
  | .openFile _ _ _ _ _ _ tp
  | .read _ _ _ _ _ tp
  | .readv _ _ _ _ _ _ tp
  | .write _ _ _ _ _ tp
  | .writev _ _ _ _ _ _ tp
  | .closeFile _ _ tp
  | .fsync _ _ tp
  | .fdatasync _ _ tp
  | .splice _ _ _ _ _ _ _ tp
  | .readFixed _ _ _ _ _ _ tp
  | .writeFixed _ _ _ _ _ _ tp
  | .readBufferSelect _ _ _ _ _ tp
  | .readvBufferSelect _ _ _ _ _ _ tp
  | .readMultishot _ _ _ _ tp
  | .socket _ _ _ tp
  | .bind _ _ _ _ tp
  | .connect _ _ _ _ tp
  | .listen _ _ _ tp
  | .accept _ _ _ _ _ tp
  | .acceptMultishot _ _ _ _ _ tp
  | .closeSocket _ _ tp
  | .send _ _ _ _ _ tp
  | .sendto _ _ _ _ _ _ _ tp
  | .sendZc _ _ _ _ _ tp
  | .sendZcFixed _ _ _ _ _ _ tp
  | .recv _ _ _ _ _ tp
  | .recvFixed _ _ _ _ _ _ tp
  | .recvBufferSelect _ _ _ _ _ tp
  | .recvMultishot _ _ _ _ _ tp
  | .recvfrom _ _ _ _ _ _ _ tp
  | .sendmsg _ _ _ _ _ _ _ tp
  | .sendmsgZc _ _ _ _ _ _ _ _ tp
  | .recvmsg _ _ _ _ _ tp
  | .recvmsgFixed _ _ _ _ _ _ tp
  | .recvmsgBufferSelect _ _ _ _ tp
  | .recvmsgMultishot _ _ _ _ _ tp => some tp
  | .timer .. | .initProvidedMode .. | .closeProvidedMode .. => none

/-- `timer` was called without its parameters. -/
def paramsMissing : OpsCall → Bool
  | .timer _ none => true
  | _ => false

/-- The domain of a socket is one that `prep_socket` supports. -/
def domainSupported : OpsCall → Bool
  | .socket _ domain _ _ => domain = AF_INET ∨ domain = AF_INET6
  | _ => true

end OpsCall

/-- What a submission promises about the queue it started from: after a failure the pending
entries are the ones before it, and the kernel got none; after a success every entry that it added
has been filled by a helper. -/
def Submission.Clean (before : Ring) (s : Submission) : Prop :=
  (s.result = -1 ∨ s.result = -2 ∨ s.result = 0 →
    s.consumed = [] ∧ s.ring.window = before.window) ∧
  (s.result = 1 →
    ∀ e ∈ s.consumed ++ s.ring.window, before.tail ≤ e.1 → e.2.prepared = true)

/-- A call that is abandoned before it touches the queue is clean. -/
theorem Submission.clean_abandoned (ring : Ring) : (abandoned (-1) ring).Clean ring :=
  ⟨fun _ => ⟨rfl, rfl⟩, fun h => by cases h⟩

/-- An abandoned call that left an entry behind is not clean. -/
theorem Submission.not_clean_abandoned {ring ring' : Ring} {result : ℤ}
    {added : List (ℕ × Sqe)} (hres : result = -1 ∨ result = -2) (hadded : added ≠ [])
    (hw : ring'.window = ring.window ++ added) : ¬ (abandoned result ring').Clean ring := by
  intro h
  have hsame := (h.1 (by rcases hres with h | h <;> simp [abandoned, h])).2
  rw [show (abandoned result ring').ring = ring' from rfl, hw] at hsame
  exact hadded (List.append_right_eq_self.mp hsame)

/-- The end of a function is clean exactly when its submission succeeds. -/
theorem fillAndSubmit_clean_iff {ring ring' : Ring} {e : Sqe} {link : List (ℕ × Sqe)}
    {fill : Sqe → Sqe} {failure r : ℤ} (hw : ring'.window = ring.window ++ (ring.tail, e) :: link)
    (hfill : ∀ e, (fill e).prepared = true) (hfailure : failure = -1 ∨ failure = 0)
    (hlink : ∀ t ∈ link, t.2.prepared = true) :
    (fillAndSubmit ring' ring.tail fill failure r).Clean ring ↔ 0 ≤ r := by
  obtain ⟨hres, hwin, hnone⟩ := fillAndSubmit_spec hw fill failure r
  constructor
  · intro h
    by_contra hr
    have hneg : r < 0 := by omega
    rw [if_pos hneg] at hres
    have hsame := (h.1 (by omega)).2
    rw [hnone hneg, List.nil_append, hsame] at hwin
    exact List.cons_ne_nil _ _ (List.append_right_eq_self.mp hwin.symm)
  · intro hr
    rw [if_neg (by omega)] at hres
    refine ⟨fun h => by omega, fun _ x hx hpos => ?_⟩
    rw [hwin, List.mem_append, List.mem_cons] at hx
    rcases hx with hold | rfl | hx
    · have := (ring.mem_window.mp (show (x.1, x.2) ∈ ring.window from hold)).2.1
      omega
    · exact hfill e
    · exact hlink x hx

namespace OpsCall

/-- A call without its parameters is one of `timer`. -/
theorem eq_timer_none (c : OpsCall) (h : c.paramsMissing = true) : ∃ idx, c = .timer idx none := by
  cases c with
  | timer idx timer_params =>
    cases timer_params with
    | none => exact ⟨idx, rfl⟩
    | some _ => cases h
  | _ => cases h

/-- Every function but a `timer` without parameters has one shape: reserve, check, fill, submit. -/
theorem run_shape (c : OpsCall) (hparams : c.paramsMissing = false) :
    ∃ (fill : Sqe → Sqe) (failure : ℤ), (failure = -1 ∨ failure = 0) ∧
      (∀ e, (fill e).prepared = true) ∧ ∀ ring r, c.run ring r =
        match sqeWithOptionalTimeout ring c.timeoutParams with
        | .error ring => .abandoned (-1) ring
        | .ok (sqe, ring) =>
          if c.domainSupported then fillAndSubmit ring sqe fill failure r
          else .abandoned (-2) ring := by
  cases c with
  | socket idx domain type tp =>
    refine ⟨fun e => (e.prepare (.socket domain type 0 0)).setData idx, 0, .inr rfl, fun _ => rfl,
      fun ring r => ?_⟩
    simp only [run, prepSocket, timeoutParams, domainSupported]
    cases sqeWithOptionalTimeout ring (some tp) with
    | error ring => rfl
    | ok p => by_cases hd : domain = AF_INET ∨ domain = AF_INET6 <;> simp [hd]
  | timer idx timer_params =>
    cases timer_params with
    | none => cases hparams
    | some params =>
      refine ⟨fun e => (e.prepare (.timeout ⟨params.sec, params.nsec⟩
        (CInt.toUnsigned params.count)
        (if params.is_multishot then IORING_TIMEOUT_MULTISHOT else 0))).setData idx, 0, .inr rfl,
        fun _ => rfl, fun ring r => ?_⟩
      simp only [run, Uringio.timer, timeoutParams, sqeWithOptionalTimeout]
      cases createSqe ring <;> rfl
  | initProvidedMode => exact ⟨_, -1, .inl rfl, fun _ => rfl, fun _ _ => rfl⟩
  | closeProvidedMode => exact ⟨_, -1, .inl rfl, fun _ => rfl, fun _ _ => rfl⟩
  | _ => exact ⟨_, 0, .inr rfl, fun _ => rfl, fun _ _ => rfl⟩

/-- **Which calls are clean.** Exactly those that stop before they reserve an entry (the queue is
full, or a timer has no parameters) and those that go through: the domain is supported, no required
timeout finds the queue full, and the submission succeeds. -/
theorem opsCall_clean_iff (c : OpsCall) (ring : Ring) (r : ℤ) :
    (c.run ring r).Clean ring ↔
      c.paramsMissing = true ∨ ring.free = 0 ∨
        (c.domainSupported = true ∧
          ¬ (ring.free = 1 ∧ requiresTimeout c.timeoutParams = true) ∧ 0 ≤ r) := by
  cases hparams : c.paramsMissing with
  | true =>
    obtain ⟨idx, rfl⟩ := c.eq_timer_none hparams
    exact iff_of_true (Submission.clean_abandoned _) (.inl rfl)
  | false =>
    obtain ⟨fill, failure, hfailure, hfill, hrun⟩ := c.run_shape hparams
    rw [hrun]
    rcases sqeWithOptionalTimeout_cases ring c.timeoutParams with
      ⟨hfull, hreserved⟩ | ⟨hone, hreq, ring', e, hreserved, hw⟩ |
      ⟨hfree, hroom, ring', e, link, hreserved, hw, hlink, -⟩
    · rw [hreserved]
      exact iff_of_true (Submission.clean_abandoned _) (.inr (.inl hfull))
    · rw [hreserved]
      refine iff_of_false (Submission.not_clean_abandoned (.inl rfl) (List.cons_ne_nil _ _) hw) ?_
      rintro (h | h | h)
      · cases h
      · omega
      · exact h.2.1 ⟨hone, hreq⟩
    · rw [hreserved]
      simp only
      split
      · next hdomain =>
        have hprep : ∀ t ∈ link, t.2.prepared = true := by
          rcases hlink with rfl | ⟨t, rfl, ht⟩
          · simp
          · simpa using ht
        rw [fillAndSubmit_clean_iff hw hfill hfailure hprep]
        simp [hdomain, hroom, hfree.ne']
      · next hdomain =>
        refine iff_of_false
          (Submission.not_clean_abandoned (.inr rfl) (List.cons_ne_nil _ _) hw) ?_
        rintro (h | h | h)
        · cases h
        · omega
        · exact hdomain h.1

/-- A read fills an entry and is consumed; one lap of the ring later, a socket of an unsupported
domain reserves that entry again and gives up. The read is pending once more, with its tag. -/
theorem socket_not_clean :
    let ring : Ring := .replicate 0 .zero
    let ring := ((OpsCall.read 7 3 4096 16 0 .zero).run ring 1).ring
    let left := (OpsCall.socket 8 1 1 .zero).run ring 1
    left.result = -2 ∧ ¬ left.Clean ring ∧
      left.ring.window.map (fun e => (e.2.prep, e.2.user_data)) =
        [(some (.read 3 4096 16 0), 7)] := by
  refine ⟨by decide, fun h => ?_, by decide⟩
  have hlength := congrArg List.length (h.1 (by decide)).2
  exact absurd hlength (by decide)

end OpsCall

end Uringio
