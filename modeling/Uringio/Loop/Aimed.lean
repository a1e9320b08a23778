import Uringio.Loop.Closed
import Uringio.Loop.Pool

/-!
# Where the operations of a fixed context aim

A read, and a receive that names no buffer, use the linear buffer of their context's payload. In
`FIXED` mode both have the kernel put the bytes at the front of the first buffer (`call_aims`): the
read names the index that was on top of the pool beside it, and takes its length from the caller.
The reader takes the bytes from the front of the first buffer as well (`bytes_of_first`).
-/

namespace Uringio

open Memory (Region)

/-- The call uses the linear buffer of its context's payload, if that offers one. -/
def Op.usesFirst : Op → Bool
  | .read .. => true
  | .recv _ _ buffer _ _ => buffer.isNone
  | _ => false

/-- Where a call that uses the first buffer `b` has the kernel put the bytes. -/
def Op.target (b : LinearBuffer) : Op → Region
  | .read _ _ size _ => ⟨b.buffer, CInt.toUnsigned size⟩
  | _ => ⟨b.buffer, b.len⟩

/-- The helper call of a call that uses the first buffer `b`, with `index` on top of the pool. -/
def Op.Aims (b : LinearBuffer) (index : ℤ) : Op → PrepCall → Prop
  | .read _ offset size _, call => ∃ fd,
      call = .read_fixed fd b.buffer (CInt.toUnsigned size) (CInt.toU64 offset) index
  | .recv .., call => ∃ fd flags, call = .recv fd b.buffer b.len flags
  | _, _ => False

variable {b : LinearBuffer} {index : ℤ} {op : Op} {call : PrepCall} {e : Sqe}

/-- Such an entry has one completion, and names its memory. -/
theorem Op.Aims.entry (h : op.Aims b index call) (hprep : e.prep = some call) :
    e.destination = [op.target b] ∧ e.multishot = false ∧ e.zeroCopy = false := by
  unfold Op.Aims at h
  split at h
  · obtain ⟨fd, rfl⟩ := h
    simp [Sqe.destination, Sqe.multishot, Sqe.zeroCopy, hprep, PrepCall.destination,
      PrepCall.multishot, PrepCall.zeroCopy, Op.target]
  · obtain ⟨fd, flags, rfl⟩ := h
    simp [Sqe.destination, Sqe.multishot, Sqe.zeroCopy, hprep, PrepCall.destination,
      PrepCall.multishot, PrepCall.zeroCopy, Op.target]
  · cases h

/-- A fixed read asks for what the call does, under the index on top of the pool. -/
theorem Op.Aims.fixed {fd : ℤ} {addr size offset : ℕ} {index' : ℤ}
    (h : op.Aims b index (.read_fixed fd addr size offset index')) :
    op.opcode = .read ∧ index' = index ∧ op.target b = ⟨addr, size⟩ := by
  unfold Op.Aims at h
  split at h
  · obtain ⟨fd', heq⟩ := h
    cases heq
    exact ⟨rfl, rfl, rfl⟩
  · obtain ⟨fd', flags, heq⟩ := h
    cases heq
  · cases h

/-- Every call aims at the front of the buffer. -/
theorem Op.target_eq (b : LinearBuffer) (op : Op) : ∃ len, op.target b = ⟨b.buffer, len⟩ := by
  cases op <;> exact ⟨_, rfl⟩

/-- The calls that use the first buffer are reads and receives. -/
theorem Op.opcode_of_usesFirst (h : op.usesFirst = true) :
    op.opcode = .read ∨ op.opcode = .recv := by
  cases op with
  | read => exact .inl rfl
  | recv => exact .inr rfl
  | _ => cases h

namespace Loop

variable {L L₁ M : Loop} {ctx : ExecutionContext} {env : CallEnv} {c : Called} {d : Dispatched}
  {n : ℕ} {reg : FixedBufferIdxRegistry} {bs : List LinearBuffer} {p : PayloadRef} {fd : ℤ}
  {stream : StreamStrategy} {request_idx r : ℤ} {is_poll_first : Bool}
  {timeout_params : TimeoutParams}

/-- A context with a linear payload serves a call that names no buffer. -/
theorem getOrCreateLinearBuffer_first {bufsize : ℤ} (hctx : ctx.buffer_payload = some n)
    (htype : (L.payloads (.context n)).payload_type = .PAYLOAD_LINEAR)
    (hlinear : (L.payloads (.context n)).linear = some (b :: bs)) :
    L.getOrCreateLinearBuffer ctx none bufsize env = (.context n, L) := by
  unfold getOrCreateLinearBuffer
  rw [hctx]
  exact if_pos ⟨rfl, by simp [BufferPayload.servesLinear, htype, hlinear]⟩

/-- The dispatcher of a receive in `FIXED` mode submits the first buffer. -/
theorem recvDispatcher_aims (hmode : (M.payloads p).mode = .FIXED)
    (hlinear : (M.payloads p).linear = some (b :: bs))
    (h : M.recvDispatcher fd p stream request_idx is_poll_first timeout_params r = .ok d) :
    d.loop.ring = d.submission.ring ∧ d.submission.Submits M.ring fun e =>
      ∃ flags, e.prep = some (.recv fd b.buffer b.len flags) := by
  unfold recvDispatcher at h
  obtain ⟨b', hb', h⟩ := bind_eq_ok.mp h
  rw [BufferPayload.firstLinear_eq_ok.mpr ⟨bs, hlinear⟩] at hb'
  cases hb'
  simp only [hmode] at h
  cases h
  exact ⟨rfl, (submitRequest_submits M.ring _ _ id false _ _ fun _ => ⟨rfl, fun _ => rfl⟩).mono
    fun _ he => ⟨_, he.prep⟩⟩

/-- **An operation of a fixed context aims at the front of the first buffer**: the slot of the
request holds the payload of the context, and its entry names the first buffer, and for a read the
index that was on top of the pool. -/
theorem call_aims (huses : op.usesFirst = true) (hctx : ctx.buffer_payload = some n)
    (hmode : (L.payloads (.context n)).mode = .FIXED)
    (htype : (L.payloads (.context n)).payload_type = .PAYLOAD_LINEAR)
    (hreg : (L.payloads (.context n)).idx_registry = some reg)
    (hlinear : (L.payloads (.context n)).linear = some (b :: bs))
    (h : L.call ctx op env = .ok c) (hfuture : c.future ≠ none) :
    (∃ slot, registryGet c.loop.registry c.request_idx = some slot ∧
      slot.buffer_payload = some (.context n)) ∧
    ∃ e link call, Adds L.ring c.consumed c.loop.ring ((L.ring.tail, e) :: link) ∧
      e.prep = some call ∧ op.Aims b (getBufferIdx reg).1 call := by
  cases op with
  | read f offset size tp =>
    have htakes : L.TakesIndex n ctx (.read f offset size tp) := by
      obtain ⟨-, ⟨-, rfl⟩ | ⟨hopen, htried⟩⟩ := call_flags h
      · exact absurd rfl hfuture
      · refine ⟨rfl, hctx, hopen, ?_⟩
        cases htried with
        | full _ hnone => exact absurd hnone hfuture
        | failed hslot => exact hslot
        | accepted hslot => exact hslot
    obtain ⟨-, haccepted⟩ := call_takes_pool htakes hmode htype hreg hlinear h
    obtain ⟨hslot, e, link, fd, hadds, hprep⟩ := haccepted hfuture
    exact ⟨hslot, e, link, _, hadds, hprep, fd, rfl⟩
  | recv s bufsize buffer is_poll_first tp =>
    obtain rfl : buffer = none := Option.isNone_iff_eq_none.mp huses
    have hp : L.getOrCreateLinearBuffer ctx none bufsize env = (.context n, L) :=
      getOrCreateLinearBuffer_first hctx htype hlinear
    simp only [Loop.call, uringioSocketRecv, hp, unlessClosed] at h
    split at h
    · cases h
      exact absurd rfl hfuture
    · obtain ⟨⟨idx, hslot⟩, e, link, hadds, fd, flags, hprep⟩ := attempt_entry
        (P := fun e => ∃ fd flags, e.prep = some (.recv fd b.buffer b.len flags))
        (aside_of_full (fun _ => freeBufferPayload_payloads _ _) rfl rfl) h hfuture
        fun M idx d hM hdispatch => by
          have hMp : M.payloads (.context n) = L.payloads (.context n) := congrFun hM _
          obtain ⟨hring, hsubmits⟩ := recvDispatcher_aims (hMp ▸ hmode) (hMp ▸ hlinear) hdispatch
          exact ⟨(recvDispatcher_submitting hdispatch).registry, hring,
            hsubmits.mono fun _ he => ⟨_, he⟩⟩
      exact ⟨⟨_, hslot, rfl⟩, e, link, _, hadds, hprep, fd, flags, rfl⟩
  | _ => cases huses

/-! ## The reader -/

variable {slot : RequestSlot} {renv : ReadEnv} {cqe : Cqe} {k : FutureRef} {rd : Read}
  {bytes : List UInt8}

/-- What the future is resolved with is the result of the case of the switch. -/
theorem finishPayload_call {force : Bool} {result : Option Outcome} {disp : Disposition}
    (h : L.finishPayload cqe.index p force result = .ok disp)
    (hdeliver : disp.deliver cqe.index k = .ok rd) : rd.call = result.map (k, ·) := by
  obtain ⟨L₁, -, h⟩ := bind_eq_ok.mp h
  cases h
  obtain ⟨L₂, -, h⟩ := bind_eq_ok.mp hdeliver
  cases h
  rfl

/-- The case of a read hands out the bytes at the front of the first buffer. -/
theorem completeRead_bytes {disp : Disposition} (hp : slot.buffer_payload = some p)
    (hlinear : (L.payloads p).linear = some (b :: bs))
    (h : L.completeRead cqe.index slot cqe = .ok disp)
    (hdeliver : disp.deliver cqe.index k = .ok rd) {j : FutureRef}
    (hcall : rd.call = some (j, .bytes bytes)) :
    bytes = Memory.read L.mem b.buffer cqe.res.toNat := by
  obtain ⟨⟨p', payload⟩, hderef, h⟩ := bind_eq_ok.mp h
  obtain ⟨heq, rfl, -⟩ := deref_eq_ok hderef
  rw [hp] at heq
  cases heq
  obtain ⟨b', hb', h⟩ := bind_eq_ok.mp h
  rw [BufferPayload.firstLinear_eq_ok.mpr ⟨bs, hlinear⟩] at hb'
  cases hb'
  rw [finishPayload_call h hdeliver] at hcall
  split at hcall
  · cases hcall
  · cases hcall
    rfl

/-- So does the case of a receive, unless there is nothing to hand out. -/
theorem completeRecv_bytes {disp : Disposition} (hp : slot.buffer_payload = some p)
    (hlinear : (L.payloads p).linear = some (b :: bs))
    (h : L.completeRecv cqe.index slot cqe = .ok disp)
    (hdeliver : disp.deliver cqe.index k = .ok rd) {j : FutureRef}
    (hcall : rd.call = some (j, .bytes bytes)) :
    bytes = Memory.read L.mem b.buffer cqe.res.toNat := by
  unfold completeRecv at h
  split at h
  · cases h
    obtain ⟨L₁, -, h⟩ := bind_eq_ok.mp hdeliver
    cases h
    cases hcall
  · obtain ⟨⟨p', payload⟩, hderef, h⟩ := bind_eq_ok.mp h
    obtain ⟨heq, rfl, -⟩ := deref_eq_ok hderef
    rw [hp] at heq
    cases heq
    simp only at h
    split at h
    · next hzero =>
      obtain ⟨result, hresult, h⟩ := bind_eq_ok.mp h
      cases hresult
      rw [finishPayload_call h hdeliver] at hcall
      cases hcall
      rw [hzero]
      rfl
    · split at h
      · obtain ⟨b', hb', h⟩ := bind_eq_ok.mp h
        rw [BufferPayload.firstLinear_eq_ok.mpr ⟨bs, hlinear⟩] at hb'
        cases hb'
        obtain ⟨result, hresult, h⟩ := bind_eq_ok.mp h
        cases hresult
        rw [finishPayload_call h hdeliver] at hcall
        cases hcall
        rfl
      · obtain ⟨result, hresult, h⟩ := bind_eq_ok.mp h
        cases hresult
        rw [finishPayload_call h hdeliver] at hcall
        cases hcall

/-- **The reader hands out the bytes at the front of the first buffer**, for a read and for a
receive, if it hands out bytes. -/
theorem bytes_of_first (hget : registryGet L.registry cqe.index = some slot)
    (hop : slot.opcode = .read ∨ slot.opcode = .recv) (hp : slot.buffer_payload = some p)
    (hlinear : (L.payloads p).linear = some (b :: bs)) (h : readCqe L renv cqe = .ok rd)
    {j : FutureRef} (hcall : rd.call = some (j, .bytes bytes)) :
    0 ≤ cqe.res ∧ bytes = Memory.read L.mem b.buffer cqe.res.toNat := by
  have htimeout : timeoutExpired slot cqe = false := by
    rcases hop with hop | hop <;> simp [timeoutExpired, hop]
  unfold readCqe at h
  rw [hget] at h
  simp only [readSlot] at h
  split at h
  · cases h
    cases hcall
  · by_cases hres : cqe.res < 0
    · -- An error hands out no bytes.
      rw [if_pos ⟨hres, by rw [htimeout]; exact Bool.false_ne_true⟩] at h
      obtain ⟨L₁, -, h⟩ := bind_eq_ok.mp h
      cases h
      unfold setException at hcall
      split at hcall <;> cases hcall
    · rw [if_neg fun hneg => hres hneg.1] at h
      split at h
      · cases h
        cases hcall
      · obtain ⟨disp, hdisp, hdeliver⟩ := bind_eq_ok.mp h
        refine ⟨by omega, ?_⟩
        unfold complete at hdisp
        rcases hop with hop | hop
        · rw [hop] at hdisp
          exact completeRead_bytes hp hlinear hdisp hdeliver hcall
        · rw [hop] at hdisp
          exact completeRecv_bytes hp hlinear hdisp hdeliver hcall

end Loop

end Uringio
