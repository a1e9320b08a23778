import Uringio.Loop.Entry

/-!
# The shape of a call

Every call that makes a request is an attempt on a loop on which at most objects of its own were
created (`call_shape`). What the attempts of all calls have in common is `Attempt.Spec`: the
request belongs to the call, what it holds was made by the call or is the payload of the context,
and its entry is one in the sense of `Entry`.
-/

namespace Uringio

open Memory (Region)

namespace Op

/-- The opcode under which the call's request is registered. -/
def opcode : Op → Opcode
  | .open .. => .openat2
  | .read .. => .read
  | .readv .. | .readvRaw .. => .readv
  | .write .. => .write
  | .writev .. | .writevRaw .. => .writev
  | .fsync .. | .fdatasync .. => .fsync
  | .splice .. => .splice
  | .closeFile .. | .aexitFile .. | .closeSocket .. | .aexitSocket .. => .close
  | .socket .. => .socket
  | .bind .. => .bind
  | .connect .. => .connect
  | .listen .. => .listen
  | .accept .. => .accept
  | .send .. => .send
  | .recv .. => .recv
  | .sendto .. | .sendmsg .. => .sendmsg
  | .recvfrom .. | .recvmsg .. => .recvmsg
  | .timer .. => .timeout

/-- The file of the request of call number `k`. -/
def file (k : ℕ) : Op → Option FileRef
  | .open .. => some k
  | .read f .. | .readv f .. | .readvRaw f .. | .write f .. | .writev f .. | .writevRaw f ..
  | .fsync f .. | .fdatasync f .. | .splice f .. | .closeFile f .. | .aexitFile f => some f
  | _ => none

/-- The socket of the request of call number `k`. -/
def socket? (k : ℕ) : Op → Option SocketRef
  | .socket .. => some (.made k)
  | .bind s .. | .connect s .. | .listen s .. | .accept s .. | .closeSocket s .. | .aexitSocket s
  | .send s .. | .recv s .. | .sendto s .. | .recvfrom s .. | .sendmsg s .. | .recvmsg s .. =>
    some s
  | _ => none

end Op

namespace Loop

/-- What `create_buffer_payload` and the entry into a context promise of the payloads of contexts:
one in `NORMAL_BUF` mode is of the type that serves no operation. -/
def ContextsSound (L : Loop) : Prop :=
  ∀ n, (L.payloads (.context n)).mode = .NORMAL_BUF →
    (L.payloads (.context n)).payload_type = .PAYLOAD_LINEAR_AND_IOVEC

/-- Nothing but the objects of the next call was created or changed. -/
structure Prepares (L L₁ : Loop) : Prop where
  /-- Of the objects, only those of the next call were changed. -/
  frame : Frame L.calls L L₁
  /-- The ring is as it was. -/
  ring : L₁.ring = L.ring
  /-- The registry is as it was. -/
  registry : L₁.registry = L.registry
  /-- No call was made. -/
  next : L₁.calls = L.calls
  /-- What is pending is as it was. -/
  err : L₁.err = L.err
  /-- The futures are as they were. -/
  futures : L₁.futures = L.futures
  /-- Nothing was released. -/
  released : L₁.released = L.released

/-- Only flags and reference counts were changed. -/
structure Quiet (L L' : Loop) : Prop extends Keeps L L' where
  /-- The ring is as it was. -/
  ring : L'.ring = L.ring
  /-- The registry is as it was. -/
  registry : L'.registry = L.registry
  /-- The payloads are as they were. -/
  payloads_eq : L'.payloads = L.payloads

/-- What is given up when the registry is full belongs to the call. -/
structure Discards (k : ℕ) (L L' : Loop) : Prop extends Frame k L L' where
  /-- The ring is as it was. -/
  ring : L'.ring = L.ring
  /-- The registry is as it was. -/
  registry : L'.registry = L.registry
  /-- No call was made. -/
  next : L'.calls = L.calls
  /-- What is pending is as it was. -/
  err : L'.err = L.err

variable {L L₁ L' : Loop} {k : ℕ}

/-- A loop is prepared without a change. -/
theorem Prepares.refl (L : Loop) : Prepares L L :=
  ⟨(Keeps.refl L).frame, rfl, rfl, rfl, rfl, rfl, rfl⟩

/-- A loop is quiet without a change. -/
theorem Quiet.refl (L : Loop) : Quiet L L := { Keeps.refl L with
  ring := rfl, registry := rfl, payloads_eq := rfl }

/-- A loop gives up nothing without a change. -/
theorem Discards.refl (k : ℕ) (L : Loop) : Discards k L L := { (Keeps.refl L).frame with
  ring := rfl, registry := rfl, next := rfl, err := rfl }

/-- What two steps give up belongs to the call. -/
theorem Discards.trans {L₁ L₂ L₃ : Loop} (h : Discards k L₁ L₂) (h' : Discards k L₂ L₃) :
    Discards k L₁ L₃ := { h.toFrame.trans h'.toFrame with
  ring := h'.ring.trans h.ring
  registry := h'.registry.trans h.registry
  next := h'.next.trans h.next
  err := h'.err.trans h.err }

/-- An object of the call is released. -/
theorem discards_release {h : HeapRef} (hh : h.call = some k) : Discards k L (L.release h) := {
  (Keeps.refl L).frame with
    released := fun _ ho => release_released_ne fun heq => ho (heq ▸ hh)
    ring := rfl
    registry := rfl
    next := rfl
    err := rfl }

/-- A payload that is the call's own, or that is not freed. -/
theorem discards_freeBufferPayload {p : PayloadRef}
    (hp : p = .own k ∨ (L.payloads p).mode ≠ .NORMAL_BUF) :
    Discards k L (L.freeBufferPayload (some p) false) := by
  unfold freeBufferPayload
  simp only [Bool.false_eq_true, not_false_eq_true, and_true]
  split
  · exact .refl k L
  · next hmode =>
    rcases hp with rfl | hp
    · exact discards_release rfl
    · exact absurd hp hmode

/-- Marking a file is quiet. -/
theorem quiet_setFileClosed (f : FileRef) (closed : Bool) : Quiet L (L.setFileClosed f closed) := {
  Keeps.refl L with
    ring := rfl
    registry := rfl
    payloads_eq := rfl }

/-- Marking a socket is quiet. -/
theorem quiet_setSocketClosed (s : SocketRef) (closed : Bool) :
    Quiet L (L.setSocketClosed s closed) := {
  Keeps.refl L with
    domain := fun t => by
      by_cases ht : t = s
      · subst ht
        simp [setSocketClosed]
      · simp [setSocketClosed, ht]
    ring := rfl
    registry := rfl
    payloads_eq := rfl }

/-- A new file prepares the call. -/
theorem prepares_newFile (L : Loop) : Prepares L L.newFile where
  frame := { (Keeps.refl L).frame with }
  ring := rfl
  registry := rfl
  next := rfl
  err := rfl
  futures := rfl
  released := rfl

/-- A new socket prepares the call. -/
theorem prepares_newSocket (L : Loop) (domain : ℤ) : Prepares L (L.newSocket domain) where
  frame := { (Keeps.refl L).frame with
    domain := fun s hs => by
      have hne : s ≠ .made L.calls := by
        rintro rfl
        exact lt_irrefl _ hs
      simp [newSocket, hne] }
  ring := rfl
  registry := rfl
  next := rfl
  err := rfl
  futures := rfl
  released := rfl

/-- A new payload prepares the call. -/
theorem prepares_newPayload (L : Loop) (payload : BufferPayload) :
    Prepares L (L.newPayload payload).2 where
  frame := { (Keeps.refl L).frame with
    payloads := fun p hp => by
      simp [newPayload, setPayload, hp, BufferPayload.SameBuffers.refl] }
  ring := rfl
  registry := rfl
  next := rfl
  err := rfl
  futures := rfl
  released := rfl

end Loop

open Loop

/-- The payload of a request is the call's own, or the context's and then not freed. -/
def Holds (k : ℕ) (payloads : PayloadRef → BufferPayload) (ctx : ExecutionContext)
    (p : PayloadRef) : Prop :=
  (p = .own k ∧ (payloads p).mode = .NORMAL_BUF) ∨
    ∃ n, ctx.buffer_payload = some n ∧ p = .context n ∧ (payloads p).mode ≠ .NORMAL_BUF

/-- To free the payload takes away nothing but the call's own. -/
theorem Holds.own_or_mode {k : ℕ} {payloads : PayloadRef → BufferPayload} {ctx : ExecutionContext}
    {p : PayloadRef} (h : Holds k payloads ctx p) :
    p = .own k ∨ (payloads p).mode ≠ .NORMAL_BUF := h.imp And.left fun ⟨_, _, _, hmode⟩ => hmode

/-- The request that call number `k` registers. -/
structure Request.OfCall (k : ℕ) (payloads : PayloadRef → BufferPayload) (ctx : ExecutionContext)
    (op : Op) (env : CallEnv) (req : Request) : Prop where
  /-- The future is that of the call. -/
  future : req.future = k
  /-- The operation is that of the call. -/
  opcode : req.opcode = op.opcode
  /-- The file is that of the operation. -/
  file : req.file = op.file k
  /-- The socket is that of the operation. -/
  socket : req.socket = op.socket? k
  /-- The stream strategy is one-shot, or that of the context. -/
  stream : req.stream_strategy = .ONESHOT ∨ req.stream_strategy = ctx.stream
  /-- The address block is that of the call. -/
  sockaddr : ∀ s, req.sockaddr = some s → s = k
  /-- An accept has one. -/
  accept : op.opcode = .accept → req.sockaddr = some k
  /-- The message header is that of the call. -/
  msghdr : ∀ m, req.msghdr = some m → m = k
  /-- The payload is the call's own, or that of the context. -/
  payload : ∀ p, req.buffer_payload = some p → Holds k payloads ctx p
  /-- A write has the payload of the call. -/
  write : op.opcode = .write → req.buffer_payload = some (.own k)
  /-- A read that has the payload of the call reads into its one buffer. -/
  allocated : op.opcode = .read → req.buffer_payload = some (.own k) →
    ∃ b, (payloads (.own k)).linear = some [b] ∧ b.buffer = env.alloc 0

/-- What the attempts of all calls have in common. -/
structure Attempt.Spec (L : Loop) (ctx : ExecutionContext) (op : Op) (env : CallEnv)
    (a : Attempt) : Prop extends Request.OfCall L.calls L.payloads ctx op env a.request where
  /-- A full registry gives up what belongs to the call. -/
  full : ∀ L', L'.payloads = L.payloads → Discards L.calls L' (a.full L')
  /-- Before the dispatcher, only flags and counts are changed. -/
  before : ∀ L', Quiet L' (a.before L')
  /-- So are they when the dispatcher fails. -/
  failed : ∀ L', Quiet L' (a.failed L')
  /-- The dispatcher submits an entry of the request. -/
  dispatch : ∀ L' idx d, L'.payloads = L.payloads → a.dispatch L' idx = .ok d →
    Dispatches L' d (Entry ctx.stream ctx.transfer_mode op.opcode
      (a.request.buffer_payload.map L.payloads) idx)

variable {L L₁ : Loop} {ctx : ExecutionContext} {op : Op} {env : CallEnv} {p : PayloadRef}

/-- A request without a payload. -/
theorem Attempt.spec_bare {opcode : Opcode} {file : Option FileRef} {socket : Option SocketRef}
    {before failed : Loop → Loop} {dispatch : Loop → ℤ → Except Fault Dispatched}
    (hop : op.opcode = opcode) (hfile : op.file L.calls = file)
    (hsocket : op.socket? L.calls = socket)
    (hopcode : opcode ≠ .accept ∧ opcode ≠ .write)
    (hbefore : ∀ L', Quiet L' (before L')) (hfailed : ∀ L', Quiet L' (failed L'))
    (hdispatch : ∀ L' idx d, dispatch L' idx = .ok d →
      Dispatches L' d (Entry ctx.stream ctx.transfer_mode op.opcode none idx)) :
    Attempt.Spec L ctx op env
      { request := L.request opcode file socket, before, dispatch, failed } where
  future := rfl
  opcode := hop.symm
  file := hfile.symm
  socket := hsocket.symm
  stream := .inl rfl
  sockaddr := fun _ h => by cases h
  accept := fun h => absurd (hop.symm.trans h) hopcode.1
  msghdr := fun _ h => by cases h
  payload := fun _ h => by cases h
  write := fun h => absurd (hop.symm.trans h) hopcode.2
  allocated := fun _ h => by cases h
  full := fun L' _ => .refl _ L'
  before := hbefore
  failed := hfailed
  dispatch := fun L' idx d _ h => hdispatch L' idx d h

/-- What the choice of a payload gives. -/
structure Provided (L : Loop) (ctx : ExecutionContext) (p : PayloadRef) (L₁ : Loop) : Prop where
  /-- Nothing but the objects of the next call was made. -/
  prepares : Prepares L L₁
  /-- The payload is the call's own, or that of the context. -/
  holds : Holds L.calls L₁.payloads ctx p

/-- A provided payload is held by the next call. -/
theorem Provided.holds_calls (h : Provided L ctx p L₁) : Holds L₁.calls L₁.payloads ctx p :=
  h.prepares.next ▸ h.holds

/-- A new payload of the call's own is provided. -/
theorem provided_newPayload {payload : BufferPayload} (hmode : payload.mode = .NORMAL_BUF) :
    Provided L ctx (.own L.calls) (L.newPayload payload).2 where
  prepares := prepares_newPayload L payload
  holds := .inl ⟨rfl, by simpa [newPayload, setPayload] using hmode⟩

/-- A payload of a context that serves an operation is not in `NORMAL_BUF` mode. -/
theorem provided_context {n : ℕ} (hn : ctx.buffer_payload = some n)
    (hmode : (L.payloads (.context n)).mode ≠ .NORMAL_BUF) : Provided L ctx (.context n) L where
  prepares := .refl L
  holds := .inr ⟨n, hn, rfl, hmode⟩

/-- `get_or_create_linear_buffer` provides a linear payload. -/
theorem getOrCreateLinearBuffer_spec (hctx : L.ContextsSound) {buffers_obj : Option (List Region)}
    {bufsize : ℤ} (h : L.getOrCreateLinearBuffer ctx buffers_obj bufsize env = (p, L₁)) :
    Provided L ctx p L₁ ∧ (L₁.payloads p).payload_type = .PAYLOAD_LINEAR ∧
      (p = .own L.calls → L₁.payloads p =
        newLinearBuffer buffers_obj bufsize env.alloc env.raw) := by
  have hnew : ∀ q M, L.newPayload (newLinearBuffer buffers_obj bufsize env.alloc env.raw) = (q, M) →
      Provided L ctx q M ∧ (M.payloads q).payload_type = .PAYLOAD_LINEAR ∧
        (q = .own L.calls → M.payloads q =
          newLinearBuffer buffers_obj bufsize env.alloc env.raw) := by
    rintro q M ⟨⟩
    have hget : (L.setPayload (.own L.calls) (newLinearBuffer buffers_obj bufsize env.alloc
        env.raw)).payloads (.own L.calls) =
        newLinearBuffer buffers_obj bufsize env.alloc env.raw := by simp [setPayload]
    exact ⟨provided_newPayload rfl, by rw [hget]; rfl, fun _ => hget⟩
  unfold getOrCreateLinearBuffer at h
  split at h
  · exact hnew p L₁ h
  · next n hn =>
    split at h
    · next hserves =>
      cases h
      have htype : (L.payloads (.context n)).payload_type = .PAYLOAD_LINEAR := by
        have := hserves.2
        simp only [BufferPayload.servesLinear, decide_eq_true_eq] at this
        exact this.1
      refine ⟨provided_context hn fun hmode => ?_, htype, fun hp => by cases hp⟩
      rw [hctx n hmode] at htype
      cases htype
    · exact hnew p L₁ h

/-- `get_or_create_vectored_buffer` provides a vectored payload. -/
theorem getOrCreateVectoredBuffer_spec (hctx : L.ContextsSound)
    {buffers_obj : Option (List Region)}
    (h : L.getOrCreateVectoredBuffer ctx buffers_obj env = (p, L₁)) :
    Provided L ctx p L₁ ∧ (L₁.payloads p).payload_type = .PAYLOAD_IOVEC := by
  have hnew : ∀ q M, L.newPayload (newVectoredBuffer buffers_obj env.alloc) = (q, M) →
      Provided L ctx q M ∧ (M.payloads q).payload_type = .PAYLOAD_IOVEC := by
    rintro q M ⟨⟩
    exact ⟨provided_newPayload rfl, by simp [setPayload, newVectoredBuffer]⟩
  unfold getOrCreateVectoredBuffer at h
  split at h
  · exact hnew p L₁ h
  · next n hn =>
    split at h
    · next hserves =>
      cases h
      have htype : (L.payloads (.context n)).payload_type = .PAYLOAD_IOVEC := by
        have := hserves.2
        simp only [BufferPayload.servesVectored, decide_eq_true_eq] at this
        exact this.1
      refine ⟨provided_context hn fun hmode => ?_, htype⟩
      rw [hctx n hmode] at htype
      cases htype
    · exact hnew p L₁ h

/-- The payload of `readv` is provided. -/
theorem readvPayload_spec (hctx : L.ContextsSound) {buffers_obj : Option (List Region)}
    (h : L.readvPayload ctx buffers_obj env = (p, L₁)) : Provided L ctx p L₁ := by
  unfold Loop.readvPayload at h
  split at h
  · exact (getOrCreateVectoredBuffer_spec hctx h).1
  · next n hn =>
    simp only at h
    split at h
    · next hmode =>
      cases h
      refine provided_context hn fun hnormal => ?_
      simp [hnormal] at hmode
    · exact (getOrCreateVectoredBuffer_spec hctx h).1

/-! ## Every call -/

/-- A call is an attempt with the common specification, unless its object is closed. -/
def CallShape (L : Loop) (ctx : ExecutionContext) (op : Op) (env : CallEnv)
    (result : Except Fault Called) : Prop :=
  ∃ closed L₁ a, result = L.unlessClosed closed (L₁.attempt a) ∧ Prepares L L₁ ∧
    a.Spec L₁ ctx op env

variable {closed : Bool} {req : Request} {dispatch : Loop → ℤ → Except Fault Dispatched}
  {timeout_params : TimeoutParams} {r : ℤ}

/-- A call that asserts and attempts has the shape. -/
theorem shape_unlessClosed {a : Attempt} (hprep : Prepares L L₁) (hspec : a.Spec L₁ ctx op env) :
    CallShape L ctx op env (L.unlessClosed closed (L₁.attempt a)) :=
  ⟨closed, L₁, a, rfl, hprep, hspec⟩

/-- An attempt has the shape. -/
theorem shape_attempt {a : Attempt} (hprep : Prepares L L₁) (hspec : a.Spec L₁ ctx op env) :
    CallShape L ctx op env (L₁.attempt a) := ⟨false, L₁, a, rfl, hprep, hspec⟩

/-- A call whose request holds a payload. -/
theorem shape_withPayload (hp : Provided L ctx p L₁) (hfuture : req.future = L₁.calls)
    (hop : req.opcode = op.opcode ∧ op.opcode ≠ .accept) (hfile : req.file = op.file L₁.calls)
    (hsocket : req.socket = op.socket? L₁.calls)
    (hstream : req.stream_strategy = .ONESHOT ∨ req.stream_strategy = ctx.stream)
    (haddr : req.sockaddr = none) (hmsghdr : ∀ m, req.msghdr = some m → m = L₁.calls)
    (hwrite : op.opcode = .write → p = .own L₁.calls)
    (halloc : op.opcode = .read → p = .own L₁.calls →
      ∃ b, (L₁.payloads (.own L₁.calls)).linear = some [b] ∧ b.buffer = env.alloc 0)
    (hdispatch : ∀ L' idx d, L'.payloads = L₁.payloads → dispatch L' idx = .ok d →
      Dispatches L' d (Entry ctx.stream ctx.transfer_mode op.opcode (some (L₁.payloads p)) idx)) :
    CallShape L ctx op env (L.unlessClosed closed (L₁.withPayload p req dispatch)) :=
  shape_unlessClosed hp.prepares
    { future := hfuture
      opcode := hop.1
      file := hfile
      socket := hsocket
      stream := hstream
      sockaddr := fun s h => by rw [haddr] at h; cases h
      accept := fun h => absurd h hop.2
      msghdr := hmsghdr
      payload := fun q hq => by cases hq; exact hp.holds_calls
      write := fun h => congrArg some (hwrite h)
      allocated := fun h hq => halloc h (Option.some.inj hq)
      full := fun L' hL' => discards_freeBufferPayload <| by
        rw [hL']
        exact hp.holds_calls.own_or_mode
      before := .refl
      failed := .refl
      dispatch := hdispatch }

/-- `prep_socket` submits the socket's entry. -/
theorem prepSocket_submits (ring : Ring) (request_idx domain type : ℤ) :
    (prepSocket ring request_idx domain type timeout_params r).Submits ring
      (Tagged request_idx (.socket domain type 0 0) false) := by
  unfold prepSocket
  rcases sqeWithOptionalTimeout_cases ring (some timeout_params) with
    ⟨-, hreserved⟩ | ⟨-, -, ring', e, hreserved, hw⟩ |
      ⟨-, -, ring', e, link, hreserved, hw, hlink, hflags, -⟩
  · rw [hreserved]
    exact Submission.submits_unchanged _ _ (by decide)
  · rw [hreserved]
    exact Submission.submits_abandoned (by decide) hw (.inl rfl)
  · have hlink' : link = [] ∨ ∃ t, link = [(ring.tail + 1, t)] :=
      hlink.imp id fun ⟨t, ht, _⟩ => ⟨t, ht⟩
    rw [hreserved]
    simp only
    split
    · exact Submission.submits_abandoned (by decide) hw hlink'
    · exact fillAndSubmit_submits hw hlink' _ _ _ ⟨rfl, rfl, fun _ => hflags⟩

/-- `timer` submits the timeout's entry. -/
theorem timer_submits (ring : Ring) (request_idx : ℤ) (params : TimerParams) :
    (timer ring request_idx (some params) r).Submits ring
      (Tagged request_idx (.timeout ⟨params.sec, params.nsec⟩ (CInt.toUnsigned params.count)
        (if params.is_multishot then IORING_TIMEOUT_MULTISHOT else 0)) false) := by
  unfold timer
  cases hget : createSqe ring with
  | none => exact Submission.submits_unchanged _ _ (by decide)
  | some got =>
    obtain ⟨sqe, ring₁⟩ := got
    obtain ⟨rfl, -, -, hwin⟩ := getSqe_eq_some hget
    exact fillAndSubmit_submits hwin (.inl rfl) _ _ _ ⟨rfl, rfl, fun _ => .inl rfl⟩

/-- **The shape of a call.** -/
theorem call_shape (hctx : L.ContextsSound) (ctx : ExecutionContext) (op : Op) (env : CallEnv) :
    CallShape L ctx op env (L.call ctx op env) := by
  have quiet : ∀ L' : Loop, Quiet L' (id L') := .refl
  cases op with
  | «open» path dfd flags resolve mode tp =>
    refine shape_attempt (prepares_newFile L) (Attempt.spec_bare rfl rfl rfl (by decide) quiet quiet
      fun L' idx d h => ?_)
    cases h
    exact request_spec_self (fun _ => rfl) (fun _ => rfl) fun _ => ⟨rfl, rfl⟩
  | read f offset size tp =>
    rcases hp : L.getOrCreateLinearBuffer ctx none size env with ⟨p, L₁⟩
    obtain ⟨hprov, -, hown⟩ := getOrCreateLinearBuffer_spec hctx hp
    simp only [call, uringioFileRead, hp]
    refine shape_withPayload hprov rfl ⟨rfl, fun h => by cases h⟩ rfl rfl (.inr rfl) rfl
      (fun _ h => by cases h)
      (fun h => by cases h) (fun _ hq => ⟨⟨env.alloc 0, CInt.toU64 size⟩, ?_, rfl⟩)
      fun L' idx d hL' h => ?_
    · rw [← hq, hown (hq.trans (congrArg _ hprov.prepares.next))]
      rfl
    · rw [← hL']
      exact readDispatcher_spec h
  | readv f buffers offset nowait tp =>
    rcases hp : L.readvPayload ctx buffers env with ⟨p, L₁⟩
    simp only [call, uringioFileReadv, hp]
    refine shape_withPayload (readvPayload_spec hctx hp) rfl ⟨rfl, fun h => by cases h⟩ rfl rfl
      (.inl rfl) rfl
      (fun _ h => by cases h) (fun h => by cases h) (fun h => by cases h) fun L' idx d hL' h => ?_
    rw [← hL']
    exact readvDispatcher_spec h
  | readvRaw f iovecs offset nowait tp =>
    refine shape_withPayload (provided_newPayload rfl) rfl ⟨rfl, fun h => by cases h⟩ rfl rfl
      (.inl rfl) rfl
      (fun _ h => by cases h) (fun h => by cases h) (fun h => by cases h) fun L' idx d hL' h => ?_
    obtain ⟨v, hv, h⟩ := bind_eq_ok.mp h
    cases h
    rw [← hL']
    exact request_spec_self (fun _ => rfl) (fun _ => rfl)
      fun _ => ⟨rfl, _, rfl, v, BufferPayload.derefVector_eq_ok.mp hv, rfl⟩
  | write f data offset tp =>
    refine shape_withPayload (provided_newPayload rfl) rfl ⟨rfl, fun h => by cases h⟩ rfl rfl
      (.inl rfl) rfl
      (fun _ h => by cases h) (fun _ => rfl) (fun h => by cases h) fun L' idx d hL' h => ?_
    rw [← hL']
    exact writeDispatcher_spec h
  | writev f buffers flags offset tp =>
    rcases hp : L.getOrCreateVectoredBuffer ctx (some buffers) env with ⟨p, L₁⟩
    simp only [call, uringioFileWritev, hp, writevAttempt]
    refine shape_withPayload (getOrCreateVectoredBuffer_spec hctx hp).1 rfl
      ⟨rfl, fun h => by cases h⟩ rfl rfl
      (.inl rfl) rfl (fun _ h => by cases h) (fun h => by cases h) (fun h => by cases h)
      fun L' idx d hL' h => ?_
    obtain ⟨v, -, h⟩ := bind_eq_ok.mp h
    cases h
    exact request_spec_self (fun _ => rfl) (fun _ => rfl) fun _ => ⟨rfl, rfl⟩
  | writevRaw f iovecs flags offset tp =>
    refine shape_withPayload (provided_newPayload rfl) rfl ⟨rfl, fun h => by cases h⟩ rfl rfl
      (.inl rfl) rfl
      (fun _ h => by cases h) (fun h => by cases h) (fun h => by cases h) fun L' idx d hL' h => ?_
    obtain ⟨v, -, h⟩ := bind_eq_ok.mp h
    cases h
    exact request_spec_self (fun _ => rfl) (fun _ => rfl) fun _ => ⟨rfl, rfl⟩
  | fsync f tp | fdatasync f tp | splice f src dst count offset_src offset_dst flag tp
  | closeFile f tp =>
    refine shape_unlessClosed (.refl L) (Attempt.spec_bare rfl rfl rfl (by decide) quiet quiet
      fun L' idx d h => ?_)
    cases h
    exact request_spec_self (fun _ => rfl) (fun _ => rfl) fun _ => ⟨rfl, rfl⟩
  | aexitFile f =>
    refine shape_attempt (.refl L) (Attempt.spec_bare rfl rfl rfl (by decide)
      (fun _ => quiet_setFileClosed f true) (fun _ => quiet_setFileClosed f false)
      fun L' idx d h => ?_)
    cases h
    exact request_spec_self (fun _ => rfl) (fun _ => rfl) fun _ => ⟨rfl, rfl⟩
  | socket domain socktype tp =>
    refine shape_attempt (prepares_newSocket L domain) (Attempt.spec_bare rfl rfl rfl (by decide)
      quiet quiet fun L' idx d h => ?_)
    cases h
    exact dispatched_spec_self ((prepSocket_submits _ _ _ _).mono fun e he =>
      he.entry (fun _ => rfl) (fun _ => rfl) fun _ => ⟨rfl, rfl, rfl⟩)
  | bind s tp | connect s tp | listen s backlog tp =>
    refine shape_unlessClosed (.refl L) (Attempt.spec_bare rfl rfl rfl (by decide) quiet quiet
      fun L' idx d h => ?_)
    cases h
    exact request_spec_self (fun _ => rfl) (fun _ => rfl) fun _ => ⟨rfl, rfl⟩
  | accept s tp =>
    exact shape_unlessClosed (.refl L)
      { future := rfl
        opcode := rfl
        file := rfl
        socket := rfl
        stream := .inr rfl
        sockaddr := fun _ h => (Option.some.inj h).symm
        accept := fun _ => rfl
        msghdr := fun _ h => by cases h
        payload := fun _ h => by cases h
        write := fun h => by cases h
        allocated := fun h => by cases h
        full := fun L' _ => .refl _ L'
        before := quiet
        failed := quiet
        dispatch := fun L' idx d _ h => by
          cases h
          exact acceptDispatcher_spec _ _ }
  | closeSocket s tp =>
    refine shape_unlessClosed (.refl L) (Attempt.spec_bare rfl rfl rfl (by decide)
      (fun _ => quiet_setSocketClosed s true) (fun _ => quiet_setSocketClosed s false)
      fun L' idx d h => ?_)
    cases h
    exact request_spec_self (fun _ => rfl) (fun _ => rfl) fun _ => ⟨rfl, rfl⟩
  | aexitSocket s =>
    refine shape_attempt (.refl L) (Attempt.spec_bare rfl rfl rfl (by decide)
      (fun _ => quiet_setSocketClosed s true) (fun _ => quiet_setSocketClosed s false)
      fun L' idx d h => ?_)
    cases h
    exact request_spec_self (fun _ => rfl) (fun _ => rfl) fun _ => ⟨rfl, rfl⟩
  | send s data is_poll_first tp =>
    refine shape_withPayload (provided_newPayload rfl) rfl ⟨rfl, fun h => by cases h⟩ rfl rfl
      (.inl rfl) rfl
      (fun _ h => by cases h) (fun h => by cases h) (fun h => by cases h) fun L' idx d hL' h => ?_
    rw [← hL']
    exact sendDispatcher_spec h
  | recv s bufsize buffer is_poll_first tp =>
    rcases hp : L.getOrCreateLinearBuffer ctx buffer bufsize env with ⟨p, L₁⟩
    simp only [call, uringioSocketRecv, hp]
    refine shape_withPayload (getOrCreateLinearBuffer_spec hctx hp).1 rfl
      ⟨rfl, fun h => by cases h⟩ rfl rfl
      (.inr rfl) rfl (fun _ h => by cases h) (fun h => by cases h) (fun h => by cases h)
      fun L' idx d hL' h => ?_
    rw [← hL']
    exact recvDispatcher_spec h
  | sendto s data domain is_poll_first tp =>
    exact shape_unlessClosed (prepares_newPayload L (createBufferPayloadFromData data))
      { future := rfl
        opcode := rfl
        file := rfl
        socket := rfl
        stream := .inl rfl
        sockaddr := fun _ h => by cases h
        accept := fun h => by cases h
        msghdr := fun _ h => by cases h
        payload := fun _ h => by cases h
        write := fun h => by cases h
        allocated := fun h => by cases h
        full := fun L' _ => discards_freeBufferPayload (.inl rfl)
        before := quiet
        failed := quiet
        dispatch := fun L' idx d _ h => by
          obtain ⟨b, -, h⟩ := bind_eq_ok.mp h
          cases h
          exact request_spec_self (fun _ => rfl) (fun _ => rfl) fun _ => ⟨rfl, rfl⟩ }
  | recvfrom s bufsize buffer domain is_poll_first tp =>
    rcases hp : L.getOrCreateLinearBuffer ctx buffer (CInt.toInt bufsize) env with ⟨p, L₁⟩
    obtain ⟨hprov, htype, -⟩ := getOrCreateLinearBuffer_spec hctx hp
    simp only [call, uringioSocketRecvfrom, hp]
    rw [← hprov.prepares.next]
    exact shape_unlessClosed hprov.prepares
      { future := rfl
        opcode := rfl
        file := rfl
        socket := rfl
        stream := .inl rfl
        sockaddr := fun _ h => (Option.some.inj h).symm
        accept := fun h => by cases h
        msghdr := fun _ h => (Option.some.inj h).symm
        payload := fun q hq => by cases hq; exact hprov.holds_calls
        write := fun h => by cases h
        allocated := fun h => by cases h
        full := fun L' hL' => by
          refine ((discards_freeBufferPayload ?_).trans (discards_release rfl)).trans
            (discards_release rfl)
          rw [hL']
          exact hprov.holds_calls.own_or_mode
        before := quiet
        failed := quiet
        dispatch := fun L' idx d hL' h => by
          obtain ⟨b, hb, h⟩ := bind_eq_ok.mp h
          obtain ⟨bs, hbs⟩ := BufferPayload.firstLinear_eq_ok.mp hb
          rw [hL'] at hbs
          cases h
          refine request_spec_self (fun _ => rfl) (fun _ => rfl) fun _ => ⟨rfl, _, rfl, ?_⟩
          rw [if_pos htype]
          exact ⟨b, bs, _, hbs, rfl⟩ }
  | sendmsg s buffers domain is_poll_first tp =>
    rcases hp : L.getOrCreateVectoredBuffer ctx (some buffers) env with ⟨p, L₁⟩
    simp only [call, uringioSocketSendmsg, hp]
    refine shape_withPayload (getOrCreateVectoredBuffer_spec hctx hp).1 rfl
      ⟨rfl, fun h => by cases h⟩ rfl rfl
      (.inl rfl) rfl (fun _ h => by cases h) (fun h => by cases h) (fun h => by cases h)
      fun L' idx d hL' h => ?_
    rw [← hL']
    exact sendmsgDispatcher_spec h
  | recvmsg s buffers is_poll_first tp =>
    rcases hp : L.getOrCreateVectoredBuffer ctx (some buffers) env with ⟨p, L₁⟩
    obtain ⟨hprov, htype⟩ := getOrCreateVectoredBuffer_spec hctx hp
    simp only [call, uringioSocketRecvmsg, hp]
    rw [← hprov.prepares.next]
    refine shape_withPayload hprov rfl ⟨rfl, fun h => by cases h⟩ rfl rfl (.inr rfl) rfl
      (fun _ h => (Option.some.inj h).symm) (fun h => by cases h) (fun h => by cases h)
      fun L' idx d hL' h => ?_
    rw [← hL'] at htype ⊢
    exact recvmsgDispatcher_spec htype h
  | timer sec nsec count is_multishot =>
    refine shape_attempt (.refl L) (Attempt.spec_bare rfl rfl rfl (by decide) quiet quiet
      fun L' idx d h => ?_)
    cases h
    refine dispatched_spec_self ((timer_submits _ _ _).mono fun e he =>
      he.entry (fun hs => ?_) (fun _ => rfl) fun _ => ⟨rfl, rfl, rfl⟩)
    simp [PrepCall.multishot, Loop.parseTimerParams, hs]

end Uringio
