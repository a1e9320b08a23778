import Uringio.Buffers.Serving
import Uringio.Loop.Kind
import Uringio.Loop.Closed

/-!
# Dispatcher and reader

The dispatcher of an operation decides from the payload of the call and from the execution context
which pointers to follow; the reader decides again when the operation completes, from the slot and
the payload it points to. `call_ok_iff` says when the dispatcher of a call follows no null pointer,
`call_suits` what it then knows of the slot that it filled, and `read_ok_iff` when the reader
follows none in such a slot.

Two operations end in a null pointer whatever their buffers are: `sendmsg` with zero-copy transfer
asks the payload that it has just built for an index, and `recvmsg` in a multishot context is
submitted as an ordinary one and read as a multishot one. One does in a context that provides
buffers: `readv` gets the payload of the context, which has no vector. And a sequence without items
given to `recv` or `recvfrom` would leave a payload that nothing has set; this call and every other
one whose payload cannot be built ends before its dispatcher, where the entry point reads the
execution context (`Python.NullPointers`).
-/

namespace Uringio

open Memory (Region)

/-- The context provides buffers. -/
def ExecutionContext.provides (ctx : ExecutionContext) (payloads : PayloadRef → BufferPayload) :
    Prop :=
  match ctx.buffer_payload with
  | none => False
  | some n => (payloads (.context n)).mode = .PROVIDED ∨ (payloads (.context n)).mode = .BUF_RING

instance (ctx : ExecutionContext) (payloads : PayloadRef → BufferPayload) :
    Decidable (ctx.provides payloads) := by
  unfold ExecutionContext.provides
  cases ctx.buffer_payload with
  | none => exact .isFalse id
  | some n => exact inferInstanceAs (Decidable (_ ∨ _))

/-- The payload that the dispatcher of the call is given has all that it asks for. Whether the call
comes to its dispatcher is decided before: an entry point that could not build its payload does not
(`PyRequest.FollowsNull`). -/
def Op.dispatches (ctx : ExecutionContext) (env : CallEnv) : Op → Prop
  | .sendmsg .. => ctx.transfer_mode = .NORMAL_TRANSFER
  | .recv _ _ (some []) _ _ | .recvfrom _ _ (some []) _ _ _ => env.raw.first.isSome = true
  | _ => True

instance (ctx : ExecutionContext) (env : CallEnv) : DecidablePred (Op.dispatches ctx env) := by
  intro op
  unfold Op.dispatches
  split <;> infer_instance

section

variable {ctx : ExecutionContext} {env : CallEnv} {s : SocketRef} {bufsize domain : ℤ}
  {buffer : Option (List Region)} {is_poll_first : Bool} {timeout_params : TimeoutParams}

/-- A receive asks for a buffer: a sequence without items has none. -/
theorem dispatches_recv_iff :
    (Op.recv s bufsize buffer is_poll_first timeout_params).dispatches ctx env ↔
      (buffer = some [] → env.raw.first.isSome = true) := by
  rcases buffer with - | - | ⟨v, vs⟩ <;> simp [Op.dispatches]

/-- A `recvfrom` is dispatched unless it has an empty buffer without a first item. -/
theorem dispatches_recvfrom_iff {size : ℕ} :
    (Op.recvfrom s size buffer domain is_poll_first timeout_params).dispatches ctx env ↔
      (buffer = some [] → env.raw.first.isSome = true) := by
  rcases buffer with - | - | ⟨v, vs⟩ <;> simp [Op.dispatches]

end

/-- The call is refused, or it finds the registry full, or its dispatcher has all that it asks
for. -/
def Loop.DispatchSafe (L : Loop) (ctx : ExecutionContext) (op : Op) (env : CallEnv) : Prop :=
  L.refuses op = true ∨ L.registry.available_indices.entries = [] ∨ op.dispatches ctx env

/-- What the slot of an accepted call offers to the reader. -/
def Suits (payloads : PayloadRef → BufferPayload) (ctx : ExecutionContext) (slot : RequestSlot) :
    Op → Prop
  | .read .. | .recv .. => ∃ p, slot.buffer_payload = some p ∧ (payloads p).first.isSome = true ∧
      (payloads p).poolOk = true
  | .recvfrom .. => slot.stream_strategy = .ONESHOT ∧ ∃ p, slot.buffer_payload = some p ∧
      (payloads p).first.isSome = true ∧ (payloads p).poolOk = true ∧
      (payloads p).payload_type = .PAYLOAD_LINEAR
  | .readv .. => ∃ p, slot.buffer_payload = some p ∧
      ((payloads p).vector.isSome = true ↔ ¬ ctx.provides payloads)
  | .readvRaw .. => ∃ p, slot.buffer_payload = some p ∧ (payloads p).vector.isSome = true
  | .write .. | .send .. | .sendmsg .. => ∃ p, slot.buffer_payload = some p ∧
      (payloads p).poolOk = true
  | .recvmsg .. => slot.stream_strategy = ctx.stream ∧ ∃ p, slot.buffer_payload = some p ∧
      (payloads p).poolOk = true ∧ (payloads p).payload_type = .PAYLOAD_IOVEC ∧
      (payloads p).vector.isSome = true ∧ (payloads p).first = none
  | .sendto .. => slot.buffer_payload = none
  | _ => True

/-- The reader takes the branch of the operation that was submitted, and finds what it asks for. -/
def ReadSafe (payloads : PayloadRef → BufferPayload) (ctx : ExecutionContext) : Op → Prop
  | .readv .. => ¬ ctx.provides payloads
  | .recvmsg .. => ctx.stream = .ONESHOT
  | _ => True

instance (payloads : PayloadRef → BufferPayload) (ctx : ExecutionContext) :
    DecidablePred (ReadSafe payloads ctx) := by
  intro op
  unfold ReadSafe
  split <;> infer_instance

/-! ## Computations that succeed -/

/-- A bind succeeds when both of its parts do. -/
theorem bind_isOk {ε α β : Type} {x : Except ε α} {f : α → Except ε β} :
    (∃ b, (x >>= f) = .ok b) ↔ ∃ a, x = .ok a ∧ ∃ b, f a = .ok b := by
  constructor
  · rintro ⟨b, h⟩
    obtain ⟨a, ha, hb⟩ := bind_eq_ok.mp h
    exact ⟨a, ha, b, hb⟩
  · rintro ⟨a, ha, b, hb⟩
    exact ⟨b, bind_eq_ok.mpr ⟨a, ha, hb⟩⟩

/-- The first linear buffer is there when the payload has one. -/
theorem firstLinear_isOk {payload : BufferPayload} :
    (∃ b, payload.firstLinear = .ok b) ↔ payload.first.isSome = true := by
  rw [Loop.firstLinear_eq]
  cases payload.first with
  | none => exact ⟨fun ⟨_, h⟩ => (by cases h), fun h => (by cases h)⟩
  | some b => exact ⟨fun _ => rfl, fun _ => ⟨b, rfl⟩⟩

/-- The vectored buffer is there when the payload has one. -/
theorem derefVector_isOk {payload : BufferPayload} :
    (∃ v, payload.derefVector = .ok v) ↔ payload.vector.isSome = true := by
  rw [Loop.derefVector_eq]
  cases payload.vector with
  | none => exact ⟨fun ⟨_, h⟩ => (by cases h), fun h => (by cases h)⟩
  | some v => exact ⟨fun _ => rfl, fun _ => ⟨v, rfl⟩⟩

namespace Loop

variable {L L₁ M : Loop} {ctx : ExecutionContext} {op : Op} {env : CallEnv} {c : Called}
  {a : Attempt} {can : Ring → Prop} {p : PayloadRef} {closed : Bool}
  {req : Request} {dispatch : Loop → ℤ → Except Fault Dispatched} {fd : ℤ} {request_idx : ℤ}
  {stream : StreamStrategy} {transfer_mode : TransferMode} {is_poll_first : Bool}
  {timeout_params : TimeoutParams} {r : ℤ} {buffers_obj : Option (List Region)}

/-- An index can be taken when the payload has a pool. -/
theorem acquireIdx_isOk :
    (∃ got, M.acquireIdx p = .ok got) ↔ (M.payloads p).idx_registry.isSome = true := by
  unfold acquireIdx
  cases (M.payloads p).idx_registry with
  | none => exact ⟨fun ⟨_, h⟩ => (by cases h), fun h => (by cases h)⟩
  | some reg => exact ⟨fun _ => rfl, fun _ => ⟨_, rfl⟩⟩

/-! ## The payload of a call -/

/-- What the contexts promise. -/
def ContextsServing (L : Loop) : Prop := ∀ n, (L.payloads (.context n)).Serving

/-- Contexts that serve every operation are sound. -/
theorem ContextsServing.sound (h : L.ContextsServing) : L.ContextsSound := fun n => (h n).normal

/-- A payload is fit for an index unless it is fixed and has no pool. -/
theorem poolOk_iff {payload : BufferPayload} : payload.poolOk = true ↔
    (payload.mode = .FIXED → payload.idx_registry.isSome = true) := by
  unfold BufferPayload.poolOk
  exact decide_eq_true_iff

/-- A payload that is not in `FIXED` mode needs no pool. -/
theorem poolOk_of_normal {payload : BufferPayload} (h : payload.mode = .NORMAL_BUF) :
    payload.poolOk = true := poolOk_iff.mpr fun hfixed => by rw [h] at hfixed; cases hfixed

/-- The linear payload of a call: it has a buffer, unless it is built from a sequence without items
and nothing was left in its block. -/
theorem linear_payload (hctx : L.ContextsServing) {bufsize : ℤ}
    (h : L.getOrCreateLinearBuffer ctx buffers_obj bufsize env = (p, L₁)) :
    (L₁.payloads p).payload_type = .PAYLOAD_LINEAR ∧ (L₁.payloads p).poolOk = true ∧
      ((L₁.payloads p).first.isSome = true ↔
        (buffers_obj = some [] → env.raw.first.isSome = true)) := by
  have hnew : ∀ q M, L.newPayload (newLinearBuffer buffers_obj bufsize env.alloc env.raw) = (q, M) →
      (M.payloads q).payload_type = .PAYLOAD_LINEAR ∧ (M.payloads q).poolOk = true ∧
      ((M.payloads q).first.isSome = true ↔
        (buffers_obj = some [] → env.raw.first.isSome = true)) := by
    rintro q M ⟨⟩
    have hget : (L.setPayload (.own L.calls) (newLinearBuffer buffers_obj bufsize env.alloc
        env.raw)).payloads (.own L.calls) =
        newLinearBuffer buffers_obj bufsize env.alloc env.raw := by simp [setPayload]
    rw [hget]
    refine ⟨rfl, poolOk_of_normal rfl, ?_⟩
    cases hobj : buffers_obj with
    | none => exact iff_of_true rfl fun h => by cases h
    | some buffers =>
      cases buffers with
      | nil => exact ⟨fun h _ => h, fun h => h rfl⟩
      | cons v vs =>
        refine iff_of_true ?_ fun h => by cases h
        have hlen : ¬ (((v :: vs).length : ℤ) < 1) := by simp
        simp only [newLinearBuffer, serializeLinearBuffers, hlen, if_false]
        rfl
  unfold getOrCreateLinearBuffer at h
  split at h
  · exact hnew p L₁ h
  · next n hn =>
    split at h
    · next hserves =>
      cases h
      obtain ⟨hnone, hserves⟩ := hserves
      simp only [BufferPayload.servesLinear, decide_eq_true_eq] at hserves
      have hmode : (L.payloads (.context n)).mode ≠ .NORMAL_BUF := fun hmode => by
        rw [(hctx n).normal hmode] at hserves
        cases hserves.1
      refine ⟨hserves.1, poolOk_iff.mpr (hctx n).pool,
        iff_of_true ((hctx n).linear hmode).2.1 fun h => ?_⟩
      rw [hnone] at h
      cases h
    · exact hnew p L₁ h

/-- The vectored payload of a call is a new one: no context serves it. -/
theorem vectored_payload (hctx : L.ContextsServing)
    (h : L.getOrCreateVectoredBuffer ctx buffers_obj env = (p, L₁)) :
    L₁.payloads p = newVectoredBuffer buffers_obj env.alloc := by
  have hnew : ∀ q M, L.newPayload (newVectoredBuffer buffers_obj env.alloc) = (q, M) →
      M.payloads q = newVectoredBuffer buffers_obj env.alloc := by
    rintro q M ⟨⟩
    simp [setPayload]
  unfold getOrCreateVectoredBuffer at h
  split at h
  · exact hnew p L₁ h
  · next n hn =>
    split at h
    · next hserves =>
      obtain ⟨-, hserves⟩ := hserves
      simp only [BufferPayload.servesVectored, decide_eq_true_eq] at hserves
      by_cases hmode : (L.payloads (.context n)).mode = .NORMAL_BUF
      · rw [(hctx n).normal hmode] at hserves
        cases hserves.1
      · rw [((hctx n).linear hmode).1] at hserves
        cases hserves.1
    · exact hnew p L₁ h

/-- The payload of `readv`: that of a context that provides buffers, which has a linear buffer and
no vector, or a new one. -/
theorem readv_payload (hctx : L.ContextsServing)
    (h : L.readvPayload ctx buffers_obj env = (p, L₁)) :
    (ctx.provides L₁.payloads ∧ ((L₁.payloads p).mode = .PROVIDED ∨
      (L₁.payloads p).mode = .BUF_RING) ∧
        (L₁.payloads p).first.isSome = true ∧ (L₁.payloads p).vector = none) ∨
      (¬ ctx.provides L₁.payloads ∧ L₁.payloads p = newVectoredBuffer buffers_obj env.alloc) := by
  have hsame : ∀ n, (L₁.payloads (.context n)).mode = (L.payloads (.context n)).mode := by
    intro n
    have hprep := (readvPayload_spec hctx.sound h).prepares
    exact (hprep.frame.payloads (.context n) (by simp)).mode
  unfold Loop.readvPayload at h
  cases hbuf : ctx.buffer_payload with
  | none =>
    rw [hbuf] at h
    refine .inr ⟨?_, vectored_payload hctx h⟩
    unfold ExecutionContext.provides
    rw [hbuf]
    exact id
  | some n =>
    rw [hbuf] at h
    have hprovides : ctx.provides L₁.payloads ↔ (L.payloads (.context n)).mode = .PROVIDED ∨
        (L.payloads (.context n)).mode = .BUF_RING := by
      unfold ExecutionContext.provides
      rw [hbuf]
      simp only [hsame n]
    simp only at h
    split at h
    · next hmode =>
      cases h
      have hne : (L.payloads (.context n)).mode ≠ .NORMAL_BUF := by
        rcases hmode with hmode | hmode <;> simp [hmode]
      obtain ⟨-, hfirst, hvector⟩ := (hctx n).linear hne
      exact .inl ⟨hprovides.mpr hmode, hmode, hfirst, hvector⟩
    · next hmode => exact .inr ⟨fun hp => hmode (hprovides.mp hp), vectored_payload hctx h⟩

/-! ## The dispatchers -/

/-- With a buffer, and a pool if it is in `FIXED` mode, a payload serves a read. -/
theorem readDispatcher_runs {size offset : ℤ} (hfirst : (M.payloads p).first.isSome = true)
    (hpool : (M.payloads p).poolOk = true) :
    ∃ d, M.readDispatcher fd p stream request_idx size offset timeout_params r = .ok d := by
  unfold readDispatcher
  obtain ⟨b, hb⟩ := firstLinear_isOk.mpr hfirst
  cases hmode : (M.payloads p).mode with
  | FIXED =>
    simp only [hmode]
    obtain ⟨⟨buf_idx, M₁⟩, hacq⟩ := acquireIdx_isOk.mpr (poolOk_iff.mp hpool hmode)
    exact bind_isOk.mpr ⟨_, hacq, bind_isOk.mpr ⟨b, hb, _, rfl⟩⟩
  | PROVIDED | BUF_RING =>
    simp only [hmode]
    split <;> exact ⟨_, rfl⟩
  | NORMAL_BUF =>
    simp only [hmode]
    exact bind_isOk.mpr ⟨b, hb, _, rfl⟩

/-- The dispatcher of `readv` runs when the buffers of its mode are there. -/
theorem readvDispatcher_runs {offset : ℤ} {nowait : Bool}
    (h : ((M.payloads p).mode = .PROVIDED ∨ (M.payloads p).mode = .BUF_RING) ∧
        (M.payloads p).first.isSome = true ∨
      (M.payloads p).mode = .NORMAL_BUF ∧ (M.payloads p).vector.isSome = true) :
    ∃ d, M.readvDispatcher fd p request_idx offset nowait timeout_params r = .ok d := by
  unfold readvDispatcher
  rcases h with ⟨hmode, hfirst⟩ | ⟨hmode, hvector⟩
  · obtain ⟨b, hb⟩ := firstLinear_isOk.mpr hfirst
    rcases hmode with hmode | hmode <;>
    · simp only [hmode]
      exact bind_isOk.mpr ⟨b, hb, _, rfl⟩
  · obtain ⟨v, hv⟩ := derefVector_isOk.mpr hvector
    simp only [hmode]
    exact bind_isOk.mpr ⟨v, hv, _, rfl⟩

/-- The dispatcher of `write` runs when the linear buffer is there. -/
theorem writeDispatcher_runs {offset : ℤ} (hmode : (M.payloads p).mode = .NORMAL_BUF)
    (hfirst : (M.payloads p).first.isSome = true) :
    ∃ d, M.writeDispatcher fd p request_idx offset timeout_params r = .ok d := by
  unfold writeDispatcher
  obtain ⟨b, hb⟩ := firstLinear_isOk.mpr hfirst
  simp only [hmode]
  exact bind_isOk.mpr ⟨b, hb, _, rfl⟩

/-- The dispatcher of `recv` runs when the linear buffer is there. -/
theorem recvDispatcher_isOk :
    (∃ d, M.recvDispatcher fd p stream request_idx is_poll_first timeout_params r = .ok d) ↔
      (M.payloads p).first.isSome = true := by
  unfold recvDispatcher
  rw [← firstLinear_isOk]
  refine bind_isOk.trans ⟨fun ⟨b, hb, _⟩ => ⟨b, hb⟩, fun ⟨b, hb⟩ => ⟨b, hb, ?_⟩⟩
  cases (M.payloads p).mode with
  | PROVIDED | BUF_RING =>
    simp only
    split <;> exact ⟨_, rfl⟩
  | FIXED | NORMAL_BUF => exact ⟨_, rfl⟩

/-- The dispatcher of `recvmsg` runs when the vectored buffer is there. -/
theorem recvmsgDispatcher_runs {msghdr : Option MsghdrRef}
    (hmode : (M.payloads p).mode = .NORMAL_BUF) (hvector : (M.payloads p).vector.isSome = true) :
    ∃ d, M.recvmsgDispatcher fd p stream request_idx is_poll_first msghdr timeout_params r =
      .ok d := by
  unfold recvmsgDispatcher
  obtain ⟨v, hv⟩ := derefVector_isOk.mpr hvector
  simp only [hmode]
  exact bind_isOk.mpr ⟨v, hv, _, rfl⟩

/-- The dispatcher of `send` runs when the linear buffer is there. -/
theorem sendDispatcher_runs (hmode : (M.payloads p).mode = .NORMAL_BUF)
    (hfirst : (M.payloads p).first.isSome = true) :
    ∃ d, M.sendDispatcher fd p transfer_mode request_idx is_poll_first timeout_params r =
      .ok d := by
  unfold sendDispatcher
  obtain ⟨b, hb⟩ := firstLinear_isOk.mpr hfirst
  refine bind_isOk.mpr ⟨b, hb, ?_⟩
  cases transfer_mode with
  | ZERO_COPY => simp [hmode]
  | NORMAL_TRANSFER => exact ⟨_, rfl⟩

/-- Zero-copy transfer asks for an index, which a payload of a call does not have. -/
theorem sendmsgDispatcher_isOk {addr addrlen : ℕ} (hpool : (M.payloads p).idx_registry = none)
    (hvector : (M.payloads p).vector.isSome = true) :
    (∃ d, M.sendmsgDispatcher fd p transfer_mode request_idx addr addrlen is_poll_first
      timeout_params r = .ok d) ↔ transfer_mode = .NORMAL_TRANSFER := by
  unfold sendmsgDispatcher
  cases transfer_mode with
  | ZERO_COPY =>
    refine iff_of_false (fun h => ?_) (fun h => by cases h)
    obtain ⟨got, hacq, -⟩ := bind_isOk.mp h
    have hsome := acquireIdx_isOk.mp ⟨got, hacq⟩
    rw [hpool] at hsome
    cases hsome
  | NORMAL_TRANSFER =>
    obtain ⟨v, hv⟩ := derefVector_isOk.mpr hvector
    exact iff_of_true (bind_isOk.mpr ⟨v, hv, _, rfl⟩) rfl

/-- Without a pool, zero-copy transfer follows a null pointer. -/
theorem sendmsgDispatcher_zeroCopy {addr addrlen : ℕ} (hpool : (M.payloads p).idx_registry = none) :
    M.sendmsgDispatcher fd p .ZERO_COPY request_idx addr addrlen is_poll_first timeout_params r =
      .error .nullDeref := by
  simp only [sendmsgDispatcher, acquireIdx, hpool]
  rfl

/-! ## The calls -/

/-- What the attempt of a call needs of its payload is there exactly when `dispatches` says so, and
then the slot that it fills suits the reader. -/
structure Suited (L : Loop) (ctx : ExecutionContext) (op : Op) (env : CallEnv) (L₁ : Loop)
    (a : Attempt) : Prop where
  /-- The registry is as it was. -/
  registry : L₁.registry = L.registry
  /-- Before the dispatcher, the slots and the payloads are as they were. -/
  before : ∀ M : Loop, (a.before M).registry = M.registry ∧ (a.before M).payloads = M.payloads
  /-- The dispatcher leaves the slots, and the buffers of all payloads. -/
  keeps : ∀ (M : Loop) idx d, a.dispatch M idx = .ok d → d.loop.registry = M.registry ∧
    ∀ p, (M.payloads p).SameBuffers (d.loop.payloads p)
  /-- The dispatcher runs exactly where `dispatches` says so. -/
  runs : ∀ (M : Loop) idx, M.payloads = L₁.payloads →
    ((∃ d, a.dispatch M idx = .ok d) ↔ op.dispatches ctx env)
  /-- Then the slot suits the reader. -/
  suits : op.dispatches ctx env → ∀ i, Suits L₁.payloads ctx (a.request.slot i) op

/-- The call is an attempt that is suited, unless its object is closed. -/
def SuitedShape (L : Loop) (ctx : ExecutionContext) (op : Op) (env : CallEnv)
    (result : Except Fault Called) : Prop :=
  ∃ (L₁ : Loop) (a : Attempt), result = L.unlessClosed (L.refuses op) (L₁.attempt a) ∧
    Suited L ctx op env L₁ a

/-- A call that needs no payload. -/
theorem suited_bare {s : Loop → ℤ → Submission} (hclosed : closed = L.refuses op)
    (hreg : L₁.registry = L.registry)
    (hbefore : ∀ M : Loop, (a.before M).registry = M.registry ∧ (a.before M).payloads = M.payloads)
    (hdispatch : ∀ (M : Loop) idx, a.dispatch M idx = .ok (M.dispatched (s M idx)))
    (hop : op.dispatches ctx env) (hsuits : ∀ i, Suits L₁.payloads ctx (a.request.slot i) op) :
    SuitedShape L ctx op env (L.unlessClosed closed (L₁.attempt a)) := by
  subst hclosed
  refine ⟨L₁, a, rfl,
    { registry := hreg
      before := hbefore
      keeps := fun M idx d h => ?_
      runs := fun M idx _ => iff_of_true ⟨_, hdispatch M idx⟩ hop
      suits := fun _ => hsuits }⟩
  rw [hdispatch M idx] at h
  cases h
  exact ⟨rfl, fun _ => .refl _⟩

/-- A call whose dispatcher follows the pointers of a payload. -/
theorem suited_attempt (hclosed : closed = L.refuses op) (hreg : L₁.registry = L.registry)
    (hbefore : a.before = id)
    (hsub : ∀ (M : Loop) idx d, a.dispatch M idx = .ok d →
      Submitting (fun ring => CanSubmit ring op.timeoutParams env.submitted) M d)
    (hruns : ∀ (M : Loop) idx, M.payloads = L₁.payloads →
      ((∃ d, a.dispatch M idx = .ok d) ↔ op.dispatches ctx env))
    (hsuits : op.dispatches ctx env → ∀ i, Suits L₁.payloads ctx (a.request.slot i) op) :
    SuitedShape L ctx op env (L.unlessClosed closed (L₁.attempt a)) := by
  subst hclosed
  exact ⟨L₁, a, rfl,
    { registry := hreg
      before := fun M => by rw [hbefore]; exact ⟨rfl, rfl⟩
      keeps := fun M idx d h => ⟨(hsub M idx d h).registry, (hsub M idx d h).payloads⟩
      runs := hruns
      suits := hsuits }⟩

/-- A payload that the call made is read back. -/
theorem newPayload_get (L : Loop) (payload : BufferPayload) :
    (L.setPayload (.own L.calls) payload).payloads (.own L.calls) = payload := by simp [setPayload]

/-- **Every call has the shape.** -/
theorem call_suited (hctx : L.ContextsServing) (ctx : ExecutionContext) (op : Op) (env : CallEnv) :
    SuitedShape L ctx op env (L.call ctx op env) := by
  cases op with
  | «open» | socket | aexitFile | aexitSocket | timer =>
    exact suited_bare (show false = _ from rfl) rfl (fun _ => ⟨rfl, rfl⟩) (fun _ _ => rfl) trivial
      fun _ => trivial
  | fsync | fdatasync | splice | closeFile | bind | connect | listen | closeSocket =>
    exact suited_bare rfl rfl (fun _ => ⟨rfl, rfl⟩) (fun _ _ => rfl) trivial fun _ => trivial
  | accept s tp =>
    refine suited_attempt rfl rfl rfl (fun M idx d h => ?_)
      (fun M idx _ => iff_of_true ⟨_, rfl⟩ trivial) fun _ _ => trivial
    cases h
    exact acceptDispatcher_submitting _ _ _
  | read f offset size tp =>
    rcases hp : L.getOrCreateLinearBuffer ctx none size env with ⟨p, L₁⟩
    obtain ⟨-, hpool, hfirst⟩ := linear_payload hctx hp
    have hfirst := hfirst.mpr fun h => by cases h
    have hreg := (getOrCreateLinearBuffer_spec hctx.sound hp).1.prepares.registry
    simp only [call, uringioFileRead, hp, withPayload]
    exact suited_attempt rfl hreg rfl (fun _ _ _ h => readDispatcher_submitting h)
      (fun M idx hM => iff_of_true (readDispatcher_runs (hM ▸ hfirst) (hM ▸ hpool)) trivial)
      fun _ _ => ⟨p, rfl, hfirst, hpool⟩
  | readv f buffers offset nowait tp =>
    rcases hp : L.readvPayload ctx buffers env with ⟨p, L₁⟩
    have hcases := readv_payload hctx hp
    have hreg := (readvPayload_spec hctx.sound hp).prepares.registry
    simp only [call, uringioFileReadv, hp, withPayload]
    refine suited_attempt rfl hreg rfl (fun _ _ _ h => readvDispatcher_submitting h)
      (fun M idx hM => iff_of_true (readvDispatcher_runs ?_) trivial) fun _ _ => ⟨p, rfl, ?_⟩
    · rw [hM]
      rcases hcases with ⟨-, hmode, hfirst, -⟩ | ⟨-, hnew⟩
      · exact .inl ⟨hmode, hfirst⟩
      · rw [hnew]
        exact .inr ⟨rfl, rfl⟩
    · rcases hcases with ⟨hprovides, -, -, hvector⟩ | ⟨hprovides, hnew⟩
      · rw [hvector]
        exact iff_of_false Bool.false_ne_true (not_not.mpr hprovides)
      · rw [hnew]
        exact iff_of_true rfl hprovides
  | readvRaw f iovecs offset nowait tp =>
    refine suited_attempt rfl rfl rfl (fun M idx d h => ?_) (fun M idx hM => ?_) fun _ _ => ?_
    · obtain ⟨v, -, h⟩ := bind_eq_ok.mp h
      cases h
      exact submitting_request_self
    · refine iff_of_true (bind_isOk.mpr ?_) trivial
      have hvector : (M.payloads (.own L.calls)).vector.isSome = true := by
        rw [hM, newPayload_get]
        rfl
      obtain ⟨v, hv⟩ := derefVector_isOk.mpr hvector
      exact ⟨v, hv, _, rfl⟩
    · refine ⟨.own L.calls, rfl, ?_⟩
      rw [newPayload_get]
      rfl
  | write f data offset tp =>
    have hget := newPayload_get L (createBufferPayloadFromData data)
    refine suited_attempt rfl rfl rfl (fun _ _ _ h => writeDispatcher_submitting h)
      (fun M idx hM => iff_of_true (writeDispatcher_runs ?_ ?_) trivial)
      fun _ _ => ⟨.own L.calls, rfl, ?_⟩
    · rw [hM, hget]
      rfl
    · rw [hM, hget]
      rfl
    · rw [hget]
      rfl
  | writev f buffers flags offset tp =>
    rcases hp : L.getOrCreateVectoredBuffer ctx (some buffers) env with ⟨p, L₁⟩
    have hnew := vectored_payload hctx hp
    have hreg := (getOrCreateVectoredBuffer_spec hctx.sound hp).1.prepares.registry
    simp only [call, uringioFileWritev, hp, writevAttempt, withPayload]
    refine suited_attempt rfl hreg rfl (fun M idx d h => ?_) (fun M idx hM => ?_) fun _ _ => trivial
    · obtain ⟨v, -, h⟩ := bind_eq_ok.mp h
      cases h
      exact submitting_request_self
    · refine iff_of_true (bind_isOk.mpr ?_) trivial
      have hvector : (M.payloads p).vector.isSome = true := by
        rw [hM, hnew]
        rfl
      obtain ⟨v, hv⟩ := derefVector_isOk.mpr hvector
      exact ⟨v, hv, _, rfl⟩
  | writevRaw f iovecs flags offset tp =>
    refine suited_attempt rfl rfl rfl (fun M idx d h => ?_) (fun M idx hM => ?_) fun _ _ => trivial
    · obtain ⟨v, -, h⟩ := bind_eq_ok.mp h
      cases h
      exact submitting_request_self
    · refine iff_of_true (bind_isOk.mpr ?_) trivial
      have hvector : (M.payloads (.own L.calls)).vector.isSome = true := by
        rw [hM, newPayload_get]
        rfl
      obtain ⟨v, hv⟩ := derefVector_isOk.mpr hvector
      exact ⟨v, hv, _, rfl⟩
  | send s data is_poll_first tp =>
    have hget := newPayload_get L (createBufferPayloadFromData data)
    refine suited_attempt rfl rfl rfl (fun _ _ _ h => sendDispatcher_submitting h)
      (fun M idx hM => iff_of_true (sendDispatcher_runs ?_ ?_) trivial)
      fun _ _ => ⟨.own L.calls, rfl, ?_⟩
    · rw [hM, hget]
      rfl
    · rw [hM, hget]
      rfl
    · rw [hget]
      rfl
  | recv s bufsize buffer is_poll_first tp =>
    rcases hp : L.getOrCreateLinearBuffer ctx buffer bufsize env with ⟨p, L₁⟩
    obtain ⟨-, hpool, hfirst⟩ := linear_payload hctx hp
    have hreg := (getOrCreateLinearBuffer_spec hctx.sound hp).1.prepares.registry
    simp only [call, uringioSocketRecv, hp, withPayload]
    refine suited_attempt rfl hreg rfl (fun _ _ _ h => recvDispatcher_submitting h)
      (fun M idx hM => ?_) fun h _ => ⟨p, rfl, hfirst.mpr (dispatches_recv_iff.mp h), hpool⟩
    refine recvDispatcher_isOk.trans ?_
    rw [hM, hfirst, dispatches_recv_iff]
  | sendto s data domain is_poll_first tp =>
    refine suited_attempt rfl rfl rfl (fun M idx d h => ?_) (fun M idx hM => ?_) fun _ _ => rfl
    · obtain ⟨v, -, h⟩ := bind_eq_ok.mp h
      cases h
      exact submitting_request_self
    · refine iff_of_true (bind_isOk.mpr ?_) trivial
      have hfirst : (M.payloads (.own L.calls)).first.isSome = true := by
        rw [hM, newPayload_get]
        rfl
      obtain ⟨b, hb⟩ := firstLinear_isOk.mpr hfirst
      exact ⟨b, hb, _, rfl⟩
  | recvfrom s bufsize buffer domain is_poll_first tp =>
    rcases hp : L.getOrCreateLinearBuffer ctx buffer (CInt.toInt bufsize) env with ⟨p, L₁⟩
    obtain ⟨htype, hpool, hfirst⟩ := linear_payload hctx hp
    have hreg := (getOrCreateLinearBuffer_spec hctx.sound hp).1.prepares.registry
    simp only [call, uringioSocketRecvfrom, hp]
    refine suited_attempt rfl hreg rfl (fun M idx d h => ?_) (fun M idx hM => ?_)
      fun h _ => ⟨rfl, p, rfl, hfirst.mpr (dispatches_recvfrom_iff.mp h), hpool, htype⟩
    · obtain ⟨v, -, h⟩ := bind_eq_ok.mp h
      cases h
      exact submitting_request_self
    · rw [dispatches_recvfrom_iff, ← hfirst, ← hM, ← firstLinear_isOk]
      refine bind_isOk.trans ⟨?_, ?_⟩
      · rintro ⟨b, hb, -⟩
        exact ⟨b, hb⟩
      · rintro ⟨b, hb⟩
        exact ⟨b, hb, _, rfl⟩
  | sendmsg s buffers domain is_poll_first tp =>
    rcases hp : L.getOrCreateVectoredBuffer ctx (some buffers) env with ⟨p, L₁⟩
    have hnew := vectored_payload hctx hp
    have hreg := (getOrCreateVectoredBuffer_spec hctx.sound hp).1.prepares.registry
    simp only [call, uringioSocketSendmsg, hp, withPayload]
    refine suited_attempt rfl hreg rfl (fun _ _ _ h => sendmsgDispatcher_submitting h)
      (fun M idx hM => sendmsgDispatcher_isOk ?_ ?_) fun _ _ => ⟨p, rfl, ?_⟩
    · rw [hM, hnew]
      rfl
    · rw [hM, hnew]
      rfl
    · rw [hnew]
      rfl
  | recvmsg s buffers is_poll_first tp =>
    rcases hp : L.getOrCreateVectoredBuffer ctx (some buffers) env with ⟨p, L₁⟩
    have hnew := vectored_payload hctx hp
    have hreg := (getOrCreateVectoredBuffer_spec hctx.sound hp).1.prepares.registry
    simp only [call, uringioSocketRecvmsg, hp, withPayload]
    refine suited_attempt rfl hreg rfl (fun _ _ _ h => recvmsgDispatcher_submitting h)
      (fun M idx hM => iff_of_true (recvmsgDispatcher_runs ?_ ?_) trivial) fun _ _ =>
        ⟨rfl, p, rfl, ?_⟩
    · rw [hM, hnew]
      rfl
    · rw [hM, hnew]
      rfl
    · rw [hnew]
      exact ⟨rfl, rfl, rfl, rfl⟩

/-- **When a call follows no null pointer.** -/
theorem call_ok_iff (hctx : L.ContextsServing) (hcons : L.registry.Consistent) :
    (∃ c, L.call ctx op env = .ok c) ↔ L.DispatchSafe ctx op env := by
  obtain ⟨L₁, a, hcall, ha⟩ := call_suited hctx ctx op env
  rw [hcall]
  unfold unlessClosed DispatchSafe
  cases hrefuses : L.refuses op with
  | true => exact iff_of_true ⟨_, rfl⟩ (.inl rfl)
  | false =>
    simp only [Bool.false_eq_true, if_false, false_or]
    unfold attempt
    rcases registryAdd_cases L₁.registry a.request with
      ⟨hempty, hadd⟩ | ⟨idx, reg, hadd, hr, hstack, -, hslot, -⟩
    · rw [hadd]
      exact iff_of_true ⟨_, rfl⟩ (.inl (ha.registry ▸ hempty))
    · have hne : L.registry.available_indices.entries ≠ [] := by
        rw [← ha.registry, hstack]
        exact List.append_ne_nil_of_right_ne_nil _ (List.cons_ne_nil _ _)
      obtain ⟨hcons', -, -⟩ := registryAdd_consistent (ha.registry ▸ hcons) hadd
        (by have := hr.1; omega)
      rw [hadd]
      simp only [show ¬ idx < 0 by have := hr.1; omega, if_false, hne, false_or]
      obtain ⟨refs, hrefs⟩ := acquires_eq L₁ reg a.request
      rw [hrefs]
      obtain ⟨hbreg, hbpay⟩ :=
        ha.before { L₁.createFuture with registry := reg, refs := refs }
      rw [← ha.runs _ idx hbpay, bind_isOk]
      refine ⟨fun ⟨d, hd, _⟩ => ⟨d, hd⟩, fun ⟨d, hd⟩ => ⟨d, hd, ?_⟩⟩
      have hdreg : d.loop.registry = reg := (ha.keeps _ idx d hd).1.trans hbreg
      split
      · -- The slot that was filled can be given back.
        have hlive : d.loop.registry.Live idx := by
          rw [hdreg]
          exact RequestRegistry.live_of_slot hslot
        obtain ⟨L', hrem⟩ := registryRemove_isOk (by rw [hdreg]; exact hcons') hlive
        exact bind_isOk.mpr ⟨L', hrem, _, rfl⟩
      · exact ⟨_, rfl⟩

/-- A `sendmsg` with zero-copy transfer asks the payload that it has built for an index. -/
theorem call_sendmsg_zeroCopy {s : SocketRef} {buffers : List Region} {domain : Option ℤ}
    {timeout_params : TimeoutParams} (hctx : L.ContextsServing)
    (hopen : (L.sockets s).closed = false) (hfree : L.registry.available_indices.entries ≠ [])
    (hmode : ctx.transfer_mode = .ZERO_COPY) :
    L.call ctx (.sendmsg s buffers domain is_poll_first timeout_params) env =
      .error .nullDeref := by
  rcases hp : L.getOrCreateVectoredBuffer ctx (some buffers) env with ⟨p, L₁⟩
  have hnew := vectored_payload hctx hp
  have hreg := (getOrCreateVectoredBuffer_spec hctx.sound hp).1.prepares.registry
  simp only [call, uringioSocketSendmsg, unlessClosed, hopen, hp, withPayload, attempt,
    Bool.false_eq_true, if_false]
  rcases registryAdd_cases L₁.registry _ with ⟨hempty, hadd⟩ | ⟨idx, reg, hadd, hr, -, -, -, -⟩
  · exact absurd (hreg ▸ hempty) hfree
  · rw [hadd]
    have hpos : ¬ idx < 0 := by have := hr.1; omega
    simp only [hpos, if_false, hmode, id]
    rw [sendmsgDispatcher_zeroCopy]
    · rfl
    · -- The payload of the call has no pool.
      obtain ⟨refs, hrefs⟩ := acquires_eq L₁ reg
        { L₁.request .sendmsg none (some s) with buffer_payload := some p }
      rw [hrefs]
      exact hnew ▸ rfl

/-- What suits the reader depends on the buffers of the payloads. -/
theorem suits_congr {payloads payloads' : PayloadRef → BufferPayload} {slot : RequestSlot}
    (hp : ∀ p, slot.buffer_payload = some p → (payloads p).SameBuffers (payloads' p))
    (hctx : ∀ n, (payloads (.context n)).SameBuffers (payloads' (.context n)))
    (h : Suits payloads ctx slot op) : Suits payloads' ctx slot op := by
  have hfirst : ∀ p, slot.buffer_payload = some p → (payloads' p).first = (payloads p).first :=
    fun p h => by simp only [BufferPayload.first, (hp p h).linear]
  have hpool : ∀ p, slot.buffer_payload = some p → (payloads' p).poolOk = (payloads p).poolOk :=
    fun p h => by simp only [BufferPayload.poolOk, (hp p h).mode, (hp p h).pool]
  have hprovides : ctx.provides payloads' ↔ ctx.provides payloads := by
    unfold ExecutionContext.provides
    cases ctx.buffer_payload with
    | none => rfl
    | some n => simp only [(hctx n).mode]
  cases op <;> simp only [Suits] at h ⊢ <;> try exact h
  case read | recv =>
    obtain ⟨p, hslot, hf, hpo⟩ := h
    exact ⟨p, hslot, by rw [hfirst p hslot]; exact hf, by rw [hpool p hslot]; exact hpo⟩
  case recvfrom =>
    obtain ⟨hstream, p, hslot, hf, hpo, htype⟩ := h
    exact ⟨hstream, p, hslot, by rw [hfirst p hslot]; exact hf, by rw [hpool p hslot]; exact hpo,
      by rw [(hp p hslot).payload_type]; exact htype⟩
  case readv =>
    obtain ⟨p, hslot, hv⟩ := h
    exact ⟨p, hslot, by rw [(hp p hslot).vector, hprovides]; exact hv⟩
  case readvRaw =>
    obtain ⟨p, hslot, hv⟩ := h
    exact ⟨p, hslot, by rw [(hp p hslot).vector]; exact hv⟩
  case write | send | sendmsg =>
    obtain ⟨p, hslot, hpo⟩ := h
    exact ⟨p, hslot, by rw [hpool p hslot]; exact hpo⟩
  case recvmsg =>
    obtain ⟨hstream, p, hslot, hpo, htype, hv, hf⟩ := h
    exact ⟨hstream, p, hslot, by rw [hpool p hslot]; exact hpo,
      by rw [(hp p hslot).payload_type]; exact htype, by rw [(hp p hslot).vector]; exact hv,
      by rw [hfirst p hslot]; exact hf⟩

/-- **What an accepted call leaves in its slot** suits the reader. -/
theorem call_suits (hctx : L.ContextsServing) (h : L.call ctx op env = .ok c)
    (hfuture : c.future ≠ none) {slot : RequestSlot}
    (hget : registryGet c.loop.registry c.request_idx = some slot) :
    Suits c.loop.payloads ctx slot op := by
  obtain ⟨L₁, a, hcall, ha⟩ := call_suited hctx ctx op env
  rw [hcall, unlessClosed] at h
  split at h
  · cases h
    exact absurd rfl hfuture
  · unfold attempt at h
    rcases registryAdd_cases L₁.registry a.request with
      ⟨-, hadd⟩ | ⟨idx, reg, hadd, hr, -, -, hslot, -⟩
    · rw [hadd] at h
      simp only [show (-1 : ℤ) < 0 by decide, if_true, Except.ok.injEq] at h
      subst h
      exact absurd rfl hfuture
    · rw [hadd] at h
      simp only [show ¬ idx < 0 by have := hr.1; omega, if_false] at h
      obtain ⟨d, hd, h⟩ := bind_eq_ok.mp h
      obtain ⟨refs, hrefs⟩ := acquires_eq L₁ reg a.request
      rw [hrefs] at hd
      obtain ⟨hbreg, hbpay⟩ :=
        ha.before { L₁.createFuture with registry := reg, refs := refs }
      obtain ⟨hkreg, hkpay⟩ := ha.keeps _ idx d hd
      have hsame : ∀ p, (L₁.payloads p).SameBuffers (d.loop.payloads p) := by
        intro p
        have hb : L₁.payloads p = _ := (congrFun hbpay p).symm
        rw [hb]
        exact hkpay p
      have hruns := (ha.runs _ idx hbpay).mp ⟨d, hd⟩
      split at h
      · obtain ⟨L₂, -, h⟩ := bind_eq_ok.mp h
        cases h
        exact absurd rfl hfuture
      · cases h
        rw [show d.loop.registry = reg from hkreg.trans hbreg, hslot, Option.some.injEq] at hget
        rw [← hget]
        exact suits_congr (fun p _ => hsame p) (fun n => hsame _) (ha.suits hruns idx)

/-! ## The reader -/

/-- The reader returns exactly when the completion is of some kind. -/
theorem readCqe_isOk {k : ℕ} {slot : RequestSlot} {renv : ReadEnv} {cqe : Cqe} (h : L.Sound)
    (hget : registryGet L.registry cqe.index = some slot) (hfut : slot.future = some k) :
    (∃ rd, readCqe L renv cqe = .ok rd) ↔ (L.completionKind renv cqe).isSome = true := by
  cases hkind : L.completionKind renv cqe with
  | none =>
    obtain ⟨e, he⟩ := readCqe_kind h hget hfut hkind
    refine iff_of_false (fun ⟨rd, hr⟩ => ?_) Bool.false_ne_true
    rw [he] at hr
    cases hr
  | some kind =>
    obtain ⟨rd, hr, -⟩ := readCqe_kind h hget hfut hkind
    exact iff_of_true ⟨rd, hr⟩ rfl

/-- The release of an index of a payload that has a pool if it needs one. -/
theorem releasing_isSome {payload : BufferPayload} (h : payload.poolOk = true)
    (kind : CompletionKind) : (payload.releasing kind) = some kind := if_pos h

/-- **When the reader follows no null pointer**, in a slot that suits it. -/
theorem read_ok_iff {k : ℕ} {slot : RequestSlot} {renv : ReadEnv} {cqe : Cqe} (h : L.Sound)
    (hget : registryGet L.registry cqe.index = some slot) (hfut : slot.future = some k)
    (hop : slot.opcode = op.opcode) (hres : 0 ≤ cqe.res) (hsuits : Suits L.payloads ctx slot op) :
    (∃ rd, readCqe L renv cqe = .ok rd) ↔ ReadSafe L.payloads ctx op := by
  rw [readCqe_isOk h hget hfut, completionKind, hget]
  have hnot : ¬ (cqe.res < 0 ∧ ¬ timeoutExpired slot cqe = true) := fun hneg => by omega
  simp only [slotKind, hfut, Option.isNone_some, Bool.false_eq_true, if_false, hnot]
  unfold switchKind
  rw [hop]
  cases op <;> simp only [Op.opcode, Suits, ReadSafe] at hsuits ⊢
  case read =>
    obtain ⟨p, hp, hf, hpool⟩ := hsuits
    obtain ⟨b, hb⟩ := Option.isSome_iff_exists.mp hf
    simp [hp, hb, releasing_isSome hpool]
  case readv =>
    obtain ⟨p, hp, hv⟩ := hsuits
    simp only [hp, Option.map_some, Option.bind_some, Option.isSome_map]
    exact hv
  case readvRaw =>
    obtain ⟨p, hp, hv⟩ := hsuits
    simp [hp, hv]
  case write =>
    obtain ⟨p, hp, hpool⟩ := hsuits
    simp [hp, releasing_isSome hpool]
  case send | sendmsg =>
    obtain ⟨p, hp, hpool⟩ := hsuits
    simp [hp, releasing_isSome hpool]
  case sendto => simp [hsuits]
  case recv =>
    obtain ⟨p, hp, hf, hpool⟩ := hsuits
    obtain ⟨b, hb⟩ := Option.isSome_iff_exists.mp hf
    refine iff_of_true ?_ trivial
    split
    · rfl
    · simp only [hp, Option.map_some, Option.bind_some, hb, releasing_isSome hpool]
      split <;> rfl
  case recvfrom =>
    obtain ⟨hstream, p, hp, hf, hpool, htype⟩ := hsuits
    obtain ⟨b, hb⟩ := Option.isSome_iff_exists.mp hf
    simp [hp, hb, releasing_isSome hpool, hstream, htype]
  case recvmsg =>
    obtain ⟨hstream, p, hp, hpool, htype, hv, hf⟩ := hsuits
    simp only [hp, Option.map_some, Option.bind_some, releasing_isSome hpool, hstream]
    cases ctx.stream with
    | MULTISHOT =>
      -- The payload has no linear buffer.
      simp [multishotKind, hf]
    | ONESHOT => simp [htype, hv]
  case accept =>
    refine iff_of_true ?_ trivial
    split <;> rfl
  all_goals exact iff_of_true rfl trivial

end Loop

end Uringio
