import Uringio.Loop.State
import Uringio.Ops.Sockets

/-!
# The reader

`on_uring_ready`: what the loop does with one entry of the completion queue. The entry's tag is cut
to an `int` and used as an index of the registry; an entry whose slot is not in use is dropped. The
switch over the opcode is `complete`: it turns the slot and the result into the value of the future
and releases the slot's payload. What follows is the same for every opcode: resolve the future,
remove the request.

The value of a failed allocation is not modelled but for the new socket of `accept`, which the
source handles.
-/

namespace Uringio

/-- A completion queue entry. -/
structure Cqe where
  /-- The tag of the entry. -/
  user_data : ℕ
  /-- The result. -/
  res : ℤ
  /-- The flags. -/
  flags : ℕ
  deriving DecidableEq

/-- `IORING_CQE_F_MORE`: the request will post more entries. -/
def IORING_CQE_F_MORE : ℕ := 2

/-- `IORING_CQE_F_NOTIF`: the kernel is done with the buffer of a zero-copy send. -/
def IORING_CQE_F_NOTIF : ℕ := 8

/-- `IORING_CQE_BUFFER_SHIFT`. -/
def IORING_CQE_BUFFER_SHIFT : ℕ := 16

/-- `ETIME`. -/
def ETIME : ℤ := 62

/-- `cqe->flags & IORING_CQE_F_MORE`. -/
def Cqe.more (cqe : Cqe) : Bool := cqe.flags &&& IORING_CQE_F_MORE ≠ 0

/-- The `int` that the reader uses as an index. -/
def Cqe.index (cqe : Cqe) : ℤ := CInt.toInt cqe.user_data

/-- What the reader meets outside the program. -/
structure ReadEnv where
  /-- `PyObject_GC_New` returns an object. -/
  gcNew : Bool
  /-- Where `io_uring_recvmsg_validate` and its companions find the payload of the message in the
  buffer at the given address; `none` when the message is not valid. -/
  recvmsgOut : ℕ → Option Memory.Region
  /-- The result of `io_uring_submit`. -/
  submitted : ℤ

/-- What the switch leaves: the slot as it is (`continue`), or a slot to be removed, with the value
of the future (`none` when there is none) and the entries that the kernel consumed meanwhile. -/
inductive Disposition
  | leave (L : Loop)
  | finish (L : Loop) (result : Option Outcome) (consumed : List (ℕ × Sqe))

/-- `payload->linear[0]`. -/
def BufferPayload.firstLinear (payload : BufferPayload) : Except Fault LinearBuffer :=
  match payload.linear with
  | some (b :: _) => .ok b
  | _ => .error .nullDeref

/-- `*payload->vector`. -/
def BufferPayload.derefVector (payload : BufferPayload) : Except Fault VectoredBuffer :=
  match payload.vector with
  | some v => .ok v
  | none => .error .nullDeref

/-- The regions that the reader's copy loop walks over. -/
def VectoredBuffer.regions (v : VectoredBuffer) : List Memory.Region :=
  (v.iovecs.take v.nr_vecs).map Iovec.region

namespace Loop

variable (L : Loop)

/-- The release of the index of a `FIXED` payload. -/
def releaseFixed (p : PayloadRef) : Except Fault Loop :=
  if (L.payloads p).mode = .FIXED then
    match (L.payloads p).idx_registry with
    | none => .error .nullDeref
    | some reg =>
      .ok (L.setPayload p { L.payloads p with
        idx_registry := some (releaseBufferIdx reg (L.payloads p).buf_idx).2 })
  else .ok L

/-- `free_buffer_payload(slot->buffer_payload, force); slot->buffer_payload = NULL`. -/
def dropPayload (index : ℤ) (p : PayloadRef) (force : Bool) : Loop :=
  (L.freeBufferPayload (some p) force).modifySlot index fun s => { s with buffer_payload := none }

/-- The bytes at the front of a linear buffer. -/
def bytesAt (addr : ℕ) (res : ℤ) : Outcome := .bytes (Memory.read L.mem addr res.toNat)

/-- The copy loop: `res` bytes from the regions of the vector. -/
def bytesOf (v : VectoredBuffer) (res : ℤ) : Outcome :=
  .bytes (Memory.gather L.mem v.regions res.toNat)

/-- The end of the cases that release the index of the slot's payload, and the payload. -/
def finishPayload (index : ℤ) (p : PayloadRef) (force : Bool) (result : Option Outcome) :
    Except Fault Disposition := do
  let L ← L.releaseFixed p
  .ok (.finish (L.dropPayload index p force) result [])

/-- `case IORING_OP_READ`. -/
def completeRead (index : ℤ) (slot : RequestSlot) (cqe : Cqe) : Except Fault Disposition := do
  let (p, payload) ← L.deref slot.buffer_payload
  let linear ← payload.firstLinear
  L.finishPayload index p false
    (if linear.buffer = 0 then none else some (L.bytesAt linear.buffer cqe.res))

/-- `case IORING_OP_READV`. -/
def completeReadv (index : ℤ) (slot : RequestSlot) (cqe : Cqe) : Except Fault Disposition := do
  let (p, payload) ← L.deref slot.buffer_payload
  let vec ← payload.derefVector
  .ok (.finish (L.dropPayload index p false) (some (L.bytesOf vec cqe.res)) [])

/-- `case IORING_OP_WRITE`. -/
def completeWrite (index : ℤ) (slot : RequestSlot) (cqe : Cqe) : Except Fault Disposition := do
  let (p, _) ← L.deref slot.buffer_payload
  L.finishPayload index p true (some (.int cqe.res))

/-- `case IORING_OP_WRITEV`. -/
def completeWritev (index : ℤ) (slot : RequestSlot) (cqe : Cqe) : Disposition :=
  match slot.buffer_payload with
  | none => .finish L (some (.int cqe.res)) []
  | some p => .finish (L.dropPayload index p false) (some (.int cqe.res)) []

/-- `case IORING_OP_SEND` and `case IORING_OP_SENDMSG`. -/
def completeSend (index : ℤ) (slot : RequestSlot) (cqe : Cqe) : Except Fault Disposition :=
  match slot.buffer_payload with
  | none => .ok (.finish L (some (.int cqe.res)) [])
  | some _ => do
    let (p, _) ← L.deref slot.buffer_payload
    L.finishPayload index p false (some (.int cqe.res))

/-- `case IORING_OP_OPENAT2`. -/
def completeOpenat2 (slot : RequestSlot) (cqe : Cqe) : Disposition :=
  match slot.file with
  | none => .finish L none []
  | some f =>
    .finish { L with files := Function.update L.files f { L.files f with fd := cqe.res } }
      (some (.file f cqe.res)) []

/-- `case IORING_OP_SOCKET`. -/
def completeSocket (slot : RequestSlot) (cqe : Cqe) : Disposition :=
  match slot.socket with
  | none => .finish L none []
  | some s =>
    .finish { L with
      sockets := Function.update L.sockets s { L.sockets s with sock_fd := cqe.res } }
      (some (.socket s cqe.res)) []

/-- `case IORING_OP_BIND`, `case IORING_OP_CONNECT` and `case IORING_OP_LISTEN`. -/
def completeOnSocket (slot : RequestSlot) (cqe : Cqe) : Disposition :=
  .finish L (slot.socket.map fun _ => .int cqe.res) []

/-- `free(addr)` of an address that may be `NULL`. -/
def freeSockaddr (addr : Option SockaddrRef) : Loop :=
  match addr with
  | none => L
  | some a => L.release (.sockaddr a)

/-- `case IORING_OP_ACCEPT`. -/
def completeAccept (index : ℤ) (slot : RequestSlot) (future : FutureRef) (env : ReadEnv)
    (cqe : Cqe) : Disposition :=
  match slot.socket with
  | none => .finish L none []
  | some s =>
    -- The message of the exception is printed, which clears any exception that is pending.
    if ¬ env.gcNew then .leave ({ L with err := false }.freeSockaddr slot.addr)
    else
      let conn : UringioSocket := ⟨cqe.res, (L.sockets s).domain, slot.addr, false⟩
      .finish
        ({ L with
            sockets := Function.update L.sockets (.accepted future (L.accepted future)) conn
            accepted := Function.update L.accepted future (L.accepted future + 1) }.modifySlot
          index fun s =>
          { s with buffer_payload := none })
        (some (.connection cqe.res conn.domain slot.addr)) []

/-- `case IORING_OP_RECV`. -/
def completeRecv (index : ℤ) (slot : RequestSlot) (cqe : Cqe) : Except Fault Disposition :=
  match slot.socket with
  | none => .ok (.finish L none [])
  | some _ => do
    let (p, payload) ← L.deref slot.buffer_payload
    let result ←
      if cqe.res = 0 then .ok (some (.bytes []))
      else if cqe.res > 0 then do
        let linear ← payload.firstLinear
        .ok (some (L.bytesAt linear.buffer cqe.res))
      else .ok none
    L.finishPayload index p false result

/-- The branch of `case IORING_OP_RECVMSG` for a multishot request. It keeps the payload. -/
def completeRecvmsgMultishot (index : ℤ) (slot : RequestSlot) (payload : BufferPayload)
    (env : ReadEnv) (cqe : Cqe) : Except Fault Disposition := do
  let linear ← payload.firstLinear
  let bid := cqe.flags >>> IORING_CQE_BUFFER_SHIFT
  let out := env.recvmsgOut (linear.buffer + bid * linear.len)
  -- The message about an invalid result is printed, which clears any exception that is pending.
  let L := { L with err := L.err && out.isSome }
  let result := match out with
    | none => Outcome.bytes []
    | some r => .bytes (Memory.read L.mem r.addr r.len)
  if cqe.more then .ok (.finish L (some result) [])
  else
    match slot.socket with
    | none => .error .nullDeref
    | some s =>
      let again := uringioRecvmsgMultishot L.ring index (L.sockets s).sock_fd payload.bgid false
        slot.msghdr .zero env.submitted
      .ok (.finish { L with ring := again.ring } (some result) again.consumed)

/-- `case IORING_OP_RECVMSG`. -/
def completeRecvmsg (index : ℤ) (slot : RequestSlot) (env : ReadEnv) (cqe : Cqe) :
    Except Fault Disposition := do
  let (p, payload) ← L.deref slot.buffer_payload
  let L ← L.releaseFixed p
  if slot.stream_strategy = .MULTISHOT then
    L.completeRecvmsgMultishot index slot payload env cqe
  else if payload.payload_type = .PAYLOAD_LINEAR then do
    let linear ← payload.firstLinear
    let freed := (L.freeSockaddr slot.addr).modifySlot index fun s => { s with addr := none }
    .ok (.finish (freed.dropPayload index p false) (some (L.bytesAt linear.buffer cqe.res)) [])
  else do
    let vec ← payload.derefVector
    .ok (.finish (L.dropPayload index p false) (some (L.bytesOf vec cqe.res)) [])

/-- `case IORING_OP_CLOSE`. -/
def completeClose (slot : RequestSlot) (cqe : Cqe) : Disposition :=
  match slot.socket, slot.file with
  | some s, _ =>
    .finish { L with sockets := Function.update L.sockets s { L.sockets s with closed := true } }
      (some (.int cqe.res)) []
  | none, some f =>
    .finish { L with files := Function.update L.files f { L.files f with closed := true } }
      (some (.int cqe.res)) []
  | none, none => .finish L none []

/-- The switch over the opcode of the slot. -/
def complete (index : ℤ) (slot : RequestSlot) (future : FutureRef) (env : ReadEnv) (cqe : Cqe) :
    Except Fault Disposition :=
  match slot.opcode with
  | .read => L.completeRead index slot cqe
  | .readv => L.completeReadv index slot cqe
  | .write => L.completeWrite index slot cqe
  | .writev => .ok (L.completeWritev index slot cqe)
  | .openat2 => .ok (L.completeOpenat2 slot cqe)
  | .socket => .ok (L.completeSocket slot cqe)
  | .bind | .connect | .listen => .ok (L.completeOnSocket slot cqe)
  | .accept => .ok (L.completeAccept index slot future env cqe)
  | .recv => L.completeRecv index slot cqe
  | .recvmsg => L.completeRecvmsg index slot env cqe
  | .send | .sendmsg => L.completeSend index slot cqe
  | .close => .ok (L.completeClose slot cqe)
  | .timeout => .ok (.finish L (some .none) [])
  | _ => .ok (.finish L (some (.int cqe.res)) [])

/-- The branch for the wakeup tag: arm the read of the eventfd again. -/
def rearmWakeup : Loop :=
  match getSqe L.ring with
  | none => L
  | some (sqe, ring) =>
    { L with ring := ring.modify sqe fun e =>
        (e.prepare (.read L.wakeup_fd L.wakeup_buf 8 0)).setData64 WAKEUP_FD_TAG }

/-- `set_result` with the value of the future, if there is one. -/
def setResult (future : FutureRef) (result : Option Outcome) : Loop :=
  match result with
  | none => L
  | some outcome => L.resolve future outcome

/-- The exception branch: the call that makes the exception object fails while another exception
is pending, and then that one is printed and cleared. -/
def setException (future : FutureRef) (cqe : Cqe) : Loop × Option (FutureRef × Outcome) :=
  if L.err then ({ L with err := false }, none)
  else (L.resolve future (.osError (-cqe.res)), some (future, .osError (-cqe.res)))

end Loop

/-- What the reader does with one entry: the loop, the call of `set_result` or `set_exception`
that it made, the entries that the kernel consumed, and whether it read the eventfd. -/
structure Read where
  /-- The loop after the turn. -/
  loop : Loop
  /-- The future that was resolved, with what it was resolved with. -/
  call : Option (FutureRef × Outcome)
  /-- The entries that the kernel took. -/
  consumed : List (ℕ × Sqe)
  /-- The eventfd was read. -/
  wakeupRead : Bool

/-- `slot->opcode == IORING_OP_TIMEOUT && cqe->res == -ETIME`. -/
def timeoutExpired (slot : RequestSlot) (cqe : Cqe) : Bool :=
  slot.opcode = .timeout ∧ cqe.res = -ETIME

/-- The exception branch, and the removal of the request. -/
def Loop.raise (L : Loop) (index : ℤ) (future : FutureRef) (cqe : Cqe) : Except Fault Read := do
  let set := L.setException future cqe
  let L ← set.1.registryRemove index
  .ok ⟨L, set.2, [], false⟩

/-- What follows the switch: the future is resolved and the request removed. -/
def Disposition.deliver (index : ℤ) (future : FutureRef) : Disposition → Except Fault Read
  | .leave L => .ok ⟨L, none, [], false⟩
  | .finish L result consumed => do
    let L ← (L.setResult future result).registryRemove index
    .ok ⟨L, result.map (future, ·), consumed, false⟩

/-- What the reader does with an entry, given the slot that `registry_get` returned. The macro that
would recognize the completion of the signal pipe is `0` for a 64-bit number, so its branch is not
there. -/
def readSlot (L : Loop) (env : ReadEnv) (cqe : Cqe) : Option RequestSlot → Except Fault Read
  | none => .ok ⟨L, none, [], false⟩
  | some slot =>
    match slot.future with
    | none => .ok ⟨L, none, [], false⟩
    | some future =>
      if cqe.res < 0 ∧ ¬ timeoutExpired slot cqe then L.raise cqe.index future cqe
      else if cqe.user_data = WAKEUP_FD_TAG then .ok ⟨L.rearmWakeup, none, [], true⟩
      else L.complete cqe.index slot future env cqe >>= Disposition.deliver cqe.index future

/-- One iteration of the loop of `on_uring_ready`. -/
def readCqe (L : Loop) (env : ReadEnv) (cqe : Cqe) : Except Fault Read :=
  readSlot L env cqe (registryGet L.registry cqe.index)

/-- `on_uring_ready` on the entries of the completion queue: the loop, and the calls of `set_result`
and `set_exception` in their order. -/
def onUringReady (L : Loop) :
    List (ReadEnv × Cqe) → Except Fault (Loop × List (FutureRef × Outcome))
  | [] => .ok (L, [])
  | (env, cqe) :: cqes => do
    let read ← readCqe L env cqe
    let rest ← onUringReady read.loop cqes
    .ok (rest.1, read.call.toList ++ rest.2)

end Uringio
