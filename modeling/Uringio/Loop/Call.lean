import Uringio.Loop.Dispatch
import Uringio.Ops.Timer

/-!
# The calls that make a request

The functions of `files.c`, `sockets.c` and `timer.c` that Python calls, from the point where their
arguments are parsed and a host name is an address. They have one shape (`Loop.attempt`): create a
future, take a slot, hand the request to the dispatcher, and give the slot back when that fails.
What they differ in is the record `Attempt`.

What a call creates is named by its number: its future, its payload, its message header and its
address. Allocations succeed; `CallEnv` gives the addresses that they return.
-/

namespace Uringio

open Memory (Region)

/-- `ExecutionContext`; its payload is the `n`-th payload of a context, or none. -/
structure ExecutionContext where
  /-- The stream strategy. -/
  stream : StreamStrategy
  /-- The transfer mode. -/
  transfer_mode : TransferMode
  /-- The payload of the context, if it has one. -/
  buffer_payload : Option ℕ
  deriving DecidableEq

/-- What a call meets outside the program. -/
structure CallEnv where
  /-- The addresses of the buffers that the call allocates. -/
  alloc : ℕ → ℕ
  /-- The address of the `sockaddr_storage` that the call allocates. -/
  addr : ℕ
  /-- The address of the `socklen_t` that `accept` allocates. -/
  addrlen : ℕ
  /-- What the block of the new payload held before. -/
  raw : BufferPayload
  /-- The result of `io_uring_submit`. -/
  submitted : ℤ

/-- What a call leaves: the loop, the future that it returns (`none` when it raises an exception),
the index that `registry_add` returned (`-1` when it was not called), the entries that the kernel
consumed, and the result of the dispatcher (`1` when it was not called). -/
structure Called where
  /-- The loop after the call. -/
  loop : Loop
  /-- The future that is returned; `none` for a null pointer. -/
  future : Option FutureRef
  /-- The index of the request in the registry. -/
  request_idx : ℤ
  /-- The entries that the kernel took. -/
  consumed : List (ℕ × Sqe)
  /-- What the submission returned. -/
  result : ℤ

/-- What the calls differ in. -/
structure Attempt where
  /-- The arguments of `registry_add`. -/
  request : Request
  /-- What is given up when the registry is full. -/
  full : Loop → Loop := id
  /-- What happens between `registry_add` and the dispatcher. -/
  before : Loop → Loop := id
  /-- The dispatcher, which gets the index of the request. -/
  dispatch : Loop → ℤ → Except Fault Dispatched
  /-- What is undone when the dispatcher fails. -/
  failed : Loop → Loop := id

/-- `_get_socket_size`. -/
def getSocketSize (domain : ℤ) : ℕ := if domain = AF_INET6 then 28 else 16

namespace Loop

variable (L : Loop)

/-- `create_future`, which gives the call its number. -/
def createFuture : Loop :=
  { L with futures := Function.update L.futures L.calls .pending, calls := L.calls + 1 }

/-- A call that raises before it creates anything. -/
def refused : Called := ⟨L, none, -1, [], 1⟩

/-- The common shape of the calls. -/
def attempt (a : Attempt) : Except Fault Called :=
  match registryAdd L.registry a.request with
  | (request_idx, registry, es) =>
    if request_idx < 0 then .ok ⟨a.full L.createFuture, none, request_idx, [], 1⟩
    else do
      let added := { L.createFuture with registry := registry }.applyEffects es
      let d ← a.dispatch (a.before added) request_idx
      if d.submission.result < 1 then do
        let L ← d.loop.registryRemove request_idx
        .ok ⟨a.failed L, none, request_idx, d.submission.consumed, d.submission.result⟩
      else .ok ⟨d.loop, some L.calls, request_idx, d.submission.consumed, d.submission.result⟩

/-- The call goes on only if the object that it is made on is not closed. -/
def unlessClosed (closed : Bool) (go : Except Fault Called) : Except Fault Called :=
  if closed then .ok L.refused else go

/-- The request of a call with the given opcode, on a file or a socket or neither. -/
def request (opcode : Opcode) (file : Option FileRef) (socket : Option SocketRef) : Request where
  future := L.calls
  buffer_payload := none
  stream_strategy := .ONESHOT
  opcode := opcode
  file := file
  socket := socket
  sockaddr := none
  msghdr := none

/-! ## Payloads -/

/-- The payload that the call builds for its request. -/
def newPayload (payload : BufferPayload) : PayloadRef × Loop :=
  (.own L.calls, L.setPayload (.own L.calls) payload)

/-- `get_or_create_linear_buffer`. -/
def getOrCreateLinearBuffer (ctx : ExecutionContext) (buffers_obj : Option (List Region))
    (bufsize : ℤ) (env : CallEnv) : PayloadRef × Loop :=
  let new := L.newPayload (newLinearBuffer buffers_obj bufsize env.alloc env.raw)
  match ctx.buffer_payload with
  | none => new
  | some n =>
    if buffers_obj = none ∧ (L.payloads (.context n)).servesLinear then (.context n, L) else new

/-- `get_or_create_vectored_buffer`. -/
def getOrCreateVectoredBuffer (ctx : ExecutionContext) (buffers_obj : Option (List Region))
    (env : CallEnv) : PayloadRef × Loop :=
  let new := L.newPayload (newVectoredBuffer buffers_obj env.alloc)
  match ctx.buffer_payload with
  | none => new
  | some n =>
    if buffers_obj = none ∧ (L.payloads (.context n)).servesVectored then (.context n, L) else new

/-- The payload of `UringioFile_readv`: a context that provides buffers serves it in any case. -/
def readvPayload (ctx : ExecutionContext) (buffers_obj : Option (List Region)) (env : CallEnv) :
    PayloadRef × Loop :=
  match ctx.buffer_payload with
  | none => L.getOrCreateVectoredBuffer ctx buffers_obj env
  | some n =>
    let mode := (L.payloads (.context n)).mode
    if mode = .PROVIDED ∨ mode = .BUF_RING then (.context n, L)
    else L.getOrCreateVectoredBuffer ctx buffers_obj env

/-- The attempt of a call whose request holds the payload `p`. -/
def withPayload (p : PayloadRef) (req : Request)
    (dispatch : Loop → ℤ → Except Fault Dispatched) : Except Fault Called :=
  L.attempt
    { request := { req with buffer_payload := some p }
      full := (·.freeBufferPayload (some p) false)
      dispatch := dispatch }

/-! ## Files -/

/-- The object that `Uringio_open` creates for its file. -/
def newFile : Loop :=
  { L with files := Function.update L.files L.calls { L.files L.calls with closed := false } }

/-- `Uringio_open`. -/
def uringioOpen (path : String) (dfd flags resolve mode : ℤ) (timeout_params : TimeoutParams)
    (env : CallEnv) : Except Fault Called :=
  L.newFile.attempt
    { request := L.request .openat2 (some L.calls) none
      dispatch := fun L idx => .ok (L.dispatched (openFile L.ring idx dfd path flags resolve
        (CInt.toUnsigned mode) timeout_params env.submitted)) }

/-- `UringioFile_close`. -/
def uringioFileClose (self : FileRef) (timeout_params : TimeoutParams) (env : CallEnv) :
    Except Fault Called :=
  L.unlessClosed (L.files self).closed <|
    L.attempt
      { request := L.request .close (some self) none
        dispatch := fun L idx => .ok (L.dispatched (uringioCloseFile L.ring idx (L.files self).fd
          timeout_params env.submitted)) }

/-- `self->closed = closed`. -/
def setFileClosed (f : FileRef) (closed : Bool) : Loop :=
  { L with files := Function.update L.files f { L.files f with closed := closed } }

/-- `UringioFile_aexit`, which does not look at `closed`. -/
def uringioFileAexit (self : FileRef) (env : CallEnv) : Except Fault Called :=
  L.attempt
    { request := L.request .close (some self) none
      before := (·.setFileClosed self true)
      dispatch := fun L idx => .ok (L.dispatched (uringioCloseFile L.ring idx (L.files self).fd
        .zero env.submitted))
      failed := (·.setFileClosed self false) }

/-- `UringioFile_read`. -/
def uringioFileRead (ctx : ExecutionContext) (self : FileRef) (offset size : ℤ)
    (timeout_params : TimeoutParams) (env : CallEnv) : Except Fault Called :=
  L.unlessClosed (L.files self).closed <|
    let (p, L) := L.getOrCreateLinearBuffer ctx none size env
    L.withPayload p { L.request .read (some self) none with stream_strategy := ctx.stream }
      fun L idx => L.readDispatcher (L.files self).fd p ctx.stream idx size offset timeout_params
        env.submitted

/-- `UringioFile_readv`. -/
def uringioFileReadv (ctx : ExecutionContext) (self : FileRef) (buffers_obj : Option (List Region))
    (offset : ℤ) (nowait : Bool) (timeout_params : TimeoutParams) (env : CallEnv) :
    Except Fault Called :=
  L.unlessClosed (L.files self).closed <|
    let (p, L) := L.readvPayload ctx buffers_obj env
    L.withPayload p (L.request .readv (some self) none) fun L idx =>
      L.readvDispatcher (L.files self).fd p idx offset nowait timeout_params env.submitted

/-- `UringioFile_readv_raw`, for a buffer that holds the array `iovecs`. -/
def uringioFileReadvRaw (self : FileRef) (iovecs : List Iovec) (offset : ℤ) (nowait : Bool)
    (timeout_params : TimeoutParams) (env : CallEnv) : Except Fault Called :=
  L.unlessClosed (L.files self).closed <|
    let (p, L) := L.newPayload (createBufferPayloadFromPybuffer iovecs)
    L.withPayload p (L.request .readv (some self) none) fun L idx => do
      let vector ← (L.payloads p).derefVector
      .ok (L.dispatched (uringioReadv L.ring idx (L.files self).fd vector.iovecs vector.nr_vecs
        offset nowait timeout_params env.submitted))

/-- `UringioFile_write`. -/
def uringioFileWrite (self : FileRef) (data : Region) (offset : ℤ) (timeout_params : TimeoutParams)
    (env : CallEnv) : Except Fault Called :=
  L.unlessClosed (L.files self).closed <|
    let (p, L) := L.newPayload (createBufferPayloadFromData data)
    L.withPayload p (L.request .write (some self) none) fun L idx =>
      L.writeDispatcher (L.files self).fd p idx offset timeout_params env.submitted

/-- The end of `UringioFile_writev` and `UringioFile_writev_raw`. -/
def writevAttempt (self : FileRef) (p : PayloadRef) (flags offset : ℤ)
    (timeout_params : TimeoutParams) (env : CallEnv) : Except Fault Called :=
  L.withPayload p (L.request .writev (some self) none) fun L idx => do
    let vector ← (L.payloads p).derefVector
    .ok (L.dispatched (uringioWritev L.ring idx (L.files self).fd vector.iovecs vector.nr_vecs
      offset flags timeout_params env.submitted))

/-- `UringioFile_writev`. -/
def uringioFileWritev (ctx : ExecutionContext) (self : FileRef) (buffers_obj : List Region)
    (flags offset : ℤ) (timeout_params : TimeoutParams) (env : CallEnv) : Except Fault Called :=
  L.unlessClosed (L.files self).closed <|
    let (p, L) := L.getOrCreateVectoredBuffer ctx (some buffers_obj) env
    L.writevAttempt self p flags offset timeout_params env

/-- `UringioFile_writev_raw`, for a buffer that holds the array `iovecs`. -/
def uringioFileWritevRaw (self : FileRef) (iovecs : List Iovec) (flags offset : ℤ)
    (timeout_params : TimeoutParams) (env : CallEnv) : Except Fault Called :=
  L.unlessClosed (L.files self).closed <|
    let (p, L) := L.newPayload (createBufferPayloadFromPybuffer iovecs)
    L.writevAttempt self p flags offset timeout_params env

/-- `UringioFile_fsync`. -/
def uringioFileFsync (self : FileRef) (timeout_params : TimeoutParams) (env : CallEnv) :
    Except Fault Called :=
  L.unlessClosed (L.files self).closed <|
    L.attempt
      { request := L.request .fsync (some self) none
        dispatch := fun L idx => .ok (L.dispatched (uringioFsync L.ring idx (L.files self).fd
          timeout_params env.submitted)) }

/-- `UringioFile_fdatasync`. -/
def uringioFileFdatasync (self : FileRef) (timeout_params : TimeoutParams) (env : CallEnv) :
    Except Fault Called :=
  L.unlessClosed (L.files self).closed <|
    L.attempt
      { request := L.request .fsync (some self) none
        dispatch := fun L idx => .ok (L.dispatched (uringioFdatasync L.ring idx (L.files self).fd
          timeout_params env.submitted)) }

/-- `UringioFile_splice`. -/
def uringioFileSplice (self : FileRef) (src dst count offset_src offset_dst flag : ℤ)
    (timeout_params : TimeoutParams) (env : CallEnv) : Except Fault Called :=
  L.unlessClosed (L.files self).closed <|
    L.attempt
      { request := L.request .splice (some self) none
        dispatch := fun L idx => .ok (L.dispatched (Uringio.uringioSplice L.ring idx src offset_src
          dst offset_dst count flag timeout_params env.submitted)) }

/-! ## Sockets -/

/-- The object that `Uringio_prep_socket` creates for its socket. -/
def newSocket (domain : ℤ) : Loop :=
  let sock := { L.sockets (.made L.calls) with domain := domain, addr := none, closed := false }
  { L with sockets := Function.update L.sockets (.made L.calls) sock }

/-- `Uringio_prep_socket`. -/
def uringioPrepSocket (domain socktype : ℤ) (timeout_params : TimeoutParams) (env : CallEnv) :
    Except Fault Called :=
  (L.newSocket domain).attempt
    { request := L.request .socket none (some (.made L.calls))
      dispatch := fun L idx => .ok (L.dispatched (prepSocket L.ring idx domain socktype
        timeout_params env.submitted)) }

/-- `UringioSocket_bind`. -/
def uringioSocketBind (self : SocketRef) (timeout_params : TimeoutParams) (env : CallEnv) :
    Except Fault Called :=
  L.unlessClosed (L.sockets self).closed <|
    L.attempt
      { request := L.request .bind none (some self)
        dispatch := fun L idx => .ok (L.dispatched (Uringio.uringioBind L.ring idx
          (L.sockets self).sock_fd env.addr (getSocketSize (L.sockets self).domain) timeout_params
          env.submitted)) }

/-- `UringioSocket_connect`. -/
def uringioSocketConnect (self : SocketRef) (timeout_params : TimeoutParams) (env : CallEnv) :
    Except Fault Called :=
  L.unlessClosed (L.sockets self).closed <|
    L.attempt
      { request := L.request .connect none (some self)
        dispatch := fun L idx => .ok (L.dispatched (Uringio.uringioConnect L.ring idx
          (L.sockets self).sock_fd env.addr (getSocketSize (L.sockets self).domain) timeout_params
          env.submitted)) }

/-- `UringioSocket_listen`. -/
def uringioSocketListen (self : SocketRef) (backlog : ℤ) (timeout_params : TimeoutParams)
    (env : CallEnv) : Except Fault Called :=
  L.unlessClosed (L.sockets self).closed <|
    L.attempt
      { request := L.request .listen none (some self)
        dispatch := fun L idx => .ok (L.dispatched (Uringio.uringioListen L.ring idx
          (L.sockets self).sock_fd backlog timeout_params env.submitted)) }

/-- `UringioSocket_accept`, which keeps the address of the peer when it fails. -/
def uringioSocketAccept (ctx : ExecutionContext) (self : SocketRef) (timeout_params : TimeoutParams)
    (env : CallEnv) : Except Fault Called :=
  L.unlessClosed (L.sockets self).closed <|
    L.attempt
      { request := { L.request .accept none (some self) with
          stream_strategy := ctx.stream, sockaddr := some L.calls }
        dispatch := fun L idx => .ok (L.acceptDispatcher (L.sockets self).sock_fd ctx.stream idx
          env.addr env.addrlen timeout_params env.submitted) }

/-- `self->closed = closed`. -/
def setSocketClosed (s : SocketRef) (closed : Bool) : Loop :=
  { L with sockets := Function.update L.sockets s { L.sockets s with closed := closed } }

/-- The common part of `UringioSocket_close` and `UringioSocket_aexit`. -/
def socketCloseAttempt (self : SocketRef) (timeout_params : TimeoutParams) (env : CallEnv) :
    Except Fault Called :=
  L.attempt
    { request := L.request .close none (some self)
      before := (·.setSocketClosed self true)
      dispatch := fun L idx => .ok (L.dispatched (uringioCloseSocket L.ring idx
        (L.sockets self).sock_fd timeout_params env.submitted))
      failed := (·.setSocketClosed self false) }

/-- `UringioSocket_close`. -/
def uringioSocketClose (self : SocketRef) (timeout_params : TimeoutParams) (env : CallEnv) :
    Except Fault Called :=
  L.unlessClosed (L.sockets self).closed <| L.socketCloseAttempt self timeout_params env

/-- `UringioSocket_aexit`, which does not look at `closed`. -/
def uringioSocketAexit (self : SocketRef) (env : CallEnv) : Except Fault Called :=
  L.socketCloseAttempt self .zero env

/-- `UringioSocket_send`. -/
def uringioSocketSend (ctx : ExecutionContext) (self : SocketRef) (data : Region)
    (is_poll_first : Bool) (timeout_params : TimeoutParams) (env : CallEnv) : Except Fault Called :=
  L.unlessClosed (L.sockets self).closed <|
    let (p, L) := L.newPayload (createBufferPayloadFromData data)
    L.withPayload p (L.request .send none (some self)) fun L idx =>
      L.sendDispatcher (L.sockets self).sock_fd p ctx.transfer_mode idx is_poll_first timeout_params
        env.submitted

/-- `UringioSocket_recv`. -/
def uringioSocketRecv (ctx : ExecutionContext) (self : SocketRef) (bufsize : ℤ)
    (buffer_obj : Option (List Region)) (is_poll_first : Bool) (timeout_params : TimeoutParams)
    (env : CallEnv) : Except Fault Called :=
  L.unlessClosed (L.sockets self).closed <|
    let (p, L) := L.getOrCreateLinearBuffer ctx buffer_obj bufsize env
    L.withPayload p { L.request .recv none (some self) with stream_strategy := ctx.stream }
      fun L idx => L.recvDispatcher (L.sockets self).sock_fd p ctx.stream idx is_poll_first
        timeout_params env.submitted

/-- `UringioSocket_sendto`. The request does not hold the payload. -/
def uringioSocketSendto (self : SocketRef) (data : Region) (domain : ℤ) (is_poll_first : Bool)
    (timeout_params : TimeoutParams) (env : CallEnv) : Except Fault Called :=
  L.unlessClosed (L.sockets self).closed <|
    let (p, L) := L.newPayload (createBufferPayloadFromData data)
    L.attempt
      { request := L.request .sendmsg none (some self)
        full := (·.freeBufferPayload (some p) false)
        dispatch := fun L idx => do
          let linear ← (L.payloads p).firstLinear
          .ok (L.dispatched (Uringio.uringioSendto L.ring idx (L.sockets self).sock_fd linear.buffer
            (CInt.toUnsigned linear.len) env.addr (getSocketSize domain) is_poll_first
            timeout_params env.submitted)) }

/-- `UringioSocket_recvfrom`. -/
def uringioSocketRecvfrom (ctx : ExecutionContext) (self : SocketRef) (bufsize : ℕ)
    (buffer_obj : Option (List Region)) (domain : ℤ) (is_poll_first : Bool)
    (timeout_params : TimeoutParams) (env : CallEnv) : Except Fault Called :=
  L.unlessClosed (L.sockets self).closed <|
    let k := L.calls
    let (p, L) := L.getOrCreateLinearBuffer ctx buffer_obj (CInt.toInt bufsize) env
    L.attempt
      { request := { L.request .recvmsg none (some self) with
          buffer_payload := some p, sockaddr := some k, msghdr := some k }
        full := fun L =>
          ((L.freeBufferPayload (some p) false).release (.sockaddr k)).release (.msghdr k)
        dispatch := fun L idx => do
          let linear ← (L.payloads p).firstLinear
          .ok (L.dispatched (Uringio.uringioRecvfrom L.ring idx (L.sockets self).sock_fd
            linear.buffer linear.len env.addr (getSocketSize domain) is_poll_first timeout_params
            env.submitted)) }

/-- `UringioSocket_sendmsg`, to the connected peer or to an address of the given domain. -/
def uringioSocketSendmsg (ctx : ExecutionContext) (self : SocketRef) (buffers_obj : List Region)
    (domain : Option ℤ) (is_poll_first : Bool) (timeout_params : TimeoutParams) (env : CallEnv) :
    Except Fault Called :=
  L.unlessClosed (L.sockets self).closed <|
    let (p, L) := L.getOrCreateVectoredBuffer ctx (some buffers_obj) env
    L.withPayload p (L.request .sendmsg none (some self)) fun L idx =>
      L.sendmsgDispatcher (L.sockets self).sock_fd p ctx.transfer_mode idx
        (if domain.isSome then env.addr else 0) ((domain.map getSocketSize).getD 0) is_poll_first
        timeout_params env.submitted

/-- `UringioSocket_recvmsg`, which keeps the message header when the registry is full. Its
`buffers` are always given: without them the function reads a variable that it has not set. -/
def uringioSocketRecvmsg (ctx : ExecutionContext) (self : SocketRef) (buffers_obj : List Region)
    (is_poll_first : Bool) (timeout_params : TimeoutParams) (env : CallEnv) : Except Fault Called :=
  L.unlessClosed (L.sockets self).closed <|
    let k := L.calls
    let (p, L) := L.getOrCreateVectoredBuffer ctx (some buffers_obj) env
    L.withPayload p { L.request .recvmsg none (some self) with
        stream_strategy := ctx.stream, msghdr := some k }
      fun L idx => L.recvmsgDispatcher (L.sockets self).sock_fd p ctx.stream idx is_poll_first
        (some k) timeout_params env.submitted

/-! ## Timers -/

/-- `parse_timer_params`, on the values of the dictionary. -/
def parseTimerParams (sec nsec count : ℤ) (is_multishot : Bool) (stream : StreamStrategy) :
    TimerParams :=
  ⟨CInt.toInt sec, CInt.toInt nsec, CInt.toInt count, is_multishot && stream = .MULTISHOT⟩

/-- `UringioLoop_timer`; without a dictionary all parameters are zero. -/
def uringioLoopTimer (timer_params : TimerParams) (env : CallEnv) : Except Fault Called :=
  L.attempt
    { request := L.request .timeout none none
      dispatch := fun L idx => .ok (L.dispatched (timer L.ring idx (some timer_params)
        env.submitted)) }

end Loop

/-- A call that makes a request, with its arguments. -/
inductive Op
  | open (path : String) (dfd flags resolve mode : ℤ) (timeout_params : TimeoutParams)
  | read (self : FileRef) (offset size : ℤ) (timeout_params : TimeoutParams)
  | readv (self : FileRef) (buffers_obj : Option (List Region)) (offset : ℤ) (nowait : Bool)
      (timeout_params : TimeoutParams)
  | readvRaw (self : FileRef) (iovecs : List Iovec) (offset : ℤ) (nowait : Bool)
      (timeout_params : TimeoutParams)
  | write (self : FileRef) (data : Region) (offset : ℤ) (timeout_params : TimeoutParams)
  | writev (self : FileRef) (buffers_obj : List Region) (flags offset : ℤ)
      (timeout_params : TimeoutParams)
  | writevRaw (self : FileRef) (iovecs : List Iovec) (flags offset : ℤ)
      (timeout_params : TimeoutParams)
  | fsync (self : FileRef) (timeout_params : TimeoutParams)
  | fdatasync (self : FileRef) (timeout_params : TimeoutParams)
  | splice (self : FileRef) (src dst count offset_src offset_dst flag : ℤ)
      (timeout_params : TimeoutParams)
  | closeFile (self : FileRef) (timeout_params : TimeoutParams)
  | aexitFile (self : FileRef)
  | socket (domain socktype : ℤ) (timeout_params : TimeoutParams)
  | bind (self : SocketRef) (timeout_params : TimeoutParams)
  | connect (self : SocketRef) (timeout_params : TimeoutParams)
  | listen (self : SocketRef) (backlog : ℤ) (timeout_params : TimeoutParams)
  | accept (self : SocketRef) (timeout_params : TimeoutParams)
  | closeSocket (self : SocketRef) (timeout_params : TimeoutParams)
  | aexitSocket (self : SocketRef)
  | send (self : SocketRef) (data : Region) (is_poll_first : Bool) (timeout_params : TimeoutParams)
  | recv (self : SocketRef) (bufsize : ℤ) (buffer_obj : Option (List Region))
      (is_poll_first : Bool) (timeout_params : TimeoutParams)
  | sendto (self : SocketRef) (data : Region) (domain : ℤ) (is_poll_first : Bool)
      (timeout_params : TimeoutParams)
  | recvfrom (self : SocketRef) (bufsize : ℕ) (buffer_obj : Option (List Region)) (domain : ℤ)
      (is_poll_first : Bool) (timeout_params : TimeoutParams)
  | sendmsg (self : SocketRef) (buffers_obj : List Region) (domain : Option ℤ)
      (is_poll_first : Bool) (timeout_params : TimeoutParams)
  | recvmsg (self : SocketRef) (buffers_obj : List Region) (is_poll_first : Bool)
      (timeout_params : TimeoutParams)
  | timer (sec nsec count : ℤ) (is_multishot : Bool)
  deriving DecidableEq

/-- Make a call. -/
def Loop.call (L : Loop) (ctx : ExecutionContext) (op : Op) (env : CallEnv) :
    Except Fault Called :=
  match op with
  | .open path dfd flags resolve mode tp => L.uringioOpen path dfd flags resolve mode tp env
  | .read f offset size tp => L.uringioFileRead ctx f offset size tp env
  | .readv f buffers offset nowait tp => L.uringioFileReadv ctx f buffers offset nowait tp env
  | .readvRaw f iovecs offset nowait tp => L.uringioFileReadvRaw f iovecs offset nowait tp env
  | .write f data offset tp => L.uringioFileWrite f data offset tp env
  | .writev f buffers flags offset tp => L.uringioFileWritev ctx f buffers flags offset tp env
  | .writevRaw f iovecs flags offset tp => L.uringioFileWritevRaw f iovecs flags offset tp env
  | .fsync f tp => L.uringioFileFsync f tp env
  | .fdatasync f tp => L.uringioFileFdatasync f tp env
  | .splice f src dst count offset_src offset_dst flag tp =>
    L.uringioFileSplice f src dst count offset_src offset_dst flag tp env
  | .closeFile f tp => L.uringioFileClose f tp env
  | .aexitFile f => L.uringioFileAexit f env
  | .socket domain socktype tp => L.uringioPrepSocket domain socktype tp env
  | .bind s tp => L.uringioSocketBind s tp env
  | .connect s tp => L.uringioSocketConnect s tp env
  | .listen s backlog tp => L.uringioSocketListen s backlog tp env
  | .accept s tp => L.uringioSocketAccept ctx s tp env
  | .closeSocket s tp => L.uringioSocketClose s tp env
  | .aexitSocket s => L.uringioSocketAexit s env
  | .send s data is_poll_first tp => L.uringioSocketSend ctx s data is_poll_first tp env
  | .recv s bufsize buffer is_poll_first tp =>
    L.uringioSocketRecv ctx s bufsize buffer is_poll_first tp env
  | .sendto s data domain is_poll_first tp =>
    L.uringioSocketSendto s data domain is_poll_first tp env
  | .recvfrom s bufsize buffer domain is_poll_first tp =>
    L.uringioSocketRecvfrom ctx s bufsize buffer domain is_poll_first tp env
  | .sendmsg s buffers domain is_poll_first tp =>
    L.uringioSocketSendmsg ctx s buffers domain is_poll_first tp env
  | .recvmsg s buffers is_poll_first tp => L.uringioSocketRecvmsg ctx s buffers is_poll_first tp env
  | .timer sec nsec count is_multishot =>
    L.uringioLoopTimer (Loop.parseTimerParams sec nsec count is_multishot ctx.stream) env

end Uringio
