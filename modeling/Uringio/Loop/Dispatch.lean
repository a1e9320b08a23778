import Uringio.Loop.Reader

/-!
# The dispatchers

`file_ops_dispatcher.c` and `socket_ops_dispatcher.c`: which function of the ops layer an operation
calls, by the mode of its payload, the stream strategy and the transfer mode. A dispatcher that
takes an index from the pool of a `FIXED` payload stores it in the payload, which all requests of
the context share.
-/

namespace Uringio

/-- What a dispatcher leaves: the loop and the result of the function it called. The queue of the
submission is the one of the loop. -/
structure Dispatched where
  /-- The loop after the dispatcher. -/
  loop : Loop
  /-- What the function of the ops layer returned, and the queue. -/
  submission : Submission

namespace Loop

variable (L : Loop)

/-- Make the loop's queue the one that the submission left. -/
def dispatched (s : Submission) : Dispatched := ⟨{ L with ring := s.ring }, s⟩

/-- `buf_idx = get_buffer_idx(payload->idx_registry); payload->buf_idx = buf_idx`. -/
def acquireIdx (p : PayloadRef) : Except Fault (ℤ × Loop) :=
  match (L.payloads p).idx_registry with
  | none => .error .nullDeref
  | some reg =>
    let (buf_idx, reg) := getBufferIdx reg
    .ok (buf_idx, L.setPayload p { L.payloads p with idx_registry := some reg, buf_idx := buf_idx })

/-- `read_dispatcher`. -/
def readDispatcher (fd : ℤ) (p : PayloadRef) (stream : StreamStrategy) (request_idx size offset : ℤ)
    (timeout_params : TimeoutParams) (r : ℤ) : Except Fault Dispatched := do
  let payload := L.payloads p
  match payload.mode with
  | .FIXED => do
    let (buf_idx, L) ← L.acquireIdx p
    let linear ← payload.firstLinear
    .ok (L.dispatched (uringioReadFixed L.ring request_idx fd linear.buffer (CInt.toUnsigned size)
      offset buf_idx timeout_params r))
  | .PROVIDED | .BUF_RING =>
    if stream = .MULTISHOT then
      .ok (L.dispatched (uringioReadMultishot L.ring request_idx fd offset payload.bgid
        timeout_params r))
    else
      .ok (L.dispatched (uringioReadBufferSelect L.ring request_idx fd (CInt.toUnsigned size) offset
        payload.bgid timeout_params r))
  | .NORMAL_BUF => do
    let linear ← payload.firstLinear
    .ok (L.dispatched (uringioRead L.ring request_idx fd linear.buffer (CInt.toUnsigned size) offset
      timeout_params r))

/-- `readv_dispatcher`. -/
def readvDispatcher (fd : ℤ) (p : PayloadRef) (request_idx offset : ℤ) (nowait : Bool)
    (timeout_params : TimeoutParams) (r : ℤ) : Except Fault Dispatched := do
  let payload := L.payloads p
  match payload.mode with
  | .PROVIDED | .BUF_RING => do
    let linear ← payload.firstLinear
    .ok (L.dispatched (uringioReadvBufferSelect L.ring request_idx fd (CInt.toUnsigned linear.len)
      offset payload.bgid nowait timeout_params r))
  | .FIXED | .NORMAL_BUF => do
    let vector ← payload.derefVector
    .ok (L.dispatched (uringioReadv L.ring request_idx fd vector.iovecs vector.nr_vecs offset nowait
      timeout_params r))

/-- `write_dispatcher`. -/
def writeDispatcher (fd : ℤ) (p : PayloadRef) (request_idx offset : ℤ)
    (timeout_params : TimeoutParams) (r : ℤ) : Except Fault Dispatched := do
  let payload := L.payloads p
  let linear ← payload.firstLinear
  match payload.mode with
  | .FIXED => do
    let (buf_idx, L) ← L.acquireIdx p
    .ok (L.dispatched (uringioWriteFixed L.ring request_idx fd linear.buffer
      (CInt.toUnsigned linear.len) offset buf_idx timeout_params r))
  | .PROVIDED | .BUF_RING | .NORMAL_BUF =>
    .ok (L.dispatched (uringioWrite L.ring request_idx fd linear.buffer (CInt.toUnsigned linear.len)
      offset timeout_params r))

/-- `accept_dispatcher`. -/
def acceptDispatcher (fd : ℤ) (stream : StreamStrategy) (request_idx : ℤ) (addr len : ℕ)
    (timeout_params : TimeoutParams) (r : ℤ) : Dispatched :=
  match stream with
  | .MULTISHOT =>
    L.dispatched (uringioAcceptMultishot L.ring request_idx fd addr len 0 timeout_params r)
  | .ONESHOT => L.dispatched (uringioAccept L.ring request_idx fd addr len 0 timeout_params r)

/-- `recv_dispatcher`. In `FIXED` mode it receives into the first buffer, without an index. -/
def recvDispatcher (fd : ℤ) (p : PayloadRef) (stream : StreamStrategy) (request_idx : ℤ)
    (is_poll_first : Bool) (timeout_params : TimeoutParams) (r : ℤ) : Except Fault Dispatched := do
  let payload := L.payloads p
  let linear ← payload.firstLinear
  match payload.mode with
  | .PROVIDED | .BUF_RING =>
    if stream = .MULTISHOT then
      .ok (L.dispatched (uringioRecvMultishot L.ring request_idx fd linear.len payload.bgid
        is_poll_first timeout_params r))
    else
      .ok (L.dispatched (uringioRecvBufferSelect L.ring request_idx fd linear.len payload.bgid
        is_poll_first timeout_params r))
  | .FIXED | .NORMAL_BUF =>
    .ok (L.dispatched (uringioRecv L.ring request_idx fd linear.buffer linear.len is_poll_first
      timeout_params r))

/-- `recvmsg_dispatcher`. Its call of the buffer-select function has the last two arguments in the
other order: the group goes where the function expects `is_poll_first`. -/
def recvmsgDispatcher (fd : ℤ) (p : PayloadRef) (stream : StreamStrategy) (request_idx : ℤ)
    (is_poll_first : Bool) (msghdr : Option MsghdrRef) (timeout_params : TimeoutParams) (r : ℤ) :
    Except Fault Dispatched := do
  let payload := L.payloads p
  match payload.mode with
  | .PROVIDED | .BUF_RING =>
    if stream = .MULTISHOT then
      .ok (L.dispatched (uringioRecvmsgMultishot L.ring request_idx fd payload.bgid is_poll_first
        msghdr timeout_params r))
    else
      .ok (L.dispatched (uringioRecvmsgBufferSelect L.ring request_idx fd (payload.bgid ≠ 0)
        (if is_poll_first then 1 else 0) timeout_params r))
  | .FIXED | .NORMAL_BUF => do
    let vector ← payload.derefVector
    .ok (L.dispatched (uringioRecvmsg L.ring request_idx fd vector.iovecs vector.nr_vecs
      is_poll_first timeout_params r))

/-- `send_dispatcher`. -/
def sendDispatcher (fd : ℤ) (p : PayloadRef) (transfer_mode : TransferMode) (request_idx : ℤ)
    (is_poll_first : Bool) (timeout_params : TimeoutParams) (r : ℤ) : Except Fault Dispatched := do
  let payload := L.payloads p
  let linear ← payload.firstLinear
  match transfer_mode with
  | .ZERO_COPY =>
    if payload.mode = .FIXED then do
      let (buf_idx, L) ← L.acquireIdx p
      .ok (L.dispatched (uringioSendZcFixed L.ring request_idx fd linear.buffer linear.len
        is_poll_first buf_idx timeout_params r))
    else
      .ok (L.dispatched (uringioSendZc L.ring request_idx fd linear.buffer linear.len is_poll_first
        timeout_params r))
  | .NORMAL_TRANSFER =>
    .ok (L.dispatched (uringioSend L.ring request_idx fd linear.buffer (CInt.toUnsigned linear.len)
      is_poll_first timeout_params r))

/-- `sendmsg_dispatcher`. -/
def sendmsgDispatcher (fd : ℤ) (p : PayloadRef) (transfer_mode : TransferMode) (request_idx : ℤ)
    (addr addrlen : ℕ) (is_poll_first : Bool) (timeout_params : TimeoutParams) (r : ℤ) :
    Except Fault Dispatched := do
  match transfer_mode with
  | .ZERO_COPY => do
    let (buf_idx, L) ← L.acquireIdx p
    let vector ← (L.payloads p).derefVector
    .ok (L.dispatched (uringioSendmsgZc L.ring request_idx fd vector.iovecs vector.nr_vecs addr
      addrlen is_poll_first buf_idx timeout_params r))
  | .NORMAL_TRANSFER => do
    let vector ← (L.payloads p).derefVector
    .ok (L.dispatched (uringioSendmsg L.ring request_idx fd vector.iovecs vector.nr_vecs addr
      addrlen is_poll_first timeout_params r))

end Loop

end Uringio
