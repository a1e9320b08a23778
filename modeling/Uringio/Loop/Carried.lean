import Uringio.Loop.Dispatch
import Uringio.Ring.Pending

/-!
# What the entries of sends and receives carry

The functions of `ops/sockets` that build the entry of a send or a receive, with everything but
`is_poll_first` in one record (`DataCall`): each is `submitRequest` at its own helper call
(`DataCall.run_eq`). What an entry means is read off it as the library documents its helpers: the
argument `flags` is stored as message flags, and the buffers and the multishot receives are bits of
`ioprio`.

All builders put `IORING_RECVSEND_POLL_FIRST` into the message flags, where the same bit is
`MSG_OOB`. So an entry carries what was asked only if `is_poll_first` was not asked for
(`DataCall.entry_carries_iff`). One dispatcher passes two arguments in each other's place
(`SocketCall.carries_iff`).
-/

namespace Uringio

/-! ## Reading an entry -/

/-- `IORING_RECV_MULTISHOT`. -/
def IORING_RECV_MULTISHOT : ℕ := 2

namespace PrepCall

/-- The message flags that a helper stores. -/
def msgFlags : PrepCall → ℤ
  | .send _ _ _ flags | .sendto _ _ _ flags _ _ | .send_zc _ _ _ flags _
  | .send_zc_fixed _ _ _ flags _ _ | .recv _ _ _ flags | .recv_multishot _ _ _ flags => flags
  | .sendmsg _ _ flags | .sendmsg_zc _ _ flags | .recvmsg _ _ flags
  | .recvmsg_multishot _ _ flags => flags
  | _ => 0

/-- The bits of `ioprio` that a helper sets. -/
def prio : PrepCall → ℕ
  | .recv_multishot .. | .recvmsg_multishot .. => IORING_RECV_MULTISHOT
  | .send_zc _ _ _ _ zc_flags => zc_flags
  | .send_zc_fixed _ _ _ _ zc_flags _ => zc_flags ||| IORING_RECVSEND_FIXED_BUF
  | _ => 0

/-- The buffer index that a helper stores, if it does. -/
def bufIndex : PrepCall → Option ℕ
  | .send_zc_fixed _ _ _ _ _ buf_index => some (CInt.toU16 buf_index)
  | _ => none

/-- The call without its message flags. -/
def plain : PrepCall → PrepCall
  | .send fd buf len _ => .send fd buf len 0
  | .sendto fd buf len _ addr addrlen => .sendto fd buf len 0 addr addrlen
  | .send_zc fd buf len _ zc_flags => .send_zc fd buf len 0 zc_flags
  | .send_zc_fixed fd buf len _ zc_flags i => .send_zc_fixed fd buf len 0 zc_flags i
  | .recv fd buf len _ => .recv fd buf len 0
  | .recv_multishot fd buf len _ => .recv_multishot fd buf len 0
  | .sendmsg fd msg _ => .sendmsg fd msg 0
  | .sendmsg_zc fd msg _ => .sendmsg_zc fd msg 0
  | .recvmsg fd msg _ => .recvmsg fd msg 0
  | .recvmsg_multishot fd msg _ => .recvmsg_multishot fd msg 0
  | call => call

end PrepCall

namespace Sqe

/-- The message flags of the entry. -/
def msgFlags (e : Sqe) : ℤ := (e.prep.map PrepCall.msgFlags).getD 0

/-- `ioprio`. -/
def prio (e : Sqe) : ℕ := e.ioprio ||| (e.prep.map PrepCall.prio).getD 0

/-- `buf_index`. -/
def bufIndex (e : Sqe) : ℕ := (e.prep.bind PrepCall.bufIndex).getD e.buf_index

end Sqe

/-- The bit of `ioprio` that is asked for. -/
def pollFirstBit (is_poll_first : Bool) : ℕ :=
  if is_poll_first then IORING_RECVSEND_POLL_FIRST else 0

/-- The entry `e` carries what was asked: the buffer group, the registered buffer and the bit
`is_poll_first`. `plain` is the entry of the same call without that bit. -/
structure Carries (is_poll_first : Bool) (bgid buf_index : Option ℤ) (e plain : Sqe) : Prop where
  /-- Nobody asked for message flags. -/
  msg_flags : e.msgFlags = 0
  /-- The bit is set exactly if it was asked for. -/
  poll_first : e.prio &&& IORING_RECVSEND_POLL_FIRST = pollFirstBit is_poll_first
  /-- The bit is the only difference. -/
  call : e.prep.map PrepCall.plain = plain.prep.map PrepCall.plain
  /-- The flags of the message are the same. -/
  plain_flags : e.msgFlags = plain.msgFlags
  /-- In `ioprio`, the bit is added. -/
  prio : e.prio = plain.prio ||| pollFirstBit is_poll_first
  /-- The other fields are the same. -/
  rest : e.flags = plain.flags ∧ e.bufIndex = plain.bufIndex ∧ e.user_data = plain.user_data
  /-- A group is selected from exactly if there is one. -/
  selects : e.flags &&& IOSQE_BUFFER_SELECT ≠ 0 ↔ bgid.isSome = true
  /-- The group is the one that was asked for, as the field holds it. -/
  group : ∀ g ∈ bgid, (e.buf_index : ℤ) = g % 2^16
  /-- A registered buffer is used exactly if there is one. -/
  registered : e.prio &&& IORING_RECVSEND_FIXED_BUF ≠ 0 ↔ buf_index.isSome = true
  /-- The index is the one that was asked for, as the field holds it. -/
  index : ∀ i ∈ buf_index, (e.bufIndex : ℤ) = i % 2^16

/-! ## Building an entry -/

/-- The submission from `before` built the entry `e`. -/
def Submission.Built (before : Ring) (s : Submission) (e : Sqe) : Prop :=
  s.result ≠ -1 ∧ (before.tail, e) ∈ s.consumed ++ s.ring.window

/-- An entry that was reserved, and perhaps linked to a timeout. -/
structure Reserved (e : Sqe) : Prop where
  /-- No flag is set, or that of a link. -/
  flags : e.flags = 0 ∨ e.flags = IOSQE_IO_LINK
  /-- The field `ioprio` is zero. -/
  ioprio : e.ioprio = 0
  /-- So is the field `buf_index`. -/
  buf_index : e.buf_index = 0

/-- A submission builds at most one entry: the one that it reserves, filled. -/
theorem submitOp_built (ring : Ring) (timeout_params : Option TimeoutParams) :
    (∀ fill r e, ¬ (submitOp ring timeout_params fill 0 r).Built ring e) ∨
    ∃ reserved, Reserved reserved ∧ ∀ fill r e,
      (submitOp ring timeout_params fill 0 r).Built ring e ↔ e = fill reserved := by
  unfold submitOp
  rcases sqeWithOptionalTimeout_cases ring timeout_params with
    ⟨-, hreserved⟩ | ⟨-, -, ring', e', hreserved, -⟩ |
    ⟨-, -, ring', e', link, hreserved, hw, hlink, hflags, hprio, hindex⟩
  · rw [hreserved]
    exact .inl fun fill r e h => h.1 rfl
  · rw [hreserved]
    exact .inl fun fill r e h => h.1 rfl
  · rw [hreserved]
    refine .inr ⟨e', ⟨hflags, hprio, hindex⟩, fun fill r e => ?_⟩
    obtain ⟨hresult, hwindow, -⟩ := fillAndSubmit_spec hw fill 0 r
    constructor
    · rintro ⟨-, hmem⟩
      -- The entries before it have smaller positions, and the timeout has the next one.
      rw [hwindow, List.mem_append, List.mem_cons] at hmem
      rcases hmem with hold | hnew | htimeout
      · have := (ring.mem_window.mp hold).2.1
        omega
      · exact (Prod.mk.inj hnew).2
      · rcases hlink with rfl | ⟨t, rfl, -⟩
        · cases htimeout
        · have := (Prod.mk.inj (List.mem_singleton.mp htimeout)).1
          omega
    · rintro rfl
      refine ⟨?_, by rw [hwindow]; simp⟩
      change (fillAndSubmit ring' ring.tail fill 0 r).result ≠ -1
      rw [hresult]
      split <;> decide

/-- In an empty queue an entry can be built. -/
theorem submitOp_builds (timeout_params : Option TimeoutParams) (fill : Sqe → Sqe) :
    ∃ ring e, (submitOp ring timeout_params fill 0 1).Built ring e := by
  refine ⟨.replicate 1 .zero, ?_⟩
  rcases sqeWithOptionalTimeout_cases (.replicate 1 .zero) timeout_params with
    ⟨hfull, -⟩ | ⟨hone, -⟩ | ⟨-, -, ring', e', link, hreserved, hw, -⟩
  · cases hfull
  · cases hone
  · obtain ⟨hresult, hwindow, -⟩ := fillAndSubmit_spec hw fill 0 1
    refine ⟨fill e', ?_, ?_⟩
    · simp only [submitOp, hreserved]
      rw [hresult]
      decide
    · simp only [submitOp, hreserved]
      rw [hwindow]
      simp

/-! ## The builders -/

/-- The function that builds the entry, with its own arguments. -/
inductive DataKind
  | send (buf len : ℕ)
  | sendto (buf len addr addrlen : ℕ)
  | sendmsg (iovecs : List Iovec) (nr_vecs addr addrlen : ℕ)
  | sendZc (buf len : ℕ)
  | sendZcFixed (buf len : ℕ) (buf_index : ℤ)
  | sendmsgZc (iovecs : List Iovec) (nr_vecs addr addrlen : ℕ) (buf_index : ℤ)
  | recv (buf len : ℕ)
  | recvfrom (buf len addr addrlen : ℕ)
  | recvmsg (iovecs : List Iovec) (nr_vecs : ℕ)
  | recvFixed (buf len : ℕ) (buf_index : ℤ)
  | recvmsgFixed (iovecs : List Iovec) (nr_vecs : ℕ) (buf_index : ℤ)
  | recvBufferSelect (len : ℕ) (bgid : ℤ)
  | recvmsgBufferSelect (bgid : ℤ)
  | recvMultishot (len : ℕ) (bgid : ℤ)
  | recvmsgMultishot (bgid : ℤ) (msghdr : Option MsghdrRef)
  deriving DecidableEq

/-- A call of a builder, without `is_poll_first`. -/
structure DataCall where
  /-- The index of the request. -/
  request_idx : ℤ
  /-- The descriptor of the socket. -/
  sockfd : ℤ
  /-- Which builder is called, with its other arguments. -/
  kind : DataKind
  /-- The timeout, if its fields say so. -/
  timeout_params : TimeoutParams
  deriving DecidableEq

namespace DataKind

/-- The buffer group of the variants that select a buffer. -/
def bgid : DataKind → Option ℤ
  | .recvBufferSelect _ bgid | .recvmsgBufferSelect bgid | .recvMultishot _ bgid
  | .recvmsgMultishot bgid _ => some bgid
  | _ => none

/-- The registered buffer of the variants that use one. -/
def buf_index : DataKind → Option ℤ
  | .sendZcFixed _ _ i | .sendmsgZc _ _ _ _ i | .recvFixed _ _ i | .recvmsgFixed _ _ i => some i
  | _ => none

/-- The helper call. -/
def prep (fd : ℤ) (is_poll_first : Bool) : DataKind → PrepCall
  | .send buf len => .send fd buf len (pollFirst is_poll_first)
  | .sendto buf len addr addrlen =>
    .sendto fd buf len (pollFirst is_poll_first) addr (CInt.toUnsigned addrlen)
  | .sendmsg iovecs nr_vecs addr addrlen =>
    .sendmsg fd ⟨addr, CInt.toUnsigned addrlen, iovecs, nr_vecs⟩ (pollFirst is_poll_first)
  | .sendZc buf len => .send_zc fd buf len (pollFirst is_poll_first) 0
  | .sendZcFixed buf len i =>
    .send_zc_fixed fd buf len (pollFirst is_poll_first) 0 (CInt.toUnsigned i)
  | .sendmsgZc iovecs nr_vecs addr addrlen _ =>
    .sendmsg_zc fd ⟨addr, CInt.toUnsigned addrlen, iovecs, nr_vecs⟩ (pollFirst is_poll_first)
  | .recv buf len | .recvFixed buf len _ => .recv fd buf len (pollFirst is_poll_first)
  | .recvfrom buf len addr addrlen =>
    .recvmsg fd ⟨addr, addrlen, [⟨buf, len⟩], 1⟩ (pollFirst is_poll_first)
  | .recvmsg iovecs nr_vecs | .recvmsgFixed iovecs nr_vecs _ =>
    .recvmsg fd ⟨0, 0, iovecs, nr_vecs⟩ (pollFirst is_poll_first)
  | .recvBufferSelect len _ => .recv fd 0 len (pollFirst is_poll_first)
  | .recvmsgBufferSelect _ => .recvmsg fd .zero (pollFirst is_poll_first)
  | .recvMultishot len _ => .recv_multishot fd 0 len (pollFirst is_poll_first)
  | .recvmsgMultishot _ msghdr => .recvmsg_multishot fd msghdr (pollFirst is_poll_first)

/-- What the function sets behind the helper call. -/
def set : DataKind → Sqe → Sqe
  | .recvBufferSelect _ bgid | .recvmsgBufferSelect bgid | .recvMultishot _ bgid
  | .recvmsgMultishot bgid _ => selectBuffer bgid
  | .sendmsgZc _ _ _ _ i | .recvFixed _ _ i | .recvmsgFixed _ _ i => fixedBuffer i
  | _ => id

end DataKind

namespace DataCall

/-- Call the builder. -/
def run (c : DataCall) (p : Bool) (ring : Ring) (r : ℤ) : Submission :=
  let idx := c.request_idx
  let fd := c.sockfd
  let tp := c.timeout_params
  match c.kind with
  | .send buf len => uringioSend ring idx fd buf len p tp r
  | .sendto buf len addr addrlen => uringioSendto ring idx fd buf len addr addrlen p tp r
  | .sendmsg iovecs nr_vecs addr addrlen =>
    uringioSendmsg ring idx fd iovecs nr_vecs addr addrlen p tp r
  | .sendZc buf len => uringioSendZc ring idx fd buf len p tp r
  | .sendZcFixed buf len i => uringioSendZcFixed ring idx fd buf len p i tp r
  | .sendmsgZc iovecs nr_vecs addr addrlen i =>
    uringioSendmsgZc ring idx fd iovecs nr_vecs addr addrlen p i tp r
  | .recv buf len => uringioRecv ring idx fd buf len p tp r
  | .recvfrom buf len addr addrlen => uringioRecvfrom ring idx fd buf len addr addrlen p tp r
  | .recvmsg iovecs nr_vecs => uringioRecvmsg ring idx fd iovecs nr_vecs p tp r
  | .recvFixed buf len i => uringioRecvFixed ring idx fd buf len p i tp r
  | .recvmsgFixed iovecs nr_vecs i => uringioRecvmsgFixed ring idx fd iovecs nr_vecs p i tp r
  | .recvBufferSelect len bgid => uringioRecvBufferSelect ring idx fd len bgid p tp r
  | .recvmsgBufferSelect bgid => uringioRecvmsgBufferSelect ring idx fd p bgid tp r
  | .recvMultishot len bgid => uringioRecvMultishot ring idx fd len bgid p tp r
  | .recvmsgMultishot bgid msghdr => uringioRecvmsgMultishot ring idx fd bgid p msghdr tp r

/-- The entry that the builder makes of the one that it reserved. -/
def entry (c : DataCall) (p : Bool) (reserved : Sqe) : Sqe :=
  (c.kind.set (reserved.prepare (c.kind.prep c.sockfd p))).setData c.request_idx

/-- Every builder has the common shape. -/
theorem run_eq (c : DataCall) (p : Bool) (ring : Ring) (r : ℤ) :
    c.run p ring r = submitOp ring (some c.timeout_params) (c.entry p) 0 r := by
  obtain ⟨idx, fd, kind, tp⟩ := c
  cases kind <;> rfl

/-- All builders store the bit as message flags. -/
theorem entry_msgFlags (c : DataCall) (p : Bool) (reserved : Sqe) :
    (c.entry p reserved).msgFlags = pollFirst p := by
  obtain ⟨idx, fd, kind, tp⟩ := c
  cases kind <;> rfl

/-- The bits of `ioprio`: those of the variant. -/
theorem entry_prio (c : DataCall) (p : Bool) {reserved : Sqe} (hres : Reserved reserved) :
    (c.entry p reserved).prio &&& IORING_RECVSEND_POLL_FIRST = 0 ∧
      ((c.entry p reserved).prio &&& IORING_RECVSEND_FIXED_BUF ≠ 0 ↔
        c.kind.buf_index.isSome = true) := by
  obtain ⟨idx, fd, kind, tp⟩ := c
  have hprio : reserved.ioprio = 0 := hres.ioprio
  cases kind <;>
    simp [entry, DataKind.set, DataKind.prep, DataKind.buf_index, Sqe.prio, Sqe.setData,
      Sqe.setData64, Sqe.prepare, PrepCall.prio, fixedBuffer, selectBuffer, Sqe.setIoprio,
      Sqe.setBufIndex, Sqe.setFlag, hprio, IORING_RECVSEND_POLL_FIRST, IORING_RECVSEND_FIXED_BUF,
      IORING_RECV_MULTISHOT]

/-- A buffer is selected in the variants with a group, from that group. -/
theorem entry_group (c : DataCall) (p : Bool) {reserved : Sqe} (hres : Reserved reserved) :
    ((c.entry p reserved).flags &&& IOSQE_BUFFER_SELECT ≠ 0 ↔ c.kind.bgid.isSome = true) ∧
      ∀ g ∈ c.kind.bgid, ((c.entry p reserved).buf_index : ℤ) = g % 2^16 := by
  obtain ⟨idx, fd, kind, tp⟩ := c
  have hflags : reserved.flags = 0 ∨ reserved.flags = IOSQE_IO_LINK := hres.flags
  constructor
  · rcases hflags with hflags | hflags <;> cases kind <;>
      simp [entry, DataKind.set, DataKind.bgid, Sqe.setData, Sqe.setData64, Sqe.prepare,
        fixedBuffer, selectBuffer, Sqe.setIoprio, Sqe.setBufIndex, Sqe.setFlag, hflags,
        IOSQE_BUFFER_SELECT, IOSQE_IO_LINK]
  · intro g hg
    have hcast : ((CInt.toU16 g : ℕ) : ℤ) = g % 2^16 := by
      unfold CInt.toU16
      omega
    cases kind <;> cases hg <;> exact hcast

/-- The index of the registered buffer. -/
theorem entry_index (c : DataCall) (p : Bool) (reserved : Sqe) :
    ∀ i ∈ c.kind.buf_index, ((c.entry p reserved).bufIndex : ℤ) = i % 2^16 := by
  obtain ⟨idx, fd, kind, tp⟩ := c
  intro i hi
  have hcast : ((CInt.toU16 i : ℕ) : ℤ) = i % 2^16 := by
    unfold CInt.toU16
    omega
  have hcast' : ((CInt.toU16 (CInt.toUnsigned i) : ℕ) : ℤ) = i % 2^16 := by
    unfold CInt.toU16 CInt.toUnsigned
    omega
  cases kind with
  | sendZcFixed buf len j =>
    cases hi
    exact hcast'
  | sendmsgZc | recvFixed | recvmsgFixed =>
    cases hi
    exact hcast
  | _ => cases hi

/-- An entry is what was asked for exactly if `is_poll_first` was not asked for. -/
theorem entry_carries_iff (c : DataCall) (p : Bool) {reserved : Sqe} (hres : Reserved reserved) :
    Carries p c.kind.bgid c.kind.buf_index (c.entry p reserved) (c.entry false reserved) ↔
      p = false := by
  constructor
  · intro h
    have hflags := h.msg_flags
    rw [entry_msgFlags] at hflags
    cases p with
    | false => rfl
    | true => cases hflags
  · rintro rfl
    exact
      { msg_flags := entry_msgFlags c false reserved
        poll_first := (entry_prio c false hres).1
        call := rfl
        plain_flags := rfl
        prio := (Nat.or_zero _).symm
        rest := ⟨rfl, rfl, rfl⟩
        selects := (entry_group c false hres).1
        group := (entry_group c false hres).2
        registered := (entry_prio c false hres).2
        index := entry_index c false reserved }

end DataCall

/-! ## The dispatchers -/

/-- A call of a dispatcher, with everything but `is_poll_first`. -/
inductive SocketDispatch
  | recv (sockfd : ℤ) (p : PayloadRef) (stream : StreamStrategy) (request_idx : ℤ)
      (timeout_params : TimeoutParams)
  | recvmsg (sockfd : ℤ) (p : PayloadRef) (stream : StreamStrategy) (request_idx : ℤ)
      (msghdr : Option MsghdrRef) (timeout_params : TimeoutParams)
  | send (sockfd : ℤ) (p : PayloadRef) (transfer_mode : TransferMode) (request_idx : ℤ)
      (timeout_params : TimeoutParams)
  | sendmsg (sockfd : ℤ) (p : PayloadRef) (transfer_mode : TransferMode) (request_idx : ℤ)
      (addr addrlen : ℕ) (timeout_params : TimeoutParams)

namespace SocketDispatch

/-- Call the dispatcher. -/
def run (L : Loop) (poll : Bool) (r : ℤ) : SocketDispatch → Except Fault Dispatched
  | .recv fd p stream idx tp => L.recvDispatcher fd p stream idx poll tp r
  | .recvmsg fd p stream idx msghdr tp => L.recvmsgDispatcher fd p stream idx poll msghdr tp r
  | .send fd p transfer_mode idx tp => L.sendDispatcher fd p transfer_mode idx poll tp r
  | .sendmsg fd p transfer_mode idx addr addrlen tp =>
    L.sendmsgDispatcher fd p transfer_mode idx addr addrlen poll tp r

/-- The builder that the dispatcher is there to call for the payload, with what the payload says;
`none` when it would follow a null pointer. -/
def asked (L : Loop) : SocketDispatch → Option DataCall
  | .recv fd p stream idx tp => do
    let payload := L.payloads p
    let linear ← payload.firstLinear.toOption
    match payload.mode with
    | .PROVIDED | .BUF_RING =>
      if stream = .MULTISHOT then some ⟨idx, fd, .recvMultishot linear.len payload.bgid, tp⟩
      else some ⟨idx, fd, .recvBufferSelect linear.len payload.bgid, tp⟩
    | .FIXED | .NORMAL_BUF => some ⟨idx, fd, .recv linear.buffer linear.len, tp⟩
  | .recvmsg fd p stream idx msghdr tp => do
    let payload := L.payloads p
    match payload.mode with
    | .PROVIDED | .BUF_RING =>
      if stream = .MULTISHOT then some ⟨idx, fd, .recvmsgMultishot payload.bgid msghdr, tp⟩
      else some ⟨idx, fd, .recvmsgBufferSelect payload.bgid, tp⟩
    | .FIXED | .NORMAL_BUF => do
      let vector ← payload.derefVector.toOption
      some ⟨idx, fd, .recvmsg vector.iovecs vector.nr_vecs, tp⟩
  | .send fd p transfer_mode idx tp => do
    let payload := L.payloads p
    let linear ← payload.firstLinear.toOption
    match transfer_mode with
    | .ZERO_COPY =>
      if payload.mode = .FIXED then do
        let reg ← payload.idx_registry
        some ⟨idx, fd, .sendZcFixed linear.buffer linear.len (getBufferIdx reg).1, tp⟩
      else some ⟨idx, fd, .sendZc linear.buffer linear.len, tp⟩
    | .NORMAL_TRANSFER => some ⟨idx, fd, .send linear.buffer (CInt.toUnsigned linear.len), tp⟩
  | .sendmsg fd p transfer_mode idx addr addrlen tp => do
    let payload := L.payloads p
    match transfer_mode with
    | .ZERO_COPY => do
      let reg ← payload.idx_registry
      let vector ← payload.derefVector.toOption
      some ⟨idx, fd, .sendmsgZc vector.iovecs vector.nr_vecs addr addrlen (getBufferIdx reg).1, tp⟩
    | .NORMAL_TRANSFER => do
      let vector ← payload.derefVector.toOption
      some ⟨idx, fd, .sendmsg vector.iovecs vector.nr_vecs addr addrlen, tp⟩

/-- The group that `recvmsg_dispatcher` passes in the place of `is_poll_first`, when it selects a
buffer. -/
def swapped (L : Loop) : SocketDispatch → Option ℤ
  | .recvmsg _ p stream _ _ _ =>
    let payload := L.payloads p
    if (payload.mode = .PROVIDED ∨ payload.mode = .BUF_RING) ∧ stream ≠ .MULTISHOT then
      some payload.bgid
    else none
  | _ => none

/-- What the dispatcher submits from the queue `ring`. -/
def submission (L : Loop) (d : SocketDispatch) (poll : Bool) (ring : Ring) (r : ℤ) :
    Option Submission :=
  ((d.run { L with ring := ring } poll r).toOption).map Dispatched.submission

/-- The builder that is called instead when the two arguments are in each other's place. -/
def misplaced (c : DataCall) (poll : Bool) : DataCall :=
  { c with kind := .recvmsgBufferSelect (if poll then 1 else 0) }

/-- **What the dispatchers do.** They call the builder that they are there to call, but one passes
the group for `is_poll_first`, and `is_poll_first` for the group. -/
theorem submission_eq (L : Loop) (d : SocketDispatch) (poll : Bool) (ring : Ring) (r : ℤ) :
    d.submission L poll ring r = (d.asked L).map fun c =>
      match d.swapped L with
      | none => c.run poll ring r
      | some g => (misplaced c poll).run (g ≠ 0) ring r := by
  cases d with
  | recv fd p stream idx tp =>
    simp only [submission, run, asked, swapped, Loop.recvDispatcher]
    cases (L.payloads p).firstLinear with
    | error e => rfl
    | ok linear => cases (L.payloads p).mode <;> cases stream <;> rfl
  | recvmsg fd p stream idx msghdr tp =>
    simp only [submission, run, asked, swapped, Loop.recvmsgDispatcher]
    cases (L.payloads p).mode with
    | NORMAL_BUF | FIXED =>
      cases (L.payloads p).derefVector with
      | error e => rfl
      | ok vector => rfl
    | PROVIDED | BUF_RING => cases stream <;> rfl
  | send fd p transfer_mode idx tp =>
    simp only [submission, run, asked, swapped, Loop.sendDispatcher, Loop.acquireIdx]
    cases (L.payloads p).firstLinear with
    | error e => rfl
    | ok linear =>
      cases transfer_mode with
      | NORMAL_TRANSFER => rfl
      | ZERO_COPY =>
        cases (L.payloads p).mode with
        | FIXED => cases (L.payloads p).idx_registry <;> rfl
        | NORMAL_BUF | PROVIDED | BUF_RING => rfl
  | sendmsg fd p transfer_mode idx addr addrlen tp =>
    simp only [submission, run, asked, swapped, Loop.sendmsgDispatcher, Loop.acquireIdx]
    cases transfer_mode with
    | NORMAL_TRANSFER => cases (L.payloads p).derefVector <;> rfl
    | ZERO_COPY =>
      cases (L.payloads p).idx_registry with
      | none => rfl
      | some reg =>
        -- The payload keeps its vector when it gets the index.
        simp only [Loop.setPayload, Function.update_self, BufferPayload.derefVector, Bind.bind,
          Except.bind]
        cases (L.payloads p).vector <;> rfl

end SocketDispatch

/-! ## All calls -/

/-- A call of a builder, or of a dispatcher. -/
inductive SocketCall
  | direct (c : DataCall)
  | dispatched (d : SocketDispatch)

namespace SocketCall

/-- The builder call that is asked for. -/
def asked (L : Loop) : SocketCall → Option DataCall
  | .direct c => some c
  | .dispatched d => d.asked L

/-- What is submitted. -/
def submission (L : Loop) (poll : Bool) (ring : Ring) (r : ℤ) : SocketCall → Option Submission
  | .direct c => some (c.run poll ring r)
  | .dispatched d => d.submission L poll ring r

/-- The group that is passed in the place of `is_poll_first`. -/
def swapped (L : Loop) : SocketCall → Option ℤ
  | .direct _ => none
  | .dispatched d => d.swapped L

/-- Every entry that the call builds carries what was asked. -/
def Meets (L : Loop) (call : SocketCall) (p : Bool) : Prop :=
  ∀ c, call.asked L = some c → ∀ ring r s s₀ e e₀,
    call.submission L p ring r = some s → s.Built ring e →
    call.submission L false ring r = some s₀ → s₀.Built ring e₀ →
      Carries p c.kind.bgid c.kind.buf_index e e₀

/-- The builder call that is made, with the bit that it gets. -/
def made (L : Loop) (call : SocketCall) (c : DataCall) (p : Bool) : DataCall × Bool :=
  match call.swapped L with
  | none => (c, p)
  | some g => (SocketDispatch.misplaced c p, g ≠ 0)

variable {L : Loop} {call : SocketCall} {c : DataCall} {p : Bool}

/-- The submission of a call is the run of what it made. -/
theorem submission_eq (hasked : call.asked L = some c) (p : Bool) (ring : Ring) (r : ℤ) :
    call.submission L p ring r =
      some ((call.made L c p).1.run (call.made L c p).2 ring r) := by
  unfold made
  cases call with
  | direct c' =>
    cases hasked
    rfl
  | dispatched d =>
    have hd : d.asked L = some c := hasked
    change d.submission L p ring r = _
    rw [SocketDispatch.submission_eq, hd, swapped]
    cases d.swapped L <;> rfl

/-- The arguments are in each other's place where a buffer is selected for a `recvmsg`. -/
theorem kind_of_swapped {g : ℤ} (hasked : call.asked L = some c)
    (hswapped : call.swapped L = some g) :
    c.kind = .recvmsgBufferSelect g := by
  cases call with
  | direct c' => cases hswapped
  | dispatched d =>
    cases d with
    | recvmsg fd pl stream idx msghdr tp =>
      simp only [asked, swapped, SocketDispatch.asked, SocketDispatch.swapped] at hasked hswapped
      split at hswapped
      · next hmode =>
        cases hswapped
        obtain ⟨hmode | hmode, hstream⟩ := hmode <;>
        · simp only [hmode, hstream, if_false, Option.some.injEq] at hasked
          rw [← hasked]
      · cases hswapped
    | _ => cases hswapped

/-- The call that is made with `is_poll_first` clear is the one that is asked for, when no group is
passed in its place. -/
theorem made_false (hasked : call.asked L = some c) (hg : ∀ g ∈ call.swapped L, g = 0) :
    call.made L c false = (c, false) := by
  unfold made
  cases hswapped : call.swapped L with
  | none => rfl
  | some g =>
    have hzero : g = 0 := hg g hswapped
    have hkind := kind_of_swapped hasked hswapped
    rw [hzero] at hkind ⊢
    obtain ⟨idx, fd, kind, tp⟩ := c
    cases hkind
    rfl

/-- A call keeps the timeout that it was given. -/
theorem made_timeout_params (p : Bool) :
    (call.made L c p).1.timeout_params = c.timeout_params := by
  unfold made
  split <;> rfl

/-- In some queue the call builds an entry, and without `is_poll_first` it builds its entry from the
same reserved one. -/
theorem Meets.carries (h : call.Meets L p) (hasked : call.asked L = some c) :
    ∃ reserved, Reserved reserved ∧ Carries p c.kind.bgid c.kind.buf_index
      ((call.made L c p).1.entry (call.made L c p).2 reserved)
      ((call.made L c false).1.entry (call.made L c false).2 reserved) := by
  obtain ⟨ring, e, hbuilt⟩ := submitOp_builds (some c.timeout_params)
    ((call.made L c p).1.entry (call.made L c p).2)
  rcases submitOp_built ring (some c.timeout_params) with hnever | ⟨reserved, hres, hiff⟩
  · exact absurd hbuilt (hnever _ _ _)
  · refine ⟨reserved, hres, ?_⟩
    have hsubmits : ∀ q, call.submission L q ring 1 =
        some (submitOp ring (some c.timeout_params)
          ((call.made L c q).1.entry (call.made L c q).2) 0 1) := by
      intro q
      rw [submission_eq hasked, DataCall.run_eq, made_timeout_params]
    exact h c hasked ring 1 _ _ _ _ (hsubmits p) ((hiff _ 1 _).mpr rfl) (hsubmits false)
      ((hiff _ 1 _).mpr rfl)

/-- **Which entries carry what was asked.** Those of the calls without `is_poll_first` that do not
select the buffer of a `recvmsg` from a group other than `0`; and a call that follows a null pointer
builds none. -/
theorem carries_iff (L : Loop) (call : SocketCall) (p : Bool) :
    call.Meets L p ↔
      call.asked L = none ∨ (p = false ∧ ∀ g ∈ call.swapped L, g = 0) := by
  cases hasked : call.asked L with
  | none =>
    refine iff_of_true (fun c hc => ?_) (.inl rfl)
    rw [hasked] at hc
    cases hc
  | some c =>
    constructor
    · intro h
      obtain ⟨reserved, hres, hcarries⟩ := h.carries hasked
      refine .inr ?_
      have hbit := hcarries.poll_first
      rw [((call.made L c p).1.entry_prio _ hres).1] at hbit
      have hp : p = false := by
        cases p with
        | false => rfl
        | true => cases hbit
      refine ⟨hp, fun g hg => ?_⟩
      have hswapped : call.swapped L = some g := hg
      have hflags := hcarries.msg_flags
      rw [DataCall.entry_msgFlags] at hflags
      simp only [made, hswapped] at hflags
      by_contra hne
      simp [pollFirst, hne, IORING_RECVSEND_POLL_FIRST] at hflags
    · rintro (h | ⟨rfl, hg⟩)
      · cases h
      · intro c' hc' ring r s s₀ e e₀ hs hbuilt hs₀ hbuilt₀
        rw [hasked] at hc'
        cases hc'
        rw [submission_eq hasked, made_false hasked hg, DataCall.run_eq] at hs hs₀
        cases hs
        cases hs₀
        rcases submitOp_built ring (some c.timeout_params) with hnever | ⟨reserved, hres, hiff⟩
        · exact absurd hbuilt (hnever _ _ _)
        · rw [(hiff _ _ _).mp hbuilt, (hiff _ _ _).mp hbuilt₀]
          exact (c.entry_carries_iff false hres).mpr rfl

/-- A receive that should poll first. -/
def polledRecv : DataCall := ⟨3, 5, .recv 4096 16, .zero⟩

/-- Its entry has the message flag `MSG_OOB`, and polls no more than without. -/
theorem polledRecv_not_carries :
    let e := polledRecv.entry true Sqe.zero
    ((polledRecv.run true (.replicate 1 .zero) 1).Built (.replicate 1 .zero) e) ∧
      e.msgFlags = 1 ∧ e.prio = 0 ∧
      ∀ L : Loop, ¬ (SocketCall.direct polledRecv).Meets L true := by
  refine ⟨⟨by decide, by decide⟩, by decide, by decide, fun L h => ?_⟩
  rcases (carries_iff L _ _).mp h with h | h
  · cases h
  · cases h.1

end SocketCall

end Uringio
