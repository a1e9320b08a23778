import Uringio.Ops.Files

/-!
# Socket operations of the ops layer

`ops/sockets`: each function but `prep_socket` is `submitRequest` at its own helper call.
`prep_socket` looks at its domain between the reservation of the entry and the helper call.
-/

namespace Uringio

/-- `AF_INET`. -/
def AF_INET : ℤ := 2

/-- `AF_INET6`. -/
def AF_INET6 : ℤ := 10

/-- The message flags of a send or a receive: `IORING_RECVSEND_POLL_FIRST` or none. -/
def pollFirst (is_poll_first : Bool) : ℕ := if is_poll_first then IORING_RECVSEND_POLL_FIRST else 0

/-- The entry uses the registered buffer `buf_index`. -/
def fixedBuffer (buf_index : ℤ) (sqe : Sqe) : Sqe :=
  (sqe.setBufIndex buf_index).setIoprio IORING_RECVSEND_FIXED_BUF

/-- `prep_socket`. -/
def prepSocket (ring : Ring) (request_idx domain type : ℤ) (timeout_params : TimeoutParams)
    (r : ℤ) : Submission :=
  match sqeWithOptionalTimeout ring (some timeout_params) with
  | .error ring => .abandoned (-1) ring
  | .ok (sqe, ring) =>
    if ¬ (domain = AF_INET ∨ domain = AF_INET6) then .abandoned (-2) ring
    else
      fillAndSubmit ring sqe
        (fun e => (e.prepare (.socket domain type 0 0)).setData request_idx) 0 r

/-- `uringio_bind`. -/
def uringioBind (ring : Ring) (request_idx fd : ℤ) (addr addrlen : ℕ)
    (timeout_params : TimeoutParams) (r : ℤ) : Submission :=
  submitRequest ring request_idx (.bind fd addr addrlen) id timeout_params r

/-- `uringio_connect`. -/
def uringioConnect (ring : Ring) (request_idx fd : ℤ) (addr addrlen : ℕ)
    (timeout_params : TimeoutParams) (r : ℤ) : Submission :=
  submitRequest ring request_idx (.connect fd addr addrlen) id timeout_params r

/-- `uringio_listen`. -/
def uringioListen (ring : Ring) (request_idx fd backlog : ℤ) (timeout_params : TimeoutParams)
    (r : ℤ) : Submission :=
  submitRequest ring request_idx (.listen fd backlog) id timeout_params r

/-- `uringio_accept`. -/
def uringioAccept (ring : Ring) (request_idx sockfd : ℤ) (addr len : ℕ) (flags : ℤ)
    (timeout_params : TimeoutParams) (r : ℤ) : Submission :=
  submitRequest ring request_idx (.accept sockfd addr len flags) id timeout_params r

/-- `uringio_accept_multishot`. -/
def uringioAcceptMultishot (ring : Ring) (request_idx sockfd : ℤ) (addr len : ℕ) (flags : ℤ)
    (timeout_params : TimeoutParams) (r : ℤ) : Submission :=
  submitRequest ring request_idx (.multishot_accept sockfd addr len flags) id timeout_params r

/-- `uringio_close_socket`. -/
def uringioCloseSocket (ring : Ring) (request_idx sockfd : ℤ) (timeout_params : TimeoutParams)
    (r : ℤ) : Submission :=
  submitRequest ring request_idx (.close sockfd) id timeout_params r

/-- `uringio_send`. -/
def uringioSend (ring : Ring) (request_idx sockfd : ℤ) (buf len : ℕ) (is_poll_first : Bool)
    (timeout_params : TimeoutParams) (r : ℤ) : Submission :=
  submitRequest ring request_idx (.send sockfd buf len (pollFirst is_poll_first)) id
    timeout_params r

/-- `uringio_sendto`. -/
def uringioSendto (ring : Ring) (request_idx sockfd : ℤ) (buf len addr addrlen : ℕ)
    (is_poll_first : Bool) (timeout_params : TimeoutParams) (r : ℤ) : Submission :=
  submitRequest ring request_idx
    (.sendto sockfd buf len (pollFirst is_poll_first) addr (CInt.toUnsigned addrlen)) id
    timeout_params r

/-- `uringio_send_zc`. -/
def uringioSendZc (ring : Ring) (request_idx sockfd : ℤ) (buf len : ℕ) (is_poll_first : Bool)
    (timeout_params : TimeoutParams) (r : ℤ) : Submission :=
  submitRequest ring request_idx (.send_zc sockfd buf len (pollFirst is_poll_first) 0) id
    timeout_params r

/-- `uringio_send_zc_fixed`. -/
def uringioSendZcFixed (ring : Ring) (request_idx sockfd : ℤ) (buf len : ℕ)
    (is_poll_first : Bool) (buf_index : ℤ) (timeout_params : TimeoutParams) (r : ℤ) : Submission :=
  submitRequest ring request_idx
    (.send_zc_fixed sockfd buf len (pollFirst is_poll_first) 0 (CInt.toUnsigned buf_index)) id
    timeout_params r

/-- `uringio_recv`. -/
def uringioRecv (ring : Ring) (request_idx sockfd : ℤ) (buf len : ℕ) (is_poll_first : Bool)
    (timeout_params : TimeoutParams) (r : ℤ) : Submission :=
  submitRequest ring request_idx (.recv sockfd buf len (pollFirst is_poll_first)) id
    timeout_params r

/-- `uringio_recv_fixed`. -/
def uringioRecvFixed (ring : Ring) (request_idx sockfd : ℤ) (buf len : ℕ) (is_poll_first : Bool)
    (buf_index : ℤ) (timeout_params : TimeoutParams) (r : ℤ) : Submission :=
  submitRequest ring request_idx (.recv sockfd buf len (pollFirst is_poll_first))
    (fixedBuffer buf_index) timeout_params r

/-- `uringio_recv_buffer_select`. -/
def uringioRecvBufferSelect (ring : Ring) (request_idx sockfd : ℤ) (len : ℕ) (bgid : ℤ)
    (is_poll_first : Bool) (timeout_params : TimeoutParams) (r : ℤ) : Submission :=
  submitRequest ring request_idx (.recv sockfd 0 len (pollFirst is_poll_first))
    (selectBuffer bgid) timeout_params r

/-- `uringio_recv_multishot`. -/
def uringioRecvMultishot (ring : Ring) (request_idx sockfd : ℤ) (len : ℕ) (bgid : ℤ)
    (is_poll_first : Bool) (timeout_params : TimeoutParams) (r : ℤ) : Submission :=
  submitRequest ring request_idx (.recv_multishot sockfd 0 len (pollFirst is_poll_first))
    (selectBuffer bgid) timeout_params r

/-- `uringio_recvfrom`, which fills the header that the caller allocated. -/
def uringioRecvfrom (ring : Ring) (request_idx sockfd : ℤ) (buf len addr addrlen : ℕ)
    (is_poll_first : Bool) (timeout_params : TimeoutParams) (r : ℤ) : Submission :=
  submitRequest ring request_idx
    (.recvmsg sockfd ⟨addr, addrlen, [⟨buf, len⟩], 1⟩ (pollFirst is_poll_first)) id timeout_params r

/-- `uringio_sendmsg`. -/
def uringioSendmsg (ring : Ring) (request_idx sockfd : ℤ) (iovecs : List Iovec)
    (nr_vecs addr addrlen : ℕ) (is_poll_first : Bool) (timeout_params : TimeoutParams) (r : ℤ) :
    Submission :=
  submitRequest ring request_idx
    (.sendmsg sockfd ⟨addr, CInt.toUnsigned addrlen, iovecs, nr_vecs⟩ (pollFirst is_poll_first)) id
    timeout_params r

/-- `uringio_sendmsg_zc`. -/
def uringioSendmsgZc (ring : Ring) (request_idx sockfd : ℤ) (iovecs : List Iovec)
    (nr_vecs addr addrlen : ℕ) (is_poll_first : Bool) (buf_index : ℤ)
    (timeout_params : TimeoutParams)
    (r : ℤ) : Submission :=
  submitRequest ring request_idx
    (.sendmsg_zc sockfd ⟨addr, CInt.toUnsigned addrlen, iovecs, nr_vecs⟩ (pollFirst is_poll_first))
    (fixedBuffer buf_index) timeout_params r

/-- `uringio_recvmsg`. -/
def uringioRecvmsg (ring : Ring) (request_idx sockfd : ℤ) (iovecs : List Iovec) (nr_vecs : ℕ)
    (is_poll_first : Bool) (timeout_params : TimeoutParams) (r : ℤ) : Submission :=
  submitRequest ring request_idx
    (.recvmsg sockfd ⟨0, 0, iovecs, nr_vecs⟩ (pollFirst is_poll_first)) id timeout_params r

/-- `uringio_recvmsg_fixed`. -/
def uringioRecvmsgFixed (ring : Ring) (request_idx sockfd : ℤ) (iovecs : List Iovec)
    (nr_vecs : ℕ) (is_poll_first : Bool) (buf_index : ℤ) (timeout_params : TimeoutParams) (r : ℤ) :
    Submission :=
  submitRequest ring request_idx
    (.recvmsg sockfd ⟨0, 0, iovecs, nr_vecs⟩ (pollFirst is_poll_first)) (fixedBuffer buf_index)
    timeout_params r

/-- `uringio_recvmsg_buffer_select`. -/
def uringioRecvmsgBufferSelect (ring : Ring) (request_idx sockfd : ℤ) (is_poll_first : Bool)
    (bgid : ℤ) (timeout_params : TimeoutParams) (r : ℤ) : Submission :=
  submitRequest ring request_idx (.recvmsg sockfd .zero (pollFirst is_poll_first))
    (selectBuffer bgid) timeout_params r

/-- `uringio_recvmsg_multishot`. -/
def uringioRecvmsgMultishot (ring : Ring) (request_idx sockfd bgid : ℤ) (is_poll_first : Bool)
    (msghdr : Option MsghdrRef) (timeout_params : TimeoutParams) (r : ℤ) : Submission :=
  submitRequest ring request_idx
    (.recvmsg_multishot sockfd msghdr (pollFirst is_poll_first)) (selectBuffer bgid)
    timeout_params r

end Uringio
