import Uringio.Buffers.Payload

/-!
# What the kernel makes of an entry

How often an entry completes, and where the bytes that its operation receives are put. This is the
documented behaviour of the interface; the program does not compute any of it.
-/

namespace Uringio

open Memory (Region)

/-- The operation posts any number of completions, all but the last with `IORING_CQE_F_MORE`. -/
def PrepCall.multishot : PrepCall → Bool
  | .read_multishot .. | .recv_multishot .. | .recvmsg_multishot .. | .multishot_accept .. => true
  | .timeout _ _ flags => flags &&& IORING_TIMEOUT_MULTISHOT ≠ 0
  | _ => false

/-- The operation posts a data completion with `IORING_CQE_F_MORE` and later a notification. -/
def PrepCall.zeroCopy : PrepCall → Bool
  | .send_zc .. | .send_zc_fixed .. | .sendmsg_zc .. => true
  | _ => false

/-- The operation selects a buffer whatever the flags of its entry are. -/
def PrepCall.selectsBuffer : PrepCall → Bool
  | .read_multishot .. => true
  | _ => false

/-- Where the bytes that the operation receives are put, if the entry does not select a buffer. -/
def PrepCall.destination : PrepCall → List Region
  | .read _ buf nbytes _ => [⟨buf, nbytes⟩]
  | .read_fixed _ buf nbytes _ _ => [⟨buf, nbytes⟩]
  | .readv2 _ iovecs nr_vecs _ _ => (iovecs.take nr_vecs).map Iovec.region
  | .recv _ buf len _ => [⟨buf, len⟩]
  | .recvmsg _ msg _ => (msg.msg_iov.take msg.msg_iovlen).map Iovec.region
  | _ => []

namespace Sqe

/-- See `PrepCall.multishot`. -/
def multishot (e : Sqe) : Bool := e.prep.any PrepCall.multishot

/-- See `PrepCall.zeroCopy`. -/
def zeroCopy (e : Sqe) : Bool := e.prep.any PrepCall.zeroCopy

/-- The operation puts its bytes into a buffer of a group. -/
def selectsBuffer (e : Sqe) : Bool :=
  e.flags &&& IOSQE_BUFFER_SELECT ≠ 0 || e.prep.any PrepCall.selectsBuffer

/-- See `PrepCall.destination`. -/
def destination (e : Sqe) : List Region := (e.prep.map PrepCall.destination).getD []

end Sqe

end Uringio
