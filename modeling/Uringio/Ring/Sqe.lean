import Mathlib.Data.Int.ModEq
import Uringio.Lib.CInt
import Uringio.Types

/-!
# Submission queue entries

An entry as the program can see it: which helper of the io_uring library filled it and with what
arguments, the fields that the program sets itself, and the tag that the completion will carry. A
pointer to a local structure of the function that submits the entry is the structure it points to;
an address is a number, `0` for `NULL`. The one pointer to a local of a function that has returned
before the entry is submitted, that of a linked timeout, has a type of its own (`Expired`).
-/

namespace Uringio

/-- `struct iovec`. -/
structure Iovec where
  /-- The address of the memory. -/
  iov_base : ℕ
  /-- Its length. -/
  iov_len : ℕ
  deriving DecidableEq

/-- `struct __kernel_timespec`. -/
structure Timespec where
  /-- The seconds. -/
  tv_sec : ℤ
  /-- The nanoseconds. -/
  tv_nsec : ℤ
  deriving DecidableEq

/-- A pointer to a local variable of a function that returns before the pointer is followed, with
what was stored in the variable. Whoever follows it finds what the stack holds by then. -/
structure Expired (α : Type) where
  /-- What the function stored. -/
  stored : α
  deriving DecidableEq

/-- `struct open_how`. -/
structure OpenHow where
  /-- The flags of `open`. -/
  flags : ℕ
  /-- The mode of a new file. -/
  mode : ℕ
  /-- How the path is resolved. -/
  resolve : ℕ
  deriving DecidableEq

/-- `struct msghdr`, without the ancillary data, which the program never sets. -/
structure Msghdr where
  /-- The address of the peer's address. -/
  msg_name : ℕ
  /-- Its length. -/
  msg_namelen : ℕ
  /-- The vectors. -/
  msg_iov : List Iovec
  /-- Their number. -/
  msg_iovlen : ℕ
  deriving DecidableEq

/-- A message header of zeros. -/
def Msghdr.zero : Msghdr := ⟨0, 0, [], 0⟩

/-- The calls of the `io_uring_prep_*` helpers, each with the arguments of the helper. -/
inductive PrepCall
  | read (fd : ℤ) (buf nbytes offset : ℕ)
  | read_fixed (fd : ℤ) (buf nbytes offset : ℕ) (buf_index : ℤ)
  | read_multishot (fd : ℤ) (nbytes offset : ℕ) (buf_group : ℤ)
  | readv2 (fd : ℤ) (iovecs : List Iovec) (nr_vecs offset : ℕ) (flags : ℤ)
  | write (fd : ℤ) (buf nbytes offset : ℕ)
  | write_fixed (fd : ℤ) (buf nbytes offset : ℕ) (buf_index : ℤ)
  | writev2 (fd : ℤ) (iovecs : List Iovec) (nr_vecs offset : ℕ) (flags : ℤ)
  | openat2 (dfd : ℤ) (path : String) (how : OpenHow)
  | close (fd : ℤ)
  | fsync (fd : ℤ) (fsync_flags : ℕ)
  | splice (fd_in off_in fd_out off_out : ℤ) (nbytes splice_flags : ℕ)
  | socket (domain type protocol : ℤ) (flags : ℕ)
  | bind (fd : ℤ) (addr addrlen : ℕ)
  | connect (fd : ℤ) (addr addrlen : ℕ)
  | listen (fd backlog : ℤ)
  | accept (fd : ℤ) (addr addrlen : ℕ) (flags : ℤ)
  | multishot_accept (fd : ℤ) (addr addrlen : ℕ) (flags : ℤ)
  | send (sockfd : ℤ) (buf len : ℕ) (flags : ℤ)
  | sendto (sockfd : ℤ) (buf len : ℕ) (flags : ℤ) (addr addrlen : ℕ)
  | send_zc (sockfd : ℤ) (buf len : ℕ) (flags : ℤ) (zc_flags : ℕ)
  | send_zc_fixed (sockfd : ℤ) (buf len : ℕ) (flags : ℤ) (zc_flags buf_index : ℕ)
  | recv (sockfd : ℤ) (buf len : ℕ) (flags : ℤ)
  | recv_multishot (sockfd : ℤ) (buf len : ℕ) (flags : ℤ)
  | sendmsg (fd : ℤ) (msg : Msghdr) (flags : ℕ)
  | sendmsg_zc (fd : ℤ) (msg : Msghdr) (flags : ℕ)
  | recvmsg (fd : ℤ) (msg : Msghdr) (flags : ℕ)
  /-- The header is the one that the caller allocated. -/
  | recvmsg_multishot (fd : ℤ) (msg : Option MsghdrRef) (flags : ℕ)
  | timeout (ts : Timespec) (count flags : ℕ)
  /-- The structure is a local of the function that prepares the entry, and the entry is submitted
  by the caller of that function. -/
  | link_timeout (ts : Expired Timespec) (flags : ℕ)
  | provide_buffers (addr : ℕ) (len nr bgid bid : ℤ)
  | remove_buffers (nr bgid : ℤ)
  | poll_add (fd : ℤ) (poll_mask : ℕ)
  deriving DecidableEq

/-- A submission queue entry. -/
structure Sqe where
  /-- The helper call that last wrote the opcode, the descriptor, the address and the length;
  `none` in an entry that was never filled, which holds zeros. -/
  prep : Option PrepCall
  /-- The flags of the entry. -/
  flags : ℕ
  /-- The flags of the operation. -/
  ioprio : ℕ
  /-- `buf_index`, which shares its memory with `buf_group`. -/
  buf_index : ℕ
  /-- The tag. -/
  user_data : ℕ
  /-- Whether a helper has filled the entry since it was last reserved. -/
  prepared : Bool
  deriving DecidableEq

/-- An entry of a new ring. -/
def Sqe.zero : Sqe := ⟨none, 0, 0, 0, 0, false⟩

/-- `IOSQE_IO_LINK`. -/
def IOSQE_IO_LINK : ℕ := 4

/-- `IOSQE_BUFFER_SELECT`. -/
def IOSQE_BUFFER_SELECT : ℕ := 32

/-- `IORING_RECVSEND_POLL_FIRST`. -/
def IORING_RECVSEND_POLL_FIRST : ℕ := 1

/-- `IORING_RECVSEND_FIXED_BUF`. -/
def IORING_RECVSEND_FIXED_BUF : ℕ := 4

/-- `IORING_TIMEOUT_MULTISHOT`. -/
def IORING_TIMEOUT_MULTISHOT : ℕ := 64

/-- `IORING_FSYNC_DATASYNC`. -/
def IORING_FSYNC_DATASYNC : ℕ := 1

/-- `RWF_NOWAIT`. -/
def RWF_NOWAIT : ℤ := 8

/-- `WAKEUP_FD_TAG`, which is `UINT64_MAX`. -/
def WAKEUP_FD_TAG : ℕ := 18446744073709551615

namespace Sqe

/-- What a reservation does to an entry: it clears the flags, and leaves what the helpers write
and the tag as the entry's previous use left them. -/
def reserved (sqe : Sqe) : Sqe :=
  { sqe with flags := 0, ioprio := 0, buf_index := 0, prepared := false }

/-- A call of a helper on the entry. -/
def prepare (call : PrepCall) (sqe : Sqe) : Sqe := { sqe with prep := some call, prepared := true }

/-- `sqe->flags |= flag`. -/
def setFlag (flag : ℕ) (sqe : Sqe) : Sqe := { sqe with flags := sqe.flags ||| flag }

/-- `sqe->ioprio |= flag`. -/
def setIoprio (flag : ℕ) (sqe : Sqe) : Sqe := { sqe with ioprio := sqe.ioprio ||| flag }

/-- `sqe->buf_index = (__u16)index`, or the same for `buf_group`. -/
def setBufIndex (index : ℤ) (sqe : Sqe) : Sqe := { sqe with buf_index := CInt.toU16 index }

/-- `io_uring_sqe_set_data64`. -/
def setData64 (data : ℕ) (sqe : Sqe) : Sqe := { sqe with user_data := data }

/-- `io_uring_sqe_set_data(sqe, (void *)(uintptr_t)request_idx)`. -/
def setData (request_idx : ℤ) (sqe : Sqe) : Sqe := sqe.setData64 (CInt.toU64 request_idx)

end Sqe

end Uringio
