import Mathlib.Data.Int.ModEq

/-!
# Names shared by the whole development

The enumerations of the source and the references by which its records point to each other. An
object that a call of the program makes is named by the number of that call; a pointer that may be
`NULL` is an `Option`.
-/

namespace Uringio

/-- A Python future, by the call that created it. -/
abbrev FutureRef := ℕ

/-- A `UringioFile`, by the call that created it. -/
abbrev FileRef := ℕ

/-- A `struct msghdr` on the heap, by the call that allocated it. -/
abbrev MsghdrRef := ℕ

/-- A `struct sockaddr_storage` on the heap, by the call that allocated it. -/
abbrev SockaddrRef := ℕ

/-- A `UringioSocket`: one that a call created, or the `n`-th connection that it accepted. -/
inductive SocketRef
  | made (call : ℕ)
  | accepted (call n : ℕ)
  deriving DecidableEq

/-- A `BufferPayload` on the heap: one that a call built for its own request, or the `n`-th payload
of a context. -/
inductive PayloadRef
  | own (call : ℕ)
  | context (n : ℕ)
  deriving DecidableEq

/-- The `IORING_OP_*` opcodes that the program names; `nop` is `IORING_OP_NOP`, which is `0`. -/
inductive Opcode
  | nop | readv | writev | fsync | poll_add | read_fixed | write_fixed | sendmsg | recvmsg
  | timeout | accept | link_timeout | connect | openat2 | close | read | write | send | recv
  | splice | provide_buffers | remove_buffers | socket | bind | listen | send_zc | sendmsg_zc
  | read_multishot
  deriving DecidableEq

/-- `StreamStrategy`. -/
inductive StreamStrategy
  | ONESHOT | MULTISHOT
  deriving DecidableEq

/-- `TransferMode`. -/
inductive TransferMode
  | NORMAL_TRANSFER | ZERO_COPY
  deriving DecidableEq

/-- `BufferMode`, without the value that marks an invalid argument. -/
inductive BufferMode
  | NORMAL_BUF | FIXED | PROVIDED | BUF_RING
  deriving DecidableEq

/-- `PayloadOrigin`: who allocated the buffers. -/
inductive PayloadOrigin
  | PAYLOAD_USER | PAYLOAD_RUNTIME
  deriving DecidableEq

/-- `PayloadType`, without the value that marks an invalid argument. -/
inductive PayloadType
  | PAYLOAD_LINEAR | PAYLOAD_IOVEC | PAYLOAD_LINEAR_AND_IOVEC
  deriving DecidableEq

end Uringio
