import Uringio.Lib.RingBuffer
import Uringio.Ring.Sqe

/-!
# The submission queue and the common shape of a submission

The program's side of the ring: the queue of entries that the kernel has not consumed. Every
function of the ops layer has the same shape. It reserves an entry, perhaps links a timeout to it
in a second entry (the macro `SQE_WITH_OPTIONAL_TIMEOUT`), fills and tags the entry, and submits
the queue. `submitOp` is that shape.

The library's part is what its documentation says: `io_uring_get_sqe` reserves the next entry at
once and leaves what its previous use stored there; a negative result of `io_uring_submit` leaves
the queue as it is, and a result `r ≥ 0` means that the kernel consumed the `r` oldest entries.
-/

namespace Uringio

/-- The submission queue of a ring. -/
abbrev Ring := RingBuffer Sqe

/-- `TimeoutParams`. -/
structure TimeoutParams where
  /-- The seconds. -/
  sec : ℤ
  /-- The nanoseconds. -/
  nsec : ℤ
  /-- The call asked for a timeout. -/
  is_required : Bool
  deriving DecidableEq

/-- `TimeoutParams timeout_params = {0}`. -/
def TimeoutParams.zero : TimeoutParams := ⟨0, 0, false⟩

/-- `ring_init`: a queue of 256 entries of zeros. -/
def ringInit : Ring := RingBuffer.replicate 255 .zero

/-- `io_uring_get_sqe`: the position of the reserved entry and the queue with it; `none` when the
queue is full. -/
def getSqe (ring : Ring) : Option (ℕ × Ring) :=
  ring.reserve.map fun r => (ring.tail, r.modify ring.tail .reserved)

/-- `create_sqe`. -/
def createSqe (ring : Ring) : Option (ℕ × Ring) := getSqe ring

/-- `timeout`: its return value and the queue after it. The entry `sqe` gets its link flag before
the second entry is asked for, and the second entry gets the address of the local `ts`, which is
gone when the function has returned. -/
def timeout (ring : Ring) (sqe : ℕ) : Option TimeoutParams → ℤ × Ring
  | none => (0, ring)
  | some timeout_params =>
    if timeout_params.sec = 0 ∧ timeout_params.nsec = 0 ∧ ¬ timeout_params.is_required then
      (0, ring)
    else
      let ring := ring.modify sqe (.setFlag IOSQE_IO_LINK)
      match getSqe ring with
      | none => (if timeout_params.is_required then -1 else 0, ring)
      | some (timeout_sqe, ring) =>
        let ts : Timespec := ⟨timeout_params.sec, timeout_params.nsec⟩
        (0, ring.modify timeout_sqe (.prepare (.link_timeout ⟨ts⟩ 0)))

/-- `SQE_WITH_OPTIONAL_TIMEOUT`: the entry and the queue, or the queue that the macro's
`return -1` leaves behind. -/
def sqeWithOptionalTimeout (ring : Ring) (timeout_params : Option TimeoutParams) :
    Except Ring (ℕ × Ring) :=
  match createSqe ring with
  | none => .error ring
  | some (sqe, ring) =>
    match timeout ring sqe timeout_params with
    | (res, ring) => if res < 0 then .error ring else .ok (sqe, ring)

/-- `io_uring_submit` with result `r`: the entries that the kernel consumed, and the queue. -/
def submit (ring : Ring) (r : ℤ) : List (ℕ × Sqe) × Ring :=
  if r < 0 then ([], ring) else (ring.window.take r.toNat, ring.consume r.toNat)

/-- What a function of the ops layer leaves: its return value, the queue, and the entries that the
kernel consumed. -/
structure Submission where
  /-- What the function returns. -/
  result : ℤ
  /-- The queue after it. -/
  ring : Ring
  /-- The entries that the kernel took. -/
  consumed : List (ℕ × Sqe)

/-- A return before the queue was submitted. -/
def Submission.abandoned (result : ℤ) (ring : Ring) : Submission := ⟨result, ring, []⟩

/-- The end of every function of the ops layer: fill the entry with `fill` and submit the queue,
with result `r`; `failure` is what the function returns when the submission fails. -/
def fillAndSubmit (ring : Ring) (sqe : ℕ) (fill : Sqe → Sqe) (failure r : ℤ) : Submission :=
  match submit (ring.modify sqe fill) r with
  | (consumed, ring) => ⟨if r < 0 then failure else 1, ring, consumed⟩

/-- The common shape of the ops layer. -/
def submitOp (ring : Ring) (timeout_params : Option TimeoutParams) (fill : Sqe → Sqe)
    (failure r : ℤ) : Submission :=
  match sqeWithOptionalTimeout ring timeout_params with
  | .error ring => .abandoned (-1) ring
  | .ok (sqe, ring) => fillAndSubmit ring sqe fill failure r

/-- The common shape of a tagged operation: one helper call, the fields that the program sets
after it, the tag. -/
def submitRequest (ring : Ring) (request_idx : ℤ) (call : PrepCall) (set : Sqe → Sqe)
    (timeout_params : TimeoutParams) (r : ℤ) : Submission :=
  submitOp ring (some timeout_params) (fun sqe => (set (sqe.prepare call)).setData request_idx) 0 r

/-- `ring_prep_wakeup_read`, with the result `r` of a submission that it does not look at. -/
def ringPrepWakeupRead (ring : Ring) (wakeup_fd : ℤ) (wakeup_buf : ℕ) (r : ℤ) : Submission :=
  match getSqe ring with
  | none => .abandoned (-1) ring
  | some (sqe, ring) =>
    match submit (ring.modify sqe fun e =>
        (e.prepare (.read wakeup_fd wakeup_buf 8 0)).setData64 WAKEUP_FD_TAG) r with
    | (consumed, ring) => ⟨0, ring, consumed⟩

end Uringio
