import Uringio.Ring.Ring

/-!
# Timers and the entries that belong to no request

`timer.c` and the provided-buffer half of `buffer_modes.c`. The latter's entries carry no tag of
their own: they are never tagged.
-/

namespace Uringio

/-- `TimerParams`. -/
structure TimerParams where
  /-- The seconds. -/
  sec : ℤ
  /-- The nanoseconds. -/
  nsec : ℤ
  /-- The number of completions. -/
  count : ℤ
  /-- There may be several completions. -/
  is_multishot : Bool
  deriving DecidableEq

/-- `timer`. -/
def timer (ring : Ring) (request_idx : ℤ) (timer_params : Option TimerParams) (r : ℤ) :
    Submission :=
  match timer_params with
  | none => .abandoned (-1) ring
  | some timer_params =>
    match createSqe ring with
    | none => .abandoned (-1) ring
    | some (sqe, ring) =>
      let ts : Timespec := ⟨timer_params.sec, timer_params.nsec⟩
      let flag := if timer_params.is_multishot then IORING_TIMEOUT_MULTISHOT else 0
      fillAndSubmit ring sqe
        (fun e => (e.prepare (.timeout ts (CInt.toUnsigned timer_params.count) flag)).setData
          request_idx) 0 r

/-- `init_provided_mode`. -/
def initProvidedMode (ring : Ring) (addr : ℕ) (len nr bgid r : ℤ) : Submission :=
  submitOp ring none (.prepare (.provide_buffers addr len nr bgid 0)) (-1) r

/-- `close_provided_mode`. -/
def closeProvidedMode (ring : Ring) (nr bgid r : ℤ) : Submission :=
  submitOp ring none (.prepare (.remove_buffers nr bgid)) (-1) r

end Uringio
