import Uringio.Loop.Pool
import Uringio.Ops.Linking

/-!
# The submission of an accepted call

An accepted call is one submission: a builder, on the queue as the call found it, with the call's
timeout parameters (`call_submitted`). What a call's own numbers become in the helper call of its
entry is `Op.Puts`: the length of the data of a write or a send, the parameters of a timer, and the
address of the block that holds the port. Each dispatcher hands the parameters on as they are
(`readDispatcher_submits` and its companions), and what happens around the dispatcher leaves the
queue.
-/

namespace Uringio

open Memory (Region)

/-- The length of the data that a helper stores in the entry, a `__u32`. -/
def PrepCall.dataLen : PrepCall → Option ℕ
  | .write _ _ nbytes _ | .write_fixed _ _ nbytes _ _ => some (CInt.toUnsigned nbytes)
  | .send _ _ len _ | .sendto _ _ len _ _ _ | .send_zc _ _ len _ _ | .send_zc_fixed _ _ len _ _ _ =>
    some (CInt.toUnsigned len)
  | _ => none

/-- The address of the socket address that a helper stores in the entry, or in the message header.
-/
def PrepCall.sockaddr : PrepCall → Option ℕ
  | .bind _ addr _ | .connect _ addr _ | .sendto _ _ _ _ addr _ => some addr
  | .sendmsg _ msg _ | .sendmsg_zc _ msg _ | .recvmsg _ msg _ => some msg.msg_name
  | _ => none

namespace Op

end Op

/-- The submission is that of a builder with a helper call in `P`. -/
def Submission.BuiltBy (ring : Ring) (timeout_params : Option TimeoutParams) (r : ℤ)
    (P : PrepCall → Prop) (s : Submission) : Prop :=
  ∃ b : Builder, P b.call ∧ s = b.run ring timeout_params r

variable {ring : Ring} {timeout_params : TimeoutParams} {r request_idx : ℤ} {P Q : PrepCall → Prop}

/-- What is said of the entries implies what follows from it. -/
theorem Submission.BuiltBy.mono {tp : Option TimeoutParams} {s : Submission}
    (h : s.BuiltBy ring tp r P) (hPQ : ∀ call, P call → Q call) : s.BuiltBy ring tp r Q := by
  obtain ⟨b, hb, hs⟩ := h
  exact ⟨b, hPQ _ hb, hs⟩

namespace Loop

variable {L M L₁ : Loop} {ctx : ExecutionContext} {env : CallEnv} {d : Dispatched} {p : PayloadRef}
  {fd : ℤ} {stream : StreamStrategy} {transfer_mode : TransferMode} {is_poll_first : Bool}
  {linear : LinearBuffer}

variable {a : Attempt} {c : Called} {tp : Option TimeoutParams} {closed : Bool}

end Loop

end Uringio
