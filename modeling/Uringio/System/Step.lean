import Uringio.Lib.Transition
import Uringio.Loop.Init
import Uringio.Ring.Kernel

/-!
# The loop and the kernel

The system of the loop and the kernel as a transition system. Its steps are the calls that make
requests, the calls that hand buffers to the kernel, the completions that the kernel posts, the
entries that the reader handles, the submission that `_run_once` waits with, its return,
`_write_to_self`, signals, and cancellations; a label carries every choice that the program does not
make.

An entry of the submission queue is named by its position, which never recurs. `owner` says for
which call it was added; the entries of linked timeouts, of provided buffers, of the eventfd, of the
signal pipe and those that a failed call left behind have no owner.
-/

namespace Uringio

open Memory (Region)

/-- An entry that the kernel has taken and has not finished. -/
structure Flight where
  /-- Its position in the submission queue. -/
  pos : ℕ
  /-- The entry. -/
  sqe : Sqe
  /-- A completion was posted, and more are to come. -/
  posted : Bool
  deriving DecidableEq

/-- An entry that was just taken. -/
def Flight.ofEntry (e : ℕ × Sqe) : Flight := ⟨e.1, e.2, false⟩

/-- An entry of the completion queue, with what it is a completion of. -/
structure Completion where
  /-- The position of its entry. -/
  pos : ℕ
  /-- The entry. -/
  sqe : Sqe
  /-- What the kernel wrote. -/
  cqe : Cqe
  /-- The bytes that the kernel put into memory. -/
  data : List UInt8
  deriving DecidableEq

/-- A call of `set_result` or `set_exception`, with the completion that caused it. -/
structure Delivery where
  /-- The completion that was read. -/
  completion : Completion
  /-- The future that was resolved. -/
  future : FutureRef
  /-- What it was resolved with. -/
  outcome : Outcome
  deriving DecidableEq

/-- What a call registered: the call, and the slot of its request. -/
structure Registered where
  /-- The context of the call. -/
  context : ExecutionContext
  /-- The call. -/
  op : Op
  /-- What the call met. -/
  env : CallEnv
  /-- The slot that it filled. -/
  slot : RequestSlot

/-- What a call registered, if it did. -/
def Called.registered (c : Called) (ctx : ExecutionContext) (op : Op) (env : CallEnv) :
    Option Registered :=
  (registryGet c.loop.registry c.request_idx).map fun slot => ⟨ctx, op, env, slot⟩

/-- What the reader resolved for a completion. -/
def Read.deliveries (r : Read) (c : Completion) : List Delivery :=
  r.call.toList.map fun fo => ⟨c, fo.1, fo.2⟩

/-- The loop and the kernel. -/
structure System where
  /-- The loop. -/
  loop : Loop
  /-- The entries that the kernel took and has not finished. -/
  flying : List Flight
  /-- The completion queue, oldest first. -/
  cq : List Completion
  /-- The call that added the entry at a position for its request. -/
  owner : ℕ → Option FutureRef
  /-- The requests that were made. -/
  registered : FutureRef → Option Registered
  /-- The futures that the reader resolved, oldest first. -/
  deliveries : List Delivery
  /-- The counter of the eventfd. -/
  counter : ℕ
  /-- The signal pipe holds bytes. -/
  signalled : Bool
  /-- The end of the signal pipe that is read. -/
  pipe_fd : ℤ

/-- A step, with the choices of its environment. -/
inductive Label
  /-- Python makes a call. -/
  | call (ctx : ExecutionContext) (op : Op) (env : CallEnv)
  /-- `init_provided_mode`, with the result `r` of the submission. -/
  | initProvidedMode (addr : ℕ) (len nr bgid r : ℤ)
  /-- `close_provided_mode`, with the result `r` of the submission. -/
  | closeProvidedMode (nr bgid r : ℤ)
  /-- The kernel posts a completion of its `n`-th entry, and puts `data` into the regions `into`. -/
  | post (n : ℕ) (res : ℤ) (flags : ℕ) (into : List Region) (data : List UInt8)
  /-- The reader handles the oldest completion. -/
  | read (env : ReadEnv)
  /-- `_run_once` submits the queue, with the result `r`. -/
  | submit (r : ℤ)
  /-- `_run_once` returns. Its caller takes the exception that may be pending. -/
  | returned
  /-- `_write_to_self`. -/
  | writeToSelf
  /-- A signal arrives. -/
  | signal
  /-- A future is cancelled. -/
  | cancel (future : FutureRef)

instance (L : Loop) : DecidablePred L.SocketExists
  | .made k => inferInstanceAs (Decidable (k < L.calls))
  | .accepted k n => inferInstanceAs (Decidable (n < L.accepted k))

/-- The file or the socket that the call is made on exists. -/
def Op.onExisting (L : Loop) (op : Op) : Bool :=
  (op.opcode = .openat2 ∨ (op.file L.calls).all (· < L.calls)) ∧
    (op.opcode = .socket ∨ (op.socket? L.calls).all fun s => decide (L.SocketExists s))

/-! ## The kernel -/

/-- The completions that an operation posts: one; or any number, all but the last with
`IORING_CQE_F_MORE`; or, for a zero-copy send, one with it and then a notification. -/
def Flight.mayPost (f : Flight) (cqe : Cqe) : Bool :=
  if f.sqe.multishot then true
  else if f.sqe.zeroCopy then
    if f.posted then !cqe.more && cqe.flags &&& IORING_CQE_F_NOTIF ≠ 0 else cqe.more
  else !cqe.more

/-- A read of the descriptor `fd`. -/
def Sqe.readsFd (fd : ℤ) (e : Sqe) : Bool :=
  match e.prep with
  | some (.read fd' ..) => fd' = fd
  | _ => false

/-- A poll of the descriptor `fd`. -/
def Sqe.pollsFd (fd : ℤ) (e : Sqe) : Bool :=
  match e.prep with
  | some (.poll_add fd' _) => fd' = fd
  | _ => false

/-- The bytes of a completion: an operation that does not select a buffer puts them where its entry
says, and its result is their number. -/
def Sqe.mayDeliver (e : Sqe) (res : ℤ) (into : List Region) (data : List UInt8) : Prop :=
  (e.selectsBuffer = true ∨ into = e.destination) ∧ data.length ≤ Memory.capacity into ∧
    (if res < 0 then data = [] else into = [] ∨ res = data.length)

instance (e : Sqe) (res : ℤ) (into : List Region) (data : List UInt8) :
    Decidable (e.mayDeliver res into data) := inferInstanceAs (Decidable (_ ∧ _ ∧ _))

namespace System

variable (s : System)

/-- The entry waits for the eventfd. -/
def readsWakeup (e : Sqe) : Bool := e.readsFd s.loop.wakeup_fd

/-- The entry waits for the signal pipe. -/
def pollsSignals (e : Sqe) : Bool := e.pollsFd s.pipe_fd

/-- What the entry waits for has happened. -/
def ready (e : Sqe) : Bool :=
  (!s.readsWakeup e || decide (0 < s.counter)) && (!s.pollsSignals e || s.signalled)

/-- The kernel takes entries. -/
def take (entries : List (ℕ × Sqe)) : System :=
  { s with flying := s.flying ++ entries.map Flight.ofEntry }

/-- What a function of the ops layer leaves, outside of any request. -/
def submitted (sub : Submission) : System :=
  { s with loop := { s.loop with ring := sub.ring } }.take sub.consumed

/-- The kernel posts a completion. A read of the eventfd clears its counter. -/
def posted (n : ℕ) (f : Flight) (cqe : Cqe) (into : List Region) (data : List UInt8) : System :=
  { s with
    loop := { s.loop with mem := Memory.scatter s.loop.mem into data }
    flying := if cqe.more then s.flying.set n { f with posted := true } else s.flying.eraseIdx n
    cq := s.cq ++ [⟨f.pos, f.sqe, cqe, data⟩]
    counter := if s.readsWakeup f.sqe then 0 else s.counter }

/-- A call returned. -/
def called (ctx : ExecutionContext) (op : Op) (env : CallEnv) (c : Called) : System :=
  match c.future with
  | none => { s with loop := c.loop }.take c.consumed
  | some k =>
    { s with
      loop := c.loop
      owner := Function.update s.owner s.loop.ring.tail (some k)
      registered := Function.update s.registered k (c.registered ctx op env) }.take c.consumed

/-- The future of the slot that a completion names. -/
def futureOf (c : Completion) : Option FutureRef :=
  (registryGet s.loop.registry c.cqe.index).bind RequestSlot.future

/-- The reader handled the completion `c`. An entry that it added is one of the same request, if it
is not the one of the eventfd. -/
def handled (c : Completion) (r : Read) : System :=
  { s with
    loop := r.loop
    owner :=
      if r.loop.ring.tail = s.loop.ring.tail ∨ r.wakeupRead then s.owner
      else Function.update s.owner s.loop.ring.tail (s.futureOf c)
    deliveries := s.deliveries ++ r.deliveries c
    counter := if r.wakeupRead then 0 else s.counter }.take r.consumed

/-- One step; `none` where the label is not enabled, or the program would crash. -/
def step : Label → Option System
  | .call ctx op env =>
    if op.onExisting s.loop then
      (s.loop.call ctx op env).toOption.map (s.called ctx op env)
    else none
  | .initProvidedMode addr len nr bgid r =>
    some (s.submitted (Uringio.initProvidedMode s.loop.ring addr len nr bgid r))
  | .closeProvidedMode nr bgid r =>
    some (s.submitted (Uringio.closeProvidedMode s.loop.ring nr bgid r))
  | .post n res flags into data =>
    match s.flying[n]? with
    | none => none
    | some f =>
      let cqe : Cqe := ⟨f.sqe.user_data, res, flags⟩
      if f.mayPost cqe ∧ s.ready f.sqe ∧ f.sqe.mayDeliver res into data then
        some (s.posted n f cqe into data)
      else none
  | .read env =>
    match s.cq with
    | [] => none
    | c :: cq => (readCqe s.loop env c.cqe).toOption.map ({ s with cq := cq }.handled c)
  | .submit r => some (s.submitted ⟨r, (submit s.loop.ring r).2, (submit s.loop.ring r).1⟩)
  | .returned => some { s with loop := { s.loop with err := false } }
  | .writeToSelf => some { s with counter := s.counter + 1 }
  | .signal => some { s with signalled := true }
  | .cancel future =>
    if future < s.loop.calls ∧ s.loop.futures future = .pending then
      some { s with
        loop := { s.loop with futures := Function.update s.loop.futures future .cancelled } }
    else none

/-- The system after a loop was initialized. -/
def init (registry_size : ℕ) (h : registry_size < 2^31) (world : World) (env : InitEnv) :
    System where
  loop := (Loop.init registry_size h world env).1
  flying := (Loop.init registry_size h world env).2.map Flight.ofEntry
  cq := []
  owner _ := none
  registered _ := none
  deliveries := []
  counter := 0
  signalled := false
  pipe_fd := env.pipe_fd

/-! ## What is outstanding -/

/-- The entries that the kernel has not finished: those that it has not taken yet, and those that
it works on. -/
def pending : List (ℕ × Sqe) :=
  s.loop.ring.window ++ s.flying.map fun f => (f.pos, f.sqe)

/-- The completions that end their entries. -/
def ends : List Completion := s.cq.filter fun c => !c.cqe.more

/-- The entry has a completion that the reader has not handled: one in the queue, or one that the
kernel is going to post. -/
def Outstanding (pos : ℕ) (e : Sqe) : Prop :=
  (pos, e) ∈ s.pending ∨ ∃ c ∈ s.cq, c.pos = pos ∧ c.sqe = e

end System

end Uringio
