import Uringio.Loop.RunOnce
import Uringio.Loop.Shutdown
import Uringio.Registry.Sizes

/-!
# Loop objects in a process

`loop.c` beyond one loop that runs: objects of the type `UringioLoop` are created, initialized,
perhaps more than once and perhaps in vain, written to, closed and deallocated, in any order in
which Python asks for it and from any thread. They share the descriptors of the process and the one
`execution_context_var` of the extension, which the context managers use as well.

The fields of an object start as `tp_alloc` leaves them, all zero: so `wakeup_fd` is the descriptor
`0` until an initialization gets to the eventfd, and the ring is a block of zeros until one gets a
queue. What `io_uring_queue_init` does to the block when it fails is a choice of the environment.
What an iteration and a drain do with the requests of a loop is the model of one loop (`runOnce`,
`gracefulShutdown`), on the state that its requests have left; what the managers do with payloads
and registrations is a choice of the environment here, and their own models say when it goes wrong
(`Context.Modes`, `Tasks.Objects`); that this model's variable is the one of the managers' own is
shown in `Tasks.InProcess`. Of a `contextvars.ContextVar` the model has what keeps it alive:
the references to it, the tokens of the managers among them, and the contexts that map it to a
value. The static pointer to it is no reference of its own.

What an initialization opened is named by the number of the initialization. The fields `started`,
`current` and `ends` of a process are its history; no function of the program reads them.
-/

namespace Uringio

/-- What an initialization opens. -/
inductive Opening
  /-- The ring, by `io_uring_queue_init`. -/
  | ring
  | pipeRead
  | pipeWrite
  | eventfd
  deriving DecidableEq

/-- What a descriptor of the process is open on. -/
inductive Descriptor
  /-- Something that the initialization with the number `n` opened. -/
  | opened (what : Opening) (n : ℕ)
  /-- Something of the rest of the process. -/
  | other
  deriving DecidableEq

/-- The `struct io_uring` of a loop. -/
inductive RingBlock
  /-- As `calloc` returned it, or as an `io_uring_queue_init` that failed has left it. -/
  | blank
  /-- With the queue that `io_uring_queue_init` set up. -/
  | queue (ring_fd : ℤ)
  deriving DecidableEq

/-- `UringioLoop`, with the fields that the life of an object depends on. -/
structure UringioLoop where
  /-- The block of the ring, if the pointer is not null. -/
  ring : Option RingBlock
  /-- The thread of the loop. -/
  loop_tid : ℤ
  /-- The eventfd. -/
  wakeup_fd : ℤ
  /-- The pointer `execution_context_var` is not null. -/
  execution_context_var : Bool
  deriving DecidableEq

/-- What a context maps the variable to. -/
inductive Held
  | capsule
  | pyNone
  deriving DecidableEq

/-- The object that the static `execution_context_var` points to. -/
structure VarObject where
  /-- The references of loops and tokens, and those that were never given up. -/
  refs : ℕ
  /-- The contexts that map it to a value. -/
  contexts : List (ℕ × Held)

namespace VarObject

/-- The object was not deallocated. -/
def Alive (v : VarObject) : Prop := 0 < v.refs ∨ v.contexts ≠ []

instance (v : VarObject) : Decidable v.Alive := inferInstanceAs (Decidable (_ ∨ _))

/-- The value in the context `c`. -/
def held (v : VarObject) (c : ℕ) : Option Held := (v.contexts.find? fun p => p.1 = c).map Prod.snd

/-- The context `c` maps the variable to `value`, or to nothing any more. -/
def put (v : VarObject) (c : ℕ) (value : Option Held) : VarObject :=
  { v with contexts := (value.map (c, ·)).toList ++ v.contexts.filter fun p => p.1 ≠ c }

/-- `Py_INCREF`. -/
def incref (v : VarObject) : VarObject := { v with refs := v.refs + 1 }

/-- `Py_DECREF`. -/
def decref (v : VarObject) : VarObject := { v with refs := v.refs - 1 }

end VarObject

/-- The token of a manager that was entered in the context `context`. -/
structure ManagerToken where
  /-- The context in which the manager was entered. -/
  context : ℕ
  /-- What the context mapped the variable to. -/
  old_value : Option Held
  deriving DecidableEq

/-- What an initialization did. -/
structure Started where
  /-- The object. -/
  loop : ℕ
  /-- It got a queue. -/
  granted : Bool
  /-- It got a pipe. -/
  piped : Bool
  /-- It got an eventfd. -/
  eventfd : Bool
  /-- It took a reference to the variable that nothing gives up: it failed after that, or the object
  had a reference already. -/
  lost : Bool
  /-- It got no queue, and left the block of the ring blank. -/
  spoiled : Bool
  deriving DecidableEq

/-- The loop objects, and what they share. -/
structure Process where
  /-- The open descriptors. -/
  fds : ℤ → Option Descriptor
  /-- The objects in the order of their creation; `none` for one that was deallocated. -/
  loops : List (Option UringioLoop)
  /-- What the static `execution_context_var` points to, if it is not null. -/
  var : Option VarObject
  /-- The tokens of the managers. -/
  tokens : List ManagerToken
  /-- The initializations so far. -/
  started : List Started
  /-- The last initialization of an object that got a queue. -/
  current : ℕ → Option ℕ
  /-- The last initialization of the object that wrote to the block of its ring got no queue. -/
  spoiled : ℕ → Bool
  /-- The object was shut down; whether its ring was torn down. -/
  ends : ℕ → Option Bool

/-- What `ContextVar_init` meets. -/
structure VarEnv where
  /-- `contextvars` is imported, and its `ContextVar` makes an object. -/
  created : Bool
  /-- There is memory for the block, and for the capsule. -/
  capsule : Bool
  /-- `set` succeeds. -/
  set : Bool

/-- What `UringioLoop_init` meets. -/
structure StartEnv extends InitEnv where
  /-- The `__init__` of the base class succeeds. -/
  base : Bool
  /-- The descriptor of the ring; negative when `io_uring_queue_init` fails. -/
  ring_fd : ℤ
  /-- An `io_uring_queue_init` that fails has written to the block that it was given. -/
  touches : Bool
  /-- `pipe2` succeeds, with `pipe_fd` and this one. -/
  piped : Bool
  /-- The end of the pipe that is written to. -/
  pipe_write : ℤ
  /-- The calling thread. -/
  tid : ℤ
  /-- What `ContextVar_init` meets. -/
  var : VarEnv

/-- What `UringioLoop_run_once` meets: the loop as its requests left it, the entries of the
completion queue when the wait is over, and the scheduling code with its queues. -/
structure RunEnv where
  /-- The calling thread is the one that the base class runs the loop in. -/
  thread : Bool
  /-- The loop as its requests left it. -/
  loop : Loop
  /-- The completions that the reader finds. -/
  batch : List (ReadEnv × Cqe)
  /-- The functions of `heapq`. -/
  heapq : HeapQ
  /-- What the scheduling code meets. -/
  iter : IterEnv
  /-- The queues of handles. -/
  queues : Scheduler

/-- What `graceful_shutdown` meets: the loop as its requests left it, the completions that arrive
in the drain, the result of the last submission. -/
structure ShutdownEnv where
  /-- The loop as its requests left it. -/
  loop : Loop
  /-- The completions of the drain. -/
  drained : List Drained
  /-- What the last submission returns. -/
  submitted : ℤ
  /-- `set` succeeds. -/
  set : Bool

/-- What `UringioLoop_close` meets. -/
structure CloseEnv where
  /-- The calling thread. -/
  tid : ℤ
  /-- The `close` of the base class succeeds. -/
  base : Bool
  /-- What the shutdown meets. -/
  shutdown : ShutdownEnv

/-- What a call returns. -/
inductive Reply
  | done
  /-- The null pointer or `-1`, with an exception. -/
  | raises
  deriving DecidableEq

/-! ## The variable

The functions of `contextvar.c` on the static pointer, which is `none` while it is null. -/

/-- `ContextVar_init`, in the context `c`: whether it returns the variable. The first call creates
it, and the static pointer takes no reference besides the one that is returned. -/
def contextVarInit (var : Option VarObject) (c : ℕ) (env : VarEnv) :
    Except Fault (Bool × Option VarObject) :=
  match var with
  | none => .ok (if ¬ env.created then (false, none) else fill ⟨1, []⟩)
  | some v => if ¬ v.Alive then .error .useAfterFree else .ok (fill v.incref)
where
  /-- The block and the capsule of the defaults, which become the value in `c`. -/
  fill (v : VarObject) : Bool × Option VarObject :=
    if env.capsule ∧ env.set then (true, some (v.put c (some .capsule))) else (false, some v)

/-- `ContextVar_set(Py_None)`, as the shutdown calls it; `set` says whether it succeeds. -/
def contextVarSetNone (var : Option VarObject) (c : ℕ) (set : Bool) :
    Except Fault (Option VarObject) :=
  match var with
  | none => .ok none
  | some v =>
    if ¬ v.Alive then .error .useAfterFree
    else .ok (some (if set then v.put c (some .pyNone) else v))

/-- `ContextVar_get(NULL)`: whether it returns a block. -/
def contextVarGet (var : Option VarObject) (c : ℕ) : Except Fault Bool :=
  match var with
  | none => .ok false
  | some v => if ¬ v.Alive then .error .useAfterFree else .ok (v.held c = some .capsule)

/-- `_get_buffer`, `get_transfer_mode` and `get_stream_strategy`, which follow the pointer. -/
def contextGetter (var : Option VarObject) (c : ℕ) : Except Fault Unit :=
  match contextVarGet var c with
  | .error f => .error f
  | .ok block => if ¬ block then .error .nullDeref else .ok ()

namespace Process

variable (s : Process)

/-- The kernel opens a descriptor. -/
def openFd (fd : ℤ) (d : Descriptor) : Process :=
  { s with fds := Function.update s.fds fd (some d) }

/-- `close`. -/
def closeFd (fd : ℤ) : Process := { s with fds := Function.update s.fds fd none }

/-- Change the fields of the object `o`. -/
def setLoop (o : ℕ) (l : UringioLoop) : Process := { s with loops := s.loops.set o (some l) }

/-- `Py_CLEAR(self->execution_context_var)`. -/
def clearVar (l : UringioLoop) : Process :=
  if l.execution_context_var then { s with var := s.var.map VarObject.decref } else s

/-- A manager is entered. All but `ExecutionContextCtx` read the variable first; `own` is what the
lines do that deal with the manager's own objects: they succeed or not, or do not end well. An enter
that fails leaves the variable as it was. -/
def enterManager (c : ℕ) (reads : Bool) (own : Except Fault Bool) :
    Except Fault (Reply × Process) :=
  match s.var with
  | none => .ok (.raises, s)
  | some v =>
    if ¬ v.Alive then .error .useAfterFree
    else if reads ∧ v.held c ≠ some .capsule then .ok (.raises, s)
    else own.map fun ok =>
      if ok then (.done, { s with
        var := some (v.put c (some .capsule)).incref, tokens := s.tokens ++ [⟨c, v.held c⟩] })
      else (.raises, s)

/-- The manager with the token number `i` is left in the context `c`. A token of another context is
refused, and given up all the same. Then the manager's own lines follow, which need not end well. -/
def exitManager (i : ℕ) (token : ManagerToken) (c : ℕ) (own : Except Fault Unit) :
    Except Fault (Reply × Process) :=
  match s.var with
  | none => .ok (.raises, s)
  | some v =>
    if ¬ v.Alive then .error .useAfterFree
    else if token.context ≠ c then
      .ok (.raises, { s with var := some v.decref, tokens := s.tokens.eraseIdx i })
    else own.map fun _ => (.done, { s with
      var := some (v.put c token.old_value).decref, tokens := s.tokens.eraseIdx i })

/-! ## The objects -/

/-- `UringioLoop_new`. `memory` says whether there is memory for the registry, `object` whether
there is for the object and its ring; a registry that was made in vain is destroyed. -/
def uringioLoopNew (registry_size : ℤ) (memory object : Bool) : Reply × Process :=
  if (Uringio.uringioLoopNew registry_size memory).isNone ∨ ¬ object then (.raises, s)
  else (.done, { s with loops := s.loops ++ [some ⟨some .blank, 0, 0, false⟩] })

/-- `UringioLoop_init` on the object `o`, in the context `c`. -/
def uringioLoopInit (o : ℕ) (l : UringioLoop) (c : ℕ) (env : StartEnv) :
    Except Fault (Reply × Process) :=
  let n := s.started.length
  if ¬ env.base then .ok (.raises, s)
  else if env.ring_fd < 0 then
    if ¬ env.touches then .ok (.raises, s)
    else
      match l.ring with
      | none => .error .nullDeref
      | some _ => .ok (.raises, s.setLoop o { l with ring := some .blank })
  else
    match l.ring with
    | none => .error .nullDeref
    | some _ =>
      let s := s.openFd env.ring_fd (.opened .ring n)
      let l := { l with ring := some (.queue env.ring_fd) }
      let s :=
        if env.piped then
          (s.openFd env.pipe_fd (.opened .pipeRead n)).openFd env.pipe_write (.opened .pipeWrite n)
        else s
      let signals := setSignalsHandler ringInit env.toInitEnv
      let l := { l with wakeup_fd := env.wakeup_fd }
      if env.wakeup_fd < 0 then .ok (.raises, s.setLoop o l)
      else
        let s := s.openFd env.wakeup_fd (.opened .eventfd n)
        let wakeup :=
          ringPrepWakeupRead signals.2 env.wakeup_fd env.wakeup_buf env.submitted
        if wakeup.result < 0 then .ok (.raises, s.setLoop o l)
        else
          let l := { l with loop_tid := env.tid }
          match contextVarInit s.var c env.var with
          | .error f => .error f
          | .ok (false, var) => .ok (.raises, { s with var := var }.setLoop o l)
          | .ok (true, var) =>
            .ok (.done, { s with var := var }.setLoop o { l with execution_context_var := true })

/-- `graceful_shutdown` in the context `c`. A wait on a blank block follows its null pointers. -/
def shutdown (block : RingBlock) (c : ℕ) (env : ShutdownEnv) : Except Fault Process :=
  match block with
  | .blank => .error .nullDeref
  | .queue ring_fd =>
    match gracefulShutdown env.loop env.drained env.submitted with
    | .error f => .error f
    | .ok closed =>
      match contextVarSetNone s.var c env.set with
      | .error f => .error f
      | .ok var =>
        let s := { s with var := var }
        .ok (if closed.torn then s.closeFd ring_fd else s)

/-- The end of the object's eventfd, if its field is not negative. -/
def closeWakeup (l : UringioLoop) : Process :=
  if 0 ≤ l.wakeup_fd then s.closeFd l.wakeup_fd else s

/-- `UringioLoop_clear`. -/
def uringioLoopClear (o : ℕ) (l : UringioLoop) : Process :=
  (s.clearVar l).setLoop o { l with execution_context_var := false }

/-- `UringioLoop_dealloc`. -/
def uringioLoopDealloc (o : ℕ) (l : UringioLoop) (c : ℕ) (env : ShutdownEnv) :
    Except Fault Process :=
  let s := (s.clearVar l).closeWakeup l
  let freed (s : Process) : Process := { s with loops := s.loops.set o none }
  match l.ring with
  | none => .ok (freed s)
  | some block => (s.shutdown block c env).map freed

/-- `UringioLoop_close`. -/
def uringioLoopClose (o : ℕ) (l : UringioLoop) (c : ℕ) (env : CloseEnv) :
    Except Fault (Reply × Process) :=
  if l.loop_tid ≠ env.tid then .ok (.raises, s)
  else
    match l.ring with
    | none => .ok (.done, s)
    | some block =>
      if ¬ env.base then .ok (.raises, s)
      else (s.shutdown block c env.shutdown).map fun s =>
        (.done, ((s.closeWakeup l).clearVar l).setLoop o
          { l with
            ring := none
            wakeup_fd := if 0 ≤ l.wakeup_fd then -1 else l.wakeup_fd
            execution_context_var := false })

/-- `UringioLoop_run_once`: the wait on the ring, and the iteration behind it. -/
def uringioLoopRunOnce (l : UringioLoop) (env : RunEnv) : Except Fault Reply :=
  if ¬ env.thread then .ok .raises
  else
    match l.ring with
    | some (.queue _) =>
      (runOnce env.heapq env.iter env.loop env.queues env.batch).map fun r =>
        if r.2.1.null then .raises else .done
    | _ => .error .nullDeref

/-- `write` of the eight bytes on a descriptor, which is open on `target` or not at all, and what
`UringioLoop_write_to_self` returns then. The kernel answers `ret`; `again` says whether its error
is `EAGAIN`. The second component is what the bytes were put into. -/
def written (target : Option Descriptor) (ret : ℤ) (again : Bool) : Reply × Option Descriptor :=
  match target with
  | none => (.raises, none)
  | some d => (if ret < 0 ∧ ¬ again then .raises else .done, if ret < 0 then none else some d)

/-- `UringioLoop_write_to_self`. -/
def uringioLoopWriteToSelf (l : UringioLoop) (ret : ℤ) (again : Bool) : Reply × Option Descriptor :=
  if l.wakeup_fd < 0 then (.raises, none) else written (s.fds l.wakeup_fd) ret again

end Process

end Uringio
