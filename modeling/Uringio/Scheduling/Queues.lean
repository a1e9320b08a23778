import Uringio.Scheduling.Timeout

/-!
# The queues of handles

`promote_scheduled`, `drain_ready` and what `_run_once` makes of them, on the deque `_ready` and the
heap `_scheduled`, while callbacks append handles, schedule timers and cancel handles. A handle is
named by its number; what happens to handles is recorded in the order in which it happens
(`Event`), so that the order and the multiplicity of runs can be stated.

While an exception is pending, a call through the interpreter's calling protocol does its work and
then fails: the import at the start of `promote_scheduled` fails, and the `popleft` of `drain_ready`
takes a handle off the deque and returns the null pointer. So it is in the interpreter from version
3.13 on, which keeps a pending exception over a lookup of an attribute. In 3.12 the lookup of
`_ready` at the start of `drain_ready`, and that of `_cancelled` in its loop, clear it, so that
behind a failed promotion the ready handles are run.
-/

namespace Uringio

/-- The functions of `heapq`. -/
abbrev HeapQ := HeapQueue TimerHandle._when

/-- An exception that is pending. -/
inductive PendingExc
  /-- One that a callback or a completion raised, by its number. -/
  | raised (e : ℕ)
  /-- Of a call that was made with an exception pending. -/
  | SystemError
  /-- Of `popleft` on an empty deque. -/
  | IndexError
  deriving DecidableEq

/-- What happens to a handle. -/
inductive Event
  /-- It is made and appended to `_ready`. -/
  | appended (h : HandleRef)
  /-- It is made and pushed to `_scheduled`. -/
  | scheduled (h : HandleRef)
  | cancelled (h : HandleRef)
  /-- Its `_run` is called. -/
  | ran (h : HandleRef)
  /-- `drain_ready` finds it cancelled. -/
  | dropped (h : HandleRef)
  deriving DecidableEq

/-- The handle of a run or a drop. -/
def Event.handled : Event → Option HandleRef
  | .ran h | .dropped h => some h
  | _ => none

/-- The handle that is appended to `_ready`. -/
def Event.appends : Event → Option HandleRef
  | .appended h => some h
  | _ => none

/-- The handle that is pushed to `_scheduled`. -/
def Event.schedules : Event → Option HandleRef
  | .scheduled h => some h
  | _ => none

/-- The handle that is made. -/
def Event.makes : Event → Option HandleRef
  | .appended h | .scheduled h => some h
  | _ => none

/-- The queues of the loop, with what happened so far. -/
structure Scheduler where
  /-- The deque of handles. -/
  _ready : List HandleRef
  /-- The heap of timers. -/
  _scheduled : TimerHeap
  /-- The handles that were cancelled. -/
  _cancelled : HandleRef → Bool
  /-- The number of handles that were made. -/
  made : ℕ
  /-- What has happened. -/
  events : List Event
  /-- The exception that is pending. -/
  pending : Option PendingExc

/-- What a callback or a completion does to the queues. -/
inductive Action
  /-- `call_soon`. -/
  | callSoon
  /-- `call_at`. -/
  | callAt (_when : ℚ)
  /-- `cancel` of a handle. -/
  | cancel (h : HandleRef)
  deriving DecidableEq

/-- What a call of `_run` does: its actions, and the exception that it raises. -/
structure Ran where
  /-- What the callback does to the queues. -/
  actions : List Action
  /-- The exception that it raises, if it raises one. -/
  raises : Option ℕ
  deriving DecidableEq

/-- What an iteration meets. -/
structure IterEnv where
  /-- What the completions that the reader reads do. -/
  reader : List Action
  /-- The exception that the reader leaves pending. -/
  readerRaises : Option ℕ
  /-- `self.time()`, and `_clock_resolution`. -/
  time : ℚ
  /-- How far ahead a timer is due. -/
  clock_resolution : ℚ
  /-- What `_run` of a handle does. -/
  run : HandleRef → Scheduler → Ran

namespace Scheduler

variable (heapq : HeapQ)

/-- Do an action. -/
def act (s : Scheduler) : Action → Scheduler
  | .callSoon =>
    { s with
      _ready := s._ready ++ [s.made]
      made := s.made + 1
      events := s.events ++ [.appended s.made] }
  | .callAt w =>
    { s with
      _scheduled := heapq.push ⟨s.made, w⟩ s._scheduled
      made := s.made + 1
      events := s.events ++ [.scheduled s.made] }
  | .cancel h =>
    { s with
      _cancelled := fun h' => if h' = h then true else s._cancelled h'
      events := s.events ++ [.cancelled h] }

/-- Do actions in order. -/
def acts (s : Scheduler) (actions : List Action) : Scheduler := actions.foldl (act heapq) s

/-- The loop of `promote_scheduled`, at most `n` times. -/
def promoteLoop (end_time : ℚ) : ℕ → Scheduler → Scheduler
  | 0, s => s
  | n + 1, s =>
    match s._scheduled.entries.head? with
    | none => s
    | some handle =>
      if handle._when ≥ end_time then s
      else
        match heapq.pop s._scheduled with
        | none => s
        | some (popped, scheduled) =>
          promoteLoop end_time n
            { s with _ready := s._ready ++ [popped.ref], _scheduled := scheduled }

/-- `promote_scheduled`, with the loop's time and `_clock_resolution`. -/
def promoteScheduled (loop_time clock_res : ℚ) (s : Scheduler) : Scheduler :=
  if s.pending.isSome then { s with pending := some .SystemError }
  else promoteLoop heapq (loop_time + clock_res) s._scheduled.entries.length s

/-- The body of the loop of `drain_ready`, for the handle that was popped. -/
def runHandle (run : HandleRef → Scheduler → Ran) (h : HandleRef) (s : Scheduler) : Scheduler :=
  if s._cancelled h then { s with events := s.events ++ [.dropped h] }
  else
    let r := run h s
    { acts heapq { s with events := s.events ++ [.ran h] } r.actions with
      pending := r.raises.map .raised }

/-- The loop of `drain_ready`, `ntodo` times. -/
def drainReady (run : HandleRef → Scheduler → Ran) : ℕ → Scheduler → Scheduler
  | 0, s => s
  | ntodo + 1, s =>
    match s._ready with
    | [] => { s with pending := some .IndexError }
    | h :: ready =>
      if s.pending.isSome then { s with _ready := ready, pending := some .SystemError }
      else drainReady run ntodo (runHandle heapq run h { s with _ready := ready })

/-- The queues behind the reader. -/
def read (env : IterEnv) (s : Scheduler) : Scheduler :=
  { acts heapq s env.reader with pending := env.readerRaises.map .raised }

/-- The queues behind `promote_scheduled`. -/
def promoted (env : IterEnv) (s : Scheduler) : Scheduler :=
  promoteScheduled heapq env.time env.clock_resolution (read heapq env s)

/-- The queues behind `drain_ready`. -/
def drained (env : IterEnv) (s : Scheduler) : Scheduler :=
  drainReady heapq env.run (promoted heapq env s)._ready.length (promoted heapq env s)

/-- What `_run_once` returns: `None` or the null pointer, and the queues, with the exception that is
pending. -/
structure Returned where
  /-- The null pointer is returned. -/
  null : Bool
  /-- The queues on return. -/
  queues : Scheduler

/-- `UringioLoop_run_once`, from the reader on. It always returns `None`. -/
def runOnce (env : IterEnv) (s : Scheduler) : Returned := ⟨false, drained heapq env s⟩

/-- An iteration, whose caller takes the exception that it leaves. -/
def step (s : Scheduler) (env : IterEnv) : Option Scheduler :=
  some { (runOnce heapq env s).queues with pending := none }

/-- The timers that are scheduled, by their names. -/
def timers (s : Scheduler) : List HandleRef := s._scheduled.entries.map TimerHandle.ref

/-- The handles in the queues. -/
def queued (s : Scheduler) : List HandleRef := s._ready ++ s.timers

/-- The handles that were run or dropped, in order. -/
def handled (s : Scheduler) : List HandleRef := s.events.filterMap Event.handled

end Scheduler

end Uringio
