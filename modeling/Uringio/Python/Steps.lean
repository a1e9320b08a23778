import Mathlib.Tactic.Simps.Basic
import Uringio.Lib.Unwind
import Uringio.Python.Objects

/-!
# The steps before a request

What the entry points do one after the other before they register a request: the assertions of
`python_macroses.h`, the parsing of the arguments, the helpers of the sockets and the timers, and
the constructors of payloads. Each is a stage; its resources are the entries of the ledger that the
entry point keeps of its call. A stage that takes a resource or gives resources up when it fails is
told which.

The interpreter's calling protocol checks its results: a call through it that is made while an
exception is pending returns the null pointer, with an exception pending. `create_future` and
`ContextVar_get` are such calls.
-/

namespace Uringio

open Unwind

/-- What a call acquires for its request. -/
inductive Res
  /-- The call's own reference to the future. -/
  | future
  /-- The reference to a `UringioFile` or `UringioSocket` that the call created. -/
  | object
  /-- The buffer payload with its views; before the block is there, its view alone. -/
  | payload
  /-- A `struct sockaddr_storage`. -/
  | sockaddr
  /-- The `socklen_t` of `accept`. -/
  | addrlen
  | msghdr
  deriving DecidableEq

/-- A stage of an entry point. -/
abbrev Step := Stage PyExc Crash Res

/-- Where a call allocates. -/
inductive Site
  /-- `PyObject_GC_New`. -/
  | object
  /-- The `BufferPayload`. -/
  | payload
  /-- The arrays that the payload points to. -/
  | arrays
  | sockaddr
  | addrlen
  | msghdr
  deriving DecidableEq

/-- What `asyncio.get_running_loop` returns. -/
inductive RunningLoop
  /-- `asyncio` cannot be imported. -/
  | noAsyncio
  /-- There is none. -/
  | none
  /-- A loop of another type. -/
  | other
  /-- A loop whose type cannot be found out. -/
  | unknown
  | uring
  deriving DecidableEq

/-- What an entry point meets outside the program. -/
structure PyEnv where
  /-- What the call proper meets. -/
  call : CallEnv
  /-- What `asyncio.get_running_loop` returns. -/
  runningLoop : RunningLoop
  /-- The calling thread is the one of the loop. -/
  thread : Bool
  /-- The loop's `_closed`; `none` when it cannot be read. -/
  closed : Option Bool
  /-- The loop as a string. -/
  str : String
  /-- The arguments other than integers have the types of the format. -/
  parses : Bool
  /-- What the execution context variable holds; `none` when it cannot be read. -/
  context : Option ExecutionContext
  /-- The loop's `create_future` returns a future. -/
  future : Bool
  /-- The call of `set_result` on a new future succeeds. -/
  setResult : Bool
  /-- The allocations that succeed. -/
  allocates : Site → Bool
  /-- `inet_pton` accepts the host of the call for the domain. -/
  inet_pton : ℤ → Bool
  /-- An `ExceptionGroup` can be made of the exceptions of the body and of the close. -/
  groups : Bool

/-! ## General steps -/

/-- Fail with `e` unless `ok`. -/
@[simps takes unwinds]
def check (ok : Bool) (e : PyExc) (unwinds : List Res) : Step where
  run pending := if ok then .passes pending else .fails (some e)
  takes := []
  unwinds := unwinds

/-- Allocate `r`; on failure raise `MemoryError`. -/
@[simps takes unwinds]
def allocate (ok : Bool) (r : Res) (unwinds : List Res) : Step where
  run pending := if ok then .passes pending else .fails (some .noMemory)
  takes := [r]
  unwinds := unwinds

/-- Allocate `r` without looking at the result. -/
@[simps takes unwinds]
def allocateUnchecked (r : Res) : Step where
  run pending := .passes pending
  takes := [r]
  unwinds := []

/-- Use variables that the program did not set unless they were `given`. -/
@[simps takes unwinds]
def useVariables (given : Bool) : Step where
  run pending := if given then .passes pending else .crashes .uninitialized
  takes := []
  unwinds := []

/-- An unchecked allocation cannot fail. -/
@[simp] theorem allocateUnchecked_infallible (r : Res) : (allocateUnchecked r).Infallible := by
  intro pending pending'
  simp [allocateUnchecked]

/-! ## The assertions -/

/-- `ASSERT_LOOP_IS_URINGIO`. The program releases the module even if it could not be imported. -/
@[simps takes unwinds]
def assertLoopIsUringio (env : PyEnv) : Step where
  run pending :=
    match env.runningLoop with
    | .noAsyncio => .crashes (.fault .nullDeref)
    | .none => .fails (some .raised)
    | .other =>
      .fails (some (.set .RuntimeError "Uring-based methods requires uring-based loop"))
    | .unknown => .passes (some .raised)
    | .uring => .passes pending
  takes := []
  unwinds := []

/-- `ASSERT_LOOP_THREAD`. -/
@[simps! takes unwinds]
def assertLoopThread (env : PyEnv) : Step :=
  check env.thread (.set .RuntimeError "io_uring operation called from wrong thread") []

/-- `ASSERT_RING_LOOP_IS_CLOSING`, which goes on when the attribute cannot be read. -/
@[simps takes unwinds]
def assertRingLoopIsClosing (env : PyEnv) : Step where
  run pending :=
    match env.closed with
    | none => .passes (some .raised)
    | some true => .fails (some (.set .RuntimeError ("Ring Event Loop is closing - " ++ env.str)))
    | some false => .passes pending
  takes := []
  unwinds := []

/-- The object that the call is made on is not closed. -/
@[simps! takes unwinds]
def assertOpen (closed : Bool) (text : String) : Step :=
  check (!closed) (.set .BrokenPipeError text) []

/-! ## Arguments -/

/-- `PyArg_ParseTupleAndKeywords`: the integers of the format fit. -/
@[simps! takes unwinds]
def parseTuple (env : PyEnv) (ints : List ℤ) (unwinds : List Res) : Step :=
  check (env.parses && ints.all fun x => decide (CInt.IsInt x)) .raised unwinds

/-- `parse_timeout_params`. An integer that does not fit is not noticed. -/
@[simps takes unwinds]
def parseTimeoutParams (obj : TimeoutArg) (unwinds : List Res) : Step where
  run pending :=
    match obj.error with
    | some e => .fails (some e)
    | none => .passes (if obj.Fits then pending else some .raised)
  takes := []
  unwinds := unwinds

/-- `parse_timer_params`, and what `UringioLoop_timer` makes of its result. -/
@[simps takes unwinds]
def parseTimerParams (obj : TimerArg) : Step where
  run pending :=
    match obj.error with
    | some e => .fails (some e)
    | none => .passes (if obj.Fits then pending else some .raised)
  takes := []
  unwinds := []

/-- The object given for a path. -/
inductive PathArg
  /-- Not a string, and not an object with a path. -/
  | notPath
  /-- A path that is no valid string. -/
  | notUtf8
  | path (text : String)
  deriving DecidableEq

/-- The path as a string. -/
def PathArg.text : PathArg → String
  | .path text => text
  | _ => ""

/-- `PyOS_FSPath` and `PyUnicode_AsUTF8`. -/
@[simps takes unwinds]
def decodePath (obj : PathArg) (unwinds : List Res) : Step where
  run pending :=
    match obj with
    | .notPath => .fails (some .raised)
    | .notUtf8 => .fails (some (.set .TypeError "Failed to convert path to UTF-8"))
    | .path _ => .passes pending
  takes := []
  unwinds := unwinds

/-- `_serialize_address`. A domain that is neither of the two fails without an exception. -/
@[simps takes unwinds]
def serializeAddress (env : PyEnv) (domain : ℤ) : Step where
  run pending :=
    if ¬ env.allocates .sockaddr then .fails (some .noMemory)
    else if domain = AF_INET then
      if env.inet_pton AF_INET then .passes pending
      else .fails (some (.set .ConnectionRefusedError "Invalid IPv4 address"))
    else if domain = AF_INET6 then
      if env.inet_pton AF_INET6 then .passes pending
      else .fails (some (.set .ConnectionRefusedError "Invalid IPv6 address"))
    else .fails pending
  takes := [.sockaddr]
  unwinds := []

/-! ## The interpreter -/

/-- `create_future`. -/
@[simps takes unwinds]
def createFuture (env : PyEnv) (unwinds : List Res) : Step where
  run pending :=
    if pending.isSome ∨ ¬ env.future then .fails (some .raised) else .passes none
  takes := [.future]
  unwinds := unwinds

/-- Read the execution context, and follow the pointer: `_get_buffer`, `get_stream_strategy` and
`get_transfer_mode`. -/
@[simps takes unwinds]
def readContext (env : PyEnv) : Step where
  run pending :=
    if pending.isSome ∨ env.context.isNone then .crashes (.fault .nullDeref) else .passes pending
  takes := []
  unwinds := []

/-- Reading the context cannot fail. -/
@[simp] theorem readContext_infallible (env : PyEnv) : (readContext env).Infallible := by
  intro pending pending'
  unfold readContext
  simp only
  split <;> simp

/-- The execution context that the call reads. -/
def PyEnv.ctx (env : PyEnv) : ExecutionContext :=
  env.context.getD ⟨.ONESHOT, .NORMAL_TRANSFER, none⟩

/-! ## Payloads -/

/-- `create_buffer_payload_from_data`. -/
@[simps takes unwinds]
def createPayloadFromData (env : PyEnv) (data : Item) (unwinds : List Res) : Step where
  run pending :=
    if ¬ env.allocates .payload ∨ ¬ env.allocates .arrays then .fails (some .noMemory)
    else if (data.getBuffer PyBUF_CONTIG_RO).isNone then .fails (some .raised)
    else .passes pending
  takes := [.payload]
  unwinds := unwinds

/-- `PyObject_GetBuffer` on the object given for the `iovec`s. -/
@[simps takes unwinds]
def getRawBuffer (raw : RawArg) (flags : BufferFlags) : Step where
  run pending :=
    if (raw.item.getBuffer flags).isNone then .fails (some .raised) else .passes pending
  takes := [.payload]
  unwinds := []

/-- The size of a `struct iovec`. -/
def sizeofIovec : ℕ := 16

/-- The two checks of the buffer that holds the `iovec`s. -/
@[simps! takes unwinds]
def checkRawSize (raw : RawArg) : Step :=
  check (decide (raw.len % sizeofIovec = 0))
    (.set .ValueError "iovecs buffer has invalid size") [.payload]

/-- The check that the raw buffer is contiguous. -/
@[simps! takes unwinds]
def checkRawContiguous (raw : RawArg) : Step :=
  check (raw.item.all (·.contiguous)) (.set .ValueError "iovecs must be contiguous") [.payload]

/-- `create_buffer_payload_from_pybuffer`. The payload takes the view over. -/
@[simps! takes unwinds]
def createPayloadFromPybuffer (env : PyEnv) (unwinds : List Res) : Step :=
  check (env.allocates .payload && env.allocates .arrays) .noMemory unwinds

/-- The payload of the context, if it is used: what `serves` says of it. -/
def servedByContext (L : Loop) (env : PyEnv) (serves : BufferPayload → Bool) : Bool :=
  env.ctx.buffer_payload.any fun n => serves (L.payloads (.context n))

/-- The error in building the buffer of `get_or_create_linear_buffer`: the user's first buffer, or
one of `bufsize` bytes. A size that is negative is larger than any block. -/
def newLinearError (env : PyEnv) (buffers_obj : Option BufferSeq) (bufsize : ℤ) : Option PyExc :=
  if ¬ env.allocates .arrays then some .noMemory
  else
    match buffers_obj with
    | none => if 0 ≤ bufsize then none else some .noMemory
    | some buffers => if (buffers.linear 1).isSome then none else some .raised

/-- `get_or_create_linear_buffer`. When the block of the payload cannot be allocated no exception is
set, and when its buffer cannot be built the payload is returned nevertheless. -/
@[simps unwinds]
def getOrCreateLinear (L : Loop) (env : PyEnv) (buffers_obj : Option BufferSeq) (bufsize : ℤ)
    (unwinds : List Res) : Step :=
  let served := buffers_obj.isNone && servedByContext L env BufferPayload.servesLinear
  { run := fun pending =>
      if pending.isSome ∨ env.context.isNone then .crashes (.fault .nullDeref)
      else if served then .passes pending
      else if ¬ env.allocates .payload then .fails pending
      else .passes ((newLinearError env buffers_obj bufsize).or pending)
    takes := if served then [] else [.payload]
    unwinds := unwinds }

/-- A failure after which a payload is freed that may not have been `built`: then its pointers are
what its block held before. -/
@[simps takes unwinds]
def freesPayload (env : PyEnv) (built : Bool) (step : Step) : Step where
  run pending :=
    match step.run pending with
    | .fails e =>
      if built ∨ (env.call.raw.linear.isNone ∧ env.call.raw.vector.isNone) then .fails e
      else .crashes .uninitialized
    | ends => ends
  takes := step.takes
  unwinds := step.unwinds

/-- The error in building the buffers of `get_or_create_vectored_buffer`. -/
def newVectoredError (env : PyEnv) (buffers_obj : Option BufferSeq) : Option PyExc :=
  if ¬ env.allocates .arrays then some .noMemory
  else
    match buffers_obj with
    | none => none
    | some buffers => if buffers.vectored.isSome then none else some .raised

/-- `get_or_create_vectored_buffer`. When the block of the payload cannot be allocated no exception
is set. -/
@[simps unwinds]
def getOrCreateVectored (L : Loop) (env : PyEnv) (buffers_obj : Option BufferSeq)
    (unwinds : List Res) : Step :=
  let served := buffers_obj.isNone && servedByContext L env BufferPayload.servesVectored
  { run := fun pending =>
      if pending.isSome ∨ env.context.isNone then .crashes (.fault .nullDeref)
      else if served then .passes pending
      else if ¬ env.allocates .payload then .fails pending
      else
        match newVectoredError env buffers_obj with
        | some e => .fails (some e)
        | none => .passes pending
    takes := if served then [] else [.payload]
    unwinds := unwinds }

/-- The payload of a context that provides buffers. -/
def BufferPayload.provides (payload : BufferPayload) : Bool :=
  payload.mode = .PROVIDED ∨ payload.mode = .BUF_RING

/-- The payload of `UringioFile_readv`: a context that provides buffers serves it in any case. -/
def readvPayload (L : Loop) (env : PyEnv) (buffers_obj : Option BufferSeq) : Step :=
  if servedByContext L env BufferPayload.provides then readContext env
  else getOrCreateVectored L env buffers_obj []

/-- The payload of `readv` has nothing to release. -/
@[simp] theorem readvPayload_unwinds (L : Loop) (env : PyEnv) (buffers_obj : Option BufferSeq) :
    (readvPayload L env buffers_obj).unwinds = [] := by
  unfold readvPayload
  split <;> rfl

variable {L : Loop} {env : PyEnv} {r : Res}

/-- All that a constructor of a payload takes is the payload. -/
theorem getOrCreateLinear_count (hr : r ≠ .payload) (buffers_obj : Option BufferSeq) (bufsize : ℤ)
    (unwinds : List Res) :
    (getOrCreateLinear L env buffers_obj bufsize unwinds).takes.count r = 0 := by
  refine List.count_eq_zero.mpr ?_
  unfold getOrCreateLinear
  simp only
  split <;> simp [hr]

/-- A vectored buffer takes nothing but payloads. -/
theorem getOrCreateVectored_count (hr : r ≠ .payload) (buffers_obj : Option BufferSeq)
    (unwinds : List Res) : (getOrCreateVectored L env buffers_obj unwinds).takes.count r = 0 := by
  refine List.count_eq_zero.mpr ?_
  unfold getOrCreateVectored
  simp only
  split <;> simp [hr]

/-- The payload of `readv` takes nothing but payloads. -/
theorem readvPayload_count (hr : r ≠ .payload) (buffers_obj : Option BufferSeq) :
    (readvPayload L env buffers_obj).takes.count r = 0 := by
  unfold readvPayload
  split
  · rfl
  · exact getOrCreateVectored_count hr buffers_obj []

end Uringio
