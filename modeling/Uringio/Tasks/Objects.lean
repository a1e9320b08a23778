import Uringio.Buffers.Records
import Uringio.Context.Managers
import Uringio.Lib.Transition
import Uringio.Python.Objects

/-!
# Context managers in tasks

The managers of `execution_context.c` as objects that a program is free with: it creates them with
arguments that may be wrong, enters one again, leaves them in another order than it entered them or
in another task, and gives them up while they are entered. A task of asyncio runs in a context of
its own, a copy of the one in which it was created, so that the variable has a value in each of
them; a token resets the variable only in the context in which it was made.

A creation runs `create_buffer_payload` with all that may fail in it (`BufferArgs.create`), and has
no defined behaviour where that has none. A call sees one manager and one context (`Tasks.view`),
and does there what `ContextState.protocol` says, or `ContextState.enterUnset` where
`ContextVar_set` fails; the memory that `ContextVar_get` and `ContextVar_reset` ask for is there.
The loop is open all the while. A manager is named by the number of its creation, and so is its
payload. The fields `base` and `entered`, and of a manager `wrapped`, are history: no function of
the program reads them.
-/

namespace Uringio

open Blocks (BuffersArg BuildEnv Garbage)

/-! ## The arguments of a creation -/

/-- The arguments of the functions that create managers, with the defaults of the source. -/
structure ContextArgs where
  /-- `mode`, or `buffer_mode`. -/
  mode : ℤ := 0
  /-- `stream`, or `stream_strategy`. -/
  stream : ℤ := 0
  /-- `mode` of `UringioLoop_transfer_mode`, or `transfer_mode`. -/
  transfer_mode : ℤ := 0
  /-- `buffers`: what kind of object it is. -/
  buffers_obj : BuffersArg := .absent
  /-- `payload_type`. -/
  payload_type : ℤ := 0
  /-- `amount`. -/
  amount : ℤ := 3
  /-- `bufsize`. -/
  bufsize : ℤ := 1024

/-- What a creation meets. -/
structure CreateEnv where
  /-- The calling thread is the one of the loop. -/
  thread : Bool
  /-- The loop's `_closed`. -/
  closed : Bool
  /-- The loop as a string. -/
  str : String
  /-- The arguments other than integers have the types of the format. -/
  parses : Bool
  /-- Which allocations of `create_buffer_payload` fail, and which items have buffers. -/
  build : BuildEnv
  /-- The address of each of its blocks. -/
  alloc : ℕ → ℕ
  /-- What `rand` returns. -/
  rand : ℤ
  /-- What the memory of the payload held. -/
  raw : ContextPayload
  /-- There is memory for the object. -/
  object : Bool
  /-- There is memory for the `ExecutionContext`. -/
  block : Bool

/-- What a creation comes to: `none` where it has no defined behaviour. -/
abbrev Creation := ExceptT PyExc Option

/-- `_validate_buffer_mode`. -/
def validateBufferMode : ℤ → Creation BufferMode
  | 0 => return .NORMAL_BUF
  | 1 => return .FIXED
  | 2 => return .PROVIDED
  | 3 => return .BUF_RING
  | _ => throw (.set .ValueError "Wrong value for buffer mode")

/-- `_validate_payload_type`. -/
def validatePayloadType : ℤ → Creation PayloadType
  | 0 => return .PAYLOAD_LINEAR
  | 1 => return .PAYLOAD_IOVEC
  | 2 => return .PAYLOAD_LINEAR_AND_IOVEC
  | _ => throw (.set .ValueError "Wrong value for payload type")

/-- The switch over the stream strategy, in the functions that take one. -/
def checkStreamStrategy : ℤ → Creation StreamStrategy
  | 0 => return .ONESHOT
  | 1 => return .MULTISHOT
  | _ => throw (.set .ValueError "Wrong value for stream strategy")

/-- The switch over the transfer mode, in the functions that take one. -/
def checkTransferMode : ℤ → Creation TransferMode
  | 0 => return .NORMAL_TRANSFER
  | 1 => return .ZERO_COPY
  | _ => throw (.set .ValueError "Wrong value for transfer mode")

/-- `ASSERT_LOOP_THREAD`, `ASSERT_RING_LOOP_IS_CLOSING` and `PyArg_ParseTupleAndKeywords`. -/
def CreateEnv.asserts (env : CreateEnv) (ints : List ℤ) : Creation Unit :=
  if ¬ env.thread then throw (.set .RuntimeError "io_uring operation called from wrong thread")
  else if env.closed then throw (.set .RuntimeError ("Ring Event Loop is closing - " ++ env.str))
  else if env.parses ∧ ∀ x ∈ ints, CInt.IsInt x then return
  else throw .raised

/-- `PyObject_New`, or `malloc`. -/
def allocated (ok : Bool) : Creation Unit := if ok then return else throw .noMemory

/-- What the memory of the payload held, as far as the destructor reads it. -/
def CreateEnv.garbage (env : CreateEnv) : Garbage :=
  ⟨env.raw.mode, env.raw.payload_origin, env.raw.amount⟩

/-- The arguments of `create_buffer_payload`. A number that was parsed is an `int`. -/
def ContextArgs.bufferArgs (args : ContextArgs) (env : CreateEnv) (mode : BufferMode)
    (payload_type : PayloadType) : Blocks.BufferArgs where
  mode := mode
  payload_type := payload_type
  buffers := args.buffers_obj
  amount := CInt.toInt args.amount
  bufsize := CInt.toInt args.bufsize
  rand := env.rand
  amount_isInt := CInt.isInt_toInt _
  bufsize_isInt := CInt.isInt_toInt _

/-- `create_buffer_payload`, for a manager: undefined where it meets a fault, and an exception where
it returns no payload. -/
def createPayload (a : Blocks.BufferArgs) (env : CreateEnv) : Creation ContextPayload :=
  match (a.create env.build env.garbage Blocks.Books.start).1 with
  | .error _ => ExceptT.mk none
  | .ok none => throw .raised
  | .ok (some payload) => return { payload.record env.alloc env.raw.toBufferPayload with
      buf_ring := env.raw.buf_ring }

/-- The validated mode and the payload of a manager that has one. -/
def newPayload (args : ContextArgs) (env : CreateEnv) : Creation (BufferMode × ContextPayload) := do
  let mode ← validateBufferMode args.mode
  let payload_type ← validatePayloadType args.payload_type
  let payload ← createPayload (args.bufferArgs env mode payload_type) env
  return (mode, payload)

/-- The value of a creation, if it has one. -/
def Creation.value {α : Type} (creation : Creation α) : Option α :=
  creation.run.bind Except.toOption

/-- The buffers of the creation are counted soundly: the length of a sequence is not zero as an
`int`, and each constructor of arrays that runs fails where it unwinds, or goes through and has a
first element if it writes a field of it. -/
def ContextArgs.Sound (args : ContextArgs) (env : CreateEnv) : Prop :=
  ∀ mode ∈ (validateBufferMode args.mode).value,
    ∀ payload_type ∈ (validatePayloadType args.payload_type).value,
      (args.bufferArgs env mode payload_type).Sound env.build Blocks.Books.start.rest

instance (args : ContextArgs) (env : CreateEnv) : Decidable (args.Sound env) :=
  inferInstanceAs (Decidable (∀ mode ∈ _, ∀ payload_type ∈ _, _))

/-! ## The objects -/

/-- The token of a manager that was entered in the context `context`. It holds a reference to the
capsule `old_value`, and one to the context. -/
structure TaskToken where
  /-- The context in which it was made. -/
  context : ℕ
  /-- The capsule that was the value there. -/
  old_value : ℕ
  deriving DecidableEq

/-- A manager object. -/
structure ManagerObject where
  /-- The kind of the manager, with its arguments. -/
  manager : Manager
  /-- Where `buffer_payload` points, in a manager that has one. -/
  payload : ContextPayload
  /-- The token, if the pointer is not null. -/
  token : Option TaskToken
  /-- The field `token` is as `PyObject_New` left it. -/
  unset : Bool
  /-- The object was deallocated. -/
  freed : Bool
  /-- A capsule was made for a block that the manager brings. -/
  wrapped : Bool

/-- The manager can be entered: its switch over the mode follows no null pointer, and its block has
no capsule yet. -/
def ManagerObject.Fresh (m : ManagerObject) : Prop :=
  match m.manager with
  | .bufferModeCtx _ => m.payload.Ready
  | .executionContextCtx _ _ => m.wrapped = false
  | _ => True

instance (m : ManagerObject) : Decidable m.Fresh :=
  match h : m.manager with
  | .bufferModeCtx _ => decidable_of_iff m.payload.Ready (by simp [ManagerObject.Fresh, h])
  | .executionContextCtx _ _ =>
    decidable_of_iff (m.wrapped = false) (by simp [ManagerObject.Fresh, h])
  | .streamStrategyCtx _ => decidable_of_iff True (by simp [ManagerObject.Fresh, h])
  | .transferModeCtx _ => decidable_of_iff True (by simp [ManagerObject.Fresh, h])

/-- The contexts, the managers, and what they share. -/
structure Tasks where
  /-- The capsule that each context maps the variable to, in the order of creation; `none` for a
  context that is gone. -/
  values : List (Option ℕ)
  /-- The managers in the order of their creation. -/
  objects : List ManagerObject
  /-- The tokens to which nothing refers and which nothing gives up. -/
  lost : List TaskToken
  /-- The capsules. -/
  capsules : Cells Capsule
  /-- The blocks of the capsules and of the managers. -/
  blocks : Cells ContextBlock
  /-- The ring of the loop. -/
  ring : Ring
  /-- What is registered with the kernel. -/
  registrations : Registrations
  /-- What each context read when it was created. -/
  base : List ContextBlock
  /-- The managers that were entered in each context and not left there, the last one first. -/
  entered : List (List ℕ)

namespace Tasks

variable (s : Tasks)

/-- The variable, in a context that maps it to the capsule `value`. -/
def var (value : ℕ) : ContextVar := ⟨value, s.capsules, s.blocks⟩

/-- What `ContextVar_get` reads where the variable has the capsule `value`. -/
def content (value : ℕ) : Option ContextBlock := (s.var value).get

/-- The capsule that a context maps the variable to. -/
def value (c : ℕ) : Option ℕ := s.values[c]?.join

/-- The manager with the number `o`, if it was not deallocated. -/
def object (o : ℕ) : Option ManagerObject := s.objects[o]?.filter fun m => !m.freed

/-- A new object of the manager. -/
def newObject (manager : Manager) (payload : ContextPayload) (unset : Bool) : Tasks :=
  { s with objects := s.objects ++ [⟨manager, payload, none, unset, false, false⟩] }

/-- `UringioLoop_buffer_mode`. -/
def uringioLoopBufferMode (args : ContextArgs) (env : CreateEnv) : Creation Tasks := do
  env.asserts [args.mode, args.payload_type, args.amount, args.bufsize]
  let (mode, payload) ← newPayload args env
  allocated env.object
  return s.newObject (.bufferModeCtx mode) payload false

/-- `UringioLoop_stream_strategy`. It does not set the field `token`. -/
def uringioLoopStreamStrategy (args : ContextArgs) (env : CreateEnv) : Creation Tasks := do
  env.asserts [args.stream]
  let stream ← checkStreamStrategy args.stream
  allocated env.object
  return s.newObject (.streamStrategyCtx stream) env.raw true

/-- `UringioLoop_transfer_mode`. It does not set the field `token`. -/
def uringioLoopTransferMode (args : ContextArgs) (env : CreateEnv) : Creation Tasks := do
  env.asserts [args.transfer_mode]
  let transfer_mode ← checkTransferMode args.transfer_mode
  allocated env.object
  return s.newObject (.transferModeCtx transfer_mode) env.raw true

/-- `UringioLoop_execution_context`. The payload is left behind by a failure after it. -/
def uringioLoopExecutionContext (args : ContextArgs) (env : CreateEnv) : Creation Tasks := do
  env.asserts [args.mode, args.stream, args.transfer_mode, args.payload_type, args.amount,
    args.bufsize]
  let (mode, payload) ← newPayload args env
  let stream ← checkStreamStrategy args.stream
  let transfer_mode ← checkTransferMode args.transfer_mode
  allocated env.object
  allocated env.block
  let context : ContextBlock := ⟨⟨stream, transfer_mode, some s.objects.length⟩, mode⟩
  return { s with blocks := s.blocks.new context }.newObject
    (.executionContextCtx s.blocks.next context) payload false

/-- What a call on the manager `m` sees, in the context `c` that maps the variable to `value`. A
token of another context raises, as a token does that was used. -/
def view (c value : ℕ) (m : ManagerObject) : ContextState where
  var := s.var value
  managers _ := m.manager
  tokens _ := m.token.map fun token => ⟨token.old_value, decide (token.context ≠ c)⟩
  payloads _ := m.payload
  ring := s.ring
  registrations := s.registrations

/-- What the call has left. -/
def after (t : ContextState) (c o : ℕ) (m : ManagerObject) : Tasks :=
  { s with
    values := s.values.set c (some t.var.value)
    objects := s.objects.set o { m with payload := t.payloads o }
    capsules := t.var.capsules
    blocks := t.var.blocks
    ring := t.ring
    registrations := t.registrations }

/-- The call of `__enter__` on what it sees; `set` says whether `ContextVar_set` returns a token. -/
def callEnter (c o value : ℕ) (m : ManagerObject) (env : ManagerEnv) (set : Bool) :
    Option (Bool × ContextState) :=
  if set then ContextState.protocol.enter (s.view c value m) o env
  else (s.view c value m).enterUnset o env

/-- `__enter__` of the manager `o` in the context `c`, and whether it succeeds. The token of an
enter before this one is overwritten. -/
def enter (c o : ℕ) (env : ManagerEnv) (set : Bool) : Option (Bool × Tasks) := do
  let value ← s.value c
  let m ← s.object o
  let (ok, t) ← s.callEnter c o value m env set
  let m := { m with wrapped := m.wrapped || m.manager.wraps env }
  if ok then some (true, { s.after t c o { m with
        token := (t.tokens o).map fun token => ⟨c, token.old_value⟩
        unset := false } with
      lost := s.lost ++ m.token.toList
      entered := s.entered.modify c (o :: ·) })
  else some (false, s.after t c o m)

/-- `__exit__` of the manager `o` in the context `c`, and whether it returns without an exception.
-/
def exit (c o : ℕ) (env : ManagerEnv) : Option (Bool × Tasks) := do
  let value ← s.value c
  let m ← s.object o
  if m.unset then none
  else
    let (result, _) ← (s.view c value m).resetToken o
    let t ← ContextState.protocol.exit (s.view c value m) o env
    some (decide (0 ≤ result), { s.after t c o { m with token := none } with
      entered := if 0 ≤ result then s.entered.modify c (·.erase o) else s.entered })

/-- `BufferModeCtx_dealloc`, `StreamStrategyCtx_dealloc`, `TransferModeCtx_dealloc` and
`ExecutionContextCtx_dealloc`: the object is freed, and nothing to which it points. -/
def dealloc (o : ℕ) : Option Tasks :=
  (s.object o).map fun m => { s with
    objects := s.objects.set o { m with token := none, freed := true }
    lost := s.lost ++ m.token.toList }

/-- `copy_context()` in the context `c`. -/
def copyContext (c : ℕ) : Option Tasks := do
  let value ← s.value c
  let v ← (s.var value).incref value
  some { s with
    values := s.values ++ [some value]
    capsules := v.capsules
    blocks := v.blocks
    base := s.base ++ [(s.content value).getD .initial]
    entered := s.entered ++ [[]] }

/-- The last reference to the context `c` goes. -/
def dropContext (c : ℕ) : Option Tasks := do
  let value ← s.value c
  let v ← (s.var value).decref value
  some { s with values := s.values.set c none, capsules := v.capsules, blocks := v.blocks }

/-- What the getters read in the context `c`; `none` where the block was freed. -/
def context (c : ℕ) : Option ContextBlock := (s.value c).bind s.content

/-- `get_stream_strategy` in the context `c`. -/
def getStreamStrategy (c : ℕ) : Option StreamStrategy := (s.context c).map (·.stream)

/-- `get_transfer_mode` in the context `c`. -/
def getTransferMode (c : ℕ) : Option TransferMode := (s.context c).map (·.transfer_mode)

/-- `_get_buffer` in the context `c`. -/
def getBuffer (c : ℕ) : Option (Option ℕ) := (s.context c).map (·.buffer_payload)

/-! ## The steps -/

/-- A step, with the choices of its environment. -/
inductive Label
  | bufferMode (args : ContextArgs) (env : CreateEnv)
  | streamStrategy (args : ContextArgs) (env : CreateEnv)
  | transferMode (args : ContextArgs) (env : CreateEnv)
  | executionContext (args : ContextArgs) (env : CreateEnv)
  | enter (c o : ℕ) (env : ManagerEnv) (set : Bool)
  | exit (c o : ℕ) (env : ManagerEnv)
  /-- The last reference to the manager goes. -/
  | dealloc (o : ℕ)
  | copyContext (c : ℕ)
  /-- The last reference to the context goes, as that of a task does with the task. -/
  | dropContext (c : ℕ)
  /-- An operation reads the context `c`. -/
  | getters (c : ℕ)

/-- A creation leaves its object, or nothing. -/
def created (creation : Creation Tasks) : Option Tasks :=
  creation.run.map fun
    | .ok t => t
    | .error _ => s

/-- Execute a step; `none` where the program has no defined behaviour. -/
def step : Label → Option Tasks
  | .bufferMode args env => s.created (s.uringioLoopBufferMode args env)
  | .streamStrategy args env => s.created (s.uringioLoopStreamStrategy args env)
  | .transferMode args env => s.created (s.uringioLoopTransferMode args env)
  | .executionContext args env => s.created (s.uringioLoopExecutionContext args env)
  | .enter c o env set => (s.enter c o env set).map Prod.snd
  | .exit c o env => (s.exit c o env).map Prod.snd
  | .dealloc o => s.dealloc o
  | .copyContext c => s.copyContext c
  | .dropContext c => s.dropContext c
  | .getters c => (s.context c).map fun _ => s

/-- The tokens that refer to contexts. -/
def tokens : List TaskToken := s.objects.filterMap ManagerObject.token ++ s.lost

/-- What Python keeps to: an object and a context are there while they are used. -/
def Enabled : Label → Prop
  | .bufferMode _ _ => True
  | .streamStrategy _ _ => True
  | .transferMode _ _ => True
  | .executionContext _ _ => True
  | .enter c o _ _ => (s.value c).isSome ∧ (s.object o).isSome
  | .exit c o _ => (s.value c).isSome ∧ (s.object o).isSome
  | .dealloc o => (s.object o).isSome
  | .copyContext c => (s.value c).isSome
  | .dropContext c => (s.value c).isSome ∧ ∀ token ∈ s.tokens, token.context ≠ c
  | .getters c => (s.value c).isSome

instance : ∀ lab, Decidable (s.Enabled lab)
  | .bufferMode _ _ => inferInstanceAs (Decidable True)
  | .streamStrategy _ _ => inferInstanceAs (Decidable True)
  | .transferMode _ _ => inferInstanceAs (Decidable True)
  | .executionContext _ _ => inferInstanceAs (Decidable True)
  | .enter _ _ _ _ => inferInstanceAs (Decidable (_ ∧ _))
  | .exit _ _ _ => inferInstanceAs (Decidable (_ ∧ _))
  | .dealloc _ => inferInstanceAs (Decidable (_ = _))
  | .copyContext _ => inferInstanceAs (Decidable (_ = _))
  | .dropContext _ => inferInstanceAs (Decidable (_ ∧ _))
  | .getters _ => inferInstanceAs (Decidable (_ = _))

/-- What the caller has to keep to. The buffers of a creation are counted soundly, as `safe_iff` has
it; a manager that brings a block, or fixed buffers, is entered once; `ContextVar_set` takes a clone
of the current context; and a manager that was never entered is not left. -/
def Proper : Label → Prop
  | .bufferMode args env => args.Sound env
  | .executionContext args env => args.Sound env
  | .enter _ o env set => ∀ m ∈ s.object o, m.Fresh ∧ (m.manager.clones env = true → set = true)
  | .exit _ o _ => ∀ m ∈ s.object o, m.unset = false
  | .streamStrategy _ _ => True
  | .transferMode _ _ => True
  | .dealloc _ => True
  | .copyContext _ => True
  | .dropContext _ => True
  | .getters _ => True

instance : ∀ lab, Decidable (s.Proper lab)
  | .bufferMode args env => inferInstanceAs (Decidable (args.Sound env))
  | .executionContext args env => inferInstanceAs (Decidable (args.Sound env))
  | .enter _ _ _ _ => inferInstanceAs (Decidable (∀ m ∈ _, _))
  | .exit _ _ _ => inferInstanceAs (Decidable (∀ m ∈ _, _))
  | .streamStrategy _ _ => inferInstanceAs (Decidable True)
  | .transferMode _ _ => inferInstanceAs (Decidable True)
  | .dealloc _ => inferInstanceAs (Decidable True)
  | .copyContext _ => inferInstanceAs (Decidable True)
  | .dropContext _ => inferInstanceAs (Decidable True)
  | .getters _ => inferInstanceAs (Decidable True)

/-- One context with the defaults of `ContextVar_init`, and no managers. -/
def start (ring : Ring) (registrations : Registrations) : Tasks where
  values := [some 0]
  objects := []
  lost := []
  capsules := Cells.empty.new ⟨0, 1⟩
  blocks := Cells.empty.new .initial
  ring := ring
  registrations := registrations
  base := [.initial]
  entered := [[]]

end Tasks

end Uringio
