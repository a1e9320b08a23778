import Uringio.Context.Contextvars
import Uringio.Context.Registrations
import Uringio.Lib.Bracket

/-!
# Context managers

`execution_context.c`: the four kinds of managers, how they are entered and how they are left. A
manager of three of the kinds enters a clone of the current context in which it changes the fields
that it is about (`enterClone`); `ExecutionContextCtx` enters the block that it was created with.
From there on all enters are one (`enterCapsule`): the variable gets a new capsule, the buffers go
to the kernel, and a failure of the latter resets the variable. There `ContextVar_set` succeeds;
`enterUnset` is what they do where it fails.

A manager is named by a number, and so is its payload. Managers are created before the program
starts: creating one touches neither the variable nor the kernel.
-/

namespace Uringio

open Memory (Region)

/-- A manager, with what it was created with. `ExecutionContextCtx` has the name and the fields of
its block. -/
inductive Manager
  | bufferModeCtx (payload : BufferMode)
  | streamStrategyCtx (payload : StreamStrategy)
  | transferModeCtx (payload : TransferMode)
  | executionContextCtx (payload : ℕ) (context : ContextBlock)

/-- The managers with their fields `token` and `buffer_payload`, and what they work on. -/
structure ContextState where
  /-- The variable, with its capsules and blocks. -/
  var : ContextVar
  /-- The managers, by number. -/
  managers : ℕ → Manager
  /-- The tokens that they hold. -/
  tokens : ℕ → Option Token
  /-- The payloads that they point to. -/
  payloads : ℕ → ContextPayload
  /-- The ring of the loop. -/
  ring : Ring
  /-- What is registered with the kernel. -/
  registrations : Registrations

/-! ## Creating a manager -/

/-- The arguments of `create_buffer_payload` after the mode, and what it meets. -/
structure PayloadArgs where
  /-- The argument `payload_type`, validated. -/
  payload_type : PayloadType
  /-- The buffers of the user, if there are any. -/
  buffers_obj : Option (List Region)
  /-- The argument `amount`. -/
  amount : ℤ
  /-- The argument `bufsize`. -/
  bufsize : ℤ
  /-- The addresses of the allocated blocks. -/
  alloc : ℕ → ℕ
  /-- What `rand` returns. -/
  rand : ℤ
  /-- What the memory of the payload held. -/
  raw : ContextPayload

/-- `create_buffer_payload`, for a manager. It leaves the field `buf_ring` as it is. -/
def createContextPayload (mode : BufferMode) (args : PayloadArgs) : Option ContextPayload :=
  (createBufferPayload mode args.payload_type args.buffers_obj args.amount args.bufsize args.alloc
    args.rand args.raw.toBufferPayload).map fun p => { p with buf_ring := args.raw.buf_ring }

/-- What the function that created the manager `o` has left: `UringioLoop_buffer_mode` a payload,
`UringioLoop_execution_context` also a block, to which no capsule points. -/
def ContextState.Created (s : ContextState) (o : ℕ) : Prop :=
  match s.managers o with
  | .bufferModeCtx payload => ∃ args, createContextPayload payload args = some (s.payloads o)
  | .executionContextCtx payload context =>
    (∃ args, createContextPayload context.buffer_mode args = some (s.payloads o)) ∧
      context.buffer_payload = some o ∧ s.var.blocks.get payload = some context ∧
      ∀ n a, s.var.capsules.get n = some a → a.pointer ≠ payload
  | _ => True

/-- A capsule is made for a clone of the current context. -/
def Manager.clones (m : Manager) (env : ManagerEnv) : Bool :=
  match m with
  | .executionContextCtx _ _ => false
  | _ => env.cloned && env.capsule

/-- A capsule is made for a block that the manager brings. -/
def Manager.wraps (m : Manager) (env : ManagerEnv) : Bool :=
  match m with
  | .executionContextCtx _ _ => env.capsule
  | _ => false

namespace ContextState

/-! ## Entering -/

/-- The switch over the mode, for the payload of the manager `o`. -/
def initBuffers (s : ContextState) (o : ℕ) (env : ManagerEnv) : Option (Bool × ContextState) :=
  (Uringio.initBuffers ⟨s.payloads o, s.ring, s.registrations⟩ env).map fun r =>
    (r.1, { s with
      payloads := Function.update s.payloads o r.2.payload
      ring := r.2.ring
      registrations := r.2.registrations })

/-- The end of all enters, from `PyCapsule_New` on, with `init` for the switch over the mode. -/
def enterCapsule (s : ContextState) (o pointer : ℕ)
    (init : ContextState → Option (Bool × ContextState)) : Option (Bool × ContextState) := do
  let (token, var) ← s.var.push pointer
  let (ok, s) ← init { s with var := var }
  if ok then some (true, { s with tokens := Function.update s.tokens o (some token) })
  else do
    let (_, var) ← s.var.pop (some token)
    some (false, { s with var := var })

/-- The enters that clone the current context and change it. When there is no capsule for the
clone, it is freed only if `freed` says so. -/
def enterClone (s : ContextState) (o : ℕ) (env : ManagerEnv)
    (change : ContextBlock → ContextBlock) (freed : Bool)
    (init : ContextState → Option (Bool × ContextState)) : Option (Bool × ContextState) := do
  let current_context ← s.var.get
  if ¬ env.cloned then some (false, s)
  else
    let cloned := { s with var := s.var.malloc (change current_context) }
    if ¬ env.capsule then some (false, if freed then s else cloned)
    else cloned.enterCapsule o s.var.blocks.next init

/-- `BufferModeCtx_enter`. -/
def bufferModeCtxEnter (s : ContextState) (o : ℕ) (payload : BufferMode) (env : ManagerEnv) :
    Option (Bool × ContextState) :=
  s.enterClone o env (fun c => { c with buffer_mode := payload, buffer_payload := some o }) false
    fun s => s.initBuffers o env

/-- `StreamStrategyCtx_enter`. -/
def streamStrategyCtxEnter (s : ContextState) (o : ℕ) (payload : StreamStrategy)
    (env : ManagerEnv) : Option (Bool × ContextState) :=
  s.enterClone o env (fun c => { c with stream := payload }) true fun s => some (true, s)

/-- `TransferModeCtx_enter`. -/
def transferModeCtxEnter (s : ContextState) (o : ℕ) (payload : TransferMode) (env : ManagerEnv) :
    Option (Bool × ContextState) :=
  s.enterClone o env (fun c => { c with transfer_mode := payload }) true fun s => some (true, s)

/-- `ExecutionContextCtx_enter`. -/
def executionContextCtxEnter (s : ContextState) (o payload : ℕ) (env : ManagerEnv) :
    Option (Bool × ContextState) :=
  if ¬ env.capsule then some (false, s)
  else s.enterCapsule o payload fun s => s.initBuffers o env

/-! ## Entering where the variable cannot be set -/

/-- The enters that clone the current context, where `ContextVar_set` fails: the destructor of the
capsule frees the clone, and they free it once more. -/
def cloneUnset (s : ContextState) (env : ManagerEnv) (change : ContextBlock → ContextBlock)
    (freed : Bool) : Option (Bool × ContextState) := do
  let current_context ← s.var.get
  if ¬ env.cloned then some (false, s)
  else
    let cloned := { s with var := s.var.malloc (change current_context) }
    if ¬ env.capsule then some (false, if freed then s else cloned)
    else do
      let var ← cloned.var.discard s.var.blocks.next
      let var ← var.free s.var.blocks.next
      some (false, { cloned with var := var })

/-- `ExecutionContextCtx_enter` where `ContextVar_set` fails: the destructor of the capsule frees
the block that the manager brings. -/
def executionContextCtxUnset (s : ContextState) (payload : ℕ) (env : ManagerEnv) :
    Option (Bool × ContextState) :=
  if ¬ env.capsule then some (false, s)
  else (s.var.discard payload).map fun var => (false, { s with var := var })

/-- `__enter__` of the managers, where `ContextVar_set` fails. -/
def enterUnset (s : ContextState) (o : ℕ) (env : ManagerEnv) : Option (Bool × ContextState) :=
  match s.managers o with
  | .bufferModeCtx payload =>
    s.cloneUnset env (fun c => { c with buffer_mode := payload, buffer_payload := some o }) false
  | .streamStrategyCtx payload => s.cloneUnset env (fun c => { c with stream := payload }) true
  | .transferModeCtx payload =>
    s.cloneUnset env (fun c => { c with transfer_mode := payload }) true
  | .executionContextCtx payload _ => s.executionContextCtxUnset payload env

/-! ## Leaving -/

/-- The start of all exits: the variable is reset and the token given up. -/
def resetToken (s : ContextState) (o : ℕ) : Option (ℤ × ContextState) :=
  (s.var.pop (s.tokens o)).map fun r =>
    (r.1, { s with var := r.2, tokens := Function.update s.tokens o none })

/-- The switch over the mode, for the payload of the manager `o`. -/
def closeBuffers (s : ContextState) (o : ℕ) (env : ManagerEnv) : Option ContextState :=
  (Uringio.closeBuffers ⟨s.payloads o, s.ring, s.registrations⟩ env).map fun b =>
    { s with
      payloads := Function.update s.payloads o b.payload
      ring := b.ring
      registrations := b.registrations }

/-- `BufferModeCtx_exit`. -/
def bufferModeCtxExit (s : ContextState) (o : ℕ) (env : ManagerEnv) : Option ContextState := do
  let (result, s) ← s.resetToken o
  if result < 0 then some s else s.closeBuffers o env

/-- `StreamStrategyCtx_exit`. -/
def streamStrategyCtxExit (s : ContextState) (o : ℕ) : Option ContextState :=
  (s.resetToken o).map Prod.snd

/-- `TransferModeCtx_exit`. -/
def transferModeCtxExit (s : ContextState) (o : ℕ) : Option ContextState :=
  (s.resetToken o).map Prod.snd

/-- `ExecutionContextCtx_exit`. -/
def executionContextCtxExit (s : ContextState) (o : ℕ) : Option ContextState :=
  (s.resetToken o).map Prod.snd

/-- `__enter__` and `__exit__` of the managers. -/
def protocol : Bracket.Protocol ContextState ℕ ManagerEnv where
  enter s o env :=
    match s.managers o with
    | .bufferModeCtx payload => s.bufferModeCtxEnter o payload env
    | .streamStrategyCtx payload => s.streamStrategyCtxEnter o payload env
    | .transferModeCtx payload => s.transferModeCtxEnter o payload env
    | .executionContextCtx payload _ => s.executionContextCtxEnter o payload env
  exit s o env :=
    match s.managers o with
    | .bufferModeCtx _ => s.bufferModeCtxExit o env
    | .streamStrategyCtx _ => s.streamStrategyCtxExit o
    | .transferModeCtx _ => s.transferModeCtxExit o
    | .executionContextCtx _ _ => s.executionContextCtxExit o

/-! ## The getters -/

/-- `get_stream_strategy`. -/
def getStreamStrategy (s : ContextState) : Option StreamStrategy := s.var.get.map (·.stream)

/-- `get_transfer_mode`. -/
def getTransferMode (s : ContextState) : Option TransferMode := s.var.get.map (·.transfer_mode)

/-- `_get_buffer`. -/
def getBuffer (s : ContextState) : Option (Option ℕ) := s.var.get.map (·.buffer_payload)

end ContextState

end Uringio
