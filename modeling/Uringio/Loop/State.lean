import Mathlib.Logic.Function.Basic
import Uringio.Buffers.Payload
import Uringio.Registry.Registry
import Uringio.Ring.Ring

/-!
# The loop and everything it points to

The state that the entry points and the reader share: the ring, the registry, the objects that the
slots of the registry point to, the Python futures, memory, and the flag of the interpreter that
says whether an exception is pending. Objects on the heap are never forgotten: `released` counts
how often each was given back, so that a use after that, or a second release, can be stated.
-/

namespace Uringio

/-- `UringioFile`. -/
structure UringioFile where
  /-- The descriptor. -/
  fd : ℤ
  /-- The flag `closed`. -/
  closed : Bool
  deriving DecidableEq

/-- `UringioSocket`. -/
structure UringioSocket where
  /-- The descriptor. -/
  sock_fd : ℤ
  /-- The address family. -/
  domain : ℤ
  /-- The address block of an accepted socket, if it has one. -/
  addr : Option SockaddrRef
  /-- The flag `closed`. -/
  closed : Bool
  deriving DecidableEq

/-- What a future is resolved with. -/
inductive Outcome
  /-- `None`. -/
  | none
  | int (value : ℤ)
  | bytes (value : List UInt8)
  /-- The file of the call, with its descriptor. -/
  | file (f : FileRef) (fd : ℤ)
  /-- The socket of the call, with its descriptor. -/
  | socket (s : SocketRef) (fd : ℤ)
  /-- A new connection: its descriptor, its domain and the address of its peer. -/
  | connection (fd domain : ℤ) (addr : Option SockaddrRef)
  /-- The exception `OSError(errno)`. -/
  | osError (errno : ℤ)
  /-- The exception `RuntimeError(message)`. -/
  | runtimeError (message : String)
  deriving DecidableEq

/-- The state of a future. -/
inductive FutureState
  | pending
  | cancelled
  /-- Resolved. -/
  | done (outcome : Outcome)
  /-- Resolved by a call that failed: `set_result` was called while an exception was pending, so
  that the future has its outcome, but its callbacks were dropped and never run. -/
  | lost (outcome : Outcome)
  deriving DecidableEq

/-- What the program allocates for a request and releases again. -/
inductive HeapRef
  | payload (p : PayloadRef)
  | msghdr (m : MsghdrRef)
  | sockaddr (a : SockaddrRef)
  deriving DecidableEq

/-- `UringioLoop`, with the objects that are reached from it. -/
structure Loop where
  /-- The ring. -/
  ring : Ring
  /-- The requests in progress. -/
  registry : RequestRegistry
  /-- The eventfd. -/
  wakeup_fd : ℤ
  /-- The address of the loop's `wakeup_buf`. -/
  wakeup_buf : ℕ
  /-- The payloads, of calls and of contexts. -/
  payloads : PayloadRef → BufferPayload
  /-- How often an object was released. -/
  released : HeapRef → ℕ
  /-- The references that the registry holds. -/
  refs : ObjRef → ℤ
  /-- The futures, by the number of the call. -/
  futures : FutureRef → FutureState
  /-- The files, by the number of the call that made them. -/
  files : FileRef → UringioFile
  /-- The sockets, by the call or the accept that made them. -/
  sockets : SocketRef → UringioSocket
  /-- The memory. -/
  mem : ℕ → UInt8
  /-- The number of calls so far, which names what the next call makes. -/
  calls : ℕ
  /-- The number of connections that a call accepted so far. -/
  accepted : ℕ → ℕ
  /-- A Python exception is pending. -/
  err : Bool

/-- Behaviour that ends the process, or is not defined. -/
inductive Fault
  | nullDeref
  | useAfterFree
  | abort
  deriving DecidableEq

/-- The rule of sequencing: a computation that succeeds succeeds in both parts. -/
theorem bind_eq_ok {ε α β : Type} {x : Except ε α} {f : α → Except ε β} {b : β} :
    (x >>= f) = .ok b ↔ ∃ a, x = .ok a ∧ f a = .ok b := by
  cases x with
  | error e => exact ⟨fun h => (by cases h), fun ⟨_, h, _⟩ => (by cases h)⟩
  | ok a => exact ⟨fun h => ⟨a, rfl, h⟩, fun ⟨_, h, h'⟩ => (by cases h; exact h')⟩

/-- The value of a call that is only looked at. -/
theorem map_eq_ok {ε α β : Type} {x : Except ε α} {f : α → β} {b : β} (h : x.map f = .ok b) :
    ∃ a, x = .ok a ∧ f a = b := by
  cases x with
  | error e => cases h
  | ok a => exact ⟨a, rfl, Except.ok.inj h⟩

/-- What is read off the result of a computation that succeeds. -/
theorem toOption_map_eq_some {ε α β : Type} {x : Except ε α} {f : α → β} {b : β} :
    x.toOption.map f = some b ↔ ∃ a, x = .ok a ∧ f a = b := by
  cases x with
  | error e => exact ⟨fun h => (by cases h), fun ⟨_, h, _⟩ => (by cases h)⟩
  | ok a => exact ⟨fun h => ⟨a, rfl, Option.some.inj h⟩, fun ⟨_, h, h'⟩ =>
    (by cases h; exact congrArg some h')⟩

/-- The error of a computation whose value is only looked at. -/
theorem eq_error_of_map {ε α β : Type} {x : Except ε α} {f : α → β} {e : ε}
    (h : x.map f = .error e) : x = .error e := by
  cases x with
  | error e' => cases h; rfl
  | ok a => cases h

namespace Loop

variable (L : Loop)

/-- Release an object. -/
def release (h : HeapRef) : Loop :=
  { L with released := Function.update L.released h (L.released h + 1) }

/-- Follow a pointer to a payload. -/
def deref (p : Option PayloadRef) : Except Fault (PayloadRef × BufferPayload) :=
  match p with
  | none => .error .nullDeref
  | some p => if L.released (.payload p) = 0 then .ok (p, L.payloads p) else .error .useAfterFree

/-- Change a payload in place. -/
def setPayload (p : PayloadRef) (payload : BufferPayload) : Loop :=
  { L with payloads := Function.update L.payloads p payload }

/-- `free_buffer_payload`. -/
def freeBufferPayload (p : Option PayloadRef) (force : Bool) : Loop :=
  match p with
  | none => L
  | some p =>
    if (L.payloads p).mode ≠ .NORMAL_BUF ∧ ¬ force then L else L.release (.payload p)

/-- Change a slot of the registry in place. -/
def modifySlot (index : ℤ) (f : RequestSlot → RequestSlot) : Loop :=
  { L with registry := L.registry.modifySlot index f }

/-- A call of the registry on something outside it. -/
def applyEffect : Effect → Loop
  | .incref o => { L with refs := Function.update L.refs o (L.refs o + 1) }
  | .decref o => { L with refs := Function.update L.refs o (L.refs o - 1) }
  | .freePayload p => L.freeBufferPayload (some p) false
  | .freeMsghdr m => L.release (.msghdr m)

/-- The calls of the registry on what is outside it, in order. -/
def applyEffects (es : List Effect) : Loop := es.foldl applyEffect L

/-- `registry_remove` on the loop's registry. -/
def registryRemove (index : ℤ) : Except Fault Loop :=
  match Uringio.registryRemove L.registry index with
  | none => .error .abort
  | some (registry, es) => .ok ({ L with registry := registry }.applyEffects es)

/-- `set_result` or `set_exception` on a future: one that is finished raises
`InvalidStateError`. On one that is pending the outcome is stored first and the callbacks are
scheduled then; while an exception is pending the call of `call_soon` fails and with it
`set_result`, so that the callbacks are lost and an exception stays pending. -/
def resolve (future : FutureRef) (outcome : Outcome) : Loop :=
  if L.futures future = .pending then
    { L with
      futures := Function.update L.futures future
        (if L.err then .lost outcome else .done outcome) }
  else { L with err := true }

/-! ## What the operations leave alone -/

variable {L}

/-- A release is counted. -/
@[simp] theorem release_released_self (h : HeapRef) :
    (L.release h).released h = L.released h + 1 := by simp [release]

/-- A release is not counted for another block. -/
theorem release_released_ne {h k : HeapRef} (hne : k ≠ h) :
    (L.release h).released k = L.released k := by simp [release, hne]

/-- Changing a slot leaves the ring. -/
@[simp] theorem modifySlot_ring (L : Loop) (index : ℤ) (f : RequestSlot → RequestSlot) :
    (L.modifySlot index f).ring = L.ring := rfl

/-- Two loops that differ at most in reference counts and in what was released. -/
structure SameBut (L L' : Loop) : Prop where
  /-- The ring is as it was. -/
  ring : L'.ring = L.ring
  /-- The registry is as it was. -/
  registry : L'.registry = L.registry
  /-- The eventfd is the same. -/
  wakeup_fd : L'.wakeup_fd = L.wakeup_fd
  /-- The buffer of the wakeup is the same. -/
  wakeup_buf : L'.wakeup_buf = L.wakeup_buf
  /-- The payloads are as they were. -/
  payloads : L'.payloads = L.payloads
  /-- The futures are as they were. -/
  futures : L'.futures = L.futures
  /-- The files are as they were. -/
  files : L'.files = L.files
  /-- The sockets are as they were. -/
  sockets : L'.sockets = L.sockets
  /-- The memory is as it was. -/
  mem : L'.mem = L.mem
  /-- No call was made. -/
  calls : L'.calls = L.calls
  /-- The accepted sockets are the same. -/
  accepted : L'.accepted = L.accepted
  /-- What is pending is as it was. -/
  err : L'.err = L.err

/-- A loop is the same as itself. -/
theorem SameBut.refl (L : Loop) : SameBut L L := by constructor <;> rfl

/-- What two steps leave is left. -/
theorem SameBut.trans {L₁ L₂ L₃ : Loop} (h : SameBut L₁ L₂) (h' : SameBut L₂ L₃) :
    SameBut L₁ L₃ where
  ring := h'.ring.trans h.ring
  registry := h'.registry.trans h.registry
  wakeup_fd := h'.wakeup_fd.trans h.wakeup_fd
  wakeup_buf := h'.wakeup_buf.trans h.wakeup_buf
  payloads := h'.payloads.trans h.payloads
  futures := h'.futures.trans h.futures
  files := h'.files.trans h.files
  sockets := h'.sockets.trans h.sockets
  mem := h'.mem.trans h.mem
  calls := h'.calls.trans h.calls
  accepted := h'.accepted.trans h.accepted
  err := h'.err.trans h.err

end Loop

end Uringio
