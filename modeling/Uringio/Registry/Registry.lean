import Uringio.Lib.CInt
import Uringio.Lib.IndexStack
import Uringio.Types

/-!
# The request registry

`registry.c`: an array of slots, one for each request in progress, and the stack of the indices
that are not in use. A request's index travels through the kernel as the `user_data` of its
completion, and the reader finds the request by it.

The calls that `registry_add` and `registry_remove` make on objects outside the registry
(reference counts, the release of a payload and of a message header) are returned as a list of
`Effect`s, in the order of the source.
-/

namespace Uringio

/-- The Python objects whose reference counts the registry changes. -/
inductive ObjRef
  | future (f : FutureRef)
  | socket (s : SocketRef)
  | file (f : FileRef)
  deriving DecidableEq

/-- A call of the registry on something that it does not own. -/
inductive Effect
  /-- `Py_INCREF`. -/
  | incref (o : ObjRef)
  /-- `Py_DECREF`. -/
  | decref (o : ObjRef)
  /-- `free_buffer_payload(p, false)`. -/
  | freePayload (p : PayloadRef)
  /-- `free(m)` of a message header. -/
  | freeMsghdr (m : MsghdrRef)
  deriving DecidableEq

/-- `RequestSlot`. -/
structure RequestSlot where
  /-- The index of the slot, as `uint64_t`. -/
  user_data : ℕ
  /-- The future that the completion resolves; `none` in a slot that is not in use. -/
  future : Option FutureRef
  /-- The stream strategy. -/
  stream_strategy : StreamStrategy
  /-- The payload, if the request has one. -/
  buffer_payload : Option PayloadRef
  /-- The operation. -/
  opcode : Opcode
  /-- The file, if it is one of a file. -/
  file : Option FileRef
  /-- The socket, if it is one of a socket. -/
  socket : Option SocketRef
  /-- The address block, if the request has one. -/
  addr : Option SockaddrRef
  /-- The message header, if the request has one. -/
  msghdr : Option MsghdrRef
  deriving DecidableEq

/-- A slot of zeroed memory. -/
def RequestSlot.zero : RequestSlot where
  user_data := 0
  future := none
  stream_strategy := .ONESHOT
  buffer_payload := none
  opcode := .nop
  file := none
  socket := none
  addr := none
  msghdr := none

/-- The arguments of `registry_add`. -/
structure Request where
  /-- The future. -/
  future : FutureRef
  /-- The payload, if the request has one. -/
  buffer_payload : Option PayloadRef
  /-- The stream strategy. -/
  stream_strategy : StreamStrategy
  /-- The operation. -/
  opcode : Opcode
  /-- The file, if it is one of a file. -/
  file : Option FileRef
  /-- The socket, if it is one of a socket. -/
  socket : Option SocketRef
  /-- The address block, if the request has one. -/
  sockaddr : Option SockaddrRef
  /-- The message header, if the request has one. -/
  msghdr : Option MsghdrRef
  deriving DecidableEq

/-- `RequestRegistry`. Every index on the stack is one of a slot, so that the registry never
addresses memory outside the array. -/
structure RequestRegistry where
  /-- The slots. -/
  slots : List RequestSlot
  /-- The array `available_indices` and its `top`. -/
  available_indices : IndexStack
  /-- The number of slots. -/
  size : ℕ
  /-- There are as many slots as the size says. -/
  slots_length : slots.length = size
  /-- The stack has a place for each of them. -/
  cells_length : available_indices.cells.length = size
  /-- The size is below the range of `int`. -/
  size_lt : size < 2^31
  /-- What is on the stack is the index of a slot. -/
  in_range : ∀ i ∈ available_indices.entries, 0 ≤ i ∧ i < size

/-- `DEFAULT_REGISTRY_SIZE`. -/
def DEFAULT_REGISTRY_SIZE : ℕ := 25000

/-- `registry_new`, for a size whose conversion to `int` keeps it and allocations that succeed. -/
def registryNew (size : ℕ) (h : size < 2^31) : RequestRegistry :=
  let n := if size = 0 then DEFAULT_REGISTRY_SIZE else size
  { slots := List.replicate n .zero
    available_indices := IndexStack.range n
    size := n
    slots_length := List.length_replicate
    cells_length := IndexStack.length_cells_range n
    size_lt := by unfold n DEFAULT_REGISTRY_SIZE; split <;> omega
    in_range := by
      intro i hi
      rw [IndexStack.entries_range, List.mem_map] at hi
      obtain ⟨k, hk, rfl⟩ := hi
      have := List.mem_range.mp hk
      simp only [Int.ofNat_eq_natCast]
      omega }

namespace RequestSlot

/-- The slot that `registry_add` leaves at `index`: it writes every field. -/
def fill (slot : RequestSlot) (index : ℤ) (req : Request) : RequestSlot :=
  { slot with
    user_data := CInt.toU64 index
    opcode := req.opcode
    future := some req.future
    buffer_payload := req.buffer_payload
    socket := req.socket
    file := req.file
    addr := req.sockaddr
    stream_strategy := req.stream_strategy
    msghdr := req.msghdr }

/-- The slot that `registry_remove` leaves: the address, the strategy and the index stay. -/
def clear (slot : RequestSlot) : RequestSlot :=
  { slot with
    future := none
    buffer_payload := none
    socket := none
    file := none
    msghdr := none
    opcode := .nop }

/-- The references that `registry_add` takes. -/
def acquires (req : Request) : List Effect :=
  [.incref (.future req.future)] ++ (req.socket.map fun s => .incref (.socket s)).toList ++
    (req.file.map fun f => .incref (.file f)).toList

/-- What `registry_remove` gives up: each pointer of the slot that is not `NULL`. -/
def releases (slot : RequestSlot) : List Effect :=
  (slot.future.map fun f => .decref (.future f)).toList ++
    (slot.buffer_payload.map .freePayload).toList ++
    (slot.socket.map fun s => .decref (.socket s)).toList ++
    (slot.file.map fun f => .decref (.file f)).toList ++
    (slot.msghdr.map .freeMsghdr).toList

end RequestSlot

namespace RequestRegistry

/-- The index is in the array: `0 <= index < size`. -/
def InRange (reg : RequestRegistry) (index : ℤ) : Prop := 0 ≤ index ∧ index < CInt.toInt reg.size

instance (reg : RequestRegistry) (index : ℤ) : Decidable (reg.InRange index) :=
  inferInstanceAs (Decidable (_ ∧ _))

/-- Replace the stack of the available indices. -/
def withStack (reg : RequestRegistry) (stack : IndexStack)
    (cells_length : stack.cells.length = reg.size)
    (in_range : ∀ i ∈ stack.entries, 0 ≤ i ∧ i < reg.size) : RequestRegistry :=
  { reg with available_indices := stack, cells_length, in_range }

/-- Apply `f` to the slot at `index`. -/
def modifySlot (reg : RequestRegistry) (index : ℤ) (f : RequestSlot → RequestSlot) :
    RequestRegistry :=
  { reg with
    slots := reg.slots.modify index.toNat f
    slots_length := by rw [List.length_modify]; exact reg.slots_length }

end RequestRegistry

/-- `registry_get`: the slot at `index`, `none` when the index is not in the array. -/
def registryGet (reg : RequestRegistry) (index : ℤ) : Option RequestSlot :=
  if index < 0 ∨ CInt.toInt reg.size ≤ index then none else reg.slots[index.toNat]?

/-- `registry_add`: the index that the request gets, the registry after the call and the
references that it takes. -/
def registryAdd (reg : RequestRegistry) (req : Request) : ℤ × RequestRegistry × List Effect :=
  match h : reg.available_indices.pop with
  | none => (-1, reg, [])
  | some (index, available_indices) =>
    let popped := reg.withStack available_indices
      (by rw [(IndexStack.pop_eq_some h).2]; exact reg.cells_length)
      (fun i hi => reg.in_range i (by
        rw [(IndexStack.pop_eq_some h).1]; exact List.mem_append_left _ hi))
    (index, popped.modifySlot index (·.fill index req), RequestSlot.acquires req)

/-- `registry_remove`: the registry after the call and what it gives up, nothing for an index
that is not in the array; `none` when the call aborts, because every cell of the stack is
already taken. -/
def registryRemove (reg : RequestRegistry) (index : ℤ) :
    Option (RequestRegistry × List Effect) :=
  if hr : ¬ reg.InRange index then some (reg, [])
  else
    match h : reg.available_indices.push index with
    | none => none
    | some available_indices =>
      let pushed := reg.withStack available_indices
        ((IndexStack.push_eq_some h).2.trans reg.cells_length) (by
          intro i hi
          rw [(IndexStack.push_eq_some h).1, List.mem_append, List.mem_singleton] at hi
          rcases hi with hi | rfl
          · exact reg.in_range i hi
          · have hr := not_not.mp hr
            rwa [RequestRegistry.InRange, CInt.toInt_natCast reg.size_lt] at hr)
      some (pushed.modifySlot index .clear, ((registryGet reg index).map (·.releases)).getD [])

end Uringio
