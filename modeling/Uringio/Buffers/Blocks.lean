import Uringio.Buffers.Payload
import Uringio.Lib.Ledger

/-!
# The blocks and views behind a payload

`buffers.c` with what it allocates and what it acquires. Each allocation and each acquisition has a
number; the resources that a function holds are the blocks that it did not free and the views that
it did not release. A field is `none` until it is written: reading it before is a fault, as is
freeing what is not held and leaving an array. A pointer is the record that it points to, together
with the number of its block.
-/

namespace Uringio.Blocks

open Ledger
open Memory (Region)

/-- What a function of `buffers.c` may hold: the block of an allocation, the view of an
acquisition. -/
inductive Resource
  | block (n : ℕ)
  | view (n : ℕ)
  deriving DecidableEq

/-- The allocations and acquisitions so far, those that failed, and the positions of the items
whose buffers were acquired. -/
structure Count where
  /-- The allocations that were asked for. -/
  requests : ℕ
  /-- The items that were asked for. -/
  fetches : ℕ
  /-- The steps that were refused. -/
  failures : ℕ
  /-- The positions of the items whose buffers were acquired, in order. -/
  acquired : List ℕ

/-- Why the program has no defined behaviour. -/
inductive Undefined
  | uninitialised | outside | notHeld | notAllocated | division
  deriving DecidableEq

/-- A function of `buffers.c`. -/
abbrev Build := Program Undefined Resource Count

/-- What the functions meet: which allocations fail, and for the `n`-th acquisition whether the item
at a position can be fetched, and the buffer that it has, if it has one. -/
structure BuildEnv where
  /-- The request for memory with this number is refused. -/
  fails : ℕ → Bool
  /-- The fetch of this number finds a buffer in the item at this position. -/
  present : ℕ → ℕ → Bool
  /-- The memory of the buffer that the fetch of this number finds at this position. -/
  region : ℕ → ℕ → Option Region

/-! ## The records -/

/-- A `Py_buffer` that describes a buffer. -/
structure View where
  /-- The fetch that acquired it. -/
  name : ℕ
  /-- Its memory. -/
  region : Region
  deriving DecidableEq

/-- A `Py_buffer` of an array: as the allocation left it, cleared, or describing a buffer. -/
inductive Slot
  | unset | cleared
  | view (v : View)
  deriving DecidableEq

/-- An array of `Py_buffer`. -/
structure ViewArray where
  /-- The block of the array. -/
  block : ℕ
  /-- The views, as far as they are set. -/
  slots : List Slot

/-- A pointer to bytes: null, to a buffer of the user, or to a block of its own. -/
inductive Base
  | null
  | user (addr : ℕ)
  | runtime (block : ℕ)
  deriving DecidableEq

/-- The fields `buffer` and `len` of a `LinearBuffer`, or an `iovec`. -/
structure Entry where
  /-- Where the memory is from. -/
  base : Base
  /-- How long it is. -/
  len : ℕ
  deriving DecidableEq

/-- An array of `LinearBuffer`, with the field `views` of the first. -/
structure LinearArray where
  /-- The block of the array. -/
  block : ℕ
  /-- The elements; `none` for one that was never written. -/
  cells : List (Option Entry)
  /-- The pointer to the views, if it was written. -/
  views : Option (Option ViewArray)

/-- An array of `iovec`. -/
structure IovecArray where
  /-- The block of the array. -/
  block : ℕ
  /-- The elements; `none` for one that was never written. -/
  cells : List (Option Entry)

/-- `VectoredBuffer`. -/
structure Vectored where
  /-- The block of the structure. -/
  block : ℕ
  /-- The pointer to the array, if it was written. -/
  iovecs : Option (Option IovecArray)
  /-- The number of elements, if it was written. -/
  nr_vecs : Option ℕ
  /-- The pointer to the views, if it was written. -/
  views : Option (Option ViewArray)

/-- `BufferPayload`, as far as `buffers.c` knows it. -/
structure Payload where
  /-- The block of the payload. -/
  block : ℕ
  /-- What it describes, if the field was written. -/
  payload_type : Option PayloadType
  /-- Whose buffers it describes, if the field was written. -/
  payload_origin : Option PayloadOrigin
  /-- The mode, if the field was written. -/
  mode : Option BufferMode
  /-- The number of buffers, if the field was written. -/
  amount : Option ℤ
  /-- The pointer to the linear array, if it was written. -/
  linear : Option (Option LinearArray)
  /-- The pointer to the vector, if it was written. -/
  vector : Option (Option Vectored)
  /-- The group of the buffers, if the field was written. -/
  bgid : Option ℤ

/-- A payload as `malloc` returned it. -/
def Payload.new (block : ℕ) : Payload := ⟨block, none, none, none, none, none, none, none⟩

/-- A payload that was cleared. -/
def Payload.zero (block : ℕ) : Payload :=
  ⟨block, some .PAYLOAD_LINEAR, some .PAYLOAD_USER, some .NORMAL_BUF, some 0, some none, some none,
    some 0⟩

/-! ## The resources that a record reaches -/

/-- The block behind a pointer to bytes. -/
def Base.resources : Base → Multiset Resource
  | .runtime b => {.block b}
  | _ => 0

/-- The blocks behind the elements of an array. -/
def cellsResources (cells : List (Option Entry)) : Multiset Resource :=
  (cells.map fun c => c.elim 0 (·.base.resources)).sum

/-- The view in a `Py_buffer`. -/
def Slot.resources : Slot → Multiset Resource
  | .view v => {.view v.name}
  | _ => 0

/-- An array of `Py_buffer` and its views. -/
def ViewArray.resources (a : ViewArray) : Multiset Resource :=
  {.block a.block} + (a.slots.map Slot.resources).sum

/-- What a field with a pointer reaches. -/
def pointee {α : Type} (resources : α → Multiset Resource) (field : Option (Option α)) :
    Multiset Resource :=
  (field.getD none).elim 0 resources

/-- An array of `LinearBuffer` and what it points to. -/
def LinearArray.resources (a : LinearArray) : Multiset Resource :=
  {.block a.block} + (cellsResources a.cells + pointee ViewArray.resources a.views)

/-- A `VectoredBuffer` and its arrays, but for the bytes. -/
def Vectored.arrays (v : Vectored) : Multiset Resource :=
  {.block v.block} + (pointee (fun a => {.block a.block}) v.iovecs +
    pointee ViewArray.resources v.views)

/-- The blocks behind the `iovec`s of a `VectoredBuffer`. -/
def Vectored.bytes (v : Vectored) : Multiset Resource :=
  pointee (fun a => cellsResources a.cells) v.iovecs

/-- A payload reaches a resource. -/
def Payload.Reaches (p : Payload) (r : Resource) : Prop :=
  r = .block p.block ∨ r ∈ pointee LinearArray.resources p.linear ∨
    r ∈ pointee Vectored.arrays p.vector ∨ r ∈ pointee Vectored.bytes p.vector

/-! ## The steps of the functions -/

/-- `malloc` or `PyMem_Malloc`, of an array of `size` elements or a block of `size` bytes. A
negative number becomes a size that no allocation has. -/
def malloc (env : BuildEnv) (size : ℤ) : Build (Option ℕ) := fun s =>
  let t := { s.rest with requests := s.rest.requests + 1 }
  if size < 0 ∨ env.fails s.rest.requests = true then
    (.ok none, ⟨s.held, { t with failures := t.failures + 1 }⟩)
  else (.ok (some s.rest.requests), ⟨.block s.rest.requests ::ₘ s.held, t⟩)

/-- `free` or `PyMem_Free` of a block. -/
def free (block : ℕ) : Build Unit := give .notHeld (.block block)

/-- `PyMem_Free` of a pointer that may be null. -/
def freePointer : Option ℕ → Build Unit
  | none => pure ()
  | some block => free block

/-- `PyMem_Free` of a pointer to bytes. -/
def freeBase : Base → Build Unit
  | .null => pure ()
  | .user _ => stop .notAllocated
  | .runtime block => free block

/-- `PySequence_GetItem`: whether it returns an item. -/
def getItem (env : BuildEnv) (i : ℕ) : Build Bool := fun s =>
  if env.present s.rest.fetches i then (.ok true, s)
  else (.ok false, { s with rest := { s.rest with
    fetches := s.rest.fetches + 1, failures := s.rest.failures + 1 } })

/-- `PyObject_GetBuffer` of the item at a position. -/
def getBuffer (env : BuildEnv) (i : ℕ) : Build (Option View) := fun s =>
  let t := { s.rest with fetches := s.rest.fetches + 1 }
  match env.region s.rest.fetches i with
  | none => (.ok none, ⟨s.held, { t with failures := t.failures + 1 }⟩)
  | some r => (.ok (some ⟨s.rest.fetches, r⟩),
      ⟨.view s.rest.fetches ::ₘ s.held, { t with acquired := t.acquired ++ [i] }⟩)

/-- `PyBuffer_Release` of a view. -/
def releaseView (v : View) : Build Unit := give .notHeld (.view v.name)

/-- `PyBuffer_Release`. -/
def release : Slot → Build Unit
  | .unset => stop .uninitialised
  | .cleared => pure ()
  | .view v => releaseView v

/-- Read a field. -/
def read {α : Type} : Option α → Build α
  | none => stop .uninitialised
  | some a => pure a

/-! ## The rules of the steps -/

variable {env : BuildEnv} {size : ℤ} {P : Multiset Resource} {t : Count} {β : Type}
  {S : Except Undefined β → Multiset Resource → Count → Prop}

/-- **Allocating.** Either it fails, or there is a new block. -/
theorem leads_malloc {k : Option ℕ → Build β}
    (hnone : (size < 0 ∨ env.fails t.requests = true) →
      Leads (k none) P { t with requests := t.requests + 1, failures := t.failures + 1 } S)
    (hsome : 0 ≤ size → env.fails t.requests = false →
      Leads (k (some t.requests)) (.block t.requests ::ₘ P)
        { t with requests := t.requests + 1 } S) :
    Leads (malloc env size >>= k) P t S := by
  by_cases hdenied : size < 0 ∨ env.fails t.requests = true
  · refine .step (fun R => ?_) (hnone hdenied)
    exact if_pos hdenied
  · rw [not_or] at hdenied
    refine .step (fun R => ?_) (hsome (not_lt.mp hdenied.1) (by simpa using hdenied.2))
    rw [Multiset.cons_add]
    exact if_neg (by simpa using hdenied)

/-- **Fetching.** -/
theorem leads_getItem {i : ℕ} {k : Bool → Build β}
    (hno : env.present t.fetches i = false → Leads (k false) P { t with
      fetches := t.fetches + 1, failures := t.failures + 1 } S)
    (hyes : env.present t.fetches i = true → Leads (k true) P t S) :
    Leads (getItem env i >>= k) P t S := by
  cases hitem : env.present t.fetches i with
  | true =>
    refine .step (fun R => ?_) (hyes hitem)
    exact if_pos hitem
  | false =>
    refine .step (fun R => ?_) (hno hitem)
    exact if_neg (by simp [hitem])

/-- **Acquiring.** Either it fails, or there is a new view. -/
theorem leads_getBuffer {i : ℕ} {k : Option View → Build β}
    (hnone : env.region t.fetches i = none → Leads (k none) P { t with
      fetches := t.fetches + 1, failures := t.failures + 1 } S)
    (hsome : ∀ r, env.region t.fetches i = some r → Leads (k (some ⟨t.fetches, r⟩))
      (.view t.fetches ::ₘ P) { t with
        fetches := t.fetches + 1, acquired := t.acquired ++ [i] } S) :
    Leads (getBuffer env i >>= k) P t S := by
  cases hregion : env.region t.fetches i with
  | none =>
    refine .step (fun R => ?_) (hnone hregion)
    simp only [getBuffer, hregion]
  | some r =>
    refine .step (fun R => ?_) (hsome r hregion)
    simp only [getBuffer, hregion, Multiset.cons_add]

/-- A value that was set is read without an effect. -/
theorem read_some {α : Type} (a : α) : read (some a) = pure a := rfl

/-- **Reading** a field that was written. -/
theorem leads_read {α : Type} {a : α} {k : α → Build β} (h : Leads (k a) P t S) :
    Leads (read (some a) >>= k) P t S := .step (fun _ => rfl) h

/-- **Freeing** a block that is held. -/
theorem leads_free {b : ℕ} {k : Unit → Build β} (h : Leads (k ()) P t S) :
    Leads (free b >>= k) (.block b ::ₘ P) t S := .give_bind h

end Uringio.Blocks
