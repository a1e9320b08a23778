import Uringio.Buffers.Index
import Uringio.Lib.Memory
import Uringio.Ring.Sqe

/-!
# Buffer payloads

`buffers.c`: the record that says where an operation's bytes are, and the functions that build it.
A block from `malloc` holds whatever it held before; the functions that do not clear it take its
old contents as the argument `raw`. The user's buffers are given by the regions that their views
describe; the addresses of the buffers that the runtime allocates are given by `alloc`.
Allocations succeed.
-/

namespace Uringio

open Memory (Region)

/-- `LinearBuffer`. -/
structure LinearBuffer where
  /-- The address of the memory. -/
  buffer : ℕ
  /-- Its length. -/
  len : ℕ
  deriving DecidableEq

/-- `VectoredBuffer`. -/
structure VectoredBuffer where
  /-- The array of vectors. -/
  iovecs : List Iovec
  /-- The number of its elements. -/
  nr_vecs : ℕ
  deriving DecidableEq

/-- `BufferPayload`. -/
structure BufferPayload where
  /-- Which of the arrays the payload offers. -/
  payload_type : PayloadType
  /-- Whose buffers they are. -/
  payload_origin : PayloadOrigin
  /-- The mode of the buffers. -/
  mode : BufferMode
  /-- The number of buffers. -/
  amount : ℤ
  /-- The linear buffers, if the pointer is not null. -/
  linear : Option (List LinearBuffer)
  /-- The vector, if the pointer is not null. -/
  vector : Option VectoredBuffer
  /-- `FIXED` mode only. -/
  idx_registry : Option FixedBufferIdxRegistry
  /-- `FIXED` mode only: the index that was acquired last. -/
  buf_idx : ℤ
  /-- `PROVIDED` and `BUF_RING` modes only. -/
  bgid : ℤ

/-- A cleared block. -/
def BufferPayload.zero : BufferPayload where
  payload_type := .PAYLOAD_LINEAR
  payload_origin := .PAYLOAD_USER
  mode := .NORMAL_BUF
  amount := 0
  linear := none
  vector := none
  idx_registry := none
  buf_idx := 0
  bgid := 0

/-- The region that an element of an `iovec` array describes. -/
def Iovec.region (v : Iovec) : Region := ⟨v.iov_base, v.iov_len⟩

/-- The region of a linear buffer. -/
def LinearBuffer.region (b : LinearBuffer) : Region := ⟨b.buffer, b.len⟩

/-- `create_linear_buffers`. -/
def createLinearBuffers (len bufsize : ℤ) (alloc : ℕ → ℕ) : List LinearBuffer :=
  (List.range len.toNat).map fun i => ⟨alloc i, CInt.toU64 bufsize⟩

/-- `serialize_linear_buffers`; `none` when the sequence has fewer than `len` items. -/
def serializeLinearBuffers (buffers_obj : List Region) (len : ℤ) : Option (List LinearBuffer) :=
  if buffers_obj.length < len then none
  else some ((buffers_obj.take len.toNat).map fun v => ⟨v.addr, v.len⟩)

/-- `create_vectored_buffers`. -/
def createVectoredBuffers (len bufsize : ℤ) (alloc : ℕ → ℕ) : VectoredBuffer :=
  ⟨(List.range len.toNat).map fun i => ⟨alloc i, CInt.toU64 bufsize⟩, CInt.toUnsigned len⟩

/-- `serialize_vectored_buffers`. -/
def serializeVectoredBuffers (buffers_obj : List Region) : VectoredBuffer :=
  let len := CInt.toInt buffers_obj.length
  ⟨(buffers_obj.take len.toNat).map fun v => ⟨v.addr, v.len⟩, CInt.toUnsigned len⟩

/-- The pair that `make_buffers` and `serialize_buffers` build: both views of the same buffers. -/
def BufferPayload.withBuffers (payload : BufferPayload) (buffers : List LinearBuffer) (len : ℤ) :
    BufferPayload :=
  { payload with
    linear := some buffers
    vector := some ⟨buffers.map fun b => ⟨b.buffer, b.len⟩, CInt.toUnsigned len⟩ }

/-- `make_buffers`. -/
def makeBuffers (len bufsize : ℤ) (alloc : ℕ → ℕ) (payload : BufferPayload) : BufferPayload :=
  payload.withBuffers (createLinearBuffers len bufsize alloc) len

/-- `serialize_buffers`. -/
def serializeBuffers (buffers_obj : List Region) (len : ℤ) (payload : BufferPayload) :
    Option BufferPayload :=
  (serializeLinearBuffers buffers_obj len).map fun buffers => payload.withBuffers buffers len

/-- `BufferMetadata`, without the fields that only repeat the arguments. -/
structure BufferMetadata where
  /-- Whose buffers they are to be. -/
  payload_origin : PayloadOrigin
  /-- How many there are to be. -/
  amount : ℤ
  /-- How long each of them is to be. -/
  bufsize : ℤ

/-- `_get_buffer_metadata`; `none` for an empty sequence, by whose length it divides. -/
def getBufferMetadata (buffers_obj : Option (List Region)) (amount bufsize : ℤ) :
    Option BufferMetadata :=
  match buffers_obj with
  | none => some ⟨.PAYLOAD_RUNTIME, amount, bufsize⟩
  | some buffers =>
    let amount := CInt.toInt buffers.length
    if amount = 0 then none
    else some ⟨.PAYLOAD_USER, amount, CInt.toInt (Int.tdiv buffers.length amount)⟩

/-- The linear buffers of a payload, by its origin. -/
def originLinear (buffers_obj : Option (List Region)) (metadata : BufferMetadata)
    (alloc : ℕ → ℕ) : Option (List LinearBuffer) :=
  match buffers_obj with
  | none => some (createLinearBuffers metadata.amount metadata.bufsize alloc)
  | some buffers => serializeLinearBuffers buffers metadata.amount

/-- The payload with both views of its buffers, by its origin. -/
def originBoth (buffers_obj : Option (List Region)) (metadata : BufferMetadata) (alloc : ℕ → ℕ)
    (payload : BufferPayload) : Option BufferPayload :=
  match buffers_obj with
  | none => some (makeBuffers metadata.amount metadata.bufsize alloc payload)
  | some buffers => serializeBuffers buffers metadata.amount payload

/-- The switch of `create_buffer_payload` over the mode, with the payload type that it leaves. The
case of `NORMAL_BUF` falls through into that of `FIXED`, which sets the buffers again. -/
def fillPayload (mode : BufferMode) (payload_type : PayloadType)
    (buffers_obj : Option (List Region)) (metadata : BufferMetadata) (alloc : ℕ → ℕ) (rand : ℤ)
    (payload : BufferPayload) : Option (BufferPayload × PayloadType) :=
  let linear := originLinear buffers_obj metadata alloc
  let both := (originBoth buffers_obj metadata alloc payload).map fun payload =>
    (payload, PayloadType.PAYLOAD_LINEAR_AND_IOVEC)
  match mode with
  | .NORMAL_BUF => if payload_type = .PAYLOAD_LINEAR then linear.bind fun _ => both else both
  | .FIXED => both
  | .PROVIDED => linear.map fun linear =>
      ({ payload with bgid := rand, linear := some linear, vector := none }, .PAYLOAD_LINEAR)
  | .BUF_RING => linear.map fun linear =>
      ({ payload with linear := some linear, vector := none }, .PAYLOAD_LINEAR)

/-- `create_buffer_payload`. -/
def createBufferPayload (mode : BufferMode) (payload_type : PayloadType)
    (buffers_obj : Option (List Region)) (amount bufsize : ℤ) (alloc : ℕ → ℕ) (rand : ℤ)
    (raw : BufferPayload) : Option BufferPayload := do
  let metadata ← getBufferMetadata buffers_obj amount bufsize
  let filled ← fillPayload mode payload_type buffers_obj metadata alloc rand { raw with bgid := 0 }
  some { filled.1 with
    amount := metadata.amount
    payload_origin := metadata.payload_origin
    mode := mode
    payload_type := filled.2 }

/-- There are as many linear buffers as the metadata says. -/
theorem length_originLinear {buffers_obj : Option (List Region)} {metadata : BufferMetadata}
    {alloc : ℕ → ℕ} {buffers : List LinearBuffer}
    (h : originLinear buffers_obj metadata alloc = some buffers) :
    buffers.length = metadata.amount.toNat := by
  cases buffers_obj with
  | none =>
    cases h
    simp [createLinearBuffers]
  | some bs =>
    simp only [originLinear, serializeLinearBuffers] at h
    split at h
    · cases h
    · cases h
      simp only [List.length_map, List.length_take]
      omega

/-- `create_buffer_payload_from_data`: one user buffer, in a cleared block. -/
def createBufferPayloadFromData (data : Region) : BufferPayload :=
  { BufferPayload.zero with
    payload_type := .PAYLOAD_LINEAR
    amount := 1
    linear := some [⟨data.addr, data.len⟩]
    payload_origin := .PAYLOAD_USER }

/-- `create_buffer_payload_from_pybuffer`, for a buffer that holds the array `iovecs`. -/
def createBufferPayloadFromPybuffer (iovecs : List Iovec) : BufferPayload :=
  { BufferPayload.zero with
    payload_type := .PAYLOAD_IOVEC
    amount := 1
    vector := some ⟨iovecs, CInt.toUnsigned iovecs.length⟩
    payload_origin := .PAYLOAD_USER }

/-- The first linear buffer, if there is one. -/
def BufferPayload.first (payload : BufferPayload) : Option LinearBuffer :=
  payload.linear.bind List.head?

/-- The payload of the context serves a linear transfer without buffers of its own. -/
def BufferPayload.servesLinear (payload : BufferPayload) : Bool :=
  payload.payload_type = .PAYLOAD_LINEAR ∧ payload.linear.isSome

/-- The payload of the context serves a vectored transfer without buffers of its own. -/
def BufferPayload.servesVectored (payload : BufferPayload) : Bool :=
  payload.payload_type = .PAYLOAD_IOVEC ∧ payload.vector.isSome

/-- The new payload of `get_or_create_linear_buffer` where the allocations succeed and the objects
export their buffers: one buffer of the user, or one of `bufsize` bytes. The function does not look
at a failure to build it, and a sequence without items leaves the block as `malloc` returned it.
Each failure leaves an exception pending, which is a stage of the entry points
(`getOrCreateLinear`); none of them goes on to its dispatcher then (`built_of_through`). -/
def newLinearBuffer (buffers_obj : Option (List Region)) (bufsize : ℤ) (alloc : ℕ → ℕ)
    (raw : BufferPayload) : BufferPayload :=
  let filled := match buffers_obj with
    | none => { raw with linear := some (createLinearBuffers 1 bufsize alloc), vector := none }
    | some buffers =>
      match serializeLinearBuffers buffers 1 with
      | none => raw
      | some linear => { raw with linear := some linear, vector := none }
  { filled with
    amount := 1
    mode := .NORMAL_BUF
    payload_origin := if buffers_obj.isSome then .PAYLOAD_USER else .PAYLOAD_RUNTIME
    payload_type := .PAYLOAD_LINEAR }

/-- The new payload of `get_or_create_vectored_buffer`: the user's buffers, or one of 1024
bytes. -/
def newVectoredBuffer (buffers_obj : Option (List Region)) (alloc : ℕ → ℕ) : BufferPayload :=
  let vector := match buffers_obj with
    | none => createVectoredBuffers 1 1024 alloc
    | some buffers => serializeVectoredBuffers buffers
  { BufferPayload.zero with
    vector := some vector
    amount := CInt.toInt vector.nr_vecs
    mode := .NORMAL_BUF
    payload_origin := if buffers_obj.isSome then .PAYLOAD_USER else .PAYLOAD_RUNTIME
    payload_type := .PAYLOAD_IOVEC }

end Uringio
