import Uringio.Buffers.Blocks

/-!
# The constructors and the destructor of payloads

`buffers.c`, function by function. The loops over the elements of an array are two: one allocates
the bytes of each element, one acquires the buffer of each item; what they do with the elements so
far when one fails is an argument, since the functions differ in it. A function that returns a
pointer and sets fields of the payload returns both. The user's sequence is given by its length.
-/

namespace Uringio.Blocks

open Ledger

variable (env : BuildEnv)

/-! ## The destructor -/

/-- Free the bytes of the first `n` elements of an array. -/
def freeCells : ℕ → List (Option Entry) → Build Unit
  | 0, _ => pure ()
  | _ + 1, [] => stop .outside
  | n + 1, cell :: cells => do
    let entry ← read cell
    freeBase entry.base
    freeCells n cells

/-- Release the first `n` views of an array. -/
def releaseSlots : ℕ → List Slot → Build Unit
  | 0, _ => pure ()
  | _ + 1, [] => stop .outside
  | n + 1, slot :: slots => do
    release slot
    releaseSlots n slots

/-- The views that hang at a buffer: released, and their array freed. -/
def freeViews (payload : Payload) : Option ViewArray → Build Unit
  | none => pure ()
  | some views => do
    let amount ← read payload.amount
    releaseSlots amount.toNat views.slots
    free views.block

/-- The part of `free_buffer_payload` for the linear array. -/
def freeLinear (payload : Payload) : Option LinearArray → Build Unit
  | none => pure ()
  | some linear => do
    let origin ← read payload.payload_origin
    if origin = .PAYLOAD_RUNTIME then do
      let amount ← read payload.amount
      freeCells amount.toNat linear.cells
    else pure ()
    let views ← read linear.views
    freeViews payload views
    free linear.block

/-- The part of `free_buffer_payload` for the vector. -/
def freeVector (payload : Payload) : Option Vectored → Build Unit
  | none => pure ()
  | some vector => do
    let origin ← read payload.payload_origin
    if origin = .PAYLOAD_RUNTIME then do
      let nr_vecs ← read vector.nr_vecs
      let iovecs ← read vector.iovecs
      freeCells nr_vecs ((iovecs.map (·.cells)).getD [])
    else pure ()
    let views ← read vector.views
    freeViews payload views
    let iovecs ← read vector.iovecs
    freePointer (iovecs.map (·.block))
    free vector.block

/-- `free_buffer_payload`. -/
def freeBufferPayload (payload : Payload) (force : Bool) : Build Unit := do
  let mode ← read payload.mode
  if mode ≠ .NORMAL_BUF ∧ force = false then pure ()
  else do
    let linear ← read payload.linear
    freeLinear payload linear
    let vector ← read payload.vector
    freeVector payload vector
    free payload.block

/-! ## The loops -/

/-- Allocate the bytes of `k` more elements. -/
def allocLoop (bufsize : ℤ) (unwind : List Entry → Build Unit) :
    ℕ → List Entry → Build (Option (List Entry))
  | 0, done => pure (some done)
  | k + 1, done => do
    match ← malloc env bufsize with
    | none => do
      unwind done
      pure none
    | some b => allocLoop bufsize unwind k (done ++ [⟨.runtime b, CInt.toU64 bufsize⟩])

/-- Acquire the buffers of `k` more items. -/
def acquireLoop (fetch : ℕ → Build Bool) (unwind : List View → Build Unit) :
    ℕ → List View → Build (Option (List View))
  | 0, done => pure (some done)
  | k + 1, done => do
    if ← fetch done.length then
      match ← getBuffer env done.length with
      | none => do
        unwind done
        pure none
      | some v => acquireLoop fetch unwind k (done ++ [v])
    else do
      unwind done
      pure none

/-- The element that describes the buffer of a view. -/
def View.entry (v : View) : Entry := ⟨.user v.region.addr, v.region.len⟩

/-- Free the bytes of the elements so far. -/
def freeEntries (done : List Entry) : Build Unit := done.forM fun e => freeBase e.base

/-- Release the views so far. -/
def releaseViews (done : List View) : Build Unit := done.forM releaseView

/-! ## One array -/

/-- The new array becomes the payload's only one, and gets its views, in its first element. -/
def storeLinear (buffers : LinearArray) (views : Option ViewArray) (payload : Payload) :
    Build (Option LinearArray × Payload) :=
  if buffers.cells = [] then stop .outside
  else
    let buffers := { buffers with views := some views }
    pure (some buffers, { payload with linear := some (some buffers), vector := some none })

/-- The new vector becomes the payload's only array. -/
def storeVector (vec : Vectored) (payload : Payload) : Build (Option Vectored × Payload) :=
  pure (some vec, { payload with vector := some (some vec), linear := some none })

/-- `create_linear_buffers`. -/
def createLinearBuffers (len bufsize : ℤ) (payload : Payload) :
    Build (Option LinearArray × Payload) := do
  match ← malloc env len with
  | none => pure (none, payload)
  | some buffers => do
    match ← allocLoop env bufsize (fun done => do
        freeEntries done
        free buffers) len.toNat [] with
    | none => pure (none, payload)
    | some entries => storeLinear ⟨buffers, entries.map some, none⟩ none payload

/-- `serialize_linear_buffers`. -/
def serializeLinearBuffers (len : ℤ) (payload : Payload) :
    Build (Option LinearArray × Payload) := do
  let views ← malloc env len
  let buffers ← malloc env len
  match views, buffers with
  | some views, some buffers => do
    match ← acquireLoop env (getItem env) (fun done => do
        releaseViews done
        free views
        free buffers) len.toNat [] with
    | none => pure (none, payload)
    | some done =>
      storeLinear ⟨buffers, done.map fun v => some v.entry, none⟩
        (some ⟨views, done.map .view⟩) payload
  | views, buffers => do
    freePointer views
    freePointer buffers
    pure (none, payload)

/-- `create_vectored_buffers`. -/
def createVectoredBuffers (len bufsize : ℤ) (payload : Payload) :
    Build (Option Vectored × Payload) := do
  match ← malloc env 1 with
  | none => pure (none, payload)
  | some vec => do
    match ← malloc env len with
    | none => do
      free vec
      pure (none, payload)
    | some iovecs => do
      match ← allocLoop env bufsize (fun done => do
          freeEntries done
          free iovecs
          free vec) len.toNat [] with
      | none => pure (none, payload)
      | some entries =>
        storeVector ⟨vec, some (some ⟨iovecs, entries.map some⟩), some (CInt.toUnsigned len),
          some none⟩ payload

/-- `PySequence_Fast` of a sequence of `n` items: whether it returns a list of them. -/
def sequenceFast (n : ℕ) : Build Bool := fun s =>
  if (List.range n).all fun i => env.present s.rest.fetches i then (.ok true, s)
  else (.ok false, { s with rest := { s.rest with
    fetches := s.rest.fetches + 1, failures := s.rest.failures + 1 } })

/-- The part of `serialize_vectored_buffers` that follows `PySequence_Fast`. -/
def serializeFast (len : ℤ) (payload : Payload) : Build (Option Vectored × Payload) := do
  let views ← malloc env len
  let vec ← malloc env 1
  match views, vec with
  | some views, some vec => do
    match ← malloc env len with
    | none => do
      free views
      free vec
      pure (none, payload)
    | some iovecs => do
      match ← acquireLoop env (fun _ => pure true) (fun done => do
          releaseViews done
          free views
          free iovecs
          free vec) len.toNat [] with
      | none => pure (none, payload)
      | some done =>
        storeVector ⟨vec, some (some ⟨iovecs, done.map fun v => some v.entry⟩),
          some (CInt.toUnsigned len), some (some ⟨views, done.map .view⟩)⟩ payload
  | views, vec => do
    freePointer views
    freePointer vec
    pure (none, payload)

/-- `serialize_vectored_buffers`. -/
def serializeVectoredBuffers (n : ℕ) (payload : Payload) :
    Build (Option Vectored × Payload) := do
  if ← sequenceFast env n then serializeFast env (CInt.toInt n) payload
  else pure (none, payload)

/-! ## Both arrays -/

/-- A payload with both arrays, of which the elements so far are set: the rest of the linear array
is `rest`, the rest of the `iovec`s is as the allocation left it. -/
def Payload.withArrays (payload : Payload) (linear vector iovecs : ℕ) (len : ℤ)
    (rest : Option Entry) (views : Option (Option ViewArray))
    (vector_views : Option (Option ViewArray)) (done : List Entry) : Payload :=
  let unset (cell : Option Entry) := List.replicate (len.toNat - done.length) cell
  { payload with
    linear := some (some ⟨linear, done.map some ++ unset rest, views⟩)
    vector := some (some ⟨vector, some (some ⟨iovecs, done.map some ++ unset none⟩),
      some (CInt.toUnsigned len), vector_views⟩) }

/-- Unwind a payload and return `NULL`. -/
def abandon {α : Type} (payload : Payload) : Build (Option α) := do
  freeBufferPayload payload true
  pure none

/-- `serialize_buffers`. -/
def serializeBuffers (len : ℤ) (payload : Payload) : Build (Option Payload) := do
  let payload := { payload with linear := some none, vector := some none }
  match ← malloc env len with
  | none => abandon payload
  | some views => do
    match ← malloc env len with
    | none => abandon payload
    | some linear => do
      let array := List.replicate len.toNat none
      let payload := { payload with linear := some (some ⟨linear, array, none⟩) }
      match ← malloc env 1 with
      | none => abandon payload
      | some vector => do
        match ← malloc env len with
        | none => abandon { payload with vector := some (some ⟨vector, some none, none, none⟩) }
        | some iovecs => do
          -- The field `views` of the linear array is set with its first element.
          let half (done : List View) := payload.withArrays linear vector iovecs len none
            (if done = [] then none else some none) none (done.map View.entry)
          match ← acquireLoop env (getItem env) (fun done => freeBufferPayload (half done) true)
              len.toNat [] with
          | none => pure none
          | some done =>
            if len.toNat = 0 then stop .outside
            else pure (some (payload.withArrays linear vector iovecs len none
              (some (some ⟨views, done.map .view⟩)) (some none) (done.map View.entry)))

/-- `make_buffers`. -/
def makeBuffers (len bufsize : ℤ) (payload : Payload) : Build (Option Payload) := do
  let payload := { payload with linear := some none, vector := some none }
  match ← malloc env len with
  | none => abandon payload
  | some linear => do
    -- The linear array is cleared.
    let cleared : Option Entry := some ⟨.null, 0⟩
    let views := if len.toNat = 0 then none else some none
    let payload := { payload with
      linear := some (some ⟨linear, List.replicate len.toNat cleared, views⟩) }
    match ← malloc env 1 with
    | none => abandon payload
    | some vector => do
      match ← malloc env len with
      | none => abandon { payload with vector := some (some ⟨vector, some none, none, none⟩) }
      | some iovecs => do
        let half := payload.withArrays linear vector iovecs len cleared views none
        match ← allocLoop env bufsize (fun done => freeBufferPayload (half done) true)
            len.toNat [] with
        | none => pure none
        | some done => pure (some (half done))

/-! ## Payloads -/

/-- `_get_buffer_metadata`. -/
def getBufferMetadata (sequence : Option ℕ) (amount bufsize : ℤ) : Build BufferMetadata :=
  match sequence with
  | none => pure ⟨.PAYLOAD_RUNTIME, amount, bufsize⟩
  | some n =>
    let amount := CInt.toInt n
    if amount = 0 then stop .division
    else pure ⟨.PAYLOAD_USER, amount, CInt.toInt (Int.tdiv n amount)⟩

/-- The linear array of a payload, by its origin. -/
def fillLinear (metadata : BufferMetadata) (payload : Payload) : Build (Option Payload) := do
  let (linear, payload) ← match metadata.payload_origin with
    | .PAYLOAD_RUNTIME => createLinearBuffers env metadata.amount metadata.bufsize payload
    | .PAYLOAD_USER => serializeLinearBuffers env metadata.amount payload
  pure (linear.map fun linear => { payload with linear := some (some linear) })

/-- The vector of a payload, by its origin. -/
def fillVector (sequence : Option ℕ) (metadata : BufferMetadata) (payload : Payload) :
    Build (Option Payload) := do
  let (vector, payload) ← match sequence with
    | none => createVectoredBuffers env metadata.amount metadata.bufsize payload
    | some n => serializeVectoredBuffers env n payload
  pure (vector.map fun vector => { payload with vector := some (some vector) })

/-- Both arrays of a payload, by its origin. -/
def fillBoth (metadata : BufferMetadata) (payload : Payload) : Build (Option Payload) :=
  match metadata.payload_origin with
  | .PAYLOAD_RUNTIME => makeBuffers env metadata.amount metadata.bufsize payload
  | .PAYLOAD_USER => serializeBuffers env metadata.amount payload

/-- The switch of `create_buffer_payload` over the mode, with the payload type that it leaves. The
case of `NORMAL_BUF` falls through into that of `FIXED`. -/
def fillPayload (mode : BufferMode) (payload_type : PayloadType) (sequence : Option ℕ)
    (metadata : BufferMetadata) (rand : ℤ) (payload : Payload) :
    Build (Option Payload × PayloadType) :=
  match mode with
  | .NORMAL_BUF => do
    let filled ← match payload_type with
      | .PAYLOAD_LINEAR => fillLinear env metadata payload
      | .PAYLOAD_IOVEC => fillVector env sequence metadata payload
      | .PAYLOAD_LINEAR_AND_IOVEC => fillBoth env metadata payload
    match filled with
    | none => pure (none, payload_type)
    | some payload => do
      let filled ← fillBoth env metadata payload
      pure (filled, .PAYLOAD_LINEAR_AND_IOVEC)
  | .FIXED => do
    let filled ← fillBoth env metadata payload
    pure (filled, .PAYLOAD_LINEAR_AND_IOVEC)
  | .PROVIDED => do
    let filled ← fillLinear env metadata { payload with bgid := some rand }
    pure (filled, .PAYLOAD_LINEAR)
  | .BUF_RING => do
    let filled ← fillLinear env metadata payload
    pure (filled, .PAYLOAD_LINEAR)

/-- `create_buffer_payload`. -/
def createBufferPayload (mode : BufferMode) (payload_type : PayloadType) (sequence : Option ℕ)
    (amount bufsize rand : ℤ) : Build (Option Payload) := do
  let metadata ← getBufferMetadata sequence amount bufsize
  match ← malloc env 1 with
  | none => pure none
  | some block => do
    let (filled, payload_type) ← fillPayload env mode payload_type sequence metadata rand
      { Payload.new block with bgid := some 0 }
    pure (filled.map fun payload => { payload with
      amount := some metadata.amount
      payload_origin := some metadata.payload_origin
      mode := some mode
      payload_type := some payload_type })

/-- Whether the payload of the context serves a call without buffers of its own: it has the type,
and the array. -/
def serves {α : Type} (type : PayloadType) (array : Payload → Option (Option α)) :
    Option ℕ → Option Payload → Build Bool
  | none, some payload => do
    let payload_type ← read payload.payload_type
    if payload_type = type then do
      let array ← read (array payload)
      pure array.isSome
    else pure false
  | _, _ => pure false

/-- The origin of a payload's buffers. -/
def originOf (sequence : Option ℕ) : PayloadOrigin :=
  if sequence.isSome then .PAYLOAD_USER else .PAYLOAD_RUNTIME

/-- The part of `get_or_create_linear_buffer` that makes a new payload. It does not look at what
the function that builds the array returns. -/
def newLinearBuffer (sequence : Option ℕ) (bufsize : ℤ) : Build (Option Payload) := do
  match ← malloc env 1 with
  | none => pure none
  | some block => do
    let (_, payload) ← match sequence with
      | some _ => serializeLinearBuffers env 1 (.new block)
      | none => createLinearBuffers env 1 bufsize (.new block)
    pure (some { payload with
      amount := some 1
      mode := some .NORMAL_BUF
      payload_origin := some (originOf sequence)
      payload_type := some .PAYLOAD_LINEAR })

/-- `get_or_create_linear_buffer`, with the payload of the current context. -/
def getOrCreateLinearBuffer (context : Option Payload) (sequence : Option ℕ) (bufsize : ℤ) :
    Build (Option Payload) := do
  if ← serves .PAYLOAD_LINEAR (·.linear) sequence context then pure context
  else newLinearBuffer env sequence bufsize

/-- The part of `get_or_create_vectored_buffer` that makes a new payload. -/
def newVectoredBuffer (sequence : Option ℕ) : Build (Option Payload) := do
  match ← malloc env 1 with
  | none => pure none
  | some block => do
    let (vector, payload) ← match sequence with
      | some n => serializeVectoredBuffers env n (.zero block)
      | none => createVectoredBuffers env 1 1024 (.zero block)
    match vector with
    | none => do
      free block
      pure none
    | some vector => do
      let nr_vecs ← read vector.nr_vecs
      pure (some { payload with
        amount := some (CInt.toInt nr_vecs)
        mode := some .NORMAL_BUF
        payload_origin := some (originOf sequence)
        payload_type := some .PAYLOAD_IOVEC })

/-- `get_or_create_vectored_buffer`, with the payload of the current context. -/
def getOrCreateVectoredBuffer (context : Option Payload) (sequence : Option ℕ) :
    Build (Option Payload) := do
  if ← serves .PAYLOAD_IOVEC (·.vector) sequence context then pure context
  else newVectoredBuffer env sequence

/-- `create_buffer_payload_from_data`, of the object at position `0`. -/
def createBufferPayloadFromData : Build (Option Payload) := do
  match ← malloc env 1 with
  | none => pure none
  | some block => do
    match ← malloc env 1 with
    | none => do
      free block
      pure none
    | some buffer => do
      match ← malloc env 1 with
      | none => do
        free buffer
        free block
        pure none
      | some views => do
        match ← getBuffer env 0 with
        | none => do
          free views
          free buffer
          free block
          pure none
        | some v =>
          pure (some { Payload.zero block with
            payload_type := some .PAYLOAD_LINEAR
            vector := some none
            amount := some 1
            linear := some (some ⟨buffer, [some v.entry], some (some ⟨views, [.view v]⟩)⟩)
            payload_origin := some .PAYLOAD_USER })

/-- `create_buffer_payload_from_pybuffer`, for a view of memory that holds the array `array`. -/
def createBufferPayloadFromPybuffer (v : View) (array : ℕ → Iovec) : Build (Option Payload) := do
  match ← malloc env 1 with
  | none => pure none
  | some block => do
    let nr_vecs := CInt.toUnsigned (v.region.len / 16 : ℕ)
    match ← malloc env 1 with
    | none => do
      free block
      pure none
    | some vec => do
      match ← malloc env nr_vecs with
      | none => do
        free vec
        free block
        pure none
      | some iovecs => do
        match ← malloc env 1 with
        | none => do
          free iovecs
          free vec
          free block
          pure none
        | some views =>
          let cells := (List.range nr_vecs).map fun i =>
            some ⟨.user (array i).iov_base, (array i).iov_len⟩
          pure (some { Payload.zero block with
            payload_type := some .PAYLOAD_IOVEC
            amount := some 1
            linear := some none
            vector := some (some ⟨vec, some (some ⟨iovecs, cells⟩), some nr_vecs,
              some (some ⟨views, [.view v]⟩)⟩)
            mode := some .NORMAL_BUF
            payload_origin := some .PAYLOAD_USER })

end Uringio.Blocks
