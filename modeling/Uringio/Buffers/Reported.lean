import Uringio.Buffers.Counts

/-!
# What a failed construction reports

In `buffers.c` an allocation that fails is followed by `PyErr_NoMemory`, and the functions of the
interpreter that fetch an item and acquire its buffer raise by themselves. So the steps that were
refused are those that set an exception, and a constructor keeps the protocol of the interpreter if
it returns null exactly where a step was refused. That is shown here part by part: what only gives
back is refused nothing, each loop and each constructor of arrays reports, and so does
`create_buffer_payload` where it returns (`reports_create`).
-/

namespace Uringio.Blocks

open Ledger

variable {env : BuildEnv} {len bufsize : ℤ} {sequence : Option ℕ} {payload : Payload}

/-! ## What gives back -/

/-- Freeing is refused nothing. -/
theorem reports_free (b : ℕ) : Reports Count.failures (free b) fun _ => False := .give

/-- Nor is freeing through a pointer. -/
theorem reports_freePointer (p : Option ℕ) :
    Reports Count.failures (freePointer p) fun _ => False := by
  cases p with
  | none => exact .pure id
  | some b => exact reports_free b

/-- Freeing bytes. -/
theorem reports_freeBase (base : Base) : Reports Count.failures (freeBase base) fun _ => False := by
  cases base with
  | null => exact .pure id
  | user => exact .stop _
  | runtime b => exact reports_free b

/-- Freeing the bytes of elements. -/
theorem reports_freeEntries (done : List Entry) :
    Reports Count.failures (freeEntries done) fun _ => False :=
  .forM (fun (entry : Entry) => reports_freeBase entry.base) done

/-- Releasing views. -/
theorem reports_releaseViews (done : List View) :
    Reports Count.failures (releaseViews done) fun _ => False :=
  .forM (fun _ => .give) done

/-- Reading a field. -/
theorem reports_read {α : Type} (field : Option α) :
    Reports Count.failures (read field) fun _ => False := by
  cases field with
  | none => exact .stop _
  | some a => exact .pure id

/-- Freeing the bytes of the first elements. -/
theorem reports_freeCells (n : ℕ) (cells : List (Option Entry)) :
    Reports Count.failures (freeCells n cells) fun _ => False := by
  induction n generalizing cells with
  | zero =>
    cases cells <;> exact .pure id
  | succ n ih =>
    cases cells with
    | nil => exact .stop _
    | cons cell cells =>
      exact (reports_read cell).after fun entry => (reports_freeBase entry.base).after fun _ =>
        ih cells

/-- Releasing the first views. -/
theorem reports_releaseSlots (n : ℕ) (slots : List Slot) :
    Reports Count.failures (releaseSlots n slots) fun _ => False := by
  induction n generalizing slots with
  | zero =>
    cases slots <;> exact .pure id
  | succ n ih =>
    cases slots with
    | nil => exact .stop _
    | cons slot slots =>
      refine Reports.after ?_ fun _ => ih slots
      cases slot with
      | unset => exact .stop _
      | cleared => exact .pure id
      | view => exact .give

/-- Freeing the views. -/
theorem reports_freeViews (payload : Payload) (views : Option ViewArray) :
    Reports Count.failures (freeViews payload views) fun _ => False := by
  cases views with
  | none => exact .pure id
  | some views =>
    exact (reports_read _).after fun _ => (reports_releaseSlots _ _).after fun _ => reports_free _

/-- Freeing the linear array. -/
theorem reports_freeLinear (payload : Payload) (linear : Option LinearArray) :
    Reports Count.failures (freeLinear payload linear) fun _ => False := by
  cases linear with
  | none => exact .pure id
  | some linear =>
    have hrest : Reports Count.failures (do
        let views ← read linear.views
        freeViews payload views
        free linear.block) fun _ => False :=
      (reports_read _).after fun _ => (reports_freeViews _ _).after fun _ => reports_free _
    refine (reports_read _).after fun origin => ?_
    dsimp only
    split
    · exact (reports_read _).after fun _ => (reports_freeCells _ _).after fun _ => hrest
    · exact hrest

/-- Freeing the vector. -/
theorem reports_freeVector (payload : Payload) (vector : Option Vectored) :
    Reports Count.failures (freeVector payload vector) fun _ => False := by
  cases vector with
  | none => exact .pure id
  | some vector =>
    have hrest : Reports Count.failures (do
        let views ← read vector.views
        freeViews payload views
        let iovecs ← read vector.iovecs
        freePointer (iovecs.map (·.block))
        free vector.block) fun _ => False :=
      (reports_read _).after fun _ => (reports_freeViews _ _).after fun _ =>
        (reports_read _).after fun _ => (reports_freePointer _).after fun _ => reports_free _
    refine (reports_read _).after fun origin => ?_
    dsimp only
    split
    · exact (reports_read _).after fun _ => (reports_read _).after fun _ =>
        (reports_freeCells _ _).after fun _ => hrest
    · exact hrest

/-- **The destructor** is refused nothing. -/
theorem reports_freeBufferPayload (payload : Payload) (force : Bool) :
    Reports Count.failures (freeBufferPayload payload force) fun _ => False := by
  refine (reports_read _).after fun mode => ?_
  split
  · exact .pure id
  · exact (reports_read _).after fun _ => (reports_freeLinear _ _).after fun _ =>
      (reports_read _).after fun _ => (reports_freeVector _ _).after fun _ => reports_free _

/-- Unwinding a payload gives null. -/
theorem gives_abandon {α : Type} (payload : Payload) :
    Gives Count.failures (abandon payload : Build (Option α)) (· = none) :=
  .after (reports_freeBufferPayload _ _) fun _ => .pure rfl

/-! ## The steps that may be refused -/

/-- An allocation. -/
theorem reports_malloc (env : BuildEnv) (size : ℤ) :
    Reports Count.failures (malloc env size) (· = none) := fun s r s' hrun => by
  unfold malloc at hrun
  dsimp only at hrun
  split at hrun
  · cases hrun
    exact .inl ⟨rfl, Nat.lt_succ_self _⟩
  · cases hrun
    exact .inr ⟨Option.some_ne_none _, rfl⟩

/-- Fetching an item. -/
theorem reports_getItem (env : BuildEnv) (i : ℕ) :
    Reports Count.failures (getItem env i) (· = false) := fun s r s' hrun => by
  unfold getItem at hrun
  split at hrun
  · cases hrun
    exact .inr ⟨Bool.true_eq_false_eq_False, rfl⟩
  · cases hrun
    exact .inl ⟨rfl, Nat.lt_succ_self _⟩

/-- Making a list of a sequence. -/
theorem reports_sequenceFast (env : BuildEnv) (n : ℕ) :
    Reports Count.failures (sequenceFast env n) (· = false) := fun s r s' hrun => by
  unfold sequenceFast at hrun
  split at hrun
  · cases hrun
    exact .inr ⟨Bool.true_eq_false_eq_False, rfl⟩
  · cases hrun
    exact .inl ⟨rfl, Nat.lt_succ_self _⟩

/-- Acquiring the buffer of an item. -/
theorem reports_getBuffer (env : BuildEnv) (i : ℕ) :
    Reports Count.failures (getBuffer env i) (· = none) := fun s r s' hrun => by
  unfold getBuffer at hrun
  dsimp only at hrun
  split at hrun
  · cases hrun
    exact .inl ⟨rfl, Nat.lt_succ_self _⟩
  · cases hrun
    exact .inr ⟨Option.some_ne_none _, rfl⟩

/-- What follows an allocation: null after null, and a report after a block. -/
theorem reports_mallocThen {β : Type} {size : ℤ} {k : Option ℕ → Build β} {null : β → Prop}
    (hnull : Gives Count.failures (k none) null)
    (hblock : ∀ b, Reports Count.failures (k (some b)) null) :
    Reports Count.failures (malloc env size >>= k) null := by
  refine (reports_malloc env size).bind (fun r hr => ?_) fun r hr => ?_
  · rw [hr]
    exact hnull
  · obtain ⟨b, rfl⟩ := Option.ne_none_iff_exists'.mp hr
    exact hblock b

/-! ## The loops -/

/-- The loop over the bytes of the elements. -/
theorem reports_allocLoop {unwind : List Entry → Build Unit}
    (hunwind : ∀ done, Reports Count.failures (unwind done) fun _ => False) (n : ℕ)
    (done : List Entry) :
    Reports Count.failures (allocLoop env bufsize unwind n done) (· = none) := by
  induction n generalizing done with
  | zero => exact .pure (Option.some_ne_none _)
  | succ n ih =>
    exact reports_mallocThen (.after (hunwind done) fun _ => .pure rfl) fun b => ih _

/-- The loop over the items. -/
theorem reports_acquireLoop {fetch : ℕ → Build Bool} {unwind : List View → Build Unit}
    (hfetch : ∀ i, Reports Count.failures (fetch i) (· = false))
    (hunwind : ∀ done, Reports Count.failures (unwind done) fun _ => False) (n : ℕ)
    (done : List View) :
    Reports Count.failures (acquireLoop env fetch unwind n done) (· = none) := by
  induction n generalizing done with
  | zero => exact .pure (Option.some_ne_none _)
  | succ n ih =>
    have hgives : Gives Count.failures
        (unwind done >>= fun _ => pure none : Build (Option (List View))) (· = none) :=
      .after (hunwind done) fun _ => .pure rfl
    refine (hfetch _).bind (fun there hthere => ?_) fun there hthere => ?_
    · rw [hthere]
      exact hgives
    · rw [Bool.eq_true_of_not_eq_false hthere]
      refine (reports_getBuffer env _).bind (fun v hv => ?_) fun v hv => ?_
      · rw [hv]
        exact hgives
      · obtain ⟨v, rfl⟩ := Option.ne_none_iff_exists'.mp hv
        exact ih _

/-- What follows the loop over the bytes. -/
theorem reports_allocLoopThen {β : Type} {unwind : List Entry → Build Unit}
    (hunwind : ∀ done, Reports Count.failures (unwind done) fun _ => False) {n : ℕ}
    {k : Option (List Entry) → Build β} {null : β → Prop}
    (hnull : Gives Count.failures (k none) null)
    (hdone : ∀ entries, Reports Count.failures (k (some entries)) null) :
    Reports Count.failures (allocLoop env bufsize unwind n [] >>= k) null := by
  refine (reports_allocLoop hunwind n []).bind (fun r hr => ?_) fun r hr => ?_
  · rw [hr]
    exact hnull
  · obtain ⟨entries, rfl⟩ := Option.ne_none_iff_exists'.mp hr
    exact hdone entries

/-- What follows the loop over the items. -/
theorem reports_acquireLoopThen {β : Type} {fetch : ℕ → Build Bool}
    {unwind : List View → Build Unit}
    (hfetch : ∀ i, Reports Count.failures (fetch i) (· = false))
    (hunwind : ∀ done, Reports Count.failures (unwind done) fun _ => False) {n : ℕ}
    {k : Option (List View) → Build β} {null : β → Prop}
    (hnull : Gives Count.failures (k none) null)
    (hdone : ∀ views, Reports Count.failures (k (some views)) null) :
    Reports Count.failures (acquireLoop env fetch unwind n [] >>= k) null := by
  refine (reports_acquireLoop hfetch hunwind n []).bind (fun r hr => ?_) fun r hr => ?_
  · rw [hr]
    exact hnull
  · obtain ⟨views, rfl⟩ := Option.ne_none_iff_exists'.mp hr
    exact hdone views

/-! ## One array -/

/-- Storing a linear array. -/
theorem reports_storeLinear (buffers : LinearArray) (views : Option ViewArray) :
    Reports Count.failures (storeLinear buffers views payload) (·.1 = none) := by
  unfold storeLinear
  split
  · exact .stop _
  · exact .pure (Option.some_ne_none _)

/-- `create_linear_buffers`. -/
theorem reports_createLinearBuffers :
    Reports Count.failures (createLinearBuffers env len bufsize payload) (·.1 = none) :=
  reports_mallocThen (.pure rfl) fun b =>
    reports_allocLoopThen
      (fun done => (reports_freeEntries done).after fun _ => reports_free b) (.pure rfl)
      fun _ => reports_storeLinear _ _

/-- `serialize_linear_buffers`. -/
theorem reports_serializeLinearBuffers :
    Reports Count.failures (serializeLinearBuffers env len payload) (·.1 = none) := by
  have hnone : ∀ views buffers : Option ℕ, Gives Count.failures (do
      freePointer views
      freePointer buffers
      pure (none, payload) : Build (Option LinearArray × Payload)) (·.1 = none) :=
    fun views buffers => .after (reports_freePointer views) fun _ =>
      .after (reports_freePointer buffers) fun _ => .pure rfl
  refine reports_mallocThen (.after (reports_malloc env len) fun buffers => ?_) fun views =>
    reports_mallocThen (hnone _ _) fun buffers =>
      reports_acquireLoopThen (reports_getItem env)
        (fun done => (reports_releaseViews done).after fun _ => (reports_free views).after fun _ =>
          reports_free buffers) (.pure rfl) fun done => reports_storeLinear _ _
  exact hnone none buffers

/-- `create_vectored_buffers`. -/
theorem reports_createVectoredBuffers :
    Reports Count.failures (createVectoredBuffers env len bufsize payload) (·.1 = none) :=
  reports_mallocThen (.pure rfl) fun vec =>
    reports_mallocThen (.after (reports_free vec) fun _ => .pure rfl) fun iovecs =>
      reports_allocLoopThen
        (fun done => (reports_freeEntries done).after fun _ => (reports_free iovecs).after fun _ =>
          reports_free vec) (.pure rfl) fun _ => .pure (Option.some_ne_none _)

/-- `serialize_vectored_buffers`, after its sequence was made a list. -/
theorem reports_serializeFast :
    Reports Count.failures (serializeFast env len payload) (·.1 = none) := by
  have hnone : ∀ views vec : Option ℕ, Gives Count.failures (do
      freePointer views
      freePointer vec
      pure (none, payload) : Build (Option Vectored × Payload)) (·.1 = none) :=
    fun views vec => .after (reports_freePointer views) fun _ =>
      .after (reports_freePointer vec) fun _ => .pure rfl
  refine reports_mallocThen (.after (reports_malloc env 1) fun vec => ?_) fun views =>
    reports_mallocThen (hnone _ _) fun vec =>
      reports_mallocThen
        (.after (reports_free views) fun _ => .after (reports_free vec) fun _ => .pure rfl)
        fun iovecs => reports_acquireLoopThen (fun _ => .pure Bool.true_eq_false_eq_False)
          (fun done => (reports_releaseViews done).after fun _ =>
            (reports_free views).after fun _ => (reports_free iovecs).after fun _ =>
              reports_free vec) (.pure rfl) fun done => .pure (Option.some_ne_none _)
  exact hnone none vec

/-- `serialize_vectored_buffers`. -/
theorem reports_serializeVectoredBuffers (n : ℕ) :
    Reports Count.failures (serializeVectoredBuffers env n payload) (·.1 = none) := by
  refine (reports_sequenceFast env n).bind (fun listed h => ?_) fun listed h => ?_
  · rw [h]
    exact .pure rfl
  · rw [Bool.eq_true_of_not_eq_false h]
    exact reports_serializeFast

/-! ## Both arrays -/

/-- `serialize_buffers`. -/
theorem reports_serializeBuffers :
    Reports Count.failures (serializeBuffers env len payload) (· = none) := by
  refine reports_mallocThen (gives_abandon _) fun views =>
    reports_mallocThen (gives_abandon _) fun linear =>
      reports_mallocThen (gives_abandon _) fun vector =>
        reports_mallocThen (gives_abandon _) fun iovecs =>
          reports_acquireLoopThen (reports_getItem env)
            (fun done => reports_freeBufferPayload _ _) (.pure rfl) fun done => ?_
  dsimp only
  split
  · exact .stop _
  · exact .pure (Option.some_ne_none _)

/-- `make_buffers`. -/
theorem reports_makeBuffers :
    Reports Count.failures (makeBuffers env len bufsize payload) (· = none) :=
  reports_mallocThen (gives_abandon _) fun _ =>
    reports_mallocThen (gives_abandon _) fun _ =>
      reports_mallocThen (gives_abandon _) fun _ =>
        reports_allocLoopThen (fun _ => reports_freeBufferPayload _ _) (.pure rfl)
          fun _ => .pure (Option.some_ne_none _)

/-! ## Payloads -/

/-- What follows a constructor of an array, and stores the array that there is. -/
theorem reports_filled {α : Type} {m : Build (Option α × Payload)}
    {k : Option α × Payload → Build (Option Payload)}
    (h : Reports Count.failures m (·.1 = none))
    (hk : ∀ array payload, ∃ store : α → Payload, k (array, payload) = pure (array.map store)) :
    Reports Count.failures (m >>= k) (· = none) := by
  refine h.bind (fun r hr => ?_) fun r hr => ?_ <;> obtain ⟨array, payload⟩ := r <;>
    obtain ⟨store, heq⟩ := hk array payload <;> rw [heq]
  · obtain rfl : array = none := hr
    exact .pure rfl
  · obtain ⟨array, rfl⟩ := Option.ne_none_iff_exists'.mp hr
    exact .pure (Option.some_ne_none _)

/-- The linear array. -/
theorem reports_fillLinear (metadata : BufferMetadata) :
    Reports Count.failures (fillLinear env metadata payload) (· = none) := by
  unfold fillLinear
  cases metadata.payload_origin with
  | PAYLOAD_RUNTIME => exact reports_filled reports_createLinearBuffers fun _ _ => ⟨_, rfl⟩
  | PAYLOAD_USER => exact reports_filled reports_serializeLinearBuffers fun _ _ => ⟨_, rfl⟩

/-- The vector. -/
theorem reports_fillVector (metadata : BufferMetadata) :
    Reports Count.failures (fillVector env sequence metadata payload) (· = none) := by
  unfold fillVector
  cases sequence with
  | none => exact reports_filled reports_createVectoredBuffers fun _ _ => ⟨_, rfl⟩
  | some n => exact reports_filled (reports_serializeVectoredBuffers n) fun _ _ => ⟨_, rfl⟩

/-- Both arrays. -/
theorem reports_fillBoth (metadata : BufferMetadata) :
    Reports Count.failures (fillBoth env metadata payload) (· = none) := by
  unfold fillBoth
  split
  · exact reports_makeBuffers
  · exact reports_serializeBuffers

/-- What is filled is returned with the payload type. -/
theorem reports_typed {m : Build (Option Payload)} (payload_type : PayloadType)
    (h : Reports Count.failures m (· = none)) :
    Reports Count.failures (do
      let filled ← m
      pure (filled, payload_type)) (·.1 = none) :=
  h.bind (fun _ hr => .pure hr) fun _ hr => .pure hr

/-- The fall through: a payload that was filled is filled again. -/
theorem reports_again {m : Build (Option Payload)}
    {k : Option Payload → Build (Option Payload × PayloadType)} {metadata : BufferMetadata}
    {payload_type : PayloadType} (hm : Reports Count.failures m (· = none))
    (hnull : k none = pure (none, payload_type))
    (hk : ∀ payload, k (some payload) = do
      let filled ← fillBoth env metadata payload
      pure (filled, .PAYLOAD_LINEAR_AND_IOVEC)) :
    Reports Count.failures (m >>= k) (·.1 = none) := by
  refine hm.bind (fun r hr => ?_) fun r hr => ?_
  · rw [hr, hnull]
    exact .pure rfl
  · obtain ⟨payload, rfl⟩ := Option.ne_none_iff_exists'.mp hr
    rw [hk]
    exact reports_typed _ (reports_fillBoth metadata)

/-- **The switch** over the mode. -/
theorem reports_fillPayload (mode : BufferMode) (payload_type : PayloadType)
    (metadata : BufferMetadata) (rand : ℤ) :
    Reports Count.failures (fillPayload env mode payload_type sequence metadata rand payload)
      (·.1 = none) := by
  unfold fillPayload
  cases mode with
  | FIXED => exact reports_typed _ (reports_fillBoth metadata)
  | PROVIDED => exact reports_typed _ (reports_fillLinear metadata)
  | BUF_RING => exact reports_typed _ (reports_fillLinear metadata)
  | NORMAL_BUF =>
    cases payload_type with
    | PAYLOAD_LINEAR => exact reports_again (reports_fillLinear metadata) rfl fun _ => rfl
    | PAYLOAD_IOVEC => exact reports_again (reports_fillVector metadata) rfl fun _ => rfl
    | PAYLOAD_LINEAR_AND_IOVEC => exact reports_again (reports_fillBoth metadata) rfl fun _ => rfl

/-- The metadata are refused nothing. -/
theorem reports_getBufferMetadata (a : BufferArgs) :
    Reports Count.failures a.getBufferMetadata fun _ => False := by
  have hmetadata : ∀ n, Reports Count.failures (getBufferMetadata n a.amount a.bufsize)
      fun _ => False := by
    intro n
    cases n with
    | none => exact .pure id
    | some n =>
      unfold getBufferMetadata
      dsimp only
      split
      · exact .stop _
      · exact .pure id
  unfold BufferArgs.getBufferMetadata
  split
  · exact hmetadata none
  · exact .pure id
  · exact hmetadata _

/-- **A failed construction reports.** Where `create_buffer_payload` returns, it returns null
exactly if a step of it was refused. -/
theorem reports_create (a : BufferArgs) (env : BuildEnv) (g : Garbage) :
    Reports Count.failures (a.create env g) (· = none) :=
  (reports_getBufferMetadata a).after fun metadata =>
    reports_mallocThen (.pure rfl) fun block =>
      (reports_fillPayload a.mode a.payload_type metadata a.rand).bind
        (fun r hr => .pure (by rw [hr, Option.map_none]))
        fun r hr => .pure fun hmap => hr (Option.map_eq_none_iff.mp hmap)

end Uringio.Blocks
