import Uringio.Buffers.Enter

/-!
# The buffers that the kernel holds for a ring

The kernel's side of `buffer_modes.c`: a table of fixed buffers, and groups of buffers by their
16-bit names, each of which holds provided buffers or a ring. What a call of the library does to
them follows its result; what a consumed entry does follows the kernel's verdict on it, of which
the program sees nothing. A group in use is not provided to again.

`initBuffers` and `closeBuffers` are the switches over the mode that `BufferModeCtx_enter` and
`ExecutionContextCtx_enter`, and `BufferModeCtx_exit`, contain.
-/

namespace Uringio

/-- What a buffer group holds: the buffers that were provided, or a ring with its entries (`none`
where the program had no defined behaviour when it added them). -/
inductive BufferGroup
  | provided (buffers : List KernelRegion)
  | ring (entries : Option (List BufRingAdd))
  deriving DecidableEq

/-- What is registered with a ring. -/
@[ext]
structure Registrations where
  /-- The fixed buffers, if some are registered. -/
  fixed : Option (List KernelRegion)
  /-- The groups of provided buffers. -/
  groups : ℕ → Option BufferGroup

/-- A payload with its field `buf_ring`: whether it is not `NULL`. -/
structure ContextPayload extends BufferPayload where
  /-- The pointer to the ring of buffers is not null. -/
  buf_ring : Bool

/-- What a call on a manager meets. -/
structure ManagerEnv extends EnterEnv where
  /-- Whether the block of a new `ExecutionContext` is allocated. -/
  cloned : Bool
  /-- Whether its capsule is. -/
  capsule : Bool
  /-- Whether the blocks of `buffer_idx_registry_create` are. -/
  indexed : Bool
  /-- What lies behind an array of no linear buffers. -/
  stale : LinearBuffer
  /-- The kernel's verdict on the entry at each position of the queue. -/
  accepts : ℕ → Bool
  /-- The result of the library's call that takes a registration back. -/
  unregistered : ℤ

/-- The regions of the elements of an array. -/
def VectoredBuffer.kernelRegions (vector : VectoredBuffer) : List KernelRegion :=
  (vector.iovecs.take vector.nr_vecs).map fun v => ⟨v.iov_base, v.iov_len⟩

namespace Registrations

/-- `io_uring_register_buffers` with the given result. -/
def registerBuffers (k : Registrations) (vector : VectoredBuffer) (result : ℤ) : Registrations :=
  if result < 0 then k else { k with fixed := some vector.kernelRegions }

/-- `io_uring_unregister_buffers` with the given result. -/
def unregisterBuffers (k : Registrations) (result : ℤ) : Registrations :=
  if result < 0 then k else { k with fixed := none }

/-- A group gets other contents. -/
def setGroup (k : Registrations) (bgid : ℤ) (group : Option BufferGroup) : Registrations :=
  { k with groups := Function.update k.groups (CInt.toU16 bgid) group }

/-- The contents of a group. -/
def group (k : Registrations) (bgid : ℤ) : Option BufferGroup := k.groups (CInt.toU16 bgid)

/-- What the kernel does with a consumed entry that it may accept. -/
def consume (k : Registrations) (sqe : Sqe) (accepted : Bool) : Registrations :=
  match sqe.prep with
  | some (.provide_buffers addr len nr bgid _) =>
    if accepted ∧ k.group bgid = none then
      k.setGroup bgid (some (.provided (providedRegions addr len nr)))
    else k
  | some (.remove_buffers nr bgid) =>
    match k.group bgid with
    | some (.provided buffers) =>
      if ¬ accepted then k
      else if buffers.length ≤ nr.toNat then k.setGroup bgid none
      else k.setGroup bgid (some (.provided (buffers.drop nr.toNat)))
    | _ => k
  | _ => k

/-- What the kernel does with the consumed entries, one after the other. -/
def consumeAll (k : Registrations) (accepts : ℕ → Bool) (consumed : List (ℕ × Sqe)) :
    Registrations :=
  consumed.foldl (fun k e => k.consume e.2 (accepts e.1)) k

end Registrations

/-- What the switches over the mode work on: the payload of a manager, the queue, the kernel. -/
structure BufferSetup where
  /-- The payload of the manager. -/
  payload : ContextPayload
  /-- The ring of the loop. -/
  ring : Ring
  /-- What is registered with the kernel. -/
  registrations : Registrations

/-- The first linear buffer of a payload as the program reads it; `none` for a null pointer. -/
def ContextPayload.firstLinear (payload : ContextPayload) (env : ManagerEnv) :
    Option LinearBuffer :=
  payload.linear.map fun linear => linear.head?.getD env.stale

/-- The switch that hands the buffers of a payload to the kernel, and whether it goes on after it;
`none` where it would follow a null pointer. -/
def initBuffers (b : BufferSetup) (env : ManagerEnv) : Option (Bool × BufferSetup) :=
  match b.payload.mode with
  | .FIXED => do
    let vector ← b.payload.vector
    let b := { b with registrations := b.registrations.registerBuffers vector env.registered }
    if env.registered < 0 then some (false, b)
    else
      match bufferIdxRegistryCreate (CInt.toUnsigned b.payload.amount), env.indexed with
      | some idx_registry, true =>
        some (true, { b with payload := { b.payload with
          idx_registry := some idx_registry
          vector := none
          payload_type := .PAYLOAD_LINEAR } })
      | _, _ => some (false, b)
  | .PROVIDED => do
    let first ← b.payload.firstLinear env
    let s := initProvidedMode b.ring first.buffer (CInt.toInt first.len) b.payload.amount
      b.payload.bgid env.submitted
    some (decide (0 ≤ s.result), { b with
      ring := s.ring
      registrations := b.registrations.consumeAll env.accepts s.consumed })
  | .BUF_RING => do
    let first ← b.payload.firstLinear env
    let entries := initBufRingMode first.buffer (CInt.toInt first.len) b.payload.amount true
    some (true, { b with
      payload := { b.payload with buf_ring := env.setup }
      registrations :=
        if env.setup then b.registrations.setGroup b.payload.bgid (some (.ring entries))
        else b.registrations })
  | .NORMAL_BUF => some (true, b)

/-- The switch that takes the buffers of a payload back; `none` where it would follow a null
pointer. -/
def closeBuffers (b : BufferSetup) (env : ManagerEnv) : Option BufferSetup :=
  match b.payload.mode with
  | .FIXED => b.payload.idx_registry.map fun _ =>
    { b with registrations := b.registrations.unregisterBuffers env.unregistered }
  | .PROVIDED =>
    let s := closeProvidedMode b.ring b.payload.amount b.payload.bgid env.submitted
    some { b with
      ring := s.ring
      registrations := b.registrations.consumeAll env.accepts s.consumed }
  | .BUF_RING => some { b with
      payload := { b.payload with buf_ring := false }
      registrations :=
        if b.payload.buf_ring ∧ 0 ≤ env.unregistered then
          b.registrations.setGroup b.payload.bgid none
        else b.registrations }
  | .NORMAL_BUF => some b

/-! ## What the switches do to the payload -/

/-- The fields of a payload that no manager changes, and the pool of indices, which is not given
up. -/
structure SamePayload (p q : ContextPayload) : Prop where
  /-- The mode is the same. -/
  mode : q.mode = p.mode
  /-- The number of buffers is the same. -/
  amount : q.amount = p.amount
  /-- The group is the same. -/
  bgid : q.bgid = p.bgid
  /-- The linear buffers are the same. -/
  linear : q.linear = p.linear
  /-- A pool of indices is not taken away. -/
  idx_registry : p.idx_registry.isSome → q.idx_registry.isSome

/-- A payload is the same as itself. -/
theorem SamePayload.refl (p : ContextPayload) : SamePayload p p := ⟨rfl, rfl, rfl, rfl, id⟩

/-- Two payloads that are the same as a third are the same. -/
theorem SamePayload.trans {p q r : ContextPayload} (h₁ : SamePayload p q) (h₂ : SamePayload q r) :
    SamePayload p r :=
  ⟨h₂.mode.trans h₁.mode, h₂.amount.trans h₁.amount, h₂.bgid.trans h₁.bgid,
    h₂.linear.trans h₁.linear, fun h => h₂.idx_registry (h₁.idx_registry h)⟩

variable {b b' : BufferSetup} {env : ManagerEnv} {ok : Bool}

/-- A payload whose switch follows no null pointer. -/
def ContextPayload.Ready (payload : ContextPayload) : Prop :=
  match payload.mode with
  | .FIXED => payload.vector.isSome
  | .PROVIDED | .BUF_RING => payload.linear.isSome
  | .NORMAL_BUF => True

instance (payload : ContextPayload) : Decidable payload.Ready :=
  match h : payload.mode with
  | .FIXED => decidable_of_iff (payload.vector.isSome = true) (by simp [ContextPayload.Ready, h])
  | .PROVIDED => decidable_of_iff (payload.linear.isSome = true) (by simp [ContextPayload.Ready, h])
  | .BUF_RING => decidable_of_iff (payload.linear.isSome = true) (by simp [ContextPayload.Ready, h])
  | .NORMAL_BUF => decidable_of_iff True (by simp [ContextPayload.Ready, h])

/-- The switch on entering ends, if the payload is ready. -/
theorem initBuffers_defined (h : b.payload.Ready) (env : ManagerEnv) :
    ∃ r, initBuffers b env = some r := by
  unfold ContextPayload.Ready at h
  unfold initBuffers
  split <;> rename_i hmode <;> rw [hmode] at h <;> simp only at h
  · obtain ⟨vector, hvector⟩ := Option.isSome_iff_exists.mp h
    rw [hvector, Option.bind_eq_bind, Option.bind_some]
    split
    · exact ⟨_, rfl⟩
    · dsimp only
      split <;> exact ⟨_, rfl⟩
  · obtain ⟨linear, hlinear⟩ := Option.isSome_iff_exists.mp h
    simp [ContextPayload.firstLinear, hlinear]
  · obtain ⟨linear, hlinear⟩ := Option.isSome_iff_exists.mp h
    simp [ContextPayload.firstLinear, hlinear]
  · exact ⟨_, rfl⟩

/-- The switch on entering changes no other field of the payload; when it goes on, a fixed mode has
a pool of indices. -/
theorem initBuffers_payload (h : initBuffers b env = some (ok, b')) :
    SamePayload b.payload b'.payload ∧
      (ok = true → b.payload.mode = .FIXED → b'.payload.idx_registry.isSome) := by
  unfold initBuffers at h
  split at h
  · next hmode =>
    simp only [Option.bind_eq_bind, Option.bind_eq_some_iff] at h
    obtain ⟨vector, -, h⟩ := h
    split at h
    · cases h
      exact ⟨.refl _, fun h => absurd h (by decide)⟩
    · split at h
      · cases h
        exact ⟨⟨rfl, rfl, rfl, rfl, fun _ => rfl⟩, fun _ _ => rfl⟩
      · cases h
        exact ⟨.refl _, fun h => absurd h (by decide)⟩
  · next hmode =>
    simp only [Option.bind_eq_bind, Option.bind_eq_some_iff] at h
    obtain ⟨first, -, h⟩ := h
    cases h
    exact ⟨.refl _, fun _ hfixed => absurd (hmode.symm.trans hfixed) (by decide)⟩
  · next hmode =>
    simp only [Option.bind_eq_bind, Option.bind_eq_some_iff] at h
    obtain ⟨first, -, h⟩ := h
    cases h
    exact ⟨⟨rfl, rfl, rfl, rfl, id⟩, fun _ hfixed => absurd (hmode.symm.trans hfixed) (by decide)⟩
  · next hmode =>
    cases h
    exact ⟨.refl _, fun _ hfixed => absurd (hmode.symm.trans hfixed) (by decide)⟩

/-- The switch on leaving ends, if a fixed mode has its pool of indices. -/
theorem closeBuffers_defined (h : b.payload.mode = .FIXED → b.payload.idx_registry.isSome)
    (env : ManagerEnv) : ∃ b', closeBuffers b env = some b' := by
  unfold closeBuffers
  split
  · next hmode =>
    obtain ⟨reg, hreg⟩ := Option.isSome_iff_exists.mp (h hmode)
    exact ⟨_, by rw [hreg]; rfl⟩
  all_goals exact ⟨_, rfl⟩

/-- The switch on leaving changes no other field of the payload. -/
theorem closeBuffers_payload (h : closeBuffers b env = some b') :
    SamePayload b.payload b'.payload := by
  unfold closeBuffers at h
  split at h
  · obtain ⟨reg, -, rfl⟩ := Option.map_eq_some_iff.mp h
    exact .refl _
  · cases h
    exact .refl _
  · cases h
    exact ⟨rfl, rfl, rfl, rfl, id⟩
  · cases h
    exact .refl _

end Uringio
