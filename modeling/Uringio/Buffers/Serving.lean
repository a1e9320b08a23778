import Uringio.Buffers.Enter

/-!
# What an entered context offers

The payload of a context after `create_buffer_payload` and the entry into the context: in
`NORMAL_BUF` mode it serves no operation, and in every other mode it has a linear buffer and no
vector, and in `FIXED` mode a pool of indices (`serving_of_entered`).
-/

namespace Uringio

/-- What the operations may rely on in the payload of a context. -/
structure BufferPayload.Serving (payload : BufferPayload) : Prop where
  /-- In the mode `NORMAL_BUF` the payload is of the type that serves no operation. -/
  normal : payload.mode = .NORMAL_BUF → payload.payload_type = .PAYLOAD_LINEAR_AND_IOVEC
  /-- In the other modes it has linear buffers and no vector. -/
  linear : payload.mode ≠ .NORMAL_BUF → payload.payload_type = .PAYLOAD_LINEAR ∧
    payload.first.isSome = true ∧ payload.vector = none
  /-- In the mode `FIXED` it has a pool of indices. -/
  pool : payload.mode = .FIXED → payload.idx_registry.isSome = true

variable {mode : BufferMode} {payload_type : PayloadType}
  {buffers_obj : Option (List Memory.Region)} {amount bufsize rand : ℤ} {alloc : ℕ → ℕ}
  {raw payload : BufferPayload} {ring : Ring} {env : EnterEnv} {entered : Entered}

/-- A list of linear buffers that is not empty has a first one. -/
theorem first_isSome_of_length {buffers : List LinearBuffer} (h : payload.linear = some buffers)
    (hlen : 1 ≤ buffers.length) : payload.first.isSome = true := by
  cases buffers with
  | nil => exact absurd hlen (by decide)
  | cons b bs =>
    rw [BufferPayload.first, h]
    rfl

/-- The payload of a context in `FIXED` mode has as many linear buffers as its amount says. -/
theorem createBufferPayload_fixed
    (h : createBufferPayload .FIXED payload_type buffers_obj amount bufsize alloc rand raw =
      some payload) :
    payload.mode = .FIXED ∧
      ∃ buffers, payload.linear = some buffers ∧ buffers.length = payload.amount.toNat := by
  simp only [createBufferPayload, Option.bind_eq_bind, Option.bind_eq_some_iff] at h
  obtain ⟨metadata, -, filled, hfilled, h⟩ := h
  simp only [Option.some.injEq] at h
  subst h
  refine ⟨rfl, ?_⟩
  simp only [fillPayload, Option.map_eq_some_iff] at hfilled
  obtain ⟨both, hboth, rfl⟩ := hfilled
  cases hobj : buffers_obj with
  | none =>
    rw [hobj] at hboth
    simp only [originBoth, Option.some.injEq] at hboth
    subst hboth
    exact ⟨_, rfl, by simp [createLinearBuffers]⟩
  | some bs =>
    rw [hobj] at hboth
    simp only [originBoth, serializeBuffers, Option.map_eq_some_iff] at hboth
    obtain ⟨buffers, hbuffers, rfl⟩ := hboth
    have hlinear : originLinear (some bs) metadata alloc = some buffers := hbuffers
    exact ⟨buffers, rfl, length_originLinear hlinear⟩

/-- The payload of a context in `NORMAL_BUF` mode is of the type that serves no operation. -/
theorem createBufferPayload_normal
    (h : createBufferPayload .NORMAL_BUF payload_type buffers_obj amount bufsize alloc rand raw =
      some payload) :
    payload.mode = .NORMAL_BUF ∧ payload.payload_type = .PAYLOAD_LINEAR_AND_IOVEC := by
  simp only [createBufferPayload, Option.bind_eq_bind, Option.bind_eq_some_iff] at h
  obtain ⟨metadata, -, filled, hfilled, h⟩ := h
  simp only [Option.some.injEq] at h
  subst h
  refine ⟨rfl, ?_⟩
  simp only [fillPayload] at hfilled
  split at hfilled
  · obtain ⟨linear, -, hfilled⟩ := Option.bind_eq_some_iff.mp hfilled
    obtain ⟨both, -, rfl⟩ := Option.map_eq_some_iff.mp hfilled
    rfl
  · obtain ⟨both, -, rfl⟩ := Option.map_eq_some_iff.mp hfilled
    rfl

/-- The payload of a provided mode offers its first buffer. -/
theorem serving_of_provided (hmode : mode = .PROVIDED ∨ mode = .BUF_RING)
    (h : createBufferPayload mode payload_type buffers_obj amount bufsize alloc rand raw =
      some payload) (hfirst : payload.first.isSome = true) : payload.Serving := by
  obtain ⟨hm, -⟩ := createBufferPayload_provided hmode h
  have hshape : payload.payload_type = .PAYLOAD_LINEAR ∧ payload.vector = none := by
    simp only [createBufferPayload, Option.bind_eq_bind, Option.bind_eq_some_iff] at h
    obtain ⟨metadata, -, filled, hfilled, h⟩ := h
    simp only [Option.some.injEq] at h
    subst h
    rcases hmode with rfl | rfl <;>
    · simp only [fillPayload, Option.map_eq_some_iff] at hfilled
      obtain ⟨buffers, -, rfl⟩ := hfilled
      exact ⟨rfl, rfl⟩
  exact
    { normal := fun hnormal => by
        rw [hm] at hnormal
        rcases hmode with rfl | rfl <;> cases hnormal
      linear := fun _ => ⟨hshape.1, hfirst, hshape.2⟩
      pool := fun hfixed => by
        rw [hm] at hfixed
        rcases hmode with rfl | rfl <;> cases hfixed }

/-- A context in `FIXED` mode with `m` buffers, when it was entered: its linear buffers are those of
the payload, and its pool holds the indices below `m`. -/
theorem entered_fixed {m : ℕ} (hpos : 1 ≤ m) (hlt : m < 2^31)
    (hcreate : createBufferPayload .FIXED payload_type buffers_obj amount bufsize alloc rand raw =
      some payload) (hamount : payload.amount = m)
    (henter : bufferModeEnter ring payload env = some entered) :
    entered.payload.mode = .FIXED ∧ entered.payload.payload_type = .PAYLOAD_LINEAR ∧
      (∃ b bs, entered.payload.linear = some (b :: bs) ∧ (b :: bs).length = m) ∧
      ∃ reg, entered.payload.idx_registry = some reg ∧ reg.size = m ∧
        IndexStack.Partition m reg.free [] := by
  obtain ⟨hmode, buffers, hlinear, hlen⟩ := createBufferPayload_fixed hcreate
  have hsize : CInt.toUnsigned payload.amount = m := by
    rw [hamount]
    exact CInt.toUnsigned_natCast (by omega)
  simp only [bufferModeEnter, hmode, Option.bind_eq_bind, Option.bind_eq_some_iff] at henter
  obtain ⟨vector, -, henter⟩ := henter
  split at henter
  · cases henter
  · obtain ⟨reg, hreg, henter⟩ := Option.bind_eq_some_iff.mp henter
    simp only [Option.some.injEq] at henter
    subst henter
    refine ⟨rfl, rfl, ?_, reg, rfl, ?_⟩
    · cases buffers with
      | nil =>
        rw [List.length_nil, hamount] at hlen
        omega
      | cons b bs => exact ⟨b, bs, hlinear, by omega⟩
    · rw [hsize] at hreg
      unfold bufferIdxRegistryCreate at hreg
      simp only [show ¬ m = 0 by omega, if_false, hlt, dif_pos, Option.some.injEq] at hreg
      subst hreg
      exact ⟨rfl, IndexStack.Partition.range m⟩

/-- **Every context that was entered offers this.** The kernel refuses to register no buffers. -/
theorem serving_of_entered
    (hcreate : createBufferPayload mode payload_type buffers_obj amount bufsize alloc rand raw =
      some payload)
    (hkernel : payload.amount < 1 → env.registered < 0)
    (henter : bufferModeEnter ring payload env = some entered) : entered.payload.Serving := by
  cases hm : mode with
  | NORMAL_BUF =>
    subst hm
    obtain ⟨hmode, htype⟩ := createBufferPayload_normal hcreate
    simp only [bufferModeEnter, hmode, Option.some.injEq] at henter
    subst henter
    exact
      { normal := fun _ => htype
        linear := fun hne => absurd hmode hne
        pool := fun hfixed => by rw [hmode] at hfixed; cases hfixed }
  | FIXED =>
    subst hm
    obtain ⟨hmode, buffers, hlinear, hlen⟩ := createBufferPayload_fixed hcreate
    simp only [bufferModeEnter, hmode, Option.bind_eq_bind, Option.bind_eq_some_iff] at henter
    obtain ⟨vector, -, henter⟩ := henter
    split at henter
    · cases henter
    · next hregistered =>
      obtain ⟨pool, -, henter⟩ := Option.bind_eq_some_iff.mp henter
      simp only [Option.some.injEq] at henter
      subst henter
      have hamount : 1 ≤ payload.amount := by
        by_contra hlt
        exact hregistered (hkernel (by omega))
      exact
        { normal := fun hnormal => by cases hnormal
          linear := fun _ => ⟨rfl, first_isSome_of_length hlinear (by omega), rfl⟩
          pool := fun _ => rfl }
  | PROVIDED | BUF_RING =>
    have hprovided : mode = .PROVIDED ∨ mode = .BUF_RING := by simp [hm]
    obtain ⟨hmode, -⟩ := createBufferPayload_provided hprovided hcreate
    rw [hm] at hmode
    simp only [bufferModeEnter, hmode, Option.bind_eq_bind, Option.bind_eq_some_iff] at henter
    obtain ⟨first, hfirst, henter⟩ := henter
    have hpayload : entered.payload = payload := by
      first
        | (split at henter
           · cases henter
           · exact (congrArg Entered.payload (Option.some.inj henter)).symm)
        | exact (congrArg Entered.payload (Option.some.inj henter)).symm
    rw [hpayload]
    exact serving_of_provided hprovided hcreate
      (Option.isSome_iff_exists.mpr ⟨first, Option.bind_eq_some_iff.mpr hfirst⟩)

end Uringio
