import Mathlib.Algebra.Order.Ring.Int
import Mathlib.Data.List.Chain
import Uringio.Buffers.Payload
import Uringio.Ops.Timer

/-!
# Entering a buffer mode

`BufferModeCtx_enter` (and `ExecutionContextCtx_enter`, which does the same with the payload): how
the buffers of a payload are handed to the kernel. `FIXED` registers the array of `iovec`s,
`PROVIDED` queues one entry with a base address and one length, `BUF_RING` adds one ring entry for
each index, at a multiple of one length. What the kernel may then write to is its list of regions.
-/

namespace Uringio

/-- Memory that the kernel may write to: `len` bytes at `addr`. -/
structure KernelRegion where
  /-- Where it starts. -/
  addr : ℤ
  /-- How long it is. -/
  len : ℕ
  deriving DecidableEq

/-- A linear buffer, as memory that the kernel may write to. -/
def LinearBuffer.kernelRegion (b : LinearBuffer) : KernelRegion := ⟨b.buffer, b.len⟩

/-- What provide-buffers makes of `(addr, len, nr)`: `nr` regions of `len` bytes, each `len` bytes
after the one before it. The length travels as an unsigned 32-bit number. -/
def providedRegions (addr : ℕ) (len nr : ℤ) : List KernelRegion :=
  (List.range nr.toNat).map fun i : ℕ => ⟨addr + i * CInt.toUnsigned len, CInt.toUnsigned len⟩

/-- A call of `io_uring_buf_ring_add`. -/
structure BufRingAdd where
  /-- Where the buffer starts. -/
  addr : ℤ
  /-- How long it is. -/
  len : ℕ
  /-- Its id in the ring. -/
  bid : ℕ
  /-- The mask of the ring. -/
  mask : ℤ
  /-- How many buffers were added before it. -/
  buf_offset : ℤ
  deriving DecidableEq

/-- A buffer-ring entry covers the address and the length that it was added with. -/
def BufRingAdd.region (a : BufRingAdd) : KernelRegion := ⟨a.addr, a.len⟩

/-- `init_buf_ring_mode`: the entries that it adds, none when the library cannot set up the ring
(`setup`). The offset `i * len` is computed in `int`: the result is `none` where it overflows and
the program has no defined behaviour. -/
def initBufRingMode (addr : ℕ) (len nentries : ℤ) (setup : Bool) : Option (List BufRingAdd) :=
  if ¬ setup then some []
  else if ∀ i ∈ List.range nentries.toNat, CInt.IsInt ((i : ℕ) * len) then
    some ((List.range nentries.toNat).map fun i : ℕ =>
      ⟨addr + i * len, CInt.toUnsigned len, CInt.toU16 i, nentries - 1, i⟩)
  else none

/-- What entering a context meets: the results of the library's calls. -/
structure EnterEnv where
  /-- The result of `io_uring_register_buffers`. -/
  registered : ℤ
  /-- The result of `io_uring_submit`. -/
  submitted : ℤ
  /-- Whether `io_uring_setup_buf_ring` returns a ring. -/
  setup : Bool

/-- A context that was entered: the payload, the queue, the entries that the kernel consumed and
the regions that it may write to (`none` where the program has no defined behaviour). -/
structure Entered where
  /-- The payload after the enter. -/
  payload : BufferPayload
  /-- The ring after the enter. -/
  ring : Ring
  /-- The entries that the kernel took. -/
  consumed : List (ℕ × Sqe)
  /-- What the kernel registered, if it was asked. -/
  regions : Option (List KernelRegion)

/-- `BufferModeCtx_enter`: `none` when it raises an exception, or would follow a null pointer. -/
def bufferModeEnter (ring : Ring) (payload : BufferPayload) (env : EnterEnv) : Option Entered :=
  match payload.mode with
  | .FIXED => do
    let vector ← payload.vector
    if env.registered < 0 then none
    else do
      let idx_registry ← bufferIdxRegistryCreate (CInt.toUnsigned payload.amount)
      some
        { payload := { payload with
            idx_registry := some idx_registry
            vector := none
            payload_type := .PAYLOAD_LINEAR }
          ring := ring
          consumed := []
          regions := some ((vector.iovecs.take vector.nr_vecs).map fun v =>
            ⟨v.iov_base, v.iov_len⟩) }
  | .PROVIDED => do
    let first ← payload.linear.bind List.head?
    let len := CInt.toInt first.len
    let s := initProvidedMode ring first.buffer len payload.amount payload.bgid env.submitted
    if s.result < 0 then none
    else some ⟨payload, s.ring, s.consumed,
      some (providedRegions first.buffer len payload.amount)⟩
  | .BUF_RING => do
    let first ← payload.linear.bind List.head?
    let adds := initBufRingMode first.buffer (CInt.toInt first.len) payload.amount env.setup
    some ⟨payload, ring, [], adds.map (·.map BufRingAdd.region)⟩
  | .NORMAL_BUF => some ⟨payload, ring, [], some []⟩

/-! ## Who owns the regions -/

/-- The buffers of a payload, as regions. -/
def BufferPayload.owned (payload : BufferPayload) : List KernelRegion :=
  (payload.linear.getD []).map LinearBuffer.kernelRegion

/-- The buffers follow each other in memory at the distance `stride`, and all have length `len`. -/
def LaidOut (stride : ℤ) (len : ℕ) (buffers : List LinearBuffer) : Prop :=
  buffers.IsChain (fun a b => (b.buffer : ℤ) = a.buffer + stride) ∧ ∀ b ∈ buffers, b.len = len

instance (stride : ℤ) (len : ℕ) (buffers : List LinearBuffer) :
    Decidable (LaidOut stride len buffers) := inferInstanceAs (Decidable (_ ∧ _))

/-- The regions at the multiples of a stride are the buffers exactly when the buffers are laid out
at that stride from the same base. -/
theorem strided_eq_iff (base stride : ℤ) (len : ℕ) (buffers : List LinearBuffer) :
    (List.range buffers.length).map (fun i : ℕ => (⟨base + i * stride, len⟩ : KernelRegion)) =
        buffers.map LinearBuffer.kernelRegion ↔
      (∀ b ∈ buffers.head?, (b.buffer : ℤ) = base) ∧ LaidOut stride len buffers := by
  induction buffers generalizing base with
  | nil => simp [LaidOut]
  | cons b bs ih =>
    have hshift : (List.range bs.length).map
        (fun i : ℕ => (⟨base + ((i + 1 : ℕ) : ℤ) * stride, len⟩ : KernelRegion)) =
        (List.range bs.length).map (fun i : ℕ => ⟨base + stride + i * stride, len⟩) := by
      refine List.map_congr_left fun i _ => ?_
      rw [Nat.cast_add, Nat.cast_one, add_mul, one_mul, add_comm _ stride, add_assoc]
    rw [List.length_cons, List.range_succ_eq_map, List.map_cons, List.map_map, List.map_cons,
      List.cons.injEq]
    simp only [Function.comp_def, Nat.succ_eq_add_one]
    rw [hshift, ih (base + stride)]
    simp only [LaidOut, List.isChain_cons, List.head?_cons, Option.mem_some_iff, forall_eq',
      List.mem_cons, forall_eq_or_imp, LinearBuffer.kernelRegion, KernelRegion.mk.injEq]
    constructor
    · rintro ⟨⟨hbase, hlen⟩, hhead, hchain, hall⟩
      have hbase' : (b.buffer : ℤ) = base := by simpa using hbase.symm
      exact ⟨hbase', ⟨fun c hc => by rw [hbase']; exact hhead c hc, hchain⟩, hlen.symm, hall⟩
    · rintro ⟨hbase, ⟨hhead, hchain⟩, hlen, hall⟩
      exact ⟨⟨by simpa using hbase.symm, hlen.symm⟩, fun c hc => by rw [← hbase]; exact hhead c hc,
        hchain, hall⟩

/-- A payload of a provided mode has as many linear buffers as its amount says. -/
theorem createBufferPayload_provided {mode : BufferMode} {payload_type : PayloadType}
    {buffers_obj : Option (List Memory.Region)} {amount bufsize rand : ℤ} {alloc : ℕ → ℕ}
    {raw payload : BufferPayload} (hmode : mode = .PROVIDED ∨ mode = .BUF_RING)
    (h : createBufferPayload mode payload_type buffers_obj amount bufsize alloc rand raw =
      some payload) :
    payload.mode = mode ∧
      ∃ buffers, payload.linear = some buffers ∧ buffers.length = payload.amount.toNat := by
  simp only [createBufferPayload, Option.bind_eq_bind, Option.bind_eq_some_iff] at h
  obtain ⟨metadata, -, filled, hfilled, h⟩ := h
  simp only [Option.some.injEq] at h
  subst h
  refine ⟨rfl, ?_⟩
  -- Both modes put the list that the buffers come from into the payload, as it is.
  rcases hmode with rfl | rfl <;>
  · simp only [fillPayload, Option.map_eq_some_iff] at hfilled
    obtain ⟨buffers, hbuffers, rfl⟩ := hfilled
    exact ⟨buffers, rfl, length_originLinear hbuffers⟩

/-- The products of the indices below `n` with `len` are all `int`s exactly when the last one is. -/
theorem isInt_mul_iff {n : ℕ} (hn : 0 < n) (len : ℤ) :
    (∀ i ∈ List.range n, CInt.IsInt ((i : ℕ) * len)) ↔ CInt.IsInt (((n : ℤ) - 1) * len) := by
  constructor
  · intro h
    have := h (n - 1) (List.mem_range.mpr (by omega))
    rwa [Nat.cast_sub hn, Nat.cast_one] at this
  · intro h i hi
    have hi' : (i : ℤ) ≤ (n : ℤ) - 1 := by have := List.mem_range.mp hi; omega
    have h₀ : (0 : ℤ) ≤ i := Int.natCast_nonneg i
    unfold CInt.IsInt at *
    rcases le_total 0 len with hlen | hlen
    · have := mul_le_mul_of_nonneg_right hi' hlen
      have := mul_nonneg h₀ hlen
      omega
    · have := mul_le_mul_of_nonpos_right hi' hlen
      have := mul_nonpos_of_nonneg_of_nonpos h₀ hlen
      omega

/-- The layout of the buffers under which a mode hands exactly them to the kernel: one block of
buffers of one length that fits 32 bits, and for `BUF_RING` also a ring that could be set up and
offsets that are `int`s. -/
def HandedOver (mode : BufferMode) (setup : Bool) : List LinearBuffer → Prop
  | [] => False
  | first :: rest =>
    first.len < 2^32 ∧
      if mode = .BUF_RING then
        setup = true ∧ CInt.IsInt (rest.length * CInt.toInt first.len) ∧
          LaidOut (CInt.toInt first.len) first.len (first :: rest)
      else LaidOut first.len first.len (first :: rest)

instance (mode : BufferMode) (setup : Bool) :
    (buffers : List LinearBuffer) → Decidable (HandedOver mode setup buffers)
  | [] => inferInstanceAs (Decidable False)
  | _ :: _ => inferInstanceAs (Decidable (_ ∧ ite _ _ _))

variable {ring : Ring} {payload : BufferPayload} {env : EnterEnv} {entered : Entered}

/-- The regions of an entered provided mode: the strided regions of the first buffer. -/
theorem bufferModeEnter_regions {first : LinearBuffer} {rest : List LinearBuffer}
    (hlinear : payload.linear = some (first :: rest))
    (hamount : payload.amount = (first :: rest).length)
    (hmode : payload.mode = .PROVIDED ∨ payload.mode = .BUF_RING)
    (h : bufferModeEnter ring payload env = some entered) :
    entered.regions = some payload.owned ↔
      HandedOver payload.mode env.setup (first :: rest) := by
  have hn : (payload.amount).toNat = (first :: rest).length := by omega
  have howned : payload.owned = (first :: rest).map LinearBuffer.kernelRegion := by
    simp [BufferPayload.owned, hlinear]
  have hunsigned : CInt.toUnsigned (CInt.toInt first.len) = CInt.toUnsigned first.len :=
    CInt.toUnsigned_toInt _
  -- The first region has the first buffer's length only if the length fits.
  have hfits : ∀ {stride : ℤ}, LaidOut stride (CInt.toUnsigned first.len) (first :: rest) →
      first.len < 2^32 := by
    intro stride hlaid
    have hfirst := hlaid.2 first (List.mem_cons_self ..)
    have := CInt.toUnsigned_lt first.len
    omega
  rcases hmode with hmode | hmode
  · simp only [bufferModeEnter, hmode, hlinear, Option.bind_eq_bind, Option.bind_some,
      List.head?_cons] at h
    split at h
    · cases h
    · cases h
      simp only [HandedOver, hmode, reduceCtorEq, if_false, Option.some.injEq, howned,
        providedRegions, hn, hunsigned]
      rw [strided_eq_iff]
      simp only [List.head?_cons, Option.mem_some_iff, forall_eq', true_and]
      constructor
      · intro hlaid
        have hlt := hfits hlaid
        rw [CInt.toUnsigned_natCast hlt] at hlaid
        exact ⟨hlt, hlaid⟩
      · rintro ⟨hlt, hlaid⟩
        rwa [CInt.toUnsigned_natCast hlt]
  · simp only [bufferModeEnter, hmode, hlinear, Option.bind_eq_bind, Option.bind_some,
      List.head?_cons, Option.some.injEq] at h
    subst h
    simp only [HandedOver, hmode, if_true, initBufRingMode, hn, hunsigned]
    have hint_iff := isInt_mul_iff (List.length_pos_of_ne_nil (List.cons_ne_nil first rest))
      (CInt.toInt first.len)
    rw [show (((first :: rest).length : ℤ) - 1) = rest.length by simp] at hint_iff
    cases hsetup : env.setup with
    | false => simp [howned]
    | true =>
      simp only [not_true, if_false, true_and]
      split
      · next hint =>
        simp only [Option.map_some, Option.some.injEq, List.map_map, Function.comp_def,
          BufRingAdd.region, howned]
        rw [strided_eq_iff]
        simp only [List.head?_cons, Option.mem_some_iff, forall_eq', true_and]
        constructor
        · intro hlaid
          have hlt := hfits hlaid
          rw [CInt.toUnsigned_natCast hlt] at hlaid
          exact ⟨hlt, hint_iff.mp hint, hlaid⟩
        · rintro ⟨hlt, -, hlaid⟩
          rwa [CInt.toUnsigned_natCast hlt]
      · next hint => simp [mt hint_iff.mpr hint]

/-- **Provided memory is owned memory exactly when the buffers are one block.** For every payload
that `create_buffer_payload` builds in a provided mode, the regions handed to the kernel on entering
the context are the payload's buffers exactly when the buffers are laid out as `HandedOver` says. -/
theorem regions_owned_iff {mode : BufferMode} {payload_type : PayloadType}
    {buffers_obj : Option (List Memory.Region)} {amount bufsize rand : ℤ} {alloc : ℕ → ℕ}
    {raw : BufferPayload} (hmode : mode = .PROVIDED ∨ mode = .BUF_RING)
    (hcreate : createBufferPayload mode payload_type buffers_obj amount bufsize alloc rand raw =
      some payload)
    (hpos : 1 ≤ payload.amount) (henter : bufferModeEnter ring payload env = some entered) :
    entered.regions = some payload.owned ↔
      HandedOver mode env.setup (payload.linear.getD []) := by
  obtain ⟨rfl, buffers, hlinear, hlength⟩ := createBufferPayload_provided hmode hcreate
  cases buffers with
  | nil =>
    simp only [List.length_nil] at hlength
    omega
  | cons first rest =>
    rw [hlinear, Option.getD_some]
    exact bufferModeEnter_regions hlinear (by omega) hmode henter

/-- Three buffers that the runtime took from one block. -/
def pool : Option BufferPayload :=
  createBufferPayload .BUF_RING .PAYLOAD_LINEAR none 3 1024 (fun i => 65536 + 1024 * i) 0 .zero

/-- Three buffers of one block are handed to the kernel as they are. -/
theorem regions_owned_pool :
    ((bufferModeEnter (.replicate 7 .zero) (pool.get (by decide)) ⟨0, 1, true⟩).get
      (by decide)).regions = some (pool.get (by decide)).owned :=
  (regions_owned_iff (.inr rfl) (Option.some_get _).symm (by decide)
    (Option.some_get _).symm).mpr (by decide)

/-- Two buffers of the user, at different places and of different lengths. -/
def scattered : Option BufferPayload :=
  createBufferPayload .PROVIDED .PAYLOAD_LINEAR (some [⟨1000, 16⟩, ⟨5000, 8⟩]) 3 1024 (fun _ => 0) 7
    .zero

/-- The kernel is given 16 bytes behind the first buffer, which neither buffer contains, in place
of the second buffer. -/
theorem regions_not_owned_scattered :
    let entered :=
      (bufferModeEnter (.replicate 7 .zero) (scattered.get (by decide)) ⟨0, 1, true⟩).get
        (by decide)
    entered.regions = some [⟨1000, 16⟩, ⟨1016, 16⟩] ∧
      (scattered.get (by decide)).owned = [⟨1000, 16⟩, ⟨5000, 8⟩] ∧
      entered.regions ≠ some (scattered.get (by decide)).owned := by
  decide

end Uringio
