import Uringio.Buffers.Filled

/-!
# The records that the constructors leave

`Payload.lean` builds the fields of a payload where nothing fails; `Construct.lean` follows the
blocks and the views behind them. The two agree: what a constructor that returns has left, with the
addresses of its blocks in place of their names (`Payload.record`), is what the function of
`Payload.lean` builds from the regions of the items and from these addresses. A sequence is given
there by its regions, and one with more items than an `int` counts by regions of which only the
first ones matter (`Denotes`). What is built from a content comes first, then
`create_buffer_payload` (`Request.ensures_create`, `BufferArgs.ensures_create`), and at the end the
payloads of a call.
-/

namespace Uringio.Blocks

open Ledger
open Memory (Region)

/-! ## Records -/

/-- Where a pointer to bytes points, when the block `b` is at the address `addr b`. -/
def Base.addr (addr : ℕ → ℕ) : Base → ℕ
  | .null => 0
  | .user a => a
  | .runtime b => addr b

/-- An element of an array of `LinearBuffer`. -/
def Entry.linear (addr : ℕ → ℕ) (e : Entry) : LinearBuffer := ⟨e.base.addr addr, e.len⟩

/-- An element of an array of `iovec`. -/
def Entry.iovec (addr : ℕ → ℕ) (e : Entry) : Iovec := ⟨e.base.addr addr, e.len⟩

/-- The elements of an array of `LinearBuffer` that are set. -/
def LinearArray.record (addr : ℕ → ℕ) (array : LinearArray) : List LinearBuffer :=
  array.cells.filterMap (Option.map (Entry.linear addr))

/-- A `VectoredBuffer` with the elements of its array that are set. -/
def Vectored.record (addr : ℕ → ℕ) (vector : Vectored) : VectoredBuffer where
  iovecs := (vector.iovecs.getD none).elim [] fun array =>
    array.cells.filterMap (Option.map (Entry.iovec addr))
  nr_vecs := vector.nr_vecs.getD 0

/-- A payload in memory that held `raw` before. -/
def Payload.record (addr : ℕ → ℕ) (raw : BufferPayload) (p : Payload) : BufferPayload where
  payload_type := p.payload_type.getD raw.payload_type
  payload_origin := p.payload_origin.getD raw.payload_origin
  mode := p.mode.getD raw.mode
  amount := p.amount.getD raw.amount
  linear := p.linear.elim raw.linear (Option.map (LinearArray.record addr))
  vector := p.vector.elim raw.vector (Option.map (Vectored.record addr))
  idx_registry := raw.idx_registry
  buf_idx := raw.buf_idx
  bgid := p.bgid.getD raw.bgid

/-- The argument `buffers`, as regions: of the `len` items that are used each is one that the item
had at some acquisition. -/
structure Denotes (env : BuildEnv) (len : ℤ) (sequence : Option ℕ)
    (buffers_obj : Option (List Region)) : Prop where
  /-- There are as many regions as the sequence has items. -/
  length : buffers_obj.map List.length = sequence
  /-- The regions of the first items are those that the fetches find. -/
  regions : ∀ regions ∈ buffers_obj, ∀ i < len.toNat, ∃ k, env.region k i = regions[i]?

variable {env : BuildEnv} {len bufsize : ℤ} {n : ℕ} {origin : PayloadOrigin} {c : Content}
  {sequence : Option ℕ} (addr : ℕ → ℕ)

/-- The regions of a content, among those of a sequence. -/
def Content.regions : Content → Option ℕ → Option (List Region)
  | user vs, some n =>
    some (vs.map View.region ++ List.replicate (n - vs.length) ⟨0, 0⟩)
  | _, _ => none

/-- Where the buffers of the runtime are. -/
def Content.alloc : Content → ℕ → ℕ
  | user _, _ => 0
  | runtime _ bs, i => addr (bs.getD i 0)

/-- The items that views describe, from the position `i` on. -/
theorem BuildEnv.Describes.region {i j : ℕ} {vs : List View} (h : env.Describes i vs)
    (hj : j < vs.length) : ∃ k, env.region k (i + j) = (vs.map View.region)[j]? := by
  induction vs generalizing i j with
  | nil => exact absurd hj (Nat.not_lt_zero j)
  | cons v vs ih =>
    cases j with
    | zero => exact ⟨v.name, h.1⟩
    | succ j =>
      obtain ⟨k, hk⟩ := ih h.2 (Nat.lt_of_succ_lt_succ hj)
      refine ⟨k, ?_⟩
      rw [show i + (j + 1) = i + 1 + j by omega]
      exact hk

/-- The content of the user is what the sequence denotes. -/
theorem Filled.denotes (h : Filled env len.toNat bufsize (originOf sequence) c)
    (hlen : ∀ n ∈ sequence, len.toNat ≤ n) : Denotes env len sequence (c.regions sequence) := by
  cases sequence with
  | none =>
    cases h
    exact ⟨rfl, fun _ hmem => by cases hmem⟩
  | some n =>
    have hle := hlen n rfl
    generalize horigin : originOf (some n) = origin at h
    cases h with
    | runtime => cases horigin
    | @user vs hlength hdescribes =>
      refine ⟨?_, fun regions hregions i hi => ?_⟩
      · simp only [Content.regions, Option.map_some, List.length_append, List.length_map,
          List.length_replicate]
        exact congrArg some (by omega)
      · obtain rfl := Option.some.inj hregions
        obtain ⟨k, hk⟩ := hdescribes.region (hlength.symm ▸ hi)
        refine ⟨k, ?_⟩
        rw [Nat.zero_add] at hk
        rw [hk, List.getElem?_append_left (by rwa [List.length_map, hlength])]

/-! ## What is built from a content -/

/-- The elements of a content. -/
def Content.buffers (c : Content) : List LinearBuffer := c.entries.map (Entry.linear addr)

/-- All elements of an array that was filled are set. -/
theorem filterMap_cells {α : Type} (f : Entry → α) (c : Content) :
    c.cells.filterMap (Option.map f) = c.entries.map f := by
  rw [Content.cells, List.filterMap_map]
  exact congrFun List.filterMap_eq_map' c.entries

/-- The bytes that the runtime allocated are at the addresses of their blocks. -/
theorem buffers_runtime
    (h : Filled env len.toNat bufsize .PAYLOAD_RUNTIME c) :
    Uringio.createLinearBuffers len bufsize (c.alloc addr) = c.buffers addr := by
  cases h with
  | @runtime bs hlength =>
    refine List.ext_getElem ?_ fun i hi hi' => ?_
    · simp [Uringio.createLinearBuffers, Content.buffers, Content.entries, hlength]
    · have hbs : i < bs.length := by
        simpa [Content.buffers, Content.entries] using hi'
      simp [Uringio.createLinearBuffers, Content.buffers, Content.entries, entriesOf, Content.alloc,
        Entry.linear, Base.addr, hbs]

/-- The user's are where its objects have them. -/
theorem buffers_user (hlen : 0 ≤ len) (hn : len ≤ n)
    (h : Filled env len.toNat bufsize .PAYLOAD_USER c) :
    ∃ regions, c.regions (some n) = some regions ∧ regions.length = n ∧
      Uringio.serializeLinearBuffers regions len = some (c.buffers addr) := by
  cases h with
  | @user vs hlength _ =>
    have hcount : vs.length + (n - vs.length) = n := by omega
    refine ⟨_, rfl, by simpa using hcount, ?_⟩
    have htake : (vs.map View.region ++
        List.replicate (n - vs.length) (⟨0, 0⟩ : Region)).take len.toNat = vs.map View.region :=
      List.take_left' (by simpa using hlength)
    rw [Uringio.serializeLinearBuffers, if_neg (by simp; omega), htake]
    simp [Content.buffers, Content.entries, View.entry, Entry.linear, Base.addr]

/-- The record of a linear array of a content. -/
theorem record_linear {array : LinearArray} (hcells : array.cells = c.cells) :
    array.record addr = c.buffers addr := by
  rw [LinearArray.record, hcells, filterMap_cells]
  rfl

/-- A linear buffer, as an element of an array of `iovec`. -/
def asIovec (b : LinearBuffer) : Iovec := ⟨b.buffer, b.len⟩

/-- The record of a vector of a content. -/
theorem record_vector {vector : Vectored} {iovecs : IovecArray}
    (hnr_vecs : vector.nr_vecs = some (CInt.toUnsigned len))
    (hiovecs : vector.iovecs = some (some iovecs)) (hcells : iovecs.cells = c.cells) :
    vector.record addr = ⟨(c.buffers addr).map asIovec, CInt.toUnsigned len⟩ := by
  simp only [Vectored.record, hiovecs, hnr_vecs, hcells, Option.getD_some, Option.elim_some,
    filterMap_cells, Content.buffers, List.map_map]
  rfl

/-! ## The records of payloads -/

section Records

variable {metadata : BufferMetadata} {mode : BufferMode} {payload_type filled_type : PayloadType}
    {rand : ℤ}
  {payload filled : Payload} {raw : BufferPayload}

/-- What is built from a content, by its origin. -/
theorem originLinear_content (horigin : metadata.payload_origin = originOf sequence)
    (hlen : ∀ n ∈ sequence, metadata.amount ≤ n) (hpos : 0 ≤ metadata.amount)
    (h : Filled env metadata.amount.toNat metadata.bufsize metadata.payload_origin c) :
    originLinear (c.regions sequence) metadata (c.alloc addr) = some (c.buffers addr) := by
  rw [horigin] at h
  cases sequence with
  | none =>
    have hbuffers := buffers_runtime addr h
    cases h
    exact congrArg some hbuffers
  | some n =>
    obtain ⟨regions, hregions, -, hbuffers⟩ := buffers_user addr hpos (hlen n rfl) h
    rw [hregions]
    exact hbuffers

/-- Both arrays of a payload come from the linear one. -/
theorem originBoth_of_originLinear {buffers_obj : Option (List Region)} {alloc : ℕ → ℕ}
    {buffers : List LinearBuffer} (h : originLinear buffers_obj metadata alloc = some buffers)
    (p : BufferPayload) :
    originBoth buffers_obj metadata alloc p = some (p.withBuffers buffers metadata.amount) := by
  cases buffers_obj with
  | none =>
    rw [← Option.some.inj h]
    rfl
  | some regions => exact congrArg (Option.map _) h

/-- **What is filled** is what `fillPayload` of `Payload.lean` fills, but for the fields that are
set at the end. -/
theorem Fills.record (payload_type : PayloadType) (raw : BufferPayload)
    (h : Fills env metadata rand payload mode filled filled_type)
    (hbgid : payload.bgid = some 0) (horigin : metadata.payload_origin = originOf sequence)
    (hlen : ∀ n ∈ sequence, metadata.amount ≤ n) :
    ∃ buffers_obj alloc, Denotes env metadata.amount sequence buffers_obj ∧
      Uringio.fillPayload mode payload_type buffers_obj metadata alloc rand { raw with bgid := 0 } =
        some ({ filled.record addr raw with
          payload_type := raw.payload_type
          payload_origin := raw.payload_origin
          mode := raw.mode
          amount := raw.amount }, filled_type) := by
  have hdenotes : ∀ c, 0 ≤ metadata.amount →
      Filled env metadata.amount.toNat metadata.bufsize metadata.payload_origin c →
      Denotes env metadata.amount sequence (c.regions sequence) := fun c hpos hc => by
    rw [horigin] at hc
    refine hc.denotes fun n hn => ?_
    have hle := hlen n hn
    omega
  cases h with
  | both hmode stores =>
    obtain ⟨-, hpos, c, array, vector, iovecs, hc, hcells, hnr_vecs, hiovecs, hcells',
        rfl⟩ := stores
    have hlinear := originLinear_content addr horigin hlen hpos hc
    have hboth := originBoth_of_originLinear hlinear { raw with bgid := 0 }
    have harray := record_linear addr hcells
    have hvector := record_vector addr hnr_vecs hiovecs hcells'
    refine ⟨_, c.alloc addr, hdenotes c hpos hc, ?_⟩
    have hfill : Uringio.fillPayload mode payload_type (c.regions sequence) metadata
        (c.alloc addr) rand { raw with bgid := 0 } = some (BufferPayload.withBuffers
          { raw with bgid := 0 } (c.buffers addr) metadata.amount, .PAYLOAD_LINEAR_AND_IOVEC) := by
      unfold Uringio.fillPayload
      rcases hmode with rfl | rfl
      · simp only [hlinear, hboth, Option.bind_some, Option.map_some, ite_self]
      · simp only [hboth, Option.map_some]
    rw [hfill]
    simp only [Payload.record, BufferPayload.withBuffers, Option.elim_some, Option.map_some, harray,
      hvector, hbgid, Option.getD_some]
    rfl
  | @linear bgid c array hmode hpos hc hcells =>
    have hlinear := originLinear_content addr horigin hlen hpos.le hc
    have harray := record_linear addr hcells
    refine ⟨_, c.alloc addr, hdenotes c hpos.le hc, ?_⟩
    unfold Uringio.fillPayload
    rcases hmode with ⟨rfl, rfl⟩ | ⟨rfl, rfl⟩
    · simp only [hlinear, Option.map_some, Payload.record, Option.elim_some, harray,
        Option.getD_some, Option.map_none]
    · simp only [hlinear, Option.map_some, Payload.record, Option.elim_some, harray, hbgid,
        Option.getD_some, Option.map_none]

end Records


/-- **`create_buffer_payload`** after its metadata. -/
theorem ensures_createFrom {mode : BufferMode} {payload_type : PayloadType} {rand : ℤ}
    {fresh : ℕ → Payload} {metadata : BufferMetadata} (raw : BufferPayload)
    (horigin : metadata.payload_origin = originOf sequence)
    (hlen : ∀ n ∈ sequence, metadata.amount ≤ n) :
    Ensures (createFrom env mode payload_type sequence rand fresh metadata) fun r => ∀ p ∈ r,
      (metadata.payload_origin = .PAYLOAD_USER → 0 < metadata.amount) ∧
      ∃ buffers_obj alloc, Denotes env metadata.amount sequence buffers_obj ∧
        ((Uringio.fillPayload mode payload_type buffers_obj metadata alloc rand
          { raw with bgid := 0 }).map fun filled => { filled.1 with
            amount := metadata.amount
            payload_origin := metadata.payload_origin
            mode := mode
            payload_type := filled.2 }) = some (p.record addr raw) := by
  refine .right fun block => ?_
  cases block with
  | none => exact .pure fun _ h => by cases h
  | some block =>
    refine (ensures_fillPayload { fresh block with bgid := some 0 }).bind fun r hr =>
      .pure fun p hp => ?_
    obtain ⟨filled, hfilled, rfl⟩ := Option.map_eq_some_iff.mp hp
    have hfills := hr filled hfilled
    obtain ⟨buffers_obj, alloc, hdenotes, hfill⟩ :=
      hfills.record addr payload_type raw rfl horigin hlen
    refine ⟨hfills.amount, buffers_obj, alloc, hdenotes, ?_⟩
    rw [hfill]
    rfl

/-- The number of a sequence as an `int` is not larger than the number. -/
theorem toInt_le (n : ℕ) : CInt.toInt n ≤ n := by
  have hint := CInt.isInt_toInt n
  have hmod := CInt.toInt_emod n
  unfold CInt.IsInt at hint
  omega

/-- The metadata of a sequence whose length is not zero as an `int`. -/
def metadataOf (sequence : Option ℕ) (amount bufsize : ℤ) : BufferMetadata :=
  match sequence with
  | none => ⟨.PAYLOAD_RUNTIME, amount, bufsize⟩
  | some n => ⟨.PAYLOAD_USER, CInt.toInt n, CInt.toInt (Int.tdiv n (CInt.toInt n))⟩

/-- They are read from the regions as well. -/
theorem getBufferMetadata_denotes {buffers_obj : Option (List Region)} (amount bufsize : ℤ)
    (hdenotes : Denotes env len sequence buffers_obj) (hzero : ∀ n ∈ sequence, CInt.toInt n ≠ 0) :
    Uringio.getBufferMetadata buffers_obj amount bufsize =
      some (metadataOf sequence amount bufsize) := by
  have hobj := hdenotes.length
  cases sequence with
  | none =>
    rw [Option.map_eq_none_iff.mp hobj]
    rfl
  | some n =>
    obtain ⟨regions, rfl, hregions⟩ := Option.map_eq_some_iff.mp hobj
    simp only [Uringio.getBufferMetadata, hregions, if_neg (hzero n rfl), metadataOf]

/-- **`create_buffer_payload`.** A payload that it returns is the one of `Payload.lean`, from the
regions that the items have and the addresses of the blocks. -/
theorem Request.ensures_create (r : Request) (env : BuildEnv) (raw : BufferPayload) :
    Ensures (r.create env) fun result => ∀ p ∈ result, ∃ buffers_obj alloc,
      Denotes env r.metadata.amount r.sequence buffers_obj ∧
      Uringio.createBufferPayload r.mode r.payload_type buffers_obj r.amount r.bufsize alloc r.rand
        raw = some (p.record addr raw) := by
  have hmetadata : Ensures (getBufferMetadata r.sequence r.amount r.bufsize) fun metadata =>
      metadata = r.metadata ∧ ∀ n ∈ r.sequence, CInt.toInt n ≠ 0 := by
    unfold getBufferMetadata Request.metadata
    cases r.sequence with
    | none => exact .pure ⟨rfl, fun n h => by cases h⟩
    | some n =>
      dsimp only
      split
      · exact .stop _
      · next hne => exact .pure ⟨rfl, fun m hm => Option.some.inj hm ▸ hne⟩
  have hlen : ∀ n ∈ r.sequence, r.metadata.amount ≤ n := fun n hn => by
    rw [r.amount_eq n hn]
    exact toInt_le n
  rw [Request.create, createBufferPayload_eq]
  refine hmetadata.bind fun metadata h => ?_
  obtain ⟨rfl, hzero⟩ := h
  refine (ensures_createFrom addr raw r.origin_eq hlen).mono fun result hresult p hp => ?_
  obtain ⟨-, buffers_obj, alloc, hdenotes, hfill⟩ := hresult p hp
  refine ⟨buffers_obj, alloc, hdenotes, ?_⟩
  have hgot : Uringio.getBufferMetadata buffers_obj r.amount r.bufsize = some r.metadata :=
    getBufferMetadata_denotes r.amount r.bufsize hdenotes hzero
  rw [← hfill, Uringio.createBufferPayload, hgot, Option.bind_eq_bind, Option.bind_some]
  cases Uringio.fillPayload r.mode r.payload_type buffers_obj r.metadata alloc r.rand
    { raw with bgid := 0 } <;> rfl

/-- So is one that is created in memory that held something before, from whatever was given as
`buffers`. -/
theorem BufferArgs.ensures_create (a : BufferArgs) (env : BuildEnv) (g : Garbage)
    (raw : BufferPayload) :
    Ensures (a.create env g) fun result => ∀ p ∈ result, ∃ buffers_obj alloc,
      Denotes env a.metadata.amount a.buffers.items buffers_obj ∧
      Uringio.createBufferPayload a.mode a.payload_type buffers_obj a.amount a.bufsize alloc a.rand
        raw = some (p.record addr raw) := by
  have hmetadata : Ensures a.getBufferMetadata fun metadata => metadata = a.metadata ∧
      ∀ n, a.buffers = .sequence n → CInt.toInt n ≠ 0 := by
    unfold getBufferMetadata Blocks.getBufferMetadata metadata
    cases a.buffers with
    | absent => exact .pure ⟨rfl, fun n h => by cases h⟩
    | unsized items => exact .pure ⟨rfl, fun n h => by cases h⟩
    | sequence n =>
      dsimp only
      split
      · exact .stop _
      · next hne =>
        refine .pure ⟨rfl, fun m h => ?_⟩
        cases h
        exact hne
  have horigin : a.metadata.payload_origin = originOf a.buffers.items := by
    unfold BufferArgs.metadata BuffersArg.items
    cases a.buffers <;> rfl
  have hlen : ∀ n ∈ a.buffers.items, a.metadata.amount ≤ n := by
    intro n hn
    cases hbuffers : a.buffers with
    | absent =>
      rw [hbuffers] at hn
      cases hn
    | unsized items =>
      unfold BufferArgs.metadata
      rw [hbuffers]
      exact Int.natCast_nonneg n
    | sequence m =>
      rw [hbuffers] at hn
      obtain rfl : m = n := Option.some.inj hn
      rw [a.amount_sequence hbuffers]
      exact toInt_le m
  refine hmetadata.bind fun metadata h => ?_
  obtain ⟨rfl, hlength⟩ := h
  refine (ensures_createFrom addr raw horigin hlen).mono fun result hresult p hp => ?_
  obtain ⟨hpos, buffers_obj, alloc, hdenotes, hfill⟩ := hresult p hp
  refine ⟨buffers_obj, alloc, hdenotes, ?_⟩
  have hgot : Uringio.getBufferMetadata buffers_obj a.amount a.bufsize = some a.metadata := by
    unfold BufferArgs.metadata at hpos hdenotes ⊢
    cases hbuffers : a.buffers with
    | absent =>
      rw [hbuffers] at hdenotes
      exact getBufferMetadata_denotes a.amount a.bufsize hdenotes fun n hn => by cases hn
    | unsized items =>
      -- Without a length, nothing is built.
      rw [hbuffers] at hpos
      exact absurd (hpos rfl) (lt_irrefl 0)
    | sequence n =>
      rw [hbuffers] at hdenotes
      exact getBufferMetadata_denotes a.amount a.bufsize hdenotes fun m hm =>
        Option.some.inj hm ▸ hlength n hbuffers
  rw [← hfill, Uringio.createBufferPayload, hgot, Option.bind_eq_bind, Option.bind_some]
  cases Uringio.fillPayload a.mode a.payload_type buffers_obj a.metadata alloc a.rand
    { raw with bgid := 0 } <;> rfl

/-! ## The payloads of a call -/

/-- What `get_or_create_linear_buffer` sets at its end. -/
def stampLinear (sequence : Option ℕ) (payload : Payload) : Payload :=
  { payload with
    amount := some 1
    mode := some .NORMAL_BUF
    payload_origin := some (originOf sequence)
    payload_type := some .PAYLOAD_LINEAR }

/-- The record of a new payload with an array. -/
theorem StoresLinear.record {block : ℕ} {r : Option LinearArray × Payload} {raw : BufferPayload}
    (h : StoresLinear env 1 bufsize (originOf sequence) (.new block) r)
    (hitems : ∀ n ∈ sequence, 1 ≤ n) (hlinear : r.2.linear.isSome) :
    ∃ buffers_obj alloc, Denotes env 1 sequence buffers_obj ∧
      (stampLinear sequence r.2).record addr raw =
        Uringio.newLinearBuffer buffers_obj bufsize alloc raw := by
  obtain ⟨array?, payload⟩ := r
  cases array? with
  | none =>
    -- The function does not look at the failure, and the field is not set.
    rw [show payload = .new block from h.kept rfl] at hlinear
    cases hlinear
  | some array =>
    obtain ⟨-, c, hc, hcells, hpayload⟩ := h.stored array rfl
    obtain rfl : payload = _ := hpayload
    have harray := record_linear addr hcells
    refine ⟨_, c.alloc addr, hc.denotes hitems, ?_⟩
    cases sequence with
    | none =>
      have hbuffers := buffers_runtime addr hc
      cases hc
      simp only [Uringio.newLinearBuffer, Content.regions, hbuffers, Payload.record, stampLinear,
        Payload.new, Option.elim_some, Option.map_some, harray]
      rfl
    | some n =>
      obtain ⟨regions, hregions, -, hbuffers⟩ :=
        buffers_user addr Int.one_nonneg (Int.ofNat_le.mpr (hitems n rfl)) hc
      rw [hregions]
      simp only [Uringio.newLinearBuffer, hbuffers, Payload.record, stampLinear, Payload.new,
        Option.elim_some, Option.map_some, harray]
      rfl

/-- **`get_or_create_linear_buffer`.** A new payload with an array is the one of `Payload.lean`; a
sequence has an item where one was fetched. -/
theorem ensures_newLinearBuffer (raw : BufferPayload) (hitems : ∀ n ∈ sequence, 1 ≤ n) :
    Ensures (newLinearBuffer env sequence bufsize) fun result => ∀ p ∈ result, p.linear.isSome →
      ∃ buffers_obj alloc, Denotes env 1 sequence buffers_obj ∧
        p.record addr raw = Uringio.newLinearBuffer buffers_obj bufsize alloc raw := by
  have hrecord : ∀ (block : ℕ) (r : Option LinearArray × Payload),
      StoresLinear env 1 bufsize (originOf sequence) (.new block) r →
      ∀ p ∈ some (stampLinear sequence r.2), p.linear.isSome →
        ∃ buffers_obj alloc, Denotes env 1 sequence buffers_obj ∧
          p.record addr raw = Uringio.newLinearBuffer buffers_obj bufsize alloc raw := by
    intro block r hr p hp hlinear
    obtain rfl := Option.some.inj hp
    exact hr.record addr hitems hlinear
  refine .right fun block => ?_
  cases block with
  | none => exact .pure fun _ h => by cases h
  | some block =>
    cases sequence with
    | none => exact (ensures_createLinearBuffers _).bind fun r hr => .pure (hrecord block r hr)
    | some n => exact (ensures_serializeLinearBuffers _).bind fun r hr => .pure (hrecord block r hr)

/-- How many elements a new vector has. -/
def newVecs : Option ℕ → ℤ
  | none => 1
  | some n => CInt.toInt n

/-- The vectors of a sequence are as many as its items. -/
theorem newVecs_le : ∀ n ∈ sequence, newVecs sequence ≤ n := by
  intro n hn
  obtain rfl : sequence = some n := hn
  rw [newVecs]
  exact toInt_le n

/-- The vector that is built from a content, by its origin. -/
theorem newVectoredBuffer_content (hpos : 0 ≤ newVecs sequence)
    (h : Filled env (newVecs sequence).toNat 1024 (originOf sequence) c) :
    Uringio.newVectoredBuffer (c.regions sequence) (c.alloc addr) = { BufferPayload.zero with
      vector := some ⟨(c.buffers addr).map asIovec, CInt.toUnsigned (newVecs sequence)⟩
      amount := CInt.toInt (CInt.toUnsigned (newVecs sequence))
      mode := .NORMAL_BUF
      payload_origin := originOf sequence
      payload_type := .PAYLOAD_IOVEC } := by
  cases sequence with
  | none =>
    have hbuffers := buffers_runtime addr h
    cases h
    rw [← hbuffers]
    simp [Uringio.newVectoredBuffer, Content.regions, Uringio.createVectoredBuffers,
      Uringio.createLinearBuffers, asIovec, newVecs, originOf]
  | some n =>
    obtain ⟨regions, hregions, hlength, hbuffers⟩ :=
      buffers_user addr hpos (newVecs_le n rfl) h
    rw [Uringio.serializeLinearBuffers] at hbuffers
    split at hbuffers
    · cases hbuffers
    · rw [hregions, ← Option.some.inj hbuffers, Uringio.newVectoredBuffer]
      simp only [Uringio.serializeVectoredBuffers, hlength, List.map_map]
      rfl

/-- The fields of a new payload with a vector. -/
theorem record_newVector (block : ℕ) (vector : Vectored) (amount : ℤ) (origin : PayloadOrigin) :
    Payload.record addr .zero { Payload.zero block with
      vector := some (some vector)
      amount := some amount
      mode := some .NORMAL_BUF
      payload_origin := some origin
      payload_type := some .PAYLOAD_IOVEC } = { BufferPayload.zero with
      vector := some (vector.record addr)
      amount := amount
      mode := .NORMAL_BUF
      payload_origin := origin
      payload_type := .PAYLOAD_IOVEC } := rfl

/-- The record of a new payload with a vector. -/
theorem StoresVector.record {block : ℕ} {vector : Vectored} {payload : Payload}
    (h : StoresVector env (newVecs sequence) 1024 (originOf sequence) (.zero block)
      (some vector, payload)) :
    ∃ nr_vecs, vector.nr_vecs = some nr_vecs ∧ ∃ buffers_obj alloc,
      Denotes env (newVecs sequence) sequence buffers_obj ∧
        Payload.record addr .zero { payload with
          amount := some (CInt.toInt nr_vecs)
          mode := some .NORMAL_BUF
          payload_origin := some (originOf sequence)
          payload_type := some .PAYLOAD_IOVEC } =
        Uringio.newVectoredBuffer buffers_obj alloc := by
  obtain ⟨hpos, c, hc, hnr_vecs, ⟨iovecs, hiovecs, hcells⟩, rfl⟩ := h vector rfl
  refine ⟨_, hnr_vecs, _, c.alloc addr, hc.denotes fun n hn => ?_, ?_⟩
  · have hle := newVecs_le n hn
    omega
  · have hvector := record_vector addr hnr_vecs hiovecs hcells
    rw [newVectoredBuffer_content addr hpos hc, ← hvector]
    exact record_newVector addr block vector _ _

/-- **`get_or_create_vectored_buffer`.** A new payload is the one of `Payload.lean`. -/
theorem ensures_newVectoredBuffer :
    Ensures (newVectoredBuffer env sequence) fun result => ∀ p ∈ result, ∃ buffers_obj alloc,
      Denotes env (newVecs sequence) sequence buffers_obj ∧
        p.record addr .zero = Uringio.newVectoredBuffer buffers_obj alloc := by
  have htail : ∀ (block : ℕ) (vector : Vectored) (payload : Payload),
      StoresVector env (newVecs sequence) 1024 (originOf sequence) (.zero block)
        (some vector, payload) →
      Ensures (do
        let nr_vecs ← read vector.nr_vecs
        pure (some { payload with
          amount := some (CInt.toInt nr_vecs)
          mode := some .NORMAL_BUF
          payload_origin := some (originOf sequence)
          payload_type := some .PAYLOAD_IOVEC })) fun result => ∀ p ∈ result,
        ∃ buffers_obj alloc, Denotes env (newVecs sequence) sequence buffers_obj ∧
          p.record addr .zero = Uringio.newVectoredBuffer buffers_obj alloc := by
    intro block vector payload hr
    obtain ⟨nr_vecs, hnr_vecs, hrecord⟩ := hr.record addr
    rw [hnr_vecs, read_some, pure_bind]
    refine .pure fun p hp => ?_
    obtain rfl := Option.some.inj hp
    exact hrecord
  refine .right fun block => ?_
  cases block with
  | none => exact .pure fun _ h => by cases h
  | some block =>
    cases sequence with
    | none =>
      refine (ensures_createVectoredBuffers _).bind fun r hr => ?_
      obtain ⟨_ | vector, payload⟩ := r
      · exact .right fun _ => .pure fun _ h => by cases h
      · exact htail block vector payload hr
    | some n =>
      refine (ensures_serializeVectoredBuffers 1024 _).bind fun r hr => ?_
      obtain ⟨_ | vector, payload⟩ := r
      · exact .right fun _ => .pure fun _ h => by cases h
      · exact htail block vector payload hr

/-- **`create_buffer_payload_from_data`.** -/
theorem ensures_createBufferPayloadFromData :
    Ensures (createBufferPayloadFromData env) fun result => ∀ p ∈ result, ∃ k data,
      env.region k 0 = some data ∧
        p.record addr .zero = Uringio.createBufferPayloadFromData data := by
  refine .right fun block => ?_
  cases block with
  | none => exact .pure fun _ h => by cases h
  | some block =>
    refine .right fun buffer => ?_
    cases buffer with
    | none => exact .right fun _ => .pure fun _ h => by cases h
    | some buffer =>
      refine .right fun views => ?_
      cases views with
      | none => exact .right fun _ => .right fun _ => .pure fun _ h => by cases h
      | some views =>
        refine (ensures_getBuffer env 0).bind fun r hr => ?_
        cases r with
        | none => exact .right fun _ => .right fun _ => .right fun _ => .pure fun _ h => by cases h
        | some v =>
          refine .pure fun p hp => ?_
          obtain rfl := Option.some.inj hp
          exact ⟨v.name, v.region, hr v rfl, rfl⟩

/-- **`create_buffer_payload_from_pybuffer`.** -/
theorem ensures_createBufferPayloadFromPybuffer (v : View) (array : ℕ → Iovec) :
    Ensures (createBufferPayloadFromPybuffer env v array) fun result => ∀ p ∈ result,
      p.record addr .zero = Uringio.createBufferPayloadFromPybuffer
        ((List.range (CInt.toUnsigned (v.region.len / 16 : ℕ))).map array) := by
  refine .right fun block => ?_
  cases block with
  | none => exact .pure fun _ h => by cases h
  | some block =>
    refine .right fun vec => ?_
    cases vec with
    | none => exact .right fun _ => .pure fun _ h => by cases h
    | some vec =>
      refine .right fun iovecs => ?_
      cases iovecs with
      | none => exact .right fun _ => .right fun _ => .pure fun _ h => by cases h
      | some iovecs =>
        refine .right fun views => ?_
        cases views with
        | none => exact .right fun _ => .right fun _ => .right fun _ => .pure fun _ h => by cases h
        | some views =>
          refine .pure fun p hp => ?_
          obtain rfl := Option.some.inj hp
          have hlt := CInt.toUnsigned_lt (v.region.len / 16 : ℕ)
          have hcount : CInt.toUnsigned (CInt.toUnsigned (v.region.len / 16 : ℕ)) =
              CInt.toUnsigned (v.region.len / 16 : ℕ) := CInt.toUnsigned_natCast (by omega)
          have hcells : ((List.range (CInt.toUnsigned (v.region.len / 16 : ℕ))).map fun i =>
              some (⟨.user (array i).iov_base, (array i).iov_len⟩ : Entry)).filterMap
              (Option.map (Entry.iovec addr)) =
              (List.range (CInt.toUnsigned (v.region.len / 16 : ℕ))).map array := by
            rw [List.filterMap_map]
            exact congrFun List.filterMap_eq_map' _
          rw [Uringio.createBufferPayloadFromPybuffer, List.length_map, List.length_range, hcount,
            ← hcells]
          generalize CInt.toUnsigned (v.region.len / 16 : ℕ) = nr_vecs
          rfl

end Uringio.Blocks
