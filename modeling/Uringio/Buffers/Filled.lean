import Uringio.Buffers.Counts

/-!
# What the constructors return

A constructor that returns an array has filled it: with the views of the items, in order, or with
blocks of the runtime (`Filled`), and as many as it was asked for. Nothing is said here of what is
held, or of a constructor that fails. The loops come first, then the constructors of one array and
of both, and last the switch of `create_buffer_payload` over the mode (`ensures_fillPayload`).
-/

namespace Uringio.Blocks

open Ledger

variable {env : BuildEnv} {len bufsize : ℤ} {n : ℕ} {origin : PayloadOrigin} {c : Content}
  {sequence : Option ℕ}

/-- The content has `n` elements, which are the user's or the runtime's. -/
inductive Filled (env : BuildEnv) (n : ℕ) (bufsize : ℤ) : PayloadOrigin → Content → Prop
  | user {vs : List View} (length : vs.length = n) (describes : env.Describes 0 vs) :
      Filled env n bufsize .PAYLOAD_USER (.user vs)
  | runtime {bs : List ℕ} (length : bs.length = n) :
      Filled env n bufsize .PAYLOAD_RUNTIME (.runtime bufsize bs)

/-- The filled array has as many items as were asked for. -/
theorem Filled.length_eq (h : Filled env n bufsize origin c) : c.length = n := by
  cases h <;> assumption

/-! ## The loops -/

/-- `malloc` answers with a block only for a size that is not negative. -/
theorem ensures_malloc (env : BuildEnv) (size : ℤ) :
    Ensures (malloc env size) fun r => r.isSome → 0 ≤ size := fun s r s' hrun hsome => by
  unfold malloc at hrun
  dsimp only at hrun
  split at hrun
  · cases hrun
    cases hsome
  · next hgranted => exact Int.not_lt.mp fun hneg => hgranted (.inl hneg)

/-- Allocating the bytes of `n` more elements. -/
theorem ensures_allocLoop (unwind : List Entry → Build Unit) (n : ℕ) (done : List Entry) :
    Ensures (allocLoop env bufsize unwind n done) fun r => ∀ entries ∈ r,
      ∃ bs, bs.length = n ∧ entries = done ++ entriesOf bufsize bs := by
  induction n generalizing done with
  | zero =>
    refine .pure fun entries hentries => ⟨[], rfl, ?_⟩
    rw [entriesOf_nil, List.append_nil]
    exact (Option.some.inj hentries).symm
  | succ n ih =>
    refine .right fun b => ?_
    cases b with
    | none => exact .right fun _ => .pure (by simp)
    | some b =>
      refine (ih _).mono fun r h entries hentries => ?_
      obtain ⟨bs, hlength, rfl⟩ := h entries hentries
      exact ⟨b :: bs, by rw [List.length_cons, hlength], by simp [entriesOf]⟩

/-- `PyObject_GetBuffer` gives the region that the environment has at that position. -/
theorem ensures_getBuffer (env : BuildEnv) (i : ℕ) :
    Ensures (getBuffer env i) fun r => ∀ v ∈ r, env.region v.name i = some v.region := by
  intro s r s' hrun v hv
  unfold getBuffer at hrun
  dsimp only at hrun
  split at hrun
  · cases hrun
    cases hv
  · next hregion =>
    cases hrun
    obtain rfl := Option.some.inj hv
    exact hregion

/-- Acquiring the buffers of `n` more items. -/
theorem ensures_acquireLoop (fetch : ℕ → Build Bool) (unwind : List View → Build Unit) (n : ℕ)
    (vs : List View) : Ensures (acquireLoop env fetch unwind n vs) fun r => ∀ done ∈ r,
      ∃ vs', vs'.length = n ∧ env.Describes vs.length vs' ∧ done = vs ++ vs' := by
  induction n generalizing vs with
  | zero =>
    refine .pure fun done hdone => ⟨[], rfl, trivial, ?_⟩
    rw [List.append_nil]
    exact (Option.some.inj hdone).symm
  | succ n ih =>
    refine .right fun there => ?_
    cases there with
    | false => exact .right fun _ => .pure (by simp)
    | true =>
      refine (ensures_getBuffer env vs.length).bind fun r hr => ?_
      cases r with
      | none => exact .right fun _ => .pure (by simp)
      | some v =>
        refine (ih _).mono fun r h done hdone => ?_
        obtain ⟨vs', hlength, hdescribes, rfl⟩ := h done hdone
        rw [List.length_append, List.length_singleton] at hdescribes
        exact ⟨v :: vs', by rw [List.length_cons, hlength], ⟨hr v rfl, hdescribes⟩, by simp⟩

/-! ## One array -/

/-- A linear array of a content is stored in the payload, with its elements, or the payload is left
as it was. -/
structure StoresLinear (env : BuildEnv) (len bufsize : ℤ) (origin : PayloadOrigin)
    (payload : Payload) (r : Option LinearArray × Payload) : Prop where
  /-- Without an array, nothing is stored. -/
  kept : r.1 = none → r.2 = payload
  /-- The array has at least one element. -/
  stored : ∀ array ∈ r.1, 0 < len ∧ ∃ c, Filled env len.toNat bufsize origin c ∧
    array.cells = c.cells ∧
    r.2 = { payload with linear := some (some array), vector := some none }

/-- A failed construction stores nothing. -/
theorem storesLinear_none (payload : Payload) :
    StoresLinear env len bufsize origin payload (none, payload) :=
  ⟨fun _ => rfl, fun _ h => by cases h⟩

/-- `store_linear` stores the array that it was given. -/
theorem ensures_storeLinear {b : ℕ} {views : Option ViewArray} {payload : Payload}
    (hlen : 0 ≤ len) (hfilled : Filled env len.toNat bufsize origin c) :
    Ensures (storeLinear ⟨b, c.cells, none⟩ views payload)
      (StoresLinear env len bufsize origin payload) := by
  unfold storeLinear
  split
  · exact .stop _
  · next hcells =>
    refine .pure ⟨fun h => (by cases h), fun array harray => ?_⟩
    obtain rfl := Option.some.inj harray
    have hpos : c.length ≠ 0 := fun hzero => hcells (List.length_eq_zero_iff.mp (by simp [hzero]))
    rw [hfilled.length_eq] at hpos
    exact ⟨by omega, c, hfilled, rfl, rfl⟩

/-- `create_linear_buffers` stores the runtime's blocks. -/
theorem ensures_createLinearBuffers (payload : Payload) :
    Ensures (createLinearBuffers env len bufsize payload)
      (StoresLinear env len bufsize .PAYLOAD_RUNTIME payload) := by
  refine (ensures_malloc env len).bind fun b hlen => ?_
  cases b with
  | none => exact .pure (storesLinear_none payload)
  | some b =>
    refine (ensures_allocLoop _ _ _).bind fun r hr => ?_
    cases r with
    | none => exact .pure (storesLinear_none payload)
    | some entries =>
      obtain ⟨bs, hlength, rfl⟩ := hr _ rfl
      exact ensures_storeLinear (c := .runtime bufsize bs) (hlen rfl) (.runtime hlength)

/-- `serialize_linear_buffers` stores the regions of the user's buffers. -/
theorem ensures_serializeLinearBuffers (payload : Payload) :
    Ensures (serializeLinearBuffers env len payload)
      (StoresLinear env len bufsize .PAYLOAD_USER payload) := by
  refine (ensures_malloc env len).bind fun views hlen => .right fun b => ?_
  cases views with
  | none => exact .right fun _ => .right fun _ => .pure (storesLinear_none payload)
  | some views =>
    cases b with
    | none => exact .right fun _ => .right fun _ => .pure (storesLinear_none payload)
    | some b =>
      refine (ensures_acquireLoop _ _ _ _).bind fun r hr => ?_
      cases r with
      | none => exact .pure (storesLinear_none payload)
      | some done =>
        obtain ⟨vs, hlength, hdescribes, hdone⟩ := hr done rfl
        rw [List.nil_append] at hdone
        subst hdone
        have hcells : done.map (fun v => some v.entry) = (Content.user done).cells := by
          simp [Content.cells, Content.entries]
        dsimp only
        rw [hcells]
        exact ensures_storeLinear (hlen rfl) (.user hlength hdescribes)

/-- A vector of a content is stored in the payload, with its elements. -/
def StoresVector (env : BuildEnv) (len bufsize : ℤ) (origin : PayloadOrigin) (payload : Payload)
    (r : Option Vectored × Payload) : Prop :=
  ∀ vector ∈ r.1, 0 ≤ len ∧ ∃ c, Filled env len.toNat bufsize origin c ∧
    vector.nr_vecs = some (CInt.toUnsigned len) ∧
    (∃ iovecs, vector.iovecs = some (some iovecs) ∧ iovecs.cells = c.cells) ∧
    r.2 = { payload with vector := some (some vector), linear := some none }

/-- `create_vectored_buffers` stores the iovecs of the runtime's blocks. -/
theorem ensures_createVectoredBuffers (payload : Payload) :
    Ensures (createVectoredBuffers env len bufsize payload)
      (StoresVector env len bufsize .PAYLOAD_RUNTIME payload) := by
  refine .right fun b => ?_
  cases b with
  | none => exact .pure fun _ h => by cases h
  | some b =>
    refine (ensures_malloc env len).bind fun iovecs hlen => ?_
    cases iovecs with
    | none => exact .right fun _ => .pure fun _ h => by cases h
    | some iovecs =>
      refine (ensures_allocLoop _ _ _).bind fun r hr => ?_
      cases r with
      | none => exact .pure fun _ h => by cases h
      | some entries =>
        obtain ⟨bs, hlength, rfl⟩ := hr _ rfl
        refine .pure fun vector hvector => ?_
        obtain rfl := Option.some.inj hvector
        exact ⟨hlen rfl, .runtime bufsize bs, .runtime hlength, rfl, ⟨_, rfl, rfl⟩, rfl⟩

/-- `serialize_vectored_buffers` stores the iovecs of the user's buffers. -/
theorem ensures_serializeVectoredBuffers (bufsize : ℤ) (payload : Payload) :
    Ensures (serializeVectoredBuffers env n payload)
      (StoresVector env (CInt.toInt n) bufsize .PAYLOAD_USER payload) := by
  refine .right fun listed => ?_
  cases listed with
  | false => exact .pure fun _ h => by cases h
  | true =>
    refine (ensures_malloc env _).bind fun views hlen => .right fun b => ?_
    cases views with
    | none => exact .right fun _ => .right fun _ => .pure fun _ h => by cases h
    | some views =>
      cases b with
      | none => exact .right fun _ => .right fun _ => .pure fun _ h => by cases h
      | some b =>
        refine .right fun iovecs => ?_
        cases iovecs with
        | none => exact .right fun _ => .right fun _ => .pure fun _ h => by cases h
        | some iovecs =>
          refine (ensures_acquireLoop _ _ _ _).bind fun r hr => ?_
          cases r with
          | none => exact .pure fun _ h => by cases h
          | some done =>
            obtain ⟨vs, hlength, hdescribes, hdone⟩ := hr done rfl
            rw [List.nil_append] at hdone
            subst hdone
            refine .pure fun vector hvector => ?_
            obtain rfl := Option.some.inj hvector
            refine ⟨hlen rfl, .user done, .user hlength hdescribes, rfl, ⟨_, rfl, ?_⟩, rfl⟩
            simp [Content.cells, Content.entries]

/-! ## Both arrays -/

/-- Both arrays of a content are stored in the payload, with its elements. -/
structure StoresBoth (env : BuildEnv) (len bufsize : ℤ) (origin : PayloadOrigin)
    (payload filled : Payload) : Prop where
  /-- There is at least one element if they are the user's. -/
  positive : origin = .PAYLOAD_USER → 0 < len
  /-- The number of elements is not negative. -/
  length : 0 ≤ len
  /-- Both arrays have the elements of one content. -/
  arrays : ∃ (c : Content) (array : LinearArray) (vector : Vectored) (iovecs : IovecArray),
    Filled env len.toNat bufsize origin c ∧
    array.cells = c.cells ∧ vector.nr_vecs = some (CInt.toUnsigned len) ∧
    vector.iovecs = some (some iovecs) ∧ iovecs.cells = c.cells ∧
    filled = { payload with linear := some (some array), vector := some (some vector) }

/-- `abandon` gives no payload. -/
theorem ensures_abandon {α : Type} (payload : Payload) :
    Ensures (abandon payload : Build (Option α)) fun r => r = none :=
  .right fun _ => .pure rfl

/-- With all elements set, the arrays are those of the content. -/
theorem storesBoth_withArrays {payload : Payload} {linear vector iovecs : ℕ} {rest : Option Entry}
    {views vector_views : Option (Option ViewArray)} (hpos : origin = .PAYLOAD_USER → 0 < len)
    (hlen : 0 ≤ len) (hfilled : Filled env len.toNat bufsize origin c) :
    StoresBoth env len bufsize origin payload (payload.withArrays linear vector iovecs len rest
      views vector_views c.entries) := by
  have hnone : len.toNat - c.length = 0 := by rw [hfilled.length_eq, Nat.sub_self]
  refine ⟨hpos, hlen, c, _, _, _, hfilled, ?_, rfl, rfl, ?_, rfl⟩
  · simp [hnone, Content.cells]
  · simp [hnone, Content.cells]

/-- The runtime's linear and vectored arrays have the same content. -/
theorem ensures_makeBuffers (payload : Payload) :
    Ensures (makeBuffers env len bufsize payload) fun r =>
      ∀ filled ∈ r, StoresBoth env len bufsize .PAYLOAD_RUNTIME payload filled := by
  have hnone : ∀ p : Payload, Ensures (abandon p : Build (Option Payload)) fun r =>
      ∀ filled ∈ r, StoresBoth env len bufsize .PAYLOAD_RUNTIME payload filled := fun p =>
    (ensures_abandon p).mono fun r hr filled hmem => by subst hr; cases hmem
  refine (ensures_malloc env len).bind fun linear hlen => ?_
  cases linear with
  | none => exact hnone _
  | some linear =>
    refine .right fun vector => ?_
    cases vector with
    | none => exact hnone _
    | some vector =>
      refine .right fun iovecs => ?_
      cases iovecs with
      | none => exact hnone _
      | some iovecs =>
        refine (ensures_allocLoop _ _ _).bind fun r hr => ?_
        cases r with
        | none => exact .pure fun _ h => by cases h
        | some entries =>
          obtain ⟨bs, hlength, rfl⟩ := hr _ rfl
          refine .pure fun filled hmem => ?_
          obtain rfl := Option.some.inj hmem
          exact storesBoth_withArrays (c := .runtime bufsize bs) (by simp) (hlen rfl)
            (.runtime hlength)

/-- The user's linear and vectored arrays have the same content. -/
theorem ensures_serializeBuffers (payload : Payload) :
    Ensures (serializeBuffers env len payload) fun r =>
      ∀ filled ∈ r, StoresBoth env len bufsize .PAYLOAD_USER payload filled := by
  have hnone : ∀ p : Payload, Ensures (abandon p : Build (Option Payload)) fun r =>
      ∀ filled ∈ r, StoresBoth env len bufsize .PAYLOAD_USER payload filled := fun p =>
    (ensures_abandon p).mono fun r hr filled hmem => by subst hr; cases hmem
  refine (ensures_malloc env len).bind fun views hlen => ?_
  cases views with
  | none => exact hnone _
  | some views =>
    refine .right fun linear => ?_
    cases linear with
    | none => exact hnone _
    | some linear =>
      refine .right fun vector => ?_
      cases vector with
      | none => exact hnone _
      | some vector =>
        refine .right fun iovecs => ?_
        cases iovecs with
        | none => exact hnone _
        | some iovecs =>
          refine (ensures_acquireLoop _ _ _ _).bind fun r hr => ?_
          cases r with
          | none => exact .pure fun _ h => by cases h
          | some done =>
            obtain ⟨vs, hlength, hdescribes, hdone⟩ := hr done rfl
            rw [List.nil_append] at hdone
            subst hdone
            dsimp only
            split
            · exact .stop _
            · refine .pure fun filled hmem => ?_
              obtain rfl := Option.some.inj hmem
              exact storesBoth_withArrays (c := .user done) (fun _ => by omega) (hlen rfl)
                (.user hlength hdescribes)

/-! ## Payloads -/

section Payloads

variable {metadata : BufferMetadata}

/-- The linear mode stores one array, and only for a positive amount. -/
theorem ensures_fillLinear (payload : Payload) :
    Ensures (fillLinear env metadata payload) fun r => ∀ filled ∈ r, 0 < metadata.amount ∧
      ∃ (c : Content) (array : LinearArray),
        Filled env metadata.amount.toNat metadata.bufsize metadata.payload_origin c ∧
        array.cells = c.cells ∧
        filled = { payload with linear := some (some array), vector := some none } := by
  have hstores : ∀ r : Option LinearArray × Payload,
      StoresLinear env metadata.amount metadata.bufsize metadata.payload_origin payload r →
      ∀ filled ∈ r.1.map fun linear => { r.2 with linear := some (some linear) },
        0 < metadata.amount ∧ ∃ (c : Content) (array : LinearArray),
          Filled env metadata.amount.toNat metadata.bufsize metadata.payload_origin c ∧
          array.cells = c.cells ∧
          filled = { payload with linear := some (some array), vector := some none } := by
    intro r hr filled hfilled
    obtain ⟨array, harray, rfl⟩ := Option.map_eq_some_iff.mp hfilled
    obtain ⟨hlen, c, hc, hcells, hpayload⟩ := hr.stored array harray
    exact ⟨hlen, c, array, hc, hcells, by rw [hpayload]⟩
  unfold fillLinear
  cases horigin : metadata.payload_origin with
  | PAYLOAD_RUNTIME =>
    rw [horigin] at hstores
    exact (ensures_createLinearBuffers payload).bind fun r hr => .pure (hstores r hr)
  | PAYLOAD_USER =>
    rw [horigin] at hstores
    exact (ensures_serializeLinearBuffers payload).bind fun r hr => .pure (hstores r hr)

/-- The vectored mode sets the two arrays and no other field. -/
theorem ensures_fillVector (payload : Payload) :
    Ensures (fillVector env sequence metadata payload) fun r => ∀ filled ∈ r,
      ∃ linear vector, filled = { payload with linear := linear, vector := vector } := by
  have hstores : ∀ (len bufsize : ℤ) (origin : PayloadOrigin) (r : Option Vectored × Payload),
      StoresVector env len bufsize origin payload r →
      ∀ filled ∈ r.1.map fun vector => { r.2 with vector := some (some vector) },
        ∃ linear vector, filled = { payload with linear := linear, vector := vector } := by
    intro len bufsize origin r hr filled hfilled
    obtain ⟨vector, hvector, rfl⟩ := Option.map_eq_some_iff.mp hfilled
    obtain ⟨-, -, -, -, -, hpayload⟩ := hr vector hvector
    exact ⟨some none, some (some vector), by rw [hpayload]⟩
  unfold fillVector
  cases sequence with
  | none =>
    exact (ensures_createVectoredBuffers payload).bind fun r hr => .pure (hstores _ _ _ r hr)
  | some n =>
    exact (ensures_serializeVectoredBuffers 0 payload).bind fun r hr => .pure (hstores _ _ _ r hr)

/-- The mode with both arrays stores them with the same content. -/
theorem ensures_fillBoth (payload : Payload) :
    Ensures (fillBoth env metadata payload) fun r => ∀ filled ∈ r,
      StoresBoth env metadata.amount metadata.bufsize metadata.payload_origin payload filled := by
  unfold fillBoth
  cases metadata.payload_origin with
  | PAYLOAD_RUNTIME => exact ensures_makeBuffers payload
  | PAYLOAD_USER => exact ensures_serializeBuffers payload

/-- What the switch over the mode has filled the payload with, and the type that it leaves. -/
inductive Fills (env : BuildEnv) (metadata : BufferMetadata) (rand : ℤ) (payload : Payload) :
    BufferMode → Payload → PayloadType → Prop
  | both {mode : BufferMode} {filled : Payload} (mode_eq : mode = .NORMAL_BUF ∨ mode = .FIXED)
      (stores : StoresBoth env metadata.amount metadata.bufsize metadata.payload_origin payload
        filled) : Fills env metadata rand payload mode filled .PAYLOAD_LINEAR_AND_IOVEC
  | linear {mode : BufferMode} {bgid : Option ℤ} {c : Content} {array : LinearArray}
      (mode_eq : (mode = .PROVIDED ∧ bgid = some rand) ∨ (mode = .BUF_RING ∧ bgid = payload.bgid))
      (positive : 0 < metadata.amount)
      (content : Filled env metadata.amount.toNat metadata.bufsize metadata.payload_origin c)
      (cells : array.cells = c.cells) :
      Fills env metadata rand payload mode { payload with
        bgid := bgid, linear := some (some array), vector := some none } .PAYLOAD_LINEAR

/-- **The switch** over the mode. -/
theorem ensures_fillPayload {mode : BufferMode} {payload_type : PayloadType} {rand : ℤ}
    (payload : Payload) :
    Ensures (fillPayload env mode payload_type sequence metadata rand payload) fun r =>
      ∀ filled ∈ r.1, Fills env metadata rand payload mode filled r.2 := by
  -- Both arrays, over whatever arrays were stored before.
  have hboth : ∀ linear vector, mode = .NORMAL_BUF ∨ mode = .FIXED →
      Ensures (do
        let filled ← fillBoth env metadata { payload with linear := linear, vector := vector }
        pure (filled, PayloadType.PAYLOAD_LINEAR_AND_IOVEC)) fun r =>
        ∀ filled ∈ r.1, Fills env metadata rand payload mode filled r.2 := by
    intro linear vector hmode
    refine (ensures_fillBoth _).bind fun r hr => .pure fun filled hfilled => ?_
    obtain ⟨hpos, hlen, harrays⟩ := hr filled hfilled
    exact .both hmode ⟨hpos, hlen, harrays⟩
  have hlinear : ∀ bgid, (mode = .PROVIDED ∧ bgid = some rand) ∨
      (mode = .BUF_RING ∧ bgid = payload.bgid) → Ensures (do
        let filled ← fillLinear env metadata { payload with bgid := bgid }
        pure (filled, PayloadType.PAYLOAD_LINEAR)) fun r =>
        ∀ filled ∈ r.1, Fills env metadata rand payload mode filled r.2 := by
    intro bgid hmode
    refine (ensures_fillLinear _).bind fun r hr => .pure fun filled hfilled => ?_
    obtain ⟨hpos, c, array, hc, hcells, rfl⟩ := hr filled hfilled
    exact .linear hmode hpos hc hcells
  unfold fillPayload
  cases mode with
  | NORMAL_BUF =>
    -- What the payload type asks for is filled first, and then both once more.
    have hnone : Ensures (pure (none, payload_type) : Build (Option Payload × PayloadType)) fun r =>
        ∀ filled ∈ r.1, Fills env metadata rand payload .NORMAL_BUF filled r.2 :=
      .pure fun _ h => by cases h
    cases payload_type with
    | PAYLOAD_LINEAR =>
      refine (ensures_fillLinear payload).bind fun r hr => ?_
      cases r with
      | none => exact hnone
      | some p =>
        obtain ⟨-, c, array, -, -, rfl⟩ := hr p rfl
        exact hboth _ _ (.inl rfl)
    | PAYLOAD_IOVEC =>
      refine (ensures_fillVector payload).bind fun r hr => ?_
      cases r with
      | none => exact hnone
      | some p =>
        obtain ⟨linear, vector, rfl⟩ := hr p rfl
        exact hboth linear vector (.inl rfl)
    | PAYLOAD_LINEAR_AND_IOVEC =>
      refine (ensures_fillBoth payload).bind fun r hr => ?_
      cases r with
      | none => exact hnone
      | some p =>
        obtain ⟨-, -, c, array, vector, iovecs, -, -, -, -, -, rfl⟩ := hr p rfl
        exact hboth _ _ (.inl rfl)
  | FIXED => exact hboth payload.linear payload.vector (.inr rfl)
  | PROVIDED => exact hlinear (some rand) (.inl ⟨rfl, rfl⟩)
  | BUF_RING => exact hlinear payload.bgid (.inr ⟨rfl, rfl⟩)

/-- The elements are at least none, and those of the user at least one. -/
theorem Fills.amount (h : Fills env metadata rand payload mode filled filled_type) :
    metadata.payload_origin = .PAYLOAD_USER → 0 < metadata.amount := by
  cases h with
  | both _ stores => exact stores.positive
  | linear _ hpos _ _ => exact fun _ => hpos

end Payloads

end Uringio.Blocks
