import Uringio.Buffers.Arrays

/-!
# What `create_buffer_payload` leads to

A run divides by zero, fails, leaves an array without elements, or returns a payload. `Created` says
for each of these what is held then, and of a returned payload which fields it has. The case of
`NORMAL_BUF` falls through: it builds arrays as requested, and then both arrays once more, which
replace the first ones in the payload while the first ones stay held.
-/

namespace Uringio.Blocks

open Ledger

/-- The arguments of `create_buffer_payload`. -/
structure Request where
  /-- The mode, validated. -/
  mode : BufferMode
  /-- The payload type, validated. -/
  payload_type : PayloadType
  /-- The number of items of the sequence, if there is one. -/
  sequence : Option ℕ
  /-- The argument `amount`. -/
  amount : ℤ
  /-- The argument `bufsize`. -/
  bufsize : ℤ
  /-- What `rand` returns. -/
  rand : ℤ
  /-- `amount` was parsed as an `int`. -/
  amount_isInt : CInt.IsInt amount
  /-- `bufsize` was parsed as an `int`. -/
  bufsize_isInt : CInt.IsInt bufsize

/-- What `_get_buffer_metadata` returns, if it does. -/
def Request.metadata (r : Request) : BufferMetadata :=
  match r.sequence with
  | none => ⟨.PAYLOAD_RUNTIME, r.amount, r.bufsize⟩
  | some n => ⟨.PAYLOAD_USER, CInt.toInt n, CInt.toInt (Int.tdiv n (CInt.toInt n))⟩

/-- The call of `create_buffer_payload`. -/
def Request.create (r : Request) (env : BuildEnv) : Build (Option Payload) :=
  createBufferPayload env r.mode r.payload_type r.sequence r.amount r.bufsize r.rand

/-- The payload's buffers are the user's exactly when they were given. -/
theorem Request.origin_eq (r : Request) : r.metadata.payload_origin = originOf r.sequence := by
  unfold metadata originOf
  cases r.sequence <;> rfl

variable {env : BuildEnv} {P : Multiset Resource} {t : Count} {β : Type}
  {S : Except Undefined β → Multiset Resource → Count → Prop}

/-! ## By the origin -/

/-- The linear array of a payload. -/
theorem leads_fillLinear {metadata : BufferMetadata} {payload : Payload}
    {k : Option Payload → Build β}
    (hfail : ∀ t', Failed env t t' (Construction.linear metadata).unwinds → Leads (k none) P t' S)
    (hzero : ∀ P' t', (Construction.linear metadata).Bare env t t' → S (.error .outside) P' t')
    (hdone : ∀ c b v t', 0 ≤ metadata.amount →
      Built env t t' metadata.amount.toNat metadata.bufsize metadata.payload_origin c →
      (Construction.linear metadata).Done env t t' →
      Leads (k (some { payload with linear := some (some (c.linear b v)), vector := some none }))
        (.block b ::ₘ (c.held v + P)) t' S) :
    Leads (fillLinear env metadata payload >>= k) P t S := by
  unfold fillLinear
  unfold Construction.linear at hfail hzero hdone
  cases horigin : metadata.payload_origin with
  | PAYLOAD_RUNTIME =>
    rw [horigin] at hfail hzero hdone
    dsimp only
    rw [bind_assoc]
    exact leads_createLinearBuffers hfail hzero hdone
  | PAYLOAD_USER =>
    rw [horigin] at hfail hzero hdone
    dsimp only
    rw [bind_assoc]
    exact leads_serializeLinearBuffers hfail hzero hdone

/-- The vector of a payload. -/
theorem leads_fillVector {sequence : Option ℕ} {metadata : BufferMetadata} {payload : Payload}
    {k : Option Payload → Build β} {len : ℤ} (hnone : sequence = none → len = metadata.amount)
    (hsome : ∀ n, sequence = some n → len = CInt.toInt n)
    (hfail : ∀ t', Failed env t t' (Construction.vector sequence len metadata.bufsize).unwinds →
      Leads (k none) P t' S)
    (hdone : ∀ c b iovecs v t', 0 ≤ len →
      Built env t t' len.toNat metadata.bufsize (originOf sequence) c →
      (Construction.vector sequence len metadata.bufsize).Done env t t' →
      Leads (k (some { payload with
          vector := some (some (c.vector b iovecs v)), linear := some none }))
        (.block iovecs ::ₘ .block b ::ₘ (c.held v + P)) t' S) :
    Leads (fillVector env sequence metadata payload >>= k) P t S := by
  unfold fillVector
  cases sequence with
  | none =>
    dsimp only
    rw [bind_assoc, ← hnone rfl]
    exact leads_createVectoredBuffers hfail hdone
  | some n =>
    dsimp only
    rw [bind_assoc]
    exact leads_serializeVectoredBuffers (hsome n rfl) hfail hdone

/-- Both arrays of a payload. -/
theorem leads_fillBoth {metadata : BufferMetadata} {payload : Payload}
    {k : Option Payload → Build β}
    (hnull : ∀ Q t', Failed env t t' (Construction.both metadata).unwinds →
      Leads (abandon payload.bare >>= k) (Q + P) t' S)
    (hlost : ∀ p P' t', (Construction.both metadata).Lost env t t' →
      p.Half payload metadata.amount.toNat P' → Leads (abandon p >>= k) P' t' S)
    (hzero : ∀ P' t', (Construction.both metadata).Bare env t t' → S (.error .outside) P' t')
    (hdone : ∀ c l b iovecs v t', 0 ≤ metadata.amount →
      Built env t t' metadata.amount.toNat metadata.bufsize metadata.payload_origin c →
      (Construction.both metadata).Done env t t' → Named t t' [l, b, iovecs] →
      Leads (k (some (c.both l b iovecs v payload)))
        (.block l ::ₘ .block b ::ₘ .block iovecs ::ₘ (c.held v + P)) t' S) :
    Leads (fillBoth env metadata payload >>= k) P t S := by
  unfold fillBoth
  unfold Construction.both at hnull hlost hzero hdone
  cases horigin : metadata.payload_origin with
  | PAYLOAD_RUNTIME =>
    rw [horigin] at hnull hlost hdone
    exact leads_makeBuffers hnull hlost hdone
  | PAYLOAD_USER =>
    rw [horigin] at hnull hlost hzero hdone
    exact leads_serializeBuffers hnull hlost hzero hdone

/-- Both arrays of a payload whose mode is not set: the destructor reads the mode. -/
theorem leads_fillUnset {metadata : BufferMetadata} {payload : Payload}
    {k : Option Payload → Build β} (hmode : payload.mode = none)
    (hfail : ∀ P' t', t.failures < t'.failures → S (.error .uninitialised) P' t')
    (hzero : ∀ P' t', metadata.amount.toNat = 0 → t'.failures = t.failures →
      S (.error .outside) P' t')
    (hdone : ∀ c l b iovecs v t', 0 ≤ metadata.amount →
      Built env t t' metadata.amount.toNat metadata.bufsize metadata.payload_origin c →
      Named t t' [l, b, iovecs] →
      Leads (k (some (c.both l b iovecs v payload)))
        (.block l ::ₘ .block b ::ₘ .block iovecs ::ₘ (c.held v + P)) t' S) :
    Leads (fillBoth env metadata payload >>= k) P t S :=
  leads_fillBoth (fun _ t' hfailed => leads_abandon hmode (hfail _ t' hfailed.failures))
    (fun _ P' t' hlost hhalf => leads_abandon (hhalf.mode.trans hmode) (hfail P' t' hlost.failures))
    (fun P' t' hbare => hzero P' t' ((Construction.entries_both _).symm.trans hbare.entries)
      hbare.took.failures)
    fun c l b iovecs v t' hlen hbuilt _ => hdone c l b iovecs v t' hlen hbuilt

/-! ## The whole function -/

/-- The payload as `create_buffer_payload` allocates it. -/
def freshPayload (t : Count) : Payload := { Payload.new t.requests with bgid := some 0 }

/-- The fields that `create_buffer_payload` sets at its end. -/
def Request.stamp (r : Request) (payload_type : PayloadType) (payload : Payload) : Payload :=
  { payload with
    amount := some r.metadata.amount
    payload_origin := some r.metadata.payload_origin
    mode := some r.mode
    payload_type := some payload_type }

/-- What a run from the count `t` leads to: its outcome, what is held then, and the count. -/
inductive Created (env : BuildEnv) (r : Request) (t : Count) :
    Except Undefined (Option Payload) → Multiset Resource → Count → Prop
  | divided {n : ℕ} (sequence : r.sequence = some n) (zero : CInt.toInt n = 0) :
      Created env r t (.error .division) 0 t
  /-- The payload could not be allocated. -/
  | denied {t' : Count} (failures : t.failures < t'.failures)
      (denied : env.fails t.requests = true) : Created env r t (.ok none) 0 t'
  /-- A constructor of one array failed. -/
  | leaked {P' : Multiset Resource} {t' : Count} (failures : t.failures < t'.failures)
      (granted : env.fails t.requests = false) (held : .block t.requests ∈ P') :
      Created env r t (.ok none) P' t'
  /-- A constructor of both arrays failed. -/
  | unwound {P' : Multiset Resource} {t' : Count} (failures : t.failures < t'.failures)
      (granted : env.fails t.requests = false) : Created env r t (.error .uninitialised) P' t'
  | outside {P' : Multiset Resource} {t' : Count} (zero : r.metadata.amount.toNat = 0)
      (failures : t'.failures = t.failures) : Created env r t (.error .outside) P' t'
  | linear {c : Content} {b v : ℕ} {t' : Count} (bgid : Option ℤ)
      (mode : r.mode = .PROVIDED ∨ r.mode = .BUF_RING) (len : 0 ≤ r.metadata.amount)
      (built : Built env t t' r.metadata.amount.toNat r.metadata.bufsize
        r.metadata.payload_origin c) :
      Created env r t (.ok (some (r.stamp .PAYLOAD_LINEAR { Payload.new t.requests with
          bgid := bgid, linear := some (some (c.linear b v)), vector := some none })))
        (.block b ::ₘ (c.held v + {.block t.requests})) t'
  | both {c : Content} {l b iovecs v : ℕ} {t' : Count} (mode : r.mode = .FIXED)
      (len : 0 ≤ r.metadata.amount)
      (built : Built env t t' r.metadata.amount.toNat r.metadata.bufsize
        r.metadata.payload_origin c) :
      Created env r t
        (.ok (some (r.stamp .PAYLOAD_LINEAR_AND_IOVEC (c.both l b iovecs v (freshPayload t)))))
        (.block l ::ₘ .block b ::ₘ .block iovecs ::ₘ (c.held v + {.block t.requests})) t'
  /-- The blocks `Y` and the content `c₁` of the first arrays stay held. -/
  | twice {c₁ c : Content} {l b iovecs v₁ v : ℕ} {Y : Multiset Resource} {t₁ t' : Count}
      (mode : r.mode = .NORMAL_BUF) (len : 0 ≤ r.metadata.amount)
      (first : Built env t t₁ r.metadata.amount.toNat r.metadata.bufsize
        r.metadata.payload_origin c₁)
      (left : r.payload_type = .PAYLOAD_LINEAR_AND_IOVEC →
        ∃ x, t.requests < x ∧ x < t₁.requests ∧ .block x ∈ Y)
      (built : Built env t₁ t' r.metadata.amount.toNat r.metadata.bufsize
        r.metadata.payload_origin c) (named : Named t₁ t' [l, b, iovecs]) :
      Created env r t
        (.ok (some (r.stamp .PAYLOAD_LINEAR_AND_IOVEC (c.both l b iovecs v (freshPayload t)))))
        (.block l ::ₘ .block b ::ₘ .block iovecs ::ₘ
          (c.held v + (Y + (c₁.held v₁ + {.block t.requests})))) t'

/-- The count after the allocation of the payload. -/
abbrev Count.next (t : Count) : Count := { t with requests := t.requests + 1 }

/-- The number of the user's items, as an `int`. -/
theorem Request.amount_eq (r : Request) (n : ℕ) (hsequence : r.sequence = some n) :
    r.metadata.amount = CInt.toInt n := by
  unfold metadata
  rw [hsequence]

section Switch

variable {r : Request} {payload : Payload}

/-- What follows the switch over the mode. -/
def Request.finish (r : Request) (x : Option Payload × PayloadType) : Build (Option Payload) :=
  pure (x.1.map (r.stamp x.2))

/-- A failure after the allocation of the payload. -/
theorem leads_leaked {payload_type : PayloadType} {t' : Count}
    (hgranted : env.fails t.requests = false) (hlt : t.failures < t'.failures) :
    Leads (r.finish (none, payload_type)) {.block t.requests} t' (Created env r t) :=
  .pure (.leaked hlt hgranted (Multiset.mem_singleton_self _))

/-- The linear array was written, and has no element. -/
theorem created_bare {P' : Multiset Resource} {t' : Count}
    (hbare : (Construction.linear r.metadata).Bare env t.next t') :
    Created env r t (.error .outside) P' t' :=
  .outside ((Construction.entries_linear _).symm.trans hbare.entries) hbare.took.failures

/-- **The linear array**, for the modes with a group of buffers. -/
theorem leads_onlyLinear (hgranted : env.fails t.requests = false) {bgid : Option ℤ}
    (hmode : r.mode = .PROVIDED ∨ r.mode = .BUF_RING) :
    Leads ((do
        let filled ← fillLinear env r.metadata { Payload.new t.requests with bgid := bgid }
        pure (filled, PayloadType.PAYLOAD_LINEAR)) >>= r.finish)
      {.block t.requests} t.next (Created env r t) := by
  rw [bind_assoc]
  refine leads_fillLinear (fun t' hfailed => leads_leaked hgranted hfailed.failures)
    (fun P' t' hbare => created_bare hbare) fun c b v t' hlen hbuilt _ => ?_
  exact .pure (.linear bgid hmode hlen (hbuilt.after (went_malloc t)))

/-- **Both arrays**, for `FIXED`. -/
theorem leads_onlyBoth (hgranted : env.fails t.requests = false) (hmode : r.mode = .FIXED) :
    Leads ((do
        let filled ← fillBoth env r.metadata (freshPayload t)
        pure (filled, PayloadType.PAYLOAD_LINEAR_AND_IOVEC)) >>= r.finish)
      {.block t.requests} t.next (Created env r t) := by
  rw [bind_assoc]
  refine leads_fillUnset rfl (fun P' t' hlt => .unwound hlt hgranted)
    (fun P' t' hzero hfailures => .outside hzero hfailures)
    fun c l b iovecs v t' hlen hbuilt _ => ?_
  exact .pure (.both hmode hlen (hbuilt.after (went_malloc t)))

/-- **The fall through**: both arrays once more. -/
theorem leads_again (hgranted : env.fails t.requests = false) (hmode : r.mode = .NORMAL_BUF)
    {c₁ : Content} (v₁ : ℕ) (Y : Multiset Resource) {t₁ : Count} (hlen : 0 ≤ r.metadata.amount)
    (hfirst : Built env t.next t₁ r.metadata.amount.toNat r.metadata.bufsize
      r.metadata.payload_origin c₁)
    (hleft : r.payload_type = .PAYLOAD_LINEAR_AND_IOVEC →
      ∃ x, t.requests < x ∧ x < t₁.requests ∧ .block x ∈ Y)
    (hpayload : ∀ (c : Content) l b iovecs v,
      c.both l b iovecs v payload = c.both l b iovecs v (freshPayload t))
    (hunset : payload.mode = none) :
    Leads ((do
        let filled ← fillBoth env r.metadata payload
        pure (filled, PayloadType.PAYLOAD_LINEAR_AND_IOVEC)) >>= r.finish)
      (Y + (c₁.held v₁ + {.block t.requests})) t₁ (Created env r t) := by
  have hsame : t₁.failures = t.failures := hfirst.failures
  rw [bind_assoc]
  refine leads_fillUnset hunset (fun P' t' hlt => .unwound (by omega) hgranted)
    (fun P' t' hzero hfailures => .outside hzero (by omega))
    fun c l b iovecs v t' _ hbuilt hnamed => ?_
  rw [hpayload]
  exact .pure (.twice hmode hlen (hfirst.after (went_malloc t)) hleft hbuilt hnamed)

/-- **The switch** over the mode. -/
theorem leads_switch (hgranted : env.fails t.requests = false) :
    Leads (fillPayload env r.mode r.payload_type r.sequence r.metadata r.rand (freshPayload t) >>=
      r.finish) {.block t.requests} t.next (Created env r t) := by
  cases hmode : r.mode with
  | FIXED => exact leads_onlyBoth hgranted hmode
  | PROVIDED => exact leads_onlyLinear hgranted (.inl hmode)
  | BUF_RING => exact leads_onlyLinear hgranted (.inr hmode)
  | NORMAL_BUF =>
    cases htype : r.payload_type with
    | PAYLOAD_LINEAR =>
      dsimp only [fillPayload]
      rw [bind_assoc]
      refine leads_fillLinear (fun t' hfailed => leads_leaked hgranted hfailed.failures)
        (fun P' t' hbare => created_bare hbare) fun c b v t' hlen hbuilt _ => ?_
      refine (leads_again hgranted hmode v {.block b} hlen hbuilt (by simp [htype])
        (fun _ _ _ _ _ => rfl) rfl).cast ?_
      rw [Multiset.singleton_add]
    | PAYLOAD_IOVEC =>
      dsimp only [fillPayload]
      rw [bind_assoc]
      refine leads_fillVector (fun _ => rfl) r.amount_eq
        (fun t' hfailed => leads_leaked hgranted hfailed.failures)
        fun c b iovecs v t' hlen hbuilt _ => ?_
      rw [← r.origin_eq] at hbuilt
      refine (leads_again hgranted hmode v (.block iovecs ::ₘ {.block b}) hlen hbuilt
        (by simp [htype]) (fun _ _ _ _ _ => rfl) rfl).cast ?_
      rw [Multiset.cons_add, Multiset.singleton_add]
    | PAYLOAD_LINEAR_AND_IOVEC =>
      dsimp only [fillPayload]
      rw [bind_assoc]
      refine leads_fillUnset rfl (fun P' t' hlt => .unwound hlt hgranted)
        (fun P' t' hzero hfailures => .outside hzero hfailures)
        fun c l b iovecs v t' hlen hbuilt hnamed => ?_
      have hl := hnamed.between l (by simp)
      refine (leads_again hgranted hmode v (.block l ::ₘ .block b ::ₘ {.block iovecs}) hlen
        hbuilt (fun _ => ⟨l, hl.1, hl.2, by simp⟩) (fun _ _ _ _ _ => rfl) rfl).cast ?_
      rw [Multiset.cons_add, Multiset.cons_add, Multiset.singleton_add]

end Switch

/-- The number of items is divided by itself as an `int`, which may be zero. -/
theorem getBufferMetadata_divides {n : ℕ} (amount bufsize : ℤ) (hzero : CInt.toInt n = 0) :
    getBufferMetadata (some n) amount bufsize = stop .division := by
  simp only [getBufferMetadata, hzero, ↓reduceIte]

/-- Where it is not, there are metadata. -/
theorem getBufferMetadata_eq (r : Request)
    (hzero : ∀ n, r.sequence = some n → CInt.toInt n ≠ 0) :
    getBufferMetadata r.sequence r.amount r.bufsize = pure r.metadata := by
  unfold getBufferMetadata Request.metadata
  cases hsequence : r.sequence with
  | none => rfl
  | some n => exact if_neg (hzero n hsequence)

/-- **`create_buffer_payload`.** -/
theorem leads_create (env : BuildEnv) (r : Request) (t : Count) :
    Leads (r.create env) 0 t (Created env r t) := by
  unfold Request.create createBufferPayload
  by_cases hdivides : ∃ n, r.sequence = some n ∧ CInt.toInt n = 0
  · obtain ⟨n, hsequence, hzero⟩ := hdivides
    rw [hsequence, getBufferMetadata_divides _ _ hzero]
    exact .stop_bind (.divided hsequence hzero)
  · rw [getBufferMetadata_eq r fun n hsequence hzero => hdivides ⟨n, hsequence, hzero⟩, pure_bind]
    refine leads_malloc (fun hdenied => ?_) fun _ hgranted => ?_
    · have hfails : env.fails t.requests = true := hdenied.resolve_left (by omega)
      exact .pure (.denied (Nat.lt_succ_self _) hfails)
    · exact leads_switch hgranted

/-! ## A call -/

/-- Nothing fails; the buffer of the item at `i` has 16 bytes. -/
def BuildEnv.calm : BuildEnv := ⟨fun _ => false, fun _ _ => true, fun _ i => some ⟨16 * i, 16⟩⟩

/-- Nothing was allocated or acquired before. -/
def Books.start : Books Resource Count := ⟨0, ⟨0, 0, 0, []⟩⟩

/-- Two buffers of the user, to be registered. -/
def Request.registered : Request :=
  ⟨.FIXED, .PAYLOAD_LINEAR, some 2, 0, 0, 0, CInt.isInt_zero, CInt.isInt_zero⟩

/-- One linear buffer of the runtime, without a group. -/
def Request.plain : Request := ⟨.NORMAL_BUF, .PAYLOAD_LINEAR, none, 1, 16, 0, by decide, by decide⟩

end Uringio.Blocks
