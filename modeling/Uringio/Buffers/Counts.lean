import Uringio.Buffers.Created

/-!
# Which counts are safe

`buffer_mode` and `execution_context` hand `amount`, `bufsize` and `buffers` to
`create_buffer_payload` as they are. The count of the elements is then the user's, or the length of
the user's sequence as an `int`; an object that has no such length leaves an exception pending and
the count zero, with which the function goes on.

The payload is not cleared when it is allocated, and the constructors of both arrays hand it to the
destructor before its fields are set. So a call is `Safe` if it meets no fault whatever the memory
of the payload held, and then raises, or returns a payload whose arrays have as many elements as its
field `amount` says. The faults are divisions by zero and accesses to memory that is no element of
an array that was allocated: outside of an array, through a pointer that was never set, or to what
is not held any more.

`Construction.Sound` says of the constructors that run, one after the other, what they need for
that: each fails while it can unwind by itself, or it goes through and there is a first element if
it writes a field of it. `safe_iff` shows that this is exact, for a length that is not zero as an
`int`.
-/

namespace Uringio.Blocks

open Ledger

/-! ## Calls -/

/-- The argument `buffers`: absent, an object without a length as a sequence, of which
`PySequence_Fast` makes a list of some number of items, or a sequence of some length. -/
inductive BuffersArg
  | absent
  | unsized (items : ℕ)
  | sequence (n : ℕ)

/-- The number of the items, for `PySequence_Fast`. -/
def BuffersArg.items : BuffersArg → Option ℕ
  | absent => none
  | unsized items => some items
  | sequence n => some n

/-- The arguments of a call, once the mode and the type are validated, and what `rand` returns. -/
structure BufferArgs where
  /-- The mode, validated. -/
  mode : BufferMode
  /-- The payload type, validated. -/
  payload_type : PayloadType
  /-- The argument `buffers`. -/
  buffers : BuffersArg
  /-- The argument `amount`. -/
  amount : ℤ
  /-- The argument `bufsize`. -/
  bufsize : ℤ
  /-- What `rand` returns. -/
  rand : ℤ
  /-- `amount` was parsed as an `int`. -/
  amount_isInt : CInt.IsInt amount
  /-- `bufsize` was parsed as an `int`. -/
  bufsize_isInt : CInt.IsInt bufsize

/-- `_get_buffer_metadata`: without a length, the metadata stay cleared. -/
def BufferArgs.getBufferMetadata (a : BufferArgs) : Build BufferMetadata :=
  match a.buffers with
  | .absent => Blocks.getBufferMetadata none a.amount a.bufsize
  | .unsized _ => pure ⟨.PAYLOAD_USER, 0, 0⟩
  | .sequence n => Blocks.getBufferMetadata (some n) a.amount a.bufsize

/-- What `malloc` left in the fields of a payload that the destructor reads. -/
structure Garbage where
  /-- What the field `mode` held. -/
  mode : BufferMode
  /-- What the field `payload_origin` held. -/
  payload_origin : PayloadOrigin
  /-- What the field `amount` held. -/
  amount : ℤ

/-- A payload as `malloc` returned it. -/
def Garbage.payload (g : Garbage) (block : ℕ) : Payload :=
  { Payload.new block with
    mode := some g.mode
    payload_origin := some g.payload_origin
    amount := some g.amount }

/-- `create_buffer_payload` after `_get_buffer_metadata`, with the payload that `malloc` returns. -/
def createFrom (env : BuildEnv) (mode : BufferMode) (payload_type : PayloadType)
    (items : Option ℕ) (rand : ℤ) (fresh : ℕ → Payload) (metadata : BufferMetadata) :
    Build (Option Payload) := do
  match ← malloc env 1 with
  | none => pure none
  | some block => do
    let (filled, payload_type) ← fillPayload env mode payload_type items metadata rand
      { fresh block with bgid := some 0 }
    pure (filled.map fun payload => { payload with
      amount := some metadata.amount
      payload_origin := some metadata.payload_origin
      mode := some mode
      payload_type := some payload_type })

/-- It is what `create_buffer_payload` does with a payload of which no field is set. -/
theorem createBufferPayload_eq (env : BuildEnv) (mode : BufferMode) (payload_type : PayloadType)
    (sequence : Option ℕ) (amount bufsize rand : ℤ) :
    createBufferPayload env mode payload_type sequence amount bufsize rand =
      (Blocks.getBufferMetadata sequence amount bufsize >>=
        createFrom env mode payload_type sequence rand Payload.new) := rfl

/-- The call. -/
def BufferArgs.create (a : BufferArgs) (env : BuildEnv) (g : Garbage) : Build (Option Payload) :=
  a.getBufferMetadata >>=
    createFrom env a.mode a.payload_type a.buffers.items a.rand g.payload

/-- The metadata, where nothing is divided by zero. -/
def BufferArgs.metadata (a : BufferArgs) : BufferMetadata :=
  match a.buffers with
  | .absent => ⟨.PAYLOAD_RUNTIME, a.amount, a.bufsize⟩
  | .unsized _ => ⟨.PAYLOAD_USER, 0, 0⟩
  | .sequence n => ⟨.PAYLOAD_USER, CInt.toInt n, CInt.toInt (Int.tdiv n (CInt.toInt n))⟩

/-! ## Safe calls -/

/-- The arrays of a payload have as many elements as its field `amount` says, which is `n`. -/
structure Payload.Exact (p : Payload) (n : ℤ) : Prop where
  /-- The count of the payload is the number. -/
  amount : p.amount = some n
  /-- The linear array has as many elements. -/
  linear : ∀ a, p.linear = some (some a) → (a.cells.length : ℤ) = n
  /-- There are as many views. -/
  views : ∀ a v, p.linear = some (some a) → a.views = some (some v) → (v.slots.length : ℤ) = n
  /-- The vector has as many elements, and says so. -/
  vector : ∀ v, p.vector = some (some v) → v.nr_vecs = some n.toNat ∧
    ∃ a, v.iovecs = some (some a) ∧ (a.cells.length : ℤ) = n

/-- The call raises, or returns a payload with exact arrays. -/
def BufferArgs.Counted (a : BufferArgs) : Except Undefined (Option Payload) → Prop
  | .ok none => True
  | .ok (some p) => p.Exact a.metadata.amount
  | .error _ => False

/-- The call is safe, whatever the memory of the payload held. -/
def BufferArgs.Safe (a : BufferArgs) (env : BuildEnv) (s : Books Resource Count) : Prop :=
  ∀ g, a.Counted (a.create env g s).1

/-- Each constructor, in turn, fails where it unwinds, which ends the call, or goes through and has
a first element if it writes a field of it. -/
def Construction.Sound (env : BuildEnv) : Count → List Construction → Prop
  | _, [] => True
  | t, c :: cs => Granted env t c.unwinds →
      Granted env (t.after c.unwinds) c.loses ∧ (c.touches = true → c.entries ≠ 0) ∧
        Construction.Sound env (t.after c.takes) cs

/-- How many elements the vector gets. -/
def BufferArgs.vecs (a : BufferArgs) : ℤ :=
  match a.buffers with
  | .absent => a.amount
  | .unsized n | .sequence n => CInt.toInt n

/-- The constructor of the arrays that the payload type asks for. -/
def BufferArgs.requested (a : BufferArgs) : Construction :=
  match a.payload_type with
  | .PAYLOAD_LINEAR => .linear a.metadata
  | .PAYLOAD_IOVEC => .vector a.buffers.items a.vecs a.metadata.bufsize
  | .PAYLOAD_LINEAR_AND_IOVEC => .both a.metadata

/-- The constructors that run: in `NORMAL_BUF`, the one that the payload type asks for, and then,
since the case falls through, that of both arrays. -/
def BufferArgs.constructions (a : BufferArgs) : List Construction :=
  match a.mode with
  | .NORMAL_BUF => [a.requested, .both a.metadata]
  | .FIXED => [.both a.metadata]
  | .PROVIDED | .BUF_RING => [.linear a.metadata]

/-- The length of a sequence is not zero as an `int`, and where the payload is allocated, the
constructors are sound. -/
structure BufferArgs.Sound (a : BufferArgs) (env : BuildEnv) (t : Count) : Prop where
  /-- The length of a sequence is not zero as an `int`. -/
  length : ∀ n, a.buffers = .sequence n → CInt.toInt n ≠ 0
  /-- If the payload can be allocated, its constructors of arrays go well. -/
  constructions : env.fails t.requests = false → Construction.Sound env t.next a.constructions

instance (env : BuildEnv) (t : Count) : ∀ x : Take, Decidable (x.Granted env t)
  | .alloc _ => inferInstanceAs (Decidable (_ ∧ _))
  | .list _ => inferInstanceAs (Decidable (_ = _))
  | .fetch _ => inferInstanceAs (Decidable (_ = _))
  | .acquire _ => inferInstanceAs (Decidable (_ = _))

instance Granted.decidable (env : BuildEnv) : ∀ t xs, Decidable (Granted env t xs)
  | _, [] => inferInstanceAs (Decidable True)
  | t, x :: xs =>
    have := Granted.decidable env (x.count t) xs
    inferInstanceAs (Decidable (_ ∧ _))

instance Construction.Sound.decidable (env : BuildEnv) :
    ∀ t cs, Decidable (Construction.Sound env t cs)
  | _, [] => inferInstanceAs (Decidable True)
  | t, c :: cs =>
    have := Construction.Sound.decidable env (t.after c.takes) cs
    inferInstanceAs (Decidable (_ → _ ∧ _ ∧ _))

instance (a : BufferArgs) (env : BuildEnv) (t : Count) : Decidable (a.Sound env t) :=
  have : Decidable (∀ n, a.buffers = .sequence n → CInt.toInt n ≠ 0) :=
    match h : a.buffers with
    | .absent => .isTrue fun _ hn => by cases hn
    | .unsized _ => .isTrue fun _ hn => by cases hn
    | .sequence n => decidable_of_iff (CInt.toInt n ≠ 0)
        ⟨fun hne _ hn => by cases hn; exact hne, fun hall => hall n rfl⟩
  decidable_of_iff ((∀ n, a.buffers = .sequence n → CInt.toInt n ≠ 0) ∧
    (env.fails t.requests = false → Construction.Sound env t.next a.constructions))
    ⟨fun h => ⟨h.1, h.2⟩, fun h => ⟨h.1, h.2⟩⟩

variable {env : BuildEnv} {P : Multiset Resource} {t t' : Count} {β : Type}
  {S : Except Undefined β → Multiset Resource → Count → Prop}

/-! ## The destructor on a payload that is not set -/

/-- Without arrays, only the payload is freed. -/
theorem leads_abandonBare {α : Type} {payload : Payload} {mode : BufferMode}
    {k : Option α → Build β} (hmode : payload.mode = some mode) (h : Leads (k none) P t S) :
    Leads (abandon payload.bare >>= k) (.block payload.block ::ₘ P) t S := by
  have hfree : freeBufferPayload payload.bare true = free payload.block := by
    simp only [freeBufferPayload, Payload.bare, hmode, read_some, pure_bind, freeLinear, freeVector,
      Bool.true_eq_false, and_false, if_false]
  rw [abandon, hfree, bind_assoc]
  exact leads_free h

/-- Freeing the bytes of more elements than there are. -/
theorem leads_freeCells_overrun {cells : List (Option Entry)} {n : ℕ} {F : Multiset Resource}
    {k : Unit → Build β} (hlt : cells.length < n) (h : ∀ e P' t', S (.error e) P' t') :
    Leads (freeCells n cells >>= k) (cellsResources cells + F) t S := by
  induction cells generalizing n with
  | nil =>
    cases n with
    | zero => exact absurd hlt (Nat.not_lt_zero _)
    | succ n => exact .stop_bind (h ..)
  | cons cell cells ih =>
    cases n with
    | zero => exact absurd hlt (Nat.not_lt_zero _)
    | succ n =>
      have hrest := ih (Nat.lt_of_succ_lt_succ hlt)
      rw [freeCells, bind_assoc]
      -- An element that was never set, and the user's bytes, cannot be freed.
      cases cell with
      | none => exact .stop_bind (h ..)
      | some entry =>
        refine leads_read ?_
        rw [bind_assoc]
        obtain ⟨base, len⟩ := entry
        cases base with
        | null => exact hrest.cast (congrArg (· + F) (zero_add _).symm)
        | user addr => exact .stop_bind (h ..)
        | runtime b =>
          refine (leads_free hrest).cast ?_
          rw [← Multiset.singleton_add, ← add_assoc]
          rfl

/-- **Overrun.** With a linear array, the destructor frees the bytes of as many elements as the
payload says, if it says that the runtime allocated them. -/
theorem leads_abandon_overrun {α : Type} {p : Payload} {array : LinearArray} {mode : BufferMode}
    {amount : ℤ} {k : Option α → Build β} (hmode : p.mode = some mode)
    (horigin : p.payload_origin = some .PAYLOAD_RUNTIME) (hamount : p.amount = some amount)
    (hlinear : p.linear = some (some array)) (hlt : array.cells.length < amount.toNat)
    (hheld : cellsResources array.cells ≤ P) (h : ∀ e P' t', S (.error e) P' t') :
    Leads (abandon p >>= k) P t S := by
  obtain ⟨F, rfl⟩ := exists_add_of_le hheld
  unfold abandon freeBufferPayload freeLinear
  simp only [hmode, hlinear, horigin, hamount, read_some, pure_bind, Bool.true_eq_false, and_false,
    if_false, if_true, bind_assoc]
  exact leads_freeCells_overrun hlt h

/-! ## The constructors in turn -/

section Sound

variable {c : Construction} {cs : List Construction}

/-- Where a constructor fails and unwinds, the call ends. -/
theorem Failed.sound (h : Failed env t t' c.unwinds) : Construction.Sound env t (c :: cs) :=
  fun hgranted => absurd hgranted h.refused

/-- A construction that starts in a bare state is not sound. -/
theorem Construction.Bare.not_sound (h : c.Bare env t t') : ¬ Construction.Sound env t (c :: cs) :=
  fun hsound => (hsound (granted_append.mp h.took.granted).1).2.1 h.touches h.entries

/-- A construction that loses an allocation is not sound. -/
theorem Construction.Lost.not_sound (h : c.Lost env t t') : ¬ Construction.Sound env t (c :: cs) :=
  fun hsound => h.refused (hsound h.granted).1

/-- Where a constructor goes through, the next one matters. -/
theorem Construction.Done.sound_iff (h : c.Done env t t') :
    Construction.Sound env t (c :: cs) ↔ Construction.Sound env t' cs := by
  obtain ⟨hunwinds, hloses⟩ := granted_append.mp h.took.granted
  rw [h.took.count]
  constructor
  · intro hsound
    exact (hsound hunwinds).2.2
  · intro hsound _
    exact ⟨hloses, h.touched, hsound⟩

end Sound

/-! ## The whole call -/

section Call

variable {a : BufferArgs} {g : Garbage} {cs : List Construction} {payload : Payload}

/-- The outcome is as the claim on counts says exactly if `Q` holds. -/
def BufferArgs.Says (a : BufferArgs) (Q : Prop) (o : Except Undefined (Option Payload))
    (_ : Multiset Resource) (_ : Count) : Prop := a.Counted o ↔ Q

variable {Q : Prop} {P' : Multiset Resource}

/-- Undefined behaviour says the opposite of what was to hold. -/
theorem says_error {e : Undefined} (hQ : ¬ Q) : a.Says Q (.error e) P' t :=
  iff_of_false not_false hQ

/-- A raise says what was to hold. -/
theorem says_raises (hQ : Q) : a.Says Q (.ok none) P' t := iff_of_true trivial hQ

/-- The memory of the payload held the origin of the runtime's buffers and a larger amount. -/
structure Garbage.Overruns (g : Garbage) (a : BufferArgs) : Prop where
  /-- The destructor looks for buffers of the runtime. -/
  origin : g.payload_origin = .PAYLOAD_RUNTIME
  /-- It looks for more of them than there are. -/
  amount : a.metadata.amount.toNat < g.amount.toNat

/-- The fields that the destructor reads are as `malloc` left them. -/
structure Payload.Fresh (payload : Payload) (g : Garbage) : Prop where
  /-- The field `mode` holds what the memory held. -/
  mode : payload.mode = some g.mode
  /-- So does the field `payload_origin`. -/
  origin : payload.payload_origin = some g.payload_origin
  /-- So does the field `amount`. -/
  amount : payload.amount = some g.amount

/-- **A linear array**, and then the constructors `cs`. -/
theorem says_fillLinear {k : Option Payload → Build (Option Payload)} (hnone : k none = pure none)
    (hsome : ∀ c b v t', 0 ≤ a.metadata.amount → Built env t t' a.metadata.amount.toNat
        a.metadata.bufsize a.metadata.payload_origin c →
      (Construction.linear a.metadata).Done env t t' →
      Leads (k (some { payload with linear := some (some (c.linear b v)), vector := some none }))
        (.block b ::ₘ (c.held v + P)) t' (a.Says (Construction.Sound env t' cs))) :
    Leads (fillLinear env a.metadata payload >>= k) P t
      (a.Says (Construction.Sound env t (.linear a.metadata :: cs))) := by
  refine leads_fillLinear (fun t' hfailed => ?_) (fun P' t' hbare => says_error hbare.not_sound)
    fun c b v t' hlen hbuilt hdone => ?_
  · rw [hnone]
    exact .pure (says_raises hfailed.sound)
  · exact (hsome c b v t' hlen hbuilt hdone).mono fun o P' t' h => h.trans hdone.sound_iff.symm

/-- **A vector**, and then the constructors `cs`. -/
theorem says_fillVector {k : Option Payload → Build (Option Payload)} (hnone : k none = pure none)
    (hsome : ∀ (c : Content) b iovecs v t',
      (Construction.vector a.buffers.items a.vecs a.metadata.bufsize).Done env t t' →
      Leads (k (some { payload with
          vector := some (some (c.vector b iovecs v)), linear := some none }))
        (.block iovecs ::ₘ .block b ::ₘ (c.held v + P)) t'
        (a.Says (Construction.Sound env t' cs))) :
    Leads (fillVector env a.buffers.items a.metadata payload >>= k) P t
      (a.Says (Construction.Sound env t
        (.vector a.buffers.items a.vecs a.metadata.bufsize :: cs))) := by
  have hruntime : a.buffers.items = none → a.vecs = a.metadata.amount := by
    unfold BufferArgs.vecs BufferArgs.metadata
    cases a.buffers with
    | absent => exact fun _ => rfl
    | unsized _ | sequence _ => exact fun h => by cases h
  have huser : ∀ n, a.buffers.items = some n → a.vecs = CInt.toInt n := by
    unfold BufferArgs.vecs
    cases a.buffers with
    | absent => exact fun _ h => by cases h
    | unsized _ | sequence _ => exact fun _ h => by cases h; rfl
  refine leads_fillVector hruntime huser (fun t' hfailed => ?_)
    fun c b iovecs v t' _ _ hdone => ?_
  · rw [hnone]
    exact .pure (says_raises hfailed.sound)
  · exact (hsome c b iovecs v t' hdone).mono fun o P' t' h => h.trans hdone.sound_iff.symm

/-- **Both arrays**, and then the constructors `cs`. If one fails where it does not unwind, the
destructor overruns for some memory of the payload. -/
theorem says_fillBoth {k : Option Payload → Build (Option Payload)} (hnone : k none = pure none)
    (hfresh : payload.Fresh g)
    (hgarbage : Construction.Sound env t (.both a.metadata :: cs) ∨ g.Overruns a)
    (hsome : ∀ c l b iovecs v t', 0 ≤ a.metadata.amount → Built env t t' a.metadata.amount.toNat
        a.metadata.bufsize a.metadata.payload_origin c →
      (Construction.both a.metadata).Done env t t' →
      Leads (k (some (c.both l b iovecs v payload)))
        (.block l ::ₘ .block b ::ₘ .block iovecs ::ₘ (c.held v + (P + {.block payload.block}))) t'
        (a.Says (Construction.Sound env t' cs))) :
    Leads (fillBoth env a.metadata payload >>= k) (P + {.block payload.block}) t
      (a.Says (Construction.Sound env t (.both a.metadata :: cs))) := by
  refine leads_fillBoth (fun F t' hfailed => ?_) (fun p P' t' hlost hhalf => ?_)
    (fun P' t' hbare => says_error hbare.not_sound) fun c l b iovecs v t' hlen hbuilt hdone _ => ?_
  · -- The first steps fail: there is no array yet.
    refine (leads_abandonBare (P := F + P) hfresh.mode ?_).cast ?_
    · rw [hnone]
      exact .pure (says_raises hfailed.sound)
    · rw [← Multiset.singleton_add, add_comm, add_assoc]
  · -- Another step fails: the destructor finds a linear array.
    obtain ⟨array, hlinear, hlength, hheld⟩ := hhalf.linear
    have hoverruns : g.Overruns a := hgarbage.resolve_left hlost.not_sound
    have horigin := hhalf.origin.trans hfresh.origin
    rw [hoverruns.origin] at horigin
    refine leads_abandon_overrun (hhalf.mode.trans hfresh.mode) horigin
      (hhalf.amount.trans hfresh.amount) hlinear ?_ hheld fun e P' t' => says_error hlost.not_sound
    rw [hlength]
    exact hoverruns.amount
  · exact (hsome c l b iovecs v t' hlen hbuilt hdone).mono fun o P' t' h =>
      h.trans hdone.sound_iff.symm

/-- The fields that are set at the end. -/
def BufferArgs.stamp (a : BufferArgs) (payload_type : PayloadType) (payload : Payload) : Payload :=
  { payload with
    amount := some a.metadata.amount
    payload_origin := some a.metadata.payload_origin
    mode := some a.mode
    payload_type := some payload_type }

/-- What follows the switch over the mode. -/
def BufferArgs.finish (a : BufferArgs) (x : Option Payload × PayloadType) :
    Build (Option Payload) := pure (x.1.map (a.stamp x.2))

/-- The number of the items of a sequence, as an `int`. -/
theorem BufferArgs.amount_sequence {n : ℕ} (h : a.buffers = .sequence n) :
    a.metadata.amount = CInt.toInt n := by
  unfold metadata
  rw [h]

/-- The metadata's number is an `int`. -/
theorem BufferArgs.isInt_amount (a : BufferArgs) : CInt.IsInt a.metadata.amount := by
  cases hbuffers : a.buffers with
  | absent =>
    unfold metadata
    rw [hbuffers]
    exact a.amount_isInt
  | unsized =>
    unfold metadata
    rw [hbuffers]
    exact show CInt.IsInt 0 by decide
  | sequence n =>
    rw [a.amount_sequence hbuffers]
    exact CInt.isInt_toInt n

section Exact

variable {c : Content} {b l iovecs v : ℕ} {payload_type : PayloadType}
  (hlen : 0 ≤ a.metadata.amount) (hlength : c.length = a.metadata.amount.toNat)

include hlen hlength

/-- The linear array of a content has its elements, and its views. -/
theorem exact_linear : (a.stamp payload_type { payload with
    linear := some (some (c.linear b v)), vector := some none }).Exact a.metadata.amount := by
  have hcast : (c.length : ℤ) = a.metadata.amount := by omega
  refine ⟨rfl, fun array h => ?_, fun array views h hviews => ?_, fun _ h => by cases h⟩
  · cases h
    rw [← hcast]
    exact congrArg Nat.cast c.length_cells
  · cases h
    cases c with
    | runtime => cases hviews
    | user vs =>
      cases hviews
      rw [← hcast]
      exact congrArg Nat.cast (List.length_map _)

/-- So have both arrays. -/
theorem exact_both : (a.stamp payload_type (c.both l b iovecs v payload)).Exact
    a.metadata.amount := by
  have hcast : (c.length : ℤ) = a.metadata.amount := by omega
  have hcells : (c.cells.length : ℤ) = a.metadata.amount := by rw [c.length_cells, hcast]
  refine ⟨rfl, fun array h => ?_, fun array views h hviews => ?_, fun vector h => ?_⟩
  · cases h
    exact hcells
  · cases h
    change c.hung v = some (some views) at hviews
    unfold Content.hung at hviews
    split at hviews
    · cases hviews
    · cases c with
      | runtime => cases hviews
      | user vs =>
        cases hviews
        rw [← hcast]
        exact congrArg Nat.cast (List.length_map _)
  · cases h
    have hint := a.isInt_amount
    unfold CInt.IsInt at hint
    refine ⟨?_, _, rfl, hcells⟩
    rw [← hlength]
    exact congrArg some (CInt.toUnsigned_natCast (by omega))

end Exact

/-- **The linear array**, for the modes with a group of buffers. -/
theorem says_onlyLinear :
    Leads ((do
        let filled ← fillLinear env a.metadata payload
        pure (filled, PayloadType.PAYLOAD_LINEAR)) >>= a.finish)
      P t (a.Says (Construction.Sound env t [.linear a.metadata])) := by
  rw [bind_assoc]
  refine says_fillLinear rfl fun c b v t' hlen hbuilt _ => ?_
  exact .pure (iff_of_true (exact_linear hlen hbuilt.length_eq) trivial)

/-- **Both arrays**, for `FIXED`, and for `NORMAL_BUF` once more. -/
theorem says_onlyBoth (hfresh : payload.Fresh g)
    (hgarbage : Construction.Sound env t [.both a.metadata] ∨ g.Overruns a) :
    Leads ((do
        let filled ← fillBoth env a.metadata payload
        pure (filled, PayloadType.PAYLOAD_LINEAR_AND_IOVEC)) >>= a.finish)
      (P + {.block payload.block}) t (a.Says (Construction.Sound env t [.both a.metadata])) := by
  rw [bind_assoc]
  refine says_fillBoth rfl hfresh hgarbage fun c l b iovecs v t' hlen hbuilt _ => ?_
  exact .pure (iff_of_true (exact_both hlen hbuilt.length_eq) trivial)

/-- **The switch** over the mode. -/
theorem says_switch (hfresh : payload.Fresh g)
    (hgarbage : Construction.Sound env t a.constructions ∨ g.Overruns a) :
    Leads (fillPayload env a.mode a.payload_type a.buffers.items a.metadata a.rand payload >>=
      a.finish) {.block payload.block} t (a.Says (Construction.Sound env t a.constructions)) := by
  unfold BufferArgs.constructions at hgarbage ⊢
  cases hmode : a.mode with
  | FIXED =>
    rw [hmode] at hgarbage
    exact (says_onlyBoth (P := 0) hfresh hgarbage).cast (zero_add _)
  | PROVIDED => exact says_onlyLinear
  | BUF_RING => exact says_onlyLinear
  | NORMAL_BUF =>
    rw [hmode] at hgarbage
    unfold BufferArgs.requested at hgarbage ⊢
    -- The arrays that the type asks for, and then, whatever they are, both once more.
    cases htype : a.payload_type with
    | PAYLOAD_LINEAR =>
      rw [htype] at hgarbage
      dsimp only [fillPayload]
      rw [bind_assoc]
      refine says_fillLinear rfl fun c b v t' _ _ hdone => ?_
      refine (says_onlyBoth (P := .block b ::ₘ c.held v) ⟨hfresh.mode, hfresh.origin, hfresh.amount⟩
        (hgarbage.imp_left hdone.sound_iff.mp)).cast ?_
      rw [Multiset.cons_add]
    | PAYLOAD_IOVEC =>
      rw [htype] at hgarbage
      dsimp only [fillPayload]
      rw [bind_assoc]
      refine says_fillVector rfl fun c b iovecs v t' hdone => ?_
      refine (says_onlyBoth (P := .block iovecs ::ₘ .block b ::ₘ c.held v)
        ⟨hfresh.mode, hfresh.origin, hfresh.amount⟩ (hgarbage.imp_left hdone.sound_iff.mp)).cast ?_
      rw [Multiset.cons_add, Multiset.cons_add]
    | PAYLOAD_LINEAR_AND_IOVEC =>
      rw [htype] at hgarbage
      dsimp only [fillPayload]
      rw [bind_assoc, ← zero_add ({Resource.block payload.block} : Multiset Resource)]
      refine says_fillBoth rfl hfresh hgarbage fun c l b iovecs v t' _ _ hdone => ?_
      refine (says_onlyBoth (P := .block l ::ₘ .block b ::ₘ .block iovecs ::ₘ c.held v)
        ⟨hfresh.mode, hfresh.origin, hfresh.amount⟩ (hgarbage.imp_left hdone.sound_iff.mp)).cast ?_
      rw [Multiset.cons_add, Multiset.cons_add, Multiset.cons_add, zero_add]

/-- The metadata are read unless the length of a sequence is zero as an `int`. -/
theorem BufferArgs.getBufferMetadata_eq
    (hlength : ∀ n, a.buffers = .sequence n → CInt.toInt n ≠ 0) :
    a.getBufferMetadata = pure a.metadata := by
  unfold getBufferMetadata Blocks.getBufferMetadata metadata
  cases hbuffers : a.buffers with
  | absent => rfl
  | unsized => rfl
  | sequence n => exact if_neg (hlength n hbuffers)

/-- **`create_buffer_payload`**, for memory of the payload of which a fault is due where the call is
not sound. -/
theorem says_create (hgarbage : a.Sound env t ∨ g.Overruns a) :
    Leads (a.create env g) 0 t (a.Says (a.Sound env t)) := by
  unfold BufferArgs.create
  by_cases hlength : ∀ n, a.buffers = .sequence n → CInt.toInt n ≠ 0
  · rw [BufferArgs.getBufferMetadata_eq hlength, pure_bind]
    unfold createFrom
    refine leads_malloc (fun hdenied => ?_) fun _ hgranted => ?_
    · -- Without a payload, no constructor runs.
      have hfails : env.fails t.requests = true := hdenied.resolve_left (by omega)
      exact .pure (says_raises ⟨hlength,
        fun hgranted => by rw [hfails] at hgranted; cases hgranted⟩)
    · have hsound : a.Sound env t ↔ Construction.Sound env t.next a.constructions :=
        ⟨fun h => h.constructions hgranted, fun h => ⟨hlength, fun _ => h⟩⟩
      refine (says_switch ⟨rfl, rfl, rfl⟩ (hgarbage.imp_left hsound.mp)).mono fun o P' t' h => ?_
      exact h.trans hsound.symm
  · -- The length is divided by itself.
    have hunsound : ¬ a.Sound env t := fun h => hlength h.length
    rw [not_forall] at hlength
    obtain ⟨n, hn⟩ := hlength
    rw [Classical.not_imp, not_not] at hn
    have hdivides : a.getBufferMetadata = stop .division := by
      unfold BufferArgs.getBufferMetadata
      rw [hn.1]
      exact getBufferMetadata_divides _ _ hn.2
    rw [hdivides]
    exact .stop_bind (says_error hunsound)

end Call

/-- **When buffer counts are safe.** Whatever the memory of the payload held, the call meets no
division by zero and no access outside of an array, and raises or returns a payload whose arrays
have exactly `amount` elements: exactly if the length of a sequence is not zero as an `int`, and
each constructor that runs fails where it unwinds, or goes through and has a first element if it
writes a field of it. -/
theorem BufferArgs.safe_iff (a : BufferArgs) (env : BuildEnv) (s : Books Resource Count) :
    a.Safe env s ↔ a.Sound env s.rest := by
  constructor
  · intro hsafe
    -- Memory in which the origin is the runtime's and the amount too large.
    have hamount : a.metadata.amount.toNat < (a.metadata.amount.toNat + 1 : ℤ).toNat := by omega
    have hoverruns : Garbage.Overruns
        ⟨.NORMAL_BUF, .PAYLOAD_RUNTIME, a.metadata.amount.toNat + 1⟩ a := ⟨rfl, hamount⟩
    obtain ⟨o, P', t', hrun, hsays⟩ := (says_create (t := s.rest) (.inr hoverruns)).run
    have hcounted := hsafe ⟨.NORMAL_BUF, .PAYLOAD_RUNTIME, a.metadata.amount.toNat + 1⟩
    rw [hrun] at hcounted
    exact hsays.mp hcounted
  · intro hsound g
    obtain ⟨o, P', t', hrun, hsays⟩ := (says_create (g := g) (.inl hsound)).run
    rw [hrun]
    exact hsays.mpr hsound

/-! ## Four calls -/

/-- The fault that a call meets. -/
def BufferArgs.fault (a : BufferArgs) (env : BuildEnv) (g : Garbage)
    (s : Books Resource Count) : Option Undefined :=
  match (a.create env g s).1 with
  | .error e => some e
  | .ok _ => none

/-- Buffers with the defaults of the call. -/
def BufferArgs.sample (mode : BufferMode) (buffers : BuffersArg) : BufferArgs :=
  ⟨mode, .PAYLOAD_LINEAR, buffers, 3, 1024, 0, by decide, by decide⟩

/-- No buffers of the runtime. -/
def BufferArgs.zero : BufferArgs :=
  { BufferArgs.sample .PROVIDED .absent with amount := 0, amount_isInt := CInt.isInt_zero }

/-- Buffers of a negative size. -/
def BufferArgs.negative : BufferArgs :=
  ⟨.FIXED, .PAYLOAD_LINEAR, .absent, 3, -1, 0, by decide, by decide⟩

/-- A call that meets a fault is not safe. -/
theorem BufferArgs.not_safe_of_fault {a : BufferArgs} {g : Garbage} {s : Books Resource Count}
    {e : Undefined} (h : a.fault env g s = some e) : ¬ a.Safe env s := fun hsafe => by
  have hcounted := hsafe g
  unfold fault at h
  split at h
  · next heq =>
    rw [heq] at hcounted
    exact hcounted
  · cases h

/-- An empty list divides by zero; an object that is no sequence, and no buffers of the runtime,
make the call write behind an array without elements; buffers of a negative size make the destructor
read behind an array, for some memory of the payload. Nothing fails but the allocation of a negative
number of bytes. -/
theorem counts_unsafe :
    ¬ (BufferArgs.sample .FIXED (.sequence 0)).Safe .calm Books.start ∧
    ¬ (BufferArgs.sample .FIXED (.unsized 0)).Safe .calm Books.start ∧
    ¬ BufferArgs.zero.Safe .calm Books.start ∧
    ¬ BufferArgs.negative.Safe .calm Books.start := by
  have hdivides : (BufferArgs.sample .FIXED (.sequence 0)).fault .calm
      ⟨.NORMAL_BUF, .PAYLOAD_USER, 0⟩
      Books.start = some .division := by decide +kernel
  have hunsized : (BufferArgs.sample .FIXED (.unsized 0)).fault .calm
      ⟨.NORMAL_BUF, .PAYLOAD_USER, 0⟩
      Books.start = some .outside := by decide +kernel
  have hzero : BufferArgs.zero.fault .calm ⟨.NORMAL_BUF, .PAYLOAD_USER, 0⟩ Books.start =
      some .outside := by decide +kernel
  have hnegative : BufferArgs.negative.fault .calm ⟨.NORMAL_BUF, .PAYLOAD_RUNTIME, 4⟩ Books.start =
      some .outside := by decide +kernel
  exact ⟨BufferArgs.not_safe_of_fault hdivides, BufferArgs.not_safe_of_fault hunsized,
    BufferArgs.not_safe_of_fault hzero, BufferArgs.not_safe_of_fault hnegative⟩

end Uringio.Blocks
