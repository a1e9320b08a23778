import Uringio.Buffers.Created

/-!
# What `create_buffer_payload` builds

Where nothing fails, `create_buffer_payload` builds what was requested in the modes other than
`NORMAL_BUF`, if the number of the user's buffers is an `int`. In `NORMAL_BUF` it never does: the
missing `break` makes every payload one of both arrays, a user's buffer is acquired twice, and the
arrays that were built first are out of reach.
-/

namespace Uringio.Blocks

open Ledger

/-! ## What was requested -/

/-- The number of the buffers that were requested. -/
def Request.count (r : Request) : ℤ :=
  match r.sequence with
  | none => r.amount
  | some n => n

/-- Some buffers are requested, of a size. -/
structure Request.Valid (r : Request) : Prop where
  /-- There is at least one buffer. -/
  count : 1 ≤ r.count
  /-- The size of the buffers of the runtime is not negative. -/
  bufsize : r.sequence = none → 0 ≤ r.bufsize

/-- The linear array was requested. -/
def Request.WantsLinear (r : Request) : Prop :=
  r.mode = .NORMAL_BUF → r.payload_type ≠ .PAYLOAD_IOVEC

/-- The vector was requested. -/
def Request.WantsVector (r : Request) : Prop :=
  r.mode = .FIXED ∨ r.mode = .NORMAL_BUF ∧ r.payload_type ≠ .PAYLOAD_LINEAR

/-- The elements of an array describe the user's buffers, of which views were acquired on the way
from `s` to `s'` and are held, or blocks of the requested size that were allocated on the way and
are held. -/
def Request.Describes (r : Request) (env : BuildEnv) (s s' : Books Resource Count)
    (cells : List (Option Entry)) : Prop :=
  match r.sequence with
  | some n => cells.length = n ∧ ∀ i < n, ∃ k g, env.region k i = some g ∧
      .view k ∈ s'.held - s.held ∧ cells[i]? = some (some ⟨.user g.addr, g.len⟩)
  | none => ∃ bs : List ℕ, bs.length = r.amount ∧ bs.Nodup ∧
      (∀ b ∈ bs, s.rest.requests ≤ b ∧ b < s'.rest.requests ∧ .block b ∈ s'.held - s.held) ∧
      cells = bs.map fun b => some ⟨.runtime b, r.bufsize.toNat⟩

/-- The payload is the one that was requested, and owns what was taken on the way from `s` to
`s'`. -/
structure Request.Met (r : Request) (env : BuildEnv) (s s' : Books Resource Count) (p : Payload) :
    Prop where
  /-- The mode is the one that was asked for. -/
  mode : p.mode = some r.mode
  /-- The number of buffers is the one that was asked for. -/
  amount : p.amount = some r.count
  /-- The buffers are the user's exactly if there is a sequence. -/
  origin : p.payload_origin = some .PAYLOAD_USER ↔ r.sequence.isSome = true
  /-- In the mode `NORMAL_BUF`, the payload type is the one that was asked for. -/
  payload_type : r.mode = .NORMAL_BUF → p.payload_type = some r.payload_type
  /-- The linear array describes the buffers where it is wanted. -/
  linear : r.WantsLinear → ∃ a, p.linear = some (some a) ∧ r.Describes env s s' a.cells
  /-- There is none where it is not. -/
  no_linear : ¬ r.WantsLinear → p.linear = some none
  /-- The vector describes the buffers where it is wanted. -/
  vector : r.WantsVector → ∃ v a, p.vector = some (some v) ∧ v.iovecs = some (some a) ∧
    r.Describes env s s' a.cells
  /-- There is none where it is not. -/
  no_vector : ¬ r.WantsVector → p.vector = some none
  /-- Each item of the sequence was acquired once. -/
  acquired : s'.rest.acquired = s.rest.acquired ++ List.range (r.sequence.getD 0)
  /-- What the payload was made of can be reached from it. -/
  reachable : ∀ x ∈ s'.held - s.held, p.Reaches x

/-- The call returns the payload that was requested. -/
def Request.Builds (r : Request) (env : BuildEnv) (s : Books Resource Count) : Prop :=
  ∃ p s', r.create env s = (.ok (some p), s') ∧ r.Met env s s' p

/-- The call goes through without a failed allocation or acquisition. -/
def Request.Smooth (r : Request) (env : BuildEnv) (s : Books Resource Count) : Prop :=
  (r.create env s).2.rest.failures = s.rest.failures

/-! ## What was built -/

variable {env : BuildEnv} {r : Request} {s s' : Books Resource Count}

/-- The views describe the buffers at their positions. -/
theorem BuildEnv.Describes.get {i : ℕ} {vs : List View} (h : env.Describes i vs) {j : ℕ} {v : View}
    (hj : vs[j]? = some v) : env.region v.name (i + j) = some v.region := by
  induction vs generalizing i j with
  | nil => simp at hj
  | cons w vs ih =>
    cases j with
    | zero =>
      obtain rfl : w = v := by simpa using hj
      exact h.1
    | succ j =>
      have hnext := ih h.2 (by simpa using hj)
      rw [Nat.add_right_comm] at hnext
      exact hnext

/-- A view of a list of views is among what they hold. -/
theorem mem_viewsOf {vs : List View} {j : ℕ} {v : View} (hj : vs[j]? = some v) :
    .view v.name ∈ viewsOf vs :=
  Multiset.mem_coe.mpr (List.mem_map.mpr ⟨v, List.mem_of_getElem? hj, rfl⟩)

/-- **The elements** of arrays with a content that was built describe what was requested. -/
theorem Request.describes_of_built (hvalid : r.Valid) (hcount : r.count = r.metadata.amount)
    {c : Content} {v : ℕ} (hbuilt : Built env s.rest s'.rest r.metadata.amount.toNat
      r.metadata.bufsize r.metadata.payload_origin c)
    (hheld : ∀ x ∈ c.held v, x ∈ s'.held - s.held) : r.Describes env s s' c.cells := by
  unfold Request.Describes
  rw [← hcount] at hbuilt
  unfold Request.count Request.metadata at hbuilt
  cases hsequence : r.sequence with
  | none =>
    have hsize : CInt.toU64 r.bufsize = r.bufsize.toNat := by
      have hnonneg := hvalid.bufsize hsequence
      have hint := r.bufsize_isInt
      unfold CInt.IsInt at hint
      unfold CInt.toU64
      omega
    have hpos : 1 ≤ r.amount := by
      have h := hvalid.count
      unfold Request.count at h
      rwa [hsequence] at h
    rw [hsequence] at hbuilt
    cases hbuilt with
    | @runtime bs hlength hwent hnamed =>
      refine ⟨bs, ?_, hnamed.nodup, fun b hb => ?_, ?_⟩
      · dsimp only at hlength
        omega
      · obtain ⟨hlow, hhigh⟩ := hnamed.between b hb
        exact ⟨hlow, hhigh, hheld _ (Multiset.mem_coe.mpr (List.mem_map_of_mem hb))⟩
      · simp [Content.cells, Content.entries, entriesOf, hsize]
  | some n =>
    rw [hsequence] at hbuilt
    cases hbuilt with
    | @user vs hlength hwent hdescribes =>
      have hlen : vs.length = n := by simpa using hlength
      refine ⟨?_, fun i hi => ?_⟩
      · rw [Content.length_cells]
        exact hlen
      · obtain ⟨w, hw⟩ : ∃ w, vs[i]? = some w := ⟨_, List.getElem?_eq_getElem (by omega)⟩
        have hregion := hdescribes.get hw
        rw [Nat.zero_add] at hregion
        refine ⟨w.name, w.region, hregion, hheld _ ?_, ?_⟩
        · exact Multiset.mem_cons_of_mem (mem_viewsOf hw)
        · simp [Content.cells, Content.entries, hw, View.entry]

/-- The slots of an array of views hold the views. -/
theorem resources_slots (vs : List View) :
    ((vs.map Slot.view).map Slot.resources).sum = viewsOf vs := by
  induction vs with
  | nil => rfl
  | cons w vs ih =>
    rw [List.map_cons, List.map_cons, List.sum_cons, ih]
    exact Multiset.singleton_add _ _

/-- **The content** is what the elements and the views of an array reach. -/
theorem Content.held_eq (c : Content) (v : ℕ) :
    c.held v = cellsResources c.cells + pointee ViewArray.resources (some (c.hang v)) := by
  cases c with
  | user vs =>
    rw [cellsResources_user, zero_add]
    change _ = {.block v} + ((vs.map Slot.view).map Slot.resources).sum
    rw [resources_slots, Multiset.singleton_add]
    rfl
  | runtime bufsize bs =>
    change blocks bs = cellsResources ((entriesOf bufsize bs).map some) + 0
    rw [add_zero, cellsResources_entriesOf]

/-- **What a linear array reaches.** -/
theorem Content.resources_linear (c : Content) (b v : ℕ) :
    (c.linear b v).resources = .block b ::ₘ c.held v := by
  rw [c.held_eq, ← Multiset.singleton_add]
  rfl

/-- **The acquisitions** on the way: one for each of the user's buffers, in order. -/
theorem Request.acquired_of_built (hcount : r.count = r.metadata.amount) {c : Content}
    {t t' : Count} (hbuilt : Built env t t' r.metadata.amount.toNat r.metadata.bufsize
      r.metadata.payload_origin c) :
    t'.acquired = t.acquired ++ List.range (r.sequence.getD 0) := by
  rw [← hcount] at hbuilt
  unfold Request.count Request.metadata at hbuilt
  cases hsequence : r.sequence with
  | none =>
    rw [hsequence] at hbuilt
    cases hbuilt with
    | runtime _ hwent _ => exact hwent.acquired
  | some n =>
    rw [hsequence] at hbuilt
    cases hbuilt with
    | user _ hwent _ => exact hwent.acquired

/-- The origin that is stamped is `PAYLOAD_USER` exactly when buffers were given. -/
theorem Request.stamp_origin (r : Request) :
    some r.metadata.payload_origin = some .PAYLOAD_USER ↔ r.sequence.isSome = true := by
  rw [r.origin_eq, originOf]
  cases r.sequence <;> simp

section Met

variable (hvalid : r.Valid) (hcount : r.count = r.metadata.amount) {c : Content} {v : ℕ}
  (hbuilt : Built env s.rest s'.rest r.metadata.amount.toNat r.metadata.bufsize
    r.metadata.payload_origin c)

include hvalid hcount hbuilt

/-- **One array** is what the modes with a group of buffers request. -/
theorem Request.met_linear {b : ℕ} {bgid : Option ℤ}
    (hmode : r.mode = .PROVIDED ∨ r.mode = .BUF_RING)
    (hheld : s'.held - s.held = .block b ::ₘ (c.held v + {.block s.rest.requests})) :
    r.Met env s s' (r.stamp .PAYLOAD_LINEAR { Payload.new s.rest.requests with
      bgid := bgid, linear := some (some (c.linear b v)), vector := some none }) := by
  have hnormal : r.mode ≠ .NORMAL_BUF := by rcases hmode with h | h <;> simp [h]
  have hfixed : r.mode ≠ .FIXED := by rcases hmode with h | h <;> simp [h]
  have hdescribes : r.Describes env s s' c.cells :=
    r.describes_of_built (v := v) hvalid hcount hbuilt fun x hx => by simp [hheld, hx]
  exact {
    mode := rfl
    amount := congrArg some hcount.symm
    origin := r.stamp_origin
    payload_type := fun h => absurd h hnormal
    linear := fun _ => ⟨_, rfl, hdescribes⟩
    no_linear := fun h => absurd (fun hmode => absurd hmode hnormal) h
    vector := fun h => absurd h (by simp [Request.WantsVector, hnormal, hfixed])
    no_vector := fun _ => rfl
    acquired := r.acquired_of_built hcount hbuilt
    reachable := fun x hx => by
      rw [hheld, ← Multiset.cons_add] at hx
      rcases Multiset.mem_add.mp hx with hx | hx
      · refine .inr (.inl ?_)
        change x ∈ (c.linear b v).resources
        rw [c.resources_linear]
        exact hx
      · exact .inl (Multiset.mem_singleton.mp hx) }

/-- **Both arrays** are what `FIXED` requests. -/
theorem Request.met_both {l b iovecs : ℕ} (hmode : r.mode = .FIXED)
    (hheld : s'.held - s.held = .block l ::ₘ .block b ::ₘ .block iovecs ::ₘ
      (c.held v + {.block s.rest.requests})) :
    r.Met env s s' (r.stamp .PAYLOAD_LINEAR_AND_IOVEC
      (c.both l b iovecs v (freshPayload s.rest))) := by
  have hnormal : r.mode ≠ .NORMAL_BUF := by simp [hmode]
  have hdescribes : r.Describes env s s' c.cells :=
    r.describes_of_built (v := v) hvalid hcount hbuilt fun x hx => by simp [hheld, hx]
  have hlength : c.length ≠ 0 := by
    have hpos := hvalid.count
    rw [hbuilt.length_eq]
    omega
  exact {
    mode := rfl
    amount := congrArg some hcount.symm
    origin := r.stamp_origin
    payload_type := fun h => absurd h hnormal
    linear := fun _ => ⟨_, rfl, hdescribes⟩
    no_linear := fun h => absurd (fun hmode => absurd hmode hnormal) h
    vector := fun _ => ⟨_, _, rfl, rfl, hdescribes⟩
    no_vector := fun h => absurd (.inl hmode) h
    acquired := r.acquired_of_built hcount hbuilt
    reachable := fun x hx => by
      rw [hheld] at hx
      simp only [Multiset.mem_cons, Multiset.mem_add, Multiset.mem_singleton] at hx
      have hlinear : pointee LinearArray.resources (some (some ⟨l, c.cells, c.hung v⟩)) =
          .block l ::ₘ c.held v := by
        rw [Content.hung_eq hlength]
        exact c.resources_linear l v
      rcases hx with rfl | rfl | rfl | hx | rfl
      · exact .inr (.inl (by rw [Request.stamp, Content.both, hlinear]; simp))
      · exact .inr (.inr (.inl (by simp [Request.stamp, Content.both, pointee, Vectored.arrays])))
      · exact .inr (.inr (.inl (by simp [Request.stamp, Content.both, pointee, Vectored.arrays])))
      · exact .inr (.inl (by rw [Request.stamp, Content.both, hlinear]; simp [hx]))
      · exact .inl rfl }

end Met

/-! ## The fall through -/

/-- The blocks that a payload with both arrays of the runtime reaches were allocated for it. -/
theorem Request.requests_le_of_reaches {t t' t₀ : Count} {n : ℕ} {bufsize : ℤ} {c : Content}
    {l b iovecs v x : ℕ} {payload_type : PayloadType} (hlength : c.length ≠ 0)
    (hbuilt : Built env t t' n bufsize .PAYLOAD_RUNTIME c) (hnamed : Named t t' [l, b, iovecs])
    (hreach : (r.stamp payload_type (c.both l b iovecs v (freshPayload t₀))).Reaches (.block x)) :
    x = t₀.requests ∨ t.requests ≤ x := by
  have hblock : ∀ y ∈ [l, b, iovecs], t.requests ≤ y := fun y hy => (hnamed.between y hy).1
  cases hbuilt with
  | @runtime bs _ _ hbs =>
    have hbytes : ∀ y, .block y ∈ blocks bs → t.requests ≤ y := fun y hy => by
      obtain ⟨z, hz, heq⟩ := List.mem_map.mp (Multiset.mem_coe.mp hy)
      cases heq
      exact (hbs.between _ hz).1
    have hcells : cellsResources (Content.runtime bufsize bs).cells = blocks bs :=
      cellsResources_entriesOf bufsize bs
    rcases hreach with h | h | h | h
    · exact .inl (Resource.block.inj h)
    · change _ ∈ pointee LinearArray.resources (some (some ⟨l, _, _⟩)) at h
      rw [Content.hung_eq hlength] at h
      change _ ∈ ((Content.runtime bufsize bs).linear l v).resources at h
      rw [Content.resources_linear] at h
      rcases Multiset.mem_cons.mp h with h | h
      · exact .inr (Resource.block.inj h ▸ hblock l (by simp))
      · exact .inr (hbytes x h)
    · simp only [Request.stamp, Content.both, pointee, Vectored.arrays, Content.vectorViews,
        Option.getD_some, Option.getD_none, Option.elim_some, Option.elim_none, add_zero,
        Multiset.mem_add, Multiset.mem_singleton, Resource.block.injEq] at h
      rcases h with rfl | rfl
      · exact .inr (hblock _ (by simp))
      · exact .inr (hblock _ (by simp))
    · change _ ∈ cellsResources (Content.runtime bufsize bs).cells at h
      rw [hcells] at h
      exact .inr (hbytes x h)

/-- The number of the user's buffers. -/
theorem Request.count_some {n : ℕ} (hsequence : r.sequence = some n) : r.count = n := by
  unfold Request.count
  rw [hsequence]

/-- **`NORMAL_BUF`**: the payload is not the requested one. -/
theorem Request.not_met_twice (hvalid : r.Valid) (hcount : r.count = r.metadata.amount)
    (hmode : r.mode = .NORMAL_BUF) {c₁ c : Content} {l b iovecs v₁ v : ℕ} {t₁ : Count}
    {Y : Multiset Resource}
    (hfirst : Built env s.rest t₁ r.metadata.amount.toNat r.metadata.bufsize
      r.metadata.payload_origin c₁)
    (hleft : r.payload_type = .PAYLOAD_LINEAR_AND_IOVEC →
      ∃ x, s.rest.requests < x ∧ x < t₁.requests ∧ .block x ∈ Y)
    (hbuilt : Built env t₁ s'.rest r.metadata.amount.toNat r.metadata.bufsize
      r.metadata.payload_origin c) (hnamed : Named t₁ s'.rest [l, b, iovecs])
    (hheld : s'.held - s.held = .block l ::ₘ .block b ::ₘ .block iovecs ::ₘ
      (c.held v + (Y + (c₁.held v₁ + {.block s.rest.requests})))) :
    ¬ r.Met env s s' (r.stamp .PAYLOAD_LINEAR_AND_IOVEC
      (c.both l b iovecs v (freshPayload s.rest))) := fun hmet => by
  have htype : r.payload_type = .PAYLOAD_LINEAR_AND_IOVEC :=
    (Option.some.inj (hmet.payload_type hmode)).symm
  have hpos := hvalid.count
  cases hsequence : r.sequence with
  | some n =>
    -- Each item was acquired twice.
    have hacquired := hmet.acquired
    rw [r.acquired_of_built hcount hbuilt, r.acquired_of_built hcount hfirst,
      hsequence] at hacquired
    have hlengths := congrArg List.length hacquired
    simp only [List.length_append, Option.getD_some, List.length_range] at hlengths
    have hcounted := r.count_some hsequence
    omega
  | none =>
    -- The first linear array is out of reach.
    obtain ⟨x, hlow, hhigh, hx⟩ := hleft htype
    have hreach := hmet.reachable (.block x) (by simp [hheld, hx])
    rw [r.origin_eq, hsequence] at hbuilt
    have hlength : c.length ≠ 0 := by
      rw [hbuilt.length_eq]
      omega
    rcases Request.requests_le_of_reaches hlength hbuilt hnamed hreach with h | h
    · omega
    · omega

/-- The number of buffers is the metadata's where it is an `int`. -/
theorem Request.count_eq (hlt : r.count < 2^31) : r.count = r.metadata.amount := by
  cases hsequence : r.sequence with
  | none =>
    unfold Request.count Request.metadata
    rw [hsequence]
  | some n =>
    have hcount := r.count_some hsequence
    rw [r.amount_eq n hsequence, CInt.toInt_natCast (by omega), hcount]

/-- The metadata's number is an `int`. -/
theorem Request.isInt_amount (r : Request) : CInt.IsInt r.metadata.amount := by
  cases hsequence : r.sequence with
  | none =>
    unfold Request.metadata
    rw [hsequence]
    exact r.amount_isInt
  | some n =>
    rw [r.amount_eq n hsequence]
    exact CInt.isInt_toInt n

/-- A sequence whose length as an `int` is zero is empty, or its length is no `int`. -/
theorem Request.toNat_amount_ne (hvalid : r.Valid) (hcount : r.count = r.metadata.amount) :
    r.metadata.amount.toNat ≠ 0 := by
  have hpos := hvalid.count
  omega

/-- **`create_buffer_payload`**, where something is requested and nothing fails, builds what was
requested exactly in the modes other than `NORMAL_BUF`, for a number of buffers that is an `int`. -/
theorem Request.builds_iff (hvalid : r.Valid) (hsmooth : r.Smooth env s) :
    r.Builds env s ↔ r.mode ≠ .NORMAL_BUF ∧ r.count < 2^31 := by
  obtain ⟨o, P', t', hrun, hcreated⟩ := (leads_create env r s.rest).run
  have hheld : P' + s.held - s.held = P' := add_tsub_cancel_right P' s.held
  have hfailures : t'.failures = s.rest.failures := by
    unfold Request.Smooth at hsmooth
    rwa [hrun] at hsmooth
  constructor
  · rintro ⟨p, s', hrun', hmet⟩
    rw [hrun] at hrun'
    obtain ⟨rfl, rfl⟩ := Prod.mk.inj hrun'
    have hcount : r.metadata.amount = r.count := by
      cases hcreated <;> exact Option.some.inj hmet.amount
    refine ⟨fun hmode => ?_, ?_⟩
    · cases hcreated with
      | linear _ hlinear => rcases hlinear with h | h <;> simp [hmode] at h
      | both hfixed => simp [hmode] at hfixed
      | twice _ _ hfirst hleft hbuilt hnamed =>
        exact r.not_met_twice hvalid hcount.symm hmode hfirst hleft hbuilt hnamed hheld hmet
    · have hint := r.isInt_amount
      unfold CInt.IsInt at hint
      omega
  · rintro ⟨hmode, hlt⟩
    have hcount := r.count_eq hlt
    have hne := r.toNat_amount_ne hvalid hcount
    cases hcreated with
    | divided hsequence hzero => exact absurd (by rw [r.amount_eq _ hsequence, hzero]; rfl) hne
    | denied hgo | leaked hgo | unwound hgo => omega
    | outside hzero => exact absurd hzero hne
    | linear _ hlinear _ hbuilt =>
      exact ⟨_, _, hrun, r.met_linear hvalid hcount hbuilt hlinear hheld⟩
    | both hfixed _ hbuilt => exact ⟨_, _, hrun, r.met_both hvalid hcount hbuilt hfixed hheld⟩
    | twice hnormal => exact absurd hnormal hmode

/-! ## Two calls -/

/-- Both arrays of the user's buffers are built. -/
theorem Request.builds_registered : Request.registered.Builds .calm Books.start :=
  (Request.builds_iff ⟨by decide, fun h => by cases h⟩ (by unfold Smooth; decide +kernel)).mpr
    ⟨by decide, by decide⟩

/-- The linear buffer that was requested is not the only array of the payload. -/
theorem Request.plain_not_built : Request.plain.Valid ∧ Request.plain.Smooth .calm Books.start ∧
    ¬ Request.plain.Builds .calm Books.start := by
  refine ⟨⟨by decide, fun _ => by decide⟩, by unfold Smooth; decide +kernel, ?_⟩
  rintro ⟨p, s', hrun, hmet⟩
  have htype : (Request.plain.create .calm Books.start).1.toOption.join.bind Payload.payload_type =
      some .PAYLOAD_LINEAR_AND_IOVEC := by decide +kernel
  rw [hrun] at htype
  change p.payload_type = _ at htype
  have hrequested : p.payload_type = some .PAYLOAD_LINEAR := hmet.payload_type rfl
  cases hrequested.symm.trans htype

end Uringio.Blocks
