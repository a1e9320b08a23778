import Uringio.Buffers.Rules

/-!
# The arrays that the constructors build

What the elements of an array describe is its content: the buffers of views, or blocks of the
runtime. Each constructor either fails, having given back what it took, or builds arrays of a
content that belongs to the request, holds their blocks, and holds what the content holds. The rules
below say so of a constructor and what follows it; only the constructors of both arrays do not give
back what they took, since they hand the payload to the destructor before its mode is set.
-/

namespace Uringio.Blocks

open Ledger

/-! ## Content -/

/-- What the elements of an array describe. -/
inductive Content
  | user (vs : List View)
  | runtime (bufsize : ℤ) (bs : List ℕ)

namespace Content

/-- The elements. -/
def entries : Content → List Entry
  | user vs => vs.map View.entry
  | runtime bufsize bs => entriesOf bufsize bs

/-- The elements, as an array that was filled. -/
def cells (c : Content) : List (Option Entry) := c.entries.map some

/-- The number of elements. -/
def length : Content → ℕ
  | user vs => vs.length
  | runtime _ bs => bs.length

/-- Who allocated the buffers. -/
def origin : Content → PayloadOrigin
  | user _ => .PAYLOAD_USER
  | runtime .. => .PAYLOAD_RUNTIME

/-- The array of views that hangs at the array, in the block `v`. -/
def hang (v : ℕ) : Content → Option ViewArray
  | user vs => some ⟨v, vs.map .view⟩
  | runtime .. => none

/-- What the content holds, with its array of views in the block `v`. -/
def held (v : ℕ) : Content → Multiset Resource
  | user vs => .block v ::ₘ viewsOf vs
  | runtime _ bs => blocks bs

/-- The linear array of a content. -/
def linear (c : Content) (b v : ℕ) : LinearArray := ⟨b, c.cells, some (c.hang v)⟩

/-- The vector of a content. -/
def vector (c : Content) (b iovecs v : ℕ) : Vectored :=
  ⟨b, some (some ⟨iovecs, c.cells⟩), some (CInt.toUnsigned c.length), some (c.hang v)⟩

/-- The content has an entry for each of its items. -/
@[simp] theorem length_entries (c : Content) : c.entries.length = c.length := by
  cases c <;> simp [entries, length]

/-- The content has a cell for each of its items. -/
@[simp] theorem length_cells (c : Content) : c.cells.length = c.length := by
  rw [cells, List.length_map, length_entries]

end Content

/-- The content has `n` elements, described and acquired, or allocated, between the counts. -/
inductive Built (env : BuildEnv) (t t' : Count) (n : ℕ) (bufsize : ℤ) : PayloadOrigin → Content →
    Prop
  | user {vs : List View} (length : vs.length = n) (went : Went t t' (List.range n))
      (describes : env.Describes 0 vs) : Built env t t' n bufsize .PAYLOAD_USER (.user vs)
  | runtime {bs : List ℕ} (length : bs.length = n) (went : Went t t' []) (named : Named t t' bs) :
      Built env t t' n bufsize .PAYLOAD_RUNTIME (.runtime bufsize bs)

namespace Built

variable {env : BuildEnv} {t t' : Count} {n : ℕ} {bufsize : ℤ} {origin : PayloadOrigin}
  {c : Content}

/-- What was built has as many items as were asked for. -/
theorem length_eq (h : Built env t t' n bufsize origin c) : c.length = n := by
  cases h <;> assumption

/-- What was built is of the origin that was asked for. -/
theorem origin_eq (h : Built env t t' n bufsize origin c) : c.origin = origin := by
  cases h <;> rfl

/-- Building content fails nowhere. -/
theorem failures (h : Built env t t' n bufsize origin c) : t'.failures = t.failures := by
  cases h with
  | user _ hwent _ => exact hwent.failures
  | runtime _ hwent _ => exact hwent.failures

/-- The count of the allocations only grows. -/
theorem requests (h : Built env t t' n bufsize origin c) : t.requests ≤ t'.requests := by
  cases h with
  | user _ hwent _ => exact hwent.requests
  | runtime _ hwent _ => exact hwent.requests

/-- The content was built after an earlier count without a failure or an acquisition. -/
theorem after {t₀ : Count} (hwent : Went t₀ t []) (h : Built env t t' n bufsize origin c) :
    Built env t₀ t' n bufsize origin c := by
  cases h with
  | user hlen hgo hdescribes => exact .user hlen (hwent.trans hgo) hdescribes
  | runtime hlen hgo hnamed =>
    have hle := hwent.requests
    exact .runtime hlen (hwent.trans hgo)
      ⟨fun b hb => ⟨hle.trans (hnamed.between b hb).1, (hnamed.between b hb).2⟩, hnamed.nodup⟩

end Built

variable {env : BuildEnv} {P : Multiset Resource} {t : Count} {β : Type}
  {S : Except Undefined β → Multiset Resource → Count → Prop}

/-! ## One array -/

/-- **Storing a linear array**: it has a first element, in which its views hang. -/
theorem leads_storeLinear {c : Content} {b v : ℕ} {payload : Payload}
    {k : Option LinearArray × Payload → Build β}
    (hzero : c.length = 0 → S (.error .outside) P t)
    (hdone : c.length ≠ 0 → Leads (k (some (c.linear b v),
      { payload with linear := some (some (c.linear b v)), vector := some none })) P t S) :
    Leads (storeLinear ⟨b, c.cells, none⟩ (c.hang v) payload >>= k) P t S := by
  have hnil : c.cells = [] ↔ c.length = 0 := by
    rw [← c.length_cells, List.length_eq_zero_iff]
  by_cases hzeros : c.length = 0
  · rw [storeLinear, if_pos (hnil.mpr hzeros)]
    exact .stop_bind (hzero hzeros)
  · rw [storeLinear, if_neg fun hempty => hzeros (hnil.mp hempty)]
    exact hdone hzeros

/-- One allocation went through. -/
theorem went_malloc (t : Count) : Went t { t with requests := t.requests + 1 } [] :=
  ⟨rfl, Nat.le_succ _, (List.append_nil _).symm⟩

/-- A loop of allocations acquires nothing. -/
theorem Took.went_allocs {t' : Count} {bufsize : ℤ} {n : ℕ}
    (h : Took env t t' (allocs bufsize n)) : Went t t' [] := by
  have hwent := h.went
  rwa [positions_allocs] at hwent

/-- **`create_linear_buffers`.** -/
theorem leads_createLinearBuffers {len bufsize : ℤ} {payload : Payload}
    {k : Option LinearArray × Payload → Build β}
    (hfail : ∀ t', Failed env t t' (Construction.createLinear len bufsize).unwinds →
      Leads (k (none, payload)) P t' S)
    (hzero : ∀ P' t', (Construction.createLinear len bufsize).Bare env t t' →
      S (.error .outside) P' t')
    (hdone : ∀ c b v t', 0 ≤ len → Built env t t' len.toNat bufsize .PAYLOAD_RUNTIME c →
      (Construction.createLinear len bufsize).Done env t t' →
      Leads (k (some (c.linear b v),
          { payload with linear := some (some (c.linear b v)), vector := some none }))
        (.block b ::ₘ (c.held v + P)) t' S) :
    Leads (createLinearBuffers env len bufsize payload >>= k) P t S := by
  unfold createLinearBuffers
  rw [bind_assoc]
  refine leads_alloc (fun t' hfailed => hfail t' (hfailed.append_right _)) fun hlen hfirst => ?_
  change Leads ((allocLoop env bufsize _ len.toNat (entriesOf bufsize []) >>= _) >>= k) _ _ S
  rw [bind_assoc]
  refine leads_allocLoop len.toNat [] (fun bs t' _ hfailed => ?_)
    fun bs t' hlength hrest hnamed => ?_
  · rw [bind_assoc]
    exact leads_freeEntries (leads_free (hfail t' (hfirst.failed hfailed)))
  · have hbuilt : Built env t t' len.toNat bufsize .PAYLOAD_RUNTIME (.runtime bufsize bs) :=
      .after hfirst.went (.runtime hlength hrest.went_allocs hnamed)
    have htook : Took env t t' (Construction.createLinear len bufsize).takes :=
      (hfirst.append hrest).append .refl
    rw [Multiset.add_cons]
    exact leads_storeLinear (c := .runtime bufsize bs) (v := 0)
      (fun hnil => hzero _ t' ⟨htook, rfl, hlength.symm.trans hnil⟩)
      fun hsome => hdone _ _ 0 t' hlen hbuilt ⟨htook, fun _ hnil => hsome (hlength.trans hnil)⟩

/-- The block of a pointer that may be null. -/
def pointed (p : Option ℕ) : Multiset Resource := p.elim 0 fun b => {.block b}

/-- Freeing a pointer that may be null. -/
theorem leads_freePointer {p : Option ℕ} {k : Unit → Build β} (h : Leads (k ()) P t S) :
    Leads (freePointer p >>= k) (pointed p + P) t S := by
  cases p with
  | none =>
    change Leads (k ()) (0 + P) t S
    rw [zero_add]
    exact h
  | some b => exact leads_free h

/-- **Allocating twice.** The second allocation is made also when the first fails. -/
theorem leads_mallocTwice {size₁ size₂ : ℤ} {k : Option ℕ → Option ℕ → Build β}
    (hfail : ∀ x y t', Failed env t t' [.alloc size₁, .alloc size₂] → (x = none ∨ y = none) →
      Leads (k x y) (pointed x + (pointed y + P)) t' S)
    (hboth : 0 ≤ size₁ → Took env t { t with requests := t.requests + 1 + 1 }
        [.alloc size₁, .alloc size₂] →
      Leads (k (some t.requests) (some (t.requests + 1)))
        (pointed (some t.requests) + (pointed (some (t.requests + 1)) + P))
        { t with requests := t.requests + 1 + 1 } S) :
    Leads (malloc env size₁ >>= fun x => malloc env size₂ >>= fun y => k x y) P t S := by
  have hnone : ∀ P : Multiset Resource, pointed none + P = P := zero_add
  have hsome : ∀ (b : ℕ) (P : Multiset Resource), pointed (some b) + P = .block b ::ₘ P :=
    fun _ _ => rfl
  refine leads_alloc (fun t₁ hfirst => ?_) fun h₁ hfirst => ?_
  · have hrefused : ¬ Granted env t [.alloc size₁, .alloc size₂] :=
      (hfirst.append_right [.alloc size₂]).refused
    refine leads_alloc (fun t' hsecond => ?_) fun _ hsecond => ?_
    · refine (hfail none none t' ⟨hfirst.failures.trans hsecond.failures, hrefused⟩
        (.inl rfl)).cast ?_
      rw [hnone, hnone]
    · refine (hfail none (some _) _ ⟨hfirst.failures.trans_eq hsecond.failures.symm, hrefused⟩
        (.inl rfl)).cast ?_
      rw [hnone, hsome]
  · refine leads_alloc (fun t' hsecond => ?_) fun _ hsecond => ?_
    · refine (hfail (some _) none t' (hfirst.failed hsecond) (.inr rfl)).cast ?_
      rw [hsome, hnone]
    · refine (hboth h₁ (hfirst.append hsecond)).cast ?_
      rw [hsome, hsome, Multiset.cons_swap]

/-- A loop that fetches its items acquires them in order. -/
theorem Took.went_fetching {t' : Count} {n : ℕ} (h : Took env t t' (acquires fetching 0 n)) :
    Went t t' (List.range n) := by
  have hwent := h.went
  rwa [positions_fetching, ← List.range_eq_range'] at hwent

/-- A loop over a list acquires its items in order. -/
theorem Took.went_listed {t' : Count} {n : ℕ} (h : Took env t t' (acquires listed 0 n)) :
    Went t t' (List.range n) := by
  have hwent := h.went
  rwa [positions_listed, ← List.range_eq_range'] at hwent

/-- **`serialize_linear_buffers`.** -/
theorem leads_serializeLinearBuffers {len bufsize : ℤ} {payload : Payload}
    {k : Option LinearArray × Payload → Build β}
    (hfail : ∀ t', Failed env t t' (Construction.serializeLinear len).unwinds →
      Leads (k (none, payload)) P t' S)
    (hzero : ∀ P' t', (Construction.serializeLinear len).Bare env t t' → S (.error .outside) P' t')
    (hdone : ∀ c b v t', 0 ≤ len → Built env t t' len.toNat bufsize .PAYLOAD_USER c →
      (Construction.serializeLinear len).Done env t t' →
      Leads (k (some (c.linear b v),
          { payload with linear := some (some (c.linear b v)), vector := some none }))
        (.block b ::ₘ (c.held v + P)) t' S) :
    Leads (serializeLinearBuffers env len payload >>= k) P t S := by
  unfold serializeLinearBuffers
  simp only [bind_assoc]
  refine leads_mallocTwice (fun x y t' hfailed hnone => ?_) fun hlen hfirst => ?_
  · have hfree : Leads ((freePointer x >>= fun _ => freePointer y >>= fun _ =>
        pure (none, payload)) >>= k) (pointed x + (pointed y + P)) t' S := by
      rw [bind_assoc]
      refine leads_freePointer ?_
      rw [bind_assoc]
      exact leads_freePointer (hfail t' (hfailed.append_right (acquires fetching 0 len.toNat)))
    cases x with
    | none => exact hfree
    | some v =>
      cases y with
      | none => exact hfree
      | some b => simp at hnone
  · set v := t.requests
    set b := t.requests + 1
    change Leads ((acquireLoop env (getItem env) _ len.toNat [] >>= _) >>= k)
      (.block v ::ₘ 0 + (.block b ::ₘ 0 + P)) _ S
    rw [bind_assoc, Multiset.cons_add, zero_add, Multiset.cons_add, zero_add]
    refine leads_acquireLoop fetches_getItem len.toNat [] (fun vs t' _ hfailed => ?_)
      fun vs t' hlength hrest hdescribes => ?_
    · simp only [bind_assoc]
      exact leads_releaseViews (leads_free (leads_free (hfail t' (hfirst.failed hfailed))))
    · have hbuilt : Built env t t' len.toNat bufsize .PAYLOAD_USER (.user vs) :=
        .after hfirst.went (.user hlength hrest.went_fetching hdescribes)
      have htook : Took env t t' (Construction.serializeLinear len).takes :=
        (hfirst.append hrest).append .refl
      have hheld : viewsOf vs + .block v ::ₘ .block b ::ₘ P =
          .block b ::ₘ ((Content.user vs).held v + P) := by
        rw [Content.held, Multiset.add_cons, Multiset.add_cons, Multiset.cons_add,
          Multiset.cons_swap]
      rw [hheld]
      have hcells : vs.map (fun w => some w.entry) = (Content.user vs).cells := by
        rw [Content.cells, Content.entries, List.map_map]
        rfl
      change Leads (storeLinear ⟨b, vs.map fun w => some w.entry, none⟩ _ payload >>= k) _ _ S
      rw [hcells]
      exact leads_storeLinear (c := .user vs)
        (fun hnil => hzero _ t' ⟨htook, rfl, hlength.symm.trans hnil⟩)
        fun hsome => hdone _ _ v t' hlen hbuilt ⟨htook, fun _ hnil => hsome (hlength.trans hnil)⟩

/-- The payload whose only array is the vector of a content. -/
def Content.onlyVector (c : Content) (b iovecs v : ℕ) (payload : Payload) :
    Option Vectored × Payload :=
  (some (c.vector b iovecs v),
    { payload with vector := some (some (c.vector b iovecs v)), linear := some none })

/-- The vector that a constructor stores is the vector of the content. -/
theorem storeVector_eq {c : Content} {len : ℤ} (hlen : 0 ≤ len) (hlength : c.length = len.toNat)
    (b iovecs v : ℕ) (payload : Payload) :
    storeVector ⟨b, some (some ⟨iovecs, c.cells⟩), some (CInt.toUnsigned len), some (c.hang v)⟩
      payload = pure (c.onlyVector b iovecs v payload) := by
  have hcast : len = (c.length : ℤ) := by omega
  rw [hcast]
  rfl

/-- **`create_vectored_buffers`.** -/
theorem leads_createVectoredBuffers {len bufsize : ℤ} {payload : Payload}
    {k : Option Vectored × Payload → Build β}
    (hfail : ∀ t', Failed env t t' (Construction.createVectored len bufsize).unwinds →
      Leads (k (none, payload)) P t' S)
    (hdone : ∀ c b iovecs v t', 0 ≤ len → Built env t t' len.toNat bufsize .PAYLOAD_RUNTIME c →
      (Construction.createVectored len bufsize).Done env t t' →
      Leads (k (c.onlyVector b iovecs v payload))
        (.block iovecs ::ₘ .block b ::ₘ (c.held v + P)) t' S) :
    Leads (createVectoredBuffers env len bufsize payload >>= k) P t S := by
  unfold createVectoredBuffers
  rw [bind_assoc]
  refine leads_alloc (fun t' hfailed => hfail t' (hfailed.append_right _)) fun _ hfirst => ?_
  change Leads ((malloc env len >>= _) >>= k) _ _ S
  rw [bind_assoc]
  refine leads_alloc (fun t' hfailed => ?_) fun hlen hsecond => ?_
  · change Leads ((free _ >>= _) >>= k) _ _ S
    rw [bind_assoc]
    exact leads_free (hfail t' (hfirst.failed (hfailed.append_right (allocs bufsize len.toNat))))
  · set b := t.requests
    set iovecs := t.requests + 1
    change Leads ((allocLoop env bufsize _ len.toNat (entriesOf bufsize []) >>= _) >>= k)
      (.block iovecs ::ₘ .block b ::ₘ P) _ S
    rw [bind_assoc]
    refine leads_allocLoop len.toNat [] (fun bs t' _ hfailed => ?_)
      fun bs t' hlength hrest hnamed => ?_
    · simp only [bind_assoc]
      exact leads_freeEntries (leads_free (leads_free
        (hfail t' (hfirst.failed (hsecond.failed hfailed)))))
    · have hbuilt : Built env t t' len.toNat bufsize .PAYLOAD_RUNTIME (.runtime bufsize bs) :=
        .after (hfirst.append hsecond).went (.runtime hlength hrest.went_allocs hnamed)
      have htook : Took env t t' (Construction.createVectored len bufsize).takes :=
        (hfirst.append (hsecond.append hrest)).append .refl
      rw [Multiset.add_cons, Multiset.add_cons]
      change Leads (storeVector ⟨b, some (some ⟨iovecs, (Content.runtime bufsize bs).cells⟩), _,
        some ((Content.runtime bufsize bs).hang 0)⟩ payload >>= k) _ _ S
      rw [storeVector_eq (c := .runtime bufsize bs) hlen hlength, pure_bind]
      exact hdone _ _ _ 0 t' hlen hbuilt ⟨htook, fun h => by cases h⟩

/-- **`PySequence_Fast`.** -/
theorem leads_sequenceFast {n : ℕ} {k : Bool → Build β}
    (hno : ∀ t', Failed env t t' [.list n] → Leads (k false) P t' S)
    (hyes : Took env t t [.list n] → Leads (k true) P t S) :
    Leads (sequenceFast env n >>= k) P t S := by
  by_cases hall : (List.range n).all (fun i => env.present t.fetches i) = true
  · refine .step (fun R => ?_) (hyes ⟨⟨hall, trivial⟩, rfl⟩)
    exact if_pos hall
  · have hfailed : Failed env t { t with
        fetches := t.fetches + 1, failures := t.failures + 1 } [.list n] :=
      ⟨Nat.lt_succ_self _, fun hgranted => hall hgranted.1⟩
    refine .step (fun R => ?_) (hno _ hfailed)
    exact if_neg hall

/-- **`serialize_vectored_buffers`**, when it has a list. -/
theorem leads_serializeFast {len bufsize : ℤ} {payload : Payload}
    {k : Option Vectored × Payload → Build β}
    (hfail : ∀ t', Failed env t t' (Construction.serializeFast len).unwinds →
      Leads (k (none, payload)) P t' S)
    (hdone : ∀ c b iovecs v t', 0 ≤ len → Built env t t' len.toNat bufsize .PAYLOAD_USER c →
      (Construction.serializeFast len).Done env t t' →
      Leads (k (c.onlyVector b iovecs v payload))
        (.block iovecs ::ₘ .block b ::ₘ (c.held v + P)) t' S) :
    Leads (serializeFast env len payload >>= k) P t S := by
  unfold serializeFast
  simp only [bind_assoc]
  refine leads_mallocTwice (fun x y t' hfailed hnone => ?_) fun hlen hfirst => ?_
  · have hfree : Leads ((freePointer x >>= fun _ => freePointer y >>= fun _ =>
        pure (none, payload)) >>= k) (pointed x + (pointed y + P)) t' S := by
      rw [bind_assoc]
      refine leads_freePointer ?_
      rw [bind_assoc]
      exact leads_freePointer (hfail t' (hfailed.append_right
        (.alloc len :: acquires listed 0 len.toNat)))
    cases x with
    | none => exact hfree
    | some v =>
      cases y with
      | none => exact hfree
      | some b => simp at hnone
  · set v := t.requests
    set b := t.requests + 1
    change Leads ((malloc env len >>= _) >>= k)
      (.block v ::ₘ 0 + (.block b ::ₘ 0 + P)) _ S
    rw [bind_assoc, Multiset.cons_add, zero_add, Multiset.cons_add, zero_add]
    refine leads_alloc (fun t' hfailed => ?_) fun _ hthird => ?_
    · change Leads ((free v >>= fun _ => free b >>= _) >>= k) _ _ S
      simp only [bind_assoc]
      exact leads_free (leads_free (hfail t' (hfirst.failed
        (hfailed.append_right (acquires listed 0 len.toNat)))))
    · set iovecs := t.requests + 1 + 1
      change Leads ((acquireLoop env _ _ len.toNat [] >>= _) >>= k) _ _ S
      rw [bind_assoc]
      refine leads_acquireLoop fetches_pure len.toNat [] (fun vs t' _ hfailed => ?_)
        fun vs t' hlength hrest hdescribes => ?_
      · simp only [bind_assoc]
        refine leads_releaseViews ?_
        rw [Multiset.cons_swap]
        exact leads_free (leads_free (leads_free
          (hfail t' (hfirst.failed (hthird.failed hfailed)))))
      · have hbuilt : Built env t t' len.toNat bufsize .PAYLOAD_USER (.user vs) :=
          .after (hfirst.append hthird).went (.user hlength hrest.went_listed hdescribes)
        have htook : Took env t t' (Construction.serializeFast len).takes :=
          (hfirst.append (hthird.append hrest)).append .refl
        have hheld : viewsOf vs + .block iovecs ::ₘ .block v ::ₘ .block b ::ₘ P =
            .block iovecs ::ₘ .block b ::ₘ ((Content.user vs).held v + P) := by
          simp only [Content.held, Multiset.add_cons, Multiset.cons_add]
          rw [Multiset.cons_swap (Resource.block v)]
        have hcells : vs.map (fun w => some w.entry) = (Content.user vs).cells := by
          rw [Content.cells, Content.entries, List.map_map]
          rfl
        rw [hheld]
        change Leads (storeVector ⟨b, some (some ⟨iovecs, vs.map fun w => some w.entry⟩), _,
          some ((Content.user vs).hang v)⟩ payload >>= k) _ _ S
        rw [hcells, storeVector_eq (c := .user vs) hlen hlength, pure_bind]
        exact hdone _ _ _ v t' hlen hbuilt ⟨htook, fun h => by cases h⟩

/-- **`serialize_vectored_buffers`.** -/
theorem leads_serializeVectoredBuffers {n : ℕ} {len bufsize : ℤ} {payload : Payload}
    {k : Option Vectored × Payload → Build β} (hn : len = CInt.toInt n)
    (hfail : ∀ t', Failed env t t' (Construction.serializeVectored n len).unwinds →
      Leads (k (none, payload)) P t' S)
    (hdone : ∀ c b iovecs v t', 0 ≤ len → Built env t t' len.toNat bufsize .PAYLOAD_USER c →
      (Construction.serializeVectored n len).Done env t t' →
      Leads (k (c.onlyVector b iovecs v payload))
        (.block iovecs ::ₘ .block b ::ₘ (c.held v + P)) t' S) :
    Leads (serializeVectoredBuffers env n payload >>= k) P t S := by
  unfold serializeVectoredBuffers
  rw [bind_assoc, ← hn]
  refine leads_sequenceFast (fun t' hfailed => ?_) fun hlist => ?_
  · rw [if_neg Bool.false_ne_true, pure_bind]
    exact hfail t' (hfailed.append_right _)
  · rw [if_pos rfl]
    refine leads_serializeFast (fun t' hfailed => hfail t' (hlist.failed hfailed))
      fun c b iovecs v t' hlen (hbuilt : Built env t t' _ bufsize _ c) hrest => ?_
    exact hdone c b iovecs v t' hlen hbuilt ⟨hlist.append hrest.took, fun h => by cases h⟩

/-! ## Both arrays -/

/-- The views of the linear array of a payload with both: in its first element, if it has one. -/
def Content.hung (c : Content) (v : ℕ) : Option (Option ViewArray) :=
  if c.length = 0 then none else some (c.hang v)

/-- Arrays with elements have their views. -/
theorem Content.hung_eq {c : Content} (hlength : c.length ≠ 0) (v : ℕ) :
    c.hung v = some (c.hang v) := if_neg hlength

/-- The views of the vector of a payload with both: `make_buffers` does not set them. -/
def Content.vectorViews : Content → Option (Option ViewArray)
  | user _ => some none
  | runtime .. => none

/-- The payload with both arrays of a content. -/
def Content.both (c : Content) (l b iovecs v : ℕ) (payload : Payload) : Payload :=
  { payload with
    linear := some (some ⟨l, c.cells, c.hung v⟩)
    vector := some (some ⟨b, some (some ⟨iovecs, c.cells⟩), some (CInt.toUnsigned c.length),
      c.vectorViews⟩) }

/-- The payload with both arrays, when all elements are set. -/
theorem withArrays_eq {c : Content} {len : ℤ} (hlen : 0 ≤ len) (hlength : c.length = len.toNat)
    (l b iovecs v : ℕ) (rest : Option Entry) (payload : Payload) :
    payload.withArrays l b iovecs len rest (c.hung v) c.vectorViews c.entries =
      c.both l b iovecs v payload := by
  have hcast : len = (c.length : ℤ) := by omega
  have hnone : ∀ cell : Option Entry,
      List.replicate (len.toNat - c.entries.length) cell = [] := fun cell => by
    rw [c.length_entries, hlength, Nat.sub_self, List.replicate_zero]
  unfold Payload.withArrays Content.both
  simp only [hnone, List.append_nil]
  rw [hcast]
  rfl

/-- **Unwinding** a payload whose mode is not set reads the mode. -/
theorem leads_freeUnset {payload : Payload} {k : Unit → Build β} (hmode : payload.mode = none)
    (h : S (.error .uninitialised) P t) : Leads (freeBufferPayload payload true >>= k) P t S := by
  unfold freeBufferPayload
  rw [hmode, bind_assoc]
  exact .stop_bind h

/-- `abandon` of a payload whose mode was not set reads an uninitialised mode. -/
theorem leads_abandon {α : Type} {payload : Payload} {k : Option α → Build β}
    (hmode : payload.mode = none) (h : S (.error .uninitialised) P t) :
    Leads (abandon payload >>= k) P t S := by
  unfold abandon
  rw [bind_assoc]
  exact leads_freeUnset hmode h

/-- A loop that fails hands the payload to the destructor, and the constructor returns `NULL`. -/
theorem leads_unwound {α : Type} {payload : Payload} {k : Option α → Build β}
    (h : Leads (abandon payload >>= k) P t S) :
    Leads (freeBufferPayload payload true >>= fun _ => k none) P t S := by
  unfold abandon at h
  rwa [bind_assoc] at h

/-- A payload before its arrays are built. -/
def Payload.bare (payload : Payload) : Payload :=
  { payload with linear := some none, vector := some none }

/-- A payload with a linear array of `n` elements, whose bytes are held, and whose other fields are
those of `payload`. -/
structure Payload.Half (p payload : Payload) (n : ℕ) (P' : Multiset Resource) : Prop where
  /-- The mode is the same. -/
  mode : p.mode = payload.mode
  /-- The buffers are of the same origin. -/
  origin : p.payload_origin = payload.payload_origin
  /-- The number of buffers is the same. -/
  amount : p.amount = payload.amount
  /-- The array is filled, and what is held has the resources of its elements. -/
  linear : ∃ a, p.linear = some (some a) ∧ a.cells.length = n ∧ cellsResources a.cells ≤ P'

/-- Elements that are not set, or cleared, reach no block. -/
theorem cellsResources_replicate {cell : Option Entry} (hcell : cell.elim 0 (·.base.resources) = 0)
    (n : ℕ) : cellsResources (List.replicate n cell) = 0 := by
  induction n with
  | zero => rfl
  | succ n ih =>
    change cell.elim 0 (·.base.resources) + cellsResources (List.replicate n cell) = 0
    rw [hcell, ih, zero_add]

/-- The resources of two rows of cells are those of the first and those of the second. -/
theorem cellsResources_append (xs ys : List (Option Entry)) :
    cellsResources (xs ++ ys) = cellsResources xs + cellsResources ys := by
  simp [cellsResources]

/-- Elements of the runtime reach their blocks. -/
theorem cellsResources_entriesOf (bufsize : ℤ) (bs : List ℕ) :
    cellsResources ((entriesOf bufsize bs).map some) = blocks bs := by
  induction bs with
  | nil => rfl
  | cons b bs ih =>
    rw [blocks_cons, ← ih]
    exact Multiset.singleton_add _ _

/-- Elements that describe the user's buffers reach no block. -/
theorem cellsResources_user (vs : List View) : cellsResources (Content.user vs).cells = 0 := by
  induction vs with
  | nil => rfl
  | cons w vs ih =>
    change 0 + cellsResources (Content.user vs).cells = 0
    rw [ih, zero_add]

/-- An array of which the elements so far are set has as many elements as were asked for. -/
theorem length_withArrays {done : List Entry} {n : ℕ} (cell : Option Entry)
    (hdone : done.length ≤ n) :
    (done.map some ++ List.replicate (n - done.length) cell).length = n := by
  rw [List.length_append, List.length_map, List.length_replicate]
  omega

/-- Three blocks that were allocated one after the other. -/
theorem named_three {t' : Count} {l : ℕ} (hl : t.requests ≤ l) (h : l + 1 + 1 + 1 ≤ t'.requests) :
    Named t t' [l, l + 1, l + 1 + 1] := by
  constructor
  · intro b hb
    simp only [List.mem_cons, List.not_mem_nil, or_false] at hb
    omega
  · have hne : l ≠ l + 1 + 1 := by omega
    simp [hne]

/-- **`make_buffers`.** -/
theorem leads_makeBuffers {len bufsize : ℤ} {payload : Payload} {k : Option Payload → Build β}
    (hnull : ∀ Q t', Failed env t t' (Construction.makeBuffers len bufsize).unwinds →
      Leads (abandon payload.bare >>= k) (Q + P) t' S)
    (hlost : ∀ p P' t', (Construction.makeBuffers len bufsize).Lost env t t' →
      p.Half payload len.toNat P' → Leads (abandon p >>= k) P' t' S)
    (hdone : ∀ c l b iovecs v t', 0 ≤ len →
      Built env t t' len.toNat bufsize .PAYLOAD_RUNTIME c →
      (Construction.makeBuffers len bufsize).Done env t t' → Named t t' [l, b, iovecs] →
      Leads (k (some (c.both l b iovecs v payload)))
        (.block l ::ₘ .block b ::ₘ .block iovecs ::ₘ (c.held v + P)) t' S) :
    Leads (makeBuffers env len bufsize payload >>= k) P t S := by
  unfold makeBuffers
  rw [bind_assoc]
  refine leads_alloc (fun t' hfailed =>
    (hnull 0 t' hfailed).cast (zero_add P)) fun hlen hfirst => ?_
  have hhalf : ∀ {p P' t'}, Failed env _ t' (Construction.makeBuffers len bufsize).loses →
      p.Half payload len.toNat P' → Leads (abandon p >>= k) P' t' S :=
    fun hfailed => hlost _ _ _ (Construction.lost hfirst hfailed)
  dsimp only
  rw [bind_assoc]
  refine leads_alloc (fun t' hfailed => ?_) fun _ hsecond => ?_
  · exact hhalf (hfailed.append_right (.alloc len :: allocs bufsize len.toNat))
      ⟨rfl, rfl, rfl, _, rfl, List.length_replicate,
        (cellsResources_replicate rfl _).trans_le (Multiset.zero_le _)⟩
  dsimp only
  rw [bind_assoc]
  refine leads_alloc (fun t' hfailed => ?_) fun _ hthird => ?_
  · exact hhalf (hsecond.failed (hfailed.append_right (allocs bufsize len.toNat)))
      ⟨rfl, rfl, rfl, _, rfl, List.length_replicate,
        (cellsResources_replicate rfl _).trans_le (Multiset.zero_le _)⟩
  dsimp only
  rw [bind_assoc]
  refine leads_allocLoop len.toNat [] (fun bs t' hlt hfailed => ?_)
    fun bs t' hlength hrest hnamed => ?_
  · refine leads_unwound (hhalf (hsecond.failed (hthird.failed hfailed))
      ⟨rfl, rfl, rfl, _, rfl, ?_, ?_⟩)
    · exact length_withArrays _ ((length_entriesOf ..).trans_le hlt.le)
    · rw [List.nil_append, cellsResources_append, cellsResources_entriesOf,
        cellsResources_replicate rfl, add_zero]
      exact Multiset.le_add_right _ _
  · set c := Content.runtime bufsize bs
    have hbuilt : Built env t t' len.toNat bufsize .PAYLOAD_RUNTIME c :=
      .after (hfirst.append (hsecond.append hthird)).went
        (.runtime hlength hrest.went_allocs hnamed)
    have htook : Took env t t' (Construction.makeBuffers len bufsize).takes :=
      hfirst.append (hsecond.append (hthird.append hrest))
    have hviews : (if len.toNat = 0 then none else some none) = c.hung 0 := by
      rw [← hlength]
      rfl
    have hheld : blocks bs + .block (t.requests + 1 + 1) ::ₘ .block (t.requests + 1) ::ₘ
        .block t.requests ::ₘ P = .block t.requests ::ₘ .block (t.requests + 1) ::ₘ
        .block (t.requests + 1 + 1) ::ₘ (blocks bs + P) := by
      simp only [← Multiset.singleton_add]
      abel
    have hwith := withArrays_eq (c := c) hlen hlength t.requests (t.requests + 1)
      (t.requests + 1 + 1) 0 (some ⟨.null, 0⟩) payload
    dsimp only
    rw [hviews, hheld, pure_bind]
    refine Eq.mp ?_ (hdone c _ _ _ 0 t' hlen hbuilt ⟨htook, fun h => by cases h⟩
      (named_three le_rfl hrest.requests))
    rw [← hwith]
    rfl

/-- **`serialize_buffers`.** -/
theorem leads_serializeBuffers {len bufsize : ℤ} {payload : Payload}
    {k : Option Payload → Build β}
    (hnull : ∀ Q t', Failed env t t' (Construction.serializeBuffers len).unwinds →
      Leads (abandon payload.bare >>= k) (Q + P) t' S)
    (hlost : ∀ p P' t', (Construction.serializeBuffers len).Lost env t t' →
      p.Half payload len.toNat P' → Leads (abandon p >>= k) P' t' S)
    (hzero : ∀ P' t', (Construction.serializeBuffers len).Bare env t t' → S (.error .outside) P' t')
    (hdone : ∀ c l b iovecs v t', 0 ≤ len →
      Built env t t' len.toNat bufsize .PAYLOAD_USER c →
      (Construction.serializeBuffers len).Done env t t' → Named t t' [l, b, iovecs] →
      Leads (k (some (c.both l b iovecs v payload)))
        (.block l ::ₘ .block b ::ₘ .block iovecs ::ₘ (c.held v + P)) t' S) :
    Leads (serializeBuffers env len payload >>= k) P t S := by
  unfold serializeBuffers
  rw [bind_assoc]
  refine leads_alloc (fun t' hfailed => ?_) fun hlen hviews => ?_
  · exact (hnull 0 t' (hfailed.append_right [.alloc len])).cast (zero_add P)
  dsimp only
  rw [bind_assoc]
  refine leads_alloc (fun t' hfailed => ?_) fun _ hlinear => ?_
  · exact (hnull {.block t.requests} t' (hviews.failed hfailed)).cast (Multiset.singleton_add _ P)
  have hfirst := hviews.append hlinear
  have hhalf : ∀ {p P' t'}, Failed env _ t' (Construction.serializeBuffers len).loses →
      p.Half payload len.toNat P' → Leads (abandon p >>= k) P' t' S :=
    fun hfailed => hlost _ _ _ (Construction.lost hfirst hfailed)
  dsimp only
  rw [bind_assoc]
  refine leads_alloc (fun t' hfailed => ?_) fun _ hsecond => ?_
  · exact hhalf (hfailed.append_right (.alloc len :: acquires fetching 0 len.toNat))
      ⟨rfl, rfl, rfl, _, rfl, List.length_replicate,
        (cellsResources_replicate rfl _).trans_le (Multiset.zero_le _)⟩
  dsimp only
  rw [bind_assoc]
  refine leads_alloc (fun t' hfailed => ?_) fun _ hthird => ?_
  · exact hhalf (hsecond.failed (hfailed.append_right (acquires fetching 0 len.toNat)))
      ⟨rfl, rfl, rfl, _, rfl, List.length_replicate,
        (cellsResources_replicate rfl _).trans_le (Multiset.zero_le _)⟩
  dsimp only
  rw [bind_assoc]
  refine leads_acquireLoop fetches_getItem len.toNat [] (fun vs t' hlt hfailed => ?_)
    fun vs t' hlength hrest hdescribes => ?_
  · refine leads_unwound (hhalf (hsecond.failed (hthird.failed hfailed))
      ⟨rfl, rfl, rfl, _, rfl, ?_, ?_⟩)
    · exact length_withArrays _ ((List.length_map _).trans_le hlt.le)
    · have huser : cellsResources ((vs.map View.entry).map some) = 0 := cellsResources_user vs
      rw [List.nil_append, cellsResources_append, huser, cellsResources_replicate rfl, add_zero]
      exact Multiset.zero_le _
  · set c := Content.user vs
    have hbuilt : Built env t t' len.toNat bufsize .PAYLOAD_USER c :=
      .after (hfirst.append (hsecond.append hthird)).went
        (.user hlength hrest.went_fetching hdescribes)
    have htook : Took env t t' (Construction.serializeBuffers len).takes :=
      hfirst.append (hsecond.append (hthird.append hrest))
    dsimp only
    by_cases hnil : len.toNat = 0
    · rw [if_pos hnil]
      exact .stop_bind (hzero _ _ ⟨htook, rfl, hnil⟩)
    have hhung : some (some ⟨t.requests, vs.map Slot.view⟩) = c.hung t.requests :=
      (if_neg (by rw [← hlength] at hnil; exact hnil)).symm
    have hheld : viewsOf vs + .block (t.requests + 1 + 1 + 1) ::ₘ .block (t.requests + 1 + 1) ::ₘ
        .block (t.requests + 1) ::ₘ .block t.requests ::ₘ P =
        .block (t.requests + 1) ::ₘ .block (t.requests + 1 + 1) ::ₘ
        .block (t.requests + 1 + 1 + 1) ::ₘ (c.held t.requests + P) := by
      simp only [c, Content.held, ← Multiset.singleton_add]
      abel
    have hwith := withArrays_eq (c := c) hlen hlength (t.requests + 1) (t.requests + 1 + 1)
      (t.requests + 1 + 1 + 1) t.requests none payload
    rw [if_neg hnil, List.nil_append, hhung, hheld, pure_bind]
    refine Eq.mp ?_ (hdone c _ _ _ t.requests t' hlen hbuilt ⟨htook, fun _ => hnil⟩
      (named_three (Nat.le_succ _) hrest.requests))
    rw [← hwith]
    rfl

end Uringio.Blocks
