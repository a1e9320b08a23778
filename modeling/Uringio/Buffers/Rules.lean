import Mathlib.Tactic.Abel
import Uringio.Buffers.Takes

/-!
# What the loops of the constructors do

Either a loop goes through, and holds a block or a view for each element, or one of its steps
fails, and the function unwinds from there, with what the loop took so far. The rules say what then
has to be shown of the rest of the function.
-/

namespace Uringio.Blocks

open Ledger

variable {env : BuildEnv} {P : Multiset Resource} {t t' : Count} {α β : Type}
  {S : Except Undefined β → Multiset Resource → Count → Prop}

/-! ## What a loop takes -/

/-- Blocks, as resources. -/
def blocks (bs : List ℕ) : Multiset Resource := (bs.map Resource.block : List Resource)

/-- Views, as resources. -/
def viewsOf (vs : List View) : Multiset Resource :=
  (vs.map fun v => Resource.view v.name : List Resource)

/-- The elements whose bytes are the blocks. -/
def entriesOf (bufsize : ℤ) (bs : List ℕ) : List Entry :=
  bs.map fun b => ⟨.runtime b, CInt.toU64 bufsize⟩

/-- No block gives no resource. -/
@[simp] theorem blocks_nil : blocks [] = 0 := rfl

/-- A row of blocks gives its first one and the others. -/
@[simp] theorem blocks_cons (b : ℕ) (bs : List ℕ) : blocks (b :: bs) = .block b ::ₘ blocks bs := rfl

/-- No view gives no resource. -/
@[simp] theorem viewsOf_nil : viewsOf [] = 0 := rfl

/-- A row of views gives its first one and the others. -/
@[simp] theorem viewsOf_cons (v : View) (vs : List View) :
    viewsOf (v :: vs) = .view v.name ::ₘ viewsOf vs := rfl

/-- No block gives no entry. -/
@[simp] theorem entriesOf_nil (bufsize : ℤ) : entriesOf bufsize [] = [] := rfl

/-- Each block gives one entry. -/
@[simp] theorem length_entriesOf (bufsize : ℤ) (bs : List ℕ) :
    (entriesOf bufsize bs).length = bs.length := List.length_map ..

/-- The views describe the buffers of the items from the position `i` on. -/
def BuildEnv.Describes (env : BuildEnv) : ℕ → List View → Prop
  | _, [] => True
  | i, v :: vs => env.region v.name i = some v.region ∧ env.Describes (i + 1) vs

/-- Nothing failed between the counts; the items at the positions `items` were acquired, in
order. -/
structure Went (t t' : Count) (items : List ℕ) : Prop where
  /-- Nothing was refused. -/
  failures : t'.failures = t.failures
  /-- Allocations were asked for, perhaps. -/
  requests : t.requests ≤ t'.requests
  /-- The items at the positions were acquired, in order. -/
  acquired : t'.acquired = t.acquired ++ items

/-- What two runs of a walk acquired is what the first and the second acquired. -/
theorem Went.trans {t₁ t₂ t₃ : Count} {is js : List ℕ} (h₁ : Went t₁ t₂ is) (h₂ : Went t₂ t₃ js) :
    Went t₁ t₃ (is ++ js) :=
  ⟨h₂.failures.trans h₁.failures, h₁.requests.trans h₂.requests,
    by rw [h₂.acquired, h₁.acquired, List.append_assoc]⟩

/-- The blocks are different ones, allocated between the counts. -/
structure Named (t t' : Count) (bs : List ℕ) : Prop where
  /-- The names are those of requests in between. -/
  between : ∀ b ∈ bs, t.requests ≤ b ∧ b < t'.requests
  /-- No two of them are the same. -/
  nodup : bs.Nodup

/-- A run without acquisition names no view. -/
theorem Named.nil (t : Count) : Named t t [] := ⟨by simp, List.nodup_nil⟩

/-- One more block, allocated before the others. -/
theorem Named.cons {t₀ : Count} {b : ℕ} {bs : List ℕ} (h : Named t₀ t' bs)
    (hle : t₀.requests ≤ t'.requests) (hb : t₀.requests = b + 1) (ht : t.requests ≤ b) :
    Named t t' (b :: bs) := by
  refine ⟨fun c hmem => ?_, List.nodup_cons.mpr ⟨fun hmem => ?_, h.nodup⟩⟩
  · rcases List.mem_cons.mp hmem with rfl | hmem
    · omega
    · have hc := h.between c hmem
      omega
  · have hbetween := h.between b hmem
    omega

/-! ## The loops -/

/-- What steps acquire is what they take that a caller of the constructor sees. -/
theorem Took.went {xs : List Take} (h : Took env t t' xs) : Went t t' (positions xs) :=
  ⟨h.failures, h.requests, h.acquired⟩

/-- **Allocating**, as a step. -/
theorem leads_alloc {size : ℤ} {k : Option ℕ → Build β}
    (hfail : ∀ t', Failed env t t' [.alloc size] → Leads (k none) P t' S)
    (hdone : 0 ≤ size → Took env t { t with requests := t.requests + 1 } [.alloc size] →
      Leads (k (some t.requests)) (.block t.requests ::ₘ P)
        { t with requests := t.requests + 1 } S) :
    Leads (malloc env size >>= k) P t S := by
  refine leads_malloc (fun hdenied => hfail _ ⟨Nat.lt_succ_self _, fun hgranted => ?_⟩)
    fun hsize hgranted => hdone hsize ⟨⟨⟨hsize, hgranted⟩, trivial⟩, rfl⟩
  obtain ⟨⟨hsize, hfails⟩, -⟩ := hgranted
  rcases hdenied with hneg | hdenied
  · omega
  · rw [hfails] at hdenied
    cases hdenied

/-- **Allocating** the bytes of `n` more elements. -/
theorem leads_allocLoop {bufsize : ℤ} {unwind : List Entry → Build Unit}
    {k : Option (List Entry) → Build β} (n : ℕ) (bs : List ℕ)
    (hfail : ∀ bs' t', bs'.length < n → Failed env t t' (allocs bufsize n) →
      Leads (unwind (entriesOf bufsize (bs ++ bs')) >>= fun _ => k none) (blocks bs' + P) t' S)
    (hdone : ∀ bs' t', bs'.length = n → Took env t t' (allocs bufsize n) → Named t t' bs' →
      Leads (k (some (entriesOf bufsize (bs ++ bs')))) (blocks bs' + P) t' S) :
    Leads (allocLoop env bufsize unwind n (entriesOf bufsize bs) >>= k) P t S := by
  induction n generalizing bs P t with
  | zero =>
    have h := hdone [] t rfl .refl (.nil t)
    rw [List.append_nil, blocks_nil, zero_add] at h
    exact h
  | succ n ih =>
    unfold allocLoop
    rw [bind_assoc]
    refine leads_alloc (fun t' hfailed => ?_) fun _ htook => ?_
    · have h := hfail [] t' (Nat.succ_pos n) (hfailed.append_right (allocs bufsize n))
      rw [List.append_nil, blocks_nil, zero_add] at h
      change Leads ((unwind (entriesOf bufsize bs) >>= fun _ => pure none) >>= k) _ _ S
      rw [bind_assoc]
      exact h
    · have hnext : entriesOf bufsize bs ++ [⟨.runtime t.requests, CInt.toU64 bufsize⟩] =
          entriesOf bufsize (bs ++ [t.requests]) := by simp [entriesOf]
      have hassoc : ∀ bs' : List ℕ, bs ++ [t.requests] ++ bs' = bs ++ t.requests :: bs' := by simp
      have hheld : ∀ bs', blocks bs' + .block t.requests ::ₘ P =
          blocks (t.requests :: bs') + P := fun bs' => by
        rw [Multiset.add_cons, blocks_cons, Multiset.cons_add]
      change Leads (allocLoop env bufsize unwind n
        (entriesOf bufsize bs ++ [⟨.runtime t.requests, CInt.toU64 bufsize⟩]) >>= k) _ _ S
      rw [hnext]
      refine ih (bs ++ [t.requests]) (fun bs' t' hlt hfailed => ?_)
        fun bs' t' hlen hrest hnamed => ?_
      · rw [hassoc, hheld]
        exact hfail _ t' (Nat.succ_lt_succ hlt) (htook.failed hfailed)
      · rw [hassoc, hheld]
        exact hdone _ t' (by rw [List.length_cons, hlen]) (htook.append hrest)
          (hnamed.cons hrest.requests rfl le_rfl)

/-- How a loop fetches its items: the item is there, or that fails. -/
def Fetches (env : BuildEnv) (fetch : ℕ → Build Bool) (looks : Looks) : Prop :=
  ∀ ⦃γ : Type⦄ ⦃S : Except Undefined γ → Multiset Resource → Count → Prop⦄ ⦃k : Bool → Build γ⦄
    ⦃P : Multiset Resource⦄ ⦃t : Count⦄ ⦃i : ℕ⦄,
    (∀ t', Failed env t t' (looks i) → Leads (k false) P t' S) →
    (Took env t t (looks i) → Leads (k true) P t S) → Leads (fetch i >>= k) P t S

/-- The buffers of a sequence are fetched by their positions. -/
theorem fetches_getItem : Fetches env (getItem env) fetching :=
  fun _ _ _ _ t i hno hyes => leads_getItem
    (fun hpresent => hno _ ⟨Nat.lt_succ_self _, fun hgranted => by
      rw [show env.present t.fetches i = true from hgranted.1] at hpresent
      cases hpresent⟩)
    fun hpresent => hyes ⟨⟨hpresent, trivial⟩, rfl⟩

/-- The buffers of a list need no fetch. -/
theorem fetches_pure : Fetches env (fun _ => pure true) listed :=
  fun _ _ _ _ _ _ _ hyes => .step (fun _ => rfl) (hyes .refl)

/-- **Acquiring** the buffers of `n` more items. -/
theorem leads_acquireLoop {fetch : ℕ → Build Bool} {looks : Looks}
    {unwind : List View → Build Unit} {k : Option (List View) → Build β}
    (hfetch : Fetches env fetch looks) (n : ℕ) (vs : List View)
    (hfail : ∀ vs' t', vs'.length < n → Failed env t t' (acquires looks vs.length n) →
      Leads (unwind (vs ++ vs') >>= fun _ => k none) (viewsOf vs' + P) t' S)
    (hdone : ∀ vs' t', vs'.length = n → Took env t t' (acquires looks vs.length n) →
      env.Describes vs.length vs' → Leads (k (some (vs ++ vs'))) (viewsOf vs' + P) t' S) :
    Leads (acquireLoop env fetch unwind n vs >>= k) P t S := by
  induction n generalizing vs P t with
  | zero =>
    have h := hdone [] t rfl .refl trivial
    rw [List.append_nil, viewsOf_nil, zero_add] at h
    exact h
  | succ n ih =>
    have hunwind : ∀ t', Failed env t t' (acquires looks vs.length (n + 1)) →
        Leads ((unwind vs >>= fun _ => pure none) >>= k) P t' S := fun t' hfailed => by
      have h := hfail [] t' (Nat.succ_pos n) hfailed
      rw [List.append_nil, viewsOf_nil, zero_add] at h
      rw [bind_assoc]
      exact h
    unfold acquireLoop
    rw [bind_assoc]
    refine hfetch (fun t' hfailed => hunwind t' (hfailed.append_right _)) fun hlooked => ?_
    change Leads ((getBuffer env vs.length >>= _) >>= k) P t S
    rw [bind_assoc]
    refine leads_getBuffer (fun hnone => hunwind _ ?_) fun r hregion => ?_
    · refine hlooked.failed ⟨Nat.lt_succ_self _, fun hgranted => ?_⟩
      have hsome : (env.region t.fetches vs.length).isSome = true := hgranted.1
      rw [hnone] at hsome
      cases hsome
    · have hacquired : Took env t { t with
          fetches := t.fetches + 1, acquired := t.acquired ++ [vs.length] } [.acquire vs.length] :=
        ⟨⟨by rw [Take.Granted, hregion]; rfl, trivial⟩, rfl⟩
      have hassoc : ∀ vs' : List View, vs ++ [⟨t.fetches, r⟩] ++ vs' =
          vs ++ ⟨t.fetches, r⟩ :: vs' := by simp
      have hheld : ∀ vs', viewsOf vs' + .view t.fetches ::ₘ P =
          viewsOf (⟨t.fetches, r⟩ :: vs') + P := fun vs' => by
        rw [Multiset.add_cons, viewsOf_cons, Multiset.cons_add]
      have hlength : (vs ++ [(⟨t.fetches, r⟩ : View)]).length = vs.length + 1 := by simp
      refine ih _ (fun vs' t' hlt hfailed => ?_) fun vs' t' hlen hrest hdescribes => ?_
      · rw [hassoc, hheld]
        rw [hlength] at hfailed
        exact hfail _ t' (Nat.succ_lt_succ hlt) (hlooked.failed (hacquired.failed hfailed))
      · rw [hassoc, hheld]
        rw [hlength] at hrest hdescribes
        exact hdone _ t' (by rw [List.length_cons, hlen]) (hlooked.append (hacquired.append hrest))
          ⟨hregion, hdescribes⟩

/-! ## Unwinding -/

/-- Freeing the bytes of elements. -/
theorem leads_freeEntries {bufsize : ℤ} {bs : List ℕ} {k : Unit → Build β}
    (h : Leads (k ()) P t S) :
    Leads (freeEntries (entriesOf bufsize bs) >>= k) (blocks bs + P) t S := by
  have hfree : freeEntries (entriesOf bufsize bs) =
      bs.forM fun b => give .notHeld (Resource.block b) := by
    induction bs with
    | nil => rfl
    | cons b bs ih => exact congrArg (fun m => free b >>= fun _ => m) ih
  rw [hfree]
  exact .giveAll_bind _ bs h

/-- Releasing views. -/
theorem leads_releaseViews {vs : List View} {k : Unit → Build β} (h : Leads (k ()) P t S) :
    Leads (releaseViews vs >>= k) (viewsOf vs + P) t S := .giveAll_bind _ vs h

end Uringio.Blocks
