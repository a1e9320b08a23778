import Mathlib.Data.List.Basic

/-!
# How often an array points to an object

Each element of an array points to some objects; `tally` says how often the array points to one of
them. What an assignment to one element adds to a tally is what the new element points to, less what
the old one pointed to (`tally_modify`): so an array, and the counts that are kept of its pointers,
agree after an assignment if the assignment comes with that change of the counts.
-/

namespace Tally

variable {α β : Type*} [DecidableEq β] {p : α → List β} {l : List α} {x : β} {i : ℕ}

/-- How often the elements of `l` point to `x`. -/
def tally (p : α → List β) (l : List α) (x : β) : ℕ := (l.flatMap p).count x

/-- An empty list counts nothing. -/
@[simp] theorem tally_nil (p : α → List β) (x : β) : tally p [] x = 0 := rfl

/-- A list counts its head and its tail. -/
@[simp] theorem tally_cons (p : α → List β) (a : α) (l : List α) (x : β) :
    tally p (a :: l) x = (p a).count x + tally p l x := List.count_append

/-- An array whose elements point nowhere. -/
theorem tally_eq_zero (h : ∀ a ∈ l, p a = []) : tally p l x = 0 := by
  induction l with
  | nil => rfl
  | cons a l ih =>
    rw [tally_cons, h a List.mem_cons_self, ih fun b hb => h b (List.mem_cons_of_mem _ hb)]
    rfl

/-- An array points to something when one of its elements does. -/
theorem tally_pos_iff : 0 < tally p l x ↔ ∃ a ∈ l, x ∈ p a :=
  List.count_pos_iff.trans List.mem_flatMap

/-- What one element at most points to, and that once, the array points to once at most. -/
theorem tally_le_one (hcount : ∀ a ∈ l, (p a).count x ≤ 1)
    (hunique : ∀ (i j : ℕ) a b, l[i]? = some a → l[j]? = some b → x ∈ p a → x ∈ p b → i = j) :
    tally p l x ≤ 1 := by
  induction l with
  | nil => exact Nat.zero_le 1
  | cons a l ih =>
    rw [tally_cons]
    have hrest : tally p l x ≤ 1 :=
      ih (fun b hb => hcount b (List.mem_cons_of_mem _ hb)) fun i j b c hi hj hb hc =>
        Nat.succ.inj (hunique (i + 1) (j + 1) b c hi hj hb hc)
    by_cases ha : x ∈ p a
    · -- Then no element of the rest points to it.
      have hnone : tally p l x = 0 := by
        by_contra hne
        obtain ⟨b, hb, hx⟩ := tally_pos_iff.mp (Nat.pos_of_ne_zero hne)
        obtain ⟨j, hj⟩ := List.mem_iff_getElem?.mp hb
        exact absurd (hunique 0 (j + 1) a b rfl hj ha hx) (Nat.succ_ne_zero j).symm
      have hone := hcount a List.mem_cons_self
      omega
    · rw [List.count_eq_zero.mpr ha]
      omega

/-- The elements before a position, and the one at it. -/
theorem tally_take_succ {a : α} {n : ℕ} (h : l[n]? = some a) :
    tally p (l.take (n + 1)) x = tally p (l.take n) x + (p a).count x := by
  rw [List.take_add_one, h, Option.toList_some, tally, tally, List.flatMap_append,
    List.count_append]
  simp

omit [DecidableEq β] in
/-- An assignment to an element that leaves its pointers leaves those of the array. -/
theorem map_modify_of_eq {f : α → α} (h : ∀ a, p (f a) = p a) :
    (l.modify i f).map p = l.map p := by
  refine List.ext_getElem? fun j => ?_
  rw [List.getElem?_map, List.getElem?_map, List.getElem?_modify]
  cases l[j]? with
  | none => rfl
  | some a =>
    by_cases hij : i = j
    · simp [hij, h a]
    · simp [hij]

/-- The tally depends on what the elements point to. -/
theorem tally_congr {l' : List α} (h : l.map p = l'.map p) : tally p l = tally p l' := by
  funext x
  rw [tally, tally, List.flatMap_def, List.flatMap_def, h]

/-- **An assignment to an element.** -/
theorem tally_modify {f : α → α} {a : α} (h : l[i]? = some a) :
    tally p (l.modify i f) x + (p a).count x = tally p l x + (p (f a)).count x := by
  induction l generalizing i with
  | nil => cases h
  | cons b l ih =>
    cases i with
    | zero =>
      cases h
      rw [List.modify_zero_cons, tally_cons, tally_cons]
      omega
    | succ i =>
      have hrest := ih h
      rw [List.modify_succ_cons, tally_cons, tally_cons]
      omega

/-- An assignment of a new element. -/
theorem tally_set {a b : α} (h : l[i]? = some a) :
    tally p (l.set i b) x + (p a).count x = tally p l x + (p b).count x := by
  rw [List.set_eq_modify]
  exact tally_modify h

/-- One array behind another. -/
theorem tally_append (p : α → List β) (l l' : List α) (x : β) :
    tally p (l ++ l') x = tally p l x + tally p l' x := by
  rw [tally, List.flatMap_append, List.count_append, tally, tally]

/-- The tally of an array after an assignment that leaves the pointers of the element. -/
theorem tally_modify_of_eq {f : α → α} (h : ∀ a, p (f a) = p a) :
    tally p (l.modify i f) = tally p l :=
  tally_congr (map_modify_of_eq h)

end Tally
