import Mathlib.Data.List.Sort
import Mathlib.Order.Bounds.Defs

/-!
# Binary heaps in lists

A list is a heap when no element has a smaller key than its parent, which stands at half its
position. The first element of a heap has the smallest key (`Heap.head_le`). The operations of a
priority queue are taken as they are documented: a `HeapQueue` is a pair of functions on heaps, and
`HeapQueue.Lawful` says that one takes an element of the smallest key away and the other adds an
element. Sorted lists are heaps, and `HeapQueue.sorted` is the queue that keeps them sorted.

The loop that takes elements away as long as the first one has a key below a bound
(`HeapQueue.takeBelow`) takes exactly the elements below the bound, in the order of their keys
(`HeapQueue.takeBelow_spec`).
-/

/-- No element has a smaller key than its parent. -/
def IsHeap {α κ : Type*} [LE κ] (key : α → κ) (l : List α) : Prop :=
  ∀ (i : ℕ) (x y : α), 0 < i → l[(i - 1) / 2]? = some x → l[i]? = some y → key x ≤ key y

/-- A heap. -/
structure Heap {α κ : Type*} [LE κ] (key : α → κ) where
  /-- The elements in the order of the array. -/
  entries : List α
  /-- No element is before its parent. -/
  ordered : IsHeap key entries

/-- The functions of a priority queue: take the first element away, and add one. -/
structure HeapQueue {α κ : Type*} [LE κ] (key : α → κ) where
  /-- Take the first element away. -/
  pop : Heap key → Option (α × Heap key)
  /-- Add an element. -/
  push : α → Heap key → Heap key

variable {α κ : Type*}

namespace IsHeap

/-- A list in the order of its keys is a heap. -/
theorem of_pairwise [LE κ] {key : α → κ} {l : List α}
    (h : l.Pairwise fun x y => key x ≤ key y) : IsHeap key l := by
  intro i x y hi hx hy
  obtain ⟨hxlt, rfl⟩ := List.getElem?_eq_some_iff.mp hx
  obtain ⟨hylt, rfl⟩ := List.getElem?_eq_some_iff.mp hy
  exact List.pairwise_iff_getElem.mp h _ _ hxlt hylt (by omega)

/-- The first element of a heap has the smallest key: along the parents the keys do not grow. -/
theorem head_le [Preorder κ] {key : α → κ} {x : α} {l : List α} (h : IsHeap key (x :: l)) :
    ∀ y ∈ x :: l, key x ≤ key y := by
  have hle : ∀ (i : ℕ) (y : α), (x :: l)[i]? = some y → key x ≤ key y := by
    intro i
    induction i using Nat.strong_induction_on with
    | h i ih =>
      intro y hy
      rcases Nat.eq_zero_or_pos i with rfl | hi
      · rw [List.getElem?_cons_zero, Option.some.injEq] at hy
        rw [hy]
      · have hparent : (i - 1) / 2 < i := by omega
        have hlt : (i - 1) / 2 < (x :: l).length :=
          hparent.trans (List.getElem?_eq_some_iff.mp hy).1
        have hget := List.getElem?_eq_getElem hlt
        exact (ih _ hparent _ hget).trans (h i _ y hi hget hy)
  intro y hy
  obtain ⟨i, hi⟩ := List.mem_iff_getElem?.mp hy
  exact hle i y hi

end IsHeap

/-- The first element of a heap is a least one. -/
theorem Heap.head_le [Preorder κ] {key : α → κ} (h : Heap key) {x : α} {l : List α}
    (hl : h.entries = x :: l) : ∀ y ∈ h.entries, key x ≤ key y := by
  have ho := h.ordered
  rw [hl] at ho ⊢
  exact ho.head_le

namespace HeapQueue

section Laws

variable [LE κ] {key : α → κ}

/-- What is documented of the functions. -/
structure Lawful (q : HeapQueue key) : Prop where
  /-- Only from an empty heap nothing can be taken. -/
  pop_isSome : ∀ h : Heap key, h.entries ≠ [] → (q.pop h).isSome
  /-- What is taken away is an element of the smallest key; the others stay. -/
  pop_perm : ∀ (h : Heap key) (x : α) (rest : Heap key), q.pop h = some (x, rest) →
    (x :: rest.entries).Perm h.entries
  /-- What is taken away has the smallest key. -/
  pop_le : ∀ (h : Heap key) (x : α) (rest : Heap key), q.pop h = some (x, rest) →
    ∀ y ∈ h.entries, key x ≤ key y
  /-- An element is added, and nothing else changes. -/
  push_perm : ∀ (x : α) (h : Heap key), (q.push x h).entries.Perm (x :: h.entries)

end Laws

variable [LinearOrder κ] {key : α → κ} {q : HeapQueue key} {bound : κ}

/-- Take elements away as long as the first one has a key below `bound`, `n` elements at most: the
elements that were taken, and the heap that is left. -/
def takeBelow (q : HeapQueue key) (bound : κ) : ℕ → Heap key → List α × Heap key
  | 0, h => ([], h)
  | n + 1, h =>
    match h.entries.head? with
    | none => ([], h)
    | some first =>
      if key first < bound then
        match q.pop h with
        | none => ([], h)
        | some (x, rest) => ((takeBelow q bound n rest).1.cons x, (takeBelow q bound n rest).2)
      else ([], h)

/-- What `takeBelow` takes of a heap, and what it leaves. -/
structure Taken (bound : κ) (h : Heap key) (r : List α × Heap key) : Prop where
  /-- Nothing is lost, and nothing is added. -/
  perm : (r.1 ++ r.2.entries).Perm h.entries
  /-- What is taken is taken in the order of the keys. -/
  sorted : r.1.Pairwise fun x y => key x ≤ key y
  /-- What is taken is below the bound. -/
  below : ∀ x ∈ r.1, key x < bound
  /-- What is left is not. -/
  above : ∀ x ∈ r.2.entries, bound ≤ key x

/-- A heap of which nothing is taken. -/
theorem taken_nothing {h : Heap key} (habove : ∀ x ∈ h.entries, bound ≤ key x) :
    Taken bound h ([], h) where
  perm := .refl _
  sorted := .nil
  below := fun x hx => by cases hx
  above := habove

/-- **What is taken is what is below the bound, in order.** The first element of a heap tells that
no element is below the bound. -/
theorem takeBelow_spec (hq : q.Lawful) (bound : κ) {n : ℕ} {h : Heap key}
    (hn : h.entries.length ≤ n) :
    Taken bound h (takeBelow q bound n h) := by
  induction n generalizing h with
  | zero =>
    have hnil : h.entries = [] := List.length_eq_zero_iff.mp (Nat.le_zero.mp hn)
    exact taken_nothing (by simp [hnil])
  | succ n ih =>
    unfold takeBelow
    cases hl : h.entries with
    | nil => exact taken_nothing (by simp [hl])
    | cons first l =>
      have hfirst := h.head_le hl
      simp only [List.head?_cons]
      split
      · next hbelow =>
        obtain ⟨⟨x, rest⟩, hpop⟩ := Option.isSome_iff_exists.mp (hq.pop_isSome h (by simp [hl]))
        have hperm := hq.pop_perm h x rest hpop
        have hle := hq.pop_le h x rest hpop
        have hlength : rest.entries.length ≤ n := by
          have := hperm.length_eq
          rw [List.length_cons] at this
          omega
        have htaken := ih hlength
        rw [hpop]
        exact
          { perm := (htaken.perm.cons x).trans hperm
            sorted := by
              refine List.pairwise_cons.mpr ⟨fun y hy => hle y ?_, htaken.sorted⟩
              have hy' := htaken.perm.mem_iff.mp (List.mem_append_left _ hy)
              exact hperm.mem_iff.mp (List.mem_cons_of_mem x hy')
            below := by
              intro y hy
              rcases List.mem_cons.mp hy with rfl | hy
              · exact (hle first (by simp [hl])).trans_lt hbelow
              · exact htaken.below y hy
            above := htaken.above }
      · next hnot =>
        exact taken_nothing fun x hx => (not_lt.mp hnot).trans (hfirst x hx)

/-! ## Keeping a heap sorted -/

/-- The order by the key is transitive. -/
instance : IsTrans α fun x y => key x ≤ key y := ⟨fun _ _ _ => le_trans⟩

/-- The order by the key is total. -/
instance : Std.Total fun x y : α => key x ≤ key y := ⟨fun x y => le_total (key x) (key y)⟩

/-- The elements in the order of their keys. -/
def inOrder (key : α → κ) (l : List α) : List α := l.insertionSort fun x y => key x ≤ key y

/-- The items in order are the same items. -/
theorem inOrder_perm (key : α → κ) (l : List α) : (inOrder key l).Perm l :=
  List.perm_insertionSort _ l

/-- The items in order are in order. -/
theorem inOrder_pairwise (key : α → κ) (l : List α) :
    (inOrder key l).Pairwise fun x y => key x ≤ key y :=
  List.pairwise_insertionSort _ l

/-- The queue that keeps its heap sorted. -/
def sorted (key : α → κ) : HeapQueue key where
  pop h := (inOrder key h.entries).head?.map fun x =>
    (x, ⟨(inOrder key h.entries).tail, .of_pairwise (inOrder_pairwise key h.entries).tail⟩)
  push x h := ⟨inOrder key (x :: h.entries), .of_pairwise (inOrder_pairwise key _)⟩

/-- The sorted queue is a lawful queue. -/
theorem sorted_lawful : (sorted key).Lawful := by
  have hpop : ∀ (h : Heap key) (x : α) (rest : Heap key), (sorted key).pop h = some (x, rest) →
      inOrder key h.entries = x :: rest.entries := by
    intro h x rest hpop
    obtain ⟨y, hy, hxr⟩ := Option.map_eq_some_iff.mp hpop
    cases hxr
    exact (List.cons_head?_tail hy).symm
  refine ⟨fun h hne => ?_, fun h x rest hx => ?_, fun h x rest hx y hy => ?_, fun x h => ?_⟩
  · have hne' : inOrder key h.entries ≠ [] := fun hnil => hne (by
      have := inOrder_perm key h.entries
      rw [hnil] at this
      exact this.nil_eq.symm)
    simp [sorted, hne']
  · rw [← hpop h x rest hx]
    exact inOrder_perm key h.entries
  · have hmem : y ∈ x :: rest.entries := by
      rw [← hpop h x rest hx]
      exact (inOrder_perm key h.entries).mem_iff.mpr hy
    have hsorted := inOrder_pairwise key h.entries
    rw [hpop h x rest hx, List.pairwise_cons] at hsorted
    rcases List.mem_cons.mp hmem with rfl | hmem
    · exact le_refl _
    · exact hsorted.1 y hmem
  · exact inOrder_perm key _

end HeapQueue
