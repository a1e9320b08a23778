import Mathlib.Data.Int.ModEq
import Mathlib.Data.List.Nodup
import Mathlib.Data.List.Perm.Basic

/-!
# Array-backed stacks of indices

A pool of `n` indices kept as a stack: an array of `n` cells and the position `top` of the topmost
entry, `-1` when the stack is empty. `pop` reads the cell at `top` and leaves it in place; `push`
overwrites the cell above `top`. The cells above `top` are garbage, so clients never speak of them:
the contents of a stack are its `entries`, and each operation has one law about them.

`Partition n free held` is the invariant of a pool: the free and the held indices together are
exactly `0, …, n - 1`, each once. It survives a pop and the push of a held index.
-/

/-- A stack of indices: its array, the position of the topmost entry, and the proof that this
position is in the array or just below it. -/
structure IndexStack where
  /-- The array. -/
  cells : List ℤ
  /-- The position of the topmost entry, `-1` for the empty stack. -/
  top : ℤ
  /-- An empty stack has its top just below the array. -/
  neg_one_le : -1 ≤ top
  /-- The topmost entry is in the array. -/
  top_lt : top < cells.length

namespace IndexStack

/-- The contents of the stack, topmost entry last. -/
def entries (s : IndexStack) : List ℤ := s.cells.take (s.top + 1).toNat

/-- Take the topmost entry; `none` when the stack is empty. -/
def pop (s : IndexStack) : Option (ℤ × IndexStack) :=
  if h : s.top < 0 then none
  else some (s.cells.get ⟨s.top.toNat, by have := s.top_lt; omega⟩,
    { s with top := s.top - 1, neg_one_le := by omega, top_lt := by have := s.top_lt; omega })

/-- Put `i` on top; `none` when the array is full. -/
def push (s : IndexStack) (i : ℤ) : Option IndexStack :=
  if h : s.top + 1 < s.cells.length then
    some { cells := s.cells.set (s.top + 1).toNat i
           top := s.top + 1
           neg_one_le := by have := s.neg_one_le; omega
           top_lt := by rw [List.length_set]; exact h }
  else none

/-- The full stack of the indices below `n`, the largest on top. -/
def range (n : ℕ) : IndexStack where
  cells := (List.range n).map Int.ofNat
  top := n - 1
  neg_one_le := by omega
  top_lt := by simp

variable {s s' : IndexStack} {i : ℤ}

/-- The number of entries. -/
@[simp] theorem length_entries (s : IndexStack) : s.entries.length = (s.top + 1).toNat := by
  have h := s.top_lt
  simp only [entries, List.length_take]
  omega

/-- A full stack has each index once. -/
@[simp] theorem entries_range (n : ℕ) : (range n).entries = (List.range n).map Int.ofNat := by
  simp [entries, range, List.take_of_length_le]

/-- A full stack has as many cells as indices. -/
@[simp] theorem length_cells_range (n : ℕ) : (range n).cells.length = n := by simp [range]

/-- There is nothing to take exactly when there are no entries. -/
theorem pop_eq_none : s.pop = none ↔ s.entries = [] := by
  have h := s.neg_one_le
  rw [← List.length_eq_zero_iff, length_entries]
  unfold pop
  split <;> simp <;> omega

/-- **Pop law.** The taken index was the last entry; the array is as it was. -/
theorem pop_eq_some (h : s.pop = some (i, s')) :
    s.entries = s'.entries ++ [i] ∧ s'.cells = s.cells := by
  have hlt := s.top_lt
  unfold pop at h
  split at h
  · cases h
  · next htop =>
    simp only [Option.some.injEq, Prod.mk.injEq] at h
    obtain ⟨rfl, rfl⟩ := h
    refine ⟨?_, rfl⟩
    simp only [entries, List.get_eq_getElem, sub_add_cancel]
    rw [show (s.top + 1).toNat = s.top.toNat + 1 by omega]
    exact List.take_succ_eq_append_getElem (by omega)

/-- There is no room exactly when every cell holds an entry. -/
theorem push_eq_none : s.push i = none ↔ s.entries.length = s.cells.length := by
  have h₁ := s.neg_one_le
  have h₂ := s.top_lt
  rw [length_entries]
  unfold push
  split <;> simp <;> omega

/-- **Push law.** The pushed index is the last entry; the array has the length it had. -/
theorem push_eq_some (h : s.push i = some s') :
    s'.entries = s.entries ++ [i] ∧ s'.cells.length = s.cells.length := by
  have hneg := s.neg_one_le
  unfold push at h
  split at h
  · next hlt =>
    cases h
    refine ⟨?_, List.length_set⟩
    simp only [entries]
    rw [show (s.top + 1 + 1).toNat = (s.top + 1).toNat + 1 by omega,
      List.take_succ_eq_append_getElem (by rw [List.length_set]; omega), List.getElem_set_self,
      List.take_set_of_le (le_refl _)]
  · cases h

/-- Where nothing is taken, the top is below the array. -/
theorem top_lt_zero (h : s.pop = none) : s.top < 0 := by
  unfold pop at h
  split at h
  · assumption
  · cases h

/-- What `pop` reads and changes. -/
theorem pop_top (h : s.pop = some (i, s')) :
    0 ≤ s.top ∧ s.cells[s.top.toNat]? = some i ∧ s'.top = s.top - 1 ∧ s'.cells = s.cells := by
  have hlt := s.top_lt
  unfold pop at h
  split at h
  · cases h
  · next htop =>
    simp only [Option.some.injEq, Prod.mk.injEq] at h
    obtain ⟨rfl, rfl⟩ := h
    exact ⟨by omega, List.getElem?_eq_getElem (by omega), rfl, rfl⟩

/-- Where nothing can be put, the array is full. -/
theorem length_le_top (h : s.push i = none) : s.cells.length ≤ s.top + 1 := by
  unfold push at h
  split at h
  · cases h
  · omega

/-- What `push` writes and changes. -/
theorem push_top (h : s.push i = some s') :
    s.top + 1 < s.cells.length ∧ s'.top = s.top + 1 ∧
      s'.cells = s.cells.set (s.top + 1).toNat i := by
  unfold push at h
  split at h
  · next hlt =>
    cases h
    exact ⟨hlt, rfl, rfl⟩
  · cases h

/-- The free and the held indices are exactly the indices below `n`, each once. -/
def Partition (n : ℕ) (free held : List ℤ) : Prop :=
  (free ++ held).Perm ((List.range n).map Int.ofNat)

namespace Partition

variable {n : ℕ} {free held : List ℤ}

/-- At first every index is free. -/
theorem range (n : ℕ) : Partition n (IndexStack.range n).entries [] := by
  simp [Partition]

/-- No index occurs twice. -/
theorem nodup (h : Partition n free held) : (free ++ held).Nodup :=
  h.nodup_iff.mpr (List.nodup_range.map fun _ _ => Int.ofNat.inj)

/-- The indices of the pool are those from `0` to `n - 1`. -/
theorem mem_iff (h : Partition n free held) : i ∈ free ∨ i ∈ held ↔ 0 ≤ i ∧ i < n := by
  rw [← List.mem_append, List.Perm.mem_iff h]
  simp only [List.mem_map, List.mem_range, Int.ofNat_eq_natCast]
  constructor
  · rintro ⟨k, hk, rfl⟩
    omega
  · rintro ⟨h₀, hn⟩
    exact ⟨i.toNat, by omega, by omega⟩

/-- A free index is not held. -/
theorem not_held (h : Partition n free held) (hi : i ∈ free) : i ∉ held :=
  fun hh => (List.nodup_append.mp h.nodup).2.2 i hi i hh rfl

/-- The free indices are those of the pool that are not held. -/
theorem mem_free_iff (h : Partition n free held) :
    i ∈ free ↔ (0 ≤ i ∧ i < n) ∧ i ∉ held := by
  constructor
  · exact fun hi => ⟨h.mem_iff.mp (.inl hi), h.not_held hi⟩
  · rintro ⟨hr, hh⟩
    exact (h.mem_iff.mpr hr).resolve_right hh

/-- There are as many free and held indices as the pool has. -/
theorem length_add (h : Partition n free held) : free.length + held.length = n := by
  simpa using h.length_eq

/-- The order of the held indices does not matter. -/
theorem perm {held' : List ℤ} (h : Partition n free held) (hheld : held'.Perm held) :
    Partition n free held' := (hheld.append_left free).trans h

/-- A free index that is taken becomes held. -/
theorem acquire (h : Partition n (free ++ [i]) held) : Partition n free (i :: held) := by
  unfold Partition at *
  rwa [List.append_assoc, List.singleton_append] at h

/-- A held index that is given back becomes free. -/
theorem release (h : Partition n free held) (hi : i ∈ held) :
    Partition n (free ++ [i]) (held.erase i) := by
  unfold Partition at *
  refine List.Perm.trans ?_ h
  rw [List.append_assoc, List.singleton_append]
  exact (List.perm_cons_erase hi).symm.append_left free

end Partition

end IndexStack
