import Uringio.Lib.CInt
import Uringio.Lib.IndexStack

/-!
# The pool of fixed-buffer indices

`buffer_index.c`: which of the registered buffers of a `FIXED` context are not in use. The pool is
told the index that is given back and believes it.
-/

namespace Uringio

/-- `FixedBufferIdxRegistry`. -/
structure FixedBufferIdxRegistry where
  /-- The array `available_indices` and its `top`. -/
  available_indices : IndexStack
  /-- The number of indices. -/
  size : ℕ
  /-- The stack has a place for each of them. -/
  cells_length : available_indices.cells.length = size
  /-- The number is below the range of `int`. -/
  size_lt : size < 2^31

/-- `DEFAULT_BUFFER_IDX_REGISTRY_SIZE`. -/
def DEFAULT_BUFFER_IDX_REGISTRY_SIZE : ℕ := 128

/-- `buffer_idx_registry_create`; `none` for a size that is not an `int`. -/
def bufferIdxRegistryCreate (size : ℕ) : Option FixedBufferIdxRegistry :=
  let n := if size = 0 then DEFAULT_BUFFER_IDX_REGISTRY_SIZE else size
  if h : n < 2^31 then
    some ⟨IndexStack.range n, n, IndexStack.length_cells_range n, h⟩
  else none

/-- `get_buffer_idx`: an index that is not in use, `-1` when there is none. -/
def getBufferIdx (reg : FixedBufferIdxRegistry) : ℤ × FixedBufferIdxRegistry :=
  match h : reg.available_indices.pop with
  | none => (-1, reg)
  | some (index, available_indices) =>
    (index, { reg with
      available_indices := available_indices
      cells_length := by rw [(IndexStack.pop_eq_some h).2]; exact reg.cells_length })

/-- `release_buffer_idx`: `-1` when every cell holds an index already. -/
def releaseBufferIdx (reg : FixedBufferIdxRegistry) (index : ℤ) : ℤ × FixedBufferIdxRegistry :=
  match h : reg.available_indices.push index with
  | none => (-1, reg)
  | some available_indices =>
    (0, { reg with
      available_indices := available_indices
      cells_length := (IndexStack.push_eq_some h).2.trans reg.cells_length })

namespace FixedBufferIdxRegistry

/-- The indices that are not in use. -/
def free (reg : FixedBufferIdxRegistry) : List ℤ := reg.available_indices.entries

variable {reg reg' : FixedBufferIdxRegistry} {k : ℤ}

/-- What `get_buffer_idx` does: it takes the last free index, or nothing when there is none. -/
theorem getBufferIdx_cases (reg : FixedBufferIdxRegistry) :
    (reg.free = [] ∧ getBufferIdx reg = (-1, reg)) ∨
    ∃ k reg', getBufferIdx reg = (k, reg') ∧ reg.free = reg'.free ++ [k] ∧
      reg'.size = reg.size := by
  unfold getBufferIdx
  split
  · next hpop => exact .inl ⟨IndexStack.pop_eq_none.mp hpop, rfl⟩
  · next k available hpop =>
    exact .inr ⟨k, _, rfl, (IndexStack.pop_eq_some hpop).1, rfl⟩

/-- What `release_buffer_idx` does: it adds the index, or nothing when the pool is full. -/
theorem releaseBufferIdx_cases (reg : FixedBufferIdxRegistry) (k : ℤ) :
    (reg.free.length = reg.size ∧ releaseBufferIdx reg k = (-1, reg)) ∨
    (reg.free.length < reg.size ∧ ∃ reg', releaseBufferIdx reg k = (0, reg') ∧
      reg'.free = reg.free ++ [k] ∧ reg'.size = reg.size) := by
  unfold releaseBufferIdx
  split
  · next hpush =>
    exact .inl ⟨(IndexStack.push_eq_none.mp hpush).trans reg.cells_length, rfl⟩
  · next available hpush =>
    have hne : ¬ reg.available_indices.entries.length = reg.available_indices.cells.length := by
      rw [← IndexStack.push_eq_none (i := k), hpush]
      simp
    have hlen := IndexStack.length_entries reg.available_indices
    have htop := reg.available_indices.top_lt
    have hcells := reg.cells_length
    refine .inr ⟨?_, _, rfl, (IndexStack.push_eq_some hpush).1, rfl⟩
    unfold free
    omega

end FixedBufferIdxRegistry

end Uringio
