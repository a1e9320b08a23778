import Uringio.Buffers.Index
import Uringio.Lib.Transition

/-!
# The index pool in memory

`buffer_index.c` on the array itself: the pointer `available_indices` is null once the array is
freed, and what the loop of `buffer_idx_registry_create` does not reach is not set. Every access
faults outside the array, on a cell that is not set, and on a freed array.

As long as the array exists the pool represents a `FixedBufferIdxRegistry`, and each operation does
what it does there (`get_represents`, `release_represents`). A history is a sequence of operations
with the indices that are held; as long as only held indices are given back, the free and the held
ones partition the indices of the pool, and no operation faults (`pool_of_run`).
-/

namespace Uringio

open IndexStack (Partition)

/-- `FixedBufferIdxRegistry`, with the array that it points to. -/
structure IndexPool where
  /-- The array of the stack, if it was allocated. -/
  available_indices : Option (List (Option ℤ))
  /-- The position of the top, `-1` in an empty pool. -/
  top : ℤ
  /-- The number of indices. -/
  size : ℕ

namespace IndexPool

/-- What goes wrong with an access to the array. -/
inductive Fault
  | freed | outside | unset
  deriving DecidableEq

/-- The loop of `buffer_idx_registry_create`: set the cells from `0` on to their positions. -/
def fill : ℕ → List (Option ℤ) → List (Option ℤ)
  | 0, cells => cells
  | n + 1, cells => (fill n cells).set n (some n)

/-- `buffer_idx_registry_create`, where the allocations succeed. -/
def create (size : ℕ) : IndexPool :=
  let size := if size = 0 then DEFAULT_BUFFER_IDX_REGISTRY_SIZE else size
  { available_indices := some (fill (CInt.toInt size).toNat (List.replicate size none))
    top := CInt.toInt size - 1
    size := size }

/-- `buffer_idx_registry_destroy`. -/
def destroy (_reg : IndexPool) : IndexPool := ⟨none, -1, 0⟩

/-- `reg->available_indices[i]`. -/
def load (reg : IndexPool) (i : ℤ) : Except Fault ℤ :=
  match reg.available_indices with
  | none => .error .freed
  | some cells =>
    if i < 0 then .error .outside
    else match cells[i.toNat]? with
      | none => .error .outside
      | some none => .error .unset
      | some (some index) => .ok index

/-- `reg->available_indices[i] = index`. -/
def store (reg : IndexPool) (i index : ℤ) : Except Fault IndexPool :=
  match reg.available_indices with
  | none => .error .freed
  | some cells =>
    if 0 ≤ i ∧ i < cells.length then
      .ok { reg with available_indices := some (cells.set i.toNat (some index)) }
    else .error .outside

/-- `get_buffer_idx`. -/
def get (reg : IndexPool) : Except Fault (ℤ × IndexPool) :=
  if reg.top < 0 then .ok (-1, reg)
  else do
    let index ← reg.load reg.top
    .ok (index, { reg with top := reg.top - 1 })

/-- `release_buffer_idx`. -/
def release (reg : IndexPool) (index : ℤ) : Except Fault (ℤ × IndexPool) :=
  if CInt.toInt reg.size ≤ reg.top + 1 then .ok (-1, reg)
  else do
    let reg := { reg with top := reg.top + 1 }
    let reg ← reg.store reg.top index
    .ok (0, reg)

/-- The free entries, `available_indices[0..top]`. -/
def free (reg : IndexPool) : List (Option ℤ) :=
  (reg.available_indices.getD []).take (reg.top + 1).toNat

/-! ## The abstract pool -/

/-- The pool holds the stack of the abstract one, every cell set. -/
structure Represents (reg : IndexPool) (abs : FixedBufferIdxRegistry) : Prop where
  /-- The array is that of the abstract stack, all of it set. -/
  cells : reg.available_indices = some (abs.available_indices.cells.map some)
  /-- The top is the same. -/
  top : reg.top = abs.available_indices.top
  /-- The size is the same. -/
  size : reg.size = abs.size

variable {reg reg' : IndexPool} {abs : FixedBufferIdxRegistry} {n : ℕ} {index k : ℤ}

/-- The loop sets the first `n` cells. -/
theorem fill_eq {cells : List (Option ℤ)} (hn : n ≤ cells.length) :
    fill n cells = (List.range n).map (fun i => some (Int.ofNat i)) ++ cells.drop n := by
  induction n with
  | zero => rfl
  | succ n ih =>
    have hlength : ((List.range n).map fun i => some (Int.ofNat i)).length = n := by simp
    have hdrop : cells.drop n = cells[n] :: cells.drop (n + 1) := List.drop_eq_getElem_cons hn
    rw [fill, ih (by omega), hdrop, List.set_append_right _ _ (by rw [hlength]), hlength,
      Nat.sub_self, List.set_cons_zero, List.range_succ, List.map_append, List.append_assoc]
    rfl

/-- **A new pool** represents the abstract one of its size. -/
theorem create_represents (h₁ : 1 ≤ n) (h₂ : n < 2^31) :
    ∃ abs, bufferIdxRegistryCreate n = some abs ∧ (create n).Represents abs := by
  have hn : n ≠ 0 := by omega
  have hint := CInt.toInt_natCast h₂
  refine ⟨_, by unfold bufferIdxRegistryCreate; simp only [hn, ↓reduceIte]; rw [dif_pos h₂], ?_⟩
  unfold create
  simp only [hn, ↓reduceIte]
  rw [hint]
  constructor
  · rw [Int.toNat_natCast, fill_eq (by simp)]
    simp [IndexStack.range]
  · rfl
  · rfl

/-- The free entries of a pool are those of the abstract one. -/
theorem Represents.free_eq (h : reg.Represents abs) : reg.free = abs.free.map some := by
  unfold free FixedBufferIdxRegistry.free IndexStack.entries
  rw [h.cells, h.top, Option.getD_some, List.map_take]

/-- **`get_buffer_idx`** does what it does on the abstract pool. -/
theorem get_represents (h : reg.Represents abs) :
    ∃ reg', reg.get = .ok ((getBufferIdx abs).1, reg') ∧
      reg'.Represents (getBufferIdx abs).2 := by
  unfold getBufferIdx
  split
  · next hpop =>
    unfold get
    rw [h.top, if_pos (IndexStack.top_lt_zero hpop)]
    exact ⟨reg, rfl, h⟩
  · next index stack hpop =>
    obtain ⟨htop, hcell, htop', hcells'⟩ := IndexStack.pop_top hpop
    have hload : reg.load abs.available_indices.top = .ok index := by
      unfold load
      rw [h.cells]
      dsimp only
      rw [if_neg (by omega), List.getElem?_map, hcell]
      rfl
    unfold get
    rw [h.top, if_neg (by omega), hload]
    refine ⟨_, rfl, ?_, htop'.symm, h.size⟩
    dsimp only
    rw [hcells']
    exact h.cells

/-- **`release_buffer_idx`** does what it does on the abstract pool. -/
theorem release_represents (h : reg.Represents abs) (index : ℤ) :
    ∃ reg', reg.release index = .ok ((releaseBufferIdx abs index).1, reg') ∧
      reg'.Represents (releaseBufferIdx abs index).2 := by
  have hneg := abs.available_indices.neg_one_le
  have hsize : CInt.toInt reg.size = abs.available_indices.cells.length := by
    rw [h.size, CInt.toInt_natCast abs.size_lt, abs.cells_length]
  unfold releaseBufferIdx
  split
  · next hpush =>
    unfold release
    rw [h.top, hsize, if_pos (IndexStack.length_le_top hpush)]
    exact ⟨reg, rfl, h⟩
  · next stack hpush =>
    obtain ⟨hroom, htop', hcells'⟩ := IndexStack.push_top hpush
    have hlength : abs.available_indices.top + 1 <
        (abs.available_indices.cells.map some).length := by
      rw [List.length_map]
      exact hroom
    unfold release
    rw [h.top, hsize, if_neg (by omega)]
    unfold store
    rw [h.cells]
    dsimp only
    rw [if_pos ⟨by omega, hlength⟩]
    refine ⟨_, rfl, ?_, htop'.symm, h.size⟩
    dsimp only
    rw [hcells', List.map_set]

/-- **A destroyed pool** gives nothing out and takes nothing back, and touches no array. -/
theorem get_destroy : (⟨none, -1, 0⟩ : IndexPool).get = .ok (-1, ⟨none, -1, 0⟩) := by
  unfold get
  rw [if_pos (by decide)]

/-- A release to a pool that was destroyed is refused. -/
theorem release_destroy (index : ℤ) :
    (⟨none, -1, 0⟩ : IndexPool).release index = .ok (-1, ⟨none, -1, 0⟩) := by
  have hzero : CInt.toInt (0 : ℕ) = 0 := CInt.toInt_natCast (by omega)
  unfold release
  rw [if_pos (by dsimp only; rw [hzero]; omega)]

/-! ## Histories -/

/-- What is done with a pool. -/
inductive PoolOp
  | get
  | release (index : ℤ)
  | destroy

/-- A pool, the indices that are held, and whether the pool is destroyed. -/
structure History where
  /-- The pool. -/
  pool : IndexPool
  /-- The indices that were handed out and not given back. -/
  held : List ℤ
  /-- The pool was destroyed. -/
  destroyed : Bool

/-- A new pool, of which nothing is held. -/
def History.start (n : ℕ) : History := ⟨create n, [], false⟩

/-- An operation; `none` when it faults. An index that is given out is held from then on, and one
that is given back no longer. -/
def History.step (s : History) : PoolOp → Option History
  | .get =>
    match s.pool.get with
    | .error _ => none
    | .ok (index, pool) =>
      some { s with pool := pool, held := if index = -1 then s.held else index :: s.held }
  | .release index =>
    match s.pool.release index with
    | .error _ => none
    | .ok (_, pool) => some { s with pool := pool, held := s.held.erase index }
  | .destroy => some { s with pool := s.pool.destroy, destroyed := true }

/-- Only an index that is held is given back. -/
def History.Given (s : History) : PoolOp → Prop
  | .release index => index ∈ s.held
  | _ => True

instance (s : History) (op : PoolOp) : Decidable (s.Given op) := by
  cases op <;> unfold History.Given <;> infer_instance

/-- The free and the held indices partition those of the pool; a destroyed pool is empty. -/
structure History.Sound (n : ℕ) (s : History) : Prop where
  /-- Before it is destroyed, the pool is a stack, and each index is on it or held. -/
  alive : s.destroyed = false → ∃ abs, s.pool.Represents abs ∧ abs.size = n ∧
    Partition n abs.free s.held
  /-- After it is destroyed, nothing is left of it. -/
  dead : s.destroyed = true → s.pool = ⟨none, -1, 0⟩

variable {s s' : History} {op : PoolOp}

/-- A new pool is sound. -/
theorem History.sound_start (h₁ : 1 ≤ n) (h₂ : n < 2^31) : (History.start n).Sound n := by
  obtain ⟨abs, hcreate, hrep⟩ := create_represents h₁ h₂
  refine ⟨fun _ => ⟨abs, hrep, ?_, ?_⟩, fun h => by cases h⟩
  all_goals
    unfold bufferIdxRegistryCreate at hcreate
    rw [if_neg (by omega)] at hcreate
    simp only [h₂, ↓reduceDIte, Option.some.injEq] at hcreate
    subst hcreate
  · rfl
  · exact Partition.range n

/-- **Taking**: from a pool of which all indices are held nothing, else an index that is free. -/
theorem get_spec (hrep : reg.Represents abs) (hsize : abs.size = n) {held : List ℤ}
    (hpart : Partition n abs.free held) :
    (held.length = n ∧ reg.get = .ok (-1, reg)) ∨
    (held.length ≠ n ∧ ∃ k reg' abs', reg.get = .ok (k, reg') ∧ reg'.Represents abs' ∧
      abs'.size = n ∧ abs.free = abs'.free ++ [k] ∧ k ∉ held ∧ 0 ≤ k ∧ k < n) := by
  have hlength := hpart.length_add
  obtain ⟨reg', hget, hrep'⟩ := get_represents hrep
  rcases FixedBufferIdxRegistry.getBufferIdx_cases abs with ⟨hnil, heq⟩ | ⟨k, abs', heq, hfree, hs⟩
  · refine .inl ⟨by rw [← hlength, hnil]; simp, ?_⟩
    unfold get
    rw [if_pos ?_]
    have hentries := abs.available_indices.length_entries
    unfold FixedBufferIdxRegistry.free at hnil
    rw [hnil, List.length_nil] at hentries
    rw [hrep.top]
    have hneg := abs.available_indices.neg_one_le
    omega
  · rw [heq] at hget hrep'
    have hmem : k ∈ abs.free := by simp [hfree]
    have hrange := (hpart.mem_free_iff.mp hmem)
    refine .inr ⟨?_, k, reg', abs', hget, hrep', hs.trans hsize, hfree, hrange.2, hrange.1⟩
    rw [hfree, List.length_append, List.length_singleton] at hlength
    omega

/-- **Giving back** an index that is held goes through. -/
theorem release_spec (hrep : reg.Represents abs) (hsize : abs.size = n) {held : List ℤ}
    (hpart : Partition n abs.free held) (hk : k ∈ held) :
    ∃ reg' abs', reg.release k = .ok (0, reg') ∧ reg'.Represents abs' ∧ abs'.size = n ∧
      abs'.free = abs.free ++ [k] := by
  have hlength := hpart.length_add
  have hpos := List.length_pos_of_mem hk
  obtain ⟨reg', hrelease, hrep'⟩ := release_represents hrep k
  rcases FixedBufferIdxRegistry.releaseBufferIdx_cases abs k with
    ⟨hfull, -⟩ | ⟨-, abs', heq, hfree, hs⟩
  · omega
  · rw [heq] at hrelease hrep'
    exact ⟨reg', abs', hrelease, hrep', hs.trans hsize, hfree⟩

/-- **Step lemma.** Where only held indices are given back, an operation keeps the pool sound. -/
theorem History.Sound.step (hsound : s.Sound n) (hgiven : s.Given op)
    (hstep : s.step op = some s') :
    s'.Sound n := by
  cases op with
  | destroy =>
    cases hstep
    exact ⟨nofun, fun _ => rfl⟩
  | get =>
    simp only [History.step] at hstep
    cases hdestroyed : s.destroyed with
    | true =>
      rw [hsound.dead hdestroyed, get_destroy] at hstep
      cases hstep
      exact ⟨fun h => (by rw [hdestroyed] at h; cases h), fun _ => rfl⟩
    | false =>
      obtain ⟨abs, hrep, hsize, hpart⟩ := hsound.alive hdestroyed
      rcases get_spec hrep hsize hpart with ⟨-, hget⟩ |
        ⟨-, k, reg', abs', hget, hrep', hsize', hfree, -, hk, -⟩
      · rw [hget] at hstep
        cases hstep
        exact hsound
      · rw [hget] at hstep
        cases hstep
        refine ⟨fun _ => ⟨abs', hrep', hsize', ?_⟩, fun h => by rw [hdestroyed] at h; cases h⟩
        dsimp only
        rw [if_neg (by omega)]
        rw [hfree] at hpart
        exact hpart.acquire
  | release k =>
    simp only [History.step] at hstep
    cases hdestroyed : s.destroyed with
    | true =>
      rw [hsound.dead hdestroyed, release_destroy] at hstep
      cases hstep
      exact ⟨fun h => (by rw [hdestroyed] at h; cases h), fun _ => rfl⟩
    | false =>
      obtain ⟨abs, hrep, hsize, hpart⟩ := hsound.alive hdestroyed
      obtain ⟨reg', abs', hrelease, hrep', hsize', hfree⟩ := release_spec hrep hsize hpart hgiven
      rw [hrelease] at hstep
      cases hstep
      refine ⟨fun _ => ⟨abs', hrep', hsize', ?_⟩, fun h => by rw [hdestroyed] at h; cases h⟩
      dsimp only
      rw [hfree]
      exact hpart.release hgiven

/-- What a pool of `n` indices promises of its next operations. -/
structure History.Correct (n : ℕ) (s : History) : Prop where
  /-- Before it is destroyed, each index is free or held. -/
  partition : s.destroyed = false → ∃ free : List ℤ, s.pool.free = free.map some ∧
    Partition n free s.held
  /-- There is no index to get exactly if all are held. -/
  get_none : s.destroyed = false →
    (s.pool.get = .ok (-1, s.pool) ↔ ∀ i : ℤ, 0 ≤ i → i < n → i ∈ s.held)
  /-- If some index is not held, one such is handed out. -/
  get_some : s.destroyed = false → (∃ i : ℤ, (0 ≤ i ∧ i < n) ∧ i ∉ s.held) →
    ∃ k pool, s.pool.get = .ok (k, pool) ∧ (0 ≤ k ∧ k < n) ∧ k ∉ s.held
  /-- An index that is held is taken back. -/
  release : s.destroyed = false → ∀ k ∈ s.held, ∃ pool, s.pool.release k = .ok (0, pool)
  /-- After it is destroyed, there is no array. -/
  freed : s.destroyed = true → s.pool.available_indices = none
  /-- After it is destroyed, there is no index to get. -/
  get_freed : s.destroyed = true → s.pool.get = .ok (-1, s.pool)
  /-- After it is destroyed, no index is taken back. -/
  release_freed : s.destroyed = true → ∀ k, s.pool.release k = .ok (-1, s.pool)

/-- A sound pool keeps its promises. -/
theorem History.Sound.correct (hsound : s.Sound n) : s.Correct n := by
  refine ⟨fun h => ?_, fun h => ?_, fun h hfree => ?_, fun h k hk => ?_, fun h => ?_, fun h => ?_,
    fun h k => ?_⟩
  · obtain ⟨abs, hrep, -, hpart⟩ := hsound.alive h
    exact ⟨abs.free, hrep.free_eq, hpart⟩
  · obtain ⟨abs, hrep, hsize, hpart⟩ := hsound.alive h
    have hall : (∀ i : ℤ, 0 ≤ i → i < n → i ∈ s.held) ↔ abs.free = [] := by
      rw [List.eq_nil_iff_forall_not_mem]
      constructor
      · intro hall i hi
        obtain ⟨⟨h₀, hn⟩, hheld⟩ := hpart.mem_free_iff.mp hi
        exact hheld (hall i h₀ hn)
      · intro hnone i h₀ hn
        exact (hpart.mem_iff.mpr ⟨h₀, hn⟩).resolve_left (hnone i)
    have hlength := hpart.length_add
    rw [hall]
    rcases get_spec hrep hsize hpart with ⟨hfull, hget⟩ |
        ⟨hroom, k, reg', _, hget, _, _, hlast, _, hk, _⟩
    · refine iff_of_true hget (List.length_eq_zero_iff.mp (by omega))
    · refine iff_of_false (fun hnone => ?_) (by simp [hlast])
      rw [hget] at hnone
      have hminus : k = -1 := (Prod.mk.inj (Except.ok.inj hnone)).1
      omega
  · obtain ⟨abs, hrep, hsize, hpart⟩ := hsound.alive h
    rcases get_spec hrep hsize hpart with ⟨hfull, -⟩ | ⟨-, k, reg', _, hget, _, _, _, hk, hrange⟩
    · obtain ⟨i, hi, hnot⟩ := hfree
      have hlength := hpart.length_add
      have hmem := (hpart.mem_iff.mpr hi).resolve_right hnot
      have hpos := List.length_pos_of_mem hmem
      omega
    · exact ⟨k, reg', hget, hrange, hk⟩
  · obtain ⟨abs, hrep, hsize, hpart⟩ := hsound.alive h
    obtain ⟨reg', _, hrelease, -⟩ := release_spec hrep hsize hpart hk
    exact ⟨reg', hrelease⟩
  · rw [hsound.dead h]
  · rw [hsound.dead h]
    exact get_destroy
  · rw [hsound.dead h]
    exact release_destroy k

/-- **Index pool.** In every history of a new pool in which only held indices are given back, the
pool keeps its promises. -/
theorem pool_of_run (h₁ : 1 ≤ n) (h₂ : n ≤ 2^31 - 1)
    (hrun : Transition.Run History.step History.Given (History.start n) s) : s.Correct n :=
  History.Sound.correct (hrun.invariant (History.sound_start h₁ (by omega))
    fun _ _ _ hsound hgiven hstep => hsound.step hgiven hstep)

/-- Two indices are taken from a pool of three, one is given back, and the pool is destroyed while
the other is held. -/
theorem pool_of_three : ∃ s, Transition.Run History.step History.Given (History.start 3) s ∧
    s.held = [1] ∧ s.destroyed = true ∧ s.Correct 3 := by
  let ops : List PoolOp := [.get, .get, .release 2, .destroy]
  obtain ⟨s, hs, hheld, hdestroyed⟩ : ∃ s,
      Transition.exec History.step History.Given (History.start 3) ops = some s ∧
        s.held = [1] ∧ s.destroyed = true := ⟨_, rfl, rfl, rfl⟩
  have hrun := Transition.Run.of_exec hs
  exact ⟨s, hrun, hheld, hdestroyed, pool_of_run (by decide) (by decide) hrun⟩

end IndexPool

end Uringio
