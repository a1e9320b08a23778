import Mathlib.Data.Int.ModEq
import Mathlib.Data.List.Nodup

/-!
# Circular buffers with free-running counters

A single-producer, single-consumer queue over a fixed array of cells. The producer reserves the
cell at `tail % n` and fills it afterwards; the consumer advances `head`. The counters are never
reduced, so the position of an entry, the value of `tail` when it was reserved, identifies it for
ever, while its cell is used again every `n` reservations. A cell keeps what it last held: an
entry that is reserved and not filled carries the contents of the entry `n` positions before it.

`window` is the queue's contents: the positions in `[head, tail)` with their cells. Its three
laws, one for each operation, are all that a client needs.
-/

/-- A circular buffer: the cells, the consumer's and the producer's counter, and the proof that
the counters enclose at most one lap of the cells. -/
structure RingBuffer (α : Type*) where
  /-- The array of cells. -/
  cells : List α
  /-- The position of the oldest entry. -/
  head : ℕ
  /-- The position that the next reservation gets. -/
  tail : ℕ
  /-- There is at least one cell. -/
  pos : 0 < cells.length
  /-- The consumer does not pass the producer. -/
  head_le : head ≤ tail
  /-- The producer is at most one lap ahead. -/
  room : tail ≤ head + cells.length

namespace RingBuffer

variable {α : Type*} (b : RingBuffer α)

/-- The number of cells that no entry occupies. -/
def free : ℕ := b.head + b.cells.length - b.tail

/-- The cell that position `p` uses. -/
def cell (p : ℕ) : α := b.cells.get ⟨p % b.cells.length, Nat.mod_lt _ b.pos⟩

/-- The contents: each position from `head` to `tail` with its cell, oldest first. -/
def window : List (ℕ × α) := (List.range' b.head (b.tail - b.head)).map fun p => (p, b.cell p)

/-- Reserve the cell at `tail`, which keeps its old contents; `none` when the buffer is full. -/
def reserve : Option (RingBuffer α) :=
  if h : b.tail < b.head + b.cells.length then
    some { b with
      tail := b.tail + 1
      head_le := Nat.le_succ_of_le b.head_le
      room := h }
  else none

/-- Apply `f` to the cell of position `p`. -/
def modify (p : ℕ) (f : α → α) : RingBuffer α :=
  { b with
    cells := b.cells.modify (p % b.cells.length) f
    pos := by rw [List.length_modify]; exact b.pos
    room := by rw [List.length_modify]; exact b.room }

/-- Consume the `k` oldest entries, or all of them when there are fewer. -/
def consume (k : ℕ) : RingBuffer α :=
  { b with
    head := min (b.head + k) b.tail
    head_le := min_le_right _ _
    room := by have := b.room; have := b.head_le; omega }

/-- A buffer of `n + 1` cells that all hold `a`, and no entries. -/
def replicate (n : ℕ) (a : α) : RingBuffer α where
  cells := List.replicate (n + 1) a
  head := 0
  tail := 0
  pos := by simp
  head_le := le_refl 0
  room := by simp

/-- A change of a cell leaves the tail. -/
@[simp] theorem modify_tail (p : ℕ) (f : α → α) : (b.modify p f).tail = b.tail := rfl

/-- A change of a cell leaves the head. -/
@[simp] theorem modify_head (p : ℕ) (f : α → α) : (b.modify p f).head = b.head := rfl

/-- The consumer leaves the tail. -/
@[simp] theorem consume_tail (k : ℕ) : (b.consume k).tail = b.tail := rfl

/-- A change of a cell leaves the number of free cells. -/
@[simp] theorem modify_free (p : ℕ) (f : α → α) : (b.modify p f).free = b.free := by
  simp [free, modify]

/-- The window holds as many entries as the counters are apart. -/
@[simp] theorem length_window : b.window.length = b.tail - b.head := by simp [window]

/-- An entry of the window: a position between the counters, with its cell. -/
theorem mem_window {p : ℕ} {a : α} :
    (p, a) ∈ b.window ↔ b.head ≤ p ∧ p < b.tail ∧ a = b.cell p := by
  have h := b.head_le
  simp only [window, List.mem_map, List.mem_range'_1, Prod.mk.injEq]
  constructor
  · rintro ⟨q, ⟨h₁, h₂⟩, rfl, rfl⟩
    exact ⟨h₁, by omega, rfl⟩
  · rintro ⟨h₁, h₂, rfl⟩
    exact ⟨p, ⟨h₁, by omega⟩, rfl, rfl⟩

/-- Positions less than one lap apart use different cells. -/
theorem mod_ne {p q n : ℕ} (hlt : p < q) (hlap : q < p + n) : p % n ≠ q % n := by
  intro he
  have hdvd : n ∣ q - p := (Nat.modEq_iff_dvd' hlt.le).mp he
  have := Nat.le_of_dvd (by omega) hdvd
  omega

/-- A modification at `p` is read back at `p`. -/
theorem cell_modify_self (p : ℕ) (f : α → α) : (b.modify p f).cell p = f (b.cell p) := by
  simp [cell, modify]

/-- A modification at `p` leaves the cells of the positions less than one lap away. -/
theorem cell_modify_ne {p q : ℕ} (f : α → α) (h : p % b.cells.length ≠ q % b.cells.length) :
    (b.modify p f).cell q = b.cell q := by
  simp [cell, modify, h]

section Reserve

variable {b} {b' : RingBuffer α}

/-- A reservation fails exactly when no cell is free. -/
theorem reserve_eq_none : b.reserve = none ↔ b.free = 0 := by
  unfold reserve free
  split <;> simp <;> omega

/-- What a reservation changes: the producer's counter. -/
theorem reserve_eq_some (h : b.reserve = some b') :
    b'.cells = b.cells ∧ b'.head = b.head ∧ b'.tail = b.tail + 1 ∧ 0 < b.free := by
  unfold reserve at h
  split at h
  · next hlt =>
    cases h
    exact ⟨rfl, rfl, rfl, by unfold free; omega⟩
  · cases h

/-- A reservation changes no cell. -/
theorem reserve_cell (h : b.reserve = some b') (p : ℕ) : b'.cell p = b.cell p := by
  obtain ⟨hc, -⟩ := reserve_eq_some h
  simp [cell, hc]

/-- A reservation takes one of the free cells. -/
theorem reserve_free (h : b.reserve = some b') : b'.free + 1 = b.free := by
  obtain ⟨hc, hh, ht, hf⟩ := reserve_eq_some h
  unfold free at *
  rw [hc, hh, ht]
  omega

/-- **Reservation law.** The reserved entry goes to the end of the window, with the contents that
its cell has kept. -/
theorem window_reserve (h : b.reserve = some b') :
    b'.window = b.window ++ [(b.tail, b.cell b.tail)] := by
  obtain ⟨-, hh, ht, -⟩ := reserve_eq_some h
  have hle := b.head_le
  unfold window
  rw [hh, ht, show b.tail + 1 - b.head = (b.tail - b.head) + 1 by omega, List.range'_concat,
    List.map_append, List.map_singleton, one_mul, Nat.add_sub_cancel' hle, reserve_cell h]
  congr 1
  exact List.map_congr_left fun p _ => by rw [reserve_cell h]

end Reserve

/-- **Modification law.** A modification at a position of the window changes that entry only. -/
theorem window_modify {p : ℕ} (f : α → α) (h₁ : b.head ≤ p) (h₂ : p < b.tail) :
    (b.modify p f).window = b.window.map fun e => if e.1 = p then (e.1, f e.2) else e := by
  have hroom := b.room
  unfold window
  rw [List.map_map]
  refine List.map_congr_left fun q hq => ?_
  simp only [modify_head, modify_tail, List.mem_range'_1] at hq
  by_cases hqp : q = p
  · subst hqp
    simp [cell_modify_self]
  · have hne : p % b.cells.length ≠ q % b.cells.length := by
      rcases Nat.lt_or_gt_of_ne hqp with hlt | hlt
      · exact (mod_ne hlt (by omega)).symm
      · exact mod_ne hlt (by omega)
    simp [hqp, cell_modify_ne b f hne]

/-- The positions of the window are distinct. -/
theorem nodup_window : (b.window.map Prod.fst).Nodup := by
  have h : b.window.map Prod.fst = List.range' b.head (b.tail - b.head) := by
    simp [window, Function.comp_def]
  rw [h]
  exact List.nodup_range'

/-- The modification law at an entry that is given with what is before and behind it. -/
theorem window_modify_at {w v : List (ℕ × α)} {p : ℕ} {a : α}
    (h : b.window = w ++ (p, a) :: v) (f : α → α) :
    (b.modify p f).window = w ++ (p, f a) :: v := by
  obtain ⟨h₁, h₂, -⟩ := b.mem_window.mp (show (p, a) ∈ b.window by simp [h])
  have hnd := b.nodup_window
  rw [h, List.map_append, List.map_cons, List.nodup_middle, List.nodup_cons] at hnd
  have hne : ∀ e ∈ w ++ v, (if e.1 = p then (e.1, f e.2) else e) = e := by
    intro e he
    refine if_neg fun hp => hnd.1 ?_
    rw [← List.map_append]
    exact List.mem_map.mpr ⟨e, he, hp⟩
  rw [window_modify b f h₁ h₂, h, List.map_append, List.map_cons, if_pos rfl,
    List.map_congr_left fun e he => hne e (List.mem_append_left _ he),
    List.map_congr_left fun e he => hne e (List.mem_append_right _ he), List.map_id', List.map_id']

/-- **Consumption law.** The consumed entries leave the front of the window. -/
theorem window_consume (k : ℕ) : (b.consume k).window = b.window.drop k := by
  have hle := b.head_le
  unfold window
  rw [← List.map_drop, List.drop_range', mul_one]
  rcases Nat.le_total (b.head + k) b.tail with hk | hk
  · rw [show (b.consume k).head = b.head + k from min_eq_left hk, consume_tail,
      show b.tail - (b.head + k) = b.tail - b.head - k by omega]
    rfl
  · rw [show (b.consume k).head = b.tail from min_eq_right hk, consume_tail,
      show b.tail - b.tail = 0 by omega, show b.tail - b.head - k = 0 by omega]
    rfl

end RingBuffer
