import Mathlib.Data.List.Basic
import Mathlib.Logic.Function.Basic

/-!
# Cells that are created and destroyed

A store of cells, named by numbers in the order in which they are created. A destroyed cell keeps
its name: it is never given to another cell. `Keeps` says that a store still has the cells of
another as they were, whatever cells were created since.
-/

/-- Cells by their names; `next` is the name of the next new cell. -/
structure Cells (α : Type*) where
  /-- The object with the name, if it exists. -/
  get : ℕ → Option α
  /-- The name of the next one. -/
  next : ℕ
  /-- No object has a name from there on. -/
  fresh : ∀ n, next ≤ n → get n = none

namespace Cells

variable {α : Type*}

/-- A store without cells. -/
def empty : Cells α := ⟨fun _ => none, 0, fun _ _ => rfl⟩

/-- Create a cell, with the name `next`. -/
def new (c : Cells α) (a : α) : Cells α where
  get := Function.update c.get c.next (some a)
  next := c.next + 1
  fresh n hn := by
    have hne : n ≠ c.next := by omega
    rw [Function.update_of_ne hne]
    exact c.fresh n (by omega)

/-- Change a cell. -/
def modify (c : Cells α) (n : ℕ) (f : α → α) : Cells α where
  get := Function.update c.get n ((c.get n).map f)
  next := c.next
  fresh m hm := by
    rcases eq_or_ne m n with rfl | hne
    · rw [Function.update_self, c.fresh m hm]
      rfl
    · rw [Function.update_of_ne hne]
      exact c.fresh m hm

/-- Destroy a cell. -/
def destroy (c : Cells α) (n : ℕ) : Cells α where
  get := Function.update c.get n none
  next := c.next
  fresh m hm := by
    rcases eq_or_ne m n with rfl | hne
    · exact Function.update_self ..
    · rw [Function.update_of_ne hne]
      exact c.fresh m hm

variable {c d e : Cells α} {n m : ℕ} {a b : α} {f : α → α}

/-- The new cell has the value that it was made with. -/
@[simp] theorem get_new_self : (c.new a).get c.next = some a := Function.update_self ..

/-- The next cell is not there yet. -/
@[simp] theorem get_next : c.get c.next = none := c.fresh _ (Nat.le_refl _)

/-- A changed cell has the changed value. -/
@[simp] theorem get_modify_self : (c.modify n f).get n = (c.get n).map f :=
  Function.update_self ..

/-- A destroyed cell is gone. -/
@[simp] theorem get_destroy_self : (c.destroy n).get n = none := Function.update_self ..

/-- A change leaves the other cells. -/
theorem get_modify_of_ne (h : m ≠ n) : (c.modify n f).get m = c.get m := Function.update_of_ne h ..

/-- A destruction leaves the other cells. -/
theorem get_destroy_of_ne (h : m ≠ n) : (c.destroy n).get m = c.get m :=
  Function.update_of_ne h ..

/-- A cell of a store is not the next new one. -/
theorem ne_next (h : c.get n = some a) : n ≠ c.next := by
  rintro rfl
  rw [get_next] at h
  cases h

/-- A new cell leaves the other cells. -/
theorem get_new_of_ne (h : m ≠ c.next) : (c.new a).get m = c.get m := Function.update_of_ne h ..

/-- A new cell changes no other. -/
theorem get_new (h : c.get n = some b) : (c.new a).get n = some b := by
  rw [get_new_of_ne (ne_next h), h]

end Cells
