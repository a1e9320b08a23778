import Uringio.Lib.Cells
import Uringio.Loop.Call

/-!
# The context variable

`contextvar.c` and what it rests on. A capsule owns a block with an `ExecutionContext` and counts
its references; the destructor `free_exec_context` frees the block with the last of them. Of
`contextvars` this module has what its documentation says: `set` returns a token that holds the old
value, and `reset` restores it, once.

Entering a manager is `push`, leaving it is `pop`: the first makes the variable hold a new capsule
and lets the token hold the old one, the second destroys the new capsule and its block and gives
the variable the old capsule back, with as many references as it had.
-/

namespace Uringio

/-- A block that holds an `ExecutionContext`, with the field that no getter returns. -/
structure ContextBlock extends ExecutionContext where
  /-- The mode of the buffers. -/
  buffer_mode : BufferMode
  deriving DecidableEq

/-- The fields that `ContextVar_init` sets. -/
def ContextBlock.initial : ContextBlock where
  stream := .ONESHOT
  transfer_mode := .NORMAL_TRANSFER
  buffer_payload := none
  buffer_mode := .NORMAL_BUF

/-- A capsule: the name of its block, and the references to it. -/
structure Capsule where
  /-- The block that the capsule points to. -/
  pointer : ℕ
  /-- The references to the capsule. -/
  refs : ℕ

/-- A token, which holds a reference to the capsule `old_value`. -/
structure Token where
  /-- The capsule that was the value before. -/
  old_value : ℕ
  /-- The token cannot reset the variable here. -/
  used : Bool

/-- `execution_context_var`, which holds a reference to the capsule `value`; all capsules and all
blocks that are not freed. -/
structure ContextVar where
  /-- The capsule that the variable holds. -/
  value : ℕ
  /-- The capsules. -/
  capsules : Cells Capsule
  /-- The blocks. -/
  blocks : Cells ContextBlock

namespace ContextVar

/-- `ContextVar_get`: the block of the variable's capsule; `none` where it was freed. -/
def get (v : ContextVar) : Option ContextBlock :=
  (v.capsules.get v.value).bind fun c => v.blocks.get c.pointer

/-- `clone_execution_context` and the fields that its caller changes: a new block. -/
def malloc (v : ContextVar) (context : ContextBlock) : ContextVar :=
  { v with blocks := v.blocks.new context }

/-- `PyCapsule_New`. -/
def newCapsule (v : ContextVar) (pointer : ℕ) : ContextVar :=
  { v with capsules := v.capsules.new ⟨pointer, 1⟩ }

/-- `Py_INCREF`; `none` for a capsule that was destroyed. -/
def incref (v : ContextVar) (capsule : ℕ) : Option ContextVar :=
  (v.capsules.get capsule).map fun _ =>
    { v with capsules := v.capsules.modify capsule fun c => { c with refs := c.refs + 1 } }

/-- `Py_DECREF`, with the destructor `free_exec_context`; `none` for a capsule that was destroyed
and a block that was freed. -/
def decref (v : ContextVar) (capsule : ℕ) : Option ContextVar :=
  (v.capsules.get capsule).bind fun c =>
    if c.refs ≤ 1 then
      (v.blocks.get c.pointer).map fun _ =>
        { v with capsules := v.capsules.destroy capsule, blocks := v.blocks.destroy c.pointer }
    else some { v with capsules :=
      v.capsules.modify capsule fun c => { c with refs := c.refs - 1 } }

/-- `ContextVar_set`. The reference of the variable to its old value becomes that of the token. -/
def set (v : ContextVar) (capsule : ℕ) : Option (Token × ContextVar) :=
  (v.incref capsule).map fun w => (⟨v.value, false⟩, { w with value := capsule })

/-- `ContextVar_reset`: its result, the token, and what is left. A null pointer and a token that
was used raise exceptions. -/
def reset (v : ContextVar) : Option Token → Option (ℤ × Option Token × ContextVar)
  | none => some (-1, none, v)
  | some ⟨old_value, true⟩ => some (-1, some ⟨old_value, true⟩, v)
  | some ⟨old_value, false⟩ => do
    let w ← v.incref old_value
    let w ← w.decref v.value
    some (0, some ⟨old_value, true⟩, { w with value := old_value })

/-- `Py_CLEAR` of the only reference to a token. -/
def clear (v : ContextVar) : Option Token → Option ContextVar
  | none => some v
  | some token => v.decref token.old_value

/-- A new capsule for the block becomes the value of the variable: `PyCapsule_New`,
`ContextVar_set` and `Py_DECREF`. -/
def push (v : ContextVar) (pointer : ℕ) : Option (Token × ContextVar) := do
  let (token, w) ← (v.newCapsule pointer).set v.capsules.next
  let w ← w.decref v.capsules.next
  some (token, w)

/-- A new capsule for the block that `ContextVar_set` does not take: `Py_DECREF` destroys it, and
its destructor frees the block. -/
def discard (v : ContextVar) (pointer : ℕ) : Option ContextVar :=
  (v.newCapsule pointer).decref v.capsules.next

/-- `free` of a block; `none` for one that was freed. -/
def free (v : ContextVar) (pointer : ℕ) : Option ContextVar :=
  (v.blocks.get pointer).map fun _ => { v with blocks := v.blocks.destroy pointer }

/-- `ContextVar_reset` and the end of the token. -/
def pop (v : ContextVar) (token : Option Token) : Option (ℤ × ContextVar) := do
  let (result, token, w) ← v.reset token
  let w ← w.clear token
  some (result, w)

/-- Every capsule has a block of its own, which is not freed, and is referred to. -/
structure Sound (v : ContextVar) : Prop where
  /-- No two capsules point to one block. -/
  injective : ∀ {n m a b}, v.capsules.get n = some a → v.capsules.get m = some b →
    a.pointer = b.pointer → n = m
  /-- The block of a capsule was not freed. -/
  live : ∀ {n a}, v.capsules.get n = some a → (v.blocks.get a.pointer).isSome
  /-- A capsule has at least one reference. -/
  counted : ∀ {n a}, v.capsules.get n = some a → 1 ≤ a.refs

/-- The capsules of `v` and their blocks are as they were. -/
def Keeps (v w : ContextVar) : Prop :=
  ∀ n a, v.capsules.get n = some a →
    w.capsules.get n = some a ∧ w.blocks.get a.pointer = v.blocks.get a.pointer

variable {u v w : ContextVar} {pointer old : ℕ} {a : Capsule} {context : ContextBlock}

/-- A variable keeps its own capsules and blocks. -/
theorem Keeps.refl (v : ContextVar) : Keeps v v := fun _ _ h => ⟨h, rfl⟩

/-- What is kept in two steps is kept. -/
theorem Keeps.trans (h₁ : Keeps u v) (h₂ : Keeps v w) : Keeps u w := fun n a h => by
  obtain ⟨hv, hblock⟩ := h₁ n a h
  obtain ⟨hw, hblock'⟩ := h₂ n a hv
  exact ⟨hw, hblock'.trans hblock⟩

/-- What the variable holds is what it held, if it holds the same capsule. -/
theorem Keeps.get_eq (h : Keeps v w) (hvalue : w.value = v.value) (hv : v.get = some context) :
    w.get = some context := by
  obtain ⟨a, ha, hblock⟩ := Option.bind_eq_some_iff.mp hv
  obtain ⟨ha', hblock'⟩ := h _ _ ha
  rw [get, hvalue, ha', Option.bind_some, hblock', hblock]

/-! ## A new block -/

/-- An allocation keeps the capsules and the blocks. -/
theorem keeps_malloc (hv : v.Sound) (context : ContextBlock) : Keeps v (v.malloc context) := by
  intro n a ha
  obtain ⟨b, hb⟩ := Option.isSome_iff_exists.mp (hv.live ha)
  exact ⟨ha, by rw [hb]; exact Cells.get_new hb⟩

/-- An allocation keeps the variable sound. -/
theorem Sound.malloc (hv : v.Sound) (context : ContextBlock) : (v.malloc context).Sound where
  injective := hv.injective
  live ha := by
    obtain ⟨b, hb⟩ := Option.isSome_iff_exists.mp (hv.live ha)
    rw [show (v.malloc context).blocks.get _ = some b from Cells.get_new hb]
    rfl
  counted := hv.counted

/-- No capsule points to a block that does not exist yet. -/
theorem Sound.ne_next (hv : v.Sound) {n : ℕ} (ha : v.capsules.get n = some a) :
    a.pointer ≠ v.blocks.next := by
  obtain ⟨b, hb⟩ := Option.isSome_iff_exists.mp (hv.live ha)
  exact Cells.ne_next hb

/-! ## Push -/

/-- The variable got a new capsule with the block `pointer`. -/
structure Pushed (v w : ContextVar) (pointer : ℕ) : Prop where
  /-- The variable holds the new capsule. -/
  value : w.value = v.capsules.next
  /-- The new capsule has the block, and one reference. -/
  self : w.capsules.get v.capsules.next = some ⟨pointer, 1⟩
  /-- The other capsules are as before. -/
  others : ∀ n, n ≠ v.capsules.next → w.capsules.get n = v.capsules.get n
  /-- The blocks are as they were. -/
  blocks : w.blocks = v.blocks

/-- **What `push` does.** -/
theorem push_spec (v : ContextVar) (pointer : ℕ) :
    ∃ w, v.push pointer = some (⟨v.value, false⟩, w) ∧ Pushed v w pointer := by
  refine ⟨{ value := v.capsules.next, capsules := ((v.capsules.new ⟨pointer, 1⟩).modify
      v.capsules.next fun c => { c with refs := c.refs + 1 }).modify v.capsules.next fun c =>
      { c with refs := c.refs - 1 }, blocks := v.blocks }, ?_, rfl, ?_, fun n hn => ?_, rfl⟩
  · simp [push, newCapsule, set, incref, decref]
  · simp
  · rw [Cells.get_modify_of_ne hn, Cells.get_modify_of_ne hn, Cells.get_new_of_ne hn]

/-- A push keeps the capsules and the blocks. -/
theorem Pushed.keeps (h : Pushed v w pointer) : Keeps v w := fun n _ ha =>
  ⟨by rw [h.others n (Cells.ne_next ha), ha], by rw [h.blocks]⟩

/-- A capsule after the push is the new one, or one of before. -/
theorem Pushed.cases (h : Pushed v w pointer) {n : ℕ} (ha : w.capsules.get n = some a) :
    (n = v.capsules.next ∧ a = ⟨pointer, 1⟩) ∨ v.capsules.get n = some a := by
  by_cases hn : n = v.capsules.next
  · subst hn
    rw [h.self] at ha
    exact .inl ⟨rfl, (Option.some.inj ha).symm⟩
  · rw [h.others n hn] at ha
    exact .inr ha

/-- A push of a block that has no capsule keeps the variable sound. -/
theorem Pushed.sound (h : Pushed v w pointer) (hv : v.Sound)
    (hblock : (v.blocks.get pointer).isSome)
    (hnew : ∀ n a, v.capsules.get n = some a → a.pointer ≠ pointer) : w.Sound where
  injective {n m a b} ha hb hab := by
    rcases h.cases ha with ⟨rfl, rfl⟩ | ha' <;> rcases h.cases hb with ⟨rfl, rfl⟩ | hb'
    · rfl
    · exact absurd hab.symm (hnew _ _ hb')
    · exact absurd hab (hnew _ _ ha')
    · exact hv.injective ha' hb' hab
  live {n a} ha := by
    rw [h.blocks]
    rcases h.cases ha with ⟨-, rfl⟩ | ha'
    · exact hblock
    · exact hv.live ha'
  counted {n a} ha := by
    rcases h.cases ha with ⟨-, rfl⟩ | ha'
    · exact Nat.le_refl 1
    · exact hv.counted ha'

/-- **What `discard` does**: no capsule is left, and the block is freed. -/
theorem discard_spec (hblock : (v.blocks.get pointer).isSome) :
    ∃ w, v.discard pointer = some w ∧ w.value = v.value ∧
      (∀ n, w.capsules.get n = v.capsules.get n) ∧ w.blocks = v.blocks.destroy pointer := by
  obtain ⟨context, hcontext⟩ := Option.isSome_iff_exists.mp hblock
  refine ⟨{ v with
    capsules := (v.capsules.new ⟨pointer, 1⟩).destroy v.capsules.next
    blocks := v.blocks.destroy pointer }, ?_, rfl, fun n => ?_, rfl⟩
  · simp [discard, newCapsule, decref, hcontext]
  · by_cases hn : n = v.capsules.next
    · rw [hn, Cells.get_destroy_self, Cells.get_next]
    · rw [Cells.get_destroy_of_ne hn, Cells.get_new_of_ne hn]

/-! ## Pop -/

/-- The variable got the capsule `old` back, and its own capsule and the block of this were
destroyed. -/
structure Popped (v w : ContextVar) (pointer old : ℕ) : Prop where
  /-- The variable holds the old capsule again. -/
  value : w.value = old
  /-- The capsule that it held is gone. -/
  self : w.capsules.get v.value = none
  /-- The other capsules are as before. -/
  others : ∀ n, n ≠ v.value → w.capsules.get n = v.capsules.get n
  /-- The block of the capsule is gone. -/
  blocks : w.blocks = v.blocks.destroy pointer

/-- **What `pop` does** with a token that was not used, when nothing else refers to the value of
the variable. -/
theorem pop_spec (hvalue : v.capsules.get v.value = some ⟨pointer, 1⟩)
    (hblock : (v.blocks.get pointer).isSome) (hold : v.capsules.get old = some a)
    (hne : old ≠ v.value) (hrefs : 1 ≤ a.refs) :
    ∃ w, v.pop (some ⟨old, false⟩) = some (0, w) ∧ Popped v w pointer old := by
  obtain ⟨b, hb⟩ := Option.isSome_iff_exists.mp hblock
  have hvalue' : (v.capsules.modify old fun c => { c with refs := c.refs + 1 }).get v.value =
      some ⟨pointer, 1⟩ := by
    rw [Cells.get_modify_of_ne hne.symm, hvalue]
  refine ⟨{ value := old, capsules := ((v.capsules.modify old fun c =>
      { c with refs := c.refs + 1 }).destroy v.value).modify old fun c =>
      { c with refs := c.refs - 1 }, blocks := v.blocks.destroy pointer }, ?_, rfl, ?_, ?_, rfl⟩
  · have hdestroyed : ((v.capsules.modify old fun c => { c with refs := c.refs + 1 }).destroy
        v.value).get old = some { a with refs := a.refs + 1 } := by
      rw [Cells.get_destroy_of_ne hne, Cells.get_modify_self, hold]
      rfl
    have hcount : ¬ a.refs + 1 ≤ 1 := by omega
    simp [pop, reset, incref, decref, clear, hold, hvalue', hb, hdestroyed, hcount]
  · rw [Cells.get_modify_of_ne hne.symm, Cells.get_destroy_self]
  · intro n hn
    by_cases hnold : n = old
    · subst hnold
      rw [Cells.get_modify_self, Cells.get_destroy_of_ne hn, Cells.get_modify_self, hold]
      rfl
    · rw [Cells.get_modify_of_ne hnold, Cells.get_destroy_of_ne hn, Cells.get_modify_of_ne hnold]

/-- A capsule after the pop was there before. -/
theorem Popped.of_get (h : Popped v w pointer old) {n : ℕ} (ha : w.capsules.get n = some a) :
    n ≠ v.value ∧ v.capsules.get n = some a := by
  have hn : n ≠ v.value := by
    rintro rfl
    rw [h.self] at ha
    cases ha
  exact ⟨hn, (h.others n hn).symm.trans ha⟩

/-- A pop of the variable's own value keeps it sound. -/
theorem Popped.sound (h : Popped v w pointer old) (hv : v.Sound)
    (hvalue : v.capsules.get v.value = some ⟨pointer, 1⟩) : w.Sound where
  injective ha hb hab := hv.injective (h.of_get ha).2 (h.of_get hb).2 hab
  live {n a} ha := by
    obtain ⟨hn, ha'⟩ := h.of_get ha
    have hpointer : a.pointer ≠ pointer := fun hp => hn (hv.injective ha' hvalue hp)
    rw [h.blocks, Cells.get_destroy_of_ne hpointer]
    exact hv.live ha'
  counted ha := hv.counted (h.of_get ha).2

/-- What was kept until the pop, and is not the capsule that it destroys, is kept by it. -/
theorem Popped.keeps (h : Popped v w pointer old) (hv : v.Sound)
    (hvalue : v.capsules.get v.value = some ⟨pointer, 1⟩) (hkeeps : Keeps u v)
    (hnew : u.capsules.get v.value = none) : Keeps u w := by
  intro n a ha
  have hn : n ≠ v.value := by
    rintro rfl
    rw [hnew] at ha
    cases ha
  obtain ⟨ha', hblock⟩ := hkeeps n a ha
  have hpointer : a.pointer ≠ pointer := fun hp => hn (hv.injective ha' hvalue hp)
  exact ⟨by rw [h.others n hn, ha'], by rw [h.blocks, Cells.get_destroy_of_ne hpointer, hblock]⟩

end ContextVar

end Uringio
