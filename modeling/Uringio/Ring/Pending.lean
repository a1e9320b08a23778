import Uringio.Ring.Ring

/-!
# What a submission does to the pending entries

The pending entries of a ring are its window: each position with its entry, oldest first. The
functions of the previous module are described by what they add to them. An entry is lost to the
program as soon as it is reserved: whatever leaves a function after that point leaves one entry
more behind.
-/

namespace Uringio

variable {ring ring' : Ring} {sqe : ℕ} {r : ℤ}

/-- No entry can be reserved exactly when the queue is full. -/
theorem getSqe_eq_none : getSqe ring = none ↔ ring.free = 0 := by
  rw [getSqe, Option.map_eq_none_iff, RingBuffer.reserve_eq_none]

/-- A reserved entry is the last of the pending ones. It holds what its cell held. -/
theorem getSqe_eq_some (h : getSqe ring = some (sqe, ring')) :
    sqe = ring.tail ∧ ring'.tail = ring.tail + 1 ∧ ring'.free + 1 = ring.free ∧
      ring'.window = ring.window ++ [(ring.tail, (ring.cell ring.tail).reserved)] := by
  simp only [getSqe, Option.map_eq_some_iff, Prod.mk.injEq] at h
  obtain ⟨b, hb, rfl, rfl⟩ := h
  refine ⟨rfl, (RingBuffer.reserve_eq_some hb).2.2.1, ?_, ?_⟩
  · rw [RingBuffer.modify_free]
    exact RingBuffer.reserve_free hb
  · exact b.window_modify_at (RingBuffer.window_reserve hb) _

/-- The timeout parameters ask for a timeout and do not do without. -/
def requiresTimeout (timeout_params : Option TimeoutParams) : Bool :=
  timeout_params.any (·.is_required)

/-- **What `timeout` does** to the entry at the end of the queue: it may mark it, and may add the
entry of the timeout, filled. It fails exactly when a required timeout finds the queue full. -/
theorem timeout_cases {w : List (ℕ × Sqe)} {e : Sqe} (hw : ring.window = w ++ [(sqe, e)])
    (timeout_params : Option TimeoutParams) :
    (requiresTimeout timeout_params = true ∧ ring.free = 0 ∧ ∃ ring' e',
      timeout ring sqe timeout_params = (-1, ring') ∧ ring'.window = w ++ [(sqe, e')]) ∨
    (¬ (requiresTimeout timeout_params = true ∧ ring.free = 0) ∧ ∃ ring' e' link,
      timeout ring sqe timeout_params = (0, ring') ∧ ring'.window = w ++ (sqe, e') :: link ∧
      (link = [] ∨ ∃ t, link = [(ring.tail, t)] ∧ t.prepared = true) ∧
      (e' = e ∨ e' = e.setFlag IOSQE_IO_LINK)) := by
  cases timeout_params with
  | none => exact .inr ⟨by simp [requiresTimeout], ring, e, [], rfl, hw, .inl rfl, .inl rfl⟩
  | some tp =>
    simp only [timeout, requiresTimeout, Option.any_some]
    split
    · next hzero =>
      exact .inr ⟨fun h => hzero.2.2 h.1, ring, e, [], rfl, hw, .inl rfl, .inl rfl⟩
    · have hmark := ring.window_modify_at hw (Sqe.setFlag IOSQE_IO_LINK)
      cases hget : getSqe (ring.modify sqe (Sqe.setFlag IOSQE_IO_LINK)) with
      | none =>
        have hfree : ring.free = 0 := by
          rw [← ring.modify_free]
          exact getSqe_eq_none.mp hget
        by_cases hreq : tp.is_required = true
        · exact .inl ⟨hreq, hfree, _, _, by simp [hreq], hmark⟩
        · exact .inr ⟨fun h => hreq h.1, _, _, [], by simp [hreq], hmark, .inl rfl, .inr rfl⟩
      | some p =>
        obtain ⟨timeout_sqe, ring₂⟩ := p
        obtain ⟨rfl, -, hfree, hwin⟩ := getSqe_eq_some hget
        rw [RingBuffer.modify_free] at hfree
        rw [hmark] at hwin
        have hlink := ring₂.window_modify_at hwin
          (.prepare (.link_timeout ⟨⟨tp.sec, tp.nsec⟩⟩ 0))
        rw [List.append_assoc, List.singleton_append] at hlink
        exact .inr ⟨fun h => by omega, _, _, _, rfl, hlink, .inr ⟨_, rfl, rfl⟩, .inr rfl⟩

/-- **What the macro does.** It leaves the queue alone exactly when the queue is full; with one
free cell and a required timeout it returns and leaves a reserved entry; else the reserved entry is
at the end of the queue, perhaps with its timeout behind it. -/
theorem sqeWithOptionalTimeout_cases (ring : Ring) (timeout_params : Option TimeoutParams) :
    (ring.free = 0 ∧ sqeWithOptionalTimeout ring timeout_params = .error ring) ∨
    (ring.free = 1 ∧ requiresTimeout timeout_params = true ∧ ∃ ring' e,
      sqeWithOptionalTimeout ring timeout_params = .error ring' ∧
      ring'.window = ring.window ++ [(ring.tail, e)]) ∨
    (0 < ring.free ∧ ¬ (ring.free = 1 ∧ requiresTimeout timeout_params = true) ∧
      ∃ ring' e link, sqeWithOptionalTimeout ring timeout_params = .ok (ring.tail, ring') ∧
      ring'.window = ring.window ++ (ring.tail, e) :: link ∧
      (link = [] ∨ ∃ t, link = [(ring.tail + 1, t)] ∧ t.prepared = true) ∧
      (e.flags = 0 ∨ e.flags = IOSQE_IO_LINK) ∧ e.ioprio = 0 ∧ e.buf_index = 0) := by
  unfold sqeWithOptionalTimeout createSqe
  cases hget : getSqe ring with
  | none => exact .inl ⟨getSqe_eq_none.mp hget, rfl⟩
  | some p =>
    obtain ⟨sqe, ring₁⟩ := p
    obtain ⟨rfl, htail, hfree, hwin⟩ := getSqe_eq_some hget
    rcases timeout_cases hwin timeout_params with
      ⟨hreq, hfull, ring₂, e, ht, hw⟩ | ⟨hno, ring₂, e, link, ht, hw, hlink, he⟩
    · exact .inr (.inl ⟨by omega, hreq, ring₂, e, by simp [ht], hw⟩)
    · rw [htail] at hlink
      refine .inr (.inr ⟨by omega, fun h => hno ⟨h.2, by omega⟩, ring₂, e, link, ?_, hw, hlink, ?_⟩)
      · simp [ht]
      · rcases he with rfl | rfl
        · exact ⟨.inl rfl, rfl, rfl⟩
        · exact ⟨.inr (Nat.zero_or _), rfl, rfl⟩

/-- **What the end of a function does**: it fills its entry; a failed submission keeps all entries
in the queue, any other takes some from its front. -/
theorem fillAndSubmit_spec {w link : List (ℕ × Sqe)} {e : Sqe}
    (hw : ring.window = w ++ (sqe, e) :: link) (fill : Sqe → Sqe) (failure r : ℤ) :
    let s := fillAndSubmit ring sqe fill failure r
    s.result = (if r < 0 then failure else 1) ∧
      s.consumed ++ s.ring.window = w ++ (sqe, fill e) :: link ∧ (r < 0 → s.consumed = []) := by
  have hfill := ring.window_modify_at hw fill
  unfold fillAndSubmit submit
  by_cases hr : r < 0
  · simp only [hr, if_true, List.nil_append]
    exact ⟨trivial, hfill, fun _ => trivial⟩
  · simp only [hr, if_false, RingBuffer.window_consume, List.take_append_drop]
    exact ⟨trivial, hfill, fun h => h.elim⟩

end Uringio
