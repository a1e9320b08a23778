import Uringio.Ring.Pending

/-!
# What a submission hands to the kernel

Whatever a function of the ops layer returns, the entries that the kernel consumed and those still
pending are the ones pending before, followed by the entries that it added, at consecutive
positions. When it returns `1`, the first of these is the entry of its operation.
-/

namespace Uringio

/-- From the queue `before`, the entries `added` were added at consecutive positions, and the oldest
entries were consumed. -/
structure Adds (before : Ring) (consumed : List (ℕ × Sqe)) (after : Ring)
    (added : List (ℕ × Sqe)) : Prop where
  /-- What was added is behind what was there. -/
  window : consumed ++ after.window = before.window ++ added
  /-- It is at the next positions. -/
  positions : added.map Prod.fst = List.range' before.tail added.length
  /-- The tail is behind it. -/
  tail : after.tail = before.tail + added.length

/-- The submission started from `ring`; if it succeeded, the entry of its operation was added
first, and `P` holds of it. -/
def Submission.Submits (ring : Ring) (P : Sqe → Prop) (s : Submission) : Prop :=
  ∃ added, Adds ring s.consumed s.ring added ∧
    (1 ≤ s.result → ∃ e link, added = (ring.tail, e) :: link ∧ P e)

variable {ring ring' : Ring} {P Q : Sqe → Prop} {s : Submission}

/-- What is said of the entries implies what follows from it. -/
theorem Submission.Submits.mono (h : s.Submits ring P) (hPQ : ∀ e, P e → Q e) :
    s.Submits ring Q := by
  obtain ⟨added, hadds, hmain⟩ := h
  refine ⟨added, hadds, fun hres => ?_⟩
  obtain ⟨e, link, hadded, he⟩ := hmain hres
  exact ⟨e, link, hadded, hPQ e he⟩

/-- Nothing was added. -/
theorem adds_nothing (ring : Ring) : Adds ring [] ring [] := ⟨by simp, rfl, rfl⟩

/-- One after the other. -/
theorem Adds.trans {a b c : Ring} {consumed consumed' added added' : List (ℕ × Sqe)}
    (h : Adds a consumed b added) (h' : Adds b consumed' c added') :
    Adds a (consumed ++ consumed') c (added ++ added') where
  window := by
    rw [List.append_assoc, h'.window, ← List.append_assoc, h.window, List.append_assoc]
  positions := by
    rw [List.map_append, h.positions, h'.positions, h.tail, List.length_append,
      List.range'_append_1]
  tail := by rw [h'.tail, h.tail, List.length_append, Nat.add_assoc]

/-- One entry is reserved, filled and left pending. -/
theorem adds_of_getSqe {sqe : ℕ} (h : getSqe ring = some (sqe, ring')) (f : Sqe → Sqe) :
    Adds ring [] (ring'.modify sqe f) [(ring.tail, f (ring.cell ring.tail).reserved)] := by
  obtain ⟨rfl, htail, -, hwin⟩ := getSqe_eq_some h
  exact ⟨ring'.window_modify_at hwin f, rfl, htail⟩

/-- The queue is submitted. -/
theorem adds_submit (ring : Ring) (r : ℤ) : Adds ring (submit ring r).1 (submit ring r).2 [] := by
  unfold submit
  split
  · exact adds_nothing ring
  · exact ⟨by rw [RingBuffer.window_consume, List.take_append_drop, List.append_nil], rfl, rfl⟩

/-- The last entry of a window is at the position before its tail. -/
theorem tail_of_window {w : List (ℕ × Sqe)} {p : ℕ} {e : Sqe}
    (h : ring.window = w ++ [(p, e)]) : ring.tail = p + 1 := by
  have hpos : ring.window.map Prod.fst = List.range' ring.head (ring.tail - ring.head) := by
    simp [RingBuffer.window, Function.comp_def]
  have hlen := ring.length_window
  rw [h] at hpos hlen
  simp only [List.length_append, List.length_singleton] at hlen
  rw [show ring.tail - ring.head = (ring.tail - ring.head - 1) + 1 by omega, List.range'_concat,
    List.map_append, List.map_singleton] at hpos
  have := (List.append_inj' hpos rfl).2
  simp only [List.cons.injEq, and_true] at this
  omega

/-- The tail behind an added entry and its timeout. -/
theorem tail_of_added {e : Sqe} {link : List (ℕ × Sqe)}
    (hw : ring'.window = ring.window ++ (ring.tail, e) :: link)
    (hlink : link = [] ∨ ∃ t, link = [(ring.tail + 1, t)]) :
    ring'.tail = ring.tail + ((ring.tail, e) :: link).length := by
  rcases hlink with rfl | ⟨t, rfl⟩
  · exact tail_of_window hw
  · have hw' : ring'.window = (ring.window ++ [(ring.tail, e)]) ++ [(ring.tail + 1, t)] := by
      simp [hw]
    exact tail_of_window hw'

/-- A submission leaves the tail. -/
@[simp] theorem submit_tail (ring : Ring) (r : ℤ) : (submit ring r).2.tail = ring.tail := by
  unfold submit
  split <;> rfl

/-- A return that added nothing. -/
theorem Submission.submits_unchanged (ring : Ring) (result : ℤ) (hres : result < 1) :
    (abandoned result ring).Submits ring P :=
  ⟨[], adds_nothing ring, fun h => absurd h (not_le.mpr hres)⟩

/-- A return that left a reserved entry behind. -/
theorem Submission.submits_abandoned {e : Sqe} {link : List (ℕ × Sqe)} {result : ℤ}
    (hres : result < 1) (hw : ring'.window = ring.window ++ (ring.tail, e) :: link)
    (hlink : link = [] ∨ ∃ t, link = [(ring.tail + 1, t)]) :
    (abandoned result ring').Submits ring P := by
  refine ⟨(ring.tail, e) :: link, ⟨by simp [abandoned, hw], ?_, tail_of_added hw hlink⟩,
    fun h => absurd h (not_le.mpr hres)⟩
  rcases hlink with rfl | ⟨t, rfl⟩ <;> rfl

/-- The end of a function. -/
theorem fillAndSubmit_submits {e : Sqe} {link : List (ℕ × Sqe)}
    (hw : ring'.window = ring.window ++ (ring.tail, e) :: link)
    (hlink : link = [] ∨ ∃ t, link = [(ring.tail + 1, t)]) (fill : Sqe → Sqe) (failure r : ℤ)
    (hP : P (fill e)) : (fillAndSubmit ring' ring.tail fill failure r).Submits ring P := by
  obtain ⟨-, hwin, -⟩ := fillAndSubmit_spec hw fill failure r
  refine ⟨_, ⟨hwin, ?_, ?_⟩, fun _ => ⟨_, _, rfl, hP⟩⟩
  · rcases hlink with rfl | ⟨t, rfl⟩ <;> rfl
  · exact (submit_tail _ r).trans (tail_of_added (ring'.window_modify_at hw fill) hlink)

/-- The flags that an entry has when it is filled. -/
def Linkable (e : Sqe) : Prop := e.flags = 0 ∨ e.flags = IOSQE_IO_LINK

/-- The common shape. -/
theorem submitOp_submits (ring : Ring) (timeout_params : Option TimeoutParams)
    (fill : Sqe → Sqe) (failure r : ℤ) (hP : ∀ e, Linkable e → P (fill e)) :
    (submitOp ring timeout_params fill failure r).Submits ring P := by
  unfold submitOp
  rcases sqeWithOptionalTimeout_cases ring timeout_params with
    ⟨-, hreserved⟩ | ⟨-, -, ring', e, hreserved, hw⟩ |
      ⟨-, -, ring', e, link, hreserved, hw, hlink, hflags, -⟩
  · rw [hreserved]
    exact Submission.submits_unchanged _ _ (by decide)
  · rw [hreserved]
    exact Submission.submits_abandoned (by decide) hw (.inl rfl)
  · rw [hreserved]
    have hlink' : link = [] ∨ ∃ t, link = [(ring.tail + 1, t)] :=
      hlink.imp id fun ⟨t, ht, _⟩ => ⟨t, ht⟩
    exact fillAndSubmit_submits hw hlink' fill failure r (hP e hflags)

/-- The operation `call` under the tag of `request_idx`, with the flags of `select` or none. -/
structure Tagged (request_idx : ℤ) (call : PrepCall) (select : Bool) (e : Sqe) : Prop where
  /-- The entry is filled with the helper call. -/
  prep : e.prep = some call
  /-- The tag is the index of the request. -/
  user_data : e.user_data = CInt.toU64 request_idx
  /-- Without a selection the flags are none, or that of a link. -/
  selects : select = false → e.flags = 0 ∨ e.flags = IOSQE_IO_LINK

/-- A tagged operation whose entry gets no further flags. -/
theorem submitRequest_submits (ring : Ring) (request_idx : ℤ) (call : PrepCall)
    (set : Sqe → Sqe) (select : Bool) (timeout_params : TimeoutParams) (r : ℤ)
    (hset : ∀ e, (set e).prep = e.prep ∧ (select = false → (set e).flags = e.flags)) :
    (submitRequest ring request_idx call set timeout_params r).Submits ring
      (Tagged request_idx call select) := by
  refine submitOp_submits ring _ _ _ _ fun e he => ⟨(hset _).1, rfl, fun hs => ?_⟩
  have hflags : (set (e.prepare call)).flags = e.flags := (hset _).2 hs
  change (set (e.prepare call)).flags = 0 ∨ (set (e.prepare call)).flags = IOSQE_IO_LINK
  rw [hflags]
  exact he

end Uringio
