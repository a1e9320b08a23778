import Mathlib.Algebra.Order.Floor.Ring
import Mathlib.Data.Rat.Floor
import Mathlib.Tactic.Linarith
import Mathlib.Tactic.NormNum
import Uringio.Lib.Heap
import Uringio.Ring.Sqe

/-!
# How long an iteration waits

`compute_timeout`, in exact arithmetic: the delay until the earliest timer, clamped to a day, split
into seconds and nanoseconds. The nanoseconds are computed from the difference of the delay with
itself, so they are always zero, and the wait ends up to a second early (`computeTimeout_early`).
The split is right exactly when the clamped delay is a whole number of seconds, up to a part of a
nanosecond (`computeTimeout_exact_iff`); it never oversleeps the timer (`computeTimeout_le`).
-/

namespace Uringio

/-- A handle, by the order in which the handles are made. -/
abbrev HandleRef := ℕ

/-- `asyncio.TimerHandle`: the handle and the time that it is due. -/
structure TimerHandle where
  /-- The handle. -/
  ref : HandleRef
  /-- When it is due. -/
  _when : ℚ
  deriving DecidableEq

/-- `_scheduled`. -/
abbrev TimerHeap := Heap TimerHandle._when

/-- `(long)x` of a floating-point number. -/
def CInt.ofFloat (x : ℚ) : ℤ := if 0 ≤ x then ⌊x⌋ else ⌈x⌉

/-- The clamped delay of `compute_timeout`, for the earliest timer and the loop's time. -/
def clampedDelay (_when loop_time : ℚ) : ℚ :=
  let delay := _when - loop_time
  let delay := if delay < 0 then 0 else delay
  if delay > 86400 then 86400 else delay

/-- `compute_timeout`, on the handles in `_ready`, on `_scheduled` and on `_stopping`. -/
def computeTimeout (ready : List HandleRef) (scheduled : TimerHeap) (stopping : Bool)
    (loop_time : ℚ) : Timespec :=
  if ready ≠ [] ∨ stopping then ⟨0, 0⟩
  else
    match scheduled.entries.head? with
    | some first =>
      let delay := clampedDelay first._when loop_time
      ⟨CInt.ofFloat delay, CInt.ofFloat ((delay - delay) * 10^9)⟩
    | none => ⟨86400, 0⟩

variable {ready : List HandleRef} {scheduled : TimerHeap} {stopping : Bool} {t w : ℚ}

/-- The timers' times, of which the earliest counts. -/
def TimerHeap.times (scheduled : TimerHeap) : Set ℚ := {w | ∃ h ∈ scheduled.entries, h._when = w}

/-- The time to wait for, when nothing is ready. -/
def timeToNext (w t : ℚ) : ℚ := min (max (w - t) 0) 86400

/-- What `compute_timeout` should return. -/
structure ExactWait (ready : List HandleRef) (scheduled : TimerHeap) (stopping : Bool) (t : ℚ)
    (ts : Timespec) : Prop where
  /-- The nanoseconds are less than a second. -/
  normalised : 0 ≤ ts.tv_nsec ∧ ts.tv_nsec < 10^9
  /-- Nothing to wait for. -/
  immediate : ready ≠ [] ∨ stopping = true → ts = ⟨0, 0⟩
  /-- Nothing ready or scheduled. -/
  idle : ready = [] → stopping = false → scheduled.entries = [] → ts = ⟨86400, 0⟩
  /-- The earliest timer. -/
  timer : ready = [] → stopping = false → ∀ w, IsLeast scheduled.times w →
    ts.tv_sec * 10^9 + ts.tv_nsec = ⌊10^9 * timeToNext w t⌋

/-! ## The clamped delay -/

/-- The clamped delay is the time to the next timer. -/
theorem clampedDelay_eq (w t : ℚ) : clampedDelay w t = timeToNext w t := by
  unfold clampedDelay timeToNext
  simp only [gt_iff_lt]
  have hpos : (if w - t < 0 then 0 else w - t) = max (w - t) 0 := by
    split
    · next h => exact (max_eq_right h.le).symm
    · next h => exact (max_eq_left (not_lt.mp h)).symm
  rw [hpos]
  split
  · next h => exact (min_eq_right h.le).symm
  · next h => exact (min_eq_left (not_lt.mp h)).symm

/-- The time to the next timer is not negative. -/
theorem timeToNext_nonneg (w t : ℚ) : 0 ≤ timeToNext w t :=
  le_min (le_max_right _ _) (by norm_num)

/-- Whole seconds make up the nanoseconds exactly when the rest is less than one of them. -/
theorem floor_seconds_iff (d : ℚ) : ⌊d⌋ * 10^9 = ⌊10^9 * d⌋ ↔ Int.fract d < 1 / 10^9 := by
  have hd : 10^9 * d = ((⌊d⌋ * 10^9 : ℤ) : ℚ) + 10^9 * Int.fract d := by
    push_cast
    have := Int.floor_add_fract d
    linarith
  rw [hd, Int.floor_intCast_add, eq_comm, add_eq_left, Int.floor_eq_zero_iff, Set.mem_Ico]
  have hfract := Int.fract_nonneg d
  constructor
  · rintro ⟨-, hlt⟩
    rw [lt_div_iff₀ (by norm_num)]
    linarith
  · intro hlt
    rw [lt_div_iff₀ (by norm_num)] at hlt
    exact ⟨by positivity, by linarith⟩

/-! ## The wait -/

/-- The first timer is the earliest one. -/
theorem isLeast_iff_first {first : TimerHandle} {rest : List TimerHandle}
    (hl : scheduled.entries = first :: rest) : IsLeast scheduled.times w ↔ w = first._when := by
  have hle := scheduled.head_le hl
  have hfirst : IsLeast scheduled.times first._when := by
    refine ⟨⟨first, by simp [hl], rfl⟩, ?_⟩
    rintro x ⟨h, hmem, rfl⟩
    exact hle h hmem
  exact ⟨fun h => h.unique hfirst, fun h => h ▸ hfirst⟩

/-- What `compute_timeout` returns for the earliest timer: the whole seconds. -/
theorem computeTimeout_timer (hready : ready = []) (hstopping : stopping = false)
    {first : TimerHandle} {rest : List TimerHandle} (hl : scheduled.entries = first :: rest) :
    computeTimeout ready scheduled stopping t = ⟨⌊timeToNext first._when t⌋, 0⟩ := by
  unfold computeTimeout CInt.ofFloat
  have hnonneg := timeToNext_nonneg first._when t
  simp [hready, hstopping, hl, clampedDelay_eq, hnonneg]

/-- The condition: nothing to wait for, or the clamped delay until the earliest timer exceeds a
whole number of seconds by less than a nanosecond. -/
def WholeSeconds (ready : List HandleRef) (scheduled : TimerHeap) (stopping : Bool)
    (t : ℚ) : Prop :=
  ready ≠ [] ∨ stopping = true ∨
    ∀ w, IsLeast scheduled.times w → Int.fract (timeToNext w t) < 1 / 10^9

/-- **The wait is exact exactly for whole seconds.** -/
theorem computeTimeout_exact_iff (ready : List HandleRef) (scheduled : TimerHeap) (stopping : Bool)
    (t : ℚ) :
    ExactWait ready scheduled stopping t (computeTimeout ready scheduled stopping t) ↔
      WholeSeconds ready scheduled stopping t := by
  by_cases himm : ready ≠ [] ∨ stopping = true
  · have hzero : computeTimeout ready scheduled stopping t = ⟨0, 0⟩ := if_pos himm
    rw [hzero]
    refine iff_of_true ⟨by norm_num, fun _ => rfl, fun hr hs => ?_, fun hr hs => ?_⟩
      (himm.imp id .inl)
    all_goals exact absurd himm (by simp [hr, hs])
  · obtain ⟨hready, hstopping⟩ := not_or.mp himm
    have hready : ready = [] := not_not.mp hready
    have hstopping : stopping = false := by simpa using hstopping
    cases hl : scheduled.entries with
    | nil =>
      have hnone : ∀ w, ¬ IsLeast scheduled.times w := by
        rintro w ⟨⟨h, hmem, -⟩, -⟩
        rw [hl] at hmem
        cases hmem
      have hday : computeTimeout ready scheduled stopping t = ⟨86400, 0⟩ := by
        simp [computeTimeout, hready, hstopping, hl]
      rw [hday]
      exact iff_of_true ⟨by norm_num, fun h => absurd h himm, fun _ _ _ => rfl,
        fun _ _ w hw => absurd hw (hnone w)⟩ (.inr (.inr fun w hw => absurd hw (hnone w)))
    | cons first rest =>
      rw [computeTimeout_timer hready hstopping hl]
      constructor
      · intro h
        refine .inr (.inr fun w hw => ?_)
        have htimer := h.timer hready hstopping w hw
        rw [(isLeast_iff_first hl).mp hw] at htimer ⊢
        rw [add_zero] at htimer
        exact (floor_seconds_iff _).mp htimer
      · intro h
        have hwhole := (h.resolve_left (not_not.mpr hready)).resolve_left (by simp [hstopping])
        refine ⟨by norm_num, fun h => absurd h himm, fun _ _ hnil => by simp [hl] at hnil,
          fun _ _ w hw => ?_⟩
        have hfract := hwhole w hw
        rw [(isLeast_iff_first hl).mp hw] at hfract ⊢
        rw [add_zero]
        exact (floor_seconds_iff _).mpr hfract

/-- The wait never lasts longer than until the earliest timer. -/
theorem computeTimeout_le (hready : ready = []) (hstopping : stopping = false)
    (hw : IsLeast scheduled.times w) :
    ((computeTimeout ready scheduled stopping t).tv_sec : ℚ) +
      (computeTimeout ready scheduled stopping t).tv_nsec / 10^9 ≤ timeToNext w t := by
  cases hl : scheduled.entries with
  | nil =>
    obtain ⟨h, hmem, -⟩ := hw.1
    rw [hl] at hmem
    cases hmem
  | cons first rest =>
    rw [computeTimeout_timer hready hstopping hl, (isLeast_iff_first hl).mp hw]
    simpa using Int.floor_le (timeToNext first._when t)

/-- The heap of one timer. -/
def oneTimer (_when : ℚ) : TimerHeap := ⟨[⟨0, _when⟩], .of_pairwise (List.pairwise_singleton ..)⟩

/-- A timer that is due in half a second: the iteration does not wait at all. -/
theorem computeTimeout_early :
    computeTimeout [] (oneTimer (1 / 2)) false 0 = ⟨0, 0⟩ ∧
      ¬ ExactWait [] (oneTimer (1 / 2)) false 0 (computeTimeout [] (oneTimer (1 / 2)) false 0) := by
  have hhalf : timeToNext (1 / 2) 0 = 1 / 2 := by norm_num [timeToNext]
  have hleast : IsLeast (oneTimer (1 / 2)).times (1 / 2) := (isLeast_iff_first rfl).mpr rfl
  refine ⟨?_, fun h => ?_⟩
  · rw [computeTimeout_timer rfl rfl rfl, show (⟨0, 1 / 2⟩ : TimerHandle)._when = 1 / 2 from rfl,
      hhalf]
    norm_num
  · rcases (computeTimeout_exact_iff _ _ _ _).mp h with h | h | h
    · exact h rfl
    · cases h
    · have := h _ hleast
      rw [hhalf] at this
      norm_num at this

end Uringio
