import Uringio.Lib.Transition
import Uringio.Loop.Harmless
import Uringio.Scheduling.Queues

/-!
# What an iteration does to the handles

The deque is a queue, and each callback only adds to its end: whatever is run in between, what was
popped followed by what is left is what was there followed by what was appended (`Fragment`).
Fragments compose, so the drain loop, an induction over the handles that were ready, pops these and
leaves the appended ones (`drainReady_fragment`). The promotion is the library's loop over a heap
(`promoteLoop_eq`). Together they say what an iteration does (`Iteration`), and over any number of
iterations every handle is queued, run or dropped, once, and none is run after it was cancelled
(`scheduled_of_run`, `Disciplined.not_ran`).

All this needs that no exception is pending when the promotion starts: the reader may leave one, and
then no timer is moved, and the first ready handle is lost (`iteration_iff`). The lost handle is
what the interpreter does from version 3.13 on; in 3.12 the lookup of `_ready` in `drain_ready`
clears the exception, and only the promotion is left out.
-/

namespace Uringio

open Transition (Run)

/-! ## Cancelled handles -/

/-- The cancelled handles after some events. -/
def cancelledAfter (c : HandleRef → Bool) : List Event → HandleRef → Bool
  | [] => c
  | .cancelled h :: es => cancelledAfter (fun h' => if h' = h then true else c h') es
  | _ :: es => cancelledAfter c es

/-- A handle that is run is not cancelled then, and one that is dropped is. -/
def Disciplined (c : HandleRef → Bool) : List Event → Prop
  | [] => True
  | .cancelled h :: es => Disciplined (fun h' => if h' = h then true else c h') es
  | .ran h :: es => c h = false ∧ Disciplined c es
  | .dropped h :: es => c h = true ∧ Disciplined c es
  | _ :: es => Disciplined c es

/-- What was cancelled after two rows of events. -/
theorem cancelledAfter_append (c : HandleRef → Bool) (es es' : List Event) :
    cancelledAfter c (es ++ es') = cancelledAfter (cancelledAfter c es) es' := by
  induction es generalizing c with
  | nil => rfl
  | cons e es ih => cases e <;> exact ih _

/-- Two rows of events are disciplined one after the other. -/
theorem disciplined_append (c : HandleRef → Bool) (es es' : List Event) :
    Disciplined c (es ++ es') ↔ Disciplined c es ∧ Disciplined (cancelledAfter c es) es' := by
  induction es generalizing c with
  | nil => simp [Disciplined, cancelledAfter]
  | cons e es ih =>
    cases e with
    | ran h | dropped h =>
      simp only [List.cons_append, Disciplined, cancelledAfter, ih, and_assoc]
    | appended h | scheduled h | cancelled h => exact ih _

/-- A handle that was cancelled stays so. -/
theorem cancelledAfter_of_true {c : HandleRef → Bool} {h : HandleRef} (hc : c h = true)
    (es : List Event) : cancelledAfter c es h = true := by
  induction es generalizing c with
  | nil => exact hc
  | cons e es ih =>
    cases e with
    | cancelled h' =>
      refine ih ?_
      split
      · rfl
      · exact hc
    | _ => exact ih hc

/-- **No handle is run after it was cancelled.** -/
theorem Disciplined.not_ran {c : HandleRef → Bool} {before after : List Event} {h : HandleRef}
    (hd : Disciplined c (before ++ .cancelled h :: after)) : .ran h ∉ after := by
  intro hran
  obtain ⟨between, rest, rfl⟩ := List.append_of_mem hran
  rw [disciplined_append] at hd
  obtain ⟨-, hd⟩ := hd
  rw [Disciplined, disciplined_append] at hd
  have hfalse := hd.2.1
  rw [cancelledAfter_of_true (by simp)] at hfalse
  cases hfalse

namespace Scheduler

variable {heapq : HeapQ} {s s' s'' s₀ : Scheduler} {popped popped' : List HandleRef}
  {new new' : List Event} {env : IterEnv} {run : HandleRef → Scheduler → Ran}

/-! ## Parts of an iteration -/

/-- From `s` to `s'` the handles `popped` were taken off the deque, and the events `new` happened.
-/
structure Fragment (s s' : Scheduler) (popped : List HandleRef) (new : List Event) : Prop where
  /-- The events follow those of before. -/
  events : s'.events = s.events ++ new
  /-- What was cancelled is cancelled. -/
  cancelled : s'._cancelled = cancelledAfter s._cancelled new
  /-- No handle is run that is cancelled. -/
  disciplined : Disciplined s._cancelled new
  /-- What was popped was run or dropped. -/
  handled : new.filterMap Event.handled = popped
  /-- First in, first out. -/
  ready : popped ++ s'._ready = s._ready ++ new.filterMap Event.appends
  /-- What was scheduled is added to the timers. -/
  timers : s'.timers.Perm (s.timers ++ new.filterMap Event.schedules)
  /-- The new handles are numbered one after the other. -/
  makes : new.filterMap Event.makes = List.range' s.made (s'.made - s.made)
  /-- No handle is unmade. -/
  made : s.made ≤ s'.made

/-- Nothing happens in an empty fragment. -/
theorem Fragment.refl (s : Scheduler) : Fragment s s [] [] where
  events := by simp
  cancelled := rfl
  disciplined := trivial
  handled := rfl
  ready := by simp
  timers := by simp
  makes := by simp
  made := le_refl _

/-- Two fragments are a fragment. -/
theorem Fragment.trans (h : Fragment s s' popped new) (h' : Fragment s' s'' popped' new') :
    Fragment s s'' (popped ++ popped') (new ++ new') where
  events := by rw [h'.events, h.events, List.append_assoc]
  cancelled := by rw [h'.cancelled, h.cancelled, cancelledAfter_append]
  disciplined := by
    rw [disciplined_append, ← h.cancelled]
    exact ⟨h.disciplined, h'.disciplined⟩
  handled := by rw [List.filterMap_append, h.handled, h'.handled]
  ready := by
    rw [List.append_assoc, h'.ready, ← List.append_assoc, h.ready, List.append_assoc,
      List.filterMap_append]
  timers := by
    rw [List.filterMap_append, ← List.append_assoc]
    exact h'.timers.trans (h.timers.append_right _)
  makes := by
    have hadd : s''.made - s.made = (s'.made - s.made) + (s''.made - s'.made) := by
      have := h.made
      have := h'.made
      omega
    rw [List.filterMap_append, h.makes, h'.makes, hadd, ← List.range'_append_1]
    congr 2
    have := h.made
    omega
  made := h.made.trans h'.made

/-- An action. -/
theorem act_fragment (hq : heapq.Lawful) (s : Scheduler) (a : Action) :
    ∃ new, Fragment s (act heapq s a) [] new := by
  cases a with
  | callSoon =>
    exact ⟨[.appended s.made],
      { Fragment.refl s with
        events := rfl
        ready := rfl
        makes := by simp [act, Event.makes]
        made := Nat.le_succ _ }⟩
  | callAt w =>
    exact ⟨[.scheduled s.made],
      { Fragment.refl s with
        events := rfl
        ready := by simp [act, Event.appends]
        timers := by
          refine ((hq.push_perm ⟨s.made, w⟩ s._scheduled).map TimerHandle.ref).trans ?_
          rw [List.map_cons]
          exact (List.perm_append_singleton _ _).symm
        makes := by simp [act, Event.makes]
        made := Nat.le_succ _ }⟩
  | cancel h =>
    exact ⟨[.cancelled h],
      { Fragment.refl s with
        events := rfl
        cancelled := rfl
        ready := by simp [act, Event.appends]
        makes := by simp [act, Event.makes] }⟩

/-- Actions in order. -/
theorem acts_fragment (hq : heapq.Lawful) (s : Scheduler) (as : List Action) :
    ∃ new, Fragment s (acts heapq s as) [] new := by
  induction as generalizing s with
  | nil => exact ⟨[], .refl s⟩
  | cons a as ih =>
    obtain ⟨new, h⟩ := act_fragment hq s a
    obtain ⟨new', h'⟩ := ih (act heapq s a)
    exact ⟨new ++ new', h.trans h'⟩

/-- A fragment does not look at the exception that is pending. -/
theorem Fragment.withPending (h : Fragment s s' popped new) (p : Option PendingExc) :
    Fragment s { s' with pending := p } popped new :=
  { h with ready := h.ready, timers := h.timers }

/-- The handle `h` is popped, and run or dropped. -/
theorem runHandle_fragment (hq : heapq.Lawful) (run : HandleRef → Scheduler → Ran) {h : HandleRef}
    {ready : List HandleRef}
    (hready : s._ready = h :: ready) :
    ∃ new, Fragment s (runHandle heapq run h { s with _ready := ready }) [h] new := by
  unfold runHandle
  split
  · next hc =>
    exact ⟨[.dropped h],
      { Fragment.refl s with
        events := rfl
        disciplined := ⟨hc, trivial⟩
        handled := rfl
        ready := by simp [hready, Event.appends]
        makes := by simp [Event.makes] }⟩
  · next hc =>
    -- First the run is recorded, then its actions are done.
    have hran : Fragment s { s with _ready := ready, events := s.events ++ [.ran h] } [h]
        [.ran h] :=
      { Fragment.refl s with
        events := rfl
        disciplined := ⟨by simpa using hc, trivial⟩
        handled := rfl
        ready := by simp [hready, Event.appends]
        makes := by simp [Event.makes] }
    obtain ⟨new, hacts⟩ := acts_fragment hq _ (run h { s with _ready := ready }).actions
    exact ⟨_, (hran.trans hacts).withPending _⟩

/-- The exception that is pending behind a handle whose `_run` returns. -/
theorem runHandle_pending (hrun : ∀ h s, (run h s).raises = none) (hp : s.pending = none)
    (h : HandleRef) : (runHandle heapq run h s).pending = none := by
  unfold runHandle
  split
  · exact hp
  · simp [hrun]

/-- A round of the drain loop without an exception. -/
theorem drainReady_cons (n : ℕ) {h : HandleRef} {ready : List HandleRef}
    (hready : s._ready = h :: ready) (hp : s.pending = none) :
    drainReady heapq run (n + 1) s =
      drainReady heapq run n (runHandle heapq run h { s with _ready := ready }) := by
  have hnot : ¬ s.pending.isSome = true := by simp [hp]
  simp only [drainReady, hready, hnot, Bool.false_eq_true, if_false]

/-- With an exception pending, the handle that is popped is lost. -/
theorem drainReady_cons_pending (n : ℕ) {h : HandleRef} {ready : List HandleRef}
    (hready : s._ready = h :: ready) (hp : s.pending.isSome = true) :
    drainReady heapq run (n + 1) s =
      { s with _ready := ready, pending := some .SystemError } := by
  simp only [drainReady, hready, hp, if_true]

/-- **The drain loop.** Without exceptions it pops the first `n` handles that are ready. -/
theorem drainReady_fragment (hq : heapq.Lawful) (hrun : ∀ h s, (run h s).raises = none) {n : ℕ}
    (hp : s.pending = none) (hn : n ≤ s._ready.length) :
    ∃ new, Fragment s (drainReady heapq run n s) (s._ready.take n) new := by
  induction n generalizing s with
  | zero => exact ⟨[], .refl s⟩
  | succ n ih =>
    cases hready : s._ready with
    | nil =>
      rw [hready] at hn
      cases hn
    | cons h ready =>
      obtain ⟨new, hfrag⟩ := runHandle_fragment hq run hready
      have hp' : (runHandle heapq run h { s with _ready := ready }).pending = none :=
        runHandle_pending (s := { s with _ready := ready }) hrun hp h
      -- The handles that were ready are still in front.
      have hfront : (runHandle heapq run h { s with _ready := ready })._ready =
          ready ++ new.filterMap Event.appends := by
        have := hfrag.ready
        rw [hready] at this
        simpa using this
      have hlen : n ≤ ready.length := by
        rw [hready] at hn
        exact Nat.le_of_succ_le_succ hn
      obtain ⟨new', hrest⟩ := ih hp' (by rw [hfront, List.length_append]; omega)
      rw [hfront, List.take_append_of_le_length hlen] at hrest
      rw [drainReady_cons n hready hp]
      exact ⟨new ++ new', hfrag.trans hrest⟩

/-! ## The promotion -/

/-- The loop of the promotion is the one of the library. -/
theorem promoteLoop_eq (end_time : ℚ) (n : ℕ) (s : Scheduler) :
    promoteLoop heapq end_time n s =
      { s with
        _ready := s._ready ++ (heapq.takeBelow end_time n s._scheduled).1.map TimerHandle.ref
        _scheduled := (heapq.takeBelow end_time n s._scheduled).2 } := by
  induction n generalizing s with
  | zero => simp [promoteLoop, HeapQueue.takeBelow]
  | succ n ih =>
    unfold promoteLoop HeapQueue.takeBelow
    cases s._scheduled.entries.head? with
    | none => simp
    | some first =>
      simp only [ge_iff_le, ← not_lt]
      by_cases hbelow : first._when < end_time
      · simp only [hbelow, not_true_eq_false, if_false, if_true]
        cases heapq.pop s._scheduled with
        | none => simp
        | some r => simp [ih]
      · simp [hbelow]

/-- What a promotion with the bound `end_time` does. -/
structure Promotes (end_time : ℚ) (s s' : Scheduler) : Prop where
  /-- The timers that are due go behind the handles already ready, in the order of their times. -/
  due : ∃ moved : List TimerHandle, s'._ready = s._ready ++ moved.map TimerHandle.ref ∧
    moved.Perm (s._scheduled.entries.filter (·._when < end_time)) ∧
    moved.Pairwise fun x y => x._when ≤ y._when
  /-- The others stay. -/
  rest : s'._scheduled.entries.Perm (s._scheduled.entries.filter (¬ ·._when < end_time))

/-- **What is due is promoted, and nothing else.** -/
theorem promoteLoop_promotes (hq : heapq.Lawful) (end_time : ℚ) (s : Scheduler) :
    Promotes end_time s (promoteLoop heapq end_time s._scheduled.entries.length s) := by
  have htaken := HeapQueue.takeBelow_spec hq end_time (le_refl s._scheduled.entries.length)
  rw [promoteLoop_eq]
  generalize heapq.takeBelow end_time s._scheduled.entries.length s._scheduled = r at htaken ⊢
  have hall : (r.1).filter (·._when < end_time) = r.1 :=
    List.filter_eq_self.mpr fun x hx => by simpa using htaken.below x hx
  have hnone : (r.2.entries).filter (·._when < end_time) = [] :=
    List.filter_eq_nil_iff.mpr fun x hx => by simpa using htaken.above x hx
  constructor
  · refine ⟨r.1, rfl, ?_, htaken.sorted⟩
    have := htaken.perm.filter (·._when < end_time)
    rwa [List.filter_append, hall, hnone, List.append_nil] at this
  · have hall' : (r.2.entries).filter (¬ ·._when < end_time) = r.2.entries :=
      List.filter_eq_self.mpr fun x hx => by simpa using htaken.above x hx
    have hnone' : (r.1).filter (¬ ·._when < end_time) = [] :=
      List.filter_eq_nil_iff.mpr fun x hx => by simpa using htaken.below x hx
    have := htaken.perm.filter (¬ ·._when < end_time)
    rwa [List.filter_append, hall', hnone', List.nil_append] at this

/-! ## An iteration -/

/-- The condition: no exception is pending when the promotion starts. -/
def Quiet (env : IterEnv) : Prop := env.readerRaises = none

instance (env : IterEnv) : Decidable (Quiet env) := inferInstanceAs (Decidable (_ = _))

/-- The callbacks return normally. -/
def Returns (env : IterEnv) : Prop := ∀ h s, (env.run h s).raises = none

/-- What an iteration should do. -/
structure Iteration (heapq : HeapQ) (env : IterEnv) (s : Scheduler) : Prop where
  /-- The timers that are due are promoted. -/
  promotes : Promotes (env.time + env.clock_resolution) (read heapq env s) (promoted heapq env s)
  /-- The handles that are ready then are run or dropped, in this order, and those that are appended
  meanwhile are left. -/
  drains : ∃ new, (drained heapq env s).events = (promoted heapq env s).events ++ new ∧
    new.filterMap Event.handled = (promoted heapq env s)._ready ∧
    Disciplined (promoted heapq env s)._cancelled new ∧
    (drained heapq env s)._ready = new.filterMap Event.appends

/-- The reader, for the queues. -/
theorem read_fragment (hq : heapq.Lawful) (env : IterEnv) (s : Scheduler) :
    ∃ new, Fragment s (read heapq env s) [] new := by
  obtain ⟨new, h⟩ := acts_fragment hq s env.reader
  exact ⟨new, h.withPending _⟩

/-- Without a pending exception the promotion is its loop. -/
theorem promoted_eq (hquiet : Quiet env) (s : Scheduler) : promoted heapq env s =
    promoteLoop heapq (env.time + env.clock_resolution) (read heapq env s)._scheduled.entries.length
      (read heapq env s) := by
  have hnone : env.readerRaises = none := hquiet
  exact if_neg (by simp [read, hnone])

/-- In a quiet iteration nothing is pending behind the promotion. -/
theorem promoted_pending (hquiet : Quiet env) (s : Scheduler) :
    (promoted heapq env s).pending = none := by
  have hnone : env.readerRaises = none := hquiet
  rw [promoted_eq hquiet, promoteLoop_eq]
  simp [read, hnone]

/-- The drain of a quiet iteration whose callbacks return. -/
theorem drained_fragment (hq : heapq.Lawful) (hquiet : Quiet env) (hret : Returns env)
    (s : Scheduler) : ∃ new, Fragment (promoted heapq env s) (drained heapq env s)
      (promoted heapq env s)._ready new := by
  have hpending : (promoted heapq env s).pending = none := promoted_pending hquiet s
  have h := drainReady_fragment hq hret hpending (le_refl _)
  rwa [List.take_length] at h

/-- A quiet iteration whose callbacks return does what it should. -/
theorem iteration_of_quiet (hq : heapq.Lawful) (hquiet : Quiet env) (hret : Returns env)
    (s : Scheduler) : Iteration heapq env s := by
  refine ⟨?_, ?_⟩
  · rw [promoted_eq hquiet]
    exact promoteLoop_promotes hq _ _
  · obtain ⟨new, h⟩ := drained_fragment hq hquiet hret s
    exact ⟨new, h.events, h.handled, h.disciplined, List.append_cancel_left h.ready⟩

/-- Nothing is ready behind the reader, and no timer is due. -/
def Idle (heapq : HeapQ) (env : IterEnv) (s : Scheduler) : Prop :=
  (read heapq env s)._ready = [] ∧
    ∀ h ∈ (read heapq env s)._scheduled.entries, ¬ h._when < env.time + env.clock_resolution

/-- With an exception pending, nothing is promoted, and a handle that is ready is lost. -/
theorem iteration_of_raises (hraises : env.readerRaises ≠ none) (s : Scheduler) :
    Iteration heapq env s ↔ Idle heapq env s := by
  obtain ⟨e, he⟩ := Option.ne_none_iff_exists'.mp hraises
  have hpromoted : promoted heapq env s = { read heapq env s with pending := some .SystemError } :=
    if_pos (by simp [read, he])
  unfold Idle
  constructor
  · intro h
    have hready : (read heapq env s)._ready = [] := by
      by_contra hne
      obtain ⟨first, rest, hl⟩ := List.exists_cons_of_ne_nil hne
      obtain ⟨new, hevents, hhandled, -⟩ := h.drains
      have hl' : (promoted heapq env s)._ready = first :: rest := by rw [hpromoted, hl]
      have hdrained : (drained heapq env s).events = (promoted heapq env s).events := by
        have hp : (promoted heapq env s).pending.isSome = true := by rw [hpromoted]; rfl
        rw [drained, hl', List.length_cons, drainReady_cons_pending _ hl' hp]
      rw [hdrained, List.self_eq_append_right] at hevents
      rw [hevents, hl'] at hhandled
      cases hhandled
    refine ⟨hready, fun t ht hdue => ?_⟩
    obtain ⟨moved, hmoved, hperm, -⟩ := h.promotes.due
    have hnil : moved = [] := by
      rw [hpromoted] at hmoved
      simpa [hready] using hmoved
    rw [hnil] at hperm
    have hmem : t ∈ (read heapq env s)._scheduled.entries.filter
        (·._when < env.time + env.clock_resolution) :=
      List.mem_filter.mpr ⟨ht, by simpa using hdue⟩
    rw [← hperm.nil_eq] at hmem
    cases hmem
  · rintro ⟨hready, hnotdue⟩
    refine ⟨⟨⟨[], by rw [hpromoted]; simp, ?_, .nil⟩, ?_⟩, [], ?_, ?_, trivial, ?_⟩
    · have hnone : (read heapq env s)._scheduled.entries.filter
          (·._when < env.time + env.clock_resolution) = [] :=
        List.filter_eq_nil_iff.mpr fun h hh => by simpa using hnotdue h hh
      rw [hnone]
    · have hall : (read heapq env s)._scheduled.entries.filter
          (¬ ·._when < env.time + env.clock_resolution) = (read heapq env s)._scheduled.entries :=
        List.filter_eq_self.mpr fun h hh => by simpa using hnotdue h hh
      rw [hall, hpromoted]
    all_goals simp [drained, hpromoted, hready, drainReady]

/-- **When an iteration does what it should.** -/
theorem iteration_iff (hq : heapq.Lawful) (hret : Returns env) (s : Scheduler) :
    Iteration heapq env s ↔ Quiet env ∨ Idle heapq env s := by
  by_cases hquiet : Quiet env
  · exact iff_of_true (iteration_of_quiet hq hquiet hret s) (.inl hquiet)
  · rw [iteration_of_raises hquiet]
    exact ⟨.inr, fun h => h.resolve_left hquiet⟩

/-! ## Any number of iterations -/

/-- The handles of the queues at the start: each is there once, and was made before. -/
structure Starts (s : Scheduler) : Prop where
  /-- No handle is there twice. -/
  nodup : s.queued.Nodup
  /-- The handles were made before. -/
  made : ∀ h ∈ s.queued, h < s.made
  /-- Nothing has happened. -/
  events : s.events = []
  /-- No exception is pending. -/
  pending : s.pending = none

/-- Where the handles are, since the start at `s₀`. -/
structure Accounted (s₀ s : Scheduler) : Prop where
  /-- What is queued or handled was queued at the start, or was made since. -/
  kept : (s.queued ++ s.handled).Perm (s₀.queued ++ s.events.filterMap Event.makes)
  /-- The handles that were made are numbered one after the other. -/
  makes : s.events.filterMap Event.makes = List.range' s₀.made (s.made - s₀.made)
  /-- No handle is unmade. -/
  made : s₀.made ≤ s.made
  /-- No handle was run that was cancelled. -/
  disciplined : Disciplined s₀._cancelled s.events
  /-- What was cancelled is cancelled. -/
  cancelled : s._cancelled = cancelledAfter s₀._cancelled s.events
  /-- No exception is pending. -/
  pending : s.pending = none

/-- What was made was appended or scheduled. -/
theorem makes_perm (new : List Event) : (new.filterMap Event.makes).Perm
    (new.filterMap Event.appends ++ new.filterMap Event.schedules) := by
  induction new with
  | nil => exact .refl _
  | cons e es ih =>
    cases e with
    | appended h => exact ih.cons h
    | scheduled h => exact (ih.cons h).trans List.perm_middle.symm
    | cancelled h | ran h | dropped h => exact ih

/-- Where the handles are behind a fragment. -/
theorem Fragment.kept (h : Fragment s s' popped new) :
    (s'.queued ++ popped).Perm (s.queued ++ new.filterMap Event.makes) := by
  refine List.perm_iff_count.mpr fun a => ?_
  have hready := congrArg (List.count a) h.ready
  have htimers := h.timers.count_eq a
  have hmakes := (makes_perm new).count_eq a
  simp only [queued, List.count_append] at *
  omega

/-- The promotion moves handles from one queue to the other. -/
theorem Promotes.queued {end_time : ℚ} (h : Promotes end_time s s') : s'.queued.Perm s.queued := by
  obtain ⟨moved, hready, hmoved, -⟩ := h.due
  refine List.perm_iff_count.mpr fun a => ?_
  have hready := congrArg (List.count a) hready
  have hmoved := (hmoved.map TimerHandle.ref).count_eq a
  have hrest := (h.rest.map TimerHandle.ref).count_eq a
  have hall := ((List.filter_append_perm (·._when < end_time) s._scheduled.entries).map
    TimerHandle.ref).count_eq a
  simp only [Scheduler.queued, timers, List.count_append, List.map_append, decide_not] at *
  omega

/-- Fragments keep the account. -/
theorem Accounted.fragment (ha : Accounted s₀ s) (h : Fragment s s' popped new)
    (hp : s'.pending = none) : Accounted s₀ s' where
  kept := by
    have hhandled : s'.handled = s.handled ++ popped := by
      rw [handled, h.events, List.filterMap_append, h.handled, ← handled]
    refine List.perm_iff_count.mpr fun a => ?_
    have hkept := ha.kept.count_eq a
    have hfrag := h.kept.count_eq a
    rw [hhandled, h.events, List.filterMap_append]
    simp only [List.count_append] at *
    omega
  makes := by
    have hle := ha.made
    have hle' := h.made
    rw [h.events, List.filterMap_append, ha.makes, h.makes,
      show s'.made - s₀.made = (s.made - s₀.made) + (s'.made - s.made) by omega,
      ← List.range'_append_1]
    congr 2
    omega
  made := ha.made.trans h.made
  disciplined := by
    rw [h.events, disciplined_append, ← ha.cancelled]
    exact ⟨ha.disciplined, h.disciplined⟩
  cancelled := by rw [h.cancelled, h.events, cancelledAfter_append, ha.cancelled]
  pending := hp

/-- The drain of a quiet iteration leaves no exception. -/
theorem drainReady_pending (hq : heapq.Lawful) (hrun : ∀ h s, (run h s).raises = none) {n : ℕ}
    (hp : s.pending = none) (hn : n ≤ s._ready.length) :
    (drainReady heapq run n s).pending = none := by
  induction n generalizing s with
  | zero => exact hp
  | succ n ih =>
    cases hready : s._ready with
    | nil =>
      rw [hready] at hn
      cases hn
    | cons h ready =>
      rw [drainReady_cons n hready hp]
      obtain ⟨new, hfrag⟩ := runHandle_fragment hq run hready
      have hlen := congrArg List.length hfrag.ready
      rw [hready] at hn
      simp only [hready, List.length_append, List.length_cons, List.length_nil] at hlen hn
      exact ih (runHandle_pending (s := { s with _ready := ready }) hrun hp h) (by omega)

/-- The guard of a run: its iterations are quiet, and their callbacks return. -/
def QuietReturns (_ : Scheduler) (env : IterEnv) : Prop := Quiet env ∧ Returns env

/-- A quiet iteration keeps the account. -/
theorem Accounted.step (hq : heapq.Lawful) (ha : Accounted s₀ s) (hquiet : Quiet env)
    (hret : Returns env) (hstep : step heapq s env = some s') : Accounted s₀ s' := by
  obtain ⟨new, hread⟩ := read_fragment hq env s
  have hnone : (read heapq env s).pending = none := by
    have : env.readerRaises = none := hquiet
    simp [read, this]
  have haread := ha.fragment hread hnone
  have hpromotes : Promotes (env.time + env.clock_resolution) (read heapq env s)
      (promoted heapq env s) := (iteration_of_quiet hq hquiet hret s).promotes
  -- The promotion only moves handles.
  have hapromoted : Accounted s₀ (promoted heapq env s) := by
    have heq : promoted heapq env s = promoteLoop heapq (env.time + env.clock_resolution)
        (read heapq env s)._scheduled.entries.length (read heapq env s) := promoted_eq hquiet s
    rw [promoteLoop_eq] at heq
    have hkept := (hpromotes.queued.append_right (read heapq env s).handled).trans haread.kept
    rw [heq] at hkept ⊢
    exact { haread with kept := hkept }
  obtain ⟨new', hdrained⟩ : ∃ new', Fragment (promoted heapq env s) (drained heapq env s)
      (promoted heapq env s)._ready new' := drained_fragment hq hquiet hret s
  have hpending : (drained heapq env s).pending = none :=
    drainReady_pending hq hret hapromoted.pending (le_refl _)
  have hadrained := hapromoted.fragment hdrained hpending
  cases hstep
  exact { hadrained with pending := rfl, kept := hadrained.kept }

/-- What should hold after any number of iterations. -/
structure Scheduled (s₀ s : Scheduler) : Prop where
  /-- No handle is run twice, or run and dropped. -/
  once : s.handled.Nodup
  /-- A handle is run only while it is not cancelled, and dropped only as cancelled. -/
  disciplined : Disciplined s₀._cancelled s.events
  /-- Each handle of the start and each that was made is queued, was run or was dropped. -/
  kept : (s.queued ++ s.handled).Perm (s₀.queued ++ s.events.filterMap Event.makes)

/-- At the start the handles are accounted for. -/
theorem Starts.accounted (h : Starts s₀) : Accounted s₀ s₀ where
  kept := by simp [handled, h.events]
  makes := by simp [h.events]
  made := le_refl _
  disciplined := by rw [h.events]; trivial
  cancelled := by rw [h.events]; rfl
  pending := h.pending

/-- In an account no handle is in two places. -/
theorem Accounted.scheduled (h₀ : Starts s₀) (h : Accounted s₀ s) : Scheduled s₀ s where
  once := by
    have hnodup : (s₀.queued ++ s.events.filterMap Event.makes).Nodup := by
      rw [h.makes]
      refine List.nodup_append.mpr ⟨h₀.nodup, List.nodup_range' .., fun a ha b hb hab => ?_⟩
      have hlt : (b : ℕ) < s₀.made := hab ▸ h₀.made a ha
      have hle : s₀.made ≤ b := (List.mem_range'_1.mp hb).1
      exact absurd hle (not_le.mpr hlt)
    exact ((List.nodup_append.mp (h.kept.nodup_iff.mpr hnodup)).2).1
  disciplined := h.disciplined
  kept := h.kept

/-- **Handles are scheduled as they should.** In every run whose readers leave no exception and
whose callbacks return, no handle is run twice or while it is cancelled, and none is lost; there the
next iteration promotes and drains as it should exactly if its reader leaves no exception either, or
there is nothing to do. -/
theorem scheduled_of_run (hq : heapq.Lawful) (h₀ : Starts s₀)
    (hrun : Run (step heapq) QuietReturns s₀ s) :
    Scheduled s₀ s ∧ ∀ env, Returns env →
      (Iteration heapq env s ↔ Quiet env ∨ Idle heapq env s) := by
  have haccounted : Accounted s₀ s :=
    hrun.invariant h₀.accounted fun t env u ht hok hstep => ht.step hq hok.1 hok.2 hstep
  exact ⟨haccounted.scheduled h₀, fun env hret => iteration_iff hq hret s⟩

/-- Two ready handles, and two timers. -/
def twoHandles : Scheduler where
  _ready := [0, 1]
  _scheduled := ⟨[⟨2, 1⟩, ⟨3, 5⟩], .of_pairwise (by decide +kernel)⟩
  _cancelled _ := false
  made := 4
  events := []
  pending := none

/-- The first handle appends another one and cancels the second. -/
def busyEnv : IterEnv where
  reader := []
  readerRaises := none
  time := 2
  clock_resolution := 0
  run h _ := if h = 0 then ⟨[.callSoon, .cancel 1], none⟩ else ⟨[], none⟩

/-- The sample with two handles is a start. -/
theorem twoHandles_starts : Starts twoHandles := ⟨by decide +kernel, by decide +kernel, rfl, rfl⟩

/-- The sample wait returns. -/
theorem busyEnv_returns : Returns busyEnv := by
  intro h s
  simp only [busyEnv]
  split <;> rfl

/-- The cancelled handle is dropped, the timer that is due is run behind it, and the new handle is
left. -/
theorem scheduled_busy : ∃ s, step (HeapQueue.sorted _) twoHandles busyEnv = some s ∧
    Scheduled twoHandles s ∧
    s.events = [.ran 0, .appended 4, .cancelled 1, .dropped 1, .ran 2] ∧ s.queued = [4, 3] := by
  have hok : QuietReturns twoHandles busyEnv := ⟨rfl, busyEnv_returns⟩
  refine ⟨_, rfl, ?_, by decide +kernel, by decide +kernel⟩
  exact (scheduled_of_run HeapQueue.sorted_lawful twoHandles_starts
    ((Run.refl twoHandles).tail hok rfl)).1

/-- The completion of the timer whose future was cancelled. -/
def expiredTimer : List (ReadEnv × Cqe) := [(Sample.readEnv, ⟨1, -ETIME, 0⟩)]

/-- An iteration that reads it: the exception stays pending. -/
def raisingEnv : IterEnv := { busyEnv with readerRaises := some 0 }

/-- The reader leaves an exception for the completion of a cancelled timer: then the first ready
handle is lost, and the timer that is due stays. -/
theorem raisingEnv_not_iteration :
    (cancelledTimer.bind fun L => (onUringReady L expiredTimer).map (·.1.err)) = .ok true ∧
      Starts twoHandles ∧ Returns raisingEnv ∧
      ¬ Iteration (HeapQueue.sorted _) raisingEnv twoHandles ∧
      (drained (HeapQueue.sorted _) raisingEnv twoHandles).queued = [1, 2, 3] ∧
      (drained (HeapQueue.sorted _) raisingEnv twoHandles).handled = [] := by
  refine ⟨?_, twoHandles_starts, busyEnv_returns, fun h => ?_, by decide +kernel, by decide +kernel⟩
  · decide +kernel
  · have hidle := (iteration_of_raises (by decide) twoHandles).mp h
    exact absurd hidle.1 (by decide +kernel)

end Scheduler

end Uringio
