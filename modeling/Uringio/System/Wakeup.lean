import Uringio.System.Auxiliary

/-!
# Wakeups

While the reader has not met the completion of the eventfd's read, that read is outstanding or its
completion is in the queue, and the same holds of the poll of the signal pipe; so a wakeup or a
signal ends a wait (`wakes_of_run`). The reader drops both completions before it gets to the code
that arms the read again: their tags are no indices of the registry. After the first wakeup nothing
waits for the eventfd any more (`secondWakeup_not_wakes`).
-/

namespace Uringio

namespace System

open Transition (Run anyStep exec)

variable {s s' : System} {l : Label} {c : Completion}

/-- Nothing is left to do before `_run_once` waits: the queue was submitted, and no completion is
there. -/
def Waits (s : System) : Prop := s.loop.ring.window = [] ∧ s.cq = []

/-- The kernel can end the wait. -/
def CanWake (s : System) : Prop :=
  ∃ n res flags into data s', step s (.post n res flags into data) = some s' ∧ s'.cq ≠ []

/-- The eventfd and the signal pipe are watched, and so what is written to them ends the wait. -/
structure Wakes (s : System) : Prop where
  /-- A read of the eventfd is outstanding. -/
  wakeup : ∃ pos e, s.Outstanding pos e ∧ s.readsWakeup e = true
  /-- A poll of the signal pipe is outstanding. -/
  signals : ∃ pos e, s.Outstanding pos e ∧ s.pollsSignals e = true
  /-- A write to the eventfd ends the wait. -/
  written : s.Waits → 0 < s.counter → s.CanWake
  /-- So does a signal. -/
  signalled : s.Waits → s.signalled = true → s.CanWake

/-- The reader meets neither the completion of the eventfd's read nor that of a poll of the signal
pipe. -/
def WatchersUnread (s : System) : Label → Prop
  | .read _ => ∀ c ∈ s.cq.head?, c.cqe.user_data ≠ WAKEUP_FD_TAG ∧ s.pollsSignals c.sqe = false
  | _ => True

instance (s : System) : (l : Label) → Decidable (WatchersUnread s l)
  | .read _ => inferInstanceAs (Decidable (∀ c ∈ s.cq.head?, _ ∧ _))
  | .call .. | .initProvidedMode .. | .closeProvidedMode .. | .post .. | .submit .. | .writeToSelf
  | .returned | .signal | .cancel .. => inferInstanceAs (Decidable True)

/-- The invariant: the two entries of the initialization are outstanding. -/
structure Watched (s : System) : Prop extends Tracked s where
  /-- The read of the eventfd is outstanding. -/
  wakeup : ∃ pos e buf, s.Outstanding pos e ∧ e.prep = some (.read s.loop.wakeup_fd buf 8 0) ∧
    e.user_data = WAKEUP_FD_TAG
  /-- So is the poll of the signal pipe. -/
  signals : ∃ pos e, s.Outstanding pos e ∧ e.prep = some (.poll_add s.pipe_fd POLLIN)

/-- The descriptors of a loop stay the same. -/
theorem fds_step (hs : s.loop.Sound) (hstep : step s l = some s') :
    s'.loop.wakeup_fd = s.loop.wakeup_fd ∧ s'.pipe_fd = s.pipe_fd := by
  have hframe := frame_step hs hstep
  cases l with
  | call ctx op env =>
    obtain ⟨j, hframe⟩ := hframe (by simp)
    obtain ⟨-, c, -, rfl⟩ := call_step hstep
    refine ⟨hframe.wakeup_fd, ?_⟩
    unfold called
    split <;> rfl
  | read renv =>
    obtain ⟨j, hframe⟩ := hframe (by simp)
    obtain ⟨c, cq, r, -, -, rfl⟩ := read_step hstep
    exact ⟨hframe.wakeup_fd, rfl⟩
  | initProvidedMode | closeProvidedMode | submit | returned | writeToSelf | signal =>
    cases hstep
    exact ⟨rfl, rfl⟩
  | post n res flags into data =>
    obtain ⟨f, -, -, -, -, rfl⟩ := post_step hstep
    exact ⟨rfl, rfl⟩
  | cancel f =>
    simp only [step] at hstep
    split at hstep
    · cases hstep
      exact ⟨rfl, rfl⟩
    · cases hstep

/-- **A step keeps the two entries**, if it does not read their completions. -/
theorem Watched.step (h : Watched s) (hok : WatchersUnread s l) (hstep : step s l = some s') :
    Watched s' := by
  obtain ⟨hfd, hpipe⟩ := fds_step h.sound hstep
  refine { h.toTracked.step hstep with wakeup := ?_, signals := ?_ }
  · obtain ⟨pos, e, buf, hout, hprep, htag⟩ := h.wakeup
    refine ⟨pos, e, buf, outstanding_step h.sound hstep hout ?_, by rw [hfd]; exact hprep, htag⟩
    rintro renv rfl c hc ⟨-, rfl⟩
    exact (hok c hc).1 ((h.tag c (List.mem_of_mem_head? hc)).trans htag)
  · obtain ⟨pos, e, hout, hprep⟩ := h.signals
    refine ⟨pos, e, outstanding_step h.sound hstep hout ?_, by rw [hpipe]; exact hprep⟩
    rintro renv rfl c hc ⟨-, rfl⟩
    have hpolls := (hok c hc).2
    simp [pollsSignals, Sqe.pollsFd, hprep] at hpolls

/-- The initialization queues the two entries. -/
theorem watched_init {registry_size : ℕ} {h : registry_size < 2^31} {world : World} {env : InitEnv}
    (hworld : world.ContextsSound)
    (hsuccess : (Loop.init registry_size h world env).1.err = false) :
    Watched (init registry_size h world env) := by
  obtain ⟨added, hadds, ⟨pos, e, hmem, hprep, htag⟩, hpolled⟩ :=
    Loop.init_adds registry_size h world env
  obtain ⟨pos', e', hmem', hprep'⟩ := hpolled (Loop.wakeupFdSet_of_init hsuccess)
  have hpending : ∀ p, p ∈ added → p ∈ (init registry_size h world env).pending := by
    intro p hp
    have hwindow : p ∈ (Loop.init registry_size h world env).2 ++
        (Loop.init registry_size h world env).1.ring.window := by
      rw [hadds.window]
      exact List.mem_append_right _ hp
    rcases List.mem_append.mp hwindow with htaken | hwait
    · exact List.mem_append_right _ (List.mem_map.mpr
        ⟨Flight.ofEntry p, List.mem_map_of_mem htaken, rfl⟩)
    · exact List.mem_append_left _ hwait
  exact
    { tracked_init hworld with
      wakeup := ⟨pos, e, env.wakeup_buf, .inl (hpending _ hmem), hprep, htag⟩
      signals := ⟨pos', e', .inl (hpending _ hmem'), hprep'⟩ }

/-- While the loop waits, an entry that is outstanding is one that the kernel works on. -/
theorem flying_of_waits (hw : s.Waits) {pos : ℕ} {e : Sqe} (hout : s.Outstanding pos e) :
    ∃ (n : ℕ) (f : Flight), s.flying[n]? = some f ∧ f.sqe = e := by
  rcases hout with hp | ⟨c, hc, -⟩
  · rw [pending, hw.1, List.nil_append, List.mem_map] at hp
    obtain ⟨f, hf, heq⟩ := hp
    obtain ⟨n, hn⟩ := List.mem_iff_getElem?.mp hf
    exact ⟨n, f, hn, (Prod.mk.inj heq).2⟩
  · rw [hw.2] at hc
    cases hc

/-- The completion of an entry that is ready ends the wait. -/
theorem canWake {n : ℕ} {f : Flight} (hf : s.flying[n]? = some f) (res : ℤ) (data : List UInt8)
    (hmulti : f.sqe.multishot = false) (hzc : f.sqe.zeroCopy = false)
    (hready : s.ready f.sqe = true)
    (hdata : f.sqe.mayDeliver res f.sqe.destination data) : s.CanWake := by
  have hmay : f.mayPost ⟨f.sqe.user_data, res, 0⟩ = true := by
    simp [Flight.mayPost, hmulti, hzc, Cqe.more]
  refine ⟨n, res, 0, f.sqe.destination, data, s.posted n f ⟨f.sqe.user_data, res, 0⟩
    f.sqe.destination data, ?_, by simp [posted]⟩
  simp only [step, hf]
  exact if_pos ⟨hmay, hready, hdata⟩

/-- A watched system wakes up. -/
theorem Watched.wakes (h : Watched s) : Wakes s where
  wakeup := by
    obtain ⟨pos, e, buf, hout, hprep, -⟩ := h.wakeup
    exact ⟨pos, e, hout, by simp [readsWakeup, Sqe.readsFd, hprep]⟩
  signals := by
    obtain ⟨pos, e, hout, hprep⟩ := h.signals
    exact ⟨pos, e, hout, by simp [pollsSignals, Sqe.pollsFd, hprep]⟩
  written hw hcounter := by
    obtain ⟨pos, e, buf, hout, hprep, -⟩ := h.wakeup
    obtain ⟨n, f, hf, rfl⟩ := flying_of_waits hw hout
    refine canWake hf 8 (List.replicate 8 0) ?_ ?_ ?_ ⟨.inr rfl, ?_, ?_⟩
    · simp [Sqe.multishot, hprep, PrepCall.multishot]
    · simp [Sqe.zeroCopy, hprep, PrepCall.zeroCopy]
    · simp [ready, pollsSignals, Sqe.pollsFd, hprep, hcounter]
    · simp [Sqe.destination, hprep, PrepCall.destination, Memory.capacity]
    · simp
  signalled hw hsignal := by
    obtain ⟨pos, e, hout, hprep⟩ := h.signals
    obtain ⟨n, f, hf, rfl⟩ := flying_of_waits hw hout
    refine canWake hf 1 [] ?_ ?_ ?_ ⟨.inr rfl, Nat.zero_le _, ?_⟩
    · simp [Sqe.multishot, hprep, PrepCall.multishot]
    · simp [Sqe.zeroCopy, hprep, PrepCall.zeroCopy]
    · simp [ready, readsWakeup, Sqe.readsFd, hprep, hsignal]
    · simp [Sqe.destination, hprep, PrepCall.destination]

/-- **No wakeup is lost** in a run in which the reader has not met the completions of the watchers
yet. -/
theorem wakes_of_run (registry_size : ℕ) (h : registry_size < 2^31) {world : World}
    (hworld : world.ContextsSound) (env : InitEnv)
    (hsuccess : (Loop.init registry_size h world env).1.err = false)
    (hrun : Run step WatchersUnread (init registry_size h world env) s) : Wakes s :=
  (hrun.invariant (watched_init hworld hsuccess)
    fun _ _ _ ht hok hstep => ht.step hok hstep).wakes

/-- A timer is set and expires, and then the eventfd is written while the loop waits. -/
def firstWakeupRun : List Label :=
  [.call Sample.context (.timer 1 0 0 false) Sample.callEnv, .post 2 (-ETIME) 0 [] [],
    .read Sample.readEnv, .writeToSelf]

/-- The first wakeup ends the wait. -/
theorem wakes_firstWakeup : ∃ s, exec step WatchersUnread (sample 1 (by decide)) firstWakeupRun =
    some s ∧ s.Waits ∧ s.counter = 1 ∧ s.CanWake := by
  obtain ⟨s, hs, hf⟩ := Option.map_eq_some_iff.mp
    (show (exec step WatchersUnread (sample 1 (by decide)) firstWakeupRun).map
      (fun s => (s.loop.ring.window, s.cq, s.counter)) = some ([], [], 1) by decide +kernel)
  simp only [Prod.mk.injEq] at hf
  obtain ⟨hwindow, hcq, hcounter⟩ := hf
  have hwakes := wakes_of_run 1 (by decide) Sample.world_sound Sample.initEnv (by decide +kernel)
    (.of_exec hs)
  exact ⟨s, hs, ⟨hwindow, hcq⟩, hcounter, hwakes.written ⟨hwindow, hcq⟩ (by omega)⟩

/-- The eventfd is written, its completion is read, and it is written again. -/
def secondWakeupRun : List Label := wakeupRun ++ [.read Sample.readEnv, .writeToSelf]

/-- Nothing reads the eventfd any more: the second wakeup is lost. -/
theorem secondWakeup_not_wakes : ∃ s,
    Run step anyStep (init 1 (by decide) Sample.world Sample.initEnv) s ∧
    s.Waits ∧ s.counter = 1 ∧ ¬ Wakes s := by
  obtain ⟨s, hs, hf⟩ := Option.map_eq_some_iff.mp
    (show (exec step anyStep (sample 1 (by decide)) secondWakeupRun).map
      (fun s => (s.loop.ring.window, s.cq, s.counter, s.pending.any fun p => s.readsWakeup p.2)) =
        some ([], [], 1, false) by decide +kernel)
  simp only [Prod.mk.injEq] at hf
  obtain ⟨hwindow, hcq, hcounter, hnone⟩ := hf
  refine ⟨s, .of_exec hs, ⟨hwindow, hcq⟩, hcounter, fun hwakes => ?_⟩
  obtain ⟨pos, e, hp | ⟨c, hc, -⟩, hreads⟩ := hwakes.wakeup
  · rw [List.any_eq_false] at hnone
    exact hnone _ hp hreads
  · rw [hcq] at hc
    cases hc

end System

end Uringio
