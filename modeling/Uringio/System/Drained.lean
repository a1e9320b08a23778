import Uringio.Lib.Progress
import Uringio.System.Plain

/-!
# Requests that are left alone finish

No request of the plain mode gets lost or stuck. From any state that a plain run reaches, let the
kernel take entries and answer requests, and let the reader read, and make no more calls: each such
step brings some request nearer to its end (`load_step`), so there are only so many of them; and
when none is possible any more, nothing is in flight, every slot is free, and the future of every
request that was ever made is done (`quiescent_of_stuck`).

What stands in the way is excluded by `Drainable`: a future that was cancelled under a request, a
completion of something else that is mistaken for one, and a request that waits for the loop's own
descriptors.
-/

namespace Uringio

namespace System

open Transition (Run Steps Stuck Ranked exec)

variable {s s' : System} {l : Label} {c : Completion} {cq : List Completion} {renv : ReadEnv}
  {k : ℕ}

/-- The steps that only finish what was begun: the kernel takes entries, it answers a request, and
the reader reads. -/
def Drain (s : System) : Label → Prop
  | .submit r => 0 < r ∧ s.loop.ring.window ≠ []
  | .post n _ _ _ _ => ∃ f, s.flying[n]? = some f ∧ (s.owner f.pos).isSome = true
  | .read renv => renv.gcNew = true
  | _ => False

/-- Nothing keeps the requests from being finished. -/
structure Drainable (s : System) : Prop where
  /-- The futures of the requests in flight are pending. -/
  pending : ∀ k, s.InFlight k → s.loop.futures k = .pending
  /-- A completion of no request names no slot in use. -/
  foreign : ∀ c ∈ s.cq, s.owner c.pos = none → ¬ s.loop.registry.Live c.cqe.index
  /-- The entry of a request is not mistaken for one of the initialization. -/
  ready : ∀ pos e k, s.Outstanding pos e → s.owner pos = some k →
    s.readsWakeup e = false ∧ s.pollsSignals e = false

/-- The entries that have a completion that was not read. -/
def outstanding (s : System) : List (ℕ × Sqe) := s.pending ++ s.cq.map fun c => (c.pos, c.sqe)

/-- The entries that are outstanding are those of the list. -/
theorem outstanding_mem {pos : ℕ} {e : Sqe} : (pos, e) ∈ s.outstanding ↔ s.Outstanding pos e := by
  simp [outstanding, Outstanding]

instance (s : System) : Decidable (Drainable s) :=
  decidable_of_iff
    ((∀ x ∈ s.outstanding, ∀ k ∈ s.owner x.1, s.loop.futures k = .pending ∧
        s.readsWakeup x.2 = false ∧ s.pollsSignals x.2 = false) ∧
      ∀ c ∈ s.cq, s.owner c.pos = none → ¬ s.loop.registry.Live c.cqe.index)
    ⟨fun h => ⟨fun k ⟨pos, e, hout, hk⟩ => (h.1 (pos, e) (outstanding_mem.mpr hout) k hk).1, h.2,
        fun pos e k hout hk => (h.1 (pos, e) (outstanding_mem.mpr hout) k hk).2⟩,
      fun h => ⟨fun x hx k hk =>
        ⟨h.pending k ⟨x.1, x.2, outstanding_mem.mp hx, hk⟩,
          h.ready x.1 x.2 k (outstanding_mem.mp hx) hk⟩, h.foreign⟩⟩

/-- All is done: nothing is in flight, no completion is left, no slot is in use, and the futures of
all requests are done. -/
structure Quiescent (s : System) : Prop where
  /-- No request is in flight. -/
  inFlight : ∀ k, ¬ s.InFlight k
  /-- The completion queue is empty. -/
  cq : s.cq = []
  /-- Every slot is free. -/
  live : ∀ i, ¬ s.loop.registry.Live i
  /-- The future of every request is done. -/
  futures : ∀ k, (s.registered k).isSome → ∃ o, s.loop.futures k = .done o

/-- How much is left to do: an entry is to be taken, answered and read. -/
def load (s : System) : ℕ := 3 * s.loop.ring.window.length + 2 * s.flying.length + s.cq.length

/-! ## A step -/

/-- The steps are steps of the plain mode. -/
theorem Drainable.plain (h : Drainable s) (hok : Drain s l) : Plain s l := by
  cases l with
  | read renv =>
    refine ⟨hok, fun c hc => ⟨fun k hk => ?_, h.foreign c (List.mem_of_mem_head? hc)⟩⟩
    exact h.pending k ⟨c.pos, c.sqe, .inr ⟨c, List.mem_of_mem_head? hc, rfl, rfl⟩, hk⟩
  | submit | post => trivial
  | call | initProvidedMode | closeProvidedMode | returned | writeToSelf | signal | cancel =>
    exact hok.elim

/-- What a step that finishes something leaves: no request is added, and none of those in flight is
touched. -/
structure Drains (s s' : System) : Prop where
  /-- The owners of the entries are the same. -/
  owner : s'.owner = s.owner
  /-- The requests are the same. -/
  registered : s'.registered = s.registered
  /-- What is in flight was so before, with its future as it was. -/
  inFlight : ∀ k, s'.InFlight k → s.InFlight k ∧ s'.loop.futures k = s.loop.futures k
  /-- No slot is filled. -/
  live : ∀ i, s'.loop.registry.Live i → s.loop.registry.Live i
  /-- A new completion is that of a request. -/
  cq : ∀ c ∈ s'.cq, c ∈ s.cq ∨ (s.owner c.pos).isSome = true
  /-- The eventfd is the same. -/
  wakeup_fd : s'.loop.wakeup_fd = s.loop.wakeup_fd
  /-- The signal pipe is the same. -/
  pipe_fd : s'.pipe_fd = s.pipe_fd
  /-- Something was finished. -/
  load : s'.load < s.load

/-- What is in flight after a step that leaves the owners and the futures was so before. -/
theorem inFlight_of_step (h : Tracked s) (hstep : step s l = some s') (howner : s'.owner = s.owner)
    (hfutures : s'.loop.futures = s.loop.futures) (hk : s'.InFlight k) :
    s.InFlight k ∧ s'.loop.futures k = s.loop.futures k := by
  obtain ⟨pos, e, hout, hpos⟩ := hk
  rw [howner] at hpos
  exact ⟨⟨pos, e, outstanding_of_step h hstep hpos hout, hpos⟩, congrFun hfutures k⟩

/-- The kernel takes entries. -/
theorem drains_submit {r : ℤ} (h : PlainInv s) (hok : Drain s (.submit r))
    (hstep : step s (.submit r) = some s') : Drains s s' := by
  have hflight := fun howner hfutures k => inFlight_of_step
      (k := k) h.toTracked hstep howner hfutures
  obtain ⟨hr, hne⟩ := hok
  have hpos := List.length_pos_of_ne_nil hne
  cases hstep
  refine ⟨rfl, rfl, hflight rfl rfl, fun _ => id, fun c hc => .inl hc, rfl, rfl, ?_⟩
  -- Each entry that is taken has one step less to go, and one at least is taken.
  simp only [load, submitted, take, submit, if_neg (not_lt.mpr hr.le), RingBuffer.window_consume,
    List.length_append, List.length_map, List.length_drop, List.length_take]
  omega

/-- The kernel answers a request. -/
theorem drains_post {n : ℕ} {res : ℤ} {flags : ℕ} {into : List Memory.Region} {data : List UInt8}
    (h : PlainInv s) (hok : Drain s (.post n res flags into data))
    (hstep : step s (.post n res flags into data) = some s') : Drains s s' := by
  have hflight := fun howner hfutures k => inFlight_of_step
      (k := k) h.toTracked hstep howner hfutures
  obtain ⟨f, hf, howner⟩ := hok
  obtain ⟨k, hk⟩ := Option.isSome_iff_exists.mp howner
  obtain ⟨f', hf', hmay, -, hdata, rfl⟩ := post_step hstep
  rw [hf] at hf'
  cases hf'
  refine ⟨rfl, rfl, hflight rfl rfl, fun _ => id, fun c hc => ?_, rfl, rfl, ?_⟩
  · rcases List.mem_append.mp hc with hold | hnew
    · exact .inl hold
    · rw [List.mem_singleton.mp hnew]
      exact .inr howner
  · -- The completion is the last one of its entry.
    have hmore := (h.final_posted hf hmay hdata hk).1
    obtain ⟨hn, -⟩ := List.getElem?_eq_some_iff.mp hf
    have hlen := List.length_eraseIdx_add_one hn
    simp only [load, posted, hmore, Bool.false_eq_true, if_false, List.length_append,
      List.length_singleton]
    omega

/-- The reader reads. -/
theorem drains_read (h : PlainInv s) (hd : Drainable s) (hok : Drain s (.read renv))
    (hstep : step s (.read renv) = some s') : Drains s s' := by
  have hplain := hd.plain hok
  obtain ⟨c, cq, r, hcq, hread, -⟩ := read_step hstep
  have hlength : s.cq.length = cq.length + 1 := by rw [hcq, List.length_cons]
  have hrest : ∀ d ∈ cq, d ∈ s.cq := fun d hd => by
    rw [hcq]
    exact List.mem_cons_of_mem _ hd
  cases hk : s.owner c.pos with
  | none =>
    have hundone := undone_dropped h hplain hstep hcq hk
    have hdead : ¬ s.loop.registry.Live c.cqe.index :=
      hd.foreign c (by rw [hcq]; exact List.mem_cons_self) hk
    have hread : readCqe s.loop renv c.cqe = .ok ⟨s.loop, none, [], false⟩ :=
      readCqe_of_not_live hdead
    have hstep' := step_of_read hcq hread
    rw [hstep] at hstep'
    cases hstep'
    refine ⟨hundone.owner, hundone.registered, fun k hflies => ⟨hundone.inFlight.mp hflies, rfl⟩,
      fun _ => id, fun d hd => .inl (hrest d hd), rfl, rfl, ?_⟩
    simp only [load, handled, take, List.map_nil, List.append_nil]
    omega
  | some k =>
    obtain ⟨reg, r', -, hstep', hanswers, hres⟩ := h.resolves hplain hcq hk
    rw [hstep] at hstep'
    cases hstep'
    have howner := handled_owner (c := c) hanswers.ring cq
    refine ⟨howner, rfl, fun j hj => ?_, fun i hlive => ?_, fun d hd => .inl (hrest d hd),
      hanswers.finished.frame.wakeup_fd, rfl, ?_⟩
    · obtain ⟨hold, hne⟩ := (h.inFlight_read hstep hcq hk howner).mp hj
      refine ⟨hold, ?_⟩
      rw [hres.futures, Function.update_of_ne hne]
    · obtain ⟨j, hj⟩ := Loop.live_iff_serves.mp hlive
      exact Loop.live_iff_serves.mpr ⟨j, ((Loop.serves_finished hanswers.finished).mp hj).2⟩
    · simp only [load, handled, take, hanswers.ring, hanswers.consumed, List.map_nil,
        List.append_nil]
      omega

/-- **Every step finishes something.** -/
theorem drains_step (h : PlainInv s) (hd : Drainable s) (hok : Drain s l)
    (hstep : step s l = some s') : Drains s s' := by
  cases l with
  | submit r => exact drains_submit h hok hstep
  | post n res flags into data => exact drains_post h hok hstep
  | read renv => exact drains_read h hd hok hstep
  | call | initProvidedMode | closeProvidedMode | returned | writeToSelf | signal | cancel =>
    exact hok.elim

/-- Nothing comes in the way of the requests. -/
theorem Drainable.step (hd : Drainable s) (h : Tracked s) (hdrains : Drains s s')
    (hstep : System.step s l = some s') : Drainable s' where
  pending k hk := by
    obtain ⟨hold, hfuture⟩ := hdrains.inFlight k hk
    rw [hfuture]
    exact hd.pending k hold
  foreign c hc hnone hlive := by
    rw [hdrains.owner] at hnone
    rcases hdrains.cq c hc with hold | hsome
    · exact hd.foreign c hold hnone (hdrains.live _ hlive)
    · rw [hnone] at hsome
      cases hsome
  ready pos e k hout hk := by
    rw [hdrains.owner] at hk
    have hready := hd.ready pos e k (outstanding_of_step h hstep hk hout) hk
    unfold readsWakeup pollsSignals at hready ⊢
    rw [hdrains.wakeup_fd, hdrains.pipe_fd]
    exact hready

/-- The invariant of a drain from a state in which the requests `made` were made. -/
structure DrainInv (made : FutureRef → Option Registered) (s : System) : Prop extends
    PlainInv s, Drainable s where
  /-- No request was made meanwhile. -/
  made : s.registered = made

/-- **A drain is ranked by its load.** -/
theorem ranked_drain (made : FutureRef → Option Registered) :
    Ranked step Drain (DrainInv made) load := by
  intro s l s' h hok hstep
  have hdrains := drains_step h.toPlainInv h.toDrainable hok hstep
  refine ⟨?_, hdrains.load⟩
  exact
    { h.toPlainInv.step (h.toDrainable.plain hok) hstep,
      h.toDrainable.step h.toTracked hdrains hstep with
      made := hdrains.registered.trans h.made }

/-! ## Where no step is possible -/

/-- An answer that the kernel can always give: an error. -/
theorem post_enabled (h : PlainInv s) (hd : Drainable s) {n : ℕ} {f : Flight}
    (hf : s.flying[n]? = some f) (hk : s.owner f.pos = some k) :
    step s (.post n (-1) 0 f.sqe.destination []) ≠ none := by
  have hout : s.Outstanding f.pos f.sqe := by
    refine .inl (List.mem_append_right _ ?_)
    exact List.mem_map_of_mem (List.mem_of_getElem? hf)
  obtain ⟨reg, -, hhold⟩ := h.holding _ _ _ hout hk
  obtain ⟨hwakeup, hsignals⟩ := hd.ready _ _ _ hout hk
  have hmay : f.mayPost ⟨f.sqe.user_data, -1, 0⟩ = true := by
    simp [Flight.mayPost, hhold.multishot, hhold.zeroCopy, Cqe.more]
  have hready : s.ready f.sqe = true := by simp [ready, hwakeup, hsignals]
  have hdata : f.sqe.mayDeliver (-1) f.sqe.destination [] := by simp [Sqe.mayDeliver]
  simp only [step, hf, hmay, hready, hdata]
  simp

/-- **A drain gets stuck only when all is done.** -/
theorem quiescent_of_stuck (h : PlainInv s) (hd : Drainable s) (hstuck : Stuck step Drain s) :
    Quiescent s := by
  have hwindow : s.loop.ring.window = [] := by
    by_contra hne
    cases hstuck (.submit 1) ⟨by decide, hne⟩
  have hflying : ∀ f ∈ s.flying, s.owner f.pos = none := by
    intro f hmem
    by_contra hsome
    obtain ⟨k, hk⟩ := Option.ne_none_iff_exists'.mp hsome
    obtain ⟨n, hf⟩ := List.mem_iff_getElem?.mp hmem
    exact post_enabled h hd hf hk (hstuck _ ⟨f, hf, by rw [hk]; rfl⟩)
  have hcq : s.cq = [] := by
    cases hcq : s.cq with
    | nil => rfl
    | cons c cq =>
      let renv : ReadEnv := ⟨true, fun _ => none, 0⟩
      have hplain : Plain s (.read renv) := hd.plain (l := .read renv) rfl
      have hnone : step s (.read renv) = none := hstuck (.read renv) rfl
      cases hk : s.owner c.pos with
      | none =>
        have hdead := hd.foreign c (by rw [hcq]; exact List.mem_cons_self) hk
        rw [step_of_read hcq (readCqe_of_not_live hdead)] at hnone
        cases hnone
      | some k =>
        obtain ⟨reg, r, -, hstep, -⟩ := h.resolves hplain hcq hk
        rw [hstep] at hnone
        cases hnone
  have hinFlight : ∀ k, ¬ s.InFlight k := by
    rintro k ⟨pos, e, hout, hk⟩
    rcases hout with hpending | ⟨c, hc, -⟩
    · rw [pending, hwindow, List.nil_append] at hpending
      obtain ⟨f, hmem, hf⟩ := List.mem_map.mp hpending
      cases hf
      rw [hflying f hmem] at hk
      cases hk
    · rw [hcq] at hc
      cases hc
  refine ⟨hinFlight, hcq, fun i hlive => ?_, fun k hk => ?_⟩
  · obtain ⟨k, hserves⟩ := Loop.live_iff_serves.mp hlive
    obtain ⟨pos, e, hout, hk, -⟩ := h.serving i k hserves
    exact hinFlight k ⟨pos, e, hout, hk⟩
  · obtain ⟨d, hmem, hdk⟩ :=
      List.mem_map.mp (((h.accounted k).mp hk).resolve_left (hinFlight k))
    exact ⟨d.outcome, by rw [← hdk]; exact h.resolved d hmem⟩

/-! ## The law -/

/-- **Requests that are left alone finish.** From every state of a plain run in which nothing is in
the way, the steps that finish what was begun come to an end after a number of steps that the load
bounds, and wherever they end, all requests that were made are done. -/
theorem drained_of_run (registry_size : ℕ) (h : registry_size < 2^31) {world : World}
    (hworld : world.ContextsSound) (env : InitEnv)
    (hsuccess : (Loop.init registry_size h world env).1.err = false)
    (hrun : Run step Plain (init registry_size h world env) s) (hd : Drainable s) :
    (∀ n t, Steps step Drain n s t → n ≤ s.load) ∧
      (∃ t, Run step Drain s t ∧ Stuck step Drain t) ∧
      ∀ t, Run step Drain s t → Stuck step Drain t →
        Quiescent t ∧ ∀ k, (s.registered k).isSome → ∃ o, t.loop.futures k = .done o := by
  have hplain : PlainInv s := hrun.invariant (plainInv_init hworld hsuccess)
    fun _ _ _ ht hok hstep => ht.step hok hstep
  have hs : DrainInv s.registered s := { hplain, hd with made := rfl }
  have hranked := ranked_drain s.registered
  refine ⟨fun n t hsteps => ?_, hranked.exists_stuck hs, fun t hdrain hstuck => ?_⟩
  · have := (hranked.bounded hsteps hs).2
    omega
  · have ht := hranked.kept hdrain hs
    have hquiescent := quiescent_of_stuck ht.toPlainInv ht.toDrainable hstuck
    exact ⟨hquiescent, fun k hk => hquiescent.futures k (by rw [ht.made]; exact hk)⟩

/-- A socket was made, and two receives were submitted: both are done in the end. -/
theorem drained_twoReceives : ∃ s t,
    Run step Plain (init 2 CInt.two_lt Sample.world Sample.initEnv) s ∧
      Run step Drain s t ∧ Quiescent t ∧ (∃ o, t.loop.futures 1 = .done o) ∧
      ∃ o, t.loop.futures 2 = .done o := by
  obtain ⟨s, hs, hf⟩ := Option.map_eq_some_iff.mp
    (show (exec step Plain (sample 2 CInt.two_lt) (twoReceives ⟨3000, 4⟩ ⟨3004, 4⟩)).map
      (fun s => (decide (Drainable s), (s.registered 1).isSome, (s.registered 2).isSome)) =
        some (true, true, true) by decide +kernel)
  simp only [Prod.mk.injEq, decide_eq_true_eq] at hf
  obtain ⟨hdrainable, hfirst, hsecond⟩ := hf
  have hrun := Run.of_exec hs
  obtain ⟨-, ⟨t, hdrain, hstuck⟩, hall⟩ := drained_of_run 2 CInt.two_lt Sample.world_sound
    Sample.initEnv (by decide +kernel) hrun hdrainable
  obtain ⟨hquiescent, hdone⟩ := hall t hdrain hstuck
  exact ⟨s, t, hrun, hdrain, hquiescent, hdone 1 hfirst, hdone 2 hsecond⟩

end System

end Uringio
