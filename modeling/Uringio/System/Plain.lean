import Uringio.Loop.Plain
import Uringio.System.Ownership

/-!
# The plain mode

Requests with buffers of their own, in one-shot mode and without zero-copy transfer, each with one
completion: every slot in use is that of a request in flight, and every request is resolved once,
with the value that its operation prescribes (`exactlyOnce_of_run`).
-/

namespace Uringio

namespace System

open Transition (Run anyStep exec)
open Loop (Holding)

variable {s s' : System} {l : Label} {c : Completion} {cq : List Completion} {renv : ReadEnv}
  {k : ℕ}

/-- Requests are made in the plain mode, and their allocations succeed. A completion that is read
is one of a request whose future is pending, or names no slot in use. -/
def Plain (s : System) : Label → Prop
  | .call ctx _ env => ctx.stream = .ONESHOT ∧ ctx.transfer_mode = .NORMAL_TRANSFER ∧
      (∀ n ∈ ctx.buffer_payload, (s.loop.payloads (.context n)).mode = .NORMAL_BUF) ∧
      env.alloc 0 ≠ 0
  | .read renv => renv.gcNew = true ∧ ∀ c ∈ s.cq.head?,
      (∀ k ∈ s.owner c.pos, s.loop.futures k = .pending) ∧
        (s.owner c.pos = none → ¬ s.loop.registry.Live c.cqe.index)
  | _ => True

instance (s : System) : (l : Label) → Decidable (Plain s l)
  | .call ctx _ _ => inferInstanceAs (Decidable (_ ∧ _ ∧ (∀ n ∈ ctx.buffer_payload, _) ∧ _))
  | .read _ => inferInstanceAs (Decidable (_ ∧ ∀ c ∈ s.cq.head?, (∀ k ∈ s.owner c.pos, _) ∧ _))
  | .initProvidedMode .. | .closeProvidedMode .. | .post .. | .submit .. | .writeToSelf
  | .returned | .signal | .cancel .. => inferInstanceAs (Decidable True)

/-- The request of call number `k` has an entry whose completion was not read. -/
def InFlight (s : System) (k : ℕ) : Prop := ∃ pos e, s.Outstanding pos e ∧ s.owner pos = some k

/-- The outcome that the operation of a request prescribes for a completion of it. -/
def prescribed (s : System) (reg : Registered) (k : ℕ) (c : Completion) (bytes : List UInt8) :
    Outcome :=
  reg.op.answer k (s.loop.domainOf k reg.op) c.cqe.res bytes

/-- A step resolved the future of call number `k` with the outcome `o` of the completion `c`, freed
the slot that `c` names, and left the other slots and futures. -/
structure Resolves (s : System) (k : ℕ) (c : Completion) (o : Outcome) (s' : System) : Prop where
  /-- The delivery is noted. -/
  deliveries : s'.deliveries = s.deliveries ++ [⟨c, k, o⟩]
  /-- The future is done with the outcome. -/
  futures : s'.loop.futures = Function.update s.loop.futures k (.done o)
  /-- The slot is free. -/
  freed : ¬ s'.loop.registry.Live c.cqe.index
  /-- The other slots are as they were. -/
  slots : ∀ i, i ≠ c.cqe.index → registryGet s'.loop.registry i = registryGet s.loop.registry i

/-- Every slot in use is that of a request in flight, and every request is resolved exactly once,
with its own completion and the prescribed value. -/
structure ExactlyOnce (s : System) : Prop where
  /-- A slot in use is that of a request in flight. -/
  live : ∀ i k, s.loop.Serves i k ↔
    ∃ pos e, s.Outstanding pos e ∧ s.owner pos = some k ∧ CInt.toInt e.user_data = i
  /-- Every request is in flight or was delivered. -/
  accounted : ∀ k, (s.registered k).isSome ↔
    s.InFlight k ∨ k ∈ s.deliveries.map Delivery.future
  /-- None was delivered twice, and none that was delivered is in flight. -/
  once : (s.deliveries.map Delivery.future).Nodup ∧ ∀ d ∈ s.deliveries, ¬ s.InFlight d.future
  /-- Each delivery was to the future of the request, which is done with it. -/
  resolved : ∀ d ∈ s.deliveries, s.owner d.completion.pos = some d.future ∧
    s.loop.futures d.future = .done d.outcome
  /-- What the next completion of a request does, if it may be read. -/
  next : ∀ c cq k renv, s.cq = c :: cq → s.owner c.pos = some k → Plain s (.read renv) →
    ∃ reg s', s.registered k = some reg ∧ step s (.read renv) = some s' ∧
      Resolves s k c (s.prescribed reg k c
        (Memory.gather s.loop.mem c.sqe.destination c.cqe.res.toNat)) s'

/-- A completion that is the only one of its request, and reports no more bytes than the request's
buffers hold. -/
def Final (c : Completion) : Prop :=
  c.cqe.more = false ∧
    (c.cqe.res.toNat ≤ Memory.capacity c.sqe.destination ∨ c.sqe.destination = [])

/-- The invariant. -/
structure PlainInv (s : System) : Prop extends Owns s where
  /-- No exception is pending. -/
  err : s.loop.err = false
  /-- The slot and the entry of an outstanding request hold what the call asked for. -/
  holding : ∀ pos e k, s.Outstanding pos e → s.owner pos = some k →
    ∃ reg, s.registered k = some reg ∧ s.loop.Holding k reg.op reg.slot e
  /-- A slot in use has its entry outstanding. -/
  serving : ∀ i k, s.loop.Serves i k →
    ∃ pos e, s.Outstanding pos e ∧ s.owner pos = some k ∧ CInt.toInt e.user_data = i
  /-- The completion of a request is the only one of its entry. -/
  final : ∀ c ∈ s.cq, ∀ k, s.owner c.pos = some k → Final c
  /-- Every request is in flight or was delivered. -/
  accounted : ∀ k, (s.registered k).isSome ↔
    s.InFlight k ∨ k ∈ s.deliveries.map Delivery.future
  /-- None was delivered twice. -/
  once : (s.deliveries.map Delivery.future).Nodup
  /-- None that was delivered is in flight. -/
  ended : ∀ d ∈ s.deliveries, ¬ s.InFlight d.future
  /-- What was delivered is what its future is done with. -/
  resolved : ∀ d ∈ s.deliveries, s.loop.futures d.future = .done d.outcome

/-! ## Steps that answer no request -/

/-- A step that made no request and answered none. -/
structure Undone (s s' : System) : Prop where
  /-- The owners of the entries are the same. -/
  owner : s'.owner = s.owner
  /-- The requests are the same. -/
  registered : s'.registered = s.registered
  /-- Nothing was delivered. -/
  deliveries : s'.deliveries = s.deliveries
  /-- The entries of requests are outstanding as before. -/
  outstanding : ∀ pos e k, s.owner pos = some k → (s'.Outstanding pos e ↔ s.Outstanding pos e)
  /-- The requests hold what they held. -/
  holding : ∀ k op slot e, k < s.loop.calls → s.loop.Holding k op slot e →
    s'.loop.Holding k op slot e
  /-- No slot is filled. -/
  serves : ∀ i k, s'.loop.Serves i k → s.loop.Serves i k
  /-- A future that was done is as it was. -/
  futures : ∀ k < s.loop.calls, s.loop.futures k ≠ .pending →
    s'.loop.futures k = s.loop.futures k
  /-- What is pending is as it was. -/
  err : s'.loop.err = s.loop.err
  /-- A new completion of a request is the only one of its entry. -/
  cq : ∀ c ∈ s'.cq, ∀ k, s.owner c.pos = some k → c ∈ s.cq ∨ Final c

/-- A step that is undone leaves the requests in flight. -/
theorem Undone.inFlight (hu : Undone s s') : s'.InFlight k ↔ s.InFlight k := by
  constructor
  · rintro ⟨pos, e, hout, hk⟩
    rw [hu.owner] at hk
    exact ⟨pos, e, (hu.outstanding pos e k hk).mp hout, hk⟩
  · rintro ⟨pos, e, hout, hk⟩
    exact ⟨pos, e, (hu.outstanding pos e k hk).mpr hout, by rw [hu.owner]; exact hk⟩

/-- The call of a delivery was made. -/
theorem Owns.delivered_lt (h : Owns s) {d : Delivery} (hd : d ∈ s.deliveries) :
    d.future < s.loop.calls := (h.owned _ _ (h.routed d hd)).2

/-- A step that is undone keeps the plain invariant. -/
theorem PlainInv.undone (h : PlainInv s) (hown : Owns s') (hu : Undone s s') : PlainInv s' := {
  hown with
    err := hu.err.trans h.err
    holding := fun pos e k hout hk => by
      rw [hu.owner] at hk
      obtain ⟨reg, hreg, hhold⟩ := h.holding pos e k ((hu.outstanding pos e k hk).mp hout) hk
      rw [hu.registered]
      exact ⟨reg, hreg, hu.holding k _ _ e (h.owned pos k hk).2 hhold⟩
    serving := fun i k hserves => by
      obtain ⟨pos, e, hout, hk, hi⟩ := h.serving i k (hu.serves i k hserves)
      exact ⟨pos, e, (hu.outstanding pos e k hk).mpr hout, by rw [hu.owner]; exact hk, hi⟩
    final := fun c hc k hk => by
      rw [hu.owner] at hk
      exact (hu.cq c hc k hk).elim (fun hold => h.final c hold k hk) id
    accounted := fun k => by
      rw [hu.registered, hu.deliveries, hu.inFlight]
      exact h.accounted k
    once := by rw [hu.deliveries]; exact h.once
    ended := fun d hd => by
      rw [hu.deliveries] at hd
      rw [hu.inFlight]
      exact h.ended d hd
    resolved := fun d hd => by
      rw [hu.deliveries] at hd
      have hdone := h.resolved d hd
      rw [hu.futures d.future (h.delivered_lt hd) (by rw [hdone]; simp), hdone] }

/-- A step whose label is not `read` takes no completion. -/
theorem unread_of_ne (hl : ∀ renv, l ≠ .read renv) {pos : ℕ} {e : Sqe} :
    ∀ renv, l = .read renv → ∀ c ∈ s.cq.head?, ¬ (c.pos = pos ∧ c.sqe = e) :=
  fun renv heq => absurd heq (hl renv)

/-- What is outstanding for requests, when the step did not read a completion of theirs. -/
theorem outstanding_iff (ht : Tracked s) (hstep : step s l = some s') {pos k : ℕ} {e : Sqe}
    (howner : s.owner pos = some k)
    (hunread : ∀ renv, l = .read renv → ∀ c ∈ s.cq.head?, ¬ (c.pos = pos ∧ c.sqe = e)) :
    s'.Outstanding pos e ↔ s.Outstanding pos e :=
  ⟨outstanding_of_step ht hstep howner, fun hout => outstanding_step ht.sound hstep hout hunread⟩

/-- A call that raised an exception. -/
theorem undone_rejected {ctx : ExecutionContext} {op : Op} {env : CallEnv} {c : Called}
    (h : PlainInv s) (hstep : step s (.call ctx op env) = some (s.called ctx op env c))
    (hrej : Rejected s.loop c) (howner : (s.called ctx op env c).owner = s.owner)
    (hregistered : (s.called ctx op env c).registered = s.registered) :
    Undone s (s.called ctx op env c) where
  owner := howner
  registered := hregistered
  deliveries := called_deliveries s ctx op env c
  outstanding pos e k hk := outstanding_iff h.toTracked hstep hk (unread_of_ne (by simp))
  holding k op slot e hk hhold := by
    rw [called_loop]
    exact hhold.frame hrej.frame hk.ne'
  serves i k hserves := by
    rw [called_loop] at hserves
    have hlive := hrej.live i (Loop.live_iff_serves.mpr ⟨k, hserves⟩)
    exact (Loop.serves_congr (hrej.slots i hlive)).mp hserves
  futures k hk _ := by
    rw [called_loop]
    exact hrej.frame.futures k hk.ne
  err := by rw [called_loop]; exact hrej.err
  cq c hc k _ := by
    rw [called_cq] at hc
    exact .inl hc

/-- A step outside of calls and the reader. -/
theorem undone_quiet (h : PlainInv s) (hstep : step s l = some s') (hl : ∀ renv, l ≠ .read renv)
    (howner : s'.owner = s.owner) (hregistered : s'.registered = s.registered)
    (hdeliveries : s'.deliveries = s.deliveries) (hregistry : s'.loop.registry = s.loop.registry)
    (hpay : s'.loop.payloads = s.loop.payloads) (hcalls : s'.loop.calls = s.loop.calls)
    (haccepted : s'.loop.accepted = s.loop.accepted) (herr : s'.loop.err = s.loop.err)
    (hfutures : ∀ k, s.loop.futures k ≠ .pending → s'.loop.futures k = s.loop.futures k)
    (hcq : ∀ c ∈ s'.cq, ∀ k, s.owner c.pos = some k → c ∈ s.cq ∨ Final c) : Undone s s' where
  owner := howner
  registered := hregistered
  deliveries := hdeliveries
  outstanding pos e k hk := outstanding_iff h.toTracked hstep hk (unread_of_ne hl)
  holding k op slot e _ hhold := hhold.congr hpay hcalls haccepted
  serves i k hserves := (Loop.serves_congr (by rw [hregistry])).mp hserves
  futures k _ hk := hfutures k hk
  err := herr
  cq := hcq

/-- The completion that the kernel posts for a request. -/
theorem PlainInv.final_posted {n : ℕ} {f : Flight} {res : ℤ} {flags : ℕ}
    {into : List Memory.Region} {data : List UInt8} (h : PlainInv s) (hf : s.flying[n]? = some f)
    (hmay : f.mayPost ⟨f.sqe.user_data, res, flags⟩ = true)
    (hdata : f.sqe.mayDeliver res into data) (hk : s.owner f.pos = some k) :
    Final ⟨f.pos, f.sqe, ⟨f.sqe.user_data, res, flags⟩, data⟩ := by
  have hout : s.Outstanding f.pos f.sqe := .inl (posts_posted hf ⟨_, res, flags⟩ rfl into data).mem
  obtain ⟨reg, -, hhold⟩ := h.holding _ _ _ hout hk
  refine ⟨by simpa [Flight.mayPost, hhold.multishot, hhold.zeroCopy] using hmay, ?_⟩
  obtain ⟨hinto, hcap, hres⟩ := hdata
  obtain rfl := hinto.resolve_left (by simp [hhold.selectsBuffer])
  change res.toNat ≤ Memory.capacity f.sqe.destination ∨ f.sqe.destination = []
  split at hres
  · exact .inl (by omega)
  · rcases hres with hnil | rfl
    · exact .inr hnil
    · exact .inl (by simpa using hcap)

/-! ## The completion of a request -/

/-- The completion of a request is read. -/
theorem PlainInv.answers (h : PlainInv s) (hok : Plain s (.read renv)) (hcq : s.cq = c :: cq)
    (hk : s.owner c.pos = some k) :
    ∃ reg r, s.registered k = some reg ∧ readCqe s.loop renv c.cqe = .ok r ∧
      reg.slot.future = some k ∧ registryGet s.loop.registry c.cqe.index = some reg.slot ∧
      s.loop.Holding k reg.op reg.slot c.sqe ∧
      s.loop.Answers k reg.slot c.cqe (s.prescribed reg k c
        (Memory.gather s.loop.mem c.sqe.destination c.cqe.res.toNat)) r := by
  have hc : c ∈ s.cq := by
    rw [hcq]
    exact List.mem_cons_self
  have hout : s.Outstanding c.pos c.sqe := .inr ⟨c, hc, rfl, rfl⟩
  obtain ⟨reg, hreg, hfut, hget⟩ := h.held _ _ k hout hk
  obtain ⟨reg', hreg', hhold⟩ := h.holding _ _ k hout hk
  rw [hreg] at hreg'
  cases hreg'
  rw [← h.tag c hc] at hget
  obtain ⟨hgc, hguard⟩ := hok
  have hpend := (hguard c (by rw [hcq]; rfl)).1 k hk
  obtain ⟨r, hread, hanswers⟩ := Loop.readCqe_answers h.sound hget hfut hhold h.err hpend hgc
    (h.final c hc k hk).2
  exact ⟨reg, r, hreg, hread, hfut, hget, hhold, hanswers⟩

/-- The queue of a request that is answered stays as it is, and so do the owners. -/
theorem handled_owner {r : Read} (hring : r.loop.ring = s.loop.ring) (cq : List Completion) :
    ({ s with cq := cq }.handled c r).owner = s.owner :=
  if_pos (.inl (congrArg RingBuffer.tail hring))

/-- A completion of a request is its last one. -/
theorem PlainInv.lastOnly (h : PlainInv s) (hok : Plain s l) : LastOnly s l := by
  cases l with
  | read renv =>
    intro c hc
    obtain ⟨cq, hcq⟩ : ∃ cq, s.cq = c :: cq := List.head?_eq_some_iff.mp hc
    right
    split
    · next hsome =>
      obtain ⟨k, hk⟩ := Option.isSome_iff_exists.mp hsome
      have hmem : c ∈ s.cq := List.mem_of_mem_head? hc
      refine ⟨(h.final c hmem k hk).1, ?_⟩
      obtain ⟨reg, r, -, -, -, hget, hhold, -⟩ := h.answers hok hcq hk
      rintro ⟨-, slot, hslot, hresub⟩
      have heq : some slot = some reg.slot := Eq.trans (Eq.symm hslot) hget
      cases heq
      simp [resubmits, hhold.stream] at hresub
    · next hnone => exact (hok.2 c hc).2 (by simpa using hnone)
  | _ => trivial

/-- Which entries are outstanding after the completion of a request was read. -/
theorem PlainInv.outstanding_read (h : PlainInv s)
    (hstep : step s (.read renv) = some s') (hcq : s.cq = c :: cq) (hk : s.owner c.pos = some k)
    {pos j : ℕ} {e : Sqe} (hj : s.owner pos = some j) :
    s'.Outstanding pos e ↔ s.Outstanding pos e ∧ j ≠ k := by
  have hfinal := h.final c (by rw [hcq]; exact List.mem_cons_self) k hk
  constructor
  · intro hout
    refine ⟨outstanding_of_step h.toTracked hstep hj hout, ?_⟩
    rintro rfl
    have hpos := h.unique pos c.pos j hj hk
    obtain ⟨c', cq', r, hcq', hread, rfl⟩ := read_step hstep
    rw [hcq'] at hcq
    cases hcq
    obtain ⟨added, hadds⟩ := read_adds h.sound hread
    exact h.toOrdered.ended (submits_handled hcq' hadds) hcq' hfinal.1 (hpos ▸ hout)
  · rintro ⟨hout, hne⟩
    refine outstanding_step h.sound hstep hout ?_
    rintro renv' - d hd ⟨hpos, -⟩
    rw [hcq] at hd
    cases hd
    rw [hpos, hj] at hk
    exact hne (Option.some.inj hk)

/-- The request that was answered is no longer in flight, and the others are as before. -/
theorem PlainInv.inFlight_read (h : PlainInv s) (hstep : step s (.read renv) = some s')
    (hcq : s.cq = c :: cq) (hk : s.owner c.pos = some k) (howner : s'.owner = s.owner) {j : ℕ} :
    s'.InFlight j ↔ s.InFlight j ∧ j ≠ k := by
  constructor
  · rintro ⟨pos, e, hout, hj⟩
    rw [howner] at hj
    obtain ⟨hold, hne⟩ := (h.outstanding_read hstep hcq hk hj).mp hout
    exact ⟨⟨pos, e, hold, hj⟩, hne⟩
  · rintro ⟨⟨pos, e, hout, hj⟩, hne⟩
    exact ⟨pos, e, (h.outstanding_read hstep hcq hk hj).mpr ⟨hout, hne⟩, by rw [howner]; exact hj⟩

/-- The state after the completion of a request was read. -/
theorem PlainInv.resolves (h : PlainInv s) (hok : Plain s (.read renv)) (hcq : s.cq = c :: cq)
    (hk : s.owner c.pos = some k) :
    ∃ reg r, s.registered k = some reg ∧
      step s (.read renv) = some ({ s with cq := cq }.handled c r) ∧
      s.loop.Answers k reg.slot c.cqe (s.prescribed reg k c
        (Memory.gather s.loop.mem c.sqe.destination c.cqe.res.toNat)) r ∧
      Resolves s k c (s.prescribed reg k c
        (Memory.gather s.loop.mem c.sqe.destination c.cqe.res.toNat))
        ({ s with cq := cq }.handled c r) := by
  obtain ⟨reg, r, hreg, hread, -, -, -, hanswers⟩ := h.answers hok hcq hk
  refine ⟨reg, r, hreg, step_of_read hcq hread, hanswers, ?_⟩
  exact
    { deliveries := by
        change s.deliveries ++ r.deliveries c = _
        rw [Read.deliveries, hanswers.call]
        rfl
      futures := by
        funext j
        by_cases hj : j = k
        · rw [hj, Function.update_self]
          exact hanswers.future
        · rw [Function.update_of_ne hj]
          exact hanswers.finished.frame.futures j hj
      freed := hanswers.finished.dead
      slots := hanswers.finished.others }

/-- **An answer keeps the invariant.** -/
theorem PlainInv.answered (h : PlainInv s) (hok : Plain s (.read renv))
    (hstep : step s (.read renv) = some s') (hcq : s.cq = c :: cq) (hk : s.owner c.pos = some k)
    (hown : Owns s') : PlainInv s' := by
  obtain ⟨reg, r, hreg, hstep', hanswers, hres⟩ := h.resolves hok hcq hk
  rw [hstep] at hstep'
  cases hstep'
  have howner := handled_owner (c := c) hanswers.ring cq
  have hfin := hanswers.finished
  have hc : c ∈ s.cq := by
    rw [hcq]
    exact List.mem_cons_self
  have hflies : s.InFlight k := ⟨c.pos, c.sqe, .inr ⟨c, hc, rfl, rfl⟩, hk⟩
  have hflight : ∀ j, ({ s with cq := cq }.handled c r).InFlight j ↔ s.InFlight j ∧ j ≠ k :=
    fun j => h.inFlight_read hstep hcq hk howner
  have hnew : k ∉ s.deliveries.map Delivery.future := by
    intro hmem
    obtain ⟨d, hd, hdk⟩ := List.mem_map.mp hmem
    exact h.ended d hd (by rw [hdk]; exact hflies)
  refine { hown with
    err := hanswers.err, holding := ?_, serving := ?_, final := ?_, accounted := ?_, once := ?_,
    ended := ?_, resolved := ?_ }
  · intro pos e j hout hj
    rw [howner] at hj
    obtain ⟨hold, hne⟩ := (h.outstanding_read hstep hcq hk hj).mp hout
    obtain ⟨reg', hreg', hhold⟩ := h.holding pos e j hold hj
    exact ⟨reg', hreg', hhold.frame hfin.frame hne.symm⟩
  · intro i j hserves
    obtain ⟨hne, hold⟩ := (Loop.serves_finished hfin).mp hserves
    obtain ⟨pos, e, hout, hj, hi⟩ := h.serving i j hold
    refine ⟨pos, e, (h.outstanding_read hstep hcq hk hj).mpr
      ⟨hout, ?_⟩, by rw [howner]; exact hj, hi⟩
    rintro rfl
    obtain ⟨reg', -, hfut, hget⟩ := h.held c.pos c.sqe j (.inr ⟨c, hc, rfl, rfl⟩) hk
    rw [← h.tag c hc] at hget
    exact hne (h.sound.injective i c.cqe.index j hold ⟨_, hget, hfut⟩)
  · intro d hd j hj
    rw [howner] at hj
    exact h.final d (by rw [hcq]; exact List.mem_cons_of_mem _ hd) j hj
  · intro j
    rw [hflight, hres.deliveries, List.map_append, List.mem_append, List.map_singleton,
      List.mem_singleton]
    change (s.registered j).isSome ↔ _
    rw [h.accounted j]
    by_cases hj : j = k
    · simp [hj, hflies]
    · simp [hj]
  · rw [hres.deliveries, List.map_append, List.nodup_append]
    refine ⟨h.once, List.nodup_singleton _, fun a ha b hb => ?_⟩
    rw [List.map_singleton, List.mem_singleton] at hb
    rintro rfl
    rw [hb] at ha
    exact hnew ha
  · intro d hd
    rw [hres.deliveries, List.mem_append, List.mem_singleton] at hd
    rw [hflight]
    rcases hd with hd | rfl
    · exact fun hboth => h.ended d hd hboth.1
    · exact fun hboth => hboth.2 rfl
  · intro d hd
    rw [hres.deliveries, List.mem_append, List.mem_singleton] at hd
    rw [hres.futures]
    rcases hd with hd | rfl
    · have hne : d.future ≠ k := fun heq => hnew (List.mem_map.mpr ⟨d, hd, heq⟩)
      rw [Function.update_of_ne hne]
      exact h.resolved d hd
    · exact Function.update_self ..

/-! ## Requests that are made -/

/-- **A request that is made keeps the invariant.** -/
theorem PlainInv.accepted {ctx : ExecutionContext} {op : Op} {env : CallEnv} {c : Called}
    {req : Request} {idx : ℤ} {e : Sqe} (h : PlainInv s) (hok : Plain s (.call ctx op env))
    (hstep : step s (.call ctx op env) = some (s.called ctx op env c))
    (hacc : Accepted s.loop ctx op env c req idx e)
    (howner : (s.called ctx op env c).owner = Function.update s.owner s.tail (some s.loop.calls))
    (hregistered : (s.called ctx op env c).registered = Function.update s.registered s.loop.calls
      (some ⟨ctx, op, env, req.slot idx⟩))
    (hown : Owns (s.called ctx op env c)) : PlainInv (s.called ctx op env c) := by
  obtain ⟨hexists, -⟩ := call_step hstep
  obtain ⟨link, hadds⟩ := hacc.ring
  have hsub : Submits s (s.called ctx op env c) ((s.tail, e) :: link) := submits_called hadds
  have hnew : (s.called ctx op env c).Outstanding s.tail e :=
    .inl (hsub.pending.mem_iff.mpr (List.mem_append_right _ List.mem_cons_self))
  have hself : (s.called ctx op env c).owner s.tail = some s.loop.calls := by
    rw [howner, Function.update_self]
  have hold : ∀ pos j, s.owner pos = some j → (s.called ctx op env c).owner pos = some j := by
    intro pos j hj
    rw [howner, Function.update_of_ne (h.owned pos j hj).1.ne]
    exact hj
  have hsplit : ∀ pos j, (s.called ctx op env c).owner pos = some j →
      (pos = s.tail ∧ j = s.loop.calls) ∨ s.owner pos = some j := by
    intro pos j hj
    rw [howner] at hj
    by_cases hpos : pos = s.tail
    · rw [hpos, Function.update_self] at hj
      exact .inl ⟨hpos, (Option.some.inj hj).symm⟩
    · rw [Function.update_of_ne hpos] at hj
      exact .inr hj
  have hiff : ∀ {pos j e'}, s.owner pos = some j →
      ((s.called ctx op env c).Outstanding pos e' ↔ s.Outstanding pos e') :=
    fun hj => outstanding_iff h.toTracked hstep hj (unread_of_ne (by simp))
  have hflight : ∀ j, (s.called ctx op env c).InFlight j ↔ j = s.loop.calls ∨ s.InFlight j := by
    intro j
    constructor
    · rintro ⟨pos, e', hout, hj⟩
      rcases hsplit pos j hj with ⟨-, hj⟩ | hj
      · exact .inl hj
      · exact .inr ⟨pos, e', (hiff hj).mp hout, hj⟩
    · rintro (rfl | ⟨pos, e', hout, hj⟩)
      · exact ⟨s.tail, e, hnew, hself⟩
      · exact ⟨pos, e', (hiff hj).mpr hout, hold pos j hj⟩
  have hregs : ∀ j, j ≠ s.loop.calls → (s.called ctx op env c).registered j = s.registered j := by
    intro j hj
    rw [hregistered, Function.update_of_ne hj]
  have hregself : (s.called ctx op env c).registered s.loop.calls =
      some ⟨ctx, op, env, req.slot idx⟩ := by
    rw [hregistered, Function.update_self]
  refine { hown with
    err := ?_, holding := ?_, serving := ?_, final := ?_, accounted := ?_, once := ?_, ended := ?_,
    resolved := ?_ }
  · rw [called_loop, hacc.err]
    exact h.err
  · intro pos e' j hout hj
    rw [called_loop]
    rcases hsplit pos j hj with ⟨rfl, rfl⟩ | hj
    · rw [hregself, hsub.eq_of_first h.bound hout]
      obtain ⟨hstream, htransfer, hnormal, halloc⟩ := hok
      refine ⟨_, rfl, Loop.holding_of_accepted hacc hstream htransfer hnormal halloc ?_⟩
      have hsocket := (by simpa [Op.onExisting] using hexists : _ ∧ _).2
      refine hsocket.imp id fun hall sk hsk => ?_
      rw [hsk] at hall
      simpa using hall
    · obtain ⟨reg, hreg, hhold⟩ := h.holding pos e' j ((hiff hj).mp hout) hj
      have hlt := (h.owned pos j hj).2
      exact ⟨reg, by rw [hregs j hlt.ne]; exact hreg, hhold.frame hacc.frame hlt.ne'⟩
  · intro i j hserves
    rw [called_loop] at hserves
    by_cases hi : i = idx
    · rw [hi] at hserves ⊢
      obtain rfl := hserves.unique (Loop.serves_accepted hacc)
      exact ⟨s.tail, e, hnew, hself, hacc.index⟩
    · obtain ⟨pos, e', hout, hj, htag⟩ :=
        h.serving i j ((Loop.serves_accepted_iff hacc hi).mp hserves)
      exact ⟨pos, e', (hiff hj).mpr hout, hold pos j hj, htag⟩
  · intro d hd j hj
    rw [called_cq] at hd
    refine h.final d hd j ((hsplit d.pos j hj).resolve_left ?_)
    rintro ⟨hpos, -⟩
    exact absurd (h.bound d.pos d.sqe (.inr ⟨d, hd, rfl, rfl⟩)) (by rw [hpos]; exact lt_irrefl _)
  · intro j
    rw [hflight, called_deliveries]
    by_cases hj : j = s.loop.calls
    · simp [hj, hregself]
    · rw [hregs j hj, h.accounted j]
      simp [hj]
  · rw [called_deliveries]
    exact h.once
  · intro d hd
    rw [called_deliveries] at hd
    rw [hflight]
    rintro (heq | hflies)
    · exact absurd heq (h.delivered_lt hd).ne
    · exact h.ended d hd hflies
  · intro d hd
    rw [called_deliveries] at hd
    rw [called_loop, hacc.frame.futures _ (h.delivered_lt hd).ne]
    exact h.resolved d hd

/-! ## Every step -/

/-- A completion that belongs to no request is dropped. -/
theorem undone_dropped (h : PlainInv s) (hok : Plain s (.read renv))
    (hstep : step s (.read renv) = some s') (hcq : s.cq = c :: cq) (hnone : s.owner c.pos = none) :
    Undone s s' := by
  have hdead : ¬ s.loop.registry.Live c.cqe.index := (hok.2 c (by rw [hcq]; rfl)).2 hnone
  have hread : readCqe s.loop renv c.cqe = .ok ⟨s.loop, none, [], false⟩ :=
    readCqe_of_not_live hdead
  have hstep' := step_of_read hcq hread
  rw [hstep] at hstep'
  cases hstep'
  exact
    { owner := if_pos (.inl rfl)
      registered := rfl
      deliveries := List.append_nil _
      outstanding := fun pos e k hk => by
        refine outstanding_iff h.toTracked hstep hk ?_
        rintro renv' - d hd ⟨hpos, -⟩
        rw [hcq] at hd
        cases hd
        rw [hpos, hk] at hnone
        cases hnone
      holding := fun _ _ _ _ _ hhold => hhold
      serves := fun _ _ hserves => hserves
      futures := fun _ _ _ => rfl
      err := rfl
      cq := fun d hd _ _ => .inl (by rw [hcq]; exact List.mem_cons_of_mem _ hd) }

/-- **A step of the plain mode keeps the invariant.** -/
theorem PlainInv.step (h : PlainInv s) (hok : Plain s l) (hstep : step s l = some s') :
    PlainInv s' := by
  have hown := h.toOwns.step (h.lastOnly hok) hstep
  have hquiet := undone_quiet h hstep
  cases l with
  | call ctx op env =>
    obtain ⟨-, c, hcall, rfl⟩ := call_step hstep
    rcases called_cases h.sound hcall with ⟨hrej, howner, hreg⟩ | ⟨req, idx, e, hacc, howner, hreg⟩
    · exact h.undone hown (undone_rejected h hstep hrej howner hreg)
    · exact h.accepted hok hstep hacc howner hreg hown
  | read renv =>
    obtain ⟨c, cq, r, hcq, -, -⟩ := read_step hstep
    cases hk : s.owner c.pos with
    | none => exact h.undone hown (undone_dropped h hok hstep hcq hk)
    | some k => exact h.answered hok hstep hcq hk hown
  | post n res flags into data =>
    obtain ⟨f, hf, hmay, -, hdata, rfl⟩ := post_step hstep
    refine h.undone hown (hquiet (by simp) rfl rfl rfl rfl rfl rfl rfl rfl (fun _ _ => rfl)
      fun c hc k hk => ?_)
    rcases List.mem_append.mp hc with hc | hc
    · exact .inl hc
    · obtain rfl := List.mem_singleton.mp hc
      exact .inr (h.final_posted hf hmay hdata hk)
  | initProvidedMode | closeProvidedMode | submit | writeToSelf | signal =>
    cases hstep
    exact h.undone hown (hquiet (by simp) rfl rfl rfl rfl rfl rfl rfl rfl (fun _ _ => rfl)
      fun c hc _ _ => .inl hc)
  | returned =>
    -- In the plain mode no exception is pending when `_run_once` returns.
    cases hstep
    exact h.undone hown (hquiet (by simp) rfl rfl rfl rfl rfl rfl rfl h.err.symm (fun _ _ => rfl)
      fun c hc _ _ => .inl hc)
  | cancel f =>
    simp only [System.step] at hstep
    split at hstep
    · next hpend =>
      cases hstep
      refine h.undone hown (hquiet (by simp) rfl rfl rfl rfl rfl rfl rfl rfl (fun j hj => ?_)
        fun c hc _ _ => .inl hc)
      refine Function.update_of_ne ?_ _ _
      rintro rfl
      exact hj hpend.2
    · cases hstep

/-- The plain invariant holds at the start. -/
theorem plainInv_init {registry_size : ℕ} {h : registry_size < 2^31} {world : World} {env : InitEnv}
    (hworld : world.ContextsSound)
    (hsuccess : (Loop.init registry_size h world env).1.err = false) :
    PlainInv (init registry_size h world env) := {
  owns_init hworld with
    err := hsuccess
    holding := fun pos e k _ hk => by cases hk
    serving := fun i k hserves =>
      absurd (Loop.live_iff_serves.mpr ⟨k, hserves⟩) (registryNew_not_live registry_size h)
    final := fun c hc => by cases hc
    accounted := fun k => by
      refine iff_of_false (by simp [init]) ?_
      rintro (⟨pos, e, -, hk⟩ | hmem)
      · cases hk
      · cases hmem
    once := List.nodup_nil
    ended := fun d hd => by cases hd
    resolved := fun d hd => by cases hd }

/-- What the invariant says of the requests. -/
theorem PlainInv.exactlyOnce (h : PlainInv s) : ExactlyOnce s where
  live i k := by
    refine ⟨h.serving i k, ?_⟩
    rintro ⟨pos, e, hout, hk, rfl⟩
    obtain ⟨reg, -, hfut, hget⟩ := h.held pos e k hout hk
    exact ⟨_, hget, hfut⟩
  accounted := h.accounted
  once := ⟨h.once, h.ended⟩
  resolved d hd := ⟨h.routed d hd, h.resolved d hd⟩
  next c cq k renv hcq hk hok := by
    obtain ⟨reg, r, hreg, hstep, -, hres⟩ := h.resolves hok hcq hk
    exact ⟨reg, _, hreg, hstep, hres⟩

/-! ## The order of the completions -/

/-- The bytes of a completion are put into buffers that overlap neither each other nor those of a
completion that was not read yet. -/
def Separate (s : System) : Label → Prop
  | .post _ _ _ into _ => into.Pairwise Memory.Region.Disjoint ∧
      ∀ c ∈ s.cq, ∀ b ∈ c.sqe.destination, ∀ b' ∈ into, b.Disjoint b'
  | _ => True

instance (s : System) : (l : Label) → Decidable (Separate s l)
  | .post _ _ _ into _ => inferInstanceAs (Decidable (into.Pairwise _ ∧ _))
  | .call .. | .initProvidedMode .. | .closeProvidedMode .. | .read .. | .submit .. | .writeToSelf
  | .returned | .signal | .cancel .. => inferInstanceAs (Decidable True)

/-- Steps of the plain mode with buffers that do not overlap. -/
def PlainSeparate (s : System) (l : Label) : Prop := Plain s l ∧ Separate s l

instance (s : System) (l : Label) : Decidable (PlainSeparate s l) :=
  inferInstanceAs (Decidable (_ ∧ _))

/-- The invariant of the runs in which buffers do not overlap: a completion's bytes stay in its
request's buffers until it is read, and so every outcome is what the operation prescribes for them.
-/
structure SeparateInv (s : System) : Prop extends PlainInv s where
  /-- The bytes of a completion are still where the kernel put them. -/
  stored : ∀ c ∈ s.cq, ∀ k, s.owner c.pos = some k →
    Memory.gather s.loop.mem c.sqe.destination c.cqe.res.toNat = c.data
  /-- Each delivery is what the operation prescribes for its completion. -/
  answered : ∀ d ∈ s.deliveries, ∃ reg, s.registered d.future = some reg ∧
    (∀ sk, reg.op.socket? d.future = some sk → s.loop.SocketExists sk) ∧
    d.outcome = s.prescribed reg d.future d.completion d.completion.data

/-- What a step must keep for the outcomes of before to be the prescribed ones after it. -/
theorem SeparateInv.answered_step (h : SeparateInv s)
    (hregistered : ∀ k < s.loop.calls, s'.registered k = s.registered k)
    (hsocket : ∀ sk, s.loop.SocketExists sk → s'.loop.SocketExists sk ∧
      (s'.loop.sockets sk).domain = (s.loop.sockets sk).domain) {d : Delivery}
    (hd : d ∈ s.deliveries) : ∃ reg, s'.registered d.future = some reg ∧
      (∀ sk, reg.op.socket? d.future = some sk → s'.loop.SocketExists sk) ∧
      d.outcome = s'.prescribed reg d.future d.completion d.completion.data := by
  obtain ⟨reg, hreg, hexists, houtcome⟩ := h.answered d hd
  refine ⟨reg, by rw [hregistered _ (h.delivered_lt hd)]; exact hreg,
    fun sk hsk => (hsocket sk (hexists sk hsk)).1, ?_⟩
  have hdomain : s'.loop.domainOf d.future reg.op = s.loop.domainOf d.future reg.op := by
    unfold Loop.domainOf
    cases hsk : reg.op.socket? d.future with
    | none => rfl
    | some sk => exact (hsocket sk (hexists sk hsk)).2
  rw [houtcome, prescribed, prescribed, hdomain]

/-- A completion that is in the queue keeps its owner. -/
theorem owner_of_mem (ht : Tracked s) (hstep : step s l = some s') (hc : c ∈ s.cq) :
    s'.owner c.pos = s.owner c.pos :=
  owner_of_lt hstep ht.sound (ht.bound c.pos c.sqe (.inr ⟨c, hc, rfl, rfl⟩))

/-- The kernel posts a completion: its bytes are stored, and those of the others stay. -/
theorem SeparateInv.posted (h : SeparateInv s) {n : ℕ} {f : Flight} {res : ℤ} {flags : ℕ}
    {into : List Memory.Region} {data : List UInt8} (hf : s.flying[n]? = some f)
    (hdata : f.sqe.mayDeliver res into data)
    (hok : Separate s (.post n res flags into data))
    (hplain : PlainInv (s.posted n f ⟨f.sqe.user_data, res, flags⟩ into data)) :
    SeparateInv (s.posted n f ⟨f.sqe.user_data, res, flags⟩ into data) := {
  hplain with
    stored := by
      intro c hc k hk
      change Memory.gather (Memory.scatter s.loop.mem into data) c.sqe.destination
        c.cqe.res.toNat = c.data
      rcases List.mem_append.mp hc with hc | hc
      · rw [Memory.gather_scatter_of_disjoint (hok.2 c hc)]
        exact h.stored c hc k hk
      · obtain rfl := List.mem_singleton.mp hc
        have hout : s.Outstanding f.pos f.sqe :=
          .inl (posts_posted hf ⟨f.sqe.user_data, res, flags⟩ rfl into data).mem
        obtain ⟨reg, -, hhold⟩ := h.holding _ _ _ hout hk
        obtain ⟨hinto, hcap, hres⟩ := hdata
        obtain rfl := hinto.resolve_left (by simp [hhold.selectsBuffer])
        have hlen : res.toNat = data.length ∨ f.sqe.destination = [] := by
          split at hres
          · exact .inl (by rw [hres]; exact Int.toNat_of_nonpos (by omega))
          · exact hres.elim .inr fun hlen => .inl (by omega)
        change Memory.gather (Memory.scatter s.loop.mem f.sqe.destination data) f.sqe.destination
          res.toNat = data
        rcases hlen with hlen | hnil
        · rw [hlen]
          exact Memory.gather_scatter hok.1 hcap
        · rw [hnil] at hcap ⊢
          exact (List.eq_nil_of_length_eq_zero (Nat.le_zero.mp hcap)).symm
    answered := fun d hd =>
      h.answered_step (fun _ _ => rfl) (fun sk hsk => ⟨by cases sk <;> exact hsk, rfl⟩) hd }

/-- A future that was just resolved is that of the completion's request. -/
theorem PlainInv.deliveries_step (h : PlainInv s) (hok : Plain s l)
    (hstep : System.step s l = some s') {d : Delivery} (hd : d ∈ s'.deliveries) : d ∈ s.deliveries ∨
      ∃ c ∈ s.cq, ∃ k reg, s.owner c.pos = some k ∧ s.registered k = some reg ∧
        s.loop.Holding k reg.op reg.slot c.sqe ∧
        d = ⟨c, k, s.prescribed reg k c
          (Memory.gather s.loop.mem c.sqe.destination c.cqe.res.toNat)⟩ := by
  cases l with
  | call ctx op env =>
    obtain ⟨-, c, hcall, rfl⟩ := call_step hstep
    rw [called_deliveries] at hd
    exact .inl hd
  | read renv =>
    obtain ⟨c, cq, r, hcq, -, -⟩ := read_step hstep
    cases hk : s.owner c.pos with
    | none =>
      rw [(undone_dropped h hok hstep hcq hk).deliveries] at hd
      exact .inl hd
    | some k =>
      obtain ⟨reg, r, hreg, hread, -, -, hhold, hanswers⟩ := h.answers hok hcq hk
      have hstep' := step_of_read hcq hread
      rw [hstep] at hstep'
      cases hstep'
      rcases List.mem_append.mp hd with hd | hd
      · exact .inl hd
      · rw [Read.deliveries, hanswers.call] at hd
        exact .inr ⟨c, by rw [hcq]; exact List.mem_cons_self, k, reg, hk, hreg, hhold,
          List.mem_singleton.mp hd⟩
  | initProvidedMode | closeProvidedMode | submit | returned | writeToSelf | signal =>
    cases hstep
    exact .inl hd
  | post n res flags into data =>
    obtain ⟨f, -, -, -, -, rfl⟩ := post_step hstep
    exact .inl hd
  | cancel f =>
    simp only [System.step] at hstep
    split at hstep
    · cases hstep
      exact .inl hd
    · cases hstep

/-- **A step keeps the invariant**, if the buffers do not overlap. -/
theorem SeparateInv.step (h : SeparateInv s) (hok : PlainSeparate s l)
    (hstep : step s l = some s') : SeparateInv s' := by
  have hplain := h.toPlainInv.step hok.1 hstep
  rcases post_or_not l with hl | ⟨n, res, flags, into, data, rfl⟩
  · obtain ⟨j, hframe⟩ := frame_step h.sound hstep hl
    obtain ⟨added, hsub⟩ := submits_step h.sound hstep hl
    have hregistered := registered_step h.sound hstep
    have hsocket : ∀ sk, s.loop.SocketExists sk → s'.loop.SocketExists sk ∧
        (s'.loop.sockets sk).domain = (s.loop.sockets sk).domain :=
      fun sk hsk => ⟨hsk.mono hframe, hframe.domain sk hsk⟩
    refine { hplain with stored := fun c hc k hk => ?_, answered := fun d hd => ?_ }
    · have hold := hsub.cq.subset hc
      rw [owner_of_mem h.toTracked hstep hold] at hk
      rw [hframe.mem]
      exact h.stored c hold k hk
    · rcases h.toPlainInv.deliveries_step hok.1 hstep hd with
        hold | ⟨c, hc, k, reg, hk, hreg, hhold, rfl⟩
      · exact h.answered_step hregistered hsocket hold
      · have hlt := (h.owned c.pos k hk).2
        refine ⟨reg, by rw [hregistered k hlt]; exact hreg,
          fun sk hsk => (hsocket sk (hhold.exists sk hsk)).1, ?_⟩
        rw [h.stored c hc k hk, prescribed, prescribed, Loop.domainOf_frame hhold.exists hframe]
  · obtain ⟨f, hf, -, -, hdata, rfl⟩ := post_step hstep
    exact h.posted hf hdata hok.2 hplain

/-- The request of call number `k` is the same in two runs: the same operation, on a socket of the
same domain. -/
def SameRequest (s₁ s₂ : System) (k : ℕ) : Prop :=
  ∀ reg₁ reg₂, s₁.registered k = some reg₁ → s₂.registered k = some reg₂ →
    reg₁.op = reg₂.op ∧ s₁.loop.domainOf k reg₁.op = s₂.loop.domainOf k reg₂.op

/-- A request that is the same in two runs, and gets the same answer from the kernel, has the same
outcome. -/
def SameOutcomes (s₁ s₂ : System) : Prop :=
  ∀ d₁ ∈ s₁.deliveries, ∀ d₂ ∈ s₂.deliveries, d₁.future = d₂.future →
    SameRequest s₁ s₂ d₁.future → d₁.completion.cqe.res = d₂.completion.cqe.res →
    d₁.completion.data = d₂.completion.data → d₁.outcome = d₂.outcome

/-- Separate systems have the same outcomes. -/
theorem SeparateInv.sameOutcomes {s₁ s₂ : System} (h₁ : SeparateInv s₁) (h₂ : SeparateInv s₂) :
    SameOutcomes s₁ s₂ := by
  intro d₁ hd₁ d₂ hd₂ hfuture hsame hres hdata
  obtain ⟨reg₁, hreg₁, -, ho₁⟩ := h₁.answered d₁ hd₁
  obtain ⟨reg₂, hreg₂, -, ho₂⟩ := h₂.answered d₂ hd₂
  rw [← hfuture] at hreg₂ ho₂
  obtain ⟨hop, hdomain⟩ := hsame reg₁ reg₂ hreg₁ hreg₂
  rw [ho₁, ho₂, prescribed, prescribed, hdomain, hop, hres, hdata]

/-- The separate invariant holds at the start. -/
theorem separateInv_init {registry_size : ℕ} {h : registry_size < 2^31} {world : World}
    {env : InitEnv} (hworld : world.ContextsSound)
    (hsuccess : (Loop.init registry_size h world env).1.err = false) :
    SeparateInv (init registry_size h world env) := {
  plainInv_init hworld hsuccess with
    stored := fun c hc => by cases hc
    answered := fun d hd => by cases hd }

/-- **Every request of the plain mode is resolved exactly once**, with the value that its operation
prescribes; and where buffers do not overlap, its outcome does not depend on the order in which the
completions are posted and read. -/
theorem exactlyOnce_of_run (registry_size : ℕ) (h : registry_size < 2^31) {world : World}
    (hworld : world.ContextsSound) (env : InitEnv)
    (hsuccess : (Loop.init registry_size h world env).1.err = false) :
    (∀ s, Run step Plain (init registry_size h world env) s → ExactlyOnce s) ∧
      ∀ s₁ s₂, Run step PlainSeparate (init registry_size h world env) s₁ →
        Run step PlainSeparate (init registry_size h world env) s₂ → SameOutcomes s₁ s₂ := by
  refine ⟨fun s hrun => ?_, fun s₁ s₂ hrun₁ hrun₂ => ?_⟩
  · exact (hrun.invariant (plainInv_init hworld hsuccess)
      fun _ _ _ ht hok hstep => ht.step hok hstep).exactlyOnce
  · have hinv : ∀ {s}, Run System.step PlainSeparate (init registry_size h world env) s →
        SeparateInv s := fun hrun =>
      hrun.invariant (separateInv_init hworld hsuccess) fun _ _ _ ht hok hstep => ht.step hok hstep
    exact (hinv hrun₁).sameOutcomes (hinv hrun₂)

/-- A socket is made, and two receives of four bytes on it are submitted, into the given buffers. -/
def twoReceives (first second : Memory.Region) : List Label :=
  [.call Sample.context (.socket 2 1 .zero) Sample.callEnv, .post 2 9 0 [] [],
    .read Sample.readEnv,
    .call Sample.context (.recv (.made 0) 4 (some [first]) false .zero) Sample.callEnv,
    .call Sample.context (.recv (.made 0) 4 (some [second]) false .zero) Sample.callEnv]

/-- Their completions: the bytes of the first are ones, those of the second twos. The first one is
the kernel's entry number 2, and then the second one is. -/
def inOrder (first second : Memory.Region) : List Label :=
  twoReceives first second ++
    [.post 2 4 0 [first] [1, 1, 1, 1], .read Sample.readEnv,
      .post 2 4 0 [second] [2, 2, 2, 2], .read Sample.readEnv]

/-- The same completions, posted and read in the other order. -/
def reversed (first second : Memory.Region) : List Label :=
  twoReceives first second ++
    [.post 3 4 0 [second] [2, 2, 2, 2], .read Sample.readEnv,
      .post 2 4 0 [first] [1, 1, 1, 1], .read Sample.readEnv]

/-- The same completions, both posted before the first one is read. -/
def bothPosted (first second : Memory.Region) : List Label :=
  twoReceives first second ++
    [.post 2 4 0 [first] [1, 1, 1, 1], .post 2 4 0 [second] [2, 2, 2, 2],
      .read Sample.readEnv, .read Sample.readEnv]

/-- What was resolved: the futures, the results and the bytes of the completions, and the outcomes.
-/
def results (s : System) : List (FutureRef × ℤ × List UInt8 × Outcome) :=
  s.deliveries.map fun d => (d.future, d.completion.cqe.res, d.completion.data, d.outcome)

/-- Two receives into two buffers have the same outcomes in both orders. -/
theorem exactlyOnce_twoBuffers : ∃ s₁ s₂,
    exec step PlainSeparate (sample 2 (by decide)) (inOrder ⟨3000, 4⟩ ⟨3004, 4⟩) = some s₁ ∧
    exec step PlainSeparate (sample 2 (by decide)) (reversed ⟨3000, 4⟩ ⟨3004, 4⟩) = some s₂ ∧
    s₁.results = [(0, 9, [], .socket (.made 0) 9), (1, 4, [1, 1, 1, 1], .bytes [1, 1, 1, 1]),
      (2, 4, [2, 2, 2, 2], .bytes [2, 2, 2, 2])] ∧
    ExactlyOnce s₁ ∧ SameOutcomes s₁ s₂ := by
  obtain ⟨s₁, hs₁, hf⟩ := Option.map_eq_some_iff.mp
    (show (exec step PlainSeparate (sample 2 (by decide)) (inOrder ⟨3000, 4⟩ ⟨3004, 4⟩)).map
      results = some [(0, 9, [], .socket (.made 0) 9), (1, 4, [1, 1, 1, 1], .bytes [1, 1, 1, 1]),
      (2, 4, [2, 2, 2, 2], .bytes [2, 2, 2, 2])] by decide +kernel)
  have hsome : (exec step PlainSeparate (sample 2 (by decide))
      (reversed ⟨3000, 4⟩ ⟨3004, 4⟩)).isSome := by decide +kernel
  obtain ⟨s₂, hs₂⟩ := Option.isSome_iff_exists.mp hsome
  obtain ⟨honce, hsame⟩ := exactlyOnce_of_run 2 (by decide) Sample.world_sound Sample.initEnv
    (by decide +kernel)
  exact ⟨s₁, s₂, hs₁, hs₂, hf, honce s₁ ((Run.of_exec hs₁).mono fun _ _ hok => hok.1),
    hsame s₁ s₂ (.of_exec hs₁) (.of_exec hs₂)⟩

/-- Two receives into the same buffer do not: the first one yields the bytes of the second if both
were posted before it is read. -/
theorem oneBuffer_not_sameOutcomes : ∃ s₁ s₂,
    Run step Plain (init 2 (by decide) Sample.world Sample.initEnv) s₁ ∧
    Run step Plain (init 2 (by decide) Sample.world Sample.initEnv) s₂ ∧ ¬ SameOutcomes s₁ s₂ := by
  obtain ⟨s₁, hs₁, hf₁⟩ := Option.map_eq_some_iff.mp
    (show (exec step Plain (sample 2 (by decide)) (inOrder ⟨3000, 4⟩ ⟨3000, 4⟩)).map results =
      some [(0, 9, [], .socket (.made 0) 9), (1, 4, [1, 1, 1, 1], .bytes [1, 1, 1, 1]),
        (2, 4, [2, 2, 2, 2], .bytes [2, 2, 2, 2])] by decide +kernel)
  obtain ⟨s₂, hs₂, hf₂⟩ := Option.map_eq_some_iff.mp
    (show (exec step Plain (sample 2 (by decide)) (bothPosted ⟨3000, 4⟩ ⟨3000, 4⟩)).map results =
      some [(0, 9, [], .socket (.made 0) 9), (1, 4, [1, 1, 1, 1], .bytes [2, 2, 2, 2]),
        (2, 4, [2, 2, 2, 2], .bytes [2, 2, 2, 2])] by decide +kernel)
  have hreq₁ := Transition.exec_eval hs₁ (f := fun s => (s.registered 1).map fun reg =>
    (reg.op, s.loop.domainOf 1 reg.op))
    (b := some (.recv (.made 0) 4 (some [⟨3000, 4⟩]) false .zero,
      2)) (by decide +kernel)
  have hreq₂ := Transition.exec_eval hs₂ (f := fun s => (s.registered 1).map fun reg =>
    (reg.op, s.loop.domainOf 1 reg.op))
    (b := some (.recv (.made 0) 4 (some [⟨3000, 4⟩]) false .zero,
      2)) (by decide +kernel)
  refine ⟨s₁, s₂, .of_exec hs₁, .of_exec hs₂, fun hsame => ?_⟩
  have hmem₁ : (1, 4, [1, 1, 1, 1], .bytes [1, 1, 1, 1]) ∈ s₁.results := by rw [hf₁]; simp
  have hmem₂ : (1, 4, [1, 1, 1, 1], .bytes [2, 2, 2, 2]) ∈ s₂.results := by rw [hf₂]; simp
  obtain ⟨d₁, hd₁, heq₁⟩ := List.mem_map.mp hmem₁
  obtain ⟨d₂, hd₂, heq₂⟩ := List.mem_map.mp hmem₂
  simp only [Prod.mk.injEq] at heq₁ heq₂
  obtain ⟨hfut₁, hres₁, hdata₁, ho₁⟩ := heq₁
  obtain ⟨hfut₂, hres₂, hdata₂, ho₂⟩ := heq₂
  have hsameOutcome := hsame d₁ hd₁ d₂ hd₂ (hfut₁.trans hfut₂.symm) ?_ (hres₁.trans hres₂.symm)
    (hdata₁.trans hdata₂.symm)
  · rw [ho₁, ho₂] at hsameOutcome
    cases hsameOutcome
  · intro reg₁ reg₂ h₁ h₂
    rw [hfut₁] at h₁ h₂ ⊢
    rw [h₁] at hreq₁
    rw [h₂] at hreq₂
    exact Prod.mk.inj (Option.some.inj (hreq₁.trans hreq₂.symm))

end System

end Uringio
