import Uringio.Lib.Service
import Uringio.Lib.Simulation
import Uringio.System.Plain

/-!
# The loop is a service

What the loop is for, in the plain mode: a call asks a question and gets a future as its ticket, the
kernel answers in any order, and the reader hands out the results. `Shows` relates the loop and the
kernel to such a service: a request whose entry is with the kernel is a ticket that was asked, one
whose completion is in the queue is a ticket that was answered, and the futures that are done are
the tickets that were handed out, with the results that the service computes.

Every step of the loop and the kernel is a step of the service, or none (`simulates_service`). So
all that clients see of the loop is what a service does: a log of results, one for each ticket, each
computed from the ticket's own call and the kernel's own answer to it (`service_of_run`).
-/

namespace Uringio

namespace System

open Transition (Run Simulates anyStep exec)

/-- A question: the operation, and the domain of the socket that it is made on. -/
abbrev Question := Op × ℤ

/-- An answer of the kernel: the result, and the bytes that were received. -/
abbrev Answer := ℤ × List UInt8

/-- The service: the result of a ticket is what the operation prescribes. -/
def respond (k : ℕ) (q : Question) (a : Answer) : Outcome := q.1.answer k q.2 a.1 a.2

variable {s s' : System} {l : Label} {c : Completion} {cq : List Completion} {renv : ReadEnv}
  {k : ℕ} {q : Question} {a : Answer} {x : Service.Ticket Question Answer}
  {t : Service.State Question Answer Outcome} {added : List (ℕ × Sqe)}

/-- The question that call number `k` asks. -/
def Asks (s : System) (k : ℕ) (q : Question) : Prop :=
  ∃ reg, s.registered k = some reg ∧ (∀ sk, reg.op.socket? k = some sk → s.loop.SocketExists sk) ∧
    q = (reg.op, s.loop.domainOf k reg.op)

/-- The future of call number `k` is not resolved. -/
def Unresolved (s : System) (k : ℕ) : Prop :=
  s.loop.futures k = .pending ∨ s.loop.futures k = .cancelled

/-- What the state says of a ticket. -/
def ShowsTicket (s : System) (k : ℕ) : Service.Ticket Question Answer → Prop
  | .unused => s.registered k = none
  | .asked q => s.Asks k q ∧ s.Unresolved k ∧ ∃ x ∈ s.pending, s.owner x.1 = some k
  | .answered q a => s.Asks k q ∧ s.Unresolved k ∧
      ∃ c ∈ s.cq, s.owner c.pos = some k ∧ a = (c.cqe.res, c.data)
  | .handed q a => s.Asks k q ∧ s.loop.futures k = .done (respond k q a) ∧
      ∃ d ∈ s.deliveries, d.future = k

/-- The state shows that of the service. -/
structure Shows (s : System) (t : Service.State Question Answer Outcome) : Prop where
  /-- Each ticket is shown. -/
  ticket : ∀ k, s.ShowsTicket k (t.ticket k)
  /-- The logs are the same. -/
  log : t.log = s.deliveries.map fun d => (d.future, d.outcome)

/-! ## Tickets that a step leaves alone -/

/-- A step left the request of call number `k` alone; it may have been cancelled. -/
structure SameTicket (s s' : System) (k : ℕ) : Prop where
  /-- The record of the request is as it was. -/
  registered : s'.registered k = s.registered k
  /-- It asks what it asked. -/
  asks : ∀ q, s.Asks k q → s'.Asks k q
  /-- Its future is as it was, or was cancelled. -/
  futures : (s.registered k).isSome → s'.loop.futures k = s.loop.futures k ∨
    (s.loop.futures k = .pending ∧ s'.loop.futures k = .cancelled)
  /-- Its entry is its own. -/
  owner : ∀ pos, s.owner pos = some k → s'.owner pos = some k
  /-- What was pending is pending. -/
  pending : ∀ x ∈ s.pending, s.owner x.1 = some k → x ∈ s'.pending
  /-- What was in the completion queue is there. -/
  cq : ∀ c ∈ s.cq, s.owner c.pos = some k → c ∈ s'.cq
  /-- What was delivered was delivered. -/
  deliveries : s.deliveries ⊆ s'.deliveries

/-- Who asks is registered. -/
theorem Asks.isSome (h : s.Asks k q) : (s.registered k).isSome := by
  obtain ⟨reg, hreg, -⟩ := h
  rw [hreg]
  rfl

/-- A request stays unresolved while its ticket is the same. -/
theorem SameTicket.unresolved (h : SameTicket s s' k) (hsome : (s.registered k).isSome)
    (hk : s.Unresolved k) : s'.Unresolved k := by
  rcases h.futures hsome with hsame | ⟨-, hcancelled⟩
  · unfold Unresolved
    rw [hsame]
    exact hk
  · exact .inr hcancelled

/-- The ticket is shown as before. -/
theorem SameTicket.shows (h : SameTicket s s' k) (hk : s.ShowsTicket k x) : s'.ShowsTicket k x := by
  cases x with
  | unused => exact h.registered.trans hk
  | asked q =>
    obtain ⟨hasks, hunresolved, x, hx, howner⟩ := hk
    exact ⟨h.asks q hasks, h.unresolved hasks.isSome hunresolved, x, h.pending x hx howner,
      h.owner _ howner⟩
  | answered q a =>
    obtain ⟨hasks, hunresolved, c, hc, howner, ha⟩ := hk
    exact ⟨h.asks q hasks, h.unresolved hasks.isSome hunresolved, c, h.cq c hc howner,
      h.owner _ howner, ha⟩
  | handed q a =>
    obtain ⟨hasks, hdone, d, hd, hdk⟩ := hk
    refine ⟨h.asks q hasks, ?_, d, h.deliveries hd, hdk⟩
    rcases h.futures hasks.isSome with hsame | ⟨hpending, -⟩
    · rw [hsame, hdone]
    · rw [hdone] at hpending
      cases hpending

/-- A step that leaves all requests alone is no step of the service. -/
theorem Shows.same (h : Shows s t) (hsame : ∀ k, SameTicket s s' k)
    (hdeliveries : s'.deliveries = s.deliveries) : Shows s' t where
  ticket k := (hsame k).shows (h.ticket k)
  log := by rw [hdeliveries, h.log]

/-- A step that changes the ticket `k` and hands nothing out. -/
theorem Shows.set (h : Shows s t) (hsame : ∀ j, j ≠ k → SameTicket s s' j)
    (hdeliveries : s'.deliveries = s.deliveries) (hk : s'.ShowsTicket k x) :
      Shows s' (t.set k x) where
  ticket j := by
    by_cases hj : j = k
    · rw [hj, Service.set_self]
      exact hk
    · rw [Service.set_ne hj]
      exact (hsame j hj).shows (h.ticket j)
  log := by rw [Service.set_log, hdeliveries, h.log]

/-- The question stays what it is. -/
theorem Asks.frame {j : ℕ} (h : s.Asks k q) (hreg : s'.registered k = s.registered k)
    (hframe : Loop.Frame j s.loop s'.loop) : s'.Asks k q := by
  obtain ⟨reg, hk, hexists, rfl⟩ := h
  refine ⟨reg, hreg.trans hk, fun sk hsk => (hexists sk hsk).mono hframe, ?_⟩
  rw [Loop.domainOf_frame hexists hframe]

/-- A call that was registered was made. -/
theorem PlainInv.registered_lt (h : PlainInv s) (hk : (s.registered k).isSome) :
    k < s.loop.calls := by
  rcases (h.accounted k).mp hk with ⟨pos, e, -, howner⟩ | hmem
  · exact (h.owned pos k howner).2
  · obtain ⟨d, hd, rfl⟩ := List.mem_map.mp hmem
    exact h.delivered_lt hd

/-- A step other than a completion of the kernel. -/
theorem sameTicket_of_submits (h : Tracked s) (hstep : step s l = some s')
    (hl : ∀ n res flags into data, l ≠ .post n res flags into data)
    (hreg : s'.registered k = s.registered k)
    (hfutures : (s.registered k).isSome → s'.loop.futures k = s.loop.futures k ∨
      (s.loop.futures k = .pending ∧ s'.loop.futures k = .cancelled))
    (hcq : ∀ c ∈ s.cq, s.owner c.pos = some k → c ∈ s'.cq)
    (hdeliveries : s.deliveries ⊆ s'.deliveries) : SameTicket s s' k := by
  obtain ⟨added, hsub⟩ := submits_step h.sound hstep hl
  obtain ⟨j, hframe⟩ := frame_step h.sound hstep hl
  exact
    { registered := hreg
      asks := fun q hq => hq.frame hreg hframe
      futures := hfutures
      owner := fun pos hpos => by rw [owner_of_lt hstep h.sound (h.owned pos k hpos).1, hpos]
      pending := fun x hx _ => hsub.pending.mem_iff.mpr (List.mem_append_left _ hx)
      cq := hcq
      deliveries := hdeliveries }

/-- A completion of another request, or of none. -/
theorem sameTicket_posted {n : ℕ} {f : Flight} {cqe : Cqe} {into : List Memory.Region}
    {data : List UInt8} (hf : s.flying[n]? = some f) (htag : cqe.user_data = f.sqe.user_data)
    (hother : s.owner f.pos ≠ some k) : SameTicket s (s.posted n f cqe into data) k where
  registered := rfl
  asks q hq := by
    obtain ⟨reg, hreg, hexists, rfl⟩ := hq
    exact ⟨reg, hreg, fun sk hsk => by cases sk <;> exact hexists _ hsk, rfl⟩
  futures _ := .inl rfl
  owner _ := id
  pending x hx hk := by
    have hperm := (posts_posted hf cqe htag into data).pending.mem_iff.mp hx
    have hne : x ≠ (f.pos, f.sqe) := by
      rintro rfl
      exact hother hk
    split at hperm
    · exact hperm
    · exact (List.mem_cons.mp hperm).resolve_left hne
  cq c hc _ := List.mem_append_left _ hc
  deliveries := List.Subset.refl _

/-! ## What the tickets say -/

/-- A call that registered nothing has no ticket. -/
theorem Shows.unused (h : Shows s t) (hnone : s.registered k = none) : t.ticket k = .unused := by
  have hk := h.ticket k
  have hno : ∀ q, ¬ s.Asks k q := fun q hq => by
    have hsome := hq.isSome
    rw [hnone] at hsome
    cases hsome
  cases hticket : t.ticket k with
  | unused => rfl
  | asked q | answered q a | handed q a =>
    rw [hticket] at hk
    exact absurd hk.1 (hno _)

/-- A completion that is the last one of its entry: the entry is no longer with the kernel. -/
theorem PlainInv.ended_not_pending (h : PlainInv s) (hc : c ∈ s.cq) (hk : s.owner c.pos = some k)
    {x : ℕ × Sqe} (hx : x ∈ s.pending) : s.owner x.1 ≠ some k := by
  intro hxk
  have hpos : x.1 = c.pos := h.unique x.1 c.pos k hxk hk
  have hends : c ∈ s.ends := List.mem_filter.mpr ⟨hc, by simp [(h.final c hc k hk).1]⟩
  exact (List.nodup_append.mp h.nodup).2.2 x.1 (List.mem_map_of_mem hx) c.pos
    (List.mem_map_of_mem hends) hpos

/-- Two completions of a request are one. -/
theorem PlainInv.completion_unique (h : PlainInv s) {d : Completion} (hc : c ∈ s.cq) (hd : d ∈ s.cq)
    (hck : s.owner c.pos = some k) (hdk : s.owner d.pos = some k) : c = d := by
  have hends : ∀ {b}, b ∈ s.cq → s.owner b.pos = some k → b ∈ s.ends := fun hb hbk =>
    List.mem_filter.mpr ⟨hb, by simp [(h.final _ hb k hbk).1]⟩
  exact List.inj_on_of_nodup_map (List.nodup_append.mp h.nodup).2.1 (hends hc hck) (hends hd hdk)
    (h.unique c.pos d.pos k hck hdk)

/-- A request whose entry is with the kernel is a ticket that was asked. -/
theorem Shows.asked (h : Shows s t) (hs : PlainInv s) {x : ℕ × Sqe} (hx : x ∈ s.pending)
    (hk : s.owner x.1 = some k) : ∃ q, t.ticket k = .asked q ∧ s.Asks k q ∧ s.Unresolved k := by
  have hshows := h.ticket k
  have hout : s.Outstanding x.1 x.2 := .inl hx
  cases hticket : t.ticket k with
  | unused =>
    rw [hticket] at hshows
    obtain ⟨reg, hreg, -⟩ := hs.holding x.1 x.2 k hout hk
    rw [hshows] at hreg
    cases hreg
  | asked q =>
    rw [hticket] at hshows
    exact ⟨q, rfl, hshows.1, hshows.2.1⟩
  | answered q a =>
    rw [hticket] at hshows
    obtain ⟨-, -, c, hc, hck, -⟩ := hshows
    exact absurd hk (hs.ended_not_pending hc hck hx)
  | handed q a =>
    rw [hticket] at hshows
    obtain ⟨-, -, d, hd, rfl⟩ := hshows
    exact absurd ⟨x.1, x.2, hout, hk⟩ (hs.ended d hd)

/-- A request whose completion is in the queue is a ticket that was answered. -/
theorem Shows.answered (h : Shows s t) (hs : PlainInv s) (hc : c ∈ s.cq)
    (hk : s.owner c.pos = some k) : ∃ q, t.ticket k = .answered q (c.cqe.res, c.data) ∧
      s.Asks k q := by
  have hshows := h.ticket k
  have hout : s.Outstanding c.pos c.sqe := .inr ⟨c, hc, rfl, rfl⟩
  cases hticket : t.ticket k with
  | unused =>
    rw [hticket] at hshows
    obtain ⟨reg, hreg, -⟩ := hs.holding c.pos c.sqe k hout hk
    rw [hshows] at hreg
    cases hreg
  | asked q =>
    rw [hticket] at hshows
    obtain ⟨-, -, x, hx, hxk⟩ := hshows
    exact absurd hxk (hs.ended_not_pending hc hk hx)
  | answered q a =>
    rw [hticket] at hshows
    obtain ⟨hasks, -, d, hd, hdk, rfl⟩ := hshows
    rw [hs.completion_unique hc hd hk hdk]
    exact ⟨q, rfl, hasks⟩
  | handed q a =>
    rw [hticket] at hshows
    obtain ⟨-, -, d, hd, rfl⟩ := hshows
    exact absurd ⟨c.pos, c.sqe, hout, hk⟩ (hs.ended d hd)

/-! ## Steps -/

/-- The service makes one step. -/
theorem run_one {t' : Service.State Question Answer Outcome} (b : Service.Label Question Answer)
    (h : Service.step respond t b = some t') : Run (Service.step respond) anyStep t t' :=
  .tail (.refl t) trivial h

/-- A call asks a question, or nothing. -/
theorem service_call {ctx : ExecutionContext} {op : Op} {env : CallEnv} (h : SeparateInv s)
    (hok : PlainSeparate s (.call ctx op env)) (hshows : Shows s t)
    (hstep : step s (.call ctx op env) = some s') :
    ∃ t', Run (Service.step respond) anyStep t t' ∧ Shows s' t' := by
  have hplain : PlainInv s' := h.toPlainInv.step hok.1 hstep
  obtain ⟨-, c, hcall, rfl⟩ := call_step hstep
  have hdeliveries := called_deliveries s ctx op env c
  have hsubset : s.deliveries ⊆ (s.called ctx op env c).deliveries := by
    rw [hdeliveries]
    exact List.Subset.refl _
  have hcq : ∀ k, ∀ d ∈ s.cq, s.owner d.pos = some k → d ∈ (s.called ctx op env c).cq :=
    fun k d hd _ => by
      rw [called_cq]
      exact hd
  rcases called_cases h.sound hcall with ⟨hrej, -, hreg⟩ | ⟨req, idx, e, hacc, howner, hreg⟩
  · refine ⟨t, .refl t, hshows.same (fun k => ?_) hdeliveries⟩
    refine sameTicket_of_submits h.toTracked hstep (by simp) (congrFun hreg k)
      (fun hsome => .inl ?_)
      (hcq k) hsubset
    rw [called_loop]
    exact hrej.frame.futures k (h.toPlainInv.registered_lt hsome).ne
  · -- The new request is a ticket that was not used.
    have hnone : s.registered s.loop.calls = none := by
      by_contra hsome
      exact lt_irrefl _ (h.toPlainInv.registered_lt (Option.ne_none_iff_isSome.mp hsome))
    obtain ⟨link, hadds⟩ := hacc.ring
    have hsub : Submits s (s.called ctx op env c) ((s.tail, e) :: link) := submits_called hadds
    have hmem : (s.tail, e) ∈ (s.called ctx op env c).pending :=
      hsub.pending.mem_iff.mpr (List.mem_append_right _ List.mem_cons_self)
    have hself : (s.called ctx op env c).owner s.tail = some s.loop.calls := by
      rw [howner, Function.update_self]
    obtain ⟨reg, hregself, hhold⟩ := hplain.holding _ _ _ (.inl hmem) hself
    have hpending : (s.called ctx op env c).loop.futures s.loop.calls = .pending := by
      rw [called_loop]
      exact hacc.pending
    have hasked : (s.called ctx op env c).ShowsTicket s.loop.calls
        (.asked (reg.op, (s.called ctx op env c).loop.domainOf s.loop.calls reg.op)) :=
      ⟨⟨reg, hregself, hhold.exists, rfl⟩, .inl hpending, (s.tail, e), hmem, hself⟩
    refine ⟨_, run_one (.ask s.loop.calls
      (reg.op, (s.called ctx op env c).loop.domainOf s.loop.calls reg.op)) ?_, hshows.set ?_
      hdeliveries hasked⟩
    · rw [Service.step, hshows.unused hnone]
    · intro j hj
      refine sameTicket_of_submits h.toTracked hstep (by simp) ?_ (fun _ => .inl ?_) (hcq j) hsubset
      · rw [hreg, Function.update_of_ne hj]
      · rw [called_loop]
        exact hacc.frame.futures j hj

/-- A completion answers a ticket, or nothing. -/
theorem service_post {n : ℕ} {res : ℤ} {flags : ℕ} {into : List Memory.Region} {data : List UInt8}
    (h : SeparateInv s) (hshows : Shows s t)
    (hstep : step s (.post n res flags into data) = some s') :
    ∃ t', Run (Service.step respond) anyStep t t' ∧ Shows s' t' := by
  obtain ⟨f, hf, -, -, -, rfl⟩ := post_step hstep
  have hsame : ∀ k, s.owner f.pos ≠ some k →
      SameTicket s (s.posted n f ⟨f.sqe.user_data, res, flags⟩ into data) k :=
    fun k hne => sameTicket_posted hf rfl hne
  cases hk : s.owner f.pos with
  | none => exact ⟨t, .refl t, hshows.same (fun k => hsame k (by rw [hk]; simp)) rfl⟩
  | some k =>
    have hmem : (f.pos, f.sqe) ∈ s.pending :=
      (posts_posted hf ⟨f.sqe.user_data, res, flags⟩ rfl into data).mem
    obtain ⟨q, hticket, hasks, hunresolved⟩ := hshows.asked h.toPlainInv hmem hk
    have hasks' : (s.posted n f ⟨f.sqe.user_data, res, flags⟩ into data).Asks k q := by
      obtain ⟨reg, hreg, hexists, rfl⟩ := hasks
      exact ⟨reg, hreg, fun sk hsk => by cases sk <;> exact hexists _ hsk, rfl⟩
    have hanswered : (s.posted n f ⟨f.sqe.user_data, res, flags⟩ into data).ShowsTicket k
        (.answered q (res, data)) :=
      ⟨hasks', hunresolved, ⟨f.pos, f.sqe, ⟨f.sqe.user_data, res, flags⟩, data⟩,
        List.mem_append_right _ List.mem_cons_self, hk, rfl⟩
    refine ⟨_, run_one (.answer k (res, data)) ?_, hshows.set
      (fun j hj => hsame j ?_) rfl hanswered⟩
    · rw [Service.step, hticket]
    · rw [hk]
      exact fun heq => hj (Option.some.inj heq).symm

/-- The reader hands a result out, or drops a completion. -/
theorem service_read (h : SeparateInv s) (hok : PlainSeparate s (.read renv)) (hshows : Shows s t)
    (hstep : step s (.read renv) = some s') :
    ∃ t', Run (Service.step respond) anyStep t t' ∧ Shows s' t' := by
  obtain ⟨c, cq, r, hcq, -, -⟩ := read_step hstep
  have hrest : ∀ d ∈ s.cq, d ≠ c → d ∈ cq := fun d hd hne => by
    rw [hcq] at hd
    exact (List.mem_cons.mp hd).resolve_left hne
  have hc : c ∈ s.cq := by
    rw [hcq]
    exact List.mem_cons_self
  cases hk : s.owner c.pos with
  | none =>
    have hundone := undone_dropped h.toPlainInv hok.1 hstep hcq hk
    have hdead : ¬ s.loop.registry.Live c.cqe.index := (hok.1.2 c (by rw [hcq]; rfl)).2 hk
    have hread : readCqe s.loop renv c.cqe = .ok ⟨s.loop, none, [], false⟩ :=
      readCqe_of_not_live hdead
    have hstep' := step_of_read hcq hread
    rw [hstep] at hstep'
    cases hstep'
    refine ⟨t, .refl t, hshows.same (fun k => ?_) hundone.deliveries⟩
    refine sameTicket_of_submits h.toTracked hstep (by simp) rfl (fun _ => .inl rfl)
      (fun d hd hdk => hrest d hd ?_) (by rw [hundone.deliveries]; exact List.Subset.refl _)
    rintro rfl
    rw [hk] at hdk
    cases hdk
  | some k =>
    obtain ⟨reg, r', hreg, hstep', hanswers, hres⟩ := h.resolves hok.1 hcq hk
    rw [hstep] at hstep'
    cases hstep'
    obtain ⟨q, hticket, hasks⟩ := hshows.answered h.toPlainInv hc hk
    -- The outcome is the result of the ticket.
    have houtcome : s.prescribed reg k c
        (Memory.gather s.loop.mem c.sqe.destination c.cqe.res.toNat) =
          respond k q (c.cqe.res, c.data) := by
      obtain ⟨reg', hreg', -, rfl⟩ := hasks
      rw [hreg] at hreg'
      cases hreg'
      rw [h.stored c hc k hk]
      rfl
    rw [houtcome] at hres
    have hframe := hanswers.finished.frame
    refine ⟨_, run_one (.hand k) (by rw [Service.step, hticket]), ?_⟩
    have hsame : ∀ j, j ≠ k → SameTicket s ({ s with cq := cq }.handled c r') j := by
      intro j hj
      refine sameTicket_of_submits h.toTracked hstep (by simp) rfl (fun _ => .inl ?_)
        (fun d hd hdk => hrest d hd ?_) ?_
      · rw [hres.futures, Function.update_of_ne hj]
      · rintro rfl
        rw [hk] at hdk
        exact hj (Option.some.inj hdk).symm
      · rw [hres.deliveries]
        exact List.subset_append_left _ _
    constructor
    · intro j
      by_cases hj : j = k
      · subst hj
        change ShowsTicket _ j ((t.set j (.handed q (c.cqe.res, c.data))).ticket j)
        rw [Service.set_self]
        have hlast : (⟨c, j, respond j q (c.cqe.res, c.data)⟩ : Delivery) ∈
            ({ s with cq := cq }.handled c r').deliveries := by
          rw [hres.deliveries]
          exact List.mem_append_right _ List.mem_cons_self
        refine ⟨hasks.frame rfl hframe, ?_, _, hlast, rfl⟩
        rw [hres.futures, Function.update_self]
      · change ShowsTicket _ j ((t.set k (.handed q (c.cqe.res, c.data))).ticket j)
        rw [Service.set_ne hj]
        exact (hsame j hj).shows (hshows.ticket j)
    · rw [hres.deliveries, List.map_append, ← hshows.log]
      rfl

/-- **The loop and the kernel are a service**: every step of the plain mode is a step of the
service, or none. -/
theorem simulates_service :
    Simulates step PlainSeparate (Service.step respond) anyStep fun s t => SeparateInv s ∧
      Shows s t := by
  intro s t l s' hrel hok hstep
  obtain ⟨h, hshows⟩ := hrel
  have hinv : SeparateInv s' := h.step hok hstep
  have hquiet : s'.registered = s.registered →
      (∀ k, s'.loop.futures k = s.loop.futures k ∨
        (s.loop.futures k = .pending ∧ s'.loop.futures k = .cancelled)) → s'.cq = s.cq →
      s'.deliveries = s.deliveries → (∀ n res flags into data, l ≠ .post n res flags into data) →
      ∃ t', Run (Service.step respond) anyStep t t' ∧ SeparateInv s' ∧ Shows s' t' := by
    intro hreg hfutures hcq hdeliveries hl
    refine ⟨t, .refl t, hinv, hshows.same (fun k => ?_) hdeliveries⟩
    exact sameTicket_of_submits h.toTracked hstep hl (congrFun hreg k) (fun _ => hfutures k)
      (fun d hd _ => by rw [hcq]; exact hd) (by rw [hdeliveries]; exact List.Subset.refl _)
  cases l with
  | call ctx op env =>
    obtain ⟨t', hrun, hshows'⟩ := service_call h hok hshows hstep
    exact ⟨t', hrun, hinv, hshows'⟩
  | post n res flags into data =>
    obtain ⟨t', hrun, hshows'⟩ := service_post h hshows hstep
    exact ⟨t', hrun, hinv, hshows'⟩
  | read renv =>
    obtain ⟨t', hrun, hshows'⟩ := service_read h hok hshows hstep
    exact ⟨t', hrun, hinv, hshows'⟩
  | initProvidedMode | closeProvidedMode | submit | returned | writeToSelf | signal =>
    cases hstep
    exact hquiet rfl (fun _ => .inl rfl) rfl rfl (by simp)
  | cancel f =>
    simp only [System.step] at hstep
    split at hstep
    · next hpend =>
      cases hstep
      refine hquiet rfl (fun k => ?_) rfl rfl (by simp)
      by_cases hk : k = f
      · subst hk
        exact .inr ⟨hpend.2, Function.update_self ..⟩
      · exact .inl (Function.update_of_ne hk ..)
    · cases hstep

/-! ## The law -/

/-- A new loop shows a service of which no ticket was used. -/
theorem shows_init {registry_size : ℕ} {h : registry_size < 2^31} {world : World} {env : InitEnv} :
    Shows (init registry_size h world env) Service.init := ⟨fun _ => rfl, rfl⟩

/-- **What clients see of the loop is what a service does.** The state after a run of the plain mode
with buffers that do not overlap shows a state that the service reaches; and so the futures were
resolved in some order, each once, and each with the result that the service computes from the
call's own question and the kernel's own answer. -/
theorem service_of_run (registry_size : ℕ) (h : registry_size < 2^31) {world : World}
    (hworld : world.ContextsSound) (env : InitEnv)
    (hsuccess : (Loop.init registry_size h world env).1.err = false)
    (hrun : Run step PlainSeparate (init registry_size h world env) s) :
    ∃ t, Run (Service.step respond) anyStep Service.init t ∧ Shows s t ∧
      Service.Sound respond t := by
  obtain ⟨t, hservice, -, hshows⟩ := simulates_service.run hrun
    ⟨separateInv_init hworld hsuccess, shows_init⟩
  exact ⟨t, hservice, hshows, Service.sound_of_run hservice⟩

/-- A socket is made, and two receives: the service handed out three tickets. -/
theorem service_inOrder : ∃ s t,
    exec step PlainSeparate (sample 2 CInt.two_lt) (inOrder ⟨3000, 4⟩ ⟨3004, 4⟩) = some s ∧
      Run (Service.step respond) anyStep Service.init t ∧ Shows s t ∧
      t.log = [(0, .socket (.made 0) 9), (1, .bytes [1, 1, 1, 1]), (2, .bytes [2, 2, 2, 2])] := by
  obtain ⟨s, hs, hf⟩ := Option.map_eq_some_iff.mp
    (show (exec step PlainSeparate (sample 2 CInt.two_lt) (inOrder ⟨3000, 4⟩ ⟨3004, 4⟩)).map
      (fun s => s.deliveries.map fun d => (d.future, d.outcome)) =
        some [(0, .socket (.made 0) 9), (1, .bytes [1, 1, 1, 1]), (2, .bytes [2, 2, 2, 2])] by
      decide +kernel)
  obtain ⟨t, hrun, hshows, -⟩ := service_of_run 2 CInt.two_lt Sample.world_sound Sample.initEnv
    (by decide +kernel) (.of_exec hs)
  exact ⟨s, t, hs, hrun, hshows, hshows.log.trans hf⟩

end System

end Uringio
