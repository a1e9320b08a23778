import Uringio.Loop.Closed

/-!
# The pool of a shared payload

A payload of a context in `FIXED` mode is shared by all requests of the context, its pool of indices
included. Two things change it: the dispatcher of a read takes an index and stores it in the payload
(`call_pool`), and the reader gives the stored index back when a completion reaches one of the cases
of its switch that release (`read_pool`). Neither looks at the other: what is given back is the
index that was taken last, whichever request completes.
-/

namespace Uringio

/-- The payload after `release_buffer_idx(payload->idx_registry, payload->buf_idx)`. -/
def BufferPayload.giveBack (payload : BufferPayload) : BufferPayload :=
  { payload with
    idx_registry := payload.idx_registry.map fun reg => (releaseBufferIdx reg payload.buf_idx).2 }

/-- The payload after an index was taken from its pool. -/
def BufferPayload.take (payload : BufferPayload) (reg : FixedBufferIdxRegistry) : BufferPayload :=
  { payload with idx_registry := some (getBufferIdx reg).2, buf_idx := (getBufferIdx reg).1 }

/-- The cases of the reader's switch that release the index of a payload in `FIXED` mode. -/
def RequestSlot.releasesIndex (slot : RequestSlot) : Bool :=
  match slot.opcode with
  | .read | .write | .send | .sendmsg | .recvmsg => true
  | .recv => slot.socket.isSome
  | _ => false

namespace Loop

variable {L L₁ L' M : Loop} {ctx : ExecutionContext} {op : Op} {env : CallEnv} {c : Called}
  {a : Attempt} {d : Dispatched} {p q : PayloadRef} {slot : RequestSlot} {renv : ReadEnv}
    {cqe : Cqe}
  {index : ℤ} {k n : ℕ}

/-- The reader gives an index back to the pool of context number `n`. -/
def GivesIndex (L : Loop) (n : ℕ) (cqe : Cqe) : Prop :=
  ∃ slot ∈ registryGet L.registry cqe.index, slot.future.isSome = true ∧
    slot.buffer_payload = some (.context n) ∧ slot.releasesIndex = true ∧
    ¬ (cqe.res < 0 ∧ ¬ timeoutExpired slot cqe = true)

instance (L : Loop) (n : ℕ) (cqe : Cqe) : Decidable (L.GivesIndex n cqe) :=
  inferInstanceAs (Decidable (∃ slot ∈ registryGet L.registry cqe.index, _))

/-- The call is a read in context number `n`, and it reaches the dispatcher. -/
def TakesIndex (L : Loop) (n : ℕ) (ctx : ExecutionContext) (op : Op) : Prop :=
  op.opcode = .read ∧ ctx.buffer_payload = some n ∧ L.refuses op = false ∧
    L.registry.available_indices.entries ≠ []

instance (L : Loop) (n : ℕ) (ctx : ExecutionContext) (op : Op) :
    Decidable (L.TakesIndex n ctx op) :=
  inferInstanceAs (Decidable (_ ∧ _ ∧ _ ∧ _))

/-! ## The reader -/

/-- The payloads after the release of an index of `p`. -/
def givenBack (L : Loop) (p : PayloadRef) : PayloadRef → BufferPayload :=
  if (L.payloads p).mode = .FIXED then Function.update L.payloads p (L.payloads p).giveBack
  else L.payloads

/-- What is released is given back to the pool. -/
theorem releaseFixed_payloads (h : L.releaseFixed p = .ok L') : L'.payloads = L.givenBack p := by
  unfold releaseFixed at h
  unfold givenBack
  split at h
  · next hmode =>
    rw [if_pos hmode]
    cases hreg : (L.payloads p).idx_registry with
    | none =>
      rw [hreg] at h
      cases h
    | some reg =>
      rw [hreg] at h
      cases h
      simp only [setPayload, BufferPayload.giveBack, hreg, Option.map_some]
  · next hmode =>
    cases h
    rw [if_neg hmode]

/-- Dropping a payload leaves its pool. -/
@[simp] theorem dropPayload_payloads (L : Loop) (index : ℤ) (p : PayloadRef) (force : Bool) :
    (L.dropPayload index p force).payloads = L.payloads := by
  obtain ⟨released, heq⟩ := freeBufferPayload_eq L (some p) force
  unfold dropPayload
  rw [heq]
  rfl

/-- The payloads after the switch over the opcode. -/
def afterSwitch (L : Loop) (slot : RequestSlot) : PayloadRef → BufferPayload :=
  match slot.buffer_payload with
  | some p => if slot.releasesIndex then L.givenBack p else L.payloads
  | none => L.payloads

/-- A switch that releases no index leaves the payloads. -/
theorem afterSwitch_of_not (h : slot.releasesIndex = false) : L.afterSwitch slot = L.payloads := by
  unfold afterSwitch
  split
  · rw [h]
    rfl
  · rfl

/-- A switch that releases the index gives it back. -/
theorem afterSwitch_of_releases (hp : slot.buffer_payload = some p)
    (h : slot.releasesIndex = true) : L.afterSwitch slot = L.givenBack p := by
  unfold afterSwitch
  rw [hp]
  exact if_pos h

/-- Finishing a payload gives its index back. -/
theorem finishPayload_payloads {force : Bool} {result : Option Outcome} {disp : Disposition}
    (h : L.finishPayload index p force result = .ok disp) : disp.loop.payloads = L.givenBack p := by
  obtain ⟨L₁, hrel, h⟩ := bind_eq_ok.mp h
  cases h
  exact (dropPayload_payloads ..).trans (releaseFixed_payloads hrel)

/-- The payloads after a completed `recv`. -/
theorem completeRecv_payloads {disp : Disposition} (hop : slot.opcode = .recv)
    (h : L.completeRecv index slot cqe = .ok disp) :
    disp.loop.payloads = L.afterSwitch slot := by
  unfold completeRecv at h
  cases hs : slot.socket with
  | none =>
    rw [hs] at h
    cases h
    exact (afterSwitch_of_not (by simp [RequestSlot.releasesIndex, hop, hs])).symm
  | some s =>
    rw [hs] at h
    obtain ⟨⟨p, payload⟩, hderef, h⟩ := bind_eq_ok.mp h
    rw [afterSwitch_of_releases (deref_eq_ok hderef).1
      (by simp [RequestSlot.releasesIndex, hop, hs])]
    simp only at h
    split at h
    · exact finishPayload_payloads h
    · split at h
      · obtain ⟨linear, -, h⟩ := bind_eq_ok.mp h
        exact finishPayload_payloads h
      · exact finishPayload_payloads h

/-- A multishot message leaves the payloads. -/
theorem completeRecvmsgMultishot_payloads {payload : BufferPayload} {disp : Disposition}
    (h : L.completeRecvmsgMultishot index slot payload renv cqe = .ok disp) :
    disp.loop.payloads = L.payloads := by
  obtain ⟨linear, -, h⟩ := bind_eq_ok.mp h
  simp only at h
  split at h
  · cases h
    rfl
  · cases hs : slot.socket with
    | none =>
      rw [hs] at h
      cases h
    | some s =>
      rw [hs] at h
      cases h
      rfl

/-- The payloads after a completed `recvmsg`. -/
theorem completeRecvmsg_payloads {disp : Disposition} (hop : slot.opcode = .recvmsg)
    (h : L.completeRecvmsg index slot renv cqe = .ok disp) :
    disp.loop.payloads = L.afterSwitch slot := by
  obtain ⟨⟨p, payload⟩, hderef, h⟩ := bind_eq_ok.mp h
  obtain ⟨L₁, hrel, h⟩ := bind_eq_ok.mp h
  rw [afterSwitch_of_releases (deref_eq_ok hderef).1 (by simp [RequestSlot.releasesIndex, hop]),
    ← releaseFixed_payloads hrel]
  split at h
  · exact completeRecvmsgMultishot_payloads h
  · split at h
    · obtain ⟨linear, -, h⟩ := bind_eq_ok.mp h
      cases h
      obtain ⟨released, heq, -⟩ := freeSockaddr_eq L₁ slot.addr
      refine (dropPayload_payloads ..).trans ?_
      rw [heq]
      rfl
    · obtain ⟨vec, -, h⟩ := bind_eq_ok.mp h
      cases h
      exact dropPayload_payloads ..

/-- A completed `accept` leaves the payloads. -/
theorem completeAccept_payloads :
    (L.completeAccept index slot k renv cqe).loop.payloads = L.payloads := by
  unfold completeAccept
  split
  · rfl
  · split
    · obtain ⟨released, heq, -⟩ := freeSockaddr_eq { L with err := false } slot.addr
      rw [heq]
      rfl
    · rfl

/-- The payloads after a completed `send`. -/
theorem completeSend_payloads {disp : Disposition} (hop : slot.releasesIndex = true)
    (h : L.completeSend index slot cqe = .ok disp) : disp.loop.payloads = L.afterSwitch slot := by
  unfold completeSend at h
  cases hp : slot.buffer_payload with
  | none =>
    rw [hp] at h
    cases h
    simp [afterSwitch, hp, Disposition.loop]
  | some q =>
    rw [hp] at h
    simp only at h
    obtain ⟨⟨p, payload⟩, hderef, h⟩ := bind_eq_ok.mp h
    rw [finishPayload_payloads h]
    exact (afterSwitch_of_releases (hp.trans (deref_eq_ok hderef).1) hop).symm

/-- **What the switch does to the payloads.** -/
theorem complete_payloads {disp : Disposition}
    (h : L.complete index slot k renv cqe = .ok disp) :
    disp.loop.payloads = L.afterSwitch slot := by
  unfold complete at h
  cases hop : slot.opcode <;> rw [hop] at h
  case read =>
    obtain ⟨⟨p, payload⟩, hderef, h⟩ := bind_eq_ok.mp h
    obtain ⟨linear, -, h⟩ := bind_eq_ok.mp h
    rw [finishPayload_payloads h]
    exact (afterSwitch_of_releases (deref_eq_ok hderef).1
      (by simp [RequestSlot.releasesIndex, hop])).symm
  case write =>
    obtain ⟨⟨p, payload⟩, hderef, h⟩ := bind_eq_ok.mp h
    rw [finishPayload_payloads h]
    exact (afterSwitch_of_releases (deref_eq_ok hderef).1
      (by simp [RequestSlot.releasesIndex, hop])).symm
  case send | sendmsg =>
    exact completeSend_payloads (by simp [RequestSlot.releasesIndex, hop]) h
  case recv => exact completeRecv_payloads hop h
  case recvmsg => exact completeRecvmsg_payloads hop h
  all_goals rw [afterSwitch_of_not (by simp [RequestSlot.releasesIndex, hop])]
  case readv =>
    obtain ⟨⟨p, payload⟩, -, h⟩ := bind_eq_ok.mp h
    obtain ⟨vec, -, h⟩ := bind_eq_ok.mp h
    cases h
    exact dropPayload_payloads ..
  case writev =>
    cases h
    unfold completeWritev
    cases slot.buffer_payload with
    | none => rfl
    | some p => exact dropPayload_payloads ..
  case accept =>
    cases h
    exact completeAccept_payloads
  case openat2 =>
    cases h
    unfold completeOpenat2
    cases slot.file <;> rfl
  case socket =>
    cases h
    unfold completeSocket
    cases slot.socket <;> rfl
  case close =>
    cases h
    unfold completeClose
    cases slot.socket <;> cases slot.file <;> rfl
  all_goals
    cases h
    rfl

/-- The removal of a request changes the registry, references and what was released. -/
theorem registryRemove_sameBut (h : L.registryRemove index = .ok L') :
    ∃ registry, SameBut { L with registry := registry } L' := by
  unfold registryRemove at h
  split at h
  · cases h
  · next registry es _ =>
    cases h
    exact ⟨registry, applyEffects_sameBut { L with registry := registry } es⟩

/-- A removal leaves the payloads. -/
theorem registryRemove_payloads (h : L.registryRemove index = .ok L') :
    L'.payloads = L.payloads := by
  obtain ⟨registry, hsame⟩ := registryRemove_sameBut h
  exact hsame.payloads

/-- The end of a request leaves the payloads as the switch did. -/
theorem deliver_payloads {disp : Disposition} {r : Read} (h : disp.deliver index k = .ok r) :
    r.loop.payloads = disp.loop.payloads := by
  cases disp with
  | leave L₁ =>
    cases h
    rfl
  | finish L₁ result consumed =>
    obtain ⟨L₂, hrem, h⟩ := bind_eq_ok.mp h
    cases h
    rw [registryRemove_payloads hrem]
    cases result with
    | none => rfl
    | some o => exact (resolve_eq L₁ k o).2.2

/-- The release of an index of one payload leaves the others. -/
theorem givenBack_apply (hmode : (L.payloads q).mode = .FIXED) :
    L.givenBack p q = if p = q then (L.payloads q).giveBack else L.payloads q := by
  unfold givenBack
  by_cases hpq : p = q
  · rw [hpq, if_pos hmode, if_pos rfl, Function.update_self]
  · rw [if_neg hpq]
    split
    · exact Function.update_of_ne (Ne.symm hpq) _ _
    · rfl

/-- Of the fixed payloads, the switch gives back the slot's own alone. -/
theorem afterSwitch_apply (hmode : (L.payloads q).mode = .FIXED) :
    L.afterSwitch slot q =
      if slot.buffer_payload = some q ∧ slot.releasesIndex = true then (L.payloads q).giveBack
      else L.payloads q := by
  unfold afterSwitch
  cases hp : slot.buffer_payload with
  | none => simp
  | some p =>
    cases hrel : slot.releasesIndex with
    | false => simp
    | true => simp [givenBack_apply hmode]

/-- **What the reader does to the pool of a context**: it gives an index back, or nothing. -/
theorem read_pool {r : Read} (hmode : (L.payloads (.context n)).mode = .FIXED)
    (h : readCqe L renv cqe = .ok r) :
    r.loop.payloads (.context n) =
      if L.GivesIndex n cqe then (L.payloads (.context n)).giveBack
      else L.payloads (.context n) := by
  by_cases hlive : L.registry.Live cqe.index
  · obtain ⟨slot, hget, hsome⟩ := hlive
    obtain ⟨k, hfut⟩ := Option.isSome_iff_exists.mp hsome
    have hgives : L.GivesIndex n cqe ↔ (slot.buffer_payload = some (.context n) ∧
        slot.releasesIndex = true) ∧ ¬ (cqe.res < 0 ∧ ¬ timeoutExpired slot cqe = true) := by
      unfold GivesIndex
      rw [hget]
      simp [hfut, and_assoc]
    rw [readCqe, hget] at h
    simp only [readSlot, hfut] at h
    split at h
    · next herror =>
      -- The exception branch does not release the index.
      obtain ⟨L₁, hrem, h⟩ := bind_eq_ok.mp h
      cases h
      rw [if_neg fun hg => (hgives.mp hg).2 herror, registryRemove_payloads hrem]
      unfold setException
      split
      · rfl
      · exact congrFun (resolve_eq ..).2.2 _
    · next herror =>
      rw [if_neg (user_data_ne_of_live ⟨slot, hget, hsome⟩)] at h
      obtain ⟨disp, hcomp, hdeliver⟩ := bind_eq_ok.mp h
      rw [deliver_payloads hdeliver, complete_payloads hcomp, afterSwitch_apply hmode]
      refine if_congr ?_ rfl rfl
      rw [hgives, and_iff_left herror]
  · rw [readCqe_of_not_live hlive] at h
    cases h
    rw [if_neg]
    rintro ⟨slot, hget, hfut, -⟩
    exact hlive ⟨slot, hget, hfut⟩

/-! ## The calls -/

/-- What is done to the loop apart from the dispatcher leaves the payloads and the queue. -/
structure Aside (a : Attempt) : Prop where
  /-- Not when the registry is full. -/
  full : ∀ M : Loop, (a.full M).payloads = M.payloads
  /-- Not before the dispatcher. -/
  before : ∀ M : Loop, (a.before M).payloads = M.payloads ∧ (a.before M).ring = M.ring ∧
    (a.before M).registry = M.registry
  /-- And not when it fails. -/
  failed : ∀ M : Loop, (a.failed M).payloads = M.payloads ∧ (a.failed M).ring = M.ring

/-- Freeing a payload leaves its pool. -/
theorem freeBufferPayload_payloads (p : Option PayloadRef) (force : Bool) :
    (M.freeBufferPayload p force).payloads = M.payloads := by
  obtain ⟨released, heq⟩ := freeBufferPayload_eq M p force
  rw [heq]

/-- An attempt that finds the registry full leaves the payloads. -/
theorem attempt_full (ha : Aside a) (hfull : L.registry.available_indices.entries = [])
    (h : L.attempt a = .ok c) : c.loop.payloads = L.payloads := by
  unfold attempt at h
  rcases registryAdd_cases L.registry a.request with ⟨-, hadd⟩ | ⟨idx, reg, -, -, hstack, -⟩
  · rw [hadd] at h
    simp only [show (-1 : ℤ) < 0 by decide, if_true, Except.ok.injEq] at h
    subst h
    exact ha.full L.createFuture
  · rw [hfull] at hstack
    exact absurd hstack.symm (List.append_ne_nil_of_right_ne_nil _ (List.cons_ne_nil _ _))

/-- An attempt that finds a slot leaves the payloads and the queue as the dispatcher did. -/
theorem attempt_dispatched (ha : Aside a) (hslot : L.registry.available_indices.entries ≠ [])
    (h : L.attempt a = .ok c) :
    ∃ M idx d, (M.payloads = L.payloads ∧ M.ring = L.ring ∧
        registryGet M.registry idx = some (a.request.slot idx)) ∧ a.dispatch M idx = .ok d ∧
      c.loop.payloads = d.loop.payloads ∧ c.loop.ring = d.loop.ring ∧
      c.consumed = d.submission.consumed ∧ c.request_idx = idx ∧
      (c.future ≠ none → 1 ≤ d.submission.result ∧ c.loop.registry = d.loop.registry) := by
  unfold attempt at h
  rcases registryAdd_cases L.registry a.request with
    ⟨hempty, -⟩ | ⟨idx, reg, hadd, hr, -, -, hfilled, -⟩
  · exact absurd hempty hslot
  · rw [hadd] at h
    simp only [show ¬ idx < 0 by have := hr.1; omega, if_false] at h
    obtain ⟨d, hd, h⟩ := bind_eq_ok.mp h
    obtain ⟨refs, hrefs⟩ := acquires_eq L reg a.request
    rw [hrefs] at hd
    obtain ⟨hpay, hring, hreg⟩ := ha.before { L.createFuture with registry := reg, refs := refs }
    refine ⟨_, idx, d, ⟨hpay, hring, by rw [hreg]; exact hfilled⟩, hd, ?_⟩
    split at h
    · -- The dispatcher failed: the slot is given back.
      obtain ⟨L₂, hrem, h⟩ := bind_eq_ok.mp h
      cases h
      obtain ⟨hpay₂, hring₂⟩ := ha.failed L₂
      obtain ⟨registry, hsame⟩ := registryRemove_sameBut hrem
      exact ⟨hpay₂.trans hsame.payloads, hring₂.trans hsame.ring, rfl, rfl,
        fun hne => absurd rfl hne⟩
    · next hres =>
      cases h
      exact ⟨rfl, rfl, rfl, rfl, fun _ => ⟨by omega, rfl⟩⟩

/-- The entry of an accepted attempt is the one that its dispatcher added, and the slot holds its
request. -/
theorem attempt_entry {P : Sqe → Prop} (ha : Aside a) (h : L.attempt a = .ok c)
    (hfuture : c.future ≠ none)
    (hd : ∀ (M : Loop) idx d, M.payloads = L.payloads → a.dispatch M idx = .ok d →
      d.loop.registry = M.registry ∧ d.loop.ring = d.submission.ring ∧
        d.submission.Submits M.ring P) :
    (∃ idx, registryGet c.loop.registry c.request_idx = some (a.request.slot idx)) ∧
      ∃ e link, Adds L.ring c.consumed c.loop.ring ((L.ring.tail, e) :: link) ∧ P e := by
  have hslot : L.registry.available_indices.entries ≠ [] := by
    intro hempty
    unfold attempt at h
    rcases registryAdd_cases L.registry a.request with ⟨-, hadd⟩ | ⟨idx, reg, -, -, hstack, -⟩
    · rw [hadd] at h
      simp only [show (-1 : ℤ) < 0 by decide, if_true, Except.ok.injEq] at h
      subst h
      exact hfuture rfl
    · rw [hempty] at hstack
      exact absurd hstack.symm (List.append_ne_nil_of_right_ne_nil _ (List.cons_ne_nil _ _))
  obtain ⟨M, idx, d, ⟨hM, hring, hfilled⟩, hdispatch, -, hringc, hconsumed, hidx, hresult⟩ :=
    attempt_dispatched ha hslot h
  obtain ⟨hres, hregistry⟩ := hresult hfuture
  obtain ⟨hkept, hringd, added, hadds, hmain⟩ := hd M idx d hM hdispatch
  obtain ⟨e, link, rfl, he⟩ := hmain hres
  rw [← hringd, ← hringc, ← hconsumed, hring] at hadds
  refine ⟨⟨idx, ?_⟩, e, link, hadds, he⟩
  rw [hregistry, hkept, hidx]
  exact hfilled

/-- An attempt whose dispatcher leaves a payload leaves it. -/
theorem attempt_keeps {closed : Bool} (hprep : L₁.payloads q = L.payloads q) (ha : Aside a)
    (hd : ∀ M idx d, a.dispatch M idx = .ok d → d.loop.payloads q = M.payloads q)
    (h : L.unlessClosed closed (L₁.attempt a) = .ok c) : c.loop.payloads q = L.payloads q := by
  unfold unlessClosed at h
  split at h
  · cases h
    rfl
  · by_cases hslot : L₁.registry.available_indices.entries = []
    · rw [attempt_full ha hslot h, hprep]
    · obtain ⟨M, idx, d, ⟨hM, -⟩, hdispatch, hpay, -⟩ := attempt_dispatched ha hslot h
      rw [hpay, hd M idx d hdispatch, hM, hprep]

/-- A call that only gives up a payload, or nothing, when the registry is full. -/
theorem aside_of_full (hfull : ∀ M : Loop, (a.full M).payloads = M.payloads)
    (hbefore : a.before = id)
    (hfailed : a.failed = id) : Aside a where
  full := hfull
  before M := by
    rw [hbefore]
    exact ⟨rfl, rfl, rfl⟩
  failed M := by
    rw [hfailed]
    exact ⟨rfl, rfl⟩

/-- The attempt of a call whose request holds a payload. -/
theorem withPayload_keeps {closed : Bool} {req : Request}
    {dispatch : Loop → ℤ → Except Fault Dispatched} (hprep : L₁.payloads q = L.payloads q)
    (hd : ∀ M idx d, dispatch M idx = .ok d → d.loop.payloads q = M.payloads q)
    (h : L.unlessClosed closed (L₁.withPayload p req dispatch) = .ok c) :
    c.loop.payloads q = L.payloads q :=
  attempt_keeps hprep (aside_of_full (fun _ => freeBufferPayload_payloads _ _) rfl rfl) hd h

/-- The payload that a call builds is none of a context. -/
theorem newPayload_context (payload : BufferPayload) :
    (L.newPayload payload).2.payloads (.context n) = L.payloads (.context n) := by
  simp [newPayload, setPayload]

/-- What is taken from a pool of another payload. -/
theorem acquireIdx_ne {buf_idx : ℤ} (hne : q ≠ p) (h : M.acquireIdx p = .ok (buf_idx, L₁)) :
    L₁.payloads q = M.payloads q := by
  unfold acquireIdx at h
  split at h
  · cases h
  · cases h
    exact Function.update_of_ne hne _ _

variable {fd size offset request_idx r : ℤ} {stream : StreamStrategy} {transfer_mode : TransferMode}
  {timeout_params : TimeoutParams} {is_poll_first : Bool}

/-- The dispatcher of `read` leaves the other payloads. -/
theorem readDispatcher_ne (hne : q ≠ p)
    (h : M.readDispatcher fd p stream request_idx size offset timeout_params r = .ok d) :
    d.loop.payloads q = M.payloads q := by
  unfold readDispatcher at h
  cases hmode : (M.payloads p).mode with
  | FIXED =>
    simp only [hmode] at h
    obtain ⟨⟨buf_idx, M₁⟩, hacq, h⟩ := bind_eq_ok.mp h
    obtain ⟨b, -, h⟩ := bind_eq_ok.mp h
    cases h
    have hpay := acquireIdx_ne hne hacq
    exact hpay
  | PROVIDED | BUF_RING =>
    simp only [hmode] at h
    split at h
    · cases h
      rfl
    · cases h
      rfl
  | NORMAL_BUF =>
    simp only [hmode] at h
    obtain ⟨b, -, h⟩ := bind_eq_ok.mp h
    cases h
    rfl

/-- The dispatcher of `readv` leaves the payloads. -/
theorem readvDispatcher_payloads {nowait : Bool}
    (h : M.readvDispatcher fd p request_idx offset nowait timeout_params r = .ok d) :
    d.loop.payloads = M.payloads := by
  unfold readvDispatcher at h
  cases hmode : (M.payloads p).mode with
  | PROVIDED | BUF_RING | FIXED | NORMAL_BUF =>
    simp only [hmode] at h
    obtain ⟨b, -, h⟩ := bind_eq_ok.mp h
    cases h
    rfl

/-- The dispatcher of `write` leaves the other payloads. -/
theorem writeDispatcher_ne (hne : q ≠ p)
    (h : M.writeDispatcher fd p request_idx offset timeout_params r = .ok d) :
    d.loop.payloads q = M.payloads q := by
  unfold writeDispatcher at h
  obtain ⟨b, -, h⟩ := bind_eq_ok.mp h
  cases hmode : (M.payloads p).mode with
  | FIXED =>
    simp only [hmode] at h
    obtain ⟨⟨buf_idx, M₁⟩, hacq, h⟩ := bind_eq_ok.mp h
    cases h
    have hpay := acquireIdx_ne hne hacq
    exact hpay
  | PROVIDED | BUF_RING | NORMAL_BUF =>
    simp only [hmode] at h
    cases h
    rfl

/-- The dispatcher of `recv` leaves the payloads. -/
theorem recvDispatcher_payloads
    (h : M.recvDispatcher fd p stream request_idx is_poll_first timeout_params r = .ok d) :
    d.loop.payloads = M.payloads := by
  unfold recvDispatcher at h
  obtain ⟨b, -, h⟩ := bind_eq_ok.mp h
  cases hmode : (M.payloads p).mode with
  | PROVIDED | BUF_RING =>
    simp only [hmode] at h
    split at h
    · cases h
      rfl
    · cases h
      rfl
  | FIXED | NORMAL_BUF =>
    simp only [hmode] at h
    cases h
    rfl

/-- The dispatcher of `recvmsg` leaves the payloads. -/
theorem recvmsgDispatcher_payloads {msghdr : Option MsghdrRef}
    (h : M.recvmsgDispatcher fd p stream request_idx is_poll_first msghdr timeout_params r =
      .ok d) :
    d.loop.payloads = M.payloads := by
  unfold recvmsgDispatcher at h
  cases hmode : (M.payloads p).mode with
  | PROVIDED | BUF_RING =>
    simp only [hmode] at h
    split at h
    · cases h
      rfl
    · cases h
      rfl
  | FIXED | NORMAL_BUF =>
    simp only [hmode] at h
    obtain ⟨v, -, h⟩ := bind_eq_ok.mp h
    cases h
    rfl

/-- The dispatcher of `send` leaves the other payloads. -/
theorem sendDispatcher_ne (hne : q ≠ p)
    (h : M.sendDispatcher fd p transfer_mode request_idx is_poll_first timeout_params r = .ok d) :
    d.loop.payloads q = M.payloads q := by
  unfold sendDispatcher at h
  obtain ⟨b, -, h⟩ := bind_eq_ok.mp h
  cases transfer_mode with
  | ZERO_COPY =>
    simp only at h
    split at h
    · obtain ⟨⟨buf_idx, M₁⟩, hacq, h⟩ := bind_eq_ok.mp h
      cases h
      have hpay := acquireIdx_ne hne hacq
      exact hpay
    · cases h
      rfl
  | NORMAL_TRANSFER =>
    cases h
    rfl

/-- The dispatcher of `sendmsg` leaves the other payloads. -/
theorem sendmsgDispatcher_ne (hne : q ≠ p) {addr addrlen : ℕ}
    (h : M.sendmsgDispatcher fd p transfer_mode request_idx addr addrlen is_poll_first
      timeout_params r = .ok d) : d.loop.payloads q = M.payloads q := by
  unfold sendmsgDispatcher at h
  cases transfer_mode with
  | ZERO_COPY =>
    simp only at h
    obtain ⟨⟨buf_idx, M₁⟩, hacq, h⟩ := bind_eq_ok.mp h
    obtain ⟨v, -, h⟩ := bind_eq_ok.mp h
    cases h
    have hpay := acquireIdx_ne hne hacq
    exact hpay
  | NORMAL_TRANSFER =>
    simp only at h
    obtain ⟨v, -, h⟩ := bind_eq_ok.mp h
    cases h
    rfl

/-- The payload of a vectored transfer of the user's buffers is a new one. -/
theorem getOrCreateVectoredBuffer_new (buffers : List Memory.Region) :
    L.getOrCreateVectoredBuffer ctx (some buffers) env =
      L.newPayload (newVectoredBuffer (some buffers) env.alloc) := by
  unfold getOrCreateVectoredBuffer
  split
  · rfl
  · exact if_neg fun h => by cases h.1

/-- The choice of a payload leaves those of the contexts. -/
theorem getOrCreateLinearBuffer_context {buffers_obj : Option (List Memory.Region)} {bufsize : ℤ}
    (h : L.getOrCreateLinearBuffer ctx buffers_obj bufsize env = (p, L₁)) :
    L₁.payloads (.context n) = L.payloads (.context n) ∧
      (p = .context n → ctx.buffer_payload = some n ∧ buffers_obj = none) := by
  unfold getOrCreateLinearBuffer at h
  split at h
  · cases h
    exact ⟨newPayload_context _, fun h => by cases h⟩
  · next m hm =>
    split at h
    · next hserves =>
      cases h
      refine ⟨rfl, fun h => ?_⟩
      cases h
      exact ⟨hm, hserves.1⟩
    · cases h
      exact ⟨newPayload_context _, fun h => by cases h⟩

/-- The payload of `readv` leaves those of the contexts. -/
theorem readvPayload_context {buffers_obj : Option (List Memory.Region)}
    (h : L.readvPayload ctx buffers_obj env = (p, L₁)) :
    L₁.payloads (.context n) = L.payloads (.context n) := by
  have hvectored : (L.getOrCreateVectoredBuffer ctx buffers_obj env).2.payloads (.context n) =
      L.payloads (.context n) := by
    unfold getOrCreateVectoredBuffer
    split
    · exact newPayload_context _
    · split
      · rfl
      · exact newPayload_context _
  unfold Loop.readvPayload at h
  split at h
  · rw [← hvectored, h]
  · simp only at h
    split at h
    · cases h
      rfl
    · rw [← hvectored, h]

/-- The choice of a payload leaves the registry. -/
theorem getOrCreateLinearBuffer_registry {buffers_obj : Option (List Memory.Region)} {bufsize : ℤ}
    (h : L.getOrCreateLinearBuffer ctx buffers_obj bufsize env = (p, L₁)) :
    L₁.registry = L.registry ∧ L₁.ring = L.ring ∧ L₁.calls = L.calls := by
  have honly : OnlyPayloads L (L.getOrCreateLinearBuffer ctx buffers_obj bufsize env).2 :=
    onlyPayloads_linear buffers_obj bufsize
  obtain ⟨payloads, heq⟩ := honly
  rw [h] at heq
  change L₁ = _ at heq
  rw [heq]
  exact ⟨rfl, rfl, rfl⟩

/-- A read that is refused, finds the registry full or is in no context leaves the pool. -/
theorem read_keeps_pool {f : FileRef}
    (htakes : ¬ L.TakesIndex n ctx (.read f offset size timeout_params))
    (h : L.call ctx (.read f offset size timeout_params) env = .ok c) :
    c.loop.payloads (.context n) = L.payloads (.context n) := by
  rcases hp : L.getOrCreateLinearBuffer ctx none size env with ⟨p, L₁⟩
  obtain ⟨hkeeps, hctx⟩ := getOrCreateLinearBuffer_context (n := n) hp
  obtain ⟨hreg, -, -⟩ := getOrCreateLinearBuffer_registry hp
  simp only [call, uringioFileRead, hp, unlessClosed] at h
  split at h
  · cases h
    rfl
  · next hopen =>
    have ha : Aside
        { request := { L₁.request .read (some f) none with
            stream_strategy := ctx.stream, buffer_payload := some p }
          full := (·.freeBufferPayload (some p) false)
          dispatch := fun L idx => L.readDispatcher (L.files f).fd p ctx.stream idx size offset
            timeout_params env.submitted } :=
      aside_of_full (fun _ => freeBufferPayload_payloads _ _) rfl rfl
    by_cases hslot : L₁.registry.available_indices.entries = []
    · rw [attempt_full ha hslot h, hkeeps]
    · have hne : PayloadRef.context n ≠ p := fun heq =>
        htakes ⟨rfl, (hctx heq.symm).1, Bool.eq_false_iff.mpr hopen, hreg ▸ hslot⟩
      obtain ⟨M, idx, d, ⟨hM, -⟩, hdispatch, hpay, -⟩ := attempt_dispatched ha hslot h
      rw [hpay, readDispatcher_ne hne hdispatch, hM, hkeeps]

/-- **A call that takes no index of a context** leaves its pool. -/
theorem call_keeps_pool (htakes : ¬ L.TakesIndex n ctx op) (h : L.call ctx op env = .ok c) :
    c.loop.payloads (.context n) = L.payloads (.context n) := by
  have hplain : ∀ (req : Request) (dispatch : Loop → ℤ → Except Fault Dispatched),
      Aside { request := req, dispatch } := fun _ _ => aside_of_full (fun _ => rfl) rfl rfl
  have hown : PayloadRef.context n ≠ .own L.calls := fun heq => by cases heq
  cases op with
  | «open» path dfd flags resolve mode tp =>
    change L.unlessClosed false (L.newFile.attempt _) = .ok c at h
    refine attempt_keeps (show L.newFile.payloads _ = L.payloads _ from rfl) (hplain _ _)
      (fun M idx d h => ?_) h
    cases h
    rfl
  | socket domain socktype tp =>
    change L.unlessClosed false ((L.newSocket domain).attempt _) = .ok c at h
    refine attempt_keeps (show (L.newSocket domain).payloads _ = L.payloads _ from rfl) (hplain _ _)
      (fun M idx d h => ?_) h
    cases h
    rfl
  | timer sec nsec count is_multishot =>
    change L.unlessClosed false (L.attempt _) = .ok c at h
    refine attempt_keeps rfl (hplain _ _) (fun M idx d h => ?_) h
    cases h
    rfl
  | fsync f tp | fdatasync f tp | splice f src dst count offset_src offset_dst flag tp
  | closeFile f tp | bind s tp | connect s tp | listen s backlog tp =>
    refine attempt_keeps rfl (hplain _ _) (fun M idx d h => ?_) h
    cases h
    rfl
  | accept s tp =>
    refine attempt_keeps rfl (hplain _ _) (fun M idx d h => ?_) h
    cases h
    unfold acceptDispatcher
    cases ctx.stream <;> rfl
  | aexitFile f =>
    change L.unlessClosed false (L.attempt _) = .ok c at h
    refine attempt_keeps rfl ⟨fun _ => rfl, fun _ => ⟨rfl, rfl, rfl⟩, fun _ => ⟨rfl, rfl⟩⟩
      (fun M idx d h => ?_) h
    cases h
    rfl
  | aexitSocket s =>
    change L.unlessClosed false (L.attempt _) = .ok c at h
    refine attempt_keeps rfl ⟨fun _ => rfl, fun _ => ⟨rfl, rfl, rfl⟩, fun _ => ⟨rfl, rfl⟩⟩
      (fun M idx d h => ?_) h
    cases h
    rfl
  | closeSocket s tp =>
    refine attempt_keeps rfl ⟨fun _ => rfl, fun _ => ⟨rfl, rfl, rfl⟩, fun _ => ⟨rfl, rfl⟩⟩
      (fun M idx d h => ?_) h
    cases h
    rfl
  | read f offset size tp => exact read_keeps_pool htakes h
  | readv f buffers offset nowait tp =>
    rcases hp : L.readvPayload ctx buffers env with ⟨p, L₁⟩
    simp only [call, uringioFileReadv, hp] at h
    exact withPayload_keeps (readvPayload_context hp)
      (fun _ _ _ h => congrFun (readvDispatcher_payloads h) _) h
  | readvRaw f iovecs offset nowait tp =>
    refine withPayload_keeps (newPayload_context _) (fun M idx d h => ?_) h
    obtain ⟨v, -, h⟩ := bind_eq_ok.mp h
    cases h
    rfl
  | write f data offset tp =>
    exact withPayload_keeps (newPayload_context _) (fun _ _ _ h => writeDispatcher_ne hown h) h
  | writev f buffers flags offset tp =>
    simp only [call, uringioFileWritev, getOrCreateVectoredBuffer_new] at h
    refine withPayload_keeps (newPayload_context _) (fun M idx d h => ?_) h
    obtain ⟨v, -, h⟩ := bind_eq_ok.mp h
    cases h
    rfl
  | writevRaw f iovecs flags offset tp =>
    refine withPayload_keeps (newPayload_context _) (fun M idx d h => ?_) h
    obtain ⟨v, -, h⟩ := bind_eq_ok.mp h
    cases h
    rfl
  | send s data is_poll_first tp =>
    exact withPayload_keeps (newPayload_context _) (fun _ _ _ h => sendDispatcher_ne hown h) h
  | recv s bufsize buffer is_poll_first tp =>
    rcases hp : L.getOrCreateLinearBuffer ctx buffer bufsize env with ⟨p, L₁⟩
    simp only [call, uringioSocketRecv, hp] at h
    exact withPayload_keeps (getOrCreateLinearBuffer_context hp).1
      (fun _ _ _ h => congrFun (recvDispatcher_payloads h) _) h
  | sendto s data domain is_poll_first tp =>
    refine attempt_keeps (newPayload_context _)
      (aside_of_full (fun _ => freeBufferPayload_payloads _ _) rfl rfl) (fun M idx d h => ?_) h
    obtain ⟨b, -, h⟩ := bind_eq_ok.mp h
    cases h
    rfl
  | recvfrom s bufsize buffer domain is_poll_first tp =>
    rcases hp : L.getOrCreateLinearBuffer ctx buffer (CInt.toInt bufsize) env with ⟨p, L₁⟩
    simp only [call, uringioSocketRecvfrom, hp] at h
    refine attempt_keeps (getOrCreateLinearBuffer_context hp).1
      (aside_of_full (fun _ => freeBufferPayload_payloads _ _) rfl rfl) (fun M idx d h => ?_) h
    obtain ⟨b, -, h⟩ := bind_eq_ok.mp h
    cases h
    rfl
  | sendmsg s buffers domain is_poll_first tp =>
    simp only [call, uringioSocketSendmsg, getOrCreateVectoredBuffer_new] at h
    exact withPayload_keeps (newPayload_context _) (fun _ _ _ h => sendmsgDispatcher_ne hown h) h
  | recvmsg s buffers is_poll_first tp =>
    simp only [call, uringioSocketRecvmsg, getOrCreateVectoredBuffer_new] at h
    exact withPayload_keeps (newPayload_context _)
      (fun _ _ _ h => congrFun (recvmsgDispatcher_payloads h) _) h

/-- The dispatcher of a read takes an index and submits it. -/
theorem readDispatcher_takes {reg : FixedBufferIdxRegistry} {b : LinearBuffer}
    {bs : List LinearBuffer} (hmode : (M.payloads p).mode = .FIXED)
    (hreg : (M.payloads p).idx_registry = some reg)
    (hlinear : (M.payloads p).linear = some (b :: bs))
    (h : M.readDispatcher fd p stream request_idx size offset timeout_params r = .ok d) :
    d.loop.payloads p = (M.payloads p).take reg ∧ d.loop.ring = d.submission.ring ∧
      d.submission.Submits M.ring (Tagged request_idx
        (.read_fixed fd b.buffer (CInt.toUnsigned size)
        (CInt.toU64 offset) (getBufferIdx reg).1) false) := by
  have hfirst : (M.payloads p).firstLinear = .ok b :=
    BufferPayload.firstLinear_eq_ok.mpr ⟨bs, hlinear⟩
  have hacquire : M.acquireIdx p = .ok ((getBufferIdx reg).1,
      M.setPayload p ((M.payloads p).take reg)) := by
    unfold acquireIdx
    rw [hreg]
    rfl
  unfold readDispatcher at h
  simp only [hmode] at h
  obtain ⟨⟨buf_idx, M₁⟩, hacq, h⟩ := bind_eq_ok.mp h
  rw [hacquire] at hacq
  cases hacq
  obtain ⟨b', hb', h⟩ := bind_eq_ok.mp h
  rw [hfirst] at hb'
  cases hb'
  cases h
  refine ⟨?_, rfl, submitRequest_submits _ _ _ _ _ _ _ fun e => ⟨rfl, fun _ => rfl⟩⟩
  exact Function.update_self ..

/-- **A read in a context takes an index**: its entry names the index that was on top of the pool,
and the front of the first buffer. -/
theorem call_takes_pool {f : FileRef} {reg : FixedBufferIdxRegistry} {b : LinearBuffer}
    {bs : List LinearBuffer} (htakes : L.TakesIndex n ctx (.read f offset size timeout_params))
    (hmode : (L.payloads (.context n)).mode = .FIXED)
    (htype : (L.payloads (.context n)).payload_type = .PAYLOAD_LINEAR)
    (hreg : (L.payloads (.context n)).idx_registry = some reg)
    (hlinear : (L.payloads (.context n)).linear = some (b :: bs))
    (h : L.call ctx (.read f offset size timeout_params) env = .ok c) :
    c.loop.payloads (.context n) = (L.payloads (.context n)).take reg ∧
      (c.future ≠ none →
        (∃ slot, registryGet c.loop.registry c.request_idx = some slot ∧
          slot.buffer_payload = some (.context n)) ∧
        ∃ e link fd, Adds L.ring c.consumed c.loop.ring ((L.ring.tail, e) :: link) ∧
          e.prep = some (.read_fixed fd b.buffer (CInt.toUnsigned size) (CInt.toU64 offset)
            (getBufferIdx reg).1)) := by
  obtain ⟨-, hctx, hopen, hslot⟩ := htakes
  have hserves : (L.payloads (.context n)).servesLinear = true := by
    simp [BufferPayload.servesLinear, htype, hlinear]
  have hp : L.getOrCreateLinearBuffer ctx none size env = (.context n, L) := by
    unfold getOrCreateLinearBuffer
    rw [hctx]
    exact if_pos ⟨rfl, hserves⟩
  have hclosed : (L.files f).closed = false := hopen
  simp only [call, uringioFileRead, hp, unlessClosed, hclosed, Bool.false_eq_true, if_false] at h
  have ha : Aside
      { request := { L.request .read (some f) none with
          stream_strategy := ctx.stream, buffer_payload := some (.context n) }
        full := (·.freeBufferPayload (some (.context n)) false)
        dispatch := fun M idx => M.readDispatcher (M.files f).fd (.context n) ctx.stream idx size
          offset timeout_params env.submitted } :=
    aside_of_full (fun _ => freeBufferPayload_payloads _ _) rfl rfl
  have htakes : ∀ (M : Loop) idx d, M.payloads = L.payloads →
      M.readDispatcher (M.files f).fd (.context n) ctx.stream idx size offset timeout_params
        env.submitted = .ok d →
      d.loop.payloads (.context n) = (L.payloads (.context n)).take reg ∧
        d.loop.ring = d.submission.ring ∧ d.submission.Submits M.ring fun e => ∃ fd,
          e.prep = some (.read_fixed fd b.buffer (CInt.toUnsigned size) (CInt.toU64 offset)
            (getBufferIdx reg).1) := by
    intro M idx d hM hdispatch
    have hMp : M.payloads (.context n) = L.payloads (.context n) := congrFun hM _
    obtain ⟨htaken, hring, hsubmits⟩ :=
      readDispatcher_takes (hMp ▸ hmode) (hMp ▸ hreg) (hMp ▸ hlinear) hdispatch
    exact ⟨hMp ▸ htaken, hring, hsubmits.mono fun e he => ⟨_, he.prep⟩⟩
  constructor
  · obtain ⟨M, idx, d, ⟨hM, -⟩, hdispatch, hpay, -⟩ := attempt_dispatched ha hslot h
    rw [hpay, (htakes M idx d hM hdispatch).1]
  · intro hfuture
    obtain ⟨⟨idx, hslot⟩, e, link, hadds, fd, he⟩ := attempt_entry ha h hfuture
      fun M idx d hM hdispatch => ⟨(readDispatcher_submitting hdispatch).registry,
        (htakes M idx d hM hdispatch).2⟩
    exact ⟨⟨_, hslot, rfl⟩, e, link, fd, hadds, he⟩

end Loop

end Uringio
