import Uringio.Loop.Closed
import Uringio.System.Auxiliary
import Uringio.System.Recorded

/-!
# A descriptor is closed once

From the call of `close` or `__aexit__` on, no request for the object's descriptor may be accepted:
the number may belong to another file already. The flag `closed` is to see to that. It does for a
socket; a file's `close` leaves it clear until its completion is read, and the two `__aexit__` do
not look at it, and clear it when they fail. `closed_once_iff` says that nothing else goes wrong:
in a run in which no such call could be accepted (`ClosesOnce`), a close request is the last request
that is accepted for its object, and a call that is rejected leaves the flag as it was.

The invariant is `Once`: an object whose flag is set has a close request, and no request on it came
after that.
-/

namespace Uringio

namespace System

open Transition (Run anyStep exec)

variable {s s' : System} {l : Label} {ctx : ExecutionContext} {op : Op} {env : CallEnv} {o : ObjRef}
  {k k' : ℕ}

/-- Call number `k` was accepted, and it was made on the object. -/
def submittedOn (s : System) (o : ObjRef) (k : ℕ) : Bool :=
  (s.registered k).any fun reg => reg.op.object = some o

/-- Call number `k` was accepted, and it closes the object. -/
def closedBy (s : System) (o : ObjRef) (k : ℕ) : Bool :=
  (s.registered k).any fun reg => reg.op.object = some o ∧ reg.op.opcode = .close

/-- A close request was accepted for the object. -/
def Closing (s : System) (o : ObjRef) : Prop := ∃ k < s.loop.calls, s.closedBy o k = true

instance (s : System) (o : ObjRef) : Decidable (s.Closing o) :=
  inferInstanceAs (Decidable (∃ k, k < _ ∧ _))

/-- The object exists: its call was accepted, or it is a connection that was. -/
def Made (s : System) : ObjRef → Prop
  | .file f => (s.registered f).any (fun reg => reg.op.opcode = .openat2) = true
  | .socket (.made k) => (s.registered k).any (fun reg => reg.op.opcode = .socket) = true
  | .socket (.accepted k n) => n < s.loop.accepted k
  | .future _ => False

/-- The call can do no harm to an object that is being closed: it is refused because the flag is
set, or the registry is full, or its submission fails and it does not clear a flag that is set. -/
def MayCall (s : System) (op : Op) (env : CallEnv) (o : ObjRef) : Prop :=
  s.loop.refuses op = true ∨ s.loop.registry.available_indices.entries = [] ∨
    (¬ op.canSubmit env s.loop.ring ∧ (op.marks = some o → s.loop.closedOf o = false))

instance (s : System) (op : Op) (env : CallEnv) (o : ObjRef) : Decidable (s.MayCall op env o) :=
  inferInstanceAs (Decidable (_ ∨ _ ∨ _))

/-- No call can harm an object that is being closed. -/
def ClosesOnce (s : System) : Label → Prop
  | .call _ op env => ∀ o ∈ op.object, s.Closing o → s.MayCall op env o
  | _ => True

instance (s : System) : DecidablePred s.ClosesOnce
  | .call _ op env =>
    inferInstanceAs (Decidable (∀ o ∈ op.object, s.Closing o → s.MayCall op env o))
  | .initProvidedMode .. | .closeProvidedMode .. | .post .. | .read _ | .submit _ | .writeToSelf
  | .returned | .signal | .cancel _ => .isTrue trivial

/-- An object that is flagged has a close request, and this is the last request on it. -/
structure Once (s : System) : Prop where
  /-- An object that is flagged has a close request. -/
  closing : ∀ o, s.Made o → s.loop.closedOf o = true → s.Closing o
  /-- No request on an object is made after that. -/
  last : ∀ o k k', s.closedBy o k = true → s.submittedOn o k' = true → k' ≤ k

/-! ## Requests and their objects -/

/-- What was submitted by a close was submitted on the object. -/
theorem submittedOn_of_closedBy (h : s.closedBy o k = true) : s.submittedOn o k = true := by
  unfold closedBy at h
  unfold submittedOn
  cases hreg : s.registered k with
  | none =>
    rw [hreg] at h
    cases h
  | some reg =>
    simp only [hreg, Option.any_some, decide_eq_true_eq] at h ⊢
    exact h.1

/-- The object of a close request is the one of its slot. -/
theorem object_of_close {payloads : PayloadRef → BufferPayload} {req : Request} {i : ℤ}
    (hreq : req.OfCall k payloads ctx op env) (hop : op.opcode = .close) :
    (req.slot i).object = op.object := by
  have hsocket : (req.slot i).socket = op.socket? k := hreq.socket
  have hfile : (req.slot i).file = op.file k := hreq.file
  rw [RequestSlot.object, hsocket, hfile]
  cases op <;> simp only [Op.opcode] at hop <;> first | rfl | cases hop

/-- A slot in use with a close request. -/
theorem Records.closedBy (h : Records s) {slot : RequestSlot} {index : ℤ}
    (hget : registryGet s.loop.registry index = some slot) (hfuture : slot.future = some k)
    (hop : slot.opcode = .close) (hobject : slot.object = some o) :
    k < s.loop.calls ∧ s.closedBy o k = true := by
  obtain ⟨reg, hreg, hslot⟩ := h.served index k ⟨slot, hget, hfuture⟩
  rw [hget, Option.some.injEq] at hslot
  obtain ⟨hlt, req, idx, payloads, hregslot, hreq⟩ := h.request k reg hreg
  refine ⟨hlt, ?_⟩
  have hopcode : reg.op.opcode = .close := by
    rw [← hreq.opcode, ← hop, hslot, hregslot]
    rfl
  rw [hslot, hregslot, object_of_close hreq hopcode] at hobject
  simp only [System.closedBy, hreg, Option.any_some, decide_eq_true_eq]
  exact ⟨hobject, hopcode⟩

/-! ## The flags after a call -/

/-- A call on an object creates none. -/
theorem creates_of_object (h : op.object = some o) : op.creates k = none := by
  cases op <;> simp only [Op.object] at h <;> first | rfl | cases h

/-- A call that sets a flag closes its object. -/
theorem object_of_marks (h : op.marks = some o) : op.object = some o ∧ op.opcode = .close := by
  cases op <;> simp only [Op.marks] at h <;> first | exact ⟨h, rfl⟩ | cases h

/-- Where a flag was cleared, no flag was set. -/
theorem of_markFlag_false {flags : ObjRef → Bool} {marked : Option ObjRef}
    (h : markFlag marked false flags o = true) : flags o = true ∧ marked ≠ some o := by
  cases marked with
  | none => exact ⟨h, fun h => by cases h⟩
  | some m =>
    by_cases hm : o = m
    · subst hm
      simp [markFlag] at h
    · refine ⟨?_, fun h => hm (Option.some.inj h).symm⟩
      rwa [markFlag, Function.update_of_ne hm] at h

/-- A flag that is set was set before, or is the marked one. -/
theorem of_markFlag_true {flags : ObjRef → Bool} {marked : Option ObjRef}
    (h : markFlag marked true flags o = true) : marked = some o ∨ flags o = true := by
  cases marked with
  | none => exact .inr h
  | some m =>
    by_cases hm : o = m
    · exact .inl (congrArg some hm.symm)
    · rw [markFlag, Function.update_of_ne hm] at h
      exact .inr h

/-- A call that is rejected sets no flag. -/
theorem flag_of_rejected {c : Called} (hcall : s.loop.call ctx op env = .ok c)
    (hfuture : c.future = none) (hflag : c.loop.closedOf o = true) : s.loop.closedOf o = true := by
  rcases (Loop.call_flags hcall).2 with ⟨-, rfl⟩ | ⟨-, htried⟩
  · exact hflag
  · cases htried with
    | full _ _ hflags =>
      rw [hflags] at hflag
      exact (of_markFlag_false hflag).1
    | failed _ _ _ hflags =>
      rw [hflags] at hflag
      exact (of_markFlag_false (of_markFlag_false hflag).1).1
    | accepted _ _ hsome _ =>
      rw [hfuture] at hsome
      cases hsome

/-- A call that is accepted could be accepted. -/
theorem not_mayCall_of_accepted {c : Called} (hcall : s.loop.call ctx op env = .ok c)
    (hfuture : c.future ≠ none) : ¬ s.MayCall op env o ∧
      c.loop.closedOf = markFlag op.marks true (s.loop.freshFlags op) := by
  rcases (Loop.call_flags hcall).2 with ⟨-, rfl⟩ | ⟨hrefuses, htried⟩
  · exact absurd rfl hfuture
  · cases htried with
    | full _ hnone _ => exact absurd hnone hfuture
    | failed _ _ hnone _ => exact absurd hnone hfuture
    | accepted hslot hcan _ hflags =>
      refine ⟨?_, hflags⟩
      rintro (h | h | ⟨h, -⟩)
      · rw [hrefuses] at h
        cases h
      · exact hslot h
      · exact h hcan

/-- What the call of `c` does to the object is harmless: it is not accepted if the object is being
closed, and where it is rejected, the flag is what it was. -/
structure Harmless (s : System) (c : Called) (o : ObjRef) : Prop where
  /-- No request is accepted on an object that is being closed. -/
  rejected : s.Closing o → c.future = none
  /-- A rejected call leaves the flag. -/
  flag : c.future = none → c.loop.closedOf o = s.loop.closedOf o

/-- **The calls that are harmless** are those that the guard lets pass. -/
theorem harmless_iff {c : Called} (hclosing : s.loop.closedOf o = true → s.Closing o)
    (hobject : op.object = some o) (hcall : s.loop.call ctx op env = .ok c) :
    s.Harmless c o ↔ (s.Closing o → s.MayCall op env o) := by
  have hfresh : s.loop.freshFlags op = s.loop.closedOf := by
    rw [Loop.freshFlags, creates_of_object hobject]
    rfl
  rcases (Loop.call_flags hcall).2 with ⟨hrefuses, rfl⟩ | ⟨hrefuses, htried⟩
  · exact iff_of_true ⟨fun _ => rfl, fun _ => rfl⟩ fun _ => .inl hrefuses
  cases htried with
  | full hfull hnone hflags =>
    exact iff_of_true ⟨fun _ => hnone, fun _ => by rw [hflags, hfresh]⟩ fun _ => .inr (.inl hfull)
  | accepted hslot hcan hsome hflags =>
    have hne : c.future ≠ none := by simp [hsome]
    constructor
    · intro h hc
      exact absurd (h.rejected hc) hne
    · intro h
      exact ⟨fun hc => absurd (h hc) (not_mayCall_of_accepted hcall hne).1, fun h => absurd h hne⟩
  | failed hslot hcan hnone hflags =>
    rw [hfresh] at hflags
    have hmay : s.MayCall op env o ↔ (op.marks = some o → s.loop.closedOf o = false) := by
      constructor
      · rintro (h | h | ⟨-, h⟩)
        · rw [hrefuses] at h
          cases h
        · exact absurd h hslot
        · exact h
      · exact fun h => .inr (.inr ⟨hcan, h⟩)
    rw [hmay]
    constructor
    · intro h _ hmarks
      have hflag := h.flag hnone
      rw [hflags, hmarks, markFlag, Function.update_self] at hflag
      exact hflag.symm
    · intro h
      refine ⟨fun _ => hnone, fun _ => ?_⟩
      rw [hflags]
      cases hmarks : op.marks with
      | none => rfl
      | some m =>
        obtain rfl : m = o := Option.some.inj ((object_of_marks hmarks).1.symm.trans hobject)
        -- The flag that is cleared was clear: else the object is being closed.
        have hclear : s.loop.closedOf m = false := by
          by_contra hset
          have hset := Bool.eq_true_of_not_eq_false hset
          have := h (hclosing hset) hmarks
          rw [hset] at this
          cases this
        rw [markFlag, Function.update_self, hclear]

/-! ## The invariant -/

/-- The number of an accepted call is below that of the next one. -/
theorem Records.lt_of_submittedOn (h : Records s) (hk : s.submittedOn o k = true) :
    k < s.loop.calls := by
  unfold submittedOn at hk
  cases hreg : s.registered k with
  | none =>
    rw [hreg] at hk
    cases hk
  | some reg => exact (h.request k reg hreg).1

/-- An object with a close in flight is closing. -/
theorem Records.closing (h : Records s) (hk : s.closedBy o k = true) : s.Closing o :=
  ⟨k, h.lt_of_submittedOn (submittedOn_of_closedBy hk), hk⟩

/-- A step that registers nothing. -/
theorem Once.same (h : Once s) (hreg : s'.registered = s.registered)
    (hcalls : s.loop.calls ≤ s'.loop.calls)
    (hflags : ∀ o, s'.Made o → s'.loop.closedOf o = true →
      s.Made o ∧ s.loop.closedOf o = true ∨ s.Closing o) : Once s' where
  closing o hmade hflag := by
    have hold : s.Closing o :=
      (hflags o hmade hflag).elim (fun ⟨hm, hf⟩ => h.closing o hm hf) id
    obtain ⟨k, hk, hclosed⟩ := hold
    refine ⟨k, lt_of_lt_of_le hk hcalls, ?_⟩
    unfold closedBy
    rw [hreg]
    exact hclosed
  last o k k' hk hk' := by
    unfold closedBy at hk
    unfold submittedOn at hk'
    rw [hreg] at hk hk'
    exact h.last o k k' hk hk'

/-- The objects that exist depend on what is registered and on the connections. -/
theorem made_congr (hreg : s'.registered = s.registered)
    (haccepted : s'.loop.accepted = s.loop.accepted) : s'.Made o ↔ s.Made o := by
  cases o with
  | file f => simp only [Made, hreg]
  | socket t => cases t <;> simp only [Made, hreg, haccepted]
  | future k => rfl

/-- An object that exists after a call existed before, if it is not the one that the call creates.
-/
theorem made_of_called (haccepted : s'.loop.accepted = s.loop.accepted)
    (hat : ∀ k, k ≠ s.loop.calls → s'.registered k = s.registered k)
    (hnew : (s'.registered s.loop.calls).map Registered.op = some op)
    (hfresh : op.creates s.loop.calls ≠ some o) (hmade : s'.Made o) : s.Made o := by
  obtain ⟨reg, hreg, hop⟩ := Option.map_eq_some_iff.mp hnew
  cases o with
  | future j => exact hmade
  | file f =>
    by_cases hf : f = s.loop.calls
    · subst hf
      simp only [Made, hreg, Option.any_some, decide_eq_true_eq, hop] at hmade
      cases op <;> simp only [Op.opcode] at hmade <;> first | exact absurd rfl hfresh | cases hmade
    · rwa [Made, hat f hf] at hmade
  | socket t =>
    cases t with
    | accepted j n => rwa [Made, haccepted] at hmade
    | made j =>
      by_cases hj : j = s.loop.calls
      · subst hj
        simp only [Made, hreg, Option.any_some, decide_eq_true_eq, hop] at hmade
        cases op <;> simp only [Op.opcode] at hmade <;>
          first | exact absurd rfl hfresh | cases hmade
      · rwa [Made, hat j hj] at hmade

/-- Calls keep the invariant. -/
theorem Once.call (h : Once s) (hs : s.loop.Sound) (hr : Records s)
    (hok : s.ClosesOnce (.call ctx op env)) (hstep : step s (.call ctx op env) = some s') :
    Once s' := by
  have hle := calls_le hstep hs
  obtain ⟨-, c, hcall, rfl⟩ := call_step hstep
  have haccepted : (s.called ctx op env c).loop.accepted = s.loop.accepted := by
    rw [called_loop]
    exact (Loop.call_flags hcall).1
  rcases called_cases hs hcall with ⟨hrej, -, hreg⟩ | ⟨req, idx, e, hacc, -, hreg⟩
  · refine h.same hreg hle fun o hmade hflag => .inl ⟨(made_congr hreg haccepted).mp hmade, ?_⟩
    rw [called_loop] at hflag
    exact flag_of_rejected hcall hrej.future hflag
  · have hne : c.future ≠ none := by simp [hacc.future]
    have hcalls : (s.called ctx op env c).loop.calls = s.loop.calls + 1 := by
      rw [called_loop]
      exact hacc.calls
    -- What is registered under a number, after the call.
    have hat : ∀ k, k ≠ s.loop.calls → (s.called ctx op env c).registered k = s.registered k :=
      fun k hk => by rw [hreg, Function.update_of_ne hk]
    have hnew : (s.called ctx op env c).registered s.loop.calls =
        some ⟨ctx, op, env, req.slot idx⟩ := by rw [hreg, Function.update_self]
    have hstays : ∀ o, s.Closing o → (s.called ctx op env c).Closing o := by
      rintro o ⟨k, hk, hclosed⟩
      refine ⟨k, hcalls ▸ Nat.lt_succ_of_lt hk, ?_⟩
      unfold closedBy
      rw [hat k hk.ne]
      exact hclosed
    constructor
    · intro o hmade hflag
      rw [called_loop, (not_mayCall_of_accepted (o := o) hcall hne).2] at hflag
      rcases of_markFlag_true hflag with hmarks | hold
      · -- The call itself closes the object.
        obtain ⟨hobject, hop⟩ := object_of_marks hmarks
        refine ⟨s.loop.calls, hcalls ▸ Nat.lt_succ_self _, ?_⟩
        simp [closedBy, hnew, hobject, hop]
      · obtain ⟨hold, hfresh⟩ := of_markFlag_false hold
        refine hstays o (h.closing o ?_ hold)
        exact made_of_called haccepted hat (congrArg (Option.map Registered.op) hnew) hfresh hmade
    · intro o k k' hk hk'
      by_cases hk'new : k' = s.loop.calls
      · -- The new request: nothing on its object was being closed.
        by_cases hknew : k = s.loop.calls
        · exact le_of_eq (hk'new.trans hknew.symm)
        · subst hk'new
          simp only [submittedOn, hnew, Option.any_some, decide_eq_true_eq] at hk'
          simp only [closedBy, hat k hknew] at hk
          exact absurd (hok o hk' (hr.closing hk)) (not_mayCall_of_accepted hcall hne).1
      · simp only [submittedOn, hat k' hk'new] at hk'
        by_cases hknew : k = s.loop.calls
        · rw [hknew]
          exact (hr.lt_of_submittedOn hk').le
        · simp only [closedBy, hat k hknew] at hk
          exact h.last o k k' hk hk'

/-- The reader keeps the invariant: the object that it flags is that of a close request. -/
theorem Once.read {renv : ReadEnv} (h : Once s) (hs : s.loop.Sound) (hr : Records s)
    (hstep : step s (.read renv) = some s') : Once s' := by
  have hle := calls_le hstep hs
  obtain ⟨c, cq, r, -, hread, rfl⟩ := read_step hstep
  refine h.same rfl hle fun o hmade hflag => ?_
  have hshut : r.loop.Shut o := by
    refine ⟨hflag, fun k n hn => ?_⟩
    subst hn
    exact hmade
  rcases Loop.read_flags hread hshut with ⟨hold, hthere⟩ | ⟨slot, k, hget, hfuture, hop, hobject⟩
  · refine .inl ⟨?_, hold⟩
    cases o with
    | file f => exact hmade
    | socket t =>
      cases t with
      | made j => exact hmade
      | accepted j n => exact hthere j n rfl
    | future j => exact hmade
  · exact .inr (hr.closing (hr.closedBy hget hfuture hop hobject).2)

/-- **Steps keep the invariant.** -/
theorem Once.step (h : Once s) (hs : s.loop.Sound) (hr : Records s) (hok : s.ClosesOnce l)
    (hstep : step s l = some s') : Once s' := by
  cases l with
  | call ctx op env => exact h.call hs hr hok hstep
  | read renv => exact h.read hs hr hstep
  | initProvidedMode | closeProvidedMode | submit | returned | writeToSelf | signal =>
    cases hstep
    exact h.same rfl le_rfl fun _ hm hf => .inl ⟨hm, hf⟩
  | post n res flags into data =>
    obtain ⟨f, -, -, -, -, rfl⟩ := post_step hstep
    exact h.same rfl le_rfl fun _ hm hf => .inl ⟨hm, hf⟩
  | cancel f =>
    simp only [System.step] at hstep
    split at hstep
    · cases hstep
      exact h.same rfl le_rfl fun _ hm hf => .inl ⟨hm, hf⟩
    · cases hstep

/-- Nothing exists yet. -/
theorem once_init {registry_size : ℕ} {h : registry_size < 2^31} {world : World} {env : InitEnv} :
    Once (System.init registry_size h world env) where
  closing o hmade _ := by
    cases o with
    | file f => cases hmade
    | socket t =>
      cases t with
      | made j => cases hmade
      | accepted j n => exact absurd hmade (Nat.not_lt_zero n)
    | future j => exact hmade.elim
  last o k k' hk _ := by cases hk

/-- **Every state that a guarded run reaches satisfies the invariant.** -/
theorem once_of_run (ht : Tracked s) (hr : Records s) (h : Once s)
    (hrun : Run System.step ClosesOnce s s') : Once s' := by
  have hall : Tracked s' ∧ Records s' ∧ Once s' :=
    hrun.invariant (P := fun s => Tracked s ∧ Records s ∧ Once s) ⟨ht, hr, h⟩
      fun _ _ _ hinv hok hstep => ⟨hinv.1.step hstep, hinv.2.1.step hinv.1.sound hstep,
        hinv.2.2.step hinv.1.sound hinv.2.1 hok hstep⟩
  exact hall.2.2

/-! ## The claim -/

/-- **A descriptor is closed once**, in a run in which no call that could be accepted is made on an
object that is being closed: at most one close request is accepted for an object, and no request
after it; and of the next call on an object, the guard decides whether it is harmless. -/
theorem closed_once_iff (registry_size : ℕ) (h : registry_size < 2^31) {world : World}
    (hworld : world.ContextsSound) (env : InitEnv)
    (hrun : Run step ClosesOnce (init registry_size h world env) s) :
    (∀ o k k', s.closedBy o k = true → s.closedBy o k' = true → k = k') ∧
    (∀ o k k', s.closedBy o k = true → s.submittedOn o k' = true → k' ≤ k) ∧
    ∀ ctx op cenv c o, op.object = some o → s.Made o → s.loop.call ctx op cenv = .ok c →
      (s.Harmless c o ↔ (s.Closing o → s.MayCall op cenv o)) := by
  have ho : Once s := once_of_run (tracked_init hworld) records_init once_init hrun
  refine ⟨fun o k k' hk hk' => ?_, ho.last, fun ctx op cenv c o hobject hmade hcall => ?_⟩
  · exact le_antisymm (ho.last o k' k hk' (submittedOn_of_closedBy hk))
      (ho.last o k k' hk (submittedOn_of_closedBy hk'))
  · exact harmless_iff (ho.closing o hmade) hobject hcall

/-- A file is opened and closed. `__aexit__` is called while the registry is full, and `close` again
after the completion was read. -/
def carefulClose : List Label :=
  [.call Sample.context (.open "f" (-100) 0 0 0 .zero) Sample.callEnv, .post 2 9 0 [] [],
    .read Sample.readEnv, .call Sample.context (.closeFile 0 .zero) Sample.callEnv,
    .call Sample.context (.aexitFile 0) Sample.callEnv, .post 2 0 0 [] [],
    .read Sample.readEnv, .call Sample.context (.closeFile 0 .zero) Sample.callEnv]

/-- The file is closed by the first call only. -/
theorem closed_once_carefulClose : ∃ s,
    exec step ClosesOnce (sample 1 (by decide)) carefulClose = some s ∧
    s.loop.closedOf (.file 0) = true ∧ s.closedBy (.file 0) 1 = true ∧
    ∀ k, s.submittedOn (.file 0) k = true → k ≤ 1 := by
  obtain ⟨s, hs, hf⟩ := Option.map_eq_some_iff.mp
    (show (exec step ClosesOnce (sample 1 (by decide)) carefulClose).map
      (fun s => (s.loop.closedOf (.file 0), s.closedBy (.file 0) 1)) = some (true, true) by
        decide +kernel)
  obtain ⟨hflag, hclosed⟩ := Prod.mk.inj hf
  have honce := closed_once_iff 1 (by decide) Sample.world_sound Sample.initEnv (.of_exec hs)
  exact ⟨s, hs, hflag, hclosed, fun k hk => honce.2.1 _ 1 k hclosed hk⟩

/-- A file is opened, and closed twice before a completion is read; then its block is left. -/
def hastyClose : List Label :=
  [.call Sample.context (.open "f" (-100) 0 0 0 .zero) Sample.callEnv, .post 2 9 0 [] [],
    .read Sample.readEnv, .call Sample.context (.closeFile 0 .zero) Sample.callEnv,
    .call Sample.context (.closeFile 0 .zero) Sample.callEnv,
    .call Sample.context (.aexitFile 0) Sample.callEnv]

/-- All three close requests are accepted. -/
theorem hastyClose_not_once : ∃ s,
    Run step anyStep (init 3 (by decide) Sample.world Sample.initEnv) s ∧ s.Made (.file 0) ∧
    s.closedBy (.file 0) 1 = true ∧ s.closedBy (.file 0) 2 = true ∧
    s.closedBy (.file 0) 3 = true := by
  obtain ⟨s, hs, hf⟩ := Option.map_eq_some_iff.mp
    (show (exec step anyStep (sample 3 (by decide)) hastyClose).map
      (fun s => ((s.registered 0).any fun reg => reg.op.opcode = .openat2,
        s.closedBy (.file 0) 1, s.closedBy (.file 0) 2, s.closedBy (.file 0) 3)) =
        some (true, true, true, true) by decide +kernel)
  simp only [Prod.mk.injEq] at hf
  exact ⟨s, .of_exec hs, hf⟩

end System

end Uringio
