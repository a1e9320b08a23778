import Uringio.Loop.Reading
import Uringio.Loop.Submitting

/-!
# The flag `closed`

Files and sockets have a flag `closed` that most calls look at first. It is written in four places:
a new object has it cleared; a socket's `close` and the two `__aexit__` set it before they submit
and clear it again when that fails; the reader sets it when a close request completes; and a file's
`close` leaves it to the reader. `call_flags` says when a call is refused, when it fails and when it
is accepted, and what each leaves of the flags; `read_flags` says that the reader sets the flag of
the object of a close request and no other.
-/

namespace Uringio

/-- A flag for each object; futures have none. -/
def Loop.closedOf (L : Loop) : ObjRef → Bool
  | .file f => (L.files f).closed
  | .socket s => (L.sockets s).closed
  | .future _ => false

/-- The flags with that of one object, if there is one, set to the given value. -/
def markFlag (o : Option ObjRef) (closed : Bool) (flags : ObjRef → Bool) : ObjRef → Bool :=
  match o with
  | none => flags
  | some o => Function.update flags o closed

namespace Op

/-- The object that the call is made on. -/
def object : Op → Option ObjRef
  | .open .. | .socket .. | .timer .. => none
  | .read f .. | .readv f .. | .readvRaw f .. | .write f .. | .writev f .. | .writevRaw f ..
  | .fsync f .. | .fdatasync f .. | .splice f .. | .closeFile f .. | .aexitFile f => some (.file f)
  | .bind s .. | .connect s .. | .listen s .. | .accept s .. | .closeSocket s .. | .aexitSocket s
  | .send s .. | .recv s .. | .sendto s .. | .recvfrom s .. | .sendmsg s .. | .recvmsg s .. =>
    some (.socket s)

/-- The object that call number `k` creates. -/
def creates (k : ℕ) : Op → Option ObjRef
  | .open .. => some (.file k)
  | .socket .. => some (.socket (.made k))
  | _ => none

/-- The call is refused on a closed object. -/
def checksClosed : Op → Bool
  | .aexitFile _ | .aexitSocket _ => false
  | _ => true

/-- The object whose flag the call sets before it submits. -/
def marks : Op → Option ObjRef
  | .aexitFile f => some (.file f)
  | .closeSocket s _ | .aexitSocket s => some (.socket s)
  | _ => none

end Op

/-- The call is made on a closed object and looks at its flag. -/
def Loop.refuses (L : Loop) (op : Op) : Bool := op.checksClosed && op.object.any L.closedOf

/-- The loop that the switch of the reader leaves. -/
def Disposition.loop : Disposition → Loop
  | .leave L => L
  | .finish L _ _ => L

/-- The object of a request; a socket goes before a file. -/
def RequestSlot.object (slot : RequestSlot) : Option ObjRef :=
  match slot.socket with
  | some s => some (.socket s)
  | none => slot.file.map .file

namespace Loop

variable {L L₁ M : Loop} {ctx : ExecutionContext} {op : Op} {env : CallEnv} {c : Called}
  {a : Attempt} {can : Ring → Prop} {d : Dispatched} {p : PayloadRef} {closed : Bool}
  {req : Request} {dispatch : Loop → ℤ → Except Fault Dispatched}

/-! ## The calls -/

/-- What an attempt does to the flags: the one of `marked` is set before the dispatcher and cleared
again when that fails. -/
structure FlagSpec (marked : Option ObjRef) (can : Ring → Prop) (a : Attempt) : Prop where
  /-- What is given up when the registry is full changes no flag. -/
  full : ∀ M : Loop, (a.full M).closedOf = M.closedOf ∧ (a.full M).accepted = M.accepted
  /-- The flag is set before the dispatcher. -/
  before : ∀ M : Loop, (a.before M).closedOf = markFlag marked true M.closedOf ∧
    (a.before M).accepted = M.accepted ∧ (a.before M).ring = M.ring
  /-- It is cleared again when the dispatcher fails. -/
  failed : ∀ M : Loop, (a.failed M).closedOf = markFlag marked false M.closedOf ∧
    (a.failed M).accepted = M.accepted
  /-- The dispatcher leaves the flags, and submits if the queue allows it. -/
  dispatch : ∀ (M : Loop) idx d, a.dispatch M idx = .ok d → Submitting can M d

/-- The flags with that of the object that the call creates cleared. -/
def freshFlags (L : Loop) (op : Op) : ObjRef → Bool :=
  markFlag (op.creates L.calls) false L.closedOf

/-- The call is an attempt on a loop that differs from `L` in payloads and in what is new, unless
its object is closed. -/
def FlagShape (L : Loop) (op : Op) (env : CallEnv) (result : Except Fault Called) : Prop :=
  ∃ (L₁ : Loop) (a : Attempt), result = L.unlessClosed (L.refuses op) (L₁.attempt a) ∧
    (L₁.ring = L.ring ∧ L₁.registry = L.registry ∧ L₁.calls = L.calls ∧
      L₁.accepted = L.accepted) ∧
    L₁.closedOf = L.freshFlags op ∧ FlagSpec op.marks (op.canSubmit env) a

/-- The flags are those of the files and the sockets. -/
theorem closedOf_congr (hfiles : L₁.files = L.files) (hsockets : L₁.sockets = L.sockets) :
    L₁.closedOf = L.closedOf := by
  funext o
  cases o with
  | file f => exact congrArg (fun g => (g f).closed) hfiles
  | socket s => exact congrArg (fun g => (g s).closed) hsockets
  | future k => rfl

/-- A flag of a file is set. -/
theorem closedOf_setFileClosed (f : FileRef) (closed : Bool) :
    (M.setFileClosed f closed).closedOf = markFlag (some (.file f)) closed M.closedOf := by
  funext o
  cases o with
  | file g =>
    by_cases hg : g = f
    · subst hg
      simp [closedOf, setFileClosed, markFlag]
    · simp [closedOf, setFileClosed, markFlag, hg]
  | socket s => simp [closedOf, setFileClosed, markFlag]
  | future k => simp [closedOf, markFlag]

/-- A flag of a socket is set. -/
theorem closedOf_setSocketClosed (s : SocketRef) (closed : Bool) :
    (M.setSocketClosed s closed).closedOf = markFlag (some (.socket s)) closed M.closedOf := by
  funext o
  cases o with
  | socket t =>
    by_cases ht : t = s
    · subst ht
      simp [closedOf, setSocketClosed, markFlag]
    · simp [closedOf, setSocketClosed, markFlag, ht]
  | file f => simp [closedOf, setSocketClosed, markFlag]
  | future k => simp [closedOf, markFlag]

/-- A new file is not closed. -/
theorem closedOf_newFile (L : Loop) :
    L.newFile.closedOf = markFlag (some (.file L.calls)) false L.closedOf :=
  closedOf_setFileClosed L.calls false

/-- A new socket is not closed. -/
theorem closedOf_newSocket (L : Loop) (domain : ℤ) :
    (L.newSocket domain).closedOf =
      markFlag (some (.socket (.made L.calls))) false L.closedOf := by
  funext o
  cases o with
  | socket t =>
    by_cases ht : t = .made L.calls
    · subst ht
      simp [closedOf, newSocket, markFlag]
    · simp [closedOf, newSocket, markFlag, ht]
  | file f => simp [closedOf, newSocket, markFlag]
  | future k => simp [closedOf, markFlag]

/-- Freeing a payload closes nothing. -/
theorem closedOf_freeBufferPayload (p : Option PayloadRef) (force : Bool) :
    (M.freeBufferPayload p force).closedOf = M.closedOf ∧
      (M.freeBufferPayload p force).accepted = M.accepted := by
  unfold freeBufferPayload
  split
  · exact ⟨rfl, rfl⟩
  · split <;> exact ⟨rfl, rfl⟩

/-- A call that leaves all flags alone. -/
theorem flagSpec_plain
    (hfull : ∀ M : Loop, (a.full M).closedOf = M.closedOf ∧ (a.full M).accepted = M.accepted)
    (hbefore : a.before = id) (hfailed : a.failed = id)
    (hd : ∀ (M : Loop) idx d, a.dispatch M idx = .ok d → Submitting can M d) :
    FlagSpec none can a where
  full := hfull
  before := fun M => by
    rw [hbefore]
    exact ⟨rfl, rfl, rfl⟩
  failed := fun M => by
    rw [hfailed]
    exact ⟨rfl, rfl⟩
  dispatch := hd

/-- A dispatcher whose submission succeeds whenever the queue allows it. -/
theorem submitting_canSubmit (hop : op.supported = true)
    (h : Submitting (fun ring => CanSubmit ring op.timeoutParams env.submitted) M d) :
    Submitting (op.canSubmit env) M d :=
  { h with result := h.result.trans ⟨fun hcan => ⟨hop, hcan⟩, fun hcan => hcan.2⟩ }

/-- A call on an existing object that builds no payload and leaves the flags alone. -/
theorem flags_bare (hclosed : closed = L.refuses op) (hfull : a.full = id)
    (hbefore : a.before = id) (hfailed : a.failed = id) (hcreates : op.creates L.calls = none)
    (hmarks : op.marks = none) (hop : op.supported = true)
    (hd : ∀ (M : Loop) idx d, a.dispatch M idx = .ok d →
      Submitting (fun ring => CanSubmit ring op.timeoutParams env.submitted) M d) :
    FlagShape L op env (L.unlessClosed closed (L.attempt a)) := by
  subst hclosed
  refine ⟨L, a, rfl, ⟨rfl, rfl, rfl, rfl⟩, ?_, ?_⟩
  · rw [freshFlags, hcreates]
    rfl
  · rw [hmarks]
    refine flagSpec_plain (fun M => ?_) hbefore hfailed fun M idx d h =>
      submitting_canSubmit hop (hd M idx d h)
    rw [hfull]
    exact ⟨rfl, rfl⟩

/-- A call on an existing object that builds a payload. -/
theorem flags_attempt (hp : OnlyPayloads L L₁) (hclosed : closed = L.refuses op)
    (hfull : ∀ M : Loop, (a.full M).closedOf = M.closedOf ∧ (a.full M).accepted = M.accepted)
    (hbefore : a.before = id) (hfailed : a.failed = id) (hcreates : op.creates L.calls = none)
    (hmarks : op.marks = none) (hop : op.supported = true)
    (hd : ∀ (M : Loop) idx d, a.dispatch M idx = .ok d →
      Submitting (fun ring => CanSubmit ring op.timeoutParams env.submitted) M d) :
    FlagShape L op env (L.unlessClosed closed (L₁.attempt a)) := by
  obtain ⟨payloads, rfl⟩ := hp
  subst hclosed
  refine ⟨_, a, rfl, ⟨rfl, rfl, rfl, rfl⟩, ?_, ?_⟩
  · rw [freshFlags, hcreates]
    rfl
  · rw [hmarks]
    exact flagSpec_plain hfull hbefore hfailed fun M idx d h =>
      submitting_canSubmit hop (hd M idx d h)

/-- A call whose request holds the payload that it builds. -/
theorem flags_withPayload (hp : OnlyPayloads L L₁) (hclosed : closed = L.refuses op)
    (hcreates : op.creates L.calls = none) (hmarks : op.marks = none) (hop : op.supported = true)
    (hd : ∀ (M : Loop) idx d, dispatch M idx = .ok d →
      Submitting (fun ring => CanSubmit ring op.timeoutParams env.submitted) M d) :
    FlagShape L op env (L.unlessClosed closed (L₁.withPayload p req dispatch)) :=
  flags_attempt hp hclosed (fun _ => closedOf_freeBufferPayload _ _) rfl rfl hcreates hmarks hop hd

/-- A call that closes an object, and sets its flag meanwhile. -/
theorem flags_close {o : ObjRef} {f : Bool → Loop → Loop} (hclosed : closed = L.refuses op)
    (hset : ∀ b (M : Loop), (f b M).closedOf = markFlag (some o) b M.closedOf ∧
      (f b M).accepted = M.accepted ∧ (f b M).ring = M.ring)
    (hfull : a.full = id) (hbefore : a.before = f true) (hfailed : a.failed = f false)
    (hcreates : op.creates L.calls = none) (hmarks : op.marks = some o)
    (hop : op.supported = true)
    (hd : ∀ (M : Loop) idx d, a.dispatch M idx = .ok d →
      Submitting (fun ring => CanSubmit ring op.timeoutParams env.submitted) M d) :
    FlagShape L op env (L.unlessClosed closed (L.attempt a)) := by
  subst hclosed
  refine ⟨L, a, rfl, ⟨rfl, rfl, rfl, rfl⟩, ?_, ?_⟩
  · rw [freshFlags, hcreates]
    rfl
  · rw [hmarks]
    exact
      { full := fun M => by rw [hfull]; exact ⟨rfl, rfl⟩
        before := fun M => by rw [hbefore]; exact hset true M
        failed := fun M => by rw [hfailed]; exact ⟨(hset false M).1, (hset false M).2.1⟩
        dispatch := fun M idx d h => submitting_canSubmit hop (hd M idx d h) }

/-- **Every call has the shape.** -/
theorem call_flagShape (L : Loop) (ctx : ExecutionContext) (op : Op) (env : CallEnv) :
    FlagShape L op env (L.call ctx op env) := by
  have hself : OnlyPayloads L L := ⟨L.payloads, rfl⟩
  cases op with
  | «open» path dfd flags resolve mode tp =>
    refine ⟨L.newFile, _, rfl, ⟨rfl, rfl, rfl, rfl⟩, closedOf_newFile L,
      flagSpec_plain (fun _ => ⟨rfl, rfl⟩) rfl rfl fun M idx d h => ?_⟩
    cases h
    exact submitting_canSubmit rfl submitting_request_self
  | socket domain socktype tp =>
    refine ⟨L.newSocket domain, _, rfl, ⟨rfl, rfl, rfl, rfl⟩, closedOf_newSocket L domain,
      flagSpec_plain (fun _ => ⟨rfl, rfl⟩) rfl rfl fun M idx d h => ?_⟩
    cases h
    refine submitting_of_result ((prepSocket_result domain socktype).trans ?_)
    simp [Op.canSubmit, Op.supported, Op.timeoutParams]
  | timer sec nsec count is_multishot =>
    refine flags_bare (show false = _ from rfl) rfl rfl rfl rfl rfl rfl fun M idx d h => ?_
    cases h
    exact submitting_of_result (timer_result _)
  | fsync f tp | fdatasync f tp | splice f src dst count offset_src offset_dst flag tp
  | closeFile f tp | bind s tp | connect s tp | listen s backlog tp =>
    refine flags_bare rfl rfl rfl rfl rfl rfl rfl fun M idx d h => ?_
    cases h
    exact submitting_request_self
  | accept s tp =>
    refine flags_bare rfl rfl rfl rfl rfl rfl rfl fun M idx d h => ?_
    cases h
    exact acceptDispatcher_submitting _ _ _
  | aexitFile f =>
    refine flags_close (f := fun b M => M.setFileClosed f b) (show false = _ from rfl)
      (fun b M => ⟨closedOf_setFileClosed f b, rfl,
        rfl⟩) rfl rfl rfl rfl rfl rfl fun M idx d h => ?_
    cases h
    exact submitting_request_self
  | aexitSocket s =>
    refine flags_close (f := fun b M => M.setSocketClosed s b) (show false = _ from rfl)
      (fun b M => ⟨closedOf_setSocketClosed s b, rfl,
        rfl⟩) rfl rfl rfl rfl rfl rfl fun M idx d h => ?_
    cases h
    exact submitting_request_self
  | closeSocket s tp =>
    refine flags_close (f := fun b M => M.setSocketClosed s b) rfl
      (fun b M => ⟨closedOf_setSocketClosed s b, rfl,
        rfl⟩) rfl rfl rfl rfl rfl rfl fun M idx d h => ?_
    cases h
    exact submitting_request_self
  | read f offset size tp =>
    exact flags_withPayload (onlyPayloads_linear none size) rfl rfl rfl rfl fun _ _ _ h =>
      readDispatcher_submitting h
  | readv f buffers offset nowait tp =>
    exact flags_withPayload (onlyPayloads_readv buffers) rfl rfl rfl rfl fun _ _ _ h =>
      readvDispatcher_submitting h
  | readvRaw f iovecs offset nowait tp =>
    refine flags_withPayload ⟨_, rfl⟩ rfl rfl rfl rfl fun M idx d h => ?_
    obtain ⟨v, -, h⟩ := bind_eq_ok.mp h
    cases h
    exact submitting_request_self
  | write f data offset tp =>
    exact flags_withPayload ⟨_, rfl⟩ rfl rfl rfl rfl fun _ _ _ h => writeDispatcher_submitting h
  | writev f buffers flags offset tp =>
    refine flags_withPayload (onlyPayloads_vectored (some buffers)) rfl rfl rfl rfl
      fun M idx d h => ?_
    obtain ⟨v, -, h⟩ := bind_eq_ok.mp h
    cases h
    exact submitting_request_self
  | writevRaw f iovecs flags offset tp =>
    refine flags_withPayload ⟨_, rfl⟩ rfl rfl rfl rfl fun M idx d h => ?_
    obtain ⟨v, -, h⟩ := bind_eq_ok.mp h
    cases h
    exact submitting_request_self
  | send s data is_poll_first tp =>
    exact flags_withPayload ⟨_, rfl⟩ rfl rfl rfl rfl fun _ _ _ h => sendDispatcher_submitting h
  | recv s bufsize buffer is_poll_first tp =>
    exact flags_withPayload (onlyPayloads_linear buffer bufsize) rfl rfl rfl rfl fun _ _ _ h =>
      recvDispatcher_submitting h
  | sendto s data domain is_poll_first tp =>
    refine flags_attempt ⟨_, rfl⟩ rfl (fun _ => closedOf_freeBufferPayload _ _) rfl rfl rfl rfl rfl
      fun M idx d h => ?_
    obtain ⟨b, -, h⟩ := bind_eq_ok.mp h
    cases h
    exact submitting_request_self
  | recvfrom s bufsize buffer domain is_poll_first tp =>
    refine flags_attempt (onlyPayloads_linear buffer (CInt.toInt bufsize)) rfl
      (fun _ => closedOf_freeBufferPayload _ _) rfl rfl rfl rfl rfl fun M idx d h => ?_
    obtain ⟨b, -, h⟩ := bind_eq_ok.mp h
    cases h
    exact submitting_request_self
  | sendmsg s buffers domain is_poll_first tp =>
    exact flags_withPayload (onlyPayloads_vectored (some buffers)) rfl rfl rfl rfl fun _ _ _ h =>
      sendmsgDispatcher_submitting h
  | recvmsg s buffers is_poll_first tp =>
    exact flags_withPayload (onlyPayloads_vectored (some buffers)) rfl rfl rfl rfl fun _ _ _ h =>
      recvmsgDispatcher_submitting h

/-- The removal of a request leaves the flags. -/
theorem registryRemove_closedOf {index : ℤ} (h : L.registryRemove index = .ok L₁) :
    L₁.closedOf = L.closedOf ∧ L₁.accepted = L.accepted := by
  unfold registryRemove at h
  split at h
  · cases h
  · next registry es _ =>
    cases h
    have hsame := applyEffects_sameBut { L with registry := registry } es
    exact ⟨closedOf_congr hsame.files hsame.sockets, hsame.accepted⟩

/-- The loop with its new request. -/
theorem acquires_eq (L : Loop) (registry : RequestRegistry) (req : Request) :
    ∃ refs, { L.createFuture with registry := registry }.applyEffects (RequestSlot.acquires req) =
      { L.createFuture with registry := registry, refs := refs } :=
  applyEffects_acquires { L.createFuture with registry := registry } req

/-- To set a flag and clear it again is to clear it. -/
theorem markFlag_markFlag (o : Option ObjRef) (b b' : Bool) (flags : ObjRef → Bool) :
    markFlag o b (markFlag o b' flags) = markFlag o b flags := by
  cases o with
  | none => rfl
  | some o => exact Function.update_idem _ _ _

/-- What becomes of a call that is not refused, and what it leaves of the flags. -/
inductive Tried (L : Loop) (op : Op) (env : CallEnv) (c : Called) : Prop
  /-- The registry is full. -/
  | full (hfull : L.registry.available_indices.entries = []) (hfuture : c.future = none)
      (hflags : c.loop.closedOf = L.freshFlags op)
  /-- The submission fails. -/
  | failed (hslot : L.registry.available_indices.entries ≠ []) (hcan : ¬ op.canSubmit env L.ring)
      (hfuture : c.future = none)
      (hflags : c.loop.closedOf = markFlag op.marks false (L.freshFlags op))
  /-- The call is accepted. -/
  | accepted (hslot : L.registry.available_indices.entries ≠ []) (hcan : op.canSubmit env L.ring)
      (hfuture : c.future = some L.calls)
      (hflags : c.loop.closedOf = markFlag op.marks true (L.freshFlags op))

/-- **What a call does to the flags**, and when it is accepted. -/
theorem call_flags (h : L.call ctx op env = .ok c) :
    c.loop.accepted = L.accepted ∧
      (L.refuses op = true ∧ c = L.refused ∨ L.refuses op = false ∧ Tried L op env c) := by
  obtain ⟨L₁, a, hcall, ⟨hring, hreg, hcalls, haccepted⟩, hfresh, ha⟩ := call_flagShape L ctx op env
  rw [hcall, unlessClosed] at h
  cases hrefuses : L.refuses op with
  | true =>
    rw [if_pos hrefuses] at h
    cases h
    exact ⟨rfl, .inl ⟨rfl, rfl⟩⟩
  | false =>
    rw [if_neg (by rw [hrefuses]; exact Bool.false_ne_true)] at h
    unfold attempt at h
    rcases registryAdd_cases L₁.registry a.request with
      ⟨hempty, hadd⟩ | ⟨idx, reg, hadd, hr, hstack, -⟩
    · rw [hadd] at h
      simp only [show (-1 : ℤ) < 0 by decide, if_true, Except.ok.injEq] at h
      subst h
      obtain ⟨hflags, hacc⟩ := ha.full L₁.createFuture
      exact ⟨hacc.trans haccepted, .inr ⟨rfl, .full (hreg ▸ hempty) rfl (hflags.trans hfresh)⟩⟩
    · have hslot : L.registry.available_indices.entries ≠ [] := by
        rw [← hreg, hstack]
        exact List.append_ne_nil_of_right_ne_nil _ (List.cons_ne_nil _ _)
      rw [hadd] at h
      simp only [show ¬ idx < 0 by have := hr.1; omega, if_false] at h
      obtain ⟨d, hd, h⟩ := bind_eq_ok.mp h
      obtain ⟨refs, hrefs⟩ := acquires_eq L₁ reg a.request
      rw [hrefs] at hd
      obtain ⟨hbefore, haccBefore, hringBefore⟩ :=
        ha.before { L₁.createFuture with registry := reg, refs := refs }
      have hsub := ha.dispatch _ idx d hd
      have hcan : 1 ≤ d.submission.result ↔ op.canSubmit env L.ring := by
        rw [hsub.result, hringBefore]
        exact iff_of_eq (congrArg _ hring)
      have hflags : d.loop.closedOf = markFlag op.marks true (L.freshFlags op) := by
        rw [closedOf_congr hsub.files hsub.sockets, hbefore, ← hfresh]
        rfl
      have hacc : d.loop.accepted = L.accepted :=
        (hsub.accepted.trans haccBefore).trans haccepted
      split at h
      · next hres =>
        obtain ⟨L₂, hrem, h⟩ := bind_eq_ok.mp h
        cases h
        obtain ⟨hremFlags, hremAcc⟩ := registryRemove_closedOf hrem
        obtain ⟨hfailed, haccFailed⟩ := ha.failed L₂
        refine ⟨(haccFailed.trans hremAcc).trans hacc, .inr
          ⟨rfl, .failed hslot (fun h => ?_) rfl ?_⟩⟩
        · have := hcan.mpr h
          omega
        · rw [hfailed, hremFlags, hflags, markFlag_markFlag]
      · next hres =>
        cases h
        exact ⟨hacc, .inr ⟨rfl, .accepted hslot (hcan.mp (by omega)) (congrArg some hcalls) hflags⟩⟩

/-! ## The reader -/

/-- The object has its flag set, and if it is a connection, it was accepted. -/
def Shut (L : Loop) (o : ObjRef) : Prop :=
  L.closedOf o = true ∧ ∀ k n, o = .socket (.accepted k n) → n < L.accepted k

/-- No object becomes closed. -/
def ClosesNone (L L' : Loop) : Prop := ∀ o, L'.Shut o → L.Shut o

/-- What is shut depends on the flags and the accepted sockets. -/
theorem shut_congr (hflags : L₁.closedOf = L.closedOf) (haccepted : L₁.accepted = L.accepted)
    (o : ObjRef) : L₁.Shut o ↔ L.Shut o := by
  unfold Shut
  rw [hflags, haccepted]

/-- What leaves the files and the sockets closes nothing. -/
theorem closesNone_of_eq (hfiles : L₁.files = L.files) (hsockets : L₁.sockets = L.sockets)
    (haccepted : L₁.accepted = L.accepted) : ClosesNone L L₁ :=
  fun o => (shut_congr (closedOf_congr hfiles hsockets) haccepted o).mp

/-- Two steps that close nothing close nothing. -/
theorem ClosesNone.trans {L₂ : Loop} (h : ClosesNone L L₁) (h' : ClosesNone L₁ L₂) :
    ClosesNone L L₂ := fun o ho => h o (h' o ho)

/-- Dropping a payload closes nothing. -/
theorem closesNone_dropPayload (index : ℤ) (p : PayloadRef) (f : Bool) :
    ClosesNone M (M.dropPayload index p f) := by
  obtain ⟨released, heq⟩ : ∃ released, M.freeBufferPayload (some p) f =
      { M with released := released } := by
    unfold freeBufferPayload
    simp only
    split
    · exact ⟨_, rfl⟩
    · exact ⟨_, rfl⟩
  unfold dropPayload
  rw [heq]
  exact closesNone_of_eq rfl rfl rfl

/-- Giving back a fixed index closes nothing. -/
theorem closesNone_releaseFixed (h : M.releaseFixed p = .ok L₁) : ClosesNone M L₁ := by
  unfold releaseFixed at h
  split at h
  · split at h
    · cases h
    · cases h
      exact closesNone_of_eq rfl rfl rfl
  · cases h
    exact closesNone_of_eq rfl rfl rfl

variable {index : ℤ} {slot : RequestSlot} {cqe : Cqe} {renv : ReadEnv} {k : ℕ}
  {disp : Disposition} {rd : Read} {o : ObjRef}

/-- Finishing a payload closes nothing. -/
theorem finishPayload_closesNone {f : Bool} {result : Option Outcome}
    (h : M.finishPayload index p f result = .ok disp) : ClosesNone M disp.loop := by
  unfold finishPayload at h
  obtain ⟨M₁, hrel, h⟩ := bind_eq_ok.mp h
  cases h
  exact (closesNone_releaseFixed hrel).trans (closesNone_dropPayload index p f)

/-- A completed `recvmsg` closes nothing. -/
theorem completeRecvmsg_closesNone (h : M.completeRecvmsg index slot renv cqe = .ok disp) :
    ClosesNone M disp.loop := by
  unfold completeRecvmsg at h
  obtain ⟨⟨p, payload⟩, -, h⟩ := bind_eq_ok.mp h
  obtain ⟨M₁, hrel, h⟩ := bind_eq_ok.mp h
  have hreleased := closesNone_releaseFixed hrel
  simp only at h
  split at h
  · unfold completeRecvmsgMultishot at h
    obtain ⟨linear, -, h⟩ := bind_eq_ok.mp h
    simp only at h
    split at h
    · cases h
      exact hreleased.trans (closesNone_of_eq rfl rfl rfl)
    · split at h
      · cases h
      · cases h
        exact hreleased.trans (closesNone_of_eq rfl rfl rfl)
  · split at h
    · obtain ⟨linear, -, h⟩ := bind_eq_ok.mp h
      cases h
      obtain ⟨released, heq, -⟩ := freeSockaddr_eq M₁ slot.addr
      refine hreleased.trans (.trans ?_ (closesNone_dropPayload index p false))
      rw [heq]
      exact closesNone_of_eq rfl rfl rfl
    · obtain ⟨vec, -, h⟩ := bind_eq_ok.mp h
      cases h
      exact hreleased.trans (closesNone_dropPayload index p false)

/-- The descriptor of a file or a socket is set. -/
theorem completeOpenat2_closesNone (slot : RequestSlot) (cqe : Cqe) :
    ClosesNone M (M.completeOpenat2 slot cqe).loop := by
  unfold completeOpenat2
  split
  · exact closesNone_of_eq rfl rfl rfl
  · next f _ =>
    refine fun o ho => (shut_congr ?_ ?_ o).mp ho
    · funext o
      cases o with
      | file g =>
        by_cases hg : g = f
        · subst hg
          simp [closedOf, Disposition.loop]
        · simp [closedOf, Disposition.loop, hg]
      | socket s => rfl
      | future k => rfl
    · rfl

/-- A completed `socket` closes nothing. -/
theorem completeSocket_closesNone (slot : RequestSlot) (cqe : Cqe) :
    ClosesNone M (M.completeSocket slot cqe).loop := by
  unfold completeSocket
  split
  · exact closesNone_of_eq rfl rfl rfl
  · next s _ =>
    refine fun o ho => (shut_congr ?_ ?_ o).mp ho
    · funext o
      cases o with
      | socket t =>
        by_cases ht : t = s
        · subst ht
          simp [closedOf, Disposition.loop]
        · simp [closedOf, Disposition.loop, ht]
      | file f => rfl
      | future k => rfl
    · rfl

/-- A new connection is open. -/
theorem completeAccept_closesNone :
    ClosesNone M (M.completeAccept index slot k renv cqe).loop := by
  unfold completeAccept
  split
  · exact closesNone_of_eq rfl rfl rfl
  · next s _ =>
    split
    · obtain ⟨released, heq, -⟩ := freeSockaddr_eq { M with err := false } slot.addr
      simp only [Disposition.loop]
      rw [heq]
      exact closesNone_of_eq rfl rfl rfl
    · rintro o ⟨hclosed, hthere⟩
      have hne : o ≠ .socket (.accepted k (M.accepted k)) := by
        rintro rfl
        simp [closedOf, Disposition.loop, modifySlot] at hclosed
      refine ⟨?_, fun j n hj => ?_⟩
      · cases o with
        | socket t =>
          have ht : t ≠ .accepted k (M.accepted k) := fun h => hne (congrArg _ h)
          simpa [closedOf, Disposition.loop, modifySlot, ht] using hclosed
        | file f => exact hclosed
        | future k => exact hclosed
      · have hn := hthere j n hj
        simp only [Disposition.loop, modifySlot] at hn
        by_cases hjk : j = k
        · -- The connection is not the new one.
          subst hjk
          rw [Function.update_self] at hn
          have hnew : n ≠ M.accepted j := fun h => hne (by rw [hj, h])
          omega
        · rwa [Function.update_of_ne hjk] at hn

/-- **The switch closes nothing**, but for a close request. -/
theorem complete_closesNone (hop : slot.opcode ≠ .close)
    (h : M.complete index slot k renv cqe = .ok disp) : ClosesNone M disp.loop := by
  have hself : ClosesNone M M := closesNone_of_eq rfl rfl rfl
  unfold complete at h
  cases hopcode : slot.opcode <;> simp only [hopcode] at h
  case close => exact absurd hopcode hop
  case read =>
    unfold completeRead at h
    obtain ⟨⟨p, payload⟩, -, h⟩ := bind_eq_ok.mp h
    obtain ⟨linear, -, h⟩ := bind_eq_ok.mp h
    exact finishPayload_closesNone h
  case readv =>
    unfold completeReadv at h
    obtain ⟨⟨p, payload⟩, -, h⟩ := bind_eq_ok.mp h
    obtain ⟨vec, -, h⟩ := bind_eq_ok.mp h
    cases h
    exact closesNone_dropPayload index p false
  case write =>
    unfold completeWrite at h
    obtain ⟨⟨p, payload⟩, -, h⟩ := bind_eq_ok.mp h
    exact finishPayload_closesNone h
  case writev =>
    cases h
    unfold completeWritev
    split
    · exact hself
    · exact closesNone_dropPayload index _ false
  case openat2 =>
    cases h
    exact completeOpenat2_closesNone slot cqe
  case socket =>
    cases h
    exact completeSocket_closesNone slot cqe
  case accept =>
    cases h
    exact completeAccept_closesNone
  case recv =>
    unfold completeRecv at h
    split at h
    · cases h
      exact hself
    · obtain ⟨⟨p, payload⟩, -, h⟩ := bind_eq_ok.mp h
      simp only at h
      split at h
      · exact finishPayload_closesNone h
      · split at h
        · obtain ⟨linear, -, h⟩ := bind_eq_ok.mp h
          exact finishPayload_closesNone h
        · exact finishPayload_closesNone h
  case recvmsg => exact completeRecvmsg_closesNone h
  case send | sendmsg =>
    unfold completeSend at h
    split at h
    · cases h
      exact hself
    · obtain ⟨⟨p, payload⟩, -, h⟩ := bind_eq_ok.mp h
      exact finishPayload_closesNone h
  all_goals
    cases h
    exact hself

/-- A close request closes its object. -/
theorem completeClose_closes (slot : RequestSlot) (cqe : Cqe)
    (ho : (M.completeClose slot cqe).loop.Shut o) : M.Shut o ∨ slot.object = some o := by
  unfold completeClose at ho
  unfold RequestSlot.object
  cases hsocket : slot.socket with
  | some s =>
    simp only [hsocket, Disposition.loop] at ho
    by_cases hs : o = .socket s
    · exact .inr (congrArg some hs.symm)
    · have hmark := congrFun (closedOf_setSocketClosed (M := M) s true) o
      exact .inl ⟨(hmark.trans (Function.update_of_ne hs _ _)).symm.trans ho.1, ho.2⟩
  | none =>
    cases hfile : slot.file with
    | some f =>
      simp only [hsocket, hfile, Disposition.loop] at ho
      by_cases hf : o = .file f
      · exact .inr (congrArg some hf.symm)
      · have hmark := congrFun (closedOf_setFileClosed (M := M) f true) o
        exact .inl ⟨(hmark.trans (Function.update_of_ne hf _ _)).symm.trans ho.1, ho.2⟩
    | none =>
      simp only [hsocket, hfile, Disposition.loop] at ho
      exact .inl ho

/-- Delivering a result closes nothing. -/
theorem deliver_shut (h : disp.deliver index k = .ok rd) (o : ObjRef) :
    rd.loop.Shut o ↔ disp.loop.Shut o := by
  cases disp with
  | leave L =>
    cases h
    rfl
  | finish L result consumed =>
    obtain ⟨L', hrem, h⟩ := bind_eq_ok.mp h
    cases h
    obtain ⟨hflags, haccepted⟩ := registryRemove_closedOf hrem
    refine (shut_congr hflags haccepted o).trans ?_
    unfold setResult resolve
    split
    · rfl
    · split <;> rfl

/-- **What the reader does to the flags**: it sets that of the object of a close request, and no
other. -/
theorem read_flags (h : readCqe L renv cqe = .ok rd) (ho : rd.loop.Shut o) :
    L.Shut o ∨ ∃ slot k, registryGet L.registry cqe.index = some slot ∧
      slot.future = some k ∧ slot.opcode = .close ∧ slot.object = some o := by
  unfold readCqe at h
  cases hget : registryGet L.registry cqe.index with
  | none =>
    rw [hget] at h
    cases h
    exact .inl ho
  | some slot =>
    rw [hget] at h
    simp only [readSlot] at h
    cases hfuture : slot.future with
    | none =>
      rw [hfuture] at h
      cases h
      exact .inl ho
    | some k =>
      rw [hfuture] at h
      simp only at h
      split at h
      · -- The exception branch.
        obtain ⟨L', hrem, h⟩ := bind_eq_ok.mp h
        cases h
        obtain ⟨hflags, haccepted⟩ := registryRemove_closedOf hrem
        have ho' := (shut_congr hflags haccepted o).mp ho
        refine .inl ?_
        unfold setException resolve at ho'
        split at ho'
        · exact ho'
        · simp only at ho'
          split at ho' <;> exact ho'
      · split at h
        · cases h
          refine .inl ?_
          unfold rearmWakeup at ho
          split at ho <;> exact ho
        · obtain ⟨disp, hcomplete, h⟩ := bind_eq_ok.mp h
          have ho' := (deliver_shut h o).mp ho
          by_cases hop : slot.opcode = .close
          · simp only [complete, hop] at hcomplete
            cases hcomplete
            exact (completeClose_closes slot cqe ho').imp id fun hobject =>
              ⟨slot, k, rfl, hfuture, hop, hobject⟩
          · exact .inl (complete_closesNone hop hcomplete o ho')

end Loop

end Uringio
