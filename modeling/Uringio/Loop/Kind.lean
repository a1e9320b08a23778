import Uringio.Loop.Sound

/-!
# What a completion does to its request

Which of a few things the reader does with an entry of the completion queue depends on the slot, on
the payload that it points to and on the result (`completionKind`); what was released, the pools
and the queue do not matter. `readCqe_kind` says what each of them means for the future, for the
slot and for the exception that may be pending.
-/

namespace Uringio

/-- What the reader does with an entry. -/
inductive CompletionKind
  /-- The slot is not in use: nothing. -/
  | dropped
  /-- `set_exception`, and the request is removed. -/
  | error
  /-- `set_result`, and the request is removed. -/
  | value
  /-- An exception is printed, which clears it; then as for `value`. -/
  | printed
  /-- There is nothing to resolve the future with, and the request is removed. -/
  | nothing
  /-- An exception is printed, which clears it, and the request stays. -/
  | left
  deriving DecidableEq

/-- The pool of the payload is there if its index is to be released. -/
def BufferPayload.poolOk (payload : BufferPayload) : Bool :=
  payload.mode = .FIXED → payload.idx_registry.isSome

/-- The kind, where the reader releases the index of the payload. -/
def BufferPayload.releasing (payload : BufferPayload) (kind : CompletionKind) :
    Option CompletionKind :=
  if payload.poolOk then some kind else none

/-- The kind of a completion that has a value if the given object is there. -/
def valueIf (present : Bool) : Option CompletionKind := some (if present then .value else .nothing)

/-- The kind of a multishot message. -/
def multishotKind (payload : BufferPayload) (env : ReadEnv) (slot : RequestSlot) (cqe : Cqe) :
    Option CompletionKind :=
  payload.first.bind fun linear =>
    if cqe.more ∨ slot.socket.isSome then
      some (if (env.recvmsgOut
        (linear.buffer + (cqe.flags >>> IORING_CQE_BUFFER_SHIFT) * linear.len)).isSome then .value
        else .printed)
    else none

/-- The kind of a completion that reaches the switch over the opcode; `none` where the reader would
follow a null pointer. -/
def switchKind (payloads : PayloadRef → BufferPayload) (env : ReadEnv) (slot : RequestSlot)
    (cqe : Cqe) : Option CompletionKind :=
  let payload := slot.buffer_payload.map payloads
  match slot.opcode with
  | .read => payload.bind fun p => p.first.bind fun linear =>
    p.releasing (if linear.buffer = 0 then .nothing else .value)
  | .readv => payload.bind fun p => p.vector.map fun _ => .value
  | .write => payload.bind fun p => p.releasing .value
  | .openat2 => valueIf slot.file.isSome
  | .socket | .bind | .connect | .listen => valueIf slot.socket.isSome
  | .accept => if slot.socket.isSome ∧ ¬ env.gcNew then some .left else valueIf slot.socket.isSome
  | .recv =>
    if slot.socket.isNone then some .nothing
    else payload.bind fun p =>
      if cqe.res > 0 then p.first.bind fun _ => p.releasing .value
      else p.releasing (if cqe.res = 0 then .value else .nothing)
  | .recvmsg => payload.bind fun p => (p.releasing .value).bind fun _ =>
    if slot.stream_strategy = .MULTISHOT then multishotKind p env slot cqe
    else if p.payload_type = .PAYLOAD_LINEAR then p.first.map fun _ => .value
    else p.vector.map fun _ => .value
  | .send | .sendmsg => payload.elim (some .value) fun p => p.releasing .value
  | .close => valueIf (slot.socket.isSome || slot.file.isSome)
  | _ => some .value

/-- The kind of a completion, given the slot that `registry_get` returned. -/
def slotKind (payloads : PayloadRef → BufferPayload) (env : ReadEnv) (cqe : Cqe) :
    Option RequestSlot → Option CompletionKind
  | none => some .dropped
  | some slot =>
    if slot.future.isNone then some .dropped
    else if cqe.res < 0 ∧ ¬ timeoutExpired slot cqe then some .error
    else switchKind payloads env slot cqe

/-- The kind of a completion; `none` where the reader would follow a null pointer. -/
def Loop.completionKind (L : Loop) (env : ReadEnv) (cqe : Cqe) : Option CompletionKind :=
  slotKind L.payloads env cqe (registryGet L.registry cqe.index)

namespace Loop

variable {k : ℕ} {index : ℤ} {L L' : Loop} {slot : RequestSlot} {env : ReadEnv} {cqe : Cqe}
  {p : PayloadRef}

/-- The switch did what the kind says, and left the pending exception accordingly. -/
def Agrees (L : Loop) : Option CompletionKind → Except Fault Disposition → Prop
  | none, .error _ => True
  | some .value, .ok (.finish L' (some _) _) => L'.err = L.err
  | some .printed, .ok (.finish L' (some _) _) => L'.err = false
  | some .nothing, .ok (.finish L' none _) => L'.err = L.err
  | some .left, .ok (.leave L') => L'.err = false
  | _, _ => False

/-! ## The parts of the switch -/

/-- The first linear buffer, or a null dereference. -/
theorem firstLinear_eq (payload : BufferPayload) :
    payload.firstLinear = payload.first.elim (.error .nullDeref) .ok := by
  unfold BufferPayload.firstLinear BufferPayload.first
  rcases payload.linear with - | - | ⟨b, bs⟩ <;> rfl

/-- The vectored buffer, or a null dereference. -/
theorem derefVector_eq (payload : BufferPayload) :
    payload.derefVector = payload.vector.elim (.error .nullDeref) .ok := by
  unfold BufferPayload.derefVector
  rcases payload.vector with - | v <;> rfl

/-- A pointer to a payload that was not released is followed. -/
theorem deref_eq {q : Option PayloadRef}
    (h : ∀ p, q = some p → L.released (.payload p) = 0) :
    L.deref q = q.elim (.error .nullDeref) fun p => .ok (p, L.payloads p) := by
  cases q with
  | none => rfl
  | some p => simp only [deref, h p rfl, if_true, Option.elim]

/-- The release of an index succeeds if the pool is there. -/
theorem releaseFixed_eq (L : Loop) (p : PayloadRef) :
    if (L.payloads p).poolOk then ∃ L₁, L.releaseFixed p = .ok L₁ ∧ L₁.err = L.err
    else ∃ e, L.releaseFixed p = .error e := by
  unfold releaseFixed BufferPayload.poolOk
  by_cases hmode : (L.payloads p).mode = .FIXED
  · cases hreg : (L.payloads p).idx_registry with
    | none => simp [hmode]
    | some reg =>
      simp only [hmode, if_true, Option.isSome_some, implies_true, decide_true]
      exact ⟨_, rfl, rfl⟩
  · simp [hmode]

/-- Dropping a payload leaves what is pending. -/
@[simp] theorem dropPayload_err (L : Loop) (index : ℤ) (p : PayloadRef) (force : Bool) :
    (L.dropPayload index p force).err = L.err := by
  obtain ⟨released, heq⟩ := freeBufferPayload_eq L (some p) force
  unfold dropPayload
  rw [heq]
  rfl

/-- The end of the cases that release the index of the slot's payload. -/
theorem finishPayload_agrees {force : Bool} {result : Option Outcome} {kind : CompletionKind}
    (hkind : kind = if result.isSome then .value else .nothing) :
    L.Agrees ((L.payloads p).releasing kind) (L.finishPayload index p force result) := by
  have hrel := releaseFixed_eq L p
  unfold BufferPayload.releasing finishPayload
  split at hrel
  · next hok =>
    obtain ⟨L₁, hrel, herr⟩ := hrel
    rw [if_pos hok, hrel, hkind]
    cases result with
    | none => exact (dropPayload_err ..).trans herr
    | some o => exact (dropPayload_err ..).trans herr
  · next hok =>
    obtain ⟨e, hrel⟩ := hrel
    rw [if_neg hok, hrel]
    trivial

/-- A completed `accept` is of its kind. -/
theorem completeAccept_agrees (L : Loop) (index : ℤ) (slot : RequestSlot) (k : FutureRef)
    (env : ReadEnv) (cqe : Cqe) :
    L.Agrees (if slot.socket.isSome ∧ ¬ env.gcNew then some .left else valueIf slot.socket.isSome)
      (.ok (L.completeAccept index slot k env cqe)) := by
  unfold completeAccept
  cases slot.socket with
  | none => rfl
  | some s =>
    cases hgc : env.gcNew with
    | true => exact rfl
    | false =>
      obtain ⟨released, heq, -⟩ := freeSockaddr_eq { L with err := false } slot.addr
      simp only [Bool.false_eq_true, not_false_eq_true, Option.isSome_some, and_self, if_true, heq]
      rfl

/-- A completed `close` is of its kind. -/
theorem completeClose_agrees (L : Loop) (slot : RequestSlot) (cqe : Cqe) :
    L.Agrees (valueIf (slot.socket.isSome || slot.file.isSome))
      (.ok (L.completeClose slot cqe)) := by
  unfold completeClose
  cases slot.socket <;> cases slot.file <;> rfl

section Held

variable (hheld : ∀ p, slot.buffer_payload = some p → L.released (.payload p) = 0)
include hheld

/-- A completed `read` is of its kind. -/
theorem completeRead_agrees :
    L.Agrees ((slot.buffer_payload.map L.payloads).bind fun p => p.first.bind fun linear =>
      p.releasing (if linear.buffer = 0 then .nothing else .value))
      (L.completeRead index slot cqe) := by
  unfold completeRead
  rw [deref_eq hheld]
  cases slot.buffer_payload with
  | none => trivial
  | some p =>
    simp only [Option.elim, Option.map_some, Option.bind_some, bind, Except.bind]
    rw [firstLinear_eq]
    cases (L.payloads p).first with
    | none => trivial
    | some linear =>
      refine finishPayload_agrees ?_
      split <;> rfl

/-- A completed `readv` is of its kind. -/
theorem completeReadv_agrees :
    L.Agrees ((slot.buffer_payload.map L.payloads).bind fun p => p.vector.map fun _ => .value)
      (L.completeReadv index slot cqe) := by
  unfold completeReadv
  rw [deref_eq hheld]
  cases slot.buffer_payload with
  | none => trivial
  | some p =>
    simp only [Option.elim, Option.map_some, Option.bind_some, bind, Except.bind]
    rw [derefVector_eq]
    cases (L.payloads p).vector with
    | none => trivial
    | some v => exact dropPayload_err ..

/-- A completed `write` is of its kind. -/
theorem completeWrite_agrees :
    L.Agrees ((slot.buffer_payload.map L.payloads).bind fun p => p.releasing .value)
      (L.completeWrite index slot cqe) := by
  unfold completeWrite
  rw [deref_eq hheld]
  cases slot.buffer_payload with
  | none => trivial
  | some p => exact finishPayload_agrees rfl

/-- A completed `send` is of its kind. -/
theorem completeSend_agrees :
    L.Agrees ((slot.buffer_payload.map L.payloads).elim (some .value) fun p => p.releasing .value)
      (L.completeSend index slot cqe) := by
  unfold completeSend
  cases hp : slot.buffer_payload with
  | none => rfl
  | some p =>
    simp only
    rw [← hp, deref_eq hheld, hp]
    exact finishPayload_agrees rfl

/-- A completed `recv` is of its kind. -/
theorem completeRecv_agrees :
    L.Agrees (if slot.socket.isNone then some .nothing
      else (slot.buffer_payload.map L.payloads).bind fun p =>
        if cqe.res > 0 then p.first.bind fun _ => p.releasing .value
        else p.releasing (if cqe.res = 0 then .value else .nothing))
      (L.completeRecv index slot cqe) := by
  unfold completeRecv
  cases slot.socket with
  | none => rfl
  | some s =>
    simp only [Option.isNone_some, Bool.false_eq_true, if_false]
    rw [deref_eq hheld]
    cases slot.buffer_payload with
    | none => trivial
    | some p =>
      simp only [Option.elim, Option.map_some, Option.bind_some, bind, Except.bind]
      by_cases hzero : cqe.res = 0
      · simp only [hzero, gt_iff_lt, lt_self_iff_false, if_true, if_false]
        exact finishPayload_agrees rfl
      · by_cases hpos : cqe.res > 0
        · simp only [hzero, hpos, if_true, if_false]
          rw [firstLinear_eq]
          cases (L.payloads p).first with
          | none => trivial
          | some linear => exact finishPayload_agrees rfl
        · simp only [hzero, hpos, if_false]
          exact finishPayload_agrees rfl

/-- A completed `recvmsg` is of its kind. -/
theorem completeRecvmsg_agrees :
    L.Agrees ((slot.buffer_payload.map L.payloads).bind fun p => (p.releasing .value).bind fun _ =>
      if slot.stream_strategy = .MULTISHOT then multishotKind p env slot cqe
      else if p.payload_type = .PAYLOAD_LINEAR then p.first.map fun _ => .value
      else p.vector.map fun _ => .value)
      (L.completeRecvmsg index slot env cqe) := by
  unfold completeRecvmsg
  rw [deref_eq hheld]
  cases slot.buffer_payload with
  | none => trivial
  | some p =>
    simp only [Option.elim, Option.map_some, Option.bind_some, bind, Except.bind]
    have hrel := releaseFixed_eq L p
    unfold BufferPayload.releasing
    split at hrel
    · next hok =>
      obtain ⟨L₁, hrel, herr⟩ := hrel
      simp only [hok, if_true, Option.bind_some, hrel]
      split
      · unfold completeRecvmsgMultishot multishotKind
        rw [firstLinear_eq]
        cases (L.payloads p).first with
        | none => trivial
        | some linear =>
          simp only [Option.elim, Option.bind_some, bind, Except.bind]
          cases hout : env.recvmsgOut (linear.buffer +
            (cqe.flags >>> IORING_CQE_BUFFER_SHIFT) * linear.len) <;>
          cases hmore : cqe.more <;> cases slot.socket <;> simp [Agrees, herr]
      · split
        · rw [firstLinear_eq]
          cases (L.payloads p).first with
          | none => trivial
          | some linear =>
            obtain ⟨released, heq, -⟩ := freeSockaddr_eq L₁ slot.addr
            refine (dropPayload_err ..).trans ?_
            rw [heq]
            exact herr
        · rw [derefVector_eq]
          cases (L.payloads p).vector with
          | none => trivial
          | some v => exact (dropPayload_err ..).trans herr
    · next hok =>
      obtain ⟨e, hrel⟩ := hrel
      simp only [hok, hrel]
      trivial

/-- **The switch does what the kind of the completion says.** -/
theorem complete_agrees : L.Agrees (switchKind L.payloads env slot cqe)
    (L.complete index slot k env cqe) := by
  unfold complete switchKind
  cases slot.opcode
  case read => exact completeRead_agrees hheld
  case readv => exact completeReadv_agrees hheld
  case write => exact completeWrite_agrees hheld
  case recv => exact completeRecv_agrees hheld
  case recvmsg => exact completeRecvmsg_agrees hheld
  case send | sendmsg => exact completeSend_agrees hheld
  case accept => exact completeAccept_agrees L index slot k env cqe
  case close => exact completeClose_agrees L slot cqe
  case writev =>
    unfold completeWritev
    cases slot.buffer_payload with
    | none => rfl
    | some p => exact dropPayload_err ..
  case openat2 =>
    unfold completeOpenat2
    cases slot.file <;> rfl
  case socket =>
    unfold completeSocket
    cases slot.socket <;> rfl
  case bind | connect | listen =>
    unfold completeOnSocket
    cases slot.socket <;> rfl
  all_goals rfl

end Held

/-! ## The reader -/

/-- `set_result` or `set_exception` was called on the future of `k`, when `err` said whether an
exception is pending: a future that is finished raises one, and a future that is not is resolved,
but loses its callbacks if an exception is pending. -/
structure Delivered (L : Loop) (k : ℕ) (err : Bool) (r : Read) : Prop where
  /-- The call that was made, and what it left of the future. -/
  call : ∃ o, r.call = some (k, o) ∧
    r.loop.futures k = if L.futures k = .pending then if err then .lost o else .done o
      else L.futures k
  /-- What is pending after the call. -/
  err : r.loop.err = (err || decide (L.futures k ≠ .pending))

/-- The future of `k` was left as it is, and `err` says whether an exception is pending. -/
structure Silent (L : Loop) (k : ℕ) (err : Bool) (r : Read) : Prop where
  /-- Nothing was resolved. -/
  call : r.call = none
  /-- The future is as it was. -/
  futures : r.loop.futures k = L.futures k
  /-- What is pending is known. -/
  err : r.loop.err = err

/-- What the reader left, by the kind of the completion. -/
def Does (L : Loop) (k : ℕ) (r : Read) : CompletionKind → Prop
  | .dropped => False
  | .error => if L.err then Silent L k false r else Delivered L k false r
  | .value => Delivered L k L.err r
  | .printed => Delivered L k false r
  | .nothing => Silent L k L.err r
  | .left => Silent L k false r

/-- `set_result` or `set_exception`. -/
theorem resolve_delivers (L : Loop) (k : ℕ) (o : Outcome) :
    (L.resolve k o).futures k =
        (if L.futures k = .pending then if L.err then .lost o else .done o else L.futures k) ∧
      (L.resolve k o).err = (L.err || decide (L.futures k ≠ .pending)) := by
  unfold resolve
  split
  · next hp => simp [hp]
  · next hp => simp [hp]

/-- The end of a request that is removed. -/
theorem removed_of_within {L₁ L₂ : Loop} (hcons : L.registry.Consistent)
    (hlive : L.registry.Live cqe.index) (hw : Within k cqe.index L L₁)
    (hreg : L₂.registry = L₁.registry) :
    ∃ L', L₂.registryRemove cqe.index = .ok L' ∧ L'.futures = L₂.futures ∧ L'.err = L₂.err := by
  obtain ⟨hcons₁, hlive₁⟩ := consistent_of_within hcons hlive hw
  rw [← hreg] at hcons₁ hlive₁
  obtain ⟨L', hrem⟩ := registryRemove_isOk hcons₁ hlive₁
  exact ⟨L', hrem, registryRemove_futures hrem⟩

/-- The kind of a completion that no socket could be allocated for. -/
theorem kind_of_left {r : Read} (hget : registryGet L.registry cqe.index = some slot)
    (hfut : slot.future = some k) (hleft : Left L k slot env cqe r) :
    L.completionKind env cqe = some .left := by
  have hres : ¬ cqe.res < 0 := not_lt.mpr hleft.res
  rw [completionKind, hget]
  simp [slotKind, hfut, hres, switchKind, hleft.accept, hleft.socket, hleft.gcNew]

/-- A completion with an error raises and its index is removed. -/
theorem raise_eq (h : (L.setException k cqe).1.registryRemove index = .ok L') :
    L.raise index k cqe = .ok ⟨L', (L.setException k cqe).2, [], false⟩ := by
  simp only [raise, h]
  rfl

/-- A completion with a result resolves the future and its index is removed. -/
theorem deliver_eq {result : Option Outcome} {consumed : List (ℕ × Sqe)}
    (h : (L.setResult k result).registryRemove index = .ok L') :
    Disposition.deliver index k (.finish L result consumed) =
      .ok ⟨L', result.map (k, ·), consumed, false⟩ := by
  simp only [Disposition.deliver, h]
  rfl

/-- The reader does what the kind says; without one, it follows a null pointer. -/
def Reads (L : Loop) (k : ℕ) (slot : RequestSlot) (env : ReadEnv) (cqe : Cqe) :
    Option CompletionKind → Prop
  | none => ∃ e, readCqe L env cqe = .error e
  | some kind => ∃ r, readCqe L env cqe = .ok r ∧ Does L k r kind ∧
      if kind = .left then Left L k slot env cqe r else Finished L k slot cqe r

/-- **What the reader does is decided by the kind of the completion.** -/
theorem readCqe_kind {kind? : Option CompletionKind} (h : L.Sound)
    (hget : registryGet L.registry cqe.index = some slot) (hfut : slot.future = some k)
    (hkind : L.completionKind env cqe = kind?) : L.Reads k slot env cqe kind? := by
  obtain ⟨-, hs, hheld⟩ := h.slots _ slot k hget hfut
  have hlive : L.registry.Live cqe.index := ⟨slot, hget, by rw [hfut]; rfl⟩
  have hi : 0 ≤ cqe.index := hlive.inRange.1
  -- Which of the two cases of the reader it is, once it is known whether the slot is still in use.
  have hcase : ∀ r kind, readCqe L env cqe = .ok r → kind? = some kind →
      (kind = .left → r.loop.registry.Live cqe.index) →
      if kind = .left then Left L k slot env cqe r else Finished L k slot cqe r := by
    intro r kind hr hk hstill
    rcases readCqe_cases h.consistent hget hs hr with hleft | hfin
    · rw [kind_of_left hget hfut hleft, hk] at hkind
      cases hkind
      exact hleft
    · rw [if_neg fun heq => hfin.dead (hstill heq)]
      exact hfin
  rw [completionKind, hget] at hkind
  simp only [slotKind, hfut, Option.isNone_some, Bool.false_eq_true, if_false] at hkind
  split at hkind
  · next herror =>
    -- The error branch.
    obtain ⟨-, hreg, -, -, -⟩ := setException_frame L k cqe
    obtain ⟨L', hrem, hf, he⟩ := removed_of_within h.consistent hlive (.refl k _ L) hreg
    have hread : readCqe L env cqe = .ok ⟨L', (L.setException k cqe).2, [], false⟩ := by
      rw [readCqe, hget]
      simp only [readSlot, hfut]
      rw [if_pos herror, raise_eq hrem]
    subst hkind
    refine ⟨_, hread, ?_, hcase _ _ hread rfl (by simp)⟩
    change if L.err = true then _ else _
    unfold setException at hf he ⊢
    split
    · next herr =>
      rw [if_pos herr] at hf he
      exact ⟨rfl, by rw [hf], he⟩
    · next herr =>
      rw [if_neg herr] at hf he
      obtain ⟨hres, herr'⟩ := resolve_delivers L k (.osError (-cqe.res))
      simp only [herr] at hres
      exact ⟨⟨_, rfl, by rw [hf]; exact hres⟩, by rw [he, herr']; simp [herr]⟩
  · next herror =>
    have hslot : readCqe L env cqe =
        L.complete cqe.index slot k env cqe >>= Disposition.deliver cqe.index k := by
      rw [readCqe, hget]
      simp only [readSlot, hfut]
      rw [if_neg herror, if_neg (user_data_ne_of_live hlive)]
    have hres : 0 ≤ cqe.res ∨ slot.opcode = .timeout := by
      by_cases hneg : cqe.res < 0
      · have hexp : timeoutExpired slot cqe = true := by simpa [hneg] using herror
        simp only [timeoutExpired, decide_eq_true_eq] at hexp
        exact .inr hexp.1
      · exact .inl (by omega)
    have hagrees : L.Agrees kind? (L.complete cqe.index slot k env cqe) := by
      rw [← hkind]
      exact complete_agrees fun p hp => hheld _ (by simp [RequestSlot.objects, hp])
    cases hcomp : L.complete cqe.index slot k env cqe with
    | error e =>
      rw [hcomp] at hagrees hslot
      rcases kind? with - | ⟨- | - | - | - | - | -⟩ <;> try exact hagrees.elim
      exact ⟨e, hslot⟩
    | ok disp =>
      rw [hcomp] at hagrees hslot
      have hspec := complete_spec hi hs hres hcomp
      cases kind? with
      | none => exact hagrees.elim
      | some kind =>
        cases disp with
        | leave L₁ =>
          obtain ⟨-, hreg, -, hfutures, -⟩ := hspec
          have hread : readCqe L env cqe = .ok ⟨L₁, none, [], false⟩ :=
            hslot.trans (bind_eq_ok.mpr ⟨_, rfl, rfl⟩)
          refine ⟨_, hread, ?_, hcase _ _ hread rfl fun _ => by rw [hreg]; exact hlive⟩
          cases kind <;> try exact hagrees.elim
          exact ⟨rfl, by rw [hfutures], hagrees⟩
        | finish L₁ result consumed =>
          obtain ⟨hw, -⟩ := hspec
          obtain ⟨-, hreg, -, -⟩ := setResult_frame L₁ k result
          obtain ⟨L', hrem, hf, he⟩ := removed_of_within h.consistent hlive hw hreg
          have hread : readCqe L env cqe = .ok ⟨L', result.map (k, ·), consumed, false⟩ := by
            exact hslot.trans (bind_eq_ok.mpr ⟨_, rfl, deliver_eq hrem⟩)
          refine ⟨_, hread, ?_, hcase _ _ hread rfl ?_⟩
          · cases result with
            | none =>
              cases kind <;> try exact hagrees.elim
              exact ⟨rfl, by rw [hf]; exact congrFun hw.futures_eq k, he.trans hagrees⟩
            | some o =>
              obtain ⟨hres', herr'⟩ := resolve_delivers L₁ k o
              rw [hw.futures_eq] at hres' herr'
              cases kind <;> try exact hagrees.elim
              all_goals
                rw [show L₁.err = _ from hagrees] at hres' herr'
                exact ⟨⟨o, rfl, by rw [hf]; exact hres'⟩, he.trans herr'⟩
          · rintro rfl
            cases result <;> exact hagrees.elim

end Loop

end Uringio
