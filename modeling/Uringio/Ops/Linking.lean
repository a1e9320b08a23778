import Uringio.Ops.Queue
import Uringio.Ring.Submission

/-!
# Operations and their linked timeouts

A builder is a function of the ops layer that starts with `SQE_WITH_OPTIONAL_TIMEOUT`: after the
macro it may check its arguments, then it fills the entry of its operation and submits. When it
succeeds, the entries that it appended should be the operation alone, or the operation linked to
the entry of its timeout (`Submission.Linked`).

`timeout` sets the link flag before it asks for the second entry and does not take it back. What the
macro reserves is therefore one of three things (`sqeWithOptionalTimeout_exact`): the entry alone
and not linked, the entry linked to that of a timeout, or, when an optional timeout finds one free
entry, the entry alone and linked. A builder fills the entry and keeps the flag, so in the third
case the entries are wrong.

In the second case they are right by luck only. The entry of the timeout points to a local of
`timeout`, and the builder submits it after `timeout` has returned. What the kernel reads there is
a parameter, `stack`; the seconds and nanoseconds arrive if the frame was not written over
(`linked_iff`), and whatever the stack holds the entries are right only without a timeout.

An entry is described by the helper call that filled it. The prep helpers keep the flags.
-/

namespace Uringio

/-- The flag that chains an entry to the next one is set. -/
def Sqe.linked (e : Sqe) : Bool := e.flags &&& IOSQE_IO_LINK ≠ 0

/-- The timeout that the parameters ask for: `none` for `NULL`, and for zeros that are not
required. -/
def requestedTimeout : Option TimeoutParams → Option Timespec
  | none => none
  | some timeout_params =>
    if timeout_params.sec = 0 ∧ timeout_params.nsec = 0 ∧ ¬ timeout_params.is_required then none
    else some ⟨timeout_params.sec, timeout_params.nsec⟩

/-- The helper call is the one for the entry of a timeout. -/
def PrepCall.isLinkTimeout : PrepCall → Bool
  | .link_timeout _ _ => true
  | _ => false

/-- The timeout that the kernel sets up for an entry, where `stack` is what it finds in the frame
that the pointer of the entry leads to. -/
def Sqe.linkTimespec (stack : Timespec) (e : Sqe) : Option Timespec :=
  match e.prep with
  | some (.link_timeout _ _) => some stack
  | _ => none

/-- The operation alone, in an entry that is not linked. -/
def Alone (ring : Ring) (call : PrepCall) (added : List (ℕ × Sqe)) : Prop :=
  ∃ op, added = [(ring.tail, op)] ∧ op.prep = some call ∧ op.linked = false

/-- The operation in a linked entry, and behind it the entry that the kernel reads as the timeout
`ts`. -/
def WithTimeout (ring : Ring) (stack : Timespec) (call : PrepCall) (ts : Timespec)
    (added : List (ℕ × Sqe)) : Prop :=
  ∃ op t, added = [(ring.tail, op), (ring.tail + 1, t)] ∧ op.prep = some call ∧
    op.linked = true ∧ t.linkTimespec stack = some ts ∧ t.linked = false

/-- The entries that a successful builder should append: with a timeout that is requested and two
free entries, the operation and its timeout; without a timeout, or with an optional one that has no
entry, the operation alone. `stack` is what the kernel finds where the frame of `timeout` was, when
it reads the entry of the timeout. -/
def Submission.Linked (ring : Ring) (stack : Timespec) (timeout_params : Option TimeoutParams)
    (call : PrepCall) (s : Submission) : Prop :=
  ∃ added, Adds ring s.consumed s.ring added ∧
    match requestedTimeout timeout_params with
    | none => Alone ring call added
    | some ts =>
      if 2 ≤ ring.free then WithTimeout ring stack call ts added
      else requiresTimeout timeout_params = false ∧ Alone ring call added

/-- What a function of the ops layer does after the macro: a check of its arguments that gives up
with `-2`, the helper call and the fields set after it, the submission. It keeps the link flag. -/
structure Builder where
  /-- The check of the arguments passes. -/
  supported : Bool
  /-- What is done to the entry. -/
  fill : Sqe → Sqe
  /-- What the function returns when the submission fails. -/
  failure : ℤ
  /-- The helper call of the operation. -/
  call : PrepCall
  /-- A failure is told apart from a submission. -/
  failure_lt : failure < 1
  /-- The operation is none that is linked. -/
  operation : call.isLinkTimeout = false
  /-- The entry is filled with the helper call. -/
  prep : ∀ e, (fill e).prep = some call
  /-- The link flag is kept. -/
  keeps : ∀ e, (fill e).linked = e.linked

/-- The function, with the pointer `timeout_params` and the result `r` of the submission. -/
def Builder.run (b : Builder) (ring : Ring) (timeout_params : Option TimeoutParams) (r : ℤ) :
    Submission :=
  match sqeWithOptionalTimeout ring timeout_params with
  | .error ring => .abandoned (-1) ring
  | .ok (sqe, ring) =>
    if b.supported then fillAndSubmit ring sqe b.fill b.failure r else .abandoned (-2) ring

/-- The function uses the macro: all but `timer`, which has no timeout of its own. -/
def OpsCall.usesMacro : OpsCall → Bool
  | .timer _ _ => false
  | _ => true

variable {ring ring' : Ring} {sqe : ℕ} {timeout_params : Option TimeoutParams}

/-- A reserved entry is not linked. -/
theorem linked_reserved (e : Sqe) : e.reserved.linked = false := by simp [Sqe.linked, Sqe.reserved]

/-- A reserved entry that is marked is linked. -/
theorem linked_setFlag (e : Sqe) : (e.reserved.setFlag IOSQE_IO_LINK).linked = true := by
  simp [Sqe.linked, Sqe.reserved, Sqe.setFlag, IOSQE_IO_LINK]

/-- Selecting a buffer does not link the entry. -/
theorem linked_selectBuffer (bgid : ℤ) (e : Sqe) : (selectBuffer bgid e).linked = e.linked := by
  have hbit : (e.flags ||| IOSQE_BUFFER_SELECT) &&& IOSQE_IO_LINK = e.flags &&& IOSQE_IO_LINK := by
    rw [Nat.and_or_distrib_right]
    exact Nat.or_zero _
  simp only [Sqe.linked, selectBuffer, Sqe.setFlag, Sqe.setBufIndex, hbit]

/-- **What the macro reserves** when it goes through: the entry alone; or the entry linked to its
timeout, when two entries are free; or the entry alone and linked all the same, when an optional
timeout finds only the entry's own cell free. -/
theorem sqeWithOptionalTimeout_exact
    (h : sqeWithOptionalTimeout ring timeout_params = .ok (sqe, ring')) :
    sqe = ring.tail ∧ ∃ e link, ring'.window = ring.window ++ (ring.tail, e) :: link ∧
      match requestedTimeout timeout_params with
      | none => e.linked = false ∧ link = []
      | some ts => e.linked = true ∧
          if 2 ≤ ring.free then
            ∃ t, link = [(ring.tail + 1, t)] ∧ t.prep = some (.link_timeout ⟨ts⟩ 0) ∧
              t.linked = false
          else requiresTimeout timeout_params = false ∧ ring.free = 1 ∧ link = [] := by
  unfold sqeWithOptionalTimeout createSqe at h
  cases hget : getSqe ring with
  | none => simp [hget] at h
  | some p =>
    obtain ⟨sqe₁, ring₁⟩ := p
    obtain ⟨rfl, htail, hfree, hwin⟩ := getSqe_eq_some hget
    simp only [hget] at h
    cases timeout_params with
    | none =>
      simp only [timeout, lt_irrefl, if_false, Except.ok.injEq, Prod.mk.injEq] at h
      obtain ⟨rfl, rfl⟩ := h
      exact ⟨rfl, _, [], hwin, linked_reserved _, rfl⟩
    | some tp =>
      simp only [requestedTimeout]
      by_cases hzero : tp.sec = 0 ∧ tp.nsec = 0 ∧ ¬ tp.is_required
      · simp only [timeout, if_pos hzero, lt_irrefl, if_false, Except.ok.injEq,
          Prod.mk.injEq] at h
        obtain ⟨rfl, rfl⟩ := h
        rw [if_pos hzero]
        exact ⟨rfl, _, [], hwin, linked_reserved _, rfl⟩
      · rw [if_neg hzero]
        -- The flag is set on the way to the second entry, whether there is one or not.
        have hmark := ring₁.window_modify_at hwin (Sqe.setFlag IOSQE_IO_LINK)
        have hlinked := linked_setFlag (ring.cell ring.tail)
        simp only [timeout, if_neg hzero] at h
        cases hsecond : getSqe (ring₁.modify ring.tail (Sqe.setFlag IOSQE_IO_LINK)) with
        | none =>
          have hfull := getSqe_eq_none.mp hsecond
          rw [RingBuffer.modify_free] at hfull
          simp only [hsecond] at h
          cases hreq : tp.is_required with
          | true => simp [hreq] at h
          | false =>
            simp only [hreq, Bool.false_eq_true, if_false, lt_irrefl, Except.ok.injEq,
              Prod.mk.injEq] at h
            obtain ⟨rfl, rfl⟩ := h
            refine ⟨rfl, _, [], hmark, hlinked, ?_⟩
            rw [if_neg (by omega)]
            exact ⟨by simpa [requiresTimeout] using hreq, by omega, rfl⟩
        | some q =>
          obtain ⟨sqe₂, ring₂⟩ := q
          obtain ⟨rfl, -, hfree₂, hwin₂⟩ := getSqe_eq_some hsecond
          rw [RingBuffer.modify_free] at hfree₂
          rw [hmark] at hwin₂
          have htimeout := ring₂.window_modify_at hwin₂
            (.prepare (.link_timeout ⟨⟨tp.sec, tp.nsec⟩⟩ 0))
          rw [List.append_assoc, List.singleton_append] at htimeout
          simp only [hsecond, lt_irrefl, if_false, Except.ok.injEq, Prod.mk.injEq] at h
          obtain ⟨rfl, rfl⟩ := h
          refine ⟨rfl, _, _, htimeout, hlinked, ?_⟩
          rw [if_pos (by omega)]
          refine ⟨_, by rw [RingBuffer.modify_tail, htail], rfl, ?_⟩
          exact linked_reserved ((ring₁.modify ring.tail (Sqe.setFlag IOSQE_IO_LINK)).cell
            (ring₁.modify ring.tail (Sqe.setFlag IOSQE_IO_LINK)).tail)

/-- The builder of `submitRequest`. -/
def Builder.ofRequest (request_idx : ℤ) (call : PrepCall) (set : Sqe → Sqe)
    (hcall : call.isLinkTimeout = false) (hprep : ∀ e, (set e).prep = e.prep)
    (hlinked : ∀ e, (set e).linked = e.linked) : Builder where
  supported := true
  fill := fun e => (set (e.prepare call)).setData request_idx
  failure := 0
  call := call
  failure_lt := by decide
  operation := hcall
  prep := fun e => hprep (e.prepare call)
  keeps := fun e => hlinked (e.prepare call)

/-- The builder of the entries of provided buffers. -/
def Builder.ofUntagged (call : PrepCall) (hcall : call.isLinkTimeout = false) : Builder where
  supported := true
  fill := .prepare call
  failure := -1
  call := call
  failure_lt := by decide
  operation := hcall
  prep := fun _ => rfl
  keeps := fun _ => rfl

/-- The builder of `prep_socket`. -/
def Builder.ofSocket (request_idx domain type : ℤ) : Builder where
  supported := domain = AF_INET ∨ domain = AF_INET6
  fill := fun e => (e.prepare (.socket domain type 0 0)).setData request_idx
  failure := 0
  call := .socket domain type 0 0
  failure_lt := by decide
  operation := rfl
  prep := fun _ => rfl
  keeps := fun _ => rfl

/-- Every function that uses the macro is a builder. -/
theorem OpsCall.exists_builder (c : OpsCall) (hc : c.usesMacro = true) :
    ∃ b : Builder, ∀ ring r, c.run ring r = b.run ring c.timeoutParams r := by
  cases c with
  | timer => cases hc
  | socket idx domain type tp =>
    refine ⟨.ofSocket idx domain type, fun ring r => ?_⟩
    simp only [run, prepSocket, timeoutParams, Builder.run, Builder.ofSocket]
    cases sqeWithOptionalTimeout ring (some tp) with
    | error ring => rfl
    | ok p => by_cases hd : domain = AF_INET ∨ domain = AF_INET6 <;> simp [hd]
  | initProvidedMode addr len nr bgid =>
    exact ⟨.ofUntagged (.provide_buffers addr len nr bgid 0) rfl, fun _ _ => rfl⟩
  | closeProvidedMode nr bgid => exact ⟨.ofUntagged (.remove_buffers nr bgid) rfl, fun _ _ => rfl⟩
  | readBufferSelect | readvBufferSelect | recvBufferSelect | recvMultishot | recvmsgBufferSelect
  | recvmsgMultishot =>
    exact ⟨.ofRequest _ _ (selectBuffer _) rfl (fun _ => rfl)
      (linked_selectBuffer _), fun _ _ => rfl⟩
  | sendmsgZc | recvFixed | recvmsgFixed =>
    exact ⟨.ofRequest _ _ (fixedBuffer _) rfl (fun _ => rfl) (fun _ => rfl), fun _ _ => rfl⟩
  | _ => exact ⟨.ofRequest _ _ id rfl (fun _ => rfl) (fun _ => rfl), fun _ _ => rfl⟩

/-- **What a builder that succeeds appended**: what the macro reserved, with the entry filled. -/
theorem Builder.run_exact {b : Builder} {r : ℤ} (h : (b.run ring timeout_params r).result = 1) :
    ∃ op link, Adds ring (b.run ring timeout_params r).consumed (b.run ring timeout_params r).ring
        ((ring.tail, op) :: link) ∧ op.prep = some b.call ∧
      match requestedTimeout timeout_params with
      | none => op.linked = false ∧ link = []
      | some ts => op.linked = true ∧
          if 2 ≤ ring.free then
            ∃ t, link = [(ring.tail + 1, t)] ∧ t.prep = some (.link_timeout ⟨ts⟩ 0) ∧
              t.linked = false
          else requiresTimeout timeout_params = false ∧ ring.free = 1 ∧ link = [] := by
  have hneg := b.failure_lt
  unfold Builder.run at h ⊢
  cases hreserved : sqeWithOptionalTimeout ring timeout_params with
  | error ring' => simp [hreserved, Submission.abandoned] at h
  | ok p =>
    obtain ⟨sqe, ring'⟩ := p
    obtain ⟨rfl, e, link, hwin, hexact⟩ := sqeWithOptionalTimeout_exact hreserved
    cases hs : b.supported with
    | false => simp [hreserved, hs, Submission.abandoned] at h
    | true =>
      have hlink : link = [] ∨ ∃ t, link = [(ring.tail + 1, t)] := by
        split at hexact
        · exact .inl hexact.2
        · split at hexact
          · obtain ⟨-, t, hlink, -⟩ := hexact
            exact .inr ⟨t, hlink⟩
          · exact .inl hexact.2.2.2
      obtain ⟨-, hadded, -⟩ := fillAndSubmit_spec hwin b.fill b.failure r
      refine ⟨b.fill e, link, ⟨by simpa using hadded, ?_, ?_⟩, b.prep e, ?_⟩
      · rcases hlink with rfl | ⟨t, rfl⟩ <;> rfl
      · simp only [if_true, fillAndSubmit, submit_tail, RingBuffer.modify_tail]
        rw [tail_of_added hwin hlink]
        rfl
      · rw [b.keeps e]
        exact hexact

/-- The entries that a successful builder appended are the right ones if no timeout was requested;
or if one was, not exactly one entry was free, and the frame of `timeout` still holds it. -/
theorem Builder.linked_run {b : Builder} {r : ℤ} (stack : Timespec)
    (h : (b.run ring timeout_params r).result = 1) :
    (b.run ring timeout_params r).Linked ring stack timeout_params b.call ↔
      ∀ ts, requestedTimeout timeout_params = some ts → ring.free ≠ 1 ∧ stack = ts := by
  obtain ⟨op, link, hadds, hprep, hexact⟩ := b.run_exact h
  generalize b.run ring timeout_params r = s at hadds ⊢
  -- The entries are determined by the queue before and after.
  have hsame : ∀ added, Adds ring s.consumed s.ring added → added = (ring.tail, op) :: link :=
    fun added hentries => List.append_cancel_left (hentries.window.symm.trans hadds.window)
  unfold Submission.Linked
  cases hrequest : requestedTimeout timeout_params with
  | none =>
    rw [hrequest] at hexact
    obtain ⟨hfree, rfl⟩ := hexact
    exact iff_of_true ⟨_, hadds, op, rfl, hprep, hfree⟩ (fun ts hts => by cases hts)
  | some ts =>
    rw [hrequest] at hexact
    obtain ⟨hmarked, hroom⟩ := hexact
    by_cases htwo : 2 ≤ ring.free
    · rw [if_pos htwo] at hroom
      obtain ⟨t, rfl, htimeout, hlast⟩ := hroom
      have hread : t.linkTimespec stack = some stack := by rw [Sqe.linkTimespec, htimeout]
      simp only [if_pos htwo]
      constructor
      · rintro ⟨added, hentries, op', t', rfl, -, -, hts, -⟩ ts' hts'
        have hcons := hsame _ hentries
        simp only [List.cons.injEq, Prod.mk.injEq, true_and, and_true] at hcons
        rw [hcons.2, hread] at hts
        exact ⟨by omega, Option.some.inj (hts.trans hts')⟩
      · intro hheld
        obtain ⟨-, rfl⟩ := hheld ts rfl
        exact ⟨_, hadds, op, t, rfl, hprep, hmarked, hread, hlast⟩
    · -- One entry: the operation is alone, and marked.
      rw [if_neg htwo] at hroom
      obtain ⟨-, hone, rfl⟩ := hroom
      simp only [if_neg htwo]
      refine iff_of_false ?_ (fun hheld => (hheld ts rfl).1 hone)
      rintro ⟨added, hentries, -, op', rfl, -, hfree⟩
      have hcons := hsame _ hentries
      simp only [List.cons.injEq, Prod.mk.injEq, true_and, and_true] at hcons
      rw [hcons, hmarked] at hfree
      cases hfree

/-- There are at least two timeouts. -/
theorem Timespec.exists_ne (ts : Timespec) : ∃ stack : Timespec, stack ≠ ts := by
  refine ⟨⟨ts.tv_sec + 1, 0⟩, fun heq => ?_⟩
  have hsec := congrArg Timespec.tv_sec heq
  simp only at hsec
  omega

/-- **When the entries of an operation are the right ones.** For every function that uses the macro,
with every timeout parameters, on every queue, when it succeeds: the entries that it appended are
the operation alone, or with its timeout, as requested, exactly if no timeout was requested, or not
exactly one entry was free and the kernel finds the timeout in the frame that `timeout` had.
Whatever it finds there, they are right exactly if no timeout was requested. -/
theorem OpsCall.linked_iff (c : OpsCall) (hc : c.usesMacro = true) :
    ∃ call : PrepCall, call.isLinkTimeout = false ∧
      ∀ (ring : Ring) (r : ℤ), (c.run ring r).result = 1 →
        (∀ stack : Timespec, (c.run ring r).Linked ring stack c.timeoutParams call ↔
          ∀ ts, requestedTimeout c.timeoutParams = some ts → ring.free ≠ 1 ∧ stack = ts) ∧
        ((∀ stack : Timespec, (c.run ring r).Linked ring stack c.timeoutParams call) ↔
          requestedTimeout c.timeoutParams = none) := by
  obtain ⟨b, hb⟩ := c.exists_builder hc
  refine ⟨b.call, b.operation, fun ring r h => ?_⟩
  rw [hb] at h ⊢
  refine ⟨fun stack => b.linked_run stack h, ?_⟩
  simp only [b.linked_run _ h]
  constructor
  · intro hheld
    rw [Option.eq_none_iff_forall_ne_some]
    intro ts hts
    -- A timeout cannot be what every stack holds.
    obtain ⟨stack, hne⟩ := ts.exists_ne
    exact hne (hheld stack ts hts).2
  · intro hnone stack ts hts
    rw [hnone] at hts
    cases hts

/-- A read with a timeout of a second, on a queue with room for both entries, if the kernel finds
the second in the frame; and a read without a timeout, whatever it finds. -/
theorem OpsCall.read_linked :
    (∃ call : PrepCall, call.isLinkTimeout = false ∧
      ((OpsCall.read 7 3 4096 16 0 ⟨1, 0, false⟩).run (.replicate 1 .zero) 2).Linked
        (.replicate 1 .zero) ⟨1, 0⟩ (some ⟨1, 0, false⟩) call) ∧
    ∃ call : PrepCall, call.isLinkTimeout = false ∧ ∀ stack : Timespec,
      ((OpsCall.read 7 3 4096 16 0 .zero).run (.replicate 1 .zero) 1).Linked
        (.replicate 1 .zero) stack (some .zero) call := by
  obtain ⟨call, hcall, hlinked⟩ := (OpsCall.read 7 3 4096 16 0 ⟨1, 0, false⟩).linked_iff rfl
  obtain ⟨call', hcall', hlinked'⟩ := (OpsCall.read 7 3 4096 16 0 .zero).linked_iff rfl
  refine ⟨⟨call, hcall, ((hlinked (.replicate 1 .zero) 2 (by decide)).1 ⟨1, 0⟩).mpr ?_⟩,
    call', hcall', (hlinked' (.replicate 1 .zero) 1 (by decide)).2.mpr (by decide)⟩
  intro ts hts
  obtain rfl : ts = ⟨1, 0⟩ := (Option.some.inj hts).symm
  decide

/-- A submission failed and left a read in a queue of two entries. The next read asks for a timeout
of a second that it can do without, and succeeds; the kernel takes the older read only. The entry of
the new read is linked, without a timeout, and what the queue gets next, a write, is behind it. And
with room for both entries, a read with a timeout of a second is linked to a timeout of zero seconds
if the kernel finds zeros in the frame that `timeout` had. -/
theorem OpsCall.optional_not_linked :
    (let ring := ((OpsCall.read 7 3 4096 16 0 .zero).run (.replicate 1 .zero) (-11)).ring
    let next := (OpsCall.read 8 3 8192 16 0 ⟨1, 0, false⟩).run ring 1
    let later := (OpsCall.write 9 4 4096 16 0 .zero).run next.ring 0
    ring.free = 1 ∧ next.result = 1 ∧
      (∀ stack call, ¬ next.Linked ring stack (some ⟨1, 0, false⟩) call) ∧
      later.result = 1 ∧
      later.ring.window.map (fun e => (e.2.prep, e.2.linked)) =
        [(some (.read 3 8192 16 0), true), (some (.write 4 4096 16 0), false)]) ∧
    let read := (OpsCall.read 7 3 4096 16 0 ⟨1, 0, false⟩).run (.replicate 1 .zero) 2
    read.result = 1 ∧ read.consumed.filterMap (fun e => e.2.linkTimespec ⟨0, 0⟩) = [⟨0, 0⟩] ∧
      ∀ call, ¬ read.Linked (.replicate 1 .zero) ⟨0, 0⟩ (some ⟨1, 0, false⟩) call := by
  refine ⟨⟨by decide, by decide, ?_, by decide, by decide⟩, by decide, by decide, ?_⟩
  · rintro stack call ⟨added, hadds, hentries⟩
    obtain ⟨-, op, hadded, -, hfree⟩ := hentries
    have hwindow := hadds.window
    rw [hadded] at hwindow
    have hflag := congrArg (List.map fun e => e.2.linked) hwindow
    simp only [List.map_append, List.map_cons, hfree] at hflag
    revert hflag
    decide
  · rintro call ⟨added, hadds, hentries⟩
    obtain ⟨op, t, hadded, -, -, htimeout, -⟩ := hentries
    -- What is read is the content of the stack, and that is no second.
    unfold Sqe.linkTimespec at htimeout
    split at htimeout <;> cases htimeout

end Uringio
