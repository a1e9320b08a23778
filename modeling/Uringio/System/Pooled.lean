import Uringio.Buffers.Serving
import Uringio.Loop.Pool
import Uringio.System.Recorded

/-!
# Who holds the indices of a fixed context

The reads of a `FIXED` context take an index from its pool, and their entries name it. An index is
held while the completion of its entry was not read (`heldIndices`). The free and the held indices
are exactly those of the pool, as long as every index that is taken goes to the kernel, and what the
reader gives back is what the completion gave up (`IndexSafe`): then every step keeps the partition
(`PoolInv.step`), and so it holds in every state of such a run (`partition_of_run`). The payload
remembers one index only, the reader does not look at whose it is, and an error gives nothing back:
each of these breaks the partition, the last with a single read (`failedRead_leaks`).
-/

namespace Uringio

/-- The index in the entry of a fixed read. -/
def Sqe.fixedIndex (e : Sqe) : Option ℤ :=
  match e.prep with
  | some (.read_fixed _ _ _ _ buf_index) => some buf_index
  | _ => none

/-- The pool of context number `n` has a free index. -/
def Loop.HasIndex (L : Loop) (n : ℕ) : Prop :=
  ∃ reg ∈ (L.payloads (.context n)).idx_registry, reg.free ≠ []

instance (L : Loop) (n : ℕ) : Decidable (L.HasIndex n) :=
  inferInstanceAs (Decidable (∃ reg ∈ (L.payloads (.context n)).idx_registry, _))

/-- Context number `n` was created and entered in `FIXED` mode, with `m` buffers. -/
def World.EntersFixed (world : World) (n m : ℕ) : Prop :=
  m < 2^31 ∧ ∃ payload_type buffers_obj amount bufsize alloc rand raw payload ring env entered,
    createBufferPayload .FIXED payload_type buffers_obj amount bufsize alloc rand raw =
      some payload ∧ payload.amount = m ∧ bufferModeEnter ring payload env = some entered ∧
    world.payloads (.context n) = entered.payload

namespace System

open Transition (Run anyStep exec)

variable {s s' : System} {l : Label} {n m : ℕ} {c : Completion} {added : List (ℕ × Sqe)}

/-- The entries whose last completion was not read. -/
def unread (s : System) : List (ℕ × Sqe) := s.pending ++ s.ends.map fun c => (c.pos, c.sqe)

/-- The index of context number `n` that an entry holds: that of a fixed read for a request which
uses the payload of the context. -/
def heldIndex (s : System) (n : ℕ) (entry : ℕ × Sqe) : Option ℤ :=
  ((s.owner entry.1).bind s.registered).bind fun reg =>
    if reg.slot.opcode = .read ∧ reg.slot.buffer_payload = some (.context n) then
      entry.2.fixedIndex
    else none

/-- The indices of context number `n` that are held. -/
def heldIndices (s : System) (n : ℕ) : List ℤ := s.unread.filterMap (s.heldIndex n)

/-- The free indices of context number `n` and the held ones are exactly those below `m`, each
once. -/
def Conserves (n m : ℕ) (s : System) : Prop :=
  ∃ reg, (s.loop.payloads (.context n)).idx_registry = some reg ∧
    IndexStack.Partition m reg.free (s.heldIndices n)

/-- The reader gives back what the completion gives up. For a fixed read, it gives an index back,
and it is this one that the payload remembers; for any other completion it gives nothing back, or
nothing is held. -/
def Settles (s : System) (n : ℕ) (c : Completion) : Prop :=
  (∀ index ∈ s.heldIndex n (c.pos, c.sqe),
    s.loop.GivesIndex n c.cqe ∧ (s.loop.payloads (.context n)).buf_idx = index) ∧
  (s.heldIndex n (c.pos, c.sqe) = none → s.loop.GivesIndex n c.cqe → s.heldIndices n = [])

instance (s : System) (n : ℕ) (c : Completion) : Decidable (s.Settles n c) :=
  inferInstanceAs (Decidable ((∀ index ∈ s.heldIndex n (c.pos, c.sqe), _) ∧ (_ → _ → _)))

/-- A read in context number `n` is made when there is a free index and the submission succeeds, and
the reader gives back what the completion gives up. -/
def IndexSafe (n : ℕ) (s : System) : Label → Prop
  | .call ctx op env => s.loop.TakesIndex n ctx op →
      s.loop.HasIndex n ∧ op.canSubmit env s.loop.ring
  | .read _ => ∀ c ∈ s.cq.head?, s.Settles n c
  | _ => True

instance (n : ℕ) (s : System) : (l : Label) → Decidable (IndexSafe n s l)
  | .call .. => inferInstanceAs (Decidable (_ → _))
  | .read _ => inferInstanceAs (Decidable (∀ c ∈ s.cq.head?, _))
  | .initProvidedMode .. | .closeProvidedMode .. | .post .. | .submit .. | .writeToSelf
  | .returned | .signal | .cancel .. => inferInstanceAs (Decidable True)

/-! ## The entries that are not finished -/

/-- What is submitted is not read yet. -/
theorem unread_submits (h : Submits s s' added) (hcq : s'.cq = s.cq) :
    s'.unread.Perm (s.unread ++ added) := by
  have hends : s'.ends = s.ends := by rw [ends, ends, hcq]
  unfold unread
  rw [hends, List.append_assoc]
  refine (h.pending.append_right _).trans ?_
  rw [List.append_assoc]
  exact List.perm_append_comm.append_left _

/-- The entry whose last completion is read is finished. -/
theorem unread_read (h : Submits s s' added) (hcq : s.cq = c :: s'.cq) (hend : c.cqe.more = false) :
    ((c.pos, c.sqe) :: s'.unread).Perm (s.unread ++ added) := by
  have hends : s.ends = c :: s'.ends := by
    rw [ends, ends, hcq, List.filter_cons_of_pos (by simp [hend])]
  unfold unread
  rw [hends, List.map_cons, List.append_assoc]
  have hpending := h.pending.append_right (s'.ends.map fun c => (c.pos, c.sqe))
  refine (hpending.cons _).trans ?_
  rw [List.append_assoc]
  exact (List.perm_append_comm.append_left _).cons _ |>.trans List.perm_middle.symm

/-- The other completions finish nothing. -/
theorem unread_more (h : Submits s s' added) (hcq : s.cq = c :: s'.cq) (hmore : c.cqe.more = true) :
    s'.unread.Perm (s.unread ++ added) := by
  have hends : s.ends = s'.ends := by
    rw [ends, ends, hcq, List.filter_cons_of_neg (by simp [hmore])]
  unfold unread
  rw [hends, List.append_assoc]
  refine (h.pending.append_right _).trans ?_
  rw [List.append_assoc]
  exact List.perm_append_comm.append_left _

/-- What the kernel posts for is not finished before its completion is read. -/
theorem unread_posts (h : Posts s s' c) : s'.unread.Perm s.unread := by
  have hends : s'.ends = s.ends ++ if c.cqe.more then [] else [c] := by
    unfold ends
    rw [h.cq, List.filter_append]
    cases hmore : c.cqe.more <;> simp [hmore]
  have hpending := h.pending
  unfold unread
  rw [hends]
  cases hmore : c.cqe.more with
  | true =>
    simp only [hmore, if_true, List.append_nil] at hpending ⊢
    exact hpending.symm.append_right _
  | false =>
    simp only [hmore, Bool.false_eq_true, if_false, List.map_append, List.map_cons,
      List.map_nil] at hpending ⊢
    refine List.Perm.trans ?_ (hpending.symm.append_right _)
    rw [← List.append_assoc, List.cons_append]
    exact List.perm_append_singleton _ _

/-- What is not read yet is outstanding. -/
theorem outstanding_of_unread {entry : ℕ × Sqe} (h : entry ∈ s.unread) :
    s.Outstanding entry.1 entry.2 := by
  rcases List.mem_append.mp h with hp | he
  · exact .inl hp
  · obtain ⟨c, hc, rfl⟩ := List.mem_map.mp he
    exact .inr ⟨c, List.mem_of_mem_filter hc, rfl, rfl⟩

/-! ## What they hold -/

/-- What an entry holds is fixed when it is added. -/
theorem heldIndex_step (ht : Tracked s) (hstep : step s l = some s') {entry : ℕ × Sqe}
    (hpos : entry.1 < s.tail) : s'.heldIndex n entry = s.heldIndex n entry := by
  unfold heldIndex
  rw [owner_of_lt hstep ht.sound hpos]
  cases howner : s.owner entry.1 with
  | none => rfl
  | some k =>
    simp only [Option.bind_some, registered_step ht.sound hstep k (ht.owned _ k howner).2]

/-- What is held after a step that finishes no entry. -/
theorem heldIndices_step (ht : Tracked s) (hstep : step s l = some s')
    (hperm : s'.unread.Perm (s.unread ++ added)) :
    (s'.heldIndices n).Perm (s.heldIndices n ++ added.filterMap (s'.heldIndex n)) := by
  have hsame : s.unread.filterMap (s'.heldIndex n) = s.heldIndices n :=
    List.filterMap_congr fun entry hentry =>
      heldIndex_step ht hstep (ht.bound _ _ (outstanding_of_unread hentry))
  have h := hperm.filterMap (s'.heldIndex n)
  rwa [List.filterMap_append, hsame] at h

/-- Entries that nobody owns hold nothing. -/
theorem held_of_not_owned (hnone : ∀ entry ∈ added, s'.owner entry.1 = none) :
    added.filterMap (s'.heldIndex n) = [] := by
  refine List.filterMap_eq_nil_iff.mpr fun entry hentry => ?_
  unfold heldIndex
  rw [hnone entry hentry]
  rfl

/-- Entries that a step adds without an owner hold nothing. -/
theorem held_of_owner_eq (ht : Tracked s) (hsub : Submits s s' added)
    (howner : s'.owner = s.owner) :
    added.filterMap (s'.heldIndex n) = [] := by
  refine held_of_not_owned fun entry hentry => ?_
  rw [howner]
  cases hown : s.owner entry.1 with
  | none => rfl
  | some j =>
    have hlt := (ht.owned _ j hown).1
    have hge := (hsub.pos_of_added (show (entry.1, entry.2) ∈ added from hentry)).1
    omega

/-- Of the entries that a request adds only the first may hold an index. -/
theorem held_of_first {e : Sqe} {link : List (ℕ × Sqe)} {k : Option ℕ} (ht : Tracked s)
    (hsub : Submits s s' ((s.tail, e) :: link))
    (howner : s'.owner = Function.update s.owner s.tail k) :
    ((s.tail, e) :: link).filterMap (s'.heldIndex n) = (s'.heldIndex n (s.tail, e)).toList := by
  have hlink : link.filterMap (s'.heldIndex n) = [] := by
    refine held_of_not_owned fun entry hentry => ?_
    have hpos := hsub.positions
    rw [List.map_cons, List.length_cons, List.range'_succ, List.cons.injEq] at hpos
    have hmem := List.mem_map_of_mem (f := Prod.fst) hentry
    rw [hpos.2, List.mem_range'_1] at hmem
    have hne : entry.1 ≠ s.tail := by omega
    rw [howner, Function.update_of_ne hne]
    cases hown : s.owner entry.1 with
    | none => rfl
    | some j =>
      have hlt := (ht.owned _ j hown).1
      omega
  rw [List.filterMap_cons, hlink]
  cases s'.heldIndex n (s.tail, e) <;> rfl

/-! ## The invariant -/

/-- What the reads of a `FIXED` context rely on, and what stays as it is. -/
structure FixedPayload (payload : BufferPayload) : Prop where
  /-- The mode is `FIXED`. -/
  mode : payload.mode = .FIXED
  /-- The payload offers its linear array. -/
  payload_type : payload.payload_type = .PAYLOAD_LINEAR
  /-- There is a first buffer. -/
  linear : ∃ b bs, payload.linear = some (b :: bs)

/-- The invariant: the indices of the pool are conserved, and the completion of a fixed read is its
only one. -/
structure PoolInv (n m : ℕ) (s : System) : Prop where
  /-- The history and the queues are in order. -/
  tracked : Tracked s
  /-- Each slot in use is that of a request on record. -/
  records : Records s
  /-- The payload of the context is a fixed one. -/
  fixed : FixedPayload (s.loop.payloads (.context n))
  /-- Each index is free, or that of a read in flight. -/
  pool : ∃ reg, (s.loop.payloads (.context n)).idx_registry = some reg ∧ reg.size = m ∧
    IndexStack.Partition m reg.free (s.heldIndices n)
  /-- A read of the context has one completion. -/
  last : ∀ c ∈ s.cq, (s.heldIndex n (c.pos, c.sqe)).isSome = true → c.cqe.more = false

/-- Completions that are in the queue stay the last ones. -/
theorem PoolInv.last_step (h : PoolInv n m s) (hstep : step s l = some s')
    (hcq : ∀ c ∈ s'.cq, c ∈ s.cq) :
    ∀ c ∈ s'.cq, (s'.heldIndex n (c.pos, c.sqe)).isSome = true → c.cqe.more = false := by
  intro c hc hheld
  have hpos := h.tracked.bound c.pos c.sqe (.inr ⟨c, hcq c hc, rfl, rfl⟩)
  rw [heldIndex_step h.tracked hstep hpos] at hheld
  exact h.last c (hcq c hc) hheld

/-- A step that leaves the pool, and neither finishes nor adds a fixed read of the context. -/
theorem PoolInv.same (h : PoolInv n m s) (hstep : step s l = some s')
    (hpay : s'.loop.payloads (.context n) = s.loop.payloads (.context n))
    (hheld : (s'.heldIndices n).Perm (s.heldIndices n))
    (hlast : ∀ c ∈ s'.cq, (s'.heldIndex n (c.pos, c.sqe)).isSome = true → c.cqe.more = false) :
    PoolInv n m s' where
  tracked := h.tracked.step hstep
  records := h.records.step h.tracked.sound hstep
  fixed := by rw [hpay]; exact h.fixed
  pool := by
    obtain ⟨reg, hreg, hsize, hpart⟩ := h.pool
    rw [hpay]
    exact ⟨reg, hreg, hsize, hpart.perm hheld⟩
  last := hlast

/-- A step that adds entries without owners. -/
theorem PoolInv.quiet (h : PoolInv n m s) (hstep : step s l = some s')
    (hsub : Submits s s' added) (hcq : s'.cq = s.cq) (howner : s'.owner = s.owner)
    (hpay : s'.loop.payloads (.context n) = s.loop.payloads (.context n)) : PoolInv n m s' := by
  refine h.same hstep hpay ?_ (h.last_step hstep fun c hc => hcq ▸ hc)
  have hperm := heldIndices_step (n := n) h.tracked hstep (unread_submits hsub hcq)
  rwa [held_of_owner_eq h.tracked hsub howner, List.append_nil] at hperm

/-! ## The steps -/

/-- A call that takes an index: it moves from the free ones to the held ones. -/
theorem PoolInv.takes {ctx : ExecutionContext} {op : Op} {env : CallEnv} (h : PoolInv n m s)
    (hok : IndexSafe n s (.call ctx op env)) (htakes : s.loop.TakesIndex n ctx op)
    (hstep : step s (.call ctx op env) = some s') : PoolInv n m s' := by
  have ht := h.tracked.step hstep
  have hrecords := h.records.step h.tracked.sound hstep
  obtain ⟨⟨top, htop, hfree⟩, hcan⟩ := hok htakes
  obtain ⟨reg, hreg, hsize, hpart⟩ := h.pool
  rw [hreg] at htop
  obtain rfl := Option.some.inj htop
  obtain ⟨-, c, hcall, rfl⟩ := call_step hstep
  -- The call is accepted.
  have hfuture : c.future ≠ none := by
    obtain ⟨-, ⟨hrefuses, -⟩ | ⟨-, htried⟩⟩ := Loop.call_flags hcall
    · rw [htakes.2.2.1] at hrefuses
      cases hrefuses
    · cases htried with
      | full hfull => exact absurd hfull htakes.2.2.2
      | failed _ hcannot => exact absurd hcan hcannot
      | accepted _ _ hfuture => simp [hfuture]
  obtain ⟨f, offset, size, tp, rfl⟩ : ∃ f offset size tp, op = .read f offset size tp := by
    have hop := htakes.1
    cases op <;> first | exact ⟨_, _, _, _, rfl⟩ | cases hop
  obtain ⟨b, bs, hlinear⟩ := h.fixed.linear
  obtain ⟨hpay, haccepted⟩ := Loop.call_takes_pool htakes h.fixed.mode h.fixed.payload_type hreg
    hlinear hcall
  obtain ⟨⟨slot, hslot, hpayload⟩, e, link, fd, hadds, hprep⟩ := haccepted hfuture
  rcases called_cases h.tracked.sound hcall with ⟨hrej, -⟩ |
      ⟨req, idx, e', hacc, howner, hregistered⟩
  · exact absurd hrej.future hfuture
  · rw [hacc.request_idx, hacc.slot] at hslot
    cases hslot
    have hsub : Submits s (s.called ctx (.read f offset size tp) env c) ((s.tail, e) :: link) :=
      submits_called hadds
    have hcq : (s.called ctx (.read f offset size tp) env c).cq = s.cq := called_cq ..
    obtain ⟨k, reg', hget, hpop, hsize'⟩ := reg.getBufferIdx_cases.resolve_left fun hn => hfree hn.1
    have hheld : (s.called ctx (.read f offset size tp) env c).heldIndex n
        (s.tail, e) = some k := by
      unfold heldIndex
      rw [howner, hregistered]
      simp only [Function.update_self, Option.bind_some]
      rw [if_pos ⟨hacc.request.opcode, hpayload⟩, Sqe.fixedIndex, hprep, hget]
    have hperm := heldIndices_step (n := n) h.tracked hstep (unread_submits hsub hcq)
    rw [held_of_first h.tracked hsub howner, hheld] at hperm
    exact
      { tracked := ht
        records := hrecords
        fixed := by
          rw [called_loop, hpay]
          exact ⟨h.fixed.mode, h.fixed.payload_type, h.fixed.linear⟩
        pool := by
          rw [called_loop, hpay]
          refine ⟨reg', by rw [BufferPayload.take, hget], hsize'.trans hsize, ?_⟩
          rw [hpop] at hpart
          exact hpart.acquire.perm (hperm.trans (List.perm_append_singleton _ _))
        last := h.last_step hstep fun d hd => hcq ▸ hd }

/-- The other calls leave the pool, and their entries hold nothing. -/
theorem PoolInv.leaves {ctx : ExecutionContext} {op : Op} {env : CallEnv} (h : PoolInv n m s)
    (htakes : ¬ s.loop.TakesIndex n ctx op) (hstep : step s (.call ctx op env) = some s') :
    PoolInv n m s' := by
  obtain ⟨-, c, hcall, rfl⟩ := call_step hstep
  have hcq : (s.called ctx op env c).cq = s.cq := called_cq ..
  have hpay : (s.called ctx op env c).loop.payloads (.context n) = s.loop.payloads
      (.context n) := by
    rw [called_loop, Loop.call_keeps_pool htakes hcall]
  rcases called_cases h.tracked.sound hcall with
    ⟨hrej, howner, -⟩ | ⟨req, idx, e, hacc, howner, hregistered⟩
  · obtain ⟨added, hadds⟩ := hrej.ring
    exact h.quiet hstep (submits_called hadds) hcq howner hpay
  · obtain ⟨link, hadds⟩ := hacc.ring
    have hsub : Submits s (s.called ctx op env c) ((s.tail, e) :: link) := submits_called hadds
    have hnone : (s.called ctx op env c).heldIndex n (s.tail, e) = none := by
      unfold heldIndex
      rw [howner, hregistered]
      simp only [Function.update_self, Option.bind_some]
      refine if_neg fun ⟨hop, hpayload⟩ => htakes ?_
      -- A read that holds the payload of the context was made in it.
      have hctx : ctx.buffer_payload = some n := by
        rcases hacc.request.payload _ hpayload with ⟨hown, -⟩ | ⟨j, hj, heq, -⟩
        · cases hown
        · cases heq
          exact hj
      obtain ⟨-, ⟨-, rfl⟩ | ⟨hopen, htried⟩⟩ := Loop.call_flags hcall
      · have hfuture := hacc.future
        cases hfuture
      · refine ⟨hacc.request.opcode.symm.trans hop, hctx, hopen, ?_⟩
        cases htried with
        | full _ hfuture =>
          rw [hacc.future] at hfuture
          cases hfuture
        | failed hslot => exact hslot
        | accepted hslot => exact hslot
    have hperm := heldIndices_step (n := n) h.tracked hstep (unread_submits hsub hcq)
    rw [held_of_first h.tracked hsub howner, hnone, Option.toList_none, List.append_nil] at hperm
    exact h.same hstep hpay hperm (h.last_step hstep fun d hd => hcq ▸ hd)

/-- The entries that the reader adds hold nothing. -/
theorem PoolInv.resubmitted {cq : List Completion} {renv : ReadEnv} {r : Read} (h : PoolInv n m s)
    (hread : readCqe s.loop renv c.cqe = .ok r)
    (hsub : Submits s ({ s with cq := cq }.handled c r) added) :
    added.filterMap (({ s with cq := cq }.handled c r).heldIndex n) = [] := by
  refine List.filterMap_eq_nil_iff.mpr fun entry hentry => ?_
  have hge := (hsub.pos_of_added (show (entry.1, entry.2) ∈ added from hentry)).1
  unfold heldIndex
  cases howner : ({ s with cq := cq }.handled c r).owner entry.1 with
  | none => rfl
  | some k =>
    rcases owner_handled howner with hold | ⟨-, hne, hfut⟩
    · have hlt := (h.tracked.owned entry.1 k hold).1
      omega
    · -- The entry is one of a receiver that was submitted again.
      obtain ⟨slot, hget, hslot⟩ := Option.bind_eq_some_iff.mp hfut
      obtain ⟨reg, hreg, hslot'⟩ := h.records.served _ k ⟨slot, hget, hslot⟩
      have hrecv : slot.opcode = .recvmsg := by
        rcases h.tracked.sound.read_cases hread with ⟨-, rfl⟩ |
            ⟨slot', j, hget', -, -, hleft | hfin⟩
        · exact absurd rfl hne
        · exact absurd (congrArg RingBuffer.tail hleft.ring) hne
        · rw [show registryGet s.loop.registry c.cqe.index = some slot from hget] at hget'
          cases hget'
          rcases hfin.ring with ⟨-, hring⟩ | ⟨hresub, -⟩
          · exact absurd (congrArg RingBuffer.tail hring) hne
          · exact (of_decide_eq_true hresub).1
      have heq : reg.slot = slot := by
        rw [show registryGet s.loop.registry c.cqe.index = some slot from hget] at hslot'
        exact (Option.some.inj hslot').symm
      have hregistered : ({ s with cq := cq }.handled c r).registered k = some reg := hreg
      simp only [Option.bind_some, hregistered, heq, hrecv]
      rfl

/-- Nothing is given back to a pool that is full. -/
theorem giveBack_of_full {payload : BufferPayload} {reg : FixedBufferIdxRegistry}
    (hreg : payload.idx_registry = some reg) (hfull : reg.free.length = reg.size) :
    payload.giveBack.idx_registry = some reg := by
  rcases reg.releaseBufferIdx_cases payload.buf_idx with ⟨-, hrel⟩ | ⟨hlt, -⟩
  · simp [BufferPayload.giveBack, hreg, hrel]
  · omega

/-- What is held is what is held after a completion was read, and what that one gave up. -/
theorem PoolInv.held_read {renv : ReadEnv} (h : PoolInv n m s)
    (hstep : step s (.read renv) = some s') (hsub : Submits s s' added) (hcq : s.cq = c :: s'.cq)
    (hadded : added.filterMap (s'.heldIndex n) = []) :
    ((s.heldIndex n (c.pos, c.sqe)).toList ++ s'.heldIndices n).Perm (s.heldIndices n) := by
  have hmem : c ∈ s.cq := by
    rw [hcq]
    exact List.mem_cons_self
  cases hmore : c.cqe.more with
  | true =>
    have hnone : s.heldIndex n (c.pos, c.sqe) = none := by
      cases hindex : s.heldIndex n (c.pos, c.sqe) with
      | none => rfl
      | some index =>
        have hend := h.last c hmem (by rw [hindex]; rfl)
        rw [hmore] at hend
        cases hend
    have hperm := heldIndices_step (n := n) h.tracked hstep (unread_more hsub hcq hmore)
    rw [hadded, List.append_nil] at hperm
    rw [hnone]
    exact hperm
  | false =>
    have hbound := h.tracked.bound c.pos c.sqe (.inr ⟨c, hmem, rfl, rfl⟩)
    have hsame : s.unread.filterMap (s'.heldIndex n) = s.heldIndices n :=
      List.filterMap_congr fun entry hentry =>
        heldIndex_step h.tracked hstep (h.tracked.bound _ _ (outstanding_of_unread hentry))
    have hperm := (unread_read hsub hcq hmore).filterMap (s'.heldIndex n)
    rw [List.filterMap_append, hsame, hadded, List.append_nil, List.filterMap_cons,
      heldIndex_step h.tracked hstep hbound] at hperm
    cases hindex : s.heldIndex n (c.pos, c.sqe) with
    | none =>
      rw [hindex] at hperm
      exact hperm
    | some index =>
      rw [hindex] at hperm
      exact hperm

/-- The reader keeps the invariant: what it gives back was held by the entry that is finished. -/
theorem PoolInv.read {renv : ReadEnv} (h : PoolInv n m s) (hok : IndexSafe n s (.read renv))
    (hstep : step s (.read renv) = some s') : PoolInv n m s' := by
  have ht := h.tracked.step hstep
  have hrecords := h.records.step h.tracked.sound hstep
  obtain ⟨reg, hreg, hsize, hpart⟩ := h.pool
  obtain ⟨c, cq, r, hcq, hread, rfl⟩ := read_step hstep
  obtain ⟨hgives, hkeeps⟩ : s.Settles n c := hok c (by rw [hcq]; rfl)
  have hpay := Loop.read_pool h.fixed.mode hread
  obtain ⟨added, hadds⟩ := read_adds h.tracked.sound hread
  have hsub : Submits s ({ s with cq := cq }.handled c r) added := submits_handled hcq hadds
  have hcqs : s.cq = c :: ({ s with cq := cq }.handled c r).cq := hcq
  have hperm := h.held_read hstep hsub hcqs (h.resubmitted hread hsub)
  have hlen := hpart.length_add
  have hlast := h.last_step hstep fun d hd => by
    rw [hcqs]
    exact List.mem_cons_of_mem _ hd
  have hfixed : FixedPayload (r.loop.payloads (.context n)) := by
    rw [hpay]
    split
    · exact ⟨h.fixed.mode, h.fixed.payload_type, h.fixed.linear⟩
    · exact h.fixed
  refine ⟨ht, hrecords, hfixed, ?_, hlast⟩
  change ∃ reg, (r.loop.payloads (.context n)).idx_registry = some reg ∧ _
  rw [hpay]
  cases hindex : s.heldIndex n (c.pos, c.sqe) with
  | none =>
    rw [hindex, Option.toList_none, List.nil_append] at hperm
    refine ⟨reg, ?_, hsize, hpart.perm hperm⟩
    split
    · next hg =>
      -- Nothing is held, so the pool is full.
      rw [hkeeps hindex hg, List.length_nil] at hlen
      exact giveBack_of_full hreg (by omega)
    · exact hreg
  | some index =>
    obtain ⟨hg, hidx⟩ := hgives index hindex
    rw [hindex, Option.toList_some, List.singleton_append] at hperm
    have hroom : reg.free.length < reg.size := by
      have hcount := hperm.length_eq
      rw [List.length_cons] at hcount
      omega
    rcases reg.releaseBufferIdx_cases index with ⟨hfull, -⟩ | ⟨-, reg', hrel, hfree, hsize'⟩
    · omega
    · refine ⟨reg', ?_, hsize'.trans hsize, ?_⟩
      · rw [if_pos hg]
        simp [BufferPayload.giveBack, hreg, hidx, hrel]
      · rw [hfree]
        have hheld : index ∈ s.heldIndices n := hperm.subset List.mem_cons_self
        refine (hpart.release hheld).perm ?_
        have herase := hperm.erase index
        rwa [List.erase_cons_head] at herase

/-- A completion of a fixed read is its last one. -/
theorem more_of_fixedIndex {f : Flight} {cqe : Cqe} (hfixed : f.sqe.fixedIndex.isSome = true)
    (hmay : f.mayPost cqe = true) : cqe.more = false := by
  unfold Sqe.fixedIndex at hfixed
  split at hfixed
  · next fd buf nbytes offset index hprep =>
    have hmulti : f.sqe.multishot = false := by simp [Sqe.multishot, hprep, PrepCall.multishot]
    have hcopy : f.sqe.zeroCopy = false := by simp [Sqe.zeroCopy, hprep, PrepCall.zeroCopy]
    simpa [Flight.mayPost, hmulti, hcopy] using hmay
  · cases hfixed

/-- What an entry holds is in the entry. -/
theorem fixedIndex_of_held {entry : ℕ × Sqe} (h : (s.heldIndex n entry).isSome = true) :
    entry.2.fixedIndex.isSome = true := by
  obtain ⟨index, hindex⟩ := Option.isSome_iff_exists.mp h
  obtain ⟨reg, -, hreg⟩ := Option.bind_eq_some_iff.mp hindex
  split at hreg
  · rw [hreg]
    rfl
  · cases hreg

/-- **Steps that are safe conserve the indices.** -/
theorem PoolInv.step (h : PoolInv n m s) (hok : IndexSafe n s l) (hstep : step s l = some s') :
    PoolInv n m s' := by
  cases l with
  | call ctx op env =>
    by_cases htakes : s.loop.TakesIndex n ctx op
    · exact h.takes hok htakes hstep
    · exact h.leaves htakes hstep
  | read renv => exact h.read hok hstep
  | initProvidedMode | closeProvidedMode | submit | returned | writeToSelf | signal =>
    obtain ⟨added, hsub⟩ := submits_step h.tracked.sound hstep (by simp)
    have heq := hstep
    cases heq
    exact h.quiet hstep hsub rfl rfl rfl
  | post k res flags into data =>
    obtain ⟨f, hf, hmay, -, -, rfl⟩ := post_step hstep
    have hposts := posts_posted hf ⟨f.sqe.user_data, res, flags⟩ rfl into data
    have hperm := heldIndices_step (n := n) h.tracked hstep
      ((unread_posts hposts).trans (by rw [List.append_nil]))
    rw [List.filterMap_nil, List.append_nil] at hperm
    refine h.same hstep rfl hperm fun c hc hheld => ?_
    rw [hposts.cq, List.mem_append, List.mem_singleton] at hc
    rcases hc with hc | rfl
    · have hbound := h.tracked.bound c.pos c.sqe (.inr ⟨c, hc, rfl, rfl⟩)
      rw [heldIndex_step h.tracked hstep hbound] at hheld
      exact h.last c hc hheld
    · exact more_of_fixedIndex (fixedIndex_of_held hheld) hmay
  | cancel f =>
    obtain ⟨added, hsub⟩ := submits_step h.tracked.sound hstep (by simp)
    have heq := hstep
    simp only [System.step] at heq
    split at heq
    · cases heq
      exact h.quiet hstep hsub rfl rfl rfl
    · cases heq

/-- A new loop holds nothing of a context that was entered. -/
theorem poolInv_init {registry_size : ℕ} {h : registry_size < 2^31} {world : World} {env : InitEnv}
    (hworld : world.ContextsSound) (hpos : 1 ≤ m) (henters : world.EntersFixed n m) :
    PoolInv n m (init registry_size h world env) := by
  obtain ⟨hlt, _, _, _, _, _, _, _, payload, _, _, entered, hcreate, hamount, henter,
      hpayload⟩ := henters
  obtain ⟨hmode, htype, ⟨b, bs, hlinear, -⟩, reg, hreg, hsize, hpart⟩ :=
    entered_fixed hpos hlt hcreate hamount henter
  have hpay : (init registry_size h world env).loop.payloads (.context n) = entered.payload :=
      hpayload
  have hnone : (init registry_size h world env).heldIndices n = [] :=
    List.filterMap_eq_nil_iff.mpr fun _ _ => rfl
  exact
    { tracked := tracked_init hworld
      records := records_init
      fixed := by
        rw [hpay]
        exact ⟨hmode, htype, b, bs, hlinear⟩
      pool := by
        rw [hpay, hnone]
        exact ⟨reg, hreg, hsize, hpart⟩
      last := fun c hc => by cases hc }

/-- **The indices of a fixed context are conserved** in every run whose steps are safe. -/
theorem conserves_of_run (registry_size : ℕ) (h : registry_size < 2^31) {world : World}
    (hworld : world.ContextsSound) (hpos : 1 ≤ m) (henters : world.EntersFixed n m) (env : InitEnv)
    (hrun : Run step (IndexSafe n) (init registry_size h world env) s) : Conserves n m s := by
  have hinv := hrun.invariant (P := PoolInv n m) (poolInv_init hworld hpos henters)
    fun _ _ _ hinv hok hstep => hinv.step hok hstep
  obtain ⟨reg, hreg, -, hpart⟩ := hinv.pool
  exact ⟨reg, hreg, hpart⟩

/-! ## Two runs -/

/-- The payload of a context with two buffers of 16 bytes that the runtime allocates. -/
def fixedCreated : Option BufferPayload :=
  createBufferPayload .FIXED .PAYLOAD_LINEAR none 2 16 (fun i => 1000 + 16 * i) 0 .zero

/-- The same after the context was entered in `FIXED` mode. -/
def fixedEntered : Option Entered :=
  fixedCreated.bind fun payload => bufferModeEnter ringInit payload ⟨0, 0, true⟩

/-- Memory in which the first context has entered `FIXED` mode. -/
def fixedWorld : World where
  payloads p :=
    if p = PayloadRef.context 0 then (fixedEntered.get (by decide +kernel)).payload
    else Sample.world.payloads p
  files := Sample.world.files
  sockets := Sample.world.sockets
  mem := Sample.world.mem

/-- The sample world enters a fixed mode. -/
theorem fixedWorld_enters : fixedWorld.EntersFixed 0 2 := by
  have hsome : fixedEntered = some (fixedEntered.get (by decide +kernel)) :=
    (Option.some_get _).symm
  obtain ⟨payload, hcreate, henter⟩ := Option.bind_eq_some_iff.mp hsome
  have hamount : fixedCreated.map BufferPayload.amount = some 2 := by decide +kernel
  rw [hcreate, Option.map_some, Option.some.injEq] at hamount
  exact ⟨by decide, _, _, _, _, _, _, _, payload, _, _, _, hcreate, hamount, henter, rfl⟩

/-- The sample world with the fixed mode is sound. -/
theorem fixedWorld_sound : fixedWorld.ContextsSound := by
  intro n hmode
  by_cases hn : n = 0
  · subst hn
    have hfixed : (fixedWorld.payloads (.context 0)).mode = .FIXED := by decide +kernel
    rw [hfixed] at hmode
    cases hmode
  · have hne : ¬ PayloadRef.context n = PayloadRef.context 0 :=
      fun heq => hn (PayloadRef.context.inj heq)
    change (if PayloadRef.context n = PayloadRef.context 0 then _ else _ :
      BufferPayload).payload_type = _
    rw [if_neg hne]
    rfl

/-- A read of the opened file in that context. -/
def fixedRead : Label :=
  .call ⟨.ONESHOT, .NORMAL_TRANSFER, some 0⟩ (.read 0 0 16 .zero) Sample.callEnv

/-- A file is opened. -/
def openRun : List Label :=
  [.call Sample.context (.open "f" (-100) 0 0 0 .zero) Sample.callEnv, .post 2 9 0 [] [],
    .read Sample.readEnv]

/-- Two reads overlap, and the one that was made last completes. -/
theorem conserves_lastRead : ∃ s,
    exec step (IndexSafe 0) (init 2 (by decide) fixedWorld Sample.initEnv)
      (openRun ++ [fixedRead, fixedRead, .post 3 0 0 [⟨1000, 16⟩] [], .read Sample.readEnv]) =
        some s ∧
    s.heldIndices 0 = [1] ∧ Conserves 0 2 s := by
  obtain ⟨s, hs, hf⟩ := Option.map_eq_some_iff.mp
    (show (exec step (IndexSafe 0) (init 2 (by decide) fixedWorld Sample.initEnv)
      (openRun ++ [fixedRead, fixedRead, .post 3 0 0 [⟨1000, 16⟩] [], .read Sample.readEnv])).map
      (fun s => s.heldIndices 0) = some [1] by decide +kernel)
  exact ⟨s, hs, hf, conserves_of_run 2 (by decide) fixedWorld_sound (by decide) fixedWorld_enters
    Sample.initEnv (.of_exec hs)⟩

/-- A single read fails: nobody holds the index that it took, and it is not free. -/
theorem failedRead_leaks : ∃ s,
    Run step anyStep (init 2 (by decide) fixedWorld Sample.initEnv) s ∧
    fixedWorld.EntersFixed 0 2 ∧ s.heldIndices 0 = [] ∧ ¬ Conserves 0 2 s := by
  obtain ⟨s, hs, hf⟩ := Option.map_eq_some_iff.mp
    (show (exec step anyStep (init 2 (by decide) fixedWorld Sample.initEnv)
      (openRun ++ [fixedRead, .post 2 (-5) 0 [⟨1000, 16⟩] [], .read Sample.readEnv])).map
      (fun s => (s.heldIndices 0, (s.loop.payloads (.context 0)).idx_registry.map (·.free))) =
        some ([], some [0]) by decide +kernel)
  simp only [Prod.mk.injEq] at hf
  refine ⟨s, .of_exec hs, fixedWorld_enters, hf.1, ?_⟩
  rintro ⟨reg, hreg, hpart⟩
  rw [hreg, Option.map_some, Option.some.injEq] at hf
  have hlen := hpart.length_add
  rw [hf.1, hf.2] at hlen
  exact absurd hlen (by decide)

end System

end Uringio
