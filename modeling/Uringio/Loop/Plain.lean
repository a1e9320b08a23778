import Uringio.Loop.Kind

/-!
# Requests in the plain mode

A request of a one-shot call without zero-copy transfer, whose payload is its own, has one
completion, and the reader turns that into the value that the operation prescribes (`Op.answer`):
`readCqe_answers`. What is needed of the request for that, `Loop.Holding`, is there when the call
returns (`holding_of_accepted`) and is not touched by what happens to other requests
(`Holding.frame`).
-/

namespace Uringio

open Memory (Region)

/-- The value of the future of call number `k`, when its operation completes with the result `res`:
`bytes` is what the buffers of a receiving operation hold, `domain` the domain of the socket that
the call is made on. -/
def Op.answer (op : Op) (k : ℕ) (domain res : ℤ) (bytes : List UInt8) : Outcome :=
  if res < 0 ∧ ¬ (op.opcode = .timeout ∧ res = -ETIME) then .osError (-res)
  else
    match op.opcode with
    | .openat2 => .file k res
    | .socket => .socket (.made k) res
    | .accept => .connection res domain (some k)
    | .read | .readv | .recv | .recvmsg => .bytes bytes
    | .timeout => .none
    | _ => .int res

/-- The payload of a context in `NORMAL_BUF` mode serves no request. -/
theorem Holds.own {k : ℕ} {payloads : PayloadRef → BufferPayload} {ctx : ExecutionContext}
    {p : PayloadRef} (h : Holds k payloads ctx p)
    (hnormal : ∀ n, ctx.buffer_payload = some n → (payloads (.context n)).mode = .NORMAL_BUF) :
    p = .own k ∧ (payloads p).mode = .NORMAL_BUF := by
  rcases h with h | ⟨n, hn, rfl, hmode⟩
  · exact h
  · exact absurd (hnormal n hn) hmode

namespace Loop

/-- The domain of the socket that a call is made on. -/
def domainOf (L : Loop) (k : ℕ) (op : Op) : ℤ := (op.socket? k).elim 0 fun s => (L.sockets s).domain

/-- The slot and the entry are those of the plain request that call number `k` made. -/
structure Holding (L : Loop) (k : ℕ) (op : Op) (slot : RequestSlot) (e : Sqe) : Prop where
  /-- The operation is that of the call. -/
  opcode : slot.opcode = op.opcode
  /-- The file is that of the call. -/
  file : slot.file = op.file k
  /-- The socket is that of the call. -/
  socket : slot.socket = op.socket? k
  /-- The request is for one completion. -/
  stream : slot.stream_strategy = .ONESHOT
  /-- An accept has the address block of the call. -/
  accept : op.opcode = .accept → slot.addr = some k
  /-- The payload is the call's own, and in the normal mode. -/
  payload : ∀ p, slot.buffer_payload = some p → p = .own k ∧ (L.payloads p).mode = .NORMAL_BUF
  /-- A write has the payload of the call. -/
  write : op.opcode = .write → slot.buffer_payload = some (.own k)
  /-- A read has a buffer. -/
  allocated : op.opcode = .read →
    ∃ b, (L.payloads (.own k)).linear = some [b] ∧ b.buffer ≠ 0
  /-- The bytes land in the memory that the payload names. -/
  lands : Lands op.opcode (slot.buffer_payload.map L.payloads) e.destination
  /-- The entry is for one completion. -/
  multishot : e.multishot = false
  /-- The entry has no notification. -/
  zeroCopy : e.zeroCopy = false
  /-- The kernel selects no buffer. -/
  selectsBuffer : e.selectsBuffer = false
  «exists» : ∀ s, op.socket? k = some s → L.SocketExists s

variable {j k : ℕ} {index : ℤ} {L L' : Loop} {slot : RequestSlot} {op : Op} {e : Sqe}
  {renv : ReadEnv} {cqe : Cqe} {p : PayloadRef} {ctx : ExecutionContext} {env : CallEnv}

/-! ## From the call to the completion -/

/-- **A call in the plain mode makes a plain request.** -/
theorem holding_of_accepted {c : Called} {req : Request}
    (hacc : Accepted L ctx op env c req index e)
    (hstream : ctx.stream = .ONESHOT) (htransfer : ctx.transfer_mode = .NORMAL_TRANSFER)
    (hnormal : ∀ n, ctx.buffer_payload = some n → (L.payloads (.context n)).mode = .NORMAL_BUF)
    (halloc : env.alloc 0 ≠ 0)
    (hsocket : op.opcode = .socket ∨ ∀ s, op.socket? L.calls = some s → L.SocketExists s) :
    c.loop.Holding L.calls op (req.slot index) e := by
  have hreq := hacc.request
  have hown : ∀ p, req.buffer_payload = some p →
      p = .own L.calls ∧ (c.loop.payloads p).mode = .NORMAL_BUF := by
    intro p hp
    refine (hreq.payload p hp).own fun n hn => ?_
    rw [(hacc.frame.payloads (.context n) (by simp)).mode]
    exact hnormal n hn
  have hdirect : Direct (req.buffer_payload.map c.loop.payloads) := by
    intro b hb
    obtain ⟨p, hp, rfl⟩ := Option.map_eq_some_iff.mp hb
    exact .inl (hown p hp).2
  obtain ⟨hselects, hlands⟩ := hacc.entry.lands hdirect
  exact
    { opcode := hreq.opcode
      file := hreq.file
      socket := hreq.socket
      stream := by
        rcases hreq.stream with h | h
        · exact h
        · exact h.trans hstream
      accept := hreq.accept
      payload := hown
      write := hreq.write
      allocated := fun hop => by
        have hpayload : req.buffer_payload = some (.own L.calls) := by
          rw [hop] at hlands
          obtain ⟨b, hb, -⟩ := hlands
          obtain ⟨p, hp, -⟩ := Option.map_eq_some_iff.mp hb
          rw [hp, (hown p hp).1]
        obtain ⟨b, hb, hbuf⟩ := hreq.allocated hop hpayload
        exact ⟨b, hb, by rw [hbuf]; exact halloc⟩
      lands := hlands
      multishot := hacc.entry.oneshot hstream
      zeroCopy := hacc.entry.copied htransfer
      selectsBuffer := hselects
      «exists» := fun s hs => by
        rcases hsocket with hop | hexists
        · have hmade : op.socket? L.calls = some (.made L.calls) := by
            cases op <;> first | rfl | cases hop
          rw [hmade] at hs
          cases hs
          change L.calls < c.loop.calls
          rw [hacc.calls]
          exact Nat.lt_succ_self _
        · exact (hexists s hs).mono hacc.frame }

/-- What happens to other requests does not touch this one. -/
theorem Holding.frame (h : L.Holding k op slot e) (hf : Frame j L L') (hj : j ≠ k) :
    L'.Holding k op slot e := by
  have hsame : ∀ p, slot.buffer_payload = some p → (L.payloads p).SameBuffers (L'.payloads p) := by
    intro p hp
    refine hf.payloads p ?_
    rw [(h.payload p hp).1]
    simpa using hj.symm
  exact { h with
    payload := fun p hp => by
      rw [(hsame p hp).mode]
      exact h.payload p hp
    allocated := fun hop => by
      rw [(hf.payloads (.own k) (by simpa using hj.symm)).linear]
      exact h.allocated hop
    lands := h.lands.congr hsame
    «exists» := fun s hs => (h.exists s hs).mono hf }

/-- Nor does what changes outside of payloads and sockets. -/
theorem Holding.congr (h : L.Holding k op slot e) (hpay : L'.payloads = L.payloads)
    (hcalls : L'.calls = L.calls) (haccepted : L'.accepted = L.accepted) :
    L'.Holding k op slot e := {
  h with
    payload := by rw [hpay]; exact h.payload
    allocated := by rw [hpay]; exact h.allocated
    lands := by rw [hpay]; exact h.lands
    «exists» := fun s hs => by
      have hexists := h.exists s hs
      cases s with
      | made j => exact lt_of_lt_of_eq hexists hcalls.symm
      | accepted j n => exact lt_of_lt_of_eq hexists (congrFun haccepted j).symm }

/-- The domain of the socket of a request does not change. -/
theorem domainOf_frame (hexists : ∀ s, op.socket? k = some s → L.SocketExists s)
    (hf : Frame j L L') : L'.domainOf k op = L.domainOf k op := by
  unfold domainOf
  cases hs : op.socket? k with
  | none => rfl
  | some s => exact hf.domain s (hexists s hs)

/-! ## The switch on a plain request -/

/-- The end of the cases that release the index of a payload, for one without a pool. -/
theorem finishPayload_normal {force : Bool} {result : Option Outcome}
    (hmode : (L.payloads p).mode = .NORMAL_BUF) :
    L.finishPayload index p force result = .ok
      (.finish (L.dropPayload index p force) result []) := by
  have hrel : L.releaseFixed p = .ok L := by simp [releaseFixed, hmode]
  simp only [finishPayload, hrel]
  rfl

/-- What a linear buffer holds. -/
theorem bytesAt_eq {b : LinearBuffer} {n : ℕ} {dest : List Region} (hdest : dest = [⟨b.buffer, n⟩])
    (hcap : cqe.res.toNat ≤ Memory.capacity dest) :
    L.bytesAt b.buffer cqe.res = .bytes (Memory.gather L.mem dest cqe.res.toNat) := by
  subst hdest
  rw [Memory.gather_singleton (by simpa [Memory.capacity] using hcap)]
  rfl

section Held

variable (h : L.Holding k op slot e)
  (hheld : ∀ p, slot.buffer_payload = some p → L.released (.payload p) = 0)
include h hheld

/-- The payload of a request is there. -/
theorem Holding.deref {payload : BufferPayload}
    (hp : slot.buffer_payload.map L.payloads = some payload) :
    ∃ p, L.deref slot.buffer_payload = .ok (p, payload) ∧ payload = L.payloads p ∧
      payload.mode = .NORMAL_BUF ∧ p = .own k := by
  obtain ⟨p, hq, rfl⟩ := Option.map_eq_some_iff.mp hp
  refine ⟨p, ?_, rfl, (h.payload p hq).2, (h.payload p hq).1⟩
  rw [deref_eq hheld, hq]
  rfl

/-- A plain `read` hands out the bytes of its destination. -/
theorem Holding.completeRead (hop : op.opcode = .read)
    (hcap : cqe.res.toNat ≤ Memory.capacity e.destination ∨ e.destination = []) :
    ∃ L', L.completeRead index slot cqe = .ok (.finish L'
      (some (.bytes (Memory.gather L.mem e.destination cqe.res.toNat))) []) := by
  have hlands := h.lands
  rw [hop] at hlands
  obtain ⟨payload, hp, b, bs, n, hlinear, hdest⟩ := hlands
  obtain ⟨p, hderef, rfl, hmode, rfl⟩ := h.deref hheld hp
  obtain ⟨b', hb', hbuf⟩ := h.allocated hop
  rw [hlinear] at hb'
  cases hb'
  have hbytes : L.bytesAt b.buffer cqe.res = _ := bytesAt_eq hdest
    (hcap.resolve_right (by rw [hdest]; exact List.cons_ne_nil _ _))
  refine ⟨L.dropPayload index (.own k) false, ?_⟩
  simp only [Loop.completeRead, hderef, BufferPayload.firstLinear_eq_ok.mpr ⟨_, hlinear⟩, bind,
    Except.bind, hbuf, if_false, hbytes, finishPayload_normal hmode]

/-- A plain `readv` hands out the bytes of its destination. -/
theorem Holding.completeReadv (hop : op.opcode = .readv) :
    ∃ L', L.completeReadv index slot cqe = .ok (.finish L'
      (some (.bytes (Memory.gather L.mem e.destination cqe.res.toNat))) []) := by
  have hlands := h.lands
  rw [hop] at hlands
  obtain ⟨payload, hp, v, hvector, hdest⟩ := hlands
  obtain ⟨p, hderef, rfl, -, -⟩ := h.deref hheld hp
  refine ⟨L.dropPayload index p false, ?_⟩
  simp only [Loop.completeReadv, hderef, BufferPayload.derefVector_eq_ok.mpr hvector, bind,
    Except.bind, hdest]
  rfl

/-- A plain `recv` hands out the bytes of its destination. -/
theorem Holding.completeRecv (hop : op.opcode = .recv) (hres : 0 ≤ cqe.res)
    (hcap : cqe.res.toNat ≤ Memory.capacity e.destination ∨ e.destination = []) :
    ∃ L', L.completeRecv index slot cqe = .ok (.finish L'
      (some (.bytes (Memory.gather L.mem e.destination cqe.res.toNat))) []) := by
  have hlands := h.lands
  rw [hop] at hlands
  obtain ⟨payload, hp, b, bs, n, hlinear, hdest⟩ := hlands
  obtain ⟨p, hderef, rfl, hmode, rfl⟩ := h.deref hheld hp
  have hbytes : L.bytesAt b.buffer cqe.res = _ := bytesAt_eq hdest
    (hcap.resolve_right (by rw [hdest]; exact List.cons_ne_nil _ _))
  obtain ⟨s, hs⟩ : ∃ s, slot.socket = some s := by
    rw [h.socket]
    cases op <;> first | exact ⟨_, rfl⟩ | cases hop
  refine ⟨L.dropPayload index (.own k) false, ?_⟩
  simp only [Loop.completeRecv, hs, hderef, bind, Except.bind]
  by_cases hzero : cqe.res = 0
  · have hnone : Memory.gather L.mem e.destination cqe.res.toNat = [] := by
      simp [hdest, hzero, Memory.gather, Memory.read]
    rw [if_pos hzero, hnone]
    exact finishPayload_normal hmode
  · rw [if_neg hzero, if_pos (by omega), BufferPayload.firstLinear_eq_ok.mpr ⟨_, hlinear⟩]
    simp only [hbytes]
    exact finishPayload_normal hmode

/-- A plain `recvmsg` hands out the bytes of its destination. -/
theorem Holding.completeRecvmsg (hop : op.opcode = .recvmsg)
    (hcap : cqe.res.toNat ≤ Memory.capacity e.destination ∨ e.destination = []) :
    ∃ L', L.completeRecvmsg index slot renv cqe = .ok (.finish L'
      (some (.bytes (Memory.gather L.mem e.destination cqe.res.toNat))) []) := by
  have hlands := h.lands
  rw [hop] at hlands
  obtain ⟨payload, hp, hlands⟩ := hlands
  obtain ⟨p, hderef, rfl, hmode, -⟩ := h.deref hheld hp
  have hrel : L.releaseFixed p = .ok L := by simp [releaseFixed, hmode]
  simp only [Loop.completeRecvmsg, hderef, hrel, h.stream, reduceCtorEq, if_false, bind,
    Except.bind]
  split at hlands
  · next htype =>
    obtain ⟨b, bs, n, hlinear, hdest⟩ := hlands
    obtain ⟨released, hfree, -⟩ := freeSockaddr_eq L slot.addr
    have hbytes : L.bytesAt b.buffer cqe.res = _ := bytesAt_eq hdest
      (hcap.resolve_right (by rw [hdest]; exact List.cons_ne_nil _ _))
    rw [if_pos htype, BufferPayload.firstLinear_eq_ok.mpr ⟨_, hlinear⟩]
    simp only [hbytes]
    exact ⟨_, rfl⟩
  · next htype =>
    obtain ⟨v, hvector, hdest⟩ := hlands
    rw [if_neg htype, BufferPayload.derefVector_eq_ok.mpr hvector, hdest]
    exact ⟨_, rfl⟩

/-- A plain `write` hands out the number of bytes. -/
theorem Holding.completeWrite (hop : op.opcode = .write) :
    ∃ L', L.completeWrite index slot cqe = .ok (.finish L' (some (.int cqe.res)) []) := by
  have hp := h.write hop
  have hmap : slot.buffer_payload.map L.payloads = some (L.payloads (.own k)) := by rw [hp]; rfl
  obtain ⟨p, hderef, -, hmode, rfl⟩ := h.deref hheld hmap
  refine ⟨L.dropPayload index (.own k) true, ?_⟩
  simp only [Loop.completeWrite, hderef, bind, Except.bind, finishPayload_normal hmode]

/-- A plain `send` hands out the number of bytes. -/
theorem Holding.completeSend :
    ∃ L', L.completeSend index slot cqe = .ok (.finish L' (some (.int cqe.res)) []) := by
  unfold Loop.completeSend
  cases hp : slot.buffer_payload with
  | none => exact ⟨L, rfl⟩
  | some p =>
    have hmap : slot.buffer_payload.map L.payloads = some (L.payloads p) := by rw [hp]; rfl
    obtain ⟨q, hderef, hq, hmode, -⟩ := h.deref hheld hmap
    rw [hq] at hmode
    rw [hp] at hderef
    refine ⟨L.dropPayload index q false, ?_⟩
    simp only [hderef, bind, Except.bind, finishPayload_normal hmode]

/-- **A plain request is completed with its value.** -/
theorem Holding.complete (hgc : renv.gcNew = true)
    (hres : 0 ≤ cqe.res ∨ op.opcode = .timeout ∧ cqe.res = -ETIME)
    (hcap : cqe.res.toNat ≤ Memory.capacity e.destination ∨ e.destination = []) :
    ∃ L', L.complete index slot k renv cqe = .ok (.finish L' (some (op.answer k (L.domainOf k op)
      cqe.res (Memory.gather L.mem e.destination cqe.res.toNat))) []) := by
  have hno : ¬ (cqe.res < 0 ∧ ¬ (op.opcode = .timeout ∧ cqe.res = -ETIME)) := by
    rintro ⟨hneg, hexp⟩
    exact hexp (hres.resolve_left (by omega))
  -- The object of a call on a socket, or of one that makes a file.
  have hsocket : (∃ s, op.socket? k = some s) → ∃ s, slot.socket = some s ∧
      L.domainOf k op = (L.sockets s).domain := by
    rintro ⟨s, hs⟩
    exact ⟨s, h.socket.trans hs, by rw [domainOf, hs]; rfl⟩
  unfold Op.answer Loop.complete
  rw [if_neg hno, h.opcode]
  cases hop : op.opcode
  case read => exact h.completeRead hheld hop hcap
  case readv => exact h.completeReadv hheld hop
  case write => exact h.completeWrite hheld hop
  case recv => exact h.completeRecv hheld hop (hres.resolve_right (by simp [hop])) hcap
  case recvmsg => exact h.completeRecvmsg hheld hop hcap
  case send | sendmsg => exact h.completeSend hheld
  case writev =>
    unfold completeWritev
    cases slot.buffer_payload <;> exact ⟨_, rfl⟩
  case openat2 =>
    have hfile : slot.file = some k := by
      rw [h.file]
      cases op <;> first | rfl | cases hop
    unfold completeOpenat2
    rw [hfile]
    exact ⟨_, rfl⟩
  case socket =>
    have hmade : slot.socket = some (.made k) := by
      rw [h.socket]
      cases op <;> first | rfl | cases hop
    unfold completeSocket
    rw [hmade]
    exact ⟨_, rfl⟩
  case bind | connect | listen =>
    obtain ⟨s, hs, -⟩ := hsocket (by cases op <;> first | exact ⟨_, rfl⟩ | cases hop)
    unfold completeOnSocket
    rw [hs]
    exact ⟨_, rfl⟩
  case accept =>
    obtain ⟨s, hs, hdomain⟩ := hsocket (by cases op <;> first | exact ⟨_, rfl⟩ | cases hop)
    unfold completeAccept
    rw [hs, hgc, h.accept hop, hdomain]
    exact ⟨_, rfl⟩
  case close =>
    have hobject : (∃ s, slot.socket = some s) ∨ slot.socket = none ∧ ∃ f, slot.file = some f := by
      rw [h.socket, h.file]
      cases op <;> first | exact .inl ⟨_, rfl⟩ | exact .inr ⟨rfl, _, rfl⟩ | cases hop
    unfold completeClose
    rcases hobject with ⟨s, hs⟩ | ⟨hs, f, hf⟩
    · rw [hs]
      exact ⟨_, rfl⟩
    · rw [hs, hf]
      exact ⟨_, rfl⟩
  all_goals exact ⟨L, rfl⟩

end Held

/-! ## The reader on a plain request -/

/-- Which completions are errors. -/
theorem Holding.timeoutExpired (h : L.Holding k op slot e) :
    timeoutExpired slot cqe = true ↔ op.opcode = .timeout ∧ cqe.res = -ETIME := by
  rw [Uringio.timeoutExpired, h.opcode, decide_eq_true_eq]

/-- The call that the exception branch makes. -/
theorem call_of_raise {r : Read} (herr : L.err = false) (hr : L.raise index k cqe = .ok r) :
    r.call = some (k, .osError (-cqe.res)) := by
  unfold raise at hr
  obtain ⟨L', -, hr⟩ := bind_eq_ok.mp hr
  cases hr
  simp [setException, herr]

/-- The call that is made with a value. -/
theorem call_of_deliver {r : Read} {result : Option Outcome} {consumed : List (ℕ × Sqe)}
    (hr : Disposition.deliver index k (.finish L result consumed) = .ok r) :
    r.call = result.map (k, ·) := by
  obtain ⟨L', -, hr⟩ := bind_eq_ok.mp hr
  cases hr
  rfl

/-- What the reader did with the completion of a plain request. -/
structure Answers (L : Loop) (k : ℕ) (slot : RequestSlot) (cqe : Cqe) (o : Outcome) (r : Read) :
    Prop where
  /-- The request is finished. -/
  finished : Finished L k slot cqe r
  /-- The future was resolved with the outcome. -/
  call : r.call = some (k, o)
  /-- The future is done with the outcome. -/
  future : r.loop.futures k = .done o
  /-- No exception is pending. -/
  err : r.loop.err = false
  /-- Nothing was submitted. -/
  consumed : r.consumed = []
  /-- The ring is as it was. -/
  ring : r.loop.ring = L.ring

/-- A future that was pending is resolved once, with the outcome of the call that was made. -/
theorem Delivered.answers {r : Read} {o : Outcome} (h : Delivered L k false r)
    (hpend : L.futures k = .pending) (hfin : Finished L k slot cqe r)
    (hstream : slot.stream_strategy = .ONESHOT) (hcall : r.call = some (k, o)) :
    Answers L k slot cqe o r := by
  obtain ⟨⟨o', hcall', hfuture⟩, herr⟩ := h
  rw [hcall] at hcall'
  cases hcall'
  rw [if_pos hpend] at hfuture
  have hring := hfin.ring.resolve_right fun hagain => by
    simp [resubmits, hstream] at hagain
  exact ⟨hfin, hcall, hfuture, by rw [herr]; simp [hpend], hring.1, hring.2⟩

/-- **The reader answers a plain request** with the value that its operation prescribes. -/
theorem readCqe_answers (h : L.Sound) (hget : registryGet L.registry cqe.index = some slot)
    (hfut : slot.future = some k) (hreq : L.Holding k op slot e) (herr : L.err = false)
    (hpend : L.futures k = .pending) (hgc : renv.gcNew = true)
    (hcap : cqe.res.toNat ≤ Memory.capacity e.destination ∨ e.destination = []) :
    ∃ r, readCqe L renv cqe = .ok r ∧ Answers L k slot cqe (op.answer k (L.domainOf k op) cqe.res
      (Memory.gather L.mem e.destination cqe.res.toNat)) r := by
  have hheld := (h.slots _ slot k hget hfut).2.2
  have hlive : L.registry.Live cqe.index := ⟨slot, hget, by rw [hfut]; rfl⟩
  have hnone : slot.future.isNone = false := by rw [hfut]; rfl
  have hread : readCqe L renv cqe =
      if cqe.res < 0 ∧ ¬ Uringio.timeoutExpired slot cqe then L.raise cqe.index k cqe
      else L.complete cqe.index slot k renv cqe >>= Disposition.deliver cqe.index k := by
    rw [readCqe, hget]
    simp only [readSlot, hfut]
    rw [if_neg (user_data_ne_of_live hlive)]
  have hslot : L.completionKind renv cqe =
      if cqe.res < 0 ∧ ¬ Uringio.timeoutExpired slot cqe then some .error
      else switchKind L.payloads renv slot cqe := by
    rw [completionKind, hget]
    simp only [slotKind, hnone, Bool.false_eq_true, if_false]
  by_cases herror : cqe.res < 0 ∧ ¬ Uringio.timeoutExpired slot cqe
  · rw [if_pos herror] at hread hslot
    obtain ⟨r, hr, hdoes, hfin⟩ := readCqe_kind h hget hfut hslot
    rw [if_neg (by simp)] at hfin
    have hdel : Delivered L k false r := by
      rw [show Does L k r .error = _ from if_neg (by simp [herr])] at hdoes
      exact hdoes
    have hanswer : ∀ bytes, op.answer k (L.domainOf k op) cqe.res bytes = .osError (-cqe.res) :=
      fun _ => if_pos ⟨herror.1, by rw [← hreq.timeoutExpired]; exact herror.2⟩
    rw [hanswer]
    rw [hr] at hread
    exact ⟨r, hr, hdel.answers hpend hfin hreq.stream (call_of_raise herr hread.symm)⟩
  · rw [if_neg herror] at hread hslot
    have hres : 0 ≤ cqe.res ∨ op.opcode = .timeout ∧ cqe.res = -ETIME := by
      by_cases hneg : cqe.res < 0
      · exact .inr (hreq.timeoutExpired.mp (by simpa [hneg] using herror))
      · exact .inl (by omega)
    have hpayload : ∀ p, slot.buffer_payload = some p → L.released (.payload p) = 0 :=
      fun p hp => hheld _ (by simp [RequestSlot.objects, hp])
    obtain ⟨L', hcomp⟩ : ∃ L', L.complete cqe.index slot k renv cqe = .ok (.finish L' _ []) :=
      hreq.complete hpayload hgc hres hcap
    have hagrees : L.Agrees (switchKind L.payloads renv slot cqe)
        (L.complete cqe.index slot k renv cqe) := complete_agrees hpayload
    rw [hcomp] at hagrees hread
    -- The kind is one of the two that resolve the future, and no exception is pending.
    have hkind : ∃ kind, switchKind L.payloads renv slot cqe = some kind ∧ kind ≠ .left ∧
        ∀ r, Does L k r kind → Delivered L k false r := by
      rcases hswitch : switchKind L.payloads renv slot cqe with - | ⟨- | - | - | - | - | -⟩ <;>
        rw [hswitch] at hagrees <;> try exact hagrees.elim
      · exact ⟨.value, rfl, by simp, fun r hdoes => by rw [← herr]; exact hdoes⟩
      · exact ⟨.printed, rfl, by simp, fun r hdoes => hdoes⟩
    obtain ⟨kind, hswitch, hleft, hdel⟩ := hkind
    rw [hswitch] at hslot
    obtain ⟨r, hr, hdoes, hfin⟩ := readCqe_kind h hget hfut hslot
    rw [if_neg hleft] at hfin
    rw [hr] at hread
    obtain ⟨disp, hdisp, hdeliver⟩ := bind_eq_ok.mp hread.symm
    cases hdisp
    exact ⟨r, hr, (hdel r hdoes).answers hpend hfin hreq.stream (call_of_deliver hdeliver)⟩

end Loop

end Uringio
