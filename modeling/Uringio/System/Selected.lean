import Uringio.Buffers.Enter
import Uringio.System.Auxiliary
import Uringio.System.Recorded

/-!
# The buffer that the kernel selected

A read or a receive in a context of a provided mode lets the kernel select the buffer, and the
completion says which one, in the upper bits of its flags: each call whose entry selects a buffer
has a slot that `Selects` (`selects_of_accepted`). The reader does not look at the id: it takes the
bytes of the first buffer (`readCqe_selects`). So the future gets the bytes of the selected buffer,
whatever the buffers hold, exactly when that buffer starts where the first one does
(`selected_iff`).
-/

namespace Uringio

open Memory (Region)

/-- The id of the buffer that the kernel selected. -/
def Cqe.bid (cqe : Cqe) : ℕ := cqe.flags >>> IORING_CQE_BUFFER_SHIFT

/-- The slot is that of a read or a receive whose buffer the kernel selects among `buffers`: its
payload is that of a context of a provided mode. -/
structure RequestSlot.Selects (slot : RequestSlot) (payloads : PayloadRef → BufferPayload)
    (buffers : List LinearBuffer) : Prop where
  /-- The operation is a read or a receive. -/
  opcode : slot.opcode = .read ∨ slot.opcode = .recv
  /-- The payload is that of a context of a provided mode. -/
  payload : ∃ n, slot.buffer_payload = some (.context n) ∧
    ((payloads (.context n)).mode = .PROVIDED ∨ (payloads (.context n)).mode = .BUF_RING) ∧
    (payloads (.context n)).linear = some buffers

namespace Loop

variable {L : Loop} {ctx : ExecutionContext} {op : Op} {env : CallEnv} {c : Called} {req : Request}
  {idx : ℤ} {e : Sqe} {slot : RequestSlot} {buffers : List LinearBuffer} {k : ℕ} {renv : ReadEnv}
  {cqe : Cqe}

/-- The request of a call whose entry selects a buffer has such a slot. -/
theorem selects_of_accepted (hacc : Accepted L ctx op env c req idx e)
    (hop : op.opcode = .read ∨ op.opcode = .recv) (hselects : e.selectsBuffer = true)
    (hlinear : ∀ p, req.buffer_payload = some p → (c.loop.payloads p).linear = some buffers) :
    (req.slot idx).Selects c.loop.payloads buffers := by
  have hopcode : (req.slot idx).opcode = op.opcode := hacc.request.opcode
  refine ⟨by rwa [hopcode], ?_⟩
  -- An entry of a payload that names its memory selects nothing.
  have hnot : ¬ Direct (req.buffer_payload.map c.loop.payloads) := by
    intro hdirect
    rw [(hacc.entry.lands hdirect).1] at hselects
    cases hselects
  obtain ⟨p, hp⟩ : ∃ p, req.buffer_payload = some p := by
    by_contra hnone
    refine hnot fun b hb => ?_
    obtain ⟨p, hp, -⟩ := Option.map_eq_some_iff.mp hb
    exact absurd ⟨p, hp⟩ hnone
  have hmode : ¬ ((c.loop.payloads p).mode = .NORMAL_BUF ∨ (c.loop.payloads p).mode = .FIXED) := by
    intro hm
    refine hnot fun b hb => ?_
    rw [hp] at hb
    cases hb
    exact hm
  rcases hacc.request.payload p hp with ⟨-, hnormal⟩ | ⟨n, -, rfl, -⟩
  · exact absurd (.inl hnormal) hmode
  · refine ⟨n, hp, ?_, hlinear _ hp⟩
    cases hm : (c.loop.payloads (.context n)).mode with
    | NORMAL_BUF => exact absurd (.inl hm) hmode
    | FIXED => exact absurd (.inr hm) hmode
    | PROVIDED => exact .inl rfl
    | BUF_RING => exact .inr rfl

/-- The reader hands the outcome of the switch to the future, and removes the request. -/
theorem readCqe_of_complete {L₁ : Loop} {result : Option Outcome} {consumed : List (ℕ × Sqe)}
    (h : L.Sound) (hget : registryGet L.registry cqe.index = some slot)
    (hfut : slot.future = some k)
    (hres : 0 ≤ cqe.res)
    (hcomp : L.complete cqe.index slot k renv cqe = .ok (.finish L₁ result consumed)) :
    ∃ L', readCqe L renv cqe = .ok ⟨L', result.map (k, ·), consumed, false⟩ := by
  obtain ⟨-, hs, -⟩ := h.slots _ slot k hget hfut
  have hlive : L.registry.Live cqe.index := ⟨slot, hget, by rw [hfut]; rfl⟩
  obtain ⟨hwithin, -⟩ := complete_spec hlive.inRange.1 hs (.inl hres) hcomp
  obtain ⟨-, hreg, -, -⟩ := setResult_frame L₁ k result
  obtain ⟨L', hremove, -⟩ := removed_of_within h.consistent hlive hwithin hreg
  have hslot : readCqe L renv cqe =
      L.complete cqe.index slot k renv cqe >>= Disposition.deliver cqe.index k := by
    rw [readCqe, hget]
    simp only [readSlot, hfut]
    rw [if_neg fun herror => absurd herror.1 (by omega), if_neg (user_data_ne_of_live hlive)]
  rw [hcomp] at hslot
  exact ⟨L', hslot.trans (bind_eq_ok.mpr ⟨_, rfl, deliver_eq hremove⟩)⟩

/-- The bytes that the reader hands over: those of the first buffer, none for a read when there is
no first buffer. -/
def firstBytes (L : Loop) (slot : RequestSlot) (first : LinearBuffer) (res : ℤ) : Option Outcome :=
  if slot.opcode = .read ∧ first.buffer = 0 then none else some (L.bytesAt first.buffer res)

/-- **The reader takes the first buffer**, whichever the completion names. -/
theorem readCqe_selects {first : LinearBuffer} {rest : List LinearBuffer} (h : L.Sound)
    (hget : registryGet L.registry cqe.index = some slot) (hfut : slot.future = some k)
    (hsel : slot.Selects L.payloads (first :: rest))
    (hsocket : slot.opcode = .recv → slot.socket.isSome = true) (hres : 0 < cqe.res) :
    ∃ r, readCqe L renv cqe = .ok r ∧ r.call = (L.firstBytes slot first cqe.res).map (k, ·) := by
  obtain ⟨hop, n, hpayload, hmode, hlinear⟩ := hsel
  have hderef : L.deref slot.buffer_payload = .ok (.context n, L.payloads (.context n)) := by
    rw [hpayload]
    exact if_pos (h.shared n)
  have hfirst : (L.payloads (.context n)).firstLinear = .ok first :=
    BufferPayload.firstLinear_eq_ok.mpr ⟨rest, hlinear⟩
  -- No index is released: the mode is not `FIXED`.
  have hfixed : ¬ (L.payloads (.context n)).mode = .FIXED := by
    rcases hmode with hmode | hmode <;> simp [hmode]
  have hfinish : ∀ result, L.finishPayload cqe.index (.context n) false result =
      .ok (.finish (L.dropPayload cqe.index (.context n) false) result []) := by
    intro result
    unfold finishPayload releaseFixed
    rw [if_neg hfixed]
    rfl
  have hcomp : L.complete cqe.index slot k renv cqe = .ok (.finish
      (L.dropPayload cqe.index (.context n) false) (L.firstBytes slot first cqe.res) []) := by
    unfold complete firstBytes
    rcases hop with hop | hop
    · simp only [hop, completeRead, hderef, hfirst, bind, Except.bind, hfinish, true_and]
    · obtain ⟨s, hs⟩ := Option.isSome_iff_exists.mp (hsocket hop)
      have hne : ¬ cqe.res = 0 := by omega
      simp only [hop, completeRecv, hs, hderef, hfirst, bind, Except.bind, hfinish, if_neg hne,
        if_pos hres, reduceCtorEq, false_and, if_false]
  obtain ⟨L', hread⟩ := readCqe_of_complete h hget hfut hres.le hcomp
  exact ⟨_, hread, rfl⟩

end Loop

namespace System

open Transition (Run anyStep exec)

variable {s : System} {cqe : Cqe} {slot : RequestSlot} {k : ℕ} {renv : ReadEnv}

/-- The completion gives `bytes` to the future of call number `k`. -/
def GivesBytes (L : Loop) (renv : ReadEnv) (cqe : Cqe) (k : ℕ) (bytes : List UInt8) : Prop :=
  ∃ r, readCqe L renv cqe = .ok r ∧ r.call = some (k, .bytes bytes)

/-- Two buffers of which the same byte is the first in every memory start at the same place. -/
theorem read_eq_iff {a b n : ℕ} (hn : 0 < n) :
    (∀ mem : ℕ → UInt8, Memory.read mem a n = Memory.read mem b n) ↔ a = b := by
  constructor
  · intro h
    obtain ⟨m, rfl⟩ := Nat.exists_eq_succ_of_ne_zero hn.ne'
    -- A memory that holds `1` at `a` and `0` elsewhere tells them apart.
    have hread := h fun x => if x = a then 1 else 0
    simp only [Memory.read, List.cons.injEq, if_true] at hread
    have hhead := hread.1
    by_contra hne
    rw [if_neg fun heq => hne heq.symm] at hhead
    cases hhead
  · rintro rfl
    exact fun _ => rfl

/-- **The future gets the selected buffer exactly when it starts where the first one does.** In
every reachable state, for a request that lets the kernel select a buffer and a completion of it
that names buffer `b`: the bytes handed over are the first `res` bytes of `b`, whatever memory
holds, exactly when `b` is at the address of the first buffer, which for a read must not be `NULL`.
-/
theorem selected_iff (registry_size : ℕ) (h : registry_size < 2^31) {world : World}
    (hworld : world.ContextsSound) (env : InitEnv)
    (hrun : Run step anyStep (init registry_size h world env) s)
    (hget : registryGet s.loop.registry cqe.index = some slot) (hfut : slot.future = some k)
    {first b : LinearBuffer} {rest : List LinearBuffer}
    (hsel : slot.Selects s.loop.payloads (first :: rest)) (_hb : (first :: rest)[cqe.bid]? = some b)
    (hres : 0 < cqe.res) (_hlen : cqe.res ≤ b.len) :
    (∀ mem, GivesBytes { s.loop with mem := mem } renv cqe k
      (Memory.read mem b.buffer cqe.res.toNat)) ↔
      b.buffer = first.buffer ∧ (slot.opcode = .read → first.buffer ≠ 0) := by
  have htracked := tracked_of_run (tracked_init hworld) hrun
  have hrecords := records_of_run (tracked_init hworld) records_init hrun
  -- A receive is made on a socket.
  have hsocket : slot.opcode = .recv → slot.socket.isSome = true := by
    intro hop
    obtain ⟨reg, hreg, hslot⟩ := hrecords.served _ k ⟨slot, hget, hfut⟩
    obtain ⟨-, req, idx, payloads, heq, hreq⟩ := hrecords.request k reg hreg
    rw [hget, Option.some.injEq] at hslot
    rw [← hslot] at heq
    have hopcode : slot.opcode = reg.op.opcode := by
      rw [heq]
      exact hreq.opcode
    have hsock : slot.socket = reg.op.socket? k := by
      rw [heq]
      exact hreq.socket
    rw [hsock]
    rw [hopcode] at hop
    cases hop' : reg.op <;> rw [hop'] at hop <;> first | rfl | cases hop
  have hread : ∀ mem, ∃ r, readCqe { s.loop with mem := mem } renv cqe = .ok r ∧
      r.call = (Loop.firstBytes { s.loop with mem := mem } slot first cqe.res).map (k, ·) := by
    intro mem
    have hsound : Loop.Sound { s.loop with mem := mem } :=
      htracked.sound.congr rfl rfl rfl rfl
    exact Loop.readCqe_selects hsound hget hfut hsel hsocket hres
  have hpos : 0 < cqe.res.toNat := by omega
  constructor
  · intro hgives
    have hnull : ¬ (slot.opcode = .read ∧ first.buffer = 0) := by
      intro hnull
      obtain ⟨r, hr, hcall⟩ := hgives s.loop.mem
      obtain ⟨r', hr', hcall'⟩ := hread s.loop.mem
      rw [hr] at hr'
      cases hr'
      rw [hcall, Loop.firstBytes, if_pos hnull] at hcall'
      cases hcall'
    refine ⟨(read_eq_iff hpos).mp fun mem => ?_, fun hop hzero => hnull ⟨hop, hzero⟩⟩
    obtain ⟨r, hr, hcall⟩ := hgives mem
    obtain ⟨r', hr', hcall'⟩ := hread mem
    rw [hr] at hr'
    cases hr'
    rw [hcall, Loop.firstBytes, if_neg hnull] at hcall'
    simp only [Option.map_some, Option.some.injEq, Prod.mk.injEq, true_and, Loop.bytesAt,
      Outcome.bytes.injEq] at hcall'
    exact hcall'
  · rintro ⟨heq, hnull⟩ mem
    obtain ⟨r, hr, hcall⟩ := hread mem
    rw [Loop.firstBytes, if_neg fun h => hnull h.1 h.2] at hcall
    rw [heq]
    exact ⟨r, hr, hcall⟩

/-- Memory in which the first context has entered `PROVIDED` mode with two buffers of the user. -/
def providedWorld : World where
  payloads p := if p = PayloadRef.context 0 then scattered.get
    (by decide) else Sample.world.payloads p
  files := Sample.world.files
  sockets := Sample.world.sockets
  mem := Sample.world.mem

/-- The sample world with provided buffers is sound. -/
theorem providedWorld_sound : providedWorld.ContextsSound := by
  intro n hmode
  by_cases hn : n = 0
  · subst hn
    have hprovided : (providedWorld.payloads (.context 0)).mode = .PROVIDED := by decide
    rw [hprovided] at hmode
    cases hmode
  · have hne : ¬ PayloadRef.context n = PayloadRef.context 0 :=
      fun heq => hn (PayloadRef.context.inj heq)
    change (if PayloadRef.context n = PayloadRef.context 0 then _ else _ :
      BufferPayload).payload_type = _
    rw [if_neg hne]
    rfl

/-- A socket is made, and receives in that context. The kernel puts three bytes into a buffer and
names it by `bid`. -/
def selectRun (bid : ℕ) (buffer : Region) : List Label :=
  [.call Sample.context (.socket 2 1 .zero) Sample.callEnv, .post 2 9 0 [] [],
    .read Sample.readEnv, .initProvidedMode 1000 16 2 7 2,
    .call ⟨.ONESHOT, .NORMAL_TRANSFER, some 0⟩
      (.recv (.made 0) 1024 none false .zero) Sample.callEnv,
    .post 3 3 (bid <<< 16 + 1) [buffer] [1, 2, 3]]

/-- The state that the run ends in: the completion is the next one, and its slot selects. -/
theorem selectRun_cases (bid : ℕ) (buffer : Region)
    (hrun : (exec step anyStep (init 2 (by decide) providedWorld Sample.initEnv)
      (selectRun bid buffer)).map (fun s => (s.cq.map Completion.cqe,
        (registryGet s.loop.registry 1).map fun slot =>
          (slot.future, slot.opcode, slot.buffer_payload))) =
      some ([⟨1, 3, bid <<< 16 + 1⟩], some (some 1, .recv, some (.context 0))))
    (hpool : (exec step anyStep (init 2 (by decide) providedWorld Sample.initEnv)
      (selectRun bid buffer)).map (fun s => ((s.loop.payloads (.context 0)).mode,
        (s.loop.payloads (.context 0)).linear)) = some (.PROVIDED, some [⟨1000, 16⟩, ⟨5000, 8⟩])) :
    ∃ s slot, exec step anyStep (init 2 (by decide) providedWorld Sample.initEnv)
      (selectRun bid buffer) = some s ∧ s.cq.map Completion.cqe = [⟨1, 3, bid <<< 16 + 1⟩] ∧
      registryGet s.loop.registry 1 = some slot ∧ slot.future = some 1 ∧
      slot.Selects s.loop.payloads [⟨1000, 16⟩, ⟨5000, 8⟩] := by
  obtain ⟨s, hs, hf⟩ := Option.map_eq_some_iff.mp hrun
  have hpayload := Transition.exec_eval hs hpool
  simp only [Prod.mk.injEq, Option.map_eq_some_iff] at hf hpayload
  obtain ⟨hcq, slot, hget, hfut, hop, hheld⟩ := hf
  exact ⟨s, slot, hs, hcq, hget, hfut, .inr hop, 0, hheld, .inl hpayload.1, hpayload.2⟩

/-- The kernel selects the first buffer, and the future gets its bytes, whatever memory holds. -/
theorem selected_firstBuffer : ∃ s slot,
    exec step anyStep (init 2 (by decide) providedWorld Sample.initEnv)
      (selectRun 0 ⟨1000, 16⟩) = some s ∧
    registryGet s.loop.registry 1 = some slot ∧
    ∀ mem, GivesBytes { s.loop with mem := mem } Sample.readEnv ⟨1, 3, 0 <<< 16 + 1⟩ 1
      (Memory.read mem 1000 3) := by
  obtain ⟨s, slot, hs, -, hget, hfut, hsel⟩ :=
    selectRun_cases 0 ⟨1000, 16⟩ (by decide +kernel) (by decide +kernel)
  refine ⟨s, slot, hs, hget, ?_⟩
  have hindex : Cqe.index ⟨1, 3, 0 <<< 16 + 1⟩ = 1 := by decide
  rw [← hindex] at hget
  exact (selected_iff 2 (by decide) providedWorld_sound Sample.initEnv (.of_exec hs) hget hfut hsel
    (b := ⟨1000, 16⟩) rfl (by decide) (by decide)).mpr ⟨rfl, fun _ => by decide⟩

/-- The kernel selects the second buffer and puts `1, 2, 3` there; the future gets three zeros, the
bytes of the first one. -/
theorem selected_not_secondBuffer : ∃ s slot,
    Run step anyStep (init 2 (by decide) providedWorld Sample.initEnv) s ∧
    s.cq.map Completion.cqe = [⟨1, 3, 1 <<< 16 + 1⟩] ∧
    registryGet s.loop.registry 1 = some slot ∧ slot.future = some 1 ∧
    slot.Selects s.loop.payloads [⟨1000, 16⟩, ⟨5000, 8⟩] ∧
    Memory.read s.loop.mem 5000 3 = [1, 2, 3] ∧
    GivesBytes s.loop Sample.readEnv ⟨1, 3, 1 <<< 16 + 1⟩ 1 [0, 0, 0] ∧
    ¬ GivesBytes s.loop Sample.readEnv ⟨1, 3, 1 <<< 16 + 1⟩ 1 (Memory.read s.loop.mem 5000 3) := by
  obtain ⟨s, slot, hs, hcq, hget, hfut, hsel⟩ :=
    selectRun_cases 1 ⟨5000, 8⟩ (by decide +kernel) (by decide +kernel)
  have hmem := Transition.exec_eval hs (f := fun s => Memory.read s.loop.mem 5000 3)
    (b := [1, 2, 3]) (by decide +kernel)
  have hcall := Transition.exec_eval hs
    (f := fun s => (readCqe s.loop Sample.readEnv ⟨1, 3, 1 <<< 16 + 1⟩).toOption.map Read.call)
    (b := some (some (1, .bytes [0, 0, 0]))) (by decide +kernel)
  obtain ⟨r, hread, hcall⟩ := toOption_map_eq_some.mp hcall
  refine ⟨s, slot, .of_exec hs, hcq, hget, hfut, hsel, hmem, ⟨r, hread, hcall⟩, ?_⟩
  rintro ⟨r', hr', hcall'⟩
  rw [hread] at hr'
  cases hr'
  rw [hcall, hmem] at hcall'
  exact absurd hcall' (by decide)

end System

end Uringio
