import Uringio.Loop.Made
import Uringio.System.Closing
import Uringio.System.Recorded

/-!
# The ledger of the requests

What becomes of the payload and the message header of a request, over whole runs. While a request is
in progress nothing of it was released; when it has ended, all that its slot held was released, and
that once (`ledger_of_run`). What a call made and its request does not hold is never released: that
is the payload of `sendto`. The calls that are rejected settle their accounts at once
(`rejected_of_run`).
-/

namespace Uringio

namespace System

open Transition (Run exec anyStep)

variable {s s' : System} {l : Label}

/-- What the ledger says of the requests in progress and of those that have ended. -/
structure Settled (s : System) : Prop where
  /-- While its slot is there, nothing of a request was released. -/
  serving : ∀ i (k : ℕ), s.loop.Serves i k → ∀ o : HeapRef, o.call = some k →
    (∀ a, o ≠ .sockaddr a) → s.loop.released o = 0
  /-- When its slot is gone, what it pointed to was released once, and nothing else. -/
  ended : ∀ k reg, s.registered k = some reg → (∀ i, ¬ s.loop.Serves i k) → ∀ o : HeapRef,
    o.call = some k → (∀ a, o ≠ .sockaddr a) → s.loop.released o = reg.slot.objects.count o
  /-- An accept has no payload. -/
  accept : ∀ k reg, s.registered k = some reg → reg.slot.opcode = .accept →
    reg.slot.buffer_payload = none

/-- A step that releases nothing and leaves the slots. -/
theorem Settled.same (h : Settled s) (hreg : s'.registered = s.registered)
    (hslots : s'.loop.registry = s.loop.registry)
    (hrel : ∀ o : HeapRef, (∀ a, o ≠ .sockaddr a) → s'.loop.released o = s.loop.released o) :
    Settled s' := by
  have hserves : ∀ i k, s'.loop.Serves i k ↔ s.loop.Serves i k := fun i k =>
    Loop.serves_congr (by rw [hslots])
  constructor
  · intro i k hk o ho hkind
    rw [hrel o hkind]
    exact h.serving i k ((hserves i k).mp hk) o ho hkind
  · intro k reg hk hnot o ho hkind
    rw [hreg] at hk
    rw [hrel o hkind]
    exact h.ended k reg hk (fun i hi => hnot i ((hserves i k).mpr hi)) o ho hkind
  · intro k reg hk
    rw [hreg] at hk
    exact h.accept k reg hk

/-- A step that changes what belongs to call `j` only, and leaves the slots of the others. -/
theorem Settled.of_frame {j : ℕ} (h : Settled s) (hf : Loop.Frame j s.loop s'.loop)
    (hserves : ∀ i k, k ≠ j → (s'.loop.Serves i k ↔ s.loop.Serves i k))
    (hreg : ∀ k, k ≠ j → s'.registered k = s.registered k)
    (hserving : ∀ i, s'.loop.Serves i j → ∀ o : HeapRef, o.call = some j →
      (∀ a, o ≠ .sockaddr a) → s'.loop.released o = 0)
    (hended : ∀ reg, s'.registered j = some reg → (∀ i, ¬ s'.loop.Serves i j) → ∀ o : HeapRef,
      o.call = some j → (∀ a, o ≠ .sockaddr a) → s'.loop.released o = reg.slot.objects.count o)
    (haccept : ∀ reg, s'.registered j = some reg → reg.slot.opcode = .accept →
      reg.slot.buffer_payload = none) : Settled s' := by
  have hother : ∀ {k : ℕ} {o : HeapRef}, k ≠ j → o.call = some k →
      s'.loop.released o = s.loop.released o := fun hk ho =>
    hf.released _ fun heq => hk (Option.some.inj (ho.symm.trans heq))
  constructor
  · intro i k hk o ho hkind
    by_cases hkj : k = j
    · subst hkj
      exact hserving i hk o ho hkind
    · rw [hother hkj ho]
      exact h.serving i k ((hserves i k hkj).mp hk) o ho hkind
  · intro k reg hk hnot o ho hkind
    by_cases hkj : k = j
    · subst hkj
      exact hended reg hk hnot o ho hkind
    · rw [hreg k hkj] at hk
      rw [hother hkj ho]
      exact h.ended k reg hk (fun i hi => hnot i ((hserves i k hkj).mpr hi)) o ho hkind
  · intro k reg hk
    by_cases hkj : k = j
    · subst hkj
      exact haccept reg hk
    · rw [hreg k hkj] at hk
      exact h.accept k reg hk

/-- Calls keep the ledger: one that is accepted has released nothing. -/
theorem Settled.call {ctx : ExecutionContext} {op : Op} {env : CallEnv} (h : Settled s)
    (hs : s.loop.Sound) (hr : Records s) (hstep : step s (.call ctx op env) = some s') :
    Settled s' := by
  obtain ⟨-, c, hcall, rfl⟩ := call_step hstep
  have hnone : s.registered s.loop.calls = none := by
    cases hreg : s.registered s.loop.calls with
    | none => rfl
    | some reg => exact absurd (hr.request _ reg hreg).1 (lt_irrefl _)
  have hold : ∀ i (k : ℕ), s.loop.Serves i k → k ≠ s.loop.calls := fun i k ⟨slot, hget, hfut⟩ =>
    (hs.slots i slot k hget hfut).1.ne
  rcases called_cases hs hcall with ⟨hrej, -, hregistered⟩ | ⟨req, idx, e, hacc, -, hregistered⟩
  · -- The slots in use are as they were.
    have hserves : ∀ i k, c.loop.Serves i k ↔ s.loop.Serves i k := by
      intro i k
      constructor
      · intro hk
        have hlive := hrej.live i (Loop.live_iff_serves.mpr ⟨k, hk⟩)
        exact (Loop.serves_congr (hrej.slots i hlive)).mp hk
      · intro hk
        have hlive := Loop.live_iff_serves.mpr ⟨k, hk⟩
        exact (Loop.serves_congr (hrej.slots i hlive)).mpr hk
    refine h.of_frame (j := s.loop.calls) ?_ (fun i k _ => ?_) (fun k _ => by rw [hregistered])
      (fun i hi => ?_) (fun reg hk => ?_) fun reg hk => ?_
    · rw [called_loop]
      exact hrej.frame
    · rw [called_loop]
      exact hserves i k
    · rw [called_loop] at hi
      exact absurd rfl (hold i _ ((hserves i _).mp hi))
    · rw [hregistered, hnone] at hk
      cases hk
    · rw [hregistered, hnone] at hk
      cases hk
  · refine h.of_frame (j := s.loop.calls) ?_ (fun i k hk => ?_)
      (fun k hk => by rw [hregistered, Function.update_of_ne hk]) (fun i _ o ho _ => ?_)
      (fun reg _ hnot => ?_) fun reg hk hop => ?_
    · rw [called_loop]
      exact hacc.frame
    · rw [called_loop]
      by_cases hi : i = idx
      · subst hi
        refine iff_of_false (fun hserves => hk (hserves.unique (Loop.serves_accepted hacc)))
          fun hserves => hacc.free (Loop.live_iff_serves.mpr ⟨k, hserves⟩)
      · exact Loop.serves_accepted_iff hacc hi
    · rw [called_loop, hacc.released]
      exact hs.fresh o _ ho le_rfl
    · rw [called_loop] at hnot
      exact absurd (Loop.serves_accepted hacc) (hnot idx)
    · rw [hregistered, Function.update_self, Option.some.injEq] at hk
      subst hk
      have hopcode : op.opcode = .accept := hacc.request.opcode.symm.trans hop
      obtain ⟨hpay, -⟩ := Loop.accepted_holds hs hcall hacc
      change req.buffer_payload = none
      rw [hpay]
      cases op <;> cases hopcode
      rfl

/-- Of what belongs to its own call, a removal releases all that the slot holds: the payload of the
call's own is in `NORMAL_BUF` mode. -/
theorem count_frees_eq {L : Loop} {slot : RequestSlot} {k : ℕ} {o : HeapRef}
    (hmode : slot.buffer_payload = some (.own k) → (L.payloads (.own k)).mode = .NORMAL_BUF)
    (ho : o.call = some k) : (L.frees slot).count o = slot.objects.count o := by
  rw [Loop.frees_eq, RequestSlot.objects, List.count_append, List.count_append]
  congr 1
  cases hp : slot.buffer_payload with
  | none => rfl
  | some p =>
    by_cases hown : p = .own k
    · subst hown
      simp [hmode hp]
    · -- The payload belongs to another call, or to a context.
      have hne : o ≠ .payload p := by
        rintro rfl
        cases p with
        | own j => exact hown (congrArg _ (Option.some.inj ho))
        | context n => cases ho
      simp only [Option.toList_some, Option.map_some, List.filter_cons]
      split <;> simp [Ne.symm hne]

/-- Completions keep the ledger: one that ends a request releases what its slot holds. -/
theorem Settled.read {renv : ReadEnv} (h : Settled s) (hs : s.loop.Sound) (ht : s.loop.Tidy)
    (hr : Records s) (hstep : step s (.read renv) = some s') : Settled s' := by
  obtain ⟨c, cq, r, -, hread, rfl⟩ := read_step hstep
  change readCqe s.loop renv c.cqe = .ok r at hread
  rcases hs.read_cases hread with ⟨-, rfl⟩ | ⟨slot, k, hget, hfut, -, -⟩
  · exact h.same rfl rfl fun _ _ => rfl
  obtain ⟨-, hslot, hobj⟩ := hs.slots _ slot k hget hfut
  have hwrite : slot.opcode = .write → ∀ p, slot.buffer_payload = some p →
      (s.loop.payloads p).mode = .NORMAL_BUF := by
    intro hop p hp
    have hown := hslot.write hop
    rw [hp, Option.some.injEq] at hown
    rw [hown] at hp ⊢
    exact ht.normal _ slot k hget hfut hp
  rcases Loop.readCqe_ended hs hget hfut hwrite hread with hleft | ⟨hfin, hend⟩
  · exact h.same rfl hleft.registry hleft.released
  · -- The request of the slot has ended.
    have hserves : s.loop.Serves c.cqe.index k := ⟨slot, hget, hfut⟩
    obtain ⟨reg, hreg, hrecorded⟩ := hr.served _ k hserves
    have hslot_eq : slot = reg.slot := Option.some.inj (hget.symm.trans hrecorded)
    refine h.of_frame (j := k) hfin.frame (fun i j hj => ?_) (fun _ _ => rfl) (fun i hi => ?_)
      (fun reg' hreg' _ o ho hkind => ?_) fun reg' hreg' => h.accept k reg' hreg'
    · change r.loop.Serves i j ↔ s.loop.Serves i j
      refine (Loop.serves_finished hfin).trans ⟨And.right, fun hk => ⟨fun hi => hj ?_, hk⟩⟩
      rw [hi] at hk
      exact hk.unique hserves
    · change r.loop.Serves i k at hi
      have hold := (Loop.serves_finished hfin).mp hi
      exact absurd (hs.injective i _ k hold.2 hserves) hold.1
    · have heq : reg' = reg := Option.some.inj (hreg'.symm.trans hreg)
      subst heq
      have haccept : slot.opcode ≠ .accept ∨ slot.buffer_payload = none := by
        by_cases hop : slot.opcode = .accept
        · right
          rw [hslot_eq] at hop ⊢
          exact h.accept k _ hreg hop
        · exact .inl hop
      have hzero : s.loop.released o = 0 := h.serving _ k hserves o ho hkind
      change r.loop.released o = _
      rw [hend.released haccept o hkind, hzero, zero_add, ← hslot_eq]
      refine count_frees_eq (fun hp => ?_) ho
      exact ht.normal _ slot k hget hfut hp

/-- **Every step keeps the ledger.** -/
theorem Settled.step (h : Settled s) (hs : s.loop.Sound) (ht : s.loop.Tidy) (hr : Records s)
    (hstep : System.step s l = some s') : Settled s' := by
  cases l with
  | call ctx op env => exact h.call hs hr hstep
  | read renv => exact h.read hs ht hr hstep
  | initProvidedMode | closeProvidedMode | submit | returned | writeToSelf | signal =>
    cases hstep
    exact h.same rfl rfl fun _ _ => rfl
  | post n res flags into data =>
    obtain ⟨f, -, -, -, -, rfl⟩ := post_step hstep
    exact h.same rfl rfl fun _ _ => rfl
  | cancel f =>
    simp only [System.step] at hstep
    split at hstep
    · cases hstep
      exact h.same rfl rfl fun _ _ => rfl
    · cases hstep

/-- A new loop has no accounts. -/
theorem settled_init {registry_size : ℕ} {h : registry_size < 2^31} {world : World}
    {env : InitEnv} : Settled (init registry_size h world env) where
  serving i k hserves :=
    absurd (Loop.live_iff_serves.mpr ⟨k, hserves⟩) (registryNew_not_live registry_size h)
  ended k reg hk := by cases hk
  accept k reg hk := by cases hk

/-- Every reachable state is settled. -/
theorem settled_of_run {registry_size : ℕ} {h : registry_size < 2^31} {world : World}
    (hworld : world.ContextsSound) {env : InitEnv}
    (hrun : Run step anyStep (init registry_size h world env) s) :
    s.loop.Sound ∧ Records s ∧ Settled s := by
  have hall : (Tracked s ∧ s.loop.Tidy) ∧ Records s ∧ Settled s := by
    refine hrun.invariant (P := fun s => (Tracked s ∧ s.loop.Tidy) ∧ Records s ∧ Settled s)
      ⟨⟨tracked_init hworld, tidy_init⟩, records_init, settled_init⟩ ?_
    rintro t l u ⟨⟨htracked, htidy⟩, hrecords, hsettled⟩ - hstep
    have hsound := htracked.sound
    exact ⟨⟨htracked.step hstep, tidy_step htidy hsound hstep⟩, hrecords.step hsound hstep,
      hsettled.step hsound htidy hrecords hstep⟩
  exact ⟨hall.1.1.sound, hall.2⟩

/-- **The ledger of an accepted request**, in every reachable state: what its call made is released
once if its slot held it and the request has ended, and not at all otherwise. -/
theorem ledger_of_run (registry_size : ℕ) (h : registry_size < 2^31) {world : World}
    (hworld : world.ContextsSound) (env : InitEnv)
    (hrun : Run step anyStep (init registry_size h world env) s) {k : FutureRef} {reg : Registered}
    (hreg : s.registered k = some reg) {o : HeapRef} (ho : o.call = some k)
    (hkind : ∀ a, o ≠ .sockaddr a) :
    s.loop.released o ≤ 1 ∧ (s.loop.released o = 1 ↔
      o ∈ reg.slot.objects ∧ ∀ i, ¬ s.loop.Serves i k) := by
  obtain ⟨-, -, hsettled⟩ := settled_of_run hworld hrun
  by_cases hserves : ∃ i, s.loop.Serves i k
  · obtain ⟨i, hi⟩ := hserves
    rw [hsettled.serving i k hi o ho hkind]
    refine ⟨Nat.zero_le 1, fun hzero => absurd hzero Nat.zero_ne_one, fun hnot => ?_⟩
    exact absurd hi (hnot.2 i)
  · have hnot : ∀ i, ¬ s.loop.Serves i k := fun i hi => hserves ⟨i, hi⟩
    have hcount : reg.slot.objects.count o ≤ 1 := by
      refine List.nodup_iff_count_le_one.mp ?_ o
      unfold RequestSlot.objects
      cases reg.slot.buffer_payload <;> cases reg.slot.msghdr <;> simp
    rw [hsettled.ended k reg hreg hnot o ho hkind]
    refine ⟨hcount, fun hone => ⟨?_, hnot⟩, fun hmem => ?_⟩
    · exact List.count_pos_iff.mp (by omega)
    · have hpos := List.count_pos_iff.mpr hmem.1
      omega

/-- A message is received from anyone. -/
def recvfromAny : Label :=
  .call Sample.context (.recvfrom (.made 0) 1024 none 2 false .zero) Sample.callEnv

/-- Two messages are awaited on a new socket, and the first one arrives. -/
def recvfromTwice : List Label :=
  [.call Sample.context (.socket 2 1 .zero) Sample.callEnv, .post 2 9 0 [] [],
    .read Sample.readEnv, recvfromAny, recvfromAny,
    .post 2 4 0 [⟨10000, 1024⟩] [1, 2, 3, 4], .read Sample.readEnv]

/-- The header of the first message is released with its request. -/
theorem ledger_recvfromTwice : ∃ s reg,
    exec step anyStep (sample 3 (by decide)) recvfromTwice = some s ∧ s.registered 1 = some reg ∧
    s.loop.released (.msghdr 1) = 1 ∧ .msghdr 1 ∈ reg.slot.objects ∧
    ∀ i, ¬ s.loop.Serves i 1 := by
  obtain ⟨s, hs, hf⟩ := Option.map_eq_some_iff.mp
    (show (exec step anyStep (sample 3 (by decide)) recvfromTwice).map
      (fun s => (s.loop.released (.msghdr 1), (s.registered 1).isSome)) = some (1, true) by
        decide +kernel)
  obtain ⟨hone, hsome⟩ := Prod.mk.inj hf
  obtain ⟨reg, hreg⟩ := Option.isSome_iff_exists.mp hsome
  obtain ⟨hmem, hnot⟩ := (ledger_of_run 3 (by decide) Sample.world_sound Sample.initEnv
    (.of_exec hs) hreg (o := .msghdr 1) rfl (fun a h => by cases h)).2.mp hone
  exact ⟨s, reg, hs, hreg, hone, hmem, hnot⟩

/-- **The ledger of a rejected call**, in every reachable state: what it made is released once, but
for the payload of `sendto` when the dispatcher fails, and the message header of `recvmsg` when the
registry is full, which are forgotten. -/
theorem rejected_of_run (registry_size : ℕ) (h : registry_size < 2^31) {world : World}
    (hworld : world.ContextsSound) (env : InitEnv)
    (hrun : Run step anyStep (init registry_size h world env) s) {ctx : ExecutionContext} {op : Op}
    {cenv : CallEnv} {c : Called} (hcall : s.loop.call ctx op cenv = .ok c)
    (hnull : c.future = none) (hcreated : c.loop.calls = s.loop.calls + 1) {o : HeapRef}
    (hmade : o ∈ s.loop.makes ctx cenv op) :
    c.loop.released o =
      if op.leaks (decide (s.loop.registry.available_indices.entries = [])) o then 0 else 1 :=
  Loop.rejected_released (settled_of_run hworld hrun).1 hcall hnull hcreated hmade

/-- The registry is full: `recvmsg` releases its payload and forgets its message header. -/
theorem rejected_recvmsg : ∃ s c,
    exec step anyStep (sample 1 (by decide))
      [.call Sample.context (.socket 2 1 .zero) Sample.callEnv] = some s ∧
    s.loop.call Sample.context (.recvmsg (.made 0) [⟨2000, 5⟩] false .zero) Sample.callEnv = .ok c ∧
    c.loop.released (.payload (.own 1)) = 1 ∧ c.loop.released (.msghdr 1) = 0 := by
  let op : Op := .recvmsg (.made 0) [⟨2000, 5⟩] false .zero
  obtain ⟨s, hs, hf⟩ := Option.map_eq_some_iff.mp
    (show (exec step anyStep (sample 1 (by decide))
        [.call Sample.context (.socket 2 1 .zero) Sample.callEnv]).map
      (fun s => (s.loop.calls, s.loop.registry.available_indices.entries,
        s.loop.makes Sample.context Sample.callEnv op,
        (s.loop.call Sample.context op Sample.callEnv).toOption.map fun c =>
          (c.future.isNone, c.loop.calls))) =
        some (1, [], [.payload (.own 1), .msghdr 1], some (true, 2)) by decide +kernel)
  simp only [Prod.mk.injEq] at hf
  obtain ⟨hcalls, hempty, hmakes, hc⟩ := hf
  obtain ⟨c, hcall, hc⟩ := toOption_map_eq_some.mp hc
  obtain ⟨hnull, hnext⟩ := Prod.mk.inj hc
  have hledger := fun o hmade => rejected_of_run 1 (by decide) Sample.world_sound Sample.initEnv
    (.of_exec hs) hcall (Option.isNone_iff_eq_none.mp hnull) (by rw [hnext, hcalls]) (o := o) hmade
  have hpayload := hledger (.payload (.own 1)) (by rw [hmakes]; simp)
  have hmsghdr := hledger (.msghdr 1) (by rw [hmakes]; simp)
  rw [hempty] at hpayload hmsghdr
  exact ⟨s, c, hs, hcall, hpayload, hmsghdr⟩

end System

end Uringio
