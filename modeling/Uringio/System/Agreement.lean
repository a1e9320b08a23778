import Uringio.Python.NullPointers
import Uringio.System.Recorded
import Uringio.System.Selected

/-!
# Which pointers are followed

The payloads of contexts keep what they offered when the context was entered, and the slot of a
request keeps what its call left in it, until the request is removed (`Agreed`). So in every
reachable state, what the context and the operation are decides whether a call from Python, on its
way to the dispatcher or in it, and the reader on a completion, follows a null pointer
(`agreement_iff`).
-/

namespace Uringio

/-- What a context offers depends on the buffers of its payload. -/
theorem BufferPayload.Serving.congr {p q : BufferPayload} (h : p.Serving)
    (hsame : p.SameBuffers q) :
    q.Serving where
  normal hmode := by
    rw [hsame.mode] at hmode
    rw [hsame.payload_type]
    exact h.normal hmode
  linear hmode := by
    rw [hsame.mode] at hmode
    rw [hsame.payload_type, BufferPayload.first, hsame.linear, hsame.vector]
    exact h.linear hmode
  pool hmode := by
    rw [hsame.mode] at hmode
    rw [hsame.pool]
    exact h.pool hmode

/-- Every context of the world was entered. -/
def World.ContextsServing (world : World) : Prop := ∀ n, (world.payloads (.context n)).Serving

/-- A world whose contexts serve every operation is sound. -/
theorem World.ContextsServing.sound {world : World} (h : world.ContextsServing) :
    world.ContextsSound := fun n => (h n).normal

namespace System

open Transition (Run anyStep exec)

variable {s s' : System} {l : Label} {ctx : ExecutionContext} {op : Op} {env : CallEnv}

/-- The contexts offer what they did, and every slot in use suits the reader. -/
structure Agreed (s : System) : Prop where
  /-- The contexts serve their operations. -/
  contexts : s.loop.ContextsServing
  /-- The slot of a request suits the reader. -/
  suits : ∀ i slot (k : ℕ) reg, registryGet s.loop.registry i = some slot → slot.future = some k →
    s.registered k = some reg → Suits s.loop.payloads reg.context slot reg.op

/-- A step that changes the payloads of call `j` only, and leaves the slots of the other calls. -/
theorem Agreed.of_frame {j : ℕ} (h : Agreed s) (hs : s.loop.Sound)
    (hframe : Loop.Frame j s.loop s'.loop)
    (hslots : ∀ i slot (k : ℕ) reg, registryGet s'.loop.registry i = some slot →
      slot.future = some k → s'.registered k = some reg →
      k ≠ j ∧ registryGet s.loop.registry i = some slot ∧ s.registered k = some reg ∨
        Suits s'.loop.payloads reg.context slot reg.op) : Agreed s' where
  contexts n := (h.contexts n).congr (hframe.payloads (.context n) (by simp))
  suits i slot k reg hget hfut hreg := by
    rcases hslots i slot k reg hget hfut hreg with ⟨hne, hold, hregold⟩ | hnew
    · refine Loop.suits_congr (fun p hp => hframe.payloads p ?_)
        (fun n => hframe.payloads (.context n) (by simp)) (h.suits i slot k reg hold hfut hregold)
      -- The payload of the slot is its own call's, or that of a context.
      rcases (hs.slots i slot k hold hfut).2.1.payload p hp with rfl | ⟨⟨n, rfl⟩, -⟩
      · simpa using hne
      · simp
    · exact hnew

/-- A step that changes neither payloads nor slots. -/
theorem Agreed.congr (h : Agreed s) (hpay : s'.loop.payloads = s.loop.payloads)
    (hslots : s'.loop.registry = s.loop.registry) (hreg : s'.registered = s.registered) :
    Agreed s' where
  contexts n := by
    rw [hpay]
    exact h.contexts n
  suits := by
    rw [hpay, hslots, hreg]
    exact h.suits

/-- Calls keep the invariant: the slot that an accepted call fills suits the reader. -/
theorem Agreed.call (h : Agreed s) (hs : s.loop.Sound) (hr : Records s)
    (hstep : step s (.call ctx op env) = some s') : Agreed s' := by
  obtain ⟨-, c, hcall, rfl⟩ := call_step hstep
  rcases called_cases hs hcall with ⟨hrej, -, hreg⟩ | ⟨req, idx, e, hacc, -, hreg⟩
  · refine h.of_frame hs (by rw [called_loop]; exact hrej.frame) fun i slot k reg hget hfut hk => ?_
    rw [called_loop] at hget
    rw [hreg] at hk
    have hlive := hrej.live i ⟨slot, hget, by rw [hfut]; rfl⟩
    rw [hrej.slots i hlive] at hget
    exact .inl ⟨(hr.request k reg hk).1.ne, hget, hk⟩
  · refine h.of_frame hs (by rw [called_loop]; exact hacc.frame) fun i slot k reg hget hfut hk => ?_
    rw [called_loop] at hget ⊢
    rw [hreg] at hk
    by_cases hi : i = idx
    · right
      rw [hi] at hget
      have hk' : k = s.loop.calls := by
        rw [hacc.slot, Option.some.injEq] at hget
        rw [← hget] at hfut
        exact (Option.some.inj hfut).symm.trans hacc.request.future
      rw [hk', Function.update_self, Option.some.injEq] at hk
      rw [← hk]
      exact Loop.call_suits h.contexts hcall (by simp [hacc.future]) (hacc.request_idx ▸ hget)
    · left
      rw [hacc.others i hi] at hget
      have hne : k ≠ s.loop.calls := (hs.slots i slot k hget hfut).1.ne
      rw [Function.update_of_ne hne] at hk
      exact ⟨hne, hget, hk⟩

/-- The reader keeps the invariant. -/
theorem Agreed.read {renv : ReadEnv} (h : Agreed s) (hs : s.loop.Sound)
    (hstep : step s (.read renv) = some s') : Agreed s' := by
  obtain ⟨c, cq, r, -, hread, rfl⟩ := read_step hstep
  rcases hs.read_cases hread with ⟨-, rfl⟩ | ⟨slot, k, hget, hfut, -, hleft | hfin⟩
  · exact h.congr rfl rfl rfl
  · exact h.congr hleft.payloads hleft.registry rfl
  · refine h.of_frame hs hfin.frame fun i s' j reg hi hj hreg => .inl ?_
    obtain ⟨hne, hserves⟩ := (Loop.serves_finished hfin).mp ⟨s', hi, hj⟩
    have hold : registryGet s.loop.registry i = some s' := by
      rw [← hfin.others i hne]
      exact hi
    refine ⟨fun heq => hne ?_, hold, hreg⟩
    rw [heq] at hserves
    exact hs.injective i c.cqe.index k hserves ⟨slot, hget, hfut⟩

/-- **Steps keep the invariant.** -/
theorem Agreed.step (h : Agreed s) (hs : s.loop.Sound) (hr : Records s)
    (hstep : step s l = some s') : Agreed s' := by
  cases l with
  | call ctx op env => exact h.call hs hr hstep
  | read renv => exact h.read hs hstep
  | initProvidedMode | closeProvidedMode | submit | returned | writeToSelf | signal =>
    cases hstep
    exact h.congr rfl rfl rfl
  | post n res flags into data =>
    obtain ⟨f, -, -, -, -, rfl⟩ := post_step hstep
    exact h.congr rfl rfl rfl
  | cancel f =>
    simp only [System.step] at hstep
    split at hstep
    · cases hstep
      exact h.congr rfl rfl rfl
    · cases hstep

/-- **Every reachable state agrees.** -/
theorem agreed_of_run {registry_size : ℕ} {h : registry_size < 2^31} {world : World}
    (hworld : world.ContextsServing) {ienv : InitEnv}
    (hrun : Run System.step anyStep (System.init registry_size h world ienv) s) :
    Tracked s ∧ Records s ∧ Agreed s := by
  have hinit : Agreed (System.init registry_size h world ienv) :=
    { contexts := hworld
      suits := fun i slot k reg _ _ hreg => by cases hreg }
  exact hrun.invariant (P := fun s => Tracked s ∧ Records s ∧ Agreed s)
    ⟨tracked_init hworld.sound, records_init, hinit⟩
    fun _ _ _ hinv _ hstep => ⟨hinv.1.step hstep, hinv.2.1.step hinv.1.sound hstep,
      hinv.2.2.step hinv.1.sound hinv.2.1 hstep⟩

/-- What the reader does with the completion is what was submitted: it follows no null pointer, and
takes the branch of a multishot message only for a request that was submitted as one. -/
def ReadsRight (s : System) (slot : RequestSlot) (renv : ReadEnv) (c : Completion) : Prop :=
  (∃ r, readCqe s.loop renv c.cqe = .ok r) ∧
    (slot.opcode = .recvmsg ∧ slot.stream_strategy = .MULTISHOT → c.sqe.multishot = true)

/-- **Dispatcher and reader agree**, in every reachable state: a call from Python follows no null
pointer exactly if it is not one that `FollowsNull`, and the reader follows none on a successful
completion of a request, and takes the branch of what was submitted, exactly if the request is
`ReadSafe`. -/
theorem agreement_iff (registry_size : ℕ) (h : registry_size < 2^31) {world : World}
    (hworld : world.ContextsServing) (ienv : InitEnv)
    (hrun : Run step anyStep (init registry_size h world ienv) s) :
    (∀ (env : PyEnv) (req : PyRequest),
      (PyOp.request req).run s.loop env ≠ .error (.fault .nullDeref) ↔
        ¬ req.FollowsNull s.loop env) ∧
    ∀ c cq renv slot (k : ℕ) reg, s.cq = c :: cq →
      registryGet s.loop.registry c.cqe.index = some slot → slot.future = some k →
      s.registered k = some reg → 0 ≤ c.cqe.res →
      (s.ReadsRight slot renv c ↔ ReadSafe s.loop.payloads reg.context reg.op) := by
  obtain ⟨ht, hr, ha⟩ := agreed_of_run hworld hrun
  refine ⟨fun env req => not_congr (run_nullDeref_iff ha.contexts ht.sound.consistent),
    fun c cq renv slot k reg _ hget hfut hreg hres => ?_⟩
  obtain ⟨reg', hreg', hslot⟩ := hr.served _ k ⟨slot, hget, hfut⟩
  rw [hreg, Option.some.injEq] at hreg'
  rw [← hreg', hget, Option.some.injEq] at hslot
  obtain ⟨-, req, idx, payloads, hreqslot, hreq⟩ := hr.request k reg hreg
  have hop : slot.opcode = reg.op.opcode := by
    rw [hslot, hreqslot]
    exact hreq.opcode
  have hsuits := ha.suits _ slot k reg hget hfut hreg
  have hiff : (∃ r, readCqe s.loop renv c.cqe = .ok r) ↔
      ReadSafe s.loop.payloads reg.context reg.op :=
    Loop.read_ok_iff ht.sound hget hfut hop hres hsuits
  refine ⟨fun hright => hiff.mp hright.1, fun hsafe => ⟨hiff.mpr hsafe, fun hmulti => ?_⟩⟩
  -- Only a message can be multishot, and its request is not.
  obtain ⟨hmsg, hstream⟩ := hmulti
  rw [hop] at hmsg
  cases hcall : reg.op <;> rw [hcall] at hmsg hsuits hsafe <;> simp only [Op.opcode] at hmsg <;>
    try cases hmsg
  case recvfrom =>
    rw [hsuits.1] at hstream
    cases hstream
  case recvmsg =>
    rw [hsuits.1] at hstream
    simp only [ReadSafe] at hsafe
    rw [hsafe] at hstream
    cases hstream

/-- The contexts of the sample world serve every operation. -/
theorem providedWorld_serving : providedWorld.ContextsServing := by
  intro n
  by_cases hn : n = 0
  · subst hn
    have hmode : (providedWorld.payloads (.context 0)).mode = .PROVIDED := by decide
    exact
      { normal := fun h => by rw [hmode] at h; cases h
        linear := fun _ => by decide
        pool := fun h => by rw [hmode] at h; cases h }
  · have hzero : providedWorld.payloads (.context n) = Sample.world.payloads (.context n) :=
      if_neg fun heq => hn (PayloadRef.context.inj heq)
    rw [hzero]
    exact
      { normal := fun _ => rfl
        linear := fun h => absurd rfl h
        pool := fun h => by cases h }

/-- A socket has received in a context that provides buffers: the completion is read as it was
submitted, and the next receive, into the user's buffer, follows no null pointer. -/
theorem agreement_recvProvided : ∃ s slot c,
    exec step anyStep (init 2 (by decide) providedWorld Sample.initEnv)
      (selectRun 0 ⟨1000, 16⟩) = some s ∧
    s.cq = [c] ∧ registryGet s.loop.registry c.cqe.index = some slot ∧
    s.ReadsRight slot Sample.readEnv c ∧
    (PyOp.request (.recv (.made 0) 5 (some (.ofList [some ⟨⟨2000, 5⟩, false, true⟩])) false
      .absent)).run s.loop (Sample.pyEnv 2) ≠ .error (.fault .nullDeref) := by
  obtain ⟨s, hs, hf⟩ := Option.map_eq_some_iff.mp
    (show (exec step anyStep (init 2 (by decide) providedWorld Sample.initEnv)
      (selectRun 0 ⟨1000, 16⟩)).map (fun s => (s.cq.map Completion.cqe,
        (registryGet s.loop.registry 1).bind RequestSlot.future,
        (s.registered 1).map Registered.op)) =
        some ([⟨1, 3, 1⟩], some 1, some (.recv (.made 0) 1024 none false .zero)) by decide +kernel)
  simp only [Prod.mk.injEq] at hf
  obtain ⟨hcq, hslot, hreg⟩ := hf
  obtain ⟨slot, hget, hfut⟩ := Option.bind_eq_some_iff.mp hslot
  obtain ⟨reg, hreg, hop⟩ := Option.map_eq_some_iff.mp hreg
  obtain ⟨c, hcqs, hcqe⟩ := List.map_eq_singleton_iff.mp hcq
  obtain ⟨hcall, hread⟩ :=
    agreement_iff 2 (by decide) providedWorld_serving Sample.initEnv (.of_exec hs)
  have hindex : c.cqe.index = 1 := by
    rw [hcqe]
    decide
  rw [← hindex] at hget
  refine ⟨s, slot, c, hs, hcqs, hget, (hread c [] Sample.readEnv slot 1 reg hcqs hget hfut hreg
    (by rw [hcqe]; decide)).mpr ?_, (hcall _ _).mpr ?_⟩
  · rw [hop]
    trivial
  · -- The context can be read, and the buffer taken.
    rintro ⟨-, (hloud | hnone) | ⟨-, -, herror⟩⟩
    · exact absurd hloud (by decide)
    · cases hnone
    · exact herror (by decide)

/-- A file and a socket are made. Then the file is read, with `readv`, in the context that provides
buffers, and the socket receives a message in a multishot context; both operations succeed. -/
def disagreeingRun : List Label :=
  [.call Sample.context (.open "f" (-100) 0 0 0 .zero) Sample.callEnv, .post 2 9 0 [] [],
    .read Sample.readEnv,
    .call Sample.context (.socket 2 1 .zero) Sample.callEnv, .post 2 8 0 [] [],
    .read Sample.readEnv,
    .call ⟨.ONESHOT, .NORMAL_TRANSFER, some 0⟩ (.readv 0 none 0 false .zero) Sample.callEnv,
    .call ⟨.MULTISHOT, .NORMAL_TRANSFER, none⟩ (.recvmsg (.made 1) [⟨2000, 5⟩] false .zero)
      Sample.callEnv,
    .post 2 3 1 [⟨1000, 16⟩] [1, 2, 3], .post 2 3 0 [⟨2000, 5⟩] [4, 5, 6]]

/-- The reader follows a null pointer on either completion. So does the dispatcher of a `sendmsg`
with zero-copy transfer, and a read of `-1` bytes and a receive into an object that exports no
buffer, which read the execution context while the exception of their constructor is pending. -/
theorem disagreeing_nullDeref : ∃ s,
    Run step anyStep (init 3 (by decide) providedWorld Sample.initEnv) s ∧
    s.cq.map Completion.cqe = [⟨2, 3, 1⟩, ⟨1, 3, 0⟩] ∧
    readCqe s.loop Sample.readEnv ⟨2, 3, 1⟩ = .error .nullDeref ∧
    readCqe s.loop Sample.readEnv ⟨1, 3, 0⟩ = .error .nullDeref ∧
    (PyOp.request (.sendmsg (.made 1) (.ofList [some ⟨⟨2000, 5⟩, true, true⟩]) false 0 2 false
      .absent)).run s.loop { Sample.pyEnv 2 with context := some ⟨.ONESHOT, .ZERO_COPY, none⟩ } =
        .error (.fault .nullDeref) ∧
    (PyOp.request (.read 0 0 (-1) .absent)).run s.loop (Sample.pyEnv 2) =
      .error (.fault .nullDeref) ∧
    (PyOp.request (.recv (.made 1) 16 (some (.ofList [none])) false .absent)).run s.loop
      (Sample.pyEnv 2) = .error (.fault .nullDeref) := by
  obtain ⟨s, hs, hf⟩ := Option.map_eq_some_iff.mp
    (show (exec step anyStep (init 3 (by decide) providedWorld Sample.initEnv)
      disagreeingRun).map (fun s => (s.cq.map Completion.cqe,
        (readCqe s.loop Sample.readEnv ⟨2, 3, 1⟩).map fun _ => (),
        (readCqe s.loop Sample.readEnv ⟨1, 3, 0⟩).map fun _ => ())) =
        some ([⟨2, 3, 1⟩, ⟨1, 3, 0⟩], .error .nullDeref, .error .nullDeref) by decide +kernel)
  have hsendmsg := Transition.exec_eval hs (f := fun s => ((PyOp.request (.sendmsg (.made 1)
    (.ofList [some ⟨⟨2000, 5⟩, true, true⟩]) false 0 2 false .absent)).run s.loop
      { Sample.pyEnv 2 with context := some ⟨.ONESHOT, .ZERO_COPY, none⟩ }).map fun _ => ())
    (b := .error (.fault .nullDeref)) (by decide +kernel)
  have hread := Transition.exec_eval hs (f := fun s => ((PyOp.request (.read 0 0 (-1) .absent)).run
    s.loop (Sample.pyEnv 2)).map fun _ => ()) (b := .error (.fault .nullDeref)) (by decide +kernel)
  have hrecv := Transition.exec_eval hs (f := fun s => ((PyOp.request (.recv (.made 1) 16
    (some (.ofList [none])) false .absent)).run s.loop (Sample.pyEnv 2)).map fun _ => ())
    (b := .error (.fault .nullDeref)) (by decide +kernel)
  simp only [Prod.mk.injEq] at hf
  obtain ⟨hcq, hreadv, hrecvmsg⟩ := hf
  exact ⟨s, .of_exec hs, hcq, eq_error_of_map hreadv, eq_error_of_map hrecvmsg,
    eq_error_of_map hsendmsg, eq_error_of_map hread, eq_error_of_map hrecv⟩

end System

end Uringio
