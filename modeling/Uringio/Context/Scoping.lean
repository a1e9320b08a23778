import Uringio.Context.Entering

/-!
# The scope of a context manager

In every well-nested program, whichever enters fail, each getter returns what the innermost manager
that sets its field sets it to, and every exit and every failed enter gives back the fields of
before. The argument is the rule for well-nested programs: a layer's exit undoes its own enter
(`exit_same`), and what is entered and left inside a layer is not seen by it (`Opens.of_same`).
Beside the layers it needs that the managers that were not entered yet can be entered (`Tidy`).
-/

namespace Uringio

open Bracket (Session Command Nested Once Opened innermost)
open Transition (Run)

/-- The stream strategy that a manager sets. -/
def Manager.stream : Manager → Option StreamStrategy
  | .streamStrategyCtx payload => some payload
  | .executionContextCtx _ context => some context.stream
  | _ => none

/-- The transfer mode that a manager sets. -/
def Manager.transfer_mode : Manager → Option TransferMode
  | .transferModeCtx payload => some payload
  | .executionContextCtx _ context => some context.transfer_mode
  | _ => none

/-- The payload that the manager `o` sets. -/
def Manager.buffer_payload (o : ℕ) : Manager → Option (Option ℕ)
  | .bufferModeCtx _ => some (some o)
  | .executionContextCtx _ context => some context.buffer_payload
  | _ => none

variable (m : Manager) (o : ℕ) (c : ContextBlock)

/-- The strategy after a change is the manager's, if it has one. -/
theorem Manager.change_stream : (m.change o c).stream = m.stream.getD c.stream := by
  cases m <;> rfl

/-- The transfer mode after a change is the manager's, if it has one. -/
theorem Manager.change_transfer_mode :
    (m.change o c).transfer_mode = m.transfer_mode.getD c.transfer_mode := by
  cases m <;> rfl

/-- The payload after a change is the manager's, if it has one. -/
theorem Manager.change_buffer_payload :
    (m.change o c).buffer_payload = (m.buffer_payload o).getD c.buffer_payload := by
  cases m <;> rfl

namespace ContextState

/-- A program that did not start: the variable holds the defaults, no manager has been entered, and
each of them is as its constructor left it, with a block of its own if it has one. -/
structure Initial (s : ContextState) : Prop where
  /-- The store is sound. -/
  sound : s.var.Sound
  /-- The variable reads as the defaults. -/
  get : s.var.get = some .initial
  /-- No manager has a token. -/
  tokens : ∀ o, s.tokens o = none
  /-- Each manager is as its creation leaves it. -/
  created : ∀ o, s.Created o
  /-- No two managers bring the same block. -/
  own : ∀ {o o' p c c'}, s.managers o = .executionContextCtx p c →
    s.managers o' = .executionContextCtx p c' → o = o'

/-- The getters return what the innermost manager sets that sets the field, or the default. -/
structure Scoped (s : Session ContextState ℕ) : Prop where
  /-- The stream strategy is the innermost that was set. -/
  stream : s.state.getStreamStrategy =
    some (innermost (fun o => (s.state.managers o).stream) .ONESHOT s.entered)
  /-- The transfer mode is the innermost that was set. -/
  transfer_mode : s.state.getTransferMode =
    some (innermost (fun o => (s.state.managers o).transfer_mode) .NORMAL_TRANSFER s.entered)
  /-- The payload is the innermost that was set. -/
  buffer_payload : s.state.getBuffer =
    some (innermost (fun o => (s.state.managers o).buffer_payload o) none s.entered)

/-- A failed enter leaves all fields as they were, and an exit leaves them as they were before the
matching enter. -/
def Restores (s : Session ContextState ℕ) (s' : Session ContextState ℕ) :
    Command ℕ ManagerEnv → Prop
  | .enter o env => protocol.enter s.state o env = some (false, s'.state) →
      s'.state.var.get = s.state.var.get
  | .exit _ _ => ∀ f ∈ s.entered.head?, s'.state.var.get = f.before.var.get

variable {m₀ : ℕ → Manager} {s₀ : ContextState} {s s' : Session ContextState ℕ} {o : ℕ}
  {env : ManagerEnv}

/-- What is known of the store, and of the managers that were not entered yet. -/
structure Tidy (m₀ : ℕ → Manager) (s : Session ContextState ℕ) : Prop where
  /-- The managers are those of the start. -/
  managers : s.state.managers = m₀
  /-- The store is sound. -/
  sound : s.state.var.Sound
  /-- A manager that was not tried has no token. -/
  untaken : ∀ o, o ∉ s.tried → s.state.tokens o = none
  /-- A manager that was not tried can be entered. -/
  ready : ∀ o, o ∉ s.tried → s.state.Ready o
  /-- Only managers that were tried are entered. -/
  tried : ∀ f ∈ s.entered, f.object ∈ s.tried
  /-- No two managers bring the same block. -/
  own : ∀ {o o' p c c'}, m₀ o = .executionContextCtx p c → m₀ o' = .executionContextCtx p c' →
    o = o'

/-- The layers of a program: `Opens`, from the defaults. -/
def Layers (m₀ : ℕ → Manager) (s : Session ContextState ℕ) : Prop :=
  Opened (fun s => s.var.get = some .initial ∧ s.managers = m₀)
    (fun b o t => Opens b o t ∧ b.managers = m₀) s.entered s.state

/-- The current context is what the entered managers make of the defaults. -/
theorem Layers.get (h : Layers m₀ s) :
    s.state.var.get =
      some (s.entered.foldr (fun f c => (m₀ f.object).change f.object c) .initial) := by
  refine Bracket.read_of_opened (fun o c => (m₀ o).change o c) (fun _ h => h.1) ?_ h
  rintro b o t c ⟨hopens, hm₀⟩ hc
  obtain ⟨current, p, hcurrent, hcapsule, hblock⟩ := hopens.context
  rw [hc] at hcurrent
  cases hcurrent
  rw [ContextVar.get, hcapsule, Option.bind_some, hblock, hm₀]

/-- A payload that was created follows no null pointer. -/
theorem ready_of_createContextPayload {mode : BufferMode} {args : PayloadArgs}
    {payload : ContextPayload} (h : createContextPayload mode args = some payload) :
    payload.Ready := by
  obtain ⟨p, hp, rfl⟩ := Option.map_eq_some_iff.mp h
  simp only [createBufferPayload, Option.bind_eq_bind, Option.bind_eq_some_iff] at hp
  obtain ⟨metadata, -, ⟨filled, type⟩, hfill, hp⟩ := hp
  cases hp
  simp only [ContextPayload.Ready]
  cases mode with
  | NORMAL_BUF => trivial
  | FIXED =>
    -- Both views of the buffers are built, whoever the buffers belong to.
    obtain ⟨both, hboth, hfilled⟩ := Option.map_eq_some_iff.mp hfill
    cases hfilled
    cases hobj : args.buffers_obj with
    | none =>
      simp only [originBoth, hobj, Option.some.injEq] at hboth
      rw [← hboth]
      rfl
    | some buffers =>
      simp only [originBoth, hobj, serializeBuffers] at hboth
      obtain ⟨linear, -, rfl⟩ := Option.map_eq_some_iff.mp hboth
      rfl
  | PROVIDED =>
    obtain ⟨linear, -, hfilled⟩ := Option.map_eq_some_iff.mp hfill
    cases hfilled
    rfl
  | BUF_RING =>
    obtain ⟨linear, -, hfilled⟩ := Option.map_eq_some_iff.mp hfill
    cases hfilled
    rfl

/-- A manager that was created can be entered. -/
theorem Created.ready {s : ContextState} (h : s.Created o) : s.Ready o := by
  unfold Created at h
  unfold Ready
  cases hkind : s.managers o with
  | bufferModeCtx payload =>
    rw [hkind] at h
    obtain ⟨args, hargs⟩ := h
    exact ready_of_createContextPayload hargs
  | streamStrategyCtx payload => trivial
  | transferModeCtx payload => trivial
  | executionContextCtx payload context =>
    rw [hkind] at h
    obtain ⟨⟨args, hargs⟩, -, hblock, hunowned⟩ := h
    exact ⟨ready_of_createContextPayload hargs, hblock, hunowned⟩

/-- What an enter or an exit of the manager `o` does not touch, for another manager. -/
theorem Ready.of_other {s t : ContextState} {o' : ℕ} (h : s.Ready o')
    (hmanagers : t.managers = s.managers) (hpayload : t.payloads o' = s.payloads o')
    (haloof : ∀ p c, s.managers o' = .executionContextCtx p c → s.var.Aloof p c →
      t.var.Aloof p c) : t.Ready o' := by
  unfold Ready at h ⊢
  rw [hmanagers, hpayload]
  cases hkind : s.managers o' with
  | bufferModeCtx payload =>
    rw [hkind] at h
    exact h
  | streamStrategyCtx payload => trivial
  | transferModeCtx payload => trivial
  | executionContextCtx payload context =>
    rw [hkind] at h
    exact ⟨h.1, haloof _ _ hkind h.2⟩

/-- **Step.** A command of a well-nested program is executed, and keeps the store and the managers
that were not entered. -/
theorem Tidy.step (h : Tidy m₀ s) (hlayers : Layers m₀ s) {c : Command ℕ ManagerEnv}
    (hnested : Nested s c) (honce : Once s c) :
    ∃ s', protocol.step s c = some s' ∧ Tidy m₀ s' := by
  cases c with
  | enter o env =>
    have hready := h.ready o honce
    obtain ⟨ok, t, hcall⟩ := enter_defined h.sound hlayers.get hready env
    have hentering := enter_entering h.sound hlayers.get hready hcall
    refine ⟨_, by simp [Bracket.Protocol.step, hcall]; rfl, ?_⟩
    refine ⟨hentering.managers.trans h.managers, hentering.sound, fun o' ho' => ?_,
      fun o' ho' => ?_, fun f hf => ?_, h.own⟩
    · rw [List.mem_cons, not_or] at ho'
      exact (hentering.tokens o' ho'.1).trans (h.untaken o' ho'.2)
    · rw [List.mem_cons, not_or] at ho'
      refine (h.ready o' ho'.2).of_other hentering.managers (hentering.others o' ho'.1)
        fun p c hkind haloof => hentering.aloof p c haloof fun hp => ?_
      -- The block that is entered is not that of another manager.
      unfold nextBlock at hp
      split at hp
      · next hkind' =>
        rw [h.managers] at hkind hkind'
        subst hp
        exact ho'.1 (h.own hkind hkind')
      · exact Cells.ne_next haloof.block hp
    · cases ok with
      | true =>
        rcases List.mem_cons.mp hf with rfl | hf
        · exact List.mem_cons_self
        · exact List.mem_cons_of_mem _ (h.tried f hf)
      | false => exact List.mem_cons_of_mem _ (h.tried f hf)
  | exit o env =>
    obtain ⟨f, hf, rfl⟩ := Option.map_eq_some_iff.mp hnested
    obtain ⟨fs, hentered⟩ := List.head?_eq_some_iff.mp hf
    have hlayers' := hlayers
    unfold Layers at hlayers'
    rw [hentered] at hlayers'
    obtain ⟨hopens, hm₀⟩ := hlayers'.1
    obtain ⟨t, hcall⟩ := exit_defined h.sound hopens env
    obtain ⟨hsame, hsound, haloof, hothers⟩ := exit_same h.sound hopens hcall
    refine ⟨_, by simp [Bracket.Protocol.step, hcall]; rfl, ?_⟩
    refine ⟨hsame.managers.trans hm₀, hsound, fun o' ho' => ?_, fun o' ho' => ?_,
      fun g hg => h.tried g (List.mem_of_mem_tail hg), h.own⟩
    · rw [hsame.tokens]
      rcases eq_or_ne o' f.object with rfl | hne
      · exact hopens.untaken
      · exact (hopens.tokens o' hne).symm.trans (h.untaken o' ho')
    · have hne : o' ≠ f.object := fun hobject =>
        ho' (hobject ▸ h.tried f (hentered ▸ List.mem_cons_self))
      exact (h.ready o' ho').of_other (hsame.managers.trans hopens.managers.symm) (hothers o' hne)
        fun p c _ => haloof p c

/-- Exits and failed enters of well-nested programs undo what they end. -/
theorem undoes (m₀ : ℕ → Manager) :
    Bracket.Undoes protocol (fun s c => Once s c ∧ Tidy m₀ s ∧ Layers m₀ s)
      (fun s => s.var.get = some .initial ∧ s.managers = m₀)
      (fun b o t => Opens b o t ∧ b.managers = m₀) Same where
  enter hok hcall := by
    obtain ⟨honce, htidy, hlayers⟩ := hok
    have hentering := enter_entering htidy.sound hlayers.get (htidy.ready _ honce) hcall
    exact ⟨hentering.opens hlayers.get (htidy.untaken _ honce), htidy.managers⟩
  failed hok hcall := by
    obtain ⟨honce, htidy, hlayers⟩ := hok
    exact (enter_entering htidy.sound hlayers.get (htidy.ready _ honce) hcall).same
  exit hok hopens hcall := (exit_same hok.2.1.sound hopens.1 hcall).1
  base_same hbase hsame := ⟨hsame.keeps.get_eq hsame.value hbase.1, hsame.managers.trans hbase.2⟩
  opens_same hopens hsame := ⟨hopens.1.of_same hsame, hopens.2⟩

/-- **Run.** In every state that a well-nested program reaches, the layers are as their enters left
them. -/
theorem layers_of_run (hinit : Initial s₀)
    (hrun : Run protocol.step (fun s c => Nested s c ∧ Once s c) (.start s₀) s) :
    Tidy s₀.managers s ∧ Layers s₀.managers s := by
  refine hrun.invariant (P := fun s : Session ContextState ℕ =>
    Tidy s₀.managers s ∧ Layers s₀.managers s) ⟨⟨rfl, hinit.sound, fun o _ => hinit.tokens o,
      fun o _ => (hinit.created o).ready, fun f hf => absurd hf (by simp [Session.start]),
      hinit.own⟩, hinit.get, rfl⟩ ?_
  rintro s c s' ⟨htidy, hlayers⟩ ⟨hnested, honce⟩ hstep
  obtain ⟨s'', hstep', htidy'⟩ := htidy.step hlayers hnested honce
  rw [hstep] at hstep'
  cases hstep'
  exact ⟨htidy', (undoes s₀.managers).opened_step hlayers hnested ⟨honce, htidy, hlayers⟩ hstep⟩

/-- **Context scoping.** In every state that a well-nested program reaches in which no object is
entered twice, whichever enters fail, the getters return field by field what the innermost manager
that sets the field set it to; and every next step is executed, and leaves all fields as they were
before the matching enter if it is an exit, and as they were if it is an enter that fails. -/
theorem scoped_of_run (hinit : Initial s₀)
    (hrun : Run protocol.step (fun s c => Nested s c ∧ Once s c) (.start s₀) s) :
    Scoped s ∧ ∀ c, Nested s c → Once s c → ∃ s', protocol.step s c = some s' ∧
      Restores s s' c := by
  obtain ⟨htidy, hlayers⟩ := layers_of_run hinit hrun
  have hget := hlayers.get
  refine ⟨⟨?_, ?_, ?_⟩, fun c hnested honce => ?_⟩
  · rw [getStreamStrategy, hget, Option.map_some, htidy.managers]
    exact congrArg some (Bracket.get_foldr_eq_innermost (fun c : ContextBlock => c.stream)
      (fun o c => (s₀.managers o).change_stream o c) _ _)
  · rw [getTransferMode, hget, Option.map_some, htidy.managers]
    exact congrArg some (Bracket.get_foldr_eq_innermost (fun c : ContextBlock => c.transfer_mode)
      (fun o c => (s₀.managers o).change_transfer_mode o c) _ _)
  · rw [getBuffer, hget, Option.map_some, htidy.managers]
    exact congrArg some (Bracket.get_foldr_eq_innermost (fun c : ContextBlock => c.buffer_payload)
      (fun o c => (s₀.managers o).change_buffer_payload o c) _ _)
  · obtain ⟨s', hstep, -⟩ := htidy.step hlayers hnested honce
    refine ⟨s', hstep, ?_⟩
    cases c with
    | enter o env =>
      intro hfailed
      have hsame := (undoes s₀.managers).failed ⟨honce, htidy, hlayers⟩ hfailed
      rw [hget]
      exact hsame.keeps.get_eq hsame.value hget
    | exit o env =>
      intro f hf
      have hsame := (undoes s₀.managers).same_of_exit hlayers hnested
          ⟨honce, htidy, hlayers⟩ hstep hf
      obtain ⟨fs, hentered⟩ := List.head?_eq_some_iff.mp hf
      unfold Layers at hlayers
      rw [hentered] at hlayers
      obtain ⟨current, -, hcurrent, -⟩ := hlayers.1.1.context
      rw [hcurrent]
      exact hsame.keeps.get_eq hsame.value hcurrent

/-! ## A program -/

/-- One buffer of the user. -/
def sampleArgs : PayloadArgs where
  payload_type := .PAYLOAD_LINEAR
  buffers_obj := some [⟨4096, 64⟩]
  amount := 3
  bufsize := 1024
  alloc _ := 0
  rand := 7
  raw := { BufferPayload.zero with buf_ring := false }

/-- The sample arguments have a payload in each mode. -/
theorem createContextPayload_sampleArgs (mode : BufferMode) :
    (createContextPayload mode sampleArgs).isSome := by
  cases mode <;> decide

/-- The block of the manager `0`. -/
def sampleContext : ContextBlock := ⟨⟨.MULTISHOT, .ZERO_COPY, some 0⟩, .NORMAL_BUF⟩

/-- A manager of all fields, one of fixed buffers, and managers of the stream strategy. -/
def sample : ContextState where
  var := ⟨0, Cells.empty.new ⟨0, 1⟩, (Cells.empty.new .initial).new sampleContext⟩
  managers
    | 0 => .executionContextCtx 1 sampleContext
    | 1 => .bufferModeCtx .FIXED
    | _ => .streamStrategyCtx .ONESHOT
  tokens _ := none
  payloads
    | 0 => (createContextPayload .NORMAL_BUF sampleArgs).get (createContextPayload_sampleArgs _)
    | _ => (createContextPayload .FIXED sampleArgs).get (createContextPayload_sampleArgs _)
  ring := .replicate 7 .zero
  registrations := ⟨none, fun _ => none⟩

/-- Calls that meet no failure but that of registering buffers, if there is one. -/
def sampleEnv (registered : ℤ) : ManagerEnv :=
  ⟨⟨registered, 1, true⟩, true, true, true, ⟨0, 0⟩, fun _ => true, 0⟩

/-- The only capsule is that of the defaults. -/
theorem sample_capsules {n : ℕ} {a : Capsule} (h : sample.var.capsules.get n = some a) :
    n = 0 ∧ a = ⟨0, 1⟩ := by
  change Function.update (fun _ => none) 0 (some (⟨0, 1⟩ : Capsule)) n = some a at h
  rcases eq_or_ne n 0 with rfl | hn
  · rw [Function.update_self] at h
    exact ⟨rfl, (Option.some.inj h).symm⟩
  · rw [Function.update_of_ne hn] at h
    cases h

/-- The sample managers were not entered yet. -/
theorem sample_initial : Initial sample where
  sound :=
    { injective := fun ha hb _ => (sample_capsules ha).1.trans (sample_capsules hb).1.symm
      live := fun ha => by rw [(sample_capsules ha).2]; rfl
      counted := fun ha => by rw [(sample_capsules ha).2] }
  get := rfl
  tokens _ := rfl
  created
    | 0 => ⟨⟨sampleArgs, (Option.some_get (by decide)).symm⟩, rfl, rfl, fun n a ha => by
        rw [(sample_capsules ha).2]; decide⟩
    | 1 => ⟨sampleArgs, (Option.some_get (by decide)).symm⟩
    | _ + 2 => trivial
  own {o o' p c c'} h h' := by
    match o, o' with
    | 0, 0 => rfl
    | 0, 1 => cases h'
    | 0, _ + 2 => cases h'
    | 1, _ => cases h
    | _ + 2, _ => cases h

/-- All fields are set; then an enter of fixed buffers fails; then the stream strategy is set. -/
def sampleRun : Option (Session ContextState ℕ) :=
  Transition.exec protocol.step (fun s c => Nested s c ∧ Once s c) (.start sample)
    [.enter 0 (sampleEnv 0), .enter 1 (sampleEnv (-16)), .enter 2 (sampleEnv 0)]

/-- In the sample run two managers are entered, and the operations see their values. -/
theorem scoped_sample :
    sampleRun.isSome ∧ ∀ s ∈ sampleRun, s.entered.map (·.object) = [2, 0] ∧ Scoped s ∧
      s.state.getStreamStrategy = some .ONESHOT ∧ s.state.getTransferMode = some .ZERO_COPY := by
  refine ⟨by decide +kernel, fun s hs =>
    ⟨?_, (scoped_of_run sample_initial (.of_exec hs)).1, ?_, ?_⟩⟩
  · exact Transition.exec_eval (f := fun s => s.entered.map (·.object))
      (b := [2, 0]) hs (by decide +kernel)
  · exact Transition.exec_eval (f := fun s => s.state.getStreamStrategy)
      (b := some .ONESHOT) hs (by decide +kernel)
  · exact Transition.exec_eval (f := fun s => s.state.getTransferMode)
      (b := some .ZERO_COPY) hs (by decide +kernel)

end ContextState

end Uringio
