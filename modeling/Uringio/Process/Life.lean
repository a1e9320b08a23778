import Uringio.Lib.Transition
import Uringio.Process.Objects

/-!
# The steps of a process with loop objects

A step is a call on an object, a use of the variable by a manager or a getter, a change of the
contexts, or a descriptor that the rest of the process opens or closes. `Enabled` is what Python and
the kernel keep to: an object is there while it is used, an open descriptor is not given out again,
a context is there while a token refers to it. The program keeps to nothing: a step is enabled
whatever the object has been through.

`init_cases` and `shutdown_cases` say once what an initialization and a shutdown can do.
-/

namespace Uringio

namespace Process

/-- A step, with the choices of its environment. -/
inductive Label
  | new (registry_size : ℤ) (memory object : Bool)
  | init (o c : ℕ) (env : StartEnv)
  | writeToSelf (o : ℕ) (ret : ℤ) (again : Bool)
  | runOnce (o : ℕ) (env : RunEnv)
  | close (o c : ℕ) (env : CloseEnv)
  | clear (o : ℕ)
  /-- The last reference to the object goes. -/
  | dealloc (o c : ℕ) (env : ShutdownEnv)
  /-- An operation reads the context `c`. -/
  | getter (c : ℕ)
  | enter (c : ℕ) (reads : Bool) (own : Except Fault Bool)
  | exit (i c : ℕ) (own : Except Fault Unit)
  /-- `copy_context()`: a new context `c'` with what `c` maps. -/
  | copyContext (c c' : ℕ)
  /-- The last reference to the context goes, as that of a thread does with the thread. -/
  | dropContext (c : ℕ)
  /-- The rest of the process opens a descriptor. -/
  | openOther (fd : ℤ)
  /-- The rest of the process closes a descriptor of its own. -/
  | closeOther (fd : ℤ)

end Process

/-- What the initialization with these surroundings opens, if its object has a ring to write to. -/
def StartEnv.opens (env : StartEnv) : List (ℤ × Opening) :=
  if ¬ env.base ∨ env.ring_fd < 0 then []
  else (env.ring_fd, .ring) ::
    ((if env.piped then [(env.pipe_fd, .pipeRead), (env.pipe_write, .pipeWrite)] else []) ++
      if env.wakeup_fd < 0 then [] else [(env.wakeup_fd, .eventfd)])

/-- The initialization gets a queue. -/
def StartEnv.granted (env : StartEnv) : Bool := env.base ∧ 0 ≤ env.ring_fd

/-- The initialization gets no queue, and leaves the block of the ring blank. -/
def StartEnv.spoils (env : StartEnv) : Bool := env.base ∧ env.ring_fd < 0 ∧ env.touches

/-- The initialization gets the variable, which `var` is before. -/
def StartEnv.obtains (env : StartEnv) (var : Option VarObject) : Bool :=
  env.granted ∧ 0 ≤ env.wakeup_fd ∧ (var.isSome ∨ env.var.created)

/-- What the initialization of the object `o`, with the fields `l`, does. -/
def StartEnv.started (env : StartEnv) (o : ℕ) (l : UringioLoop) (var : Option VarObject) :
    Started where
  loop := o
  granted := env.granted
  piped := env.granted ∧ env.piped
  eventfd := env.granted ∧ 0 ≤ env.wakeup_fd
  lost := env.obtains var ∧ (¬ (env.var.capsule ∧ env.var.set) ∨ l.execution_context_var)
  spoiled := env.spoils

/-- The shutdown tears the ring down. -/
def ShutdownEnv.torn (env : ShutdownEnv) : Bool :=
  match gracefulShutdown env.loop env.drained env.submitted with
  | .error _ => false
  | .ok closed => closed.torn

namespace Process

variable (s : Process)

/-- The object with the number `o`, if it was not deallocated. -/
def object (o : ℕ) : Option UringioLoop := s.loops[o]?.join

/-- An initialization goes into the history. -/
def noteStart (e : Started) : Process :=
  { s with
    started := s.started ++ [e]
    current :=
      if e.granted then Function.update s.current e.loop (some s.started.length) else s.current
    spoiled :=
      if e.granted ∨ e.spoiled then Function.update s.spoiled e.loop e.spoiled else s.spoiled }

/-- A shutdown goes into the history. -/
def noteEnd (o : ℕ) (torn : Bool) : Process :=
  { s with ends := Function.update s.ends o (some torn) }

/-- One step, or the fault that ends the process. -/
def perform : Label → Except Fault Process
  | .new registry_size memory object => .ok (s.uringioLoopNew registry_size memory object).2
  | .init o c env =>
    match s.object o with
    | none => .ok s
    | some l => (s.uringioLoopInit o l c env).map fun r => r.2.noteStart (env.started o l s.var)
  | .writeToSelf .. => .ok s
  | .runOnce o env =>
    match s.object o with
    | none => .ok s
    | some l => (uringioLoopRunOnce l env).map fun _ => s
  | .close o c env =>
    match s.object o with
    | none => .ok s
    | some l => (s.uringioLoopClose o l c env).map fun r =>
        if l.loop_tid = env.tid ∧ l.ring.isSome ∧ env.base then r.2.noteEnd o env.shutdown.torn
        else r.2
  | .clear o =>
    match s.object o with
    | none => .ok s
    | some l => .ok (s.uringioLoopClear o l)
  | .dealloc o c env =>
    match s.object o with
    | none => .ok s
    | some l => (s.uringioLoopDealloc o l c env).map fun s' =>
        if l.ring.isSome then s'.noteEnd o env.torn else s'
  | .getter c => (contextGetter s.var c).map fun _ => s
  | .enter c reads own => (s.enterManager c reads own).map Prod.snd
  | .exit i c own =>
    match s.tokens[i]? with
    | none => .ok s
    | some token => (s.exitManager i token c own).map Prod.snd
  | .copyContext c c' => .ok { s with var := s.var.map fun v => v.put c' (v.held c) }
  | .dropContext c => .ok { s with var := s.var.map fun v => v.put c none }
  | .openOther fd => .ok (s.openFd fd .other)
  | .closeOther fd => .ok (s.closeFd fd)

/-- What Python and the kernel keep to. -/
def Enabled : Label → Prop
  | .init o _ env => (s.object o).isSome ∧ (env.opens.map Prod.fst).Nodup ∧
      ∀ p ∈ env.opens, s.fds p.1 = none
  | .writeToSelf o .. | .runOnce o _ | .clear o | .dealloc o .. => (s.object o).isSome
  | .close o _ env => (s.object o).isSome ∧ 0 < env.tid
  | .exit i _ _ => i < s.tokens.length
  | .copyContext _ c' => ∀ v ∈ s.var, v.held c' = none
  | .dropContext c => ∀ t ∈ s.tokens, t.context ≠ c
  | .openOther fd => 0 ≤ fd ∧ s.fds fd = none
  | .closeOther fd => s.fds fd = some .other
  | .new .. | .getter _ | .enter .. => True

instance (s : Process) : DecidablePred s.Enabled
  | .init .. => inferInstanceAs (Decidable (_ ∧ _ ∧ _))
  | .writeToSelf .. | .runOnce .. | .clear .. | .dealloc .. =>
    inferInstanceAs (Decidable (Option.isSome _ = true))
  | .close .. => inferInstanceAs (Decidable (_ ∧ _))
  | .exit .. => inferInstanceAs (Decidable (_ < _))
  | .copyContext .. => inferInstanceAs (Decidable (∀ v ∈ s.var, _))
  | .dropContext _ => inferInstanceAs (Decidable (∀ t ∈ s.tokens, _))
  | .openOther _ => inferInstanceAs (Decidable (_ ∧ _))
  | .closeOther _ => inferInstanceAs (Decidable (_ = _))
  | .new .. | .getter _ | .enter .. => inferInstanceAs (Decidable True)

/-- One step; `none` where it ends the process. -/
def step (l : Label) : Option Process := (s.perform l).toOption

/-- A process with no loops yet, whose open descriptors are not theirs. -/
def start (fds : ℤ → Bool) : Process where
  fds fd := if fds fd then some .other else none
  loops := []
  var := none
  tokens := []
  started := []
  current _ := none
  spoiled _ := false
  ends _ := none

/-! ## What an initialization does -/

/-- The descriptors after the initialization number `n` opened some. -/
def openAll (fds : ℤ → Option Descriptor) (n : ℕ) (opens : List (ℤ × Opening)) :
    ℤ → Option Descriptor :=
  opens.foldl (fun fds p => Function.update fds p.1 (some (.opened p.2 n))) fds

/-- The fields of the object and the variable after an initialization that got a queue. -/
structure Initialized (s : Process) (l : UringioLoop) (c : ℕ) (env : StartEnv) (r : Reply)
    (l' : UringioLoop) (var : Option VarObject) : Prop where
  /-- The ring has the queue. -/
  ring : l'.ring = some (.queue env.ring_fd)
  /-- The field has what `eventfd` returned. -/
  wakeup_fd : l'.wakeup_fd = env.wakeup_fd
  /-- Without an eventfd the initialization ends there; else it goes on to the variable. -/
  rest : (env.wakeup_fd < 0 ∧ l'.loop_tid = l.loop_tid ∧
      l'.execution_context_var = l.execution_context_var ∧ var = s.var ∧ r = .raises) ∨
    (0 ≤ env.wakeup_fd ∧ l'.loop_tid = env.tid ∧ ∃ got,
      contextVarInit s.var c env.var = .ok (got, var) ∧
      l'.execution_context_var = (l.execution_context_var || got) ∧
      r = if got then .done else .raises)

variable {s} {s' : Process} {o c : ℕ} {l : UringioLoop} {env : StartEnv} {r : Reply}

/-- There is an entry for the read of the eventfd in a new queue. -/
theorem wakeup_result (env : InitEnv) : ¬ (ringPrepWakeupRead (setSignalsHandler ringInit env).2
    env.wakeup_fd env.wakeup_buf env.submitted).result < 0 := by
  have hring : ringInit.free = 256 := by decide +kernel
  obtain ⟨hleft, -⟩ := setSignalsHandler_adds ringInit env
  unfold ringPrepWakeupRead
  cases hget : getSqe (setSignalsHandler ringInit env).2 with
  | none =>
    have hfull := getSqe_eq_none.mp hget
    omega
  | some p => simp

/-- The rest of an initialization, from the variable on. -/
theorem init_rest {t : Process} {l₁ : UringioLoop}
    (h : (match contextVarInit t.var c env.var with
      | .error f => .error f
      | .ok (false, var) => .ok (.raises, { t with var := var }.setLoop o l₁)
      | .ok (true, var) =>
        .ok (.done, { t with var := var }.setLoop o { l₁ with execution_context_var := true })) =
      Except.ok (r, s')) :
    ∃ got var, contextVarInit t.var c env.var = .ok (got, var) ∧
      (r = if got then .done else .raises) ∧ s' = { t with
        var := var
        loops := t.loops.set o (some { l₁ with
          execution_context_var := l₁.execution_context_var || got }) } := by
  cases hvar : contextVarInit t.var c env.var with
  | error f =>
    rw [hvar] at h
    cases h
  | ok p =>
    obtain ⟨got, var⟩ := p
    rw [hvar] at h
    refine ⟨got, var, rfl, ?_⟩
    cases got with
    | false =>
      cases h
      exact ⟨rfl, by simp [setLoop]⟩
    | true =>
      cases h
      exact ⟨rfl, by simp [setLoop]⟩

/-- **What an initialization does** that does not end the process: if it gets no queue, nothing, or
it leaves the block of the ring blank. -/
theorem init_cases (h : s.uringioLoopInit o l c env = .ok (r, s')) :
    (env.granted = false ∧ env.spoils = false ∧ r = .raises ∧ s' = s) ∨
    (env.granted = false ∧ env.spoils = true ∧ l.ring.isSome ∧ r = .raises ∧
      s' = { s with loops := s.loops.set o (some { l with ring := some .blank }) }) ∨
    (env.granted = true ∧ l.ring.isSome ∧ ∃ l' var, Initialized s l c env r l' var ∧
      s' = { s with
        fds := openAll s.fds s.started.length env.opens
        loops := s.loops.set o (some l')
        var := var }) := by
  unfold uringioLoopInit at h
  unfold StartEnv.granted StartEnv.spoils StartEnv.opens
  by_cases hbase : env.base = true
  · by_cases hring : env.ring_fd < 0
    · rw [if_neg (not_not.mpr hbase), if_pos hring] at h
      have hgranted : ¬ 0 ≤ env.ring_fd := Int.not_le.mpr hring
      by_cases htouches : env.touches = true
      · rw [if_neg (not_not.mpr htouches)] at h
        cases hl : l.ring with
        | none =>
          rw [hl] at h
          cases h
        | some block =>
          rw [hl] at h
          cases h
          exact .inr (.inl ⟨by simp [hgranted], by simp [hbase, hring, htouches], rfl, rfl, rfl⟩)
      · rw [if_pos htouches] at h
        cases h
        exact .inl ⟨by simp [hgranted], by simp [htouches], rfl, rfl⟩
    · rw [if_neg (not_not.mpr hbase), if_neg hring] at h
      refine .inr (.inr ⟨by simp [hbase, Int.not_lt.mp hring], ?_⟩)
      cases hl : l.ring with
      | none =>
        rw [hl] at h
        cases h
      | some block =>
        simp only [hl, hbase, hring, not_true_eq_false, or_self, if_false, wakeup_result] at h ⊢
        refine ⟨rfl, ?_⟩
        split at h
        · next hwakeup =>
          -- The kernel has no eventfd.
          cases h
          refine ⟨{ l with ring := some (.queue env.ring_fd), wakeup_fd := env.wakeup_fd }, s.var,
            ⟨rfl, rfl, .inl ⟨hwakeup, rfl, rfl, rfl, rfl⟩⟩, ?_⟩
          cases env.piped <;> simp [setLoop, openFd, openAll, hwakeup]
        · next hwakeup =>
          obtain ⟨got, var, hvar, hr, hs'⟩ := init_rest h
          refine ⟨⟨some (.queue env.ring_fd), env.tid, env.wakeup_fd,
            l.execution_context_var || got⟩, var,
            ⟨rfl, rfl, .inr ⟨Int.not_lt.mp hwakeup, rfl, got, ?_, rfl, hr⟩⟩, ?_⟩
          · cases hp : env.piped <;> simpa [hp, openFd] using hvar
          · rw [hs', if_neg hwakeup]
            cases env.piped <;> simp [openFd, openAll]
  · rw [if_pos hbase] at h
    cases h
    exact .inl ⟨by simp [hbase], by simp [hbase], rfl, rfl⟩

/-- **What a shutdown does** that does not end the process. -/
theorem shutdown_cases {block : RingBlock} {env : ShutdownEnv}
    (h : s.shutdown block c env = .ok s') :
    ∃ ring_fd var, block = .queue ring_fd ∧ contextVarSetNone s.var c env.set = .ok var ∧
      s' = { s with
        fds := if env.torn then Function.update s.fds ring_fd none else s.fds
        var := var } := by
  unfold shutdown at h
  unfold ShutdownEnv.torn
  cases block with
  | blank => cases h
  | queue ring_fd =>
    simp only at h
    cases hclosed : gracefulShutdown env.loop env.drained env.submitted with
    | error f =>
      rw [hclosed] at h
      cases h
    | ok closed =>
      rw [hclosed] at h
      simp only at h
      cases hvar : contextVarSetNone s.var c env.set with
      | error f =>
        rw [hvar] at h
        cases h
      | ok var =>
        rw [hvar] at h
        cases h
        refine ⟨ring_fd, var, rfl, rfl, ?_⟩
        cases htorn : closed.torn <;> simp [closeFd, htorn]

/-! ## What the end of an object does -/

/-- The variable after the object with the fields `l` gave its reference up. -/
def cleared (l : UringioLoop) (var : Option VarObject) : Option VarObject :=
  if l.execution_context_var then var.map VarObject.decref else var

/-- Clearing the variable changes it alone. -/
theorem clearVar_eq (s : Process) (l : UringioLoop) :
    s.clearVar l = { s with var := cleared l s.var } := by
  unfold clearVar cleared
  split <;> rfl

/-- Closing the wakeup closes its descriptor, if there is one. -/
theorem closeWakeup_eq (s : Process) (l : UringioLoop) :
    s.closeWakeup l = { s with
      fds := if 0 ≤ l.wakeup_fd then Function.update s.fds l.wakeup_fd none else s.fds } := by
  unfold closeWakeup
  split <;> rfl

/-- The open descriptors after a shutdown of the object with the fields `l`. -/
def closedFds (fds : ℤ → Option Descriptor) (l : UringioLoop) (ring_fd : ℤ) (torn : Bool) (fd : ℤ) :
    Option Descriptor :=
  if (torn ∧ fd = ring_fd) ∨ (0 ≤ l.wakeup_fd ∧ fd = l.wakeup_fd) then none else fds fd

/-- The eventfd is closed after the ring, or before it. -/
theorem closedFds_close (fds : ℤ → Option Descriptor) (l : UringioLoop) (ring_fd : ℤ)
    (torn : Bool) :
    (let fds := if torn then Function.update fds ring_fd none else fds
      if 0 ≤ l.wakeup_fd then Function.update fds l.wakeup_fd none else fds) =
    closedFds fds l ring_fd torn := by
  funext fd
  unfold closedFds
  cases torn <;> grind [Function.update_apply]

/-- A deallocation closes the wakeup and the ring. -/
theorem closedFds_dealloc (fds : ℤ → Option Descriptor) (l : UringioLoop) (ring_fd : ℤ)
    (torn : Bool) :
    (let fds := if 0 ≤ l.wakeup_fd then Function.update fds l.wakeup_fd none else fds
      if torn then Function.update fds ring_fd none else fds) =
    closedFds fds l ring_fd torn := by
  funext fd
  unfold closedFds
  cases torn <;> grind [Function.update_apply]

/-- **What a close does** that does not end the process: nothing from another thread, on an object
that was closed, or when the base class refuses; else it shuts the object down. -/
theorem close_cases {env : CloseEnv} (hl : s.object o = some l)
    (h : s.perform (.close o c env) = .ok s') :
    s' = s ∨ ∃ ring_fd var, l.loop_tid = env.tid ∧ l.ring = some (.queue ring_fd) ∧
      contextVarSetNone s.var c env.shutdown.set = .ok var ∧ s' = { s with
        fds := closedFds s.fds l ring_fd env.shutdown.torn
        loops := s.loops.set o (some ⟨none, l.loop_tid,
          if 0 ≤ l.wakeup_fd then -1 else l.wakeup_fd, false⟩)
        var := cleared l var
        ends := Function.update s.ends o (some env.shutdown.torn) } := by
  simp only [perform, hl, uringioLoopClose] at h
  by_cases htid : l.loop_tid = env.tid
  · rw [if_neg (not_not.mpr htid)] at h
    cases hring : l.ring with
    | none =>
      simp only [hring, Except.map, Except.ok.injEq] at h
      exact .inl (by simpa using h.symm)
    | some block =>
      rw [hring] at h
      by_cases hbase : env.base = true
      · simp only [hbase, htid, not_true_eq_false, if_false] at h
        cases hshut : s.shutdown block c env.shutdown with
        | error f =>
          rw [hshut] at h
          cases h
        | ok t =>
          obtain ⟨ring_fd, var, rfl, hvar, rfl⟩ := shutdown_cases hshut
          rw [hshut] at h
          refine .inr ⟨ring_fd, var, htid, rfl, hvar, ?_⟩
          rw [← closedFds_close]
          simp only [Except.map, Except.ok.injEq] at h
          rw [← h]
          simp [closeWakeup_eq, clearVar_eq, setLoop, noteEnd, htid]
      · simp only [hbase, Except.map] at h
        exact .inl (by simpa using h.symm)
  · simp only [htid, ne_eq, not_false_eq_true, if_true, Except.map, Except.ok.injEq, false_and,
      if_false] at h
    exact .inl h.symm

/-- **What a deallocation does** that does not end the process. -/
theorem dealloc_cases {env : ShutdownEnv} (hl : s.object o = some l)
    (h : s.perform (.dealloc o c env) = .ok s') :
    (l.ring = none ∧ s' = { s with
      fds := if 0 ≤ l.wakeup_fd then Function.update s.fds l.wakeup_fd none else s.fds
      loops := s.loops.set o none
      var := cleared l s.var }) ∨
    ∃ ring_fd var, l.ring = some (.queue ring_fd) ∧
      contextVarSetNone (cleared l s.var) c env.set = .ok var ∧ s' = { s with
        fds := closedFds s.fds l ring_fd env.torn
        loops := s.loops.set o none
        var := var
        ends := Function.update s.ends o (some env.torn) } := by
  simp only [perform, hl, uringioLoopDealloc] at h
  cases hring : l.ring with
  | none =>
    refine .inl ⟨rfl, ?_⟩
    simp only [hring, Except.map, Except.ok.injEq] at h
    rw [← h]
    simp [closeWakeup_eq, clearVar_eq]
  | some block =>
    rw [hring] at h
    simp only at h
    cases hshut : ((s.clearVar l).closeWakeup l).shutdown block c env with
    | error f =>
      rw [hshut] at h
      cases h
    | ok t =>
      obtain ⟨ring_fd, var, rfl, hvar, rfl⟩ := shutdown_cases hshut
      rw [hshut] at h
      refine .inr ⟨ring_fd, var, rfl, ?_, ?_⟩
      · simpa [closeWakeup_eq, clearVar_eq] using hvar
      · rw [← closedFds_dealloc]
        simp only [Except.map, Except.ok.injEq] at h
        rw [← h]
        simp [closeWakeup_eq, clearVar_eq, noteEnd]

/-! ## What the managers do -/

/-- **What an enter does** that does not end the process: nothing, or it puts a capsule into the
context, and keeps a token. -/
theorem enter_cases {reads : Bool} {own : Except Fault Bool}
    (h : s.enterManager c reads own = .ok (r, s')) :
    s' = s ∨ ∃ v, s.var = some v ∧ s' = { s with
      var := some (v.put c (some .capsule)).incref, tokens := s.tokens ++ [⟨c, v.held c⟩] } := by
  unfold enterManager at h
  split at h
  · cases h
    exact .inl rfl
  · next v hvar =>
    split at h
    · cases h
    · split at h
      · cases h
        exact .inl rfl
      · obtain ⟨ok, -, hok⟩ := map_eq_ok h
        split at hok
        · cases hok
          exact .inr ⟨v, hvar, rfl⟩
        · cases hok
          exact .inl rfl

/-- **An enter** whose own lines end well, in a context that maps the variable to a capsule. -/
theorem enter_step {v : VarObject} {reads ok : Bool} (hv : s.var = some v)
    (hcapsule : v.held c = some .capsule) (halive : v.Alive) :
    s.step (.enter c reads (.ok ok)) = some (if ok then { s with
      var := some (v.put c (some .capsule)).incref, tokens :=
        s.tokens ++ [⟨c, v.held c⟩] } else s) := by
  have hreads : ¬ (reads = true ∧ v.held c ≠ some .capsule) := fun h => h.2 hcapsule
  simp only [step, perform, enterManager, hv]
  rw [if_neg (not_not.mpr halive), if_neg hreads]
  cases ok <;> rfl

/-- **What an exit does** that does not end the process: it gives its token up, with what the
context of the token mapped before. -/
theorem exit_cases {i : ℕ} {token : ManagerToken} {own : Except Fault Unit}
    (h : s.exitManager i token c own = .ok (r, s')) :
    s' = s ∧ s.var = none ∨ ∃ v, s.var = some v ∧ s' = { s with
      var := some (if token.context = c then v.put c token.old_value else v).decref
      tokens := s.tokens.eraseIdx i } := by
  unfold exitManager at h
  split at h
  · next hvar =>
    cases h
    exact .inl ⟨rfl, hvar⟩
  · next v hvar =>
    refine .inr ⟨v, hvar, ?_⟩
    split at h
    · cases h
    · split at h
      · next hother =>
        cases h
        rw [if_neg hother]
      · next hsame =>
        obtain ⟨-, -, hok⟩ := map_eq_ok h
        cases hok
        rw [if_pos (not_not.mp hsame)]

/-- **An exit** whose own lines end well. -/
theorem exit_step {v : VarObject} {i : ℕ} {token : ManagerToken}
    (htoken : s.tokens[i]? = some token)
    (hv : s.var = some v) (halive : v.Alive) :
    s.step (.exit i c (.ok ())) = some { s with
      var := some (if token.context = c then v.put c token.old_value else v).decref
      tokens := s.tokens.eraseIdx i } := by
  simp only [step, perform, htoken, exitManager, hv]
  rw [if_neg (not_not.mpr halive)]
  by_cases hhome : token.context = c
  · rw [if_neg (not_not.mpr hhome), if_pos hhome]
    rfl
  · rw [if_pos hhome, if_neg hhome]
    rfl

end Process

end Uringio
