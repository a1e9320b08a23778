import Uringio.Process.Descriptors

/-!
# The references to the variable

The static pointer to the `ContextVar` is no reference. What keeps the object alive are the loops
that point to it, the tokens of the managers, the contexts that map it, and the references that an
initialization took and nothing gives up: those of an initialization that fails after it got the
variable, and of one that overwrites the pointer of an object that had one (`Counted.step`). When
the last of them goes, the pointer dangles (`variable_of_run`): the next use of the variable, by
whichever loop, is a use of memory that was freed.
-/

namespace Uringio

namespace Process

open Transition (Run exec)

variable {s s' : Process} {o c : ℕ} {l : UringioLoop} {v : VarObject} {var : Option VarObject}

/-- The loop points to the variable. -/
def holds (x : Option UringioLoop) : Bool := x.any UringioLoop.execution_context_var

/-- The number of loops that point to the variable. -/
def holders (s : Process) : ℕ := s.loops.countP holds

/-- The number of references that nothing gives up. -/
def lostRefs (s : Process) : ℕ := s.started.countP Started.lost

/-- The references that are counted, none before there is a variable. -/
def refsOf (var : Option VarObject) : ℕ := (var.map VarObject.refs).getD 0

/-- **The invariant**: every reference has its holder. -/
def Counted (s : Process) : Prop := refsOf s.var = s.holders + s.tokens.length + s.lostRefs

/-! ## The functions of the variable -/

/-- Setting a context's value leaves the count. -/
@[simp] theorem put_refs (v : VarObject) (c : ℕ) (value : Option Held) :
    (v.put c value).refs = v.refs := rfl

/-- Setting a context's value leaves the count of the variable. -/
theorem put_map_refs (var : Option VarObject) (c : ℕ) (value : VarObject → Option Held) :
    refsOf (var.map fun v => v.put c (value v)) = refsOf var := by
  cases var <;> rfl

/-- `ContextVar_init` takes a reference where it gets the variable, and returns it where the block
and the capsule are made and set. -/
theorem contextVarInit_refs {env : VarEnv} {got : Bool} {var' : Option VarObject}
    (h : contextVarInit var c env = .ok (got, var')) :
    refsOf var' = refsOf var + (if var.isSome ∨ env.created then 1 else 0) ∧
      got = decide ((var.isSome ∨ env.created) ∧ env.capsule ∧ env.set) := by
  have hfill : ∀ v : VarObject, contextVarInit.fill c env v = (got, var') →
      refsOf var' = v.refs ∧ got = decide (env.capsule = true ∧ env.set = true) := fun v hv => by
    unfold contextVarInit.fill at hv
    split at hv
    · next hset =>
      cases hv
      exact ⟨rfl, by simp [hset]⟩
    · next hset =>
      cases hv
      exact ⟨rfl, by simpa using hset⟩
  unfold contextVarInit at h
  cases var with
  | none =>
    rw [Except.ok.injEq] at h
    split at h
    · next hcreated =>
      cases h
      simp [hcreated]
    · next hcreated =>
      obtain ⟨hrefs, hgot⟩ := hfill ⟨1, []⟩ h
      rw [hrefs, hgot]
      simp [refsOf, not_not.mp hcreated]
  | some v =>
    simp only at h
    split at h
    · cases h
    · obtain ⟨hrefs, hgot⟩ := hfill v.incref (Except.ok.inj h)
      rw [hrefs, hgot]
      simp [refsOf, VarObject.incref]

/-- `ContextVar_set_none` leaves the count. -/
theorem contextVarSetNone_refs {set : Bool} {var' : Option VarObject}
    (h : contextVarSetNone var c set = .ok var') : refsOf var' = refsOf var := by
  unfold contextVarSetNone at h
  cases var with
  | none =>
    cases h
    rfl
  | some v =>
    simp only at h
    split at h
    · cases h
    · cases h
      split <;> rfl

/-- Clearing the variable drops the object's reference. -/
theorem cleared_refs (l : UringioLoop) (var : Option VarObject) :
    refsOf (cleared l var) = refsOf var - if l.execution_context_var then 1 else 0 := by
  unfold cleared
  split
  · cases var <;> simp [refsOf, VarObject.decref]
  · simp

/-! ## The holders -/

/-- One object has changed. -/
theorem holders_set {x : Option UringioLoop} (hl : s.object o = some l)
    (hloops : s'.loops = s.loops.set o x) :
    s'.holders + (if l.execution_context_var then 1 else 0) =
      s.holders + if holds x then 1 else 0 := by
  obtain ⟨ho, hget⟩ := List.getElem?_eq_some_iff.mp (object_iff.mp hl)
  have hle := List.boole_getElem_le_countP (p := holds) ho
  change _ + (if holds (some l) = true then 1 else 0) = _
  rw [holders, hloops, List.countP_set ho, hget, holders]
  rw [hget] at hle
  omega

/-- There is no holder when no object refers to the variable. -/
theorem holders_eq_zero :
    s.holders = 0 ↔ ∀ o l, s.object o = some l → l.execution_context_var = false := by
  rw [holders, List.countP_eq_zero]
  constructor
  · intro h o l hl
    exact Bool.eq_false_iff.mpr (h (some l) (List.mem_of_getElem? (object_iff.mp hl)))
  · intro h x hx
    obtain ⟨o, ho⟩ := List.mem_iff_getElem?.mp hx
    cases x with
    | none => simp [holds]
    | some l => simp [holds, h o l (object_iff.mpr ho)]

/-! ## Every step -/

/-- An object gives its reference up, if it has one. -/
theorem Counted.release (h : Counted s) {x : Option UringioLoop} (hl : s.object o = some l)
    (hloops : s'.loops = s.loops.set o x) (hx : holds x = false) (htokens : s'.tokens = s.tokens)
    (hstarted : s'.started = s.started)
    (hrefs : refsOf s'.var = refsOf s.var - if l.execution_context_var then 1 else 0) :
    Counted s' := by
  have hholders := holders_set hl hloops
  simp only [hx, Bool.false_eq_true, if_false] at hholders
  have hlost : s'.lostRefs = s.lostRefs := by rw [lostRefs, hstarted, lostRefs]
  unfold Counted at h ⊢
  rw [hrefs, htokens, hlost]
  omega

/-- What a manager does to the variable and to its token. -/
theorem Counted.enter (h : Counted s) {reads : Bool} {own : Except Fault Bool} {r : Reply}
    (henter : s.enterManager c reads own = .ok (r, s')) : Counted s' := by
  rcases enter_cases henter with rfl | ⟨v, hvar, rfl⟩
  · exact h
  · unfold Counted at h ⊢
    simp only [hvar, refsOf, Option.map_some, Option.getD_some] at h
    simp only [refsOf, VarObject.incref, put_refs, Option.map_some, Option.getD_some, holders,
      lostRefs, List.length_append, List.length_singleton] at h ⊢
    omega

/-- Leaving a manager keeps the count. -/
theorem Counted.exit (h : Counted s) {i : ℕ} {token : ManagerToken} {own : Except Fault Unit}
    {r : Reply} (htoken : s.tokens[i]? = some token)
    (hexit : s.exitManager i token c own = .ok (r, s')) : Counted s' := by
  have hi : i < s.tokens.length := (List.getElem?_eq_some_iff.mp htoken).1
  have hlength := List.length_eraseIdx_add_one hi
  rcases exit_cases hexit with ⟨rfl, -⟩ | ⟨v, hvar, rfl⟩
  · exact h
  · -- The token goes, whether it is of this context or not.
    have hrefs : (if token.context = c then v.put c token.old_value else v).refs = v.refs := by
      split <;> rfl
    unfold Counted at h ⊢
    simp only [hvar, refsOf, Option.map_some, Option.getD_some, holders, lostRefs] at h ⊢
    simp only [VarObject.decref, hrefs]
    omega

/-- An initialization that got a queue. -/
theorem Counted.init (h : Counted s) {env : StartEnv} {r : Reply} {l' : UringioLoop}
    (hl : s.object o = some l) (hgranted : env.granted = true)
    (hdone : Initialized s l c env r l' var) (hvar : s'.var = var)
    (hloops : s'.loops = s.loops.set o (some l')) (htokens : s'.tokens = s.tokens)
    (hstarted : s'.started = s.started ++ [env.started o l s.var]) : Counted s' := by
  have hholders := holders_set hl hloops
  have hlost : s'.lostRefs = s.lostRefs + if (env.started o l s.var).lost then 1 else 0 := by
    rw [lostRefs, hstarted, List.countP_append, List.countP_singleton, lostRefs]
  unfold Counted at h ⊢
  rw [hvar, htokens, hlost]
  rcases hdone.rest with ⟨hneg, -, hheld, rfl, -⟩ | ⟨hpos, -, got, hinit, hheld, -⟩
  · -- The variable was not asked for.
    have hno : (env.started o l s.var).lost = false := by
      simp [StartEnv.started, StartEnv.obtains, Int.not_le.mpr hneg]
    simp only [holds, Option.any_some, hheld] at hholders
    simp only [hno, Bool.false_eq_true, if_false]
    omega
  · obtain ⟨hrefs, hgot⟩ := contextVarInit_refs hinit
    have hobtains : env.obtains s.var = decide (s.var.isSome ∨ env.var.created) := by
      simp [StartEnv.obtains, hgranted, hpos]
    simp only [holds, Option.any_some, hheld, hgot] at hholders
    simp only [hrefs, StartEnv.started, hobtains]
    by_cases hobt : s.var.isSome = true ∨ env.var.created = true
    · -- A reference was taken: the object holds it now, or nothing does.
      cases hheld₀ : l.execution_context_var <;>
        by_cases hset : env.var.capsule = true ∧ env.var.set = true <;>
        simp [hobt, hset, hheld₀] at hholders ⊢ <;> omega
    · simp [hobt] at hholders ⊢
      omega

/-- **Step.** -/
theorem Counted.step {lab : Label} (h : Counted s) (hen : s.Enabled lab)
    (hstep : s.step lab = some s') : Counted s' := by
  have hperform := step_iff.mp hstep
  cases lab with
  | new registry_size memory object =>
    cases hperform
    simp only [uringioLoopNew]
    split
    · exact h
    · -- A new object points to nothing.
      have hholders : holds (some ⟨some .blank, 0, 0, false⟩) = false := rfl
      unfold Counted holders at h ⊢
      rw [List.countP_append, List.countP_singleton, hholders]
      exact h
  | init o c env =>
    obtain ⟨hobj, -⟩ := hen
    obtain ⟨l, hl⟩ := Option.isSome_iff_exists.mp hobj
    simp only [perform, hl] at hperform
    obtain ⟨⟨r, t⟩, hinit, rfl⟩ := map_eq_ok hperform
    have hlost : env.granted = false → (env.started o l s.var).lost = false := fun hgranted => by
      simp [StartEnv.started, StartEnv.obtains, hgranted]
    rcases init_cases hinit with ⟨hgranted, -, -, hsame⟩ | ⟨hgranted, -, -, -, hs'⟩ |
      ⟨hgranted, hring, l', var, hdone, hs'⟩
    · rw [hsame]
      unfold Counted at h ⊢
      simpa [noteStart, lostRefs, hlost hgranted, holders] using h
    · -- The block of the ring is no reference.
      have hset : t.loops = s.loops.set o (some { l with ring := some .blank }) := by rw [hs']
      have hholders : t.holders = s.holders := by
        have := holders_set hl hset
        cases hheld : l.execution_context_var <;> simpa [holds, hheld] using this
      rw [hs'] at hholders ⊢
      unfold Counted at h ⊢
      simp only [noteStart, lostRefs, List.countP_append, List.countP_singleton, hlost hgranted,
        Bool.false_eq_true, if_false, holders] at h hholders ⊢
      omega
    · rw [hs']
      exact h.init hl hgranted hdone rfl rfl rfl rfl
  | writeToSelf o ret again =>
    cases hperform
    exact h
  | runOnce o env =>
    obtain ⟨l, hl⟩ := Option.isSome_iff_exists.mp hen
    simp only [perform, hl] at hperform
    obtain ⟨-, -, rfl⟩ := map_eq_ok hperform
    exact h
  | close o c env =>
    obtain ⟨l, hl⟩ := Option.isSome_iff_exists.mp hen.1
    rcases close_cases hl hperform with rfl | ⟨ring_fd, var, -, hring, hvar, rfl⟩
    · exact h
    · refine h.release hl rfl rfl rfl rfl ?_
      rw [cleared_refs, contextVarSetNone_refs hvar]
  | clear o =>
    obtain ⟨l, hl⟩ := Option.isSome_iff_exists.mp hen
    simp only [perform, hl, uringioLoopClear, clearVar_eq, setLoop, Except.ok.injEq] at hperform
    subst hperform
    exact h.release hl rfl rfl rfl rfl (cleared_refs l s.var)
  | dealloc o c env =>
    obtain ⟨l, hl⟩ := Option.isSome_iff_exists.mp hen
    rcases dealloc_cases hl hperform with ⟨hring, rfl⟩ | ⟨ring_fd, var, hring, hvar, rfl⟩
    · exact h.release hl rfl rfl rfl rfl (cleared_refs l s.var)
    · refine h.release hl rfl rfl rfl rfl ?_
      rw [contextVarSetNone_refs hvar, cleared_refs]
  | getter c =>
    obtain ⟨-, -, rfl⟩ := map_eq_ok hperform
    exact h
  | enter c reads own =>
    obtain ⟨⟨r, t⟩, henter, rfl⟩ := map_eq_ok hperform
    exact h.enter henter
  | exit i c own =>
    simp only [perform] at hperform
    split at hperform
    · cases hperform
      exact h
    · next token htoken =>
      obtain ⟨⟨r, t⟩, hexit, rfl⟩ := map_eq_ok hperform
      exact h.exit htoken hexit
  | copyContext c c' =>
    cases hperform
    unfold Counted at h ⊢
    rw [put_map_refs]
    exact h
  | dropContext c =>
    cases hperform
    unfold Counted at h ⊢
    rw [put_map_refs]
    exact h
  | openOther fd =>
    cases hperform
    exact h
  | closeOther fd =>
    cases hperform
    exact h

/-- At the start the count is right. -/
theorem counted_start (fds : ℤ → Bool) : Counted (start fds) := rfl

/-- The variable was created, and nothing keeps it alive any more. -/
def Dangling (s : Process) : Prop :=
  ∃ v ∈ s.var, (∀ o l, s.object o = some l → l.execution_context_var = false) ∧ s.tokens = [] ∧
    (∀ e ∈ s.started, e.lost = false) ∧ v.contexts = []

/-- A pointer dangles when no holder is left. -/
theorem Counted.dangling_iff (h : Counted s) : s.Dangling ↔ ∃ v ∈ s.var, ¬ v.Alive := by
  refine exists_congr fun v => and_congr_right fun hv => ?_
  have hrefs : v.refs = s.holders + s.tokens.length + s.lostRefs := by
    rw [Option.mem_def] at hv
    simpa only [Counted, refsOf, hv, Option.map_some, Option.getD_some] using h
  have hlost : s.lostRefs = 0 ↔ ∀ e ∈ s.started, e.lost = false := by
    simp [lostRefs, List.countP_eq_zero]
  rw [← holders_eq_zero, ← hlost, ← List.length_eq_zero_iff
    (l := s.tokens), VarObject.Alive, not_or,
    not_not, Nat.not_lt, Nat.le_zero, hrefs]
  constructor
  · rintro ⟨hholders, htokens, hlost, hcontexts⟩
    exact ⟨by omega, hcontexts⟩
  · rintro ⟨hzero, hcontexts⟩
    exact ⟨by omega, by omega, by omega, hcontexts⟩

/-- **Run.** -/
theorem counted_of_run {fds : ℤ → Bool} (hrun : Run step Enabled (start fds) s) : Counted s :=
  hrun.invariant (counted_start fds) fun _ _ _ h hen hstep => h.step hen hstep

/-- **The references to the variable.** In every state that a process reaches, each reference is one
of a loop, of a token, or one that an initialization lost; and the pointer dangles exactly when
there is none of them and no context maps the variable. -/
theorem variable_of_run {fds : ℤ → Bool} (hrun : Run step Enabled (start fds) s)
    (hv : s.var = some v) :
    v.refs = s.holders + s.tokens.length + s.lostRefs ∧ (¬ v.Alive ↔ s.Dangling) := by
  have h := counted_of_run hrun
  refine ⟨by simpa only [Counted, refsOf, hv, Option.map_some, Option.getD_some] using h, ?_⟩
  rw [h.dangling_iff, hv]
  simp

/-- A thread runs a loop in its own context, closes it, and ends. -/
def threadOver : Option Process :=
  exec step Enabled (start fun fd => fd < 3)
    [.new 0 true true, .init 0 1 (sampleStart 3), .close 0 1 ⟨1, true, sampleShutdown⟩,
      .dropContext 1]

/-- The variable is gone, and the static pointer is not null. -/
theorem variable_threadOver : threadOver.isSome ∧ ∀ s ∈ threadOver,
    ∃ v, s.var = some v ∧ v.refs = s.holders + s.tokens.length + s.lostRefs ∧ s.Dangling := by
  refine ⟨by decide +kernel, fun s hs => ?_⟩
  have hvar : s.var.map (fun v => (v.refs, v.contexts)) = some (0, []) :=
    Transition.exec_eval (f := fun s => s.var.map fun v => (v.refs, v.contexts)) hs
      (by decide +kernel)
  obtain ⟨v, hv, heq⟩ := Option.map_eq_some_iff.mp hvar
  obtain ⟨hrefs, hdangling⟩ := variable_of_run (.of_exec hs) hv
  refine ⟨v, hv, hrefs, hdangling.mp ?_⟩
  obtain ⟨hzero, hcontexts⟩ := Prod.mk.inj heq
  rw [VarObject.Alive, hzero, hcontexts]
  simp

end Process

end Uringio
