import Uringio.Buffers.Freed

/-!
# When construction fails

Where an allocation or an acquisition fails on the way, the constructors of one array and
`get_or_create_vectored_buffer` return `NULL` and hold nothing more than before. The constructors of
both arrays hand a payload whose mode is not set to the destructor, which reads it. The functions
that allocate a payload before they look at its arrays are all or nothing only if that allocation is
the one that fails: `get_or_create_linear_buffer` returns a payload without its array, and
`create_buffer_payload` keeps the payload.
-/

namespace Uringio.Blocks

open Ledger

/-- A payload as `create_buffer_payload` hands it to the constructors: its mode is not set. -/
abbrev Unset := { payload : Payload // payload.mode = none }

/-- The constructors, with their arguments. -/
inductive Routine
  | createLinear (len bufsize : ℤ) (payload : Payload)
  | serializeLinear (len : ℤ) (payload : Payload)
  | createVectored (len bufsize : ℤ) (payload : Payload)
  | serializeVectored (n : ℕ) (payload : Payload)
  | makeBuffers (len bufsize : ℤ) (payload : Unset)
  | serializeBuffers (len : ℤ) (payload : Unset)
  | getOrCreateLinear (context : Option Payload) (sequence : Option ℕ) (bufsize : ℤ)
  | getOrCreateVectored (context : Option Payload) (sequence : Option ℕ)
  | create (r : Request)

/-- The call: whether it returns a pointer that is not null. -/
def Routine.run (env : BuildEnv) : Routine → Build Bool
  | createLinear len bufsize payload => do
    let (linear, _) ← createLinearBuffers env len bufsize payload
    pure linear.isSome
  | serializeLinear len payload => do
    let (linear, _) ← serializeLinearBuffers env len payload
    pure linear.isSome
  | createVectored len bufsize payload => do
    let (vector, _) ← createVectoredBuffers env len bufsize payload
    pure vector.isSome
  | serializeVectored n payload => do
    let (vector, _) ← serializeVectoredBuffers env n payload
    pure vector.isSome
  | makeBuffers len bufsize payload => do
    let payload ← Blocks.makeBuffers env len bufsize payload
    pure payload.isSome
  | serializeBuffers len payload => do
    let payload ← Blocks.serializeBuffers env len payload
    pure payload.isSome
  | getOrCreateLinear context sequence bufsize => do
    let payload ← getOrCreateLinearBuffer env context sequence bufsize
    pure payload.isSome
  | getOrCreateVectored context sequence => do
    let payload ← getOrCreateVectoredBuffer env context sequence
    pure payload.isSome
  | create r => do
    let payload ← r.create env
    pure payload.isSome

/-- Something fails on the way. -/
def Routine.Fails (routine : Routine) (env : BuildEnv) (s : Books Resource Count) : Prop :=
  s.rest.failures < (routine.run env s).2.rest.failures

/-- The call returns `NULL`, and what is held is what was held before. -/
def Routine.Nothing (routine : Routine) (env : BuildEnv) (s : Books Resource Count) : Prop :=
  (routine.run env s).1 = .ok false ∧ (routine.run env s).2.held = s.held

/-- The calls that unwind: the constructors of one array, `get_or_create_vectored_buffer`, and the
functions that allocate a payload, when that is what fails. -/
def Routine.Unwinds (env : BuildEnv) (s : Books Resource Count) : Routine → Prop
  | createLinear .. | serializeLinear .. | createVectored .. | serializeVectored .. => True
  | makeBuffers .. | serializeBuffers .. => False
  | getOrCreateLinear .. | create _ => env.fails s.rest.requests = true
  | getOrCreateVectored .. => True

variable {env : BuildEnv} {s : Books Resource Count} {t : Count}

/-! ## Routine by routine -/

/-- Where something fails, nothing is returned and held exactly if `Q` holds. -/
def Judged (Q : Prop) (t : Count) (o : Except Undefined Bool) (P' : Multiset Resource)
    (t' : Count) : Prop :=
  t.failures < t'.failures → ((o = .ok false ∧ P' = 0) ↔ Q)

variable {Q : Prop} {o : Except Undefined Bool} {P' : Multiset Resource} {t' : Count}

/-- Without a failure there is nothing to judge. -/
theorem judged_of_smooth (h : t'.failures = t.failures) : Judged Q t o P' t' :=
  fun hlt => absurd h (by omega)

/-- Nothing was returned, and nothing is held. -/
theorem judged_nothing (hQ : Q) : Judged Q t (.ok false) 0 t' :=
  fun _ => iff_of_true ⟨rfl, rfl⟩ hQ

/-- A fault is not nothing. -/
theorem judged_fault {e : Undefined} (hQ : ¬ Q) : Judged Q t (.error e) P' t' :=
  fun _ => iff_of_false (fun h => by cases h.1) hQ

/-- **A call** is judged by what its program leads to. -/
theorem Routine.nothing_of_judged {routine : Routine} (hfails : routine.Fails env s)
    (h : Leads (routine.run env) 0 s.rest (Judged Q s.rest)) : routine.Nothing env s ↔ Q := by
  obtain ⟨o, P', t', hrun, hjudged⟩ := h.run
  unfold Routine.Fails at hfails
  unfold Routine.Nothing
  rw [hrun] at hfails ⊢
  have hzero : P' + s.held = s.held ↔ P' = 0 := by rw [add_eq_right]
  rw [hzero]
  exact hjudged hfails

/-- **`create_linear_buffers`** unwinds. -/
theorem judged_createLinear (env : BuildEnv) (len bufsize : ℤ) (payload : Payload) (t : Count) :
    Leads ((Routine.createLinear len bufsize payload).run env) 0 t (Judged True t) :=
  leads_createLinearBuffers (fun _ _ => .pure (judged_nothing trivial))
    (fun _ _ hbare => judged_of_smooth hbare.took.failures)
    fun _ _ _ _ _ hbuilt _ => .pure (judged_of_smooth hbuilt.failures)

/-- **`serialize_linear_buffers`** unwinds. -/
theorem judged_serializeLinear (env : BuildEnv) (len : ℤ) (payload : Payload) (t : Count) :
    Leads ((Routine.serializeLinear len payload).run env) 0 t (Judged True t) :=
  leads_serializeLinearBuffers (fun _ _ => .pure (judged_nothing trivial))
    (fun _ _ hbare => judged_of_smooth hbare.took.failures)
    fun _ _ _ _ _ (hbuilt : Built env t _ _ 0 _ _) _ => .pure (judged_of_smooth hbuilt.failures)

/-- **`create_vectored_buffers`** unwinds. -/
theorem judged_createVectored (env : BuildEnv) (len bufsize : ℤ) (payload : Payload) (t : Count) :
    Leads ((Routine.createVectored len bufsize payload).run env) 0 t (Judged True t) :=
  leads_createVectoredBuffers (fun _ _ => .pure (judged_nothing trivial))
    fun _ _ _ _ _ _ hbuilt _ => .pure (judged_of_smooth hbuilt.failures)

/-- **`serialize_vectored_buffers`** unwinds. -/
theorem judged_serializeVectored (env : BuildEnv) (n : ℕ) (payload : Payload) (t : Count) :
    Leads ((Routine.serializeVectored n payload).run env) 0 t (Judged True t) :=
  leads_serializeVectoredBuffers rfl (fun _ _ => .pure (judged_nothing trivial))
    fun _ _ _ _ _ _ (hbuilt : Built env t _ _ 0 _ _) _ => .pure (judged_of_smooth hbuilt.failures)

/-- **`make_buffers`** does not. -/
theorem judged_makeBuffers (env : BuildEnv) (len bufsize : ℤ) (payload : Unset) (t : Count) :
    Leads ((Routine.makeBuffers len bufsize payload).run env) 0 t (Judged False t) :=
  leads_makeBuffers (fun _ _ _ => leads_abandon payload.2 (judged_fault not_false))
    (fun _ _ _ _ hhalf => leads_abandon (hhalf.mode.trans payload.2) (judged_fault not_false))
    fun _ _ _ _ _ _ _ hbuilt _ _ => .pure (judged_of_smooth hbuilt.failures)

/-- **`serialize_buffers`** does not. -/
theorem judged_serializeBuffers (env : BuildEnv) (len : ℤ) (payload : Unset) (t : Count) :
    Leads ((Routine.serializeBuffers len payload).run env) 0 t (Judged False t) :=
  leads_serializeBuffers (fun _ _ _ => leads_abandon payload.2 (judged_fault not_false))
    (fun _ _ _ _ hhalf => leads_abandon (hhalf.mode.trans payload.2) (judged_fault not_false))
    (fun _ _ hbare => judged_of_smooth hbare.took.failures)
    fun _ _ _ _ _ _ _ (hbuilt : Built env t _ _ 0 _ _) _ _ =>
      .pure (judged_of_smooth hbuilt.failures)

/-- A call that the context may serve is judged by the call that makes a payload. -/
theorem judged_serves {serves : Build Bool} {context : Option Payload}
    {make : Build (Option Payload)}
    (hserves : serves = stop .uninitialised ∨ ∃ b, serves = pure b)
    (h : Leads (make >>= fun payload => pure payload.isSome) 0 t (Judged Q t)) :
    Leads ((serves >>= fun b => if b then pure context else make) >>=
      fun payload => pure payload.isSome) 0 t (Judged Q t) := by
  rcases hserves with rfl | ⟨b, rfl⟩
  · exact .stop (judged_of_smooth rfl)
  · rw [pure_bind]
    cases b with
    | true => exact .pure (judged_of_smooth rfl)
    | false => exact h

/-- **`get_or_create_linear_buffer`** does where the payload is what cannot be allocated. -/
theorem judged_getOrCreateLinear (env : BuildEnv) (context : Option Payload)
    (sequence : Option ℕ) (bufsize : ℤ) (t : Count) :
    Leads ((Routine.getOrCreateLinear context sequence bufsize).run env) 0 t
      (Judged (env.fails t.requests = true) t) := by
  refine judged_serves (serves_cases ..) ?_
  refine (leads_newLinearBuffer env sequence bufsize t).bind (fun payload P' t' h => ?_)
    fun e P' t' h => ?_
  · rcases h with ⟨⟨_, hnone, rfl⟩, hdenied⟩ | ⟨_, hgranted, p, hp⟩ | ⟨hsmooth, _⟩
    · cases hnone
      exact .pure (judged_nothing hdenied)
    · cases hp
      exact .pure fun _ => iff_of_false (fun h => by cases h.1) (by simp [hgranted])
    · exact .pure (judged_of_smooth hsmooth)
  · rcases h with ⟨⟨_, hnone, _⟩, _⟩ | ⟨_, _, p, hp⟩ | ⟨_, p, hp, _⟩
    · cases hnone
    · cases hp
    · cases hp

/-- **`get_or_create_vectored_buffer`** unwinds. -/
theorem judged_getOrCreateVectored (env : BuildEnv) (context : Option Payload)
    (sequence : Option ℕ) (t : Count) :
    Leads ((Routine.getOrCreateVectored context sequence).run env) 0 t (Judged True t) := by
  refine judged_serves (serves_cases ..) ?_
  refine (leads_newVectoredBuffer env sequence t).bind (fun payload P' t' h => ?_)
    fun e P' t' h => ?_
  · rcases h with ⟨_, hnone, rfl⟩ | ⟨hsmooth, _⟩
    · cases hnone
      exact .pure (judged_nothing trivial)
    · exact .pure (judged_of_smooth hsmooth)
  · rcases h with ⟨_, hnone, _⟩ | ⟨_, p, hp, _⟩
    · cases hnone
    · cases hp

/-- **`create_buffer_payload`** does where the payload is what cannot be allocated. -/
theorem judged_create (env : BuildEnv) (r : Request) (t : Count) :
    Leads ((Routine.create r).run env) 0 t (Judged (env.fails t.requests = true) t) := by
  refine (leads_create env r t).bind (fun payload P' t' h => ?_) fun e P' t' h => ?_
  · cases h with
    | denied _ hdenied => exact .pure (judged_nothing hdenied)
    | leaked _ hgranted hheld =>
      refine .pure fun _ => iff_of_false (fun h => ?_) (by simp [hgranted])
      rw [h.2] at hheld
      exact absurd hheld (Multiset.notMem_zero _)
    | linear _ _ _ hbuilt => exact .pure (judged_of_smooth hbuilt.failures)
    | both _ _ hbuilt => exact .pure (judged_of_smooth hbuilt.failures)
    | twice _ _ hfirst _ hbuilt =>
      exact .pure (judged_of_smooth (hbuilt.failures.trans hfirst.failures))
  · cases h with
    | divided => exact judged_of_smooth rfl
    | unwound _ hgranted => exact judged_fault (by simp [hgranted])
    | outside _ hfailures => exact judged_of_smooth hfailures

/-- **All or nothing**: where something fails, a call returns `NULL` and holds nothing more than
before exactly if it is one of those that unwind. -/
theorem Routine.nothing_iff {routine : Routine} (hfails : routine.Fails env s) :
    routine.Nothing env s ↔ routine.Unwinds env s := by
  cases routine with
  | createLinear len bufsize payload =>
    exact nothing_of_judged hfails (judged_createLinear env len bufsize payload _)
  | serializeLinear len payload =>
    exact nothing_of_judged hfails (judged_serializeLinear env len payload _)
  | createVectored len bufsize payload =>
    exact nothing_of_judged hfails (judged_createVectored env len bufsize payload _)
  | serializeVectored n payload =>
    exact nothing_of_judged hfails (judged_serializeVectored env n payload _)
  | makeBuffers len bufsize payload =>
    exact nothing_of_judged hfails (judged_makeBuffers env len bufsize payload _)
  | serializeBuffers len payload =>
    exact nothing_of_judged hfails (judged_serializeBuffers env len payload _)
  | getOrCreateLinear context sequence bufsize =>
    exact nothing_of_judged hfails (judged_getOrCreateLinear env context sequence bufsize _)
  | getOrCreateVectored context sequence =>
    exact nothing_of_judged hfails (judged_getOrCreateVectored env context sequence _)
  | create r => exact nothing_of_judged hfails (judged_create env r _)

/-- Every item can be fetched, but the one at position `1` has no buffer. -/
def BuildEnv.second : BuildEnv := ⟨fun _ => false, fun _ _ => true,
  fun _ i => if i = 1 then none else some ⟨16 * i, 16⟩⟩

/-- The second of three acquisitions fails: the first view and the arrays are given back. -/
theorem Routine.second_nothing :
    (Routine.serializeLinear 3 (.new 0)).Nothing .second Books.start :=
  (Routine.nothing_iff (by unfold Routine.Fails; decide +kernel)).mpr trivial

/-- Only the first allocation goes through. -/
def BuildEnv.scarce : BuildEnv := ⟨fun n => decide (n ≠ 0), fun _ _ => true, fun _ _ => none⟩

/-- The array cannot be allocated, and the payload is returned. -/
theorem Routine.scarce_not_nothing :
    (Routine.getOrCreateLinear none none 16).Fails .scarce Books.start ∧
      (Routine.getOrCreateLinear none none 16).run .scarce Books.start =
        (.ok true, ⟨{.block 0}, ⟨2, 0, 1, []⟩⟩) ∧
      ¬ (Routine.getOrCreateLinear none none 16).Nothing .scarce Books.start := by
  have hrun : (Routine.getOrCreateLinear none none 16).run .scarce Books.start =
      (.ok true, ⟨{.block 0}, ⟨2, 0, 1, []⟩⟩) := rfl
  refine ⟨?_, hrun, ?_⟩
  · unfold Routine.Fails
    rw [hrun]
    decide
  · rintro ⟨hnull, -⟩
    rw [hrun] at hnull
    cases hnull

end Uringio.Blocks
