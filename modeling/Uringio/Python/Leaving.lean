import Uringio.Python.Rejected

/-!
# Leaving an `async with` on an exception

`UringioFile_aexit` and `UringioSocket_aexit`, when the body of the `async with` raised: if the
close cannot be started, `_raise_file_exception_group` or `_raise_socket_exception_group` merges the
exception that is pending with the one of the body. The two functions are copies, down to the
message of the group.

Where nothing is pending, which is the exit for a full registry, the body's exception is restored
(`raiseExceptionGroupOf`). Else an `ExceptionGroup` is built of both, and its constructor takes
instances of `Exception` only: a `CancelledError`, a `KeyboardInterrupt` or a `SystemExit` among the
two is answered with a `TypeError`, and that is what `__aexit__` raises. So the body's exception
survives exactly if the registry was full or both exceptions can be in a group (`aexit_keeps_iff`).

The functions are those of the entry points, with the exceptions as objects (`run_aexit`).
-/

namespace Uringio

/-- An exception object. -/
structure Exc where
  /-- The identity of the object. -/
  id : ℕ
  /-- It is an instance of `Exception`, not only of `BaseException`. -/
  isException : Bool
  deriving DecidableEq

/-- The exception that a function leaves pending. -/
inductive Raised
  | exc (e : Exc)
  | group (message : String) (members : List Exc)
  /-- The `TypeError` of the constructor of `ExceptionGroup`. -/
  | typeError
  deriving DecidableEq

/-- `ExceptionGroup(message, members)`, raised: the group, or the error of its constructor. -/
def exceptionGroup (message : String) (members : List Exc) : Raised :=
  if members.all Exc.isException then .group message members else .typeError

/-- `_raise_file_exception_group` and `_raise_socket_exception_group`: `pending` is what
`PyErr_Fetch` finds. -/
def raiseExceptionGroupOf (pending : Option Exc) (body : Exc) : Raised :=
  match pending with
  | none => .exc body
  | some close =>
    exceptionGroup "socket close failed while handling another exception" [body, close]

/-- What is raised is the body's exception, or a group of it and the close failure. -/
def Raised.Keeps (body : Exc) : Raised → Prop
  | .exc e => e = body
  | .group _ members => ∃ close, members = [body, close]
  | .typeError => False

/-- The object of an `async with`. -/
inductive Holder
  | file (f : FileRef)
  | socket (s : SocketRef)
  deriving DecidableEq

namespace Holder

/-- The call proper of `__aexit__`. -/
def op : Holder → Op
  | .file f => .aexitFile f
  | .socket s => .aexitSocket s

/-- `_check_file_result` or `_check_sockets_result`. -/
def checkResult : Holder → ℤ → Option PyExc
  | .file _ => checkFileResult
  | .socket _ => checkSocketsResult

/-- The call of `__aexit__` after an exception of the body. -/
def request : Holder → PyRequest
  | .file f => .aexitFile f true
  | .socket s => .aexitSocket s true

end Holder

/-- `__aexit__` after the exception `body`: what it raises, `none` when it returns its future.
`created` is the exception of `create_future`, `none` when that returns a future; `close` is the
`RuntimeError` object of a failed submission, by its identity. -/
def aexit (L : Loop) (ctx : ExecutionContext) (env : CallEnv) (self : Holder) (created : Option Exc)
    (close : ℕ) (body : Exc) : Except Fault (Option Raised) :=
  match created with
  | some e => .ok (some (raiseExceptionGroupOf (some e) body))
  | none => do
    let c ← L.call ctx self.op env
    if c.future.isSome then .ok none
    else if c.request_idx < 0 then .ok (some (raiseExceptionGroupOf none body))
    else
      .ok (some (raiseExceptionGroupOf ((self.checkResult c.result).map fun _ => ⟨close, true⟩)
        body))

variable {L : Loop} {ctx : ExecutionContext} {env : CallEnv} {c : Called} {self : Holder}

/-- A group is built exactly if both exceptions may be in it. -/
theorem keeps_exceptionGroup {message : String} {body close : Exc} :
    (exceptionGroup message [body, close]).Keeps body ↔
      body.isException = true ∧ close.isException = true := by
  unfold exceptionGroup
  simp only [List.all_cons, List.all_nil, Bool.and_true, Bool.and_eq_true]
  split
  · next hboth => exact iff_of_true ⟨close, rfl⟩ hboth
  · next hnot => exact iff_of_false id hnot

/-- A tagged operation fails in one of two ways. -/
theorem submitRequest_cases {ring : Ring} {request_idx r : ℤ} {call : PrepCall} {set : Sqe → Sqe}
    {timeout_params : TimeoutParams} :
    let s := submitRequest ring request_idx call set timeout_params r
    s.result = -1 ∨ s.result = 0 ∨ s.result = 1 := by
  unfold submitRequest submitOp
  cases sqeWithOptionalTimeout ring (some timeout_params) with
  | error ring' => exact .inl rfl
  | ok p =>
    simp only [fillAndSubmit]
    split
    · exact .inr (.inl rfl)
    · exact .inr (.inr rfl)

/-- How an attempt fails: it finds no slot, or its dispatcher fails. -/
theorem attempt_null {a : Attempt}
    (hd : ∀ M idx d, a.dispatch M idx = .ok d →
      d.submission.result = -1 ∨ d.submission.result = 0 ∨ d.submission.result = 1)
    (h : L.attempt a = .ok c) (hnull : c.future = none) :
    (L.registry.available_indices.entries = [] ∧ c.request_idx < 0) ∨
      (L.registry.available_indices.entries ≠ [] ∧ 0 ≤ c.request_idx ∧
        (c.result = -1 ∨ c.result = 0)) := by
  unfold Loop.attempt at h
  rcases registryAdd_cases L.registry a.request with
    ⟨hempty, hadd⟩ | ⟨idx, reg, hadd, hr, hstack, -⟩
  · rw [hadd] at h
    simp only [show (-1 : ℤ) < 0 by decide, if_true, Except.ok.injEq] at h
    subst h
    exact .inl ⟨hempty, (by decide : (-1 : ℤ) < 0)⟩
  · have hpos : 0 ≤ idx := hr.1
    have hslot : L.registry.available_indices.entries ≠ [] := by
      rw [hstack]
      exact List.append_ne_nil_of_right_ne_nil _ (List.cons_ne_nil _ _)
    rw [hadd] at h
    simp only [show ¬ idx < 0 by omega, if_false] at h
    obtain ⟨d, hdispatch, h⟩ := bind_eq_ok.mp h
    have hresult := hd _ _ _ hdispatch
    split at h
    · obtain ⟨L₂, -, h⟩ := bind_eq_ok.mp h
      cases h
      exact .inr ⟨hslot, hpos, by simp only; omega⟩
    · cases h
      cases hnull

/-- How the close of an `__aexit__` fails. -/
theorem aexit_null (h : L.call ctx self.op env = .ok c) (hnull : c.future = none) :
    (L.registry.available_indices.entries = [] ∧ c.request_idx < 0) ∨
      (L.registry.available_indices.entries ≠ [] ∧ 0 ≤ c.request_idx ∧
        (c.result = -1 ∨ c.result = 0)) := by
  cases self with
  | file f =>
    refine attempt_null (fun M idx d hd => ?_) h hnull
    cases hd
    exact submitRequest_cases
  | socket s =>
    refine attempt_null (fun M idx d hd => ?_) h hnull
    cases hd
    exact submitRequest_cases

/-- A failure of the close sets an exception. -/
theorem checkResult_of_failed {r : ℤ} (h : r = -1 ∨ r = 0) : ∃ e, self.checkResult r = some e := by
  cases self <;> rcases h with rfl | rfl <;> exact ⟨_, rfl⟩

/-- **When the body's exception survives a failed exit**: exactly if the exit failed because the
registry was full, which leaves nothing pending, or if the body's exception and the one of
`create_future`, if that raised, are instances of `Exception`. -/
theorem aexit_keeps_iff {created : Option Exc} {close : ℕ} {body : Exc} {raised : Raised}
    (h : aexit L ctx env self created close body = .ok (some raised)) :
    raised.Keeps body ↔
      (created = none ∧ L.registry.available_indices.entries = []) ∨
        (body.isException = true ∧ ∀ e ∈ created, e.isException = true) := by
  unfold aexit at h
  cases created with
  | some e =>
    cases h
    rw [raiseExceptionGroupOf, keeps_exceptionGroup]
    simp
  | none =>
    obtain ⟨c, hcall, h⟩ := bind_eq_ok.mp h
    cases hfuture : c.future with
    | some future => simp [hfuture] at h
    | none =>
      simp only [hfuture, Option.isSome_none, Bool.false_eq_true, if_false] at h
      rcases aexit_null hcall hfuture with ⟨hfull, hidx⟩ | ⟨hslot, hidx, hresult⟩
      · rw [if_pos hidx] at h
        cases h
        exact iff_of_true rfl (.inl ⟨rfl, hfull⟩)
      · obtain ⟨e, he⟩ : ∃ e, self.checkResult _ = some e := checkResult_of_failed hresult
        rw [if_neg (by omega), he] at h
        cases h
        rw [Option.map_some, raiseExceptionGroupOf, keeps_exceptionGroup]
        simp [hslot]

/-- The body of an `async with` over a file raises `ValueError`, and the submission of the close
fails: the group has both exceptions. -/
theorem aexit_keeps_ordinary : ∃ raised,
    aexit (Loop.init 8 (by decide) Sample.world Sample.initEnv).1 Sample.context
        { Sample.callEnv with submitted := -9 } (.file 0) none 2 ⟨1, true⟩ = .ok (some raised) ∧
      raised.Keeps ⟨1, true⟩ := by
  obtain ⟨o, hrun, ho⟩ := toOption_map_eq_some.mp
    (show (aexit (Loop.init 8 (by decide) Sample.world Sample.initEnv).1 Sample.context
      { Sample.callEnv with submitted := -9 } (.file 0) none 2 ⟨1, true⟩).toOption.map id =
        some (some (.group "socket close failed while handling another exception"
          [⟨1, true⟩, ⟨2, true⟩])) by decide +kernel)
  cases ho
  exact ⟨_, hrun, (aexit_keeps_iff hrun).mpr (.inr ⟨rfl, by simp⟩)⟩

/-- The body is cancelled, and the submission of the close fails: `CancelledError` is no instance of
`Exception`, and `__aexit__` raises the `TypeError` of the constructor. -/
theorem aexit_loses_cancellation :
    ∃ raised,
      aexit (Loop.init 8 (by decide) Sample.world Sample.initEnv).1 Sample.context
          { Sample.callEnv with submitted := -9 } (.file 0) none 2 ⟨1, false⟩ = .ok (some raised) ∧
        raised = .typeError ∧ ¬ raised.Keeps ⟨1, false⟩ := by
  obtain ⟨o, hrun, ho⟩ := toOption_map_eq_some.mp
    (show (aexit (Loop.init 8 (by decide) Sample.world Sample.initEnv).1 Sample.context
      { Sample.callEnv with submitted := -9 } (.file 0) none 2 ⟨1, false⟩).toOption.map id =
        some (some .typeError) by decide +kernel)
  cases ho
  exact ⟨_, hrun, rfl, id⟩

/-! ## The entry points -/

/-- An exception of the entry points stands for one of the objects. -/
def Raised.StandsFor : Raised → PyExc → Prop
  | .exc _, .body => True
  | .group _ _, .group _ => True
  | .typeError, .raised => True
  | _, _ => False

/-- Both models build the group of the same exceptions. -/
theorem standsFor_group {env : PyEnv} {pending : Option PyExc} {failure : Option Exc} {body : Exc}
    (hsome : pending.isSome = failure.isSome)
    (hgroups : ∀ e ∈ failure, env.groups = (body.isException && e.isException)) :
    (raiseExceptionGroupOf failure body).StandsFor (raiseExceptionGroup env pending) := by
  cases failure with
  | none =>
    have hnone : pending = none := by simpa using hsome
    rw [hnone]
    trivial
  | some e =>
    obtain ⟨close, rfl⟩ : ∃ close, pending = some close := Option.isSome_iff_exists.mp hsome
    rw [raiseExceptionGroup, hgroups e rfl]
    unfold raiseExceptionGroupOf exceptionGroup
    simp only [List.all_cons, List.all_nil, Bool.and_true]
    split <;> trivial

/-- An `__aexit__` that got its future, after an exception of the body. -/
theorem run_of_future {env : PyEnv} (hparses : env.parses = true) (hfuture : env.future = true) :
    (PyOp.request self.request).run L env =
      match L.call env.ctx self.op env.call with
      | .error fault => .error (.fault fault)
      | .ok c =>
        if c.future.isSome then .ok ⟨c, none, [.future], []⟩
        else if c.request_idx < 0 then
          .ok ⟨c, some (raiseExceptionGroup env none), [.future], [.future]⟩
        else
          .ok ⟨c, some (raiseExceptionGroup env (self.checkResult c.result)), [.future],
            [.future]⟩ := by
  cases self <;>
  · simp only [Holder.request, Holder.op, Holder.checkResult, PyOp.run, PyRequest.entry,
      EntryPoint.uringioFileAexit, EntryPoint.uringioSocketAexit, EntryPoint.run, Unwind.walk,
      parseTuple, check, hparses, onExit, createFuture, hfuture, List.all_nil, Bool.and_true,
        if_true,
      Option.isSome_none, Bool.false_eq_true, not_true_eq_false, or_self, if_false]
    rfl

/-- **The entry points raise what `aexit` raises**, where the group can be made exactly of instances
of `Exception`. -/
theorem run_aexit {env : PyEnv} {created : Option Exc} {close : ℕ} {body : Exc} {r : PyCalled}
    (hparses : env.parses = true) (hfuture : env.future = created.isNone)
    (hgroups : env.groups = (body.isException && created.all Exc.isException))
    (hrun : (PyOp.request self.request).run L env = .ok r) :
    ∃ o, aexit L env.ctx env.call self created close body = .ok o ∧
      match o with
      | none => r.called.future ≠ none
      | some raised => ∃ e, r.pending = some e ∧ raised.StandsFor e := by
  cases created with
  | some e =>
    have hno : env.future = false := hfuture
    refine ⟨_, rfl, ?_⟩
    have hstands : (raiseExceptionGroupOf (some e) body).StandsFor
        (raiseExceptionGroup env (some .raised)) :=
      standsFor_group rfl (fun e' he => by cases he; simpa using hgroups)
    cases self <;>
    · simp only [Holder.request, PyOp.run, PyRequest.entry, EntryPoint.uringioFileAexit,
        EntryPoint.uringioSocketAexit, EntryPoint.run, Unwind.walk, parseTuple, check, hparses,
        onExit, createFuture, hno, List.all_nil, Bool.and_true, if_true,
        Bool.false_eq_true, not_false_eq_true, or_true, Except.ok.injEq] at hrun
      subst hrun
      exact ⟨_, rfl, hstands⟩
  | none =>
    rw [run_of_future hparses hfuture] at hrun
    cases hcall : L.call env.ctx self.op env.call with
    | error fault => simp [hcall] at hrun
    | ok c =>
      simp only [hcall] at hrun
      unfold aexit
      simp only [hcall, bind, Except.bind]
      split at hrun
      · next hsome =>
        cases hrun
        rw [if_pos hsome]
        exact ⟨none, rfl, fun hnone => by rw [hnone] at hsome; cases hsome⟩
      · next hnull =>
        rw [if_neg hnull]
        split at hrun
        · next hidx =>
          cases hrun
          rw [if_pos hidx]
          exact ⟨_, rfl, _, rfl, standsFor_group rfl fun e he => by cases he⟩
        · next hidx =>
          cases hrun
          rw [if_neg hidx]
          refine ⟨_, rfl, _, rfl, standsFor_group (by simp) fun e he => ?_⟩
          obtain ⟨e', -, rfl⟩ := Option.map_eq_some_iff.mp he
          simpa using hgroups

end Uringio
