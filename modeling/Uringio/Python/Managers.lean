import Uringio.Buffers.Reported
import Uringio.Python.Exceptions
import Uringio.Tasks.Objects

/-!
# The functions that create managers, as entry points

`UringioLoop_buffer_mode` and `UringioLoop_execution_context` with the exception that is pending
beside their result, stage by stage as the entry points of files and sockets are. Where the state of
the loop can be read, they are the functions of `Tasks` (`bufferMode_returned`,
`executionContext_returned`). They do not ask for anything that fails when an exception is pending:
where `_closed` cannot be read, they go on and may return a manager beside the exception
(`Overlooks`). Nothing else breaks the protocol, since `create_buffer_payload` returns null exactly
if a step of it was refused.

With them, the protocol is stated for every public function (`returns_null_iff_raises`).
-/

namespace Uringio

open Unwind
open Blocks (BufferArgs)

/-- A fault of `buffers.c`, as one of the process. -/
def Blocks.Undefined.crash : Blocks.Undefined → Crash
  | .uninitialised => .uninitialized
  | .outside => .outOfBounds
  | .notHeld | .notAllocated => .fault .useAfterFree
  | .division => .divisionByZero

/-- The buffers are an object without a length. -/
def Blocks.BuffersArg.isUnsized : Blocks.BuffersArg → Bool
  | .unsized _ => true
  | _ => false

/-- The exception of a check, if it raises one. -/
def Creation.raised {α : Type} (creation : Creation α) : Option PyExc :=
  creation.run.bind fun
    | .error e => some e
    | .ok _ => none

/-! ## The stages -/

/-- `PyArg_ParseTupleAndKeywords`, which may have been entered with an exception pending: `goes_on`
says whether it goes on then. -/
def parseContextArgs (env : PyEnv) (goes_on : Bool) (ints : List ℤ) : Step where
  run pending :=
    if (env.parses && ints.all fun x => decide (CInt.IsInt x)) && (pending.isNone || goes_on) then
      .passes pending
    else .fails (some .raised)
  takes := []
  unwinds := []

/-- A check of an argument, with the exception that it raises. -/
def validate (raised : Option PyExc) : Step where
  run pending :=
    match raised with
    | none => .passes pending
    | some e => .fails (some e)
  takes := []
  unwinds := []

/-- `create_buffer_payload`. An object without a length sets an exception, and so does each step
that is refused. -/
def createBufferPayloadStep (a : BufferArgs) (create : CreateEnv) : Step where
  run pending :=
    let (payload, books) := a.create create.build create.garbage Blocks.Books.start
    let pending :=
      if a.buffers.isUnsized ∨ books.rest.failures ≠ 0 then some .raised else pending
    match payload with
    | .error fault => .crashes fault.crash
    | .ok none => .fails pending
    | .ok (some _) => .passes pending
  takes := [.payload]
  unwinds := []

/-! ## The functions -/

/-- A call that creates a manager. What there is to say of the loop and of the types of the
arguments is in the `PyEnv`. -/
structure ManagerCall where
  /-- The arguments. -/
  args : ContextArgs
  /-- What the creation meets. -/
  create : CreateEnv
  /-- The parser goes on when an exception is pending. -/
  goes_on : Bool

namespace ManagerCall

variable (call : ManagerCall) (env : PyEnv)

/-- The arguments of `create_buffer_payload`. -/
def bufferArgs : BufferArgs :=
  call.args.bufferArgs call.create ((validateBufferMode call.args.mode).value.getD .NORMAL_BUF)
    ((validatePayloadType call.args.payload_type).value.getD .PAYLOAD_LINEAR)

/-- The lines that both functions begin with, for the integers among the arguments. -/
def start (ints : List ℤ) : List Step :=
  [assertLoopThread env, assertRingLoopIsClosing env, parseContextArgs env call.goes_on ints,
    validate (validateBufferMode call.args.mode).raised,
    validate (validatePayloadType call.args.payload_type).raised,
    createBufferPayloadStep call.bufferArgs call.create]

/-- The integers among the arguments of `UringioLoop_buffer_mode`. -/
def bufferModeInts : List ℤ :=
  [call.args.mode, call.args.payload_type, call.args.amount, call.args.bufsize]

/-- The integers among the arguments of `UringioLoop_execution_context`. -/
def executionContextInts : List ℤ :=
  [call.args.mode, call.args.stream, call.args.transfer_mode, call.args.payload_type,
    call.args.amount, call.args.bufsize]

/-- `UringioLoop_buffer_mode`. -/
def uringioLoopBufferMode : List Step :=
  call.start env call.bufferModeInts ++ [allocate call.create.object .object [.payload]]

/-- `UringioLoop_execution_context`. The payload is left behind by a failure after it. -/
def uringioLoopExecutionContext : List Step :=
  call.start env call.executionContextInts ++
    [validate (checkStreamStrategy call.args.stream).raised,
      validate (checkTransferMode call.args.transfer_mode).raised,
      allocate call.create.object .object [], check call.create.block .noMemory [.object]]

end ManagerCall

/-- What a function leaves that Python called. -/
structure Returned where
  /-- It returned the null pointer. -/
  null : Bool
  /-- The exception that is pending. -/
  pending : Option PyExc
  deriving DecidableEq

/-- What a function returns after its stages. -/
def returned : Walk PyExc Crash Res → Except Crash Returned
  | .through pending _ => .ok ⟨false, pending⟩
  | .left pending _ _ => .ok ⟨true, pending⟩
  | .crashed crash => .error crash

/-- A call of a public function. -/
inductive PublicCall
  | operation (op : PyOp)
  | bufferMode (call : ManagerCall)
  | executionContext (call : ManagerCall)

/-- Make a call, with no exception pending. -/
def PublicCall.run (L : Loop) (env : PyEnv) : PublicCall → Except Crash Returned
  | .operation op => (op.run L env).map fun r => ⟨r.called.future.isNone, r.pending⟩
  | .bufferMode call => returned (walk (call.uringioLoopBufferMode env) none [])
  | .executionContext call => returned (walk (call.uringioLoopExecutionContext env) none [])

/-! ## The calls that break the protocol -/

/-- `create_buffer_payload` returns a payload. -/
def ManagerCall.Makes (call : ManagerCall) : Prop :=
  ∃ payload, (call.bufferArgs.create call.create.build call.create.garbage Blocks.Books.start).1 =
    .ok (some payload)

/-- `_closed` cannot be read, and nothing else is wrong up to the payload. -/
structure ManagerCall.Overlooks (call : ManagerCall) (env : PyEnv) (ints : List ℤ) : Prop where
  /-- The call comes from the thread of the loop. -/
  thread : env.thread = true
  /-- The attribute cannot be read. -/
  closed : env.closed = none
  /-- The arguments have the types of the format. -/
  parses : env.parses = true
  /-- The integers fit into an `int`. -/
  ints : ∀ x ∈ ints, CInt.IsInt x
  /-- The parser goes on. -/
  goes_on : call.goes_on = true
  /-- The mode is valid. -/
  mode : (validateBufferMode call.args.mode).raised = none
  /-- The payload type is valid. -/
  payload_type : (validatePayloadType call.args.payload_type).raised = none
  /-- There is a payload. -/
  makes : call.Makes

/-- The call breaks the protocol. -/
def PublicCall.Silent (L : Loop) (env : PyEnv) : PublicCall → Prop
  | .operation op => op.Silent L env
  | .bufferMode call =>
    call.Overlooks env call.bufferModeInts ∧ call.create.object = true
  | .executionContext call =>
    call.Overlooks env call.executionContextInts ∧
      (checkStreamStrategy call.args.stream).raised = none ∧
      (checkTransferMode call.args.transfer_mode).raised = none ∧
      call.create.object = true ∧ call.create.block = true

variable {L : Loop} {env : PyEnv} {call : ManagerCall} {ints : List ℤ} {goes_on : Bool}
  {raised : Option PyExc} {stages : List Step} {r : Returned} {pending pending' : Option PyExc}
  {a : BufferArgs} {create : CreateEnv}

/-! ## What the stages do -/

/-- Without a length, there is no payload. -/
theorem Blocks.ensures_create_unsized {build : Blocks.BuildEnv} {g : Blocks.Garbage}
    (hunsized : a.buffers.isUnsized = true) :
    Ledger.Ensures (a.create build g) (· = none) := by
  obtain ⟨items, hitems⟩ : ∃ items, a.buffers = .unsized items := by
    cases hbuffers : a.buffers with
    | unsized items => exact ⟨items, rfl⟩
    | absent | sequence => rw [hbuffers] at hunsized; cases hunsized
  unfold BufferArgs.create BufferArgs.getBufferMetadata
  rw [hitems, pure_bind]
  refine .right fun block => ?_
  cases block with
  | none => exact .pure rfl
  | some block =>
    refine (Blocks.ensures_fillPayload _).bind fun filled hfilled => .pure ?_
    obtain ⟨filled, payload_type⟩ := filled
    cases filled with
    | none => rfl
    | some payload => exact absurd ((hfilled payload rfl).amount rfl) (lt_irrefl 0)

/-- **What the payload's stage leaves pending**: it passes with what was pending, and only where
there is a payload. -/
theorem createBufferPayloadStep_passes : (createBufferPayloadStep a create).run pending =
      .passes pending' ↔
    (∃ payload, (a.create create.build create.garbage Blocks.Books.start).1 = .ok (some payload)) ∧
      pending = pending' := by
  have hreports := Blocks.reports_create a create.build create.garbage Blocks.Books.start
  have hunsized (h : a.buffers.isUnsized = true) :=
    @Blocks.ensures_create_unsized a create.build create.garbage h Blocks.Books.start
  unfold createBufferPayloadStep
  dsimp only
  cases hrun : a.create create.build create.garbage Blocks.Books.start with
  | mk result books =>
    rw [hrun] at hreports hunsized
    cases result with
    | error fault => simp
    | ok result =>
      cases result with
      | none => simp
      | some payload =>
        -- Nothing was refused, and the buffers have a length.
        rcases hreports _ _ rfl with ⟨hnull, -⟩ | ⟨-, hsame⟩
        · cases hnull
        · have hzero : books.rest.failures = 0 := hsame
          have hsized : a.buffers.isUnsized = false :=
            Bool.eq_false_iff.mpr fun h => by cases hunsized h _ _ rfl
          simp [hzero, hsized]

/-- It fails with an exception. -/
theorem createBufferPayloadStep_fails (h : (createBufferPayloadStep a create).run pending =
    .fails pending') : pending' ≠ none := by
  have hreports := Blocks.reports_create a create.build create.garbage Blocks.Books.start
  unfold createBufferPayloadStep at h
  dsimp only at h
  cases hrun : a.create create.build create.garbage Blocks.Books.start with
  | mk result books =>
    rw [hrun] at hreports h
    cases result with
    | error fault => cases h
    | ok result =>
      cases result with
      | some payload => cases h
      | none =>
        rcases hreports _ _ rfl with ⟨-, hlt⟩ | ⟨hsome, -⟩
        · have hrefused : books.rest.failures ≠ 0 := (Nat.zero_le _).trans_lt hlt |>.ne'
          rw [← Unwind.Ends.fails.inj h, if_pos (.inr hrefused)]
          exact Option.some_ne_none _
        · exact absurd rfl hsome

/-- The payload's stage says what failed. -/
instance createBufferPayloadStep_says : (createBufferPayloadStep a create).Says
    (∃ payload, (a.create create.build create.garbage Blocks.Books.start).1 = .ok (some payload))
    False where
  sticky e pending' h := by
    rcases h with h | h
    · rw [← (createBufferPayloadStep_passes.mp h).2]
      exact Option.some_ne_none _
    · exact createBufferPayloadStep_fails h
  passes := by simp [createBufferPayloadStep_passes]
  fails := iff_of_false (fun h => createBufferPayloadStep_fails h rfl) id

/-- The parser says that an argument does not fit. -/
instance parseContextArgs_says : (parseContextArgs env goes_on ints).Says
    ((env.parses && ints.all fun x => decide (CInt.IsInt x)) = true) False where
  sticky e pending' h := by
    unfold parseContextArgs at h
    simp only at h
    split_ifs at h <;> simp at h <;> simp [← h]
  passes := by simp [parseContextArgs]
  fails := by
    unfold parseContextArgs
    simp only
    split_ifs <;> simp

/-- A check says what is wrong. -/
instance validate_says : (validate raised).Says (raised = none) False where
  sticky e pending' h := by
    cases raised <;> simp [validate] at h <;> simp [← h]
  passes := by cases raised <;> simp [validate]
  fails := by cases raised <;> simp [validate]

/-! ## The functions of `Tasks` -/

/-- What a creation comes to, as a function that returned. -/
def Creation.returned {α : Type} (creation : Creation α) : Option Returned :=
  creation.run.map fun
    | .error e => ⟨true, some e⟩
    | .ok _ => ⟨false, none⟩

/-- With nothing pending, the stage does what the part of a creation does. -/
structure Follows {α : Type} (stage : Step) (part : Creation α) : Prop where
  /-- It crashes where the part is undefined. -/
  undefined : part.run = none → ∃ crash, stage.run none = .crashes crash
  /-- It fails with the exception that the part raises. -/
  raises : ∀ e, part.run = some (.error e) → stage.run none = .fails (some e)
  /-- It passes where the part has a value. -/
  passes : ∀ a, part.run = some (.ok a) → stage.run none = .passes none

/-- The stages behind a stage that follows a part. -/
theorem Follows.cons {α β : Type} {stage : Step} {part : Creation α} {rest : α → Creation β}
    (h : Follows stage part) {taken : List Res}
    (hrest : ∀ a, part.run = some (.ok a) → ∀ taken,
      (returned (walk stages none taken)).toOption = (rest a).returned) :
    (returned (walk (stage :: stages) none taken)).toOption = (part >>= rest).returned := by
  unfold Creation.returned
  rw [ExceptT.run_bind]
  cases hpart : part.run with
  | none =>
    obtain ⟨crash, hcrash⟩ := h.undefined hpart
    simp [walk, hcrash, returned, Except.toOption]
  | some result =>
    cases result with
    | error e => simp [walk, h.raises e hpart, returned, Except.toOption]
    | ok a =>
      rw [walk, h.passes a hpart]
      exact hrest a hpart _

/-- A check follows the function that checks. -/
theorem follows_validate {α : Type} {part : Creation α} (hdefined : part.run ≠ none) :
    Follows (validate part.raised) part where
  undefined h := absurd h hdefined
  raises e h := by simp [validate, Creation.raised, h]
  passes a h := by simp [validate, Creation.raised, h]

/-- A condition, with the exception that is raised where it does not hold. -/
theorem follows_of_guard {ok : Prop} [Decidable ok] {stage : Step} {e : PyExc}
    (hrun : stage.run none = if ok then .passes none else .fails (some e)) :
    Follows stage (if ok then pure () else throw e : Creation Unit) := by
  by_cases hok : ok
  · rw [if_pos hok] at hrun ⊢
    exact ⟨fun h => (by cases h), fun e h => (by cases h), fun a _ => hrun⟩
  · rw [if_neg hok] at hrun ⊢
    exact ⟨fun h => (by cases h), fun e h => (by cases h; exact hrun), fun a h => by cases h⟩

/-- The payload. -/
theorem follows_createPayload :
    Follows (createBufferPayloadStep a create) (createPayload a create) := by
  have hpasses := @createBufferPayloadStep_passes none none a create
  have hfails := @createBufferPayloadStep_fails none none a create
  unfold createPayload
  unfold createBufferPayloadStep at hpasses hfails ⊢
  dsimp only at hpasses hfails ⊢
  cases hrun : a.create create.build create.garbage Blocks.Books.start with
  | mk result books =>
    rw [hrun] at hpasses hfails
    cases result with
    | error fault =>
      exact ⟨fun _ => ⟨_, rfl⟩, fun e h => (by cases h), fun a h => by cases h⟩
    | ok result =>
      cases result with
      | none =>
        refine ⟨fun h => (by cases h), fun e h => ?_, fun a h => by cases h⟩
        cases h
        dsimp only at hfails ⊢
        split_ifs at hfails ⊢ with hset
        · rfl
        · exact absurd rfl (hfails rfl)
      | some payload =>
        refine ⟨fun h => (by cases h), fun e h => (by cases h), fun _ _ => ?_⟩
        exact hpasses.mpr ⟨⟨payload, rfl⟩, rfl⟩

/-- What there is to say of the loop is the same, and `_closed` can be read. -/
structure ManagerCall.Reads (call : ManagerCall) (env : PyEnv) : Prop where
  /-- The thread. -/
  thread : call.create.thread = env.thread
  /-- The attribute. -/
  closed : env.closed = some call.create.closed
  /-- The text of the loop. -/
  str : call.create.str = env.str
  /-- The types of the arguments. -/
  parses : call.create.parses = env.parses

/-- The asserts and the parser. -/
theorem returned_asserts {β : Type} {rest : Creation β} (hreads : call.Reads env)
    (hrest : ∀ taken, (returned (walk stages none taken)).toOption = rest.returned) :
    (returned (walk (assertLoopThread env :: assertRingLoopIsClosing env ::
      parseContextArgs env call.goes_on ints :: stages) none [])).toOption =
      (call.create.asserts ints >>= fun _ => rest).returned := by
  obtain ⟨hthread, hclosed, hstr, hparses⟩ := hreads
  have hasserts : (call.create.asserts ints >>= fun _ => rest) =
      ((if call.create.thread then pure () else
          throw (.set .RuntimeError "io_uring operation called from wrong thread")) >>= fun _ =>
        (if call.create.closed = false then pure () else
          throw (.set .RuntimeError ("Ring Event Loop is closing - " ++ call.create.str))) >>=
        fun _ => (if call.create.parses ∧ ∀ x ∈ ints, CInt.IsInt x then pure () else
          throw .raised) >>= fun _ => rest : Creation β) := by
    unfold CreateEnv.asserts
    cases call.create.thread with
    | false => rfl
    | true =>
      cases call.create.closed with
      | true => rfl
      | false => rfl
  rw [hasserts]
  refine Follows.cons (follows_of_guard ?_) fun _ _ _ =>
    Follows.cons (follows_of_guard ?_) fun _ _ _ =>
      Follows.cons (follows_of_guard ?_) fun _ _ => hrest
  · rw [hthread]
    rfl
  · rw [hstr]
    cases hvalue : call.create.closed <;> rw [hvalue] at hclosed <;>
      simp [assertRingLoopIsClosing, hclosed]
  · rw [hparses]
    simp [parseContextArgs]

/-- The lines that both functions begin with. -/
theorem returned_start {β : Type} {tail : List Step}
    {rest : BufferMode × ContextPayload → Creation β} (hreads : call.Reads env)
    (hrest : ∀ a taken, (returned (walk tail none taken)).toOption = (rest a).returned) :
    (returned (walk (call.start env ints ++ tail) none [])).toOption =
      (call.create.asserts ints >>= fun _ =>
        newPayload call.args call.create >>= rest).returned := by
  refine returned_asserts hreads fun taken => ?_
  unfold newPayload
  rw [bind_assoc]
  refine Follows.cons (follows_validate (by unfold validateBufferMode; split <;> simp))
    fun mode hmode taken => ?_
  rw [bind_assoc]
  refine Follows.cons (follows_validate (by unfold validatePayloadType; split <;> simp))
    fun payload_type htype taken => ?_
  rw [bind_assoc]
  have hargs : call.bufferArgs = call.args.bufferArgs call.create mode payload_type := by
    unfold ManagerCall.bufferArgs Creation.value
    rw [hmode, htype]
    rfl
  rw [hargs]
  refine Follows.cons follows_createPayload fun payload _ taken => ?_
  rw [pure_bind]
  exact hrest _ _

/-- **`UringioLoop_buffer_mode`** is the function of `Tasks`. -/
theorem bufferMode_returned (s : Tasks) (hreads : call.Reads env) :
    (returned (walk (call.uringioLoopBufferMode env) none [])).toOption =
      (s.uringioLoopBufferMode call.args call.create).returned :=
  returned_start hreads fun _ _ => Follows.cons (follows_of_guard rfl) fun _ _ _ => rfl

/-- **`UringioLoop_execution_context`** is the function of `Tasks`. -/
theorem executionContext_returned (s : Tasks) (hreads : call.Reads env) :
    (returned (walk (call.uringioLoopExecutionContext env) none [])).toOption =
      (s.uringioLoopExecutionContext call.args call.create).returned :=
  returned_start hreads fun _ _ =>
    Follows.cons (follows_validate (by unfold checkStreamStrategy; split <;> simp)) fun _ _ _ =>
      Follows.cons (follows_validate (by unfold checkTransferMode; split <;> simp)) fun _ _ _ =>
        Follows.cons (follows_of_guard rfl) fun _ _ _ =>
          Follows.cons (follows_of_guard rfl) fun _ _ _ => rfl

/-! ## The law -/

/-- `loop.buffer_mode(mode=FIXED)`, where nothing fails. -/
def Sample.bufferMode : ManagerCall where
  args := { mode := 1 }
  create :=
    { thread := true
      closed := false
      str := "Uringio Event Loop"
      parses := true
      build := .calm
      alloc := fun _ => 0
      rand := 7
      raw := { BufferPayload.zero with buf_ring := false }
      object := true
      block := true }
  goes_on := true

/-- Where `_closed` cannot be read, `buffer_mode` returns a manager beside the exception. -/
example : (PublicCall.bufferMode Sample.bufferMode).run Sample.loop
    { Sample.pyEnv 2 with closed := none } = .ok ⟨false, some .raised⟩ := by decide +kernel

end Uringio
