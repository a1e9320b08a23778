import Uringio.Loop.Agreement
import Uringio.Python.Exceptions

/-!
# Which calls follow a null pointer

`_get_buffer`, `get_stream_strategy` and `get_transfer_mode` read the execution context, and use the
result without looking at it: it is null when the variable cannot be read, and when an exception is
already pending. An exception may be pending from the assertions or from `parse_timeout_params`,
which look at no error of the attributes and integers they read, and from a payload whose buffer
could not be built: `get_or_create_linear_buffer` returns it nevertheless. `read` and `recv` read
the context again behind it; `recvfrom` does not, and fails at its future.

What a stage does is stated once for functions that go on behind it (`Meets`), and read off the
stages of each entry point (`meets_entry`). A call that comes to its dispatcher has built its
payload (`built_of_through`), so behind the stages only `sendmsg` with zero-copy transfer follows a
null pointer (`Loop.call_nullDeref_iff`). Together: `run_nullDeref_iff`.
-/

namespace Uringio

open Unwind

/-! ## The calls -/

/-- The call passes the assertions of a method, and its arguments are parsed, whether or not this
leaves an exception pending. -/
structure PyEnv.Enters (env : PyEnv) (closed : Bool) (ints : List ℤ) (timeout_params : TimeoutArg) :
    Prop where
  /-- It is made on the thread of the loop. -/
  thread : env.thread = true
  /-- The loop is not closed, as far as its attribute can be read. -/
  loop : env.closed ≠ some true
  /-- The object of the method is open. -/
  object : closed = false
  /-- The arguments have the types of the format. -/
  parses : env.parses = true
  /-- The integers fit. -/
  ints : ∀ x ∈ ints, CInt.IsInt x
  /-- `parse_timeout_params` reports no error. -/
  timeout : timeout_params.error = none

/-- An exception is pending behind the arguments: the loop's `_closed` could not be read, or an
integer of the timeout does not fit. -/
def PyEnv.Loud (env : PyEnv) (timeout_params : TimeoutArg) : Prop :=
  env.closed = none ∨ ¬ timeout_params.Fits

instance (env : PyEnv) (timeout_params : TimeoutArg) : Decidable (env.Loud timeout_params) :=
  inferInstanceAs (Decidable (_ ∨ _))

/-- What is pending behind the arguments. -/
def PyEnv.raised (env : PyEnv) (timeout_params : TimeoutArg) : Option PyExc :=
  if env.Loud timeout_params then some .raised else none

/-- The execution context cannot be read behind the arguments. -/
def PyEnv.Unreadable (env : PyEnv) (timeout_params : TimeoutArg) : Prop :=
  env.Loud timeout_params ∨ env.context = none

/-- `get_or_create_linear_buffer` is not served by the context, and returns a payload whose buffer
it could not build. -/
def PyEnv.Unbuilt (env : PyEnv) (L : Loop) (buffers_obj : Option BufferSeq) (bufsize : ℤ) : Prop :=
  (buffers_obj.isNone && servedByContext L env BufferPayload.servesLinear) = false ∧
    env.allocates .payload = true ∧ newLinearError env buffers_obj bufsize ≠ none

/-- The call follows a null pointer. -/
def PyRequest.FollowsNull (L : Loop) (env : PyEnv) : PyRequest → Prop
  | .open .. | .socket .. => env.runningLoop = .noAsyncio
  | .read f offset size tp =>
    env.Enters (L.files f).closed [offset, size] tp ∧ ¬ env.Loud tp ∧ env.future = true ∧
      (env.context = none ∨ env.Unbuilt L none size)
  | .readv f _ offset _ tp => env.Enters (L.files f).closed [offset] tp ∧ env.Unreadable tp
  | .writev f _ flags offset tp =>
    env.Enters (L.files f).closed [flags, offset] tp ∧ env.Unreadable tp
  | .accept s tp =>
    env.Enters (L.sockets s).closed [] tp ∧ ¬ env.Loud tp ∧ env.future = true ∧
      env.allocates .addrlen = true ∧ env.context = none
  | .send s data _ tp =>
    env.Enters (L.sockets s).closed [] tp ∧
      (env.allocates .payload = true ∧ env.allocates .arrays = true) ∧
      (data.getBuffer PyBUF_CONTIG_RO).isSome = true ∧ env.Unreadable tp
  | .recv s bufsize buffer _ tp =>
    env.Enters (L.sockets s).closed [bufsize] tp ∧
      (env.Unreadable tp ∨ env.Unbuilt L buffer bufsize)
  | .recvfrom s bufsize _ host port domain _ tp =>
    env.Enters (L.sockets s).closed (bufsize :: port.toList ++ domain.toList) tp ∧
      (host && port.isSome && domain.isSome) = true ∧ env.Serializes (domain.getD 0) ∧
      env.Unreadable tp
  | .sendmsg s buffers host port domain _ tp =>
    env.Enters (L.sockets s).closed [port, domain] tp ∧ (host = true → env.Serializes domain) ∧
      (env.Unreadable tp ∨
        (env.allocates .payload = true ∧ newVectoredError env (some buffers) = none ∧
          env.future = true ∧ env.ctx.transfer_mode = .ZERO_COPY ∧
          L.registry.available_indices.entries ≠ []))
  | .recvmsg s buffers _ tp =>
    env.Enters (L.sockets s).closed [] tp ∧ buffers.isSome = true ∧ env.Unreadable tp
  | .timer _ =>
    env.parses = true ∧ env.thread = true ∧ env.closed ≠ some true ∧
      (env.closed = none ∨ env.context = none)
  | _ => False

variable {L : Loop} {env : PyEnv} {req : PyRequest} {ok : Bool} {e : PyExc} {unwinds : List Res}
  {x : Res} {ints : List ℤ} {tp : TimeoutArg} {domain : ℤ} {closed : Bool} {text : String}
  {rest : List Step} {pending : Option PyExc} {fin : Prop} {buffers : Option BufferSeq}
  {bufsize : ℤ}

/-- Nothing is raised where the timeout is not loud. -/
@[simp] theorem raised_eq_none_iff : env.raised tp = none ↔ ¬ env.Loud tp := by
  unfold PyEnv.raised
  split <;> simp_all

/-- Something is raised where the timeout is loud. -/
@[simp] theorem raised_isSome_iff : (env.raised tp).isSome = true ↔ env.Loud tp := by
  unfold PyEnv.raised
  split <;> simp_all

/-! ## The stages -/

/-- A check is passed when it holds. -/
@[simp] theorem meets_check :
    Meets (.fault .nullDeref) fin (check ok e unwinds :: rest) pending ↔
      ok = true ∧ Meets (.fault .nullDeref) fin rest pending :=
  meets_cons_of_guard ⟨some e, by cases ok <;> rfl⟩

/-- An allocation is passed when it succeeds. -/
@[simp] theorem meets_allocate :
    Meets (.fault .nullDeref) fin (allocate ok x unwinds :: rest) pending ↔
      ok = true ∧ Meets (.fault .nullDeref) fin rest pending :=
  meets_cons_of_guard ⟨some .noMemory, by cases ok <;> rfl⟩

/-- An unchecked allocation is passed. -/
@[simp] theorem meets_allocateUnchecked :
    Meets (.fault .nullDeref) fin (allocateUnchecked x :: rest) pending ↔
      Meets (.fault .nullDeref) fin rest pending := Iff.rfl

/-- The variables are used when they are there. -/
@[simp] theorem meets_useVariables :
    Meets (.fault .nullDeref) fin (useVariables ok :: rest) pending ↔
      ok = true ∧ Meets (.fault .nullDeref) fin rest pending := by
  cases ok <;> simp [Meets, useVariables]

/-- The thread's assert is passed on the loop's thread. -/
@[simp] theorem meets_assertLoopThread :
    Meets (.fault .nullDeref) fin (assertLoopThread env :: rest) pending ↔
      env.thread = true ∧ Meets (.fault .nullDeref) fin rest pending := meets_check

/-- The assert of an open object is passed when it is open. -/
@[simp] theorem meets_assertOpen :
    Meets (.fault .nullDeref) fin (assertOpen closed text :: rest) pending ↔
      closed = false ∧ Meets (.fault .nullDeref) fin rest pending :=
  meets_check.trans (by cases closed <;> simp)

/-- The parsing is passed when the types and the integers fit. -/
@[simp] theorem meets_parseTuple :
    Meets (.fault .nullDeref) fin (parseTuple env ints unwinds :: rest) pending ↔
      (env.parses = true ∧ ∀ x ∈ ints, CInt.IsInt x) ∧ Meets (.fault .nullDeref) fin rest pending :=
  meets_check.trans (by simp)

/-- The address is passed when it can be serialized. -/
@[simp] theorem meets_serializeAddress :
    Meets (.fault .nullDeref) fin (serializeAddress env domain :: rest) pending ↔
      env.Serializes domain ∧ Meets (.fault .nullDeref) fin rest pending := by
  unfold PyEnv.Serializes
  by_cases halloc : env.allocates .sockaddr = true
  · by_cases hinet : domain = AF_INET
    · subst hinet
      by_cases hpton : env.inet_pton AF_INET = true <;>
        simp [Meets, serializeAddress, halloc, hpton]
    · by_cases hinet6 : domain = AF_INET6
      · subst hinet6
        by_cases hpton : env.inet_pton AF_INET6 = true <;>
          simp [Meets, serializeAddress, halloc, hpton, hinet]
      · simp [Meets, serializeAddress, halloc, hinet, hinet6]
  · simp [Meets, serializeAddress, halloc]

/-- A future is created only with nothing pending. -/
@[simp] theorem meets_createFuture :
    Meets (.fault .nullDeref) fin (createFuture env unwinds :: rest) pending ↔
      (pending = none ∧ env.future = true) ∧ Meets (.fault .nullDeref) fin rest none := by
  cases pending <;> cases hfuture : env.future <;> simp [Meets, createFuture, hfuture]

/-- The context is read, and the pointer followed. -/
@[simp] theorem meets_readContext :
    Meets (.fault .nullDeref) fin (readContext env :: rest) pending ↔
      (pending.isSome = true ∨ env.context = none) ∨
        Meets (.fault .nullDeref) fin rest pending := by
  cases pending <;> cases hcontext : env.context <;> simp [Meets, readContext, hcontext]

/-- The payload of the data is passed when it is made. -/
@[simp] theorem meets_createPayloadFromData {data : Item} :
    Meets (.fault .nullDeref) fin (createPayloadFromData env data unwinds :: rest) pending ↔
      ((env.allocates .payload = true ∧ env.allocates .arrays = true) ∧
        (data.getBuffer PyBUF_CONTIG_RO).isSome = true) ∧
      Meets (.fault .nullDeref) fin rest pending := by
  cases hblock : env.allocates .payload <;> cases harrays : env.allocates .arrays <;>
    cases hbuffer : data.getBuffer PyBUF_CONTIG_RO <;>
    simp [Meets, createPayloadFromData, hblock, harrays, hbuffer]

/-- The raw buffer is passed when the object exports it. -/
@[simp] theorem meets_getRawBuffer {raw : RawArg} {flags : BufferFlags} :
    Meets (.fault .nullDeref) fin (getRawBuffer raw flags :: rest) pending ↔
      (raw.item.getBuffer flags).isSome = true ∧ Meets (.fault .nullDeref) fin rest pending := by
  cases hbuffer : raw.item.getBuffer flags <;> simp [Meets, getRawBuffer, hbuffer]

/-- The raw size is passed when it is whole iovecs. -/
@[simp] theorem meets_checkRawSize {raw : RawArg} :
    Meets (.fault .nullDeref) fin (checkRawSize raw :: rest) pending ↔
      raw.len % sizeofIovec = 0 ∧ Meets (.fault .nullDeref) fin rest pending :=
  meets_check.trans (by simp)

/-- The raw buffer is passed when it is contiguous. -/
@[simp] theorem meets_checkRawContiguous {raw : RawArg} :
    Meets (.fault .nullDeref) fin (checkRawContiguous raw :: rest) pending ↔
      raw.item.all (·.contiguous) = true ∧ Meets (.fault .nullDeref) fin rest pending := meets_check

/-- The payload of a buffer is passed when it is allocated. -/
@[simp] theorem meets_createPayloadFromPybuffer :
    Meets (.fault .nullDeref) fin (createPayloadFromPybuffer env unwinds :: rest) pending ↔
      (env.allocates .payload && env.allocates .arrays) = true ∧
        Meets (.fault .nullDeref) fin rest pending := meets_check

/-- What is released on a failure does not change what is passed. -/
@[simp] theorem meets_onExit {had_exception : Bool} {step : Step} :
    Meets (.fault .nullDeref) fin (onExit env had_exception step :: rest) pending ↔
      Meets (.fault .nullDeref) fin (step :: rest) pending := by
  simp only [Meets, onExit]
  cases step.run pending <;> rfl

/-- The path is passed when it can be decoded. -/
@[simp] theorem meets_decodePath {path : PathArg} :
    Meets (.fault .nullDeref) fin (decodePath path unwinds :: rest) pending ↔
      (∃ text, path = .path text) ∧ Meets (.fault .nullDeref) fin rest pending := by
  cases path <;> simp [Meets, decodePath]

/-- If `asyncio` cannot be imported, the null pointer is given back. -/
@[simp] theorem meets_assertLoopIsUringio :
    Meets (.fault .nullDeref) fin (assertLoopIsUringio env :: rest) pending ↔
      env.runningLoop = .noAsyncio ∨
      (env.runningLoop = .unknown ∧ Meets (.fault .nullDeref) fin rest (some .raised)) ∨
      (env.runningLoop = .uring ∧ Meets (.fault .nullDeref) fin rest pending) := by
  cases hloop : env.runningLoop <;> simp [Meets, assertLoopIsUringio, hloop]

/-- The timer's parameters are passed, with an exception left behind where they do not fit. -/
@[simp] theorem meets_parseTimerParams {params : TimerArg} :
    Meets (.fault .nullDeref) fin (parseTimerParams params :: rest) pending ↔
      params.error = none ∧ Meets (.fault .nullDeref) fin rest
        (if params.Fits then pending else some .raised) := by
  cases herror : params.error <;> simp [Meets, parseTimerParams, herror]

/-- A linear payload: the context is read first; what is pending behind it is the error in building
its buffer. -/
theorem meets_getOrCreateLinear :
    Meets (.fault .nullDeref) fin (getOrCreateLinear L env buffers bufsize unwinds :: rest)
        pending ↔
      (pending.isSome = true ∨ env.context = none) ∨
      (((buffers.isNone && servedByContext L env BufferPayload.servesLinear) = true ∧
          Meets (.fault .nullDeref) fin rest pending) ∨
        ((buffers.isNone && servedByContext L env BufferPayload.servesLinear) = false ∧
          env.allocates .payload = true ∧
          Meets (.fault .nullDeref) fin rest
            ((newLinearError env buffers bufsize).or pending))) := by
  generalize hserved : (buffers.isNone && servedByContext L env BufferPayload.servesLinear) = served
  cases pending <;> cases hcontext : env.context <;> cases served <;>
    cases hblock : env.allocates .payload <;>
    simp [Meets, getOrCreateLinear, hserved, hcontext, hblock]

/-- A vectored payload: without its buffers it is not returned. -/
@[simp] theorem meets_getOrCreateVectored :
    Meets (.fault .nullDeref) fin (getOrCreateVectored L env buffers unwinds :: rest) pending ↔
      (pending.isSome = true ∨ env.context = none) ∨
      (((buffers.isNone && servedByContext L env BufferPayload.servesVectored) = true ∨
          (env.allocates .payload = true ∧ newVectoredError env buffers = none)) ∧
        Meets (.fault .nullDeref) fin rest pending) := by
  generalize hserved :
    (buffers.isNone && servedByContext L env BufferPayload.servesVectored) = served
  cases pending <;> cases hcontext : env.context <;> cases served <;>
    cases hblock : env.allocates .payload <;> cases herror : newVectoredError env buffers <;>
    simp [Meets, getOrCreateVectored, hserved, hcontext, hblock, herror]

/-- The failure of a stage with a payload to free is a failure, or a crash of another kind. -/
theorem meets_freesPayload {built : Bool} {step : Step} :
    Meets (.fault .nullDeref) fin (freesPayload env built step :: rest) pending ↔
      Meets (.fault .nullDeref) fin (step :: rest) pending := by
  simp only [Meets, freesPayload]
  cases step.run pending with
  | fails e =>
    simp only
    split_ifs <;> simp
  | _ => rfl

/-- The loop is not closed; if its attribute cannot be read, this is pending. -/
@[simp] theorem meets_assertRingLoopIsClosing :
    Meets (.fault .nullDeref) fin (assertRingLoopIsClosing env :: rest) pending ↔
      env.closed ≠ some true ∧ Meets (.fault .nullDeref) fin rest
        (if env.closed = none then some .raised else pending) := by
  rcases hclosed : env.closed with _ | _ | _ <;> simp [Meets, assertRingLoopIsClosing, hclosed]

/-- The parameters of a timeout; if an integer does not fit, this is pending. -/
@[simp] theorem meets_parseTimeoutParams :
    Meets (.fault .nullDeref) fin (parseTimeoutParams tp unwinds :: rest) pending ↔
      tp.error = none ∧ Meets (.fault .nullDeref) fin rest
        (if tp.Fits then pending else some .raised) := by
  cases herror : tp.error <;> simp [Meets, parseTimeoutParams, herror]

/-- What is pending behind the arguments comes from the assertion and from the timeout. -/
theorem raised_eq : (if tp.Fits then if env.closed = none then some PyExc.raised else none
    else some .raised) = env.raised tp := by
  unfold PyEnv.raised PyEnv.Loud
  split_ifs <;> simp_all

/-- A call enters when its asserts, its parsing and its timeout let it. -/
theorem enters_iff : env.Enters closed ints tp ↔
    env.thread = true ∧ env.closed ≠ some true ∧ closed = false ∧
      (env.parses = true ∧ ∀ x ∈ ints, CInt.IsInt x) ∧ tp.error = none :=
  ⟨fun ⟨h₁, h₂, h₃, h₄, h₅, h₆⟩ => ⟨h₁, h₂, h₃, ⟨h₄, h₅⟩, h₆⟩,
    fun ⟨h₁, h₂, h₃, ⟨h₄, h₅⟩, h₆⟩ => ⟨h₁, h₂, h₃, h₄, h₅, h₆⟩⟩

/-- The first lines of a method of a file, and its arguments. -/
@[simp] theorem meets_onFile {f : FileRef} :
    Meets (.fault .nullDeref) fin
        (EntryPoint.onFile L env f ++ parseTuple env ints [] :: parseTimeoutParams tp [] :: rest)
        none ↔
      env.Enters (L.files f).closed ints tp ∧
        Meets (.fault .nullDeref) fin rest (env.raised tp) := by
  rw [enters_iff, ← raised_eq]
  simp only [EntryPoint.onFile, List.cons_append, List.nil_append, meets_assertLoopThread,
    meets_assertRingLoopIsClosing, meets_assertOpen, meets_parseTuple, meets_parseTimeoutParams,
    and_assoc]

/-- The first lines of a method of a socket, and its arguments. -/
@[simp] theorem meets_onSocket {s : SocketRef} :
    Meets (.fault .nullDeref) fin
        (EntryPoint.onSocket L env s ++ parseTuple env ints [] :: parseTimeoutParams tp [] :: rest)
        none ↔
      env.Enters (L.sockets s).closed ints tp ∧
        Meets (.fault .nullDeref) fin rest (env.raised tp) := by
  rw [enters_iff, ← raised_eq]
  simp only [EntryPoint.onSocket, List.cons_append, List.nil_append, meets_assertLoopThread,
    meets_assertRingLoopIsClosing, meets_assertOpen, meets_parseTuple, meets_parseTimeoutParams,
    and_assoc]

/-! ## Behind the stages -/

/-- `get_or_create_linear_buffer` returns a payload with its buffer. -/
def PyEnv.Builds (env : PyEnv) (L : Loop) (buffers_obj : Option BufferSeq) (bufsize : ℤ) : Prop :=
  (buffers_obj.isNone && servedByContext L env BufferPayload.servesLinear) = true ∨
    newLinearError env buffers_obj bufsize = none

/-- The call has built its payload. -/
def PyRequest.Built (L : Loop) (env : PyEnv) : PyRequest → Prop
  | .read _ _ size _ => env.Builds L none size
  | .recv _ bufsize buffer _ _ | .recvfrom _ bufsize buffer _ _ _ _ _ => env.Builds L buffer bufsize
  | _ => True

/-- A function that goes on to a stage that wants nothing pending has built its payload. -/
theorem builds_of_through (before : List Step) {pending' : Option PyExc} {taken taken' : List Res}
    (hsticky : ∀ stage ∈ rest, stage.Sticky) (hstrict : ∃ stage ∈ rest, stage.Strict)
    (h : walk (before ++ getOrCreateLinear L env buffers bufsize unwinds :: rest) pending taken =
      .through pending' taken') : env.Builds L buffers bufsize := by
  obtain ⟨at_stage, behind, taken₁, hpasses, hrest⟩ := through_of_append h
  by_contra hno
  obtain ⟨hserved, herror⟩ := not_or.mp hno
  obtain ⟨e, he⟩ := Option.ne_none_iff_exists'.mp herror
  -- The error is pending behind the constructor.
  rw [Bool.not_eq_true] at hserved
  simp only [getOrCreateLinear, hserved, he, Option.some_or] at hpasses
  split_ifs at hpasses with hreadable hfalse hblock
  · exact hfalse.elim
  · cases hpasses
    exact not_through_of_pending hsticky hstrict hrest

open EntryPoint in
/-- **A call that comes to its dispatcher has built its payload.** -/
theorem built_of_through {pending' : Option PyExc} {taken : List Res}
    (h : walk (req.entry L env).stages none [] = .through pending' taken) : req.Built L env := by
  cases req with
  | read f offset size tp =>
    have hsticky : ∀ stage ∈ [readContext env], stage.Sticky := by simp
    refine builds_of_through (onFile L env f ++
      [parseTuple env [offset, size] [], parseTimeoutParams tp [], createFuture env []])
      hsticky ?_ h
    exact ⟨_, List.mem_singleton_self _, readContext_strict⟩
  | recv s bufsize buffer is_poll_first tp =>
    refine builds_of_through (onSocket L env s ++
      [parseTuple env [bufsize] [], parseTimeoutParams tp []]) ?_ ?_ h
    · simp
    · exact ⟨_, List.mem_cons_self, readContext_strict⟩
  | recvfrom s bufsize buffer host port domain is_poll_first tp =>
    refine builds_of_through (onSocket L env s ++
      [parseTuple env (bufsize :: port.toList ++ domain.toList) [], parseTimeoutParams tp [],
        useVariables (host && port.isSome && domain.isSome),
        serializeAddress env (domain.getD 0)]) ?_ ?_ h
    · simp
    · exact ⟨_, List.mem_cons_of_mem _ (List.mem_singleton_self _),
        freesPayload_strict createFuture_strict⟩
  | _ => trivial

/-- A user's buffer that could be taken is the first of its sequence. -/
theorem regions_ne_nil {b : BufferSeq} (h : newLinearError env (some b) bufsize = none) :
    regions ((b.linear 1).getD []) ≠ [] := by
  have hsome : (b.linear 1).isSome = true := by
    by_contra hno
    simp only [newLinearError, if_neg hno] at h
    split_ifs at h
  obtain ⟨es, hes⟩ := Option.isSome_iff_exists.mp hsome
  rw [hes, Option.getD_some]
  unfold BufferSeq.linear at hes
  -- The list of one item is the item's exporter.
  cases hitem : (b.item 0).bind (Item.getBuffer PyBUF_CONTIG_RO) with
  | none => simp [hitem] at hes
  | some e =>
    simp [hitem] at hes
    simp [← hes, regions]

/-- The dispatcher follows a null pointer. -/
def PyRequest.EndsNull (L : Loop) (env : PyEnv) : PyRequest → Prop
  | .sendmsg s .. => (L.sockets s).closed = false ∧
      L.registry.available_indices.entries ≠ [] ∧ env.ctx.transfer_mode = .ZERO_COPY
  | _ => False

/-- **What is behind the stages.** -/
theorem call_nullDeref_iff (hctx : L.ContextsServing) (hcons : L.registry.Consistent)
    (hbuilt : req.Built L env) :
    L.call env.ctx (req.entry L env).op env.call = .error .nullDeref ↔ req.EndsNull L env := by
  have hsafe : ∀ {op}, L.DispatchSafe env.ctx op env.call →
      (L.call env.ctx op env.call = .error .nullDeref ↔ False) := by
    intro op h
    obtain ⟨c, hc⟩ := (Loop.call_ok_iff hctx hcons).mpr h
    rw [hc]
    exact iff_of_false (fun h => by cases h) id
  -- What a user's buffers are for the call proper.
  have htaken : ∀ {buffers : Option BufferSeq} {bufsize : ℤ}, env.Builds L buffers bufsize →
      (buffers.map fun b => regions ((b.linear 1).getD [])) ≠ some [] := by
    intro buffers bufsize hbuilds
    cases buffers with
    | none => simp
    | some b =>
      rcases hbuilds with hserved | herror
      · simp at hserved
      · simpa using regions_ne_nil herror
  cases req with
  | sendmsg s buffers host port domain is_poll_first tp =>
    refine ⟨fun h => ?_, fun ⟨hopen, hfree, hmode⟩ =>
      Loop.call_sendmsg_zeroCopy hctx hopen hfree hmode⟩
    -- Otherwise the call is safe.
    by_contra hno
    refine (hsafe ?_).mp h
    unfold Loop.DispatchSafe
    by_contra hunsafe
    obtain ⟨hrefuses, hfree, hmode⟩ := by simpa only [not_or] using hunsafe
    refine hno ⟨Bool.eq_false_of_not_eq_true hrefuses, hfree, ?_⟩
    cases htransfer : env.ctx.transfer_mode with
    | ZERO_COPY => rfl
    | NORMAL_TRANSFER => exact absurd htransfer hmode
  | recv s bufsize buffer is_poll_first tp =>
    exact hsafe (.inr (.inr (dispatches_recv_iff.mpr fun h => absurd h (htaken hbuilt))))
  | recvfrom s bufsize buffer host port domain is_poll_first tp =>
    exact hsafe (.inr (.inr (dispatches_recvfrom_iff.mpr fun h => absurd h (htaken hbuilt))))
  | timer params =>
    refine hsafe (.inr (.inr ?_))
    simp only [PyRequest.entry, EntryPoint.uringioLoopTimer, EntryPoint.ofFile]
    split <;> trivial
  | _ => exact hsafe (.inr (.inr trivial))

/-- A linear payload, and nothing behind it that follows a null pointer. -/
theorem meets_linear (hrest : ∀ pending, ¬ Meets (.fault .nullDeref) False rest pending) :
    Meets (.fault .nullDeref) False (getOrCreateLinear L env buffers bufsize unwinds :: rest)
      (env.raised tp) ↔ env.Unreadable tp := by
  simp [meets_getOrCreateLinear, hrest, PyEnv.Unreadable]

/-- A linear payload, behind which the context is read again: then the error in building its buffer
is pending. -/
theorem meets_linear_read (hrest : ∀ pending, ¬ Meets (.fault .nullDeref) False rest pending) :
    Meets (.fault .nullDeref) False
      (getOrCreateLinear L env buffers bufsize unwinds :: readContext env :: rest) pending ↔
    (pending.isSome = true ∨ env.context = none) ∨ env.Unbuilt L buffers bufsize := by
  simp only [meets_getOrCreateLinear, meets_readContext, hrest, PyEnv.Unbuilt]
  cases pending with
  | some e => simp
  | none =>
    cases newLinearError env buffers bufsize with
    | none =>
      simp
      tauto
    | some e =>
      simp
      tauto

open EntryPoint in
/-- **What an entry point meets on its way.** -/
theorem meets_entry : Meets (.fault .nullDeref) (req.EndsNull L env) (req.entry L env).stages none ↔
    req.FollowsNull L env := by
  cases req with
  | «open» path dfd flags resolve mode tp =>
    simp [PyRequest.entry, uringioOpen, PyRequest.EndsNull, PyRequest.FollowsNull]
  | socket domain socktype tp =>
    simp [PyRequest.entry, uringioPrepSocket, PyRequest.EndsNull, PyRequest.FollowsNull]
  | read f offset size tp =>
    simp [PyRequest.entry, uringioFileRead, ofFile, PyRequest.EndsNull, PyRequest.FollowsNull,
      meets_linear_read, and_assoc]
  | readv f buffers offset nowait tp =>
    simp only [PyRequest.entry, uringioFileReadv, ofFile, meets_onFile, PyRequest.EndsNull,
      PyRequest.FollowsNull, and_congr_right_iff]
    intro _
    unfold readvPayload PyEnv.Unreadable
    split <;> simp
  | writev f buffers flags offset tp =>
    simp [PyRequest.entry, uringioFileWritev, ofFile, PyRequest.EndsNull, PyRequest.FollowsNull,
      PyEnv.Unreadable]
  | accept s tp =>
    simp [PyRequest.entry, uringioSocketAccept, PyRequest.EndsNull, PyRequest.FollowsNull,
      and_assoc]
  | send s data is_poll_first tp =>
    simp [PyRequest.entry, uringioSocketSend, ofSocket, PyRequest.EndsNull, PyRequest.FollowsNull,
      PyEnv.Unreadable, and_assoc]
  | recv s bufsize buffer is_poll_first tp =>
    simp [PyRequest.entry, uringioSocketRecv, ofSocket, PyRequest.EndsNull, PyRequest.FollowsNull,
      meets_linear_read, PyEnv.Unreadable]
  | recvfrom s bufsize buffer host port domain is_poll_first tp =>
    simp [PyRequest.entry, uringioSocketRecvfrom, ofSocket, PyRequest.EndsNull,
      PyRequest.FollowsNull, meets_linear, meets_freesPayload, and_assoc]
  | sendmsg s buffers host port domain is_poll_first tp =>
    simp only [PyRequest.entry, uringioSocketSendmsg, PyRequest.EndsNull, PyRequest.FollowsNull]
    cases host <;> simp [PyEnv.Unreadable]
    · intro henters
      have hopen := henters.object
      tauto
    · intro henters _
      have hopen := henters.object
      tauto
  | recvmsg s buffers is_poll_first tp =>
    simp [PyRequest.entry, uringioSocketRecvmsg, ofSocket, PyRequest.EndsNull,
      PyRequest.FollowsNull, PyEnv.Unreadable]
  | timer params =>
    simp [PyRequest.entry, uringioLoopTimer, ofFile, PyRequest.EndsNull, PyRequest.FollowsNull]
  | _ =>
    simp [PyRequest.entry, uringioFileAexit, uringioSocketAexit, uringioFileClose, uringioFileFsync,
      uringioFileFdatasync, uringioFileSplice, uringioFileWrite, uringioFileReadvRaw,
      uringioFileWritevRaw, uringioSocketListen, uringioSocketClose, ofFile, ofSocket,
      uringioSocketBind, uringioSocketConnect, onAddress, uringioSocketSendto, PyRequest.EndsNull,
      PyRequest.FollowsNull]

/-- **When a call from Python follows a null pointer.** -/
theorem run_nullDeref_iff (hctx : L.ContextsServing) (hcons : L.registry.Consistent) :
    (PyOp.request req).run L env = .error (.fault .nullDeref) ↔ req.FollowsNull L env := by
  rw [← meets_entry, meets_iff []]
  simp only [PyOp.run, EntryPoint.run]
  cases hwalk : walk (req.entry L env).stages none [] with
  | crashed crash => simp
  | left pending taken given => simp
  | through pending taken =>
    rw [← call_nullDeref_iff hctx hcons (built_of_through hwalk)]
    cases hcall : L.call env.ctx (req.entry L env).op env.call with
    | error fault => simp
    | ok c =>
      simp only
      split_ifs <;> simp

end Uringio
