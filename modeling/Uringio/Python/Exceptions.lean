import Uringio.Loop.Results
import Uringio.Python.Rejected

/-!
# The null pointer and the exception

A function that Python calls returns the null pointer exactly if it leaves an exception pending:
that is the interpreter's protocol, and the interpreter raises a `SystemError` where it is broken.
What a stage does with nothing pending is stated once (`Stage.Says`), and read off the stages of
each entry point (`failsQuietly_entry`). Two stages fail without an exception: `_serialize_address`
on a domain that it does not know, and the constructors of payloads when the block of the payload
cannot be allocated. Nothing else is silent. The stages after a future was created leave nothing
pending (`settles_entry`), a full registry is reported, and so is every result of a dispatcher
(`failedError_ne_none`). `__aenter__` errs the other way: it returns its future when `set_result`
raised.

So an entry point keeps the protocol exactly if the call is not one of these (`null_iff_exception`).
-/

namespace Uringio

open Unwind

/-! ## The silent calls -/

/-- The call passes the assertions of a method, and its arguments are parsed, without an exception:
`closed` is that of the object, and `ints` are the integers among the arguments. -/
structure PyEnv.Proceeds (env : PyEnv) (closed : Bool) (ints : List ℤ)
  (timeout_params : TimeoutArg) :
    Prop where
  /-- The call comes from the thread of the loop. -/
  thread : env.thread = true
  /-- The loop is not closed. -/
  loop : env.closed = some false
  /-- The object is not closed. -/
  object : closed = false
  /-- The arguments have the types of the format. -/
  parses : env.parses = true
  /-- The integers fit into an `int`. -/
  ints : ∀ x ∈ ints, CInt.IsInt x
  /-- The timeout is parsed. -/
  timeout : timeout_params.error = none
  /-- Its numbers fit. -/
  fits : timeout_params.Fits

/-- `_serialize_address` does not know the domain. -/
def PyEnv.UnknownDomain (env : PyEnv) (domain : ℤ) : Prop :=
  env.allocates .sockaddr = true ∧ domain ≠ AF_INET ∧ domain ≠ AF_INET6

/-- `_serialize_address` succeeds. -/
def PyEnv.Serializes (env : PyEnv) (domain : ℤ) : Prop :=
  env.allocates .sockaddr = true ∧ (domain = AF_INET ∨ domain = AF_INET6) ∧
    env.inet_pton domain = true

/-- The call builds a payload of its own, unless the context `served` it, and there is no memory for
its block. -/
def PyEnv.NoBlock (env : PyEnv) (served : Bool) : Prop :=
  env.context.isSome = true ∧ served = false ∧ env.allocates .payload = false

/-- The call fails without an exception. -/
def PyRequest.Silent (L : Loop) (env : PyEnv) : PyRequest → Prop
  | .read f offset size tp =>
    env.Proceeds (L.files f).closed [offset, size] tp ∧ env.future = true ∧
      env.NoBlock (servedByContext L env BufferPayload.servesLinear)
  | .readv f buffers offset _ tp =>
    env.Proceeds (L.files f).closed [offset] tp ∧
      env.NoBlock (servedByContext L env BufferPayload.provides ||
        buffers.isNone && servedByContext L env BufferPayload.servesVectored)
  | .writev f _ flags offset tp =>
    env.Proceeds (L.files f).closed [flags, offset] tp ∧ env.NoBlock false
  | .bind s port tp | .connect s port tp =>
    env.Proceeds (L.sockets s).closed [port] tp ∧ env.UnknownDomain (L.sockets s).domain
  | .recv s bufsize buffer _ tp =>
    env.Proceeds (L.sockets s).closed [bufsize] tp ∧
      env.NoBlock (buffer.isNone && servedByContext L env BufferPayload.servesLinear)
  | .sendto s _ port domain _ tp =>
    env.Proceeds (L.sockets s).closed [port, domain] tp ∧ env.UnknownDomain domain
  | .recvfrom s bufsize buffer host port domain _ tp =>
    env.Proceeds (L.sockets s).closed (bufsize :: port.toList ++ domain.toList) tp ∧
      (host && port.isSome && domain.isSome) = true ∧
      (env.UnknownDomain (domain.getD 0) ∨
        (env.Serializes (domain.getD 0) ∧
          env.NoBlock (buffer.isNone && servedByContext L env BufferPayload.servesLinear)))
  | .sendmsg s _ host port domain _ tp =>
    env.Proceeds (L.sockets s).closed [port, domain] tp ∧
      ((host = true ∧ env.UnknownDomain domain) ∨
        ((host = true → env.Serializes domain) ∧ env.NoBlock false))
  | .recvmsg s buffers _ tp =>
    env.Proceeds (L.sockets s).closed [] tp ∧ buffers.isSome = true ∧ env.NoBlock false
  | _ => False

/-- The call breaks the protocol: a request fails without an exception, or an `__aenter__` returns
its future with one. -/
def PyOp.Silent (L : Loop) (env : PyEnv) : PyOp → Prop
  | .request req => req.Silent L env
  | .aenterFile _ | .aenterSocket _ => env.future = true ∧ env.setResult = false

variable {L : Loop} {env : PyEnv} {op : PyOp} {req : PyRequest} {r : PyCalled} {ok : Bool}
  {e : PyExc} {unwinds : List Res} {x : Res} {ints : List ℤ} {tp : TimeoutArg} {domain : ℤ}
  {step : Step} {P : Prop} {stages : List Step}

/-! ## The stages -/

/-- A check that fails says so. -/
instance check_says : (check ok e unwinds).Says (ok = true) False where
  sticky e' pending' h := by
    cases ok <;> simp [check] at h <;> simp [← h]
  passes := by cases ok <;> simp [check]
  fails := by cases ok <;> simp [check]

/-- An allocation that fails says so. -/
instance allocate_says : (allocate ok x unwinds).Says (ok = true) False where
  sticky e' pending' h := by
    cases ok <;> simp [allocate] at h <;> simp [← h]
  passes := by cases ok <;> simp [allocate]
  fails := by cases ok <;> simp [allocate]

/-- An unchecked allocation does not fail. -/
instance allocateUnchecked_says : (allocateUnchecked x).Says True False where
  sticky e' pending' h := by
    simp [allocateUnchecked] at h
    simp [← h]
  passes := by simp [allocateUnchecked]
  fails := by simp [allocateUnchecked]

/-- The use of the variables says that they are not there. -/
instance useVariables_says : (useVariables ok).Says (ok = true) False where
  sticky e' pending' h := by
    cases ok <;> simp [useVariables] at h
    simp [← h]
  passes := by cases ok <;> simp [useVariables]
  fails := by cases ok <;> simp [useVariables]

/-- The assert of the running loop says that it is another one. -/
instance assertLoopIsUringio_says :
    (assertLoopIsUringio env).Says (env.runningLoop = .uring) False where
  sticky e' pending' h := by
    cases hloop : env.runningLoop <;> simp [assertLoopIsUringio, hloop] at h <;> simp [← h]
  passes := by cases hloop : env.runningLoop <;> simp [assertLoopIsUringio, hloop]
  fails := by cases hloop : env.runningLoop <;> simp [assertLoopIsUringio, hloop]

/-- The assert of the thread says that it is another one. -/
instance assertLoopThread_says : (assertLoopThread env).Says (env.thread = true) False := check_says

/-- The assert of the closing loop says that it is closed. -/
instance assertRingLoopIsClosing_says :
    (assertRingLoopIsClosing env).Says (env.closed = some false) False where
  sticky e' pending' h := by
    rcases hclosed : env.closed with _ | _ | _ <;>
      simp [assertRingLoopIsClosing, hclosed] at h <;> simp [← h]
  passes := by
    rcases hclosed : env.closed with _ | _ | _ <;> simp [assertRingLoopIsClosing, hclosed]
  fails := by
    rcases hclosed : env.closed with _ | _ | _ <;> simp [assertRingLoopIsClosing, hclosed]

/-- The assert of an open object says that it is closed. -/
instance assertOpen_says {closed : Bool} {text : String} :
    (assertOpen closed text).Says ((!closed) = true) False := check_says

/-- The parsing says that an argument does not fit. -/
instance parseTuple_says : (parseTuple env ints unwinds).Says
    ((env.parses && ints.all fun x => decide (CInt.IsInt x)) = true) False := check_says

/-- The timeout's parsing says that it is wrong or does not fit. -/
instance parseTimeoutParams_says :
    (parseTimeoutParams tp unwinds).Says (tp.error = none ∧ tp.Fits) False where
  sticky e' pending' h := by
    cases herror : tp.error <;> simp [parseTimeoutParams, herror] at h
    · rw [← h]
      split <;> simp
    · simp [← h]
  passes := by cases herror : tp.error <;> simp [parseTimeoutParams, herror]
  fails := by cases herror : tp.error <;> simp [parseTimeoutParams, herror]

/-- The timer's parsing says that it is wrong or does not fit. -/
instance parseTimerParams_says {params : TimerArg} :
    (parseTimerParams params).Says (params.error = none ∧ params.Fits) False where
  sticky e' pending' h := by
    cases herror : params.error <;> simp [parseTimerParams, herror] at h
    · rw [← h]
      split <;> simp
    · simp [← h]
  passes := by cases herror : params.error <;> simp [parseTimerParams, herror]
  fails := by cases herror : params.error <;> simp [parseTimerParams, herror]

/-- The decoding of the path says that it is no path. -/
instance decodePath_says {path : PathArg} :
    (decodePath path unwinds).Says (∃ text, path = .path text) False where
  sticky e' pending' h := by
    cases path <;> simp [decodePath] at h <;> simp [← h]
  passes := by cases path <;> simp [decodePath]
  fails := by cases path <;> simp [decodePath]

/-- `_serialize_address` is silent on a domain that it does not know. -/
instance serializeAddress_says :
    (serializeAddress env domain).Says (env.Serializes domain) (env.UnknownDomain domain) where
  sticky e' pending' h := by
    unfold serializeAddress at h
    simp only at h
    split_ifs at h <;> simp at h <;> simp [← h]
  passes := by
    unfold serializeAddress PyEnv.Serializes
    simp only
    split_ifs with halloc hinet hpton hinet6 hpton <;> simp_all [AF_INET, AF_INET6]
  fails := by
    unfold serializeAddress PyEnv.UnknownDomain
    simp only
    split_ifs with halloc hinet hpton hinet6 hpton <;> simp_all [AF_INET, AF_INET6]

/-- Creating a future says that it failed. -/
instance createFuture_says : (createFuture env unwinds).Says (env.future = true) False where
  sticky e' pending' h := by
    simp [createFuture] at h
    simp [← h]
  passes := by cases hfuture : env.future <;> simp [createFuture, hfuture]
  fails := by cases hfuture : env.future <;> simp [createFuture, hfuture]

/-- Reading the context says that there is none. -/
instance readContext_says : (readContext env).Says (env.context.isSome = true) False where
  sticky e' pending' h := by simp [readContext] at h
  passes := by cases hcontext : env.context <;> simp [readContext, hcontext]
  fails := by cases hcontext : env.context <;> simp [readContext, hcontext]

/-- The payload of the data says that it was not made. -/
instance createPayloadFromData_says {data : Item} :
    (createPayloadFromData env data unwinds).Says
      ((env.allocates .payload = true ∧ env.allocates .arrays = true) ∧
        (data.getBuffer PyBUF_CONTIG_RO).isSome = true) False where
  sticky e' pending' h := by
    unfold createPayloadFromData at h
    simp only at h
    split_ifs at h <;> simp at h <;> simp [← h]
  passes := by
    cases hblock : env.allocates .payload <;> cases harrays : env.allocates .arrays <;>
      cases hbuffer : data.getBuffer PyBUF_CONTIG_RO <;>
      simp [createPayloadFromData, hblock, harrays, hbuffer]
  fails := by
    unfold createPayloadFromData
    simp only
    split_ifs with halloc hbuffer <;> simp

/-- The raw buffer says that the object does not export it. -/
instance getRawBuffer_says {raw : RawArg} {flags : BufferFlags} :
    (getRawBuffer raw flags).Says ((raw.item.getBuffer flags).isSome = true) False where
  sticky e' pending' h := by
    unfold getRawBuffer at h
    simp only at h
    split_ifs at h <;> simp at h <;> simp [← h]
  passes := by cases hbuffer : raw.item.getBuffer flags <;> simp [getRawBuffer, hbuffer]
  fails := by cases hbuffer : raw.item.getBuffer flags <;> simp [getRawBuffer, hbuffer]

/-- The check of the raw size says that it is not whole iovecs. -/
instance checkRawSize_says {raw : RawArg} :
    (checkRawSize raw).Says (decide (raw.len % sizeofIovec = 0) = true) False := check_says

/-- The check of the raw buffer says that it is not contiguous. -/
instance checkRawContiguous_says {raw : RawArg} :
    (checkRawContiguous raw).Says (raw.item.all (·.contiguous) = true) False := check_says

/-- The payload of a buffer says that it was not allocated. -/
instance createPayloadFromPybuffer_says :
    (createPayloadFromPybuffer env unwinds).Says
      ((env.allocates .payload && env.allocates .arrays) = true) False := check_says

/-- A constructor of a payload is silent when the block cannot be allocated. -/
instance getOrCreateLinear_says {buffers : Option BufferSeq} {bufsize : ℤ} :
    (getOrCreateLinear L env buffers bufsize unwinds).Says
      (env.context.isSome = true ∧
        ((buffers.isNone && servedByContext L env BufferPayload.servesLinear) = true ∨
          (env.allocates .payload = true ∧ newLinearError env buffers bufsize = none)))
      (env.NoBlock (buffers.isNone && servedByContext L env BufferPayload.servesLinear)) where
  sticky e' pending' h := by simp [getOrCreateLinear] at h
  passes := by
    generalize hserved :
      (buffers.isNone && servedByContext L env BufferPayload.servesLinear) = served
    cases hcontext : env.context <;> cases served <;> cases hblock : env.allocates .payload <;>
      simp [getOrCreateLinear, hserved, hcontext, hblock]
  fails := by
    generalize hserved :
      (buffers.isNone && servedByContext L env BufferPayload.servesLinear) = served
    cases hcontext : env.context <;> cases served <;> cases hblock : env.allocates .payload <;>
      simp [getOrCreateLinear, PyEnv.NoBlock, hserved, hcontext, hblock]

/-- The vectored buffer says that it was not made. -/
instance getOrCreateVectored_says {buffers : Option BufferSeq} :
    (getOrCreateVectored L env buffers unwinds).Says
      (env.context.isSome = true ∧
        ((buffers.isNone && servedByContext L env BufferPayload.servesVectored) = true ∨
          (env.allocates .payload = true ∧ newVectoredError env buffers = none)))
      (env.NoBlock (buffers.isNone && servedByContext L env BufferPayload.servesVectored)) where
  sticky e' pending' h := by simp [getOrCreateVectored] at h
  passes := by
    generalize hserved : (buffers.isNone && servedByContext L env BufferPayload.servesVectored) =
      served
    cases hcontext : env.context <;> cases served <;> cases hblock : env.allocates .payload <;>
      cases herror : newVectoredError env buffers <;>
      simp [getOrCreateVectored, hserved, hcontext, hblock, herror]
  fails := by
    generalize hserved : (buffers.isNone && servedByContext L env BufferPayload.servesVectored) =
      served
    cases hcontext : env.context <;> cases served <;> cases hblock : env.allocates .payload <;>
      cases herror : newVectoredError env buffers <;>
      simp [getOrCreateVectored, PyEnv.NoBlock, hserved, hcontext, hblock, herror]

/-- The payload of `UringioFile_readv`. -/
instance readvPayload_says {buffers : Option BufferSeq} :
    (readvPayload L env buffers).Says
      (env.context.isSome = true ∧
        ((servedByContext L env BufferPayload.provides ||
            buffers.isNone && servedByContext L env BufferPayload.servesVectored) = true ∨
          (env.allocates .payload = true ∧ newVectoredError env buffers = none)))
      (env.NoBlock (servedByContext L env BufferPayload.provides ||
        buffers.isNone && servedByContext L env BufferPayload.servesVectored)) := by
  unfold readvPayload
  cases servedByContext L env BufferPayload.provides with
  | true => simpa [PyEnv.NoBlock] using readContext_says
  | false => simpa using getOrCreateVectored_says

/-- The failure of a stage with a payload to free. -/
instance freesPayload_says {built : Bool} [h : step.Says P False] :
    (freesPayload env built step).Says P False := by
  refine h.of_failures (fun pending pending' => ?_) fun pending pending' hends => ?_
  · unfold freesPayload
    simp only
    cases hrun : step.run pending with
    | fails before =>
      simp only
      split_ifs <;> simp
    | _ => rfl
  · unfold freesPayload at hends
    simp only at hends
    split at hends
    · next before hrun =>
      split_ifs at hends
      cases hends
      exact ⟨_, hrun, id⟩
    · next hno => exact absurd hends (hno _)

/-- An `__aexit__` raises a group where the step would raise. -/
instance onExit_says {had_exception : Bool} [h : step.Says P False] :
    (onExit env had_exception step).Says P False := by
  refine h.of_failures (fun pending pending' => ?_) fun pending pending' hends => ?_
  · unfold onExit
    simp only
    cases step.run pending <;> simp
  · unfold onExit at hends
    simp only at hends
    split at hends
    · next before hrun =>
      cases hends
      exact ⟨_, hrun, fun hsome => by split <;> simp [hsome]⟩
    · next hno => exact absurd hends (hno _)

/-! ### Stages that want nothing to be pending, and stages that raise nothing -/

/-- Creating a future fails with an exception. -/
@[simp] theorem createFuture_strict : (createFuture env unwinds).Strict := by
  intro pending pending' h
  unfold createFuture at h
  simp only at h
  split at h <;> cases h
  rfl

/-- Reading the context fails with an exception. -/
@[simp] theorem readContext_strict : (readContext env).Strict := by
  intro pending pending' h
  unfold readContext at h
  simp only at h
  split at h
  · cases h
  · next hno =>
    cases h
    simpa using (not_or.mp hno).1

/-- Freeing the payload on a failure leaves the exception. -/
@[simp] theorem freesPayload_strict {built : Bool} (h : step.Strict) :
    (freesPayload env built step).Strict := by
  intro pending pending' hrun
  unfold freesPayload at hrun
  simp only at hrun
  split at hrun
  · split_ifs at hrun
  · exact h _ _ hrun

/-- Releasing on a failure leaves the exception. -/
@[simp] theorem onExit_strict {had_exception : Bool} (h : step.Strict) :
    (onExit env had_exception step).Strict := by
  intro pending pending' hrun
  unfold onExit at hrun
  simp only at hrun
  split at hrun
  · cases hrun
  · exact h _ _ hrun

/-- An unchecked allocation leaves nothing pending. -/
@[simp] theorem allocateUnchecked_clean : (allocateUnchecked x).Clean := by
  intro pending' h
  cases h
  rfl

/-- The payload of the data leaves nothing pending. -/
@[simp] theorem createPayloadFromData_clean {data : Item} :
    (createPayloadFromData env data unwinds).Clean := by
  intro pending' h
  unfold createPayloadFromData at h
  simp only at h
  split_ifs at h
  cases h
  rfl

/-! ## The entry points -/

/-- A call proceeds when its asserts, its parsing and its timeout do. -/
theorem proceeds_iff {closed : Bool} : env.Proceeds closed ints tp ↔
    env.thread = true ∧ env.closed = some false ∧ closed = false ∧ env.parses = true ∧
      (∀ x ∈ ints, CInt.IsInt x) ∧ tp.error = none ∧ tp.Fits :=
  ⟨fun ⟨h₁, h₂, h₃, h₄, h₅, h₆, h₇⟩ => ⟨h₁, h₂, h₃, h₄, h₅, h₆, h₇⟩,
    fun ⟨h₁, h₂, h₃, h₄, h₅, h₆, h₇⟩ => ⟨h₁, h₂, h₃, h₄, h₅, h₆, h₇⟩⟩

open EntryPoint in
/-- **Which entry points fail without an exception.** -/
theorem failsQuietly_entry (L : Loop) (env : PyEnv) (req : PyRequest) :
    FailsQuietly (req.entry L env).stages ↔ req.Silent L env := by
  cases req with
  | read f offset size tp =>
    simp [PyRequest.entry, uringioFileRead, ofFile, onFile, proceeds_iff, and_assoc,
      PyRequest.Silent]
  | readv f buffers offset nowait tp =>
    simp [PyRequest.entry, uringioFileReadv, ofFile, onFile, proceeds_iff, and_assoc,
      PyRequest.Silent]
  | writev f buffers flags offset tp =>
    simp [PyRequest.entry, uringioFileWritev, ofFile, onFile, proceeds_iff, and_assoc,
      PyRequest.Silent]
  | bind s port tp | connect s port tp =>
    simp [PyRequest.entry, uringioSocketBind, uringioSocketConnect, onAddress, onSocket,
      proceeds_iff, and_assoc, PyRequest.Silent]
  | recv s bufsize buffer is_poll_first tp =>
    simp [PyRequest.entry, uringioSocketRecv, ofSocket, onSocket, proceeds_iff, and_assoc,
      PyRequest.Silent]
  | sendto s data port domain is_poll_first tp =>
    simp [PyRequest.entry, uringioSocketSendto, onSocket, proceeds_iff, and_assoc, PyRequest.Silent]
  | recvfrom s bufsize buffer host port domain is_poll_first tp =>
    simp [PyRequest.entry, uringioSocketRecvfrom, ofSocket, onSocket, proceeds_iff, and_assoc,
      or_imp, forall_and, PyRequest.Silent]
  | sendmsg s buffers host port domain is_poll_first tp =>
    cases host <;>
      simp [PyRequest.entry, uringioSocketSendmsg, onSocket, proceeds_iff, and_assoc,
        PyRequest.Silent]
  | recvmsg s buffers is_poll_first tp =>
    cases buffers <;>
      simp [PyRequest.entry, uringioSocketRecvmsg, ofSocket, onSocket, proceeds_iff, and_assoc,
        PyRequest.Silent]
  | _ =>
    simp [PyRequest.entry, uringioOpen, uringioPrepSocket, uringioFileAexit, uringioSocketAexit,
      uringioFileClose, uringioFileFsync, uringioFileFdatasync, uringioFileSplice, uringioFileWrite,
      uringioFileReadvRaw, uringioFileWritevRaw, uringioSocketListen, uringioSocketAccept,
      uringioSocketClose, uringioSocketSend, uringioLoopTimer, ofFile, ofSocket, onFile, onSocket,
      PyRequest.Silent]

open EntryPoint in
/-- No stage of an entry point clears an exception. -/
theorem sticky_entry (L : Loop) (env : PyEnv) (req : PyRequest) :
    ∀ stage ∈ (req.entry L env).stages, stage.Sticky := by
  cases req with
  | sendmsg s buffers host port domain is_poll_first tp =>
    cases host <;> simp [PyRequest.entry, uringioSocketSendmsg, onSocket]
  | _ =>
    simp [PyRequest.entry, uringioOpen, uringioPrepSocket, uringioFileAexit, uringioSocketAexit,
      uringioFileClose, uringioFileFsync, uringioFileFdatasync, uringioFileSplice, uringioFileWrite,
      uringioFileReadvRaw, uringioFileWritevRaw, uringioSocketListen, uringioSocketAccept,
      uringioSocketClose, uringioSocketSend, uringioLoopTimer, ofFile, ofSocket, onFile, onSocket,
      uringioFileRead, uringioFileReadv, uringioFileWritev, uringioSocketBind, uringioSocketConnect,
      onAddress, uringioSocketRecv, uringioSocketSendto, uringioSocketRecvfrom,
        uringioSocketRecvmsg]

open EntryPoint in
/-- Every entry point goes through with nothing pending: the stages behind its future raise nothing,
or want that nothing was raised. -/
theorem settles_entry (L : Loop) (env : PyEnv) (req : PyRequest) :
    Settles (req.entry L env).stages := by
  cases req with
  | sendmsg s buffers host port domain is_poll_first tp =>
    cases host <;> simp [PyRequest.entry, uringioSocketSendmsg, onSocket, Settles]
  | _ =>
    simp [PyRequest.entry, uringioOpen, uringioPrepSocket, uringioFileAexit, uringioSocketAexit,
      uringioFileClose, uringioFileFsync, uringioFileFdatasync, uringioFileSplice, uringioFileWrite,
      uringioFileReadvRaw, uringioFileWritevRaw, uringioSocketListen, uringioSocketAccept,
      uringioSocketClose, uringioSocketSend, uringioLoopTimer, ofFile, ofSocket, onFile, onSocket,
      uringioFileRead, uringioFileReadv, uringioFileWritev, uringioSocketBind, uringioSocketConnect,
      onAddress, uringioSocketRecv, uringioSocketSendto, uringioSocketRecvfrom,
        uringioSocketRecvmsg,
      Settles]

/-- The switch over the results of an operation knows that there was no entry, and that the
submission failed. -/
theorem failedError_ne_none_of_known {result : ℤ} (hknown : result = -1 ∨ result = 0) :
    (req.entry L env).failedError result ≠ none := by
  rcases hknown with rfl | rfl <;> cases req with
  | aexitFile f had_exception => cases had_exception <;> exact Option.some_ne_none _
  | aexitSocket s had_exception => cases had_exception <;> exact Option.some_ne_none _
  | _ => exact Option.some_ne_none _

/-- Only `Uringio_prep_socket` makes the call for a socket. -/
theorem failedError_of_socket {domain socktype : ℤ} {params : TimeoutParams}
    (hop : (req.entry L env).op = .socket domain socktype params) :
    (req.entry L env).failedError (-2) ≠ none := by
  cases req with
  | socket => exact Option.some_ne_none _
  | timer params =>
    simp only [PyRequest.entry, EntryPoint.uringioLoopTimer, EntryPoint.ofFile] at hop
    split at hop <;> cases hop
  | _ => cases hop

/-- **Every result of a failed dispatcher is raised.** -/
theorem failedError_ne_none {result : ℤ} (hlt : result < 1)
    (hreports : (req.entry L env).op.Reports result) :
    (req.entry L env).failedError result ≠ none := by
  rcases hreports with (hnoSqe | hfailed | hdone) | ⟨rfl, domain, socktype, params, hop⟩
  · exact failedError_ne_none_of_known (.inl hnoSqe)
  · exact failedError_ne_none_of_known (.inr hfailed)
  · omega
  · exact failedError_of_socket hop

/-- An entry point that went through its stages was not silent. -/
theorem not_silent_of_through {pending : Option PyExc} {taken : List Res}
    (hwalk : walk (req.entry L env).stages none [] = .through pending taken) :
    ¬ req.Silent L env := by
  intro hsilent
  obtain ⟨taken', given, hleft⟩ := (left_quietly_iff [] (sticky_entry L env req)).mpr
    ((failsQuietly_entry L env req).mpr hsilent)
  rw [hwalk] at hleft
  cases hleft

/-- The law for a request. -/
theorem request_null_iff (h : (PyOp.request req).run L env = .ok r) :
    (r.called.future = none ↔ r.pending ≠ none) ↔ ¬ req.Silent L env := by
  have hran : (req.entry L env).Ran L env r := EntryPoint.ran h
  cases hran with
  | left hwalk hcalled =>
    have hnull : r.called.future = none := by
      rw [hcalled]
      rfl
    have hquiet := left_quietly_iff [] (sticky_entry L env req)
    rw [failsQuietly_entry, hwalk] at hquiet
    rw [← hquiet, iff_true_left hnull]
    simp
  | accepted hwalk _ hfuture _ =>
    have hnone : r.pending = none := settled_of_through (settles_entry L env req) hwalk
    have hsome : r.called.future ≠ none := fun hnull => by
      rw [hnull] at hfuture
      cases hfuture
    refine iff_of_true (iff_of_false hsome fun hpending => hpending hnone) ?_
    exact not_silent_of_through hwalk
  | full pending hwalk _ hnull _ hpending _ =>
    refine iff_of_true (iff_of_true hnull ?_) (not_silent_of_through hwalk)
    rw [hpending]
    exact Option.some_ne_none _
  | failed pending hwalk hcall hnull hidx hpending _ =>
    refine iff_of_true (iff_of_true hnull ?_) (not_silent_of_through hwalk)
    -- The dispatcher's result is one that the switch knows.
    rcases Loop.call_null hcall hnull with hneg | ⟨hlt, hreports⟩
    · omega
    · obtain ⟨e, he⟩ := Option.ne_none_iff_exists'.mp (failedError_ne_none hlt hreports)
      rw [hpending, he]
      exact Option.some_ne_none _

/-- The law for `__aenter__`. -/
theorem aenter_null_iff {self : Outcome} :
    ((aenter L env self).called.future = none ↔ (aenter L env self).pending ≠ none) ↔
      ¬ (env.future = true ∧ env.setResult = false) := by
  cases hfuture : env.future <;> cases hset : env.setResult <;>
    simp [aenter, hfuture, hset, Loop.refused]

/-! ## The law -/

/-- **Null if and only if an exception.** A call from Python that returns keeps the protocol exactly
if it is not one of the silent ones. -/
theorem null_iff_exception (h : op.run L env = .ok r) :
    (r.called.future = none ↔ r.pending ≠ none) ↔ ¬ op.Silent L env := by
  cases op with
  | request req => exact request_null_iff h
  | aenterFile f | aenterSocket s =>
    cases h
    exact aenter_null_iff

/-- A datagram to an address of the domain `AF_UNIX`: the call returns the null pointer, and no
exception is pending. -/
theorem null_without_exception : ∃ r,
    (PyOp.request (.sendto (.made 0) (some ⟨⟨5000, 16⟩, true, true⟩) 80 1 false .absent)).run
      (Loop.init 8 CInt.eight_lt Sample.world Sample.initEnv).1 (Sample.pyEnv 2) = .ok r ∧
    ¬ (r.called.future = none ↔ r.pending ≠ none) := by
  obtain ⟨r, hr, -⟩ := toOption_map_eq_some.mp
    (show ((PyOp.request (.sendto (.made 0) (some ⟨⟨5000, 16⟩, true, true⟩) 80 1 false .absent)).run
      (Loop.init 8 CInt.eight_lt Sample.world Sample.initEnv).1 (Sample.pyEnv 2)).toOption.map
      (fun r => r.called.request_idx) = some (-1) by decide +kernel)
  have hsilent : PyOp.Silent (Loop.init 8 CInt.eight_lt Sample.world Sample.initEnv).1
      (Sample.pyEnv 2)
      (.request (.sendto (.made 0) (some ⟨⟨5000, 16⟩, true, true⟩) 80 1 false .absent)) :=
    ⟨⟨rfl, rfl, rfl, rfl, by decide, rfl, trivial⟩, rfl, by decide, by decide⟩
  exact ⟨r, hr, fun hiff => (null_iff_exception hr).mp hiff hsilent⟩

end Uringio
