import Uringio.Python.Steps

/-!
# The entry points

The functions of `files.c`, `sockets.c` and `timer.c` that Python calls, from their first line to
their last. Each is a record: the stages before the request is registered, in the order of the
source; the call proper, which is `Loop.call` on the parsed arguments; and what the function's own
lines give up and raise when the registry is full, when the dispatcher returned, and when it failed.
What `Loop.call` releases itself (the payload, the address and the header of a full registry, and
what the slot frees) is not in these lists.
-/

namespace Uringio

open Unwind

/-- A function that Python calls to make a request. -/
structure EntryPoint where
  /-- What it does up to the call proper, in order. -/
  stages : List Step
  /-- The call that is made with the parsed arguments. -/
  op : Op
  /-- What is given up when the registry is full. -/
  full : List Res
  /-- What is given up after the dispatcher, whatever its result. -/
  after : List Res
  /-- What is given up when the dispatcher failed. -/
  failed : List Res
  /-- What is raised when the registry is full. -/
  fullError : PyExc
  /-- What is raised for a result of the dispatcher, if anything. -/
  failedError : ℤ → Option PyExc

/-- What an entry point returns: what the call left, the exception that is pending, and the ledger
of the call: what it took, and what its own lines gave back. -/
structure PyCalled where
  /-- What the call proper did. -/
  called : Called
  /-- The exception that is pending on return. -/
  pending : Option PyExc
  /-- The resources that were taken. -/
  taken : List Res
  /-- The resources that were given back. -/
  given : List Res

/-- Run an entry point, with no exception pending. -/
def EntryPoint.run (e : EntryPoint) (L : Loop) (env : PyEnv) : Except Crash PyCalled :=
  match walk e.stages none [] with
  | .crashed crash => .error crash
  | .left pending taken given => .ok ⟨L.refused, pending, taken, given⟩
  | .through pending taken =>
    match L.call env.ctx e.op env.call with
    | .error fault => .error (.fault fault)
    | .ok c =>
      if c.future.isSome then .ok ⟨c, pending, taken, e.after⟩
      else if c.request_idx < 0 then .ok ⟨c, some e.fullError, taken, e.full⟩
      else .ok ⟨c, (e.failedError c.result).or pending, taken, e.after ++ e.failed⟩

/-- The ways in which an entry point returns. -/
inductive EntryPoint.Ran (e : EntryPoint) (L : Loop) (env : PyEnv) (r : PyCalled) : Prop
  /-- A stage failed. -/
  | left (hwalk : walk e.stages none [] = .left r.pending r.taken r.given)
      (hcalled : r.called = L.refused)
  /-- It returned its future. -/
  | accepted (hwalk : walk e.stages none [] = .through r.pending r.taken)
      (hcall : L.call env.ctx e.op env.call = .ok r.called)
      (hfuture : r.called.future.isSome = true) (hgiven : r.given = e.after)
  /-- The registry was full. -/
  | full (pending : Option PyExc) (hwalk : walk e.stages none [] = .through pending r.taken)
      (hcall : L.call env.ctx e.op env.call = .ok r.called) (hnull : r.called.future = none)
      (hidx : r.called.request_idx < 0) (hpending : r.pending = some e.fullError)
      (hgiven : r.given = e.full)
  /-- The dispatcher failed. -/
  | failed (pending : Option PyExc) (hwalk : walk e.stages none [] = .through pending r.taken)
      (hcall : L.call env.ctx e.op env.call = .ok r.called) (hnull : r.called.future = none)
      (hidx : 0 ≤ r.called.request_idx)
      (hpending : r.pending = (e.failedError r.called.result).or pending)
      (hgiven : r.given = e.after ++ e.failed)

/-- An entry point that returns has run as its stages say. -/
theorem EntryPoint.ran {e : EntryPoint} {L : Loop} {env : PyEnv} {r : PyCalled}
    (h : e.run L env = .ok r) : e.Ran L env r := by
  unfold EntryPoint.run at h
  split at h
  · cases h
  · next hwalk =>
    cases h
    exact .left hwalk rfl
  · next pending taken hwalk =>
    split at h
    · cases h
    · next c hcall =>
      split at h
      · next hfuture =>
        cases h
        exact .accepted hwalk hcall hfuture rfl
      · next hnull =>
        have hnull : c.future = none := by simpa using hnull
        split at h
        · next hidx =>
          cases h
          exact .full pending hwalk hcall hnull hidx rfl rfl
        · next hidx =>
          cases h
          exact .failed pending hwalk hcall hnull (not_lt.mp hidx) rfl rfl

/-! ## The errors -/

/-- `"Registry is full"`. -/
def registryFull : PyExc := .set .RuntimeError "Registry is full"

/-- The switch over the result of `Uringio_open`. -/
def openError (result : ℤ) : Option PyExc :=
  if result = -1 then some (.set .RuntimeError "SQE is not awailable")
  else if result = 0 then some (.set .RuntimeError "SQE submission failed")
  else none

/-- `_check_file_result`, and the end of `UringioLoop_timer`. -/
def checkFileResult (result : ℤ) : Option PyExc :=
  if result = -1 then some (.set .RuntimeError "SQE is not awailable\n")
  else if result = 0 then some (.set .RuntimeError "SQE submission failed\n")
  else none

/-- The switch over the result of a socket's dispatcher, with the text for the result `-2`. -/
def socketError (text : String) (result : ℤ) : Option PyExc :=
  if result = -1 then some (.set .RuntimeError "SQE is not awailable\n")
  else if result = -2 then some (.set .RuntimeError text)
  else if result = 0 then some (.set .RuntimeError "SQE submission failed\n")
  else none

/-- `_check_sockets_result`. -/
def checkSocketsResult : ℤ → Option PyExc := socketError "Wrong socket status.\n"

/-- `_raise_file_exception_group` and `_raise_socket_exception_group`: the exception that is pending
when an `async with` fails to close, together with the one of its body. -/
def raiseExceptionGroup (env : PyEnv) : Option PyExc → PyExc
  | none => .body
  | some close => if env.groups then .group close else .raised

/-- The failure of a step in an `__aexit__`: after an exception of the body, a group is raised. -/
@[simps takes unwinds]
def onExit (env : PyEnv) (had_exception : Bool) (step : Step) : Step where
  run pending :=
    match step.run pending with
    | .fails e => .fails (if had_exception then some (raiseExceptionGroup env e) else e)
    | ends => ends
  takes := step.takes
  unwinds := step.unwinds

namespace EntryPoint

variable (L : Loop) (env : PyEnv)

/-- An entry point of a file that holds no more than its future. -/
def ofFile (stages : List Step) (op : Op) : EntryPoint where
  stages := stages
  op := op
  full := [.future]
  after := []
  failed := [.future]
  fullError := registryFull
  failedError := checkFileResult

/-- An entry point of a socket that holds no more than its future. -/
def ofSocket (stages : List Step) (op : Op) : EntryPoint where
  stages := stages
  op := op
  full := [.future]
  after := []
  failed := [.future]
  fullError := registryFull
  failedError := checkSocketsResult

/-- The first lines of the methods of a file. -/
def onFile (self : FileRef) : List Step :=
  [assertLoopThread env, assertRingLoopIsClosing env,
    assertOpen (L.files self).closed "File is closed"]

/-- The first lines of the methods of a socket. -/
def onSocket (self : SocketRef) : List Step :=
  [assertLoopThread env, assertRingLoopIsClosing env,
    assertOpen (L.sockets self).closed "Socket is closed"]

/-! ## Files -/

/-- `Uringio_open`. -/
def uringioOpen (path : PathArg) (dfd flags resolve mode : ℤ) (timeout_params : TimeoutArg) :
    EntryPoint where
  stages :=
    [assertLoopIsUringio env, assertLoopThread env, assertRingLoopIsClosing env,
      allocate (env.allocates .object) .object [],
      parseTuple env [dfd, flags, resolve, mode] [.object],
      decodePath path [.object],
      parseTimeoutParams timeout_params [.object],
      createFuture env [.object]]
  op := .open path.text dfd flags resolve mode timeout_params.params
  full := [.object, .future]
  after := []
  failed := [.object, .future]
  fullError := registryFull
  failedError := openError

/-- `UringioFile_aexit`. -/
def uringioFileAexit (self : FileRef) (had_exception : Bool) : EntryPoint where
  stages := [parseTuple env [] [], onExit env had_exception (createFuture env [])]
  op := .aexitFile self
  full := [.future]
  after := []
  failed := [.future]
  fullError := if had_exception then raiseExceptionGroup env none else registryFull
  failedError r :=
    if had_exception then some (raiseExceptionGroup env (checkFileResult r)) else checkFileResult r

/-- `UringioFile_close`. -/
def uringioFileClose (self : FileRef) (timeout_params : TimeoutArg) : EntryPoint :=
  ofFile
    (onFile L env self ++
      [parseTuple env [] [], parseTimeoutParams timeout_params [], createFuture env []])
    (.closeFile self timeout_params.params)

/-- `UringioFile_read`. -/
def uringioFileRead (self : FileRef) (offset size : ℤ) (timeout_params : TimeoutArg) :
    EntryPoint :=
  ofFile
    (onFile L env self ++
      [parseTuple env [offset, size] [], parseTimeoutParams timeout_params [], createFuture env [],
        getOrCreateLinear L env none size [.future], readContext env])
    (.read self offset size timeout_params.params)

/-- `UringioFile_readv`. -/
def uringioFileReadv (self : FileRef) (buffers_obj : Option BufferSeq) (offset : ℤ) (nowait : Bool)
    (timeout_params : TimeoutArg) : EntryPoint :=
  let payload := readvPayload L env buffers_obj
  ofFile
    (onFile L env self ++
      [parseTuple env [offset] [], parseTimeoutParams timeout_params [], payload,
        createFuture env payload.takes])
    (.readv self (buffers_obj.map fun b => regions (b.vectored.getD [])) offset nowait
      timeout_params.params)

/-- `UringioFile_readv_raw`. -/
def uringioFileReadvRaw (self : FileRef) (iovecs_obj : RawArg) (offset nowait : ℤ)
    (timeout_params : TimeoutArg) : EntryPoint :=
  ofFile
    (onFile L env self ++
      [parseTuple env [nowait, offset] [], parseTimeoutParams timeout_params [],
        getRawBuffer iovecs_obj PyBUF_WRITABLE_STRIDES, checkRawSize iovecs_obj,
        checkRawContiguous iovecs_obj, createPayloadFromPybuffer env [],
        createFuture env [.payload]])
    (.readvRaw self iovecs_obj.iovecs offset (nowait ≠ 0) timeout_params.params)

/-- `UringioFile_write`. -/
def uringioFileWrite (self : FileRef) (data : Item) (offset : ℤ) (timeout_params : TimeoutArg) :
    EntryPoint :=
  ofFile
    (onFile L env self ++
      [parseTuple env [offset] [], parseTimeoutParams timeout_params [], createFuture env [],
        createPayloadFromData env data [.future]])
    (.write self (data.elim ⟨0, 0⟩ Exporter.region) offset timeout_params.params)

/-- `UringioFile_writev`. -/
def uringioFileWritev (self : FileRef) (buffers_obj : BufferSeq) (flags offset : ℤ)
    (timeout_params : TimeoutArg) : EntryPoint :=
  ofFile
    (onFile L env self ++
      [parseTuple env [flags, offset] [], parseTimeoutParams timeout_params [],
        getOrCreateVectored L env (some buffers_obj) [], createFuture env [.payload]])
    (.writev self (regions (buffers_obj.vectored.getD [])) flags offset timeout_params.params)

/-- `UringioFile_writev_raw`. -/
def uringioFileWritevRaw (self : FileRef) (buffers_obj : RawArg) (flags offset : ℤ)
    (timeout_params : TimeoutArg) : EntryPoint :=
  ofFile
    (onFile L env self ++
      [parseTuple env [flags, offset] [], parseTimeoutParams timeout_params [],
        getRawBuffer buffers_obj PyBUF_SIMPLE, checkRawSize buffers_obj,
        checkRawContiguous buffers_obj, createPayloadFromPybuffer env [.payload],
        createFuture env [.payload]])
    (.writevRaw self buffers_obj.iovecs flags offset timeout_params.params)

/-- `UringioFile_fsync`. -/
def uringioFileFsync (self : FileRef) (timeout_params : TimeoutArg) : EntryPoint :=
  ofFile
    (onFile L env self ++
      [parseTuple env [] [], parseTimeoutParams timeout_params [], createFuture env []])
    (.fsync self timeout_params.params)

/-- `UringioFile_fdatasync`. -/
def uringioFileFdatasync (self : FileRef) (timeout_params : TimeoutArg) : EntryPoint :=
  ofFile
    (onFile L env self ++
      [parseTuple env [] [], parseTimeoutParams timeout_params [], createFuture env []])
    (.fdatasync self timeout_params.params)

/-- `UringioFile_splice`. -/
def uringioFileSplice (self : FileRef) (src dst count offset_src offset_dst flag : ℤ)
    (timeout_params : TimeoutArg) : EntryPoint :=
  ofFile
    (onFile L env self ++
      [parseTuple env [src, dst, count, offset_src, offset_dst, flag] [],
        parseTimeoutParams timeout_params [], createFuture env []])
    (.splice self src dst count offset_src offset_dst flag timeout_params.params)

/-! ## Sockets -/

/-- `Uringio_prep_socket`. -/
def uringioPrepSocket (domain socktype : ℤ) (timeout_params : TimeoutArg) : EntryPoint where
  stages :=
    [assertLoopIsUringio env, assertLoopThread env, assertRingLoopIsClosing env,
      allocate (env.allocates .object) .object [],
      parseTuple env [domain, socktype] [.object],
      parseTimeoutParams timeout_params [.object],
      createFuture env [.object]]
  op := .socket domain socktype timeout_params.params
  full := [.object, .future]
  after := []
  failed := [.object, .future]
  fullError := registryFull
  failedError := socketError "Passed socket domain values are not awailable\n"

/-- `UringioSocket_aexit`. -/
def uringioSocketAexit (self : SocketRef) (had_exception : Bool) : EntryPoint where
  stages := [parseTuple env [] [], onExit env had_exception (createFuture env [])]
  op := .aexitSocket self
  full := [.future]
  after := []
  failed := [.future]
  fullError := if had_exception then raiseExceptionGroup env none else registryFull
  failedError r :=
    if had_exception then some (raiseExceptionGroup env (checkSocketsResult r))
    else checkSocketsResult r

/-- The common part of `UringioSocket_bind` and `UringioSocket_connect`: the address is freed when
the dispatcher has returned. -/
def onAddress (self : SocketRef) (port : ℤ) (timeout_params : TimeoutArg) (op : Op) :
    EntryPoint where
  stages :=
    onSocket L env self ++
      [parseTuple env [port] [], parseTimeoutParams timeout_params [],
        serializeAddress env (L.sockets self).domain, createFuture env [.sockaddr]]
  op := op
  full := [.future, .sockaddr]
  after := [.sockaddr]
  failed := [.future]
  fullError := registryFull
  failedError := checkSocketsResult

/-- `UringioSocket_bind`. -/
def uringioSocketBind (self : SocketRef) (port : ℤ) (timeout_params : TimeoutArg) : EntryPoint :=
  onAddress L env self port timeout_params (.bind self timeout_params.params)

/-- `UringioSocket_connect`. -/
def uringioSocketConnect (self : SocketRef) (port : ℤ) (timeout_params : TimeoutArg) :
    EntryPoint :=
  onAddress L env self port timeout_params (.connect self timeout_params.params)

/-- `UringioSocket_listen`. -/
def uringioSocketListen (self : SocketRef) (backlog : ℤ) (timeout_params : TimeoutArg) :
    EntryPoint :=
  ofSocket
    (onSocket L env self ++
      [parseTuple env [backlog] [], parseTimeoutParams timeout_params [], createFuture env []])
    (.listen self backlog timeout_params.params)

/-- `UringioSocket_accept`. -/
def uringioSocketAccept (self : SocketRef) (timeout_params : TimeoutArg) : EntryPoint where
  stages :=
    onSocket L env self ++
      [parseTuple env [] [], parseTimeoutParams timeout_params [], createFuture env [],
        allocate (env.allocates .addrlen) .addrlen [], allocateUnchecked .sockaddr,
        readContext env]
  op := .accept self timeout_params.params
  full := [.future, .addrlen]
  after := []
  failed := [.future]
  fullError := registryFull
  failedError := checkSocketsResult

/-- `UringioSocket_close`. -/
def uringioSocketClose (self : SocketRef) (timeout_params : TimeoutArg) : EntryPoint :=
  ofSocket
    (onSocket L env self ++
      [parseTuple env [] [], parseTimeoutParams timeout_params [], createFuture env []])
    (.closeSocket self timeout_params.params)

/-- `UringioSocket_send`. -/
def uringioSocketSend (self : SocketRef) (data : Item) (is_poll_first : Bool)
    (timeout_params : TimeoutArg) : EntryPoint :=
  ofSocket
    (onSocket L env self ++
      [parseTuple env [] [], parseTimeoutParams timeout_params
        [], createPayloadFromData env data [],
        readContext env, createFuture env [.payload]])
    (.send self (data.elim ⟨0, 0⟩ Exporter.region) is_poll_first timeout_params.params)

/-- `UringioSocket_recv`. -/
def uringioSocketRecv (self : SocketRef) (bufsize : ℤ) (buffer_obj : Option BufferSeq)
    (is_poll_first : Bool) (timeout_params : TimeoutArg) : EntryPoint :=
  let payload := getOrCreateLinear L env buffer_obj bufsize []
  ofSocket
    (onSocket L env self ++
      [parseTuple env [bufsize] [], parseTimeoutParams timeout_params [], payload, readContext env,
        createFuture env payload.takes])
    (.recv self bufsize (buffer_obj.map fun b => regions ((b.linear 1).getD [])) is_poll_first
      timeout_params.params)

/-- `UringioSocket_sendto`. -/
def uringioSocketSendto (self : SocketRef) (data : Item) (port domain : ℤ) (is_poll_first : Bool)
    (timeout_params : TimeoutArg) : EntryPoint where
  stages :=
    onSocket L env self ++
      [parseTuple env [port, domain] [], parseTimeoutParams timeout_params [],
        serializeAddress env domain, createPayloadFromData env data [.sockaddr],
        createFuture env [.sockaddr, .payload]]
  op := .sendto self (data.elim ⟨0, 0⟩ Exporter.region) domain is_poll_first timeout_params.params
  full := [.future, .sockaddr]
  after := [.sockaddr]
  failed := [.future]
  fullError := registryFull
  failedError := checkSocketsResult

/-- `UringioSocket_recvfrom`. The variables for the host, the port and the domain are used also when
they were not given. -/
def uringioSocketRecvfrom (self : SocketRef) (bufsize : ℤ) (buffer_obj : Option BufferSeq)
    (host : Bool) (port domain : Option ℤ) (is_poll_first : Bool) (timeout_params : TimeoutArg) :
    EntryPoint :=
  let payload := getOrCreateLinear L env buffer_obj bufsize [.sockaddr]
  let built := payload.takes = [] ∨ newLinearError env buffer_obj bufsize = none
  ofSocket
    (onSocket L env self ++
      [parseTuple env (bufsize :: port.toList ++ domain.toList) [],
        parseTimeoutParams timeout_params [],
        useVariables (host && port.isSome && domain.isSome),
        serializeAddress env (domain.getD 0), payload,
        freesPayload env built
          (allocate (env.allocates .msghdr) .msghdr (payload.takes ++ [.sockaddr])),
        freesPayload env built (createFuture env (payload.takes ++ [.sockaddr, .msghdr]))])
    (.recvfrom self (CInt.toUnsigned bufsize)
      (buffer_obj.map fun b => regions ((b.linear 1).getD [])) (domain.getD 0) is_poll_first
      timeout_params.params)

/-- `UringioSocket_sendmsg`. The address is left when the buffers are refused. -/
def uringioSocketSendmsg (self : SocketRef) (buffers_obj : BufferSeq) (host : Bool)
    (port domain : ℤ) (is_poll_first : Bool) (timeout_params : TimeoutArg) : EntryPoint :=
  let addr : List Res := if host then [.sockaddr] else []
  { stages :=
      onSocket L env self ++
        [parseTuple env [port, domain] [], parseTimeoutParams timeout_params []] ++
        (if host then [serializeAddress env domain] else []) ++
        [getOrCreateVectored L env (some buffers_obj) [], readContext env,
          createFuture env (.payload :: addr)]
    op := .sendmsg self (regions (buffers_obj.vectored.getD []))
      (if host then some domain else none)
      is_poll_first timeout_params.params
    full := .future :: addr
    after := addr
    failed := [.future]
    fullError := registryFull
    failedError := checkSocketsResult }

/-- `UringioSocket_recvmsg`. The variable for the buffers is used also when they were not given. -/
def uringioSocketRecvmsg (self : SocketRef) (buffers_obj : Option BufferSeq) (is_poll_first : Bool)
    (timeout_params : TimeoutArg) : EntryPoint :=
  let payload := getOrCreateVectored L env buffers_obj []
  ofSocket
    (onSocket L env self ++
      [parseTuple env [] [], parseTimeoutParams timeout_params [], useVariables buffers_obj.isSome,
        payload, readContext env, createFuture env payload.takes, allocateUnchecked .msghdr])
    (.recvmsg self (regions ((buffers_obj.bind BufferSeq.vectored).getD [])) is_poll_first
      timeout_params.params)

/-! ## Timers -/

/-- `UringioLoop_timer`. -/
def uringioLoopTimer (timer_params : TimerArg) : EntryPoint :=
  ofFile
    [parseTuple env [] [], assertLoopThread env, assertRingLoopIsClosing env, readContext env,
      parseTimerParams timer_params, createFuture env []]
    (match timer_params with
    | .dict (some sec) (some nsec) (some count) is_multishot =>
      .timer (longAsInt sec) (longAsInt nsec) (longAsInt count) (is_multishot.getD false)
    | _ => .timer 0 0 0 false)

end EntryPoint

/-- A call of an entry point that makes a request, with its arguments as Python objects. -/
inductive PyRequest
  | open (path : PathArg) (dfd flags resolve mode : ℤ) (timeout_params : TimeoutArg)
  | aexitFile (self : FileRef) (had_exception : Bool)
  | closeFile (self : FileRef) (timeout_params : TimeoutArg)
  | read (self : FileRef) (offset size : ℤ) (timeout_params : TimeoutArg)
  | readv (self : FileRef) (buffers_obj : Option BufferSeq) (offset : ℤ) (nowait : Bool)
      (timeout_params : TimeoutArg)
  | readvRaw (self : FileRef) (iovecs_obj : RawArg) (offset nowait : ℤ)
    (timeout_params : TimeoutArg)
  | write (self : FileRef) (data : Item) (offset : ℤ) (timeout_params : TimeoutArg)
  | writev (self : FileRef) (buffers_obj : BufferSeq) (flags offset : ℤ)
      (timeout_params : TimeoutArg)
  | writevRaw (self : FileRef) (buffers_obj : RawArg) (flags offset : ℤ)
      (timeout_params : TimeoutArg)
  | fsync (self : FileRef) (timeout_params : TimeoutArg)
  | fdatasync (self : FileRef) (timeout_params : TimeoutArg)
  | splice (self : FileRef) (src dst count offset_src offset_dst flag : ℤ)
      (timeout_params : TimeoutArg)
  | socket (domain socktype : ℤ) (timeout_params : TimeoutArg)
  | aexitSocket (self : SocketRef) (had_exception : Bool)
  | bind (self : SocketRef) (port : ℤ) (timeout_params : TimeoutArg)
  | connect (self : SocketRef) (port : ℤ) (timeout_params : TimeoutArg)
  | listen (self : SocketRef) (backlog : ℤ) (timeout_params : TimeoutArg)
  | accept (self : SocketRef) (timeout_params : TimeoutArg)
  | closeSocket (self : SocketRef) (timeout_params : TimeoutArg)
  | send (self : SocketRef) (data : Item) (is_poll_first : Bool) (timeout_params : TimeoutArg)
  | recv (self : SocketRef) (bufsize : ℤ) (buffer_obj : Option BufferSeq) (is_poll_first : Bool)
      (timeout_params : TimeoutArg)
  | sendto (self : SocketRef) (data : Item) (port domain : ℤ) (is_poll_first : Bool)
      (timeout_params : TimeoutArg)
  | recvfrom (self : SocketRef) (bufsize : ℤ) (buffer_obj : Option BufferSeq) (host : Bool)
      (port domain : Option ℤ) (is_poll_first : Bool) (timeout_params : TimeoutArg)
  | sendmsg (self : SocketRef) (buffers_obj : BufferSeq) (host : Bool) (port domain : ℤ)
      (is_poll_first : Bool) (timeout_params : TimeoutArg)
  | recvmsg (self : SocketRef) (buffers_obj : Option BufferSeq) (is_poll_first : Bool)
      (timeout_params : TimeoutArg)
  | timer (timer_params : TimerArg)

/-- The entry point of a call. -/
def PyRequest.entry (L : Loop) (env : PyEnv) : PyRequest → EntryPoint
  | .open path dfd flags resolve mode tp => .uringioOpen env path dfd flags resolve mode tp
  | .aexitFile f had_exception => .uringioFileAexit env f had_exception
  | .closeFile f tp => .uringioFileClose L env f tp
  | .read f offset size tp => .uringioFileRead L env f offset size tp
  | .readv f buffers offset nowait tp => .uringioFileReadv L env f buffers offset nowait tp
  | .readvRaw f iovecs offset nowait tp => .uringioFileReadvRaw L env f iovecs offset nowait tp
  | .write f data offset tp => .uringioFileWrite L env f data offset tp
  | .writev f buffers flags offset tp => .uringioFileWritev L env f buffers flags offset tp
  | .writevRaw f buffers flags offset tp => .uringioFileWritevRaw L env f buffers flags offset tp
  | .fsync f tp => .uringioFileFsync L env f tp
  | .fdatasync f tp => .uringioFileFdatasync L env f tp
  | .splice f src dst count offset_src offset_dst flag tp =>
    .uringioFileSplice L env f src dst count offset_src offset_dst flag tp
  | .socket domain socktype tp => .uringioPrepSocket env domain socktype tp
  | .aexitSocket s had_exception => .uringioSocketAexit env s had_exception
  | .bind s port tp => .uringioSocketBind L env s port tp
  | .connect s port tp => .uringioSocketConnect L env s port tp
  | .listen s backlog tp => .uringioSocketListen L env s backlog tp
  | .accept s tp => .uringioSocketAccept L env s tp
  | .closeSocket s tp => .uringioSocketClose L env s tp
  | .send s data is_poll_first tp => .uringioSocketSend L env s data is_poll_first tp
  | .recv s bufsize buffer is_poll_first tp =>
    .uringioSocketRecv L env s bufsize buffer is_poll_first tp
  | .sendto s data port domain is_poll_first tp =>
    .uringioSocketSendto L env s data port domain is_poll_first tp
  | .recvfrom s bufsize buffer host port domain is_poll_first tp =>
    .uringioSocketRecvfrom L env s bufsize buffer host port domain is_poll_first tp
  | .sendmsg s buffers host port domain is_poll_first tp =>
    .uringioSocketSendmsg L env s buffers host port domain is_poll_first tp
  | .recvmsg s buffers is_poll_first tp => .uringioSocketRecvmsg L env s buffers is_poll_first tp
  | .timer params => .uringioLoopTimer env params

/-- A call from Python. -/
inductive PyOp
  | request (req : PyRequest)
  /-- `UringioFile_aenter`. -/
  | aenterFile (self : FileRef)
  /-- `UringioSocket_aenter`. -/
  | aenterSocket (self : SocketRef)

/-- `UringioFile_aenter` and `UringioSocket_aenter`: a future that is resolved with the object. The
result of `set_result` is not looked at. -/
def aenter (L : Loop) (env : PyEnv) (self : Outcome) : PyCalled :=
  if ¬ env.future then ⟨L.refused, some .raised, [], []⟩
  else if ¬ env.setResult then
    ⟨⟨L.createFuture, some L.calls, -1, [], 1⟩, some .raised, [.future], []⟩
  else ⟨⟨L.createFuture.resolve L.calls self, some L.calls, -1, [], 1⟩, none, [.future], []⟩

/-- Make a call from Python, with no exception pending. -/
def PyOp.run (L : Loop) (env : PyEnv) : PyOp → Except Crash PyCalled
  | .request req => (req.entry L env).run L env
  | .aenterFile f => .ok (aenter L env (.file f (L.files f).fd))
  | .aenterSocket s => .ok (aenter L env (.socket s (L.sockets s).sock_fd))

end Uringio
