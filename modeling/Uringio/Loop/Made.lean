import Uringio.Loop.Released
import Uringio.Loop.Rejection

/-!
# What a call makes, and what becomes of it when the call is rejected

For its request a call makes a payload, if it has data and the context does not serve it, and a
message header, if it receives one (`makes`). A rejected call gives these up by one of two ways: by
hand when the registry is full, and by `registry_remove` when the dispatcher fails. The first way is
written out in each function, the second depends on what the request holds; `call_makes` reads both
off every call. Each way misses one object: the message header of `recvmsg` when the registry is
full, and the payload of `sendto`, which its request does not hold, when the dispatcher fails. All
others are released once (`rejected_released`).
-/

namespace Uringio

/-- The call allocates a message header. -/
def Op.makesMsghdr : Op → Bool
  | .recvfrom .. | .recvmsg .. => true
  | _ => false

/-- The call builds a payload that its request does not hold. -/
def Op.keepsPayload : Op → Bool
  | .sendto .. => true
  | _ => false

/-- The call forgets an object of its own when it is rejected, with a full registry or without. -/
def Op.leaks (op : Op) (full : Bool) : HeapRef → Bool
  | .payload _ => op.keepsPayload && !full
  | .msghdr _ =>
    match op with
    | .recvmsg .. => full
    | _ => false
  | .sockaddr _ => false

namespace Loop

/-- The payload that a call chooses for its data: one of its own, or the one of the context. -/
def payloadOf (L : Loop) (ctx : ExecutionContext) (env : CallEnv) : Op → Option PayloadRef
  | .read _ _ size _ => some (L.getOrCreateLinearBuffer ctx none size env).1
  | .readv _ buffers _ _ _ => some (L.readvPayload ctx buffers env).1
  | .readvRaw .. | .write .. | .writevRaw .. | .send .. | .sendto .. => some (.own L.calls)
  | .writev _ buffers _ _ _ | .sendmsg _ buffers _ _ _ | .recvmsg _ buffers _ _ =>
    some (L.getOrCreateVectoredBuffer ctx (some buffers) env).1
  | .recv _ bufsize buffer _ _ => some (L.getOrCreateLinearBuffer ctx buffer bufsize env).1
  | .recvfrom _ bufsize buffer _ _ _ =>
    some (L.getOrCreateLinearBuffer ctx buffer (CInt.toInt bufsize) env).1
  | _ => none

/-- The payload, if it is one that call number `k` built. -/
def ownPayload (k : ℕ) (p : Option PayloadRef) : List HeapRef :=
  (p.toList.filter fun p => p = .own k).map .payload

/-- What a call makes for its request: its own payload, and its message header. -/
def makes (L : Loop) (ctx : ExecutionContext) (env : CallEnv) (op : Op) : List HeapRef :=
  ownPayload L.calls (L.payloadOf ctx env op) ++
    if op.makesMsghdr then [.msghdr L.calls] else []

variable {L L₁ M : Loop} {ctx : ExecutionContext} {op : Op} {env : CallEnv} {c : Called}
  {a : Attempt} {p : Option PayloadRef} {q : PayloadRef} {k : ℕ} {o : HeapRef} {req : Request}

/-- Nothing was released, and the registry is as it was. -/
structure FreesNothing (M M' : Loop) : Prop where
  /-- Nothing was released. -/
  released : M'.released = M.released
  /-- The payloads are in the modes in which they were. -/
  mode : ∀ q, (M'.payloads q).mode = (M.payloads q).mode
  /-- The registry is as it was. -/
  registry : M'.registry = M.registry

/-- What keeps the payloads and the registry frees nothing. -/
theorem Keeps.freesNothing {M' : Loop} (h : Keeps M M') (hreg : M'.registry = M.registry) :
    FreesNothing M M' := ⟨h.released, fun q => (h.payloads q).mode, hreg⟩

/-- A dispatcher frees nothing. -/
theorem Dispatches.freesNothing {d : Dispatched} {opcode : Opcode} {payload : Option BufferPayload}
    {idx : ℤ} (stream : StreamStrategy) (transfer_mode : TransferMode)
    (h : Dispatches M d (Entry stream transfer_mode opcode payload idx)) : FreesNothing M d.loop :=
  h.keeps.freesNothing h.registry

/-- What an attempt holds for its request, and gives up when the registry is full. -/
structure Makes (L₁ : Loop) (k : ℕ) (op : Op) (p : Option PayloadRef) (a : Attempt) : Prop where
  /-- The request holds the payload, unless the call keeps it. -/
  payload : a.request.buffer_payload = if op.keepsPayload then none else p
  /-- The request holds the header, if one was made. -/
  msghdr : a.request.msghdr = if op.makesMsghdr then some k else none
  /-- A full registry gives up the payload, and the header unless the call forgets it. -/
  full : ∀ M o, (∀ s, o ≠ .sockaddr s) → (a.full M).released o =
    (M.freeBufferPayload p false).released o +
      if o = .msghdr k ∧ op.makesMsghdr ∧ ¬ op.leaks true o then 1 else 0
  /-- Nothing is given up before the dispatcher. -/
  before : ∀ M, Quiet M (a.before M)
  /-- The dispatcher gives nothing up. -/
  dispatch : ∀ M idx d, M.payloads = L₁.payloads → a.dispatch M idx = .ok d →
    FreesNothing M d.loop
  /-- Nothing is given up after it. -/
  failed : ∀ M, Quiet M (a.failed M)

/-- The call is such an attempt, unless its object is closed. -/
def MakesShape (L : Loop) (ctx : ExecutionContext) (op : Op) (env : CallEnv)
    (result : Except Fault Called) : Prop :=
  ∃ (closed : Bool) (L₁ : Loop) (a : Attempt), result = L.unlessClosed closed (L₁.attempt a) ∧
    Prepares L L₁ ∧ (∀ q, L.payloadOf ctx env op = some q → Holds L.calls L₁.payloads ctx q) ∧
    Makes L₁ L.calls op (L.payloadOf ctx env op) a

/-- A call without data. -/
theorem makesShape_bare {closed : Bool} (hprep : Prepares L L₁)
    (hnone : L.payloadOf ctx env op = none ∧ op.makesMsghdr = false)
    (hreq : a.request.buffer_payload = none ∧ a.request.msghdr = none) (hfull : a.full = id)
    (hbefore : ∀ M, Quiet M (a.before M))
    (hd : ∀ M idx d, M.payloads = L₁.payloads → a.dispatch M idx = .ok d → FreesNothing M d.loop)
    (hfailed : ∀ M, Quiet M (a.failed M)) :
    MakesShape L ctx op env (L.unlessClosed closed (L₁.attempt a)) := by
  refine ⟨closed, L₁, a, rfl, hprep, fun q hq => ?_, ?_⟩
  · rw [hnone.1] at hq
    cases hq
  · rw [hnone.1]
    exact
      { payload := by rw [hreq.1]; split <;> rfl
        msghdr := by rw [hreq.2, hnone.2]; rfl
        full := fun M o _ => by
          rw [hfull, hnone.2]
          simp [freeBufferPayload]
        before := hbefore
        dispatch := hd
        failed := hfailed }

/-- A call whose request holds its payload. -/
theorem makesShape_withPayload {closed : Bool} {dispatch : Loop → ℤ → Except Fault Dispatched}
    (hp : L.payloadOf ctx env op = some q) (hprov : Provided L ctx q L₁)
    (hkeeps : op.keepsPayload = false)
    (hmsghdr : req.msghdr = if op.makesMsghdr then some L.calls else none)
    (hleaks : op.makesMsghdr = true → op.leaks true (.msghdr L.calls) = true)
    (hd : ∀ M idx d, M.payloads = L₁.payloads → dispatch M idx = .ok d → FreesNothing M d.loop) :
    MakesShape L ctx op env (L.unlessClosed closed (L₁.withPayload q req dispatch)) := by
  refine ⟨closed, L₁, _, rfl, hprov.prepares, fun q' hq' => ?_, ?_⟩
  · rw [hp, Option.some.injEq] at hq'
    exact hq' ▸ hprov.holds
  · rw [hp]
    exact
      { payload := by rw [hkeeps]; rfl
        msghdr := hmsghdr
        full := fun M o _ => by
          have hno : ¬ (o = .msghdr L.calls ∧ op.makesMsghdr = true ∧
              ¬ op.leaks true o = true) := by
            rintro ⟨rfl, hmakes, hnot⟩
            exact hnot (hleaks hmakes)
          rw [if_neg hno, add_zero]
        before := .refl
        dispatch := hd
        failed := .refl }

/-- **What every call makes.** -/
theorem call_makes (hctx : L.ContextsSound) (ctx : ExecutionContext) (op : Op) (env : CallEnv) :
    MakesShape L ctx op env (L.call ctx op env) := by
  have hquiet : ∀ M : Loop, Quiet M (id M) := .refl
  cases op with
  | «open» path dfd flags resolve mode tp =>
    change MakesShape L ctx _ env (L.unlessClosed false (L.newFile.attempt _))
    refine makesShape_bare (prepares_newFile L) ⟨rfl, rfl⟩ ⟨rfl, rfl⟩ rfl hquiet
      (fun M idx d _ h => ?_) hquiet
    cases h
    exact ⟨rfl, fun _ => rfl, rfl⟩
  | socket domain socktype tp =>
    change MakesShape L ctx _ env (L.unlessClosed false ((L.newSocket domain).attempt _))
    refine makesShape_bare (prepares_newSocket L domain) ⟨rfl, rfl⟩ ⟨rfl, rfl⟩ rfl
      hquiet (fun M idx d _ h => ?_) hquiet
    cases h
    exact ⟨rfl, fun _ => rfl, rfl⟩
  | timer =>
    change MakesShape L ctx _ env (L.unlessClosed false (L.attempt _))
    refine makesShape_bare (.refl L) ⟨rfl, rfl⟩ ⟨rfl, rfl⟩ rfl hquiet (fun M idx d _ h => ?_) hquiet
    cases h
    exact ⟨rfl, fun _ => rfl, rfl⟩
  | fsync | fdatasync | splice | closeFile | bind | connect | listen =>
    refine makesShape_bare (.refl L) ⟨rfl, rfl⟩ ⟨rfl, rfl⟩ rfl hquiet (fun M idx d _ h => ?_) hquiet
    cases h
    exact ⟨rfl, fun _ => rfl, rfl⟩
  | aexitFile f =>
    change MakesShape L ctx _ env (L.unlessClosed false (L.attempt _))
    refine makesShape_bare (.refl L) ⟨rfl, rfl⟩ ⟨rfl, rfl⟩ rfl (fun _ => quiet_setFileClosed f true)
      (fun M idx d _ h => ?_) fun _ => quiet_setFileClosed f false
    cases h
    exact ⟨rfl, fun _ => rfl, rfl⟩
  | aexitSocket s =>
    change MakesShape L ctx _ env (L.unlessClosed false (L.attempt _))
    refine makesShape_bare (.refl L) ⟨rfl, rfl⟩ ⟨rfl, rfl⟩ rfl
      (fun _ => quiet_setSocketClosed s true) (fun M idx d _ h => ?_)
      fun _ => quiet_setSocketClosed s false
    cases h
    exact ⟨rfl, fun _ => rfl, rfl⟩
  | closeSocket s tp =>
    refine makesShape_bare (.refl L) ⟨rfl, rfl⟩ ⟨rfl, rfl⟩ rfl
      (fun _ => quiet_setSocketClosed s true) (fun M idx d _ h => ?_)
      fun _ => quiet_setSocketClosed s false
    cases h
    exact ⟨rfl, fun _ => rfl, rfl⟩
  | accept s tp =>
    refine makesShape_bare (.refl L) ⟨rfl, rfl⟩ ⟨rfl, rfl⟩ rfl hquiet (fun M idx d _ h => ?_)
      hquiet
    cases h
    unfold acceptDispatcher
    split <;> exact ⟨rfl, fun _ => rfl, rfl⟩
  | read f offset size tp =>
    rcases hp : L.getOrCreateLinearBuffer ctx none size env with ⟨p, L₁⟩
    simp only [call, uringioFileRead, hp]
    exact makesShape_withPayload (by simp only [payloadOf, hp])
      (getOrCreateLinearBuffer_spec hctx hp).1 rfl rfl (fun h => by cases h)
      fun M idx d _ h => Dispatches.freesNothing ctx.stream ctx.transfer_mode
        (readDispatcher_spec h)
  | readv f buffers offset nowait tp =>
    rcases hp : L.readvPayload ctx buffers env with ⟨p, L₁⟩
    simp only [call, uringioFileReadv, hp]
    exact makesShape_withPayload (by simp only [payloadOf, hp]) (readvPayload_spec hctx hp) rfl rfl
      (fun h => by cases h)
      fun M idx d _ h => Dispatches.freesNothing ctx.stream ctx.transfer_mode
        (readvDispatcher_spec h)
  | write f data offset tp =>
    exact makesShape_withPayload rfl (provided_newPayload rfl) rfl rfl (fun h => by cases h)
      fun M idx d _ h => Dispatches.freesNothing ctx.stream ctx.transfer_mode
        (writeDispatcher_spec h)
  | send s data is_poll_first tp =>
    exact makesShape_withPayload rfl (provided_newPayload rfl) rfl rfl (fun h => by cases h)
      fun M idx d _ h => Dispatches.freesNothing ctx.stream ctx.transfer_mode
        (sendDispatcher_spec h)
  | readvRaw f iovecs offset nowait tp | writevRaw f iovecs flags offset tp =>
    refine makesShape_withPayload rfl (provided_newPayload rfl) rfl rfl (fun h => by cases h)
      fun M idx d _ h => ?_
    obtain ⟨v, -, h⟩ := bind_eq_ok.mp h
    cases h
    exact ⟨rfl, fun _ => rfl, rfl⟩
  | writev f buffers flags offset tp =>
    rcases hp : L.getOrCreateVectoredBuffer ctx (some buffers) env with ⟨p, L₁⟩
    simp only [call, uringioFileWritev, hp, writevAttempt]
    refine makesShape_withPayload (by simp only [payloadOf, hp])
      (getOrCreateVectoredBuffer_spec hctx hp).1 rfl rfl (fun h => by cases h) fun M idx d _ h => ?_
    obtain ⟨v, -, h⟩ := bind_eq_ok.mp h
    cases h
    exact ⟨rfl, fun _ => rfl, rfl⟩
  | recv s bufsize buffer is_poll_first tp =>
    rcases hp : L.getOrCreateLinearBuffer ctx buffer bufsize env with ⟨p, L₁⟩
    simp only [call, uringioSocketRecv, hp]
    exact makesShape_withPayload (by simp only [payloadOf, hp])
      (getOrCreateLinearBuffer_spec hctx hp).1 rfl rfl (fun h => by cases h)
      fun M idx d _ h => Dispatches.freesNothing ctx.stream ctx.transfer_mode
        (recvDispatcher_spec h)
  | sendto s data domain is_poll_first tp =>
    have hprov : Provided L ctx (.own L.calls)
        (L.newPayload (createBufferPayloadFromData data)).2 := provided_newPayload rfl
    refine ⟨_, _, _, rfl, hprov.prepares, fun q hq => ?_, ?_⟩
    · cases hq
      exact hprov.holds
    · exact
        { payload := rfl
          msghdr := rfl
          full := fun M o _ => by simp [Op.makesMsghdr, payloadOf]
          before := hquiet
          dispatch := fun M idx d _ h => by
            obtain ⟨b, -, h⟩ := bind_eq_ok.mp h
            cases h
            exact ⟨rfl, fun _ => rfl, rfl⟩
          failed := hquiet }
  | recvfrom s bufsize buffer domain is_poll_first tp =>
    rcases hp : L.getOrCreateLinearBuffer ctx buffer (CInt.toInt bufsize) env with ⟨p, L₁⟩
    have hprov := (getOrCreateLinearBuffer_spec hctx hp).1
    have hof : L.payloadOf ctx env
        (.recvfrom s bufsize buffer domain is_poll_first tp) = some p := by
      simp only [payloadOf, hp]
    simp only [call, uringioSocketRecvfrom, hp]
    refine ⟨_, _, _, rfl, hprov.prepares, fun q hq => ?_, ?_⟩
    · rw [hof, Option.some.injEq] at hq
      exact hq ▸ hprov.holds
    · rw [hof]
      exact
        { payload := rfl
          msghdr := rfl
          full := fun M o ho => by
            -- The payload, the address and the message header are three objects.
            by_cases hm : o = .msghdr L.calls
            · rw [hm, release_released_self, release_released_ne (by simp)]
              simp [Op.makesMsghdr, Op.leaks]
            · rw [release_released_ne hm, release_released_ne (ho _)]
              simp [hm]
          before := hquiet
          dispatch := fun M idx d _ h => by
            obtain ⟨b, -, h⟩ := bind_eq_ok.mp h
            cases h
            exact ⟨rfl, fun _ => rfl, rfl⟩
          failed := hquiet }
  | sendmsg s buffers domain is_poll_first tp =>
    rcases hp : L.getOrCreateVectoredBuffer ctx (some buffers) env with ⟨p, L₁⟩
    simp only [call, uringioSocketSendmsg, hp]
    exact makesShape_withPayload (by simp only [payloadOf, hp])
      (getOrCreateVectoredBuffer_spec hctx hp).1 rfl rfl (fun h => by cases h)
      fun M idx d _ h => Dispatches.freesNothing ctx.stream ctx.transfer_mode
        (sendmsgDispatcher_spec h)
  | recvmsg s buffers is_poll_first tp =>
    rcases hp : L.getOrCreateVectoredBuffer ctx (some buffers) env with ⟨p, L₁⟩
    obtain ⟨hprov, htype⟩ := getOrCreateVectoredBuffer_spec hctx hp
    simp only [call, uringioSocketRecvmsg, hp]
    refine makesShape_withPayload (by simp only [payloadOf, hp]) hprov rfl rfl (fun _ => rfl)
      fun M idx d hM h => ?_
    rw [← hM] at htype
    exact Dispatches.freesNothing ctx.stream ctx.transfer_mode (recvmsgDispatcher_spec htype h)

/-! ## The two ways out -/

/-- A payload of the call's own is released when it is freed. -/
theorem freeBufferPayload_count (hp : ∀ q, p = some q → Holds k M.payloads ctx q) :
    (M.freeBufferPayload p false).released o = M.released o + (ownPayload k p).count o := by
  unfold ownPayload
  cases p with
  | none => simp [freeBufferPayload]
  | some q =>
    rcases hp q rfl with ⟨rfl, hmode⟩ | ⟨n, -, rfl, hmode⟩
    · have hcond : ¬ ((M.payloads (.own k)).mode ≠ .NORMAL_BUF ∧ ¬ false) := fun h => h.1 hmode
      simp only [freeBufferPayload, if_neg hcond]
      by_cases ho : o = .payload (.own k)
      · subst ho
        simp
      · rw [release_released_ne ho]
        simp [Ne.symm ho]
    · -- The payload of a context is not freed.
      have hcond : (M.payloads (.context n)).mode ≠ .NORMAL_BUF ∧ ¬ false := ⟨hmode, by simp⟩
      simp only [freeBufferPayload, if_pos hcond]
      simp

/-- What `registry_remove` releases of the slot of a request. -/
theorem count_frees_slot {idx : ℤ}
    (hp : ∀ q, req.buffer_payload = some q → Holds k M.payloads ctx q) :
    (M.frees (req.slot idx)).count o =
      (ownPayload k req.buffer_payload ++ (req.msghdr.map HeapRef.msghdr).toList).count o := by
  have hfilter : ((req.slot idx).buffer_payload.toList.filter fun q =>
      (M.payloads q).mode = .NORMAL_BUF) = req.buffer_payload.toList.filter fun q =>
        q = .own k := by
    change (req.buffer_payload.toList.filter _) = _
    cases hpay : req.buffer_payload with
    | none => rfl
    | some q =>
      rcases hp q hpay with ⟨rfl, hmode⟩ | ⟨n, -, rfl, hmode⟩
      · simp [hmode]
      · simp [hmode]
  rw [frees_eq, hfilter]
  rfl

/-- **What a rejected attempt has released.** -/
theorem attempt_rejected_released (ha : Makes L k op p a)
    (hp : ∀ q, p = some q → Holds k L.payloads ctx q) (h : L.attempt a = .ok c)
    (hnull : c.future = none) (ho : ∀ s, o ≠ .sockaddr s) :
    c.loop.released o = L.released o +
      if L.registry.available_indices.entries = [] then
        (ownPayload k p).count o + if o = .msghdr k ∧ op.makesMsghdr ∧
          ¬ op.leaks true o then 1 else 0
      else
        (ownPayload k (if op.keepsPayload then none else p) ++
          if op.makesMsghdr then [HeapRef.msghdr k] else []).count o := by
  unfold attempt at h
  rcases registryAdd_cases L.registry a.request with
    ⟨hempty, hadd⟩ | ⟨idx, reg, hadd, hr, hstack, -, hslot, -⟩
  · -- The registry is full: what the function gives up by hand.
    rw [hadd] at h
    simp only [show (-1 : ℤ) < 0 by decide, if_true, Except.ok.injEq] at h
    subst h
    have hcreated : ∀ q, p = some q → Holds k L.createFuture.payloads ctx q := hp
    rw [if_pos hempty, ha.full _ _ ho, freeBufferPayload_count hcreated, add_assoc]
    rfl
  · -- The dispatcher failed: what the slot of the request holds.
    have hne : L.registry.available_indices.entries ≠ [] := by rw [hstack]; simp
    rw [hadd] at h
    simp only [show ¬ idx < 0 by have := hr.1; omega, if_false] at h
    obtain ⟨d, hd, h⟩ := bind_eq_ok.mp h
    obtain ⟨refs, hrefs⟩ :=
      applyEffects_acquires { L.createFuture with registry := reg } a.request
    rw [hrefs] at hd
    let added := { L.createFuture with registry := reg, refs := refs }
    have hbefore : Quiet added (a.before added) := ha.before added
    have hdispatch := ha.dispatch _ idx d hbefore.payloads_eq hd
    have hdreg : d.loop.registry = reg := hdispatch.registry.trans hbefore.registry
    have hreleased : d.loop.released = L.released := hdispatch.released.trans hbefore.released
    have hmode : ∀ q, (d.loop.payloads q).mode = (L.payloads q).mode := fun q =>
      (hdispatch.mode q).trans (hbefore.payloads q).mode
    split at h
    · obtain ⟨L₂, hrem, h⟩ := bind_eq_ok.mp h
      cases h
      have hget : registryGet d.loop.registry idx = some (a.request.slot idx) := by
        rw [hdreg]
        exact hslot
      obtain ⟨hdue, -, -, -⟩ := registryRemove_released hget hrem
      have hheld : ∀ q, a.request.buffer_payload = some q → Holds k L.payloads ctx q := by
        intro q hq
        rw [ha.payload] at hq
        split at hq
        · cases hq
        · exact hp q hq
      have hfrees : d.loop.frees (a.request.slot idx) = L.frees (a.request.slot idx) :=
        frees_congr hmode rfl rfl
      rw [(ha.failed L₂).released, hdue, due_of_get hget, hreleased, hfrees, count_frees_slot hheld,
        ha.payload, ha.msghdr, if_neg hne]
      cases op.makesMsghdr <;> rfl
    · cases h
      cases hnull

variable (op) in
/-- What was made is forgotten, or given up once. -/
theorem count_makes_rejected (full : Bool) (hmem : o ∈ ownPayload k p ++
      if op.makesMsghdr then [HeapRef.msghdr k] else []) :
    (if full then
        (ownPayload k p).count o + if o = .msghdr k ∧ op.makesMsghdr ∧
          ¬ op.leaks true o then 1 else 0
      else
        (ownPayload k (if op.keepsPayload then none else p) ++
          if op.makesMsghdr then [HeapRef.msghdr k] else []).count o) =
      if op.leaks full o then 0 else 1 := by
  have hnone : ∀ m, HeapRef.msghdr m ∉ ownPayload k p := by simp [ownPayload]
  rcases List.mem_append.mp hmem with hpay | hmsg
  · -- The payload.
    obtain ⟨q, hq, rfl⟩ := List.mem_map.mp hpay
    rw [List.mem_filter, Option.mem_toList, decide_eq_true_eq] at hq
    obtain ⟨rfl, rfl⟩ := hq
    have hzero : ∀ b : Bool, (if b then [HeapRef.msghdr k] else []).count
        (.payload (.own k)) = 0 := by
      intro b
      cases b <;> simp
    cases full <;> cases hkeeps : op.keepsPayload <;>
      simp [hzero, hkeeps, Op.leaks, ownPayload]
  · -- The message header.
    cases hmakes : op.makesMsghdr with
    | false =>
      rw [hmakes] at hmsg
      cases hmsg
    | true =>
      rw [hmakes, if_pos rfl, List.mem_singleton] at hmsg
      subst hmsg
      have hcount : ∀ p, (ownPayload k p).count (.msghdr k) = 0 := fun p => by
        simp [ownPayload, List.count_eq_zero]
      have hleaks : op.leaks false (.msghdr k) = false := by
        cases op <;> rfl
      cases full
      · simp [hcount, hleaks, List.count_append]
      · cases op.leaks true (.msghdr k) <;> simp [hcount]

/-- **What a rejected call has made** and does not forget, it has released once. -/
theorem rejected_released (hs : L.Sound) (h : L.call ctx op env = .ok c) (hnull : c.future = none)
    (hcreated : c.loop.calls = L.calls + 1) (hmem : o ∈ L.makes ctx env op) :
    c.loop.released o =
      if op.leaks (decide (L.registry.available_indices.entries = [])) o then 0 else 1 := by
  obtain ⟨closed, L₁, a, hcall, hprep, hholds, ha⟩ := call_makes hs.contexts ctx op env
  rw [hcall, unlessClosed] at h
  split at h
  · -- The object of the call is closed, and no future was created.
    cases h
    have hsame : L.refused.loop.calls = L.calls := rfl
    omega
  · have hkind : ∀ s, o ≠ .sockaddr s := by
      rintro s rfl
      rcases List.mem_append.mp hmem with hpay | hmsg
      · obtain ⟨q, -, hq⟩ := List.mem_map.mp hpay
        cases hq
      · split at hmsg
        · cases List.mem_singleton.mp hmsg
        · cases hmsg
    have hcall_of : o.call = some L.calls := by
      rcases List.mem_append.mp hmem with hpay | hmsg
      · obtain ⟨q, hq, rfl⟩ := List.mem_map.mp hpay
        rw [List.mem_filter, decide_eq_true_eq] at hq
        rw [hq.2]
        rfl
      · split at hmsg
        · rw [List.mem_singleton.mp hmsg]
          rfl
        · cases hmsg
    have hfresh : L.released o = 0 := hs.fresh o L.calls hcall_of le_rfl
    have hreleased := attempt_rejected_released ha hholds h hnull hkind
    rw [hprep.released, hfresh, zero_add, hprep.registry] at hreleased
    rw [hreleased]
    have hcount := count_makes_rejected op
      (decide (L.registry.available_indices.entries = [])) hmem
    simpa only [decide_eq_true_eq] using hcount

/-! ## Accepted calls -/

/-- The slot of an accepted attempt. -/
theorem attempt_slot (ha : Makes L k op p a) (h : L.attempt a = .ok c) (hsome : c.future ≠ none) :
    registryGet c.loop.registry c.request_idx = some (a.request.slot c.request_idx) := by
  unfold attempt at h
  rcases registryAdd_cases L.registry a.request with
    ⟨-, hadd⟩ | ⟨idx, reg, hadd, hr, -, -, hslot, -⟩
  · rw [hadd] at h
    simp only [show (-1 : ℤ) < 0 by decide, if_true, Except.ok.injEq] at h
    subst h
    exact absurd rfl hsome
  · rw [hadd] at h
    simp only [show ¬ idx < 0 by have := hr.1; omega, if_false] at h
    obtain ⟨d, hd, h⟩ := bind_eq_ok.mp h
    split at h
    · obtain ⟨L₂, -, h⟩ := bind_eq_ok.mp h
      cases h
      exact absurd rfl hsome
    · cases h
      obtain ⟨refs, hrefs⟩ :=
        applyEffects_acquires { L.createFuture with registry := reg } a.request
      rw [hrefs] at hd
      have hbefore := ha.before { L.createFuture with registry := reg, refs := refs }
      have hdispatch := ha.dispatch _ idx d hbefore.payloads_eq hd
      change registryGet d.loop.registry idx = _
      rw [hdispatch.registry, hbefore.registry]
      exact hslot

/-- **What the request of an accepted call holds**: the payload that the call chose, but for
`sendto`, and the message header that it made. -/
theorem accepted_holds {idx : ℤ} {e : Sqe} (hs : L.Sound) (h : L.call ctx op env = .ok c)
    (hacc : Accepted L ctx op env c req idx e) :
    req.buffer_payload = (if op.keepsPayload then none else L.payloadOf ctx env op) ∧
      req.msghdr = if op.makesMsghdr then some L.calls else none := by
  obtain ⟨closed, L₁, a, hcall, -, -, ha⟩ := call_makes hs.contexts ctx op env
  rw [hcall, unlessClosed] at h
  have hsome : c.future ≠ none := by rw [hacc.future]; exact Option.some_ne_none _
  split at h
  · cases h
    exact absurd rfl hsome
  · have hslot := attempt_slot ha h hsome
    rw [hacc.request_idx, hacc.slot, Option.some.injEq] at hslot
    have hpay : req.buffer_payload = a.request.buffer_payload :=
      congrArg RequestSlot.buffer_payload hslot
    have hmsg : req.msghdr = a.request.msghdr := congrArg RequestSlot.msghdr hslot
    exact ⟨hpay.trans ha.payload, hmsg.trans ha.msghdr⟩

end Loop

end Uringio
