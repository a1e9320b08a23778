import Uringio.Loop.Closed

/-!
# What a rejected call leaves of the registry

A call changes the registry and the reference counts only through `registry_add` and
`registry_remove` (`call_counts`). When it is rejected it has called neither, or it has removed the
request that it added: then the stack of the available indices is what it was, since the index that
was taken from its top is put back there; every slot but the one at that index is what it was; and
the references that the slot took are given up (`call_restores`). None of this depends on what the
registry holds.
-/

namespace Uringio

namespace Loop

variable {L L₁ M : Loop} {ctx : ExecutionContext} {op : Op} {env : CallEnv} {c : Called}
  {a : Attempt} {p : PayloadRef} {req : Request}

/-! ## Reference counts -/

/-- What an effect of the registry adds to the count of `o`. -/
def countChange (o : ObjRef) : Effect → ℤ
  | .incref o' => if o' = o then 1 else 0
  | .decref o' => if o' = o then -1 else 0
  | .freePayload _ => 0
  | .freeMsghdr _ => 0

/-- The release of a payload changes no count. -/
theorem freeBufferPayload_refs (M : Loop) (p : Option PayloadRef) (force : Bool) :
    (M.freeBufferPayload p force).refs = M.refs := by
  unfold freeBufferPayload
  split
  · rfl
  · split <;> rfl

/-- An effect changes a count by what it counts for the object. -/
theorem applyEffect_refs (M : Loop) (e : Effect) (o : ObjRef) :
    (M.applyEffect e).refs o = M.refs o + countChange o e := by
  cases e with
  | incref o' | decref o' =>
    by_cases ho : o' = o
    · subst ho
      simp [applyEffect, countChange, sub_eq_add_neg]
    · simp [applyEffect, countChange, ho, Ne.symm ho]
  | freePayload q =>
    change (M.freeBufferPayload (some q) false).refs o = _
    rw [freeBufferPayload_refs, countChange, add_zero]
  | freeMsghdr m => exact (add_zero _).symm

/-- A list of effects changes a count by the sum of what they change it by. -/
theorem applyEffects_refs (M : Loop) (es : List Effect) (o : ObjRef) :
    (M.applyEffects es).refs o = M.refs o + (es.map (countChange o)).sum := by
  induction es generalizing M with
  | nil => simp [applyEffects]
  | cons e es ih =>
    change ((M.applyEffect e).applyEffects es).refs o = _
    rw [ih, applyEffect_refs, List.map_cons, List.sum_cons, add_assoc]

/-- The removal of a request gives up the references that its addition took. -/
theorem countChange_releases (req : Request) (idx : ℤ) (o : ObjRef) :
    ((RequestSlot.acquires req).map (countChange o)).sum +
      ((req.slot idx).releases.map (countChange o)).sum = 0 := by
  obtain ⟨future, payload, stream, opcode, file, socket, addr, msghdr⟩ := req
  cases payload <;> cases file <;> cases socket <;> cases msghdr <;>
    simp [RequestSlot.acquires, RequestSlot.releases, Request.slot, RequestSlot.fill,
      countChange] <;>
    split_ifs <;> simp

/-! ## The parts of a call -/

/-- The registry and the reference counts are as they were. -/
structure SameCounts (M M' : Loop) : Prop where
  /-- The registry is as it was. -/
  registry : M'.registry = M.registry
  /-- The counts are as they were. -/
  refs : M'.refs = M.refs

/-- Freeing a payload leaves the counts. -/
theorem sameCounts_freeBufferPayload (M : Loop) (p : Option PayloadRef) (force : Bool) :
    SameCounts M (M.freeBufferPayload p force) := by
  refine ⟨?_, freeBufferPayload_refs M p force⟩
  unfold freeBufferPayload
  split
  · rfl
  · split <;> rfl

/-- The parts of an attempt leave the registry and the counts to `registry_add` and
`registry_remove`. -/
structure CountSpec (a : Attempt) : Prop where
  /-- A full registry leaves the counts. -/
  full : ∀ M, SameCounts M (a.full M)
  /-- Nothing is counted before the dispatcher. -/
  before : ∀ M, SameCounts M (a.before M)
  /-- The dispatcher leaves the counts. -/
  dispatch : ∀ M idx d, a.dispatch M idx = .ok d → SameCounts M d.loop
  /-- Nothing is counted after it. -/
  failed : ∀ M, SameCounts M (a.failed M)

/-- The call is an attempt on a loop with the same registry, unless its object is closed. -/
def CountShape (L : Loop) (result : Except Fault Called) : Prop :=
  ∃ (closed : Bool) (L₁ : Loop) (a : Attempt), result = L.unlessClosed closed (L₁.attempt a) ∧
    SameCounts L L₁ ∧ CountSpec a

/-- A dispatcher leaves the counts. -/
theorem Submitting.sameCounts {can : Ring → Prop} {d : Dispatched} (h : Submitting can M d) :
    SameCounts M d.loop := ⟨h.registry, h.refs⟩

/-- A call that holds nothing when it finds the registry full. -/
theorem countShape_bare {closed : Bool} (hcounts : SameCounts L L₁) (hfull : a.full = id)
    (hbefore : ∀ M, SameCounts M (a.before M)) (hfailed : ∀ M, SameCounts M (a.failed M))
    (hd : ∀ M idx d, a.dispatch M idx = .ok d → SameCounts M d.loop) :
    CountShape L (L.unlessClosed closed (L₁.attempt a)) :=
  ⟨closed, L₁, a, rfl, hcounts, fun M => by rw [hfull]; exact ⟨rfl, rfl⟩, hbefore, hd, hfailed⟩

/-- A call that builds a payload. -/
theorem countShape_payload {closed : Bool} (hp : OnlyPayloads L L₁)
    (hfull : ∀ M, SameCounts M (a.full M)) (hbefore : a.before = id) (hfailed : a.failed = id)
    (hd : ∀ M idx d, a.dispatch M idx = .ok d → SameCounts M d.loop) :
    CountShape L (L.unlessClosed closed (L₁.attempt a)) := by
  obtain ⟨payloads, rfl⟩ := hp
  refine ⟨closed, _, a, rfl, ⟨rfl, rfl⟩, hfull, fun M => ?_, hd, fun M => ?_⟩
  · rw [hbefore]
    exact ⟨rfl, rfl⟩
  · rw [hfailed]
    exact ⟨rfl, rfl⟩

/-- A call whose request holds the payload that it builds. -/
theorem countShape_withPayload {closed : Bool} {dispatch : Loop → ℤ → Except Fault Dispatched}
    (hp : OnlyPayloads L L₁)
    (hd : ∀ M idx d, dispatch M idx = .ok d → SameCounts M d.loop) :
    CountShape L (L.unlessClosed closed (L₁.withPayload p req dispatch)) :=
  countShape_payload hp (fun M => sameCounts_freeBufferPayload M (some p) false) rfl rfl hd

/-- **Every call leaves the counts to the registry.** -/
theorem call_counts (L : Loop) (ctx : ExecutionContext) (op : Op) (env : CallEnv) :
    CountShape L (L.call ctx op env) := by
  have hnone : ∀ M : Loop, SameCounts M M := fun _ => ⟨rfl, rfl⟩
  cases op with
  | «open» path dfd flags resolve mode tp =>
    change CountShape L (L.unlessClosed false (L.newFile.attempt _))
    refine countShape_bare ⟨rfl, rfl⟩ rfl hnone hnone fun M idx d h => ?_
    cases h
    exact submitting_request_self.sameCounts
  | socket domain socktype tp =>
    change CountShape L (L.unlessClosed false ((L.newSocket domain).attempt _))
    refine countShape_bare ⟨rfl, rfl⟩ rfl hnone hnone fun M idx d h => ?_
    cases h
    exact ⟨rfl, rfl⟩
  | timer sec nsec count is_multishot =>
    change CountShape L (L.unlessClosed false (L.attempt _))
    refine countShape_bare (hnone L) rfl hnone hnone fun M idx d h => ?_
    cases h
    exact ⟨rfl, rfl⟩
  | fsync f tp | fdatasync f tp | splice f src dst count offset_src offset_dst flag tp
  | closeFile f tp | bind s tp | connect s tp | listen s backlog tp =>
    refine countShape_bare (hnone L) rfl hnone hnone fun M idx d h => ?_
    cases h
    exact submitting_request_self.sameCounts
  | accept s tp =>
    refine countShape_bare (hnone L) rfl hnone hnone fun M idx d h => ?_
    cases h
    exact (acceptDispatcher_submitting _ _ _).sameCounts
  | aexitFile f | aexitSocket s =>
    change CountShape L (L.unlessClosed false (L.attempt _))
    refine countShape_bare (hnone L) rfl (fun _ => ⟨rfl, rfl⟩) (fun _ => ⟨rfl, rfl⟩)
      fun M idx d h => ?_
    cases h
    exact submitting_request_self.sameCounts
  | closeSocket s tp =>
    refine countShape_bare (hnone L) rfl (fun _ => ⟨rfl, rfl⟩) (fun _ => ⟨rfl, rfl⟩)
      fun M idx d h => ?_
    cases h
    exact submitting_request_self.sameCounts
  | read f offset size tp =>
    exact countShape_withPayload (onlyPayloads_linear none size) fun _ _ _ h =>
      (readDispatcher_submitting h).sameCounts
  | readv f buffers offset nowait tp =>
    exact countShape_withPayload (onlyPayloads_readv buffers) fun _ _ _ h =>
      (readvDispatcher_submitting h).sameCounts
  | write f data offset tp =>
    exact countShape_withPayload ⟨_, rfl⟩ fun _ _ _ h => (writeDispatcher_submitting h).sameCounts
  | readvRaw f iovecs offset nowait tp | writevRaw f iovecs flags offset tp =>
    refine countShape_withPayload ⟨_, rfl⟩ fun M idx d h => ?_
    obtain ⟨v, -, h⟩ := bind_eq_ok.mp h
    cases h
    exact submitting_request_self.sameCounts
  | writev f buffers flags offset tp =>
    refine countShape_withPayload (onlyPayloads_vectored (some buffers)) fun M idx d h => ?_
    obtain ⟨v, -, h⟩ := bind_eq_ok.mp h
    cases h
    exact submitting_request_self.sameCounts
  | send s data is_poll_first tp =>
    exact countShape_withPayload ⟨_, rfl⟩ fun _ _ _ h => (sendDispatcher_submitting h).sameCounts
  | recv s bufsize buffer is_poll_first tp =>
    exact countShape_withPayload (onlyPayloads_linear buffer bufsize) fun _ _ _ h =>
      (recvDispatcher_submitting h).sameCounts
  | sendto s data domain is_poll_first tp =>
    refine countShape_payload ⟨_, rfl⟩ (fun M => ?_) rfl rfl fun M idx d h => ?_
    · exact sameCounts_freeBufferPayload M (some (.own L.calls)) false
    · obtain ⟨b, -, h⟩ := bind_eq_ok.mp h
      cases h
      exact submitting_request_self.sameCounts
  | recvfrom s bufsize buffer domain is_poll_first tp =>
    refine countShape_payload (onlyPayloads_linear buffer (CInt.toInt bufsize))
      (fun M => ?_) rfl rfl
      fun M idx d h => ?_
    · have hfree := sameCounts_freeBufferPayload M
        (some (L.getOrCreateLinearBuffer ctx buffer (CInt.toInt bufsize) env).1) false
      exact ⟨hfree.registry, hfree.refs⟩
    · obtain ⟨b, -, h⟩ := bind_eq_ok.mp h
      cases h
      exact submitting_request_self.sameCounts
  | sendmsg s buffers domain is_poll_first tp =>
    exact countShape_withPayload (onlyPayloads_vectored (some buffers)) fun _ _ _ h =>
      (sendmsgDispatcher_submitting h).sameCounts
  | recvmsg s buffers is_poll_first tp =>
    exact countShape_withPayload (onlyPayloads_vectored (some buffers)) fun _ _ _ h =>
      (recvmsgDispatcher_submitting h).sameCounts

/-! ## Rejection -/

/-- The stack of the available indices, every slot in use and all reference counts are as they were.
A slot is in use when its index is not available. -/
structure Restores (L L' : Loop) : Prop where
  /-- The same indices are free. -/
  available : L'.registry.available_indices.entries = L.registry.available_indices.entries
  /-- The slots that are not on the stack are as they were. -/
  slots : ∀ i, i ∉ L.registry.available_indices.entries →
    registryGet L'.registry i = registryGet L.registry i
  /-- The counts are as they were. -/
  refs : L'.refs = L.refs

/-- What leaves the counts restores them. -/
theorem SameCounts.restores (h : SameCounts L L₁) : Restores L L₁ where
  available := by rw [h.registry]
  slots i _ := by rw [h.registry]
  refs := h.refs

/-- **A rejected attempt gives back what it took.** -/
theorem attempt_restores (ha : CountSpec a) (h : L.attempt a = .ok c) (hnull : c.future = none) :
    Restores L c.loop := by
  unfold attempt at h
  rcases registryAdd_cases L.registry a.request with
    ⟨-, hadd⟩ | ⟨idx, reg, hadd, hr, hstack, hsize, hslot, hother⟩
  · -- The registry is full.
    rw [hadd] at h
    simp only [show (-1 : ℤ) < 0 by decide, if_true, Except.ok.injEq] at h
    subst h
    have hfull := ha.full L.createFuture
    exact SameCounts.restores ⟨hfull.registry, hfull.refs⟩
  · rw [hadd] at h
    simp only [show ¬ idx < 0 by have := hr.1; omega, if_false] at h
    obtain ⟨d, hd, h⟩ := bind_eq_ok.mp h
    split at h
    · obtain ⟨L₂, hrem, h⟩ := bind_eq_ok.mp h
      cases h
      -- The dispatcher was handed the registry with the request, and its references.
      let added := { L.createFuture with registry := reg }.applyEffects
        (RequestSlot.acquires a.request)
      have hbefore := ha.before added
      have hdispatch := ha.dispatch _ idx d hd
      have hreg : d.loop.registry = reg := by
        rw [hdispatch.registry, hbefore.registry]
        exact (applyEffects_sameBut _ _).registry
      have hrefs : d.loop.refs = added.refs := hdispatch.refs.trans hbefore.refs
      have hrange : reg.InRange idx := (RequestRegistry.inRange_congr hsize).mpr hr
      unfold registryRemove at hrem
      rw [hreg] at hrem
      rcases registryRemove_cases hrange with
        ⟨-, hnone⟩ | ⟨reg', slot, hget, hremove, hstack', -, -, hother'⟩
      · rw [hnone] at hrem
        cases hrem
      · rw [hslot] at hget
        cases hget
        rw [hremove] at hrem
        cases hrem
        have hfailed := ha.failed ({ d.loop with registry := reg' }.applyEffects
          (a.request.slot idx).releases)
        have hsame := applyEffects_sameBut { d.loop with registry := reg' }
          (a.request.slot idx).releases
        have hregistry := hfailed.registry.trans hsame.registry
        refine ⟨?_, fun i hi => ?_, ?_⟩
        · rw [hregistry, hstack', hstack]
        · have hne : i ≠ idx := by
            rintro rfl
            exact hi (by rw [hstack]; simp)
          rw [hregistry, hother' i hne, hother i hne]
        · funext o
          rw [hfailed.refs, applyEffects_refs]
          have hadded : added.refs o = L.refs o +
              ((RequestSlot.acquires a.request).map (countChange o)).sum := applyEffects_refs _ _ o
          have hzero := countChange_releases a.request idx o
          have hdrefs := congrFun hrefs o
          change d.loop.refs o + _ = _
          omega
    · cases h
      cases hnull

/-- **A rejected call gives back what it took.** -/
theorem call_restores (h : L.call ctx op env = .ok c) (hnull : c.future = none) :
    Restores L c.loop := by
  obtain ⟨closed, L₁, a, hcall, hcounts, ha⟩ := call_counts L ctx op env
  rw [hcall, unlessClosed] at h
  split at h
  · cases h
    exact SameCounts.restores ⟨rfl, rfl⟩
  · have hrest := attempt_restores ha h hnull
    have hslots := hrest.slots
    rw [hcounts.registry] at hslots
    exact ⟨hcounts.registry ▸ hrest.available, hslots, hrest.refs.trans hcounts.refs⟩

end Loop

end Uringio
