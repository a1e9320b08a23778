import Uringio.Loop.Shape
import Uringio.Registry.Partition

/-!
# What a call can do

A call is rejected, and then all that it leaves behind are entries in the queue and objects of its
own; or it is accepted, and then one slot that was free holds its request, and the first entry that
it added is the request's. `call_cases` says so for every call; nothing else is used of calls later.
-/

namespace Uringio

open Loop

/-- The call raised an exception. -/
structure Rejected (L : Loop) (c : Called) : Prop where
  /-- The null pointer is returned. -/
  future : c.future = none
  /-- Of the objects, only those of the call have changed. -/
  frame : Frame L.calls L c.loop
  /-- The number of the call is used, if it came to create its future. -/
  calls : c.loop = L ∨ c.loop.calls = L.calls + 1
  /-- What is pending is as it was. -/
  err : c.loop.err = L.err
  /-- The registry is consistent. -/
  consistent : c.loop.registry.Consistent
  /-- The slots in use are as they were. -/
  slots : ∀ i, L.registry.Live i → registryGet c.loop.registry i = registryGet L.registry i
  /-- No other slot is in use. -/
  live : ∀ i, c.loop.registry.Live i → L.registry.Live i
  /-- What was added to the queue was consumed or is still there. -/
  ring : ∃ added, Adds L.ring c.consumed c.loop.ring added

/-- The call returned its future: the slot at `idx` holds its request `req`, and `e` is the
request's entry. -/
structure Accepted (L : Loop) (ctx : ExecutionContext) (op : Op) (env : CallEnv) (c : Called)
    (req : Request) (idx : ℤ) (e : Sqe) : Prop where
  /-- The future of the call is returned. -/
  future : c.future = some L.calls
  /-- The index is that of the slot. -/
  request_idx : c.request_idx = idx
  /-- Of the objects, only those of the call have changed. -/
  frame : Frame L.calls L c.loop
  /-- The number of the call is used. -/
  calls : c.loop.calls = L.calls + 1
  /-- What is pending is as it was. -/
  err : c.loop.err = L.err
  /-- The future is pending. -/
  pending : c.loop.futures L.calls = .pending
  /-- Nothing was released. -/
  released : c.loop.released = L.released
  /-- The registry is consistent. -/
  consistent : c.loop.registry.Consistent
  /-- The slot is filled with the request. -/
  slot : registryGet c.loop.registry idx = some (req.slot idx)
  /-- The slot was free. -/
  free : ¬ L.registry.Live idx
  /-- The slot is one of the registry. -/
  inRange : L.registry.InRange idx
  /-- The other slots are as they were. -/
  others : ∀ j, j ≠ idx → registryGet c.loop.registry j = registryGet L.registry j
  /-- The request is that of the call. -/
  request : req.OfCall L.calls c.loop.payloads ctx op env
  /-- The entry is that of the request. -/
  entry : Entry ctx.stream ctx.transfer_mode op.opcode
    (req.buffer_payload.map c.loop.payloads) idx e
  /-- The entry was added to the queue, perhaps with a linked one. -/
  ring : ∃ link, Adds L.ring c.consumed c.loop.ring ((L.ring.tail, e) :: link)

variable {L L₁ : Loop} {ctx : ExecutionContext} {op : Op} {env : CallEnv} {c : Called}
  {a : Attempt} {payloads payloads' : PayloadRef → BufferPayload} {k : ℕ} {req : Request}

/-! ## What does not depend on a payload's pool -/

/-- Where linear buffers land does not depend on the rest of the payload. -/
theorem BufferPayload.SameBuffers.landsLinear {p q : BufferPayload} {dest : List Memory.Region}
    (h : p.SameBuffers q) (hl : p.LandsLinear dest) : q.LandsLinear dest := by
  obtain ⟨b, bs, n, hp, hdest⟩ := hl
  exact ⟨b, bs, n, h.linear.trans hp, hdest⟩

/-- Where vectored buffers land does not depend on the rest of the payload. -/
theorem BufferPayload.SameBuffers.landsVector {p q : BufferPayload} {dest : List Memory.Region}
    (h : p.SameBuffers q) (hl : p.LandsVector dest) : q.LandsVector dest := by
  obtain ⟨v, hp, hdest⟩ := hl
  exact ⟨v, h.vector.trans hp, hdest⟩

/-- Where the bytes go does not depend on the pools. -/
theorem Lands.congr {opcode : Opcode} {dest : List Memory.Region} {p : Option PayloadRef}
    (h : ∀ q, p = some q → (payloads q).SameBuffers (payloads' q))
    (hl : Lands opcode (p.map payloads) dest) : Lands opcode (p.map payloads') dest := by
  have hsome : ∀ b, p.map payloads = some b → ∃ b', p.map payloads' = some b' ∧
      b.SameBuffers b' := by
    intro b hb
    obtain ⟨q, hq, rfl⟩ := Option.map_eq_some_iff.mp hb
    exact ⟨payloads' q, by rw [hq]; rfl, h q hq⟩
  unfold Lands at hl ⊢
  cases opcode <;> simp only at hl ⊢ <;> try exact hl
  case read | recv =>
    obtain ⟨b, hb, hlands⟩ := hl
    obtain ⟨b', hb', hsame⟩ := hsome b hb
    exact ⟨b', hb', hsame.landsLinear hlands⟩
  case readv =>
    obtain ⟨b, hb, hlands⟩ := hl
    obtain ⟨b', hb', hsame⟩ := hsome b hb
    exact ⟨b', hb', hsame.landsVector hlands⟩
  case recvmsg =>
    obtain ⟨b, hb, hlands⟩ := hl
    obtain ⟨b', hb', hsame⟩ := hsome b hb
    refine ⟨b', hb', ?_⟩
    rw [hsame.payload_type]
    split at hlands
    · next htype => rw [if_pos htype]; exact hsame.landsLinear hlands
    · next htype => rw [if_neg htype]; exact hsame.landsVector hlands

/-- Whether an entry is direct depends on the buffers alone. -/
theorem Direct.congr {p : Option PayloadRef} (h : ∀ q, (payloads q).SameBuffers (payloads' q))
    (hd : Direct (p.map payloads')) : Direct (p.map payloads) := by
  intro b hb
  obtain ⟨q, rfl, rfl⟩ := Option.map_eq_some_iff.mp hb
  rw [← (h q).mode]
  exact hd _ rfl

/-- What an entry has depends on the buffers alone. -/
theorem Entry.congr {stream : StreamStrategy} {transfer_mode : TransferMode} {opcode : Opcode}
    {p : Option PayloadRef} {idx : ℤ} {e : Sqe}
    (h : ∀ q, (payloads q).SameBuffers (payloads' q))
    (he : Entry stream transfer_mode opcode (p.map payloads) idx e) :
    Entry stream transfer_mode opcode (p.map payloads') idx e where
  user_data := he.user_data
  oneshot := he.oneshot
  copied := he.copied
  lands hd := (he.lands (hd.congr h)).imp id fun hl => hl.congr fun q _ => h q

/-- What a call holds depends on the buffers alone. -/
theorem Holds.congr {p : PayloadRef} (h : ∀ q, (payloads q).SameBuffers (payloads' q))
    (hp : Holds k payloads ctx p) : Holds k payloads' ctx p := by
  unfold Holds at *
  rwa [(h p).mode]

/-- What a request has depends on the buffers alone. -/
theorem Request.OfCall.congr (h : ∀ q, (payloads q).SameBuffers (payloads' q))
    (hreq : req.OfCall k payloads ctx op env) : req.OfCall k payloads' ctx op env := {
  hreq with
    payload := fun p hp => (hreq.payload p hp).congr h
    allocated := fun hop hp => by rw [(h _).linear]; exact hreq.allocated hop hp }

/-! ## The parts of an attempt -/

/-- Creating a future changes nothing but the call's own objects. -/
theorem createFuture_frame (L : Loop) : Frame L.calls L L.createFuture := {
  (Keeps.refl L).frame with
    calls := Nat.le_succ _
    futures := fun j hj => by simp [Loop.createFuture, hj] }

/-- The loop that the dispatcher gets. -/
theorem added_spec (ha : a.Spec L ctx op env) (registry : RequestRegistry) (req : Request) :
    let L' := a.before
      ({ L.createFuture with registry := registry }.applyEffects (RequestSlot.acquires req))
    Keeps L.createFuture L' ∧ L'.ring = L.ring ∧ L'.registry = registry ∧
      L'.payloads = L.payloads := by
  obtain ⟨refs, hrefs⟩ :=
    applyEffects_acquires { L.createFuture with registry := registry } req
  rw [hrefs]
  have hq := ha.before { L.createFuture with registry := registry, refs := refs }
  exact ⟨(keeps_with L.createFuture L.ring registry refs).trans hq.toKeeps, hq.ring, hq.registry,
    hq.payloads_eq⟩

/-! ## The cases -/

/-- What an attempt can do. -/
theorem attempt_cases (ha : a.Spec L ctx op env) (hreg : L.registry.Consistent)
    (h : L.attempt a = .ok c) :
    (Rejected L c ∧ c.loop.calls = L.calls + 1) ∨
      ∃ req idx e, Accepted L ctx op env c req idx e := by
  unfold attempt at h
  rcases registryAdd_cases L.registry a.request with
    ⟨-, hnone⟩ | ⟨idx, reg, hsome, hr, -, -, hslot, hother⟩
  · -- The registry is full.
    rw [hnone] at h
    simp only [show (-1 : ℤ) < 0 by decide, if_true, Except.ok.injEq] at h
    subst h
    have hd := ha.full L.createFuture rfl
    exact .inl ⟨
      { future := rfl
        frame := (createFuture_frame L).trans hd.toFrame
        calls := .inr hd.next
        err := hd.err
        consistent := by rw [hd.registry]; exact hreg
        slots := fun i _ => by rw [hd.registry]; rfl
        live := fun i hi => by rw [hd.registry] at hi; exact hi
        ring := ⟨[], by rw [hd.ring]; exact adds_nothing L.ring⟩ }, hd.next⟩
  · obtain ⟨hcons, hfree, -⟩ := registryAdd_consistent hreg hsome (by have := hr.1; omega)
    rw [hsome] at h
    simp only [show ¬ idx < 0 by have := hr.1; omega, if_false] at h
    obtain ⟨d, hd, h⟩ := bind_eq_ok.mp h
    obtain ⟨hk, hring, hregistry, hpay⟩ := added_spec ha reg a.request
    have hspec := ha.dispatch _ idx d hpay hd
    have hkeeps := hk.trans hspec.keeps
    have hsame : ∀ q, (L.payloads q).SameBuffers (d.loop.payloads q) := hkeeps.payloads
    have hreq := ha.toOfCall.congr hsame
    have hdreg : d.loop.registry = reg := hspec.registry.trans hregistry
    obtain ⟨added, hadds, hmain⟩ := hspec.submits
    rw [hring] at hadds hmain
    rw [← hspec.ring] at hadds
    split at h
    · -- The dispatcher failed: the slot is given back.
      obtain ⟨L₂, hrem, h⟩ := bind_eq_ok.mp h
      cases h
      have hlive : reg.Live idx := RequestRegistry.live_of_slot hslot
      obtain ⟨reg', slot, hget, hrm, hcons', -, -, hcleared, hother'⟩ :=
        registryRemove_live hcons hlive
      rw [hslot] at hget
      cases hget
      rw [← hdreg] at hrm
      obtain ⟨hframe, hring₂, hreg₂, hcalls₂, herr₂⟩ := registryRemove_frame (k := L.calls) hrm
        (fun p hp => (hreq.payload p hp).own_or_mode) (fun m hm => hreq.msghdr m hm) hrem
      have hq := ha.failed L₂
      have hdead : ¬ reg'.Live idx := by
        rintro ⟨s, hs, hf⟩
        rw [hcleared] at hs
        cases hs
        cases hf
      have hget : ∀ i, i ≠ idx → registryGet
          (a.failed L₂).registry i = registryGet L.registry i := by
        intro i hi
        rw [hq.registry, hreg₂, hother' i hi, hother i hi]
      have hnext := (hq.calls.trans hcalls₂).trans hkeeps.calls
      exact .inl ⟨
        { future := rfl
          frame := (((createFuture_frame L).trans hkeeps.frame).trans hframe).trans hq.frame
          calls := .inr hnext
          err := (hq.err.trans herr₂).trans hkeeps.err
          consistent := by rw [hq.registry, hreg₂]; exact hcons'
          slots := fun i hi => hget i fun heq => hfree (heq ▸ hi)
          live := fun i hi => by
            have hne : i ≠ idx := by
              rintro rfl
              rw [hq.registry, hreg₂] at hi
              exact hdead hi
            exact (RequestRegistry.live_congr (hget i hne)).mp hi
          ring := ⟨added, by rw [hq.ring, hring₂]; exact hadds⟩ }, hnext⟩
    · next hres =>
      cases h
      obtain ⟨e, link, rfl, he⟩ := hmain (by omega)
      exact .inr ⟨a.request, idx, e,
        { future := rfl
          request_idx := rfl
          frame := (createFuture_frame L).trans hkeeps.frame
          calls := hkeeps.calls
          err := hkeeps.err
          pending := by rw [hkeeps.futures]; simp [Loop.createFuture]
          released := hkeeps.released
          consistent := by rw [hdreg]; exact hcons
          slot := by rw [hdreg]; exact hslot
          free := hfree
          inRange := hr
          others := fun j hj => by rw [hdreg]; exact hother j hj
          request := hreq
          entry := he.congr hsame
          ring := ⟨link, hadds⟩ }⟩

/-- What was prepared for a call is part of it. -/
theorem rejected_of_prepares (hp : Prepares L L₁) (h : Rejected L₁ c)
    (hnext : c.loop.calls = L₁.calls + 1) : Rejected L c where
  future := h.future
  frame := hp.frame.trans (hp.next ▸ h.frame)
  calls := .inr (by rw [← hp.next]; exact hnext)
  err := h.err.trans hp.err
  consistent := h.consistent
  slots i hi := by rw [← hp.registry] at hi ⊢; exact h.slots i hi
  live i hi := by rw [← hp.registry]; exact h.live i hi
  ring := by rw [← hp.ring]; exact h.ring

/-- What was accepted after the preparation was accepted of the call. -/
theorem accepted_of_prepares {idx : ℤ} {e : Sqe} (hp : Prepares L L₁)
    (h : Accepted L₁ ctx op env c req idx e) : Accepted L ctx op env c req idx e where
  future := by rw [← hp.next]; exact h.future
  request_idx := h.request_idx
  frame := hp.frame.trans (hp.next ▸ h.frame)
  calls := by rw [← hp.next]; exact h.calls
  err := h.err.trans hp.err
  pending := by rw [← hp.next]; exact h.pending
  released := h.released.trans hp.released
  consistent := h.consistent
  slot := h.slot
  free := by rw [← hp.registry]; exact h.free
  inRange := by rw [← hp.registry]; exact h.inRange
  others j hj := by rw [← hp.registry]; exact h.others j hj
  request := by rw [← hp.next]; exact h.request
  entry := h.entry
  ring := by rw [← hp.ring]; exact h.ring

/-- **What a call can do.** -/
theorem call_cases (hctx : L.ContextsSound) (hreg : L.registry.Consistent)
    (h : L.call ctx op env = .ok c) :
    Rejected L c ∨ ∃ req idx e, Accepted L ctx op env c req idx e := by
  obtain ⟨closed, L₁, a, hcall, hprep, ha⟩ := call_shape hctx ctx op env
  rw [hcall, unlessClosed] at h
  split at h
  · cases h
    exact .inl
      { future := rfl
        frame := (Keeps.refl L).frame
        calls := .inl rfl
        err := rfl
        consistent := hreg
        slots := fun _ _ => rfl
        live := fun _ hi => hi
        ring := ⟨[], adds_nothing L.ring⟩ }
  · have hreg₁ : L₁.registry.Consistent := by rw [hprep.registry]; exact hreg
    rcases attempt_cases ha hreg₁ h with ⟨hrej, hnext⟩ | ⟨req, idx, e, hacc⟩
    · exact .inl (rejected_of_prepares hprep hrej hnext)
    · exact .inr ⟨req, idx, e, accepted_of_prepares hprep hacc⟩

/-- The tag of an accepted request is its index. -/
theorem Accepted.index {idx : ℤ} {e : Sqe} (h : Accepted L ctx op env c req idx e) :
    CInt.toInt e.user_data = idx := by
  have hlt := L.registry.size_lt
  have hr := RequestRegistry.inRange_iff.mp h.inRange
  rw [h.entry.user_data]
  exact CInt.toInt_toU64 ⟨by omega, by omega⟩

end Uringio
