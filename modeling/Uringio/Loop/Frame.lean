import Uringio.Loop.Reader

/-!
# What the parts of a call leave alone

Two relations between a loop and a later one. `Keeps`: nothing that a request depends on has
changed, only the ring, the registry, reference counts, descriptors, flags and the pools of the
payloads. `Frame k`: the same, but for what belongs to call number `k`. Each step of a call is in
one of them, and they compose.
-/

namespace Uringio

/-- The first linear buffer of a payload. -/
theorem BufferPayload.firstLinear_eq_ok {p : BufferPayload} {b : LinearBuffer} :
    p.firstLinear = .ok b ↔ ∃ bs, p.linear = some (b :: bs) := by
  unfold firstLinear
  split
  · next hp => simp [hp]
  · next hne =>
    exact ⟨fun h => (by cases h), fun ⟨bs, hbs⟩ => (hne b bs hbs).elim⟩

/-- A vector that was followed is the payload's. -/
theorem BufferPayload.derefVector_eq_ok {p : BufferPayload} {v : VectoredBuffer} :
    p.derefVector = .ok v ↔ p.vector = some v := by
  unfold derefVector
  split <;> simp_all

/-- The call that made an object, none for the payload of a context. -/
def HeapRef.call : HeapRef → Option ℕ
  | .payload (.own k) => some k
  | .payload (.context _) => none
  | .msghdr k => some k
  | .sockaddr k => some k

/-- Two payloads that differ at most in what is in the pool and the index that was acquired
last. -/
structure BufferPayload.SameBuffers (a b : BufferPayload) : Prop where
  /-- All fields but the pool and the last index are the same. -/
  fields : b = { a with idx_registry := b.idx_registry, buf_idx := b.buf_idx }
  /-- The pool is there if it was. -/
  pool : b.idx_registry.isSome = a.idx_registry.isSome

namespace BufferPayload.SameBuffers

variable {a b c : BufferPayload}

/-- A payload has its own buffers. -/
theorem refl (a : BufferPayload) : a.SameBuffers a := ⟨rfl, rfl⟩

/-- The linear buffers are the same. -/
theorem linear (h : a.SameBuffers b) : b.linear = a.linear := by
  have h' := congrArg BufferPayload.linear h.fields
  exact h'

/-- The vectored buffers are the same. -/
theorem vector (h : a.SameBuffers b) : b.vector = a.vector := by
  have h' := congrArg BufferPayload.vector h.fields
  exact h'

/-- The mode is the same. -/
theorem mode (h : a.SameBuffers b) : b.mode = a.mode := by
  have h' := congrArg BufferPayload.mode h.fields
  exact h'

/-- The type is the same. -/
theorem payload_type (h : a.SameBuffers b) : b.payload_type = a.payload_type := by
  have h' := congrArg BufferPayload.payload_type h.fields
  exact h'

/-- Buffers that are the same twice are the same. -/
theorem trans (h : a.SameBuffers b) (h' : b.SameBuffers c) : a.SameBuffers c := by
  refine ⟨?_, h'.pool.trans h.pool⟩
  have hc := h'.fields
  rw [h.fields] at hc
  exact hc

end BufferPayload.SameBuffers

namespace Loop

/-- Nothing that a request depends on has changed. -/
structure Keeps (L L' : Loop) : Prop where
  /-- The eventfd is the same. -/
  wakeup_fd : L'.wakeup_fd = L.wakeup_fd
  /-- The buffer of the wakeup is the same. -/
  wakeup_buf : L'.wakeup_buf = L.wakeup_buf
  /-- The memory is as it was. -/
  mem : L'.mem = L.mem
  /-- What is pending is as it was. -/
  err : L'.err = L.err
  /-- The accepted sockets are the same. -/
  accepted : L'.accepted = L.accepted
  /-- No call was made. -/
  calls : L'.calls = L.calls
  /-- The futures are as they were. -/
  futures : L'.futures = L.futures
  /-- Nothing was released. -/
  released : L'.released = L.released
  /-- The payloads have the same buffers. -/
  payloads : ∀ p, (L.payloads p).SameBuffers (L'.payloads p)
  /-- The sockets have the same domain. -/
  domain : ∀ s, (L'.sockets s).domain = (L.sockets s).domain

/-- The socket was created. -/
def SocketExists (L : Loop) : SocketRef → Prop
  | .made k => k < L.calls
  | .accepted k n => n < L.accepted k

/-- Nothing that a request of a call other than `k` depends on has changed. -/
structure Frame (k : ℕ) (L L' : Loop) : Prop where
  /-- The eventfd is the same. -/
  wakeup_fd : L'.wakeup_fd = L.wakeup_fd
  /-- The buffer of the wakeup is the same. -/
  wakeup_buf : L'.wakeup_buf = L.wakeup_buf
  /-- The memory is as it was. -/
  mem : L'.mem = L.mem
  /-- Perhaps there are more calls. -/
  calls : L.calls ≤ L'.calls
  /-- No socket forgets that it was accepted. -/
  accepted : ∀ j, L.accepted j ≤ L'.accepted j
  /-- The futures of other calls are as they were. -/
  futures : ∀ j, j ≠ k → L'.futures j = L.futures j
  /-- What other calls made was not released. -/
  released : ∀ h : HeapRef, h.call ≠ some k → L'.released h = L.released h
  /-- The other payloads have the same buffers. -/
  payloads : ∀ p, p ≠ .own k → (L.payloads p).SameBuffers (L'.payloads p)
  /-- The sockets that exist have the same domain. -/
  domain : ∀ s, L.SocketExists s → (L'.sockets s).domain = (L.sockets s).domain

variable {k : ℕ} {L L' L₁ L₂ L₃ : Loop}

/-- A loop keeps itself. -/
theorem Keeps.refl (L : Loop) : Keeps L L where
  wakeup_fd := rfl
  wakeup_buf := rfl
  mem := rfl
  err := rfl
  accepted := rfl
  calls := rfl
  futures := rfl
  released := rfl
  payloads _ := .refl _
  domain _ := rfl

/-- What is kept in two steps is kept. -/
theorem Keeps.trans (h : Keeps L₁ L₂) (h' : Keeps L₂ L₃) : Keeps L₁ L₃ where
  wakeup_fd := h'.wakeup_fd.trans h.wakeup_fd
  wakeup_buf := h'.wakeup_buf.trans h.wakeup_buf
  mem := h'.mem.trans h.mem
  err := h'.err.trans h.err
  accepted := h'.accepted.trans h.accepted
  calls := h'.calls.trans h.calls
  futures := h'.futures.trans h.futures
  released := h'.released.trans h.released
  payloads p := (h.payloads p).trans (h'.payloads p)
  domain s := (h'.domain s).trans (h.domain s)

/-- What is kept is kept of the other calls. -/
theorem Keeps.frame (h : Keeps L L') : Frame k L L' where
  wakeup_fd := h.wakeup_fd
  wakeup_buf := h.wakeup_buf
  mem := h.mem
  calls := h.calls.ge
  accepted j := (congrFun h.accepted j).ge
  futures j _ := congrFun h.futures j
  released o _ := congrFun h.released o
  payloads p _ := h.payloads p
  domain s _ := h.domain s

/-- A socket that was created stays so. -/
theorem SocketExists.mono {s : SocketRef} (hs : L.SocketExists s) (h : Frame k L L') :
    L'.SocketExists s := by
  cases s with
  | made j => exact lt_of_lt_of_le hs h.calls
  | accepted j n => exact lt_of_lt_of_le hs (h.accepted j)

/-- What is framed in two steps is framed. -/
theorem Frame.trans (h : Frame k L₁ L₂) (h' : Frame k L₂ L₃) : Frame k L₁ L₃ where
  wakeup_fd := h'.wakeup_fd.trans h.wakeup_fd
  wakeup_buf := h'.wakeup_buf.trans h.wakeup_buf
  mem := h'.mem.trans h.mem
  calls := h.calls.trans h'.calls
  accepted j := (h.accepted j).trans (h'.accepted j)
  futures j hj := (h'.futures j hj).trans (h.futures j hj)
  released o ho := (h'.released o ho).trans (h.released o ho)
  payloads p hp := (h.payloads p hp).trans (h'.payloads p hp)
  domain s hs := (h'.domain s (hs.mono h)).trans (h.domain s hs)

/-! ## The steps -/

/-- An update of the ring, the registry and the reference counts is kept. -/
theorem keeps_with (L : Loop) (ring : Ring) (registry : RequestRegistry) (refs : ObjRef → ℤ) :
    Keeps L { L with ring := ring, registry := registry, refs := refs } := { Keeps.refl L with }

/-- A change of the payload's pool is kept. -/
theorem keeps_setPayload {p : PayloadRef} {payload : BufferPayload}
    (h : (L.payloads p).SameBuffers payload) : Keeps L (L.setPayload p payload) := by
  refine { Keeps.refl L with payloads := fun q => ?_ }
  by_cases hq : q = p
  · subst hq
    simpa [setPayload] using h
  · simp [setPayload, hq, BufferPayload.SameBuffers.refl]

/-! ## The registry's effects -/

/-- The object that an effect releases. -/
def releasedBy (L : Loop) : Effect → Option HeapRef
  | .freePayload p => if (L.payloads p).mode = .NORMAL_BUF then some (.payload p) else none
  | .freeMsghdr m => some (.msghdr m)
  | _ => none

/-- An effect changes nothing but flags and counts. -/
theorem applyEffect_sameBut (L : Loop) (e : Effect) : SameBut L (L.applyEffect e) := by
  cases e with
  | freePayload p =>
    simp only [applyEffect, freeBufferPayload]
    split <;> constructor <;> rfl
  | _ => constructor <;> rfl

/-- A row of effects changes nothing but flags and counts. -/
theorem applyEffects_sameBut (L : Loop) (es : List Effect) : SameBut L (L.applyEffects es) := by
  induction es generalizing L with
  | nil => exact .refl L
  | cons e es ih => exact (applyEffect_sameBut L e).trans (ih _)

/-- An effect releases one object at most. -/
theorem applyEffect_released (L : Loop) (e : Effect) (h : HeapRef)
    (hne : L.releasedBy e ≠ some h) : (L.applyEffect e).released h = L.released h := by
  cases e with
  | incref | decref => rfl
  | freeMsghdr m =>
    refine release_released_ne fun heq => hne ?_
    rw [heq]
    rfl
  | freePayload p =>
    simp only [applyEffect, freeBufferPayload]
    split
    · rfl
    · next hmode =>
      have hnormal : (L.payloads p).mode = .NORMAL_BUF := by simpa using hmode
      refine release_released_ne fun heq => hne ?_
      rw [heq, releasedBy, if_pos hnormal]

/-- What no effect of a list releases is released as often as before. -/
theorem applyEffects_released (L : Loop) (es : List Effect) (h : HeapRef)
    (hne : ∀ e ∈ es, L.releasedBy e ≠ some h) : (L.applyEffects es).released h = L.released h := by
  induction es generalizing L with
  | nil => rfl
  | cons e es ih =>
    have hsame := applyEffect_sameBut L e
    have hby : ∀ e', (L.applyEffect e).releasedBy e' = L.releasedBy e' := by
      intro e'
      cases e' <;> simp [releasedBy, hsame.payloads]
    refine (ih (L.applyEffect e) fun e' he' => ?_).trans
      (applyEffect_released L e h (hne e List.mem_cons_self))
    rw [hby]
    exact hne e' (List.mem_cons_of_mem _ he')

/-- `registry_add` only counts references. -/
theorem applyEffects_acquires (L : Loop) (req : Request) :
    ∃ refs, L.applyEffects (RequestSlot.acquires req) = { L with refs := refs } := by
  unfold RequestSlot.acquires
  cases req.socket <;> cases req.file <;> exact ⟨_, rfl⟩

/-- What `registry_remove` releases: the payload of the slot, if its mode is `NORMAL_BUF`, and its
message header. -/
theorem applyEffects_releases (L : Loop) (slot : RequestSlot) (h : HeapRef)
    (hp : ∀ p, slot.buffer_payload = some p → (L.payloads p).mode = .NORMAL_BUF → h ≠ .payload p)
    (hm : ∀ m, slot.msghdr = some m → h ≠ .msghdr m) :
    (L.applyEffects slot.releases).released h = L.released h := by
  refine applyEffects_released L _ h fun e he => ?_
  simp only [RequestSlot.releases, List.mem_append, Option.mem_toList,
    Option.map_eq_some_iff] at he
  rcases he with (((⟨f, -, rfl⟩ | ⟨p, hsp, rfl⟩) | ⟨s, -, rfl⟩) | ⟨f, -, rfl⟩) | ⟨m, hsm, rfl⟩
  · simp [releasedBy]
  · simp only [releasedBy]
    split
    · next hmode => exact fun heq => hp p hsp hmode (Option.some.inj heq).symm
    · simp
  · simp [releasedBy]
  · simp [releasedBy]
  · exact fun heq => hm m hsm (Option.some.inj heq).symm

/-- The removal of a request that holds nothing but what its call made, or what is not freed. -/
theorem registryRemove_frame {L' : Loop} {idx : ℤ} {reg : RequestRegistry} {slot : RequestSlot}
    (hrem : Uringio.registryRemove L.registry idx = some (reg, slot.releases))
    (hp : ∀ p, slot.buffer_payload = some p → p = .own k ∨ (L.payloads p).mode ≠ .NORMAL_BUF)
    (hm : ∀ m, slot.msghdr = some m → m = k) (h : L.registryRemove idx = .ok L') :
    Frame k L L' ∧ L'.ring = L.ring ∧ L'.registry = reg ∧ L'.calls = L.calls ∧ L'.err = L.err := by
  simp only [registryRemove, hrem, Except.ok.injEq] at h
  subst h
  have hsame := applyEffects_sameBut { L with registry := reg } slot.releases
  refine ⟨⟨hsame.wakeup_fd, hsame.wakeup_buf, hsame.mem, hsame.calls.ge,
    fun j => (congrFun hsame.accepted j).ge, fun j _ => congrFun hsame.futures j, fun o ho => ?_,
    fun p _ => ?_, fun s _ => ?_⟩, hsame.ring, hsame.registry, hsame.calls, hsame.err⟩
  · refine applyEffects_releases { L with registry := reg } slot o (fun p hsp hmode => ?_)
      (fun m hsm => ?_)
    · rcases hp p hsp with rfl | hmode'
      · rintro rfl
        exact ho rfl
      · exact absurd hmode hmode'
    · rw [hm m hsm]
      rintro rfl
      exact ho rfl
  · rw [hsame.payloads]
    exact .refl _
  · rw [hsame.sockets]

end Loop

end Uringio
