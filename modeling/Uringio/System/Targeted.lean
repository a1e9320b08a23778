import Uringio.Loop.Aimed
import Uringio.System.Drained
import Uringio.System.Pooled

/-!
# Where the operations of a fixed context land

The reads and the receives of a `FIXED` context all aim at the front of its first buffer, and a read
names an index from the pool beside it. So a read lands in the buffer of its index only if that
buffer contains the front of the first one, and two operations land in different places only if one
of them asks for nothing. Where the calls keep to this (`Targets`), every operation in flight lands
inside its buffer and apart from the others, its bytes stay where the kernel put them until the
reader takes them, and what is handed out are these bytes; and a call that does not keep to it
breaks the agreement (`agrees_of_run`). A pool of two buffers hands out the index of the second one
first, so a single read is enough (`secondBuffer_not_agrees`); two receives that overlap have the
same bytes (`receiveTwice_not_agrees`).
-/

namespace Uringio

open Memory (Region)

/-- The memory lies inside the region that the kernel may write to. -/
def KernelRegion.Covers (k : KernelRegion) (r : Region) : Prop :=
  k.addr ≤ r.addr ∧ (r.addr : ℤ) + r.len ≤ k.addr + k.len

instance (k : KernelRegion) (r : Region) : Decidable (k.Covers r) :=
  inferInstanceAs (Decidable (_ ∧ _))

/-- The buffer that was registered under an index contains the memory. -/
def CoveredAt (regions : List KernelRegion) (index : ℤ) (r : Region) : Prop :=
  0 ≤ index ∧ ∃ k ∈ regions[index.toNat]?, k.Covers r

instance (regions : List KernelRegion) (index : ℤ) (r : Region) :
    Decidable (CoveredAt regions index r) :=
  inferInstanceAs (Decidable (_ ∧ ∃ k ∈ regions[index.toNat]?, _))

/-- Context number `n` was created and entered in `FIXED` mode, with at least one buffer; the
kernel registered `regions`. -/
def World.RegistersFixed (world : World) (n : ℕ) (regions : List KernelRegion) : Prop :=
  ∃ payload_type buffers_obj amount bufsize alloc rand raw payload ring env entered,
    createBufferPayload .FIXED payload_type buffers_obj amount bufsize alloc rand raw =
      some payload ∧ 1 ≤ payload.amount ∧ bufferModeEnter ring payload env = some entered ∧
    entered.regions = some regions ∧ world.payloads (.context n) = entered.payload

/-- The payload of a fixed context whose first buffer is `b`. -/
structure BufferPayload.Fixed (b : LinearBuffer) (payload : BufferPayload) : Prop where
  /-- The mode is `FIXED`. -/
  mode : payload.mode = .FIXED
  /-- The payload offers its linear array. -/
  payload_type : payload.payload_type = .PAYLOAD_LINEAR
  /-- The first buffer is there. -/
  linear : ∃ bs, payload.linear = some (b :: bs)
  /-- There is a pool. -/
  pool : ∃ reg, payload.idx_registry = some reg

/-- What does not touch the buffers leaves a fixed payload. -/
theorem BufferPayload.Fixed.same {b : LinearBuffer} {p q : BufferPayload} (h : p.Fixed b)
    (hsame : p.SameBuffers q) : q.Fixed b where
  mode := hsame.mode.trans h.mode
  payload_type := hsame.payload_type.trans h.payload_type
  linear := by rw [hsame.linear]; exact h.linear
  pool := by
    obtain ⟨reg, hreg⟩ := h.pool
    exact Option.isSome_iff_exists.mp (hsame.pool.trans (by rw [hreg]; rfl))

/-- A context that registered its buffers has a fixed payload. -/
theorem World.RegistersFixed.fixed {world : World} {n : ℕ} {regions : List KernelRegion}
    (h : world.RegistersFixed n regions) : ∃ b, (world.payloads (.context n)).Fixed b := by
  obtain ⟨_, _, _, _, _, _, _, payload, _, _, entered, hcreate, hpos, henter, -, hpayload⟩ := h
  obtain ⟨hmode, buffers, hlinear, hlen⟩ := createBufferPayload_fixed hcreate
  simp only [bufferModeEnter, hmode, Option.bind_eq_bind, Option.bind_eq_some_iff] at henter
  obtain ⟨vector, -, henter⟩ := henter
  split at henter
  · cases henter
  · obtain ⟨reg, -, henter⟩ := Option.bind_eq_some_iff.mp henter
    cases henter
    cases buffers with
    | nil =>
      rw [List.length_nil] at hlen
      omega
    | cons b bs =>
      rw [hpayload]
      exact ⟨b, rfl, rfl, ⟨bs, hlinear⟩, reg, rfl⟩

/-- The request is a read or a receive that uses the payload of context number `n`. -/
def Registered.ofContext (n : ℕ) (reg : Registered) : Bool :=
  reg.context.buffer_payload = some n && reg.op.usesFirst

namespace Loop

variable (L : Loop)

/-- The call is a read or a receive in context number `n`, and it is accepted. -/
def AsksContext (n : ℕ) (ctx : ExecutionContext) (op : Op) (env : CallEnv) : Prop :=
  ctx.buffer_payload = some n ∧ op.usesFirst = true ∧ L.refuses op = false ∧
    L.registry.available_indices.entries ≠ [] ∧ op.canSubmit env L.ring

instance (n : ℕ) (ctx : ExecutionContext) (op : Op) (env : CallEnv) :
    Decidable (L.AsksContext n ctx op env) :=
  inferInstanceAs (Decidable (_ ∧ _ ∧ _ ∧ _ ∧ _))

/-- Where a call in context number `n` would have the kernel put its bytes. -/
def target (n : ℕ) (op : Op) : Option Region :=
  (L.payloads (.context n)).first.map fun b => op.target b

/-- The index on top of the pool of context number `n`. -/
def topIndex (n : ℕ) : ℤ :=
  ((L.payloads (.context n)).idx_registry.map fun reg => (getBufferIdx reg).1).getD (-1)

end Loop

namespace System

open Transition (Run anyStep exec)

variable {s s' : System} {l : Label} {n : ℕ} {regions : List KernelRegion} {c : Completion}
  {b : LinearBuffer} {pos k : ℕ} {e : Sqe}

/-- The entry at a position belongs to a read or a receive of context number `n`. -/
def ofContext (s : System) (n pos : ℕ) : Bool :=
  ((s.owner pos).bind s.registered).any (Registered.ofContext n)

/-- The condition. A call of the context is made when the buffer of the index on top of the pool
contains what a read asks for, and nothing in flight lands where the call does. What the kernel does
for others does not land where a completion of the context waits for the reader. The reader meets
last completions only. -/
def Targets (n : ℕ) (regions : List KernelRegion) (s : System) : Label → Prop
  | .call ctx op env => s.loop.AsksContext n ctx op env → ∀ r ∈ s.loop.target n op,
      (op.opcode = .read → CoveredAt regions (s.loop.topIndex n) r) ∧
      ∀ entry ∈ s.outstanding, s.ofContext n entry.1 = true →
        ∀ r' ∈ entry.2.destination, r'.Disjoint r
  | .post j _ _ into _ => ∀ f ∈ s.flying[j]?, s.ofContext n f.pos = false →
      ∀ c ∈ s.cq, s.ofContext n c.pos = true →
        ∀ r ∈ c.sqe.destination, ∀ r' ∈ into, r.Disjoint r'
  | l => LastOnly s l

instance (n : ℕ) (regions : List KernelRegion) (s : System) :
    (l : Label) → Decidable (Targets n regions s l)
  | .call .. => inferInstanceAs (Decidable (_ → ∀ r ∈ _, _ ∧ _))
  | .post .. => inferInstanceAs (Decidable (∀ f ∈ _, _ → ∀ c ∈ s.cq, _ → _))
  | .read renv => inferInstanceAs (Decidable (LastOnly s (.read renv)))
  | .initProvidedMode .. | .closeProvidedMode .. | .submit .. | .writeToSelf | .returned | .signal
  | .cancel .. => inferInstanceAs (Decidable True)

/-- The operations of context number `n` agree on the memory. -/
structure Agrees (n : ℕ) (regions : List KernelRegion) (s : System) : Prop where
  /-- A fixed read lands in the buffer of its index. -/
  inside : ∀ pos e, s.Outstanding pos e → s.ofContext n pos = true →
    ∀ fd addr size offset index, e.prep = some (.read_fixed fd addr size offset index) →
      CoveredAt regions index ⟨addr, size⟩
  /-- Two operations in flight land in different places. -/
  apart : ∀ pos e pos' e', s.Outstanding pos e → s.Outstanding pos' e' →
    s.ofContext n pos = true → s.ofContext n pos' = true → pos ≠ pos' →
    ∀ r ∈ e.destination, ∀ r' ∈ e'.destination, r.Disjoint r'
  /-- The bytes that were handed out for an operation are those that the kernel wrote for it. -/
  bytes : ∀ d ∈ s.deliveries, ∀ reg, s.registered d.future = some reg →
    reg.ofContext n = true → s.owner d.completion.pos = some d.future ∧
      ∀ bytes, d.outcome = .bytes bytes → bytes = d.completion.data

/-- The invariant, where `b` is the first buffer. -/
structure TargetInv (n : ℕ) (regions : List KernelRegion) (b : LinearBuffer) (s : System) :
    Prop extends Owns s where
  /-- The payload of the context keeps its buffers. -/
  payload : (s.loop.payloads (.context n)).Fixed b
  /-- The slot of a request of the context holds the payload. -/
  slots : ∀ k reg, s.registered k = some reg → reg.ofContext n = true →
    reg.slot.buffer_payload = some (.context n) ∧
      (reg.slot.opcode = .read ∨ reg.slot.opcode = .recv)
  /-- The entry of such a request has one completion, and aims at the first buffer. -/
  entries : ∀ pos e, s.Outstanding pos e → s.ofContext n pos = true →
    (∃ len, e.destination = [⟨b.buffer, len⟩]) ∧ e.multishot = false ∧ e.zeroCopy = false ∧
      e.selectsBuffer = false
  /-- A fixed read lands in the buffer of its index. -/
  inside : ∀ pos e, s.Outstanding pos e → s.ofContext n pos = true →
    ∀ fd addr size offset index, e.prep = some (.read_fixed fd addr size offset index) →
      CoveredAt regions index ⟨addr, size⟩
  /-- Two operations in flight land in different places. -/
  apart : ∀ pos e pos' e', s.Outstanding pos e → s.Outstanding pos' e' →
    s.ofContext n pos = true → s.ofContext n pos' = true → pos ≠ pos' →
    ∀ r ∈ e.destination, ∀ r' ∈ e'.destination, r.Disjoint r'
  /-- A completion of the context is the only one of its entry, and its bytes are still where the
  kernel put them. -/
  stored : ∀ c ∈ s.cq, s.ofContext n c.pos = true → c.cqe.more = false ∧
    c.cqe.res.toNat ≤ Memory.capacity c.sqe.destination ∧
    Memory.gather s.loop.mem c.sqe.destination c.cqe.res.toNat = c.data
  /-- The bytes that were handed out are those that the kernel wrote. -/
  bytes : ∀ d ∈ s.deliveries, ∀ reg, s.registered d.future = some reg →
    reg.ofContext n = true → ∀ bytes, d.outcome = .bytes bytes → bytes = d.completion.data

/-- Who an entry belongs to. -/
theorem ofContext_iff : s.ofContext n pos = true ↔
    ∃ k reg, s.owner pos = some k ∧ s.registered k = some reg ∧ reg.ofContext n = true := by
  unfold ofContext
  cases howner : s.owner pos with
  | none => simp
  | some k => cases hreg : s.registered k <;> simp [hreg]

/-- Who an entry belongs to depends on the owners and the requests. -/
theorem ofContext_congr (howner : s'.owner = s.owner) (hregistered : s'.registered = s.registered) :
    s'.ofContext n pos = s.ofContext n pos := by
  unfold ofContext
  rw [howner, hregistered]

/-- An entry that was there before a step belongs to the context if it did. -/
theorem ofContext_step (ht : Tracked s) (hstep : step s l = some s') (hpos : pos < s.tail) :
    s'.ofContext n pos = s.ofContext n pos := by
  unfold ofContext
  rw [owner_of_lt hstep ht.sound hpos]
  cases howner : s.owner pos with
  | none => rfl
  | some k =>
    simp only [Option.bind_some, registered_step ht.sound hstep k (ht.owned _ k howner).2]

/-- What the invariant says about the memory. -/
theorem TargetInv.agrees (h : TargetInv n regions b s) : Agrees n regions s where
  inside := h.inside
  apart := h.apart
  bytes d hd reg hreg hctx := ⟨h.routed d hd, h.bytes d hd reg hreg hctx⟩

/-- A step that makes no request and leaves the memory. -/
theorem TargetInv.same (h : TargetInv n regions b s) (hown : Owns s')
    (howner : s'.owner = s.owner) (hregistered : s'.registered = s.registered)
    (hmem : s'.loop.mem = s.loop.mem)
    (hpay : (s.loop.payloads (.context n)).SameBuffers (s'.loop.payloads (.context n)))
    (hout : ∀ pos e k, s'.Outstanding pos e → s.owner pos = some k → s.Outstanding pos e)
    (hcq : ∀ c ∈ s'.cq, c ∈ s.cq)
    (hdel : ∀ d ∈ s'.deliveries, d ∈ s.deliveries ∨ ∀ reg, s.registered d.future = some reg →
      reg.ofContext n = true → ∀ bytes, d.outcome = .bytes bytes → bytes = d.completion.data) :
    TargetInv n regions b s' := by
  have hold : ∀ {pos e}, s'.Outstanding pos e → s'.ofContext n pos = true →
      s.Outstanding pos e ∧ s.ofContext n pos = true := by
    intro pos e ho hctx
    rw [ofContext_congr howner hregistered] at hctx
    obtain ⟨k, reg, hk, -⟩ := ofContext_iff.mp hctx
    exact ⟨hout pos e k ho hk, hctx⟩
  refine { hown with
    payload := h.payload.same hpay
    slots := by rw [hregistered]; exact h.slots
    entries := fun pos e ho hctx => h.entries pos e (hold ho hctx).1 (hold ho hctx).2
    inside := fun pos e ho hctx => h.inside pos e (hold ho hctx).1 (hold ho hctx).2
    apart := fun pos e pos' e' ho ho' hctx hctx' => h.apart pos e pos' e' (hold ho hctx).1
      (hold ho' hctx').1 (hold ho hctx).2 (hold ho' hctx').2
    stored := fun c hc hctx => ?_
    bytes := fun d hd reg hreg => ?_ }
  · rw [ofContext_congr howner hregistered] at hctx
    rw [hmem]
    exact h.stored c (hcq c hc) hctx
  · rw [hregistered] at hreg
    exact (hdel d hd).elim (fun hd => h.bytes d hd reg hreg) fun hnew => hnew reg hreg

/-- The completion of an operation of the context: it is the only one, and its bytes go to where the
entry says. -/
theorem TargetInv.final (h : TargetInv n regions b s) {f : Flight} {res : ℤ} {flags : ℕ}
    {into : List Region} {data : List UInt8} (hout : s.Outstanding f.pos f.sqe)
    (hctx : s.ofContext n f.pos = true)
    (hmay : f.mayPost ⟨f.sqe.user_data, res, flags⟩ = true)
    (hdata : f.sqe.mayDeliver res into data) :
    into = f.sqe.destination ∧ (⟨f.sqe.user_data, res, flags⟩ : Cqe).more = false ∧
      res.toNat = data.length ∧ data.length ≤ Memory.capacity f.sqe.destination := by
  obtain ⟨⟨len, hdest⟩, hmulti, hcopy, hselect⟩ := h.entries _ _ hout hctx
  obtain ⟨hinto, hcap, hres⟩ := hdata
  obtain rfl := hinto.resolve_left (by rw [hselect]; exact Bool.false_ne_true)
  refine ⟨rfl, by simpa [Flight.mayPost, hmulti, hcopy] using hmay, ?_, hcap⟩
  split at hres
  · rw [hres, List.length_nil]
    omega
  · rcases hres with hnil | hlen
    · rw [hdest] at hnil
      cases hnil
    · omega

/-- The kernel posts a completion: the bytes of the others stay where they are. -/
theorem TargetInv.posted (h : TargetInv n regions b s) {j : ℕ} {f : Flight} {res : ℤ} {flags : ℕ}
    {into : List Region} {data : List UInt8} (hf : s.flying[j]? = some f)
    (hmay : f.mayPost ⟨f.sqe.user_data, res, flags⟩ = true)
    (hdata : f.sqe.mayDeliver res into data)
    (hok : Targets n regions s (.post j res flags into data))
    (hown : Owns (s.posted j f ⟨f.sqe.user_data, res, flags⟩ into data)) :
    TargetInv n regions b (s.posted j f ⟨f.sqe.user_data, res, flags⟩ into data) := by
  have hposts := posts_posted hf ⟨f.sqe.user_data, res, flags⟩ rfl into data
  have hout : s.Outstanding f.pos f.sqe := .inl hposts.mem
  -- No completion of the context that waits for the reader is hit.
  have hapart : ∀ c ∈ s.cq, s.ofContext n c.pos = true →
      ∀ r ∈ c.sqe.destination, ∀ r' ∈ into, r.Disjoint r' := by
    intro c hc hctx
    cases hfctx : s.ofContext n f.pos with
    | false => exact hok f hf hfctx c hc hctx
    | true =>
      rw [(h.final hout hfctx hmay hdata).1]
      refine h.apart _ _ _ _ (.inr ⟨c, hc, rfl, rfl⟩) hout hctx hfctx fun heq => ?_
      exact h.toOrdered.not_pending hc (h.stored c hc hctx).1
        (heq ▸ List.mem_map_of_mem (f := Prod.fst) hposts.mem)
  refine { hown with
    payload := h.payload
    slots := h.slots
    entries := fun pos e ho => h.entries pos e (hposts.outstanding ho)
    inside := fun pos e ho => h.inside pos e (hposts.outstanding ho)
    apart := fun pos e pos' e' ho ho' => h.apart pos e pos' e' (hposts.outstanding ho)
      (hposts.outstanding ho')
    stored := fun c hc hctx => ?_
    bytes := h.bytes }
  change c.cqe.more = false ∧ c.cqe.res.toNat ≤ Memory.capacity c.sqe.destination ∧
    Memory.gather (Memory.scatter s.loop.mem into data) c.sqe.destination c.cqe.res.toNat = c.data
  rcases List.mem_append.mp hc with hc | hc
  · obtain ⟨hmore, hcap, hbytes⟩ := h.stored c hc hctx
    rw [Memory.gather_scatter_of_disjoint (hapart c hc hctx)]
    exact ⟨hmore, hcap, hbytes⟩
  · obtain rfl := List.mem_singleton.mp hc
    obtain ⟨rfl, hmore, hlen, hcap⟩ := h.final hout hctx hmay hdata
    obtain ⟨⟨len, hdest⟩, -⟩ := h.entries _ _ hout hctx
    refine ⟨hmore, hlen ▸ hcap, ?_⟩
    change Memory.gather _ _ res.toNat = data
    rw [hlen]
    refine Memory.gather_scatter ?_ hcap
    rw [hdest]
    exact List.pairwise_singleton _ _

/-- The reader leaves the owners where it meets last completions only. -/
theorem Owns.owner_read {renv : ReadEnv} (h : Owns s) (hok : LastOnly s (.read renv))
    (hstep : System.step s (.read renv) = some s') : s'.owner = s.owner := by
  obtain ⟨c, cq, r, hcq, hread, rfl⟩ := read_step hstep
  rcases h.sound.read_cases hread with ⟨-, rfl⟩ | ⟨slot, k, hget, hfut, -, hleft | hfin⟩
  · exact handled_owner rfl cq
  · exact handled_owner hleft.ring cq
  · exact handled_owner (h.last hok hcq hread hget hfut hfin).2.2.2 cq

/-- The reader hands out the bytes that the kernel wrote. -/
theorem TargetInv.read {renv : ReadEnv} (h : TargetInv n regions b s)
    (hok : LastOnly s (.read renv)) (hstep : step s (.read renv) = some s') :
    TargetInv n regions b s' := by
  have hown := h.toOwns.step hok hstep
  have howner := h.toOwns.owner_read hok hstep
  obtain ⟨j, hframe⟩ := frame_step h.sound hstep (by simp)
  have hout := fun pos e k (ho : s'.Outstanding pos e) (hk : s.owner pos = some k) =>
    outstanding_of_step h.toTracked hstep hk ho
  obtain ⟨c, cq, r, hcq, hread, rfl⟩ := read_step hstep
  have hmem : c ∈ s.cq := by
    rw [hcq]
    exact List.mem_cons_self
  refine h.same hown howner rfl hframe.mem (hframe.payloads _ (by simp)) hout
    (fun d hd => hcq ▸ List.mem_cons_of_mem _ hd) fun d hd => ?_
  rcases List.mem_append.mp hd with hold | hnew
  · exact .inl hold
  · refine .inr fun reg hreg hctx bytes hbytes => ?_
    have hroute := hown.routed d hd
    rw [howner] at hroute
    obtain ⟨fo, hfo, rfl⟩ := List.mem_map.mp hnew
    have hcall : r.call = some (fo.1, .bytes bytes) := by
      rw [Option.mem_toList.mp hfo, ← show fo.2 = .bytes bytes from hbytes]
    have hpos : s.ofContext n c.pos = true := ofContext_iff.mpr ⟨_, reg, hroute, hreg, hctx⟩
    obtain ⟨hpayload, hop⟩ := h.slots _ reg hreg hctx
    obtain ⟨reg', hreg', -, hget⟩ := h.held c.pos c.sqe _ (.inr ⟨c, hmem, rfl, rfl⟩) hroute
    rw [hreg] at hreg'
    cases hreg'
    rw [← h.tag c hmem] at hget
    obtain ⟨bs, hlinear⟩ := h.payload.linear
    obtain ⟨-, heq⟩ := Loop.bytes_of_first hget hop hpayload hlinear hread hcall
    obtain ⟨⟨len, hdest⟩, -⟩ := h.entries c.pos c.sqe (.inr ⟨c, hmem, rfl, rfl⟩) hpos
    obtain ⟨-, hcap, hstored⟩ := h.stored c hmem hpos
    rw [hdest] at hcap hstored
    rw [Memory.gather_singleton (by simpa [Memory.capacity] using hcap)] at hstored
    exact heq.trans hstored

/-- A call of the context that returned a future was accepted. -/
theorem asksContext_of_future {ctx : ExecutionContext} {op : Op} {env : CallEnv} {c : Called}
    (hctx : ctx.buffer_payload = some n) (huses : op.usesFirst = true)
    (hcall : s.loop.call ctx op env = .ok c) (hfuture : c.future ≠ none) :
    s.loop.AsksContext n ctx op env := by
  obtain ⟨-, ⟨-, rfl⟩ | ⟨hopen, htried⟩⟩ := Loop.call_flags hcall
  · exact absurd rfl hfuture
  · cases htried with
    | full _ hnone => exact absurd hnone hfuture
    | failed _ _ hnone => exact absurd hnone hfuture
    | accepted hfree hcan => exact ⟨hctx, huses, hopen, hfree, hcan⟩

/-- And one that is accepted returns a future. -/
theorem future_of_asksContext {ctx : ExecutionContext} {op : Op} {env : CallEnv} {c : Called}
    (hasks : s.loop.AsksContext n ctx op env) (hcall : s.loop.call ctx op env = .ok c) :
    c.future ≠ none := by
  obtain ⟨-, -, hopen, hfree, hcan⟩ := hasks
  obtain ⟨-, ⟨hrefuses, -⟩ | ⟨-, htried⟩⟩ := Loop.call_flags hcall
  · rw [hopen] at hrefuses
    cases hrefuses
  · cases htried with
    | full hfull => exact absurd hfull hfree
    | failed _ hcannot => exact absurd hcan hcannot
    | accepted _ _ hfuture => simp [hfuture]

/-- Where a call of a fixed context would land. -/
theorem target_of_fixed {op : Op} (h : (s.loop.payloads (.context n)).Fixed b) :
    s.loop.target n op = some (op.target b) := by
  obtain ⟨bs, hlinear⟩ := h.linear
  simp [Loop.target, BufferPayload.first, hlinear]

/-- The request and the entry of a call of the context that is accepted. -/
theorem TargetInv.aims {ctx : ExecutionContext} {op : Op} {env : CallEnv} {c : Called}
    {req : Request} {idx : ℤ} {e : Sqe} {link : List (ℕ × Sqe)} (h : TargetInv n regions b s)
    (hcall : s.loop.call ctx op env = .ok c) (hacc : Accepted s.loop ctx op env c req idx e)
    (hadds : Adds s.loop.ring c.consumed c.loop.ring ((s.loop.ring.tail, e) :: link))
    (hctx : ctx.buffer_payload = some n) (huses : op.usesFirst = true) :
    req.buffer_payload = some (.context n) ∧
      ∃ call, e.prep = some call ∧ op.Aims b (s.loop.topIndex n) call := by
  obtain ⟨bs, hlinear⟩ := h.payload.linear
  obtain ⟨reg, hreg⟩ := h.payload.pool
  obtain ⟨⟨slot, hslot, hpayload⟩, e', link', call, hadds', hprep, haims⟩ := Loop.call_aims huses
    hctx h.payload.mode h.payload.payload_type hreg hlinear hcall (by simp [hacc.future])
  -- What was added is the same in both accounts.
  have hadded := List.append_cancel_left (hadds.window.symm.trans hadds'.window)
  cases hadded
  rw [hacc.request_idx, hacc.slot] at hslot
  cases hslot
  have htop : s.loop.topIndex n = (getBufferIdx reg).1 := by simp [Loop.topIndex, hreg]
  exact ⟨hpayload, call, hprep, htop ▸ haims⟩

/-- What is known of them if the call keeps to the condition. -/
theorem TargetInv.aimed {ctx : ExecutionContext} {op : Op} {env : CallEnv} {c : Called}
    {req : Request} {idx : ℤ} {e : Sqe} {link : List (ℕ × Sqe)} (h : TargetInv n regions b s)
    (hok : Targets n regions s (.call ctx op env)) (hcall : s.loop.call ctx op env = .ok c)
    (hacc : Accepted s.loop ctx op env c req idx e)
    (hadds : Adds s.loop.ring c.consumed c.loop.ring ((s.loop.ring.tail, e) :: link))
    (hctx : ctx.buffer_payload = some n) (huses : op.usesFirst = true) :
    req.buffer_payload = some (.context n) ∧ e.destination = [op.target b] ∧
      e.multishot = false ∧ e.zeroCopy = false ∧ e.selectsBuffer = false ∧
      (∀ fd addr size offset index, e.prep = some (.read_fixed fd addr size offset index) →
        CoveredAt regions index ⟨addr, size⟩) ∧
      ∀ entry ∈ s.outstanding, s.ofContext n entry.1 = true →
        ∀ r' ∈ entry.2.destination, r'.Disjoint (op.target b) := by
  obtain ⟨hpayload, call, hprep, haims⟩ := h.aims hcall hacc hadds hctx huses
  obtain ⟨hcovered, hapart⟩ := hok (asksContext_of_future hctx huses hcall (by simp [hacc.future]))
    _ (target_of_fixed h.payload)
  obtain ⟨hdest, hmulti, hcopy⟩ := haims.entry hprep
  refine ⟨hpayload, hdest, hmulti, hcopy, ?_, fun fd addr size offset index hfixed => ?_, hapart⟩
  · refine (hacc.entry.lands fun payload hp => .inr ?_).1
    rw [hpayload] at hp
    cases hp
    exact ((hacc.frame.payloads (.context n) (by simp)).mode).trans h.payload.mode
  · rw [hprep] at hfixed
    cases hfixed
    obtain ⟨hop, rfl, htarget⟩ := haims.fixed
    exact htarget ▸ hcovered hop

/-- A call: if it is one of the context that is accepted, it aims where nothing is in flight, and
the buffer of its index contains what it asks for. -/
theorem TargetInv.call {ctx : ExecutionContext} {op : Op} {env : CallEnv}
    (h : TargetInv n regions b s) (hok : Targets n regions s (.call ctx op env))
    (hstep : step s (.call ctx op env) = some s') : TargetInv n regions b s' := by
  have hown : Owns s' := h.toOwns.call hstep
  obtain ⟨j, hframe⟩ := frame_step h.sound hstep (by simp)
  have hpay := hframe.payloads (.context n) (by simp)
  have hout := fun pos e k (ho : s'.Outstanding pos e) (hk : s.owner pos = some k) =>
    outstanding_of_step h.toTracked hstep hk ho
  have hstep' := hstep
  obtain ⟨-, c, hcall, rfl⟩ := call_step hstep'
  have hcq : (s.called ctx op env c).cq = s.cq := called_cq ..
  have hdel : (s.called ctx op env c).deliveries = s.deliveries := called_deliveries ..
  rcases called_cases h.sound hcall with ⟨-, howner, hregistered⟩ |
      ⟨req, idx, e, hacc, howner, hregistered⟩
  · exact h.same hown howner hregistered hframe.mem hpay hout (fun d hd => hcq ▸ hd)
      fun d hd => .inl (hdel ▸ hd)
  · obtain ⟨link, hadds⟩ := hacc.ring
    have hsub : Submits s (s.called ctx op env c) ((s.tail, e) :: link) := submits_called hadds
    -- An entry of the context is the new one, or one of before.
    have hold : ∀ pos e', (s.called ctx op env c).Outstanding pos e' →
        (s.called ctx op env c).ofContext n pos = true →
        (pos = s.tail ∧ e' = e ∧ ctx.buffer_payload = some n ∧ op.usesFirst = true) ∨
          (s.Outstanding pos e' ∧ s.ofContext n pos = true) := by
      intro pos e' ho hctx
      obtain ⟨k, reg, hk, hreg, hof⟩ := ofContext_iff.mp hctx
      rw [howner] at hk
      rw [hregistered] at hreg
      by_cases hpos : pos = s.tail
      · rw [hpos, Function.update_self] at hk
        cases hk
        rw [Function.update_self] at hreg
        cases hreg
        rw [hpos] at ho
        simp only [Registered.ofContext, Bool.and_eq_true, decide_eq_true_eq] at hof
        exact .inl ⟨hpos, hsub.eq_of_first h.bound ho, hof⟩
      · rw [Function.update_of_ne hpos] at hk
        rw [Function.update_of_ne (h.owned pos k hk).2.ne] at hreg
        exact .inr ⟨hout pos e' k ho hk, ofContext_iff.mpr ⟨k, reg, hk, hreg, hof⟩⟩
    have haimed := h.aimed hok hcall hacc hadds
    refine { hown with
      payload := h.payload.same hpay
      slots := fun k reg hreg hof => ?_
      entries := fun pos e' ho hctx => ?_
      inside := fun pos e' ho hctx => ?_
      apart := fun pos e' pos' e'' ho ho' hctx hctx' hne => ?_
      stored := fun d hd hctx => ?_
      bytes := fun d hd reg hreg => ?_ }
    · rw [hregistered] at hreg
      by_cases hk : k = s.loop.calls
      · rw [hk, Function.update_self] at hreg
        cases hreg
        simp only [Registered.ofContext, Bool.and_eq_true, decide_eq_true_eq] at hof
        refine ⟨(haimed hof.1 hof.2).1, ?_⟩
        rw [show (req.slot idx).opcode = op.opcode from hacc.request.opcode]
        exact Op.opcode_of_usesFirst hof.2
      · rw [Function.update_of_ne hk] at hreg
        exact h.slots k reg hreg hof
    · rcases hold pos e' ho hctx with ⟨-, rfl, hn, huses⟩ | ⟨ho, hctx⟩
      · obtain ⟨-, hdest, hmulti, hcopy, hselect, -⟩ := haimed hn huses
        obtain ⟨len, hlen⟩ := op.target_eq b
        exact ⟨⟨len, hdest.trans (by rw [hlen])⟩, hmulti, hcopy, hselect⟩
      · exact h.entries pos e' ho hctx
    · rcases hold pos e' ho hctx with ⟨-, rfl, hn, huses⟩ | ⟨ho, hctx⟩
      · exact (haimed hn huses).2.2.2.2.2.1
      · exact h.inside pos e' ho hctx
    · rcases hold pos e' ho hctx with ⟨rfl, rfl, hn, huses⟩ | ⟨ho, hctx⟩ <;>
        rcases hold pos' e'' ho' hctx' with ⟨rfl, rfl, hn', huses'⟩ | ⟨ho', hctx'⟩
      · exact absurd rfl hne
      · obtain ⟨-, hdest, -, -, -, -, hapart⟩ := haimed hn huses
        intro r hr r' hr'
        rw [hdest, List.mem_singleton] at hr
        rw [hr]
        exact (hapart (pos', e'') (outstanding_mem.mpr ho') hctx' r' hr').symm
      · obtain ⟨-, hdest, -, -, -, -, hapart⟩ := haimed hn' huses'
        intro r hr r' hr'
        rw [hdest, List.mem_singleton] at hr'
        rw [hr']
        exact hapart (pos, e') (outstanding_mem.mpr ho) hctx r hr
      · exact h.apart pos e' pos' e'' ho ho' hctx hctx' hne
    · rw [hcq] at hd
      rw [ofContext_step h.toTracked hstep (h.bound _ _ (.inr ⟨d, hd, rfl, rfl⟩))] at hctx
      rw [hframe.mem]
      exact h.stored d hd hctx
    · rw [hdel] at hd
      rw [hregistered, Function.update_of_ne (h.owned _ _ (h.routed d hd)).2.ne] at hreg
      exact h.bytes d hd reg hreg

/-- **A call of the context that does not keep to the condition breaks the agreement.** -/
theorem TargetInv.targets_of_agrees {ctx : ExecutionContext} {op : Op} {env : CallEnv}
    (h : TargetInv n regions b s) (hstep : step s (.call ctx op env) = some s')
    (hagrees : Agrees n regions s') : Targets n regions s (.call ctx op env) := by
  intro hasks r hr
  rw [target_of_fixed h.payload, Option.mem_some_iff] at hr
  subst hr
  have hstep' := hstep
  obtain ⟨-, c, hcall, rfl⟩ := call_step hstep'
  have hfuture := future_of_asksContext hasks hcall
  obtain ⟨hctx, huses, -⟩ := hasks
  rcases called_cases h.sound hcall with ⟨hrej, -⟩ | ⟨req, idx, e, hacc, howner, hregistered⟩
  · exact absurd hrej.future hfuture
  · obtain ⟨link, hadds⟩ := hacc.ring
    have hsub : Submits s (s.called ctx op env c) ((s.tail, e) :: link) := submits_called hadds
    obtain ⟨-, call, hprep, haims⟩ := h.aims hcall hacc hadds hctx huses
    -- The new entry is in flight, and belongs to the context.
    have hnew : (s.called ctx op env c).Outstanding s.tail e :=
      .inl (hsub.pending.mem_iff.mpr (List.mem_append_right _ List.mem_cons_self))
    have hof : (s.called ctx op env c).ofContext n s.tail = true := by
      refine ofContext_iff.mpr ⟨s.loop.calls, ⟨ctx, op, env, req.slot idx⟩, ?_, ?_, ?_⟩
      · rw [howner, Function.update_self]
      · rw [hregistered, Function.update_self]
      · simp [Registered.ofContext, hctx, huses]
    refine ⟨fun hop => ?_, fun entry hentry hold r' hr' => ?_⟩
    · cases op with
      | read f offset size tp =>
        obtain ⟨fd, rfl⟩ := haims
        exact hagrees.inside _ _ hnew hof _ _ _ _ _ hprep
      | _ => cases hop
    · have hout := outstanding_mem.mp hentry
      have hlt := h.bound _ _ hout
      refine hagrees.apart entry.1 entry.2 s.tail e
        (outstanding_step h.sound hstep hout (unread_of_ne (by simp))) hnew
        (by rw [ofContext_step h.toTracked hstep hlt]; exact hold) hof hlt.ne r' hr' _ ?_
      rw [(haims.entry hprep).1]
      exact List.mem_singleton_self _

/-- The reader meets last completions only. -/
theorem Targets.lastOnly (hok : Targets n regions s l) : LastOnly s l := by
  cases l with
  | read renv => exact hok
  | _ => trivial

/-- **A step keeps the invariant** where the operations of the context do not meet. -/
theorem TargetInv.step (h : TargetInv n regions b s) (hok : Targets n regions s l)
    (hstep : System.step s l = some s') : TargetInv n regions b s' := by
  have hown := h.toOwns.step hok.lastOnly hstep
  have hout := fun pos e k (ho : s'.Outstanding pos e) (hk : s.owner pos = some k) =>
    outstanding_of_step h.toTracked hstep hk ho
  cases l with
  | call ctx op env => exact h.call hok hstep
  | read renv => exact h.read hok hstep
  | post j res flags into data =>
    obtain ⟨f, hf, hmay, -, hdata, rfl⟩ := post_step hstep
    exact h.posted hf hmay hdata hok hown
  | initProvidedMode | closeProvidedMode | submit | returned | writeToSelf | signal =>
    cases hstep
    exact h.same hown rfl rfl rfl (.refl _) hout (fun d hd => hd) fun d hd => .inl hd
  | cancel f =>
    simp only [System.step] at hstep
    split at hstep
    · cases hstep
      exact h.same hown rfl rfl rfl (.refl _) hout (fun d hd => hd) fun d hd => .inl hd
    · cases hstep

/-- The invariant holds at the start. -/
theorem targetInv_init {registry_size : ℕ} {h : registry_size < 2^31} {world : World}
    {env : InitEnv} (hworld : world.ContextsSound)
    (hfixed : (world.payloads (.context n)).Fixed b) :
    TargetInv n regions b (init registry_size h world env) := {
  owns_init hworld with
    payload := hfixed
    slots := fun k reg hreg => by cases hreg
    entries := fun pos e _ hctx => by cases hctx
    inside := fun pos e _ hctx => by cases hctx
    apart := fun pos e pos' e' _ _ hctx => by cases hctx
    stored := fun c hc => by cases hc
    bytes := fun d hd => by cases hd }

/-- **The operations of a fixed context agree on the memory** in every run in which none meets
another one or the wrong buffer; and a call that does ends the agreement. -/
theorem agrees_of_run (registry_size : ℕ) (h : registry_size < 2^31) {world : World}
    (hworld : world.ContextsSound) (hfixed : world.RegistersFixed n regions) (env : InitEnv)
    (hrun : Run step (Targets n regions) (init registry_size h world env) s) :
    Agrees n regions s ∧ ∀ ctx op cenv s', step s (.call ctx op cenv) = some s' →
      (Agrees n regions s' ↔ Targets n regions s (.call ctx op cenv)) := by
  obtain ⟨b, hb⟩ := hfixed.fixed
  have hinv := hrun.invariant (P := TargetInv n regions b) (targetInv_init hworld hb)
    fun _ _ _ hinv hok hstep => hinv.step hok hstep
  exact ⟨hinv.agrees, fun ctx op cenv s' hstep =>
    ⟨hinv.targets_of_agrees hstep, fun hok => (hinv.step hok hstep).agrees⟩⟩

/-! ## Runs -/

/-- The payload of a context with one buffer of 16 bytes. -/
def singleCreated : Option BufferPayload :=
  createBufferPayload .FIXED .PAYLOAD_LINEAR none 1 16 (fun _ => 1000) 0 .zero

/-- The same after the context was entered in `FIXED` mode. -/
def singleEntered : Option Entered :=
  singleCreated.bind fun payload => bufferModeEnter ringInit payload ⟨0, 0, true⟩

/-- Memory in which the first context has entered `FIXED` mode with one buffer. -/
def singleWorld : World where
  payloads p :=
    if p = PayloadRef.context 0 then (singleEntered.get (by decide +kernel)).payload
    else Sample.world.payloads p
  files := Sample.world.files
  sockets := Sample.world.sockets
  mem := Sample.world.mem

/-- One buffer was registered. -/
theorem singleWorld_registers : singleWorld.RegistersFixed 0 [⟨1000, 16⟩] := by
  have hsome : singleEntered = some (singleEntered.get (by decide +kernel)) :=
    (Option.some_get _).symm
  obtain ⟨payload, hcreate, henter⟩ := Option.bind_eq_some_iff.mp hsome
  have hamount : singleCreated.map BufferPayload.amount = some 1 := by decide +kernel
  rw [hcreate, Option.map_some, Option.some.injEq] at hamount
  exact ⟨_, _, _, _, _, _, _, payload, _, _, _, hcreate, hamount.ge, henter, by decide +kernel, rfl⟩

/-- The world is one that calls may be made in. -/
theorem singleWorld_sound : singleWorld.ContextsSound := by
  intro n hmode
  by_cases hn : n = 0
  · subst hn
    have hfixed : (singleWorld.payloads (.context 0)).mode = .FIXED := by decide +kernel
    rw [hfixed] at hmode
    cases hmode
  · have hne : ¬ PayloadRef.context n = PayloadRef.context 0 :=
      fun heq => hn (PayloadRef.context.inj heq)
    change (if PayloadRef.context n = PayloadRef.context 0 then _ else _ :
      BufferPayload).payload_type = _
    rw [if_neg hne]
    rfl

/-- Two reads, one after the other, in a pool of one buffer. -/
def readTwice : List Label :=
  openRun ++ [fixedRead, .post 2 4 0 [⟨1000, 16⟩] [1, 1, 1, 1], .read Sample.readEnv,
    fixedRead, .post 2 2 0 [⟨1000, 16⟩] [2, 2], .read Sample.readEnv]

/-- Both hand out what the kernel wrote. -/
theorem agrees_readTwice : ∃ s,
    exec step (Targets 0 [⟨1000, 16⟩]) (init 2 (by decide) singleWorld Sample.initEnv) readTwice =
      some s ∧
    s.deliveries.map Delivery.outcome = [.file 0 9, .bytes [1, 1, 1, 1], .bytes [2, 2]] ∧
    Agrees 0 [⟨1000, 16⟩] s := by
  obtain ⟨s, hs, hf⟩ := Option.map_eq_some_iff.mp
    (show (exec step (Targets 0 [⟨1000, 16⟩])
      (init 2 (by decide) singleWorld Sample.initEnv) readTwice).map
      (fun s => s.deliveries.map Delivery.outcome) =
        some [.file 0 9, .bytes [1, 1, 1, 1], .bytes [2, 2]] by decide +kernel)
  exact ⟨s, hs, hf, (agrees_of_run 2 (by decide) singleWorld_sound singleWorld_registers
    Sample.initEnv (.of_exec hs)).1⟩

/-- Two buffers were registered. -/
theorem fixedWorld_registers : fixedWorld.RegistersFixed 0 [⟨1000, 16⟩, ⟨1016, 16⟩] := by
  have hsome : fixedEntered = some (fixedEntered.get (by decide +kernel)) :=
    (Option.some_get _).symm
  obtain ⟨payload, hcreate, henter⟩ := Option.bind_eq_some_iff.mp hsome
  have hamount : fixedCreated.map BufferPayload.amount = some 2 := by decide +kernel
  rw [hcreate, Option.map_some, Option.some.injEq] at hamount
  exact ⟨_, _, _, _, _, _, _, payload, _, _, _, hcreate, by omega, henter, by decide +kernel, rfl⟩

/-- The first read in a pool of two buffers names the second one, and the front of the first. -/
theorem secondBuffer_not_agrees : ∃ s,
    Run step anyStep (init 2 (by decide) fixedWorld Sample.initEnv) s ∧
    fixedWorld.RegistersFixed 0 [⟨1000, 16⟩, ⟨1016, 16⟩] ∧
    ¬ Agrees 0 [⟨1000, 16⟩, ⟨1016, 16⟩] s := by
  obtain ⟨s, hs, hf⟩ := Option.map_eq_some_iff.mp
    (show (exec step anyStep (init 2 (by decide) fixedWorld Sample.initEnv)
      (openRun ++ [fixedRead])).map
      (fun s => s.pending.filterMap fun entry =>
        if s.ofContext 0 entry.1 then entry.2.prep else none) =
        some [.read_fixed 9 1000 16 0 1] by decide +kernel)
  refine ⟨s, .of_exec hs, fixedWorld_registers, fun hagrees => ?_⟩
  have hmem : PrepCall.read_fixed 9 1000 16 0 1 ∈ s.pending.filterMap fun entry =>
      if s.ofContext 0 entry.1 then entry.2.prep else none := by
    rw [hf]
    exact List.mem_singleton_self _
  obtain ⟨entry, hentry, heq⟩ := List.mem_filterMap.mp hmem
  split at heq
  · next hctx =>
    exact absurd (hagrees.inside entry.1 entry.2 (.inl hentry) hctx _ _ _ _ _ heq) (by decide)
  · cases heq

/-- A socket is made, and two receives in the fixed context overlap: the kernel answers both before
the first one is read. -/
def receiveTwice : List Label :=
  [.call Sample.context (.socket 2 1 .zero) Sample.callEnv, .post 2 9 0 [] [],
    .read Sample.readEnv,
    .call ⟨.ONESHOT, .NORMAL_TRANSFER, some 0⟩ (.recv (.made 0) 4 none false .zero) Sample.callEnv,
    .call ⟨.ONESHOT, .NORMAL_TRANSFER, some 0⟩ (.recv (.made 0) 4 none false .zero) Sample.callEnv,
    .post 2 4 0 [⟨1000, 16⟩] [1, 1, 1, 1], .post 2 4 0 [⟨1000, 16⟩] [2, 2, 2, 2],
    .read Sample.readEnv]

/-- The first receive hands out the bytes of the second. -/
theorem receiveTwice_not_agrees : ∃ s,
    Run step anyStep (init 2 (by decide) singleWorld Sample.initEnv) s ∧
    singleWorld.RegistersFixed 0 [⟨1000, 16⟩] ∧ ¬ Agrees 0 [⟨1000, 16⟩] s := by
  obtain ⟨s, hs, hf⟩ := Option.map_eq_some_iff.mp
    (show (exec step anyStep (init 2 (by decide) singleWorld Sample.initEnv) receiveTwice).map
      (fun s => s.deliveries.filterMap fun d =>
        if (s.registered d.future).any (Registered.ofContext 0) then
          some (d.outcome, d.completion.data) else none) =
        some [(.bytes [2, 2, 2, 2], [1, 1, 1, 1])] by decide +kernel)
  refine ⟨s, .of_exec hs, singleWorld_registers, fun hagrees => ?_⟩
  have hmem : (Outcome.bytes [2, 2, 2, 2], ([1, 1, 1, 1] : List UInt8)) ∈
      s.deliveries.filterMap fun d =>
        if (s.registered d.future).any (Registered.ofContext 0) then
          some (d.outcome, d.completion.data) else none := by
    rw [hf]
    exact List.mem_singleton_self _
  obtain ⟨d, hd, heq⟩ := List.mem_filterMap.mp hmem
  split at heq
  · next hany =>
    obtain ⟨reg, hreg, hctx⟩ := (Option.any_eq_true ..).mp hany
    obtain ⟨houtcome, hdata⟩ := Prod.mk.inj (Option.some.inj heq)
    have hbytes := (hagrees.bytes d hd reg hreg hctx).2 _ houtcome
    rw [hdata] at hbytes
    exact absurd hbytes (by decide)
  · cases heq

end System

end Uringio
