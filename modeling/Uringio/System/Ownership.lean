import Uringio.System.Auxiliary

/-!
# Whose completion it is

Between a call and the last completion of its request, the slot of the request holds what the call
registered, and every future is resolved with a completion of its own request: `System.Owned`. The
reader removes a request with the first completion that it sees, so this holds in the runs in which
that is the last one (`owned_of_run`). A zero-copy send posts two: the reader frees the slot with
the first, a later call takes the index, and the second completion resolves the future of that call
(`zeroCopy_not_owned`).
-/

namespace Uringio

namespace System

open Transition (Run anyStep exec)

variable {s s' : System} {l : Label} {c : Completion} {cq : List Completion} {renv : ReadEnv}
  {added : List (ℕ × Sqe)}

/-- No request loses its slot, its payload or its message header before its last completion was
read, and no future is resolved with the completion of another request. -/
structure Owned (s : System) : Prop where
  /-- What the request of call number `k` holds while it has an outstanding entry. -/
  held : ∀ pos e k, s.Outstanding pos e → s.owner pos = some k →
    ∃ reg, s.registered k = some reg ∧ reg.slot.future = some k ∧
      registryGet s.loop.registry (CInt.toInt e.user_data) = some reg.slot ∧
      CInt.toInt e.user_data ∉ s.loop.registry.available_indices.entries ∧
      ∀ h ∈ reg.slot.objects, s.loop.released h = 0
  /-- Each delivery was to the future of the completion's own request. -/
  routed : ∀ d ∈ s.deliveries, s.owner d.completion.pos = some d.future

/-- The reader is about to submit the receiver of the slot again, under the same tag. -/
def SubmitsAgain (s : System) (cqe : Cqe) : Prop :=
  s.loop.ring.free ≠ 0 ∧ ∃ slot ∈ registryGet s.loop.registry cqe.index, resubmits slot cqe = true

instance (s : System) (cqe : Cqe) : Decidable (s.SubmitsAgain cqe) :=
  inferInstanceAs (Decidable (_ ∧ ∃ slot ∈ registryGet s.loop.registry cqe.index, _))

/-- A completion that is read is the last one of its request, which is not submitted again; or it
belongs to no request and names no slot in use; or the reader keeps the slot that it names. -/
def LastOnly (s : System) : Label → Prop
  | .read renv => ∀ c ∈ s.cq.head?, KeepsAccept s.loop renv c.cqe ∨
      if (s.owner c.pos).isSome then c.cqe.more = false ∧ ¬ s.SubmitsAgain c.cqe
      else ¬ s.loop.registry.Live c.cqe.index
  | _ => True

instance (s : System) : (l : Label) → Decidable (LastOnly s l)
  | .read _ => inferInstanceAs (Decidable (∀ c ∈ s.cq.head?, _ ∨ _))
  | .call .. | .initProvidedMode .. | .closeProvidedMode .. | .post .. | .submit .. | .writeToSelf
  | .returned | .signal | .cancel .. => inferInstanceAs (Decidable True)

/-- The invariant: what the state says about the slots, and who owns what. -/
structure Owns (s : System) : Prop extends Tracked s where
  /-- A request has one entry. -/
  unique : ∀ pos pos' k, s.owner pos = some k → s.owner pos' = some k → pos = pos'
  /-- The slot of an outstanding entry is that of its request. -/
  held : ∀ pos e k, s.Outstanding pos e → s.owner pos = some k →
    ∃ reg, s.registered k = some reg ∧ reg.slot.future = some k ∧
      registryGet s.loop.registry (CInt.toInt e.user_data) = some reg.slot
  /-- Each delivery was to the future of the completion's own request. -/
  routed : ∀ d ∈ s.deliveries, s.owner d.completion.pos = some d.future

/-- What a slot in use holds has not been given back. -/
theorem owned_of_owns (h : Owns s) : Owned s where
  held pos e k hout howner := by
    obtain ⟨reg, hreg, hfut, hget⟩ := h.held pos e k hout howner
    have hlive : s.loop.registry.Live (CInt.toInt e.user_data) :=
      ⟨_, hget, by rw [hfut]; rfl⟩
    exact ⟨reg, hreg, hfut, hget, fun hfree => ((h.sound.consistent.mem_iff _).mp hfree).2 hlive,
      (h.sound.slots _ _ k hget hfut).2.2⟩
  routed := h.routed

/-- A step that changes neither the owners nor the slots of those that have outstanding entries. -/
theorem Owns.same (h : Owns s) (ht : Tracked s') (howner : s'.owner = s.owner)
    (hregistered : s'.registered = s.registered)
    (hout : ∀ pos e k, s'.Outstanding pos e → s.owner pos = some k → s.Outstanding pos e ∧
      registryGet s'.loop.registry (CInt.toInt e.user_data) =
        registryGet s.loop.registry (CInt.toInt e.user_data))
    (hroutes : ∀ d ∈ s'.deliveries, d ∈ s.deliveries ∨ s.owner d.completion.pos = some d.future) :
    Owns s' := {
  ht with
    unique := by rw [howner]; exact h.unique
    held := fun pos e k ho hk => by
      rw [howner] at hk
      obtain ⟨hold, hget⟩ := hout pos e k ho hk
      rw [hregistered, hget]
      exact h.held pos e k hold hk
    routed := fun d hd => by
      rw [howner]
      exact (hroutes d hd).elim (h.routed d) id }

/-- Calls keep the invariant: an accepted one takes a slot that was free. -/
theorem Owns.call {ctx : ExecutionContext} {op : Op} {env : CallEnv} (h : Owns s)
    (hstep : step s (.call ctx op env) = some s') : Owns s' := by
  have ht := h.toTracked.step hstep
  obtain ⟨-, c, hcall, rfl⟩ := call_step hstep
  rcases called_cases h.sound hcall with ⟨hrej, howner, hregistered⟩ | ⟨req, idx, e, hacc, howner,
    hregistered⟩
  · refine h.same ht howner hregistered (fun pos e k hout hk => ?_) fun d hd => .inl ?_
    · have hold := outstanding_of_step h.toTracked hstep hk hout
      refine ⟨hold, ?_⟩
      obtain ⟨reg, -, hfut, hget⟩ := h.held pos e k hold hk
      rw [called_loop]
      exact hrej.slots _ ⟨_, hget, by rw [hfut]; rfl⟩
    · rw [called_deliveries] at hd
      exact hd
  · obtain ⟨link, hadds⟩ := hacc.ring
    have hsub : Submits s (s.called ctx op env c) ((s.tail, e) :: link) := submits_called hadds
    have hnone : s.owner s.tail = none := by
      cases hown : s.owner s.tail with
      | none => rfl
      | some j => exact absurd (h.owned _ j hown).1 (lt_irrefl _)
    -- An owner of the state after the call is the new one, or one of before.
    have hold : ∀ pos k, (s.called ctx op env c).owner pos = some k →
        (pos = s.tail ∧ k = s.loop.calls) ∨
          (pos ≠ s.tail ∧ k ≠ s.loop.calls ∧ s.owner pos = some k) := by
      intro pos k hk
      rw [howner] at hk
      by_cases hpos : pos = s.tail
      · rw [hpos, Function.update_self] at hk
        exact .inl ⟨hpos, (Option.some.inj hk).symm⟩
      · rw [Function.update_of_ne hpos] at hk
        exact .inr ⟨hpos, (h.owned pos k hk).2.ne, hk⟩
    refine { ht with unique := ?_, held := ?_, routed := ?_ }
    · intro pos pos' k hk hk'
      rcases hold pos k hk with ⟨rfl, rfl⟩ | ⟨-, hne, hk⟩ <;>
        rcases hold pos' _ hk' with ⟨rfl, heq⟩ | ⟨-, hne', hk'⟩
      · rfl
      · exact absurd rfl hne'
      · exact absurd heq hne
      · exact h.unique pos pos' k hk hk'
    · intro pos e' k hout hk
      rw [called_loop, hregistered]
      rcases hold pos k hk with ⟨rfl, rfl⟩ | ⟨-, hne, hk⟩
      · rw [Function.update_self, hsub.eq_of_first h.bound hout, hacc.index]
        exact ⟨_, rfl, (Loop.slotOf_accepted hacc).future, hacc.slot⟩
      · rw [Function.update_of_ne hne]
        obtain ⟨reg, hreg, hfut, hget⟩ :=
            h.held pos e' k (outstanding_of_step h.toTracked hstep hk hout) hk
        refine ⟨reg, hreg, hfut, ?_⟩
        rw [hacc.others _ fun heq => hacc.free ?_]
        · exact hget
        · rw [← heq]
          exact ⟨_, hget, by rw [hfut]; rfl⟩
    · intro d hd
      rw [called_deliveries] at hd
      have hk := h.routed d hd
      rw [howner, Function.update_of_ne]
      · exact hk
      · intro heq
        rw [heq, hnone] at hk
        cases hk

/-- What the guard says of the completion that is read. -/
theorem lastOnly_read (hok : LastOnly s (.read renv)) (hcq : s.cq = c :: cq) :
    KeepsAccept s.loop renv c.cqe ∨
      if (s.owner c.pos).isSome then c.cqe.more = false ∧ ¬ s.SubmitsAgain c.cqe
      else ¬ s.loop.registry.Live c.cqe.index :=
  hok c (by rw [hcq]; rfl)

/-- The completion whose request is finished is the last one of that request. -/
theorem Owns.last {r : Read} {slot : RequestSlot} {k : ℕ} (h : Owns s)
    (hok : LastOnly s (.read renv)) (hcq : s.cq = c :: cq)
    (hread : readCqe s.loop renv c.cqe = .ok r)
    (hget : registryGet s.loop.registry c.cqe.index = some slot) (hfut : slot.future = some k)
    (hfin : Finished s.loop k slot c.cqe r) :
    s.owner c.pos = some k ∧ c.cqe.more = false ∧ r.consumed = [] ∧ r.loop.ring = s.loop.ring := by
  have hlive : s.loop.registry.Live c.cqe.index := ⟨slot, hget, by rw [hfut]; rfl⟩
  have hkept : ¬ KeepsAccept s.loop renv c.cqe := by
    intro hkeeps
    obtain ⟨r', hread', -, hleft⟩ :=
      Loop.readCqe_kind h.sound hget hfut (kind_of_keepsAccept hlive hkeeps)
    rw [hread] at hread'
    cases hread'
    rw [if_pos rfl] at hleft
    exact hfin.dead (by rw [hleft.registry]; exact hlive)
  have hguard := (lastOnly_read hok hcq).resolve_left hkept
  split at hguard
  · next hsome =>
    obtain ⟨j, hj⟩ := Option.isSome_iff_exists.mp hsome
    have hc : c ∈ s.cq := by
      rw [hcq]
      exact List.mem_cons_self
    obtain ⟨reg, -, hfut', hget'⟩ := h.held c.pos c.sqe j (.inr ⟨c, hc, rfl, rfl⟩) hj
    rw [← h.tag c hc] at hget'
    have hserves : s.loop.Serves c.cqe.index j := ⟨_, hget', hfut'⟩
    have hkj : k = j := Loop.Serves.unique ⟨slot, hget, hfut⟩ hserves
    refine ⟨hj.trans (congrArg some hkj.symm), hguard.1, ?_⟩
    rcases hfin.ring with hsame | ⟨hresub, hfree, -⟩
    · exact hsame
    · exact absurd ⟨hfree, slot, hget, hresub⟩ hguard.2
  · exact absurd hlive hguard

/-- The reader keeps the invariant. -/
theorem Owns.read (h : Owns s) (hok : LastOnly s (.read renv))
    (hstep : step s (.read renv) = some s') : Owns s' := by
  have ht := h.toTracked.step hstep
  obtain ⟨c, cq, r, hcq, hread, rfl⟩ := read_step hstep
  obtain ⟨added, hadds⟩ := read_adds h.sound hread
  have hsub : Submits s ({ s with cq := cq }.handled c r) added := submits_handled hcq hadds
  -- The owners stay as they are where the queue does.
  have howner : r.loop.ring = s.loop.ring → ({ s with cq := cq }.handled c r).owner = s.owner :=
    fun hring => if_pos (.inl (congrArg RingBuffer.tail hring))
  rcases h.sound.read_cases hread with ⟨-, rfl⟩ | ⟨slot, k, hget, hfut, -, hleft | hfin⟩
  · refine h.same ht (howner rfl) rfl
      (fun pos e k hout hk => ⟨outstanding_of_step h.toTracked hstep hk hout, rfl⟩) fun d hd => ?_
    rcases List.mem_append.mp hd with hd | hd
    · exact .inl hd
    · cases hd
  · refine h.same ht (howner hleft.ring) rfl
      (fun pos e k hout hk => ⟨outstanding_of_step h.toTracked hstep hk hout, ?_⟩) fun d hd => ?_
    · exact congrArg (registryGet · _) hleft.registry
    · rcases List.mem_append.mp hd with hd | hd
      · exact .inl hd
      · rw [Read.deliveries, hleft.call] at hd
        cases hd
  · obtain ⟨hk, hmore, -, hring⟩ := h.last hok hcq hread hget hfut hfin
    refine h.same ht (howner hring) rfl (fun pos e j hout hj => ?_) fun d hd => ?_
    · have hold := outstanding_of_step h.toTracked hstep hj hout
      refine ⟨hold, hfin.others _ fun heq => ?_⟩
      obtain ⟨reg, -, hfut', hget'⟩ := h.held pos e j hold hj
      rw [heq] at hget'
      have hjk : j = k := Loop.Serves.unique ⟨_, hget', hfut'⟩ ⟨slot, hget, hfut⟩
      have hpos : pos = c.pos := h.unique pos c.pos k (hjk ▸ hj) hk
      exact h.toOrdered.ended hsub hcq hmore (hpos ▸ hout)
    · rcases List.mem_append.mp hd with hd | hd
      · exact .inl hd
      · obtain ⟨fo, hfo, rfl⟩ := List.mem_map.mp hd
        refine .inr (hk.trans (congrArg some ?_))
        exact (hfin.call fo.1 fo.2 (Option.mem_toList.mp hfo)).symm

/-- **A step keeps the invariant** where the reader meets last completions only. -/
theorem Owns.step (h : Owns s) (hok : LastOnly s l) (hstep : step s l = some s') : Owns s' := by
  have ht := h.toTracked.step hstep
  have hold : ∀ pos e k, s'.Outstanding pos e → s.owner pos = some k → s.Outstanding pos e :=
    fun _ _ _ hout hk => outstanding_of_step h.toTracked hstep hk hout
  cases l with
  | call ctx op env => exact h.call hstep
  | read renv => exact h.read hok hstep
  | initProvidedMode | closeProvidedMode | submit | returned | writeToSelf | signal =>
    cases hstep
    exact h.same ht rfl rfl (fun pos e k hout hk => ⟨hold pos e k hout hk, rfl⟩) fun d hd => .inl hd
  | post n res flags into data =>
    obtain ⟨f, -, -, -, -, rfl⟩ := post_step hstep
    exact h.same ht rfl rfl (fun pos e k hout hk => ⟨hold pos e k hout hk, rfl⟩) fun d hd => .inl hd
  | cancel f =>
    simp only [System.step] at hstep
    split at hstep
    · cases hstep
      exact h.same ht rfl rfl (fun pos e k hout hk => ⟨hold pos e k hout hk, rfl⟩)
        fun d hd => .inl hd
    · cases hstep

/-- At the start each request has one owner. -/
theorem owns_init {registry_size : ℕ} {h : registry_size < 2^31} {world : World} {env : InitEnv}
    (hworld : world.ContextsSound) : Owns (init registry_size h world env) := {
  tracked_init hworld with
    unique := fun pos pos' k hk => by cases hk
    held := fun pos e k _ hk => by cases hk
    routed := fun d hd => by cases hd }

/-- **Completions own their requests** in every run in which the reader meets last completions
only. -/
theorem owned_of_run (registry_size : ℕ) (h : registry_size < 2^31) {world : World}
    (hworld : world.ContextsSound) (env : InitEnv)
    (hrun : Run step LastOnly (init registry_size h world env) s) : Owned s :=
  owned_of_owns (hrun.invariant (owns_init hworld) fun _ _ _ ht hok hstep => ht.step hok hstep)

/-- A socket is made, its slot is given to a timer, and that one expires. -/
def reuseRun : List Label :=
  [.call Sample.context (.socket 2 1 .zero) Sample.callEnv, .post 2 9 0 [] [],
    .read Sample.readEnv, .call Sample.context (.timer 1 0 0 false) Sample.callEnv,
    .post 2 (-ETIME) 0 [] [], .read Sample.readEnv]

/-- Both requests had the same slot, and both futures their own completion. -/
theorem owned_reuse : ∃ s, exec step LastOnly (sample 1 (by decide)) reuseRun = some s ∧
    s.deliveries.map Delivery.future = [0, 1] ∧ Owned s := by
  obtain ⟨s, hs, hf⟩ := Option.map_eq_some_iff.mp
    (show (exec step LastOnly (sample 1 (by decide)) reuseRun).map
      (fun s => s.deliveries.map Delivery.future) = some [0, 1] by decide +kernel)
  exact ⟨s, hs, hf, owned_of_run 1 (by decide) Sample.world_sound Sample.initEnv (.of_exec hs)⟩

/-- A zero-copy send on a new socket: its first completion is read, then a timer takes the slot, and
the notification of the send is read. -/
def zeroCopyRun : List Label :=
  [.call Sample.context (.socket 2 1 .zero) Sample.callEnv, .post 2 9 0 [] [],
    .read Sample.readEnv,
    .call { Sample.context with transfer_mode := .ZERO_COPY }
      (.send (.made 0) ⟨2000, 5⟩ false .zero) Sample.callEnv,
    .post 2 5 IORING_CQE_F_MORE [] [], .read Sample.readEnv,
    .call Sample.context (.timer 1 0 0 false) Sample.callEnv,
    .post 2 0 IORING_CQE_F_NOTIF [] [], .read Sample.readEnv]

/-- The notification resolves the future of the timer. -/
theorem zeroCopy_not_owned : ∃ s,
    Run step anyStep (init 1 (by decide) Sample.world Sample.initEnv) s ∧
    s.deliveries.map (fun d => (s.owner d.completion.pos, d.future)) =
      [(some 0, 0), (some 1, 1), (some 1, 2)] ∧ ¬ Owned s := by
  obtain ⟨s, hs, hf⟩ := Option.map_eq_some_iff.mp
    (show (exec step anyStep (sample 1 (by decide)) zeroCopyRun).map
      (fun s => s.deliveries.map fun d => (s.owner d.completion.pos, d.future)) =
        some [(some 0, 0), (some 1, 1), (some 1, 2)] by decide +kernel)
  refine ⟨s, .of_exec hs, hf, fun howned => ?_⟩
  have hmem : ((some 1, 2) : Option FutureRef × FutureRef) ∈
      s.deliveries.map fun d => (s.owner d.completion.pos, d.future) := by
    rw [hf]
    decide
  obtain ⟨d, hd, heq⟩ := List.mem_map.mp hmem
  have hroute := howned.routed d hd
  obtain ⟨hown, hfut⟩ := Prod.mk.inj heq
  rw [hown, hfut] at hroute
  cases hroute

end System

end Uringio
