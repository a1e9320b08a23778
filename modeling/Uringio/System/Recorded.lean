import Uringio.System.Tracked

/-!
# What the slots in use hold

A slot in use holds what the call registered whose future it names, as long as it is in use: nothing
but the removal of a request changes a slot that another call has filled (`Records`). This holds in
every reachable state, whoever the completions belong to (`records_of_run`).
-/

namespace Uringio

namespace System

open Transition (Run)

variable {s s' : System} {l : Label} {i : ℤ} {k : ℕ}

/-- A slot in use is the one that its call registered, and the call's request fits the call. -/
structure Records (s : System) : Prop where
  /-- A slot in use is the one on record. -/
  served : ∀ i k, s.loop.Serves i k →
    ∃ reg, s.registered k = some reg ∧ registryGet s.loop.registry i = some reg.slot
  /-- What is on record is what a call registered. -/
  request : ∀ k reg, s.registered k = some reg → k < s.loop.calls ∧
    ∃ (req : Request) (idx : ℤ) (payloads : PayloadRef → BufferPayload),
      reg.slot = req.slot idx ∧ req.OfCall k payloads reg.context reg.op reg.env

/-- A step that records nothing and leaves every slot that is still in use. -/
theorem Records.same (h : Records s) (hreg : s'.registered = s.registered)
    (hcalls : s.loop.calls ≤ s'.loop.calls)
    (hslots : ∀ i k, s'.loop.Serves i k → s.loop.Serves i k ∧
      registryGet s'.loop.registry i = registryGet s.loop.registry i) : Records s' where
  served i k hserves := by
    obtain ⟨hold, hget⟩ := hslots i k hserves
    rw [hreg, hget]
    exact h.served i k hold
  request k reg hk := by
    rw [hreg] at hk
    obtain ⟨hlt, hreq⟩ := h.request k reg hk
    exact ⟨lt_of_lt_of_le hlt hcalls, hreq⟩

/-- Calls keep the records: a rejected one changes no slot in use, an accepted one fills a slot and
records it. -/
theorem Records.call {ctx : ExecutionContext} {op : Op} {env : CallEnv} (h : Records s)
    (hs : s.loop.Sound) (hstep : step s (.call ctx op env) = some s') : Records s' := by
  have hle := calls_le hstep hs
  obtain ⟨-, c, hcall, rfl⟩ := call_step hstep
  rcases called_cases hs hcall with ⟨hrej, -, hregistered⟩ | ⟨req, idx, e, hacc, -, hregistered⟩
  · refine h.same hregistered hle fun i k hserves => ?_
    rw [called_loop] at hserves ⊢
    have hlive := hrej.live i (Loop.live_iff_serves.mpr ⟨k, hserves⟩)
    exact ⟨(Loop.serves_congr (hrej.slots i hlive)).mp hserves, hrej.slots i hlive⟩
  · constructor
    · intro i k hserves
      rw [called_loop] at hserves ⊢
      rw [hregistered]
      by_cases hi : i = idx
      · -- The slot that was filled serves the new call.
        rw [hi] at hserves ⊢
        have hk : k = s.loop.calls := hserves.unique (Loop.serves_accepted hacc)
        rw [hk, Function.update_self]
        exact ⟨_, rfl, hacc.slot⟩
      · have hold : s.loop.Serves i k := (Loop.serves_accepted_iff hacc hi).mp hserves
        obtain ⟨reg, hreg, hget⟩ := h.served i k hold
        have hne : k ≠ s.loop.calls := (h.request k reg hreg).1.ne
        rw [Function.update_of_ne hne, hacc.others i hi]
        exact ⟨reg, hreg, hget⟩
    · intro k reg hk
      rw [hregistered] at hk
      by_cases hself : k = s.loop.calls
      · rw [hself, Function.update_self] at hk
        cases hk
        rw [called_loop, hself, hacc.calls]
        exact ⟨Nat.lt_succ_self _, req, idx, _, rfl, hacc.request⟩
      · rw [Function.update_of_ne hself] at hk
        obtain ⟨hlt, hreq⟩ := h.request k reg hk
        exact ⟨lt_of_lt_of_le hlt hle, hreq⟩

/-- The reader keeps the records: it frees the slot of the completion at most. -/
theorem Records.read {renv : ReadEnv} (h : Records s) (hs : s.loop.Sound)
    (hstep : step s (.read renv) = some s') : Records s' := by
  have hle := calls_le hstep hs
  obtain ⟨c, cq, r, hcq, hread, rfl⟩ := read_step hstep
  refine h.same rfl hle fun i k hserves => ?_
  change r.loop.Serves i k at hserves
  change s.loop.Serves i k ∧ registryGet r.loop.registry i = registryGet s.loop.registry i
  rcases hs.read_cases hread with ⟨-, rfl⟩ | ⟨slot, j, -, -, -, hleft | hfin⟩
  · exact ⟨hserves, rfl⟩
  · have hget : registryGet r.loop.registry i = registryGet s.loop.registry i := by
      rw [hleft.registry]
    exact ⟨(Loop.serves_congr hget).mp hserves, hget⟩
  · obtain ⟨hne, hold⟩ := (Loop.serves_finished hfin).mp hserves
    exact ⟨hold, hfin.others i hne⟩

/-- **Steps keep the records.** -/
theorem Records.step (h : Records s) (hs : s.loop.Sound) (hstep : step s l = some s') :
    Records s' := by
  cases l with
  | call ctx op env => exact h.call hs hstep
  | read renv => exact h.read hs hstep
  | initProvidedMode | closeProvidedMode | submit | returned | writeToSelf | signal =>
    cases hstep
    exact h.same rfl le_rfl fun _ _ hserves => ⟨hserves, rfl⟩
  | post n res flags into data =>
    obtain ⟨f, -, -, -, -, rfl⟩ := post_step hstep
    exact h.same rfl le_rfl fun _ _ hserves => ⟨hserves, rfl⟩
  | cancel f =>
    simp only [System.step] at hstep
    split at hstep
    · cases hstep
      exact h.same rfl le_rfl fun _ _ hserves => ⟨hserves, rfl⟩
    · cases hstep

/-- Nothing is recorded of a new loop. -/
theorem records_init {registry_size : ℕ} {h : registry_size < 2^31} {world : World}
    {env : InitEnv} : Records (System.init registry_size h world env) where
  served i k hserves :=
    absurd (Loop.live_iff_serves.mpr ⟨k, hserves⟩) (registryNew_not_live registry_size h)
  request k reg hk := by cases hk

/-- **Every reachable state has its slots as they were registered.** -/
theorem records_of_run {ok : System → Label → Prop} (ht : Tracked s) (h : Records s)
    (hrun : Run System.step ok s s') : Records s' := by
  have hboth : Tracked s' ∧ Records s' :=
    hrun.invariant (P := fun s => Tracked s ∧ Records s) ⟨ht, h⟩
      fun _ _ _ hinv _ hstep => ⟨hinv.1.step hstep, hinv.2.step hinv.1.sound hstep⟩
  exact hboth.2

end System

end Uringio
