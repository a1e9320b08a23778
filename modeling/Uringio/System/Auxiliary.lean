import Uringio.Loop.Kind
import Uringio.System.Tracked

/-!
# Completions that belong to no request

The entries of linked timeouts, of provided buffers, of the eventfd and of the signal pipe belong
to no request. The reader takes the tag of their completions for an index like any other, so such a
completion is harmless exactly when the index names no slot in use, or a slot that the reader
happens to keep (`auxiliary_untouched_iff`). The tag of the eventfd names none. The other entries
are not tagged, or tagged with an address: the completion of `init_provided_mode` in a fresh entry
carries the tag `0`, and resolves the future of the request at the index `0`
(`auxiliary_not_untouched`).
-/

namespace Uringio

namespace System

open Transition (Run anyStep exec)

variable {s : System} {c : Completion} {cq : List Completion} {renv : ReadEnv}

/-- The reader handles the oldest completion, and changes neither the registry nor a future. -/
def Untouched (s : System) (renv : ReadEnv) : Prop :=
  ∃ s', step s (.read renv) = some s' ∧ s'.loop.registry = s.loop.registry ∧
    s'.loop.futures = s.loop.futures

/-- The slot that the completion names waits for connections, and the object of the new one cannot
be allocated: the reader keeps the slot. -/
def KeepsAccept (L : Loop) (renv : ReadEnv) (cqe : Cqe) : Prop :=
  ∃ slot, registryGet L.registry cqe.index = some slot ∧ slot.opcode = .accept ∧
    slot.socket.isSome = true ∧ renv.gcNew = false ∧ 0 ≤ cqe.res

instance (L : Loop) (renv : ReadEnv) (cqe : Cqe) : Decidable (KeepsAccept L renv cqe) :=
  inferInstanceAs (Decidable (∃ slot ∈ registryGet L.registry cqe.index, _))

/-- The kind of a completion whose slot the reader keeps. -/
theorem kind_of_keepsAccept {L : Loop} {cqe : Cqe} (hlive : L.registry.Live cqe.index)
    (h : KeepsAccept L renv cqe) : L.completionKind renv cqe = some .left := by
  obtain ⟨slot, hget, hop, hsock, hgc, hres⟩ := h
  obtain ⟨slot', hget', hfut⟩ := hlive
  rw [hget] at hget'
  cases hget'
  have hnone : slot.future.isNone = false := by
    rw [Option.isNone_eq_false_iff]
    exact hfut
  rw [Loop.completionKind, hget]
  simp only [slotKind, hnone, Bool.false_eq_true, if_false]
  rw [if_neg fun h => absurd h.1 (by omega)]
  simp [switchKind, hop, hsock, hgc]

/-- The reader handles the oldest completion. -/
theorem step_of_read {r : Read} (hcq : s.cq = c :: cq) (hread : readCqe s.loop renv c.cqe = .ok r) :
    step s (.read renv) = some ({ s with cq := cq }.handled c r) := by
  simp only [step, hcq, hread]
  rfl

/-- What the reader does with a completion leaves the requests alone, in a sound loop. -/
theorem untouched_iff (hs : s.loop.Sound) (hcq : s.cq = c :: cq) : Untouched s renv ↔
    ¬ s.loop.registry.Live c.cqe.index ∨ KeepsAccept s.loop renv c.cqe := by
  constructor
  · rintro ⟨s', hstep, hreg, -⟩
    obtain ⟨c', cq', r, hcq', hread, rfl⟩ := read_step hstep
    rw [hcq] at hcq'
    cases hcq'
    rcases hs.read_cases hread with ⟨hdead, -⟩ | ⟨slot, k, hget, hfut, -, hleft | hfin⟩
    · exact .inl hdead
    · exact .inr ⟨slot, hget, hleft.accept, hleft.socket, hleft.gcNew, hleft.res⟩
    · refine absurd ⟨slot, ?_, by rw [hfut]; rfl⟩ hfin.dead
      rw [show r.loop.registry = s.loop.registry from hreg]
      exact hget
  · intro h
    by_cases hlive : s.loop.registry.Live c.cqe.index
    · have hkind := kind_of_keepsAccept hlive (h.resolve_left (not_not_intro hlive))
      obtain ⟨k, slot, hget, hfut⟩ := Loop.live_iff_serves.mp hlive
      obtain ⟨r, hread, hdoes, hleft⟩ := Loop.readCqe_kind hs hget hfut hkind
      rw [if_pos rfl] at hleft
      refine ⟨_, step_of_read hcq hread, hleft.registry, ?_⟩
      funext j
      by_cases hj : j = k
      · rw [hj]
        exact hdoes.futures
      · exact hleft.frame.futures j hj
    · exact ⟨_, step_of_read hcq (readCqe_of_not_live hlive), rfl, rfl⟩

/-- **When a completion that belongs to no request is harmless.** In every reachable state, the
reader handles it without touching a request exactly if its tag, cut to an `int`, names no slot in
use, or the slot of a failed `accept` that the reader keeps. -/
theorem auxiliary_untouched_iff (registry_size : ℕ) (h : registry_size < 2^31) {world : World}
    (hworld : world.ContextsSound) (env : InitEnv)
    (hrun : Run step anyStep (init registry_size h world env) s) :
    ∀ c cq renv, s.cq = c :: cq → s.owner c.pos = none →
      (Untouched s renv ↔
        ¬ s.loop.registry.Live c.cqe.index ∨ KeepsAccept s.loop renv c.cqe) :=
  fun _ _ _ hcq _ => untouched_iff (tracked_of_run (tracked_init hworld) hrun).sound hcq

/-- The first step of the concrete runs. -/
def sample (registry_size : ℕ) (h : registry_size < 2^31) : System :=
  init registry_size h Sample.world Sample.initEnv

/-- The eventfd was written, and its read has completed. -/
def wakeupRun : List Label := [.writeToSelf, .post 1 8 0 [⟨4096, 8⟩] (List.replicate 8 1)]

/-- The completion of the eventfd is dropped. -/
theorem auxiliary_untouched_wakeup :
    ∃ s, exec step anyStep (sample 1 (by decide)) wakeupRun = some s ∧
    s.cq.length = 1 ∧ Untouched s Sample.readEnv := by
  obtain ⟨s, hs, hf⟩ := Option.map_eq_some_iff.mp
    (show (exec step anyStep (sample 1 (by decide)) wakeupRun).map
      (fun s => (s.cq.map fun c => (s.owner c.pos, c.cqe.user_data))) =
        some [(none, WAKEUP_FD_TAG)] by decide +kernel)
  obtain ⟨c, hcq, hc⟩ := List.map_eq_singleton_iff.mp hf
  obtain ⟨howner, htag⟩ := Prod.mk.injEq _ _ _ _ ▸ hc
  refine ⟨s, hs, by rw [hcq]; rfl, ?_⟩
  exact (auxiliary_untouched_iff 1 (by decide) Sample.world_sound Sample.initEnv (.of_exec hs) c []
    _ hcq howner).mpr (.inl fun hlive => user_data_ne_of_live hlive htag)

/-- A socket is being made in the registry's only slot, buffers were handed to the kernel in a fresh
entry, and the completion of those is posted. -/
def provideRun : List Label :=
  [.call Sample.context (.socket 2 1 .zero) Sample.callEnv, .initProvidedMode 9000 16 1 0 2,
    .post 3 0 0 [] []]

/-- It resolves the future of the socket. -/
theorem auxiliary_not_untouched : ∃ s c,
    Run step anyStep (init 1 (by decide) Sample.world Sample.initEnv) s ∧
    s.cq = [c] ∧ s.owner c.pos = none ∧ c.sqe.prep = some (.provide_buffers 9000 16 1 0 0) ∧
    ¬ Untouched s Sample.readEnv ∧
    (step s (.read Sample.readEnv)).map (·.loop.futures 0) =
      some (.done (.socket (.made 0) 0)) := by
  obtain ⟨s, hs, hf⟩ := Option.map_eq_some_iff.mp
    (show (exec step anyStep (sample 1 (by decide)) provideRun).map
      (fun s => (s.cq.map fun c => (s.owner c.pos, c.sqe.prep), s.loop.futures 0,
        (step s (.read Sample.readEnv)).map (·.loop.futures 0))) =
        some ([(none, some (.provide_buffers 9000 16 1 0 0))], .pending,
          some (.done (.socket (.made 0) 0))) by decide +kernel)
  simp only [Prod.mk.injEq] at hf
  obtain ⟨hcq, hpending, hread⟩ := hf
  obtain ⟨c, hcq, hc⟩ := List.map_eq_singleton_iff.mp hcq
  simp only [Prod.mk.injEq] at hc
  refine ⟨s, c, .of_exec hs, hcq, hc.1, hc.2, ?_, hread⟩
  rintro ⟨s', hstep, -, hfut⟩
  rw [hstep] at hread
  have hdone : s'.loop.futures 0 = _ := Option.some.inj hread
  rw [hfut, hpending] at hdone
  cases hdone

end System

end Uringio
