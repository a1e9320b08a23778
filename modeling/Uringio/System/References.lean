import Uringio.Loop.References
import Uringio.System.Closing

/-!
# The references of the registry over whole runs

In every reachable state the counts of the registry are those of its slots (`balanced_of_run`). So
the registry holds an object exactly while a request in progress needs it, and the future of a
request once (`references_of_run`): nothing that a completion can still name was given back, and
nothing is kept after the last completion. A shutdown gives up all references, also those of the
requests that are still in progress (`shutdown_references`).
-/

namespace Uringio

namespace System

open Transition (Run exec anyStep)
open Tally

variable {s s' : System} {l : Label}

/-- **Every step keeps the balance.** -/
theorem balanced_step (h : s.loop.Balanced) (hs : s.loop.Sound) (hstep : step s l = some s') :
    s'.loop.Balanced := by
  cases l with
  | call ctx op env =>
    obtain ⟨-, c, hcall, rfl⟩ := call_step hstep
    rw [called_loop]
    exact h.call hs.consistent hcall
  | read renv =>
    obtain ⟨c, cq, r, -, hread, rfl⟩ := read_step hstep
    exact h.read hread
  | initProvidedMode | closeProvidedMode | submit | returned | writeToSelf | signal =>
    cases hstep
    exact h.same ⟨rfl, rfl, id⟩
  | post n res flags into data =>
    obtain ⟨f, -, -, -, -, rfl⟩ := post_step hstep
    exact h.same ⟨rfl, rfl, id⟩
  | cancel f =>
    simp only [System.step] at hstep
    split at hstep
    · cases hstep
      exact h.same ⟨rfl, rfl, id⟩
    · cases hstep

/-- The slots of a new loop are empty, and no reference was taken. -/
theorem balanced_init {registry_size : ℕ} {h : registry_size < 2^31} {world : World}
    {env : InitEnv} : (init registry_size h world env).loop.Balanced := by
  have hempty : ∀ slot ∈ (registryNew registry_size h).slots, slot.pointers = [] := by
    intro slot hslot
    rw [List.eq_of_mem_replicate hslot]
    rfl
  constructor
  · exact fun i slot hget _ => hempty slot (List.mem_of_getElem? hget)
  · intro o
    exact (congrArg Nat.cast (tally_eq_zero hempty)).symm

/-- **In every reachable state** the counts are those of the slots. -/
theorem balanced_of_run {registry_size : ℕ} {h : registry_size < 2^31} {world : World}
    (hworld : world.ContextsSound) {env : InitEnv}
    (hrun : Run step anyStep (init registry_size h world env) s) :
    s.loop.Sound ∧ s.loop.Balanced := by
  have hboth : Tracked s ∧ s.loop.Balanced :=
    hrun.invariant (P := fun s => Tracked s ∧ s.loop.Balanced) ⟨tracked_init hworld, balanced_init⟩
      fun _ _ _ hinv _ hstep => ⟨hinv.1.step hstep, balanced_step hinv.2 hinv.1.sound hstep⟩
  exact ⟨hboth.1.sound, hboth.2⟩

/-- A request in progress needs the object: its slot points to it. -/
def Needed (s : System) (o : ObjRef) : Prop :=
  ∃ i slot, registryGet s.loop.registry i = some slot ∧ slot.future.isSome ∧ o ∈ slot.pointers

/-- A slot of the array, by its index. -/
theorem registryGet_of_getElem? {reg : RequestRegistry} {i : ℕ} {slot : RequestSlot}
    (h : reg.slots[i]? = some slot) : registryGet reg i = some slot := by
  have hlt : i < reg.size := by
    obtain ⟨hlt, -⟩ := List.getElem?_eq_some_iff.mp h
    rwa [reg.slots_length] at hlt
  rw [registryGet, CInt.toInt_natCast reg.size_lt, if_neg (by omega)]
  exact h

/-- A slot points to one future at most, and that is its own. -/
theorem count_future_pointers (slot : RequestSlot) (k : FutureRef) :
    slot.pointers.count (.future k) = if slot.future = some k then 1 else 0 := by
  obtain ⟨user_data, future, stream, payload, opcode, file, socket, addr, msghdr⟩ := slot
  cases future <;> cases file <;> cases socket <;>
    simp [RequestSlot.pointers, List.count_cons]

/-- **What the registry holds** in every reachable state: as many references to an object as slots
point to it; some, exactly while a request in progress needs it; and one to a future at most. -/
theorem references_of_run (registry_size : ℕ) (h : registry_size < 2^31) {world : World}
    (hworld : world.ContextsSound) (env : InitEnv)
    (hrun : Run step anyStep (init registry_size h world env) s) (o : ObjRef) :
    s.loop.refs o = s.loop.registry.references o ∧ (0 < s.loop.refs o ↔ s.Needed o) ∧
      ∀ k, o = .future k → s.loop.refs o ≤ 1 := by
  obtain ⟨hs, hb⟩ := balanced_of_run hworld hrun
  refine ⟨hb.refs o, ?_, fun k hk => ?_⟩
  · rw [hb.refs, Int.natCast_pos, RequestRegistry.references, tally_pos_iff]
    constructor
    · rintro ⟨slot, hslot, ho⟩
      obtain ⟨i, hi⟩ := List.mem_iff_getElem?.mp hslot
      refine ⟨i, slot, registryGet_of_getElem? hi, ?_, ho⟩
      by_contra hnone
      rw [hb.unused i slot hi (Option.not_isSome_iff_eq_none.mp hnone)] at ho
      cases ho
    · rintro ⟨i, slot, hget, -, ho⟩
      exact ⟨slot, List.mem_of_getElem? (Loop.getElem?_of_registryGet hget), ho⟩
  · subst hk
    have hone : s.loop.registry.references (.future k) ≤ 1 := by
      refine tally_le_one (fun slot _ => ?_) fun i j a b hi hj ha hb' => ?_
      · rw [count_future_pointers]
        split <;> omega
      · -- The future is served by one slot.
        have hfut : ∀ slot : RequestSlot, ObjRef.future k ∈ slot.pointers →
            slot.future = some k := by
          intro slot hmem
          have hpos := List.count_pos_iff.mpr hmem
          rw [count_future_pointers] at hpos
          by_contra hne
          rw [if_neg hne] at hpos
          omega
        have hij : (i : ℤ) = j := hs.injective i j k ⟨a, registryGet_of_getElem? hi, hfut a ha⟩
          ⟨b, registryGet_of_getElem? hj, hfut b hb'⟩
        omega
    rw [hb.refs]
    omega

/-- Two receives wait for data on a socket: the registry holds the socket twice, and the future of
the first one once. -/
theorem references_twoRecvs : ∃ s,
    exec step anyStep (init 2 (by decide) providedWorld Sample.initEnv) (pendingRecvs 2) = some s ∧
    s.loop.refs (.socket (.made 0)) = 2 ∧ s.Needed (.socket (.made 0)) ∧
    s.loop.refs (.future 1) ≤ 1 := by
  obtain ⟨s, hs, hf⟩ := Option.map_eq_some_iff.mp
    (show (exec step anyStep (init 2 (by decide) providedWorld Sample.initEnv) (pendingRecvs 2)).map
      (fun s => s.loop.refs (.socket (.made 0))) = some 2 by decide +kernel)
  have hrefs := references_of_run 2 (by decide) providedWorld_sound Sample.initEnv (.of_exec hs)
  refine ⟨s, hs, hf, (hrefs _).2.1.mp ?_, (hrefs (.future 1)).2.2 1 rfl⟩
  rw [hf]
  decide

/-- **A shutdown gives up every reference**, whatever completions arrive in its drain, and whatever
requests are still in progress. -/
theorem shutdown_references (registry_size : ℕ) (h : registry_size < 2^31) {world : World}
    (hworld : world.ContextsSound) (env : InitEnv)
    (hrun : Run step anyStep (init registry_size h world env) s) {ds : List Drained} {r : ℤ}
    {closed : Closed} (hclosed : gracefulShutdown s.loop ds r = .ok closed) (o : ObjRef) :
    closed.loop.refs o = 0 := by
  obtain ⟨-, hb⟩ := balanced_of_run hworld hrun
  obtain ⟨L, hdrain, hdone⟩ := bind_eq_ok.mp hclosed
  cases hdone
  exact (hb.drain hdrain).destroyed o

/-- A receive is in progress when its loop is closed. -/
theorem shutdown_references_recv : ∃ s closed,
    exec step anyStep (sample 2 (by decide)) recvClose = some s ∧
    s.loop.refs (.socket (.made 0)) = 1 ∧ s.loop.refs (.future 1) = 1 ∧
    gracefulShutdown s.loop (drained []) 1 = .ok closed ∧
    closed.loop.refs (.socket (.made 0)) = 0 ∧ closed.loop.refs (.future 1) = 0 := by
  obtain ⟨s, hs, hf⟩ := Option.map_eq_some_iff.mp
    (show (exec step anyStep (sample 2 (by decide)) recvClose).map
      (fun s => (s.loop.refs (.socket (.made 0)), s.loop.refs (.future 1),
        (gracefulShutdown s.loop (drained []) 1).toOption.map Closed.torn)) =
        some (1, 1, some true) by decide +kernel)
  simp only [Prod.mk.injEq] at hf
  obtain ⟨hsocket, hfuture, hclosed⟩ := hf
  obtain ⟨closed, hclosed, -⟩ := toOption_map_eq_some.mp hclosed
  have hnone := shutdown_references 2 (by decide) Sample.world_sound Sample.initEnv
    (.of_exec hs) hclosed
  exact ⟨s, closed, hs, hsocket, hfuture, hclosed, hnone _, hnone _⟩

end System

end Uringio
