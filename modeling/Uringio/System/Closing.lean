import Uringio.Loop.Orderly
import Uringio.System.Selected

/-!
# Closing the loop after a run

What a shutdown does in a state that a run reaches, whatever completions arrive in its drain.

The drain does not ask whether the slot that a completion names is in use, as the reader does. So it
is safe exactly when the completions name distinct slots in use (`drain_safe_iff`); the second
completion of a zero-copy send is one that does not. `registry_destroy` frees the payload of each
slot that is left, so that each payload is freed once exactly when no two of these slots share one
(`freed_once_iff`). And it runs before the ring is torn down, while the futures of the slots that
are left get no exception, which says when a shutdown is orderly (`shutdown_orderly_iff`).

The shutdown does not start with the exception that a run left pending. `UringioLoop_close` is
called by Python code, so that none is pending when it is entered; `UringioLoop_dealloc` runs when
the last reference goes away, which may be while an exception is on its way (`atShutdown`).
-/

namespace Uringio

namespace System

open Transition (Run exec anyStep)

variable {s s' : System} {l : Label}

/-- **Every step keeps the slots tidy.** -/
theorem tidy_step (h : s.loop.Tidy) (hs : s.loop.Sound) (hstep : step s l = some s') :
    s'.loop.Tidy := by
  cases l with
  | call ctx op env =>
    obtain ⟨-, c, hcall, rfl⟩ := call_step hstep
    rw [called_loop]
    exact h.call hs hcall
  | read renv =>
    obtain ⟨c, cq, r, -, hread, rfl⟩ := read_step hstep
    exact h.read hs hread
  | initProvidedMode | closeProvidedMode | submit | returned | writeToSelf | signal =>
    cases hstep
    exact h.congr rfl rfl rfl
  | post n res flags into data =>
    obtain ⟨f, -, -, -, -, rfl⟩ := post_step hstep
    exact h.congr rfl rfl rfl
  | cancel f =>
    simp only [System.step] at hstep
    split at hstep
    · cases hstep
      exact h.congr rfl rfl rfl
    · cases hstep

/-- The slots of a new loop are not in use, and nothing was released. -/
theorem tidy_init {registry_size : ℕ} {h : registry_size < 2^31} {world : World} {env : InitEnv} :
    (init registry_size h world env).loop.Tidy where
  unused i slot hget _ := by
    have hzero : slot = .zero := registryGet_new (show registryGet
      (registryNew registry_size h) i = some slot from hget)
    rw [hzero]
    rfl
  normal i slot k hget hfut _ := by
    have hlive : (registryNew registry_size h).Live i := ⟨slot, hget, by rw [hfut]; rfl⟩
    exact absurd hlive (registryNew_not_live registry_size h)
  once o _ := Nat.zero_le 1

/-- **In every reachable state** the loop is sound and tidy. -/
theorem tidy_of_run {registry_size : ℕ} {h : registry_size < 2^31} {world : World}
    (hworld : world.ContextsSound) {env : InitEnv}
    (hrun : Run step anyStep (init registry_size h world env) s) : s.loop.Sound ∧ s.loop.Tidy := by
  have hboth : Tracked s ∧ s.loop.Tidy :=
    hrun.invariant (P := fun s => Tracked s ∧ s.loop.Tidy) ⟨tracked_init hworld, tidy_init⟩
      fun _ _ _ hinv _ hstep => ⟨hinv.1.step hstep, tidy_step hinv.2 hinv.1.sound hstep⟩
  exact ⟨hboth.1.sound, hboth.2⟩

/-- Completions that arrive in a drain, each with whether `set_exception` raises for it. -/
def drained (arrived : List (Completion × Bool)) : List Drained :=
  arrived.map fun a => ⟨a.1.cqe, a.2⟩

/-- The completions in the queue, for the drain. -/
def atClose (s : System) : List (Completion × Bool) := s.cq.map fun c => (c, false)

/-- The drain calls `registry_remove` on slots in use only, does not abort, and leaves no index
twice on the stack. -/
def DrainSafe (L : Loop) (ds : List Drained) : Prop :=
  L.RemovesLive ds ∧ ∃ L', L.drain ds = .ok L' ∧ L'.registry.available_indices.entries.Nodup

/-- **When the drain is safe**: when the completions name distinct slots in use. -/
theorem drain_safe_iff (registry_size : ℕ) (h : registry_size < 2^31) {world : World}
    (hworld : world.ContextsSound) (env : InitEnv)
    (hrun : Run step anyStep (init registry_size h world env) s) (ds : List Drained) :
    DrainSafe s.loop ds ↔
      (s.loop.removals ds).Nodup ∧ ∀ i ∈ s.loop.removals ds, s.loop.registry.Live i := by
  have hcons := (tracked_of_run (tracked_init hworld) hrun).sound.consistent
  rw [← Loop.removesLive_iff hcons]
  constructor
  · exact fun hsafe => hsafe.1
  · intro hlive
    obtain ⟨L', hdrain, hcons'⟩ := Loop.drain_of_removesLive hcons hlive
    exact ⟨hlive, L', hdrain, hcons'.nodup⟩

/-- **When each payload is freed once** in a run, a drain and `registry_destroy`: when the drain
leaves no payload in two slots. -/
theorem freed_once_iff (registry_size : ℕ) (h : registry_size < 2^31) {world : World}
    (hworld : world.ContextsSound) (env : InitEnv)
    (hrun : Run step anyStep (init registry_size h world env) s) {ds : List Drained} {L : Loop}
    (hdrain : s.loop.drain ds = .ok L) :
    L.FreedOnce ↔ ∀ i j p, L.heldAt i = some p → L.heldAt j = some p → i = j := by
  obtain ⟨hs, ht⟩ := tidy_of_run hworld hrun
  exact Loop.freedOnce_iff ((Loop.apart_of_sound hs ht).drain hdrain)

/-- A receive of a socket in a context that provides buffers. -/
def recvProvided : Label :=
  .call ⟨.ONESHOT, .NORMAL_TRANSFER, some 0⟩ (.recv (.made 0) 1024 none false .zero) Sample.callEnv

/-- A socket is made, and some receives wait for data. -/
def pendingRecvs (n : ℕ) : List Label :=
  [.call Sample.context (.socket 2 1 .zero) Sample.callEnv, .post 2 9 0 [] [],
    .read Sample.readEnv] ++ List.replicate n recvProvided

/-- One receive is pending, and its payload is freed once. -/
theorem freed_once_oneRecv : ∃ s,
    exec step anyStep (init 2 (by decide) providedWorld Sample.initEnv) (pendingRecvs 1) = some s ∧
    s.loop.heldAt 1 = some (.context 0) ∧ s.loop.FreedOnce := by
  obtain ⟨s, hs, hf⟩ := Option.map_eq_some_iff.mp
    (show (exec step anyStep (init 2 (by decide) providedWorld Sample.initEnv) (pendingRecvs 1)).map
      (fun s => (s.loop.registry.size, s.loop.heldAt 0, s.loop.heldAt 1)) =
        some (2, none, some (.context 0)) by decide +kernel)
  simp only [Prod.mk.injEq] at hf
  obtain ⟨hsize, h₀, h₁⟩ := hf
  refine ⟨s, hs, h₁, (freed_once_iff 2 (by decide) providedWorld_sound Sample.initEnv (.of_exec hs)
    (show s.loop.drain [] = .ok s.loop from rfl)).mpr fun i j p hi hj => ?_⟩
  -- The slot at `1` is the only one that holds a payload.
  have hone : ∀ i, s.loop.heldAt i = some p → i = 1 := by
    intro i hi
    obtain ⟨-, -, -, hlo, hhi⟩ := Loop.heldAt_eq_some hi
    rcases (by omega : i = 0 ∨ i = 1) with rfl | rfl
    · rw [h₀] at hi
      cases hi
    · rfl
  rw [hone i hi, hone j hj]

/-- Two receives are pending: `registry_destroy` frees the payload of their context twice, and after
the first time the other slot still holds it. -/
theorem freed_twice_twoRecvs : ∃ s,
    Run step anyStep (init 2 (by decide) providedWorld Sample.initEnv) s ∧
    s.loop.registryDestroy.released (.payload (.context 0)) = 2 ∧
    (s.loop.destroySlots 1).released (.payload (.context 0)) = 1 ∧
    (s.loop.destroySlots 1).heldAt 1 = some (.context 0) ∧ ¬ s.loop.FreedOnce := by
  obtain ⟨s, hs, hf⟩ := Option.map_eq_some_iff.mp
    (show (exec step anyStep (init 2 (by decide) providedWorld Sample.initEnv) (pendingRecvs 2)).map
      (fun s => (s.loop.registryDestroy.released (.payload (.context 0)),
        (s.loop.destroySlots 1).released (.payload (.context 0)),
        (s.loop.destroySlots 1).heldAt 1, s.loop.registry.size)) =
        some (2, 1, some (.context 0), 2) by decide +kernel)
  simp only [Prod.mk.injEq] at hf
  obtain ⟨htwice, honce, hheld, hsize⟩ := hf
  refine ⟨s, .of_exec hs, htwice, honce, hheld, fun hfreed => ?_⟩
  have hzero := (hfreed 1 (by omega)).2 1 _ (by omega) hheld
  omega

/-- A socket is made and the eventfd is written, and neither completion is read. -/
def socketClose : List Label :=
  [.call Sample.context (.socket 2 1 .zero) Sample.callEnv, .post 2 9 0 [] [], .writeToSelf,
    .post 1 8 0 [⟨4096, 8⟩] (List.replicate 8 1)]

/-- The drain removes the request of the socket. -/
theorem drain_safe_socket : ∃ s, exec step anyStep (sample 1 (by decide)) socketClose = some s ∧
    s.loop.removals (drained s.atClose) = [0] ∧ DrainSafe s.loop (drained s.atClose) := by
  obtain ⟨s, hs, hf⟩ := Option.map_eq_some_iff.mp
    (show (exec step anyStep (sample 1 (by decide)) socketClose).map
      (fun s => (s.loop.removals (drained s.atClose), decide (s.loop.registry.Live 0))) = some
        ([0], true) by
        decide +kernel)
  obtain ⟨hremovals, hlive⟩ := Prod.mk.inj hf
  refine ⟨s, hs, hremovals, (drain_safe_iff 1 (by decide) Sample.world_sound Sample.initEnv
    (.of_exec hs) (drained s.atClose)).mpr ?_⟩
  rw [hremovals]
  exact ⟨List.nodup_singleton 0, fun i hi => List.mem_singleton.mp hi ▸ of_decide_eq_true hlive⟩

/-- A zero-copy send on a new socket, both of whose completions are in the queue. -/
def zeroCopyClose : List Label :=
  [.call Sample.context (.socket 2 1 .zero) Sample.callEnv, .post 2 9 0 [] [],
    .read Sample.readEnv,
    .call { Sample.context with transfer_mode := .ZERO_COPY }
      (.send (.made 0) ⟨2000, 5⟩ false .zero) Sample.callEnv,
    .post 2 5 IORING_CQE_F_MORE [] [], .post 2 0 IORING_CQE_F_NOTIF [] []]

/-- The drain removes the send with its first completion, and aborts with the notification. -/
theorem drain_aborts_zeroCopy : ∃ s,
    Run step anyStep (init 2 (by decide) Sample.world Sample.initEnv) s ∧
    s.cq.map Completion.cqe = [⟨1, 5, IORING_CQE_F_MORE⟩, ⟨1, 0, IORING_CQE_F_NOTIF⟩] ∧
    s.loop.drain (drained s.atClose) = .error .abort ∧ ¬ DrainSafe s.loop (drained s.atClose) := by
  obtain ⟨s, hs, hf⟩ := Option.map_eq_some_iff.mp
    (show (exec step anyStep (sample 2 (by decide)) zeroCopyClose).map
      (fun s => (s.cq.map Completion.cqe, (s.loop.drain (drained s.atClose)).map fun _ => ())) =
        some ([⟨1, 5, IORING_CQE_F_MORE⟩, ⟨1, 0, IORING_CQE_F_NOTIF⟩], .error .abort) by
          decide +kernel)
  obtain ⟨hcq, hdrain⟩ := Prod.mk.inj hf
  have habort : s.loop.drain (drained s.atClose) = .error .abort := eq_error_of_map hdrain
  refine ⟨s, .of_exec hs, hcq, habort, ?_⟩
  rintro ⟨-, L', hok, -⟩
  rw [habort] at hok
  cases hok

/-! ## The requests in progress -/

/-- The loop that `graceful_shutdown` is entered with: `pending` says whether an exception is
pending then. It is clear for `UringioLoop_close`; for `UringioLoop_dealloc` it is either. -/
def atShutdown (s : System) (pending : Bool) : Loop := { s.loop with err := pending }

/-- A completion of the request of call number `k` has arrived. -/
def Seen (s : System) (arrived : List (Completion × Bool)) (k : FutureRef) : Prop :=
  ∃ a ∈ arrived, s.owner a.1.pos = some k

/-- **When a shutdown is orderly**, whether or not an exception is pending when it is entered: when
the drain reaches every pending future of a slot in use before an exception is pending, and the
slots of the requests that were not seen keep what they point to. -/
theorem shutdown_orderly_iff (registry_size : ℕ) (h : registry_size < 2^31) {world : World}
    (hworld : world.ContextsSound) (env : InitEnv)
    (hrun : Run step anyStep (init registry_size h world env) s)
    (pending : Bool) {arrived : List (Completion × Bool)} {r : ℤ} {closed : Closed}
    (hclosed : gracefulShutdown (s.atShutdown pending) (drained arrived) r = .ok closed) :
    Orderly s.loop (s.Seen arrived) closed ↔
      (∀ i (k : ℕ), s.loop.Serves i k → s.loop.futures k = .pending →
        (s.atShutdown pending).Reaches (drained arrived) k) ∧
        ∀ i slot (k : ℕ), registryGet s.loop.registry i = some slot → slot.future = some k →
          ¬ s.Seen arrived k → s.loop.KeepsMemory (drained arrived) i slot := by
  obtain ⟨hs, ht⟩ := tidy_of_run hworld hrun
  have hs' : (s.atShutdown pending).Sound := hs.congr rfl rfl rfl rfl
  have ht' : (s.atShutdown pending).Tidy := ht.congr rfl rfl rfl
  -- Only the pending exception sets the two loops apart, and being orderly does not ask for it.
  have hsame : Orderly s.loop (s.Seen arrived) closed ↔
      Orderly (s.atShutdown pending) (s.Seen arrived) closed := Loop.orderly_congr rfl rfl rfl
  exact hsame.trans (Loop.orderly_iff hs' ht' hclosed _)

/-- The completion of the socket arrives, and its future gets the exception. -/
theorem shutdown_orderly_socket : ∃ s closed,
    exec step anyStep (sample 1 (by decide)) socketClose = some s ∧
    gracefulShutdown (s.atShutdown false) (drained s.atClose) 1 = .ok closed ∧ closed.torn = true ∧
    Orderly s.loop (s.Seen s.atClose) closed := by
  obtain ⟨s, hs, hf⟩ := Option.map_eq_some_iff.mp
    (show (exec step anyStep (sample 1 (by decide)) socketClose).map
      (fun s => (gracefulShutdown (s.atShutdown false) (drained s.atClose) 1).toOption.map
        Closed.torn) = some (some true) by decide +kernel)
  obtain ⟨closed, hclosed, htorn⟩ := toOption_map_eq_some.mp hf
  have hstate := Transition.exec_eval hs
    (f := fun s => (s.loop.registry.size, (s.atShutdown false).reached [] (drained s.atClose)))
    (b := (1, [(0, false)])) (by decide +kernel)
  have hslot := Transition.exec_eval hs
    (f := fun s => (registryGet s.loop.registry 0).map fun slot =>
      (slot.future, slot.msghdr, slot.buffer_payload))
    (b := some (some 0, none, none)) (by decide +kernel)
  simp only [Prod.mk.injEq, Option.map_eq_some_iff] at hstate hslot
  obtain ⟨hsize, hreached⟩ := hstate
  obtain ⟨slot, hget, hfut, hmsghdr, hpayload⟩ := hslot
  -- There is one slot.
  have hzero : ∀ i s', registryGet s.loop.registry i = some s' → i = 0 := by
    intro i s' hs'
    have hr := RequestRegistry.inRange_iff.mp (RequestRegistry.registryGet_isSome.mp
      (Option.isSome_iff_exists.mpr ⟨s', hs'⟩))
    omega
  refine ⟨s, closed, hs, hclosed, htorn, (shutdown_orderly_iff 1 (by decide) Sample.world_sound
    Sample.initEnv (.of_exec hs) false hclosed).mpr
      ⟨fun i k hserves hk => ?_, fun i s' k hs' _ _ => ?_⟩⟩
  · obtain ⟨s', hs', hk'⟩ := hserves
    rw [hzero i s' hs', hget, Option.some.injEq] at hs'
    rw [← hs', hfut, Option.some.injEq] at hk'
    rw [← hk']
    exact ⟨rfl, [], false, [], hreached, fun f hf => by cases hf⟩
  · rw [hzero i s' hs', hget, Option.some.injEq] at hs'
    rw [← hs']
    refine ⟨fun _ => hmsghdr, fun p hp => ?_⟩
    rw [hpayload] at hp
    cases hp

/-- A receive in a buffer of its own waits for data on a new socket. -/
def recvClose : List Label :=
  [.call Sample.context (.socket 2 1 .zero) Sample.callEnv, .post 2 9 0 [] [],
    .read Sample.readEnv,
    .call Sample.context (.recv (.made 0) 1024 none false .zero) Sample.callEnv]

/-- A receive waits for data in its own buffer, and nothing arrives: its future stays pending, and
its payload is released before the ring is torn down. -/
theorem shutdown_not_orderly : ∃ s closed,
    Run step anyStep (init 2 (by decide) Sample.world Sample.initEnv) s ∧
    gracefulShutdown (s.atShutdown false) (drained []) 1 = .ok closed ∧ s.loop.Serves 1 1 ∧
    closed.loop.futures 1 = .pending ∧ closed.loop.released (.payload (.own 1)) = 1 ∧
    ¬ Orderly s.loop (s.Seen []) closed := by
  obtain ⟨s, hs, hf⟩ := Option.map_eq_some_iff.mp
    (show (exec step anyStep (init 2 (by decide) Sample.world Sample.initEnv) recvClose).map
      (fun s => (gracefulShutdown (s.atShutdown false) (drained []) 1).toOption.map fun closed =>
        (closed.loop.futures 1, closed.loop.released (.payload (.own 1)))) =
        some (some (.pending, 1)) by decide +kernel)
  obtain ⟨closed, hclosed, hlost⟩ := toOption_map_eq_some.mp hf
  obtain ⟨hpending, hreleased⟩ := Prod.mk.inj hlost
  have hstate := Transition.exec_eval hs
    (f := fun s => (s.loop.futures 1, (registryGet s.loop.registry 1).bind RequestSlot.future))
    (b := (.pending, some 1)) (by decide +kernel)
  obtain ⟨hbefore, hfut⟩ := Prod.mk.inj hstate
  obtain ⟨slot, hget, hfut⟩ := Option.bind_eq_some_iff.mp hfut
  have hserves : s.loop.Serves 1 1 := ⟨slot, hget, hfut⟩
  refine ⟨s, closed, .of_exec hs, hclosed, hserves, hpending, hreleased, fun horderly => ?_⟩
  have hdone := horderly.given 1 1 hserves hbefore
  rw [hpending] at hdone
  cases hdone

end System

end Uringio
