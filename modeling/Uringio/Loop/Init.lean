import Uringio.Loop.Sound

/-!
# A new loop

`UringioLoop_new` and `UringioLoop_init`: the queue and the registry are empty, the handler of
signals queues a poll of its pipe, and the read of the eventfd is queued and submitted. The initial
loop satisfies the invariant (`Loop.sound_init`).
-/

namespace Uringio

/-- `POLLIN`. -/
def POLLIN : ℕ := 1

/-- What the initialization meets outside the program. -/
structure InitEnv where
  /-- The `signal` module is imported, and its `set_wakeup_fd` succeeds. -/
  wakeupFdSet : Bool
  /-- The end of the signal pipe that is read. -/
  pipe_fd : ℤ
  /-- The address that `malloc` returns for the `SignalsData`; `0` when it fails. -/
  signals_data : ℕ
  /-- What `eventfd` returns. -/
  wakeup_fd : ℤ
  /-- The address of the loop's `wakeup_buf`. -/
  wakeup_buf : ℕ
  /-- The result of `io_uring_submit`. -/
  submitted : ℤ

/-- `set_signals_handler`: its return value and the queue after it. -/
def setSignalsHandler (ring : Ring) (env : InitEnv) : ℤ × Ring :=
  if ¬ env.wakeupFdSet then (0, ring)
  else
    match createSqe ring with
    | none => (0, ring)
    | some (sqe, ring) =>
      let ring := ring.modify sqe (.prepare (.poll_add env.pipe_fd POLLIN))
      if env.signals_data = 0 then (0, ring)
      else (1, ring.modify sqe (.setData64 env.signals_data))

/-- What is in memory before a loop is used: the payloads of the contexts that are going to be
entered, and whatever unused memory holds. -/
structure World where
  /-- The payloads of the contexts. -/
  payloads : PayloadRef → BufferPayload
  /-- What the memory of the files holds. -/
  files : FileRef → UringioFile
  /-- What the memory of the sockets holds. -/
  sockets : SocketRef → UringioSocket
  /-- What the memory holds. -/
  mem : ℕ → UInt8

/-- A loop after `UringioLoop_new` and `UringioLoop_init`, with the entries that the kernel
consumed. The handler of signals leaves an exception pending where it fails. -/
def Loop.init (registry_size : ℕ) (h : registry_size < 2^31) (world : World) (env : InitEnv) :
    Loop × List (ℕ × Sqe) :=
  let signals := setSignalsHandler ringInit env
  let wakeup := ringPrepWakeupRead signals.2 env.wakeup_fd env.wakeup_buf env.submitted
  ({ ring := wakeup.ring
     registry := registryNew registry_size h
     wakeup_fd := env.wakeup_fd
     wakeup_buf := env.wakeup_buf
     payloads := world.payloads
     released := fun _ => 0
     refs := fun _ => 0
     futures := fun _ => .pending
     files := world.files
     sockets := world.sockets
     mem := world.mem
     calls := 0
     accepted := fun _ => 0
     err := signals.1 = 0 }, wakeup.consumed)

/-- The payloads of the contexts are as `create_buffer_payload` and the entry into a context leave
them. -/
def World.ContextsSound (world : World) : Prop :=
  ∀ n, (world.payloads (.context n)).mode = .NORMAL_BUF →
    (world.payloads (.context n)).payload_type = .PAYLOAD_LINEAR_AND_IOVEC

/-- **A new loop satisfies the invariant.** -/
theorem Loop.sound_init {registry_size : ℕ} {h : registry_size < 2^31} {world : World}
    {env : InitEnv} (hworld : world.ContextsSound) : (init registry_size h world env).1.Sound where
  contexts := hworld
  consistent := registryNew_consistent registry_size h
  slots index slot k hget hfut :=
    absurd ⟨slot, hget, by rw [hfut]; rfl⟩ (registryNew_not_live registry_size h)
  injective i _ k hi _ :=
    absurd (live_iff_serves.mpr ⟨k, hi⟩) (registryNew_not_live registry_size h)
  fresh _ _ _ _ := rfl
  shared _ := rfl

/-! ## The queue of a new loop -/

/-- The handler of signals queues a poll of its pipe, if it gets that far. -/
theorem setSignalsHandler_adds (ring : Ring) (env : InitEnv) :
    ring.free ≤ (setSignalsHandler ring env).2.free + 1 ∧
    ∃ added, Adds ring [] (setSignalsHandler ring env).2 added ∧
      (env.wakeupFdSet = true → ring.free ≠ 0 →
        ∃ pos e, (pos, e) ∈ added ∧ e.prep = some (.poll_add env.pipe_fd POLLIN)) := by
  unfold setSignalsHandler createSqe
  split
  · next hno =>
    exact ⟨Nat.le_succ _, [], adds_nothing ring, fun h => absurd h hno⟩
  · cases hget : getSqe ring with
    | none =>
      exact ⟨Nat.le_succ _, [], adds_nothing ring, fun _ h => absurd (getSqe_eq_none.mp hget) h⟩
    | some p =>
      obtain ⟨sqe, ring'⟩ := p
      have hadds := adds_of_getSqe hget (.prepare (.poll_add env.pipe_fd POLLIN))
      obtain ⟨rfl, htail, hfree, hwin⟩ := getSqe_eq_some hget
      simp only
      split
      · refine ⟨?_, _, hadds, fun _ _ => ⟨_, _, List.mem_singleton.mpr rfl, rfl⟩⟩
        rw [RingBuffer.modify_free]
        omega
      · have hpoll := ring'.window_modify_at hwin (.prepare (.poll_add env.pipe_fd POLLIN))
        have htag := RingBuffer.window_modify_at _ hpoll (.setData64 env.signals_data)
        refine ⟨?_, _, ⟨htag, rfl, htail⟩, fun _ _ => ⟨_, _, List.mem_singleton.mpr rfl, rfl⟩⟩
        rw [RingBuffer.modify_free, RingBuffer.modify_free]
        omega

/-- The read of the eventfd is queued. -/
theorem ringPrepWakeupRead_adds (ring : Ring) (wakeup_fd : ℤ) (wakeup_buf : ℕ) (r : ℤ) :
    let sub := ringPrepWakeupRead ring wakeup_fd wakeup_buf r
    ∃ added, Adds ring sub.consumed sub.ring added ∧
      (ring.free ≠ 0 → ∃ pos e, (pos, e) ∈ added ∧
        e.prep = some (.read wakeup_fd wakeup_buf 8 0) ∧ e.user_data = WAKEUP_FD_TAG) := by
  unfold ringPrepWakeupRead
  cases hget : getSqe ring with
  | none => exact ⟨[], adds_nothing ring, fun h => absurd (getSqe_eq_none.mp hget) h⟩
  | some p =>
    obtain ⟨sqe, ring'⟩ := p
    have hadds := (adds_of_getSqe hget fun e =>
      (e.prepare (.read wakeup_fd wakeup_buf 8 0)).setData64 WAKEUP_FD_TAG).trans
      (adds_submit _ r)
    exact ⟨_, hadds, fun _ =>
      ⟨_, _, List.mem_append_left _ (List.mem_singleton.mpr rfl), rfl, rfl⟩⟩

/-- The queue of a new loop holds the read of the eventfd, and the poll of the signal pipe if its
handler was set. -/
theorem Loop.init_adds (registry_size : ℕ) (h : registry_size < 2^31) (world : World)
    (env : InitEnv) : ∃ added,
      Adds ringInit (init registry_size h world env).2 (init registry_size h world env).1.ring
        added ∧
      (∃ pos e, (pos, e) ∈ added ∧ e.prep = some (.read env.wakeup_fd env.wakeup_buf 8 0) ∧
        e.user_data = WAKEUP_FD_TAG) ∧
      (env.wakeupFdSet = true →
        ∃ pos e, (pos, e) ∈ added ∧ e.prep = some (.poll_add env.pipe_fd POLLIN)) := by
  have hring : ringInit.free = 256 := by decide +kernel
  obtain ⟨hleft, poll, hpoll, hpolled⟩ := setSignalsHandler_adds ringInit env
  obtain ⟨wakeup, hwakeup, hread⟩ := ringPrepWakeupRead_adds (setSignalsHandler ringInit env).2
    env.wakeup_fd env.wakeup_buf env.submitted
  have hfree : (setSignalsHandler ringInit env).2.free ≠ 0 := by omega
  refine ⟨poll ++ wakeup, hpoll.trans hwakeup, ?_, fun hset => ?_⟩
  · obtain ⟨pos, e, hmem, he⟩ := hread hfree
    exact ⟨pos, e, List.mem_append_right _ hmem, he⟩
  · obtain ⟨pos, e, hmem, he⟩ := hpolled hset (by omega)
    exact ⟨pos, e, List.mem_append_left _ hmem, he⟩

/-- An initialization that leaves no exception pending has set its handler of signals. -/
theorem Loop.wakeupFdSet_of_init {registry_size : ℕ} {h : registry_size < 2^31} {world : World}
    {env : InitEnv} (hsuccess : (init registry_size h world env).1.err = false) :
    env.wakeupFdSet = true := by
  by_contra hno
  have hzero : (setSignalsHandler ringInit env).1 = 0 := by
    unfold setSignalsHandler
    rw [if_pos hno]
  have herr : decide ((setSignalsHandler ringInit env).1 = 0) = false := hsuccess
  rw [hzero] at herr
  cases herr

/-! ## The surroundings of the concrete runs -/

namespace Sample

/-- Memory of zeros, and no context that serves an operation. -/
def world : World where
  payloads _ := { BufferPayload.zero with payload_type := .PAYLOAD_LINEAR_AND_IOVEC }
  files _ := ⟨0, false⟩
  sockets _ := ⟨0, 0, none, false⟩
  mem _ := 0

/-- An initialization in which everything succeeds. -/
def initEnv : InitEnv where
  wakeupFdSet := true
  pipe_fd := 5
  signals_data := 94000000000000
  wakeup_fd := 7
  wakeup_buf := 4096
  submitted := 2

/-- A call whose allocations succeed and whose queue the kernel takes. -/
def callEnv : CallEnv where
  alloc i := 10000 + 1000 * i
  addr := 8000
  addrlen := 8100
  raw := .zero
  submitted := 2

/-- A completion whose allocations succeed. -/
def readEnv : ReadEnv where
  gcNew := true
  recvmsgOut _ := none
  submitted := 2

/-- The context of a thread that has entered none. -/
def context : ExecutionContext := ⟨.ONESHOT, .NORMAL_TRANSFER, none⟩

/-- The contexts of the sample world are sound. -/
theorem world_sound : world.ContextsSound := fun _ _ => rfl

end Sample

end Uringio
