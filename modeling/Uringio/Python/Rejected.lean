import Uringio.Loop.Init
import Uringio.Loop.Rejection
import Uringio.Python.EntryPoints

/-!
# What a rejected call leaves

An entry point that returns the null pointer has given up its references to the future and to the
object that it created: at every exit its lines give up what the stages before took
(`entry_returns`), but for the one of `accept` that runs out of memory. What it gave to the registry
the removal of the request takes out again (`call_restores`). So the registry and all reference
counts are what they were (`undisturbed_of_rejected`).
-/

namespace Uringio

open Unwind

variable {L : Loop} {env : PyEnv} {op : PyOp} {r : PyCalled} {x : Res}

/-! ## The exits -/

/-- Every exit of the entry point gives `x` up as often as it was taken before. -/
structure EntryPoint.Returns (e : EntryPoint) (x : Res) : Prop where
  /-- What a failing stage gives up is what was taken before it. -/
  unwinds : Unwinds x e.stages 0
  /-- A full registry gives up all that was taken. -/
  full : e.full.count x = (e.stages.flatMap Stage.takes).count x
  /-- So does a dispatcher that fails. -/
  failed : (e.after ++ e.failed).count x = (e.stages.flatMap Stage.takes).count x

open EntryPoint in
/-- **Every exit gives up the references to the future and to a new object.** -/
theorem entry_returns (hmem : env.allocates .addrlen = true) (req : PyRequest)
    (hx : x = .future ∨ x = .object) : (req.entry L env).Returns x := by
  have hp : x ≠ .payload := by rcases hx with rfl | rfl <;> decide
  have hlinear : ∀ b n u, (getOrCreateLinear L env b n u).takes.count x = 0 :=
    getOrCreateLinear_count hp
  have hvectored : ∀ b u, (getOrCreateVectored L env b u).takes.count x = 0 :=
    getOrCreateVectored_count hp
  have hreadv : ∀ b, (readvPayload L env b).takes.count x = 0 := readvPayload_count hp
  rcases hx with rfl | rfl <;> cases req with
  | «open» path dfd flags resolve mode tp =>
    refine ⟨?_, ?_, ?_⟩ <;> simp [PyRequest.entry, uringioOpen, Unwinds]
  | socket domain socktype tp =>
    refine ⟨?_, ?_, ?_⟩ <;> simp [PyRequest.entry, uringioPrepSocket, Unwinds]
  | aexitFile f had_exception =>
    refine ⟨?_, ?_, ?_⟩ <;> simp [PyRequest.entry, uringioFileAexit, Unwinds]
  | aexitSocket s had_exception =>
    refine ⟨?_, ?_, ?_⟩ <;> simp [PyRequest.entry, uringioSocketAexit, Unwinds]
  | closeFile f tp | fsync f tp | fdatasync f tp
  | splice f src dst count offset_src offset_dst flag tp =>
    refine ⟨?_, ?_, ?_⟩ <;>
      simp [PyRequest.entry, uringioFileClose, uringioFileFsync, uringioFileFdatasync,
        uringioFileSplice, ofFile, onFile, Unwinds]
  | read f offset size tp =>
    refine ⟨?_, ?_, ?_⟩ <;> simp [PyRequest.entry, uringioFileRead, ofFile, onFile, Unwinds,
      hlinear]
  | readv f buffers offset nowait tp =>
    refine ⟨?_, ?_, ?_⟩ <;> simp [PyRequest.entry, uringioFileReadv, ofFile, onFile,
      Unwinds, hreadv]
  | readvRaw f iovecs offset nowait tp | writevRaw f iovecs flags offset tp =>
    refine ⟨?_, ?_, ?_⟩ <;>
      simp [PyRequest.entry, uringioFileReadvRaw, uringioFileWritevRaw, ofFile, onFile, Unwinds]
  | write f data offset tp =>
    refine ⟨?_, ?_, ?_⟩ <;> simp [PyRequest.entry, uringioFileWrite, ofFile, onFile, Unwinds]
  | writev f buffers flags offset tp =>
    refine ⟨?_, ?_, ?_⟩ <;>
      simp [PyRequest.entry, uringioFileWritev, ofFile, onFile, Unwinds, hvectored]
  | timer params =>
    refine ⟨?_, ?_, ?_⟩ <;> simp [PyRequest.entry, uringioLoopTimer, ofFile, Unwinds]
  | bind s port tp | connect s port tp =>
    refine ⟨?_, ?_, ?_⟩ <;>
      simp [PyRequest.entry, uringioSocketBind, uringioSocketConnect, onAddress, onSocket, Unwinds]
  | listen s backlog tp | closeSocket s tp =>
    refine ⟨?_, ?_, ?_⟩ <;>
      simp [PyRequest.entry, uringioSocketListen, uringioSocketClose, ofSocket, onSocket, Unwinds]
  | accept s tp =>
    -- The stage that would leave the future behind does not fail.
    have hnever : (allocate (env.allocates .addrlen) .addrlen []).Infallible := by
      intro pending pending'
      simp [allocate, hmem]
    refine ⟨?_, ?_, ?_⟩ <;> simp [PyRequest.entry, uringioSocketAccept, onSocket, Unwinds, hnever]
  | send s data is_poll_first tp =>
    refine ⟨?_, ?_, ?_⟩ <;> simp [PyRequest.entry, uringioSocketSend, ofSocket, onSocket, Unwinds]
  | recv s bufsize buffer is_poll_first tp =>
    refine ⟨?_, ?_, ?_⟩ <;>
      simp [PyRequest.entry, uringioSocketRecv, ofSocket, onSocket, Unwinds, hlinear]
  | sendto s data port domain is_poll_first tp =>
    refine ⟨?_, ?_, ?_⟩ <;> simp [PyRequest.entry, uringioSocketSendto, onSocket, Unwinds]
  | recvfrom s bufsize buffer host port domain is_poll_first tp =>
    refine ⟨?_, ?_, ?_⟩ <;>
      simp [PyRequest.entry, uringioSocketRecvfrom, ofSocket, onSocket, Unwinds, hlinear]
  | sendmsg s buffers host port domain is_poll_first tp =>
    refine ⟨?_, ?_, ?_⟩ <;> cases host <;>
      simp [PyRequest.entry, uringioSocketSendmsg, onSocket, Unwinds, hvectored]
  | recvmsg s buffers is_poll_first tp =>
    refine ⟨?_, ?_, ?_⟩ <;>
      simp [PyRequest.entry, uringioSocketRecvmsg, ofSocket, onSocket, Unwinds, hvectored]

/-- An entry point that returns the null pointer has given up what its exits give up. -/
theorem given_of_rejected {e : EntryPoint} (he : e.Returns x) (hrun : e.Ran L env r)
    (hnull : r.called.future = none) : r.given.count x = r.taken.count x := by
  cases hrun with
  | left hwalk _ => exact walk_balanced he.unwinds hwalk
  | accepted _ _ hfuture _ =>
    rw [hnull] at hfuture
    cases hfuture
  | full pending hwalk _ _ _ _ hgiven =>
    rw [hgiven, he.full, taken_of_through hwalk, List.nil_append]
  | failed pending hwalk _ _ _ _ hgiven =>
    rw [hgiven, he.failed, taken_of_through hwalk, List.nil_append]

/-- A rejected call gives back what the registry took. -/
theorem restores_of_rejected {e : EntryPoint} (hrun : e.Ran L env r)
    (hnull : r.called.future = none) : L.Restores r.called.loop := by
  cases hrun with
  | left _ hcalled =>
    rw [hcalled]
    exact Loop.SameCounts.restores ⟨rfl, rfl⟩
  | accepted _ _ hfuture _ =>
    rw [hnull] at hfuture
    cases hfuture
  | full _ _ hcall | failed _ _ hcall => exact Loop.call_restores hcall hnull

/-! ## The law -/

/-- The references to `o` that a call has left behind: its own to `x` that it did not give up, and
those of the registry. -/
def PyCalled.remaining (r : PyCalled) (L : Loop) (x : Res) (o : ObjRef) : ℤ :=
  (r.taken.count x : ℤ) - r.given.count x + (r.called.loop.refs o - L.refs o)

/-- The call left the registry and the references as they were. -/
structure Undisturbed (L : Loop) (r : PyCalled) : Prop where
  /-- `available_indices[0..top]`. -/
  available :
    r.called.loop.registry.available_indices.entries = L.registry.available_indices.entries
  /-- A slot in use, whose index is not available. -/
  slots : ∀ i, i ∉ L.registry.available_indices.entries →
    registryGet r.called.loop.registry i = registryGet L.registry i
  /-- The count of any object, such as the one that the call was made on. -/
  refs : ∀ o, r.called.loop.refs o = L.refs o
  /-- The future that the call created. -/
  future : r.remaining L .future (.future L.calls) = 0
  /-- The file that `open_file` created. -/
  file : r.remaining L .object (.file L.calls) = 0
  /-- The socket that `prep_socket` created. -/
  socket : r.remaining L .object (.socket (.made L.calls)) = 0

/-- In a consistent registry the slots in use are the live ones. -/
theorem Undisturbed.live (h : Undisturbed L r) (hreg : L.registry.Consistent) {i : ℤ}
    (hlive : L.registry.Live i) :
    registryGet r.called.loop.registry i = registryGet L.registry i :=
  h.slots i fun hmem => ((hreg.mem_iff i).mp hmem).2 hlive

/-- Nothing is left when the registry is as it was and the references were given up. -/
theorem undisturbed_of_same (hrest : L.Restores r.called.loop)
    (hgiven : ∀ x, x = .future ∨ x = .object → r.given.count x = r.taken.count x) :
    Undisturbed L r := by
  have hremaining : ∀ {x : Res} (o : ObjRef), (x = .future ∨ x = .object) →
      r.remaining L x o = 0 := by
    intro x o hx
    rw [PyCalled.remaining, hgiven x hx, hrest.refs]
    omega
  exact
    { available := hrest.available
      slots := hrest.slots
      refs := fun o => congrFun hrest.refs o
      future := hremaining _ (.inl rfl)
      file := hremaining _ (.inr rfl)
      socket := hremaining _ (.inr rfl) }

/-- An `__aenter__` that fails has done nothing. -/
theorem aenter_rejected {self : Outcome} (hnull : (aenter L env self).called.future = none) :
    aenter L env self = ⟨L.refused, some .raised, [], []⟩ := by
  unfold aenter at hnull ⊢
  split at hnull
  · next hfuture => rw [if_pos hfuture]
  · split at hnull <;> cases hnull

/-- **A rejected call leaves the registry and the references as they were**, unless `accept` finds
no memory for the length of an address. -/
theorem undisturbed_of_rejected (hmem : env.allocates .addrlen = true)
    (hrun : op.run L env = .ok r) (hnull : r.called.future = none) : Undisturbed L r := by
  cases op with
  | request req =>
    have hran : (req.entry L env).Ran L env r := EntryPoint.ran hrun
    exact undisturbed_of_same (restores_of_rejected hran hnull) fun x hx =>
      given_of_rejected (entry_returns hmem req hx) hran hnull
  | aenterFile f | aenterSocket s =>
    cases hrun
    rw [aenter_rejected hnull]
    exact undisturbed_of_same (Loop.SameCounts.restores ⟨rfl, rfl⟩) fun _ _ => rfl

/-- A world in which all goes well, but for what the kernel makes of the queue. -/
def Sample.pyEnv (submitted : ℤ) : PyEnv where
  call := { Sample.callEnv with submitted := submitted }
  runningLoop := .uring
  thread := true
  closed := some false
  str := "<Loop>"
  parses := true
  context := some Sample.context
  future := true
  setResult := true
  allocates _ := true
  inet_pton _ := true
  groups := true

/-- A new loop. -/
def Sample.loop : Loop := (Loop.init 8 CInt.eight_lt Sample.world Sample.initEnv).1

/-- An `open_file` whose submission fails has used the slot in between. -/
theorem undisturbed_open : ∃ r,
    (PyOp.request (.open (.path "f") (-100) 0 0 420 .absent)).run
      (Loop.init 1 (by decide) Sample.world Sample.initEnv).1 (Sample.pyEnv (-9)) = .ok r ∧
    r.called.future = none ∧ r.called.request_idx = 0 ∧
    Undisturbed (Loop.init 1 (by decide) Sample.world Sample.initEnv).1 r := by
  obtain ⟨r, hr, hf⟩ := toOption_map_eq_some.mp
    (show ((PyOp.request (.open (.path "f") (-100) 0 0 420 .absent)).run
      (Loop.init 1 (by decide) Sample.world Sample.initEnv).1 (Sample.pyEnv (-9))).toOption.map
      (fun r => (r.called.future, r.called.request_idx)) = some (none, 0) by decide +kernel)
  exact ⟨r, hr, congrArg Prod.fst hf, congrArg Prod.snd hf,
    undisturbed_of_rejected rfl hr (congrArg Prod.fst hf)⟩

end Uringio
