import Uringio.Context.Registering
import Uringio.Context.Scoping

/-!
# Kernel registrations follow the context

In a well-nested program each enter reports success exactly when it registered its buffers, a failed
enter changes no registration, and an exit gives back the registrations before the matching enter,
if no step does one of the things of which the program does not take notice. These are the
conditions of `Registrable`: on entering, `Accepts`; on leaving, `Releases` for a `BufferModeCtx`,
and for an `ExecutionContextCtx`, whose exit takes nothing back, that it registered nothing.

The invariant is again one of layers. Beside the registrations it keeps, for every manager whose
buffers are registered, its token and its ring: a manager that is entered within does not have
them, since its place in the registrations was free.
-/

namespace Uringio

open Bracket (Session Command Nested Opened)
open Transition (Run)

/-- A manager of buffers. -/
def Manager.buffers : Manager → Bool
  | .bufferModeCtx _ | .executionContextCtx _ _ => true
  | _ => false

/-- The enter gets to its switch over the mode. -/
def Manager.reaches (env : ManagerEnv) : Manager → Bool
  | .bufferModeCtx _ => env.cloned && env.capsule
  | .executionContextCtx _ _ => env.capsule
  | _ => false

/-- The block of the manager's context is not that of a context that was left before. -/
def Manager.reenters : Manager → Bool
  | .executionContextCtx _ _ => false
  | _ => true

namespace ContextState

/-- What the switches of the manager `o` work on. -/
def setup (s : ContextState) (o : ℕ) : BufferSetup := ⟨s.payloads o, s.ring, s.registrations⟩

/-- The manager `o` has buffers to register. -/
def Wants (s : ContextState) (o : ℕ) : Prop :=
  (s.managers o).buffers = true ∧ (s.payloads o).mode ≠ .NORMAL_BUF

instance (s : ContextState) (o : ℕ) : Decidable (s.Wants o) :=
  inferInstanceAs (Decidable (_ ∧ _))

/-- The kernel's rules for the registrations that an enter asks for. -/
def LawfulStep (s : Session ContextState ℕ) : Command ℕ ManagerEnv → Prop
  | .enter o env => Lawful (s.state.setup o) env
  | .exit _ _ => True

instance (s : Session ContextState ℕ) : ∀ c, Decidable (LawfulStep s c)
  | .enter _ _ => inferInstanceAs (Decidable (Lawful _ _))
  | .exit _ _ => inferInstanceAs (Decidable True)

/-- What the program does not look at succeeds: on entering, the switch and what comes after it, for
a manager that was not used up by an enter before; on leaving, the switch, which an
`ExecutionContextCtx` does not have. -/
def Registrable (s : Session ContextState ℕ) : Command ℕ ManagerEnv → Prop
  | .enter o env => (s.state.managers o).reaches env = true →
      ((s.state.managers o).reenters = true ∨ o ∉ s.tried) ∧ (s.state.payloads o).Ready ∧
        Accepts (s.state.setup o) env
  | .exit o env =>
    match s.state.managers o with
    | .bufferModeCtx _ => Releases (s.state.setup o) env
    | .executionContextCtx _ _ => (s.state.payloads o).mode = .NORMAL_BUF
    | _ => True

instance (s : Session ContextState ℕ) : ∀ c, Decidable (Registrable s c)
  | .enter _ _ => inferInstanceAs (Decidable (_ → _))
  | .exit o env =>
    match h : s.state.managers o with
    | .bufferModeCtx _ => decidable_of_iff (Releases (s.state.setup o) env)
      (by simp [Registrable, h])
    | .executionContextCtx _ _ =>
      decidable_of_iff ((s.state.payloads o).mode = .NORMAL_BUF) (by simp [Registrable, h])
    | .streamStrategyCtx _ => decidable_of_iff True (by simp [Registrable, h])
    | .transferModeCtx _ => decidable_of_iff True (by simp [Registrable, h])

/-- The registrations follow the context over one step: an enter reports success exactly when its
buffers are registered, and changes nothing else; an exit leaves the registrations as they were
before the matching enter. -/
def Follows (s s' : Session ContextState ℕ) : Command ℕ ManagerEnv → Prop
  | .enter o env => ∀ ok, protocol.enter s.state o env = some (ok, s'.state) →
      (s.state.Wants o → (ok = true ↔ Registers env s.state.registrations (s.state.payloads o)
        s'.state.registrations)) ∧
      (¬ s.state.Wants o ∨ ok = false → s'.state.registrations = s.state.registrations)
  | .exit _ _ => ∀ f ∈ s.entered.head?, s'.state.registrations = f.before.registrations

variable {s t : ContextState} {o pointer : ℕ} {env : ManagerEnv} {ok : Bool}
  {init : ContextState → Option (Bool × ContextState)}

/-! ## The calls, apart from the variable -/

/-- What an enter does apart from the variable, with `u` for what its switch leaves. -/
structure Switches (s u : ContextState) (o : ℕ) (ok : Bool) (t : ContextState) : Prop where
  /-- What is registered is as the switch left it. -/
  registrations : t.registrations = u.registrations
  /-- The payloads are as the switch left them. -/
  payloads : t.payloads = u.payloads
  /-- The managers are the same. -/
  managers : t.managers = s.managers
  /-- The tokens of the other managers are as before. -/
  tokens : ∀ m, m ≠ o → t.tokens m = s.tokens m
  /-- An enter that succeeds leaves a token. -/
  token : ok = true → ∃ old, t.tokens o = some ⟨old, false⟩
  /-- One that fails leaves the token as it was. -/
  failed : ok = false → t.tokens o = s.tokens o

/-- Entering a capsule is the push of its block, then the registration. -/
theorem enterCapsule_switches
    (hinit : ∀ var ok u, init { s with var := var } = some (ok, u) →
      u.managers = s.managers ∧ u.tokens = s.tokens)
    (h : s.enterCapsule o pointer init = some (ok, t)) :
    ∃ var u, init { s with var := var } = some (ok, u) ∧ Switches s u o ok t := by
  obtain ⟨w, hw, -⟩ := s.var.push_spec pointer
  simp only [enterCapsule, hw, Option.bind_eq_bind, Option.bind_some] at h
  obtain ⟨⟨ok', u⟩, hu, h⟩ := Option.bind_eq_some_iff.mp h
  obtain ⟨hmanagers, htokens⟩ := hinit w ok' u hu
  split at h
  · next hok =>
    cases h
    refine ⟨w, u, hok ▸ hu, rfl, rfl, hmanagers, fun m hm => ?_, fun _ => ⟨s.var.value, ?_⟩,
      fun h => absurd h (by decide)⟩
    · rw [← htokens]
      exact Function.update_of_ne hm ..
    · exact Function.update_self ..
  · next hok =>
    obtain ⟨⟨result, v⟩, -, h⟩ := Option.bind_eq_some_iff.mp h
    cases h
    have hfalse : ok' = false := by simpa using hok
    subst hfalse
    exact ⟨w, u, hu, rfl, rfl, hmanagers, fun m _ => congrFun htokens m,
      fun h => absurd h (by decide), fun _ => congrFun htokens o⟩

/-- An enter that gave up before its switch. -/
theorem switches_refl (s : ContextState) (o : ℕ) (var : ContextVar) :
    Switches s s o false { s with var := var } :=
  ⟨rfl, rfl, rfl, fun _ _ => rfl, fun h => absurd h (by decide), fun _ => rfl⟩

/-- Entering a clone is the push of the changed copy, then the registration. -/
theorem enterClone_switches {change : ContextBlock → ContextBlock} {freed : Bool}
    (hinit : ∀ var ok u, init { s with var := var } = some (ok, u) →
      u.managers = s.managers ∧ u.tokens = s.tokens)
    (h : s.enterClone o env change freed init = some (ok, t)) :
    (ok = false ∧ Switches s s o ok t) ∨ (env.cloned = true ∧ env.capsule = true ∧
      ∃ var u, init { s with var := var } = some (ok, u) ∧ Switches s u o ok t) := by
  obtain ⟨current, -, h⟩ := Option.bind_eq_some_iff.mp h
  split at h
  · cases h
    exact .inl ⟨rfl, switches_refl s o s.var⟩
  · next hcloned =>
    split at h
    · cases h
      cases freed
      · exact .inl ⟨rfl, switches_refl s o _⟩
      · exact .inl ⟨rfl, switches_refl s o s.var⟩
    · next hcapsule =>
      obtain ⟨var, u, hu, hswitches⟩ := enterCapsule_switches
        (s := { s with var := s.var.malloc (change current) }) hinit h
      exact .inr ⟨by simpa using hcloned, by simpa using hcapsule, var, u, hu,
        hswitches.registrations, hswitches.payloads, hswitches.managers, hswitches.tokens,
        hswitches.token, hswitches.failed⟩

/-- **What an enter does**, apart from the variable: nothing, or what its switch over the mode
does. -/
theorem enter_switches (h : protocol.enter s o env = some (ok, t)) :
    (((s.managers o).buffers = true → ok = false) ∧ Switches s s o ok t) ∨
      ((s.managers o).buffers = true ∧ (s.managers o).reaches env = true ∧ ∃ b,
        Uringio.initBuffers (s.setup o) env = some (ok, b) ∧
        Switches s { s with
          payloads := Function.update s.payloads o b.payload
          registrations := b.registrations } o ok t) := by
  have hswitch : ∀ var ok u, { s with var := var }.initBuffers o env = some (ok, u) →
      u.managers = s.managers ∧ u.tokens = s.tokens := by
    intro var ok u hu
    obtain ⟨r, -, heq⟩ := Option.map_eq_some_iff.mp hu
    cases heq
    exact ⟨rfl, rfl⟩
  have hnone : ∀ (var : ContextVar) (ok : Bool) u,
      some (true, { s with var := var }) = some (ok, u) →
      u.managers = s.managers ∧ u.tokens = s.tokens := by
    intro var ok u hu
    cases hu
    exact ⟨rfl, rfl⟩
  have hlate : ∀ {var u}, { s with var := var }.initBuffers o env = some (ok, u) →
      Switches s u o ok t → ∃ b, Uringio.initBuffers (s.setup o) env = some (ok, b) ∧
        Switches s { s with
          payloads := Function.update s.payloads o b.payload
          registrations := b.registrations } o ok t := by
    intro var u hu hswitches
    obtain ⟨⟨ok', b⟩, hb, heq⟩ := Option.map_eq_some_iff.mp hu
    cases heq
    exact ⟨b, hb, hswitches.registrations, hswitches.payloads, hswitches.managers,
      hswitches.tokens, hswitches.token, hswitches.failed⟩
  simp only [protocol] at h
  split at h <;> rename_i hkind <;> simp only [hkind, Manager.buffers, Manager.reaches]
  · rcases enterClone_switches hswitch h with ⟨hok, hs⟩ | ⟨hcloned, hcapsule, var, u, hu, hs⟩
    · exact .inl ⟨fun _ => hok, hs⟩
    · exact .inr ⟨trivial, by simp [hcloned, hcapsule], hlate hu hs⟩
  · refine .inl ⟨fun h => absurd h (by decide), ?_⟩
    rcases enterClone_switches hnone h with ⟨-, hs⟩ | ⟨-, -, var, u, hu, hs⟩
    · exact hs
    · cases hu
      exact ⟨hs.registrations, hs.payloads, hs.managers, hs.tokens, hs.token, hs.failed⟩
  · refine .inl ⟨fun h => absurd h (by decide), ?_⟩
    rcases enterClone_switches hnone h with ⟨-, hs⟩ | ⟨-, -, var, u, hu, hs⟩
    · exact hs
    · cases hu
      exact ⟨hs.registrations, hs.payloads, hs.managers, hs.tokens, hs.token, hs.failed⟩
  · unfold executionContextCtxEnter at h
    split at h
    · cases h
      exact .inl ⟨fun _ => rfl, switches_refl s o s.var⟩
    · next hcapsule =>
      obtain ⟨var, u, hu, hs⟩ := enterCapsule_switches hswitch h
      exact .inr ⟨trivial, by simpa using hcapsule, hlate hu hs⟩

/-- What an exit does apart from the variable, with `u` for what its switch leaves. -/
structure Closes (s u : ContextState) (o : ℕ) (t : ContextState) : Prop where
  /-- What is registered is as the switch left it. -/
  registrations : t.registrations = u.registrations
  /-- The payloads are as the switch left them. -/
  payloads : t.payloads = u.payloads
  /-- The managers are the same. -/
  managers : t.managers = s.managers
  /-- The tokens of the other managers are as before. -/
  tokens : ∀ m, m ≠ o → t.tokens m = s.tokens m

/-- The reset succeeds with a token that was not used. -/
theorem resetToken_spec {result : ℤ} (h : s.resetToken o = some (result, t)) :
    Closes s s o t ∧ t.ring = s.ring ∧
      ∀ old, s.tokens o = some ⟨old, false⟩ → result = 0 := by
  obtain ⟨⟨result', v⟩, hpop, heq⟩ := Option.map_eq_some_iff.mp h
  cases heq
  refine ⟨⟨rfl, rfl, rfl, fun m hm => Function.update_of_ne hm ..⟩, rfl, fun old htoken => ?_⟩
  rw [htoken] at hpop
  simp only [ContextVar.pop, ContextVar.reset, Option.bind_eq_bind, Option.bind_eq_some_iff,
    Option.some.injEq, Prod.mk.injEq] at hpop
  obtain ⟨r, ⟨w, -, w', -, rfl⟩, w'', -, hresult, -⟩ := hpop
  exact hresult.symm

/-- **What an exit does**, apart from the variable: nothing, or what its switch over the mode does;
the latter for a `BufferModeCtx` whose token was not used. -/
theorem exit_closes (h : protocol.exit s o env = some t) :
    (Closes s s o t ∧ ∀ payload old, s.managers o = .bufferModeCtx payload →
      s.tokens o ≠ some ⟨old, false⟩) ∨
      ((∃ payload, s.managers o = .bufferModeCtx payload) ∧ ∃ b,
        Uringio.closeBuffers (s.setup o) env = some b ∧
        Closes s { s with
          payloads := Function.update s.payloads o b.payload
          registrations := b.registrations } o t) := by
  have hother : ∀ {m}, s.managers o = m → (∀ payload, m ≠ .bufferModeCtx payload) →
      (s.resetToken o).map Prod.snd = some t → Closes s s o t ∧ ∀ payload old,
        s.managers o = .bufferModeCtx payload → s.tokens o ≠ some ⟨old, false⟩ := by
    rintro m rfl hm ht
    obtain ⟨⟨result, u⟩, hu, rfl⟩ := Option.map_eq_some_iff.mp ht
    exact ⟨(resetToken_spec hu).1, fun payload _ hkind => absurd hkind (hm payload)⟩
  simp only [protocol] at h
  split at h
  · next payload hkind =>
    obtain ⟨⟨result, u⟩, hu, h⟩ := Option.bind_eq_some_iff.mp h
    obtain ⟨hcloses, hring, hresult⟩ := resetToken_spec hu
    dsimp only at h
    split at h
    · next hraised =>
      cases h
      exact .inl ⟨hcloses, fun _ old _ htoken => by have := hresult old htoken; omega⟩
    · obtain ⟨b, hb, rfl⟩ := Option.map_eq_some_iff.mp h
      have hsetup : u.setup o = s.setup o := by
        simp only [setup, hcloses.payloads, hring, hcloses.registrations]
      refine .inr ⟨⟨payload, hkind⟩, b, ?_, rfl, ?_, hcloses.managers, hcloses.tokens⟩
      · rw [← hsetup]
        exact hb
      · simp only [hcloses.payloads]
  · next hkind => exact .inl (hother hkind (by simp) h)
  · next hkind => exact .inl (hother hkind (by simp) h)
  · next hkind => exact .inl (hother hkind (by simp) h)

/-! ## The layers -/

/-- The buffers of the manager `o` are registered, by whomever. -/
def Uses (s : ContextState) (o : ℕ) : Prop :=
  s.Wants o ∧ Taken s.registrations (s.payloads o)

/-- The innermost manager `o` was entered in the state `b`: its buffers are registered on top of
what was registered then, and what the exits of the managers around it need is there. -/
structure Holds (b : ContextState) (o : ℕ) (t : ContextState) : Prop where
  /-- The managers are the same. -/
  managers : t.managers = b.managers
  /-- All payloads have the same buffers. -/
  payloads : ∀ m, SamePayload (b.payloads m) (t.payloads m)
  /-- What the manager wants is registered. -/
  registered : b.Wants o →
    ∃ env, Registers env b.registrations (b.payloads o) t.registrations
  /-- A manager that wants nothing changes nothing. -/
  unchanged : ¬ b.Wants o → t.registrations = b.registrations
  /-- The manager that wants it has a token. -/
  token : b.Wants o → ∃ old, t.tokens o = some ⟨old, false⟩
  /-- A ring of buffers that was registered is remembered. -/
  buf_ring : b.Wants o → (b.payloads o).mode = .BUF_RING → (t.payloads o).buf_ring = true
  /-- The managers that use something keep their tokens and their rings of buffers. -/
  kept : ∀ m, b.Uses m →
    t.tokens m = b.tokens m ∧ (t.payloads m).buf_ring = (b.payloads m).buf_ring

/-- The registrations are the same, and what the managers in them need. -/
structure SameRegistrations (s t : ContextState) : Prop where
  /-- The managers are the same. -/
  managers : t.managers = s.managers
  /-- All payloads have the same buffers. -/
  payloads : ∀ m, SamePayload (s.payloads m) (t.payloads m)
  /-- Nothing was registered or unregistered. -/
  registrations : t.registrations = s.registrations
  /-- The managers that use something keep their tokens and their rings of buffers. -/
  kept : ∀ m, s.Uses m →
    t.tokens m = s.tokens m ∧ (t.payloads m).buf_ring = (s.payloads m).buf_ring

variable {b : ContextState}

/-- Having buffers to register is a matter of what a manager was created with. -/
theorem Wants.of_same {m : ℕ} (hmanagers : t.managers = s.managers)
    (hpayload : SamePayload (s.payloads m) (t.payloads m)) (h : s.Wants m) : t.Wants m := by
  unfold Wants at h ⊢
  rw [hmanagers, hpayload.mode]
  exact h

/-- The innermost manager uses its registration. -/
theorem Holds.uses (h : Holds b o s) (hwants : b.Wants o) : ¬ b.Uses o ∧ s.Uses o := by
  obtain ⟨env, hregisters⟩ := h.registered hwants
  obtain ⟨hfree, htaken⟩ := hregisters.taken hwants.2
  exact ⟨fun huses => hfree huses.2,
    hwants.of_same h.managers (h.payloads o), htaken.of_same (h.payloads o)⟩

/-- The managers that used their registrations before still do. -/
theorem Holds.uses_of_uses (h : Holds b o s) {m : ℕ} (huses : b.Uses m) : s.Uses m := by
  refine ⟨huses.1.of_same h.managers (h.payloads m), Taken.of_same (h.payloads m) ?_⟩
  by_cases hwants : b.Wants o
  · obtain ⟨env, hregisters⟩ := h.registered hwants
    exact hregisters.taken_of_taken huses.2
  · rw [h.unchanged hwants]
    exact huses.2

/-- What a manager holds depends on nothing but the registrations, payloads and managers. -/
theorem Holds.of_same (h : Holds b o s) (hsame : SameRegistrations s t) : Holds b o t where
  managers := hsame.managers.trans h.managers
  payloads m := (h.payloads m).trans (hsame.payloads m)
  registered := by
    rw [hsame.registrations]
    exact h.registered
  unchanged := by
    rw [hsame.registrations]
    exact h.unchanged
  token hwants := by
    rw [(hsame.kept o (h.uses hwants).2).1]
    exact h.token hwants
  buf_ring hwants hmode := by
    rw [(hsame.kept o (h.uses hwants).2).2]
    exact h.buf_ring hwants hmode
  kept m huses := by
    obtain ⟨htoken, hring⟩ := h.kept m huses
    obtain ⟨htoken', hring'⟩ := hsame.kept m (h.uses_of_uses huses)
    exact ⟨htoken'.trans htoken, hring'.trans hring⟩

/-! ## The steps -/

/-- A manager without buffers to register registers nothing. -/
theorem registers_of_not_wants (hbuffers : (s.managers o).buffers = true) (hwants : ¬ s.Wants o)
    {k k' : Registrations} (h : Registers env k (s.payloads o) k') : k' = k := by
  have hmode : (s.payloads o).mode = .NORMAL_BUF := by
    by_contra hmode
    exact hwants ⟨hbuffers, hmode⟩
  unfold Registers at h
  rw [hmode] at h
  exact h

/-- An enter changes the fields of its own payload that managers change. -/
theorem Switches.samePayload {b : BufferSetup} (hinit :
    Uringio.initBuffers (s.setup o) env = some (ok, b))
    (h : Switches s { s with
      payloads := Function.update s.payloads o b.payload
      registrations := b.registrations } o ok t) (m : ℕ) :
    SamePayload (s.payloads m) (t.payloads m) := by
  rw [h.payloads]
  rcases eq_or_ne m o with rfl | hm
  · simpa [setup] using (initBuffers_payload hinit).1
  · simp only [Function.update_of_ne hm]
    exact .refl _

/-- **Entering.** A successful enter registers its buffers, and opens a layer. -/
theorem enter_holds (haccepts : (s.managers o).reaches env = true → Accepts (s.setup o) env)
    (hlawful : Lawful (s.setup o) env) (h : protocol.enter s o env = some (true, t)) :
    Holds s o t ∧ (s.Wants o → Registers env s.registrations (s.payloads o) t.registrations) := by
  rcases enter_switches h with ⟨hno, hs⟩ | ⟨hbuffers, hreaches, b, hinit, hs⟩
  · have hwants : ∀ m, m = o → ¬ s.Wants m := fun m hm hwants => by
      subst hm
      exact absurd (hno hwants.1) (by decide)
    refine ⟨⟨hs.managers, fun m => ?_, fun hw => absurd hw (hwants o rfl), fun _ =>
      hs.registrations,
      fun hw => absurd hw (hwants o rfl), fun hw => absurd hw (hwants o rfl), fun m huses => ?_⟩,
      fun hw => absurd hw (hwants o rfl)⟩
    · rw [hs.payloads]
      exact .refl _
    · exact ⟨hs.tokens m fun hm => hwants m hm huses.1, by rw [hs.payloads]⟩
  · have hregisters := (initBuffers_registers (haccepts hreaches) hlawful hinit).1 rfl
    have hregisters' : Registers env s.registrations (s.payloads o) t.registrations := by
      rw [hs.registrations]
      exact hregisters
    refine ⟨⟨hs.managers, hs.samePayload hinit, fun _ => ⟨env, hregisters'⟩,
      fun hw => registers_of_not_wants hbuffers hw hregisters', fun _ => hs.token rfl,
      fun _ hmode => ?_, fun m huses => ?_⟩, fun _ => hregisters'⟩
    · rw [hs.payloads]
      have haccepted := haccepts hreaches
      unfold Accepts at haccepted
      rw [show (s.setup o).payload.mode = .BUF_RING from hmode] at haccepted
      simpa using ((initBuffers_buf_ring hinit).1 rfl hmode).trans haccepted
    · -- The place of a manager that was registered was not free.
      have hm : m ≠ o := by
        rintro rfl
        exact (hregisters'.taken huses.1.2).1 huses.2
      refine ⟨hs.tokens m hm, ?_⟩
      rw [hs.payloads]
      simp only [Function.update_of_ne hm]

/-- **Failing.** An enter that fails changes no registration. -/
theorem enter_same (haccepts : (s.managers o).reaches env = true → Accepts (s.setup o) env)
    (hlawful : Lawful (s.setup o) env) (h : protocol.enter s o env = some (false, t)) :
    SameRegistrations s t := by
  have htokens : ∀ {u}, Switches s u o false t → ∀ m, t.tokens m = s.tokens m := fun hs m => by
    rcases eq_or_ne m o with rfl | hm
    · exact hs.failed rfl
    · exact hs.tokens m hm
  rcases enter_switches h with ⟨-, hs⟩ | ⟨-, hreaches, b, hinit, hs⟩
  · exact ⟨hs.managers, fun m => by rw [hs.payloads]; exact .refl _, hs.registrations,
      fun m _ => ⟨htokens hs m, by rw [hs.payloads]⟩⟩
  · refine ⟨hs.managers, hs.samePayload hinit, ?_, fun m _ => ⟨htokens hs m, ?_⟩⟩
    · rw [hs.registrations]
      exact (initBuffers_registers (haccepts hreaches) hlawful hinit).2 rfl
    · rw [hs.payloads]
      rcases eq_or_ne m o with rfl | hm
      · simpa [setup] using (initBuffers_buf_ring hinit).2 rfl
      · simp only [Function.update_of_ne hm]

/-- **Leaving.** An exit of the innermost manager takes back what its enter registered. -/
theorem exit_same_registrations {s : Session ContextState ℕ} (hholds : Holds b o s.state)
    (hregistrable : Registrable s (.exit o env)) (h : protocol.exit s.state o env = some t) :
    SameRegistrations b t := by
  have hkept : ∀ {u}, Closes s.state u o t →
      (∀ m, m ≠ o → t.payloads m = s.state.payloads m) → ∀ m, b.Uses m →
      t.tokens m = b.tokens m ∧ (t.payloads m).buf_ring = (b.payloads m).buf_ring := by
    intro u hcloses hpayloads m huses
    have hm : m ≠ o := by
      rintro rfl
      exact (hholds.uses huses.1).1 huses
    obtain ⟨htoken, hring⟩ := hholds.kept m huses
    exact ⟨(hcloses.tokens m hm).trans htoken, by rw [hpayloads m hm, hring]⟩
  rcases exit_closes h with ⟨hcloses, hunused⟩ | ⟨⟨payload, hkind⟩, c, hclose, hcloses⟩
  · have hpayloads : ∀ m, t.payloads m = s.state.payloads m := fun m => by rw [hcloses.payloads]
    have hwants : ¬ b.Wants o := by
      intro hwants
      obtain ⟨old, htoken⟩ := hholds.token hwants
      have hwants' := hwants.of_same hholds.managers (hholds.payloads o)
      -- A manager of buffers that takes nothing back registered nothing.
      cases hkind : s.state.managers o with
      | bufferModeCtx payload => exact hunused payload old hkind htoken
      | streamStrategyCtx payload => exact absurd hwants'.1 (by simp [hkind, Manager.buffers])
      | transferModeCtx payload => exact absurd hwants'.1 (by simp [hkind, Manager.buffers])
      | executionContextCtx payload context =>
        simp only [Registrable, hkind] at hregistrable
        exact hwants'.2 hregistrable
    exact ⟨hcloses.managers.trans hholds.managers,
      fun m => by rw [hpayloads m]; exact hholds.payloads m,
      hcloses.registrations.trans (hholds.unchanged hwants),
      hkept hcloses fun m _ => hpayloads m⟩
  · simp only [Registrable, hkind] at hregistrable
    have hothers : ∀ m, m ≠ o → t.payloads m = s.state.payloads m := fun m hm => by
      rw [hcloses.payloads]
      exact Function.update_of_ne hm ..
    refine ⟨hcloses.managers.trans hholds.managers, fun m => ?_, ?_, hkept hcloses hothers⟩
    · refine (hholds.payloads m).trans ?_
      rcases eq_or_ne m o with rfl | hm
      · rw [hcloses.payloads]
        simpa [setup] using closeBuffers_payload hclose
      · rw [hothers m hm]
        exact .refl _
    · rw [hcloses.registrations]
      by_cases hwants : b.Wants o
      · obtain ⟨env', hregisters⟩ := hholds.registered hwants
        exact closeBuffers_registers hregisters (hholds.payloads o) (hholds.buf_ring hwants)
          hregistrable hclose
      · have hmode : (s.state.payloads o).mode = .NORMAL_BUF := by
          by_contra hmode
          refine hwants ⟨?_, (hholds.payloads o).mode ▸ hmode⟩
          rw [← hholds.managers, hkind]
          rfl
        rw [← hholds.unchanged hwants]
        unfold Uringio.closeBuffers at hclose
        rw [show (s.state.setup o).payload.mode = .NORMAL_BUF from hmode] at hclose
        cases hclose
        rfl

/-- The layers of the registrations. -/
theorem registrations_undoes :
    Bracket.Undoes protocol (fun s c => LawfulStep s c ∧ Registrable s c) (fun _ => True) Holds
      SameRegistrations where
  enter hok hcall := (enter_holds (fun h => (hok.2 h).2.2) hok.1 hcall).1
  failed hok hcall := enter_same (fun h => (hok.2 h).2.2) hok.1 hcall
  exit hok hholds hcall := exit_same_registrations hholds hok.2 hcall
  base_same _ _ := trivial
  opens_same hholds hsame := hholds.of_same hsame

/-- **Kernel registrations follow the context** in every run of a well-nested program whose steps
are all registrable: every next registrable step reports success exactly when it registered its
buffers, changes nothing when it fails, and restores the registrations when it is an exit. -/
theorem registrations_of_run {s₀ : ContextState} {s : Session ContextState ℕ}
    (hrun : Run protocol.step (fun s c => Nested s c ∧ LawfulStep s c ∧ Registrable s c)
      (.start s₀) s) :
    ∀ c s', Nested s c → LawfulStep s c → Registrable s c → protocol.step s c = some s' →
      Follows s s' c := by
  intro c s' hnested hlawful hregistrable hstep
  cases c with
  | enter o env =>
    intro ok hcall
    cases ok with
    | true =>
      obtain ⟨hholds, hregisters⟩ := enter_holds (fun h => (hregistrable h).2.2) hlawful hcall
      exact ⟨fun hwants => ⟨fun _ => hregisters hwants, fun _ => rfl⟩,
        fun hno => hholds.unchanged (hno.resolve_right (by decide))⟩
    | false =>
      have hsame := enter_same (fun h => (hregistrable h).2.2) hlawful hcall
      refine ⟨fun hwants => ⟨fun h => absurd h (by decide), fun hregisters => ?_⟩,
        fun _ => hsame.registrations⟩
      -- Nothing changed, so the place is both free and taken.
      obtain ⟨hfree, htaken⟩ := hregisters.taken hwants.2
      rw [hsame.registrations] at htaken
      exact absurd htaken hfree
  | exit o env =>
    intro f hf
    have hopened := registrations_undoes.opened_of_run trivial hrun
    exact (registrations_undoes.same_of_exit hopened hnested ⟨hlawful, hregistrable⟩ hstep
      hf).registrations

/-! ## Two programs -/

/-- An `ExecutionContextCtx` and `BufferModeCtx`s, all of fixed buffers. -/
def fixedSample : ContextState where
  var := ⟨0, Cells.empty.new ⟨0, 1⟩,
    (Cells.empty.new .initial).new { sampleContext with buffer_mode := .FIXED }⟩
  managers
    | 0 => .executionContextCtx 1 { sampleContext with buffer_mode := .FIXED }
    | _ => .bufferModeCtx .FIXED
  tokens _ := none
  payloads _ := (createContextPayload .FIXED sampleArgs).get (createContextPayload_sampleArgs _)
  ring := .replicate 7 .zero
  registrations := ⟨none, fun _ => none⟩

/-- Execute commands that the kernel's rules allow. -/
def fixedRun (guard : Session ContextState ℕ → Command ℕ ManagerEnv → Prop)
    [∀ s c, Decidable (guard s c)] (commands : List (Command ℕ ManagerEnv)) :
    Option (Session ContextState ℕ) :=
  Transition.exec protocol.step (fun s c => Nested s c ∧ LawfulStep s c ∧ guard s c)
    (.start fixedSample) commands

/-- A second fixed registration is refused, and the exit of the first one takes it back. -/
theorem registrations_of_nested :
    ∃ s s', fixedRun Registrable [.enter 1 (sampleEnv 0), .enter 2 (sampleEnv (-16))] = some s ∧
      s.state.registrations.fixed = some [⟨4096, 64⟩] ∧
      protocol.step s (.exit 1 (sampleEnv 0)) = some s' ∧
      Follows s s' (.exit 1 (sampleEnv 0)) ∧ s'.state.registrations.fixed = none := by
  obtain ⟨s, hs, hfixed⟩ := Option.map_eq_some_iff.mp (show
    (fixedRun Registrable [.enter 1 (sampleEnv 0), .enter 2 (sampleEnv (-16))]).map
      (fun s => s.state.registrations.fixed) = some (some [⟨4096, 64⟩]) by decide +kernel)
  obtain ⟨s', hs', hleft⟩ := Option.map_eq_some_iff.mp (show
    ((fixedRun Registrable [.enter 1 (sampleEnv 0), .enter 2 (sampleEnv (-16))]).bind
      fun s => if Nested s (.exit 1 (sampleEnv 0)) ∧ Registrable s (.exit 1 (sampleEnv 0)) then
        protocol.step s (.exit 1 (sampleEnv 0)) else none).map
      (fun s => s.state.registrations.fixed) = some none by decide +kernel)
  rw [hs, Option.bind_some, Option.ite_none_right_eq_some] at hs'
  obtain ⟨⟨hnested, hregistrable⟩, hstep⟩ := hs'
  exact ⟨s, s', hs, hfixed, hstep,
    registrations_of_run (.of_exec hs) _ s' hnested trivial hregistrable hstep, hleft⟩

/-- **An `ExecutionContextCtx` leaves its registration behind.** After its exit the table of fixed
buffers is registered, which it was not before its enter, so that no other can be. -/
theorem executionContext_not_follows :
    ∃ s s', fixedRun (fun _ _ => True) [.enter 0 (sampleEnv 0)] = some s ∧
      Nested s (.exit 0 (sampleEnv 0) : Command ℕ ManagerEnv) ∧
      protocol.step s (.exit 0 (sampleEnv 0)) = some s' ∧
      ¬ Follows s s' (.exit 0 (sampleEnv 0)) := by
  obtain ⟨s, hs, hbefore⟩ := Option.map_eq_some_iff.mp (show
    (fixedRun (fun _ _ => True) [.enter 0 (sampleEnv 0)]).map
      (fun s => s.entered.map fun f => (f.object, f.before.registrations.fixed)) =
      some [(0, none)] by decide +kernel)
  obtain ⟨s', hs', hleft⟩ := Option.map_eq_some_iff.mp (show
    ((fixedRun (fun _ _ => True) [.enter 0 (sampleEnv 0)]).bind
      fun s => if Nested s (.exit 0 (sampleEnv 0) : Command ℕ ManagerEnv) then
        protocol.step s (.exit 0 (sampleEnv 0)) else none).map
      (fun s => s.state.registrations.fixed) = some (some [⟨4096, 64⟩]) by decide +kernel)
  rw [hs, Option.bind_some, Option.ite_none_right_eq_some] at hs'
  obtain ⟨hnested, hstep⟩ := hs'
  refine ⟨s, s', hs, hnested, hstep, fun hfollows => ?_⟩
  obtain ⟨f, fs, hentered, hf, -⟩ := List.map_eq_cons_iff.mp hbefore
  have hrestored := hfollows f (by rw [hentered]; rfl)
  rw [hrestored, (Prod.mk.inj hf).2] at hleft
  cases hleft

end ContextState

end Uringio
