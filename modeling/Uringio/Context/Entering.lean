import Uringio.Context.Managers

/-!
# What entering and leaving do to the variable

One description of all enters (`Entering`) and one of all exits (`Leaving`). Each enter makes a new
capsule the value of the variable, for a block to which no capsule points, and either leaves the
token behind or, when the buffers could not be registered, takes the capsule back. Each exit takes
back the capsule of its token.
-/

namespace Uringio

namespace ContextVar

/-- A block with these fields to which no capsule points. -/
structure Aloof (v : ContextVar) (pointer : ℕ) (context : ContextBlock) : Prop where
  /-- The block has the fields. -/
  block : v.blocks.get pointer = some context
  /-- No capsule points to it. -/
  unowned : ∀ n a, v.capsules.get n = some a → a.pointer ≠ pointer

variable {v w : ContextVar} {pointer p old : ℕ} {context context' : ContextBlock}

/-- An allocation leaves an aloof block aloof. -/
theorem Aloof.malloc (h : v.Aloof p context) : (v.malloc context').Aloof p context :=
  ⟨Cells.get_new h.block, h.unowned⟩

/-- The new block of a clone. -/
theorem Sound.aloof_malloc (hv : v.Sound) : (v.malloc context).Aloof v.blocks.next context :=
  ⟨Cells.get_new_self, fun _ _ ha => hv.ne_next ha⟩

/-- A push of another block leaves an aloof block aloof. -/
theorem Aloof.pushed (h : v.Aloof p context) (hpush : Pushed v w pointer) (hne : p ≠ pointer) :
    w.Aloof p context := by
  refine ⟨by rw [hpush.blocks]; exact h.block, fun n a ha => ?_⟩
  rcases hpush.cases ha with ⟨-, rfl⟩ | ha'
  · exact hne.symm
  · exact h.unowned n a ha'

/-- A pop of another block leaves an aloof block aloof. -/
theorem Aloof.popped (h : v.Aloof p context) (hpop : Popped v w pointer old) (hne : p ≠ pointer) :
    w.Aloof p context :=
  ⟨by rw [hpop.blocks, Cells.get_destroy_of_ne hne]; exact h.block,
    fun n a ha => h.unowned n a (hpop.of_get ha).2⟩

end ContextVar

open ContextVar (Aloof Pushed Popped Keeps)

namespace ContextState

/-- A `BufferModeCtx` of a fixed mode has a pool of indices. -/
def Indexed (s : ContextState) (o : ℕ) : Prop :=
  (∃ payload, s.managers o = .bufferModeCtx payload) → (s.payloads o).mode = .FIXED →
    (s.payloads o).idx_registry.isSome

/-- What a switch over the mode leaves alone. -/
structure Switched (o : ℕ) (s t : ContextState) : Prop where
  /-- The variable is as it was. -/
  var : t.var = s.var
  /-- The tokens are as they were. -/
  tokens : t.tokens = s.tokens
  /-- The managers are the same. -/
  managers : t.managers = s.managers
  /-- The payloads of the other managers are as before. -/
  others : ∀ m, m ≠ o → t.payloads m = s.payloads m
  /-- That of the manager has the same buffers. -/
  payload : SamePayload (s.payloads o) (t.payloads o)

/-- A state is switched to itself. -/
theorem Switched.refl (o : ℕ) (s : ContextState) : Switched o s s :=
  ⟨rfl, rfl, rfl, fun _ _ => rfl, .refl _⟩

variable {s t : ContextState} {o pointer : ℕ} {env : ManagerEnv} {ok : Bool}
  {context : ContextBlock} {init : ContextState → Option (Bool × ContextState)}

/-- The registration of the buffers changes only the manager's own payload and the registrations. -/
theorem initBuffers_switched (h : s.initBuffers o env = some (ok, t)) :
    Switched o s t ∧ (ok = true → t.Indexed o) := by
  obtain ⟨⟨ok', b⟩, hinit, heq⟩ := Option.map_eq_some_iff.mp h
  cases heq
  obtain ⟨hsame, hindexed⟩ := initBuffers_payload hinit
  refine ⟨⟨rfl, rfl, rfl, fun m hm => Function.update_of_ne hm .., ?_⟩, fun hok _ hmode => ?_⟩
  · simpa using hsame
  · simp only [Function.update_self] at hmode ⊢
    exact hindexed hok (hsame.mode.symm.trans hmode)

/-- Closing the buffers changes only the manager's own payload and the registrations. -/
theorem closeBuffers_switched (h : s.closeBuffers o env = some t) : Switched o s t := by
  obtain ⟨b, hclose, rfl⟩ := Option.map_eq_some_iff.mp h
  refine ⟨rfl, rfl, rfl, fun m hm => Function.update_of_ne hm .., ?_⟩
  simpa using closeBuffers_payload hclose

/-! ## Entering -/

/-- What an enter of the manager `o` does, when it makes the block `pointer` with the fields
`context` the current one. -/
structure Entering (s : ContextState) (o pointer : ℕ) (context : ContextBlock) (ok : Bool)
    (t : ContextState) : Prop where
  /-- The managers are the same. -/
  managers : t.managers = s.managers
  /-- The tokens of the other managers are as before. -/
  tokens : ∀ m, m ≠ o → t.tokens m = s.tokens m
  /-- The payloads of the other managers are as before. -/
  others : ∀ m, m ≠ o → t.payloads m = s.payloads m
  /-- That of the manager has the same buffers. -/
  payload : SamePayload (s.payloads o) (t.payloads o)
  /-- The store is sound. -/
  sound : t.var.Sound
  /-- What was there is kept. -/
  keeps : Keeps s.var t.var
  /-- The blocks of other managers are kept aloof. -/
  aloof : ∀ p c, s.var.Aloof p c → p ≠ pointer → t.var.Aloof p c
  /-- An enter that fails leaves the value and the token as they were. -/
  failed : ok = false → t.var.value = s.var.value ∧ t.tokens o = s.tokens o
  /-- The capsule of an enter is new. -/
  new : ok = true → s.var.capsules.get t.var.value = none
  /-- The token of an enter has the value of before. -/
  token : ok = true → t.tokens o = some ⟨s.var.value, false⟩
  /-- The new capsule has a block with the new fields, and one reference. -/
  capsule : ok = true → ∃ p, t.var.capsules.get t.var.value = some ⟨p, 1⟩ ∧
    t.var.blocks.get p = some context
  /-- A manager of a fixed mode has a pool of indices. -/
  indexed : ok = true → t.Indexed o

/-- An enter that gave up before it changed anything. -/
theorem entering_refl (hs : s.var.Sound) (o pointer : ℕ) (context : ContextBlock) :
    Entering s o pointer context false s where
  managers := rfl
  tokens _ _ := rfl
  others _ _ := rfl
  payload := .refl _
  sound := hs
  keeps := .refl _
  aloof _ _ h _ := h
  failed _ := ⟨rfl, rfl⟩
  new h := absurd h (by decide)
  token h := absurd h (by decide)
  capsule h := absurd h (by decide)
  indexed h := absurd h (by decide)

section EnterCapsule

variable (hs : s.var.Sound) (hlive : (s.var.capsules.get s.var.value).isSome)
  (hnew : s.var.Aloof pointer context)
include hs hlive hnew

/-- The variable after a push has a capsule that only it refers to, and the capsule of before still
exists, so that the push can be taken back. -/
theorem pop_of_pushed {w : ContextVar} (hpush : Pushed s.var w pointer) :
    w.capsules.get w.value = some ⟨pointer, 1⟩ ∧
      ∃ v, w.pop (some ⟨s.var.value, false⟩) = some (0, v) ∧ Popped w v pointer s.var.value := by
  obtain ⟨a, ha⟩ := Option.isSome_iff_exists.mp hlive
  have hvalue : w.capsules.get w.value = some ⟨pointer, 1⟩ := by rw [hpush.value, hpush.self]
  have hne : s.var.value ≠ w.value := by
    rw [hpush.value]
    exact Cells.ne_next ha
  refine ⟨hvalue, ContextVar.pop_spec hvalue ?_ ?_ hne (hs.counted ha)⟩
  · rw [hpush.blocks, hnew.block]
    rfl
  · rw [hpush.others _ (Cells.ne_next ha), ha]

/-- The end of all enters always ends, if its switch does. -/
theorem enterCapsule_defined
    (hinit : ∀ var, ∃ ok t, init { s with var := var } = some (ok, t) ∧
      Switched o { s with var := var } t) :
    ∃ r, s.enterCapsule o pointer init = some r := by
  obtain ⟨w, hw, hpush⟩ := s.var.push_spec pointer
  obtain ⟨ok, u, hu, hswitched⟩ := hinit w
  obtain ⟨-, v, hv, -⟩ := pop_of_pushed hs hlive hnew hpush
  simp only [enterCapsule, hw, Option.bind_eq_bind, Option.bind_some, hu]
  split
  · exact ⟨_, rfl⟩
  · rw [hswitched.var, hv]
    exact ⟨_, rfl⟩

/-- **What the end of all enters does.** -/
theorem enterCapsule_entering
    (hinit : ∀ var ok t, init { s with var := var } = some (ok, t) →
      Switched o { s with var := var } t ∧ (ok = true → t.Indexed o))
    (h : s.enterCapsule o pointer init = some (ok, t)) : Entering s o pointer context ok t := by
  obtain ⟨w, hw, hpush⟩ := s.var.push_spec pointer
  obtain ⟨hvalue, v, hv, hpop⟩ := pop_of_pushed hs hlive hnew hpush
  have hsound : w.Sound := hpush.sound hs (by rw [hnew.block]; rfl) hnew.unowned
  have hfresh : s.var.capsules.get w.value = none := by
    rw [hpush.value]
    exact Cells.get_next
  simp only [enterCapsule, hw, Option.bind_eq_bind, Option.bind_some] at h
  obtain ⟨⟨ok', u⟩, hu, h⟩ := Option.bind_eq_some_iff.mp h
  obtain ⟨hswitched, hindexed⟩ := hinit w ok' u hu
  have hvar : u.var = w := hswitched.var
  split at h
  · next hok =>
    -- The token stays with the manager.
    cases h
    exact
      { managers := hswitched.managers
        tokens := fun m hm => by
          rw [← show u.tokens m = s.tokens m from congrFun hswitched.tokens m]
          exact Function.update_of_ne hm ..
        others := hswitched.others
        payload := hswitched.payload
        sound := by rw [hvar]; exact hsound
        keeps := by rw [hvar]; exact hpush.keeps
        aloof := fun p c hp hne => by rw [hvar]; exact hp.pushed hpush hne
        failed := fun h => absurd h (by decide)
        new := fun _ => by rw [hvar]; exact hfresh
        token := fun _ => Function.update_self ..
        capsule := fun _ => ⟨pointer, by rw [hvar]; exact hvalue, by
          rw [hvar, hpush.blocks]; exact hnew.block⟩
        indexed := fun _ => hindexed hok }
  · next hok =>
    -- The push is taken back.
    rw [hvar, hv] at h
    cases h
    have hfalse : ok' = false := by simpa using hok
    subst hfalse
    exact
      { managers := hswitched.managers
        tokens := fun m _ => congrFun hswitched.tokens m
        others := hswitched.others
        payload := hswitched.payload
        sound := hpop.sound hsound hvalue
        keeps := hpop.keeps hsound hvalue hpush.keeps hfresh
        aloof := fun p c hp hne => (hp.pushed hpush hne).popped hpop hne
        failed := fun _ => ⟨hpop.value, congrFun hswitched.tokens o⟩
        new := fun h => absurd h (by decide)
        token := fun h => absurd h (by decide)
        capsule := fun h => absurd h (by decide)
        indexed := fun h => absurd h (by decide) }

end EnterCapsule

/-- An enter after the clone of a context is an enter. -/
theorem Entering.of_malloc (hs : s.var.Sound)
    (h : Entering { s with var := s.var.malloc context } o s.var.blocks.next context ok t) :
    Entering s o s.var.blocks.next context ok t where
  managers := h.managers
  tokens := h.tokens
  others := h.others
  payload := h.payload
  sound := h.sound
  keeps := (ContextVar.keeps_malloc hs context).trans h.keeps
  aloof p c hp hne := h.aloof p c hp.malloc hne
  failed := h.failed
  new := h.new
  token := h.token
  capsule := h.capsule
  indexed := h.indexed

section EnterClone

variable {change : ContextBlock → ContextBlock} {freed : Bool} {current : ContextBlock}
  (hs : s.var.Sound) (hcurrent : s.var.get = some current)
include hs hcurrent

/-- The enters that clone the current context always end, if their switch does. -/
theorem enterClone_defined
    (hinit : ∀ var, ∃ ok t, init { s with var := var } = some (ok, t) ∧
      Switched o { s with var := var } t) :
    ∃ r, s.enterClone o env change freed init = some r := by
  obtain ⟨a, ha, -⟩ := Option.bind_eq_some_iff.mp hcurrent
  simp only [enterClone, hcurrent, Option.bind_eq_bind, Option.bind_some]
  split
  · exact ⟨_, rfl⟩
  · split
    · exact ⟨_, rfl⟩
    · exact enterCapsule_defined (s := { s with var := s.var.malloc (change current) })
        (hs.malloc _) (by simp [ContextVar.malloc, ha]) hs.aloof_malloc hinit

/-- **What the enters that clone the current context do.** -/
theorem enterClone_entering
    (hinit : ∀ var ok t, init { s with var := var } = some (ok, t) →
      Switched o { s with var := var } t ∧ (ok = true → t.Indexed o))
    (h : s.enterClone o env change freed init = some (ok, t)) :
    Entering s o s.var.blocks.next (change current) ok t := by
  obtain ⟨a, ha, -⟩ := Option.bind_eq_some_iff.mp hcurrent
  simp only [enterClone, hcurrent, Option.bind_eq_bind, Option.bind_some] at h
  split at h
  · cases h
    exact entering_refl hs ..
  · split at h
    · cases h
      cases freed with
      | true => exact entering_refl hs ..
      | false => exact (entering_refl (hs.malloc _) ..).of_malloc hs
    · refine (enterCapsule_entering (s := { s with var := s.var.malloc (change current) })
        (hs.malloc _) ?_ hs.aloof_malloc hinit h).of_malloc hs
      simp [ContextVar.malloc, ha]

end EnterClone

end ContextState

/-! ## One enter of the protocol -/

/-- The fields of the context that the manager `o` makes of the current one. -/
def Manager.change (o : ℕ) : Manager → ContextBlock → ContextBlock
  | .bufferModeCtx payload, c => { c with buffer_mode := payload, buffer_payload := some o }
  | .streamStrategyCtx payload, c => { c with stream := payload }
  | .transferModeCtx payload, c => { c with transfer_mode := payload }
  | .executionContextCtx _ context, _ => context

namespace ContextState

/-- The manager `o` can be entered: its switch follows no null pointer, and if it brings a block of
its own, this has the fields that it was created with. -/
def Ready (s : ContextState) (o : ℕ) : Prop :=
  match s.managers o with
  | .bufferModeCtx _ => (s.payloads o).Ready
  | .executionContextCtx payload context => (s.payloads o).Ready ∧ s.var.Aloof payload context
  | _ => True

/-- The block that an enter of the manager `o` makes the current one. -/
def nextBlock (s : ContextState) (o : ℕ) : ℕ :=
  match s.managers o with
  | .executionContextCtx payload _ => payload
  | _ => s.var.blocks.next

variable {s t : ContextState} {o pointer : ℕ} {env : ManagerEnv} {ok : Bool}
  {context : ContextBlock}

/-- A switch over the mode that is none. -/
theorem noSwitch (hkind : ∀ payload, s.managers o ≠ .bufferModeCtx payload) (var : ContextVar)
    (ok : Bool) (t : ContextState) (h : some (true, { s with var := var }) = some (ok, t)) :
    Switched o { s with var := var } t ∧ (ok = true → t.Indexed o) := by
  cases h
  exact ⟨.refl o _, fun _ ⟨payload, hpayload⟩ => absurd hpayload (hkind payload)⟩

/-- The switch over the mode of a payload that is ready. -/
theorem initBuffers_ends (h : (s.payloads o).Ready) (env : ManagerEnv) (var : ContextVar) :
    ∃ ok t, { s with var := var }.initBuffers o env = some (ok, t) ∧
      Switched o { s with var := var } t := by
  obtain ⟨⟨ok, b⟩, hb⟩ := initBuffers_defined (b := ⟨s.payloads o, s.ring, s.registrations⟩) h env
  have hcall : ∃ t, { s with var := var }.initBuffers o env = some (ok, t) := by
    unfold initBuffers
    rw [hb]
    exact ⟨_, rfl⟩
  obtain ⟨t, ht⟩ := hcall
  exact ⟨ok, t, ht, (initBuffers_switched ht).1⟩

section Enter

variable {current : ContextBlock} (hs : s.var.Sound) (hcurrent : s.var.get = some current)
include hs hcurrent

/-- An enter of a manager that can be entered ends. -/
theorem enter_defined (hready : s.Ready o) (env : ManagerEnv) :
    ∃ ok t, protocol.enter s o env = some (ok, t) := by
  have hends : ∃ r, protocol.enter s o env = some r := by
    simp only [protocol]
    unfold Ready at hready
    split <;> rename_i hkind <;> rw [hkind] at hready <;> simp only at hready
    · exact enterClone_defined hs hcurrent (initBuffers_ends hready env)
    · exact enterClone_defined hs hcurrent fun var => ⟨true, _, rfl, .refl o _⟩
    · exact enterClone_defined hs hcurrent fun var => ⟨true, _, rfl, .refl o _⟩
    · obtain ⟨a, ha, -⟩ := Option.bind_eq_some_iff.mp hcurrent
      unfold executionContextCtxEnter
      split
      · exact ⟨_, rfl⟩
      · exact enterCapsule_defined hs (by rw [ha]; rfl) hready.2 (initBuffers_ends hready.1 env)
  obtain ⟨⟨ok, t⟩, h⟩ := hends
  exact ⟨ok, t, h⟩

/-- **What an enter does**, whatever the kind of the manager. -/
theorem enter_entering (hready : s.Ready o) (h : protocol.enter s o env = some (ok, t)) :
    Entering s o (s.nextBlock o) ((s.managers o).change o current) ok t := by
  have hswitch : ∀ var ok t, { s with var := var }.initBuffers o env = some (ok, t) →
      Switched o { s with var := var } t ∧ (ok = true → t.Indexed o) :=
    fun _ _ _ => initBuffers_switched
  unfold Ready at hready
  unfold nextBlock
  simp only [protocol] at h
  split at h <;> rename_i hkind <;> rw [hkind] at hready ⊢ <;> simp only at hready
  · exact enterClone_entering hs hcurrent hswitch h
  · exact enterClone_entering hs hcurrent (noSwitch (by simp [hkind])) h
  · exact enterClone_entering hs hcurrent (noSwitch (by simp [hkind])) h
  · obtain ⟨a, ha, -⟩ := Option.bind_eq_some_iff.mp hcurrent
    unfold executionContextCtxEnter at h
    split at h
    · cases h
      exact entering_refl hs ..
    · exact enterCapsule_entering hs (by rw [ha]; rfl) hready.2 hswitch h

end Enter

/-! ## One exit of the protocol -/

/-- The manager `o` is the innermost one, and was entered in the state `b`: the variable holds a
capsule of its own for `o`, the token holds that of before, and what was there is as it was. -/
structure Opens (b : ContextState) (o : ℕ) (t : ContextState) : Prop where
  /-- The managers are the same. -/
  managers : t.managers = b.managers
  /-- The tokens of the other managers are as before. -/
  tokens : ∀ m, m ≠ o → t.tokens m = b.tokens m
  /-- All payloads have the same buffers. -/
  payloads : ∀ m, SamePayload (b.payloads m) (t.payloads m)
  /-- What was there is kept. -/
  keeps : Keeps b.var t.var
  /-- The capsule is new. -/
  new : b.var.capsules.get t.var.value = none
  /-- The token has the value of before. -/
  token : t.tokens o = some ⟨b.var.value, false⟩
  /-- The new capsule has the fields that the manager makes of the current ones. -/
  context : ∃ current p, b.var.get = some current ∧
    t.var.capsules.get t.var.value = some ⟨p, 1⟩ ∧
    t.var.blocks.get p = some ((b.managers o).change o current)
  /-- The manager had no token. -/
  untaken : b.tokens o = none
  /-- A manager of a fixed mode has a pool of indices. -/
  indexed : t.Indexed o

/-- The states are the same but for what managers did to their own payloads, for what was created
since, and for the kernel. -/
structure Same (s t : ContextState) : Prop where
  /-- The managers are the same. -/
  managers : t.managers = s.managers
  /-- The tokens are as they were. -/
  tokens : t.tokens = s.tokens
  /-- All payloads have the same buffers. -/
  payloads : ∀ m, SamePayload (s.payloads m) (t.payloads m)
  /-- What was there is kept. -/
  keeps : Keeps s.var t.var
  /-- The value is the same. -/
  value : t.var.value = s.var.value

variable {b : ContextState}

/-- The pool of indices of a manager stays. -/
theorem Indexed.of_same (h : s.Indexed o) (hmanagers : t.managers = s.managers)
    (hpayload : SamePayload (s.payloads o) (t.payloads o)) : t.Indexed o := fun hkind hmode => by
  rw [hmanagers] at hkind
  exact hpayload.idx_registry (h hkind (hpayload.mode.symm.trans hmode))

/-- The layers do not see the difference between states that are the same. -/
theorem Opens.of_same (h : Opens b o s) (hsame : Same s t) : Opens b o t where
  managers := hsame.managers.trans h.managers
  tokens m hm := (congrFun hsame.tokens m).trans (h.tokens m hm)
  payloads m := (h.payloads m).trans (hsame.payloads m)
  keeps := h.keeps.trans hsame.keeps
  new := by rw [hsame.value]; exact h.new
  token := by rw [hsame.tokens]; exact h.token
  context := by
    obtain ⟨current, p, hcurrent, hcapsule, hblock⟩ := h.context
    obtain ⟨hkept, hblock'⟩ := hsame.keeps _ _ hcapsule
    exact ⟨current, p, hcurrent, by rw [hsame.value, hkept], hblock'.trans hblock⟩
  untaken := h.untaken
  indexed := h.indexed.of_same hsame.managers (hsame.payloads o)

/-- An enter that succeeds opens a layer. -/
theorem Entering.opens {current : ContextBlock}
    (h : Entering s o pointer ((s.managers o).change o current) true t)
    (hcurrent : s.var.get = some current) (huntaken : s.tokens o = none) : Opens s o t where
  managers := h.managers
  tokens := h.tokens
  payloads m := by
    rcases eq_or_ne m o with rfl | hm
    · exact h.payload
    · rw [h.others m hm]
      exact .refl _
  keeps := h.keeps
  new := h.new rfl
  token := h.token rfl
  context := by
    obtain ⟨p, hcapsule, hblock⟩ := h.capsule rfl
    exact ⟨current, p, hcurrent, hcapsule, hblock⟩
  untaken := huntaken
  indexed := h.indexed rfl

/-- An enter that fails leaves the state the same. -/
theorem Entering.same (h : Entering s o pointer context false t) : Same s t where
  managers := h.managers
  tokens := by
    funext m
    rcases eq_or_ne m o with rfl | hm
    · exact (h.failed rfl).2
    · exact h.tokens m hm
  payloads m := by
    rcases eq_or_ne m o with rfl | hm
    · exact h.payload
    · rw [h.others m hm]
      exact .refl _
  keeps := h.keeps
  value := (h.failed rfl).1

section Exit

variable (hs : s.var.Sound) (hopens : Opens b o s)
include hs hopens

/-- The innermost layer's token resets the variable. -/
theorem resetToken_opens :
    ∃ v p, s.resetToken o = some (0, { s with
      var := v, tokens := Function.update s.tokens o none }) ∧
      s.var.capsules.get s.var.value = some ⟨p, 1⟩ ∧ Popped s.var v p b.var.value := by
  obtain ⟨current, p, hcurrent, hcapsule, hblock⟩ := hopens.context
  obtain ⟨a, ha, -⟩ := Option.bind_eq_some_iff.mp hcurrent
  have hne : b.var.value ≠ s.var.value := fun h => by
    rw [h, hopens.new] at ha
    cases ha
  obtain ⟨hold, -⟩ := hopens.keeps _ _ ha
  obtain ⟨v, hv, hpop⟩ := ContextVar.pop_spec hcapsule (by rw [hblock]; rfl) hold hne
    (hs.counted hold)
  exact ⟨v, p, by simp [resetToken, hopens.token, hv], hcapsule, hpop⟩

/-- An exit of the innermost layer ends. -/
theorem exit_defined (env : ManagerEnv) : ∃ t, protocol.exit s o env = some t := by
  obtain ⟨v, p, hreset, -, -⟩ := resetToken_opens hs hopens
  simp only [protocol]
  split
  · next payload hkind =>
    simp only [bufferModeCtxExit, hreset, Option.bind_eq_bind, Option.bind_some]
    have hindexed := hopens.indexed ⟨payload, hkind⟩
    obtain ⟨c, hc⟩ := closeBuffers_defined (b := ⟨s.payloads o, s.ring, s.registrations⟩)
      hindexed env
    simp [closeBuffers, hc]
  · simp [streamStrategyCtxExit, hreset]
  · simp [transferModeCtxExit, hreset]
  · simp [executionContextCtxExit, hreset]

/-- **What an exit does.** It restores the state before the enter, keeps the store sound, and
leaves alone the blocks to which no capsule points. -/
theorem exit_same (h : protocol.exit s o env = some t) :
    Same b t ∧ t.var.Sound ∧ (∀ p c, s.var.Aloof p c → t.var.Aloof p c) ∧
      ∀ m, m ≠ o → t.payloads m = s.payloads m := by
  obtain ⟨v, p, hreset, hcapsule, hpop⟩ := resetToken_opens hs hopens
  -- All exits are the reset and, for one kind, a switch over the mode.
  have hswitched : Switched o { s with
      var := v, tokens := Function.update s.tokens o none } t := by
    simp only [protocol] at h
    split at h
    · simp only [bufferModeCtxExit, hreset, Option.bind_eq_bind, Option.bind_some] at h
      exact closeBuffers_switched h
    · simp only [streamStrategyCtxExit, hreset, Option.map_some, Option.some.injEq] at h
      exact h ▸ .refl o _
    · simp only [transferModeCtxExit, hreset, Option.map_some, Option.some.injEq] at h
      exact h ▸ .refl o _
    · simp only [executionContextCtxExit, hreset, Option.map_some, Option.some.injEq] at h
      exact h ▸ .refl o _
  have hvar : t.var = v := hswitched.var
  refine ⟨⟨hswitched.managers.trans hopens.managers, ?_, fun m => ?_, ?_, ?_⟩, ?_, ?_,
    hswitched.others⟩
  · rw [hswitched.tokens]
    funext m
    rcases eq_or_ne m o with rfl | hm
    · rw [hopens.untaken]
      exact Function.update_self ..
    · exact (Function.update_of_ne hm ..).trans (hopens.tokens m hm)
  · refine (hopens.payloads m).trans ?_
    rcases eq_or_ne m o with rfl | hm
    · exact hswitched.payload
    · rw [hswitched.others m hm]
      exact .refl _
  · rw [hvar]
    exact hpop.keeps hs hcapsule hopens.keeps hopens.new
  · rw [hvar]
    exact hpop.value
  · rw [hvar]
    exact hpop.sound hs hcapsule
  · intro q c hq
    rw [hvar]
    exact hq.popped hpop (hq.unowned _ _ hcapsule).symm

end Exit

end ContextState

end Uringio
