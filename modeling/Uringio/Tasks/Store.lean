import Uringio.Context.Entering

/-!
# References to capsules

What the functions of the variable do in any state of the store, with any number of references to a
capsule: they change the counts (`ContextVar.refs`), and a capsule that is still there afterwards
reads as it did before (`ContextVar.Moves`). Leaving a manager gives up the reference of the context
to the capsule that it had, and makes the one of the token a reference of the context (`pop_home`).
Entering one adds a capsule with one reference, or none (`ContextState.enter_capsules`).
-/

namespace Uringio

namespace ContextVar

/-- The references to a capsule, none if it was destroyed. -/
def refs (v : ContextVar) (n : ℕ) : ℕ := ((v.capsules.get n).map Capsule.refs).getD 0

/-- The fields of the block of a capsule. -/
def content (v : ContextVar) (n : ℕ) : Option ContextBlock :=
  (v.capsules.get n).bind fun c => v.blocks.get c.pointer

/-- The capsules of `w` are capsules of `v` with their blocks as they were, and other blocks that no
capsule owned are left alone. -/
structure Moves (v w : ContextVar) : Prop where
  /-- A capsule was there before, with its block as it was. -/
  survives : ∀ {n b}, w.capsules.get n = some b → ∃ a, v.capsules.get n = some a ∧
    b.pointer = a.pointer ∧ w.blocks.get a.pointer = v.blocks.get a.pointer
  /-- A block without a capsule is as it was. -/
  others : ∀ p, (∀ n a, v.capsules.get n = some a → a.pointer ≠ p) →
    w.blocks.get p = v.blocks.get p
  /-- A capsule has at least one reference. -/
  counted : ∀ {n b}, w.capsules.get n = some b → 1 ≤ b.refs
  /-- No name was used. -/
  next : w.blocks.next = v.blocks.next

variable {u v w : ContextVar} {n m old : ℕ} {a : Capsule}

/-- A sound variable moves to itself. -/
theorem Sound.moves_refl (hs : v.Sound) : Moves v v :=
  ⟨fun {_ b} hb => ⟨b, hb, rfl, rfl⟩, fun _ _ => rfl, hs.counted, rfl⟩

/-- Two moves are a move. -/
theorem Moves.trans (h₁ : Moves u v) (h₂ : Moves v w) : Moves u w where
  survives hc := by
    obtain ⟨b, hb, hpointer, hblock⟩ := h₂.survives hc
    obtain ⟨a, ha, hpointer', hblock'⟩ := h₁.survives hb
    exact ⟨a, ha, hpointer.trans hpointer', by rw [← hblock', ← hpointer', hblock]⟩
  others p hp := by
    refine (h₂.others p fun n b hb => ?_).trans (h₁.others p hp)
    obtain ⟨a, ha, hpointer, -⟩ := h₁.survives hb
    rw [hpointer]
    exact hp n a ha
  counted := h₂.counted
  next := h₂.next.trans h₁.next

/-- A move keeps the variable sound. -/
theorem Moves.sound (h : Moves v w) (hs : v.Sound) : w.Sound where
  injective hb hb' heq := by
    obtain ⟨a, ha, hpointer, -⟩ := h.survives hb
    obtain ⟨a', ha', hpointer', -⟩ := h.survives hb'
    exact hs.injective ha ha' (by rw [← hpointer, ← hpointer', heq])
  live hb := by
    obtain ⟨a, ha, hpointer, hblock⟩ := h.survives hb
    rw [hpointer, hblock]
    exact hs.live ha
  counted := h.counted

/-- A move leaves an aloof block aloof. -/
theorem Moves.aloof (h : Moves v w) {p : ℕ} {c : ContextBlock} (hp : v.Aloof p c) :
    w.Aloof p c := by
  refine ⟨(h.others p hp.unowned).trans hp.block, fun n b hb => ?_⟩
  obtain ⟨a, ha, hpointer, -⟩ := h.survives hb
  rw [hpointer]
  exact hp.unowned n a ha

/-- The value of the variable does not matter. -/
theorem Moves.of_value (h : Moves v w) (value : ℕ) : Moves v { w with value := value } :=
  ⟨h.survives, h.others, h.counted, h.next⟩

/-- The count of a capsule is its references. -/
theorem refs_of_get (h : v.capsules.get n = some a) : v.refs n = a.refs := by
  rw [refs, h, Option.map_some, Option.getD_some]

/-- A capsule with references exists. -/
theorem get_of_refs (h : 0 < v.refs n) : ∃ a, v.capsules.get n = some a := by
  cases hn : v.capsules.get n with
  | none =>
    rw [refs, hn] at h
    cases h
  | some a => exact ⟨a, rfl⟩

/-- A capsule with references reads as a block. -/
theorem Sound.content (hs : v.Sound) (h : 0 < v.refs n) : ∃ c, v.content n = some c := by
  obtain ⟨a, ha⟩ := get_of_refs h
  obtain ⟨c, hc⟩ := Option.isSome_iff_exists.mp (hs.live ha)
  exact ⟨c, by rw [ContextVar.content, ha, Option.bind_some, hc]⟩

/-- What is still referred to reads as before. -/
theorem Moves.content (h : Moves v w) (hn : 0 < w.refs n) : w.content n = v.content n := by
  obtain ⟨b, hb⟩ := get_of_refs hn
  obtain ⟨a, ha, hpointer, hblock⟩ := h.survives hb
  rw [ContextVar.content, hb, Option.bind_some, ContextVar.content, ha, Option.bind_some, hpointer,
    hblock]

/-! ## One reference -/

/-- The count of one capsule changes. -/
theorem moves_modify {f : Capsule → Capsule} (hs : v.Sound)
    (hpointer : ∀ a, (f a).pointer = a.pointer)
    (hcount : ∀ a, v.capsules.get n = some a → 1 ≤ (f a).refs) :
    Moves v { v with capsules := v.capsules.modify n f } := by
  -- A capsule after it is one of before, with the same block.
  have hback : ∀ {m b}, (v.capsules.modify n f).get m = some b →
      ∃ a, v.capsules.get m = some a ∧ b.pointer = a.pointer ∧ 1 ≤ b.refs := fun {m b} hb => by
    by_cases hm : m = n
    · subst hm
      rw [Cells.get_modify_self] at hb
      obtain ⟨a, ha, rfl⟩ := Option.map_eq_some_iff.mp hb
      exact ⟨a, ha, hpointer a, hcount a ha⟩
    · rw [Cells.get_modify_of_ne hm] at hb
      exact ⟨b, hb, rfl, hs.counted hb⟩
  refine ⟨fun hb => ?_, fun _ _ => rfl, fun hb => ?_, rfl⟩
  · obtain ⟨a, ha, hap, -⟩ := hback hb
    exact ⟨a, ha, hap, rfl⟩
  · obtain ⟨a, -, -, hrefs⟩ := hback hb
    exact hrefs

/-- The count of the capsule itself, and those of the others. -/
theorem refs_modify {f : Capsule → Capsule} (ha : v.capsules.get n = some a) (m : ℕ) :
    refs { v with capsules := v.capsules.modify n f } m =
      if m = n then (f a).refs else v.refs m := by
  by_cases hm : m = n
  · subst hm
    simp [refs, ha]
  · simp [refs, hm, Cells.get_modify_of_ne hm]

/-- **`Py_INCREF`.** -/
theorem incref_spec (hs : v.Sound) (hn : 0 < v.refs n) :
    ∃ w, v.incref n = some w ∧ w.value = v.value ∧
      (∀ m, w.refs m = v.refs m + if m = n then 1 else 0) ∧ Moves v w := by
  obtain ⟨a, ha⟩ := get_of_refs hn
  refine ⟨{ v with capsules := v.capsules.modify n fun c => { c with refs := c.refs + 1 } },
    ?_, rfl,
    fun m => ?_, moves_modify hs (fun _ => rfl) fun _ _ => Nat.le_add_left 1 _⟩
  · simp [incref, ha]
  · rw [refs_modify ha]
    split
    · next hm => rw [hm, refs_of_get ha]
    · rfl

/-- **`Py_DECREF`.** The last reference takes the capsule and its block along. -/
theorem decref_spec (hs : v.Sound) (hn : 0 < v.refs n) :
    ∃ w, v.decref n = some w ∧ w.value = v.value ∧
      (∀ m, w.refs m + (if m = n then 1 else 0) = v.refs m) ∧ Moves v w := by
  obtain ⟨a, ha⟩ := get_of_refs hn
  obtain ⟨c, hc⟩ := Option.isSome_iff_exists.mp (hs.live ha)
  have hrefs := refs_of_get ha
  by_cases hone : a.refs ≤ 1
  · refine ⟨{ v with capsules := v.capsules.destroy n, blocks := v.blocks.destroy a.pointer }, ?_,
      rfl, fun m => ?_, fun {m b} hb => ?_, fun p hp => ?_, fun {m b} hb => ?_, rfl⟩
    · simp [decref, ha, hone, hc]
    · by_cases hm : m = n
      · subst hm
        simp [refs, ha]
        omega
      · simp [refs, hm, Cells.get_destroy_of_ne hm]
    · -- The other capsules have other blocks.
      have hm : m ≠ n := by
        rintro rfl
        simp at hb
      rw [Cells.get_destroy_of_ne hm] at hb
      exact ⟨b, hb, rfl, Cells.get_destroy_of_ne fun heq => hm (hs.injective hb ha heq)⟩
    · exact Cells.get_destroy_of_ne (hp n a ha).symm
    · have hm : m ≠ n := by
        rintro rfl
        simp at hb
      rw [Cells.get_destroy_of_ne hm] at hb
      exact hs.counted hb
  · refine ⟨{ v with capsules := v.capsules.modify n fun c => { c with refs := c.refs - 1 } }, ?_,
      rfl, fun m => ?_, moves_modify hs (fun _ => rfl) fun b hb => ?_⟩
    · simp [decref, ha, hone]
    · rw [refs_modify ha]
      split
      · next hm =>
        subst hm
        change a.refs - 1 + 1 = _
        omega
      · rfl
    · rw [ha] at hb
      cases hb
      change 1 ≤ a.refs - 1
      omega

/-! ## The end of a token -/

/-- **A token of the context resets it.** The context gives up its capsule and takes over the
reference of the token. -/
theorem pop_home (hs : v.Sound) (hvalue : 0 < v.refs v.value) (hold : 0 < v.refs old) :
    ∃ w, v.pop (some ⟨old, false⟩) = some (0, w) ∧ w.value = old ∧
      (∀ m, w.refs m + (if m = v.value then 1 else 0) = v.refs m) ∧ Moves v w := by
  obtain ⟨w₁, h₁, hvalue₁, hrefs₁, hmoves₁⟩ := incref_spec hs hold
  have hs₁ := hmoves₁.sound hs
  have hpos₁ : 0 < w₁.refs v.value := by
    rw [hrefs₁]
    omega
  obtain ⟨w₂, h₂, -, hrefs₂, hmoves₂⟩ := decref_spec hs₁ hpos₁
  -- The token still refers to its capsule, whether the context had the same one or not.
  have hpos₂ : 0 < w₂.refs old := by
    have h := hrefs₂ old
    rw [hrefs₁, if_pos rfl] at h
    split at h <;> omega
  obtain ⟨w₃, h₃, -, hrefs₃, hmoves₃⟩ := decref_spec (v := { w₂ with value := old })
    ((hmoves₂.of_value old).sound hs₁) hpos₂
  refine ⟨{ w₃ with value := old }, ?_, rfl, fun m => ?_,
    ((hmoves₁.trans (hmoves₂.of_value old)).trans hmoves₃).of_value old⟩
  · have hvalue₃ : w₃.value = old := by
      unfold decref at h₃
      obtain ⟨c, -, h₃⟩ := Option.bind_eq_some_iff.mp h₃
      split at h₃
      · obtain ⟨_, -, rfl⟩ := Option.map_eq_some_iff.mp h₃
        rfl
      · cases h₃
        rfl
    simp only [pop, reset, clear, h₁, h₂, h₃, Option.bind_eq_bind, Option.bind_some]
    rw [← hvalue₃]
  · have hm₁ := hrefs₁ m
    have hm₂ := hrefs₂ m
    have hm₃ : w₃.refs m + (if m = old then 1 else 0) = w₂.refs m := hrefs₃ m
    change w₃.refs m + _ = _
    omega

/-- A token of another context is given up. -/
theorem pop_foreign (hs : v.Sound) (hold : 0 < v.refs old) :
    ∃ w, v.pop (some ⟨old, true⟩) = some (-1, w) ∧ w.value = v.value ∧
      (∀ m, w.refs m + (if m = old then 1 else 0) = v.refs m) ∧ Moves v w := by
  obtain ⟨w, hw, hvalue, hrefs, hmoves⟩ := decref_spec hs hold
  exact ⟨w, by simp [pop, reset, clear, hw], hvalue, hrefs, hmoves⟩

end ContextVar

namespace ContextState

/-! ## Entering -/

variable {s t : ContextState} {o pointer : ℕ} {env : ManagerEnv} {ok : Bool}
  {context : ContextBlock} {init : ContextState → Option (Bool × ContextState)}

/-- The end of all enters adds one capsule, or none. -/
theorem enterCapsule_capsules (hs : s.var.Sound) (hlive : (s.var.capsules.get s.var.value).isSome)
    (hnew : s.var.Aloof pointer context)
    (hinit : ∀ var ok t, init { s with var := var } = some (ok, t) → t.var = var)
    (h : s.enterCapsule o pointer init = some (ok, t)) {n : ℕ} (hn : ok = true → n ≠ t.var.value) :
    t.var.capsules.get n = s.var.capsules.get n := by
  obtain ⟨w, hw, hpush⟩ := s.var.push_spec pointer
  obtain ⟨-, v, hv, hpop⟩ := pop_of_pushed hs hlive hnew hpush
  simp only [enterCapsule, hw, Option.bind_eq_bind, Option.bind_some] at h
  obtain ⟨⟨ok', u⟩, hu, h⟩ := Option.bind_eq_some_iff.mp h
  have hvar : u.var = w := hinit w ok' u hu
  split at h
  · cases h
    have hne := hn rfl
    rw [hvar, hpush.value] at hne
    change u.var.capsules.get n = _
    rw [hvar, hpush.others n hne]
  · rw [hvar, hv] at h
    cases h
    change v.capsules.get n = _
    by_cases hnext : n = s.var.capsules.next
    · -- The new capsule is gone again.
      rw [hnext, ← hpush.value, hpop.self, hpush.value, Cells.get_next]
    · rw [hpop.others n (by rwa [hpush.value]), hpush.others n hnext]

/-- So do the enters that clone the current context. -/
theorem enterClone_capsules {change : ContextBlock → ContextBlock} {freed : Bool}
    {current : ContextBlock} (hs : s.var.Sound) (hcurrent : s.var.get = some current)
    (hinit : ∀ var ok t, init { s with var := var } = some (ok, t) → t.var = var)
    (h : s.enterClone o env change freed init = some (ok, t)) {n : ℕ}
    (hn : ok = true → n ≠ t.var.value) : t.var.capsules.get n = s.var.capsules.get n := by
  obtain ⟨a, ha, -⟩ := Option.bind_eq_some_iff.mp hcurrent
  simp only [enterClone, hcurrent, Option.bind_eq_bind, Option.bind_some] at h
  split at h
  · cases h
    rfl
  · split at h
    · cases h
      cases freed <;> rfl
    · refine enterCapsule_capsules (s := { s with var := s.var.malloc (change current) })
        (hs.malloc _) ?_ hs.aloof_malloc hinit h hn
      simp [ContextVar.malloc, ha]

/-- **The capsules of an enter**, whatever the kind of the manager. -/
theorem enter_capsules {current : ContextBlock} (hs : s.var.Sound)
    (hcurrent : s.var.get = some current) (hready : s.Ready o)
    (h : protocol.enter s o env = some (ok, t)) {n : ℕ} (hn : ok = true → n ≠ t.var.value) :
    t.var.capsules.get n = s.var.capsules.get n := by
  have hswitch : ∀ var ok t, { s with var := var }.initBuffers o env = some (ok, t) →
      t.var = var := fun _ _ _ hinit => (initBuffers_switched hinit).1.var
  have hnone : ∀ var ok t, some (true, { s with var := var }) = some (ok, t) → t.var = var := by
    intro var ok t heq
    cases heq
    rfl
  unfold Ready at hready
  simp only [protocol] at h
  split at h <;> rename_i hkind <;> rw [hkind] at hready <;> simp only at hready
  · exact enterClone_capsules hs hcurrent hswitch h hn
  · exact enterClone_capsules hs hcurrent hnone h hn
  · exact enterClone_capsules hs hcurrent hnone h hn
  · obtain ⟨a, ha, -⟩ := Option.bind_eq_some_iff.mp hcurrent
    unfold executionContextCtxEnter at h
    split at h
    · cases h
      rfl
    · exact enterCapsule_capsules hs (by rw [ha]; rfl) hready.2 hswitch h hn

/-! ## Entering where the variable cannot be set -/

section Unset

variable {change : ContextBlock → ContextBlock} {freed : Bool} {current : ContextBlock}

/-- A clone with a capsule is freed twice. -/
theorem cloneUnset_eq_none (hcloned : env.cloned = true) (hcapsule : env.capsule = true) :
    s.cloneUnset env change freed = none := by
  unfold cloneUnset
  cases hcurrent : s.var.get with
  | none => rfl
  | some current =>
    have hblock : ((s.var.malloc (change current)).blocks.get s.var.blocks.next).isSome := by
      simp [ContextVar.malloc]
    obtain ⟨w, hw, -, -, hblocks⟩ := ContextVar.discard_spec hblock
    have hgone : w.free s.var.blocks.next = none := by
      rw [ContextVar.free, hblocks, Cells.get_destroy_self, Option.map_none]
    simp only [Option.bind_eq_bind, Option.bind_some, hcloned, hcapsule, hw, hgone,
      not_true_eq_false, if_false, Option.bind_none]

/-- Without one, the enter ends before the variable is to be set. -/
theorem cloneUnset_eq (h : (env.cloned && env.capsule) = false) :
    s.cloneUnset env change freed = s.enterClone o env change freed init := by
  unfold cloneUnset enterClone
  cases hcloned : env.cloned with
  | false => rfl
  | true =>
    have hcapsule : env.capsule = false := by simpa [hcloned] using h
    simp only [hcapsule, Bool.false_eq_true, not_false_eq_true, if_true]

/-- **An enter whose clone has a capsule** has no defined behaviour. -/
theorem enterUnset_eq_none (h : (s.managers o).clones env = true) : s.enterUnset o env = none := by
  have hboth : ∀ {m : Manager}, m.clones env = true → env.cloned = true ∧ env.capsule = true := by
    intro m hm
    cases m with
    | executionContextCtx => cases hm
    | _ => exact Bool.and_eq_true_iff.mp hm
  obtain ⟨hcloned, hcapsule⟩ := hboth h
  unfold enterUnset
  split
  · exact cloneUnset_eq_none hcloned hcapsule
  · exact cloneUnset_eq_none hcloned hcapsule
  · exact cloneUnset_eq_none hcloned hcapsule
  · next hkind =>
    rw [hkind] at h
    cases h

/-- An enter that makes no capsule ends before the variable is to be set. -/
theorem enterUnset_eq (hclones : (s.managers o).clones env = false)
    (hwraps : (s.managers o).wraps env = false) :
    s.enterUnset o env = protocol.enter s o env := by
  simp only [enterUnset, protocol]
  split <;> rename_i hkind <;> rw [hkind] at hclones hwraps
  · exact cloneUnset_eq hclones
  · exact cloneUnset_eq hclones
  · exact cloneUnset_eq hclones
  · simp only [executionContextCtxUnset, executionContextCtxEnter, show env.capsule =
      false from hwraps,
      Bool.false_eq_true, not_false_eq_true, if_true]

/-- **A manager that brings a block** loses it. -/
theorem enterUnset_entering {p : ℕ} (hs : s.var.Sound)
    (hkind : s.managers o = .executionContextCtx p context) (haloof : s.var.Aloof p context)
    (hcapsule : env.capsule = true) :
    ∃ t, s.enterUnset o env = some (false, t) ∧ Entering s o p context false t ∧
      ∀ n, t.var.capsules.get n = s.var.capsules.get n := by
  have hblock : (s.var.blocks.get p).isSome := by
    rw [haloof.block]
    rfl
  obtain ⟨w, hw, hvalue, hcapsules, hblocks⟩ := ContextVar.discard_spec hblock
  refine ⟨{ s with var := w }, ?_, ?_, hcapsules⟩
  · simp only [enterUnset, hkind, executionContextCtxUnset, hcapsule, not_true_eq_false,
      if_false, hw,
      Option.map_some]
  · have hkept : ∀ n a, s.var.capsules.get n = some a →
        w.blocks.get a.pointer = s.var.blocks.get a.pointer := fun n a ha => by
      rw [hblocks, Cells.get_destroy_of_ne (haloof.unowned n a ha)]
    exact
      { managers := rfl
        tokens := fun _ _ => rfl
        others := fun _ _ => rfl
        payload := .refl _
        sound :=
          { injective := fun ha hb heq => by
              rw [hcapsules] at ha hb
              exact hs.injective ha hb heq
            live := fun ha => by
              rw [hcapsules] at ha
              rw [hkept _ _ ha]
              exact hs.live ha
            counted := fun ha => by
              rw [hcapsules] at ha
              exact hs.counted ha }
        keeps := fun n a ha => ⟨(hcapsules n).trans ha, hkept n a ha⟩
        aloof := fun q c hq hne => by
          refine ⟨?_, fun n a ha => hq.unowned n a (by rw [← hcapsules]; exact ha)⟩
          rw [hblocks, Cells.get_destroy_of_ne hne]
          exact hq.block
        failed := fun _ => ⟨hvalue, rfl⟩
        new := fun h => absurd h (by decide)
        token := fun h => absurd h (by decide)
        capsule := fun h => absurd h (by decide)
        indexed := fun h => absurd h (by decide) }

end Unset

/-! ## Leaving -/

/-- **What an exit does**, whatever becomes of the token: the switch over the mode follows where the
variable was reset. -/
theorem exit_spec {result : ℤ} {w : ContextVar} (hpop : s.var.pop (s.tokens o) = some (result, w))
    (hindexed : 0 ≤ result → s.Indexed o) (env : ManagerEnv) :
    ∃ t, protocol.exit s o env = some t ∧ Switched o { s with
      var := w, tokens := Function.update s.tokens o none } t ∧
      ((∀ payload, s.managers o ≠ .bufferModeCtx payload) → t.payloads = s.payloads) := by
  have hreset : s.resetToken o = some (result, { s with
      var := w, tokens := Function.update s.tokens o none }) := by
    rw [resetToken, hpop, Option.map_some]
  simp only [protocol]
  split
  · next payload hkind =>
    simp only [bufferModeCtxExit, hreset, Option.bind_eq_bind, Option.bind_some]
    split
    · exact ⟨_, rfl, .refl o _, fun _ => rfl⟩
    · next hresult =>
      obtain ⟨b, hb⟩ := closeBuffers_defined (b := ⟨s.payloads o, s.ring, s.registrations⟩)
        (hindexed (Int.not_lt.mp hresult) ⟨payload, hkind⟩) env
      have hclose : ∃ t, closeBuffers { s with
          var := w, tokens := Function.update s.tokens o none } o env = some t := by
        unfold closeBuffers
        rw [hb]
        exact ⟨_, rfl⟩
      obtain ⟨t, ht⟩ := hclose
      exact ⟨t, ht, closeBuffers_switched ht, fun h => absurd hkind (h payload)⟩
  · exact ⟨_, by rw [streamStrategyCtxExit, hreset]; rfl, .refl o _, fun _ => rfl⟩
  · exact ⟨_, by rw [transferModeCtxExit, hreset]; rfl, .refl o _, fun _ => rfl⟩
  · exact ⟨_, by rw [executionContextCtxExit, hreset]; rfl, .refl o _, fun _ => rfl⟩

end ContextState

end Uringio
