import Uringio.Lib.Tally
import Uringio.Tasks.Objects
import Uringio.Tasks.Store

/-!
# What refers to a capsule

A capsule is referred to by the contexts that map the variable to it, and by the tokens of managers
that were entered where it was the value; a token that was overwritten, or whose manager was
deallocated, refers to it for good. `Kept.counted` says that a capsule has as many references as
there are of these. So what a context or a token has was not freed, and every call that keeps to
`Proper` has defined behaviour, in whichever order and in whichever contexts managers are entered
and left.

Beside it the invariant has that each capsule has a block of its own (`Kept.sound`): a block that a
manager brings has no capsule until the manager is entered (`Kept.brings`).
-/

namespace Uringio

open ContextVar (Moves Aloof)
open Tally (tally)

/-- A `BufferModeCtx` of a fixed mode has a pool of indices. -/
def ManagerObject.Indexed (m : ManagerObject) : Prop :=
  (∃ payload, m.manager = .bufferModeCtx payload) → m.payload.mode = .FIXED →
    m.payload.idx_registry.isSome

/-- A call left the manager as it was, but for its token, which it may have given up, and the
buffers of a `BufferModeCtx`. -/
structure ManagerObject.Stays (m m' : ManagerObject) : Prop where
  /-- The manager is of the same kind. -/
  manager : m'.manager = m.manager
  /-- Whether its block has a capsule is the same. -/
  wrapped : m'.wrapped = m.wrapped
  /-- The payload has the same buffers. -/
  same : SamePayload m.payload m'.payload
  /-- That of a manager of another kind is as it was. -/
  payload : (∀ payload, m.manager ≠ .bufferModeCtx payload) → m'.payload = m.payload
  /-- No token is made. -/
  token : m'.token.isSome → m.token.isSome

/-- A manager stays as it is. -/
theorem ManagerObject.Stays.refl (m : ManagerObject) : m.Stays m :=
  ⟨rfl, rfl, .refl _, fun _ => rfl, id⟩

namespace Tasks

/-! ## The references -/

/-- The references to a capsule. -/
def refs (s : Tasks) (n : ℕ) : ℕ := (s.var 0).refs n

/-- The capsule that a token refers to. -/
def held (token : Option TaskToken) : List ℕ := token.toList.map TaskToken.old_value

/-- How often a capsule is referred to: by contexts, by the tokens of managers, and by tokens that
nothing gives up. -/
def holders (s : Tasks) (n : ℕ) : ℕ :=
  tally Option.toList s.values n + tally (fun m => held m.token) s.objects n +
    (s.lost.map TaskToken.old_value).count n

/-- **The invariant.** -/
structure Kept (s : Tasks) : Prop where
  /-- Each capsule has a block of its own. -/
  sound : (s.var 0).Sound
  /-- Each capsule has as many references as it has holders. -/
  counted : ∀ n, s.refs n = s.holders n
  /-- A block that a manager brings has no capsule before it is entered. -/
  brings : ∀ {o : ℕ} {m : ManagerObject} {p context}, s.objects[o]? = some m →
    m.manager = .executionContextCtx p context → m.wrapped = false →
    m.payload.Ready ∧ (s.var 0).Aloof p context
  /-- No two managers bring the same block. -/
  own : ∀ {o o' : ℕ} {m m' : ManagerObject} {p c c'}, s.objects[o]? = some m →
    s.objects[o']? = some m' →
    m.manager = .executionContextCtx p c → m'.manager = .executionContextCtx p c' →
    m.wrapped = false → m'.wrapped = false → o = o'
  /-- A manager of a fixed mode that is entered has a pool of indices. -/
  indexed : ∀ {o : ℕ} {m : ManagerObject}, s.objects[o]? = some m → m.token.isSome → m.Indexed

variable {s s' : Tasks} {c o n value : ℕ} {m : ManagerObject} {token : TaskToken}

/-- A context's value is the entry of its number. -/
theorem value_eq_some_iff : s.value c = some value ↔ s.values[c]? = some (some value) := by
  rw [Tasks.value, Option.join_eq_some_iff]

/-- An object of a number is the entry there that is not freed. -/
theorem object_eq_some_iff : s.object o = some m ↔ s.objects[o]? = some m ∧ m.freed = false := by
  simp [object, Option.filter_eq_some_iff]

/-- Which value a context has does not matter for the soundness of the blocks. -/
theorem sound_var (h : (s.var 0).Sound) (value : ℕ) : (s.var value).Sound :=
  ⟨h.injective, h.live, h.counted⟩

/-- The soundness of the variable depends on its capsules and blocks alone. -/
theorem sound_var' {v : ContextVar} (h : v.Sound) (hcapsules : s.capsules = v.capsules)
    (hblocks : s.blocks = v.blocks) : (s.var 0).Sound := by
  rw [Tasks.var, hcapsules, hblocks]
  exact ⟨h.injective, h.live, h.counted⟩

/-- Which value a context has does not matter for an aloof block. -/
theorem aloof_var {p : ℕ} {context : ContextBlock} (h : (s.var 0).Aloof p context) (value : ℕ) :
    (s.var value).Aloof p context :=
  ⟨h.block, h.unowned⟩

/-- A context refers to its capsule. -/
theorem Kept.pos_value (h : Kept s) (hvalue : s.value c = some value) : 0 < s.refs value := by
  have hpos : 0 < tally Option.toList s.values value :=
    Tally.tally_pos_iff.mpr ⟨_, List.mem_of_getElem? (value_eq_some_iff.mp hvalue), by simp⟩
  rw [h.counted, holders]
  omega

/-- A token refers to its capsule. -/
theorem Kept.pos_token (h : Kept s) (hm : s.objects[o]? = some m) (htoken : m.token = some token) :
    0 < s.refs token.old_value := by
  have hpos : 0 < tally (fun m => held m.token) s.objects token.old_value :=
    Tally.tally_pos_iff.mpr ⟨m, List.mem_of_getElem? hm, by simp [held, htoken]⟩
  rw [h.counted, holders]
  omega

/-- What is referred to reads as a block. -/
theorem Kept.content (h : Kept s) (hn : 0 < s.refs n) : ∃ context, s.content n = some context :=
  h.sound.content hn

/-- The getters of a context read a block. -/
theorem Kept.context (h : Kept s) (hvalue : s.value c = some value) :
    ∃ context, s.context c = some context ∧ s.content value = some context := by
  obtain ⟨context, hcontext⟩ := h.content (h.pos_value hvalue)
  exact ⟨context, by rw [Tasks.context, hvalue, Option.bind_some, hcontext], hcontext⟩

/-- What a call does that makes no capsule and creates no manager. -/
theorem Kept.of_moves (h : Kept s) (hmoves : Moves (s.var 0) (s'.var 0))
    (hcounted : ∀ n, s'.refs n = s'.holders n)
    (hobjects : ∀ (o : ℕ) (m' : ManagerObject), s'.objects[o]? = some m' →
      ∃ m, s.objects[o]? = some m ∧ m.Stays m') :
    Kept s' where
  sound := hmoves.sound h.sound
  counted := hcounted
  brings {o m' p context} hm' hkind hwrapped := by
    obtain ⟨m, hm, hstays⟩ := hobjects o m' hm'
    rw [hstays.manager] at hkind
    obtain ⟨hready, haloof⟩ := h.brings hm hkind (hstays.wrapped ▸ hwrapped)
    rw [hstays.payload (by simp [hkind])]
    exact ⟨hready, hmoves.aloof haloof⟩
  own {o₁ o₂ m₁ m₂ p c c'} hm₁ hm₂ hkind₁ hkind₂ hw₁ hw₂ := by
    obtain ⟨m, hm, hstays⟩ := hobjects o₁ m₁ hm₁
    obtain ⟨m', hm', hstays'⟩ := hobjects o₂ m₂ hm₂
    exact h.own hm hm' (hstays.manager ▸ hkind₁) (hstays'.manager ▸ hkind₂)
      (hstays.wrapped ▸ hw₁) (hstays'.wrapped ▸ hw₂)
  indexed {o m'} hm' htoken := by
    obtain ⟨m, hm, hstays⟩ := hobjects o m' hm'
    have hindexed := h.indexed hm (hstays.token htoken)
    intro hkind hmode
    rw [hstays.manager] at hkind
    exact hstays.same.idx_registry (hindexed hkind (hstays.same.mode.symm.trans hmode))

/-- One manager was changed, and stays. -/
theorem stays_set {m' : ManagerObject} (hm : s.objects[o]? = some m) (hstays : m.Stays m') (o₁ : ℕ)
    (m₁ : ManagerObject) (hm₁ : (s.objects.set o m')[o₁]? = some m₁) :
    ∃ m, s.objects[o₁]? = some m ∧ m.Stays m₁ := by
  rw [List.getElem?_set] at hm₁
  split at hm₁
  · next heq =>
    subst heq
    split at hm₁
    · cases hm₁
      exact ⟨m, hm, hstays⟩
    · cases hm₁
  · exact ⟨m₁, hm₁, .refl _⟩

/-- What a call leaves of the variable. -/
theorem moves_var {w : ContextVar} (h : Moves (s.var value) w)
    (hcapsules : s'.capsules = w.capsules)
    (hblocks : s'.blocks = w.blocks) : Moves (s.var 0) (s'.var 0) := by
  have hvar : s'.var 0 = { w with value := 0 } := by rw [Tasks.var, hcapsules, hblocks]
  rw [hvar]
  exact ⟨h.survives, h.others, h.counted, h.next⟩

/-- An optional reference counts once, for its own value. -/
theorem count_some (x n : ℕ) : (some x).toList.count n = if n = x then 1 else 0 := by
  rw [Option.toList_some, List.count_singleton]
  by_cases hn : n = x
  · simp [hn]
  · simp [hn, Ne.symm hn]

/-- A token counts once, for its own old value. -/
theorem count_held (token : TaskToken) (n : ℕ) :
    (held (some token)).count n = if n = token.old_value then 1 else 0 :=
  count_some token.old_value n

/-- The number of references changes with the value of a context and the token of a manager. -/
theorem holders_set {m' : ManagerObject} {x : Option ℕ} (hvalue : s.value c = some value)
    (hm : s.objects[o]? = some m) (hvalues : s'.values = s.values.set c x)
    (hobjects : s'.objects = s.objects.set o m') (n : ℕ) :
    s'.holders n + (if n = value then 1 else 0) + (held m.token).count n +
        (s.lost.map TaskToken.old_value).count n =
      s.holders n + x.toList.count n + (held m'.token).count n +
        (s'.lost.map TaskToken.old_value).count n := by
  have htally := Tally.tally_set (p := Option.toList) (x := n) (b := x)
    (value_eq_some_iff.mp hvalue)
  have htally' := Tally.tally_set (p := fun m => held m.token) (x := n) (b := m') hm
  rw [count_some] at htally
  rw [holders, holders, hvalues, hobjects]
  omega

/-! ## Leaving -/

/-- The value of the context `c` after an exit of a manager with the token. -/
def restored (token : Option TaskToken) (c value : ℕ) : ℕ :=
  match token with
  | none => value
  | some token => if token.context = c then token.old_value else value

/-- The token resets the variable in the context `c`. -/
def resets (token : Option TaskToken) (c : ℕ) : Bool := token.any (·.context = c)

/-- What an exit of the manager `o` does in the context `c`. -/
structure Exits (s : Tasks) (c o value : ℕ) (m : ManagerObject) (s' : Tasks) : Prop where
  /-- The context gets the value back, if the token is of the context. -/
  values : s'.values = s.values.set c (some (restored m.token c value))
  /-- The token is given up, and the manager stays. -/
  object : ∃ m', s'.objects = s.objects.set o m' ∧ m.Stays m' ∧ m'.freed = m.freed ∧ m'.token = none
  /-- No token is lost. -/
  lost : s'.lost = s.lost
  /-- Only references are given up. -/
  moves : Moves (s.var 0) (s'.var 0)
  /-- What the contexts started with is the same. -/
  base : s'.base = s.base
  /-- A manager whose token resets the context is left. -/
  entered : s'.entered = if resets m.token c then s.entered.modify c (·.erase o) else s.entered

/-- The token of a manager is given up in one of three ways. -/
theorem Kept.pop (h : Kept s) (hvalue : s.value c = some value) (hm : s.objects[o]? = some m) :
    ∃ result w, (s.view c value m).var.pop ((s.view c value m).tokens o) = some (result, w) ∧
      (0 ≤ result ↔ resets m.token c = true) ∧ w.value = restored m.token c value ∧
      Moves (s.var value) w ∧ ∀ n, w.refs n + (if n = value then 1 else 0) +
        (held m.token).count n = s.refs n + if n = restored m.token c value then 1 else 0 := by
  have hs := sound_var h.sound value
  cases htoken : m.token with
  | none =>
    -- A null pointer raises.
    refine ⟨-1, s.var value, ?_, by simp [resets], rfl, hs.moves_refl, fun n => rfl⟩
    simp [view, htoken, ContextVar.pop, ContextVar.reset, ContextVar.clear]
  | some token =>
    have hold : 0 < (s.var value).refs token.old_value := h.pos_token hm htoken
    have htokens : (s.view c value m).tokens o =
        some ⟨token.old_value, decide (token.context ≠ c)⟩ := by
      simp [view, htoken]
    rw [htokens]
    by_cases hhome : token.context = c
    · obtain ⟨w, hw, hnew, hrefs, hmoves⟩ :=
        ContextVar.pop_home hs (h.pos_value hvalue) hold
      have hrestored : restored (some token) c value = token.old_value := by simp [restored, hhome]
      refine ⟨0, w, ?_, by simp [resets, hhome], by rw [hnew, hrestored], hmoves, fun n => ?_⟩
      · rw [← hw, hhome]
        simp [view]
      · have hn : w.refs n + (if n = value then 1 else 0) = s.refs n := hrefs n
        rw [count_held, hrestored, hn]
    · obtain ⟨w, hw, hsame, hrefs, hmoves⟩ := ContextVar.pop_foreign hs hold
      have hrestored : restored (some token) c value = value := by simp [restored, hhome]
      refine ⟨-1, w, ?_, by simp [resets, hhome], by rw [hsame, hrestored]; rfl, hmoves,
        fun n => ?_⟩
      · rw [← hw, show decide (token.context ≠ c) = true by simpa using hhome]
        rfl
      · have hn : w.refs n + (if n = token.old_value then 1 else 0) = s.refs n := hrefs n
        rw [count_held, hrestored]
        omega

/-- **An exit** of a manager that was entered before has defined behaviour, and returns without an
exception if its token is of the context. -/
theorem Kept.exit (h : Kept s) (hvalue : s.value c = some value) (hm : s.object o = some m)
    (hunset : m.unset = false) (env : ManagerEnv) :
    ∃ s', s.exit c o env = some (resets m.token c, s') ∧ Exits s c o value m s' ∧ Kept s' := by
  obtain ⟨hget, -⟩ := object_eq_some_iff.mp hm
  obtain ⟨result, w, hpop, hresult, hnew, hmoves, hrefs⟩ := h.pop hvalue hget
  have hindexed : 0 ≤ result → (s.view c value m).Indexed o := fun hpos => by
    have htoken : m.token.isSome := by
      have hresets := hresult.mp hpos
      cases htoken : m.token with
      | none => simp [resets, htoken] at hresets
      | some _ => rfl
    exact h.indexed hget htoken
  obtain ⟨t, ht, hswitched, hpayload⟩ := ContextState.exit_spec hpop hindexed env
  have hvar : t.var = w := hswitched.var
  have hreset : (s.view c value m).resetToken o = some (result, { s.view c value m with
      var := w, tokens := Function.update (s.view c value m).tokens o none }) := by
    rw [ContextState.resetToken, hpop, Option.map_some]
  have hok : decide (0 ≤ result) = resets m.token c := by
    rw [Bool.eq_iff_iff, decide_eq_true_iff]
    exact hresult
  have hstays : m.Stays { m with token := none, payload := t.payloads o } := by
    refine ⟨rfl, rfl, hswitched.payload, fun hkind => ?_, fun hnone => absurd hnone (by simp)⟩
    exact congrFun (hpayload hkind) o
  obtain ⟨s', hs'⟩ : ∃ s', s' = { s.after t c o { m with token := none } with
    entered := if 0 ≤ result then s.entered.modify c (·.erase o) else s.entered } := ⟨_, rfl⟩
  have hcapsules : s'.capsules = w.capsules := by rw [hs', ← hvar]; rfl
  have hblocks : s'.blocks = w.blocks := by rw [hs', ← hvar]; rfl
  have hobjects : s'.objects = s.objects.set o
      { m with token := none, payload := t.payloads o } := by rw [hs']; rfl
  have hexits : Exits s c o value m s' := by
    refine ⟨?_, ⟨_, hobjects, hstays, rfl, rfl⟩, by rw [hs']; rfl,
      moves_var hmoves hcapsules hblocks,
      by rw [hs']; rfl, ?_⟩
    · rw [hs', ← hnew, ← hvar]
      rfl
    · rw [hs']
      simp only [hresult]
  refine ⟨s', ?_, hexits, h.of_moves hexits.moves (fun n => ?_) ?_⟩
  · simp only [Tasks.exit, hvalue, hm, hreset, ht, Option.bind_eq_bind, Option.bind_some]
    rw [if_neg (by simp [hunset]), hok, hs']
  · -- The reference of the token is the one that the context has now, or it is gone.
    have hholders := holders_set hvalue hget hexits.values hobjects n
    have hcounted := h.counted n
    have hn := hrefs n
    have hrefs' : s'.refs n = w.refs n := by
      rw [Tasks.refs, ContextVar.refs, Tasks.var, hcapsules, ContextVar.refs]
    have hnone : (held none).count n = 0 := rfl
    rw [count_some, hexits.lost, hnone] at hholders
    omega
  · rw [hobjects]
    exact stays_set hget hstays

/-! ## Entering -/

/-- What an enter of the manager `o` does in the context `c`, which reads `current`. -/
structure Enters (s : Tasks) (c o value : ℕ) (m : ManagerObject) (current : ContextBlock)
    (ok : Bool) (s' : Tasks) : Prop where
  /-- An enter that succeeds puts a new capsule with its fields into the context. -/
  values : ∃ new, s'.values = s.values.set c (some new) ∧ (ok = false → new = value) ∧
    (ok = true → s'.content new = some (m.manager.change o current))
  /-- The manager gets a token, and stays. -/
  object : ∃ m', s'.objects = s.objects.set o m' ∧ m'.manager = m.manager ∧ m'.freed = m.freed ∧
    m'.token = if ok then some ⟨c, value⟩ else m.token
  /-- What was referred to reads as before. -/
  content : ∀ n, 0 < s.refs n → s'.content n = s.content n
  /-- The token that is overwritten is lost. -/
  lost : s'.lost = if ok then s.lost ++ m.token.toList else s.lost
  /-- What the contexts started with is the same. -/
  base : s'.base = s.base
  /-- The manager is entered in the context. -/
  entered : s'.entered = if ok then s.entered.modify c (o :: ·) else s.entered

/-- What is left of an enter of the manager `o` that leaves `t` of what it saw. -/
structure AfterEnter (s : Tasks) (c o value : ℕ) (m : ManagerObject) (env : ManagerEnv) (ok : Bool)
    (t : ContextState) (m' : ManagerObject) (s' : Tasks) : Prop where
  /-- The manager is of the same kind. -/
  manager : m'.manager = m.manager
  /-- A capsule was made for the block, now or before. -/
  wrapped : m'.wrapped = (m.wrapped || m.manager.wraps env)
  /-- The payload is as the call left it. -/
  payload : m'.payload = t.payloads o
  /-- The token is that of the context and its old value. -/
  token : m'.token = if ok then some ⟨c, value⟩ else m.token
  /-- It is freed if it was. -/
  freed : m'.freed = m.freed
  /-- The manager is put back. -/
  objects : s'.objects = s.objects.set o m'
  /-- The context has the value that the call left. -/
  values : s'.values = s.values.set c (some t.var.value)
  /-- The capsules are those that the call left. -/
  capsules : s'.capsules = t.var.capsules
  /-- The blocks are those that the call left. -/
  blocks : s'.blocks = t.var.blocks
  /-- The token that is overwritten is lost. -/
  lost : s'.lost = if ok then s.lost ++ m.token.toList else s.lost
  /-- What the contexts started with is the same. -/
  base : s'.base = s.base
  /-- The manager is entered in the context. -/
  entered : s'.entered = if ok then s.entered.modify c (o :: ·) else s.entered

/-- A call of `__aenter__` that returns gives the state that the counting argument is about. -/
theorem afterEnter_of_call {env : ManagerEnv} {set ok : Bool} {t : ContextState}
    (hvalue : s.value c = some value) (hm : s.object o = some m)
    (hcall : s.callEnter c o value m env set = some (ok, t))
    (htoken : ok = true → t.tokens o = some ⟨value, false⟩) :
    ∃ m' s', s.enter c o env set = some (ok, s') ∧ AfterEnter s c o value m env ok t m' s' := by
  simp only [Tasks.enter, hvalue, hm, hcall, Option.bind_eq_bind, Option.bind_some]
  cases ok with
  | true =>
    rw [if_pos rfl]
    refine ⟨{ m with
      payload := t.payloads o
      token := some ⟨c, value⟩
      unset := false
      wrapped := m.wrapped || m.manager.wraps env }, _, rfl, ?_⟩
    constructor <;> simp [after, htoken rfl]
  | false =>
    rw [if_neg Bool.false_ne_true]
    refine ⟨{ m with
      payload := t.payloads o
      wrapped := m.wrapped || m.manager.wraps env }, _, rfl, ?_⟩
    constructor <;> simp [after]

/-- An enter that makes no capsule for the block of its manager leaves everything as it was. -/
theorem enter_of_not_wraps {env : ManagerEnv} {set ok : Bool} {t : ContextState} {p : ℕ}
    {context : ContextBlock} (hkind : m.manager = .executionContextCtx p context)
    (hwraps : m.manager.wraps env = false)
    (hcall : s.callEnter c o value m env set = some (ok, t)) : t = s.view c value m := by
  have hcapsule : env.capsule = false := by
    rw [hkind] at hwraps
    exact hwraps
  have hprotocol : ContextState.protocol.enter (s.view c value m) o env = some (ok, t) := by
    unfold callEnter at hcall
    split at hcall
    · exact hcall
    · rw [ContextState.enterUnset_eq (by simp [view, hkind, Manager.clones])
        (by simp [view, hkind, Manager.wraps, hcapsule])] at hcall
      exact hcall
  simp only [ContextState.protocol, view, hkind, ContextState.executionContextCtxEnter, hcapsule]
    at hprotocol
  cases hprotocol
  simp only [view, hkind]

section AfterEnter

variable {env : ManagerEnv} {set ok : Bool} {t : ContextState} {m' : ManagerObject}
  {current : ContextBlock}

/-- The objects after an enter are those of before. -/
theorem AfterEnter.back (h : AfterEnter s c o value m env ok t m' s') {o₁ : ℕ} {m₁ : ManagerObject}
    (hm₁ : s'.objects[o₁]? = some m₁) :
    (o₁ = o ∧ m₁ = m') ∨ (o₁ ≠ o ∧ s.objects[o₁]? = some m₁) := by
  rw [h.objects, List.getElem?_set] at hm₁
  split at hm₁
  · next heq =>
    split at hm₁
    · exact .inl ⟨heq.symm, (Option.some.inj hm₁).symm⟩
    · cases hm₁
  · next hne => exact .inr ⟨Ne.symm hne, hm₁⟩

/-- An object that has no capsule for its block after an enter had none before. -/
theorem AfterEnter.unwrapped (h : AfterEnter s c o value m env ok t m' s')
    (hm : s.objects[o]? = some m)
    {o₁ : ℕ} {m₁ : ManagerObject} (hm₁ : s'.objects[o₁]? = some m₁)
    (hwrapped : m₁.wrapped = false) :
    ∃ m₀, s.objects[o₁]? = some m₀ ∧ m₀.manager = m₁.manager ∧ m₀.wrapped = false := by
  rcases h.back hm₁ with ⟨rfl, rfl⟩ | ⟨-, hm₁⟩
  · rw [h.wrapped, Bool.or_eq_false_iff] at hwrapped
    exact ⟨m, hm, h.manager.symm, hwrapped.1⟩
  · exact ⟨m₁, hm₁, rfl, hwrapped⟩

/-- The references after an enter. -/
theorem AfterEnter.refs (h : AfterEnter s c o value m env ok t m' s')
    (hentering : ContextState.Entering (s.view c value m) o
      ((s.view c value m).nextBlock o) (m.manager.change o current) ok t)
    (hcapsules : ∀ n, (ok = true → n ≠ t.var.value) →
      t.var.capsules.get n = (s.view c value m).var.capsules.get n) (n : ℕ) :
    s'.refs n = s.refs n + if ok ∧ n = t.var.value then 1 else 0 := by
  have hrefs : s'.refs n = t.var.refs n := by
    rw [Tasks.refs, Tasks.var, h.capsules, ContextVar.refs, ContextVar.refs]
  by_cases hnew : ok = true ∧ n = t.var.value
  · obtain ⟨hok, rfl⟩ := hnew
    obtain ⟨p, hcapsule, -⟩ := hentering.capsule hok
    have hnone : s.refs t.var.value = 0 := by
      have hget : s.capsules.get t.var.value = none := hentering.new hok
      rw [Tasks.refs, ContextVar.refs, Tasks.var, hget]
      rfl
    rw [hrefs, ContextVar.refs_of_get hcapsule, hnone, if_pos ⟨hok, rfl⟩]
  · have hget := hcapsules n fun hok heq => hnew ⟨hok, heq⟩
    rw [hrefs, if_neg hnew, Nat.add_zero, ContextVar.refs, hget]
    rfl

/-- **The invariant after an enter.** -/
theorem Kept.entered (hkept : Kept s) (hvalue : s.value c = some value)
    (hm : s.objects[o]? = some m) (hfresh : m.Fresh)
    (hcall : s.callEnter c o value m env set = some (ok, t))
    (hentering : ContextState.Entering (s.view c value m) o
      ((s.view c value m).nextBlock o) (m.manager.change o current) ok t)
    (hcapsules : ∀ n, (ok = true → n ≠ t.var.value) →
      t.var.capsules.get n = (s.view c value m).var.capsules.get n)
    (h : AfterEnter s c o value m env ok t m' s') : Kept s' := by
  have hstore : s'.var t.var.value = t.var := by rw [Tasks.var, h.capsules, h.blocks]
  refine ⟨sound_var' hentering.sound h.capsules h.blocks, fun n =>
    ?_, fun {o₁ m₁ p context} hm₁ hkind hwrapped => ?_,
    fun {o₁ o₂ m₁ m₂ p c₁ c₂} hm₁ hm₂ hkind₁ hkind₂ hw₁ hw₂ => ?_, fun {o₁ m₁} hm₁ htoken => ?_⟩
  · -- The token takes over the reference of the context, which has one to the new capsule.
    have hrefs := h.refs hentering hcapsules n
    have hholders := holders_set hvalue hm h.values h.objects n
    have hcounted := hkept.counted n
    rw [count_some, h.token, h.lost] at hholders
    cases ok with
    | true =>
      simp only [if_true, count_held, List.map_append, List.count_append,
        true_and] at hholders hrefs
      change _ = _ + _ + _ + (_ + (held m.token).count n) at hholders
      omega
    | false =>
      have hsame : t.var.value = value := (hentering.failed rfl).1
      simp only [Bool.false_eq_true, if_false, false_and, hsame] at hholders hrefs
      omega
  · rcases h.back hm₁ with ⟨rfl, rfl⟩ | ⟨hne, hm₁⟩
    · -- No capsule was made, so that nothing happened.
      rw [h.manager] at hkind
      rw [h.wrapped, Bool.or_eq_false_iff] at hwrapped
      obtain ⟨hready', haloof⟩ := hkept.brings hm hkind hwrapped.1
      have ht := enter_of_not_wraps hkind hwrapped.2 hcall
      rw [h.payload, Tasks.var, h.capsules, h.blocks, ht]
      exact ⟨hready', haloof.block, haloof.unowned⟩
    · obtain ⟨hready', haloof⟩ := hkept.brings hm₁ hkind hwrapped
      refine ⟨hready', ?_⟩
      have haloof' := hentering.aloof p context ⟨haloof.block, haloof.unowned⟩ fun hp => ?_
      · rw [← hstore] at haloof'
        exact ⟨haloof'.block, haloof'.unowned⟩
      · -- The block that is entered is new, or that of the manager.
        unfold ContextState.nextBlock at hp
        split at hp
        · next p' context' hkind' =>
          change m.manager = .executionContextCtx p' context' at hkind'
          unfold ManagerObject.Fresh at hfresh
          rw [hkind'] at hfresh
          subst hp
          exact hne (hkept.own hm₁ hm hkind hkind' hwrapped hfresh)
        · exact Cells.ne_next haloof.block hp
  · obtain ⟨m₁', hm₁', hmanager₁, hw₁'⟩ := h.unwrapped hm hm₁ hw₁
    obtain ⟨m₂', hm₂', hmanager₂, hw₂'⟩ := h.unwrapped hm hm₂ hw₂
    exact hkept.own hm₁' hm₂' (hmanager₁.trans hkind₁) (hmanager₂.trans hkind₂) hw₁' hw₂'
  · rcases h.back hm₁ with ⟨rfl, rfl⟩ | ⟨-, hm₁⟩
    · intro hkind hmode
      rw [h.manager] at hkind
      rw [h.payload] at hmode ⊢
      cases ok with
      | true =>
        refine hentering.indexed rfl ?_ hmode
        rw [hentering.managers]
        exact hkind
      | false =>
        rw [h.token, if_neg Bool.false_ne_true] at htoken
        have hsame : SamePayload m.payload (t.payloads o₁) := hentering.payload
        exact hsame.idx_registry (hkept.indexed hm htoken hkind (hsame.mode.symm.trans hmode))
    · exact hkept.indexed hm₁ htoken

end AfterEnter

/-- The call of an enter of a manager that can be entered: it makes one capsule, or none. -/
theorem Kept.call_enter (h : Kept s) (hvalue : s.value c = some value) (hm : s.objects[o]? = some m)
    (hfresh : m.Fresh) {env : ManagerEnv} {set : Bool}
    (hset : m.manager.clones env = true → set = true) :
    ∃ current ok t, s.context c = some current ∧ s.callEnter c o value m env set = some (ok, t) ∧
      ContextState.Entering (s.view c value m) o ((s.view c value m).nextBlock o)
        (m.manager.change o current) ok t ∧
      ∀ n, (ok = true → n ≠ t.var.value) →
        t.var.capsules.get n = (s.view c value m).var.capsules.get n := by
  obtain ⟨current, hcontext, hcurrent⟩ := h.context hvalue
  have hs : (s.view c value m).var.Sound := sound_var h.sound value
  have hready : (s.view c value m).Ready o := by
    unfold ContextState.Ready
    unfold ManagerObject.Fresh at hfresh
    simp only [view]
    cases hkind : m.manager with
    | bufferModeCtx payload =>
      rw [hkind] at hfresh
      exact hfresh
    | streamStrategyCtx payload => trivial
    | transferModeCtx payload => trivial
    | executionContextCtx p context =>
      rw [hkind] at hfresh
      obtain ⟨hready, haloof⟩ := h.brings hm hkind hfresh
      exact ⟨hready, aloof_var haloof value⟩
  by_cases hprotocol : s.callEnter c o value m env set =
      ContextState.protocol.enter (s.view c value m) o env
  · obtain ⟨ok, t, hcall⟩ := ContextState.enter_defined hs hcurrent hready env
    exact ⟨current, ok, t, hcontext, hprotocol.trans hcall,
      ContextState.enter_entering hs hcurrent hready hcall,
      fun n => ContextState.enter_capsules hs hcurrent hready hcall (n := n)⟩
  · -- The variable cannot be set, and the capsule was made for a block that the manager brings.
    have hunset : set = false := by
      by_contra htrue
      exact hprotocol (if_pos (by simpa using htrue))
    have hclones : m.manager.clones env = false := by
      by_contra htrue
      rw [hset (by simpa using htrue)] at hunset
      cases hunset
    have hcallEnter : s.callEnter c o value m env set = (s.view c value m).enterUnset o env :=
      if_neg (by simp [hunset])
    have hwraps : m.manager.wraps env = true := by
      by_contra hfalse
      refine hprotocol (hcallEnter.trans (ContextState.enterUnset_eq hclones ?_))
      exact Bool.eq_false_iff.mpr hfalse
    cases hkind : m.manager with
    | executionContextCtx p context =>
      rw [hkind] at hwraps
      unfold ContextState.Ready at hready
      have hkind' : (s.view c value m).managers o = .executionContextCtx p context := hkind
      rw [hkind'] at hready
      obtain ⟨t, hcall, hentering, hcapsules⟩ :=
        ContextState.enterUnset_entering hs hkind' hready.2 hwraps
      refine ⟨current, false, t, hcontext, hcallEnter.trans hcall, ?_, fun n _ => hcapsules n⟩
      rw [ContextState.nextBlock, hkind']
      exact hentering
    | bufferModeCtx => rw [hkind] at hwraps; cases hwraps
    | streamStrategyCtx => rw [hkind] at hwraps; cases hwraps
    | transferModeCtx => rw [hkind] at hwraps; cases hwraps

/-- **An enter** of a manager that can be entered has defined behaviour. -/
theorem Kept.enter (h : Kept s) (hvalue : s.value c = some value) (hm : s.object o = some m)
    (hfresh : m.Fresh) {env : ManagerEnv} {set : Bool}
    (hset : m.manager.clones env = true → set = true) :
    ∃ current ok s', s.context c = some current ∧ s.enter c o env set = some (ok, s') ∧
      Enters s c o value m current ok s' ∧ Kept s' := by
  obtain ⟨hget, -⟩ := object_eq_some_iff.mp hm
  obtain ⟨current, ok, t, hcontext, hcall, hentering, hcapsules⟩ :=
    h.call_enter hvalue hget hfresh hset
  obtain ⟨m', s', hrun, hentered⟩ := afterEnter_of_call hvalue hm hcall hentering.token
  have hstore : s'.var t.var.value = t.var := by
    rw [Tasks.var, hentered.capsules, hentered.blocks]
  have hcontent : ∀ n, s'.content n = t.var.content n := fun n => by
    rw [Tasks.content, Tasks.var, hentered.capsules, hentered.blocks]
    rfl
  refine ⟨current, ok, s', hcontext, hrun, ⟨⟨t.var.value, hentered.values, fun hok => ?_,
    fun hok => ?_⟩, ⟨m', hentered.objects, hentered.manager, hentered.freed, hentered.token⟩,
    fun n hn => ?_, hentered.lost, hentered.base, hentered.entered⟩, ?_⟩
  · exact (hentering.failed hok).1
  · obtain ⟨p, hcapsule, hblock⟩ := hentering.capsule hok
    rw [hcontent, ContextVar.content, hcapsule, Option.bind_some, hblock]
  · -- The old capsules are as they were.
    obtain ⟨a, ha⟩ := ContextVar.get_of_refs hn
    obtain ⟨ha', hblock⟩ := hentering.keeps n a ha
    have hold : s.content n = s.blocks.get a.pointer := by
      rw [Tasks.content, ContextVar.get]
      change (s.capsules.get n).bind _ = _
      rw [show s.capsules.get n = some a from ha, Option.bind_some]
      rfl
    rw [hcontent, ContextVar.content, ha', Option.bind_some, hblock, hold]
    rfl
  · exact h.entered hvalue hget hfresh hcall hentering hcapsules hentered

/-! ## The other steps -/

/-- A manager is deallocated: its token, if it has one, is not given up. -/
theorem Kept.dealloc (h : Kept s) (hm : s.object o = some m) :
    ∃ s', s.dealloc o = some s' ∧ s' = { s with
      objects := s.objects.set o { m with token := none, freed := true }
      lost := s.lost ++ m.token.toList } ∧ Kept s' := by
  obtain ⟨hget, -⟩ := object_eq_some_iff.mp hm
  refine ⟨_, by rw [Tasks.dealloc, hm, Option.map_some], rfl, h.of_moves h.sound.moves_refl
    (fun n => ?_) (stays_set hget ⟨rfl, rfl, .refl _, fun _ => rfl, fun hnone => ?_⟩)⟩
  · have htally := Tally.tally_set (p := fun m => held m.token) (x := n)
      (b := { m with token := none, freed := true }) hget
    have hnone : (held none).count n = 0 := rfl
    have hcounted := h.counted n
    rw [hnone] at htally
    rw [holders] at hcounted ⊢
    simp only [List.map_append, List.count_append]
    change s.refs n = _ + _ + (_ + (held m.token).count n)
    omega
  · cases hnone

/-- A context is copied. -/
theorem Kept.copyContext (h : Kept s) (hvalue : s.value c = some value) :
    ∃ s', s.copyContext c = some s' ∧ Moves (s.var 0) (s'.var 0) ∧
      s'.values = s.values ++ [some value] ∧ s'.objects = s.objects ∧ s'.lost = s.lost ∧
      s'.base = s.base ++ [(s.content value).getD .initial] ∧ s'.entered = s.entered ++ [[]] ∧
      Kept s' := by
  obtain ⟨w, hw, -, hrefs, hmoves⟩ :=
    ContextVar.incref_spec (sound_var h.sound value) (h.pos_value hvalue)
  have hmoves' : Moves (s.var 0) (Tasks.var { s with
      values := s.values ++ [some value]
      capsules := w.capsules
      blocks := w.blocks
      base := s.base ++ [(s.content value).getD .initial]
      entered := s.entered ++ [[]] } 0) := moves_var hmoves rfl rfl
  refine ⟨_, by simp only [Tasks.copyContext, hvalue, hw, Option.bind_eq_bind, Option.bind_some],
    hmoves', rfl, rfl, rfl, rfl, rfl, h.of_moves hmoves' (fun n => ?_) fun o m hm =>
      ⟨m, hm, .refl m⟩⟩
  have hcounted := h.counted n
  have hn : w.refs n = s.refs n + if n = value then 1 else 0 := hrefs n
  rw [holders] at hcounted
  change w.refs n = tally Option.toList (s.values ++ [some value]) n +
    tally (fun m => held m.token) s.objects n + (s.lost.map TaskToken.old_value).count n
  rw [Tally.tally_append, Tally.tally_cons, count_some, Tally.tally_nil]
  omega

/-- The last reference to a context goes. -/
theorem Kept.dropContext (h : Kept s) (hvalue : s.value c = some value) :
    ∃ s', s.dropContext c = some s' ∧ Moves (s.var 0) (s'.var 0) ∧
      s'.values = s.values.set c none ∧ s'.objects = s.objects ∧ s'.lost = s.lost ∧
      s'.base = s.base ∧ s'.entered = s.entered ∧ Kept s' := by
  obtain ⟨w, hw, -, hrefs, hmoves⟩ :=
    ContextVar.decref_spec (sound_var h.sound value) (h.pos_value hvalue)
  have hmoves' : Moves (s.var 0) (Tasks.var { s with
      values := s.values.set c none
      capsules := w.capsules
      blocks := w.blocks } 0) := moves_var hmoves rfl rfl
  refine ⟨_, by simp only [Tasks.dropContext, hvalue, hw, Option.bind_eq_bind, Option.bind_some],
    hmoves', rfl, rfl, rfl, rfl, rfl, h.of_moves hmoves' (fun n => ?_) fun o m hm =>
      ⟨m, hm, .refl m⟩⟩
  have htally := Tally.tally_set (p := Option.toList) (x := n) (b := none)
    (value_eq_some_iff.mp hvalue)
  have hcounted := h.counted n
  have hn : w.refs n + (if n = value then 1 else 0) = s.refs n := hrefs n
  have hnone : (none : Option ℕ).toList.count n = 0 := rfl
  rw [count_some, hnone] at htally
  rw [holders] at hcounted
  change w.refs n = tally Option.toList (s.values.set c none) n +
    tally (fun m => held m.token) s.objects n + (s.lost.map TaskToken.old_value).count n
  omega

end Tasks

end Uringio
