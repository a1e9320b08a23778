import Uringio.Lib.Scopes
import Uringio.Tasks.Creation

/-!
# What a task reads

Capsules, reference counts and blocks can be left out of the account: the managers do what tokens do
that hold the fields themselves. `Tasks.scopes` puts into the place of each capsule what it reads,
and each step is then one of `Scopes.step`, or none (`follows_of_run`). So what a context reads is
changed by no step in another context; an exit in the context of its token gives back the fields
that were current at its enter, whatever was entered and left in between, and in another context it
raises and changes nothing.

Where each task leaves its managers in the reverse order, the scopes of the tasks are those of their
`with` statements (`scoped_of_nested`): what an operation reads is set, field by field, by the
innermost manager of its own task that sets the field, or else it is what the creator of the task
read when it created the task.
-/

namespace Uringio

open Transition (Run exec)

namespace Tasks

/-- A function of the elements after a change of one. -/
theorem map_modify_comm {α β : Type} {f : α → β} {g : α → α} {g' : β → β}
    (h : ∀ a, f (g a) = g' (f a)) (l : List α) (i : ℕ) :
    (l.modify i g).map f = (l.map f).modify i g' := by
  refine List.ext_getElem? fun j => ?_
  rw [List.getElem?_map, List.getElem?_modify, List.getElem?_modify, List.getElem?_map]
  cases l[j]? with
  | none => rfl
  | some a =>
    by_cases hij : i = j
    · simp [hij, h a]
    · simp [hij]

/-- An assignment of the element that is there. -/
theorem set_of_getElem? {α : Type} {l : List α} {i : ℕ} {a : α} (h : l[i]? = some a) :
    l.set i a = l := by
  obtain ⟨hlt, rfl⟩ := List.getElem?_eq_some_iff.mp h
  exact List.set_getElem_self hlt

/-- What the manager `o` makes of the fields of a context. -/
def change (s : Tasks) (o : ℕ) : ContextBlock → ContextBlock :=
  match s.objects[o]? with
  | some m => m.manager.change o
  | none => id

/-- The token of the manager `o`, with the fields of its capsule. -/
def scopeToken (s : Tasks) (o : ℕ) : Option (Scopes.Token ContextBlock) :=
  (s.objects[o]?.bind ManagerObject.token).bind fun token =>
    (s.content token.old_value).map fun old => ⟨token.context, old⟩

/-- The contexts and the tokens, with what the capsules read in their place. -/
def scopes (s : Tasks) : Scopes.State ContextBlock where
  current := s.values.map fun value => value.bind s.content
  tokens := s.scopeToken
  base := s.base
  entered := s.entered.map fun os => os.map fun o => ⟨o, s.change o⟩

/-- What a step is to the contexts and the tokens. An enter that fails is nothing to them, and so
are a creation and a read. -/
def observed (s : Tasks) : Label → Option (Scopes.Label ContextBlock)
  | .enter c o env set =>
    if (s.enter c o env set).any Prod.fst then some (.enter c o (s.change o)) else none
  | .exit c o _ => some (.exit c o)
  | .dealloc o => some (.forget o)
  | .copyContext c => some (.copy c)
  | .dropContext c => some (.drop c)
  | .bufferMode _ _ => none
  | .streamStrategy _ _ => none
  | .transferMode _ _ => none
  | .executionContext _ _ => none
  | .getters _ => none

/-- The step from `s` to `s'` is to the contexts and the tokens what `observed` says. -/
def Follows (s : Tasks) (lab : Label) (s' : Tasks) : Prop :=
  match s.observed lab with
  | some step => Scopes.step s.scopes step = some s'.scopes
  | none => s'.scopes = s.scopes

/-- The managers that are entered exist. -/
def Listed (s : Tasks) : Prop := ∀ os ∈ s.entered, ∀ o ∈ os, o < s.objects.length

variable {s s' : Tasks} {c o value : ℕ} {m m' : ManagerObject} {token : TaskToken} {x : Option ℕ}

/-! ## The parts of the abstraction -/

/-- A context's scope has the context's value. -/
theorem value_scopes (s : Tasks) (c : ℕ) : s.scopes.value c = s.context c := by
  rw [Scopes.State.value, Tasks.context, Tasks.value]
  simp only [scopes, List.getElem?_map]
  cases s.values[c]? <;> rfl

/-- A context gets another value. -/
theorem current_set (hvalues : s'.values = s.values.set c x)
    (hcontent : ∀ d v, d ≠ c → s.value d = some v → s'.content v = s.content v) :
    s'.scopes.current = s.scopes.current.set c (x.bind s'.content) := by
  simp only [scopes, hvalues, List.map_set]
  refine List.ext_getElem? fun d => ?_
  rw [List.getElem?_set, List.getElem?_set, List.length_map, List.length_map]
  split
  · rfl
  · next hne =>
    rw [List.getElem?_map, List.getElem?_map]
    cases hd : s.values[d]? with
    | none => rfl
    | some v =>
      cases v with
      | none => rfl
      | some v => simp [hcontent d v (Ne.symm hne) (value_eq_some_iff.mpr hd)]

/-- The values of the contexts read as before. -/
theorem current_same (hvalues : s'.values = s.values)
    (hcontent : ∀ d v, s.value d = some v → s'.content v = s.content v) :
    s'.scopes.current = s.scopes.current := by
  simp only [scopes, hvalues]
  refine List.ext_getElem? fun d => ?_
  rw [List.getElem?_map, List.getElem?_map]
  cases hd : s.values[d]? with
  | none => rfl
  | some v =>
    cases v with
    | none => rfl
    | some v => simp [hcontent d v (value_eq_some_iff.mpr hd)]

/-- A manager gets another token. -/
theorem tokens_set (hm : s.objects[o]? = some m) (hobjects : s'.objects = s.objects.set o m')
    (hcontent : ∀ (o' : ℕ) (m₁ : ManagerObject) (token : TaskToken), o' ≠ o →
      s.objects[o']? = some m₁ → m₁.token = some token →
      s'.content token.old_value = s.content token.old_value) :
    s'.scopes.tokens = Function.update s.scopes.tokens o (m'.token.bind fun token =>
      (s'.content token.old_value).map fun old => ⟨token.context, old⟩) := by
  have hlt := (List.getElem?_eq_some_iff.mp hm).1
  funext o'
  by_cases ho : o' = o
  · subst ho
    simp [scopes, scopeToken, hobjects, hlt]
  · rw [Function.update_of_ne ho]
    simp only [scopes, scopeToken, hobjects, List.getElem?_set_ne (Ne.symm ho)]
    cases hget : s.objects[o']? with
    | none => rfl
    | some m₁ =>
      cases htoken : m₁.token with
      | none => simp [htoken]
      | some token => simp [htoken, hcontent o' m₁ token ho hget htoken]

/-- The tokens read as before. -/
theorem tokens_same (hobjects : ∀ o : ℕ, s'.objects[o]?.bind ManagerObject.token =
      s.objects[o]?.bind ManagerObject.token)
    (hcontent : ∀ (o : ℕ) (m₁ : ManagerObject) (token : TaskToken), s.objects[o]? = some m₁ →
      m₁.token = some token → s'.content token.old_value = s.content token.old_value) :
    s'.scopes.tokens = s.scopes.tokens := by
  funext o
  simp only [scopes, scopeToken]
  rw [hobjects]
  cases hget : s.objects[o]? with
  | none => rfl
  | some m₁ =>
    cases htoken : m₁.token with
    | none => simp [htoken]
    | some token => simp [htoken, hcontent o m₁ token hget htoken]

/-- The managers make of a context what they made of it. -/
theorem change_set (hm : s.objects[o]? = some m) (hobjects : s'.objects = s.objects.set o m')
    (hmanager : m'.manager = m.manager) : s'.change = s.change := by
  have hlt := (List.getElem?_eq_some_iff.mp hm).1
  funext o'
  by_cases ho : o' = o
  · subst ho
    have hget : s'.objects[o']? = some m' := by
      rw [hobjects, List.getElem?_set_self hlt]
    simp only [change, hget, hm, hmanager]
  · simp [change, hobjects, List.getElem?_set_ne (Ne.symm ho)]

/-! ## Every step -/

/-- The scopes depend on what was entered and on the changes. -/
theorem scopes_entered (hentered : s'.entered = s.entered) (hchange : s'.change = s.change) :
    s'.scopes.entered = s.scopes.entered := by
  simp only [scopes, hentered, hchange]

/-- An enter. -/
theorem Enters.follows {current : ContextBlock} {ok : Bool} (h : Enters s c o value m current ok s')
    (hkept : Kept s) (hvalue : s.value c = some value) (hm : s.objects[o]? = some m)
    (hcurrent : s.context c = some current) :
    if ok then Scopes.step s.scopes (.enter c o (s.change o)) = some s'.scopes
    else s'.scopes = s.scopes := by
  obtain ⟨new, hvalues, hsame, hnew⟩ := h.values
  obtain ⟨m', hobjects, hmanager, -, htoken⟩ := h.object
  have hcontent : ∀ d v, d ≠ c → s.value d = some v → s'.content v = s.content v :=
    fun d v _ hd => h.content v (hkept.pos_value hd)
  have hcurrent' := current_set hvalues hcontent
  have htokens := tokens_set hm hobjects fun o' m₁ token _ hm₁ htoken₁ =>
    h.content _ (hkept.pos_token hm₁ htoken₁)
  have hchange := change_set hm hobjects hmanager
  have hread : s.content value = some current := by
    rw [Tasks.context, hvalue, Option.bind_some] at hcurrent
    exact hcurrent
  have hkeep : s'.content value = some current := by
    rw [h.content value (hkept.pos_value hvalue), hread]
  cases ok with
  | true =>
    rw [if_pos rfl]
    simp only [Scopes.step, value_scopes, hcurrent, Option.map_some, Option.some.injEq]
    refine Scopes.State.ext ?_ ?_ ?_ ?_
    · rw [hcurrent', Option.bind_some, hnew rfl, change, hm]
    · rw [htokens, htoken, if_pos rfl, Option.bind_some, hkeep]
      rfl
    · exact h.base.symm
    · simp only [scopes, hchange, h.entered, if_true]
      refine (map_modify_comm (fun os => ?_) s.entered c).symm
      rfl
  | false =>
    rw [if_neg Bool.false_ne_true]
    refine Scopes.State.ext ?_ ?_ h.base (scopes_entered (by simpa using h.entered) hchange)
    · rw [hcurrent', hsame rfl, Option.bind_some, hkeep]
      refine set_of_getElem? (Scopes.value_eq_some_iff.mp ?_)
      rw [value_scopes, hcurrent]
    · rw [htokens, htoken, if_neg Bool.false_ne_true]
      refine Function.update_eq_iff.mpr ⟨?_, fun _ _ => rfl⟩
      simp only [scopes, scopeToken, hm, Option.bind_some]
      cases htoken₀ : m.token with
      | none => rfl
      | some token =>
        rw [Option.bind_some, Option.bind_some, h.content _ (hkept.pos_token hm htoken₀)]

/-- An exit. -/
theorem Exits.follows (h : Exits s c o value m s') (hkept : Kept s) (hkept' : Kept s')
    (hvalue : s.value c = some value) (hm : s.objects[o]? = some m) :
    Scopes.step s.scopes (.exit c o) = some s'.scopes := by
  obtain ⟨m', hobjects, hstays, -, htoken⟩ := h.object
  obtain ⟨current, hcurrent, hread⟩ := hkept.context hvalue
  have hmoved : ∀ n, 0 < s'.refs n → s'.content n = s.content n := fun n hn => h.moves.content hn
  have hlt := (List.getElem?_eq_some_iff.mp (value_eq_some_iff.mp hvalue)).1
  have hcontent : ∀ d v, d ≠ c → s.value d = some v → s'.content v = s.content v := by
    intro d v hd hvalue'
    refine hmoved v (hkept'.pos_value (c := d) (value_eq_some_iff.mpr ?_))
    rw [h.values, List.getElem?_set_ne (Ne.symm hd), value_eq_some_iff.mp hvalue']
  have hnew : s'.value c = some (restored m.token c value) := by
    rw [value_eq_some_iff, h.values, List.getElem?_set_self hlt]
  have hrestored := hmoved _ (hkept'.pos_value hnew)
  have hcurrent' := current_set h.values hcontent
  have htokens := tokens_set hm hobjects fun o' m₁ token ho hm₁ htoken₁ => by
    refine hmoved _ (hkept'.pos_token (o := o') (m := m₁) ?_ htoken₁)
    rw [hobjects, List.getElem?_set_ne (Ne.symm ho), hm₁]
  have hchange := change_set hm hobjects hstays.manager
  rw [Option.bind_some, hrestored] at hcurrent'
  rw [htoken, Option.bind_none] at htokens
  simp only [Scopes.step, value_scopes, hcurrent, Option.map_some, Option.some.injEq]
  have hscope : s.scopes.tokens o = s.scopeToken o := rfl
  have hsame : s.scopes.current.set c (some current) = s.scopes.current := by
    refine set_of_getElem? (Scopes.value_eq_some_iff.mp ?_)
    rw [value_scopes, hcurrent]
  unfold Scopes.State.exit
  cases htoken₀ : m.token with
  | none =>
    -- There was no token, and nothing changes.
    have hnone : s.scopes.tokens o = none := by
      rw [hscope, scopeToken, hm, Option.bind_some, htoken₀, Option.bind_none]
    rw [hnone]
    refine Scopes.State.ext ?_ ?_ h.base.symm (scopes_entered ?_ hchange).symm
    · rw [hcurrent', htoken₀, restored, hread]
      exact hsame.symm
    · exact (htokens.trans (Function.update_eq_iff.mpr ⟨hnone.symm, fun _ _ => rfl⟩)).symm
    · rw [h.entered, htoken₀]
      rfl
  | some token =>
    obtain ⟨old, hold⟩ := hkept.content (hkept.pos_token hm htoken₀)
    have hsome : s.scopes.tokens o = some ⟨token.context, old⟩ := by
      rw [hscope, scopeToken, hm, Option.bind_some, htoken₀, Option.bind_some, hold]
      rfl
    rw [hsome]
    simp only
    by_cases hhome : token.context = c
    · rw [if_pos hhome]
      refine Scopes.State.ext ?_ htokens.symm h.base.symm ?_
      · rw [hcurrent', htoken₀, restored, if_pos hhome, hold]
      · simp only [scopes, hchange, h.entered, htoken₀, resets, Option.any_some, hhome,
          decide_true, if_true]
        refine (map_modify_comm (fun os => ?_) s.entered c).symm
        rw [List.eraseP_map, List.erase_eq_eraseP']
        congr 1
    · rw [if_neg hhome]
      refine Scopes.State.ext ?_ htokens.symm h.base.symm (scopes_entered ?_ hchange).symm
      · rw [hcurrent', htoken₀, restored, if_neg hhome, hread]
        exact hsame.symm
      · rw [h.entered, htoken₀]
        simp [resets, hhome]

/-- A manager that is deallocated. -/
theorem dealloc_follows (hm : s.objects[o]? = some m) (hs' : s' = { s with
      objects := s.objects.set o { m with token := none, freed := true }
      lost := s.lost ++ m.token.toList }) :
    Scopes.step s.scopes (.forget o) = some s'.scopes := by
  have hobjects : s'.objects = s.objects.set o { m with token := none, freed := true } := by
    rw [hs']
  have htokens := tokens_set hm hobjects fun _ _ _ _ _ _ => by rw [hs']; rfl
  have hchange := change_set hm hobjects rfl
  refine congrArg some (Scopes.State.ext ?_ htokens.symm ?_ (scopes_entered ?_ hchange).symm)
  · exact (current_same (by rw [hs']) fun _ _ _ => by rw [hs']; rfl).symm
  · rw [hs']
    rfl
  · rw [hs']

/-- A context that is copied. -/
theorem copyContext_follows (hkept : Kept s) (hvalue : s.value c = some value)
    (hmoves : ContextVar.Moves (s.var 0) (s'.var 0))
    (hvalues : s'.values = s.values ++ [some value])
    (hobjects : s'.objects = s.objects)
    (hbase : s'.base = s.base ++ [(s.content value).getD .initial])
    (hentered : s'.entered = s.entered ++ [[]]) (hkept' : Kept s') :
    Scopes.step s.scopes (.copy c) = some s'.scopes := by
  obtain ⟨current, hcurrent, hread⟩ := hkept.context hvalue
  have hcontent : ∀ d v, s'.value d = some v → s'.content v = s.content v :=
    fun d v hd => hmoves.content (hkept'.pos_value hd)
  have hold : ∀ d v, s.value d = some v → s'.content v = s.content v := fun d v hd => by
    have hget := value_eq_some_iff.mp hd
    refine hcontent d v (value_eq_some_iff.mpr ?_)
    rw [hvalues, List.getElem?_append_left (List.getElem?_eq_some_iff.mp hget).1, hget]
  have htokens : s'.scopes.tokens = s.scopes.tokens :=
    tokens_same (fun o => by rw [hobjects]) fun o m₁ token hm₁ htoken =>
      hmoves.content (hkept'.pos_token (o := o) (m := m₁) (by rw [hobjects, hm₁]) htoken)
  have hchange : s'.change = s.change := by
    funext o
    rw [change, change, hobjects]
  have hmap : s.values.map (fun v => v.bind s'.content) =
      s.values.map fun v => v.bind s.content := by
    refine List.map_congr_left fun v hv => ?_
    cases v with
    | none => rfl
    | some v =>
      obtain ⟨d, hd⟩ := List.mem_iff_getElem?.mp hv
      exact hold d v (value_eq_some_iff.mpr hd)
  simp only [Scopes.step, value_scopes, hcurrent, Option.map_some, Option.some.injEq]
  refine Scopes.State.ext ?_ htokens.symm ?_ ?_
  · simp only [scopes, hvalues, List.map_append, hmap, List.map_singleton, Option.bind_some,
      hold c value hvalue, hread]
  · simp only [scopes, hbase, hread, Option.getD_some]
  · simp only [scopes, hentered, hchange, List.map_append, List.map_singleton, List.map_nil]

/-- A context that goes. -/
theorem dropContext_follows (hmoves : ContextVar.Moves (s.var 0) (s'.var 0))
    (hvalues : s'.values = s.values.set c none) (hobjects : s'.objects = s.objects)
    (hbase : s'.base = s.base) (hentered : s'.entered = s.entered) (hkept' : Kept s') :
    Scopes.step s.scopes (.drop c) = some s'.scopes := by
  have hcontent : ∀ d v, d ≠ c → s.value d = some v → s'.content v = s.content v := by
    intro d v hd hvalue
    have hvalue' : s'.value d = some v := by
      rw [value_eq_some_iff, hvalues, List.getElem?_set_ne (Ne.symm hd),
        value_eq_some_iff.mp hvalue]
    exact hmoves.content (hkept'.pos_value hvalue')
  have htokens : s'.scopes.tokens = s.scopes.tokens :=
    tokens_same (fun o => by rw [hobjects]) fun o m₁ token hm₁ htoken =>
      hmoves.content (hkept'.pos_token (o := o) (m := m₁) (by rw [hobjects, hm₁]) htoken)
  have hchange : s'.change = s.change := by
    funext o
    rw [change, change, hobjects]
  exact congrArg some (Scopes.State.ext (current_set hvalues hcontent).symm htokens.symm hbase.symm
    (scopes_entered hentered hchange).symm)

/-- A manager that is created. -/
theorem Creates.follows (h : s.Creates s') (hkept : Kept s) (hlisted : Listed s) :
    s'.scopes = s.scopes := by
  -- All that is new is an object without a token, and perhaps a block.
  obtain ⟨m, hobjects, htoken⟩ : ∃ m, s'.objects = s.objects ++ [m] ∧ m.token = none := by
    cases h <;> exact ⟨_, rfl, rfl⟩
  have hsame : s'.values = s.values ∧ s'.base = s.base ∧ s'.entered = s.entered := by
    cases h <;> exact ⟨rfl, rfl, rfl⟩
  have hcontent : ∀ n, 0 < s.refs n → s'.content n = s.content n := by
    intro n hn
    cases h with
    | object payload unset hkind => rfl
    | context context hready =>
      obtain ⟨c, hc⟩ := hkept.content hn
      rw [hc]
      exact (ContextVar.keeps_malloc (sound_var hkept.sound n) context).get_eq rfl hc
  obtain ⟨hvalues, hbase, hentered⟩ := hsame
  refine Scopes.State.ext ?_ ?_ hbase ?_
  · exact current_same hvalues fun d v hd => hcontent v (hkept.pos_value hd)
  · refine tokens_same (fun o => ?_) fun o m₁ token hm₁ htoken₁ =>
      hcontent _ (hkept.pos_token hm₁ htoken₁)
    rw [hobjects, List.getElem?_append]
    split
    · rfl
    · next hlt =>
      rw [List.getElem?_eq_none (Nat.not_lt.mp hlt), List.getElem?_singleton]
      split
      · exact htoken
      · rfl
  · -- The managers that are entered are among those of before.
    simp only [scopes, hentered]
    refine List.map_congr_left fun os hos => List.map_congr_left fun o ho => ?_
    have hlt := hlisted os hos o ho
    rw [change, change, hobjects, List.getElem?_append_left hlt]

/-! ## Every run -/

/-- What is known of the states of a run. -/
structure Ordered (s : Tasks) : Prop where
  /-- The references are kept. -/
  kept : Kept s
  /-- The managers that are entered exist. -/
  listed : Listed s

/-- A change of one context's list keeps the objects listed. -/
theorem Listed.modify {s' : Tasks} {f : List ℕ → List ℕ} (h : Listed s)
    (hlength : s.objects.length ≤ s'.objects.length) (hentered : s'.entered = s.entered.modify c f)
    (hf : ∀ os, ∀ o ∈ f os, o ∈ os ∨ o < s.objects.length) : Listed s' := by
  intro os hos o ho
  rw [hentered] at hos
  obtain ⟨d, hd⟩ := List.mem_iff_getElem?.mp hos
  rw [List.getElem?_modify] at hd
  obtain ⟨os₀, hos₀, heq⟩ := Option.map_eq_some_iff.mp hd
  have hmem := List.mem_of_getElem? hos₀
  refine Nat.lt_of_lt_of_le ?_ hlength
  split at heq
  · subst heq
    rcases hf os₀ o ho with hold | hlt
    · exact h os₀ hmem o hold
    · exact hlt
  · subst heq
    exact h _ hmem o ho

/-- A creation. -/
theorem Ordered.created (h : Ordered s) {lab : Label} {creation : Creation Tasks}
    (hends : Creation.Ends creation s.Creates) (hobserved : s.observed lab = none) :
    ∃ s', s.created creation = some s' ∧ s.Follows lab s' ∧ Ordered s' := by
  obtain ⟨s', hrun, rfl | hcreates⟩ := created_of_ends hends
  · refine ⟨_, hrun, ?_, h⟩
    rw [Follows, hobserved]
  · refine ⟨s', hrun, ?_, h.kept.creates hcreates, fun os hos o ho => ?_⟩
    · rw [Follows, hobserved]
      exact hcreates.follows h.kept h.listed
    · have hgrows : s'.entered = s.entered ∧ s.objects.length ≤ s'.objects.length := by
        cases hcreates <;> exact ⟨rfl, by simp [newObject]⟩
      exact Nat.lt_of_lt_of_le (h.listed os (hgrows.1 ▸ hos) o ho) hgrows.2

/-- **Step.** A step that keeps to `Proper` has defined behaviour, is to the contexts and the tokens
what `observed` says, and keeps the invariant. -/
theorem Ordered.step (h : Ordered s) {lab : Label} (hen : s.Enabled lab) (hproper : s.Proper lab) :
    ∃ s', s.step lab = some s' ∧ s.Follows lab s' ∧ Ordered s' := by
  cases lab with
  | bufferMode args env => exact h.created (creates_bufferMode hproper) rfl
  | streamStrategy args env => exact h.created creates_streamStrategy rfl
  | transferMode args env => exact h.created creates_transferMode rfl
  | executionContext args env => exact h.created (creates_executionContext hproper) rfl
  | enter c o env set =>
    obtain ⟨value, hvalue⟩ := Option.isSome_iff_exists.mp hen.1
    obtain ⟨m, hm⟩ := Option.isSome_iff_exists.mp hen.2
    obtain ⟨hget, -⟩ := object_eq_some_iff.mp hm
    obtain ⟨current, ok, s', hcurrent, hrun, henters, hkept⟩ :=
      h.kept.enter hvalue hm (hproper m hm).1 (hproper m hm).2
    have hfollows := henters.follows h.kept hvalue hget hcurrent
    obtain ⟨m', hobjects, -⟩ := henters.object
    have hlength : s.objects.length ≤ s'.objects.length := by rw [hobjects, List.length_set]
    refine ⟨s', by rw [Tasks.step, hrun, Option.map_some], ?_, hkept, ?_⟩
    · rw [Follows, observed, hrun, Option.any_some]
      cases ok with
      | true => exact hfollows
      | false => exact hfollows
    · cases ok with
      | true =>
        refine h.listed.modify hlength (by simpa using henters.entered) fun os o' ho' => ?_
        rcases List.mem_cons.mp ho' with rfl | hold
        · exact .inr (List.getElem?_eq_some_iff.mp hget).1
        · exact .inl hold
      | false =>
        refine fun os hos o' ho' => Nat.lt_of_lt_of_le (h.listed os ?_ o' ho') hlength
        rwa [henters.entered, if_neg Bool.false_ne_true] at hos
  | exit c o env =>
    obtain ⟨value, hvalue⟩ := Option.isSome_iff_exists.mp hen.1
    obtain ⟨m, hm⟩ := Option.isSome_iff_exists.mp hen.2
    obtain ⟨hget, -⟩ := object_eq_some_iff.mp hm
    obtain ⟨s', hrun, hexits, hkept⟩ := h.kept.exit hvalue hm (hproper m hm) env
    obtain ⟨m', hobjects, -⟩ := hexits.object
    have hlength : s.objects.length ≤ s'.objects.length := by rw [hobjects, List.length_set]
    refine ⟨s', by rw [Tasks.step, hrun, Option.map_some],
      hexits.follows h.kept hkept hvalue hget, hkept, ?_⟩
    by_cases hresets : resets m.token c = true
    · refine h.listed.modify hlength (by rw [hexits.entered, if_pos hresets]) fun os o' ho' => ?_
      exact .inl (List.mem_of_mem_erase ho')
    · refine fun os hos o' ho' => Nat.lt_of_lt_of_le (h.listed os ?_ o' ho') hlength
      rwa [hexits.entered, if_neg hresets] at hos
  | dealloc o =>
    obtain ⟨m, hm⟩ := Option.isSome_iff_exists.mp hen
    obtain ⟨s', hrun, hs', hkept⟩ := h.kept.dealloc hm
    refine ⟨s', hrun, dealloc_follows (object_eq_some_iff.mp hm).1 hs', hkept, ?_⟩
    intro os hos o' ho'
    rw [hs'] at hos ⊢
    simpa using h.listed os hos o' ho'
  | copyContext c =>
    obtain ⟨value, hvalue⟩ := Option.isSome_iff_exists.mp hen
    obtain ⟨s', hrun, hmoves, hvalues, hobjects, -, hbase, hentered, hkept⟩ :=
      h.kept.copyContext hvalue
    refine ⟨s', hrun,
      copyContext_follows h.kept hvalue hmoves hvalues hobjects hbase hentered hkept, hkept,
      fun os hos o ho => ?_⟩
    rw [hentered] at hos
    rw [hobjects]
    rcases List.mem_append.mp hos with hold | hnew
    · exact h.listed os hold o ho
    · rw [List.mem_singleton.mp hnew] at ho
      cases ho
  | dropContext c =>
    obtain ⟨value, hvalue⟩ := Option.isSome_iff_exists.mp hen.1
    obtain ⟨s', hrun, hmoves, hvalues, hobjects, -, hbase, hentered, hkept⟩ :=
      h.kept.dropContext hvalue
    refine ⟨s', hrun, dropContext_follows hmoves hvalues hobjects hbase hentered hkept, hkept,
      fun os hos o ho => ?_⟩
    rw [hobjects]
    exact h.listed os (hentered ▸ hos) o ho
  | getters c =>
    obtain ⟨value, hvalue⟩ := Option.isSome_iff_exists.mp hen
    obtain ⟨context, hcontext, -⟩ := h.kept.context hvalue
    exact ⟨s, by rw [Tasks.step, hcontext, Option.map_some], rfl, h⟩

variable {ring : Ring} {registrations : Registrations}

/-- The only capsule at the start is that of the defaults. -/
theorem start_capsules (ring : Ring) (registrations : Registrations) {n : ℕ} {a : Capsule}
    (h : (start ring registrations).capsules.get n = some a) : n = 0 ∧ a = ⟨0, 1⟩ := by
  change Function.update (fun _ => none) 0 (some (⟨0, 1⟩ : Capsule)) n = some a at h
  by_cases hn : n = 0
  · subst hn
    rw [Function.update_self] at h
    exact ⟨rfl, (Option.some.inj h).symm⟩
  · rw [Function.update_of_ne hn] at h
    cases h

/-- At the start the managers are ordered. -/
theorem ordered_start (ring : Ring) (registrations : Registrations) :
    Ordered (start ring registrations) := by
  refine ⟨⟨⟨fun ha hb _ => ?_, fun ha => ?_, fun ha => ?_⟩, fun n => ?_, fun hm => ?_,
    fun hm => ?_, fun hm => ?_⟩, fun os hos o ho => ?_⟩
  · exact (start_capsules ring registrations ha).1.trans
      (start_capsules ring registrations hb).1.symm
  · rw [(start_capsules ring registrations ha).2]
    rfl
  · rw [(start_capsules ring registrations ha).2]
  · have hholders : (start ring registrations).holders n = if n = 0 then 1 else 0 := by
      rw [holders]
      simp only [start]
      rw [Tally.tally_cons, count_some]
      rfl
    rw [hholders]
    by_cases hn : n = 0
    · subst hn
      rfl
    · have hget : (start ring registrations).capsules.get n = none := by
        by_contra hsome
        obtain ⟨a, ha⟩ := Option.ne_none_iff_exists'.mp hsome
        exact hn (start_capsules ring registrations ha).1
      rw [if_neg hn, refs, ContextVar.refs, Tasks.var, hget]
      rfl
  · cases hm
  · cases hm
  · cases hm
  · rw [List.mem_singleton.mp hos] at ho
    cases ho

/-- The steps of a caller that keeps to the rules. -/
def Guarded (s : Tasks) (lab : Label) : Prop := s.Enabled lab ∧ s.Proper lab

instance (s : Tasks) (lab : Label) : Decidable (s.Guarded lab) :=
  inferInstanceAs (Decidable (_ ∧ _))

/-- **Run.** -/
theorem ordered_of_run (hrun : Run step Guarded (start ring registrations) s) : Ordered s :=
  hrun.invariant (ordered_start ring registrations) fun t lab u h hok hstep => by
    obtain ⟨s', hstep', -, hs'⟩ := h.step hok.1 hok.2
    rw [hstep] at hstep'
    cases hstep'
    exact hs'

/-- An enter whose clone the variable does not take frees it twice. -/
theorem enter_unset_undefined {env : ManagerEnv}
    (h : ∀ m ∈ s.object o, m.manager.clones env = true) :
    s.step (.enter c o env false) = none := by
  rw [step, Option.map_eq_none_iff]
  cases hvalue : s.value c with
  | none => simp only [enter, hvalue, Option.bind_eq_bind, Option.bind_none]
  | some value =>
    cases hm : s.object o with
    | none => simp only [enter, hvalue, hm, Option.bind_eq_bind, Option.bind_some, Option.bind_none]
    | some m =>
      have hcall : s.callEnter c o value m env false = none :=
        ContextState.enterUnset_eq_none (h m hm)
      simp only [enter, hvalue, hm, hcall, Option.bind_eq_bind, Option.bind_some, Option.bind_none]

/-- **Memory.** In every state that a run of calls on managers reaches, in any number of contexts
and in any order, a capsule has as many references as there are contexts and tokens that refer to
it, its block can be read exactly as long as there are any, and every next call that keeps to the
rules has defined behaviour; an enter of a clone that the variable does not take has none. -/
theorem memory_of_run (hrun : Run step Guarded (start ring registrations) s) :
    (∀ n, s.refs n = s.holders n) ∧ (∀ n, (s.content n).isSome ↔ 0 < s.holders n) ∧
      (∀ lab, s.Guarded lab → (s.step lab).isSome) ∧
      ∀ c o env, (∀ m ∈ s.object o, m.manager.clones env = true) →
        s.step (.enter c o env false) = none := by
  have h := ordered_of_run hrun
  refine ⟨h.kept.counted, fun n => ?_, fun lab hok => ?_, fun c o env => enter_unset_undefined⟩
  · rw [← h.kept.counted]
    constructor
    · intro hsome
      obtain ⟨context, hcontext⟩ := Option.isSome_iff_exists.mp hsome
      obtain ⟨a, ha, -⟩ := Option.bind_eq_some_iff.mp hcontext
      have hrefs : s.refs n = a.refs := ContextVar.refs_of_get ha
      rw [hrefs]
      exact h.kept.sound.counted ha
    · intro hpos
      obtain ⟨context, hcontext⟩ := h.kept.content hpos
      rw [hcontext]
      rfl
  · obtain ⟨s', hstep, -⟩ := h.step hok.1 hok.2
    rw [hstep]
    rfl

/-- A creation in which nothing fails but what the arguments make fail. -/
def sampleCreate : CreateEnv where
  thread := true
  closed := false
  str := "Uringio Event Loop"
  parses := true
  build := .calm
  alloc _ := 0
  rand := 7
  raw := { BufferPayload.zero with buf_ring := false }
  object := true
  block := true

/-- Managers of all fields, of fixed buffers and of the stream strategy, and a wrong mode. -/
def sampleCreations : List Label :=
  let buffers_obj := .sequence 1
  [.executionContext { stream := 1, transfer_mode := 1, buffers_obj := buffers_obj } sampleCreate,
    .bufferMode { mode := 1, buffers_obj := buffers_obj } sampleCreate,
    .bufferMode { mode := 4, buffers_obj := buffers_obj } sampleCreate,
    .streamStrategy {} sampleCreate]

/-- The manager of all fields is entered, the context is copied for a task, and while the task sets
the stream strategy the manager is left, and goes. -/
def sampleRun : Option Tasks :=
  exec step Guarded (start (.replicate 7 .zero) ⟨none, fun _ => none⟩) (sampleCreations ++
    [.enter 0 0 (ContextState.sampleEnv 0) true, .copyContext 0,
      .enter 1 2 (ContextState.sampleEnv 0) true, .exit 0 0 (ContextState.sampleEnv 0), .dealloc 0])

/-- In the sample run each context's block has one reference. -/
theorem memory_sample :
    sampleRun.isSome ∧ ∀ s ∈ sampleRun, s.refs 1 = 1 ∧ s.refs 1 = s.holders 1 ∧
      (s.step (.getters 1)).isSome := by
  refine ⟨by decide +kernel, fun s hs => ⟨?_, (memory_of_run (.of_exec hs)).1 1,
    (memory_of_run (.of_exec hs)).2.2.1 _ ⟨?_, trivial⟩⟩⟩
  · exact Transition.exec_eval (f := fun s => s.refs 1) (b := 1) hs (by decide +kernel)
  · exact Transition.exec_eval (f := fun s => (s.value 1).isSome) (b := true) hs (by decide +kernel)

/-! ## The refinement -/

/-- The scopes at the start are those of the initial block. -/
theorem scopes_start :
    (start ring registrations).scopes = Scopes.State.start ContextBlock.initial :=
  Scopes.State.ext rfl (by funext o; rfl) rfl rfl

/-- The scopes of a run are those of a run of tokens. -/
theorem scopes_of_run {ok : Tasks → Label → Prop}
    {ok' : Scopes.State ContextBlock → Scopes.Label ContextBlock → Prop}
    (hguarded : ∀ s lab, ok s lab → Guarded s lab)
    (hok : ∀ s lab step, ok s lab → observed s lab = some step → ok' s.scopes step)
    (hrun : Run step ok (start ring registrations) s) :
    Run Scopes.step ok' (Scopes.State.start .initial) s.scopes := by
  refine (hrun.invariant (P := fun s : Tasks => Ordered s ∧
    Run Scopes.step ok' (Scopes.State.start .initial) s.scopes)
    ⟨ordered_start ring registrations, by rw [scopes_start]; exact .refl _⟩ ?_).2
  rintro t lab u ⟨h, hscopes⟩ hlab hstep
  obtain ⟨s', hstep', hfollows, hs'⟩ := h.step (hguarded t lab hlab).1 (hguarded t lab hlab).2
  rw [hstep] at hstep'
  cases hstep'
  refine ⟨hs', ?_⟩
  unfold Follows at hfollows
  split at hfollows
  · next step hobserved => exact hscopes.tail (hok t lab step hlab hobserved) hfollows
  · rw [hfollows]
    exact hscopes

/-- **Refinement.** A run of calls on managers is a run of tokens that hold the fields themselves:
in every state that it reaches each context reads what the tokens leave there, and each next call is
one of their steps, or none. -/
theorem follows_of_run (hrun : Run step Guarded (start ring registrations) s) :
    Run Scopes.step (fun _ _ => True) (Scopes.State.start .initial) s.scopes ∧
      (∀ c, s.context c = s.scopes.value c) ∧
      ∀ lab, s.Guarded lab → ∃ s', s.step lab = some s' ∧ s.Follows lab s' := by
  refine ⟨scopes_of_run (fun _ _ h => h) (fun _ _ _ _ _ => trivial) hrun,
    fun c => (value_scopes s c).symm, fun lab hok => ?_⟩
  obtain ⟨s', hstep, hfollows, -⟩ := (ordered_of_run hrun).step hok.1 hok.2
  exact ⟨s', hstep, hfollows⟩

/-- An exit in a context that is not that of the token is nothing to what the contexts read. -/
theorem follows_sample :
    sampleRun.isSome ∧ ∀ s ∈ sampleRun, s.context 1 = s.scopes.value 1 ∧
      ∃ s', s.step (.exit 0 2 (ContextState.sampleEnv 0)) = some s' ∧
        s.Follows (.exit 0 2 (ContextState.sampleEnv 0)) s' := by
  refine ⟨by decide +kernel, fun s hs => ?_⟩
  obtain ⟨-, hcontext, hstep⟩ := follows_of_run (.of_exec hs)
  refine ⟨hcontext 1, hstep _ ?_⟩
  have hguarded := Transition.exec_eval
    (f := fun s : Tasks => decide (s.Guarded (.exit 0 2 (ContextState.sampleEnv 0))))
    (b := true) hs (by decide +kernel)
  exact of_decide_eq_true hguarded

/-! ## Tasks that nest their managers -/

/-- A manager is entered, and goes, only while it is not entered, and only the manager is left that
was entered last in the context. -/
def Nested (s : Tasks) : Label → Prop
  | .enter _ o _ _ => ∀ m ∈ s.object o, m.token = none
  | .exit c o _ => s.entered[c]?.bind List.head? = some o
  | .dealloc o => ∀ m ∈ s.object o, m.token = none
  | _ => True

instance (s : Tasks) : ∀ lab, Decidable (s.Nested lab)
  | .enter _ _ _ _ => inferInstanceAs (Decidable (∀ m ∈ _, _))
  | .exit _ _ _ => inferInstanceAs (Decidable (_ = _))
  | .dealloc _ => inferInstanceAs (Decidable (∀ m ∈ _, _))
  | .bufferMode _ _ => inferInstanceAs (Decidable True)
  | .streamStrategy _ _ => inferInstanceAs (Decidable True)
  | .transferMode _ _ => inferInstanceAs (Decidable True)
  | .executionContext _ _ => inferInstanceAs (Decidable True)
  | .copyContext _ => inferInstanceAs (Decidable True)
  | .dropContext _ => inferInstanceAs (Decidable True)
  | .getters _ => inferInstanceAs (Decidable True)

/-- A manager without a token has none for the scopes. -/
theorem scopeToken_of_object (hobject : (s.object o).isSome)
    (hnone : ∀ m ∈ s.object o, m.token = none) : s.scopes.tokens o = none := by
  obtain ⟨m, hm⟩ := Option.isSome_iff_exists.mp hobject
  have hget := (object_eq_some_iff.mp hm).1
  change s.scopeToken o = none
  rw [scopeToken, hget, Option.bind_some, hnone m hm, Option.bind_none]

/-- What is nested for the tasks is nested for their scopes. -/
theorem nested_scopes {lab : Label} {step : Scopes.Label ContextBlock} (hen : s.Enabled lab)
    (hnested : s.Nested lab) (hobserved : s.observed lab = some step) :
    Scopes.Nested s.scopes step := by
  cases lab with
  | enter c o env set =>
    simp only [observed] at hobserved
    split at hobserved
    · cases hobserved
      exact scopeToken_of_object hen.2 hnested
    · cases hobserved
  | exit c o env =>
    cases hobserved
    have hhead : s.entered[c]?.bind List.head? = some o := hnested
    obtain ⟨os, hos, hhead⟩ := Option.bind_eq_some_iff.mp hhead
    simp [Scopes.Nested, scopes, hos, hhead]
  | dealloc o =>
    cases hobserved
    exact scopeToken_of_object hen hnested
  | copyContext c =>
    cases hobserved
    trivial
  | dropContext c =>
    cases hobserved
    trivial
  | bufferMode args env => cases hobserved
  | streamStrategy args env => cases hobserved
  | transferMode args env => cases hobserved
  | executionContext args env => cases hobserved
  | getters c => cases hobserved

/-- What the innermost of the managers sets a field to. -/
def innermost {α : Type} (s : Tasks) (sets : ℕ → Manager → Option α) (os : List ℕ) : Option α :=
  os.findSome? fun o => s.objects[o]?.bind fun m => sets o m.manager

/-- A field after the changes of managers, from the outside in. -/
theorem field_foldr {α : Type} (get : ContextBlock → α) {sets : ℕ → Manager → Option α}
    (hget : ∀ o (m : Manager) b, get (m.change o b) = (sets o m).getD (get b)) (os : List ℕ)
    (b : ContextBlock) :
    get (os.foldr s.change b) = (s.innermost sets os).getD (get b) := by
  induction os with
  | nil => rfl
  | cons o os ih =>
    rw [List.foldr_cons, innermost, List.findSome?_cons, change]
    cases s.objects[o]? with
    | none => exact ih
    | some m =>
      rw [Option.bind_some]
      simp only [hget]
      cases sets o m.manager with
      | none => exact ih
      | some a => rfl

/-- **The scopes of tasks.** In every state that a run reaches in which each task leaves its
managers in the reverse order, an operation reads field by field what the innermost manager of its
own task sets that sets the field, and where none of them does, what was read when the task was
created. -/
theorem scoped_of_nested
    (hrun : Run step (fun s lab => s.Guarded lab ∧ s.Nested lab) (start ring registrations) s)
    (hvalue : (s.value c).isSome) :
    ∃ b os, s.base[c]? = some b ∧ s.entered[c]? = some os ∧
      s.getStreamStrategy c = some ((s.innermost (fun _ => Manager.stream) os).getD b.stream) ∧
      s.getTransferMode c =
        some ((s.innermost (fun _ => Manager.transfer_mode) os).getD b.transfer_mode) ∧
      s.getBuffer c = some ((s.innermost Manager.buffer_payload os).getD b.buffer_payload) := by
  have hordered := ordered_of_run (hrun.mono fun _ _ h => h.1)
  have hscopes : Run Scopes.step Scopes.Nested (Scopes.State.start .initial) s.scopes :=
    scopes_of_run (fun _ _ h => h.1)
      (fun _ _ _ h hobserved => nested_scopes h.1.1 h.2 hobserved) hrun
  obtain ⟨value, hvalue⟩ := Option.isSome_iff_exists.mp hvalue
  obtain ⟨context, hcontext, -⟩ := hordered.kept.context hvalue
  obtain ⟨b, fs, hb, hfs, hfold⟩ :=
    Scopes.foldr_of_run hscopes ((value_scopes s c).trans hcontext)
  have hbase : s.base[c]? = some b := hb
  simp only [scopes, List.getElem?_map] at hfs
  obtain ⟨os, hos, rfl⟩ := Option.map_eq_some_iff.mp hfs
  have hread : s.context c = some (os.foldr s.change b) := by
    rw [hcontext, hfold, List.foldr_map]
  refine ⟨b, os, hbase, hos, ?_, ?_, ?_⟩
  · rw [getStreamStrategy, hread, Option.map_some,
      field_foldr (fun b => b.stream) fun o m b => m.change_stream o b]
  · rw [getTransferMode, hread, Option.map_some,
      field_foldr (fun b => b.transfer_mode) fun o m b => m.change_transfer_mode o b]
  · rw [getBuffer, hread, Option.map_some,
      field_foldr (fun b => b.buffer_payload) fun o m b => m.change_buffer_payload o b]

/-- Each of three tasks enters a manager of its own, the third one in a copy of the context of the
second. -/
def sampleTasks : Option Tasks :=
  exec step (fun s lab => s.Guarded lab ∧ s.Nested lab)
    (start (.replicate 7 .zero) ⟨none, fun _ => none⟩) (sampleCreations ++
      [.copyContext 0, .enter 1 0 (ContextState.sampleEnv 0) true, .copyContext 1,
        .enter 0 1 (ContextState.sampleEnv 0) true, .enter 2 2 (ContextState.sampleEnv 0) true,
        .exit 1 0 (ContextState.sampleEnv 0)])

/-- In the sample run the task sees what it entered, over what it started with. -/
theorem scoped_sampleTasks :
    sampleTasks.isSome ∧ ∀ s ∈ sampleTasks, s.entered[2]? = some [2] ∧
      s.getStreamStrategy 2 = some .ONESHOT ∧ s.getTransferMode 2 = some .ZERO_COPY ∧
      ∃ b os, s.base[2]? = some b ∧ s.entered[2]? = some os ∧
        s.getStreamStrategy 2 = some
          ((s.innermost (fun _ => Manager.stream) os).getD b.stream) := by
  refine ⟨by decide +kernel, fun s hs => ⟨?_, ?_, ?_, ?_⟩⟩
  · exact Transition.exec_eval (f := fun s => s.entered[2]?) (b := some [2]) hs (by decide +kernel)
  · exact Transition.exec_eval (f := fun s => s.getStreamStrategy 2) (b := some .ONESHOT) hs
      (by decide +kernel)
  · exact Transition.exec_eval (f := fun s => s.getTransferMode 2) (b := some .ZERO_COPY) hs
      (by decide +kernel)
  · obtain ⟨b, os, hb, hos, hstream, -⟩ := scoped_of_nested (c := 2) (.of_exec hs)
      (Transition.exec_eval (f := fun s => (s.value 2).isSome) (b := true) hs (by decide +kernel))
    exact ⟨b, os, hb, hos, hstream⟩

end Tasks

end Uringio
