import Mathlib.Data.List.Perm.Basic
import Uringio.Lib.Simulation
import Uringio.Process.Variable
import Uringio.Tasks.Scoped

/-!
# Managers in a process with loops

The model of a process has of the variable what keeps it alive, and leaves to its environment what a
manager does with payloads, blocks and registrations (`Process.enterManager`). The model of the
managers in tasks has these, and takes the variable for granted. Here the second is a part of the
first: a process `Tracks` the tasks if it has a token of each context for each of theirs, and if
each context maps its variable to a capsule or to nothing as theirs does. Each call of a caller that
keeps to the rules is then a step of the process with the choices that the tasks make, or no step of
it (`simulates`): an exit of a manager without a token and the death of a manager leave what the
process sees as it was, and so do the creations.

So no call on a manager dereferences a null pointer or a variable that was freed, and the references
to the variable that the managers hold are the tokens of the tasks, those included that nothing
gives up (`variable_of_tasks`).
-/

namespace Uringio

open Transition (Run Simulates)

/-- What a context maps to after an assignment. -/
theorem VarObject.held_put (v : VarObject) (c : ℕ) (value : Option Held) (d : ℕ) :
    (v.put c value).held d = if d = c then value else v.held d := by
  unfold VarObject.held VarObject.put
  by_cases hd : d = c
  · subst hd
    -- The old value is gone, whether there is a new one or not.
    have hnone : (v.contexts.filter fun p => p.1 ≠ d).find? (fun p => p.1 = d) = none := by
      rw [List.find?_eq_none]
      intro p hp
      have hne := (List.mem_filter.mp hp).2
      simpa using hne
    cases value with
    | none => simp
    | some value => simp
  · have hold : (v.contexts.filter fun p => p.1 ≠ c).find? (fun p => p.1 = d) =
        v.contexts.find? fun p => p.1 = d := by
      rw [List.find?_filter]
      congr 1
      funext p
      by_cases hp : p.1 = d
      · simp [hp, hd]
      · simp [hp]
    rw [if_neg hd, List.find?_append, hold]
    cases value with
    | none => simp
    | some value => simp [Ne.symm hd]

/-- A variable that a context maps is alive. -/
theorem VarObject.alive_of_held {v : VarObject} {c : ℕ} {value : Held} (h : v.held c = some value) :
    v.Alive := by
  refine .inr fun hnone => ?_
  rw [VarObject.held, hnone] at h
  cases h

namespace Tasks

/-- What the variable of a process holds for a context of the tasks. -/
def shown (s : Tasks) (c : ℕ) : Option Held := (s.value c).map fun _ => .capsule

/-- The contexts of the tokens, in the order of the managers. -/
def tokenContexts (s : Tasks) : List ℕ := s.tokens.map TaskToken.context

/-- The process has the contexts and the tokens of the tasks. -/
structure Tracks (p : Process) (s : Tasks) : Prop where
  /-- The variable, with what each context maps it to. -/
  var : ∃ v, p.var = some v ∧ ∀ c, v.held c = s.shown c
  /-- A token resets the variable to a capsule. -/
  old_value : ∀ token ∈ p.tokens, token.old_value = some .capsule
  /-- The tokens are those of the tasks, as far as their contexts go. -/
  tokens : (p.tokens.map ManagerToken.context).Perm s.tokenContexts

variable {s s' : Tasks} {p p' : Process} {v : VarObject} {c o value : ℕ} {m m' : ManagerObject}
  {token : TaskToken} {x : Option ℕ}

/-! ## The contexts -/

/-- The contexts after an assignment. -/
theorem shown_set (hlt : c < s.values.length) (hvalues : s'.values = s.values.set c x) (d : ℕ) :
    s'.shown d = if d = c then x.map fun _ => .capsule else s.shown d := by
  unfold shown Tasks.value
  rw [hvalues, List.getElem?_set]
  by_cases hd : d = c
  · subst hd
    rw [if_pos rfl, if_pos rfl, if_pos hlt]
    rfl
  · rw [if_neg (Ne.symm hd), if_neg hd]

/-- A context that gets another capsule holds a capsule as before. -/
theorem shown_of_set (hvalue : s.value c = some value) {new : ℕ}
    (hvalues : s'.values = s.values.set c (some new)) : s'.shown = s.shown := by
  funext d
  rw [shown_set (List.getElem?_eq_some_iff.mp (value_eq_some_iff.mp hvalue)).1 hvalues]
  by_cases hd : d = c
  · rw [if_pos hd, hd, shown, hvalue]
    rfl
  · rw [if_neg hd]

/-- What a context with a capsule holds. -/
theorem Tracks.held (h : Tracks p s) (hvalue : s.value c = some value) :
    ∃ v, p.var = some v ∧ v.Alive ∧ v.held c = some .capsule ∧ ∀ d, v.held d = s.shown d := by
  obtain ⟨v, hv, hheld⟩ := h.var
  have hcapsule : v.held c = some .capsule := by rw [hheld, shown, hvalue, Option.map_some]
  exact ⟨v, hv, VarObject.alive_of_held hcapsule, hcapsule, hheld⟩

/-! ## The tokens -/

/-- A step that the process does not see. -/
theorem Tracks.same (h : Tracks p s) (hshown : s'.shown = s.shown)
    (htokens : s'.tokenContexts.Perm s.tokenContexts) : Tracks p s' := by
  obtain ⟨v, hv, hheld⟩ := h.var
  exact ⟨⟨v, hv, fun c => by rw [hheld, hshown]⟩, h.old_value, h.tokens.trans htokens.symm⟩

/-- How many tokens refer to a context, by the managers and by the tokens that nothing gives up. -/
theorem count_tokenContexts (s : Tasks) (d : ℕ) :
    s.tokenContexts.count d =
      Tally.tally (fun m => m.token.toList.map TaskToken.context) s.objects d +
        (s.lost.map TaskToken.context).count d := by
  rw [tokenContexts, tokens, List.map_append, List.count_append, Tally.tally,
    List.filterMap_eq_flatMap_toList, List.map_flatMap]

/-- The tokens after a change of one manager. -/
theorem count_tokenContexts_set (hm : s.objects[o]? = some m)
    (hobjects : s'.objects = s.objects.set o m') (d : ℕ) :
    s'.tokenContexts.count d + (m.token.toList.map TaskToken.context).count d +
        (s.lost.map TaskToken.context).count d =
      s.tokenContexts.count d + (m'.token.toList.map TaskToken.context).count d +
        (s'.lost.map TaskToken.context).count d := by
  have htally := Tally.tally_set (p := fun m => m.token.toList.map TaskToken.context) (x := d)
    (b := m') hm
  rw [count_tokenContexts, count_tokenContexts, hobjects]
  omega

/-- The process has a token for that of a manager. -/
theorem Tracks.exists_token (h : Tracks p s) (hm : s.objects[o]? = some m)
    (htoken : m.token = some token) :
    ∃ (i : ℕ) (t : ManagerToken), p.tokens[i]? = some t ∧ t.context = token.context ∧
      t.old_value = some .capsule := by
  have hmem : token.context ∈ s.tokenContexts :=
    List.mem_map_of_mem (List.mem_append_left _
      (List.mem_filterMap.mpr ⟨m, List.mem_of_getElem? hm, htoken⟩))
  obtain ⟨t, ht, hcontext⟩ := List.mem_map.mp (h.tokens.symm.subset hmem)
  obtain ⟨i, hi⟩ := List.mem_iff_getElem?.mp ht
  exact ⟨i, t, hi, hcontext, h.old_value t ht⟩

/-- The process after one of its tokens was given up. -/
theorem count_eraseIdx {tokens : List ManagerToken} {i : ℕ} {t : ManagerToken}
    (ht : tokens[i]? = some t) (d : ℕ) :
    ((tokens.eraseIdx i).map ManagerToken.context).count d + (if d = t.context then 1 else 0) =
      (tokens.map ManagerToken.context).count d := by
  obtain ⟨hi, rfl⟩ := List.getElem?_eq_some_iff.mp ht
  have hperm := ((List.getElem_cons_eraseIdx_perm hi).map ManagerToken.context).count_eq d
  rw [List.map_cons, List.count_cons] at hperm
  rw [← hperm]
  congr 1
  by_cases hd : d = tokens[i].context
  · simp [hd]
  · simp [hd, Ne.symm hd]

/-! ## Every step -/

/-- The step of the process leads to a state that tracks the tasks. -/
def Matched (p : Process) (s' : Tasks) : Prop :=
  ∃ p', Run Process.step Process.Enabled p p' ∧ Tracks p' s'

/-- The process does nothing. -/
theorem Tracks.matched (h : Tracks p s') : Matched p s' := ⟨p, .refl p, h⟩

/-- The process takes one step. -/
theorem Matched.one {lab : Process.Label} (hen : p.Enabled lab) (hstep : p.step lab = some p')
    (h : Tracks p' s') : Matched p s' :=
  ⟨p', (Run.refl p).tail hen hstep, h⟩

/-- A creation. -/
theorem Tracks.creates (h : Tracks p s) (hcreates : s.Creates s') : Matched p s' := by
  obtain ⟨m, hobjects, htoken⟩ : ∃ m, s'.objects = s.objects ++ [m] ∧ m.token = none := by
    cases hcreates <;> exact ⟨_, rfl, rfl⟩
  have hsame : s'.values = s.values ∧ s'.lost = s.lost := by
    cases hcreates <;> exact ⟨rfl, rfl⟩
  refine (h.same ?_ ?_).matched
  · funext c
    rw [shown, shown, value, value, hsame.1]
  · have htokens : s'.tokens = s.tokens := by
      rw [Tasks.tokens, hobjects, hsame.2, List.filterMap_append, List.filterMap_cons_none htoken,
        List.filterMap_nil, List.append_nil, Tasks.tokens]
    rw [tokenContexts, htokens, tokenContexts]

/-- An enter. -/
theorem Enters.matched {current : ContextBlock} {ok : Bool}
    (henters : Enters s c o value m current ok s') (h : Tracks p s)
    (hvalue : s.value c = some value) (hm : s.objects[o]? = some m) : Matched p s' := by
  obtain ⟨v, hv, halive, hcapsule, hheld⟩ := h.held hvalue
  obtain ⟨new, hvalues, -⟩ := henters.values
  obtain ⟨m', hobjects, -, -, htoken⟩ := henters.object
  have hshown := shown_of_set hvalue hvalues
  have hcount := count_tokenContexts_set hm hobjects
  rw [htoken, henters.lost] at hcount
  have hen : p.Enabled (.enter c true (.ok ok)) := trivial
  refine .one hen (Process.enter_step hv hcapsule halive) ?_
  cases ok with
  | true =>
    refine ⟨⟨_, rfl, fun d => ?_⟩, fun t ht => ?_, List.perm_iff_count.mpr fun d => ?_⟩
    · change (v.put c (some .capsule)).held d = _
      rw [VarObject.held_put, hshown]
      by_cases hd : d = c
      · rw [if_pos hd, hd, ← hheld, hcapsule]
      · rw [if_neg hd, hheld]
    · rcases List.mem_append.mp ht with hold | hnew
      · exact h.old_value t hold
      · rw [List.mem_singleton.mp hnew]
        exact hcapsule
    · -- The old token, if there was one, is among those that nothing gives up.
      have hold := h.tokens.count_eq d
      have hd := hcount d
      simp only [if_true, List.map_append, List.count_append, Option.toList_some, List.map_cons,
        List.map_nil] at hd ⊢
      omega
  | false =>
    refine h.same hshown (List.perm_iff_count.mpr fun d => ?_)
    have hd := hcount d
    simp only [Bool.false_eq_true, if_false] at hd
    omega

/-- An exit. -/
theorem Exits.matched (hexits : Exits s c o value m s') (h : Tracks p s)
    (hvalue : s.value c = some value) (hm : s.objects[o]? = some m) : Matched p s' := by
  obtain ⟨v, hv, halive, hcapsule, hheld⟩ := h.held hvalue
  obtain ⟨m', hobjects, -, -, htoken'⟩ := hexits.object
  have hshown := shown_of_set hvalue hexits.values
  have hcount := count_tokenContexts_set hm hobjects
  rw [htoken', hexits.lost] at hcount
  cases htoken : m.token with
  | none =>
    -- A null pointer raises, and that is all.
    refine (h.same hshown (List.perm_iff_count.mpr fun d => ?_)).matched
    have hd := hcount d
    rw [htoken] at hd
    omega
  | some token =>
    obtain ⟨i, t, ht, hcontext, hold⟩ := h.exists_token hm htoken
    have hen : p.Enabled (.exit i c (.ok ())) := (List.getElem?_eq_some_iff.mp ht).1
    have hstep := Process.exit_step (c := c) ht hv halive
    rw [hold] at hstep
    refine .one hen hstep ⟨⟨_, rfl, fun d => ?_⟩, fun t' ht' => ?_,
      List.perm_iff_count.mpr fun d => ?_⟩
    · change (if t.context = c then v.put c (some .capsule) else v).held d = _
      rw [hshown, ← hheld]
      split
      · rw [VarObject.held_put]
        split
        · next hd => rw [hd, hcapsule]
        · rfl
      · rfl
    · exact h.old_value t' (List.mem_of_mem_eraseIdx ht')
    · have hperm := h.tokens.count_eq d
      have herase := count_eraseIdx ht d
      have hd := hcount d
      rw [htoken, Option.toList_some, List.map_singleton, List.count_singleton, ← hcontext] at hd
      simp only [Option.toList_none, List.map_nil, List.count_nil, beq_iff_eq] at hd
      change ((p.tokens.eraseIdx i).map ManagerToken.context).count d = _
      split at herase <;> split at hd <;> omega

/-- A manager goes. -/
theorem Tracks.dealloc (h : Tracks p s) (hm : s.objects[o]? = some m) (hs' : s' = { s with
      objects := s.objects.set o { m with token := none, freed := true }
      lost := s.lost ++ m.token.toList }) : Matched p s' := by
  have hobjects : s'.objects = s.objects.set o { m with token := none, freed := true } :=
    congrArg Tasks.objects hs'
  have hcount := count_tokenContexts_set hm hobjects
  refine (h.same (by rw [hs']; rfl) (List.perm_iff_count.mpr fun d => ?_)).matched
  have hd := hcount d
  rw [congrArg Tasks.lost hs', List.map_append, List.count_append] at hd
  simp only [Option.toList_none, List.map_nil, List.count_nil] at hd
  omega

/-- A context is copied. -/
theorem Tracks.copyContext (h : Tracks p s) (hvalue : s.value c = some value)
    (hvalues : s'.values = s.values ++ [some value]) (hobjects : s'.objects = s.objects)
    (hlost : s'.lost = s.lost) : Matched p s' := by
  obtain ⟨v, hv, -, hcapsule, hheld⟩ := h.held hvalue
  have hen : p.Enabled (.copyContext c s.values.length) := fun w hw => by
    rw [hv] at hw
    cases hw
    rw [hheld, shown, Tasks.value, List.getElem?_eq_none (Nat.le_refl _)]
    rfl
  have hstep : p.step (.copyContext c s.values.length) = some { p with
      var := some (v.put s.values.length (v.held c)) } := by
    simp only [Process.step, Process.perform, hv]
    rfl
  refine .one hen hstep ⟨⟨_, rfl, fun d => ?_⟩, h.old_value, ?_⟩
  · rw [VarObject.held_put, hcapsule, hheld, shown, shown, Tasks.value, Tasks.value, hvalues]
    by_cases hd : d = s.values.length
    · rw [if_pos hd, hd, List.getElem?_concat_length]
      rfl
    · rw [if_neg hd, List.getElem?_append]
      split
      · rfl
      · rw [List.getElem?_eq_none (by omega), List.getElem?_eq_none (by simp; omega)]
  · rw [tokenContexts, Tasks.tokens, hobjects, hlost]
    exact h.tokens

/-- A context goes. -/
theorem Tracks.dropContext (h : Tracks p s) (hvalue : s.value c = some value)
    (hfree : ∀ token ∈ s.tokens, token.context ≠ c) (hvalues : s'.values = s.values.set c none)
    (hobjects : s'.objects = s.objects) (hlost : s'.lost = s.lost) : Matched p s' := by
  obtain ⟨v, hv, -, -, hheld⟩ := h.held hvalue
  have hen : p.Enabled (.dropContext c) := fun t ht heq => by
    have hmem := h.tokens.subset (List.mem_map_of_mem ht)
    obtain ⟨token, htoken, hcontext⟩ := List.mem_map.mp hmem
    exact hfree token htoken (hcontext.trans heq)
  have hstep : p.step (.dropContext c) = some { p with var := some (v.put c none) } := by
    simp only [Process.step, Process.perform, hv]
    rfl
  refine .one hen hstep ⟨⟨_, rfl, fun d => ?_⟩, h.old_value, ?_⟩
  · have hlt := (List.getElem?_eq_some_iff.mp (value_eq_some_iff.mp hvalue)).1
    rw [VarObject.held_put, shown_set hlt hvalues, hheld]
    rfl
  · rw [tokenContexts, Tasks.tokens, hobjects, hlost]
    exact h.tokens

/-- A getter reads a capsule. -/
theorem Tracks.getters (h : Tracks p s) (hvalue : s.value c = some value) : Matched p s := by
  obtain ⟨v, hv, halive, hcapsule, -⟩ := h.held hvalue
  have hstep : p.step (.getter c) = some p := by
    simp only [Process.step, Process.perform, contextGetter, contextVarGet, hv, hcapsule]
    rw [if_neg (not_not.mpr halive)]
    rfl
  exact .one (show p.Enabled (.getter c) from trivial) hstep h

/-- **Every step** of the tasks is one of the process, or none. -/
theorem Ordered.matched (hordered : Ordered s) {lab : Label} (hok : s.Guarded lab)
    (hstep : s.step lab = some s') (h : Tracks p s) : Matched p s' := by
  obtain ⟨hen, hproper⟩ := hok
  have hcreation : ∀ {creation : Creation Tasks}, Creation.Ends creation s.Creates →
      s.created creation = some s' → Matched p s' := fun hends hcreated => by
    obtain ⟨t, ht, hcases⟩ := created_of_ends hends
    rw [hcreated] at ht
    cases ht
    rcases hcases with rfl | hcreates
    · exact h.matched
    · exact h.creates hcreates
  cases lab with
  | bufferMode args env => exact hcreation (creates_bufferMode hproper) hstep
  | streamStrategy args env => exact hcreation creates_streamStrategy hstep
  | transferMode args env => exact hcreation creates_transferMode hstep
  | executionContext args env => exact hcreation (creates_executionContext hproper) hstep
  | enter c o env set =>
    obtain ⟨value, hvalue⟩ := Option.isSome_iff_exists.mp hen.1
    obtain ⟨m, hm⟩ := Option.isSome_iff_exists.mp hen.2
    obtain ⟨current, ok, t, -, hrun, henters, -⟩ :=
      hordered.kept.enter hvalue hm (hproper m hm).1 (hproper m hm).2
    rw [Tasks.step, hrun, Option.map_some] at hstep
    cases hstep
    exact henters.matched h hvalue (object_eq_some_iff.mp hm).1
  | exit c o env =>
    obtain ⟨value, hvalue⟩ := Option.isSome_iff_exists.mp hen.1
    obtain ⟨m, hm⟩ := Option.isSome_iff_exists.mp hen.2
    obtain ⟨t, hrun, hexits, -⟩ := hordered.kept.exit hvalue hm (hproper m hm) env
    rw [Tasks.step, hrun, Option.map_some] at hstep
    cases hstep
    exact hexits.matched h hvalue (object_eq_some_iff.mp hm).1
  | dealloc o =>
    obtain ⟨m, hm⟩ := Option.isSome_iff_exists.mp hen
    obtain ⟨t, hrun, ht, -⟩ := hordered.kept.dealloc hm
    rw [Tasks.step, hrun] at hstep
    cases hstep
    exact h.dealloc (object_eq_some_iff.mp hm).1 ht
  | copyContext c =>
    obtain ⟨value, hvalue⟩ := Option.isSome_iff_exists.mp hen
    obtain ⟨t, hrun, -, hvalues, hobjects, hlost, -⟩ := hordered.kept.copyContext hvalue
    rw [Tasks.step, hrun] at hstep
    cases hstep
    exact h.copyContext hvalue hvalues hobjects hlost
  | dropContext c =>
    obtain ⟨value, hvalue⟩ := Option.isSome_iff_exists.mp hen.1
    obtain ⟨t, hrun, -, hvalues, hobjects, hlost, -⟩ := hordered.kept.dropContext hvalue
    rw [Tasks.step, hrun] at hstep
    cases hstep
    exact h.dropContext hvalue hen.2 hvalues hobjects hlost
  | getters c =>
    obtain ⟨value, hvalue⟩ := Option.isSome_iff_exists.mp hen
    obtain ⟨-, -, rfl⟩ := Option.map_eq_some_iff.mp hstep
    exact h.getters hvalue

/-! ## Every run -/

/-- **Step.** The process simulates the tasks. -/
theorem simulates : Simulates step Guarded Process.step Process.Enabled fun s p =>
    Ordered s ∧ Tracks p s := by
  rintro s p lab s' ⟨hordered, htracks⟩ hok hstep
  obtain ⟨t, hstep', -, hordered'⟩ := hordered.step hok.1 hok.2
  rw [hstep] at hstep'
  cases hstep'
  obtain ⟨p', hrun, htracks'⟩ := hordered.matched hok hstep htracks
  exact ⟨p', hrun, hordered', htracks'⟩

variable {ring : Ring} {registrations : Registrations}

/-- The first initialization that gets the variable puts it into the one context that there is. -/
theorem tracks_init {env : StartEnv} (hvar : p.var = none) (htokens : p.tokens = [])
    (hobject : (p.object o).isSome) (hgranted : env.granted = true) (hwakeup : 0 ≤ env.wakeup_fd)
    (henv : env.var.created = true ∧ env.var.capsule = true ∧ env.var.set = true)
    (hstep : p.step (.init o 0 env) = some p') : Tracks p' (start ring registrations) := by
  obtain ⟨l, hl⟩ := Option.isSome_iff_exists.mp hobject
  have hperform := Process.step_iff.mp hstep
  simp only [Process.perform, hl] at hperform
  obtain ⟨⟨r, q⟩, hinit, rfl⟩ := map_eq_ok hperform
  rcases Process.init_cases hinit with ⟨hnot, -⟩ | ⟨hnot, -⟩ | ⟨-, -, l', var, hdone, rfl⟩
  · rw [hgranted] at hnot
    cases hnot
  · rw [hgranted] at hnot
    cases hnot
  · rcases hdone.rest with ⟨hneg, -⟩ | ⟨-, -, got, hgot, -⟩
    · omega
    · -- The variable is new, and holds the capsule of the defaults.
      obtain ⟨hcreated, hcapsule, hset⟩ := henv
      rw [hvar] at hgot
      simp only [contextVarInit, contextVarInit.fill, hcreated, hcapsule, hset, not_true_eq_false,
        if_false, and_self, if_true, Except.ok.injEq, Prod.mk.injEq] at hgot
      obtain ⟨-, rfl⟩ := hgot
      refine ⟨⟨_, rfl, fun c => ?_⟩, fun t ht => ?_, ?_⟩
      · rw [VarObject.held_put]
        cases c <;> rfl
      · rw [Process.noteStart, htokens] at ht
        cases ht
      · rw [Process.noteStart, htokens]
        exact .refl _

/-- **Tasks in a process.** A process that tracks the first context takes every run of the tasks
along: it reaches a state that tracks theirs, in which each reference to the variable is one of a
loop, of a token of the tasks, or one that an initialization lost. -/
theorem variable_of_tasks {fds : ℤ → Bool}
    (hprocess : Run Process.step Process.Enabled (Process.start fds) p)
    (htracks : Tracks p (start ring registrations))
    (hrun : Run step Guarded (start ring registrations) s) :
    ∃ p', Run Process.step Process.Enabled p p' ∧ Tracks p' s ∧
      Process.refsOf p'.var = p'.holders + s.tokens.length + p'.lostRefs := by
  obtain ⟨p', ⟨hrun', hcounted⟩, -, htracks'⟩ := simulates.transport
    (P := fun p' => Run Process.step Process.Enabled p p' ∧ p'.Counted)
    (fun p' hrun' => ⟨hrun', Process.counted_of_run (hprocess.trans hrun')⟩) hrun
    ⟨ordered_start ring registrations, htracks⟩
  refine ⟨p', hrun', htracks', ?_⟩
  have hlength := htracks'.tokens.length_eq
  rw [List.length_map, tokenContexts, List.length_map] at hlength
  rw [← hlength]
  exact hcounted

end Tasks

end Uringio
