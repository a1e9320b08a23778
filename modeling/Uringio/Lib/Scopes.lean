import Mathlib.Data.List.Basic
import Mathlib.Logic.Function.Basic
import Uringio.Lib.Transition

/-!
# Values that tokens restore

A variable has a value in each of several contexts. Entering an object in a context changes the
value there and leaves with the object a token, which holds the old value; exiting the object in the
same context puts the old value back, and exiting it in another one only gives the token up. A
context can be copied, and the copy starts with the value of the original.

Nothing obliges exits to come in the reverse order of the enters. Where they do, context by context
(`Nested`), the tokens cannot be seen: the value in a context is what the objects that are entered
in it make of the value that it started with, whatever happens in the other contexts
(`foldr_of_run`). The invariant is that the tokens of the objects entered in a context hold the
values of its layers (`Layered`); a step on an object that is not entered, or in another context,
changes none of these tokens (`Layered.congr`).
-/

namespace Scopes

variable {α : Type*}

/-- The token of an object: where it was entered, and the value that was there. -/
structure Token (α : Type*) where
  /-- The context in which the object was entered. -/
  context : ℕ
  /-- The value that the context had. -/
  old : α

/-- An object that is entered, with what it does to the value. -/
structure Entered (α : Type*) where
  /-- The object. -/
  object : ℕ
  /-- What it makes of a value. -/
  change : α → α

/-- The contexts and the tokens. The fields `base` and `entered` are history: no step reads them. -/
@[ext]
structure State (α : Type*) where
  /-- The value in each context, in the order of creation; `none` for a context that is gone. -/
  current : List (Option α)
  /-- The tokens of the objects that have one. -/
  tokens : ℕ → Option (Token α)
  /-- The value that each context started with. -/
  base : List α
  /-- The objects entered in each context and not exited, the last one first. -/
  entered : List (List (Entered α))

/-- One context, in which nothing is entered. -/
def State.start (a : α) : State α := ⟨[some a], fun _ => none, [a], [[]]⟩

/-- A step. -/
inductive Label (α : Type*)
  | enter (context object : ℕ) (change : α → α)
  | exit (context object : ℕ)
  /-- The object goes, and with it its token. -/
  | forget (object : ℕ)
  | copy (context : ℕ)
  | drop (context : ℕ)

/-- The value in a context that is not gone. -/
def State.value (s : State α) (c : ℕ) : Option α := s.current[c]?.join

/-- Exit the object `o` in the context `c`. -/
def State.exit (s : State α) (c o : ℕ) : State α :=
  match s.tokens o with
  | none => s
  | some token =>
    if token.context = c then { s with
      current := s.current.set c (some token.old)
      tokens := Function.update s.tokens o none
      entered := s.entered.modify c fun fs => fs.eraseP fun f => f.object = o }
    else { s with tokens := Function.update s.tokens o none }

/-- Execute a step; `none` where the context is gone. -/
def step (s : State α) : Label α → Option (State α)
  | .enter c o change => (s.value c).map fun a => { s with
      current := s.current.set c (some (change a))
      tokens := Function.update s.tokens o (some ⟨c, a⟩)
      entered := s.entered.modify c (⟨o, change⟩ :: ·) }
  | .exit c o => (s.value c).map fun _ => s.exit c o
  | .forget o => some { s with tokens := Function.update s.tokens o none }
  | .copy c => (s.value c).map fun a => { s with
      current := s.current ++ [some a]
      base := s.base ++ [a]
      entered := s.entered ++ [[]] }
  | .drop c => some { s with current := s.current.set c none }

/-- An object is entered and goes only when it is not entered, and only the object is exited that
was entered last in the context. -/
def Nested (s : State α) : Label α → Prop
  | .enter _ o _ => s.tokens o = none
  | .exit c o => (s.entered[c]?.bind List.head?).map Entered.object = some o
  | .forget o => s.tokens o = none
  | .copy _ => True
  | .drop _ => True

/-- The objects `fs` are entered in the context `c`, which started with `b`, and each of their
tokens holds the value of the layer around the object; the value of the innermost layer is `a`. -/
def Layered (tokens : ℕ → Option (Token α)) (c : ℕ) (b : α) : List (Entered α) → α → Prop
  | [], a => a = b
  | f :: fs, a => ∃ a', a = f.change a' ∧ tokens f.object = some ⟨c, a'⟩ ∧
      f.object ∉ fs.map Entered.object ∧ Layered tokens c b fs a'

variable {tokens tokens' : ℕ → Option (Token α)} {s s' : State α} {c o : ℕ} {a b : α}
  {fs : List (Entered α)}

/-- An object of a layer has a token of the context. -/
theorem Layered.token (h : Layered tokens c b fs a) (ho : o ∈ fs.map Entered.object) :
    ∃ a', tokens o = some ⟨c, a'⟩ := by
  induction fs generalizing a with
  | nil => cases ho
  | cons f fs ih =>
    obtain ⟨a', -, htoken, -, hrest⟩ := h
    rcases List.mem_cons.mp ho with rfl | hmem
    · exact ⟨a', htoken⟩
    · exact ih hrest hmem

/-- The layers depend on the tokens of their objects. -/
theorem Layered.congr (h : Layered tokens c b fs a)
    (hsame : ∀ o ∈ fs.map Entered.object, tokens' o = tokens o) : Layered tokens' c b fs a := by
  induction fs generalizing a with
  | nil => exact h
  | cons f fs ih =>
    obtain ⟨a', hchange, htoken, hnotin, hrest⟩ := h
    refine ⟨a', hchange, ?_, hnotin, ih hrest fun o ho => hsame o (List.mem_cons_of_mem _ ho)⟩
    rw [hsame _ List.mem_cons_self, htoken]

/-- A token that is not one of the layers changes. -/
theorem Layered.update (h : Layered tokens c b fs a) {x : Option (Token α)}
    (ho : ∀ a', tokens o ≠ some ⟨c, a'⟩) : Layered (Function.update tokens o x) c b fs a := by
  refine h.congr fun o' ho' => Function.update_of_ne ?_ ..
  rintro rfl
  obtain ⟨a', htoken⟩ := h.token ho'
  exact ho a' htoken

/-- The innermost value is what the objects make of the outermost one. -/
theorem Layered.foldr (h : Layered tokens c b fs a) :
    a = fs.foldr (fun f x => f.change x) b := by
  induction fs generalizing a with
  | nil => exact h
  | cons f fs ih =>
    obtain ⟨a', hchange, -, -, hrest⟩ := h
    rw [List.foldr_cons, ← ih hrest, hchange]

/-- Every context that is not gone has its layers. -/
structure Kept (s : State α) : Prop where
  /-- Each context has a value that it started with. -/
  base : s.base.length = s.current.length
  /-- Each context has a list of objects. -/
  entered : s.entered.length = s.current.length
  /-- The value of each context comes from the objects that are entered in it. -/
  layered : ∀ c a, s.value c = some a → ∃ b fs, s.base[c]? = some b ∧ s.entered[c]? = some fs ∧
    Layered s.tokens c b fs a

/-- At the start the values are kept. -/
theorem kept_start (a : α) : Kept (State.start a) where
  base := rfl
  entered := rfl
  layered c x hx := by
    cases c with
    | zero => exact ⟨a, [], rfl, rfl, (Option.some.inj hx).symm⟩
    | succ c => cases hx

/-- A context's value is the entry of its number. -/
theorem value_eq_some_iff : s.value c = some a ↔ s.current[c]? = some (some a) := by
  rw [State.value, Option.join_eq_some_iff]

/-- The value in a context after an assignment to one. -/
theorem value_set {x : Option α} {d : ℕ} (hlt : c < s.current.length)
    (hcurrent : s'.current = s.current.set c x) :
    s'.value d = if d = c then x else s.value d := by
  rw [State.value, hcurrent, List.getElem?_set]
  by_cases hd : c = d
  · subst hd
    simp [hlt]
  · simp [hd, Ne.symm hd, State.value]

/-- Only a context that exists has a value. -/
theorem lt_of_value (h : s.value c = some a) : c < s.current.length :=
  (List.getElem?_eq_some_iff.mp (value_eq_some_iff.mp h)).1

/-- An exit of the object that was entered last. -/
theorem Kept.exit (h : Kept s) (ha : s.value c = some a)
    (hnested : (s.entered[c]?.bind List.head?).map Entered.object = some o) :
    Kept (s.exit c o) := by
  obtain ⟨b, fs, hb, hfs, hlayered⟩ := h.layered c a ha
  rw [hfs, Option.bind_some] at hnested
  obtain ⟨f, hhead, rfl⟩ := Option.map_eq_some_iff.mp hnested
  obtain ⟨rest, rfl⟩ := List.head?_eq_some_iff.mp hhead
  obtain ⟨a', -, htoken, hnotin, hrest⟩ := hlayered
  have hexit : s.exit c f.object = { s with
      current := s.current.set c (some a')
      tokens := Function.update s.tokens f.object none
      entered := s.entered.modify c fun fs => fs.eraseP fun g => g.object = f.object } := by
    simp [State.exit, htoken]
  rw [hexit]
  have hvalue := fun d => value_set (d := d) (lt_of_value ha) (congrArg State.current hexit)
  rw [hexit] at hvalue
  refine ⟨by simpa using h.base, by simpa using h.entered, fun d x hx => ?_⟩
  rw [hvalue] at hx
  by_cases hd : d = c
  · -- The layers of this context are those around the object.
    subst hd
    rw [if_pos rfl] at hx
    cases hx
    refine ⟨b, rest, hb, ?_, hrest.congr fun o ho => Function.update_of_ne ?_ ..⟩
    · simp [hfs]
    · rintro rfl
      exact hnotin ho
  · rw [if_neg hd] at hx
    obtain ⟨b', fs', hb', hfs', hlayered'⟩ := h.layered d x hx
    refine ⟨b', fs', hb', ?_, hlayered'.update fun a'' htoken' => ?_⟩
    · simp [Ne.symm hd, hfs']
    · rw [htoken] at htoken'
      exact hd (congrArg Token.context (Option.some.inj htoken')).symm

/-- **Step.** -/
theorem Kept.step (h : Kept s) {lab : Label α} (hnested : Nested s lab)
    (hstep : step s lab = some s') : Kept s' := by
  cases lab with
  | enter c o change =>
    obtain ⟨a, ha, rfl⟩ := Option.map_eq_some_iff.mp hstep
    have hfree : ∀ (d : ℕ) (a' : α), s.tokens o ≠ some ⟨d, a'⟩ := fun d a' htoken => by
      rw [show s.tokens o = none from hnested] at htoken
      cases htoken
    refine ⟨by simpa using h.base, by simpa using h.entered, fun d x hx => ?_⟩
    rw [value_set (lt_of_value ha) rfl] at hx
    by_cases hd : d = c
    · subst hd
      rw [if_pos rfl] at hx
      cases hx
      obtain ⟨b, fs, hb, hfs, hlayered⟩ := h.layered d a ha
      refine ⟨b, ⟨o, change⟩ :: fs, hb, by simp [hfs], a, rfl,
        Function.update_self .., fun ho => ?_, hlayered.update (hfree d)⟩
      obtain ⟨a', htoken⟩ := hlayered.token ho
      exact hfree d a' htoken
    · rw [if_neg hd] at hx
      obtain ⟨b, fs, hb, hfs, hlayered⟩ := h.layered d x hx
      exact ⟨b, fs, hb, by simp [Ne.symm hd, hfs],
        hlayered.update (hfree d)⟩
  | exit c o =>
    obtain ⟨a, ha, rfl⟩ := Option.map_eq_some_iff.mp hstep
    exact h.exit ha hnested
  | forget o =>
    cases hstep
    refine ⟨h.base, h.entered, fun d x hx => ?_⟩
    obtain ⟨b, fs, hb, hfs, hlayered⟩ := h.layered d x hx
    refine ⟨b, fs, hb, hfs, hlayered.update fun a' htoken => ?_⟩
    rw [show s.tokens o = none from hnested] at htoken
    cases htoken
  | copy c =>
    obtain ⟨a, ha, rfl⟩ := Option.map_eq_some_iff.mp hstep
    refine ⟨by simp [h.base], by simp [h.entered], fun d x hx => ?_⟩
    rw [value_eq_some_iff, List.getElem?_append] at hx
    split at hx
    · next hlt =>
      obtain ⟨b, fs, hb, hfs, hlayered⟩ := h.layered d x (value_eq_some_iff.mpr hx)
      refine ⟨b, fs, ?_, ?_, hlayered⟩
      · rw [List.getElem?_append_left (h.base ▸ hlt), hb]
      · rw [List.getElem?_append_left (h.entered ▸ hlt), hfs]
    · next hlt =>
      -- The copy starts with the value, and without layers.
      rw [List.getElem?_singleton] at hx
      split at hx
      · next hzero =>
        cases hx
        have hd : d = s.current.length := by omega
        refine ⟨a, [], ?_, ?_, rfl⟩
        · simp [hd, ← h.base]
        · simp [hd, ← h.entered]
      · cases hx
  | drop c =>
    cases hstep
    refine ⟨by simpa using h.base, by simpa using h.entered, fun d x hx => ?_⟩
    have hother : s.value d = some x := by
      rw [value_eq_some_iff, List.getElem?_set] at hx
      split at hx
      · split at hx <;> cases hx
      · exact value_eq_some_iff.mpr hx
    exact h.layered d x hother

/-- **Run.** In every state that a nested run reaches, the value in each context is what the objects
that are entered in it make of the value that it started with. -/
theorem foldr_of_run (hrun : Transition.Run step Nested (State.start b) s)
    (ha : s.value c = some a) :
    ∃ b fs, s.base[c]? = some b ∧ s.entered[c]? = some fs ∧
      a = fs.foldr (fun f x => f.change x) b := by
  have hkept : Kept s := hrun.invariant (kept_start b) fun _ _ _ h hok hstep => h.step hok hstep
  obtain ⟨b, fs, hb, hfs, hlayered⟩ := hkept.layered c a ha
  exact ⟨b, fs, hb, hfs, hlayered.foldr⟩

end Scopes
