import Uringio.Lib.Transition

/-!
# Well-nested entering and exiting

A protocol has objects that are entered and exited. An enter may fail, and is then not exited; what
was entered last is exited first. A session executes such a program, and keeps with each object
that is entered the state before its enter.

`Opened` is the invariant of such programs: layer by layer, the state is one that `opens` relates
to the state before the innermost enter, and this one in turn to the state before the enter around
it. If an exit undoes its own enter whenever its layer is the innermost one, it undoes it in every
well-nested program, whatever was entered and exited in between (`Undoes.opened_of_run`,
`Undoes.same_of_exit`).
-/

namespace Bracket

variable {σ ο ε : Type*}

/-- How an object is entered and exited. An enter says whether it succeeded; `none` where the
program has no defined behaviour. -/
structure Protocol (σ ο ε : Type*) where
  /-- Enter an object, and whether that succeeds. -/
  enter : σ → ο → ε → Option (Bool × σ)
  /-- Exit an object. -/
  exit : σ → ο → ε → Option σ

/-- A step of a program. -/
inductive Command (ο ε : Type*)
  | enter (object : ο) (env : ε)
  | exit (object : ο) (env : ε)

/-- An object that is entered, with the state before its enter. -/
structure Frame (σ ο : Type*) where
  /-- The object that is entered. -/
  object : ο
  /-- The state in which it was entered. -/
  before : σ

/-- A program under way: the objects that are entered, the innermost one first, and those on which
an enter was called. -/
structure Session (σ ο : Type*) where
  /-- The state of the protocol. -/
  state : σ
  /-- The objects that are entered, the last one first. -/
  entered : List (Frame σ ο)
  /-- The objects of which an enter was tried. -/
  tried : List ο

/-- A program that did not start. -/
def Session.start (s : σ) : Session σ ο := ⟨s, [], []⟩

/-- Execute a command. -/
def Protocol.step (P : Protocol σ ο ε) (s : Session σ ο) : Command ο ε → Option (Session σ ο)
  | .enter o e => (P.enter s.state o e).map fun r =>
      ⟨r.2, if r.1 then ⟨o, s.state⟩ :: s.entered else s.entered, o :: s.tried⟩
  | .exit o e => (P.exit s.state o e).map fun t => ⟨t, s.entered.tail, s.tried⟩

/-- Only the innermost object is exited. -/
def Nested (s : Session σ ο) : Command ο ε → Prop
  | .enter _ _ => True
  | .exit o _ => s.entered.head?.map Frame.object = some o

instance [DecidableEq ο] (s : Session σ ο) : ∀ c : Command ο ε, Decidable (Nested s c)
  | .enter _ _ => inferInstanceAs (Decidable True)
  | .exit _ _ => inferInstanceAs (Decidable (_ = _))

/-- No object is entered twice. -/
def Once (s : Session σ ο) : Command ο ε → Prop
  | .enter o _ => o ∉ s.tried
  | .exit _ _ => True

instance [DecidableEq ο] (s : Session σ ο) : ∀ c : Command ο ε, Decidable (Once s c)
  | .enter _ _ => inferInstanceAs (Decidable (_ ∉ _))
  | .exit _ _ => inferInstanceAs (Decidable True)

/-- Each state is what the layer's enter made of the state before it, up to what was undone
since; the outermost layer is that of no object. -/
def Opened (base : σ → Prop) (opens : σ → ο → σ → Prop) : List (Frame σ ο) → σ → Prop
  | [], s => base s
  | f :: fs, s => opens f.before f.object s ∧ Opened base opens fs f.before

/-- An exit undoes the enter of its own layer, and a failed enter undoes itself, up to `same`. The
guard `ok` may say what else is known of the session and the command. -/
structure Undoes (P : Protocol σ ο ε) (ok : Session σ ο → Command ο ε → Prop) (base : σ → Prop)
    (opens : σ → ο → σ → Prop) (same : σ → σ → Prop) : Prop where
  /-- An enter that succeeds opens the object. -/
  enter : ∀ {s o e t}, ok s (.enter o e) → P.enter s.state o e = some (true, t) →
    opens s.state o t
  /-- An enter that fails leaves the same state. -/
  failed : ∀ {s o e t}, ok s (.enter o e) → P.enter s.state o e = some (false, t) →
    same s.state t
  /-- An exit from what an enter opened leads back to the same state. -/
  exit : ∀ {s o e t b}, ok s (.exit o e) → opens b o s.state → P.exit s.state o e = some t →
    same b t
  /-- The base does not tell states apart that are the same. -/
  base_same : ∀ {s t}, base s → same s t → base t
  /-- What is opened is opened in every state that is the same. -/
  opens_same : ∀ {b o s t}, opens b o s → same s t → opens b o t

section Undoes

variable {P : Protocol σ ο ε} {ok : Session σ ο → Command ο ε → Prop} {base : σ → Prop}
  {opens : σ → ο → σ → Prop} {same : σ → σ → Prop}

/-- The layers below do not tell apart states that are the same. -/
theorem Undoes.opened_same (h : Undoes P ok base opens same) {fs : List (Frame σ ο)} {s t : σ}
    (hopened : Opened base opens fs s) (hsame : same s t) : Opened base opens fs t := by
  cases fs with
  | nil => exact h.base_same hopened hsame
  | cons f fs => exact ⟨h.opens_same hopened.1 hsame, hopened.2⟩

/-- **Step.** A command keeps the layers. -/
theorem Undoes.opened_step (h : Undoes P ok base opens same) {s s' : Session σ ο}
    {c : Command ο ε} (hopened : Opened base opens s.entered s.state) (hnested : Nested s c)
    (hok : ok s c) (hstep : P.step s c = some s') : Opened base opens s'.entered s'.state := by
  cases c with
  | enter o e =>
    obtain ⟨⟨entered, t⟩, hcall, rfl⟩ := Option.map_eq_some_iff.mp hstep
    cases entered with
    | true => exact ⟨h.enter hok hcall, hopened⟩
    | false => exact h.opened_same hopened (h.failed hok hcall)
  | exit o e =>
    obtain ⟨t, hcall, rfl⟩ := Option.map_eq_some_iff.mp hstep
    obtain ⟨f, hf, rfl⟩ := Option.map_eq_some_iff.mp hnested
    obtain ⟨fs, hentered⟩ := List.head?_eq_some_iff.mp hf
    rw [hentered] at hopened ⊢
    exact h.opened_same hopened.2 (h.exit hok hopened.1 hcall)

/-- **Run.** In every state that a well-nested program reaches, each layer is as its enter left
it. -/
theorem Undoes.opened_of_run (h : Undoes P ok base opens same) {s₀ : σ} {s : Session σ ο}
    (hbase : base s₀) (hrun : Transition.Run P.step (fun s c => Nested s c ∧ ok s c)
    (.start s₀) s) :
    Opened base opens s.entered s.state :=
  hrun.invariant (P := fun s : Session σ ο => Opened base opens s.entered s.state) hbase
    fun _ _ _ hopened hok hstep => h.opened_step hopened hok.1 hok.2 hstep

/-- An exit restores the state before the matching enter. -/
theorem Undoes.same_of_exit (h : Undoes P ok base opens same) {s s' : Session σ ο} {o : ο} {e : ε}
    {f : Frame σ ο} (hopened : Opened base opens s.entered s.state)
    (hnested : Nested s (.exit o e : Command ο ε)) (hok : ok s (.exit o e))
    (hstep : P.step s (.exit o e) = some s') (hf : s.entered.head? = some f) :
    same f.before s'.state := by
  obtain ⟨t, hcall, rfl⟩ := Option.map_eq_some_iff.mp hstep
  obtain ⟨fs, hentered⟩ := List.head?_eq_some_iff.mp hf
  have hobject : f.object = o := by simpa [Nested, hf] using hnested
  rw [hentered] at hopened
  subst hobject
  exact h.exit hok hopened.1 hcall

end Undoes

/-- The layers say something of a state that does not tell apart what they do not: `read` of the
state is what the enters make, one after the other, of `read` of the outermost state. -/
theorem read_of_opened {α : Type*} {base : σ → Prop} {opens : σ → ο → σ → Prop}
    {read : σ → Option α} {default : α} (change : ο → α → α)
    (hbase : ∀ s, base s → read s = some default)
    (hopens : ∀ b o s a, opens b o s → read b = some a → read s = some (change o a))
    {fs : List (Frame σ ο)} {s : σ} (h : Opened base opens fs s) :
    read s = some (fs.foldr (fun f a => change f.object a) default) := by
  induction fs generalizing s with
  | nil => exact hbase s h
  | cons f fs ih => exact hopens _ _ _ _ h.1 (ih h.2)

/-- What the innermost of the objects that set something sets it to. -/
def innermost {α : Type*} (sets : ο → Option α) (default : α) (entered : List (Frame σ ο)) : α :=
  (entered.findSome? fun f => sets f.object).getD default

/-- Changing a value by each object from the outside in leaves what the innermost object that sets
it sets it to. -/
theorem get_foldr_eq_innermost {α β : Type*} (get : β → α) {sets : ο → Option α}
    {change : ο → β → β} (hget : ∀ o b, get (change o b) = (sets o).getD (get b)) (b : β)
    (entered : List (Frame σ ο)) :
    get (entered.foldr (fun f b => change f.object b) b) = innermost sets (get b) entered := by
  induction entered with
  | nil => rfl
  | cons f fs ih =>
    rw [List.foldr_cons, hget, ih]
    unfold innermost
    rw [List.findSome?_cons]
    cases sets f.object <;> rfl

end Bracket
