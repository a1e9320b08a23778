import Mathlib.Data.List.Basic

/-!
# Functions that unwind by hand

A function in the style of an extension module: it goes through stages, each of which may take
resources; a stage that fails gives back what its own line of the function says, and the function
returns the null pointer. Whether an exception is pending is a value beside the result, which a
stage may set without reporting failure, or leave unset although it fails.

Two conventions are stated on the stages one by one, and follow for the function. If each failure
gives back what the stages before it took (`Unwinds`), a function that leaves early holds nothing
(`walk_balanced`). If no stage clears an exception (`Stage.Sticky`), the functions that leave early
with nothing pending are those with a stage that fails without a word behind stages that pass
(`FailsQuietly`, `left_quietly_iff`). A function goes through with nothing pending if one of its
stages wants that, and those behind it raise nothing (`Settles`, `settled_of_through`). What becomes
of the pending exception on the way through is told stage by stage (`Passes`, `passes_iff`). Whether
a function crashes is asked of the stages together with what comes behind them (`Meets`,
`meets_iff`).
-/

namespace Unwind

/-- How a stage ends: it passes or fails, with the exception that is pending then; or the program
crashes. -/
inductive Ends (ε φ : Type)
  | passes (pending : Option ε)
  | fails (pending : Option ε)
  | crashes (crash : φ)
  deriving DecidableEq

/-- A stage of a function: what it does with the exception that is pending when it starts, the
resources that it takes when it passes, and those that the function gives back when it fails. -/
structure Stage (ε φ ρ : Type) where
  /-- How it ends, by what is pending when it starts. -/
  run : Option ε → Ends ε φ
  /-- The resources that it takes when it passes. -/
  takes : List ρ
  /-- The resources that the function gives back when it fails. -/
  unwinds : List ρ

/-- How a function went through its stages. -/
inductive Walk (ε φ ρ : Type)
  /-- All stages passed; `taken` is what they took. -/
  | through (pending : Option ε) (taken : List ρ)
  /-- A stage failed. -/
  | left (pending : Option ε) (taken given : List ρ)
  | crashed (crash : φ)
  deriving DecidableEq

variable {ε φ ρ : Type}

/-- Go through the stages, with what is pending and what was taken so far. -/
def walk : List (Stage ε φ ρ) → Option ε → List ρ → Walk ε φ ρ
  | [], pending, taken => .through pending taken
  | stage :: stages, pending, taken =>
    match stage.run pending with
    | .passes pending => walk stages pending (taken ++ stage.takes)
    | .fails pending => .left pending taken stage.unwinds
    | .crashes crash => .crashed crash

variable {stage : Stage ε φ ρ} {stages : List (Stage ε φ ρ)} {pending pending' : Option ε}
  {taken taken' given : List ρ} {crash : φ} {fin : Prop}

/-! ## What was taken -/

/-- A function that goes through has taken what its stages take. -/
theorem taken_of_through (h : walk stages pending taken = .through pending' taken') :
    taken' = taken ++ stages.flatMap Stage.takes := by
  induction stages generalizing pending taken with
  | nil =>
    cases h
    simp
  | cons stage stages ih =>
    simp only [walk] at h
    split at h
    · rw [ih h, List.flatMap_cons, List.append_assoc]
    · cases h
    · cases h

/-- A function that goes through passes each stage, and goes through those behind it. -/
theorem through_of_append {before : List (Stage ε φ ρ)}
    (h : walk (before ++ stage :: stages) pending taken = .through pending' taken') :
    ∃ at_stage behind taken₁, stage.run at_stage = .passes behind ∧
      walk stages behind taken₁ = .through pending' taken' := by
  induction before generalizing pending taken with
  | nil =>
    simp only [List.nil_append, walk] at h
    split at h
    · next behind hpasses => exact ⟨pending, behind, _, hpasses, h⟩
    · cases h
    · cases h
  | cons head before ih =>
    simp only [List.cons_append, walk] at h
    split at h
    · exact ih h
    · cases h
    · cases h

/-- The stage never fails. -/
def Stage.Infallible (stage : Stage ε φ ρ) : Prop :=
  ∀ pending pending', stage.run pending ≠ .fails pending'

section Balance

variable [DecidableEq ρ] {r : ρ} {n : ℕ}

/-- Each stage that may fail gives back `r` as often as it was taken before, where `n` counts the
times so far. -/
def Unwinds (r : ρ) : List (Stage ε φ ρ) → ℕ → Prop
  | [], _ => True
  | stage :: stages, n =>
    (stage.Infallible ∨ stage.unwinds.count r = n) ∧ Unwinds r stages (n + stage.takes.count r)

/-- **Nothing is left behind.** A function that leaves early has given back what it took. -/
theorem walk_balanced (hunwinds : Unwinds r stages (taken.count r))
    (h : walk stages pending taken = .left pending' taken' given) :
    given.count r = taken'.count r := by
  induction stages generalizing pending taken with
  | nil => cases h
  | cons stage stages ih =>
    obtain ⟨hstage, hrest⟩ := hunwinds
    simp only [walk] at h
    split at h
    · refine ih ?_ h
      rw [List.count_append]
      exact hrest
    · next hfails =>
      cases h
      rcases hstage with hnever | hcount
      · exact absurd hfails (hnever _ _)
      · exact hcount
    · cases h

end Balance

section Pending

/-- The stage clears no exception. -/
def Stage.Sticky (stage : Stage ε φ ρ) : Prop :=
  ∀ e pending', stage.run (some e) = .passes pending' ∨ stage.run (some e) = .fails pending' →
    pending' ≠ none

/-- The stage passes with nothing pending only, and leaves it so. -/
def Stage.Strict (stage : Stage ε φ ρ) : Prop :=
  ∀ pending pending', stage.run pending = .passes pending' → pending' = none

/-- The stage raises nothing when it passes. -/
def Stage.Clean (stage : Stage ε φ ρ) : Prop :=
  ∀ pending', stage.run none = .passes pending' → pending' = none

/-- A stage fails with nothing pending, and the stages before it pass so. -/
def FailsQuietly : List (Stage ε φ ρ) → Prop
  | [] => False
  | stage :: stages =>
    stage.run none = .fails none ∨ (stage.run none = .passes none ∧ FailsQuietly stages)

/-- There is a stage that wants nothing to be pending, and the stages behind it raise nothing. -/
def Settles : List (Stage ε φ ρ) → Prop
  | [] => False
  | stage :: stages => (stage.Strict ∧ ∀ next ∈ stages, next.Clean) ∨ Settles stages

/-- An exception that is pending stays so. -/
theorem pending_of_left {e : ε} (hsticky : ∀ stage ∈ stages, stage.Sticky)
    (h : walk stages (some e) taken = .left pending' taken' given) : pending' ≠ none := by
  induction stages generalizing e taken with
  | nil => cases h
  | cons stage stages ih =>
    obtain ⟨hstage, hrest⟩ := List.forall_mem_cons.mp hsticky
    simp only [walk] at h
    split at h
    · next after hpasses =>
      obtain ⟨e', rfl⟩ := Option.ne_none_iff_exists'.mp (hstage _ _ (.inl hpasses))
      exact ih hrest h
    · next after hfails =>
      cases h
      exact hstage _ _ (.inr hfails)
    · cases h

/-- **Leaving without an exception.** A function whose stages clear no exception leaves early with
nothing pending exactly if a stage fails so. -/
theorem left_quietly_iff (taken : List ρ) (hsticky : ∀ stage ∈ stages, stage.Sticky) :
    (∃ taken' given, walk stages none taken = .left none taken' given) ↔ FailsQuietly stages := by
  induction stages generalizing taken with
  | nil => simp [walk, FailsQuietly]
  | cons stage stages ih =>
    obtain ⟨-, hrest⟩ := List.forall_mem_cons.mp hsticky
    simp only [walk, FailsQuietly]
    cases hrun : stage.run none with
    | passes pending =>
      cases pending with
      | none => simp [ih _ hrest]
      | some e =>
        -- What is pending now stays so.
        have hloud : ∀ taken' given,
            walk stages (some e) (taken ++ stage.takes) ≠ .left none taken' given :=
          fun _ _ h => pending_of_left hrest h rfl
        simp [hloud]
    | fails pending => simp
    | crashes crash => simp

/-- Stages that raise nothing leave nothing pending. -/
theorem clean_of_through (hclean : ∀ stage ∈ stages, stage.Clean)
    (h : walk stages none taken = .through pending' taken') : pending' = none := by
  induction stages generalizing taken with
  | nil =>
    cases h
    rfl
  | cons stage stages ih =>
    obtain ⟨hstage, hrest⟩ := List.forall_mem_cons.mp hclean
    simp only [walk] at h
    split at h
    · next after hpasses =>
      rw [hstage _ hpasses] at h
      exact ih hrest h
    · cases h
    · cases h

/-- **Going through without an exception.** -/
theorem settled_of_through (hsettles : Settles stages)
    (h : walk stages pending taken = .through pending' taken') : pending' = none := by
  induction stages generalizing pending taken with
  | nil => cases hsettles
  | cons stage stages ih =>
    simp only [walk] at h
    split at h
    · next after hpasses =>
      rcases hsettles with ⟨hstrict, hclean⟩ | hlater
      · rw [hstrict _ _ hpasses] at h
        exact clean_of_through hclean h
      · exact ih hlater h
    · cases h
    · cases h

/-- With an exception pending, a function does not get past a stage that wants nothing pending. -/
theorem not_through_of_pending {e : ε} (hsticky : ∀ stage ∈ stages, stage.Sticky)
    (hstrict : ∃ stage ∈ stages, stage.Strict) :
    walk stages (some e) taken ≠ .through pending' taken' := by
  intro h
  induction stages generalizing e taken with
  | nil =>
    obtain ⟨stage, hmem, -⟩ := hstrict
    cases hmem
  | cons head stages ih =>
    obtain ⟨hhead, hrest⟩ := List.forall_mem_cons.mp hsticky
    simp only [walk] at h
    split at h
    · next after hpasses =>
      have hpending : after ≠ none := hhead _ _ (.inl hpasses)
      obtain ⟨stage, hmem, hwants⟩ := hstrict
      rcases List.mem_cons.mp hmem with rfl | hmem
      · exact hpending (hwants _ _ hpasses)
      · obtain ⟨e', rfl⟩ := Option.ne_none_iff_exists'.mp hpending
        exact ih hrest ⟨stage, hmem, hwants⟩ h
    · cases h
    · cases h

/-- What a stage that clears no exception does with nothing pending: it passes so if `ok`, and fails
so if `quiet`. -/
class Stage.Says (stage : Stage ε φ ρ) (ok quiet : outParam Prop) : Prop where
  /-- It clears no exception. -/
  sticky : stage.Sticky
  /-- When it passes with nothing pending. -/
  passes : stage.run none = .passes none ↔ ok
  /-- When it fails with nothing pending. -/
  fails : stage.run none = .fails none ↔ quiet

variable {ok quiet : Prop}

/-- A stage that passes as another one does, and turns its failures into failures with an exception
or into crashes. -/
theorem Stage.Says.of_failures {stage' : Stage ε φ ρ} (h : stage.Says ok False)
    (hpasses : ∀ pending pending', stage'.run pending = .passes pending' ↔
      stage.run pending = .passes pending')
    (hfails : ∀ pending pending', stage'.run pending = .fails pending' →
      ∃ before, stage.run pending = .fails before ∧ (before ≠ none → pending' ≠ none)) :
    stage'.Says ok False where
  sticky e pending' hends := by
    rcases hends with hends | hends
    · exact h.sticky e pending' (.inl ((hpasses _ _).mp hends))
    · obtain ⟨before, hbefore, hkeeps⟩ := hfails _ _ hends
      exact hkeeps (h.sticky e before (.inr hbefore))
  passes := by rw [hpasses, h.passes]
  fails := by
    refine iff_of_false (fun hends => ?_) id
    obtain ⟨before, hbefore, hkeeps⟩ := hfails _ _ hends
    have hloud : before ≠ none := fun hnone => h.fails.mp (hnone ▸ hbefore)
    exact hkeeps hloud rfl

/-- A stage that says what failed is sticky. -/
@[simp] theorem sticky_of_says [stage.Says ok quiet] : stage.Sticky := Stage.Says.sticky

/-- No stage fails quietly when there is none. -/
@[simp] theorem failsQuietly_nil : ¬ FailsQuietly ([] : List (Stage ε φ ρ)) := id

/-- The stages of a list, one after the other. -/
@[simp] theorem failsQuietly_cons [h : stage.Says ok quiet] :
    FailsQuietly (stage :: stages) ↔ quiet ∨ (ok ∧ FailsQuietly stages) := by
  rw [FailsQuietly, h.fails, h.passes]

end Pending

/-! ## The way through -/

/-- All stages pass, from what is pending at the start to what is pending at the end. -/
def Passes : List (Stage ε φ ρ) → Option ε → Option ε → Prop
  | [], pending, pending' => pending = pending'
  | stage :: stages, pending, pending' =>
    ∃ between, stage.run pending = .passes between ∧ Passes stages between pending'

/-- A function without stages is through. -/
@[simp] theorem passes_nil :
    Passes ([] : List (Stage ε φ ρ)) pending pending' ↔ pending = pending' := Iff.rfl

/-- The function crashes with `crash` on its way, or goes through all its stages to where `fin` says
what becomes of it. -/
def Meets (crash : φ) (fin : Prop) : List (Stage ε φ ρ) → Option ε → Prop
  | [], _ => fin
  | stage :: stages, pending =>
    match stage.run pending with
    | .passes pending => Meets crash fin stages pending
    | .fails _ => False
    | .crashes c => c = crash

/-- **What a function meets on its walk.** -/
theorem meets_iff (taken : List ρ) : Meets crash fin stages pending ↔
    walk stages pending taken = .crashed crash ∨
      (fin ∧ ∃ pending' taken', walk stages pending taken = .through pending' taken') := by
  induction stages generalizing pending taken with
  | nil => simp [Meets, walk]
  | cons stage stages ih =>
    simp only [Meets, walk]
    cases stage.run pending with
    | passes pending => exact ih _
    | fails pending => simp
    | crashes c => simp

/-- When there is no stage left, what is met is the end. -/
@[simp] theorem meets_nil : Meets crash fin ([] : List (Stage ε φ ρ)) pending ↔ fin := Iff.rfl

/-- A stage that passes as it is, or fails, under the condition `ok`. -/
theorem meets_cons_of_guard {ok : Prop} [Decidable ok]
    (hrun : ∃ e, stage.run pending = if ok then .passes pending else .fails e) :
    Meets crash fin (stage :: stages) pending ↔ ok ∧ Meets crash fin stages pending := by
  obtain ⟨e, hrun⟩ := hrun
  rw [Meets, hrun]
  by_cases hok : ok
  · simp [hok]
  · simp [hok]

end Unwind
