import Mathlib.Algebra.Order.Group.Multiset

/-!
# Programs that take and give back resources

A program works on what it holds, a multiset of resources, and on a rest of the state; it ends with
a value, or is stopped by a fault. Giving back what is not held is a fault, so that a program which
ends has given back everything at most once.

`Leads` is the triple of these programs, for whole runs: from the resources `P` the program leads
to an outcome, the resources held then, and a rest of which the postcondition holds, and it leaves
alone whatever else was held. The rules follow the program from its first step on. `Ensures` says
of the value alone what it is, where there is one, whatever was held. `Reports` says of a number in
the rest of the state that it grows exactly where the value is a null.
-/

namespace Ledger

/-- What is held, and the rest of the state. -/
structure Books (ρ τ : Type) where
  /-- The resources that are held. -/
  held : Multiset ρ
  /-- The rest of the state. -/
  rest : τ

/-- A program: its value or the fault that stops it, and the state that it leaves. -/
def Program (ε ρ τ α : Type) : Type := Books ρ τ → Except ε α × Books ρ τ

variable {ε ρ τ α β : Type}

/-- Programs are put one after the other; the first outcome that is no value ends them. -/
instance : Monad (Program ε ρ τ) where
  pure a s := (.ok a, s)
  bind m k s :=
    match m s with
    | (.ok a, s) => k a s
    | (.error e, s) => (.error e, s)

/-- Sequencing does not depend on how it is grouped. -/
instance : LawfulMonad (Program ε ρ τ) := LawfulMonad.mk' _
  (fun m => by
    funext s
    change (match m s with | (.ok a, s) => (.ok a, s) | (.error e, s) => (.error e, s)) = m s
    split <;> next h => exact h.symm)
  (fun _ _ => rfl)
  fun m f g => by
    funext s
    change (match (match m s with | (.ok a, s) => f a s | (.error e, s) => (.error e, s)) with
      | (.ok b, s) => g b s | (.error e, s) => (.error e, s)) =
      match m s with
      | (.ok a, s) => (match f a s with | (.ok b, s) => g b s | (.error e, s) => (.error e, s))
      | (.error e, s) => (.error e, s)
    split <;> next h => split at h <;> simp_all

/-- A fault. -/
def stop (e : ε) : Program ε ρ τ α := fun s => (.error e, s)

/-- Give a resource back, which must be held. -/
def give [DecidableEq ρ] (e : ε) (r : ρ) : Program ε ρ τ Unit := fun s =>
  if r ∈ s.held then (.ok (), { s with held := s.held.erase r }) else (.error e, s)

/-- From the resources `P` and the rest `t`, the program leads to an outcome, resources and a rest
of which `Q` holds, whatever else is held. -/
def Leads (m : Program ε ρ τ α) (P : Multiset ρ) (t : τ)
    (Q : Except ε α → Multiset ρ → τ → Prop) : Prop :=
  ∀ R, ∃ o P' t', m ⟨P + R, t⟩ = (o, ⟨P' + R, t'⟩) ∧ Q o P' t'

variable {m : Program ε ρ τ α} {k : α → Program ε ρ τ β} {P F : Multiset ρ} {t : τ} {a : α} {e : ε}
  {r : ρ} {Q Q' : Except ε α → Multiset ρ → τ → Prop} {S : Except ε β → Multiset ρ → τ → Prop}

/-- A run, from what is held at its start on. -/
theorem Leads.run {s : Books ρ τ} (h : Leads m 0 s.rest Q) :
    ∃ o P' t', m s = (o, ⟨P' + s.held, t'⟩) ∧ Q o P' t' := by
  obtain ⟨o, P', t', hrun, hQ⟩ := h s.held
  rw [zero_add] at hrun
  exact ⟨o, P', t', hrun, hQ⟩

/-- A program that ends at once. -/
theorem Leads.pure (h : Q (.ok a) P t) : Leads (pure a : Program ε ρ τ α) P t Q :=
  fun _ => ⟨_, _, _, rfl, h⟩

/-- A program that stops at once. -/
theorem Leads.stop (h : Q (.error e) P t) : Leads (stop e : Program ε ρ τ α) P t Q :=
  fun _ => ⟨_, _, _, rfl, h⟩

/-- A rule holds of everything that its outcomes imply. -/
theorem Leads.mono (h : Leads m P t Q) (himp : ∀ o P' t', Q o P' t' → Q' o P' t') :
    Leads m P t Q' := fun R => by
  obtain ⟨o, P', t', hrun, hQ⟩ := h R
  exact ⟨o, P', t', hrun, himp o P' t' hQ⟩

/-- A program is led where it is led from the same resources. -/
theorem Leads.cast {P' : Multiset ρ} (h : Leads m P' t Q) (heq : P' = P) : Leads m P t Q := heq ▸ h

/-- **Sequence.** A program and what follows its value. -/
theorem Leads.bind (hm : Leads m P t Q)
    (hk : ∀ a P' t', Q (.ok a) P' t' → Leads (k a) P' t' S)
    (he : ∀ e P' t', Q (.error e) P' t' → S (.error e) P' t') : Leads (m >>= k) P t S := fun R => by
  obtain ⟨o, P', t', hrun, hQ⟩ := hm R
  cases o with
  | ok a =>
    obtain ⟨o, P'', t'', hrun', hS⟩ := hk a P' t' hQ R
    refine ⟨o, P'', t'', ?_, hS⟩
    change (match m ⟨P + R, t⟩ with | (.ok a, s) => k a s | (.error e, s) => (.error e, s)) = _
    rw [hrun]
    exact hrun'
  | error e =>
    refine ⟨.error e, P', t', ?_, he e P' t' hQ⟩
    change (match m ⟨P + R, t⟩ with | (.ok a, s) => k a s | (.error e, s) => (.error e, s)) = _
    rw [hrun]

/-- A step with one outcome, and what follows its value. -/
theorem Leads.step {P' : Multiset ρ} {t' : τ}
    (hrun : ∀ R, m ⟨P + R, t⟩ = (.ok a, ⟨P' + R, t'⟩)) (h : Leads (k a) P' t' S) :
    Leads (m >>= k) P t S :=
  Leads.bind (Q := fun o P'' t'' => o = .ok a ∧ P'' = P' ∧ t'' = t')
    (fun R => ⟨_, _, _, hrun R, rfl, rfl, rfl⟩) (by rintro b _ _ ⟨hb, rfl, rfl⟩; cases hb; exact h)
    (by rintro e _ _ ⟨he, -⟩; cases he)

/-- A program is led where it is led before it returns. -/
theorem Leads.of_bind_pure (h : Leads (m >>= Pure.pure) P t Q) : Leads m P t Q := by
  rw [bind_pure] at h
  exact h

/-- A step that stops. -/
theorem Leads.stop_bind (h : S (.error e) P t) :
    Leads ((Ledger.stop e : Program ε ρ τ α) >>= k) P t S :=
  fun _ => ⟨_, _, _, rfl, h⟩

/-- **Frame.** What is held besides stays. -/
theorem Leads.frame (h : Leads m P t Q) (F : Multiset ρ) :
    Leads m (P + F) t fun o P' t' => ∃ P'', P' = P'' + F ∧ Q o P'' t' := fun R => by
  obtain ⟨o, P', t', hrun, hQ⟩ := h (F + R)
  exact ⟨o, P' + F, t', by rw [add_assoc, hrun, add_assoc], P', rfl, hQ⟩

/-- The program does not end, from wherever it starts. -/
def Stops (m : Program ε ρ τ α) : Prop := ∀ s a s', m s ≠ (.ok a, s')

/-- `stop` stops. -/
theorem stops_stop (e : ε) : Stops (Ledger.stop e : Program ε ρ τ α) := fun s a s' h => by
  cases congrArg Prod.fst h

/-- What follows a program that stops is not reached. -/
theorem Stops.left (h : Stops m) : Stops (m >>= k) := fun s b s' hrun => by
  change (match m s with | (.ok a, s) => k a s | (.error e, s) => (.error e, s)) = _ at hrun
  split at hrun
  · next a s₁ heq => exact h s a s₁ heq
  · cases congrArg Prod.fst hrun

/-- A program stops where what follows its values does. -/
theorem Stops.right (h : ∀ a, Stops (k a)) : Stops (m >>= k) := fun s b s' hrun => by
  change (match m s with | (.ok a, s) => k a s | (.error e, s) => (.error e, s)) = _ at hrun
  split at hrun
  · next a s₁ heq => exact h a s₁ b s' hrun
  · cases congrArg Prod.fst hrun

/-! ## The values of a program -/

/-- Where the program ends, its value has the property. -/
def Ensures (m : Program ε ρ τ α) (A : α → Prop) : Prop := ∀ s a s', m s = (.ok a, s') → A a

section Ensures

variable {A A' : α → Prop} {B : β → Prop}

/-- A program that ends at once. -/
theorem Ensures.pure (h : A a) : Ensures (pure a : Program ε ρ τ α) A := fun _ _ _ hrun => by
  cases hrun
  exact h

/-- A program that never ends. -/
theorem Ensures.stop (e : ε) : Ensures (Ledger.stop e : Program ε ρ τ α) A := fun s a s' hrun =>
  absurd hrun (stops_stop e s a s')

/-- What is ensured of a result implies what follows from it. -/
theorem Ensures.mono (h : Ensures m A) (himp : ∀ a, A a → A' a) : Ensures m A' :=
  fun s a s' hrun => himp a (h s a s' hrun)

/-- **Sequence**, for values. -/
theorem Ensures.bind (hm : Ensures m A) (hk : ∀ a, A a → Ensures (k a) B) :
    Ensures (m >>= k) B := fun s b s' hrun => by
  change (match m s with | (.ok a, s) => k a s | (.error e, s) => (.error e, s)) = _ at hrun
  split at hrun
  · next a s₁ heq => exact hk a (hm s a s₁ heq) s₁ b s' hrun
  · cases congrArg Prod.fst hrun

/-- A first part of which nothing is known. -/
theorem Ensures.right (hk : ∀ a, Ensures (k a) B) : Ensures (m >>= k) B :=
  Ensures.bind (A := fun _ => True) (fun _ _ _ _ => trivial) fun a _ => hk a

end Ensures

/-! ## Reporting -/

/-- Where the program ends with a null, the number `count` has grown; where it ends with another
value, it has not changed. -/
def Reports (count : τ → ℕ) (m : Program ε ρ τ α) (null : α → Prop) : Prop :=
  ∀ s a s', m s = (.ok a, s') → (null a ∧ count s.rest < count s'.rest) ∨
    (¬ null a ∧ count s'.rest = count s.rest)

/-- Where the program ends, its value is a null, and the number `count` has not become less. -/
def Gives (count : τ → ℕ) (m : Program ε ρ τ α) (null : α → Prop) : Prop :=
  ∀ s a s', m s = (.ok a, s') → null a ∧ count s.rest ≤ count s'.rest

section Reports

variable {count : τ → ℕ} {null : α → Prop} {null' : β → Prop}

/-- A program that ends at once, with a value. -/
theorem Reports.pure (h : ¬ null a) : Reports count (pure a : Program ε ρ τ α) null :=
  fun _ _ _ hrun => by
    cases hrun
    exact .inr ⟨h, rfl⟩

/-- A program that never ends. -/
theorem Reports.stop (e : ε) : Reports count (Ledger.stop e : Program ε ρ τ α) null :=
  fun s a s' hrun => absurd hrun (stops_stop e s a s')

/-- A program that ends at once, with a null. -/
theorem Gives.pure (h : null a) : Gives count (pure a : Program ε ρ τ α) null :=
  fun _ _ _ hrun => by
    cases hrun
    exact ⟨h, le_rfl⟩

/-- Where nothing is reported, the number does not become less. -/
theorem Reports.le {s s' : Books ρ τ} (h : Reports count m null) (hrun : m s = (.ok a, s')) :
    count s.rest ≤ count s'.rest := by
  rcases h s a s' hrun with ⟨-, hlt⟩ | ⟨-, heq⟩
  · exact hlt.le
  · exact heq.ge

/-- **Sequence**, for reports: after a null the program gives one, and after a value it reports. -/
theorem Reports.bind (hm : Reports count m null)
    (hnull : ∀ a, null a → Gives count (k a) null')
    (hk : ∀ a, ¬ null a → Reports count (k a) null') : Reports count (m >>= k) null' :=
  fun s b s' hrun => by
    change (match m s with | (.ok a, s) => k a s | (.error e, s) => (.error e, s)) = _ at hrun
    split at hrun
    · next a s₁ heq =>
      rcases hm s a s₁ heq with ⟨ha, hlt⟩ | ⟨ha, hsame⟩
      · obtain ⟨hb, hle⟩ := hnull a ha s₁ b s' hrun
        exact .inl ⟨hb, hlt.trans_le hle⟩
      · rcases hk a ha s₁ b s' hrun with ⟨hb, hlt⟩ | ⟨hb, hsame'⟩
        · exact .inl ⟨hb, hsame ▸ hlt⟩
        · exact .inr ⟨hb, hsame'.trans hsame⟩
    · cases congrArg Prod.fst hrun

/-- A first part that has nothing to report. -/
theorem Reports.after (hm : Reports count m fun _ => False)
    (hk : ∀ a, Reports count (k a) null') : Reports count (m >>= k) null' :=
  hm.bind (fun _ h => h.elim) fun a _ => hk a

/-- A null after a part that may report. -/
theorem Gives.after (hm : Reports count m null) (hk : ∀ a, Gives count (k a) null') :
    Gives count (m >>= k) null' := fun s b s' hrun => by
  change (match m s with | (.ok a, s) => k a s | (.error e, s) => (.error e, s)) = _ at hrun
  split at hrun
  · next a s₁ heq =>
    obtain ⟨hb, hle⟩ := hk a s₁ b s' hrun
    exact ⟨hb, (hm.le heq).trans hle⟩
  · cases congrArg Prod.fst hrun

/-- Giving a resource back reports nothing. -/
theorem Reports.give [DecidableEq ρ] :
    Reports count (Ledger.give e r : Program ε ρ τ Unit) fun _ => False := fun s a s' hrun => by
  unfold Ledger.give at hrun
  split at hrun
  · cases hrun
    exact .inr ⟨id, rfl⟩
  · cases congrArg Prod.fst hrun

/-- Nor does one such part after the other. -/
theorem Reports.forM {γ : Type} {f : γ → Program ε ρ τ PUnit}
    (hf : ∀ x, Reports count (f x) fun _ => False) (xs : List γ) :
    Reports count (xs.forM f) fun _ => False := by
  induction xs with
  | nil => exact .pure id
  | cons x xs ih => exact (hf x).after fun _ => ih

end Reports

section Give

variable [DecidableEq ρ] {Q : Except ε Unit → Multiset ρ → τ → Prop}

/-- A resource that is held can be given back. -/
theorem give_run (e : ε) (r : ρ) (P R : Multiset ρ) (t : τ) :
    give e r ⟨r ::ₘ P + R, t⟩ = (.ok (), ⟨P + R, t⟩) := by
  have hheld : r ∈ r ::ₘ P + R := by simp
  unfold give
  rw [if_pos hheld, Multiset.cons_add, Multiset.erase_cons_head]

/-- Giving back a resource that is held, and then going on. -/
theorem Leads.give_bind {k : Unit → Program ε ρ τ β} (h : Leads (k ()) P t S) :
    Leads (Ledger.give e r >>= k) (r ::ₘ P) t S :=
  .step (fun R => give_run e r P R t) h

/-- Giving back a list of resources, one after the other. -/
theorem Leads.giveAll {γ : Type} (f : γ → ρ) (xs : List γ) (h : Q (.ok ()) P t) :
    Leads (xs.forM fun x => Ledger.give e (f x)) (((xs.map f : List ρ) : Multiset ρ) + P) t Q := by
  induction xs with
  | nil =>
    rw [List.map_nil, Multiset.coe_nil, zero_add]
    exact .pure h
  | cons x xs ih =>
    rw [List.map_cons, ← Multiset.cons_coe, Multiset.cons_add]
    exact .give_bind ih

/-- Giving back a list of resources, and then going on. -/
theorem Leads.giveAll_bind {γ : Type} {k : PUnit → Program ε ρ τ β} (f : γ → ρ) (xs : List γ)
    (h : Leads (k ⟨⟩) P t S) :
    Leads ((xs.forM fun x => Ledger.give e (f x)) >>= k)
      (((xs.map f : List ρ) : Multiset ρ) + P) t S :=
  Leads.bind (Q := fun o P' t' => o = .ok () ∧ P' = P ∧ t' = t) (.giveAll f xs ⟨rfl, rfl, rfl⟩)
    (by rintro - P' t' ⟨-, rfl, rfl⟩; exact h) (by rintro e P' t' ⟨h, -⟩; cases h)

end Give

end Ledger
