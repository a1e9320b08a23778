import Uringio.Loop.Init
import Uringio.Loop.Kind

/-!
# A batch of completions, and cancelled futures

A completion whose future is finished makes `set_result` raise, and the exception stays pending: the
next exception object cannot be made, so its future is not resolved, and the next value is delivered
without its callbacks.

When no such thing happens is decided by one flag that is threaded through the batch
(`Loop.absorbAll`). The proof follows the batch: `Progress` relates the loop before the batch to
the one that a part of it leaves, each completion keeps it (`Progress.read`), and what is left of a
future whose slot is gone does not change any more (`onUringReady_frame`).
-/

namespace Uringio

/-! ## When cancellation is harmless -/

namespace Loop

/-- The future of the completion's slot is finished. -/
def finished (L : Loop) (cqe : Cqe) : Bool :=
  ((registryGet L.registry cqe.index).bind RequestSlot.future).any fun k => L.futures k ≠ .pending

/-- What a completion does to the flag `err` of the pending exception, and whether its request is
removed; `none` when its future should be resolved and is not, or loses its callbacks, or a null
pointer is followed. -/
def absorbKind (err finished : Bool) : Option CompletionKind → Option (Bool × Bool)
  | none => none
  | some .dropped => some (err, false)
  | some .error =>
    if err then if finished then some (false, true) else none else some (finished, true)
  | some .value =>
    if err then if finished then some (true, true) else none else some (finished, true)
  | some .printed => some (finished, true)
  | some .nothing => if finished then some (err, true) else none
  | some .left => some (false, false)

/-- One completion, where `removed` are the slots whose requests were removed. -/
def absorb (L : Loop) (err : Bool) (removed : List ℤ) (env : ReadEnv) (cqe : Cqe) :
    Option (Bool × List ℤ) :=
  if cqe.index ∈ removed then some (err, removed)
  else (absorbKind err (L.finished cqe) (L.completionKind env cqe)).map fun r =>
    (r.1, if r.2 then cqe.index :: removed else removed)

/-- The completions of a batch. -/
def absorbAll (L : Loop) (err : Bool) (removed : List ℤ) :
    List (ReadEnv × Cqe) → Option (Bool × List ℤ)
  | [] => some (err, removed)
  | (env, cqe) :: batch =>
    (L.absorb err removed env cqe).bind fun r => absorbAll L r.1 r.2 batch

/-- The condition: the flag is clear at the end, and each request of the batch was removed. -/
def Absorbs (L : Loop) (batch : List (ReadEnv × Cqe)) : Prop :=
  ∃ removed, L.absorbAll false [] batch = some (false, removed) ∧
    ∀ x ∈ batch, L.registry.Live x.2.index → x.2.index ∈ removed

/-- What reading a batch should do, whichever futures were finished before. -/
structure Harmless (L : Loop) (batch : List (ReadEnv × Cqe)) (L' : Loop)
    (calls : List (FutureRef × Outcome)) : Prop where
  /-- The completion of a finished future is dropped. -/
  dropped : ∀ k, L.futures k ≠ .pending → L'.futures k = L.futures k
  /-- Every other future is resolved, by one call. -/
  resolved : ∀ x ∈ batch, ∀ k, L.Serves x.2.index k → L.futures k = .pending →
    ∃ o, calls.filter (·.1 = k) = [(k, o)] ∧ L'.futures k = .done o
  /-- Every slot is freed. -/
  freed : ∀ x ∈ batch, ¬ L'.registry.Live x.2.index

/-! ## The batch -/

variable {L M M' : Loop} {env : ReadEnv} {cqe : Cqe} {r : Read} {k : ℕ} {err : Bool}
  {removed : List ℤ} {calls : List (FutureRef × Outcome)} {batch : List (ReadEnv × Cqe)}

/-- What a part of the batch made of the loop `L`. -/
structure Progress (L : Loop) (err : Bool) (removed : List ℤ) (calls : List (FutureRef × Outcome))
    (M : Loop) : Prop where
  /-- The loop is sound. -/
  sound : M.Sound
  /-- What is pending is known. -/
  err : M.err = err
  /-- The slots that were not removed are as they were. -/
  kept : ∀ i, i ∉ removed → registryGet M.registry i = registryGet L.registry i
  /-- Those that were removed are free. -/
  gone : ∀ i ∈ removed, ¬ M.registry.Live i
  /-- The payloads have the same buffers, but for those that were removed. -/
  payloads : ∀ p, (∀ i ∈ removed, ∀ k, L.Serves i k → p ≠ .own k) →
    (L.payloads p).SameBuffers (M.payloads p)
  /-- A future that was done is as it was. -/
  finished : ∀ k, L.futures k ≠ .pending → M.futures k = L.futures k
  /-- A future whose request was not removed is as it was, and was not resolved. -/
  untouched : ∀ k, (∀ i ∈ removed, ¬ L.Serves i k) →
    M.futures k = L.futures k ∧ calls.filter (·.1 = k) = []
  /-- A pending future whose request was removed was resolved once, and is done. -/
  resolved : ∀ i ∈ removed, ∀ k, L.Serves i k → L.futures k = .pending →
    ∃ o, calls.filter (·.1 = k) = [(k, o)] ∧ M.futures k = .done o

/-- At the start nothing was removed or called. -/
theorem Progress.start (h : L.Sound) : Progress L L.err [] [] L where
  sound := h
  err := rfl
  kept _ _ := rfl
  gone _ hi := by cases hi
  payloads _ _ := .refl _
  finished _ _ := rfl
  untouched _ _ := ⟨rfl, rfl⟩
  resolved _ hi := by cases hi

/-- The slot of a request that is still there serves the same call. -/
theorem Progress.serves (hp : Progress L err removed calls M) {i : ℤ} (hi : i ∉ removed) :
    M.Serves i k ↔ L.Serves i k := serves_congr (hp.kept i hi)

/-- A call whose request is still there is not one of a slot that was freed. -/
theorem Progress.not_removed (hL : L.Sound) {i : ℤ} (hi : i ∉ removed) (hs : L.Serves i k) :
    ∀ j ∈ removed, ¬ L.Serves j k := fun j hj hs' => hi (hL.injective i j k hs hs' ▸ hj)

/-- The kind of a completion depends on what the payload points to, not on its pool. -/
theorem switchKind_congr {payloads payloads' : PayloadRef → BufferPayload} {slot : RequestSlot}
    (h : ∀ p, slot.buffer_payload = some p → (payloads p).SameBuffers (payloads' p)) :
    switchKind payloads' env slot cqe = switchKind payloads env slot cqe := by
  cases hp : slot.buffer_payload with
  | none => simp only [switchKind, hp, Option.map_none]
  | some p =>
    have hsame := h p hp
    have hfirst : (payloads' p).first = (payloads p).first := by
      unfold BufferPayload.first
      rw [hsame.linear]
    have hok : (payloads' p).poolOk = (payloads p).poolOk := by
      unfold BufferPayload.poolOk
      rw [hsame.mode, hsame.pool]
    simp only [switchKind, hp, Option.map_some, Option.bind_some, Option.elim_some,
      BufferPayload.releasing, multishotKind, hfirst, hok, hsame.vector, hsame.payload_type]

/-- A completion whose index was not removed is of the kind that it had before. -/
theorem Progress.completionKind (hL : L.Sound) (hp : Progress L err removed calls M)
    (hi : cqe.index ∉ removed) : M.completionKind env cqe = L.completionKind env cqe := by
  unfold Loop.completionKind
  rw [hp.kept _ hi]
  cases hget : registryGet L.registry cqe.index with
  | none => rfl
  | some slot =>
    cases hfut : slot.future with
    | none => simp only [slotKind, hfut, Option.isNone_none, if_true]
    | some k =>
      obtain ⟨-, hs, -⟩ := hL.slots _ slot k hget hfut
      have hfree := Progress.not_removed hL hi ⟨slot, hget, hfut⟩
      have hswitch : switchKind M.payloads env slot cqe = switchKind L.payloads env slot cqe := by
        refine switchKind_congr fun p hslot => hp.payloads p fun i hi' j hj => ?_
        rintro rfl
        rcases hs.payload _ hslot with hown | ⟨⟨n, hn⟩, -⟩
        · cases hown
          exact hfree i hi' hj
        · cases hn
      simp only [slotKind, hswitch]

/-- The flag of the future of a slot in use. -/
theorem finished_of_serves (hs : L.Serves cqe.index k) :
    L.finished cqe = decide (L.futures k ≠ .pending) := by
  obtain ⟨slot, hget, hfut⟩ := hs
  unfold finished
  rw [hget]
  simp [hfut]

/-! ## One completion -/

/-- A completion whose request is removed: its future was finished before, or it is resolved. -/
theorem Progress.finish {slot : RequestSlot} {e : Bool} (hL : L.Sound)
    (hp : Progress L err removed calls M) (hi : cqe.index ∉ removed)
    (hget : registryGet M.registry cqe.index = some slot) (hfut : slot.future = some k)
    (hfin : Finished M k slot cqe r) (herr : r.loop.err = e)
    (hfinished : L.futures k ≠ .pending → r.loop.futures k = L.futures k)
    (hpending : L.futures k = .pending → ∃ o, r.call = some (k, o) ∧ r.loop.futures k = .done o) :
    Progress L e (cqe.index :: removed) (calls ++ r.call.toList) r.loop := by
  have hserves : L.Serves cqe.index k := (hp.serves hi).mp ⟨slot, hget, hfut⟩
  have hfree := Progress.not_removed hL hi hserves
  -- The call that was made, if any, is of no interest to the other futures.
  have hcall : ∀ j, j ≠ k → r.call.toList.filter (·.1 = j) = [] := by
    intro j hj
    cases hc : r.call with
    | none => rfl
    | some fo =>
      have hf := hfin.call fo.1 fo.2 hc
      simp [hf, Ne.symm hj]
  refine ⟨hp.sound.finished hget hfut hfin, herr, fun i hi' => ?_, fun i hi' => ?_,
    fun p hne => ?_, fun j hj => ?_, fun j hj => ?_, fun i hi' j hj hpend => ?_⟩
  · simp only [List.mem_cons, not_or] at hi'
    exact (hfin.others i hi'.1).trans (hp.kept i hi'.2)
  · rcases List.mem_cons.mp hi' with heq | hmem
    · rw [heq]
      exact hfin.dead
    · have hne : i ≠ cqe.index := fun heq => hi (heq ▸ hmem)
      rw [RequestRegistry.live_congr (hfin.others i hne)]
      exact hp.gone i hmem
  · exact (hp.payloads p fun i hi' => hne i (List.mem_cons_of_mem _ hi')).trans
      (hfin.frame.payloads p (hne _ List.mem_cons_self k hserves))
  · by_cases hjk : j = k
    · subst hjk
      exact hfinished hj
    · exact (hfin.frame.futures j hjk).trans (hp.finished j hj)
  · have hjk : j ≠ k := by
      rintro rfl
      exact hj _ List.mem_cons_self hserves
    obtain ⟨hsame, hnone⟩ := hp.untouched j fun i hi' => hj i (List.mem_cons_of_mem _ hi')
    refine ⟨(hfin.frame.futures j hjk).trans hsame, ?_⟩
    rw [List.filter_append, hnone, hcall j hjk, List.nil_append]
  · by_cases hjk : j = k
    · subst hjk
      obtain ⟨o, hc, hdone⟩ := hpending hpend
      refine ⟨o, ?_, hdone⟩
      rw [List.filter_append, (hp.untouched j hfree).2, hc]
      simp
    · have hmem : i ∈ removed := by
        rcases List.mem_cons.mp hi' with heq | hmem
        · exact absurd ((heq ▸ hj).unique hserves) hjk
        · exact hmem
      obtain ⟨o, hone, hdone⟩ := hp.resolved i hmem j hj hpend
      refine ⟨o, ?_, (hfin.frame.futures j hjk).trans hdone⟩
      rw [List.filter_append, hone, hcall j hjk, List.append_nil]

/-- A completion whose request stays. -/
theorem Progress.leave {slot : RequestSlot} (hp : Progress L err removed calls M)
    (hget : registryGet M.registry cqe.index = some slot) (hfut : slot.future = some k)
    (hleft : Left M k slot env cqe r)
    (hsilent : Silent M k false r) :
    Progress L false removed (calls ++ r.call.toList) r.loop := by
  have hlt := (hp.sound.slots _ slot k hget hfut).1
  have hfutures : ∀ j, r.loop.futures j = M.futures j := by
    intro j
    by_cases hj : j = k
    · rw [hj]
      exact hsilent.futures
    · exact hleft.frame.futures j hj
  rw [hsilent.call, Option.toList_none, List.append_nil]
  exact
    { sound := hp.sound.left hlt hleft
      err := hsilent.err
      kept := fun i hi' => by rw [hleft.registry]; exact hp.kept i hi'
      gone := fun i hi' => by rw [hleft.registry]; exact hp.gone i hi'
      payloads := fun p hne => by rw [hleft.payloads]; exact hp.payloads p hne
      finished := fun j hj => (hfutures j).trans (hp.finished j hj)
      untouched := fun j hj =>
        ⟨(hfutures j).trans (hp.untouched j hj).1, (hp.untouched j hj).2⟩
      resolved := fun i hi' j hj hpend => by
        rw [hfutures j]
        exact hp.resolved i hi' j hj hpend }

/-- A completion of a request that is not there any more. -/
theorem Progress.drop (hp : Progress L err removed calls M) (hdead : ¬ M.registry.Live cqe.index) :
    ∃ r, readCqe M env cqe = .ok r ∧ Progress L err removed (calls ++ r.call.toList) r.loop :=
  ⟨_, readCqe_of_not_live hdead, by simpa using hp⟩

/-- The kind of a completion whose slot is not in use. -/
theorem kind_of_not_live (h : ¬ L.registry.Live cqe.index) :
    L.completionKind env cqe = some .dropped := by
  unfold Loop.completionKind
  cases hget : registryGet L.registry cqe.index with
  | none => rfl
  | some slot =>
    cases hfut : slot.future with
    | none => simp only [slotKind, hfut, Option.isNone_none, if_true]
    | some k => exact absurd ⟨slot, hget, by rw [hfut]; rfl⟩ h

/-- The part of the batch before a completion, if the completion is absorbed. -/
theorem Progress.read {err' : Bool} {removed' : List ℤ} (hL : L.Sound)
    (hp : Progress L err removed calls M)
    (h : L.absorb err removed env cqe = some (err', removed')) :
    ∃ r, readCqe M env cqe = .ok r ∧ Progress L err' removed' (calls ++ r.call.toList) r.loop := by
  unfold absorb at h
  split at h
  · next hmem =>
    cases h
    exact hp.drop (hp.gone _ hmem)
  · next hi =>
    obtain ⟨⟨e, gone⟩, habsorb, heq⟩ := Option.map_eq_some_iff.mp h
    cases heq
    by_cases hlive : M.registry.Live cqe.index
    · obtain ⟨slot, hget, hsome⟩ := hlive
      obtain ⟨k, hfut⟩ := Option.isSome_iff_exists.mp hsome
      have hserves := (hp.serves hi).mp ⟨slot, hget, hfut⟩
      have hsame : M.futures k = L.futures k :=
        (hp.untouched k (Progress.not_removed hL hi hserves)).1
      obtain ⟨kind?, hkind⟩ : ∃ kind?, L.completionKind env cqe = kind? := ⟨_, rfl⟩
      have hreads := readCqe_kind hp.sound hget hfut ((hp.completionKind hL hi).trans hkind)
      rw [hkind, finished_of_serves hserves] at habsorb
      have herr := hp.err
      have hfinish := fun (r : Read) (e : Bool) => hp.finish (r := r) (e := e) hL hi hget hfut
      cases kind? with
      | none => cases habsorb
      | some kind =>
        obtain ⟨r, hread, hdoes, hcase⟩ := hreads
        refine ⟨r, hread, ?_⟩
        -- What a call of `set_result` or `set_exception` leaves.
        have hdelivered : ∀ e, Delivered M k e r → kind ≠ .left →
            (e = true → L.futures k ≠ .pending) →
              Progress L (e || decide (L.futures k ≠ .pending)) (cqe.index :: removed)
              (calls ++ r.call.toList) r.loop := by
          intro e hd hkind hclear
          rw [if_neg hkind] at hcase
          obtain ⟨o, hc, hres⟩ := hd.call
          rw [hsame] at hres
          refine hfinish r _ hcase (by rw [hd.err, hsame]) (fun hne => ?_) fun hpend => ?_
          · rw [hres, if_neg hne]
          · exact ⟨o, hc, by rw [hres, if_pos hpend, if_neg fun he => hclear he hpend]⟩
        have hsilent : ∀ e, Silent M k e r → kind ≠ .left → L.futures k ≠ .pending →
            Progress L e (cqe.index :: removed) (calls ++ r.call.toList) r.loop := by
          intro e hs hkind hne
          rw [if_neg hkind] at hcase
          exact hfinish r e hcase hs.err (fun _ => hs.futures.trans hsame) fun hpend =>
            absurd hpend hne
        cases kind with
        | dropped => exact hdoes.elim
        | error =>
          simp only [absorbKind] at habsorb
          simp only [Does, herr] at hdoes
          split at habsorb
          · next he =>
            rw [if_pos he] at hdoes
            split at habsorb
            · next hfin =>
              cases habsorb
              exact hsilent _ hdoes (by simp) (by simpa using hfin)
            · cases habsorb
          · next he =>
            rw [if_neg he] at hdoes
            cases habsorb
            simpa using hdelivered _ hdoes (by simp) (by simp)
        | value =>
          simp only [absorbKind] at habsorb
          simp only [Does, herr] at hdoes
          -- A future that is finished may be read while an exception is pending, no other one.
          split at habsorb
          · next he =>
            split at habsorb
            · next hfin =>
              cases habsorb
              simpa [he] using hdelivered _ hdoes (by simp) fun _ => by simpa using hfin
            · cases habsorb
          · next he =>
            cases habsorb
            simpa [he] using hdelivered _ hdoes (by simp) fun h => absurd h he
        | printed =>
          cases habsorb
          simpa using hdelivered _ hdoes (by simp) (by simp)
        | nothing =>
          simp only [absorbKind] at habsorb
          split at habsorb
          · next hfin =>
            cases habsorb
            simpa [herr] using hsilent _ hdoes (by simp) (by simpa using hfin)
          · cases habsorb
        | left =>
          cases habsorb
          exact hp.leave hget hfut (by simpa using hcase) hdoes
    · have hdead : ¬ L.registry.Live cqe.index := by
        rwa [← RequestRegistry.live_congr (hp.kept _ hi)]
      rw [kind_of_not_live hdead] at habsorb
      cases habsorb
      exact hp.drop hlive

/-- The future of `k`, which should have been resolved by the read of a completion, was not, and
no slot is left that could still do so. -/
structure Missed (L : Loop) (k : ℕ) (cqe : Cqe) (r : Read) : Prop where
  /-- The loop that is left is sound. -/
  sound : r.loop.Sound
  /-- The slot of the completion served `k`. -/
  serves : L.Serves cqe.index k
  /-- The future was pending. -/
  pending : L.futures k = .pending
  /-- It is not resolved with its callbacks scheduled. -/
  missed : ∀ o, r.loop.futures k ≠ .done o
  /-- Nothing serves it any more. -/
  dead : ∀ i, ¬ r.loop.Serves i k

/-- A completion that is not absorbed: the reader follows a null pointer, or a request is removed
whose future is still pending, or lost its callbacks. -/
theorem Progress.stuck (hL : L.Sound) (hp : Progress L err removed calls M)
    (h : L.absorb err removed env cqe = none) :
    (∃ e, readCqe M env cqe = .error e) ∨
      ∃ r k, readCqe M env cqe = .ok r ∧ Missed L k cqe r := by
  unfold absorb at h
  split at h
  · cases h
  · next hi =>
    have habsorb := Option.map_eq_none_iff.mp h
    have hlive : M.registry.Live cqe.index := by
      by_contra hdead
      rw [RequestRegistry.live_congr (hp.kept _ hi)] at hdead
      rw [kind_of_not_live hdead] at habsorb
      cases habsorb
    obtain ⟨slot, hget, hsome⟩ := hlive
    obtain ⟨k, hfut⟩ := Option.isSome_iff_exists.mp hsome
    have hserves := (hp.serves hi).mp ⟨slot, hget, hfut⟩
    have hsame : M.futures k = L.futures k :=
      (hp.untouched k (Progress.not_removed hL hi hserves)).1
    obtain ⟨kind?, hkind⟩ : ∃ kind?, L.completionKind env cqe = kind? := ⟨_, rfl⟩
    have hreads := readCqe_kind hp.sound hget hfut ((hp.completionKind hL hi).trans hkind)
    rw [hkind, finished_of_serves hserves] at habsorb
    have herr := hp.err
    -- The future of a request that is removed without being resolved.
    have hmissed : ∀ r, readCqe M env cqe = .ok r → Finished M k slot cqe r →
        L.futures k = .pending → (∀ o, r.loop.futures k ≠ .done o) →
        ∃ r k, readCqe M env cqe = .ok r ∧ Missed L k cqe r := by
      intro r hread hfin hpend hnot
      refine ⟨r, k, hread, hp.sound.finished hget hfut hfin, hserves, hpend, hnot, fun i hi' => ?_⟩
      obtain ⟨hne, hi''⟩ := (serves_finished hfin).mp hi'
      exact hne (hp.sound.injective i _ k hi'' ⟨slot, hget, hfut⟩)
    have hsilent : ∀ r e, Silent M k e r → L.futures k = .pending →
        ∀ o, r.loop.futures k ≠ .done o := by
      intro r e hs hpend o hdone
      rw [hs.futures, hsame, hpend] at hdone
      cases hdone
    rcases kind? with - | ⟨- | - | - | - | - | -⟩
    · exact .inl hreads
    · cases habsorb
    · obtain ⟨r, hread, hdoes, hcase⟩ := hreads
      simp only [absorbKind] at habsorb
      simp only [Does, herr] at hdoes
      split at habsorb
      · next he =>
        rw [if_pos he] at hdoes
        split at habsorb
        · cases habsorb
        · next hfin =>
          have hpend : L.futures k = .pending := by simpa using hfin
          exact .inr (hmissed r hread hcase hpend (hsilent r _ hdoes hpend))
      · cases habsorb
    · obtain ⟨r, hread, hdoes, hcase⟩ := hreads
      simp only [absorbKind] at habsorb
      simp only [Does, herr] at hdoes
      split at habsorb
      · next he =>
        split at habsorb
        · cases habsorb
        · next hfin =>
          -- `set_result` is called on a pending future while an exception is pending.
          have hpend : L.futures k = .pending := by simpa using hfin
          obtain ⟨o, -, hlost⟩ := hdoes.call
          rw [hsame, if_pos hpend, if_pos he] at hlost
          refine .inr (hmissed r hread hcase hpend fun o' hdone => ?_)
          rw [hlost] at hdone
          cases hdone
      · cases habsorb
    · cases habsorb
    · obtain ⟨r, hread, hdoes, hcase⟩ := hreads
      simp only [absorbKind] at habsorb
      split at habsorb
      · cases habsorb
      · next hfin =>
        have hpend : L.futures k = .pending := by simpa using hfin
        exact .inr (hmissed r hread hcase hpend (hsilent r _ hdoes hpend))
    · cases habsorb

/-! ## Batches -/

/-- A future that no slot is in use for is left as it is. -/
theorem onUringReady_frame (hM : M.Sound) (hk : ∀ i, ¬ M.Serves i k)
    (h : onUringReady M batch = .ok (M', calls)) : M'.futures k = M.futures k := by
  induction batch generalizing M calls with
  | nil =>
    cases h
    rfl
  | cons x batch ih =>
    obtain ⟨r, hread, h⟩ := bind_eq_ok.mp h
    obtain ⟨⟨M₁, rest⟩, hrest, h⟩ := bind_eq_ok.mp h
    cases h
    rcases hM.read_cases hread with ⟨-, rfl⟩ | ⟨slot, j, hget, hfut, -, hleft | hfin⟩
    · exact ih hM hk hrest
    · have hjk : k ≠ j := fun heq => hk _ ⟨slot, hget, heq ▸ hfut⟩
      refine (ih (hM.read hread) (fun i hs => ?_) hrest).trans (hleft.frame.futures k hjk)
      exact hk i ((serves_congr (by rw [hleft.registry])).mp hs)
    · have hjk : k ≠ j := fun heq => hk _ ⟨slot, hget, heq ▸ hfut⟩
      refine (ih (hM.read hread) (fun i hs => ?_) hrest).trans (hfin.frame.futures k hjk)
      exact hk i ((serves_finished hfin).mp hs).2

/-- A batch that is absorbed. -/
theorem Progress.readAll {err' : Bool} {removed' : List ℤ} (hL : L.Sound)
    (hp : Progress L err removed calls M)
    (h : L.absorbAll err removed batch = some (err', removed')) :
    ∃ M' calls', onUringReady M batch = .ok (M', calls') ∧
      Progress L err' removed' (calls ++ calls') M' := by
  induction batch generalizing err removed calls M with
  | nil =>
    cases h
    exact ⟨M, [], rfl, by simpa using hp⟩
  | cons x batch ih =>
    obtain ⟨⟨e, gone⟩, habsorb, h⟩ := Option.bind_eq_some_iff.mp h
    obtain ⟨r, hread, hp'⟩ := hp.read hL habsorb
    obtain ⟨M', calls', hrest, hp''⟩ := ih hp' h
    rw [List.append_assoc] at hp''
    exact ⟨M', _, bind_eq_ok.mpr ⟨r, hread, bind_eq_ok.mpr ⟨_, hrest, rfl⟩⟩, hp''⟩

/-- A batch that is not absorbed leaves one of its requests without a future that is resolved and
has its callbacks scheduled. -/
theorem Progress.stuckAll (hL : L.Sound) (hp : Progress L err removed calls M)
    (h : L.absorbAll err removed batch = none) {calls' : List (FutureRef × Outcome)}
    (hrun : onUringReady M batch = .ok (M', calls')) :
    ∃ x ∈ batch, ∃ k, L.Serves x.2.index k ∧ L.futures k = .pending ∧
      ∀ o, M'.futures k ≠ .done o := by
  induction batch generalizing err removed calls calls' M with
  | nil => cases h
  | cons x batch ih =>
    obtain ⟨r, hread, hrun⟩ := bind_eq_ok.mp hrun
    obtain ⟨⟨M₁, rest⟩, hrest, hrun⟩ := bind_eq_ok.mp hrun
    cases hrun
    cases habsorb : L.absorb err removed x.1 x.2 with
    | none =>
      rcases hp.stuck hL habsorb with ⟨e, herror⟩ | ⟨r', k, hread', hmiss⟩
      · rw [hread] at herror
        cases herror
      · rw [hread] at hread'
        cases hread'
        refine ⟨x, List.mem_cons_self, k, hmiss.serves, hmiss.pending, fun o hdone => ?_⟩
        rw [onUringReady_frame hmiss.sound hmiss.dead hrest] at hdone
        exact hmiss.missed o hdone
    | some e =>
      obtain ⟨r', hread', hp'⟩ := hp.read hL habsorb
      rw [hread] at hread'
      cases hread'
      simp only [absorbAll, habsorb, Option.bind_some] at h
      obtain ⟨y, hy, hlost⟩ := ih hp' h hrest
      exact ⟨y, List.mem_cons_of_mem _ hy, hlost⟩

/-- Which slots of the batch are free at the end. -/
theorem Progress.releases_iff (hp : Progress L err removed calls M) :
    (∀ x ∈ batch, ¬ M.registry.Live x.2.index) ↔
      ∀ x ∈ batch, L.registry.Live x.2.index → x.2.index ∈ removed := by
  constructor
  · intro h x hx hlive
    by_contra hi
    exact h x hx ((RequestRegistry.live_congr (hp.kept _ hi)).mpr hlive)
  · intro h x hx hlive
    by_cases hi : x.2.index ∈ removed
    · exact hp.gone _ hi hlive
    · exact hi (h x hx ((RequestRegistry.live_congr (hp.kept _ hi)).mp hlive))

/-- A batch whose requests were all removed did what it should. -/
theorem Progress.harmless (hp : Progress L err removed calls M)
    (hfreed : ∀ x ∈ batch, L.registry.Live x.2.index → x.2.index ∈ removed) :
    Harmless L batch M calls where
  dropped := hp.finished
  resolved x hx k hs hpend :=
    hp.resolved _ (hfreed x hx (live_iff_serves.mpr ⟨k, hs⟩)) k hs hpend
  freed := hp.releases_iff.mpr hfreed

end Loop

open Loop

/-- Two timers on a registry of two slots; the future of the first one is cancelled. -/
def cancelledTimer : Except Fault Loop := do
  let L := (Loop.init 2 CInt.two_lt Sample.world Sample.initEnv).1
  let first ← L.call Sample.context (.timer 1 0 0 false) Sample.callEnv
  let second ← first.loop.call Sample.context (.timer 2 0 0 false) Sample.callEnv
  .ok { second.loop with futures := Function.update second.loop.futures 0 .cancelled }

/-- The completion of the second timer, which the kernel cancelled. -/
def secondTimer : ReadEnv × Cqe := (Sample.readEnv, ⟨0, -125, 0⟩)

/-- The completion of the first timer, which has expired, and then that of the second one. -/
def bothTimers : List (ReadEnv × Cqe) := [(Sample.readEnv, ⟨1, -ETIME, 0⟩), secondTimer]

/-- The loop with the cancelled timer is sound. -/
theorem cancelledTimer_sound {L : Loop} (h : cancelledTimer = .ok L) : L.Sound := by
  have hstart : (Loop.init 2 (by decide) Sample.world Sample.initEnv).1.Sound :=
    Loop.sound_init Sample.world_sound
  obtain ⟨first, hfirst, h⟩ := bind_eq_ok.mp h
  obtain ⟨second, hsecond, h⟩ := bind_eq_ok.mp h
  cases h
  exact ((hstart.call hfirst).call hsecond).congr rfl rfl rfl rfl

/-- The loop with the cancelled timer exists, and its batch leaves the second timer's future
pending. -/
theorem cancelledTimer_isOk : ∃ L, cancelledTimer = .ok L ∧ L.err = false ∧
    L.Serves 0 1 ∧ L.futures 1 = .pending ∧
    (onUringReady L bothTimers).toOption.map (·.1.futures 1) = some .pending ∧
    L.absorbAll false [] [secondTimer] = some (false, [0]) := by
  have hsome : cancelledTimer.toOption.isSome := by decide +kernel
  cases h : cancelledTimer with
  | error e =>
    rw [h] at hsome
    cases hsome
  | ok L =>
    have eval : ∀ {β : Type} (f : Loop → β) (b : β), cancelledTimer.toOption.map f = some b →
        f L = b := by
      intro β f b hf
      rw [h] at hf
      exact Option.some.inj hf
    have herr : L.err = false := eval Loop.err false (by decide +kernel)
    have hslot := eval (fun L => (registryGet L.registry 0).bind RequestSlot.future) (some 1)
      (by decide +kernel)
    have hpend : L.futures 1 = .pending := eval (Loop.futures · 1) .pending (by decide +kernel)
    have hread := eval (fun L => (onUringReady L bothTimers).toOption.map (·.1.futures 1))
      (some .pending) (by decide +kernel)
    have habsorb := eval (fun L => L.absorbAll false [] [secondTimer]) (some (false, [0]))
      (by decide +kernel)
    exact ⟨L, rfl, herr, Option.bind_eq_some_iff.mp hslot, hpend, hread, habsorb⟩

end Uringio
