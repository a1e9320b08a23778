import Uringio.Context.Registrations
import Uringio.Ring.Submission

/-!
# What entering and leaving do to the registrations

The switch on entering registers exactly the buffers of its payload when nothing goes wrong that it
does not look at (`Accepts`), and then the switch on leaving takes exactly these back (`Releases`).
What the switches do not look at is what happens to the entry that they submit, whether a ring
could be set up, and that a table stays registered without a pool of indices.
-/

namespace Uringio

variable {ring : Ring} {failure r : ℤ}

/-! ## Submitting one entry -/

/-- Without an entry to fill, or when the submission fails, nothing is consumed and the call
fails. -/
theorem submitOp_refused (fill : Sqe → Sqe) (hfailure : failure < 0) (h : ring.free = 0 ∨ r < 0) :
    (submitOp ring none fill failure r).result < 0 ∧
      (submitOp ring none fill failure r).consumed = [] := by
  unfold submitOp
  rcases sqeWithOptionalTimeout_cases ring none with
    ⟨-, hreserved⟩ | ⟨-, hreq, -⟩ | ⟨hfree, -, ring', e, link, hreserved, hw, -⟩
  · rw [hreserved]
    exact ⟨show (-1 : ℤ) < 0 by decide, rfl⟩
  · cases hreq
  · have hr : r < 0 := h.resolve_left (by omega)
    rw [hreserved]
    obtain ⟨hresult, -, hconsumed⟩ := fillAndSubmit_spec hw fill failure r
    exact ⟨by simpa [hresult, hr] using hfailure, hconsumed hr⟩

/-- When the kernel consumes the whole queue, it consumes the entry of the call last. -/
theorem submitOp_consumed (fill : Sqe → Sqe) (failure : ℤ) (hfree : 0 < ring.free)
    (hr : (ring.window.length : ℤ) < r) :
    0 ≤ (submitOp ring none fill failure r).result ∧ ∃ e,
      (submitOp ring none fill failure r).consumed = ring.window ++ [(ring.tail, fill e)] := by
  cases hget : getSqe ring with
  | none =>
    have := getSqe_eq_none.mp hget
    omega
  | some p =>
    obtain ⟨sqe, ring'⟩ := p
    obtain ⟨rfl, -, -, hw⟩ := getSqe_eq_some hget
    have hfill := ring'.window_modify_at hw fill
    have hnot : ¬ r < 0 := by omega
    simp only [submitOp, sqeWithOptionalTimeout, createSqe, hget, timeout, lt_irrefl, if_false,
      fillAndSubmit, submit, hnot]
    refine ⟨by decide, (ring.cell ring.tail).reserved, ?_⟩
    rw [hfill, List.take_of_length_le]
    simp only [List.length_append, List.length_singleton]
    omega

/-! ## What the kernel does with the entries -/

/-- The entries that change the registrations. -/
def Sqe.registers (sqe : Sqe) : Bool :=
  match sqe.prep with
  | some (.provide_buffers ..) | some (.remove_buffers ..) => true
  | _ => false

variable {k k' : Registrations} {env : ManagerEnv} {b b' : BufferSetup} {ok : Bool}

namespace Registrations

/-- An entry that registers nothing changes no registration. -/
theorem consume_of_not_registers {sqe : Sqe} (h : sqe.registers = false) (accepted : Bool) :
    k.consume sqe accepted = k := by
  cases hprep : sqe.prep with
  | none => simp [consume, hprep]
  | some call =>
    unfold Sqe.registers at h
    cases call <;> simp_all [consume]

/-- Only the last of the entries is looked at, when the others change nothing. -/
theorem consumeAll_append_singleton {accepts : ℕ → Bool} {w : List (ℕ × Sqe)} {p : ℕ} {e : Sqe}
    (h : ∀ e ∈ w, e.2.registers = false) :
    k.consumeAll accepts (w ++ [(p, e)]) = k.consume e (accepts p) := by
  unfold consumeAll
  rw [List.foldl_append, List.foldl_cons, List.foldl_nil]
  congr 1
  induction w with
  | nil => rfl
  | cons e w ih =>
    rw [List.foldl_cons, consume_of_not_registers (h e List.mem_cons_self)]
    exact ih fun e he => h e (List.mem_cons_of_mem _ he)

/-- A group that was set is read back. -/
@[simp] theorem group_setGroup (bgid : ℤ) (g : Option BufferGroup) :
    (k.setGroup bgid g).group bgid = g := Function.update_self ..

/-- A group that was empty is emptied again. -/
theorem setGroup_setGroup {bgid : ℤ} {g : Option BufferGroup} (h : k.group bgid = none) :
    (k.setGroup bgid g).setGroup bgid none = k := by
  refine Registrations.ext rfl ?_
  change Function.update (Function.update k.groups _ _) _ none = k.groups
  rw [Function.update_idem, ← h]
  exact Function.update_eq_self _ _

end Registrations

/-! ## The registrations of a payload -/

/-- What the payload's buffers make of its group. -/
def ContextPayload.contents (payload : ContextPayload) (first : LinearBuffer) : BufferGroup :=
  if payload.mode = .BUF_RING then
    .ring (initBufRingMode first.buffer (CInt.toInt first.len) payload.amount true)
  else .provided (providedRegions first.buffer (CInt.toInt first.len) payload.amount)

/-- The registrations `k'` are `k` and the buffers of the payload, for which there was room. -/
def Registers (env : ManagerEnv) (k : Registrations) (payload : ContextPayload)
    (k' : Registrations) : Prop :=
  match payload.mode with
  | .NORMAL_BUF => k' = k
  | .FIXED => k.fixed = none ∧ ∃ vector, payload.vector = some vector ∧
      k' = { k with fixed := some vector.kernelRegions }
  | .PROVIDED | .BUF_RING => k.group payload.bgid = none ∧ ∃ first,
      payload.firstLinear env = some first ∧
        k' = k.setGroup payload.bgid (some (payload.contents first))

/-- The place of the payload's buffers in the registrations is taken. -/
def Taken (k : Registrations) (payload : ContextPayload) : Prop :=
  match payload.mode with
  | .NORMAL_BUF => False
  | .FIXED => k.fixed ≠ none
  | .PROVIDED | .BUF_RING => k.group payload.bgid ≠ none

/-- The place is a matter of fields that no manager changes. -/
theorem Taken.of_same {p q : ContextPayload} (hsame : SamePayload p q) (h : Taken k p) :
    Taken k q := by
  unfold Taken at h ⊢
  rw [hsame.mode, hsame.bgid]
  exact h

/-- A registration that succeeds takes what was free. -/
theorem Registers.taken {payload : ContextPayload} (h : Registers env k payload k')
    (hmode : payload.mode ≠ .NORMAL_BUF) : ¬ Taken k payload ∧ Taken k' payload := by
  unfold Registers at h
  unfold Taken
  split at h
  · next hnormal => exact absurd hnormal hmode
  · next hfixed =>
    obtain ⟨hfree, vector, -, rfl⟩ := h
    simp [hfree]
  all_goals
    obtain ⟨hfree, first, -, rfl⟩ := h
    simp [hfree]

/-- Registering takes nobody's place away. -/
theorem Registers.taken_of_taken {payload other : ContextPayload} (h : Registers env k payload k')
    (htaken : Taken k other) : Taken k' other := by
  have hgroup : ∀ (g : ℕ) bgid contents, k.groups g ≠ none →
      (k.setGroup bgid (some contents)).groups g ≠ none := by
    intro g bgid contents hg
    change Function.update k.groups _ _ g ≠ none
    rcases eq_or_ne g (CInt.toU16 bgid) with rfl | hne
    · simp
    · rwa [Function.update_of_ne hne]
  unfold Registers at h
  unfold Taken at htaken ⊢
  split at h
  · exact h ▸ htaken
  · obtain ⟨hfree, vector, -, rfl⟩ := h
    split
    · next hmode => rwa [hmode] at htaken
    · simp
    all_goals
      next hmode =>
        rw [hmode] at htaken
        exact htaken
  all_goals
    obtain ⟨hfree, first, -, rfl⟩ := h
    split
    · next hmode => rwa [hmode] at htaken
    · next hmode =>
      rw [hmode] at htaken
      exact htaken
    all_goals
      next hmode =>
        rw [hmode] at htaken
        exact hgroup _ _ _ htaken

/-! ## The conditions -/

/-- The kernel registers no second table, and sets up a ring only for a group that is not in use
and for a number of entries that is a power of two. -/
def Lawful (b : BufferSetup) (env : ManagerEnv) : Prop :=
  (b.registrations.fixed ≠ none → env.registered < 0) ∧
    (env.setup = true → b.registrations.group b.payload.bgid = none ∧ 0 < b.payload.amount ∧
      b.payload.amount.toNat &&& (b.payload.amount.toNat - 1) = 0)

instance (b : BufferSetup) (env : ManagerEnv) : Decidable (Lawful b env) :=
  inferInstanceAs (Decidable (_ ∧ _))

/-- The next submission consumes all entries, which do not concern the registrations, with the one
that is added, and the kernel accepts this one. -/
def Submitted (b : BufferSetup) (env : ManagerEnv) : Prop :=
  (∀ e ∈ b.ring.window, e.2.registers = false) ∧ (b.ring.window.length : ℤ) < env.submitted ∧
    env.accepts b.ring.tail = true

instance (b : BufferSetup) (env : ManagerEnv) : Decidable (Submitted b env) :=
  inferInstanceAs (Decidable (_ ∧ _))

/-- When the switch on entering goes on, what it does not look at succeeds: the pool of indices is
created after the table is registered, the entry that provides the buffers is consumed and
accepted, the ring is set up. -/
def Accepts (b : BufferSetup) (env : ManagerEnv) : Prop :=
  match b.payload.mode with
  | .NORMAL_BUF => True
  | .FIXED => env.registered < 0 ∨
      (bufferIdxRegistryCreate (CInt.toUnsigned b.payload.amount)).isSome ∧ env.indexed = true
  | .PROVIDED => b.ring.free = 0 ∨ env.submitted < 0 ∨
      b.registrations.group b.payload.bgid = none ∧ Submitted b env
  | .BUF_RING => env.setup = true

instance (b : BufferSetup) (env : ManagerEnv) : Decidable (Accepts b env) :=
  match h : b.payload.mode with
  | .NORMAL_BUF => decidable_of_iff True (by simp [Accepts, h])
  | .FIXED => decidable_of_iff (env.registered < 0 ∨ (bufferIdxRegistryCreate
      (CInt.toUnsigned b.payload.amount)).isSome ∧ env.indexed = true) (by simp [Accepts, h])
  | .PROVIDED => decidable_of_iff (b.ring.free = 0 ∨ env.submitted < 0 ∨
      b.registrations.group b.payload.bgid = none ∧ Submitted b env) (by simp [Accepts, h])
  | .BUF_RING => decidable_of_iff (env.setup = true) (by simp [Accepts, h])

/-- The library's calls of the switch on leaving, at which it does not look, succeed. -/
def Releases (b : BufferSetup) (env : ManagerEnv) : Prop :=
  match b.payload.mode with
  | .NORMAL_BUF => True
  | .PROVIDED => 0 < b.ring.free ∧ Submitted b env
  | .FIXED | .BUF_RING => 0 ≤ env.unregistered

instance (b : BufferSetup) (env : ManagerEnv) : Decidable (Releases b env) :=
  match h : b.payload.mode with
  | .NORMAL_BUF => decidable_of_iff True (by simp [Releases, h])
  | .PROVIDED => decidable_of_iff (0 < b.ring.free ∧ Submitted b env) (by simp [Releases, h])
  | .FIXED => decidable_of_iff (0 ≤ env.unregistered) (by simp [Releases, h])
  | .BUF_RING => decidable_of_iff (0 ≤ env.unregistered) (by simp [Releases, h])

/-! ## The switches -/

/-- **Entering.** The switch goes on exactly when it registered the buffers, and otherwise leaves
the registrations as they were. -/
theorem initBuffers_registers (haccepts : Accepts b env) (hlawful : Lawful b env)
    (h : initBuffers b env = some (ok, b')) :
    (ok = true → Registers env b.registrations b.payload b'.registrations) ∧
      (ok = false → b'.registrations = b.registrations) := by
  unfold initBuffers at h
  unfold Accepts at haccepts
  unfold Registers
  split at h <;> rename_i hmode <;> rw [hmode] at haccepts ⊢ <;> simp only at haccepts ⊢
  · -- `FIXED`
    simp only [Option.bind_eq_bind, Option.bind_eq_some_iff] at h
    obtain ⟨vector, hvector, h⟩ := h
    by_cases hrefused : env.registered < 0
    · rw [if_pos hrefused] at h
      cases h
      exact ⟨fun h => absurd h (by decide), fun _ => by simp [Registrations.registerBuffers,
        hrefused]⟩
    · obtain ⟨hcreated, hindexed⟩ := haccepts.resolve_left hrefused
      obtain ⟨reg, hreg⟩ := Option.isSome_iff_exists.mp hcreated
      rw [if_neg hrefused, hreg, hindexed] at h
      cases h
      refine ⟨fun _ => ⟨?_, vector, hvector, ?_⟩, fun h => absurd h (by decide)⟩
      · by_contra hne
        exact hrefused (hlawful.1 hne)
      · simp [Registrations.registerBuffers, hrefused]
  · -- `PROVIDED`
    simp only [Option.bind_eq_bind, Option.bind_eq_some_iff] at h
    obtain ⟨first, hfirst, h⟩ := h
    cases h
    by_cases hrefused : b.ring.free = 0 ∨ env.submitted < 0
    · obtain ⟨hresult, hconsumed⟩ := submitOp_refused (.prepare (.provide_buffers first.buffer
        (CInt.toInt first.len) b.payload.amount b.payload.bgid 0)) (show (-1 : ℤ) < 0 by decide)
        hrefused
      refine ⟨fun h => absurd (of_decide_eq_true h) (not_le.mpr hresult), fun _ => ?_⟩
      simp only [initProvidedMode, hconsumed]
      rfl
    · rw [← or_assoc] at haccepts
      obtain ⟨hfree, hpending, hconsumes, haccepted⟩ := haccepts.resolve_left hrefused
      rw [not_or] at hrefused
      obtain ⟨hresult, e, hconsumed⟩ := submitOp_consumed (.prepare (.provide_buffers
        first.buffer (CInt.toInt first.len) b.payload.amount b.payload.bgid 0)) (-1)
        (Nat.pos_of_ne_zero hrefused.1) hconsumes
      refine ⟨fun _ => ⟨hfree, first, hfirst, ?_⟩,
        fun h => absurd hresult (of_decide_eq_false h)⟩
      simp only [initProvidedMode, hconsumed]
      rw [Registrations.consumeAll_append_singleton hpending, haccepted]
      simp [Registrations.consume, Sqe.prepare, hfree, ContextPayload.contents, hmode]
  · -- `BUF_RING`
    simp only [Option.bind_eq_bind, Option.bind_eq_some_iff] at h
    obtain ⟨first, hfirst, h⟩ := h
    cases h
    refine ⟨fun _ => ⟨(hlawful.2 haccepts).1, first, hfirst, ?_⟩, fun h => absurd h (by decide)⟩
    simp [haccepts, ContextPayload.contents, hmode]
  · -- `NORMAL_BUF`
    cases h
    exact ⟨fun _ => rfl, fun h => absurd h (by decide)⟩

/-- Only the switch of a ring sets `buf_ring`, and only if the ring could be set up. -/
theorem initBuffers_buf_ring (h : initBuffers b env = some (ok, b')) :
    (ok = true → b.payload.mode = .BUF_RING → b'.payload.buf_ring = env.setup) ∧
      (ok = false → b'.payload.buf_ring = b.payload.buf_ring) := by
  unfold initBuffers at h
  split at h <;> rename_i hmode <;> rw [hmode]
  · simp only [Option.bind_eq_bind, Option.bind_eq_some_iff] at h
    obtain ⟨vector, -, h⟩ := h
    refine ⟨fun _ hring => absurd hring (by decide), fun hok => ?_⟩
    split at h
    · cases h
      rfl
    · split at h <;> cases h <;> rfl
  · simp only [Option.bind_eq_bind, Option.bind_eq_some_iff] at h
    obtain ⟨first, -, h⟩ := h
    cases h
    exact ⟨fun _ hring => absurd hring (by decide), fun _ => rfl⟩
  · simp only [Option.bind_eq_bind, Option.bind_eq_some_iff] at h
    obtain ⟨first, -, h⟩ := h
    cases h
    exact ⟨fun _ _ => rfl, fun h => absurd h (by decide)⟩
  · cases h
    exact ⟨fun _ hring => absurd hring (by decide), fun _ => rfl⟩

/-- **Leaving.** The switch takes back what the switch on entering registered. -/
theorem closeBuffers_registers {env' : ManagerEnv} {payload : ContextPayload}
    (hregisters : Registers env' k payload b.registrations) (hsame : SamePayload payload b.payload)
    (hring : payload.mode = .BUF_RING → b.payload.buf_ring = true) (hreleases : Releases b env)
    (h : closeBuffers b env = some b') : b'.registrations = k := by
  unfold closeBuffers at h
  unfold Releases at hreleases
  unfold Registers at hregisters
  rw [← hsame.mode] at hregisters hring
  split at h <;> rename_i hmode <;> rw [hmode] at hreleases hregisters hring <;>
    simp only at hreleases hregisters
  · -- `FIXED`
    obtain ⟨reg, -, rfl⟩ := Option.map_eq_some_iff.mp h
    obtain ⟨hfree, vector, -, hk⟩ := hregisters
    simp only [Registrations.unregisterBuffers, not_lt.mpr hreleases, if_false, hk, ← hfree]
  · -- `PROVIDED`
    cases h
    obtain ⟨hfree, first, -, hk⟩ := hregisters
    obtain ⟨hroom, hpending, hconsumes, haccepted⟩ := hreleases
    obtain ⟨-, e, hconsumed⟩ := submitOp_consumed
      (.prepare (.remove_buffers b.payload.amount b.payload.bgid)) (-1) hroom hconsumes
    have hlength : (providedRegions first.buffer (CInt.toInt first.len)
        payload.amount).length = payload.amount.toNat := by
      rw [providedRegions, List.length_map, List.length_range]
    have hcontents : payload.contents first = .provided (providedRegions first.buffer
        (CInt.toInt first.len) payload.amount) := by
      simp [ContextPayload.contents, ← hsame.mode, hmode]
    simp only [closeProvidedMode, hconsumed]
    rw [Registrations.consumeAll_append_singleton hpending, haccepted, hk, hsame.bgid,
      hsame.amount, hcontents]
    simp [Registrations.consume, Sqe.prepare, hlength, Registrations.setGroup_setGroup hfree]
  · -- `BUF_RING`
    cases h
    obtain ⟨hfree, first, -, hk⟩ := hregisters
    simp only [hring rfl, hreleases, and_self, if_true, hk, hsame.bgid,
      Registrations.setGroup_setGroup hfree]
  · -- `NORMAL_BUF`
    cases h
    exact hregisters

end Uringio
