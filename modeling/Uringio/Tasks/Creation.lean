import Uringio.Context.Scoping
import Uringio.Tasks.Counted

/-!
# Creating managers

Each of the four functions raises an exception and leaves everything as it was, or makes one object
(`Creates`). What it makes keeps the invariant: the object has no token, and a block that it brings
is new, so that no capsule points to it (`Kept.creates`).
-/

namespace Uringio

/-! ## The ends of a creation -/

namespace Creation

/-- The creation raises an exception, or has a result with the property. -/
def Ends {α : Type} (r : Creation α) (P : α → Prop) : Prop :=
  (∃ e, r = throw e) ∨ ∃ a, r = pure a ∧ P a

variable {α β : Type} {r : Creation α} {f : α → Creation β} {P : α → Prop} {Q : β → Prop} {a : α}

/-- What is returned has the property. -/
theorem Ends.pure (h : P a) : Ends (pure a) P := .inr ⟨a, rfl, h⟩

/-- What is raised has no value to speak of. -/
theorem Ends.throw (e : PyExc) : Ends (throw e : Creation α) P := .inl ⟨e, rfl⟩

/-- One part after the other. -/
theorem Ends.bind (h : Ends r P) (hf : ∀ a, P a → Ends (f a) Q) : Ends (r >>= f) Q := by
  rcases h with ⟨e, rfl⟩ | ⟨a, rfl, ha⟩
  · exact .inl ⟨e, rfl⟩
  · rw [pure_bind]
    exact hf a ha

end Creation

open Creation (Ends)

/-- The asserts raise or succeed. -/
theorem ends_asserts (env : CreateEnv) (ints : List ℤ) :
    Ends (env.asserts ints) fun _ => True := by
  unfold CreateEnv.asserts
  split
  · exact .throw _
  · split
    · exact .throw _
    · split
      · exact .pure trivial
      · exact .throw _

/-- An allocation raises or succeeds. -/
theorem ends_allocated (ok : Bool) : Ends (allocated ok) fun _ => True := by
  unfold allocated
  split
  · exact .pure trivial
  · exact .throw _

/-- The check of the buffer mode raises or succeeds. -/
theorem ends_validateBufferMode (mode : ℤ) : Ends (validateBufferMode mode) fun _ => True := by
  unfold validateBufferMode
  split
  all_goals first | exact .pure trivial | exact .throw _

/-- The check of the payload type raises or succeeds. -/
theorem ends_validatePayloadType (payload_type : ℤ) :
    Ends (validatePayloadType payload_type) fun _ => True := by
  unfold validatePayloadType
  split
  all_goals first | exact .pure trivial | exact .throw _

/-- The check of the stream strategy raises or succeeds. -/
theorem ends_checkStreamStrategy (stream : ℤ) :
    Ends (checkStreamStrategy stream) fun _ => True := by
  unfold checkStreamStrategy
  split
  all_goals first | exact .pure trivial | exact .throw _

/-- The check of the transfer mode raises or succeeds. -/
theorem ends_checkTransferMode (transfer_mode : ℤ) :
    Ends (checkTransferMode transfer_mode) fun _ => True := by
  unfold checkTransferMode
  split
  all_goals first | exact .pure trivial | exact .throw _

/-- **A payload** whose buffers are counted soundly is made or not, and can be entered. -/
theorem ends_createPayload {a : Blocks.BufferArgs} (env : CreateEnv)
    (h : a.Sound env.build Blocks.Books.start.rest) :
    Ends (createPayload a env) fun payload => payload.Ready := by
  have hcounted := (a.safe_iff env.build Blocks.Books.start).mpr h env.garbage
  unfold createPayload
  split
  · next heq =>
    -- A fault is excluded where the counts are sound.
    rw [heq] at hcounted
    exact hcounted.elim
  · exact .throw _
  · next payload heq =>
    have hreturned := a.ensures_create env.alloc env.build env.garbage env.raw.toBufferPayload
      Blocks.Books.start (some payload) _ (Prod.ext heq rfl) payload rfl
    obtain ⟨buffers_obj, alloc, -, hcreated⟩ := hreturned
    have hcontext : createContextPayload a.mode ⟨a.payload_type, buffers_obj, a.amount, a.bufsize,
        alloc, a.rand, env.raw⟩ = some { payload.record env.alloc env.raw.toBufferPayload with
          buf_ring := env.raw.buf_ring } := by
      rw [createContextPayload, hcreated, Option.map_some]
    exact .pure (ContextState.ready_of_createContextPayload hcontext)

/-- The validated mode, with a payload that can be entered. -/
theorem ends_newPayload {args : ContextArgs} {env : CreateEnv} (h : args.Sound env) :
    Ends (newPayload args env) fun r => r.2.Ready := by
  have hmode : Ends (validateBufferMode args.mode) fun mode =>
      mode ∈ (validateBufferMode args.mode).value := by
    rcases ends_validateBufferMode args.mode with ⟨e, he⟩ | ⟨mode, hmode, -⟩
    · exact .inl ⟨e, he⟩
    · exact .inr ⟨mode, hmode, by rw [hmode]; rfl⟩
  have htype : Ends (validatePayloadType args.payload_type) fun payload_type =>
      payload_type ∈ (validatePayloadType args.payload_type).value := by
    rcases ends_validatePayloadType args.payload_type with ⟨e, he⟩ | ⟨payload_type, htype, -⟩
    · exact .inl ⟨e, he⟩
    · exact .inr ⟨payload_type, htype, by rw [htype]; rfl⟩
  exact hmode.bind fun mode hmem => htype.bind fun payload_type hmem' =>
    (ends_createPayload env (h mode hmem payload_type hmem')).bind fun payload hready =>
      .pure hready

namespace Tasks

/-- What a creation does that does not fail. -/
inductive Creates (s : Tasks) : Tasks → Prop
  | object {manager : Manager} (payload : ContextPayload) (unset : Bool)
      (hkind : ∀ p context, manager ≠ .executionContextCtx p context) :
      Creates s (s.newObject manager payload unset)
  | context {payload : ContextPayload} (context : ContextBlock) (hready : payload.Ready) :
      Creates s ({ s with blocks := s.blocks.new context }.newObject
        (.executionContextCtx s.blocks.next context) payload false)

variable {s s' : Tasks} {args : ContextArgs} {env : CreateEnv}

/-- `buffer_mode` raises or creates a manager. -/
theorem creates_bufferMode (h : args.Sound env) :
    Ends (s.uringioLoopBufferMode args env) s.Creates :=
  (ends_asserts ..).bind fun _ _ => (ends_newPayload h).bind fun r _ =>
    (ends_allocated _).bind fun _ _ => .pure (.object r.2 false (by simp))

/-- `stream_strategy` raises or creates a manager. -/
theorem creates_streamStrategy : Ends (s.uringioLoopStreamStrategy args env) s.Creates :=
  (ends_asserts ..).bind fun _ _ => (ends_checkStreamStrategy _).bind fun _ _ =>
    (ends_allocated _).bind fun _ _ => .pure (.object _ _ (by simp))

/-- `transfer_mode` raises or creates a manager. -/
theorem creates_transferMode : Ends (s.uringioLoopTransferMode args env) s.Creates :=
  (ends_asserts ..).bind fun _ _ => (ends_checkTransferMode _).bind fun _ _ =>
    (ends_allocated _).bind fun _ _ => .pure (.object _ _ (by simp))

/-- `execution_context` raises or creates a manager. -/
theorem creates_executionContext (h : args.Sound env) :
    Ends (s.uringioLoopExecutionContext args env) s.Creates :=
  (ends_asserts ..).bind fun _ _ => (ends_newPayload h).bind fun _ hready =>
    (ends_checkStreamStrategy _).bind fun _ _ => (ends_checkTransferMode _).bind fun _ _ =>
      (ends_allocated _).bind fun _ _ => (ends_allocated _).bind fun _ _ =>
        .pure (.context _ hready)

/-- A creation leaves its object, or everything as it was. -/
theorem created_of_ends {creation : Creation Tasks} (h : Ends creation s.Creates) :
    ∃ s', s.created creation = some s' ∧ (s' = s ∨ s.Creates s') := by
  rcases h with ⟨e, rfl⟩ | ⟨s', rfl, hcreates⟩
  · exact ⟨s, rfl, .inl rfl⟩
  · exact ⟨s', rfl, .inr hcreates⟩

/-- A new object is the last one, or one of before. -/
theorem getElem?_newObject {objects : List ManagerObject} {m m' : ManagerObject} {o : ℕ}
    (h : (objects ++ [m'])[o]? = some m) :
    objects[o]? = some m ∨ (o = objects.length ∧ m = m') := by
  rw [List.getElem?_append] at h
  split at h
  · exact .inl h
  · rw [List.getElem?_singleton] at h
    split at h
    · exact .inr ⟨by omega, (Option.some.inj h).symm⟩
    · cases h

/-- A new object refers to no capsule. -/
theorem holders_newObject (s : Tasks) (manager : Manager) (payload : ContextPayload) (unset : Bool)
    (n : ℕ) : (s.newObject manager payload unset).holders n = s.holders n := by
  have hnone : (held none).count n = 0 := rfl
  rw [holders, holders]
  simp only [newObject]
  rw [Tally.tally_append, Tally.tally_cons, Tally.tally_nil, hnone]
  rfl

/-- **The invariant after a creation.** -/
theorem Kept.creates (h : Kept s) (hcreates : s.Creates s') : Kept s' := by
  cases hcreates with
  | @object manager payload unset hkind =>
    refine ⟨sound_var' h.sound rfl rfl, fun n => ?_, fun hm hkind' hwrapped => ?_,
      fun hm hm' hkind₁ hkind₂ hw₁ hw₂ => ?_, fun hm htoken => ?_⟩
    · rw [holders_newObject]
      exact h.counted n
    · rcases getElem?_newObject hm with hold | ⟨-, rfl⟩
      · obtain ⟨hready, haloof⟩ := h.brings hold hkind' hwrapped
        exact ⟨hready, haloof.block, haloof.unowned⟩
      · exact absurd hkind' (hkind _ _)
    · rcases getElem?_newObject hm with hold | ⟨-, rfl⟩
      · rcases getElem?_newObject hm' with hold' | ⟨-, rfl⟩
        · exact h.own hold hold' hkind₁ hkind₂ hw₁ hw₂
        · exact absurd hkind₂ (hkind _ _)
      · exact absurd hkind₁ (hkind _ _)
    · rcases getElem?_newObject hm with hold | ⟨-, rfl⟩
      · exact h.indexed hold htoken
      · cases htoken
  | @context payload context hready =>
    have hsound := h.sound.malloc context
    -- A block that another manager brings is not the new one.
    have hne : ∀ {o : ℕ} {m : ManagerObject} {p : ℕ} {c : ContextBlock}, s.objects[o]? = some m →
        m.manager = .executionContextCtx p c → m.wrapped = false → p ≠ s.blocks.next :=
          fun hm hkind hwrapped =>
      Cells.ne_next (h.brings hm hkind hwrapped).2.block
    refine ⟨⟨hsound.injective, hsound.live, hsound.counted⟩, fun n => ?_,
      fun hm hkind' hwrapped => ?_, fun hm hm' hkind₁ hkind₂ hw₁ hw₂ => ?_, fun hm htoken => ?_⟩
    · rw [holders_newObject]
      exact h.counted n
    · rcases getElem?_newObject hm with hold | ⟨-, rfl⟩
      · obtain ⟨hready', haloof⟩ := h.brings hold hkind' hwrapped
        exact ⟨hready', haloof.malloc.block, haloof.malloc.unowned⟩
      · cases hkind'
        exact ⟨hready, h.sound.aloof_malloc.block, h.sound.aloof_malloc.unowned⟩
    · rcases getElem?_newObject hm with hold | ⟨rfl, rfl⟩ <;>
        rcases getElem?_newObject hm' with hold' | ⟨rfl, rfl⟩
      · exact h.own hold hold' hkind₁ hkind₂ hw₁ hw₂
      · cases hkind₂
        exact absurd rfl (hne hold hkind₁ hw₁)
      · cases hkind₁
        exact absurd rfl (hne hold' hkind₂ hw₂)
      · rfl
    · rcases getElem?_newObject hm with hold | ⟨-, rfl⟩
      · exact h.indexed hold htoken
      · cases htoken

end Tasks

end Uringio
