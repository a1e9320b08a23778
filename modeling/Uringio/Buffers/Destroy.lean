import Uringio.Buffers.Created

/-!
# What `free_buffer_payload` gives back

A payload disposes of what is held when the destructor, forced, gives back exactly that and ends.
Payloads with one array of a content do, whichever the array and the origin, and so do payloads
with both arrays of the user's buffers: there the vector frees no bytes and has no views. A payload
with both arrays of the runtime's buffers is never disposed of: the destructor frees the bytes a
second time, and then reads the views of the vector, which were not set.
-/

namespace Uringio.Blocks

open Ledger

variable {env : BuildEnv} {P : Multiset Resource} {t : Count} {β : Type}
  {S : Except Undefined β → Multiset Resource → Count → Prop} {payload : Payload}

/-- The destructor gives back `P`, and ends. -/
def Payload.Disposes (p : Payload) (P : Multiset Resource) : Prop :=
  ∀ t, Leads (freeBufferPayload p true) P t fun o P' _ => o = .ok () ∧ P' = 0

/-- A payload disposes of what is held, in whatever order it is listed. -/
theorem Payload.Disposes.cast {p : Payload} {P' : Multiset Resource} (h : p.Disposes P)
    (heq : P = P') : p.Disposes P' := heq ▸ h

/-! ## Arrays -/

/-- Freeing the bytes of all elements. -/
theorem leads_freeCells {bufsize : ℤ} {bs : List ℕ} {k : Unit → Build β}
    (h : Leads (k ()) P t S) :
    Leads (freeCells bs.length ((entriesOf bufsize bs).map some) >>= k) (blocks bs + P) t S := by
  induction bs with
  | nil =>
    rw [blocks_nil, zero_add]
    exact h
  | cons b bs ih =>
    rw [blocks_cons, Multiset.cons_add]
    change Leads ((free b >>= fun _ => freeCells bs.length _) >>= k) _ t S
    rw [bind_assoc]
    exact leads_free ih

/-- Releasing all views. -/
theorem leads_releaseSlots {vs : List View} {k : Unit → Build β} (h : Leads (k ()) P t S) :
    Leads (releaseSlots vs.length (vs.map .view) >>= k) (viewsOf vs + P) t S := by
  induction vs with
  | nil =>
    rw [viewsOf_nil, zero_add]
    exact h
  | cons v vs ih =>
    rw [viewsOf_cons, Multiset.cons_add]
    change Leads ((releaseView v >>= fun _ => releaseSlots vs.length _) >>= k) _ t S
    rw [bind_assoc]
    exact .give_bind ih

/-- Releasing the views that hang at an array, and freeing their array. -/
theorem leads_freeViews {v : ℕ} {vs : List View} {k : Unit → Build β}
    (hamount : payload.amount = some (vs.length : ℤ)) (h : Leads (k ()) P t S) :
    Leads (freeViews payload (some ⟨v, vs.map .view⟩) >>= k) (.block v ::ₘ viewsOf vs + P) t S := by
  unfold freeViews
  rw [bind_assoc, hamount]
  refine leads_read ?_
  rw [bind_assoc, Int.toNat_natCast, Multiset.cons_add, ← Multiset.add_cons]
  exact leads_releaseSlots (leads_free h)

/-- **The linear array** of a content. -/
theorem leads_freeLinear {c : Content} {b v : ℕ} {k : Unit → Build β}
    (horigin : payload.payload_origin = some c.origin)
    (hamount : payload.amount = some (c.length : ℤ)) (h : Leads (k ()) P t S) :
    Leads (freeLinear payload (some (c.linear b v)) >>= k) (.block b ::ₘ (c.held v + P)) t S := by
  unfold freeLinear
  rw [bind_assoc, ← Multiset.add_cons]
  cases c with
  | user vs =>
    have hread : payload.payload_origin = some .PAYLOAD_USER := horigin
    rw [hread]
    refine leads_read ?_
    dsimp only
    rw [if_neg (by decide), bind_assoc]
    refine leads_read ?_
    rw [bind_assoc]
    exact leads_freeViews hamount (leads_free h)
  | runtime bufsize bs =>
    have hread : payload.payload_origin = some .PAYLOAD_RUNTIME := horigin
    rw [hread, hamount]
    refine leads_read ?_
    dsimp only
    rw [if_pos rfl]
    simp only [bind_assoc]
    refine leads_read ?_
    rw [Int.toNat_natCast]
    exact leads_freeCells (leads_read (.step (fun _ => rfl) (leads_free h)))

/-- **The vector** of the user's buffers, and the views that hang at it, if any do. -/
theorem leads_freeUserVector {b iovecs nr_vecs : ℕ} {cells : List (Option Entry)}
    {views : Option ViewArray} {V : Multiset Resource} {k : Unit → Build β}
    (horigin : payload.payload_origin = some .PAYLOAD_USER)
    (hviews : ∀ {P : Multiset Resource} {k : Unit → Build β}, Leads (k ()) P t S →
      Leads (freeViews payload views >>= k) (V + P) t S)
    (h : Leads (k ()) P t S) :
    Leads (freeVector payload (some ⟨b, some (some ⟨iovecs, cells⟩), some nr_vecs, some views⟩) >>=
      k) (.block iovecs ::ₘ .block b ::ₘ (V + P)) t S := by
  unfold freeVector
  rw [bind_assoc, horigin]
  refine leads_read ?_
  dsimp only
  rw [if_neg (by decide), bind_assoc]
  refine leads_read ?_
  rw [bind_assoc, ← Multiset.add_cons, ← Multiset.add_cons]
  refine hviews ?_
  rw [bind_assoc]
  refine leads_read ?_
  rw [bind_assoc]
  exact leads_free (leads_free h)

/-- **The vector** of a content, whose number of elements fits its type. -/
theorem leads_freeVector {c : Content} {b iovecs v : ℕ} {k : Unit → Build β}
    (horigin : payload.payload_origin = some c.origin)
    (hamount : payload.amount = some (c.length : ℤ)) (hlength : c.length < 2^32)
    (h : Leads (k ()) P t S) :
    Leads (freeVector payload (some (c.vector b iovecs v)) >>= k)
      (.block iovecs ::ₘ .block b ::ₘ (c.held v + P)) t S := by
  cases c with
  | user vs => exact leads_freeUserVector horigin (leads_freeViews hamount) h
  | runtime bufsize bs =>
    have hread : payload.payload_origin = some .PAYLOAD_RUNTIME := horigin
    unfold freeVector
    rw [bind_assoc, hread, ← Multiset.add_cons, ← Multiset.add_cons]
    refine leads_read ?_
    dsimp only [Content.vector]
    rw [if_pos rfl, CInt.toUnsigned_natCast hlength]
    simp only [bind_assoc]
    refine leads_read (leads_read ?_)
    refine leads_freeCells (leads_read ?_)
    exact .step (fun _ => rfl) (leads_read (leads_free (leads_free h)))

/-! ## Payloads -/

/-- The destructor, forced, looks at both arrays. -/
theorem leads_freeBufferPayload {mode : BufferMode} {linear : Option LinearArray}
    {vector : Option Vectored} {Q : Except Undefined Unit → Multiset Resource → Count → Prop}
    (hmode : payload.mode = some mode) (hlinear : payload.linear = some linear)
    (hvector : payload.vector = some vector)
    (h : Leads (freeLinear payload linear >>= fun _ => freeVector payload vector >>= fun _ =>
      free payload.block) P t Q) : Leads (freeBufferPayload payload true) P t Q := by
  unfold freeBufferPayload
  rw [hmode, hlinear, hvector]
  refine leads_read ?_
  rw [if_neg (by simp)]
  exact leads_read h

/-- The destructor frees the payload last. -/
theorem leads_freePayload :
    Leads (free payload.block) {.block payload.block} t fun o P' _ => o = .ok () ∧ P' = 0 :=
  .of_bind_pure (leads_free (.pure ⟨rfl, rfl⟩))

section Disposes

variable {mode : BufferMode} {c : Content} {l b iovecs v : ℕ} (hmode : payload.mode = some mode)
  (horigin : payload.payload_origin = some c.origin)
  (hamount : payload.amount = some (c.length : ℤ))

include hmode horigin hamount

/-- **One linear array.** -/
theorem disposes_linear (hlinear : payload.linear = some (some (c.linear b v)))
    (hvector : payload.vector = some none) :
    payload.Disposes (.block b ::ₘ (c.held v + {.block payload.block})) := fun _ =>
  leads_freeBufferPayload hmode hlinear hvector
    (leads_freeLinear horigin hamount leads_freePayload)

/-- **One vector.** -/
theorem disposes_vector (hlength : c.length < 2^32) (hlinear : payload.linear = some none)
    (hvector : payload.vector = some (some (c.vector b iovecs v))) :
    payload.Disposes (.block iovecs ::ₘ .block b ::ₘ (c.held v + {.block payload.block})) :=
  fun _ => leads_freeBufferPayload hmode hlinear hvector
    (leads_freeVector horigin hamount hlength leads_freePayload)

/-- **Both arrays** of the user's buffers. -/
theorem disposes_both (huser : c.origin = .PAYLOAD_USER) (hlength : c.length ≠ 0)
    (hlinear : payload.linear = some (some ⟨l, c.cells, c.hung v⟩))
    (hvector : payload.vector = some (some ⟨b, some (some ⟨iovecs, c.cells⟩),
      some (CInt.toUnsigned c.length), c.vectorViews⟩)) :
    payload.Disposes (.block l ::ₘ .block b ::ₘ .block iovecs ::ₘ
      (c.held v + {.block payload.block})) := fun t => by
  rw [Content.hung_eq hlength] at hlinear
  cases c with
  | runtime => cases huser
  | user vs =>
    refine leads_freeBufferPayload hmode hlinear hvector ?_
    have hswap : .block l ::ₘ .block b ::ₘ .block iovecs ::ₘ
        ((Content.user vs).held v + {Resource.block payload.block}) = .block l ::ₘ
        ((Content.user vs).held v + .block iovecs ::ₘ .block b ::ₘ {.block payload.block}) := by
      rw [Multiset.add_cons, Multiset.add_cons, Multiset.cons_swap (Resource.block b)]
    rw [hswap]
    refine leads_freeLinear horigin hamount ?_
    refine (leads_freeUserVector (V := 0) horigin (fun {P} {k} h => ?_) leads_freePayload).cast ?_
    · rw [zero_add]
      exact h
    · rw [zero_add]

end Disposes

/-- A vector whose views were not set is not taken apart. -/
theorem stops_freeVector {b : ℕ} {iovecs : Option (Option IovecArray)} {nr_vecs : Option ℕ} :
    Stops (freeVector payload (some ⟨b, iovecs, nr_vecs, none⟩)) := by
  unfold freeVector
  refine .right fun origin => ?_
  dsimp only
  split
  · exact .right fun _ => .right fun _ => .right fun _ => (stops_stop _).left
  · exact (stops_stop _).left

/-- **Both arrays** of the runtime's buffers: the destructor does not end. -/
theorem stops_runtime {b : ℕ} {iovecs : Option (Option IovecArray)} {nr_vecs : Option ℕ}
    (hvector : payload.vector = some (some ⟨b, iovecs, nr_vecs, none⟩)) :
    Stops (freeBufferPayload payload true) := by
  unfold freeBufferPayload
  refine .right fun mode => ?_
  rw [if_neg (by simp), hvector]
  refine .right fun linear => .right fun _ => ?_
  change Stops (freeVector payload (some _) >>= _)
  exact stops_freeVector.left

end Uringio.Blocks
