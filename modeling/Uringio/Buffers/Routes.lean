import Uringio.Buffers.Destroy

/-!
# The other routes to a payload

The functions besides `create_buffer_payload` that make a payload. Where nothing fails, each makes
one of which the destructor disposes. Where something fails, they return `NULL` and hold nothing
more than before, but for `get_or_create_linear_buffer`: it does not look at whether the array was
built, and returns the payload all the same.
-/

namespace Uringio.Blocks

open Ledger

variable {env : BuildEnv} {t : Count}

/-- A payload is returned of which the destructor disposes, and nothing failed. -/
def Disposable (t : Count) (o : Except Undefined (Option Payload)) (P' : Multiset Resource)
    (t' : Count) : Prop :=
  t'.failures = t.failures ∧ ∃ p, o = .ok (some p) ∧ p.Disposes P'

/-- Something failed, and `NULL` is returned with the resources `P`. -/
def Refused (t : Count) (P : Multiset Resource) (o : Except Undefined (Option Payload))
    (P' : Multiset Resource) (t' : Count) : Prop :=
  t.failures < t'.failures ∧ o = .ok none ∧ P' = P

/-- What `get_or_create_linear_buffer` sets of a new payload. -/
def linearStamp (sequence : Option ℕ) (payload : Payload) : Payload :=
  { payload with
    amount := some 1
    mode := some .NORMAL_BUF
    payload_origin := some (originOf sequence)
    payload_type := some .PAYLOAD_LINEAR }

/-- What `get_or_create_vectored_buffer` sets of a new payload. -/
def vectorStamp (sequence : Option ℕ) (nr_vecs : ℕ) (payload : Payload) : Payload :=
  { payload with
    amount := some (CInt.toInt nr_vecs)
    mode := some .NORMAL_BUF
    payload_origin := some (originOf sequence)
    payload_type := some .PAYLOAD_IOVEC }

/-- **`get_or_create_linear_buffer`**, where it makes a payload. If that payload was allocated, it
is returned whatever fails later. -/
theorem leads_newLinearBuffer (env : BuildEnv) (sequence : Option ℕ) (bufsize : ℤ) (t : Count) :
    Leads (newLinearBuffer env sequence bufsize) 0 t fun o P' t' =>
      Refused t 0 o P' t' ∧ env.fails t.requests = true ∨
      (t.failures < t'.failures ∧ env.fails t.requests = false ∧ ∃ p, o = .ok (some p)) ∨
      Disposable t o P' t' := by
  unfold newLinearBuffer
  refine leads_malloc (fun hdenied => ?_) fun _ hgranted => ?_
  · have hfails : env.fails t.requests = true := hdenied.resolve_left (by omega)
    exact .pure (.inl ⟨⟨Nat.lt_succ_self _, rfl, rfl⟩, hfails⟩)
  · have hone : ∀ {c : Content} {b v : ℕ} {t' : Count},
        Built env t.next t' (1 : ℤ).toNat bufsize (originOf sequence) c →
        Leads (pure (some (linearStamp sequence { Payload.new t.requests with
            linear := some (some (c.linear b v)), vector := some none })) : Build (Option Payload))
          (.block b ::ₘ (c.held v + {.block t.requests})) t' fun o P' t' =>
            Refused t 0 o P' t' ∧ env.fails t.requests = true ∨
            (t.failures < t'.failures ∧ env.fails t.requests = false ∧ ∃ p, o = .ok (some p)) ∨
            Disposable t o P' t' := fun {c b v t'} hbuilt => by
      refine .pure (.inr (.inr ⟨hbuilt.failures, _, rfl, ?_⟩))
      refine disposes_linear rfl ?_ ?_ rfl rfl
      · rw [hbuilt.origin_eq]
        rfl
      · rw [hbuilt.length_eq]
        rfl
    cases sequence with
    | none =>
      refine leads_createLinearBuffers (fun t' hfailed => ?_)
        (fun P' t' hbare => absurd hbare.entries Nat.one_ne_zero)
        fun c b v t' _ hbuilt _ => hone hbuilt
      exact .pure (.inr (.inl ⟨hfailed.failures, hgranted, _, rfl⟩))
    | some n =>
      refine leads_serializeLinearBuffers (fun t' hfailed => ?_)
        (fun P' t' hbare => absurd hbare.entries Nat.one_ne_zero)
        fun c b v t' _ hbuilt _ => hone hbuilt
      exact .pure (.inr (.inl ⟨hfailed.failures, hgranted, _, rfl⟩))

/-- The number of elements that a vectored call asks for. -/
def vecsOf : Option ℕ → ℤ
  | none => 1
  | some n => CInt.toInt n

/-- The vectors of a request fit into an `int`. -/
theorem vecsOf_lt (sequence : Option ℕ) : vecsOf sequence < 2^31 := by
  cases sequence with
  | none => decide
  | some n => exact (CInt.isInt_toInt n).2

/-- **`get_or_create_vectored_buffer`**, where it makes a payload. -/
theorem leads_newVectoredBuffer (env : BuildEnv) (sequence : Option ℕ) (t : Count) :
    Leads (newVectoredBuffer env sequence) 0 t fun o P' t' =>
      Refused t 0 o P' t' ∨ Disposable t o P' t' := by
  unfold newVectoredBuffer
  refine leads_malloc (fun _ => .pure (.inl ⟨Nat.lt_succ_self _, rfl, rfl⟩)) fun _ _ => ?_
  have hfree : ∀ {t' : Count}, t.failures < t'.failures →
      Leads (free t.requests >>= fun _ => (pure none : Build (Option Payload)))
        {.block t.requests} t' fun o P' t' => Refused t 0 o P' t' ∨ Disposable t o P' t' :=
    fun hlt => leads_free (.pure (.inl ⟨hlt, rfl, rfl⟩))
  have hmade : ∀ {c : Content} {b iovecs v : ℕ} {t' : Count}, 0 ≤ vecsOf sequence →
      Built env t.next t' (vecsOf sequence).toNat 1024 (originOf sequence) c →
      Leads (read (some (CInt.toUnsigned c.length)) >>= fun nr_vecs =>
          (pure (some (vectorStamp sequence nr_vecs (c.onlyVector b iovecs v
            (.zero t.requests)).2)) : Build (Option Payload)))
        (.block iovecs ::ₘ .block b ::ₘ (c.held v + {.block t.requests})) t' fun o P' t' =>
          Refused t 0 o P' t' ∨ Disposable t o P' t' := fun {c b iovecs v t'} hlen hbuilt => by
    have hlength := hbuilt.length_eq
    have hlt := vecsOf_lt sequence
    refine leads_read (.pure (.inr ⟨hbuilt.failures, _, rfl, ?_⟩))
    refine disposes_vector rfl ?_ ?_ (by omega) rfl rfl
    · rw [hbuilt.origin_eq]
      rfl
    · have hsmall : c.length < 2^31 := by omega
      change some (CInt.toInt (CInt.toUnsigned c.length)) = _
      rw [CInt.toUnsigned_natCast (by omega), CInt.toInt_natCast hsmall]
  cases sequence with
  | none =>
    exact leads_createVectoredBuffers (fun t' hfailed => hfree hfailed.failures)
      fun c b iovecs v t' hlen hbuilt _ => hmade hlen hbuilt
  | some n =>
    exact leads_serializeVectoredBuffers rfl (fun t' hfailed => hfree hfailed.failures)
      fun c b iovecs v t' hlen hbuilt _ => hmade hlen hbuilt

/-- **`create_buffer_payload_from_data`.** -/
theorem leads_createBufferPayloadFromData (env : BuildEnv) (t : Count) :
    Leads (createBufferPayloadFromData env) 0 t fun o P' t' =>
      Refused t 0 o P' t' ∨ Disposable t o P' t' := by
  unfold createBufferPayloadFromData
  refine leads_malloc (fun _ => .pure (.inl ⟨Nat.lt_succ_self _, rfl, rfl⟩)) fun _ _ => ?_
  refine leads_malloc (fun _ => ?_) fun _ _ => ?_
  · exact leads_free (.pure (.inl ⟨Nat.lt_succ_self _, rfl, rfl⟩))
  refine leads_malloc (fun _ => ?_) fun _ _ => ?_
  · exact leads_free (leads_free (.pure (.inl ⟨Nat.lt_succ_self _, rfl, rfl⟩)))
  refine leads_getBuffer (fun _ => ?_) fun g _ => ?_
  · exact leads_free (leads_free (leads_free (.pure (.inl ⟨Nat.lt_succ_self _, rfl, rfl⟩))))
  · refine .pure (.inr ⟨rfl, _, rfl, ?_⟩)
    refine Payload.Disposes.cast (disposes_linear
      (c := .user [⟨t.fetches, g⟩]) rfl rfl rfl rfl rfl) ?_
    simp only [Content.held, viewsOf_cons, viewsOf_nil, ← Multiset.singleton_add]
    abel

/-- **`create_buffer_payload_from_pybuffer`**, which takes the view over. -/
theorem leads_createBufferPayloadFromPybuffer (env : BuildEnv) (v : View) (array : ℕ → Iovec)
    (t : Count) :
    Leads (createBufferPayloadFromPybuffer env v array) {.view v.name} t fun o P' t' =>
      Refused t {.view v.name} o P' t' ∨ Disposable t o P' t' := by
  unfold createBufferPayloadFromPybuffer
  refine leads_malloc (fun _ => .pure (.inl ⟨Nat.lt_succ_self _, rfl, rfl⟩)) fun _ _ => ?_
  refine leads_malloc (fun _ => ?_) fun _ _ => ?_
  · exact leads_free (.pure (.inl ⟨Nat.lt_succ_self _, rfl, rfl⟩))
  refine leads_malloc (fun _ => ?_) fun _ _ => ?_
  · exact leads_free (leads_free (.pure (.inl ⟨Nat.lt_succ_self _, rfl, rfl⟩)))
  refine leads_malloc (fun _ => ?_) fun _ _ => ?_
  · exact leads_free (leads_free (leads_free (.pure (.inl ⟨Nat.lt_succ_self _, rfl, rfl⟩))))
  · refine .pure (.inr ⟨rfl, _, rfl, fun t' => ?_⟩)
    refine leads_freeBufferPayload rfl rfl rfl ?_
    refine Leads.cast (leads_freeUserVector (V := .block (t.requests + 1 + 1 + 1) ::ₘ viewsOf [v])
      rfl (leads_freeViews (show _ = some (([v] : List View).length : ℤ) from rfl))
      leads_freePayload) ?_
    simp only [viewsOf_cons, viewsOf_nil, ← Multiset.singleton_add]
    abel

end Uringio.Blocks
