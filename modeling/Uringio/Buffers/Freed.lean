import Uringio.Buffers.Routes

/-!
# Freeing what was constructed

Where a payload is constructed and nothing fails, the destructor takes it apart: it ends, gives back
every view that was acquired for the payload and every block that the payload reaches, and nothing
that was held before. Only `create_buffer_payload` also makes payloads of which that is not so: in
`NORMAL_BUF`, since the arrays that were built first are lost, and for both arrays of the runtime's
buffers, since the destructor frees their bytes twice.
-/

namespace Uringio.Blocks

open Ledger

/-! ## Routes -/

/-- The functions that make a payload, with their arguments and the payload of the context. -/
inductive Route
  | create (r : Request)
  | linear (context : Option Payload) (sequence : Option ℕ) (bufsize : ℤ)
  | vectored (context : Option Payload) (sequence : Option ℕ)
  | data
  | pybuffer (array : ℕ → Iovec)

/-- The call. `create_buffer_payload_from_pybuffer` gets a view that its caller has acquired. -/
def Route.run (env : BuildEnv) : Route → Build (Option Payload)
  | create r => r.create env
  | linear context sequence bufsize => getOrCreateLinearBuffer env context sequence bufsize
  | vectored context sequence => getOrCreateVectoredBuffer env context sequence
  | data => createBufferPayloadFromData env
  | pybuffer array => do
    match ← getBuffer env 0 with
    | none => pure none
    | some v => createBufferPayloadFromPybuffer env v array

/-- The payload of the context, which a route may return instead of making one. -/
def Route.context : Route → Option Payload
  | linear context .. => context
  | vectored context _ => context
  | _ => none

/-- The route makes the payload `p` on the way from `s` to `s'`, and nothing fails. -/
structure Route.Constructs (route : Route) (env : BuildEnv) (s s' : Books Resource Count)
    (p : Payload) : Prop where
  /-- The route makes the payload. -/
  run : route.run env s = (.ok (some p), s')
  /-- The payload is not that of the context. -/
  new : route.context ≠ some p
  /-- Nothing was refused. -/
  smooth : s'.rest.failures = s.rest.failures

/-- The destructor ends. Of what was taken on the way from `s` to `s'` it leaves no view and nothing
that the payload reaches; of what was held before it leaves all. -/
def Payload.Freed (p : Payload) (s s' : Books Resource Count) : Prop :=
  ∃ s'', freeBufferPayload p true s' = (.ok (), s'') ∧ s.held ≤ s''.held ∧
    ∀ x ∈ s''.held - s.held, (∀ n, x ≠ .view n) ∧ ¬ p.Reaches x

/-- The routes whose payloads the destructor takes apart. -/
def Route.Invertible : Route → Prop
  | create r => r.mode ≠ .NORMAL_BUF ∧ (r.mode = .FIXED → r.sequence.isSome = true)
  | _ => True

variable {env : BuildEnv} {s s' : Books Resource Count} {p : Payload} {t : Count}

/-! ## The context -/

/-- Whether the context serves a call is only looked up. -/
theorem serves_cases {α : Type} (type : PayloadType) (array : Payload → Option (Option α))
    (sequence : Option ℕ) (context : Option Payload) :
    serves type array sequence context = stop .uninitialised ∨
      ∃ b, serves type array sequence context = pure b := by
  cases sequence with
  | some n => exact .inr ⟨false, rfl⟩
  | none =>
    cases context with
    | none => exact .inr ⟨false, rfl⟩
    | some payload =>
      unfold serves
      dsimp only
      cases payload.payload_type with
      | none => exact .inl rfl
      | some payload_type =>
        rw [read_some, pure_bind]
        by_cases htype : payload_type = type
        · rw [if_pos htype]
          cases array payload with
          | none => exact .inl rfl
          | some array => exact .inr ⟨array.isSome, rfl⟩
        · rw [if_neg htype]
          exact .inr ⟨false, rfl⟩

/-- A call that may be served by the context returns the payload of the context, or makes one. -/
theorem run_of_serves {serves : Build Bool} {context : Option Payload}
    {make : Build (Option Payload)} {o : Except Undefined (Option Payload)}
    (hserves : serves = stop .uninitialised ∨ ∃ b, serves = pure b)
    (hrun : (serves >>= fun b => if b then pure context else make) s = (o, s')) :
    s' = s ∧ (o = .ok context ∨ o = .error .uninitialised) ∨ make s = (o, s') := by
  rcases hserves with rfl | ⟨b, rfl⟩
  · cases hrun
    exact .inl ⟨rfl, .inr rfl⟩
  · rw [pure_bind] at hrun
    cases b with
    | true =>
      cases hrun
      exact .inl ⟨rfl, .inl rfl⟩
    | false => exact .inr hrun

/-! ## The destructor after a route -/

/-- A payload that disposes of what was taken is freed. -/
theorem freed_of_disposes {P' : Multiset Resource} (h : p.Disposes P') :
    p.Freed s ⟨P' + s.held, t⟩ := by
  obtain ⟨o, P'', t', hrun, rfl, rfl⟩ := h t s.held
  refine ⟨_, hrun, by simp, fun x hx => ?_⟩
  have hnone : 0 + s.held - s.held = 0 := add_tsub_cancel_right 0 s.held
  rw [hnone] at hx
  exact absurd hx (Multiset.notMem_zero x)

/-- **What stays** when a payload disposes of a part only: with a view in the rest it is not
freed. -/
theorem not_freed_of_view {P' F : Multiset Resource} {n : ℕ} (h : p.Disposes P')
    (hview : .view n ∈ F) : ¬ p.Freed s ⟨P' + F + s.held, t⟩ := by
  obtain ⟨o, P'', t', hrun, Q, rfl, rfl, rfl⟩ := (h t).frame F s.held
  rintro ⟨s'', hrun', -, hleft⟩
  rw [hrun] at hrun'
  obtain ⟨-, rfl⟩ := Prod.mk.inj hrun'
  have hheld : 0 + F + s.held - s.held = F := by
    rw [zero_add, add_tsub_cancel_right]
  exact (hleft (.view n) (by rw [hheld]; exact hview)).1 n rfl

/-- A payload of which the destructor does not end is not freed. -/
theorem not_freed_of_stops (h : Stops (freeBufferPayload p true)) : ¬ p.Freed s s' := by
  rintro ⟨s'', hrun, -⟩
  exact h _ _ _ hrun

/-- Where `create_buffer_payload` returns, the number of the user's items is not zero. -/
theorem Request.toInt_ne_zero {r : Request} {x : Option Payload} {n : ℕ}
    (hrun : r.create env s = (.ok x, s')) (hsequence : r.sequence = some n) :
    CInt.toInt n ≠ 0 := fun hzero => by
  unfold Request.create createBufferPayload at hrun
  rw [hsequence, getBufferMetadata_divides _ _ hzero] at hrun
  cases congrArg Prod.fst hrun

section Create

variable {r : Request} {c : Content} {l b iovecs v : ℕ} {t₀ t' : Count}

/-- **Both arrays** of the runtime's buffers are not taken apart. -/
theorem stops_stamp (horigin : c.origin = .PAYLOAD_RUNTIME) {payload_type : PayloadType} :
    Stops (freeBufferPayload (r.stamp payload_type (c.both l b iovecs v (freshPayload t₀)))
      true) := by
  cases c with
  | user => cases horigin
  | runtime => exact stops_runtime rfl

/-- **Both arrays** of the user's buffers are. -/
theorem disposes_stamp (hlen : 0 ≤ r.metadata.amount) (hne : r.metadata.amount ≠ 0)
    (hbuilt : Built env t t' r.metadata.amount.toNat r.metadata.bufsize
      r.metadata.payload_origin c) (huser : c.origin = .PAYLOAD_USER)
    {payload_type : PayloadType} :
    (r.stamp payload_type (c.both l b iovecs v (freshPayload t₀))).Disposes
      (.block l ::ₘ .block b ::ₘ .block iovecs ::ₘ (c.held v + {.block t₀.requests})) := by
  have hlength := hbuilt.length_eq
  refine disposes_both rfl ?_ ?_ huser (by omega) rfl rfl
  · rw [hbuilt.origin_eq]
    rfl
  · have hcast : r.metadata.amount = (c.length : ℤ) := by omega
    rw [← hcast]
    rfl

/-- **One linear array** is taken apart, whoever allocated its buffers. -/
theorem disposes_stampLinear (hlen : 0 ≤ r.metadata.amount)
    (hbuilt : Built env t t' r.metadata.amount.toNat r.metadata.bufsize
      r.metadata.payload_origin c) {payload_type : PayloadType} {bgid : Option ℤ} :
    (r.stamp payload_type { Payload.new t₀.requests with
      bgid := bgid, linear := some (some (c.linear b v)), vector := some none }).Disposes
      (.block b ::ₘ (c.held v + {.block t₀.requests})) := by
  have hlength := hbuilt.length_eq
  refine disposes_linear rfl ?_ ?_ rfl rfl
  · rw [hbuilt.origin_eq]
    rfl
  · have hcast : r.metadata.amount = (c.length : ℤ) := by omega
    rw [← hcast]
    rfl

end Create

/-- Content of the user's buffers, if there are any, holds a view. -/
theorem Content.view_mem_held {c : Content} (huser : c.origin = .PAYLOAD_USER)
    (hlength : c.length ≠ 0) (v : ℕ) : ∃ n, .view n ∈ c.held v := by
  cases c with
  | runtime => cases huser
  | user vs =>
    cases vs with
    | nil => exact absurd rfl hlength
    | cons w vs => exact ⟨w.name, by simp [Content.held]⟩

/-- **`create_buffer_payload`.** -/
theorem Request.freed_iff_invertible {r : Request} (hrun : r.create env s = (.ok (some p), s'))
    (hsmooth : s'.rest.failures = s.rest.failures) :
    p.Freed s s' ↔ r.mode ≠ .NORMAL_BUF ∧ (r.mode = .FIXED → r.sequence.isSome = true) := by
  obtain ⟨o, P', t', hrun', hcreated⟩ := (leads_create env r s.rest).run
  rw [hrun] at hrun'
  obtain ⟨rfl, rfl⟩ := Prod.mk.inj hrun'
  have hne : r.sequence.isSome = true → r.metadata.amount ≠ 0 := fun hsome => by
    obtain ⟨n, hsequence⟩ := Option.isSome_iff_exists.mp hsome
    rw [r.amount_eq n hsequence]
    exact Request.toInt_ne_zero hrun hsequence
  have horigin : r.sequence.isSome = false → r.metadata.payload_origin = .PAYLOAD_RUNTIME :=
    fun hnone => by rw [r.origin_eq, originOf, hnone]; rfl
  have huser : r.sequence.isSome = true → r.metadata.payload_origin = .PAYLOAD_USER :=
    fun hsome => by rw [r.origin_eq, originOf, hsome]; rfl
  cases hcreated with
  | linear bgid hmode hlen hbuilt =>
    refine iff_of_true (freed_of_disposes (disposes_stampLinear hlen hbuilt)) ⟨?_, ?_⟩
    · rcases hmode with h | h <;> simp [h]
    · rcases hmode with h | h <;> simp [h]
  | both hmode hlen hbuilt =>
    cases hsome : r.sequence.isSome with
    | true =>
      have hcontent := hbuilt.origin_eq.trans (huser hsome)
      exact iff_of_true (freed_of_disposes (disposes_stamp hlen (hne hsome) hbuilt hcontent))
        ⟨by simp [hmode], fun _ => rfl⟩
    | false =>
      have hcontent := hbuilt.origin_eq.trans (horigin hsome)
      exact iff_of_false (not_freed_of_stops (stops_stamp hcontent)) (by simp [hmode])
  | twice hmode hlen hfirst hleft hbuilt hnamed =>
    refine iff_of_false ?_ (by simp [hmode])
    cases hsome : r.sequence.isSome with
    | true =>
      -- The views of the first arrays stay.
      rename_i c₁ c l b iovecs v₁ v Y t₁
      have hcontent := hbuilt.origin_eq.trans (huser hsome)
      have hlength := hfirst.length_eq
      have hnz := hne hsome
      obtain ⟨n, hview⟩ := Content.view_mem_held (v := v₁)
        (hfirst.origin_eq.trans (huser hsome)) (by omega)
      have hsplit : .block l ::ₘ .block b ::ₘ .block iovecs ::ₘ
          (c.held v + (Y + (c₁.held v₁ + {Resource.block s.rest.requests}))) =
          .block l ::ₘ .block b ::ₘ .block iovecs ::ₘ
          (c.held v + {Resource.block s.rest.requests}) + (Y + c₁.held v₁) := by
        simp only [← Multiset.singleton_add]
        abel
      rw [hsplit]
      exact not_freed_of_view (disposes_stamp hlen hnz hbuilt hcontent)
        (Multiset.mem_add.mpr (.inr hview))
    | false =>
      exact not_freed_of_stops (stops_stamp (hbuilt.origin_eq.trans (horigin hsome)))

/-- A disposable payload is freed, if it is the one that was returned. -/
theorem freed_of_disposable {o : Except Undefined (Option Payload)} {P' : Multiset Resource}
    {t' : Count} (h : Disposable t o P' t') (ho : o = .ok (some p)) :
    p.Freed s ⟨P' + s.held, t'⟩ := by
  obtain ⟨-, q, rfl, hdisposes⟩ := h
  cases ho
  exact freed_of_disposes hdisposes

/-- **The other routes** make payloads that the destructor takes apart. -/
theorem freed_of_leads {m : Build (Option Payload)}
    (hleads : Leads m 0 s.rest fun o P' t' =>
      (s.rest.failures < t'.failures ∨ o = .ok none) ∨ Disposable s.rest o P' t')
    (hrun : m s = (.ok (some p), s')) (hsmooth : s'.rest.failures = s.rest.failures) :
    p.Freed s s' := by
  obtain ⟨o, P', t', hrun', h⟩ := hleads.run
  rw [hrun] at hrun'
  obtain ⟨rfl, rfl⟩ := Prod.mk.inj hrun'
  rcases h with (hlt | hnone) | hdisposable
  · exact absurd hsmooth (by dsimp only; omega)
  · cases hnone
  · exact freed_of_disposable hdisposable rfl

/-- A route that may return the payload of the context has made the payload that it returns, if that
is another one. -/
theorem run_of_new {serves : Build Bool} {context : Option Payload} {make : Build (Option Payload)}
    (hserves : serves = stop .uninitialised ∨ ∃ b, serves = pure b)
    (hrun : (serves >>= fun b => if b then pure context else make) s = (.ok (some p), s'))
    (hnew : context ≠ some p) : make s = (.ok (some p), s') := by
  rcases run_of_serves hserves hrun with ⟨-, h | h⟩ | h
  · exact absurd (Except.ok.inj h).symm hnew
  · cases h
  · exact h

/-- **`create_buffer_payload_from_pybuffer`**, with the view that its caller acquires. -/
theorem leads_pybuffer (env : BuildEnv) (array : ℕ → Iovec) (t : Count) :
    Leads ((Route.pybuffer array).run env) 0 t fun o P' t' =>
      (t.failures < t'.failures ∨ o = .ok none) ∨ Disposable t o P' t' := by
  refine leads_getBuffer (fun _ => .pure (.inl (.inr rfl))) fun g _ => ?_
  refine (leads_createBufferPayloadFromPybuffer env ⟨t.fetches, g⟩ array _).mono ?_
  rintro o P' t' (⟨hlt, -⟩ | hdisposable)
  · exact .inl (.inl hlt)
  · exact .inr hdisposable

/-- **Freeing undoes construction** exactly for the routes that are invertible. -/
theorem Route.freed_iff {route : Route} (h : route.Constructs env s s' p) :
    p.Freed s s' ↔ route.Invertible := by
  obtain ⟨hrun, hnew, hsmooth⟩ := h
  cases route with
  | create r => exact r.freed_iff_invertible hrun hsmooth
  | linear context sequence bufsize =>
    have hmake := run_of_new (serves_cases ..) hrun hnew
    refine iff_of_true (freed_of_leads ((leads_newLinearBuffer env sequence bufsize _).mono ?_)
      hmake hsmooth) trivial
    rintro o P' t' (⟨⟨hlt, -⟩, -⟩ | ⟨hlt, -⟩ | hdisposable)
    · exact .inl (.inl hlt)
    · exact .inl (.inl hlt)
    · exact .inr hdisposable
  | vectored context sequence =>
    have hmake := run_of_new (serves_cases ..) hrun hnew
    refine iff_of_true (freed_of_leads ((leads_newVectoredBuffer env sequence _).mono ?_)
      hmake hsmooth) trivial
    rintro o P' t' (⟨hlt, -⟩ | hdisposable)
    · exact .inl (.inl hlt)
    · exact .inr hdisposable
  | data =>
    refine iff_of_true (freed_of_leads ((leads_createBufferPayloadFromData env _).mono ?_)
      hrun hsmooth) trivial
    rintro o P' t' (⟨hlt, -⟩ | hdisposable)
    · exact .inl (.inl hlt)
    · exact .inr hdisposable
  | pybuffer array =>
    exact iff_of_true (freed_of_leads (leads_pybuffer env array _) hrun hsmooth) trivial

/-! ## Two routes -/

/-- A run of a route that does not look at the context constructs what it returns. -/
theorem Route.constructs_of_run {route : Route} (hcontext : route.context = none)
    (h : (match route.run env s with
      | (.ok (some _), s') => decide (s'.rest.failures = s.rest.failures)
      | _ => false) = true) : ∃ p s', route.Constructs env s s' p := by
  split at h
  · next p s' hrun =>
    exact ⟨p, s', hrun, by simp [hcontext], of_decide_eq_true h⟩
  · cases h

/-- Both arrays of the user's buffers are freed. -/
theorem Route.registered_freed : ∃ p s', (Route.create .registered).Constructs .calm Books.start
    s' p ∧ p.Freed Books.start s' := by
  obtain ⟨p, s', h⟩ : ∃ p s', (Route.create .registered).Constructs .calm Books.start s' p :=
    Route.constructs_of_run rfl (by decide +kernel)
  exact ⟨p, s', h, (Route.freed_iff h).mpr ⟨by decide, fun _ => rfl⟩⟩

/-- One buffer of the runtime, to be registered. -/
def Request.owned : Request := { Request.plain with mode := .FIXED }

/-- The destructor frees the buffer of the runtime through both arrays. -/
theorem Route.owned_not_freed : ∃ p s', (Route.create .owned).Constructs .calm Books.start s' p ∧
    ¬ p.Freed Books.start s' := by
  have heval : (match (Route.create .owned).run .calm Books.start with
      | (.ok (some p), s') => decide (s'.rest.failures = 0) &&
        (match (freeBufferPayload p true s').1 with
        | .error e => decide (e = .notHeld)
        | .ok _ => false)
      | _ => false) = true := by decide +kernel
  split at heval
  · next p s' hrun =>
    obtain ⟨hsmooth, hfree⟩ := Bool.and_eq_true_iff.mp heval
    refine ⟨p, s', ⟨hrun, by simp [Route.context], of_decide_eq_true hsmooth⟩, ?_⟩
    rintro ⟨s'', hfreed, -⟩
    rw [hfreed] at hfree
    cases hfree
  · cases heval

end Uringio.Blocks
