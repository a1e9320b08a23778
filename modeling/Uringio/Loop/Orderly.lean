import Uringio.Loop.Shutdown

/-!
# What a shutdown owes to the requests

The requests that are in progress when a loop is closed should get an exception, and what the kernel
may still write to should not be freed before the ring is torn down. `graceful_shutdown` gives the
exception to the futures that its drain reaches, as long as no exception is pending
(`closeAll_iff`); the other futures are only given up. It frees what the drain removes, and then the
payload of every slot that is left, before it calls `ring_destroy` (`shutdown_released_iff`).
`orderly_iff` puts the two together.
-/

namespace Uringio

namespace Loop

variable {L L' M M' : Loop} {d : Drained} {ds : List Drained} {i : ℤ} {k : ℕ} {o : HeapRef}

/-! ## The futures -/

/-- The future of the slot at `index`. -/
def futureAt (L : Loop) (index : ℤ) : Option FutureRef :=
  (registryGet L.registry index).bind RequestSlot.future

/-- The futures that the drain finds, in order, when it has removed the slots in `gone`: those of
the slots that the completions name for the first time. -/
def reached (L : Loop) : List ℤ → List Drained → List (FutureRef × Bool)
  | _, [] => []
  | gone, d :: ds =>
    match L.names d with
    | none => L.reached gone ds
    | some i =>
      if i ∈ gone then L.reached gone ds
      else (L.futureAt i).toList.map (·, d.raises) ++ L.reached (i :: gone) ds

/-- The exception for each future of a list. -/
def closeAll (L : Loop) (fs : List (FutureRef × Bool)) : Loop :=
  fs.foldl (fun L f => L.closeFuture f.1 f.2) L

/-- The drain reaches the future of call number `k`, and before that no exception is pending: each
future before it is pending, and its `set_exception` does not raise. -/
def Reaches (L : Loop) (ds : List Drained) (k : ℕ) : Prop :=
  L.err = false ∧ ∃ before raises after, L.reached [] ds = before ++ (k, raises) :: after ∧
    ∀ f ∈ before, L.futures f.1 = .pending ∧ f.2 = false

/-- What an exception does to futures does not depend on anything else. -/
theorem closeFuture_congr (hfut : M'.futures = M.futures) (herr : M'.err = M.err) (f : FutureRef)
    (raises : Bool) : (M'.closeFuture f raises).futures = (M.closeFuture f raises).futures ∧
      (M'.closeFuture f raises).err = (M.closeFuture f raises).err := by
  unfold closeFuture resolve
  rw [hfut, herr]
  split
  · exact ⟨hfut, herr⟩
  · split
    · exact ⟨rfl, rfl⟩
    · exact ⟨rfl, rfl⟩

/-- Closing the futures depends on them and on what is pending. -/
theorem closeAll_congr (fs : List (FutureRef × Bool)) (hfut : M'.futures = M.futures)
    (herr : M'.err = M.err) : (M'.closeAll fs).futures = (M.closeAll fs).futures ∧
      (M'.closeAll fs).err = (M.closeAll fs).err := by
  induction fs generalizing M M' with
  | nil => exact ⟨hfut, herr⟩
  | cons f fs ih =>
    obtain ⟨hfut', herr'⟩ := closeFuture_congr hfut herr f.1 f.2
    exact ih hfut' herr'

/-- The drain gives the exception to the futures that it reaches. -/
theorem drain_closeAll (gone : List ℤ) (hnames : ∀ d, M.names d = L.names d)
    (hfutures : ∀ j, M.futureAt j = if j ∈ gone then none else L.futureAt j)
    (h : M.drain ds = .ok M') : M'.futures = (M.closeAll (L.reached gone ds)).futures := by
  induction ds generalizing M gone with
  | nil =>
    cases h
    rfl
  | cons d ds ih =>
    obtain ⟨M₁, hstep, hrest⟩ := bind_eq_ok.mp h
    rcases drainCqe_ok hstep with ⟨hname, rfl⟩ | ⟨i, slot, hname, hdrops⟩
    · rw [hnames] at hname
      simp only [reached, hname]
      exact ih gone hnames hfutures hrest
    · have hnames₁ : ∀ d, M₁.names d = L.names d := fun d => (hdrops.names d).trans (hnames d)
      rw [hnames] at hname
      have hat : M.futureAt i = slot.future := by simp [futureAt, hdrops.get]
      -- The slot at `i` has no future any more, the others have theirs.
      have hfutures₁ : ∀ j, M₁.futureAt j = if j = i then none else M.futureAt j := by
        intro j
        by_cases hj : j = i
        · rw [if_pos hj, hj, futureAt, hdrops.cleared]
          rfl
        · rw [if_neg hj, futureAt, hdrops.others j hj]
          rfl
      simp only [reached, hname]
      by_cases hmem : i ∈ gone
      · have hnone : slot.future = none := by rw [← hat, hfutures, if_pos hmem]
        have hsame : M.closedFuture d slot = M := by simp [closedFuture, hnone]
        rw [if_pos hmem, ih gone hnames₁ (fun j => ?_) hrest]
        · exact (closeAll_congr _ (by rw [hdrops.futures, hsame]) (by rw [hdrops.err, hsame])).1
        · rw [hfutures₁, hfutures]
          by_cases hj : j = i
          · rw [if_pos hj, hj, if_pos hmem]
          · rw [if_neg hj]
      · have hfut : slot.future = L.futureAt i := by rw [← hat, hfutures, if_neg hmem]
        have hone : M.closedFuture d slot = M.closeAll
            ((L.futureAt i).toList.map (·, d.raises)) := by
          rw [← hfut, closedFuture]
          cases slot.future <;> rfl
        rw [if_neg hmem, ih (i :: gone) hnames₁ (fun j => ?_) hrest]
        · rw [closeAll, closeAll, List.foldl_append]
          exact (closeAll_congr _ (by rw [hdrops.futures, hone]; rfl)
            (by rw [hdrops.err, hone]; rfl)).1
        · rw [hfutures₁, hfutures]
          by_cases hj : j = i
          · simp [hj]
          · simp [hj]

/-- Behind a pending exception no future gets one. -/
theorem closeAll_of_err (fs : List (FutureRef × Bool)) (herr : L.err = true) :
    L.closeAll fs = L := by
  induction fs with
  | nil => rfl
  | cons f fs ih =>
    have hskip : L.closeFuture f.1 f.2 = L := if_pos herr
    rw [closeAll, List.foldl_cons, hskip]
    exact ih

/-- A future that has the exception keeps it. -/
theorem closeAll_of_done (fs : List (FutureRef × Bool)) (hdone : L.futures k = .done loopClosed) :
    (L.closeAll fs).futures k = .done loopClosed := by
  induction fs generalizing L with
  | nil => exact hdone
  | cons f fs ih =>
    refine ih ?_
    change (L.closeFuture f.1 f.2).futures k = .done loopClosed
    unfold closeFuture resolve
    split
    · exact hdone
    · split
      · by_cases hk : k = f.1
        · simp [hk]
        · simpa [hk] using hdone
      · exact hdone

/-- **Which futures get the exception**: a pending one that is reached before an exception is
pending. -/
theorem closeAll_iff {fs : List (FutureRef × Bool)} (hnodup : (fs.map Prod.fst).Nodup)
    (hk : L.futures k = .pending) :
    (L.closeAll fs).futures k = .done loopClosed ↔
      L.err = false ∧ ∃ before raises after, fs = before ++ (k, raises) :: after ∧
        ∀ f ∈ before, L.futures f.1 = .pending ∧ f.2 = false := by
  by_cases herr : L.err = true
  · rw [closeAll_of_err fs herr, hk]
    simp [herr]
  have hclear : L.err = false := by simpa using herr
  induction fs generalizing L with
  | nil =>
    change L.futures k = .done loopClosed ↔ _
    rw [hk]
    simp
  | cons f fs ih =>
    obtain ⟨j, raises⟩ := f
    obtain ⟨hnot, hrest⟩ := List.nodup_cons.mp hnodup
    simp only [hclear, true_and]
    -- What the head of the list does.
    have hhead : L.closeFuture j raises =
        { L.resolve j loopClosed with err := (L.resolve j loopClosed).err || raises } :=
      if_neg herr
    change ((L.closeFuture j raises).closeAll fs).futures k = .done loopClosed ↔ _
    by_cases hj : L.futures j = .pending
    · have hresolve : L.resolve j loopClosed =
          { L with futures := Function.update L.futures j (.done loopClosed) } := by
        simp [resolve, hj, hclear]
      rw [hresolve] at hhead
      by_cases hkj : k = j
      · -- The future is at the head.
        refine iff_of_true (closeAll_of_done fs ?_) ⟨[], raises, fs, by rw [hkj]; rfl, by simp⟩
        rw [hhead, hkj]
        simp
      · have hk' : (L.closeFuture j raises).futures k = .pending := by
          rw [hhead]
          simpa [hkj] using hk
        cases raises with
        | true =>
          have herr' : (L.closeFuture j true).err = true := by rw [hhead]; simp
          rw [closeAll_of_err fs herr', hk']
          refine iff_of_false (by simp) ?_
          rintro ⟨before, raises, after, heq, hbefore⟩
          cases before with
          | nil => exact hkj (congrArg Prod.fst (List.cons.inj heq).1).symm
          | cons f before =>
            have hf := (List.cons.inj heq).1
            have := (hbefore f List.mem_cons_self).2
            rw [← hf] at this
            cases this
        | false =>
          have herr' : (L.closeFuture j false).err = false := by rw [hhead]; simpa using hclear
          have hother : ∀ f ∈ fs, (L.closeFuture j false).futures f.1 = L.futures f.1 := by
            intro f hf
            have hne : f.1 ≠ j := fun heq => hnot (List.mem_map.mpr ⟨f, hf, heq⟩)
            rw [hhead]
            simp [hne]
          have hnoerr : ¬ (L.closeFuture j false).err = true := by simp [herr']
          refine (ih hrest hk' hnoerr herr').trans ?_
          simp only [herr', true_and]
          constructor
          · rintro ⟨before, raises, after, rfl, hbefore⟩
            refine ⟨(j, false) :: before, raises, after, rfl, fun f hf => ?_⟩
            rcases List.mem_cons.mp hf with rfl | hf
            · exact ⟨hj, rfl⟩
            · rw [← hother f (List.mem_append_left _ hf)]
              exact hbefore f hf
          · rintro ⟨before, raises, after, heq, hbefore⟩
            cases before with
            | nil => exact absurd (congrArg Prod.fst (List.cons.inj heq).1).symm hkj
            | cons f before =>
              obtain ⟨-, rfl⟩ := List.cons.inj heq
              refine ⟨before, raises, after, rfl, fun f' hf' => ?_⟩
              rw [hother f' (List.mem_append_left _ hf')]
              exact hbefore f' (List.mem_cons_of_mem _ hf')
    · -- The head raises `InvalidStateError`, which stays pending.
      have hkj : k ≠ j := fun heq => hj (heq ▸ hk)
      have hresolve : L.resolve j loopClosed = { L with err := true } := if_neg hj
      rw [hresolve] at hhead
      have herr' : (L.closeFuture j raises).err = true := by rw [hhead]; simp
      have hk' : (L.closeFuture j raises).futures k = .pending := by rw [hhead]; exact hk
      rw [closeAll_of_err fs herr', hk']
      refine iff_of_false (by simp) ?_
      rintro ⟨before, raises, after, heq, hbefore⟩
      cases before with
      | nil => exact hkj (congrArg Prod.fst (List.cons.inj heq).1).symm
      | cons f before =>
        have hf := (List.cons.inj heq).1
        have hpending := (hbefore f List.mem_cons_self).1
        rw [← hf] at hpending
        exact hj hpending

/-- A future that the drain reaches is that of a slot which it has not removed yet. -/
theorem serves_of_reached {gone : List ℤ} {f : FutureRef × Bool} (h : f ∈ L.reached gone ds) :
    ∃ i, i ∉ gone ∧ L.Serves i f.1 := by
  induction ds generalizing gone with
  | nil => cases h
  | cons d ds ih =>
    simp only [reached] at h
    split at h
    · exact ih h
    · next i _ =>
      split at h
      · exact ih h
      · next hi =>
        rcases List.mem_append.mp h with h | h
        · obtain ⟨k, hk, rfl⟩ := List.mem_map.mp h
          obtain ⟨slot, hget, hfut⟩ := Option.bind_eq_some_iff.mp (Option.mem_toList.mp hk)
          exact ⟨i, hi, slot, hget, hfut⟩
        · obtain ⟨j, hj, hserves⟩ := ih h
          exact ⟨j, fun hmem => hj (List.mem_cons_of_mem _ hmem), hserves⟩

/-- The drain reaches a future once at most. -/
theorem reached_nodup (h : L.Sound) (gone : List ℤ) (ds : List Drained) :
    ((L.reached gone ds).map Prod.fst).Nodup := by
  induction ds generalizing gone with
  | nil => exact List.nodup_nil
  | cons d ds ih =>
    simp only [reached]
    split
    · exact ih gone
    · next i _ =>
      split
      · exact ih gone
      · rw [List.map_append, List.nodup_append]
        refine ⟨?_, ih (i :: gone), fun a ha b hb heq => ?_⟩
        · cases L.futureAt i <;> simp
        · -- Another slot with the same future would have to be at `i`.
          obtain ⟨fa, hfa, rfl⟩ := List.mem_map.mp ha
          obtain ⟨fb, hfb, rfl⟩ := List.mem_map.mp hb
          obtain ⟨k, hk, rfl⟩ := List.mem_map.mp hfa
          obtain ⟨slot, hget, hfut⟩ := Option.bind_eq_some_iff.mp (Option.mem_toList.mp hk)
          obtain ⟨j, hj, hserves⟩ := serves_of_reached hfb
          have hsame : L.Serves j k := by
            have hkb : k = fb.1 := heq
            rw [hkb]
            exact hserves
          exact hj (h.injective j i k hsame ⟨slot, hget, hfut⟩ ▸ List.mem_cons_self)

/-! ## What is released -/

/-- What the drain releases is what the slots that it removes free. -/
theorem drain_released (h : L.drain ds = .ok L') (o : HeapRef) :
    L.released o ≤ L'.released o ∧ (L'.released o = L.released o ↔
      ∀ i ∈ L.removals ds, ∀ slot, registryGet L.registry i = some slot → o ∉ L.frees slot) := by
  induction ds generalizing L with
  | nil =>
    cases h
    simp [removals]
  | cons d ds ih =>
    obtain ⟨L₁, hstep, hrest⟩ := bind_eq_ok.mp h
    rcases drainCqe_ok hstep with ⟨hname, rfl⟩ | ⟨i, slot, hname, hdrops⟩
    · have hremovals : L₁.removals (d :: ds) = L₁.removals ds := by simp [removals, hname]
      rw [hremovals]
      exact ih hrest
    · have hremovals : L.removals (d :: ds) = i :: L.removals ds := by simp [removals, hname]
      obtain ⟨hle, hiff⟩ := ih hrest
      have hcount := hdrops.released_count o
      rw [hdrops.removals] at hiff
      -- The slots that are left free the same as before.
      have hfrees : L₁.frees = L.frees := funext fun s =>
        frees_congr (fun p => by rw [hdrops.payloads]) rfl rfl
      have hslots : (∀ j ∈ L.removals ds, ∀ s, registryGet L₁.registry j = some s →
          o ∉ L₁.frees s) ↔
          ∀ j ∈ L.removals ds, j ≠ i → ∀ s, registryGet L.registry j = some s → o ∉ L.frees s := by
        refine forall₂_congr fun j _ => ?_
        rw [hfrees]
        by_cases hj : j = i
        · refine iff_of_true (fun s hs => ?_) fun hne => absurd hj hne
          rw [hj, hdrops.cleared, Option.some.injEq] at hs
          rw [← hs]
          simp [frees_eq, RequestSlot.clear]
        · rw [hdrops.others j hj]
          exact ⟨fun h _ => h, fun h => h hj⟩
      rw [hslots] at hiff
      rw [hremovals]
      refine ⟨by omega, fun heq => ?_, fun hall => ?_⟩
      · have hzero : (L.frees slot).count o = 0 := by omega
        have hsame : L'.released o = L₁.released o := by omega
        intro j hj s hs
        by_cases hji : j = i
        · rw [hji, hdrops.get, Option.some.injEq] at hs
          rw [← hs]
          exact List.count_eq_zero.mp hzero
        · have hmem := (List.mem_cons.mp hj).resolve_left hji
          exact hiff.mp hsame j hmem hji s hs
      · have hzero := List.count_eq_zero.mpr (hall i List.mem_cons_self slot hdrops.get)
        have hsame := hiff.mpr fun j hj _ s hs => hall j (List.mem_cons_of_mem _ hj) s hs
        omega

/-- The slots that the drain removes hold nothing any more, the others what they held. -/
theorem drain_heldAt (h : L.drain ds = .ok L') : L'.registry.size = L.registry.size ∧
    ∀ j, L'.heldAt j = if j ∈ L.removals ds then none else L.heldAt j := by
  induction ds generalizing L with
  | nil =>
    cases h
    simp [removals]
  | cons d ds ih =>
    obtain ⟨L₁, hstep, hrest⟩ := bind_eq_ok.mp h
    obtain ⟨hsize, hheld⟩ := ih hrest
    rcases drainCqe_ok hstep with ⟨hname, rfl⟩ | ⟨i, slot, hname, hdrops⟩
    · have hremovals : L₁.removals (d :: ds) = L₁.removals ds := by simp [removals, hname]
      rw [hremovals]
      exact ⟨hsize, hheld⟩
    · have hremovals : L.removals (d :: ds) = i :: L.removals ds := by simp [removals, hname]
      refine ⟨hsize.trans hdrops.size, fun j => ?_⟩
      rw [hheld, hdrops.removals, hremovals]
      by_cases hj : j = i
      · have hnone : L₁.heldAt i = none := by
          rw [heldAt, hdrops.cleared]
          rfl
        rw [hj, hnone]
        simp
      · rw [heldAt, hdrops.others j hj]
        simp only [List.mem_cons, hj, false_or]
        rfl

/-- **What a shutdown releases** before the ring is torn down: what the slots that the drain removes
free, and the payload of each slot that is left. -/
theorem shutdown_released_iff {r : ℤ} {closed : Closed}
    (h : gracefulShutdown L ds r = .ok closed) (o : HeapRef) :
    closed.loop.released o = L.released o ↔
      (∀ i ∈ L.removals ds, ∀ slot, registryGet L.registry i = some slot → o ∉ L.frees slot) ∧
        ∀ p, o = .payload p → ∀ j ∉ L.removals ds, L.heldAt j ≠ some p := by
  obtain ⟨L', hdrain, h⟩ := bind_eq_ok.mp h
  cases h
  obtain ⟨hle, hiff⟩ := drain_released hdrain o
  obtain ⟨hsize, hheld⟩ := drain_heldAt hdrain
  have hdone := destroySlots_destroyed L' L'.registry.size
  change (L'.destroySlots L'.registry.size).released o = L.released o ↔ _
  rw [← hiff]
  by_cases hp : ∃ p, o = .payload p
  · obtain ⟨p, rfl⟩ := hp
    have hholders : (L'.holders p L'.registry.size).length = 0 ↔
        ∀ q, HeapRef.payload p = .payload q → ∀ j ∉ L.removals ds, L.heldAt j ≠ some q := by
      rw [List.length_eq_zero_iff]
      constructor
      · intro hnil q hq j hj hsome
        cases hq
        obtain ⟨-, -, -, hlo, hhi⟩ := heldAt_eq_some hsome
        obtain ⟨n, rfl⟩ := Int.eq_ofNat_of_zero_le hlo
        have hmem : n ∈ L'.holders p L'.registry.size := by
          refine mem_holders.mpr ⟨by omega, ?_⟩
          rw [hheld, if_neg hj]
          exact hsome
        rw [hnil] at hmem
        cases hmem
      · intro hnone
        by_contra hne
        obtain ⟨n, hn⟩ := List.exists_mem_of_ne_nil _ hne
        have hsome := (mem_holders.mp hn).2
        rw [hheld] at hsome
        split at hsome
        · cases hsome
        · next hnot => exact hnone p rfl n hnot hsome
    rw [hdone.freed, ← hholders]
    omega
  · have hother : ∀ p, o ≠ .payload p := fun p hop => hp ⟨p, hop⟩
    rw [hdone.others o hother]
    exact ⟨fun heq => ⟨heq, fun p hop => absurd hop (hother p)⟩, And.left⟩

/-! ## The two together -/

end Loop

/-- What the kernel may access for a request: its payload, its message header and its address. -/
def RequestSlot.memory (slot : RequestSlot) : List HeapRef :=
  slot.objects ++ (slot.addr.map .sockaddr).toList

/-- The shutdown is orderly, where `seen` are the requests whose completion arrived: each pending
future of a slot in use has got its exception, and what a request that was not seen may access was
not released before the ring is torn down. -/
structure Orderly (L : Loop) (seen : FutureRef → Prop) (closed : Closed) : Prop where
  /-- The pending future of each slot in use has the exception. -/
  given : ∀ i (k : ℕ), L.Serves i k → L.futures k = .pending →
    closed.loop.futures k = .done loopClosed
  /-- What a request that was not seen may access is as it was. -/
  kept : ∀ i slot (k : ℕ), registryGet L.registry i = some slot → slot.future = some k → ¬ seen k →
    ∀ o ∈ slot.memory, closed.loop.released o = L.released o

/-- The slot at `i` keeps what it points to through the shutdown: if the drain removes it, it has no
message header and no payload of its own, and no slot that the drain leaves holds its payload. -/
def Loop.KeepsMemory (L : Loop) (ds : List Drained) (i : ℤ) (slot : RequestSlot) : Prop :=
  (i ∈ L.removals ds → slot.msghdr = none) ∧
    ∀ p, slot.buffer_payload = some p → (i ∈ L.removals ds → (L.payloads p).mode ≠ .NORMAL_BUF) ∧
      ∀ j ∉ L.removals ds, L.heldAt j ≠ some p

namespace Loop

variable {L : Loop} {ds : List Drained} {r : ℤ} {closed : Closed} {i : ℤ} {slot : RequestSlot}

/-- What a slot points to is not released exactly when the slot keeps it. -/
theorem keepsMemory_iff (ha : L.Apart) (hget : registryGet L.registry i = some slot)
    (h : gracefulShutdown L ds r = .ok closed) :
    (∀ o ∈ slot.memory, closed.loop.released o = L.released o) ↔ L.KeepsMemory ds i slot := by
  constructor
  · intro hkept
    refine ⟨fun hi => ?_, fun p hp => ?_⟩
    · by_contra hne
      obtain ⟨m, hm⟩ := Option.ne_none_iff_exists'.mp hne
      have hmem : HeapRef.msghdr m ∈ slot.memory := by simp [RequestSlot.memory,
          RequestSlot.objects, hm]
      exact ((shutdown_released_iff h _).mp (hkept _ hmem)).1 i hi slot hget
        (mem_frees.mpr (.inr ⟨m, hm, rfl⟩))
    · have hmem : HeapRef.payload p ∈ slot.memory := by
        simp [RequestSlot.memory, RequestSlot.objects, hp]
      obtain ⟨hdrained, hleft⟩ := (shutdown_released_iff h _).mp (hkept _ hmem)
      exact ⟨fun hi hmode => hdrained i hi slot hget (mem_frees.mpr (.inl ⟨p, hp, hmode, rfl⟩)),
        hleft p rfl⟩
  · rintro ⟨hmsghdr, hpayload⟩ o ho
    refine (shutdown_released_iff h o).mpr ⟨fun j hj s hs hfree => ?_, fun p hop => ?_⟩
    · have hobj : o ∈ slot.objects := by
        rcases List.mem_append.mp ho with hobj | haddr
        · exact hobj
        · obtain ⟨a, -, rfl⟩ := Option.map_eq_some_iff.mp (Option.mem_toList.mp haddr)
          rcases mem_frees.mp hfree with ⟨p, -, -, heq⟩ | ⟨m, -, heq⟩ <;> cases heq
      by_cases hij : i = j
      · -- The slot itself was removed.
        rw [← hij] at hj hs
        rw [hget, Option.some.injEq] at hs
        rw [← hs] at hfree
        rcases mem_frees.mp hfree with ⟨p, hp, hmode, rfl⟩ | ⟨m, hm, rfl⟩
        · exact (hpayload p hp).1 hj hmode
        · rw [hmsghdr hj] at hm
          cases hm
      · -- Another slot points to the same: it is the payload of a context.
        obtain ⟨n, rfl⟩ := ha.own i j slot s o hij hget hs hobj (objects_of_mem_frees hfree)
        rcases mem_frees.mp hfree with ⟨p, hp, hmode, heq⟩ | ⟨m, -, heq⟩
        · cases heq
          exact ha.shared j s n hs hp hmode
        · cases heq
    · rw [hop] at ho
      have hp : slot.buffer_payload = some p := by
        simpa [RequestSlot.memory, RequestSlot.objects] using ho
      exact (hpayload p hp).2

/-- Whether a shutdown is orderly depends on the registry, the futures and what was released. -/
theorem orderly_congr {L₀ : Loop} {seen : FutureRef → Prop} (hreg : L₀.registry = L.registry)
    (hfut : L₀.futures = L.futures) (hrel : L₀.released = L.released) :
    Orderly L seen closed ↔ Orderly L₀ seen closed := by
  have hserves : ∀ i k, L₀.Serves i k ↔ L.Serves i k := fun i k => serves_congr (by rw [hreg])
  constructor
  · rintro ⟨hgiven, hkept⟩
    refine ⟨fun i k hs hk => hgiven i k ((hserves i k).mp hs) (by rw [← hfut]; exact hk), ?_⟩
    rw [hreg, hrel]
    exact hkept
  · rintro ⟨hgiven, hkept⟩
    refine ⟨fun i k hs hk => hgiven i k ((hserves i k).mpr hs) (by rw [hfut]; exact hk), ?_⟩
    rw [hreg, hrel] at hkept
    exact hkept

/-- **When a shutdown is orderly.** -/
theorem orderly_iff (hs : L.Sound) (ht : L.Tidy) (h : gracefulShutdown L ds r = .ok closed)
    (seen : FutureRef → Prop) :
    Orderly L seen closed ↔
      (∀ i (k : ℕ), L.Serves i k → L.futures k = .pending → L.Reaches ds k) ∧
        ∀ i slot (k : ℕ), registryGet L.registry i = some slot → slot.future = some k → ¬ seen k →
          L.KeepsMemory ds i slot := by
  have ha := apart_of_sound hs ht
  have hgiven : ∀ k : ℕ, L.futures k = .pending →
      (closed.loop.futures k = .done loopClosed ↔ L.Reaches ds k) := by
    intro k hk
    obtain ⟨L', hdrain, hclosed⟩ := bind_eq_ok.mp h
    cases hclosed
    have hdone := destroySlots_destroyed L' L'.registry.size
    change (L'.destroySlots L'.registry.size).futures k = _ ↔ _
    rw [hdone.futures, drain_closeAll [] (fun _ => rfl) (fun j => by simp) hdrain]
    exact closeAll_iff (reached_nodup hs [] ds) hk
  constructor
  · rintro ⟨hfutures, hkept⟩
    exact ⟨fun i k hserves hk => (hgiven k hk).mp (hfutures i k hserves hk),
      fun i slot k hget hfut hunseen => (keepsMemory_iff ha hget h).mp
        (hkept i slot k hget hfut hunseen)⟩
  · rintro ⟨hfutures, hkept⟩
    exact ⟨fun i k hserves hk => (hgiven k hk).mpr (hfutures i k hserves hk),
      fun i slot k hget hfut hunseen =>
        (keepsMemory_iff ha hget h).mpr (hkept i slot k hget hfut hunseen)⟩

end Loop

end Uringio
