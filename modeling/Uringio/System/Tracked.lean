import Uringio.System.Step

/-!
# What holds in every run

An entry is outstanding until its last completion was read. Its position names it: no two
outstanding entries share one, and nothing follows the completion that ends an entry. With the
invariant of the loop that is `System.Tracked`, which every step keeps (`Tracked.step`), and so it
holds in every reachable state (`tracked_of_run`).

For the queues there are two kinds of steps. Most of them add entries at the end of the submission
queue and take completions off (`Submits`); the kernel's posts append a completion and end an
entry, or not (`Posts`).
-/

namespace Uringio

namespace System

variable {s s' : System} {l : Label} {added consumed : List (ℕ × Sqe)} {c : Completion}

/-- The position of the next entry. -/
def tail (s : System) : ℕ := s.loop.ring.tail

/-- A step that may add entries and handle completions. -/
structure Submits (s s' : System) (added : List (ℕ × Sqe)) : Prop where
  /-- What was added is pending. -/
  pending : s'.pending.Perm (s.pending ++ added)
  /-- It is at the next positions. -/
  positions : added.map Prod.fst = List.range' s.tail added.length
  /-- The tail is behind it. -/
  tail : s'.tail = s.tail + added.length
  /-- Completions are taken off the queue only at its front. -/
  cq : s'.cq <:+ s.cq

/-- The kernel posted the completion `c`. -/
structure Posts (s s' : System) (c : Completion) : Prop where
  /-- An entry whose last completion was posted is not pending any more. -/
  pending : s.pending.Perm (if c.cqe.more then s'.pending else (c.pos, c.sqe) :: s'.pending)
  /-- The entry was pending. -/
  mem : (c.pos, c.sqe) ∈ s.pending
  /-- Nothing was added. -/
  tail : s'.tail = s.tail
  /-- The completion is behind the others. -/
  cq : s'.cq = s.cq ++ [c]
  /-- The completion has the tag of its entry. -/
  tag : c.cqe.user_data = c.sqe.user_data

/-- The entries that the kernel took are outstanding as before. -/
theorem pending_perm (hflying : s'.flying = s.flying ++ consumed.map Flight.ofEntry)
    (hadds : Adds s.loop.ring consumed s'.loop.ring added) :
    s'.pending.Perm (s.pending ++ added) := by
  have htaken : (consumed.map Flight.ofEntry).map (fun f => (f.pos, f.sqe)) = consumed := by
    rw [List.map_map]
    exact List.map_id consumed
  unfold pending
  rw [hflying, List.map_append, htaken]
  have hwindow := hadds.window
  generalize s.flying.map (fun f => (f.pos, f.sqe)) = flying
  have hsame : (flying ++ consumed) ++ s'.loop.ring.window =
      (flying ++ s.loop.ring.window) ++ added := by
    rw [List.append_assoc, hwindow, List.append_assoc]
  refine List.perm_append_comm.trans ?_
  rw [hsame]
  exact List.perm_append_comm.append_right added

/-- A function of the ops layer was called. -/
theorem submits_of_adds (hflying : s'.flying = s.flying ++ consumed.map Flight.ofEntry)
    (hadds : Adds s.loop.ring consumed s'.loop.ring added) (hcq : s'.cq <:+ s.cq) :
    Submits s s' added where
  pending := pending_perm hflying hadds
  positions := hadds.positions
  tail := hadds.tail
  cq := hcq

/-- A step that touches neither queue. -/
theorem submits_nothing (hring : s'.loop.ring = s.loop.ring) (hflying : s'.flying = s.flying)
    (hcq : s'.cq = s.cq) : Submits s s' [] := by
  have hnone : s'.flying = s.flying ++ ([] : List (ℕ × Sqe)).map Flight.ofEntry := by
    simpa using hflying
  exact submits_of_adds hnone (by rw [hring]; exact adds_nothing _) (hcq ▸ List.suffix_refl _)

/-- A submission outside of any request. -/
theorem submits_submitted {P : Sqe → Prop} {sub : Submission}
    (h : sub.Submits s.loop.ring P) : ∃ added, Submits s (s.submitted sub) added := by
  obtain ⟨added, hadds, -⟩ := h
  exact ⟨added, submits_of_adds rfl hadds (List.suffix_refl _)⟩

/-- The submission of the queue. -/
theorem submits_submit (s : System) (r : ℤ) :
    Submits s (s.submitted ⟨r, (submit s.loop.ring r).2, (submit s.loop.ring r).1⟩) [] := by
  refine submits_of_adds rfl ⟨?_, rfl, submit_tail _ r⟩ (List.suffix_refl _)
  change (submit s.loop.ring r).1 ++ (submit s.loop.ring r).2.window = s.loop.ring.window ++ []
  rw [List.append_nil]
  unfold submit
  split
  · rfl
  · rw [RingBuffer.window_consume, List.take_append_drop]

/-- The kernel posts a completion of an entry that it works on. -/
theorem posts_posted {n : ℕ} {f : Flight} (hf : s.flying[n]? = some f) (cqe : Cqe)
    (htag : cqe.user_data = f.sqe.user_data) (into : List Memory.Region) (data : List UInt8) :
    Posts s (s.posted n f cqe into data) ⟨f.pos, f.sqe, cqe, data⟩ := by
  obtain ⟨hn, rfl⟩ := List.getElem?_eq_some_iff.mp hf
  refine ⟨?_, ?_, rfl, rfl, htag⟩
  · unfold pending posted
    cases cqe.more with
    | true =>
      simp only [if_true, List.map_set]
      have hset : (s.flying.map fun f => (f.pos, f.sqe)).set n (s.flying[n].pos, s.flying[n].sqe) =
          s.flying.map fun f => (f.pos, f.sqe) := by
        rw [← List.getElem_map (fun f : Flight => (f.pos, f.sqe)) (h := by simpa using hn)]
        exact List.set_getElem_self _
      rw [hset]
    | false =>
      simp only [Bool.false_eq_true, if_false]
      have hperm := (List.getElem_cons_eraseIdx_perm hn).symm.map fun f : Flight => (f.pos, f.sqe)
      rw [List.map_cons] at hperm
      exact (hperm.append_left _).trans List.perm_middle
  · exact List.mem_append_right _ (List.mem_map.mpr ⟨_, List.getElem_mem hn, rfl⟩)

/-! ## The queues -/

/-- What holds of the two queues. -/
structure Ordered (s : System) : Prop where
  /-- An entry is named by its position until it has ended. -/
  nodup : (s.pending.map Prod.fst ++ s.ends.map Completion.pos).Nodup
  /-- An outstanding entry was added. -/
  bound : ∀ pos e, s.Outstanding pos e → pos < s.tail
  /-- Only completions with `IORING_CQE_F_MORE` are followed by others of their entry. -/
  after_end : s.cq.Pairwise fun c c' => c.pos = c'.pos → c.cqe.more = true
  /-- A completion has the tag of its entry. -/
  tag : ∀ c ∈ s.cq, c.cqe.user_data = c.sqe.user_data

/-- An outstanding entry was so before, or it was added. -/
theorem Submits.outstanding (h : Submits s s' added) {pos : ℕ} {e : Sqe}
    (ho : s'.Outstanding pos e) : s.Outstanding pos e ∨ (pos, e) ∈ added := by
  rcases ho with hp | ⟨c, hc, hpos⟩
  · rcases List.mem_append.mp (h.pending.mem_iff.mp hp) with hold | hnew
    · exact .inl (.inl hold)
    · exact .inr hnew
  · exact .inl (.inr ⟨c, h.cq.subset hc, hpos⟩)

/-- An added entry is at a position that was not used yet. -/
theorem Submits.pos_of_added (h : Submits s s' added) {pos : ℕ} {e : Sqe}
    (hadded : (pos, e) ∈ added) : s.tail ≤ pos ∧ pos < s'.tail := by
  have hmem := List.mem_map_of_mem (f := Prod.fst) hadded
  rw [h.positions, List.mem_range'_1] at hmem
  rw [h.tail]
  exact hmem

/-- At the position of the first added entry there is no other. -/
theorem Submits.eq_of_first {link : List (ℕ × Sqe)} {e e' : Sqe}
    (h : Submits s s' ((s.tail, e) :: link)) (hbound : ∀ pos e, s.Outstanding pos e → pos < s.tail)
    (hout : s'.Outstanding s.tail e') : e' = e := by
  rcases h.outstanding hout with hold | hadded
  · exact absurd (hbound _ _ hold) (lt_irrefl _)
  · rcases List.mem_cons.mp hadded with heq | hlink
    · exact (Prod.mk.inj heq).2
    · have hpos := h.positions
      rw [List.map_cons, List.length_cons, List.range'_succ, List.cons.injEq] at hpos
      have hmem := List.mem_map_of_mem (f := Prod.fst) hlink
      rw [hpos.2, List.mem_range'_1] at hmem
      have hge : s.tail + 1 ≤ s.tail := hmem.1
      omega

/-- What the kernel posts for was outstanding. -/
theorem Posts.outstanding (h : Posts s s' c) {pos : ℕ} {e : Sqe}
    (ho : s'.Outstanding pos e) : s.Outstanding pos e := by
  rcases ho with hp | ⟨d, hd, hpos, hsqe⟩
  · refine .inl (h.pending.mem_iff.mpr ?_)
    split
    · exact hp
    · exact List.mem_cons_of_mem _ hp
  · rw [h.cq, List.mem_append, List.mem_singleton] at hd
    rcases hd with hd | rfl
    · exact .inr ⟨d, hd, hpos, hsqe⟩
    · exact .inl (hpos ▸ hsqe ▸ h.mem)

/-- What is submitted keeps the order. -/
theorem Ordered.submits (ho : Ordered s) (h : Submits s s' added) : Ordered s' where
  nodup := by
    have hends : (s'.ends.map Completion.pos).Sublist (s.ends.map Completion.pos) :=
      (h.cq.sublist.filter _).map _
    have hperm : (s'.pending.map Prod.fst ++ s'.ends.map Completion.pos).Perm
        ((s.pending.map Prod.fst ++ s'.ends.map Completion.pos) ++
          List.range' s.tail added.length) := by
      have hp := (h.pending.map Prod.fst).append_right (s'.ends.map Completion.pos)
      rw [List.map_append, h.positions] at hp
      refine hp.trans ?_
      rw [List.append_assoc, List.append_assoc]
      exact List.perm_append_comm.append_left _
    rw [hperm.nodup_iff, List.nodup_append]
    refine ⟨ho.nodup.sublist (hends.append_left _), List.nodup_range', fun a ha b hb => ?_⟩
    have hlt : a < s.tail := by
      rcases List.mem_append.mp ha with hp | he
      · obtain ⟨⟨pos, e⟩, hpe, rfl⟩ := List.mem_map.mp hp
        exact ho.bound pos e (.inl hpe)
      · obtain ⟨c, hc, rfl⟩ := List.mem_map.mp (hends.subset he)
        exact ho.bound c.pos c.sqe (.inr ⟨c, List.mem_of_mem_filter hc, rfl, rfl⟩)
    have hge := (List.mem_range'_1.mp hb).1
    omega
  bound pos e hout := by
    rcases h.outstanding hout with hold | hnew
    · have := ho.bound pos e hold
      have := h.tail
      omega
    · exact (h.pos_of_added hnew).2
  after_end := ho.after_end.sublist h.cq.sublist
  tag c hc := ho.tag c (h.cq.subset hc)

/-- An entry that has ended is not pending. -/
theorem Ordered.not_pending (ho : Ordered s) (hc : c ∈ s.cq) (hend : c.cqe.more = false) :
    c.pos ∉ s.pending.map Prod.fst := by
  intro hp
  have hmem : c.pos ∈ s.ends.map Completion.pos :=
    List.mem_map_of_mem (List.mem_filter.mpr ⟨hc, by simp [hend]⟩)
  exact (List.nodup_append.mp ho.nodup).2.2 _ hp _ hmem rfl

/-- What is posted keeps the order. -/
theorem Ordered.posts (ho : Ordered s) (h : Posts s s' c) : Ordered s' where
  nodup := by
    have hnodup := ho.nodup
    have hends : s'.ends = s.ends ++ if c.cqe.more then [] else [c] := by
      unfold ends
      rw [h.cq, List.filter_append]
      cases hmore : c.cqe.more <;> simp [hmore]
    have hperm := h.pending.map Prod.fst
    rw [hends]
    cases hmore : c.cqe.more with
    | true =>
      simp only [hmore, if_true] at hperm ⊢
      rw [List.append_nil]
      exact (hperm.append_right _).nodup_iff.mp hnodup
    | false =>
      simp only [hmore, Bool.false_eq_true, if_false, List.map_cons] at hperm ⊢
      refine ((hperm.append_right _).trans ?_).nodup_iff.mp hnodup
      rw [List.map_append, List.map_singleton, ← List.append_assoc, List.cons_append]
      exact (List.perm_append_singleton _ _).symm
  bound pos e hout := by
    rw [h.tail]
    exact ho.bound pos e (h.outstanding hout)
  after_end := by
    rw [h.cq, List.pairwise_append]
    refine ⟨ho.after_end, List.pairwise_singleton _ _, fun d hd e he hpos => ?_⟩
    rw [List.mem_singleton.mp he] at hpos
    by_contra hend
    refine ho.not_pending hd (by simpa using hend) ?_
    rw [hpos]
    exact List.mem_map_of_mem h.mem
  tag d hd := by
    rw [h.cq, List.mem_append, List.mem_singleton] at hd
    rcases hd with hd | rfl
    · exact ho.tag d hd
    · exact h.tag

/-- Nothing of an entry is outstanding behind the completion that ends it. -/
theorem Ordered.ended (ho : Ordered s) (h : Submits s s' added) (hcq : s.cq = c :: s'.cq)
    (hend : c.cqe.more = false) {e : Sqe} : ¬ s'.Outstanding c.pos e := by
  have hc : c ∈ s.cq := by
    rw [hcq]
    exact List.mem_cons_self
  rintro (hp | ⟨d, hd, hpos, -⟩)
  · rcases List.mem_append.mp (h.pending.mem_iff.mp hp) with hold | hnew
    · exact ho.not_pending hc hend (List.mem_map_of_mem hold)
    · have hlt := ho.bound c.pos c.sqe (.inr ⟨c, hc, rfl, rfl⟩)
      have hge := (h.pos_of_added hnew).1
      omega
  · have hafter := ho.after_end
    rw [hcq, List.pairwise_cons] at hafter
    rw [hafter.1 d hd hpos.symm] at hend
    cases hend

/-- A step that adds entries ends none but the one whose completion it takes. -/
theorem Submits.stays (h : Submits s s' added) {pos : ℕ} {e : Sqe} (ho : s.Outstanding pos e)
    (hcq : ∀ c ∈ s.cq, c.pos = pos → c.sqe = e → c ∈ s'.cq) : s'.Outstanding pos e := by
  rcases ho with hp | ⟨c, hc, hpos, hsqe⟩
  · exact .inl (h.pending.mem_iff.mpr (List.mem_append_left _ hp))
  · exact .inr ⟨c, hcq c hc hpos hsqe, hpos, hsqe⟩

/-- The kernel ends none: their completions are in the queue. -/
theorem Posts.stays (h : Posts s s' c) {pos : ℕ} {e : Sqe} (ho : s.Outstanding pos e) :
    s'.Outstanding pos e := by
  rcases ho with hp | ⟨d, hd, hpos⟩
  · have hmem := h.pending.mem_iff.mp hp
    split at hmem
    · exact .inl hmem
    · rcases List.mem_cons.mp hmem with heq | hmem
      · refine .inr ⟨c, ?_, (Prod.mk.inj heq).1.symm, (Prod.mk.inj heq).2.symm⟩
        rw [h.cq]
        exact List.mem_append_right _ (List.mem_singleton.mpr rfl)
      · exact .inl hmem
  · refine .inr ⟨d, ?_, hpos⟩
    rw [h.cq]
    exact List.mem_append_left _ hd

/-! ## The steps -/

/-- A call that returned. -/
theorem call_step {ctx : ExecutionContext} {op : Op} {env : CallEnv}
    (h : step s (.call ctx op env) = some s') :
    op.onExisting s.loop = true ∧
      ∃ c, s.loop.call ctx op env = .ok c ∧ s' = s.called ctx op env c := by
  simp only [step] at h
  split at h
  · next hexists =>
    obtain ⟨c, hc, hs'⟩ := toOption_map_eq_some.mp h
    exact ⟨hexists, c, hc, hs'.symm⟩
  · cases h

/-- A completion that was handled. -/
theorem read_step {env : ReadEnv} (h : step s (.read env) = some s') :
    ∃ c cq r, s.cq = c :: cq ∧ readCqe s.loop env c.cqe = .ok r ∧
      s' = { s with cq := cq }.handled c r := by
  simp only [step] at h
  split at h
  · cases h
  · next c cq hcq =>
    obtain ⟨r, hr, hs'⟩ := toOption_map_eq_some.mp h
    exact ⟨c, cq, r, hcq, hr, hs'.symm⟩

/-- A completion that the kernel posted. -/
theorem post_step {n : ℕ} {res : ℤ} {flags : ℕ} {into : List Memory.Region} {data : List UInt8}
    (h : step s (.post n res flags into data) = some s') :
    ∃ f, s.flying[n]? = some f ∧ f.mayPost ⟨f.sqe.user_data, res, flags⟩ = true ∧
      s.ready f.sqe = true ∧ f.sqe.mayDeliver res into data ∧
      s' = s.posted n f ⟨f.sqe.user_data, res, flags⟩ into data := by
  simp only [step] at h
  split at h
  · cases h
  · next f hf =>
    split at h
    · next hok =>
      cases h
      exact ⟨f, hf, hok.1, hok.2.1, hok.2.2, rfl⟩
    · cases h

/-- What the reader does to the queue. -/
theorem read_adds {L : Loop} {env : ReadEnv} {cqe : Cqe} {r : Read} (h : L.Sound)
    (hread : readCqe L env cqe = .ok r) : ∃ added, Adds L.ring r.consumed r.loop.ring added := by
  rcases h.read_cases hread with ⟨-, rfl⟩ | ⟨slot, k, -, -, -, hleft | hfin⟩
  · exact ⟨[], adds_nothing _⟩
  · exact ⟨[], by rw [hleft.consumed, hleft.ring]; exact adds_nothing _⟩
  · rcases hfin.ring with ⟨hc, hr⟩ | ⟨-, -, added, hadds⟩
    · exact ⟨[], by rw [hc, hr]; exact adds_nothing _⟩
    · exact ⟨added, hadds⟩

/-- What a call does to the queue. -/
theorem call_adds {L : Loop} {ctx : ExecutionContext} {op : Op} {env : CallEnv} {c : Called}
    (h : L.Sound) (hcall : L.call ctx op env = .ok c) :
    ∃ added, Adds L.ring c.consumed c.loop.ring added := by
  rcases call_cases h.contexts h.consistent hcall with hrej | ⟨req, idx, e, hacc⟩
  · exact hrej.ring
  · obtain ⟨link, hadds⟩ := hacc.ring
    exact ⟨_, hadds⟩

/-- A call submits the entries that it adds. -/
theorem submits_called {ctx : ExecutionContext} {op : Op} {env : CallEnv} {c : Called}
    (hadds : Adds s.loop.ring c.consumed c.loop.ring added) :
    Submits s (s.called ctx op env c) added := by
  unfold called
  split
  · exact submits_of_adds rfl hadds (List.suffix_refl _)
  · exact submits_of_adds rfl hadds (List.suffix_refl _)

/-- A reading submits the entries that it adds. -/
theorem submits_handled {cq : List Completion} {r : Read} (hcq : s.cq = c :: cq)
    (hadds : Adds s.loop.ring r.consumed r.loop.ring added) :
    Submits s ({ s with cq := cq }.handled c r) added :=
  submits_of_adds rfl hadds ⟨[c], hcq.symm⟩

/-- A step other than a completion of the kernel adds entries and takes completions. -/
theorem submits_step (hs : s.loop.Sound) (h : step s l = some s')
    (hl : ∀ n res flags into data, l ≠ .post n res flags into data) :
    ∃ added, Submits s s' added := by
  cases l with
  | call ctx op env =>
    obtain ⟨-, c, hcall, rfl⟩ := call_step h
    obtain ⟨added, hadds⟩ := call_adds hs hcall
    exact ⟨added, submits_called hadds⟩
  | initProvidedMode addr len nr bgid r =>
    cases h
    exact submits_submitted (P := fun _ => True) (submitOp_submits _ _ _ _ _ fun _ _ => trivial)
  | closeProvidedMode nr bgid r =>
    cases h
    exact submits_submitted (P := fun _ => True) (submitOp_submits _ _ _ _ _ fun _ _ => trivial)
  | post n res flags into data => exact absurd rfl (hl n res flags into data)
  | read env =>
    obtain ⟨c, cq, r, hcq, hread, rfl⟩ := read_step h
    obtain ⟨added, hadds⟩ := read_adds hs hread
    exact ⟨added, submits_handled hcq hadds⟩
  | submit r =>
    cases h
    exact ⟨[], submits_submit s r⟩
  | returned | writeToSelf | signal =>
    cases h
    exact ⟨[], submits_nothing rfl rfl rfl⟩
  | cancel f =>
    simp only [step] at h
    split at h
    · cases h
      exact ⟨[], submits_nothing rfl rfl rfl⟩
    · cases h

/-- A label is that of a completion of the kernel, or not. -/
theorem post_or_not (l : Label) : (∀ n res flags into data, l ≠ .post n res flags into data) ∨
    ∃ n res flags into data, l = .post n res flags into data := by
  cases l with
  | post n res flags into data => exact .inr ⟨n, res, flags, into, data, rfl⟩
  | _ => exact .inl (by simp)

/-- **The two kinds of steps.** -/
theorem step_cases (hs : s.loop.Sound) (h : step s l = some s') :
    (∃ added, Submits s s' added) ∨ ∃ c, Posts s s' c := by
  rcases post_or_not l with hl | ⟨n, res, flags, into, data, rfl⟩
  · exact .inl (submits_step hs h hl)
  · obtain ⟨f, hf, -, -, -, rfl⟩ := post_step h
    exact .inr ⟨_, posts_posted hf _ rfl into data⟩

/-- The loop's invariant and the order of the queues. -/
structure Tracked (s : System) : Prop extends Ordered s where
  /-- The loop is sound. -/
  sound : s.loop.Sound
  /-- An entry and a call that belong together were made. -/
  owned : ∀ pos k, s.owner pos = some k → pos < s.tail ∧ k < s.loop.calls

/-- Steps keep the invariant of the loop. -/
theorem sound_step (hs : s.loop.Sound) (h : step s l = some s') : s'.loop.Sound := by
  cases l with
  | call ctx op env =>
    obtain ⟨-, c, hcall, rfl⟩ := call_step h
    have hsound := hs.call hcall
    unfold called
    split <;> exact hsound
  | initProvidedMode | closeProvidedMode | submit | returned =>
    cases h
    exact hs.congr rfl rfl rfl rfl
  | post n res flags into data =>
    obtain ⟨f, hf, -, -, -, rfl⟩ := post_step h
    exact hs.congr rfl rfl rfl rfl
  | read env =>
    obtain ⟨c, cq, r, hcq, hread, rfl⟩ := read_step h
    exact hs.read hread
  | writeToSelf | signal =>
    cases h
    exact hs
  | cancel f =>
    simp only [step] at h
    split at h
    · cases h
      exact hs.congr rfl rfl rfl rfl
    · cases h

/-- What a call does, for the system. -/
theorem called_cases {ctx : ExecutionContext} {op : Op} {env : CallEnv} {c : Called}
    (hs : s.loop.Sound) (hcall : s.loop.call ctx op env = .ok c) :
    (Rejected s.loop c ∧ (s.called ctx op env c).owner = s.owner ∧
      (s.called ctx op env c).registered = s.registered) ∨
    ∃ req idx e, Accepted s.loop ctx op env c req idx e ∧
      (s.called ctx op env c).owner = Function.update s.owner s.tail (some s.loop.calls) ∧
      (s.called ctx op env c).registered = Function.update s.registered s.loop.calls
        (some ⟨ctx, op, env, req.slot idx⟩) := by
  rcases call_cases hs.contexts hs.consistent hcall with hrej | ⟨req, idx, e, hacc⟩
  · left
    unfold called
    rw [hrej.future]
    exact ⟨hrej, rfl, rfl⟩
  · right
    refine ⟨req, idx, e, hacc, ?_⟩
    have hslot : c.registered ctx op env = some ⟨ctx, op, env, req.slot idx⟩ := by
      unfold Called.registered
      rw [hacc.request_idx, hacc.slot]
      rfl
    unfold called
    rw [hacc.future, hslot]
    exact ⟨rfl, rfl⟩

/-- What was registered for a call stays so. -/
theorem registered_step (hs : s.loop.Sound) (hstep : step s l = some s') :
    ∀ k < s.loop.calls, s'.registered k = s.registered k := by
  intro k hk
  cases l with
  | call ctx op env =>
    obtain ⟨-, c, hcall, rfl⟩ := call_step hstep
    rcases called_cases hs hcall with ⟨-, -, hreg⟩ | ⟨req, idx, e, -, -, hreg⟩
    · rw [hreg]
    · rw [hreg, Function.update_of_ne hk.ne]
  | read renv =>
    obtain ⟨c, cq, r, -, -, rfl⟩ := read_step hstep
    rfl
  | initProvidedMode | closeProvidedMode | submit | returned | writeToSelf | signal =>
    cases hstep
    rfl
  | post n res flags into data =>
    obtain ⟨f, -, -, -, -, rfl⟩ := post_step hstep
    rfl
  | cancel f =>
    simp only [System.step] at hstep
    split at hstep
    · cases hstep
      rfl
    · cases hstep

/-- The loop after a call is the call's. -/
@[simp] theorem called_loop (s : System) (ctx : ExecutionContext) (op : Op) (env : CallEnv)
    (c : Called) : (s.called ctx op env c).loop = c.loop := by
  unfold called
  split <;> rfl

/-- The tail after a call is the ring's. -/
@[simp] theorem called_tail (s : System) (ctx : ExecutionContext) (op : Op) (env : CallEnv)
    (c : Called) : (s.called ctx op env c).tail = c.loop.ring.tail := by
  rw [tail, called_loop]

/-- A call posts nothing. -/
@[simp] theorem called_cq (s : System) (ctx : ExecutionContext) (op : Op) (env : CallEnv)
    (c : Called) : (s.called ctx op env c).cq = s.cq := by
  unfold called
  split <;> rfl

/-- A call delivers nothing. -/
@[simp] theorem called_deliveries (s : System) (ctx : ExecutionContext) (op : Op) (env : CallEnv)
    (c : Called) : (s.called ctx op env c).deliveries = s.deliveries := by
  unfold called
  split <;> rfl

/-- The owners after a completion was handled. -/
theorem owner_handled {r : Read} {pos k : ℕ} (h : (s.handled c r).owner pos = some k) :
    s.owner pos = some k ∨
      (pos = s.tail ∧ r.loop.ring.tail ≠ s.loop.ring.tail ∧ s.futureOf c = some k) := by
  unfold handled at h
  simp only [take] at h
  split at h
  · exact .inl h
  · next hnew =>
    by_cases hat : pos = s.loop.ring.tail
    · subst hat
      rw [Function.update_self] at h
      exact .inr ⟨rfl, fun heq => hnew (.inl heq), h⟩
    · rw [Function.update_of_ne hat] at h
      exact .inl h

/-- The owner of an entry is fixed when the entry is added. -/
theorem owner_of_lt (h : step s l = some s') (hs : s.loop.Sound) {pos : ℕ} (hpos : pos < s.tail) :
    s'.owner pos = s.owner pos := by
  cases l with
  | call ctx op env =>
    obtain ⟨-, c, hcall, rfl⟩ := call_step h
    rcases called_cases hs hcall with ⟨-, howner, -⟩ | ⟨req, idx, e, -, howner, -⟩
    · rw [howner]
    · rw [howner, Function.update_of_ne hpos.ne]
  | initProvidedMode | closeProvidedMode | submit | returned | writeToSelf | signal =>
    cases h
    rfl
  | post n res flags into data =>
    obtain ⟨f, -, -, -, -, rfl⟩ := post_step h
    rfl
  | read env =>
    obtain ⟨c, cq, r, -, -, rfl⟩ := read_step h
    unfold handled
    simp only [take]
    split
    · rfl
    · exact Function.update_of_ne hpos.ne _ _
  | cancel f =>
    simp only [step] at h
    split at h
    · cases h
      rfl
    · cases h

/-- A step other than a completion of the kernel changes what belongs to one call at most. -/
theorem frame_step (hs : s.loop.Sound) (h : step s l = some s')
    (hl : ∀ n res flags into data, l ≠ .post n res flags into data) :
    ∃ j, Loop.Frame j s.loop s'.loop := by
  have hring : ∀ ring j, Loop.Frame j s.loop { s.loop with ring := ring } := fun ring _ =>
    (Loop.keeps_with s.loop ring s.loop.registry s.loop.refs).frame
  cases l with
  | call ctx op env =>
    obtain ⟨-, c, hcall, rfl⟩ := call_step h
    rw [called_loop]
    rcases called_cases hs hcall with ⟨hrej, -⟩ | ⟨req, idx, e, hacc, -⟩
    · exact ⟨_, hrej.frame⟩
    · exact ⟨_, hacc.frame⟩
  | initProvidedMode | closeProvidedMode | submit =>
    cases h
    exact ⟨0, hring _ 0⟩
  | returned =>
    cases h
    exact ⟨0, { hring s.loop.ring 0 with }⟩
  | writeToSelf | signal =>
    cases h
    exact ⟨0, hring s.loop.ring 0⟩
  | post n res flags into data => exact absurd rfl (hl n res flags into data)
  | read env =>
    obtain ⟨c, cq, r, -, hread, rfl⟩ := read_step h
    rcases hs.read_cases hread with ⟨-, rfl⟩ | ⟨slot, k, -, -, -, hleft | hfin⟩
    · exact ⟨0, hring s.loop.ring 0⟩
    · exact ⟨k, hleft.frame⟩
    · exact ⟨k, hfin.frame⟩
  | cancel f =>
    simp only [step] at h
    split at h
    · cases h
      exact ⟨f, { hring s.loop.ring f with
        futures := fun j hj => Function.update_of_ne hj _ _ }⟩
    · cases h

/-- Calls are only added. -/
theorem calls_le (h : step s l = some s') (hs : s.loop.Sound) : s.loop.calls ≤ s'.loop.calls := by
  rcases post_or_not l with hl | ⟨n, res, flags, into, data, rfl⟩
  · obtain ⟨j, hframe⟩ := frame_step hs h hl
    exact hframe.calls
  · obtain ⟨f, -, -, -, -, rfl⟩ := post_step h
    exact le_rfl

/-- The owner of a new entry is the call that was made, or the one whose receiver is submitted
again. -/
theorem owner_of_ge (ht : Tracked s) (h : step s l = some s') {pos k : ℕ} (hpos : s.tail ≤ pos)
    (howner : s'.owner pos = some k) : pos = s.tail ∧ pos < s'.tail ∧ k < s'.loop.calls := by
  have hnone : s.owner pos = none := by
    cases hown : s.owner pos with
    | none => rfl
    | some j => exact absurd (ht.owned pos j hown).1 (by omega)
  have hsame : s'.owner ≠ s.owner := fun heq => by
    rw [heq, hnone] at howner
    cases howner
  have hle := calls_le h ht.sound
  cases l with
  | call ctx op env =>
    obtain ⟨-, c, hcall, rfl⟩ := call_step h
    rcases called_cases ht.sound hcall with ⟨-, heq, -⟩ | ⟨req, idx, e, hacc, heq, -⟩
    · exact absurd heq hsame
    · rw [heq] at howner
      obtain ⟨link, hadds⟩ := hacc.ring
      have htail := hadds.tail
      have hat : pos = s.tail := by
        by_contra hne
        rw [Function.update_of_ne hne, hnone] at howner
        cases howner
      subst hat
      rw [Function.update_self] at howner
      cases howner
      refine ⟨rfl, ?_, ?_⟩
      · rw [called_tail, htail]
        exact Nat.lt_add_of_pos_right (Nat.succ_pos _)
      · rw [called_loop, hacc.calls]
        exact Nat.lt_succ_self _
  | initProvidedMode | closeProvidedMode | submit | returned | writeToSelf | signal =>
    cases h
    exact absurd rfl hsame
  | post n res flags into data =>
    obtain ⟨f, -, -, -, -, rfl⟩ := post_step h
    exact absurd rfl hsame
  | read env =>
    obtain ⟨c, cq, r, hcq, hread, rfl⟩ := read_step h
    obtain ⟨added, hadds⟩ := read_adds ht.sound hread
    rcases owner_handled howner with hold | ⟨rfl, hne, hfut⟩
    · rw [show s.owner pos = some k from hold] at hnone
      cases hnone
    · obtain ⟨slot, hget, hslot⟩ := Option.bind_eq_some_iff.mp hfut
      have hlt := (ht.sound.slots _ slot k hget hslot).1
      have htail : r.loop.ring.tail = s.loop.ring.tail + added.length := hadds.tail
      refine ⟨rfl, ?_, lt_of_lt_of_le hlt hle⟩
      change s.loop.ring.tail < r.loop.ring.tail
      have hne' : r.loop.ring.tail ≠ s.loop.ring.tail := hne
      omega
  | cancel f =>
    simp only [step] at h
    split at h
    · cases h
      exact absurd rfl hsame
    · cases h

/-- **Steps keep the invariant.** -/
theorem Tracked.step (ht : Tracked s) (h : step s l = some s') : Tracked s' := by
  have hcases := step_cases ht.sound h
  have hordered : Ordered s' := by
    rcases hcases with ⟨added, hsub⟩ | ⟨c, hpost⟩
    · exact ht.toOrdered.submits hsub
    · exact ht.toOrdered.posts hpost
  have htail : s.tail ≤ s'.tail := by
    rcases hcases with ⟨added, hsub⟩ | ⟨c, hpost⟩
    · rw [hsub.tail]
      exact Nat.le_add_right _ _
    · rw [hpost.tail]
  refine { hordered with sound := sound_step ht.sound h, owned := fun pos k howner => ?_ }
  rcases lt_or_ge pos s.tail with hlt | hge
  · rw [owner_of_lt h ht.sound hlt] at howner
    obtain ⟨-, hk⟩ := ht.owned pos k howner
    exact ⟨lt_of_lt_of_le hlt htail, lt_of_lt_of_le hk (calls_le h ht.sound)⟩
  · exact (owner_of_ge ht h hge howner).2

/-- The completions that a step takes: the reader takes the oldest one. -/
theorem cq_step (h : step s l = some s') :
    s.cq <+: s'.cq ∨ ∃ renv c, l = .read renv ∧ s.cq = c :: s'.cq := by
  cases l with
  | call ctx op env =>
    obtain ⟨-, c, -, rfl⟩ := call_step h
    rw [called_cq]
    exact .inl (List.prefix_refl _)
  | read renv =>
    obtain ⟨c, cq, r, hcq, -, rfl⟩ := read_step h
    exact .inr ⟨renv, c, rfl, hcq⟩
  | initProvidedMode | closeProvidedMode | submit | returned | writeToSelf | signal =>
    cases h
    exact .inl (List.prefix_refl _)
  | post n res flags into data =>
    obtain ⟨f, -, -, -, -, rfl⟩ := post_step h
    exact .inl (List.prefix_append _ _)
  | cancel f =>
    simp only [step] at h
    split at h
    · cases h
      exact .inl (List.prefix_refl _)
    · cases h

/-- An entry stays outstanding if no completion of it is read. -/
theorem outstanding_step (hs : s.loop.Sound) (h : step s l = some s') {pos : ℕ} {e : Sqe}
    (hout : s.Outstanding pos e)
    (hunread : ∀ renv, l = .read renv → ∀ c ∈ s.cq.head?, ¬ (c.pos = pos ∧ c.sqe = e)) :
    s'.Outstanding pos e := by
  rcases step_cases hs h with ⟨added, hsub⟩ | ⟨c, hpost⟩
  · refine hsub.stays hout fun c hc hpos hsqe => ?_
    rcases cq_step h with hprefix | ⟨renv, d, hl, hcq⟩
    · exact hprefix.subset hc
    · rw [hcq] at hc
      refine (List.mem_cons.mp hc).resolve_left ?_
      rintro rfl
      exact hunread renv hl c (by rw [hcq]; rfl) ⟨hpos, hsqe⟩
  · exact hpost.stays hout

/-- An entry that had an owner before a step was outstanding then. -/
theorem outstanding_of_step (ht : Tracked s) (h : step s l = some s') {pos k : ℕ} {e : Sqe}
    (howner : s.owner pos = some k) (hout : s'.Outstanding pos e) : s.Outstanding pos e := by
  rcases step_cases ht.sound h with ⟨added, hsub⟩ | ⟨c, hpost⟩
  · refine (hsub.outstanding hout).resolve_right fun hadded => ?_
    have hlt := (ht.owned pos k howner).1
    have hge := (hsub.pos_of_added hadded).1
    omega
  · exact hpost.outstanding hout

/-- A new loop is tracked. -/
theorem tracked_init {registry_size : ℕ} {h : registry_size < 2^31} {world : World}
    {env : InitEnv} (hworld : world.ContextsSound) :
    Tracked (System.init registry_size h world env) := by
  obtain ⟨added, hadds, -⟩ := Loop.init_adds registry_size h world env
  have hpending : (System.init registry_size h world env).pending.Perm added := by
    refine List.perm_append_comm.trans ?_
    have hwindow := hadds.window
    rw [show ringInit.window = [] from rfl, List.nil_append] at hwindow
    have htaken : ((Loop.init registry_size h world env).2.map Flight.ofEntry).map
        (fun f => (f.pos, f.sqe)) = (Loop.init registry_size h world env).2 := by
      rw [List.map_map]
      exact List.map_id _
    change (((Loop.init registry_size h world env).2.map Flight.ofEntry).map
      (fun f => (f.pos, f.sqe)) ++ (Loop.init registry_size h world env).1.ring.window).Perm added
    rw [htaken, hwindow]
  have hpos : added.map Prod.fst = List.range' 0 added.length := hadds.positions
  exact
    { nodup := by
        change (List.map Prod.fst (System.init registry_size h world env).pending ++ []).Nodup
        rw [List.append_nil, (hpending.map Prod.fst).nodup_iff, hpos]
        exact List.nodup_range'
      bound := by
        rintro pos e (hp | ⟨c, hc, -⟩)
        · have hmem := List.mem_map_of_mem (f := Prod.fst) (hpending.mem_iff.mp hp)
          rw [hpos, List.mem_range'_1] at hmem
          have htail := hadds.tail
          rw [show ringInit.tail = 0 from rfl] at htail
          change pos < (Loop.init registry_size h world env).1.ring.tail
          rw [htail]
          exact hmem.2
        · cases hc
      after_end := List.Pairwise.nil
      tag := fun c hc => by cases hc
      sound := Loop.sound_init hworld
      owned := fun pos k h => by cases h }

/-- **Every reachable state is tracked.** -/
theorem tracked_of_run {ok : System → Label → Prop} (ht : Tracked s)
    (hrun : Transition.Run step ok s s') : Tracked s' :=
  hrun.invariant ht fun _ _ _ ht _ hstep => ht.step hstep

end System

end Uringio
