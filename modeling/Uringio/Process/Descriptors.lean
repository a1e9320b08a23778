import Uringio.Process.Life

/-!
# The descriptors of the loops

A loop closes descriptors by the numbers in its fields, and these are what the last initialization
that got a queue left there (`Describes`). So a number is closed once, and what is closed is the
object's own (`Accounts.step`): the ring if the shutdown gets as far as `io_uring_queue_exit`, and
the eventfd. What stays open is what no field points to: the pipes of the signal handler, and the
ring and the eventfd of an initialization that another one replaced (`descriptors_of_run`).

Before an initialization has got a queue the number is `0`, which is nobody's eventfd: a wakeup goes
there (`wakeup_of_run`).
-/

namespace Uringio

namespace Process

open Transition (Run exec)

variable {s s' : Process} {o c n : ℕ} {l : UringioLoop} {fd : ℤ} {w : Opening} {d : Descriptor}

/-- A descriptor is open on `d`. -/
def Open (s : Process) (d : Descriptor) : Prop := ∃ fd, s.fds fd = some d

/-- What is to be open of the initialization number `n`, which did what `e` says: the pipe always;
the eventfd until the shutdown of the object, and for good if another initialization replaced it;
the ring the same, and for good also if the shutdown does not tear it down. -/
def Stays (s : Process) (n : ℕ) (e : Started) : Opening → Prop
  | .ring => e.granted = true ∧ ¬ (s.current e.loop = some n ∧ s.ends e.loop = some true)
  | .pipeRead | .pipeWrite => e.piped = true
  | .eventfd => e.eventfd = true ∧ ¬ (s.current e.loop = some n ∧ (s.ends e.loop).isSome = true)

/-- What the fields of an object say about its history. -/
inductive Describes (s : Process) (o : ℕ) (l : UringioLoop) : Prop
  /-- No initialization got a queue. -/
  | fresh (current : s.current o = none) (ends : s.ends o = none) (ring : l.ring = some .blank)
      (wakeup_fd : l.wakeup_fd = 0) (loop_tid : l.loop_tid = 0)
  /-- The fields are those of the initialization number `n`; a later one may have left the block of
  the ring blank. -/
  | running (n : ℕ) (e : Started) (ring_fd : ℤ) (current : s.current o = some n)
      (ends : s.ends o = none) (started : s.started[n]? = some e)
      (ring : l.ring = some (if s.spoiled o then .blank else .queue ring_fd))
      (opened : s.fds ring_fd = some (.opened .ring n))
      (wakeup : if e.eventfd = true then
          0 ≤ l.wakeup_fd ∧ s.fds l.wakeup_fd = some (.opened .eventfd n)
        else l.wakeup_fd < 0)
  /-- The object was shut down. -/
  | ended (n : ℕ) (torn : Bool) (current : s.current o = some n) (ends : s.ends o = some torn)
      (ring : l.ring = none) (wakeup_fd : l.wakeup_fd < 0)

/-- The invariant. -/
structure Accounts (s : Process) : Prop where
  /-- What is open was opened by an initialization. -/
  inRange : ∀ fd w n, s.fds fd = some (.opened w n) → n < s.started.length
  /-- What is open is open at one number. -/
  single : ∀ fd fd' w n, s.fds fd = some (.opened w n) → s.fds fd' = some (.opened w n) → fd = fd'
  /-- An initialization was of an object that exists. -/
  created : ∀ (n : ℕ) (e : Started), s.started[n]? = some e → e.loop < s.loops.length
  /-- The current initialization was of the object. -/
  current : ∀ o n, s.current o = some n → ∃ e : Started, s.started[n]? = some e ∧ e.loop = o
  /-- What was shut down is an object. -/
  ended : ∀ o torn, s.ends o = some torn → o < s.loops.length
  /-- Each object is described by its history. -/
  objects : ∀ o l, s.object o = some l → s.Describes o l
  /-- An object that was deallocated was shut down. -/
  gone : ∀ o, o < s.loops.length → s.object o = none → (s.ends o).isSome
  /-- What an initialization opened is open exactly as long as it stays. -/
  ledger : ∀ (n : ℕ) (e : Started) w, s.started[n]? = some e →
    (s.Open (.opened w n) ↔ s.Stays n e w)

/-! ## The objects -/

/-- An object is the loop of its number. -/
theorem object_iff : s.object o = some l ↔ s.loops[o]? = some (some l) := Option.join_eq_some_iff

/-- Only a loop that was made has a number. -/
theorem object_lt (h : s.object o = some l) : o < s.loops.length :=
  (List.getElem?_eq_some_iff.mp (object_iff.mp h)).1

/-- The objects are those of the list. -/
theorem object_congr (h : s'.loops = s.loops) (o : ℕ) : s'.object o = s.object o := by
  rw [object, h, object]

/-- The object that was set is read back. -/
theorem object_set_self {x : Option UringioLoop} (h : s'.loops = s.loops.set o x)
    (ho : o < s.loops.length) : s'.object o = x := by
  rw [object, h, List.getElem?_set_self ho]
  rfl

/-- Setting an object leaves the others. -/
theorem object_set_ne {x : Option UringioLoop} {o' : ℕ} (h : s'.loops = s.loops.set o x)
    (hne : o' ≠ o) : s'.object o' = s.object o' := by
  rw [object, h, List.getElem?_set_ne hne.symm, object]

/-- An object of before, and the new one. -/
theorem object_append {x : UringioLoop} (h : s'.loops = s.loops ++ [some x])
    (hobj : s'.object o = some l) :
    s.object o = some l ∨ o = s.loops.length ∧ l = x := by
  rw [object_iff, h] at hobj
  rcases Nat.lt_or_ge o s.loops.length with hlt | hge
  · rw [List.getElem?_append_left hlt] at hobj
    exact .inl (object_iff.mpr hobj)
  · obtain ⟨hlen, hget⟩ := List.getElem?_eq_some_iff.mp hobj
    rw [List.length_append, List.length_singleton] at hlen
    have ho : o = s.loops.length := by omega
    subst ho
    rw [List.getElem_concat_length rfl, Option.some.injEq] at hget
    exact .inr ⟨rfl, hget.symm⟩

/-! ## Steps that leave what the loops opened -/

/-- What a loop's fields say depends on what is open of its initializations, and on the history. -/
theorem Describes.congr (h : s.Describes o l) (hcurrent : s'.current o = s.current o)
    (hspoiled : s'.spoiled o = s.spoiled o) (hends : s'.ends o = s.ends o)
    (hstarted : ∀ (n : ℕ) e, s.started[n]? = some e → s'.started[n]? = some e)
    (hfds : ∀ fd w n, s.current o = some n → s.ends o = none →
      s.fds fd = some (.opened w n) → s'.fds fd = some (.opened w n)) : s'.Describes o l := by
  cases h with
  | fresh current ends ring wakeup_fd loop_tid =>
    exact .fresh (hcurrent.trans current) (hends.trans ends) ring wakeup_fd loop_tid
  | running n e ring_fd current ends started ring opened wakeup =>
    refine .running n e ring_fd (hcurrent.trans current) (hends.trans ends) (hstarted n e started)
      (by rw [hspoiled]; exact ring) (hfds _ _ _ current ends opened) ?_
    split at wakeup
    · next he =>
      rw [if_pos he]
      exact ⟨wakeup.1, hfds _ _ _ current ends wakeup.2⟩
    · next he =>
      rw [if_neg he]
      exact wakeup
  | ended n torn current ends ring wakeup_fd =>
    exact .ended n torn (hcurrent.trans current) (hends.trans ends) ring wakeup_fd

/-- The reference to the variable is not a field that says anything about descriptors. -/
theorem Describes.clear (h : s.Describes o l) (held : Bool) :
    s.Describes o { l with execution_context_var := held } := by
  cases h with
  | fresh current ends ring wakeup_fd loop_tid => exact .fresh current ends ring wakeup_fd loop_tid
  | running n e ring_fd current ends started ring opened wakeup =>
    exact .running n e ring_fd current ends started ring opened wakeup
  | ended n torn current ends ring wakeup_fd => exact .ended n torn current ends ring wakeup_fd

/-- Nothing is opened or closed for a loop, and the history is the same. -/
structure Aside (s s' : Process) : Prop where
  /-- What the initializations opened is open where it was. -/
  fds : ∀ fd w n, s'.fds fd = some (.opened w n) ↔ s.fds fd = some (.opened w n)
  /-- The initializations are the same. -/
  started : s'.started = s.started
  /-- The current initializations are the same. -/
  current : s'.current = s.current
  /-- The rings that were spoiled are the same. -/
  spoiled : s'.spoiled = s.spoiled
  /-- The objects that were shut down are the same. -/
  ends : s'.ends = s.ends

/-- A step aside describes the same object. -/
theorem Aside.describes (h : Aside s s') (hl : s.Describes o l) : s'.Describes o l :=
  hl.congr (congrFun h.current o) (congrFun h.spoiled o) (congrFun h.ends o)
    (fun n e => by rw [h.started]; exact id)
    fun fd w n _ _ => (h.fds fd w n).mpr

/-- The invariant after such a step, given what is known of the objects. -/
theorem Accounts.aside (h : Accounts s) (ha : Aside s s')
    (hlength : s.loops.length ≤ s'.loops.length)
    (hobjects : ∀ o l, s'.object o = some l → s'.Describes o l)
    (hgone : ∀ o, o < s'.loops.length → s'.object o = none → (s.ends o).isSome) :
    Accounts s' where
  inRange fd w n hfd := by
    rw [ha.started]
    exact h.inRange fd w n ((ha.fds fd w n).mp hfd)
  single fd fd' w n hfd hfd' := h.single fd fd' w n ((ha.fds ..).mp hfd) ((ha.fds ..).mp hfd')
  created n e he := by
    rw [ha.started] at he
    exact Nat.lt_of_lt_of_le (h.created n e he) hlength
  current o n hn := by
    rw [ha.current] at hn
    rw [ha.started]
    exact h.current o n hn
  ended o torn ho := by
    rw [ha.ends] at ho
    exact Nat.lt_of_lt_of_le (h.ended o torn ho) hlength
  objects := hobjects
  gone o ho hnone := by
    rw [ha.ends]
    exact hgone o ho hnone
  ledger n e w he := by
    rw [ha.started] at he
    have hopen : s'.Open (.opened w n) ↔ s.Open (.opened w n) :=
      exists_congr fun fd => ha.fds fd w n
    rw [hopen, h.ledger n e w he]
    cases w <;> simp only [Stays, ha.current, ha.ends]

/-- The objects are the same. -/
theorem Accounts.of_same (h : Accounts s) (ha : Aside s s') (hloops : s'.loops = s.loops) :
    Accounts s' := by
  refine h.aside ha (by rw [hloops]) (fun o l hl => ?_) fun o ho hnone => ?_
  · rw [object_congr hloops] at hl
    exact ha.describes (h.objects o l hl)
  · rw [object_congr hloops] at hnone
    rw [hloops] at ho
    exact h.gone o ho hnone

/-- One object has changed. -/
theorem Accounts.of_set (h : Accounts s) (ha : Aside s s') {x : Option UringioLoop}
    (ho : o < s.loops.length) (hloops : s'.loops = s.loops.set o x)
    (hx : ∀ l ∈ x, s'.Describes o l) (hgone : x = none → (s.ends o).isSome) : Accounts s' := by
  have hlength : s'.loops.length = s.loops.length := by rw [hloops, List.length_set]
  refine h.aside ha (Nat.le_of_eq hlength.symm) (fun o' l hl => ?_) fun o' ho' hnone => ?_
  · rcases eq_or_ne o' o with rfl | hne
    · rw [object_set_self hloops ho] at hl
      exact hx l hl
    · rw [object_set_ne hloops hne] at hl
      exact ha.describes (h.objects o' l hl)
  · rcases eq_or_ne o' o with rfl | hne
    · rw [object_set_self hloops ho] at hnone
      exact hgone hnone
    · rw [object_set_ne hloops hne] at hnone
      exact h.gone o' (hlength ▸ ho') hnone

/-! ## An initialization -/

/-- The descriptors that an initialization opens, one for each thing. -/
theorem mem_opens {env : StartEnv} : (fd, w) ∈ env.opens ↔ env.granted = true ∧
    match w with
    | .ring => fd = env.ring_fd
    | .pipeRead => env.piped = true ∧ fd = env.pipe_fd
    | .pipeWrite => env.piped = true ∧ fd = env.pipe_write
    | .eventfd => 0 ≤ env.wakeup_fd ∧ fd = env.wakeup_fd := by
  unfold StartEnv.opens StartEnv.granted
  by_cases hbase : env.base = true
  · by_cases hring : env.ring_fd < 0
    · simp [hbase, hring]
    · by_cases hwakeup : env.wakeup_fd < 0 <;> cases hpiped : env.piped <;> cases w <;>
        simp [hbase, hring, hwakeup] <;> omega
  · simp [hbase]

/-- What is open after some descriptors were opened that were not. -/
theorem openAll_eq_some {fds : ℤ → Option Descriptor} {opens : List (ℤ × Opening)}
    (hnodup : (opens.map Prod.fst).Nodup) (hfree : ∀ p ∈ opens, fds p.1 = none) :
    openAll fds n opens fd = some d ↔
      (∃ w, (fd, w) ∈ opens ∧ d = .opened w n) ∨ fds fd = some d := by
  induction opens generalizing fds with
  | nil => simp [openAll]
  | cons p opens ih =>
    rw [List.map_cons, List.nodup_cons] at hnodup
    have hne : ∀ q ∈ opens, q.1 ≠ p.1 := fun q hq heq =>
      hnodup.1 (heq ▸ List.mem_map_of_mem hq)
    have hrest : ∀ q ∈ opens, Function.update fds p.1 (some (.opened p.2 n)) q.1 = none :=
      fun q hq => by
        rw [Function.update_of_ne (hne q hq)]
        exact hfree q (List.mem_cons_of_mem _ hq)
    rw [show openAll fds n (p :: opens) = openAll (Function.update fds p.1 _) n opens from rfl,
      ih hnodup.2 hrest]
    have hp := hfree p List.mem_cons_self
    rcases eq_or_ne fd p.1 with rfl | hfd
    · -- The descriptor that was opened first is not opened again.
      have hnot : ∀ w, (p.1, w) ∉ opens := fun w hw => hne _ hw rfl
      simp only [Function.update_self, hp, hnot, false_and, exists_false, false_or,
        Option.some.injEq, List.mem_cons, reduceCtorEq, or_false]
      constructor
      · intro h
        exact ⟨p.2, rfl, h.symm⟩
      · rintro ⟨w, hw, hd⟩
        rw [hd, ← hw]
    · have hmem : ∀ w, (fd, w) ∈ p :: opens ↔ (fd, w) ∈ opens := fun w => by
        rw [List.mem_cons, or_iff_right fun heq => hfd (congrArg Prod.fst heq)]
      simp only [Function.update_of_ne hfd, hmem]

/-- An object that has a ring was not shut down. -/
theorem Describes.not_ended (h : s.Describes o l) (hring : l.ring.isSome) : s.ends o = none := by
  cases h with
  | fresh _ ends => exact ends
  | running _ _ _ _ ends => exact ends
  | ended _ _ _ _ ring =>
    rw [ring] at hring
    cases hring

/-- An initialization of the history is one of before, or the new one. -/
theorem started_cases {e f : Started} (h : (s.started ++ [e])[n]? = some f) :
    s.started[n]? = some f ∨ n = s.started.length ∧ f = e := by
  rcases Nat.lt_or_ge n s.started.length with hlt | hge
  · rw [List.getElem?_append_left hlt] at h
    exact .inl h
  · have hlen := (List.getElem?_eq_some_iff.mp h).1
    rw [List.length_append, List.length_singleton] at hlen
    have hn : n = s.started.length := by omega
    subst hn
    rw [List.getElem?_concat_length, Option.some.injEq] at h
    exact .inr ⟨rfl, h.symm⟩

/-- The history of before is kept. -/
theorem started_kept {e f : Started} (h : s.started[n]? = some f) :
    (s.started ++ [e])[n]? = some f := by
  rw [List.getElem?_append_left (List.getElem?_eq_some_iff.mp h).1, h]

/-- An initialization that gets no queue, given what is known of the objects. -/
theorem Accounts.refused (h : Accounts s) {e : Started} (ho : e.loop < s.loops.length)
    (hgranted : e.granted = false) (hpiped : e.piped = false) (heventfd : e.eventfd = false)
    (hfds : s'.fds = s.fds) (hstarted : s'.started = s.started ++ [e])
    (hcurrent : s'.current = s.current) (hends : s'.ends = s.ends)
    (hlength : s'.loops.length = s.loops.length)
    (hobjects : ∀ o l, s'.object o = some l → s'.Describes o l)
    (hgone : ∀ o, s'.object o = none → s.object o = none) : Accounts s' := by
  refine ⟨fun fd w n hfd => ?_, fun fd fd' w n => ?_, fun n f hf => ?_, fun o n hn => ?_,
    fun o torn ho' => ?_, hobjects, fun o ho' hk => ?_, fun n f w hf => ?_⟩
  · rw [hfds] at hfd
    have hlt := h.inRange fd w n hfd
    rw [hstarted, List.length_append, List.length_singleton]
    omega
  · rw [hfds]
    exact h.single fd fd' w n
  · rw [hlength]
    rw [hstarted] at hf
    rcases started_cases hf with hf | ⟨-, rfl⟩
    · exact h.created n f hf
    · exact ho
  · rw [hcurrent] at hn
    obtain ⟨f, hf, hloop⟩ := h.current o n hn
    rw [hstarted]
    exact ⟨f, started_kept hf, hloop⟩
  · rw [hlength]
    rw [hends] at ho'
    exact h.ended o torn ho'
  · rw [hends]
    exact h.gone o (hlength ▸ ho') (hgone o hk)
  · have hopen : s'.Open (.opened w n) ↔ s.Open (.opened w n) :=
      exists_congr fun fd => by rw [hfds]
    rw [hopen]
    rw [hstarted] at hf
    rcases started_cases hf with hf | ⟨rfl, rfl⟩
    · rw [h.ledger n f w hf]
      cases w <;> simp only [Stays, hcurrent, hends]
    · -- The new initialization has opened nothing.
      refine iff_of_false (fun ⟨fd, hfd⟩ => ?_) ?_
      · exact absurd (h.inRange fd w _ hfd) (Nat.lt_irrefl _)
      · cases w <;> simp [Stays, hgranted, hpiped, heventfd]

/-- The block of the ring is blank behind an initialization that failed. -/
theorem Describes.spoil (h : s.Describes o l) (hring : l.ring.isSome)
    (hcurrent : s'.current o = s.current o) (hends : s'.ends o = s.ends o)
    (hspoiled : s'.spoiled o = true)
    (hstarted : ∀ (n : ℕ) e, s.started[n]? = some e → s'.started[n]? = some e)
    (hfds : s'.fds = s.fds) : s'.Describes o { l with ring := some .blank } := by
  cases h with
  | fresh current ends ring wakeup_fd loop_tid =>
    exact .fresh (hcurrent.trans current) (hends.trans ends) rfl wakeup_fd loop_tid
  | running n e ring_fd current ends started ring opened wakeup =>
    refine .running n e ring_fd (hcurrent.trans current) (hends.trans ends) (hstarted n e started)
      (by rw [hspoiled]; rfl) (by rw [hfds]; exact opened) ?_
    rw [hfds]
    exact wakeup
  | ended n torn current ends ring wakeup_fd =>
    rw [ring] at hring
    cases hring

/-- An initialization that gets a queue, of an object that has a ring. -/
theorem Accounts.granted (h : Accounts s) {env : StartEnv} {l' : UringioLoop}
    {e : Started} (hl : s.object o = some l) (hring : l.ring.isSome)
    (hgranted : env.granted = true) (hnodup : (env.opens.map Prod.fst).Nodup)
    (hfree : ∀ p ∈ env.opens, s.fds p.1 = none) (hinit : l'.ring = some (.queue env.ring_fd))
    (hwakeup : l'.wakeup_fd = env.wakeup_fd) (he : e = env.started o l s.var)
    (hfds : s'.fds = openAll s.fds s.started.length env.opens)
    (hloops : s'.loops = s.loops.set o (some l')) (hstarted : s'.started = s.started ++ [e])
    (hcurrent : s'.current = Function.update s.current o (some s.started.length))
    (hspoiled : s'.spoiled = Function.update s.spoiled o false)
    (hends : s'.ends = s.ends) : Accounts s' := by
  have hnone : s.ends o = none := (h.objects o l hl).not_ended hring
  have ho : o < s.loops.length := object_lt hl
  have hlength : s'.loops.length = s.loops.length := by rw [hloops, List.length_set]
  have hother : ∀ o', o' ≠ o → s'.current o' = s.current o' := fun o' hne => by
    rw [hcurrent, Function.update_of_ne hne]
  have hself : s'.current o = some s.started.length := by rw [hcurrent, Function.update_self]
  have hloop : e.loop = o := by rw [he]; rfl
  -- What is open now is what was open, and what this initialization opened.
  have hopened : ∀ fd w m, s'.fds fd = some (.opened w m) ↔
      (m = s.started.length ∧ (fd, w) ∈ env.opens) ∨ s.fds fd = some (.opened w m) := by
    intro fd w m
    rw [hfds, openAll_eq_some hnodup hfree]
    refine or_congr_left ⟨fun ⟨w', hw', heq⟩ => ?_, fun ⟨hm, hw⟩ => ⟨w, hw, by rw [hm]⟩⟩
    cases heq
    exact ⟨rfl, hw'⟩
  refine ⟨fun fd w n hfd => ?_, fun fd fd' w n hfd hfd' => ?_, fun n f hf => ?_, fun o' n hn => ?_,
    fun o' torn ho' => ?_, fun o' k hk => ?_, fun o' ho' hk => ?_, fun n f w hf => ?_⟩
  · rw [hstarted, List.length_append, List.length_singleton]
    rcases (hopened ..).mp hfd with ⟨rfl, -⟩ | hold
    · exact Nat.lt_succ_self _
    · exact Nat.lt_succ_of_lt (h.inRange _ _ _ hold)
  · rcases (hopened ..).mp hfd with ⟨rfl, hmem⟩ | hold
    · rcases (hopened ..).mp hfd' with ⟨-, hmem'⟩ | hold'
      · have hwhat := (mem_opens.mp hmem).2
        have hwhat' := (mem_opens.mp hmem').2
        cases w <;> simp_all
      · exact absurd (h.inRange _ _ _ hold') (Nat.lt_irrefl _)
    · rcases (hopened ..).mp hfd' with ⟨rfl, -⟩ | hold'
      · exact absurd (h.inRange _ _ _ hold) (Nat.lt_irrefl _)
      · exact h.single _ _ _ _ hold hold'
  · rw [hlength]
    rw [hstarted] at hf
    rcases started_cases hf with hf | ⟨-, rfl⟩
    · exact h.created n f hf
    · rw [hloop]
      exact ho
  · rw [hstarted]
    rcases eq_or_ne o' o with rfl | hne
    · rw [hself, Option.some.injEq] at hn
      exact ⟨e, by rw [← hn, List.getElem?_concat_length], hloop⟩
    · rw [hother o' hne] at hn
      obtain ⟨f, hf, hfo⟩ := h.current o' n hn
      exact ⟨f, started_kept hf, hfo⟩
  · rw [hlength]
    rw [hends] at ho'
    exact h.ended o' torn ho'
  · rcases eq_or_ne o' o with rfl | hne
    · rw [object_set_self hloops ho, Option.some.injEq] at hk
      rw [← hk]
      refine .running s.started.length e env.ring_fd hself (by rw [hends, hnone])
        (by rw [hstarted, List.getElem?_concat_length])
        (by rw [hspoiled, Function.update_self]; exact hinit)
        ((hopened ..).mpr (.inl ⟨rfl, mem_opens.mpr ⟨hgranted, rfl⟩⟩)) ?_
      have heventfd : e.eventfd = true ↔
          0 ≤ env.wakeup_fd := by simp [he, StartEnv.started, hgranted]
      rw [hwakeup]
      split
      · next hopen =>
        have hpos := heventfd.mp hopen
        exact ⟨hpos, (hopened ..).mpr (.inl ⟨rfl, mem_opens.mpr ⟨hgranted, hpos, rfl⟩⟩)⟩
      · next hopen => exact Int.not_le.mp fun hpos => hopen (heventfd.mpr hpos)
    · rw [object_set_ne hloops hne] at hk
      refine (h.objects o' k hk).congr (hother o' hne)
        (by rw [hspoiled, Function.update_of_ne hne]) (by rw [hends]) (fun n f hf => ?_)
        fun fd w n _ _ hfd => (hopened ..).mpr (.inr hfd)
      rw [hstarted]
      exact started_kept hf
  · rw [hends]
    rcases eq_or_ne o' o with rfl | hne
    · rw [object_set_self hloops ho] at hk
      cases hk
    · rw [object_set_ne hloops hne] at hk
      exact h.gone o' (hlength ▸ ho') hk
  · rw [hstarted] at hf
    rcases started_cases hf with hf | ⟨rfl, rfl⟩
    · have hlt := (List.getElem?_eq_some_iff.mp hf).1
      have hopen : s'.Open (.opened w n) ↔ s.Open (.opened w n) := exists_congr fun fd => by
        rw [hopened, or_iff_right fun hnew => by omega]
      rw [hopen, h.ledger n f w hf]
      rcases eq_or_ne f.loop o with hfo | hne
      · -- The object was not shut down, so all that it has opened is open.
        cases w <;> simp [Stays, hends, hfo, hnone]
      · cases w <;> simp [Stays, hends, hother _ hne]
    · have hopen : s'.Open (.opened w s.started.length) ↔ ∃ fd, (fd, w) ∈ env.opens :=
        exists_congr fun fd => by
          rw [hopened, and_iff_right rfl, or_iff_left fun hold => ?_]
          exact absurd (h.inRange _ _ _ hold) (Nat.lt_irrefl _)
      rw [hopen]
      cases w <;> simp [mem_opens, Stays, he, StartEnv.started, hgranted, hends, hnone]

/-! ## A shutdown -/

/-- **What a shutdown closes**: of the object's last initialization with a queue the eventfd, and
the ring if it is torn down. -/
theorem Accounts.closes (h : Accounts s) {ring_fd : ℤ} (torn : Bool) (hl : s.object o = some l)
    (hring : l.ring = some (.queue ring_fd)) :
    ∃ n e, s.current o = some n ∧ s.started[n]? = some e ∧ s.ends o = none ∧
      ∀ fd d, closedFds s.fds l ring_fd torn fd = some d ↔
        s.fds fd = some d ∧ ¬ (d = .opened .ring n ∧ torn = true) ∧ d ≠ .opened .eventfd n := by
  cases h.objects o l hl with
  | fresh _ _ ring =>
    rw [hring] at ring
    cases ring
  | ended _ _ _ _ ring =>
    rw [hring] at ring
    cases ring
  | running n e fd' current ends started ring opened wakeup =>
    have hfd : fd' = ring_fd := by
      rw [hring, Option.some.injEq] at ring
      split at ring
      · cases ring
      · exact (RingBlock.queue.inj ring).symm
    subst hfd
    obtain ⟨f, hf, hloop⟩ := h.current o n current
    rw [started, Option.some.injEq] at hf
    subst hf
    refine ⟨n, e, current, started, ends, fun fd d => ?_⟩
    unfold closedFds
    split
    · next hclosed =>
      refine iff_of_false (by simp) fun ⟨hfd, hnring, hneventfd⟩ => ?_
      rcases hclosed with ⟨htorn, rfl⟩ | ⟨hpos, rfl⟩
      · rw [opened, Option.some.injEq] at hfd
        exact hnring ⟨hfd.symm, htorn⟩
      · split at wakeup
        · rw [wakeup.2, Option.some.injEq] at hfd
          exact hneventfd hfd.symm
        · omega
    · next hkept =>
      rw [not_or] at hkept
      refine ⟨fun hfd => ⟨hfd, ?_, ?_⟩, fun hfd => hfd.1⟩
      · rintro ⟨rfl, htorn⟩
        exact hkept.1 ⟨htorn, h.single _ _ _ _ hfd opened⟩
      · -- An eventfd that is open is the one that the field names.
        rintro rfl
        have hstays := (h.ledger n e .eventfd started).mp ⟨fd, hfd⟩
        rw [if_pos hstays.1] at wakeup
        have heq := h.single _ _ _ _ hfd wakeup.2
        exact hkept.2 ⟨heq ▸ wakeup.1, heq⟩

/-- A shutdown of an object, which is left with no ring, or is gone. -/
theorem Accounts.shutDown (h : Accounts s) {ring_fd : ℤ} {torn : Bool} {x : Option UringioLoop}
    (hl : s.object o = some l) (hring : l.ring = some (.queue ring_fd))
    (hfds : s'.fds = closedFds s.fds l ring_fd torn) (hloops : s'.loops = s.loops.set o x)
    (hx : ∀ k ∈ x, k.ring = none ∧ k.wakeup_fd < 0) (hstarted : s'.started = s.started)
    (hcurrent : s'.current = s.current) (hspoiled : s'.spoiled = s.spoiled)
    (hends : s'.ends = Function.update s.ends o (some torn)) : Accounts s' := by
  obtain ⟨n, e, hn, he, hnone, hcloses⟩ := h.closes torn hl hring
  have ho : o < s.loops.length := object_lt hl
  have hlength : s'.loops.length = s.loops.length := by rw [hloops, List.length_set]
  have hother : ∀ o', o' ≠ o → s'.ends o' = s.ends o' := fun o' hne => by
    rw [hends, Function.update_of_ne hne]
  have hself : s'.ends o = some torn := by rw [hends, Function.update_self]
  have hclosed : ∀ fd d, s'.fds fd = some d ↔
      s.fds fd = some d ∧ ¬ (d = .opened .ring n ∧ torn = true) ∧ d ≠ .opened .eventfd n := by
    intro fd d
    rw [hfds]
    exact hcloses fd d
  -- An initialization of another object has another number.
  have hnumber : ∀ o' m, o' ≠ o → s.current o' = some m → m ≠ n := by
    rintro o' m hne hm rfl
    obtain ⟨f, hf, hfo⟩ := h.current o' m hm
    obtain ⟨g, hg, hgo⟩ := h.current o m hn
    rw [hf, Option.some.injEq] at hg
    exact hne (by rw [← hfo, hg, hgo])
  refine ⟨fun fd w n hfd => ?_, fun fd fd' w n hfd hfd' => ?_, fun n f hf => ?_, fun o' n hn => ?_,
    fun o' torn ho' => ?_, fun o' k hk => ?_, fun o' ho' hk => ?_, fun m f w hf => ?_⟩
  · rw [hstarted]
    exact h.inRange _ _ _ ((hclosed ..).mp hfd).1
  · exact h.single _ _ _ _ ((hclosed ..).mp hfd).1 ((hclosed ..).mp hfd').1
  · rw [hlength]
    rw [hstarted] at hf
    exact h.created n f hf
  · rw [hcurrent] at hn
    rw [hstarted]
    exact h.current o' n hn
  · rw [hlength]
    rcases eq_or_ne o' o with rfl | hne
    · exact ho
    · rw [hother o' hne] at ho'
      exact h.ended o' torn ho'
  · rcases eq_or_ne o' o with rfl | hne
    · rw [object_set_self hloops ho] at hk
      obtain ⟨hkring, hkwakeup⟩ := hx k hk
      exact .ended n torn (by rw [hcurrent, hn]) hself hkring hkwakeup
    · rw [object_set_ne hloops hne] at hk
      refine (h.objects o' k hk).congr (by rw [hcurrent]) (by rw [hspoiled]) (hother o' hne)
        (fun m f hf => by rw [hstarted, hf]) fun fd w m hm _ hfd => (hclosed ..).mpr ⟨hfd, ?_, ?_⟩
      · rintro ⟨heq, -⟩
        exact hnumber o' m hne hm (Descriptor.opened.inj heq).2
      · rintro heq
        exact hnumber o' m hne hm (Descriptor.opened.inj heq).2
  · rcases eq_or_ne o' o with rfl | hne
    · rw [hself]
      rfl
    · rw [object_set_ne hloops hne] at hk
      rw [hother o' hne]
      exact h.gone o' (hlength ▸ ho') hk
  · rw [hstarted] at hf
    have hopen : s'.Open (.opened w m) ↔ s.Open (.opened w m) ∧
        ¬ (m = n ∧ (w = .ring ∧ torn = true ∨ w = .eventfd)) := by
      constructor
      · rintro ⟨fd, hfd⟩
        obtain ⟨hold, hnring, hneventfd⟩ := (hclosed ..).mp hfd
        refine ⟨⟨fd, hold⟩, ?_⟩
        rintro ⟨rfl, ⟨rfl, htorn⟩ | rfl⟩
        · exact hnring ⟨rfl, htorn⟩
        · exact hneventfd rfl
      · rintro ⟨⟨fd, hfd⟩, hnot⟩
        refine ⟨fd, (hclosed ..).mpr ⟨hfd, ?_, ?_⟩⟩
        · rintro ⟨heq, htorn⟩
          cases heq
          exact hnot ⟨rfl, .inl ⟨rfl, htorn⟩⟩
        · rintro heq
          cases heq
          exact hnot ⟨rfl, .inr rfl⟩
    rw [hopen, h.ledger m f w hf]
    rcases eq_or_ne f.loop o with hfo | hne
    · have hcur : s'.current f.loop = some m ↔ m = n := by
        rw [hcurrent, hfo, hn, Option.some.injEq]
        exact eq_comm
      have hends' : s'.ends f.loop = some torn := by rw [hfo, hself]
      have hnone' : s.ends f.loop = none := by rw [hfo, hnone]
      cases w <;> simp [Stays, hcur, hends', hnone']
    · rw [and_iff_left]
      · cases w <;> simp only [Stays, hcurrent, hother _ hne]
      · rintro ⟨rfl, -⟩
        obtain ⟨g, hg, hgo⟩ := h.current o m hn
        rw [hf, Option.some.injEq] at hg
        exact hne (by rw [hg, hgo])

/-! ## Every step -/

/-- A label has a step when it performs without a fault. -/
theorem step_iff {lab : Label} : s.step lab = some s' ↔ s.perform lab = .ok s' := by
  unfold step
  cases s.perform lab <;> simp [Except.toOption]

/-- The steps of the managers change the variable and the tokens only. -/
theorem enterManager_aside {reads : Bool} {own : Except Fault Bool} {r : Reply}
    (h : s.enterManager c reads own = .ok (r, s')) :
    ∃ var tokens, s' = { s with var := var, tokens := tokens } := by
  rcases enter_cases h with rfl | ⟨v, -, rfl⟩
  · exact ⟨s'.var, s'.tokens, rfl⟩
  · exact ⟨_, _, rfl⟩

/-- Leaving a manager changes the variable and the tokens. -/
theorem exitManager_aside {i : ℕ} {token : ManagerToken} {own : Except Fault Unit} {r : Reply}
    (h : s.exitManager i token c own = .ok (r, s')) :
    ∃ var tokens, s' = { s with var := var, tokens := tokens } := by
  rcases exit_cases h with ⟨rfl, -⟩ | ⟨v, -, rfl⟩
  · exact ⟨s'.var, s'.tokens, rfl⟩
  · exact ⟨_, _, rfl⟩

/-- A descriptor of the rest of the process is opened or closed. -/
theorem aside_update (x : Option Descriptor) (hx : ∀ w n, x ≠ some (.opened w n))
    (hfd : ∀ w n, s.fds fd ≠ some (.opened w n)) :
    Aside s { s with fds := Function.update s.fds fd x } := by
  refine ⟨fun fd' w n => ?_, rfl, rfl, rfl, rfl⟩
  rcases eq_or_ne fd' fd with rfl | hne
  · simp [hx w n, hfd w n]
  · simp [Function.update_of_ne hne]

/-- **Step.** -/
theorem Accounts.step {lab : Label} (h : Accounts s) (hen : s.Enabled lab)
    (hstep : s.step lab = some s') : Accounts s' := by
  have hperform := step_iff.mp hstep
  cases lab with
  | new registry_size memory object =>
    cases hperform
    simp only [uringioLoopNew]
    split
    · exact h
    · -- The new object has no history.
      refine h.aside ⟨fun _ _ _ => Iff.rfl, rfl, rfl, rfl, rfl⟩ (by simp)
        (fun o l hl => ?_) fun o ho hnone => ?_
      · rcases object_append rfl hl with hl | ⟨rfl, rfl⟩
        · exact (h.objects o l hl).congr rfl rfl rfl (fun _ _ => id) fun _ _ _ _ _ => id
        · refine .fresh ?_ ?_ rfl rfl rfl
          · refine Option.eq_none_iff_forall_ne_some.mpr fun n hn => ?_
            obtain ⟨e, he, hloop⟩ := h.current _ n hn
            have := h.created n e he
            omega
          · refine Option.eq_none_iff_forall_ne_some.mpr fun torn ht => ?_
            exact absurd (h.ended _ torn ht) (Nat.lt_irrefl _)
      · have hlt : o < s.loops.length := by
          by_contra hge
          have ho' : o = s.loops.length := by
            simp only [List.length_append, List.length_singleton] at ho
            omega
          simp [Process.object, ho'] at hnone
        refine h.gone o hlt ?_
        simpa [Process.object, List.getElem?_append_left hlt] using hnone
  | init o c env =>
    obtain ⟨hobj, hnodup, hfree⟩ := hen
    obtain ⟨l, hl⟩ := Option.isSome_iff_exists.mp hobj
    simp only [perform, hl] at hperform
    obtain ⟨⟨r, t⟩, hinit, rfl⟩ := map_eq_ok hperform
    have hrefused : env.granted = false → (env.started o l s.var).granted = false ∧
        (env.started o l s.var).piped = false ∧ (env.started o l s.var).eventfd = false :=
      fun hgranted => by simp [StartEnv.started, hgranted]
    rcases init_cases hinit with ⟨hgranted, hspoils, -, rfl⟩ | ⟨hgranted, hspoils, hring, -, rfl⟩ |
      ⟨hgranted, hring, l', var, hdone, rfl⟩
    · obtain ⟨h₁, h₂, h₃⟩ := hrefused hgranted
      have hcurrent : (t.noteStart (env.started o l t.var)).current = t.current := by
        simp [noteStart, h₁]
      have hspoiled : (t.noteStart (env.started o l t.var)).spoiled = t.spoiled := by
        simp [noteStart, StartEnv.started, hgranted, hspoils]
      exact h.refused (object_lt hl) h₁ h₂ h₃ rfl rfl hcurrent rfl rfl
        (fun o' k hk => (h.objects o' k hk).congr (congrFun hcurrent o') (congrFun hspoiled o') rfl
          (fun n f => started_kept) fun _ _ _ _ _ => id) fun o' => id
    · obtain ⟨h₁, h₂, h₃⟩ := hrefused hgranted
      refine h.refused (object_lt hl) h₁ h₂ h₃ rfl rfl (by simp [noteStart, h₁]) rfl
        (List.length_set ..) (fun o' k hk => ?_) fun o' hk => ?_
      · rcases eq_or_ne o' o with rfl | hne
        · rw [object_set_self rfl (object_lt hl), Option.some.injEq] at hk
          rw [← hk]
          refine (h.objects o' l hl).spoil hring (by simp [noteStart, h₁]) rfl ?_
            (fun n f => started_kept) rfl
          simp [noteStart, StartEnv.started, hspoils]
        · rw [object_set_ne rfl hne] at hk
          refine (h.objects o' k hk).congr (by simp [noteStart, h₁]) ?_ rfl
            (fun n f => started_kept) fun _ _ _ _ _ => id
          simp [noteStart, StartEnv.started, hspoils, Function.update_of_ne hne]
      · rcases eq_or_ne o' o with rfl | hne
        · rw [object_set_self rfl (object_lt hl)] at hk
          cases hk
        · rwa [object_set_ne rfl hne] at hk
    · refine h.granted hl hring hgranted hnodup hfree hdone.ring hdone.wakeup_fd rfl rfl rfl rfl ?_
        ?_ rfl
      · simp [noteStart, StartEnv.started, hgranted]
      · have hspoils : env.spoils = false := by
          unfold StartEnv.granted at hgranted
          unfold StartEnv.spoils
          simp only [Bool.decide_and, Bool.decide_eq_true, Bool.and_eq_true,
            decide_eq_true_eq] at hgranted
          simp [Int.not_lt.mpr hgranted.2]
        simp [noteStart, StartEnv.started, hgranted, hspoils]
  | writeToSelf o ret again =>
    cases hperform
    exact h
  | runOnce o env =>
    obtain ⟨l, hl⟩ := Option.isSome_iff_exists.mp hen
    simp only [perform, hl] at hperform
    obtain ⟨-, -, rfl⟩ := map_eq_ok hperform
    exact h
  | close o c env =>
    obtain ⟨l, hl⟩ := Option.isSome_iff_exists.mp hen.1
    rcases close_cases hl hperform with rfl | ⟨ring_fd, var, -, hring, -, rfl⟩
    · exact h
    · refine h.shutDown hl hring rfl rfl (fun k hk => ?_) rfl rfl rfl rfl
      rw [Option.mem_some_iff.mp hk |>.symm]
      refine ⟨rfl, ?_⟩
      simp only
      split <;> omega
  | clear o =>
    obtain ⟨l, hl⟩ := Option.isSome_iff_exists.mp hen
    simp only [perform, hl, uringioLoopClear, clearVar_eq, setLoop, Except.ok.injEq] at hperform
    subst hperform
    refine h.of_set ⟨fun _ _ _ => Iff.rfl, rfl, rfl, rfl, rfl⟩ (object_lt hl) rfl (fun k hk => ?_)
      fun hnone => by cases hnone
    rw [Option.mem_some_iff.mp hk |>.symm]
    exact ((h.objects o l hl).clear false).congr rfl rfl rfl (fun _ _ => id) fun _ _ _ _ _ => id
  | dealloc o c env =>
    obtain ⟨l, hl⟩ := Option.isSome_iff_exists.mp hen
    rcases dealloc_cases hl hperform with ⟨hring, rfl⟩ | ⟨ring_fd, var, hring, -, rfl⟩
    · cases h.objects o l hl with
      | fresh _ _ ring =>
        rw [hring] at ring
        cases ring
      | running _ _ _ _ _ _ ring =>
        rw [hring] at ring
        cases ring
      | ended n torn _ ends _ wakeup_fd =>
        rw [if_neg (Int.not_le.mpr wakeup_fd)]
        exact h.of_set ⟨fun _ _ _ => Iff.rfl, rfl, rfl, rfl, rfl⟩ (object_lt hl) rfl
          (fun k hk => by cases hk) fun _ => by rw [ends]; rfl
    · exact h.shutDown hl hring rfl rfl (fun k hk => by cases hk) rfl rfl rfl rfl
  | getter c =>
    obtain ⟨-, -, rfl⟩ := map_eq_ok hperform
    exact h
  | enter c reads own =>
    obtain ⟨⟨r, t⟩, henter, rfl⟩ := map_eq_ok hperform
    obtain ⟨var, tokens, rfl⟩ := enterManager_aside henter
    exact h.of_same ⟨fun _ _ _ => Iff.rfl, rfl, rfl, rfl, rfl⟩ rfl
  | exit i c own =>
    simp only [perform] at hperform
    split at hperform
    · cases hperform
      exact h
    · obtain ⟨⟨r, t⟩, hexit, rfl⟩ := map_eq_ok hperform
      obtain ⟨var, tokens, rfl⟩ := exitManager_aside hexit
      exact h.of_same ⟨fun _ _ _ => Iff.rfl, rfl, rfl, rfl, rfl⟩ rfl
  | copyContext c c' =>
    cases hperform
    exact h.of_same ⟨fun _ _ _ => Iff.rfl, rfl, rfl, rfl, rfl⟩ rfl
  | dropContext c =>
    cases hperform
    exact h.of_same ⟨fun _ _ _ => Iff.rfl, rfl, rfl, rfl, rfl⟩ rfl
  | openOther fd =>
    cases hperform
    exact h.of_same (aside_update _ (by simp) (by simp [hen.2])) rfl
  | closeOther fd =>
    cases hperform
    have hother : s.fds fd = some .other := hen
    exact h.of_same (aside_update _ (by simp) (by simp [hother])) rfl

/-- At the start the descriptors are accounted for. -/
theorem accounts_start (fds : ℤ → Bool) : Accounts (start fds) where
  inRange fd w n hfd := by simp [start] at hfd
  single fd fd' w n hfd := by simp [start] at hfd
  created n e he := by simp [start] at he
  current o n hn := by simp [start] at hn
  ended o torn ho := by simp [start] at ho
  objects o l hl := by simp [start, object] at hl
  gone o ho := by simp [start] at ho
  ledger n e w he := by simp [start] at he

/-- **Run.** -/
theorem accounts_of_run {fds : ℤ → Bool} (hrun : Run step Enabled (start fds) s) : Accounts s :=
  hrun.invariant (accounts_start fds) fun _ _ _ h hen hstep => h.step hen hstep

/-! ## What is open, and where a wakeup goes -/

/-- No step of a loop closes a descriptor of the rest of the process. -/
theorem Accounts.spares {lab : Label} (h : Accounts s) (hen : s.Enabled lab)
    (hstep : s.step lab = some s') (hfd : s.fds fd = some .other) (hlab : lab ≠ .closeOther fd) :
    s'.fds fd = some .other := by
  have hperform := step_iff.mp hstep
  cases lab with
  | new registry_size memory object =>
    cases hperform
    simp only [uringioLoopNew]
    split <;> exact hfd
  | init o c env =>
    obtain ⟨hobj, hnodup, hfree⟩ := hen
    obtain ⟨l, hl⟩ := Option.isSome_iff_exists.mp hobj
    simp only [perform, hl] at hperform
    obtain ⟨⟨r, t⟩, hinit, rfl⟩ := map_eq_ok hperform
    rcases init_cases hinit with ⟨-, -, -, rfl⟩ | ⟨-, -, -, -, rfl⟩ | ⟨-, -, l', var, -, rfl⟩
    · exact hfd
    · exact hfd
    · exact (openAll_eq_some hnodup hfree).mpr (.inr hfd)
  | writeToSelf o ret again =>
    cases hperform
    exact hfd
  | runOnce o env =>
    obtain ⟨l, hl⟩ := Option.isSome_iff_exists.mp hen
    simp only [perform, hl] at hperform
    obtain ⟨-, -, rfl⟩ := map_eq_ok hperform
    exact hfd
  | close o c env =>
    obtain ⟨l, hl⟩ := Option.isSome_iff_exists.mp hen.1
    rcases close_cases hl hperform with rfl | ⟨ring_fd, var, -, hring, -, rfl⟩
    · exact hfd
    · obtain ⟨n, e, -, -, -, hcloses⟩ := h.closes env.shutdown.torn hl hring
      exact (hcloses fd .other).mpr ⟨hfd, by simp, by simp⟩
  | clear o =>
    obtain ⟨l, hl⟩ := Option.isSome_iff_exists.mp hen
    simp only [perform, hl, uringioLoopClear, clearVar_eq, setLoop, Except.ok.injEq] at hperform
    subst hperform
    exact hfd
  | dealloc o c env =>
    obtain ⟨l, hl⟩ := Option.isSome_iff_exists.mp hen
    rcases dealloc_cases hl hperform with ⟨hring, rfl⟩ | ⟨ring_fd, var, hring, -, rfl⟩
    · cases h.objects o l hl with
      | fresh _ _ ring =>
        rw [hring] at ring
        cases ring
      | running _ _ _ _ _ _ ring =>
        rw [hring] at ring
        cases ring
      | ended _ _ _ _ _ wakeup_fd =>
        rw [if_neg (Int.not_le.mpr wakeup_fd)]
        exact hfd
    · obtain ⟨n, e, -, -, -, hcloses⟩ := h.closes env.torn hl hring
      exact (hcloses fd .other).mpr ⟨hfd, by simp, by simp⟩
  | getter c =>
    obtain ⟨-, -, rfl⟩ := map_eq_ok hperform
    exact hfd
  | enter c reads own =>
    obtain ⟨⟨r, t⟩, henter, rfl⟩ := map_eq_ok hperform
    obtain ⟨var, tokens, rfl⟩ := enterManager_aside henter
    exact hfd
  | exit i c own =>
    simp only [perform] at hperform
    split at hperform
    · cases hperform
      exact hfd
    · obtain ⟨⟨r, t⟩, hexit, rfl⟩ := map_eq_ok hperform
      obtain ⟨var, tokens, rfl⟩ := exitManager_aside hexit
      exact hfd
  | copyContext c c' =>
    cases hperform
    exact hfd
  | dropContext c =>
    cases hperform
    exact hfd
  | openOther fd' =>
    cases hperform
    have hne : fd ≠ fd' := by
      rintro rfl
      rw [hen.2] at hfd
      cases hfd
    simpa [openFd, Function.update_of_ne hne] using hfd
  | closeOther fd' =>
    cases hperform
    have hne : fd ≠ fd' := fun heq => hlab (by rw [heq])
    simpa [closeFd, Function.update_of_ne hne] using hfd

/-- **The descriptors of the loops.** In every state that a process reaches, whatever is done to its
loops, exactly that is open of an initialization which `Stays` says, at one number each; and a
descriptor of the rest of the process is closed by nothing but the rest of the process. -/
theorem descriptors_of_run {fds : ℤ → Bool} (hrun : Run step Enabled (start fds) s) :
    (∀ n e w, s.started[n]? = some e → (s.Open (.opened w n) ↔ s.Stays n e w)) ∧
    (∀ fd fd' w n, s.fds fd = some (.opened w n) → s.fds fd' = some (.opened w n) → fd = fd') ∧
    ∀ lab s' fd, s.Enabled lab → s.step lab = some s' → s.fds fd = some .other →
      lab ≠ .closeOther fd → s'.fds fd = some .other := by
  have h := accounts_of_run hrun
  exact ⟨h.ledger, h.single, fun _ _ _ hen hstep hfd hlab => h.spares hen hstep hfd hlab⟩

/-- An initialization in which everything succeeds, with the descriptors `fd`, …, `fd + 3`. -/
def sampleStart (fd : ℤ) : StartEnv where
  toInitEnv := { Sample.initEnv with pipe_fd := fd + 1, wakeup_fd := fd + 3 }
  base := true
  ring_fd := fd
  touches := false
  piped := true
  pipe_write := fd + 2
  tid := 1
  var := ⟨true, true, true⟩

/-- A shutdown of a loop without requests. -/
def sampleShutdown : ShutdownEnv where
  loop := (Loop.init 2 CInt.two_lt Sample.world Sample.initEnv).1
  drained := []
  submitted := 1
  set := true

/-- A loop is initialized twice, and closed. -/
def twoStarts : Option Process :=
  exec step Enabled (start fun fd => fd < 3)
    [.new 0 true true, .init 0 0 (sampleStart 3), .init 0 0 (sampleStart 7),
      .close 0 0 ⟨1, true, sampleShutdown⟩]

/-- What the first initialization opened stays open. -/
theorem descriptors_twoStarts : twoStarts.isSome ∧ ∀ s ∈ twoStarts,
    s.Open (.opened .ring 0) ∧ s.Open (.opened .eventfd 0) ∧ s.Open (.opened .pipeRead 1) ∧
      ¬ s.Open (.opened .ring 1) ∧ ¬ s.Open (.opened .eventfd 1) := by
  refine ⟨by decide +kernel, fun s hs => ?_⟩
  obtain ⟨hledger, -, -⟩ := descriptors_of_run (.of_exec hs)
  have hhistory : (s.started, s.current 0, s.ends 0) =
      ([⟨0, true, true, true, false, false⟩, ⟨0, true, true, true, true, false⟩], some 1,
        some true) :=
    Transition.exec_eval (f := fun s => (s.started, s.current 0, s.ends 0)) hs (by decide +kernel)
  simp only [Prod.mk.injEq] at hhistory
  obtain ⟨hstarted, hcurrent, hends⟩ := hhistory
  have hfirst : s.started[0]? = some ⟨0, true, true, true, false, false⟩ := by rw [hstarted]; rfl
  have hsecond : s.started[1]? = some ⟨0, true, true, true, true, false⟩ := by rw [hstarted]; rfl
  simp [hledger 0 _ _ hfirst, hledger 1 _ _ hsecond, Stays, hcurrent, hends]

/-- What the eight bytes of a wakeup are for: the eventfd of the object's last initialization with a
queue, if it got one and the object was not shut down; and the descriptor `0` if no initialization
got a queue. -/
def wakeupTarget (s : Process) (o : ℕ) : Option Descriptor :=
  match s.current o with
  | none => s.fds 0
  | some n =>
    if (s.ends o).isNone ∧ (s.started[n]?).any Started.eventfd then some (.opened .eventfd n)
    else none

/-- **Where a wakeup goes**, in every state that a process reaches. -/
theorem wakeup_of_run {fds : ℤ → Bool} (hrun : Run step Enabled (start fds) s)
    (hl : s.object o = some l) (ret : ℤ) (again : Bool) :
    s.uringioLoopWriteToSelf l ret again = written (s.wakeupTarget o) ret again := by
  unfold uringioLoopWriteToSelf wakeupTarget
  cases (accounts_of_run hrun).objects o l hl with
  | fresh current _ _ wakeup_fd => simp [current, wakeup_fd]
  | running n e _ current ends started _ _ wakeup =>
    simp only [current, ends, started, Option.isNone_none, true_and, Option.any_some]
    split at wakeup
    · next he => rw [if_neg (Int.not_lt.mpr wakeup.1), wakeup.2, if_pos he]
    · next he => rw [if_pos wakeup, if_neg he, written]
  | ended n torn current ends _ wakeup_fd => simp [current, ends, wakeup_fd, written]

/-- Three loops: one that was created only, one that is initialized, and one that was closed again.
-/
def threeLoops : Option Process :=
  exec step Enabled (start fun fd => fd < 3)
    [.new 0 true true, .new 0 true true, .init 1 0 (sampleStart 3), .new 0 true true,
      .init 2 0 (sampleStart 7), .close 2 0 ⟨1, true, sampleShutdown⟩]

/-- The wakeups of the first go to what is open at the descriptor `0`, those of the second to its
eventfd, and those of the third nowhere. -/
theorem wakeup_neverStarted : threeLoops.isSome ∧ ∀ s ∈ threeLoops, ∃ created running closed,
    s.object 0 = some created ∧ s.object 1 = some running ∧ s.object 2 = some closed ∧
    s.uringioLoopWriteToSelf created 8 false = (.done, some .other) ∧
    s.uringioLoopWriteToSelf running 8 false = (.done, some (.opened .eventfd 0)) ∧
    s.uringioLoopWriteToSelf closed 8 false = (.raises, none) := by
  refine ⟨by decide +kernel, fun s hs => ?_⟩
  have hrun : Run step Enabled (start fun fd => fd < 3) s := .of_exec hs
  have hobjects : ((s.object 0).isSome, (s.object 1).isSome, (s.object 2).isSome) =
      (true, true, true) := Transition.exec_eval
    (f := fun s => ((s.object 0).isSome, (s.object 1).isSome, (s.object 2).isSome)) hs
    (by decide +kernel)
  have htargets : (s.wakeupTarget 0, s.wakeupTarget 1, s.wakeupTarget 2) =
      (some .other, some (.opened .eventfd 0), none) :=
    Transition.exec_eval (f := fun s => (s.wakeupTarget 0, s.wakeupTarget 1, s.wakeupTarget 2)) hs
      (by decide +kernel)
  simp only [Prod.mk.injEq] at hobjects htargets
  obtain ⟨hfirst, hsecond, hthird⟩ := htargets
  obtain ⟨created, hcreated⟩ := Option.isSome_iff_exists.mp hobjects.1
  obtain ⟨running, hrunning⟩ := Option.isSome_iff_exists.mp hobjects.2.1
  obtain ⟨closed, hclosed⟩ := Option.isSome_iff_exists.mp hobjects.2.2
  refine ⟨created, running, closed, hcreated, hrunning, hclosed, ?_, ?_, ?_⟩
  · rw [wakeup_of_run hrun hcreated 8 false, hfirst]
    rfl
  · rw [wakeup_of_run hrun hrunning 8 false, hsecond]
    rfl
  · rw [wakeup_of_run hrun hclosed 8 false, hthird]
    rfl

end Process

end Uringio
