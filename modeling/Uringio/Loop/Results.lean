import Uringio.Loop.Calls

/-!
# What a failed call reports

A dispatcher returns what the function of the ops layer returned, and the entry points turn that
number into an exception by a switch. A tagged operation returns `-1` without an entry, `0` when the
submission failed and `1` otherwise (`submitRequest_reports`), a timer the same, and only
`prep_socket` knows a further result, `-2` for arguments that it does not take. So a rejected call
has the index `-1` of a full registry or one of these results (`call_null`).
-/

namespace Uringio

/-- The results of a submission that the switches of the entry points know. -/
def Reports (result : ℤ) : Prop := result = -1 ∨ result = 0 ∨ result = 1

/-- The results of a call's dispatcher. -/
def Op.Reports (op : Op) (result : ℤ) : Prop :=
  Uringio.Reports result ∨ (result = -2 ∧ ∃ domain socktype tp, op = .socket domain socktype tp)

namespace Loop

variable {L M L' : Loop} {ctx : ExecutionContext} {op : Op} {env : CallEnv} {c : Called}
  {a : Attempt} {d : Dispatched} {p : PayloadRef} {tp : TimeoutParams} {fd request_idx r : ℤ}
  {is_poll_first : Bool}

/-- An entry that is filled and submitted. -/
theorem fillAndSubmit_reports {ring : Ring} {sqe : ℕ} {set : Sqe → Sqe} :
    Reports (fillAndSubmit ring sqe set 0 r).result := by
  simp only [fillAndSubmit]
  split
  · exact .inr (.inl rfl)
  · exact .inr (.inr rfl)

/-- A tagged operation. -/
theorem submitRequest_reports {ring : Ring} {call : PrepCall} {set : Sqe → Sqe} :
    Reports (submitRequest ring request_idx call set tp r).result := by
  unfold submitRequest submitOp
  cases sqeWithOptionalTimeout ring (some tp) with
  | error ring' => exact .inl rfl
  | ok entry => exact fillAndSubmit_reports

/-- A dispatcher that ends in a tagged operation. -/
theorem dispatched_reports {call : PrepCall} {set : Sqe → Sqe} :
    Reports (M.dispatched (submitRequest L.ring request_idx call set tp r)).submission.result :=
  submitRequest_reports

/-- The dispatcher of `read` reports as the builders do. -/
theorem readDispatcher_reports {stream : StreamStrategy} {size offset : ℤ}
    (h : M.readDispatcher fd p stream request_idx size offset tp r = .ok d) :
    Reports d.submission.result := by
  unfold readDispatcher at h
  simp only at h
  split at h
  · obtain ⟨⟨buf_idx, M'⟩, -, h⟩ := bind_eq_ok.mp h
    obtain ⟨linear, -, h⟩ := bind_eq_ok.mp h
    cases h
    exact dispatched_reports
  · split at h <;> cases h <;> exact dispatched_reports
  · split at h <;> cases h <;> exact dispatched_reports
  · obtain ⟨linear, -, h⟩ := bind_eq_ok.mp h
    cases h
    exact dispatched_reports

/-- The dispatcher of `readv` reports as the builders do. -/
theorem readvDispatcher_reports {offset : ℤ} {nowait : Bool}
    (h : M.readvDispatcher fd p request_idx offset nowait tp r = .ok d) :
    Reports d.submission.result := by
  unfold readvDispatcher at h
  simp only at h
  split at h <;>
  · obtain ⟨buffer, -, h⟩ := bind_eq_ok.mp h
    cases h
    exact dispatched_reports

/-- The dispatcher of `write` reports as the builders do. -/
theorem writeDispatcher_reports {offset : ℤ}
    (h : M.writeDispatcher fd p request_idx offset tp r = .ok d) :
    Reports d.submission.result := by
  unfold writeDispatcher at h
  obtain ⟨linear, -, h⟩ := bind_eq_ok.mp h
  split at h
  · obtain ⟨⟨buf_idx, M'⟩, -, h⟩ := bind_eq_ok.mp h
    cases h
    exact dispatched_reports
  all_goals
    cases h
    exact dispatched_reports

/-- The dispatcher of `recv` reports as the builders do. -/
theorem recvDispatcher_reports {stream : StreamStrategy}
    (h : M.recvDispatcher fd p stream request_idx is_poll_first tp r = .ok d) :
    Reports d.submission.result := by
  unfold recvDispatcher at h
  obtain ⟨linear, -, h⟩ := bind_eq_ok.mp h
  split at h
  · split at h <;> cases h <;> exact dispatched_reports
  · split at h <;> cases h <;> exact dispatched_reports
  all_goals
    cases h
    exact dispatched_reports

/-- The dispatcher of `recvmsg` reports as the builders do. -/
theorem recvmsgDispatcher_reports {stream : StreamStrategy} {msghdr : Option MsghdrRef}
    (h : M.recvmsgDispatcher fd p stream request_idx is_poll_first msghdr tp r = .ok d) :
    Reports d.submission.result := by
  unfold recvmsgDispatcher at h
  simp only at h
  split at h
  · split at h <;> cases h <;> exact dispatched_reports
  · split at h <;> cases h <;> exact dispatched_reports
  all_goals
    obtain ⟨vector, -, h⟩ := bind_eq_ok.mp h
    cases h
    exact dispatched_reports

/-- The dispatcher of `send` reports as the builders do. -/
theorem sendDispatcher_reports {transfer_mode : TransferMode}
    (h : M.sendDispatcher fd p transfer_mode request_idx is_poll_first tp r = .ok d) :
    Reports d.submission.result := by
  unfold sendDispatcher at h
  obtain ⟨linear, -, h⟩ := bind_eq_ok.mp h
  split at h
  · split at h
    · obtain ⟨⟨buf_idx, M'⟩, -, h⟩ := bind_eq_ok.mp h
      cases h
      exact dispatched_reports
    · cases h
      exact dispatched_reports
  · cases h
    exact dispatched_reports

/-- The dispatcher of `sendmsg` reports as the builders do. -/
theorem sendmsgDispatcher_reports {transfer_mode : TransferMode} {addr addrlen : ℕ}
    (h : M.sendmsgDispatcher fd p transfer_mode request_idx addr addrlen is_poll_first tp r =
      .ok d) :
    Reports d.submission.result := by
  unfold sendmsgDispatcher at h
  split at h
  · obtain ⟨⟨buf_idx, M'⟩, -, h⟩ := bind_eq_ok.mp h
    obtain ⟨vector, -, h⟩ := bind_eq_ok.mp h
    cases h
    exact dispatched_reports
  · obtain ⟨vector, -, h⟩ := bind_eq_ok.mp h
    cases h
    exact dispatched_reports

/-- A rejected attempt found no slot, or its dispatcher failed. -/
theorem attempt_reports {R : ℤ → Prop} {closed : Bool}
    (hd : ∀ M idx d, a.dispatch M idx = .ok d → R d.submission.result)
    (h : L.unlessClosed closed (L'.attempt a) = .ok c) (hnull : c.future = none) :
    c.request_idx < 0 ∨ (c.result < 1 ∧ R c.result) := by
  unfold unlessClosed at h
  split at h
  · cases h
    exact .inl (by decide : (-1 : ℤ) < 0)
  · unfold attempt at h
    simp only at h
    split at h
    · next hidx =>
      cases h
      exact .inl hidx
    · obtain ⟨d, hdispatch, h⟩ := bind_eq_ok.mp h
      split at h
      · next hlt =>
        obtain ⟨M, -, h⟩ := bind_eq_ok.mp h
        cases h
        exact .inr ⟨hlt, hd _ _ _ hdispatch⟩
      · cases h
        cases hnull

/-- `prep_socket`, which does not take every domain. -/
theorem prepSocket_reports {ring : Ring} {domain socktype : ℤ} :
    (Op.socket domain socktype tp).Reports
      (prepSocket ring request_idx domain socktype tp r).result := by
  unfold prepSocket
  cases sqeWithOptionalTimeout ring (some tp) with
  | error ring' => exact .inl (.inl rfl)
  | ok entry =>
    simp only
    split
    · exact .inr ⟨rfl, domain, socktype, tp, rfl⟩
    · exact .inl fillAndSubmit_reports

/-- `timer`. -/
theorem timer_reports {ring : Ring} {params : TimerParams} :
    Reports (timer ring request_idx (some params) r).result := by
  unfold timer
  simp only
  split
  · exact .inl rfl
  · exact fillAndSubmit_reports

/-- **What a rejected call reports**: a full registry, or a result that the switches know. -/
theorem call_null (h : L.call ctx op env = .ok c) (hnull : c.future = none) :
    c.request_idx < 0 ∨ (c.result < 1 ∧ op.Reports c.result) := by
  cases op with
  | «open» path dfd flags resolve mode tp =>
    change L.unlessClosed false (L.newFile.attempt _) = .ok c at h
    refine attempt_reports (fun M idx d h => ?_) h hnull
    cases h
    exact .inl dispatched_reports
  | socket domain socktype tp =>
    change L.unlessClosed false ((L.newSocket domain).attempt _) = .ok c at h
    refine attempt_reports (fun M idx d h => ?_) h hnull
    cases h
    exact prepSocket_reports
  | timer sec nsec count is_multishot =>
    change L.unlessClosed false (L.attempt _) = .ok c at h
    refine attempt_reports (fun M idx d h => ?_) h hnull
    cases h
    exact .inl timer_reports
  | aexitFile f | aexitSocket s =>
    change L.unlessClosed false (L.attempt _) = .ok c at h
    refine attempt_reports (fun M idx d h => ?_) h hnull
    cases h
    exact .inl dispatched_reports
  | fsync | fdatasync | splice | closeFile | bind | connect | listen | closeSocket =>
    refine attempt_reports (fun M idx d h => ?_) h hnull
    cases h
    exact .inl dispatched_reports
  | accept s tp =>
    refine attempt_reports (fun M idx d h => ?_) h hnull
    cases h
    unfold acceptDispatcher
    split <;> exact .inl dispatched_reports
  | read f offset size tp =>
    exact attempt_reports (fun M idx d h => .inl (readDispatcher_reports h)) h hnull
  | readv f buffers offset nowait tp =>
    exact attempt_reports (fun M idx d h => .inl (readvDispatcher_reports h)) h hnull
  | write f data offset tp =>
    exact attempt_reports (fun M idx d h => .inl (writeDispatcher_reports h)) h hnull
  | send s data is_poll_first tp =>
    exact attempt_reports (fun M idx d h => .inl (sendDispatcher_reports h)) h hnull
  | recv s bufsize buffer is_poll_first tp =>
    exact attempt_reports (fun M idx d h => .inl (recvDispatcher_reports h)) h hnull
  | sendmsg s buffers domain is_poll_first tp =>
    exact attempt_reports (fun M idx d h => .inl (sendmsgDispatcher_reports h)) h hnull
  | recvmsg s buffers is_poll_first tp =>
    exact attempt_reports (fun M idx d h => .inl (recvmsgDispatcher_reports h)) h hnull
  | readvRaw | writev | writevRaw | sendto | recvfrom =>
    refine attempt_reports (fun M idx d h => ?_) h hnull
    obtain ⟨buffer, -, h⟩ := bind_eq_ok.mp h
    cases h
    exact .inl dispatched_reports

end Loop

end Uringio
