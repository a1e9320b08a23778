import Uringio.Loop.Init

/-!
# The copy loop of the vectored reads

`case IORING_OP_READV` and the vectored branch of `case IORING_OP_RECVMSG` collect the bytes of the
iovecs into a new `bytes` object with the same loop: a running target, a signed counter of what
remains, the unsigned length of an iovec compared with it through a cast, and an exit when nothing
remains. `Loop.bytesOf` says what the reader's model takes the loop to compute; here is the loop
itself, on the uninitialised object that `PyBytes_FromStringAndSize(NULL, remaining)` returns, with
its accesses checked.

One round (`copyStep_eq`) moves the front of the iovec that the counter leaves room for. The loop
(`copyFrom_eq`) keeps the object split into the bytes copied so far and as many uninitialised ones
as remain; when the iovecs from here on hold enough, it ends with none of the latter. The whole loop
is the gather of `Lib/Memory.lean` (`copyVector_eq`), hence the front of the concatenation.
-/

namespace Uringio

open Memory

/-- What a `memcpy` of the copy loop can do wrong. -/
inductive CopyFault
  /-- The loop reads an iovec past the last. -/
  | pastVector
  /-- The source extends past the iovec. -/
  | pastIovec
  /-- The target extends past the `bytes` object. -/
  | pastResult
  deriving DecidableEq

/-- The locals of the copy loop. A byte of the new object is `none` until it is written. -/
structure Copying where
  /-- The bytes of the object. -/
  result : List (Option UInt8)
  /-- The offset of `dst` in the object. -/
  dst : ℕ
  /-- The bytes that are to be copied still. -/
  remaining : ℤ
  deriving DecidableEq

/-- The release of an index leaves the memory as it is. -/
theorem Loop.releaseFixed_mem {L released : Loop} {p : PayloadRef}
    (h : L.releaseFixed p = .ok released) : released.mem = L.mem := by
  unfold Loop.releaseFixed at h
  split_ifs at h
  · cases hreg : (L.payloads p).idx_registry with
    | none => simp [hreg] at h
    | some reg =>
      simp only [hreg, Except.ok.injEq] at h
      rw [← h]
      rfl
  · simp only [Except.ok.injEq] at h
    rw [h]

namespace VectoredBuffer

variable (mem : ℕ → UInt8) (v : VectoredBuffer)

/-- `memcpy(dst, iov->iov_base, chunk)`. -/
def memcpy (result : List (Option UInt8)) (dst : ℕ) (iov : Iovec) (chunk : ℕ) :
    Except CopyFault (List (Option UInt8)) :=
  if iov.iov_len < chunk then .error .pastIovec
  else if result.length < dst + chunk then .error .pastResult
  else .ok (result.take dst ++ (read mem iov.iov_base chunk).map some ++ result.drop (dst + chunk))

/-- The `chunk` of a round. -/
def chunk (iov : Iovec) (remaining : ℤ) : ℕ :=
  if CInt.toSsize iov.iov_len > remaining then CInt.toU64 remaining else iov.iov_len

/-- The body of the copy loop. -/
def copyStep (iov : Iovec) (c : Copying) : Except CopyFault Copying := do
  let chunk := chunk iov c.remaining
  let result ← memcpy mem c.result c.dst iov chunk
  .ok ⟨result, c.dst + chunk, c.remaining - CInt.toSsize chunk⟩

/-- The copy loop with `left` rounds before its bound: `i` is `nr_vecs - left`. -/
def copyFrom : ℕ → Copying → Except CopyFault Copying
  | 0, c => .ok c
  | left + 1, c =>
    if c.remaining > 0 then
      match v.iovecs[v.nr_vecs - (left + 1)]? with
      | none => .error .pastVector
      | some iov => copyStep mem iov c >>= copyFrom left
    else .ok c

/-- The `bytes` object of `remaining` bytes and the loop that fills it; `none` when there is no such
object, which has an exception set. -/
def copyVector (remaining : ℤ) : Except CopyFault (Option (List (Option UInt8))) :=
  if remaining < 0 then .ok none
  else (copyFrom mem v v.nr_vecs ⟨List.replicate remaining.toNat none, 0, remaining⟩).map
    (some ·.result)

/-- The contents of the iovecs, one after the other. -/
def contents (mem : ℕ → UInt8) (iovecs : List Iovec) : List UInt8 :=
  iovecs.flatMap fun iov => read mem iov.iov_base iov.iov_len

/-- An object of which the bytes `done` are written and `n` are not. -/
def Copying.after (done : List UInt8) (n : ℕ) : Copying :=
  ⟨done.map some ++ List.replicate n none, done.length, n⟩

variable {mem : ℕ → UInt8} {v : VectoredBuffer}

/-- A round takes what the iovec has, but no more than what remains. -/
theorem chunk_eq {iov : Iovec} (hlen : iov.iov_len ≤ 2^63 - 1) (n : ℕ) :
    chunk iov n = min iov.iov_len n := by
  unfold chunk
  rw [CInt.toSsize_natCast (by omega)]
  split_ifs with h
  · rw [CInt.toU64_natCast (by omega)]
    omega
  · omega

/-- A copy within the source and within the uninitialised part appends to the written part. -/
theorem memcpy_eq (done : List UInt8) (n : ℕ) {iov : Iovec} {k : ℕ} (hsrc : k ≤ iov.iov_len)
    (hdst : k ≤ n) :
    memcpy mem (done.map some ++ List.replicate n none) done.length iov k =
      .ok ((done ++ read mem iov.iov_base k).map some ++ List.replicate (n - k) none) := by
  have hfits : ¬ (done.map some ++ List.replicate n none).length < done.length + k := by
    simp only [List.length_append, List.length_map, List.length_replicate]
    omega
  have htake : (done.map some ++ List.replicate n none).take done.length = done.map some := by
    rw [List.take_append_of_le_length (by simp)]
    exact List.take_of_length_le (by simp)
  have hdrop : (done.map some ++ List.replicate n none).drop (done.length + k) =
      List.replicate (n - k) (none : Option UInt8) := by
    rw [List.drop_append, List.drop_of_length_le (by simp), List.length_map, List.drop_replicate]
    simp
  unfold memcpy
  rw [if_neg (by omega), if_neg hfits, htake, hdrop, List.map_append]

/-- One round of the loop. -/
theorem copyStep_eq (done : List UInt8) (n : ℕ) {iov : Iovec} (hlen : iov.iov_len ≤ 2^63 - 1) :
    copyStep mem iov (Copying.after done n) =
      .ok (Copying.after (done ++ read mem iov.iov_base (min iov.iov_len n))
        (n - iov.iov_len)) := by
  have hrest : n - min iov.iov_len n = n - iov.iov_len := by omega
  have hcount : (n : ℤ) - CInt.toSsize (min iov.iov_len n : ℕ) = (n - iov.iov_len : ℕ) := by
    rw [CInt.toSsize_natCast (by omega)]
    omega
  simp only [copyStep, Copying.after, chunk_eq hlen]
  rw [memcpy_eq done n (Nat.min_le_left ..) (Nat.min_le_right ..), hrest, hcount]
  simp only [List.length_append, length_read]
  rfl

/-- The loop, from any round and any part of the object that is written: it ends with every byte
written, if the iovecs from here on hold what remains. -/
theorem copyFrom_eq (hnr : v.nr_vecs = v.iovecs.length)
    (hlen : ∀ iov ∈ v.iovecs, iov.iov_len ≤ 2^63 - 1) {left : ℕ} (hleft : left ≤ v.nr_vecs)
    (done : List UInt8) {n : ℕ}
    (hn : n ≤ capacity ((v.iovecs.drop (v.nr_vecs - left)).map Iovec.region)) :
    copyFrom mem v left (Copying.after done n) =
      .ok (Copying.after
        (done ++ gather mem ((v.iovecs.drop (v.nr_vecs - left)).map Iovec.region) n) 0) := by
  induction left generalizing done n with
  | zero =>
    -- Nothing is left, so nothing remains.
    have hnil : v.iovecs.drop (v.nr_vecs - 0) = [] := List.drop_eq_nil_of_le (by omega)
    rw [hnil] at hn ⊢
    have hzero : n = 0 := by simpa [capacity] using hn
    rw [copyFrom, hzero]
    simp [gather]
  | succ left ih =>
    have hin : v.nr_vecs - (left + 1) < v.iovecs.length := by omega
    have hcons : v.iovecs.drop (v.nr_vecs - (left + 1)) =
        v.iovecs[v.nr_vecs - (left + 1)] :: v.iovecs.drop (v.nr_vecs - left) := by
      rw [List.drop_eq_getElem_cons hin]
      congr 2
      omega
    have hbound := hlen _ (List.getElem_mem hin)
    rw [copyFrom, List.getElem?_eq_getElem hin]
    rw [hcons, List.map_cons] at hn ⊢
    generalize v.iovecs[v.nr_vecs - (left + 1)] = iov at hn hbound ⊢
    by_cases hpos : (Copying.after done n).remaining > 0
    · rw [if_pos hpos]
      have hrest : n - iov.iov_len ≤ capacity
          ((v.iovecs.drop (v.nr_vecs - left)).map Iovec.region) := by
        simp only [capacity, List.map_cons, List.sum_cons, Iovec.region] at hn ⊢
        omega
      have hround : copyStep mem iov (Copying.after done n) =
          .ok (Copying.after (done ++ read mem iov.iov_base (min iov.iov_len n))
            (n - iov.iov_len)) :=
        copyStep_eq done n hbound
      have htail := ih (by omega) (done ++ read mem iov.iov_base (min iov.iov_len n)) hrest
      simp only [hround]
      rw [gather, ← List.append_assoc]
      exact htail
    · -- The early exit.
      have hzero : n = 0 := by
        simp only [Copying.after] at hpos
        omega
      rw [if_neg hpos, hzero, gather_eq_take, List.take_zero, List.append_nil]

/-- The loop computes the gather, without a bad access. -/
theorem copyVector_eq (hnr : v.nr_vecs = v.iovecs.length)
    (hlen : ∀ iov ∈ v.iovecs, iov.iov_len ≤ 2^63 - 1) {n : ℕ} (hn : n ≤ capacity v.regions) :
    copyVector mem v n = .ok (some ((gather mem v.regions n).map some)) := by
  have hregions : v.regions = (v.iovecs.drop (v.nr_vecs - v.nr_vecs)).map Iovec.region := by
    rw [Nat.sub_self, List.drop_zero, VectoredBuffer.regions, hnr, List.take_length]
  have hstart : (⟨List.replicate (n : ℤ).toNat none, 0, n⟩ : Copying) = Copying.after [] n := by
    simp [Copying.after]
  rw [hregions] at hn ⊢
  rw [copyVector, if_neg (by omega), hstart, copyFrom_eq hnr hlen (Nat.le_refl _) [] hn]
  simp [Copying.after, Except.map]

/-- The gather is the front of the contents. -/
theorem gather_eq_contents (hnr : v.nr_vecs = v.iovecs.length) (n : ℕ) :
    gather mem v.regions n = (contents mem v.iovecs).take n := by
  rw [gather_eq_take, VectoredBuffer.regions, hnr, List.take_length, List.flatMap_map]
  rfl

/-- **Vectored results are the concatenation.** For every list of iovecs and every result up to the
sum of their lengths, the copy loop makes no bad access and fills a `bytes` object of `res` bytes,
all of them written, with the front of the concatenation; and that object is the value of the
future in `case IORING_OP_READV` and in the branch of `case IORING_OP_RECVMSG` for a vectored
payload that is not multishot. -/
theorem copyVector_concat (iovecs : List Iovec) (hlen : ∀ iov ∈ iovecs, iov.iov_len ≤ 2^63 - 1)
    (L : Loop) (cqe : Cqe) (hres : 0 ≤ cqe.res)
    (hsum : cqe.res ≤ ((iovecs.map Iovec.iov_len).sum : ℕ)) :
    ∃ bytes : List UInt8,
      bytes = (contents L.mem iovecs).take cqe.res.toNat ∧
      (bytes.length : ℤ) = cqe.res ∧
      copyVector L.mem ⟨iovecs, iovecs.length⟩ cqe.res = .ok (some (bytes.map some)) ∧
      ∀ (index : ℤ) (slot : RequestSlot) (p : PayloadRef) (payload : BufferPayload),
        L.deref slot.buffer_payload = .ok (p, payload) →
        payload.vector = some ⟨iovecs, iovecs.length⟩ →
        (∃ L', L.completeReadv index slot cqe = .ok (.finish L' (some (.bytes bytes)) [])) ∧
        ∀ (env : ReadEnv) (released : Loop), slot.stream_strategy ≠ .MULTISHOT →
          payload.payload_type ≠ .PAYLOAD_LINEAR → L.releaseFixed p = .ok released →
          ∃ L', L.completeRecvmsg index slot env cqe = .ok
            (.finish L' (some (.bytes bytes)) []) := by
  obtain ⟨n, hn⟩ := Int.eq_ofNat_of_zero_le hres
  have hcap : n ≤ capacity (VectoredBuffer.regions ⟨iovecs, iovecs.length⟩) := by
    have hlens : (iovecs.map Iovec.region).map Region.len = iovecs.map Iovec.iov_len := by
      rw [List.map_map]
      rfl
    rw [VectoredBuffer.regions, List.take_length, capacity, hlens]
    omega
  have hbytes : gather L.mem (VectoredBuffer.regions ⟨iovecs, iovecs.length⟩) n =
      (contents L.mem iovecs).take n := gather_eq_contents rfl n
  have hcopy : copyVector L.mem ⟨iovecs, iovecs.length⟩ n =
      .ok (some ((gather L.mem (VectoredBuffer.regions ⟨iovecs, iovecs.length⟩) n).map some)) :=
    copyVector_eq rfl hlen hcap
  have hof : L.bytesOf ⟨iovecs, iovecs.length⟩ cqe.res =
      .bytes ((contents L.mem iovecs).take cqe.res.toNat) := by
    rw [Loop.bytesOf, hn, Int.toNat_natCast, hbytes]
  refine ⟨(contents L.mem iovecs).take cqe.res.toNat, rfl, ?_, ?_, ?_⟩
  · rw [hn, Int.toNat_natCast, ← hbytes, length_gather hcap]
  · rw [hn, Int.toNat_natCast, ← hbytes]
    exact hcopy
  · intro index slot p payload hderef hvector
    have hvec : payload.derefVector = .ok ⟨iovecs, iovecs.length⟩ := by
      rw [BufferPayload.derefVector, hvector]
    refine ⟨⟨L.dropPayload index p false, ?_⟩, fun env released hplain hlinear hreleased => ?_⟩
    · rw [Loop.completeReadv, hderef, ← hof]
      simp only [bind, Except.bind, hvec]
    · have hmem : released.bytesOf ⟨iovecs, iovecs.length⟩ cqe.res =
          L.bytesOf ⟨iovecs, iovecs.length⟩ cqe.res := by
        rw [Loop.bytesOf, Loop.bytesOf, Loop.releaseFixed_mem hreleased]
      refine ⟨released.dropPayload index p false, ?_⟩
      rw [Loop.completeRecvmsg, hderef, ← hof, ← hmem]
      simp only [bind, Except.bind, hreleased, if_neg hplain, if_neg hlinear, hvec]

/-- A loop with a request for three iovecs, one of them empty, of seven bytes together. -/
def threeIovecs : Loop :=
  { (Loop.init 8 (by decide)
      ⟨fun _ => BufferPayload.zero, fun _ => ⟨-1, false⟩, fun _ => ⟨-1, 2, none, false⟩,
        fun a => a.toUInt8⟩ ⟨true, 4, 4096, 5, 8192, 2⟩).1 with
    payloads := fun _ =>
      { BufferPayload.zero with
        payload_type := .PAYLOAD_IOVEC
        vector := some ⟨[⟨10, 3⟩, ⟨50, 0⟩, ⟨20, 4⟩], 3⟩ } }

/-- A short read of five bytes takes the first iovec and the front of the last. -/
theorem copyVector_short :
    copyVector threeIovecs.mem ⟨[⟨10, 3⟩, ⟨50, 0⟩, ⟨20, 4⟩], 3⟩ 5 =
        .ok (some [some 10, some 11, some 12, some 20, some 21]) ∧
      ∃ L', threeIovecs.completeReadv 0 { RequestSlot.zero with buffer_payload := some (.own 0) }
          ⟨0, 5, 0⟩ = .ok (.finish L' (some (.bytes [10, 11, 12, 20, 21])) []) := by
  obtain ⟨bytes, hbytes, -, hcopy, hcases⟩ :=
    copyVector_concat [⟨10, 3⟩, ⟨50, 0⟩, ⟨20, 4⟩] (by decide) threeIovecs ⟨0, 5, 0⟩ (by decide)
      (by decide)
  have hfront : bytes = [10, 11, 12, 20, 21] := by
    rw [hbytes]
    decide
  subst hfront
  exact ⟨hcopy, (hcases 0 _ (.own 0) _ rfl rfl).1⟩

end VectoredBuffer

end Uringio
