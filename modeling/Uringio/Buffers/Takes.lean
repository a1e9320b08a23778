import Uringio.Buffers.Construct

/-!
# What the constructors take

A constructor of arrays takes blocks and views one after the other, and goes on as long as it gets
what it takes. What it takes, when it gets everything, is known before it runs: a list of steps,
which the environment grants one by one, each at the count that the steps before it left.

A constructor unwinds by itself where one of its first steps fails. Those of both arrays leave the
rest to the destructor of the payload, which is not prepared for it once the linear array is there;
and some write a field of the first element at their end, whether there is one or not.
-/

namespace Uringio.Blocks

/-! ## Steps -/

/-- A step that may fail: an allocation, `PySequence_Fast` of a sequence, `PySequence_GetItem` and
`PyObject_GetBuffer` of an item. -/
inductive Take
  | alloc (size : ℤ)
  | list (n : ℕ)
  | fetch (i : ℕ)
  | acquire (i : ℕ)

/-- The environment grants the step. -/
def Take.Granted (env : BuildEnv) (t : Count) : Take → Prop
  | alloc size => 0 ≤ size ∧ env.fails t.requests = false
  | list n => (List.range n).all (fun i => env.present t.fetches i) = true
  | fetch i => env.present t.fetches i = true
  | acquire i => (env.region t.fetches i).isSome = true

/-- The count after the step, when it is granted. -/
def Take.count (t : Count) : Take → Count
  | alloc _ => { t with requests := t.requests + 1 }
  | list _ | fetch _ => t
  | acquire i => { t with fetches := t.fetches + 1, acquired := t.acquired ++ [i] }

/-- The environment grants all steps of a list. -/
def Granted (env : BuildEnv) : Count → List Take → Prop
  | _, [] => True
  | t, x :: xs => x.Granted env t ∧ Granted env (x.count t) xs

/-- The count after the steps of a list. -/
def Count.after (t : Count) (xs : List Take) : Count := xs.foldl Take.count t

/-- Where a step looks before a view is acquired. -/
abbrev Looks := ℕ → List Take

/-- A loop that allocates the bytes of `n` elements. -/
def allocs (bufsize : ℤ) (n : ℕ) : List Take := List.replicate n (.alloc bufsize)

/-- A loop that acquires the buffers of `n` items from the position `i` on. -/
def acquires (looks : Looks) : ℕ → ℕ → List Take
  | _, 0 => []
  | i, n + 1 => looks i ++ .acquire i :: acquires looks (i + 1) n

/-- A loop that fetches its items. -/
def fetching : Looks := fun i => [.fetch i]

/-- A loop over a list. -/
def listed : Looks := fun _ => []

variable {env : BuildEnv} {t t₁ t' : Count} {xs ys : List Take}

/-- The takes of two rows are counted one row after the other. -/
@[simp] theorem Count.after_append (t : Count) (xs ys : List Take) :
    t.after (xs ++ ys) = (t.after xs).after ys := List.foldl_append

/-- The steps of two lists are granted one after the other. -/
theorem granted_append :
    Granted env t (xs ++ ys) ↔ Granted env t xs ∧ Granted env (t.after xs) ys := by
  induction xs generalizing t with
  | nil => exact (true_and _).symm.to_iff
  | cons x xs ih => exact (and_congr_right fun _ => ih).trans and_assoc.symm

/-- The positions of the items whose buffers the steps acquire. -/
def positions : List Take → List ℕ
  | [] => []
  | .acquire i :: xs => i :: positions xs
  | _ :: xs => positions xs

/-- Allocations are at no position of the sequence. -/
@[simp] theorem positions_allocs (bufsize : ℤ) (n : ℕ) : positions (allocs bufsize n) = [] := by
  induction n with
  | zero => rfl
  | succ n ih => exact ih

/-- A walk of a sequence acquires at each position once. -/
@[simp] theorem positions_fetching (i n : ℕ) :
    positions (acquires fetching i n) = List.range' i n := by
  induction n generalizing i with
  | zero => rfl
  | succ n ih => exact congrArg (i :: ·) (ih (i + 1))

/-- A walk of a list acquires at each position once. -/
@[simp] theorem positions_listed (i n : ℕ) :
    positions (acquires listed i n) = List.range' i n := by
  induction n generalizing i with
  | zero => rfl
  | succ n ih => exact congrArg (i :: ·) (ih (i + 1))

/-! ## Runs of steps -/

/-- Steps that went through lead from a count to another. -/
structure Took (env : BuildEnv) (t t' : Count) (xs : List Take) : Prop where
  /-- Each step was granted. -/
  granted : Granted env t xs
  /-- They were counted, and nothing else was. -/
  count : t' = t.after xs

/-- One of the steps failed on the way. -/
structure Failed (env : BuildEnv) (t t' : Count) (xs : List Take) : Prop where
  /-- Something was refused. -/
  failures : t.failures < t'.failures
  /-- It was one of the steps. -/
  refused : ¬ Granted env t xs

/-- Steps that go through fail nowhere, and acquire what is at their positions. -/
theorem Count.after_fields (t : Count) (xs : List Take) :
    (t.after xs).failures = t.failures ∧ t.requests ≤ (t.after xs).requests ∧
      (t.after xs).acquired = t.acquired ++ positions xs := by
  induction xs generalizing t with
  | nil => exact ⟨rfl, le_rfl, (List.append_nil _).symm⟩
  | cons x xs ih =>
    obtain ⟨hfailures, hrequests, hacquired⟩ := ih (x.count t)
    cases x with
    | alloc => exact ⟨hfailures, (Nat.le_succ _).trans hrequests, hacquired⟩
    | list | fetch => exact ⟨hfailures, hrequests, hacquired⟩
    | acquire i =>
      refine ⟨hfailures, hrequests, hacquired.trans ?_⟩
      exact List.append_assoc ..

namespace Took

/-- Taking nothing changes nothing. -/
theorem refl : Took env t t [] := ⟨trivial, rfl⟩

/-- Two runs take what the first and the second take. -/
theorem append (h₁ : Took env t t₁ xs) (h₂ : Took env t₁ t' ys) : Took env t t' (xs ++ ys) := by
  obtain ⟨hxs, rfl⟩ := h₁
  obtain ⟨hys, rfl⟩ := h₂
  exact ⟨granted_append.mpr ⟨hxs, hys⟩, (t.after_append xs ys).symm⟩

/-- What was taken was not refused. -/
theorem failures (h : Took env t t' xs) : t'.failures = t.failures := by
  rw [h.count]
  exact (t.after_fields xs).1

/-- The number of requests never falls. -/
theorem requests (h : Took env t t' xs) : t.requests ≤ t'.requests := by
  rw [h.count]
  exact (t.after_fields xs).2.1

/-- The positions that were taken are those that are acquired. -/
theorem acquired (h : Took env t t' xs) : t'.acquired = t.acquired ++ positions xs := by
  rw [h.count]
  exact (t.after_fields xs).2.2

end Took

/-- A step of the first list failed. -/
theorem Failed.append_right (h : Failed env t t' xs) (ys : List Take) :
    Failed env t t' (xs ++ ys) :=
  ⟨h.failures, fun hgranted => h.refused (granted_append.mp hgranted).1⟩

/-- The steps of the first list went through, and one of the second failed. -/
theorem Took.failed (h : Took env t t₁ xs) (hfailed : Failed env t₁ t' ys) :
    Failed env t t' (xs ++ ys) := by
  refine ⟨h.failures ▸ hfailed.failures, fun hgranted => hfailed.refused ?_⟩
  rw [h.count]
  exact (granted_append.mp hgranted).2

/-! ## Constructors -/

/-- What a constructor of arrays takes: the steps from whose failure it unwinds, and the steps whose
failure it leaves to the destructor; how many elements its arrays have, and whether it writes a
field of the first. -/
structure Construction where
  /-- The steps from whose refusal the constructor unwinds. -/
  unwinds : List Take
  /-- The steps behind them, from whose refusal it does not. -/
  loses : List Take
  /-- The number of elements. -/
  entries : ℕ
  /-- It writes a field of the first element. -/
  touches : Bool

namespace Construction

/-- All steps of a constructor. -/
def takes (c : Construction) : List Take := c.unwinds ++ c.loses

/-- `create_linear_buffers`. -/
def createLinear (len bufsize : ℤ) : Construction :=
  ⟨.alloc len :: allocs bufsize len.toNat, [], len.toNat, true⟩

/-- `serialize_linear_buffers`. -/
def serializeLinear (len : ℤ) : Construction :=
  ⟨.alloc len :: .alloc len :: acquires fetching 0 len.toNat, [], len.toNat, true⟩

/-- `create_vectored_buffers`. -/
def createVectored (len bufsize : ℤ) : Construction :=
  ⟨.alloc 1 :: .alloc len :: allocs bufsize len.toNat, [], len.toNat, false⟩

/-- `serialize_vectored_buffers`, after `PySequence_Fast`. -/
def serializeFast (len : ℤ) : Construction :=
  ⟨.alloc len :: .alloc 1 :: .alloc len :: acquires listed 0 len.toNat, [], len.toNat, false⟩

/-- `serialize_vectored_buffers`, for a sequence of `n` items, of which the `int` is `len`. -/
def serializeVectored (n : ℕ) (len : ℤ) : Construction :=
  ⟨.list n :: (serializeFast len).unwinds, [], len.toNat, false⟩

/-- `make_buffers`: it unwinds only where the linear array cannot be allocated. -/
def makeBuffers (len bufsize : ℤ) : Construction :=
  ⟨[.alloc len], .alloc 1 :: .alloc len :: allocs bufsize len.toNat, len.toNat, false⟩

/-- `serialize_buffers`: it unwinds only where the linear array or the views cannot be
allocated. -/
def serializeBuffers (len : ℤ) : Construction :=
  ⟨[.alloc len, .alloc len], .alloc 1 :: .alloc len :: acquires fetching 0 len.toNat, len.toNat,
    true⟩

/-- The constructor of the linear array, by the origin. -/
def linear (metadata : BufferMetadata) : Construction :=
  match metadata.payload_origin with
  | .PAYLOAD_RUNTIME => createLinear metadata.amount metadata.bufsize
  | .PAYLOAD_USER => serializeLinear metadata.amount

/-- The constructor of a vector of `len` elements, of the runtime or of a sequence. -/
def vector (sequence : Option ℕ) (len bufsize : ℤ) : Construction :=
  match sequence with
  | none => createVectored len bufsize
  | some n => serializeVectored n len

/-- The constructor of both arrays, by the origin. -/
def both (metadata : BufferMetadata) : Construction :=
  match metadata.payload_origin with
  | .PAYLOAD_RUNTIME => makeBuffers metadata.amount metadata.bufsize
  | .PAYLOAD_USER => serializeBuffers metadata.amount

/-- A linear payload has as many entries as were asked for. -/
theorem entries_linear (metadata : BufferMetadata) :
    (linear metadata).entries = metadata.amount.toNat := by
  unfold linear
  cases metadata.payload_origin <;> rfl

/-- A payload with both arrays has as many entries as were asked for. -/
theorem entries_both (metadata : BufferMetadata) :
    (both metadata).entries = metadata.amount.toNat := by
  unfold both
  cases metadata.payload_origin <;> rfl

/-- The constructor goes through, and there is a first element if it writes a field of it. -/
structure Done (c : Construction) (env : BuildEnv) (t t' : Count) : Prop where
  /-- All steps were granted. -/
  took : Took env t t' c.takes
  /-- There is a first element where one is written to. -/
  touched : c.touches = true → c.entries ≠ 0

/-- The constructor gets everything, and writes a field of a first element that is not there. -/
structure Bare (c : Construction) (env : BuildEnv) (t t' : Count) : Prop where
  /-- All steps were granted. -/
  took : Took env t t' c.takes
  /-- A field of the first element is written. -/
  touches : c.touches = true
  /-- There is no element. -/
  entries : c.entries = 0

/-- The constructor fails where it does not unwind. -/
structure Lost (c : Construction) (env : BuildEnv) (t t' : Count) : Prop where
  /-- Something was refused. -/
  failures : t.failures < t'.failures
  /-- The steps from whose refusal it unwinds were granted. -/
  granted : Granted env t c.unwinds
  /-- One of the others was refused. -/
  refused : ¬ Granted env (t.after c.unwinds) c.loses

/-- The first steps of a constructor went through, and one of the others failed. -/
theorem lost {c : Construction} (h : Took env t t₁ c.unwinds) (hfailed : Failed env t₁ t' c.loses) :
    c.Lost env t t' := by
  refine ⟨h.failures ▸ hfailed.failures, h.granted, ?_⟩
  rw [← h.count]
  exact hfailed.refused

end Construction

end Uringio.Blocks
