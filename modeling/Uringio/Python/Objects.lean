import Uringio.Loop.Call

/-!
# What Python passes to a call

The arguments of the entry points as Python objects, and what the interpreter's functions make of
them: integers of any size, dictionaries with the parameters of a timer, sequences of objects that
may export a buffer. Where the program crashes or has no defined behaviour, the result is a `Crash`.
-/

namespace Uringio

open Memory (Region)

/-- The exception types that the program names. -/
inductive ExcType
  | RuntimeError | BrokenPipeError | TypeError | ValueError | ConnectionRefusedError
  | RuntimeWarning
  deriving DecidableEq

/-- An exception that is pending. -/
inductive PyExc
  /-- `PyErr_SetString` (or `PyErr_Format`). -/
  | set (type : ExcType) (text : String)
  /-- `PyErr_NoMemory`. -/
  | noMemory
  /-- One that a function of the interpreter raised. -/
  | raised
  /-- The exception of the body of an `async with`. -/
  | body
  /-- The `ExceptionGroup` of the body's exception and the one of the failed close. -/
  | group (close : PyExc)
  deriving DecidableEq

/-- Behaviour that ends the process, or is not defined. -/
inductive Crash
  /-- One of the call proper. -/
  | fault (fault : Fault)
  /-- A variable is used that was never set. -/
  | uninitialized
  /-- An integer is divided by zero. -/
  | divisionByZero
  /-- An access outside of a block. -/
  | outOfBounds
  deriving DecidableEq

/-! ## Integers -/

/-- The values of the type `long`. -/
def IsLong (x : ℤ) : Prop := -2^63 ≤ x ∧ x < 2^63

instance (x : ℤ) : Decidable (IsLong x) := inferInstanceAs (Decidable (_ ∧ _))

/-- `(int)PyLong_AsLong(x)`: a value that does not fit raises `OverflowError` and is `-1`. -/
def longAsInt (x : ℤ) : ℤ := if IsLong x then CInt.toInt x else -1

/-! ## Parameters of timers -/

/-- The object given for `timeout_params`. A value of the dictionary is `none` when it is missing or
has another type. -/
inductive TimeoutArg
  /-- No object, or `None`. -/
  | absent
  | notDict
  | dict (sec nsec : Option ℤ) (is_required : Option Bool)
  deriving DecidableEq

/-- The object given for `timer_params`. -/
inductive TimerArg
  | absent
  | notDict
  | dict (sec nsec count : Option ℤ) (is_multishot : Option Bool)
  deriving DecidableEq

/-- The parameters that `parse_timeout_params` writes. -/
def TimeoutArg.params : TimeoutArg → TimeoutParams
  | .dict (some sec) (some nsec) (some is_required) =>
    ⟨longAsInt sec, longAsInt nsec, is_required⟩
  | _ => .zero

/-- Every integer of the dictionary is a `long`. -/
def TimeoutArg.Fits : TimeoutArg → Prop
  | .dict (some sec) (some nsec) _ => IsLong sec ∧ IsLong nsec
  | _ => True

instance : DecidablePred TimeoutArg.Fits
  | .absent => inferInstanceAs (Decidable True)
  | .notDict => inferInstanceAs (Decidable True)
  | .dict none _ _ => inferInstanceAs (Decidable True)
  | .dict (some _) none _ => inferInstanceAs (Decidable True)
  | .dict (some _) (some _) _ => inferInstanceAs (Decidable (_ ∧ _))

/-- The error of `parse_timeout_params`: each required key is checked, in this order. -/
def TimeoutArg.error : TimeoutArg → Option PyExc
  | .absent => none
  | .notDict => some (.set .TypeError "timeout_params must be a dict")
  | .dict none _ _ =>
    some (.set .TypeError "timeout_params['sec'] is required and must be an int")
  | .dict (some _) none _ =>
    some (.set .TypeError "timeout_params['nsec'] is required and must be an int")
  | .dict (some _) (some _) none =>
    some (.set .TypeError "timeout_params['is_required'] is required and must be a bool")
  | .dict (some _) (some _) (some _) => none

/-- Every integer of the dictionary is a `long`. -/
def TimerArg.Fits : TimerArg → Prop
  | .dict (some sec) (some nsec) (some count) _ => IsLong sec ∧ IsLong nsec ∧ IsLong count
  | _ => True

instance : DecidablePred TimerArg.Fits
  | .absent => inferInstanceAs (Decidable True)
  | .notDict => inferInstanceAs (Decidable True)
  | .dict none _ _ _ => inferInstanceAs (Decidable True)
  | .dict (some _) none _ _ => inferInstanceAs (Decidable True)
  | .dict (some _) (some _) none _ => inferInstanceAs (Decidable True)
  | .dict (some _) (some _) (some _) _ => inferInstanceAs (Decidable (_ ∧ _ ∧ _))

/-- The error of `parse_timer_params`. -/
def TimerArg.error : TimerArg → Option PyExc
  | .absent => none
  | .notDict => some (.set .TypeError "timer_params must be a dict")
  | .dict (some _) (some _) (some _) _ => none
  | .dict _ _ _ _ =>
    some (.set .TypeError "timer_params requires int fields: sec, nsec, count")

/-! ## Buffers -/

/-- An object that exports a buffer. -/
structure Exporter where
  /-- The memory. -/
  region : Region
  /-- It must not be written to. -/
  readonly : Bool
  /-- It is in one piece. -/
  contiguous : Bool
  deriving DecidableEq

/-- An object that is asked for its buffer; `none` for one that exports none. -/
abbrev Item := Option Exporter

/-- What `PyObject_GetBuffer` is asked for. -/
structure BufferFlags where
  /-- `PyBUF_WRITABLE`. -/
  writable : Bool
  /-- The layout may have strides. -/
  strided : Bool
  deriving DecidableEq

/-- `PyBUF_CONTIG_RO`. -/
def PyBUF_CONTIG_RO : BufferFlags := ⟨false, false⟩

/-- `PyBUF_SIMPLE`. -/
def PyBUF_SIMPLE : BufferFlags := ⟨false, false⟩

/-- `PyBUF_WRITABLE | PyBUF_STRIDES`. -/
def PyBUF_WRITABLE_STRIDES : BufferFlags := ⟨true, true⟩

/-- `PyObject_GetBuffer`; `none` when it raises. -/
def Item.getBuffer (flags : BufferFlags) : Item → Option Exporter
  | none => none
  | some e =>
    if (flags.writable ∧ e.readonly) ∨ (¬ flags.strided ∧ ¬ e.contiguous) then none else some e

/-- An object that is given for a sequence of buffers. -/
structure BufferSeq where
  /-- `PySequence_Check`. -/
  check : Bool
  /-- `PySequence_Length`, `none` when it raises. -/
  length : Option ℕ
  /-- `PySequence_GetItem`, `none` when it raises. -/
  item : ℕ → Option Item
  /-- `PySequence_Fast`, `none` when it raises. -/
  fast : Option (List Item)

/-- A list or a tuple of objects. -/
def BufferSeq.ofList (items : List Item) : BufferSeq where
  check := true
  length := some items.length
  item i := items[i]?
  fast := some items

/-- The exporters of the first `len` items, as `serialize_linear_buffers` and `serialize_buffers`
acquire them one after the other; `none` when one of them is refused. -/
def BufferSeq.linear (s : BufferSeq) (len : ℕ) : Option (List Exporter) :=
  (List.range len).mapM fun i => (s.item i).bind (·.getBuffer PyBUF_CONTIG_RO)

/-- The exporters that `serialize_vectored_buffers` acquires; `none` when one of them is refused,
or when the length is negative as an `int` and no block has that size. -/
def BufferSeq.vectored (s : BufferSeq) : Option (List Exporter) :=
  s.fast.bind fun items =>
    let len := CInt.toInt items.length
    if len < 0 then none else (items.take len.toNat).mapM (·.getBuffer PyBUF_CONTIG_RO)

/-- The regions of exporters. -/
def regions (es : List Exporter) : List Region := es.map Exporter.region

/-- The object given for an array of `iovec`s: the elements that its bytes hold, if their number is
a multiple of the size of one, and the exporter itself. -/
structure RawArg where
  /-- The object. -/
  item : Item
  /-- The length in bytes. -/
  len : ℕ
  /-- The vectors of its buffers. -/
  iovecs : List Iovec
  deriving DecidableEq

end Uringio
