import Mathlib.Data.Int.ModEq

/-!
# Fixed-width C integers

Conversions between the integer types of a 64-bit C program, on mathematical integers: a value of
`int`, `unsigned`, `uint16_t` or `uint64_t` is the integer it denotes, and a cast reduces that
integer into the range of the target type. Arithmetic that the program does in `int` is the exact
operation followed by `toInt`.
-/

namespace CInt

/-- The cast to `int`: the representative modulo `2^32` in `[-2^31, 2^31)`. -/
def toInt (x : ℤ) : ℤ := x.bmod (2^32)

/-- The cast to `unsigned int` (and to `__u32`): the representative modulo `2^32` in
`[0, 2^32)`. -/
def toUnsigned (x : ℤ) : ℕ := (x % 2^32).toNat

/-- The cast to `uint16_t`. -/
def toU16 (x : ℤ) : ℕ := (x % 2^16).toNat

/-- The cast to `uint64_t` (and to `uintptr_t` and `size_t`). -/
def toU64 (x : ℤ) : ℕ := (x % 2^64).toNat

/-- The cast to `Py_ssize_t`: the representative modulo `2^64` in `[-2^63, 2^63)`. -/
def toSsize (x : ℤ) : ℤ := x.bmod (2^64)

/-- The integers that an `int` represents. -/
def IsInt (x : ℤ) : Prop := -2^31 ≤ x ∧ x < 2^31

instance (x : ℤ) : Decidable (IsInt x) := inferInstanceAs (Decidable (_ ∧ _))

/-- Zero is an `int`. -/
theorem isInt_zero : IsInt 0 := by decide

/-- Two is an `int`. -/
theorem two_lt : 2 < 2^31 := by decide

/-- Eight is an `int`. -/
theorem eight_lt : 8 < 2^31 := by decide

/-- Every result of a cast to `int` is an `int`. -/
theorem isInt_toInt (x : ℤ) : IsInt (toInt x) := by
  have h₁ := Int.le_bmod (x := x) (m := 2^32) (by decide)
  have h₂ := Int.bmod_lt (x := x) (m := 2^32) (by decide)
  unfold IsInt toInt
  constructor <;> omega

/-- A value of type `int` is unchanged by the cast to `int`. -/
theorem toInt_of_isInt {x : ℤ} (h : IsInt x) : toInt x = x := by
  unfold IsInt at h
  unfold toInt
  exact Int.bmod_eq_of_le (by omega) (by omega)

/-- A natural number below `2^31` is unchanged by the cast to `int`. -/
theorem toInt_natCast {n : ℕ} (h : n < 2^31) : toInt n = n :=
  toInt_of_isInt (by unfold IsInt; omega)

/-- The cast to `int` keeps the residue modulo `2^32`. -/
theorem toInt_emod (x : ℤ) : toInt x % 2^32 = x % 2^32 := by
  unfold toInt
  exact Int.bmod_emod

/-- A value below `2^32` is unchanged by the cast to `unsigned`. -/
theorem toUnsigned_natCast {n : ℕ} (h : n < 2^32) : toUnsigned n = n := by
  unfold toUnsigned
  omega

/-- The cast to `unsigned` after the cast to `int` is the cast to `unsigned`. -/
theorem toUnsigned_toInt (x : ℤ) : toUnsigned (toInt x) = toUnsigned x := by
  unfold toUnsigned
  rw [toInt_emod]

/-- The cast to `unsigned` is below `2^32`. -/
theorem toUnsigned_lt (x : ℤ) : toUnsigned x < 2^32 := by
  unfold toUnsigned
  omega

/-- A size below `2^63` is unchanged by the cast to `Py_ssize_t`. -/
theorem toSsize_natCast {n : ℕ} (h : n < 2^63) : toSsize n = n := by
  unfold toSsize
  exact Int.bmod_eq_of_le (by omega) (by omega)

/-- A value that is a `size_t` is unchanged by the cast to it. -/
theorem toU64_natCast {n : ℕ} (h : n < 2^64) : toU64 n = n := by
  unfold toU64
  omega

/-- An `int` survives the trip through a 64-bit word: `(int)(uintptr_t)x` is `x`. -/
theorem toInt_toU64 {x : ℤ} (h : IsInt x) : toInt (toU64 x) = x := by
  have hx : ((toU64 x : ℕ) : ℤ) % 2^32 = x % 2^32 := by
    unfold toU64
    omega
  have hb := isInt_toInt (toU64 x)
  have he := toInt_emod (toU64 x)
  unfold IsInt at h hb
  omega

end CInt
