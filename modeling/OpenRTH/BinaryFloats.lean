import Mathlib.Data.Int.Log
import Mathlib.Data.Rat.Floor
import Mathlib.Tactic.FieldSimp
import Mathlib.Tactic.Linarith
import Mathlib.Tactic.Positivity

/-!
# Binary floating-point numbers in decimal

Numbers with a bounded binary mantissa, as rational numbers, and the nearest one
to an exact number.  A decimal number that is close to such a number, in units
of its last digit, is rounded back to it when the decimal mantissa has enough
digits.
-/

namespace BinaryFloat

/-! ## The nearest integer -/

/-- The nearest integer, the even one at a half. -/
def roundHalfEven (x : ℚ) : ℤ :=
  if x - ⌊x⌋ < 1 / 2 ∨ x - ⌊x⌋ = 1 / 2 ∧ ⌊x⌋ % 2 = 0 then ⌊x⌋ else ⌊x⌋ + 1

theorem abs_sub_roundHalfEven_le (x : ℚ) : |x - roundHalfEven x| ≤ 1 / 2 := by
  have floorLe := Int.floor_le x
  have ltFloor := Int.lt_floor_add_one x
  unfold roundHalfEven
  split_ifs with low
  · rw [abs_of_nonneg (by linarith)]
    rcases low with less | ⟨half, -⟩
    · exact less.le
    · exact half.le
  · rw [not_or, not_lt] at low
    rw [Int.cast_add, Int.cast_one, abs_of_nonpos (by linarith)]
    linarith [low.1]

theorem roundHalfEven_eq {x : ℚ} {n : ℤ} (near : |x - n| < 1 / 2) :
    roundHalfEven x = n := by
  have rounded := abs_sub_roundHalfEven_le x
  have apart : |((roundHalfEven x - n : ℤ) : ℚ)| < 1 := by
    push_cast
    calc |(roundHalfEven x : ℚ) - n|
        = |(x - n) - (x - roundHalfEven x)| := by congr 1; ring
      _ ≤ |x - n| + |x - roundHalfEven x| := abs_sub _ _
      _ < 1 := by linarith
  rw [← Int.cast_abs] at apart
  have zero : |roundHalfEven x - n| < 1 := by exact_mod_cast apart
  exact sub_eq_zero.mp (Int.abs_lt_one_iff.mp zero)

theorem le_roundHalfEven {x : ℚ} {n : ℤ} (le : (n : ℚ) ≤ x) :
    n ≤ roundHalfEven x := by
  have floor := Int.le_floor.mpr le
  unfold roundHalfEven
  split_ifs <;> omega

theorem roundHalfEven_le {x : ℚ} {n : ℤ} (lt : x < n) :
    roundHalfEven x ≤ n := by
  have floor := Int.floor_lt.mpr lt
  unfold roundHalfEven
  split_ifs <;> omega

/-! ## Floating-point numbers -/

/-- A number with a mantissa of so many bits and no smaller unit than that of
the least numbers. -/
def IsFloat (precision : ℕ) (least : ℤ) (x : ℚ) : Prop :=
  ∃ mantissa exponent : ℤ, |mantissa| < 2 ^ precision ∧ least ≤ exponent ∧
    x = mantissa * 2 ^ exponent

/-- The exponent of the last place of a mantissa that is filled by a number. -/
def unitExponent (precision : ℕ) (least : ℤ) (x : ℚ) : ℤ :=
  max (Int.log 2 |x| - precision + 1) least

/-- The nearest floating-point number, without a bound on the exponent. -/
def roundToFloat (precision : ℕ) (least : ℤ) (x : ℚ) : ℚ :=
  roundHalfEven (x / 2 ^ unitExponent precision least x) *
    2 ^ unitExponent precision least x

section Rounding

variable {precision : ℕ} {least : ℤ} {x y : ℚ}

theorem two_zpow_pos (n : ℤ) : (0 : ℚ) < 2 ^ n := zpow_pos (by norm_num) n

theorem roundToFloat_eq {n : ℤ}
    (multiple : x = n * 2 ^ unitExponent precision least y)
    (near : |y - x| < 2 ^ unitExponent precision least y / 2) :
    roundToFloat precision least y = x := by
  have unit := two_zpow_pos (unitExponent precision least y)
  unfold roundToFloat
  generalize (2 : ℚ) ^ unitExponent precision least y = u at *
  rw [roundHalfEven_eq (n := n), multiple]
  have scaled : y / u - n = (y - x) / u := by
    rw [multiple]
    field_simp
  rw [scaled, abs_div, abs_of_pos unit, div_lt_iff₀ unit]
  linarith

theorem zpow_le_abs (nonzero : x ≠ 0) : (2 : ℚ) ^ Int.log 2 |x| ≤ |x| :=
  Int.zpow_log_le_self (by decide) (abs_pos.mpr nonzero)

theorem abs_lt_zpow (x : ℚ) : |x| < (2 : ℚ) ^ (Int.log 2 |x| + 1) :=
  Int.lt_zpow_succ_log_self (b := 2) (by decide) _

theorem IsFloat.multiple (float : IsFloat precision least x) (nonzero : x ≠ 0) :
    ∃ n : ℤ, x = n * 2 ^ unitExponent precision least x := by
  obtain ⟨mantissa, exponent, small, above, same⟩ := float
  have smallRat : |(mantissa : ℚ)| < 2 ^ precision := by exact_mod_cast small
  have below : |x| < (2 : ℚ) ^ (precision + exponent : ℤ) := by
    rw [same, abs_mul, abs_of_pos (two_zpow_pos exponent),
      zpow_add₀ two_ne_zero, zpow_natCast]
    exact mul_lt_mul_of_pos_right smallRat (two_zpow_pos exponent)
  have logLt : Int.log 2 |x| < precision + exponent :=
    (Int.lt_zpow_iff_log_lt (by decide) (abs_pos.mpr nonzero)).mp below
  have unitLe : unitExponent precision least x ≤ exponent :=
    max_le (by omega) above
  obtain ⟨shift, split⟩ := Int.le.dest unitLe
  refine ⟨mantissa * 2 ^ shift, same.trans ?_⟩
  rw [← split, zpow_add₀ two_ne_zero, zpow_natCast]
  push_cast
  ring

/-- The unit is not greater than the number. -/
theorem IsFloat.unitExponent_le (float : IsFloat precision least x)
    (nonzero : x ≠ 0) : unitExponent precision least x ≤ Int.log 2 |x| := by
  obtain ⟨mantissa, exponent, small, above, same⟩ := float
  have atLeastOne : 1 ≤ |mantissa| := by
    apply Int.one_le_abs
    rintro rfl
    exact nonzero (by rw [same, Int.cast_zero, zero_mul])
  have positive : 1 ≤ precision := by
    by_contra none
    obtain rfl : precision = 0 := by omega
    omega
  have leastLe : (2 : ℚ) ^ least ≤ |x| := by
    have oneLe : (1 : ℚ) ≤ |(mantissa : ℚ)| := by exact_mod_cast atLeastOne
    rw [same, abs_mul, abs_of_pos (two_zpow_pos exponent)]
    calc (2 : ℚ) ^ least ≤ 2 ^ exponent :=
          zpow_le_zpow_right₀ (by norm_num) above
      _ ≤ |(mantissa : ℚ)| * 2 ^ exponent :=
          le_mul_of_one_le_left (two_zpow_pos exponent).le oneLe
  have leastLog : least ≤ Int.log 2 |x| :=
    (Int.zpow_le_iff_le_log (by decide) (abs_pos.mpr nonzero)).mp leastLe
  exact max_le (by omega) leastLog

theorem IsFloat.units (float : IsFloat precision least x) (nonzero : x ≠ 0) :
    ∃ (n : ℤ) (bits : ℕ), x = n * 2 ^ unitExponent precision least x ∧
      unitExponent precision least x + bits = Int.log 2 |x| ∧
      2 ^ bits ≤ |n| ∧ |n| < 2 ^ (bits + 1) := by
  obtain ⟨n, multiple⟩ := float.multiple nonzero
  obtain ⟨bits, split⟩ := Int.le.dest (float.unitExponent_le nonzero)
  have unit := two_zpow_pos (unitExponent precision least x)
  have low := zpow_le_abs nonzero
  have high := abs_lt_zpow x
  have size : |x| = |(n : ℚ)| * 2 ^ unitExponent precision least x := by
    conv_lhs => rw [multiple]
    rw [abs_mul, abs_of_pos unit]
  rw [← split, zpow_add₀ two_ne_zero, zpow_natCast, size, mul_comm] at low
  rw [← split, add_assoc, zpow_add₀ two_ne_zero, size, mul_comm] at high
  refine ⟨n, bits, multiple, split, ?_, ?_⟩
  · exact_mod_cast le_of_mul_le_mul_right low unit
  · have less := lt_of_mul_lt_mul_left high unit.le
    exact_mod_cast less

theorem exists_roundToFloat_eq (precision : ℕ) (least n : ℤ) :
    ∃ m : ℤ, roundToFloat precision least (n : ℚ) = m := by
  unfold roundToFloat
  generalize unitExponent precision least (n : ℚ) = exponent
  rcases le_total 0 exponent with whole | part
  · lift exponent to ℕ using whole
    exact ⟨roundHalfEven (n / 2 ^ (exponent : ℤ)) * 2 ^ exponent, by
      push_cast; rfl⟩
  · obtain ⟨places, rfl⟩ := Int.exists_eq_neg_ofNat part
    have scaled : (n : ℚ) / 2 ^ (-(places : ℤ)) = (n * 2 ^ places : ℤ) := by
      rw [zpow_neg, div_inv_eq_mul]
      push_cast
      rfl
    refine ⟨n, ?_⟩
    rw [scaled, roundHalfEven_eq (n := n * 2 ^ places) (by simp), ← scaled,
      div_mul_cancel₀ _ (two_zpow_pos _).ne']

theorem zpow_le_unit (precision : ℕ) (least : ℤ) (x : ℚ) :
    (2 : ℚ) ^ (Int.log 2 |x| + 1) ≤
      2 ^ unitExponent precision least x * 2 ^ precision := by
  rw [← zpow_natCast, ← zpow_add₀ two_ne_zero]
  apply zpow_le_zpow_right₀ (by norm_num)
  have := le_max_left (Int.log 2 |x| - precision + 1) least
  unfold unitExponent
  omega

/-- The nearest number is a floating-point number. -/
theorem isFloat_roundToFloat (positive : 0 < precision) (least : ℤ) (x : ℚ) :
    IsFloat precision least (roundToFloat precision least x) := by
  have unit := two_zpow_pos (unitExponent precision least x)
  have below : |x / 2 ^ unitExponent precision least x| < 2 ^ precision := by
    rw [abs_div, abs_of_pos unit, div_lt_iff₀ unit, mul_comm]
    exact (abs_lt_zpow x).trans_le (zpow_le_unit precision least x)
  obtain ⟨low, high⟩ := abs_lt.mp below
  have leastMantissa := le_roundHalfEven (n := -2 ^ precision)
    (by push_cast; exact low.le)
  have greatestMantissa := roundHalfEven_le (n := 2 ^ precision)
    (by push_cast; exact high)
  have leastLe : least ≤ unitExponent precision least x := le_max_right _ _
  unfold roundToFloat
  generalize roundHalfEven (x / 2 ^ unitExponent precision least x) =
    mantissa at *
  have size : |mantissa| ≤ 2 ^ precision :=
    abs_le.mpr ⟨leastMantissa, greatestMantissa⟩
  rcases size.lt_or_eq with small | full
  · exact ⟨mantissa, _, small, leastLe, rfl⟩
  · -- a mantissa that is rounded up to a power has a place less
    obtain ⟨bits, rfl⟩ := Nat.exists_eq_add_one.mpr positive
    obtain ⟨half, rfl⟩ : (2 : ℤ) ∣ mantissa := by
      rw [← dvd_abs, full]
      exact Dvd.intro_left _ (pow_succ 2 bits).symm
    refine ⟨half, unitExponent (bits + 1) least x + 1, ?_, by omega, ?_⟩
    · rw [abs_mul, pow_succ] at full
      have positiveHalf : (0 : ℤ) < 2 ^ bits := by positivity
      have two : |(2 : ℤ)| = 2 := rfl
      rw [two] at full
      rw [pow_succ]
      omega
    · rw [zpow_add_one₀ two_ne_zero]
      push_cast
      ring

/-! ## Decimal numbers nearby -/

/-- The last of so many decimal places behind the first is finer than the
mantissa. -/
theorem decimalUnit_lt {digits : ℕ} (enough : 2 ^ precision < 10 ^ digits)
    (nonzero : x ≠ 0) :
    (10 : ℚ) ^ (Int.log 10 |x| - digits) * 2 ^ precision < |x| := by
  have positive := abs_pos.mpr nonzero
  have log : (10 : ℚ) ^ Int.log 10 |x| ≤ |x| :=
    Int.zpow_log_le_self (b := 10) (by decide) positive
  have more : (2 : ℚ) ^ precision < 10 ^ digits := by exact_mod_cast enough
  have power : (0 : ℚ) < 10 ^ digits := by positivity
  rw [zpow_sub₀ (by norm_num), zpow_natCast, div_mul_eq_mul_div,
    div_lt_iff₀ power]
  calc (10 : ℚ) ^ Int.log 10 |x| * 2 ^ precision
      ≤ |x| * 2 ^ precision := mul_le_mul_of_nonneg_right log (by positivity)
    _ < |x| * 10 ^ digits := mul_lt_mul_of_pos_left more positive

/-- A number that is close to a floating-point number in units of it is not far
from its power of two. -/
theorem IsFloat.units_of_near (float : IsFloat precision least x)
    (nonzero : x ≠ 0)
    (near : |y - x| < 2 ^ unitExponent precision least x / 2) :
    0 < |y| ∧ |y| < 2 ^ (Int.log 2 |x| + 1) ∧
      (|y| < 2 ^ Int.log 2 |x| → |x| = 2 ^ Int.log 2 |x|) := by
  obtain ⟨n, bits, multiple, split, low, high⟩ := float.units nonzero
  have unit := two_zpow_pos (unitExponent precision least x)
  have size : |x| = |(n : ℚ)| * 2 ^ unitExponent precision least x := by
    conv_lhs => rw [multiple]
    rw [abs_mul, abs_of_pos unit]
  have power : (2 : ℚ) ^ Int.log 2 |x| =
      2 ^ bits * 2 ^ unitExponent precision least x := by
    rw [← split, zpow_add₀ two_ne_zero, zpow_natCast, mul_comm]
  have nextPower : (2 : ℚ) ^ (Int.log 2 |x| + 1) =
      2 ^ (bits + 1) * 2 ^ unitExponent precision least x := by
    rw [zpow_add₀ two_ne_zero, power, zpow_one, pow_succ]
    ring
  have lowRat : (2 : ℚ) ^ bits ≤ |(n : ℚ)| := by exact_mod_cast low
  have highRat : |(n : ℚ)| + 1 ≤ 2 ^ (bits + 1) := by exact_mod_cast high
  have one : (1 : ℚ) ≤ 2 ^ bits := one_le_pow₀ (by norm_num)
  have upper : |y| ≤ |x| + |y - x| := by
    simpa using abs_add_le x (y - x)
  have lower : |x| - |y - x| ≤ |y| := by
    have triangle := abs_sub_abs_le_abs_sub x y
    rw [abs_sub_comm] at triangle
    linarith
  generalize (2 : ℚ) ^ unitExponent precision least x = u at *
  refine ⟨?_, ?_, fun below => ?_⟩
  · have atLeast : u ≤ |x| := by
      rw [size]
      exact le_mul_of_one_le_left unit.le (one.trans lowRat)
    linarith
  · have atMost := mul_le_mul_of_nonneg_right highRat unit.le
    rw [nextPower]
    linarith
  · rw [power] at below ⊢
    rw [size]
    congr 1
    refine le_antisymm ?_ lowRat
    by_contra more
    have next : (2 : ℚ) ^ bits + 1 ≤ |(n : ℚ)| := by
      have strict : (2 : ℚ) ^ bits < |(n : ℚ)| := lt_of_not_ge more
      exact_mod_cast strict
    have atLeast := mul_le_mul_of_nonneg_right next unit.le
    linarith

/-- A decimal number that differs from a floating-point number by at most half a
unit of its last place is rounded to it, if there are enough places. -/
theorem roundToFloat_of_near {digits : ℕ}
    (enough : 2 ^ precision < 10 ^ digits)
    (float : IsFloat precision least x) (nonzero : x ≠ 0)
    (near : |y - x| ≤ 10 ^ (Int.log 10 |x| - digits) / 2) :
    roundToFloat precision least y = x := by
  obtain ⟨n, multiple⟩ := float.multiple nonzero
  have finer := decimalUnit_lt enough nonzero
  have binary : (0 : ℚ) < 2 ^ precision := by positivity
  -- half a unit of a number of this size is more than the difference
  have close {z : ℚ} (size : |x| ≤ 2 ^ (Int.log 2 |z| + 1)) :
      |y - x| < 2 ^ unitExponent precision least z / 2 := by
    have place := zpow_le_unit precision least z
    have less := lt_of_mul_lt_mul_right
      (finer.trans_le (size.trans place)) binary.le
    linarith
  have nearUnits := close (abs_lt_zpow x).le
  obtain ⟨positive, below, power⟩ := float.units_of_near nonzero nearUnits
  have logLe : Int.log 2 |y| ≤ Int.log 2 |x| :=
    Int.lt_add_one_iff.mp
      ((Int.lt_zpow_iff_log_lt (by decide) positive).mp below)
  rcases logLe.eq_or_lt with same | less
  · have unitEq : unitExponent precision least y =
        unitExponent precision least x := by
      rw [unitExponent, same, unitExponent]
    exact roundToFloat_eq (by rw [unitEq]; exact multiple)
      (by rw [unitEq]; exact nearUnits)
  · -- below a power of two, the unit is half as large
    have isPower :=
      power ((Int.lt_zpow_iff_log_lt (by decide) positive).mpr less)
    have half : (2 : ℚ) ^ (Int.log 2 |x| - 1) ≤ |y| := by
      have lower := abs_sub_abs_le_abs_sub x y
      have one : (1 : ℚ) ≤ 2 ^ precision := one_le_pow₀ (by norm_num)
      have unit : (0 : ℚ) < 10 ^ (Int.log 10 |x| - digits) :=
        zpow_pos (by norm_num) _
      have small := le_mul_of_one_le_right unit.le one
      rw [abs_sub_comm] at lower
      rw [zpow_sub₀ two_ne_zero, zpow_one, ← isPower]
      linarith
    have logEq : Int.log 2 |y| + 1 = Int.log 2 |x| := by
      have atLeast :=
        (Int.zpow_le_iff_le_log (b := 2) (by decide) positive).mp half
      omega
    have unitLe : unitExponent precision least y ≤
        unitExponent precision least x :=
      max_le_max (by omega) le_rfl
    obtain ⟨shift, split⟩ := Int.le.dest unitLe
    refine roundToFloat_eq (n := n * 2 ^ shift) ?_
      (close (by rw [logEq, ← isPower]))
    rw [multiple, ← split, zpow_add₀ two_ne_zero, zpow_natCast]
    push_cast
    ring

/-! ## The decimal mantissa -/

/-- The mantissa with one digit before the point and so many behind it, and the
exponent of the first. -/
def toDecimal (digits : ℕ) (x : ℚ) : ℕ × ℤ :=
  let exponent := Int.log 10 |x|
  let mantissa := (roundHalfEven (|x| / 10 ^ (exponent - digits))).natAbs
  if mantissa = 10 ^ (digits + 1) then (10 ^ digits, exponent + 1)
  else (mantissa, exponent)

/-- The number of a mantissa. -/
def ofDecimal (digits : ℕ) (decimal : ℕ × ℤ) : ℚ :=
  decimal.1 * 10 ^ (decimal.2 - digits)

theorem scaled_bounds (digits : ℕ) (nonzero : x ≠ 0) :
    (10 : ℚ) ^ digits ≤ |x| / 10 ^ (Int.log 10 |x| - digits) ∧
      |x| / 10 ^ (Int.log 10 |x| - digits) < (10 : ℚ) ^ (digits + 1) := by
  have low : (10 : ℚ) ^ Int.log 10 |x| ≤ |x| :=
    Int.zpow_log_le_self (b := 10) (by decide) (abs_pos.mpr nonzero)
  have high : |x| < (10 : ℚ) ^ (Int.log 10 |x| + 1) :=
    Int.lt_zpow_succ_log_self (b := 10) (by decide) _
  have place : (0 : ℚ) < 10 ^ (Int.log 10 |x| - digits) :=
    zpow_pos (by norm_num) _
  constructor
  · rw [le_div_iff₀ place, ← zpow_natCast, ← zpow_add₀ (by norm_num),
      show (digits : ℤ) + (Int.log 10 |x| - digits) = Int.log 10 |x| by omega]
    exact low
  · rw [div_lt_iff₀ place, ← zpow_natCast, ← zpow_add₀ (by norm_num),
      show ((digits + 1 : ℕ) : ℤ) + (Int.log 10 |x| - digits) =
        Int.log 10 |x| + 1 by omega]
    exact high

/-- The mantissa before a carry. -/
theorem exists_mantissa (digits : ℕ) (nonzero : x ≠ 0) :
    ∃ m : ℕ, roundHalfEven (|x| / 10 ^ (Int.log 10 |x| - digits)) = m ∧
      10 ^ digits ≤ m ∧ m ≤ 10 ^ (digits + 1) ∧
      |(m : ℚ) * 10 ^ (Int.log 10 |x| - digits) - (|x|)| ≤
        10 ^ (Int.log 10 |x| - digits) / 2 := by
  obtain ⟨low, high⟩ := scaled_bounds digits nonzero
  have place : (0 : ℚ) < 10 ^ (Int.log 10 |x| - digits) :=
    zpow_pos (by norm_num) _
  have restored := div_mul_cancel₀ (|x|) place.ne'
  generalize (10 : ℚ) ^ (Int.log 10 |x| - digits) = unit at *
  have rounded := abs_sub_roundHalfEven_le (|x| / unit)
  have mLow := le_roundHalfEven (n := 10 ^ digits) (by exact_mod_cast low)
  have mHigh := roundHalfEven_le (n := 10 ^ (digits + 1)) (by exact_mod_cast high)
  obtain ⟨m, mEq⟩ := Int.eq_ofNat_of_zero_le
    (le_trans (by positivity) mLow)
  rw [mEq] at mLow mHigh rounded
  refine ⟨m, mEq, by exact_mod_cast mLow, by exact_mod_cast mHigh, ?_⟩
  rw [abs_sub_comm, Int.cast_natCast] at rounded
  have product : (m : ℚ) * unit - |x| = (m - |x| / unit) * unit := by
    rw [sub_mul, restored]
  rw [product, abs_mul, abs_of_pos place]
  linarith [mul_le_mul_of_nonneg_right rounded place.le]

theorem toDecimal_spec (digits : ℕ) (nonzero : x ≠ 0) :
    10 ^ digits ≤ (toDecimal digits x).1 ∧
      (toDecimal digits x).1 < 10 ^ (digits + 1) ∧
      |ofDecimal digits (toDecimal digits x) - (|x|)| ≤
        10 ^ (Int.log 10 |x| - digits) / 2 := by
  obtain ⟨m, mEq, low, high, near⟩ := exists_mantissa digits nonzero
  have decimal : toDecimal digits x =
      if m = 10 ^ (digits + 1) then (10 ^ digits, Int.log 10 |x| + 1)
      else (m, Int.log 10 |x|) := by
    simp only [toDecimal, mEq, Int.natAbs_natCast]
  rw [decimal]
  split_ifs with carried
  · refine ⟨le_rfl, Nat.pow_lt_pow_right (by decide) (Nat.lt_succ_self _), ?_⟩
    convert near using 3
    rw [ofDecimal, carried, add_sub_right_comm, zpow_add_one₀ (by norm_num)]
    push_cast
    ring
  · exact ⟨low, by omega, near⟩

theorem log_le_toDecimal (digits : ℕ) (x : ℚ) :
    Int.log 10 |x| ≤ (toDecimal digits x).2 := by
  unfold toDecimal
  dsimp only
  split_ifs
  · exact Int.le_add_one le_rfl
  · exact le_rfl

/-- The mantissa of an integer that has not too many digits is exact. -/
theorem toDecimal_intCast {digits : ℕ} {n : ℤ}
    (few : Nat.log 10 n.natAbs ≤ digits) :
    toDecimal digits (n : ℚ) =
      (n.natAbs * 10 ^ (digits - Nat.log 10 n.natAbs),
        (Nat.log 10 n.natAbs : ℤ)) := by
  have abs : |(n : ℚ)| = (n.natAbs : ℚ) := by
    rw [Nat.cast_natAbs, Int.cast_abs]
  have log : Int.log 10 (n.natAbs : ℚ) = Nat.log 10 n.natAbs :=
    Int.log_natCast 10 n.natAbs
  have below : n.natAbs * 10 ^ (digits - Nat.log 10 n.natAbs) <
      10 ^ (digits + 1) := by
    have digit := Nat.lt_pow_succ_log_self (b := 10) (by decide) n.natAbs
    calc n.natAbs * 10 ^ (digits - Nat.log 10 n.natAbs)
        < 10 ^ (Nat.log 10 n.natAbs + 1) *
            10 ^ (digits - Nat.log 10 n.natAbs) :=
          Nat.mul_lt_mul_of_pos_right digit (by positivity)
      _ = 10 ^ (digits + 1) := by rw [← pow_add]; congr 1; omega
  have scaled : (n.natAbs : ℚ) / 10 ^ ((Nat.log 10 n.natAbs : ℤ) - digits) =
      ((n.natAbs * 10 ^ (digits - Nat.log 10 n.natAbs) : ℕ) : ℤ) := by
    rw [show (Nat.log 10 n.natAbs : ℤ) - digits =
      -((digits - Nat.log 10 n.natAbs : ℕ) : ℤ) by omega, zpow_neg,
      div_inv_eq_mul, zpow_natCast, Int.cast_natCast, Nat.cast_mul,
      Nat.cast_pow, Nat.cast_ofNat]
  have mantissa := roundHalfEven_eq (n := _) (x := (n.natAbs : ℚ) /
    10 ^ ((Nat.log 10 n.natAbs : ℤ) - digits)) (by
      rw [scaled, sub_self, abs_zero]
      norm_num)
  simp only [toDecimal, abs, log, mantissa, Int.natAbs_natCast]
  rw [if_neg below.ne]

theorem roundToFloat_ofDecimal {digits : ℕ}
    (enough : 2 ^ precision < 10 ^ digits)
    (float : IsFloat precision least x) (nonzero : x ≠ 0) :
    roundToFloat precision least
        ((if x < 0 then -1 else 1) * ofDecimal digits (toDecimal digits x)) =
      x := by
  apply roundToFloat_of_near enough float nonzero
  have near := (toDecimal_spec digits nonzero).2.2
  refine le_trans (le_of_eq ?_) near
  split_ifs with negative
  · rw [abs_of_neg negative, ← abs_neg]
    congr 1
    ring
  · rw [abs_of_nonneg (not_lt.mp negative), one_mul]

end Rounding

end BinaryFloat
