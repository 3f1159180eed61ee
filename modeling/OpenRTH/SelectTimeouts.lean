import OpenRTH.OneShotTimer

/-!
# Timeouts for `select`

The timeouts of `wait_for_data`, `sleep` and `create_server` are numbers of
milliseconds, which each function turns into a `timeval` in its own way.  The
first two go through a number of microseconds in an `int`, which holds less than
36 minutes.
-/

namespace OpenRTH

/-! ## The conversions -/

/-- The product of two `int`s; `none` when it overflows, which the language
leaves undefined. -/
def intMul (first second : Int32) : Option Int32 :=
  let product := first.toInt * second.toInt
  if Int32.minValue.toInt ≤ product ∧ product ≤ Int32.maxValue.toInt then
    some (.ofInt product)
  else none

/-- The lines after the product in `wait_for_data` and `sleep`. -/
def usecsTimeval (usecs : Int32) : Timeval where
  tvSec := (usecs / 1000000).toInt64
  tvUsec := (usecs % 1000000).toInt64

/-- What `p_timeout` points to when `NetUtil::wait_for_data` calls `select`;
`some none` is the null pointer. -/
def waitForDataTimeout (timeoutMs : Int32) : Option (Option Timeval) :=
  if timeoutMs ≠ -1 then
    (intMul timeoutMs 1000).map fun usecs => some (usecsTimeval usecs)
  else some none

/-- What `p_timeout` points to when `CSleeper::sleep` calls `select`.  The `-1`
is compared and the product is taken in `uint32_t`. -/
def sleepTimeout (timeoutMs : UInt32) : Option Timeval :=
  if timeoutMs ≠ 0xFFFFFFFF then
    let usecs := (timeoutMs * 1000).toInt32
    some (usecsTimeval usecs)
  else none

/-- The `SO_RCVTIMEO` of `UDPSock::create_server`. -/
def createServerTimeout (timeoutMs : Int32) : Option Timeval :=
  if 0 ≤ timeoutMs then
    some
      { tvSec := (timeoutMs / 1000).toInt64
        tvUsec := (timeoutMs % 1000 * 1000).toInt64 }
  else none

/-! ## Exact conversions -/

/-- A `timeval` with a proper number of microseconds that stands for a number of
milliseconds. -/
structure Timeval.Exact (timeout : Timeval) (timeoutMs : ℕ) : Prop where
  nonneg : 0 ≤ timeout.tvUsec.toInt
  proper : timeout.tvUsec.toInt < 1000000
  total : timeout.tvSec.toInt * 1000000 + timeout.tvUsec.toInt =
    1000 * timeoutMs

theorem Timeval.Exact.unique {first second : Timeval} {timeoutMs : ℕ}
    (firstExact : first.Exact timeoutMs)
    (secondExact : second.Exact timeoutMs) :
    first = second := by
  obtain ⟨firstNonneg, firstProper, firstTotal⟩ := firstExact
  obtain ⟨secondNonneg, secondProper, secondTotal⟩ := secondExact
  have seconds : first.tvSec = second.tvSec := Int64.toInt_inj.mp (by omega)
  have rest : first.tvUsec = second.tvUsec := Int64.toInt_inj.mp (by omega)
  cases first
  cases second
  exact congrArg₂ Timeval.mk seconds rest

/-- The code passes an exact `timeval`. -/
def ConvertsExactly (timeout : Option Timeval) (timeoutMs : ℕ) : Prop :=
  ∃ converted, timeout = some converted ∧ converted.Exact timeoutMs

theorem toInt_usecs_div (usecs : Int32) :
    (usecs / 1000000).toInt = usecs.toInt.tdiv 1000000 :=
  Int32.toInt_div_of_ne_right usecs 1000000 (by decide)

theorem toInt_usecs_mod (usecs : Int32) :
    (usecs % 1000000).toInt = usecs.toInt.tmod 1000000 :=
  Int32.toInt_mod usecs 1000000

theorem usecsTimeval_exact_iff (usecs : Int32) (timeoutMs : ℕ) :
    (usecsTimeval usecs).Exact timeoutMs ↔ usecs.toInt = 1000 * timeoutMs := by
  have split := Int.mul_tdiv_add_tmod usecs.toInt 1000000
  constructor
  · intro exact_
    have total := exact_.total
    simp only [usecsTimeval, Int32.toInt_toInt64, toInt_usecs_div,
      toInt_usecs_mod] at total
    omega
  · intro total
    have nonneg := Int.tmod_nonneg 1000000 (a := usecs.toInt) (by omega)
    have proper := Int.tmod_lt_of_pos usecs.toInt (b := 1000000) (by omega)
    constructor <;>
      simp only [usecsTimeval, Int32.toInt_toInt64, toInt_usecs_div,
        toInt_usecs_mod] <;>
      omega

/-! ## How far the conversions are exact -/

/-- `create_server` converts every timeout exactly. -/
theorem createServerTimeout_exact {timeoutMs : Int32}
    (nonneg : 0 ≤ timeoutMs) :
    ConvertsExactly (createServerTimeout timeoutMs)
      timeoutMs.toInt.toNat := by
  have positive : 0 ≤ timeoutMs.toInt := Int32.le_iff_toInt_le.mp nonneg
  have seconds : (timeoutMs / 1000).toInt = timeoutMs.toInt.tdiv 1000 :=
    Int32.toInt_div_of_ne_right timeoutMs 1000 (by decide)
  have split := Int.mul_tdiv_add_tmod timeoutMs.toInt 1000
  have restNonneg := Int.tmod_nonneg 1000 positive
  have restLt := Int.tmod_lt_of_pos timeoutMs.toInt (b := 1000) (by omega)
  have rest : (timeoutMs % 1000 * 1000).toInt =
      timeoutMs.toInt.tmod 1000 * 1000 := by
    rw [Int32.toInt_mul, Int32.toInt_mod,
      show (1000 : Int32).toInt = 1000 from rfl]
    exact Int.bmod_eq_of_le (by omega) (by omega)
  refine ⟨_, if_pos nonneg, ?_⟩
  constructor <;> simp only [Int32.toInt_toInt64, seconds, rest] <;> omega

/-- The microseconds of `wait_for_data` fit up to 2147483 milliseconds. -/
theorem waitForDataTimeout_exact_iff {timeoutMs : Int32}
    (nonneg : 0 ≤ timeoutMs) :
    ConvertsExactly (waitForDataTimeout timeoutMs).join
        timeoutMs.toInt.toNat ↔
      timeoutMs.toInt ≤ 2147483 := by
  have positive : 0 ≤ timeoutMs.toInt := Int32.le_iff_toInt_le.mp nonneg
  have finite : timeoutMs ≠ -1 := by
    rintro rfl
    exact absurd nonneg (by decide)
  have thousand : (1000 : Int32).toInt = 1000 := rfl
  have least : Int32.minValue.toInt = -2147483648 := rfl
  have greatest : Int32.maxValue.toInt = 2147483647 := rfl
  rw [waitForDataTimeout, if_pos finite, intMul, thousand, least, greatest]
  split_ifs with fits
  · have product : (Int32.ofInt (timeoutMs.toInt * 1000)).toInt =
        timeoutMs.toInt * 1000 :=
      Int32.toInt_ofInt_of_le (by omega) (by omega)
    have exact_ := (usecsTimeval_exact_iff
      (Int32.ofInt (timeoutMs.toInt * 1000)) timeoutMs.toInt.toNat).mpr
        (by rw [product]; omega)
    exact iff_of_true ⟨_, rfl, exact_⟩ (by omega)
  · refine iff_of_false ?_ (by omega)
    rintro ⟨_, converted, -⟩
    cases converted

/-- Up to there `wait_for_data` and `create_server` convert alike. -/
theorem waitForDataTimeout_eq_createServerTimeout {timeoutMs : Int32}
    (nonneg : 0 ≤ timeoutMs) (fits : timeoutMs.toInt ≤ 2147483) :
    (waitForDataTimeout timeoutMs).join = createServerTimeout timeoutMs := by
  obtain ⟨waited, passed, waitedExact⟩ :=
    (waitForDataTimeout_exact_iff nonneg).mpr fits
  obtain ⟨served, set, servedExact⟩ := createServerTimeout_exact nonneg
  rw [passed, set, waitedExact.unique servedExact]

/-- The product of `sleep` keeps its value as an `int` up to 2147483
milliseconds. -/
theorem sleepTimeout_exact_iff {timeoutMs : UInt32}
    (finite : timeoutMs ≠ 0xFFFFFFFF) :
    ConvertsExactly (sleepTimeout timeoutMs) timeoutMs.toNat ↔
      timeoutMs.toNat ≤ 2147483 := by
  have usecs : (timeoutMs * 1000).toInt32.toInt =
      ((timeoutMs.toNat * 1000 % 2 ^ 32 : ℕ) : ℤ).bmod (2 ^ 32) := by
    refine (BitVec.toInt_eq_toNat_bmod _).trans ?_
    rfl
  have converted : ConvertsExactly (sleepTimeout timeoutMs) timeoutMs.toNat ↔
      (usecsTimeval (timeoutMs * 1000).toInt32).Exact timeoutMs.toNat := by
    rw [sleepTimeout, if_pos finite]
    exact ⟨fun ⟨_, same, exact_⟩ => Option.some.inj same ▸ exact_,
      fun exact_ => ⟨_, rfl, exact_⟩⟩
  rw [converted, usecsTimeval_exact_iff, usecs, Int.bmod_def]
  split_ifs <;> omega

/-- `wait_for_data` and `sleep` pass an exact `timeval` to `select` for no more
than 2147483 milliseconds; `create_server` converts every timeout exactly. -/
theorem selectTimeouts_exact_iff (waitMs : Int32) (nonneg : 0 ≤ waitMs)
    (sleepMs : UInt32) (finite : sleepMs ≠ 0xFFFFFFFF) :
    (ConvertsExactly (waitForDataTimeout waitMs).join waitMs.toInt.toNat ↔
      waitMs.toInt ≤ 2147483) ∧
    (ConvertsExactly (sleepTimeout sleepMs) sleepMs.toNat ↔
      sleepMs.toNat ≤ 2147483) ∧
    ConvertsExactly (createServerTimeout waitMs) waitMs.toInt.toNat :=
  ⟨waitForDataTimeout_exact_iff nonneg, sleepTimeout_exact_iff finite,
    createServerTimeout_exact nonneg⟩

/-- The longest exact timeout. -/
theorem selectTimeouts_exact_longest :
    ConvertsExactly (waitForDataTimeout 2147483).join 2147483 ∧
      ConvertsExactly (sleepTimeout 2147483) 2147483 :=
  have exact_ := selectTimeouts_exact_iff 2147483 (by decide) 2147483
    (by decide)
  ⟨exact_.1.mpr (by decide), exact_.2.1.mpr (by decide)⟩

/-- A millisecond more overflows in `wait_for_data` and becomes a negative
timeout in `sleep`, where more than 71 minutes become less than a
millisecond. -/
theorem selectTimeouts_not_exact :
    ¬ ConvertsExactly (waitForDataTimeout 2147484).join 2147484 ∧
      ¬ ConvertsExactly (sleepTimeout 2147484) 2147484 ∧
      sleepTimeout 2147484 = some ⟨-2147, -483296⟩ ∧
      sleepTimeout 4294968 = some ⟨0, 704⟩ := by
  have overflow : (waitForDataTimeout 2147484).join = none := by decide
  have negative : sleepTimeout 2147484 = some ⟨-2147, -483296⟩ := by decide
  refine ⟨?_, ?_, negative, by decide⟩
  · rintro ⟨timeout, converted, -⟩
    rw [overflow] at converted
    cases converted
  · rintro ⟨timeout, converted, exact_⟩
    rw [negative] at converted
    obtain rfl := Option.some.inj converted
    exact absurd exact_.nonneg (by decide)

end OpenRTH
