import Mathlib.Data.List.DropRight
import OpenRTH.BinaryFloats
import OpenRTH.Configuration

/-!
# Doubles as text

What `snprintf` makes of a `double` with the format `%.17g`, and what a stream
reads from the text of a number.  Seventeen digits are enough: every double is
read back from its text.
-/

namespace OpenRTH

/-! ## Decimal numbers -/

/-- A decimal number as it is written: a sign, digits, a fraction and an
exponent with its sign. -/
structure DecimalText where
  negative : Bool
  whole : CString
  fraction : CString
  exponent : Option (Bool × CString)
  whole_nonempty : whole ≠ []
  whole_digits : ∀ symbol ∈ whole, symbol.isDigit
  fraction_digits : ∀ symbol ∈ fraction, symbol.isDigit
  exponent_digits : ∀ part ∈ exponent,
    part.2 ≠ [] ∧ ∀ symbol ∈ part.2, symbol.isDigit

namespace DecimalText

theorem exponent_none :
    ∀ part ∈ (none : Option (Bool × CString)),
      part.2 ≠ [] ∧ ∀ symbol ∈ part.2, symbol.isDigit := by
  simp

def signText (negative : Bool) : CString :=
  if negative then ['-'] else []

def fractionText (fraction : CString) : CString :=
  if fraction = [] then [] else '.' :: fraction

def exponentText : Option (Bool × CString) → CString
  | none => []
  | some (negative, digits) => 'e' :: (if negative then '-' else '+') :: digits

def text (number : DecimalText) : CString :=
  signText number.negative ++ (number.whole ++
    (fractionText number.fraction ++ exponentText number.exponent))

def signValue (negative : Bool) : ℤ :=
  if negative then -1 else 1

/-- The number of the digits with the point between them. -/
def mantissaValue (whole fraction : CString) : ℚ :=
  Nat.ofDigitChars 10 (whole ++ fraction) 0 / 10 ^ fraction.length

def exponentValue : Option (Bool × CString) → ℤ
  | none => 0
  | some (negative, digits) =>
      signValue negative * Nat.ofDigitChars 10 digits 0

def value (number : DecimalText) : ℚ :=
  signValue number.negative * mantissaValue number.whole number.fraction *
    10 ^ exponentValue number.exponent

end DecimalText

/-! ## Reading a number -/

/-- The exponent, which has to be the rest of the text. -/
def readExponent : CString → Option ℤ
  | [] => some 0
  | mark :: rest =>
      if mark = 'e' ∨ mark = 'E' then
        let negative := rest.head? = some '-'
        let digits :=
          if negative ∨ rest.head? = some '+' then rest.tail else rest
        if digits ≠ [] ∧ digits.all Char.isDigit then
          some (DecimalText.signValue negative *
            Nat.ofDigitChars 10 digits 0)
        else none
      else none

/-- The exact value of a number without a sign. -/
def readUnsigned (text : CString) : Option ℚ :=
  let whole := text.takeWhile Char.isDigit
  let behind := text.dropWhile Char.isDigit
  let fraction :=
    if behind.head? = some '.' then behind.tail.takeWhile Char.isDigit else []
  let rest :=
    if behind.head? = some '.' then behind.tail.dropWhile Char.isDigit
    else behind
  if whole ++ fraction = [] then none
  else (readExponent rest).map fun exponent =>
    DecimalText.mantissaValue whole fraction * 10 ^ exponent

/-- The exact value of the text of a number. -/
def readDecimal (text : CString) : Option ℚ :=
  if text.head? = some '-' then (readUnsigned text.tail).map (-·)
  else readUnsigned text

/-- `is >> value` of a `double`: the nearest one, unless it is too large. -/
def readDouble (text : CString) : Option ℚ :=
  (readDecimal text).bind fun value =>
    let rounded := BinaryFloat.roundToFloat 53 (-1074) value
    if |rounded| < 2 ^ 1024 then some rounded else none

section Reading

theorem takeWhile_isDigit {digits : CString}
    (allDigits : ∀ symbol ∈ digits, symbol.isDigit) {rest : CString}
    (stops : ∀ first ∈ rest.head?, first.isDigit = false) :
    (digits ++ rest).takeWhile Char.isDigit = digits ∧
      (digits ++ rest).dropWhile Char.isDigit = rest := by
  rw [List.takeWhile_append_of_pos allDigits,
    List.dropWhile_append_of_pos allDigits]
  cases rest with
  | nil => simp
  | cons first rest =>
      have noDigit := stops first rfl
      simp [noDigit]

theorem readExponent_exponentText {exponent : Option (Bool × CString)}
    (digits : ∀ part ∈ exponent,
      part.2 ≠ [] ∧ ∀ symbol ∈ part.2, symbol.isDigit) :
    readExponent (DecimalText.exponentText exponent) =
      some (DecimalText.exponentValue exponent) := by
  cases exponent with
  | none => rfl
  | some part =>
      obtain ⟨negative, text⟩ := part
      obtain ⟨nonempty, allDigits⟩ := digits _ rfl
      cases negative <;>
        simpa [DecimalText.exponentText, readExponent, nonempty,
          DecimalText.exponentValue] using allDigits

theorem DecimalText.head?_exponentText_not_isDigit
    (exponent : Option (Bool × CString)) :
    ∀ first ∈ (exponentText exponent).head?,
      first.isDigit = false ∧ first ≠ '.' := by
  cases exponent with
  | none => simp [exponentText]
  | some part => rintro first ⟨⟩; decide

theorem DecimalText.head?_rest_not_isDigit (fraction : CString)
    (exponent : Option (Bool × CString)) :
    ∀ first ∈ (fractionText fraction ++ exponentText exponent).head?,
      first.isDigit = false := by
  cases fraction with
  | nil => exact fun first head =>
      (head?_exponentText_not_isDigit exponent first head).1
  | cons => rintro first ⟨⟩; decide

theorem readUnsigned_text (number : DecimalText) :
    readUnsigned (number.whole ++ (DecimalText.fractionText number.fraction ++
        DecimalText.exponentText number.exponent)) =
      some (DecimalText.mantissaValue number.whole number.fraction *
        10 ^ DecimalText.exponentValue number.exponent) := by
  obtain ⟨whole, behind⟩ := takeWhile_isDigit number.whole_digits
    (DecimalText.head?_rest_not_isDigit number.fraction number.exponent)
  have exponent := readExponent_exponentText number.exponent_digits
  have afterDigits :=
    DecimalText.head?_exponentText_not_isDigit number.exponent
  have digits : number.whole ++ number.fraction ≠ [] :=
    List.append_ne_nil_of_left_ne_nil number.whole_nonempty _
  unfold readUnsigned
  simp only [whole, behind]
  by_cases empty : number.fraction = []
  · have noPoint : (DecimalText.exponentText number.exponent).head? ≠
        some '.' := fun head => (afterDigits '.' head).2 rfl
    simp [DecimalText.fractionText, empty, noPoint, number.whole_nonempty,
      exponent]
  · obtain ⟨fraction, rest⟩ := takeWhile_isDigit number.fraction_digits
      fun first head => (afterDigits first head).1
    simp [DecimalText.fractionText, empty, fraction, rest,
      number.whole_nonempty, exponent]

theorem readDecimal_text (number : DecimalText) :
    readDecimal number.text = some number.value := by
  have unsigned := readUnsigned_text number
  unfold readDecimal DecimalText.text DecimalText.value
  cases number.negative with
  | true => simp [DecimalText.signText, unsigned, DecimalText.signValue]
  | false =>
      obtain ⟨first, others, same⟩ :=
        List.exists_cons_of_ne_nil number.whole_nonempty
      have notMinus : first ≠ '-' := by
        rintro rfl
        have digit := number.whole_digits '-' (by simp [same])
        cases digit
      rw [same] at unsigned ⊢
      simpa [DecimalText.signText, DecimalText.signValue, notMinus] using
        unsigned

end Reading

/-! ## Printing a double -/

/-- The values of a `double` that is finite. -/
def IsDouble (x : ℚ) : Prop :=
  BinaryFloat.IsFloat 53 (-1074) x ∧ |x| < 2 ^ 1024

theorem isDouble_div_two_pow {n : ℤ} (small : |n| < 2 ^ 53) {places : ℕ}
    (few : places ≤ 1074) : IsDouble (n / 2 ^ places) := by
  refine ⟨⟨n, -places, small, by omega, ?_⟩, ?_⟩
  · rw [zpow_neg, zpow_natCast, div_eq_mul_inv]
  · have smallRat : |(n : ℚ)| < 2 ^ 53 := by exact_mod_cast small
    have unit : (1 : ℚ) ≤ 2 ^ places := one_le_pow₀ (by norm_num)
    rw [abs_div, abs_of_pos (show (0 : ℚ) < 2 ^ places by positivity)]
    calc |(n : ℚ)| / 2 ^ places ≤ |(n : ℚ)| :=
          div_le_self (abs_nonneg _) unit
      _ < 2 ^ 53 := smallRat
      _ < 2 ^ 1024 := pow_lt_pow_right₀ (by norm_num) (by norm_num)

/-- A fraction without the zeros at its end. -/
def withoutZeros (fraction : CString) : CString :=
  fraction.rdropWhile (· = '0')

/-- At least two digits. -/
def twoDigits (number : ℕ) : CString :=
  if number < 10 then '0' :: Nat.toDigits 10 number
  else Nat.toDigits 10 number

theorem isDigit_toDigits (number : ℕ) :
    ∀ symbol ∈ Nat.toDigits 10 number, symbol.isDigit := fun _ =>
  Nat.isDigit_of_mem_toDigits (by decide) (by decide)

theorem isDigit_replicate (count : ℕ) :
    ∀ symbol ∈ List.replicate count '0', symbol.isDigit := by
  intro symbol member
  rw [List.eq_of_mem_replicate member]
  rfl

theorem isDigit_withoutZeros {fraction : CString}
    (digits : ∀ symbol ∈ fraction, symbol.isDigit) :
    ∀ symbol ∈ withoutZeros fraction, symbol.isDigit := fun symbol member =>
  digits symbol ((List.rdropWhile_prefix _ _).subset member)

theorem twoDigits_digits (number : ℕ) :
    twoDigits number ≠ [] ∧ ∀ symbol ∈ twoDigits number, symbol.isDigit := by
  have digits := isDigit_toDigits number
  unfold twoDigits
  split_ifs
  · exact ⟨List.cons_ne_nil _ _, List.forall_mem_cons.mpr ⟨rfl, digits⟩⟩
  · exact ⟨Nat.toDigits_ne_nil, digits⟩

/-- The digits of a decimal mantissa with the point behind the first `count` of
them, which are at least one. -/
def pointBehind (negative : Bool) (mantissa count : ℕ)
    (exponent : Option (Bool × CString))
    (exponent_digits : ∀ part ∈ exponent,
      part.2 ≠ [] ∧ ∀ symbol ∈ part.2, symbol.isDigit) : DecimalText where
  negative := negative
  whole := (Nat.toDigits 10 mantissa).take (count + 1)
  fraction := withoutZeros ((Nat.toDigits 10 mantissa).drop (count + 1))
  exponent := exponent
  whole_nonempty := by
    simp [Nat.toDigits_ne_nil]
  whole_digits := fun symbol member =>
    isDigit_toDigits mantissa symbol (List.mem_of_mem_take member)
  fraction_digits := isDigit_withoutZeros fun symbol member =>
    isDigit_toDigits mantissa symbol (List.mem_of_mem_drop member)
  exponent_digits := exponent_digits

theorem text_pointBehind (negative : Bool) (mantissa count : ℕ)
    (exponent : Option (Bool × CString))
    (exponent_digits : ∀ part ∈ exponent,
      part.2 ≠ [] ∧ ∀ symbol ∈ part.2, symbol.isDigit) :
    (pointBehind negative mantissa count exponent exponent_digits).text =
      DecimalText.signText negative ++
        ((Nat.toDigits 10 mantissa).take (count + 1) ++
          (DecimalText.fractionText
            (withoutZeros ((Nat.toDigits 10 mantissa).drop (count + 1))) ++
            DecimalText.exponentText exponent)) :=
  rfl

/-- The digits of a decimal mantissa behind the point and some zeros. -/
def pointBefore (negative : Bool) (mantissa zeros : ℕ) : DecimalText where
  negative := negative
  whole := ['0']
  fraction := withoutZeros
    (List.replicate zeros '0' ++ Nat.toDigits 10 mantissa)
  exponent := none
  whole_nonempty := List.cons_ne_nil _ _
  whole_digits := List.forall_mem_singleton.mpr rfl
  fraction_digits := isDigit_withoutZeros fun symbol member =>
    (List.mem_append.mp member).elim (isDigit_replicate zeros symbol)
      (isDigit_toDigits mantissa symbol)
  exponent_digits := DecimalText.exponent_none

/-- The styles of the format `%g`: an exponent is written if the number is very
small or large. -/
def printedDecimal (negative : Bool) (mantissa : ℕ) (exponent : ℤ) :
    DecimalText :=
  if -4 ≤ exponent ∧ exponent < 17 then
    if 0 ≤ exponent then
      pointBehind negative mantissa exponent.toNat none
        DecimalText.exponent_none
    else pointBefore negative mantissa (-exponent - 1).toNat
  else
    pointBehind negative mantissa 0
      (some (exponent < 0, twoDigits exponent.natAbs))
      (by rintro part ⟨⟩; exact twoDigits_digits _)

/-- What the format `%.17g` makes of a number: 17 digits without the zeros at the
end. -/
def printedDouble (x : ℚ) : DecimalText :=
  if x = 0 then pointBehind false 0 0 none DecimalText.exponent_none
  else
    printedDecimal (x < 0) (BinaryFloat.toDecimal 16 x).1
      (BinaryFloat.toDecimal 16 x).2

/-! ## Reading a printed double -/

section Printed

theorem mantissaValue_append_zeros (whole fraction : CString) (count : ℕ) :
    DecimalText.mantissaValue whole (fraction ++ List.replicate count '0') =
      DecimalText.mantissaValue whole fraction := by
  rw [DecimalText.mantissaValue, DecimalText.mantissaValue,
    ← List.append_assoc, Nat.ofDigitChars_append,
    Nat.ofDigitChars_replicate_zero, List.length_append, List.length_replicate,
    pow_add]
  push_cast
  field_simp

theorem mantissaValue_withoutZeros (whole fraction : CString) :
    DecimalText.mantissaValue whole (withoutZeros fraction) =
      DecimalText.mantissaValue whole fraction := by
  have zeros : fraction.rtakeWhile (· = '0') =
      List.replicate (fraction.rtakeWhile (· = '0')).length '0' := by
    refine List.eq_replicate_of_mem fun symbol member => ?_
    simpa using List.mem_rtakeWhile_imp member
  have split := List.rdropWhile_append_rtakeWhile
    (p := (· = '0')) (l := fraction)
  rw [zeros] at split
  conv_rhs => rw [← split]
  exact (mantissaValue_append_zeros _ _ _).symm

theorem mantissaValue_take_drop (mantissa count : ℕ) :
    DecimalText.mantissaValue ((Nat.toDigits 10 mantissa).take count)
        (withoutZeros ((Nat.toDigits 10 mantissa).drop count)) =
      mantissa / 10 ^ ((Nat.toDigits 10 mantissa).length - count) := by
  rw [mantissaValue_withoutZeros, DecimalText.mantissaValue,
    List.take_append_drop, Nat.ofDigitChars_ten_toDigits, List.length_drop]

theorem mantissaValue_zeros (mantissa zeros : ℕ) :
    DecimalText.mantissaValue ['0']
        (withoutZeros (List.replicate zeros '0' ++
          Nat.toDigits 10 mantissa)) =
      mantissa / 10 ^ (zeros + (Nat.toDigits 10 mantissa).length) := by
  have value : Nat.ofDigitChars 10
      ('0' :: (List.replicate zeros '0' ++ Nat.toDigits 10 mantissa)) 0 =
        mantissa := by
    rw [Nat.ofDigitChars_cons, Nat.ofDigitChars_append,
      Nat.ofDigitChars_replicate_zero]
    exact Nat.ofDigitChars_ten_toDigits
  rw [mantissaValue_withoutZeros, DecimalText.mantissaValue,
    List.singleton_append, value, List.length_append, List.length_replicate]

theorem twoDigits_value (number : ℕ) :
    Nat.ofDigitChars 10 (twoDigits number) 0 = number := by
  unfold twoDigits
  split_ifs
  · rw [Nat.ofDigitChars_cons]
    exact Nat.ofDigitChars_ten_toDigits
  · exact Nat.ofDigitChars_ten_toDigits

theorem length_toDigits {number places : ℕ} (low : 10 ^ places ≤ number)
    (high : number < 10 ^ (places + 1)) :
    (Nat.toDigits 10 number).length = places + 1 := by
  have atMost := (Nat.length_toDigits_le_iff (b := 10) (by decide)
    (by omega)).mpr high
  rcases Nat.eq_zero_or_pos places with rfl | positive
  · have nonempty := List.length_pos_of_ne_nil
      (Nat.toDigits_ne_nil (b := 10) (n := number))
    omega
  · have atLeast := mt (Nat.length_toDigits_le_iff (b := 10) (n := number)
      (by decide) positive).mp (not_lt.mpr low)
    omega

/-- The value of the text is that of the decimal mantissa. -/
theorem printedDecimal_value (negative : Bool) {mantissa : ℕ}
    (digits : (Nat.toDigits 10 mantissa).length = 17) (exponent : ℤ) :
    (printedDecimal negative mantissa exponent).value =
      DecimalText.signValue negative *
        BinaryFloat.ofDecimal 16 (mantissa, exponent) := by
  have power (places : ℕ) (same : (exponent : ℤ) - 16 = -places) :
      (mantissa : ℚ) / 10 ^ places = mantissa * 10 ^ (exponent - 16) := by
    rw [same, zpow_neg, zpow_natCast, div_eq_mul_inv]
  unfold printedDecimal BinaryFloat.ofDecimal
  split_ifs with fixed atLeastOne
  · rw [DecimalText.value, pointBehind, mantissaValue_take_drop, digits,
      power _ (by omega)]
    simp [DecimalText.exponentValue]
  · rw [DecimalText.value, pointBefore, mantissaValue_zeros, digits,
      power _ (by omega)]
    simp [DecimalText.exponentValue]
  · have exponentValue : DecimalText.signValue (decide (exponent < 0)) *
        (exponent.natAbs : ℤ) = exponent := by
      by_cases small : exponent < 0
      · rw [decide_eq_true small, DecimalText.signValue, if_pos rfl]
        omega
      · rw [decide_eq_false small, DecimalText.signValue, if_neg (by simp)]
        omega
    rw [DecimalText.value, pointBehind, mantissaValue_take_drop, digits,
      DecimalText.exponentValue, twoDigits_value, exponentValue,
      zpow_sub₀ (by norm_num)]
    norm_num
    ring

theorem roundToFloat_printedDouble {x : ℚ} (double : IsDouble x) :
    BinaryFloat.roundToFloat 53 (-1074) (printedDouble x).value = x := by
  by_cases zero : x = 0
  · have value : (printedDouble x).value = 0 := by
      rw [printedDouble, if_pos zero, DecimalText.value, pointBehind,
        mantissaValue_take_drop]
      simp
    rw [value, zero]
    simp [BinaryFloat.roundToFloat, BinaryFloat.roundHalfEven]
  · obtain ⟨low, high, -⟩ := BinaryFloat.toDecimal_spec 16 zero
    have found := BinaryFloat.roundToFloat_ofDecimal
      (show 2 ^ 53 < 10 ^ 16 by norm_num) double.1 zero
    have sign : ((DecimalText.signValue (decide (x < 0)) : ℤ) : ℚ) =
        if x < 0 then -1 else 1 := by
      by_cases negative : x < 0 <;> simp [DecimalText.signValue, negative]
    rw [printedDouble, if_neg zero, printedDecimal_value _
      (length_toDigits low high), sign]
    exact found

/-- Every double is read back from its text. -/
theorem readDouble_printedDouble {x : ℚ} (double : IsDouble x) :
    readDouble (printedDouble x).text = some x := by
  rw [readDouble, readDecimal_text, Option.bind_some]
  simp [roundToFloat_printedDouble double, double.2]

theorem isDouble_of_readDouble {text : CString} {x : ℚ}
    (read : readDouble text = some x) : IsDouble x := by
  obtain ⟨value, -, rounded⟩ := Option.bind_eq_some_iff.mp read
  dsimp only at rounded
  split_ifs at rounded with finite
  obtain rfl := Option.some.inj rounded
  exact ⟨BinaryFloat.isFloat_roundToFloat (by decide) _ _, finite⟩

/-! ## Integers -/

theorem toDigits_mul_pow {number : ℕ} (positive : 0 < number) (zeros : ℕ) :
    Nat.toDigits 10 (number * 10 ^ zeros) =
      Nat.toDigits 10 number ++ List.replicate zeros '0' := by
  induction zeros with
  | zero => simp
  | succ zeros ih =>
      have front : 0 < number * 10 ^ zeros := by positivity
      rw [List.replicate_succ', ← List.append_assoc, ← ih, pow_succ,
        ← mul_assoc, mul_comm _ 10]
      exact (Nat.toDigits_append_toDigits (b := 10) (d := 0) (by decide) front
        (by decide)).symm

/-- An integer below `10 ^ 17` is printed with all its digits and nothing
else. -/
theorem text_printedDouble_intCast {n : ℤ} (small : n.natAbs < 10 ^ 17) :
    (printedDouble (n : ℚ)).text =
      DecimalText.signText (n < 0) ++ Nat.toDigits 10 n.natAbs := by
  by_cases zero : n = 0
  · subst zero
    decide
  · have positive : 0 < n.natAbs := by omega
    have few : Nat.log 10 n.natAbs < 17 :=
      Nat.log_lt_of_lt_pow positive.ne' small
    have digits := length_toDigits
      (Nat.pow_log_le_self 10 positive.ne')
      (Nat.lt_pow_succ_log_self (b := 10) (by decide) n.natAbs)
    rw [printedDouble, if_neg (by exact_mod_cast zero),
      BinaryFloat.toDecimal_intCast (Nat.le_of_lt_succ few)]
    dsimp only
    rw [printedDecimal, if_pos (by omega), if_pos (by omega),
      text_pointBehind]
    have noZeros : withoutZeros
        (List.replicate (16 - Nat.log 10 n.natAbs) '0') = [] :=
      List.rdropWhile_eq_nil_iff.mpr fun symbol member => by
        simp [List.eq_of_mem_replicate member]
    rw [Int.toNat_natCast, toDigits_mul_pow positive, ← digits,
      List.take_left, List.drop_left, noZeros]
    simp [DecimalText.fractionText, DecimalText.exponentText]

/-- Only such integers are printed without a fraction and an exponent. -/
theorem exists_intCast_of_printedDouble {x : ℚ} (double : IsDouble x)
    (noFraction : (printedDouble x).fraction = [])
    (noExponent : (printedDouble x).exponent = none) :
    ∃ n : ℤ, x = n ∧ n.natAbs < 10 ^ 17 := by
  have value : (printedDouble x).value =
      ((DecimalText.signValue (printedDouble x).negative *
        Nat.ofDigitChars 10 (printedDouble x).whole 0 : ℤ) : ℚ) := by
    rw [DecimalText.value, noFraction, noExponent, DecimalText.mantissaValue,
      DecimalText.exponentValue]
    simp
  obtain ⟨n, rounded⟩ := BinaryFloat.exists_roundToFloat_eq 53 (-1074)
    (DecimalText.signValue (printedDouble x).negative *
      Nat.ofDigitChars 10 (printedDouble x).whole 0)
  rw [← value, roundToFloat_printedDouble double] at rounded
  refine ⟨n, rounded, ?_⟩
  by_contra large
  have positive : 0 < n.natAbs := by omega
  have abs : |x| = (n.natAbs : ℚ) := by
    rw [rounded, Nat.cast_natAbs, Int.cast_abs]
  have log : 17 ≤ Int.log 10 |x| := by
    rw [abs, Int.log_natCast]
    exact_mod_cast Nat.le_log_of_pow_le (by decide) (not_lt.mp large)
  have nonzero : x ≠ 0 := by
    rw [rounded]
    exact_mod_cast Int.natAbs_pos.mp positive
  have exponent := log.trans (BinaryFloat.log_le_toDecimal 16 x)
  rw [printedDouble, if_neg nonzero, printedDecimal, if_neg (by omega)]
    at noExponent
  cases noExponent

end Printed

example : (printedDouble (-11.625)).text = "-11.625".toList := by
  decide +kernel

end OpenRTH
