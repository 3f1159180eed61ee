import OpenRTH.HexCodec
import Mathlib.Algebra.Order.Ring.Int

/-!
# Integers of the configuration

`s_to_i` copies a value into an array of 100 bytes, leaving out its digit
separators, and hands the copy to `strtol` with base 0.  The array is never
overrun, and every `int` is read back from its decimal digits, wherever the
separators stand.
-/

namespace OpenRTH

/-! ## `strtol` -/

/-- The width of `long`. -/
structure LongWidth where
  bits : ℕ
  wide : 32 ≤ bits

/-- `LONG_MIN`. -/
def LongWidth.min (long : LongWidth) : ℤ :=
  -2 ^ (long.bits - 1)

/-- `LONG_MAX`. -/
def LongWidth.max (long : LongWidth) : ℤ :=
  2 ^ (long.bits - 1) - 1

/-- The number that the leading digits of a base add to a number. -/
def leadingNumber (base : ℕ) : ℕ → CString → ℕ
  | number, [] => number
  | number, symbol :: text =>
      match hexDigitValue symbol with
      | none => number
      | some digit =>
          if digit < base then leadingNumber base (base * number + digit) text
          else number

/-- The number behind the sign, whose prefix tells its base. -/
def unsignedNumber (text : CString) : ℕ :=
  if text.head? = some '0' then
    if text.tail.head? = some 'x' ∨ text.tail.head? = some 'X' then
      leadingNumber 16 0 text.tail.tail
    else leadingNumber 8 0 text.tail
  else leadingNumber 10 0 text

/-- `strtol` with base 0: white space, a sign and a number, or 0; a number out
of range gives the nearest `long`. -/
def strtol (long : LongWidth) (text : CString) : ℤ :=
  let number : ℤ :=
    match text.dropWhile isSpace with
    | [] => 0
    | first :: rest =>
        if first = '-' then -unsignedNumber rest
        else if first = '+' then unsignedNumber rest
        else unsignedNumber (first :: rest)
  max long.min (min number long.max)

/-! ## Decimal numbers -/

/-- The decimal digits of an integer, with a sign if it is negative. -/
def decimal (number : ℤ) : CString :=
  if number < 0 then '-' :: Nat.toDigits 10 number.natAbs
  else Nat.toDigits 10 number.natAbs

theorem hexDigitValue_of_isDigit {symbol : Char} (digit : symbol.isDigit) :
    hexDigitValue symbol = some (symbol.toNat - '0'.toNat) ∧
      symbol.toNat - '0'.toNat < 10 := by
  obtain ⟨low, high⟩ := Char.isDigit_iff_toNat.mp digit
  have decimal : '0' ≤ symbol ∧ symbol ≤ '9' := ⟨low, high⟩
  simp only [Char.reduceToNat] at low high ⊢
  exact ⟨if_pos decimal, by omega⟩

theorem leadingNumber_eq_ofDigitChars {text : CString}
    (digits : ∀ symbol ∈ text, symbol.isDigit) (number : ℕ) :
    leadingNumber 10 number text = Nat.ofDigitChars 10 text number := by
  induction text generalizing number with
  | nil => simp [leadingNumber]
  | cons symbol text ih =>
      obtain ⟨value, small⟩ :=
        hexDigitValue_of_isDigit (digits symbol List.mem_cons_self)
      rw [leadingNumber, value]
      dsimp only
      rw [if_pos small, Nat.ofDigitChars_cons]
      exact ih (fun other member =>
        digits other (List.mem_cons_of_mem _ member)) _

theorem head_toDigits_ne_zero {number : ℕ} (positive : 0 < number) :
    (Nat.toDigits 10 number).head? ≠ some '0' := by
  induction number using Nat.base_induction 10 (by decide) with
  | single digit small =>
      rw [Nat.toDigits_of_lt_base small, List.head?_cons]
      intro zero
      have code := congrArg Char.toNat (Option.some.inj zero)
      rw [Nat.toNat_digitChar_of_lt_ten small] at code
      simp only [Char.reduceToNat] at code
      omega
  | digit front last small frontPositive ih =>
      rw [← Nat.toDigits_append_toDigits (by decide) frontPositive small,
        List.head?_append_of_ne_nil _ Nat.toDigits_ne_nil]
      exact ih frontPositive

theorem unsignedNumber_toDigits (number : ℕ) :
    unsignedNumber (Nat.toDigits 10 number) = number := by
  rcases Nat.eq_zero_or_pos number with rfl | positive
  · rfl
  · rw [unsignedNumber, if_neg (head_toDigits_ne_zero positive),
      leadingNumber_eq_ofDigitChars fun symbol member =>
        Nat.isDigit_of_mem_toDigits (by decide) (by decide) member,
      Nat.ofDigitChars_ten_toDigits]

theorem exists_toDigits_eq_cons (number : ℕ) :
    ∃ first rest, Nat.toDigits 10 number = first :: rest ∧
      isSpace first = false ∧ first ≠ '+' ∧ first ≠ '-' := by
  obtain ⟨first, rest, split⟩ := List.exists_cons_of_ne_nil
    (Nat.toDigits_ne_nil (n := number) (b := 10))
  have digit : first.isDigit :=
    Nat.isDigit_of_mem_toDigits (b := 10) (n := number) (by decide) (by decide)
      (by rw [split]; exact List.mem_cons_self)
  have hexDigit : isHexDigit first = true := by
    rw [isHexDigit, (hexDigitValue_of_isDigit digit).1]
    rfl
  obtain ⟨notSpace, notPlus, notMinus, -⟩ := hexDigit_plain hexDigit
  exact ⟨first, rest, split, notSpace, notPlus, notMinus⟩

/-- `strtol` reads back the decimal digits of every `long`. -/
theorem strtol_decimal {long : LongWidth} {number : ℤ}
    (least : long.min ≤ number) (greatest : number ≤ long.max) :
    strtol long (decimal number) = number := by
  have inRange : max long.min (min number long.max) = number := by
    rw [min_eq_left greatest, max_eq_right least]
  unfold strtol decimal
  split_ifs with negative
  · have minus : isSpace '-' = false := by decide
    rw [List.dropWhile_cons_of_neg (by simp [minus])]
    dsimp only
    rw [if_pos rfl, unsignedNumber_toDigits]
    rwa [show -(number.natAbs : ℤ) = number by omega]
  · obtain ⟨first, rest, split, notSpace, notPlus, notMinus⟩ :=
      exists_toDigits_eq_cons number.natAbs
    rw [split, List.dropWhile_cons_of_neg (by simp [notSpace])]
    dsimp only
    rw [if_neg notMinus, if_neg notPlus, ← split, unsignedNumber_toDigits]
    rwa [show (number.natAbs : ℤ) = number by omega]

/-! ## The copy without separators -/

/-- The loop of `s_to_i`, with the space that remains and the place of `out`;
`none` when a write leaves the array. -/
def sToILoop {size : ℕ} :
    CString → ℕ → ℕ → FixedBuffer Char size →
      Option (FixedBuffer Char size × ℕ)
  | [], _, out, buffer => some (buffer, out)
  | _ :: _, 0, out, buffer => some (buffer, out)
  | symbol :: rest, remaining + 1, out, buffer =>
      if symbol ≠ '_' then
        (buffer.store out [symbol]).bind (sToILoop rest remaining (out + 1))
      else sToILoop rest (remaining + 1) out buffer

/-- `s_to_i` on an uninitialised array; the result of `strtol` is converted to
`int`. -/
def sToI (long : LongWidth) (s : List Char) (buffer : FixedBuffer Char 100) :
    Option Int32 := do
  let (copied, out) ← sToILoop (cString s) 99 0 buffer
  let terminated ← copied.store out [nul]
  some (Int32.ofInt (strtol long (terminated.string nul)))

/-- The symbols that the loop copies. -/
def withoutSeparators (s : CString) : CString :=
  s.filter (· ≠ '_')

/-- The loop copies as many symbols as there is space for, and leaves room for
the NUL. -/
theorem exists_sToILoop {size : ℕ} (s : CString) (remaining out : ℕ)
    (buffer : FixedBuffer Char size) (space : out + remaining < size) :
    ∃ after copied, copied = (withoutSeparators s).take remaining ∧
      sToILoop s remaining out buffer = some (after, out + copied.length) ∧
      after.contents.take (out + copied.length) =
        buffer.contents.take out ++ copied := by
  induction s generalizing remaining out buffer with
  | nil => exact ⟨buffer, [], by simp [sToILoop, withoutSeparators]⟩
  | cons symbol s ih =>
      cases remaining with
      | zero => exact ⟨buffer, [], by simp [sToILoop]⟩
      | succ remaining =>
          rw [sToILoop]
          split_ifs with kept
          · have inside : out < size := by omega
            obtain ⟨stored, write⟩ :=
              buffer.exists_store_singleton symbol inside
            obtain ⟨after, copied, rfl, looped, contents⟩ :=
              ih remaining (out + 1) stored (by omega)
            have front := FixedBuffer.take_contents_store (by omega) write
            rw [List.length_singleton] at front
            refine ⟨after, symbol :: (withoutSeparators s).take remaining,
              ?_, ?_, ?_⟩
            · simp [withoutSeparators, kept]
            · rw [write, Option.bind_some, looped, List.length_cons,
                Nat.add_right_comm, Nat.add_assoc]
            · have next : out +
                  (symbol :: (withoutSeparators s).take remaining).length =
                    out + 1 +
                      ((withoutSeparators s).take remaining).length := by
                rw [List.length_cons]
                omega
              rw [next, contents, front, List.append_assoc,
                List.singleton_append]
          · have skips : withoutSeparators (symbol :: s) =
                withoutSeparators s := by
              simp [withoutSeparators, Decidable.not_not.mp kept]
            rw [skips]
            exact ih (remaining + 1) out buffer space

theorem nul_notMem_withoutSeparators (s : List Char) :
    nul ∉ withoutSeparators (cString s) := by
  intro member
  have inString := (List.mem_filter.mp member).1
  simpa using List.mem_takeWhile_imp inString

/-- What `s_to_i` returns: the number that `strtol` reads in the first 99
symbols that are no separators. -/
theorem sToI_eq (long : LongWidth) (s : List Char)
    (buffer : FixedBuffer Char 100) :
    sToI long s buffer =
      some (Int32.ofInt
        (strtol long ((withoutSeparators (cString s)).take 99))) := by
  obtain ⟨copied, _, rfl, looped, contents⟩ :=
    exists_sToILoop (cString s) 99 0 buffer (by omega)
  rw [Nat.zero_add] at looped contents
  rw [List.take_zero, List.nil_append] at contents
  have inside : ((withoutSeparators (cString s)).take 99).length < 100 :=
    Nat.lt_succ_of_le (List.length_take_le _ _)
  obtain ⟨terminated, write⟩ := copied.exists_store_singleton nul inside
  have string : terminated.string nul =
      (withoutSeparators (cString s)).take 99 := by
    rw [FixedBuffer.string, FixedBuffer.contents_store write, contents]
    exact cString_append_nul (fun member =>
      nul_notMem_withoutSeparators s (List.mem_of_mem_take member)) _
  simp only [sToI, looped, write, string, Option.bind_eq_bind,
    Option.bind_some]

theorem length_decimal_le (number : Int32) :
    (decimal number.toInt).length ≤ 11 := by
  have least := number.le_toInt
  have greatest := number.toInt_lt
  have digits : (Nat.toDigits 10 number.toInt.natAbs).length ≤ 10 :=
    (Nat.length_toDigits_le_iff (by decide) (by decide)).mpr (by omega)
  unfold decimal
  split_ifs
  · rw [List.length_cons]
    omega
  · omega

theorem nul_notMem_decimal (number : ℤ) : nul ∉ decimal number := by
  have noDigit : nul ∉ Nat.toDigits 10 number.natAbs := fun member =>
    absurd (Nat.isDigit_of_mem_toDigits (by decide) (by decide) member)
      (by decide)
  unfold decimal
  split_ifs
  · exact fun member => (List.mem_cons.mp member).elim (by decide) noDigit
  · exact noDigit

theorem LongWidth.contains (long : LongWidth) (number : Int32) :
    long.min ≤ number.toInt ∧ number.toInt ≤ long.max := by
  have least := number.le_toInt
  have greatest := number.toInt_lt
  have wide : (2 : ℤ) ^ 31 ≤ 2 ^ (long.bits - 1) :=
    pow_le_pow_right₀ (by decide) (by have := long.wide; omega)
  unfold LongWidth.min LongWidth.max
  omega

/-- `s_to_i` reads every `int` from its decimal digits, wherever separators have
been put between them, and never writes outside of its array. -/
theorem sToI_decimal (long : LongWidth) (buffer : FixedBuffer Char 100) :
    (∀ (number : Int32) (s : List Char),
      withoutSeparators s = decimal number.toInt →
        sToI long s buffer = some number) ∧
    ∀ s, ∃ result, sToI long s buffer = some result := by
  refine ⟨fun number s spelled => ?_, fun s => ⟨_, sToI_eq long s buffer⟩⟩
  have noNul : nul ∉ s := fun member =>
    nul_notMem_decimal number.toInt
      (spelled ▸ List.mem_filter.mpr ⟨member, by decide⟩)
  have short := length_decimal_le number
  obtain ⟨least, greatest⟩ := long.contains number
  rw [sToI_eq, cString_eq_self noNul, spelled,
    List.take_of_length_le (by omega), strtol_decimal least greatest,
    Int32.ofInt_toInt]

/-- The least `int`, with separators in all kinds of places. -/
theorem sToI_decimal_separated :
    sToI ⟨64, by decide⟩ "_-2_147_483__648_".toList
      ⟨List.replicate 100 'x', rfl⟩ = some (-2147483648) :=
  (sToI_decimal ⟨64, by decide⟩ ⟨List.replicate 100 'x', rfl⟩).1 (-2147483648)
    "_-2_147_483__648_".toList (by decide)

end OpenRTH
