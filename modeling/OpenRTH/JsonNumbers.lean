import OpenRTH.JsonTokens

/-!
# Written numbers as tokens

The reader finds the end of every number that the writer makes.  It decodes an
integer as an integer, of the type that its size tells, and a real as a real,
unless the text of the real looks like an integer.
-/

namespace OpenRTH

/-! ## Tokens -/

/-- What may stand behind a value. -/
def EndsValue (rest : CString) : Prop :=
  ∀ first ∈ rest.head?, first = ',' ∨ first = ']' ∨ first = '}'

namespace EndsValue

variable {rest : CString}

theorem not_isDigit (ends : EndsValue rest) :
    ∀ first ∈ rest.head?, first.isDigit = false := by
  intro first head
  rcases ends first head with rfl | rfl | rfl <;> decide

theorem head?_ne (ends : EndsValue rest) {symbol : Char}
    (other : symbol ≠ ',' ∧ symbol ≠ ']' ∧ symbol ≠ '}') :
    rest.head? ≠ some symbol := by
  intro head
  rcases ends symbol head with rfl | rfl | rfl <;> simp_all

end EndsValue

theorem dropWhile_isDigit_of_stops {rest : CString}
    (stops : ∀ first ∈ rest.head?, first.isDigit = false) :
    rest.dropWhile Char.isDigit = rest :=
  (takeWhile_isDigit (List.forall_mem_nil _) stops).2

theorem readNumber_exponentText {exponent : Option (Bool × CString)}
    (exponentDigits : ∀ part ∈ exponent,
      part.2 ≠ [] ∧ ∀ symbol ∈ part.2, symbol.isDigit)
    {rest : CString} (ends : EndsValue rest) :
    readNumber (DecimalText.exponentText exponent ++ rest) = rest := by
  cases exponent with
  | none =>
      have whole := dropWhile_isDigit_of_stops ends.not_isDigit
      have noPoint := @EndsValue.head?_ne rest ends '.' (by decide)
      have noMark := @EndsValue.head?_ne rest ends 'e' (by decide)
      have noCapital := @EndsValue.head?_ne rest ends 'E' (by decide)
      simp [DecimalText.exponentText, readNumber, whole, noPoint, noMark,
        noCapital]
  | some part =>
      obtain ⟨negative, digits⟩ := part
      obtain ⟨-, drop⟩ := takeWhile_isDigit (exponentDigits _ rfl).2
        ends.not_isDigit
      cases negative <;>
        simpa [DecimalText.exponentText, readNumber] using drop

theorem readNumber_digits {digits : CString}
    (allDigits : ∀ symbol ∈ digits, symbol.isDigit) {rest : CString}
    (stops : ∀ first ∈ rest.head?, first.isDigit = false) :
    readNumber (digits ++ rest) = readNumber rest := by
  have all := (takeWhile_isDigit allDigits stops).2
  have none := dropWhile_isDigit_of_stops stops
  rw [readNumber, readNumber, all, none]

theorem readNumber_fractionText {fraction : CString}
    (allDigits : ∀ symbol ∈ fraction, symbol.isDigit) {rest : CString}
    (stops : ∀ first ∈ rest.head?, first.isDigit = false ∧ first ≠ '.') :
    readNumber (DecimalText.fractionText fraction ++ rest) =
      readNumber rest := by
  unfold DecimalText.fractionText
  split_ifs with empty
  · rfl
  · have noDigit : ∀ first ∈ rest.head?, first.isDigit = false :=
      fun first head => (stops first head).1
    have noPoint : rest.head? ≠ some '.' := fun head => (stops '.' head).2 rfl
    have all := (takeWhile_isDigit allDigits noDigit).2
    have none := dropWhile_isDigit_of_stops noDigit
    simp [readNumber, all, none, noPoint]

theorem EndsValue.head?_exponentText {rest : CString} (ends : EndsValue rest)
    (exponent : Option (Bool × CString)) :
    ∀ first ∈ (DecimalText.exponentText exponent ++ rest).head?,
      first.isDigit = false ∧ first ≠ '.' := by
  cases exponent with
  | none =>
      exact fun first head => ⟨ends.not_isDigit first head,
        fun point => ends.head?_ne (by decide) (point ▸ head)⟩
  | some part => rintro first ⟨⟩; decide

theorem EndsValue.head?_fractionText {rest : CString} (ends : EndsValue rest)
    (fraction : CString) (exponent : Option (Bool × CString)) :
    ∀ first ∈ (DecimalText.fractionText fraction ++
      (DecimalText.exponentText exponent ++ rest)).head?,
      first.isDigit = false := by
  cases fraction with
  | nil => exact fun first head =>
      (ends.head?_exponentText exponent first head).1
  | cons => rintro first ⟨⟩; decide

/-- The digits of a number, its fraction and its exponent are read to their
end. -/
theorem readNumber_text (number : DecimalText) {digits : CString}
    (allDigits : ∀ symbol ∈ digits, symbol.isDigit) {rest : CString}
    (ends : EndsValue rest) :
    readNumber (digits ++ (DecimalText.fractionText number.fraction ++
      (DecimalText.exponentText number.exponent ++ rest))) = rest := by
  rw [readNumber_digits allDigits (ends.head?_fractionText _ _),
    readNumber_fractionText number.fraction_digits
      (ends.head?_exponentText _),
    readNumber_exponentText number.exponent_digits ends]

theorem readToken_number (number : DecimalText) {rest : CString}
    (ends : EndsValue rest) :
    readToken (number.text ++ rest) = (⟨.number, number.text⟩, rest) := by
  have tailDigits : ∀ symbol ∈ number.whole.tail, symbol.isDigit :=
    fun symbol member =>
      number.whole_digits symbol (List.mem_of_mem_tail member)
  have behind := readNumber_text number tailDigits ends
  have whole := readNumber_text number number.whole_digits ends
  obtain ⟨first, others, same⟩ :=
    List.exists_cons_of_ne_nil number.whole_nonempty
  have digit : first.isDigit := number.whole_digits first (by simp [same])
  have other (symbol : Char) (noDigit : symbol.isDigit = false) :
      first ≠ symbol := by
    rintro rfl
    simp [digit] at noDigit
  rw [same, List.tail_cons] at behind
  unfold DecimalText.text
  cases number.negative with
  | true =>
      refine readToken_of_readSymbols (by decide) ?_
      simpa [readSymbols] using whole
  | false =>
      rw [same, DecimalText.signText, if_neg (by decide), List.nil_append]
      refine readToken_of_readSymbols ?_ ?_
      · simp [isJsonSpace, other]
      · simpa [readSymbols, digit, other] using behind

/-! ## Integers -/

theorem le_ofDigitChars (digits : CString) (value : ℕ) :
    value ≤ Nat.ofDigitChars 10 digits value := by
  induction digits generalizing value with
  | nil => simp
  | cons symbol digits ih =>
      rw [Nat.ofDigitChars_cons]
      have := ih (10 * value + (symbol.toNat - '0'.toNat))
      omega

/-- A number in the range of its type is decoded digit by digit. -/
theorem decodeDigits_eq {maxIntegerValue : ℕ} (large : 10 ≤ maxIntegerValue)
    {digits : CString} (allDigits : ∀ symbol ∈ digits, symbol.isDigit)
    {value : ℕ} (fits : Nat.ofDigitChars 10 digits value ≤ maxIntegerValue) :
    decodeDigits maxIntegerValue value digits =
      some (Nat.ofDigitChars 10 digits value) := by
  induction digits generalizing value with
  | nil => simp [decodeDigits]
  | cons symbol digits ih =>
      obtain ⟨digit, others⟩ := List.forall_mem_cons.mp allDigits
      rw [Nat.ofDigitChars_cons] at fits
      rw [decodeDigits, if_pos digit, Nat.ofDigitChars_cons,
        ← ih others fits, mul_comm value]
      dsimp only
      refine if_neg fun overflow => ?_
      obtain ⟨high, full⟩ := overflow
      have next := le_ofDigitChars digits
        (10 * value + (symbol.toNat - '0'.toNat))
      rcases full with full | full | full
      · omega
      · obtain ⟨second, digits, rfl⟩ := List.exists_cons_of_ne_nil full
        rw [Nat.ofDigitChars_cons] at fits
        have more := le_ofDigitChars digits
          (10 * (10 * value + (symbol.toNat - '0'.toNat)) +
            (second.toNat - '0'.toNat))
        omega
      · omega

theorem decodeDigits_eq_none {maxIntegerValue : ℕ} {text : CString}
    (other : ∃ symbol ∈ text, symbol.isDigit = false) (value : ℕ) :
    decodeDigits maxIntegerValue value text = none := by
  obtain ⟨symbol, member, noDigit⟩ := other
  induction text generalizing value with
  | nil => cases member
  | cons first text ih =>
      rw [decodeDigits]
      split_ifs with digit
      · cases member with
        | head => rw [noDigit] at digit; cases digit
        | tail _ member =>
            dsimp only
            split_ifs
            · rfl
            · exact ih _ member
      · rfl

/-- The value that is decoded from an integer. -/
def JsonValue.ofInteger (number : ℤ) : JsonValue :=
  if number ≤ 2 ^ 31 - 1 then .int (Int64.ofInt number)
  else .uint (UInt64.ofNat number.toNat)

theorem decodeNumber_decimal {number : ℤ} (least : -2 ^ 63 ≤ number)
    (greatest : number ≤ 2 ^ 64 - 1) :
    decodeNumber (decimal number) = some (.ofInteger number) := by
  have digits := isDigit_toDigits number.natAbs
  have value : Nat.ofDigitChars 10 (Nat.toDigits 10 number.natAbs) 0 =
      number.natAbs := Nat.ofDigitChars_ten_toDigits
  unfold decimal JsonValue.ofInteger
  split_ifs with negative
  · have read := @decodeDigits_eq (2 ^ 63) (by decide) _ digits 0
      (by rw [value]; omega)
    rw [decodeNumber, List.head?_cons, if_pos rfl, List.tail_cons, read, value]
    dsimp only
    rw [show -(number.natAbs : ℤ) = number by omega]
  · omega
  all_goals
    have read := @decodeDigits_eq (2 ^ 64 - 1) (by decide) _ digits 0
      (by rw [value]; omega)
    have noSign : (Nat.toDigits 10 number.natAbs).head? ≠ some '-' := by
      intro head
      have digit := digits '-' (List.mem_of_head? head)
      cases digit
    rw [decodeNumber, if_neg noSign, read, value]
    dsimp only
  · rw [if_pos (by omega), ← Int64.ofInt_eq_ofNat,
      Int.natAbs_of_nonneg (not_lt.mp negative)]
  · rw [if_neg (by omega), show number.natAbs = number.toNat by omega]

theorem decodeNumber_eq_decodeDouble {text : CString}
    (other : ∃ symbol ∈ text.tail, symbol.isDigit = false) :
    decodeNumber text = decodeDouble text := by
  have inText : ∃ symbol ∈ text, symbol.isDigit = false := by
    obtain ⟨symbol, member, noDigit⟩ := other
    exact ⟨symbol, List.mem_of_mem_tail member, noDigit⟩
  rw [decodeNumber, decodeDigits_eq_none other, decodeDigits_eq_none inText]
  split_ifs <;> rfl

theorem decodeNumber_of_real {number : DecimalText}
    (real : number.fraction ≠ [] ∨ number.exponent ≠ none) :
    decodeNumber number.text = decodeDouble number.text := by
  have other : ∃ symbol ∈ DecimalText.fractionText number.fraction ++
      DecimalText.exponentText number.exponent, symbol.isDigit = false := by
    rcases real with fraction | exponent
    · exact ⟨'.', by simp [DecimalText.fractionText, fraction], rfl⟩
    · obtain ⟨part, same⟩ := Option.ne_none_iff_exists'.mp exponent
      exact ⟨'e', by simp [same, DecimalText.exponentText], rfl⟩
  obtain ⟨symbol, member, noDigit⟩ := other
  have nonempty : DecimalText.signText number.negative ++ number.whole ≠ [] :=
    List.append_ne_nil_of_right_ne_nil _ number.whole_nonempty
  refine decodeNumber_eq_decodeDouble ⟨symbol, ?_, noDigit⟩
  rw [DecimalText.text, ← List.append_assoc,
    List.tail_append_of_ne_nil nonempty]
  exact List.mem_append_right _ member

/-! ## The numbers of a value -/

/-- The text of an integer as that of a decimal number. -/
def integerText (number : ℤ) : DecimalText where
  negative := number < 0
  whole := Nat.toDigits 10 number.natAbs
  fraction := []
  exponent := none
  whole_nonempty := Nat.toDigits_ne_nil
  whole_digits := isDigit_toDigits number.natAbs
  fraction_digits := by simp
  exponent_digits := DecimalText.exponent_none

theorem text_integerText (number : ℤ) :
    (integerText number).text = decimal number := by
  unfold decimal
  split_ifs with negative <;>
    simp [integerText, DecimalText.text, DecimalText.signText,
      DecimalText.fractionText, DecimalText.exponentText, negative]

theorem readToken_decimal (number : ℤ) {rest : CString}
    (ends : EndsValue rest) :
    readToken (decimal number ++ rest) = (⟨.number, decimal number⟩, rest) := by
  rw [← text_integerText]
  exact readToken_number _ ends

/-- The value that is decoded from the text of a real. -/
def JsonValue.ofReal (number : ℚ) : JsonValue :=
  if number.den = 1 ∧ number.num.natAbs < 10 ^ 17 then .ofInteger number.num
  else .real number

theorem text_printedDouble_of_integer {number : ℚ} (integer : number.den = 1)
    (small : number.num.natAbs < 10 ^ 17) :
    (printedDouble number).text = decimal number.num := by
  have same : number = number.num :=
    ((Rat.den_eq_one_iff number).mp integer).symm
  rw [same, Rat.num_intCast, text_printedDouble_intCast small]
  unfold decimal
  split_ifs with negative <;> simp [DecimalText.signText, negative]

theorem decodeNumber_printedDouble {number : ℚ} (double : IsDouble number) :
    decodeNumber (printedDouble number).text = some (.ofReal number) := by
  unfold JsonValue.ofReal
  split_ifs with integer
  · obtain ⟨whole, small⟩ := integer
    rw [text_printedDouble_of_integer whole small]
    exact decodeNumber_decimal (by omega) (by omega)
  · have real : (printedDouble number).fraction ≠ [] ∨
        (printedDouble number).exponent ≠ none := by
      by_contra plain
      rw [not_or, not_ne_iff, not_ne_iff] at plain
      obtain ⟨n, rfl, small⟩ :=
        exists_intCast_of_printedDouble double plain.1 plain.2
      exact integer ⟨Rat.den_intCast n, by rwa [Rat.num_intCast]⟩
    rw [decodeNumber_of_real real, decodeDouble,
      readDouble_printedDouble double, Option.map_some]

end OpenRTH
