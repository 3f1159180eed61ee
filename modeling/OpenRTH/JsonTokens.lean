import OpenRTH.JsonReader
import OpenRTH.JsonWriter

/-!
# Written strings as tokens

The reader finds the end of every string that the writer makes, and decodes it
to the text that was written.
-/

namespace OpenRTH

/-! ## Strings -/

/-- How a symbol is written: as it is, or behind a backslash. -/
inductive Escaped (symbol : Char) : CString → Prop
  | plain (noQuote : symbol ≠ '"') (noBackslash : symbol ≠ '\\') :
      Escaped symbol [symbol]
  | marked {mark : Char} (noCode : mark ≠ 'u')
      (decoded : unescape mark = some symbol) : Escaped symbol ['\\', mark]
  | coded (small : symbol.toNat < 32) :
      Escaped symbol ('\\' :: 'u' :: fourHexDigits symbol.toNat)

theorem escaped_escape (symbol : Char) : Escaped symbol (escape symbol) := by
  unfold escape
  split_ifs with quote backslash backspace formFeed lineFeed carriage tab
    control
  · exact .marked (by decide) (by rw [quote]; rfl)
  · exact .marked (by decide) (by rw [backslash]; rfl)
  · exact .marked (by decide) (by rw [backspace]; rfl)
  · exact .marked (by decide) (by rw [formFeed]; rfl)
  · exact .marked (by decide) (by rw [lineFeed]; rfl)
  · exact .marked (by decide) (by rw [carriage]; rfl)
  · exact .marked (by decide) (by rw [tab]; rfl)
  · refine .coded ?_
    rcases control with control | rfl
    · simp only [isControlCharacter, decide_eq_true_eq] at control
      omega
    · decide
  · exact .plain quote backslash

theorem readString_plain {symbol : Char} (noQuote : symbol ≠ '"')
    (noBackslash : symbol ≠ '\\') (rest : CString) :
    readString (symbol :: rest) = readString rest := by
  rw [readString.eq_def]
  split <;> simp_all

theorem readString_plain_append {text : CString}
    (plain : ∀ symbol ∈ text, symbol ≠ '"' ∧ symbol ≠ '\\')
    (rest : CString) : readString (text ++ rest) = readString rest := by
  induction text with
  | nil => rfl
  | cons symbol text ih =>
      obtain ⟨here, behind⟩ := List.forall_mem_cons.mp plain
      rw [List.cons_append, readString_plain here.1 here.2, ih behind]

theorem length_fourHexDigits : ∀ code : Fin 32,
    (fourHexDigits code).length = 4 := by
  decide +kernel

theorem all_fourHexDigits : ∀ code : Fin 32,
    (fourHexDigits code).all (fun symbol =>
      symbol ≠ '"' ∧ symbol ≠ '\\' ∧ 0x20 ≤ symbol.toNat) = true := by
  decide +kernel

theorem fourHexDigits_plain (code : Fin 32) :
    ∀ symbol ∈ fourHexDigits code,
      symbol ≠ '"' ∧ symbol ≠ '\\' ∧ 0x20 ≤ symbol.toNat :=
  fun symbol member =>
    of_decide_eq_true
      (List.all_eq_true.mp (all_fourHexDigits code) symbol member)

theorem decode_fourHexDigits : ∀ code : Fin 32,
    decodeUnicodeEscapeSequence (fourHexDigits code) =
      some (code.val, []) := by
  decide +kernel

theorem decodeUnicodeEscapeSequence_control {code : ℕ} (small : code < 32)
    (rest : CString) :
    decodeUnicodeEscapeSequence (fourHexDigits code ++ rest) =
      some (code, rest) := by
  have decoded := decode_fourHexDigits ⟨code, small⟩
  obtain ⟨first, second, third, fourth, four⟩ :=
    List.length_eq_four.mp (length_fourHexDigits ⟨code, small⟩)
  dsimp only at decoded four
  rw [four] at decoded ⊢
  obtain ⟨digits, found, same⟩ := Option.bind_eq_some_iff.mp decoded
  have value : digits.foldl (fun unicode digit => unicode * 16 + digit) 0 =
      code := congrArg Prod.fst (Option.some.inj same)
  exact Option.bind_eq_some_iff.mpr ⟨digits, found, by rw [value]; rfl⟩

theorem decodeUnicodeCodePoint_control {code : ℕ} (small : code < 32)
    (rest : CString) :
    decodeUnicodeCodePoint (fourHexDigits code ++ rest) =
      some (code, rest) := by
  have noSurrogate : ¬(0xD800 ≤ code ∧ code ≤ 0xDBFF) := by omega
  rw [decodeUnicodeCodePoint, decodeUnicodeEscapeSequence_control small]
  exact if_neg noSurrogate

section Escapes

variable {symbol : Char} {written : CString}

theorem Escaped.readString_append (escaped : Escaped symbol written)
    (rest : CString) : readString (written ++ rest) = readString rest := by
  cases escaped with
  | plain noQuote noBackslash =>
      exact readString_plain noQuote noBackslash rest
  | marked => rfl
  | coded small =>
      change readString (fourHexDigits symbol.toNat ++ rest) = _
      refine readString_plain_append (fun digit member => ?_) rest
      obtain ⟨noQuote, noBackslash, -⟩ :=
        fourHexDigits_plain ⟨symbol.toNat, small⟩ digit member
      exact ⟨noQuote, noBackslash⟩

theorem Escaped.decodeSymbols_append (escaped : Escaped symbol written)
    (fuel : ℕ) (rest : CString) :
    decodeSymbols (fuel + 1) (written ++ rest) =
      (decodeSymbols fuel rest).map (symbol :: ·) := by
  cases escaped with
  | plain noQuote noBackslash =>
      simp [decodeSymbols, noQuote, noBackslash]
  | marked noCode decoded => simp [decodeSymbols, noCode, decoded]
  | coded small =>
      have ascii : symbol.toNat ≤ 0x7F := by omega
      simp [decodeSymbols, decodeUnicodeCodePoint_control small,
        codePointToUTF8, ascii]

theorem Escaped.ne_nil (escaped : Escaped symbol written) : written ≠ [] := by
  cases escaped <;> exact List.cons_ne_nil _ _

end Escapes

theorem readString_flatMap_escape (text rest : CString) :
    readString (text.flatMap escape ++ '"' :: rest) = (true, rest) := by
  induction text with
  | nil => rfl
  | cons symbol text ih =>
      rw [List.flatMap_cons, List.append_assoc,
        (escaped_escape symbol).readString_append, ih]

theorem decodeSymbols_flatMap_escape {text : CString} {fuel : ℕ}
    (enough : text.length ≤ fuel) :
    decodeSymbols fuel (text.flatMap escape) = some text := by
  induction text generalizing fuel with
  | nil => cases fuel <;> rfl
  | cons symbol text ih =>
      obtain ⟨fuel, rfl⟩ := Nat.exists_eq_add_one.mpr
        (Nat.zero_lt_of_lt enough)
      rw [List.flatMap_cons, (escaped_escape symbol).decodeSymbols_append,
        ih (Nat.le_of_succ_le_succ enough), Option.map_some]

theorem length_le_flatMap_escape (text : CString) :
    text.length ≤ (text.flatMap escape).length := by
  induction text with
  | nil => exact Nat.zero_le _
  | cons symbol text ih =>
      have positive :=
        List.length_pos_of_ne_nil (escaped_escape symbol).ne_nil
      rw [List.flatMap_cons, List.length_append, List.length_cons]
      omega

theorem decodeString_valueToQuotedString (text : CString) :
    decodeString (valueToQuotedString text) = some text := by
  rw [valueToQuotedString_eq, decodeString, List.tail_cons,
    List.dropLast_concat]
  apply decodeSymbols_flatMap_escape
  have := length_le_flatMap_escape text
  rw [List.length_cons, List.length_append]
  omega

/-! ## Tokens -/

theorem readToken_of_readSymbols {symbol : Char} {behind rest : CString}
    {type : TokenType} (noSpace : isJsonSpace symbol = false)
    (symbols : readSymbols (symbol :: (behind ++ rest)) = (type, rest)) :
    readToken (symbol :: (behind ++ rest)) =
      (⟨type, symbol :: behind⟩, rest) := by
  have start : skipSpaces (symbol :: (behind ++ rest)) =
      symbol :: (behind ++ rest) :=
    List.dropWhile_cons_of_neg (by simp [noSpace])
  simp only [readToken, start, symbols]
  congr 2
  rw [← List.cons_append, List.length_append, Nat.add_sub_cancel,
    List.take_left]

theorem readToken_valueToQuotedString (text rest : CString) :
    readToken (valueToQuotedString text ++ rest) =
      (⟨.string, valueToQuotedString text⟩, rest) := by
  have read := readString_flatMap_escape text rest
  rw [valueToQuotedString_eq, List.cons_append]
  refine readToken_of_readSymbols (by decide) ?_
  rw [List.append_assoc, List.singleton_append]
  simp [readSymbols, tokenIf, read]

end OpenRTH
