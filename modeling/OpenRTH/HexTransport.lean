import OpenRTH.Configuration
import Mathlib.Data.List.TakeWhile

/-!
# Hexadecimal transport

The relays publish the bytes of a TCP chunk as a string of lower-case
hexadecimal digits and decode it again with one `sscanf` per byte.  Decoding an
encoded chunk gives the chunk back, whatever the output buffer held before.
-/

namespace OpenRTH

/-- The two characters `"%02x"` prints. -/
def hexByte (byte : UInt8) : CString :=
  [Nat.digitChar (byte.toNat / 16), Nat.digitChar (byte.toNat % 16)]

/-- `convert_binary_to_hex`. -/
def convertBinaryToHex (buffer : List UInt8) : CString :=
  buffer.flatMap hexByte

def hexDigitValue (symbol : Char) : Option ℕ :=
  if '0' ≤ symbol ∧ symbol ≤ '9' then some (symbol.toNat - '0'.toNat)
  else if 'a' ≤ symbol ∧ symbol ≤ 'f' then
    some (symbol.toNat - 'a'.toNat + 10)
  else if 'A' ≤ symbol ∧ symbol ≤ 'F' then
    some (symbol.toNat - 'A'.toNat + 10)
  else none

/-- The number that the leading hexadecimal digits stand for. -/
def leadingHexNumber : CString → Option ℕ
  | [] => none
  | [symbol] => hexDigitValue symbol
  | symbol :: next :: _ =>
      match hexDigitValue symbol, hexDigitValue next with
      | none, _ => none
      | some high, none => some high
      | some high, some low => some (16 * high + low)

def isSpace (symbol : Char) : Bool :=
  symbol = ' ' ∨ 9 ≤ symbol.toNat ∧ symbol.toNat ≤ 13

/-- `sscanf` with `"%2hhx"`: white space is skipped, then a field of at most two
characters is read, which may start with a sign; `none` is a matching
failure. -/
def scanHexByte (text : CString) : Option UInt8 :=
  match (text.dropWhile isSpace).take 2 with
  | '+' :: digits => (leadingHexNumber digits).map UInt8.ofNat
  | '-' :: digits =>
      (leadingHexNumber digits).map fun number => 0 - UInt8.ofNat number
  | ['0', 'x'] => none
  | ['0', 'X'] => none
  | digits => (leadingHexNumber digits).map UInt8.ofNat

/-- `convert_hex_to_binary`: the bytes of the output buffer up to the returned
length.  A byte that `sscanf` does not match stays as it was. -/
def convertHexToBinary (hexData : CString) (buffer : ℕ → UInt8) :
    List UInt8 :=
  (List.range (hexData.length / 2)).map fun index =>
    (scanHexByte (hexData.drop (index * 2))).getD (buffer index)

@[simp]
theorem convertBinaryToHex_cons (byte : UInt8) (bytes : List UInt8) :
    convertBinaryToHex (byte :: bytes) =
      hexByte byte ++ convertBinaryToHex bytes :=
  rfl

@[simp]
theorem length_convertBinaryToHex (bytes : List UInt8) :
    (convertBinaryToHex bytes).length = 2 * bytes.length := by
  induction bytes with
  | nil => rfl
  | cons byte bytes ih =>
      simp only [convertBinaryToHex_cons, List.length_append, ih,
        List.length_cons, hexByte, List.length_nil]
      omega

/-- A published chunk is never the handshake message, whose length is odd. -/
theorem convertBinaryToHex_ne_singleton (bytes : List UInt8) (symbol : Char) :
    convertBinaryToHex bytes ≠ [symbol] := by
  intro same
  have lengths := congrArg List.length same
  simp only [length_convertBinaryToHex, List.length_singleton] at lengths
  omega

theorem hexDigitValue_digitChar (digit : Fin 16) :
    hexDigitValue (Nat.digitChar digit) = some digit.val := by
  revert digit
  decide

theorem digitChar_plain (digit : Fin 16) :
    isSpace (Nat.digitChar digit) = false ∧
      Nat.digitChar digit ≠ '+' ∧ Nat.digitChar digit ≠ '-' ∧
      Nat.digitChar digit ≠ 'x' ∧ Nat.digitChar digit ≠ 'X' ∧
      Nat.digitChar digit ≠ Char.ofNat 0 := by
  revert digit
  decide

/-- Two characters that begin with neither white space, a sign nor a
hexadecimal prefix are read as digits. -/
theorem scanHexByte_plain {first second : Char} (rest : CString)
    (notSpace : isSpace first = false) (notPlus : first ≠ '+')
    (notMinus : first ≠ '-') (notSmallX : second ≠ 'x')
    (notLargeX : second ≠ 'X') :
    scanHexByte (first :: second :: rest) =
      (leadingHexNumber [first, second]).map UInt8.ofNat := by
  simp only [scanHexByte, List.dropWhile_cons, notSpace, Bool.false_eq_true,
    if_false, List.take_succ_cons, List.take_zero]
  split
  · next digits field => exact absurd (List.cons.inj field).1 notPlus
  · next digits field => exact absurd (List.cons.inj field).1 notMinus
  · next field =>
      exact absurd (List.cons.inj (List.cons.inj field).2).1 notSmallX
  · next field =>
      exact absurd (List.cons.inj (List.cons.inj field).2).1 notLargeX
  · rfl

theorem scanHexByte_hexByte (byte : UInt8) (rest : CString) :
    scanHexByte (hexByte byte ++ rest) = some byte := by
  have bounded := byte.toNat_lt
  obtain ⟨high, highEq⟩ : ∃ high : Fin 16, high.val = byte.toNat / 16 :=
    ⟨⟨byte.toNat / 16, by omega⟩, rfl⟩
  obtain ⟨low, lowEq⟩ : ∃ low : Fin 16, low.val = byte.toNat % 16 :=
    ⟨⟨byte.toNat % 16, by omega⟩, rfl⟩
  obtain ⟨notSpace, notPlus, notMinus, -⟩ := digitChar_plain high
  obtain ⟨-, -, -, notSmallX, notLargeX, -⟩ := digitChar_plain low
  have number : leadingHexNumber [Nat.digitChar high, Nat.digitChar low] =
      some byte.toNat := by
    simp only [leadingHexNumber, hexDigitValue_digitChar]
    rw [highEq, lowEq, Nat.div_add_mod]
  rw [hexByte, ← highEq, ← lowEq, List.cons_append, List.cons_append,
    List.nil_append, scanHexByte_plain rest notSpace notPlus notMinus
      notSmallX notLargeX, number]
  simp

theorem drop_convertBinaryToHex (bytes : List UInt8) (index : ℕ) :
    (convertBinaryToHex bytes).drop (index * 2) =
      convertBinaryToHex (bytes.drop index) := by
  induction index generalizing bytes with
  | zero => simp
  | succ index ih =>
      cases bytes with
      | nil => simp [convertBinaryToHex]
      | cons byte bytes =>
          rw [convertBinaryToHex_cons, List.drop_succ_cons, ← ih bytes,
            Nat.succ_mul, Nat.add_comm, ← List.drop_drop]
          rfl

/-- Decoding an encoded chunk gives the chunk, for every previous content of
the output buffer. -/
theorem convertHexToBinary_convertBinaryToHex (bytes : List UInt8)
    (buffer : ℕ → UInt8) :
    convertHexToBinary (convertBinaryToHex bytes) buffer = bytes := by
  unfold convertHexToBinary
  rw [length_convertBinaryToHex, Nat.mul_div_cancel_left _ (by decide)]
  refine List.ext_getElem (by simp) fun index _ inBytes => ?_
  rw [List.getElem_map, List.getElem_range, drop_convertBinaryToHex,
    List.drop_eq_getElem_cons inBytes, convertBinaryToHex_cons,
    scanHexByte_hexByte]
  rfl

theorem nul_notMem_convertBinaryToHex (bytes : List UInt8) :
    Char.ofNat 0 ∉ convertBinaryToHex bytes := by
  intro member
  obtain ⟨byte, -, digit⟩ := List.mem_flatMap.mp member
  have bounded := byte.toNat_lt
  have high := (digitChar_plain ⟨byte.toNat / 16, by omega⟩).2.2.2.2.2
  have low := (digitChar_plain ⟨byte.toNat % 16, by omega⟩).2.2.2.2.2
  simp only [hexByte, List.mem_cons, List.not_mem_nil, or_false] at digit
  rcases digit with digit | digit
  · exact high digit.symm
  · exact low digit.symm

end OpenRTH
