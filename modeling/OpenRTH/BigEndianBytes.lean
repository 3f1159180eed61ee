import Mathlib.Data.Nat.Bitwise
import Mathlib.Data.Nat.Digits.Defs

/-!
# Big-endian numerals and shift-or assembly

The numeric value of a byte string read most significant byte first, and the
effect of the C idiom `value = value << k | byte` on fixed-width words.  A shift
by more than eight bits leaves a gap that later shifts push out of the word, so
the idiom reads a numeral only when every shift is by exactly one byte.
-/

namespace BigEndianBytes

/-- The number a byte string denotes, most significant byte first. -/
def value (bytes : List UInt8) : ℕ :=
  bytes.foldl (fun number byte => 256 * number + byte.toNat) 0

theorem value_pair (first second : UInt8) :
    value [first, second] = 256 * first.toNat + second.toNat := by
  simp [value]

theorem value_quadruple (first second third fourth : UInt8) :
    value [first, second, third, fourth] =
      256 * (256 * (256 * first.toNat + second.toNat) + third.toNat) +
        fourth.toNat := by
  simp [value]

@[simp]
theorem value_append_singleton (bytes : List UInt8) (byte : UInt8) :
    value (bytes ++ [byte]) = 256 * value bytes + byte.toNat := by
  simp [value]

/-- The same number in the digits of the library, least significant first. -/
theorem value_eq_ofDigits (bytes : List UInt8) :
    value bytes = Nat.ofDigits 256 (bytes.reverse.map UInt8.toNat) := by
  rw [value, Nat.ofDigits_eq_foldr, List.foldr_map, List.foldr_reverse]
  simp only [Nat.cast_id, Nat.add_comm]

theorem lt_256_of_mem_map_toNat {bytes : List UInt8} :
    ∀ digit ∈ bytes.map UInt8.toNat, digit < 256 := by
  simp only [List.mem_map, forall_exists_index, and_imp,
    forall_apply_eq_imp_iff₂]
  exact fun byte _ => byte.toNat_lt

theorem value_lt (bytes : List UInt8) :
    value bytes < 256 ^ bytes.length := by
  rw [value_eq_ofDigits]
  exact (Nat.ofDigits_lt_base_pow_length (by omega)
    lt_256_of_mem_map_toNat).trans_eq (by simp)

/-- Byte strings of one length are told apart by their numbers. -/
theorem value_injective_of_length_eq {first second : List UInt8}
    (sameLength : first.length = second.length)
    (sameValue : value first = value second) : first = second := by
  rw [value_eq_ofDigits, value_eq_ofDigits] at sameValue
  have sameDigits := Nat.ofDigits_inj_of_len_eq (by omega)
    (by simpa using sameLength) lt_256_of_mem_map_toNat
    lt_256_of_mem_map_toNat sameValue
  have sameBytes : first.reverse = second.reverse :=
    (List.map_inj_right fun _ _ => UInt8.toNat_inj.mp).mp sameDigits
  exact List.reverse_inj.mp sameBytes

/-- Shifting a word left frees its low bits for a byte. -/
theorem shiftLeft_or_eq_add {number byte count width : ℕ}
    (small : byte < 2 ^ count) (narrow : count ≤ width) :
    number <<< count % 2 ^ width ||| byte =
      number * 2 ^ count % 2 ^ width + byte := by
  have widthSplit : 2 ^ width = 2 ^ count * 2 ^ (width - count) := by
    rw [← pow_add]
    congr 1
    omega
  rw [Nat.shiftLeft_eq, Nat.mul_comm, widthSplit, Nat.mul_mod_mul_left]
  exact (Nat.two_pow_add_eq_or_of_lt small _).symm

theorem toNat_shiftLeft_or_16 (word : UInt16) (byte : UInt8) :
    (word <<< 8 ||| byte.toUInt16).toNat =
      word.toNat * 256 % 65536 + byte.toNat := by
  have small : byte.toNat < 2 ^ 8 := byte.toNat_lt
  rw [UInt16.toNat_or, UInt16.toNat_shiftLeft, UInt8.toNat_toUInt16]
  exact shiftLeft_or_eq_add small (by omega)

/-- The shift counts must stay below the width, as in C. -/
theorem toNat_shiftLeft_or_32 (word : UInt32) (byte : UInt8) {count : UInt32}
    (byteFits : 8 ≤ count.toNat) (inRange : count.toNat < 32) :
    (word <<< count ||| byte.toUInt32).toNat =
      word.toNat * 2 ^ count.toNat % 2 ^ 32 + byte.toNat := by
  have small : byte.toNat < 2 ^ count.toNat :=
    lt_of_lt_of_le byte.toNat_lt (Nat.pow_le_pow_right (by omega) byteFits)
  rw [UInt32.toNat_or, UInt32.toNat_shiftLeft, UInt8.toNat_toUInt32,
    Nat.mod_eq_of_lt inRange]
  exact shiftLeft_or_eq_add small inRange.le

/-- Masking a word extracts its low byte. -/
theorem and_255_mod (number : ℕ) : (number &&& 255) % 256 = number % 256 := by
  rw [show (255 : ℕ) = 2 ^ 8 - 1 from rfl, Nat.and_two_pow_sub_one_eq_mod]
  exact Nat.mod_mod number (2 ^ 8)

theorem toNat_lowByte_16 (word : UInt16) :
    (word &&& 0xFF).toUInt8.toNat = word.toNat % 256 := by
  rw [UInt16.toNat_toUInt8, UInt16.toNat_and]
  exact and_255_mod word.toNat

theorem toNat_lowByte_32 (word : UInt32) :
    (word &&& 0xFF).toUInt8.toNat = word.toNat % 256 := by
  rw [UInt32.toNat_toUInt8, UInt32.toNat_and]
  exact and_255_mod word.toNat

end BigEndianBytes
