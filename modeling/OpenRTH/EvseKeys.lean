import OpenRTH.HexCodec
import OpenRTH.SlacMachine

/-!
# The keys of an EVSE

`evse_initialize` prints the generated key and network identifier, lets
`configstring` choose between them and the profile, and reads the choice back
with `hexencode`, whose result it ignores.  Without a section the profile is not
consulted, and the bytes arrive in the session as they were generated.
-/

namespace OpenRTH

/-! ## Printing a key -/

/-- The `sprintf` loops of `evse_initialize`. -/
def sprintKey {size : ℕ} :
    List UInt8 → ℕ → FixedBuffer Char size → Option (FixedBuffer Char size)
  | [], _, text => some text
  | byte :: bytes, i, text =>
      (text.store (i * 2) (hexByte byte ++ [nul])).bind
        (sprintKey bytes (i + 1))

theorem exists_store_hexByte {size : ℕ} (text : FixedBuffer Char size)
    (offset : ℕ) (byte : UInt8) (fits : offset + 3 ≤ size) :
    ∃ after, text.store offset (hexByte byte ++ [nul]) = some after :=
  FixedBuffer.exists_store fits

/-- Every write stays inside an array that has room for the digits and one NUL,
and each NUL but the last is overwritten. -/
theorem exists_sprintKey {size : ℕ} (byte : UInt8) (bytes : List UInt8) (i : ℕ)
    (text : FixedBuffer Char size)
    (fits : 2 * (i + bytes.length + 1) + 1 ≤ size) :
    ∃ after rest, sprintKey (byte :: bytes) i text = some after ∧
      after.contents = text.contents.take (i * 2) ++
        (convertBinaryToHex (byte :: bytes) ++ nul :: rest) := by
  induction bytes generalizing byte i text with
  | nil =>
      simp only [List.length_nil] at fits
      obtain ⟨first, stored⟩ := exists_store_hexByte text (i * 2) byte
        (by omega)
      refine ⟨first, text.contents.drop (i * 2 + 3), ?_, ?_⟩
      · rw [sprintKey, stored, Option.bind_some, sprintKey]
      · rw [FixedBuffer.contents_store stored, convertBinaryToHex_cons,
          List.append_assoc]
        rfl
  | cons next bytes ih =>
      simp only [List.length_cons] at fits
      obtain ⟨first, stored⟩ := exists_store_hexByte text (i * 2) byte
        (by omega)
      obtain ⟨after, rest, printed, contents⟩ :=
        ih next (i + 1) first (by omega)
      refine ⟨after, rest, ?_, ?_⟩
      · rw [sprintKey, stored, Option.bind_some, printed]
      · rw [contents, Nat.succ_mul, take_contents_store_hexByte stored,
          convertBinaryToHex_cons byte, List.append_assoc, List.append_assoc]

theorem exists_sprintKey_string {size : ℕ} {key : List UInt8}
    (nonempty : key ≠ []) (text : FixedBuffer Char size)
    (fits : 2 * key.length + 1 ≤ size) :
    ∃ after, sprintKey key 0 text = some after ∧
      after.string nul = convertBinaryToHex key := by
  obtain ⟨byte, bytes, rfl⟩ := List.exists_cons_of_ne_nil nonempty
  rw [List.length_cons] at fits
  obtain ⟨after, rest, printed, contents⟩ :=
    exists_sprintKey byte bytes 0 text (by omega)
  refine ⟨after, printed, ?_⟩
  rw [FixedBuffer.string, contents, Nat.zero_mul, List.take_zero,
    List.nil_append]
  exact cString_append_nul (nul_notMem_convertBinaryToHex _) rest

/-! ## Reading a key -/

/-- `todigit`. -/
def todigit (symbol : Char) : ℕ :=
  if '0' ≤ symbol ∧ symbol ≤ '9' then symbol.toNat - '0'.toNat
  else if 'A' ≤ symbol ∧ symbol ≤ 'Z' then symbol.toNat - 'A'.toNat + 10
  else if 'a' ≤ symbol ∧ symbol ≤ 'z' then symbol.toNat - 'a'.toNat + 10
  else 255

/-- The loop of `hexencode` over the digits of a field: its value and what
stands behind it, or `none` at something that is no digit. -/
def hexencodeField : ℕ → ℕ → CString → Option (ℕ × CString)
  | 0, value, string => some (value, string)
  | field + 1, value, string =>
      let digit := todigit (string.headD nul)
      if digit < 16 then
        hexencodeField field (value * 16 + digit) string.tail
      else none

/-- The loop of `hexencode` over the bytes, from `offset` on, and what it
returns: the memory that is left and the number of bytes, or 0 on error. -/
def hexencodeLoop {size : ℕ} :
    ℕ → ℕ → FixedBuffer UInt8 size → CString →
      Option (FixedBuffer UInt8 size × ℕ)
  | 0, offset, memory, string =>
      some (memory, if string = [] then offset else 0)
  | _ + 1, _, memory, [] => some (memory, 0)
  | extent + 1, offset, memory, symbol :: string =>
      -- a colon may separate two bytes
      let digits :=
        if 0 < offset ∧ symbol = ':' then string else symbol :: string
      match hexencodeField 2 0 digits with
      | none => some (memory, 0)
      | some (value, rest) =>
          (memory.store offset [UInt8.ofNat value]).bind fun stored =>
            hexencodeLoop extent (offset + 1) stored rest

/-- `hexencode`. -/
def hexencode {size : ℕ} (memory : FixedBuffer UInt8 size) (extent : ℕ)
    (string : CString) : Option (FixedBuffer UInt8 size × ℕ) :=
  hexencodeLoop extent 0 memory string

theorem todigit_digitChar (digit : Fin 16) :
    todigit (Nat.digitChar digit) = digit.val := by
  revert digit
  decide

theorem hexencodeField_hexByte (byte : UInt8) (rest : CString) :
    hexencodeField 2 0 (hexByte byte ++ rest) = some (byte.toNat, rest) := by
  have bounded := byte.toNat_lt
  have high : todigit (Nat.digitChar (byte.toNat / 16)) = byte.toNat / 16 :=
    todigit_digitChar ⟨byte.toNat / 16, by omega⟩
  have low : todigit (Nat.digitChar (byte.toNat % 16)) = byte.toNat % 16 :=
    todigit_digitChar ⟨byte.toNat % 16, by omega⟩
  simp only [hexByte, hexencodeField, List.cons_append, List.nil_append,
    List.headD_cons, List.tail_cons, high, low]
  rw [if_pos (by omega), if_pos (by omega), Nat.zero_mul, Nat.zero_add,
    Nat.div_add_mod']

theorem digitChar_ne_colon (digit : Fin 16) : Nat.digitChar digit ≠ ':' := by
  revert digit
  decide

theorem hexencodeLoop_hexByte {size : ℕ} (extent offset : ℕ)
    (memory : FixedBuffer UInt8 size) (byte : UInt8) (rest : CString) :
    hexencodeLoop (extent + 1) offset memory (hexByte byte ++ rest) =
      (memory.store offset [byte]).bind fun stored =>
        hexencodeLoop extent (offset + 1) stored rest := by
  have bounded := byte.toNat_lt
  have field := hexencodeField_hexByte byte rest
  have noColon : Nat.digitChar (byte.toNat / 16) ≠ ':' :=
    digitChar_ne_colon ⟨byte.toNat / 16, by omega⟩
  simp only [hexByte, List.cons_append] at field ⊢
  rw [hexencodeLoop, if_neg fun separator => noColon separator.2, field]
  simp only [UInt8.ofNat_toNat]

/-- `hexencode` reads back what the `sprintf`s have printed, as many bytes as
the memory has. -/
theorem exists_hexencodeLoop {size : ℕ} (bytes : List UInt8) (offset : ℕ)
    (memory : FixedBuffer UInt8 size) (fits : offset + bytes.length = size) :
    ∃ after, hexencodeLoop bytes.length offset memory
        (convertBinaryToHex bytes) = some (after, size) ∧
      after.contents = memory.contents.take offset ++ bytes := by
  induction bytes generalizing offset memory with
  | nil =>
      obtain rfl : offset = size := fits
      refine ⟨memory, ?_, ?_⟩
      · rw [List.length_nil, hexencodeLoop]
        rfl
      · rw [List.append_nil,
          List.take_of_length_le memory.length_contents.le]
  | cons byte bytes ih =>
      rw [List.length_cons] at fits ⊢
      have inside : offset < size := by omega
      obtain ⟨stored, write⟩ := memory.exists_store_singleton byte inside
      obtain ⟨after, read, contents⟩ := ih (offset + 1) stored (by omega)
      have front := FixedBuffer.take_contents_store (by omega) write
      refine ⟨after, ?_, ?_⟩
      · rw [convertBinaryToHex_cons, hexencodeLoop_hexByte, write,
          Option.bind_some, read]
      · rw [contents, ← List.length_singleton (a := byte), front,
          List.append_assoc, List.singleton_append]

/-- Printing and reading back a key changes nothing. -/
theorem hexencode_convertBinaryToHex {size : ℕ}
    (memory key : FixedBuffer UInt8 size) :
    hexencode memory size (convertBinaryToHex key.contents) =
      some (key, size) := by
  obtain ⟨after, read, contents⟩ := exists_hexencodeLoop key.contents 0 memory
    (by rw [key.length_contents, Nat.zero_add])
  rw [List.take_zero, List.nil_append] at contents
  obtain ⟨_, length⟩ := after
  cases contents
  rw [key.length_contents] at read
  exact read

/-! ## Initialising the session -/

/-- The text of an item in a part of a file; `none` where the file, the part or
the item is missing. -/
abbrev ConfigSearch := CString → CString → CString → Option CString

/-- `configstring`, where `none` is a null pointer. -/
def configstring (search : ConfigSearch) (file part : Option CString)
    (item string : CString) : CString :=
  match file, part with
  | some file, some part => (search file part item).getD string
  | _, _ => string

/-- The loop of `confignumber` over the digits, in `unsigned`. -/
def configDigits (string : CString) : UInt32 × CString :=
  ((string.takeWhile fun symbol => '0' ≤ symbol ∧ symbol ≤ '9').foldl
      (fun value symbol =>
        value * 10 + UInt32.ofNat (symbol.toNat - '0'.toNat)) 0,
    string.dropWhile fun symbol => '0' ≤ symbol ∧ symbol ≤ '9')

/-- `confignumber`. -/
def confignumber (search : ConfigSearch) (file part : Option CString)
    (item : CString) (number : UInt32) : UInt32 :=
  let string := configstring search file part item []
  let read := configDigits string
  if string ≠ [] ∧ read.2 = [] then read.1 else number

/-- What `evse_initialize` sets in the session. -/
structure EvseSession where
  nmk : FixedBuffer UInt8 16
  nid : FixedBuffer UInt8 7
  numSounds : UInt8
  timeOut : UInt8
  respType : UInt8
  state : ℕ

/-- `EVSE_NMK` and `EVSE_NID`, as `CreateNMK` and `CreateNID` leave them. -/
structure GeneratedKeys where
  evseNmk : FixedBuffer UInt8 16
  evseNid : FixedBuffer UInt8 7

/-- The local arrays of `evse_initialize`, which are not initialised. -/
structure KeyTexts where
  nmk : FixedBuffer Char 33
  nid : FixedBuffer Char 15

/-- `evse_initialize` after the keys have been created; `none` when a write
leaves its array. -/
def evseInitialize (search : ConfigSearch) (profile section_ : Option CString)
    (keys : GeneratedKeys) (texts : KeyTexts) (session : EvseSession) :
    Option EvseSession := do
  let nmk ← sprintKey keys.evseNmk.contents 0 texts.nmk
  let nid ← sprintKey keys.evseNid.contents 0 texts.nid
  let string := configstring search profile section_
    "NetworkMembershipKey".toList (nmk.string nul)
  let (sessionNmk, _) ← hexencode session.nmk 16 string
  let string := configstring search profile section_
    "NetworkIdentifier".toList (nid.string nul)
  let (sessionNid, _) ← hexencode session.nid 7 string
  some
    { nmk := sessionNmk
      nid := sessionNid
      numSounds := (confignumber search profile section_
        "NumberOfSounds".toList 10).toUInt8
      timeOut := (confignumber search profile section_
        "TimeToSound".toList 6).toUInt8
      respType := (confignumber search profile section_
        "ResponseType".toList 1).toUInt8
      state := evseStateUnoccupied }

theorem configstring_none (search : ConfigSearch) (file : Option CString)
    (item string : CString) :
    configstring search file none item string = string := by
  cases file <;> rfl

theorem contents_ne_nil {size : ℕ} (key : FixedBuffer UInt8 (size + 1)) :
    key.contents ≠ [] :=
  List.ne_nil_of_length_eq_add_one key.length_contents

/-- Without a section the generated keys reach the session unchanged, and no
write leaves the local arrays. -/
theorem evseInitialize_keys (search : ConfigSearch) (profile : Option CString)
    (keys : GeneratedKeys) (texts : KeyTexts) (session : EvseSession) :
    ∃ after,
      evseInitialize search profile none keys texts session = some after ∧
        after.nmk.contents = keys.evseNmk.contents ∧
        after.nid.contents = keys.evseNid.contents := by
  obtain ⟨nmk, nmkPrinted, nmkString⟩ := exists_sprintKey_string
    (contents_ne_nil keys.evseNmk) texts.nmk
    (by rw [keys.evseNmk.length_contents])
  obtain ⟨nid, nidPrinted, nidString⟩ := exists_sprintKey_string
    (contents_ne_nil keys.evseNid) texts.nid
    (by rw [keys.evseNid.length_contents])
  simp only [evseInitialize, nmkPrinted, nidPrinted, configstring_none,
    nmkString, nidString, hexencode_convertBinaryToHex, Option.bind_eq_bind,
    Option.bind_some]
  exact ⟨_, rfl, rfl, rfl⟩

end OpenRTH
