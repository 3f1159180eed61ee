import OpenRTH.MqttDelivery
import Mathlib.Algebra.Group.Nat.Even
import Mathlib.Data.List.Induction

/-!
# The hexadecimal codec in memory

`convert_binary_to_hex` prints into an array one `sprintf` at a time, and
`convert_hex_to_binary` scans into one a byte at a time.  On what the relays
print the two are inverse to each other; on other texts the decoder leaves those
bytes alone whose field it cannot read, and the last section says which.
-/

namespace OpenRTH

/-! ## Printing -/

/-- The loop of `convert_binary_to_hex`: each `sprintf` writes two digits and a
NUL, which the next one overwrites. -/
def printHex {size : ℕ} :
    List UInt8 → ℕ → FixedBuffer Char size → Option (FixedBuffer Char size)
  | [], offset, hexOutput => hexOutput.store offset [nul]
  | byte :: bytes, offset, hexOutput =>
      (hexOutput.store offset (hexByte byte ++ [nul])).bind
        (printHex bytes (offset + 2))

/-- `convert_binary_to_hex`, with the array it writes to. -/
def convertBinaryToHexInto {size : ℕ} (buffer : List UInt8)
    (hexOutput : FixedBuffer Char size) : Option (FixedBuffer Char size) :=
  printHex buffer 0 hexOutput

theorem printHex_eq_none_iff {size : ℕ} (bytes : List UInt8) (offset : ℕ)
    (hexOutput : FixedBuffer Char size) :
    printHex bytes offset hexOutput = none ↔
      size < offset + 2 * bytes.length + 1 := by
  induction bytes generalizing offset hexOutput with
  | nil =>
      rw [printHex, FixedBuffer.store_eq_none_iff]
      simp
  | cons byte bytes ih =>
      rw [printHex]
      cases stored : hexOutput.store offset (hexByte byte ++ [nul]) with
      | none =>
          have tooLong := (FixedBuffer.store_eq_none_iff _ _ _).mp stored
          simp only [hexByte, List.length_append, List.length_cons,
            List.length_nil] at tooLong
          simp only [Option.bind_none, List.length_cons, true_iff]
          omega
      | some after =>
          rw [Option.bind_some, ih, List.length_cons]
          omega

theorem take_contents_store_hexByte {size offset : ℕ} {byte : UInt8}
    {hexOutput after : FixedBuffer Char size}
    (stored : hexOutput.store offset (hexByte byte ++ [nul]) = some after) :
    after.contents.take (offset + 2) =
      hexOutput.contents.take offset ++ hexByte byte := by
  have inBounds := FixedBuffer.le_of_store stored
  have full := hexOutput.length_contents
  rw [FixedBuffer.contents_store stored, List.append_assoc,
    ← List.append_assoc]
  refine List.take_left' ?_
  rw [List.length_append, List.length_take]
  simp only [hexByte, List.length_append, List.length_cons,
    List.length_nil] at inBounds ⊢
  omega

theorem contents_printHex {size : ℕ} {bytes : List UInt8} {offset : ℕ}
    {hexOutput after : FixedBuffer Char size}
    (printed : printHex bytes offset hexOutput = some after) :
    ∃ rest, after.contents = hexOutput.contents.take offset ++
      (convertBinaryToHex bytes ++ nul :: rest) := by
  induction bytes generalizing offset hexOutput with
  | nil =>
      exact ⟨_, FixedBuffer.contents_store printed⟩
  | cons byte bytes ih =>
      obtain ⟨first, stored, printed⟩ := Option.bind_eq_some_iff.mp printed
      obtain ⟨rest, contents⟩ := ih printed
      -- the NUL of this `sprintf` is where the next digits go
      refine ⟨rest, ?_⟩
      rw [contents, take_contents_store_hexByte stored,
        convertBinaryToHex_cons, List.append_assoc, List.append_assoc]

theorem convertBinaryToHexInto_eq_none_iff {size : ℕ} (buffer : List UInt8)
    (hexOutput : FixedBuffer Char size) :
    convertBinaryToHexInto buffer hexOutput = none ↔
      size < 2 * buffer.length + 1 := by
  rw [convertBinaryToHexInto, printHex_eq_none_iff]
  omega

theorem string_convertBinaryToHexInto {size : ℕ} {buffer : List UInt8}
    {hexOutput after : FixedBuffer Char size}
    (printed : convertBinaryToHexInto buffer hexOutput = some after) :
    after.string nul = convertBinaryToHex buffer := by
  obtain ⟨rest, contents⟩ := contents_printHex printed
  rw [FixedBuffer.string, contents, List.take_zero, List.nil_append]
  exact cString_append_nul (nul_notMem_convertBinaryToHex buffer) rest

/-! ## Scanning -/

/-- The loop of `convert_hex_to_binary` over `count` bytes from an index on. -/
def scanHex {size : ℕ} (hexData : CString) :
    ℕ → ℕ → FixedBuffer UInt8 size → Option (FixedBuffer UInt8 size)
  | 0, _, buffer => some buffer
  | count + 1, index, buffer =>
      match scanHexByte (hexData.drop (index * 2)) with
      | none => scanHex hexData count (index + 1) buffer
      | some byte =>
          (buffer.store index [byte]).bind (scanHex hexData count (index + 1))

/-- `convert_hex_to_binary`, with the array it writes to. -/
def convertHexToBinaryInto {size : ℕ} (hexData : CString)
    (buffer : FixedBuffer UInt8 size) : Option (ℕ × FixedBuffer UInt8 size) :=
  (scanHex hexData (hexData.length / 2) 0 buffer).map
    (hexData.length / 2, ·)

/-- The element at an index, or 0 outside the array. -/
def byteAt {size : ℕ} (buffer : FixedBuffer UInt8 size) (index : ℕ) : UInt8 :=
  buffer.contents.getD index 0

theorem byteAt_eq {size : ℕ} (buffer : FixedBuffer UInt8 size) (index : ℕ) :
    byteAt buffer index = buffer.contents[index]?.getD 0 :=
  List.getD_eq_getElem?_getD

theorem getElem?_eq_byteAt {size : ℕ} (buffer : FixedBuffer UInt8 size)
    {index : ℕ} (inBounds : index < size) :
    buffer.contents[index]? = some (byteAt buffer index) := by
  rw [← buffer.length_contents] at inBounds
  rw [byteAt_eq, List.getElem?_eq_getElem inBounds, Option.getD_some]

/-- A byte after the loop is what `sscanf` has read at its place, or the old
one. -/
def scannedByte (hexData : CString) (buffer : ℕ → UInt8) (index : ℕ) : UInt8 :=
  (scanHexByte (hexData.drop (index * 2))).getD (buffer index)

theorem getElem?_scanHex {size : ℕ} (hexData : CString) (count index : ℕ)
    (buffer : FixedBuffer UInt8 size) (fits : index + count ≤ size) :
    ∃ after, scanHex hexData count index buffer = some after ∧
      ∀ position, after.contents[position]? =
        if index ≤ position ∧ position < index + count then
          some (scannedByte hexData (byteAt buffer) position)
        else buffer.contents[position]? := by
  induction count generalizing index buffer with
  | zero =>
      refine ⟨buffer, rfl, fun position => ?_⟩
      rw [if_neg (by omega)]
  | succ count ih =>
      rw [scanHex]
      cases scanned : scanHexByte (hexData.drop (index * 2)) with
      | none =>
          obtain ⟨after, ran, contents⟩ := ih (index + 1) buffer (by omega)
          refine ⟨after, ran, fun position => ?_⟩
          rw [contents]
          by_cases here : position = index
          · subst here
            rw [if_neg (by omega), if_pos (by omega), scannedByte, scanned]
            exact getElem?_eq_byteAt buffer (by omega)
          · congr 1
            exact propext (by omega)
      | some byte =>
          obtain ⟨first, stored⟩ : ∃ first,
              buffer.store index [byte] = some first :=
            Option.ne_none_iff_exists'.mp fun overrun => by
              have tooLong := (FixedBuffer.store_eq_none_iff _ _ _).mp overrun
              simp only [List.length_singleton] at tooLong
              omega
          obtain ⟨after, ran, contents⟩ := ih (index + 1) first (by omega)
          have resumed : (buffer.store index [byte]).bind
              (scanHex hexData count (index + 1)) = some after := by
            rw [stored]
            exact ran
          refine ⟨after, resumed, fun position => ?_⟩
          have written :=
            FixedBuffer.getElem?_store_singleton stored position
          rw [contents]
          by_cases here : position = index
          · subst here
            rw [if_neg (by omega), if_pos (by omega), written, if_pos rfl,
              scannedByte, scanned, Option.getD_some]
          · rw [if_neg here] at written
            have kept : byteAt first position = byteAt buffer position := by
              rw [byteAt_eq, byteAt_eq, written]
            rw [scannedByte, scannedByte, kept, written]
            congr 1
            exact propext (by omega)

/-- The decoder changes the bytes up to the length it returns and no others. -/
theorem convertHexToBinaryInto_eq {size : ℕ} (hexData : CString)
    (buffer : FixedBuffer UInt8 size) (fits : hexData.length / 2 ≤ size) :
    ∃ after, convertHexToBinaryInto hexData buffer =
        some (hexData.length / 2, after) ∧
      after.contents = convertHexToBinary hexData (byteAt buffer) ++
        buffer.contents.drop (hexData.length / 2) := by
  obtain ⟨after, ran, contents⟩ :=
    getElem?_scanHex hexData (hexData.length / 2) 0 buffer (by omega)
  refine ⟨after, by rw [convertHexToBinaryInto, ran]; rfl, ?_⟩
  have length : (convertHexToBinary hexData (byteAt buffer)).length =
      hexData.length / 2 := by simp [convertHexToBinary]
  refine List.ext_getElem? fun position => ?_
  rw [contents, List.getElem?_append, length]
  by_cases decoded : position < hexData.length / 2
  · rw [if_pos (by omega), if_pos decoded, convertHexToBinary,
      List.getElem?_map, List.getElem?_range decoded]
    rfl
  · rw [if_neg (by omega), if_neg decoded, List.getElem?_drop]
    congr 1
    omega

/-! ## The round trips -/

def isHexDigit (symbol : Char) : Bool :=
  (hexDigitValue symbol).isSome

theorem toNat_lt_of_hexDigitValue {symbol : Char} {digit : ℕ}
    (value : hexDigitValue symbol = some digit) : symbol.toNat < 103 := by
  have ordered (bound : Char) (atMost : symbol ≤ bound) :
      symbol.toNat ≤ bound.toNat := atMost
  unfold hexDigitValue at value
  split_ifs at value with decimal lower upper
  · exact (ordered '9' decimal.2).trans_lt (by decide)
  · exact (ordered 'f' lower.2).trans_lt (by decide)
  · exact (ordered 'F' upper.2).trans_lt (by decide)

theorem digitChar_hexDigitValue_code : ∀ code : Fin 103,
    (hexDigitValue (Char.ofNat code)).all (fun digit =>
      digit < 16 ∧ Nat.digitChar digit = (Char.ofNat code).toLower) = true := by
  decide

/-- The digit that is printed for the value of a digit is the digit in lower
case. -/
theorem digitChar_hexDigitValue {symbol : Char} {digit : ℕ}
    (value : hexDigitValue symbol = some digit) :
    digit < 16 ∧ Nat.digitChar digit = symbol.toLower := by
  have checked := digitChar_hexDigitValue_code
    ⟨symbol.toNat, toNat_lt_of_hexDigitValue value⟩
  rw [Char.ofNat_toNat, value] at checked
  simpa using checked

theorem hexDigit_plain_code : ∀ code : Fin 103,
    isHexDigit (Char.ofNat code) = true →
      isSpace (Char.ofNat code) = false ∧
        Char.ofNat code ≠ '+' ∧ Char.ofNat code ≠ '-' ∧
        Char.ofNat code ≠ 'x' ∧ Char.ofNat code ≠ 'X' := by
  decide

theorem hexDigit_plain {symbol : Char} (digit : isHexDigit symbol = true) :
    isSpace symbol = false ∧ symbol ≠ '+' ∧ symbol ≠ '-' ∧
      symbol ≠ 'x' ∧ symbol ≠ 'X' := by
  obtain ⟨value, valueEq⟩ := Option.isSome_iff_exists.mp digit
  have plain := hexDigit_plain_code
    ⟨symbol.toNat, toNat_lt_of_hexDigitValue valueEq⟩
  rw [Char.ofNat_toNat] at plain
  exact plain digit

/-- What is scanned from two digits is printed as the same digits in lower
case. -/
theorem scanHexByte_digits {high low : Char} (rest : CString)
    (highDigit : isHexDigit high = true) (lowDigit : isHexDigit low = true) :
    ∃ byte, scanHexByte (high :: low :: rest) = some byte ∧
      hexByte byte = [high.toLower, low.toLower] := by
  obtain ⟨notSpace, notPlus, notMinus, -⟩ := hexDigit_plain highDigit
  obtain ⟨-, -, -, notSmallX, notLargeX⟩ := hexDigit_plain lowDigit
  obtain ⟨highValue, highEq⟩ := Option.isSome_iff_exists.mp highDigit
  obtain ⟨lowValue, lowEq⟩ := Option.isSome_iff_exists.mp lowDigit
  obtain ⟨highSmall, highPrinted⟩ := digitChar_hexDigitValue highEq
  obtain ⟨lowSmall, lowPrinted⟩ := digitChar_hexDigitValue lowEq
  refine ⟨UInt8.ofNat (16 * highValue + lowValue), ?_, ?_⟩
  · rw [scanHexByte_plain rest notSpace notPlus notMinus notSmallX notLargeX,
      leadingHexNumber, highEq, lowEq]
    rfl
  · have value : (UInt8.ofNat (16 * highValue + lowValue)).toNat =
        16 * highValue + lowValue := by
      rw [UInt8.toNat_ofNat']
      omega
    rw [hexByte, value, ← highPrinted, ← lowPrinted]
    congr 3 <;> omega

theorem convertHexToBinary_cons_cons (high low : Char) (rest : CString)
    (buffer : ℕ → UInt8) :
    convertHexToBinary (high :: low :: rest) buffer =
      (scanHexByte (high :: low :: rest)).getD (buffer 0) ::
        convertHexToBinary rest fun index => buffer (index + 1) := by
  have count : (high :: low :: rest).length / 2 = rest.length / 2 + 1 := by
    simp only [List.length_cons]
    omega
  have later (index : ℕ) : (high :: low :: rest).drop ((index + 1) * 2) =
      rest.drop (index * 2) := by
    rw [Nat.succ_mul]
    rfl
  rw [convertHexToBinary, count, List.range_succ_eq_map, List.map_cons,
    List.map_map]
  refine congrArg₂ List.cons rfl (List.map_congr_left fun index _ => ?_)
  exact congrArg (fun text => (scanHexByte text).getD (buffer (index + 1)))
    (later index)

/-- Decoding hexadecimal digits and encoding the bytes gives the digits in lower
case. -/
theorem convertBinaryToHex_convertHexToBinary {hexData : CString}
    (digits : ∀ symbol ∈ hexData, isHexDigit symbol = true)
    (even : Even hexData.length) (buffer : ℕ → UInt8) :
    convertBinaryToHex (convertHexToBinary hexData buffer) =
      hexData.map Char.toLower := by
  induction hexData using List.twoStepInduction generalizing buffer with
  | nil => rfl
  | singleton symbol => simp at even
  | cons_cons high low rest ih _ =>
      obtain ⟨byte, scanned, printed⟩ := scanHexByte_digits rest
        (digits high (by simp)) (digits low (by simp))
      have restEven : Even rest.length := by
        simpa [Nat.even_add_one] using even
      rw [convertHexToBinary_cons_cons, convertBinaryToHex_cons, scanned,
        Option.getD_some, printed,
        ih (fun symbol member => digits symbol (by simp [member])) restEven]
      rfl

/-- Decoding undoes encoding in memory, encoding undoes decoding up to the case
of the digits, and no encoded packet is taken for a handshake. -/
theorem hexTransport_codec :
    (∀ {size : ℕ} (bytes : List UInt8)
        (hexOutput : FixedBuffer Char (2 * bytes.length + 1))
        (buffer : FixedBuffer UInt8 size), bytes.length ≤ size →
      ∃ printed written,
        convertBinaryToHexInto bytes hexOutput = some printed ∧
        convertHexToBinaryInto (printed.string nul) buffer =
          some (bytes.length, written) ∧
        written.contents = bytes ++ buffer.contents.drop bytes.length) ∧
    (∀ (hexData : CString) (buffer : ℕ → UInt8),
      (∀ symbol ∈ hexData, isHexDigit symbol = true) →
        Even hexData.length →
          convertBinaryToHex (convertHexToBinary hexData buffer) =
            hexData.map Char.toLower) ∧
    (∀ bytes : List UInt8, bytes ≠ [] →
      convertBinaryToHex bytes ≠ handshakeMessage ∧
        ∀ (mqtt : MqttTopics) (topic : CString) (globals : MessageGlobals),
          (handleMessage mqtt topic (convertBinaryToHex bytes)
            globals).rthHandshake = globals.rthHandshake) := by
  refine ⟨?_, ?_, ?_⟩
  · intro size bytes hexOutput buffer fits
    obtain ⟨printed, print⟩ := Option.ne_none_iff_exists'.mp
      (mt (convertBinaryToHexInto_eq_none_iff bytes hexOutput).mp
        (Nat.lt_irrefl _))
    have text := string_convertBinaryToHexInto print
    have half : (printed.string nul).length / 2 = bytes.length := by
      rw [text, length_convertBinaryToHex]
      omega
    obtain ⟨written, scan, contents⟩ :=
      convertHexToBinaryInto_eq (printed.string nul) buffer (by omega)
    rw [half] at scan contents
    refine ⟨printed, written, print, scan, ?_⟩
    rw [contents, text, convertHexToBinary_convertBinaryToHex]
  · intro hexData buffer digits even
    exact convertBinaryToHex_convertHexToBinary digits even buffer
  · intro bytes _
    have notHandshake : convertBinaryToHex bytes ≠ handshakeMessage :=
      convertBinaryToHex_ne_singleton bytes '1'
    exact ⟨notHandshake, fun mqtt topic globals =>
      rthHandshake_handleMessage mqtt topic notHandshake globals⟩

/-- The codec on two bytes, and on the four digits of one of them twice. -/
theorem hexTransport_codec_two_bytes :
    (∃ printed written,
      convertBinaryToHexInto [0x01, 0xFE]
          ⟨List.replicate 5 nul, rfl⟩ = some printed ∧
        convertHexToBinaryInto (printed.string nul)
          (⟨[7, 7, 7], rfl⟩ : FixedBuffer UInt8 3) = some (2, written) ∧
        written.contents = [0x01, 0xFE, 7]) ∧
    convertBinaryToHex (convertHexToBinary ['f', 'E', 'F', 'e'] fun _ => 0) =
      ['f', 'e', 'f', 'e'] ∧
    convertBinaryToHex [0x01] ≠ handshakeMessage :=
  ⟨hexTransport_codec.1 [0x01, 0xFE] ⟨List.replicate 5 nul, rfl⟩
      ⟨[7, 7, 7], rfl⟩ (by decide),
    hexTransport_codec.2.1 ['f', 'E', 'F', 'e'] (fun _ => 0)
      (List.all_eq_true.mp (by decide)) (by decide),
    (hexTransport_codec.2.2 [0x01] (by decide)).1⟩

/-! ## Fields that cannot be read -/

/-- The text starts with a hexadecimal number as `"%2hhx"` takes it: a digit,
possibly after a sign, but not the prefix `0x` that fills the field. -/
def startsHexField : CString → Bool
  | '+' :: digit :: _ => isHexDigit digit
  | '-' :: digit :: _ => isHexDigit digit
  | '0' :: 'x' :: _ => false
  | '0' :: 'X' :: _ => false
  | digit :: _ => isHexDigit digit
  | [] => false

theorem leadingHexNumber_isSome (symbol : Char) (rest : CString) :
    (leadingHexNumber (symbol :: rest)).isSome = isHexDigit symbol := by
  cases rest with
  | nil => rfl
  | cons next rest =>
      simp only [isHexDigit, leadingHexNumber]
      split
      · next unread => rw [unread]
      · next high first _ => simp [first]
      · next high low first _ => simp [first]

/-- `sscanf` converts the fields that start with a number and no others. -/
theorem scanHexByte_isSome (text : CString) :
    (scanHexByte text).isSome = startsHexField (text.dropWhile isSpace) := by
  unfold scanHexByte
  rcases text.dropWhile isSpace with _ | ⟨first, _ | ⟨second, rest⟩⟩
  · rfl
  · rw [List.take_succ_cons, List.take_nil]
    split
    · next digits field =>
        obtain ⟨rfl, rfl⟩ := List.cons.inj field
        decide
    · next digits field =>
        obtain ⟨rfl, rfl⟩ := List.cons.inj field
        decide
    · next field => cases field
    · next field => cases field
    · rw [Option.isSome_map, leadingHexNumber_isSome]
      unfold startsHexField
      split <;> simp_all
  · rw [List.take_succ_cons, List.take_succ_cons, List.take_zero]
    split
    · next digits field =>
        obtain ⟨rfl, rfl⟩ := List.cons.inj field
        rw [Option.isSome_map, leadingHexNumber_isSome]
        rfl
    · next digits field =>
        obtain ⟨rfl, rfl⟩ := List.cons.inj field
        rw [Option.isSome_map, leadingHexNumber_isSome]
        rfl
    · next field =>
        cases field
        rfl
    · next field =>
        cases field
        rfl
    · rw [Option.isSome_map, leadingHexNumber_isSome]
      unfold startsHexField
      split <;> simp_all

/-- The bytes that are decoded do not depend on the old content of the output
buffer exactly when every field can be read. -/
theorem convertHexToBinary_determined_iff (hexData : CString) :
    (∀ first second : ℕ → UInt8, convertHexToBinary hexData first =
        convertHexToBinary hexData second) ↔
      ∀ index < hexData.length / 2, startsHexField
        ((hexData.drop (index * 2)).dropWhile isSpace) = true := by
  simp only [← scanHexByte_isSome]
  constructor
  · intro determined index inText
    have decoded := determined (fun _ => 0) fun _ => 1
    have byte := List.map_inj_left.mp decoded index
      (List.mem_range.mpr inText)
    cases scanned : scanHexByte (hexData.drop (index * 2)) with
    | none => simp [scanned] at byte
    | some _ => rfl
  · intro readable first second
    refine List.map_congr_left fun index inText => ?_
    obtain ⟨byte, scanned⟩ := Option.isSome_iff_exists.mp
      (readable index (List.mem_range.mp inText))
    rw [scanned, Option.getD_some, Option.getD_some]

/-- Two letters that are no digits leave the first byte as it was. -/
theorem convertHexToBinary_not_determined :
    convertHexToBinary ['z', 'z'] (fun _ => 0) ≠
      convertHexToBinary ['z', 'z'] (fun _ => 1) := by
  decide

end OpenRTH
