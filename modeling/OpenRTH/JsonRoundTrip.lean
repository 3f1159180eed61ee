import OpenRTH.JsonNumbers

/-!
# Reading what was written

Every value that is not nested too deeply is read back from its text.  Only the
types of its numbers may change, and the text stays the same when it is written
again.
-/

namespace OpenRTH

/-! ## Values and their normal form -/

namespace JsonValue

/-- A value that `Json::Value` can hold: a real is a `double`, and the members of
an object are ordered by their names. -/
inductive WellFormed : JsonValue → Prop
  | null : WellFormed .null
  | int (value : Int64) : WellFormed (.int value)
  | uint (value : UInt64) : WellFormed (.uint value)
  | real {value : ℚ} (double : IsDouble value) : WellFormed (.real value)
  | string (text : CString) : WellFormed (.string text)
  | boolean (value : Bool) : WellFormed (.boolean value)
  | array {elements : List JsonValue}
      (all : ∀ element ∈ elements, WellFormed element) :
      WellFormed (.array elements)
  | object {members : List (CString × JsonValue)}
      (ordered : members.Pairwise fun first second => first.1 < second.1)
      (all : ∀ member ∈ members, WellFormed member.2) :
      WellFormed (.object members)

/-- Whether a value has at most so many levels. -/
def nestedAtMost : ℕ → JsonValue → Bool
  | 0, _ => false
  | depth + 1, .array elements => elements.all (nestedAtMost depth)
  | depth + 1, .object members =>
      members.all fun member => nestedAtMost depth member.2
  | _ + 1, _ => true

mutual

/-- The value with the numbers that are decoded from its text. -/
def normal : JsonValue → JsonValue
  | .int value => ofInteger value.toInt
  | .uint value => ofInteger value.toNat
  | .real value => ofReal value
  | .array elements => .array (normalElements elements)
  | .object members => .object (normalMembers members)
  | .null => .null
  | .string text => .string text
  | .boolean value => .boolean value

def normalElements : List JsonValue → List JsonValue
  | [] => []
  | element :: elements => normal element :: normalElements elements

def normalMember : CString × JsonValue → CString × JsonValue
  | (name, value) => (name, normal value)

def normalMembers : List (CString × JsonValue) → List (CString × JsonValue)
  | [] => []
  | member :: members => normalMember member :: normalMembers members

end

@[simp] theorem normalElements_eq_map (elements : List JsonValue) :
    normalElements elements = elements.map normal := by
  induction elements with
  | nil => rfl
  | cons element elements ih => rw [normalElements, ih, List.map_cons]

@[simp] theorem normalMember_eq (member : CString × JsonValue) :
    normalMember member = (member.1, member.2.normal) := by
  obtain ⟨name, value⟩ := member
  rfl

@[simp] theorem normalMembers_eq_map (members : List (CString × JsonValue)) :
    normalMembers members = members.map normalMember := by
  induction members with
  | nil => rfl
  | cons member members ih => rw [normalMembers, ih, List.map_cons]

end JsonValue

/-! ## Tokens of a written value -/

theorem DecimalText.exists_text_eq_cons (number : DecimalText) :
    ∃ first others, number.text = first :: others ∧
      (first = '-' ∨ first.isDigit) := by
  obtain ⟨first, others, same⟩ :=
    List.exists_cons_of_ne_nil number.whole_nonempty
  unfold text
  cases number.negative with
  | true => exact ⟨'-', _, rfl, .inl rfl⟩
  | false =>
      exact ⟨first, _, by rw [same]; rfl,
        .inr (number.whole_digits first (by simp [same]))⟩

/-- A value begins neither with a space nor with the end of an array. -/
theorem exists_writeValue_eq_cons (value : JsonValue) :
    ∃ first others, writeValue value = first :: others ∧
      isJsonSpace first = false ∧ first ≠ ']' := by
  have number (decimal : DecimalText) : ∃ first others,
      decimal.text = first :: others ∧ isJsonSpace first = false ∧
        first ≠ ']' := by
    obtain ⟨first, others, same, rfl | digit⟩ := decimal.exists_text_eq_cons
    · exact ⟨_, others, same, by decide, by decide⟩
    · refine ⟨first, others, same, ?_, ?_⟩
      · by_contra space
        simp only [isJsonSpace, Bool.not_eq_false, decide_eq_true_eq] at space
        rcases space with rfl | rfl | rfl | rfl <;> cases digit
      · rintro rfl
        cases digit
  cases value with
  | null => exact ⟨_, _, rfl, by decide, by decide⟩
  | int value =>
      rw [writeValue, ← text_integerText]
      exact number (integerText value.toInt)
  | uint value =>
      rw [writeValue, ← text_integerText]
      exact number (integerText value.toNat)
  | real value => exact number (printedDouble value)
  | string text =>
      rw [writeValue, valueToQuotedString_eq]
      exact ⟨_, _, rfl, by decide, by decide⟩
  | boolean value => cases value <;> exact ⟨_, _, rfl, by decide, by decide⟩
  | array elements =>
      cases elements <;> exact ⟨_, _, rfl, by decide, by decide⟩
  | object members =>
      cases members <;> exact ⟨_, _, rfl, by decide, by decide⟩

theorem endsValue_writeElements (elements : List JsonValue) (rest : CString) :
    EndsValue (writeElements elements ++ rest) := by
  cases elements with
  | nil => rintro first ⟨⟩; decide
  | cons => rintro first ⟨⟩; decide

theorem endsValue_writeMembers (members : List (CString × JsonValue))
    (rest : CString) : EndsValue (writeMembers members ++ rest) := by
  cases members with
  | nil => rintro first ⟨⟩; decide
  | cons => rintro first ⟨⟩; decide

/-! ## The loops of the reader -/

/-- A value is read back with so many levels on the stack, or the stack does not
hold it. -/
def ReadsBack (depth : ℕ) (value : JsonValue) : Prop :=
  ∀ rest, EndsValue rest →
    readValue depth (writeValue value ++ rest) =
      if value.nestedAtMost depth then .ok (value.normal, rest)
      else .error .stackLimit

theorem readToken_punctuation (rest : CString) :
    readToken ('{' :: rest) = (⟨.objectBegin, ['{']⟩, rest) ∧
      readToken ('}' :: rest) = (⟨.objectEnd, ['}']⟩, rest) ∧
      readToken ('[' :: rest) = (⟨.arrayBegin, ['[']⟩, rest) ∧
      readToken (']' :: rest) = (⟨.arrayEnd, [']']⟩, rest) ∧
      readToken (',' :: rest) = (⟨.arraySeparator, [',']⟩, rest) ∧
      readToken (':' :: rest) = (⟨.memberSeparator, [':']⟩, rest) := by
  have read {symbol : Char} {type : TokenType}
      (noSpace : isJsonSpace symbol = false)
      (symbols : readSymbols (symbol :: rest) = (type, rest)) :
      readToken (symbol :: rest) = (⟨type, [symbol]⟩, rest) :=
    @readToken_of_readSymbols symbol [] rest type noSpace symbols
  exact ⟨read (by decide) rfl, read (by decide) rfl, read (by decide) rfl,
    read (by decide) rfl, read (by decide) rfl, read (by decide) rfl⟩

section Loops

variable {depth : ℕ}

/-- Each element is read back, and the comma or the bracket behind it. -/
theorem readElements_writeElements {first : JsonValue}
    {others : List JsonValue}
    (readsBack : ∀ element ∈ first :: others, ReadsBack depth element)
    {fuel : ℕ} (enough : others.length < fuel) (elements : List JsonValue)
    (rest : CString) :
    readElements (readValue depth) fuel elements
        (writeValue first ++ (writeElements others ++ rest)) =
      if (first :: others).all (JsonValue.nestedAtMost depth) then
        .ok (.array (elements ++ (first :: others).map JsonValue.normal), rest)
      else .error .stackLimit := by
  induction others generalizing first fuel elements with
  | nil =>
      obtain ⟨fuel, rfl⟩ := Nat.exists_eq_add_one.mpr enough
      have read := readsBack first List.mem_cons_self _
        (endsValue_writeElements [] rest)
      obtain ⟨-, -, -, close, -, -⟩ := readToken_punctuation rest
      rw [readElements, read]
      by_cases fits : first.nestedAtMost depth
      · simp [fits, bind, Except.bind, writeElements, close]
      · simp [fits, bind, Except.bind]
  | cons second others ih =>
      obtain ⟨fuel, rfl⟩ := Nat.exists_eq_add_one.mpr
        (Nat.zero_lt_of_lt enough)
      obtain ⟨firstBack, othersBack⟩ := List.forall_mem_cons.mp readsBack
      have read := firstBack _ (endsValue_writeElements (second :: others) rest)
      obtain ⟨-, -, -, -, comma, -⟩ := readToken_punctuation
        (writeValue second ++ (writeElements others ++ rest))
      have next := ih othersBack (Nat.lt_of_succ_lt_succ enough)
        (elements ++ [first.normal])
      rw [readElements, read]
      by_cases fits : first.nestedAtMost depth
      · simp only [writeElements, List.cons_append, List.append_assoc]
        simp [fits, bind, Except.bind, comma, next]
      · simp [fits, bind, Except.bind]

theorem setMember_of_lt {key : CString} {value : JsonValue}
    {members : List (CString × JsonValue)}
    (behind : ∀ member ∈ members, member.1 < key) :
    setMember key value members = members ++ [(key, value)] := by
  induction members with
  | nil => rfl
  | cons member members ih =>
      obtain ⟨less, others⟩ := List.forall_mem_cons.mp behind
      rw [setMember, if_pos less, ih others, List.cons_append]

theorem readToken_writeMember (member : CString × JsonValue)
    (rest : CString) :
    readToken (writeMember member ++ rest) =
      (⟨.string, valueToQuotedString member.1⟩,
        ':' :: (writeValue member.2 ++ rest)) := by
  rw [writeMember, List.append_assoc, List.cons_append]
  exact readToken_valueToQuotedString _ _

theorem readMember_writeMember {member : CString × JsonValue}
    (readsBack : ReadsBack depth member.2) {rest : CString}
    (ends : EndsValue rest) :
    readMember (readValue depth) ⟨.string, valueToQuotedString member.1⟩
        (':' :: (writeValue member.2 ++ rest)) =
      if member.2.nestedAtMost depth then
        .ok (JsonValue.normalMember member, rest)
      else .error .stackLimit := by
  obtain ⟨-, -, -, -, -, colon⟩ :=
    readToken_punctuation (writeValue member.2 ++ rest)
  have read := readsBack rest ends
  by_cases fits : member.2.nestedAtMost depth <;>
    simp [readMember, decodeString_valueToQuotedString, colon, read, fits,
      bind, Except.bind]

/-- Each member is read back, and the comma or the brace behind it. -/
theorem readMembers_writeMembers {first : CString × JsonValue}
    {others : List (CString × JsonValue)}
    (readsBack : ∀ member ∈ first :: others, ReadsBack depth member.2)
    (ordered : (first :: others).Pairwise
      fun first second => first.1 < second.1)
    {fuel : ℕ} (enough : others.length < fuel) (name : CString)
    {members : List (CString × JsonValue)}
    (before : ∀ member ∈ members, ∀ other ∈ first :: others,
      member.1 < other.1) (rest : CString) :
    readMembers (readValue depth) fuel name members
        (writeMember first ++ (writeMembers others ++ rest)) =
      if (first :: others).all fun member => member.2.nestedAtMost depth then
        .ok (.object (members ++
          (first :: others).map JsonValue.normalMember), rest)
      else .error .stackLimit := by
  induction others generalizing first fuel name members with
  | nil =>
      obtain ⟨fuel, rfl⟩ := Nat.exists_eq_add_one.mpr enough
      have read := readMember_writeMember
        (readsBack first List.mem_cons_self) (endsValue_writeMembers [] rest)
      obtain ⟨-, close, -, -, -, -⟩ := readToken_punctuation rest
      have last : ∀ member ∈ members, member.1 < first.1 :=
        fun member inList => before member inList first List.mem_cons_self
      rw [readMembers, readToken_writeMember]
      dsimp only
      rw [if_neg (by simp), read]
      by_cases fits : first.2.nestedAtMost depth
      · simp [fits, bind, Except.bind, writeMembers, readComma, close,
          setMember_of_lt last]
      · simp [fits, bind, Except.bind]
  | cons second others ih =>
      obtain ⟨fuel, rfl⟩ := Nat.exists_eq_add_one.mpr
        (Nat.zero_lt_of_lt enough)
      obtain ⟨firstBack, othersBack⟩ := List.forall_mem_cons.mp readsBack
      obtain ⟨firstLess, othersOrdered⟩ := List.pairwise_cons.mp ordered
      have read := readMember_writeMember firstBack
        (endsValue_writeMembers (second :: others) rest)
      obtain ⟨-, -, -, -, comma, -⟩ := readToken_punctuation
        (writeMember second ++ (writeMembers others ++ rest))
      have last : ∀ member ∈ members, member.1 < first.1 :=
        fun member inList => before member inList first List.mem_cons_self
      have readBefore : ∀ member ∈ members ++ [(first.1, first.2.normal)],
          ∀ other ∈ second :: others, member.1 < other.1 := by
        intro member inList other isOther
        rcases List.mem_append.mp inList with early | here
        · exact before member early other (List.mem_cons_of_mem _ isOther)
        · rw [List.mem_singleton.mp here]
          exact firstLess other isOther
      have next := ih othersBack othersOrdered
        (Nat.lt_of_succ_lt_succ enough) first.1 readBefore
      rw [readMembers, readToken_writeMember]
      dsimp only
      rw [if_neg (by simp), read]
      by_cases fits : first.2.nestedAtMost depth
      · rw [List.all_cons, fits, Bool.true_and]
        simp only [writeMembers, List.cons_append, List.append_assoc]
        simp [bind, Except.bind, readComma, comma, setMember_of_lt last, next]
      · simp [fits, bind, Except.bind]

end Loops

/-! ## The round trip -/

theorem length_le_writeElements (elements : List JsonValue) :
    elements.length ≤ (writeElements elements).length := by
  induction elements with
  | nil => exact Nat.zero_le _
  | cons element elements ih =>
      rw [writeElements, List.length_cons, List.length_cons, List.length_append]
      omega

theorem length_le_writeMembers (members : List (CString × JsonValue)) :
    members.length ≤ (writeMembers members).length := by
  induction members with
  | nil => exact Nat.zero_le _
  | cons member members ih =>
      rw [writeMembers, List.length_cons, List.length_cons, List.length_append]
      omega

theorem readValue_of_readToken {depth : ℕ} {text rest : CString}
    {token : Token} (read : readToken text = (token, rest)) :
    readValue (depth + 1) text = valueOfToken (readValue depth) token rest := by
  rw [readValue, read]

theorem readToken_words (rest : CString) :
    readToken ("null".toList ++ rest) = (⟨.null, "null".toList⟩, rest) ∧
      readToken ("true".toList ++ rest) = (⟨.true, "true".toList⟩, rest) ∧
      readToken ("false".toList ++ rest) =
        (⟨.false, "false".toList⟩, rest) := by
  refine ⟨?_, ?_, ?_⟩
  · exact @readToken_of_readSymbols 'n' ['u', 'l', 'l'] rest .null
      (by decide) rfl
  · exact @readToken_of_readSymbols 't' ['r', 'u', 'e'] rest .true
      (by decide) rfl
  · exact @readToken_of_readSymbols 'f' ['a', 'l', 's', 'e'] rest .false
      (by decide) rfl

theorem decodedNumber_of_decodeNumber {token : CString} {value : JsonValue}
    (decoded : decodeNumber token = some value)
    (notZero : isNegativeZero token value = false) (text : CString) :
    decodedNumber token text = .ok (value, text) := by
  simp [decodedNumber, decoded, notZero]

theorem isNegativeZero_ofInteger (token : CString) (number : ℤ) :
    isNegativeZero token (.ofInteger number) = false := by
  unfold JsonValue.ofInteger
  split_ifs <;> rfl

theorem isNegativeZero_ofReal (token : CString) (number : ℚ) :
    isNegativeZero token (.ofReal number) = false := by
  unfold JsonValue.ofReal
  split_ifs with integer
  · exact isNegativeZero_ofInteger token _
  · have notZero : number ≠ 0 := by
      rintro rfl
      exact integer (by decide)
    simp [isNegativeZero, notZero]

theorem readsBack_zero (value : JsonValue) : ReadsBack 0 value :=
  fun _ _ => rfl

theorem readsBack_array {depth : ℕ} {elements : List JsonValue}
    (readsBack : ∀ element ∈ elements, ReadsBack depth element) :
    ReadsBack (depth + 1) (.array elements) := by
  intro rest ends
  cases elements with
  | nil =>
      obtain ⟨-, -, open', -, -, -⟩ := readToken_punctuation (']' :: rest)
      exact readValue_of_readToken open'
  | cons first others =>
      obtain ⟨-, -, open', -, -, -⟩ := readToken_punctuation
        (writeValue first ++ (writeElements others ++ rest))
      obtain ⟨symbol, behind, begins, noSpace, noBracket⟩ :=
        exists_writeValue_eq_cons first
      have start : skipSpaces
          (writeValue first ++ (writeElements others ++ rest)) =
            writeValue first ++ (writeElements others ++ rest) := by
        rw [begins]
        exact List.dropWhile_cons_of_neg (by simp [noSpace])
      have notEmpty :
          (writeValue first ++ (writeElements others ++ rest)).head? ≠
            some ']' := by
        rw [begins]
        simpa using noBracket
      have enough : others.length <
          (writeValue first ++ (writeElements others ++ rest)).length + 1 := by
        have := length_le_writeElements others
        simp only [List.length_append]
        omega
      have read := readElements_writeElements readsBack enough [] rest
      rw [writeValue, List.cons_append, List.append_assoc,
        readValue_of_readToken open', valueOfToken, readArray]
      dsimp only
      rw [start, if_neg notEmpty, read, JsonValue.nestedAtMost,
        JsonValue.normal, JsonValue.normalElements_eq_map, List.nil_append]

theorem readsBack_object {depth : ℕ} {members : List (CString × JsonValue)}
    (ordered : members.Pairwise fun first second => first.1 < second.1)
    (readsBack : ∀ member ∈ members, ReadsBack depth member.2) :
    ReadsBack (depth + 1) (.object members) := by
  intro rest ends
  cases members with
  | nil =>
      obtain ⟨open', -⟩ := readToken_punctuation ('}' :: rest)
      obtain ⟨-, close, -⟩ := readToken_punctuation rest
      have read : readMembers (readValue depth) (rest.length + 2) [] []
          ('}' :: rest) = .ok (.object [], rest) := by
        rw [readMembers, close]
        rfl
      rw [writeValue]
      exact (readValue_of_readToken open').trans read
  | cons first others =>
      obtain ⟨open', -⟩ := readToken_punctuation
        (writeMember first ++ (writeMembers others ++ rest))
      have enough : others.length < (writeMember first ++
          (writeMembers others ++ rest)).length + 1 := by
        have := length_le_writeMembers others
        simp only [List.length_append]
        omega
      have read := readMembers_writeMembers readsBack ordered enough []
        (List.forall_mem_nil _) rest
      rw [writeValue, List.cons_append, List.append_assoc,
        readValue_of_readToken open', valueOfToken]
      dsimp only
      rw [read, JsonValue.nestedAtMost, JsonValue.normal,
        JsonValue.normalMembers_eq_map, List.nil_append]

/-- Every value is read back, as far as the stack holds it. -/
theorem JsonValue.WellFormed.readsBack {value : JsonValue}
    (wellFormed : value.WellFormed) (depth : ℕ) : ReadsBack depth value := by
  induction wellFormed generalizing depth with
  | null =>
      rcases depth with _ | depth
      · exact readsBack_zero _
      · exact fun rest _ =>
          readValue_of_readToken (readToken_words rest).1
  | boolean value =>
      rcases depth with _ | depth
      · exact readsBack_zero _
      intro rest _
      obtain ⟨-, isTrue, isFalse⟩ := readToken_words rest
      cases value with
      | true => exact readValue_of_readToken isTrue
      | false => exact readValue_of_readToken isFalse
  | int value =>
      rcases depth with _ | depth
      · exact readsBack_zero _
      intro rest ends
      have low := value.le_toInt
      have high := value.toInt_lt
      have read := readToken_decimal value.toInt ends
      have decoded := @decodeNumber_decimal value.toInt (by omega) (by omega)
      rw [writeValue, readValue_of_readToken read]
      exact decodedNumber_of_decodeNumber decoded
        (isNegativeZero_ofInteger _ _) rest
  | uint value =>
      rcases depth with _ | depth
      · exact readsBack_zero _
      intro rest ends
      have high := value.toNat_lt
      have read := readToken_decimal value.toNat ends
      have decoded := @decodeNumber_decimal value.toNat (by omega) (by omega)
      rw [writeValue, readValue_of_readToken read]
      exact decodedNumber_of_decodeNumber decoded
        (isNegativeZero_ofInteger _ _) rest
  | @real value double =>
      rcases depth with _ | depth
      · exact readsBack_zero _
      intro rest ends
      have read := readToken_number (printedDouble value) ends
      rw [writeValue, readValue_of_readToken read]
      exact decodedNumber_of_decodeNumber (decodeNumber_printedDouble double)
        (isNegativeZero_ofReal _ _) rest
  | string text =>
      rcases depth with _ | depth
      · exact readsBack_zero _
      intro rest ends
      have read := readToken_valueToQuotedString text rest
      rw [writeValue, readValue_of_readToken read, valueOfToken,
        decodeString_valueToQuotedString]
      rfl
  | array _ ih =>
      rcases depth with _ | depth
      · exact readsBack_zero _
      · exact readsBack_array fun element member => ih element member depth
  | object ordered _ ih =>
      rcases depth with _ | depth
      · exact readsBack_zero _
      · exact readsBack_object ordered fun member inList =>
          ih member inList depth

/-! ## The text of the normal form -/

theorem writeValue_ofInteger {number : ℤ} (least : -2 ^ 63 ≤ number)
    (greatest : number ≤ 2 ^ 64 - 1) :
    writeValue (.ofInteger number) = decimal number := by
  unfold JsonValue.ofInteger
  split_ifs with small
  · rw [writeValue, Int64.toInt_ofInt_of_le least (by omega)]
  · have fits : number.toNat < UInt64.size := by
      unfold UInt64.size
      omega
    rw [writeValue, UInt64.toNat_ofNat_of_lt' fits,
      Int.toNat_of_nonneg (by omega)]

theorem writeValue_ofReal (number : ℚ) :
    writeValue (.ofReal number) = (printedDouble number).text := by
  unfold JsonValue.ofReal
  split_ifs with integer
  · obtain ⟨whole, small⟩ := integer
    rw [writeValue_ofInteger (by omega) (by omega),
      text_printedDouble_of_integer whole small]
  · rfl

theorem writeElements_map_normal {elements : List JsonValue}
    (same : ∀ element ∈ elements,
      writeValue element.normal = writeValue element) :
    writeElements (elements.map JsonValue.normal) =
      writeElements elements := by
  induction elements with
  | nil => rfl
  | cons element elements ih =>
      obtain ⟨first, others⟩ := List.forall_mem_cons.mp same
      rw [List.map_cons, writeElements, writeElements, first, ih others]

theorem writeMembers_map_normal {members : List (CString × JsonValue)}
    (same : ∀ member ∈ members,
      writeValue member.2.normal = writeValue member.2) :
    writeMembers (members.map JsonValue.normalMember) =
      writeMembers members := by
  induction members with
  | nil => rfl
  | cons member members ih =>
      obtain ⟨first, others⟩ := List.forall_mem_cons.mp same
      rw [List.map_cons, writeMembers, writeMembers, ih others,
        JsonValue.normalMember_eq, writeMember, first, writeMember]

/-- The normal form has the same text. -/
theorem JsonValue.WellFormed.writeValue_normal {value : JsonValue}
    (wellFormed : value.WellFormed) :
    writeValue value.normal = writeValue value := by
  induction wellFormed with
  | null | string | boolean => rfl
  | int value =>
      have low := value.le_toInt
      have high := value.toInt_lt
      exact writeValue_ofInteger (by omega) (by omega)
  | uint value =>
      have high := value.toNat_lt
      exact writeValue_ofInteger (by omega) (by omega)
  | real => exact writeValue_ofReal _
  | @array elements _ same =>
      cases elements with
      | nil => rfl
      | cons first others =>
          obtain ⟨head, tail⟩ := List.forall_mem_cons.mp same
          rw [normal, normalElements_eq_map, List.map_cons, writeValue,
            writeValue, head, writeElements_map_normal tail]
  | @object members _ _ same =>
      cases members with
      | nil => rfl
      | cons first others =>
          obtain ⟨head, tail⟩ := List.forall_mem_cons.mp same
          rw [normal, normalMembers_eq_map, List.map_cons, writeValue,
            writeValue, writeMembers_map_normal tail, normalMember_eq,
            writeMember, head, writeMember]

/-! ## The symbols of a text -/

/-- A symbol that is no control character. -/
def isVisible (symbol : Char) : Bool :=
  0x20 ≤ symbol.toNat

theorem isVisible_of_isDigit {symbol : Char} (digit : symbol.isDigit) :
    isVisible symbol := by
  have code := (Char.isDigit_iff_toNat.mp digit).1
  simp only [Char.reduceToNat] at code
  simp only [isVisible, decide_eq_true_eq]
  omega

theorem visible_escape (symbol : Char) :
    ∀ written ∈ escape symbol, isVisible written := by
  unfold escape
  split_ifs with _ _ _ _ _ _ _ control
  all_goals try exact List.all_eq_true.mp (by decide)
  · have small : symbol.toNat < 32 := by
      rcases control with control | rfl
      · simp only [isControlCharacter, decide_eq_true_eq] at control
        omega
      · decide
    rw [List.forall_mem_cons, List.forall_mem_cons]
    refine ⟨by decide, by decide, fun digit member => decide_eq_true ?_⟩
    exact (fourHexDigits_plain ⟨symbol.toNat, small⟩ digit member).2.2
  · rw [not_or] at control
    rw [List.forall_mem_singleton]
    have notZero : symbol.toNat ≠ 0 := fun zero =>
      control.2 (Char.toNat_inj.mp zero)
    simp only [isControlCharacter, decide_eq_true_eq, not_and] at control
    simp only [isVisible, decide_eq_true_eq]
    omega

theorem visible_valueToQuotedString (text : CString) :
    ∀ symbol ∈ valueToQuotedString text, isVisible symbol := by
  rw [valueToQuotedString_eq, List.forall_mem_cons, List.forall_mem_append,
    List.forall_mem_singleton]
  refine ⟨by decide, fun symbol member => ?_, by decide⟩
  obtain ⟨original, -, written⟩ := List.mem_flatMap.mp member
  exact visible_escape original symbol written

theorem DecimalText.visible (number : DecimalText) :
    ∀ symbol ∈ number.text, isVisible symbol := by
  have whole : ∀ symbol ∈ number.whole, isVisible symbol :=
    fun symbol member => isVisible_of_isDigit (number.whole_digits _ member)
  have sign : ∀ symbol ∈ signText number.negative, isVisible symbol := by
    cases number.negative <;> exact List.all_eq_true.mp (by decide)
  have fraction : ∀ symbol ∈ fractionText number.fraction,
      isVisible symbol := by
    unfold fractionText
    split_ifs
    · exact List.forall_mem_nil _
    · exact List.forall_mem_cons.mpr ⟨by decide, fun symbol member =>
        isVisible_of_isDigit (number.fraction_digits _ member)⟩
  have exponent : ∀ symbol ∈ exponentText number.exponent,
      isVisible symbol := by
    cases same : number.exponent with
    | none => exact List.forall_mem_nil _
    | some part =>
        obtain ⟨-, digits⟩ := number.exponent_digits part same
        refine List.forall_mem_cons.mpr ⟨by decide,
          List.forall_mem_cons.mpr ⟨?_, fun symbol member =>
            isVisible_of_isDigit (digits _ member)⟩⟩
        split_ifs <;> decide
  simp only [text, List.forall_mem_append]
  exact ⟨sign, whole, fraction, exponent⟩

theorem visible_writeElements {elements : List JsonValue}
    (visible : ∀ element ∈ elements,
      ∀ symbol ∈ writeValue element, isVisible symbol) :
    ∀ symbol ∈ writeElements elements, isVisible symbol := by
  induction elements with
  | nil => exact List.all_eq_true.mp (by decide)
  | cons element elements ih =>
      obtain ⟨first, others⟩ := List.forall_mem_cons.mp visible
      rw [writeElements, List.forall_mem_cons, List.forall_mem_append]
      exact ⟨by decide, first, ih others⟩

theorem visible_writeMember {member : CString × JsonValue}
    (visible : ∀ symbol ∈ writeValue member.2, isVisible symbol) :
    ∀ symbol ∈ writeMember member, isVisible symbol := by
  rw [writeMember, List.forall_mem_append, List.forall_mem_cons]
  exact ⟨visible_valueToQuotedString member.1, by decide, visible⟩

theorem visible_writeMembers {members : List (CString × JsonValue)}
    (visible : ∀ member ∈ members,
      ∀ symbol ∈ writeValue member.2, isVisible symbol) :
    ∀ symbol ∈ writeMembers members, isVisible symbol := by
  induction members with
  | nil => exact List.all_eq_true.mp (by decide)
  | cons member members ih =>
      obtain ⟨first, others⟩ := List.forall_mem_cons.mp visible
      rw [writeMembers, List.forall_mem_cons, List.forall_mem_append]
      exact ⟨by decide, visible_writeMember first, ih others⟩

/-- No control character is written. -/
theorem JsonValue.WellFormed.visible {value : JsonValue}
    (wellFormed : value.WellFormed) :
    ∀ symbol ∈ jsonToString value, isVisible symbol := by
  unfold jsonToString
  induction wellFormed with
  | null => exact List.all_eq_true.mp (by decide)
  | boolean value =>
      cases value <;> exact List.all_eq_true.mp (by decide)
  | int value =>
      rw [writeValue, ← text_integerText]
      exact (integerText _).visible
  | uint value =>
      rw [writeValue, ← text_integerText]
      exact (integerText _).visible
  | real => exact (printedDouble _).visible
  | string text => exact visible_valueToQuotedString text
  | @array elements _ visible =>
      cases elements with
      | nil => exact List.all_eq_true.mp (by decide)
      | cons first others =>
          obtain ⟨head, tail⟩ := List.forall_mem_cons.mp visible
          rw [writeValue, List.forall_mem_cons, List.forall_mem_append]
          exact ⟨by decide, head, visible_writeElements tail⟩
  | @object members _ _ visible =>
      cases members with
      | nil => exact List.all_eq_true.mp (by decide)
      | cons first others =>
          obtain ⟨head, tail⟩ := List.forall_mem_cons.mp visible
          rw [writeValue, List.forall_mem_cons, List.forall_mem_append]
          exact ⟨by decide, visible_writeMember head,
            visible_writeMembers tail⟩

/-! ## Documents -/

/-- A value is read back from its text if it has at most as many levels as the
stack holds; otherwise the reader throws. -/
theorem JsonValue.WellFormed.readerParse_eq {value : JsonValue}
    (wellFormed : value.WellFormed) :
    readerParse (jsonToString value) =
      if value.nestedAtMost stackLimit then .ok value.normal
      else .error .stackLimit := by
  have read := wellFormed.readsBack stackLimit [] (by simp [EndsValue])
  rw [List.append_nil] at read
  rw [readerParse, jsonToString, read]
  split_ifs <;> rfl

end OpenRTH
