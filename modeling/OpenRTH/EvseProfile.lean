import OpenRTH.ProfileSearch

/-!
# The profile of an EVSE

`configure` prints a profile in which every name is written in small letters and
with blanks, while `evse_initialize` asks for the names without blanks and with
capitals.  The printed profile is read back nevertheless: names are compared up
to both.
-/

namespace OpenRTH

/-! ## Written lines -/

section Lines

variable {line : List Char}

theorem lineOf_append (inside : ∀ symbol ∈ line, noBreak symbol = true)
    (rest : List Char) : lineOf (line ++ '\n' :: rest) = line := by
  rw [lineOf, List.takeWhile_append_of_pos inside,
    List.takeWhile_cons_of_neg (by decide), List.append_nil]

theorem lineOf_eq_self (inside : ∀ symbol ∈ line, noBreak symbol = true) :
    lineOf line = line :=
  List.takeWhile_eq_self_iff.mpr inside

theorem laterLines_append (inside : ∀ symbol ∈ line, noBreak symbol = true)
    (rest : List Char) :
    laterLines (line ++ '\n' :: rest) = rest :: laterLines rest := by
  induction line with
  | nil => rfl
  | cons symbol line ih =>
      obtain ⟨first, others⟩ := List.forall_mem_cons.mp inside
      rw [List.cons_append, laterLines, if_pos first, ih others]

theorem profileValue_append {part : CString} (item : CString)
    (inside : ∀ symbol ∈ line, noBreak symbol = true)
    (unnamed : namesPart part line = false) (rest : List Char) :
    profileValue part item (line ++ '\n' :: rest) =
      profileValue part item rest := by
  have skipped : namesPart part (line ++ '\n' :: rest) = false := by
    rw [← unnamed, namesPart, namesPart, lineOf_append inside,
      lineOf_eq_self inside]
  rw [profileValue, List.find?_cons, skipped, laterLines_append inside]
  rfl

/-- The value of an item in the lines of a part. -/
def itemOf (item file : List Char) : Option CString :=
  (((file :: laterLines file).takeWhile fun start =>
    start.head? ≠ some '[').find? (namesItem item)).map (itemValue item)

theorem profileValue_heading {part : CString} (item : CString)
    (inside : ∀ symbol ∈ line, noBreak symbol = true)
    (named : namesPart part line = true) (rest : List Char) :
    profileValue part item (line ++ '\n' :: rest) = itemOf item rest := by
  have opens : namesPart part (line ++ '\n' :: rest) = true := by
    rw [← named, namesPart, namesPart, lineOf_append inside,
      lineOf_eq_self inside]
  rw [profileValue, List.find?_cons, opens, Option.bind_some,
    laterLines_append inside]
  rfl

end Lines

/-! ## Written entries -/

/-- A symbol that a value can hold without an escape sequence. -/
def isPlainSymbol (symbol : Char) : Bool :=
  noBreak symbol && !isBlank symbol && symbol ≠ ';' && symbol ≠ '\\' &&
    symbol ≠ nul

/-- A name that may stand at the start of a line of a profile. -/
structure ProfileName where
  name : CString
  name_inside : ∀ symbol ∈ name, noBreak symbol = true
  name_unsigned : '=' ∉ squeezed name
  name_uncommented : (squeezed name).head? ≠ some ';'
  name_closed : name.head? ≠ some '['

/-- A name and its value. -/
structure ProfileEntry extends ProfileName where
  value : CString
  value_plain : ∀ symbol ∈ value, isPlainSymbol symbol = true
  value_fits : value.length ≤ 1023

/-- `printf ("%s = %s", name, value)`. -/
def ProfileEntry.line (entry : ProfileEntry) : List Char :=
  entry.name ++ [' ', '=', ' '] ++ entry.value

def writtenEntries (entries : List ProfileEntry) : List Char :=
  entries.flatMap fun entry => entry.line ++ ['\n']

theorem squeezed_append (first second : List Char) :
    squeezed (first ++ second) = squeezed first ++ squeezed second := by
  rw [squeezed, List.filter_append, List.map_append]
  rfl

theorem append_sign_prefix_iff {sign : Char} {first second : List Char}
    (inFirst : sign ∉ first) (inSecond : sign ∉ second) (rest : List Char) :
    first ++ [sign] <+: second ++ sign :: rest ↔ first = second := by
  induction first generalizing second with
  | nil =>
      cases second with
      | nil => simp
      | cons other second =>
          have differs : sign ≠ other := fun same =>
            inSecond (same ▸ List.mem_cons_self)
          simp [List.cons_prefix_cons, differs]
  | cons symbol first ih =>
      obtain ⟨differs, others⟩ := not_or.mp (mt List.mem_cons.mpr inFirst)
      cases second with
      | nil => simp [List.cons_prefix_cons, Ne.symm differs]
      | cons other second =>
          have rest := ih others fun member =>
            inSecond (List.mem_cons_of_mem _ member)
          simp only [List.cons_append, List.cons_prefix_cons, rest,
            List.cons.injEq]

namespace ProfileEntry

theorem value_inside (entry : ProfileEntry) :
    ∀ symbol ∈ entry.value, noBreak symbol = true := by
  intro symbol member
  have plain := entry.value_plain symbol member
  simp only [isPlainSymbol, Bool.and_eq_true] at plain
  exact plain.1.1.1.1

theorem line_inside (entry : ProfileEntry) :
    ∀ symbol ∈ entry.line, noBreak symbol = true := by
  intro symbol member
  simp only [line, List.mem_append, List.mem_cons, List.not_mem_nil,
    or_false] at member
  obtain (name | rfl | rfl | rfl) | value := member
  · exact entry.name_inside symbol name
  · decide
  · decide
  · decide
  · exact entry.value_inside symbol value

theorem squeezed_line (entry : ProfileEntry) :
    squeezed entry.line =
      squeezed entry.name ++ '=' :: squeezed entry.value := by
  rw [line, squeezed_append, squeezed_append, List.append_assoc]
  rfl

theorem head?_line (entry : ProfileEntry) (rest : List Char) :
    (entry.line ++ rest).head? ≠ some '[' := by
  have closed := entry.name_closed
  rw [line]
  cases name : entry.name with
  | nil => simp
  | cons symbol others => rw [name] at closed; simpa using closed

theorem namesItem_line (entry : ProfileEntry) {item : CString}
    (signless : '=' ∉ squeezed item) (rest : List Char) :
    namesItem item (entry.line ++ '\n' :: rest) =
      decide (squeezed entry.name = squeezed item) := by
  have uncommented : (squeezed entry.line).head? ≠ some ';' := by
    have name := entry.name_uncommented
    rw [squeezed_line]
    cases start : squeezed entry.name with
    | nil => simp
    | cons symbol others => rw [start] at name; simpa using name
  rw [namesItem, lineOf_append entry.line_inside, decide_eq_true uncommented,
    Bool.true_and, Bool.eq_iff_iff, List.isPrefixOf_iff_prefix, squeezed_line,
    append_sign_prefix_iff signless entry.name_unsigned, decide_eq_true_eq,
    eq_comm]

end ProfileEntry

theorem skipBlanks_cons {symbol : Char} (blank : isBlank symbol = true)
    (file : List Char) : skipBlanks (symbol :: file) = skipBlanks file :=
  List.dropWhile_cons_of_pos blank

theorem behindSymbols_sign (text rest : List Char) :
    behindSymbols ((squeezed text).length + 1) (text ++ '=' :: rest) =
      rest := by
  induction text with
  | nil => rfl
  | cons symbol text ih =>
      by_cases blank : isBlank symbol = true
      · rw [squeezed_cons_of_blank blank, List.cons_append, behindSymbols,
          skipBlanks_cons blank, ← behindSymbols, ih]
      · have first : skipBlanks (symbol :: (text ++ '=' :: rest)) =
            symbol :: (text ++ '=' :: rest) :=
          List.dropWhile_cons_of_neg blank
        rw [squeezed_cons (by simpa using blank), List.length_cons,
          List.cons_append, behindSymbols, first, List.tail_cons, ih]

theorem valueSymbols_plain {value : List Char}
    (plain : ∀ symbol ∈ value, isPlainSymbol symbol = true) (rest : List Char) :
    valueSymbols (value ++ '\n' :: rest) = value := by
  induction value with
  | nil =>
      rw [List.nil_append]
      unfold valueSymbols
      rw [if_pos (by decide)]
  | cons symbol value ih =>
      obtain ⟨first, others⟩ := List.forall_mem_cons.mp plain
      simp only [isPlainSymbol, Bool.and_eq_true, decide_eq_true_eq] at first
      obtain ⟨⟨⟨⟨inside, -⟩, comment⟩, escape⟩, -⟩ := first
      have goesOn : ¬(symbol = ';' ∨ ¬noBreak symbol = true) := by
        simp [comment, inside]
      rw [List.cons_append]
      unfold valueSymbols
      rw [if_neg goesOn, if_neg escape, ih others]

/-- A plain value is read as it stands. -/
theorem valueString_plain {value : List Char}
    (plain : ∀ symbol ∈ value, isPlainSymbol symbol = true)
    (fits : value.length ≤ 1023) (rest : List Char) :
    valueString (' ' :: (value ++ '\n' :: rest)) = value := by
  have solid : ∀ symbol ∈ value, isBlank symbol = false := by
    intro symbol member
    have first := plain symbol member
    simp only [isPlainSymbol, Bool.and_eq_true, Bool.not_eq_true'] at first
    exact first.1.1.1.2
  have noNul : nul ∉ value := fun member => by
    have first := plain nul member
    simp [isPlainSymbol] at first
  have start : skipBlanks (' ' :: (value ++ '\n' :: rest)) =
      value ++ '\n' :: rest := by
    rw [skipBlanks_cons (by decide)]
    cases value with
    | nil => rfl
    | cons symbol value =>
        exact List.dropWhile_cons_of_neg (by
          simp [solid symbol List.mem_cons_self])
  have kept : value.rdropWhile isBlank = value :=
    List.rdropWhile_eq_self_iff.mpr fun nonempty => by
      simp [solid _ (List.getLast_mem nonempty)]
  rw [valueString, start, valueSymbols_plain plain, kept,
    List.take_of_length_le fits, cString_eq_self noNul]

theorem itemValue_line (entry : ProfileEntry) {item : CString}
    (same : squeezed entry.name = squeezed item) (rest : List Char) :
    itemValue item (entry.line ++ '\n' :: rest) = entry.value := by
  have name : squeezed (entry.name ++ [' ']) = squeezed entry.name := by
    rw [squeezed_append]
    exact List.append_nil _
  have line : entry.line ++ '\n' :: rest =
      (entry.name ++ [' ']) ++
        '=' :: (' ' :: (entry.value ++ '\n' :: rest)) := by
    simp [ProfileEntry.line]
  rw [itemValue, line, ← same, ← name, behindSymbols_sign,
    valueString_plain entry.value_plain entry.value_fits]

/-- The first entry under a name is what is read under it. -/
theorem itemOf_writtenEntries {entries : List ProfileEntry} {item : CString}
    (signless : '=' ∉ squeezed item) {entry : ProfileEntry}
    (first : entries.find? (fun entry =>
      squeezed entry.name = squeezed item) = some entry) (rest : List Char) :
    itemOf item (writtenEntries entries ++ rest) = some entry.value := by
  induction entries with
  | nil => cases first
  | cons head entries ih =>
      have text : writtenEntries (head :: entries) ++ rest =
          head.line ++ '\n' :: (writtenEntries entries ++ rest) := by
        simp [writtenEntries]
      rw [text, itemOf,
        List.takeWhile_cons_of_pos
          (p := fun start : List Char => start.head? ≠ some '[')
          (decide_eq_true (head.head?_line _)),
        List.find?_cons, head.namesItem_line signless]
      rw [List.find?_cons] at first
      by_cases same : squeezed head.name = squeezed item
      · rw [decide_eq_true same] at first ⊢
        obtain rfl : head = entry := Option.some.inj first
        rw [Option.map_some, itemValue_line head same]
      · rw [decide_eq_false same] at first ⊢
        rw [laterLines_append head.line_inside]
        exact ih first

/-! ## The printed profile -/

theorem isPlainSymbol_digitChar (digit : Fin 16) :
    isPlainSymbol (Nat.digitChar digit) = true := by
  revert digit
  decide

theorem isPlainSymbol_convertBinaryToHex (bytes : List UInt8) :
    ∀ symbol ∈ convertBinaryToHex bytes, isPlainSymbol symbol = true := by
  intro symbol member
  obtain ⟨byte, -, digit⟩ := List.mem_flatMap.mp member
  have bounded := byte.toNat_lt
  simp only [hexByte, List.mem_cons, List.not_mem_nil, or_false] at digit
  obtain rfl | rfl := digit
  · exact isPlainSymbol_digitChar ⟨byte.toNat / 16, by omega⟩
  · exact isPlainSymbol_digitChar ⟨byte.toNat % 16, by omega⟩

/-- A line with a key, every byte printed with `%02x`. -/
def ProfileName.key {size : ℕ} (name : ProfileName)
    (key : FixedBuffer UInt8 size) (small : size ≤ 511) : ProfileEntry where
  toProfileName := name
  value := convertBinaryToHex key.contents
  value_plain := isPlainSymbol_convertBinaryToHex key.contents
  value_fits := by
    rw [length_convertBinaryToHex, key.length_contents]
    omega

/-- A line with a text. -/
def ProfileName.text (name : ProfileName) (value : CString)
    (plain : value.all isPlainSymbol = true) (fits : value.length ≤ 1023) :
    ProfileEntry where
  toProfileName := name
  value := value
  value_plain := List.all_eq_true.mp plain
  value_fits := fits

/-- A text as a name. -/
def ProfileName.ofText (name : CString)
    (inside : name.all noBreak = true) (unsigned : '=' ∉ squeezed name)
    (uncommented : (squeezed name).head? ≠ some ';')
    (closed : name.head? ≠ some '[') : ProfileName :=
  ⟨name, List.all_eq_true.mp inside, unsigned, uncommented, closed⟩

/-- The lines that `configure` prints behind its heading. -/
def configuredEntries (keys : GeneratedKeys) : List ProfileEntry :=
  [(ProfileName.ofText "network membership key".toList (by decide) (by decide)
      (by decide) (by decide)).key keys.evseNmk (by decide),
    (ProfileName.ofText "network identifier".toList (by decide) (by decide)
      (by decide) (by decide)).key keys.evseNid (by decide),
    (ProfileName.ofText "number of sounds".toList (by decide) (by decide)
      (by decide) (by decide)).text (Nat.toDigits 10 10) (by decide)
        (by decide),
    (ProfileName.ofText "time to sound".toList (by decide) (by decide)
      (by decide) (by decide)).text (Nat.toDigits 10 6) (by decide)
        (by decide),
    (ProfileName.ofText "response type".toList (by decide) (by decide)
      (by decide) (by decide)).text (Nat.toDigits 10 1) (by decide)
        (by decide)]

/-- A comment line that rules off. -/
def ruleLine (mark : Char) : List Char :=
  '#' :: ' ' :: List.replicate 68 mark

def titleLine : List Char := "# EVSE-HLE initiaization;".toList

/-- `SECTION`. -/
def defaultSection : CString := "default".toList

def headingLine : List Char := '[' :: defaultSection ++ [']']

/-- `configure`, with the keys in `EVSE_NMK` and `EVSE_NID`. -/
def configure (keys : GeneratedKeys) : List Char :=
  ruleLine '=' ++ ['\n'] ++ titleLine ++ ['\n'] ++ ruleLine '-' ++ ['\n'] ++
    headingLine ++ ['\n'] ++ writtenEntries (configuredEntries keys)

/-- The search of `configstring` in the files of a system; the array is the
static one, with what earlier calls have left in it. -/
def profileSearch (files : CString → Option (List Char))
    (memory : FixedBuffer Char 1024) : ConfigSearch :=
  fun file part item =>
    (files file).bind fun text =>
      match searchProfile part item memory text with
      | .found string => some string
      | _ => none

theorem profileSearch_eq {files : CString → Option (List Char)}
    {file : CString} {text : List Char} (stored : files file = some text)
    (memory : FixedBuffer Char 1024) (part item : CString) :
    profileSearch files memory file part item =
      profileValue part item text := by
  rw [profileSearch, stored, Option.bind_some, searchProfile,
    searchPart_eq part item memory _ text (Nat.lt_succ_self _)]
  cases profileValue part item text <;> rfl

theorem profileValue_configure {keys : GeneratedKeys} {item : CString}
    (signless : '=' ∉ squeezed item) {entry : ProfileEntry}
    (first : (configuredEntries keys).find? (fun entry =>
      squeezed entry.name = squeezed item) = some entry)
    (behind : List Char) :
    profileValue defaultSection item (configure keys ++ behind) =
      some entry.value := by
  have text : configure keys ++ behind =
      ruleLine '=' ++ '\n' :: (titleLine ++ '\n' :: (ruleLine '-' ++ '\n' ::
        (headingLine ++ '\n' ::
          (writtenEntries (configuredEntries keys) ++ behind)))) := by
    simp [configure]
  rw [text,
    profileValue_append item (List.all_eq_true.mp (by decide)) (by decide),
    profileValue_append item (List.all_eq_true.mp (by decide)) (by decide),
    profileValue_append item (List.all_eq_true.mp (by decide)) (by decide),
    profileValue_heading item (List.all_eq_true.mp (by decide)) (by decide),
    itemOf_writtenEntries signless first]

section Stored

variable {files : CString → Option (List Char)} {profile : CString}
variable {written : GeneratedKeys} {behind : List Char}

theorem configstring_configure
    (stored : files profile = some (configure written ++ behind))
    (memory : FixedBuffer Char 1024) (item : CString)
    (signless : '=' ∉ squeezed item) {entry : ProfileEntry}
    (first : (configuredEntries written).find? (fun entry =>
      squeezed entry.name = squeezed item) = some entry)
    (string : CString) :
    configstring (profileSearch files memory) (some profile)
      (some defaultSection) item string = entry.value := by
  rw [configstring, profileSearch_eq stored,
    profileValue_configure signless first, Option.getD_some]

theorem confignumber_configure
    (stored : files profile = some (configure written ++ behind))
    (memory : FixedBuffer Char 1024) (item : CString)
    (signless : '=' ∉ squeezed item) {entry : ProfileEntry}
    (first : (configuredEntries written).find? (fun entry =>
      squeezed entry.name = squeezed item) = some entry)
    {value : UInt32} (nonempty : entry.value ≠ [])
    (digits : configDigits entry.value = (value, [])) (number : UInt32) :
    confignumber (profileSearch files memory) (some profile)
      (some defaultSection) item number = value := by
  rw [confignumber, configstring_configure stored memory item signless first,
    digits]
  exact if_pos ⟨nonempty, rfl⟩

end Stored

/-- The profile that `configure` prints for some keys, whatever is written
behind it, gives an EVSE these keys and the constants of `slac.h`. -/
theorem evseInitialize_configured (files : CString → Option (List Char))
    (memory : FixedBuffer Char 1024) (profile : CString)
    (written generated : GeneratedKeys) (texts : KeyTexts)
    (session : EvseSession) (behind : List Char)
    (stored : files profile = some (configure written ++ behind)) :
    evseInitialize (profileSearch files memory) (some profile)
        (some defaultSection) generated texts session =
      some
        { nmk := written.evseNmk
          nid := written.evseNid
          numSounds := 10
          timeOut := 6
          respType := 1
          state := evseStateUnoccupied } := by
  obtain ⟨nmk, nmkPrinted, -⟩ := exists_sprintKey_string
    (contents_ne_nil generated.evseNmk) texts.nmk
    (by rw [generated.evseNmk.length_contents])
  obtain ⟨nid, nidPrinted, -⟩ := exists_sprintKey_string
    (contents_ne_nil generated.evseNid) texts.nid
    (by rw [generated.evseNid.length_contents])
  have membershipKey (string : CString) :
      configstring (profileSearch files memory) (some profile)
        (some defaultSection) "NetworkMembershipKey".toList string =
          convertBinaryToHex written.evseNmk.contents :=
    configstring_configure stored memory "NetworkMembershipKey".toList
      (by decide) rfl string
  have identifier (string : CString) :
      configstring (profileSearch files memory) (some profile)
        (some defaultSection) "NetworkIdentifier".toList string =
          convertBinaryToHex written.evseNid.contents :=
    configstring_configure stored memory "NetworkIdentifier".toList
      (by decide) rfl string
  have sounds : confignumber (profileSearch files memory) (some profile)
      (some defaultSection) "NumberOfSounds".toList 10 = 10 :=
    confignumber_configure stored memory "NumberOfSounds".toList (by decide)
      rfl (by decide) (by decide) 10
  have time : confignumber (profileSearch files memory) (some profile)
      (some defaultSection) "TimeToSound".toList 6 = 6 :=
    confignumber_configure stored memory "TimeToSound".toList (by decide)
      rfl (by decide) (by decide) 6
  have response : confignumber (profileSearch files memory) (some profile)
      (some defaultSection) "ResponseType".toList 1 = 1 :=
    confignumber_configure stored memory "ResponseType".toList (by decide)
      rfl (by decide) (by decide) 1
  simp only [evseInitialize, nmkPrinted, nidPrinted, membershipKey, identifier,
    hexencode_convertBinaryToHex, sounds, time, response, Option.bind_eq_bind,
    Option.bind_some]
  rfl

/-- Keys of zeros, read from a profile that stands alone in its system. -/
theorem evseInitialize_configured_zeros :
    ∃ (texts : KeyTexts) (session : EvseSession) (generated : GeneratedKeys),
      (evseInitialize
        (profileSearch (fun _ => some (configure
          ⟨⟨List.replicate 16 0, rfl⟩, ⟨List.replicate 7 0, rfl⟩⟩))
          ⟨List.replicate 1024 nul, List.length_replicate⟩)
        (some "evse.ini".toList) (some defaultSection) generated texts
        session).map (fun after => (after.nmk.contents, after.numSounds)) =
          some (List.replicate 16 0, 10) := by
  refine ⟨⟨⟨List.replicate 33 nul, rfl⟩, ⟨List.replicate 15 nul, rfl⟩⟩,
    ⟨⟨List.replicate 16 1, rfl⟩, ⟨List.replicate 7 1, rfl⟩, 0, 0, 0, 0⟩,
    ⟨⟨List.replicate 16 1, rfl⟩, ⟨List.replicate 7 1, rfl⟩⟩, ?_⟩
  rw [evseInitialize_configured (fun _ => some (configure
    ⟨⟨List.replicate 16 0, rfl⟩, ⟨List.replicate 7 0, rfl⟩⟩)) _
    "evse.ini".toList ⟨⟨List.replicate 16 0, rfl⟩, ⟨List.replicate 7 0, rfl⟩⟩
    _ _ _ [] (congrArg some (List.append_nil _).symm)]
  rfl

end OpenRTH
