import OpenRTH.ConfigSettings
import OpenRTH.TokenizerQuoting

/-!
# Writing settings to a file

A configuration file for any settings: strings stand between quote marks and
numbers are in decimal.  `fetch_config` reads every such file back.
-/

namespace OpenRTH

/-! ## Names and values -/

/-- Settings with strings that can stand between quote marks. -/
structure WrittenSettings where
  texts : TextField → QuotedToken
  numbers : NumberField → Int32

def WrittenSettings.settings (written : WrittenSettings) : Settings where
  texts field := (written.texts field).text
  numbers := written.numbers

def SettingField.place : SettingField → CString × CString
  | .text field => field.place
  | .number field => field.place

/-- The value of a setting, as it is written. -/
def WrittenSettings.value (written : WrittenSettings) :
    SettingField → CString
  | .text field => (written.texts field).text
  | .number field => decimal (written.numbers field).toInt

/-- The conditions on a name. -/
def ConfigName.proper (text : CString) : Bool :=
  text ≠ [] && text.all isNameSymbol &&
    text.head?.all (· ∉ ['#', '/', openBrace, closeBrace]) &&
    text.length < 512

theorem ConfigName.proper_iff (text : CString) :
    ConfigName.proper text = true ↔
      text ≠ [] ∧ (∀ symbol ∈ text, isNameSymbol symbol) ∧
        (∀ first ∈ text.head?, first ∉ ['#', '/', openBrace, closeBrace]) ∧
        text.length < 512 := by
  cases text <;> simp [ConfigName.proper, and_assoc]

def ConfigName.ofText (text : CString) (proper : ConfigName.proper text) :
    ConfigName where
  text := text
  nonempty := ((ConfigName.proper_iff text).mp proper).1
  plain := ((ConfigName.proper_iff text).mp proper).2.1
  unmarked := ((ConfigName.proper_iff text).mp proper).2.2.1
  short := ((ConfigName.proper_iff text).mp proper).2.2.2

theorem SettingField.proper_place (field : SettingField) :
    ConfigName.proper field.place.2 ∧ field.place.2.length ≤ 40 := by
  rcases field with field | field <;> cases field <;> decide +kernel

def SettingField.name (field : SettingField) : ConfigName :=
  .ofText field.place.2 field.proper_place.1

theorem QuotedToken.lineFeed_notMem (token : QuotedToken) :
    lineFeed ∉ token.rendered := by
  have notQuote : lineFeed ≠ token.quote := by
    intro same
    have notEol := isEol_eq_false_of_isQuote token.isQuote_quote
    rw [← same] at notEol
    cases notEol
  intro member
  rcases List.mem_cons.mp member with quote | behind
  · exact notQuote quote
  · rcases List.mem_append.mp behind with inside | quote
    · cases token.oneLine lineFeed inside
    · exact notQuote (List.mem_singleton.mp quote)

theorem QuotedToken.tokenizerParse_rendered (token : QuotedToken) :
    tokenizerParse (' ' :: token.rendered) = some [token.text] := by
  have parsed :=
    tokenizerParse_tokens ⟨[' '], by simp [isWs]⟩ ⟨[], by simp⟩ token []
  rwa [renderOthers, List.append_nil] at parsed

/-- Symbols of an unquoted token. -/
def IsPlainToken (text : CString) : Prop :=
  ∀ symbol ∈ text, isEol symbol = false ∧ isWs symbol = false ∧ symbol ≠ ','

theorem scanToken_plain {text : CString} (plain : IsPlainToken text) :
    scanToken none text = (text, []) := by
  induction text with
  | nil => rfl
  | cons symbol text ih =>
      obtain ⟨⟨notEol, notWs, notComma⟩, others⟩ :=
        List.forall_mem_cons.mp plain
      simp [scanToken, notEol, notWs, notComma, ih others]

theorem tokenizerParse_plain {first : Char} {text : CString}
    (plain : IsPlainToken (first :: text)) (unquoted : isQuote first = false)
    (short : (first :: text).length < 512) :
    tokenizerParse (' ' :: first :: text) = some [first :: text] := by
  obtain ⟨notEol, notWs, -⟩ := plain first List.mem_cons_self
  have next : nextToken (' ' :: first :: text) = some (first :: text, []) := by
    rw [nextToken, List.dropWhile_cons_of_pos (by decide),
      List.dropWhile_cons_of_neg (by simp [notWs])]
    simp only [notEol, unquoted, Bool.false_eq_true, if_false,
      scanToken_plain plain]
    rfl
  rw [tokenizerParse_eq, next]
  simp only [fixedToken, if_pos short]
  rfl

/-- The symbols of decimal numbers. -/
def IsDecimalSymbol (symbol : Char) : Prop :=
  symbol = '-' ∨ symbol.isDigit

theorem IsDecimalSymbol.ne {symbol : Char} (decimal : IsDecimalSymbol symbol)
    (other : Char) (notMinus : other ≠ '-') (noDigit : other.isDigit = false) :
    symbol ≠ other := by
  rintro rfl
  rcases decimal with minus | digit
  · exact notMinus minus
  · rw [noDigit] at digit
    cases digit

theorem isDecimalSymbol_of_mem {number : ℤ} {symbol : Char}
    (member : symbol ∈ decimal number) : IsDecimalSymbol symbol := by
  unfold decimal at member
  split_ifs at member
  · rcases List.mem_cons.mp member with minus | digit
    · exact .inl minus
    · exact .inr (Nat.isDigit_of_mem_toDigits (by decide) (by decide) digit)
  · exact .inr (Nat.isDigit_of_mem_toDigits (by decide) (by decide) member)

theorem tokenizerParse_decimal (number : Int32) :
    tokenizerParse (' ' :: decimal number.toInt) =
      some [decimal number.toInt] := by
  have short := length_decimal_le number
  have symbols : ∀ symbol ∈ decimal number.toInt, IsDecimalSymbol symbol :=
    fun _ => isDecimalSymbol_of_mem
  have nonempty : decimal number.toInt ≠ [] := by
    unfold decimal
    split_ifs
    · exact List.cons_ne_nil _ _
    · exact Nat.toDigits_ne_nil
  generalize decimal number.toInt = text at short symbols nonempty ⊢
  obtain ⟨first, rest, rfl⟩ := List.exists_cons_of_ne_nil nonempty
  refine tokenizerParse_plain (fun symbol member => ?_) ?_ (by omega)
  · have isDecimal := symbols symbol member
    have notNul := isDecimal.ne nul (by decide) rfl
    have notFeed := isDecimal.ne (Char.ofNat 10) (by decide) rfl
    have notReturn := isDecimal.ne (Char.ofNat 13) (by decide) rfl
    have notBlank := isDecimal.ne ' ' (by decide) rfl
    have notTab := isDecimal.ne (Char.ofNat 9) (by decide) rfl
    have notComma := isDecimal.ne ',' (by decide) rfl
    simp [isEol, isWs, notNul, notFeed, notReturn, notBlank, notTab, notComma]
  · have isDecimal := symbols first List.mem_cons_self
    have notDouble := isDecimal.ne (Char.ofNat 34) (by decide) rfl
    have notSingle := isDecimal.ne (Char.ofNat 39) (by decide) rfl
    simp [isQuote, notDouble, notSingle]

theorem lineFeed_notMem_decimal (number : ℤ) :
    lineFeed ∉ ' ' :: decimal number := by
  intro member
  rcases List.mem_cons.mp member with blank | inside
  · exact absurd blank (by decide)
  · exact (isDecimalSymbol_of_mem inside).ne _ (by decide) rfl rfl

theorem numberOf_decimal (long : LongWidth) (number : Int32) :
    numberOf long (decimal number.toInt) = number := by
  obtain ⟨least, greatest⟩ := long.contains number
  have short := length_decimal_le number
  have kept : withoutSeparators (decimal number.toInt) =
      decimal number.toInt :=
    List.filter_eq_self.mpr fun symbol member => decide_eq_true
      ((isDecimalSymbol_of_mem member).ne _ (by decide) rfl)
  rw [numberOf, cString_eq_self (nul_notMem_decimal _), kept,
    List.take_of_length_le (by omega), strtol_decimal least greatest,
    Int32.ofInt_toInt]

/-! ## The file -/

def generalName : ConfigName := .ofText "General".toList (by decide +kernel)
def mqttName : ConfigName := .ofText "MQTT".toList (by decide +kernel)

def generalFields : List SettingField :=
  [.text .logSetting, .number .responseDelayMs, .text .deviceType]

def mqttFields : List SettingField :=
  [.text .brokerIp, .number .brokerPort, .text .username, .text .password,
    .text .clientId, .text .evMessage, .text .evseMessage,
    .text .evJ1772StatusTopic, .text .evseJ1772StatusTopic, .text .evState,
    .text .evseState]

/-- The settings with their sections, in the order of the file. -/
def writtenPlaces : List (ConfigName × SettingField) :=
  generalFields.map (generalName, ·) ++ mqttFields.map (mqttName, ·)

/-- Every setting is found in its own place. -/
theorem find?_writtenPlaces (field : SettingField) :
    (writtenPlaces.reverse.find? fun place =>
      SameName place.1.text field.place.1 ∧
        SameName place.2.name.text field.place.2).map (·.2) = some field := by
  rcases field with field | field <;> cases field <;> decide +kernel

theorem placesRead_eq : placesRead [] fetchStatements =
    (writtenPlaces.map (·.2)).map SettingField.place := by
  decide +kernel

theorem linesFit_of_forall {lines : List ConfigLine}
    (fits : ∀ line ∈ lines, line.text.length ≤ 600) : LinesFit lines := by
  induction lines with
  | nil => exact trivial
  | cons line lines ih =>
      obtain ⟨first, others⟩ := List.forall_mem_cons.mp fits
      cases lines with
      | nil => exact Nat.lt_of_le_of_lt first (by decide)
      | cons next lines =>
          exact ⟨Nat.lt_of_le_of_lt (Nat.succ_le_succ first) (by decide),
            ih others⟩

namespace WrittenSettings

variable (written : WrittenSettings)

/-- A key and its value: strings between quote marks, numbers in decimal. -/
def line : SettingField → ConfigLine
  | .text field =>
      .entry 0 (SettingField.text field).name 1
        ⟨' ' :: (written.texts field).rendered, by
          rw [List.mem_cons, not_or]
          exact ⟨by decide, (written.texts field).lineFeed_notMem⟩⟩
        [(written.texts field).text]
        (written.texts field).tokenizerParse_rendered
  | .number field =>
      .entry 0 (SettingField.number field).name 1
        ⟨' ' :: decimal (written.numbers field).toInt,
          lineFeed_notMem_decimal _⟩
        [decimal (written.numbers field).toInt]
        (tokenizerParse_decimal _)

def sectionLines (name : ConfigName) (fields : List SettingField) :
    List ConfigLine :=
  .header 0 name ⟨[], List.not_mem_nil⟩ :: fields.map written.line

/-- The whole configuration file. -/
def lines : List ConfigLine :=
  written.sectionLines generalName generalFields ++
    written.sectionLines mqttName mqttFields

/-- What the line of a setting defines. -/
def defines (scope : ConfigName) (field : SettingField) : KeyDefinition :=
  ⟨some scope, field.name, [written.value field]⟩

theorem definitions_section (scope : Option ConfigName) (name : ConfigName)
    (fields : List SettingField) (rest : List ConfigLine) :
    definitions scope (written.sectionLines name fields ++ rest) =
      fields.map (written.defines name) ++ definitions (some name) rest := by
  have entries : definitions (some name) (fields.map written.line ++ rest) =
      fields.map (written.defines name) ++ definitions (some name) rest := by
    induction fields with
    | nil => rfl
    | cons field fields ih =>
        rw [List.map_cons, List.map_cons, List.cons_append, List.cons_append,
          ← ih]
        cases field <;> rfl
  exact entries

theorem definitions_lines :
    definitions none written.lines =
      writtenPlaces.map fun place => written.defines place.1 place.2 := by
  have general := written.definitions_section none generalName generalFields
    (written.sectionLines mqttName mqttFields)
  have mqtt :=
    written.definitions_section (some generalName) mqttName mqttFields []
  rw [List.append_nil] at mqtt
  rw [lines, general, mqtt, definitions, List.append_nil, writtenPlaces,
    List.map_append, List.map_map, List.map_map]
  rfl

theorem lookupSpec_lines (field : SettingField) :
    lookupSpec written.lines field.place.1 field.place.2 =
      some [written.value field] := by
  have wanted : (fun definition : KeyDefinition =>
      definition.inSection field.place.1 field.place.2) ∘
        (fun place : ConfigName × SettingField =>
          written.defines place.1 place.2) =
      fun place => decide (SameName place.1.text field.place.1 ∧
        SameName place.2.name.text field.place.2) := by
    funext place
    simp [KeyDefinition.inSection, defines]
  have found := find?_writtenPlaces field
  obtain ⟨place, found, rfl⟩ := Option.map_eq_some_iff.mp found
  rw [lookupSpec, definitions_lines, lastTokens, ← List.map_reverse,
    List.find?_map, wanted, found]
  rfl

theorem length_line_le (field : SettingField) :
    (written.line field).text.length ≤ 600 := by
  have shortName := field.proper_place.2
  cases field with
  | text field =>
      have short := (written.texts field).short
      simp [line, ConfigLine.text, blanks, QuotedToken.rendered,
        SettingField.name, ConfigName.ofText]
      omega
  | number field =>
      have short := length_decimal_le (written.numbers field)
      simp [line, ConfigLine.text, blanks, SettingField.name,
        ConfigName.ofText]
      omega

theorem linesFit_lines : LinesFit written.lines := by
  have headerFits (name : ConfigName) (short : name.text.length ≤ 40) :
      (ConfigLine.header 0 name ⟨[], List.not_mem_nil⟩).text.length ≤ 600 := by
    simp [ConfigLine.text, blanks]
    omega
  apply linesFit_of_forall
  intro line member
  simp only [lines, sectionLines, List.mem_append, List.mem_cons, List.mem_map]
    at member
  rcases member with (rfl | ⟨field, -, rfl⟩) | (rfl | ⟨field, -, rfl⟩)
  · exact headerFits generalName (by decide +kernel)
  · exact written.length_line_le field
  · exact headerFits mqttName (by decide +kernel)
  · exact written.length_line_le field

theorem firstMissing_lines :
    firstMissing written.lines [] fetchStatements = none := by
  rw [firstMissing, placesRead_eq, List.find?_eq_none]
  intro place member
  obtain ⟨field, -, rfl⟩ := List.mem_map.mp member
  simp [written.lookupSpec_lines field]

theorem firstValue_lines (field : SettingField) :
    firstValue written.lines field.place = written.value field := by
  have noNul : nul ∉ written.value field := by
    cases field with
    | text field =>
        intro member
        cases (written.texts field).oneLine nul member
    | number field => exact nul_notMem_decimal _
  rw [firstValue, written.lookupSpec_lines]
  exact cString_eq_self noNul

end WrittenSettings

/-- Settings that have been written to a file are fetched from it, whatever they
were before. -/
theorem fetchConfig_written {Double : Type} (library : Conversions Double)
    (written : WrittenSettings) (before : Settings) :
    fetchConfig library (some (fileText written.lines)) before =
      .returns written.settings := by
  rw [fetchConfig_returns library written.linesFit_lines
    written.firstMissing_lines, fileSettings, WrittenSettings.settings]
  congr 2
  · funext field
    exact written.firstValue_lines (.text field)
  · funext field
    have value := written.firstValue_lines (.number field)
    rw [SettingField.place] at value
    rw [value, WrittenSettings.value, numberOf_decimal]

/-- The strings of `rth.conf`. -/
def confText : TextField → CString
  | .logSetting => "on".toList
  | .deviceType => "EVSE".toList
  | .brokerIp => "example-broker-host.com".toList
  | .username => "username".toList
  | .password => "password".toList
  | .clientId => "rth-ev".toList
  | .evMessage => "RTH/ev/message".toList
  | .evseMessage => "RTH/evse/message".toList
  | .evJ1772StatusTopic => "RTH/ev/J1772_status".toList
  | .evseJ1772StatusTopic => "RTH/evse/J1772_status".toList
  | .evState => "RTH/ev/state".toList
  | .evseState => "RTH/evse/state".toList

def confNumber : NumberField → Int32
  | .responseDelayMs => Int32.ofNat 100
  | .brokerPort => Int32.ofNat 1883

theorem confText_fits (field : TextField) :
    '"' ∉ confText field ∧
      (confText field).all (isEol · = false) = true ∧
        (confText field).length ≤ 511 := by
  cases field <;> decide +kernel

def confSettings : WrittenSettings where
  texts field :=
    { text := confText field
      quote := '"'
      isQuote_quote := isQuote_doubleQuote
      quote_notMem := (confText_fits field).1
      oneLine := isEol_eq_false_of_all (confText_fits field).2.1
      short := (confText_fits field).2.2 }
  numbers := confNumber

theorem fetchConfig_written_conf :
    fetchConfig benchConversions (some (fileText confSettings.lines))
        noSettings = .returns confSettings.settings ∧
      confSettings.settings.texts .deviceType = "EVSE".toList ∧
        confSettings.settings.numbers .brokerPort = Int32.ofNat 1883 :=
  ⟨fetchConfig_written benchConversions confSettings noSettings, rfl, rfl⟩

end OpenRTH
