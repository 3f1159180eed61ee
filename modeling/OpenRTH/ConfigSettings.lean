import Mathlib.Data.Rat.Defs
import OpenRTH.ConfigIntegers
import OpenRTH.ConfigLookup
import OpenRTH.ConfigScripts
import OpenRTH.EarlyReturn

/-!
# Fetching the settings

`fetch_config` reads the configuration file and fetches one key after the other
into `config` and `mqtt`; the first key that is missing ends the process.  The
main result says what comes out for every file of sections and keys.
-/

namespace OpenRTH

/-! ## Values of a type -/

/-- `parse_bool`. -/
def parseBool (input : CString) : Bool :=
  if input.head?.any fun first => '1' ≤ first ∧ first ≤ '9' then true
  else makeLower input = "true".toList ∨ makeLower input = "on".toList

/-- What the conversions use of the C library, and what the array of `s_to_i`
holds at first. -/
structure Conversions (Double : Type) where
  long : LongWidth
  strtod : CString → Double
  buffer : FixedBuffer Char 100

/-- A value in one of the types that fields may have. -/
inductive FieldValue (Double : Type)
  | integer (value : Int32)
  | double (value : Double)
  | text (value : CString)
  | flag (value : Bool)

section Get

variable {Double : Type} (library : Conversions Double)

/-- The `switch` over the format with the overloads of `decode`: the value that
is stored, if the format is known, or `none` after a write outside an array. -/
def decode (format : Char) (value : CString) :
    Option (Option (FieldValue Double)) :=
  if format = 'i' then
    (sToI library.long value library.buffer).map fun number =>
      some (.integer number)
  else if format = 'f' then some (some (.double (library.strtod value)))
  else if format = 's' then some (some (.text value))
  else if format = 'b' then some (some (.flag (parseBool value)))
  else some none

/-- The loop of `CConfigFile::get` over the fields that the caller has given.
The last format counts for all further fields, and a field without a value gets
that of an empty string. -/
def getFields (format : Char) (formats : CString) (values : List CString) :
    ℕ → Option (List (Option (FieldValue Double)))
  | 0 => some []
  | fields + 1 => do
      let format := formats.headD format
      let stored ← decode library format (cString (values.headD []))
      let others ← getFields format formats.tail values.tail fields
      some (stored :: others)

/-- How `CConfigFile::get` ends; an exception carries its text. -/
inductive GetResult (Double : Type)
  | stored (fields : List (Option (FieldValue Double)))
  | missing
  | throws (what : CString)

/-- The text of the exception that `lookup` throws. -/
def notFound (key : CString) : CString :=
  "config key '".toList ++ key ++ "' not found".toList

/-- `CConfigFile::get`, with the number of fields that the caller has given;
`none` after a write outside an array. -/
def CConfigFile.get (config : CConfigFile) (throwOnFail : Bool)
    (key fmt : CString) (fields : ℕ) : Option (GetResult Double) :=
  match config.lookup throwOnFail key with
  | .found values => (getFields library 'i' fmt values fields).map .stored
  | .missing => some .missing
  | .throws => some (.throws (notFound key))

end Get

/-! ## `fetch_config` -/

/-- The strings of `config_t` and `mqtt_config_t`. -/
inductive TextField
  | logSetting
  | deviceType
  | brokerIp
  | username
  | password
  | clientId
  | evMessage
  | evseMessage
  | evJ1772StatusTopic
  | evseJ1772StatusTopic
  | evState
  | evseState
  deriving DecidableEq

/-- Their numbers, without `tls_setting`, which nothing sets. -/
inductive NumberField
  | responseDelayMs
  | brokerPort
  deriving DecidableEq

/-- The globals `config` and `mqtt`. -/
structure Settings where
  texts : TextField → CString
  numbers : NumberField → Int32

/-- A field to fetch a value into. -/
inductive SettingField
  | text (field : TextField)
  | number (field : NumberField)
  deriving DecidableEq

/-- The format that the overload of `get` for the field passes on. -/
def SettingField.format : SettingField → Char
  | .text _ => 's'
  | .number _ => 'i'

/-- Store a value in a field of its type. -/
def Settings.store {Double : Type} (settings : Settings) :
    SettingField → FieldValue Double → Settings
  | .text field, .text value =>
      { settings with texts := Function.update settings.texts field value }
  | .number field, .integer value =>
      { settings with numbers := Function.update settings.numbers field value }
  | _, _ => settings

/-- The statements of `fetch_config` that use the configuration file. -/
inductive FetchStatement
  | setCurrentSection (name : CString)
  | get (key : CString) (field : SettingField)

/-- The statements in the `try` block. -/
def fetchStatements : List FetchStatement :=
  [.setCurrentSection "General".toList,
    .get "logging".toList (.text .logSetting),
    .get "response_delay_ms".toList (.number .responseDelayMs),
    .get "device_type".toList (.text .deviceType),
    .setCurrentSection "MQTT".toList,
    .get "broker_ip".toList (.text .brokerIp),
    .get "broker_port".toList (.number .brokerPort),
    .get "username".toList (.text .username),
    .get "password".toList (.text .password),
    .get "client_id".toList (.text .clientId),
    .get "ev_message".toList (.text .evMessage),
    .get "evse_message".toList (.text .evseMessage),
    .get "ev_J1772_status_topic".toList (.text .evJ1772StatusTopic),
    .get "evse_J1772_status_topic".toList (.text .evseJ1772StatusTopic),
    .get "ev_state".toList (.text .evState),
    .get "evse_state".toList (.text .evseState)]

/-- The configuration file and the settings that have been fetched. -/
structure FetchState where
  conf : CConfigFile
  settings : Settings

/-- What ends the `try` block early. -/
inductive FetchStop
  | throws (what : CString)
  | overruns

/-- How `fetch_config` ends; before `exit` it has logged a message. -/
inductive FetchEnd
  | returns (settings : Settings)
  | exits (logged : CString)
  | overruns

/-- `strcat`; `none` after a write outside the array. -/
def strcat {size : ℕ} (destination : FixedBuffer Char size)
    (source : CString) : Option (FixedBuffer Char size) :=
  destination.store (destination.string nul).length (cString source ++ [nul])

def parameterMissing : CString :=
  "Config parameter missing or incorrect: ".toList

/-- The message that the handler puts together in `err_msg`. -/
def errMsg (what : CString) : Option CString := do
  let empty : FixedBuffer Char 100 := ⟨List.replicate 100 nul, rfl⟩
  let started ← strcat empty parameterMissing
  let whole ← strcat started what
  some (whole.string nul)

section Fetch

variable {Double : Type} (library : Conversions Double)

/-- One statement; the overloads of `get` pass the format and one field. -/
def FetchStatement.run (statement : FetchStatement) (state : FetchState) :
    FetchState × Option FetchStop :=
  match statement with
  | .setCurrentSection name =>
      ({ state with conf := state.conf.setCurrentSection name }, none)
  | .get key field =>
      match state.conf.get library true key [field.format] 1 with
      | some (.stored [some value]) =>
          ({ state with settings := state.settings.store field value }, none)
      | some (.throws what) => (state, some (.throws what))
      | some _ => (state, none)
      | none => (state, some .overruns)

/-- `fetch_config` on the content of the file, `none` when it cannot be
opened. -/
def fetchConfig (file : Option CString) (settings : Settings) : FetchEnd :=
  match CConfigFile.new.read file with
  | none => .overruns
  | some (false, _) =>
      .exits "Failed to open config file. Exiting application".toList
  | some (true, conf) =>
      match EarlyReturn.run (fetchStatements.map (FetchStatement.run library))
        ⟨conf, settings⟩ with
      | (after, none) => .returns after.settings
      | (_, some .overruns) => .overruns
      | (_, some (.throws what)) =>
          match errMsg what with
          | some message => .exits message
          | none => .overruns

end Fetch

/-! ## What the settings of a file are -/

/-- The section and the key of a setting. -/
def TextField.place : TextField → CString × CString
  | .logSetting => ("General".toList, "logging".toList)
  | .deviceType => ("General".toList, "device_type".toList)
  | .brokerIp => ("MQTT".toList, "broker_ip".toList)
  | .username => ("MQTT".toList, "username".toList)
  | .password => ("MQTT".toList, "password".toList)
  | .clientId => ("MQTT".toList, "client_id".toList)
  | .evMessage => ("MQTT".toList, "ev_message".toList)
  | .evseMessage => ("MQTT".toList, "evse_message".toList)
  | .evJ1772StatusTopic => ("MQTT".toList, "ev_J1772_status_topic".toList)
  | .evseJ1772StatusTopic => ("MQTT".toList, "evse_J1772_status_topic".toList)
  | .evState => ("MQTT".toList, "ev_state".toList)
  | .evseState => ("MQTT".toList, "evse_state".toList)

def NumberField.place : NumberField → CString × CString
  | .responseDelayMs => ("General".toList, "response_delay_ms".toList)
  | .brokerPort => ("MQTT".toList, "broker_port".toList)

/-- The first value that a file has for a key, or an empty string if there is
none behind the key. -/
def firstValue (lines : List ConfigLine) (place : CString × CString) :
    CString :=
  cString (((lookupSpec lines place.1 place.2).getD []).headD [])

/-- The number that a value is read as. -/
def numberOf (long : LongWidth) (value : CString) : Int32 :=
  Int32.ofInt (strtol long ((withoutSeparators (cString value)).take 99))

/-- The settings as the file has them. -/
def fileSettings (long : LongWidth) (lines : List ConfigLine) : Settings where
  texts field := firstValue lines field.place
  numbers field := numberOf long (firstValue lines field.place)

/-- The value that a file has for a field of the settings. -/
def SettingField.fileValue (Double : Type) (long : LongWidth)
    (lines : List ConfigLine) (place : CString × CString) :
    SettingField → FieldValue Double
  | .text _ => .text (firstValue lines place)
  | .number _ => .integer (numberOf long (firstValue lines place))

/-- The keys that the statements look up, with the section they are looked up
in. -/
def placesRead (sectionName : CString) :
    List FetchStatement → List (CString × CString)
  | [] => []
  | .setCurrentSection name :: statements => placesRead name statements
  | .get key _ :: statements =>
      (sectionName, key) :: placesRead sectionName statements

/-- The first key that the file does not have. -/
def firstMissing (lines : List ConfigLine) (sectionName : CString)
    (statements : List FetchStatement) : Option (CString × CString) :=
  (placesRead sectionName statements).find? fun place =>
    (lookupSpec lines place.1 place.2).isNone

/-- Store what the file has for the statements. -/
def storeRead (Double : Type) (long : LongWidth) (lines : List ConfigLine)
    (sectionName : CString) (settings : Settings) :
    List FetchStatement → Settings
  | [] => settings
  | .setCurrentSection name :: statements =>
      storeRead Double long lines name settings statements
  | .get key field :: statements =>
      storeRead Double long lines sectionName
        (settings.store field
          (field.fileValue Double long lines (sectionName, key))) statements

theorem storeRead_fetchStatements (Double : Type) (long : LongWidth)
    (lines : List ConfigLine) (settings : Settings) :
    storeRead Double long lines [] settings fetchStatements =
      fileSettings long lines := by
  obtain ⟨texts, numbers⟩ := settings
  simp only [fetchStatements, storeRead, SettingField.fileValue,
    Settings.store, fileSettings, Settings.mk.injEq]
  constructor
  · funext field
    cases field <;> rfl
  · funext field
    cases field <;> rfl

/-! ## Running the statements -/

section Run

variable {Double : Type} (library : Conversions Double) {conf : CConfigFile}
  {lines : List ConfigLine} {sectionName key : CString}

theorem cString_cString (text : List Char) :
    cString (cString text) = cString text := by
  unfold cString
  rw [List.takeWhile_takeWhile]
  simp

theorem FetchStatement.run_missing (missing : conf.existsKey key = none)
    (field : SettingField) (settings : Settings) :
    (FetchStatement.get key field).run library ⟨conf, settings⟩ =
      (⟨conf, settings⟩, some (.throws (notFound key))) := by
  simp [FetchStatement.run, CConfigFile.get, CConfigFile.lookup, missing]

theorem FetchStatement.run_found {values : List CString}
    (found : conf.existsKey key = some values) (field : SettingField)
    (meant : lookupSpec lines sectionName key = some values)
    (settings : Settings) :
    (FetchStatement.get key field).run library ⟨conf, settings⟩ =
      (⟨conf, settings.store field (field.fileValue Double library.long lines
        (sectionName, key))⟩, none) := by
  cases field <;>
    simp [FetchStatement.run, CConfigFile.get, CConfigFile.lookup, found,
      getFields, decode, SettingField.format, SettingField.fileValue,
      firstValue, meant, sToI_eq, numberOf, cString_cString]

/-- Keys are found in this object as they are meant in the file. -/
def HoldsFile (conf : CConfigFile) (lines : List ConfigLine) : Prop :=
  ∀ sectionName key, ¬ [':', ':'] <:+: key →
    (conf.setCurrentSection sectionName).existsKey key =
      lookupSpec lines sectionName key

/-- The statements store what the file has, up to the first key that is
missing. -/
theorem run_statements (holds : HoldsFile conf lines)
    (statements : List FetchStatement) (sectionName : CString)
    (unscoped : ∀ place ∈ placesRead sectionName statements,
      ¬ [':', ':'] <:+: place.2) (settings : Settings) :
    match firstMissing lines sectionName statements with
    | none => ∃ after,
        EarlyReturn.run (statements.map (FetchStatement.run library))
          ⟨conf.setCurrentSection sectionName, settings⟩ =
            (⟨after, storeRead Double library.long lines sectionName settings
              statements⟩, none)
    | some place => ∃ after,
        EarlyReturn.run (statements.map (FetchStatement.run library))
          ⟨conf.setCurrentSection sectionName, settings⟩ =
            (after, some (.throws (notFound place.2))) := by
  induction statements generalizing sectionName settings with
  | nil => exact ⟨_, rfl⟩
  | cons statement statements ih =>
      cases statement with
      | setCurrentSection name => exact ih name unscoped settings
      | get key field =>
          rw [placesRead, List.forall_mem_cons] at unscoped
          have looked := holds sectionName key unscoped.1
          cases meant : lookupSpec lines sectionName key with
          | none =>
              have stops := FetchStatement.run_missing library
                (looked.trans meant) field settings
              have first : firstMissing lines sectionName
                  (.get key field :: statements) =
                    some (sectionName, key) := by
                simp [firstMissing, placesRead, meant]
              rw [first]
              exact ⟨_, EarlyReturn.run_cons_of_fails stops _⟩
          | some values =>
              have stored := FetchStatement.run_found library
                (looked.trans meant) field meant settings
              have later : firstMissing lines sectionName
                  (.get key field :: statements) =
                    firstMissing lines sectionName statements := by
                simp [firstMissing, placesRead, meant]
              rw [later, storeRead, List.map_cons,
                EarlyReturn.run_cons_of_passes stored]
              exact ih sectionName unscoped.2 _

theorem exists_read (fit : LinesFit lines) :
    ∃ conf, CConfigFile.new.read (some (fileText lines)) = some (true, conf) ∧
      conf.mCurrentSection = [] ∧ HoldsFile conf lines := by
  have looked (sectionName key : CString) (unscoped : ¬ [':', ':'] <:+: key) :=
    lookupAfterRead_eq_lookupSpec fit sectionName unscoped
  unfold lookupAfterRead at looked
  cases read : CConfigFile.new.read (some (fileText lines)) with
  | none =>
      rw [read] at looked
      cases looked [] [] (by decide)
  | some result =>
      obtain ⟨succeeded, conf⟩ := result
      have shape := read
      unfold CConfigFile.read at shape
      obtain ⟨reader, -, same⟩ := Option.map_eq_some_iff.mp shape
      obtain ⟨rfl, rfl⟩ := Prod.mk.inj same
      refine ⟨_, rfl, rfl, fun sectionName key unscoped => ?_⟩
      have found := looked sectionName key unscoped
      rw [read] at found
      exact Option.some.inj found

/-! ## The message about a missing key -/

end Run

/-! ## The settings that are fetched -/

theorem placesRead_fetchStatements :
    ∀ place ∈ placesRead [] fetchStatements,
      ¬ [':', ':'] <:+: place.2 ∧ nul ∉ place.2 ∧ place.2.length ≤ 36 := by
  decide +kernel

section Ends

variable {Double : Type} (library : Conversions Double)
  {lines : List ConfigLine}

theorem fetchConfig_returns (fit : LinesFit lines)
    (allThere : firstMissing lines [] fetchStatements = none)
    (before : Settings) :
    fetchConfig library (some (fileText lines)) before =
      .returns (fileSettings library.long lines) := by
  obtain ⟨conf, read, noSection, holds⟩ := exists_read fit
  have started : conf.setCurrentSection [] = conf := by
    rw [CConfigFile.setCurrentSection, makeLower, ← noSection]
  have ran := run_statements library holds fetchStatements []
    (fun place member => (placesRead_fetchStatements place member).1) before
  rw [started, allThere] at ran
  obtain ⟨after, ran⟩ := ran
  unfold fetchConfig
  simp only [read, ran, storeRead_fetchStatements]

end Ends

def benchConversions : Conversions ℚ :=
  ⟨⟨64, by decide⟩, fun _ => 0, ⟨List.replicate 100 'x', rfl⟩⟩

def noSettings : Settings := ⟨fun _ => [], fun _ => 0⟩

end OpenRTH
