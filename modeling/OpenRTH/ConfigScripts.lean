import OpenRTH.ConfigBuffers
import Mathlib.Data.List.DropRight

/-!
# Scripts in the configuration file

A key may have a block of lines in braces behind it, which `get_script_vector`
hands out as they stand.  The main result says for which lines the block does
that and leaves the other keys of the file alone: the line of a body is looked
at for a section name before the reader asks whether it is in a script.
-/

namespace OpenRTH

/-! ## Fetching a script -/

/-- How fetching the values of a key ends. -/
inductive ConfigFetch
  | found (values : List CString)
  | missing
  | throws
  deriving DecidableEq

/-- `CConfigFile::lookup`; the flag is `m_throw_on_fail`. -/
def CConfigFile.lookup (config : CConfigFile) (throwOnFail : Bool)
    (key : CString) : ConfigFetch :=
  match config.existsKey key with
  | some values => .found values
  | none => if throwOnFail then .throws else .missing

/-- `CConfigFile::get_script_vector`. -/
def CConfigFile.getScriptVector (config : CConfigFile) (throwOnFail : Bool)
    (key : CString) : ConfigFetch :=
  match config.lookup throwOnFail key with
  | .found scriptLines => .found scriptLines
  | failure => failure

/-- The name in `m_specs` that a key has in a section. -/
def specName (sectionName key : CString) : CString :=
  if [':', ':'] <:+: makeLower key then makeLower key
  else scopedKey (makeLower sectionName) (makeLower key)

theorem existsKey_of_mSpecs {config : CConfigFile} {sectionName key : CString}
    {values : List CString}
    (kept : config.mSpecs (specName sectionName key) = some values) :
    (config.setCurrentSection sectionName).existsKey key = some values := by
  unfold specName at kept
  unfold CConfigFile.existsKey
  dsimp only [CConfigFile.setCurrentSection]
  split_ifs at kept ⊢
  · exact kept
  · rw [kept]

theorem getScriptVector_eq_found_iff (config : CConfigFile)
    (throwOnFail : Bool) (key : CString) (values : List CString) :
    config.getScriptVector throwOnFail key = .found values ↔
      config.existsKey key = some values := by
  unfold CConfigFile.getScriptVector CConfigFile.lookup
  cases config.existsKey key with
  | some others => simp
  | none => cases throwOnFail <;> simp

/-! ## Which keys a line assigns -/

/-- The variables of `read` that say what the next line means. -/
structure ReaderControl where
  scopedKeyName : CString
  inScript : Bool
  parsingSection : CString

def ReaderControl.start : ReaderControl := ⟨[], false, []⟩

namespace ReaderControl

/-- The name of the key on a line, with its section. -/
def keyName (control : ReaderControl) (line : CString) : CString :=
  scopedKey control.parsingSection
    ((delimitedText (trimmed line) '=').map Char.toLower)

def next (control : ReaderControl) (line : CString) : ReaderControl :=
  match lineKind (trimmed line) with
  | .ignored => control
  | .header name =>
      { control with
        parsingSection := (delimitedText name ']').map Char.toLower }
  | .opens => { control with inScript := true }
  | .closes => { control with inScript := false }
  | .plain =>
      if control.inScript then control
      else { control with scopedKeyName := control.keyName line }

/-- The key that gets its values by a line. -/
def assigned (control : ReaderControl) (line : CString) : Option CString :=
  match lineKind (trimmed line) with
  | .closes => if control.inScript then some control.scopedKeyName else none
  | .plain => if control.inScript then none else some (control.keyName line)
  | _ => none

def assignedKeys (control : ReaderControl) : List CString → List CString
  | [] => []
  | line :: lines =>
      (control.assigned line).toList ++ (control.next line).assignedKeys lines

end ReaderControl

def ConfigReader.control (reader : ConfigReader) : ReaderControl :=
  ⟨reader.scopedKeyName, reader.inScript, reader.parsingSection⟩

theorem eq_of_parseToDelimeter {input parsed : CString} {delimeter : Char}
    (fits : parseToDelimeter input delimeter = some parsed) :
    parsed = (delimitedText input delimeter).map Char.toLower := by
  rw [parseToDelimeter_eq, fixedToken] at fits
  split_ifs at fits
  exact (Option.some.inj fits).symm

theorem readKey_cases {reader after : ConfigReader} {line : CString}
    (read : readKey reader (trimmed line) = some after) :
    ∃ values, after =
      { reader with
        values := values
        scopedKeyName := reader.control.keyName line
        mSpecs := reader.mSpecs.insert (reader.control.keyName line)
          values } := by
  unfold readKey at read
  split at read
  · cases read
  · next baseKeyName parsed =>
      rw [eq_of_parseToDelimeter parsed] at read
      obtain ⟨values, -, rfl⟩ := Option.map_eq_some_iff.mp read
      exact ⟨values, rfl⟩

theorem SpecMap.insert_of_ne (specs : SpecMap) {key other : CString}
    (differs : other ≠ key) (values : List CString) :
    specs.insert key values other = specs other :=
  if_neg differs

/-- What a line does to the control variables and to the keys that it does not
assign. -/
theorem control_of_readLine {reader after : ConfigReader} {line : CString}
    (read : readLine reader line = some after) :
    after.control = reader.control.next line ∧
      ∀ key, reader.control.assigned line ≠ some key →
        after.mSpecs key = reader.mSpecs key := by
  rw [readLine_eq] at read
  unfold ReaderControl.next ReaderControl.assigned
  cases kind : lineKind (trimmed line) with
  | ignored =>
      simp only [kind] at read
      cases read
      exact ⟨rfl, fun _ _ => rfl⟩
  | header name =>
      simp only [kind] at read
      obtain ⟨parsed, fits, rfl⟩ := Option.map_eq_some_iff.mp read
      rw [eq_of_parseToDelimeter fits]
      exact ⟨rfl, fun _ _ => rfl⟩
  | opens =>
      simp only [kind] at read
      cases read
      exact ⟨rfl, fun _ _ => rfl⟩
  | closes =>
      simp only [kind] at read
      cases read
      refine ⟨rfl, fun key other => ?_⟩
      by_cases inScript : reader.inScript
      · have inside : reader.control.inScript = true := inScript
        have differs : key ≠ reader.scopedKeyName := by
          rintro rfl
          exact other (if_pos inside)
        rw [if_pos inScript]
        exact SpecMap.insert_of_ne _ differs _
      · rw [if_neg inScript]
  | plain =>
      simp only [kind] at read
      by_cases inScript : reader.inScript
      · have inside : reader.control.inScript = true := inScript
        rw [if_pos inScript] at read
        cases read
        exact ⟨(if_pos inside).symm, fun _ _ => rfl⟩
      · have outside : ¬ reader.control.inScript = true := inScript
        rw [if_neg inScript] at read
        obtain ⟨values, rfl⟩ := readKey_cases read
        refine ⟨(if_neg outside).symm, fun key other => ?_⟩
        have differs : key ≠ reader.control.keyName line := by
          rintro rfl
          exact other (if_neg outside)
        exact SpecMap.insert_of_ne _ differs _

theorem control_of_readLines {reader after : ConfigReader}
    {lines : List CString}
    (read : lines.foldlM readLine reader = some after) :
    after.control = lines.foldl ReaderControl.next reader.control ∧
      ∀ key ∉ reader.control.assignedKeys lines,
        after.mSpecs key = reader.mSpecs key := by
  induction lines generalizing reader with
  | nil =>
      cases read
      exact ⟨rfl, fun _ _ => rfl⟩
  | cons line lines ih =>
      obtain ⟨next, first, rest⟩ := Option.bind_eq_some_iff.mp read
      obtain ⟨control, others⟩ := control_of_readLine first
      obtain ⟨controlRest, othersRest⟩ := ih rest
      rw [control] at controlRest othersRest
      refine ⟨controlRest, fun key unassigned => ?_⟩
      rw [ReaderControl.assignedKeys, List.mem_append, not_or] at unassigned
      rw [othersRest key unassigned.2, others key]
      exact fun assigned => unassigned.1 (by simp [assigned])

/-! ## The lines of a script -/

/-- The line without the carriage returns at its end and without leading
blanks. -/
def bodyText (line : CString) : CString :=
  (line.rdropWhile (· = carriageReturn)).dropWhile (· = ' ')

/-- What `read` keeps of a line in a script. -/
def scriptLine (line : CString) : Option CString :=
  if lineKind (trimmed line) = .plain then some (trimmed line) else none

/-- No section name, and no end of a line before its end. -/
def KeptWhole (line : CString) : Prop :=
  lineKind (bodyText line) = .plain ∧
    ∀ symbol ∈ line.rdropWhile (· = carriageReturn), isEol symbol = false

instance (line : CString) : Decidable (KeptWhole line) :=
  inferInstanceAs (Decidable (_ ∧ _))

theorem beforeEol_rdropWhile (line : CString) :
    beforeEol (line.rdropWhile (· = carriageReturn)) = beforeEol line := by
  induction line using List.reverseRecOn with
  | nil => rfl
  | append_singleton line last ih =>
      by_cases isEnd : last = carriageReturn
      · rw [List.rdropWhile_concat_pos _ _ _ (by simpa using isEnd), ih, isEnd,
          beforeEol_concat_of_eol rfl]
      · rw [List.rdropWhile_concat_neg _ _ _ (by simpa using isEnd)]

theorem trimmed_eq_dropWhile (line : CString) :
    trimmed line =
      (beforeEol (line.rdropWhile (· = carriageReturn))).dropWhile
        (· = ' ') := by
  rw [beforeEol_rdropWhile, trimmed, chomp_eq]

theorem trimmed_eq_bodyText {line : CString}
    (oneLine : ∀ symbol ∈ line.rdropWhile (· = carriageReturn),
      isEol symbol = false) : trimmed line = bodyText line := by
  rw [trimmed_eq_dropWhile, bodyText, beforeEol,
    List.takeWhile_eq_self_iff.mpr fun symbol member => by
      simp [oneLine symbol member]]

theorem bodyText_eq_append (line : CString) :
    trimmed line = [] ∨
      bodyText line = trimmed line ++
        (line.rdropWhile (· = carriageReturn)).dropWhile
          fun symbol => !isEol symbol := by
  rw [trimmed_eq_dropWhile, bodyText]
  generalize line.rdropWhile (· = carriageReturn) = text
  have split := List.takeWhile_append_dropWhile
    (p := fun symbol => !isEol symbol) (l := text)
  rw [← beforeEol] at split
  by_cases blank : (beforeEol text).dropWhile (· = ' ') = []
  · exact .inl blank
  · right
    conv_lhs => rw [← split]
    rw [List.dropWhile_append, if_neg (by simpa using blank)]

theorem oneLine_of_trimmed_eq {line : CString} (nonblank : trimmed line ≠ [])
    (same : trimmed line = bodyText line) :
    ∀ symbol ∈ line.rdropWhile (· = carriageReturn),
      isEol symbol = false := by
  have split := (bodyText_eq_append line).resolve_left nonblank
  rw [← same, List.self_eq_append_right, List.dropWhile_eq_nil_iff] at split
  simpa using split

theorem head?_bodyText {line : CString} {first : Char}
    (start : (trimmed line).head? = some first) :
    (bodyText line).head? = some first := by
  rcases bodyText_eq_append line with blank | split
  · rw [blank] at start
    cases start
  · rw [split, List.head?_append, start]
    rfl

theorem scriptLine_eq_some_iff (line : CString) :
    scriptLine line = some (bodyText line) ↔ KeptWhole line := by
  unfold scriptLine KeptWhole
  constructor
  · intro kept
    split_ifs at kept with plain
    have same := Option.some.inj kept
    have nonblank : trimmed line ≠ [] := by
      intro blank
      rw [blank] at plain
      cases plain
    exact ⟨same ▸ plain, oneLine_of_trimmed_eq nonblank same⟩
  · rintro ⟨plain, oneLine⟩
    rw [trimmed_eq_bodyText oneLine, if_pos plain]

/-! ## Reading a script -/

/-- The lines of a script are recorded, whatever else they do. -/
theorem readBody {reader after : ConfigReader} {body : List CString}
    (unmarked : ∀ line ∈ body, lineKind (trimmed line) ≠ .opens ∧
      lineKind (trimmed line) ≠ .closes)
    (read : body.foldlM readLine reader = some after)
    (inScript : reader.inScript = true) :
    after.inScript = true ∧ after.scopedKeyName = reader.scopedKeyName ∧
      after.mSpecs = reader.mSpecs ∧
      after.values = reader.values ++ body.filterMap scriptLine := by
  induction body generalizing reader with
  | nil =>
      cases read
      exact ⟨inScript, rfl, rfl, by simp⟩
  | cons line body ih =>
      obtain ⟨next, first, rest⟩ := Option.bind_eq_some_iff.mp read
      obtain ⟨notOpens, notCloses⟩ := unmarked line List.mem_cons_self
      have unmarkedRest := fun other member =>
        unmarked other (List.mem_cons_of_mem line member)
      rw [readLine_eq] at first
      cases kind : lineKind (trimmed line) with
      | ignored =>
          have dropped : scriptLine line = none := by simp [scriptLine, kind]
          simp only [kind] at first
          cases first
          rw [List.filterMap_cons_none dropped]
          exact ih unmarkedRest rest inScript
      | header name =>
          have dropped : scriptLine line = none := by simp [scriptLine, kind]
          simp only [kind] at first
          obtain ⟨parsed, -, rfl⟩ := Option.map_eq_some_iff.mp first
          obtain ⟨still, name, specs, values⟩ := ih unmarkedRest rest inScript
          rw [List.filterMap_cons_none dropped]
          exact ⟨still, name, specs, values⟩
      | opens => exact absurd kind notOpens
      | closes => exact absurd kind notCloses
      | plain =>
          have kept : scriptLine line = some (trimmed line) :=
            if_pos kind
          simp only [kind, if_pos inScript] at first
          cases first
          obtain ⟨still, name, specs, values⟩ :=
            ih unmarkedRest rest inScript
          refine ⟨still, name, specs, ?_⟩
          rw [values, List.filterMap_cons_some kept]
          exact List.append_assoc _ _ _

theorem readBody_plain {reader : ConfigReader} {body : List CString}
    (plain : ∀ line ∈ body, lineKind (trimmed line) = .plain)
    (inScript : reader.inScript = true) :
    body.foldlM readLine reader =
      some { reader with values := reader.values ++ body.map trimmed } := by
  induction body generalizing reader with
  | nil => simp
  | cons line body ih =>
      have plainRest := fun other member =>
        plain other (List.mem_cons_of_mem line member)
      have recorded : readLine reader line =
          some { reader with values := reader.values ++ [trimmed line] } := by
        rw [readLine_eq, plain line List.mem_cons_self]
        exact if_pos inScript
      have still : { reader with
          values := reader.values ++ [trimmed line] }.inScript = true :=
        inScript
      rw [List.foldlM_cons, recorded]
      refine (ih plainRest still).trans ?_
      simp

/-- The reader behind a script. -/
def ConfigReader.recordScript (reader : ConfigReader)
    (values : List CString) : ConfigReader :=
  { reader with
    values := values
    mSpecs := reader.mSpecs.insert reader.scopedKeyName values
    inScript := false }

theorem read_joinLines (config : CConfigFile) {lines : List CString}
    (oneLine : ∀ line ∈ lines, lineFeed ∉ line) (fit : FitLineBuffer lines) :
    config.read (some (joinLines lines)) =
      (lines.foldlM readLine ⟨config.mSpecs, [], [], false, []⟩).map
        fun reader => (true, { config with mSpecs := reader.mSpecs }) := by
  rw [CConfigFile.read, fgetsLines_joinLines oneLine fit]

/-! ## Two readings that differ in one key -/

/-- What two readers agree on when they differ in the values of a key. -/
structure SameBut (key : CString) (left right : ConfigReader) : Prop where
  control : left.control = right.control
  values : left.inScript = true → left.values = right.values
  others : ∀ other, other ≠ key → left.mSpecs other = right.mSpecs other

namespace SameBut

variable {key : CString} {left right : ConfigReader}

theorem insert_eq {leftSpecs rightSpecs : SpecMap}
    (others : ∀ other, other ≠ key → leftSpecs other = rightSpecs other)
    (name : CString) (values : List CString) (other : CString)
    (differs : other ≠ key) :
    leftSpecs.insert name values other =
      rightSpecs.insert name values other := by
  unfold SpecMap.insert
  split_ifs
  · rfl
  · exact others other differs

theorem readKey (same : SameBut key left right)
    (outside : left.inScript = false) {line : CString} {after : ConfigReader}
    (read : OpenRTH.readKey left line = some after) :
    ∃ other, OpenRTH.readKey right line = some other ∧
      SameBut key after other := by
  obtain ⟨control, -, others⟩ := same
  cases left with | mk specs values name inScript parsing =>
  cases right with | mk otherSpecs otherValues otherName otherScript other =>
  cases control
  unfold OpenRTH.readKey at read ⊢
  cases parsed : parseToDelimeter line '=' with
  | none =>
      rw [parsed] at read
      cases read
  | some baseKeyName =>
      simp only [parsed] at read ⊢
      obtain ⟨found, tokens, rfl⟩ := Option.map_eq_some_iff.mp read
      rw [tokens]
      exact ⟨_, rfl, rfl, fun _ => rfl, insert_eq others _ _⟩

theorem readLine (same : SameBut key left right) {line : CString}
    {after : ConfigReader} (read : OpenRTH.readLine left line = some after) :
    ∃ other, OpenRTH.readLine right line = some other ∧
      SameBut key after other := by
  have sameScript : left.inScript = right.inScript :=
    congrArg ReaderControl.inScript same.control
  have sameName : left.scopedKeyName = right.scopedKeyName :=
    congrArg ReaderControl.scopedKeyName same.control
  have sameSection : left.parsingSection = right.parsingSection :=
    congrArg ReaderControl.parsingSection same.control
  rw [readLine_eq] at read
  rw [readLine_eq]
  cases kind : lineKind (trimmed line) with
  | ignored =>
      simp only [kind] at read
      cases read
      exact ⟨right, rfl, same⟩
  | header name =>
      simp only [kind] at read
      obtain ⟨parsed, fits, rfl⟩ := Option.map_eq_some_iff.mp read
      refine ⟨{ right with parsingSection := parsed }, by simp [fits], ?_⟩
      refine ⟨?_, same.values, same.others⟩
      simp only [ConfigReader.control, sameScript, sameName]
  | opens =>
      simp only [kind] at read
      cases read
      refine ⟨_, rfl, ?_, fun _ => rfl, same.others⟩
      simp only [ConfigReader.control, sameName, sameSection]
  | closes =>
      simp only [kind] at read
      cases read
      refine ⟨_, rfl, ?_, nofun, ?_⟩
      · simp only [ConfigReader.control, sameName, sameSection]
      · intro other differs
        by_cases inScript : left.inScript
        · dsimp only
          rw [if_pos inScript, if_pos (sameScript ▸ inScript), ← sameName,
            ← same.values inScript]
          exact insert_eq same.others _ _ other differs
        · dsimp only
          rw [if_neg inScript, if_neg (sameScript ▸ inScript)]
          exact same.others other differs
  | plain =>
      simp only [kind] at read
      dsimp only
      by_cases inScript : left.inScript
      · rw [if_pos inScript] at read
        rw [if_pos (sameScript ▸ inScript)]
        cases read
        refine ⟨_, rfl, ?_, ?_, same.others⟩
        · simp only [ConfigReader.control, sameScript, sameName, sameSection]
        · intro still
          dsimp only
          rw [same.values still]
      · rw [if_neg inScript] at read
        rw [if_neg (sameScript ▸ inScript)]
        exact same.readKey (by simpa using inScript) read

theorem readLines (same : SameBut key left right) {lines : List CString}
    {after : ConfigReader}
    (read : lines.foldlM OpenRTH.readLine left = some after) :
    ∃ other, lines.foldlM OpenRTH.readLine right = some other ∧
      SameBut key after other := by
  induction lines generalizing left right with
  | nil =>
      cases read
      exact ⟨right, rfl, same⟩
  | cons line lines ih =>
      obtain ⟨next, first, rest⟩ := Option.bind_eq_some_iff.mp read
      obtain ⟨otherNext, otherFirst, sameNext⟩ := same.readLine first
      obtain ⟨other, otherRest, sameAfter⟩ := ih sameNext rest
      refine ⟨other, ?_, sameAfter⟩
      rw [List.foldlM_cons, otherFirst]
      exact otherRest

theorem recordScript (reader : ConfigReader) (texts others : List CString) :
    SameBut reader.scopedKeyName (reader.recordScript texts)
      (reader.recordScript others) := by
  refine ⟨rfl, nofun, fun other differs => ?_⟩
  dsimp only [ConfigReader.recordScript]
  rw [SpecMap.insert_of_ne _ differs, SpecMap.insert_of_ne _ differs]

end SameBut

/-! ## Files with a script -/

/-- The lines of a file around a script. -/
structure ScriptBlock where
  before : List CString
  key : CString
  opening : CString
  body : List CString
  closing : CString
  after : List CString

namespace ScriptBlock

/-- The lines up to the key of the script. -/
def heading (block : ScriptBlock) : List CString :=
  block.before ++ [block.key]

def script (block : ScriptBlock) : List CString :=
  block.opening :: (block.body ++ [block.closing])

def lines (block : ScriptBlock) : List CString :=
  block.heading ++ (block.script ++ block.after)

/-- The same lines around another body. -/
def withBody (block : ScriptBlock) (body : List CString) : ScriptBlock :=
  { block with body := body }

/-- The name of the key, with its section. -/
def name (block : ScriptBlock) : CString :=
  (block.heading.foldl ReaderControl.next .start).scopedKeyName

end ScriptBlock

/-- A file with a script, the last definition of its key. -/
structure ScriptFile extends ScriptBlock where
  oneLine : ∀ line ∈ toScriptBlock.lines, lineFeed ∉ line
  fit : FitLineBuffer toScriptBlock.lines
  outside : (before.foldl ReaderControl.next .start).inScript = false
  isKey : lineKind (trimmed key) = .plain
  opens : lineKind (trimmed opening) = .opens
  closes : lineKind (trimmed closing) = .closes
  unmarked : ∀ line ∈ body,
    lineKind (bodyText line) ∉ [.ignored, .opens, .closes]
  last : toScriptBlock.name ∉
    ((toScriptBlock.heading ++ toScriptBlock.script).foldl
      ReaderControl.next .start).assignedKeys after

/-- The script is found as it stands in the file, and the other keys with the
values that they have without it. -/
def ScriptFile.Verbatim (file : ScriptFile) (config : CConfigFile) : Prop :=
  ∃ full bare,
    config.read (some (joinLines file.lines)) = some (true, full) ∧
      config.read (some (joinLines (file.withBody []).lines)) =
        some (true, bare) ∧
      (∀ sectionName key throwOnFail, specName sectionName key = file.name →
        (full.setCurrentSection sectionName).getScriptVector throwOnFail key =
          .found (file.body.map bodyText)) ∧
      ∀ other, other ≠ file.name → full.mSpecs other = bare.mSpecs other

/-! ## The name of the key -/

theorem lowered_parsingSection {control : ReaderControl}
    (lowered : ∀ symbol ∈ control.parsingSection, symbol.toLower = symbol)
    (lines : List CString) :
    ∀ symbol ∈ (lines.foldl ReaderControl.next control).parsingSection,
      symbol.toLower = symbol := by
  induction lines generalizing control with
  | nil => exact lowered
  | cons line lines ih =>
      apply ih
      unfold ReaderControl.next
      cases lineKind (trimmed line) with
      | header name =>
          intro symbol member
          obtain ⟨original, -, rfl⟩ := List.mem_map.mp member
          exact toLower_toLower original
      | plain =>
          dsimp only
          split_ifs <;> exact lowered
      | _ => exact lowered

namespace ScriptFile

theorem name_eq (file : ScriptFile) :
    file.name =
      (file.before.foldl ReaderControl.next .start).keyName file.key := by
  rw [ScriptBlock.name, ScriptBlock.heading, List.foldl_concat,
    ReaderControl.next, file.isKey]
  dsimp only
  rw [if_neg (by simp [file.outside])]

theorem specName_name (file : ScriptFile) :
    specName [] file.name = file.name := by
  have noSection : ∀ symbol ∈ ReaderControl.start.parsingSection,
      symbol.toLower = symbol := by
    nofun
  have lowered : makeLower file.name = file.name := by
    apply makeLower_eq_self
    rw [name_eq, ReaderControl.keyName, scopedKey]
    intro symbol member
    simp only [List.mem_append] at member
    rcases member with (inSection | colon) | inKey
    · exact lowered_parsingSection noSection _ symbol inSection
    · simp only [List.mem_cons, List.not_mem_nil, or_false, or_self] at colon
      rw [colon]
      rfl
    · obtain ⟨original, -, rfl⟩ := List.mem_map.mp inKey
      exact toLower_toLower original
  rw [specName, lowered, if_pos]
  rw [name_eq]
  exact ⟨_, _, rfl⟩

/-! ## Reading the file -/

variable {reader after : ConfigReader} {config : CConfigFile}

theorem readLine_opening (file : ScriptFile) (reader : ConfigReader) :
    readLine reader file.opening =
      some { reader with values := [], inScript := true } := by
  rw [readLine_eq, file.opens]

/-- The whole script, without the lines that are dropped. -/
theorem readScript (file : ScriptFile)
    (read : file.script.foldlM readLine reader = some after) :
    after.mSpecs =
      reader.mSpecs.insert reader.scopedKeyName
        (file.body.filterMap scriptLine) := by
  rw [ScriptBlock.script, List.foldlM_cons, file.readLine_opening,
    Option.bind_eq_bind, Option.bind_some, List.foldlM_append] at read
  obtain ⟨recorded, body, closing⟩ := Option.bind_eq_some_iff.mp read
  have unmarked : ∀ line ∈ file.body, lineKind (trimmed line) ≠ .opens ∧
      lineKind (trimmed line) ≠ .closes := by
    intro line member
    have kind := file.unmarked line member
    simp only [List.mem_cons, List.not_mem_nil, not_or, or_false] at kind
    constructor
    · intro opens
      exact kind.2.1 ((lineKind_eq_opens_iff _).mpr
        (head?_bodyText ((lineKind_eq_opens_iff _).mp opens)))
    · intro closes
      exact kind.2.2 ((lineKind_eq_closes_iff _).mpr
        (head?_bodyText ((lineKind_eq_closes_iff _).mp closes)))
  obtain ⟨inScript, name, specs, values⟩ := readBody unmarked body rfl
  rw [List.foldlM_cons, readLine_eq, file.closes] at closing
  cases closing
  dsimp only
  rw [if_pos inScript, name, specs, values, List.nil_append]

theorem readScript_plain (file : ScriptFile) {body : List CString}
    (plain : ∀ line ∈ body, lineKind (trimmed line) = .plain) :
    (file.withBody body).script.foldlM readLine reader =
      some (reader.recordScript (body.map trimmed)) := by
  dsimp only [ScriptBlock.script, ScriptBlock.withBody]
  rw [List.foldlM_cons, file.readLine_opening, Option.bind_eq_bind,
    Option.bind_some, List.foldlM_append, readBody_plain plain rfl,
    Option.bind_eq_bind, Option.bind_some, List.foldlM_cons, readLine_eq,
    file.closes]
  rfl

theorem fitLineBuffer_append {lines rest : List CString}
    (nonempty : rest ≠ []) :
    FitLineBuffer (lines ++ rest) ↔
      (∀ line ∈ lines, line.length + 1 < 1000) ∧ FitLineBuffer rest := by
  induction lines with
  | nil => simp
  | cons line lines ih =>
      rw [List.forall_mem_cons, and_assoc, ← ih]
      cases joined : lines ++ rest with
      | nil => exact absurd (List.append_eq_nil_iff.mp joined).2 nonempty
      | cons next others => rw [List.cons_append, joined, FitLineBuffer]

theorem bare_fit (file : ScriptFile) :
    FitLineBuffer (file.withBody []).lines := by
  have fit := file.fit
  unfold ScriptBlock.lines ScriptBlock.script at fit ⊢
  rw [fitLineBuffer_append (by simp), List.cons_append, List.append_assoc]
    at fit
  rw [fitLineBuffer_append (by simp)]
  refine ⟨fit.1, ?_⟩
  rw [← List.singleton_append, fitLineBuffer_append (by simp),
    fitLineBuffer_append (by simp)] at fit
  exact ⟨fit.2.1 _ List.mem_cons_self, fit.2.2.2⟩

theorem bare_oneLine (file : ScriptFile) :
    ∀ line ∈ (file.withBody []).lines, lineFeed ∉ line := by
  intro line member
  apply file.oneLine
  simp only [ScriptBlock.lines, ScriptBlock.heading, ScriptBlock.script,
    ScriptBlock.withBody, List.mem_append, List.mem_cons,
    List.not_mem_nil, or_false, false_or] at member ⊢
  tauto

/-- The readers at the key, behind the script and at the end of the file. -/
theorem stages_of_read (file : ScriptFile)
    (read : file.lines.foldlM readLine ⟨config.mSpecs, [], [], false, []⟩ =
      some after) :
    ∃ atKey behind,
      file.heading.foldlM readLine ⟨config.mSpecs, [], [], false, []⟩ =
          some atKey ∧
        file.script.foldlM readLine atKey = some behind ∧
        file.after.foldlM readLine behind = some after ∧
        atKey.scopedKeyName = file.name ∧
        after.mSpecs file.name = behind.mSpecs file.name := by
  rw [ScriptBlock.lines, List.foldlM_append] at read
  obtain ⟨atKey, heading, read⟩ := Option.bind_eq_some_iff.mp read
  rw [List.foldlM_append] at read
  obtain ⟨behind, script, rest⟩ := Option.bind_eq_some_iff.mp read
  obtain ⟨controlAtKey, -⟩ := control_of_readLines heading
  obtain ⟨controlBehind, -⟩ := control_of_readLines script
  obtain ⟨-, others⟩ := control_of_readLines rest
  refine ⟨atKey, behind, heading, script, rest,
    congrArg ReaderControl.scopedKeyName controlAtKey, others _ ?_⟩
  rw [controlBehind, controlAtKey, ← List.foldl_append]
  exact file.last

/-- What is found under the key is what the script was recorded as. -/
theorem keptWhole_of_verbatim (file : ScriptFile)
    (verbatim : file.Verbatim config) : ∀ line ∈ file.body, KeptWhole line := by
  obtain ⟨full, bare, readFull, -, found, -⟩ := verbatim
  rw [read_joinLines config file.oneLine file.fit] at readFull
  obtain ⟨after, lines, same⟩ := Option.map_eq_some_iff.mp readFull
  cases same
  obtain ⟨atKey, behind, -, script, -, name, unchanged⟩ :=
    file.stages_of_read lines
  have values : after.mSpecs file.name =
      some (file.body.filterMap scriptLine) := by
    rw [unchanged, file.readScript script, name]
    exact if_pos rfl
  have kept : file.body.filterMap scriptLine = file.body.map bodyText := by
    have texts := found [] file.name false file.specName_name
    rw [getScriptVector_eq_found_iff, existsKey_of_mSpecs (by
      rw [file.specName_name]
      exact values)] at texts
    exact Option.some.inj texts
  rw [List.filterMap_eq_map_iff_forall_eq_some] at kept
  intro line member
  exact (scriptLine_eq_some_iff line).mp (kept line member)

theorem verbatim_of_keptWhole (file : ScriptFile)
    (kept : ∀ line ∈ file.body, KeptWhole line)
    (fit : AllFit false file.lines) : file.Verbatim config := by
  obtain ⟨after, lines⟩ := Option.isSome_iff_exists.mp
    ((readLines_isSome ⟨config.mSpecs, [], [], false, []⟩ file.lines).mpr fit)
  obtain ⟨atKey, behind, heading, script, rest, name, unchanged⟩ :=
    file.stages_of_read lines
  have texts : file.body.map trimmed = file.body.map bodyText :=
    List.map_congr_left fun line member =>
      trimmed_eq_bodyText (kept line member).2
  have plain : ∀ line ∈ file.body, lineKind (trimmed line) = .plain := by
    intro line member
    rw [trimmed_eq_bodyText (kept line member).2]
    exact (kept line member).1
  obtain rfl := Option.some.inj
    (script.symm.trans (file.readScript_plain plain))
  have bareScript : (file.withBody []).script.foldlM readLine atKey =
      some (atKey.recordScript []) :=
    file.readScript_plain nofun
  have same := SameBut.recordScript atKey (file.body.map trimmed) []
  rw [name] at same
  obtain ⟨bareAfter, bareRest, same⟩ := same.readLines rest
  have bareLines : (file.withBody []).lines.foldlM readLine
      ⟨config.mSpecs, [], [], false, []⟩ = some bareAfter := by
    rw [ScriptBlock.lines, List.foldlM_append]
    refine (congrArg (· >>= _) heading).trans ?_
    rw [Option.bind_eq_bind, Option.bind_some, List.foldlM_append, bareScript]
    exact bareRest
  refine ⟨{ config with mSpecs := after.mSpecs },
    { config with mSpecs := bareAfter.mSpecs }, ?_, ?_, ?_, same.others⟩
  · rw [read_joinLines config file.oneLine file.fit, lines]
    rfl
  · rw [read_joinLines config file.bare_oneLine file.bare_fit, bareLines]
    rfl
  · intro sectionName key throwOnFail isName
    rw [getScriptVector_eq_found_iff]
    apply existsKey_of_mSpecs
    rw [isName, ← texts]
    exact unchanged.trans (if_pos name.symm)

end ScriptFile

/-- A script is kept as it stands, and the other keys are as without it,
exactly when no line of it starts like the name of a section or is cut short,
and the names and tokens of the file fit their arrays. -/
theorem scriptFile_verbatim_iff (file : ScriptFile) (config : CConfigFile) :
    file.Verbatim config ↔
      (∀ line ∈ file.body, KeptWhole line) ∧ AllFit false file.lines := by
  constructor
  · intro verbatim
    refine ⟨file.keptWhole_of_verbatim verbatim, ?_⟩
    obtain ⟨full, -, read, -⟩ := verbatim
    rw [read_joinLines config file.oneLine file.fit] at read
    obtain ⟨after, lines, -⟩ := Option.map_eq_some_iff.mp read
    have isSome := readLines_isSome ⟨config.mSpecs, [], [], false, []⟩
      file.lines
    rw [lines] at isSome
    exact isSome.mp rfl
  · rintro ⟨kept, fit⟩
    exact file.verbatim_of_keptWhole kept fit

/-- A script of two lines in a section, with another key behind it. -/
def portScript : ScriptFile where
  before := [['[', 'S', ']'], []]
  key := ['k']
  opening := [' ', openBrace]
  body := [[' ', 'o', 'n', ' ', '"', 'x', ' ', 'y', '"'], ['o', 'f', 'f']]
  closing := [closeBrace]
  after := [['p', ' ', '=', ' ', '8', '0']]
  oneLine := by decide
  fit := ⟨by decide, by decide, by decide, by decide, by decide, by decide,
    by decide, (by decide : 6 < 1000)⟩
  outside := rfl
  isKey := by decide
  opens := by decide
  closes := by decide
  unmarked := by decide
  last := by decide

theorem allFit_portScript : AllFit false portScript.lines := by
  have section' : FitsToken ['S'] := by decide
  have firstKey : KeyFits ['k'] := ⟨by decide, nofun⟩
  have lastKey : KeyFits ['p', ' ', '=', ' ', '8', '0'] :=
    ⟨by decide, by decide⟩
  exact ⟨section', trivial, fun _ => firstKey, trivial, nofun, nofun, trivial,
    fun _ => lastKey, trivial⟩

theorem keptWhole_portScript : ∀ line ∈ portScript.body, KeptWhole line :=
  List.forall_mem_cons.mpr
    ⟨⟨by decide, isEol_eq_false_of_all (by decide)⟩,
      List.forall_mem_singleton.mpr
        ⟨by decide, isEol_eq_false_of_all (by decide)⟩⟩

theorem scriptFile_verbatim_iff_portScript :
    portScript.Verbatim CConfigFile.new :=
  (scriptFile_verbatim_iff portScript CConfigFile.new).mpr
    ⟨keptWhole_portScript, allFit_portScript⟩

/-- A script of one line in brackets. -/
def bracketScript : ScriptFile where
  before := []
  key := ['k']
  opening := [openBrace]
  body := [['[', 'x', ']']]
  closing := [closeBrace]
  after := []
  oneLine := by decide
  fit := ⟨by decide, by decide, by decide, (by decide : 1 < 1000)⟩
  outside := rfl
  isKey := by decide
  opens := by decide
  closes := by decide
  unmarked := by decide
  last := by decide

/-- The line is taken for the name of a section and is missing in the script. -/
theorem bracketScript_not_verbatim :
    ¬ bracketScript.Verbatim CConfigFile.new := by
  intro verbatim
  have kept := bracketScript.keptWhole_of_verbatim verbatim ['[', 'x', ']']
    List.mem_cons_self
  exact absurd kept (by decide)

end OpenRTH
