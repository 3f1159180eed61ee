import OpenRTH.ConfigFile

/-!
# Looking up a key of the configuration

What a file of blank lines, comments, sections and keys means, in its own
terms: each key line defines a name in the section it stands in.  The main
result says that looking a key up after reading the file finds its last
definition in the current section, or else its last definition in front of all
sections, whatever the letter case.
-/

namespace OpenRTH

/-! ## Files -/

/-- A symbol that may stand in the name of a section or a key. -/
def isNameSymbol (symbol : Char) : Bool :=
  isEol symbol = false ∧ symbol ∉ [' ', ':', '=', '[', ']']

/-- The name of a section or a key. -/
structure ConfigName where
  text : CString
  nonempty : text ≠ []
  plain : ∀ symbol ∈ text, isNameSymbol symbol
  unmarked : ∀ first ∈ text.head?, first ∉ ['#', '/', openBrace, closeBrace]
  short : text.length < 512

/-- A text that stays on one line. -/
abbrev LineText := {text : CString // lineFeed ∉ text}

/-- A line of the file, without the line feed behind it. -/
inductive ConfigLine
  | blank (text : LineText) (blank : ∀ symbol ∈ beforeEol text, symbol = ' ')
  | comment (indent : ℕ) (slashes : Bool) (rest : LineText)
  | header (indent : ℕ) (name : ConfigName) (rest : LineText)
  | entry (indent : ℕ) (name : ConfigName) (padding : ℕ) (value : LineText)
      (tokens : List CString) (parsed : tokenizerParse value = some tokens)

def ConfigLine.text : ConfigLine → CString
  | .blank text _ => text
  | .comment indent true rest => blanks indent ++ '/' :: '/' :: rest
  | .comment indent false rest => blanks indent ++ '#' :: rest
  | .header indent name rest =>
      blanks indent ++ '[' :: (name.text ++ ']' :: rest)
  | .entry indent name padding value _ _ =>
      blanks indent ++ (name.text ++ (blanks padding ++ '=' :: value))

/-- The lines with line feeds between them. -/
def fileText : List ConfigLine → CString
  | [] => []
  | [line] => line.text
  | line :: next :: lines =>
      line.text ++ lineFeed :: fileText (next :: lines)

/-- Every line fits the line buffer with its line feed and the NUL. -/
def LinesFit : List ConfigLine → Prop
  | [] => True
  | [line] => line.text.length < 1000
  | line :: next :: lines =>
      line.text.length + 1 < 1000 ∧ LinesFit (next :: lines)

instance decidableLinesFit : (lines : List ConfigLine) →
    Decidable (LinesFit lines)
  | [] => isTrue trivial
  | [line] => inferInstanceAs (Decidable (line.text.length < 1000))
  | line :: next :: lines =>
      have := decidableLinesFit (next :: lines)
      inferInstanceAs (Decidable (line.text.length + 1 < 1000 ∧ _))

/-! ## What a file means -/

/-- A key in the section it stands in; `none` is in front of all sections. -/
structure KeyDefinition where
  scope : Option ConfigName
  name : ConfigName
  tokens : List CString

/-- The section behind a line. -/
def ConfigLine.scopeAfter (scope : Option ConfigName) :
    ConfigLine → Option ConfigName
  | .header _ name _ => some name
  | _ => scope

def ConfigLine.definition (scope : Option ConfigName) :
    ConfigLine → Option KeyDefinition
  | .entry _ name _ _ tokens _ => some ⟨scope, name, tokens⟩
  | _ => none

/-- The keys that the lines define, in their order. -/
def definitions (scope : Option ConfigName) :
    List ConfigLine → List KeyDefinition
  | [] => []
  | line :: lines =>
      (line.definition scope).toList ++ definitions (line.scopeAfter scope) lines

/-- The same name up to the letter case. -/
def SameName (first second : CString) : Prop :=
  first.map Char.toLower = second.map Char.toLower

instance (first second : CString) : Decidable (SameName first second) :=
  inferInstanceAs (Decidable (_ = _))

/-- The key defined in the section of this name. -/
def KeyDefinition.inSection (sectionName key : CString)
    (definition : KeyDefinition) : Bool :=
  definition.scope.any (fun scope => SameName scope.text sectionName) ∧
    SameName definition.name.text key

/-- The key defined in front of all sections. -/
def KeyDefinition.isGlobal (key : CString)
    (definition : KeyDefinition) : Bool :=
  definition.scope.isNone ∧ SameName definition.name.text key

/-- The tokens of the last definition that is wanted. -/
def lastTokens (wanted : KeyDefinition → Bool)
    (defined : List KeyDefinition) : Option (List CString) :=
  (defined.reverse.find? wanted).map (·.tokens)

/-- What looking up a key in a section of the file is meant to find. -/
def lookupSpec (lines : List ConfigLine) (sectionName key : CString) :
    Option (List CString) :=
  (lastTokens (·.inSection sectionName key) (definitions none lines)).or
    (lastTokens (·.isGlobal key) (definitions none lines))

/-- Read a file into a new object, set the section and look up the key; `none`
after a write outside an array. -/
def lookupAfterRead (content sectionName key : CString) :
    Option (Option (List CString)) :=
  (CConfigFile.new.read (some content)).map fun (_, config) =>
    (config.setCurrentSection sectionName).existsKey key

/-! ## Names -/

namespace ConfigName

variable (name : ConfigName)

/-- The name as `parse_to_delimeter` returns it. -/
def lower : CString := name.text.map Char.toLower

theorem isEol_eq_false {symbol : Char} (member : symbol ∈ name.text) :
    isEol symbol = false := by
  have plain := name.plain symbol member
  simp only [isNameSymbol, decide_eq_true_eq] at plain
  exact plain.1

theorem ne_of_mem {symbol : Char} (member : symbol ∈ name.text) :
    symbol ≠ ' ' ∧ symbol ≠ ':' ∧ symbol ≠ '=' ∧ symbol ≠ '[' ∧
      symbol ≠ ']' := by
  have plain := name.plain symbol member
  simp only [isNameSymbol, decide_eq_true_eq] at plain
  simpa using plain.2

theorem nul_notMem : nul ∉ name.text := by
  intro member
  cases name.isEol_eq_false member

theorem lineFeed_notMem : lineFeed ∉ name.text := by
  intro member
  cases name.isEol_eq_false member

theorem colon_notMem_lower : ':' ∉ name.lower := by
  intro member
  have inText := (mem_map_toLower_iff rfl name.text).mp member
  exact (name.ne_of_mem inText).2.1 rfl

theorem lower_ne_nil : name.lower ≠ [] := by
  simpa [lower] using name.nonempty

theorem fixedToken_lower : fixedToken name.lower = some name.lower :=
  if_pos (by simpa [lower] using name.short)

end ConfigName

/-! ## What a line does -/

theorem lineFeed_notMem_blanks (count : ℕ) : lineFeed ∉ blanks count := by
  intro member
  cases eq_of_mem_blanks member

theorem ConfigLine.lineFeed_notMem (line : ConfigLine) :
    lineFeed ∉ line.text := by
  have blanksFree := lineFeed_notMem_blanks
  cases line with
  | blank text blank => exact text.property
  | comment indent slashes rest =>
      have restFree := rest.property
      cases slashes <;>
        simp [text, blanksFree, restFree] <;> decide
  | header indent name rest =>
      have nameFree := name.lineFeed_notMem
      have restFree := rest.property
      simp [text, blanksFree, nameFree, restFree]
      decide
  | entry indent name padding value tokens parsed =>
      have nameFree := name.lineFeed_notMem
      have valueFree := value.property
      simp [text, blanksFree, nameFree, valueFree]
      decide

/-- The section as `read` keeps it. -/
def scopeText : Option ConfigName → CString
  | none => []
  | some name => name.lower

def KeyDefinition.key (definition : KeyDefinition) : CString :=
  scopedKey (scopeText definition.scope) definition.name.lower

/-- Insert the definitions one after the other. -/
def recordAll (specs : SpecMap) (defined : List KeyDefinition) : SpecMap :=
  defined.foldl
    (fun specs definition => specs.insert definition.key definition.tokens)
    specs

/-- The reader is outside of scripts, in this section, with these keys. -/
structure ReaderAt (scope : Option ConfigName) (specs : SpecMap)
    (reader : ConfigReader) : Prop where
  outside : reader.inScript = false
  parsingSection : reader.parsingSection = scopeText scope
  mSpecs : reader.mSpecs = specs

theorem readLine_blank {text : CString}
    (blank : ∀ symbol ∈ beforeEol text, symbol = ' ')
    (reader : ConfigReader) : readLine reader text = some reader := by
  have noText : (chomp text).dropWhile (· = ' ') = [] := by
    rw [chomp_eq, List.dropWhile_eq_nil_iff]
    exact fun symbol member => decide_eq_true (blank symbol member)
  simp only [readLine, noText]

theorem readLine_comment (slashes : Bool) (indent : ℕ) (rest : LineText)
    (reader : ConfigReader) :
    readLine reader (ConfigLine.comment indent slashes rest).text =
      some reader := by
  cases slashes with
  | true =>
      rw [ConfigLine.text, readLine_indent, readLine,
        dropWhile_chomp_cons rfl (by decide), beforeEol_cons rfl]
      rfl
  | false =>
      rw [ConfigLine.text, readLine_indent, readLine,
        dropWhile_chomp_cons rfl (by decide)]
      rfl

theorem readLine_header (indent : ℕ) (name : ConfigName) (rest : LineText)
    (reader : ConfigReader) :
    readLine reader (ConfigLine.header indent name rest).text =
      some { reader with parsingSection := name.lower } := by
  have parsed : parseToDelimeter (name.text ++ ']' :: beforeEol rest) ']' =
      some name.lower := by
    rw [parseToDelimeter_append name.nonempty
      (fun symbol member =>
        ⟨ne_of_mem_of_not_mem member name.nul_notMem,
          (name.ne_of_mem member).1, (name.ne_of_mem member).2.2.2.2⟩)
      (by rintro first ⟨⟩; exact .inr rfl)]
    exact name.fixedToken_lower
  rw [ConfigLine.text, readLine_indent, readLine,
    dropWhile_chomp_cons rfl (by decide),
    beforeEol_append fun symbol member => name.isEol_eq_false member,
    beforeEol_cons rfl]
  simp [parsed]

/-- The key line from the first symbol of the name on. -/
theorem readKey_entry (name : ConfigName) (padding : ℕ) {value : CString}
    {tokens : List CString} (parsed : tokenizerParse value = some tokens)
    (reader : ConfigReader) :
    readKey reader (name.text ++ (blanks padding ++ '=' :: value)) =
      some { reader with
        values := tokens
        scopedKeyName := scopedKey reader.parsingSection name.lower
        mSpecs := reader.mSpecs.insert
          (scopedKey reader.parsingSection name.lower) tokens } := by
  have base : parseToDelimeter
      (name.text ++ (blanks padding ++ '=' :: value)) '=' =
        some name.lower := by
    rw [parseToDelimeter_append name.nonempty
      (fun symbol member =>
        ⟨ne_of_mem_of_not_mem member name.nul_notMem,
          (name.ne_of_mem member).1, (name.ne_of_mem member).2.2.1⟩)]
    · exact name.fixedToken_lower
    · cases padding with
      | zero => rintro first ⟨⟩; exact .inr rfl
      | succ padding => rintro first ⟨⟩; exact .inl rfl
  have behind : (name.text ++ (blanks padding ++ '=' :: value)).dropWhile
      (· ≠ '=') = '=' :: value := by
    rw [List.dropWhile_append_of_pos fun symbol member => by
        simpa using (name.ne_of_mem member).2.2.1,
      List.dropWhile_append_of_pos fun symbol member => by
        rw [eq_of_mem_blanks member]; rfl]
    rfl
  simp only [readKey, base, behind, parsed, Option.map_some]

theorem readLine_entry (indent : ℕ) (name : ConfigName) (padding : ℕ)
    (value : LineText) (tokens : List CString)
    (parsed : tokenizerParse value = some tokens) {reader : ConfigReader}
    (outside : reader.inScript = false) :
    readLine reader
        (ConfigLine.entry indent name padding value tokens parsed).text =
      some { reader with
        values := tokens
        scopedKeyName := scopedKey reader.parsingSection name.lower
        mSpecs := reader.mSpecs.insert
          (scopedKey reader.parsingSection name.lower) tokens } := by
  have parsedToEol : tokenizerParse (beforeEol value) = some tokens :=
    (tokenizerParse_beforeEol value).trans parsed
  have wholeKey := readKey_entry name padding parsedToEol reader
  rw [ConfigLine.text, readLine_indent]
  obtain ⟨first, rest, text⟩ := List.exists_cons_of_ne_nil name.nonempty
  have member : first ∈ name.text := by simp [text]
  have unmarked := name.unmarked first (by simp [text])
  simp only [List.mem_cons, List.not_mem_nil, or_false, not_or] at unmarked
  obtain ⟨notHash, notSlash, notOpen, notClose⟩ := unmarked
  have notBracket := (name.ne_of_mem member).2.2.2.1
  have content : (chomp (name.text ++ (blanks padding ++
      '=' :: value))).dropWhile (· = ' ') =
        name.text ++ (blanks padding ++ '=' :: beforeEol value) := by
    rw [chomp_eq, beforeEol_append fun symbol member =>
        name.isEol_eq_false member,
      beforeEol_blanks, beforeEol_cons rfl, text, List.cons_append,
      List.dropWhile_cons_of_neg (by simpa using (name.ne_of_mem member).1)]
  rw [readLine, content, text, List.cons_append]
  rw [text, List.cons_append] at wholeKey
  simp only [notHash, notSlash, notOpen, notClose, notBracket, outside,
    false_and, or_self, if_false, Bool.false_eq_true, wholeKey]

theorem ReaderAt.readLine {scope : Option ConfigName} {specs : SpecMap}
    {reader : ConfigReader} (before : ReaderAt scope specs reader)
    (line : ConfigLine) :
    ∃ after, readLine reader line.text = some after ∧
      ReaderAt (line.scopeAfter scope)
        (recordAll specs (line.definition scope).toList) after := by
  obtain ⟨outside, parsingSection, rfl⟩ := before
  cases line with
  | blank text blank =>
      exact ⟨_, readLine_blank blank reader, outside, parsingSection, rfl⟩
  | comment indent slashes rest =>
      exact ⟨_, readLine_comment slashes indent rest reader, outside,
        parsingSection, rfl⟩
  | header indent name rest =>
      exact ⟨_, readLine_header indent name rest reader, outside, rfl, rfl⟩
  | entry indent name padding value tokens parsed =>
      refine ⟨_, readLine_entry indent name padding value tokens parsed outside,
        outside, parsingSection, ?_⟩
      rw [parsingSection]
      rfl

theorem ReaderAt.readLines {scope : Option ConfigName} {specs : SpecMap}
    {reader : ConfigReader} (before : ReaderAt scope specs reader)
    (lines : List ConfigLine) :
    ∃ after, (lines.map (·.text)).foldlM OpenRTH.readLine reader =
        some after ∧
      after.mSpecs = recordAll specs (definitions scope lines) := by
  induction lines generalizing scope specs reader with
  | nil => exact ⟨reader, rfl, before.mSpecs⟩
  | cons line lines ih =>
      obtain ⟨next, read, after⟩ := before.readLine line
      obtain ⟨last, readOn, specsEq⟩ := ih after
      refine ⟨last, ?_, ?_⟩
      · rw [List.map_cons, List.foldlM_cons, read]
        exact readOn
      · rw [specsEq, definitions, recordAll, recordAll, recordAll,
          List.foldl_append]

/-! ## The lines that `fgets` delivers -/

theorem fileText_eq_joinLines (lines : List ConfigLine) :
    fileText lines = joinLines (lines.map (·.text)) := by
  induction lines with
  | nil => rfl
  | cons line lines ih =>
      cases lines with
      | nil => rfl
      | cons next lines => rw [fileText, ih]; rfl

theorem LinesFit.fitLineBuffer {lines : List ConfigLine}
    (fit : LinesFit lines) : FitLineBuffer (lines.map (·.text)) := by
  induction lines with
  | nil => exact trivial
  | cons line lines ih =>
      cases lines with
      | nil => exact fit
      | cons next lines => exact ⟨fit.1, ih fit.2⟩

theorem fgetsLines_fileText (lines : List ConfigLine) (fit : LinesFit lines)
    (reader : ConfigReader) :
    (fgetsLines 1000 [] (fileText lines)).foldlM readLine reader =
      (lines.map (·.text)).foldlM readLine reader := by
  rw [fileText_eq_joinLines]
  apply fgetsLines_joinLines _ fit.fitLineBuffer
  intro text member
  obtain ⟨line, -, rfl⟩ := List.mem_map.mp member
  exact line.lineFeed_notMem

/-! ## What the map holds -/

theorem lastTokens_cons (wanted : KeyDefinition → Bool)
    (definition : KeyDefinition) (defined : List KeyDefinition) :
    lastTokens wanted (definition :: defined) =
      (lastTokens wanted defined).or
        (if wanted definition then some definition.tokens else none) := by
  unfold lastTokens
  rw [List.reverse_cons, List.find?_append, Option.map_or,
    List.find?_singleton]
  split_ifs <;> rfl

theorem recordAll_eq (specs : SpecMap) (defined : List KeyDefinition)
    (key : CString) :
    recordAll specs defined key =
      (lastTokens (fun definition => definition.key = key) defined).or
        (specs key) := by
  induction defined generalizing specs with
  | nil => rfl
  | cons definition defined ih =>
      rw [lastTokens_cons, Option.or_assoc]
      refine (ih (specs.insert definition.key definition.tokens)).trans ?_
      congr 1
      by_cases same : definition.key = key
      · simp [SpecMap.insert, same]
      · simp [SpecMap.insert, same, Ne.symm same]

theorem colon_notMem_scopeText (scope : Option ConfigName) :
    ':' ∉ scopeText scope := by
  cases scope with
  | none => exact List.not_mem_nil
  | some name => exact name.colon_notMem_lower

theorem ConfigName.lower_eq_makeLower_iff (name : ConfigName)
    (text : CString) : name.lower = makeLower text ↔ SameName name.text text := by
  rw [eq_comm, ConfigName.lower, makeLower_eq_iff name.nul_notMem, SameName,
    eq_comm]

namespace KeyDefinition

variable (definition : KeyDefinition)

theorem key_eq_iff (scope key : CString) :
    definition.key = scopedKey scope (makeLower key) ↔
      scopeText definition.scope = scope ∧
        SameName definition.name.text key := by
  rw [KeyDefinition.key, scopedKey_eq_iff
      (colon_notMem_scopeText definition.scope)
      definition.name.colon_notMem_lower,
    ConfigName.lower_eq_makeLower_iff]

theorem key_eq_global_iff (key : CString) :
    definition.key = scopedKey [] (makeLower key) ↔
      definition.isGlobal key := by
  rw [key_eq_iff, isGlobal, decide_eq_true_eq]
  apply and_congr_left'
  cases definition.scope with
  | none => simp [scopeText]
  | some name => simp [scopeText, name.lower_ne_nil]

theorem key_eq_inSection_iff {sectionName : CString}
    (named : sectionName ≠ []) (key : CString) :
    definition.key = scopedKey (makeLower sectionName) (makeLower key) ↔
      definition.inSection sectionName key := by
  rw [key_eq_iff, inSection, decide_eq_true_eq]
  apply and_congr_left'
  cases definition.scope with
  | none =>
      simp [scopeText, eq_comm (a := []), makeLower_eq_nil_iff, named]
  | some name => simp [scopeText, name.lower_eq_makeLower_iff]

theorem inSection_nil (key : CString) :
    definition.inSection [] key = false := by
  cases scope : definition.scope with
  | none => simp [inSection, scope]
  | some name => simp [inSection, scope, SameName, name.nonempty]

end KeyDefinition

/-- The two lookups in the map find what is meant. -/
theorem recordAll_lookup (defined : List KeyDefinition)
    (sectionName key : CString) :
    (recordAll (fun _ => none) defined
        (scopedKey (makeLower sectionName) (makeLower key))).or
      (recordAll (fun _ => none) defined (scopedKey [] (makeLower key))) =
    (lastTokens (·.inSection sectionName key) defined).or
      (lastTokens (·.isGlobal key) defined) := by
  have globalKey : (fun definition : KeyDefinition =>
      decide (definition.key = scopedKey [] (makeLower key))) =
        (·.isGlobal key) := by
    funext definition
    rw [Bool.eq_iff_iff, decide_eq_true_eq, definition.key_eq_global_iff]
  rw [recordAll_eq, recordAll_eq, Option.or_none, Option.or_none, globalKey]
  by_cases named : sectionName = []
  · subst named
    have nowhere : lastTokens (·.inSection [] key) defined = none := by
      simp [lastTokens, KeyDefinition.inSection_nil]
    rw [makeLower, globalKey, nowhere, Option.or_self, Option.none_or]
  · have sectionKey : (fun definition : KeyDefinition =>
        decide (definition.key =
          scopedKey (makeLower sectionName) (makeLower key))) =
          (·.inSection sectionName key) := by
      funext definition
      rw [Bool.eq_iff_iff, decide_eq_true_eq,
        definition.key_eq_inSection_iff named]
    rw [sectionKey]

theorem lookupAfterRead_eq_lookupSpec {lines : List ConfigLine}
    (fit : LinesFit lines) (sectionName : CString) {key : CString}
    (unscoped : ¬ [':', ':'] <:+: key) :
    lookupAfterRead (fileText lines) sectionName key =
      some (lookupSpec lines sectionName key) := by
  have start : ReaderAt none (fun _ => none) ⟨fun _ => none, [], [], false, []⟩ :=
    ⟨rfl, rfl, rfl⟩
  obtain ⟨after, read, specs⟩ := start.readLines lines
  rw [← fgetsLines_fileText lines fit] at read
  simp only [lookupAfterRead, CConfigFile.read, CConfigFile.new, read,
    Option.map_some, CConfigFile.setCurrentSection, CConfigFile.existsKey,
    if_neg (mt colons_infix_of_makeLower unscoped), specs, lookupSpec,
    ← recordAll_lookup]
  congr 1
  split
  · next values found => rw [found, Option.some_or]
  · next missing => rw [missing, Option.none_or]

/-! ## The letter case -/

theorem SameName.congr {first second other otherSecond : CString}
    (same : SameName first other) (alsoSame : SameName second otherSecond) :
    SameName first second ↔ SameName other otherSecond := by
  unfold SameName at *
  rw [same, alsoSame]

/-- The lines are the same but for comments, blanks and the letter case of the
names. -/
inductive SameUpToCase : ConfigLine → ConfigLine → Prop
  | blank {text other : LineText} {textBlank otherBlank} :
      SameUpToCase (.blank text textBlank) (.blank other otherBlank)
  | comment {indent otherIndent : ℕ} {slashes otherSlashes : Bool}
      {rest otherRest : LineText} :
      SameUpToCase (.comment indent slashes rest)
        (.comment otherIndent otherSlashes otherRest)
  | header {indent otherIndent : ℕ} {name otherName : ConfigName}
      {rest otherRest : LineText} (same : SameName name.text otherName.text) :
      SameUpToCase (.header indent name rest)
        (.header otherIndent otherName otherRest)
  | entry {indent otherIndent padding otherPadding : ℕ}
      {name otherName : ConfigName} {value otherValue : LineText}
      {tokens : List CString} {parsed otherParsed}
      (same : SameName name.text otherName.text) :
      SameUpToCase (.entry indent name padding value tokens parsed)
        (.entry otherIndent otherName otherPadding otherValue tokens
          otherParsed)

/-- The definitions are the same but for the letter case of the names. -/
structure SameDefinition (definition other : KeyDefinition) : Prop where
  scope : Option.Rel (SameName ·.text ·.text) definition.scope other.scope
  name : SameName definition.name.text other.name.text
  tokens : definition.tokens = other.tokens

theorem sameDefinition_definitions {lines others : List ConfigLine}
    (same : List.Forall₂ SameUpToCase lines others)
    {scope otherScope : Option ConfigName}
    (sameScope : Option.Rel (SameName ·.text ·.text) scope otherScope) :
    List.Forall₂ SameDefinition (definitions scope lines)
      (definitions otherScope others) := by
  induction same generalizing scope otherScope with
  | nil => exact .nil
  | cons sameLine _ ih =>
      cases sameLine with
      | blank => exact ih sameScope
      | comment => exact ih sameScope
      | header same => exact ih (.some same)
      | entry same => exact .cons ⟨sameScope, same, rfl⟩ (ih sameScope)

theorem lastTokens_congr {wanted otherWanted : KeyDefinition → Bool}
    (sameWanted : ∀ {definition other}, SameDefinition definition other →
      wanted definition = otherWanted other)
    {defined others : List KeyDefinition}
    (same : List.Forall₂ SameDefinition defined others) :
    lastTokens wanted defined = lastTokens otherWanted others := by
  induction same with
  | nil => rfl
  | cons sameDefinition _ ih =>
      rw [lastTokens_cons, lastTokens_cons, ih, sameWanted sameDefinition,
        sameDefinition.tokens]

theorem lookupSpec_congr {lines others : List ConfigLine}
    (same : List.Forall₂ SameUpToCase lines others)
    {sectionName otherSection key otherKey : CString}
    (sameSection : SameName sectionName otherSection)
    (sameKey : SameName key otherKey) :
    lookupSpec lines sectionName key =
      lookupSpec others otherSection otherKey := by
  have sameDefinitions := sameDefinition_definitions same .none
  unfold lookupSpec
  congr 1
  · apply lastTokens_congr _ sameDefinitions
    rintro ⟨scope, name, tokens⟩ ⟨otherScope, otherName, otherTokens⟩
      ⟨sameScope, sameName, -⟩
    simp only [KeyDefinition.inSection, sameName.congr sameKey]
    cases sameScope with
    | none => rfl
    | some sameScope => simp [sameScope.congr sameSection]
  · apply lastTokens_congr _ sameDefinitions
    rintro ⟨scope, name, tokens⟩ ⟨otherScope, otherName, otherTokens⟩
      ⟨sameScope, sameName, -⟩
    simp only [KeyDefinition.isGlobal, sameName.congr sameKey]
    cases sameScope with
    | none => rfl
    | some sameScope => rfl

/-- Looking up a key finds its last definition in the section, or else the last
one in front of all sections, and does not depend on the letter case. -/
theorem lookupAfterRead_finds_last (lines : List ConfigLine)
    (fit : LinesFit lines) (sectionName key : CString)
    (unscoped : ¬ [':', ':'] <:+: key) :
    lookupAfterRead (fileText lines) sectionName key =
        some (lookupSpec lines sectionName key) ∧
      ∀ others otherSection otherKey, LinesFit others →
        List.Forall₂ SameUpToCase lines others →
          SameName sectionName otherSection → SameName key otherKey →
            lookupAfterRead (fileText others) otherSection otherKey =
              lookupAfterRead (fileText lines) sectionName key := by
  have found := lookupAfterRead_eq_lookupSpec fit sectionName unscoped
  refine ⟨found, ?_⟩
  intro others otherSection otherKey otherFit same sameSection sameKey
  have otherUnscoped : ¬ [':', ':'] <:+: otherKey := by
    rw [← colons_infix_map_toLower_iff, ← sameKey,
      colons_infix_map_toLower_iff]
    exact unscoped
  rw [found, lookupAfterRead_eq_lookupSpec otherFit otherSection otherUnscoped,
    lookupSpec_congr same sameSection sameKey]

def netName : ConfigName :=
  ⟨['N', 'e', 't'], by decide, List.all_eq_true.mp (by decide),
    by rintro _ ⟨⟩; decide, by decide⟩

def portName : ConfigName :=
  ⟨['p', 'o', 'r', 't'], by decide, List.all_eq_true.mp (by decide),
    by rintro _ ⟨⟩; decide, by decide⟩

def upperPortName : ConfigName :=
  ⟨['P', 'O', 'R', 'T'], by decide, List.all_eq_true.mp (by decide),
    by rintro _ ⟨⟩; decide, by decide⟩

/-- A key in front of all sections, a comment, and the key twice in a
section. -/
def benchConfig : List ConfigLine :=
  [.entry 0 portName 1 ⟨[' ', '8', '0'], by decide⟩ [['8', '0']] (by decide),
    .comment 0 false ⟨[' ', 'x'], by decide⟩,
    .header 2 netName ⟨[], by decide⟩,
    .entry 0 portName 0 ⟨['8', '1'], by decide⟩ [['8', '1']] (by decide),
    .entry 0 upperPortName 0 ⟨['8', ',', '2'], by decide⟩
      [['8'], ['2']] (by decide)]

/-- The same file with other indents and in another letter case. -/
def otherConfig : List ConfigLine :=
  [.entry 0 upperPortName 0 ⟨['8', '0'], by decide⟩ [['8', '0']] (by decide),
    .comment 1 true ⟨[], by decide⟩,
    .header 0 netName ⟨[carriageReturn], by decide⟩,
    .entry 0 upperPortName 0 ⟨['8', '1'], by decide⟩ [['8', '1']] (by decide),
    .entry 3 portName 0 ⟨['8', ' ', '2'], by decide⟩ [['8'], ['2']]
      (by decide)]

theorem lookupAfterRead_finds_last_port :
    lookupAfterRead (fileText benchConfig) ['N', 'E', 'T']
        ['P', 'o', 'r', 't'] = some (some [['8'], ['2']]) ∧
      lookupAfterRead (fileText otherConfig) ['n', 'e', 't']
          ['p', 'o', 'r', 't'] =
        lookupAfterRead (fileText benchConfig) ['N', 'E', 'T']
          ['P', 'o', 'r', 't'] := by
  obtain ⟨found, anyCase⟩ := lookupAfterRead_finds_last benchConfig
    (by decide) ['N', 'E', 'T'] ['P', 'o', 'r', 't'] (by decide)
  refine ⟨found.trans (by decide), anyCase otherConfig _ _ (by decide) ?_
    (by decide) (by decide)⟩
  have samePort : SameName portName.text upperPortName.text := by decide
  exact .cons (.entry samePort) (.cons .comment (.cons (.header rfl)
    (.cons (.entry samePort) (.cons (.entry samePort.symm) .nil))))

end OpenRTH
