import OpenRTH.Tokenizer
import Mathlib.Data.List.Infix
import Mathlib.Tactic.Tauto

/-!
# The configuration file

`CConfigFile::read` keeps the tokens of every key in a map, under the name of
the section in front of it; `exists` looks a key up in the current section, and
then among the keys in front of all sections.
-/

namespace OpenRTH

def lineFeed : Char := Char.ofNat 10
def carriageReturn : Char := Char.ofNat 13
def openBrace : Char := Char.ofNat 123
def closeBrace : Char := Char.ofNat 125

/-- `make_lower`. -/
def makeLower : CString → CString
  | [] => []
  | symbol :: rest =>
      if symbol = nul then symbol :: rest
      else symbol.toLower :: makeLower rest

/-- The loop of `parse_to_delimeter`: the array and the place of `out`, or
`none` after a write outside the array. -/
def copyName (delimeter : Char) :
    CString → ℕ → TokenArray → Option (TokenArray × ℕ)
  | [], out, token => some (token, out)
  | symbol :: rest, out, token =>
      if symbol = nul ∨ symbol = ' ' ∨ symbol = delimeter then
        some (token, out)
      else
        (token.store out [symbol.toLower]).bind
          (copyName delimeter rest (out + 1))

/-- `parse_to_delimeter`; `none` after a write outside the array. -/
def parseToDelimeter (input : CString) (delimeter : Char) :
    Option CString := do
  let (copied, out) ←
    copyName delimeter (input.dropWhile (· = ' ')) 0 unwrittenToken
  let terminated ← copied.store out [nul]
  some (terminated.string nul)

/-- `m_specs`. -/
abbrev SpecMap := CString → Option (List CString)

def SpecMap.insert (specs : SpecMap) (key : CString)
    (values : List CString) : SpecMap :=
  fun other => if other = key then some values else specs other

/-- The name of a key with its section. -/
def scopedKey (scope baseKeyName : CString) : CString :=
  scope ++ [':', ':'] ++ baseKeyName

/-- `CConfigFile`, with the settings that reading and looking up use. -/
structure CConfigFile where
  mSpecs : SpecMap
  mCurrentSection : CString

def CConfigFile.new : CConfigFile := ⟨fun _ => none, []⟩

/-- `m_specs` and the variables of `read`. -/
structure ConfigReader where
  mSpecs : SpecMap
  values : List CString
  scopedKeyName : CString
  inScript : Bool
  parsingSection : CString

/-- The line with its end chomped off. -/
def chomp (line : CString) : CString :=
  ((cString line).takeWhile (· ≠ lineFeed)).takeWhile (· ≠ carriageReturn)

/-- The key on a line that is neither blank nor marked. -/
def readKey (reader : ConfigReader) (line : CString) : Option ConfigReader :=
  match parseToDelimeter line '=' with
  | none => none
  | some baseKeyName =>
      let scopedKeyName := scopedKey reader.parsingSection baseKeyName
      let values := match line.dropWhile (· ≠ '=') with
        | [] => some []
        | _ :: value => tokenizerParse value
      values.map fun values =>
        { reader with
          values := values
          scopedKeyName := scopedKeyName
          mSpecs := reader.mSpecs.insert scopedKeyName values }

/-- The body of the loop of `read`. -/
def readLine (reader : ConfigReader) (line : CString) : Option ConfigReader :=
  match (chomp line).dropWhile (· = ' ') with
  | [] => some reader
  | first :: rest =>
      if first = '#' ∨ first = '/' ∧ rest.head? = some '/' then some reader
      else if first = '[' then
        (parseToDelimeter rest ']').map fun parsed =>
          { reader with parsingSection := parsed }
      else if first = openBrace then
        some { reader with values := [], inScript := true }
      else if first = closeBrace then
        some { reader with
          mSpecs :=
            if reader.inScript then
              reader.mSpecs.insert reader.scopedKeyName reader.values
            else reader.mSpecs
          inScript := false }
      else if reader.inScript then
        some { reader with values := reader.values ++ [first :: rest] }
      else readKey reader (first :: rest)

/-- What consecutive calls of `fgets` put into `line`, which has `size` bytes;
the second argument is what the current call has read so far. -/
def fgetsLines (size : ℕ) (line : CString) : CString → List CString
  | [] => if line = [] then [] else [line]
  | symbol :: rest =>
      if symbol = lineFeed ∨ line.length + 2 = size then
        (line ++ [symbol]) :: fgetsLines size [] rest
      else fgetsLines size (line ++ [symbol]) rest

/-- `CConfigFile::read` on the content of the file, `none` when it cannot be
opened: the result and the object, or `none` after a write outside an array. -/
def CConfigFile.read (config : CConfigFile) (file : Option CString) :
    Option (Bool × CConfigFile) :=
  match file with
  | none => some (false, config)
  | some content =>
      ((fgetsLines 1000 [] content).foldlM readLine
          ⟨config.mSpecs, [], [], false, []⟩).map fun reader =>
        (true, { config with mSpecs := reader.mSpecs })

/-- `CConfigFile::set_current_section`. -/
def CConfigFile.setCurrentSection (config : CConfigFile)
    (name : CString) : CConfigFile :=
  { config with mCurrentSection := makeLower name }

/-- `CConfigFile::exists`: the values of the key, if there are any. -/
def CConfigFile.existsKey (config : CConfigFile) (key : CString) :
    Option (List CString) :=
  let key := makeLower key
  if [':', ':'] <:+: key then config.mSpecs key
  else
    match config.mSpecs (scopedKey config.mCurrentSection key) with
    | some values => some values
    | none => config.mSpecs (scopedKey [] key)

/-! ## The letter case of names -/

theorem toLower_eq_iff {symbol : Char} (notLetter : symbol.isAlpha = false)
    (other : Char) : other.toLower = symbol ↔ other = symbol := by
  unfold Char.toLower
  split_ifs with capital
  · constructor <;>
    · rintro rfl
      delta Char.isAlpha Char.isUpper Char.isLower at notLetter
      simp [UInt32.le_iff_toNat_le] at notLetter capital
      omega
  · rfl

theorem toLower_toLower (symbol : Char) :
    symbol.toLower.toLower = symbol.toLower := by
  unfold Char.toLower
  split_ifs with capital again
  · simp [UInt32.le_iff_toNat_le] at capital again
    omega
  · rfl
  · rfl

theorem mem_map_toLower_iff {symbol : Char}
    (notLetter : symbol.isAlpha = false) (text : CString) :
    symbol ∈ text.map Char.toLower ↔ symbol ∈ text := by
  simp [toLower_eq_iff notLetter]

/-- A string and a name are the same in lower case, whether or not
`make_lower` reaches the end of the string. -/
theorem makeLower_eq_iff {name : CString} (noNul : nul ∉ name)
    (text : CString) :
    makeLower text = name.map Char.toLower ↔
      text.map Char.toLower = name.map Char.toLower := by
  induction text generalizing name with
  | nil => rfl
  | cons symbol rest ih =>
      cases name with
      | nil =>
          simp only [makeLower]
          split_ifs <;> simp
      | cons first others =>
          simp only [List.mem_cons, not_or] at noNul
          simp only [makeLower, List.map_cons, List.cons.injEq]
          split_ifs with isNul
          · subst isNul
            have different : first.toLower ≠ nul :=
              fun same => noNul.1 ((toLower_eq_iff rfl first).mp same).symm
            have unchanged : nul.toLower = nul := rfl
            rw [unchanged]
            constructor
            · exact fun same => absurd (List.cons.inj same).1.symm different
            · exact fun same => absurd same.1.symm different
          · rw [List.cons.injEq, ih noNul.2]

theorem makeLower_eq_self {text : CString}
    (lower : ∀ symbol ∈ text, symbol.toLower = symbol) :
    makeLower text = text := by
  induction text with
  | nil => rfl
  | cons symbol rest ih =>
      rw [List.forall_mem_cons] at lower
      rw [makeLower, ih lower.2, lower.1, ite_self]

theorem makeLower_eq_nil_iff (text : CString) :
    makeLower text = [] ↔ text = [] := by
  cases text with
  | nil => simp [makeLower]
  | cons symbol rest =>
      simp only [makeLower]
      split_ifs <;> simp

theorem colons_infix_map_toLower_iff (key : CString) :
    [':', ':'] <:+: key.map Char.toLower ↔ [':', ':'] <:+: key := by
  constructor
  · rintro ⟨earlier, later, split⟩
    obtain ⟨start, last, rfl, startEq, -⟩ := List.append_eq_map_iff.mp split
    obtain ⟨before, colons, rfl, -, colonsEq⟩ :=
      List.append_eq_map_iff.mp startEq.symm
    refine ⟨before, last, ?_⟩
    congr 2
    obtain ⟨first, second, rfl⟩ : ∃ first second, colons = [first, second] :=
      List.length_eq_two.mp (by simpa using congrArg List.length colonsEq)
    obtain ⟨firstColon, rest⟩ := List.cons.inj colonsEq
    obtain ⟨secondColon, -⟩ := List.cons.inj rest
    rw [(toLower_eq_iff rfl first).mp firstColon,
      (toLower_eq_iff rfl second).mp secondColon]
  · rintro ⟨earlier, later, rfl⟩
    exact ⟨earlier.map Char.toLower, later.map Char.toLower, by simp⟩

theorem colons_infix_of_makeLower {key : CString}
    (lowered : [':', ':'] <:+: makeLower key) : [':', ':'] <:+: key := by
  induction key with
  | nil => exact lowered
  | cons symbol rest ih =>
      simp only [makeLower] at lowered
      split_ifs at lowered
      · exact lowered
      · rcases List.infix_cons_iff.mp lowered with atStart | later
        · obtain ⟨colon, next⟩ := List.cons_prefix_cons.mp atStart
          obtain rfl := (toLower_eq_iff rfl symbol).mp colon.symm
          cases rest with
          | nil => simp [makeLower] at next
          | cons second rest =>
              have secondColon : second = ':' := by
                simp only [makeLower] at next
                split_ifs at next
                · exact (List.cons_prefix_cons.mp next).1.symm
                · exact (toLower_eq_iff rfl second).mp
                    (List.cons_prefix_cons.mp next).1.symm
              subst secondColon
              exact List.IsPrefix.isInfix ⟨rest, rfl⟩
        · exact List.infix_cons (ih later)

/-! ## The text of a name -/

/-- The text before a blank or the delimeter. -/
def nameText (delimeter : Char) (input : CString) : CString :=
  input.takeWhile fun symbol =>
    symbol ≠ nul ∧ symbol ≠ ' ' ∧ symbol ≠ delimeter

/-- What `parse_to_delimeter` copies, but for the letter case. -/
def delimitedText (input : CString) (delimeter : Char) : CString :=
  nameText delimeter (input.dropWhile (· = ' '))

theorem copyName_eq (delimeter : Char) (input : CString) (out : ℕ)
    (token : TokenArray) :
    copyName delimeter input out token =
      (token.storeEach out ((nameText delimeter input).map Char.toLower)).map
        fun copied => (copied, out + (nameText delimeter input).length) := by
  induction input generalizing out token with
  | nil => rfl
  | cons symbol rest ih =>
      unfold copyName
      split_ifs with stops
      · have ends : nameText delimeter (symbol :: rest) = [] :=
          List.takeWhile_cons_of_neg (by simp; tauto)
        rw [ends]
        rfl
      · have goesOn : nameText delimeter (symbol :: rest) =
            symbol :: nameText delimeter rest :=
          List.takeWhile_cons_of_pos (by simp; tauto)
        rw [goesOn, List.map_cons, FixedBuffer.storeEach]
        cases token.store out [symbol.toLower] with
        | none => rfl
        | some stored =>
            simp only [Option.bind_some, ih, List.length_cons, Nat.add_assoc,
              Nat.add_comm 1]

theorem parseToDelimeter_eq (input : CString) (delimeter : Char) :
    parseToDelimeter input delimeter =
      fixedToken ((delimitedText input delimeter).map Char.toLower) := by
  have noNul : nul ∉ (delimitedText input delimeter).map Char.toLower := by
    rw [mem_map_toLower_iff rfl]
    intro member
    simpa using List.mem_takeWhile_imp member
  rw [← fixedToken_eq noNul unwrittenToken]
  unfold parseToDelimeter
  rw [copyName_eq, ← delimitedText, List.length_map]
  cases unwrittenToken.storeEach 0
      ((delimitedText input delimeter).map Char.toLower) with
  | none => rfl
  | some copied =>
      simp only [Option.bind_eq_bind, Option.map_some, Option.bind_some,
        Nat.zero_add]
      cases copied.store (delimitedText input delimeter).length [nul] <;> rfl

/-! ## Keys with their section -/

theorem takeWhile_scopedKey {scope : CString} (plain : ':' ∉ scope)
    (name : CString) :
    (scopedKey scope name).takeWhile (· ≠ ':') = scope := by
  rw [scopedKey, List.append_assoc,
    List.takeWhile_append_of_pos fun symbol member => by
      simpa using ne_of_mem_of_not_mem member plain]
  simp

theorem scopedKey_eq_iff {scope name : CString} (plainScope : ':' ∉ scope)
    (plainName : ':' ∉ name) (otherScope otherName : CString) :
    scopedKey scope name = scopedKey otherScope otherName ↔
      scope = otherScope ∧ name = otherName := by
  constructor
  · intro same
    have colons := congrArg (List.count ':') same
    simp only [scopedKey, List.count_append,
      List.count_eq_zero_of_not_mem plainScope,
      List.count_eq_zero_of_not_mem plainName] at colons
    have noColon : ':' ∉ otherScope := by
      apply List.count_eq_zero.mp
      omega
    obtain rfl : scope = otherScope := by
      rw [← takeWhile_scopedKey plainScope name, same,
        takeWhile_scopedKey noColon]
    exact ⟨rfl, List.append_cancel_left same⟩
  · rintro ⟨rfl, rfl⟩
    rfl

/-! ## The end of a line -/

theorem isEol_iff (symbol : Char) : isEol symbol = true ↔
    symbol = nul ∨ symbol = lineFeed ∨ symbol = carriageReturn := by
  simp [isEol, lineFeed, carriageReturn]

theorem chomp_eq (line : CString) : chomp line = beforeEol line := by
  unfold chomp cString beforeEol
  rw [List.takeWhile_takeWhile, List.takeWhile_takeWhile]
  congr 1
  ext symbol
  rw [Bool.eq_iff_iff]
  simp only [decide_eq_true_eq, Bool.not_eq_true', Bool.eq_false_iff, ne_eq,
    isEol_iff]
  tauto

theorem beforeEol_append {text : CString}
    (noEol : ∀ symbol ∈ text, isEol symbol = false) (rest : CString) :
    beforeEol (text ++ rest) = text ++ beforeEol rest :=
  List.takeWhile_append_of_pos fun symbol member => by
    simp [noEol symbol member]

theorem beforeEol_concat_of_eol {last : Char} (isLast : isEol last = true)
    (text : CString) : beforeEol (text ++ [last]) = beforeEol text := by
  induction text with
  | nil => exact beforeEol_cons_of_eol isLast []
  | cons symbol rest ih =>
      rw [List.cons_append]
      by_cases eol : isEol symbol
      · rw [beforeEol_cons_of_eol eol, beforeEol_cons_of_eol eol]
      · rw [beforeEol_cons (by simpa using eol),
          beforeEol_cons (by simpa using eol), ih]

theorem readLine_append_lineFeed (reader : ConfigReader) (text : CString) :
    readLine reader (text ++ [lineFeed]) = readLine reader text := by
  unfold readLine
  rw [chomp_eq, chomp_eq, beforeEol_concat_of_eol rfl]

@[simp] theorem readLine_nil (reader : ConfigReader) :
    readLine reader [] = some reader := rfl

def blanks (count : ℕ) : CString := List.replicate count ' '

theorem eq_of_mem_blanks {count : ℕ} {symbol : Char}
    (member : symbol ∈ blanks count) : symbol = ' ' :=
  List.eq_of_mem_replicate member

theorem beforeEol_blanks (count : ℕ) (rest : CString) :
    beforeEol (blanks count ++ rest) = blanks count ++ beforeEol rest := by
  apply beforeEol_append
  intro symbol member
  rw [eq_of_mem_blanks member]
  rfl

theorem readLine_indent (reader : ConfigReader) (indent : ℕ)
    (text : CString) :
    readLine reader (blanks indent ++ text) = readLine reader text := by
  unfold readLine
  rw [chomp_eq, chomp_eq, beforeEol_blanks,
    List.dropWhile_append_of_pos fun symbol member => by
      simp [eq_of_mem_blanks member]]

theorem dropWhile_chomp_cons {first : Char} (notEol : isEol first = false)
    (notBlank : first ≠ ' ') (rest : CString) :
    (chomp (first :: rest)).dropWhile (· = ' ') = first :: beforeEol rest := by
  rw [chomp_eq, beforeEol_cons notEol,
    List.dropWhile_cons_of_neg (by simpa using notBlank)]

/-- A name up to a blank or the delimeter. -/
theorem parseToDelimeter_append {name rest : CString} {delimeter : Char}
    (nonempty : name ≠ [])
    (plain : ∀ symbol ∈ name,
      symbol ≠ nul ∧ symbol ≠ ' ' ∧ symbol ≠ delimeter)
    (stop : ∀ first ∈ rest.head?, first = ' ' ∨ first = delimeter) :
    parseToDelimeter (name ++ rest) delimeter =
      fixedToken (name.map Char.toLower) := by
  have start : (name ++ rest).dropWhile (· = ' ') = name ++ rest := by
    cases name with
    | nil => exact absurd rfl nonempty
    | cons first others =>
        rw [List.cons_append, List.dropWhile_cons_of_neg]
        simpa using (plain first List.mem_cons_self).2.1
  have stopped : nameText delimeter rest = [] := by
    cases rest with
    | nil => rfl
    | cons first others =>
        rw [nameText, List.takeWhile_cons_of_neg]
        rcases stop first rfl with rfl | rfl <;> simp
  rw [parseToDelimeter_eq, delimitedText, start, nameText,
    List.takeWhile_append_of_pos fun symbol member => by
      simpa using plain symbol member, ← nameText, stopped, List.append_nil]

/-! ## The lines of a file -/

theorem fgetsLines_append {size : ℕ} {line text : CString}
    (oneLine : lineFeed ∉ text) (fits : line.length + text.length + 1 < size)
    (rest : CString) :
    fgetsLines size line (text ++ lineFeed :: rest) =
      (line ++ text ++ [lineFeed]) :: fgetsLines size [] rest := by
  induction text generalizing line with
  | nil => simp [fgetsLines]
  | cons symbol text ih =>
      simp only [List.mem_cons, not_or, List.length_cons] at oneLine fits
      have goesOn : ¬ (symbol = lineFeed ∨ line.length + 2 = size) := by
        rintro (same | full)
        · exact oneLine.1 same.symm
        · omega
      have stillFits : (line ++ [symbol]).length + text.length + 1 < size := by
        rw [List.length_append, List.length_singleton]
        omega
      rw [List.cons_append, fgetsLines, if_neg goesOn, ih oneLine.2 stillFits,
        List.append_assoc line]
      rfl

/-- The last line may end with the file. -/
theorem fgetsLines_last {size : ℕ} {line text : CString}
    (oneLine : lineFeed ∉ text) (fits : line.length + text.length < size)
    (nonempty : line ++ text ≠ []) :
    fgetsLines size line text = [line ++ text] := by
  induction text generalizing line with
  | nil =>
      rw [List.append_nil] at nonempty
      simp [fgetsLines, nonempty]
  | cons symbol text ih =>
      simp only [List.mem_cons, not_or, List.length_cons] at oneLine fits
      rw [fgetsLines]
      split_ifs with ends
      · have full : line.length + 2 = size :=
          ends.resolve_left fun same => oneLine.1 same.symm
        obtain rfl : text = [] := by
          apply List.length_eq_zero_iff.mp
          omega
        rfl
      · have stillFits : (line ++ [symbol]).length + text.length < size := by
          rw [List.length_append, List.length_singleton]
          omega
        rw [ih oneLine.2 stillFits (by simp), List.append_assoc]
        rfl

/-- The lines with line feeds between them. -/
def joinLines : List CString → CString
  | [] => []
  | [line] => line
  | line :: next :: lines => line ++ lineFeed :: joinLines (next :: lines)

/-- Every line fits the line buffer with its line feed and the NUL. -/
def FitLineBuffer : List CString → Prop
  | [] => True
  | [line] => line.length < 1000
  | line :: next :: lines =>
      line.length + 1 < 1000 ∧ FitLineBuffer (next :: lines)

theorem fgetsLines_joinLines {lines : List CString}
    (oneLine : ∀ line ∈ lines, lineFeed ∉ line) (fit : FitLineBuffer lines)
    (reader : ConfigReader) :
    (fgetsLines 1000 [] (joinLines lines)).foldlM readLine reader =
      lines.foldlM readLine reader := by
  induction lines generalizing reader with
  | nil => rfl
  | cons line lines ih =>
      have noLineFeed := oneLine line List.mem_cons_self
      cases lines with
      | nil =>
          by_cases nonempty : line = []
          · simp [joinLines, nonempty, fgetsLines]
          · have whole : fgetsLines 1000 [] line = [[] ++ line] :=
              fgetsLines_last noLineFeed (by simpa [FitLineBuffer] using fit)
                nonempty
            rw [joinLines, whole]
            rfl
      | cons next lines =>
          obtain ⟨fits, fit⟩ := fit
          rw [joinLines, fgetsLines_append noLineFeed (by simpa using fits),
            List.foldlM_cons, List.foldlM_cons, List.nil_append,
            readLine_append_lineFeed]
          cases readLine reader line with
          | none => rfl
          | some after =>
              exact ih (fun other member =>
                oneLine other (List.mem_cons_of_mem _ member)) fit after

end OpenRTH
