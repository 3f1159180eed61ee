import OpenRTH.ConfigFile

/-!
# The arrays of the configuration reader

The names and tokens of the configuration file are copied into arrays of 512
bytes, while the line they are taken from may be twice as long.  `read` stays
inside them exactly when every name and token that it copies fits; which texts
these are depends on whether the line stands in a script.
-/

namespace OpenRTH

/-! ## Names and tokens of any length -/

/-- The tokens of a line, for a number of turns of the outer loop of `parse`. -/
def lineTokensLoop : ℕ → CString → List CString
  | 0, _ => []
  | turns + 1, input =>
      match nextToken input with
      | none => []
      | some (token, after) => token :: lineTokensLoop turns after

def lineTokens (input : CString) : List CString :=
  lineTokensLoop input.length input

/-- What stands behind the equal sign. -/
def valueText (line : CString) : CString :=
  (line.dropWhile (· ≠ '=')).tail

/-! ## Kinds of lines -/

/-- The line without its end and its leading blanks. -/
def trimmed (line : CString) : CString :=
  (chomp line).dropWhile (· = ' ')

/-- What `read` takes a line for; a plain line is a key or a part of a
script. -/
inductive LineKind
  | ignored
  | header (name : CString)
  | opens
  | closes
  | plain
  deriving DecidableEq

def lineKind : CString → LineKind
  | [] => .ignored
  | first :: rest =>
      if first = '#' ∨ first = '/' ∧ rest.head? = some '/' then .ignored
      else if first = '[' then .header rest
      else if first = openBrace then .opens
      else if first = closeBrace then .closes
      else .plain

theorem lineKind_eq_opens_iff (text : CString) :
    lineKind text = .opens ↔ text.head? = some openBrace := by
  cases text with
  | nil => simp [lineKind]
  | cons first rest =>
      dsimp only [lineKind]
      rw [List.head?_cons, Option.some_inj]
      constructor
      · intro opens
        split_ifs at opens with comment isSection isOpen
        exact isOpen
      · rintro rfl
        rfl

theorem lineKind_eq_closes_iff (text : CString) :
    lineKind text = .closes ↔ text.head? = some closeBrace := by
  cases text with
  | nil => simp [lineKind]
  | cons first rest =>
      dsimp only [lineKind]
      rw [List.head?_cons, Option.some_inj]
      constructor
      · intro closes
        split_ifs at closes with comment isSection isOpen isClose
        exact isClose
      · rintro rfl
        rfl

/-- What a line of each kind does. -/
theorem readLine_eq (reader : ConfigReader) (line : CString) :
    readLine reader line =
      match lineKind (trimmed line) with
      | .ignored => some reader
      | .header name =>
          (parseToDelimeter name ']').map fun parsed =>
            { reader with parsingSection := parsed }
      | .opens => some { reader with values := [], inScript := true }
      | .closes =>
          some { reader with
            mSpecs :=
              if reader.inScript then
                reader.mSpecs.insert reader.scopedKeyName reader.values
              else reader.mSpecs
            inScript := false }
      | .plain =>
          if reader.inScript then
            some { reader with values := reader.values ++ [trimmed line] }
          else readKey reader (trimmed line) := by
  unfold readLine
  rw [← trimmed]
  cases trimmed line with
  | nil => rfl
  | cons first rest =>
      dsimp only [lineKind]
      by_cases comment : first = '#' ∨ first = '/' ∧ rest.head? = some '/'
      · rw [if_pos comment, if_pos comment]
      rw [if_neg comment, if_neg comment]
      by_cases isSection : first = '['
      · rw [if_pos isSection, if_pos isSection]
      rw [if_neg isSection, if_neg isSection]
      by_cases isOpen : first = openBrace
      · rw [if_pos isOpen, if_pos isOpen]
      rw [if_neg isOpen, if_neg isOpen]
      by_cases isClose : first = closeBrace
      · rw [if_pos isClose, if_pos isClose]
      rw [if_neg isClose, if_neg isClose]

/-- Whether a script is being recorded behind a line. -/
def scriptAfter (inScript : Bool) (line : CString) : Bool :=
  match lineKind (trimmed line) with
  | .opens => true
  | .closes => false
  | _ => inScript

/-! ## Lines that fit -/

/-- There is room for the text and its NUL. -/
def FitsToken (text : CString) : Prop :=
  text.length < 512

instance (text : CString) : Decidable (FitsToken text) :=
  inferInstanceAs (Decidable (_ < _))

/-- The name and the tokens of a key fit. -/
def KeyFits (line : CString) : Prop :=
  FitsToken (delimitedText line '=') ∧
    ∀ token ∈ lineTokens (valueText line), FitsToken token

/-- The name of a section, or a key outside of scripts, fits. -/
def LineFits (inScript : Bool) (line : CString) : Prop :=
  match lineKind (trimmed line) with
  | .header name => FitsToken (delimitedText name ']')
  | .plain => inScript = false → KeyFits (trimmed line)
  | _ => True

/-- All lines fit, from one that does or does not stand in a script. -/
def AllFit (inScript : Bool) : List CString → Prop
  | [] => True
  | line :: lines =>
      LineFits inScript line ∧ AllFit (scriptAfter inScript line) lines

/-! ## What is copied -/

theorem fixedToken_isSome (text : CString) :
    (fixedToken text).isSome ↔ FitsToken text := by
  unfold fixedToken FitsToken
  split_ifs with fits <;> simp [fits]

theorem parseToDelimeter_isSome (input : CString) (delimeter : Char) :
    (parseToDelimeter input delimeter).isSome ↔
      FitsToken (delimitedText input delimeter) := by
  rw [parseToDelimeter_eq, fixedToken_isSome, FitsToken, FitsToken,
    List.length_map]

theorem tokenizerLoop_isSome (turns : ℕ) (input : CString) :
    (tokenizerLoop turns input).isSome ↔
      ∀ token ∈ lineTokensLoop turns input, FitsToken token := by
  induction turns generalizing input with
  | zero => simp [tokenizerLoop, lineTokensLoop]
  | succ turns ih =>
      rw [tokenizerLoop, lineTokensLoop]
      cases nextToken input with
      | none => simp
      | some taken =>
          obtain ⟨token, after⟩ := taken
          dsimp only
          rw [List.forall_mem_cons, ← ih, ← fixedToken_isSome]
          cases fixedToken token <;> simp

theorem tokenizerParse_isSome (input : CString) :
    (tokenizerParse input).isSome ↔
      ∀ token ∈ lineTokens input, FitsToken token := by
  rw [tokenizerParse, parseLoop_eq]
  exact tokenizerLoop_isSome input.length input

theorem readKey_isSome (reader : ConfigReader) (line : CString) :
    (readKey reader line).isSome ↔ KeyFits line := by
  rw [KeyFits, ← parseToDelimeter_isSome, ← tokenizerParse_isSome, valueText]
  unfold readKey
  cases parseToDelimeter line '=' with
  | none => simp
  | some baseKeyName =>
      cases line.dropWhile (· ≠ '=') with
      | nil => simp [tokenizerParse, parseLoop]
      | cons equals value => simp

/-! ## Reading a file -/

theorem readLine_isSome (reader : ConfigReader) (line : CString) :
    (readLine reader line).isSome ↔ LineFits reader.inScript line := by
  rw [readLine_eq, LineFits]
  cases lineKind (trimmed line) with
  | ignored => simp
  | header name => simp [parseToDelimeter_isSome]
  | opens => simp
  | closes => simp
  | plain =>
      dsimp only
      split_ifs with inScript
      · simp [inScript]
      · simp [readKey_isSome, inScript]

theorem inScript_of_readKey {reader after : ConfigReader} {line : CString}
    (read : readKey reader line = some after) :
    after.inScript = reader.inScript := by
  unfold readKey at read
  split at read
  · cases read
  · obtain ⟨values, -, rfl⟩ := Option.map_eq_some_iff.mp read
    rfl

theorem inScript_of_readLine {reader after : ConfigReader} {line : CString}
    (read : readLine reader line = some after) :
    after.inScript = scriptAfter reader.inScript line := by
  rw [readLine_eq] at read
  unfold scriptAfter
  cases kind : lineKind (trimmed line) with
  | plain =>
      simp only [kind] at read
      split_ifs at read with inScript
      · cases read
        rfl
      · exact inScript_of_readKey read
  | header name =>
      simp only [kind] at read
      obtain ⟨parsed, -, rfl⟩ := Option.map_eq_some_iff.mp read
      rfl
  | _ =>
      simp only [kind] at read
      cases read
      rfl

theorem readLines_isSome (reader : ConfigReader) (lines : List CString) :
    (lines.foldlM readLine reader).isSome ↔
      AllFit reader.inScript lines := by
  induction lines generalizing reader with
  | nil => exact iff_of_true rfl trivial
  | cons line lines ih =>
      rw [List.foldlM_cons, AllFit, ← readLine_isSome]
      cases read : readLine reader line with
      | none => simp
      | some after =>
          rw [← inScript_of_readLine read, ← ih]
          simp

end OpenRTH
