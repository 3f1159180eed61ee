import OpenRTH.Tokenizer

/-!
# Quoted tokens

The reverse of the tokenizer.  A list of tokens can be written on a line by
enclosing each of them in a quote mark that it does not contain; commas, blanks
and tabs between the tokens are free.  The tokenizer reads every such line back
to the list.
-/

namespace OpenRTH

/-! ## Lines of quoted tokens -/

/-- A run of blanks and tabs. -/
abbrev WhiteSpace := {text : CString // ∀ symbol ∈ text, isWs symbol = true}

/-- A token with a quote mark that it does not contain. -/
structure QuotedToken where
  text : CString
  quote : Char
  isQuote_quote : isQuote quote = true
  quote_notMem : quote ∉ text
  oneLine : ∀ symbol ∈ text, isEol symbol = false
  short : text.length ≤ 511

def QuotedToken.rendered (token : QuotedToken) : CString :=
  token.quote :: (token.text ++ [token.quote])

/-- A comma or some white space, or a comma with white space around it. -/
structure Separator where
  before : WhiteSpace
  comma : Bool
  after : WhiteSpace
  separates : comma = true ∨ before.val ++ after.val ≠ []

def Separator.text (separator : Separator) : CString :=
  separator.before.val ++
    ((if separator.comma then [','] else []) ++ separator.after.val)

/-- A line without tokens, or a token and further ones behind it. -/
inductive QuotedLine
  | empty (blanks : WhiteSpace)
  | tokens (leading : WhiteSpace) (first : QuotedToken)
      (others : List (Separator × QuotedToken)) (trailing : WhiteSpace)

/-- What stands behind a token. -/
def renderOthers (trailing : WhiteSpace) :
    List (Separator × QuotedToken) → CString
  | [] => trailing.val
  | (separator, token) :: others =>
      separator.text ++ (token.rendered ++ renderOthers trailing others)

def QuotedLine.text : QuotedLine → CString
  | .empty blanks => blanks.val
  | .tokens leading first others trailing =>
      leading.val ++ (first.rendered ++ renderOthers trailing others)

def QuotedLine.tokenTexts : QuotedLine → List CString
  | .empty _ => []
  | .tokens _ first others _ => first.text :: others.map (·.2.text)

/-! ## Reading a token back -/

theorem isEol_eq_false_of_isQuote {symbol : Char}
    (quote : isQuote symbol = true) : isEol symbol = false := by
  simp only [isQuote, Bool.decide_or, Bool.or_eq_true, decide_eq_true_eq]
    at quote
  rcases quote with rfl | rfl <;> rfl

theorem isWs_eq_false_of_isQuote {symbol : Char}
    (quote : isQuote symbol = true) : isWs symbol = false := by
  simp only [isQuote, Bool.decide_or, Bool.or_eq_true, decide_eq_true_eq]
    at quote
  rcases quote with rfl | rfl <;> rfl

theorem ne_comma_of_isQuote {symbol : Char} (quote : isQuote symbol = true) :
    symbol ≠ ',' := by
  rintro rfl
  cases quote

theorem dropWhile_isWs_append (blanks : WhiteSpace) (rest : CString) :
    (blanks.val ++ rest).dropWhile isWs = rest.dropWhile isWs :=
  List.dropWhile_append_of_pos blanks.property

theorem scanToken_quoted {quote : Char} (isQuote_quote : isQuote quote = true)
    {text : CString} (quote_notMem : quote ∉ text)
    (oneLine : ∀ symbol ∈ text, isEol symbol = false) (rest : CString) :
    scanToken (some quote) (text ++ quote :: rest) = (text, rest) := by
  induction text with
  | nil =>
      have notEol := isEol_eq_false_of_isQuote isQuote_quote
      simp [scanToken, notEol]
  | cons symbol text ih =>
      rw [List.mem_cons, not_or] at quote_notMem
      have notEol := oneLine symbol List.mem_cons_self
      have scanned := ih quote_notMem.2 fun other member =>
        oneLine other (List.mem_cons_of_mem _ member)
      simp [scanToken, notEol, quote_notMem.1, scanned]

theorem nextToken_quoted (leading : WhiteSpace) (token : QuotedToken)
    (rest : CString) :
    nextToken (leading.val ++ (token.rendered ++ rest)) =
      some (token.text, skipComma (rest.dropWhile isWs)) := by
  have notWs := isWs_eq_false_of_isQuote token.isQuote_quote
  have notEol := isEol_eq_false_of_isQuote token.isQuote_quote
  have start : (leading.val ++ (token.rendered ++ rest)).dropWhile isWs =
      token.quote :: (token.text ++ token.quote :: rest) := by
    rw [dropWhile_isWs_append, QuotedToken.rendered, List.cons_append,
      List.append_assoc, List.dropWhile_cons_of_neg (by simp [notWs])]
    rfl
  have scanned := scanToken_quoted token.isQuote_quote token.quote_notMem
    token.oneLine rest
  simp [nextToken, start, notEol, token.isQuote_quote, scanned]

theorem QuotedToken.fixedToken_text (token : QuotedToken) :
    fixedToken token.text = some token.text :=
  if_pos (Nat.lt_succ_of_le token.short)

theorem tokenizerParse_quoted (leading : WhiteSpace) (token : QuotedToken)
    (rest : CString) :
    tokenizerParse (leading.val ++ (token.rendered ++ rest)) =
      (tokenizerParse (skipComma (rest.dropWhile isWs))).map
        (token.text :: ·) := by
  rw [tokenizerParse_eq, nextToken_quoted]
  simp only [token.fixedToken_text]

theorem tokenizerParse_whiteSpace (blanks : WhiteSpace) :
    tokenizerParse blanks.val = some [] := by
  have start : blanks.val.dropWhile isWs = [] :=
    List.dropWhile_eq_nil_iff.mpr blanks.property
  rw [tokenizerParse_eq]
  simp only [nextToken, start]

theorem skipComma_separator (separator : Separator) (token : QuotedToken)
    (rest : CString) :
    ∃ leading : WhiteSpace,
      skipComma ((separator.text ++ (token.rendered ++ rest)).dropWhile isWs) =
        leading.val ++ (token.rendered ++ rest) := by
  unfold Separator.text
  rw [List.append_assoc, dropWhile_isWs_append]
  cases separator.comma with
  | true =>
      refine ⟨separator.after, ?_⟩
      rw [if_pos rfl, List.append_assoc, List.singleton_append,
        List.dropWhile_cons_of_neg (by decide), skipComma, if_pos rfl]
  | false =>
      refine ⟨⟨[], by simp⟩, ?_⟩
      have notWs := isWs_eq_false_of_isQuote token.isQuote_quote
      have notComma := ne_comma_of_isQuote token.isQuote_quote
      rw [if_neg Bool.false_ne_true, List.nil_append, dropWhile_isWs_append,
        QuotedToken.rendered, List.cons_append,
        List.dropWhile_cons_of_neg (by simp [notWs]), skipComma,
        if_neg notComma, List.nil_append]

theorem tokenizerParse_tokens (leading trailing : WhiteSpace)
    (first : QuotedToken) (others : List (Separator × QuotedToken)) :
    tokenizerParse
        (leading.val ++ (first.rendered ++ renderOthers trailing others)) =
      some (first.text :: others.map (·.2.text)) := by
  induction others generalizing leading first with
  | nil =>
      have ended : trailing.val.dropWhile isWs = [] :=
        List.dropWhile_eq_nil_iff.mpr trailing.property
      rw [tokenizerParse_quoted, renderOthers, ended]
      rfl
  | cons other others ih =>
      obtain ⟨separator, token⟩ := other
      obtain ⟨blanks, skipped⟩ := skipComma_separator separator token
        (renderOthers trailing others)
      rw [tokenizerParse_quoted, renderOthers, skipped, ih]
      rfl

/-- The tokenizer reads a list of quoted tokens back, whatever quote marks and
separators have been chosen. -/
theorem tokenizerParse_inverts_quoting (line : QuotedLine) :
    tokenizerParse line.text = some line.tokenTexts := by
  cases line with
  | empty blanks => exact tokenizerParse_whiteSpace blanks
  | tokens leading first others trailing =>
      exact tokenizerParse_tokens leading trailing first others

theorem isQuote_doubleQuote : isQuote '"' = true :=
  rfl

/-- A token with blanks and a comma in it, and one with the other quote mark. -/
def twoTokens : QuotedLine :=
  .tokens ⟨[' '], by simp [isWs]⟩
    { text := ['a', ' ', ',', 'b']
      quote := '"'
      isQuote_quote := isQuote_doubleQuote
      quote_notMem := by decide
      oneLine := isEol_eq_false_of_all (by decide)
      short := by decide }
    [({ before := ⟨[' '], by simp [isWs]⟩
        comma := true
        after := ⟨[], by simp⟩
        separates := .inl rfl },
      { text := ['i', 't', '"']
        quote := Char.ofNat 39
        isQuote_quote := rfl
        quote_notMem := by decide
        oneLine := isEol_eq_false_of_all (by decide)
        short := by decide })]
    ⟨[], by simp⟩

theorem tokenizerParse_inverts_quoting_twoTokens :
    tokenizerParse twoTokens.text =
      some [['a', ' ', ',', 'b'], ['i', 't', '"']] :=
  tokenizerParse_inverts_quoting twoTokens

end OpenRTH
