import OpenRTH.ConfigBuffers
import Mathlib.Data.List.DropRight

/-!
# Texts that overrun the configuration reader

Which files make `read` write outside its arrays, in terms of their characters:
the pieces of lines that a buffer of 1000 bytes takes, runs of 512 characters in
them, and quote marks.
-/

namespace OpenRTH

/-! ## Pieces of lines -/

/-- A line in pieces of at most this many characters. -/
def piecesOf (size : ℕ) (line : CString) : List CString :=
  if line = [] ∨ size = 0 then []
  else line.take size :: piecesOf size (line.drop size)
termination_by line.length
decreasing_by
  have nonempty := List.length_pos_iff.mpr (by tauto : line ≠ [])
  rw [List.length_drop]
  omega

/-- What a buffer of 1000 bytes takes of a file at a time: its lines, cut into
pieces of 999 characters. -/
def linePieces (content : CString) : List CString :=
  (content.splitOn lineFeed).flatMap (piecesOf 999)

theorem piecesOf_nil (size : ℕ) : piecesOf size [] = [] := by
  rw [piecesOf, if_pos (.inl rfl)]

theorem piecesOf_of_length_le {size : ℕ} {line : CString} (nonempty : line ≠ [])
    (short : line.length ≤ size) : piecesOf size line = [line] := by
  have positive : size ≠ 0 := by
    rintro rfl
    exact nonempty (List.length_eq_zero_iff.mp (Nat.le_zero.mp short))
  rw [piecesOf, if_neg (by tauto), List.take_of_length_le short,
    List.drop_of_length_le short, piecesOf_nil]

theorem piecesOf_append {size : ℕ} {piece : CString}
    (full : piece.length = size) (positive : size ≠ 0) (rest : CString) :
    piecesOf size (piece ++ rest) = piece :: piecesOf size rest := by
  have nonempty : piece ++ rest ≠ [] := by
    intro empty
    rw [List.append_eq_nil_iff] at empty
    rw [empty.1, List.length_nil] at full
    exact positive full.symm
  rw [piecesOf, if_neg (by tauto), List.take_left' full,
    List.drop_left' full]

theorem splitOn_cons_self (symbol : Char) (rest : CString) :
    (symbol :: rest).splitOn symbol = [] :: rest.splitOn symbol := by
  simp [List.splitOn_eq_splitOnP, List.splitOnP_cons_eq_if_modifyHead]

theorem splitOn_cons_of_ne {separator symbol : Char} {rest first : CString}
    {lines : List CString} (differs : symbol ≠ separator)
    (split : rest.splitOn separator = first :: lines) :
    (symbol :: rest).splitOn separator = (symbol :: first) :: lines := by
  rw [List.splitOn_eq_splitOnP] at split ⊢
  rw [List.splitOnP_cons_eq_if_modifyHead, if_neg (by simpa using differs),
    split, List.modifyHead_cons]

/-- `fgets` delivers these pieces, but for line feeds and empty lines. -/
theorem foldlM_fgetsLines {line : CString} (room : line.length < 999)
    {content first : CString} {lines : List CString}
    (split : content.splitOn lineFeed = first :: lines)
    (reader : ConfigReader) :
    (fgetsLines 1000 line content).foldlM readLine reader =
      (piecesOf 999 (line ++ first) ++ lines.flatMap (piecesOf 999)).foldlM
        readLine reader := by
  induction content generalizing line first lines reader with
  | nil =>
      rw [List.splitOn_nil] at split
      cases split
      rw [fgetsLines, List.append_nil, List.flatMap_nil, List.append_nil]
      split_ifs with empty
      · rw [empty, piecesOf_nil]
      · rw [piecesOf_of_length_le empty (by omega)]
  | cons symbol rest ih =>
      obtain ⟨next, others, splitRest⟩ := List.exists_cons_of_ne_nil
        (List.splitOn_ne_nil lineFeed rest)
      have start : ([] : CString).length < 999 := by decide
      rw [fgetsLines]
      by_cases ends : symbol = lineFeed
      · subst ends
        rw [splitOn_cons_self, splitRest] at split
        cases split
        rw [if_pos (.inl rfl), List.foldlM_cons, readLine_append_lineFeed,
          List.append_nil, List.flatMap_cons]
        have behind := ih start splitRest
        by_cases empty : line = []
        · rw [empty, piecesOf_nil, readLine_nil]
          exact behind reader
        · rw [piecesOf_of_length_le empty (by omega), List.singleton_append,
            List.foldlM_cons]
          exact congrArg _ (funext behind)
      · rw [splitOn_cons_of_ne ends splitRest] at split
        cases split
        have longer : line ++ symbol :: next = line ++ [symbol] ++ next := by
          rw [List.append_assoc, List.singleton_append]
        by_cases full : line.length + 2 = 1000
        · have whole : (line ++ [symbol]).length = 999 := by
            rw [List.length_append, List.length_singleton]
            omega
          rw [if_pos (.inr full), longer, piecesOf_append whole (by decide),
            List.cons_append, List.foldlM_cons, List.foldlM_cons]
          exact congrArg _ (funext (ih start splitRest))
        · rw [if_neg (by tauto), longer]
          apply ih _ splitRest
          rw [List.length_append, List.length_singleton]
          omega

theorem foldlM_linePieces (content : CString) (reader : ConfigReader) :
    (fgetsLines 1000 [] content).foldlM readLine reader =
      (linePieces content).foldlM readLine reader := by
  obtain ⟨first, lines, split⟩ := List.exists_cons_of_ne_nil
    (List.splitOn_ne_nil lineFeed content)
  rw [foldlM_fgetsLines (by decide) split, linePieces, split,
    List.flatMap_cons, List.nil_append]

/-! ## Texts that are too long -/

/-- The text begins with 512 characters of a kind; with their NUL they do not
fit an array of 512 bytes. -/
def BeginsLong (kind : Char → Bool) (text : CString) : Prop :=
  ∃ run, run <+: text ∧ run.length = 512 ∧ ∀ symbol ∈ run, kind symbol

theorem beginsLong_iff (kind : Char → Bool) (text : CString) :
    BeginsLong kind text ↔ 512 ≤ (text.takeWhile kind).length := by
  constructor
  · rintro ⟨run, ⟨rest, rfl⟩, length, isKind⟩
    rw [List.takeWhile_append_of_pos isKind, List.length_append, length]
    exact Nat.le_add_right _ _
  · intro long
    refine ⟨(text.takeWhile kind).take 512,
      (List.take_prefix _ _).trans (List.takeWhile_prefix _), ?_, ?_⟩
    · rw [List.length_take, min_eq_left long]
    · intro symbol member
      exact List.mem_takeWhile_imp (List.mem_of_mem_take member)

/-- Neither blank nor comma. -/
def isWordSymbol (symbol : Char) : Bool :=
  !(isWs symbol || symbol = ',')

theorem isWordSymbol_iff (symbol : Char) :
    isWordSymbol symbol = true ↔ ¬ (isWs symbol ∨ symbol = ',') := by
  simp [isWordSymbol]

/-- How a character of a value stands to the quotations before it: outside of
words and quotations, in a word, or in a quotation. -/
inductive QuoteState
  | outside
  | word
  | quoted (mark : Char)

/-- The state behind a character. -/
def QuoteState.next : QuoteState → Char → QuoteState
  | .quoted mark, symbol =>
      if symbol = mark then .outside else .quoted mark
  | .word, symbol => if isWordSymbol symbol then .word else .outside
  | .outside, symbol =>
      if !isWordSymbol symbol then .outside
      else if isQuote symbol then .quoted symbol
      else .word

/-- A token of the array's size begins here: a word of 512 characters without a
quote mark in front, or 512 characters in a quotation. -/
def QuoteState.BeginsLong : QuoteState → CString → Prop
  | .outside, text =>
      (∀ first ∈ text.head?, isQuote first = false) ∧
        OpenRTH.BeginsLong isWordSymbol text
  | .word, _ => False
  | .quoted mark, text => OpenRTH.BeginsLong (· ≠ mark) text

/-- Somewhere in a text a token of the array's size begins. -/
def LongFrom (state : QuoteState) (text : CString) : Prop :=
  ∃ before rest, text = before ++ rest ∧
    (before.foldl QuoteState.next state).BeginsLong rest

def LongToken (value : CString) : Prop := LongFrom .outside value

theorem longFrom_nil (state : QuoteState) : ¬ LongFrom state [] := by
  rintro ⟨before, rest, split, begins⟩
  obtain ⟨rfl, rfl⟩ := List.append_eq_nil_iff.mp split.symm
  cases state <;> simp [QuoteState.BeginsLong, beginsLong_iff] at begins

theorem longFrom_cons (state : QuoteState) (symbol : Char) (rest : CString) :
    LongFrom state (symbol :: rest) ↔
      state.BeginsLong (symbol :: rest) ∨ LongFrom (state.next symbol) rest := by
  constructor
  · rintro ⟨before, behind, split, begins⟩
    cases before with
    | nil =>
        rw [List.nil_append] at split
        subst split
        exact .inl begins
    | cons first before =>
        obtain ⟨rfl, rfl⟩ := List.cons.inj split
        exact .inr ⟨before, behind, rfl, begins⟩
  · rintro (begins | ⟨before, behind, rfl, begins⟩)
    · exact ⟨[], symbol :: rest, rfl, begins⟩
    · exact ⟨symbol :: before, behind, rfl, begins⟩

theorem longFrom_separator {symbol : Char} (separates : isWordSymbol symbol = false)
    (rest : CString) :
    LongFrom .outside (symbol :: rest) ↔ LongFrom .outside rest := by
  rw [longFrom_cons, QuoteState.next, if_pos (by simp [separates])]
  simp [QuoteState.BeginsLong, beginsLong_iff, separates]

theorem longFrom_dropWhile_isWs (text : CString) :
    LongFrom .outside (text.dropWhile isWs) ↔ LongFrom .outside text := by
  induction text with
  | nil => rfl
  | cons symbol rest ih =>
      by_cases blank : isWs symbol
      · rw [List.dropWhile_cons_of_pos blank, ih,
          longFrom_separator (by simp [isWordSymbol, blank])]
      · rw [List.dropWhile_cons_of_neg blank]

theorem longFrom_skipComma (text : CString) :
    LongFrom .outside (skipComma text) ↔ LongFrom .outside text := by
  cases text with
  | nil => rfl
  | cons symbol rest =>
      rw [skipComma]
      split_ifs with comma
      · rw [longFrom_separator (by simp [isWordSymbol, comma])]
      · rfl

theorem scanToken_some {mark : Char} {text : CString}
    (noEol : ∀ symbol ∈ text, isEol symbol = false) :
    (scanToken (some mark) text).1 = text.takeWhile (· ≠ mark) := by
  induction text with
  | nil => rfl
  | cons symbol rest ih =>
      rw [List.forall_mem_cons] at noEol
      unfold scanToken
      rw [if_neg (by simp [noEol.1])]
      by_cases closes : mark = symbol
      · simp [closes]
      · have differs : symbol ≠ mark := Ne.symm closes
        simp [closes, differs, ih noEol.2]

/-- A quotation ends at its mark. -/
theorem longFrom_quoted {mark : Char} {text : CString}
    (noEol : ∀ symbol ∈ text, isEol symbol = false) :
    LongFrom (.quoted mark) text ↔
      512 ≤ (scanToken (some mark) text).1.length ∨
        LongFrom .outside (scanToken (some mark) text).2 := by
  induction text with
  | nil => simp [longFrom_nil, scanToken]
  | cons symbol rest ih =>
      have begins : QuoteState.BeginsLong (.quoted mark) (symbol :: rest) ↔
          512 ≤ (scanToken (some mark) (symbol :: rest)).1.length := by
        rw [scanToken_some noEol]
        exact beginsLong_iff _ _
      rw [longFrom_cons, begins]
      rw [List.forall_mem_cons] at noEol
      by_cases closes : symbol = mark
      · subst closes
        have scan : scanToken (some symbol) (symbol :: rest) = ([], rest) := by
          simp [scanToken, noEol.1]
        rw [scan, QuoteState.next, if_pos rfl]
      · have scan : scanToken (some mark) (symbol :: rest) =
            (symbol :: (scanToken (some mark) rest).1,
              (scanToken (some mark) rest).2) := by
          simp [scanToken, noEol.1, Ne.symm closes]
        rw [scan, QuoteState.next, if_neg closes, ih noEol.2,
          List.length_cons, ← or_assoc]
        apply or_congr_left
        omega

theorem scanToken_none {text : CString}
    (noEol : ∀ symbol ∈ text, isEol symbol = false) :
    (scanToken none text).1 = text.takeWhile isWordSymbol := by
  induction text with
  | nil => rfl
  | cons symbol rest ih =>
      rw [List.forall_mem_cons] at noEol
      unfold scanToken
      rw [if_neg (by simp [noEol.1])]
      by_cases ends : isWordSymbol symbol
      · have stays := (isWordSymbol_iff symbol).mp ends
        simp [stays, ends, ih noEol.2]
      · have separates : isWs symbol ∨ symbol = ',' := by
          rwa [isWordSymbol_iff, not_not] at ends
        simp [separates, ends]

theorem longFrom_word {text : CString}
    (noEol : ∀ symbol ∈ text, isEol symbol = false) :
    LongFrom .word text ↔ LongFrom .outside (scanToken none text).2 := by
  induction text with
  | nil => simp [longFrom_nil, scanToken]
  | cons symbol rest ih =>
      rw [List.forall_mem_cons] at noEol
      rw [longFrom_cons]
      unfold scanToken QuoteState.next
      rw [if_neg (by simp [noEol.1])]
      by_cases ends : isWordSymbol symbol
      · have stays := (isWordSymbol_iff symbol).mp ends
        simp [stays, ends, ih noEol.2, QuoteState.BeginsLong]
      · have separates : isWs symbol ∨ symbol = ',' := by
          rwa [isWordSymbol_iff, not_not] at ends
        simp [separates, ends, QuoteState.BeginsLong,
          longFrom_separator (by simpa using ends)]

theorem isWordSymbol_of_isQuote {symbol : Char} (quote : isQuote symbol) :
    isWordSymbol symbol = true := by
  rw [isQuote, decide_eq_true_eq] at quote
  rcases quote with rfl | rfl <;> rfl

/-- The token with this first character, and the text behind it. -/
def scanFirst (first : Char) (rest : CString) : CString × CString :=
  if isQuote first then scanToken (some first) rest
  else scanToken none (first :: rest)

/-- A long token is the one that is copied, or begins behind it. -/
theorem longFrom_scanFirst {first : Char} {rest : CString}
    (noEol : ∀ symbol ∈ first :: rest, isEol symbol = false) :
    LongFrom .outside (first :: rest) ↔
      512 ≤ (scanFirst first rest).1.length ∨
        LongFrom .outside (scanFirst first rest).2 := by
  unfold scanFirst
  have noEolRest := (List.forall_mem_cons.mp noEol).2
  by_cases quote : isQuote first
  · rw [if_pos quote, longFrom_cons, QuoteState.next,
      isWordSymbol_of_isQuote quote]
    simp [quote, QuoteState.BeginsLong, longFrom_quoted noEolRest]
  · rw [if_neg quote]
    by_cases ends : isWordSymbol first
    · have begins : QuoteState.BeginsLong .outside (first :: rest) ↔
          512 ≤ (scanToken none (first :: rest)).1.length := by
        rw [scanToken_none noEol, QuoteState.BeginsLong, beginsLong_iff]
        simp [quote]
      have behind : (scanToken none (first :: rest)).2 =
          (scanToken none rest).2 := by
        have stays := (isWordSymbol_iff first).mp ends
        simp [scanToken, stays, noEol first List.mem_cons_self]
      rw [longFrom_cons, begins, behind, QuoteState.next,
        ← longFrom_word noEolRest]
      simp [quote, ends]
    · have separates : isWs first ∨ first = ',' := by
        rwa [isWordSymbol_iff, not_not] at ends
      simp [scanToken, separates, noEol first List.mem_cons_self]

theorem scanToken_suffix (quotes : Option Char) (input : CString) :
    (scanToken quotes input).2 <:+ input := by
  induction input with
  | nil => exact List.suffix_rfl
  | cons symbol rest ih =>
      unfold scanToken
      split_ifs
      · exact List.suffix_rfl
      · exact List.suffix_cons symbol rest
      · exact List.suffix_rfl
      · exact ih.trans (List.suffix_cons symbol rest)

theorem skipComma_suffix (input : CString) : skipComma input <:+ input := by
  cases input with
  | nil => exact List.suffix_rfl
  | cons symbol rest =>
      rw [skipComma]
      split_ifs
      · exact List.suffix_cons symbol rest
      · exact List.suffix_rfl

theorem nextToken_suffix {input token after : CString}
    (next : nextToken input = some (token, after)) : after <:+ input := by
  have blanks := List.dropWhile_suffix isWs (l := input)
  unfold nextToken at next
  split at next
  · cases next
  · next first rest start =>
      rw [start] at blanks
      split_ifs at next with eol quote
      all_goals
        obtain ⟨-, rfl⟩ := Prod.mk.inj (Option.some.inj next)
        refine ((skipComma_suffix _).trans (List.dropWhile_suffix _)).trans ?_
      · exact ((scanToken_suffix _ rest).trans
          (List.suffix_cons first rest)).trans blanks
      · exact (scanToken_suffix _ (first :: rest)).trans blanks

/-- A long token is the first one, or begins behind it. -/
theorem longToken_nextToken {input : CString}
    (noEol : ∀ symbol ∈ input, isEol symbol = false) :
    LongToken input ↔
      ∃ token after, nextToken input = some (token, after) ∧
        (512 ≤ token.length ∨ LongToken after) := by
  unfold LongToken
  rw [← longFrom_dropWhile_isWs]
  have noEolHere : ∀ symbol ∈ input.dropWhile isWs, isEol symbol = false :=
    fun symbol member => noEol symbol
      ((List.dropWhile_suffix isWs).subset member)
  unfold nextToken
  cases start : input.dropWhile isWs with
  | nil => simp [longFrom_nil]
  | cons first rest =>
      rw [start] at noEolHere
      rw [longFrom_scanFirst noEolHere,
        ← longFrom_dropWhile_isWs (scanFirst first rest).2,
        ← longFrom_skipComma]
      dsimp only
      rw [if_neg (by simp [noEolHere first List.mem_cons_self]), ← scanFirst]
      simp

theorem longToken_iff {turns : ℕ} {input : CString}
    (noEol : ∀ symbol ∈ input, isEol symbol = false)
    (enough : input.length ≤ turns) :
    LongToken input ↔
      ∃ token ∈ lineTokensLoop turns input, ¬ FitsToken token := by
  induction turns generalizing input with
  | zero =>
      obtain rfl := List.length_eq_zero_iff.mp (Nat.le_zero.mp enough)
      simp [LongToken, longFrom_nil, lineTokensLoop]
  | succ turns ih =>
      rw [longToken_nextToken noEol, lineTokensLoop]
      cases next : nextToken input with
      | none => simp
      | some taken =>
          obtain ⟨token, after⟩ := taken
          have shorter := length_nextToken_lt next
          have noEolAfter : ∀ symbol ∈ after, isEol symbol = false :=
            fun symbol member => noEol symbol
              ((nextToken_suffix next).subset member)
          simp [ih noEolAfter (by omega), FitsToken]

/-! ## Pieces that do not fit -/

/-- What is seen of a piece: nothing behind a NUL, a line feed or a carriage
return, and no leading blanks. -/
def visible (piece : CString) : CString :=
  (piece.takeWhile fun symbol =>
    symbol ∉ [nul, lineFeed, carriageReturn]).dropWhile (· = ' ')

/-- The text is neither blank nor marked as a comment, a section or a border of
a script. -/
def IsKeyText (text : CString) : Prop :=
  text ≠ [] ∧ ¬ ['/', '/'] <+: text ∧
    ∀ first ∈ text.head?, first ∉ ['#', '[', openBrace, closeBrace]

/-- A piece with a text that does not fit its array: the name of a section or,
outside of scripts, the name of a key or a token of its value. -/
inductive Overlong (inScript : Bool) (piece : CString) : Prop
  | sectionName {name : CString} (text : visible piece = '[' :: name)
      (long : BeginsLong (· ∉ [' ', ']']) (name.dropWhile (· = ' ')))
  | keyName (isKey : IsKeyText (visible piece)) (outside : inScript = false)
      (long : BeginsLong (· ∉ [' ', '=']) (visible piece))
  | token {name value : CString} (isKey : IsKeyText (visible piece))
      (outside : inScript = false)
      (text : visible piece = name ++ '=' :: value) (first : '=' ∉ name)
      (long : LongToken value)

theorem trimmed_eq_visible (piece : CString) : trimmed piece = visible piece := by
  rw [trimmed, chomp_eq, beforeEol, visible]
  congr 2
  ext symbol
  rw [Bool.eq_iff_iff]
  simp [isEol, lineFeed, carriageReturn]

theorem isEol_of_mem_visible {piece : CString} {symbol : Char}
    (member : symbol ∈ visible piece) : isEol symbol = false := by
  rw [← trimmed_eq_visible, trimmed, chomp_eq] at member
  have inside := (List.dropWhile_suffix _).subset member
  simpa using List.mem_takeWhile_imp inside

theorem lineKind_eq_plain_iff (text : CString) :
    lineKind text = .plain ↔ IsKeyText text := by
  cases text with
  | nil => simp [lineKind, IsKeyText]
  | cons first rest =>
      have comment : ['/', '/'] <+: first :: rest ↔
          first = '/' ∧ rest.head? = some '/' := by
        cases rest <;> simp [List.cons_prefix_cons, eq_comm]
      dsimp only [lineKind]
      rw [IsKeyText, comment]
      split_ifs <;> simp_all
      tauto

theorem lineKind_eq_header_iff (text name : CString) :
    lineKind text = .header name ↔ text = '[' :: name := by
  cases text with
  | nil => simp [lineKind]
  | cons first rest =>
      dsimp only [lineKind]
      split_ifs with comment isSection <;> simp_all
      rintro rfl
      simp at comment

theorem nameText_eq {delimeter : Char} {text : CString} (noNul : nul ∉ text) :
    nameText delimeter text = text.takeWhile (· ∉ [' ', delimeter]) := by
  induction text with
  | nil => rfl
  | cons symbol rest ih =>
      simp only [List.mem_cons, not_or] at noNul
      have rests := ih noNul.2
      unfold nameText at rests ⊢
      rw [List.takeWhile_cons, List.takeWhile_cons, rests]
      simp [Ne.symm noNul.1]

theorem fitsToken_delimitedText_iff {delimeter : Char} {text : CString}
    (noNul : nul ∉ text) :
    FitsToken (delimitedText text delimeter) ↔
      ¬ BeginsLong (· ∉ [' ', delimeter]) (text.dropWhile (· = ' ')) := by
  have noNulHere : nul ∉ text.dropWhile (· = ' ') := fun member =>
    noNul ((List.dropWhile_suffix _).subset member)
  rw [beginsLong_iff, ← nameText_eq noNulHere, FitsToken, delimitedText,
    not_le]

theorem valueText_append {name : CString} (first : '=' ∉ name)
    (value : CString) : valueText (name ++ '=' :: value) = value := by
  rw [valueText, List.dropWhile_append_of_pos fun symbol member => by
    simpa using ne_of_mem_of_not_mem member first,
    List.dropWhile_cons_of_neg (by simp), List.tail_cons]

theorem keyFits_iff {text : CString}
    (noEol : ∀ symbol ∈ text, isEol symbol = false)
    (noBlank : text.dropWhile (· = ' ') = text) :
    KeyFits text ↔ ¬ BeginsLong (· ∉ [' ', '=']) text ∧
      ∀ name value, text = name ++ '=' :: value → '=' ∉ name →
        ¬ LongToken value := by
  have noNul : nul ∉ text := fun member => by cases noEol nul member
  have noEolValue : ∀ symbol ∈ valueText text, isEol symbol = false :=
    fun symbol member => noEol symbol
      ((List.dropWhile_suffix _).subset (List.mem_of_mem_tail member))
  rw [KeyFits, fitsToken_delimitedText_iff noNul, noBlank]
  apply and_congr_right'
  have tokens := longToken_iff noEolValue le_rfl
  constructor
  · rintro fit name value rfl first long
    rw [valueText_append first] at fit tokens
    obtain ⟨token, member, overruns⟩ := tokens.mp long
    exact overruns (fit token member)
  · intro short token member
    by_contra overruns
    have long := tokens.mpr ⟨token, member, overruns⟩
    by_cases present : '=' ∈ text
    · obtain ⟨name, value, rfl, first⟩ := List.eq_append_cons_of_mem present
      rw [valueText_append first] at long
      exact short name value rfl first long
    · have absent : valueText text = [] := by
        rw [valueText, List.dropWhile_eq_nil_iff.mpr]
        · rfl
        · intro symbol member
          simpa using ne_of_mem_of_not_mem member present
      rw [absent] at long
      exact longFrom_nil _ long

theorem lineFits_iff (inScript : Bool) (piece : CString) :
    LineFits inScript piece ↔ ¬ Overlong inScript piece := by
  have noEol : ∀ symbol ∈ visible piece, isEol symbol = false :=
    fun symbol => isEol_of_mem_visible
  have noNul : nul ∉ visible piece := fun member => by
    cases noEol nul member
  have isHeader := lineKind_eq_header_iff (visible piece)
  have isPlain := lineKind_eq_plain_iff (visible piece)
  rw [LineFits, trimmed_eq_visible]
  cases kind : lineKind (visible piece) with
  | header name =>
      have text := (isHeader name).mp kind
      rw [text, List.mem_cons, not_or] at noNul
      dsimp only
      rw [fitsToken_delimitedText_iff noNul.2]
      constructor
      · rintro fits (⟨same, long⟩ | ⟨isKey⟩ | ⟨isKey⟩)
        · obtain ⟨-, rfl⟩ := List.cons.inj (text.symm.trans same)
          exact fits long
        · simp [kind, isKey] at isPlain
        · simp [kind, isKey] at isPlain
      · exact fun fits long => fits (.sectionName text long)
  | plain =>
      have isKey := isPlain.mp kind
      dsimp only
      rw [keyFits_iff noEol (by
        rw [visible]
        exact List.dropWhile_idempotent _ _)]
      constructor
      · rintro fits (⟨same, long⟩ | ⟨-, outside, long⟩ |
          ⟨-, outside, text, first, long⟩)
        · have isHeader := (isHeader _).mpr same
          simp [kind] at isHeader
        · exact (fits outside).1 long
        · exact (fits outside).2 _ _ text first long
      · intro fits outside
        exact ⟨fun long => fits (.keyName isKey outside long),
          fun name value text first long =>
            fits (.token isKey outside text first long)⟩
  | ignored | opens | closes =>
      refine iff_of_true trivial ?_
      rintro (⟨same, long⟩ | ⟨isKey⟩ | ⟨isKey⟩)
      · have isHeader := (isHeader _).mpr same
        simp [kind] at isHeader
      · simp [kind, isKey] at isPlain
      · simp [kind, isKey] at isPlain

/-- The brace that begins a piece. -/
def braceOf (piece : CString) : Option Char :=
  (visible piece).head?.filter (· ∈ [openBrace, closeBrace])

/-- The last brace that begins a piece. -/
def lastBrace (pieces : List CString) : Option Char :=
  (pieces.filterMap braceOf).getLast?

/-- Whether the lines behind some pieces stand in a script. -/
def inScriptBehind (inScript : Bool) (pieces : List CString) : Bool :=
  (lastBrace pieces).elim inScript (· = openBrace)

theorem scriptAfter_eq (inScript : Bool) (piece : CString) :
    scriptAfter inScript piece =
      (braceOf piece).elim inScript (· = openBrace) := by
  rw [scriptAfter, trimmed_eq_visible, braceOf]
  have isOpen := lineKind_eq_opens_iff (visible piece)
  have isClose := lineKind_eq_closes_iff (visible piece)
  cases kind : lineKind (visible piece) with
  | opens =>
      rw [isOpen.mp kind]
      rfl
  | closes =>
      rw [isClose.mp kind]
      rfl
  | ignored | header | plain =>
      rw [kind] at isOpen isClose
      cases start : (visible piece).head? with
      | none => rfl
      | some first =>
          rw [Option.filter_some, if_neg]
          · rfl
          · simp_all

theorem inScriptBehind_cons (inScript : Bool) (piece : CString)
    (pieces : List CString) :
    inScriptBehind inScript (piece :: pieces) =
      inScriptBehind (scriptAfter inScript piece) pieces := by
  unfold inScriptBehind lastBrace
  rw [scriptAfter_eq, List.filterMap_cons]
  cases braceOf piece with
  | none => rfl
  | some brace =>
      dsimp only
      rw [List.getLast?_cons]
      cases (pieces.filterMap braceOf).getLast? <;> rfl

theorem allFit_iff (inScript : Bool) (pieces : List CString) :
    AllFit inScript pieces ↔
      ∀ earlier piece later, pieces = earlier ++ piece :: later →
        ¬ Overlong (inScriptBehind inScript earlier) piece := by
  induction pieces generalizing inScript with
  | nil => simp [AllFit]
  | cons piece pieces ih =>
      rw [AllFit, lineFits_iff, ih]
      constructor
      · rintro ⟨fits, others⟩ earlier other later split
        cases earlier with
        | nil =>
            obtain ⟨rfl, rfl⟩ := List.cons.inj split
            exact fits
        | cons first earlier =>
            obtain ⟨rfl, rfl⟩ := List.cons.inj split
            rw [inScriptBehind_cons]
            exact others earlier other later rfl
      · intro fit
        refine ⟨fit [] piece pieces rfl, ?_⟩
        rintro earlier other later rfl
        rw [← inScriptBehind_cons]
        exact fit (piece :: earlier) other later rfl

/-- `read` stays inside its arrays exactly when no piece of the file has a text
that is too long; a piece stands in a script when the last brace that begins a
piece before it is an opening one. -/
theorem configRead_inBounds_iff (config : CConfigFile) (content : CString) :
    (config.read (some content)).isSome ↔
      ∀ earlier piece later,
        linePieces content = earlier ++ piece :: later →
          ¬ Overlong (lastBrace earlier = some openBrace) piece := by
  have start (earlier : List CString) :
      inScriptBehind false earlier =
        decide (lastBrace earlier = some openBrace) := by
    unfold inScriptBehind
    cases lastBrace earlier <;> simp
  unfold CConfigFile.read
  rw [Option.isSome_map, foldlM_linePieces, readLines_isSome, allFit_iff]
  simp only [start]

theorem overlong_letters {count : ℕ} (long : 512 ≤ count) :
    Overlong false (List.replicate count 'a') := by
  have whole : visible (List.replicate count 'a') =
      List.replicate count 'a' := by
    simp [visible, nul, lineFeed, carriageReturn]
  obtain ⟨others, rfl⟩ := Nat.exists_eq_add_of_le' (by omega : 1 ≤ count)
  refine .keyName ?_ rfl ?_
  · rw [whole]
    refine ⟨by simp [List.replicate_succ], ?_, ?_⟩
    · simp [List.replicate_succ, List.cons_prefix_cons]
    · simp [List.replicate_succ, openBrace, closeBrace]
  · rw [whole, beginsLong_iff, List.takeWhile_replicate]
    simpa using long

/-- One line with a key of 512 letters. -/
theorem configRead_not_inBounds :
    CConfigFile.new.read (some (List.replicate 512 'a')) = none := by
  have oneLine : lineFeed ∉ List.replicate 512 'a' := by
    intro member
    cases List.eq_of_mem_replicate member
  have length : (List.replicate 512 'a').length = 512 :=
    List.length_replicate
  have lines : fgetsLines 1000 [] (List.replicate 512 'a') =
      [List.replicate 512 'a'] := by
    apply fgetsLines_last oneLine
    · rw [length, List.length_nil]
      omega
    · rw [List.nil_append]
      apply List.ne_nil_of_length_pos
      rw [length]
      omega
  rw [← Option.not_isSome_iff_eq_none, CConfigFile.read, Option.isSome_map,
    readLines_isSome, lines]
  rintro ⟨fits, -⟩
  exact (lineFits_iff _ _).mp fits (overlong_letters le_rfl)

end OpenRTH
