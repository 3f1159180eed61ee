import OpenRTH.Configuration
import OpenRTH.FixedBuffer

/-!
# The tokenizer

`CTokenizer::parse` copies each token of a line into an array of 512 bytes,
character by character.  A token ends at a blank, a tab or a comma, or at the
quote mark it starts with.
-/

namespace OpenRTH

/-- `is_eol`. -/
def isEol (symbol : Char) : Bool :=
  symbol = nul ∨ symbol = Char.ofNat 10 ∨ symbol = Char.ofNat 13

theorem isEol_eq_false_of_all {text : CString}
    (oneLine : text.all (isEol · = false) = true) :
    ∀ symbol ∈ text, isEol symbol = false :=
  fun symbol member =>
    of_decide_eq_true (List.all_eq_true.mp oneLine symbol member)

/-- `is_ws`. -/
def isWs (symbol : Char) : Bool :=
  symbol = ' ' ∨ symbol = Char.ofNat 9

/-- A double or a single quote mark. -/
def isQuote (symbol : Char) : Bool :=
  symbol = Char.ofNat 34 ∨ symbol = Char.ofNat 39

/-- `char token[512]`. -/
abbrev TokenArray := FixedBuffer Char 512

/-- The array before anything is written to it; what it holds is never read
(`parseLoop_eq`). -/
def unwrittenToken : TokenArray :=
  ⟨List.replicate 512 nul, List.length_replicate⟩

/-- The inner loop of `parse`: the array, the place of `out` and the rest of the
input, or `none` after a write outside the array.  The argument `quotes` is
`in_quotes`. -/
def copyToken (quotes : Option Char) :
    CString → ℕ → TokenArray → Option (TokenArray × ℕ × CString)
  | [], out, token => some (token, out, [])
  | symbol :: rest, out, token =>
      if isEol symbol then some (token, out, symbol :: rest)
      else if quotes = some symbol then some (token, out, rest)
      else if quotes = none ∧ (isWs symbol ∨ symbol = ',') then
        some (token, out, symbol :: rest)
      else (token.store out [symbol]).bind (copyToken quotes rest (out + 1))

/-- Throw a comma away. -/
def skipComma : CString → CString
  | [] => []
  | symbol :: rest => if symbol = ',' then rest else symbol :: rest

/-- The outer loop of `parse`, for a number of turns. -/
def parseLoop : ℕ → CString → TokenArray → Option (List CString)
  | 0, _, _ => some []
  | turns + 1, input, token =>
      match input.dropWhile isWs with
      | [] => some []
      | first :: rest =>
          if isEol first then some []
          else do
            let (copied, out, after) ←
              if isQuote first then copyToken (some first) rest 0 token
              else copyToken none (first :: rest) 0 token
            let terminated ← copied.store out [nul]
            let others ← parseLoop turns (skipComma (after.dropWhile isWs))
              terminated
            some (terminated.string nul :: others)

/-- `CTokenizer::parse`; `none` after a write outside the array. -/
def tokenizerParse (input : CString) : Option (List CString) :=
  parseLoop input.length input unwrittenToken

/-! ## The text of a token -/

/-- What is read back from the array, when the token fits. -/
def fixedToken (token : CString) : Option CString :=
  if token.length < 512 then some token else none

theorem fixedToken_eq {text : CString} (noNul : nul ∉ text)
    (token : TokenArray) :
    ((token.storeEach 0 text).bind fun copied =>
        copied.store text.length [nul]).map (·.string nul) =
      fixedToken text := by
  rw [FixedBuffer.storeEach_eq_store (Nat.zero_le _)]
  change (token.storeString nul text).map _ = _
  unfold fixedToken
  split_ifs with fits
  · cases stored : token.storeString nul text with
    | none =>
        rw [FixedBuffer.storeString_eq_none_iff] at stored
        omega
    | some terminated =>
        rw [Option.map_some, FixedBuffer.string_storeString stored]
        exact congrArg some (cString_eq_self noNul)
  · rw [(FixedBuffer.storeString_eq_none_iff nul token text).mpr (by omega)]
    rfl

/-- What the inner loop copies, and where it stops. -/
def scanToken (quotes : Option Char) : CString → CString × CString
  | [] => ([], [])
  | symbol :: rest =>
      if isEol symbol then ([], symbol :: rest)
      else if quotes = some symbol then ([], rest)
      else if quotes = none ∧ (isWs symbol ∨ symbol = ',') then
        ([], symbol :: rest)
      else
        let (token, after) := scanToken quotes rest
        (symbol :: token, after)

/-- A turn of the outer loop: the token and the input behind it, or `none` at
the end of the line. -/
def nextToken (input : CString) : Option (CString × CString) :=
  match input.dropWhile isWs with
  | [] => none
  | first :: rest =>
      if isEol first then none
      else
        let scanned :=
          if isQuote first then scanToken (some first) rest
          else scanToken none (first :: rest)
        some (scanned.1, skipComma (scanned.2.dropWhile isWs))

/-- The tokens of a number of turns. -/
def tokenizerLoop : ℕ → CString → Option (List CString)
  | 0, _ => some []
  | turns + 1, input =>
      match nextToken input with
      | none => some []
      | some (token, after) =>
          match fixedToken token with
          | none => none
          | some token => (tokenizerLoop turns after).map (token :: ·)

theorem copyToken_eq (quotes : Option Char) (input : CString) (out : ℕ)
    (token : TokenArray) :
    copyToken quotes input out token =
      (token.storeEach out (scanToken quotes input).1).map fun copied =>
        (copied, out + (scanToken quotes input).1.length,
          (scanToken quotes input).2) := by
  induction input generalizing out token with
  | nil => rfl
  | cons symbol rest ih =>
      unfold copyToken scanToken
      split_ifs
      · rfl
      · rfl
      · rfl
      · rw [FixedBuffer.storeEach]
        cases token.store out [symbol] with
        | none => rfl
        | some stored =>
            simp only [Option.bind_some, ih, List.length_cons, Nat.add_assoc,
              Nat.add_comm 1]

theorem nul_notMem_scanToken (quotes : Option Char) (input : CString) :
    nul ∉ (scanToken quotes input).1 := by
  induction input with
  | nil => exact List.not_mem_nil
  | cons symbol rest ih =>
      unfold scanToken
      split_ifs with eol
      · exact List.not_mem_nil
      · exact List.not_mem_nil
      · exact List.not_mem_nil
      · rintro member
        rcases List.mem_cons.mp member with rfl | later
        · exact eol rfl
        · exact ih later

/-- A token of the line is copied, terminated and read back. -/
theorem copyToken_bind (quotes : Option Char) (input : CString) {turns : ℕ}
    (token : TokenArray)
    (others : ∀ input token,
      parseLoop turns input token = tokenizerLoop turns input) :
    (do
      let (copied, out, after) ← copyToken quotes input 0 token
      let terminated ← copied.store out [nul]
      let others ← parseLoop turns (skipComma (after.dropWhile isWs))
        terminated
      some (terminated.string nul :: others)) =
      match fixedToken (scanToken quotes input).1 with
      | none => none
      | some token =>
          (tokenizerLoop turns
            (skipComma ((scanToken quotes input).2.dropWhile isWs))).map
              (token :: ·) := by
  rw [← fixedToken_eq (nul_notMem_scanToken quotes input) token, copyToken_eq]
  cases token.storeEach 0 (scanToken quotes input).1 with
  | none => rfl
  | some copied =>
      simp only [Option.bind_eq_bind, Option.map_some, Option.bind_some,
        Nat.zero_add, others]
      cases copied.store (scanToken quotes input).1.length [nul] with
      | none => rfl
      | some terminated =>
          simp only [Option.bind_some, Option.map_some]
          cases tokenizerLoop turns
            (skipComma ((scanToken quotes input).2.dropWhile isWs)) <;> rfl

/-- The loop reads back what it has copied, whatever the array held before. -/
theorem parseLoop_eq (turns : ℕ) (input : CString) (token : TokenArray) :
    parseLoop turns input token = tokenizerLoop turns input := by
  induction turns generalizing input token with
  | zero => rfl
  | succ turns ih =>
      unfold parseLoop tokenizerLoop nextToken
      cases input.dropWhile isWs with
      | nil => rfl
      | cons first rest =>
          dsimp only
          by_cases eol : isEol first
          · rw [if_pos eol, if_pos eol]
          · rw [if_neg eol, if_neg eol]
            by_cases quote : isQuote first
            · rw [if_pos quote, if_pos quote]
              exact copyToken_bind (some first) rest token ih
            · rw [if_neg quote, if_neg quote]
              exact copyToken_bind none (first :: rest) token ih

/-! ## Every turn consumes input -/

theorem length_dropWhile_le (input : CString) (test : Char → Bool) :
    (input.dropWhile test).length ≤ input.length :=
  (List.dropWhile_suffix test).length_le

theorem length_skipComma_le (input : CString) :
    (skipComma input).length ≤ input.length := by
  cases input with
  | nil => rfl
  | cons symbol rest =>
      simp only [skipComma]
      split_ifs
      · exact Nat.le_succ _
      · exact Nat.le_refl _

theorem length_scanToken_le (quotes : Option Char) (input : CString) :
    (scanToken quotes input).2.length ≤ input.length := by
  induction input with
  | nil => exact le_rfl
  | cons symbol rest ih =>
      unfold scanToken
      split_ifs
      · exact le_rfl
      · exact Nat.le_succ _
      · exact le_rfl
      · exact ih.trans (Nat.le_succ _)

/-- A token that starts with neither a quote mark nor the end of the line is
a comma's, or has a first character. -/
theorem length_skipComma_scanToken_lt {first : Char}
    (notEol : isEol first = false) (notWs : isWs first = false)
    (rest : CString) :
    (skipComma ((scanToken none (first :: rest)).2.dropWhile isWs)).length <
      (first :: rest).length := by
  unfold scanToken
  rw [if_neg (by simp [notEol]), if_neg (by simp)]
  split_ifs with separator
  · have comma : first = ',' := by simpa [notWs] using separator
    rw [List.dropWhile_cons_of_neg (by simp [notWs])]
    simp [skipComma, comma]
  · have scanned := length_scanToken_le none rest
    have blanks := length_dropWhile_le (scanToken none rest).2 isWs
    have skipped :=
      length_skipComma_le ((scanToken none rest).2.dropWhile isWs)
    simp only [List.length_cons]
    omega

theorem length_nextToken_lt {input token after : CString}
    (next : nextToken input = some (token, after)) :
    after.length < input.length := by
  have blanks := length_dropWhile_le input isWs
  unfold nextToken at next
  split at next
  · cases next
  · next first rest start =>
      have notWs : isWs first = false := by
        simpa [start] using List.head_dropWhile_not isWs
          (l := input) (by simp [start])
      rw [start] at blanks
      by_cases eol : isEol first
      · rw [if_pos eol] at next
        cases next
      · rw [if_neg eol] at next
        obtain ⟨-, rfl⟩ := Prod.mk.inj (Option.some.inj next)
        split_ifs
        · have scanned := length_scanToken_le (some first) rest
          have trailing :=
            length_dropWhile_le (scanToken (some first) rest).2 isWs
          have skipped := length_skipComma_le
            ((scanToken (some first) rest).2.dropWhile isWs)
          simp only [List.length_cons] at blanks
          omega
        · have shorter := length_skipComma_scanToken_lt
            (by simpa using eol) notWs rest
          omega

/-- As many turns as there are characters are enough. -/
theorem tokenizerLoop_eq_of_le {turns others : ℕ} {input : CString}
    (enough : input.length ≤ turns) (alsoEnough : input.length ≤ others) :
    tokenizerLoop turns input = tokenizerLoop others input := by
  induction turns generalizing others input with
  | zero =>
      obtain rfl := List.length_eq_zero_iff.mp (Nat.le_zero.mp enough)
      cases others <;> rfl
  | succ turns ih =>
      cases others with
      | zero =>
          obtain rfl := List.length_eq_zero_iff.mp (Nat.le_zero.mp alsoEnough)
          rfl
      | succ others =>
          simp only [tokenizerLoop]
          cases next : nextToken input with
          | none => rfl
          | some taken =>
              have shorter := length_nextToken_lt next
              have same : tokenizerLoop turns taken.2 =
                  tokenizerLoop others taken.2 := ih (by omega) (by omega)
              simp only [same]

/-- The tokens of a line are the first one and those behind it. -/
theorem tokenizerParse_eq (input : CString) :
    tokenizerParse input =
      match nextToken input with
      | none => some []
      | some (token, after) =>
          match fixedToken token with
          | none => none
          | some token => (tokenizerParse after).map (token :: ·) := by
  simp only [tokenizerParse, parseLoop_eq]
  rw [tokenizerLoop_eq_of_le le_rfl (Nat.le_succ input.length), tokenizerLoop]
  cases next : nextToken input with
  | none => rfl
  | some taken =>
      have shorter := length_nextToken_lt next
      simp only
      rw [tokenizerLoop_eq_of_le shorter.le le_rfl]

/-! ## The end of the line -/

/-- The part of a string before the end of the line. -/
def beforeEol (input : CString) : CString :=
  input.takeWhile fun symbol => !isEol symbol

theorem beforeEol_cons_of_eol {symbol : Char} (eol : isEol symbol = true)
    (rest : CString) : beforeEol (symbol :: rest) = [] :=
  List.takeWhile_cons_of_neg (by simp [eol])

theorem beforeEol_cons {symbol : Char} (notEol : isEol symbol = false)
    (rest : CString) :
    beforeEol (symbol :: rest) = symbol :: beforeEol rest :=
  List.takeWhile_cons_of_pos (by simp [notEol])

theorem isEol_eq_false_of_isWs {symbol : Char} (blank : isWs symbol = true) :
    isEol symbol = false := by
  simp only [isWs, Bool.decide_or, Bool.or_eq_true, decide_eq_true_eq] at blank
  rcases blank with rfl | rfl <;> rfl

theorem dropWhile_isWs_beforeEol (input : CString) :
    (beforeEol input).dropWhile isWs = beforeEol (input.dropWhile isWs) := by
  induction input with
  | nil => rfl
  | cons symbol rest ih =>
      by_cases blank : isWs symbol
      · rw [beforeEol_cons (isEol_eq_false_of_isWs blank),
          List.dropWhile_cons_of_pos blank, List.dropWhile_cons_of_pos blank,
          ih]
      · rw [List.dropWhile_cons_of_neg blank]
        by_cases eol : isEol symbol
        · rw [beforeEol_cons_of_eol eol]
          rfl
        · rw [beforeEol_cons (by simpa using eol),
            List.dropWhile_cons_of_neg blank]

theorem skipComma_beforeEol (input : CString) :
    skipComma (beforeEol input) = beforeEol (skipComma input) := by
  cases input with
  | nil => rfl
  | cons symbol rest =>
      by_cases comma : symbol = ','
      · subst comma
        rfl
      · by_cases eol : isEol symbol
        · simp [beforeEol_cons_of_eol eol, skipComma, comma]
        · simp [beforeEol_cons (by simpa using eol : isEol symbol = false),
            skipComma, comma]

theorem scanToken_beforeEol (quotes : Option Char) (input : CString) :
    scanToken quotes (beforeEol input) =
      ((scanToken quotes input).1, beforeEol (scanToken quotes input).2) := by
  induction input with
  | nil => rfl
  | cons symbol rest ih =>
      by_cases eol : isEol symbol
      · simp [beforeEol_cons_of_eol eol, scanToken, eol]
      · have cut := beforeEol_cons (by simpa using eol) rest
        rw [cut]
        simp only [scanToken, if_neg eol, ih]
        split_ifs with closing separator
        · rfl
        · rw [cut]
        · rfl

theorem nextToken_beforeEol (input : CString) :
    nextToken (beforeEol input) =
      (nextToken input).map fun (token, after) =>
        (token, beforeEol after) := by
  unfold nextToken
  rw [dropWhile_isWs_beforeEol]
  cases start : input.dropWhile isWs with
  | nil => rfl
  | cons first rest =>
      by_cases eol : isEol first
      · simp [beforeEol_cons_of_eol eol, eol]
      · have cut := beforeEol_cons (by simpa using eol) rest
        rw [cut]
        simp only [if_neg eol, Option.map_some]
        split_ifs with quote
        · rw [scanToken_beforeEol, dropWhile_isWs_beforeEol,
            skipComma_beforeEol]
        · rw [← cut, scanToken_beforeEol, dropWhile_isWs_beforeEol,
            skipComma_beforeEol]

theorem tokenizerParse_beforeEol (input : CString) :
    tokenizerParse (beforeEol input) = tokenizerParse input := by
  induction length : input.length using Nat.strongRecOn
    generalizing input with
  | _ bound ih =>
      rw [tokenizerParse_eq, tokenizerParse_eq input, nextToken_beforeEol]
      cases next : nextToken input with
      | none => rfl
      | some taken =>
          have shorter := length_nextToken_lt next
          simp only [Option.map_some]
          rw [ih _ (length ▸ shorter) taken.2 rfl]

end OpenRTH
