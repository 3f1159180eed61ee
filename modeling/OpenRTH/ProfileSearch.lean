import OpenRTH.EvseKeys
import Mathlib.Data.List.DropRight

/-!
# Searching a profile

`configstring` reads a profile symbol by symbol and keeps one of them in a
variable, so that every helper leaves off in the middle of a line.  Here the
profile is the list of symbols from that one on.  The main result says what
comes of it: the value of the first line that names the item, in the first part
with the right name, and never more than the array has room for.
-/

namespace OpenRTH

/-! ## Reading the symbols -/

/-- `isblank`. -/
def isBlank (symbol : Char) : Bool :=
  symbol = ' ' || symbol = '\t'

/-- `nobreak`, of a symbol before the end of the file. -/
def noBreak (symbol : Char) : Bool :=
  symbol ≠ '\r' && symbol ≠ '\n'

def skipBlanks (file : List Char) : List Char :=
  file.dropWhile isBlank

/-- `_compare`: whether the text ends before it differs from the line, and where
the reading stops. -/
def compareText : CString → List Char → Bool × List Char
  | [], file => (true, file)
  | symbol :: text, file =>
      if isBlank symbol then compareText text file
      else
        match file with
        | [] => (false, [])
        | c :: rest =>
            if noBreak c ∧ c.toUpper = symbol.toUpper then
              compareText text (skipBlanks rest)
            else (false, c :: rest)

/-- `_discard`. -/
def discard (file : List Char) : List Char :=
  (file.dropWhile noBreak).tail

/-! ## Collecting a value -/

/-- The variables of `_collect`, `buffer` and `string` as offsets. -/
structure Collected where
  memory : FixedBuffer Char 1024
  buffer : ℕ
  length : ℕ
  string : ℕ

/-- The end of the loop of `_collect`, for one symbol. -/
def Collected.put (collected : Collected) (symbol : Char) :
    Option Collected :=
  (if 1 < collected.length then
    (collected.memory.store collected.buffer [symbol]).map fun memory =>
      { collected with
        memory := memory
        buffer := collected.buffer + 1
        length := collected.length - 1 }
  else some collected).map fun written =>
    if isBlank symbol then written
    else { written with string := written.buffer }

/-- What stands for a symbol behind a backslash. -/
def escapedSymbol (symbol : Char) : Char :=
  if symbol = 'n' then '\n'
  else if symbol = 'r' then '\r'
  else if symbol = 't' then '\t'
  else symbol

/-- `EOF` as a `char`. -/
def endOfFile : Char := Char.ofNat 255

/-- The loop of `_collect`. -/
def collectLoop : List Char → Collected → Option Collected
  | [], collected => some collected
  | symbol :: file, collected =>
      if symbol = ';' ∨ ¬noBreak symbol then some collected
      else if symbol = '\\' then
        match file with
        | [] => collected.put endOfFile
        | escaped :: file =>
            (collected.put (escapedSymbol escaped)).bind (collectLoop file)
      else (collected.put symbol).bind (collectLoop file)

/-- `_collect`, as far as the string that it leaves in the array; `none` when a
write leaves the array. -/
def collect (file : List Char) (memory : FixedBuffer Char 1024) :
    Option CString :=
  (collectLoop file ⟨memory, 0, 1024, 0⟩).bind fun collected =>
    (collected.memory.store collected.string [nul]).map (·.string nul)

/-! ## The loops of `configstring` -/

inductive SearchResult
  | missing
  | found (string : CString)
  | overrun
  deriving DecidableEq

/-- The loop over the lines of the part.  The fuel is the number of symbols and
one more. -/
def searchItems (item : CString) (memory : FixedBuffer Char 1024) :
    ℕ → List Char → SearchResult
  | 0, _ => .missing
  | fuel + 1, file =>
      if file = [] ∨ file.head? = some '[' then .missing
      else
        let line := skipBlanks file
        if line.head? = some ';' then
          searchItems item memory fuel (discard line)
        else
          let (same, behind) := compareText item line
          if same ∧ behind.head? = some '=' then
            (collect (skipBlanks behind.tail) memory).elim .overrun .found
          else searchItems item memory fuel (discard behind)

/-- The loop over the lines up to the part. -/
def searchPart (part item : CString) (memory : FixedBuffer Char 1024) :
    ℕ → List Char → SearchResult
  | 0, _ => .missing
  | fuel + 1, file =>
      if file = [] then .missing
      else
        let line := skipBlanks file
        if line.head? = some '[' then
          let (same, behind) := compareText part (skipBlanks line.tail)
          if same ∧ behind.head? = some ']' then
            searchItems item memory (behind.length + 1) (discard behind)
          else searchPart part item memory fuel (discard behind)
        else searchPart part item memory fuel (discard line)

/-- `configstring` on a file that it can open. -/
def searchProfile (part item : CString) (memory : FixedBuffer Char 1024)
    (file : List Char) : SearchResult :=
  searchPart part item memory (file.length + 1) file

/-! ## Names and values by lines -/

/-- A name without its blanks, in upper case. -/
def squeezed (text : List Char) : List Char :=
  (text.filter fun symbol => !isBlank symbol).map Char.toUpper

/-- The line at the start of a text. -/
def lineOf (file : List Char) : List Char :=
  file.takeWhile noBreak

/-- The text from the start of each line behind the first one. -/
def laterLines : List Char → List (List Char)
  | [] => []
  | symbol :: file =>
      if noBreak symbol then laterLines file else file :: laterLines file

/-- A line opens a part. -/
def namesPart (part file : List Char) : Bool :=
  ('[' :: squeezed part ++ [']']).isPrefixOf (squeezed (lineOf file))

/-- A line has the value of an item. -/
def namesItem (item file : List Char) : Bool :=
  (squeezed (lineOf file)).head? ≠ some ';' &&
    (squeezed item ++ ['=']).isPrefixOf (squeezed (lineOf file))

/-- What stands behind some symbols that are no blanks. -/
def behindSymbols : ℕ → List Char → List Char
  | 0, file => file
  | count + 1, file => behindSymbols count (skipBlanks file).tail

/-- The symbols of a value, with its escape sequences replaced. -/
def valueSymbols : List Char → List Char
  | [] => []
  | symbol :: file =>
      if symbol = ';' ∨ ¬noBreak symbol then []
      else if symbol = '\\' then
        match file with
        | [] => [endOfFile]
        | escaped :: file => escapedSymbol escaped :: valueSymbols file
      else symbol :: valueSymbols file

/-- The string that the value behind a sign is read as. -/
def valueString (file : List Char) : CString :=
  cString (((valueSymbols (skipBlanks file)).rdropWhile isBlank).take 1023)

/-- The value on a line that names the item. -/
def itemValue (item line : List Char) : CString :=
  valueString (behindSymbols ((squeezed item).length + 1) line)

/-- The value of an item in a part of a profile. -/
def profileValue (part item file : List Char) : Option CString :=
  ((file :: laterLines file).find? (namesPart part)).bind fun heading =>
    (((laterLines heading).takeWhile fun line => line.head? ≠ some '[').find?
      (namesItem item)).map (itemValue item)

/-! ## Blanks and lines -/

theorem noBreak_of_isBlank {symbol : Char} (blank : isBlank symbol = true) :
    noBreak symbol = true := by
  simp only [isBlank, Bool.or_eq_true, decide_eq_true_eq] at blank
  rcases blank with rfl | rfl <;> decide

theorem discard_cons {symbol : Char} (inside : noBreak symbol = true)
    (file : List Char) : discard (symbol :: file) = discard file := by
  rw [discard, List.dropWhile_cons_of_pos inside, discard]

theorem discard_skipBlanks (file : List Char) :
    discard (skipBlanks file) = discard file := by
  induction file with
  | nil => rfl
  | cons symbol file ih =>
      rw [skipBlanks, List.dropWhile_cons]
      split
      · next blank => rw [discard_cons (noBreak_of_isBlank blank), ← ih]; rfl
      · rfl

theorem discard_compareText (text : CString) (file : List Char) :
    discard (compareText text file).2 = discard file := by
  fun_induction compareText text file with
  | case1 => rfl
  | case2 symbol text file blank ih => exact ih
  | case3 => rfl
  | case4 symbol text solid c rest same ih =>
      rw [ih, discard_skipBlanks, discard_cons same.1]
  | case5 => rfl

theorem length_discard_le (file : List Char) :
    (discard file).length ≤ file.length - 1 := by
  have shorter := (List.dropWhile_suffix noBreak (l := file)).length_le
  rw [discard, List.length_tail]
  omega

theorem laterLines_cases (file : List Char) :
    laterLines file = discard file :: laterLines (discard file) ∨
      laterLines file = [] ∧ discard file = [] := by
  induction file with
  | nil => exact .inr ⟨rfl, rfl⟩
  | cons symbol file ih =>
      by_cases inside : noBreak symbol = true
      · rw [laterLines, if_pos inside, discard_cons inside]
        exact ih
      · left
        rw [laterLines, if_neg inside, discard,
          List.dropWhile_cons_of_neg inside, List.tail_cons]

theorem find?_laterLines {found : List Char → Bool} (silent : found [] = false)
    (inside : List Char → Bool) (file : List Char) :
    ((laterLines file).takeWhile inside).find? found =
      ((discard file :: laterLines (discard file)).takeWhile inside).find?
        found := by
  obtain later | ⟨none, last⟩ := laterLines_cases file
  · rw [later]
  · rw [none, last, laterLines, List.takeWhile_cons]
    split <;> simp [silent]

/-! ## Comparing names -/

theorem skipBlanks_cases (file : List Char) :
    skipBlanks file = [] ∨
      ∃ c rest, skipBlanks file = c :: rest ∧ isBlank c = false := by
  cases rest : skipBlanks file with
  | nil => exact .inl rfl
  | cons c behind =>
      have solid := List.head?_dropWhile_not isBlank file
      rw [← skipBlanks, rest] at solid
      exact .inr ⟨c, behind, rfl, by simpa using solid⟩

theorem squeezed_cons_of_blank {symbol : Char} (blank : isBlank symbol = true)
    (text : List Char) : squeezed (symbol :: text) = squeezed text := by
  simp [squeezed, blank]

theorem squeezed_cons {symbol : Char} (solid : isBlank symbol = false)
    (text : List Char) :
    squeezed (symbol :: text) = symbol.toUpper :: squeezed text := by
  simp [squeezed, solid]

theorem lineOf_cons {symbol : Char} (inside : noBreak symbol = true)
    (file : List Char) : lineOf (symbol :: file) = symbol :: lineOf file :=
  List.takeWhile_cons_of_pos inside

theorem squeezed_lineOf_skipBlanks (file : List Char) :
    squeezed (lineOf (skipBlanks file)) = squeezed (lineOf file) := by
  induction file with
  | nil => rfl
  | cons symbol file ih =>
      rw [skipBlanks, List.dropWhile_cons]
      split
      · next blank =>
          rw [lineOf_cons (noBreak_of_isBlank blank),
            squeezed_cons_of_blank blank, ← ih]
          rfl
      · rfl

/-- A sign that ends a name: no other symbol has the same upper case. -/
structure IsMark (mark : Char) : Prop where
  solid : isBlank mark = false
  inside : noBreak mark = true
  toUpper_eq_iff : ∀ symbol : Char, symbol.toUpper = mark ↔ symbol = mark

theorem toUpper_eq_iff {mark : Char}
    (letter : ¬(65 ≤ mark.toNat ∧ mark.toNat ≤ 90) ∧
      ¬(97 ≤ mark.toNat ∧ mark.toNat ≤ 122)) (symbol : Char) :
    symbol.toUpper = mark ↔ symbol = mark := by
  unfold Char.toUpper
  split
  · next lower =>
      have low : 97 ≤ symbol.toNat := lower.1
      have high : symbol.toNat ≤ 122 := lower.2
      constructor
      · rintro rfl
        refine absurd ?_ letter.1
        have shifted : (symbol.val + ('A'.val - 'a'.val)).toNat =
            symbol.toNat - 32 := by
          rw [UInt32.toNat_add]
          have gap : ('A'.val - 'a'.val).toNat = 2 ^ 32 - 32 := by decide
          rw [gap]
          change (symbol.toNat + (2 ^ 32 - 32)) % 2 ^ 32 = _
          omega
        change 65 ≤ (symbol.val + ('A'.val - 'a'.val)).toNat ∧
          (symbol.val + ('A'.val - 'a'.val)).toNat ≤ 90
        omega
      · rintro rfl
        exact absurd ⟨low, high⟩ letter.2
  · rfl

theorem isMark_equals : IsMark '=' :=
  ⟨by decide, by decide, toUpper_eq_iff (by decide)⟩

theorem isMark_semicolon : IsMark ';' :=
  ⟨by decide, by decide, toUpper_eq_iff (by decide)⟩

theorem isMark_opening : IsMark '[' :=
  ⟨by decide, by decide, toUpper_eq_iff (by decide)⟩

theorem isMark_closing : IsMark ']' :=
  ⟨by decide, by decide, toUpper_eq_iff (by decide)⟩

theorem compareText_cons {symbol : Char} (solid : ¬isBlank symbol = true)
    (text : CString) (c : Char) (rest : List Char) :
    compareText (symbol :: text) (c :: rest) =
      if noBreak c ∧ c.toUpper = symbol.toUpper then
        compareText text (skipBlanks rest)
      else (false, c :: rest) := by
  rw [compareText, if_neg solid]

theorem compareText_of_blank {symbol : Char} (blank : isBlank symbol = true)
    (text : CString) (file : List Char) :
    compareText (symbol :: text) file = compareText text file := by
  cases file <;> rw [compareText, if_pos blank]

theorem compareText_nil {symbol : Char} (solid : ¬isBlank symbol = true)
    (text : CString) : compareText (symbol :: text) [] = (false, []) := by
  rw [compareText, if_neg solid]

/-- A text is compared with the rest of its line, up to blanks and case. -/
theorem compareText_iff {mark : Char} (isMark : IsMark mark) (text : CString)
    (file : List Char) :
    (compareText text (skipBlanks file)).1 = true ∧
        (compareText text (skipBlanks file)).2.head? = some mark ↔
      squeezed text ++ [mark] <+: squeezed (lineOf file) := by
  induction text generalizing file with
  | nil =>
      rw [compareText, ← squeezed_lineOf_skipBlanks file]
      obtain none | ⟨c, rest, found, solid⟩ := skipBlanks_cases file
      · rw [none]
        simp [squeezed, lineOf]
      · rw [found]
        by_cases inside : noBreak c = true
        · rw [lineOf_cons inside, squeezed_cons solid]
          have same := isMark.toUpper_eq_iff c
          simp only [squeezed, List.filter_nil, List.map_nil, List.nil_append,
            List.cons_prefix_cons, List.nil_prefix, and_true, true_and,
            List.head?_cons, Option.some.injEq]
          rw [eq_comm (a := mark), same]
        · have differs : c ≠ mark := fun same =>
            inside (same ▸ isMark.inside)
          simp [squeezed, lineOf, inside, differs]
  | cons symbol text ih =>
      by_cases blank : isBlank symbol = true
      · rw [compareText_of_blank blank, squeezed_cons_of_blank blank]
        exact ih file
      · rw [squeezed_cons (by simpa using blank),
          ← squeezed_lineOf_skipBlanks file]
        obtain none | ⟨c, rest, found, solid⟩ := skipBlanks_cases file
        · rw [none, compareText_nil blank]
          simp [squeezed, lineOf]
        · rw [found, compareText_cons blank]
          by_cases inside : noBreak c = true
          · rw [lineOf_cons inside, squeezed_cons solid, List.cons_append,
              List.cons_prefix_cons]
            by_cases same : c.toUpper = symbol.toUpper
            · simp only [inside, same, and_self, if_true, true_and]
              exact ih rest
            · simp [same, Ne.symm (a := c.toUpper) same]
          · simp [lineOf, squeezed, inside]

/-- Where a comparison stops after a match. -/
theorem compareText_behind (text : CString) (file : List Char)
    (same : (compareText text (skipBlanks file)).1 = true) :
    (compareText text (skipBlanks file)).2 =
      skipBlanks (behindSymbols (squeezed text).length file) := by
  induction text generalizing file with
  | nil => rfl
  | cons symbol text ih =>
      by_cases blank : isBlank symbol = true
      · rw [compareText_of_blank blank] at same ⊢
        rw [squeezed_cons_of_blank blank]
        exact ih file same
      · rw [squeezed_cons (by simpa using blank), List.length_cons,
          behindSymbols]
        cases found : skipBlanks file with
        | nil =>
            rw [found, compareText_nil blank] at same
            cases same
        | cons c rest =>
            rw [found, compareText_cons blank] at same
            rw [compareText_cons blank]
            split at same
            · next equal =>
                rw [if_pos equal]
                exact ih rest same
            · cases same

/-! ## The collected string -/

/-- What `_collect` has kept of the symbols of a value. -/
structure Collected.Holds (symbols : List Char) (collected : Collected) :
    Prop where
  front : collected.memory.contents.take collected.buffer = symbols.take 1023
  buffer : collected.buffer = min symbols.length 1023
  length : collected.length = 1024 - collected.buffer
  string : collected.string = min (symbols.rdropWhile isBlank).length 1023

theorem Collected.Holds.put {symbols : List Char} {collected : Collected}
    (holds : collected.Holds symbols) (symbol : Char) :
    ∃ after, collected.put symbol = some after ∧
      after.Holds (symbols ++ [symbol]) := by
  obtain ⟨front, buffer, length, string⟩ := holds
  have last : ((symbols ++ [symbol]).rdropWhile isBlank).length =
      if isBlank symbol = true then (symbols.rdropWhile isBlank).length
      else symbols.length + 1 := by
    rw [List.rdropWhile_concat]
    split
    · rfl
    · exact List.length_append
  by_cases room : symbols.length < 1023
  · have offset : collected.buffer = symbols.length := by omega
    obtain ⟨memory, stored⟩ :=
      collected.memory.exists_store_singleton symbol
        (show collected.buffer < 1024 by omega)
    have written := FixedBuffer.take_contents_store (by omega) stored
    rw [List.length_singleton, front] at written
    rw [Collected.put, if_pos (by omega), stored, Option.map_some,
      Option.map_some]
    refine ⟨_, rfl, ?_⟩
    split <;> next kind =>
      refine ⟨?_, ?_, ?_, ?_⟩
      · dsimp only
        rw [written, List.take_of_length_le (i := 1023) (l := symbols)
          (by omega), List.take_of_length_le (by simp; omega)]
      · dsimp only
        rw [List.length_append, List.length_singleton]
        omega
      · dsimp only
        omega
      · rw [last]
        simp only [kind, if_true, Bool.false_eq_true, if_false]
        omega
  · rw [Collected.put, if_neg (by omega), Option.map_some]
    refine ⟨_, rfl, ?_⟩
    split <;> next kind =>
      refine ⟨?_, ?_, ?_, ?_⟩
      · rw [List.take_append_of_le_length (by omega)]
        exact front
      · change collected.buffer = _
        rw [List.length_append]
        omega
      · exact length
      · rw [last]
        simp only [kind, if_true, Bool.false_eq_true, if_false]
        omega

theorem collectLoop_holds (file symbols : List Char) (collected : Collected)
    (holds : collected.Holds symbols) :
    ∃ after, collectLoop file collected = some after ∧
      after.Holds (symbols ++ valueSymbols file) := by
  induction file using valueSymbols.induct generalizing symbols collected with
  | case1 => exact ⟨_, rfl, by rwa [valueSymbols, List.append_nil]⟩
  | case2 symbol file ends =>
      unfold collectLoop valueSymbols
      rw [if_pos ends, if_pos ends, List.append_nil]
      exact ⟨_, rfl, holds⟩
  | case3 inside =>
      unfold collectLoop valueSymbols
      rw [if_neg inside, if_neg inside, if_pos rfl, if_pos rfl]
      exact holds.put endOfFile
  | case4 escaped file inside ih =>
      obtain ⟨next, put, kept⟩ := holds.put (escapedSymbol escaped)
      obtain ⟨after, loop, final⟩ := ih _ _ kept
      unfold collectLoop valueSymbols
      rw [if_neg inside, if_neg inside, if_pos rfl, if_pos rfl]
      refine ⟨after, ?_, ?_⟩
      · dsimp only
        rw [put, Option.bind_some, loop]
      · rwa [List.append_assoc] at final
  | case5 symbol file inside plain ih =>
      obtain ⟨next, put, kept⟩ := holds.put symbol
      obtain ⟨after, loop, final⟩ := ih _ _ kept
      unfold collectLoop valueSymbols
      rw [if_neg inside, if_neg inside, if_neg plain, if_neg plain]
      refine ⟨after, ?_, ?_⟩
      · rw [put, Option.bind_some, loop]
      · rwa [List.append_assoc] at final

theorem cString_append_terminated (text rest : List Char) :
    cString (text ++ nul :: rest) = cString text := by
  unfold cString
  rw [List.takeWhile_append]
  split_ifs with whole
  · rw [List.takeWhile_cons_of_neg (by simp), List.append_nil]
    exact ((List.takeWhile_prefix _).eq_of_length whole).symm
  · rfl

/-- The value is cut at 1023 symbols and loses the blanks at its end, and no
write leaves the array. -/
theorem collect_eq (file : List Char) (memory : FixedBuffer Char 1024) :
    collect file memory =
      some (cString (((valueSymbols file).rdropWhile isBlank).take 1023)) := by
  obtain ⟨after, loop, front, buffer, length, string⟩ :=
    collectLoop_holds file [] ⟨memory, 0, 1024, 0⟩ ⟨rfl, rfl, rfl, rfl⟩
  rw [List.nil_append] at front buffer string
  obtain ⟨stored, store⟩ := after.memory.exists_store_singleton nul
    (show after.string < 1024 by omega)
  have shorter := (List.rdropWhile_prefix isBlank (valueSymbols file))
  have kept : after.memory.contents.take after.string =
      ((valueSymbols file).rdropWhile isBlank).take 1023 := by
    have bound := shorter.length_le
    calc after.memory.contents.take after.string
        = (after.memory.contents.take after.buffer).take after.string := by
          rw [List.take_take, min_eq_left (by omega)]
      _ = ((valueSymbols file).take
            ((valueSymbols file).rdropWhile isBlank).length).take 1023 := by
          rw [front, List.take_take, List.take_take, string]
          congr 1
          omega
      _ = ((valueSymbols file).rdropWhile isBlank).take 1023 := by
          rw [← List.prefix_iff_eq_take.mp shorter]
  rw [collect, loop, Option.bind_some, store, Option.map_some,
    FixedBuffer.string, FixedBuffer.contents_store store, kept]
  exact congrArg some (cString_append_terminated _ _)

/-! ## The search -/

theorem head?_squeezed_lineOf {mark : Char} (isMark : IsMark mark)
    (file : List Char) :
    (skipBlanks file).head? = some mark ↔
      (squeezed (lineOf file)).head? = some mark := by
  rw [← squeezed_lineOf_skipBlanks file]
  obtain none | ⟨c, rest, found, solid⟩ := skipBlanks_cases file
  · rw [none]
    simp [squeezed, lineOf]
  · rw [found]
    by_cases inside : noBreak c = true
    · rw [lineOf_cons inside, squeezed_cons solid, List.head?_cons,
        List.head?_cons, Option.some.injEq, Option.some.injEq,
        isMark.toUpper_eq_iff]
    · have differs : c ≠ mark := fun same => inside (same ▸ isMark.inside)
      simp [squeezed, lineOf, inside, differs]

theorem namesItem_nil (item : List Char) : namesItem item [] = false := by
  simp [namesItem, squeezed, lineOf]

theorem namesPart_nil (part : List Char) : namesPart part [] = false := by
  simp [namesPart, squeezed, lineOf]

theorem behindSymbols_succ (count : ℕ) (file : List Char) :
    behindSymbols (count + 1) file =
      (skipBlanks (behindSymbols count file)).tail := by
  induction count generalizing file with
  | zero => rfl
  | succ count ih => rw [behindSymbols, ih, ← behindSymbols]

/-- One turn of the loop over the lines of a part. -/
theorem searchItems_succ (item : CString) (memory : FixedBuffer Char 1024)
    (fuel : ℕ) (file : List Char) (nonempty : file ≠ [])
    (inside : file.head? ≠ some '[') :
    searchItems item memory (fuel + 1) file =
      if namesItem item file then .found (itemValue item file)
      else searchItems item memory fuel (discard file) := by
  rw [searchItems, if_neg (not_or.mpr ⟨nonempty, inside⟩)]
  dsimp only
  by_cases comment : (skipBlanks file).head? = some ';'
  · have unnamed : namesItem item file = false := by
      simp [namesItem, (head?_squeezed_lineOf isMark_semicolon file).mp comment]
    rw [if_pos comment, unnamed, discard_skipBlanks]
    rfl
  · have plain := mt (head?_squeezed_lineOf isMark_semicolon file).mpr comment
    have named := compareText_iff isMark_equals item file
    have discarded := discard_compareText item (skipBlanks file)
    have behind := compareText_behind item file
    rw [discard_skipBlanks] at discarded
    rw [if_neg comment]
    by_cases found : (compareText item (skipBlanks file)).1 = true ∧
        (compareText item (skipBlanks file)).2.head? = some '='
    · have names : namesItem item file = true := by
        simpa [namesItem, plain] using named.mp found
      rw [if_pos found, if_pos names, collect_eq, behind found.1,
        ← behindSymbols_succ]
      rfl
    · have unnamed : namesItem item file = false := by
        rw [Bool.eq_false_iff]
        simpa [namesItem, plain] using mt named.mpr found
      rw [if_neg found, unnamed, discarded]
      rfl

theorem searchItems_eq (item : CString) (memory : FixedBuffer Char 1024)
    (fuel : ℕ) (file : List Char) (enough : file.length < fuel) :
    searchItems item memory fuel file =
      ((((file :: laterLines file).takeWhile fun line =>
          line.head? ≠ some '[').find? (namesItem item)).map
        (itemValue item)).elim .missing .found := by
  induction fuel generalizing file with
  | zero => omega
  | succ fuel ih =>
      by_cases nonempty : file = []
      · subst nonempty
        simp [searchItems, laterLines, namesItem_nil]
      by_cases bracket : file.head? = some '['
      · rw [searchItems, if_pos (.inr bracket),
          List.takeWhile_cons_of_neg (by simpa using bracket)]
        rfl
      have shorter := length_discard_le file
      have positive := List.length_pos_of_ne_nil nonempty
      have rest := ih (discard file) (by omega)
      rw [← find?_laterLines (namesItem_nil item)] at rest
      rw [searchItems_succ item memory fuel file nonempty bracket, rest,
        List.takeWhile_cons_of_pos (by simpa using bracket), List.find?_cons]
      cases namesItem item file <;> rfl

/-- One turn of the loop over the lines before the part. -/
theorem searchPart_succ (part item : CString) (memory : FixedBuffer Char 1024)
    (fuel : ℕ) (file : List Char) (nonempty : file ≠ []) :
    searchPart part item memory (fuel + 1) file =
      if namesPart part file then
        ((((laterLines file).takeWhile fun line =>
          line.head? ≠ some '[').find? (namesItem item)).map
          (itemValue item)).elim .missing .found
      else searchPart part item memory fuel (discard file) := by
  rw [searchPart, if_neg nonempty]
  dsimp only
  by_cases opening : (skipBlanks file).head? = some '['
  · obtain ⟨tail, begins⟩ := List.head?_eq_some_iff.mp opening
    have squeezedLine : squeezed (lineOf file) =
        '[' :: squeezed (lineOf tail) := by
      rw [← squeezed_lineOf_skipBlanks file, begins, lineOf_cons (by decide),
        squeezed_cons (by decide)]
      rfl
    have named := compareText_iff isMark_closing part tail
    have discarded : discard (compareText part (skipBlanks tail)).2 =
        discard file := by
      rw [discard_compareText, discard_skipBlanks, ← discard_skipBlanks file,
        begins, discard_cons (by decide)]
    rw [if_pos opening, begins, List.tail_cons]
    by_cases found : (compareText part (skipBlanks tail)).1 = true ∧
        (compareText part (skipBlanks tail)).2.head? = some ']'
    · have names : namesPart part file = true := by
        simpa [namesPart, squeezedLine] using named.mp found
      have enough := length_discard_le (compareText part (skipBlanks tail)).2
      rw [if_pos found, if_pos names, searchItems_eq _ _ _ _ (by omega),
        discarded, ← find?_laterLines (namesItem_nil item)]
    · have unnamed : namesPart part file = false := by
        rw [Bool.eq_false_iff]
        simpa [namesPart, squeezedLine] using mt named.mpr found
      rw [if_neg found, unnamed, discarded]
      rfl
  · have unnamed : namesPart part file = false := by
      rw [Bool.eq_false_iff]
      intro names
      refine opening ((head?_squeezed_lineOf isMark_opening file).mpr ?_)
      obtain ⟨rest, line⟩ := List.isPrefixOf_iff_prefix.mp names
      rw [← line]
      rfl
    rw [if_neg opening, unnamed, discard_skipBlanks]
    rfl

theorem searchPart_eq (part item : CString) (memory : FixedBuffer Char 1024)
    (fuel : ℕ) (file : List Char) (enough : file.length < fuel) :
    searchPart part item memory fuel file =
      (profileValue part item file).elim .missing .found := by
  induction fuel generalizing file with
  | zero => omega
  | succ fuel ih =>
      by_cases nonempty : file = []
      · subst nonempty
        simp [searchPart, profileValue, laterLines, namesPart_nil]
      have shorter := length_discard_le file
      have positive := List.length_pos_of_ne_nil nonempty
      have rest := ih (discard file) (by omega)
      have later := find?_laterLines (namesPart_nil part) (fun _ => true) file
      have all (lines : List (List Char)) :
          lines.takeWhile (fun _ => true) = lines :=
        List.takeWhile_eq_self_iff.mpr fun _ _ => rfl
      rw [all, all] at later
      rw [searchPart_succ part item memory fuel file nonempty, rest,
        profileValue, profileValue, ← later, List.find?_cons]
      cases namesPart part file <;> rfl

/-- The loops of `configstring` find the value of the first line that names the
item in the first part of the right name, and nothing leaves the array. -/
theorem searchProfile_eq (part item : CString)
    (memory : FixedBuffer Char 1024) (file : List Char) :
    searchProfile part item memory file =
      (profileValue part item file).elim .missing .found :=
  searchPart_eq part item memory _ file (Nat.lt_succ_self _)

end OpenRTH
