import OpenRTH.ConfigIntegers
import OpenRTH.J1772Status
import OpenRTH.PrintedDoubles

/-!
# Writing JSON

`json_to_string`: the writer of jsoncpp with its default settings and no
indentation, for values without comments, infinities, NaNs and negative zeros.
Without comments the text has no spaces outside strings.
-/

namespace OpenRTH

/-! ## Strings -/

/-- `isControlCharacter`. -/
def isControlCharacter (symbol : Char) : Bool :=
  0 < symbol.toNat ∧ symbol.toNat ≤ 0x1F

/-- Four digits, in capital letters, of a number that has at most four. -/
def fourHexDigits (number : ℕ) : CString :=
  ((Nat.toDigits 16 number).map Char.toUpper).leftpad 4 '0'

/-- What `valueToQuotedStringN` writes for a symbol. -/
def escape (symbol : Char) : CString :=
  if symbol = '"' then ['\\', '"']
  else if symbol = '\\' then ['\\', '\\']
  else if symbol = '\x08' then ['\\', 'b']
  else if symbol = '\x0C' then ['\\', 'f']
  else if symbol = '\n' then ['\\', 'n']
  else if symbol = '\r' then ['\\', 'r']
  else if symbol = '\t' then ['\\', 't']
  else if isControlCharacter symbol ∨ symbol = nul then
    '\\' :: 'u' :: fourHexDigits symbol.toNat
  else [symbol]

/-- The symbols that `strnpbrk` looks for. -/
def escapedSymbols : CString :=
  ['"', '\\', '\x08', '\x0C', '\n', '\r', '\t']

/-- `containsControlCharacter0`. -/
def containsControlCharacter0 (text : CString) : Bool :=
  text.any fun symbol => isControlCharacter symbol || symbol = nul

/-- `valueToQuotedStringN`. -/
def valueToQuotedString (text : CString) : CString :=
  if text.find? (· ∈ escapedSymbols) = none ∧
      containsControlCharacter0 text = false then
    '"' :: (text ++ ['"'])
  else '"' :: (text.flatMap escape ++ ['"'])

theorem escape_of_plain {symbol : Char} (notListed : symbol ∉ escapedSymbols)
    (notControl : isControlCharacter symbol = false)
    (notNul : symbol ≠ nul) : escape symbol = [symbol] := by
  simp only [escapedSymbols, List.mem_cons, List.not_mem_nil, or_false,
    not_or] at notListed
  simp [escape, notListed, notControl, notNul]

theorem valueToQuotedString_eq (text : CString) :
    valueToQuotedString text = '"' :: (text.flatMap escape ++ ['"']) := by
  unfold valueToQuotedString
  split_ifs with plain
  · obtain ⟨notListed, notControl⟩ := plain
    have unchanged : text.flatMap escape = text := by
      rw [List.find?_eq_none] at notListed
      simp only [containsControlCharacter0, List.any_eq_false,
        Bool.or_eq_true, decide_eq_true_eq, not_or,
        Bool.not_eq_true] at notControl
      calc text.flatMap escape = text.flatMap fun symbol => [symbol] := by
            rw [List.flatMap_def, List.flatMap_def]
            congr 1
            refine List.map_congr_left fun symbol member => ?_
            exact escape_of_plain (by simpa using notListed symbol member)
              (notControl symbol member).1 (notControl symbol member).2
        _ = text := List.flatMap_singleton' text
    rw [unchanged]
  · rfl

/-! ## Values -/

mutual

/-- `writeValue`. -/
def writeValue : JsonValue → CString
  | .null => "null".toList
  | .int value => decimal value.toInt
  | .uint value => decimal value.toNat
  | .real value => (printedDouble value).text
  | .string text => valueToQuotedString text
  | .boolean value => if value then "true".toList else "false".toList
  | .array [] => "[]".toList
  | .array (first :: others) =>
      '[' :: (writeValue first ++ writeElements others)
  | .object [] => ['{', '}']
  | .object (first :: others) =>
      '{' :: (writeMember first ++ writeMembers others)

/-- The elements of an array behind the first. -/
def writeElements : List JsonValue → CString
  | [] => [']']
  | element :: others => ',' :: (writeValue element ++ writeElements others)

def writeMember : CString × JsonValue → CString
  | (name, value) => valueToQuotedString name ++ ':' :: writeValue value

/-- The members of an object behind the first. -/
def writeMembers : List (CString × JsonValue) → CString
  | [] => ['}']
  | member :: others => ',' :: (writeMember member ++ writeMembers others)

end

/-- `json_to_string`. -/
def jsonToString (jsonObj : JsonValue) : CString :=
  writeValue jsonObj

end OpenRTH
