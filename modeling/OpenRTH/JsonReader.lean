import OpenRTH.HexTransport
import OpenRTH.J1772Status
import OpenRTH.PrintedDoubles

/-!
# Reading JSON

`Json::Reader::parse` with the features that it has by default.  A symbol of a
text stands for a byte.  Every error makes the whole call fail, and behind the
value only comments are looked for.  The reader keeps comments in the values,
and `double`s have a negative zero; a document with one of these is left
unmodelled from there on.
-/

namespace OpenRTH

/-! ## Escape sequences -/

/-- `codePointToUTF8`. -/
def codePointToUTF8 (codePoint : ℕ) : CString :=
  if codePoint ≤ 0x7F then [Char.ofNat codePoint]
  else if codePoint ≤ 0x7FF then
    [Char.ofNat (0xC0 ||| (0x1F &&& (codePoint >>> 6))),
      Char.ofNat (0x80 ||| (0x3F &&& codePoint))]
  else if codePoint ≤ 0xFFFF then
    [Char.ofNat (0xE0 ||| (0xF &&& (codePoint >>> 12))),
      Char.ofNat (0x80 ||| (0x3F &&& (codePoint >>> 6))),
      Char.ofNat (0x80 ||| (0x3F &&& codePoint))]
  else if codePoint ≤ 0x10FFFF then
    [Char.ofNat (0xF0 ||| (0x7 &&& (codePoint >>> 18))),
      Char.ofNat (0x80 ||| (0x3F &&& (codePoint >>> 12))),
      Char.ofNat (0x80 ||| (0x3F &&& (codePoint >>> 6))),
      Char.ofNat (0x80 ||| (0x3F &&& codePoint))]
  else []

/-- `decodeUnicodeEscapeSequence`: four digits, and what is behind them. -/
def decodeUnicodeEscapeSequence : CString → Option (ℕ × CString)
  | first :: second :: third :: fourth :: rest => do
      let digits ← [first, second, third, fourth].mapM hexDigitValue
      some (digits.foldl (fun unicode digit => unicode * 16 + digit) 0, rest)
  | _ => none

/-- `decodeUnicodeCodePoint`. -/
def decodeUnicodeCodePoint (text : CString) : Option (ℕ × CString) := do
  let (unicode, rest) ← decodeUnicodeEscapeSequence text
  if 0xD800 ≤ unicode ∧ unicode ≤ 0xDBFF then
    match rest with
    | '\\' :: 'u' :: rest =>
        let (surrogatePair, rest) ← decodeUnicodeEscapeSequence rest
        some (0x10000 + ((unicode &&& 0x3FF) <<< 10) +
          (surrogatePair &&& 0x3FF), rest)
    | _ => none
  else some (unicode, rest)

/-- The symbols behind a backslash that stand for one symbol. -/
def unescape (escape : Char) : Option Char :=
  if escape = '"' then some '"'
  else if escape = '/' then some '/'
  else if escape = '\\' then some '\\'
  else if escape = 'b' then some '\x08'
  else if escape = 'f' then some '\x0C'
  else if escape = 'n' then some '\n'
  else if escape = 'r' then some '\r'
  else if escape = 't' then some '\t'
  else none

/-- The loop of `decodeString`, which takes at least one symbol each time. -/
def decodeSymbols : ℕ → CString → Option CString
  | 0, _ => some []
  | _ + 1, [] => some []
  | fuel + 1, symbol :: text =>
      if symbol = '"' then some []
      else if symbol = '\\' then
        match text with
        | [] => none
        | escape :: text =>
            if escape = 'u' then do
              let (unicode, text) ← decodeUnicodeCodePoint text
              (decodeSymbols fuel text).map (codePointToUTF8 unicode ++ ·)
            else do
              let decoded ← unescape escape
              (decodeSymbols fuel text).map (decoded :: ·)
      else (decodeSymbols fuel text).map (symbol :: ·)

/-- `decodeString` of a token, with its quotes. -/
def decodeString (token : CString) : Option CString :=
  decodeSymbols token.length token.tail.dropLast

/-! ## Numbers -/

/-- The loop of `decodeNumber`; without a result it falls back on a
`double`. -/
def decodeDigits (maxIntegerValue : ℕ) : ℕ → CString → Option ℕ
  | value, [] => some value
  | value, symbol :: rest =>
      if symbol.isDigit then
        let digit := symbol.toNat - '0'.toNat
        if maxIntegerValue / 10 ≤ value ∧
            (maxIntegerValue / 10 < value ∨ rest ≠ [] ∨
              maxIntegerValue % 10 < digit) then none
        else decodeDigits maxIntegerValue (value * 10 + digit) rest
      else none

/-- `decodeDouble`. -/
def decodeDouble (token : CString) : Option JsonValue :=
  (readDouble token).map .real

/-- `decodeNumber`. -/
def decodeNumber (token : CString) : Option JsonValue :=
  if token.head? = some '-' then
    match decodeDigits (2 ^ 63) 0 token.tail with
    | none => decodeDouble token
    | some value => some (.int (Int64.ofInt (-value)))
  else
    match decodeDigits (2 ^ 64 - 1) 0 token with
    | none => decodeDouble token
    | some value =>
        if value ≤ 2 ^ 31 - 1 then some (.int (Int64.ofNat value))
        else some (.uint (UInt64.ofNat value))

/-! ## Tokens -/

/-- `TokenType`. -/
inductive TokenType
  | endOfStream
  | objectBegin
  | objectEnd
  | arrayBegin
  | arrayEnd
  | string
  | number
  | true
  | false
  | null
  | arraySeparator
  | memberSeparator
  | comment
  | error
  deriving DecidableEq, Repr

/-- A token with the symbols from `start_` to `end_`. -/
structure Token where
  type : TokenType
  text : CString

def isJsonSpace (symbol : Char) : Bool :=
  symbol = ' ' ∨ symbol = '\t' ∨ symbol = '\r' ∨ symbol = '\n'

/-- `skipSpaces`. -/
def skipSpaces (text : CString) : CString :=
  text.dropWhile isJsonSpace

/-- `match`, which goes on only if the pattern is there. -/
def matchPattern (pattern text : CString) : Bool × CString :=
  if pattern.isPrefixOf text then (true, text.drop pattern.length)
  else (false, text)

/-- `readCStyleComment`. -/
def readCStyleComment : CString → Bool × CString
  | [] => (false, [])
  | '*' :: '/' :: rest => (true, rest)
  | _ :: rest => readCStyleComment rest

/-- `readCppStyleComment`. -/
def readCppStyleComment : CString → CString
  | [] => []
  | '\n' :: rest => rest
  | '\r' :: '\n' :: rest => rest
  | '\r' :: rest => rest
  | _ :: rest => readCppStyleComment rest

/-- `readComment`, behind the first slash. -/
def readComment : CString → Bool × CString
  | [] => (false, [])
  | '*' :: rest => readCStyleComment rest
  | '/' :: rest => (true, readCppStyleComment rest)
  | _ :: rest => (false, rest)

/-- What `readNumber` leaves. -/
def readNumber (text : CString) : CString :=
  let behindWhole := text.dropWhile Char.isDigit
  let behindFraction :=
    if behindWhole.head? = some '.' then
      behindWhole.tail.dropWhile Char.isDigit
    else behindWhole
  if behindFraction.head? = some 'e' ∨ behindFraction.head? = some 'E' then
    let exponent := behindFraction.tail
    (if exponent.head? = some '+' ∨ exponent.head? = some '-' then
      exponent.tail
    else exponent).dropWhile Char.isDigit
  else behindFraction

/-- `readString`, behind the first quote. -/
def readString : CString → Bool × CString
  | [] => (false, [])
  | '\\' :: [] => (false, [])
  | '\\' :: _ :: rest => readString rest
  | '"' :: rest => (true, rest)
  | _ :: rest => readString rest

/-- The type of a token that is complete if its reading was successful. -/
def tokenIf (type : TokenType) (read : Bool × CString) :
    TokenType × CString :=
  (if read.1 then type else .error, read.2)

/-- The switch of `readToken`. -/
def readSymbols : CString → TokenType × CString
  | [] => (.endOfStream, [])
  | symbol :: rest =>
      if symbol = '\x7b' then (.objectBegin, rest)
      else if symbol = '\x7d' then (.objectEnd, rest)
      else if symbol = '[' then (.arrayBegin, rest)
      else if symbol = ']' then (.arrayEnd, rest)
      else if symbol = '"' then tokenIf .string (readString rest)
      else if symbol = '/' then tokenIf .comment (readComment rest)
      else if symbol.isDigit ∨ symbol = '-' then (.number, readNumber rest)
      else if symbol = 't' then tokenIf .true (matchPattern "rue".toList rest)
      else if symbol = 'f' then
        tokenIf .false (matchPattern "alse".toList rest)
      else if symbol = 'n' then tokenIf .null (matchPattern "ull".toList rest)
      else if symbol = ',' then (.arraySeparator, rest)
      else if symbol = ':' then (.memberSeparator, rest)
      else if symbol = nul then (.endOfStream, rest)
      else (.error, rest)

/-- `readToken`. -/
def readToken (text : CString) : Token × CString :=
  let start := skipSpaces text
  let (type, rest) := readSymbols start
  (⟨type, start.take (start.length - rest.length)⟩, rest)

/-! ## Values -/

/-- The ways in which a document is not read: an error, for which `parse`
returns `false`, the exception of `readValue`, and a comment or a negative zero,
of which the values here say nothing. -/
inductive ReaderFailure
  | malformed
  | stackLimit
  | unmodelled
  deriving DecidableEq, Repr

/-- What becomes of a document at a token that is not expected, where the reader
skips comments. -/
def failureAt (token : Token) : ReaderFailure :=
  if token.type = .comment then .unmodelled else .malformed

/-- A value, and the text behind it. -/
abbrev ReadValue := Except ReaderFailure (JsonValue × CString)

/-- The member that `operator[]` finds or inserts, and the assignment to it; the
members are ordered by their names. -/
def setMember (key : CString) (value : JsonValue) :
    List (CString × JsonValue) → List (CString × JsonValue)
  | [] => [(key, value)]
  | (name, other) :: members =>
      if name < key then (name, other) :: setMember key value members
      else if name = key then (key, value) :: members
      else (key, value) :: (name, other) :: members

/-- The name of a member, the colon and the value. -/
def readMember (readValue : CString → ReadValue) (tokenName : Token)
    (text : CString) : Except ReaderFailure ((CString × JsonValue) × CString) :=
  if tokenName.type = .string then
    match decodeString tokenName.text with
    | none => .error .malformed
    | some name =>
        let (colon, text) := readToken text
        if colon.type = .memberSeparator then do
          let (value, text) ← readValue text
          .ok ((name, value), text)
        else .error .malformed
  else .error (failureAt tokenName)

/-- The token behind a member, and whether the object ends with it. -/
def readComma (text : CString) : Except ReaderFailure (Bool × CString) :=
  let (comma, text) := readToken text
  if comma.type = .objectEnd then .ok (true, text)
  else if comma.type = .arraySeparator then .ok (false, text)
  else .error (failureAt comma)

/-- The loop of `readObject`, which takes at least one symbol each time, with
the name that was read last. -/
def readMembers (readValue : CString → ReadValue) :
    ℕ → CString → List (CString × JsonValue) → CString → ReadValue
  | 0, _, _, _ => .error .malformed
  | fuel + 1, name, members, text =>
      let (tokenName, text) := readToken text
      if tokenName.type = .objectEnd ∧ name = [] then
        .ok (.object members, text)
      else do
        let ((name, value), text) ← readMember readValue tokenName text
        let (ends, text) ← readComma text
        if ends then .ok (.object (setMember name value members), text)
        else
          readMembers readValue fuel name (setMember name value members) text

/-- The loop of `readArray`, which takes at least one symbol each time. -/
def readElements (readValue : CString → ReadValue) :
    ℕ → List JsonValue → CString → ReadValue
  | 0, _, _ => .error .malformed
  | fuel + 1, elements, text => do
      let (value, text) ← readValue text
      let (token, text) := readToken text
      if token.type = .arrayEnd then .ok (.array (elements ++ [value]), text)
      else if token.type = .arraySeparator then
        readElements readValue fuel (elements ++ [value]) text
      else .error (failureAt token)

/-- `readArray`, behind the bracket. -/
def readArray (readValue : CString → ReadValue) (text : CString) : ReadValue :=
  let text := skipSpaces text
  if text.head? = some ']' then .ok (.array [], text.tail)
  else readElements readValue (text.length + 1) [] text

/-- A decoded token, with the text behind it. -/
def decodedToken (value : Option JsonValue) (text : CString) : ReadValue :=
  match value with
  | none => .error .malformed
  | some value => .ok (value, text)

/-- Whether the token of a number stands for `-0.0`. -/
def isNegativeZero (token : CString) : JsonValue → Bool
  | .real value => token.head? = some '-' ∧ value = 0
  | _ => false

/-- A decoded number, with the text behind it. -/
def decodedNumber (token text : CString) : ReadValue :=
  match decodeNumber token with
  | none => .error .malformed
  | some value =>
      if isNegativeZero token value then .error .unmodelled
      else .ok (value, text)

/-- The switch of `readValue`. -/
def valueOfToken (readValue : CString → ReadValue) (token : Token)
    (text : CString) : ReadValue :=
  match token.type with
  | .objectBegin => readMembers readValue (text.length + 1) [] [] text
  | .arrayBegin => readArray readValue text
  | .number => decodedNumber token.text text
  | .string => decodedToken ((decodeString token.text).map .string) text
  | .true => .ok (.boolean Bool.true, text)
  | .false => .ok (.boolean Bool.false, text)
  | .null => .ok (.null, text)
  | _ => .error (failureAt token)

/-- `readValue`, with the number of values that the stack still holds. -/
def readValue : ℕ → CString → ReadValue
  | 0, _ => .error .stackLimit
  | depth + 1, text =>
      let (token, text) := readToken text
      valueOfToken (readValue depth) token text

/-- `stackLimit_g`. -/
def stackLimit : ℕ := 1000

/-- `Reader::parse`. -/
def readerParse (document : CString) : Except ReaderFailure JsonValue := do
  let (value, text) ← readValue stackLimit document
  if (readToken text).1.type = .comment then .error .unmodelled else .ok value

end OpenRTH
