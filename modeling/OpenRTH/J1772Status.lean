import Mathlib.Tactic.IntervalCases
import OpenRTH.EarlyReturn
import OpenRTH.J1772

/-!
# J1772 status messages

`parse_J1772_status` over the values that `Json::Reader` makes of a message.
The reader itself is a parameter.  Six members are tested and stored in turn,
and the function returns at the first that is missing or of another type, so a
message that is rejected has been taken over as far as this member.
-/

namespace OpenRTH

/-! ## Values of jsoncpp -/

/-- `Json::Value` without the comments that it may keep.  A `double` is a
rational number: it is finite, and zero has no sign. -/
inductive JsonValue
  | null
  | int (value : Int64)
  | uint (value : UInt64)
  | real (value : ℚ)
  | string (text : CString)
  | boolean (value : Bool)
  | array (elements : List JsonValue)
  | object (members : List (CString × JsonValue))

/-- `Json::LogicError`. -/
inductive LogicError
  | requiresObject
  | outOfIntRange
  | notConvertibleToInt
  | notConvertibleToDouble
  | notConvertibleToString
  deriving DecidableEq, Repr

/-- `static_cast<double>` of an integer, which rounds to 53 bits, and to even
where it is halfway. -/
def roundToDouble (n : ℤ) : ℚ :=
  let unit : ℤ := 2 ^ (Nat.log2 n.natAbs - 52)
  let quotient := n / unit
  let remainder := n % unit
  if 2 * remainder < unit ∨ 2 * remainder = unit ∧ quotient % 2 = 0 then
    (quotient * unit : ℤ)
  else ((quotient + 1) * unit : ℤ)

namespace JsonValue

/-- `Value::find`, of which `isMember` says whether it finds something. -/
def find (key : CString) : JsonValue → Except LogicError (Option JsonValue)
  | .null => .ok none
  | .object members => .ok (members.lookup key)
  | _ => .error .requiresObject

def isInt : JsonValue → Bool
  | .int value => -2 ^ 31 ≤ value.toInt ∧ value.toInt ≤ 2 ^ 31 - 1
  | .uint value => value.toNat ≤ 2 ^ 31 - 1
  | .real value => -2 ^ 31 ≤ value ∧ value ≤ 2 ^ 31 - 1 ∧ value.den = 1
  | _ => false

def isInt64 : JsonValue → Bool
  | .int _ => true
  | .uint value => value.toNat ≤ 2 ^ 63 - 1
  | .real value => -2 ^ 63 ≤ value ∧ value < 2 ^ 63 ∧ value.den = 1
  | _ => false

def isUInt64 : JsonValue → Bool
  | .int value => 0 ≤ value.toInt
  | .uint _ => true
  | .real value => 0 ≤ value ∧ value < 2 ^ 64 ∧ value.den = 1
  | _ => false

def isIntegral (value : JsonValue) : Bool :=
  value.isInt64 || value.isUInt64

def isDouble (value : JsonValue) : Bool :=
  (match value with
    | .real _ => true
    | _ => false) || value.isIntegral

def isNumeric (value : JsonValue) : Bool :=
  value.isIntegral || value.isDouble

def isString : JsonValue → Bool
  | .string _ => true
  | _ => false

def asInt : JsonValue → Except LogicError ℤ
  | .int value =>
      if (int value).isInt then .ok value.toInt else .error .outOfIntRange
  | .uint value =>
      if (uint value).isInt then .ok value.toNat else .error .outOfIntRange
  | .real value =>
      if -2 ^ 31 ≤ value ∧ value ≤ 2 ^ 31 - 1 then .ok (truncate value)
      else .error .outOfIntRange
  | .null => .ok 0
  | .boolean value => .ok value.toNat
  | _ => .error .notConvertibleToInt

def asDouble : JsonValue → Except LogicError ℚ
  | .int value => .ok (roundToDouble value.toInt)
  | .uint value => .ok (roundToDouble value.toNat)
  | .real value => .ok value
  | .null => .ok 0
  | .boolean value => .ok value.toNat
  | _ => .error .notConvertibleToDouble

/-- `asString` of a string; it is not called for another value. -/
def asString : JsonValue → Except LogicError CString
  | .string text => .ok text
  | _ => .error .notConvertibleToString

/-- The member of a value, if it is there and has the type that is asked
for. -/
def member {α : Type} (root : JsonValue) (isType : JsonValue → Bool)
    (asType : JsonValue → Except LogicError α) (key : CString) : Option α :=
  match root.find key with
  | .ok (some value) => if isType value then (asType value).toOption else none
  | _ => none

def doubleMember (root : JsonValue) (key : CString) : Option ℚ :=
  root.member isNumeric asDouble key

def intMember (root : JsonValue) (key : CString) : Option ℤ :=
  root.member isInt asInt key

def stringMember (root : JsonValue) (key : CString) : Option CString :=
  root.member isString asString key

theorem asDouble_of_isNumeric {value : JsonValue}
    (numeric : value.isNumeric = true) :
    ∃ number, value.asDouble = .ok number := by
  cases value with
  | int | uint | real | null | boolean => exact ⟨_, rfl⟩
  | string | array | object =>
      simp [isNumeric, isDouble, isIntegral, isInt64, isUInt64] at numeric

theorem asInt_of_isInt {value : JsonValue} (integer : value.isInt = true) :
    ∃ number, value.asInt = .ok number := by
  cases value with
  | int | uint => exact ⟨_, if_pos integer⟩
  | real value =>
      simp only [isInt, decide_eq_true_eq] at integer
      exact ⟨_, if_pos ⟨integer.1, integer.2.1⟩⟩
  | null | boolean => exact ⟨_, rfl⟩
  | string | array | object => cases integer

theorem asString_of_isString {value : JsonValue}
    (string : value.isString = true) : ∃ text, value.asString = .ok text := by
  cases value <;> first | exact ⟨_, rfl⟩ | cases string

end JsonValue

/-! ## `parse_J1772_status` -/

/-- The ways in which the function does not return 0: it prints an error and
returns -1, or an exception of jsoncpp leaves it. -/
inductive StatusError
  | parseFailed
  | missingOrInvalid (key : CString)
  | thrown (error : LogicError)
  deriving DecidableEq, Repr

/-- What is printed on an error. -/
def StatusError.printed : StatusError → CString
  | .parseFailed => "Error: Failed to parse JSON\n".toList
  | .missingOrInvalid key =>
      "Error: Missing or invalid ".toList ++ key ++ "\n".toList
  | .thrown _ => []

/-- The value that the function returns, if it does. -/
def statusReturned : Option StatusError → Option ℤ
  | none => some 0
  | some (.thrown _) => none
  | some _ => some (-1)

/-- The macros `PARSE_DOUBLE_FIELD`, `PARSE_INT_FIELD` and
`PARSE_STRING_FIELD`, which differ in the type of the member. -/
def parseField {α : Type} (isType : JsonValue → Bool)
    (asType : JsonValue → Except LogicError α) (key : CString)
    (store : J1772 → α → J1772) (root : JsonValue) (j1772 : J1772) :
    J1772 × Option StatusError :=
  match root.find key with
  | .error error => (j1772, some (.thrown error))
  | .ok none => (j1772, some (.missingOrInvalid key))
  | .ok (some value) =>
      if isType value then
        match asType value with
        | .ok converted => (store j1772 converted, none)
        | .error error => (j1772, some (.thrown error))
      else (j1772, some (.missingOrInvalid key))

def parseDoubleField :
    CString → (J1772 → ℚ → J1772) → JsonValue → J1772 →
      J1772 × Option StatusError :=
  parseField JsonValue.isNumeric JsonValue.asDouble

def parseIntField :
    CString → (J1772 → ℤ → J1772) → JsonValue → J1772 →
      J1772 × Option StatusError :=
  parseField JsonValue.isInt JsonValue.asInt

def parseStringField :
    CString → (J1772 → CString → J1772) → JsonValue → J1772 →
      J1772 × Option StatusError :=
  parseField JsonValue.isString JsonValue.asString

/-- The fields of the message, in the order in which they are parsed. -/
def statusFields (root : JsonValue) :
    List (J1772 → J1772 × Option StatusError) :=
  [parseDoubleField "Vpilot".toList
      (fun j1772 value => { j1772 with vpilot := value }) root,
    parseDoubleField "Vpilot_min".toList
      (fun j1772 value => { j1772 with vpilotMin := value }) root,
    parseDoubleField "Vprox".toList
      (fun j1772 value => { j1772 with vprox := value }) root,
    parseDoubleField "pilot_duty_cycle".toList
      (fun j1772 value => { j1772 with pilotDutyCycle := value }) root,
    parseIntField "pilot_freq".toList
      (fun j1772 value => { j1772 with pilotFreq := value }) root,
    parseStringField "pilot_state_name".toList
      (fun j1772 value => { j1772 with pilotStateName := value }) root]

/-- `UNKNOWN` of `pilot_states`. -/
def unknownPilotState : ℤ := 10

/-- The chain of tests that sets `pilot_state`. -/
def pilotStateOfName (name : CString) : ℤ :=
  if name = "A1".toList then PilotState.A1.value
  else if name = "A2".toList then PilotState.A2.value
  else if name = "B1".toList then PilotState.B1.value
  else if name = "B2".toList then PilotState.B2.value
  else if name = "C1".toList then PilotState.C1.value
  else if name = "C2".toList then PilotState.C2.value
  else if name = "D1".toList then PilotState.D1.value
  else if name = "D2".toList then PilotState.D2.value
  else if name = "E".toList then PilotState.E.value
  else if name = "F".toList then PilotState.F.value
  else unknownPilotState

/-- `parse_J1772_status`, where `parse` is `Reader::parse`. -/
def parseJ1772Status (parse : CString → Option JsonValue)
    (message : CString) (j1772 : J1772) : J1772 × Option StatusError :=
  match parse message with
  | none => (j1772, some .parseFailed)
  | some root =>
      match EarlyReturn.run (statusFields root) j1772 with
      | (after, some error) => (after, some error)
      | (after, none) =>
          ({ after with
              pilotState := pilotStateOfName after.pilotStateName }, none)

/-! ## What is taken over -/

/-- The first `n` fields have the values of the members, the others are
unchanged. -/
structure TakenOver (root : JsonValue) (n : ℕ) (before after : J1772) :
    Prop where
  vpilot : if 0 < n then
      root.doubleMember "Vpilot".toList = some after.vpilot
    else after.vpilot = before.vpilot
  vpilotMin : if 1 < n then
      root.doubleMember "Vpilot_min".toList = some after.vpilotMin
    else after.vpilotMin = before.vpilotMin
  vprox : if 2 < n then
      root.doubleMember "Vprox".toList = some after.vprox
    else after.vprox = before.vprox
  pilotDutyCycle : if 3 < n then
      root.doubleMember "pilot_duty_cycle".toList = some after.pilotDutyCycle
    else after.pilotDutyCycle = before.pilotDutyCycle
  pilotFreq : if 4 < n then
      root.intMember "pilot_freq".toList = some after.pilotFreq
    else after.pilotFreq = before.pilotFreq
  pilotStateName : if 5 < n then
      root.stringMember "pilot_state_name".toList = some after.pilotStateName
    else after.pilotStateName = before.pilotStateName
  proxState : after.proxState = before.proxState
  pwmCommState : after.pwmCommState = before.pwmCommState

/-- For each field, whether the message has a member of its type. -/
def JsonValue.statusMembers (root : JsonValue) : List Bool :=
  [(root.doubleMember "Vpilot".toList).isSome,
    (root.doubleMember "Vpilot_min".toList).isSome,
    (root.doubleMember "Vprox".toList).isSome,
    (root.doubleMember "pilot_duty_cycle".toList).isSome,
    (root.intMember "pilot_freq".toList).isSome,
    (root.stringMember "pilot_state_name".toList).isSome]

section Fields

variable {α : Type} {isType : JsonValue → Bool}
  {asType : JsonValue → Except LogicError α} {key : CString}
  {store : J1772 → α → J1772} {root : JsonValue} {j1772 after : J1772}

theorem parseField_passes
    (passes : parseField isType asType key store root j1772 = (after, none)) :
    ∃ value, root.member isType asType key = some value ∧
      after = store j1772 value := by
  unfold parseField at passes
  split at passes
  · cases passes
  · cases passes
  · next value found =>
      split_ifs at passes with hasType
      · split at passes
        · next converted same =>
            cases passes
            exact ⟨converted, by
              simp [JsonValue.member, found, hasType, same, Except.toOption],
              rfl⟩
        · cases passes
      · cases passes

theorem parseField_fails {error : StatusError}
    (converts : ∀ value, isType value = true →
      ∃ converted, asType value = .ok converted)
    (fails : parseField isType asType key store root j1772 =
      (after, some error)) :
    (root.member isType asType key).isSome = false ∧ after = j1772 := by
  unfold parseField at fails
  split at fails
  · next error found =>
      cases fails
      exact ⟨by simp [JsonValue.member, found], rfl⟩
  · next found =>
      cases fails
      exact ⟨by simp [JsonValue.member, found], rfl⟩
  · next value found =>
      split_ifs at fails with hasType
      · obtain ⟨converted, same⟩ := converts value hasType
        rw [same] at fails
        cases fails
      · cases fails
        exact ⟨by simp [JsonValue.member, found, hasType], rfl⟩

end Fields

/-- What holds before the field with this number is parsed. -/
def ParsedUpTo (root : JsonValue) (before : J1772) (n : ℕ)
    (after : J1772) : Prop :=
  TakenOver root n before after ∧ after.pilotState = before.pilotState

theorem parsedUpTo_zero (root : JsonValue) (before : J1772) :
    ParsedUpTo root before 0 before := by
  refine ⟨?_, rfl⟩
  constructor <;> simp

/-- A field that passes is taken over. -/
theorem ParsedUpTo.next {root : JsonValue} {before : J1772} {n : ℕ}
    {field : J1772 → J1772 × Option StatusError} {j1772 after : J1772}
    (found : (statusFields root)[n]? = some field)
    (reached : ParsedUpTo root before n j1772)
    (passes : field j1772 = (after, none)) :
    ParsedUpTo root before (n + 1) after := by
  obtain ⟨⟨vpilot, vpilotMin, vprox, duty, freq, name, prox, comm⟩, same⟩ :=
    reached
  have inList : n < 6 := (List.getElem?_eq_some_iff.mp found).1
  interval_cases n <;> obtain rfl := Option.some.inj found
  case «0» =>
    obtain ⟨value, member, rfl⟩ := parseField_passes passes
    exact ⟨⟨member, vpilotMin, vprox, duty, freq, name, prox, comm⟩, same⟩
  case «1» =>
    obtain ⟨value, member, rfl⟩ := parseField_passes passes
    exact ⟨⟨vpilot, member, vprox, duty, freq, name, prox, comm⟩, same⟩
  case «2» =>
    obtain ⟨value, member, rfl⟩ := parseField_passes passes
    exact ⟨⟨vpilot, vpilotMin, member, duty, freq, name, prox, comm⟩, same⟩
  case «3» =>
    obtain ⟨value, member, rfl⟩ := parseField_passes passes
    exact ⟨⟨vpilot, vpilotMin, vprox, member, freq, name, prox, comm⟩, same⟩
  case «4» =>
    obtain ⟨value, member, rfl⟩ := parseField_passes passes
    exact ⟨⟨vpilot, vpilotMin, vprox, duty, member, name, prox, comm⟩, same⟩
  case «5» =>
    obtain ⟨value, member, rfl⟩ := parseField_passes passes
    exact ⟨⟨vpilot, vpilotMin, vprox, duty, freq, member, prox, comm⟩, same⟩

/-- A field that fails leaves the struct alone, and its member is missing or of
another type. -/
theorem statusField_fails {root : JsonValue} {n : ℕ}
    {field : J1772 → J1772 × Option StatusError} {j1772 after : J1772}
    {error : StatusError} (found : (statusFields root)[n]? = some field)
    (fails : field j1772 = (after, some error)) :
    root.statusMembers[n]? = some false ∧ after = j1772 := by
  have inList : n < 6 := (List.getElem?_eq_some_iff.mp found).1
  have double {key : CString} {store : J1772 → ℚ → J1772}
      (fails : parseDoubleField key store root j1772 = (after, some error)) :
      some (root.doubleMember key).isSome = some false ∧ after = j1772 := by
    obtain ⟨missing, kept⟩ :=
      parseField_fails (fun _ => JsonValue.asDouble_of_isNumeric) fails
    exact ⟨congrArg some missing, kept⟩
  interval_cases n <;> obtain rfl := Option.some.inj found
  case «0» | «1» | «2» | «3» => exact double fails
  case «4» =>
    obtain ⟨missing, kept⟩ :=
      parseField_fails (fun _ => JsonValue.asInt_of_isInt) fails
    exact ⟨congrArg some missing, kept⟩
  case «5» =>
    obtain ⟨missing, kept⟩ :=
      parseField_fails (fun _ => JsonValue.asString_of_isString) fails
    exact ⟨congrArg some missing, kept⟩

/-- The fields are parsed to the end, or up to one whose member is missing or of
another type. -/
theorem statusFields_cases (root : JsonValue) (before : J1772) :
    (∃ after, EarlyReturn.run (statusFields root) before = (after, none) ∧
      ParsedUpTo root before 6 after) ∨
    ∃ n after error,
      EarlyReturn.run (statusFields root) before = (after, some error) ∧
        root.statusMembers[n]? = some false ∧
        ParsedUpTo root before n after := by
  have outcome := EarlyReturn.run_cases (ParsedUpTo root before)
    (fun found reached passes => reached.next found passes)
    (parsedUpTo_zero root before)
  generalize EarlyReturn.run (statusFields root) before = result at outcome ⊢
  obtain ⟨after, error⟩ := result
  rcases outcome with
    ⟨rfl, parsed⟩ | ⟨n, field, state, error, found, reached, fails, rfl⟩
  · exact .inl ⟨after, rfl, parsed⟩
  · obtain ⟨refused, rfl⟩ := statusField_fails found fails
    exact .inr ⟨n, after, error, rfl, refused, reached⟩

theorem pilotStateOfName_of_getElem? {name : CString} {n : ℕ}
    (named : pilotStateNames[n]? = some name) : pilotStateOfName name = n := by
  have inList : n < 10 := (List.getElem?_eq_some_iff.mp named).1
  interval_cases n <;> (obtain rfl := Option.some.inj named; rfl)

theorem pilotStateOfName_of_notMem {name : CString}
    (unnamed : name ∉ pilotStateNames) :
    pilotStateOfName name = unknownPilotState := by
  simp only [pilotStateNames, List.mem_cons, List.not_mem_nil, or_false,
    not_or] at unnamed
  simp [pilotStateOfName, unnamed]

/-- What the struct is after a call that returns: after -1, the fields before
the first whose member is missing or of another type have been taken over;
after 0 all have, and `pilot_state` is the number of the name. -/
structure StatusTakenOver (message : Option JsonValue)
    (before after : J1772) (error : Option StatusError) : Prop where
  rejected : statusReturned error = some (-1) →
    (message = none ∧ after = before) ∨
      ∃ root n, message = some root ∧ root.statusMembers[n]? = some false ∧
        TakenOver root n before after ∧ after.pilotState = before.pilotState
  accepted : statusReturned error = some 0 →
    ∃ root, message = some root ∧ TakenOver root 6 before after ∧
      (∀ n : ℕ, pilotStateNames[n]? = some after.pilotStateName →
        after.pilotState = n) ∧
      (after.pilotStateName ∉ pilotStateNames →
        after.pilotState = unknownPilotState)

/-- Every message is taken over up to the first field that is missing or
invalid. -/
theorem parseJ1772Status_takenOver (parse : CString → Option JsonValue)
    (message : CString) (before : J1772) :
    StatusTakenOver (parse message) before
      (parseJ1772Status parse message before).1
      (parseJ1772Status parse message before).2 := by
  unfold parseJ1772Status
  cases parse message with
  | none => exact ⟨fun _ => .inl ⟨rfl, rfl⟩, fun zero => by cases zero⟩
  | some root =>
      rcases statusFields_cases root before with
        ⟨after, parsed, taken, -⟩ | ⟨n, after, error, parsed, refused, reached⟩
      · simp only [parsed]
        refine ⟨fun minus => (by cases minus), fun _ => ⟨root, rfl, ?_,
          fun n => pilotStateOfName_of_getElem?,
          pilotStateOfName_of_notMem⟩⟩
        exact ⟨taken.vpilot, taken.vpilotMin, taken.vprox,
          taken.pilotDutyCycle, taken.pilotFreq, taken.pilotStateName,
          taken.proxState, taken.pwmCommState⟩
      · simp only [parsed]
        refine ⟨fun _ => .inr ⟨root, n, rfl, refused, reached⟩, fun zero => ?_⟩
        cases error <;> cases zero

/-- A message with a proper first field and no other is rejected, and has set
the voltage. -/
theorem parseJ1772Status_rejected_takenOver :
    let parse : CString → Option JsonValue := fun message =>
      if message = "\x7b\"Vpilot\": 9.5\x7d".toList then
        some (.object [("Vpilot".toList, .real 9.5)])
      else none
    let result := parseJ1772Status parse "\x7b\"Vpilot\": 9.5\x7d".toList
      (PilotGlobals.initial false).j1772
    statusReturned result.2 = some (-1) ∧
      result.1 ≠ (PilotGlobals.initial false).j1772 := by
  decide +kernel

/-- The function returns 0 exactly for the messages that have all six members
with their types. -/
theorem parseJ1772Status_returns_zero_iff (parse : CString → Option JsonValue)
    (message : CString) (before : J1772) :
    statusReturned (parseJ1772Status parse message before).2 = some 0 ↔
      ∃ root, parse message = some root ∧
        ∀ present ∈ root.statusMembers, present = true := by
  unfold parseJ1772Status
  cases parse message with
  | none => simp [statusReturned]
  | some root =>
      rcases statusFields_cases root before with
        ⟨after, parsed, taken, -⟩ | ⟨n, after, error, parsed, refused, -⟩
      · have present : ∀ present ∈ root.statusMembers, present = true := by
          obtain ⟨vpilot, vpilotMin, vprox, duty, freq, name, -, -⟩ := taken
          rw [if_pos (by decide)] at vpilot vpilotMin vprox duty freq name
          rw [JsonValue.statusMembers, vpilot, vpilotMin, vprox, duty, freq,
            name]
          simp
        simpa [parsed, statusReturned] using present
      · have missing : false ∈ root.statusMembers :=
          List.mem_of_getElem? refused
        simp only [parsed]
        constructor
        · intro zero
          cases error <;> cases zero
        · rintro ⟨root, same, present⟩
          obtain rfl := Option.some.inj same
          cases present false missing

end OpenRTH
