import Mathlib.Algebra.Order.Floor.Ring
import Mathlib.Data.Rat.Floor
import OpenRTH.BigEndianBytes
import OpenRTH.Configuration

/-!
# Measurements at the J1772 connector

The messages in which the EVAcharge board reports voltages and the PWM signal,
and the states that `sample_J1772` makes of them.  Voltages are exact rational
numbers here.  The last section says for which messages the reported values are
decoded.
-/

namespace OpenRTH

/-! ## The data of `J1772.cpp` -/

/-- The values of `pilot_state_names`. -/
inductive PilotState
  | A1 | A2 | B1 | B2 | C1 | C2 | D1 | D2 | E | F
  deriving DecidableEq, Repr

/-- The numbers of `pilot_states`. -/
def PilotState.value : PilotState → ℤ
  | .A1 => 0
  | .A2 => 1
  | .B1 => 2
  | .B2 => 3
  | .C1 => 4
  | .C2 => 5
  | .D1 => 6
  | .D2 => 7
  | .E => 8
  | .F => 9

def pilotStateNames : List CString :=
  [['A', '1'], ['A', '2'], ['B', '1'], ['B', '2'], ['C', '1'], ['C', '2'],
    ['D', '1'], ['D', '2'], ['E'], ['F']]

/-- `prox_states`. -/
inductive ProxState
  | unplugged
  | pluggedS3Closed
  | pluggedS3Opened
  | proxUnknown
  | proxNc
  deriving DecidableEq, Repr

def ProxState.value : ProxState → ℤ
  | .unplugged => 0
  | .pluggedS3Closed => 1
  | .pluggedS3Opened => 2
  | .proxUnknown => 3
  | .proxNc => 4

/-- `J1772_t`. -/
structure J1772 where
  vpilot : ℚ
  vpilotMin : ℚ
  vprox : ℚ
  pilotDutyCycle : ℚ
  pilotFreq : ℤ
  pilotState : ℤ
  pilotStateName : CString
  proxState : ℤ
  pwmCommState : ℤ
  deriving DecidableEq

/-- The globals of `J1772.cpp` that a sample reads and writes. -/
structure PilotGlobals where
  j1772 : J1772
  lastPilotState : ℤ
  deriving DecidableEq

/-- The globals before the first sample; `evcc` says whether `EVCC` is
defined. -/
def PilotGlobals.initial (evcc : Bool) : PilotGlobals where
  j1772 :=
    { vpilot := 0
      vpilotMin := 0
      vprox := 0
      pilotDutyCycle := 0
      pilotFreq := 0
      pilotState := PilotState.A1.value
      pilotStateName := ['A', '1']
      proxState := (if evcc then ProxState.proxUnknown else .proxNc).value
      pwmCommState := 0 }
  lastPilotState := 0

/-- The conversion from `double` to `int`. -/
def truncate (number : ℚ) : ℤ :=
  if 0 ≤ number then ⌊number⌋ else ⌈number⌉

/-! ## Reading the board -/

/-- `pilot_voltage_resolution`, in volts. -/
def pilotVoltageResolution : ℚ := 0.029

/-- `hex_to_signed_decimal`. -/
def hexToSignedDecimal (hexValue : UInt16) : ℤ :=
  if hexValue &&& 0x800 ≠ 0 then hexValue.toNat - 0x10000
  else hexValue.toNat

/-- The byte at an index that the length of the message admits. -/
def messageByte (message : List UInt8) (index : ℕ) : UInt8 :=
  message.getD index 0

/-- `(msg[offset + 1] << 8) | msg[offset]`. -/
def messageWord (message : List UInt8) (offset : ℕ) : UInt16 :=
  (messageByte message (offset + 1)).toUInt16 <<< 8 |||
    (messageByte message offset).toUInt16

/-- The test for a response of the board: its least size, its length byte and
its command byte. -/
def isResponse (size : ℕ) (length command : UInt8) (message : List UInt8) :
    Bool :=
  size ≤ message.length ∧ messageByte message 0 = 0x02 ∧
    messageByte message 1 = length ∧ messageByte message 3 = command

def isPilotResponse : List UInt8 → Bool := isResponse 9 0x07 0x94
def isProxResponse : List UInt8 → Bool := isResponse 7 0x05 0xD2
def isPwmResponse : List UInt8 → Bool := isResponse 9 0x07 0x90

/-- The voltage that a message carries at an offset. -/
def messageVoltage (message : List UInt8) (offset : ℕ) : ℚ :=
  hexToSignedDecimal (messageWord message offset) * pilotVoltageResolution

/-- The high and the low voltage that a call of `read_pilot_voltage` finds among
the messages. -/
def pilotReading (messages : List (List UInt8)) : Option (ℚ × ℚ) :=
  (messages.find? isPilotResponse).map fun message =>
    (messageVoltage message 4, messageVoltage message 6)

def proxReading (messages : List (List UInt8)) : Option ℚ :=
  (messages.find? isProxResponse).map (messageVoltage · 4)

/-- The frequency and the duty cycle. -/
def pwmReading (messages : List (List UInt8)) : Option (ℤ × ℚ) :=
  (messages.find? isPwmResponse).map fun message =>
    (hexToSignedDecimal (messageWord message 4),
      hexToSignedDecimal (messageWord message 6) / 10)

/-- What `read_pilot_voltage` stores of a reading. -/
def J1772.setPilotVoltage (reading : Option (ℚ × ℚ)) (j1772 : J1772) : J1772 :=
  match reading with
  | none => j1772
  | some (high, low) => { j1772 with vpilot := high, vpilotMin := low }

def J1772.setProxVoltage (reading : Option ℚ) (j1772 : J1772) : J1772 :=
  match reading with
  | none => j1772
  | some voltage => { j1772 with vprox := voltage }

def J1772.setPwmValues (reading : Option (ℤ × ℚ)) (j1772 : J1772) : J1772 :=
  match reading with
  | none => j1772
  | some (frequency, dutyCycle) =>
      { j1772 with pilotFreq := frequency, pilotDutyCycle := dutyCycle }

/-- `read_pilot_voltage`, with the messages that `read_serial_data` returns. -/
def readPilotVoltage (messages : List (List UInt8)) : J1772 → J1772 :=
  J1772.setPilotVoltage (pilotReading messages)

/-- `read_prox_voltage`. -/
def readProxVoltage (messages : List (List UInt8)) : J1772 → J1772 :=
  J1772.setProxVoltage (proxReading messages)

/-- `get_pwm_values`. -/
def getPwmValues (messages : List (List UInt8)) : J1772 → J1772 :=
  J1772.setPwmValues (pwmReading messages)

/-! ## From voltages to states -/

/-- `round`, which takes halves away from zero. -/
def roundHalfAway (number : ℚ) : ℤ :=
  if 0 ≤ number then ⌊number + 1 / 2⌋ else ⌈number - 1 / 2⌉

/-- The branch of `get_actual_voltage` for `CH_PILOT`. -/
def getPilotVoltage (reading : Option (ℚ × ℚ)) (j1772 : J1772) : J1772 :=
  let j1772 := j1772.setPilotVoltage reading
  { j1772 with
    vpilot := ⌊j1772.vpilot * 1000⌋ / 1000
    vpilotMin := ⌊j1772.vpilotMin * 1000⌋ / 1000 }

/-- The branch of `get_actual_voltage` for `CH_PROX`. -/
def getProxVoltage (reading : Option ℚ) (j1772 : J1772) : J1772 :=
  let j1772 := j1772.setProxVoltage reading
  { j1772 with vprox := roundHalfAway (j1772.vprox * 1000) / 1000 }

/-- `low_ok` in `get_pilot_state`. -/
def lowOk (low : ℚ) : Bool := -13 < low ∧ low ≤ -10

/-- The state that `get_pilot_state` computes from the voltages, as an
`int`. -/
def pilotStateNumber (high low : ℚ) (lastPilotState : ℤ) : ℤ :=
  if 11.40 ≤ high ∧ high ≤ 12.60 then
    (if lowOk low then PilotState.A2 else .A1).value
  else if 8.36 ≤ high ∧ high ≤ 9.56 then
    (if lowOk low then PilotState.B2 else .B1).value
  else if 5.48 ≤ high ∧ high ≤ 6.49 then
    (if lowOk low then PilotState.C2 else .C1).value
  else if 2.62 ≤ high ∧ high ≤ 3.25 then
    (if lowOk low then PilotState.D2 else .D1).value
  else if 0 ≤ high ∧ high ≤ 0.25 then
    (if lowOk low then PilotState.A1 else .F).value
  else lastPilotState

/-- `pilot_state_names[index]`; `none` when the index is outside the array. -/
def pilotStateName (index : ℤ) : Option CString :=
  if index < 0 then none else pilotStateNames[index.toNat]?

/-- The conversion to `uint8_t`. -/
def toUint8 (number : ℤ) : ℤ := number % 256

/-- The conversion to `int8_t`. -/
def toInt8 (number : ℤ) : ℤ := (number + 128) % 256 - 128

/-- `get_pilot_state`: the result and the globals, or `none` after an access
outside `pilot_state_names`. -/
def getPilotState (reading : Option (ℚ × ℚ)) (globals : PilotGlobals) :
    Option (ℤ × PilotGlobals) :=
  let j1772 := getPilotVoltage reading globals.j1772
  let state := pilotStateNumber j1772.vpilot j1772.vpilotMin
    globals.lastPilotState
  (pilotStateName state).map fun name =>
    (toUint8 state, { globals with
      j1772 := { j1772 with pilotStateName := name } })

/-- `get_prox_state`. -/
def getProxState (reading : Option ℚ) (j1772 : J1772) : ℤ × J1772 :=
  let j1772 := getProxVoltage reading j1772
  let prox := j1772.vprox
  let state : ProxState :=
    if 0.80 ≤ prox ∧ prox ≤ 1.72 then .pluggedS3Closed
    else if 2.51 ≤ prox ∧ prox ≤ 3.01 then .pluggedS3Opened
    else if 4.20 ≤ prox ∧ prox ≤ 4.65 then .unplugged
    else if 0.00 ≤ prox ∧ prox ≤ 0.50 then .proxUnknown
    else .proxUnknown
  (toUint8 state.value, j1772)

/-- What the four exchanges with the board in one sample yield; `none` when no
message matches. -/
structure SampleReadings where
  pwm : Option (ℤ × ℚ)
  firstPilot : Option (ℚ × ℚ)
  secondPilot : Option (ℚ × ℚ)
  prox : Option ℚ

/-- `pwm_comm_states`. -/
inductive PwmCommState
  | digital
  | analog
  | invalid
  deriving DecidableEq

/-- `get_pwm_comm_state`: the result is 1 for a valid duty cycle. -/
def getPwmCommState (reading : Option (ℤ × ℚ)) (j1772 : J1772) : ℤ × J1772 :=
  let j1772 := j1772.setPwmValues reading
  let dutyCycle := j1772.pilotDutyCycle
  let commState : PwmCommState :=
    if 3 ≤ dutyCycle ∧ dutyCycle < 8 then .digital
    else if 8 ≤ dutyCycle ∧ dutyCycle ≤ 98 then .analog
    else .invalid
  (if commState = .digital ∨ commState = .analog then 1 else 0, j1772)

/-- The second measurement of `sample_J1772`, when the state is different from
last time. -/
def measureAgain (reading : Option (ℚ × ℚ)) (globals : PilotGlobals) :
    Option PilotGlobals :=
  if globals.j1772.pilotState = globals.lastPilotState then some globals
  else
    (getPilotState reading globals).map fun (pilotState, globals) =>
      { globals with
        j1772 := { globals.j1772 with pilotState := pilotState }
        lastPilotState := toInt8 pilotState }

/-- The end of `sample_J1772`, which is compiled for `EVCC`. -/
def measureProx (evcc : Bool) (reading : Option ℚ) (globals : PilotGlobals) :
    PilotGlobals :=
  if evcc then
    let (proxState, j1772) := getProxState reading globals.j1772
    { globals with j1772 := { j1772 with proxState := proxState } }
  else globals

/-- `sample_J1772`; its result is `none` after an access outside
`pilot_state_names`. -/
def sampleJ1772 (evcc : Bool) (readings : SampleReadings)
    (globals : PilotGlobals) : Option PilotGlobals :=
  let (_, j1772) := getPwmCommState readings.pwm globals.j1772
  ((getPilotState readings.firstPilot { globals with j1772 := j1772 }).bind
    fun (pilotState, globals) =>
      measureAgain readings.secondPilot
        { globals with
          j1772 := { globals.j1772 with pilotState := pilotState } }).map
    (measureProx evcc readings.prox)

/-! ## The numbers in a message -/

/-- The number that 16 bits stand for in two's complement. -/
def twosComplement (bits : ℕ) : ℤ :=
  if bits < 2 ^ 15 then bits else bits - 2 ^ 16

/-- The signed number in the two bytes from an offset on, low byte first. -/
def signedNumber (message : List UInt8) (offset : ℕ) : ℤ :=
  twosComplement ((messageByte message offset).toNat +
    256 * (messageByte message (offset + 1)).toNat)

/-- The bit that is tested for the sign, and the sign bit, are equal. -/
def SignBitsAgree (word : UInt16) : Prop :=
  word.toNat.testBit 11 = word.toNat.testBit 15

instance (word : UInt16) : Decidable (SignBitsAgree word) :=
  inferInstanceAs (Decidable (_ = _))

theorem messageWord_toNat (message : List UInt8) (offset : ℕ) :
    (messageWord message offset).toNat =
      (messageByte message offset).toNat +
        256 * (messageByte message (offset + 1)).toNat := by
  have small := (messageByte message (offset + 1)).toNat_lt
  rw [messageWord, BigEndianBytes.toNat_shiftLeft_or_16,
    UInt8.toNat_toUInt16]
  omega

theorem and_0x800_ne_zero_iff (word : UInt16) :
    word &&& 0x800 ≠ 0 ↔ word.toNat.testBit 11 = true := by
  have masked := Nat.and_two_pow word.toNat 11
  rw [Ne, ← UInt16.toNat_inj, UInt16.toNat_and]
  change ¬ word.toNat &&& 2 ^ 11 = 0 ↔ _
  rw [masked]
  cases word.toNat.testBit 11 <;> simp

theorem testBit_15_iff (word : UInt16) :
    word.toNat.testBit 15 = true ↔ ¬ word.toNat < 2 ^ 15 := by
  have small := word.toNat_lt
  rw [Nat.testBit_eq_decide_div_mod_eq, decide_eq_true_eq]
  omega

theorem hexToSignedDecimal_eq_iff (word : UInt16) :
    hexToSignedDecimal word = twosComplement word.toNat ↔
      SignBitsAgree word := by
  have small := word.toNat_lt
  have tested := and_0x800_ne_zero_iff word
  have sign := testBit_15_iff word
  unfold hexToSignedDecimal twosComplement SignBitsAgree
  by_cases bit11 : word &&& 0x800 ≠ 0
  · rw [if_pos bit11, tested.mp bit11, eq_comm (a := true), sign]
    split_ifs with positive
    · exact iff_of_false (by omega) (not_not.mpr positive)
    · exact iff_of_true rfl positive
  · have unset : word.toNat.testBit 11 = false := by
      simpa using mt tested.mpr bit11
    rw [if_neg bit11, unset, eq_comm (a := false), ← Bool.not_eq_true, sign]
    split_ifs with positive
    · exact iff_of_true rfl (not_not.mpr positive)
    · exact iff_of_false (by omega) fun small => positive (not_not.mp small)

theorem hexToSignedDecimal_messageWord_iff (message : List UInt8)
    (offset : ℕ) :
    hexToSignedDecimal (messageWord message offset) =
        signedNumber message offset ↔
      SignBitsAgree (messageWord message offset) := by
  rw [← hexToSignedDecimal_eq_iff, messageWord_toNat]
  rfl

theorem messageVoltage_eq_iff (message : List UInt8) (offset : ℕ) :
    messageVoltage message offset = signedNumber message offset * 0.029 ↔
      SignBitsAgree (messageWord message offset) := by
  have resolution : pilotVoltageResolution ≠ 0 := by
    norm_num [pilotVoltageResolution]
  rw [← hexToSignedDecimal_messageWord_iff]
  change _ = _ * pilotVoltageResolution ↔ _
  rw [messageVoltage, mul_left_inj' resolution, Int.cast_inj]

/-! ## What is decoded -/

/-- The two voltages of the first response are stored and nothing else is
changed. -/
def PilotDecoded (messages : List (List UInt8)) (before after : J1772) :
    Prop :=
  match messages.find? isPilotResponse with
  | none => after = before
  | some message =>
      after = { before with
        vpilot := signedNumber message 4 * 0.029
        vpilotMin := signedNumber message 6 * 0.029 }

def ProxDecoded (messages : List (List UInt8)) (before after : J1772) :
    Prop :=
  match messages.find? isProxResponse with
  | none => after = before
  | some message =>
      after = { before with vprox := signedNumber message 4 * 0.029 }

/-- The frequency in Hz and the duty cycle in percent. -/
def PwmDecoded (messages : List (List UInt8)) (before after : J1772) : Prop :=
  match messages.find? isPwmResponse with
  | none => after = before
  | some message =>
      after = { before with
        pilotFreq := signedNumber message 4
        pilotDutyCycle := signedNumber message 6 / 10 }

theorem readPilotVoltage_decoded_iff (messages : List (List UInt8))
    (j1772 : J1772) :
    PilotDecoded messages j1772 (readPilotVoltage messages j1772) ↔
      ∀ message, messages.find? isPilotResponse = some message →
        SignBitsAgree (messageWord message 4) ∧
          SignBitsAgree (messageWord message 6) := by
  unfold PilotDecoded readPilotVoltage pilotReading
  cases messages.find? isPilotResponse with
  | none => simp [J1772.setPilotVoltage]
  | some message =>
      simp [J1772.setPilotVoltage, messageVoltage_eq_iff]

theorem readProxVoltage_decoded_iff (messages : List (List UInt8))
    (j1772 : J1772) :
    ProxDecoded messages j1772 (readProxVoltage messages j1772) ↔
      ∀ message, messages.find? isProxResponse = some message →
        SignBitsAgree (messageWord message 4) := by
  unfold ProxDecoded readProxVoltage proxReading
  cases messages.find? isProxResponse with
  | none => simp [J1772.setProxVoltage]
  | some message => simp [J1772.setProxVoltage, messageVoltage_eq_iff]

theorem getPwmValues_decoded_iff (messages : List (List UInt8))
    (j1772 : J1772) :
    PwmDecoded messages j1772 (getPwmValues messages j1772) ↔
      ∀ message, messages.find? isPwmResponse = some message →
        SignBitsAgree (messageWord message 4) ∧
          SignBitsAgree (messageWord message 6) := by
  unfold PwmDecoded getPwmValues pwmReading
  cases messages.find? isPwmResponse with
  | none => simp [J1772.setPwmValues]
  | some message =>
      simp [J1772.setPwmValues, hexToSignedDecimal_messageWord_iff, and_comm]

/-- Each of the three functions decodes a list of messages exactly when in every
number of the first response bit 11 equals the sign bit. -/
theorem measurements_decoded_iff (messages : List (List UInt8))
    (j1772 : J1772) :
    (PilotDecoded messages j1772 (readPilotVoltage messages j1772) ↔
      ∀ message, messages.find? isPilotResponse = some message →
        SignBitsAgree (messageWord message 4) ∧
          SignBitsAgree (messageWord message 6)) ∧
    (ProxDecoded messages j1772 (readProxVoltage messages j1772) ↔
      ∀ message, messages.find? isProxResponse = some message →
        SignBitsAgree (messageWord message 4)) ∧
    (PwmDecoded messages j1772 (getPwmValues messages j1772) ↔
      ∀ message, messages.find? isPwmResponse = some message →
        SignBitsAgree (messageWord message 4) ∧
          SignBitsAgree (messageWord message 6)) :=
  ⟨readPilotVoltage_decoded_iff messages j1772,
    readProxVoltage_decoded_iff messages j1772,
    getPwmValues_decoded_iff messages j1772⟩

/-- A response with the words 0x0800 and 0. -/
def wideResponse : List UInt8 :=
  [0x02, 0x07, 0x00, 0x94, 0x00, 0x08, 0x00, 0x00, 0x99]

/-- The number 2048 is taken for a negative one. -/
theorem readPilotVoltage_not_decoded :
    ¬ PilotDecoded [wideResponse] (PilotGlobals.initial false).j1772
      (readPilotVoltage [wideResponse]
        (PilotGlobals.initial false).j1772) := by
  rw [readPilotVoltage_decoded_iff]
  intro agree
  have first := (agree wideResponse (by decide)).1
  revert first
  decide

end OpenRTH
