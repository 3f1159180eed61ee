import OpenRTH.DeviceTransitions
import OpenRTH.FrameChecksum
import OpenRTH.SerialFraming
import OpenRTH.TransitionRuns

/-!
# Commands to the co-processor

Five functions send a command to the EVAcharge board.  Whatever their argument
is, they write nothing or one frame: start byte, length, payload and checksum
agree with each other and with what `read_serial_data` takes for a message.
-/

namespace OpenRTH

/-! ## Building the commands -/

/-- `decimal_to_little_endian_hex`, which keeps the two low bytes. -/
def decimalToLittleEndianHex (value : ℤ) : List UInt8 :=
  [UInt8.ofNat (value % 256).toNat, UInt8.ofNat (value / 256 % 256).toNat]

/-- The calls that send a command. -/
inductive SerialCall
  | readPilotVoltage
  | readProxVoltage
  | getPwmValues
  | controlPwm (onOrOff : ℤ)
  | setPwm (dutyCycle : ℚ)

namespace SerialCall

/-- The check of the argument. -/
def rejected : SerialCall → Bool
  | .controlPwm onOrOff => onOrOff ≠ 0 ∧ onOrOff ≠ 1
  | .setPwm dutyCycle => dutyCycle < 0 ∨ 99.999 < dutyCycle
  | _ => false

/-- `uart_msg` without its checksum. -/
def uartMsg : SerialCall → List UInt8
  | .readPilotVoltage => [0x02, 0x03, 0x00, 0x14]
  | .readProxVoltage => [0x02, 0x03, 0x00, 0x52]
  | .getPwmValues => [0x02, 0x03, 0x00, 0x10]
  | .controlPwm onOrOff =>
      [0x02, 0x04, 0x00, 0x12, UInt8.ofNat (onOrOff % 256).toNat]
  | .setPwm dutyCycle =>
      -- the frequency is 1000 Hz
      [0x02, 0x07, 0x00, 0x11, 0xE8, 0x03] ++
        decimalToLittleEndianHex (truncate (dutyCycle * 10))

/-- What the call passes to `write_to_serial`, one list for each time. -/
def writes (call : SerialCall) : List (List UInt8) :=
  if call.rejected then [] else [withBcc call.uartMsg]

end SerialCall

/-! ## Frames -/

/-- The bytes make up one frame, for the board and for `read_serial_data`,
however they are cut into reads. -/
structure IsCommandFrame (bytes : List UInt8) : Prop where
  start : messageByte bytes 0 = startByte
  size : bytes.length = (messageByte bytes 1).toNat + 2
  checksum : calculateBcc bytes = 0
  extracted : ∀ reads : List (List UInt8), reads.flatten = bytes →
    extractedMessages reads = [bytes]

theorem isCommandFrame_withBcc {length : UInt8} {payload : List UInt8}
    (size : payload.length + 1 = length.toNat) :
    IsCommandFrame (withBcc (startByte :: length :: payload)) where
  start := rfl
  size := by
    rw [length_withBcc, List.length_cons, List.length_cons]
    change _ = length.toNat + 2
    omega
  checksum := calculateBcc_withBcc _
  extracted := by
    intro reads stream
    have complete : (payload ++
        [calculateBcc (startByte :: length :: payload)]).length =
          length.toNat := by
      rw [List.length_append, List.length_singleton, size]
    rw [extractedMessages_eq_deframer, stream]
    exact congrArg Prod.snd (deframer_run_frame length _ complete)

theorem SerialCall.isCommandFrame (call : SerialCall) :
    IsCommandFrame (withBcc call.uartMsg) := by
  cases call <;> exact isCommandFrame_withBcc rfl

/-! ## The duty cycle -/

theorem messageWord_decimalToLittleEndianHex {value : ℤ} (nonneg : 0 ≤ value)
    (small : value < 65536) {front : List UInt8} (rest : List UInt8) :
    (messageWord (front ++ (decimalToLittleEndianHex value ++ rest))
      front.length).toNat = value := by
  have low : messageByte (front ++ (decimalToLittleEndianHex value ++ rest))
      front.length = UInt8.ofNat (value % 256).toNat := by
    simp [messageByte, decimalToLittleEndianHex]
  have high : messageByte (front ++ (decimalToLittleEndianHex value ++ rest))
      (front.length + 1) = UInt8.ofNat (value / 256 % 256).toNat := by
    simp [messageByte, decimalToLittleEndianHex]
  rw [messageWord_toNat, low, high, UInt8.toNat_ofNat', UInt8.toNat_ofNat']
  omega

/-- An accepted duty cycle is sent in tenths of a percent. -/
theorem setPwm_dutyCycle {dutyCycle : ℚ}
    (accepted : (SerialCall.setPwm dutyCycle).rejected = false) :
    0 ≤ dutyCycle ∧ dutyCycle ≤ 99.999 ∧
      ((messageWord (withBcc (SerialCall.setPwm dutyCycle).uartMsg) 6).toNat
        : ℤ) = ⌊10 * dutyCycle⌋ := by
  simp only [SerialCall.rejected, decide_eq_false_iff_not, not_or,
    not_lt] at accepted
  obtain ⟨nonneg, atMost⟩ := accepted
  have scaled : 0 ≤ dutyCycle * 10 := by linarith
  have atLeast : 0 ≤ ⌊dutyCycle * 10⌋ := Int.floor_nonneg.mpr scaled
  have small : ⌊dutyCycle * 10⌋ < 65536 := by
    rw [Int.floor_lt]
    norm_num at atMost ⊢
    linarith
  refine ⟨nonneg, atMost, ?_⟩
  rw [withBcc, SerialCall.uartMsg, truncate, if_pos scaled, List.append_assoc,
    mul_comm 10]
  exact messageWord_decimalToLittleEndianHex atLeast small _

/-- Every call writes nothing, because its argument is rejected, or one
well-formed frame, in which `set_pwm` sends ten times the duty cycle. -/
theorem serialCall_writes (call : SerialCall) :
    (call.rejected = true ∧ call.writes = []) ∨
      (call.rejected = false ∧ ∃ frame, call.writes = [frame] ∧
        IsCommandFrame frame ∧
        ∀ dutyCycle, call = .setPwm dutyCycle →
          0 ≤ dutyCycle ∧ dutyCycle ≤ 99.999 ∧
            ((messageWord frame 6).toNat : ℤ) = ⌊10 * dutyCycle⌋) := by
  unfold SerialCall.writes
  cases accepted : call.rejected with
  | true => exact .inl ⟨rfl, rfl⟩
  | false =>
      refine .inr ⟨rfl, _, rfl, call.isCommandFrame, ?_⟩
      rintro dutyCycle rfl
      exact setPwm_dutyCycle accepted

/-! ## The commands of a device -/

/-- The call behind a PWM command, which carries ten times the duty cycle. -/
def PwmCommand.call : PwmCommand → SerialCall
  | .controlPwm on => .controlPwm (if on then 1 else 0)
  | .setPwm dutyCycle => .setPwm (dutyCycle / 10)

namespace DeviceProcess

variable {state : DeviceProcess}

/-- All PWM commands so far passed the check of their argument. -/
def Accepted (state : DeviceProcess) : Prop :=
  ∀ command ∈ state.serial, command.call.rejected = false

theorem Accepted.write (accepted : state.Accepted) {command : PwmCommand}
    (passes : command.call.rejected = false) (success : Bool) :
    (state.write command success).Accepted := by
  unfold DeviceProcess.write
  split_ifs
  · intro other member
    rcases List.mem_append.mp member with earlier | last
    · exact accepted other earlier
    · rw [List.mem_singleton.mp last]
      exact passes
  · exact accepted

theorem rejected_controlPwm (on : Bool) :
    (PwmCommand.controlPwm on).call.rejected = false := by
  cases on <;> rfl

theorem rejected_setPwm {dutyCycle : ℕ} (small : dutyCycle ≤ 999) :
    (PwmCommand.setPwm dutyCycle).call.rejected = false := by
  have atMost : (dutyCycle : ℚ) ≤ 999 := by exact_mod_cast small
  have nonneg : (0 : ℚ) ≤ dutyCycle := Nat.cast_nonneg dutyCycle
  simp only [PwmCommand.call, SerialCall.rejected, decide_eq_false_iff_not,
    not_or, not_lt]
  constructor
  · positivity
  · norm_num
    linarith

theorem Accepted.shutdownStep (accepted : state.Accepted)
    (device : SlacDevice) (success : Bool) (shutdown : ShutdownPc) :
    (shutdownStep device success state shutdown).1.Accepted := by
  cases shutdown with
  | controlPwm =>
      dsimp only [OpenRTH.shutdownStep]
      split_ifs
      · exact accepted.write (rejected_controlPwm false) success
      · exact accepted
  | closeServer =>
      dsimp only [OpenRTH.shutdownStep]
      split_ifs <;> exact accepted
  | closeUart | exit => exact accepted

theorem Accepted.main (accepted : state.Accepted) {device : SlacDevice}
    {input : MainInput} {after : DeviceProcess}
    (moved : MainTransition device state input after) : after.Accepted := by
  cases moved with
  | @enablePwm success => exact accepted.write (rejected_controlPwm true) _
  | @setPwm success => exact accepted.write (rejected_setPwm (by decide)) _
  | @setDuty success => exact accepted.write (rejected_setPwm (by decide)) _
  | @removed success => exact accepted.write (rejected_controlPwm false) _
  | exiting => exact accepted.shutdownStep _ _ _
  | dispatch =>
      unfold dispatch
      cases device <;> split <;> try split_ifs
      all_goals exact accepted
  | launched => cases device <;> exact accepted
  | removal => split_ifs <;> exact accepted
  | @slac session next input atPc moved =>
      unfold afterSlac
      split
      · exact accepted
      · split_ifs <;> exact accepted
      · exact accepted
  | _ => exact accepted

theorem Accepted.step (accepted : state.Accepted) {mqtt : MqttTopics}
    {device : SlacDevice} {action : ProcessAction} {after : DeviceProcess}
    (step : (deviceProcess mqtt device).step state action = some after) :
    after.Accepted := by
  cases (processTransition_of_step step).2 with
  | main moved => exact accepted.main moved
  | relayExiting => exact accepted.shutdownStep _ _ _
  | _ => exact accepted

/-- Every PWM command of a device is one well-formed frame, in every run of its
process. -/
theorem isCommandFrame_of_mem_serial {mqtt : MqttTopics} {device : SlacDevice}
    (reachable : (deviceProcess mqtt device).Reachable state)
    {command : PwmCommand} (member : command ∈ state.serial) :
    ∃ frame, command.call.writes = [frame] ∧ IsCommandFrame frame := by
  have accepted : state.Accepted := reachable.invariant nofun
    (fun earlier _ step => earlier.step step)
  refine ⟨withBcc command.call.uartMsg, ?_, command.call.isCommandFrame⟩
  rw [SerialCall.writes, accepted command member]
  rfl

end DeviceProcess

end OpenRTH
