import OpenRTH.MqttDelivery
import Mathlib.Data.List.Basic

/-!
# The handshake loop

`rth_handshake` on either device.  The MQTT thread assigns `rth_hs` while the
loop runs, so every test of `rth_hs`, every assignment to it and every
publication is a step of its own.
-/

namespace OpenRTH

/-- The program counter of `rth_handshake`; `testNone` is the head of the loop. -/
inductive HandshakePc
  | testNone
  | sendFirst
  | testFirst
  | sendReply
  | settle
  | testBoth
  | testTimeout
  | sleeping
  | exited
  | returned (result : ℤ)
  deriving DecidableEq

/-- A device in `rth_handshake`, with the global `rth_hs`. -/
@[ext] structure HandshakeDevice where
  pc : HandshakePc
  numRetries : ℕ
  rthHandshake : HandshakeState
  deriving DecidableEq

/-- A topic and a message. -/
abbrev Publication := CString × CString

/-- A device that enters `rth_handshake`. -/
def HandshakeDevice.enter : HandshakeDevice :=
  ⟨.testNone, 0, .noHandshake⟩

/-- One step of `rth_handshake`, and what it hands to `send_message`.
`signalCaptured` is what the test after the sleep reads. -/
def handshakeStep (mqtt : MqttTopics) (deviceType : DeviceType)
    (signalCaptured : Bool) (device : HandshakeDevice) :
    Option (HandshakeDevice × Option Publication) :=
  match device.pc with
  | .testNone =>
      if device.rthHandshake = .noHandshake ∧ deviceType = .EVSE then
        some ({ device with pc := .sendFirst }, none)
      else some ({ device with pc := .testFirst }, none)
  | .sendFirst =>
      some ({ device with pc := .testFirst },
        some (mqtt.evseMessage, handshakeMessage))
  | .testFirst =>
      if device.rthHandshake = .firstHandshake ∧ deviceType = .EV then
        some ({ device with pc := .sendReply }, none)
      else some ({ device with pc := .testBoth }, none)
  | .sendReply =>
      some ({ device with pc := .settle },
        some (mqtt.evMessage, handshakeMessage))
  | .settle =>
      if 3 ≤ device.numRetries then
        some ({ device with pc := .testBoth, rthHandshake := .bothHandshake },
          none)
      else some ({ device with pc := .testBoth }, none)
  | .testBoth =>
      if device.rthHandshake = .bothHandshake then
        some ({ device with pc := .returned 0 }, none)
      else some ({ device with pc := .testTimeout }, none)
  | .testTimeout =>
      if 10 < device.numRetries then
        some ({ device with pc := .returned (-1) }, none)
      else some ({ device with
        pc := .sleeping, numRetries := device.numRetries + 1 }, none)
  | .sleeping =>
      if signalCaptured then some ({ device with pc := .exited }, none)
      else some ({ device with pc := .testNone }, none)
  | .exited | .returned _ => none

/-- What a publication that arrives does to `rth_hs`. -/
def HandshakeDevice.hear (mqtt : MqttTopics) (published : Option Publication)
    (device : HandshakeDevice) : HandshakeDevice :=
  match published with
  | none => device
  | some (topic, message) =>
      { device with
        rthHandshake := (handleMessage mqtt topic message
          ⟨false, [], device.rthHandshake⟩).rthHandshake }

@[simp] theorem HandshakeDevice.hear_none (mqtt : MqttTopics)
    (device : HandshakeDevice) : device.hear mqtt none = device := rfl

/-- The EV takes an EVSE handshake message for the first one, whatever it had
heard before. -/
theorem HandshakeDevice.hear_evseMessage {mqtt : MqttTopics}
    (distinct : mqtt.evMessage ≠ mqtt.evseMessage) (device : HandshakeDevice) :
    device.hear mqtt (some (mqtt.evseMessage, handshakeMessage)) =
      { device with rthHandshake := .firstHandshake } := by
  simp [HandshakeDevice.hear, handleMessage, distinct.symm]

theorem HandshakeDevice.hear_evMessage (mqtt : MqttTopics)
    (device : HandshakeDevice) :
    device.hear mqtt (some (mqtt.evMessage, handshakeMessage)) =
      { device with rthHandshake := .bothHandshake } := by
  simp [HandshakeDevice.hear, handleMessage]

@[simp] theorem HandshakeDevice.hear_pc (mqtt : MqttTopics)
    (published : Option Publication) (device : HandshakeDevice) :
    (device.hear mqtt published).pc = device.pc := by
  cases published <;> rfl

@[simp] theorem HandshakeDevice.hear_numRetries (mqtt : MqttTopics)
    (published : Option Publication) (device : HandshakeDevice) :
    (device.hear mqtt published).numRetries = device.numRetries := by
  cases published <;> rfl

namespace HandshakePc

/-- The call has ended. -/
def ended : HandshakePc → Bool
  | .exited | .returned _ => true
  | _ => false

/-- Between the test at the head of the loop and the end of its body. -/
def inBody : HandshakePc → Bool
  | .sendFirst | .testFirst | .sendReply | .settle | .testBoth
  | .testTimeout => true
  | _ => false

end HandshakePc

/-! ## What a step can do -/

/-- The steps of the EVSE, each with its guard. -/
inductive EVSEHandshake (mqtt : MqttTopics) (device : HandshakeDevice) :
    HandshakeDevice → Option Publication → Prop
  | unheard (atPc : device.pc = .testNone)
      (fresh : device.rthHandshake = .noHandshake) :
      EVSEHandshake mqtt device { device with pc := .sendFirst } none
  | heard (atPc : device.pc = .testNone)
      (heard : device.rthHandshake ≠ .noHandshake) :
      EVSEHandshake mqtt device { device with pc := .testFirst } none
  | send (atPc : device.pc = .sendFirst) :
      EVSEHandshake mqtt device { device with pc := .testFirst }
        (some (mqtt.evseMessage, handshakeMessage))
  | pass (atPc : device.pc = .testFirst) :
      EVSEHandshake mqtt device { device with pc := .testBoth } none
  | succeed (atPc : device.pc = .testBoth)
      (both : device.rthHandshake = .bothHandshake) :
      EVSEHandshake mqtt device { device with pc := .returned 0 } none
  | fail (atPc : device.pc = .testBoth)
      (notBoth : device.rthHandshake ≠ .bothHandshake) :
      EVSEHandshake mqtt device { device with pc := .testTimeout } none
  | timeout (atPc : device.pc = .testTimeout)
      (last : 10 < device.numRetries) :
      EVSEHandshake mqtt device { device with pc := .returned (-1) } none
  | retry (atPc : device.pc = .testTimeout)
      (more : device.numRetries ≤ 10) :
      EVSEHandshake mqtt device
        { device with
          pc := .sleeping, numRetries := device.numRetries + 1 } none
  | wake (atPc : device.pc = .sleeping) :
      EVSEHandshake mqtt device { device with pc := .testNone } none

/-- The steps of the EV, each with its guard. -/
inductive EVHandshake (mqtt : MqttTopics) (device : HandshakeDevice) :
    HandshakeDevice → Option Publication → Prop
  | start (atPc : device.pc = .testNone) :
      EVHandshake mqtt device { device with pc := .testFirst } none
  | answer (atPc : device.pc = .testFirst)
      (first : device.rthHandshake = .firstHandshake) :
      EVHandshake mqtt device { device with pc := .sendReply } none
  | pass (atPc : device.pc = .testFirst)
      (notFirst : device.rthHandshake ≠ .firstHandshake) :
      EVHandshake mqtt device { device with pc := .testBoth } none
  | reply (atPc : device.pc = .sendReply) :
      EVHandshake mqtt device { device with pc := .settle }
        (some (mqtt.evMessage, handshakeMessage))
  | settle (atPc : device.pc = .settle) (third : 3 ≤ device.numRetries) :
      EVHandshake mqtt device
        { device with pc := .testBoth, rthHandshake := .bothHandshake } none
  | unsettled (atPc : device.pc = .settle) (early : device.numRetries < 3) :
      EVHandshake mqtt device { device with pc := .testBoth } none
  | succeed (atPc : device.pc = .testBoth)
      (both : device.rthHandshake = .bothHandshake) :
      EVHandshake mqtt device { device with pc := .returned 0 } none
  | fail (atPc : device.pc = .testBoth)
      (notBoth : device.rthHandshake ≠ .bothHandshake) :
      EVHandshake mqtt device { device with pc := .testTimeout } none
  | timeout (atPc : device.pc = .testTimeout)
      (last : 10 < device.numRetries) :
      EVHandshake mqtt device { device with pc := .returned (-1) } none
  | retry (atPc : device.pc = .testTimeout)
      (more : device.numRetries ≤ 10) :
      EVHandshake mqtt device
        { device with
          pc := .sleeping, numRetries := device.numRetries + 1 } none
  | wake (atPc : device.pc = .sleeping) :
      EVHandshake mqtt device { device with pc := .testNone } none

theorem evseHandshake_of_step {mqtt : MqttTopics}
    {device after : HandshakeDevice} {published : Option Publication}
    (step : handshakeStep mqtt .EVSE false device = some (after, published))
    (notReply : device.pc ≠ .sendReply) (notSettle : device.pc ≠ .settle) :
    EVSEHandshake mqtt device after published := by
  unfold handshakeStep at step
  split at step
  · next atPc =>
      split_ifs at step with test
      · cases step; exact .unheard atPc test.1
      · cases step; exact .heard atPc (by simpa using test)
  · next atPc => cases step; exact .send atPc
  · next atPc =>
      rw [if_neg (by simp)] at step
      cases step; exact .pass atPc
  · next atPc => exact absurd atPc notReply
  · next atPc => exact absurd atPc notSettle
  · next atPc =>
      split_ifs at step with test
      · cases step; exact .succeed atPc test
      · cases step; exact .fail atPc test
  · next atPc =>
      split_ifs at step with test
      · cases step; exact .timeout atPc test
      · cases step; exact .retry atPc (by omega)
  · next atPc => cases step; exact .wake atPc
  · cases step
  · cases step

theorem evHandshake_of_step {mqtt : MqttTopics}
    {device after : HandshakeDevice} {published : Option Publication}
    (step : handshakeStep mqtt .EV false device = some (after, published))
    (notFirst : device.pc ≠ .sendFirst) :
    EVHandshake mqtt device after published := by
  unfold handshakeStep at step
  split at step
  · next atPc =>
      rw [if_neg (by simp)] at step
      cases step; exact .start atPc
  · next atPc => exact absurd atPc notFirst
  · next atPc =>
      split_ifs at step with test
      · cases step; exact .answer atPc test.1
      · cases step; exact .pass atPc (by simpa using test)
  · next atPc => cases step; exact .reply atPc
  · next atPc =>
      split_ifs at step with test
      · cases step; exact .settle atPc test
      · cases step; exact .unsettled atPc (by omega)
  · next atPc =>
      split_ifs at step with test
      · cases step; exact .succeed atPc test
      · cases step; exact .fail atPc test
  · next atPc =>
      split_ifs at step with test
      · cases step; exact .timeout atPc test
      · cases step; exact .retry atPc (by omega)
  · next atPc => cases step; exact .wake atPc
  · cases step
  · cases step

theorem EVSEHandshake.step {mqtt : MqttTopics}
    {device after : HandshakeDevice} {published : Option Publication}
    (moved : EVSEHandshake mqtt device after published) :
    handshakeStep mqtt .EVSE false device = some (after, published) := by
  cases moved with
  | unheard atPc fresh => simp [handshakeStep, atPc, fresh]
  | heard atPc heard => simp [handshakeStep, atPc, heard]
  | send atPc => simp [handshakeStep, atPc]
  | pass atPc => simp [handshakeStep, atPc]
  | succeed atPc both => simp [handshakeStep, atPc, both]
  | fail atPc notBoth => simp [handshakeStep, atPc, notBoth]
  | timeout atPc last => simp [handshakeStep, atPc, last]
  | retry atPc more => simp [handshakeStep, atPc, more.not_gt]
  | wake atPc => simp [handshakeStep, atPc]

theorem EVHandshake.step {mqtt : MqttTopics}
    {device after : HandshakeDevice} {published : Option Publication}
    (moved : EVHandshake mqtt device after published) :
    handshakeStep mqtt .EV false device = some (after, published) := by
  cases moved with
  | start atPc => simp [handshakeStep, atPc]
  | answer atPc first => simp [handshakeStep, atPc, first]
  | pass atPc notFirst => simp [handshakeStep, atPc, notFirst]
  | reply atPc => simp [handshakeStep, atPc]
  | settle atPc third => simp [handshakeStep, atPc, third]
  | unsettled atPc early => simp [handshakeStep, atPc, early.not_ge]
  | succeed atPc both => simp [handshakeStep, atPc, both]
  | fail atPc notBoth => simp [handshakeStep, atPc, notBoth]
  | timeout atPc last => simp [handshakeStep, atPc, last]
  | retry atPc more => simp [handshakeStep, atPc, more.not_gt]
  | wake atPc => simp [handshakeStep, atPc]

/-! ## What holds of every step -/

theorem ended_eq_false_of_handshakeStep {mqtt : MqttTopics}
    {deviceType : DeviceType} {signalCaptured : Bool}
    {device after : HandshakeDevice} {published : Option Publication}
    (step : handshakeStep mqtt deviceType signalCaptured device =
      some (after, published)) : device.pc.ended = false := by
  cases atPc : device.pc <;> simp [handshakeStep, atPc] at step <;> rfl

theorem numRetries_le_of_handshakeStep {mqtt : MqttTopics}
    {deviceType : DeviceType} {signalCaptured : Bool}
    {device after : HandshakeDevice} {published : Option Publication}
    (step : handshakeStep mqtt deviceType signalCaptured device =
      some (after, published)) (bound : device.numRetries ≤ 11) :
    after.numRetries ≤ 11 := by
  unfold handshakeStep at step
  split at step <;> (try split_ifs at step) <;> cases step <;> first
    | exact bound
    | (simp only; omega)

theorem numRetries_of_handshakeStep {mqtt : MqttTopics}
    {deviceType : DeviceType} {signalCaptured : Bool}
    {device after : HandshakeDevice} {published : Option Publication}
    (step : handshakeStep mqtt deviceType signalCaptured device =
      some (after, published)) :
    after.numRetries =
      if after.pc = .sleeping then device.numRetries + 1
      else device.numRetries := by
  unfold handshakeStep at step
  split at step <;> (try split_ifs at step) <;> cases step <;> rfl

theorem handshakeStep_isSome (mqtt : MqttTopics) (deviceType : DeviceType)
    (signalCaptured : Bool) {device : HandshakeDevice}
    (running : device.pc.ended = false) :
    (handshakeStep mqtt deviceType signalCaptured device).isSome := by
  unfold handshakeStep
  split <;> (try split_ifs) <;> simp_all [HandshakePc.ended]

/-- An upper bound on the steps that are left until the call ends. -/
def HandshakeDevice.stepsLeft (device : HandshakeDevice) : ℕ :=
  (11 - device.numRetries) * 8 +
    match device.pc with
    | .sleeping => 9
    | .testNone => 8
    | .sendFirst => 7
    | .testFirst => 6
    | .sendReply => 5
    | .settle => 4
    | .testBoth => 3
    | .testTimeout => 2
    | .exited | .returned _ => 0

@[simp] theorem HandshakeDevice.stepsLeft_hear (mqtt : MqttTopics)
    (published : Option Publication) (device : HandshakeDevice) :
    (device.hear mqtt published).stepsLeft = device.stepsLeft := by
  cases published <;> rfl

/-- `rth_handshake` ends, whatever the MQTT thread does meanwhile. -/
theorem stepsLeft_lt_of_handshakeStep {mqtt : MqttTopics}
    {deviceType : DeviceType} {signalCaptured : Bool}
    {device after : HandshakeDevice} {published : Option Publication}
    (step : handshakeStep mqtt deviceType signalCaptured device =
      some (after, published)) :
    after.stepsLeft < device.stepsLeft := by
  unfold handshakeStep at step
  split at step <;> rename_i atPc <;> (try split_ifs at step) <;>
    cases step <;> simp only [HandshakeDevice.stepsLeft, atPc] <;> omega

end OpenRTH
