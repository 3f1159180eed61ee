import OpenRTH.FixedBuffer
import OpenRTH.HexTransport

/-!
# Delivery over MQTT

A relayed chunk is published as a C string; on the peer wolfMQTT hands it to
`callback`, whole or in pieces, and `callback` copies topic and payload into
two arrays of 256 bytes before it calls `handle_message`.
-/

namespace OpenRTH

/-- The topics of the relayed messages. -/
structure MqttTopics where
  evMessage : CString
  evseMessage : CString

def benchTopics : MqttTopics := ⟨['e', 'v'], ['e', 'v', 's', 'e']⟩

/-- `rth_handshake_t`. -/
inductive HandshakeState
  | noHandshake
  | firstHandshake
  | bothHandshake
  deriving DecidableEq, Repr

/-- The globals that `handle_message` writes. -/
structure MessageGlobals where
  rthDataReceived : Bool
  rthDatapacket : CString
  rthHandshake : HandshakeState
  deriving DecidableEq

/-- The message of the handshake. -/
def handshakeMessage : CString := ['1']

/-- `CWolfMQTT::handle_message`. -/
def handleMessage (mqtt : MqttTopics) (topic message : CString)
    (globals : MessageGlobals) : MessageGlobals :=
  if topic = mqtt.evMessage then
    if message = handshakeMessage then
      { globals with rthHandshake := .bothHandshake }
    else { globals with rthDataReceived := true, rthDatapacket := message }
  else if topic = mqtt.evseMessage then
    if message = handshakeMessage then
      { globals with rthHandshake := .firstHandshake }
    else { globals with rthDataReceived := true, rthDatapacket := message }
  else globals

/-- The topic and payload that `publish` sends for a call of `send_message`. -/
def publishedTopic (topic : CString) : CString := cString topic
def publishedPayload (message : CString) : CString := cString message

/-- `MqttMessage` with the flags wolfMQTT passes beside it. -/
structure MqttMessage where
  topicName : List Char
  buffer : List Char
  msgNew : Bool
  msgDone : Bool

/-- One invocation of `callback`, on arrays with arbitrary content. -/
structure CallbackCall where
  message : MqttMessage
  topicBuf : FixedBuffer Char 256
  messageBuf : FixedBuffer Char 256

/-- `callback`: the arguments of `handle_message`, or `none` after a write
outside one of the arrays. -/
def callback (call : CallbackCall) : Option (CString × CString) :=
  match call.topicBuf.storeString nul call.message.topicName with
  | none => none
  | some topicBuf =>
      match call.messageBuf.storeString nul call.message.buffer with
      | none => none
      | some messageBuf => some (topicBuf.string nul, messageBuf.string nul)

/-! ## What wolfMQTT hands over -/

/-- `_MQTT_MAX_PACKET_SIZE` in the call of `init`. -/
def mqttMaxPacketSize : ℕ := 1024

/-- The number of bytes that encode the remaining length of a packet. -/
def remainingLengthBytes (remaining : ℕ) : ℕ :=
  if remaining < 128 then 1
  else if remaining < 16384 then 2
  else if remaining < 2097152 then 3 else 4

/-- The size of a PUBLISH packet with quality of service 0. -/
def publishPacketSize (topic payload : CString) : ℕ :=
  let remaining := 2 + topic.length + payload.length
  1 + remainingLengthBytes remaining + remaining

/-- The messages for which wolfMQTT invokes `callback` on one PUBLISH: a single
one when the packet fits the receive buffer, consecutive pieces otherwise.  Only
the first piece has to carry the topic. -/
structure WolfMqttDelivers (topic payload : CString)
    (messages : List MqttMessage) : Prop where
  whole : publishPacketSize topic payload ≤ mqttMaxPacketSize →
    messages = [⟨topic, payload, true, true⟩]
  pieces : (messages.map (·.buffer)).flatten = payload
  first : ∃ first rest, messages = first :: rest ∧ first.topicName = topic

/-- Every write of `callback` is in bounds, and `handle_message` is called
exactly once, with the given message. -/
def DeliversExactly (calls : List CallbackCall) (message : CString) : Prop :=
  ∃ topic, calls.mapM callback = some [(topic, message)]

theorem callback_eq_none_iff (call : CallbackCall) :
    callback call = none ↔
      256 ≤ call.message.topicName.length ∨
        256 ≤ call.message.buffer.length := by
  rw [← FixedBuffer.storeString_eq_none_iff nul call.topicBuf,
    ← FixedBuffer.storeString_eq_none_iff nul call.messageBuf]
  unfold callback
  cases call.topicBuf.storeString nul call.message.topicName with
  | none => simp
  | some topicBuf =>
      cases call.messageBuf.storeString nul call.message.buffer with
      | none => simp
      | some messageBuf => simp

theorem callback_eq_some {call : CallbackCall} {handled : CString × CString}
    (called : callback call = some handled) :
    handled = (cString call.message.topicName,
      cString call.message.buffer) := by
  unfold callback at called
  split at called
  · simp at called
  · next topicBuf topicStored =>
      split at called
      · simp at called
      · next messageBuf messageStored =>
          obtain rfl := Option.some.inj called
          rw [FixedBuffer.string_storeString topicStored,
            FixedBuffer.string_storeString messageStored]
          rfl

theorem publishedPayload_convertBinaryToHex (packet : List UInt8) :
    publishedPayload (convertBinaryToHex packet) = convertBinaryToHex packet :=
  cString_eq_self (nul_notMem_convertBinaryToHex packet)

theorem deliversExactly_singleton (call : CallbackCall)
    (noNul : nul ∉ call.message.buffer)
    (shortTopic : call.message.topicName.length < 256)
    (shortBuffer : call.message.buffer.length < 256) :
    DeliversExactly [call] call.message.buffer := by
  cases called : callback call with
  | none =>
      rcases (callback_eq_none_iff call).mp called with long | long <;> omega
  | some handled =>
      refine ⟨cString call.message.topicName, ?_⟩
      rw [List.mapM_cons, called, callback_eq_some called,
        cString_eq_self noNul]
      rfl

theorem short_of_deliversExactly {calls : List CallbackCall}
    {message : CString} (delivers : DeliversExactly calls message) :
    ∃ call, calls = [call] ∧ call.message.topicName.length < 256 ∧
      call.message.buffer.length < 256 := by
  obtain ⟨topic, called⟩ := delivers
  cases calls with
  | nil => simp at called
  | cons call rest =>
      rw [List.mapM_cons] at called
      obtain ⟨handled, first, called⟩ := Option.bind_eq_some_iff.mp called
      obtain ⟨others, later, called⟩ := Option.bind_eq_some_iff.mp called
      obtain ⟨-, rfl⟩ := List.cons.inj (Option.some.inj called)
      have inBounds := mt (callback_eq_none_iff call).mpr (by simp [first])
      refine ⟨call, ?_, by omega, by omega⟩
      cases rest with
      | nil => rfl
      | cons second rest =>
          rw [List.mapM_cons] at later
          obtain ⟨_, -, later⟩ := Option.bind_eq_some_iff.mp later
          obtain ⟨_, -, later⟩ := Option.bind_eq_some_iff.mp later
          simp at later

/-- A packet reaches the peer's `handle_message` intact if and only if it has
at most 127 bytes and the topic has at most 255. -/
theorem callback_deliversExactly_iff (topic : CString)
    (packet : List UInt8) (calls : List CallbackCall)
    (delivered : WolfMqttDelivers (publishedTopic topic)
      (publishedPayload (convertBinaryToHex packet))
      (calls.map (·.message))) :
    DeliversExactly calls (convertBinaryToHex packet) ↔
      packet.length ≤ 127 ∧ (publishedTopic topic).length ≤ 255 := by
  rw [publishedPayload_convertBinaryToHex] at delivered
  have hexLength := length_convertBinaryToHex packet
  constructor
  · intro delivers
    obtain ⟨call, rfl, shortTopic, shortBuffer⟩ :=
      short_of_deliversExactly delivers
    obtain ⟨first, rest, firstEq, firstTopic⟩ := delivered.first
    obtain ⟨rfl, -⟩ := List.cons.inj firstEq
    have payload : call.message.buffer = convertBinaryToHex packet := by
      simpa using delivered.pieces
    rw [firstTopic] at shortTopic
    rw [payload] at shortBuffer
    omega
  · rintro ⟨shortPacket, shortTopic⟩
    have fits : publishPacketSize (publishedTopic topic)
        (convertBinaryToHex packet) ≤ mqttMaxPacketSize := by
      simp only [publishPacketSize, remainingLengthBytes, mqttMaxPacketSize,
        hexLength]
      split_ifs <;> omega
    have single := delivered.whole fits
    obtain ⟨call, rfl, messageEq⟩ := List.map_eq_singleton_iff.mp single
    have exact := deliversExactly_singleton call
      (by rw [messageEq]; exact nul_notMem_convertBinaryToHex packet)
      (by rw [messageEq]; change (publishedTopic topic).length < 256; omega)
      (by rw [messageEq]; change (convertBinaryToHex packet).length < 256
          omega)
    rwa [messageEq] at exact

def clearedBuffer : FixedBuffer Char 256 :=
  ⟨List.replicate 256 nul, List.length_replicate⟩

/-- The call for a packet that arrives whole on a topic. -/
def wholeCall (topic : CString) (packet : List UInt8) : CallbackCall where
  message := ⟨topic, convertBinaryToHex packet, true, true⟩
  topicBuf := clearedBuffer
  messageBuf := clearedBuffer

theorem wholeCall_delivers (packet : List UInt8) :
    WolfMqttDelivers (publishedTopic ['e', 'v'])
      (publishedPayload (convertBinaryToHex packet))
      [(wholeCall ['e', 'v'] packet).message] := by
  rw [publishedPayload_convertBinaryToHex]
  exact ⟨fun _ => rfl, by simp [wholeCall], _, [], rfl, rfl⟩

theorem callback_deliversExactly_three_bytes :
    DeliversExactly [wholeCall ['e', 'v'] [0x01, 0xFE, 0x80]]
      (convertBinaryToHex [0x01, 0xFE, 0x80]) :=
  (callback_deliversExactly_iff ['e', 'v'] _ _
    (wholeCall_delivers _)).mpr (by decide)

/-- A packet of 128 bytes fits the receive buffer, and its NUL is written
behind `message_buf`. -/
theorem callback_not_deliversExactly :
    let packet := List.replicate 128 0
    WolfMqttDelivers (publishedTopic ['e', 'v'])
        (publishedPayload (convertBinaryToHex packet))
        [(wholeCall ['e', 'v'] packet).message] ∧
      ¬ DeliversExactly [wholeCall ['e', 'v'] packet]
        (convertBinaryToHex packet) := by
  intro packet
  refine ⟨wholeCall_delivers packet, ?_⟩
  rintro ⟨topic, called⟩
  have overrun : callback (wholeCall ['e', 'v'] packet) = none := by
    refine (callback_eq_none_iff _).mpr (.inr ?_)
    change 256 ≤ (convertBinaryToHex packet).length
    rw [length_convertBinaryToHex, List.length_replicate]
  simp [overrun] at called

theorem handleMessage_chunk (mqtt : MqttTopics) {topic : CString}
    (relayed : topic = mqtt.evMessage ∨ topic = mqtt.evseMessage)
    (packet : List UInt8) (globals : MessageGlobals) :
    handleMessage mqtt topic (convertBinaryToHex packet) globals =
      { globals with
        rthDataReceived := true
        rthDatapacket := convertBinaryToHex packet } := by
  have notHandshake : convertBinaryToHex packet ≠ handshakeMessage :=
    convertBinaryToHex_ne_singleton packet '1'
  unfold handleMessage
  rw [if_neg notHandshake]
  split_ifs with onEvMessage onEvseMessage
  · rfl
  · rfl
  · exact absurd relayed (not_or.mpr ⟨onEvMessage, onEvseMessage⟩)

theorem rthHandshake_handleMessage (mqtt : MqttTopics) (topic : CString)
    {message : CString} (notHandshake : message ≠ handshakeMessage)
    (globals : MessageGlobals) :
    (handleMessage mqtt topic message globals).rthHandshake =
      globals.rthHandshake := by
  simp only [handleMessage, if_neg notHandshake]
  split_ifs <;> rfl

theorem handleMessage_handshake (mqtt : MqttTopics) (topic : CString)
    (globals : MessageGlobals) :
    (handleMessage mqtt topic handshakeMessage globals).rthDataReceived =
        globals.rthDataReceived ∧
      (handleMessage mqtt topic handshakeMessage globals).rthDatapacket =
        globals.rthDatapacket := by
  simp only [handleMessage, if_true]
  split_ifs <;> exact ⟨rfl, rfl⟩

end OpenRTH
