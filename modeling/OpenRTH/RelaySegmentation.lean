import OpenRTH.BigEndianBytes
import OpenRTH.RelayDelivery
import OpenRTH.SingleMessageChannel

/-!
# Segmented streams

The relay between an EV DUT and an EVSE DUT that speak V2GTP over TCP.  Both
tasks take whatever has arrived at one wakeup for a message, so the published
messages are those of the devices exactly as long as every message has arrived
as a whole before it is read.
-/

namespace OpenRTH

/-- The length of the V2GTP header. -/
def v2gtpHeaderLength : ℕ := 8

/-- The number in the last four bytes of a V2GTP header. -/
def v2gtpPayloadLength (bytes : List UInt8) : ℕ :=
  BigEndianBytes.value ((bytes.drop 4).take 4)

/-- A complete V2GTP message. -/
structure V2gtpMessage where
  bytes : List UInt8
  header : v2gtpHeaderLength ≤ bytes.length
  complete : bytes.length = v2gtpHeaderLength + v2gtpPayloadLength bytes

/-- The text under which a message is published as a whole. -/
def V2gtpMessage.hex (message : V2gtpMessage) : CString :=
  convertBinaryToHex message.bytes

/-- What a DUT finds behind the first complete message of a stream, if there is
one. -/
def afterMessage (stream : List UInt8) : Option (List UInt8) :=
  let length := v2gtpHeaderLength + v2gtpPayloadLength stream
  if v2gtpHeaderLength ≤ stream.length ∧ length ≤ stream.length then
    some (stream.drop length)
  else none

/-- The bytes of a TCP stream that are on their way, and those that have
arrived. -/
structure Wire where
  inFlight : List UInt8
  arrived : List UInt8

def Wire.bytes (wire : Wire) : List UInt8 :=
  wire.arrived ++ wire.inFlight

def Wire.send (wire : Wire) (bytes : List UInt8) : Wire :=
  { wire with inFlight := wire.inFlight ++ bytes }

def Wire.arrive (wire : Wire) (count : ℕ) : Wire :=
  ⟨wire.inFlight.drop count, wire.arrived ++ wire.inFlight.take count⟩

/-- The relay, the two DUTs and the streams between them.  Of the streams from
the relay to a DUT only the bytes that the DUT has not consumed are kept. -/
structure SegmentedState where
  relay : RelayState
  requestsSent : ℕ
  toServer : Wire
  toEvse : List UInt8
  requestsAnswered : ℕ
  toClient : Wire
  toEv : List UInt8
  responsesTaken : ℕ

inductive SegmentedAction
  | sendRequest
  | requestArrives (count : ℕ)
  | serverReads
  | clientWrites
  | answerRequest
  | responseArrives (count : ℕ)
  | clientReads
  | serverWrites
  | takeResponse
  | relay (action : RelayAction)

/-- The steps of the relay tasks that move bytes or give up a connection. -/
def RelayAction.touchesStream : RelayAction → Bool
  | .server (.receive _) | .server (.send _) | .server .drop => true
  | .client (.receive _) | .client (.send _) | .client .drop => true
  | _ => false

/-- The EV DUT sends its requests one at a time, the EVSE DUT answers each
complete request, and nobody closes a connection. -/
def segmentedSystem (mqtt : MqttTopics)
    (requests responses : ℕ → V2gtpMessage) :
    TransitionSystem SegmentedState SegmentedAction where
  initial := ⟨(relaySystem mqtt).initial, 0, ⟨[], []⟩, [], 0, ⟨[], []⟩, [], 0⟩
  step state
    | .sendRequest =>
        if state.requestsSent = state.responsesTaken then
          some { state with
            toServer := state.toServer.send
              (requests state.requestsSent).bytes
            requestsSent := state.requestsSent + 1 }
        else none
    | .requestArrives count =>
        some { state with toServer := state.toServer.arrive count }
    | .serverReads =>
        ((relaySystem mqtt).step state.relay
          (.server (.receive (state.toServer.arrived.take
            relayBufferSize)))).map fun relay =>
              { state with
                relay := relay
                toServer := { state.toServer with
                  arrived := state.toServer.arrived.drop relayBufferSize } }
    | .clientWrites =>
        match state.relay.client.pc with
        | .sending _ packet =>
            ((relaySystem mqtt).step state.relay
              (.client (.send packet.length))).map fun relay =>
                { state with relay := relay, toEvse := state.toEvse ++ packet }
        | _ => none
    | .answerRequest =>
        (afterMessage state.toEvse).map fun rest =>
          { state with
            toEvse := rest
            requestsAnswered := state.requestsAnswered + 1
            toClient := state.toClient.send
              (responses state.requestsAnswered).bytes }
    | .responseArrives count =>
        some { state with toClient := state.toClient.arrive count }
    | .clientReads =>
        ((relaySystem mqtt).step state.relay
          (.client (.receive state.toClient.arrived))).map fun relay =>
            { state with
              relay := relay
              toClient := { state.toClient with arrived := [] } }
    | .serverWrites =>
        match state.relay.server.pc with
        | .sending packet =>
            ((relaySystem mqtt).step state.relay
              (.server (.send packet.length))).map fun relay =>
                { state with relay := relay, toEv := state.toEv ++ packet }
        | _ => none
    | .takeResponse =>
        (afterMessage state.toEv).map fun rest =>
          { state with
            toEv := rest
            responsesTaken := state.responsesTaken + 1 }
    | .relay action =>
        if action.touchesStream then none
        else ((relaySystem mqtt).step state.relay action).map fun relay =>
          { state with relay := relay }

/-- A task reads only when the message has arrived as a whole and fits its
buffer. -/
def readsWhole (state : SegmentedState) : SegmentedAction → Bool
  | .serverReads => state.toServer.inFlight = [] ∧
      state.toServer.arrived.length ≤ relayBufferSize
  | .clientReads => state.toClient.inFlight = [] ∧
      state.toClient.arrived.length ≤ relayBufferSize
  | _ => true

/-! ## Complete messages -/

theorem V2gtpMessage.ne_nil (message : V2gtpMessage) :
    message.bytes ≠ [] := by
  intro nil
  have header := message.header
  simp [nil, v2gtpHeaderLength] at header

theorem afterMessage_bytes (message : V2gtpMessage) :
    afterMessage message.bytes = some [] := by
  unfold afterMessage
  rw [← message.complete, if_pos ⟨message.header, le_refl _⟩,
    List.drop_length]

theorem ne_nil_of_afterMessage {stream rest : List UInt8}
    (found : afterMessage stream = some rest) : stream ≠ [] := by
  rintro rfl
  simp [afterMessage, v2gtpHeaderLength] at found

@[simp]
theorem Wire.bytes_send (wire : Wire) (bytes : List UInt8) :
    (wire.send bytes).bytes = wire.bytes ++ bytes := by
  simp [Wire.bytes, Wire.send]

@[simp]
theorem Wire.bytes_arrive (wire : Wire) (count : ℕ) :
    (wire.arrive count).bytes = wire.bytes := by
  simp [Wire.bytes, Wire.arrive]

/-! ## What the tasks carry -/

/-- The chunk that a task has read and not published. -/
def ServerPc.chunk : ServerPc → List UInt8
  | .publishing chunk => chunk
  | _ => []

def ClientPc.chunk : ClientPc → List UInt8
  | .publishing chunk => chunk
  | _ => []

/-- Whether a received response has not been written to the EV DUT. -/
def ServerPc.owes (received : Bool) : ServerPc → ℕ
  | .awaiting => received.toNat
  | .reading | .sending _ => 1
  | _ => 0

/-- Whether a written request has not been answered over MQTT. -/
def ClientPc.ahead : ClientPc → ℕ
  | .waiting _ | .publishing _ | .overrun => 1
  | _ => 0

/-- The server holds parts of the conversation: `read` requests read of which
`published` were published, and `received` responses. -/
structure ServerCarries (requests responses : ℕ → V2gtpMessage)
    (server : ServerState) (read published received : ℕ) : Prop where
  chunk : Carries (fun number => (requests number).bytes) server.pc.chunk
    published read
  nonempty : ∀ chunk, server.pc = .publishing chunk → chunk ≠ []
  sending : ∀ packet, server.pc = .sending packet →
    packet = (responses server.writes.length).bytes
  packet : 0 < received →
    server.globals.rthDatapacket = (responses (received - 1)).hex
  writes : server.writes.length +
    server.pc.owes server.globals.rthDataReceived = received

/-- The client holds `received` requests and `read` responses, of which it has
published `published`. -/
structure ClientCarries (requests responses : ℕ → V2gtpMessage)
    (client : ClientState) (read published received : ℕ) : Prop where
  chunk : Carries (fun number => (responses number).bytes) client.pc.chunk
    published read
  nonempty : ∀ chunk, client.pc = .publishing chunk → chunk ≠ []
  sending : ∀ number packet, client.pc = .sending number packet →
    packet = (requests client.writes.length).bytes
  packet : 0 < received →
    client.globals.rthDatapacket = (requests (received - 1)).hex
  writes : client.writes.length = published + client.pc.ahead

/-- The messages published so far, each the text of a whole message. -/
def PublishedWhole (messages : ℕ → V2gtpMessage) (topic : List CString) :
    Prop :=
  topic = (List.range topic.length).map fun number => (messages number).hex

instance (messages : ℕ → V2gtpMessage) (topic : List CString) :
    Decidable (PublishedWhole messages topic) :=
  inferInstanceAs (Decidable (_ = _))

theorem PublishedWhole.append {messages : ℕ → V2gtpMessage}
    {topic : List CString} (whole : PublishedWhole messages topic) :
    PublishedWhole messages (topic ++ [(messages topic.length).hex]) := by
  unfold PublishedWhole at whole ⊢
  rw [List.length_append, List.length_singleton, List.range_succ,
    List.map_append, ← whole]
  rfl

theorem PublishedWhole.getElem {messages : ℕ → V2gtpMessage}
    {topic : List CString} (whole : PublishedWhole messages topic)
    {number : ℕ} (published : number < topic.length) :
    topic[number] = (messages number).hex := by
  have entry := congrArg (·[number]?) whole
  simpa [published] using entry

theorem decode_hex (message : V2gtpMessage) (stale : ℕ → UInt8) :
    convertHexToBinary message.hex stale = message.bytes :=
  convertHexToBinary_convertBinaryToHex message.bytes stale

theorem ServerCarries.quiet {requests responses : ℕ → V2gtpMessage}
    {server after : ServerState} {read published received : ℕ}
    (before : ServerCarries requests responses server read published received)
    (samePacket : after.globals.rthDatapacket = server.globals.rthDatapacket)
    (sameWrites : after.writes = server.writes)
    (sameChunk : after.pc.chunk = server.pc.chunk)
    (sameOwes : after.pc.owes after.globals.rthDataReceived =
      server.pc.owes server.globals.rthDataReceived)
    (notPublishing : ∀ chunk, after.pc ≠ .publishing chunk)
    (notSending : ∀ packet, after.pc ≠ .sending packet) :
    ServerCarries requests responses after read published received where
  chunk := sameChunk ▸ before.chunk
  nonempty chunk atPc := absurd atPc (notPublishing chunk)
  sending packet atPc := absurd atPc (notSending packet)
  packet := samePacket ▸ before.packet
  writes := by
    rw [sameWrites, sameOwes]
    exact before.writes

theorem ClientCarries.quiet {requests responses : ℕ → V2gtpMessage}
    {client after : ClientState} {read published received : ℕ}
    (before : ClientCarries requests responses client read published received)
    (samePacket : after.globals.rthDatapacket = client.globals.rthDatapacket)
    (sameWrites : after.writes = client.writes)
    (sameChunk : after.pc.chunk = client.pc.chunk)
    (sameAhead : after.pc.ahead = client.pc.ahead)
    (notPublishing : ∀ chunk, after.pc ≠ .publishing chunk)
    (notSending : ∀ number packet, after.pc ≠ .sending number packet) :
    ClientCarries requests responses after read published received where
  chunk := sameChunk ▸ before.chunk
  nonempty chunk atPc := absurd atPc (notPublishing chunk)
  sending number packet atPc := absurd atPc (notSending number packet)
  packet := samePacket ▸ before.packet
  writes := by
    rw [sameWrites, sameAhead]
    exact before.writes

theorem ServerCarries.step {requests responses : ℕ → V2gtpMessage}
    {server after : ServerState} {action : ServerAction}
    {topic messages : List CString} {read received : ℕ}
    (before : ServerCarries requests responses server read topic.length
      received)
    (counts : ServerCounts server topic.length received)
    (whole : PublishedWhole requests topic)
    (internal : (RelayAction.server action).touchesStream = false)
    (transition : ServerTransition server action after messages) :
    ServerCarries requests responses after read (topic ++ messages).length
        received ∧
      PublishedWhole requests (topic ++ messages) := by
  obtain ⟨chunk, nonempty, sending, packet, writes⟩ := id before
  cases transition with
  | receive atPc nonempty fits => simp [RelayAction.touchesStream] at internal
  | send atPc taken => simp [RelayAction.touchesStream] at internal
  | drop atPc => simp [RelayAction.touchesStream] at internal
  | @publish bytes atPc =>
      rw [atPc, ServerPc.chunk] at chunk
      obtain ⟨readEq, bytesEq⟩ := chunk.eq_message (nonempty bytes atPc)
      rw [bytesEq]
      refine ⟨?_, whole.append⟩
      have empty := (counts.idle (by rw [atPc]; rfl)).1
      exact
        { chunk := by simp [ServerPc.chunk, readEq, Carries.empty]
          nonempty := nofun
          sending := nofun
          packet := packet
          writes := by simpa [atPc, ServerPc.owes, empty] using writes }
  | @read stale atPc =>
      simp only [atPc, ServerPc.owes] at writes
      have stored := packet (by omega)
      have decoded := decode_hex (responses (received - 1)) stale
      rw [List.append_nil]
      refine ⟨?_, whole⟩
      exact
        { chunk := by simpa [atPc, ServerPc.chunk] using chunk
          nonempty := nofun
          sending := by
            rintro packet ⟨⟩
            rw [stored, decoded, ← writes, Nat.add_sub_cancel]
          packet := packet
          writes := writes }
  | pollEmpty =>
      rw [List.append_nil]
      exact ⟨before, whole⟩
  | pollFull atPc full =>
      rw [List.append_nil]
      exact ⟨before.quiet rfl rfl (by rw [atPc]; rfl)
        (by rw [atPc, full]; rfl) nofun nofun, whole⟩
  | _ atPc =>
      rw [List.append_nil]
      exact ⟨before.quiet rfl rfl (by rw [atPc]; rfl) (by rw [atPc]; rfl)
        nofun nofun, whole⟩

theorem ClientCarries.step {requests responses : ℕ → V2gtpMessage}
    {client after : ClientState} {action : ClientAction}
    {topic messages : List CString} {read received : ℕ}
    (before : ClientCarries requests responses client read topic.length
      received)
    (counts : ClientCounts client received topic.length)
    (whole : PublishedWhole responses topic)
    (internal : (RelayAction.client action).touchesStream = false)
    (transition : ClientTransition client action after messages) :
    ClientCarries requests responses after read (topic ++ messages).length
        received ∧
      PublishedWhole responses (topic ++ messages) := by
  obtain ⟨chunk, nonempty, sending, packet, writes⟩ := id before
  cases transition with
  | receive atPc nonempty fits => simp [RelayAction.touchesStream] at internal
  | overrun atPc long => simp [RelayAction.touchesStream] at internal
  | send atPc taken => simp [RelayAction.touchesStream] at internal
  | drop atPc => simp [RelayAction.touchesStream] at internal
  | @publish bytes atPc =>
      rw [atPc, ClientPc.chunk] at chunk
      obtain ⟨readEq, bytesEq⟩ := chunk.eq_message (nonempty bytes atPc)
      rw [bytesEq]
      refine ⟨?_, whole.append⟩
      exact
        { chunk := by simp [ClientPc.chunk, readEq, Carries.empty]
          nonempty := nofun
          sending := nofun
          packet := packet
          writes := by simpa [atPc, ClientPc.ahead] using writes }
  | @read stale atPc =>
      simp only [atPc, ClientPc.ahead] at writes
      have unanswered := (counts.answering (by rw [atPc]; rfl)).2
      have stored := packet (by omega)
      have decoded := decode_hex (requests (received - 1)) stale
      rw [List.append_nil]
      refine ⟨?_, whole⟩
      exact
        { chunk := by simpa [atPc, ClientPc.chunk] using chunk
          nonempty := nofun
          sending := by
            rintro number packet ⟨⟩
            rw [stored, decoded, unanswered, Nat.add_sub_cancel, writes,
              Nat.add_zero]
          packet := packet
          writes := writes }
  | connectFails | pollEmpty =>
      rw [List.append_nil]
      exact ⟨before, whole⟩
  | _ atPc =>
      rw [List.append_nil]
      exact ⟨before.quiet rfl rfl (by rw [atPc]; rfl) (by rw [atPc]; rfl)
        nofun nofun, whole⟩

theorem ServerCarries.deliver {mqtt : MqttTopics}
    {requests responses : ℕ → V2gtpMessage} {server : ServerState}
    {read published received : ℕ}
    (before : ServerCarries requests responses server read published received)
    (counts : ServerCounts server published received)
    (outstanding : received < published) :
    ServerCarries requests responses
      (server.deliver mqtt (responses received).hex) read published
      (received + 1) := by
  have globals := handleMessage_chunk mqtt (.inl rfl)
    (responses received).bytes server.globals
  rw [← V2gtpMessage.hex] at globals
  obtain ⟨atPc, empty⟩ := counts.awaiting_of_lt outstanding
  obtain ⟨chunk, nonempty, sending, packet, writes⟩ := before
  constructor <;>
    simp_all [ServerState.deliver, ServerPc.chunk, ServerPc.owes]

theorem ClientCarries.deliver {mqtt : MqttTopics}
    {requests responses : ℕ → V2gtpMessage} {client : ClientState}
    {read published received : ℕ}
    (before : ClientCarries requests responses client read published
      received) :
    ClientCarries requests responses
      (client.deliver mqtt received (requests received).hex) read published
      (received + 1) := by
  have globals := handleMessage_chunk mqtt (.inr rfl)
    (requests received).bytes client.globals
  rw [← V2gtpMessage.hex] at globals
  exact { before with
    packet := fun _ => by simp [ClientState.deliver, globals] }

theorem ServerCarries.deliver_handshake {mqtt : MqttTopics}
    {requests responses : ℕ → V2gtpMessage} {server : ServerState}
    {read published received : ℕ}
    (before : ServerCarries requests responses server read published
      received) :
    ServerCarries requests responses (server.deliver mqtt handshakeMessage)
      read published received := by
  have mailbox := handleMessage_handshake mqtt mqtt.evMessage server.globals
  exact { before with
    packet := by simpa only [ServerState.deliver, mailbox.2] using before.packet
    writes := by
      simpa only [ServerState.deliver, mailbox.1] using before.writes }

theorem ClientCarries.deliver_handshake {mqtt : MqttTopics}
    {requests responses : ℕ → V2gtpMessage} {client : ClientState}
    {number read published received : ℕ}
    (before : ClientCarries requests responses client read published
      received) :
    ClientCarries requests responses
      (client.deliver mqtt number handshakeMessage) read published
      received := by
  have mailbox := handleMessage_handshake mqtt mqtt.evseMessage client.globals
  exact { before with
    packet := by
      simpa only [ClientState.deliver, mailbox.2] using before.packet }

/-! ## The conversation -/

/-- Every part of the system holds the messages that the counters give, where
`serverRead` and `clientRead` count the messages read by the tasks. -/
structure Lockstep (requests responses : ℕ → V2gtpMessage)
    (state : SegmentedState) (serverRead clientRead : ℕ) : Prop where
  stopAndWait : StopAndWait state.relay
  requestsWhole : PublishedWhole requests state.relay.requests
  responsesWhole : PublishedWhole responses state.relay.responses
  server : ServerCarries requests responses state.relay.server serverRead
    state.relay.requests.length state.relay.responsesDelivered
  client : ClientCarries requests responses state.relay.client clientRead
    state.relay.responses.length state.relay.requestsDelivered
  toServer : Carries (fun number => (requests number).bytes)
    state.toServer.bytes serverRead state.requestsSent
  toEvse : Carries (fun number => (requests number).bytes)
    state.toEvse state.requestsAnswered state.relay.client.writes.length
  toClient : Carries (fun number => (responses number).bytes)
    state.toClient.bytes clientRead state.requestsAnswered
  toEv : Carries (fun number => (responses number).bytes)
    state.toEv state.responsesTaken state.relay.server.writes.length
  oneAtATime : state.requestsSent ≤ state.responsesTaken + 1

theorem ServerCarries.writes_le {requests responses : ℕ → V2gtpMessage}
    {server : ServerState} {read published received : ℕ}
    (carries : ServerCarries requests responses server read published
      received) : server.writes.length ≤ received := by
  have := carries.writes
  omega

theorem ClientCarries.writes_le {requests responses : ℕ → V2gtpMessage}
    {client : ClientState} {read published received : ℕ}
    (carries : ClientCarries requests responses client read published
      received)
    (counts : ClientCounts client received published) :
    client.writes.length ≤ received ∧
      client.writes.length ≤ published + 1 := by
  have writes := carries.writes
  have paired := counts.paired
  cases pc : client.pc with
  | waiting | publishing | overrun =>
      have := counts.answering (by rw [pc]; rfl)
      simp only [pc, ClientPc.ahead] at writes
      omega
  | again | connecting | polling | reading | sending | clearing | exited
  | aborted =>
      simp only [pc, ClientPc.ahead] at writes
      omega

theorem Lockstep.order {requests responses : ℕ → V2gtpMessage}
    {state : SegmentedState} {serverRead clientRead : ℕ}
    (lockstep : Lockstep requests responses state serverRead clientRead) :
    state.responsesTaken ≤ state.relay.server.writes.length ∧
      state.relay.server.writes.length ≤ state.relay.responsesDelivered ∧
      state.relay.responsesDelivered ≤ state.relay.responses.length ∧
      state.relay.responses.length ≤ clientRead ∧
      clientRead ≤ state.requestsAnswered ∧
      state.requestsAnswered ≤ state.relay.client.writes.length ∧
      state.relay.client.writes.length ≤ state.relay.requestsDelivered ∧
      state.relay.requestsDelivered ≤ state.relay.requests.length ∧
      state.relay.requests.length ≤ serverRead ∧
      serverRead ≤ state.requestsSent :=
  ⟨lockstep.toEv.taken_le, lockstep.server.writes_le,
    lockstep.stopAndWait.responsesQueued, lockstep.client.chunk.taken_le,
    lockstep.toClient.taken_le, lockstep.toEvse.taken_le,
    (lockstep.client.writes_le lockstep.stopAndWait.client).1,
    lockstep.stopAndWait.requestsQueued, lockstep.server.chunk.taken_le,
    lockstep.toServer.taken_le⟩

theorem ServerTransition.writes_eq {server after : ServerState}
    {action : ServerAction} {messages : List CString}
    (transition : ServerTransition server action after messages)
    (internal : (RelayAction.server action).touchesStream = false) :
    after.writes = server.writes := by
  cases transition with
  | send atPc taken => simp [RelayAction.touchesStream] at internal
  | _ => rfl

theorem ClientTransition.writes_eq {client after : ClientState}
    {action : ClientAction} {messages : List CString}
    (transition : ClientTransition client action after messages)
    (internal : (RelayAction.client action).touchesStream = false) :
    after.writes = client.writes := by
  cases transition with
  | send atPc taken => simp [RelayAction.touchesStream] at internal
  | _ => rfl

section

variable {mqtt : MqttTopics} {requests responses : ℕ → V2gtpMessage}
  {state after : SegmentedState} {serverRead clientRead : ℕ}

theorem Lockstep.serverReads
    (lockstep : Lockstep requests responses state serverRead clientRead)
    (whole : readsWhole state .serverReads)
    (step : (segmentedSystem mqtt requests responses).step state
      .serverReads = some after) :
    Lockstep requests responses after (serverRead + 1) clientRead := by
  simp only [readsWhole, decide_eq_true_eq] at whole
  obtain ⟨noneInFlight, fits⟩ := whole
  obtain ⟨relay, moved, rfl⟩ := Option.map_eq_some_iff.mp step
  have stopAndWait := lockstep.stopAndWait.step moved
  rw [List.take_of_length_le fits] at moved
  rw [List.drop_of_length_le fits]
  obtain ⟨⟨server, published⟩, received, rfl⟩ :=
    Option.map_eq_some_iff.mp moved
  cases serverTransition_of_step received with
  | receive atPc nonempty _ =>
      simp only [List.append_nil] at stopAndWait ⊢
      have wire := lockstep.toServer
      rw [Wire.bytes, noneInFlight, List.append_nil] at wire
      obtain ⟨sent, bytesEq⟩ := wire.eq_message nonempty
      have chunk := lockstep.server.chunk
      simp only [atPc, ServerPc.chunk] at chunk
      have readEq := chunk.taken_eq fun number => (requests number).ne_nil
      refine { lockstep with
        stopAndWait := stopAndWait
        server := { lockstep.server with
          chunk := ?_
          nonempty := fun bytes atPc => by cases atPc; exact nonempty
          sending := nofun
          writes := by
            have writes := lockstep.server.writes
            rwa [atPc] at writes }
        toServer := ?_ }
      · rw [readEq, bytesEq]
        exact .full serverRead
      · rw [← sent, Wire.bytes, noneInFlight]
        exact .empty (serverRead + 1)

theorem Lockstep.clientReads
    (lockstep : Lockstep requests responses state serverRead clientRead)
    (whole : readsWhole state .clientReads)
    (step : (segmentedSystem mqtt requests responses).step state
      .clientReads = some after) :
    Lockstep requests responses after serverRead (clientRead + 1) := by
  simp only [readsWhole, decide_eq_true_eq] at whole
  obtain ⟨noneInFlight, fits⟩ := whole
  obtain ⟨relay, moved, rfl⟩ := Option.map_eq_some_iff.mp step
  have stopAndWait := lockstep.stopAndWait.step moved
  obtain ⟨⟨client, published⟩, received, rfl⟩ :=
    Option.map_eq_some_iff.mp moved
  cases clientTransition_of_step received with
  | overrun atPc long => omega
  | receive atPc nonempty _ =>
      simp only [List.append_nil] at stopAndWait ⊢
      have wire := lockstep.toClient
      rw [Wire.bytes, noneInFlight, List.append_nil] at wire
      obtain ⟨answered, bytesEq⟩ := wire.eq_message nonempty
      have chunk := lockstep.client.chunk
      simp only [atPc, ClientPc.chunk] at chunk
      have readEq := chunk.taken_eq fun number => (responses number).ne_nil
      refine { lockstep with
        stopAndWait := stopAndWait
        client := { lockstep.client with
          chunk := ?_
          nonempty := fun bytes atPc => by cases atPc; exact nonempty
          sending := nofun
          writes := by
            have writes := lockstep.client.writes
            rwa [atPc] at writes }
        toClient := ?_ }
      · rw [readEq, bytesEq]
        exact .full clientRead
      · rw [← answered, Wire.bytes, noneInFlight]
        exact .empty (clientRead + 1)

theorem Lockstep.clientWrites
    (lockstep : Lockstep requests responses state serverRead clientRead)
    (step : (segmentedSystem mqtt requests responses).step state
      .clientWrites = some after) :
    Lockstep requests responses after serverRead clientRead := by
  simp only [segmentedSystem] at step
  split at step
  · next number packet inHand =>
      obtain ⟨relay, moved, rfl⟩ := Option.map_eq_some_iff.mp step
      have stopAndWait := lockstep.stopAndWait.step moved
      obtain ⟨⟨client, published⟩, sent, rfl⟩ :=
        Option.map_eq_some_iff.mp moved
      cases clientTransition_of_step sent with
      | send atPc taken =>
          simp only [List.append_nil] at stopAndWait ⊢
          have order := lockstep.order
          have writes := lockstep.client.writes
          have chunk := lockstep.client.chunk
          simp only [atPc, ClientPc.ahead, ClientPc.chunk] at writes chunk
          have packetEq := lockstep.client.sending number packet inHand
          refine { lockstep with
            stopAndWait := stopAndWait
            client := { lockstep.client with
              chunk := chunk
              nonempty := nofun
              sending := nofun
              writes := ?_ }
            toEvse := ?_ }
          · simpa [ClientPc.ahead] using writes
          · have put := lockstep.toEvse.put (by omega)
            rw [← packetEq] at put
            rwa [List.length_append]
  · cases step

theorem Lockstep.serverWrites
    (lockstep : Lockstep requests responses state serverRead clientRead)
    (step : (segmentedSystem mqtt requests responses).step state
      .serverWrites = some after) :
    Lockstep requests responses after serverRead clientRead := by
  simp only [segmentedSystem] at step
  split at step
  · next packet inHand =>
      obtain ⟨relay, moved, rfl⟩ := Option.map_eq_some_iff.mp step
      have stopAndWait := lockstep.stopAndWait.step moved
      obtain ⟨⟨server, published⟩, sent, rfl⟩ :=
        Option.map_eq_some_iff.mp moved
      cases serverTransition_of_step sent with
      | send atPc taken =>
          simp only [List.append_nil] at stopAndWait ⊢
          have order := lockstep.order
          have oneAtATime := lockstep.oneAtATime
          have answered :=
            (lockstep.stopAndWait.server.answering (by rw [atPc]; rfl)).2
          have writes := lockstep.server.writes
          have chunk := lockstep.server.chunk
          simp only [atPc, ServerPc.owes, ServerPc.chunk] at writes chunk
          have packetEq := lockstep.server.sending packet inHand
          refine { lockstep with
            stopAndWait := stopAndWait
            server := { lockstep.server with
              chunk := chunk
              nonempty := nofun
              sending := nofun
              writes := ?_ }
            toEv := ?_ }
          · simpa [ServerPc.owes] using writes
          · have put := lockstep.toEv.put (by omega)
            rw [← packetEq] at put
            rwa [List.length_append]
  · cases step

theorem Lockstep.answerRequest
    (lockstep : Lockstep requests responses state serverRead clientRead)
    (step : (segmentedSystem mqtt requests responses).step state
      .answerRequest = some after) :
    Lockstep requests responses after serverRead clientRead := by
  obtain ⟨rest, found, rfl⟩ := Option.map_eq_some_iff.mp step
  have order := lockstep.order
  have ahead :=
    (lockstep.client.writes_le lockstep.stopAndWait.client).2
  obtain ⟨written, requestEq⟩ :=
    lockstep.toEvse.eq_message (ne_nil_of_afterMessage found)
  rw [requestEq, afterMessage_bytes] at found
  obtain rfl := Option.some.inj found
  refine { lockstep with toEvse := ?_, toClient := ?_ }
  · rw [← written]
    exact .empty (state.requestsAnswered + 1)
  · rw [Wire.bytes_send]
    exact lockstep.toClient.put (by omega)

theorem Lockstep.takeResponse
    (lockstep : Lockstep requests responses state serverRead clientRead)
    (step : (segmentedSystem mqtt requests responses).step state
      .takeResponse = some after) :
    Lockstep requests responses after serverRead clientRead := by
  obtain ⟨rest, found, rfl⟩ := Option.map_eq_some_iff.mp step
  have oneAtATime := lockstep.oneAtATime
  obtain ⟨written, responseEq⟩ :=
    lockstep.toEv.eq_message (ne_nil_of_afterMessage found)
  rw [responseEq, afterMessage_bytes] at found
  obtain rfl := Option.some.inj found
  refine { lockstep with toEv := ?_, oneAtATime := by simp only; omega }
  rw [← written]
  exact .empty (state.responsesTaken + 1)

theorem Lockstep.relay {action : RelayAction}
    (lockstep : Lockstep requests responses state serverRead clientRead)
    (step : (segmentedSystem mqtt requests responses).step state
      (.relay action) = some after) :
    Lockstep requests responses after serverRead clientRead := by
  simp only [segmentedSystem] at step
  split_ifs at step with touches
  have internal : action.touchesStream = false := by simpa using touches
  obtain ⟨relay, moved, rfl⟩ := Option.map_eq_some_iff.mp step
  have stopAndWait := lockstep.stopAndWait.step moved
  cases action with
  | server action =>
      obtain ⟨⟨server, published⟩, advanced, rfl⟩ :=
        Option.map_eq_some_iff.mp moved
      have transition := serverTransition_of_step advanced
      obtain ⟨carries, whole⟩ := lockstep.server.step
        lockstep.stopAndWait.server lockstep.requestsWhole internal transition
      exact { lockstep with
        stopAndWait := stopAndWait
        requestsWhole := whole
        server := carries
        toEv := by
          simpa only [transition.writes_eq internal] using lockstep.toEv }
  | client action =>
      obtain ⟨⟨client, published⟩, advanced, rfl⟩ :=
        Option.map_eq_some_iff.mp moved
      have transition := clientTransition_of_step advanced
      obtain ⟨carries, whole⟩ := lockstep.client.step
        lockstep.stopAndWait.client lockstep.responsesWhole internal transition
      exact { lockstep with
        stopAndWait := stopAndWait
        responsesWhole := whole
        client := carries
        toEvse := by
          simpa only [transition.writes_eq internal] using lockstep.toEvse }
  | deliverRequest =>
      obtain ⟨message, queued, rfl⟩ := Option.map_eq_some_iff.mp moved
      obtain ⟨inQueue, rfl⟩ := List.getElem?_eq_some_iff.mp queued
      refine { lockstep with stopAndWait := stopAndWait, client := ?_ }
      simp only [lockstep.requestsWhole.getElem inQueue]
      exact lockstep.client.deliver
  | deliverResponse =>
      obtain ⟨message, queued, rfl⟩ := Option.map_eq_some_iff.mp moved
      obtain ⟨inQueue, rfl⟩ := List.getElem?_eq_some_iff.mp queued
      have order := lockstep.order
      refine { lockstep with stopAndWait := stopAndWait, server := ?_ }
      simp only [lockstep.responsesWhole.getElem inQueue]
      exact lockstep.server.deliver lockstep.stopAndWait.server (by omega)
  | handshakeToServer =>
      obtain rfl := Option.some.inj moved
      exact { lockstep with
        stopAndWait := stopAndWait
        server := lockstep.server.deliver_handshake }
  | handshakeToClient =>
      obtain rfl := Option.some.inj moved
      exact { lockstep with
        stopAndWait := stopAndWait
        client := lockstep.client.deliver_handshake }

theorem Lockstep.step {action : SegmentedAction}
    (lockstep : Lockstep requests responses state serverRead clientRead)
    (whole : readsWhole state action)
    (step : (segmentedSystem mqtt requests responses).step state action =
      some after) :
    ∃ serverRead clientRead,
      Lockstep requests responses after serverRead clientRead := by
  have order := lockstep.order
  cases action with
  | sendRequest =>
      simp only [segmentedSystem] at step
      split_ifs at step with idle
      obtain rfl := Option.some.inj step
      refine ⟨serverRead, clientRead, { lockstep with
        toServer := ?_, oneAtATime := by simp only; omega }⟩
      rw [Wire.bytes_send]
      exact lockstep.toServer.put (by omega)
  | requestArrives count =>
      obtain rfl := Option.some.inj step
      refine ⟨serverRead, clientRead, { lockstep with toServer := ?_ }⟩
      simpa only [Wire.bytes_arrive] using lockstep.toServer
  | serverReads => exact ⟨_, _, lockstep.serverReads whole step⟩
  | clientWrites => exact ⟨_, _, lockstep.clientWrites step⟩
  | answerRequest => exact ⟨_, _, lockstep.answerRequest step⟩
  | responseArrives count =>
      obtain rfl := Option.some.inj step
      refine ⟨serverRead, clientRead, { lockstep with toClient := ?_ }⟩
      simpa only [Wire.bytes_arrive] using lockstep.toClient
  | clientReads => exact ⟨_, _, lockstep.clientReads whole step⟩
  | serverWrites => exact ⟨_, _, lockstep.serverWrites step⟩
  | takeResponse => exact ⟨_, _, lockstep.takeResponse step⟩
  | relay action => exact ⟨_, _, lockstep.relay step⟩

end

/-- In a run whose reads find whole messages, the messages published on the two
topics are the requests and the responses, one by one. -/
theorem segmentedSystem_published_whole (mqtt : MqttTopics)
    (requests responses : ℕ → V2gtpMessage) (state : SegmentedState)
    (reaches : (segmentedSystem mqtt requests responses).Reaches
      (fun state action => readsWhole state action) state) :
    PublishedWhole requests state.relay.requests ∧
      PublishedWhole responses state.relay.responses := by
  have conversation : ∃ serverRead clientRead,
      Lockstep requests responses state serverRead clientRead := by
    induction reaches with
    | start =>
        exact ⟨0, 0,
          { stopAndWait := @relaySystem_stopAndWait mqtt _ .start
            requestsWhole := rfl
            responsesWhole := rfl
            server := ⟨.empty 0, nofun, nofun, nofun, rfl⟩
            client := ⟨.empty 0, nofun, nofun, nofun, rfl⟩
            toServer := .empty 0
            toEvse := .empty 0
            toClient := .empty 0
            toEv := .empty 0
            oneAtATime := Nat.zero_le 1 }⟩
    | next _ whole step ih =>
        obtain ⟨serverRead, clientRead, lockstep⟩ := ih
        exact lockstep.step whole step
  obtain ⟨serverRead, clientRead, lockstep⟩ := conversation
  exact ⟨lockstep.requestsWhole, lockstep.responsesWhole⟩

/-- A message with one byte of payload. -/
def benchMessage (payload : UInt8) : V2gtpMessage where
  bytes := [0x01, 0xFE, 0x80, 0x01, 0, 0, 0, 1, payload]
  header := by simp [v2gtpHeaderLength]
  complete := by simp [v2gtpHeaderLength, v2gtpPayloadLength, BigEndianBytes.value]

/-- The relay is connected on both sides and the EV DUT sends a request. -/
def connectAndRequest : List SegmentedAction :=
  [.relay (.server (.create ⟨true, true, true, true⟩)),
    .relay (.server (.accept ⟨true, true, true⟩)), .relay (.client .restart),
    .relay (.client (.connect ⟨true, true, true, true⟩)), .sendRequest]

/-- A request that arrives in two pieces, both before it is read. -/
theorem segmentedSystem_published_two_pieces :
    ∃ state, (segmentedSystem benchTopics (fun _ => benchMessage 1)
        (fun _ => benchMessage 2)).Reaches
        (fun state action => readsWhole state action) state ∧
      state.relay.requests ≠ [] ∧
      PublishedWhole (fun _ => benchMessage 1) state.relay.requests ∧
      PublishedWhole (fun _ => benchMessage 2) state.relay.responses := by
  obtain ⟨state, reaches, published⟩ :=
    TransitionSystem.exists_reaches_of_follow
      (segmentedSystem benchTopics (fun _ => benchMessage 1)
        (fun _ => benchMessage 2))
      (fun state action => readsWhole state action)
      (connectAndRequest ++ [.requestArrives 5, .requestArrives 4,
        .serverReads, .relay (.server .publish)])
      (fun state => state.relay.requests ≠ []) (by decide)
  exact ⟨state, reaches, of_decide_eq_true published,
    segmentedSystem_published_whole benchTopics _ _ state reaches⟩

/-- A request of which only a piece has arrived when it is read. -/
theorem segmentedSystem_published_piece :
    ∃ state, (segmentedSystem benchTopics (fun _ => benchMessage 1)
        (fun _ => benchMessage 2)).Reachable state ∧
      ¬ PublishedWhole (fun _ => benchMessage 1) state.relay.requests := by
  obtain ⟨state, reaches, piece⟩ :=
    TransitionSystem.exists_reaches_of_follow
      (segmentedSystem benchTopics (fun _ => benchMessage 1)
        (fun _ => benchMessage 2)) (fun _ _ => True)
      (connectAndRequest ++ [.requestArrives 5, .serverReads,
        .relay (.server .publish)])
      (fun state =>
        ¬ PublishedWhole (fun _ => benchMessage 1) state.relay.requests)
      (by decide)
  exact ⟨state, reaches, of_decide_eq_true piece⟩

end OpenRTH
