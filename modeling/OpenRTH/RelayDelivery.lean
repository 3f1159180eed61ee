import OpenRTH.RelayDevices
import OpenRTH.TransitionRuns

/-!
# Relaying between the two devices

The EVSE-side device runs `CServer::task`, the EV-side device runs
`CClient::task`, and the two topics are lossless queues.  Every interleaving is
stop-and-wait.  A request is nevertheless lost when it arrives between the
client's publication and its clear, because the clear then erases it.
-/

namespace OpenRTH

/-- Both devices, and for each topic what has been published on it and how many
of its messages have been delivered. -/
structure RelayState where
  server : ServerState
  client : ClientState
  requests : List CString
  requestsDelivered : ℕ
  responses : List CString
  responsesDelivered : ℕ

inductive RelayAction
  | server (action : ServerAction)
  | client (action : ClientAction)
  | deliverRequest
  | deliverResponse
  | handshakeToServer
  | handshakeToClient

/-- A message arrives on `mqtt.ev_message`. -/
def ServerState.deliver (mqtt : MqttTopics) (message : CString)
    (state : ServerState) : ServerState :=
  { state with
    globals := handleMessage mqtt mqtt.evMessage message state.globals }

/-- The delivery with the given number arrives on `mqtt.evse_message`. -/
def ClientState.deliver (mqtt : MqttTopics) (number : ℕ) (message : CString)
    (state : ClientState) : ClientState :=
  { state with
    globals := handleMessage mqtt mqtt.evseMessage message state.globals
    packetNumber :=
      if message = handshakeMessage then state.packetNumber else number }

def noMessage : MessageGlobals where
  rthDataReceived := false
  rthDatapacket := []
  rthHandshake := .noHandshake

def initialServer : ServerState := ⟨.again, noMessage, 0, []⟩

def initialClient : ClientState := ⟨.again, noMessage, 0, []⟩

/-- The two devices with their topics. -/
def relaySystem (mqtt : MqttTopics) :
    TransitionSystem RelayState RelayAction where
  initial := ⟨initialServer, initialClient, [], 0, [], 0⟩
  step state
    | .server action =>
        (serverStep state.server action).map fun (server, published) =>
          { state with
            server := server
            requests := state.requests ++ published }
    | .client action =>
        (clientStep state.client action).map fun (client, published) =>
          { state with
            client := client
            responses := state.responses ++ published }
    | .deliverRequest =>
        state.requests[state.requestsDelivered]?.map fun message =>
          { state with
            client := state.client.deliver mqtt state.requestsDelivered message
            requestsDelivered := state.requestsDelivered + 1 }
    | .deliverResponse =>
        state.responses[state.responsesDelivered]?.map fun message =>
          { state with
            server := state.server.deliver mqtt message
            responsesDelivered := state.responsesDelivered + 1 }
    | .handshakeToServer =>
        some { state with
          server := state.server.deliver mqtt handshakeMessage }
    | .handshakeToClient =>
        some { state with
          client := state.client.deliver mqtt state.client.packetNumber
            handshakeMessage }

/-! ## Stop and wait -/

/-- What a relay task is doing, for the counting of messages. -/
inductive RelayPhase
  | idle
  | awaiting
  | answering
  | clearing
  deriving DecidableEq

def ServerPc.phase : ServerPc → RelayPhase
  | .again | .accepting _ | .waiting _ | .publishing _ | .exited | .aborted =>
      .idle
  | .awaiting => .awaiting
  | .reading | .sending _ | .clearing => .answering

def ClientPc.phase : ClientPc → RelayPhase
  | .again | .connecting | .polling | .exited | .aborted => .idle
  | .reading | .sending _ _ | .waiting _ | .publishing _ | .overrun =>
      .answering
  | .clearing => .clearing

/-- The requests the server has sent and the responses it has received. -/
structure ServerCounts (server : ServerState) (sent received : ℕ) :
    Prop where
  idle : server.pc.phase = .idle →
    server.globals.rthDataReceived = false ∧ sent = received
  awaiting : server.pc.phase = .awaiting →
    sent + server.globals.rthDataReceived.toNat = received + 1
  answering : server.pc.phase = .answering →
    server.globals.rthDataReceived = true ∧ sent = received
  notClearing : server.pc.phase ≠ .clearing

/-- The requests the client has received and the responses it has sent. -/
structure ClientCounts (client : ClientState) (received sent : ℕ) :
    Prop where
  paired : sent ≤ received
  oneUnanswered : received ≤ sent + 1
  idle : client.pc.phase = .idle →
    client.globals.rthDataReceived = true → received = sent + 1
  answering : client.pc.phase = .answering →
    client.globals.rthDataReceived = true ∧ received = sent + 1
  clearing : client.pc.phase = .clearing →
    client.globals.rthDataReceived = true
  notAwaiting : client.pc.phase ≠ .awaiting

/-- At most one message is under way. -/
structure StopAndWait (state : RelayState) : Prop where
  requestsHex : ∀ message ∈ state.requests,
    ∃ chunk, message = convertBinaryToHex chunk
  responsesHex : ∀ message ∈ state.responses,
    ∃ chunk, message = convertBinaryToHex chunk
  requestsQueued : state.requestsDelivered ≤ state.requests.length
  responsesQueued : state.responsesDelivered ≤ state.responses.length
  server : ServerCounts state.server state.requests.length
    state.responsesDelivered
  client : ClientCounts state.client state.requestsDelivered
    state.responses.length

theorem ServerCounts.sent_le {server : ServerState} {sent received : ℕ}
    (counts : ServerCounts server sent received) : sent ≤ received + 1 := by
  cases phase : server.pc.phase with
  | idle => have := counts.idle phase; omega
  | awaiting => have := counts.awaiting phase; omega
  | answering => have := counts.answering phase; omega
  | clearing => exact absurd phase counts.notClearing

theorem ServerTransition.published_hex {server after : ServerState}
    {action : ServerAction} {published : List CString}
    (transition : ServerTransition server action after published) :
    ∀ message ∈ published, ∃ chunk, message = convertBinaryToHex chunk := by
  cases transition with
  | publish atPc => simp
  | _ => simp

theorem ClientTransition.published_hex {client after : ClientState}
    {action : ClientAction} {published : List CString}
    (transition : ClientTransition client action after published) :
    ∀ message ∈ published, ∃ chunk, message = convertBinaryToHex chunk := by
  cases transition with
  | publish atPc => simp
  | _ => simp

theorem ServerCounts.quiet {server after : ServerState} {sent received : ℕ}
    (before : ServerCounts server sent received)
    (samePhase : after.pc.phase = server.pc.phase)
    (sameFlag : after.globals.rthDataReceived =
      server.globals.rthDataReceived) :
    ServerCounts after sent received := by
  obtain ⟨idle, awaiting, answering, notClearing⟩ := before
  constructor <;> rw [samePhase] <;> (try rw [sameFlag]) <;> assumption

theorem ClientCounts.quiet {client after : ClientState} {received sent : ℕ}
    (before : ClientCounts client received sent)
    (samePhase : after.pc.phase = client.pc.phase)
    (sameFlag : after.globals.rthDataReceived =
      client.globals.rthDataReceived) :
    ClientCounts after received sent := by
  obtain ⟨paired, oneUnanswered, idle, answering, clearing, notAwaiting⟩ :=
    before
  refine ⟨paired, oneUnanswered, ?_, ?_, ?_, ?_⟩ <;> rw [samePhase] <;>
    (try rw [sameFlag]) <;> assumption

theorem ServerCounts.step {server after : ServerState}
    {action : ServerAction} {published : List CString} {sent received : ℕ}
    (before : ServerCounts server sent received)
    (transition : ServerTransition server action after published) :
    ServerCounts after (sent + published.length) received := by
  cases transition with
  | publish atPc =>
      obtain ⟨empty, answered⟩ := before.idle (by rw [atPc]; rfl)
      constructor <;> simp [ServerPc.phase, empty, answered]
  | pollFull atPc full =>
      have awaited := before.awaiting (by rw [atPc]; rfl)
      rw [full, Bool.toNat_true] at awaited
      have answered := Nat.succ.inj awaited
      constructor <;> simp [ServerPc.phase, full, answered]
  | clear atPc =>
      obtain ⟨-, answered⟩ := before.answering (by rw [atPc]; rfl)
      constructor <;> simp [ServerPc.phase, answered]
  | pollEmpty => exact before
  | _ atPc => exact before.quiet (by rw [atPc]; rfl) rfl

theorem ClientCounts.step {client after : ClientState}
    {action : ClientAction} {published : List CString} {received sent : ℕ}
    (before : ClientCounts client received sent)
    (transition : ClientTransition client action after published) :
    ClientCounts after received (sent + published.length) := by
  cases transition with
  | pollFull atPc full =>
      have unanswered := before.idle (by rw [atPc]; rfl) full
      constructor <;> simp [ClientPc.phase, full, unanswered]
  | drop atPc =>
      obtain ⟨full, unanswered⟩ := before.answering (by rw [atPc]; rfl)
      constructor <;> simp [ClientPc.phase, full, unanswered]
  | publish atPc =>
      obtain ⟨full, unanswered⟩ := before.answering (by rw [atPc]; rfl)
      constructor <;> simp [ClientPc.phase, full, unanswered]
  | clear atPc =>
      have paired := before.paired
      have oneUnanswered := before.oneUnanswered
      constructor <;> simp [ClientPc.phase, paired, oneUnanswered]
  | connectFails | pollEmpty => exact before
  | _ atPc => exact before.quiet (by rw [atPc]; rfl) rfl

theorem ServerCounts.awaiting_of_lt {server : ServerState}
    {sent received : ℕ} (counts : ServerCounts server sent received)
    (outstanding : received < sent) :
    server.pc = .awaiting ∧ server.globals.rthDataReceived = false := by
  have atPc : server.pc = .awaiting := by
    cases pc : server.pc with
    | awaiting => rfl
    | reading | sending | clearing =>
        have := counts.answering (by rw [pc]; rfl)
        omega
    | again | accepting | waiting | publishing | exited | aborted =>
        have := counts.idle (by rw [pc]; rfl)
        omega
  have counted := counts.awaiting (by rw [atPc]; rfl)
  cases received : server.globals.rthDataReceived with
  | false => exact ⟨atPc, rfl⟩
  | true =>
      simp only [received, Bool.toNat_true] at counted
      omega

theorem ServerCounts.deliver {mqtt : MqttTopics} {server : ServerState}
    {chunk : List UInt8} {sent received : ℕ}
    (before : ServerCounts server sent received)
    (outstanding : received < sent) :
    ServerCounts (server.deliver mqtt (convertBinaryToHex chunk)) sent
      (received + 1) := by
  have globals := handleMessage_chunk mqtt (.inl rfl) chunk server.globals
  have atPc := (before.awaiting_of_lt outstanding).1
  have received := before.sent_le
  constructor <;> simp [ServerState.deliver, globals, atPc, ServerPc.phase]
  omega

theorem ClientCounts.deliver {mqtt : MqttTopics} {client : ClientState}
    {chunk : List UInt8} {received sent : ℕ}
    (before : ClientCounts client received sent)
    (answered : received ≤ sent) :
    ClientCounts
      (client.deliver mqtt received (convertBinaryToHex chunk))
      (received + 1) sent := by
  have globals := handleMessage_chunk mqtt (.inr rfl) chunk client.globals
  have equal : received = sent := le_antisymm answered before.paired
  have notAnswering : client.pc.phase ≠ .answering := by
    intro phase
    have := before.answering phase
    omega
  constructor <;>
    simp [ClientState.deliver, globals, equal, notAnswering,
      before.notAwaiting]

theorem ServerCounts.deliver_handshake {mqtt : MqttTopics}
    {server : ServerState} {sent received : ℕ}
    (before : ServerCounts server sent received) :
    ServerCounts (server.deliver mqtt handshakeMessage) sent received := by
  have mailbox := handleMessage_handshake mqtt mqtt.evMessage server.globals
  obtain ⟨idle, awaiting, answering, notClearing⟩ := before
  constructor <;> simpa only [ServerState.deliver, mailbox.1]

theorem ClientCounts.deliver_handshake {mqtt : MqttTopics}
    {client : ClientState} {number received sent : ℕ}
    (before : ClientCounts client received sent) :
    ClientCounts (client.deliver mqtt number handshakeMessage) received
      sent := by
  have mailbox := handleMessage_handshake mqtt mqtt.evseMessage client.globals
  obtain ⟨paired, oneUnanswered, idle, answering, clearing, notAwaiting⟩ :=
    before
  constructor <;> simpa only [ClientState.deliver, mailbox.1]

theorem StopAndWait.step {mqtt : MqttTopics} {state after : RelayState}
    {action : RelayAction} (before : StopAndWait state)
    (step : (relaySystem mqtt).step state action = some after) :
    StopAndWait after := by
  have sent := before.server.sent_le
  have paired := before.client.paired
  cases action with
  | server action =>
      obtain ⟨⟨server, published⟩, moved, rfl⟩ := Option.map_eq_some_iff.mp step
      have transition := serverTransition_of_step moved
      have hex := transition.published_hex
      refine { before with
        requestsHex := ?_, requestsQueued := ?_, server := ?_ }
      · intro message member
        exact (List.mem_append.mp member).elim (before.requestsHex message)
          (hex message)
      · have := before.requestsQueued
        simp only [List.length_append]
        omega
      · simpa only [List.length_append] using before.server.step transition
  | client action =>
      obtain ⟨⟨client, published⟩, moved, rfl⟩ := Option.map_eq_some_iff.mp step
      have transition := clientTransition_of_step moved
      have hex := transition.published_hex
      refine { before with
        responsesHex := ?_, responsesQueued := ?_, client := ?_ }
      · intro message member
        exact (List.mem_append.mp member).elim (before.responsesHex message)
          (hex message)
      · have := before.responsesQueued
        simp only [List.length_append]
        omega
      · simpa only [List.length_append] using before.client.step transition
  | deliverRequest =>
      obtain ⟨message, queued, rfl⟩ := Option.map_eq_some_iff.mp step
      obtain ⟨inQueue, rfl⟩ := List.getElem?_eq_some_iff.mp queued
      obtain ⟨chunk, hex⟩ :=
        before.requestsHex _ (List.getElem_mem inQueue)
      have delivered := before.responsesQueued
      refine { before with
        requestsQueued := inQueue
        client := ?_ }
      simp only [hex]
      exact before.client.deliver (by omega)
  | deliverResponse =>
      obtain ⟨message, queued, rfl⟩ := Option.map_eq_some_iff.mp step
      obtain ⟨inQueue, rfl⟩ := List.getElem?_eq_some_iff.mp queued
      obtain ⟨chunk, hex⟩ :=
        before.responsesHex _ (List.getElem_mem inQueue)
      have delivered := before.requestsQueued
      refine { before with
        responsesQueued := inQueue
        server := ?_ }
      simp only [hex]
      exact before.server.deliver (by omega)
  | handshakeToServer =>
      obtain rfl := Option.some.inj step
      exact { before with server := before.server.deliver_handshake }
  | handshakeToClient =>
      obtain rfl := Option.some.inj step
      exact { before with client := before.client.deliver_handshake }

/-- Every interleaving is stop-and-wait. -/
theorem relaySystem_stopAndWait {mqtt : MqttTopics} {state : RelayState}
    (reachable : (relaySystem mqtt).Reachable state) : StopAndWait state := by
  refine reachable.invariant ?_ fun before _ step => before.step step
  constructor <;> try constructor
  all_goals simp [relaySystem, initialServer, initialClient, noMessage,
    ServerPc.phase, ClientPc.phase]

/-! ## No request is lost, unless a clear erases it -/

/-- The request is still queued on the topic. -/
def RelayState.InFlight (state : RelayState) (number : ℕ) : Prop :=
  state.requestsDelivered ≤ number

/-- The request is in the mailbox of the EV-side device. -/
structure RelayState.Held (state : RelayState) (number : ℕ) : Prop where
  received : state.client.globals.rthDataReceived = true
  packet : state.requests[number]? = some state.client.globals.rthDatapacket
  packetNumber : state.client.packetNumber = number

/-- `CClient::send` has written the whole request to the socket. -/
def RelayState.Written (state : RelayState) (number : ℕ) : Prop :=
  ∃ write ∈ state.client.writes, write.number = number ∧
    state.requests[number]? = some (convertBinaryToHex write.packet) ∧
    write.accepted = write.packet.length

/-- The `CClient::send` of this round, if any, wrote the whole packet. -/
def ClientPc.sentWhole : ClientPc → Bool
  | .waiting write => write.accepted = write.packet.length
  | _ => true

/-- No request arrives between a publication of the client and its clear, and
no response is received after a `CClient::send` which did not write the whole
packet. -/
def keepsMailbox (state : RelayState) : RelayAction → Bool
  | .deliverRequest => state.client.pc ≠ .clearing
  | .client (.receive _) => state.client.pc.sentWhole
  | _ => true

/-- Every delivered request but the last has been written, and the last one is
in the mailbox until it has been written. -/
structure KeepsRequests (state : RelayState) : Prop where
  empty : state.client.globals.rthDataReceived = false →
    state.responses.length = state.requestsDelivered
  clearing : state.client.pc = .clearing →
    state.responses.length = state.requestsDelivered
  packet : 0 < state.requestsDelivered →
    state.client.packetNumber + 1 = state.requestsDelivered ∧
      state.requests[state.client.packetNumber]? =
        some state.client.globals.rthDatapacket
  sending : ∀ number packet, state.client.pc = .sending number packet →
    number + 1 = state.requestsDelivered ∧
      state.requests[number]? = some (convertBinaryToHex packet)
  waiting : ∀ write, state.client.pc = .waiting write →
    write ∈ state.client.writes ∧
      write.number + 1 = state.requestsDelivered ∧
      state.requests[write.number]? = some (convertBinaryToHex write.packet)
  publishing : ∀ chunk, state.client.pc = .publishing chunk →
    state.Written state.responses.length
  written : ∀ number < state.responses.length, state.Written number

theorem RelayState.Written.publish {state : RelayState} {number : ℕ}
    (written : state.Written number) (server : ServerState)
    (published : List CString) :
    { state with
      server := server
      requests := state.requests ++ published }.Written number := by
  obtain ⟨write, member, numberEq, packet, whole⟩ := written
  refine ⟨write, member, numberEq, ?_, whole⟩
  rwa [List.getElem?_append_left (List.getElem?_eq_some_iff.mp packet).1]

theorem KeepsRequests.server {mqtt : MqttTopics} {state after : RelayState}
    {action : ServerAction} (before : KeepsRequests state)
    (step : (relaySystem mqtt).step state (.server action) = some after) :
    KeepsRequests after := by
  obtain ⟨⟨server, published⟩, moved, rfl⟩ := Option.map_eq_some_iff.mp step
  have kept {number : ℕ} {message : CString}
      (stored : state.requests[number]? = some message) :
      (state.requests ++ published)[number]? = some message := by
    rwa [List.getElem?_append_left (List.getElem?_eq_some_iff.mp stored).1]
  refine { before with
    packet := ?_, sending := ?_, waiting := ?_, publishing := ?_,
    written := ?_ }
  · intro delivered
    obtain ⟨numberEq, stored⟩ := before.packet delivered
    exact ⟨numberEq, kept stored⟩
  · intro number packet atPc
    obtain ⟨numberEq, stored⟩ := before.sending number packet atPc
    exact ⟨numberEq, kept stored⟩
  · intro write atPc
    obtain ⟨member, numberEq, stored⟩ := before.waiting write atPc
    exact ⟨member, numberEq, kept stored⟩
  · intro chunk atPc
    exact (before.publishing chunk atPc).publish server published
  · intro number answered
    exact (before.written number answered).publish server published

theorem KeepsRequests.goto {state : RelayState} (before : KeepsRequests state)
    (pc : ClientPc)
    (elsewhere : pc.phase = .idle ∨ pc = .reading ∨ pc = .overrun) :
    KeepsRequests { state with client := { state.client with pc := pc } } where
  empty := before.empty
  clearing := by
    rintro rfl
    simp [ClientPc.phase] at elsewhere
  packet := before.packet
  sending := by
    rintro number packet rfl
    simp [ClientPc.phase] at elsewhere
  waiting := by
    rintro write rfl
    simp [ClientPc.phase] at elsewhere
  publishing := by
    rintro chunk rfl
    simp [ClientPc.phase] at elsewhere
  written := before.written

/-- The packet is read before it is sent, and it encodes a chunk, so the whole
of it is decoded. -/
theorem KeepsRequests.read {state : RelayState}
    (before : KeepsRequests state) (counts : StopAndWait state) (stale : ℕ → UInt8)
    (atPc : state.client.pc = .reading) :
    KeepsRequests { state with
      client := { state.client with
        pc := .sending state.client.packetNumber
          (convertHexToBinary state.client.globals.rthDatapacket
            stale) } } := by
  have received := (counts.client.answering (by rw [atPc]; rfl)).2
  obtain ⟨numberEq, stored⟩ := before.packet (by omega)
  obtain ⟨chunk, hex⟩ := counts.requestsHex _ (List.mem_of_getElem? stored)
  have decoded := convertHexToBinary_convertBinaryToHex chunk stale
  exact
    { empty := before.empty
      clearing := nofun
      packet := before.packet
      sending := by
        rintro number packet ⟨⟩
        rw [hex, decoded, ← hex]
        exact ⟨numberEq, stored⟩
      waiting := nofun
      publishing := nofun
      written := before.written }

theorem KeepsRequests.send {state : RelayState} (before : KeepsRequests state)
    {number : ℕ} {sent : List UInt8} (accepted : ℕ)
    (atPc : state.client.pc = .sending number sent) :
    KeepsRequests { state with
      client := { state.client with
        pc := .waiting ⟨number, sent, accepted⟩
        writes := state.client.writes ++ [⟨number, sent, accepted⟩] } } := by
  obtain ⟨numberEq, stored⟩ := before.sending number sent atPc
  exact
    { empty := before.empty
      clearing := nofun
      packet := before.packet
      sending := nofun
      waiting := by
        rintro write ⟨⟩
        exact ⟨by simp, numberEq, stored⟩
      publishing := nofun
      written := by
        intro number answered
        obtain ⟨write, member, whole⟩ := before.written number answered
        exact ⟨write, List.mem_append_left _ member, whole⟩ }

theorem KeepsRequests.receive {state : RelayState}
    (before : KeepsRequests state) (counts : StopAndWait state)
    {write : ClientWrite} (chunk : List UInt8)
    (atPc : state.client.pc = .waiting write)
    (whole : write.accepted = write.packet.length) :
    KeepsRequests { state with
      client := { state.client with pc := .publishing chunk } } := by
  have received := (counts.client.answering (by rw [atPc]; rfl)).2
  obtain ⟨member, numberEq, stored⟩ := before.waiting write atPc
  have lastWritten : state.Written state.responses.length := by
    have number : write.number = state.responses.length := by omega
    exact ⟨write, member, number, by rwa [← number], whole⟩
  exact
    { empty := before.empty
      clearing := nofun
      packet := before.packet
      sending := nofun
      waiting := nofun
      publishing := fun _ _ => lastWritten
      written := before.written }

theorem KeepsRequests.publish {state : RelayState}
    (before : KeepsRequests state) (counts : StopAndWait state)
    {chunk : List UInt8} (atPc : state.client.pc = .publishing chunk) :
    KeepsRequests { state with
      client := { state.client with pc := .clearing }
      responses := state.responses ++ [convertBinaryToHex chunk] } := by
  have received := (counts.client.answering (by rw [atPc]; rfl)).2
  have lastWritten := before.publishing chunk atPc
  have allAnswered :
      (state.responses ++ [convertBinaryToHex chunk]).length =
        state.requestsDelivered := by simp [received]
  refine
    { empty := fun _ => allAnswered
      clearing := fun _ => allAnswered
      packet := before.packet
      sending := nofun
      waiting := nofun
      publishing := nofun
      written := ?_ }
  intro number answered
  rw [allAnswered, received, Nat.lt_succ_iff_lt_or_eq] at answered
  rcases answered with earlier | rfl
  · exact before.written number earlier
  · exact lastWritten

theorem KeepsRequests.client {mqtt : MqttTopics} {state after : RelayState}
    {action : ClientAction} (counts : StopAndWait state)
    (before : KeepsRequests state)
    (keeps : keepsMailbox state (.client action))
    (step : (relaySystem mqtt).step state (.client action) = some after) :
    KeepsRequests after := by
  obtain ⟨⟨client, published⟩, moved, rfl⟩ := Option.map_eq_some_iff.mp step
  cases clientTransition_of_step moved with
  | publish atPc => exact before.publish counts atPc
  | @read stale atPc =>
      simp only [List.append_nil]
      exact before.read counts stale atPc
  | @send number accepted sent atPc taken =>
      simp only [List.append_nil]
      exact before.send accepted atPc
  | @receive write chunk atPc nonempty fits =>
      simp only [List.append_nil]
      exact before.receive counts chunk atPc
        (by simpa [keepsMailbox, atPc, ClientPc.sentWhole] using keeps)
  | clear atPc =>
      simp only [List.append_nil]
      exact { before with
        empty := fun _ => before.clearing atPc
        clearing := nofun
        sending := nofun
        waiting := nofun
        publishing := nofun }
  | connectFails | pollEmpty =>
      simp only [List.append_nil]
      exact before
  | pollFull =>
      simp only [List.append_nil]
      exact before.goto .reading (.inr (.inl rfl))
  | overrun =>
      simp only [List.append_nil]
      exact before.goto .overrun (.inr (.inr rfl))
  | _ =>
      simp only [List.append_nil]
      exact before.goto _ (.inl rfl)

theorem KeepsRequests.deliverRequest {mqtt : MqttTopics}
    {state after : RelayState} (counts : StopAndWait state)
    (before : KeepsRequests state)
    (keeps : keepsMailbox state .deliverRequest)
    (step : (relaySystem mqtt).step state .deliverRequest = some after) :
    KeepsRequests after := by
  obtain ⟨message, queued, rfl⟩ := Option.map_eq_some_iff.mp step
  obtain ⟨inQueue, rfl⟩ := List.getElem?_eq_some_iff.mp queued
  obtain ⟨chunk, hex⟩ := counts.requestsHex _ (List.getElem_mem inQueue)
  have globals :=
    handleMessage_chunk mqtt (.inr rfl) chunk state.client.globals
  have notHandshake : convertBinaryToHex chunk ≠ handshakeMessage :=
    convertBinaryToHex_ne_singleton chunk '1'
  -- a request is queued, so the client has answered all earlier ones
  have notAnswering : state.client.pc.phase ≠ .answering := by
    intro phase
    have unanswered := (counts.client.answering phase).2
    have sent := counts.server.sent_le
    have delivered := counts.responsesQueued
    omega
  have notClearing : state.client.pc ≠ .clearing := by
    simpa [keepsMailbox] using keeps
  rw [hex] at queued ⊢
  exact
    { empty := fun isEmpty => by simp [ClientState.deliver, globals] at isEmpty
      clearing := fun atPc => absurd atPc notClearing
      packet := fun _ => by
        simpa [ClientState.deliver, globals, notHandshake] using queued
      sending := fun number packet atPc =>
        absurd (congrArg ClientPc.phase atPc) notAnswering
      waiting := fun write atPc =>
        absurd (congrArg ClientPc.phase atPc) notAnswering
      publishing := fun chunk atPc =>
        absurd (congrArg ClientPc.phase atPc) notAnswering
      written := before.written }

theorem KeepsRequests.step {mqtt : MqttTopics} {state after : RelayState}
    {action : RelayAction} (counts : StopAndWait state)
    (before : KeepsRequests state) (keeps : keepsMailbox state action)
    (step : (relaySystem mqtt).step state action = some after) :
    KeepsRequests after := by
  cases action with
  | server action => exact before.server step
  | client action => exact before.client counts keeps step
  | deliverRequest => exact before.deliverRequest counts keeps step
  | deliverResponse =>
      obtain ⟨message, queued, rfl⟩ := Option.map_eq_some_iff.mp step
      exact { before with }
  | handshakeToServer =>
      obtain rfl := Option.some.inj step
      exact { before with }
  | handshakeToClient =>
      obtain rfl := Option.some.inj step
      have mailbox :=
        handleMessage_handshake mqtt mqtt.evseMessage state.client.globals
      exact { before with
        empty := by simpa only [ClientState.deliver, mailbox.1] using before.empty
        packet := by
          simpa only [ClientState.deliver, mailbox.2, if_true]
            using before.packet }

/-- In a run that keeps the mailbox, every published request is in flight, held
or written. -/
theorem relaySystem_no_request_lost (mqtt : MqttTopics) (state : RelayState)
    (reaches : (relaySystem mqtt).Reaches
      (fun state action => keepsMailbox state action) state) :
    ∀ number < state.requests.length,
      state.InFlight number ∨ state.Held number ∨ state.Written number := by
  have counts := relaySystem_stopAndWait reaches.reachable
  have keeps : KeepsRequests state := by
    refine reaches.invariant_of
      (fun earlier => relaySystem_stopAndWait earlier.reachable) ?_
      fun counts before keeps step => before.step counts keeps step
    constructor <;> simp [relaySystem, initialClient]
  intro number published
  by_cases delivered : number < state.requestsDelivered
  · right
    by_cases answered : number < state.responses.length
    · exact .inr (keeps.written number answered)
    · -- the last delivered request, which is not answered yet
      have last := counts.client.oneUnanswered
      obtain ⟨numberEq, packet⟩ := keeps.packet (by omega)
      have isLast : state.client.packetNumber = number := by omega
      rw [isLast] at packet
      refine .inl ⟨?_, packet, isLast⟩
      cases received : state.client.globals.rthDataReceived with
      | true => rfl
      | false => have := keeps.empty received; omega
  · exact .inl (Nat.le_of_not_lt delivered)

/-- One exchange, up to the publication of the second request. -/
def firstExchange : List RelayAction :=
  [.server (.create ⟨true, true, true, true⟩),
    .server (.accept ⟨true, true, true⟩), .client .restart,
    .client (.connect ⟨true, true, true, true⟩),
    .server (.receive [1]), .server .publish, .deliverRequest,
    .client .poll, .client (.read fun _ => 0), .client (.send 1),
    .client (.receive [2]), .client .publish, .deliverResponse,
    .server .poll, .server (.read fun _ => 0), .server (.send 1),
    .server .clear, .server (.receive [3]), .server .publish]

/-- The second request arrives after the clear, and is held. -/
theorem relaySystem_second_request_held :
    ∃ state, (relaySystem benchTopics).Reaches
        (fun state action => keepsMailbox state action) state ∧
      1 < state.requests.length ∧
      (state.InFlight 1 ∨ state.Held 1 ∨ state.Written 1) := by
  obtain ⟨state, reaches, published⟩ :=
    TransitionSystem.exists_reaches_of_follow
      (relaySystem benchTopics) (fun state action => keepsMailbox state action)
      (firstExchange ++ [.client .clear, .deliverRequest])
      (fun state => 1 < state.requests.length) (by decide)
  have published : 1 < state.requests.length := by simpa using published
  exact ⟨state, reaches, published,
    relaySystem_no_request_lost benchTopics state reaches 1 published⟩

/-- The second request arrives before the clear, and is lost. -/
theorem relaySystem_request_lost :
    ∃ state, (relaySystem benchTopics).Reachable state ∧
      ∃ number < state.requests.length,
        ¬ (state.InFlight number ∨ state.Held number ∨
          state.Written number) := by
  obtain ⟨state, reaches, erased⟩ :=
    TransitionSystem.exists_reaches_of_follow
      (relaySystem benchTopics) (fun _ _ => True)
      (firstExchange ++ [.deliverRequest, .client .clear])
      (fun state => 1 < state.requests.length ∧
        1 < state.requestsDelivered ∧
        state.client.globals.rthDataReceived = false ∧
        ∀ write ∈ state.client.writes, write.number ≠ 1) (by decide)
  obtain ⟨published, delivered, empty, unwritten⟩ := of_decide_eq_true erased
  refine ⟨state, reaches, 1, published, ?_⟩
  rintro (inFlight | held | written)
  · exact absurd inFlight (Nat.not_le_of_lt delivered)
  · simp [held.received] at empty
  · obtain ⟨write, member, numberEq, -⟩ := written
    exact unwritten write member numberEq

end OpenRTH
