import OpenRTH.RelayDelivery

/-!
# Which connection is answered

The relay of the two devices, with a record of the connection that each
published chunk was read from.  The server task answers a chunk at most once,
before it publishes the next one, and on the connection the chunk came from:
it looks at no other connection until it has written the answer.
-/

namespace OpenRTH

/-- The relay with the connection of the chunk read last, and the connections
that the published chunks were read from. -/
structure TracedRelay where
  relay : RelayState
  readFrom : ℕ
  origins : List ℕ

/-- The relay, recording the connection at each read and each publication. -/
def tracedRelay (mqtt : MqttTopics) :
    TransitionSystem TracedRelay RelayAction where
  initial := ⟨(relaySystem mqtt).initial, 0, []⟩
  step state action :=
    ((relaySystem mqtt).step state.relay action).map fun relay =>
      { relay := relay
        readFrom := match action with
          | .server (.receive _) => state.relay.server.connection
          | _ => state.readFrom
        origins := match action with
          | .server .publish => state.origins ++ [state.readFrom]
          | _ => state.origins }

/-- A chunk has been published, and its answer has not been written yet. -/
def ServerPc.unanswered : ServerPc → Bool
  | .awaiting | .reading | .sending _ => true
  | _ => false

/-- A chunk has been read, and its answer has not been written yet. -/
def ServerPc.serving : ServerPc → Bool
  | .publishing _ | .awaiting | .reading | .sending _ => true
  | _ => false

/-- The writes answer the published chunks one by one. -/
structure AnsweredInTurn (state : TracedRelay) : Prop where
  published : state.relay.requests.length =
    state.relay.server.writes.length +
      state.relay.server.pc.unanswered.toNat
  recorded : state.origins.length = state.relay.requests.length
  serving : state.relay.server.pc.serving →
    state.readFrom = state.relay.server.connection
  unanswered : state.relay.server.pc.unanswered →
    state.origins[state.relay.server.writes.length]? =
      some state.relay.server.connection
  mailbox : ∀ number, state.relay.responsesDelivered = number + 1 →
    state.relay.responses[number]? =
      some state.relay.server.globals.rthDatapacket
  sending : ∀ packet, state.relay.server.pc = .sending packet →
    state.relay.responses[state.relay.server.writes.length]? =
      some (convertBinaryToHex packet)
  answered : ∀ (number : ℕ) (write : ServerWrite),
    state.relay.server.writes[number]? = some write →
      state.origins[number]? = some write.connection ∧
        state.relay.responses[number]? =
          some (convertBinaryToHex write.packet)

/-- A step that neither publishes nor writes. -/
theorem AnsweredInTurn.quiet {state : TracedRelay} {server : ServerState}
    {readFrom : ℕ} (before : AnsweredInTurn state)
    (sameWrites : server.writes = state.relay.server.writes)
    (samePacket : server.globals.rthDatapacket =
      state.relay.server.globals.rthDatapacket)
    (same : server.pc.unanswered = state.relay.server.pc.unanswered)
    (connected : server.pc.serving → readFrom = server.connection)
    (stays : server.pc.unanswered →
      server.connection = state.relay.server.connection)
    (notSending : ∀ packet, server.pc ≠ .sending packet) :
    AnsweredInTurn
      ⟨{ state.relay with server := server }, readFrom, state.origins⟩ where
  published := by
    rw [sameWrites, same]
    exact before.published
  recorded := before.recorded
  serving := connected
  unanswered now := by
    rw [sameWrites, stays now]
    exact before.unanswered (same ▸ now)
  mailbox := by
    rw [samePacket]
    exact before.mailbox
  sending packet atPc := absurd atPc (notSending packet)
  answered := by
    rw [sameWrites]
    exact before.answered

/-- What the server task does keeps the answers in turn. -/
theorem AnsweredInTurn.server {mqtt : MqttTopics}
    {state after : TracedRelay} {action : ServerAction}
    (counts : StopAndWait state.relay) (before : AnsweredInTurn state)
    (step : (tracedRelay mqtt).step state (.server action) = some after) :
    AnsweredInTurn after := by
  obtain ⟨relay, relayStep, rfl⟩ := Option.map_eq_some_iff.mp step
  obtain ⟨⟨server, chunks⟩, moved, rfl⟩ :=
    Option.map_eq_some_iff.mp relayStep
  obtain ⟨published, recorded, serving, unanswered, mailbox, sending,
    answered⟩ := id before
  cases serverTransition_of_step moved with
  | @publish chunk atPc =>
      have sameConnection := serving (by rw [atPc]; rfl)
      have allAnswered : state.origins.length =
          state.relay.server.writes.length := by
        simpa [atPc, ServerPc.unanswered, published] using recorded
      exact
        { published := by
            simp [published, atPc, ServerPc.unanswered]
          recorded := by simp [recorded]
          serving := fun _ => sameConnection
          unanswered := fun _ => by
            simp [← allAnswered, sameConnection]
          mailbox := mailbox
          sending := nofun
          answered := by
            intro number write written
            obtain ⟨origin, response⟩ := answered number write written
            have earlier := (List.getElem?_eq_some_iff.mp origin).1
            exact ⟨by rwa [List.getElem?_append_left earlier], response⟩ }
  | @read stale atPc =>
      -- the response in the mailbox answers the last published chunk
      have delivered := (counts.server.answering (by rw [atPc]; rfl)).2
      simp only [atPc, ServerPc.unanswered, Bool.toNat_true] at published
      have response := mailbox state.relay.server.writes.length (by omega)
      obtain ⟨chunk, hex⟩ :=
        counts.responsesHex _ (List.mem_of_getElem? response)
      have decoded := convertHexToBinary_convertBinaryToHex chunk stale
      exact
        { published := by simpa [ServerPc.unanswered] using published
          recorded := by simpa using recorded
          serving := fun _ => serving (by rw [atPc]; rfl)
          unanswered := fun _ => unanswered (by rw [atPc]; rfl)
          mailbox := mailbox
          sending := by
            intro packet sent
            obtain rfl := ServerPc.sending.inj sent
            rw [response, hex, decoded]
          answered := answered }
  | @send accepted packet atPc taken =>
      have origin := unanswered (by rw [atPc]; rfl)
      have response := sending packet atPc
      exact
        { published := by
            simpa [atPc, ServerPc.unanswered] using published
          recorded := by simpa using recorded
          serving := nofun
          unanswered := nofun
          mailbox := mailbox
          sending := nofun
          answered := by
            intro number write written
            rw [List.getElem?_append] at written
            split_ifs at written with earlier
            · exact answered number write written
            · -- the write of this step
              obtain ⟨inRange, rfl⟩ := List.getElem?_eq_some_iff.mp written
              have last : number = state.relay.server.writes.length := by
                simp only [List.length_singleton] at inRange
                omega
              subst last
              simpa using ⟨origin, response⟩ }
  | receive atPc =>
      simp only [List.append_nil]
      exact before.quiet rfl rfl (by rw [atPc]; rfl) (fun _ => rfl) nofun nofun
  | pollEmpty atPc =>
      simp only [List.append_nil]
      exact before
  | pollFull atPc =>
      simp only [List.append_nil]
      exact before.quiet rfl rfl (by rw [atPc]; rfl)
        (fun _ => serving (by rw [atPc]; rfl)) (fun _ => rfl) nofun
  | _ atPc =>
      simp only [List.append_nil]
      exact before.quiet rfl rfl (by rw [atPc]; rfl) nofun nofun nofun

theorem AnsweredInTurn.step {mqtt : MqttTopics} {state after : TracedRelay}
    {action : RelayAction} (counts : StopAndWait state.relay)
    (before : AnsweredInTurn state)
    (step : (tracedRelay mqtt).step state action = some after) :
    AnsweredInTurn after := by
  cases action with
  | server action => exact before.server counts step
  | client action =>
      obtain ⟨relay, relayStep, rfl⟩ := Option.map_eq_some_iff.mp step
      obtain ⟨⟨client, chunks⟩, moved, rfl⟩ :=
        Option.map_eq_some_iff.mp relayStep
      have kept {number : ℕ} {message : CString}
          (stored : state.relay.responses[number]? = some message) :
          (state.relay.responses ++ chunks)[number]? = some message := by
        rwa [List.getElem?_append_left
          (List.getElem?_eq_some_iff.mp stored).1]
      exact { before with
        mailbox := fun number last => kept (before.mailbox number last)
        sending := fun packet atPc => kept (before.sending packet atPc)
        answered := fun number write written =>
          (before.answered number write written).imp_right kept }
  | deliverRequest =>
      obtain ⟨relay, relayStep, rfl⟩ := Option.map_eq_some_iff.mp step
      obtain ⟨message, queued, rfl⟩ := Option.map_eq_some_iff.mp relayStep
      exact { before with }
  | deliverResponse =>
      obtain ⟨relay, relayStep, rfl⟩ := Option.map_eq_some_iff.mp step
      obtain ⟨message, queued, rfl⟩ := Option.map_eq_some_iff.mp relayStep
      obtain ⟨chunk, hex⟩ :=
        counts.responsesHex _ (List.mem_of_getElem? queued)
      have globals :=
        handleMessage_chunk mqtt (.inl rfl) chunk state.relay.server.globals
      refine { before with mailbox := ?_ }
      intro number last
      obtain rfl := Nat.succ.inj last
      simpa [ServerState.deliver, hex, globals] using queued
  | handshakeToServer =>
      obtain rfl := Option.some.inj step
      have mailbox := handleMessage_handshake mqtt mqtt.evMessage
        state.relay.server.globals
      refine { before with mailbox := ?_ }
      simpa only [ServerState.deliver, mailbox.2] using before.mailbox
  | handshakeToClient =>
      obtain rfl := Option.some.inj step
      exact { before with }

theorem tracedRelay_reachable_relay {mqtt : MqttTopics}
    {state : TracedRelay} (reachable : (tracedRelay mqtt).Reachable state) :
    (relaySystem mqtt).Reachable state.relay := by
  induction reachable with
  | start => exact .start
  | next _ _ step ih =>
      obtain ⟨relay, relayStep, rfl⟩ := Option.map_eq_some_iff.mp step
      exact .next ih trivial relayStep

theorem tracedRelay_answeredInTurn {mqtt : MqttTopics}
    {state : TracedRelay} (reachable : (tracedRelay mqtt).Reachable state) :
    AnsweredInTurn state := by
  refine reachable.invariant_of
    (fun earlier =>
      relaySystem_stopAndWait (tracedRelay_reachable_relay earlier)) ?_
    fun counts before _ step => before.step counts step
  constructor <;>
    simp [tracedRelay, relaySystem, initialServer, ServerPc.unanswered,
      ServerPc.serving]

/-- At every time at most one published chunk is unanswered, and the write
number `number` is the answer to the chunk with this number: it is the only
write between this publication and the next one, and it goes to the connection
that the chunk was read from. -/
theorem tracedRelay_answers_connection (mqtt : MqttTopics)
    (state : TracedRelay) (reachable : (tracedRelay mqtt).Reachable state) :
    state.relay.server.writes.length ≤ state.relay.requests.length ∧
      state.relay.requests.length ≤
        state.relay.server.writes.length + 1 ∧
      state.origins.length = state.relay.requests.length ∧
      ∀ (number : ℕ) (write : ServerWrite),
        state.relay.server.writes[number]? = some write →
          state.origins[number]? = some write.connection ∧
            state.relay.responses[number]? =
              some (convertBinaryToHex write.packet) := by
  have inTurn := tracedRelay_answeredInTurn reachable
  have published := inTurn.published
  have atMostOne := Bool.toNat_le state.relay.server.pc.unanswered
  exact ⟨by omega, by omega, inTurn.recorded, inTurn.answered⟩

/-- The EV drops its connection while its request is unanswered; the answer
still goes to that connection, and the next connection is served after it. -/
theorem tracedRelay_answers_dropped_connection :
    ∃ state, (tracedRelay benchTopics).Reachable state ∧
      state.relay.server.connection = 2 ∧
      state.relay.server.writes.length = 1 ∧
      ∀ (number : ℕ) (write : ServerWrite),
        state.relay.server.writes[number]? = some write →
          state.origins[number]? = some write.connection := by
  obtain ⟨state, reaches, found⟩ :=
    TransitionSystem.exists_reaches_of_follow (tracedRelay benchTopics)
      (fun _ _ => True)
      ([.server (.create ⟨true, true, true, true⟩),
        .server (.accept ⟨true, true, true⟩), .client .restart,
        .client (.connect ⟨true, true, true, true⟩),
        .server (.receive [1]), .server .publish, .deliverRequest,
        .client .poll, .client (.read fun _ => 0), .client (.send 1),
        .client (.receive [2]), .client .publish, .deliverResponse,
        .server .poll, .server (.read fun _ => 0), .server (.send 0),
        .server .clear, .server .drop,
        .server (.create ⟨true, true, true, true⟩),
        .server (.accept ⟨true, true, true⟩)])
      (fun state => state.relay.server.connection = 2 ∧
        state.relay.server.writes.length = 1) (by decide)
  obtain ⟨connection, written⟩ := of_decide_eq_true found
  refine ⟨state, reaches, connection, written, ?_⟩
  intro number write inWrites
  have answers := tracedRelay_answers_connection benchTopics state reaches
  exact (answers.2.2.2 number write inWrites).1

end OpenRTH
