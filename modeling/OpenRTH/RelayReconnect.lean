import OpenRTH.RelayDevices
import OpenRTH.TransitionRuns

/-!
# Reconnecting clients

The EV-side device with arbitrary deliveries and arbitrary disconnections.
`handle_message` is taken apart into its two assignments, which the MQTT thread
makes one after the other.  A `break` after a send leaves the flag set, so the
packet is sent again over the next connection.
-/

namespace OpenRTH

/-- A call of `handle_message` between its two assignments; `foundFull` records
whether `rth_data_received` was set already. -/
structure Handling where
  number : ℕ
  message : CString
  foundFull : Bool

/-- The device, the call of `handle_message` in progress and the number of
requests delivered so far. -/
structure ReconnectState where
  client : ClientState
  handling : Option Handling
  deliveries : ℕ

inductive ReconnectAction
  | client (action : ClientAction)
  | handshake
  | setFlag (message : CString)
  | setPacket

/-- The two assignments of `handle_message` to the mailbox. -/
def MessageGlobals.setFlag (globals : MessageGlobals) : MessageGlobals :=
  { globals with rthDataReceived := true }

def MessageGlobals.setPacket (message : CString) (globals : MessageGlobals) :
    MessageGlobals :=
  { globals with rthDatapacket := message }

/-- The EV-side device, whose requests are numbered from 1. -/
def reconnectSystem (mqtt : MqttTopics) :
    TransitionSystem ReconnectState ReconnectAction where
  initial := ⟨⟨.again, ⟨false, [], .noHandshake⟩, 0, []⟩, none, 0⟩
  step state
    | .client action =>
        (clientStep state.client action).map fun (client, _) =>
          { state with client := client }
    | .handshake =>
        if state.handling.isSome then none
        else some { state with
          client := { state.client with
            globals := handleMessage mqtt mqtt.evseMessage handshakeMessage
              state.client.globals } }
    | .setFlag message =>
        if state.handling.isSome ∨ message = handshakeMessage then none
        else some { state with
          client := { state.client with
            globals := state.client.globals.setFlag }
          handling := some ⟨state.deliveries + 1, message,
            state.client.globals.rthDataReceived⟩
          deliveries := state.deliveries + 1 }
    | .setPacket =>
        state.handling.map fun call =>
          { state with
            client := { state.client with
              globals := state.client.globals.setPacket call.message
              packetNumber := call.number }
            handling := none }

/-- The two assignments are what `handle_message` does with a message on either
topic that is not a handshake. -/
theorem handleMessage_eq_assignments {mqtt : MqttTopics} {topic : CString}
    (known : topic = mqtt.evMessage ∨ topic = mqtt.evseMessage)
    {message : CString} (request : message ≠ handshakeMessage)
    (globals : MessageGlobals) :
    handleMessage mqtt topic message globals =
      globals.setFlag.setPacket message := by
  simp only [handleMessage, if_neg request]
  rcases known with rfl | rfl
  · rw [if_pos rfl]
    rfl
  · simp only [if_true]
    split_ifs <;> rfl

/-- The requests of which some byte has been written, once for each call of
`CClient::send`. -/
def sentNumbers (writes : List ClientWrite) : List ℕ :=
  (writes.filter fun write => 0 < write.accepted).map (·.number)

theorem sentNumbers_append (writes : List ClientWrite) (write : ClientWrite) :
    sentNumbers (writes ++ [write]) =
      sentNumbers writes ++ if 0 < write.accepted then [write.number] else [] := by
  unfold sentNumbers
  rw [List.filter_append, List.map_append, List.filter_singleton]
  split_ifs <;> simp_all

/-- The client is not between reading a packet and clearing the flag. -/
def ClientPc.betweenRounds : ClientPc → Bool
  | .again | .connecting | .polling | .reading | .exited | .aborted => true
  | _ => false

/-- The connection is not dropped in a round that has put bytes on it, and the
packet is not read while a call of `handle_message` which found the flag clear
has yet to write it. -/
def sendsOnce (state : ReconnectState) : ReconnectAction → Bool
  | .client .drop =>
      match state.client.pc with
      | .waiting write => write.accepted = 0
      | _ => true
  | .client (.read _) => state.handling.all (·.foundFull)
  | _ => true

/-- No request is written twice, and a packet that will be read is not written
yet. -/
structure WritesOnce (state : ReconnectState) : Prop where
  once : (sentNumbers state.client.writes).Nodup
  old : ∀ number ∈ sentNumbers state.client.writes, number ≤ state.client.packetNumber
  numbered : state.client.packetNumber ≤ state.deliveries
  handling : ∀ call ∈ state.handling,
    state.client.packetNumber < call.number ∧ call.number ≤ state.deliveries
  reading : state.client.pc = .reading →
    state.client.globals.rthDataReceived = true
  pending : state.client.pc.betweenRounds →
    state.client.globals.rthDataReceived = true →
      state.handling.all (·.foundFull) →
        state.client.packetNumber ∉ sentNumbers state.client.writes
  sending : ∀ number packet, state.client.pc = .sending number packet →
    number ≤ state.client.packetNumber ∧ number ∉ sentNumbers state.client.writes ∧
      state.client.packetNumber ∉ sentNumbers state.client.writes
  waiting : ∀ write, state.client.pc = .waiting write →
    write.accepted = 0 →
      state.client.packetNumber ∉ sentNumbers state.client.writes

theorem WritesOnce.goto {state : ReconnectState} (before : WritesOnce state)
    (pc : ClientPc)
    (full : pc = .reading → state.client.globals.rthDataReceived = true)
    (between : pc.betweenRounds → state.client.pc.betweenRounds)
    (notSending : ∀ number packet, pc ≠ .sending number packet)
    (notWaiting : ∀ write, pc ≠ .waiting write) :
    WritesOnce { state with client := { state.client with pc := pc } } :=
  { before with
    reading := full
    pending := fun now => before.pending (between now)
    sending := fun number packet atPc =>
      absurd atPc (notSending number packet)
    waiting := fun write atPc => absurd atPc (notWaiting write) }

/-- A write is recorded under its number if it has put bytes on the
connection. -/
theorem WritesOnce.send {state : ReconnectState} (before : WritesOnce state)
    {number : ℕ} {packet : List UInt8} (accepted : ℕ)
    (atPc : state.client.pc = .sending number packet) :
    WritesOnce { state with
      client := { state.client with
        pc := .waiting ⟨number, packet, accepted⟩
        writes := state.client.writes ++ [⟨number, packet, accepted⟩] } } := by
  obtain ⟨notNewer, unsent, packetUnsent⟩ :=
    before.sending number packet atPc
  have sent := sentNumbers_append state.client.writes
    ⟨number, packet, accepted⟩
  by_cases put : 0 < accepted
  · rw [if_pos put] at sent
    refine
      { once := ?_
        old := ?_
        numbered := before.numbered
        handling := before.handling
        reading := nofun
        pending := nofun
        sending := nofun
        waiting := ?_ }
    · rw [sent, List.nodup_append]
      refine ⟨before.once, List.nodup_cons.mpr ⟨nofun, .nil⟩, ?_⟩
      rintro other earlier _ last rfl
      rw [List.mem_singleton.mp last] at earlier
      exact unsent earlier
    · intro other member
      rw [sent, List.mem_append, List.mem_singleton] at member
      rcases member with earlier | rfl
      · exact before.old other earlier
      · exact notNewer
    · rintro write ⟨⟩ nothing
      exact absurd put (Nat.not_lt.mpr nothing.le)
  · -- nothing is on the connection, which may still be dropped
    rw [if_neg put, List.append_nil] at sent
    exact
      { once := by rw [sent]; exact before.once
        old := by rw [sent]; exact before.old
        numbered := before.numbered
        handling := before.handling
        reading := nofun
        pending := nofun
        sending := nofun
        waiting := fun _ _ _ => by rw [sent]; exact packetUnsent }

theorem WritesOnce.client {mqtt : MqttTopics} {state after : ReconnectState}
    {action : ClientAction} (before : WritesOnce state)
    (once : sendsOnce state (.client action))
    (step : (reconnectSystem mqtt).step state (.client action) =
      some after) :
    WritesOnce after := by
  obtain ⟨⟨client, published⟩, moved, rfl⟩ := Option.map_eq_some_iff.mp step
  cases clientTransition_of_step moved with
  | connectFails | pollEmpty => exact before
  | pollFull atPc full =>
      exact before.goto .reading (fun _ => full)
        (fun _ => by rw [atPc]; rfl) nofun nofun
  | read atPc =>
      have unsent := before.pending (by rw [atPc]; rfl) (before.reading atPc)
        once
      exact { before with
        reading := nofun
        pending := nofun
        sending := by
          rintro number packet ⟨⟩
          exact ⟨le_rfl, unsent, unsent⟩
        waiting := nofun }
  | @send number accepted packet atPc taken => exact before.send accepted atPc
  | @drop write atPc =>
      have nothing : write.accepted = 0 := by
        simpa [sendsOnce, atPc] using once
      exact { before with
        reading := nofun
        pending := fun _ _ _ => before.waiting write atPc nothing
        sending := nofun
        waiting := nofun }
  | clear =>
      exact { before with
        reading := nofun
        pending := nofun
        sending := nofun
        waiting := nofun }
  | overrun | receive | publish =>
      exact before.goto _ nofun nofun nofun nofun
  | _ atPc =>
      exact before.goto _ nofun (fun _ => by rw [atPc]; rfl) nofun nofun

theorem WritesOnce.step {mqtt : MqttTopics} {state after : ReconnectState}
    {action : ReconnectAction} (before : WritesOnce state)
    (once : sendsOnce state action)
    (step : (reconnectSystem mqtt).step state action = some after) :
    WritesOnce after := by
  cases action with
  | client action => exact before.client once step
  | handshake =>
      simp only [reconnectSystem] at step
      split_ifs at step with busy
      obtain rfl := Option.some.inj step
      have mailbox :=
        handleMessage_handshake mqtt mqtt.evseMessage state.client.globals
      exact { before with
        reading := by simpa only [mailbox.1] using before.reading
        pending := by simpa only [mailbox.1] using before.pending }
  | setFlag message =>
      simp only [reconnectSystem] at step
      split_ifs at step with busy
      obtain rfl := Option.some.inj step
      have free : state.handling = none := by simpa using (not_or.mp busy).1
      have numbered := before.numbered
      refine { before with
        numbered := by simp only; omega
        handling := ?_, reading := fun _ => rfl, pending := ?_ }
      · rintro call ⟨⟩
        exact ⟨by simp only; omega, le_refl _⟩
      · intro between _ foundFull
        exact before.pending between (by simpa using foundFull)
          (by simp [free])
  | setPacket =>
      obtain ⟨call, handling, rfl⟩ := Option.map_eq_some_iff.mp step
      obtain ⟨newer, numbered⟩ := before.handling call handling
      -- the number of this call is newer than everything written
      have unsent : call.number ∉ sentNumbers state.client.writes := by
        intro sent
        have := before.old call.number sent
        omega
      exact { before with
        old := fun number sent =>
          (before.old number sent).trans newer.le
        numbered := numbered
        handling := nofun
        pending := fun _ _ _ => unsent
        sending := fun number packet atPc => by
          obtain ⟨notNewer, numberUnsent, -⟩ :=
            before.sending number packet atPc
          exact ⟨notNewer.trans newer.le, numberUnsent, unsent⟩
        waiting := fun _ _ _ => unsent }

/-- In a run that sends once, no request is written to the TCP connections more
than once. -/
theorem reconnectSystem_written_once (mqtt : MqttTopics)
    (state : ReconnectState)
    (reaches : (reconnectSystem mqtt).Reaches
      (fun state action => sendsOnce state action) state) :
    (sentNumbers state.client.writes).Nodup := by
  have once : WritesOnce state := by
    refine reaches.invariant ?_ fun before once step => before.step once step
    constructor <;> simp [reconnectSystem, sentNumbers]
  exact once.once

/-- One request is delivered and sent, of which the socket takes the given
number of bytes; then the connection is dropped and the request is sent
again. -/
def sendAndResend (accepted : ℕ) : List ReconnectAction :=
  [.setFlag ['0', '1'], .setPacket, .client .restart,
    .client (.connect ⟨true, true, true, true⟩), .client .poll,
    .client (.read fun _ => 0), .client (.send accepted), .client .drop,
    .client .restart, .client (.connect ⟨true, true, true, true⟩),
    .client .poll, .client (.read fun _ => 0), .client (.send 1)]

/-- A request of which nothing was taken before the drop is written once. -/
theorem reconnectSystem_resent_written_once :
    ∃ state, (reconnectSystem ⟨['e', 'v'], ['s', 'e']⟩).Reaches
        (fun state action => sendsOnce state action) state ∧
      1 ∈ sentNumbers state.client.writes ∧
      (sentNumbers state.client.writes).Nodup := by
  obtain ⟨state, reaches, sent⟩ :=
    TransitionSystem.exists_reaches_of_follow
      (reconnectSystem ⟨['e', 'v'], ['s', 'e']⟩)
      (fun state action => sendsOnce state action) (sendAndResend 0)
      (fun state => 1 ∈ sentNumbers state.client.writes) (by decide)
  exact ⟨state, reaches, of_decide_eq_true sent,
    reconnectSystem_written_once _ state reaches⟩

/-- A request that was taken before the drop is written a second time. -/
theorem reconnectSystem_written_twice :
    ∃ state, (reconnectSystem ⟨['e', 'v'], ['s', 'e']⟩).Reachable state ∧
      ¬ (sentNumbers state.client.writes).Nodup := by
  obtain ⟨state, reaches, twice⟩ :=
    TransitionSystem.exists_reaches_of_follow
      (reconnectSystem ⟨['e', 'v'], ['s', 'e']⟩) (fun _ _ => True)
      (sendAndResend 1)
      (fun state => ¬ (sentNumbers state.client.writes).Nodup) (by decide)
  exact ⟨state, reaches, of_decide_eq_true twice⟩

end OpenRTH
