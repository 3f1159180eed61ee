import OpenRTH.RelayReconnect

/-!
# The mailbox between the threads

A relay task and the MQTT thread share `rth_data_received` and `rth_datapacket`.
The MQTT thread sets the flag first and stores the packet after it, so a task
that polls between the two assignments finds the flag with an earlier packet.
-/

namespace OpenRTH

/-- A relay task as the MQTT thread sees it: a machine on the shared globals
that only clears the flag and that reads the packet when the flag is set. -/
structure RelayTask (Task Action : Type) where
  initial : Task
  step : Task → Action → Option Task
  globals : Task → MessageGlobals
  setGlobals : MessageGlobals → Task → Task
  reading : Task → Bool
  startsEmpty : (globals initial).rthDataReceived = false
  startsIdle : reading initial = false
  globals_setGlobals : ∀ shared task, globals (setGlobals shared task) = shared
  reading_setGlobals : ∀ shared task,
    reading (setGlobals shared task) = reading task
  keepsPacket : ∀ {task action after}, step task action = some after →
    (globals after).rthDatapacket = (globals task).rthDatapacket
  onlyClears : ∀ {task action after}, step task action = some after →
    (globals after).rthDataReceived → (globals task).rthDataReceived
  readsFull : ∀ {task action after}, step task action = some after →
    reading after → (globals after).rthDataReceived

def ServerPc.isReading : ServerPc → Bool
  | .reading => true
  | _ => false

def ClientPc.isReading : ClientPc → Bool
  | .reading => true
  | _ => false

/-- `CServer::task`. -/
def serverTask : RelayTask ServerState ServerAction where
  initial := ⟨.again, ⟨false, [], .noHandshake⟩, 0, []⟩
  step task action := (serverStep task action).map (·.1)
  globals := ServerState.globals
  setGlobals shared task := { task with globals := shared }
  reading task := task.pc.isReading
  startsEmpty := rfl
  startsIdle := rfl
  globals_setGlobals _ _ := rfl
  reading_setGlobals _ _ := rfl
  keepsPacket step := by
    obtain ⟨⟨after, published⟩, moved, rfl⟩ := Option.map_eq_some_iff.mp step
    cases serverTransition_of_step moved <;> rfl
  onlyClears step := by
    obtain ⟨⟨after, published⟩, moved, rfl⟩ := Option.map_eq_some_iff.mp step
    cases serverTransition_of_step moved <;> simp
  readsFull step := by
    obtain ⟨⟨after, published⟩, moved, rfl⟩ := Option.map_eq_some_iff.mp step
    cases serverTransition_of_step moved <;> simp_all [ServerPc.isReading]

/-- `CClient::task`. -/
def clientTask : RelayTask ClientState ClientAction where
  initial := ⟨.again, ⟨false, [], .noHandshake⟩, 0, []⟩
  step task action := (clientStep task action).map (·.1)
  globals := ClientState.globals
  setGlobals shared task := { task with globals := shared }
  reading task := task.pc.isReading
  startsEmpty := rfl
  startsIdle := rfl
  globals_setGlobals _ _ := rfl
  reading_setGlobals _ _ := rfl
  keepsPacket step := by
    obtain ⟨⟨after, published⟩, moved, rfl⟩ := Option.map_eq_some_iff.mp step
    cases clientTransition_of_step moved <;> rfl
  onlyClears step := by
    obtain ⟨⟨after, published⟩, moved, rfl⟩ := Option.map_eq_some_iff.mp step
    cases clientTransition_of_step moved <;> simp
  readsFull step := by
    obtain ⟨⟨after, published⟩, moved, rfl⟩ := Option.map_eq_some_iff.mp step
    cases clientTransition_of_step moved <;> simp_all [ClientPc.isReading]

/-- A task, the message of a call of `handle_message` that stands between its
two assignments, the messages whose delivery has set the flag, and how many of
them have been stored. -/
structure MailboxState (Task : Type) where
  task : Task
  pending : Option CString
  flagged : List CString
  stored : ℕ

inductive MailboxAction (Action : Type)
  | task (action : Action)
  | handshake (topic : CString)
  | setFlag (message : CString)
  | setPacket

variable {Task Action : Type}

/-- The task and the MQTT thread, one access to a shared variable at a time. -/
def mailboxSystem (mqtt : MqttTopics) (relay : RelayTask Task Action) :
    TransitionSystem (MailboxState Task) (MailboxAction Action) where
  initial := ⟨relay.initial, none, [], 0⟩
  step state
    | .task action =>
        (relay.step state.task action).map fun task =>
          { state with task := task }
    | .handshake topic =>
        if state.pending.isSome then none
        else some { state with
          task := relay.setGlobals
            (handleMessage mqtt topic handshakeMessage
              (relay.globals state.task)) state.task }
    | .setFlag message =>
        if state.pending.isSome ∨ message = handshakeMessage then none
        else some { state with
          task := relay.setGlobals (relay.globals state.task).setFlag state.task
          pending := some message
          flagged := state.flagged ++ [message] }
    | .setPacket =>
        state.pending.map fun message =>
          { state with
            task := relay.setGlobals
              ((relay.globals state.task).setPacket message) state.task
            pending := none
            stored := state.stored + 1 }

/-- The packet that the task reads is the last message whose delivery has set
the flag. -/
structure ReadsLatest (relay : RelayTask Task Action)
    (state : MailboxState Task) : Prop where
  stored : state.stored = state.flagged.length
  packet : state.flagged.getLast? =
    some (relay.globals state.task).rthDatapacket

/-- The packet is the message stored last, and only the message of a call
between its assignments has not been stored. -/
structure MailboxOrder (relay : RelayTask Task Action)
    (state : MailboxState Task) : Prop where
  packet : ∀ number, state.stored = number + 1 →
    state.flagged[number]? = some (relay.globals state.task).rthDatapacket
  idle : state.pending = none → state.stored = state.flagged.length
  pending : ∀ message, state.pending = some message →
    state.flagged.length = state.stored + 1 ∧
      state.flagged[state.stored]? = some message
  full : (relay.globals state.task).rthDataReceived → state.flagged ≠ []
  reading : relay.reading state.task →
    (relay.globals state.task).rthDataReceived

theorem MailboxOrder.step {mqtt : MqttTopics} {relay : RelayTask Task Action}
    {state after : MailboxState Task} {action : MailboxAction Action}
    (before : MailboxOrder relay state)
    (step : (mailboxSystem mqtt relay).step state action = some after) :
    MailboxOrder relay after := by
  cases action with
  | task action =>
      obtain ⟨task, moved, rfl⟩ := Option.map_eq_some_iff.mp step
      exact { before with
        packet := by simpa only [relay.keepsPacket moved] using before.packet
        full := fun received => before.full (relay.onlyClears moved received)
        reading := relay.readsFull moved }
  | handshake topic =>
      simp only [mailboxSystem] at step
      split_ifs at step with busy
      obtain rfl := Option.some.inj step
      have mailbox :=
        handleMessage_handshake mqtt topic (relay.globals state.task)
      exact { before with
        packet := by
          simpa only [relay.globals_setGlobals, mailbox.2] using before.packet
        full := by
          simpa only [relay.globals_setGlobals, mailbox.1] using before.full
        reading := by
          simpa only [relay.globals_setGlobals, relay.reading_setGlobals,
            mailbox.1] using before.reading }
  | setFlag message =>
      simp only [mailboxSystem] at step
      split_ifs at step with busy
      obtain rfl := Option.some.inj step
      have free : state.pending = none := by simpa using (not_or.mp busy).1
      have allStored := before.idle free
      refine ⟨?_, nofun, ?_, by simp, ?_⟩
      · intro number last
        have earlier := before.packet number last
        rw [List.getElem?_append_left (List.getElem?_eq_some_iff.mp earlier).1,
          earlier, relay.globals_setGlobals]
        rfl
      · rintro other ⟨⟩
        simp [allStored]
      · intro reading
        rw [relay.globals_setGlobals]
        rfl
  | setPacket =>
      obtain ⟨message, pending, rfl⟩ := Option.map_eq_some_iff.mp step
      obtain ⟨length, last⟩ := before.pending message pending
      refine ⟨?_, fun _ => length.symm, nofun, ?_, ?_⟩
      · intro number isLast
        obtain rfl := Nat.succ.inj isLast
        rw [relay.globals_setGlobals]
        exact last
      · simpa only [relay.globals_setGlobals, MessageGlobals.setPacket]
          using before.full
      · simpa only [relay.globals_setGlobals, relay.reading_setGlobals,
          MessageGlobals.setPacket] using before.reading

theorem mailboxOrder_of_reachable {mqtt : MqttTopics}
    {relay : RelayTask Task Action} {state : MailboxState Task}
    (reachable : (mailboxSystem mqtt relay).Reachable state) :
    MailboxOrder relay state := by
  refine reachable.invariant ?_ fun before _ step => before.step step
  constructor <;>
    simp [mailboxSystem, relay.startsEmpty, relay.startsIdle]

/-- A task that reads the packet gets the last message whose delivery has set
the flag exactly when no call of `handle_message` stands between its two
assignments. -/
theorem readsLatest_iff {mqtt : MqttTopics} {relay : RelayTask Task Action}
    {state : MailboxState Task}
    (reachable : (mailboxSystem mqtt relay).Reachable state)
    (reading : relay.reading state.task) :
    ReadsLatest relay state ↔ state.pending = none := by
  have order := mailboxOrder_of_reachable reachable
  apply Iff.intro
  · intro latest
    cases pending : state.pending with
    | none => rfl
    | some message =>
        have length := (order.pending message pending).1
        have stored := latest.stored
        omega
  · intro idle
    have stored := order.idle idle
    have nonempty := order.full (order.reading reading)
    have positive := List.length_pos_iff.mpr nonempty
    refine ⟨stored, ?_⟩
    rw [List.getLast?_eq_getElem?]
    exact order.packet _ (by omega)

/-- The same of both relay tasks, wherever they read `rth_datapacket`. -/
theorem relayTasks_readLatest_iff (mqtt : MqttTopics) :
    (∀ state, (mailboxSystem mqtt serverTask).Reachable state →
      state.task.pc = .reading →
        (ReadsLatest serverTask state ↔ state.pending = none)) ∧
    ∀ state, (mailboxSystem mqtt clientTask).Reachable state →
      state.task.pc = .reading →
        (ReadsLatest clientTask state ↔ state.pending = none) := by
  apply And.intro
  · intro state reachable atPc
    exact readsLatest_iff reachable (by simp [serverTask, atPc,
      ServerPc.isReading])
  · intro state reachable atPc
    exact readsLatest_iff reachable (by simp [clientTask, atPc,
      ClientPc.isReading])

/-- The client has connected, and a message is being delivered. -/
def pollDuringDelivery : List (MailboxAction ClientAction) :=
  [.task .restart, .task (.connect ⟨true, true, true, true⟩),
    .setFlag ['0', '1']]

/-- A message that has been stored is read. -/
theorem relayTasks_readLatest_stored :
    ∃ state, (mailboxSystem benchTopics clientTask).Reachable state ∧
      state.task.pc = .reading ∧ ReadsLatest clientTask state := by
  obtain ⟨state, reaches, found⟩ :=
    TransitionSystem.exists_reaches_of_follow
      (mailboxSystem benchTopics clientTask) (fun _ _ => True)
      (pollDuringDelivery ++ [.setPacket, .task .poll])
      (fun state => state.task.pc = .reading ∧ state.pending = none)
      (by decide)
  obtain ⟨atPc, idle⟩ := of_decide_eq_true found
  have readLatest := (relayTasks_readLatest_iff benchTopics).2 state reaches atPc
  exact ⟨state, reaches, atPc, readLatest.mpr idle⟩

/-- The client polls between the two assignments: it finds the flag, and the
packet is still empty. -/
theorem relayTasks_read_earlier :
    ∃ state, (mailboxSystem benchTopics clientTask).Reachable state ∧
      state.task.pc = .reading ∧ ¬ ReadsLatest clientTask state := by
  obtain ⟨state, reaches, found⟩ :=
    TransitionSystem.exists_reaches_of_follow
      (mailboxSystem benchTopics clientTask) (fun _ _ => True)
      (pollDuringDelivery ++ [.task .poll])
      (fun state => state.task.pc = .reading ∧
        state.flagged = [['0', '1']] ∧ state.task.globals.rthDatapacket = [])
      (by decide)
  obtain ⟨atPc, flagged, empty⟩ := of_decide_eq_true found
  refine ⟨state, reaches, atPc, fun latest => ?_⟩
  have packet : state.flagged.getLast? =
      some state.task.globals.rthDatapacket := latest.packet
  rw [flagged, empty] at packet
  cases packet

end OpenRTH
