import OpenRTH.RelayMailbox

/-!
# Socket failures in the relay threads

Neither relay task catches the `std::runtime_error` that `NetSock` throws, and
`CServer::task` does not look at what `create_server` returns.  A task survives
in the runs in which these calls do not fail; failures of `connect`, of sends
and of receives are dealt with by another round.
-/

namespace OpenRTH

/-- The server socket is created and bound, `listen` succeeds, and `accept` does
not fail once a client has connected. -/
def ServerAction.socketWorks : ServerAction → Bool
  | .create calls =>
      calls.addressFound && calls.socketOpened && calls.scopeFound &&
        calls.bound
  | .accept calls => calls.listening && (!calls.ready || calls.accepted)
  | _ => true

/-- A socket is opened once the address of the server has been found. -/
def ClientAction.socketWorks : ClientAction → Bool
  | .connect calls => !calls.serverFound || calls.socketOpened
  | _ => true

/-- The condition on a step of a task; the MQTT thread may do anything. -/
def MailboxAction.onTask {Action : Type} (works : Action → Bool) :
    MailboxAction Action → Bool
  | .task action => works action
  | _ => true

theorem createServer_of_works {calls : CreateServerCalls}
    (works : (ServerAction.create calls).socketWorks) :
    calls.createServer = .returns true := by
  simp only [ServerAction.socketWorks, Bool.and_eq_true] at works
  obtain ⟨⟨⟨addressFound, socketOpened⟩, scopeFound⟩, bound⟩ := works
  simp [CreateServerCalls.createServer, addressFound, socketOpened, scopeFound,
    bound]

theorem connect_eq_throws_iff (calls : ConnectCalls) :
    calls.connect = .throws ↔
      (ClientAction.connect calls).socketWorks = false := by
  obtain ⟨serverFound, socketOpened, scopeFound, connected⟩ := calls
  unfold ConnectCalls.connect ClientAction.socketWorks
  cases serverFound <;> cases socketOpened <;> cases scopeFound <;>
    cases connected <;> decide

/-! ## Runs without failures -/

/-- The server task has not died, and it listens on a socket that exists. -/
def ServerPc.alive : ServerPc → Prop
  | .aborted | .accepting false => False
  | _ => True

theorem ServerTransition.alive {task after : ServerState}
    {action : ServerAction} {published : List CString}
    (moved : ServerTransition task action after published)
    (before : task.pc.alive) (works : action.socketWorks) :
    after.pc.alive := by
  cases moved with
  | createThrows atPc throws =>
      rw [createServer_of_works works] at throws
      cases throws
  | create atPc returned =>
      rw [createServer_of_works works] at returned
      cases returned
      trivial
  | @acceptThrows calls isCreated atPc throws =>
      rw [AcceptCalls.listenAndAccept_eq_throws_iff] at throws
      rw [atPc] at before
      cases isCreated with
      | false => exact before
      | true =>
          simp only [ServerAction.socketWorks] at works
          simp [works] at throws
  | pollEmpty atPc => exact before
  | _ => trivial

theorem ClientTransition.not_aborted {task after : ClientState}
    {action : ClientAction} {published : List CString}
    (moved : ClientTransition task action after published)
    (before : task.pc ≠ .aborted) (works : action.socketWorks) :
    after.pc ≠ .aborted := by
  cases moved with
  | connectThrows atPc throws =>
      rw [connect_eq_throws_iff, works] at throws
      cases throws
  | connectFails | pollEmpty => exact before
  | _ => simp

/-- What the steps of a task preserve under a condition holds in the runs that
meet it, whatever the MQTT thread does. -/
theorem mailboxSystem_invariant {Task Action : Type} {mqtt : MqttTopics}
    {relay : RelayTask Task Action} {works : Action → Bool}
    (holds : Task → Prop) (initially : holds relay.initial)
    (shared : ∀ globals task, holds task →
      holds (relay.setGlobals globals task))
    (preserved : ∀ {task action after}, holds task → works action →
      relay.step task action = some after → holds after)
    {state : MailboxState Task}
    (reaches : (mailboxSystem mqtt relay).Reaches
      (fun _ action => action.onTask works) state) :
    holds state.task := by
  induction reaches with
  | start => exact initially
  | @next state after action earlier allowed step ih =>
      cases action with
      | task action =>
          obtain ⟨task, moved, rfl⟩ := Option.map_eq_some_iff.mp step
          exact preserved ih allowed moved
      | handshake topic =>
          simp only [mailboxSystem] at step
          split_ifs at step
          obtain rfl := Option.some.inj step
          exact shared _ _ ih
      | setFlag message =>
          simp only [mailboxSystem] at step
          split_ifs at step
          obtain rfl := Option.some.inj step
          exact shared _ _ ih
      | setPacket =>
          obtain ⟨message, pending, rfl⟩ := Option.map_eq_some_iff.mp step
          exact shared _ _ ih

/-- In every run whose socket calls all meet the condition, no exception leaves
`CServer::task` or `CClient::task`. -/
theorem relayTasks_never_abort (mqtt : MqttTopics) :
    (∀ state, (mailboxSystem mqtt serverTask).Reaches
        (fun _ action => action.onTask ServerAction.socketWorks) state →
      state.task.pc ≠ .aborted) ∧
    ∀ state, (mailboxSystem mqtt clientTask).Reaches
        (fun _ action => action.onTask ClientAction.socketWorks) state →
      state.task.pc ≠ .aborted := by
  apply And.intro
  · intro state reaches aborted
    have alive : state.task.pc.alive := by
      refine mailboxSystem_invariant (fun task => task.pc.alive) trivial
        (fun _ _ before => before) ?_ reaches
      intro task action after before works step
      obtain ⟨⟨next, published⟩, moved, rfl⟩ :=
        Option.map_eq_some_iff.mp step
      exact (serverTransition_of_step moved).alive before works
    rw [aborted] at alive
    exact alive
  · intro state reaches
    refine mailboxSystem_invariant (fun task => task.pc ≠ .aborted)
      (by simp [clientTask]) (fun _ _ before => before) ?_ reaches
    intro task action after before works step
    obtain ⟨⟨next, published⟩, moved, rfl⟩ := Option.map_eq_some_iff.mp step
    exact (clientTransition_of_step moved).not_aborted before works

/-! ## Runs with a failure -/

/-- A server task whose socket call fails dies at once or, if the socket could
not be bound, at its next call. -/
theorem serverTask_dies_of_failure {task after : ServerState}
    {action : ServerAction} {published : List CString}
    (fails : action.socketWorks = false)
    (step : serverStep task action = some (after, published)) :
    after.pc = .aborted ∨ after.pc = .accepting false ∧
      ∀ next final messages,
        serverStep after next = some (final, messages) →
          final.pc = .aborted := by
  cases serverTransition_of_step step with
  | createThrows | acceptThrows => exact .inl rfl
  | @create calls isCreated atPc returned =>
      obtain ⟨addressFound, socketOpened, scopeFound, bound⟩ := calls
      obtain rfl : isCreated = false := by
        cases addressFound <;> cases socketOpened <;> cases scopeFound <;>
          cases bound <;>
          simp_all [ServerAction.socketWorks, CreateServerCalls.createServer]
      refine .inr ⟨rfl, fun next final messages moved => ?_⟩
      cases serverTransition_of_step moved with
      | acceptThrows => rfl
      | @accept calls isCreated attached samePc returned =>
          cases samePc
          cases returned
      | _ otherPc => cases otherPc
  | @accept calls isCreated attached atPc returned =>
      have throws : calls.listenAndAccept isCreated = .throws := by
        rw [AcceptCalls.listenAndAccept_eq_throws_iff, Bool.and_assoc]
        simp only [ServerAction.socketWorks] at fails
        rw [fails, Bool.and_false]
      rw [returned] at throws
      cases throws
  | _ => cases fails

theorem clientTask_dies_of_failure {task after : ClientState}
    {action : ClientAction} {published : List CString}
    (fails : action.socketWorks = false)
    (step : clientStep task action = some (after, published)) :
    after.pc = .aborted := by
  cases clientTransition_of_step step with
  | connectThrows => rfl
  | connectFails atPc returned | connect atPc returned =>
      rw [← connect_eq_throws_iff, returned] at fails
      cases fails
  | _ => cases fails

/-- A server task loses its connection and accepts another one. -/
theorem relayTasks_never_abort_reconnect :
    ∃ state, (mailboxSystem benchTopics serverTask).Reaches
        (fun _ action => action.onTask ServerAction.socketWorks) state ∧
      state.task.connection = 2 ∧ state.task.pc ≠ .aborted := by
  obtain ⟨state, reaches, found⟩ :=
    TransitionSystem.exists_reaches_of_follow
      (mailboxSystem benchTopics serverTask)
      (fun _ action => action.onTask ServerAction.socketWorks)
      [.task (.create ⟨true, true, true, true⟩),
        .task (.accept ⟨true, true, true⟩), .task .drop,
        .task (.create ⟨true, true, true, true⟩),
        .task (.accept ⟨true, true, true⟩)]
      (fun state => state.task.connection = 2) (by decide)
  have survives := (relayTasks_never_abort benchTopics).1 state reaches
  exact ⟨state, reaches, of_decide_eq_true found, survives⟩

/-- The port of the server is in use: `bind` fails, and `listen` throws. -/
theorem relayTasks_abort_of_bind :
    ∃ state, (mailboxSystem benchTopics serverTask).Reachable state ∧
      state.task.pc = .aborted := by
  obtain ⟨state, reaches, found⟩ :=
    TransitionSystem.exists_reaches_of_follow
      (mailboxSystem benchTopics serverTask) (fun _ _ => True)
      [.task (.create ⟨true, true, true, false⟩),
        .task (.accept ⟨true, true, true⟩)]
      (fun state => state.task.pc = .aborted) (by decide)
  exact ⟨state, reaches, of_decide_eq_true found⟩

end OpenRTH
