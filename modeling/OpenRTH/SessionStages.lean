import OpenRTH.EventHistory
import OpenRTH.PwmShutdown

/-!
# The stages of a session

The process of a device with a record of the calls of `rth_state_machine` and of
the stage functions it runs.  The machine goes through its states one by one, so
every stage that has been passed has returned 0 once, in the order of the
states, and each server or client is set up once.
-/

namespace OpenRTH

/-- The state after this one. -/
def RthState.next : RthState → Option RthState
  | .init => some .networkCheck
  | .networkCheck => some .brokerCheck
  | .brokerCheck => some .rthHandshake
  | .rthHandshake => some .unpluggedWait
  | .unpluggedWait => some .pluggedIn
  | .pluggedIn => some .sdp
  | .sdp => some .tcpNetwork
  | .tcpNetwork => some .remote
  | .remote | .error => none

/-! ## Where `main` is -/

/-- The states in which `main` is at a place of `rth_state_machine`. -/
def MainPc.belongsTo (device : SlacDevice) (rthState : RthState) :
    MainPc → Prop
  | .connecting => rthState = .brokerCheck
  | .checking => rthState = .networkCheck ∨ rthState = .brokerCheck ∨
      rthState = .rthHandshake
  | .createServer => rthState = .unpluggedWait ∧ device = .evse
  | .launching => match device with
      | .evse => rthState = .unpluggedWait
      | .pev => rthState = .tcpNetwork
  | .testB1 | .setDuty | .testB2 => rthState = .unpluggedWait
  | .slacInit | .slac _ => rthState = .pluggedIn
  | .sdp => rthState = .sdp
  | .remoteTimer => rthState = .remote
  | _ => True

/-- The state is one of those the machine handles, and `main` is where this
state has led it. -/
structure InStage (device : SlacDevice) (state : DeviceProcess) : Prop where
  handled : state.rthState ≠ .error
  place : state.main.belongsTo device state.rthState

theorem InStage.dispatch {device : SlacDevice} {state : DeviceProcess}
    (before : InStage device state) : InStage device (dispatch device state) := by
  have handled := before.handled
  cases atState : state.rthState <;> simp only [OpenRTH.dispatch, atState]
  case error => exact absurd atState handled
  case unpluggedWait =>
    split_ifs with test
    · exact ⟨nofun, rfl, test.2⟩
    · exact ⟨nofun, rfl⟩
  case pluggedIn => split_ifs <;> exact ⟨nofun, rfl⟩
  case tcpNetwork =>
    cases device with
    | evse => exact ⟨nofun, trivial⟩
    | pev => exact ⟨nofun, rfl⟩
  case init => exact ⟨nofun, trivial⟩
  case sdp | remote => exact ⟨nofun, rfl⟩
  all_goals exact ⟨nofun, by simp [MainPc.belongsTo]⟩

theorem InStage.main {device : SlacDevice} {state after : DeviceProcess}
    {input : MainInput} (before : InStage device state)
    (moved : MainTransition device state input after) :
    InStage device after := by
  obtain ⟨handled, place⟩ := before
  cases moved with
  | dispatch atPc => exact InStage.dispatch ⟨handled, place⟩
  | checkPasses atPc =>
      rw [atPc] at place
      rcases place with state | state | state <;>
        exact ⟨by simp [afterCheck, state, DeviceProcess.advance], trivial⟩
  | launched atPc =>
      rw [atPc] at place
      cases device with
      | evse => exact ⟨handled, place⟩
      | pev => exact ⟨by rintro ⟨⟩, trivial⟩
  | testB1 atPc =>
      rw [atPc] at place
      refine ⟨handled, ?_⟩
      simp only
      split_ifs <;> exact place
  | testB2 atPc =>
      refine ⟨?_, trivial⟩
      simp only [DeviceProcess.advance]
      split_ifs <;> simp
  | slac atPc moved =>
      rw [atPc] at place
      unfold afterSlac
      split
      · exact ⟨handled, by rw [atPc]; exact place⟩
      · split_ifs
        · exact ⟨by rintro ⟨⟩, trivial⟩
        · exact ⟨handled, trivial⟩
      · exact ⟨handled, place⟩
  | removal atPc =>
      split_ifs <;> exact ⟨handled, trivial⟩
  | @exiting success shutdown atPc =>
      obtain ⟨main, rthState, -, -, -⟩ :=
        sameSession_shutdownStep device success state shutdown
      exact ⟨by simpa only [rthState] using handled, trivial⟩
  | _ atPc =>
      constructor <;>
        simp_all [MainPc.belongsTo, DeviceProcess.advance,
          DeviceProcess.exitApp]

theorem InStage.of_sameSession {device : SlacDevice}
    {state after : DeviceProcess} (before : InStage device state)
    (same : SameSession state after) : InStage device after :=
  ⟨by simpa only [same.rthState] using before.handled,
    by simpa only [same.main, same.rthState] using before.place⟩

theorem InStage.step {mqtt : MqttTopics} {device : SlacDevice}
    {state after : DeviceProcess} {action : ProcessAction}
    (before : InStage device state)
    (step : (deviceProcess mqtt device).step state action = some after) :
    InStage device after := by
  obtain ⟨running, moved⟩ := processTransition_of_step step
  cases isMain : action.isMain with
  | true =>
      cases moved with
      | main moved => exact before.main moved
      | _ => cases isMain
  | false => exact before.of_sameSession (moved.sameSession isMain)

theorem inStage_of_reachable {mqtt : MqttTopics} {device : SlacDevice}
    {state : DeviceProcess}
    (reachable : (deviceProcess mqtt device).Reachable state) :
    InStage device state := by
  refine reachable.invariant ?_ fun before _ step => before.step step
  cases device <;> exact ⟨nofun, trivial⟩

/-! ## The calls of a session -/

/-- What `rth_state_machine` calls for a session. -/
inductive SessionCall
  | networkCheck
  | brokerCheck
  | rthHandshake
  | createServer
  | serverLaunch
  | performSLAC
  | performSDP
  | clientLaunch
  deriving DecidableEq

inductive SessionEvent
  | called (call : SessionCall)
  | returned (call : SessionCall) (result : ℤ)
  deriving DecidableEq

/-- A call of `rth_state_machine` that has returned, with `rth_state` before and
after. -/
structure MachineCall where
  entered : RthState
  result : ℤ
  left : RthState

/-- A device with `rth_state` at the last call of `rth_state_machine`, the calls
that have returned, and the events of the session. -/
structure TracedDevice where
  process : DeviceProcess
  entered : RthState
  calls : List MachineCall
  events : List SessionEvent

/-- The check of a state. -/
def RthState.check : RthState → SessionCall
  | .networkCheck => .networkCheck
  | .brokerCheck => .brokerCheck
  | _ => .rthHandshake

/-- What the head of `rth_state_machine` calls. -/
def dispatchEvents (device : SlacDevice) (state : DeviceProcess) :
    List SessionEvent :=
  match state.rthState with
  | .networkCheck | .brokerCheck | .rthHandshake =>
      [.called state.rthState.check]
  | .unpluggedWait =>
      if state.serverFlag = false ∧ device = .evse then [.called .createServer]
      else []
  | .pluggedIn => [.called .performSLAC]
  | .sdp => [.called .performSDP]
  | .tcpNetwork => if device = .pev then [.called .clientLaunch] else []
  | .init | .remote | .error => []

/-- What a step of `main` calls, and what returns in it. -/
def sessionEvents (device : SlacDevice) (state : DeviceProcess)
    (input : MainInput) (after : DeviceProcess) : List SessionEvent :=
  match state.main, input with
  | .rthStateMachine, .next => dispatchEvents device state
  | .checking, .returned result => [.returned state.rthState.check result]
  | .createServer, .created true => [.called .serverLaunch]
  | .slacInit, .slacInit (.returns false) => [.returned .performSLAC (-1)]
  | .slac _, .slac _ =>
      match after.main with
      | .testRemoval => [.returned .performSLAC 0]
      | .exiting _ => [.returned .performSLAC (-1)]
      | _ => []
  | .sdp, .sdp environment memory =>
      match (performSDP device.deviceType environment memory).outcome with
      | .returns result => [.returned .performSDP result]
      | .exits => []
  | _, _ => []

/-- What `rth_state_machine` returns in a step of `main`. -/
def machineResult (state : DeviceProcess) (input : MainInput)
    (after : DeviceProcess) : Option ℤ :=
  match after.main with
  | .testRemoval => some 0
  | .exiting _ =>
      match state.main, input with
      | .rthStateMachine, _ | .checking, .returned _ | .slacInit, _
      | .slac _, _ | .sdp, _ => some (-1)
      | _, _ => none
  | _ => none

/-- `rth_state` at the call of `rth_state_machine` that a step of `main` belongs
to. -/
def TracedDevice.entry (traced : TracedDevice) : RthState :=
  match traced.process.main with
  | .rthStateMachine => traced.process.rthState
  | _ => traced.entered

/-- The record after a step of `main`. -/
def TracedDevice.recordMain (device : SlacDevice) (traced : TracedDevice)
    (input : MainInput) (after : DeviceProcess) : TracedDevice where
  process := after
  entered := traced.entry
  calls := traced.calls ++
    ((machineResult traced.process input after).map fun result =>
      ⟨traced.entry, result, after.rthState⟩).toList
  events := traced.events ++
    sessionEvents device traced.process input after

/-- The process of a device with its record. -/
def tracedDevice (mqtt : MqttTopics) (device : SlacDevice) :
    TransitionSystem TracedDevice ProcessAction where
  initial := ⟨(deviceProcess mqtt device).initial, .init, [], []⟩
  step traced action :=
    ((deviceProcess mqtt device).step traced.process action).map fun after =>
      match action with
      | .main input => traced.recordMain device input after
      | _ => { traced with process := after }

/-! ## What a step records -/

/-- `main` is in `rth_state_machine`, past its head. -/
def MainPc.inMachine : MainPc → Bool
  | .connecting | .checking | .createServer | .launching | .testB1 | .setDuty
  | .testB2 | .slacInit | .slac _ | .sdp | .remoteTimer => true
  | _ => false

/-- `rth_state` goes on by one state at a time. -/
theorem MainTransition.rthState_next {device : SlacDevice}
    {state after : DeviceProcess} {input : MainInput}
    (inStage : InStage device state)
    (moved : MainTransition device state input after) :
    after.rthState = state.rthState ∨
      state.rthState.next = some after.rthState := by
  obtain ⟨handled, place⟩ := inStage
  cases moved with
  | dispatch atPc =>
      cases atState : state.rthState <;> simp only [OpenRTH.dispatch, atState]
      case error => exact absurd atState handled
      case init => exact .inr rfl
      case tcpNetwork =>
        cases device with
        | evse => exact .inr rfl
        | pev => exact .inl rfl
      all_goals (try split_ifs) <;> simp
  | checkPasses atPc =>
      rw [atPc] at place
      rcases place with atState | atState | atState <;>
        exact .inr (by rw [atState]; rfl)
  | launched atPc =>
      rw [atPc] at place
      cases device with
      | evse => exact .inl rfl
      | pev => exact .inr (by rw [show state.rthState = .tcpNetwork from place]; rfl)
  | testB2 atPc =>
      rw [atPc] at place
      rw [show state.rthState = .unpluggedWait from place]
      simp only [DeviceProcess.advance]
      split_ifs
      · exact .inr rfl
      · exact .inl rfl
  | slac atPc moved =>
      rw [atPc] at place
      rw [show state.rthState = .pluggedIn from place]
      unfold afterSlac
      split
      · exact .inl place
      · split_ifs
        · exact .inr rfl
        · exact .inl place
      · exact .inl place
  | sdpPasses atPc =>
      rw [atPc] at place
      exact .inr (by rw [show state.rthState = .sdp from place]; rfl)
  | running atPc =>
      rw [atPc] at place
      exact .inl (show state.rthState = .remote from place).symm
  | removal => split_ifs <;> exact .inl rfl
  | @exiting success shutdown atPc =>
      exact .inl (sameSession_shutdownStep device success state shutdown).rthState
  | _ => simp [DeviceProcess.exitApp]

/-- Only the machine returns, and it returns -1 without a change of state. -/
theorem MainTransition.machineResult {device : SlacDevice}
    {state after : DeviceProcess} {input : MainInput} {result : ℤ}
    (moved : MainTransition device state input after)
    (returned : machineResult state input after = some result) :
    result = -1 → after.rthState = state.rthState := by
  rintro rfl
  unfold OpenRTH.machineResult at returned
  split at returned
  · simp at returned
  · next atExit =>
      cases moved with
      | dispatch atPc =>
          revert atExit
          unfold OpenRTH.dispatch
          split <;> (try split_ifs) <;> (try split) <;>
            simp [DeviceProcess.advance, DeviceProcess.exitApp]
      | slac atPc moved =>
          revert atExit
          unfold afterSlac
          split <;> (try split_ifs) <;>
            simp [DeviceProcess.advance, DeviceProcess.exitApp]
      | checkPasses | running | sdpPasses | testB2 =>
          simp [DeviceProcess.advance] at atExit
      | launched =>
          cases device <;> simp [launch, DeviceProcess.advance] at atExit ⊢
      | @exiting success shutdown =>
          exact (sameSession_shutdownStep device success state shutdown).rthState
      | removal => split_ifs <;> rfl
      | _ => simp [DeviceProcess.exitApp]
  · cases returned

/-- `main` has called `rth_state_machine`, which has not returned. -/
def MainPc.calledMachine (pc : MainPc) : Prop :=
  pc = .rthStateMachine ∨ pc.inMachine

/-- The machine is entered at its head. -/
theorem MainTransition.calledMachine {device : SlacDevice}
    {state after : DeviceProcess} {input : MainInput}
    (moved : MainTransition device state input after)
    (inside : after.main.inMachine ∨
      (OpenRTH.machineResult state input after).isSome) :
    state.main.calledMachine := by
  cases moved with
  | dispatch atPc => exact .inl atPc
  | connects atPc | notConnects atPc | checkPasses atPc | checkFails atPc
  | interrupted atPc | created atPc | notCreated atPc | launched atPc
  | notLaunched atPc | testB1 atPc | setDuty atPc | testB2 atPc
  | slacInitExits atPc | slacInitFails atPc | slacInit atPc | slac atPc
  | sdpExits atPc | sdpPasses atPc | sdpFails atPc | expired atPc
  | running atPc => exact .inr (by rw [atPc]; rfl)
  | removal atPc =>
      split_ifs at inside <;>
        simp [atPc, OpenRTH.machineResult, MainPc.inMachine,
          DeviceProcess.exitApp] at inside
  | enablePwm atPc | setPwm atPc | sample atPc | noRemoval atPc | removed atPc
  | captured atPc | awake atPc | exiting atPc =>
      simp [atPc, OpenRTH.machineResult, MainPc.inMachine,
        DeviceProcess.exitApp] at inside

/-- The machine keeps its state until it returns. -/
theorem MainTransition.rthState_of_inMachine {device : SlacDevice}
    {state after : DeviceProcess} {input : MainInput}
    (moved : MainTransition device state input after)
    (inside : after.main.inMachine) : after.rthState = state.rthState := by
  cases moved with
  | dispatch atPc =>
      revert inside
      unfold OpenRTH.dispatch
      split <;> (try split_ifs) <;> (try split) <;>
        simp [DeviceProcess.advance, DeviceProcess.exitApp, MainPc.inMachine]
  | slac atPc moved =>
      revert inside
      unfold afterSlac
      split <;> (try split_ifs) <;>
        simp [DeviceProcess.advance, DeviceProcess.exitApp, MainPc.inMachine]
  | checkPasses | running | sdpPasses | testB2 =>
      simp [DeviceProcess.advance, MainPc.inMachine] at inside
  | launched =>
      cases device with
      | evse => rfl
      | pev => simp [launch, DeviceProcess.advance, MainPc.inMachine] at inside
  | @exiting success shutdown =>
      exact (sameSession_shutdownStep device success state shutdown).rthState
  | removal => split_ifs <;> rfl
  | _ => simp [DeviceProcess.exitApp]

theorem TracedDevice.entry_eq {traced : TracedDevice}
    (entered : traced.process.main.inMachine →
      traced.entered = traced.process.rthState)
    (called : traced.process.main.calledMachine) :
    traced.entry = traced.process.rthState := by
  unfold TracedDevice.entry
  rcases called with atHead | inside
  · rw [atHead]
  · split
    · rfl
    · exact entered inside

/-- The call leaves the state unchanged or goes on to the next one, and it
returns -1 only in the first case. -/
structure MachineCall.InOrder (call : MachineCall) : Prop where
  successor : call.left = call.entered ∨ call.entered.next = some call.left
  failed : call.result = -1 → call.left = call.entered

/-- Every call that has returned is in order, and the present one began in the
present state. -/
structure CallsInOrder (traced : TracedDevice) : Prop where
  entered : traced.process.main.inMachine →
    traced.entered = traced.process.rthState
  returned : ∀ call ∈ traced.calls, call.InOrder

theorem CallsInOrder.main {device : SlacDevice} {traced : TracedDevice}
    {after : DeviceProcess} {input : MainInput}
    (inStage : InStage device traced.process) (before : CallsInOrder traced)
    (moved : MainTransition device traced.process input after) :
    CallsInOrder (traced.recordMain device input after) := by
  have entry := traced.entry_eq before.entered
  constructor
  · intro inside
    exact (entry (moved.calledMachine (.inl inside))).trans
      (moved.rthState_of_inMachine inside).symm
  · intro call member
    rcases List.mem_append.mp member with earlier | new
    · exact before.returned call earlier
    · obtain ⟨result, returned, rfl⟩ :=
        Option.map_eq_some_iff.mp (Option.mem_toList.mp new)
      have called := entry
        (moved.calledMachine (.inr (by rw [returned]; rfl)))
      constructor
      · simpa only [called] using moved.rthState_next inStage
      · simpa only [called] using moved.machineResult returned

/-! ## The stages that have been passed -/

/-- The call that has returned 0 in an event. -/
def SessionEvent.passed : SessionEvent → Option SessionCall
  | .returned call result => if result = 0 then some call else none
  | .called _ => none

/-- The stages of the states before this one, in their order. -/
def RthState.passedStages : RthState → List SessionCall
  | .init | .networkCheck | .error => []
  | .brokerCheck => [.networkCheck]
  | .rthHandshake => [.networkCheck, .brokerCheck]
  | .unpluggedWait | .pluggedIn => [.networkCheck, .brokerCheck, .rthHandshake]
  | .sdp => [.networkCheck, .brokerCheck, .rthHandshake, .performSLAC]
  | .tcpNetwork | .remote =>
      [.networkCheck, .brokerCheck, .rthHandshake, .performSLAC, .performSDP]

theorem dispatchEvents_passed (device : SlacDevice) (state : DeviceProcess) :
    (dispatchEvents device state).filterMap SessionEvent.passed = [] := by
  unfold dispatchEvents
  split <;> (try split_ifs) <;> rfl

theorem dispatch_passedStages {device : SlacDevice} {state : DeviceProcess}
    (handled : state.rthState ≠ .error) :
    (dispatch device state).rthState.passedStages =
      state.rthState.passedStages := by
  cases atState : state.rthState <;> simp only [dispatch, atState]
  case error => exact absurd atState handled
  case tcpNetwork =>
    cases device <;> simp [DeviceProcess.advance, RthState.passedStages]
  all_goals
    (try split_ifs) <;>
      simp [DeviceProcess.advance, RthState.passedStages]

/-- A stage has returned 0 exactly when its state has been passed. -/
theorem MainTransition.passedStages {device : SlacDevice}
    {state after : DeviceProcess} {input : MainInput}
    (inStage : InStage device state)
    (moved : MainTransition device state input after) :
    state.rthState.passedStages ++
        (sessionEvents device state input after).filterMap
          SessionEvent.passed =
      after.rthState.passedStages := by
  obtain ⟨handled, place⟩ := inStage
  cases moved with
  | dispatch atPc =>
      simp only [sessionEvents, atPc, dispatchEvents_passed,
        dispatch_passedStages handled, List.append_nil]
  | checkPasses atPc =>
      rw [atPc] at place
      rcases place with atState | atState | atState <;>
        simp [sessionEvents, atPc, atState, SessionEvent.passed,
          RthState.check, RthState.passedStages, afterCheck,
          DeviceProcess.advance]
  | launched atPc =>
      rw [atPc] at place
      cases device with
      | evse => simp [sessionEvents, atPc, launch]
      | pev =>
          rw [show state.rthState = .tcpNetwork from place]
          simp [sessionEvents, atPc, launch, DeviceProcess.advance,
            RthState.passedStages]
  | testB2 atPc =>
      rw [atPc] at place
      rw [show state.rthState = .unpluggedWait from place]
      simp only [sessionEvents, atPc, DeviceProcess.advance]
      split_ifs <;> rfl
  | slac atPc moved =>
      rw [atPc] at place
      have atState : state.rthState = .pluggedIn := place
      unfold afterSlac
      split
      · simp [sessionEvents, atPc]
      · split_ifs
        · simp [sessionEvents, atPc, atState, DeviceProcess.advance,
            SessionEvent.passed, RthState.passedStages]
        · simp [sessionEvents, atPc, DeviceProcess.exitApp,
            SessionEvent.passed]
      · simp [sessionEvents, atPc]
  | sdpExits atPc exits => simp [sessionEvents, atPc, exits]
  | sdpPasses atPc passed =>
      rw [atPc] at place
      rw [show state.rthState = .sdp from place]
      simp [sessionEvents, atPc, passed, SessionEvent.passed,
        DeviceProcess.advance, RthState.passedStages]
  | sdpFails atPc returned failed =>
      simp [sessionEvents, atPc, returned, failed, SessionEvent.passed,
        DeviceProcess.exitApp]
  | checkFails atPc failed =>
      simp [sessionEvents, atPc, failed, SessionEvent.passed,
        DeviceProcess.exitApp]
  | slacInitFails atPc =>
      simp [sessionEvents, atPc, SessionEvent.passed, DeviceProcess.exitApp]
  | running atPc =>
      rw [atPc] at place
      rw [show state.rthState = .remote from place]
      simp [sessionEvents, atPc, DeviceProcess.advance]
  | removal atPc =>
      split_ifs <;> simp [sessionEvents, atPc, DeviceProcess.exitApp]
  | @exiting success shutdown atPc =>
      simp only [sessionEvents, atPc, List.filterMap_nil, List.append_nil,
        (sameSession_shutdownStep device success state shutdown).rthState]
  | _ atPc =>
      simp [sessionEvents, atPc, SessionEvent.passed, DeviceProcess.exitApp]

/-! ## The servers of the EVSE -/

/-- The block of `UNPLUGGED_WAIT` that is run once. -/
def MainPc.setsUpServers : MainPc → Bool
  | .createServer | .launching => true
  | _ => false

def MainPc.launches : MainPc → Bool
  | .launching => true
  | _ => false

/-- The part of `UNPLUGGED_WAIT` after that block. -/
def MainPc.testsPilot : MainPc → Bool
  | .testB1 | .setDuty | .testB2 => true
  | _ => false

/-- On the EVSE, `server_flag` says whether the servers have been set up, and
they have been before the pilot is tested. -/
structure ServersSetUp (process : DeviceProcess)
    (events : List SessionEvent) : Prop where
  created : events.count (.called .createServer) =
    (process.serverFlag || process.main.setsUpServers).toNat
  launched : events.count (.called .serverLaunch) =
    (process.serverFlag || process.main.launches).toNat
  fresh : process.main.setsUpServers → process.serverFlag = false
  ready : process.main.testsPilot ∨
    RthState.pluggedIn.value ≤ process.rthState.value →
      process.serverFlag = true

theorem createServer_of_mem {device : SlacDevice}
    {state after : DeviceProcess} {input : MainInput}
    (calls : .called .createServer ∈ sessionEvents device state input after) :
    state.rthState = .unpluggedWait ∧ state.serverFlag = false ∧
      state.main = .rthStateMachine := by
  unfold sessionEvents at calls
  split at calls
  · next atPc =>
      unfold dispatchEvents at calls
      cases atState : state.rthState <;>
        simp [atState, RthState.check] at calls
      exact ⟨rfl, calls.1, atPc⟩
  all_goals (try split at calls) <;> simp at calls

theorem serverLaunch_of_mem {device : SlacDevice}
    {state after : DeviceProcess} {input : MainInput}
    (calls : .called .serverLaunch ∈ sessionEvents device state input after) :
    state.main = .createServer := by
  unfold sessionEvents at calls
  split at calls
  · unfold dispatchEvents at calls
    cases atState : state.rthState <;>
      simp [atState, RthState.check] at calls
  all_goals (try split at calls) <;> first | assumption | simp at calls

theorem MainPc.launches_eq_false {pc : MainPc}
    (resting : pc.setsUpServers = false) : pc.launches = false := by
  cases pc <;> first | rfl | cases resting

/-- A step that has nothing to do with the servers. -/
theorem ServersSetUp.quiet {state after : DeviceProcess}
    {events new : List SessionEvent} (before : ServersSetUp state events)
    (resting : state.main.setsUpServers = false)
    (stays : after.main.setsUpServers = false)
    (sameFlag : after.serverFlag = state.serverFlag)
    (uncreated : .called .createServer ∉ new)
    (unlaunched : .called .serverLaunch ∉ new)
    (ready : after.main.testsPilot ∨
      RthState.pluggedIn.value ≤ after.rthState.value →
        state.serverFlag = true) :
    ServersSetUp after (events ++ new) where
  created := by
    rw [List.count_append, List.count_eq_zero_of_not_mem uncreated,
      before.created, resting, stays, sameFlag, Nat.add_zero]
  launched := by
    rw [List.count_append, List.count_eq_zero_of_not_mem unlaunched,
      before.launched, MainPc.launches_eq_false resting,
      MainPc.launches_eq_false stays, sameFlag, Nat.add_zero]
  fresh := by
    rw [stays]
    nofun
  ready := fun now => sameFlag.trans (ready now)

theorem ServersSetUp.dispatch {events : List SessionEvent}
    {state : DeviceProcess} (handled : state.rthState ≠ .error)
    (before : ServersSetUp state events)
    (atPc : state.main = .rthStateMachine) :
    ServersSetUp (OpenRTH.dispatch .evse state)
      (events ++ dispatchEvents .evse state) := by
  have resting : state.main.setsUpServers = false := by
    rw [atPc]
    rfl
  have ready (plugged : RthState.pluggedIn.value ≤ state.rthState.value) :
      state.serverFlag = true := before.ready (.inr plugged)
  cases atState : state.rthState <;>
    simp only [OpenRTH.dispatch, dispatchEvents, atState]
  case error => exact absurd atState handled
  case init =>
    apply before.quiet resting <;>
      simp [DeviceProcess.advance, MainPc.setsUpServers, MainPc.testsPilot,
        RthState.value]
  case networkCheck | brokerCheck | rthHandshake =>
    apply before.quiet resting <;>
      simp [RthState.check, MainPc.setsUpServers, MainPc.testsPilot,
        RthState.value]
  case unpluggedWait =>
    by_cases flag : state.serverFlag = false
    · have created := before.created
      have launched := before.launched
      simp only [resting, MainPc.launches_eq_false resting, flag,
        Bool.or_false, Bool.toNat_false] at created launched
      rw [if_pos ⟨flag, trivial⟩, if_pos ⟨flag, trivial⟩]
      exact
        { created := by simp [created, MainPc.setsUpServers]
          launched := by simp [launched, flag, MainPc.launches]
          fresh := fun _ => flag
          ready := by simp [MainPc.testsPilot, RthState.value] }
    · rw [if_neg (by simp [flag]), if_neg (by simp [flag])]
      exact before.quiet resting rfl rfl (by simp) (by simp)
        fun _ => by simpa using flag
  case pluggedIn =>
    split_ifs <;>
      exact before.quiet resting rfl rfl (by simp) (by simp)
        fun _ => ready (by rw [atState])
  case sdp | tcpNetwork | remote =>
    exact before.quiet resting rfl rfl (by simp) (by simp)
      fun _ => ready (by rw [atState]; decide)

section ServerSteps

variable {state after : DeviceProcess} {input : MainInput}
  {events : List SessionEvent}

theorem ServersSetUp.elsewhere (before : ServersSetUp state events)
    (resting : state.main.setsUpServers = false)
    (later : state.main ≠ .rthStateMachine)
    (stays : after.main.setsUpServers = false)
    (sameFlag : after.serverFlag = state.serverFlag)
    (ready : after.main.testsPilot ∨
      RthState.pluggedIn.value ≤ after.rthState.value →
        state.main.testsPilot ∨
          RthState.pluggedIn.value ≤ state.rthState.value) :
    ServersSetUp after (events ++ sessionEvents .evse state input after) := by
  refine before.quiet resting stays sameFlag (fun calls => ?_)
    (fun calls => ?_) fun now => before.ready (ready now)
  · exact later (createServer_of_mem calls).2.2
  · rw [serverLaunch_of_mem calls] at resting
    cases resting

theorem ServersSetUp.pluggedIn (before : ServersSetUp state events)
    (resting : state.main.setsUpServers = false)
    (later : state.main ≠ .rthStateMachine)
    (plugged : RthState.pluggedIn.value ≤ state.rthState.value)
    (stays : after.main.setsUpServers = false)
    (sameFlag : after.serverFlag = state.serverFlag) :
    ServersSetUp after (events ++ sessionEvents .evse state input after) :=
  before.elsewhere resting later stays sameFlag fun _ => .inr plugged

theorem ServersSetUp.testsPilot (before : ServersSetUp state events)
    (testing : state.main.testsPilot)
    (stays : after.main.setsUpServers = false)
    (sameFlag : after.serverFlag = state.serverFlag) :
    ServersSetUp after (events ++ sessionEvents .evse state input after) := by
  refine before.elsewhere ?_ ?_ stays sameFlag fun _ => .inl testing
  · cases atPc : state.main <;> first
      | rfl
      | rw [atPc] at testing
        cases testing
  · intro atPc
    rw [atPc] at testing
    cases testing

theorem ServersSetUp.creates (before : ServersSetUp state events)
    (atPc : state.main = .createServer) :
    ServersSetUp { state with main := .launching }
      (events ++ [.called .serverLaunch]) := by
  have fresh := before.fresh (by rw [atPc]; rfl)
  have created := before.created
  have launched := before.launched
  simp only [atPc, fresh] at created launched
  exact
    { created := by simpa [fresh, MainPc.setsUpServers] using created
      launched := by simpa [fresh, MainPc.launches] using launched
      fresh := fun _ => fresh
      ready := fun now => before.ready (now.imp_left (by rintro ⟨⟩)) }

theorem ServersSetUp.launches (before : ServersSetUp state events)
    (atPc : state.main = .launching) :
    ServersSetUp (launch .evse state) events := by
  have created := before.created
  have launched := before.launched
  simp only [atPc, MainPc.setsUpServers, MainPc.launches, Bool.or_true]
    at created launched
  exact ⟨created, launched, by rintro ⟨⟩, fun _ => rfl⟩

theorem ServersSetUp.ends (before : ServersSetUp state events)
    (ended : Option ProcessEnd) :
    ServersSetUp { state with ended := ended } events :=
  { before with }

theorem ServersSetUp.slac (before : ServersSetUp state events)
    {session : SlacState} (atPc : state.main = .slac session)
    (place : state.rthState = .pluggedIn) (next : SlacState) :
    ServersSetUp (afterSlac next state)
      (events ++ sessionEvents .evse state input (afterSlac next state)) := by
  apply before.pluggedIn (by rw [atPc]; rfl) (by simp [atPc]) (by rw [place])
  · unfold afterSlac
    split <;> (try split_ifs) <;> first | rfl | rw [atPc]; rfl
  · unfold afterSlac
    split <;> (try split_ifs) <;> rfl

theorem ServersSetUp.main (inStage : InStage .evse state)
    (before : ServersSetUp state events)
    (moved : MainTransition .evse state input after) :
    ServersSetUp after (events ++ sessionEvents .evse state input after) := by
  obtain ⟨handled, place⟩ := inStage
  cases moved with
  | dispatch atPc =>
      simp only [sessionEvents, atPc]
      exact before.dispatch handled atPc
  | checkPasses atPc =>
      rw [atPc] at place
      refine before.elsewhere (by rw [atPc]; rfl) (by simp [atPc]) rfl rfl ?_
      rcases place with atState | atState | atState <;>
        simp [atState, afterCheck, DeviceProcess.advance, MainPc.testsPilot,
          RthState.value]
  | created atPc =>
      simp only [sessionEvents, atPc]
      exact before.creates atPc
  | launched atPc =>
      simp only [sessionEvents, atPc, List.append_nil]
      exact before.launches atPc
  | notCreated atPc | notLaunched atPc =>
      rw [show sessionEvents .evse state _ _ = [] by simp [sessionEvents, atPc],
        List.append_nil]
      exact before.ends _
  | testB1 atPc =>
      refine before.testsPilot (by rw [atPc]; rfl) ?_ rfl
      split_ifs <;> rfl
  | setDuty atPc | testB2 atPc =>
      exact before.testsPilot (by rw [atPc]; rfl) rfl
        (by simp [DeviceProcess.advance])
  | slac atPc moved =>
      rw [atPc] at place
      exact before.slac atPc place _
  | sdpPasses atPc =>
      rw [atPc] at place
      exact before.pluggedIn (by rw [atPc]; rfl) (by simp [atPc])
        (by rw [show state.rthState = .sdp from place]; decide) rfl rfl
  | running atPc =>
      rw [atPc] at place
      exact before.pluggedIn (by rw [atPc]; rfl) (by simp [atPc])
        (by rw [show state.rthState = .remote from place]; decide) rfl rfl
  | @exiting success shutdown atPc =>
      obtain ⟨main, rthState, pilot, serverFlag, slacInit⟩ :=
        sameSession_shutdownStep .evse success state shutdown
      refine before.elsewhere (by rw [atPc]; rfl) (by simp [atPc]) rfl
        serverFlag ?_
      rw [rthState]
      exact fun now => .inr (now.resolve_left (by rintro ⟨⟩))
  | _ atPc =>
      apply before.elsewhere (by rw [atPc]; rfl) (by simp [atPc])
      · simp [DeviceProcess.exitApp, MainPc.setsUpServers, atPc]
      · simp [DeviceProcess.exitApp]
      · intro now
        apply Or.inr
        simpa [DeviceProcess.exitApp, MainPc.testsPilot, atPc] using now

end ServerSteps

theorem performSLAC_of_mem {device : SlacDevice}
    {state after : DeviceProcess} {input : MainInput}
    (calls : .called .performSLAC ∈ sessionEvents device state input after) :
    state.rthState = .pluggedIn ∧
      sessionEvents device state input after = [.called .performSLAC] := by
  unfold sessionEvents at calls ⊢
  split at calls
  · unfold dispatchEvents at calls ⊢
    cases atState : state.rthState <;>
      simp [atState, RthState.check] at calls ⊢
  all_goals (try split at calls) <;> simp at calls

theorem clientLaunch_of_mem {device : SlacDevice}
    {state after : DeviceProcess} {input : MainInput}
    (calls : .called .clientLaunch ∈ sessionEvents device state input after) :
    state.main = .rthStateMachine ∧ state.rthState = .tcpNetwork ∧
      sessionEvents device state input after = [.called .clientLaunch] := by
  unfold sessionEvents at calls ⊢
  split at calls
  · next atPc =>
      unfold dispatchEvents at calls ⊢
      cases atState : state.rthState <;>
        simp [atState, RthState.check] at calls ⊢
      exact ⟨atPc, calls⟩
  all_goals (try split at calls) <;> simp at calls

/-- Both servers have been set up once. -/
def serversCalledOnce (events : List SessionEvent) : Prop :=
  events.count (.called .createServer) = 1 ∧
    events.count (.called .serverLaunch) = 1

theorem ServersSetUp.calledOnce {process : DeviceProcess}
    {events : List SessionEvent} (servers : ServersSetUp process events)
    (plugged : RthState.pluggedIn.value ≤ process.rthState.value) :
    serversCalledOnce events := by
  have ready := servers.ready (.inr plugged)
  have created := servers.created
  have launched := servers.launched
  simp only [ready, Bool.true_or, Bool.toNat_true] at created launched
  exact ⟨created, launched⟩

theorem precededBy_servers_main {state after : DeviceProcess}
    {input : MainInput} {events : List SessionEvent}
    (servers : ServersSetUp state events)
    (before : PrecededBy serversCalledOnce (.called .performSLAC) events) :
    PrecededBy serversCalledOnce (.called .performSLAC)
      (events ++ sessionEvents .evse state input after) := by
  by_cases calls : .called .performSLAC ∈ sessionEvents .evse state input after
  · obtain ⟨atState, only⟩ := performSLAC_of_mem calls
    rw [only]
    exact before.append_self (servers.calledOnce (by rw [atState]))
  · exact before.append_of_notMem calls

/-! ## The client of the EV -/

def RthState.isRemote : RthState → Bool
  | .remote => true
  | _ => false

/-- On the EV, the client has been launched once the launch is under way. -/
def ClientLaunched (process : DeviceProcess) (events : List SessionEvent) :
    Prop :=
  events.count (.called .clientLaunch) =
    (process.main.launches || process.rthState.isRemote).toNat

section ClientSteps

variable {state after : DeviceProcess} {input : MainInput}
  {events : List SessionEvent}

theorem ClientLaunched.elsewhere (before : ClientLaunched state events)
    (elsewhere : state.main ≠ .rthStateMachine ∨ state.rthState ≠ .tcpNetwork)
    (same : (after.main.launches || after.rthState.isRemote) =
      (state.main.launches || state.rthState.isRemote)) :
    ClientLaunched after (events ++ sessionEvents .pev state input after) := by
  have uncalled : .called .clientLaunch ∉
      sessionEvents .pev state input after := by
    intro calls
    obtain ⟨atPc, atState, -⟩ := clientLaunch_of_mem calls
    rcases elsewhere with later | other
    · exact later atPc
    · exact other atState
  rw [ClientLaunched] at before ⊢
  rw [List.count_append, List.count_eq_zero_of_not_mem uncalled, before, same,
    Nat.add_zero]

theorem ClientLaunched.dispatch (before : ClientLaunched state events)
    (handled : state.rthState ≠ .error) (atPc : state.main = .rthStateMachine) :
    ClientLaunched (OpenRTH.dispatch .pev state)
      (events ++ sessionEvents .pev state .next
        (OpenRTH.dispatch .pev state)) := by
  cases atState : state.rthState
  case error => exact absurd atState handled
  case tcpNetwork =>
    rw [ClientLaunched] at before ⊢
    simp [sessionEvents, atPc, dispatchEvents, atState, OpenRTH.dispatch,
      before, MainPc.launches, RthState.isRemote]
  all_goals
    apply before.elsewhere (.inr (by simp [atState]))
    simp only [OpenRTH.dispatch, atState]
    (try split_ifs) <;>
      simp [DeviceProcess.advance, MainPc.launches, atPc, RthState.isRemote]

theorem ClientLaunched.slac (before : ClientLaunched state events)
    {session : SlacState} (atPc : state.main = .slac session)
    (place : state.rthState = .pluggedIn) (next : SlacState) :
    ClientLaunched (afterSlac next state)
      (events ++ sessionEvents .pev state input (afterSlac next state)) := by
  apply before.elsewhere (.inl (by simp [atPc]))
  rw [atPc, place]
  unfold afterSlac
  split <;> (try split_ifs) <;>
    simp [DeviceProcess.advance, DeviceProcess.exitApp, atPc, MainPc.launches,
      place, RthState.isRemote]

theorem ClientLaunched.main (inStage : InStage .pev state)
    (before : ClientLaunched state events)
    (moved : MainTransition .pev state input after) :
    ClientLaunched after (events ++ sessionEvents .pev state input after) := by
  obtain ⟨handled, place⟩ := inStage
  cases moved with
  | dispatch atPc => exact before.dispatch handled atPc
  | checkPasses atPc =>
      rw [atPc] at place
      apply before.elsewhere (.inl (by simp [atPc]))
      rcases place with atState | atState | atState <;>
        rw [atPc, atState] <;> rfl
  | created atPc =>
      rw [atPc] at place
      cases place.2
  | launched atPc =>
      rw [ClientLaunched] at before ⊢
      simp [sessionEvents, atPc, before, launch, DeviceProcess.advance,
        MainPc.launches, RthState.isRemote]
  | testB1 atPc =>
      apply before.elsewhere (.inl (by simp [atPc]))
      simp [atPc, MainPc.launches]
  | testB2 atPc =>
      rw [atPc] at place
      apply before.elsewhere (.inl (by simp [atPc]))
      rw [atPc, show state.rthState = .unpluggedWait from place]
      simp only [DeviceProcess.advance]
      split_ifs <;> rfl
  | slac atPc moved =>
      rw [atPc] at place
      exact before.slac atPc place _
  | sdpPasses atPc =>
      rw [atPc] at place
      apply before.elsewhere (.inl (by simp [atPc]))
      rw [atPc, show state.rthState = .sdp from place]
      rfl
  | running atPc =>
      rw [atPc] at place
      apply before.elsewhere (.inl (by simp [atPc]))
      rw [atPc, show state.rthState = .remote from place]
      rfl
  | @exiting success shutdown atPc =>
      obtain ⟨main, rthState, pilot, serverFlag, slacInit⟩ :=
        sameSession_shutdownStep .pev success state shutdown
      apply before.elsewhere (.inl (by simp [atPc]))
      rw [atPc, rthState]
      rfl
  | _ atPc =>
      apply before.elsewhere (.inl (by simp [atPc]))
      simp [DeviceProcess.exitApp, MainPc.launches, atPc]

end ClientSteps

theorem ServersSetUp.start (mqtt : MqttTopics) :
    ServersSetUp (deviceProcess mqtt .evse).initial [] :=
  ⟨rfl, rfl, nofun, by simp [deviceProcess, MainPc.testsPilot, RthState.value]⟩

/-! ## Runs -/

/-- What holds of a device and its record. -/
structure SessionTrace (device : SlacDevice) (traced : TracedDevice) :
    Prop where
  inStage : InStage device traced.process
  calls : CallsInOrder traced
  passed : traced.events.filterMap SessionEvent.passed =
    traced.process.rthState.passedStages
  servers : device = .evse → ServersSetUp traced.process traced.events
  serversFirst : device = .evse →
    PrecededBy serversCalledOnce (.called .performSLAC) traced.events
  client : device = .pev → ClientLaunched traced.process traced.events
  clientAfterSDP : PrecededBy (.returned .performSDP 0 ∈ ·)
    (.called .clientLaunch) traced.events

theorem mem_of_passed {events : List SessionEvent} {call : SessionCall}
    (passed : call ∈ events.filterMap SessionEvent.passed) :
    .returned call 0 ∈ events := by
  obtain ⟨event, member, isPassed⟩ := List.mem_filterMap.mp passed
  cases event with
  | called => cases isPassed
  | returned other result =>
      simp only [SessionEvent.passed, Option.ite_none_right_eq_some,
        Option.some.injEq] at isPassed
      obtain ⟨rfl, rfl⟩ := isPassed
      exact member

theorem SessionTrace.main {device : SlacDevice} {traced : TracedDevice}
    {after : DeviceProcess} {input : MainInput}
    (before : SessionTrace device traced)
    (moved : MainTransition device traced.process input after) :
    SessionTrace device (traced.recordMain device input after) := by
  obtain ⟨inStage, calls, passed, servers, serversFirst, client,
    clientAfterSDP⟩ := before
  refine ⟨inStage.main moved, calls.main inStage moved, ?_, ?_, ?_, ?_, ?_⟩
  · simp only [TracedDevice.recordMain, List.filterMap_append, passed]
    exact moved.passedStages inStage
  · rintro rfl
    exact (servers rfl).main inStage moved
  · rintro rfl
    exact precededBy_servers_main (servers rfl) (serversFirst rfl)
  · rintro rfl
    exact (client rfl).main inStage moved
  · by_cases launches : .called .clientLaunch ∈
        sessionEvents device traced.process input after
    · obtain ⟨-, atState, only⟩ := clientLaunch_of_mem launches
      simp only [TracedDevice.recordMain, only]
      apply clientAfterSDP.append_self
      apply mem_of_passed
      rw [passed, atState]
      decide
    · exact clientAfterSDP.append_of_notMem launches

theorem SessionTrace.of_sameSession {device : SlacDevice}
    {traced : TracedDevice} {after : DeviceProcess}
    (before : SessionTrace device traced)
    (same : SameSession traced.process after) :
    SessionTrace device { traced with process := after } := by
  obtain ⟨inStage, calls, passed, servers, serversFirst, client,
    clientAfterSDP⟩ := before
  obtain ⟨main, rthState, pilot, serverFlag, slacInit⟩ := id same
  refine ⟨inStage.of_sameSession same, ⟨?_, calls.returned⟩, ?_, ?_,
    serversFirst, ?_, clientAfterSDP⟩
  · simpa only [main, rthState] using calls.entered
  · simpa only [rthState] using passed
  · intro isEvse
    obtain ⟨created, launched, fresh, ready⟩ := servers isEvse
    exact ⟨by simpa only [main, serverFlag] using created,
      by simpa only [main, serverFlag] using launched,
      by simpa only [main, serverFlag] using fresh,
      by simpa only [main, rthState, serverFlag] using ready⟩
  · simpa only [ClientLaunched, main, rthState] using client

theorem SessionTrace.step {mqtt : MqttTopics} {device : SlacDevice}
    {traced after : TracedDevice} {action : ProcessAction}
    (before : SessionTrace device traced)
    (step : (tracedDevice mqtt device).step traced action = some after) :
    SessionTrace device after := by
  obtain ⟨process, processStep, rfl⟩ := Option.map_eq_some_iff.mp step
  obtain ⟨running, moved⟩ := processTransition_of_step processStep
  cases action with
  | main input =>
      cases moved with
      | main moved => exact before.main moved
  | _ => exact before.of_sameSession (moved.sameSession rfl)

theorem sessionTrace_of_reachable {mqtt : MqttTopics} {device : SlacDevice}
    {traced : TracedDevice}
    (reachable : (tracedDevice mqtt device).Reachable traced) :
    SessionTrace device traced := by
  refine reachable.invariant ?_ fun before _ step => before.step step
  refine ⟨?_, ⟨?_, nofun⟩, rfl, ?_, fun _ => .nil, ?_, .nil⟩
  · cases device <;> exact ⟨nofun, trivial⟩
  · cases device <;> exact nofun
  · rintro rfl
    exact .start mqtt
  · rintro rfl
    rfl

/-- The session of a device, from the record of its calls. -/
structure StagesInOrder (device : SlacDevice) (traced : TracedDevice) :
    Prop where
  calls : ∀ call ∈ traced.calls, call.InOrder
  passed : traced.events.filterMap SessionEvent.passed =
    traced.process.rthState.passedStages
  servers : device = .evse →
    RthState.pluggedIn.value ≤ traced.process.rthState.value →
      serversCalledOnce traced.events
  serversFirst : device = .evse → ∀ earlier later,
    traced.events = earlier ++ .called .performSLAC :: later →
      serversCalledOnce earlier ∧ serversCalledOnce traced.events
  client : device = .pev →
    traced.events.count (.called .clientLaunch) ≤ 1 ∧
      (traced.process.rthState = .remote →
        traced.events.count (.called .clientLaunch) = 1)
  clientAfterSDP : ∀ earlier later,
    traced.events = earlier ++ .called .clientLaunch :: later →
      .returned .performSDP 0 ∈ earlier

/-- In every reachable state, the calls of `rth_state_machine` that have
returned went on by at most one state, the stages that have been passed have
returned 0 once and in their order, and the servers of the EVSE and the client
of the EV are set up once, before `perform_SLAC` and after `perform_SDP`. -/
theorem tracedDevice_stagesInOrder (mqtt : MqttTopics) (device : SlacDevice)
    (traced : TracedDevice)
    (reachable : (tracedDevice mqtt device).Reachable traced) :
    StagesInOrder device traced := by
  have trace := sessionTrace_of_reachable reachable
  refine ⟨trace.calls.returned, trace.passed, ?_, ?_, ?_,
    trace.clientAfterSDP⟩
  · intro isEvse plugged
    exact (trace.servers isEvse).calledOnce plugged
  · intro isEvse earlier later split
    have first := trace.serversFirst isEvse earlier later split
    have servers := trace.servers isEvse
    have created : traced.events.count (.called .createServer) ≤ 1 := by
      rw [servers.created]
      exact Bool.toNat_le _
    have launched : traced.events.count (.called .serverLaunch) ≤ 1 := by
      rw [servers.launched]
      exact Bool.toNat_le _
    refine ⟨first, ?_⟩
    unfold serversCalledOnce at first ⊢
    rw [split, List.count_append] at created launched ⊢
    rw [List.count_append]
    omega
  · intro isPev
    rw [trace.client isPev]
    refine ⟨Bool.toNat_le _, fun remote => ?_⟩
    simp [remote, RthState.isRemote]

/-- An EVSE that has been plugged in after its checks. -/
def pluggedInRun : List ProcessAction :=
  checksPassed ++ [.main (.created true), .main (.launched true),
    .main .next, .main .next] ++ nextRound .B2 ++ [.main .next, .main .next]

/-- An EVSE that is plugged in after its checks calls `perform_SLAC` with both
servers set up. -/
theorem tracedDevice_stagesInOrder_plugged_in :
    ∃ traced, (tracedDevice benchTopics .evse).Reachable traced ∧
      .called .performSLAC ∈ traced.events ∧ StagesInOrder .evse traced := by
  obtain ⟨traced, reaches, found⟩ :=
    TransitionSystem.exists_reaches_of_follow
      (tracedDevice benchTopics .evse) (fun _ _ => True)
      (pluggedInRun ++ nextRound .B2)
      (fun traced => .called .performSLAC ∈ traced.events) (by decide)
  exact ⟨traced, reaches, by simpa using found,
    tracedDevice_stagesInOrder benchTopics .evse traced reaches⟩

end OpenRTH
