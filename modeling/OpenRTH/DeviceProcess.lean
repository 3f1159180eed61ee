import OpenRTH.J1772
import OpenRTH.RelayDevices
import OpenRTH.SdpExchange
import OpenRTH.SlacMachine

/-!
# The process of a device

`main` from the first PWM command on, with `rth_state_machine` and its stages,
the relay thread it launches, the MQTT thread, signals, and all ways in which
the process can end.  Calls whose result only decides how the process goes on
are part of the actions.
-/

namespace OpenRTH

/-- `rth_state_t`. -/
inductive RthState
  | init
  | networkCheck
  | brokerCheck
  | rthHandshake
  | unpluggedWait
  | pluggedIn
  | sdp
  | tcpNetwork
  | remote
  | error
  deriving DecidableEq, Repr

/-- The numbers of `rth_state_t`. -/
def RthState.value : RthState → ℕ
  | .init => 0
  | .networkCheck => 1
  | .brokerCheck => 2
  | .rthHandshake => 3
  | .unpluggedWait => 4
  | .pluggedIn => 5
  | .sdp => 6
  | .tcpNetwork => 7
  | .remote => 8
  | .error => 9

/-- What `control_pwm` and `set_pwm` write to the serial port; `set_pwm` sends
ten times the duty cycle. -/
inductive PwmCommand
  | controlPwm (on : Bool)
  | setPwm (dutyCycle : ℕ)
  deriving DecidableEq, Repr

/-- Where a thread is in `exit_app`.  `tcpdump.stop` and `global_broker.close`
are passed on the way to the UART. -/
inductive ShutdownPc
  | controlPwm
  | closeUart
  | closeServer
  | exit
  deriving DecidableEq

/-- How the process has ended: by `exit_app`, by another `exit`, by an uncaught
exception or by a call through `m_psock` when it is null. -/
inductive ProcessEnd
  | exitApp
  | exit
  | terminate
  | nullServer
  deriving DecidableEq, Repr

/-- Where `main` is, in the loop and in `rth_state_machine`. -/
inductive MainPc
  | enablePwm
  | setPwm
  | sample
  | rthStateMachine
  | connecting
  | checking
  | createServer
  | launching
  | testB1
  | setDuty
  | testB2
  | slacInit
  | slac (session : SlacState)
  | sdp
  | remoteTimer
  | testRemoval
  | removed
  | sleeping
  | exiting (shutdown : ShutdownPc)

/-- The detached thread of `Server.launch` or `Client.launch`. -/
inductive RelayThread
  | unlaunched
  | server (task : ServerState)
  | client (task : ClientState)
  | exiting (shutdown : ShutdownPc)

/-- Where the server thread is in its round: at the test of `signal_captured`,
which it comes to for the first time without a socket, at the `delete` of the
old socket, at `new NetSock`, in `create_server`, or behind it. -/
inductive RoundPc
  | firstTest
  | test
  | deletion
  | creation
  | opening
  | serving
  deriving DecidableEq

/-- The process of a device.  `psock` says whether `Server.m_psock` points to a
socket, and `serial` is what has been written to an open UART. -/
structure DeviceProcess where
  main : MainPc
  rthState : RthState
  pilot : PilotState
  serverFlag : Bool
  slacInit : Bool
  relay : RelayThread
  round : RoundPc
  psock : Bool
  globals : MessageGlobals
  signalCaptured : Bool
  uartOpen : Bool
  serial : List PwmCommand
  ended : Option ProcessEnd

/-- What `main` learns from the calls it makes. -/
inductive MainInput
  | next
  | wrote (success : Bool)
  | sampled (pilot : PilotState) (success : Bool)
  | returned (result : ℤ)
  | interrupted
  | created (success : Bool)
  | launched (success : Bool)
  | slacInit (outcome : Outcome Bool)
  | slac (input : SlacInput)
  | sdp (environment : SdpEnvironment) (memory : SdpMemory)
  | expired (expired : Bool)

inductive ProcessAction
  | main (input : MainInput)
  | beginRound
  | deletePsock
  | newPsock
  | server (action : ServerAction)
  | client (action : ClientAction)
  | relayExiting (success : Bool)
  | deliver (topic message : CString)
  | signal

/-- `config.device_type`. -/
def SlacDevice.deviceType : SlacDevice → DeviceType
  | .evse => .EVSE
  | .pev => .EV

/-- The timeout and the number of retries with which `perform_SLAC` initialises
a device. -/
def slacConfig : SlacDevice → SlacConfig
  | .evse => ⟨20, 3⟩
  | .pev => ⟨20, 10⟩

/-- The step of `EVSESlac` or `PEVSlac`. -/
def slacStep : SlacDevice → SlacState → SlacInput → Option SlacState
  | .evse => evseSlacStep (slacConfig .evse)
  | .pev => pevSlacStep (slacConfig .pev)

namespace DeviceProcess

/-- `write_to_serial`, which closes the port when the write fails. -/
def write (command : PwmCommand) (success : Bool) (state : DeviceProcess) :
    DeviceProcess :=
  if state.uartOpen && success then
    { state with serial := state.serial ++ [command] }
  else { state with uartOpen := false }

section Write

variable (command : PwmCommand) (success : Bool) (state : DeviceProcess)

@[simp] theorem write_main :
    (state.write command success).main = state.main := by
  unfold write
  split_ifs <;> rfl

@[simp] theorem write_rthState :
    (state.write command success).rthState = state.rthState := by
  unfold write
  split_ifs <;> rfl

@[simp] theorem write_pilot :
    (state.write command success).pilot = state.pilot := by
  unfold write
  split_ifs <;> rfl

@[simp] theorem write_serverFlag :
    (state.write command success).serverFlag = state.serverFlag := by
  unfold write
  split_ifs <;> rfl

@[simp] theorem write_relay :
    (state.write command success).relay = state.relay := by
  unfold write
  split_ifs <;> rfl

@[simp] theorem write_round :
    (state.write command success).round = state.round := by
  unfold write
  split_ifs <;> rfl

@[simp] theorem write_psock :
    (state.write command success).psock = state.psock := by
  unfold write
  split_ifs <;> rfl

@[simp] theorem write_ended :
    (state.write command success).ended = state.ended := by
  unfold write
  split_ifs <;> rfl

end Write

/-- `rth_state_machine` has returned 0 in the state `rthState`. -/
def advance (rthState : RthState) (state : DeviceProcess) : DeviceProcess :=
  { state with rthState := rthState, main := .testRemoval }

/-- `main` calls `exit_app`. -/
def exitApp (state : DeviceProcess) : DeviceProcess :=
  { state with main := .exiting .controlPwm }

end DeviceProcess

/-- `exit_app`, one step, and where the calling thread goes on. -/
def shutdownStep (device : SlacDevice) (success : Bool)
    (state : DeviceProcess) : ShutdownPc → DeviceProcess × ShutdownPc
  | .controlPwm =>
      (if device = .evse then state.write (.controlPwm false) success
        else state, .closeUart)
  | .closeUart => ({ state with uartOpen := false }, .closeServer)
  | .closeServer =>
      (if device = .evse ∧ ¬ state.psock then
        { state with ended := some .nullServer } else state, .exit)
  | .exit => ({ state with ended := some .exitApp }, .exit)

/-- The head of `rth_state_machine`. -/
def dispatch (device : SlacDevice) (state : DeviceProcess) : DeviceProcess :=
  match state.rthState with
  | .init => state.advance .networkCheck
  | .networkCheck | .rthHandshake => { state with main := .checking }
  | .brokerCheck => { state with main := .connecting }
  | .unpluggedWait =>
      if state.serverFlag = false ∧ device = .evse then
        { state with main := .createServer }
      else { state with main := .testB1 }
  | .pluggedIn =>
      if state.slacInit then
        { state with
          main := .slac (slacStart device (slacSetting device)
            (initialSession device 0)) }
      else { state with main := .slacInit }
  | .sdp => { state with main := .sdp }
  | .tcpNetwork =>
      match device with
      | .pev => { state with main := .launching }
      | .evse => state.advance .remote
  | .remote => { state with main := .remoteTimer }
  | .error => state.exitApp

/-- `network_check`, `broker_check` and `rth_handshake` have returned 0. -/
def afterCheck : RthState → RthState
  | .networkCheck => .brokerCheck
  | .brokerCheck => .rthHandshake
  | .rthHandshake => .unpluggedWait
  | state => state

/-- `perform_SLAC` after a step of the SLAC machine. -/
def afterSlac (session : SlacState) (state : DeviceProcess) : DeviceProcess :=
  match session.pc with
  | .exited => { state with ended := some .exit }
  | .returned result =>
      -- `SLAC.connect() <= 0`
      if result = 0 then state.advance .sdp else state.exitApp
  | _ => { state with main := .slac session }

/-- The relay thread that `setup_TCP_network` launches. -/
def launch (device : SlacDevice) (state : DeviceProcess) : DeviceProcess :=
  match device with
  | .evse =>
      { state with
        relay := .server ⟨.again, state.globals, 0, []⟩
        round := .firstTest
        serverFlag := true
        main := .testB1 }
  | .pev =>
      { state with
        relay := .client ⟨.again, state.globals, 0, []⟩
      }.advance .remote

/-- One step of `main`. -/
def mainStep (device : SlacDevice) (state : DeviceProcess)
    (input : MainInput) : Option DeviceProcess :=
  match state.main, input with
  | .enablePwm, .wrote success =>
      some { state.write (.controlPwm true) success with main := .setPwm }
  | .setPwm, .wrote success =>
      some { state.write (.setPwm 999) success with main := .sample }
  | .sample, .sampled pilot success =>
      some { state with
        pilot := pilot
        uartOpen := state.uartOpen && success
        main := .rthStateMachine }
  | .rthStateMachine, .next => some (dispatch device state)
  | .connecting, .launched success =>
      -- `CWolfMQTTBase::connect` starts the MQTT thread
      some (if success then { state with main := .checking }
        else { state with ended := some .terminate })
  | .checking, .returned result =>
      some (if result = 0 then state.advance (afterCheck state.rthState)
        else state.exitApp)
  | .checking, .interrupted =>
      if state.rthState = .rthHandshake ∧ state.signalCaptured then
        some state.exitApp
      else none
  | .createServer, .created success =>
      some (if success then { state with main := .launching }
        else { state with ended := some .exit })
  | .launching, .launched success =>
      some (if success then launch device state
        -- `std::thread` throws
        else { state with ended := some .terminate })
  | .testB1, .next =>
      some { state with
        main := if state.pilot = .B1 ∧ device = .evse then .setDuty
          else .testB2 }
  | .setDuty, .wrote success =>
      some { state.write (.setPwm 50) success with main := .testB2 }
  | .testB2, .next =>
      some (state.advance
        (if state.pilot = .B2 then .pluggedIn else .unpluggedWait))
  | .slacInit, .slacInit outcome =>
      match outcome with
      | .exits => some { state with ended := some .exit }
      | .returns false => some state.exitApp
      | .returns true =>
          some { state with
            slacInit := true
            main := .slac (slacStart device (slacSetting device)
              (initialSession device 0)) }
  | .slac session, .slac input =>
      (slacStep device session input).map (afterSlac · state)
  | .sdp, .sdp environment memory =>
      match (performSDP device.deviceType environment memory).outcome with
      | .exits => some { state with ended := some .exit }
      | .returns result =>
          some (if result = 0 then state.advance .tcpNetwork
            else state.exitApp)
  | .remoteTimer, .expired expired =>
      some (if expired then state.exitApp else state.advance .remote)
  | .testRemoval, .next =>
      some (if RthState.pluggedIn.value ≤ state.rthState.value ∧
          (state.pilot = .A1 ∨ state.pilot = .A2 ∨ state.pilot = .F) then
        if device = .evse then { state with main := .removed }
        else state.exitApp
      else { state with main := .sleeping })
  | .removed, .wrote success =>
      some (state.write (.controlPwm false) success).exitApp
  | .sleeping, .next =>
      some (if state.signalCaptured then state.exitApp
        else { state with main := .sample })
  | .exiting shutdown, .wrote success =>
      let (after, next) := shutdownStep device success state shutdown
      some { after with main := .exiting next }
  | _, _ => none

/-- The call of `create_server`. -/
def ServerAction.creates : ServerAction → Bool
  | .create _ => true
  | _ => false

/-- The test of `signal_captured` succeeds. -/
def ServerAction.captures : ServerAction → Bool
  | .signal => true
  | _ => false

def ClientAction.captures : ClientAction → Bool
  | .signal => true
  | _ => false

/-- The server thread is at its test of `signal_captured`. -/
def RoundPc.atTest : RoundPc → Bool
  | .firstTest | .test => true
  | _ => false

/-- Where the server thread is in its round after a step of its task. -/
def roundOf : ServerPc → RoundPc
  | .again => .test
  | _ => .serving

/-- One step of `CServer::task`. -/
def serverThreadStep (state : DeviceProcess) (task : ServerState)
    (action : ServerAction) : Option DeviceProcess :=
  if action.captures ∧ ¬ (state.signalCaptured ∧ state.round.atTest) then none
  else if action.creates ∧ state.round ≠ .opening then none
  else
    (serverStep { task with globals := state.globals } action).map
      fun (task, _) =>
        match task.pc with
        | .exited => { state with relay := .exiting .controlPwm }
        | .aborted => { state with ended := some .terminate }
        | _ =>
            { state with
              relay := .server task
              round := roundOf task.pc
              globals := task.globals }

/-- One step of `CClient::task`. -/
def clientThreadStep (state : DeviceProcess) (task : ClientState)
    (action : ClientAction) : Option DeviceProcess :=
  if action.captures ∧ ¬ state.signalCaptured then none
  else
    (clientStep { task with globals := state.globals } action).map
      fun (task, _) =>
        match task.pc with
        | .exited => { state with relay := .exiting .controlPwm }
        | .aborted => { state with ended := some .terminate }
        | _ =>
            { state with
              relay := .client task
              globals := task.globals }

/-- One step of a thread of the process, or a signal. -/
def processStep (mqtt : MqttTopics) (device : SlacDevice)
    (state : DeviceProcess) (action : ProcessAction) :
    Option DeviceProcess :=
  if state.ended.isSome then none
  else
    match action with
    | .main input => mainStep device state input
    | .beginRound =>
        match state.relay with
        | .server _ =>
            if state.round.atTest ∧ ¬ state.signalCaptured then
              some { state with
                round := if state.psock then .deletion else .creation }
            else none
        | _ => none
    | .deletePsock =>
        match state.relay with
        | .server _ =>
            if state.round = .deletion then
              some { state with psock := false, round := .creation }
            else none
        | _ => none
    | .newPsock =>
        match state.relay with
        | .server _ =>
            if state.round = .creation then
              some { state with psock := true, round := .opening }
            else none
        | _ => none
    | .server action =>
        match state.relay with
        | .server task => serverThreadStep state task action
        | _ => none
    | .client action =>
        match state.relay with
        | .client task => clientThreadStep state task action
        | _ => none
    | .relayExiting success =>
        match state.relay with
        | .exiting shutdown =>
            let (after, next) := shutdownStep device success state shutdown
            some { after with relay := .exiting next }
        | _ => none
    | .deliver topic message =>
        some { state with
          globals := handleMessage mqtt topic message state.globals }
    | .signal => some { state with signalCaptured := true }

/-- The process from the point where `main` has opened the UART and installed
its signal handlers. -/
def deviceProcess (mqtt : MqttTopics) (device : SlacDevice) :
    TransitionSystem DeviceProcess ProcessAction where
  initial :=
    { main := match device with
        | .evse => .enablePwm
        | .pev => .sample
      rthState := .init
      pilot := .A1
      serverFlag := false
      slacInit := false
      relay := .unlaunched
      round := .firstTest
      psock := false
      globals := ⟨false, [], .noHandshake⟩
      signalCaptured := false
      uartOpen := true
      serial := []
      ended := none }
  step := processStep mqtt device

end OpenRTH
