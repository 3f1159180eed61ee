import OpenRTH.DeviceProcess

/-!
# The transitions of a device

Every step of the process as one of finitely many transitions, each with what
holds before it.
-/

namespace OpenRTH

/-- The steps of `main`, each with its guard. -/
inductive MainTransition (device : SlacDevice) (state : DeviceProcess) :
    MainInput → DeviceProcess → Prop
  | enablePwm {success : Bool} (atPc : state.main = .enablePwm) :
      MainTransition device state (.wrote success)
        { state.write (.controlPwm true) success with main := .setPwm }
  | setPwm {success : Bool} (atPc : state.main = .setPwm) :
      MainTransition device state (.wrote success)
        { state.write (.setPwm 999) success with main := .sample }
  | sample {pilot : PilotState} {success : Bool}
      (atPc : state.main = .sample) :
      MainTransition device state (.sampled pilot success)
        { state with
          pilot := pilot
          uartOpen := state.uartOpen && success
          main := .rthStateMachine }
  | dispatch (atPc : state.main = .rthStateMachine) :
      MainTransition device state .next (dispatch device state)
  | connects (atPc : state.main = .connecting) :
      MainTransition device state (.launched true)
        { state with main := .checking }
  | notConnects (atPc : state.main = .connecting) :
      MainTransition device state (.launched false)
        { state with ended := some .terminate }
  | checkPasses (atPc : state.main = .checking) :
      MainTransition device state (.returned 0)
        (state.advance (afterCheck state.rthState))
  | checkFails {result : ℤ} (atPc : state.main = .checking)
      (failed : result ≠ 0) :
      MainTransition device state (.returned result) state.exitApp
  | interrupted (atPc : state.main = .checking)
      (handshake : state.rthState = .rthHandshake)
      (captured : state.signalCaptured = true) :
      MainTransition device state .interrupted state.exitApp
  | created (atPc : state.main = .createServer) :
      MainTransition device state (.created true)
        { state with main := .launching }
  | notCreated (atPc : state.main = .createServer) :
      MainTransition device state (.created false)
        { state with ended := some .exit }
  | launched (atPc : state.main = .launching) :
      MainTransition device state (.launched true) (launch device state)
  | notLaunched (atPc : state.main = .launching) :
      MainTransition device state (.launched false)
        { state with ended := some .terminate }
  | testB1 (atPc : state.main = .testB1) :
      MainTransition device state .next
        { state with
          main := if state.pilot = .B1 ∧ device = .evse then .setDuty
            else .testB2 }
  | setDuty {success : Bool} (atPc : state.main = .setDuty) :
      MainTransition device state (.wrote success)
        { state.write (.setPwm 50) success with main := .testB2 }
  | testB2 (atPc : state.main = .testB2) :
      MainTransition device state .next
        (state.advance
          (if state.pilot = .B2 then .pluggedIn else .unpluggedWait))
  | slacInitExits (atPc : state.main = .slacInit) :
      MainTransition device state (.slacInit .exits)
        { state with ended := some .exit }
  | slacInitFails (atPc : state.main = .slacInit) :
      MainTransition device state (.slacInit (.returns false)) state.exitApp
  | slacInit (atPc : state.main = .slacInit) :
      MainTransition device state (.slacInit (.returns true))
        { state with
          slacInit := true
          main := .slac (slacStart device (slacSetting device)
            (initialSession device 0)) }
  | slac {session next : SlacState} {input : SlacInput}
      (atPc : state.main = .slac session)
      (moved : slacStep device session input = some next) :
      MainTransition device state (.slac input) (afterSlac next state)
  | sdpExits {environment : SdpEnvironment} {memory : SdpMemory}
      (atPc : state.main = .sdp)
      (exits : (performSDP device.deviceType environment memory).outcome =
        .exits) :
      MainTransition device state (.sdp environment memory)
        { state with ended := some .exit }
  | sdpPasses {environment : SdpEnvironment} {memory : SdpMemory}
      (atPc : state.main = .sdp)
      (passed : (performSDP device.deviceType environment memory).outcome =
        .returns 0) :
      MainTransition device state (.sdp environment memory)
        (state.advance .tcpNetwork)
  | sdpFails {environment : SdpEnvironment} {memory : SdpMemory} {result : ℤ}
      (atPc : state.main = .sdp)
      (returned : (performSDP device.deviceType environment memory).outcome =
        .returns result)
      (failed : result ≠ 0) :
      MainTransition device state (.sdp environment memory) state.exitApp
  | expired (atPc : state.main = .remoteTimer) :
      MainTransition device state (.expired true) state.exitApp
  | running (atPc : state.main = .remoteTimer) :
      MainTransition device state (.expired false) (state.advance .remote)
  | removal (atPc : state.main = .testRemoval)
      (session : RthState.pluggedIn.value ≤ state.rthState.value)
      (unplugged : state.pilot = .A1 ∨ state.pilot = .A2 ∨ state.pilot = .F) :
      MainTransition device state .next
        (if device = .evse then { state with main := .removed }
          else state.exitApp)
  | noRemoval (atPc : state.main = .testRemoval)
      (inPlace : ¬ (RthState.pluggedIn.value ≤ state.rthState.value ∧
        (state.pilot = .A1 ∨ state.pilot = .A2 ∨ state.pilot = .F))) :
      MainTransition device state .next { state with main := .sleeping }
  | removed {success : Bool} (atPc : state.main = .removed) :
      MainTransition device state (.wrote success)
        (state.write (.controlPwm false) success).exitApp
  | captured (atPc : state.main = .sleeping)
      (captured : state.signalCaptured = true) :
      MainTransition device state .next state.exitApp
  | awake (atPc : state.main = .sleeping)
      (quiet : state.signalCaptured = false) :
      MainTransition device state .next { state with main := .sample }
  | exiting {success : Bool} {shutdown : ShutdownPc}
      (atPc : state.main = .exiting shutdown) :
      MainTransition device state (.wrote success)
        { (shutdownStep device success state shutdown).1 with
          main := .exiting (shutdownStep device success state shutdown).2 }

/-- The steps of the threads, each with its guard. -/
inductive ProcessTransition (mqtt : MqttTopics) (device : SlacDevice)
    (state : DeviceProcess) : ProcessAction → DeviceProcess → Prop
  | main {input : MainInput} {after : DeviceProcess}
      (moved : MainTransition device state input after) :
      ProcessTransition mqtt device state (.main input) after
  | beginRound {task : ServerState} (thread : state.relay = .server task)
      (atTest : state.round.atTest = true)
      (quiet : state.signalCaptured = false) :
      ProcessTransition mqtt device state .beginRound
        { state with round := if state.psock then .deletion else .creation }
  | deletePsock {task : ServerState} (thread : state.relay = .server task)
      (atDeletion : state.round = .deletion) :
      ProcessTransition mqtt device state .deletePsock
        { state with psock := false, round := .creation }
  | newPsock {task : ServerState} (thread : state.relay = .server task)
      (atCreation : state.round = .creation) :
      ProcessTransition mqtt device state .newPsock
        { state with psock := true, round := .opening }
  | serverExits {action : ServerAction} {task next : ServerState}
      {published : List CString} (thread : state.relay = .server task)
      (captured : state.signalCaptured = true)
      (atTest : state.round.atTest = true)
      (moved : serverStep { task with globals := state.globals } action =
        some (next, published)) (atPc : next.pc = .exited) :
      ProcessTransition mqtt device state (.server action)
        { state with relay := .exiting .controlPwm }
  | serverAborts {action : ServerAction} {task next : ServerState}
      {published : List CString} (thread : state.relay = .server task)
      (moved : serverStep { task with globals := state.globals } action =
        some (next, published)) (atPc : next.pc = .aborted) :
      ProcessTransition mqtt device state (.server action)
        { state with ended := some .terminate }
  | server {action : ServerAction} {task next : ServerState}
      {published : List CString} (thread : state.relay = .server task)
      (opening : action.creates → state.round = .opening)
      (moved : serverStep { task with globals := state.globals } action =
        some (next, published))
      (stays : next.pc ≠ .exited ∧ next.pc ≠ .aborted) :
      ProcessTransition mqtt device state (.server action)
        { state with
          relay := .server next
          round := roundOf next.pc
          globals := next.globals }
  | clientExits {action : ClientAction} {task next : ClientState}
      {published : List CString} (thread : state.relay = .client task)
      (captured : state.signalCaptured = true)
      (moved : clientStep { task with globals := state.globals } action =
        some (next, published)) (atPc : next.pc = .exited) :
      ProcessTransition mqtt device state (.client action)
        { state with relay := .exiting .controlPwm }
  | clientAborts {action : ClientAction} {task next : ClientState}
      {published : List CString} (thread : state.relay = .client task)
      (moved : clientStep { task with globals := state.globals } action =
        some (next, published)) (atPc : next.pc = .aborted) :
      ProcessTransition mqtt device state (.client action)
        { state with ended := some .terminate }
  | client {action : ClientAction} {task next : ClientState}
      {published : List CString} (thread : state.relay = .client task)
      (moved : clientStep { task with globals := state.globals } action =
        some (next, published)) :
      ProcessTransition mqtt device state (.client action)
        { state with relay := .client next, globals := next.globals }
  | relayExiting {success : Bool} {shutdown : ShutdownPc}
      (thread : state.relay = .exiting shutdown) :
      ProcessTransition mqtt device state (.relayExiting success)
        { (shutdownStep device success state shutdown).1 with
          relay := .exiting (shutdownStep device success state shutdown).2 }
  | deliver {topic message : CString} :
      ProcessTransition mqtt device state (.deliver topic message)
        { state with
          globals := handleMessage mqtt topic message state.globals }
  | signal :
      ProcessTransition mqtt device state .signal
        { state with signalCaptured := true }

theorem mainTransition_of_step {device : SlacDevice}
    {state after : DeviceProcess} {input : MainInput}
    (step : mainStep device state input = some after) :
    MainTransition device state input after := by
  unfold mainStep at step
  split at step
  · next success atPc => cases step; exact .enablePwm atPc
  · next success atPc => cases step; exact .setPwm atPc
  · next pilot success atPc => cases step; exact .sample atPc
  · next atPc => cases step; exact .dispatch atPc
  · next success atPc =>
      cases step
      cases success with
      | true => exact .connects atPc
      | false => exact .notConnects atPc
  · next result atPc =>
      cases step
      split_ifs with passed
      · subst passed
        exact .checkPasses atPc
      · exact .checkFails atPc passed
  · next atPc =>
      split_ifs at step with test
      cases step
      exact .interrupted atPc test.1 test.2
  · next success atPc =>
      cases step
      cases success with
      | true => exact .created atPc
      | false => exact .notCreated atPc
  · next success atPc =>
      cases step
      cases success with
      | true => exact .launched atPc
      | false => exact .notLaunched atPc
  · next atPc => cases step; exact .testB1 atPc
  · next success atPc => cases step; exact .setDuty atPc
  · next atPc => cases step; exact .testB2 atPc
  · next outcome atPc =>
      split at step
      · cases step; exact .slacInitExits atPc
      · cases step; exact .slacInitFails atPc
      · cases step; exact .slacInit atPc
  · next session input atPc =>
      obtain ⟨next, moved, rfl⟩ := Option.map_eq_some_iff.mp step
      exact .slac atPc moved
  · next environment memory atPc =>
      split at step
      · next exits => cases step; exact .sdpExits atPc exits
      · next result returned =>
          cases step
          split_ifs with passed
          · subst passed
            exact .sdpPasses atPc returned
          · exact .sdpFails atPc returned passed
  · next expired atPc =>
      cases step
      cases expired with
      | true => exact .expired atPc
      | false => exact .running atPc
  · next atPc =>
      cases step
      by_cases test : RthState.pluggedIn.value ≤ state.rthState.value ∧
          (state.pilot = .A1 ∨ state.pilot = .A2 ∨ state.pilot = .F)
      · rw [if_pos test]
        exact .removal atPc test.1 test.2
      · rw [if_neg test]
        exact .noRemoval atPc test
  · next success atPc => cases step; exact .removed atPc
  · next atPc =>
      cases step
      split_ifs with test
      · exact .captured atPc test
      · exact .awake atPc (by simpa using test)
  · next success shutdown atPc => cases step; exact .exiting atPc
  · cases step

/-- The server task leaves for `exit_app` at its test of `signal_captured`
only. -/
theorem server_captures_of_exited {task next : ServerState} {action : ServerAction}
    {published : List CString}
    (moved : serverStep task action = some (next, published))
    (atPc : next.pc = .exited) : action.captures := by
  cases serverTransition_of_step moved <;> simp_all [ServerAction.captures]

theorem client_captures_of_exited {task next : ClientState}
    {action : ClientAction} {published : List CString}
    (moved : clientStep task action = some (next, published))
    (atPc : next.pc = .exited) : action.captures := by
  cases clientTransition_of_step moved <;> simp_all [ClientAction.captures]

theorem processTransition_of_step {mqtt : MqttTopics} {device : SlacDevice}
    {state after : DeviceProcess} {action : ProcessAction}
    (step : processStep mqtt device state action = some after) :
    state.ended = none ∧ ProcessTransition mqtt device state action after := by
  unfold processStep at step
  by_cases ended : state.ended.isSome
  · rw [if_pos ended] at step
    cases step
  rw [if_neg ended] at step
  refine ⟨by simpa using ended, ?_⟩
  cases action with
  | main input => exact .main (mainTransition_of_step step)
  | beginRound =>
      simp only at step
      split at step
      · next task thread =>
          split at step
          · next test =>
              cases step
              exact .beginRound thread test.1 (by simpa using test.2)
          · cases step
      · cases step
  | deletePsock =>
      simp only at step
      split at step
      · next task thread =>
          split_ifs at step with atDeletion
          cases step
          exact .deletePsock thread atDeletion
      · cases step
  | newPsock =>
      simp only at step
      split at step
      · next task thread =>
          split_ifs at step with atCreation
          cases step
          exact .newPsock thread atCreation
      · cases step
  | server action =>
      simp only at step
      split at step
      · next task thread =>
          simp only [serverThreadStep] at step
          split_ifs at step with unsignalled early
          obtain ⟨⟨next, published⟩, moved, rfl⟩ :=
            Option.map_eq_some_iff.mp step
          simp only
          split
          · next atPc =>
              have captures := server_captures_of_exited moved atPc
              have signalled : state.signalCaptured ∧ state.round.atTest := by
                simpa [captures] using unsignalled
              exact .serverExits thread signalled.1 signalled.2 moved atPc
          · next atPc => exact .serverAborts thread moved atPc
          · next notExited notAborted =>
              exact .server thread (by simpa using early) moved
                ⟨notExited, notAborted⟩
      · cases step
  | client action =>
      simp only at step
      split at step
      · next task thread =>
          simp only [clientThreadStep] at step
          split_ifs at step with unsignalled
          obtain ⟨⟨next, published⟩, moved, rfl⟩ :=
            Option.map_eq_some_iff.mp step
          simp only
          split
          · next atPc =>
              have captures := client_captures_of_exited moved atPc
              exact .clientExits thread (by simpa [captures] using unsignalled)
                moved atPc
          · next atPc => exact .clientAborts thread moved atPc
          · exact .client thread moved
      · cases step
  | relayExiting success =>
      simp only at step
      split at step
      · next shutdown thread => cases step; exact .relayExiting thread
      · cases step
  | deliver topic message => cases step; exact .deliver
  | signal => cases step; exact .signal

/-! ## What only `main` changes -/

def ProcessAction.isMain : ProcessAction → Bool
  | .main _ => true
  | _ => false

/-- The variables of `main` and of the session are the same. -/
structure SameSession (state after : DeviceProcess) : Prop where
  main : after.main = state.main
  rthState : after.rthState = state.rthState
  pilot : after.pilot = state.pilot
  serverFlag : after.serverFlag = state.serverFlag
  slacInit : after.slacInit = state.slacInit

theorem sameSession_shutdownStep (device : SlacDevice) (success : Bool)
    (state : DeviceProcess) (shutdown : ShutdownPc) :
    SameSession state (shutdownStep device success state shutdown).1 := by
  cases shutdown with
  | controlPwm =>
      simp only [shutdownStep, DeviceProcess.write]
      split_ifs <;> constructor <;> rfl
  | closeServer =>
      simp only [shutdownStep]
      split_ifs <;> constructor <;> rfl
  | closeUart | exit => constructor <;> rfl

theorem ProcessTransition.sameSession {mqtt : MqttTopics}
    {device : SlacDevice} {state after : DeviceProcess}
    {action : ProcessAction}
    (moved : ProcessTransition mqtt device state action after)
    (notMain : action.isMain = false) : SameSession state after := by
  cases moved with
  | main moved => cases notMain
  | @relayExiting success shutdown thread =>
      obtain ⟨main, rthState, pilot, serverFlag, slacInit⟩ :=
        sameSession_shutdownStep device success state shutdown
      exact ⟨main, rthState, pilot, serverFlag, slacInit⟩
  | _ => constructor <;> rfl

end OpenRTH
