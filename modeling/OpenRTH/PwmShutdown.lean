import OpenRTH.DeviceTransitions
import OpenRTH.TransitionRuns

/-!
# Shutting down the PWM

`exit_app` switches the PWM off before anything else, but it is not the only way
in which the process of an EVSE ends.  The last PWM command is the one that
switches it off in every run that takes no other way and in which the UART
takes that command.
-/

namespace OpenRTH

/-- The last command of `control_pwm` among those written. -/
def lastControl (serial : List PwmCommand) : Option Bool :=
  (serial.filterMap fun
    | .controlPwm on => some on
    | .setPwm _ => none).getLast?

@[simp] theorem lastControl_append_controlPwm (serial : List PwmCommand)
    (on : Bool) : lastControl (serial ++ [.controlPwm on]) = some on := by
  simp [lastControl]

@[simp] theorem lastControl_append_setPwm (serial : List PwmCommand)
    (dutyCycle : ℕ) :
    lastControl (serial ++ [.setPwm dutyCycle]) = lastControl serial := by
  simp [lastControl]

namespace DeviceProcess

/-- The PWM has been switched off last. -/
def pwmOff (state : DeviceProcess) : Bool :=
  lastControl state.serial = some false

variable (command : PwmCommand) (success : Bool) (state : DeviceProcess)

@[simp] theorem lastControl_write_setPwm (dutyCycle : ℕ) :
    lastControl (state.write (.setPwm dutyCycle) success).serial =
      lastControl state.serial := by
  unfold write
  split_ifs <;> simp

theorem lastControl_write_controlPwm (on : Bool) :
    lastControl (state.write (.controlPwm on) success).serial =
      if state.uartOpen && success then some on
      else lastControl state.serial := by
  unfold write
  split_ifs <;> simp

end DeviceProcess

/-! ## Steps that end the process -/

/-- `perform_SDP` on the EVSE ends the process when it cannot answer a message
that passes the tests of the header. -/
def sdpExits (environment : SdpEnvironment) (memory : SdpMemory) : Bool :=
  let received := udpReceive memory.v2gtpInStream environment.received
  received.byteCount ≠ 0 ∧ PassesHeaderTests 0x9000 2 received.buffer ∧
    (environment.senderCreated = false ∨ environment.interfaces = none)

theorem createSDPResponse_eq_exits_iff (environment : SdpEnvironment)
    (message : StreamName) (memory : SdpMemory) :
    createSDPResponse environment message memory = .exits ↔
      environment.interfaces = none := by
  simp only [createSDPResponse, getIPv6]
  cases environment.interfaces with
  | none => simp
  | some interfaces =>
      simp only [reduceCtorEq, iff_false]
      split_ifs
      · simp
      · split <;> simp

theorem performSDP_EVSE_eq_exits_iff (environment : SdpEnvironment)
    (memory : SdpMemory) :
    (performSDP .EVSE environment memory).outcome = .exits ↔
      sdpExits environment memory := by
  simp only [performSDP, parseSDPMessage_EVSE_eq, sdpExits,
    udpReceive_byteCount, decide_eq_true_eq]
  by_cases empty : environment.received.byteCount = 0
  · simp [empty]
  · by_cases passes : PassesHeaderTests 0x9000 2
        (udpReceive memory.v2gtpInStream environment.received).buffer
    · cases created : environment.senderCreated with
      | false => simp [empty, passes]
      | true =>
          simp only [empty, passes, not_false_eq_true, ne_eq, if_true]
          simp only [lt_self_iff_false, not_true_eq_false, if_false]
          rw [← createSDPResponse_eq_exits_iff environment .outStream
            { memory with v2gtpInStream :=
              (udpReceive memory.v2gtpInStream environment.received).buffer }]
          split <;> simp_all
    · simp [empty, passes]

/-- The condition on a step under which the process goes on, or ends with the
PWM off. -/
def keepsPwm (state : DeviceProcess) (action : ProcessAction) : Bool :=
  state.pwmOff ||
    match action with
    | .main input =>
        match state.main, input with
        | .createServer, .created success => success
        | .connecting, .launched success | .launching, .launched success =>
            success
        | .slacInit, .slacInit outcome => outcome ≠ .exits
        | .slac _, .slac .exits => false
        | .sdp, .sdp environment memory => !sdpExits environment memory
        | .exiting .controlPwm, .wrote success => state.uartOpen && success
        | _, _ => true
    | .server (.create calls) => calls.addressFound && calls.socketOpened
    | .server (.accept calls) =>
        match state.relay with
        | .server ⟨.accepting isCreated, _, _, _⟩ =>
            isCreated && calls.listening && (!calls.ready || calls.accepted)
        | _ => true
    | .relayExiting success =>
        match state.relay with
        | .exiting .controlPwm => state.uartOpen && success
        | _ => true
    | _ => true

/-! ## The SLAC machine of the EVSE -/

/-- The session state is one that the loop knows. -/
def LegalSlac (session : SlacState) : Prop :=
  session.state ≤ evseStateMatched

instance (session : SlacState) : Decidable (LegalSlac session) :=
  inferInstanceAs (Decidable (_ ≤ _))

theorem legalSlac_evseLoop {session : SlacState} (legal : LegalSlac session) :
    LegalSlac (evseLoop session) ∧ (evseLoop session).pc ≠ .exited := by
  simp only [LegalSlac, evseStateMatched] at legal
  have known : session.state = 0 ∨ session.state = 1 ∨ session.state = 2 ∨
      session.state = 3 := by omega
  rcases known with state | state | state | state
  all_goals
    simp [LegalSlac, evseLoop, evseReturn, state, evseStateUnoccupied,
      evseStateUnmatched, evseStateMatched]

/-- The EVSE's machine ends the process in one of its calls only: its loop never
sees an illegal state. -/
theorem LegalSlac.step {config : SlacConfig} {session next : SlacState}
    {input : SlacInput} (legal : LegalSlac session)
    (step : evseSlacStep config session input = some next) :
    LegalSlac next ∧ (input ≠ .exits → next.pc ≠ .exited) := by
  have small : evseStateUnavailable ≤ evseStateMatched ∧
      evseStateUnoccupied ≤ evseStateMatched ∧
      evseStateUnmatched ≤ evseStateMatched := by decide
  have looped {session : SlacState}
      (legal : session.state ≤ evseStateMatched) :
      LegalSlac (evseLoop session) ∧
        (input ≠ .exits → (evseLoop session).pc ≠ .exited) :=
    (legalSlac_evseLoop legal).imp_right fun running _ => running
  unfold evseSlacStep at step
  split at step
  · cases step
    exact ⟨legal, by simp⟩
  · cases step
    split_ifs
    · exact looped small.2.2
    · exact ⟨legal, by simp⟩
  · cases step
    split_ifs
    · apply looped
      unfold retryOrGiveUp
      split_ifs
      · exact small.1
      · exact small.2.1
    · exact ⟨legal, by simp⟩
  · cases step
    split_ifs
    · split
      · exact ⟨legal, by simp⟩
      · exact looped le_rfl
    · exact looped small.2.1
  · cases step
    exact ⟨legal, by simp⟩
  · cases step
    split_ifs
    · exact ⟨legal, by simp [evseReturn]⟩
    · exact ⟨legal, by simp⟩
  · cases step
    split_ifs
    · exact ⟨small.2.1, by simp [evseReturn]⟩
    · exact ⟨legal, by simp⟩
  · cases step
    exact ⟨legal, by simp⟩
  · cases step
    exact ⟨legal, by simp⟩
  · cases step
    exact ⟨legal, by simp⟩
  · cases step

/-! ## The order of a shutdown -/

/-- Nothing but the shutdown ends the process, and every thread in the shutdown
has switched off the PWM first. -/
structure ShutdownOrder (state : DeviceProcess) : Prop where
  starting : state.main = .enablePwm →
    state.relay = .unlaunched ∧ state.serial = []
  mainOff : ∀ shutdown, state.main = .exiting shutdown →
    shutdown ≠ .controlPwm → lastControl state.serial = some false
  relayOff : ∀ shutdown, state.relay = .exiting shutdown →
    shutdown ≠ .controlPwm → lastControl state.serial = some false
  slacLegal : ∀ session, state.main = .slac session → LegalSlac session
  noClient : ∀ task, state.relay ≠ .client task
  endedOff : state.ended.isSome → lastControl state.serial = some false

/-- A step of `exit_app` in some thread: the PWM is off afterwards, and nothing
changes but the UART, the commands and the end of the process. -/
theorem shutdownStep_off {state : DeviceProcess} (success : Bool)
    {shutdown : ShutdownPc}
    (off : shutdown ≠ .controlPwm → lastControl state.serial = some false)
    (keeps : shutdown = .controlPwm →
      lastControl state.serial = some false ∨
        (state.uartOpen = true ∧ success = true)) :
    lastControl (shutdownStep .evse success state shutdown).1.serial =
      some false := by
  cases shutdown with
  | controlPwm =>
      simp only [shutdownStep, if_true,
        DeviceProcess.lastControl_write_controlPwm]
      split_ifs with written
      · rfl
      · rcases keeps rfl with already | taken
        · exact already
        · simp [taken] at written
  | closeUart => exact off (by simp)
  | closeServer =>
      simp only [shutdownStep]
      split_ifs <;> exact off (by simp)
  | exit => exact off (by simp)

@[simp] theorem shutdownStep_relay (state : DeviceProcess) (success : Bool)
    (shutdown : ShutdownPc) :
    (shutdownStep .evse success state shutdown).1.relay = state.relay := by
  cases shutdown with
  | closeServer =>
      simp only [shutdownStep]
      split_ifs <;> rfl
  | _ => simp [shutdownStep]

@[simp] theorem shutdownStep_main (state : DeviceProcess) (success : Bool)
    (shutdown : ShutdownPc) :
    (shutdownStep .evse success state shutdown).1.main = state.main := by
  cases shutdown with
  | closeServer =>
      simp only [shutdownStep]
      split_ifs <;> rfl
  | _ => simp [shutdownStep]

theorem ShutdownOrder.ends {state : DeviceProcess}
    (order : ShutdownOrder state)
    (off : lastControl state.serial = some false) (how : ProcessEnd) :
    ShutdownOrder { state with ended := some how } :=
  ⟨order.starting, order.mainOff, order.relayOff, order.slacLegal,
    order.noClient, fun _ => off⟩

theorem ShutdownOrder.goto {state after : DeviceProcess}
    (order : ShutdownOrder state) (running : after.ended = none)
    (relay : after.relay = state.relay)
    (serial : lastControl after.serial = lastControl state.serial)
    (started : after.main ≠ .enablePwm)
    (entering : ∀ shutdown, after.main = .exiting shutdown →
      shutdown = .controlPwm)
    (legal : ∀ session, after.main = .slac session → LegalSlac session) :
    ShutdownOrder after where
  starting := fun atStart => absurd atStart started
  mainOff := fun shutdown exiting past =>
    absurd (entering shutdown exiting) past
  relayOff := by
    rw [relay, serial]
    exact order.relayOff
  slacLegal := legal
  noClient := by
    rw [relay]
    exact order.noClient
  endedOff := by simp [running]

theorem ShutdownOrder.exitApp {state : DeviceProcess}
    (order : ShutdownOrder state) (running : state.ended = none) :
    ShutdownOrder state.exitApp :=
  order.goto running rfl rfl (by simp [DeviceProcess.exitApp])
    (by simp [DeviceProcess.exitApp]) (by simp [DeviceProcess.exitApp])

theorem ShutdownOrder.advance {state : DeviceProcess}
    (order : ShutdownOrder state) (running : state.ended = none)
    (rthState : RthState) : ShutdownOrder (state.advance rthState) :=
  order.goto running rfl rfl (by simp [DeviceProcess.advance])
    (by simp [DeviceProcess.advance]) (by simp [DeviceProcess.advance])

/-- The server thread goes on, or enters the shutdown. -/
theorem ShutdownOrder.relayMoves {state after : DeviceProcess}
    (order : ShutdownOrder state) (launched : state.relay ≠ .unlaunched)
    (main : after.main = state.main) (serial : after.serial = state.serial)
    (ended : after.ended = state.ended)
    (entering : ∀ shutdown, after.relay = .exiting shutdown →
      shutdown = .controlPwm)
    (noClient : ∀ task, after.relay ≠ .client task) :
    ShutdownOrder after where
  starting := by
    rw [main]
    exact fun atStart => absurd (order.starting atStart).1 launched
  mainOff := by
    rw [main, serial]
    exact order.mainOff
  relayOff := fun shutdown exiting past =>
    absurd (entering shutdown exiting) past
  slacLegal := by
    rw [main]
    exact order.slacLegal
  noClient := noClient
  endedOff := by
    rw [ended, serial]
    exact order.endedOff

theorem legalSlac_start :
    LegalSlac (slacStart .evse (slacSetting .evse)
      (initialSession .evse 0)) := by
  decide

theorem ShutdownOrder.dispatch {state : DeviceProcess}
    (order : ShutdownOrder state) (running : state.ended = none) :
    ShutdownOrder (dispatch .evse state) := by
  have legal := legalSlac_start
  unfold OpenRTH.dispatch
  split
  · exact order.advance running _
  · exact order.goto running rfl rfl (by simp) (by simp) (by simp)
  · exact order.goto running rfl rfl (by simp) (by simp) (by simp)
  · exact order.goto running rfl rfl (by simp) (by simp) (by simp)
  · split_ifs <;>
      exact order.goto running rfl rfl (by simp) (by simp) (by simp)
  · split_ifs
    · exact order.goto running rfl rfl (by simp) (by simp)
        (by simpa using legal)
    · exact order.goto running rfl rfl (by simp) (by simp) (by simp)
  · exact order.goto running rfl rfl (by simp) (by simp) (by simp)
  · exact order.advance running _
  · exact order.goto running rfl rfl (by simp) (by simp) (by simp)
  · exact order.exitApp running

theorem ShutdownOrder.afterSlac {state : DeviceProcess}
    {session next : SlacState} {input : SlacInput}
    (order : ShutdownOrder state) (running : state.ended = none)
    (keeps : keepsPwm state (.main (.slac input)))
    (atPc : state.main = .slac session)
    (moved : slacStep .evse session input = some next) :
    ShutdownOrder (afterSlac next state) := by
  obtain ⟨legal, stays⟩ := (order.slacLegal session atPc).step moved
  unfold OpenRTH.afterSlac
  split
  · next atEnd =>
      refine order.ends ?_ .exit
      by_contra on
      have noExit : input ≠ .exits := by
        rintro rfl
        simp [keepsPwm, atPc, DeviceProcess.pwmOff, on] at keeps
      exact stays noExit atEnd
  · split_ifs
    · exact order.advance running _
    · exact order.exitApp running
  · exact order.goto running rfl rfl (by simp) (by simp) (by simpa)

theorem ShutdownOrder.main {state after : DeviceProcess} {input : MainInput}
    (order : ShutdownOrder state) (running : state.ended = none)
    (keeps : keepsPwm state (.main input))
    (moved : MainTransition .evse state input after) :
    ShutdownOrder after := by
  cases moved with
  | enablePwm atPc =>
      have unlaunched := (order.starting atPc).1
      constructor <;> simp [unlaunched, running]
  | dispatch atPc => exact order.dispatch running
  | checkPasses atPc => exact order.advance running _
  | notCreated atPc =>
      exact order.ends (by simpa [keepsPwm, atPc, DeviceProcess.pwmOff]
        using keeps) .exit
  | notConnects atPc | notLaunched atPc =>
      exact order.ends (by simpa [keepsPwm, atPc, DeviceProcess.pwmOff]
        using keeps) .terminate
  | launched atPc =>
      constructor
      case relayOff => simp [launch]
      case noClient => simp [launch]
      all_goals simp [launch, running]
  | testB2 atPc => exact order.advance running _
  | slacInitExits atPc =>
      exact order.ends (by simpa [keepsPwm, atPc, DeviceProcess.pwmOff]
        using keeps) .exit
  | slacInit atPc =>
      have legal := legalSlac_start
      exact order.goto running rfl rfl (by simp) (by simp) (by simpa using legal)
  | slac atPc moved => exact order.afterSlac running keeps atPc moved
  | sdpExits atPc exits =>
      have fails := (performSDP_EVSE_eq_exits_iff _ _).mp exits
      exact order.ends (by simpa [keepsPwm, atPc, DeviceProcess.pwmOff, fails]
        using keeps) .exit
  | sdpPasses atPc => exact order.advance running _
  | running atPc => exact order.advance running _
  | removal atPc =>
      exact order.goto running rfl rfl (by simp) (by simp) (by simp)
  | @removed success atPc =>
      constructor
      case relayOff =>
        intro shutdown exiting past
        have off := order.relayOff shutdown
          (by simpa [DeviceProcess.exitApp] using exiting) past
        simp [DeviceProcess.exitApp,
          DeviceProcess.lastControl_write_controlPwm, off]
      case noClient => simpa [DeviceProcess.exitApp] using order.noClient
      all_goals simp [DeviceProcess.exitApp, running]
  | @exiting success shutdown atPc =>
      have off := shutdownStep_off success (order.mainOff shutdown atPc) (by
        rintro rfl
        simpa [keepsPwm, atPc, DeviceProcess.pwmOff] using keeps)
      exact ⟨by simp, fun _ _ _ => off, fun _ _ _ => off, by simp,
        by simpa using order.noClient, fun _ => off⟩
  | testB1 atPc =>
      split_ifs <;>
        exact order.goto running rfl rfl (by simp) (by simp) (by simp)
  | setPwm atPc | setDuty atPc =>
      exact order.goto (by simpa) (by simp) (by simp) (by simp) (by simp)
        (by simp)
  | sample atPc | connects atPc | created atPc | noRemoval atPc
  | awake atPc =>
      exact order.goto running rfl rfl (by simp) (by simp) (by simp)
  | _ => exact order.exitApp running

theorem lastControl_of_serverAborts {state : DeviceProcess}
    {task next : ServerState} {action : ServerAction}
    {published : List CString} (thread : state.relay = .server task)
    (keeps : keepsPwm state (.server action))
    (moved : serverStep { task with globals := state.globals } action =
      some (next, published)) (atPc : next.pc = .aborted) :
    lastControl state.serial = some false := by
  by_contra on
  cases serverTransition_of_step moved with
  | @createThrows calls atAgain throws =>
      rw [CreateServerCalls.createServer_eq_throws_iff] at throws
      simp [keepsPwm, DeviceProcess.pwmOff, on, throws] at keeps
  | @acceptThrows calls isCreated atAccept throws =>
      rw [AcceptCalls.listenAndAccept_eq_throws_iff] at throws
      obtain ⟨pc, globals, connection, writes⟩ := task
      obtain rfl : pc = .accepting isCreated := atAccept
      simp [keepsPwm, DeviceProcess.pwmOff, on, thread, throws] at keeps
  | _ => simp_all

theorem ShutdownOrder.step {mqtt : MqttTopics} {state after : DeviceProcess}
    {action : ProcessAction} (order : ShutdownOrder state)
    (keeps : keepsPwm state action)
    (step : (deviceProcess mqtt .evse).step state action = some after) :
    ShutdownOrder after := by
  obtain ⟨running, moved⟩ := processTransition_of_step step
  cases moved with
  | main moved => exact order.main running keeps moved
  | @relayExiting success shutdown thread =>
      have off := shutdownStep_off success (order.relayOff shutdown thread) (by
        rintro rfl
        simpa [keepsPwm, thread, DeviceProcess.pwmOff] using keeps)
      refine ⟨?_, fun _ _ _ => off, fun _ _ _ => off, ?_, by simp,
        fun _ => off⟩
      · intro atStart
        rw [shutdownStep_main] at atStart
        have unlaunched := (order.starting atStart).1
        simp [thread] at unlaunched
      · simpa using order.slacLegal
  | serverAborts thread moved atPc =>
      exact order.ends (lastControl_of_serverAborts thread keeps moved atPc)
        .terminate
  | serverExits thread =>
      exact order.relayMoves (by simp [thread]) rfl rfl rfl (by simp)
        (by simp)
  | server thread =>
      exact order.relayMoves (by simp [thread]) rfl rfl rfl (by simp)
        (by simp)
  | clientAborts thread => exact absurd thread (order.noClient _)
  | clientExits thread => exact absurd thread (order.noClient _)
  | client thread => exact absurd thread (order.noClient _)
  | beginRound | deletePsock | newPsock | deliver | signal =>
      exact ⟨order.starting, order.mainOff, order.relayOff, order.slacLegal,
        order.noClient, order.endedOff⟩

theorem ShutdownOrder.start (mqtt : MqttTopics) :
    ShutdownOrder (deviceProcess mqtt .evse).initial := by
  constructor <;> simp [deviceProcess]

theorem shutdownOrder_of_reaches {mqtt : MqttTopics} {state : DeviceProcess}
    (reaches : (deviceProcess mqtt .evse).Reaches
      (fun state action => keepsPwm state action) state) :
    ShutdownOrder state :=
  reaches.invariant (.start mqtt) fun order keeps step => order.step keeps step

/-- In every run of an EVSE whose steps all meet the condition, the last PWM
command before the process ends is the one that switches the PWM off. -/
theorem deviceProcess_pwm_off (mqtt : MqttTopics) (state : DeviceProcess)
    (reaches : (deviceProcess mqtt .evse).Reaches
      (fun state action => keepsPwm state action) state)
    (ended : state.ended.isSome) :
    lastControl state.serial = some false :=
  (shutdownOrder_of_reaches reaches).endedOff ended

/-- From one check to the next: the loop ends, and starts again with a
sample. -/
def nextRound (pilot : PilotState) : List ProcessAction :=
  [.main .next, .main .next, .main (.sampled pilot true), .main .next]

/-- An EVSE that has passed the checks, in `UNPLUGGED_WAIT`. -/
def checksPassed : List ProcessAction :=
  [.main (.wrote true), .main (.wrote true), .main (.sampled .A1 true),
    .main .next] ++
  nextRound .A1 ++ [.main (.returned 0)] ++
  nextRound .A1 ++ [.main (.launched true), .main (.returned 0)] ++
  nextRound .A1 ++ [.main (.returned 0)] ++
  nextRound .A1

/-- The server thread creates its first socket. -/
def socketCreated : List ProcessAction :=
  [.beginRound, .newPsock, .server (.create ⟨true, true, true, true⟩)]

/-- A signal after the server has been launched ends the process by
`exit_app`. -/
theorem deviceProcess_signal_pwm_off :
    ∃ state, (deviceProcess benchTopics .evse).Reaches
        (fun state action => keepsPwm state action) state ∧
      state.ended = some .exitApp ∧
      lastControl state.serial = some false := by
  obtain ⟨state, reaches, ended⟩ :=
    TransitionSystem.exists_reaches_of_follow
      (deviceProcess benchTopics .evse)
      (fun state action => keepsPwm state action)
      (checksPassed ++ [.main (.created true), .main (.launched true)] ++
        socketCreated ++ [.main .next, .main .next, .signal, .main .next,
          .main .next] ++
        List.replicate 4 (.main (.wrote true)))
      (fun state => state.ended = some .exitApp) (by decide)
  have ended : state.ended = some .exitApp := by simpa using ended
  exact ⟨state, reaches, ended,
    deviceProcess_pwm_off benchTopics state reaches (by simp [ended])⟩

/-- The listener on UDP port 15118 cannot be created: the process ends with the
PWM on. -/
theorem deviceProcess_pwm_left_on :
    ∃ state, (deviceProcess benchTopics .evse).Reachable state ∧
      state.ended.isSome ∧ lastControl state.serial ≠ some false := by
  obtain ⟨state, reaches, found⟩ :=
    TransitionSystem.exists_reaches_of_follow
      (deviceProcess benchTopics .evse) (fun _ _ => True)
      (checksPassed ++ [.main (.created false)])
      (fun state => state.ended = some .exit ∧
        state.serial = [.controlPwm true, .setPwm 999]) (by decide)
  simp only [decide_eq_true_eq] at found
  exact ⟨state, reaches, by simp [found], by simp [found, lastControl]⟩

end OpenRTH
