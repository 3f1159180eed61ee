import OpenRTH.PwmShutdown

/-!
# Closing the server socket

`exit_app` calls `Server.close`, which goes through `m_psock` without a test.
Whether there is a socket depends on the place of the server thread in its
round, and a call of `exit_app` is safe when the thread is at a place from
which it cannot come to the `delete` at the start of a round.
-/

namespace OpenRTH

/-! ## The place of the server thread -/

/-- There is a socket while the server thread is at this place. -/
def RoundPc.holdsSocket : RoundPc → Bool
  | .firstTest | .creation => false
  | .test | .deletion | .opening | .serving => true

/-- The state of the server thread fits its place in the round. -/
def RelayThread.AtPlace (round : RoundPc) : RelayThread → Prop
  | .unlaunched => round = .firstTest
  | .server task =>
      (task.pc = .again ↔ round ≠ .serving) ∧ task.pc ≠ .exited ∧
        task.pc ≠ .aborted
  | .client _ => False
  | .exiting _ => round.atTest = true

/-- The thread is launched once, and its place says whether there is a
socket. -/
structure SocketPlaced (state : DeviceProcess) : Prop where
  psock : state.psock = state.round.holdsSocket
  place : state.relay.AtPlace state.round
  unlaunched : state.serverFlag = false → state.relay = .unlaunched
  launching : state.main = .createServer ∨ state.main = .launching →
    state.serverFlag = false

/-- `main` leaves the socket and, once it is launched, the thread alone. -/
structure SocketFrame (state after : DeviceProcess) : Prop where
  psock : after.psock = state.psock
  relay : after.relay = state.relay
  round : after.round = state.round
  serverFlag : after.serverFlag = state.serverFlag
  signalCaptured : after.signalCaptured = state.signalCaptured

theorem socketFrame_write (command : PwmCommand) (success : Bool)
    (state : DeviceProcess) : SocketFrame state (state.write command success) := by
  unfold DeviceProcess.write
  split_ifs <;> constructor <;> rfl

theorem socketFrame_shutdownStep (success : Bool) (state : DeviceProcess)
    (shutdown : ShutdownPc) :
    SocketFrame state (shutdownStep .evse success state shutdown).1 := by
  cases shutdown with
  | controlPwm =>
      simp only [shutdownStep, if_true]
      exact socketFrame_write _ _ _
  | closeServer =>
      simp only [shutdownStep]
      split_ifs <;> constructor <;> rfl
  | closeUart | exit => constructor <;> rfl

theorem socketFrame_dispatch (state : DeviceProcess) :
    SocketFrame state (dispatch .evse state) := by
  unfold dispatch
  split <;> (try split_ifs) <;> constructor <;> rfl

theorem socketFrame_afterSlac (session : SlacState) (state : DeviceProcess) :
    SocketFrame state (afterSlac session state) := by
  unfold afterSlac
  split <;> (try split_ifs) <;> constructor <;> rfl

theorem socketFrame_main {state after : DeviceProcess} {input : MainInput}
    (moved : MainTransition .evse state input after) :
    SocketFrame state after ∨
      state.main = .launching ∧ after = launch .evse state := by
  cases moved with
  | launched atPc => exact .inr ⟨atPc, rfl⟩
  | dispatch atPc => exact .inl (socketFrame_dispatch state)
  | slac atPc moved => exact .inl (socketFrame_afterSlac _ state)
  | enablePwm | setPwm | setDuty | removed =>
      obtain ⟨psock, relay, round, serverFlag, signalCaptured⟩ :=
        socketFrame_write _ _ state
      exact .inl ⟨psock, relay, round, serverFlag, signalCaptured⟩
  | @exiting success shutdown atPc =>
      obtain ⟨psock, relay, round, serverFlag, signalCaptured⟩ :=
        socketFrame_shutdownStep success state shutdown
      exact .inl ⟨psock, relay, round, serverFlag, signalCaptured⟩
  | _ => exact .inl ⟨rfl, rfl, rfl, rfl, rfl⟩

/-- The block that launches the thread is entered while `server_flag` is not
set. -/
theorem launching_main {state after : DeviceProcess} {input : MainInput}
    (before : state.main = .createServer ∨ state.main = .launching →
      state.serverFlag = false)
    (moved : MainTransition .evse state input after)
    (launching : after.main = .createServer ∨ after.main = .launching) :
    state.serverFlag = false := by
  cases moved with
  | dispatch atPc =>
      revert launching
      unfold dispatch
      split <;> (try split_ifs) <;>
        simp_all [DeviceProcess.advance, DeviceProcess.exitApp]
  | slac atPc moved =>
      revert launching
      unfold afterSlac
      split <;> (try split_ifs) <;>
        simp [DeviceProcess.advance, DeviceProcess.exitApp, atPc]
  | launched atPc => exact before (.inr atPc)
  | created atPc => exact before (.inl atPc)
  | notCreated | notLaunched => exact before launching
  | testB1 => split_ifs at launching <;> simp at launching
  | removal => simp at launching
  | _ =>
      simp_all [DeviceProcess.advance, DeviceProcess.exitApp]

theorem SocketPlaced.main_step {state after : DeviceProcess}
    {input : MainInput} (before : SocketPlaced state)
    (moved : MainTransition .evse state input after) : SocketPlaced after := by
  obtain ⟨psock, place, unlaunched, launching⟩ := before
  rcases socketFrame_main moved with frame | ⟨atPc, rfl⟩
  · refine ⟨?_, ?_, ?_, ?_⟩
    · rw [frame.psock, frame.round]
      exact psock
    · rw [frame.relay, frame.round]
      exact place
    · rw [frame.serverFlag, frame.relay]
      exact unlaunched
    · rw [frame.serverFlag]
      exact launching_main launching moved
  · have fresh := unlaunched (launching (.inr atPc))
    rw [fresh] at place
    have atStart : state.round = .firstTest := place
    rw [atStart] at psock
    exact ⟨psock, by simp [launch, RelayThread.AtPlace], nofun,
      by simp [launch]⟩

theorem SocketPlaced.serverFlag {state : DeviceProcess}
    (placed : SocketPlaced state) (launched : state.relay ≠ .unlaunched) :
    state.serverFlag = true := by
  by_contra unset
  exact launched (placed.unlaunched (by simpa using unset))

theorem SocketPlaced.relayMoves {state after : DeviceProcess}
    (before : SocketPlaced state) (launched : state.relay ≠ .unlaunched)
    (main : after.main = state.main)
    (serverFlag : after.serverFlag = state.serverFlag)
    (psock : after.psock = after.round.holdsSocket)
    (place : after.relay.AtPlace after.round) : SocketPlaced after where
  psock := psock
  place := place
  unlaunched := by
    rw [serverFlag, before.serverFlag launched]
    nofun
  launching := by
    rw [main, serverFlag]
    exact before.launching

/-- A task that goes on behind the test of the signal has a socket. -/
theorem SocketPlaced.psock_of_server {state : DeviceProcess}
    {task next : ServerState} {action : ServerAction}
    {published : List CString} (placed : SocketPlaced state)
    (thread : state.relay = .server task)
    (opening : action.creates → state.round = .opening)
    (moved : serverStep { task with globals := state.globals } action =
      some (next, published)) (stays : next.pc ≠ .exited) :
    state.psock = true := by
  have place := placed.place
  rw [thread] at place
  rw [placed.psock]
  by_cases atAgain : task.pc = .again
  · have creates : action.creates := by
      cases serverTransition_of_step moved <;>
        simp_all [ServerAction.creates]
    rw [opening creates]
    rfl
  · have serving : state.round = .serving := by
      by_contra other
      exact atAgain (place.1.mpr other)
    rw [serving]
    rfl

theorem eq_again_iff_roundOf_ne (pc : ServerPc) :
    pc = .again ↔ roundOf pc ≠ .serving := by
  cases pc <;> simp [roundOf]

theorem holdsSocket_roundOf (pc : ServerPc) :
    (roundOf pc).holdsSocket = true := by
  cases pc <;> rfl

theorem SocketPlaced.step {mqtt : MqttTopics} {state after : DeviceProcess}
    {action : ProcessAction} (before : SocketPlaced state)
    (step : (deviceProcess mqtt .evse).step state action = some after) :
    SocketPlaced after := by
  obtain ⟨running, moved⟩ := processTransition_of_step step
  cases moved with
  | main moved => exact before.main_step moved
  | @beginRound task thread atTest =>
      have place := before.place
      rw [thread] at place
      have atAgain : task.pc = .again := place.1.mpr (by
        rintro serving
        rw [serving] at atTest
        cases atTest)
      refine before.relayMoves (by simp [thread]) rfl rfl ?_ ?_
      · cases present : state.psock <;> simp [RoundPc.holdsSocket]
      · rw [thread]
        refine ⟨by simp only [atAgain]; split_ifs <;> simp, place.2⟩
  | @deletePsock task thread atDeletion =>
      have place := before.place
      rw [thread, atDeletion] at place
      exact before.relayMoves (by simp [thread]) rfl rfl rfl
        (by rw [thread]; exact ⟨by simpa using place.1, place.2⟩)
  | @newPsock task thread atCreation =>
      have place := before.place
      rw [thread, atCreation] at place
      exact before.relayMoves (by simp [thread]) rfl rfl rfl
        (by rw [thread]; exact ⟨by simpa using place.1, place.2⟩)
  | serverExits thread captured atTest =>
      exact before.relayMoves (by simp [thread]) rfl rfl before.psock atTest
  | serverAborts =>
      exact ⟨before.psock, before.place, before.unlaunched, before.launching⟩
  | server thread opening moved stays =>
      refine before.relayMoves (by simp [thread]) rfl rfl ?_
        ⟨eq_again_iff_roundOf_ne _, stays⟩
      rw [holdsSocket_roundOf]
      exact before.psock_of_server thread opening moved stays.1
  | @relayExiting success shutdown thread =>
      have frame := socketFrame_shutdownStep success state shutdown
      have place := before.place
      rw [thread] at place
      refine before.relayMoves (by simp [thread]) (by simp) frame.serverFlag
        ?_ ?_
      · exact frame.psock.trans (before.psock.trans (by rw [← frame.round]))
      · show RoundPc.atTest _ = true
        rw [frame.round]
        exact place
  | clientExits thread | clientAborts thread | client thread =>
      have place := before.place
      rw [thread] at place
      exact place.elim
  | deliver | signal =>
      exact ⟨before.psock, before.place, before.unlaunched, before.launching⟩

theorem socketPlaced_of_reachable {mqtt : MqttTopics} {state : DeviceProcess}
    (reachable : (deviceProcess mqtt .evse).Reachable state) :
    SocketPlaced state := by
  refine reachable.invariant ?_ fun before _ step => before.step step
  exact ⟨rfl, rfl, fun _ => rfl, by simp [deviceProcess]⟩

/-! ## Where the socket stays -/

/-- No progress of the server thread from its place leads to a point without a
socket: it has its socket, and it is in `exit_app`, or on its way to a test at
which the signal is captured, or about to throw because the socket it listens on
was not created. -/
def socketStays (state : DeviceProcess) : Bool :=
  match state.relay with
  | .unlaunched | .client _ => false
  | .exiting _ => state.round = .test
  | .server task =>
      match state.round with
      | .firstTest | .deletion | .creation => false
      | .test | .opening => state.signalCaptured
      | .serving => state.signalCaptured || task.pc = .accepting false

theorem socketStays_congr {state after : DeviceProcess}
    (frame : SocketFrame state after) :
    socketStays after = socketStays state := by
  unfold socketStays
  rw [frame.relay, frame.round, frame.signalCaptured]

theorem holdsSocket_of_socketStays {state : DeviceProcess}
    (stays : socketStays state) : state.round.holdsSocket = true := by
  unfold socketStays at stays
  cases place : state.round
  case firstTest | creation => split at stays <;> simp [place] at stays
  all_goals rfl

/-- Without the signal, the socket stays for the thread only while it cannot but
throw. -/
theorem socketStays_server {state : DeviceProcess} {task : ServerState}
    (thread : state.relay = .server task) (stays : socketStays state) :
    state.signalCaptured = true ∨
      state.round = .serving ∧ task.pc = .accepting false := by
  unfold socketStays at stays
  rw [thread] at stays
  cases place : state.round <;> simp_all

theorem signalCaptured_of_socketStays {state : DeviceProcess}
    {task next : ServerState} {action : ServerAction}
    {published : List CString} (stays : socketStays state)
    (thread : state.relay = .server task)
    (moved : serverStep { task with globals := state.globals } action =
      some (next, published)) (running : next.pc ≠ .aborted) :
    state.signalCaptured = true := by
  rcases socketStays_server thread stays with captured | ⟨-, atPc⟩
  · exact captured
  · cases serverTransition_of_step moved <;>
      simp_all [AcceptCalls.listenAndAccept]

theorem socketStays_step {mqtt : MqttTopics} {state after : DeviceProcess}
    {action : ProcessAction} (placed : SocketPlaced state)
    (stays : socketStays state)
    (step : (deviceProcess mqtt .evse).step state action = some after) :
    socketStays after := by
  obtain ⟨running, moved⟩ := processTransition_of_step step
  cases moved with
  | main moved =>
      rcases socketFrame_main moved with frame | ⟨atPc, rfl⟩
      · rwa [socketStays_congr frame]
      · have fresh := placed.unlaunched (placed.launching (.inr atPc))
        simp [socketStays, fresh] at stays
  | beginRound thread atTest quiet =>
      rcases socketStays_server thread stays with captured | ⟨serving, -⟩
      · simp [quiet] at captured
      · simp [serving, RoundPc.atTest] at atTest
  | deletePsock thread place | newPsock thread place =>
      simp [socketStays, thread, place] at stays
  | serverExits thread captured atTest =>
      unfold socketStays at stays
      rw [thread] at stays
      cases place : state.round <;> simp_all [socketStays, RoundPc.atTest]
  | serverAborts => exact stays
  | @server action task next published thread opening moved going =>
      have captured := signalCaptured_of_socketStays stays thread moved going.2
      unfold socketStays
      cases next.pc <;> simp [roundOf, captured]
  | @relayExiting success shutdown thread =>
      have frame := socketFrame_shutdownStep success state shutdown
      simp only [socketStays, thread] at stays
      simp only [socketStays, frame.round]
      exact stays
  | clientExits thread | clientAborts thread | client thread =>
      simp [socketStays, thread] at stays
  | deliver => exact stays
  | signal =>
      unfold socketStays at stays ⊢
      split <;> simp_all
      split at stays <;> simp_all

/-! ## Running through `exit_app` -/

/-- The steps of `exit_app` that are left. -/
def ShutdownPc.stepsLeft : ShutdownPc → ℕ
  | .controlPwm => 4
  | .closeUart => 3
  | .closeServer => 2
  | .exit => 1

/-- A thread in `exit_app`, running on, ends the process with `exit(0)`,
whatever the UART does. -/
structure RunsThrough (mqtt : MqttTopics) (state : DeviceProcess) : Prop where
  main : ∀ shutdown, state.main = .exiting shutdown →
    ∀ results : List Bool, results.length = shutdown.stepsLeft →
      ∃ final, (deviceProcess mqtt .evse).run state
          (results.map fun success => .main (.wrote success)) = some final ∧
        final.ended = some .exitApp
  relay : ∀ shutdown, state.relay = .exiting shutdown →
    ∀ results : List Bool, results.length = shutdown.stepsLeft →
      ∃ final, (deviceProcess mqtt .evse).run state
          (results.map fun success => .relayExiting success) = some final ∧
        final.ended = some .exitApp

theorem ended_shutdownStep_of_psock (success : Bool) {state : DeviceProcess}
    (shutdown : ShutdownPc) (present : state.psock = true)
    (running : state.ended = none) :
    (shutdownStep .evse success state shutdown).1.ended =
        (if shutdown = .exit then some .exitApp else none) ∧
      (shutdown ≠ .exit →
        (shutdownStep .evse success state shutdown).2.stepsLeft + 1 =
          shutdown.stepsLeft) := by
  cases shutdown <;>
    simp [shutdownStep, present, running, ShutdownPc.stepsLeft]

/-- The steps of a thread in `exit_app`: `goto` says where the thread is. -/
theorem exists_run_of_thread {mqtt : MqttTopics} (act : Bool → ProcessAction)
    (goto : ShutdownPc → DeviceProcess → DeviceProcess)
    (psock : ∀ shutdown state, (goto shutdown state).psock = state.psock)
    (ended : ∀ shutdown state, (goto shutdown state).ended = state.ended)
    (steps : ∀ shutdown state success, (goto shutdown state).ended = none →
      (deviceProcess mqtt .evse).step (goto shutdown state) (act success) =
        some (goto
          (shutdownStep .evse success (goto shutdown state) shutdown).2
          (shutdownStep .evse success (goto shutdown state) shutdown).1))
    (results : List Bool) (shutdown : ShutdownPc) (state : DeviceProcess)
    (present : (goto shutdown state).psock = true)
    (running : (goto shutdown state).ended = none)
    (enough : results.length = shutdown.stepsLeft) :
    ∃ final, (deviceProcess mqtt .evse).run (goto shutdown state)
        (results.map act) = some final ∧ final.ended = some .exitApp := by
  induction results generalizing state shutdown with
  | nil => cases shutdown <;> cases enough
  | cons success results ih =>
      obtain ⟨endedAfter, left⟩ :=
        ended_shutdownStep_of_psock success shutdown present running
      rw [List.map_cons, TransitionSystem.run, steps shutdown state success
        running, Option.bind_some]
      by_cases last : shutdown = .exit
      · subst last
        obtain rfl : results = [] := by simpa [ShutdownPc.stepsLeft] using enough
        exact ⟨_, rfl, by rw [ended, endedAfter, if_pos rfl]⟩
      · rw [if_neg last] at endedAfter
        have fewer := left last
        rw [List.length_cons] at enough
        apply ih
        · rw [psock, (socketFrame_shutdownStep _ _ _).psock, present]
        · rw [ended, endedAfter]
        · omega

theorem runsThrough_of_psock (mqtt : MqttTopics) {state : DeviceProcess}
    (present : state.psock = true) (running : state.ended = none) :
    RunsThrough mqtt state where
  main := by
    intro shutdown atPc results enough
    have here : { state with main := .exiting shutdown } = state := by
      rw [← atPc]
    rw [← here]
    refine exists_run_of_thread (fun success => .main (.wrote success))
      (fun shutdown state => { state with main := .exiting shutdown })
      (fun _ _ => rfl) (fun _ _ => rfl) ?_ results shutdown state present
      running enough
    intro shutdown state success running
    simp [deviceProcess, processStep, mainStep]
    exact running
  relay := by
    intro shutdown atPc results enough
    have here : { state with relay := .exiting shutdown } = state := by
      rw [← atPc]
    rw [← here]
    refine exists_run_of_thread .relayExiting
      (fun shutdown state => { state with relay := .exiting shutdown })
      (fun _ _ => rfl) (fun _ _ => rfl) ?_ results shutdown state present
      running enough
    intro shutdown state success running
    simp [deviceProcess, processStep]
    exact running

/-- Whatever the threads do from here, no call goes through a null `m_psock`,
there is a socket when `exit_app` closes it, and as long as the process has not
ended, a thread in `exit_app` that goes on comes to its `exit(0)`. -/
def ClosesSocket (mqtt : MqttTopics) (state : DeviceProcess) : Prop :=
  ∀ final, (deviceProcess mqtt .evse).CanReach state final →
    final.ended ≠ some .nullServer ∧
      (final.main = .exiting .closeServer ∨
        final.relay = .exiting .closeServer → final.psock = true) ∧
      (final.ended = none → RunsThrough mqtt final)

/-- A step crashes in `exit_app` only without a socket. -/
theorem ended_ne_nullServer_step {mqtt : MqttTopics}
    {state after : DeviceProcess} {action : ProcessAction}
    (present : state.psock = true)
    (step : (deviceProcess mqtt .evse).step state action = some after) :
    after.ended ≠ some .nullServer := by
  have ended_shutdownStep (success : Bool) (shutdown : ShutdownPc)
      (running : state.ended = none) :
      (shutdownStep .evse success state shutdown).1.ended ≠
        some .nullServer := by
    rw [(ended_shutdownStep_of_psock success shutdown present running).1]
    split_ifs <;> simp
  obtain ⟨running, moved⟩ := processTransition_of_step step
  cases moved with
  | main moved =>
      cases moved with
      | dispatch =>
          unfold dispatch
          split <;> (try split_ifs) <;>
            simp [DeviceProcess.advance, DeviceProcess.exitApp, running]
      | slac =>
          unfold afterSlac
          split <;> (try split_ifs) <;>
            simp [DeviceProcess.advance, DeviceProcess.exitApp, running]
      | exiting => exact ended_shutdownStep _ _ running
      | removal => split_ifs <;> simp [DeviceProcess.exitApp, running]
      | _ =>
          simp [DeviceProcess.advance, DeviceProcess.exitApp, launch, running]
  | relayExiting => exact ended_shutdownStep _ _ running
  | serverAborts | clientAborts => rintro ⟨⟩
  | _ => simp [running]

/-- The socket stays, and no call has gone through a null `m_psock`. -/
structure SocketLasts (state : DeviceProcess) : Prop where
  placed : SocketPlaced state
  stays : socketStays state
  ended : state.ended ≠ some .nullServer

theorem SocketLasts.psock {state : DeviceProcess} (lasts : SocketLasts state) :
    state.psock = true :=
  lasts.placed.psock.trans (holdsSocket_of_socketStays lasts.stays)

theorem SocketLasts.step {mqtt : MqttTopics} {state after : DeviceProcess}
    {action : ProcessAction} (before : SocketLasts state)
    (step : (deviceProcess mqtt .evse).step state action = some after) :
    SocketLasts after :=
  ⟨before.placed.step step, socketStays_step before.placed before.stays step,
    ended_ne_nullServer_step before.psock step⟩

theorem SocketLasts.closesSocket (mqtt : MqttTopics) {state : DeviceProcess}
    (lasts : SocketLasts state) : ClosesSocket mqtt state := by
  intro final reaches
  have lastsFinal : SocketLasts final :=
    reaches.invariant (fun before step => before.step step) lasts
  exact ⟨lastsFinal.ended, fun _ => lastsFinal.psock,
    runsThrough_of_psock mqtt lastsFinal.psock⟩

/-! ## Where the socket is lost -/

/-- Some run from here ends in a call through a null `m_psock`. -/
def CanCrash (mqtt : MqttTopics) (state : DeviceProcess) : Prop :=
  ∃ final, (deviceProcess mqtt .evse).CanReach state final ∧
    final.ended = some .nullServer

theorem CanCrash.head {mqtt : MqttTopics} {state after : DeviceProcess}
    (action : ProcessAction)
    (step : (deviceProcess mqtt .evse).step state action = some after)
    (rest : CanCrash mqtt after) : CanCrash mqtt state := by
  obtain ⟨final, reaches, ended⟩ := rest
  exact ⟨final, reaches.head action step, ended⟩

theorem canCrash_main (mqtt : MqttTopics) {state : DeviceProcess}
    (called : state.main = .exiting .controlPwm) (running : state.ended = none)
    (absent : state.psock = false) : CanCrash mqtt state := by
  have ran : ((deviceProcess mqtt .evse).run state
      (List.replicate 3 (.main (.wrote true)))).any
        fun final => final.ended = some .nullServer := by
    simp [List.replicate, TransitionSystem.run, deviceProcess, processStep,
      mainStep, shutdownStep, called, running, absent]
  obtain ⟨final, reaches, ended⟩ := (Option.any_eq_true _ _).mp ran
  exact ⟨final, ⟨_, reaches⟩, by simpa using ended⟩

theorem canCrash_relay (mqtt : MqttTopics) {state : DeviceProcess}
    (called : state.relay = .exiting .controlPwm) (running : state.ended = none)
    (absent : state.psock = false) : CanCrash mqtt state := by
  have ran : ((deviceProcess mqtt .evse).run state
      (List.replicate 3 (.relayExiting true))).any
        fun final => final.ended = some .nullServer := by
    simp [List.replicate, TransitionSystem.run, deviceProcess, processStep,
      shutdownStep, called, running, absent]
  obtain ⟨final, reaches, ended⟩ := (Option.any_eq_true _ _).mp ran
  exact ⟨final, ⟨_, reaches⟩, by simpa using ended⟩

theorem canCrash_deletion (mqtt : MqttTopics) {state : DeviceProcess}
    {task : ServerState} (called : state.main = .exiting .controlPwm)
    (running : state.ended = none) (thread : state.relay = .server task)
    (atDeletion : state.round = .deletion) : CanCrash mqtt state := by
  have deleted : (deviceProcess mqtt .evse).step state .deletePsock =
      some { state with psock := false, round := .creation } := by
    simp [deviceProcess, processStep, running, thread, atDeletion]
  exact .head .deletePsock deleted (canCrash_main mqtt called running rfl)

/-- `main` has called `exit_app` without a signal, and the server thread goes
on, with its socket. -/
structure Serving (task : ServerState) (round : RoundPc)
    (state : DeviceProcess) : Prop where
  main : state.main = .exiting .controlPwm
  running : state.ended = none
  quiet : state.signalCaptured = false
  psock : state.psock = true
  thread : state.relay = .server task
  round : state.round = round

namespace Serving

variable {mqtt : MqttTopics} {state : DeviceProcess} {task : ServerState}
  {round : RoundPc}

theorem canCrash_test (here : Serving task .test state) :
    CanCrash mqtt state := by
  have begun : (deviceProcess mqtt .evse).step state .beginRound =
      some { state with round := .deletion } := by
    simp [deviceProcess, processStep, here.running, here.thread, here.round,
      here.quiet, here.psock, RoundPc.atTest]
  exact .head .beginRound begun
    (canCrash_deletion mqtt here.main here.running here.thread rfl)

/-- A step of the task behind its test of the signal. -/
theorem canCrash_server (here : Serving task round state)
    (action : ServerAction) {next : ServerState} {published : List CString}
    (passes : action.captures = false)
    (opening : action.creates → round = .opening)
    (moved : serverStep { task with globals := state.globals } action =
      some (next, published))
    (stays : next.pc ≠ .exited ∧ next.pc ≠ .aborted)
    (rest : ∀ after, Serving next (roundOf next.pc) after →
      CanCrash mqtt after) : CanCrash mqtt state := by
  refine .head (.server action) ?_ (rest
    { state with
      relay := .server next
      round := roundOf next.pc
      globals := next.globals }
    ⟨here.main, here.running, here.quiet, here.psock, rfl, rfl⟩)
  have inTime : ¬ (action.creates ∧ state.round ≠ .opening) := by
    rw [here.round]
    exact fun early => early.2 (opening early.1)
  simp only [deviceProcess, processStep, here.running, here.thread,
    serverThreadStep, passes, inTime, moved, Option.isSome_none,
    Bool.false_eq_true, false_and, if_false, Option.map_some]
  split
  · next atPc => exact absurd atPc stays.1
  · next atPc => exact absurd atPc stays.2
  · rfl

theorem canCrash_waiting {attached : Bool} (here : Serving task round state)
    (atPc : task.pc = .waiting attached) : CanCrash mqtt state := by
  have moved : serverStep { task with globals := state.globals } .drop =
      some ({ task with pc := .again, globals := state.globals }, []) := by
    simp [serverStep, atPc]
  exact here.canCrash_server .drop rfl (by rintro ⟨⟩) moved
    ⟨by rintro ⟨⟩, by rintro ⟨⟩⟩ fun _ next => next.canCrash_test

theorem canCrash_clearing (here : Serving task round state)
    (atPc : task.pc = .clearing) : CanCrash mqtt state := by
  have moved : serverStep { task with globals := state.globals } .clear =
      some ({ task with
        pc := .waiting true
        globals := { state.globals with rthDataReceived := false } }, []) := by
    simp [serverStep, atPc]
  exact here.canCrash_server .clear rfl (by rintro ⟨⟩) moved
    ⟨by rintro ⟨⟩, by rintro ⟨⟩⟩ fun _ next => next.canCrash_waiting rfl

theorem canCrash_sending {packet : List UInt8}
    (here : Serving task round state) (atPc : task.pc = .sending packet) :
    CanCrash mqtt state := by
  have moved : serverStep { task with globals := state.globals } (.send 0) =
      some ({ task with
        pc := .clearing
        globals := state.globals
        writes := task.writes ++ [⟨task.connection, packet, 0⟩] }, []) := by
    simp [serverStep, atPc]
  exact here.canCrash_server (.send 0) rfl (by rintro ⟨⟩) moved
    ⟨by rintro ⟨⟩, by rintro ⟨⟩⟩ fun _ next => next.canCrash_clearing rfl

theorem canCrash_reading (here : Serving task round state)
    (atPc : task.pc = .reading) : CanCrash mqtt state := by
  have moved :
      serverStep { task with globals := state.globals } (.read fun _ => 0) =
        some ({ task with
          pc := .sending
            (convertHexToBinary state.globals.rthDatapacket fun _ => 0)
          globals := state.globals }, []) := by
    simp [serverStep, atPc]
  exact here.canCrash_server (.read fun _ => 0) rfl (by rintro ⟨⟩) moved
    ⟨by rintro ⟨⟩, by rintro ⟨⟩⟩ fun _ next => next.canCrash_sending rfl

theorem canCrash_awaiting (here : Serving task round state)
    (atPc : task.pc = .awaiting) : CanCrash mqtt state := by
  let globals := handleMessage mqtt mqtt.evMessage [] state.globals
  have delivered : (deviceProcess mqtt .evse).step state
      (.deliver mqtt.evMessage []) = some { state with globals } := by
    simp [deviceProcess, processStep, here.running, globals]
  have moved : serverStep { task with globals } .poll =
      some ({ task with pc := .reading, globals }, []) := by
    simp [serverStep, atPc, globals, handleMessage, handshakeMessage]
  have waiting : Serving task round { state with globals } :=
    ⟨here.main, here.running, here.quiet, here.psock, here.thread, here.round⟩
  exact .head _ delivered <|
    waiting.canCrash_server .poll rfl (by rintro ⟨⟩) moved
      ⟨by rintro ⟨⟩, by rintro ⟨⟩⟩ fun _ next => next.canCrash_reading rfl

theorem canCrash_publishing {chunk : List UInt8}
    (here : Serving task round state) (atPc : task.pc = .publishing chunk) :
    CanCrash mqtt state := by
  have moved : serverStep { task with globals := state.globals } .publish =
      some ({ task with pc := .awaiting, globals := state.globals },
        [convertBinaryToHex chunk]) := by
    simp [serverStep, atPc]
  exact here.canCrash_server .publish rfl (by rintro ⟨⟩) moved
    ⟨by rintro ⟨⟩, by rintro ⟨⟩⟩ fun _ next => next.canCrash_awaiting rfl

theorem canCrash_accepting (here : Serving task round state)
    (atPc : task.pc = .accepting true) : CanCrash mqtt state := by
  have moved : serverStep { task with globals := state.globals }
      (.accept ⟨true, true, true⟩) =
        some ({ task with
          pc := .waiting true
          globals := state.globals
          connection := task.connection + 1 }, []) := by
    simp [serverStep, atPc, AcceptCalls.listenAndAccept]
  exact here.canCrash_server _ rfl (by rintro ⟨⟩) moved
    ⟨by rintro ⟨⟩, by rintro ⟨⟩⟩ fun _ next => next.canCrash_waiting rfl

theorem canCrash_opening (here : Serving task .opening state)
    (atPc : task.pc = .again) : CanCrash mqtt state := by
  have moved : serverStep { task with globals := state.globals }
      (.create ⟨true, true, true, true⟩) =
        some ({ task with
          pc := .accepting true, globals := state.globals }, []) := by
    simp [serverStep, atPc, CreateServerCalls.createServer]
  exact here.canCrash_server _ rfl (fun _ => rfl) moved
    ⟨by rintro ⟨⟩, by rintro ⟨⟩⟩ fun _ next => next.canCrash_accepting rfl

/-- From every place but the one where it can only throw, the thread comes to
the `delete` of the next round. -/
theorem canCrash (here : Serving task round state)
    (present : round.holdsSocket)
    (place : RelayThread.AtPlace round (.server task))
    (goesOn : round = .serving → task.pc ≠ .accepting false) :
    CanCrash mqtt state := by
  cases round with
  | firstTest | creation => cases present
  | test => exact here.canCrash_test
  | deletion =>
      exact canCrash_deletion mqtt here.main here.running here.thread here.round
  | opening => exact here.canCrash_opening (place.1.mpr (by rintro ⟨⟩))
  | serving =>
      cases atPc : task.pc with
      | again => exact absurd rfl (place.1.mp atPc)
      | accepting isCreated =>
          cases isCreated with
          | false => exact absurd atPc (goesOn rfl)
          | true => exact here.canCrash_accepting atPc
      | waiting => exact here.canCrash_waiting atPc
      | publishing => exact here.canCrash_publishing atPc
      | awaiting => exact here.canCrash_awaiting atPc
      | reading => exact here.canCrash_reading atPc
      | sending => exact here.canCrash_sending atPc
      | clearing => exact here.canCrash_clearing atPc
      | exited => exact absurd atPc place.2.1
      | aborted => exact absurd atPc place.2.2

end Serving

/-! ## The calls of `exit_app` -/

def MainPc.inExitApp : MainPc → Bool
  | .exiting _ => true
  | _ => false

def RelayThread.inExitApp : RelayThread → Bool
  | .exiting _ => true
  | _ => false

/-- `main` or the server thread calls `exit_app` in the step between the two
states. -/
def entersExitApp (state after : DeviceProcess) : Bool :=
  !state.main.inExitApp && after.main.inExitApp ||
    !state.relay.inExitApp && after.relay.inExitApp

theorem main_of_entersExitApp {state after : DeviceProcess}
    {input : MainInput} (moved : MainTransition .evse state input after)
    (enters : entersExitApp state after) :
    state.main.inExitApp = false ∧ after.main.inExitApp = true := by
  rcases socketFrame_main moved with frame | ⟨-, rfl⟩
  · simpa [entersExitApp, frame.relay] using enters
  · simp [entersExitApp, launch, MainPc.inExitApp, RelayThread.inExitApp]
      at enters

theorem inExitApp_main {state after : DeviceProcess} {input : MainInput}
    (moved : MainTransition .evse state input after)
    (running : state.ended = none)
    (outside : state.main.inExitApp = false)
    (inside : after.main.inExitApp = true) :
    after.main = .exiting .controlPwm ∧ after.ended = none := by
  cases moved with
  | dispatch =>
      revert inside
      unfold dispatch
      split <;> (try split_ifs) <;>
        simp [DeviceProcess.advance, DeviceProcess.exitApp, MainPc.inExitApp,
          running]
  | slac atPc =>
      revert inside
      unfold afterSlac
      split <;> (try split_ifs) <;>
        simp [DeviceProcess.advance, DeviceProcess.exitApp, MainPc.inExitApp,
          running, atPc]
  | exiting atPc =>
      rw [atPc] at outside
      cases outside
  | testB1 => split_ifs at inside <;> cases inside
  | launched | removal => cases inside
  | _ =>
      simp_all [DeviceProcess.advance, DeviceProcess.exitApp, MainPc.inExitApp]

/-- With a socket, the thread loses it in the round it is in, or goes on without
a signal. -/
theorem lost_server {state : DeviceProcess} {task : ServerState}
    (thread : state.relay = .server task)
    (present : state.round.holdsSocket)
    (lost : socketStays state = false) :
    state.round = .deletion ∨ state.signalCaptured = false ∧
      (state.round = .serving → task.pc ≠ .accepting false) := by
  simp only [socketStays, thread] at lost
  cases place : state.round <;> simp_all [RoundPc.holdsSocket]

theorem psock_of_exiting {state : DeviceProcess} {shutdown : ShutdownPc}
    (placed : SocketPlaced state) (thread : state.relay = .exiting shutdown)
    (lost : socketStays state = false) : state.psock = false := by
  obtain ⟨psock, place, -, -⟩ := placed
  simp only [socketStays, thread, decide_eq_false_iff_not] at lost
  rw [thread] at place
  have atTest : state.round.atTest = true := place
  rw [psock]
  cases round : state.round <;> simp_all [RoundPc.atTest, RoundPc.holdsSocket]

/-- `main` calls `exit_app` at a place of the server thread from which it loses
its socket. -/
theorem canCrash_of_main {mqtt : MqttTopics} {state after : DeviceProcess}
    {input : MainInput} (placed : SocketPlaced state)
    (lost : socketStays state = false) (running : state.ended = none)
    (moved : MainTransition .evse state input after)
    (outside : state.main.inExitApp = false)
    (inside : after.main.inExitApp = true) : CanCrash mqtt after := by
  obtain ⟨called, runningAfter⟩ := inExitApp_main moved running outside inside
  rcases socketFrame_main moved with frame | ⟨-, rfl⟩
  · cases present : state.psock with
    | false =>
        exact canCrash_main mqtt called runningAfter
          (frame.psock.trans present)
    | true =>
        have holds : state.round.holdsSocket = true :=
          placed.psock.symm.trans present
        have place := placed.place
        cases thread : state.relay with
        | unlaunched =>
            rw [thread] at place
            rw [show state.round = .firstTest from place] at holds
            cases holds
        | client =>
            rw [thread] at place
            exact place.elim
        | exiting =>
            rw [psock_of_exiting placed thread lost] at present
            cases present
        | server task =>
            rw [thread] at place
            have threadAfter := frame.relay.trans thread
            rcases lost_server thread holds lost with deletion | ⟨quiet, goesOn⟩
            · exact canCrash_deletion mqtt called runningAfter threadAfter
                (frame.round.trans deletion)
            · have serving : Serving task state.round after :=
                ⟨called, runningAfter, frame.signalCaptured.trans quiet,
                  frame.psock.trans present, threadAfter, frame.round⟩
              exact serving.canCrash holds place goesOn
  · cases inside

theorem canCrash_of_entersExitApp {mqtt : MqttTopics}
    {state after : DeviceProcess} {action : ProcessAction}
    (placed : SocketPlaced state) (lost : socketStays state = false)
    (step : (deviceProcess mqtt .evse).step state action = some after)
    (enters : entersExitApp state after) : CanCrash mqtt after := by
  obtain ⟨running, moved⟩ := processTransition_of_step step
  cases moved with
  | main moved =>
      obtain ⟨outside, inside⟩ := main_of_entersExitApp moved enters
      exact canCrash_of_main placed lost running moved outside inside
  | serverExits thread captured atTest =>
      have absent : state.psock = false := by
        rw [placed.psock]
        simp only [socketStays, thread] at lost
        cases place : state.round <;>
          simp_all [RoundPc.atTest, RoundPc.holdsSocket]
      exact canCrash_relay mqtt rfl running absent
  | clientExits thread =>
      have place := placed.place
      rw [thread] at place
      exact place.elim
  | _ => simp_all [entersExitApp, RelayThread.inExitApp]

/-- When a step of an EVSE calls `exit_app`, then whatever the threads do the
call meets a socket, and while the process lives it has its way to `exit(0)`,
exactly if the server thread is at a place where its socket stays. -/
theorem deviceProcess_exitApp_closes_socket_iff (mqtt : MqttTopics)
    {state after : DeviceProcess} {action : ProcessAction}
    (reachable : (deviceProcess mqtt .evse).Reachable state)
    (step : (deviceProcess mqtt .evse).step state action = some after)
    (enters : entersExitApp state after) :
    ClosesSocket mqtt after ↔ socketStays state := by
  have placed := socketPlaced_of_reachable reachable
  obtain ⟨running, -⟩ := processTransition_of_step step
  constructor
  · intro closes
    by_contra lost
    obtain ⟨final, reaches, crashed⟩ :=
      canCrash_of_entersExitApp placed (by simpa using lost) step enters
    exact (closes final reaches).1 crashed
  · intro stays
    have lasts : SocketLasts state := ⟨placed, stays, by simp [running]⟩
    exact (lasts.step step).closesSocket mqtt

/-- A signal while the server thread waits for a connection. -/
theorem deviceProcess_exitApp_closes_socket_signal :
    ∃ state after, (deviceProcess benchTopics .evse).Reachable state ∧
      (deviceProcess benchTopics .evse).step state (.main .next) =
        some after ∧
      entersExitApp state after ∧ ClosesSocket benchTopics after := by
  obtain ⟨state, reachable, found⟩ :=
    TransitionSystem.exists_reaches_of_follow
      (deviceProcess benchTopics .evse) (fun _ _ => True)
      (checksPassed ++ [.main (.created true), .main (.launched true)] ++
        socketCreated ++ [.main .next, .main .next, .signal, .main .next])
      (fun state => socketStays state &&
        ((deviceProcess benchTopics .evse).step state (.main .next)).any
          (entersExitApp state)) (by decide)
  rw [Bool.and_eq_true, Option.any_eq_true] at found
  obtain ⟨stays, after, step, enters⟩ := found
  have closes := (deviceProcess_exitApp_closes_socket_iff benchTopics reachable
    step enters).mpr stays
  exact ⟨state, after, reachable, step, enters, closes⟩

/-- The network check fails: `exit_app` closes a socket that was never
created. -/
theorem deviceProcess_exitApp_null_socket :
    ∃ state, (deviceProcess benchTopics .evse).Reachable state ∧
      state.ended = some .nullServer := by
  obtain ⟨state, reaches, ended⟩ :=
    TransitionSystem.exists_reaches_of_follow
      (deviceProcess benchTopics .evse) (fun _ _ => True)
      ([.main (.wrote true), .main (.wrote true), .main (.sampled .A1 true),
        .main .next] ++ nextRound .A1 ++ [.main (.returned 256)] ++
        List.replicate 3 (.main (.wrote true)))
      (fun state => state.ended = some .nullServer) (by decide)
  exact ⟨state, reaches, by simpa using ended⟩

end OpenRTH
