import OpenRTH.SessionStages

/-!
# When the coupler is removed

`main` samples the pilot, runs a stage of the session and only then tests
whether the coupler has been removed.  A removal that the sample shows is
therefore acted on at once only in the states that start no stage.
-/

namespace OpenRTH

/-- `main` is in `perform_SLAC`, `perform_SDP` or `setup_TCP_network`. -/
def MainPc.inStage : MainPc → Bool
  | .slacInit | .slac _ | .sdp | .launching => true
  | _ => false

/-- The pilot of a coupler that has been removed. -/
def PilotState.unplugged (pilot : PilotState) : Prop :=
  pilot = .A1 ∨ pilot = .A2 ∨ pilot = .F

/-- However the run goes on, no stage is started, there is no other sample, and
`main` is never stuck and has entered `exit_app` after at most four steps. -/
structure StopsSession (mqtt : MqttTopics) (device : SlacDevice)
    (sampled : DeviceProcess) : Prop where
  noStage : ∀ (actions : List ProcessAction) (final : DeviceProcess),
    (deviceProcess mqtt device).run sampled actions = some final →
      final.main.inStage = false
  sameIteration : ∀ (actions : List ProcessAction) (final : DeviceProcess),
    (deviceProcess mqtt device).run sampled actions = some final →
      final.main ≠ .sample
  goesOn : ∀ (actions : List ProcessAction) (final : DeviceProcess),
    (deviceProcess mqtt device).run sampled actions = some final →
      ∃ input, (mainStep device final input).isSome
  exits : ∀ (actions : List ProcessAction) (final : DeviceProcess),
    (deviceProcess mqtt device).run sampled actions = some final →
      4 ≤ actions.countP ProcessAction.isMain →
        ∃ shutdown, final.main = .exiting shutdown

/-! ## The states that start no stage -/

/-- The steps of `main` that are left until it enters `exit_app`. -/
def MainPc.stepsToExit : MainPc → ℕ
  | .rthStateMachine => 4
  | .remoteTimer => 3
  | .testRemoval => 2
  | .removed => 1
  | _ => 0

/-- `main` is on its way from the sample to `exit_app`. -/
def LeavesLoop (device : SlacDevice) (rthState : RthState) : MainPc → Prop
  | .rthStateMachine =>
      rthState = .remote ∨ rthState = .tcpNetwork ∧ device = .evse
  | .remoteTimer | .testRemoval => rthState = .remote
  | .removed | .exiting _ => True
  | _ => False

/-- The coupler is removed, and `main` is on its way to `exit_app`. -/
structure LeavesSession (device : SlacDevice) (state : DeviceProcess) :
    Prop where
  unplugged : state.pilot.unplugged
  leaves : LeavesLoop device state.rthState state.main

theorem LeavesSession.main {device : SlacDevice}
    {state after : DeviceProcess} {input : MainInput}
    (before : LeavesSession device state)
    (moved : MainTransition device state input after) :
    LeavesSession device after ∧
      after.main.stepsToExit ≤ state.main.stepsToExit - 1 := by
  obtain ⟨unplugged, leaves⟩ := before
  cases moved with
  | dispatch atPc =>
      rw [atPc] at leaves ⊢
      rcases leaves with remote | ⟨tcpNetwork, evse⟩
      · simp only [dispatch, remote]
        exact ⟨⟨unplugged, rfl⟩, le_rfl⟩
      · simp only [dispatch, tcpNetwork, evse]
        exact ⟨⟨unplugged, rfl⟩, Nat.le_succ _⟩
  | expired atPc =>
      rw [atPc]
      exact ⟨⟨unplugged, trivial⟩, Nat.zero_le _⟩
  | running atPc =>
      rw [atPc]
      exact ⟨⟨unplugged, rfl⟩, le_rfl⟩
  | removal atPc =>
      rw [atPc]
      split_ifs
      · exact ⟨⟨unplugged, trivial⟩, le_rfl⟩
      · exact ⟨⟨unplugged, trivial⟩, Nat.zero_le _⟩
  | noRemoval atPc inPlace =>
      rw [atPc] at leaves
      have remote : state.rthState = .remote := leaves
      exact absurd ⟨by rw [remote]; decide, unplugged⟩ inPlace
  | removed atPc =>
      rw [atPc]
      refine ⟨⟨?_, trivial⟩, Nat.zero_le _⟩
      simpa [DeviceProcess.exitApp] using unplugged
  | @exiting success shutdown atPc =>
      obtain ⟨main, rthState, pilot, -, -⟩ :=
        sameSession_shutdownStep device success state shutdown
      refine ⟨⟨?_, trivial⟩, Nat.zero_le _⟩
      simpa only [pilot] using unplugged
  | _ atPc => rw [atPc] at leaves; cases leaves

theorem LeavesSession.step {mqtt : MqttTopics} {device : SlacDevice}
    {state after : DeviceProcess} {action : ProcessAction}
    (before : LeavesSession device state)
    (step : (deviceProcess mqtt device).step state action = some after) :
    LeavesSession device after ∧
      after.main.stepsToExit ≤
        state.main.stepsToExit - action.isMain.toNat := by
  obtain ⟨running, moved⟩ := processTransition_of_step step
  cases isMain : action.isMain with
  | true =>
      cases moved with
      | main moved => exact before.main moved
      | _ => cases isMain
  | false =>
      obtain ⟨main, rthState, pilot, -, -⟩ := moved.sameSession isMain
      refine ⟨⟨?_, ?_⟩, ?_⟩
      · simpa only [pilot] using before.unplugged
      · simpa only [main, rthState] using before.leaves
      · rw [main]
        exact le_rfl

theorem LeavesSession.goesOn {device : SlacDevice} {state : DeviceProcess}
    (before : LeavesSession device state) :
    state.main.inStage = false ∧ state.main ≠ .sample ∧
      (∃ input, (mainStep device state input).isSome) ∧
      (state.main.stepsToExit = 0 →
        ∃ shutdown, state.main = .exiting shutdown) := by
  have leaves := before.leaves
  cases atPc : state.main with
  | rthStateMachine | testRemoval =>
      exact ⟨rfl, by simp, ⟨.next, by simp [mainStep, atPc]⟩, nofun⟩
  | remoteTimer =>
      exact ⟨rfl, by simp, ⟨.expired true, by simp [mainStep, atPc]⟩, nofun⟩
  | removed =>
      exact ⟨rfl, by simp, ⟨.wrote true, by simp [mainStep, atPc]⟩, nofun⟩
  | exiting shutdown =>
      exact ⟨rfl, by simp, ⟨.wrote true, by simp [mainStep, atPc]⟩,
        fun _ => ⟨shutdown, rfl⟩⟩
  | _ => rw [atPc] at leaves; cases leaves

theorem stopsSession_of_leaves (mqtt : MqttTopics) {device : SlacDevice}
    {sampled : DeviceProcess} (leaves : LeavesSession device sampled)
    (atPc : sampled.main = .rthStateMachine) :
    StopsSession mqtt device sampled := by
  have countdown {actions : List ProcessAction} {final : DeviceProcess}
      (ran : (deviceProcess mqtt device).run sampled actions = some final) :=
    TransitionSystem.run_countdown
      (fun state : DeviceProcess => state.main.stepsToExit)
      ProcessAction.isMain LeavesSession.step leaves ran
  constructor
  · intro actions final ran
    exact (countdown ran).1.goesOn.1
  · intro actions final ran
    exact (countdown ran).1.goesOn.2.1
  · intro actions final ran
    exact (countdown ran).1.goesOn.2.2.1
  · intro actions final ran enough
    apply (countdown ran).1.goesOn.2.2.2
    have left := (countdown ran).2
    rw [atPc] at left
    exact Nat.eq_zero_of_le_zero (left.trans (by
      simp only [MainPc.stepsToExit]
      omega))

/-! ## The states that start a stage -/

theorem dispatch_inStage {device : SlacDevice} {state : DeviceProcess}
    (session : RthState.pluggedIn.value ≤ state.rthState.value)
    (handled : state.rthState ≠ .error)
    (starts : ¬ (state.rthState = .remote ∨
      state.rthState = .tcpNetwork ∧ device = .evse)) :
    (dispatch device state).main.inStage := by
  cases atState : state.rthState <;> simp only [dispatch, atState]
  case pluggedIn => split_ifs <;> rfl
  case sdp => rfl
  case tcpNetwork =>
    cases device with
    | evse => exact absurd (.inr ⟨atState, rfl⟩) starts
    | pev => rfl
  case remote => exact absurd (.inl atState) starts
  case error => exact absurd atState handled
  all_goals
    rw [atState] at session
    exact absurd session (by decide)

theorem run_dispatch (mqtt : MqttTopics) {device : SlacDevice}
    {state : DeviceProcess} (running : state.ended = none)
    (atPc : state.main = .rthStateMachine) :
    (deviceProcess mqtt device).run state [.main .next] =
      some (dispatch device state) := by
  simp [TransitionSystem.run, deviceProcess, processStep, running, mainStep,
    atPc]

/-- After a sample that shows that the coupler has been removed, no stage is
started and `main` goes to `exit_app`, exactly when the session is in remote
mode, or on the EVSE when it is just before it. -/
theorem stopsSession_iff (mqtt : MqttTopics) (device : SlacDevice)
    (before sampled : DeviceProcess) (pilot : PilotState) (success : Bool)
    (reachable : (deviceProcess mqtt device).Reachable before)
    (sample : (deviceProcess mqtt device).step before
      (.main (.sampled pilot success)) = some sampled)
    (session : RthState.pluggedIn.value ≤ before.rthState.value)
    (unplugged : pilot.unplugged) :
    StopsSession mqtt device sampled ↔
      before.rthState = .remote ∨
        before.rthState = .tcpNetwork ∧ device = .evse := by
  have step : processStep mqtt device before
      (.main (.sampled pilot success)) = some sampled := sample
  obtain ⟨running, moved⟩ := processTransition_of_step step
  cases moved with
  | main moved =>
      cases moved with
      | sample atPc =>
          apply Iff.intro
          · intro stops
            by_contra starts
            have handled := (inStage_of_reachable reachable).handled
            have begun := stops.noStage _ _ (run_dispatch mqtt running rfl)
            exact Bool.false_ne_true
              (begun.symm.trans (dispatch_inStage session handled starts))
          · intro quiet
            exact stopsSession_of_leaves mqtt ⟨unplugged, quiet⟩ rfl

/-- `main` is about to sample in a state of the session. -/
def DeviceProcess.samplesIn (rthState : RthState) (state : DeviceProcess) :
    Bool :=
  match state.main with
  | .sample => state.rthState = rthState && state.ended.isNone
  | _ => false

theorem exists_sampled {mqtt : MqttTopics} {device : SlacDevice}
    {before : DeviceProcess} {rthState : RthState}
    (samples : before.samplesIn rthState) (pilot : PilotState) :
    before.rthState = rthState ∧
      ∃ sampled, (deviceProcess mqtt device).step before
          (.main (.sampled pilot true)) = some sampled ∧
        sampled.main = .rthStateMachine ∧ sampled.rthState = rthState ∧
        sampled.ended = none := by
  unfold DeviceProcess.samplesIn at samples
  split at samples
  · next atPc =>
      simp only [Bool.and_eq_true, decide_eq_true_eq,
        Option.isNone_iff_eq_none] at samples
      obtain ⟨atState, running⟩ := samples
      refine ⟨atState, { before with
        pilot := pilot
        uartOpen := before.uartOpen && true
        main := .rthStateMachine }, ?_, rfl, atState, running⟩
      simp [deviceProcess, processStep, running, mainStep, atPc]
  · cases samples

/-- The rest of the session of an EVSE up to remote mode. -/
def sessionRun : List ProcessAction :=
  nextRound .B2 ++ [.main (.slacInit (.returns true)),
    .main (.slac (.clock 0)), .main (.slac (.returned true)),
    .main (.slac (.returned true)), .main (.slac (.returned true)),
    .main (.slac (.returned true)), .main (.slac (.returned true)),
    .main (.slac (.clock 0)), .main (.slac (.returned true))] ++
  nextRound .B2 ++
  [.main (.sdp (benchEnvironment (.datagram [])) benchMemory)] ++
  nextRound .B2 ++ [.main .next, .main .next]

/-- A coupler that is removed in remote mode is acted on at once. -/
theorem stopsSession_remote :
    ∃ before sampled, (deviceProcess benchTopics .evse).Reachable before ∧
      (deviceProcess benchTopics .evse).step before
        (.main (.sampled .A1 true)) = some sampled ∧
      StopsSession benchTopics .evse sampled := by
  obtain ⟨before, reaches, samples⟩ :=
    TransitionSystem.exists_reaches_of_follow
      (deviceProcess benchTopics .evse) (fun _ _ => True)
      (pluggedInRun ++ sessionRun)
      (DeviceProcess.samplesIn .remote) (by decide)
  obtain ⟨atState, sampled, sample, -⟩ := exists_sampled samples .A1
  refine ⟨before, sampled, reaches, sample, ?_⟩
  have removal := stopsSession_iff benchTopics .evse before sampled .A1 true
    reaches sample (by rw [atState]; decide) (.inl rfl)
  exact removal.mpr (.inl atState)

/-- A coupler that is removed in `PLUGGED_IN` is answered by `perform_SLAC`. -/
theorem not_stopsSession_plugged_in :
    ∃ before sampled, (deviceProcess benchTopics .evse).Reachable before ∧
      (deviceProcess benchTopics .evse).step before
        (.main (.sampled .A1 true)) = some sampled ∧
      before.rthState = .pluggedIn ∧
      ¬ StopsSession benchTopics .evse sampled := by
  obtain ⟨before, reaches, samples⟩ :=
    TransitionSystem.exists_reaches_of_follow
      (deviceProcess benchTopics .evse) (fun _ _ => True)
      (pluggedInRun ++ [.main .next, .main .next])
      (DeviceProcess.samplesIn .pluggedIn)
      (by decide)
  obtain ⟨atState, sampled, sample, atPc, sampledState, running⟩ :=
    exists_sampled samples .A1
  refine ⟨before, sampled, reaches, sample, atState, fun stops => ?_⟩
  have begun := stops.noStage _ _ (run_dispatch benchTopics running atPc)
  simp only [dispatch, sampledState] at begun
  split_ifs at begun <;> cases begun

end OpenRTH
