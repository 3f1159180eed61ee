import OpenRTH.OneShotTimer
import OpenRTH.SessionStages

/-!
# The timer of remote mode

The process of a device with `remote_timer`: `TCP_NETWORK` starts it for 90
seconds and `REMOTE` polls it.  The session times out at a poll exactly when
the comparison of the one-shot timer says so, which it also does when the clock
has been set back behind the reading at which remote mode was entered.
-/

namespace OpenRTH

/-- `enteredAt` is the reading with which `remote_timer` was started last. -/
structure TimedProcess where
  process : DeviceProcess
  remoteTimer : OneShot
  enteredAt : UInt64

/-- One step of the process, and what `millis` returns if it is called. -/
def timedStep (mqtt : MqttTopics) (device : SlacDevice)
    (state : TimedProcess) : ProcessAction × UInt64 → Option TimedProcess
  | (.main (.expired expired), now) =>
      if (state.remoteTimer.isExpired now).2 = expired then
        (processStep mqtt device state.process (.main (.expired expired))).map
          fun process =>
            { state with
              process := process
              remoteTimer := (state.remoteTimer.isExpired now).1 }
      else none
  | (action, now) =>
      (processStep mqtt device state.process action).map fun process =>
        if state.process.rthState = .tcpNetwork ∧
            process.rthState = .remote then
          { process := process
            remoteTimer := state.remoteTimer.start 90000 now
            enteredAt := now }
        else { state with process := process }

def timedProcess (mqtt : MqttTopics) (device : SlacDevice) :
    TransitionSystem TimedProcess (ProcessAction × UInt64) where
  initial := ⟨(deviceProcess mqtt device).initial, ⟨⟨0, 0, false⟩, false⟩, 0⟩
  step := timedStep mqtt device

/-- `main` is in `exit_app`. -/
def MainPc.isExiting : MainPc → Bool
  | .exiting _ => true
  | _ => false

/-- A step polls the timer, starts it or leaves it alone. -/
inductive TimerUse (state after : TimedProcess) (action : ProcessAction)
    (now : UInt64) : Prop
  | polled (poll : action =
        .main (.expired (state.remoteTimer.isExpired now).2))
      (timer : after.remoteTimer = (state.remoteTimer.isExpired now).1)
      (entered : after.enteredAt = state.enteredAt)
  | started (timer : after.remoteTimer = state.remoteTimer.start 90000 now)
      (entered : after.enteredAt = now)
  | kept (stays : state.process.rthState = .tcpNetwork →
        after.process.rthState ≠ .remote)
      (timer : after.remoteTimer = state.remoteTimer)
      (entered : after.enteredAt = state.enteredAt)

theorem timedStep_expired {mqtt : MqttTopics} {device : SlacDevice}
    {state after : TimedProcess} {expired : Bool} {now : UInt64}
    (step : timedStep mqtt device state (.main (.expired expired), now) =
      some after) :
    (state.remoteTimer.isExpired now).2 = expired ∧
      processStep mqtt device state.process (.main (.expired expired)) =
        some after.process ∧
      after.remoteTimer = (state.remoteTimer.isExpired now).1 ∧
      after.enteredAt = state.enteredAt := by
  simp only [timedStep] at step
  split_ifs at step with answer
  obtain ⟨process, moved, rfl⟩ := Option.map_eq_some_iff.mp step
  exact ⟨answer, moved, rfl, rfl⟩

theorem timedStep_cases {mqtt : MqttTopics} {device : SlacDevice}
    {state after : TimedProcess} {action : ProcessAction} {now : UInt64}
    (step : timedStep mqtt device state (action, now) = some after) :
    processStep mqtt device state.process action = some after.process ∧
      TimerUse state after action now := by
  have whole := step
  unfold timedStep at step
  split at step
  · next expired polledAt same =>
      obtain ⟨rfl, rfl⟩ := Prod.mk.inj same
      obtain ⟨answer, moved, timer, entered⟩ := timedStep_expired whole
      exact ⟨moved, .polled (by rw [answer]) timer entered⟩
  · next other readAt notPoll same =>
      obtain ⟨rfl, rfl⟩ := Prod.mk.inj same
      obtain ⟨process, moved, rfl⟩ := Option.map_eq_some_iff.mp step
      split_ifs with enters
      · exact ⟨moved, .started rfl rfl⟩
      · exact ⟨moved, .kept (fun tcp remote => enters ⟨tcp, remote⟩) rfl rfl⟩

theorem isExiting_of_step {mqtt : MqttTopics} {device : SlacDevice}
    {state after : DeviceProcess} {action : ProcessAction}
    (step : processStep mqtt device state action = some after)
    (exiting : state.main.isExiting = true) : after.main.isExiting = true := by
  obtain ⟨-, moved⟩ := processTransition_of_step step
  cases isMain : action.isMain with
  | true =>
      cases moved with
      | main moved =>
          cases moved with
          | exiting => rfl
          | _ atPc => simp [atPc, MainPc.isExiting] at exiting
      | _ => cases isMain
  | false => rw [(moved.sameSession isMain).main]; exact exiting

/-- `rth_state` becomes `REMOTE` only after `TCP_NETWORK`. -/
theorem rthState_before_remote {mqtt : MqttTopics} {device : SlacDevice}
    {state after : DeviceProcess} {action : ProcessAction}
    (inStage : InStage device state)
    (step : processStep mqtt device state action = some after)
    (remote : after.rthState = .remote) :
    state.rthState = .remote ∨ state.rthState = .tcpNetwork := by
  obtain ⟨-, moved⟩ := processTransition_of_step step
  cases isMain : action.isMain with
  | true =>
      cases moved with
      | main moved =>
          rcases moved.rthState_next inStage with same | next
          · exact .inl (by rw [← same]; exact remote)
          · rw [remote] at next
            revert next
            cases state.rthState <;> simp [RthState.next]
      | _ => cases isMain
  | false =>
      exact .inl (by rw [← (moved.sameSession isMain).rthState]; exact remote)

/-- In remote mode the timer runs for 90 seconds from the reading at which
remote mode was entered. -/
structure RemoteTimed (device : SlacDevice) (state : TimedProcess) :
    Prop where
  inStage : InStage device state.process
  unkicked : state.remoteTimer.isKicked = false
  started : state.process.rthState = .remote →
    state.process.main.isExiting = false →
      state.remoteTimer.StartedAt state.enteredAt 90000 true

theorem RemoteTimed.startedAt_of_polled {mqtt : MqttTopics}
    {device : SlacDevice} {state : TimedProcess} {after : DeviceProcess}
    {expired : Bool} (before : RemoteTimed device state)
    (step : processStep mqtt device state.process
      (.main (.expired expired)) = some after) :
    state.remoteTimer.StartedAt state.enteredAt 90000 true ∧
      after.main.isExiting = expired := by
  have polls : state.process.main = .remoteTimer ∧
      after.main.isExiting = expired := by
    obtain ⟨-, moved⟩ := processTransition_of_step step
    cases moved with
    | main moved =>
        cases moved with
        | expired atPc => exact ⟨atPc, rfl⟩
        | running atPc => exact ⟨atPc, rfl⟩
  obtain ⟨atPc, exits⟩ := polls
  have place := before.inStage.place
  rw [atPc] at place
  exact ⟨before.started place (by rw [atPc]; rfl), exits⟩

theorem RemoteTimed.step {mqtt : MqttTopics} {device : SlacDevice}
    {state after : TimedProcess} {action : ProcessAction × UInt64}
    (before : RemoteTimed device state)
    (step : (timedProcess mqtt device).step state action = some after) :
    RemoteTimed device after := by
  obtain ⟨action, now⟩ := action
  obtain ⟨moved, use⟩ := timedStep_cases step
  have inStage := before.inStage.step moved
  cases use with
  | polled poll timer entered =>
      subst poll
      obtain ⟨started, exits⟩ := before.startedAt_of_polled moved
      obtain ⟨next, answer⟩ := OneShot.StartedAt.poll _ _ started now
      refine ⟨inStage, by rw [timer]; exact next.unkicked, fun _ running => ?_⟩
      rw [timer, entered]
      have silent : decide (90000 ≤ now - state.enteredAt) = false := by
        rw [← exits.symm.trans running]
        exact (List.singleton_inj.mp answer).symm
      simpa [expiryLatch, StreamTransducer.latch, silent, oneShotPolls]
        using next
  | started timer entered =>
      refine ⟨inStage, by rw [timer]; exact before.unkicked, fun _ _ => ?_⟩
      rw [timer, entered]
      exact OneShot.startedAt_start before.unkicked now 90000
  | kept stays timer entered =>
      refine ⟨inStage, by rw [timer]; exact before.unkicked,
        fun remote running => ?_⟩
      rw [timer, entered]
      refine before.started ?_ ?_
      · exact (rthState_before_remote before.inStage moved remote).resolve_right
          fun tcp => stays tcp remote
      · exact Bool.eq_false_of_not_eq_true fun exiting =>
          absurd (isExiting_of_step moved exiting) (by rw [running]; decide)

theorem remoteTimed_of_reachable {mqtt : MqttTopics} {device : SlacDevice}
    {state : TimedProcess}
    (reachable : (timedProcess mqtt device).Reachable state) :
    RemoteTimed device state := by
  have initial : (deviceProcess mqtt device).Reachable
      (deviceProcess mqtt device).initial := .start
  refine reachable.invariant ⟨inStage_of_reachable initial, rfl, ?_⟩
    fun before _ step => before.step step
  cases device <;> exact fun remote => by cases remote

/-- In every run, a poll of remote mode ends the session exactly when the clock
is 90 seconds past the reading at which remote mode was entered, or behind
it. -/
theorem remoteMode_timesOut_iff {mqtt : MqttTopics} {device : SlacDevice}
    {state after : TimedProcess} {expired : Bool} {now : UInt64}
    (reachable : (timedProcess mqtt device).Reachable state)
    (step : (timedProcess mqtt device).step state
      (.main (.expired expired), now) = some after) :
    after.process.main.isExiting = true ↔
      state.enteredAt.toNat + 90000 ≤ now.toNat ∨
        BehindStart state.enteredAt 90000 now := by
  obtain ⟨answer, moved, -, -⟩ := timedStep_expired step
  obtain ⟨started, exits⟩ :=
    (remoteTimed_of_reachable reachable).startedAt_of_polled moved
  rw [exits, ← answer,
    OneShot.isExpired_of_unkicked started.running started.unkicked,
    decide_eq_true_eq, started.startTime, started.duration, le_elapsed_iff]
  rfl

end OpenRTH
