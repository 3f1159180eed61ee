import Mathlib.Tactic.Ring
import OpenRTH.Handshake
import OpenRTH.TransitionRuns

/-!
# Two devices in the handshake

The EVSE and the EV in `rth_handshake`, each with its own clock for the moment
at which it runs next.  The body of the loop takes no time and the sleep takes
three seconds; what happens at the same moment happens in any order, step by
step.  The broker delivers at once, and drops what it receives before the EV
has subscribed.
-/

namespace OpenRTH

/-- `sleep(3)`, in nanoseconds. -/
def handshakeSleep : ℕ := 3000000000

/-- When the devices enter `rth_handshake`, and when the EV subscribes in
`broker_check` before. -/
structure HandshakeTimes where
  evseEnters : ℕ
  evSubscribes : ℕ
  evEnters : ℕ
  subscribes_le : evSubscribes ≤ evEnters

/-- Both devices, and the moments at which they run next. -/
@[ext] structure TimedHandshake where
  evse : HandshakeDevice
  ev : HandshakeDevice
  evseDue : ℕ
  evDue : ℕ
  subscribed : Bool
  deriving DecidableEq

inductive HandshakeTurn
  | evse
  | ev
  | subscribe
  deriving DecidableEq

/-- The moment at which a device runs next. -/
def nextDue (after : HandshakeDevice) (due : ℕ) : ℕ :=
  if after.pc = .sleeping then due + handshakeSleep else due

/-- The EVSE can run before everything that is still to happen. -/
def TimedHandshake.evseTurn (times : HandshakeTimes)
    (state : TimedHandshake) : Prop :=
  (state.ev.pc.ended ∨ state.evseDue ≤ state.evDue) ∧
    (state.subscribed ∨ state.evseDue ≤ times.evSubscribes)

def TimedHandshake.evTurn (state : TimedHandshake) : Prop :=
  state.subscribed ∧ (state.evse.pc.ended ∨ state.evDue ≤ state.evseDue)

def TimedHandshake.subscribeTurn (times : HandshakeTimes)
    (state : TimedHandshake) : Prop :=
  state.subscribed = false ∧
    (state.evse.pc.ended ∨ times.evSubscribes ≤ state.evseDue)

instance (times : HandshakeTimes) (state : TimedHandshake) :
    Decidable (state.evseTurn times) :=
  inferInstanceAs (Decidable (_ ∧ _))

instance (state : TimedHandshake) : Decidable state.evTurn :=
  inferInstanceAs (Decidable (_ ∧ _))

instance (times : HandshakeTimes) (state : TimedHandshake) :
    Decidable (state.subscribeTurn times) :=
  inferInstanceAs (Decidable (_ ∧ _))

/-- The EV publishes to an EVSE that has published to it, which has then
subscribed already. -/
def timedHandshake (mqtt : MqttTopics) (times : HandshakeTimes) :
    TransitionSystem TimedHandshake HandshakeTurn where
  initial := ⟨.enter, .enter, times.evseEnters, times.evEnters, false⟩
  step state
    | .evse =>
        if state.evseTurn times then
          (handshakeStep mqtt .EVSE false state.evse).map
            fun (evse, published) =>
              { state with
                evse := evse
                evseDue := nextDue evse state.evseDue
                ev := state.ev.hear mqtt
                  (if state.subscribed then published else none) }
        else none
    | .ev =>
        if state.evTurn then
          (handshakeStep mqtt .EV false state.ev).map
            fun (ev, published) =>
              { state with
                ev := ev
                evDue := nextDue ev state.evDue
                evse := state.evse.hear mqtt published }
        else none
    | .subscribe =>
        if state.subscribeTurn times then
          some { state with subscribed := true }
        else none

/-- What holds of the clocks and program counters at any moment. -/
structure HandshakeClocks (times : HandshakeTimes)
    (state : TimedHandshake) : Prop where
  evseDue : state.evseDue =
    times.evseEnters + handshakeSleep * state.evse.numRetries
  evDue : state.evDue = times.evEnters + handshakeSleep * state.ev.numRetries
  evseRetries : state.evse.numRetries ≤ 11
  evRetries : state.ev.numRetries ≤ 11
  evseNoReply : state.evse.pc ≠ .sendReply
  evseNoSettle : state.evse.pc ≠ .settle
  evNoFirst : state.ev.pc ≠ .sendFirst
  evRunning : state.ev.pc ≠ .testNone → state.subscribed
  evseBody : state.evse.pc.inBody → state.evseTurn times
  evBody : state.ev.pc.inBody → state.evTurn

/-- The steps of the two devices, each with its guard. -/
inductive TimedStep (mqtt : MqttTopics) (times : HandshakeTimes)
    (state : TimedHandshake) : HandshakeTurn → TimedHandshake → Prop
  | evse {evse : HandshakeDevice} {published : Option Publication}
      (turn : state.evseTurn times)
      (moved : EVSEHandshake mqtt state.evse evse published) :
      TimedStep mqtt times state .evse
        { state with
          evse := evse
          evseDue := nextDue evse state.evseDue
          ev := state.ev.hear mqtt
            (if state.subscribed then published else none) }
  | ev {ev : HandshakeDevice} {published : Option Publication}
      (turn : state.evTurn)
      (moved : EVHandshake mqtt state.ev ev published) :
      TimedStep mqtt times state .ev
        { state with
          ev := ev
          evDue := nextDue ev state.evDue
          evse := state.evse.hear mqtt published }
  | subscribe (turn : state.subscribeTurn times) :
      TimedStep mqtt times state .subscribe
        { state with subscribed := true }

theorem HandshakeClocks.timedStep {mqtt : MqttTopics} {times : HandshakeTimes}
    {state after : TimedHandshake} {turn : HandshakeTurn}
    (clocks : HandshakeClocks times state)
    (step : (timedHandshake mqtt times).step state turn = some after) :
    TimedStep mqtt times state turn after := by
  cases turn with
  | evse =>
      simp only [timedHandshake] at step
      rw [Option.ite_none_right_eq_some] at step
      obtain ⟨turn, step⟩ := step
      obtain ⟨⟨evse, published⟩, moved, rfl⟩ := Option.map_eq_some_iff.mp step
      exact .evse turn
        (evseHandshake_of_step moved clocks.evseNoReply clocks.evseNoSettle)
  | ev =>
      simp only [timedHandshake] at step
      rw [Option.ite_none_right_eq_some] at step
      obtain ⟨turn, step⟩ := step
      obtain ⟨⟨ev, published⟩, moved, rfl⟩ := Option.map_eq_some_iff.mp step
      exact .ev turn (evHandshake_of_step moved clocks.evNoFirst)
  | subscribe =>
      simp only [timedHandshake] at step
      split_ifs at step with turn
      obtain rfl := Option.some.inj step
      exact .subscribe turn

theorem HandshakeClocks.start (mqtt : MqttTopics) (times : HandshakeTimes) :
    HandshakeClocks times (timedHandshake mqtt times).initial := by
  constructor <;> simp [timedHandshake, HandshakeDevice.enter,
    HandshakePc.inBody]

theorem le_nextDue (after : HandshakeDevice) (due : ℕ) :
    due ≤ nextDue after due := by
  unfold nextDue
  split_ifs <;> omega

theorem nextDue_of_inBody {after : HandshakeDevice}
    (inBody : after.pc.inBody) (due : ℕ) : nextDue after due = due := by
  apply if_neg
  intro asleep
  rw [asleep] at inBody
  cases inBody

theorem nextDue_of_handshakeStep {mqtt : MqttTopics} {deviceType : DeviceType}
    {signalCaptured : Bool} {device after : HandshakeDevice}
    {published : Option Publication} {enters due : ℕ}
    (step : handshakeStep mqtt deviceType signalCaptured device =
      some (after, published))
    (atDue : due = enters + handshakeSleep * device.numRetries) :
    nextDue after due = enters + handshakeSleep * after.numRetries := by
  rw [numRetries_of_handshakeStep step, nextDue, atDue]
  split_ifs <;> ring

theorem HandshakeClocks.evse {mqtt : MqttTopics} {times : HandshakeTimes}
    {state : TimedHandshake} (clocks : HandshakeClocks times state)
    {evse : HandshakeDevice} {published : Option Publication}
    (turn : state.evseTurn times)
    (moved : EVSEHandshake mqtt state.evse evse published) :
    HandshakeClocks times
      { state with
        evse := evse
        evseDue := nextDue evse state.evseDue
        ev := state.ev.hear mqtt
          (if state.subscribed then published else none) } where
  evseDue := nextDue_of_handshakeStep moved.step clocks.evseDue
  evDue := by simpa using clocks.evDue
  evseRetries := numRetries_le_of_handshakeStep moved.step clocks.evseRetries
  evRetries := by simpa using clocks.evRetries
  evseNoReply := by cases moved <;> simp
  evseNoSettle := by cases moved <;> simp
  evNoFirst := by simpa using clocks.evNoFirst
  evRunning := by simpa using clocks.evRunning
  evseBody := by
    intro inBody
    simpa [TimedHandshake.evseTurn, nextDue_of_inBody inBody] using turn
  evBody := by
    intro inBody
    obtain ⟨subscribed, later⟩ := clocks.evBody (by simpa using inBody)
    have due := later.resolve_left
      (by simp [ended_eq_false_of_handshakeStep moved.step])
    exact ⟨subscribed, .inr (due.trans (le_nextDue evse _))⟩

theorem HandshakeClocks.ev {mqtt : MqttTopics} {times : HandshakeTimes}
    {state : TimedHandshake} (clocks : HandshakeClocks times state)
    {ev : HandshakeDevice} {published : Option Publication}
    (turn : state.evTurn)
    (moved : EVHandshake mqtt state.ev ev published) :
    HandshakeClocks times
      { state with
        ev := ev
        evDue := nextDue ev state.evDue
        evse := state.evse.hear mqtt published } where
  evseDue := by simpa using clocks.evseDue
  evDue := nextDue_of_handshakeStep moved.step clocks.evDue
  evseRetries := by simpa using clocks.evseRetries
  evRetries := numRetries_le_of_handshakeStep moved.step clocks.evRetries
  evseNoReply := by simpa using clocks.evseNoReply
  evseNoSettle := by simpa using clocks.evseNoSettle
  evNoFirst := by cases moved <;> simp
  evRunning := fun _ => turn.1
  evseBody := by
    intro inBody
    obtain ⟨later, subscribes⟩ := clocks.evseBody (by simpa using inBody)
    have due := later.resolve_left
      (by simp [ended_eq_false_of_handshakeStep moved.step])
    exact ⟨.inr (due.trans (le_nextDue ev _)), subscribes⟩
  evBody := by
    intro inBody
    simpa [TimedHandshake.evTurn, nextDue_of_inBody inBody] using turn

theorem HandshakeClocks.subscribe {times : HandshakeTimes}
    {state : TimedHandshake} (clocks : HandshakeClocks times state) :
    HandshakeClocks times { state with subscribed := true } :=
  { clocks with
    evRunning := fun _ => rfl
    evseBody := fun inBody => ⟨(clocks.evseBody inBody).1, .inl rfl⟩
    evBody := fun inBody => ⟨rfl, (clocks.evBody inBody).2⟩ }

theorem HandshakeClocks.step {mqtt : MqttTopics} {times : HandshakeTimes}
    {state after : TimedHandshake} {turn : HandshakeTurn}
    (clocks : HandshakeClocks times state)
    (step : (timedHandshake mqtt times).step state turn = some after) :
    HandshakeClocks times after := by
  cases clocks.timedStep step with
  | evse turn moved => exact clocks.evse turn moved
  | ev turn moved => exact clocks.ev turn moved
  | subscribe turn => exact clocks.subscribe

theorem handshakeClocks_of_reachable {mqtt : MqttTopics}
    {times : HandshakeTimes} {state : TimedHandshake}
    (reachable : (timedHandshake mqtt times).Reachable state) :
    HandshakeClocks times state :=
  reachable.invariant (.start mqtt times) fun clocks _ step => clocks.step step

/-! ## Runs end -/

def TimedHandshake.stepsLeft (state : TimedHandshake) : ℕ :=
  state.evse.stepsLeft + state.ev.stepsLeft + if state.subscribed then 0 else 1

/-- Every run ends. -/
theorem TimedHandshake.stepsLeft_lt {mqtt : MqttTopics} {times : HandshakeTimes}
    {state after : TimedHandshake} {turn : HandshakeTurn}
    (step : (timedHandshake mqtt times).step state turn = some after) :
    after.stepsLeft < state.stepsLeft := by
  cases turn with
  | evse =>
      simp only [timedHandshake] at step
      rw [Option.ite_none_right_eq_some] at step
      obtain ⟨⟨evse, published⟩, moved, rfl⟩ :=
        Option.map_eq_some_iff.mp step.2
      have fewer := stepsLeft_lt_of_handshakeStep moved
      simp only [TimedHandshake.stepsLeft, HandshakeDevice.stepsLeft_hear]
      omega
  | ev =>
      simp only [timedHandshake] at step
      rw [Option.ite_none_right_eq_some] at step
      obtain ⟨⟨ev, published⟩, moved, rfl⟩ :=
        Option.map_eq_some_iff.mp step.2
      have fewer := stepsLeft_lt_of_handshakeStep moved
      simp only [TimedHandshake.stepsLeft, HandshakeDevice.stepsLeft_hear]
      omega
  | subscribe =>
      simp only [timedHandshake] at step
      rw [Option.ite_none_right_eq_some] at step
      obtain ⟨turn, rfl⟩ := step.imp_right Option.some.inj
      have unsubscribed : state.subscribed = false := by
        simp_all [TimedHandshake.subscribeTurn]
      simp [TimedHandshake.stepsLeft, unsubscribed]

theorem exists_evse_step (mqtt : MqttTopics) {times : HandshakeTimes}
    {state : TimedHandshake} (running : state.evse.pc.ended = false)
    (turn : state.evseTurn times) :
    ∃ after, (timedHandshake mqtt times).step state .evse = some after := by
  obtain ⟨moved, step⟩ := Option.isSome_iff_exists.mp
    (handshakeStep_isSome mqtt .EVSE false running)
  exact ⟨_, by simp only [timedHandshake, if_pos turn, step]; rfl⟩

theorem exists_ev_step (mqtt : MqttTopics) (times : HandshakeTimes)
    {state : TimedHandshake} (running : state.ev.pc.ended = false)
    (turn : state.evTurn) :
    ∃ after, (timedHandshake mqtt times).step state .ev = some after := by
  obtain ⟨moved, step⟩ := Option.isSome_iff_exists.mp
    (handshakeStep_isSome mqtt .EV false running)
  exact ⟨_, by simp only [timedHandshake, if_pos turn, step]; rfl⟩

/-- Some device can run unless both have returned. -/
theorem HandshakeClocks.ended_of_stuck {mqtt : MqttTopics}
    {times : HandshakeTimes} {state : TimedHandshake}
    (clocks : HandshakeClocks times state)
    (stuck : ∀ turn, (timedHandshake mqtt times).step state turn = none) :
    state.evse.pc.ended ∧ state.ev.pc.ended := by
  have evseStuck : state.evse.pc.ended = false → ¬ state.evseTurn times := by
    intro running turn
    obtain ⟨after, step⟩ := exists_evse_step mqtt running turn
    simp [stuck] at step
  have evStuck : state.ev.pc.ended = false → ¬ state.evTurn := by
    intro running turn
    obtain ⟨after, step⟩ := exists_ev_step mqtt times running turn
    simp [stuck] at step
  have subscribeStuck : ¬ state.subscribeTurn times := by
    simpa [timedHandshake] using stuck .subscribe
  by_cases subscribed : state.subscribed
  · have evseEnded : state.evse.pc.ended := by
      by_contra running
      rw [Bool.not_eq_true] at running
      have ahead : ¬ (state.ev.pc.ended ∨ state.evseDue ≤ state.evDue) :=
        fun first => evseStuck running ⟨first, .inl subscribed⟩
      obtain ⟨evRunning, later⟩ := not_or.mp ahead
      rw [Bool.not_eq_true] at evRunning
      exact evStuck evRunning ⟨subscribed, .inr (by omega)⟩
    refine ⟨evseEnded, ?_⟩
    by_contra running
    rw [Bool.not_eq_true] at running
    exact evStuck running ⟨subscribed, .inl evseEnded⟩
  · -- Before the EV subscribes, the EVSE is ahead of both its moments.
    exfalso
    have ahead : ¬ (state.evse.pc.ended ∨
        times.evSubscribes ≤ state.evseDue) :=
      fun first => subscribeStuck ⟨by simpa using subscribed, first⟩
    obtain ⟨running, earlier⟩ := not_or.mp ahead
    have evDue := clocks.evDue
    have subscribes := times.subscribes_le
    rw [Bool.not_eq_true] at running
    exact evseStuck running ⟨.inr (by omega), .inr (by omega)⟩

end OpenRTH
