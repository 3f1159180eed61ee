import OpenRTH.Handshake
import OpenRTH.TransitionRuns

/-!
# The progress of a handshake

`rth_hs` is assigned by the loop and by `handle_message`, in any order.  Along a
run its value goes back exactly when a handshake message from the EVSE is
handled after the handshake has been established.
-/

namespace OpenRTH

/-- The numbers of `rth_handshake_t`. -/
def HandshakeState.value : HandshakeState → ℕ
  | .noHandshake => 0
  | .firstHandshake => 1
  | .bothHandshake => 2

/-- A call of `handle_message`, with `rth_hs` before it. -/
structure HandledMessage where
  topic : CString
  message : CString
  before : HandshakeState
  deriving DecidableEq

/-- The message of the EVSE is taken for the first one although the handshake is
established. -/
def HandledMessage.Reopens (mqtt : MqttTopics) (call : HandledMessage) : Prop :=
  call.topic = mqtt.evseMessage ∧ call.topic ≠ mqtt.evMessage ∧
    call.message = handshakeMessage ∧ call.before = .bothHandshake

instance (mqtt : MqttTopics) (call : HandledMessage) :
    Decidable (call.Reopens mqtt) :=
  inferInstanceAs (Decidable (_ ∧ _))

/-- A device in or after `rth_handshake`, the values that `rth_hs` has had since
the start, oldest first, and the messages that were handled. -/
structure HandshakeProgress where
  device : HandshakeDevice
  values : List HandshakeState
  handled : List HandledMessage

inductive ProgressAction
  | run (signalCaptured : Bool)
  | handle (topic message : CString)

/-- The steps of `rth_handshake` and arbitrary calls of `handle_message`. -/
def handshakeProgress (mqtt : MqttTopics) (deviceType : DeviceType) :
    TransitionSystem HandshakeProgress ProgressAction where
  initial := ⟨.enter, [.noHandshake], []⟩
  step state
    | .run signalCaptured =>
        (handshakeStep mqtt deviceType signalCaptured state.device).map
          fun (device, _) =>
            { state with
              device := device
              values := state.values ++ [device.rthHandshake] }
    | .handle topic message =>
        let device := state.device.hear mqtt (some (topic, message))
        some
          { device := device
            values := state.values ++ [device.rthHandshake]
            handled := state.handled ++
              [⟨topic, message, state.device.rthHandshake⟩] }

/-- The value of `rth_hs` never went back. -/
def HandshakeProgress.NeverDecreased (state : HandshakeProgress) : Prop :=
  state.values.Pairwise fun earlier later => earlier.value ≤ later.value

/-! ## What a step does to `rth_hs` -/

theorem HandshakeState.value_le_both (state : HandshakeState) :
    state.value ≤ HandshakeState.bothHandshake.value := by
  cases state <;> decide

theorem value_le_of_handshakeStep {mqtt : MqttTopics} {deviceType : DeviceType}
    {signalCaptured : Bool} {device after : HandshakeDevice}
    {published : Option Publication}
    (step : handshakeStep mqtt deviceType signalCaptured device =
      some (after, published)) :
    device.rthHandshake.value ≤ after.rthHandshake.value := by
  unfold handshakeStep at step
  split at step <;> (try split_ifs at step) <;> cases step <;> first
    | exact Nat.le_refl _
    | exact HandshakeState.value_le_both _

/-- `handle_message` sets `rth_hs` back only when it reopens an established
handshake. -/
theorem value_le_hear_iff (mqtt : MqttTopics) (topic message : CString)
    (device : HandshakeDevice) :
    device.rthHandshake.value ≤
        (device.hear mqtt (some (topic, message))).rthHandshake.value ↔
      ¬ (HandledMessage.mk topic message device.rthHandshake).Reopens
        mqtt := by
  simp only [HandshakeDevice.hear, handleMessage, HandledMessage.Reopens]
  split_ifs with onEvMessage handshake onEvseMessage handshake
  · simp [HandshakeState.value_le_both, onEvMessage]
  · simp [handshake]
  · subst onEvseMessage
    cases device.rthHandshake <;>
      simp [HandshakeState.value, onEvMessage, handshake]
  · simp [handshake]
  · simp [onEvseMessage]

/-! ## Runs -/

/-- The last value in the record is the current one, and the record goes back
exactly when an established handshake was reopened. -/
structure TracksProgress (mqtt : MqttTopics) (state : HandshakeProgress) :
    Prop where
  current : ∃ earlier, state.values = earlier ++ [state.device.rthHandshake]
  progress : state.NeverDecreased ↔
    ∀ call ∈ state.handled, ¬ call.Reopens mqtt

/-- Appending a value keeps a record that ends with the current value going
forward exactly when the new value is not smaller. -/
theorem pairwise_append_next (earlier : List HandshakeState)
    (current next : HandshakeState) :
    (earlier ++ [current] ++ [next]).Pairwise
        (fun first second => first.value ≤ second.value) ↔
      (earlier ++ [current]).Pairwise
          (fun first second => first.value ≤ second.value) ∧
        current.value ≤ next.value := by
  rw [List.pairwise_append]
  constructor
  · rintro ⟨record, -, bounded⟩
    exact ⟨record, bounded current (by simp) next (by simp)⟩
  · rintro ⟨record, forward⟩
    refine ⟨record, List.pairwise_singleton _ _, ?_⟩
    rintro value member last atEnd
    obtain rfl := List.mem_singleton.mp atEnd
    rcases List.mem_append.mp member with before | atCurrent
    · have bounded := (List.pairwise_append.mp record).2.2 value before
        current (by simp)
      exact bounded.trans forward
    · obtain rfl := List.mem_singleton.mp atCurrent
      exact forward

theorem tracksProgress_of_step {mqtt : MqttTopics} {deviceType : DeviceType}
    {state after : HandshakeProgress} {action : ProgressAction}
    (holds : TracksProgress mqtt state)
    (step : (handshakeProgress mqtt deviceType).step state action =
      some after) :
    TracksProgress mqtt after := by
  obtain ⟨earlier, values⟩ := holds.current
  have progress := holds.progress
  unfold HandshakeProgress.NeverDecreased at progress
  rw [values] at progress
  cases action with
  | run signalCaptured =>
      obtain ⟨⟨device, published⟩, ran, rfl⟩ := Option.map_eq_some_iff.mp step
      have forward := value_le_of_handshakeStep ran
      refine ⟨⟨state.values, rfl⟩, ?_⟩
      simp only [HandshakeProgress.NeverDecreased, values]
      rw [pairwise_append_next, progress]
      simp [forward]
  | handle topic message =>
      obtain rfl := Option.some.inj step
      have forward := value_le_hear_iff mqtt topic message state.device
      refine ⟨⟨state.values, rfl⟩, ?_⟩
      simp only [HandshakeProgress.NeverDecreased, values]
      rw [pairwise_append_next, progress, forward, List.forall_mem_append,
        List.forall_mem_singleton]

theorem tracksProgress (mqtt : MqttTopics) (deviceType : DeviceType)
    {state : HandshakeProgress}
    (reachable : (handshakeProgress mqtt deviceType).Reachable state) :
    TracksProgress mqtt state := by
  refine reachable.invariant ⟨⟨[], rfl⟩, ?_⟩
    fun holds _ step => tracksProgress_of_step holds step
  simp [HandshakeProgress.NeverDecreased, handshakeProgress]

/-- On either device and in every run, `rth_hs` never goes back exactly when no
handshake message of the EVSE is handled after the handshake has been
established. -/
theorem handshakeProgress_neverDecreased_iff (mqtt : MqttTopics)
    (deviceType : DeviceType) {state : HandshakeProgress}
    (reachable : (handshakeProgress mqtt deviceType).Reachable state) :
    state.NeverDecreased ↔ ∀ call ∈ state.handled, ¬ call.Reopens mqtt :=
  (tracksProgress mqtt deviceType reachable).progress

/-- The EV hears the EVSE early and once more, replies in four iterations and
returns with the handshake. -/
def wholeExchange : List ProgressAction :=
  .handle ['e', 'v', 's', 'e'] handshakeMessage ::
    (List.replicate 7 (.run false) ++
      .handle ['e', 'v', 's', 'e'] handshakeMessage ::
        List.replicate 19 (.run false))

theorem handshakeProgress_neverDecreased_exchange :
    ∃ state, (handshakeProgress benchTopics .EV).Reachable state ∧
      state.device.pc = .returned 0 ∧ state.handled.length = 2 ∧
      state.NeverDecreased := by
  obtain ⟨state, reachable, found⟩ :=
    TransitionSystem.exists_reaches_of_follow
      (handshakeProgress benchTopics .EV) (fun _ _ => True) wholeExchange
      (fun state => state.device.pc = .returned 0 ∧ state.handled.length = 2 ∧
        ∀ call ∈ state.handled, ¬ call.Reopens benchTopics) (by decide)
  obtain ⟨returned, twice, apart⟩ := of_decide_eq_true found
  exact ⟨state, reachable, returned, twice,
    (handshakeProgress_neverDecreased_iff benchTopics .EV reachable).mpr apart⟩

instance (state : HandshakeProgress) : Decidable state.NeverDecreased :=
  inferInstanceAs (Decidable (List.Pairwise _ _))

/-- The EV hears the EVSE early, replies in four iterations and hears the next
message of the EVSE just before it tests for the end. -/
def reopeningRun : List ProgressAction :=
  .handle ['e', 'v', 's', 'e'] handshakeMessage ::
    (List.replicate 25 (.run false) ++
      [.handle ['e', 'v', 's', 'e'] handshakeMessage])

theorem handshakeProgress_decreases :
    ∃ state, (handshakeProgress benchTopics .EV).Reachable state ∧
      ¬ state.NeverDecreased := by
  obtain ⟨state, reaches, decreased⟩ :=
    TransitionSystem.exists_reaches_of_follow
      (handshakeProgress benchTopics .EV) (fun _ _ => True) reopeningRun
      (fun state => decide (¬ state.NeverDecreased)) (by decide)
  exact ⟨state, reaches, of_decide_eq_true decreased⟩

end OpenRTH
