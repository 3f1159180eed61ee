import OpenRTH.EventHistory
import OpenRTH.Handshake
import OpenRTH.TransitionRuns

/-!
# What a finished handshake tells a device

The two devices with their subscriptions, and a record of what is published and
received.  A message on a subscribed topic is delivered at any later moment, any
number of times or never, and the steps of the devices and the deliveries
interleave in any order.
-/

namespace OpenRTH

inductive HandshakeEvent
  | published (sender : DeviceType) (publication : Publication)
  | received (receiver : DeviceType) (publication : Publication)
  deriving DecidableEq

/-- A device before or in `rth_handshake`.  Once it has subscribed, it hears
messages whether or not it has entered. -/
structure HandshakeParty where
  device : HandshakeDevice
  subscribed : Bool
  entered : Bool
  deriving DecidableEq

/-- `relay` publishes a message of the relay on the topic of the device;
`deliver` hands the device the message that an earlier event published. -/
inductive PartyAction
  | subscribe
  | enter
  | run (signalCaptured : Bool)
  | relay (message : CString)
  | deliver (event : ℕ)
  deriving DecidableEq

/-- The topic that `broker_check` subscribes to. -/
def MqttTopics.subscription (mqtt : MqttTopics) : DeviceType → Option CString
  | .EV => some mqtt.evseMessage
  | .EVSE => some mqtt.evMessage
  | .other => none

/-- The topic that the device publishes its messages on. -/
def MqttTopics.ownTopic (mqtt : MqttTopics) : DeviceType → CString
  | .EV => mqtt.evMessage
  | .EVSE | .other => mqtt.evseMessage

/-- What a device does, and the events that this adds to the record. -/
def partyStep (mqtt : MqttTopics) (deviceType : DeviceType)
    (history : List HandshakeEvent) (party : HandshakeParty) :
    PartyAction → Option (HandshakeParty × List HandshakeEvent)
  | .subscribe => some ({ party with subscribed := true }, [])
  | .enter =>
      if party.subscribed then some ({ party with entered := true }, [])
      else none
  | .run signalCaptured =>
      if party.entered then
        (handshakeStep mqtt deviceType signalCaptured party.device).map
          fun (device, published) =>
            ({ party with device := device },
              (published.map (.published deviceType)).toList)
      else none
  | .relay message =>
      if message = handshakeMessage then none
      else some (party,
        [.published deviceType (mqtt.ownTopic deviceType, message)])
  | .deliver event =>
      match history[event]? with
      | some (.published _ (topic, message)) =>
          if party.subscribed ∧ mqtt.subscription deviceType = some topic then
            some ({ party with
                device := party.device.hear mqtt (some (topic, message)) },
              [.received deviceType (topic, message)])
          else none
      | _ => none

/-- Both devices and the record of the events so far. -/
structure HandshakeHistory where
  evse : HandshakeParty
  ev : HandshakeParty
  history : List HandshakeEvent
  deriving DecidableEq

def handshakeHistory (mqtt : MqttTopics) :
    TransitionSystem HandshakeHistory (PartyAction ⊕ PartyAction) where
  initial := ⟨⟨.enter, false, false⟩, ⟨.enter, false, false⟩, []⟩
  step state
    | .inl action =>
        (partyStep mqtt .EVSE state.history state.evse action).map
          fun (evse, events) =>
            { state with evse := evse, history := state.history ++ events }
    | .inr action =>
        (partyStep mqtt .EV state.history state.ev action).map
          fun (ev, events) =>
            { state with ev := ev, history := state.history ++ events }

/-! ## The four events of a handshake -/

section Events

variable (mqtt : MqttTopics)

def firstSent : HandshakeEvent :=
  .published .EVSE (mqtt.evseMessage, handshakeMessage)

def firstReceived : HandshakeEvent :=
  .received .EV (mqtt.evseMessage, handshakeMessage)

def replySent : HandshakeEvent :=
  .published .EV (mqtt.evMessage, handshakeMessage)

def replyReceived : HandshakeEvent :=
  .received .EVSE (mqtt.evMessage, handshakeMessage)

/-- Every event of a handshake stands behind the ones that lead to it. -/
structure CausalHistory (history : List HandshakeEvent) : Prop where
  received : PrecededBy [firstSent mqtt].Sublist (firstReceived mqtt) history
  replied : PrecededBy [firstSent mqtt, firstReceived mqtt].Sublist
    (replySent mqtt) history
  answered : PrecededBy
    [firstSent mqtt, firstReceived mqtt, replySent mqtt].Sublist
      (replyReceived mqtt) history
  topics : ∀ sender topic message,
    .published sender (topic, message) ∈ history →
      sender = .EV ∧ topic = mqtt.evMessage ∨
        sender = .EVSE ∧ topic = mqtt.evseMessage

end Events

theorem CausalHistory.append_one {mqtt : MqttTopics}
    {history : List HandshakeEvent} (before : CausalHistory mqtt history)
    {event : HandshakeEvent}
    (received : event = firstReceived mqtt → firstSent mqtt ∈ history)
    (replied : event = replySent mqtt → firstReceived mqtt ∈ history)
    (answered : event = replyReceived mqtt → replySent mqtt ∈ history)
    (topics : ∀ sender topic message,
      event = .published sender (topic, message) →
        sender = .EV ∧ topic = mqtt.evMessage ∨
          sender = .EVSE ∧ topic = mqtt.evseMessage) :
    CausalHistory mqtt (history ++ [event]) where
  received := before.received.append_one fun now =>
    List.singleton_sublist.mpr (received now)
  replied := before.replied.append_one fun now =>
    before.received.sublist (replied now)
  answered := before.answered.append_one fun now =>
    before.replied.sublist (answered now)
  topics := by
    intro sender topic message member
    rcases List.mem_append.mp member with earlier | new
    · exact before.topics sender topic message earlier
    · exact topics sender topic message (List.mem_singleton.mp new).symm

/-! ## What a device can do -/

theorem exits_or_step_of_handshakeStep {mqtt : MqttTopics}
    {deviceType : DeviceType} {signalCaptured : Bool}
    {device after : HandshakeDevice} {published : Option Publication}
    (step : handshakeStep mqtt deviceType signalCaptured device =
      some (after, published)) :
    after = { device with pc := .exited } ∧ published = none ∨
      handshakeStep mqtt deviceType false device =
        some (after, published) := by
  cases signalCaptured with
  | false => exact .inr step
  | true =>
      cases atPc : device.pc with
      | sleeping =>
          simp only [handshakeStep, atPc, if_true, Option.some.injEq,
            Prod.mk.injEq] at step
          exact .inl ⟨step.1.symm, step.2.symm⟩
      | _ =>
          right
          simp only [handshakeStep, atPc] at step ⊢
          exact step

/-- The actions of a device, each with its guard. -/
inductive PartyMove (mqtt : MqttTopics) (deviceType : DeviceType)
    (history : List HandshakeEvent) (party : HandshakeParty) :
    HandshakeParty → List HandshakeEvent → Prop
  | arrange {after : HandshakeParty} (same : after.device = party.device) :
      PartyMove mqtt deviceType history party after []
  | exit :
      PartyMove mqtt deviceType history party
        { party with device := { party.device with pc := .exited } } []
  | run {device : HandshakeDevice} {published : Option Publication}
      (step : handshakeStep mqtt deviceType false party.device =
        some (device, published)) :
      PartyMove mqtt deviceType history party { party with device := device }
        (published.map (.published deviceType)).toList
  | relay {message : CString} (other : message ≠ handshakeMessage) :
      PartyMove mqtt deviceType history party party
        [.published deviceType (mqtt.ownTopic deviceType, message)]
  | deliver {sender : DeviceType} {topic message : CString}
      (sent : .published sender (topic, message) ∈ history)
      (subscribed : mqtt.subscription deviceType = some topic) :
      PartyMove mqtt deviceType history party
        { party with
          device := party.device.hear mqtt (some (topic, message)) }
        [.received deviceType (topic, message)]

theorem partyMove_of_step {mqtt : MqttTopics} {deviceType : DeviceType}
    {history events : List HandshakeEvent} {party after : HandshakeParty}
    {action : PartyAction}
    (step : partyStep mqtt deviceType history party action =
      some (after, events)) :
    PartyMove mqtt deviceType history party after events := by
  unfold partyStep at step
  split at step
  · cases step
    exact .arrange rfl
  · split_ifs at step
    cases step
    exact .arrange rfl
  · split_ifs at step
    obtain ⟨⟨device, published⟩, ran, equal⟩ :=
      Option.map_eq_some_iff.mp step
    cases equal
    rcases exits_or_step_of_handshakeStep ran with ⟨rfl, rfl⟩ | ran
    · exact .exit
    · exact .run ran
  · split_ifs at step with handshake
    cases step
    exact .relay handshake
  · split at step
    · next sent =>
        split_ifs at step with subscribed
        cases step
        exact .deliver (List.mem_of_getElem? sent) subscribed.2
    · cases step

/-! ## What a device knows -/

/-- The EVSE takes the handshake for finished only after a reply. -/
structure EVSECaused (mqtt : MqttTopics) (history : List HandshakeEvent)
    (device : HandshakeDevice) : Prop where
  notReply : device.pc ≠ .sendReply
  notSettle : device.pc ≠ .settle
  both : device.rthHandshake = .bothHandshake → replyReceived mqtt ∈ history
  finished : device.pc = .returned 0 → replyReceived mqtt ∈ history

/-- The EV replies only after a first message. -/
structure EVCaused (mqtt : MqttTopics) (history : List HandshakeEvent)
    (device : HandshakeDevice) : Prop where
  notFirst : device.pc ≠ .sendFirst
  heard : device.rthHandshake ≠ .noHandshake → firstReceived mqtt ∈ history
  replying : device.pc = .sendReply ∨ device.pc = .settle →
    firstReceived mqtt ∈ history
  finished : device.pc = .returned 0 → firstReceived mqtt ∈ history

variable {mqtt : MqttTopics} {history : List HandshakeEvent}
  {device after : HandshakeDevice}

theorem EVSECaused.append (before : EVSECaused mqtt history device)
    (events : List HandshakeEvent) :
    EVSECaused mqtt (history ++ events) device :=
  { before with
    both := fun both => List.mem_append_left _ (before.both both)
    finished := fun atPc => List.mem_append_left _ (before.finished atPc) }

theorem EVCaused.append (before : EVCaused mqtt history device)
    (events : List HandshakeEvent) :
    EVCaused mqtt (history ++ events) device :=
  { before with
    heard := fun heard => List.mem_append_left _ (before.heard heard)
    replying := fun atPc => List.mem_append_left _ (before.replying atPc)
    finished := fun atPc => List.mem_append_left _ (before.finished atPc) }

/-- What the EVSE publishes is a first message, and it succeeds on what it
knows. -/
theorem EVSECaused.run {published : Option Publication}
    (before : EVSECaused mqtt history device)
    (moved : EVSEHandshake mqtt device after published) :
    EVSECaused mqtt history after ∧
      ∀ publication, published = some publication →
        .published .EVSE publication = firstSent mqtt := by
  cases moved with
  | succeed atPc both =>
      exact ⟨⟨nofun, nofun, before.both, fun _ => before.both both⟩, nofun⟩
  | send atPc =>
      refine ⟨⟨nofun, nofun, before.both, nofun⟩, ?_⟩
      rintro publication ⟨⟩
      rfl
  | _ => exact ⟨⟨nofun, nofun, before.both, nofun⟩, nofun⟩

/-- What the EV publishes is a reply to a message it has received. -/
theorem EVCaused.run {published : Option Publication}
    (before : EVCaused mqtt history device)
    (moved : EVHandshake mqtt device after published) :
    EVCaused mqtt history after ∧
      ∀ publication, published = some publication →
        .published .EV publication = replySent mqtt ∧
          firstReceived mqtt ∈ history := by
  cases moved with
  | answer atPc first =>
      have received := before.heard (by rw [first]; nofun)
      exact ⟨⟨nofun, before.heard, fun _ => received, nofun⟩, nofun⟩
  | reply atPc =>
      have received := before.replying (.inl atPc)
      refine ⟨⟨nofun, before.heard, fun _ => received, nofun⟩, ?_⟩
      rintro publication ⟨⟩
      exact ⟨rfl, received⟩
  | settle atPc third =>
      have received := before.replying (.inr atPc)
      exact ⟨⟨nofun, fun _ => received, by simp, nofun⟩, nofun⟩
  | succeed atPc both =>
      have received := before.heard (by rw [both]; nofun)
      exact ⟨⟨nofun, before.heard, by simp, fun _ => received⟩, nofun⟩
  | _ => exact ⟨⟨nofun, before.heard, by simp, nofun⟩, nofun⟩

theorem HandshakeDevice.hear_other {message : CString}
    (other : message ≠ handshakeMessage) (topic : CString) :
    device.hear mqtt (some (topic, message)) = device := by
  simp only [HandshakeDevice.hear, handleMessage, if_neg other]
  split_ifs <;> rfl

theorem EVSECaused.hear (before : EVSECaused mqtt history device)
    (message : CString) :
    EVSECaused mqtt (history ++ [.received .EVSE (mqtt.evMessage, message)])
      (device.hear mqtt (some (mqtt.evMessage, message))) := by
  by_cases handshake : message = handshakeMessage
  · subst handshake
    rw [HandshakeDevice.hear_evMessage]
    have now := List.mem_append_right history
      (List.mem_singleton_self (replyReceived mqtt))
    exact ⟨before.notReply, before.notSettle, fun _ => now, fun _ => now⟩
  · rw [HandshakeDevice.hear_other handshake]
    exact before.append _

theorem EVCaused.hear (before : EVCaused mqtt history device)
    (message : CString) :
    EVCaused mqtt (history ++ [.received .EV (mqtt.evseMessage, message)])
      (device.hear mqtt (some (mqtt.evseMessage, message))) := by
  by_cases handshake : message = handshakeMessage
  · subst handshake
    have now := List.mem_append_right history
      (List.mem_singleton_self (firstReceived mqtt))
    exact ⟨by simpa using before.notFirst, fun _ => now, fun _ => now,
      fun _ => now⟩
  · rw [HandshakeDevice.hear_other handshake]
    exact before.append _

/-! ## The invariant -/

/-- What the record and the two devices have to do with each other. -/
structure HandshakeCaused (mqtt : MqttTopics) (state : HandshakeHistory) :
    Prop where
  history : CausalHistory mqtt state.history
  evse : EVSECaused mqtt state.history state.evse.device
  ev : EVCaused mqtt state.history state.ev.device

theorem CausalHistory.sent_evMessage (before : CausalHistory mqtt history)
    (distinct : mqtt.evMessage ≠ mqtt.evseMessage) {sender : DeviceType}
    {message : CString}
    (sent : .published sender (mqtt.evMessage, message) ∈ history) :
    sender = .EV := by
  rcases before.topics _ _ _ sent with ⟨isEV, -⟩ | ⟨-, sameTopic⟩
  · exact isEV
  · exact absurd sameTopic distinct

theorem CausalHistory.sent_evseMessage (before : CausalHistory mqtt history)
    (distinct : mqtt.evMessage ≠ mqtt.evseMessage) {sender : DeviceType}
    {message : CString}
    (sent : .published sender (mqtt.evseMessage, message) ∈ history) :
    sender = .EVSE := by
  rcases before.topics _ _ _ sent with ⟨-, sameTopic⟩ | ⟨isEVSE, -⟩
  · exact absurd sameTopic.symm distinct
  · exact isEVSE

theorem HandshakeCaused.evseMove
    (distinct : mqtt.evMessage ≠ mqtt.evseMessage)
    {state : HandshakeHistory} {evse : HandshakeParty}
    {events : List HandshakeEvent} (before : HandshakeCaused mqtt state)
    (moved : PartyMove mqtt .EVSE state.history state.evse evse events) :
    HandshakeCaused mqtt
      { state with evse := evse, history := state.history ++ events } := by
  obtain ⟨causal, evseCaused, evCaused⟩ := before
  cases moved with
  | arrange same =>
      rw [List.append_nil]
      exact ⟨causal, same ▸ evseCaused, evCaused⟩
  | exit =>
      rw [List.append_nil]
      exact ⟨causal, ⟨nofun, nofun, evseCaused.both, nofun⟩, evCaused⟩
  | @run device published step =>
      obtain ⟨ran, sends⟩ := evseCaused.run
        (evseHandshake_of_step step evseCaused.notReply evseCaused.notSettle)
      cases published with
      | none =>
          rw [Option.map_none, Option.toList_none, List.append_nil]
          exact ⟨causal, ran, evCaused⟩
      | some publication =>
          have first := sends publication rfl
          simp only [Option.map_some, Option.toList_some, first]
          refine ⟨causal.append_one nofun nofun nofun ?_, ran.append _,
            evCaused.append _⟩
          rintro sender topic message ⟨⟩
          exact .inr ⟨rfl, rfl⟩
  | @relay message other =>
      refine ⟨causal.append_one nofun nofun nofun ?_, evseCaused.append _,
        evCaused.append _⟩
      rintro sender topic message ⟨⟩
      exact .inr ⟨rfl, rfl⟩
  | @deliver sender topic message sent subscribed =>
      obtain rfl := Option.some.inj subscribed
      refine ⟨causal.append_one nofun nofun ?_ nofun, evseCaused.hear message,
        evCaused.append _⟩
      rintro ⟨⟩
      obtain rfl := causal.sent_evMessage distinct sent
      exact sent

theorem HandshakeCaused.evMove
    (distinct : mqtt.evMessage ≠ mqtt.evseMessage)
    {state : HandshakeHistory} {ev : HandshakeParty}
    {events : List HandshakeEvent} (before : HandshakeCaused mqtt state)
    (moved : PartyMove mqtt .EV state.history state.ev ev events) :
    HandshakeCaused mqtt
      { state with ev := ev, history := state.history ++ events } := by
  obtain ⟨causal, evseCaused, evCaused⟩ := before
  cases moved with
  | arrange same =>
      rw [List.append_nil]
      exact ⟨causal, evseCaused, same ▸ evCaused⟩
  | exit =>
      rw [List.append_nil]
      exact ⟨causal, evseCaused, ⟨nofun, evCaused.heard, by simp, nofun⟩⟩
  | @run device published step =>
      obtain ⟨ran, sends⟩ :=
        evCaused.run (evHandshake_of_step step evCaused.notFirst)
      cases published with
      | none =>
          rw [Option.map_none, Option.toList_none, List.append_nil]
          exact ⟨causal, evseCaused, ran⟩
      | some publication =>
          obtain ⟨reply, received⟩ := sends publication rfl
          simp only [Option.map_some, Option.toList_some, reply]
          refine ⟨causal.append_one nofun (fun _ => received) nofun ?_,
            evseCaused.append _, ran.append _⟩
          rintro sender topic message ⟨⟩
          exact .inl ⟨rfl, rfl⟩
  | @relay message other =>
      refine ⟨causal.append_one nofun ?_ nofun ?_, evseCaused.append _,
        evCaused.append _⟩
      · rintro ⟨⟩
        exact absurd rfl other
      · rintro sender topic message ⟨⟩
        exact .inl ⟨rfl, rfl⟩
  | @deliver sender topic message sent subscribed =>
      obtain rfl := Option.some.inj subscribed
      refine ⟨causal.append_one ?_ nofun nofun nofun, evseCaused.append _,
        evCaused.hear message⟩
      rintro ⟨⟩
      obtain rfl := causal.sent_evseMessage distinct sent
      exact sent

theorem handshakeCaused_of_reachable
    (distinct : mqtt.evMessage ≠ mqtt.evseMessage) {state : HandshakeHistory}
    (reachable : (handshakeHistory mqtt).Reachable state) :
    HandshakeCaused mqtt state := by
  apply reachable.invariant
  · have notReplying : ¬ (HandshakePc.testNone = .sendReply ∨
        HandshakePc.testNone = .settle) := by decide
    exact ⟨⟨.nil, .nil, .nil, nofun⟩, ⟨nofun, nofun, nofun, nofun⟩,
      ⟨nofun, fun heard => absurd rfl heard,
        fun replying => absurd replying notReplying, nofun⟩⟩
  · intro state after action before _ step
    cases action with
    | inl action =>
        obtain ⟨⟨evse, events⟩, moved, rfl⟩ :=
          Option.map_eq_some_iff.mp step
        exact before.evseMove distinct (partyMove_of_step moved)
    | inr action =>
        obtain ⟨⟨ev, events⟩, moved, rfl⟩ := Option.map_eq_some_iff.mp step
        exact before.evMove distinct (partyMove_of_step moved)

/-- Where the EVSE has finished the handshake, the EV has received its message
and replied, and where the EV has finished it, it has received a message that
the EVSE published. -/
theorem handshakeHistory_causes
    (distinct : mqtt.evMessage ≠ mqtt.evseMessage) {state : HandshakeHistory}
    (reachable : (handshakeHistory mqtt).Reachable state) :
    (state.evse.device.pc = .returned 0 →
      [firstSent mqtt, firstReceived mqtt, replySent mqtt,
        replyReceived mqtt].Sublist state.history) ∧
      (state.ev.device.pc = .returned 0 →
        [firstSent mqtt, firstReceived mqtt].Sublist state.history) := by
  obtain ⟨causal, evse, ev⟩ := handshakeCaused_of_reachable distinct reachable
  constructor
  · intro returned
    exact causal.answered.sublist (evse.finished returned)
  · intro returned
    exact causal.received.sublist (ev.finished returned)

/-- A device takes a number of steps of `rth_handshake`. -/
def partyRuns (runs : ℕ) : List PartyAction :=
  List.replicate runs (.run false)

/-- The EV replies four times, and the EVSE hears the first reply. -/
def finishedHandshake : List (PartyAction ⊕ PartyAction) :=
  (.subscribe :: .enter :: partyRuns 5).map .inl ++
    (.subscribe :: .deliver 0 :: .enter :: partyRuns 26).map .inr ++
    (.deliver 2 :: partyRuns 4).map .inl

theorem handshakeHistory_causes_finished :
    ∃ state, (handshakeHistory benchTopics).Reachable state ∧
      state.evse.device.pc = .returned 0 ∧
      state.ev.device.pc = .returned 0 ∧
      [firstSent benchTopics, firstReceived benchTopics,
        replySent benchTopics, replyReceived benchTopics].Sublist
          state.history ∧
      [firstSent benchTopics, firstReceived benchTopics].Sublist
        state.history := by
  obtain ⟨state, reachable, found⟩ :=
    (handshakeHistory benchTopics).exists_reaches_of_follow
      (fun _ _ => True) finishedHandshake
      (fun state => decide (state.evse.device.pc = .returned 0 ∧
        state.ev.device.pc = .returned 0)) (by decide +kernel)
  obtain ⟨evse, ev⟩ := of_decide_eq_true found
  have causes := handshakeHistory_causes (by decide) reachable
  exact ⟨state, reachable, evse, ev, causes.1 evse, causes.2 ev⟩

end OpenRTH
