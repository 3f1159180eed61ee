import OpenRTH.HandshakeReplies

/-!
# Runs that end in disagreement

For start times at which the EV cannot be sure to reply in time there is a run
in which one device succeeds and the other one fails.  The run is not written
down step by step: an invariant says what it keeps to, and every state that
keeps to it has a step that does.
-/

namespace OpenRTH

/-- The start times for which the EVSE can miss every reply of an EV that hears
its last first. -/
structure HandshakeTimes.Late (times : HandshakeTimes) : Prop where
  subscribes : times.evSubscribes ≤ times.evseEnters + handshakeSleep * 11
  enters : times.evseEnters + handshakeSleep * 9 ≤ times.evEnters
  hears : times.evseEnters + handshakeSleep * 11 ≤ times.evEnters ∨
    times.evseEnters + handshakeSleep * 10 ≤ times.evSubscribes ∨
    times.evseEnters + handshakeSleep * 9 ≤ times.evSubscribes ∧
      (times.evEnters = times.evseEnters + handshakeSleep * 9 ∨
        times.evEnters = times.evseEnters + handshakeSleep * 10)

/-- The EVSE may run a body in a run that misses the replies: its first is
dropped, or it comes when the EV has run already, or it is the last one. -/
def TimedHandshake.sendsLate (times : HandshakeTimes)
    (state : TimedHandshake) : Prop :=
  if state.subscribed then
    state.evse.numRetries = 11 ∨
      (times.evSubscribes < state.evseDue ∧ state.evseDue < state.evDue)
  else state.evse.numRetries < 11

/-- The EVSE still runs, and no reply comes in time for it. -/
structure Missing (times : HandshakeTimes) (state : TimedHandshake) : Prop where
  evseRunning : state.evse.pc.ended = false
  evRunning : state.ev.pc.ended = false
  oneBody : ¬ (state.evse.pc.inBody ∧ state.ev.pc.inBody)
  subscribedBefore : state.subscribed →
    times.evSubscribes < state.evseDue ∨ state.evse.numRetries = 11
  sending : state.evse.pc.inBody → state.sendsLate times
  evseFresh : state.evse.rthHandshake = .noHandshake
  evHeard : state.ev.rthHandshake ≠ .noHandshake →
    times.evseEnters + handshakeSleep * 11 ≤ state.evDue ∧
      state.ev.pc.inBody = false
  evBody : state.ev.pc.inBody →
    state.evDue < times.evseEnters + handshakeSleep * 11
  evRounds : 0 < state.ev.numRetries →
    state.evDue < times.evseEnters + handshakeSleep * 12
  evHearsLast : state.evse.numRetries = 11 →
    state.evse.pc = .testFirst ∨ state.evse.pc = .testBoth ∨
      state.evse.pc = .testTimeout →
        state.ev.rthHandshake ≠ .noHandshake

/-- The EVSE has given up, and the EV has heard it. -/
structure GivenUp (state : TimedHandshake) : Prop where
  evseFailed : state.evse.pc = .returned (-1)
  subscribed : state.subscribed
  heard : state.ev.rthHandshake ≠ .noHandshake
  retries : state.ev.numRetries ≤ 3
  test : state.ev.pc = .testBoth → state.ev.numRetries = 3 →
    state.ev.rthHandshake = .bothHandshake
  timeout : state.ev.pc = .testTimeout → state.ev.numRetries < 3
  succeeds : ∀ result, state.ev.pc = .returned result → result = 0

/-- Runs in which the reply comes too late. -/
def Missed (times : HandshakeTimes) (state : TimedHandshake) : Prop :=
  Missing times state ∨ GivenUp state

theorem Missing.start (mqtt : MqttTopics) (times : HandshakeTimes) :
    Missing times (timedHandshake mqtt times).initial := by
  constructor <;> simp [timedHandshake, HandshakeDevice.enter,
    HandshakePc.inBody, HandshakePc.ended]

theorem due_le_of_sendsLate {times : HandshakeTimes} (late : times.Late)
    {state : TimedHandshake} (clocks : HandshakeClocks times state)
    (evRunning : state.ev.pc.ended = false) (turn : state.evseTurn times)
    (sends : state.sendsLate times) (subscribed : state.subscribed) :
    times.evseEnters + handshakeSleep * 11 ≤ state.evDue := by
  obtain ⟨-, -, hears⟩ := late
  have evseDue := clocks.evseDue
  have evDue := clocks.evDue
  have evseRetries := clocks.evseRetries
  have due : state.evseDue ≤ state.evDue := by simpa [evRunning] using turn.1
  simp only [TimedHandshake.sendsLate, if_pos subscribed] at sends
  simp only [handshakeSleep] at *
  rcases sends with last | sends <;> omega

theorem Missing.retries_lt {times : HandshakeTimes} (late : times.Late)
    {state : TimedHandshake} (clocks : HandshakeClocks times state)
    (missing : Missing times state) : state.ev.numRetries < 3 := by
  by_contra many
  have enters := late.enters
  have evDue := clocks.evDue
  have rounds := missing.evRounds (by omega)
  simp only [handshakeSleep] at *
  omega

theorem subscribed_of_sendsLate {times : HandshakeTimes}
    {state : TimedHandshake} (sends : state.sendsLate times)
    (last : state.evse.numRetries = 11) : state.subscribed := by
  by_contra unsubscribed
  rw [TimedHandshake.sendsLate, if_neg unsubscribed] at sends
  omega

theorem Missing.evHeard_evse {mqtt : MqttTopics} {times : HandshakeTimes}
    (late : times.Late) {state : TimedHandshake}
    (clocks : HandshakeClocks times state) (missing : Missing times state)
    (turn : state.evseTurn times) (sends : state.sendsLate times)
    {evse : HandshakeDevice} {published : Option Publication}
    (moved : EVSEHandshake mqtt state.evse evse published)
    (heard : (state.ev.hear mqtt
      (if state.subscribed then published else none)).rthHandshake ≠
        .noHandshake) :
    times.evseEnters + handshakeSleep * 11 ≤ state.evDue := by
  cases moved with
  | send atPc =>
      by_cases subscribed : state.subscribed
      · exact due_le_of_sendsLate late clocks missing.evRunning turn sends
          subscribed
      · rw [if_neg subscribed] at heard
        exact (missing.evHeard heard).1
  | _ =>
      rw [ite_self] at heard
      exact (missing.evHeard heard).1

/-- The EV has heard the last first of the EVSE. -/
theorem Missing.evHearsLast_evse {mqtt : MqttTopics} {times : HandshakeTimes}
    (distinct : mqtt.evMessage ≠ mqtt.evseMessage)
    {state : TimedHandshake} (missing : Missing times state)
    (sends : state.sendsLate times)
    {evse : HandshakeDevice} {published : Option Publication}
    (moved : EVSEHandshake mqtt state.evse evse published)
    (last : evse.numRetries = 11)
    (sent : evse.pc = .testFirst ∨ evse.pc = .testBoth ∨
      evse.pc = .testTimeout) :
    (state.ev.hear mqtt
      (if state.subscribed then published else none)).rthHandshake ≠
        .noHandshake := by
  cases moved with
  | heard atPc heard => exact absurd missing.evseFresh heard
  | send atPc =>
      rw [if_pos (subscribed_of_sendsLate sends last),
        HandshakeDevice.hear_evseMessage distinct]
      simp
  | pass atPc =>
      rw [ite_self]
      exact missing.evHearsLast last (.inl atPc)
  | fail atPc notBoth =>
      rw [ite_self]
      exact missing.evHearsLast last (.inr (.inl atPc))
  | _ => simp at sent

theorem EVSEHandshake.rthHandshake_eq {mqtt : MqttTopics}
    {device after : HandshakeDevice} {published : Option Publication}
    (moved : EVSEHandshake mqtt device after published) :
    after.rthHandshake = device.rthHandshake := by
  cases moved <;> rfl

/-- At its timeout the EVSE gives up, between two bodies of the EV. -/
theorem Missing.givesUp {mqtt : MqttTopics} {times : HandshakeTimes}
    (late : times.Late) {state : TimedHandshake}
    (clocks : HandshakeClocks times state) (missing : Missing times state)
    (resting : state.ev.pc.inBody = false)
    (atPc : state.evse.pc = .testTimeout)
    (last : state.evse.numRetries = 11) (due : ℕ) :
    GivenUp
      { state with
        evse := { state.evse with pc := .returned (-1) }
        evseDue := due
        ev := state.ev.hear mqtt none } where
  evseFailed := rfl
  subscribed := by
    have sending := missing.sending (by rw [atPc]; rfl)
    have subscribed := subscribed_of_sendsLate sending last
    exact subscribed
  heard := missing.evHearsLast last (.inr (.inr atPc))
  retries := (missing.retries_lt late clocks).le
  test := by
    intro atTest
    rw [HandshakeDevice.hear_none] at atTest
    rw [atTest] at resting
    cases resting
  timeout := by
    intro atTimeout
    rw [HandshakeDevice.hear_none] at atTimeout
    rw [atTimeout] at resting
    cases resting
  succeeds := by
    intro result returned
    have running := missing.evRunning
    rw [HandshakeDevice.hear_none] at returned
    rw [returned] at running
    cases running

/-- The EVSE runs on, or gives up. -/
theorem Missing.evse {mqtt : MqttTopics} {times : HandshakeTimes}
    (distinct : mqtt.evMessage ≠ mqtt.evseMessage) (late : times.Late)
    {state after : TimedHandshake} (clocks : HandshakeClocks times state)
    (missing : Missing times state) (sends : state.sendsLate times)
    (resting : state.ev.pc.inBody = false)
    (step : TimedStep mqtt times state .evse after) :
    Missed times after := by
  have evseRetries := clocks.evseRetries
  cases step with
  | @evse evse published turn moved =>
      by_cases ended : evse.pc.ended
      · right
        cases moved with
        | succeed atPc both =>
            rw [missing.evseFresh] at both
            cases both
        | timeout atPc last =>
            rw [ite_self]
            exact missing.givesUp late clocks resting atPc (by omega) _
        | _ => cases ended
      · left
        constructor
        case evseRunning => simpa using ended
        case evRunning => simpa using missing.evRunning
        case oneBody => simp [resting]
        case subscribedBefore =>
          intro subscribed
          have before := missing.subscribedBefore subscribed
          have later := le_nextDue evse state.evseDue
          have counted := numRetries_of_handshakeStep moved.step
          have bound := numRetries_le_of_handshakeStep moved.step evseRetries
          split_ifs at counted <;> simp only <;> omega
        case sending =>
          intro inBody
          have counted := numRetries_of_handshakeStep moved.step
          rw [if_neg (by rintro asleep; rw [asleep] at inBody; cases inBody)]
            at counted
          simpa only [TimedHandshake.sendsLate, nextDue_of_inBody inBody,
            counted] using sends
        case evseFresh => exact moved.rthHandshake_eq.trans missing.evseFresh
        case evHeard =>
          intro heard
          have later := missing.evHeard_evse late clocks turn sends moved heard
          exact ⟨later, by simpa using resting⟩
        case evBody => simp [resting]
        case evRounds => simpa using missing.evRounds
        case evHearsLast =>
          exact missing.evHearsLast_evse distinct sends moved

/-- An EV that has heard nothing publishes nothing and goes on to hear
nothing. -/
theorem EVHandshake.quiet {mqtt : MqttTopics}
    {device after : HandshakeDevice} {published : Option Publication}
    (moved : EVHandshake mqtt device after published)
    (fresh : device.rthHandshake = .noHandshake)
    (noReply : ¬ (device.pc = .sendReply ∨ device.pc = .settle)) :
    published = none ∧ after.rthHandshake = .noHandshake := by
  cases moved with
  | answer atPc first => simp [fresh] at first
  | reply atPc => simp [atPc] at noReply
  | settle atPc third => simp [atPc] at noReply
  | _ => exact ⟨rfl, fresh⟩

theorem Missing.ev {mqtt : MqttTopics} {times : HandshakeTimes}
    (late : times.Late) {state after : TimedHandshake}
    (clocks : HandshakeClocks times state)
    (knowledge : HandshakeKnowledge state) (missing : Missing times state)
    (resting : state.evse.pc.inBody = false)
    (early : state.evDue < times.evseEnters + handshakeSleep * 11)
    (step : TimedStep mqtt times state .ev after) :
    Missing times after := by
  have fresh : state.ev.rthHandshake = .noHandshake := by
    by_contra heard
    have later := (missing.evHeard heard).1
    omega
  have noReply := mt knowledge.answering (not_not.mpr fresh)
  cases step with
  | @ev ev published turn moved =>
      obtain ⟨rfl, evFresh⟩ := moved.quiet fresh noReply
      constructor
      case evseRunning => exact missing.evseRunning
      case evRunning =>
        cases moved with
        | succeed atPc both => simp [fresh] at both
        | timeout atPc last =>
            have few := missing.retries_lt late clocks
            omega
        | _ => rfl
      case oneBody => simp [resting]
      case subscribedBefore => exact missing.subscribedBefore
      case sending => simp [resting]
      case evseFresh => exact missing.evseFresh
      case evHeard => simp [evFresh]
      case evBody =>
        intro inBody
        simpa only [nextDue_of_inBody inBody] using early
      case evRounds =>
        intro _
        simp only [nextDue, handshakeSleep] at early ⊢
        split_ifs <;> omega
      case evHearsLast =>
        rintro - (atPc | atPc | atPc) <;>
          simp only [HandshakeDevice.hear_none] at atPc <;>
          simp [atPc, HandshakePc.inBody] at resting

theorem Missing.subscribe {times : HandshakeTimes} {state : TimedHandshake}
    (missing : Missing times state) (resting : state.evse.pc.inBody = false)
    (before : times.evSubscribes < state.evseDue ∨
      state.evse.numRetries = 11) :
    Missing times { state with subscribed := true } :=
  { missing with
    subscribedBefore := fun _ => before
    sending := by simp [resting] }

/-- As long as the EVSE runs, such a run goes on. -/
theorem Missing.progress {mqtt : MqttTopics} {times : HandshakeTimes}
    (distinct : mqtt.evMessage ≠ mqtt.evseMessage) (late : times.Late)
    {state : TimedHandshake} (clocks : HandshakeClocks times state)
    (knowledge : HandshakeKnowledge state) (missing : Missing times state) :
    ∃ turn after, (timedHandshake mqtt times).step state turn = some after ∧
      Missed times after := by
  have runEvse (turn : state.evseTurn times) (sends : state.sendsLate times)
      (resting : state.ev.pc.inBody = false) :
      ∃ turn after, (timedHandshake mqtt times).step state turn = some after ∧
        Missed times after := by
    obtain ⟨after, step⟩ := exists_evse_step mqtt missing.evseRunning turn
    exact ⟨.evse, after, step, missing.evse distinct late clocks sends resting
      (clocks.timedStep step)⟩
  have runEv (turn : state.evTurn) (resting : state.evse.pc.inBody = false)
      (early : state.evDue < times.evseEnters + handshakeSleep * 11) :
      ∃ turn after, (timedHandshake mqtt times).step state turn = some after ∧
        Missed times after := by
    obtain ⟨after, step⟩ := exists_ev_step mqtt times missing.evRunning turn
    exact ⟨.ev, after, step, .inl (missing.ev late clocks knowledge resting
      early (clocks.timedStep step))⟩
  have evDue := clocks.evDue
  have evseDue := clocks.evseDue
  have evseRetries := clocks.evseRetries
  have subscribesLe := times.subscribes_le
  by_cases evseInBody : state.evse.pc.inBody
  · have resting : state.ev.pc.inBody = false := by
      simpa [evseInBody] using missing.oneBody
    exact runEvse (clocks.evseBody evseInBody) (missing.sending evseInBody)
      resting
  rw [Bool.not_eq_true] at evseInBody
  by_cases evInBody : state.ev.pc.inBody
  · exact runEv (clocks.evBody evInBody) evseInBody (missing.evBody evInBody)
  rw [Bool.not_eq_true] at evInBody
  by_cases subscribed : state.subscribed
  · by_cases evFirst : state.evDue ≤ state.evseDue ∧
        state.evDue < times.evseEnters + handshakeSleep * 11
    · exact runEv ⟨subscribed, .inr evFirst.1⟩ evseInBody evFirst.2
    · have before := missing.subscribedBefore subscribed
      apply runEvse ?_ ?_ evInBody
      · refine ⟨.inr ?_, .inl subscribed⟩
        simp only [handshakeSleep] at *
        omega
      · simp only [TimedHandshake.sendsLate, if_pos subscribed]
        simp only [handshakeSleep] at *
        omega
  · by_cases before : times.evSubscribes < state.evseDue ∨
        state.evse.numRetries = 11
    · have turn : state.subscribeTurn times := by
        refine ⟨by simpa using subscribed, .inr ?_⟩
        have inTime := late.subscribes
        simp only [handshakeSleep] at *
        omega
      exact ⟨.subscribe, _, if_pos turn,
        .inl (missing.subscribe evseInBody before)⟩
    · apply runEvse ?_ ?_ evInBody
      · constructor
        · right
          omega
        · right
          omega
      · simp only [TimedHandshake.sendsLate, if_neg subscribed]
        omega

theorem GivenUp.ev {mqtt : MqttTopics} {times : HandshakeTimes}
    {state after : TimedHandshake} (knowledge : HandshakeKnowledge state)
    (givenUp : GivenUp state) (step : TimedStep mqtt times state .ev after) :
    GivenUp after := by
  obtain ⟨evseFailed, subscribed, heard, retries, test, timeout,
    succeeds⟩ := givenUp
  cases step with
  | ev turn moved =>
      cases moved with
      | pass atPc notFirst =>
          exact absurd (knowledge.unheard atPc notFirst) heard
      | reply atPc =>
          rw [HandshakeDevice.hear_evMessage]
          exact ⟨evseFailed, subscribed, heard, retries, nofun, nofun, nofun⟩
      | settle atPc third =>
          exact ⟨evseFailed, subscribed, nofun, retries, fun _ _ => rfl,
            nofun, nofun⟩
      | unsettled atPc early =>
          have notThird (third : state.ev.numRetries = 3) : False := by omega
          exact ⟨evseFailed, subscribed, heard, retries,
            fun _ third => (notThird third).elim, nofun, nofun⟩
      | succeed atPc both =>
          refine ⟨evseFailed, subscribed, heard, retries, nofun, nofun, ?_⟩
          rintro result ⟨⟩
          rfl
      | fail atPc notBoth =>
          have notLast := mt (test atPc) notBoth
          have early : state.ev.numRetries < 3 := by omega
          exact ⟨evseFailed, subscribed, heard, retries, nofun,
            fun _ => early, nofun⟩
      | timeout atPc last =>
          have few := timeout atPc
          omega
      | retry atPc more =>
          exact ⟨evseFailed, subscribed, heard, timeout atPc, nofun, nofun,
            nofun⟩
      | _ =>
          exact ⟨evseFailed, subscribed, heard, retries, nofun, nofun, nofun⟩

theorem GivenUp.progress {mqtt : MqttTopics} {times : HandshakeTimes}
    {state : TimedHandshake} (clocks : HandshakeClocks times state)
    (knowledge : HandshakeKnowledge state) (givenUp : GivenUp state)
    (running : state.ev.pc.ended = false) :
    ∃ turn after, (timedHandshake mqtt times).step state turn = some after ∧
      GivenUp after := by
  have turn : state.evTurn :=
    ⟨givenUp.subscribed, .inl (by rw [givenUp.evseFailed]; rfl)⟩
  obtain ⟨after, step⟩ := exists_ev_step mqtt times running turn
  exact ⟨.ev, after, step, givenUp.ev knowledge (clocks.timedStep step)⟩

theorem Missed.progress {mqtt : MqttTopics} {times : HandshakeTimes}
    (distinct : mqtt.evMessage ≠ mqtt.evseMessage) (late : times.Late)
    {state : TimedHandshake}
    (reachable : (timedHandshake mqtt times).Reachable state)
    (missed : Missed times state)
    (unfinished : ¬ (state.evse.pc.ended ∧ state.ev.pc.ended)) :
    ∃ turn after, (timedHandshake mqtt times).step state turn = some after ∧
      Missed times after := by
  have clocks := handshakeClocks_of_reachable reachable
  have knowledge := handshakeKnowledge_of_reachable distinct reachable
  rcases missed with missing | givenUp
  · exact missing.progress distinct late clocks knowledge
  · have running : state.ev.pc.ended = false := by
      simpa [givenUp.evseFailed, HandshakePc.ended] using unfinished
    obtain ⟨turn, after, step, givenUpAfter⟩ :=
      givenUp.progress clocks knowledge running
    exact ⟨turn, after, step, .inr givenUpAfter⟩

/-- The EV succeeds after the EVSE has failed. -/
theorem exists_missed {mqtt : MqttTopics} {times : HandshakeTimes}
    (distinct : mqtt.evMessage ≠ mqtt.evseMessage) (late : times.Late) :
    ∃ state, (timedHandshake mqtt times).Reachable state ∧
      state.ev.pc = .returned 0 ∧ state.evse.pc = .returned (-1) := by
  obtain ⟨last, reachable, missed, evseEnded, evEnded⟩ :=
    TransitionSystem.Reaches.exists_final TimedHandshake.stepsLeft
      (fun {state} reachable missed unfinished => by
        obtain ⟨turn, after, step, missedAfter⟩ :=
          Missed.progress distinct late reachable missed unfinished
        exact ⟨turn, after, trivial, step, missedAfter,
          TimedHandshake.stepsLeft_lt step⟩)
      (.start : (timedHandshake mqtt times).Reachable _)
      (show Missed times _ from .inl (.start mqtt times))
  have knowledge := handshakeKnowledge_of_reachable distinct reachable
  rcases missed with missing | givenUp
  · rw [missing.evseRunning] at evseEnded
    cases evseEnded
  · refine ⟨last, reachable, ?_, givenUp.evseFailed⟩
    rcases knowledge.evEnded evEnded with succeeded | ⟨failed, -⟩
    · exact succeeded
    · have noFailure := givenUp.succeeds (-1) failed
      simp at noFailure

/-! ## The EVSE enters at the EV's last sleep -/

/-- Runs in which the EV idles until its last body. -/
structure Idle (state : TimedHandshake) : Prop where
  evse : state.evse = .enter
  fresh : state.ev.rthHandshake = .noHandshake
  running : state.ev.pc.ended = false
  noReply : state.ev.pc ≠ .sendReply
  noSettle : state.ev.pc ≠ .settle
  retries : state.ev.numRetries ≤ 10 ∨ state.ev.pc = .sleeping

theorem Idle.ev {mqtt : MqttTopics} {times : HandshakeTimes}
    {state after : TimedHandshake} (idle : Idle state)
    (few : state.ev.numRetries ≤ 10)
    (step : TimedStep mqtt times state .ev after) : Idle after := by
  obtain ⟨evse, fresh, running, noReply, noSettle, -⟩ := idle
  have quiet : state.evse.hear mqtt none = .enter := by
    rw [HandshakeDevice.hear_none, evse]
  cases step with
  | ev turn moved =>
      cases moved with
      | answer atPc first => exact absurd fresh (by simp [first])
      | reply atPc => exact absurd atPc noReply
      | settle atPc third => exact absurd atPc noSettle
      | unsettled atPc early => exact absurd atPc noSettle
      | succeed atPc both => exact absurd fresh (by simp [both])
      | timeout atPc last => omega
      | retry atPc more =>
          exact ⟨quiet, fresh, rfl, nofun, nofun, .inr rfl⟩
      | _ => exact ⟨quiet, fresh, rfl, nofun, nofun, .inl few⟩

theorem Idle.progress {mqtt : MqttTopics} {times : HandshakeTimes}
    (tied : times.evseEnters = times.evEnters + handshakeSleep * 10)
    {state : TimedHandshake} (clocks : HandshakeClocks times state)
    (idle : Idle state)
    (unfinished : ¬ (state.subscribed ∧ state.ev.numRetries = 11)) :
    ∃ turn after, (timedHandshake mqtt times).step state turn = some after ∧
      Idle after := by
  have evDue := clocks.evDue
  have evseDue := clocks.evseDue
  have evRetries := clocks.evRetries
  have subscribes := times.subscribes_le
  have running := idle.running
  have retries := idle.retries
  rw [idle.evse] at evseDue
  simp only [HandshakeDevice.enter] at evseDue
  by_cases subscribed : state.subscribed
  · have few : state.ev.numRetries ≤ 10 := by
      have notLast := mt (And.intro subscribed) unfinished
      omega
    have turn : state.evTurn := by
      refine ⟨subscribed, .inr ?_⟩
      simp only [handshakeSleep] at *
      omega
    obtain ⟨after, step⟩ := exists_ev_step mqtt times running turn
    exact ⟨.ev, after, step, idle.ev few (clocks.timedStep step)⟩
  · have turn : state.subscribeTurn times := by
      refine ⟨by simpa using subscribed, .inr ?_⟩
      simp only [handshakeSleep] at *
      omega
    exact ⟨.subscribe, _, if_pos turn,
      ⟨idle.evse, idle.fresh, running, idle.noReply, idle.noSettle, retries⟩⟩

theorem exists_idle {mqtt : MqttTopics} {times : HandshakeTimes}
    (tied : times.evseEnters = times.evEnters + handshakeSleep * 10) :
    (timedHandshake mqtt times).Reachable
      ⟨.enter, ⟨.sleeping, 11, .noHandshake⟩, times.evseEnters,
        times.evEnters + handshakeSleep * 11, true⟩ := by
  obtain ⟨last, reachable, idle, subscribed, retries⟩ :=
    TransitionSystem.Reaches.exists_final TimedHandshake.stepsLeft
      (fun {state} reachable idle unfinished => by
        obtain ⟨turn, after, step, idleAfter⟩ :=
          Idle.progress tied (handshakeClocks_of_reachable reachable) idle
            unfinished
        exact ⟨turn, after, trivial, step, idleAfter,
          TimedHandshake.stepsLeft_lt step⟩)
      (.start : (timedHandshake mqtt times).Reachable _)
      (show Idle (timedHandshake mqtt times).initial by
        constructor <;> simp [timedHandshake, HandshakeDevice.enter,
          HandshakePc.ended])
  have clocks := handshakeClocks_of_reachable reachable
  have asleep := idle.retries.resolve_left (by omega)
  have ev : last.ev = ⟨.sleeping, 11, .noHandshake⟩ :=
    HandshakeDevice.ext asleep retries idle.fresh
  have evseDue : last.evseDue = times.evseEnters := by
    simpa [idle.evse, HandshakeDevice.enter] using clocks.evseDue
  have evDue : last.evDue = times.evEnters + handshakeSleep * 11 := by
    simpa only [retries] using clocks.evDue
  have reached : last =
      ⟨.enter, ⟨.sleeping, 11, .noHandshake⟩, times.evseEnters,
        times.evEnters + handshakeSleep * 11, true⟩ :=
    TimedHandshake.ext idle.evse ev evseDue evDue subscribed
  rwa [reached] at reachable

/-- The EVSE sends its second first between the EV's last reply and the EV's
last test. -/
theorem exists_tied_of_idle {mqtt : MqttTopics} {times : HandshakeTimes}
    (distinct : mqtt.evMessage ≠ mqtt.evseMessage) {first last : ℕ}
    (woken : first + handshakeSleep = last)
    (idle : (timedHandshake mqtt times).Reachable
      ⟨.enter, ⟨.sleeping, 11, .noHandshake⟩, first, last, true⟩) :
    ∃ state, (timedHandshake mqtt times).Reachable state ∧
      state.ev.pc = .returned (-1) ∧ state.evse.pc = .returned 0 := by
  have earlier : first ≤ last := by omega
  have hears : (timedHandshake mqtt times).follow (fun _ _ => True)
      ⟨.enter, ⟨.sleeping, 11, .noHandshake⟩, first, last, true⟩
      (List.replicate 4 .evse) =
      some ⟨⟨.testTimeout, 0, .noHandshake⟩,
        ⟨.sleeping, 11, .firstHandshake⟩, first, last, true⟩ := by
    simp [TransitionSystem.follow, timedHandshake, TimedHandshake.evseTurn,
      handshakeStep, HandshakeDevice.enter, nextDue, List.replicate,
      HandshakeDevice.hear_evseMessage distinct, earlier]
  have wakes : (timedHandshake mqtt times).follow (fun _ _ => True)
      ⟨⟨.testTimeout, 0, .noHandshake⟩, ⟨.sleeping, 11, .firstHandshake⟩,
        first, last, true⟩ (List.replicate 3 .evse) =
      some ⟨⟨.sendFirst, 1, .noHandshake⟩, ⟨.sleeping, 11, .firstHandshake⟩,
        last, last, true⟩ := by
    simp [TransitionSystem.follow, timedHandshake, TimedHandshake.evseTurn,
      handshakeStep, nextDue, List.replicate, woken, earlier]
  have replies : (timedHandshake mqtt times).follow (fun _ _ => True)
      ⟨⟨.sendFirst, 1, .noHandshake⟩, ⟨.sleeping, 11, .firstHandshake⟩,
        last, last, true⟩ (List.replicate 5 .ev) =
      some ⟨⟨.sendFirst, 1, .bothHandshake⟩, ⟨.testBoth, 11, .bothHandshake⟩,
        last, last, true⟩ := by
    simp [TransitionSystem.follow, timedHandshake, TimedHandshake.evTurn,
      handshakeStep, nextDue, List.replicate, HandshakeDevice.hear_evMessage]
  have succeeds : (timedHandshake mqtt times).follow (fun _ _ => True)
      ⟨⟨.sendFirst, 1, .bothHandshake⟩, ⟨.testBoth, 11, .bothHandshake⟩,
        last, last, true⟩ (List.replicate 3 .evse) =
      some ⟨⟨.returned 0, 1, .bothHandshake⟩, ⟨.testBoth, 11, .firstHandshake⟩,
        last, last, true⟩ := by
    simp [TransitionSystem.follow, timedHandshake, TimedHandshake.evseTurn,
      handshakeStep, nextDue, List.replicate,
      HandshakeDevice.hear_evseMessage distinct]
  have fails : (timedHandshake mqtt times).follow (fun _ _ => True)
      ⟨⟨.returned 0, 1, .bothHandshake⟩, ⟨.testBoth, 11, .firstHandshake⟩,
        last, last, true⟩ (List.replicate 2 .ev) =
      some ⟨⟨.returned 0, 1, .bothHandshake⟩,
        ⟨.returned (-1), 11, .firstHandshake⟩, last, last, true⟩ := by
    simp [TransitionSystem.follow, timedHandshake, TimedHandshake.evTurn,
      handshakeStep, nextDue, List.replicate, HandshakePc.ended]
  have sent := (idle.follow hears).follow wakes
  exact ⟨_, ((sent.follow replies).follow succeeds).follow fails, rfl, rfl⟩

theorem exists_tied {mqtt : MqttTopics} {times : HandshakeTimes}
    (distinct : mqtt.evMessage ≠ mqtt.evseMessage)
    (tied : times.evseEnters = times.evEnters + handshakeSleep * 10) :
    ∃ state, (timedHandshake mqtt times).Reachable state ∧
      state.ev.pc = .returned (-1) ∧ state.evse.pc = .returned 0 := by
  apply exists_tied_of_idle distinct ?_ (exists_idle tied)
  omega

end OpenRTH
