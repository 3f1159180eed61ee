import OpenRTH.HandshakeTiming

/-!
# Replies in the handshake

What each device knows of the other.  Every first that the EV has heard before
one of its bodies is answered in that body, so an EVSE that the EV hears early
enough has the reply before its own last test.
-/

namespace OpenRTH

/-- What the states of the two devices say about each other. -/
structure HandshakeKnowledge (state : TimedHandshake) : Prop where
  evseHears : state.evse.rthHandshake = .noHandshake ∨
    state.evse.rthHandshake = .bothHandshake
  heardFirst : state.evse.rthHandshake = .bothHandshake →
    state.ev.rthHandshake ≠ .noHandshake
  replied : state.ev.pc = .settle ∨ state.ev.pc = .returned 0 ∨
    state.ev.rthHandshake = .bothHandshake →
      state.evse.rthHandshake = .bothHandshake
  settled : state.ev.rthHandshake = .bothHandshake →
    state.ev.pc = .testBoth ∨ state.ev.pc.ended
  answering : state.ev.pc = .sendReply ∨ state.ev.pc = .settle →
    state.ev.rthHandshake ≠ .noHandshake
  evseSucceeds : state.evse.pc = .returned 0 →
    state.evse.rthHandshake = .bothHandshake
  evseEnded : state.evse.pc.ended →
    state.evse.pc = .returned 0 ∨
      state.evse.pc = .returned (-1) ∧ state.evse.numRetries = 11
  evEnded : state.ev.pc.ended →
    state.ev.pc = .returned 0 ∨
      state.ev.pc = .returned (-1) ∧ state.ev.numRetries = 11

theorem HandshakeKnowledge.start (mqtt : MqttTopics)
    (times : HandshakeTimes) :
    HandshakeKnowledge (timedHandshake mqtt times).initial := by
  constructor <;> simp [timedHandshake, HandshakeDevice.enter,
    HandshakePc.ended]

theorem HandshakeKnowledge.evse {mqtt : MqttTopics} {times : HandshakeTimes}
    (distinct : mqtt.evMessage ≠ mqtt.evseMessage)
    {state after : TimedHandshake} (clocks : HandshakeClocks times state)
    (knowledge : HandshakeKnowledge state)
    (step : TimedStep mqtt times state .evse after) :
    HandshakeKnowledge after := by
  have evseRetries := clocks.evseRetries
  cases step with
  | evse turn moved =>
      cases moved with
      | send atPc =>
          cases subscribed : state.subscribed with
          | false =>
              exact { knowledge with evseSucceeds := nofun, evseEnded := nofun }
          | true =>
              -- Whatever the EV had heard, it hears a first now.
              simp only [if_true, HandshakeDevice.hear_evseMessage distinct]
              exact
                { evseHears := knowledge.evseHears
                  heardFirst := fun _ => nofun
                  replied := by
                    rintro (settling | succeeded | both)
                    · exact knowledge.replied (.inl settling)
                    · exact knowledge.replied (.inr (.inl succeeded))
                    · cases both
                  settled := nofun
                  answering := fun _ => nofun
                  evseSucceeds := nofun
                  evseEnded := nofun
                  evEnded := knowledge.evEnded }
      | succeed atPc both =>
          rw [ite_self]
          exact { knowledge with
            evseSucceeds := fun _ => both
            evseEnded := fun _ => .inl rfl }
      | timeout atPc last =>
          rw [ite_self]
          exact { knowledge with
            evseSucceeds := nofun
            evseEnded := fun _ => .inr ⟨rfl, by simp only; omega⟩ }
      | _ =>
          rw [ite_self]
          exact { knowledge with evseSucceeds := nofun, evseEnded := nofun }

/-- Where the EV neither settles nor has succeeded, it is only by what it has
heard that it knows of a reply. -/
theorem HandshakeKnowledge.replied_of_both {state : TimedHandshake}
    (knowledge : HandshakeKnowledge state) {pc : HandshakePc}
    (noSettle : pc ≠ .settle) (noSuccess : pc ≠ .returned 0)
    (known : pc = .settle ∨ pc = .returned 0 ∨
      state.ev.rthHandshake = .bothHandshake) :
    state.evse.rthHandshake = .bothHandshake :=
  knowledge.replied (.inr (.inr
    ((known.resolve_left noSettle).resolve_left noSuccess)))

/-- A step of the EV that hands nothing over and leads to no special place. -/
theorem HandshakeKnowledge.quiet {state : TimedHandshake}
    (knowledge : HandshakeKnowledge state) {ev : HandshakeDevice} (due : ℕ)
    (same : ev.rthHandshake = state.ev.rthHandshake)
    (unsettled : ev.rthHandshake = .bothHandshake → ev.pc = .testBoth)
    (noReply : ev.pc ≠ .sendReply) (noSettle : ev.pc ≠ .settle)
    (running : ev.pc.ended = false) :
    HandshakeKnowledge { state with ev := ev, evDue := due } where
  evseHears := knowledge.evseHears
  heardFirst := by
    rw [same]
    exact knowledge.heardFirst
  replied := by
    rw [same]
    refine knowledge.replied_of_both noSettle fun succeeded => ?_
    rw [succeeded] at running
    cases running
  settled := fun both => .inl (unsettled both)
  answering := by
    rintro (replying | settling)
    · exact absurd replying noReply
    · exact absurd settling noSettle
  evseSucceeds := knowledge.evseSucceeds
  evseEnded := knowledge.evseEnded
  evEnded := by
    intro ended
    simp only [running] at ended
    cases ended

theorem HandshakeKnowledge.ev {mqtt : MqttTopics} {times : HandshakeTimes}
    {state after : TimedHandshake} (clocks : HandshakeClocks times state)
    (knowledge : HandshakeKnowledge state)
    (step : TimedStep mqtt times state .ev after) :
    HandshakeKnowledge after := by
  have evRetries := clocks.evRetries
  have notBoth (loop : state.ev.pc ≠ .testBoth)
      (running : state.ev.pc.ended = false) :
      state.ev.rthHandshake ≠ .bothHandshake := by
    intro both
    rcases knowledge.settled both with test | ended
    · exact loop test
    · rw [running] at ended
      cases ended
  cases step with
  | ev turn moved =>
      cases moved with
      | answer atPc first =>
          have heard : state.ev.rthHandshake ≠ .noHandshake := by
            rw [first]
            nofun
          exact { knowledge with
            replied := knowledge.replied_of_both (by simp) (by simp)
            settled := fun both => absurd both (by simp [first])
            answering := fun _ => heard
            evEnded := nofun }
      | reply atPc =>
          rw [HandshakeDevice.hear_evMessage]
          have heard := knowledge.answering (.inl atPc)
          exact
            { evseHears := .inr rfl
              heardFirst := fun _ => heard
              replied := fun _ => rfl
              settled := fun both => absurd both
                (notBoth (by simp [atPc]) (by rw [atPc]; rfl))
              answering := fun _ => heard
              evseSucceeds := fun _ => rfl
              evseEnded := knowledge.evseEnded
              evEnded := nofun }
      | settle atPc third =>
          have replied := knowledge.replied (.inl atPc)
          exact { knowledge with
            heardFirst := fun _ => nofun
            replied := fun _ => replied
            settled := fun _ => .inl rfl
            answering := fun _ => nofun
            evEnded := nofun }
      | succeed atPc both =>
          have replied := knowledge.replied (.inr (.inr both))
          exact { knowledge with
            replied := fun _ => replied
            settled := fun _ => .inr rfl
            answering := by simp
            evEnded := fun _ => .inl rfl }
      | timeout atPc last =>
          exact { knowledge with
            replied := knowledge.replied_of_both (by simp) (by simp)
            settled := fun _ => .inr rfl
            answering := by simp
            evEnded := fun _ => .inr ⟨rfl, by simp only; omega⟩ }
      | unsettled atPc early =>
          exact knowledge.quiet _ rfl (fun _ => rfl) nofun nofun rfl
      | pass atPc notFirst =>
          exact knowledge.quiet _ rfl (fun _ => rfl) nofun nofun rfl
      | fail atPc unfinished =>
          exact knowledge.quiet _ rfl (fun both => absurd both unfinished)
            nofun nofun rfl
      | start atPc | retry atPc | wake atPc =>
          exact knowledge.quiet _ rfl
            (fun both => absurd both
              (notBoth (by simp [atPc]) (by rw [atPc]; rfl)))
            nofun nofun rfl

theorem HandshakeKnowledge.step {mqtt : MqttTopics} {times : HandshakeTimes}
    (distinct : mqtt.evMessage ≠ mqtt.evseMessage)
    {state after : TimedHandshake} {turn : HandshakeTurn}
    (clocks : HandshakeClocks times state)
    (knowledge : HandshakeKnowledge state)
    (step : (timedHandshake mqtt times).step state turn = some after) :
    HandshakeKnowledge after := by
  have moves := clocks.timedStep step
  cases turn with
  | evse => exact knowledge.evse distinct clocks moves
  | ev => exact knowledge.ev clocks moves
  | subscribe =>
      cases moves
      exact { knowledge with }

theorem handshakeKnowledge_of_reachable {mqtt : MqttTopics}
    {times : HandshakeTimes} (distinct : mqtt.evMessage ≠ mqtt.evseMessage)
    {state : TimedHandshake}
    (reachable : (timedHandshake mqtt times).Reachable state) :
    HandshakeKnowledge state :=
  reachable.invariant_of handshakeClocks_of_reachable (.start mqtt times)
    fun clocks knowledge _ step => knowledge.step distinct clocks step

theorem HandshakeKnowledge.unheard {state : TimedHandshake}
    (knowledge : HandshakeKnowledge state) (atPc : state.ev.pc = .testFirst)
    (notFirst : state.ev.rthHandshake ≠ .firstHandshake) :
    state.ev.rthHandshake = .noHandshake := by
  cases heard : state.ev.rthHandshake with
  | noHandshake => rfl
  | firstHandshake => exact absurd heard notFirst
  | bothHandshake =>
      have settled := knowledge.settled heard
      simp [atPc, HandshakePc.ended] at settled

/-! ## Firsts and replies -/

/-- The number of bodies in which a device has passed the sending of a
first. -/
def HandshakeDevice.firstsPassed (device : HandshakeDevice) : ℕ :=
  match device.pc with
  | .sleeping | .testNone | .sendFirst => device.numRetries
  | _ => device.numRetries + 1

/-- The number of bodies in which a device has passed the sending of a
reply. -/
def HandshakeDevice.repliesPassed (device : HandshakeDevice) : ℕ :=
  match device.pc with
  | .settle | .testBoth | .testTimeout | .exited | .returned _ =>
      device.numRetries + 1
  | _ => device.numRetries

theorem HandshakeDevice.numRetries_le_firstsPassed (device : HandshakeDevice) :
    device.numRetries ≤ device.firstsPassed := by
  unfold HandshakeDevice.firstsPassed
  split <;> omega

theorem HandshakeDevice.numRetries_le_repliesPassed
    (device : HandshakeDevice) :
    device.numRetries ≤ device.repliesPassed := by
  unfold HandshakeDevice.repliesPassed
  split <;> omega

/-- What the EV has heard of the firsts that the EVSE has passed. -/
structure FirstsHeard (times : HandshakeTimes)
    (state : TimedHandshake) : Prop where
  noneSent : state.evse.firstsPassed = 0 →
    state.ev.rthHandshake = .noHandshake
  heard : ∀ sent < state.evse.firstsPassed,
    times.evSubscribes < times.evseEnters + handshakeSleep * sent →
      state.ev.rthHandshake ≠ .noHandshake

theorem FirstsHeard.start (mqtt : MqttTopics) (times : HandshakeTimes) :
    FirstsHeard times (timedHandshake mqtt times).initial := by
  constructor <;> simp [timedHandshake, HandshakeDevice.enter,
    HandshakeDevice.firstsPassed]

theorem FirstsHeard.step {mqtt : MqttTopics} {times : HandshakeTimes}
    (distinct : mqtt.evMessage ≠ mqtt.evseMessage)
    {state after : TimedHandshake} {turn : HandshakeTurn}
    (clocks : HandshakeClocks times state)
    (knowledge : HandshakeKnowledge state) (firsts : FirstsHeard times state)
    (step : (timedHandshake mqtt times).step state turn = some after) :
    FirstsHeard times after := by
  have moves := clocks.timedStep step
  have evseDue := clocks.evseDue
  obtain ⟨noneSent, heard⟩ := firsts
  cases moves with
  | evse turn moved =>
      cases moved with
      | heard atPc replied =>
          have both := knowledge.evseHears.resolve_left replied
          have known := knowledge.heardFirst both
          constructor
          · intro zero
            simp [HandshakeDevice.firstsPassed] at zero
          · intro _ _ _
            simpa using known
      | send atPc =>
          constructor
          · intro zero
            simp [HandshakeDevice.firstsPassed] at zero
          · intro sent passed after
            by_cases subscribed : state.subscribed
            · simp [subscribed, HandshakeDevice.hear_evseMessage distinct]
            · -- What is sent now is dropped.
              have due := turn.2.resolve_left subscribed
              rw [if_neg subscribed, HandshakeDevice.hear_none]
              apply heard sent ?_ after
              simp only [HandshakeDevice.firstsPassed, atPc] at passed ⊢
              simp only [handshakeSleep] at *
              omega
      | unheard atPc | pass atPc | succeed atPc | fail atPc | timeout atPc
      | retry atPc | wake atPc =>
          rw [ite_self]
          constructor
          · intro zero
            apply noneSent
            simpa only [HandshakeDevice.firstsPassed, atPc] using zero
          · intro sent passed after
            apply heard sent ?_ after
            simpa only [HandshakeDevice.firstsPassed, atPc] using passed
  | ev turn moved =>
      cases moved with
      | settle atPc third =>
          constructor
          · intro zero
            simp only [HandshakeDevice.hear_none] at zero
            exact absurd (noneSent zero) (knowledge.answering (.inr atPc))
          · simp
      | _ =>
          constructor
          · simpa [HandshakeDevice.firstsPassed] using noneSent
          · simpa [HandshakeDevice.firstsPassed] using heard
  | subscribe turn => constructor <;> assumption

/-- The EVSE has heard the reply to every first that the EV heard before a body
of its own. -/
def RepliesHeard (times : HandshakeTimes) (state : TimedHandshake) : Prop :=
  ∀ replied < state.ev.repliesPassed, ∀ sent ≤ 11,
    times.evSubscribes < times.evseEnters + handshakeSleep * sent →
      times.evseEnters + handshakeSleep * sent <
          times.evEnters + handshakeSleep * replied →
        state.evse.rthHandshake = .bothHandshake

theorem sent_lt_firstsPassed {times : HandshakeTimes}
    {state : TimedHandshake} (clocks : HandshakeClocks times state)
    (knowledge : HandshakeKnowledge state)
    (fresh : state.evse.rthHandshake ≠ .bothHandshake)
    (inBody : state.ev.pc.inBody) {sent : ℕ} (bound : sent ≤ 11)
    (before : times.evseEnters + handshakeSleep * sent <
      times.evEnters + handshakeSleep * state.ev.numRetries) :
    sent < state.evse.firstsPassed := by
  rcases clocks.evBody inBody with ⟨-, ended | later⟩
  · rcases knowledge.evseEnded ended with succeeded | ⟨failed, last⟩
    · exact absurd (knowledge.evseSucceeds succeeded) fresh
    · simp only [HandshakeDevice.firstsPassed, failed, last]
      omega
  · have atLeast := state.evse.numRetries_le_firstsPassed
    have evseDue := clocks.evseDue
    have evDue := clocks.evDue
    simp only [handshakeSleep] at evseDue evDue before
    omega

theorem RepliesHeard.step {mqtt : MqttTopics} {times : HandshakeTimes}
    {state after : TimedHandshake} {turn : HandshakeTurn}
    (clocks : HandshakeClocks times state)
    (knowledge : HandshakeKnowledge state) (firsts : FirstsHeard times state)
    (replies : RepliesHeard times state)
    (step : (timedHandshake mqtt times).step state turn = some after) :
    RepliesHeard times after := by
  have moves := clocks.timedStep step
  intro replied passed sent bound heard before
  by_cases already : replied < state.ev.repliesPassed
  · have both := replies replied already sent bound heard before
    cases moves with
    | evse turn moved => cases moved <;> exact both
    | ev turn moved =>
        cases moved <;> simp [HandshakeDevice.hear_evMessage, both]
    | subscribe turn => exact both
  · cases moves with
    | evse turn moved =>
        simp only [HandshakeDevice.repliesPassed, HandshakeDevice.hear_pc,
          HandshakeDevice.hear_numRetries] at passed already
        exact absurd passed already
    | ev turn moved =>
        cases moved with
        | reply atPc => simp [HandshakeDevice.hear_evMessage]
        | pass atPc notFirst =>
            -- The EV would have heard the first before this body.
            have current : replied = state.ev.numRetries := by
              simp only [HandshakeDevice.repliesPassed, atPc] at passed already
              omega
            subst current
            by_contra fresh
            have earlier := sent_lt_firstsPassed clocks knowledge fresh
              (by rw [atPc]; rfl) bound before
            exact firsts.heard sent earlier heard
              (knowledge.unheard atPc notFirst)
        | _ =>
            simp_all [HandshakeDevice.repliesPassed]
            omega
    | subscribe turn => exact absurd passed already

/-! ## The last body of the EV -/

/-- A first of the EVSE does not come between the EV's last reply and its last
test. -/
structure LastReply (times : HandshakeTimes)
    (state : TimedHandshake) : Prop where
  first : state.evse.pc = .sendFirst →
    state.evseDue = times.evEnters + handshakeSleep * 11 →
      state.ev.rthHandshake = .noHandshake
  test : state.ev.pc = .testBoth → state.ev.numRetries = 11 →
    state.ev.rthHandshake = .bothHandshake ∨
      state.evse.rthHandshake = .noHandshake
  timeout : state.ev.pc = .testTimeout → state.ev.numRetries = 11 →
    state.evse.rthHandshake = .noHandshake
  failed : state.ev.pc = .returned (-1) →
    state.evse.rthHandshake = .noHandshake

/-- An EVSE that is about to send its first and has not heard from the EV, at
the moment of the EV's last body, has just entered. -/
theorem fresh_at_last {times : HandshakeTimes} {state : TimedHandshake}
    (apart : times.evseEnters ≠ times.evEnters + handshakeSleep * 10)
    (clocks : HandshakeClocks times state)
    (knowledge : HandshakeKnowledge state) (firsts : FirstsHeard times state)
    (replies : RepliesHeard times state) (turn : state.evseTurn times)
    (atPc : state.evse.pc = .testNone)
    (fresh : state.evse.rthHandshake = .noHandshake)
    (last : state.evseDue = times.evEnters + handshakeSleep * 11) :
    state.ev.rthHandshake = .noHandshake := by
  have evseDue := clocks.evseDue
  have evDue := clocks.evDue
  have evseRetries := clocks.evseRetries
  have subscribes := times.subscribes_le
  have passed : 10 < state.ev.repliesPassed := by
    rcases turn with ⟨ended | later, -⟩
    · rcases knowledge.evEnded ended with succeeded | ⟨failed, atLast⟩
      · have both := knowledge.replied (.inr (.inl succeeded))
        simp [fresh] at both
      · simp [HandshakeDevice.repliesPassed, failed, atLast]
    · have atLeast := state.ev.numRetries_le_repliesPassed
      simp only [handshakeSleep] at evDue last
      omega
  -- The EV has answered in its body before the last one what the EVSE sent
  -- two bodies ago.
  have early : state.evse.numRetries < 2 := by
    by_contra notEarly
    have both := replies 10 passed (state.evse.numRetries - 2) (by omega)
      (by simp only [handshakeSleep] at *; omega)
      (by simp only [handshakeSleep] at *; omega)
    simp [fresh] at both
  apply firsts.noneSent
  simp only [HandshakeDevice.firstsPassed, atPc]
  simp only [handshakeSleep] at *
  omega

theorem LastReply.evse {mqtt : MqttTopics} {times : HandshakeTimes}
    (apart : times.evseEnters ≠ times.evEnters + handshakeSleep * 10)
    {state after : TimedHandshake} (clocks : HandshakeClocks times state)
    (knowledge : HandshakeKnowledge state) (firsts : FirstsHeard times state)
    (replies : RepliesHeard times state) (last : LastReply times state)
    (step : (timedHandshake mqtt times).step state .evse = some after) :
    LastReply times after := by
  have moves := clocks.timedStep step
  obtain ⟨first, test, timeout, failed⟩ := last
  cases moves with
  | evse turn moved =>
      cases moved with
      | unheard atPc fresh =>
          have unheard := fresh_at_last apart clocks knowledge firsts replies
            turn atPc fresh
          rw [ite_self]
          exact ⟨fun _ => unheard, test, timeout, failed⟩
      | send atPc =>
          constructor
          · intro sending
            simp at sending
          · intro testing atLast
            simp only [HandshakeDevice.hear_pc,
              HandshakeDevice.hear_numRetries] at testing atLast
            have evDue := clocks.evDue
            have evseBody := clocks.evseBody (by rw [atPc]; rfl)
            have evBody := clocks.evBody (by rw [testing]; rfl)
            have later := evseBody.1.resolve_left
              (by simp [testing, HandshakePc.ended])
            have earlier := evBody.2.resolve_left
              (by simp [atPc, HandshakePc.ended])
            have together := le_antisymm later earlier
            rw [atLast] at evDue
            have fresh := first atPc (together.trans evDue)
            have unreplied := mt knowledge.heardFirst (not_not.mpr fresh)
            exact .inr (knowledge.evseHears.resolve_right unreplied)
          · simpa using timeout
          · simpa using failed
      | _ =>
          rw [ite_self]
          exact ⟨by rintro ⟨⟩, test, timeout, failed⟩

theorem LastReply.ev {mqtt : MqttTopics} {times : HandshakeTimes}
    {state after : TimedHandshake} (clocks : HandshakeClocks times state)
    (knowledge : HandshakeKnowledge state) (last : LastReply times state)
    (step : (timedHandshake mqtt times).step state .ev = some after) :
    LastReply times after := by
  have moves := clocks.timedStep step
  have evRetries := clocks.evRetries
  have answering := knowledge.answering
  have heardFirst := knowledge.heardFirst
  have evseHears := knowledge.evseHears
  have unheard := knowledge.unheard
  clear clocks knowledge step
  obtain ⟨first, test, timeout, failed⟩ := last
  cases moves with
  | ev turn moved =>
      cases moved with
      | pass atPc notFirst =>
          have fresh := unheard atPc notFirst
          have unreplied := evseHears.resolve_right
            (mt heardFirst (not_not.mpr fresh))
          constructor
          · exact first
          · exact fun _ _ => .inr unreplied
          · simp
          · simp
      | reply atPc =>
          rw [HandshakeDevice.hear_evMessage]
          exact ⟨first, nofun, nofun, nofun⟩
      | settle atPc third =>
          constructor
          · intro sending due
            have fresh := first sending due
            exact absurd fresh (answering (.inr atPc))
          · simp
          · simp
          · simp
      | unsettled atPc early =>
          constructor
          · exact first
          · intro _ atLast
            simp only at atLast
            omega
          · simp
          · simp
      | fail atPc notBoth =>
          constructor
          · exact first
          · simp
          · intro _ atLast
            exact (test atPc atLast).resolve_left notBoth
          · simp
      | timeout atPc last =>
          constructor
          · exact first
          · simp
          · simp
          · exact fun _ => timeout atPc (by omega)
      | succeed atPc both => exact ⟨first, nofun, nofun, by simp⟩
      | _ => exact ⟨first, nofun, nofun, nofun⟩

/-! ## The last body of the EVSE -/

/-- The start times for which the EV replies before the EVSE's last test. -/
def HandshakeTimes.inTime (times : HandshakeTimes) : Prop :=
  times.evSubscribes < times.evseEnters + handshakeSleep * 10 ∧
    times.evEnters < times.evseEnters + handshakeSleep * 11 ∧
    times.evseEnters ≠ times.evEnters + handshakeSleep * 10 ∧
    ¬ (times.evseEnters + handshakeSleep * 9 ≤ times.evSubscribes ∧
      (times.evEnters = times.evseEnters + handshakeSleep * 9 ∨
        times.evEnters = times.evseEnters + handshakeSleep * 10))

/-- An EVSE that gives up leaves an EV behind that has given up. -/
structure EVSEFails (state : TimedHandshake) : Prop where
  timeout : state.evse.pc = .testTimeout → state.evse.numRetries = 11 →
    state.ev.pc = .returned (-1)
  failed : state.evse.pc = .returned (-1) → state.ev.pc = .returned (-1)

theorem evFailed_of_last_test {times : HandshakeTimes}
    (inTime : times.inTime) {state : TimedHandshake}
    (clocks : HandshakeClocks times state)
    (knowledge : HandshakeKnowledge state)
    (replies : RepliesHeard times state) (atPc : state.evse.pc = .testBoth)
    (notBoth : state.evse.rthHandshake ≠ .bothHandshake)
    (last : state.evse.numRetries = 11) :
    state.ev.pc = .returned (-1) := by
  obtain ⟨subscribesInTime, entersInTime, -, notTied⟩ := inTime
  rcases clocks.evseBody (by rw [atPc]; rfl) with ⟨ended | later, -⟩
  · rcases knowledge.evEnded ended with succeeded | ⟨failed, -⟩
    · exact absurd (knowledge.replied (.inr (.inl succeeded))) notBoth
    · exact failed
  · -- The EV has run after the EVSE's tenth or ninth sleep, and answered.
    exfalso
    have evseDue := clocks.evseDue
    have evDue := clocks.evDue
    have subscribes := times.subscribes_le
    have atLeast := state.ev.numRetries_le_repliesPassed
    rw [last] at evseDue
    have started : 0 < state.ev.numRetries := by
      simp only [handshakeSleep] at *
      omega
    have unheard : ∀ sent ≤ 11,
        times.evSubscribes < times.evseEnters + handshakeSleep * sent →
          times.evEnters + handshakeSleep * (state.ev.numRetries - 1) ≤
            times.evseEnters + handshakeSleep * sent :=
      fun sent bound heard => le_of_not_gt fun before =>
        notBoth (replies _ (by omega) sent bound heard before)
    have tenth := unheard 10 (by omega) subscribesInTime
    have ninth := unheard 9 (by omega)
    simp only [handshakeSleep] at *
    omega

theorem EVSEFails.step {mqtt : MqttTopics} {times : HandshakeTimes}
    (inTime : times.inTime)
    {state after : TimedHandshake} {turn : HandshakeTurn}
    (clocks : HandshakeClocks times state)
    (knowledge : HandshakeKnowledge state)
    (replies : RepliesHeard times state) (fails : EVSEFails state)
    (step : (timedHandshake mqtt times).step state turn = some after) :
    EVSEFails after := by
  have moves := clocks.timedStep step
  have evseRetries := clocks.evseRetries
  obtain ⟨timeout, failed⟩ := fails
  cases moves with
  | evse turn moved =>
      cases moved with
      | fail atPc notBoth =>
          have last := evFailed_of_last_test inTime clocks knowledge replies
            atPc notBoth
          exact
            { timeout := fun _ atLast => by simpa using last atLast
              failed := by simp }
      | timeout atPc last =>
          have ended := timeout atPc (by omega)
          exact
            { timeout := by rintro ⟨⟩
              failed := fun _ => by simpa using ended }
      | _ =>
          constructor
          · rintro ⟨⟩
          · simp
  | ev turn moved =>
      -- an EV that has returned makes no step
      have running : state.ev.pc ≠ .returned (-1) := by
        intro ended
        cases moved with
        | _ atPc => cases ended.symm.trans atPc
      constructor
      · intro atPc last
        exact absurd (timeout (by simpa using atPc) (by simpa using last))
          running
      · intro atPc
        exact absurd (failed (by simpa using atPc)) running
  | subscribe turn => constructor <;> assumption

/-! ## Devices that agree -/

/-- Everything that holds of a run in which the EV replies in time. -/
structure RepliesInTime (times : HandshakeTimes)
    (state : TimedHandshake) : Prop where
  clocks : HandshakeClocks times state
  knowledge : HandshakeKnowledge state
  firsts : FirstsHeard times state
  replies : RepliesHeard times state
  last : LastReply times state
  fails : EVSEFails state

theorem RepliesInTime.start (mqtt : MqttTopics) (times : HandshakeTimes) :
    RepliesInTime times (timedHandshake mqtt times).initial where
  clocks := .start mqtt times
  knowledge := .start mqtt times
  firsts := .start mqtt times
  replies := by
    simp [RepliesHeard, timedHandshake, HandshakeDevice.enter,
      HandshakeDevice.repliesPassed]
  last := by
    constructor <;> simp [timedHandshake, HandshakeDevice.enter]
  fails := by
    constructor <;> simp [timedHandshake, HandshakeDevice.enter]

theorem RepliesInTime.step {mqtt : MqttTopics} {times : HandshakeTimes}
    (distinct : mqtt.evMessage ≠ mqtt.evseMessage) (inTime : times.inTime)
    {state after : TimedHandshake} {turn : HandshakeTurn}
    (holds : RepliesInTime times state)
    (step : (timedHandshake mqtt times).step state turn = some after) :
    RepliesInTime times after where
  clocks := holds.clocks.step step
  knowledge := holds.knowledge.step distinct holds.clocks step
  firsts := holds.firsts.step distinct holds.clocks holds.knowledge step
  replies := holds.replies.step holds.clocks holds.knowledge holds.firsts step
  last := by
    cases turn with
    | evse =>
        exact holds.last.evse inTime.2.2.1 holds.clocks holds.knowledge
          holds.firsts holds.replies step
    | ev => exact holds.last.ev holds.clocks holds.knowledge step
    | subscribe =>
        cases holds.clocks.timedStep step
        exact ⟨holds.last.first, holds.last.test, holds.last.timeout,
          holds.last.failed⟩
  fails := holds.fails.step inTime holds.clocks holds.knowledge holds.replies
    step

theorem RepliesInTime.agree {times : HandshakeTimes} {state : TimedHandshake}
    (holds : RepliesInTime times state) {ev evse : ℤ}
    (evReturned : state.ev.pc = .returned ev)
    (evseReturned : state.evse.pc = .returned evse) :
    ev = 0 ↔ evse = 0 := by
  constructor
  · rintro rfl
    rcases holds.knowledge.evseEnded (by rw [evseReturned]; rfl) with
      succeeded | ⟨failed, -⟩
    · simpa [evseReturned] using succeeded
    · have evFailed := holds.fails.failed failed
      simp [evReturned] at evFailed
  · rintro rfl
    have both := holds.knowledge.evseSucceeds evseReturned
    rcases holds.knowledge.evEnded (by rw [evReturned]; rfl) with
      succeeded | ⟨failed, -⟩
    · simpa [evReturned] using succeeded
    · have fresh := holds.last.failed failed
      simp [both] at fresh

/-- The EV subscribes when the EVSE has given up, and neither hears the
other. -/
structure NeverHeard (state : TimedHandshake) : Prop where
  evseFresh : state.evse.rthHandshake = .noHandshake
  evFresh : state.ev.rthHandshake = .noHandshake
  evseGone : state.subscribed → state.evse.pc.ended
  evseFails : state.evse.pc ≠ .returned 0
  evFails : state.ev.pc ≠ .returned 0
  noReply : state.ev.pc ≠ .sendReply
  noSettle : state.ev.pc ≠ .settle

theorem NeverHeard.step {mqtt : MqttTopics} {times : HandshakeTimes}
    (late : times.evseEnters + handshakeSleep * 11 < times.evSubscribes)
    {state after : TimedHandshake} {turn : HandshakeTurn}
    (clocks : HandshakeClocks times state) (never : NeverHeard state)
    (step : (timedHandshake mqtt times).step state turn = some after) :
    NeverHeard after := by
  have moves := clocks.timedStep step
  have evseDue := clocks.evseDue
  have evseRetries := clocks.evseRetries
  obtain ⟨evseFresh, evFresh, evseGone, evseFails, evFails, noReply,
    noSettle⟩ := never
  cases moves with
  | evse turn moved =>
      -- the EVSE still runs, so nobody hears it
      have running : state.evse.pc.ended = false := by
        cases moved with
        | _ atPc => rw [atPc]; rfl
      have unsubscribed : state.subscribed = false := by
        by_contra subscribed
        have ended := evseGone (by simpa using subscribed)
        rw [running] at ended
        cases ended
      simp only [unsubscribed, Bool.false_eq_true, if_false,
        HandshakeDevice.hear_none]
      cases moved with
      | succeed atPc both => cases evseFresh.symm.trans both
      | _ =>
          exact ⟨evseFresh, evFresh, by rintro ⟨⟩, by rintro ⟨⟩, evFails,
            noReply, noSettle⟩
  | ev turn moved =>
      cases moved with
      | answer atPc first => cases evFresh.symm.trans first
      | reply atPc => exact absurd atPc noReply
      | settle atPc | unsettled atPc => exact absurd atPc noSettle
      | succeed atPc both => cases evFresh.symm.trans both
      | _ =>
          exact ⟨evseFresh, evFresh, evseGone, evseFails, by rintro ⟨⟩,
            by rintro ⟨⟩, by rintro ⟨⟩⟩
  | subscribe turn =>
      have ended : state.evse.pc.ended := by
        rcases turn with ⟨-, ended | due⟩
        · exact ended
        · simp only [handshakeSleep] at *
          omega
      exact ⟨evseFresh, evFresh, fun _ => ended, evseFails, evFails, noReply,
        noSettle⟩

theorem neverHeard_of_reachable {mqtt : MqttTopics} {times : HandshakeTimes}
    (late : times.evseEnters + handshakeSleep * 11 < times.evSubscribes)
    {state : TimedHandshake}
    (reachable : (timedHandshake mqtt times).Reachable state) :
    NeverHeard state := by
  apply reachable.invariant_of handshakeClocks_of_reachable
  · constructor <;> simp [timedHandshake, HandshakeDevice.enter]
  · exact fun clocks never _ step => never.step late clocks step

end OpenRTH
