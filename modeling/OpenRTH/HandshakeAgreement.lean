import OpenRTH.HandshakeDisagreement

/-!
# Agreement in the handshake

`rth_handshake` returns 0 on both devices or on neither, for every order of
what happens at the same moment, exactly for the start times at which the EV
is sure to reply before the EVSE's last test, or sure to hear nothing.
-/

namespace OpenRTH

/-- Every run ends with both devices returning, and they agree. -/
def HandshakesAgree (mqtt : MqttTopics) (times : HandshakeTimes) : Prop :=
  ∀ state, (timedHandshake mqtt times).Reachable state →
    (∀ turn, (timedHandshake mqtt times).step state turn = none) →
      ∃ ev evse, state.ev.pc = .returned ev ∧
        state.evse.pc = .returned evse ∧ (ev = 0 ↔ evse = 0)

theorem exists_returned {mqtt : MqttTopics} {times : HandshakeTimes}
    (distinct : mqtt.evMessage ≠ mqtt.evseMessage) {state : TimedHandshake}
    (reachable : (timedHandshake mqtt times).Reachable state)
    (stuck : ∀ turn, (timedHandshake mqtt times).step state turn = none) :
    ∃ ev evse, state.ev.pc = .returned ev ∧ state.evse.pc = .returned evse := by
  have clocks := handshakeClocks_of_reachable reachable
  have knowledge := handshakeKnowledge_of_reachable distinct reachable
  obtain ⟨evseEnded, evEnded⟩ := clocks.ended_of_stuck stuck
  rcases knowledge.evEnded evEnded with ev | ⟨ev, -⟩
  · rcases knowledge.evseEnded evseEnded with evse | ⟨evse, -⟩
    · exact ⟨_, _, ev, evse⟩
    · exact ⟨_, _, ev, evse⟩
  · rcases knowledge.evseEnded evseEnded with evse | ⟨evse, -⟩
    · exact ⟨_, _, ev, evse⟩
    · exact ⟨_, _, ev, evse⟩

theorem not_handshakesAgree {mqtt : MqttTopics} {times : HandshakeTimes}
    {state : TimedHandshake} {ev evse : ℤ}
    (reachable : (timedHandshake mqtt times).Reachable state)
    (evReturned : state.ev.pc = .returned ev)
    (evseReturned : state.evse.pc = .returned evse)
    (different : ¬ (ev = 0 ↔ evse = 0)) : ¬ HandshakesAgree mqtt times := by
  intro agree
  have clocks := handshakeClocks_of_reachable reachable
  have subscribed := clocks.evRunning (by simp [evReturned])
  obtain ⟨_, _, evSame, evseSame, same⟩ := agree state reachable fun turn => by
    cases turn with
    | evse => simp [timedHandshake, handshakeStep, evseReturned]
    | ev => simp [timedHandshake, handshakeStep, evReturned]
    | subscribe =>
        simp [timedHandshake, TimedHandshake.subscribeTurn, subscribed]
  obtain rfl := HandshakePc.returned.inj (evReturned.symm.trans evSame)
  obtain rfl := HandshakePc.returned.inj (evseReturned.symm.trans evseSame)
  exact different same

/-- Start times that are neither in time nor too late for the EV to hear
anything. -/
theorem late_or_tied {times : HandshakeTimes}
    (heard : times.evSubscribes ≤ times.evseEnters + handshakeSleep * 11)
    (notInTime : ¬ times.inTime) :
    times.Late ∨ times.evseEnters = times.evEnters + handshakeSleep * 10 := by
  by_cases tied : times.evseEnters = times.evEnters + handshakeSleep * 10
  · exact .inr tied
  · left
    have subscribes := times.subscribes_le
    simp only [HandshakeTimes.inTime, handshakeSleep] at *
    constructor <;> simp only [handshakeSleep] <;> omega

theorem handshakesAgree_iff (mqtt : MqttTopics) (times : HandshakeTimes)
    (distinct : mqtt.evMessage ≠ mqtt.evseMessage) :
    HandshakesAgree mqtt times ↔
      times.evseEnters + handshakeSleep * 11 < times.evSubscribes ∨
        times.inTime := by
  constructor
  · intro agree
    by_contra neither
    obtain ⟨heard, notInTime⟩ := not_or.mp neither
    rcases late_or_tied (le_of_not_gt heard) notInTime with late | tied
    · obtain ⟨state, reachable, ev, evse⟩ := exists_missed distinct late
      exact not_handshakesAgree reachable ev evse (by decide) agree
    · obtain ⟨state, reachable, ev, evse⟩ := exists_tied distinct tied
      exact not_handshakesAgree reachable ev evse (by decide) agree
  · intro times state reachable stuck
    obtain ⟨ev, evse, evReturned, evseReturned⟩ :=
      exists_returned distinct reachable stuck
    refine ⟨ev, evse, evReturned, evseReturned, ?_⟩
    rcases times with late | inTime
    · have never := neverHeard_of_reachable late reachable
      constructor
      · rintro rfl
        exact absurd evReturned never.evFails
      · rintro rfl
        exact absurd evseReturned never.evseFails
    · have holds : RepliesInTime _ state :=
        reachable.invariant (.start mqtt _)
          fun holds _ step => holds.step distinct inTime step
      exact holds.agree evReturned evseReturned

/-- The EV is there first. -/
theorem handshakesAgree_ev_first :
    HandshakesAgree benchTopics ⟨1000000000, 0, 0, le_rfl⟩ :=
  (handshakesAgree_iff benchTopics _ (by decide)).mpr (.inr (by
    simp only [HandshakeTimes.inTime, handshakeSleep]
    decide))

/-- The EV enters 31 seconds after the EVSE: it hears the EVSE's last first,
and replies when the EVSE has given up. -/
theorem not_handshakesAgree_ev_late :
    ¬ HandshakesAgree benchTopics
      ⟨0, 31000000000, 31000000000, le_rfl⟩ := by
  obtain ⟨state, reachable, found⟩ :=
    TransitionSystem.exists_reaches_of_follow
      (timedHandshake benchTopics ⟨0, 31000000000, 31000000000, le_rfl⟩)
      (fun _ _ => True)
      (List.replicate 65 HandshakeTurn.evse ++ .subscribe ::
        List.replicate 4 HandshakeTurn.ev ++
        List.replicate 6 .evse ++ List.replicate 20 .ev)
      (fun state => state.ev.pc = .returned 0 ∧
        state.evse.pc = .returned (-1)) (by decide +kernel)
  simp only [decide_eq_true_eq] at found
  exact not_handshakesAgree reachable found.1 found.2 (by decide)

end OpenRTH
