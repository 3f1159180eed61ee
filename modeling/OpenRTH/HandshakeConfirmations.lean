import OpenRTH.Handshake
import OpenRTH.TransitionRuns

/-!
# The confirmations of the EV

The EV means to send its handshake message three times before it reports a
success, but it counts the iterations from the start of the loop and not from
the first reply.  The main result says for which arrivals of the EVSE's messages
it has sent three.
-/

namespace OpenRTH

/-! ## The device and its schedule -/

/-- The order of the steps of one iteration; the sleep is counted to the
iteration that follows it, whose number `num_retries` has by then. -/
def HandshakePc.position : HandshakePc → ℕ
  | .sleeping => 0
  | .testNone => 1
  | .sendFirst => 2
  | .testFirst => 3
  | .sendReply => 4
  | .settle => 5
  | .testBoth => 6
  | .testTimeout => 7
  | .exited => 0
  | .returned _ => 8

/-- When a handshake message of the EVSE arrives: in which iteration, and before
which of its steps. -/
structure HandshakeArrival where
  iteration : ℕ
  pc : HandshakePc
  deriving DecidableEq

/-- The EV in `rth_handshake`, the number of messages it has published on
`mqtt.ev_message`, and the arrivals so far. -/
structure ConfirmingHandshake where
  device : HandshakeDevice
  sent : ℕ
  arrivals : List HandshakeArrival

inductive ConfirmingAction
  | run (signalCaptured : Bool)
  | arrive

/-- `rth_handshake` on the EV while messages of the EVSE arrive. -/
def confirmingHandshake (mqtt : MqttTopics) :
    TransitionSystem ConfirmingHandshake ConfirmingAction where
  initial := ⟨.enter, 0, []⟩
  step state
    | .run signalCaptured =>
        (handshakeStep mqtt .EV signalCaptured state.device).map
          fun (device, published) =>
            { state with
              device := device
              sent := state.sent +
                if published = some (mqtt.evMessage, handshakeMessage) then 1
                else 0 }
    | .arrive =>
        if state.device.pc.ended then none
        else
          some { state with
            device := state.device.hear mqtt
              (some (mqtt.evseMessage, handshakeMessage))
            arrivals := state.arrivals ++
              [⟨state.device.numRetries, state.device.pc⟩] }

/-- A message has arrived before the test for `FIRST_HS` of the iteration. -/
def HeardBy (arrivals : List HandshakeArrival) (iteration : ℕ) : Prop :=
  ∃ arrival ∈ arrivals, arrival.iteration < iteration ∨
    arrival.iteration = iteration ∧ arrival.pc.position ≤ 3

/-- A message has arrived right before the test for `BOTH_HS` of the
iteration, where it takes back an assignment of `BOTH_HS`. -/
def Reopened (arrivals : List HandshakeArrival) (iteration : ℕ) : Prop :=
  ⟨iteration, .testBoth⟩ ∈ arrivals

instance (arrivals : List HandshakeArrival) (iteration : ℕ) :
    Decidable (HeardBy arrivals iteration) :=
  inferInstanceAs (Decidable (∃ arrival ∈ arrivals, _))

instance (arrivals : List HandshakeArrival) (iteration : ℕ) :
    Decidable (Reopened arrivals iteration) :=
  inferInstanceAs (Decidable (_ ∈ arrivals))

/-! ## Lemmas about schedules -/

theorem HeardBy.mono {arrivals : List HandshakeArrival} {earlier later : ℕ}
    (order : earlier ≤ later) (heard : HeardBy arrivals earlier) :
    HeardBy arrivals later := by
  obtain ⟨arrival, member, before⟩ := heard
  exact ⟨arrival, member, by omega⟩

theorem not_heardBy_nil (iteration : ℕ) : ¬ HeardBy [] iteration := by
  rintro ⟨arrival, member, -⟩
  exact List.not_mem_nil member

theorem heardBy_append_iff {arrivals : List HandshakeArrival}
    {iteration : ℕ} {arrival : HandshakeArrival}
    (late : iteration < arrival.iteration ∨
      iteration = arrival.iteration ∧ 3 < arrival.pc.position) :
    HeardBy (arrivals ++ [arrival]) iteration ↔ HeardBy arrivals iteration := by
  constructor
  · rintro ⟨other, member, before⟩
    rcases List.mem_append.mp member with old | new
    · exact ⟨other, old, before⟩
    · obtain rfl := List.mem_singleton.mp new
      omega
  · rintro ⟨other, member, before⟩
    exact ⟨other, List.mem_append_left _ member, before⟩

/-- Of a property that stays true, the number of places where it holds says
where it holds first. -/
theorem le_countP_range_iff {holds : ℕ → Bool}
    (stable : ∀ {earlier later}, earlier ≤ later → holds earlier = true →
      holds later = true)
    {count length : ℕ} (positive : 1 ≤ count) (fits : count ≤ length) :
    count ≤ (List.range length).countP holds ↔
      holds (length - count) = true := by
  induction length generalizing count with
  | zero => omega
  | succ length ih =>
      rw [List.range_succ, List.countP_append, List.countP_singleton]
      cases last : holds length with
      | false =>
          have none : (List.range length).countP holds = 0 := by
            refine List.countP_eq_zero.mpr fun index inRange holdsThere => ?_
            have later := stable (List.mem_range.mp inRange).le holdsThere
            simp [last] at later
          have before : holds (length + 1 - count) ≠ true := fun there => by
            have later := stable (by omega : _ ≤ length) there
            simp [last] at later
          have few : ¬ count ≤ 0 + 0 := by omega
          simp [none, before, few]
      | true =>
          by_cases one : count = 1
          · subst one
            simp [last]
          · have shift : length + 1 - count = length - (count - 1) := by omega
            rw [shift, ← ih (by omega) (by omega)]
            simp only [if_true]
            omega

/-! ## The invariant -/

/-- The number of iterations in which the decision whether to reply has had its
effect. -/
def answered (pc : HandshakePc) (numRetries : ℕ) : ℕ :=
  if pc.position ≤ 4 then numRetries else numRetries + 1

/-- What the number of replies and the arrivals say about where the EV is. -/
structure Confirms (pc : HandshakePc) (numRetries : ℕ) (value : HandshakeState)
    (sent : ℕ) (arrivals : List HandshakeArrival) : Prop where
  evPc : pc ≠ .sendFirst
  past : ∀ arrival ∈ arrivals, arrival.iteration < numRetries ∨
    arrival.iteration = numRetries ∧ arrival.pc.position ≤ pc.position
  unheard : value = .noHandshake ↔ arrivals = []
  both : value = .bothHandshake → (pc = .testBoth ∨ pc = .returned 0) ∧
    3 ≤ numRetries ∧ HeardBy arrivals numRetries ∧
      ¬ Reopened arrivals numRetries
  replying : pc = .sendReply ∨ pc = .settle → HeardBy arrivals numRetries
  sent : sent =
    (List.range (answered pc numRetries)).countP (decide <| HeardBy arrivals ·)
  testing : pc = .testBoth → 3 ≤ numRetries → HeardBy arrivals numRetries →
    value = .bothHandshake ∨ Reopened arrivals numRetries
  reopened : ∀ iteration, 3 ≤ iteration →
    iteration < numRetries ∨ iteration = numRetries ∧ pc = .testTimeout →
      HeardBy arrivals iteration → Reopened arrivals iteration
  succeeded : pc = .returned 0 → value = .bothHandshake

section Steps

variable {pc : HandshakePc} {numRetries sent : ℕ} {value : HandshakeState}
  {arrivals : List HandshakeArrival}

theorem Confirms.past_later (holds : Confirms pc numRetries value sent arrivals)
    {next : HandshakePc} (onward : pc.position ≤ next.position) :
    ∀ arrival ∈ arrivals, arrival.iteration < numRetries ∨
      arrival.iteration = numRetries ∧
        arrival.pc.position ≤ next.position := by
  intro arrival member
  have before := holds.past arrival member
  omega

theorem Confirms.reopened_later
    (holds : Confirms pc numRetries value sent arrivals) {next : HandshakePc}
    (notTimeout : next ≠ .testTimeout) :
    ∀ iteration, 3 ≤ iteration →
      iteration < numRetries ∨ iteration = numRetries ∧ next = .testTimeout →
        HeardBy arrivals iteration → Reopened arrivals iteration := by
  intro iteration third before heard
  rcases before with earlier | ⟨-, atTimeout⟩
  · exact holds.reopened iteration third (.inl earlier) heard
  · exact absurd atTimeout notTimeout

/-- A step to a place before the reply that leaves everything else as it is. -/
theorem Confirms.goto (holds : Confirms pc numRetries value sent arrivals)
    {next : HandshakePc} (notBoth : value ≠ .bothHandshake)
    (onward : pc.position ≤ next.position) (early : next.position ≤ 4)
    (evPc : next ≠ .sendFirst)
    (replying : next = .sendReply → HeardBy arrivals numRetries) :
    Confirms next numRetries value sent arrivals where
  evPc := evPc
  past := holds.past_later onward
  unheard := holds.unheard
  both atBoth := absurd atBoth notBoth
  replying := by
    rintro (atReply | rfl)
    · exact replying atReply
    · exact absurd early (by decide)
  sent := by
    rw [holds.sent, answered, answered, if_pos early,
      if_pos (onward.trans early)]
  testing := by
    rintro rfl
    exact absurd early (by decide)
  reopened := by
    refine holds.reopened_later ?_
    rintro rfl
    exact absurd early (by decide)
  succeeded := by
    rintro rfl
    exact absurd early (by decide)

theorem Confirms.start
    (holds : Confirms .testNone numRetries value sent arrivals) :
    Confirms .testFirst numRetries value sent arrivals := by
  refine holds.goto (fun both => ?_) (by decide) (by decide) (by simp)
    (by simp)
  simpa using (holds.both both).1

theorem Confirms.wake
    (holds : Confirms .sleeping numRetries value sent arrivals)
    {next : HandshakePc} (after : next = .testNone ∨ next = .exited) :
    Confirms next numRetries value sent arrivals := by
  have notBoth : value ≠ .bothHandshake := fun both => by
    simpa using (holds.both both).1
  rcases after with rfl | rfl
  · exact holds.goto notBoth (by decide) (by decide) (by simp) (by simp)
  · exact holds.goto notBoth (by decide) (by decide) (by simp) (by simp)

theorem Confirms.answer
    (holds : Confirms .testFirst numRetries .firstHandshake sent arrivals) :
    Confirms .sendReply numRetries .firstHandshake sent arrivals := by
  refine holds.goto (by simp) (by decide) (by decide) (by simp) fun _ => ?_
  have heard := mt holds.unheard.mpr (by simp)
  obtain ⟨arrival, member⟩ := List.exists_mem_of_ne_nil _ heard
  exact ⟨arrival, member, holds.past arrival member⟩

/-- A device that finds no first message has heard nothing yet. -/
theorem Confirms.pass
    (holds : Confirms .testFirst numRetries value sent arrivals)
    (notFirst : value ≠ .firstHandshake) :
    Confirms .testBoth numRetries value sent arrivals := by
  have notBoth : value ≠ .bothHandshake := fun both => by
    simpa using (holds.both both).1
  have unheard : value = .noHandshake := by
    cases value with
    | noHandshake => rfl
    | firstHandshake => exact absurd rfl notFirst
    | bothHandshake => exact absurd rfl notBoth
  obtain rfl := holds.unheard.mp unheard
  have nobody := not_heardBy_nil numRetries
  exact
    { evPc := by simp
      past := by simp
      unheard := holds.unheard
      both := fun both => absurd both notBoth
      replying := by simp
      sent := by
        rw [holds.sent]
        simp [answered, HandshakePc.position, not_heardBy_nil]
      testing := fun _ _ heard => absurd heard nobody
      reopened := fun iteration _ _ heard =>
        absurd heard (not_heardBy_nil iteration)
      succeeded := by simp }

theorem Confirms.reply
    (holds : Confirms .sendReply numRetries value sent arrivals) :
    Confirms .settle numRetries value (sent + 1) arrivals where
  evPc := by simp
  past := holds.past_later (by decide)
  unheard := holds.unheard
  both both := by simpa using (holds.both both).1
  replying _ := holds.replying (.inl rfl)
  sent := by
    have heard := holds.replying (.inl rfl)
    have count : answered .settle numRetries = numRetries + 1 := rfl
    rw [count, List.range_succ, List.countP_append, holds.sent]
    simp [answered, HandshakePc.position, heard]
  testing := by simp
  reopened := holds.reopened_later (by simp)
  succeeded := by simp

/-- No arrival right before the test for `BOTH_HS` precedes the place where
`BOTH_HS` is assigned. -/
theorem Confirms.not_reopened
    (holds : Confirms .settle numRetries value sent arrivals) :
    ¬ Reopened arrivals numRetries := by
  intro reopened
  have before := holds.past _ reopened
  simp only [HandshakePc.position] at before
  omega

theorem Confirms.settle
    (holds : Confirms .settle numRetries value sent arrivals)
    (third : 3 ≤ numRetries) :
    Confirms .testBoth numRetries .bothHandshake sent arrivals where
  evPc := by simp
  past := holds.past_later (by decide)
  unheard := by
    obtain ⟨arrival, member, -⟩ := holds.replying (.inr rfl)
    have heard : arrivals ≠ [] := List.ne_nil_of_mem member
    simp [heard]
  both _ := ⟨.inl rfl, third, holds.replying (.inr rfl), holds.not_reopened⟩
  replying := by simp
  sent := holds.sent
  testing _ _ _ := .inl rfl
  reopened := holds.reopened_later (by simp)
  succeeded := by simp

theorem Confirms.unsettled
    (holds : Confirms .settle numRetries value sent arrivals)
    (early : numRetries < 3) :
    Confirms .testBoth numRetries value sent arrivals where
  evPc := by simp
  past := holds.past_later (by decide)
  unheard := holds.unheard
  both both := by simpa using (holds.both both).1
  replying := by simp
  sent := holds.sent
  testing _ third := by omega
  reopened := holds.reopened_later (by simp)
  succeeded := by simp

theorem Confirms.succeed
    (holds : Confirms .testBoth numRetries .bothHandshake sent arrivals) :
    Confirms (.returned 0) numRetries .bothHandshake sent arrivals where
  evPc := by simp
  past := holds.past_later (by decide)
  unheard := holds.unheard
  both both := ⟨.inr rfl, (holds.both both).2⟩
  replying := by simp
  sent := holds.sent
  testing := by simp
  reopened := holds.reopened_later (by simp)
  succeeded _ := rfl

/-- The test for `BOTH_HS` fails from the third iteration on only when a message
has arrived right before it. -/
theorem Confirms.fail
    (holds : Confirms .testBoth numRetries value sent arrivals)
    (notBoth : value ≠ .bothHandshake) :
    Confirms .testTimeout numRetries value sent arrivals where
  evPc := by simp
  past := holds.past_later (by decide)
  unheard := holds.unheard
  both both := absurd both notBoth
  replying := by simp
  sent := holds.sent
  testing := by simp
  reopened iteration third before heard := by
    rcases before with earlier | ⟨rfl, -⟩
    · exact holds.reopened iteration third (.inl earlier) heard
    · exact (holds.testing rfl third heard).resolve_left notBoth
  succeeded := by simp

theorem Confirms.timeout
    (holds : Confirms .testTimeout numRetries value sent arrivals) :
    Confirms (.returned (-1)) numRetries value sent arrivals where
  evPc := by simp
  past := holds.past_later (by decide)
  unheard := holds.unheard
  both both := by simpa using (holds.both both).1
  replying := by simp
  sent := holds.sent
  testing := by simp
  reopened := holds.reopened_later (by simp)
  succeeded := by simp

theorem Confirms.retry
    (holds : Confirms .testTimeout numRetries value sent arrivals) :
    Confirms .sleeping (numRetries + 1) value sent arrivals where
  evPc := by simp
  past arrival member := by
    have before := holds.past arrival member
    omega
  unheard := holds.unheard
  both both := by simpa using (holds.both both).1
  replying := by simp
  sent := holds.sent
  testing := by simp
  reopened iteration third before := by
    refine holds.reopened iteration third ?_
    rcases before with earlier | ⟨-, atPc⟩
    · rcases Nat.lt_succ_iff_lt_or_eq.mp earlier with earlier | rfl
      · exact .inl earlier
      · exact .inr ⟨rfl, rfl⟩
    · simp at atPc
  succeeded := by simp

/-- A message arrives.  It concerns only iterations that are not decided
yet. -/
theorem Confirms.arrive (holds : Confirms pc numRetries value sent arrivals)
    (running : pc.ended = false) :
    Confirms pc numRetries .firstHandshake sent
      (arrivals ++ [⟨numRetries, pc⟩]) := by
  have undecided {iteration : ℕ} (past : iteration < answered pc numRetries) :
      HeardBy (arrivals ++ [⟨numRetries, pc⟩]) iteration ↔
        HeardBy arrivals iteration := by
    refine heardBy_append_iff ?_
    unfold answered at past
    split_ifs at past <;> simp only <;> omega
  exact
    { evPc := holds.evPc
      past := by
        intro arrival member
        rcases List.mem_append.mp member with old | new
        · exact holds.past arrival old
        · obtain rfl := List.mem_singleton.mp new
          exact .inr ⟨rfl, le_refl _⟩
      unheard := by simp
      both := by simp
      replying := fun atPc => by
        obtain ⟨arrival, member, before⟩ := holds.replying atPc
        exact ⟨arrival, List.mem_append_left _ member, before⟩
      sent := by
        rw [holds.sent]
        refine List.countP_congr fun iteration inRange => ?_
        simp only [decide_eq_true_eq]
        exact (undecided (List.mem_range.mp inRange)).symm
      testing := by
        rintro rfl _ _
        exact .inr (List.mem_append_right _ (List.mem_singleton_self _))
      reopened := fun iteration third before heard => by
        have past : iteration < answered pc numRetries := by
          unfold answered
          rcases before with earlier | ⟨rfl, rfl⟩
          · split_ifs <;> omega
          · simp [HandshakePc.position]
        exact List.mem_append_left _
          (holds.reopened iteration third before ((undecided past).mp heard))
      succeeded := by
        rintro rfl
        cases running }

end Steps

/-! ## Runs -/

theorem handshakeStep_of_awake {mqtt : MqttTopics} {deviceType : DeviceType}
    {device : HandshakeDevice} (awake : device.pc ≠ .sleeping)
    (signalCaptured : Bool) :
    handshakeStep mqtt deviceType signalCaptured device =
      handshakeStep mqtt deviceType false device := by
  unfold handshakeStep
  cases atPc : device.pc <;> first
    | rfl
    | exact absurd atPc awake

/-- One step of the loop keeps the invariant. -/
theorem Confirms.run {mqtt : MqttTopics} {pc : HandshakePc}
    {numRetries sent : ℕ} {value : HandshakeState}
    {arrivals : List HandshakeArrival} {after : HandshakeDevice}
    {published : Option Publication}
    (holds : Confirms pc numRetries value sent arrivals)
    (moved : EVHandshake mqtt ⟨pc, numRetries, value⟩ after published) :
    Confirms after.pc after.numRetries after.rthHandshake
      (sent +
        if published = some (mqtt.evMessage, handshakeMessage) then 1 else 0)
      arrivals := by
  cases moved with
  | start atPc =>
      obtain rfl : pc = _ := atPc
      exact holds.start
  | answer atPc first =>
      obtain rfl : pc = _ := atPc
      obtain rfl : value = _ := first
      exact holds.answer
  | pass atPc notFirst =>
      obtain rfl : pc = _ := atPc
      exact holds.pass notFirst
  | reply atPc =>
      obtain rfl : pc = _ := atPc
      rw [if_pos rfl]
      exact holds.reply
  | settle atPc third =>
      obtain rfl : pc = _ := atPc
      exact holds.settle third
  | unsettled atPc early =>
      obtain rfl : pc = _ := atPc
      exact holds.unsettled early
  | succeed atPc both =>
      obtain rfl : pc = _ := atPc
      obtain rfl : value = _ := both
      exact holds.succeed
  | fail atPc notBoth =>
      obtain rfl : pc = _ := atPc
      exact holds.fail notBoth
  | timeout atPc last =>
      obtain rfl : pc = _ := atPc
      exact holds.timeout
  | retry atPc more =>
      obtain rfl : pc = _ := atPc
      exact holds.retry
  | wake atPc =>
      obtain rfl : pc = _ := atPc
      exact holds.wake (.inl rfl)

/-- The invariant of a state of the system. -/
def ConfirmingHandshake.Confirms (state : ConfirmingHandshake) : Prop :=
  OpenRTH.Confirms state.device.pc state.device.numRetries
    state.device.rthHandshake state.sent state.arrivals

theorem confirms_of_step {mqtt : MqttTopics}
    (distinct : mqtt.evMessage ≠ mqtt.evseMessage)
    {state after : ConfirmingHandshake} {action : ConfirmingAction}
    (holds : state.Confirms)
    (step : (confirmingHandshake mqtt).step state action = some after) :
    after.Confirms := by
  obtain ⟨⟨pc, numRetries, value⟩, sent, arrivals⟩ := state
  cases action with
  | run signalCaptured =>
      obtain ⟨⟨device, published⟩, ran, rfl⟩ := Option.map_eq_some_iff.mp step
      by_cases asleep : pc = .sleeping
      · subst asleep
        simp only [handshakeStep] at ran
        split_ifs at ran with captured
        · cases ran
          exact Confirms.wake holds (.inr rfl)
        · cases ran
          exact Confirms.wake holds (.inl rfl)
      · rw [handshakeStep_of_awake asleep] at ran
        exact Confirms.run holds (evHandshake_of_step ran holds.evPc)
  | arrive =>
      change (if pc.ended = true then none else some _) = some after at step
      split_ifs at step with ended
      obtain rfl := Option.some.inj step
      rw [HandshakeDevice.hear_evseMessage distinct]
      exact Confirms.arrive holds (by simpa using ended)

theorem confirmingHandshake_confirms {mqtt : MqttTopics}
    (distinct : mqtt.evMessage ≠ mqtt.evseMessage)
    {state : ConfirmingHandshake}
    (reachable : (confirmingHandshake mqtt).Reachable state) :
    state.Confirms := by
  refine reachable.invariant ?_
    fun holds _ step => confirms_of_step distinct holds step
  exact
    { evPc := by simp [confirmingHandshake, HandshakeDevice.enter]
      past := by simp [confirmingHandshake]
      unheard := by simp [confirmingHandshake, HandshakeDevice.enter]
      both := by simp [confirmingHandshake, HandshakeDevice.enter]
      replying := by simp [confirmingHandshake, HandshakeDevice.enter]
      sent := rfl
      testing := by simp [confirmingHandshake, HandshakeDevice.enter]
      reopened := by simp [confirmingHandshake, HandshakeDevice.enter]
      succeeded := by simp [confirmingHandshake, HandshakeDevice.enter] }

/-- When the EV reports a success, it has sent its message three times exactly
when it had heard the EVSE two iterations before, or was kept in the loop by
later messages until then: for every iteration from the third on in which the
EVSE has been heard but had not been two iterations before, a message has arrived
right before the test for `BOTH_HS`. -/
theorem confirmingHandshake_three_iff {mqtt : MqttTopics}
    (distinct : mqtt.evMessage ≠ mqtt.evseMessage)
    {state : ConfirmingHandshake}
    (reachable : (confirmingHandshake mqtt).Reachable state)
    (success : state.device.pc = .returned 0) :
    3 ≤ state.sent ↔ ∀ iteration, 3 ≤ iteration →
      HeardBy state.arrivals iteration →
        HeardBy state.arrivals (iteration - 2) ∨
          Reopened state.arrivals iteration := by
  have holds := confirmingHandshake_confirms distinct reachable
  obtain ⟨-, third, heard, notReopened⟩ := holds.both (holds.succeeded success)
  have count : answered state.device.pc state.device.numRetries =
      state.device.numRetries + 1 := by
    rw [success]
    rfl
  have first : 3 ≤ state.sent ↔
      HeardBy state.arrivals (state.device.numRetries - 2) := by
    rw [holds.sent, count, le_countP_range_iff
      (fun order heard =>
        decide_eq_true ((of_decide_eq_true heard).mono order)) (by decide)
      (by omega)]
    simp
  rw [first]
  constructor
  · intro early iteration third heardThen
    rcases Nat.lt_or_ge iteration state.device.numRetries with past | ahead
    · exact .inr (holds.reopened iteration third (.inl past) heardThen)
    · exact .inl (early.mono (by omega))
  · intro condition
    exact (condition _ third heard).resolve_right notReopened

/-- A message arrives before the first iteration; the EV replies in the
iterations 0 to 3. -/
def earlyArrival : List ConfirmingAction :=
  .arrive :: List.replicate 26 (.run false)

theorem confirmingHandshake_three_early :
    ∃ state, (confirmingHandshake benchTopics).Reachable state ∧
      state.device.pc = .returned 0 ∧ 3 ≤ state.sent := by
  obtain ⟨state, reachable, found⟩ :=
    TransitionSystem.exists_reaches_of_follow
      (confirmingHandshake benchTopics) (fun _ _ => True) earlyArrival
      (fun state => decide (state.device.pc = .returned 0 ∧
        state.arrivals = [⟨0, .testNone⟩])) (by decide)
  obtain ⟨success, arrivals⟩ := of_decide_eq_true found
  refine ⟨state, reachable, success,
    (confirmingHandshake_three_iff (by decide) reachable success).mpr ?_⟩
  rintro iteration third -
  rw [arrivals]
  exact .inl ⟨_, List.mem_singleton_self _, .inl (by simp only; omega)⟩

/-- The first message arrives before iteration 3. -/
def lateArrival : List ConfirmingAction :=
  List.replicate 15 (.run false) ++ .arrive :: List.replicate 5 (.run false)

theorem confirmingHandshake_once :
    ∃ state, (confirmingHandshake benchTopics).Reachable state ∧
      state.device.pc = .returned 0 ∧ state.sent = 1 := by
  obtain ⟨state, reachable, found⟩ :=
    TransitionSystem.exists_reaches_of_follow
      (confirmingHandshake benchTopics) (fun _ _ => True) lateArrival
      (fun state => decide (state.device.pc = .returned 0 ∧ state.sent = 1))
      (by decide)
  exact ⟨state, reachable, of_decide_eq_true found⟩

end OpenRTH
