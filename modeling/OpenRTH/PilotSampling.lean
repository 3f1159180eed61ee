import OpenRTH.J1772
import OpenRTH.TransitionRuns

/-!
# The pilot state over a run of samples

`sample_J1772` keeps the pilot state in three places and measures again when it
seems to have changed.  Seen through the voltage bands, a sample is a step of a
small machine on the pilot state; from this follow the consistency of the three
places and the condition under which a change is confirmed by both
measurements.
-/

namespace OpenRTH

/-! ## Bands -/

/-- The state that a pair of voltages stands for, if the high one is in one of
the bands. -/
def pilotBand (high low : ℚ) : Option PilotState :=
  if 11.40 ≤ high ∧ high ≤ 12.60 then some (if lowOk low then .A2 else .A1)
  else if 8.36 ≤ high ∧ high ≤ 9.56 then
    some (if lowOk low then .B2 else .B1)
  else if 5.48 ≤ high ∧ high ≤ 6.49 then
    some (if lowOk low then .C2 else .C1)
  else if 2.62 ≤ high ∧ high ≤ 3.25 then
    some (if lowOk low then .D2 else .D1)
  else if 0 ≤ high ∧ high ≤ 0.25 then
    some (if lowOk low then .A1 else .F)
  else none

/-- The entry of `pilot_state_names`. -/
def PilotState.name (pilot : PilotState) : CString :=
  (pilotStateName pilot.value).getD []

@[simp]
theorem pilotStateName_value (pilot : PilotState) :
    pilotStateName pilot.value = some pilot.name := by
  cases pilot <;> rfl

@[simp]
theorem toUint8_value (pilot : PilotState) :
    toUint8 pilot.value = pilot.value := by
  cases pilot <;> rfl

@[simp]
theorem toInt8_value (pilot : PilotState) :
    toInt8 pilot.value = pilot.value := by
  cases pilot <;> rfl

theorem PilotState.value_injective : Function.Injective PilotState.value := by
  intro first second same
  cases first <;> cases second <;> first
    | rfl
    | cases same

theorem pilotStateNumber_eq (high low : ℚ) (last : PilotState) :
    pilotStateNumber high low last.value =
      ((pilotBand high low).getD last).value := by
  unfold pilotStateNumber pilotBand
  split_ifs <;> rfl

/-- No voltage stands for the state `E`. -/
theorem pilotBand_ne_E (high low : ℚ) : pilotBand high low ≠ some .E := by
  unfold pilotBand
  split_ifs <;> simp

/-- The band of a measurement, after rounding; without a message the voltages of
the last measurement count. -/
def measuredBand (reading : Option (ℚ × ℚ)) (j1772 : J1772) :
    Option PilotState :=
  pilotBand (getPilotVoltage reading j1772).vpilot
    (getPilotVoltage reading j1772).vpilotMin

/-- The bands of the two measurements of a sample. -/
def SampleReadings.firstBand (readings : SampleReadings)
    (globals : PilotGlobals) : Option PilotState :=
  measuredBand readings.firstPilot globals.j1772

def SampleReadings.secondBand (readings : SampleReadings)
    (globals : PilotGlobals) : Option PilotState :=
  measuredBand readings.secondPilot
    (getPilotVoltage readings.firstPilot globals.j1772)

/-- The next pilot state: the second band decides, once the first one differs
from the present state. -/
def nextPilot (pilot : PilotState) (first second : Option PilotState) :
    PilotState :=
  if first.getD pilot = pilot then pilot else second.getD pilot

/-! ## One sample -/

/-- The three places where the pilot state is kept agree. -/
structure PilotGlobals.At (globals : PilotGlobals) (pilot : PilotState) :
    Prop where
  last : globals.lastPilotState = pilot.value
  state : globals.j1772.pilotState = pilot.value
  name : globals.j1772.pilotStateName = pilot.name

theorem getPilotVoltage_congr (reading : Option (ℚ × ℚ))
    {first second : J1772} (high : first.vpilot = second.vpilot)
    (low : first.vpilotMin = second.vpilotMin) :
    (getPilotVoltage reading first).vpilot =
        (getPilotVoltage reading second).vpilot ∧
      (getPilotVoltage reading first).vpilotMin =
        (getPilotVoltage reading second).vpilotMin := by
  cases reading with
  | none => simp [getPilotVoltage, J1772.setPilotVoltage, high, low]
  | some voltages => exact ⟨rfl, rfl⟩

theorem measuredBand_congr (reading : Option (ℚ × ℚ)) {first second : J1772}
    (high : first.vpilot = second.vpilot)
    (low : first.vpilotMin = second.vpilotMin) :
    measuredBand reading first = measuredBand reading second := by
  obtain ⟨sameHigh, sameLow⟩ := getPilotVoltage_congr reading high low
  rw [measuredBand, measuredBand, sameHigh, sameLow]

/-- What is left after a measurement that was classified as `pilot`. -/
structure Measured (reading : Option (ℚ × ℚ)) (before : PilotGlobals)
    (pilot : PilotState) (after : PilotGlobals) : Prop where
  ran : getPilotState reading before = some (pilot.value, after)
  last : after.lastPilotState = before.lastPilotState
  name : after.j1772.pilotStateName = pilot.name
  high : after.j1772.vpilot = (getPilotVoltage reading before.j1772).vpilot
  low : after.j1772.vpilotMin =
    (getPilotVoltage reading before.j1772).vpilotMin

theorem getPilotState_measured (globals : PilotGlobals) {last : PilotState}
    (lastEq : globals.lastPilotState = last.value)
    (reading : Option (ℚ × ℚ)) :
    ∃ after, Measured reading globals
      ((measuredBand reading globals.j1772).getD last) after := by
  refine ⟨{ globals with
    j1772 := { getPilotVoltage reading globals.j1772 with
      pilotStateName :=
        ((measuredBand reading globals.j1772).getD last).name } },
    ?_, rfl, rfl, rfl, rfl⟩
  simp only [getPilotState, lastEq, pilotStateNumber_eq,
    pilotStateName_value, Option.map_some, toUint8_value]
  rfl

theorem at_measureProx {globals : PilotGlobals} {pilot : PilotState}
    (holds : globals.At pilot) (evcc : Bool) (reading : Option ℚ) :
    (measureProx evcc reading globals).At pilot := by
  obtain ⟨last, state, name⟩ := holds
  unfold measureProx
  split_ifs
  · cases reading <;> exact ⟨last, state, name⟩
  · exact ⟨last, state, name⟩

theorem getPwmCommState_voltages (reading : Option (ℤ × ℚ)) (j1772 : J1772) :
    (getPwmCommState reading j1772).2.vpilot = j1772.vpilot ∧
      (getPwmCommState reading j1772).2.vpilotMin = j1772.vpilotMin := by
  cases reading <;> exact ⟨rfl, rfl⟩

theorem at_measureAgain (globals : PilotGlobals) {pilot first : PilotState}
    (last : globals.lastPilotState = pilot.value)
    (state : globals.j1772.pilotState = first.value)
    (name : globals.j1772.pilotStateName = first.name)
    (reading : Option (ℚ × ℚ)) :
    ∃ after, measureAgain reading globals = some after ∧
      after.At (if first = pilot then pilot
        else (measuredBand reading globals.j1772).getD pilot) := by
  unfold measureAgain
  by_cases same : first = pilot
  · subst same
    refine ⟨globals, if_pos (state.trans last.symm), ?_⟩
    rw [if_pos rfl]
    exact ⟨last, state, name⟩
  · have differs : globals.j1772.pilotState ≠ globals.lastPilotState := by
      rw [state, last]
      exact fun equal => same (PilotState.value_injective equal)
    obtain ⟨after, measured⟩ := getPilotState_measured globals last reading
    rw [if_neg differs, if_neg same, measured.ran, Option.map_some]
    exact ⟨_, rfl, toInt8_value _, rfl, measured.name⟩

/-- The measurement that every call of `sample_J1772` makes. -/
def firstMeasurement (readings : SampleReadings) (globals : PilotGlobals) :
    Option (ℤ × PilotGlobals) :=
  getPilotState readings.firstPilot
    { globals with j1772 := (getPwmCommState readings.pwm globals.j1772).2 }

/-- The measurement that follows when the first one gives another state than
last time. -/
def secondMeasurement (readings : SampleReadings) (globals : PilotGlobals) :
    Option (ℤ × PilotGlobals) :=
  (firstMeasurement readings globals).bind fun (pilotState, globals) =>
    getPilotState readings.secondPilot
      { globals with j1772 := { globals.j1772 with pilotState := pilotState } }

theorem sampleJ1772_eq (evcc : Bool) (readings : SampleReadings)
    (globals : PilotGlobals) :
    sampleJ1772 evcc readings globals =
      ((firstMeasurement readings globals).bind fun (pilotState, globals) =>
        measureAgain readings.secondPilot
          { globals with
            j1772 := { globals.j1772 with pilotState := pilotState } }).map
        (measureProx evcc readings.prox) :=
  rfl

/-- The first measurement, and what it leaves for the second one. -/
theorem firstMeasurement_at {globals : PilotGlobals} {pilot : PilotState}
    (holds : globals.At pilot) (readings : SampleReadings) :
    ∃ measured, firstMeasurement readings globals =
        some (((readings.firstBand globals).getD pilot).value, measured) ∧
      measured.lastPilotState = pilot.value ∧
      measured.j1772.pilotStateName =
        ((readings.firstBand globals).getD pilot).name ∧
      ∀ pilotState, measuredBand readings.secondPilot
          { measured.j1772 with pilotState := pilotState } =
        readings.secondBand globals := by
  obtain ⟨high, low⟩ := getPwmCommState_voltages readings.pwm globals.j1772
  have firstBand := measuredBand_congr readings.firstPilot high low
  obtain ⟨firstHigh, firstLow⟩ :=
    getPilotVoltage_congr readings.firstPilot high low
  obtain ⟨measured, ran, last, name, measuredHigh, measuredLow⟩ :=
    getPilotState_measured
      { globals with j1772 := (getPwmCommState readings.pwm globals.j1772).2 }
      holds.last readings.firstPilot
  rw [firstBand] at ran name
  refine ⟨measured, ran, last.trans holds.last, name, fun pilotState => ?_⟩
  exact measuredBand_congr readings.secondPilot (measuredHigh.trans firstHigh)
    (measuredLow.trans firstLow)

theorem secondMeasurement_at {globals : PilotGlobals} {pilot : PilotState}
    (holds : globals.At pilot) (readings : SampleReadings) :
    (secondMeasurement readings globals).map Prod.fst =
      some ((readings.secondBand globals).getD pilot).value := by
  obtain ⟨measured, ran, last, _, second⟩ := firstMeasurement_at holds readings
  obtain ⟨after, again⟩ := getPilotState_measured
    { measured with
      j1772 := { measured.j1772 with
        pilotState := ((readings.firstBand globals).getD pilot).value } }
    last readings.secondPilot
  have ranAgain := again.ran
  rw [second] at ranAgain
  unfold secondMeasurement
  rw [ran, Option.bind_some]
  exact congrArg (Option.map Prod.fst) ranAgain

/-- A sample is a step of the machine on the bands. -/
theorem sampleJ1772_at {globals : PilotGlobals} {pilot : PilotState}
    (holds : globals.At pilot) (evcc : Bool) (readings : SampleReadings) :
    ∃ after, sampleJ1772 evcc readings globals = some after ∧
      after.At (nextPilot pilot (readings.firstBand globals)
        (readings.secondBand globals)) := by
  obtain ⟨measured, ran, last, name, second⟩ :=
    firstMeasurement_at holds readings
  obtain ⟨after, again, atNext⟩ := at_measureAgain
    { measured with
      j1772 := { measured.j1772 with
        pilotState := ((readings.firstBand globals).getD pilot).value } }
    last rfl name readings.secondPilot
  rw [second] at atNext
  refine ⟨measureProx evcc readings.prox after, ?_,
    at_measureProx atNext evcc readings.prox⟩
  rw [sampleJ1772_eq, ran, Option.bind_some]
  change (measureAgain readings.secondPilot _).map _ = _
  rw [again, Option.map_some]

/-! ## Runs of samples -/

/-- A call of `sample_J1772`, with the globals before and after it. -/
structure SampleCall where
  before : PilotGlobals
  readings : SampleReadings
  after : PilotGlobals

/-- The globals, and the calls so far, the last one first. -/
structure SampledState where
  globals : PilotGlobals
  calls : List SampleCall

/-- Calls of `sample_J1772` with arbitrary readings; a call that accesses
`pilot_state_names` outside its entries is no step. -/
def pilotSampling (evcc : Bool) :
    TransitionSystem SampledState SampleReadings where
  initial := ⟨PilotGlobals.initial evcc, []⟩
  step state readings :=
    (sampleJ1772 evcc readings state.globals).map fun after =>
      ⟨after, ⟨state.globals, readings, after⟩ :: state.calls⟩

/-- The call ran between globals in which the three places agree. -/
def SampleCall.Ran (call : SampleCall) : Prop :=
  ∃ pilot, call.before.At pilot ∧
    call.after.At (nextPilot pilot (call.readings.firstBand call.before)
      (call.readings.secondBand call.before))

/-- The places agree on a state other than `E`. -/
def SampledState.Sound (state : SampledState) : Prop :=
  (∃ pilot, pilot ≠ .E ∧ state.globals.At pilot) ∧
    ∀ call ∈ state.calls, call.Ran

theorem nextPilot_ne_E {pilot : PilotState} (notE : pilot ≠ .E)
    {first second : Option PilotState} (secondNotE : second ≠ some .E) :
    nextPilot pilot first second ≠ .E := by
  unfold nextPilot
  split_ifs with same
  · exact notE
  · cases second with
    | none => exact notE
    | some pilot => exact fun isE => secondNotE (congrArg some isE)

theorem sampledState_sound (evcc : Bool) {state : SampledState}
    (reachable : (pilotSampling evcc).Reachable state) : state.Sound := by
  apply reachable.invariant
  · exact ⟨⟨.A1, by decide, ⟨rfl, rfl, rfl⟩⟩, fun call called => nomatch called⟩
  · rintro state after readings ⟨⟨pilot, notE, holds⟩, ran⟩ - step
    obtain ⟨globals, sampled, atNext⟩ := sampleJ1772_at holds evcc readings
    simp only [pilotSampling, sampled, Option.map_some,
      Option.some.injEq] at step
    subst step
    refine ⟨⟨_, nextPilot_ne_E notE (pilotBand_ne_E _ _), atNext⟩, ?_⟩
    intro call called
    obtain rfl | earlier := List.mem_cons.mp called
    · exact ⟨pilot, holds, atNext⟩
    · exact ran call earlier

/-! ## The three places -/

/-- The pilot voltage lies in one of the bands that `get_pilot_state` knows. -/
def InVoltageBand (high : ℚ) : Prop :=
  (11.40 ≤ high ∧ high ≤ 12.60) ∨ (8.36 ≤ high ∧ high ≤ 9.56) ∨
    (5.48 ≤ high ∧ high ≤ 6.49) ∨ (2.62 ≤ high ∧ high ≤ 3.25) ∨
    (0 ≤ high ∧ high ≤ 0.25)

theorem pilotBand_eq_none {high : ℚ} (outside : ¬ InVoltageBand high)
    (low : ℚ) : pilotBand high low = none := by
  simp only [InVoltageBand, not_or] at outside
  obtain ⟨a, b, c, d, f⟩ := outside
  rw [pilotBand, if_neg a, if_neg b, if_neg c, if_neg d, if_neg f]

/-- The last state and the name go with the present state, which is one of `A1`
to `D2` or `F`. -/
structure PilotGlobals.Consistent (globals : PilotGlobals) : Prop where
  last : globals.lastPilotState = globals.j1772.pilotState
  value : ∃ pilot : PilotState, pilot ≠ .E ∧
    globals.j1772.pilotState = pilot.value
  name : pilotStateName globals.j1772.pilotState =
    some globals.j1772.pilotStateName

theorem PilotGlobals.At.consistent {globals : PilotGlobals}
    {pilot : PilotState} (holds : globals.At pilot) (notE : pilot ≠ .E) :
    globals.Consistent where
  last := holds.last.trans holds.state.symm
  value := ⟨pilot, notE, holds.state⟩
  name := by rw [holds.state, holds.name, pilotStateName_value]

theorem sampleJ1772_outside {globals : PilotGlobals} {pilot : PilotState}
    (holds : globals.At pilot) {readings : SampleReadings}
    (outside : ¬ InVoltageBand
      (getPilotVoltage readings.firstPilot globals.j1772).vpilot)
    {after : PilotGlobals}
    (atNext : after.At (nextPilot pilot (readings.firstBand globals)
      (readings.secondBand globals))) :
    after.j1772.pilotState = globals.j1772.pilotState ∧
      after.j1772.pilotStateName = globals.j1772.pilotStateName := by
  have none : readings.firstBand globals = none := pilotBand_eq_none outside _
  rw [nextPilot, none, Option.getD_none, if_pos rfl] at atNext
  exact ⟨atNext.state.trans holds.state.symm,
    atNext.name.trans holds.name.symm⟩

/-- After any calls with any readings the three places agree, no call accesses
`pilot_state_names` outside its entries, and a call whose measurement is outside
the bands leaves the state and its name. -/
theorem sampleJ1772_consistent (evcc : Bool) {state : SampledState}
    (reachable : (pilotSampling evcc).Reachable state) :
    state.globals.Consistent ∧
      ∀ readings, ∃ after,
        sampleJ1772 evcc readings state.globals = some after ∧
        after.Consistent ∧
        (¬ InVoltageBand (getPilotVoltage readings.firstPilot
            state.globals.j1772).vpilot →
          after.j1772.pilotState = state.globals.j1772.pilotState ∧
            after.j1772.pilotStateName =
              state.globals.j1772.pilotStateName) := by
  obtain ⟨⟨pilot, notE, holds⟩, -⟩ := sampledState_sound evcc reachable
  refine ⟨holds.consistent notE, fun readings => ?_⟩
  obtain ⟨after, sampled, atNext⟩ := sampleJ1772_at holds evcc readings
  exact ⟨after, sampled,
    atNext.consistent (nextPilot_ne_E notE (pilotBand_ne_E _ _)),
    fun outside => sampleJ1772_outside holds outside atNext⟩

/-- Without a PWM or proximity response. -/
def pilotReadings (first second : ℚ × ℚ) : SampleReadings :=
  ⟨none, some first, some second, none⟩

/-- The coupler is plugged in, then a voltage lies between two bands. -/
theorem sampleJ1772_consistent_between :
    ∃ state after, (pilotSampling true).Reachable state ∧
      state.globals.j1772.pilotState = PilotState.B1.value ∧
      sampleJ1772 true (pilotReadings (7, 0) (6, 0)) state.globals =
        some after ∧
      after.j1772.pilotState = PilotState.B1.value := by
  obtain ⟨state, reaches, found⟩ :=
    TransitionSystem.exists_reaches_of_follow (pilotSampling true)
      (fun _ _ => True) [pilotReadings (9, 0) (9, 0)]
      (fun state => state.globals.j1772.pilotState = PilotState.B1.value)
      (by decide +kernel)
  have plugged := of_decide_eq_true found
  obtain ⟨after, sampled, -, unchanged⟩ :=
    (sampleJ1772_consistent true reaches).2 (pilotReadings (7, 0) (6, 0))
  have between : ¬ InVoltageBand 7 := by
    norm_num [InVoltageBand]
  have measured : (getPilotVoltage (pilotReadings (7, 0) (6, 0)).firstPilot
      state.globals.j1772).vpilot = 7 := by
    norm_num [getPilotVoltage, pilotReadings, J1772.setPilotVoltage]
  rw [measured] at unchanged
  exact ⟨state, after, reaches, plugged, sampled,
    (unchanged between).1.trans plugged⟩

/-! ## The second measurement -/

/-- When the call changes the pilot state, both of its measurements gave the new
state. -/
def SampleCall.ChangeConfirmed (call : SampleCall) : Prop :=
  call.after.j1772.pilotState ≠ call.before.j1772.pilotState →
    (firstMeasurement call.readings call.before).map Prod.fst =
        some call.after.j1772.pilotState ∧
      (secondMeasurement call.readings call.before).map Prod.fst =
        some call.after.j1772.pilotState

/-- The two voltages lie in bands of two different states, and of neither is it
the present state. -/
def SampleCall.Glitch (call : SampleCall) : Prop :=
  ∃ first second : PilotState,
    call.readings.firstBand call.before = some first ∧
    call.readings.secondBand call.before = some second ∧
    first.value ≠ call.before.j1772.pilotState ∧
    second.value ≠ call.before.j1772.pilotState ∧ first ≠ second

theorem firstMeasurement_map_fst {globals : PilotGlobals} {pilot : PilotState}
    (holds : globals.At pilot) (readings : SampleReadings) :
    (firstMeasurement readings globals).map Prod.fst =
      some ((readings.firstBand globals).getD pilot).value := by
  obtain ⟨measured, ran, -⟩ := firstMeasurement_at holds readings
  rw [ran, Option.map_some]

theorem nextPilot_confirmed_iff (pilot : PilotState)
    (first second : Option PilotState) :
    (nextPilot pilot first second ≠ pilot →
        first.getD pilot = nextPilot pilot first second ∧
          second.getD pilot = nextPilot pilot first second) ↔
      ¬ ∃ one other, first = some one ∧ second = some other ∧
        one ≠ pilot ∧ other ≠ pilot ∧ one ≠ other := by
  unfold nextPilot
  cases first with
  | none => simp
  | some one =>
      rw [Option.getD_some]
      by_cases same : one = pilot
      · simp [same]
      · rw [if_neg same]
        cases second with
        | none => simp
        | some other => simp [same]

theorem SampleCall.Ran.changeConfirmed_iff {call : SampleCall}
    (ran : call.Ran) : call.ChangeConfirmed ↔ ¬ call.Glitch := by
  obtain ⟨pilot, holds, atNext⟩ := ran
  have injective := PilotState.value_injective
  have confirmed := nextPilot_confirmed_iff pilot
    (call.readings.firstBand call.before)
    (call.readings.secondBand call.before)
  unfold ChangeConfirmed Glitch
  rw [firstMeasurement_map_fst holds, secondMeasurement_at holds,
    atNext.state, holds.state]
  simpa only [Option.some_inj, injective.eq_iff, injective.ne_iff]
    using confirmed

/-- Over any calls with any readings, each change of the pilot state is
confirmed by both measurements exactly when no call has voltages in the bands of
two different new states. -/
theorem changes_confirmed_iff (evcc : Bool) {state : SampledState}
    (reachable : (pilotSampling evcc).Reachable state) :
    (∀ call ∈ state.calls, call.ChangeConfirmed) ↔
      ∀ call ∈ state.calls, ¬ call.Glitch := by
  have ran := (sampledState_sound evcc reachable).2
  exact forall₂_congr fun call called => (ran call called).changeConfirmed_iff

/-- Both measurements of a call find the coupler plugged in. -/
theorem changes_confirmed_plugged :
    ∃ state, (pilotSampling false).Reachable state ∧
      state.globals.j1772.pilotState = PilotState.B1.value ∧
      ∀ call ∈ state.calls, call.ChangeConfirmed := by
  obtain ⟨state, reaches, found⟩ :=
    TransitionSystem.exists_reaches_of_follow (pilotSampling false)
      (fun _ _ => True) [pilotReadings (9, 0) (9, 0)]
      (fun state =>
        state.globals.j1772.pilotState = PilotState.B1.value ∧
          ∀ call ∈ state.calls, call.readings.firstBand call.before =
            call.readings.secondBand call.before)
      (by decide +kernel)
  obtain ⟨plugged, same⟩ := of_decide_eq_true found
  refine ⟨state, reaches, plugged,
    (changes_confirmed_iff false reaches).mpr ?_⟩
  rintro call called ⟨first, second, inFirst, inSecond, -, -, differ⟩
  rw [same call called, inSecond] at inFirst
  exact differ (Option.some.inj inFirst).symm

instance (call : SampleCall) : Decidable call.ChangeConfirmed :=
  inferInstanceAs (Decidable (_ → _))

/-- The first measurement gives `B1` and the second one `C1`, which is
stored. -/
theorem changes_not_confirmed :
    ∃ state, (pilotSampling false).Reachable state ∧
      ∃ call ∈ state.calls, ¬ call.ChangeConfirmed := by
  obtain ⟨state, reaches, found⟩ :=
    TransitionSystem.exists_reaches_of_follow (pilotSampling false)
      (fun _ _ => True) [pilotReadings (9, 0) (6, 0)]
      (fun state => ∃ call ∈ state.calls, ¬ call.ChangeConfirmed)
      (by decide +kernel)
  exact ⟨state, reaches, of_decide_eq_true found⟩

end OpenRTH
