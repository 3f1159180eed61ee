import OpenRTH.LeadsTo
import OpenRTH.SlacMachine
import Mathlib.Data.Nat.Count

/-!
# How often SLAC is tried

Runs of `EVSESlac` and `PEVSlac` over arbitrary results of their calls and an
advancing clock.  Only a timeout of the parameter exchange is counted against
`num_retries`: an attempt that fails in the unmatched state starts another one
for free, the counter is eight bits wide while the limit is an `int`, and the
PEV waits for its network without a timer.
-/

namespace OpenRTH

/-- The result of the call and the value of the clock at each moment. -/
structure SlacOutcomes where
  zero : ℕ → Bool
  time : ℕ → ℤ
  advances : ∀ {earlier later : ℕ}, earlier ≤ later →
    time earlier ≤ time later
  unbounded : ∀ bound, ∃ moment, bound ≤ time moment

/-- What a machine asks its environment for, and the answer. -/
def SlacPc.answer (outcomes : SlacOutcomes) (moment : ℕ) :
    SlacPc → Option SlacInput
  | .startTimer | .paramTimer _ | .startJoin | .netInfoTimer _ =>
      some (.clock (outcomes.time moment))
  | .param _ | .exchange _ | .setKey | .netInfo _ | .pevNetInfo =>
      some (.returned (outcomes.zero moment))
  | .returned _ | .exited => none

/-- The infinite run of a call of `EVSESlac` or `PEVSlac`. -/
def slacRun (device : SlacDevice) (config : SlacConfig) (sequRetry : UInt8)
    (outcomes : SlacOutcomes) : ℕ → SlacState
  | 0 => (slacSystem device config sequRetry).initial
  | moment + 1 =>
      let session := slacRun device config sequRetry outcomes moment
      match session.pc.answer outcomes moment with
      | none => session
      | some input =>
          ((slacSystem device config sequRetry).step session input).getD
            session

/-- How often `UnoccupiedState` or `PEV_DisconnectedState` has been entered. -/
def slacEntries (run : ℕ → SlacState) (moment : ℕ) : ℕ :=
  Nat.count (fun earlier => (run earlier).pc = .startTimer) (moment + 1)

/-- The call returns, after at most one entry more than there are retries. -/
structure BoundedRetries (config : SlacConfig) (run : ℕ → SlacState) :
    Prop where
  returns : ∃ moment result, (run moment).pc = .returned result
  entries : ∀ moment, slacEntries run moment ≤ config.numRetries + 1

/-! ## What a step can do -/

def SlacDevice.nextExchange : SlacDevice → SlacExchange → Option SlacExchange
  | .evse => evseNextExchange
  | .pev => pevNextExchange

/-- The first place of `MatchedState` and of `PEV_MatchedState`. -/
def SlacDevice.joinPc : SlacDevice → SlacPc
  | .evse => .startJoin
  | .pev => .setKey

/-- The steps of both machines. -/
inductive SlacMove (device : SlacDevice) (config : SlacConfig)
    (session after : SlacState) : SlacInput → Prop
  | start {now : ℤ} (atPc : session.pc = .startTimer)
      (toPc : after.pc = .param now)
      (kept : after.sequRetry = session.sequRetry) :
      SlacMove device config session after (.clock now)
  | paramAnswered {initTime : ℤ} (atPc : session.pc = .param initTime)
      (toPc : after.pc = .exchange .cmStartAttenChar)
      (kept : after.sequRetry = session.sequRetry) :
      SlacMove device config session after (.returned true)
  | paramSilent {initTime : ℤ} (atPc : session.pc = .param initTime)
      (toPc : after.pc = .paramTimer initTime)
      (kept : after.sequRetry = session.sequRetry) :
      SlacMove device config session after (.returned false)
  | paramAgain {initTime now : ℤ} (atPc : session.pc = .paramTimer initTime)
      (early : now - initTime < config.timeoutSec)
      (toPc : after.pc = .param initTime)
      (kept : after.sequRetry = session.sequRetry) :
      SlacMove device config session after (.clock now)
  | retry {initTime now : ℤ} (atPc : session.pc = .paramTimer initTime)
      (expired : config.timeoutSec ≤ now - initTime)
      (left : session.sequRetry.toNat < config.numRetries)
      (toPc : after.pc = .startTimer)
      (counted : after.sequRetry = session.sequRetry + 1) :
      SlacMove device config session after (.clock now)
  | giveUp {initTime now : ℤ} (atPc : session.pc = .paramTimer initTime)
      (expired : config.timeoutSec ≤ now - initTime)
      (used : config.numRetries ≤ session.sequRetry.toNat)
      (toPc : after.pc = .returned 1) :
      SlacMove device config session after (.clock now)
  | exchange {call next : SlacExchange} (atPc : session.pc = .exchange call)
      (follows : device.nextExchange call = some next)
      (toPc : after.pc = .exchange next)
      (kept : after.sequRetry = session.sequRetry) :
      SlacMove device config session after (.returned true)
  | matched {call : SlacExchange} (atPc : session.pc = .exchange call)
      (toPc : after.pc = device.joinPc)
      (kept : after.sequRetry = session.sequRetry) :
      SlacMove device config session after (.returned true)
  | exchangeFails {call : SlacExchange} (atPc : session.pc = .exchange call)
      (toPc : after.pc = .startTimer)
      (kept : after.sequRetry = session.sequRetry) :
      SlacMove device config session after (.returned false)
  | join {now : ℤ} (atPc : session.pc = .startJoin)
      (toPc : after.pc = .netInfo now)
      (kept : after.sequRetry = session.sequRetry) :
      SlacMove device config session after (.clock now)
  | notJoined {initTime : ℤ} (atPc : session.pc = .netInfo initTime)
      (toPc : after.pc = .netInfoTimer initTime)
      (kept : after.sequRetry = session.sequRetry) :
      SlacMove device config session after (.returned false)
  | joinAgain {initTime now : ℤ} (atPc : session.pc = .netInfoTimer initTime)
      (early : now - initTime < config.timeoutSec)
      (toPc : after.pc = .netInfo initTime)
      (kept : after.sequRetry = session.sequRetry) :
      SlacMove device config session after (.clock now)
  | keySet (atPc : session.pc = .setKey) (toPc : after.pc = .pevNetInfo)
      (kept : after.sequRetry = session.sequRetry) :
      SlacMove device config session after (.returned true)
  | pevNotJoined (atPc : session.pc = .pevNetInfo)
      (toPc : after.pc = .pevNetInfo)
      (kept : after.sequRetry = session.sequRetry) :
      SlacMove device config session after (.returned false)
  | joined {initTime result : ℤ} (atPc : session.pc = .netInfo initTime)
      (toPc : after.pc = .returned result) :
      SlacMove device config session after (.returned true)
  | joinExpired {initTime now result : ℤ}
      (atPc : session.pc = .netInfoTimer initTime)
      (expired : config.timeoutSec ≤ now - initTime)
      (toPc : after.pc = .returned result) :
      SlacMove device config session after (.clock now)
  | keyRefused {result : ℤ} (atPc : session.pc = .setKey)
      (toPc : after.pc = .returned result) :
      SlacMove device config session after (.returned false)
  | pevJoined {result : ℤ} (atPc : session.pc = .pevNetInfo)
      (toPc : after.pc = .returned result) :
      SlacMove device config session after (.returned true)

theorem retryOrGiveUp_of_lt {config : SlacConfig} {session : SlacState}
    (unavailable again : ℕ) (left : session.sequRetry.toNat < config.numRetries) :
    retryOrGiveUp config unavailable again session =
      { session with state := again, sequRetry := session.sequRetry + 1 } := by
  rw [retryOrGiveUp, if_neg (Int.not_le.mpr left)]

theorem retryOrGiveUp_of_le {config : SlacConfig} {session : SlacState}
    (unavailable again : ℕ) (used : config.numRetries ≤ session.sequRetry.toNat) :
    retryOrGiveUp config unavailable again session =
      { session with state := unavailable, sequRetry := 0 } := by
  rw [retryOrGiveUp, if_pos used]

theorem evseMove_of_step {config : SlacConfig} {session after : SlacState}
    {input : SlacInput} (goesOn : input ≠ .exits)
    (step : evseSlacStep config session input = some after) :
    SlacMove .evse config session after input := by
  unfold evseSlacStep at step
  split at step
  · next now atPc => cases step; exact .start atPc rfl rfl
  · next initTime zero atPc =>
      cases step
      cases zero with
      | true => exact .paramAnswered atPc rfl rfl
      | false => exact .paramSilent atPc rfl rfl
  · next initTime now atPc =>
      cases step
      split_ifs with expired
      · by_cases used : config.numRetries ≤ session.sequRetry.toNat
        · rw [retryOrGiveUp_of_le _ _ used]
          exact .giveUp atPc expired used rfl
        · rw [retryOrGiveUp_of_lt _ _ (Int.not_le.mp used)]
          exact .retry atPc expired (Int.not_le.mp used) rfl rfl
      · exact .paramAgain atPc (Int.not_le.mp expired) rfl rfl
  · next call zero atPc =>
      cases step
      cases zero with
      | true =>
          cases call with
          | cmStartAttenChar | cmMnbcSound | cmAttenChar =>
              exact .exchange atPc rfl rfl rfl
          | slacConnect | cmSlacMatch => exact .matched atPc rfl rfl
      | false => exact .exchangeFails atPc rfl rfl
  · next now atPc => cases step; exact .join atPc rfl rfl
  · next initTime zero atPc =>
      cases step
      cases zero with
      | true => exact .joined atPc rfl
      | false => exact .notJoined atPc rfl rfl
  · next initTime now atPc =>
      cases step
      split_ifs with expired
      · exact .joinExpired atPc expired rfl
      · exact .joinAgain atPc (Int.not_le.mp expired) rfl rfl
  · exact absurd rfl goesOn
  · exact absurd rfl goesOn
  · exact absurd rfl goesOn
  · cases step

theorem pevMove_of_step {config : SlacConfig} {session after : SlacState}
    {input : SlacInput} (goesOn : input ≠ .exits)
    (step : pevSlacStep config session input = some after) :
    SlacMove .pev config session after input := by
  unfold pevSlacStep at step
  split at step
  · next now atPc => cases step; exact .start atPc rfl rfl
  · next initTime zero atPc =>
      cases step
      cases zero with
      | true => exact .paramAnswered atPc rfl rfl
      | false => exact .paramSilent atPc rfl rfl
  · next initTime now atPc =>
      cases step
      split_ifs with expired
      · by_cases used : config.numRetries ≤ session.sequRetry.toNat
        · rw [retryOrGiveUp_of_le _ _ used]
          exact .giveUp atPc expired used rfl
        · rw [retryOrGiveUp_of_lt _ _ (Int.not_le.mp used)]
          exact .retry atPc expired (Int.not_le.mp used) rfl rfl
      · exact .paramAgain atPc (Int.not_le.mp expired) rfl rfl
  · next call zero atPc =>
      cases step
      cases zero with
      | true =>
          cases call with
          | cmStartAttenChar | cmMnbcSound | cmAttenChar | slacConnect =>
              exact .exchange atPc rfl rfl rfl
          | cmSlacMatch => exact .matched atPc rfl rfl
      | false => exact .exchangeFails atPc rfl rfl
  · next zero atPc =>
      cases step
      cases zero with
      | true => exact .keySet atPc rfl rfl
      | false => exact .keyRefused atPc rfl
  · next zero atPc =>
      cases step
      cases zero with
      | true => exact .pevJoined atPc rfl
      | false => exact .pevNotJoined atPc atPc rfl
  · exact absurd rfl goesOn
  · exact absurd rfl goesOn
  · exact absurd rfl goesOn
  · exact absurd rfl goesOn
  · cases step

/-- The places of the machine of a device. -/
def SlacPc.belongsTo (device : SlacDevice) : SlacPc → Bool
  | .startJoin | .netInfo _ | .netInfoTimer _ => device = .evse
  | .setKey | .pevNetInfo => device = .pev
  | _ => true

theorem SlacMove.belongsTo {device : SlacDevice} {config : SlacConfig}
    {session after : SlacState} {input : SlacInput}
    (move : SlacMove device config session after input)
    (before : session.pc.belongsTo device) : after.pc.belongsTo device := by
  cases move with
  | matched atPc toPc kept => cases device <;> rw [toPc] <;> rfl
  | join atPc toPc | notJoined atPc toPc | joinAgain atPc _ toPc
  | keySet atPc toPc | pevNotJoined atPc toPc =>
      rw [atPc] at before
      rw [toPc]
      exact before
  | _ => simp_all [SlacPc.belongsTo]

/-- A machine goes on with every answer it gets. -/
theorem slacMove_of_answer {device : SlacDevice} {config : SlacConfig}
    {sequRetry : UInt8} {outcomes : SlacOutcomes} {moment : ℕ}
    {session : SlacState} {input : SlacInput}
    (belongs : session.pc.belongsTo device)
    (answered : session.pc.answer outcomes moment = some input) :
    SlacMove device config session
      (((slacSystem device config sequRetry).step session input).getD session)
      input := by
  have goesOn : input ≠ .exits := by
    cases pc : session.pc <;> rw [pc] at answered <;> cases answered <;> nofun
  cases step : (slacSystem device config sequRetry).step session input with
  | some after =>
      cases device with
      | evse => exact evseMove_of_step goesOn step
      | pev => exact pevMove_of_step goesOn step
  | none =>
      exfalso
      cases device <;> cases pc : session.pc <;>
        simp_all [slacSystem, evseSlacStep, pevSlacStep, SlacPc.answer,
          SlacPc.belongsTo] <;>
        cases answered <;> simp_all

/-! ## Runs -/

/-- The step is counted as an attempt if it starts another one: no exchange of
the unmatched state fails, and the counter does not wrap below the limit. -/
def countsAttempt (config : SlacConfig) (session : SlacState) :
    SlacInput → Bool
  | .returned zero =>
      match session.pc with
      | .exchange _ => zero
      | _ => true
  | .clock now =>
      match session.pc with
      | .paramTimer initTime =>
          now - initTime < config.timeoutSec ∨ session.sequRetry ≠ 255 ∨
            config.numRetries ≤ 255
      | _ => true
  | .exits => true

/-- Every attempt is counted, and a PEV that waits for its network finds it. -/
structure AttemptsCounted (config : SlacConfig) (outcomes : SlacOutcomes)
    (run : ℕ → SlacState) : Prop where
  counts : ∀ (moment : ℕ) (input : SlacInput),
    (run moment).pc.answer outcomes moment = some input →
      countsAttempt config (run moment) input
  joins : ∀ moment, (run moment).pc = .pevNetInfo →
    ∃ later, moment ≤ later ∧ outcomes.zero later = true

section Runs

variable {device : SlacDevice} {config : SlacConfig} {sequRetry : UInt8}
  {outcomes : SlacOutcomes}

theorem slacRun_zero :
    (slacRun device config sequRetry outcomes 0).pc = .startTimer ∧
      (slacRun device config sequRetry outcomes 0).sequRetry = sequRetry := by
  cases device <;> exact ⟨rfl, rfl⟩

theorem slacRun_succ {moment : ℕ} {input : SlacInput}
    (belongs : (slacRun device config sequRetry outcomes
      moment).pc.belongsTo device)
    (answered : (slacRun device config sequRetry outcomes
      moment).pc.answer outcomes moment = some input) :
    SlacMove device config (slacRun device config sequRetry outcomes moment)
      (slacRun device config sequRetry outcomes (moment + 1)) input := by
  rw [slacRun, answered]
  exact slacMove_of_answer belongs answered

theorem slacRun_succ_of_ended {moment : ℕ}
    (ended : (slacRun device config sequRetry outcomes
      moment).pc.answer outcomes moment = none) :
    slacRun device config sequRetry outcomes (moment + 1) =
      slacRun device config sequRetry outcomes moment := by
  rw [slacRun, ended]

theorem slacRun_belongsTo (moment : ℕ) :
    (slacRun device config sequRetry outcomes moment).pc.belongsTo
      device := by
  induction moment with
  | zero => rw [slacRun_zero.1]; rfl
  | succ moment ih =>
      cases answered : (slacRun device config sequRetry outcomes
          moment).pc.answer outcomes moment with
      | none => rwa [slacRun_succ_of_ended answered]
      | some input => exact (slacRun_succ ih answered).belongsTo ih

/-! ## Every entry but the first is a retry -/

/-- The machine has neither returned nor ended the process. -/
def SlacPc.running : SlacPc → Bool
  | .returned _ | .exited => false
  | _ => true

/-- The counter has counted every entry after the first one. -/
structure EntriesCounted (config : SlacConfig) (sequRetry : UInt8)
    (entries : ℕ) (session : SlacState) : Prop where
  bounded : entries ≤ config.numRetries + 1
  counted : session.pc.running →
    entries + sequRetry.toNat = session.sequRetry.toNat + 1

theorem UInt8.toNat_succ_of_ne {counter : UInt8} (notLast : counter ≠ 255) :
    (counter + 1).toNat = counter.toNat + 1 := by
  have small : counter.toNat ≠ 255 := fun equal =>
    notLast (UInt8.toNat_inj.mp equal)
  have bound := counter.toNat_lt
  rw [UInt8.toNat_add]
  simp only [UInt8.toNat_one]
  omega

theorem toNat_of_counted_retry {session after : SlacState}
    {initTime now : ℤ} (counts : countsAttempt config session (.clock now))
    (atPc : session.pc = .paramTimer initTime)
    (expired : config.timeoutSec ≤ now - initTime)
    (left : session.sequRetry.toNat < config.numRetries)
    (incremented : after.sequRetry = session.sequRetry + 1) :
    after.sequRetry.toNat = session.sequRetry.toNat + 1 := by
  rw [incremented]
  apply UInt8.toNat_succ_of_ne
  intro last
  rw [last, show (255 : UInt8).toNat = 255 from rfl] at left
  simp [countsAttempt, atPc, last] at counts
  omega

theorem EntriesCounted.move {session after : SlacState} {input : SlacInput}
    {entries : ℕ} (before : EntriesCounted config sequRetry entries session)
    (counts : countsAttempt config session input)
    (move : SlacMove device config session after input) :
    EntriesCounted config sequRetry
      (entries + if after.pc = .startTimer then 1 else 0) after := by
  obtain ⟨bounded, counted⟩ := before
  cases move with
  | @retry initTime now atPc expired left toPc incremented =>
      have next :=
        toNat_of_counted_retry counts atPc expired left incremented
      have total := counted (by rw [atPc]; rfl)
      rw [if_pos toPc]
      constructor <;> omega
  | exchangeFails atPc => simp [countsAttempt, atPc] at counts
  | matched atPc toPc kept =>
      cases device <;> constructor <;>
        simp_all [SlacPc.running, SlacDevice.joinPc]
  | _ atPc => constructor <;> simp_all [SlacPc.running]

theorem slacEntries_succ (run : ℕ → SlacState) (moment : ℕ) :
    slacEntries run (moment + 1) = slacEntries run moment +
      if (run (moment + 1)).pc = .startTimer then 1 else 0 :=
  Nat.count_succ _ _

theorem slacRun_entriesCounted (nonneg : 0 ≤ config.numRetries)
    (attempts : AttemptsCounted config outcomes
      (slacRun device config sequRetry outcomes)) (moment : ℕ) :
    EntriesCounted config sequRetry
      (slacEntries (slacRun device config sequRetry outcomes) moment)
      (slacRun device config sequRetry outcomes moment) := by
  induction moment with
  | zero =>
      have first : slacEntries (slacRun device config sequRetry outcomes) 0 =
          1 := by simp [slacEntries, Nat.count_succ, slacRun_zero.1]
      rw [first]
      refine ⟨by omega, fun _ => ?_⟩
      rw [slacRun_zero.2]
      omega
  | succ moment ih =>
      rw [slacEntries_succ]
      cases answered : (slacRun device config sequRetry outcomes
          moment).pc.answer outcomes moment with
      | none =>
          have notStart : (slacRun device config sequRetry outcomes
              moment).pc ≠ .startTimer := by
            intro atPc
            rw [atPc] at answered
            cases answered
          rw [slacRun_succ_of_ended answered, if_neg notStart]
          exact ih
      | some input =>
          exact ih.move (attempts.counts moment input answered)
            (slacRun_succ (slacRun_belongsTo moment) answered)

/-! ## Every run returns -/

/-- The machine is at a place at a moment of its run. -/
def SlacAt (run : ℕ → SlacState) (pc : SlacPc) (moment : ℕ) : Prop :=
  (run moment).pc = pc

def SlacReturned (run : ℕ → SlacState) (moment : ℕ) : Prop :=
  ∃ result, (run moment).pc = .returned result

theorem SlacAt.move {pc : SlacPc} {moment : ℕ} {input : SlacInput}
    (atPc : SlacAt (slacRun device config sequRetry outcomes) pc moment)
    (answered : pc.answer outcomes moment = some input) :
    SlacMove device config (slacRun device config sequRetry outcomes moment)
      (slacRun device config sequRetry outcomes (moment + 1)) input := by
  apply slacRun_succ (slacRun_belongsTo moment)
  rwa [show (slacRun device config sequRetry outcomes moment).pc = pc
    from atPc]

theorem leadsTo_returned_of_pevNetInfo
    (attempts : AttemptsCounted config outcomes
      (slacRun device config sequRetry outcomes)) :
    LeadsTo (SlacAt (slacRun device config sequRetry outcomes) .pevNetInfo)
      (SlacReturned (slacRun device config sequRetry outcomes)) := by
  intro moment atPc
  obtain ⟨joined, laterThan, found⟩ := attempts.joins moment atPc
  have waits : LeadsTo
      (fun round => round ≤ joined ∧
        SlacAt (slacRun device config sequRetry outcomes) .pevNetInfo round)
      (SlacReturned (slacRun device config sequRetry outcomes)) := by
    apply LeadsTo.of_deadline joined
    rintro round ⟨early, atPc⟩
    refine ⟨round + 1, round.lt_succ_self, ?_⟩
    have move := atPc.move rfl
    generalize answer : outcomes.zero round = zero at move
    cases move with
    | pevNotJoined _ toPc =>
        have notYet : round ≠ joined := by
          intro now
          rw [now, found] at answer
          cases answer
        exact .inr ⟨⟨by omega, toPc⟩, by omega⟩
    | pevJoined _ toPc => exact .inl ⟨_, toPc⟩
    | _ otherPc => cases otherPc.symm.trans atPc
  exact waits moment ⟨laterThan, atPc⟩

theorem leadsTo_returned_of_setKey
    (attempts : AttemptsCounted config outcomes
      (slacRun device config sequRetry outcomes)) :
    LeadsTo (SlacAt (slacRun device config sequRetry outcomes) .setKey)
      (SlacReturned (slacRun device config sequRetry outcomes)) := by
  intro moment atPc
  have move := atPc.move rfl
  generalize outcomes.zero moment = zero at move
  cases move with
  | keySet _ toPc => exact (leadsTo_returned_of_pevNetInfo attempts).next toPc
  | keyRefused _ toPc => exact ⟨moment + 1, by omega, _, toPc⟩
  | _ otherPc => cases otherPc.symm.trans atPc

theorem SlacOutcomes.exists_deadline (outcomes : SlacOutcomes)
    (initTime timeout : ℤ) : ∃ deadline, ∀ moment,
      outcomes.time moment - initTime < timeout → moment < deadline := by
  obtain ⟨deadline, reached⟩ := outcomes.unbounded (initTime + timeout)
  refine ⟨deadline, fun moment early => ?_⟩
  by_contra late
  have advanced := outcomes.advances (Nat.le_of_not_lt late)
  omega

theorem leadsTo_returned_of_netInfo (initTime : ℤ) :
    LeadsTo (SlacAt (slacRun device config sequRetry outcomes)
        (.netInfo initTime))
      (SlacReturned (slacRun device config sequRetry outcomes)) := by
  obtain ⟨deadline, expires⟩ :=
    outcomes.exists_deadline initTime config.timeoutSec
  apply LeadsTo.of_deadline deadline
  intro moment atPc
  have move := atPc.move rfl
  generalize outcomes.zero moment = zero at move
  cases move with
  | joined _ toPc => exact ⟨moment + 1, by omega, .inl ⟨_, toPc⟩⟩
  | @notJoined started samePc toPc =>
      obtain rfl := SlacPc.netInfo.inj (samePc.symm.trans atPc)
      refine ⟨moment + 2, by omega, ?_⟩
      have timer : SlacAt (slacRun device config sequRetry outcomes)
          (.netInfoTimer started) (moment + 1) := toPc
      cases timer.move rfl with
      | joinExpired _ _ toPc => exact .inl ⟨_, toPc⟩
      | @joinAgain _ _ samePc early again =>
          obtain rfl := SlacPc.netInfoTimer.inj (samePc.symm.trans timer)
          have := expires (moment + 1) early
          exact .inr ⟨again, by omega⟩
      | _ otherPc => cases otherPc.symm.trans timer
  | _ otherPc => cases otherPc.symm.trans atPc

theorem leadsTo_returned_of_startJoin :
    LeadsTo (SlacAt (slacRun device config sequRetry outcomes) .startJoin)
      (SlacReturned (slacRun device config sequRetry outcomes)) := by
  intro moment atPc
  cases atPc.move rfl with
  | join _ toPc => exact (leadsTo_returned_of_netInfo _).next toPc
  | _ otherPc => cases otherPc.symm.trans atPc

/-- The calls of the unmatched state that are still to come. -/
def SlacPc.exchangesLeft : SlacPc → ℕ
  | .exchange .cmStartAttenChar => 4
  | .exchange .cmMnbcSound => 3
  | .exchange .cmAttenChar => 2
  | .exchange .slacConnect => 1
  | _ => 0

theorem exchangesLeft_lt {call next : SlacExchange}
    (follows : device.nextExchange call = some next) :
    SlacPc.exchangesLeft (.exchange next) <
      SlacPc.exchangesLeft (.exchange call) := by
  cases device <;> cases call <;> cases follows <;> decide

theorem leadsTo_returned_of_exchange
    (attempts : AttemptsCounted config outcomes
      (slacRun device config sequRetry outcomes)) :
    LeadsTo
      (fun moment => ∃ call, SlacAt
        (slacRun device config sequRetry outcomes) (.exchange call) moment)
      (SlacReturned (slacRun device config sequRetry outcomes)) := by
  apply LeadsTo.of_measure fun moment =>
    (slacRun device config sequRetry outcomes moment).pc.exchangesLeft
  rintro moment ⟨call, atPc⟩
  have isPc : (slacRun device config sequRetry outcomes moment).pc =
      .exchange call := atPc
  have counts := attempts.counts moment _ (by rw [isPc]; rfl)
  have move := atPc.move rfl
  generalize outcomes.zero moment = zero at counts move
  cases move with
  | @exchange _ next samePc follows toPc =>
      obtain rfl := SlacPc.exchange.inj (samePc.symm.trans atPc)
      refine ⟨moment + 1, by omega, .inr ⟨⟨next, toPc⟩, ?_⟩⟩
      rw [isPc, toPc]
      exact exchangesLeft_lt follows
  | matched _ toPc =>
      have afterwards : LeadsTo
          (SlacAt (slacRun device config sequRetry outcomes) device.joinPc)
          (SlacReturned (slacRun device config sequRetry outcomes)) := by
        cases device with
        | evse => exact leadsTo_returned_of_startJoin
        | pev => exact leadsTo_returned_of_setKey attempts
      obtain ⟨later, laterThan, returned⟩ := afterwards.next toPc
      exact ⟨later, laterThan, .inl returned⟩
  | exchangeFails => simp [countsAttempt, isPc] at counts
  | _ otherPc => cases otherPc.symm.trans atPc

/-- What a parameter exchange leads to: the unmatched state, the end, or one
more attempt. -/
structure SlacRetried (config : SlacConfig) (run : ℕ → SlacState)
    (used : UInt8) (moment : ℕ) : Prop where
  atPc : SlacAt run .startTimer moment
  counted : (run moment).sequRetry.toNat = used.toNat + 1
  left : used.toNat < config.numRetries

theorem leadsTo_of_param
    (attempts : AttemptsCounted config outcomes
      (slacRun device config sequRetry outcomes))
    (initTime : ℤ) (used : UInt8) :
    LeadsTo
      (fun moment => SlacAt (slacRun device config sequRetry outcomes)
          (.param initTime) moment ∧
        (slacRun device config sequRetry outcomes moment).sequRetry = used)
      (fun moment =>
        (∃ call, SlacAt (slacRun device config sequRetry outcomes)
          (.exchange call) moment) ∨
        SlacReturned (slacRun device config sequRetry outcomes) moment ∨
        SlacRetried config (slacRun device config sequRetry outcomes) used
          moment) := by
  obtain ⟨deadline, expires⟩ :=
    outcomes.exists_deadline initTime config.timeoutSec
  apply LeadsTo.of_deadline deadline
  rintro moment ⟨atPc, usedEq⟩
  have move := atPc.move rfl
  generalize outcomes.zero moment = zero at move
  cases move with
  | paramAnswered _ toPc =>
      exact ⟨moment + 1, by omega, .inl (.inl ⟨_, toPc⟩)⟩
  | @paramSilent started samePc toPc kept =>
      obtain rfl := SlacPc.param.inj (samePc.symm.trans atPc)
      refine ⟨moment + 2, by omega, ?_⟩
      have timer : SlacAt (slacRun device config sequRetry outcomes)
          (.paramTimer started) (moment + 1) := toPc
      rw [usedEq] at kept
      cases timer.move rfl with
      | @paramAgain _ _ samePc early again keptAgain =>
          obtain rfl := SlacPc.paramTimer.inj (samePc.symm.trans timer)
          have := expires (moment + 1) early
          exact .inr ⟨⟨again, keptAgain.trans kept⟩, by omega⟩
      | retry samePc expired left toPc incremented =>
          have counts := attempts.counts (moment + 1) _ (by rw [samePc]; rfl)
          have counted := toNat_of_counted_retry counts samePc expired left
            incremented
          rw [kept] at left counted
          exact .inl (.inr (.inr ⟨toPc, counted, left⟩))
      | giveUp _ expired _ toPc => exact .inl (.inr (.inl ⟨1, toPc⟩))
      | _ otherPc => cases otherPc.symm.trans timer
  | _ otherPc => cases otherPc.symm.trans atPc

theorem leadsTo_returned_of_startTimer
    (attempts : AttemptsCounted config outcomes
      (slacRun device config sequRetry outcomes)) :
    LeadsTo (SlacAt (slacRun device config sequRetry outcomes) .startTimer)
      (SlacReturned (slacRun device config sequRetry outcomes)) := by
  apply LeadsTo.of_measure fun moment => (config.numRetries -
    (slacRun device config sequRetry outcomes moment).sequRetry.toNat).toNat
  intro moment atPc
  cases atPc.move rfl with
  | start _ toPc kept =>
      obtain ⟨later, laterThan, exchange | returned | retried⟩ :=
        leadsTo_of_param attempts _ _ (moment + 1) ⟨toPc, kept⟩
      · obtain ⟨last, lastLater, returned⟩ :=
          leadsTo_returned_of_exchange attempts later exchange
        exact ⟨last, by omega, .inl returned⟩
      · exact ⟨later, by omega, .inl returned⟩
      · refine ⟨later, by omega, .inr ⟨retried.atPc, ?_⟩⟩
        have counted := retried.counted
        have left := retried.left
        omega
  | _ otherPc => cases otherPc.symm.trans atPc

end Runs

/-- If every attempt that fails fails in the parameter exchange, the counter
does not wrap and a PEV that waits for its network finds it, then both machines
return after at most `num_retries + 1` entries. -/
theorem slacRun_boundedRetries (device : SlacDevice) (config : SlacConfig)
    (sequRetry : UInt8) (outcomes : SlacOutcomes)
    (nonneg : 0 ≤ config.numRetries)
    (attempts : AttemptsCounted config outcomes
      (slacRun device config sequRetry outcomes)) :
    BoundedRetries config (slacRun device config sequRetry outcomes) := by
  refine ⟨?_, fun moment =>
    (slacRun_entriesCounted nonneg attempts moment).bounded⟩
  obtain ⟨moment, -, returned⟩ :=
    leadsTo_returned_of_startTimer attempts 0 slacRun_zero.1
  exact ⟨moment, returned⟩

/-- Outcomes over a clock that counts the moments. -/
def steadyOutcomes (zero : ℕ → Bool) : SlacOutcomes where
  zero := zero
  time := Nat.cast
  advances := Int.ofNat_le.mpr
  unbounded bound := ⟨bound.toNat, Int.self_le_toNat bound⟩

@[simp] theorem steadyOutcomes_zero (zero : ℕ → Bool) :
    (steadyOutcomes zero).zero = zero :=
  rfl

/-- A run that is over has been checked as far as it goes. -/
theorem AttemptsCounted.of_returned {device : SlacDevice} {config : SlacConfig}
    {sequRetry : UInt8} {outcomes : SlacOutcomes} {last : ℕ}
    (returned : SlacReturned (slacRun device config sequRetry outcomes) last)
    (counts : ∀ moment < last,
      ((slacRun device config sequRetry outcomes moment).pc.answer outcomes
        moment).all
          (countsAttempt config
            (slacRun device config sequRetry outcomes moment)) = true)
    (joins : ∀ moment, ∃ later, moment ≤ later ∧ outcomes.zero later = true) :
    AttemptsCounted config outcomes
      (slacRun device config sequRetry outcomes) := by
  obtain ⟨result, returned⟩ := returned
  have ended (more : ℕ) :
      (slacRun device config sequRetry outcomes (last + more)).pc.answer
        outcomes (last + more) = none := by
    have stays : slacRun device config sequRetry outcomes (last + more) =
        slacRun device config sequRetry outcomes last := by
      induction more with
      | zero => rfl
      | succ more ih =>
          have isOver : (slacRun device config sequRetry outcomes
              (last + more)).pc.answer outcomes (last + more) = none := by
            rw [ih, returned]
            rfl
          exact (slacRun_succ_of_ended isOver).trans ih
    rw [stays, returned]
    rfl
  refine ⟨fun moment input answered => ?_, fun moment _ => joins moment⟩
  rcases Nat.lt_or_ge moment last with early | late
  · have counted := counts moment early
    rwa [answered] at counted
  · obtain ⟨more, rfl⟩ := Nat.exists_eq_add_of_le late
    rw [ended more] at answered
    cases answered

/-- Nobody answers before the third attempt, and the network takes ten moments
more than the match. -/
def lateAnswers : SlacOutcomes :=
  steadyOutcomes fun moment => 43 ≤ moment ∧ (moment < 50 ∨ 60 ≤ moment)

/-- A PEV whose first two attempts time out, and that then has to wait for its
network. -/
theorem slacRun_boundedRetries_lateAnswers :
    BoundedRetries ⟨20, 10⟩ (slacRun .pev ⟨20, 10⟩ 0 lateAnswers) ∧
      slacEntries (slacRun .pev ⟨20, 10⟩ 0 lateAnswers) 61 = 3 ∧
      (slacRun .pev ⟨20, 10⟩ 0 lateAnswers 60).pc = .pevNetInfo ∧
      (slacRun .pev ⟨20, 10⟩ 0 lateAnswers 61).pc = .returned 0 := by
  refine ⟨slacRun_boundedRetries .pev ⟨20, 10⟩ 0 lateAnswers (by decide) ?_,
    by decide +kernel, by decide +kernel, by decide +kernel⟩
  have returned : SlacReturned (slacRun .pev ⟨20, 10⟩ 0 lateAnswers) 61 :=
    ⟨0, by decide +kernel⟩
  refine .of_returned returned (by decide +kernel) fun moment => ?_
  exact ⟨moment + 60, by omega, by simp [lateAnswers]⟩

/-- The parameter exchange always succeeds, and the call after it always
fails. -/
def failingSounding : SlacOutcomes :=
  steadyOutcomes fun moment => moment % 3 = 1

theorem failingSounding_attempt {moment : ℕ} (first : moment % 3 = 0)
    (atPc : SlacAt (slacRun .evse ⟨20, 10⟩ 0 failingSounding) .startTimer
      moment) :
    ∃ initTime,
      SlacAt (slacRun .evse ⟨20, 10⟩ 0 failingSounding) (.param initTime)
        (moment + 1) ∧
      SlacAt (slacRun .evse ⟨20, 10⟩ 0 failingSounding)
        (.exchange .cmStartAttenChar) (moment + 2) := by
  cases atPc.move rfl with
  | start _ toPc =>
      refine ⟨_, toPc, ?_⟩
      have param : SlacAt (slacRun .evse ⟨20, 10⟩ 0 failingSounding)
        (.param (failingSounding.time moment)) (moment + 1) := toPc
      have move := param.move rfl
      rw [show failingSounding.zero (moment + 1) = true by
        simp [failingSounding]; omega] at move
      cases move with
      | paramAnswered _ toPc => exact toPc
      | _ otherPc => cases otherPc.symm.trans param
  | _ otherPc => cases otherPc.symm.trans atPc

theorem slacRun_failingSounding (round : ℕ) :
    SlacAt (slacRun .evse ⟨20, 10⟩ 0 failingSounding) .startTimer
      (3 * round) := by
  induction round with
  | zero => exact slacRun_zero.1
  | succ round ih =>
      obtain ⟨initTime, -, exchange⟩ := failingSounding_attempt (by omega) ih
      have move := exchange.move rfl
      rw [show failingSounding.zero (3 * round + 2) = false by
        simp [failingSounding]] at move
      cases move with
      | exchangeFails _ toPc => exact toPc
      | _ otherPc => cases otherPc.symm.trans exchange

/-- An EVSE of which `evse_cm_slac_param` always succeeds and
`evse_cm_start_atten_char` always fails never returns. -/
theorem slacRun_not_boundedRetries :
    ¬ BoundedRetries ⟨20, 10⟩
      (slacRun .evse ⟨20, 10⟩ 0 failingSounding) := by
  intro bounded
  obtain ⟨moment, result, returned⟩ := bounded.returns
  have starts := slacRun_failingSounding (moment / 3)
  obtain ⟨initTime, param, exchange⟩ :=
    failingSounding_attempt (by omega) starts
  have position : moment = 3 * (moment / 3) ∨
      moment = 3 * (moment / 3) + 1 ∨ moment = 3 * (moment / 3) + 2 := by omega
  rcases position with at0 | at1 | at2
  · rw [at0] at returned
    cases returned.symm.trans starts
  · rw [at1] at returned
    cases returned.symm.trans param
  · rw [at2] at returned
    cases returned.symm.trans exchange

end OpenRTH
