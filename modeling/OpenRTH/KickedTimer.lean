import OpenRTH.OneShotTimer
import OpenRTH.TransitionRuns

/-!
# One-shot timers that are kicked

Runs of arbitrary operations on a `OneShot`, with readings that do not go back.
Beside the timer runs a history that forgets a kick when the timer is started
again.  The code does not: `start` is inherited from `msTimer` and leaves
`m_is_kicked` as it is, so timer and history agree as long as no start finds a
kick pending.
-/

namespace OpenRTH

/-- `msTimer::stop`. -/
def OneShot.stop (timer : OneShot) : OneShot :=
  { timer with isRunning := false }

/-- `OneShot::kick`. -/
def OneShot.kick (timer : OneShot) : OneShot :=
  { timer with isKicked := true }

theorem OneShot.isExpired_of_kicked {timer : OneShot}
    (running : timer.isRunning = true) (kicked : timer.isKicked = true)
    (now : UInt64) :
    timer.isExpired now =
      ({ timer with isKicked := false, startTime := now }, false) := by
  simp [OneShot.isExpired, running, kicked]

/-! ## The history of a timer -/

/-- What the expiry of a timer depends on: whether it runs, whether it has been
kicked since the last start or poll, and the later of the last start and the
last poll that consumed a kick issued after that start. -/
structure KickHistory where
  running : Bool
  pending : Bool
  since : UInt64
  durationMs : UInt64
  deriving DecidableEq

/-- The timer is expired at a reading. -/
def KickHistory.Due (history : KickHistory) (now : UInt64) : Prop :=
  history.running = true ∧ history.pending = false ∧
    history.since.toNat + history.durationMs.toNat ≤ now.toNat

instance (history : KickHistory) (now : UInt64) :
    Decidable (history.Due now) :=
  inferInstanceAs (Decidable (_ ∧ _))

/-- What a poll leaves behind: an expired timer is stopped, and a kick is
consumed by a running timer only. -/
def KickHistory.poll (history : KickHistory) (now : UInt64) : KickHistory :=
  { history with
    running := history.running && !decide (history.Due now)
    pending := false
    since :=
      if history.running && history.pending then now else history.since }

/-- The calls made on a timer, with the readings of `millis`. -/
inductive TimerOperation
  | start (durationMs now : UInt64)
  | stop
  | kick
  | poll (now : UInt64)

/-- A timer, its history and the last reading. -/
structure KickedRun where
  timer : OneShot
  history : KickHistory
  clock : UInt64

/-- One operation; a reading behind the last one is not possible. -/
def kickedStep (run : KickedRun) : TimerOperation → Option KickedRun
  | .start durationMs now =>
      if run.clock.toNat ≤ now.toNat then
        some
          { timer := run.timer.start durationMs now
            history := ⟨true, false, now, durationMs⟩
            clock := now }
      else none
  | .stop =>
      some
        { run with
          timer := run.timer.stop
          history := { run.history with running := false } }
  | .kick =>
      some
        { run with
          timer := run.timer.kick
          history := { run.history with pending := true } }
  | .poll now =>
      if run.clock.toNat ≤ now.toNat then
        some
          { timer := (run.timer.isExpired now).1
            history := run.history.poll now
            clock := now }
      else none

/-- The runs of a timer from its constructor on, which leaves `m_start_time` and
`m_duration_ms` as they are. -/
def kickedTimer (startTime durationMs : UInt64) :
    TransitionSystem KickedRun TimerOperation where
  initial :=
    { timer := ⟨⟨startTime, durationMs, false⟩, false⟩
      history := ⟨false, false, startTime, durationMs⟩
      clock := 0 }
  step := kickedStep

/-- Every poll that can come next returns whether the timer is due. -/
def AnswersDue (run : KickedRun) : Prop :=
  ∀ now : UInt64, run.clock.toNat ≤ now.toNat →
    ((run.timer.isExpired now).2 = true ↔ run.history.Due now)

/-- A timer is not started while a kick is pending in it. -/
def StartsUnkicked (run : KickedRun) : TimerOperation → Prop
  | .start _ _ => run.timer.isKicked = false
  | _ => True

instance (run : KickedRun) (operation : TimerOperation) :
    Decidable (StartsUnkicked run operation) :=
  match operation with
  | .start _ _ => inferInstanceAs (Decidable (_ = _))
  | .stop | .kick | .poll _ => inferInstanceAs (Decidable True)

/-! ## When timer and history agree -/

/-- The timer that holds what its history says. -/
def KickHistory.timer (history : KickHistory) : OneShot :=
  ⟨⟨history.since, history.durationMs, history.running⟩, history.pending⟩

/-- A poll of such a timer, while it runs. -/
theorem KickHistory.timer_isExpired {history : KickHistory} {now : UInt64}
    (running : history.running = true)
    (reached : history.since.toNat ≤ now.toNat) :
    history.timer.isExpired now =
      ((history.poll now).timer, decide (history.Due now)) := by
  have elapsed : history.durationMs ≤ now - history.since ↔
      history.since.toNat + history.durationMs.toNat ≤ now.toNat :=
    (le_elapsed_iff _ _ _).trans
      (or_iff_left fun behind => absurd behind.1 (by omega))
  cases pending : history.pending with
  | true =>
      have notDue : ¬ history.Due now := fun due =>
        Bool.noConfusion (pending.symm.trans due.2.1)
      rw [OneShot.isExpired_of_kicked running pending]
      simp [KickHistory.timer, KickHistory.poll, running, pending, notDue]
  | false =>
      have due : history.Due now ↔
          history.durationMs ≤ now - history.since := by
        rw [elapsed, KickHistory.Due, running, pending]
        simp
      rw [OneShot.isExpired_of_unkicked running pending]
      simp [KickHistory.timer, KickHistory.poll, running, pending, due]

/-- A timer that runs holds what its history says. -/
structure KickedRun.Agrees (run : KickedRun) : Prop where
  running : run.timer.isRunning = run.history.running
  timer : run.history.running = true → run.timer = run.history.timer
  reached : run.history.running = true →
    run.history.since.toNat ≤ run.clock.toNat

theorem KickedRun.Agrees.answersDue {run : KickedRun} (agrees : run.Agrees) :
    AnswersDue run := by
  intro now later
  cases running : run.history.running with
  | false =>
      rw [OneShot.isExpired_of_stopped (agrees.running.trans running)]
      simp [KickHistory.Due, running]
  | true =>
      have reached := agrees.reached running
      rw [agrees.timer running, KickHistory.timer_isExpired running (by omega)]
      exact decide_eq_true_iff

/-- Agreement is kept by every operation but a start that finds a kick
pending. -/
theorem KickedRun.Agrees.step {run after : KickedRun}
    {operation : TimerOperation} (agrees : run.Agrees)
    (allowed : StartsUnkicked run operation)
    (step : kickedStep run operation = some after) : after.Agrees := by
  cases operation with
  | start durationMs now =>
      simp only [kickedStep] at step
      split_ifs at step with later
      obtain rfl := Option.some.inj step
      have unkicked : run.timer.isKicked = false := allowed
      refine ⟨rfl, fun _ => ?_, fun _ => Nat.le_refl _⟩
      simp [OneShot.start, KickHistory.timer, unkicked]
  | stop =>
      obtain rfl := Option.some.inj step
      exact ⟨rfl, nofun, nofun⟩
  | kick =>
      obtain rfl := Option.some.inj step
      refine ⟨agrees.running, fun running => ?_, agrees.reached⟩
      dsimp only
      rw [agrees.timer running]
      rfl
  | poll now =>
      simp only [kickedStep] at step
      split_ifs at step with later
      obtain rfl := Option.some.inj step
      cases running : run.history.running with
      | false =>
          rw [OneShot.isExpired_of_stopped (agrees.running.trans running)]
          refine ⟨?_, ?_, ?_⟩ <;> simp [KickHistory.poll, running]
          exact agrees.running.trans running
      | true =>
          have reached := agrees.reached running
          rw [agrees.timer running,
            KickHistory.timer_isExpired running (by omega)]
          refine ⟨rfl, fun _ => rfl, fun _ => ?_⟩
          simp only [KickHistory.poll]
          split_ifs
          · exact Nat.le_refl _
          · omega

/-- A timer started while a kick is pending in it does not answer when it is
due, if the clock can show that time at all. -/
theorem not_answersDue_start {run after : KickedRun}
    (kicked : run.timer.isKicked = true) {durationMs now : UInt64}
    (step : kickedStep run (.start durationMs now) = some after)
    (fits : now.toNat + durationMs.toNat < 2 ^ 64) : ¬ AnswersDue after := by
  intro answers
  simp only [kickedStep] at step
  split_ifs at step
  obtain rfl := Option.some.inj step
  have expiry : (now + durationMs).toNat = now.toNat + durationMs.toNat := by
    rw [UInt64.toNat_add, Nat.mod_eq_of_lt fits]
  have fires := (answers (now + durationMs)
    (by rw [expiry]; exact Nat.le_add_right _ _)).mpr
      ⟨rfl, rfl, by rw [expiry]⟩
  have pending : (run.timer.start durationMs now).isKicked = true := kicked
  rw [OneShot.isExpired_of_kicked rfl pending] at fires
  exact Bool.noConfusion fires

/-- As long as no start finds a kick pending, every poll returns whether the
timer is due; a start that does find one makes some poll of any run answer
wrongly. -/
theorem kickedTimer_answersDue (startTime durationMs : UInt64) :
    (∀ run, (kickedTimer startTime durationMs).Reaches StartsUnkicked run →
      AnswersDue run) ∧
    ∀ run, (kickedTimer startTime durationMs).Reachable run →
      ∀ duration now after,
        kickedStep run (.start duration now) = some after →
        ¬ StartsUnkicked run (.start duration now) →
        now.toNat + duration.toNat < 2 ^ 64 → ¬ AnswersDue after := by
  constructor
  · intro run reaches
    have agrees : run.Agrees :=
      reaches.invariant ⟨rfl, nofun, nofun⟩
        fun before allowed step => before.step allowed step
    exact agrees.answersDue
  · intro run _ duration now after step stale fits
    exact not_answersDue_start (eq_true_of_ne_false stale) step fits

/-- A timer that is kicked after its start, so that the first poll restarts
it. -/
def kickAfterStart : List TimerOperation :=
  [.start 1000 5000, .kick, .poll 5500]

theorem kickedTimer_answersDue_restarted :
    ∃ run, (kickedTimer 0 0).Reaches StartsUnkicked run ∧ AnswersDue run ∧
      ¬ run.history.Due 6000 ∧ run.history.Due 6500 := by
  obtain ⟨run, reaches, restarted⟩ :=
    TransitionSystem.exists_reaches_of_follow (kickedTimer 0 0) StartsUnkicked
      kickAfterStart
      (fun run => ¬ run.history.Due 6000 ∧ run.history.Due 6500) (by decide)
  exact ⟨run, reaches, (kickedTimer_answersDue 0 0).1 run reaches,
    of_decide_eq_true restarted⟩

/-- A timer that is kicked before its start. -/
theorem kickedTimer_not_answersDue :
    ∃ run, (kickedTimer 0 0).Reachable run ∧ ¬ AnswersDue run := by
  obtain ⟨run, reaches, stale⟩ :=
    TransitionSystem.exists_reaches_of_follow (kickedTimer 0 0)
      (fun _ _ => True) [.kick, .start 1000 5000]
      (fun run => run.clock = 5000 ∧ run.history.Due 6000 ∧
        (run.timer.isExpired 6000).2 = false) (by decide)
  obtain ⟨clock, due, silent⟩ := of_decide_eq_true stale
  refine ⟨run, reaches, fun answers => ?_⟩
  have fires := (answers 6000 (by rw [clock]; decide)).mpr due
  exact Bool.noConfusion (silent.symm.trans fires)

end OpenRTH
