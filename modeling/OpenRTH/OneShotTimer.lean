import Mathlib.Algebra.Ring.Nat
import OpenRTH.StreamTransducer

/-!
# One-shot timers

`msTimer` and `OneShot` over the readings of `millis`, which is the time of
day: nothing is assumed about the order of the readings.  A poll of a running
timer subtracts the reading at the start, modulo `2 ^ 64`.

The polls of a timer that is not kicked are those of a latch, from which
follows at which sequences of readings it answers too early.
-/

namespace OpenRTH

/-! ## The timers of `mstimer.cpp` -/

/-- `struct timeval`, as `gettimeofday` fills it. -/
structure Timeval where
  tvSec : Int64
  tvUsec : Int64
  deriving DecidableEq

/-- `msTimer`. -/
structure MsTimer where
  startTime : UInt64
  durationMs : UInt64
  isRunning : Bool
  deriving DecidableEq

/-- `OneShot`. -/
structure OneShot extends MsTimer where
  isKicked : Bool
  deriving DecidableEq

/-- `msTimer::millis`. -/
def millis (ts : Timeval) : UInt64 :=
  ts.tvSec.toUInt64 * 1000 + ts.tvUsec.toUInt64 / 1000

/-- `msTimer::start`, where `now` is what `millis` returns. -/
def OneShot.start (timer : OneShot) (durationMs now : UInt64) : OneShot :=
  { timer with durationMs := durationMs, startTime := now, isRunning := true }

/-- `OneShot::is_expired`. -/
def OneShot.isExpired (timer : OneShot) (now : UInt64) : OneShot × Bool :=
  if !timer.isRunning then (timer, false)
  else if timer.isKicked then
    ({ timer with isKicked := false, startTime := now }, false)
  else
    let elapsed := now - timer.startTime
    let isRunning := decide (elapsed < timer.durationMs)
    ({ timer with isRunning := isRunning }, !isRunning)

theorem OneShot.isExpired_of_stopped {timer : OneShot}
    (stopped : timer.isRunning = false) (now : UInt64) :
    timer.isExpired now = (timer, false) := by
  simp [OneShot.isExpired, stopped]

theorem OneShot.isExpired_of_unkicked {timer : OneShot}
    (running : timer.isRunning = true) (unkicked : timer.isKicked = false)
    (now : UInt64) :
    timer.isExpired now =
      ({ timer with
          isRunning := !decide (timer.durationMs ≤ now - timer.startTime) },
        decide (timer.durationMs ≤ now - timer.startTime)) := by
  simp [OneShot.isExpired, running, unkicked, ← UInt64.not_le]

/-- A timer that is polled at one reading after the other. -/
def oneShotPolls : StreamTransducer OneShot UInt64 Bool where
  step timer now := ((timer.isExpired now).1, [(timer.isExpired now).2])

/-- What the polls of a timer return. -/
def OneShot.answers (timer : OneShot) (readings : List UInt64) : List Bool :=
  (oneShotPolls.run timer readings).2

/-- No poll whose reading is less than the reading at the start plus the
duration returns `true`. -/
def NeverEarly (start durationMs : UInt64) (readings : List UInt64)
    (answers : List Bool) : Prop :=
  ∀ poll ∈ readings.zip answers,
    poll.1.toNat < start.toNat + durationMs.toNat → poll.2 = false

/-- The clock has gone back behind the start, by no more than `2 ^ 64` less
the duration. -/
def BehindStart (start durationMs reading : UInt64) : Prop :=
  reading.toNat < start.toNat ∧
    start.toNat + durationMs.toNat ≤ reading.toNat + 2 ^ 64

/-- Each reading behind the start comes after one at which the duration has
passed. -/
def ExpiresBeforeStep (start durationMs : UInt64) (readings : List UInt64) :
    Prop :=
  ∀ before reading after, readings = before ++ reading :: after →
    BehindStart start durationMs reading →
    ∃ earlier ∈ before, start.toNat + durationMs.toNat ≤ earlier.toNat

theorem le_elapsed_iff (start durationMs reading : UInt64) :
    durationMs ≤ reading - start ↔
      start.toNat + durationMs.toNat ≤ reading.toNat ∨
        BehindStart start durationMs reading := by
  rw [UInt64.le_iff_toNat_le, UInt64.toNat_sub, BehindStart]
  have := start.toNat_lt
  have := reading.toNat_lt
  have := durationMs.toNat_lt
  omega

/-- A timer that was started at `start` and has not been kicked since, as a
latch that is armed or not. -/
structure OneShot.StartedAt (start durationMs : UInt64) (timer : OneShot)
    (armed : Bool) : Prop where
  running : timer.isRunning = armed
  unkicked : timer.isKicked = false
  startTime : timer.startTime = start
  duration : timer.durationMs = durationMs

/-- The latch of a started timer. -/
def expiryLatch (start durationMs : UInt64) :
    StreamTransducer Bool UInt64 Bool :=
  .latch fun reading => decide (durationMs ≤ reading - start)

theorem OneShot.StartedAt.poll (start durationMs : UInt64) {timer : OneShot}
    {armed : Bool} (started : timer.StartedAt start durationMs armed)
    (reading : UInt64) :
    (oneShotPolls.step timer reading).1.StartedAt start durationMs
        ((expiryLatch start durationMs).step armed reading).1 ∧
      (oneShotPolls.step timer reading).2 =
        ((expiryLatch start durationMs).step armed reading).2 := by
  obtain ⟨rfl, unkicked, rfl, rfl⟩ := started
  dsimp only [oneShotPolls]
  cases running : timer.isRunning with
  | false =>
      rw [OneShot.isExpired_of_stopped running]
      exact ⟨⟨running, unkicked, rfl, rfl⟩, rfl⟩
  | true =>
      rw [OneShot.isExpired_of_unkicked running unkicked]
      exact ⟨⟨rfl, unkicked, rfl, rfl⟩, rfl⟩

theorem OneShot.startedAt_start {timer : OneShot}
    (unkicked : timer.isKicked = false) (start durationMs : UInt64) :
    (timer.start durationMs start).StartedAt start durationMs true :=
  ⟨rfl, unkicked, rfl, rfl⟩

theorem OneShot.answers_start {timer : OneShot}
    (unkicked : timer.isKicked = false) (start durationMs : UInt64)
    (readings : List UInt64) :
    (timer.start durationMs start).answers readings =
      ((expiryLatch start durationMs).run true readings).2 :=
  StreamTransducer.run_output_eq (OneShot.StartedAt start durationMs)
    (OneShot.StartedAt.poll start durationMs)
    (OneShot.startedAt_start unkicked start durationMs) readings

/-- The latch of a timer is never early exactly when the clock does not go back
behind the start before the duration has passed. -/
theorem expiryLatch_neverEarly_iff (start durationMs : UInt64)
    (readings : List UInt64) :
    NeverEarly start durationMs readings
        ((expiryLatch start durationMs).run true readings).2 ↔
      ExpiresBeforeStep start durationMs readings := by
  refine (StreamTransducer.latch_quiet_iff _ (fun reading : UInt64 =>
    reading.toNat < start.toNat + durationMs.toNat) readings).trans ?_
  simp only [decide_eq_true_eq, le_elapsed_iff, ExpiresBeforeStep]
  constructor
  · intro preceded before reading after split behind
    obtain ⟨earlier, member, fires, late⟩ := preceded before reading after
      split (.inr behind) (by have := behind.1; omega)
    exact ⟨earlier, member, by omega⟩
  · intro preceded before reading after split fires early
    obtain ⟨earlier, member, late⟩ := preceded before reading after split
      (fires.resolve_left (by omega))
    exact ⟨earlier, member, .inl late, by omega⟩

/-- A timer that is started without a pending kick never fires early exactly
when each reading that lies behind the start comes after one at which the timer
was due. -/
theorem oneShot_neverEarly_iff (timer : OneShot)
    (unkicked : timer.isKicked = false) (start durationMs : UInt64)
    (readings : List UInt64) :
    NeverEarly start durationMs readings
        ((timer.start durationMs start).answers readings) ↔
      ExpiresBeforeStep start durationMs readings := by
  rw [OneShot.answers_start unkicked]
  exact expiryLatch_neverEarly_iff start durationMs readings

/-- A clock that is set back behind the start after the timer was due. -/
theorem oneShot_neverEarly_due :
    NeverEarly 5000 90000 [95001, 4000]
      ((OneShot.start ⟨⟨0, 0, false⟩, false⟩ 90000 5000).answers
        [95001, 4000]) :=
  (oneShot_neverEarly_iff ⟨⟨0, 0, false⟩, false⟩ rfl 5000 90000
    [95001, 4000]).mpr (by
      intro before reading after split behind
      rcases before with _ | ⟨first, before⟩
      · obtain ⟨rfl, -⟩ := List.cons.inj split
        exact absurd behind.1 (by decide)
      · obtain ⟨rfl, -⟩ := List.cons.inj split
        exact ⟨95001, List.mem_cons_self, by decide⟩)

/-- A clock that is set back by a second fires the timer of 90 seconds at
once. -/
theorem oneShot_not_neverEarly :
    ¬ NeverEarly 1700000000000 90000 [1699999999000]
      ((OneShot.start ⟨⟨0, 0, false⟩, false⟩ 90000 1700000000000).answers
        [1699999999000]) := by
  intro never
  exact absurd (never (1699999999000, true) (by decide) (by decide)) (by decide)

end OpenRTH
