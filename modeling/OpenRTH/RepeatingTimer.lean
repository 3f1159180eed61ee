import OpenRTH.OneShotTimer
import Mathlib.Data.List.Chain

/-!
# The repeating timer

`msTimer` polled at readings of a clock that does not go back.  When a poll
finds the timer expired, the timer is moved on by one duration, or to the
reading where it would be overdue again.  The start time is thus never behind
the starts that have been counted, and keeps up with them exactly as long as no
two readings lie more than a duration apart.
-/

namespace OpenRTH

/-! ## The timer of `mstimer.cpp` -/

/-- `msTimer::start`, where `now` is what `millis` returns. -/
def MsTimer.start (timer : MsTimer) (durationMs now : UInt64) : MsTimer :=
  { timer with durationMs := durationMs, startTime := now, isRunning := true }

/-- `msTimer::is_expired`. -/
def MsTimer.isExpired (timer : MsTimer) (now : UInt64) : MsTimer × Bool :=
  if !timer.isRunning then (timer, false)
  else
    let elapsed := now - timer.startTime
    let expired := decide (timer.durationMs ≤ elapsed)
    if !expired then (timer, false)
    else
      let startTime := timer.startTime + timer.durationMs
      let elapsed := now - startTime
      let restart := if timer.durationMs < elapsed then now else startTime
      ({ timer with startTime := restart }, true)

/-- What the polls of a timer return. -/
def MsTimer.answers : MsTimer → List UInt64 → List Bool
  | _, [] => []
  | timer, now :: readings =>
      let poll := timer.isExpired now
      poll.2 :: poll.1.answers readings

/-- The timer after a sequence of polls. -/
def MsTimer.polled (timer : MsTimer) (readings : List UInt64) : MsTimer :=
  readings.foldl (fun timer now => (timer.isExpired now).1) timer

/-! ## One poll -/

/-- What a poll does that comes no earlier than the start time. -/
theorem MsTimer.isExpired_cases {timer : MsTimer}
    (running : timer.isRunning = true) {now : UInt64}
    (reached : timer.startTime.toNat ≤ now.toNat) :
    (now.toNat < timer.startTime.toNat + timer.durationMs.toNat ∧
        timer.isExpired now = (timer, false)) ∨
      ∃ startTime, timer.isExpired now =
          ({ timer with startTime := startTime }, true) ∧
        startTime.toNat ≤ now.toNat ∧
        timer.startTime.toNat + timer.durationMs.toNat ≤ startTime.toNat ∧
        (now.toNat ≤
            timer.startTime.toNat + timer.durationMs.toNat +
              timer.durationMs.toNat →
          startTime.toNat =
            timer.startTime.toNat + timer.durationMs.toNat) := by
  have bound := now.toNat_lt
  have elapsed : (now - timer.startTime).toNat =
      now.toNat - timer.startTime.toNat :=
    UInt64.toNat_sub_of_le _ _ (UInt64.le_iff_toNat_le.mpr reached)
  by_cases expired : timer.durationMs ≤ now - timer.startTime
  · right
    have due := UInt64.le_iff_toNat_le.mp expired
    have moved : (timer.startTime + timer.durationMs).toNat =
        timer.startTime.toNat + timer.durationMs.toNat := by
      rw [UInt64.toNat_add, Nat.mod_eq_of_lt (by omega)]
    have again : (now - (timer.startTime + timer.durationMs)).toNat =
        now.toNat - (timer.startTime + timer.durationMs).toNat :=
      UInt64.toNat_sub_of_le _ _ (UInt64.le_iff_toNat_le.mpr (by omega))
    simp only [MsTimer.isExpired, running, expired, Bool.not_true,
      Bool.false_eq_true, if_false, decide_true]
    refine ⟨_, rfl, ?_⟩
    split_ifs with overdue
    · rw [UInt64.lt_iff_toNat_lt] at overdue
      exact ⟨Nat.le_refl _, by omega, by omega⟩
    · exact ⟨by omega, by omega, fun _ => moved⟩
  · left
    have early := UInt64.lt_iff_toNat_lt.mp (UInt64.not_le.mp expired)
    refine ⟨by omega, ?_⟩
    simp [MsTimer.isExpired, running, expired]

/-! ## Counting the expirations -/

/-- A timer that was started at `start` and has expired `count` times when the
clock has reached `now`. -/
structure MsTimer.Counted (start durationMs now : UInt64) (count : ℕ)
    (timer : MsTimer) : Prop where
  running : timer.isRunning = true
  duration : timer.durationMs = durationMs
  reached : timer.startTime.toNat ≤ now.toNat
  counted : start.toNat + count * durationMs.toNat ≤ timer.startTime.toNat

/-- A timer that has skipped no period: it was last restarted exactly `count`
durations after the start, and is not yet due again. -/
structure MsTimer.OnTime (start durationMs now : UInt64) (count : ℕ)
    (timer : MsTimer) : Prop
    extends timer.Counted start durationMs now count where
  caughtUp : timer.startTime.toNat = start.toNat + count * durationMs.toNat
  fresh : now.toNat < timer.startTime.toNat + durationMs.toNat

theorem MsTimer.counted_start (timer : MsTimer) (start durationMs : UInt64) :
    (timer.start durationMs start).Counted start durationMs start 0 :=
  ⟨rfl, rfl, Nat.le_refl _, by simp [MsTimer.start]⟩

theorem MsTimer.onTime_start (timer : MsTimer) {start durationMs : UInt64}
    (positive : 1 ≤ durationMs) :
    (timer.start durationMs start).OnTime start durationMs start 0 where
  toCounted := timer.counted_start start durationMs
  caughtUp := by simp [MsTimer.start]
  fresh := by
    have : 1 ≤ durationMs.toNat := UInt64.le_iff_toNat_le.mp positive
    simp only [MsTimer.start]
    omega

theorem MsTimer.Counted.poll {start durationMs now reading : UInt64}
    {count : ℕ} {timer : MsTimer}
    (counts : timer.Counted start durationMs now count)
    (later : now.toNat ≤ reading.toNat) :
    (timer.isExpired reading).1.Counted start durationMs reading
      (count + (timer.isExpired reading).2.toNat) := by
  obtain ⟨running, rfl, reached, counted⟩ := counts
  rcases MsTimer.isExpired_cases running (Nat.le_trans reached later) with
    ⟨-, held⟩ | ⟨startTime, expired, behind, moved, -⟩
  · rw [held]
    exact ⟨running, rfl, Nat.le_trans reached later, counted⟩
  · rw [expired]
    refine ⟨running, rfl, behind, ?_⟩
    rw [Bool.toNat_true, Nat.succ_mul]
    dsimp only
    omega

/-- A poll that comes within a duration of the last one keeps the timer on
time. -/
theorem MsTimer.OnTime.poll {start durationMs now reading : UInt64}
    {count : ℕ} {timer : MsTimer}
    (onTime : timer.OnTime start durationMs now count)
    (later : now.toNat ≤ reading.toNat)
    (close : reading.toNat ≤ now.toNat + durationMs.toNat) :
    (timer.isExpired reading).1.OnTime start durationMs reading
      (count + (timer.isExpired reading).2.toNat) := by
  have counts := onTime.toCounted.poll later
  obtain ⟨⟨running, rfl, reached, -⟩, caughtUp, fresh⟩ := onTime
  rcases MsTimer.isExpired_cases running (Nat.le_trans reached later) with
    ⟨early, held⟩ | ⟨startTime, expired, behind, -, moved⟩
  · rw [held] at counts ⊢
    exact ⟨counts, caughtUp, early⟩
  · rw [expired] at counts ⊢
    have onePeriod := moved (by omega)
    refine ⟨counts, ?_, ?_⟩
    · rw [Bool.toNat_true, Nat.succ_mul]
      dsimp only
      omega
    · dsimp only
      omega

/-! ## Sequences of polls -/

/-- No reading is less than the one before it. -/
def Advances (readings : List UInt64) : Prop :=
  readings.IsChain fun earlier later => earlier.toNat ≤ later.toNat

/-- No reading is more than a duration after the one before it. -/
def Close (durationMs : UInt64) (readings : List UInt64) : Prop :=
  readings.IsChain fun earlier later =>
    later.toNat ≤ earlier.toNat + durationMs.toNat

instance (readings : List UInt64) : Decidable (Advances readings) :=
  inferInstanceAs (Decidable (List.IsChain _ _))

instance (durationMs : UInt64) (readings : List UInt64) :
    Decidable (Close durationMs readings) :=
  inferInstanceAs (Decidable (List.IsChain _ _))

theorem Advances.and_close {durationMs : UInt64} {readings : List UInt64}
    (advances : Advances readings) (close : Close durationMs readings) :
    readings.IsChain fun earlier later =>
      earlier.toNat ≤ later.toNat ∧
        later.toNat ≤ earlier.toNat + durationMs.toNat := by
  rw [List.isChain_iff_forall_rel_of_append_cons_cons]
  intro earlier later before after split
  exact ⟨List.isChain_iff_forall_rel_of_append_cons_cons.mp advances split,
    List.isChain_iff_forall_rel_of_append_cons_cons.mp close split⟩

/-- The polls that returned `true`. -/
def MsTimer.expirations (timer : MsTimer) (readings : List UInt64) : ℕ :=
  (timer.answers readings).count true

theorem MsTimer.expirations_cons (timer : MsTimer) (now : UInt64)
    (readings : List UInt64) :
    timer.expirations (now :: readings) =
      (timer.isExpired now).2.toNat +
        (timer.isExpired now).1.expirations readings := by
  rw [MsTimer.expirations, MsTimer.answers, List.count_cons, Nat.add_comm]
  cases (timer.isExpired now).2 <;> rfl

/-- What every poll at a spaced reading preserves holds after a sequence of
them, of the last reading and the expirations so far. -/
theorem MsTimer.polled_invariant {holds : UInt64 → ℕ → MsTimer → Prop}
    {spaced : UInt64 → UInt64 → Prop}
    (preserved : ∀ {now reading count timer}, holds now count timer →
      spaced now reading →
        holds reading (count + (timer.isExpired reading).2.toNat)
          (timer.isExpired reading).1)
    {now : UInt64} {count : ℕ} {timer : MsTimer}
    (initially : holds now count timer) {readings : List UInt64}
    (chain : (now :: readings).IsChain spaced) :
    holds (readings.getLastD now) (count + timer.expirations readings)
      (timer.polled readings) := by
  induction readings generalizing now count timer with
  | nil => exact initially
  | cons reading readings ih =>
      obtain ⟨near, chain⟩ := List.isChain_cons_cons.mp chain
      rw [MsTimer.expirations_cons, ← Nat.add_assoc, List.getLastD_cons]
      exact ih (preserved initially near) chain

/-- A timer expires at most once for each duration that has passed, and exactly
once when it is polled at least once in each duration. -/
theorem msTimer_rate (timer : MsTimer) (start durationMs : UInt64)
    (positive : 1 ≤ durationMs) (readings : List UInt64)
    (advances : Advances (start :: readings)) :
    (timer.start durationMs start).expirations readings ≤
        ((readings.getLastD start).toNat - start.toNat) / durationMs.toNat ∧
      (Close durationMs (start :: readings) →
        (timer.start durationMs start).expirations readings =
          ((readings.getLastD start).toNat - start.toNat) /
            durationMs.toNat) := by
  have period : 0 < durationMs.toNat := UInt64.le_iff_toNat_le.mp positive
  constructor
  · obtain ⟨-, -, reached, counted⟩ := MsTimer.polled_invariant
      (fun counts later => counts.poll later)
      (timer.counted_start start durationMs) advances
    rw [Nat.zero_add] at counted
    rw [Nat.le_div_iff_mul_le period]
    omega
  · intro close
    have spaced := advances.and_close close
    obtain ⟨⟨-, -, reached, -⟩, caughtUp, fresh⟩ := MsTimer.polled_invariant
      (fun onTime near => onTime.poll near.1 near.2)
      (timer.onTime_start positive) spaced
    rw [Nat.zero_add] at caughtUp
    symm
    rw [Nat.div_eq_iff period]
    omega

/-- Late polls that are caught up with. -/
theorem msTimer_rate_jitter :
    (MsTimer.start ⟨0, 0, false⟩ 10 100).answers [108, 112, 121, 130] =
        [false, true, true, true] ∧
      (MsTimer.start ⟨0, 0, false⟩ 10 100).expirations [108, 112, 121, 130] =
        3 :=
  ⟨by decide, (msTimer_rate ⟨0, 0, false⟩ 100 10 (by decide)
    [108, 112, 121, 130] (by decide)).2 (by decide)⟩

end OpenRTH
