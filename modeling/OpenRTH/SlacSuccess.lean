import OpenRTH.SlacMachine

/-!
# What a successful SLAC stands for

On the EVSE a success means that the last `NetInfo2` has found a logical
network.  On the PEV a refused `pev_cm_set_key` leaves the loop with a session
state that counts as success.
-/

namespace OpenRTH

/-- Whether the last call of `NetInfo2` returned zero. -/
def lastNetInfo2 (calls : List (SlacCall × Bool)) : Option Bool :=
  ((calls.filter fun entry => entry.1 = .netInfo2).getLast?).map (·.2)

/-- `pev_cm_set_key` has succeeded before the last `NetInfo2`, in the same pass
from the disconnected to the matched state. -/
def KeySetInPass (calls : List (SlacCall × Bool)) : Prop :=
  ∃ before pass, calls =
      before ++ (.cmSetKey, true) :: (pass ++ [(.netInfo2, true)]) ∧
    ∀ entry ∈ pass, entry.1 ≠ .cmSlacParam

/-- The calls of a run that has formed a logical network. -/
structure NetworkFormed (device : SlacDevice)
    (calls : List (SlacCall × Bool)) : Prop where
  joined : lastNetInfo2 calls = some true
  keySet : device = .pev → KeySetInPass calls

theorem lastNetInfo2_append (calls : List (SlacCall × Bool)) (zero : Bool) :
    lastNetInfo2 (calls ++ [(.netInfo2, zero)]) = some zero := by
  simp [lastNetInfo2]

theorem lastNetInfo2_eq_none {calls : List (SlacCall × Bool)}
    (never : ∀ entry ∈ calls, entry.1 ≠ .netInfo2) :
    lastNetInfo2 calls = none := by
  have nothing : (calls.filter fun entry => entry.1 = .netInfo2) = [] := by
    simpa using never
  simp [lastNetInfo2, nothing]

/-! ## The EVSE -/

/-- The machine joins in the matched state only, and it succeeds only by joining
a network. -/
structure EvseTrace (session : SlacState) : Prop where
  startJoin : session.pc = .startJoin → session.state = evseStateMatched
  netInfo : ∀ initTime, session.pc = .netInfo initTime →
    session.state = evseStateMatched
  netInfoTimer : ∀ initTime, session.pc = .netInfoTimer initTime →
    session.state = evseStateMatched
  success : session.pc = .returned 0 →
    lastNetInfo2 session.calls = some true

theorem evseTrace_evseLoop (session : SlacState) :
    EvseTrace (evseLoop session) := by
  unfold evseLoop evseReturn
  split_ifs with unavailable matched
  · simp [unavailable, evseStateMatched] at matched
  all_goals constructor <;> simp_all

theorem EvseTrace.step {config : SlacConfig} {session after : SlacState}
    {input : SlacInput} (before : EvseTrace session)
    (step : evseSlacStep config session input = some after) :
    EvseTrace after := by
  unfold evseSlacStep at step
  split at step
  · next now atPc => cases step; constructor <;> simp
  · next initTime zero atPc =>
      cases step
      split_ifs with answered
      · exact evseTrace_evseLoop _
      · constructor <;> simp
  · next initTime now atPc =>
      cases step
      split_ifs with expired
      · exact evseTrace_evseLoop _
      · constructor <;> simp
  · next call zero atPc =>
      cases step
      split_ifs with answered
      · split
        · constructor <;> simp
        · exact evseTrace_evseLoop _
      · exact evseTrace_evseLoop _
  · next now atPc =>
      cases step
      have matched := before.startJoin atPc
      constructor <;> simp_all
  · next initTime zero atPc =>
      cases step
      have matched := before.netInfo initTime atPc
      split_ifs with joined
      · have last := lastNetInfo2_append session.calls true
        constructor <;>
          simp [evseReturn, SlacState.log, matched, joined, last]
      · constructor <;> simp [SlacState.log, matched]
  · next initTime now atPc =>
      cases step
      have matched := before.netInfoTimer initTime atPc
      split_ifs with expired
      · constructor <;>
          simp [evseReturn, evseStateUnoccupied, evseStateMatched]
      · constructor <;> simp [matched]
  · cases step; constructor <;> simp
  · cases step; constructor <;> simp
  · cases step; constructor <;> simp
  · cases step

/-! ## The PEV -/

/-- The calls of a run that has neither tried to join nor been refused a
key. -/
def BeforeJoining (calls : List (SlacCall × Bool)) : Prop :=
  ∀ entry ∈ calls, entry.1 ≠ .netInfo2 ∧ entry ≠ (.cmSetKey, false)

/-- The calls of a run that has set its key and is trying to join. -/
def Joining (calls : List (SlacCall × Bool)) : Prop :=
  ∃ before pass, calls = before ++ (.cmSetKey, true) :: pass ∧
    BeforeJoining before ∧ ∀ entry ∈ pass, entry.1 = .netInfo2

/-- How a run of the PEV can return. -/
inductive PevOutcome (calls : List (SlacCall × Bool)) : ℤ → Prop
  | gaveUp (early : BeforeJoining calls) : PevOutcome calls 1
  | refused {before : List (SlacCall × Bool)} (early : BeforeJoining before)
      (callsEq : calls = before ++ [(.cmSetKey, false)]) : PevOutcome calls 0
  | joined {before : List (SlacCall × Bool)} (joining : Joining before)
      (callsEq : calls = before ++ [(.netInfo2, true)]) : PevOutcome calls 0

def SlacPc.beforeJoining : SlacPc → Bool
  | .pevNetInfo | .returned _ | .exited => false
  | _ => true

structure PevTrace (session : SlacState) : Prop where
  early : session.pc.beforeJoining → BeforeJoining session.calls
  joining : session.pc = .pevNetInfo → Joining session.calls
  outcome : ∀ result, session.pc = .returned result →
    PevOutcome session.calls result

theorem pevTrace_pevLoop {session : SlacState}
    (early : BeforeJoining session.calls) (running : session.state ≠ 0) :
    PevTrace (pevLoop session) := by
  unfold pevLoop pevReturn
  split_ifs with unavailable
  all_goals constructor <;> simp_all [SlacPc.beforeJoining]
  exact .gaveUp early

theorem BeforeJoining.append {calls : List (SlacCall × Bool)}
    (early : BeforeJoining calls) (call : SlacCall) (zero : Bool)
    (notNetInfo : call ≠ .netInfo2)
    (notRefused : (call, zero) ≠ (.cmSetKey, false)) :
    BeforeJoining (calls ++ [(call, zero)]) := by
  intro entry member
  rcases List.mem_append.mp member with earlier | last
  · exact early entry earlier
  · obtain rfl := List.mem_singleton.mp last
    exact ⟨notNetInfo, notRefused⟩

theorem retryOrGiveUp_calls (config : SlacConfig) (unavailable again : ℕ)
    (session : SlacState) :
    (retryOrGiveUp config unavailable again session).calls =
      session.calls := by
  unfold retryOrGiveUp
  split_ifs <;> rfl

theorem retryOrGiveUp_state_ne_zero (config : SlacConfig)
    {unavailable again : ℕ} (session : SlacState)
    (unavailableNe : unavailable ≠ 0) (againNe : again ≠ 0) :
    (retryOrGiveUp config unavailable again session).state ≠ 0 := by
  unfold retryOrGiveUp
  split_ifs
  · exact unavailableNe
  · exact againNe

theorem PevTrace.step {config : SlacConfig} {session after : SlacState}
    {input : SlacInput} (before : PevTrace session)
    (step : pevSlacStep config session input = some after) :
    PevTrace after := by
  unfold pevSlacStep at step
  split at step
  · next now atPc =>
      cases step
      have early := before.early (by rw [atPc]; rfl)
      exact ⟨fun _ => early, nofun, nofun⟩
  · next initTime zero atPc =>
      cases step
      have early := (before.early (by rw [atPc]; rfl)).append .cmSlacParam
        zero (by decide) (by simp)
      split_ifs with answered
      · exact pevTrace_pevLoop early (by simp [pevStateUnmatched])
      · exact ⟨fun _ => early, nofun, nofun⟩
  · next initTime now atPc =>
      cases step
      have early := before.early (by rw [atPc]; rfl)
      split_ifs with expired
      · refine pevTrace_pevLoop ?_ (retryOrGiveUp_state_ne_zero config session
          (by decide) (by decide))
        rwa [retryOrGiveUp_calls]
      · exact ⟨fun _ => early, nofun, nofun⟩
  · next call zero atPc =>
      cases step
      have early := (before.early (by rw [atPc]; rfl)).append (.exchange call)
        zero (by simp) (by simp)
      split_ifs with answered
      · split
        · exact ⟨fun _ => early, nofun, nofun⟩
        · exact pevTrace_pevLoop early (by simp [pevStateMatched])
      · exact pevTrace_pevLoop early (by simp [pevStateDisconnected])
  · next zero atPc =>
      cases step
      have early := before.early (by rw [atPc]; rfl)
      split_ifs with set
      · refine ⟨nofun, fun _ => ⟨session.calls, [], ?_, early, nofun⟩, nofun⟩
        simp [SlacState.log, set]
      · refine ⟨nofun, nofun, fun result returned => ?_⟩
        obtain rfl : 0 = result := by
          simpa [pevReturn, pevStateDisconnected, pevStateUnavailable]
            using returned
        exact .refused early (by simp [pevReturn, SlacState.log, set])
  · next zero atPc =>
      cases step
      have joining := before.joining atPc
      split_ifs with joined
      · refine ⟨nofun, nofun, fun result returned => ?_⟩
        obtain rfl : 0 = result := by
          simpa [pevReturn, pevStateUnavailable] using returned
        exact .joined joining (by simp [pevReturn, SlacState.log, joined])
      · obtain ⟨earlier, pass, callsEq, early, onlyNetInfo⟩ := joining
        refine ⟨?_, fun _ => ⟨earlier, pass ++ [(.netInfo2, zero)], ?_, early,
          ?_⟩, ?_⟩
        · intro other
          simp [SlacState.log, atPc, SlacPc.beforeJoining] at other
        · simp [SlacState.log, callsEq]
        · intro entry member
          rcases List.mem_append.mp member with inPass | last
          · exact onlyNetInfo entry inPass
          · rw [List.mem_singleton.mp last]
        · intro result returned
          simp [SlacState.log, atPc] at returned
  · cases step; exact ⟨nofun, nofun, nofun⟩
  · cases step; exact ⟨nofun, nofun, nofun⟩
  · cases step; exact ⟨nofun, nofun, nofun⟩
  · cases step; exact ⟨nofun, nofun, nofun⟩
  · cases step

/-! ## Success and the logical network -/

theorem BeforeJoining.not_refused {calls : List (SlacCall × Bool)}
    (early : BeforeJoining calls) : (.cmSetKey, false) ∉ calls :=
  fun refused => (early _ refused).2 rfl

theorem networkFormed_of_joining {calls : List (SlacCall × Bool)}
    (joining : Joining calls) :
    NetworkFormed .pev (calls ++ [(.netInfo2, true)]) ∧
      (.cmSetKey, false) ∉ calls ++ [(.netInfo2, true)] := by
  obtain ⟨before, pass, rfl, early, onlyNetInfo⟩ := joining
  refine ⟨⟨lastNetInfo2_append _ true, fun _ => ⟨before, pass, by simp, ?_⟩⟩, ?_⟩
  · intro entry member isParam
    simp [onlyNetInfo entry member] at isParam
  · intro refused
    simp only [List.append_assoc, List.cons_append, List.mem_append,
      List.mem_cons, Prod.mk.injEq, List.not_mem_nil, or_false] at refused
    rcases refused with inBefore | sameKey | inPass | isNetInfo
    · exact early.not_refused inBefore
    · simp at sameKey
    · simpa using onlyNetInfo _ inPass
    · simp at isNetInfo

/-- A success of `connect` stands for a logical network, unless the device is a
PEV and `pev_cm_set_key` was refused. -/
theorem slacSystem_connect_iff (device : SlacDevice) (config : SlacConfig)
    (sequRetry : UInt8) (session : SlacState)
    (reaches : (slacSystem device config sequRetry).Reachable session)
    (result : ℤ) (finished : session.connectResult = some result) :
    (result = 1 → NetworkFormed device session.calls) ↔
      ¬ (device = .pev ∧ (.cmSetKey, false) ∈ session.calls) := by
  obtain ⟨returned, atPc⟩ : ∃ returned, session.pc = .returned returned := by
    unfold SlacState.connectResult at finished
    split at finished
    · exact ⟨_, by assumption⟩
    · cases finished
  have resultEq : (if returned = 0 then 1 else 0) = result := by
    simpa [SlacState.connectResult, atPc] using finished
  cases device with
  | evse =>
      have trace : EvseTrace session := by
        refine reaches.invariant ?_ fun before _ step => before.step step
        exact evseTrace_evseLoop (initialSession .evse sequRetry)
      refine iff_of_true (fun success => ⟨?_, nofun⟩) (by simp)
      have zero : returned = 0 := by
        by_contra nonzero
        simp [nonzero] at resultEq
        omega
      rw [zero] at atPc
      exact trace.success atPc
  | pev =>
      have trace : PevTrace session := by
        refine reaches.invariant ?_ fun before _ step => before.step step
        have early : BeforeJoining (initialSession .pev sequRetry).calls := by
          simp [BeforeJoining, initialSession]
        exact pevTrace_pevLoop early (by simp [initialSession,
          pevStateDisconnected])
      simp only [true_and]
      cases trace.outcome returned atPc with
      | gaveUp early =>
          refine iff_of_true (fun success => ?_) early.not_refused
          simp at resultEq
          omega
      | refused early callsEq =>
          rw [callsEq]
          refine iff_of_false (fun formed => ?_) (by simp)
          have joined := (formed (by simpa using resultEq.symm)).joined
          rw [lastNetInfo2_eq_none] at joined
          · cases joined
          · intro entry member
            rcases List.mem_append.mp member with earlier | last
            · exact (early entry earlier).1
            · simp [List.mem_singleton.mp last]
      | joined joining callsEq =>
          rw [callsEq]
          obtain ⟨formed, notRefused⟩ := networkFormed_of_joining joining
          exact iff_of_true (fun _ => formed) notRefused

def benchSlacConfig : SlacConfig := ⟨20, 10⟩

/-- The PEV reaches the matched state at the first attempt. -/
def matchAtOnce : List SlacInput :=
  [.clock 0, .returned true, .returned true, .returned true, .returned true,
    .returned true, .returned true]

theorem slacSystem_connect_joined :
    ∃ session, (slacSystem .pev benchSlacConfig 0).Reachable session ∧
      session.connectResult = some 1 ∧ NetworkFormed .pev session.calls := by
  obtain ⟨session, reaches, joined⟩ :=
    TransitionSystem.exists_reaches_of_follow
      (slacSystem .pev benchSlacConfig 0) (fun _ _ => True)
      (matchAtOnce ++ [.returned true, .returned false, .returned true])
      (fun session => session.connectResult = some 1 ∧
        (.cmSetKey, false) ∉ session.calls) (by decide)
  obtain ⟨finished, notRefused⟩ := of_decide_eq_true joined
  exact ⟨session, reaches, finished,
    (slacSystem_connect_iff .pev benchSlacConfig 0 session reaches 1
      finished).mpr (fun refused => notRefused refused.2) rfl⟩

/-- A refused key makes `connect` succeed without any network. -/
theorem slacSystem_connect_refused :
    ∃ session, (slacSystem .pev benchSlacConfig 0).Reachable session ∧
      session.connectResult = some 1 ∧ ¬ NetworkFormed .pev session.calls := by
  obtain ⟨session, reaches, refused⟩ :=
    TransitionSystem.exists_reaches_of_follow
      (slacSystem .pev benchSlacConfig 0) (fun _ _ => True)
      (matchAtOnce ++ [.returned false])
      (fun session => session.connectResult = some 1 ∧
        lastNetInfo2 session.calls ≠ some true) (by decide)
  obtain ⟨finished, notJoined⟩ := of_decide_eq_true refused
  exact ⟨session, reaches, finished, fun formed => notJoined formed.joined⟩

end OpenRTH
