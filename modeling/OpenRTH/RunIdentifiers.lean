import OpenRTH.BigEndianBytes
import OpenRTH.SlacMachine
import Mathlib.Data.List.Induction
import Mathlib.Data.List.Nodup

/-!
# The run identifiers of a PEV

Every attempt of `PEVSlac` begins by adding one to `RunID`, which `init` takes
from the MAC address of the interface, and every answer is compared with it.
Read as a number, the identifier counts the attempts modulo `2 ^ 64`.  The
process initialises SLAC once, so the count goes on over all its calls of
`perform_SLAC`.
-/

namespace OpenRTH

/-! ## Incrementing a byte string -/

/-- `memincr`: the memory that is left, and the result. -/
def memincr (memory : List UInt8) : ℕ → List UInt8 × ℤ
  | 0 => (memory, -1)
  | extent + 1 =>
      let byte := memory.getD extent 0 + 1
      let memory := memory.set extent byte
      if byte ≠ 0 then (memory, 0) else memincr memory extent

theorem length_memincr (memory : List UInt8) (extent : ℕ) :
    (memincr memory extent).1.length = memory.length := by
  induction extent generalizing memory with
  | zero => rfl
  | succ extent ih =>
      simp only [memincr]
      split_ifs
      · exact List.length_set
      · rw [ih, List.length_set]

/-- The last byte is incremented, and where it wraps around the bytes before
it are. -/
theorem memincr_append_cons (front : List UInt8) (byte : UInt8)
    (tail : List UInt8) :
    memincr (front ++ byte :: tail) (front.length + 1) =
      if byte + 1 ≠ 0 then (front ++ (byte + 1) :: tail, 0)
      else memincr (front ++ 0 :: tail) front.length := by
  have found : (front ++ byte :: tail).getD front.length 0 = byte := by simp
  have stored (next : UInt8) :
      (front ++ byte :: tail).set front.length next =
        front ++ next :: tail := by
    simp
  rw [memincr, found, stored]
  split_ifs with wrapped
  · rfl
  · rw [Decidable.not_not.mp wrapped]

theorem toNat_eq_of_add_one_eq_zero {byte : UInt8} (wrapped : byte + 1 = 0) :
    byte.toNat = 255 := by
  have sum := congrArg UInt8.toNat wrapped
  rw [UInt8.toNat_add] at sum
  have bound := byte.toNat_lt
  simp only [UInt8.reduceToNat, UInt8.toNat_zero] at sum
  omega

theorem toNat_add_one_of_ne_zero {byte : UInt8} (kept : byte + 1 ≠ 0) :
    (byte + 1).toNat = byte.toNat + 1 := by
  have sum : (byte + 1).toNat ≠ 0 := fun zero => kept (UInt8.toNat_inj.mp zero)
  rw [UInt8.toNat_add] at sum ⊢
  have bound := byte.toNat_lt
  simp only [UInt8.reduceToNat] at sum ⊢
  omega

/-- `memincr` adds one to the number at the front of the memory and leaves the
rest as it is. -/
theorem memincr_append (front tail : List UInt8) :
    ∃ after, (memincr (front ++ tail) front.length).1 = after ++ tail ∧
      after.length = front.length ∧
      BigEndianBytes.value after =
        (BigEndianBytes.value front + 1) % 256 ^ front.length := by
  induction front using List.reverseRecOn generalizing tail with
  | nil => exact ⟨[], rfl, rfl, rfl⟩
  | append_singleton front byte ih =>
      rw [List.append_assoc, List.singleton_append, List.length_append,
        List.length_singleton, memincr_append_cons,
        BigEndianBytes.value_append_singleton]
      split_ifs with kept
      · refine ⟨front ++ [byte + 1], by simp, by simp, ?_⟩
        have small := BigEndianBytes.value_lt (front ++ [byte + 1])
        rw [BigEndianBytes.value_append_singleton,
          toNat_add_one_of_ne_zero kept] at small ⊢
        rw [List.length_append, List.length_singleton] at small
        exact (Nat.mod_eq_of_lt small).symm
      · obtain ⟨after, same, length, carried⟩ := ih (0 :: tail)
        refine ⟨after ++ [0], by simp [same], by simp [length], ?_⟩
        have wrapped := toNat_eq_of_add_one_eq_zero (Decidable.not_not.mp kept)
        rw [BigEndianBytes.value_append_singleton, carried, wrapped,
          Nat.pow_succ', show 256 * BigEndianBytes.value front + 255 + 1 =
            256 * (BigEndianBytes.value front + 1) by omega,
          Nat.mul_mod_mul_left]
        rfl

theorem value_memincr (memory : List UInt8) :
    BigEndianBytes.value (memincr memory memory.length).1 =
      (BigEndianBytes.value memory + 1) % 256 ^ memory.length := by
  obtain ⟨after, same, -, value⟩ := memincr_append memory []
  rw [List.append_nil, List.append_nil] at same
  rw [same, value]

/-! ## Identifiers -/

/-- The `RunID` of a session or of a message, `SLAC_RUNID_LEN` bytes. -/
structure RunId where
  bytes : List UInt8
  length_bytes : bytes.length = 8
  deriving DecidableEq

/-- A MAC address, `ETHER_ADDR_LEN` bytes. -/
structure EtherAddr where
  bytes : List UInt8
  length_bytes : bytes.length = 6

/-- The number of an identifier. -/
def RunId.value (runId : RunId) : ℕ :=
  BigEndianBytes.value runId.bytes

theorem RunId.value_injective : Function.Injective RunId.value := by
  rintro ⟨first, firstLength⟩ ⟨second, secondLength⟩ same
  obtain rfl : first = second :=
    BigEndianBytes.value_injective_of_length_eq
      (firstLength.trans secondLength.symm) same
  rfl

theorem RunId.value_lt (runId : RunId) : runId.value < 2 ^ 64 := by
  have small := BigEndianBytes.value_lt runId.bytes
  rw [runId.length_bytes] at small
  exact small

/-- The first line of `PEV_DisconnectedState` that changes the session. -/
def RunId.memincr (runId : RunId) : RunId where
  bytes := (OpenRTH.memincr runId.bytes 8).1
  length_bytes := by rw [length_memincr, runId.length_bytes]

theorem RunId.value_memincr (runId : RunId) :
    runId.memincr.value = (runId.value + 1) % 2 ^ 64 := by
  have value := OpenRTH.value_memincr runId.bytes
  rw [runId.length_bytes] at value
  exact value

/-- The `RunID` of a static session. -/
def zeroRunId : RunId :=
  ⟨List.replicate 8 0, rfl⟩

/-- The `RunID` that `pev_identifier` leaves: the address of the channel behind
a `memset`. -/
def pevIdentifier (host : EtherAddr) : RunId where
  bytes := host.bytes ++ zeroRunId.bytes.drop 6
  length_bytes := by rw [List.length_append, host.length_bytes]; rfl

/-- `memcmp`. -/
def memcmp : List UInt8 → List UInt8 → ℤ
  | first :: firsts, second :: seconds =>
      if first = second then memcmp firsts seconds
      else if first < second then -1
      else 1
  | _, _ => 0

theorem memcmp_eq_zero_iff {first second : List UInt8}
    (sameLength : first.length = second.length) :
    memcmp first second = 0 ↔ first = second := by
  induction first generalizing second with
  | nil =>
      obtain rfl := List.eq_nil_of_length_eq_zero sameLength.symm
      simp [memcmp]
  | cons byte first ih =>
      cases second with
      | nil => simp at sameLength
      | cons other second =>
          simp only [memcmp, List.cons.injEq]
          split_ifs with same less
          · rw [ih (by simpa using sameLength)]
            simp [same]
          · simp [same]
          · simp [same]

/-- The comparison that a message has to pass. -/
def RunId.accepts (runId message : RunId) : Bool :=
  memcmp runId.bytes message.bytes = 0

theorem RunId.accepts_iff (runId message : RunId) :
    runId.accepts message = true ↔ runId = message := by
  have sameLength := runId.length_bytes.trans message.length_bytes.symm
  rw [RunId.accepts, decide_eq_true_iff, memcmp_eq_zero_iff sameLength]
  cases runId
  cases message
  exact RunId.mk.injEq _ _ _ _ ▸ Iff.rfl

/-! ## Answers from the EVSE -/

/-- The calls of the PEV that wait for an answer with its identifier. -/
inductive AnsweredCall
  | cmSlacParam
  | cmAttenChar
  | cmSlacMatch
  deriving DecidableEq

/-- Whether a call returns zero, by the identifiers of the messages that
`readmessage` returns before it fails.  `pev_cm_slac_match` reads one message
only. -/
def AnsweredCall.answered (runId : RunId) (received : List RunId) :
    AnsweredCall → Bool
  | .cmSlacParam | .cmAttenChar => received.any runId.accepts
  | .cmSlacMatch => received.head?.any runId.accepts

/-- The call that the machine is in. -/
def SlacPc.answeredCall : SlacPc → Option AnsweredCall
  | .param _ => some .cmSlacParam
  | .exchange .cmAttenChar => some .cmAttenChar
  | .exchange .cmSlacMatch => some .cmSlacMatch
  | _ => none

theorem AnsweredCall.answered_eq_false {runId : RunId} {received : List RunId}
    (others : ∀ message ∈ received, runId ≠ message) (call : AnsweredCall) :
    call.answered runId received = false := by
  have rejected : ∀ message ∈ received, ¬ runId.accepts message = true :=
    fun message member => mt (runId.accepts_iff message).mp
      (others message member)
  cases call
  case cmSlacMatch =>
    cases received with
    | nil => rfl
    | cons message received =>
        exact eq_false_of_ne_true (rejected message List.mem_cons_self)
  all_goals exact List.any_eq_false.mpr rejected

/-! ## The process of a PEV -/

/-- What the calls of `perform_SLAC` share: `SLAC_init`, the session, and the
identifiers that `PEV_DisconnectedState` has put in force. -/
structure PevProcess where
  slacInit : Bool
  runId : RunId
  session : SlacState
  runIds : List RunId

inductive PevInput
  | perform
  | received (messages : List RunId)
  | call (input : SlacInput)

/-- `perform_SLAC` up to the loop of `PEVSlac`. -/
def performSlac (setting : Char) (host : EtherAddr) (process : PevProcess) :
    PevProcess :=
  -- `SLAC.init`, if it has not been done already
  let process :=
    if process.slacInit then process
    else
      { process with
        slacInit := true
        runId := pevIdentifier host
        session := initialSession .pev process.session.sequRetry }
  { process with session := slacStart .pev setting process.session }

/-- One step of the process.  The calls that wait for an answer are decided by
the messages they receive. -/
def pevProcessStep (config : SlacConfig) (setting : Char) (host : EtherAddr)
    (process : PevProcess) : PevInput → Option PevProcess
  | .perform =>
      match process.session.pc with
      | .returned _ => some (performSlac setting host process)
      | _ => none
  | .received messages =>
      process.session.pc.answeredCall.bind fun call =>
        (pevSlacStep config process.session
          (.returned (call.answered process.runId messages))).map fun session =>
            { process with session := session }
  | .call input =>
      match process.session.pc.answeredCall, input with
      | some _, .returned _ => none
      | _, _ =>
          (pevSlacStep config process.session input).map fun session =>
            -- `PEV_DisconnectedState` increments `RunID` before it asks for
            -- the time
            if process.session.pc = .startTimer then
              { process with
                session := session
                runId := process.runId.memincr
                runIds := process.runIds ++ [process.runId.memincr] }
            else { process with session := session }

/-- The calls of `perform_SLAC` in one process, from before the first one. -/
def pevProcess (config : SlacConfig) (setting : Char) (host : EtherAddr) :
    TransitionSystem PevProcess PevInput where
  initial :=
    { slacInit := false
      runId := zeroRunId
      session := { pc := .returned 0, state := 0, sequRetry := 0, calls := [] }
      runIds := [] }
  step := pevProcessStep config setting host

/-! ## Counting the attempts -/

theorem pevSlacStep_of_returned {config : SlacConfig} {session : SlacState}
    {result : ℤ} (atPc : session.pc = .returned result) (input : SlacInput) :
    pevSlacStep config session input = none := by
  simp [pevSlacStep, atPc]

/-- What a step does to the identifiers: `perform_SLAC` is called, an attempt
begins, or nothing. -/
theorem pevProcessStep_cases {config : SlacConfig} {setting : Char}
    {host : EtherAddr} {process after : PevProcess} {input : PevInput}
    (step : pevProcessStep config setting host process input = some after) :
    ((∃ result, process.session.pc = .returned result) ∧
        after = performSlac setting host process) ∨
      ((∀ result, process.session.pc ≠ .returned result) ∧
        ∃ session,
          after = { process with session := session } ∨
          after = { process with
            session := session
            runId := process.runId.memincr
            runIds := process.runIds ++ [process.runId.memincr] }) := by
  cases input with
  | perform =>
      simp only [pevProcessStep] at step
      split at step
      · next result atPc =>
          exact .inl ⟨⟨result, atPc⟩, (Option.some.inj step).symm⟩
      · cases step
  | received messages =>
      obtain ⟨call, atCall, stepped⟩ := Option.bind_eq_some_iff.mp step
      obtain ⟨session, -, rfl⟩ := Option.map_eq_some_iff.mp stepped
      refine .inr ⟨fun result atPc => ?_, session, .inl rfl⟩
      simp [atPc, SlacPc.answeredCall] at atCall
  | call input =>
      simp only [pevProcessStep] at step
      split at step
      · cases step
      · obtain ⟨session, stepped, same⟩ := Option.map_eq_some_iff.mp step
        refine .inr ⟨fun result atPc => ?_, session, ?_⟩
        · rw [pevSlacStep_of_returned atPc] at stepped
          cases stepped
        · split_ifs at same with starting
          · exact .inr same.symm
          · exact .inl same.symm

/-- The number of the identifier in an attempt. -/
def attemptNumber (host : EtherAddr) (attempt : ℕ) : ℕ :=
  ((pevIdentifier host).value + (attempt + 1)) % 2 ^ 64

theorem attemptNumber_injOn (host : EtherAddr) {first second : ℕ}
    (firstLt : first < 2 ^ 64) (secondLt : second < 2 ^ 64)
    (same : attemptNumber host first = attemptNumber host second) :
    first = second := by
  unfold attemptNumber at same
  omega

/-- Before `SLAC.init` nothing has been called; after it the identifiers are
numbered one after the other. -/
structure RunIdsCounted (host : EtherAddr) (process : PevProcess) : Prop where
  idle : process.slacInit = false →
    process.runIds = [] ∧ ∃ result, process.session.pc = .returned result
  issued : process.runIds.map RunId.value =
    (List.range process.runIds.length).map (attemptNumber host)
  inForce : process.slacInit = true →
    process.runId.value =
      ((pevIdentifier host).value + process.runIds.length) % 2 ^ 64

theorem RunIdsCounted.step {config : SlacConfig} {setting : Char}
    {host : EtherAddr} {process after : PevProcess} {input : PevInput}
    (counted : RunIdsCounted host process)
    (step : pevProcessStep config setting host process input = some after) :
    RunIdsCounted host after := by
  rcases pevProcessStep_cases step with
    ⟨-, rfl⟩ | ⟨busy, session, rfl | rfl⟩
  · cases initialised : process.slacInit with
    | true =>
        have same : performSlac setting host process =
            { process with
              session := slacStart .pev setting process.session } := by
          simp [performSlac, initialised]
        rw [same]
        exact ⟨fun stopped => Bool.noConfusion (initialised.symm.trans stopped),
          counted.issued, counted.inForce⟩
    | false =>
        obtain ⟨none_, -⟩ := counted.idle initialised
        refine ⟨?_, ?_, fun _ => ?_⟩
        · simp [performSlac, initialised]
        · simp [performSlac, initialised, none_]
        · have small := (pevIdentifier host).value_lt
          simp only [performSlac, initialised, none_, Bool.false_eq_true,
            if_false, List.length_nil, Nat.add_zero]
          exact (Nat.mod_eq_of_lt small).symm
  all_goals
    have notIdle : process.slacInit ≠ false := fun stopped =>
      (counted.idle stopped).2.elim busy
    have initialised := eq_true_of_ne_false notIdle
  · exact ⟨fun stopped => absurd stopped notIdle, counted.issued,
      counted.inForce⟩
  · have next : process.runId.memincr.value =
        attemptNumber host process.runIds.length := by
      rw [RunId.value_memincr, counted.inForce initialised, attemptNumber]
      omega
    refine ⟨fun stopped => absurd stopped notIdle, ?_, fun _ => ?_⟩
    · simp only [List.map_append, counted.issued, List.length_append,
        List.length_singleton, List.range_succ, List.map_singleton, next]
    · simp only [List.length_append, List.length_singleton, next,
        attemptNumber]

theorem runIdsCounted (config : SlacConfig) (setting : Char) (host : EtherAddr)
    {process : PevProcess}
    (reachable : (pevProcess config setting host).Reachable process) :
    RunIdsCounted host process :=
  reachable.invariant ⟨fun _ => ⟨rfl, 0, rfl⟩, rfl, nofun⟩
    fun counted _ step => counted.step step

theorem RunIdsCounted.nodup {host : EtherAddr} {process : PevProcess}
    (counted : RunIdsCounted host process)
    (few : process.runIds.length ≤ 2 ^ 64) : process.runIds.Nodup := by
  refine List.Nodup.of_map RunId.value ?_
  rw [counted.issued]
  refine List.Nodup.map_on (fun first firstMem second secondMem same => ?_)
    List.nodup_range
  rw [List.mem_range] at firstMem secondMem
  exact attemptNumber_injOn host (by omega) (by omega) same

/-- No two attempts of a process have the same identifier: they are numbered
upwards from the start value, one stays in force until the next, and no call is
answered by messages with an earlier one. -/
theorem pevRunIds_nodup (config : SlacConfig) (setting : Char)
    (host : EtherAddr) {process : PevProcess}
    (reachable : (pevProcess config setting host).Reachable process)
    (few : process.runIds.length < 2 ^ 64) :
    process.runIds.Nodup ∧
      process.runIds.map RunId.value =
        (List.range process.runIds.length).map (attemptNumber host) ∧
      ∀ earlier current, process.runIds = earlier ++ [current] →
        process.runId = current ∧
          ∀ received, (∀ message ∈ received, message ∈ earlier) →
            ∀ call : AnsweredCall,
              call.answered process.runId received = false := by
  have counted := runIdsCounted config setting host reachable
  have nodup := counted.nodup few.le
  refine ⟨nodup, counted.issued, fun earlier current split => ?_⟩
  have initialised : process.slacInit = true := by
    by_contra stopped
    have none_ := (counted.idle (eq_false_of_ne_true stopped)).1
    simp [split] at none_
  have inForce : process.runId = current := by
    refine RunId.value_injective ((counted.inForce initialised).trans ?_)
    have issued := counted.issued
    simp only [split, List.map_append, List.map_singleton, List.length_append,
      List.length_singleton, List.range_succ] at issued ⊢
    exact (List.cons.inj (List.append_inj_right' issued rfl)).1.symm
  refine ⟨inForce, fun received stale call => ?_⟩
  refine AnsweredCall.answered_eq_false (fun message member => ?_) call
  intro same
  rw [split] at nodup
  have fresh := (List.nodup_append.mp nodup).2.2 message (stale message member)
    current (List.mem_singleton_self current)
  exact fresh (same.symm.trans inForce)

def benchHost : EtherAddr :=
  ⟨[0x00, 0xb0, 0x52, 0x00, 0x00, 0x01], rfl⟩

/-- The first attempt times out, and the second one hears its late answer. -/
theorem pevRunIds_nodup_retried :
    ∃ process, (pevProcess ⟨20, 10⟩ 'l' benchHost).Reachable process ∧
      process.runIds.length = 2 ∧ process.runIds.Nodup := by
  obtain ⟨process, reaches, two⟩ :=
    TransitionSystem.exists_reaches_of_follow
      (pevProcess ⟨20, 10⟩ 'l' benchHost) (fun _ _ => True)
      [.perform, .call (.clock 0), .received [], .call (.clock 20),
        .call (.clock 20), .received [(pevIdentifier benchHost).memincr]]
      (fun process => process.runIds.length = 2) (by decide)
  have length := of_decide_eq_true two
  exact ⟨process, reaches, length,
    (pevRunIds_nodup ⟨20, 10⟩ 'l' benchHost reaches
      (by rw [length]; decide)).1⟩

end OpenRTH
