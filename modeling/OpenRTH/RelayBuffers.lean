import OpenRTH.HexCodec
import OpenRTH.RelayDevices
import Mathlib.Algebra.BigOperators.Intervals

/-!
# The buffers of the relay tasks

The receive path of `CServer::task` and `CClient::task`: `bytes_available`,
`NetSock::receive` into the 65536-byte buffer that both tasks keep over all
rounds, and `convert_binary_to_hex` into an array sized from the result.  The
two paths differ in one line, which is commented out in the client.
-/

namespace OpenRTH

/-- What a call of `recv` delivers; no bytes when the peer has closed. -/
inductive StreamResult
  | failed
  | received (data : List UInt8)

def StreamResult.data : StreamResult → List UInt8
  | .failed => []
  | .received data => data

/-- The loop of `NetSock::receive`, from `ptr` on: its result and the buffer, or
`none` after a write behind the buffer.  `recv` never delivers more than was
asked for. -/
def receiveLoop {size : ℕ} (length : ℕ) (recv : ℕ → StreamResult)
    (ptr bytesRemaining : ℕ) (buffer : FixedBuffer UInt8 size) :
    Option (ℤ × FixedBuffer UInt8 size) :=
  if bytesRemaining = 0 then some (length, buffer)
  else
    match recv 0 with
    | .failed => some (-1, buffer)
    | .received data =>
        if data = [] then some (0, buffer)
        else
          (buffer.store ptr (data.take bytesRemaining)).bind
            (receiveLoop length (fun call => recv (call + 1))
              (ptr + (data.take bytesRemaining).length)
              (bytesRemaining - (data.take bytesRemaining).length))
termination_by bytesRemaining
decreasing_by
  have nonempty := List.length_pos_iff.mpr ‹data ≠ []›
  rw [List.length_take]
  omega

/-- `NetSock::receive`. -/
def receive {size : ℕ} (length : ℕ) (recv : ℕ → StreamResult)
    (buffer : FixedBuffer UInt8 size) :
    Option (ℤ × FixedBuffer UInt8 size) :=
  if length = 0 then some (0, buffer)
  else receiveLoop length recv 0 length buffer

/-- What the operating system reports in one round, and what the stack holds
where `buffer_hex` is. -/
structure RelayRound where
  available : ℕ
  recv : ℕ → StreamResult
  stack : ℕ → Char

/-- `buffer_hex`, before anything is written to it. -/
def RelayRound.bufferHex (round : RelayRound) (size : ℕ) :
    FixedBuffer Char size :=
  ⟨(List.range size).map round.stack, by simp⟩

/-- How a round ends: by a `break` or with the message to publish. -/
inductive RoundEnd
  | dropped
  | published (message : CString)

/-- One round of a task from `bytes_available` to `send_message`; `limit` is what
the task makes of the number of bytes that are ready. -/
def relayRound (limit : ℕ → ℕ) (round : RelayRound)
    (buffer : FixedBuffer UInt8 relayBufferSize) :
    Option (RoundEnd × FixedBuffer UInt8 relayBufferSize) :=
  if round.available < 1 then some (.dropped, buffer)
  else
    (receive (limit round.available) round.recv buffer).bind
      fun (bytesRcvd, buffer) =>
        if bytesRcvd < limit round.available then some (.dropped, buffer)
        else
          (convertBinaryToHexInto (buffer.contents.take bytesRcvd.toNat)
              (round.bufferHex (bytesRcvd.toNat * 2 + 1))).map
            fun bufferHex => (.published (bufferHex.string nul), buffer)

/-- `CServer::task` reads no more bytes than its buffer can hold. -/
def serverLimit (bytesReady : ℕ) : ℕ :=
  if relayBufferSize < bytesReady then relayBufferSize else bytesReady

/-- In `CClient::task` the same line is commented out. -/
def clientLimit (bytesReady : ℕ) : ℕ := bytesReady

/-- The rounds of a task, which all use one buffer. -/
def relayRounds (limit : ℕ → ℕ) :
    List RelayRound → FixedBuffer UInt8 relayBufferSize →
      Option (FixedBuffer UInt8 relayBufferSize)
  | [], buffer => some buffer
  | round :: rounds, buffer =>
      (relayRound limit round buffer).bind fun (_, buffer) =>
        relayRounds limit rounds buffer

/-! ## The receive loop -/

/-- A call of `recv` fails or finds the connection closed while at most `room`
bytes have been received. -/
def StopsWithin (recv : ℕ → StreamResult) (room : ℕ) : Prop :=
  ∃ count, (recv count).data = [] ∧
    ∑ call ∈ Finset.range count, (recv call).data.length ≤ room

theorem StopsWithin.here {recv : ℕ → StreamResult} (stop : (recv 0).data = [])
    (room : ℕ) : StopsWithin recv room :=
  ⟨0, stop, by simp⟩

theorem StopsWithin.of_failed {recv : ℕ → StreamResult}
    (failed : recv 0 = .failed) (room : ℕ) : StopsWithin recv room :=
  .here (by rw [failed]; rfl) room

theorem StopsWithin.of_closed {recv : ℕ → StreamResult}
    (closed : recv 0 = .received []) (room : ℕ) : StopsWithin recv room :=
  .here (by rw [closed]; rfl) room

/-- After a call that has received something it is for the later calls to
stop. -/
theorem stopsWithin_iff_later {recv : ℕ → StreamResult} {data : List UInt8}
    (received : recv 0 = .received data) (nonempty : data ≠ []) (room : ℕ) :
    StopsWithin recv room ↔ data.length ≤ room ∧
      StopsWithin (fun call => recv (call + 1)) (room - data.length) := by
  have first : (recv 0).data = data := by rw [received]; rfl
  constructor
  · rintro ⟨count, stop, total⟩
    cases count with
    | zero => exact absurd (first.symm.trans stop) nonempty
    | succ count =>
        rw [Finset.sum_range_succ', first] at total
        have later : ∑ call ∈ Finset.range count,
            (recv (call + 1)).data.length ≤ room - data.length := by omega
        exact ⟨by omega, count, stop, later⟩
  · rintro ⟨fits, count, stop, total⟩
    have later : ∑ call ∈ Finset.range count,
        (recv (call + 1)).data.length ≤ room - data.length := total
    refine ⟨count + 1, stop, ?_⟩
    rw [Finset.sum_range_succ', first]
    omega

theorem overrun_of_lt {recv : ℕ → StreamResult} {data : List UInt8}
    (received : recv 0 = .received data) (nonempty : data ≠ [])
    {size ptr bytesRemaining : ℕ} (inside : ptr ≤ size)
    (tooLong : size < ptr + (data.take bytesRemaining).length) :
    size < ptr + bytesRemaining ∧ ¬ StopsWithin recv (size - ptr) := by
  rw [List.length_take] at tooLong
  rw [stopsWithin_iff_later received nonempty]
  refine ⟨by omega, ?_⟩
  rintro ⟨fits, -⟩
  omega

/-- A call that stays inside the buffer leaves the matter to the later ones. -/
theorem overrun_iff_later {recv : ℕ → StreamResult} {data : List UInt8}
    (received : recv 0 = .received data) (nonempty : data ≠ [])
    {size ptr bytesRemaining : ℕ}
    (fits : ptr + (data.take bytesRemaining).length ≤ size) :
    (size < ptr + (data.take bytesRemaining).length +
        (bytesRemaining - (data.take bytesRemaining).length) ∧
      ¬ StopsWithin (fun call => recv (call + 1))
        (size - (ptr + (data.take bytesRemaining).length))) ↔
      size < ptr + bytesRemaining ∧ ¬ StopsWithin recv (size - ptr) := by
  have taken := List.length_take (i := bytesRemaining) (l := data)
  have total : ptr + (data.take bytesRemaining).length +
      (bytesRemaining - (data.take bytesRemaining).length) =
        ptr + bytesRemaining := by omega
  rw [total]
  apply and_congr_right
  intro tooMany
  -- the call has delivered all its data
  have whole : (data.take bytesRemaining).length = data.length := by omega
  have inRoom : data.length ≤ size - ptr := by omega
  rw [stopsWithin_iff_later received nonempty, whole, Nat.sub_sub]
  simp only [inRoom, true_and]

/-- The loop writes behind the buffer when more bytes are asked for than fit and
nothing stops it in time. -/
theorem receiveLoop_eq_none_iff {size : ℕ} (length : ℕ)
    (recv : ℕ → StreamResult) (ptr bytesRemaining : ℕ)
    (buffer : FixedBuffer UInt8 size) (inside : ptr ≤ size) :
    receiveLoop length recv ptr bytesRemaining buffer = none ↔
      size < ptr + bytesRemaining ∧ ¬ StopsWithin recv (size - ptr) := by
  induction bytesRemaining using Nat.strongRecOn
    generalizing recv ptr buffer with
  | _ bytesRemaining ih =>
      rw [receiveLoop]
      split_ifs with done
      · simp only [false_iff]
        omega
      · split
        · next failed => simp [StopsWithin.of_failed failed]
        · next data received =>
            split_ifs with closed
            · subst closed
              simp [StopsWithin.of_closed received]
            · cases stored :
                  buffer.store ptr (data.take bytesRemaining) with
              | none =>
                  have tooLong :=
                    (FixedBuffer.store_eq_none_iff _ _ _).mp stored
                  have overrun := overrun_of_lt received closed inside tooLong
                  simp only [Option.bind_none, overrun.1, overrun.2,
                    not_false_eq_true, and_self]
              | some after =>
                  have fits := FixedBuffer.le_of_store stored
                  have nonempty := List.length_pos_iff.mpr closed
                  have fewer : bytesRemaining -
                      (data.take bytesRemaining).length < bytesRemaining := by
                    rw [List.length_take]
                    omega
                  rw [Option.bind_some, ih _ fewer _ _ _ fits]
                  exact overrun_iff_later received closed fits

theorem receive_eq_none_iff {size : ℕ} (length : ℕ) (recv : ℕ → StreamResult)
    (buffer : FixedBuffer UInt8 size) :
    receive length recv buffer = none ↔
      size < length ∧ ¬ StopsWithin recv size := by
  unfold receive
  split_ifs with zero
  · simp [zero]
  · rw [receiveLoop_eq_none_iff _ _ _ _ _ (Nat.zero_le size), Nat.zero_add,
      Nat.sub_zero]

/-! ## One round -/

/-- `buffer_hex` has exactly the room that is needed, so a round goes wrong in
`receive` if at all. -/
theorem relayRound_eq_none_iff (limit : ℕ → ℕ) (round : RelayRound)
    (buffer : FixedBuffer UInt8 relayBufferSize) :
    relayRound limit round buffer = none ↔
      1 ≤ round.available ∧ relayBufferSize < limit round.available ∧
        ¬ StopsWithin round.recv relayBufferSize := by
  unfold relayRound
  split_ifs with empty
  · simp only [false_iff, not_and]
    omega
  · cases received : receive (limit round.available) round.recv buffer with
    | none =>
        have overrun := (receive_eq_none_iff _ _ _).mp received
        simp only [Option.bind_none, true_iff]
        exact ⟨by omega, overrun⟩
    | some result =>
        obtain ⟨bytesRcvd, after⟩ := result
        have inBounds := mt (receive_eq_none_iff _ _ _).mpr
          (by rw [received]; exact Option.some_ne_none _)
        have hexFits : convertBinaryToHexInto
            (after.contents.take bytesRcvd.toNat)
            (round.bufferHex (bytesRcvd.toNat * 2 + 1)) ≠ none := by
          rw [Ne, convertBinaryToHexInto_eq_none_iff, List.length_take]
          omega
        simp only [Option.bind_some]
        split_ifs
        · simp [inBounds]
        · simp [hexFits, inBounds]

/-- A message that a round publishes is a chunk that fits the buffer. -/
theorem relayRound_published {limit : ℕ → ℕ} {round : RelayRound}
    {buffer after : FixedBuffer UInt8 relayBufferSize} {message : CString}
    (limited : 1 ≤ round.available → 1 ≤ limit round.available)
    (published : relayRound limit round buffer =
      some (.published message, after)) :
    ∃ chunk : List UInt8, chunk ≠ [] ∧ chunk.length ≤ relayBufferSize ∧
      message = convertBinaryToHex chunk := by
  unfold relayRound at published
  split_ifs at published with empty
  · cases published
  · obtain ⟨⟨bytesRcvd, filled⟩, received, published⟩ :=
      Option.bind_eq_some_iff.mp published
    dsimp only at published
    split_ifs at published with short
    · cases published
    · obtain ⟨bufferHex, printed, ended⟩ := Option.map_eq_some_iff.mp published
      have full := filled.length_contents
      have asked := limited (by omega)
      refine ⟨filled.contents.take bytesRcvd.toNat, ?_, ?_, ?_⟩
      · rw [← List.length_pos_iff, List.length_take, full]
        rw [relayBufferSize]
        omega
      · rw [List.length_take]
        omega
      · rw [← string_convertBinaryToHexInto printed]
        cases ended
        rfl

/-- A published round of the client is a reception and a publication of
`CClient::task`. -/
theorem clientRound_steps {round : RelayRound}
    {buffer after : FixedBuffer UInt8 relayBufferSize} {message : CString}
    (published : relayRound clientLimit round buffer =
      some (.published message, after)) {state : ClientState}
    {write : ClientWrite} (atPc : state.pc = .waiting write) :
    ∃ chunk,
      clientStep state (.receive chunk) =
        some ({ state with pc := .publishing chunk }, []) ∧
      clientStep { state with pc := .publishing chunk } .publish =
        some ({ state with pc := .clearing }, [message]) := by
  obtain ⟨chunk, nonempty, fits, rfl⟩ := relayRound_published id published
  refine ⟨chunk, ?_, rfl⟩
  simp [clientStep, atPc, nonempty, fits.not_gt]

theorem one_le_serverLimit {bytesReady : ℕ} (ready : 1 ≤ bytesReady) :
    1 ≤ serverLimit bytesReady := by
  unfold serverLimit relayBufferSize
  split_ifs <;> omega

/-- A published round of the server is a reception and a publication of
`CServer::task`. -/
theorem serverRound_steps {round : RelayRound}
    {buffer after : FixedBuffer UInt8 relayBufferSize} {message : CString}
    (published : relayRound serverLimit round buffer =
      some (.published message, after)) {state : ServerState}
    (atPc : state.pc = .waiting true) :
    ∃ chunk,
      serverStep state (.receive chunk) =
        some ({ state with pc := .publishing chunk }, []) ∧
      serverStep { state with pc := .publishing chunk } .publish =
        some ({ state with pc := .awaiting }, [message]) := by
  obtain ⟨chunk, nonempty, fits, rfl⟩ :=
    relayRound_published one_le_serverLimit published
  refine ⟨chunk, ?_, rfl⟩
  simp [serverStep, atPc, nonempty, fits.not_gt]

/-! ## All rounds -/

/-- No more bytes are ready than the buffer holds, or else the connection ends
before more than that have been received. -/
def RelayRound.Fits (round : RelayRound) : Prop :=
  round.available ≤ relayBufferSize ∨ StopsWithin round.recv relayBufferSize

theorem relayRounds_isSome_iff (limit : ℕ → ℕ) (rounds : List RelayRound)
    (buffer : FixedBuffer UInt8 relayBufferSize) :
    (relayRounds limit rounds buffer).isSome ↔
      ∀ round ∈ rounds, 1 ≤ round.available →
        relayBufferSize < limit round.available →
          StopsWithin round.recv relayBufferSize := by
  induction rounds generalizing buffer with
  | nil => simp [relayRounds]
  | cons round rounds ih =>
      rw [relayRounds, List.forall_mem_cons]
      have overrun := relayRound_eq_none_iff limit round buffer
      cases ran : relayRound limit round buffer with
      | none =>
          obtain ⟨ready, long, unstopped⟩ := overrun.mp ran
          simp [ready, long, unstopped]
      | some result =>
          have inBounds := mt overrun.mpr
            (by rw [ran]; exact Option.some_ne_none _)
          simp only [Option.bind_some, ih]
          tauto

/-- The server never writes outside its buffers.  The client does so exactly in
a round in which more bytes are ready than its buffer holds and as many are
received. -/
theorem relayRounds_inBounds_iff (serverRounds clientRounds : List RelayRound)
    (serverBuffer clientBuffer : FixedBuffer UInt8 relayBufferSize) :
    ((relayRounds serverLimit serverRounds serverBuffer).isSome ∧
        (relayRounds clientLimit clientRounds clientBuffer).isSome) ↔
      ∀ round ∈ clientRounds, round.Fits := by
  rw [relayRounds_isSome_iff, relayRounds_isSome_iff]
  constructor
  · rintro ⟨-, client⟩ round member
    by_cases short : round.available ≤ relayBufferSize
    · exact .inl short
    · exact .inr (client round member (by omega) (by
        unfold clientLimit
        omega))
  · intro fits
    constructor
    · intro round _ _ long
      unfold serverLimit at long
      split_ifs at long <;> omega
    · intro round member _ long
      rcases fits round member with short | stops
      · unfold clientLimit at long
        omega
      · exact stops

/-- 65537 bytes are ready, and one call of `recv` delivers them. -/
def longRound : RelayRound where
  available := 65537
  recv _ := .received (List.replicate 65537 0)
  stack _ := nul

theorem relayRounds_not_inBounds :
    relayRounds clientLimit [longRound]
      ⟨List.replicate relayBufferSize 0, List.length_replicate⟩ = none := by
  have unstopped : ¬ StopsWithin longRound.recv relayBufferSize := by
    rintro ⟨count, stop, -⟩
    change List.replicate 65537 (0 : UInt8) = [] at stop
    have length := congrArg List.length stop
    rw [List.length_replicate, List.length_nil] at length
    omega
  rw [← Option.not_isSome_iff_eq_none, relayRounds_isSome_iff]
  intro stops
  exact unstopped (stops longRound (by simp) (by decide) (by decide))

end OpenRTH
