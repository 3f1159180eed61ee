import OpenRTH.StreamTransducer
import Mathlib.Data.List.TakeWhile

/-!
# Serial framing

`readSerialData` reassembles the co-processor's frames from whatever pieces
`read` returns.  A frame is the start byte `0x02`, a length byte `n` and `n`
further bytes; everything outside a frame is garbage.  The code rescans its
persistent buffer on every call.  Here the buffer is related to a deframer that
looks at one byte at a time, which shows that the extracted messages depend on
the byte stream only.
-/

namespace OpenRTH

/-- The start byte of a frame. -/
def startByte : UInt8 := 0x02

/-- The `while (incomingBuffer.size() >= 2)` loop of `read_serial_data`.  The
result holds the messages pushed and the bytes left in the buffer; the first
argument bounds the number of iterations. -/
def extractMessages : ℕ → List UInt8 → List (List UInt8) × List UInt8
  | 0, incomingBuffer => ([], incomingBuffer)
  | iterations + 1, incomingBuffer =>
      if incomingBuffer.length < 2 then ([], incomingBuffer) else
        -- `std::find` of the start byte: the bytes from `start` to the end
        match incomingBuffer.dropWhile (· != startByte) with
        | [] => ([], [])
        | [_] => ([], incomingBuffer)
        | first :: length :: rest =>
            let start := first :: length :: rest
            let messageLength := length.toNat + 2
            if start.length < messageLength then ([], incomingBuffer) else
              let later :=
                extractMessages iterations (start.drop messageLength)
              (start.take messageLength :: later.1, later.2)

/-- One call of `read_serial_data` on the persistent buffer: `none` when `read`
fails, otherwise the bytes it returned. -/
def readSerialData (incomingBuffer : List UInt8) :
    Option (List UInt8) → List UInt8 × List (List UInt8)
  | none => (incomingBuffer, [])
  | some [] => (incomingBuffer, [])
  | some bytes =>
      let appended := incomingBuffer ++ bytes
      let extracted := extractMessages appended.length appended
      (extracted.2, extracted.1)

/-- The messages extracted by a sequence of calls, one for each successful
read, starting from the empty buffer. -/
def extractedMessages (reads : List (List UInt8)) : List (List UInt8) :=
  (StreamTransducer.runChunks (fun buffer bytes =>
    readSerialData buffer (some bytes)) [] reads).2

/-! ## The byte-at-a-time deframer -/

/-- Where the deframer is inside a frame. -/
inductive FrameState
  | hunting
  | started
  | collecting (message : List UInt8) (missing : ℕ)
  deriving DecidableEq

/-- One byte of the deframer. -/
def FrameState.next : FrameState → UInt8 → FrameState × List (List UInt8)
  | .hunting, byte =>
      if byte = startByte then (.started, []) else (.hunting, [])
  | .started, length =>
      if length.toNat = 0 then (.hunting, [[startByte, length]])
      else (.collecting [startByte, length] length.toNat, [])
  | .collecting message missing, byte =>
      if missing ≤ 1 then (.hunting, [message ++ [byte]])
      else (.collecting (message ++ [byte]) (missing - 1), [])

/-- The deframer as a transducer from bytes to messages. -/
def deframer : StreamTransducer FrameState UInt8 (List UInt8) where
  step := FrameState.next

@[simp]
theorem deframer_step (state : FrameState) (byte : UInt8) :
    deframer.step state byte = state.next byte :=
  rfl

theorem deframer_run_garbage {bytes : List UInt8}
    (noStart : ∀ byte ∈ bytes, byte ≠ startByte) :
    deframer.run .hunting bytes = (.hunting, []) := by
  induction bytes with
  | nil => rfl
  | cons byte bytes ih =>
      have rest := ih fun other member => noStart other (by simp [member])
      have notStart : byte ≠ startByte := noStart byte (by simp)
      simp [FrameState.next, notStart, rest]

theorem deframer_run_collecting (message bytes : List UInt8) (missing : ℕ)
    (short : bytes.length < missing) :
    deframer.run (.collecting message missing) bytes =
      (.collecting (message ++ bytes) (missing - bytes.length), []) := by
  induction bytes generalizing message missing with
  | nil => simp
  | cons byte bytes ih =>
      simp only [List.length_cons] at short
      have more : ¬ missing ≤ 1 := by omega
      have rest := ih (message ++ [byte]) (missing - 1) (by omega)
      simp only [StreamTransducer.run_cons, deframer_step, FrameState.next,
        more, if_false, rest]
      simp [Nat.sub_sub, Nat.add_comm]

theorem deframer_run_body (message : List UInt8) {bytes : List UInt8}
    (nonempty : bytes ≠ []) :
    deframer.run (.collecting message bytes.length) bytes =
      (.hunting, [message ++ bytes]) := by
  obtain ⟨initial, last, rfl⟩ := List.eq_nil_or_concat bytes |>.resolve_left
    nonempty
  rw [List.concat_eq_append, StreamTransducer.run_append,
    deframer_run_collecting _ _ _ (by simp)]
  simp [FrameState.next]

theorem deframer_run_frame (length : UInt8) (body : List UInt8)
    (complete : body.length = length.toNat) :
    deframer.run .hunting (startByte :: length :: body) =
      (.hunting, [startByte :: length :: body]) := by
  rcases Nat.eq_zero_or_pos length.toNat with zero | positive
  · have bodyNil : body = [] := List.eq_nil_of_length_eq_zero (by omega)
    subst bodyNil
    simp [FrameState.next, zero]
  · have nonempty : body ≠ [] := by
      rintro rfl
      simp at complete
      omega
    have notZero : length.toNat ≠ 0 := by omega
    have collected := deframer_run_body [startByte, length] nonempty
    rw [complete] at collected
    simp [FrameState.next, notZero, collected]

theorem deframer_run_unfinished {length : UInt8} {body : List UInt8}
    (unfinished : body.length < length.toNat) :
    (deframer.run .hunting (startByte :: length :: body)).2 = [] := by
  have notZero : length.toNat ≠ 0 := by omega
  have collected :=
    deframer_run_collecting [startByte, length] body length.toNat unfinished
  simp [FrameState.next, notZero, collected]

theorem deframer_run_dropWhile (bytes : List UInt8) :
    deframer.run .hunting (bytes.dropWhile (· != startByte)) =
      deframer.run .hunting bytes := by
  have skipped : ∀ byte ∈ bytes.takeWhile (· != startByte),
      byte ≠ startByte := by
    intro byte member
    simpa using List.mem_takeWhile_imp member
  conv_rhs => rw [← List.takeWhile_append_dropWhile
    (p := (· != startByte)) (l := bytes)]
  rw [StreamTransducer.run_append, deframer_run_garbage skipped]
  simp

/-! ## The buffer follows the deframer -/

theorem deframer_run_short {bytes : List UInt8} (short : bytes.length < 2) :
    (deframer.run .hunting bytes).2 = [] := by
  rcases bytes with _ | ⟨byte, _ | ⟨other, bytes⟩⟩
  · rfl
  · by_cases isStart : byte = startByte <;> simp [FrameState.next, isStart]
  · simp only [List.length_cons] at short
    omega

theorem eq_startByte_of_dropWhile {bytes rest : List UInt8} {first : UInt8}
    (found : bytes.dropWhile (· != startByte) = first :: rest) :
    first = startByte := by
  have nonempty : bytes.dropWhile (· != startByte) ≠ [] := by simp [found]
  have stopped := List.head_dropWhile_not (· != startByte) nonempty
  simpa [found] using stopped

/-- Reading a buffer byte by byte emits what the loop extracts, and ends where
reading the bytes the loop leaves behind ends. -/
theorem extractMessages_deframer {iterations : ℕ} {incomingBuffer : List UInt8}
    (enough : incomingBuffer.length ≤ iterations) :
    deframer.run .hunting incomingBuffer =
        ((deframer.run .hunting
          (extractMessages iterations incomingBuffer).2).1,
          (extractMessages iterations incomingBuffer).1) ∧
      (deframer.run .hunting
        (extractMessages iterations incomingBuffer).2).2 = [] := by
  -- a buffer which the loop leaves as it is
  have unchanged {buffer : List UInt8}
      (silent : (deframer.run .hunting buffer).2 = []) :
      deframer.run .hunting buffer =
          ((deframer.run .hunting buffer).1, []) ∧
        (deframer.run .hunting buffer).2 = [] :=
    ⟨Prod.ext rfl silent, silent⟩
  induction iterations generalizing incomingBuffer with
  | zero =>
      have empty : incomingBuffer = [] :=
        List.eq_nil_of_length_eq_zero (by omega)
      subst empty
      simp [extractMessages]
  | succ iterations ih =>
      rw [extractMessages]
      split_ifs with short
      · exact unchanged (deframer_run_short short)
      · have skipped := deframer_run_dropWhile incomingBuffer
        have shorter := (List.dropWhile_sublist
          (l := incomingBuffer) (· != startByte)).length_le
        split
        · next none_ =>
            rw [none_] at skipped
            simp [← skipped]
        · next first one =>
            rw [one] at skipped
            exact unchanged (by
              rw [← skipped]
              exact deframer_run_short (by simp))
        · next first length rest found =>
            have isStart := eq_startByte_of_dropWhile found
            subst isStart
            rw [found] at skipped shorter
            dsimp only
            split_ifs with incomplete
            · exact unchanged (by
                rw [← skipped]
                exact deframer_run_unfinished (by simp at incomplete; omega))
            · simp only [List.length_cons] at incomplete shorter
              have later := @ih (rest.drop length.toNat)
                (by simp only [List.length_drop]; omega)
              have frame := deframer_run_frame length (rest.take length.toNat)
                (by simp only [List.length_take]; omega)
              have cut : startByte :: length :: rest =
                  (startByte :: length :: rest.take length.toNat) ++
                    rest.drop length.toNat := by simp
              simp only [List.drop_succ_cons, List.take_succ_cons]
              refine ⟨?_, later.2⟩
              rw [← skipped, cut, StreamTransducer.run_append, frame]
              simp only [List.singleton_append]
              rw [later.1]

/-- `incomingBuffer` holds the unfinished input of a deframer in `state`. -/
def Residue (incomingBuffer : List UInt8) (state : FrameState) : Prop :=
  deframer.run .hunting incomingBuffer = (state, [])

theorem residue_nil : Residue [] .hunting :=
  rfl

/-- `read_serial_data` implements the deframer. -/
theorem readSerialData_tracks :
    deframer.Tracks
      (fun buffer bytes => readSerialData buffer (some bytes)) Residue where
  emits := by
    intro buffer state residue bytes
    cases bytes with
    | nil => rfl
    | cons byte bytes =>
        have read := (extractMessages_deframer
          (le_refl (buffer ++ byte :: bytes).length)).1
        rw [StreamTransducer.run_append, residue] at read
        exact (congrArg Prod.snd read).symm
  keeps := by
    intro buffer state residue bytes
    cases bytes with
    | nil => exact residue
    | cons byte bytes =>
        have read := extractMessages_deframer
          (le_refl (buffer ++ byte :: bytes).length)
        rw [StreamTransducer.run_append, residue] at read
        exact Prod.ext (congrArg Prod.fst read.1).symm read.2

theorem extractedMessages_eq_deframer (reads : List (List UInt8)) :
    extractedMessages reads = (deframer.run .hunting reads.flatten).2 :=
  readSerialData_tracks.runChunks_output residue_nil reads

/-! ## Well-formed streams -/

/-- A frame: its length byte counts the bytes that follow it. -/
structure Frame where
  length : UInt8
  payload : List UInt8
  payload_length : payload.length = length.toNat

/-- The bytes of a frame on the wire. -/
def Frame.bytes (frame : Frame) : List UInt8 :=
  startByte :: frame.length :: frame.payload

/-- A run of bytes without a start byte. -/
structure Garbage where
  bytes : List UInt8
  noStart : ∀ byte ∈ bytes, byte ≠ startByte

/-- Each frame with the garbage that follows it. -/
def framedBytes : List (Frame × Garbage) → List UInt8
  | [] => []
  | (frame, garbage) :: rest => frame.bytes ++ garbage.bytes ++ framedBytes rest

theorem deframer_run_framedBytes (frames : List (Frame × Garbage)) :
    deframer.run .hunting (framedBytes frames) =
      (.hunting, frames.map fun entry => entry.1.bytes) := by
  induction frames with
  | nil => rfl
  | cons entry frames ih =>
      obtain ⟨frame, garbage⟩ := entry
      have read := deframer_run_frame _ _ frame.payload_length
      rw [← Frame.bytes] at read
      simp only [framedBytes, List.append_assoc, StreamTransducer.run_append,
        read, deframer_run_garbage garbage.noStart, ih]
      simp

/-- Serial framing is exact: what `read_serial_data` extracts depends on the
byte stream only, and from frames separated by garbage it extracts exactly the
frames, in order. -/
theorem readSerialData_framing :
    (∀ first second : List (List UInt8), first.flatten = second.flatten →
      extractedMessages first = extractedMessages second) ∧
    (∀ (reads : List (List UInt8)) (leading : Garbage)
      (frames : List (Frame × Garbage)),
      reads.flatten = leading.bytes ++ framedBytes frames →
        extractedMessages reads = frames.map fun entry => entry.1.bytes) := by
  constructor
  · intro first second sameStream
    exact readSerialData_tracks.output_eq_of_flatten_eq residue_nil sameStream
  · intro reads leading frames stream
    rw [extractedMessages_eq_deframer, stream, StreamTransducer.run_append,
      deframer_run_garbage leading.noStart]
    simp [deframer_run_framedBytes]

/-- A frame cut between its start byte and its length byte, with garbage before
it, arrives whole. -/
theorem readSerialData_framing_cut :
    extractedMessages [[7, 0x02], [1], [], [9, 3]] =
        extractedMessages [[7, 0x02, 1, 9, 3]] ∧
      extractedMessages [[7, 0x02], [1], [], [9, 3]] = [[0x02, 1, 9]] :=
  ⟨readSerialData_framing.1 _ _ (by decide),
    readSerialData_framing.2 _ ⟨[7], by simp [startByte]⟩
      [(⟨1, [9], by decide⟩, ⟨[3], by simp [startByte]⟩)] (by decide)⟩

end OpenRTH
