import OpenRTH.CommandFrames

/-!
# Damaged frames

A call that reads a measurement stores the numbers of the first message that
looks like its response; the checksum of the message is not looked at.  The main
result says what remains true of a stream in which one byte of a frame has been
damaged: behind the length byte the damage stays in its frame, and in the third
byte or the checksum it changes nothing that is stored.
-/

namespace OpenRTH

/-! ## Calls that read the serial port -/

/-- The test for the response of a call; `control_pwm` and `set_pwm` look for
none. -/
def SerialCall.isResponse : SerialCall → List UInt8 → Bool
  | .readPilotVoltage => isPilotResponse
  | .readProxVoltage => isProxResponse
  | .getPwmValues => isPwmResponse
  | _ => fun _ => false

/-- What a call does with the messages. -/
def SerialCall.store : SerialCall → List (List UInt8) → J1772 → J1772
  | .readPilotVoltage => OpenRTH.readPilotVoltage
  | .readProxVoltage => OpenRTH.readProxVoltage
  | .getPwmValues => OpenRTH.getPwmValues
  | _ => fun _ j1772 => j1772

/-- A call and what `read` returns in it, `none` for an error. -/
structure UartCall where
  call : SerialCall
  received : Option (List UInt8)

/-- The buffer of `read_serial_data` and the measurements. -/
structure UartState where
  incomingBuffer : List UInt8
  j1772 : J1772

namespace UartCall

/-- The buffer and the messages behind a call.  A rejected argument is noticed
before anything is read. -/
def read (uartCall : UartCall) (incomingBuffer : List UInt8) :
    List UInt8 × List (List UInt8) :=
  if uartCall.call.rejected then (incomingBuffer, [])
  else readSerialData incomingBuffer uartCall.received

/-- The bytes that a call takes from the stream. -/
def bytes (uartCall : UartCall) : List UInt8 :=
  if uartCall.call.rejected then [] else uartCall.received.getD []

/-- The message whose numbers are stored. -/
def used (uartCall : UartCall) (messages : List (List UInt8)) :
    Option (List UInt8) :=
  messages.find? uartCall.call.isResponse

end UartCall

def UartState.exchange (state : UartState) (uartCall : UartCall) : UartState :=
  let read := uartCall.read state.incomingBuffer
  ⟨read.1, uartCall.call.store read.2 state.j1772⟩

/-- The messages from which the calls of a run set a field, with the calls. -/
def usedMessages (incomingBuffer : List UInt8) :
    List UartCall → List (UartCall × List UInt8)
  | [] => []
  | uartCall :: calls =>
      let read := uartCall.read incomingBuffer
      (uartCall.used read.2).toList.map (uartCall, ·) ++
        usedMessages read.1 calls

/-- The stream that the calls of a run read. -/
def receivedStream (calls : List UartCall) : List UInt8 :=
  calls.flatMap UartCall.bytes

theorem SerialCall.store_eq (call : SerialCall) (messages : List (List UInt8))
    (j1772 : J1772) :
    call.store messages j1772 =
      call.store (messages.find? call.isResponse).toList j1772 := by
  have found (response : List UInt8 → Bool) :
      (messages.find? response).toList.find? response =
        messages.find? response := by
    cases first : messages.find? response with
    | none => rfl
    | some message =>
        exact List.find?_cons_of_pos (List.find?_some first)
  cases call with
  | readPilotVoltage =>
      simp only [store, isResponse, OpenRTH.readPilotVoltage, pilotReading,
        found]
  | readProxVoltage =>
      simp only [store, isResponse, OpenRTH.readProxVoltage, proxReading, found]
  | getPwmValues =>
      simp only [store, isResponse, OpenRTH.getPwmValues, pwmReading, found]
  | controlPwm | setPwm => rfl

/-! ## Messages of the stream -/

/-- The start byte, and a length byte that gives the size. -/
def IsFrame (message : List UInt8) : Prop :=
  messageByte message 0 = startByte ∧
    message.length = (messageByte message 1).toNat + 2

/-- What is known of a message while it is collected. -/
def FrameState.Consistent : FrameState → Prop
  | .collecting message missing =>
      messageByte message 0 = startByte ∧ 2 ≤ message.length ∧ 0 < missing ∧
        message.length + missing = (messageByte message 1).toNat + 2
  | _ => True

theorem messageByte_append {message : List UInt8} {index : ℕ}
    (inside : index < message.length) (rest : List UInt8) :
    messageByte (message ++ rest) index = messageByte message index := by
  simp only [messageByte, List.getD_eq_getElem?_getD,
    List.getElem?_append_left inside]

theorem FrameState.Consistent.next {state : FrameState}
    (consistent : state.Consistent) (byte : UInt8) :
    (state.next byte).1.Consistent ∧
      ∀ message ∈ (state.next byte).2, IsFrame message := by
  cases state with
  | hunting =>
      dsimp only [FrameState.next]
      split_ifs <;> exact ⟨trivial, nofun⟩
  | started =>
      dsimp only [FrameState.next]
      split_ifs with zero
      · refine ⟨trivial, fun message member => ?_⟩
        rw [List.mem_singleton.mp member]
        exact ⟨rfl, congrArg (· + 2) zero.symm⟩
      · exact ⟨⟨rfl, le_rfl, Nat.pos_of_ne_zero zero, Nat.add_comm _ _⟩, nofun⟩
  | collecting message missing =>
      obtain ⟨start, long, positive, size⟩ := consistent
      have startKept :
          messageByte (message ++ [byte]) 0 = messageByte message 0 :=
        messageByte_append (by omega) [byte]
      have lengthKept :
          messageByte (message ++ [byte]) 1 = messageByte message 1 :=
        messageByte_append long [byte]
      dsimp only [FrameState.next]
      split_ifs with last
      · refine ⟨trivial, fun other member => ?_⟩
        rw [List.mem_singleton.mp member, IsFrame, startKept, lengthKept,
          List.length_append, List.length_singleton]
        exact ⟨start, by omega⟩
      · refine ⟨?_, nofun⟩
        rw [FrameState.Consistent, startKept, lengthKept, List.length_append,
          List.length_singleton]
        exact ⟨start, by omega, by omega, by omega⟩

theorem isFrame_of_mem_run {state : FrameState}
    (consistent : state.Consistent) {stream message : List UInt8}
    (member : message ∈ (deframer.run state stream).2) : IsFrame message := by
  induction stream generalizing state with
  | nil => cases member
  | cons byte stream ih =>
      obtain ⟨after, emitted⟩ := consistent.next byte
      rcases List.mem_append.mp member with now | later
      · exact emitted message now
      · exact ih after later

theorem UartCall.read_tracks {incomingBuffer : List UInt8} {state : FrameState}
    (residue : Residue incomingBuffer state) (uartCall : UartCall) :
    (uartCall.read incomingBuffer).2 =
        (deframer.run state uartCall.bytes).2 ∧
      Residue (uartCall.read incomingBuffer).1
        (deframer.run state uartCall.bytes).1 := by
  unfold UartCall.read UartCall.bytes
  split_ifs
  · exact ⟨rfl, residue⟩
  · cases uartCall.received with
    | none => exact ⟨rfl, residue⟩
    | some bytes =>
        exact ⟨readSerialData_tracks.emits residue bytes,
          readSerialData_tracks.keeps residue bytes⟩

theorem mem_usedMessages {incomingBuffer : List UInt8} {state : FrameState}
    (residue : Residue incomingBuffer state) {calls : List UartCall}
    {uartCall : UartCall} {message : List UInt8}
    (member : (uartCall, message) ∈ usedMessages incomingBuffer calls) :
    uartCall.call.isResponse message = true ∧
      message ∈ (deframer.run state (receivedStream calls)).2 := by
  induction calls generalizing incomingBuffer state with
  | nil => cases member
  | cons first calls ih =>
      obtain ⟨messages, residueAfter⟩ := first.read_tracks residue
      rw [receivedStream, List.flatMap_cons, StreamTransducer.run_append]
      rcases List.mem_append.mp member with now | later
      · obtain ⟨other, found, same⟩ := List.mem_map.mp now
        cases same
        rw [Option.mem_toList, UartCall.used, messages] at found
        exact ⟨List.find?_some found,
          List.mem_append_left _ (List.mem_of_find?_eq_some found)⟩
      · obtain ⟨responds, inStream⟩ := ih residueAfter later
        exact ⟨responds, List.mem_append_right _ inStream⟩

/-! ## Bytes that are not read -/

/-- Messages that differ in the third byte and the last one at most. -/
structure SameReadBytes (sent received : List UInt8) : Prop where
  length : sent.length = received.length
  bytes : ∀ index, index ≠ 2 → index + 1 < sent.length →
    messageByte sent index = messageByte received index

theorem sameReadBytes_refl (messages : List (List UInt8)) :
    List.Forall₂ SameReadBytes messages messages :=
  List.forall₂_same.mpr fun _ _ => ⟨rfl, fun _ _ _ => rfl⟩

theorem SameReadBytes.isResponse_eq {sent received : List UInt8}
    (same : SameReadBytes sent received) {size : ℕ} (enough : 5 ≤ size)
    (length command : UInt8) :
    isResponse size length command sent =
      isResponse size length command received := by
  unfold isResponse
  rw [← same.length]
  by_cases long : size ≤ sent.length
  · rw [same.bytes 0 (by decide) (by omega),
      same.bytes 1 (by decide) (by omega),
      same.bytes 3 (by decide) (by omega)]
  · simp [long]

theorem SameReadBytes.messageWord_eq {sent received : List UInt8}
    (same : SameReadBytes sent received) {offset : ℕ} (behind : 2 < offset)
    (inside : offset + 2 < sent.length) :
    messageWord sent offset = messageWord received offset := by
  unfold messageWord
  rw [same.bytes offset (by omega) (by omega),
    same.bytes (offset + 1) (by omega) (by omega)]

theorem map_find?_of_forall₂ {Value : Type*} {value : List UInt8 → Value}
    {response : List UInt8 → Bool}
    (sameTest : ∀ {sent received}, SameReadBytes sent received →
      response sent = response received)
    (sameValue : ∀ {sent received}, SameReadBytes sent received →
      response sent = true → value sent = value received)
    {sent received : List (List UInt8)}
    (messages : List.Forall₂ SameReadBytes sent received) :
    (sent.find? response).map value = (received.find? response).map value := by
  induction messages with
  | nil => rfl
  | @cons first second sent received same rest ih =>
      rw [List.find?_cons, List.find?_cons, ← sameTest same]
      cases responds : response first with
      | true => exact congrArg some (sameValue same responds)
      | false => exact ih

theorem length_le_of_isResponse {size : ℕ} {length command : UInt8}
    {message : List UInt8}
    (responds : isResponse size length command message = true) :
    size ≤ message.length :=
  (of_decide_eq_true responds).1

/-- The same values are stored. -/
theorem SerialCall.store_eq_of_forall₂ (call : SerialCall)
    {sent received : List (List UInt8)}
    (messages : List.Forall₂ SameReadBytes sent received) (j1772 : J1772) :
    call.store sent j1772 = call.store received j1772 := by
  cases call with
  | readPilotVoltage =>
      refine congrArg (J1772.setPilotVoltage · j1772) ?_
      apply map_find?_of_forall₂ _ _ messages
      · exact fun same => same.isResponse_eq (by decide) _ _
      · intro sent received same responds
        have long := length_le_of_isResponse responds
        rw [messageVoltage, messageVoltage, messageVoltage, messageVoltage,
          same.messageWord_eq (by decide) (by omega),
          same.messageWord_eq (by decide) (by omega)]
  | readProxVoltage =>
      refine congrArg (J1772.setProxVoltage · j1772) ?_
      apply map_find?_of_forall₂ _ _ messages
      · exact fun same => same.isResponse_eq (by decide) _ _
      · intro sent received same responds
        have long := length_le_of_isResponse responds
        rw [messageVoltage, messageVoltage,
          same.messageWord_eq (by decide) (by omega)]
  | getPwmValues =>
      refine congrArg (J1772.setPwmValues · j1772) ?_
      apply map_find?_of_forall₂ _ _ messages
      · exact fun same => same.isResponse_eq (by decide) _ _
      · intro sent received same responds
        have long := length_le_of_isResponse responds
        rw [same.messageWord_eq (by decide) (by omega),
          same.messageWord_eq (by decide) (by omega)]
  | controlPwm | setPwm => rfl

/-! ## Reading on behind the damage -/

namespace FrameState

/-- The third byte of the message that is collected may differ. -/
inductive Twin : FrameState → FrameState → Prop
  | same (state : FrameState) : Twin state state
  | collecting {sent received : List UInt8} (missing : ℕ)
      (length : sent.length = received.length)
      (bytes : ∀ index, index ≠ 2 →
        messageByte sent index = messageByte received index) :
      Twin (.collecting sent missing) (.collecting received missing)

/-- The next byte is the third one of its message or the last one. -/
def Spot (state : FrameState) : Prop :=
  ∃ message missing, state = .collecting message missing ∧
    (message.length = 2 ∨ missing ≤ 1)

theorem messageByte_append_right {message : List UInt8} {index : ℕ}
    (outside : message.length ≤ index) (rest : List UInt8) :
    messageByte (message ++ rest) index =
      messageByte rest (index - message.length) := by
  simp only [messageByte, List.getD_eq_getElem?_getD,
    List.getElem?_append_right outside]

theorem Twin.next {sent received : FrameState} (twin : Twin sent received)
    (byte : UInt8) :
    Twin (sent.next byte).1 (received.next byte).1 ∧
      List.Forall₂ SameReadBytes (sent.next byte).2 (received.next byte).2 := by
  cases twin with
  | same =>
      exact ⟨.same _, sameReadBytes_refl _⟩
  | @collecting sent received missing length bytes =>
      have lengthAfter :
          (sent ++ [byte]).length = (received ++ [byte]).length := by
        rw [List.length_append, List.length_append, length]
      have bytesAfter : ∀ index, index ≠ 2 →
          messageByte (sent ++ [byte]) index =
            messageByte (received ++ [byte]) index := by
        intro index other
        by_cases inside : index < sent.length
        · rw [messageByte_append inside, messageByte_append (length ▸ inside),
            bytes index other]
        · rw [messageByte_append_right (by omega),
            messageByte_append_right (by omega), length]
      dsimp only [FrameState.next]
      split_ifs
      · exact ⟨.same _, .cons ⟨lengthAfter, fun index other _ =>
          bytesAfter index other⟩ .nil⟩
      · exact ⟨.collecting _ lengthAfter bytesAfter, .nil⟩

theorem Spot.next {state : FrameState} (spot : state.Spot)
    (sent received : UInt8) :
    Twin (state.next sent).1 (state.next received).1 ∧
      List.Forall₂ SameReadBytes (state.next sent).2
        (state.next received).2 := by
  obtain ⟨message, missing, rfl, place⟩ := spot
  have length (byte : UInt8) :
      (message ++ [byte]).length = message.length + 1 :=
    List.length_append
  dsimp only [FrameState.next]
  split_ifs with last
  · refine ⟨.same _, .cons ⟨?_, fun index _ inside => ?_⟩ .nil⟩
    · rw [length, length]
    · rw [length] at inside
      rw [messageByte_append (by omega), messageByte_append (by omega)]
  · refine ⟨.collecting _ ?_ fun index other => ?_, .nil⟩
    · rw [length, length]
    · have third : message.length = 2 := place.resolve_right last
      by_cases inside : index < message.length
      · rw [messageByte_append inside, messageByte_append inside]
      · rw [messageByte_append_right (by omega),
          messageByte_append_right (by omega)]
        obtain ⟨beyond, distance⟩ :
            ∃ beyond, index - message.length = beyond + 1 :=
          ⟨index - 3, by omega⟩
        rw [distance]
        rfl

/-- The streams that two deframers have in front of them: the damage is still
to come, or it is over. -/
inductive Alike : FrameState → List UInt8 → FrameState → List UInt8 → Prop
  | before {state : FrameState} {front : List UInt8} (sent received : UInt8)
      (back : List UInt8) (spot : (deframer.run state front).1.Spot) :
      Alike state (front ++ sent :: back) state (front ++ received :: back)
  | behind {sent received : FrameState} (twin : Twin sent received)
      (stream : List UInt8) : Alike sent stream received stream

theorem Twin.run {sent received : FrameState} (twin : Twin sent received)
    (stream : List UInt8) :
    Twin (deframer.run sent stream).1 (deframer.run received stream).1 ∧
      List.Forall₂ SameReadBytes (deframer.run sent stream).2
        (deframer.run received stream).2 :=
  StreamTransducer.run_forall₂ (fun twin byte => twin.next byte) twin stream

theorem Spot.run {state : FrameState} {front : List UInt8}
    (spot : (deframer.run state front).1.Spot) (sent received : UInt8)
    (back : List UInt8) :
    Twin (deframer.run state (front ++ sent :: back)).1
        (deframer.run state (front ++ received :: back)).1 ∧
      List.Forall₂ SameReadBytes
        (deframer.run state (front ++ sent :: back)).2
        (deframer.run state (front ++ received :: back)).2 := by
  obtain ⟨twin, now⟩ := spot.next sent received
  obtain ⟨twinAfter, later⟩ := twin.run back
  rw [StreamTransducer.run_append, StreamTransducer.run_append]
  exact ⟨twinAfter, List.rel_append (sameReadBytes_refl _)
    (List.rel_append now later)⟩

theorem Alike.chunk {sent received : FrameState}
    {sentChunk receivedChunk sentRest receivedRest : List UInt8}
    (alike : Alike sent (sentChunk ++ sentRest) received
      (receivedChunk ++ receivedRest))
    (sameCut : sentChunk.length = receivedChunk.length) :
    List.Forall₂ SameReadBytes (deframer.run sent sentChunk).2
        (deframer.run received receivedChunk).2 ∧
      Alike (deframer.run sent sentChunk).1 sentRest
        (deframer.run received receivedChunk).1 receivedRest := by
  generalize sentIs : sentChunk ++ sentRest = sentStream at alike
  generalize receivedIs : receivedChunk ++ receivedRest = receivedStream
    at alike
  cases alike with
  | @before front sentByte receivedByte back spot =>
      rcases List.append_eq_append_iff.mp sentIs with
        ⟨later, rfl, rfl⟩ | ⟨now, rfl, sameBack⟩
      · -- the damage is behind the chunk
        rw [List.append_assoc] at receivedIs
        obtain ⟨rfl, rfl⟩ := List.append_inj receivedIs sameCut.symm
        rw [StreamTransducer.run_append] at spot
        exact ⟨sameReadBytes_refl _, .before _ _ _ spot⟩
      · cases now with
        | nil =>
            obtain rfl : sentRest = sentByte :: back := sameBack.symm
            rw [List.append_nil] at sameCut ⊢
            have next : Alike (deframer.run sent front).1
                ([] ++ sentByte :: back) (deframer.run sent front).1
                ([] ++ receivedByte :: back) :=
              .before _ _ _ spot
            obtain ⟨rfl, rfl⟩ := List.append_inj receivedIs sameCut.symm
            exact ⟨sameReadBytes_refl _, next⟩
        | cons first now =>
            obtain ⟨rfl, rfl⟩ := List.cons.inj sameBack
            have receivedSplit : receivedChunk ++ receivedRest =
                (front ++ receivedByte :: now) ++ sentRest := by
              rw [receivedIs, List.append_assoc]
              rfl
            obtain ⟨rfl, rfl⟩ := List.append_inj receivedSplit
              (by simpa using sameCut.symm)
            obtain ⟨twin, messages⟩ := spot.run sentByte receivedByte now
            exact ⟨messages, .behind twin _⟩
  | behind twin =>
      obtain ⟨rfl, rfl⟩ := List.append_inj (receivedIs.trans sentIs.symm)
        sameCut.symm
      obtain ⟨twinAfter, messages⟩ := twin.run receivedChunk
      exact ⟨messages, .behind twinAfter _⟩

end FrameState

/-- The same calls, which read equally many bytes each time. -/
def SameCuts : List UartCall → List UartCall → Prop :=
  List.Forall₂ fun sent received =>
    sent.call = received.call ∧
      sent.received.map List.length = received.received.map List.length

theorem length_bytes_of_sameCut {sent received : UartCall}
    (sameCall : sent.call = received.call)
    (sameLength : sent.received.map List.length =
      received.received.map List.length) :
    sent.bytes.length = received.bytes.length := by
  unfold UartCall.bytes
  rw [sameCall]
  split_ifs
  · rfl
  · rw [← Option.getD_map List.length, ← Option.getD_map List.length,
      sameLength]

/-- Damage in a byte that is not read changes no measurement. -/
theorem run_j1772_eq_of_alike {sent received : List UartCall}
    {sentBuffer receivedBuffer : List UInt8}
    {sentState receivedState : FrameState}
    (cuts : SameCuts sent received) (sentResidue : Residue sentBuffer sentState)
    (receivedResidue : Residue receivedBuffer receivedState)
    (alike : sentState.Alike (receivedStream sent) receivedState
      (receivedStream received)) (j1772 : J1772) :
    (sent.foldl UartState.exchange ⟨sentBuffer, j1772⟩).j1772 =
      (received.foldl UartState.exchange ⟨receivedBuffer, j1772⟩).j1772 := by
  induction cuts generalizing sentBuffer receivedBuffer sentState receivedState
    j1772 with
  | nil => rfl
  | @cons first second sent received cut cuts ih =>
      obtain ⟨sameCall, sameLength⟩ := cut
      obtain ⟨sentMessages, sentAfter⟩ := first.read_tracks sentResidue
      obtain ⟨receivedMessages, receivedAfter⟩ :=
        second.read_tracks receivedResidue
      rw [receivedStream, receivedStream, List.flatMap_cons,
        List.flatMap_cons] at alike
      obtain ⟨messages, alikeAfter⟩ :=
        alike.chunk (length_bytes_of_sameCut sameCall sameLength)
      have stored : first.call.store (first.read sentBuffer).2 j1772 =
          second.call.store (second.read receivedBuffer).2 j1772 := by
        rw [sentMessages, receivedMessages, ← sameCall]
        exact first.call.store_eq_of_forall₂ messages j1772
      rw [List.foldl_cons, List.foldl_cons, UartState.exchange,
        UartState.exchange]
      dsimp only
      rw [stored]
      exact ih sentAfter receivedAfter alikeAfter _

/-! ## A stream with a damaged frame -/

/-- A frame with a damaged byte behind its length byte. -/
structure DamagedFrame where
  length : UInt8
  front : List UInt8
  sentByte : UInt8
  receivedByte : UInt8
  back : List UInt8
  size : front.length + 1 + back.length = length.toNat
  differs : receivedByte ≠ sentByte

namespace DamagedFrame

variable (damaged : DamagedFrame)

def frame (byte : UInt8) : Frame where
  length := damaged.length
  payload := damaged.front ++ byte :: damaged.back
  payload_length := by
    rw [List.length_append, List.length_cons, ← damaged.size]
    omega

def sent : Frame := damaged.frame damaged.sentByte
def received : Frame := damaged.frame damaged.receivedByte

end DamagedFrame

/-- Frames with their checksums, one of which is damaged on the way. -/
structure DamagedStream where
  leading : Garbage
  before : List (Frame × Garbage)
  damaged : DamagedFrame
  garbage : Garbage
  after : List (Frame × Garbage)
  checksums : ∀ entry ∈ before ++ (damaged.sent, garbage) :: after,
    calculateBcc entry.1.bytes = 0

namespace DamagedStream

variable (stream : DamagedStream)

def bytes (frame : Frame) : List UInt8 :=
  stream.leading.bytes ++
    framedBytes (stream.before ++ (frame, stream.garbage) :: stream.after)

def sentBytes : List UInt8 := stream.bytes stream.damaged.sent
def receivedBytes : List UInt8 := stream.bytes stream.damaged.received

theorem run_bytes (frame : Frame) :
    (deframer.run .hunting (stream.bytes frame)).2 =
      (stream.before ++ (frame, stream.garbage) :: stream.after).map
        fun entry => entry.1.bytes := by
  rw [bytes, StreamTransducer.run_append,
    deframer_run_garbage stream.leading.noStart, deframer_run_framedBytes]
  rfl

theorem calculateBcc_received :
    calculateBcc stream.damaged.received.bytes ≠ 0 := by
  have sent := stream.checksums (stream.damaged.sent, stream.garbage)
    (by simp)
  rw [← sent]
  exact calculateBcc_altered stream.damaged.differs
    (startByte :: stream.damaged.length :: stream.damaged.front) _

/-- The damaged frame is the only message with a wrong checksum. -/
theorem calculateBcc_ne_zero_iff {message : List UInt8}
    (member : message ∈ (deframer.run .hunting stream.receivedBytes).2) :
    calculateBcc message ≠ 0 ↔ message = stream.damaged.received.bytes := by
  constructor
  · intro wrong
    rw [receivedBytes, run_bytes] at member
    obtain ⟨entry, inStream, rfl⟩ := List.mem_map.mp member
    rcases List.mem_append.mp inStream with before | behind
    · exact absurd (stream.checksums entry (List.mem_append_left _ before))
        wrong
    · rcases List.mem_cons.mp behind with rfl | after
      · rfl
      · exact absurd (stream.checksums entry
          (List.mem_append_right _ (List.mem_cons_of_mem _ after))) wrong
  · rintro rfl
    exact stream.calculateBcc_received

theorem framedBytes_append (first second : List (Frame × Garbage)) :
    framedBytes (first ++ second) =
      framedBytes first ++ framedBytes second := by
  induction first with
  | nil => rfl
  | cons entry first ih =>
      rw [List.cons_append, framedBytes, framedBytes, ih]
      simp only [List.append_assoc]

/-- The bytes in front of the damage. -/
theorem alike (unread : stream.damaged.front = [] ∨ stream.damaged.back = []) :
    FrameState.Alike .hunting stream.sentBytes .hunting
      stream.receivedBytes := by
  have split (byte : UInt8) : stream.bytes (stream.damaged.frame byte) =
      (stream.leading.bytes ++ framedBytes stream.before ++
        startByte :: stream.damaged.length :: stream.damaged.front) ++
      byte :: (stream.damaged.back ++ stream.garbage.bytes ++
        framedBytes stream.after) := by
    rw [bytes, framedBytes_append, framedBytes]
    simp [Frame.bytes, DamagedFrame.frame]
  have size := stream.damaged.size
  rw [sentBytes, receivedBytes, DamagedFrame.sent, DamagedFrame.received, split,
    split]
  refine .before _ _ _ ⟨startByte :: stream.damaged.length ::
    stream.damaged.front, stream.damaged.length.toNat -
      stream.damaged.front.length, ?_, ?_⟩
  · have notZero : stream.damaged.length.toNat ≠ 0 := by omega
    have collected := deframer_run_collecting
      [startByte, stream.damaged.length] stream.damaged.front
      stream.damaged.length.toNat (by omega)
    rw [StreamTransducer.run_append, StreamTransducer.run_append,
      deframer_run_garbage stream.leading.noStart, deframer_run_framedBytes]
    simp [FrameState.next, notZero, collected]
  · rcases unread with front | back
    · left
      rw [front]
      rfl
    · right
      rw [back, List.length_nil] at size
      omega

end DamagedStream

/-- A field is set only from a frame of the stream with the header of the
response.  When a byte behind the length byte has been damaged, the damaged
frame is the only one with a wrong checksum from which a field can be set; when
it is the third byte or the checksum, all fields are set as without the
damage. -/
theorem measurements_of_damaged_stream :
    (∀ (state : UartState) uartCall, (state.exchange uartCall).j1772 =
      uartCall.call.store
        (uartCall.used (uartCall.read state.incomingBuffer).2).toList
        state.j1772) ∧
    (∀ calls uartCall message, (uartCall, message) ∈ usedMessages [] calls →
      uartCall.call.isResponse message = true ∧ IsFrame message) ∧
    ∀ stream : DamagedStream,
      (∀ calls, receivedStream calls = stream.receivedBytes →
        ∀ uartCall message, (uartCall, message) ∈ usedMessages [] calls →
          (calculateBcc message ≠ 0 ↔
            message = stream.damaged.received.bytes)) ∧
      (stream.damaged.front = [] ∨ stream.damaged.back = [] →
        ∀ sent received, SameCuts sent received →
          receivedStream sent = stream.sentBytes →
          receivedStream received = stream.receivedBytes →
          ∀ j1772, (sent.foldl UartState.exchange ⟨[], j1772⟩).j1772 =
            (received.foldl UartState.exchange ⟨[], j1772⟩).j1772) := by
  have hunting : FrameState.hunting.Consistent := trivial
  refine ⟨fun state uartCall => uartCall.call.store_eq _ _, ?_,
    fun stream => ⟨?_, ?_⟩⟩
  · intro calls uartCall message member
    obtain ⟨responds, inStream⟩ := mem_usedMessages residue_nil member
    exact ⟨responds, isFrame_of_mem_run hunting inStream⟩
  · intro calls whole uartCall message member
    obtain ⟨-, inStream⟩ := mem_usedMessages residue_nil member
    rw [whole] at inStream
    exact stream.calculateBcc_ne_zero_iff inStream
  · intro unread sent received cuts sentWhole receivedWhole j1772
    have alike := stream.alike unread
    rw [← sentWhole, ← receivedWhole] at alike
    exact run_j1772_eq_of_alike cuts residue_nil residue_nil alike j1772

/-- A response with 256 units of high voltage, damaged in its third byte. -/
def damagedThird : DamagedStream where
  leading := ⟨[], nofun⟩
  before := []
  damaged := ⟨0x07, [], 0x00, 0x01, [0x94, 0x00, 0x01, 0x00, 0x00, 0x90],
    by decide, by decide⟩
  garbage := ⟨[], nofun⟩
  after := []
  checksums := by decide

/-- A read of the response in one piece. -/
def pilotCall (bytes : List UInt8) : UartCall :=
  ⟨.readPilotVoltage, some bytes⟩

theorem measurements_of_damagedThird :
    let sent := pilotCall damagedThird.sentBytes
    let received := pilotCall damagedThird.receivedBytes
    let j1772 := (PilotGlobals.initial false).j1772
    calculateBcc damagedThird.receivedBytes ≠ 0 ∧
      IsFrame damagedThird.receivedBytes ∧
      ([sent].foldl UartState.exchange ⟨[], j1772⟩).j1772 =
        ([received].foldl UartState.exchange ⟨[], j1772⟩).j1772 := by
  intro sent received j1772
  obtain ⟨-, frames, streams⟩ := measurements_of_damaged_stream
  obtain ⟨checksum, unread⟩ := streams damagedThird
  have used : (received, damagedThird.receivedBytes) ∈
      usedMessages [] [received] :=
    List.mem_cons_self
  exact ⟨(checksum [received] rfl _ _ used).mpr rfl, (frames _ _ _ used).2,
    unread (.inl rfl) [sent] [received] (.cons ⟨rfl, rfl⟩ .nil) rfl rfl j1772⟩

/-- The same response, damaged in a byte of its high voltage. -/
def damagedVoltage : DamagedStream where
  leading := ⟨[], nofun⟩
  before := []
  damaged := ⟨0x07, [0x00, 0x94, 0x00], 0x01, 0x02, [0x00, 0x00, 0x90],
    by decide, by decide⟩
  garbage := ⟨[], nofun⟩
  after := []
  checksums := by decide

/-- The damaged voltage is stored. -/
theorem measurement_of_damagedVoltage :
    let call := pilotCall damagedVoltage.receivedBytes
    let j1772 := (PilotGlobals.initial false).j1772
    calculateBcc damagedVoltage.sentBytes = 0 ∧
      calculateBcc damagedVoltage.receivedBytes ≠ 0 ∧
      (call, damagedVoltage.receivedBytes) ∈ usedMessages [] [call] ∧
      (UartState.exchange ⟨[], j1772⟩ call).j1772.vpilot = 14.848 := by
  refine ⟨by decide, by decide, List.mem_cons_self, by decide +kernel⟩

end OpenRTH
