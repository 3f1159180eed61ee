import OpenRTH.RelayBuffers
import OpenRTH.StreamSegments

/-!
# Partial transfers of NetSock

`NetSock::send` and `NetSock::receive` call the operating system until all bytes
are through.  A call of `recv` that only peeks leaves the bytes where they are,
so the next one sees the same bytes again.  The main result says for which
partial results the buffer holds the next bytes of the stream.
-/

namespace OpenRTH

/-- The result of `recv` or `send`: -1, or a number of bytes. -/
inductive TransferResult
  | failed
  | count (bytes : ℕ)
  deriving DecidableEq

/-! ## Sending -/

/-- The end of a call of `NetSock::send`, and the bytes that the socket took. -/
structure SendEnd where
  result : ℤ
  handed : List UInt8

/-- The loop of `NetSock::send` from `ptr` on, `none` while a call has not come
back.  `send` never takes more than it is given. -/
def netSendLoop (length : ℕ) :
    List TransferResult → List UInt8 → List UInt8 → Option SendEnd
  | [], ptr, handed => if ptr.length = 0 then some ⟨length, handed⟩ else none
  | result :: results, ptr, handed =>
      if ptr.length = 0 then some ⟨length, handed⟩
      else
        match result with
        | .failed => some ⟨-1, handed⟩
        | .count bytes =>
            if bytes = 0 then some ⟨(length : ℤ) - ptr.length, handed⟩
            else
              netSendLoop length results (ptr.drop bytes)
                (handed ++ ptr.take bytes)

/-- `NetSock::send`; `opened` says that `m_sd` is not negative. -/
def netSend (opened : Bool) (buffer : List UInt8)
    (results : List TransferResult) : Option SendEnd :=
  if buffer.length = 0 then some ⟨0, []⟩
  else if ¬ opened then some ⟨-1, []⟩
  else netSendLoop buffer.length results buffer []

/-- All of the buffer is sent when its length is returned, and else a part from
its front. -/
def SendsFront (opened : Bool) (buffer : List UInt8)
    (results : List TransferResult) : Prop :=
  ∀ ended, netSend opened buffer results = some ended →
    (ended.result = buffer.length → ended.handed = buffer) ∧
      ended.handed <+: buffer

theorem netSendLoop_done (length : ℕ) (results : List TransferResult)
    {ptr : List UInt8} (done : ptr.length = 0) (handed : List UInt8) :
    netSendLoop length results ptr handed = some ⟨length, handed⟩ := by
  rcases results with _ | ⟨_ | _, _⟩ <;> rw [netSendLoop, if_pos done]

theorem netSendLoop_front {buffer ptr handed : List UInt8}
    (split : buffer = handed ++ ptr) {results : List TransferResult}
    {ended : SendEnd}
    (returned : netSendLoop buffer.length results ptr handed = some ended) :
    (ended.result = buffer.length → ended.handed = buffer) ∧
      ended.handed <+: buffer := by
  induction results generalizing ptr handed with
  | nil =>
      rw [netSendLoop] at returned
      split_ifs at returned with done
      cases returned
      rw [List.length_eq_zero_iff.mp done, List.append_nil] at split
      exact ⟨fun _ => split.symm, split ▸ List.prefix_rfl⟩
  | cons result results ih =>
      by_cases done : ptr.length = 0
      · rw [netSendLoop_done _ _ done] at returned
        cases returned
        rw [List.length_eq_zero_iff.mp done, List.append_nil] at split
        exact ⟨fun _ => split.symm, split ▸ List.prefix_rfl⟩
      · have partly : handed <+: buffer := ⟨ptr, split.symm⟩
        cases result with
        | failed =>
            rw [netSendLoop, if_neg done] at returned
            cases returned
            exact ⟨fun whole => by dsimp only at whole; omega, partly⟩
        | count bytes =>
            rw [netSendLoop, if_neg done] at returned
            split_ifs at returned with closed
            · cases returned
              exact ⟨fun whole => by dsimp only at whole; omega, partly⟩
            · refine ih ?_ returned
              rw [split, List.append_assoc, List.take_append_drop]

theorem netSend_front (opened : Bool) (buffer : List UInt8)
    (results : List TransferResult) : SendsFront opened buffer results := by
  intro ended returned
  unfold netSend at returned
  split_ifs at returned with empty
  · cases returned
    rw [List.length_eq_zero_iff.mp empty]
    exact ⟨fun _ => rfl, List.nil_prefix⟩
  · have split : buffer = [] ++ buffer := rfl
    exact netSendLoop_front split returned
  · cases returned
    refine ⟨fun whole => ?_, List.nil_prefix⟩
    dsimp only at whole
    omega

/-! ## Receiving -/

/-- The end of a call of `NetSock::receive`: the bytes in the caller's buffer
and the position in the stream. -/
structure ReceiveEnd where
  result : ℤ
  buffer : List UInt8
  position : ℕ

/-- The loop of `NetSock::receive`, with the bytes that are in the buffer so
far.  `recv` never delivers more than was asked for. -/
def netReceiveLoop (length : ℕ) (peek : Bool) (stream : Stream' UInt8) :
    List TransferResult → ℕ → ℕ → List UInt8 → Option ReceiveEnd
  | [], bytesRemaining, position, buffer =>
      if bytesRemaining = 0 then some ⟨length, buffer, position⟩ else none
  | result :: results, bytesRemaining, position, buffer =>
      if bytesRemaining = 0 then some ⟨length, buffer, position⟩
      else
        match result with
        | .failed => some ⟨-1, buffer, position⟩
        | .count bytes =>
            if bytes = 0 then some ⟨0, buffer, position⟩
            else
              let bytesRcvd := min bytes bytesRemaining
              netReceiveLoop length peek stream results
                (bytesRemaining - bytesRcvd)
                (if peek then position else position + bytesRcvd)
                (buffer ++ (stream.drop position).take bytesRcvd)

/-- `NetSock::receive`. -/
def netReceive (stream : Stream' UInt8) (position length : ℕ) (peek : Bool)
    (results : List TransferResult) : Option ReceiveEnd :=
  if length = 0 then some ⟨0, [], position⟩
  else netReceiveLoop length peek stream results length position []

/-- A call that returns its length has the next bytes in the buffer and has
consumed them, unless it peeks. -/
def ReceivesNext (stream : Stream' UInt8) (position length : ℕ) (peek : Bool)
    (results : List TransferResult) : Prop :=
  ∀ ended, netReceive stream position length peek results = some ended →
    ended.result = length →
      ended.buffer = (stream.drop position).take length ∧
        ended.position = if peek then position else position + length

/-- The sizes of the partial results that make up the length, if they do. -/
def partialSizes : List TransferResult → ℕ → Option (List ℕ)
  | [], bytesRemaining => if bytesRemaining = 0 then some [] else none
  | result :: results, bytesRemaining =>
      if bytesRemaining = 0 then some []
      else
        match result with
        | .failed => none
        | .count bytes =>
            if bytes = 0 then none
            else
              (partialSizes results
                (bytesRemaining - min bytes bytesRemaining)).map
                (min bytes bytesRemaining :: ·)

/-- The pieces that the partial results put into the buffer. -/
def receivedPieces (stream : Stream' UInt8) (peek : Bool) (sizes : List ℕ) :
    List (List UInt8) :=
  if peek then sizes.map fun size => stream.take size
  else StreamSegments.segments stream sizes

theorem partialSizes_done (results : List TransferResult) :
    partialSizes results 0 = some [] := by
  rcases results with _ | ⟨_ | _, _⟩ <;> rfl

theorem netReceiveLoop_done (length : ℕ) (peek : Bool)
    (stream : Stream' UInt8) (results : List TransferResult) (position : ℕ)
    (buffer : List UInt8) :
    netReceiveLoop length peek stream results 0 position buffer =
      some ⟨length, buffer, position⟩ := by
  rcases results with _ | ⟨_ | _, _⟩ <;> rfl

section OneResult

variable {bytesRemaining bytes : ℕ} (more : bytesRemaining ≠ 0)
  (length : ℕ) (peek : Bool) (stream : Stream' UInt8)
  (results : List TransferResult) (position : ℕ) (buffer : List UInt8)

include more

theorem netReceiveLoop_failed :
    netReceiveLoop length peek stream (.failed :: results) bytesRemaining
      position buffer = some ⟨-1, buffer, position⟩ := by
  rw [netReceiveLoop, if_neg more]

theorem netReceiveLoop_closed :
    netReceiveLoop length peek stream (.count 0 :: results) bytesRemaining
      position buffer = some ⟨0, buffer, position⟩ := by
  rw [netReceiveLoop, if_neg more]
  rfl

theorem netReceiveLoop_count (received : bytes ≠ 0) :
    netReceiveLoop length peek stream (.count bytes :: results) bytesRemaining
        position buffer =
      netReceiveLoop length peek stream results
        (bytesRemaining - min bytes bytesRemaining)
        (if peek then position else position + min bytes bytesRemaining)
        (buffer ++ (stream.drop position).take (min bytes bytesRemaining)) := by
  rw [netReceiveLoop, if_neg more]
  exact if_neg received

theorem partialSizes_failed :
    partialSizes (.failed :: results) bytesRemaining = none := by
  rw [partialSizes, if_neg more]

theorem partialSizes_closed :
    partialSizes (.count 0 :: results) bytesRemaining = none := by
  rw [partialSizes, if_neg more]
  rfl

theorem partialSizes_count (received : bytes ≠ 0) :
    partialSizes (.count bytes :: results) bytesRemaining =
      (partialSizes results (bytesRemaining - min bytes bytesRemaining)).map
        (min bytes bytesRemaining :: ·) := by
  rw [partialSizes, if_neg more]
  exact if_neg received

end OneResult

theorem sum_partialSizes {results : List TransferResult}
    {bytesRemaining : ℕ} {sizes : List ℕ}
    (complete : partialSizes results bytesRemaining = some sizes) :
    sizes.sum = bytesRemaining := by
  induction results generalizing bytesRemaining sizes with
  | nil =>
      rw [partialSizes] at complete
      split_ifs at complete with done
      cases complete
      exact done.symm
  | cons result results ih =>
      by_cases done : bytesRemaining = 0
      · subst done
        rw [partialSizes_done] at complete
        cases complete
        rfl
      · cases result with
        | failed =>
            rw [partialSizes_failed done] at complete
            cases complete
        | count bytes =>
            by_cases closed : bytes = 0
            · subst closed
              rw [partialSizes_closed done] at complete
              cases complete
            rw [partialSizes_count done _ closed] at complete
            obtain ⟨later, rest, rfl⟩ := Option.map_eq_some_iff.mp complete
            rw [List.sum_cons, ih rest]
            omega

theorem receivedPieces_cons (stream : Stream' UInt8) (peek : Bool)
    (position size : ℕ) (sizes : List ℕ) :
    receivedPieces (stream.drop position) peek (size :: sizes) =
      (stream.drop position).take size ::
        receivedPieces
          (stream.drop (if peek then position else position + size)) peek
          sizes := by
  cases peek with
  | true => rfl
  | false =>
      simp only [receivedPieces, Bool.false_eq_true, if_false,
        StreamSegments.segments, Stream'.drop_drop]

/-- The end of a call whose partial results have the sizes. -/
def completedReceive (stream : Stream' UInt8) (position length : ℕ)
    (peek : Bool) (buffer : List UInt8) (sizes : List ℕ) : ReceiveEnd :=
  ⟨length,
    buffer ++ (receivedPieces (stream.drop position) peek sizes).flatten,
    if peek then position else position + sizes.sum⟩

theorem completedReceive_nil (stream : Stream' UInt8) (position length : ℕ)
    (peek : Bool) (buffer : List UInt8) :
    completedReceive stream position length peek buffer [] =
      ⟨length, buffer, position⟩ := by
  cases peek <;>
    simp [completedReceive, receivedPieces, StreamSegments.segments]

theorem completedReceive_cons (stream : Stream' UInt8)
    (position length : ℕ) (peek : Bool) (buffer : List UInt8) (size : ℕ)
    (sizes : List ℕ) :
    completedReceive stream position length peek buffer (size :: sizes) =
      completedReceive stream
        (if peek then position else position + size) length peek
        (buffer ++ (stream.drop position).take size) sizes := by
  unfold completedReceive
  rw [receivedPieces_cons, List.flatten_cons, List.append_assoc, List.sum_cons]
  cases peek with
  | true => rfl
  | false => simp only [Bool.false_eq_true, if_false, Nat.add_assoc]

/-- The length is returned exactly when the partial results make it up. -/
theorem netReceiveLoop_length_iff {length : ℕ} (positive : 0 < length)
    {peek : Bool} {stream : Stream' UInt8} {results : List TransferResult}
    {bytesRemaining position : ℕ} {buffer : List UInt8} {ended : ReceiveEnd} :
    (netReceiveLoop length peek stream results bytesRemaining position buffer =
        some ended ∧ ended.result = length) ↔
      ∃ sizes, partialSizes results bytesRemaining = some sizes ∧
        ended = completedReceive stream position length peek buffer sizes := by
  have finished {position : ℕ} {buffer : List UInt8} :
      (some (ReceiveEnd.mk length buffer position) = some ended ∧
        ended.result = length) ↔
      ∃ sizes, some [] = some sizes ∧
        ended = completedReceive stream position length peek buffer sizes := by
    simp only [Option.some_inj, exists_eq_left', completedReceive_nil]
    constructor
    · exact fun ends => ends.1.symm
    · rintro rfl
      exact ⟨rfl, rfl⟩
  have stopped {result : ℤ} {position : ℕ} {buffer : List UInt8}
      (short : result ≤ 0) :
      ¬ (some (ReceiveEnd.mk result buffer position) = some ended ∧
        ended.result = length) := by
    rintro ⟨ends, whole⟩
    cases ends
    dsimp only at whole
    omega
  induction results generalizing bytesRemaining position buffer with
  | nil =>
      by_cases done : bytesRemaining = 0
      · subst done
        rw [netReceiveLoop_done, partialSizes_done]
        exact finished
      · simp [netReceiveLoop, partialSizes, done]
  | cons result results ih =>
      by_cases done : bytesRemaining = 0
      · subst done
        rw [netReceiveLoop_done, partialSizes_done]
        exact finished
      · cases result with
        | failed =>
            rw [netReceiveLoop_failed done, partialSizes_failed done]
            exact iff_of_false (stopped (by decide)) (by simp)
        | count bytes =>
            by_cases closed : bytes = 0
            · subst closed
              rw [netReceiveLoop_closed done, partialSizes_closed done]
              exact iff_of_false (stopped le_rfl) (by simp)
            · rw [netReceiveLoop_count done _ _ _ _ _ _ closed,
                partialSizes_count done _ closed]
              refine ih.trans ?_
              constructor
              · rintro ⟨sizes, rest, ends⟩
                rw [← completedReceive_cons] at ends
                exact ⟨_, Option.map_eq_some_iff.mpr ⟨sizes, rest, rfl⟩, ends⟩
              · rintro ⟨all, complete, ends⟩
                obtain ⟨sizes, rest, rfl⟩ := Option.map_eq_some_iff.mp complete
                rw [completedReceive_cons] at ends
                exact ⟨sizes, rest, ends⟩

/-- Every partial result finds at the front of the stream what stands at its own
place. -/
def FrontRepeats (stream : Stream' UInt8) (sizes : List ℕ) : Prop :=
  (sizes.map fun size => stream.take size) =
    StreamSegments.segments stream sizes

/-- The pieces make up the next bytes when they are the segments of the
stream. -/
theorem flatten_receivedPieces_iff (stream : Stream' UInt8) (peek : Bool)
    (sizes : List ℕ) :
    (receivedPieces stream peek sizes).flatten = stream.take sizes.sum ↔
      (peek = true → FrontRepeats stream sizes) := by
  rw [← StreamSegments.flatten_segments]
  cases peek with
  | false => exact iff_of_true rfl nofun
  | true =>
      have lengths : (sizes.map fun size => stream.take size).map List.length =
          (StreamSegments.segments stream sizes).map List.length := by
        rw [StreamSegments.map_length_segments, List.map_map]
        simp [Function.comp_def]
      rw [FrontRepeats, List.eq_iff_flatten_eq, and_iff_left lengths]
      simp only [receivedPieces, if_true, true_imp_iff]

/-- The partial results of a call that peeks come from a stream that repeats
itself. -/
def PeeksRepeat (stream : Stream' UInt8) (position length : ℕ)
    (results : List TransferResult) : Prop :=
  ∀ sizes, partialSizes results length = some sizes →
    FrontRepeats (stream.drop position) sizes

theorem netReceive_receivesNext_iff (stream : Stream' UInt8)
    (position length : ℕ) (peek : Bool) (results : List TransferResult) :
    ReceivesNext stream position length peek results ↔
      (peek = true → PeeksRepeat stream position length results) := by
  unfold ReceivesNext netReceive
  rcases Nat.eq_zero_or_pos length with rfl | positive
  · refine iff_of_true ?_ ?_
    · rintro ended ends -
      cases ends
      cases peek <;> exact ⟨rfl, rfl⟩
    · intro peeks sizes complete
      rw [partialSizes_done] at complete
      cases complete
      rfl
  · rw [if_neg (by omega)]
    constructor
    · intro next peeks sizes complete
      obtain ⟨ends, whole⟩ := (netReceiveLoop_length_iff positive).mpr
        ⟨sizes, complete, rfl⟩
      have buffer := (next _ ends whole).1
      rw [← sum_partialSizes complete] at buffer
      exact (flatten_receivedPieces_iff _ _ _).mp buffer peeks
    · intro repeats ended ends whole
      obtain ⟨sizes, complete, rfl⟩ := (netReceiveLoop_length_iff positive).mp
        ⟨ends, whole⟩
      have sum := sum_partialSizes complete
      subst sum
      exact ⟨(flatten_receivedPieces_iff _ _ _).mpr
        fun peeks => repeats peeks sizes complete, rfl⟩

/-- `send` is exact for all partial results, and `receive` is, but for a call
that peeks and gets other bytes in several parts. -/
theorem netSock_transfers_iff (opened : Bool) (buffer : List UInt8)
    (sent received : List TransferResult) (stream : Stream' UInt8)
    (position length : ℕ) (peek : Bool) :
    SendsFront opened buffer sent ∧
      (ReceivesNext stream position length peek received ↔
        peek = false ∨ PeeksRepeat stream position length received) := by
  refine ⟨netSend_front opened buffer sent, ?_⟩
  rw [netReceive_receivesNext_iff]
  cases peek <;> simp

/-- Two bytes that are peeked one after the other. -/
theorem netReceive_peek_not_next :
    ¬ ReceivesNext (fun index => UInt8.ofNat index) 0 2 true
      [.count 1, .count 1] := by
  intro next
  have buffer := (next _ rfl rfl).1
  revert buffer
  decide

/-! ## The relay's buffer -/

/-- What `recv` delivers for the results of a call that does not peek. -/
def deliveries (stream : Stream' UInt8) :
    List TransferResult → ℕ → ℕ → StreamResult
  | [], _, _ => .failed
  | .failed :: _, _, 0 => .failed
  | .count bytes :: _, position, 0 =>
      .received ((stream.drop position).take bytes)
  | .failed :: results, position, call + 1 =>
      deliveries stream results position call
  | .count bytes :: results, position, call + 1 =>
      deliveries stream results (position + bytes) call

section Deliveries

variable {size : ℕ} (length ptr : ℕ) {bytesRemaining bytes : ℕ}
  (more : bytesRemaining ≠ 0) (stream : Stream' UInt8)
  (results : List TransferResult) (position : ℕ)
  (buffer : FixedBuffer UInt8 size)

include more

theorem receiveLoop_failed :
    receiveLoop length (deliveries stream (.failed :: results) position) ptr
      bytesRemaining buffer = some (-1, buffer) := by
  rw [receiveLoop, if_neg more]
  rfl

theorem receiveLoop_closed :
    receiveLoop length (deliveries stream (.count 0 :: results) position) ptr
      bytesRemaining buffer = some (0, buffer) := by
  rw [receiveLoop, if_neg more]
  rfl

theorem receiveLoop_count (received : bytes ≠ 0) :
    receiveLoop length (deliveries stream (.count bytes :: results) position)
        ptr bytesRemaining buffer =
      (buffer.store ptr ((stream.drop position).take
        (min bytes bytesRemaining))).bind
        (receiveLoop length (deliveries stream results (position + bytes))
          (ptr + min bytes bytesRemaining)
          (bytesRemaining - min bytes bytesRemaining)) := by
  have delivered : deliveries stream (.count bytes :: results) position 0 =
      .received ((stream.drop position).take bytes) := rfl
  have later : (fun call => deliveries stream (.count bytes :: results)
      position (call + 1)) = deliveries stream results (position + bytes) :=
    rfl
  have nonempty : (stream.drop position).take bytes ≠ [] := by
    rwa [Ne, ← List.length_eq_zero_iff, Stream'.length_take]
  rw [receiveLoop, if_neg more]
  simp only [delivered, later, if_neg nonempty, Stream'.take_take,
    Stream'.length_take]

end Deliveries

/-- The loop on an array that the bytes fit into. -/
theorem receiveLoop_deliveries {size length ptr bytesRemaining : ℕ}
    {stream : Stream' UInt8} {results : List TransferResult} {position : ℕ}
    {written : List UInt8} {ended : ReceiveEnd}
    {buffer : FixedBuffer UInt8 size} (fits : ptr + bytesRemaining ≤ size)
    (front : buffer.contents.take ptr = written)
    (returned : netReceiveLoop length false stream results bytesRemaining
      position written = some ended) :
    ∃ after, receiveLoop length (deliveries stream results position) ptr
        bytesRemaining buffer = some (ended.result, after) ∧
      after.contents.take ended.buffer.length = ended.buffer := by
  have stays {ptr : ℕ} {written : List UInt8}
      {buffer : FixedBuffer UInt8 size} {result : ℤ} (inside : ptr ≤ size)
      (front : buffer.contents.take ptr = written) :
      ∃ after, some (result, buffer) = some (result, after) ∧
        after.contents.take written.length = written := by
    have length : written.length = ptr := by
      rw [← front, List.length_take, buffer.length_contents, min_eq_left inside]
    exact ⟨buffer, rfl, by rw [length, front]⟩
  induction results generalizing ptr bytesRemaining position written buffer with
  | nil =>
      rw [netReceiveLoop] at returned
      split_ifs at returned with done
      cases returned
      rw [receiveLoop, if_pos done]
      exact stays (by omega) front
  | cons result results ih =>
      by_cases done : bytesRemaining = 0
      · rw [receiveLoop, if_pos done]
        subst done
        rw [netReceiveLoop_done] at returned
        cases returned
        exact stays (by omega) front
      · cases result with
        | failed =>
            rw [netReceiveLoop_failed done] at returned
            cases returned
            rw [receiveLoop_failed _ _ done]
            exact stays (by omega) front
        | count bytes =>
            by_cases closed : bytes = 0
            · subst closed
              rw [netReceiveLoop_closed done] at returned
              cases returned
              rw [receiveLoop_closed _ _ done]
              exact stays (by omega) front
            · rw [netReceiveLoop_count done _ _ _ _ _ _ closed,
                if_neg Bool.false_ne_true] at returned
              rw [receiveLoop_count _ _ done _ _ _ _ closed]
              generalize size : min bytes bytesRemaining = rcvd at returned ⊢
              have storedLength : ((stream.drop position).take rcvd).length =
                  rcvd := Stream'.length_take _ _
              obtain ⟨next, stored⟩ : ∃ next, buffer.store ptr
                  ((stream.drop position).take rcvd) = some next :=
                FixedBuffer.exists_store (by omega)
              rw [stored, Option.bind_some]
              have nextFront := FixedBuffer.take_contents_store
                (by omega) stored
              rw [storedLength, front] at nextFront
              -- `recv` had more than was asked for only in the last call
              by_cases whole : rcvd = bytes
              · rw [← whole]
                exact ih (by omega) nextFront returned
              · have done : bytesRemaining - rcvd = 0 := by omega
                rw [done, netReceiveLoop_done] at returned
                cases returned
                rw [done, receiveLoop, if_pos rfl]
                exact stays (by omega) nextFront

/-- The relay tasks receive what a call that does not peek receives. -/
theorem receive_deliveries {size length : ℕ} (fits : length ≤ size)
    {stream : Stream' UInt8} {results : List TransferResult} {position : ℕ}
    {ended : ReceiveEnd} (buffer : FixedBuffer UInt8 size)
    (returned : netReceive stream position length false results =
      some ended) :
    ∃ after, receive length (deliveries stream results position) buffer =
        some (ended.result, after) ∧
      after.contents.take ended.buffer.length = ended.buffer := by
  unfold netReceive at returned
  unfold receive
  split_ifs at returned ⊢
  · cases returned
    exact ⟨buffer, rfl, rfl⟩
  · exact receiveLoop_deliveries (by omega) (List.take_zero) returned

end OpenRTH
