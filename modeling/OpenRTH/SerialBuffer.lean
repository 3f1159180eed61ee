import OpenRTH.SerialFraming

/-!
# The serial reassembly buffer

What `read_serial_data` leaves in its persistent buffer.  The loop keeps garbage
only in front of an unfinished frame, or when the buffer is too short to be
scanned; a frame that is finished later takes the garbage in front of it along.
So the buffer never holds more than one unfinished frame and what came with its
start byte.
-/

namespace OpenRTH

/-- The buffer after a sequence of calls, each with what `read` returned. -/
def incomingBufferAfter (calls : List (Option (List UInt8))) : List UInt8 :=
  calls.foldl
    (fun incomingBuffer call => (readSerialData incomingBuffer call).1) []

/-- The bytes before the first start byte. -/
def garbageBytes (incomingBuffer : List UInt8) : List UInt8 :=
  incomingBuffer.takeWhile (· != startByte)

/-- The bytes from the first start byte on. -/
def frameBytes (incomingBuffer : List UInt8) : List UInt8 :=
  incomingBuffer.dropWhile (· != startByte)

theorem garbageBytes_append_frameBytes (incomingBuffer : List UInt8) :
    garbageBytes incomingBuffer ++ frameBytes incomingBuffer =
      incomingBuffer :=
  List.takeWhile_append_dropWhile

theorem length_garbageBytes_add (incomingBuffer : List UInt8) :
    (garbageBytes incomingBuffer).length + (frameBytes incomingBuffer).length =
      incomingBuffer.length := by
  rw [← List.length_append, garbageBytes_append_frameBytes]

theorem length_garbageBytes_le (incomingBuffer : List UInt8) :
    (garbageBytes incomingBuffer).length ≤ incomingBuffer.length :=
  (List.takeWhile_prefix _).length_le

/-! ## Unfinished frames -/

/-- The bytes do not begin with a complete frame. -/
def Unfinished (bytes : List UInt8) : Prop :=
  ∀ frame : Frame, ¬ frame.bytes <+: bytes

theorem Residue.unfinished {incomingBuffer : List UInt8} {state : FrameState}
    (residue : Residue incomingBuffer state) :
    Unfinished (frameBytes incomingBuffer) := by
  rintro frame ⟨after, split⟩
  have read := deframer_run_frame _ _ frame.payload_length
  rw [← Frame.bytes] at read
  have silent : (deframer.run .hunting (frameBytes incomingBuffer)).2 = [] := by
    rw [frameBytes, deframer_run_dropWhile, residue]
  rw [← split, StreamTransducer.run_append, read] at silent
  simp at silent

/-- An unfinished frame has at most a start byte, a length byte and 254
others. -/
theorem Unfinished.length_le {incomingBuffer : List UInt8}
    (unfinished : Unfinished (frameBytes incomingBuffer)) :
    (frameBytes incomingBuffer).length ≤ 256 := by
  cases found : frameBytes incomingBuffer with
  | nil => simp
  | cons first rest =>
      obtain rfl : first = startByte := eq_startByte_of_dropWhile found
      cases rest with
      | nil => simp
      | cons length payload =>
          by_contra long
          simp only [List.length_cons] at long
          have bound := length.toNat_lt
          refine unfinished ⟨length, payload.take length.toNat, ?_⟩ ?_
          · rw [List.length_take]
            omega
          · rw [found, Frame.bytes]
            exact List.cons_prefix_cons.mpr
              ⟨rfl, List.cons_prefix_cons.mpr ⟨rfl, List.take_prefix _ _⟩⟩

/-! ## What the loop leaves behind -/

/-- The loop leaves the buffer as it is, clears it, or has extracted the frame
at the first start byte. -/
theorem extractMessages_left (iterations : ℕ) (incomingBuffer : List UInt8) :
    (extractMessages iterations incomingBuffer).2 = incomingBuffer ∨
      (extractMessages iterations incomingBuffer).2 = [] ∨
      ∃ frame : Frame, frame.bytes <+: frameBytes incomingBuffer ∧
        (extractMessages iterations incomingBuffer).2.length +
          frame.bytes.length ≤ (frameBytes incomingBuffer).length := by
  induction iterations generalizing incomingBuffer with
  | zero => exact .inl rfl
  | succ iterations ih =>
      rw [extractMessages]
      split_ifs with short
      · exact .inl rfl
      · split
        · exact .inr (.inl rfl)
        · exact .inl rfl
        · next first length rest found =>
            obtain rfl := eq_startByte_of_dropWhile found
            dsimp only
            split_ifs with incomplete
            · exact .inl rfl
            · simp only [List.length_cons] at incomplete
              refine .inr (.inr ⟨⟨length, rest.take length.toNat, ?_⟩, ?_, ?_⟩)
              · rw [List.length_take]
                omega
              · rw [frameBytes, found, Frame.bytes]
                exact List.cons_prefix_cons.mpr
                  ⟨rfl, List.cons_prefix_cons.mpr ⟨rfl, List.take_prefix _ _⟩⟩
              · have kept : (extractMessages iterations
                    (rest.drop length.toNat)).2.length ≤
                      (rest.drop length.toNat).length := by
                  have split := length_garbageBytes_add (rest.drop length.toNat)
                  rcases ih (rest.drop length.toNat) with
                    same | cleared | ⟨frame, -, shorter⟩
                  · rw [same]
                  · simp [cleared]
                  · omega
                rw [List.length_drop] at kept
                simp only [frameBytes, found, Frame.bytes, List.drop_succ_cons,
                  List.length_cons, List.length_take]
                omega

/-- Without a start byte the loop leaves no more than one byte. -/
theorem length_left_le_one {iterations : ℕ} {incomingBuffer : List UInt8}
    (enough : incomingBuffer.length ≤ iterations)
    (noStart : frameBytes (extractMessages iterations incomingBuffer).2 = []) :
    (extractMessages iterations incomingBuffer).2.length ≤ 1 := by
  induction iterations generalizing incomingBuffer with
  | zero =>
      rw [List.eq_nil_of_length_eq_zero (Nat.le_zero.mp enough)]
      simp [extractMessages]
  | succ iterations ih =>
      rw [extractMessages] at noStart ⊢
      split_ifs at noStart ⊢ with short
      · exact Nat.le_of_lt_succ short
      · split at noStart
        · simp
        · next first one =>
            rw [frameBytes, one] at noStart
            exact absurd noStart (List.cons_ne_nil _ _)
        · next first length rest found =>
            dsimp only at noStart ⊢
            split_ifs at noStart ⊢ with incomplete
            · rw [frameBytes, found] at noStart
              exact absurd noStart (List.cons_ne_nil _ _)
            · have shorter := (List.dropWhile_sublist
                (l := incomingBuffer) (· != startByte)).length_le
              rw [found] at shorter
              refine ih ?_ noStart
              simp only [List.drop_succ_cons, List.length_drop,
                List.length_cons] at shorter ⊢
              omega

/-! ## The invariant of the buffer -/

theorem frameBytes_append_of_ne_nil {incomingBuffer : List UInt8}
    (started : frameBytes incomingBuffer ≠ []) (bytes : List UInt8) :
    frameBytes (incomingBuffer ++ bytes) =
      frameBytes incomingBuffer ++ bytes := by
  rw [frameBytes, List.dropWhile_append, if_neg]
  · rfl
  · rwa [List.isEmpty_iff]

theorem frameBytes_append_of_eq_nil {incomingBuffer : List UInt8}
    (noStart : frameBytes incomingBuffer = []) (bytes : List UInt8) :
    frameBytes (incomingBuffer ++ bytes) = frameBytes bytes := by
  rw [frameBytes, List.dropWhile_append, if_pos]
  · rfl
  · rwa [List.isEmpty_iff]

theorem Unfinished.length_lt {incomingBuffer bytes : List UInt8}
    (unfinished : Unfinished incomingBuffer) {frame : Frame}
    (completed : frame.bytes <+: incomingBuffer ++ bytes) :
    incomingBuffer.length < frame.bytes.length := by
  by_contra short
  exact unfinished frame (List.prefix_of_prefix_length_le completed
    (List.prefix_append _ _) (Nat.le_of_not_lt short))

/-- What holds of the buffer between two calls: nothing in it is left to be
extracted, and garbage is kept in front of a start byte, where one read has
brought it, or as a single byte. -/
structure Normalized (incomingBuffer : List UInt8) : Prop where
  residue : ∃ state, Residue incomingBuffer state
  idle : frameBytes incomingBuffer = [] → incomingBuffer.length ≤ 1
  garbage : (garbageBytes incomingBuffer).length ≤ 256

theorem normalized_nil : Normalized [] :=
  ⟨⟨.hunting, residue_nil⟩, by simp, by simp [garbageBytes]⟩

theorem Normalized.unfinished {incomingBuffer : List UInt8}
    (normalized : Normalized incomingBuffer) :
    Unfinished (frameBytes incomingBuffer) :=
  normalized.residue.choose_spec.unfinished

/-- The garbage after a read that is left in the buffer as a whole. -/
theorem Normalized.length_garbageBytes_append {incomingBuffer : List UInt8}
    (normalized : Normalized incomingBuffer) {bytes : List UInt8}
    (sized : bytes.length ≤ 256)
    (idle : frameBytes (incomingBuffer ++ bytes) = [] →
      (incomingBuffer ++ bytes).length ≤ 1) :
    (garbageBytes (incomingBuffer ++ bytes)).length ≤ 256 := by
  have split := length_garbageBytes_add (incomingBuffer ++ bytes)
  have splitBefore := length_garbageBytes_add incomingBuffer
  have garbage := normalized.garbage
  by_cases noStart : frameBytes incomingBuffer = []
  · have short := normalized.idle noStart
    by_cases none_ : frameBytes (incomingBuffer ++ bytes) = []
    · have := idle none_
      omega
    · have : 0 < (frameBytes (incomingBuffer ++ bytes)).length :=
        List.length_pos_of_ne_nil none_
      rw [List.length_append] at split
      omega
  · rw [frameBytes_append_of_ne_nil noStart] at split
    rw [List.length_append, List.length_append] at split
    omega

theorem Normalized.length_le_of_extracted {incomingBuffer : List UInt8}
    (normalized : Normalized incomingBuffer) {bytes left : List UInt8}
    {frame : Frame}
    (completed : frame.bytes <+: frameBytes (incomingBuffer ++ bytes))
    (shorter : left.length + frame.bytes.length ≤
      (frameBytes (incomingBuffer ++ bytes)).length) :
    left.length ≤ bytes.length := by
  by_cases noStart : frameBytes incomingBuffer = []
  · rw [frameBytes_append_of_eq_nil noStart] at shorter
    have := length_garbageBytes_add bytes
    omega
  · rw [frameBytes_append_of_ne_nil noStart] at completed shorter
    have := normalized.unfinished.length_lt completed
    rw [List.length_append] at shorter
    omega

/-- A call keeps the buffer normalized. -/
theorem Normalized.readSerialData {incomingBuffer : List UInt8}
    (normalized : Normalized incomingBuffer) {call : Option (List UInt8)}
    (sized : ∀ bytes, call = some bytes → bytes.length ≤ 256) :
    Normalized (readSerialData incomingBuffer call).1 := by
  match call with
  | none | some [] => exact normalized
  | some (byte :: rest) =>
      obtain ⟨state, residue⟩ := normalized.residue
      have kept := readSerialData_tracks.keeps residue (byte :: rest)
      have bound := sized (byte :: rest) rfl
      have idle := @length_left_le_one _ (incomingBuffer ++ byte :: rest)
        (le_refl _)
      refine ⟨⟨_, kept⟩, idle, ?_⟩
      dsimp only [OpenRTH.readSerialData] at idle ⊢
      rcases extractMessages_left (incomingBuffer ++ byte :: rest).length
        (incomingBuffer ++ byte :: rest) with
        same | cleared | ⟨frame, completed, shorter⟩
      · rw [same] at idle ⊢
        exact normalized.length_garbageBytes_append bound idle
      · rw [cleared]
        exact Nat.zero_le _
      · have few := normalized.length_le_of_extracted completed shorter
        exact (length_garbageBytes_le _).trans (few.trans bound)

theorem Normalized.foldl_readSerialData {incomingBuffer : List UInt8}
    (normalized : Normalized incomingBuffer)
    {calls : List (Option (List UInt8))}
    (sized : ∀ bytes, some bytes ∈ calls → bytes.length ≤ 256) :
    Normalized (calls.foldl
      (fun buffer call => (OpenRTH.readSerialData buffer call).1)
      incomingBuffer) := by
  induction calls generalizing incomingBuffer with
  | nil => exact normalized
  | cons call calls ih =>
      have next : Normalized (OpenRTH.readSerialData incomingBuffer call).1 :=
        normalized.readSerialData fun bytes isCall =>
          sized bytes (by simp [isCall])
      exact ih next fun bytes member => sized bytes (by simp [member])

/-- After every call the frame at the first start byte is unfinished, and the
buffer holds at most 256 bytes before this byte and 256 from it on. -/
theorem incomingBuffer_small (calls : List (Option (List UInt8)))
    (sized : ∀ bytes, some bytes ∈ calls → bytes.length ≤ 256) :
    Unfinished (frameBytes (incomingBufferAfter calls)) ∧
      (incomingBufferAfter calls).length ≤ 512 ∧
      (garbageBytes (incomingBufferAfter calls)).length ≤ 256 ∧
      (frameBytes (incomingBufferAfter calls)).length ≤ 256 := by
  have normalized : Normalized (incomingBufferAfter calls) :=
    normalized_nil.foldl_readSerialData sized
  have split := length_garbageBytes_add (incomingBufferAfter calls)
  have garbage := normalized.garbage
  have frame := normalized.unfinished.length_le
  exact ⟨normalized.unfinished, by omega, garbage, frame⟩

/-- Garbage in front of a frame of which two bytes are missing. -/
theorem incomingBuffer_small_unfinished :
    incomingBufferAfter [some [7], none, some [9, 2, 3, 2]] = [7, 9, 2, 3, 2] ∧
      Unfinished (frameBytes
        (incomingBufferAfter [some [7], none, some [9, 2, 3, 2]])) :=
  ⟨by decide, (incomingBuffer_small [some [7], none, some [9, 2, 3, 2]] (by
    intro bytes member
    simp only [List.mem_cons, Option.some.injEq, reduceCtorEq, false_or,
      List.not_mem_nil, or_false] at member
    rcases member with rfl | rfl <;> decide)).1⟩

end OpenRTH
