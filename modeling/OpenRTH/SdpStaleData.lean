import OpenRTH.SdpExchange

/-!
# What is left in the input buffer

`UDPSock::receive` puts a NUL behind what `recvfrom` has returned, also when
that is -1, and `perform_SDP` on the EV parses the global input buffer whatever
the result of the call was.  The main result says which results are written
outside the caller's buffer, and in which sequences of calls a success rests on
bytes that the call itself has not received.
-/

namespace OpenRTH

/-! ## Writes to the caller's buffer -/

/-- What `recvfrom` returns for a buffer of any size. -/
def RecvResult.count (bufSize : ℕ) : RecvResult → ℤ
  | .failed => -1
  | .datagram bytes => min bytes.length bufSize

/-- The indices that `UDPSock::receive` writes in a buffer of any size. -/
def receiveWrites (bufSize : ℕ) (result : RecvResult) : List ℤ :=
  let byteCount := result.count bufSize
  (List.range byteCount.toNat).map Int.ofNat ++
    if byteCount < bufSize then [byteCount] else []

theorem udpReceive_writes (buffer : Stream) (result : RecvResult) :
    (udpReceive buffer result).writes = receiveWrites maxMsgSize result := by
  have count : result.count maxMsgSize = result.byteCount := by
    cases result <;> rfl
  unfold udpReceive receiveWrites
  rw [count]
  by_cases room : result.byteCount < maxMsgSize
  · simp only [room, if_true]
  · simp only [room, if_false, List.append_nil]

/-- Only a failed call is written outside the buffer. -/
theorem receiveWrites_inBounds_iff (bufSize : ℕ) (result : RecvResult) :
    (∀ index ∈ receiveWrites bufSize result, 0 ≤ index ∧ index < bufSize) ↔
      result ≠ .failed := by
  cases result with
  | failed =>
      refine iff_of_false (fun inBounds => ?_) (fun other => other rfl)
      have written : (-1 : ℤ) ∈ receiveWrites bufSize .failed := by
        have small : (-1 : ℤ) < bufSize := by omega
        simp [receiveWrites, RecvResult.count, small]
      exact absurd (inBounds (-1) written).1 (by decide)
  | datagram bytes =>
      refine iff_of_true (fun index member => ?_) nofun
      rcases List.mem_append.mp member with copied | nul
      · obtain ⟨offset, inside, rfl⟩ := List.mem_map.mp copied
        have counted := List.mem_range.mp inside
        simp only [RecvResult.count] at counted
        constructor
        · exact Int.natCast_nonneg offset
        · change (offset : ℤ) < bufSize
          omega
      · split_ifs at nul with room
        · rw [List.mem_singleton.mp nul]
          simp only [RecvResult.count] at room ⊢
          omega
        · cases nul

/-! ## Responses in the buffer -/

/-- What the parser of the EV accepts. -/
def IsResponse (stream : Stream) : Prop :=
  PassesHeaderTests 0x9001 20 stream ∧ responseFormat.PlainTcp stream

instance (stream : Stream) : Decidable (IsResponse stream) :=
  inferInstanceAs (Decidable (_ ∧ _))

/-- A short datagram in front of what the buffer held, with a NUL behind it. -/
def laidOver (bytes : List UInt8) (buffer : Stream) : Stream :=
  Vector.ofFn fun index =>
    if index.val < bytes.length then bytes.getD index.val 0
    else if index.val = bytes.length then 0
    else buffer.get index

/-- Nothing is received, or too little for a response, and yet with the bytes of
earlier calls there is a response in the buffer. -/
def StaleResponse (received : RecvResult) (buffer : Stream) : Prop :=
  match received with
  | .failed => IsResponse buffer
  | .datagram bytes =>
      bytes.length < responseFormat.size ∧ IsResponse (laidOver bytes buffer)

instance (received : RecvResult) (buffer : Stream) :
    Decidable (StaleResponse received buffer) :=
  match received with
  | .failed => inferInstanceAs (Decidable (IsResponse buffer))
  | .datagram bytes =>
      inferInstanceAs (Decidable (bytes.length < responseFormat.size ∧
        IsResponse (laidOver bytes buffer)))

theorem udpReceive_failed_buffer (buffer : Stream) :
    (udpReceive buffer .failed).buffer = buffer := rfl

theorem udpReceive_buffer_of_short {bytes : List UInt8}
    (short : bytes.length < 100) (buffer : Stream) :
    (udpReceive buffer (.datagram bytes)).buffer = laidOver bytes buffer := by
  have count : (RecvResult.datagram bytes).byteCount = (bytes.length : ℤ) := by
    simp only [RecvResult.byteCount, maxMsgSize]
    omega
  have room : (bytes.length : ℤ) < maxMsgSize := by
    simp only [maxMsgSize]
    omega
  unfold udpReceive
  rw [count, if_pos room]
  dsimp only
  rw [if_pos (Int.natCast_nonneg _), Int.toNat_natCast]
  ext index small
  rw [Vector.getElem_setIfInBounds small]
  simp only [RecvResult.fill, laidOver, Vector.getElem_ofFn]
  by_cases atEnd : bytes.length = index
  · rw [if_pos atEnd, if_neg (by omega), if_pos atEnd.symm]
  · rw [if_neg atEnd]
    by_cases inside : index < bytes.length
    · rw [if_pos inside, List.getD_eq_getElem _ _ inside,
        List.getD_eq_getElem _ _ inside]
    · rw [if_neg inside, if_neg (Ne.symm atEnd),
        List.getD_eq_default _ _ (not_lt.mp inside)]
      rfl

/-! ## Calls of perform_SDP -/

/-- A call, the input buffer before it and its end. -/
structure SdpCall where
  environment : SdpEnvironment
  buffer : Stream
  outcome : Outcome Int

/-- The calls of `perform_SDP` on the EV, up to one that ends the process. -/
def sdpCalls (memory : SdpMemory) : List SdpEnvironment → List SdpCall
  | [] => []
  | environment :: rest =>
      let run := performSDP .EV environment memory
      ⟨environment, memory.v2gtpInStream, run.outcome⟩ ::
        match run.outcome with
        | .exits => []
        | .returns _ => sdpCalls run.memory rest

/-- The bytes of the buffer that the parser looks at come from the datagram of
this call. -/
def SdpCall.Delivered (call : SdpCall) : Prop :=
  ∃ bytes, call.environment.received = .datagram bytes ∧
    ∀ index < sdpResponseLength, bytes[index]? =
      (udpReceive call.buffer call.environment.received).buffer[index]?

/-- The response of another call is accepted. -/
def SdpCall.Stale (call : SdpCall) : Prop :=
  call.environment.senderCreated = true ∧
    call.environment.serverCreated = true ∧
    StaleResponse call.environment.received call.buffer

instance (call : SdpCall) : Decidable call.Stale :=
  inferInstanceAs (Decidable (_ ∧ _ ∧ _))

theorem udpReceive_buffer_getElem? {bytes : List UInt8} {index : ℕ}
    (inside : index < bytes.length) (small : index < 100) (buffer : Stream) :
    (udpReceive buffer (.datagram bytes)).buffer[index]? = bytes[index]? := by
  have filled : (RecvResult.fill buffer (.datagram bytes))[index] =
      bytes[index] := by
    simp only [RecvResult.fill, Vector.getElem_ofFn]
    exact List.getD_eq_getElem _ _ inside
  have count : (RecvResult.datagram bytes).byteCount =
      ((min bytes.length 100 : ℕ) : ℤ) := by
    simp only [RecvResult.byteCount, maxMsgSize]
    omega
  rw [Vector.getElem?_eq_getElem small, List.getElem?_eq_getElem inside,
    ← filled]
  unfold udpReceive
  rw [count]
  dsimp only
  rw [Int.toNat_natCast]
  split_ifs
  · rw [Vector.getElem_setIfInBounds_ne small (by omega)]
  · rfl
  · rfl

theorem delivered_iff (call : SdpCall) :
    call.Delivered ↔ ∃ bytes, call.environment.received = .datagram bytes ∧
      sdpResponseLength ≤ bytes.length := by
  unfold SdpCall.Delivered
  constructor
  · rintro ⟨bytes, received, same⟩
    refine ⟨bytes, received, ?_⟩
    have last := same 27 (by decide)
    rw [Vector.getElem?_eq_getElem (by decide)] at last
    exact (List.getElem?_eq_some_iff.mp last).1
  · rintro ⟨bytes, received, long⟩
    refine ⟨bytes, received, fun index small => ?_⟩
    unfold sdpResponseLength at long small
    rw [received, udpReceive_buffer_getElem? (by omega) (by omega)]

theorem parseSDPMessage_EV_zero {library : AddressLibrary}
    {globals : SdpGlobals}
    (passes : ¬ (parseSDPMessage .EV library globals).1 < 0) :
    (parseSDPMessage .EV library globals).1 = 0 := by
  simp only [parseSDPMessage] at passes ⊢
  repeat' split
  all_goals simp_all

theorem performSDP_EV_returns_zero_iff {environment : SdpEnvironment}
    (textual : ∀ address, ((environment.library.inetNtop address).bind
      environment.library.inetPton).isSome) (memory : SdpMemory) :
    (performSDP .EV environment memory).outcome = .returns 0 ↔
      environment.senderCreated = true ∧ environment.serverCreated = true ∧
        IsResponse
          (udpReceive memory.v2gtpInStream environment.received).buffer := by
  simp only [performSDP]
  cases environment.senderCreated with
  | false => simp
  | true =>
      cases environment.serverCreated with
      | false => simp
      | true =>
          simp only [not_true_eq_false, if_false, true_and]
          have accepted {globals : SdpGlobals} {buffer : Stream}
              (inStream : globals.v2gtpInStream = buffer) :
              (parseSDPMessage .EV environment.library globals).1 = 0 ↔
                IsResponse buffer :=
            inStream ▸ parseSDPMessage_EV environment.library textual globals
          split_ifs with failed
          · refine iff_of_false (by simp) fun response => ?_
            rw [(accepted rfl).mpr response] at failed
            exact absurd failed (by decide)
          · have zero := parseSDPMessage_EV_zero failed
            exact iff_of_true rfl ((accepted rfl).mp zero)

/-- A call succeeds on its own bytes unless it finds a stale response. -/
theorem SdpCall.delivered_of_success_iff {environment : SdpEnvironment}
    (textual : ∀ address, ((environment.library.inetNtop address).bind
      environment.library.inetPton).isSome) (memory : SdpMemory) :
    let call : SdpCall := ⟨environment, memory.v2gtpInStream,
      (performSDP .EV environment memory).outcome⟩
    (call.outcome = .returns 0 → call.Delivered) ↔ ¬ call.Stale := by
  intro call
  rw [performSDP_EV_returns_zero_iff textual, delivered_iff, SdpCall.Stale]
  dsimp only [call]
  cases environment.received with
  | failed =>
      have nothing : ¬ ∃ bytes, RecvResult.failed = .datagram bytes ∧
          sdpResponseLength ≤ bytes.length := by
        rintro ⟨bytes, isDatagram, -⟩
        cases isDatagram
      rw [udpReceive_failed_buffer, imp_iff_not nothing]
      rfl
  | datagram bytes =>
      have enough : (∃ others, RecvResult.datagram bytes = .datagram others ∧
          sdpResponseLength ≤ others.length) ↔
          sdpResponseLength ≤ bytes.length := by
        simp
      rw [enough]
      by_cases long : sdpResponseLength ≤ bytes.length
      · refine iff_of_true (fun _ => long) ?_
        rintro ⟨-, -, short, -⟩
        exact absurd long (not_le.mpr short)
      · have short : bytes.length < 28 := not_le.mp long
        rw [udpReceive_buffer_of_short (by omega), imp_iff_not long]
        have sizes : bytes.length < responseFormat.size := short
        simp only [StaleResponse, sizes, true_and]

/-- The writes of `receive` stay inside a buffer of any size exactly when the
call has not failed, and all successes of a sequence of calls rest on their own
datagrams exactly when no call finds a stale response. -/
theorem udpReceive_and_performSDP_EV_iff (bufSize : ℕ) (result : RecvResult)
    (memory : SdpMemory) (environments : List SdpEnvironment)
    (textual : ∀ environment ∈ environments, ∀ address,
      ((environment.library.inetNtop address).bind
        environment.library.inetPton).isSome) :
    ((∀ index ∈ receiveWrites bufSize result, 0 ≤ index ∧ index < bufSize) ↔
      result ≠ .failed) ∧
    ((∀ call ∈ sdpCalls memory environments,
        call.outcome = .returns 0 → call.Delivered) ↔
      ∀ call ∈ sdpCalls memory environments, ¬ call.Stale) := by
  refine ⟨receiveWrites_inBounds_iff bufSize result, ?_⟩
  induction environments generalizing memory with
  | nil => simp [sdpCalls]
  | cons environment rest ih =>
      rw [List.forall_mem_cons] at textual
      rw [sdpCalls, List.forall_mem_cons, List.forall_mem_cons]
      apply and_congr (SdpCall.delivered_of_success_iff textual.1 memory)
      cases (performSDP .EV environment memory).outcome with
      | exits => simp
      | returns code => exact ih _ textual.2

/-- An EV whose sockets are created. -/
def evEnvironment (received : RecvResult) : SdpEnvironment :=
  { benchEnvironment received with library := unspecifiedAddressOnly }

/-- A response from the address `::`. -/
def responseDatagram : List UInt8 :=
  [0x01, 0xFE, 0x90, 0x01, 0, 0, 0, 20] ++ List.replicate 16 0 ++
    [0xFF, 0xFF, 0x10, 0x00]

/-- A first call that receives a response succeeds on it. -/
theorem performSDP_EV_response :
    (performSDP .EV (evEnvironment (.datagram responseDatagram))
        benchMemory).outcome = .returns 0 ∧
      ∀ call ∈ sdpCalls benchMemory
          [evEnvironment (.datagram responseDatagram)],
        call.outcome = .returns 0 → call.Delivered := by
  refine ⟨by decide, (udpReceive_and_performSDP_EV_iff 100
    (.datagram responseDatagram) benchMemory
    [evEnvironment (.datagram responseDatagram)] ?_).2.mpr (by decide)⟩
  intro environment member address
  rw [List.mem_singleton.mp member]
  rfl

/-- A failed call writes in front of the buffer, and after a response it
succeeds on that. -/
theorem udpReceive_and_performSDP_EV_failed :
    receiveWrites 100 .failed = [-1] ∧
      ¬ ∀ call ∈ sdpCalls benchMemory
          [evEnvironment (.datagram responseDatagram), evEnvironment .failed],
        call.outcome = .returns 0 → call.Delivered := by
  refine ⟨by decide, fun delivered => ?_⟩
  have succeeded : ∃ call ∈ sdpCalls benchMemory
      [evEnvironment (.datagram responseDatagram), evEnvironment .failed],
      call.outcome = .returns 0 ∧ call.environment.received = .failed :=
    ⟨_, List.mem_cons_of_mem _ List.mem_cons_self, by decide, rfl⟩
  obtain ⟨call, member, success, failed⟩ := succeeded
  obtain ⟨bytes, received, -⟩ := delivered call member success
  cases failed.symm.trans received

end OpenRTH
