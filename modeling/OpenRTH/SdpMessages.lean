import OpenRTH.BigEndianBytes
import OpenRTH.Configuration

/-!
# SDP messages

The V2GTP header, the SDP request, the SDP response and their parser, over the
two 100-byte buffers of `sdp.cpp`.  The parser keeps to the source in every
test, so what it accepts is wider than the messages it is meant for; the last
section says by exactly which datagrams.
-/

namespace OpenRTH

/-- `MAX_MSG_SIZE`. -/
def maxMsgSize : ℕ := 100

/-- `v2gtp_inStream`, `v2gtp_outStream` and any buffer passed for them. -/
abbrev Stream := Vector UInt8 100

/-- The 16 bytes of `sin6_addr.s6_addr`. -/
abbrev In6Addr := Vector UInt8 16

def sdpRequestLength : ℕ := 10
def sdpResponseLength : ℕ := 28
def v2gtpVersion : UInt8 := 0x01
def v2gtpVersionInv : UInt8 := 0xFE
def v2gtpSdpRequestType : UInt16 := 0x9000
def v2gtpSdpResponseType : UInt16 := 0x9001
def noTransportLayerSecurity : UInt8 := 0x10
def sdpTcp : UInt8 := 0x00

/-- `create_v2gtp_header`. -/
def createV2gtpHeader (message : Stream) (payloadType : UInt16)
    (payloadLength : UInt32) : Stream :=
  message
    |>.set 0 v2gtpVersion
    |>.set 1 v2gtpVersionInv
    |>.set 3 (payloadType &&& 0xFF).toUInt8
    |>.set 2 ((payloadType >>> 8) &&& 0xFF).toUInt8
    |>.set 7 (payloadLength &&& 0xFF).toUInt8
    |>.set 6 ((payloadLength >>> 8) &&& 0xFF).toUInt8
    |>.set 5 ((payloadLength >>> 16) &&& 0xFF).toUInt8
    |>.set 4 ((payloadLength >>> 24) &&& 0xFF).toUInt8

/-- `create_SDP_request`. -/
def createSDPRequest (message : Stream)
    (securityType commProtocolType : UInt8) : Stream :=
  createV2gtpHeader message v2gtpSdpRequestType 2
    |>.set 8 securityType
    |>.set 9 commProtocolType

/-- The payload `create_SDP_response` writes, low byte of the port first. -/
def writeResponsePayload (address : In6Addr) (tcpPort : ℕ)
    (stream : Stream) : Stream :=
  (Vector.ofFn fun index =>
      if inAddress : 8 ≤ index.val ∧ index.val < 24 then
        address[index.val - 8]
      else stream[index])
    |>.set 24 (UInt8.ofNat tcpPort)
    |>.set 25 (UInt8.ofNat (tcpPort >>> 8))
    |>.set 26 noTransportLayerSecurity
    |>.set 27 sdpTcp

/-- The conversions between addresses and text that the code takes from the C
library; `none` is a reported failure. -/
structure AddressLibrary where
  inetNtop : In6Addr → Option CString
  inetPton : CString → Option In6Addr
  getnameinfo : In6Addr → Option CString

/-- The globals of `sdp.cpp`. -/
structure SdpGlobals where
  v2gtpInStream : Stream
  v2gtpOutStream : Stream
  seccPort : UInt16
  seccAddr : In6Addr
  ipv6Str : CString

/-- The payload type as `parse_SDP_message` reassembles it from bytes 2-3. -/
def parsedPayloadType (stream : Stream) : UInt16 :=
  stream[2].toUInt16 <<< 8 ||| stream[3].toUInt16

/-- The payload length as `parse_SDP_message` reassembles it from bytes 4-7:
the shifts are by 8, 16 and 24 bits. -/
def parsedPayloadLength (stream : Stream) : UInt32 :=
  let payloadLength := stream[4].toUInt32
  let payloadLength := payloadLength <<< 8 ||| stream[5].toUInt32
  let payloadLength := payloadLength <<< 16 ||| stream[6].toUInt32
  payloadLength <<< 24 ||| stream[7].toUInt32

/-- The address bytes of an SDP response. -/
def parsedAddress (stream : Stream) : In6Addr :=
  Vector.ofFn fun index => stream[8 + index.val]

/-- The port of an SDP response, most significant byte first. -/
def parsedPort (stream : Stream) : UInt16 :=
  stream[24].toUInt16 <<< 8 ||| stream[25].toUInt16

/-- `parse_SDP_message`: the return value and the globals afterwards. -/
def parseSDPMessage (deviceType : DeviceType) (library : AddressLibrary)
    (globals : SdpGlobals) : Int × SdpGlobals :=
  let stream := globals.v2gtpInStream
  match deviceType with
  | .EVSE =>
      if stream[0] ≠ v2gtpVersion ∧ stream[1] ≠ v2gtpVersionInv then
        (-1, globals)
      else if parsedPayloadType stream ≠ v2gtpSdpRequestType then (-1, globals)
      else if parsedPayloadLength stream ≠ 2 then (-1, globals)
      else
        -- the security and transport bytes are printed, not returned on
        (0, globals)
  | .EV =>
      if stream[0] ≠ v2gtpVersion ∧ stream[1] ≠ v2gtpVersionInv then
        (-1, globals)
      else if parsedPayloadType stream ≠ v2gtpSdpResponseType then (-1, globals)
      else if parsedPayloadLength stream ≠ 20 then (-1, globals)
      else if ¬ (stream[26] = noTransportLayerSecurity ∧ stream[27] = sdpTcp) then
        (-1, globals)
      else
        let globals := { globals with seccPort := parsedPort stream }
        match library.inetNtop (parsedAddress stream) with
        | none => (-1, globals)
        | some text =>
            match library.inetPton text with
            | none => (-1, globals)
            | some address =>
                (0, { globals with seccAddr := address, ipv6Str := text })
  | .other => (0, globals)

/-! ## Receiving a datagram -/

/-- What `recvfrom` delivers. -/
inductive RecvResult
  | failed
  | datagram (bytes : List UInt8)

/-- The return value of `UDPSock::receive`, the caller's buffer afterwards and
every index written. -/
structure Received where
  byteCount : Int
  buffer : Stream
  writes : List Int

/-- The byte count `recvfrom` returns: a datagram is cut to the buffer. -/
def RecvResult.byteCount : RecvResult → Int
  | .failed => -1
  | .datagram bytes => min bytes.length maxMsgSize

def RecvResult.fill (buffer : Stream) : RecvResult → Stream
  | .failed => buffer
  | .datagram bytes =>
      Vector.ofFn fun index => bytes.getD index.val buffer[index]

/-- `UDPSock::receive`.  The NUL byte goes after the message, and to index -1
when `recvfrom` fails. -/
def udpReceive (buffer : Stream) (result : RecvResult) : Received :=
  let byteCount := result.byteCount
  let filled := result.fill buffer
  let copied := (List.range byteCount.toNat).map Int.ofNat
  if byteCount < maxMsgSize then
    { byteCount
      buffer := if 0 ≤ byteCount then
          filled.setIfInBounds byteCount.toNat 0 else filled
      writes := copied ++ [byteCount] }
  else { byteCount, buffer := filled, writes := copied }

@[simp]
theorem udpReceive_byteCount (buffer : Stream) (result : RecvResult) :
    (udpReceive buffer result).byteCount = result.byteCount := by
  simp only [udpReceive]
  split_ifs <;> rfl

/-! ## What the parser tests -/

theorem parsedPayloadType_eq_iff (stream : Stream) (payloadType : UInt16) :
    parsedPayloadType stream = payloadType ↔
      BigEndianBytes.value [stream[2], stream[3]] = payloadType.toNat := by
  have small := stream[2].toNat_lt
  rw [← UInt16.toNat_inj, parsedPayloadType,
    BigEndianBytes.toNat_shiftLeft_or_16, UInt8.toNat_toUInt16,
    BigEndianBytes.value_pair]
  omega

/-- The reassembled length depends on bytes 6 and 7 only: bytes 4 and 5 are
shifted out of the word. -/
theorem parsedPayloadLength_toNat (stream : Stream) :
    (parsedPayloadLength stream).toNat =
      stream[6].toNat * 2 ^ 24 + stream[7].toNat := by
  have small := stream[6].toNat_lt
  rw [parsedPayloadLength, BigEndianBytes.toNat_shiftLeft_or_32 _ _
      (by decide) (by decide),
    BigEndianBytes.toNat_shiftLeft_or_32 _ _ (by decide) (by decide)]
  simp only [UInt32.reduceToNat]
  omega

theorem parsedPayloadLength_eq_iff (stream : Stream) (length : UInt32)
    (short : length.toNat < 256) :
    parsedPayloadLength stream = length ↔
      stream[6] = 0 ∧ stream[7].toNat = length.toNat := by
  have small := stream[7].toNat_lt
  rw [← UInt32.toNat_inj, parsedPayloadLength_toNat, ← UInt8.toNat_inj]
  simp only [UInt8.toNat_zero]
  omega

theorem parsedPort_toNat (stream : Stream) :
    (parsedPort stream).toNat =
      256 * stream[24].toNat + stream[25].toNat := by
  have small := stream[24].toNat_lt
  rw [parsedPort, BigEndianBytes.toNat_shiftLeft_or_16, UInt8.toNat_toUInt16]
  omega

/-- The tests the parser makes in both roles: one version byte, the payload
type, and the two length bytes that survive the shifts. -/
structure PassesHeaderTests (payloadType length : ℕ) (stream : Stream) :
    Prop where
  version : stream[0] = v2gtpVersion ∨ stream[1] = v2gtpVersionInv
  payloadType : BigEndianBytes.value [stream[2], stream[3]] = payloadType
  lengthBytes : stream[6] = 0 ∧ stream[7].toNat = length

instance (payloadType length : ℕ) (stream : Stream) :
    Decidable (PassesHeaderTests payloadType length stream) :=
  decidable_of_iff
    ((stream[0] = v2gtpVersion ∨ stream[1] = v2gtpVersionInv) ∧
      BigEndianBytes.value [stream[2], stream[3]] = payloadType ∧
      stream[6] = 0 ∧ stream[7].toNat = length)
    ⟨fun ⟨version, type, lengthBytes⟩ => ⟨version, type, lengthBytes⟩,
      fun passes =>
        ⟨passes.version, passes.payloadType, passes.lengthBytes⟩⟩

theorem passesHeaderTests_iff (stream : Stream) (payloadType : UInt16)
    (length : UInt32) (short : length.toNat < 256) :
    PassesHeaderTests payloadType.toNat length.toNat stream ↔
      ¬ (stream[0] ≠ v2gtpVersion ∧ stream[1] ≠ v2gtpVersionInv) ∧
        parsedPayloadType stream = payloadType ∧
        parsedPayloadLength stream = length := by
  rw [parsedPayloadType_eq_iff, parsedPayloadLength_eq_iff stream length short]
  constructor
  · rintro ⟨version, type, lengthBytes⟩
    exact ⟨by tauto, type, lengthBytes⟩
  · rintro ⟨version, type, lengthBytes⟩
    exact ⟨by tauto, type, lengthBytes⟩

/-- On the EVSE the parser makes the header tests and nothing else. -/
theorem parseSDPMessage_EVSE_eq (library : AddressLibrary)
    (globals : SdpGlobals) :
    parseSDPMessage .EVSE library globals =
      (if PassesHeaderTests 0x9000 2 globals.v2gtpInStream then 0 else -1,
        globals) := by
  have tests := passesHeaderTests_iff globals.v2gtpInStream
    v2gtpSdpRequestType 2 (by decide)
  change PassesHeaderTests 0x9000 2 globals.v2gtpInStream ↔ _ at tests
  by_cases passes : PassesHeaderTests 0x9000 2 globals.v2gtpInStream
  · obtain ⟨notOther, type, length⟩ := tests.mp passes
    simp only [parseSDPMessage, if_pos passes, if_neg notOther, type, length,
      ne_eq, not_true_eq_false, if_false]
  · simp only [parseSDPMessage, if_neg passes]
    split_ifs with version type length
    · rfl
    · rfl
    · rfl
    · exact absurd (tests.mpr ⟨version, not_not.mp type, not_not.mp length⟩)
        passes

theorem parseSDPMessage_EVSE (library : AddressLibrary)
    (globals : SdpGlobals) :
    (parseSDPMessage .EVSE library globals).1 = 0 ↔
      PassesHeaderTests 0x9000 2 globals.v2gtpInStream := by
  rw [parseSDPMessage_EVSE_eq]
  split_ifs with passes <;> simp [passes]

/-- On the EV a message that passes the header tests and asks for plain TCP
gives an address and a port. -/
theorem parseSDPMessage_EV_eq {library : AddressLibrary}
    {globals : SdpGlobals} {text : CString}
    (passes : PassesHeaderTests 0x9001 20 globals.v2gtpInStream)
    (settings : globals.v2gtpInStream[26] = noTransportLayerSecurity ∧
      globals.v2gtpInStream[27] = sdpTcp)
    (written : library.inetNtop (parsedAddress globals.v2gtpInStream) =
      some text)
    (read : library.inetPton text =
      some (parsedAddress globals.v2gtpInStream)) :
    parseSDPMessage .EV library globals =
      (0, { globals with
        seccPort := parsedPort globals.v2gtpInStream
        seccAddr := parsedAddress globals.v2gtpInStream
        ipv6Str := text }) := by
  obtain ⟨notOther, type, length⟩ := (passesHeaderTests_iff
    globals.v2gtpInStream v2gtpSdpResponseType 20 (by decide)).mp passes
  simp only [parseSDPMessage, if_neg notOther, type, length, settings,
    written, read, ne_eq, not_true_eq_false, and_self, if_false]

theorem parseSDPMessage_EV (library : AddressLibrary)
    (textual : ∀ address,
      ((library.inetNtop address).bind library.inetPton).isSome)
    (globals : SdpGlobals) :
    (parseSDPMessage .EV library globals).1 = 0 ↔
      PassesHeaderTests 0x9001 20 globals.v2gtpInStream ∧
        globals.v2gtpInStream[26] = noTransportLayerSecurity ∧
        globals.v2gtpInStream[27] = sdpTcp := by
  have tests := passesHeaderTests_iff globals.v2gtpInStream
    v2gtpSdpResponseType 20 (by decide)
  refine Iff.trans ?_ (and_congr_left' tests.symm)
  obtain ⟨address, converted⟩ := Option.isSome_iff_exists.mp
    (textual (parsedAddress globals.v2gtpInStream))
  obtain ⟨text, written, read⟩ := Option.bind_eq_some_iff.mp converted
  simp only [parseSDPMessage]
  have failed : ¬ (-1 : ℤ) = 0 := by decide
  split_ifs with version type length settings
  · exact iff_of_false failed fun passes => passes.1.1 version
  · exact iff_of_false failed fun passes => type passes.1.2.1
  · exact iff_of_false failed fun passes => length passes.1.2.2
  · rw [written]
    dsimp only
    rw [read]
    exact iff_of_true rfl
      ⟨⟨version, not_not.mp type, not_not.mp length⟩, settings⟩
  · exact iff_of_false failed fun passes => settings passes.2

/-! ## Reading a header back -/

theorem parsedPayloadType_createV2gtpHeader (message : Stream)
    (payloadType : UInt16) (payloadLength : UInt32) :
    parsedPayloadType (createV2gtpHeader message payloadType payloadLength) =
      payloadType := by
  have small := payloadType.toNat_lt
  have second : (createV2gtpHeader message payloadType payloadLength)[2] =
      ((payloadType >>> 8) &&& 0xFF).toUInt8 := by simp [createV2gtpHeader]
  have third : (createV2gtpHeader message payloadType payloadLength)[3] =
      (payloadType &&& 0xFF).toUInt8 := by simp [createV2gtpHeader]
  rw [parsedPayloadType_eq_iff, BigEndianBytes.value_pair, second, third,
    BigEndianBytes.toNat_lowByte_16, BigEndianBytes.toNat_lowByte_16,
    UInt16.toNat_shiftRight, Nat.shiftRight_eq_div_pow]
  simp only [UInt16.reduceToNat, Nat.reduceMod, Nat.reducePow]
  omega

/-- Of the length, the parser gets its two low bytes back, the second of them
in the highest place. -/
theorem parsedPayloadLength_createV2gtpHeader (message : Stream)
    (payloadType : UInt16) (payloadLength : UInt32) :
    (parsedPayloadLength
        (createV2gtpHeader message payloadType payloadLength)).toNat =
      payloadLength.toNat / 256 % 256 * 2 ^ 24 + payloadLength.toNat % 256 := by
  have sixth : (createV2gtpHeader message payloadType payloadLength)[6] =
      ((payloadLength >>> 8) &&& 0xFF).toUInt8 := by simp [createV2gtpHeader]
  have seventh : (createV2gtpHeader message payloadType payloadLength)[7] =
      (payloadLength &&& 0xFF).toUInt8 := by simp [createV2gtpHeader]
  rw [parsedPayloadLength_toNat, sixth, seventh,
    BigEndianBytes.toNat_lowByte_32, BigEndianBytes.toNat_lowByte_32,
    UInt32.toNat_shiftRight, Nat.shiftRight_eq_div_pow]
  rfl

/-- The parser takes from a header the type and the length it was made for
exactly when the length fits one byte. -/
theorem createV2gtpHeader_decodes_iff (message : Stream)
    (payloadType : UInt16) (payloadLength : UInt32) :
    let header := createV2gtpHeader message payloadType payloadLength
    (parsedPayloadType header = payloadType ∧
        parsedPayloadLength header = payloadLength) ↔
      payloadLength.toNat < 256 := by
  intro header
  have small := payloadLength.toNat_lt
  have decoded := parsedPayloadLength_createV2gtpHeader message payloadType
    payloadLength
  rw [← UInt32.toNat_inj, decoded]
  constructor
  · rintro ⟨-, same⟩
    omega
  · intro short
    exact ⟨parsedPayloadType_createV2gtpHeader message payloadType
      payloadLength, by omega⟩

/-- The length 256 comes back as 2 ^ 24. -/
theorem createV2gtpHeader_not_decodes :
    ¬ ∀ (message : Stream) (payloadType : UInt16) (payloadLength : UInt32),
      parsedPayloadType (createV2gtpHeader message payloadType payloadLength) =
          payloadType ∧
        parsedPayloadLength
            (createV2gtpHeader message payloadType payloadLength) =
          payloadLength := by
  intro decodes
  have decoded := (decodes (Vector.replicate 100 0) 0x9001 256).2
  revert decoded
  decide

/-! ## The messages of the protocol -/

/-- The shape of a message of one role: its size, its V2GTP type and payload
length, and the index of its security byte, which the transport byte
follows. -/
structure SdpFormat where
  size : ℕ
  payloadType : UInt16
  payloadLength : UInt32
  settings : Fin 99

def requestFormat : SdpFormat :=
  ⟨sdpRequestLength, v2gtpSdpRequestType, 2, 8⟩

def responseFormat : SdpFormat :=
  ⟨sdpResponseLength, v2gtpSdpResponseType, 20, 26⟩

/-- No TLS, over TCP. -/
def SdpFormat.PlainTcp (format : SdpFormat) (stream : Stream) : Prop :=
  stream[format.settings.val] = noTransportLayerSecurity ∧
    stream[format.settings.val + 1] = sdpTcp

instance (format : SdpFormat) (stream : Stream) :
    Decidable (format.PlainTcp stream) :=
  inferInstanceAs (Decidable (_ ∧ _))

/-- The `byteCount` bytes received into the stream are a message of this
format without TLS over TCP. -/
structure ValidSDPMessage (format : SdpFormat) (byteCount : Int)
    (stream : Stream) : Prop where
  long : format.size ≤ byteCount
  version : stream[0] = v2gtpVersion ∧ stream[1] = v2gtpVersionInv
  payloadType : BigEndianBytes.value [stream[2], stream[3]] =
    format.payloadType.toNat
  payloadLength :
    BigEndianBytes.value [stream[4], stream[5], stream[6], stream[7]] =
      format.payloadLength.toNat
  settings : format.PlainTcp stream

/-- A datagram that passes the header tests without being a message of the
format: too short, with a wrong version byte, with a length beyond 16 bits, or
for another security or transport. -/
def SpuriousSDPMessage (format : SdpFormat) (byteCount : Int)
    (stream : Stream) : Prop :=
  PassesHeaderTests format.payloadType.toNat format.payloadLength.toNat
      stream ∧
    (byteCount < format.size ∨
      stream[0] ≠ v2gtpVersion ∨ stream[1] ≠ v2gtpVersionInv ∨
      stream[4] ≠ 0 ∨ stream[5] ≠ 0 ∨ ¬ format.PlainTcp stream)

instance (format : SdpFormat) (byteCount : Int) (stream : Stream) :
    Decidable (SpuriousSDPMessage format byteCount stream) :=
  inferInstanceAs (Decidable (_ ∧ _))

theorem value_quadruple_eq_iff (first second third fourth : UInt8)
    {number : ℕ} (small : number < 256) :
    BigEndianBytes.value [first, second, third, fourth] = number ↔
      first = 0 ∧ second = 0 ∧ third = 0 ∧ fourth.toNat = number := by
  have bounded := fourth.toNat_lt
  simp only [BigEndianBytes.value_quadruple, ← UInt8.toNat_inj,
    UInt8.toNat_zero]
  omega

/-- A datagram is valid when it passes the header tests and is not
spurious. -/
theorem validSDPMessage_iff (format : SdpFormat)
    (short : format.payloadLength.toNat < 256) (byteCount : Int)
    (stream : Stream) :
    ValidSDPMessage format byteCount stream ↔
      PassesHeaderTests format.payloadType.toNat
          format.payloadLength.toNat stream ∧
        ¬ SpuriousSDPMessage format byteCount stream := by
  have length :=
    value_quadruple_eq_iff stream[4] stream[5] stream[6] stream[7] short
  constructor
  · rintro ⟨long, version, type, payloadLength, settings⟩
    obtain ⟨fourth, fifth, sixth, seventh⟩ := length.mp payloadLength
    refine ⟨⟨.inl version.1, type, sixth, seventh⟩, ?_⟩
    rintro ⟨-, short | other⟩
    · omega
    · simp_all
  · rintro ⟨passes, notSpurious⟩
    simp only [SpuriousSDPMessage, passes, true_and, not_or, not_not]
      at notSpurious
    obtain ⟨long, first, second, fourth, fifth, settings⟩ := notSpurious
    exact ⟨Int.not_lt.mp long, ⟨first, second⟩, passes.payloadType,
      length.mpr ⟨fourth, fifth, passes.lengthBytes⟩, settings⟩

/-- The globals after a datagram has been received into `v2gtp_inStream`. -/
def SdpGlobals.receive (globals : SdpGlobals) (result : RecvResult) :
    SdpGlobals :=
  { globals with
    v2gtpInStream := (udpReceive globals.v2gtpInStream result).buffer }

/-- In either role the parser accepts exactly the messages of that role, except
on the spurious datagrams; on the EV only those without TLS over TCP
count. -/
theorem parseSDPMessage_exact_iff (library : AddressLibrary)
    (textual : ∀ address,
      ((library.inetNtop address).bind library.inetPton).isSome)
    (globals : SdpGlobals) (bytes : List UInt8) :
    let received := udpReceive globals.v2gtpInStream (.datagram bytes)
    let after := globals.receive (.datagram bytes)
    (((parseSDPMessage .EVSE library after).1 = 0 ↔
        ValidSDPMessage requestFormat received.byteCount received.buffer) ↔
      ¬ SpuriousSDPMessage requestFormat received.byteCount
          received.buffer) ∧
    (((parseSDPMessage .EV library after).1 = 0 ↔
        ValidSDPMessage responseFormat received.byteCount received.buffer) ↔
      ¬ (SpuriousSDPMessage responseFormat received.byteCount
            received.buffer ∧
          responseFormat.PlainTcp received.buffer)) := by
  intro received after
  constructor
  · rw [parseSDPMessage_EVSE, validSDPMessage_iff _ (by decide)]
    change (PassesHeaderTests 0x9000 2 received.buffer ↔
      PassesHeaderTests 0x9000 2 received.buffer ∧ _) ↔ _
    have spuriousPasses :
        SpuriousSDPMessage requestFormat received.byteCount
          received.buffer → PassesHeaderTests 0x9000 2 received.buffer :=
      And.left
    tauto
  · rw [parseSDPMessage_EV library textual,
      validSDPMessage_iff _ (by decide)]
    change (PassesHeaderTests 0x9001 20 received.buffer ∧
        responseFormat.PlainTcp received.buffer ↔
      PassesHeaderTests 0x9001 20 received.buffer ∧ _) ↔ _
    have spuriousPasses :
        SpuriousSDPMessage responseFormat received.byteCount
          received.buffer → PassesHeaderTests 0x9001 20 received.buffer :=
      And.left
    have otherSettings :
        PassesHeaderTests 0x9001 20 received.buffer →
          ¬ responseFormat.PlainTcp received.buffer →
            SpuriousSDPMessage responseFormat received.byteCount
              received.buffer :=
      fun passes other => ⟨passes, by simp [other]⟩
    tauto

/-- Conversions that agree with the C library on the address `::`. -/
def unspecifiedAddressOnly : AddressLibrary where
  inetNtop _ := some [':', ':']
  inetPton _ := some (Vector.replicate 16 0)
  getnameinfo _ := some [':', ':']

def freshSdpGlobals : SdpGlobals where
  v2gtpInStream := Vector.replicate 100 0
  v2gtpOutStream := Vector.replicate 100 0
  seccPort := 0
  seccAddr := Vector.replicate 16 0
  ipv6Str := []

/-- The request of the protocol is accepted as valid. -/
theorem parseSDPMessage_exact_request :
    (parseSDPMessage .EVSE unspecifiedAddressOnly (freshSdpGlobals.receive
        (.datagram [0x01, 0xFE, 0x90, 0, 0, 0, 0, 2, 0x10, 0]))).1 = 0 ↔
      ValidSDPMessage requestFormat
        (udpReceive freshSdpGlobals.v2gtpInStream
          (.datagram [0x01, 0xFE, 0x90, 0, 0, 0, 0, 2, 0x10, 0])).byteCount
        (udpReceive freshSdpGlobals.v2gtpInStream
          (.datagram [0x01, 0xFE, 0x90, 0, 0, 0, 0, 2, 0x10, 0])).buffer :=
  (parseSDPMessage_exact_iff unspecifiedAddressOnly (fun _ => rfl)
    freshSdpGlobals _).1.mpr (by decide)

/-- The EVSE accepts ten bytes whose second version byte is wrong. -/
theorem parseSDPMessage_not_exact :
    ¬ ((parseSDPMessage .EVSE unspecifiedAddressOnly (freshSdpGlobals.receive
        (.datagram [0x01, 0x00, 0x90, 0, 0, 0, 0, 2, 0x10, 0]))).1 = 0 ↔
      ValidSDPMessage requestFormat
        (udpReceive freshSdpGlobals.v2gtpInStream
          (.datagram [0x01, 0x00, 0x90, 0, 0, 0, 0, 2, 0x10, 0])).byteCount
        (udpReceive freshSdpGlobals.v2gtpInStream
          (.datagram [0x01, 0x00, 0x90, 0, 0, 0, 0, 2, 0x10, 0])).buffer) := by
  rw [parseSDPMessage_EVSE, validSDPMessage_iff _ (by decide)]
  decide

end OpenRTH
