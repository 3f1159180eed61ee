import OpenRTH.SdpMessages

/-!
# The SDP exchange

`perform_SDP` threads its outcome through `UDPSock::receive`,
`parse_SDP_message`, `create_SDP_response` and `get_IPv6`, whose return
conventions differ: a byte count is used as a truth value, the result of
`create_SDP_response` is dropped, and `get_IPv6` succeeds without an address.
The main result says for which receptions and which states of the interface a
success of the EVSE stands for a real exchange.
-/

namespace OpenRTH

/-- `network_interface`. -/
def networkInterface : CString := ['q', 'c', 'a', '0']

/-- An entry of the list that `getifaddrs` returns; the address is `none` when
it is missing or of another family. -/
structure InterfaceAddress where
  name : CString
  inet6 : Option In6Addr

/-- The results of the system calls one call of `perform_SDP` makes. -/
structure SdpEnvironment where
  library : AddressLibrary
  /-- `TCP_port`, initially 65535. -/
  tcpPort : ℕ
  received : RecvResult
  senderCreated : Bool
  serverCreated : Bool
  /-- `none` when `getifaddrs` fails. -/
  interfaces : Option (List InterfaceAddress)
  /-- What the stack holds where `create_SDP_response` keeps `ipv6str`. -/
  uninitialised : CString
  /-- Whether `sendto` sends the datagram. -/
  sent : Bool

/-- The text up to a `%`, where the interface index starts. -/
def withoutScope (text : CString) : CString :=
  text.takeWhile (· ≠ '%')

/-- The loop of `get_IPv6` over the interface list. -/
def getIPv6Loop (library : AddressLibrary) (ifaceName : CString) :
    List InterfaceAddress → CString → Int × CString
  | [], ipv6add => (0, ipv6add)
  | ifa :: rest, ipv6add =>
      match ifa.inet6 with
      | none => getIPv6Loop library ifaceName rest ipv6add
      | some address =>
          if ifa.name ≠ ifaceName then
            getIPv6Loop library ifaceName rest ipv6add
          else
            match library.getnameinfo address with
            | none => (-1, ipv6add)
            | some text =>
                getIPv6Loop library ifaceName rest (withoutScope text)

/-- `get_IPv6`. -/
def getIPv6 (environment : SdpEnvironment) (ifaceName ipv6add : CString) :
    Outcome (Int × CString) :=
  match environment.interfaces with
  | none => .exits
  | some interfaces =>
      .returns (getIPv6Loop environment.library ifaceName interfaces ipv6add)

/-- The globals of `sdp.cpp` with a buffer that belongs to the caller. -/
structure SdpMemory extends SdpGlobals where
  callerStream : Stream

/-- The buffers a pointer parameter of `sdp.cpp` can point to. -/
inductive StreamName
  | inStream
  | outStream
  | caller
  deriving DecidableEq

def SdpMemory.update (memory : SdpMemory) (change : Stream → Stream) :
    StreamName → SdpMemory
  | .inStream => { memory with v2gtpInStream := change memory.v2gtpInStream }
  | .outStream =>
      { memory with v2gtpOutStream := change memory.v2gtpOutStream }
  | .caller => { memory with callerStream := change memory.callerStream }

/-- `create_SDP_response`: the header goes through the parameter, the payload
to `v2gtp_outStream`. -/
def createSDPResponse (environment : SdpEnvironment) (message : StreamName)
    (memory : SdpMemory) : Outcome (Int × SdpMemory) :=
  let memory := memory.update
    (createV2gtpHeader · v2gtpSdpResponseType 20) message
  match getIPv6 environment networkInterface environment.uninitialised with
  | .exits => .exits
  | .returns (rc, ipv6str) =>
      if rc ≠ 0 then .returns (-1, memory)
      else
        match environment.library.inetPton ipv6str with
        | none => .returns (-1, memory)
        | some address =>
            .returns (0, { memory with
              seccAddr := address
              v2gtpOutStream := writeResponsePayload address
                environment.tcpPort memory.v2gtpOutStream })

/-- The first 28 bytes of a buffer, which are sent as the response. -/
def responseBytes (stream : Stream) : Vector UInt8 28 :=
  Vector.ofFn fun index => stream[index.val]

/-- The end of a call of `perform_SDP`, and the response it has sent. -/
structure SdpRun where
  outcome : Outcome Int
  memory : SdpMemory
  response : Option (Vector UInt8 28)

/-- `perform_SDP`. -/
def performSDP (deviceType : DeviceType) (environment : SdpEnvironment)
    (memory : SdpMemory) : SdpRun :=
  match deviceType with
  | .EVSE =>
      let received := udpReceive memory.v2gtpInStream environment.received
      let memory := { memory with v2gtpInStream := received.buffer }
      if received.byteCount ≠ 0 then
        let parsed :=
          parseSDPMessage .EVSE environment.library memory.toSdpGlobals
        let memory := { memory with toSdpGlobals := parsed.2 }
        if parsed.1 < 0 then ⟨.returns (-1), memory, none⟩
        else if ¬ environment.senderCreated then ⟨.exits, memory, none⟩
        else
          match createSDPResponse environment .outStream memory with
          | .exits => ⟨.exits, memory, none⟩
          | .returns (_, memory) =>
              ⟨.returns 0, memory,
                if environment.sent then
                  some (responseBytes memory.v2gtpOutStream) else none⟩
      else ⟨.returns 0, memory, none⟩
  | .EV =>
      if ¬ environment.senderCreated then ⟨.exits, memory, none⟩
      else
        let memory := memory.update
          (createSDPRequest · noTransportLayerSecurity sdpTcp) .outStream
        if ¬ environment.serverCreated then ⟨.exits, memory, none⟩
        else
          let received :=
            udpReceive memory.v2gtpInStream environment.received
          let memory := { memory with v2gtpInStream := received.buffer }
          let parsed :=
            parseSDPMessage .EV environment.library memory.toSdpGlobals
          let memory := { memory with toSdpGlobals := parsed.2 }
          if parsed.1 < 0 then ⟨.returns (-1), memory, none⟩
          else ⟨.returns 0, memory, none⟩
  | .other => ⟨.returns 0, memory, none⟩

/-! ## Looking up the address -/

/-- The IPv6 addresses of an interface, in list order. -/
def interfaceAddresses (ifaceName : CString)
    (interfaces : List InterfaceAddress) : List In6Addr :=
  interfaces.filterMap fun ifa =>
    if ifa.name = ifaceName then ifa.inet6 else none

/-- `get_IPv6` as a loop over the addresses of the interface. -/
theorem getIPv6Loop_addresses (library : AddressLibrary)
    (ifaceName ipv6add : CString) (interfaces : List InterfaceAddress) :
    getIPv6Loop library ifaceName interfaces ipv6add =
      getIPv6Loop library ifaceName
        ((interfaceAddresses ifaceName interfaces).map
          fun address => ⟨ifaceName, some address⟩) ipv6add := by
  induction interfaces generalizing ipv6add with
  | nil => rfl
  | cons ifa interfaces ih =>
      obtain ⟨name, inet6⟩ := ifa
      cases inet6 with
      | none => simpa [getIPv6Loop, interfaceAddresses] using ih ipv6add
      | some address =>
          by_cases named : name = ifaceName
          · subst named
            simp only [getIPv6Loop, interfaceAddresses, ne_eq, not_true_eq_false,
              if_false, List.filterMap_cons, if_true, List.map_cons]
            cases library.getnameinfo address with
            | none => rfl
            | some text => exact ih (withoutScope text)
          · simpa [getIPv6Loop, interfaceAddresses, named] using ih ipv6add

theorem getIPv6Loop_last (library : AddressLibrary)
    (ifaceName ipv6add : CString) (addresses : List In6Addr)
    (last : In6Addr)
    (named : ∀ address ∈ addresses ++ [last],
      (library.getnameinfo address).isSome) :
    ∃ text, library.getnameinfo last = some text ∧
      getIPv6Loop library ifaceName
          ((addresses ++ [last]).map fun address => ⟨ifaceName, some address⟩)
          ipv6add = (0, withoutScope text) := by
  induction addresses generalizing ipv6add with
  | nil =>
      obtain ⟨text, written⟩ :=
        Option.isSome_iff_exists.mp (named last (by simp))
      exact ⟨text, written, by simp [getIPv6Loop, written]⟩
  | cons address addresses ih =>
      obtain ⟨text, written⟩ :=
        Option.isSome_iff_exists.mp (named address (by simp))
      obtain ⟨lastText, lastWritten, loop⟩ := ih (withoutScope text)
        fun other member => named other (by simp_all)
      exact ⟨lastText, lastWritten, by simpa [getIPv6Loop, written] using loop⟩

theorem getIPv6Loop_fails (library : AddressLibrary)
    (ifaceName ipv6add : CString) (addresses : List In6Addr)
    (unnamed : ∃ address ∈ addresses, library.getnameinfo address = none) :
    ∃ text, getIPv6Loop library ifaceName
      (addresses.map fun address => ⟨ifaceName, some address⟩)
      ipv6add = (-1, text) := by
  induction addresses generalizing ipv6add with
  | nil => simp at unnamed
  | cons address addresses ih =>
      cases written : library.getnameinfo address with
      | none => simp [getIPv6Loop, written]
      | some text =>
          have later : ∃ address ∈ addresses,
              library.getnameinfo address = none := by
            obtain ⟨other, member, missing⟩ := unnamed
            rcases List.mem_cons.mp member with rfl | member
            · simp [missing] at written
            · exact ⟨other, member, missing⟩
          simpa [getIPv6Loop, written] using ih (withoutScope text) later

/-! ## The response -/

/-- The response carries the address, the port in network order and the
settings of the protocol. -/
structure ProperPayload (address : In6Addr) (tcpPort : ℕ)
    (response : Vector UInt8 28) : Prop where
  address : ∀ index : Fin 16, response[8 + index.val] = address[index.val]
  port : response[24] = UInt8.ofNat (tcpPort >>> 8) ∧
    response[25] = UInt8.ofNat tcpPort
  settings : response[26] = noTransportLayerSecurity ∧ response[27] = sdpTcp

structure ProperHeader (response : Vector UInt8 28) : Prop where
  version : response[0] = v2gtpVersion ∧ response[1] = v2gtpVersionInv
  payloadType : BigEndianBytes.value [response[2], response[3]] = 0x9001
  payloadLength : BigEndianBytes.value
    [response[4], response[5], response[6], response[7]] = 20

@[simp]
theorem responseBytes_getElem (stream : Stream) (index : ℕ)
    (small : index < 28) :
    (responseBytes stream)[index] = stream[index] := by
  simp [responseBytes]

theorem parsedAddress_eq_iff (stream : Stream) (address : In6Addr) :
    parsedAddress stream = address ↔
      ∀ index : Fin 16, (responseBytes stream)[8 + index.val] =
        address[index.val] := by
  constructor
  · rintro rfl index
    simp [parsedAddress]
  · intro same
    ext index small
    have byte := same ⟨index, small⟩
    rw [responseBytes_getElem] at byte
    simpa [parsedAddress] using congrArg UInt8.toNat byte

theorem parsedPort_eq_iff (stream : Stream) {tcpPort : ℕ}
    (small : tcpPort ≤ 65535) :
    (parsedPort stream).toNat = tcpPort ↔
      (responseBytes stream)[24] = UInt8.ofNat (tcpPort >>> 8) ∧
        (responseBytes stream)[25] = UInt8.ofNat tcpPort := by
  have low := stream[25].toNat_lt
  rw [parsedPort_toNat, responseBytes_getElem, responseBytes_getElem,
    ← UInt8.toNat_inj, ← UInt8.toNat_inj, UInt8.toNat_ofNat',
    UInt8.toNat_ofNat', Nat.shiftRight_eq_div_pow]
  omega

@[simp]
theorem createV2gtpHeader_getElem_of_le (message : Stream)
    (payloadType : UInt16) (payloadLength : UInt32) (index : ℕ)
    (afterHeader : 8 ≤ index) (small : index < 100) :
    (createV2gtpHeader message payloadType payloadLength)[index] =
      message[index] := by
  simp only [createV2gtpHeader]
  repeat rw [Vector.getElem_set_ne _ _ (by omega)]

theorem writeResponsePayload_getElem_of_lt (address : In6Addr) (tcpPort : ℕ)
    (stream : Stream) (index : ℕ) (inHeader : index < 8) :
    (writeResponsePayload address tcpPort stream)[index] = stream[index] := by
  simp only [writeResponsePayload]
  repeat rw [Vector.getElem_set_ne _ _ (by omega)]
  rw [Vector.getElem_ofFn, dif_neg (by simp; omega)]
  rfl

theorem properHeader_responseBytes {stream message : Stream}
    (sameHeader : ∀ index (inHeader : index < 8), stream[index] =
      (createV2gtpHeader message v2gtpSdpResponseType 20)[index]) :
    ProperHeader (responseBytes stream) := by
  constructor <;>
    simp [sameHeader, createV2gtpHeader, BigEndianBytes.value_pair,
      BigEndianBytes.value_quadruple, v2gtpSdpResponseType]

/-- The port is written low byte first, so it is in network order only when its
two bytes are equal. -/
theorem properPayload_writeResponsePayload (address other : In6Addr)
    (tcpPort : ℕ) (stream : Stream) :
    ProperPayload other tcpPort
        (responseBytes (writeResponsePayload address tcpPort stream)) ↔
      address = other ∧
        UInt8.ofNat (tcpPort >>> 8) = UInt8.ofNat tcpPort := by
  have addressByte (index : ℕ) (small : index < 16) :
      (writeResponsePayload address tcpPort stream)[8 + index] =
        address[index] := by
    simp only [writeResponsePayload]
    repeat rw [Vector.getElem_set_ne _ _ (by omega)]
    rw [Vector.getElem_ofFn, dif_pos (by simp; omega)]
    simp
  have lowByte : (writeResponsePayload address tcpPort stream)[24] =
      UInt8.ofNat tcpPort := by simp [writeResponsePayload]
  have highByte : (writeResponsePayload address tcpPort stream)[25] =
      UInt8.ofNat (tcpPort >>> 8) := by simp [writeResponsePayload]
  have settings :
      (writeResponsePayload address tcpPort stream)[26] =
          noTransportLayerSecurity ∧
        (writeResponsePayload address tcpPort stream)[27] = sdpTcp := by
    simp [writeResponsePayload]
  constructor
  · rintro ⟨sameAddress, port, -⟩
    refine ⟨Vector.ext fun index small => ?_, ?_⟩
    · have same := sameAddress ⟨index, small⟩
      rw [responseBytes_getElem, addressByte index small] at same
      exact same
    · rw [responseBytes_getElem, lowByte] at port
      exact port.1.symm
  · rintro ⟨rfl, sameBytes⟩
    refine ⟨fun index => ?_, ?_, ?_⟩
    · rw [responseBytes_getElem, addressByte index.val index.isLt]
    · simp [lowByte, highByte, sameBytes]
    · simpa using settings

/-! ## Success of the EVSE -/

/-- The IPv6 addresses of `network_interface`. -/
def SdpEnvironment.addresses (environment : SdpEnvironment) :
    List In6Addr :=
  (environment.interfaces.map
    (interfaceAddresses networkInterface)).getD []

/-- The text of `getnameinfo` without its scope converts back to the
address. -/
def AddressLibrary.ReadsBack (library : AddressLibrary) : Prop :=
  ∀ address text, library.getnameinfo address = some text →
    library.inetPton (withoutScope text) = some address

/-- The call received a valid request and sent a proper response. -/
structure RealExchange (environment : SdpEnvironment) (memory : SdpMemory)
    (run : SdpRun) : Prop where
  datagram : ∃ bytes, environment.received = .datagram bytes
  request : ValidSDPMessage requestFormat
    (udpReceive memory.v2gtpInStream environment.received).byteCount
    (udpReceive memory.v2gtpInStream environment.received).buffer
  response : ∃ response, run.response = some response ∧
    ProperHeader response ∧
    ∃ address ∈ environment.addresses,
      ProperPayload address environment.tcpPort response

/-- The lookup finds an address and the port reads the same in both byte
orders, or the lookup fails and a proper payload is left from before. -/
def PayloadReady (environment : SdpEnvironment) (memory : SdpMemory) :
    Prop :=
  (environment.addresses ≠ [] ∧
      (∀ address ∈ environment.addresses,
        (environment.library.getnameinfo address).isSome) ∧
      UInt8.ofNat (environment.tcpPort >>> 8) =
        UInt8.ofNat environment.tcpPort) ∨
    ((∃ address ∈ environment.addresses,
        environment.library.getnameinfo address = none) ∧
      ∃ address ∈ environment.addresses,
        ProperPayload address environment.tcpPort
          (responseBytes memory.v2gtpOutStream))

/-- The last address of the interface goes into the payload. -/
theorem createSDPResponse_last {environment : SdpEnvironment}
    (readsBack : environment.library.ReadsBack) (message : StreamName)
    (memory : SdpMemory) {addresses : List In6Addr} {last : In6Addr}
    (split : environment.addresses = addresses ++ [last])
    (named : ∀ address ∈ environment.addresses,
      (environment.library.getnameinfo address).isSome) :
    let withHeader := memory.update
      (createV2gtpHeader · v2gtpSdpResponseType 20) message
    createSDPResponse environment message memory =
      .returns (0, { withHeader with
        seccAddr := last
        v2gtpOutStream := writeResponsePayload last environment.tcpPort
          withHeader.v2gtpOutStream }) := by
  intro withHeader
  cases listed : environment.interfaces with
  | none => simp [SdpEnvironment.addresses, listed] at split
  | some interfaces =>
      have lookup := getIPv6Loop_addresses environment.library
        networkInterface environment.uninitialised interfaces
      have addressesEq : environment.addresses =
          interfaceAddresses networkInterface interfaces := by
        simp [SdpEnvironment.addresses, listed]
      rw [← addressesEq, split] at lookup
      rw [split] at named
      obtain ⟨text, written, loop⟩ := getIPv6Loop_last environment.library
        networkInterface environment.uninitialised addresses last named
      simp only [createSDPResponse, getIPv6, listed, lookup, loop, ne_eq,
        not_true_eq_false, if_false, readsBack last text written, withHeader]

theorem properHeader_createV2gtpHeader (stream : Stream) :
    ProperHeader (responseBytes
      (createV2gtpHeader stream v2gtpSdpResponseType 20)) :=
  properHeader_responseBytes fun _ _ => rfl

theorem properHeader_writeResponsePayload (address : In6Addr) (tcpPort : ℕ)
    (stream : Stream) :
    ProperHeader (responseBytes (writeResponsePayload address tcpPort
      (createV2gtpHeader stream v2gtpSdpResponseType 20))) :=
  properHeader_responseBytes fun index inHeader =>
    writeResponsePayload_getElem_of_lt address tcpPort _ index inHeader

theorem properPayload_createV2gtpHeader (address : In6Addr) (tcpPort : ℕ)
    (stream : Stream) :
    ProperPayload address tcpPort (responseBytes
        (createV2gtpHeader stream v2gtpSdpResponseType 20)) ↔
      ProperPayload address tcpPort (responseBytes stream) := by
  constructor <;> rintro ⟨addressBytes, port, settings⟩ <;>
    exact ⟨by simpa using addressBytes, by simpa using port,
      by simpa using settings⟩

/-- The buffer of the response after `create_SDP_response`, when `getifaddrs`
succeeds. -/
theorem createSDPResponse_payload (environment : SdpEnvironment)
    (readsBack : environment.library.ReadsBack) (memory : SdpMemory)
    (listed : environment.interfaces.isSome) :
    ∃ rc after, createSDPResponse environment .outStream memory =
        .returns (rc, after) ∧
      ProperHeader (responseBytes after.v2gtpOutStream) ∧
      ((∃ address ∈ environment.addresses,
          ProperPayload address environment.tcpPort
            (responseBytes after.v2gtpOutStream)) ↔
        PayloadReady environment memory) := by
  obtain ⟨interfaces, found⟩ := Option.isSome_iff_exists.mp listed
  have addressesEq : environment.addresses =
      interfaceAddresses networkInterface interfaces := by
    simp [SdpEnvironment.addresses, found]
  have lookup := getIPv6Loop_addresses environment.library networkInterface
    environment.uninitialised interfaces
  rw [← addressesEq] at lookup
  by_cases named : ∀ address ∈ environment.addresses,
      (environment.library.getnameinfo address).isSome
  · have noneUnnamed : ¬ ∃ address ∈ environment.addresses,
        environment.library.getnameinfo address = none := by
      rintro ⟨address, member, missing⟩
      simpa [missing] using named address member
    rcases List.eq_nil_or_concat environment.addresses with
      empty | ⟨addresses, last, split⟩
    · -- no address of the interface, whatever the stack holds
      have notReady : ¬ PayloadReady environment memory := by
        rintro (⟨some, -, -⟩ | ⟨unnamed, -⟩)
        · exact some empty
        · exact noneUnnamed unnamed
      simp only [createSDPResponse, getIPv6, found, lookup, SdpMemory.update,
        empty, List.map_nil, getIPv6Loop, ne_eq, not_true_eq_false, if_false]
      cases environment.library.inetPton environment.uninitialised with
      | none =>
          exact ⟨_, _, rfl, properHeader_createV2gtpHeader _,
            by simp [notReady]⟩
      | some address =>
          exact ⟨_, _, rfl, properHeader_writeResponsePayload address _ _,
            by simp [notReady]⟩
    · rw [List.concat_eq_append] at split
      refine ⟨_, _, createSDPResponse_last readsBack .outStream memory split
        named, properHeader_writeResponsePayload last _ _, ?_⟩
      simp only [properPayload_writeResponsePayload]
      constructor
      · rintro ⟨address, -, rfl, sameBytes⟩
        exact .inl ⟨by simp [split], named, sameBytes⟩
      · rintro (⟨-, -, sameBytes⟩ | ⟨unnamed, -⟩)
        · exact ⟨last, by simp [split], rfl, sameBytes⟩
        · exact absurd unnamed noneUnnamed
  · have unnamed : ∃ address ∈ environment.addresses,
        environment.library.getnameinfo address = none := by
      simpa using named
    obtain ⟨text, loop⟩ := getIPv6Loop_fails environment.library
      networkInterface environment.uninitialised environment.addresses unnamed
    simp only [createSDPResponse, getIPv6, found, lookup, SdpMemory.update,
      loop]
    refine ⟨-1, _, rfl, properHeader_createV2gtpHeader _, ?_⟩
    simp only [properPayload_createV2gtpHeader]
    constructor
    · exact fun left => .inr ⟨unnamed, left⟩
    · rintro (⟨-, allNamed, -⟩ | ⟨-, left⟩)
      · exact absurd allNamed named
      · exact left

/-- A success of the EVSE stands for a real exchange if and only if the
datagram is not empty and, when the bytes in `v2gtp_inStream` pass the header
tests and the sender and the interface list are available, the datagram is not
spurious, the response is sent and its payload is ready. -/
theorem performSDP_EVSE_realExchange_iff (environment : SdpEnvironment)
    (readsBack : environment.library.ReadsBack) (memory : SdpMemory) :
    let received := udpReceive memory.v2gtpInStream environment.received
    let run := performSDP .EVSE environment memory
    (run.outcome = .returns 0 → RealExchange environment memory run) ↔
      received.byteCount ≠ 0 ∧
        (PassesHeaderTests 0x9000 2 received.buffer →
          environment.senderCreated = true →
          environment.interfaces.isSome →
            ¬ SpuriousSDPMessage requestFormat received.byteCount
                received.buffer ∧
              environment.sent = true ∧ PayloadReady environment memory) := by
  intro received run
  by_cases empty : received.byteCount = 0
  · have silent : run.outcome = .returns 0 ∧ run.response = none := by
      simp only [run, performSDP]
      rw [if_neg (not_not.mpr empty)]
      exact ⟨rfl, rfl⟩
    simp only [empty, ne_eq, not_true_eq_false, false_and, iff_false]
    intro exchange
    obtain ⟨response, sent, -⟩ := (exchange silent.1).response
    simp [silent.2] at sent
  · simp only [ne_eq, empty, not_false_eq_true, true_and]
    have runEq : run = performSDP .EVSE environment memory := rfl
    simp only [performSDP, parseSDPMessage_EVSE_eq] at runEq
    rw [if_pos empty] at runEq
    change run = if (if PassesHeaderTests 0x9000 2 received.buffer
      then (0 : Int) else -1) < 0 then _ else _ at runEq
    by_cases passes : PassesHeaderTests 0x9000 2 received.buffer
    · rw [if_pos passes, if_neg (by decide)] at runEq
      cases created : environment.senderCreated with
      | false =>
          rw [created, if_pos (by decide)] at runEq
          simp [runEq]
      | true =>
          rw [created, if_neg (by decide)] at runEq
          cases listed : environment.interfaces with
          | none =>
              have exits (memory : SdpMemory) :
                  createSDPResponse environment .outStream memory = .exits := by
                simp [createSDPResponse, getIPv6, listed]
              rw [exits] at runEq
              simp [runEq]
          | some interfaces =>
              obtain ⟨rc, after, created, header, payload⟩ :=
                createSDPResponse_payload environment readsBack
                  { memory with v2gtpInStream := received.buffer }
                  (by simp [listed])
              change (∃ address ∈ environment.addresses, _) ↔
                PayloadReady environment memory at payload
              rw [created] at runEq
              have valid := validSDPMessage_iff requestFormat (by decide)
                received.byteCount received.buffer
              change _ ↔ PassesHeaderTests 0x9000 2 received.buffer ∧ _ at valid
              simp only [passes, true_and] at valid
              simp only [passes, Option.isSome_some, true_imp_iff]
              constructor
              · intro exchange
                obtain ⟨-, request, response, responseEq, -, proper⟩ :=
                  exchange (by rw [runEq])
                cases sent : environment.sent with
                | false => simp [runEq, sent] at responseEq
                | true =>
                    rw [runEq, sent] at responseEq
                    simp only [if_true, Option.some.injEq] at responseEq
                    subst responseEq
                    exact ⟨valid.mp request, rfl, payload.mp proper⟩
              · rintro ⟨notSpurious, sent, ready⟩ -
                have request := valid.mpr notSpurious
                refine ⟨?_, request, responseBytes after.v2gtpOutStream,
                  by simp [runEq, sent], header, payload.mpr ready⟩
                -- a failed `recvfrom` counts -1 bytes, too few for a request
                have long : (10 : Int) ≤ received.byteCount := request.long
                simp only [received, udpReceive_byteCount] at long
                cases result : environment.received with
                | failed => simp [result, RecvResult.byteCount] at long
                | datagram bytes => exact ⟨bytes, rfl⟩
    · rw [if_neg passes, if_pos (by decide)] at runEq
      simp [runEq, passes]

def benchAddress : In6Addr :=
  #v[0x20, 0x01, 0x0d, 0xb8, 0, 1, 0, 2, 0, 3, 0, 4, 0, 5, 0, 6]

def benchAddressText : CString :=
  ['2', '0', '0', '1', ':', 'd', 'b', '8', ':', '1', ':', '2', ':', '3', ':',
    '4', ':', '5', ':', '6']

/-- Conversions that know one address. -/
def benchLibrary : AddressLibrary where
  inetNtop address :=
    if address = benchAddress then some benchAddressText else none
  inetPton text := if text = benchAddressText then some benchAddress else none
  getnameinfo address :=
    if address = benchAddress then some benchAddressText else none

theorem benchLibrary_readsBack : benchLibrary.ReadsBack := by
  intro address text written
  simp only [benchLibrary, Option.ite_none_right_eq_some,
    Option.some.injEq] at written ⊢
  obtain ⟨rfl, rfl⟩ := written
  decide

/-- An EVSE with one address, on a port that reads the same in both byte
orders. -/
def benchEnvironment (received : RecvResult) : SdpEnvironment where
  library := benchLibrary
  tcpPort := 65535
  received := received
  senderCreated := true
  serverCreated := true
  interfaces := some [⟨networkInterface, some benchAddress⟩]
  uninitialised := []
  sent := true

def benchMemory : SdpMemory where
  toSdpGlobals := freshSdpGlobals
  callerStream := Vector.replicate 100 0

/-- The request of the protocol leads to a real exchange. -/
theorem performSDP_EVSE_realExchange_request :
    let environment := benchEnvironment
      (.datagram [0x01, 0xFE, 0x90, 0, 0, 0, 0, 2, 0x10, 0])
    let run := performSDP .EVSE environment benchMemory
    run.outcome = .returns 0 ∧ RealExchange environment benchMemory run := by
  intro environment run
  have success : run.outcome = .returns 0 := by decide
  refine ⟨success, (performSDP_EVSE_realExchange_iff environment
    benchLibrary_readsBack benchMemory).mpr ?_ success⟩
  refine ⟨by decide, fun _ _ _ => ⟨by decide, rfl, .inl ?_⟩⟩
  have addresses : environment.addresses = [benchAddress] := by decide
  rw [addresses]
  refine ⟨by simp, ?_, by decide⟩
  intro address member
  obtain rfl := List.mem_singleton.mp member
  decide

/-- An empty datagram makes the EVSE succeed without an exchange. -/
theorem performSDP_EVSE_empty_datagram :
    let environment := benchEnvironment (.datagram [])
    let run := performSDP .EVSE environment benchMemory
    ¬ (run.outcome = .returns 0 →
      RealExchange environment benchMemory run) := by
  intro environment run exchange
  obtain ⟨response, sent, -⟩ := (exchange (by decide)).response
  have silent : run.response = none := by decide
  simp [silent] at sent

end OpenRTH
