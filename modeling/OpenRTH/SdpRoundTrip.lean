import OpenRTH.HexTransport
import OpenRTH.SdpExchange

/-!
# The SDP response from the EVSE to the EV

`create_SDP_response` writes the header through its parameter and the payload to
`v2gtp_outStream`, with the low byte of the port first; `parse_SDP_message` reads
the port with the high byte first.  The main result says for which buffers and
which ports the EV reads back what the EVSE has written.
-/

namespace OpenRTH

/-- The buffer a pointer points to. -/
def SdpMemory.stream (memory : SdpMemory) : StreamName → Stream
  | .inStream => memory.v2gtpInStream
  | .outStream => memory.v2gtpOutStream
  | .caller => memory.callerStream

/-- `inet_pton` reads back what `inet_ntop` has written. -/
def AddressLibrary.InetInverse (library : AddressLibrary) : Prop :=
  ∀ address, ∃ text, library.inetNtop address = some text ∧
    library.inetPton text = some address

/-- The EV accepts the message in `v2gtp_inStream` and takes this address and
this port from it. -/
structure ParsesTo (library : AddressLibrary) (address : In6Addr)
    (tcpPort : ℕ) (globals : SdpGlobals) : Prop where
  accepted : (parseSDPMessage .EV library globals).1 = 0
  seccPort : (parseSDPMessage .EV library globals).2.seccPort.toNat = tcpPort
  seccAddr : (parseSDPMessage .EV library globals).2.seccAddr = address
  ipv6Str : library.inetNtop address =
    some (parseSDPMessage .EV library globals).2.ipv6Str

/-- The 28 bytes that `create_SDP_response` leaves in the buffer it was given
tell every EV the address and the port. -/
def RoundTrips (environment : SdpEnvironment) (message : StreamName)
    (memory : SdpMemory) (address : In6Addr) : Prop :=
  ∃ after, createSDPResponse environment message memory =
      .returns (0, after) ∧
    ∀ globals : SdpGlobals,
      responseBytes globals.v2gtpInStream =
          responseBytes (after.stream message) →
        ParsesTo environment.library address environment.tcpPort globals

/-- The buffer is the one the payload goes to, with the address that is found
last and a port whose two bytes are equal; or it is another one, which happens
to hold the payload already. -/
def ResponseReady (environment : SdpEnvironment) (message : StreamName)
    (memory : SdpMemory) (address : In6Addr) : Prop :=
  if message = .outStream then
    environment.addresses.getLast? = some address ∧
      UInt8.ofNat (environment.tcpPort >>> 8) =
        UInt8.ofNat environment.tcpPort
  else
    ProperPayload address environment.tcpPort
      (responseBytes (memory.stream message))

/-! ## What the EV reads -/

theorem ProperHeader.passes {stream : Stream}
    (header : ProperHeader (responseBytes stream)) :
    PassesHeaderTests 0x9001 20 stream := by
  obtain ⟨version, payloadType, payloadLength⟩ := header
  simp only [responseBytes_getElem] at version payloadType payloadLength
  have lengthBytes := (value_quadruple_eq_iff _ _ _ _ (by decide)).mp
    payloadLength
  exact ⟨.inl version.1, payloadType, lengthBytes.2.2⟩

/-- The EV takes an address and a port from a response exactly when its payload
holds them. -/
theorem parsesTo_iff {library : AddressLibrary}
    (inverse : library.InetInverse) {globals : SdpGlobals}
    (header : ProperHeader (responseBytes globals.v2gtpInStream))
    (address : In6Addr) {tcpPort : ℕ} (small : tcpPort ≤ 65535) :
    ParsesTo library address tcpPort globals ↔
      ProperPayload address tcpPort
        (responseBytes globals.v2gtpInStream) := by
  obtain ⟨text, written, read⟩ :=
    inverse (parsedAddress globals.v2gtpInStream)
  constructor
  · intro parses
    have settings := ((parseSDPMessage_EV library
      (fun address => by
        obtain ⟨text, written, read⟩ := inverse address
        simp [written, read]) globals).mp parses.accepted).2
    have parsed := parseSDPMessage_EV_eq header.passes settings written read
    have seccPort := parses.seccPort
    have seccAddr := parses.seccAddr
    rw [parsed] at seccPort seccAddr
    exact
      { address := (parsedAddress_eq_iff _ _).mp seccAddr
        port := (parsedPort_eq_iff _ small).mp seccPort
        settings := by simpa using settings }
  · rintro ⟨addressBytes, port, settings⟩
    simp only [responseBytes_getElem] at settings
    have parsed := parseSDPMessage_EV_eq header.passes settings written read
    have sameAddress := (parsedAddress_eq_iff _ _).mpr addressBytes
    have samePort := (parsedPort_eq_iff _ small).mpr port
    rw [sameAddress] at written
    constructor <;> simp [parsed, sameAddress, samePort, written]

theorem forall_parsesTo_iff {library : AddressLibrary}
    (inverse : library.InetInverse) {stream : Stream}
    (header : ProperHeader (responseBytes stream))
    (address : In6Addr) {tcpPort : ℕ} (small : tcpPort ≤ 65535) :
    (∀ globals : SdpGlobals,
        responseBytes globals.v2gtpInStream = responseBytes stream →
          ParsesTo library address tcpPort globals) ↔
      ProperPayload address tcpPort (responseBytes stream) := by
  constructor
  · intro parses
    obtain ⟨globals, rfl⟩ :
        ∃ globals : SdpGlobals, globals.v2gtpInStream = stream :=
      ⟨{ freshSdpGlobals with v2gtpInStream := stream }, rfl⟩
    exact (parsesTo_iff inverse header address small).mp (parses globals rfl)
  · intro proper globals received
    rw [← received] at header proper
    exact (parsesTo_iff inverse header address small).mpr proper

/-! ## What the EVSE leaves in the buffer -/

/-- The memory after a success. -/
def respondedMemory (message : StreamName) (address : In6Addr) (tcpPort : ℕ)
    (memory : SdpMemory) : SdpMemory :=
  let withHeader := memory.update
    (createV2gtpHeader · v2gtpSdpResponseType 20) message
  { withHeader with
    seccAddr := address
    v2gtpOutStream :=
      writeResponsePayload address tcpPort withHeader.v2gtpOutStream }

theorem properHeader_respondedMemory (message : StreamName)
    (address : In6Addr) (tcpPort : ℕ) (memory : SdpMemory) :
    ProperHeader (responseBytes
      ((respondedMemory message address tcpPort memory).stream message)) := by
  cases message with
  | outStream => exact properHeader_writeResponsePayload address tcpPort _
  | inStream | caller => exact properHeader_createV2gtpHeader _

theorem properPayload_respondedMemory (message : StreamName)
    (last address : In6Addr) (tcpPort : ℕ) (memory : SdpMemory) :
    ProperPayload address tcpPort (responseBytes
        ((respondedMemory message last tcpPort memory).stream message)) ↔
      if message = .outStream then
        last = address ∧ UInt8.ofNat (tcpPort >>> 8) = UInt8.ofNat tcpPort
      else ProperPayload address tcpPort
        (responseBytes (memory.stream message)) := by
  cases message with
  | outStream =>
      rw [if_pos rfl]
      exact properPayload_writeResponsePayload last address tcpPort _
  | inStream | caller =>
      rw [if_neg (by decide)]
      exact properPayload_createV2gtpHeader address tcpPort _

/-- The round trip as a condition on the buffer that was passed. -/
theorem roundTrips_iff_properPayload {environment : SdpEnvironment}
    (readsBack : environment.library.ReadsBack)
    (inverse : environment.library.InetInverse)
    (named : ∀ address ∈ environment.addresses,
      (environment.library.getnameinfo address).isSome)
    (small : environment.tcpPort ≤ 65535) {addresses : List In6Addr}
    {last : In6Addr} (split : environment.addresses = addresses ++ [last])
    (address : In6Addr) (message : StreamName) (memory : SdpMemory) :
    RoundTrips environment message memory address ↔
      ProperPayload address environment.tcpPort (responseBytes
        ((respondedMemory message last environment.tcpPort memory).stream
          message)) := by
  have responded : createSDPResponse environment message memory =
      .returns (0, respondedMemory message last environment.tcpPort memory) :=
    createSDPResponse_last readsBack message memory split named
  have header := properHeader_respondedMemory message last
    environment.tcpPort memory
  rw [RoundTrips, ← forall_parsesTo_iff inverse header address small]
  constructor
  · rintro ⟨after, returned, parses⟩
    rw [responded] at returned
    obtain ⟨-, rfl⟩ := Prod.mk.inj (Outcome.returns.inj returned)
    exact parses
  · exact fun parses => ⟨_, responded, parses⟩

/-- The EV reads back the address and the port exactly when the payload stands
in the buffer that was passed. -/
theorem createSDPResponse_roundTrips_iff (environment : SdpEnvironment)
    (readsBack : environment.library.ReadsBack)
    (inverse : environment.library.InetInverse)
    (named : ∀ address ∈ environment.addresses,
      (environment.library.getnameinfo address).isSome)
    (small : environment.tcpPort ≤ 65535) {address : In6Addr}
    (member : address ∈ environment.addresses) (message : StreamName)
    (memory : SdpMemory) :
    RoundTrips environment message memory address ↔
      ResponseReady environment message memory address := by
  rcases List.eq_nil_or_concat environment.addresses with
    empty | ⟨addresses, last, split⟩
  · simp [empty] at member
  · rw [List.concat_eq_append] at split
    rw [roundTrips_iff_properPayload readsBack inverse named small split,
      properPayload_respondedMemory, ResponseReady, split,
      List.getLast?_concat, Option.some_inj]

/-- Conversions that write one address in groups and the others in plain
digits. -/
def hexLibrary : AddressLibrary where
  inetNtop address :=
    some (if address = benchAddress then benchAddressText
      else convertBinaryToHex address.toList)
  inetPton text :=
    if text = benchAddressText then some benchAddress
    else
      let bytes := convertHexToBinary text fun _ => 0
      if full : bytes.length = 16 then some ⟨bytes.toArray, full⟩ else none
  getnameinfo := benchLibrary.getnameinfo

theorem hexLibrary_readsBack : hexLibrary.ReadsBack := by
  intro address text written
  simp only [hexLibrary, benchLibrary, Option.ite_none_right_eq_some,
    Option.some.injEq] at written
  obtain ⟨rfl, rfl⟩ := written
  decide

theorem hexLibrary_inetInverse : hexLibrary.InetInverse := by
  intro address
  refine ⟨_, rfl, ?_⟩
  by_cases isBench : address = benchAddress
  · simp [hexLibrary, isBench]
  · have otherText :
        convertBinaryToHex address.toList ≠ benchAddressText := by
      intro same
      have lengths := congrArg List.length same
      simp [benchAddressText] at lengths
    simp only [hexLibrary, if_neg isBench, if_neg otherText,
      convertHexToBinary_convertBinaryToHex, Vector.length_toList,
      dif_pos]
    rfl

/-- An EVSE with one address and a server on this port. -/
def hexEnvironment (tcpPort : ℕ) : SdpEnvironment :=
  { benchEnvironment (.datagram []) with
    library := hexLibrary
    tcpPort := tcpPort }

theorem hexEnvironment_addresses (tcpPort : ℕ) :
    (hexEnvironment tcpPort).addresses = [benchAddress] := by
  rfl

theorem hexEnvironment_named (tcpPort : ℕ) :
    ∀ address ∈ (hexEnvironment tcpPort).addresses,
      ((hexEnvironment tcpPort).library.getnameinfo address).isSome := by
  rw [hexEnvironment_addresses]
  intro address member
  obtain rfl := List.mem_singleton.mp member
  change (benchLibrary.getnameinfo benchAddress).isSome
  decide

theorem createSDPResponse_roundTrips_default_port :
    RoundTrips (hexEnvironment 65535) .outStream benchMemory benchAddress := by
  refine (createSDPResponse_roundTrips_iff (hexEnvironment 65535)
    hexLibrary_readsBack hexLibrary_inetInverse (hexEnvironment_named 65535)
    le_rfl (by simp [hexEnvironment_addresses]) .outStream benchMemory).mpr ?_
  rw [ResponseReady, if_pos rfl, hexEnvironment_addresses]
  decide

/-- The EV reads another port than 15118, and no port from a buffer of the
caller's. -/
theorem createSDPResponse_not_roundTrips :
    hexLibrary.InetInverse ∧
      benchAddress ∈ (hexEnvironment 15118).addresses ∧
      ¬ RoundTrips (hexEnvironment 15118) .outStream benchMemory
        benchAddress ∧
      ¬ RoundTrips (hexEnvironment 65535) .caller benchMemory
        benchAddress := by
  have split (tcpPort : ℕ) :
      (hexEnvironment tcpPort).addresses = [] ++ [benchAddress] :=
    hexEnvironment_addresses tcpPort
  refine ⟨hexLibrary_inetInverse, by simp [split], ?_, ?_⟩ <;>
    intro roundTrips <;>
    rw [roundTrips_iff_properPayload hexLibrary_readsBack
      hexLibrary_inetInverse (hexEnvironment_named _) (by decide) (split _),
      properPayload_respondedMemory] at roundTrips
  · rw [if_pos rfl] at roundTrips
    exact absurd roundTrips.2 (by decide)
  · rw [if_neg (by decide)] at roundTrips
    exact absurd roundTrips.port.1 (by decide)

end OpenRTH
