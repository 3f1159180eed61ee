import OpenRTH.HomeplugMessages

/-!
# SLAC messages

The messages of the SLAC functions, field by field as in `slac.h`.  A frame of
one kind is wanted by the readers of that kind and by no others, and its reader
finds the fields with which it was sent.
-/

namespace OpenRTH

open PackedRecord

/-! ## Message types -/

def mmtypeReq : UInt16 := 0x0000
def mmtypeCnf : UInt16 := 0x0001
def mmtypeInd : UInt16 := 0x0002
def mmtypeRsp : UInt16 := 0x0003

def cmSetKey : UInt16 := 0x6008
def cmSlacParam : UInt16 := 0x6064
def cmStartAttenChar : UInt16 := 0x6068
def cmAttenChar : UInt16 := 0x606C
def cmMnbcSound : UInt16 := 0x6074
def cmSlacMatch : UInt16 := 0x607C
def cmAttenProfile : UInt16 := 0x6084

/-! ## Fields -/

/-- `struct cm_slac_param_request` behind its headers. -/
structure CmSlacParamRequest where
  applicationType : UInt8
  securityType : UInt8
  runId : RunId
  cipherSuiteSetSize : UInt8
  cipherSuite : UInt16
  deriving DecidableEq

instance : PackedRecord UInt8 CmSlacParamRequest where
  sizes := [1, 1, 8, 1, 2]
  fields request :=
    [[request.applicationType], [request.securityType], request.runId.bytes,
      [request.cipherSuiteSetSize], htole16 request.cipherSuite]
  map_length_fields request := by simp
  read fields :=
    { applicationType := (fields.getD 0 []).headD 0
      securityType := (fields.getD 1 []).headD 0
      runId := .ofField (fields.getD 2 [])
      cipherSuiteSetSize := (fields.getD 3 []).headD 0
      cipherSuite := le16toh (fields.getD 4 []) }
  read_fields request := by simp

/-- `struct cm_slac_param_confirm` behind its headers. -/
structure CmSlacParamConfirm where
  msoundTarget : EtherAddr
  numSounds : UInt8
  timeOut : UInt8
  respType : UInt8
  forwardingSta : EtherAddr
  applicationType : UInt8
  securityType : UInt8
  runId : RunId
  cipherSuite : UInt16
  deriving DecidableEq

instance : PackedRecord UInt8 CmSlacParamConfirm where
  sizes := [6, 1, 1, 1, 6, 1, 1, 8, 2]
  fields confirm :=
    [confirm.msoundTarget.bytes, [confirm.numSounds], [confirm.timeOut],
      [confirm.respType], confirm.forwardingSta.bytes,
      [confirm.applicationType], [confirm.securityType], confirm.runId.bytes,
      htole16 confirm.cipherSuite]
  map_length_fields confirm := by simp
  read fields :=
    { msoundTarget := .ofField (fields.getD 0 [])
      numSounds := (fields.getD 1 []).headD 0
      timeOut := (fields.getD 2 []).headD 0
      respType := (fields.getD 3 []).headD 0
      forwardingSta := .ofField (fields.getD 4 [])
      applicationType := (fields.getD 5 []).headD 0
      securityType := (fields.getD 6 []).headD 0
      runId := .ofField (fields.getD 7 [])
      cipherSuite := le16toh (fields.getD 8 []) }
  read_fields confirm := by simp

/-- `struct cm_start_atten_char_indicate` behind its headers. -/
structure CmStartAttenCharIndicate where
  applicationType : UInt8
  securityType : UInt8
  numSounds : UInt8
  timeOut : UInt8
  respType : UInt8
  forwardingSta : EtherAddr
  runId : RunId
  deriving DecidableEq

instance : PackedRecord UInt8 CmStartAttenCharIndicate where
  sizes := [1, 1, 1, 1, 1, 6, 8]
  fields indicate :=
    [[indicate.applicationType], [indicate.securityType],
      [indicate.numSounds], [indicate.timeOut], [indicate.respType],
      indicate.forwardingSta.bytes, indicate.runId.bytes]
  map_length_fields indicate := by simp
  read fields :=
    { applicationType := (fields.getD 0 []).headD 0
      securityType := (fields.getD 1 []).headD 0
      numSounds := (fields.getD 2 []).headD 0
      timeOut := (fields.getD 3 []).headD 0
      respType := (fields.getD 4 []).headD 0
      forwardingSta := .ofField (fields.getD 5 [])
      runId := .ofField (fields.getD 6 []) }
  read_fields indicate := by simp

/-- `struct cm_mnbc_sound_indicate` behind its headers. -/
structure CmMnbcSoundIndicate where
  applicationType : UInt8
  securityType : UInt8
  senderId : List.Vector UInt8 17
  cnt : UInt8
  runId : RunId
  rnd : List.Vector UInt8 17
  deriving DecidableEq

instance : PackedRecord UInt8 CmMnbcSoundIndicate where
  sizes := [1, 1, 17, 1, 8, 17]
  fields indicate :=
    [[indicate.applicationType], [indicate.securityType],
      indicate.senderId.toList, [indicate.cnt], indicate.runId.bytes,
      indicate.rnd.toList]
  map_length_fields indicate := by simp
  read fields :=
    { applicationType := (fields.getD 0 []).headD 0
      securityType := (fields.getD 1 []).headD 0
      senderId := fieldVector 17 (fields.getD 2 [])
      cnt := (fields.getD 3 []).headD 0
      runId := .ofField (fields.getD 4 [])
      rnd := fieldVector 17 (fields.getD 5 []) }
  read_fields indicate := by simp

/-- `struct cm_atten_profile_indicate` behind its headers. -/
structure CmAttenProfileIndicate where
  pevMac : EtherAddr
  numGroups : UInt8
  rsvd : UInt8
  aag : List.Vector UInt8 255
  deriving DecidableEq

instance : PackedRecord UInt8 CmAttenProfileIndicate where
  sizes := [6, 1, 1, 255]
  fields indicate :=
    [indicate.pevMac.bytes, [indicate.numGroups], [indicate.rsvd],
      indicate.aag.toList]
  map_length_fields indicate := by simp
  read fields :=
    { pevMac := .ofField (fields.getD 0 [])
      numGroups := (fields.getD 1 []).headD 0
      rsvd := (fields.getD 2 []).headD 0
      aag := fieldVector 255 (fields.getD 3 []) }
  read_fields indicate := by simp

/-- `struct cm_atten_char_indicate` behind its headers. -/
structure CmAttenCharIndicate where
  applicationType : UInt8
  securityType : UInt8
  sourceAddress : EtherAddr
  runId : RunId
  sourceId : List.Vector UInt8 17
  respId : List.Vector UInt8 17
  numSounds : UInt8
  numGroups : UInt8
  aag : List.Vector UInt8 255
  deriving DecidableEq

instance : PackedRecord UInt8 CmAttenCharIndicate where
  sizes := [1, 1, 6, 8, 17, 17, 1, 1, 255]
  fields indicate :=
    [[indicate.applicationType], [indicate.securityType],
      indicate.sourceAddress.bytes, indicate.runId.bytes,
      indicate.sourceId.toList, indicate.respId.toList,
      [indicate.numSounds], [indicate.numGroups], indicate.aag.toList]
  map_length_fields indicate := by simp
  read fields :=
    { applicationType := (fields.getD 0 []).headD 0
      securityType := (fields.getD 1 []).headD 0
      sourceAddress := .ofField (fields.getD 2 [])
      runId := .ofField (fields.getD 3 [])
      sourceId := fieldVector 17 (fields.getD 4 [])
      respId := fieldVector 17 (fields.getD 5 [])
      numSounds := (fields.getD 6 []).headD 0
      numGroups := (fields.getD 7 []).headD 0
      aag := fieldVector 255 (fields.getD 8 []) }
  read_fields indicate := by simp

/-- `struct cm_atten_char_response` behind its headers. -/
structure CmAttenCharResponse where
  applicationType : UInt8
  securityType : UInt8
  sourceAddress : EtherAddr
  runId : RunId
  sourceId : List.Vector UInt8 17
  respId : List.Vector UInt8 17
  result : UInt8
  deriving DecidableEq

instance : PackedRecord UInt8 CmAttenCharResponse where
  sizes := [1, 1, 6, 8, 17, 17, 1]
  fields response :=
    [[response.applicationType], [response.securityType],
      response.sourceAddress.bytes, response.runId.bytes,
      response.sourceId.toList, response.respId.toList, [response.result]]
  map_length_fields response := by simp
  read fields :=
    { applicationType := (fields.getD 0 []).headD 0
      securityType := (fields.getD 1 []).headD 0
      sourceAddress := .ofField (fields.getD 2 [])
      runId := .ofField (fields.getD 3 [])
      sourceId := fieldVector 17 (fields.getD 4 [])
      respId := fieldVector 17 (fields.getD 5 [])
      result := (fields.getD 6 []).headD 0 }
  read_fields response := by simp

/-- `struct cm_slac_match_request` behind its headers. -/
structure CmSlacMatchRequest where
  applicationType : UInt8
  securityType : UInt8
  mvfLength : UInt16
  pevId : List.Vector UInt8 17
  pevMac : EtherAddr
  evseId : List.Vector UInt8 17
  evseMac : EtherAddr
  runId : RunId
  rsvd : List.Vector UInt8 8
  deriving DecidableEq

instance : PackedRecord UInt8 CmSlacMatchRequest where
  sizes := [1, 1, 2, 17, 6, 17, 6, 8, 8]
  fields request :=
    [[request.applicationType], [request.securityType],
      htole16 request.mvfLength, request.pevId.toList, request.pevMac.bytes,
      request.evseId.toList, request.evseMac.bytes, request.runId.bytes,
      request.rsvd.toList]
  map_length_fields request := by simp
  read fields :=
    { applicationType := (fields.getD 0 []).headD 0
      securityType := (fields.getD 1 []).headD 0
      mvfLength := le16toh (fields.getD 2 [])
      pevId := fieldVector 17 (fields.getD 3 [])
      pevMac := .ofField (fields.getD 4 [])
      evseId := fieldVector 17 (fields.getD 5 [])
      evseMac := .ofField (fields.getD 6 [])
      runId := .ofField (fields.getD 7 [])
      rsvd := fieldVector 8 (fields.getD 8 []) }
  read_fields request := by simp

/-- `struct cm_slac_match_confirm` behind its headers. -/
structure CmSlacMatchConfirm where
  applicationType : UInt8
  securityType : UInt8
  mvfLength : UInt16
  pevId : List.Vector UInt8 17
  pevMac : EtherAddr
  evseId : List.Vector UInt8 17
  evseMac : EtherAddr
  runId : RunId
  rsvd1 : List.Vector UInt8 8
  nid : List.Vector UInt8 7
  rsvd2 : UInt8
  nmk : List.Vector UInt8 16
  deriving DecidableEq

instance : PackedRecord UInt8 CmSlacMatchConfirm where
  sizes := [1, 1, 2, 17, 6, 17, 6, 8, 8, 7, 1, 16]
  fields confirm :=
    [[confirm.applicationType], [confirm.securityType],
      htole16 confirm.mvfLength, confirm.pevId.toList, confirm.pevMac.bytes,
      confirm.evseId.toList, confirm.evseMac.bytes, confirm.runId.bytes,
      confirm.rsvd1.toList, confirm.nid.toList, [confirm.rsvd2],
      confirm.nmk.toList]
  map_length_fields confirm := by simp
  read fields :=
    { applicationType := (fields.getD 0 []).headD 0
      securityType := (fields.getD 1 []).headD 0
      mvfLength := le16toh (fields.getD 2 [])
      pevId := fieldVector 17 (fields.getD 3 [])
      pevMac := .ofField (fields.getD 4 [])
      evseId := fieldVector 17 (fields.getD 5 [])
      evseMac := .ofField (fields.getD 6 [])
      runId := .ofField (fields.getD 7 [])
      rsvd1 := fieldVector 8 (fields.getD 8 [])
      nid := fieldVector 7 (fields.getD 9 [])
      rsvd2 := (fields.getD 10 []).headD 0
      nmk := fieldVector 16 (fields.getD 11 []) }
  read_fields confirm := by simp

/-- `struct cm_set_key_request` behind its headers; the nonces stand as they
are in memory. -/
structure CmSetKeyRequest where
  keytype : UInt8
  mynounce : List.Vector UInt8 4
  yournounce : List.Vector UInt8 4
  pid : UInt8
  prn : UInt16
  pmn : UInt8
  ccocap : UInt8
  nid : List.Vector UInt8 7
  neweks : UInt8
  newkey : List.Vector UInt8 16
  rsvd : List.Vector UInt8 3
  deriving DecidableEq

instance : PackedRecord UInt8 CmSetKeyRequest where
  sizes := [1, 4, 4, 1, 2, 1, 1, 7, 1, 16, 3]
  fields request :=
    [[request.keytype], request.mynounce.toList, request.yournounce.toList,
      [request.pid], htole16 request.prn, [request.pmn], [request.ccocap],
      request.nid.toList, [request.neweks], request.newkey.toList,
      request.rsvd.toList]
  map_length_fields request := by simp
  read fields :=
    { keytype := (fields.getD 0 []).headD 0
      mynounce := fieldVector 4 (fields.getD 1 [])
      yournounce := fieldVector 4 (fields.getD 2 [])
      pid := (fields.getD 3 []).headD 0
      prn := le16toh (fields.getD 4 [])
      pmn := (fields.getD 5 []).headD 0
      ccocap := (fields.getD 6 []).headD 0
      nid := fieldVector 7 (fields.getD 7 [])
      neweks := (fields.getD 8 []).headD 0
      newkey := fieldVector 16 (fields.getD 9 [])
      rsvd := fieldVector 3 (fields.getD 10 []) }
  read_fields request := by simp

/-- `struct cm_set_key_confirm` behind its headers. -/
structure CmSetKeyConfirm where
  result : UInt8
  mynounce : List.Vector UInt8 4
  yournounce : List.Vector UInt8 4
  pid : UInt8
  prn : UInt16
  pmn : UInt8
  ccocap : UInt8
  rsvd : List.Vector UInt8 27
  deriving DecidableEq

instance : PackedRecord UInt8 CmSetKeyConfirm where
  sizes := [1, 4, 4, 1, 2, 1, 1, 27]
  fields confirm :=
    [[confirm.result], confirm.mynounce.toList, confirm.yournounce.toList,
      [confirm.pid], htole16 confirm.prn, [confirm.pmn], [confirm.ccocap],
      confirm.rsvd.toList]
  map_length_fields confirm := by simp
  read fields :=
    { result := (fields.getD 0 []).headD 0
      mynounce := fieldVector 4 (fields.getD 1 [])
      yournounce := fieldVector 4 (fields.getD 2 [])
      pid := (fields.getD 3 []).headD 0
      prn := le16toh (fields.getD 4 [])
      pmn := (fields.getD 5 []).headD 0
      ccocap := (fields.getD 6 []).headD 0
      rsvd := fieldVector 27 (fields.getD 7 []) }
  read_fields confirm := by simp

/-! ## Frames of the SLAC functions -/

/-- The messages that the SLAC functions send. -/
inductive SlacFields
  | slacParamRequest (request : CmSlacParamRequest)
  | slacParamConfirm (confirm : CmSlacParamConfirm)
  | startAttenCharIndicate (indicate : CmStartAttenCharIndicate)
  | mnbcSoundIndicate (indicate : CmMnbcSoundIndicate)
  | attenCharIndicate (indicate : CmAttenCharIndicate)
  | attenCharResponse (response : CmAttenCharResponse)
  | slacMatchRequest (request : CmSlacMatchRequest)
  | slacMatchConfirm (confirm : CmSlacMatchConfirm)
  | setKeyRequest (request : CmSetKeyRequest)
  deriving DecidableEq

/-- The type that `HomePlugHeader1` is called with. -/
def SlacFields.mmtype : SlacFields → UInt16
  | .slacParamRequest _ => cmSlacParam ||| mmtypeReq
  | .slacParamConfirm _ => cmSlacParam ||| mmtypeCnf
  | .startAttenCharIndicate _ => cmStartAttenChar ||| mmtypeInd
  | .mnbcSoundIndicate _ => cmMnbcSound ||| mmtypeInd
  | .attenCharIndicate _ => cmAttenChar ||| mmtypeInd
  | .attenCharResponse _ => cmAttenChar ||| mmtypeRsp
  | .slacMatchRequest _ => cmSlacMatch ||| mmtypeReq
  | .slacMatchConfirm _ => cmSlacMatch ||| mmtypeCnf
  | .setKeyRequest _ => cmSetKey ||| mmtypeReq

/-- A frame, by the addresses that `EthernetHeader` is called with and by its
message. -/
structure SlacFrame where
  peer : EtherAddr
  host : EtherAddr
  fields : SlacFields
  deriving DecidableEq

/-- A message behind the headers that every SLAC function writes. -/
def SlacFrame.message {Fields : Type} (frame : SlacFrame) (fields : Fields) :
    Mme Fields where
  ethernet := ethernetHeader frame.peer frame.host homeplugMtype
  homeplug := homePlugHeader1 homeplugMmv frame.fields.mmtype
  fields := fields

/-- The bytes sent: three messages are filled up to the shortest frame, the
others have the size of their structure. -/
def SlacFrame.bytes (frame : SlacFrame) : List UInt8 :=
  match frame.fields with
  | .slacParamRequest request =>
      frameOf (etherMinLen - etherCrcLen) (frame.message request)
  | .slacParamConfirm confirm =>
      frameOf (etherMinLen - etherCrcLen) (frame.message confirm)
  | .startAttenCharIndicate indicate =>
      frameOf (etherMinLen - etherCrcLen) (frame.message indicate)
  | .mnbcSoundIndicate indicate =>
      frameOf (size (Mme CmMnbcSoundIndicate)) (frame.message indicate)
  | .attenCharIndicate indicate =>
      frameOf (size (Mme CmAttenCharIndicate)) (frame.message indicate)
  | .attenCharResponse response =>
      frameOf (size (Mme CmAttenCharResponse)) (frame.message response)
  | .slacMatchRequest request =>
      frameOf (size (Mme CmSlacMatchRequest)) (frame.message request)
  | .slacMatchConfirm confirm =>
      frameOf (size (Mme CmSlacMatchConfirm)) (frame.message confirm)
  | .setKeyRequest request =>
      frameOf (size (Mme CmSetKeyRequest)) (frame.message request)

theorem SlacFrame.exists_frameOf (frame : SlacFrame) :
    ∃ (Fields : Type) (_ : PackedRecord UInt8 Fields) (fields : Fields)
      (length : ℕ),
      frame.bytes = frameOf length (frame.message fields) ∧
        size (Mme Fields) ≤ length ∧
        etherMinLen - etherCrcLen ≤ length ∧ length ≤ messageSize := by
  obtain ⟨peer, host, fields⟩ := frame
  cases fields
  all_goals exact ⟨_, inferInstance, _, _, rfl, by decide, by decide, by decide⟩

theorem SlacFrame.readpacket_bytes (frame : SlacFrame) :
    readpacket frame.bytes = frame.bytes := by
  obtain ⟨Fields, _, fields, length, same, -, -, short⟩ := frame.exists_frameOf
  rw [same, readpacket_frameOf short]

theorem SlacFrame.unwantedMessage_bytes (frame : SlacFrame)
    (mmtype : UInt16) :
    unwantedMessage frame.bytes homeplugMmv mmtype =
      decide (frame.fields.mmtype ≠ mmtype) := by
  obtain ⟨Fields, _, fields, length, same, fits, long, short⟩ :=
    frame.exists_frameOf
  rw [same, unwantedMessage_frameOf fits long (short.trans (by decide)) rfl rfl]
  rfl

theorem SlacFrame.ofList_headers_bytes (frame : SlacFrame) :
    ofList (R := EthernetHdr × HomeplugFmi) frame.bytes =
      (ethernetHeader frame.peer frame.host homeplugMtype,
        homePlugHeader1 homeplugMmv frame.fields.mmtype) := by
  obtain ⟨Fields, _, fields, length, same, fits, -, -⟩ := frame.exists_frameOf
  rw [same, ofList_headers_frameOf fits]
  rfl

/-! ## Reading frames back -/

/-- How the readers of each type look at the buffer. -/
def SlacFields.readers : List (UInt16 × (List UInt8 → SlacFields)) :=
  [(cmSlacParam ||| mmtypeReq, fun memory =>
      .slacParamRequest (ofList (R := Mme _) memory).fields),
    (cmSlacParam ||| mmtypeCnf, fun memory =>
      .slacParamConfirm (ofList (R := Mme _) memory).fields),
    (cmStartAttenChar ||| mmtypeInd, fun memory =>
      .startAttenCharIndicate (ofList (R := Mme _) memory).fields),
    (cmMnbcSound ||| mmtypeInd, fun memory =>
      .mnbcSoundIndicate (ofList (R := Mme _) memory).fields),
    (cmAttenChar ||| mmtypeInd, fun memory =>
      .attenCharIndicate (ofList (R := Mme _) memory).fields),
    (cmAttenChar ||| mmtypeRsp, fun memory =>
      .attenCharResponse (ofList (R := Mme _) memory).fields),
    (cmSlacMatch ||| mmtypeReq, fun memory =>
      .slacMatchRequest (ofList (R := Mme _) memory).fields),
    (cmSlacMatch ||| mmtypeCnf, fun memory =>
      .slacMatchConfirm (ofList (R := Mme _) memory).fields),
    (cmSetKey ||| mmtypeReq, fun memory =>
      .setKeyRequest (ofList (R := Mme _) memory).fields)]

/-- The frame in the buffer, by its headers and the reader of its type. -/
def SlacFrame.ofMemory (memory : List UInt8) : Option SlacFrame :=
  let (ethernet, homeplug) :=
    ofList (R := EthernetHdr × HomeplugFmi) memory
  (SlacFields.readers.lookup homeplug.mmtype).map fun reader =>
    ⟨ethernet.oda, ethernet.osa, reader memory⟩

theorem SlacFrame.lookup_readers (frame : SlacFrame) :
    (SlacFields.readers.lookup frame.fields.mmtype).map
      (fun reader => reader frame.bytes) = some frame.fields := by
  obtain ⟨peer, host, fields⟩ := frame
  cases fields
  all_goals
    refine congrArg some ?_
    dsimp only [SlacFrame.bytes]
    rw [ofList_frameOf (by decide)]
    rfl

theorem SlacFrame.ofMemory_bytes (frame : SlacFrame) :
    SlacFrame.ofMemory frame.bytes = some frame := by
  rw [SlacFrame.ofMemory, frame.ofList_headers_bytes]
  dsimp only [homePlugHeader1, ethernetHeader]
  obtain ⟨reader, found, fields⟩ :=
    Option.map_eq_some_iff.mp frame.lookup_readers
  rw [found, Option.map_some, fields]

/-- Every frame of the SLAC functions is wanted by the readers of its own type
and by no others, and is read back with the addresses and the fields that it was
sent with; so no two frames look alike. -/
theorem slacFrame_readBack :
    (∀ (frame : SlacFrame) (mmtype : UInt16),
      unwantedMessage (readpacket frame.bytes) homeplugMmv mmtype = false ↔
        frame.fields.mmtype = mmtype) ∧
      (∀ frame : SlacFrame,
        SlacFrame.ofMemory (readpacket frame.bytes) = some frame) ∧
      Function.Injective SlacFrame.bytes := by
  refine ⟨fun frame mmtype => ?_, fun frame => ?_, fun first second same => ?_⟩
  · rw [frame.readpacket_bytes, frame.unwantedMessage_bytes,
      decide_eq_false_iff_not, not_not]
  · rw [frame.readpacket_bytes, frame.ofMemory_bytes]
  · have read := first.ofMemory_bytes
    rw [same, second.ofMemory_bytes] at read
    exact (Option.some.inj read).symm

end OpenRTH
