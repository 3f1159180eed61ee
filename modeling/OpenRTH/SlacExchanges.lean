import OpenRTH.FixedBuffer
import OpenRTH.SlacMessages

/-!
# The SLAC exchanges

The functions behind the calls of the SLAC state machines, message by message:
what they send, which frames they wait for, what they store in the session, and
what they return.  `session->exit` is zero, so `slac_debug` ends the process
only where a frame cannot be sent.
-/

namespace OpenRTH

open PackedRecord (ofList fieldVector)

/-! ## The session and its reads -/

/-- `SLAC_GROUPS`. -/
def slacGroups : ℕ := 58

/-- `struct session`, without `state`, which the state machines keep. -/
structure SlacSession where
  runId : RunId
  applicationType : UInt8
  securityType : UInt8
  respType : UInt8
  numSounds : UInt8
  timeOut : UInt8
  aag : FixedBuffer UInt8 slacGroups
  numGroups : UInt8
  msoundTarget : EtherAddr
  forwardingSta : EtherAddr
  pevId : List.Vector UInt8 17
  pevMac : EtherAddr
  evseId : List.Vector UInt8 17
  evseMac : EtherAddr
  nmk : List.Vector UInt8 16
  nid : List.Vector UInt8 7
  sounds : ℕ
  limit : ℕ
  counter : UInt16

/-- An array of groups after `memset`. -/
def zeroBuffer {α : Type} [Zero α] : FixedBuffer α slacGroups :=
  ⟨List.replicate slacGroups 0, List.length_replicate⟩

/-- A session after `memset`. -/
def zeroSession : SlacSession where
  runId := .ofField []
  applicationType := 0
  securityType := 0
  respType := 0
  numSounds := 0
  timeOut := 0
  aag := zeroBuffer
  numGroups := 0
  msoundTarget := .ofField []
  forwardingSta := .ofField []
  pevId := fieldVector 17 []
  pevMac := .ofField []
  evseId := fieldVector 17 []
  evseMac := .ofField []
  nmk := fieldVector 16 []
  nid := fieldVector 7 []
  sounds := 0
  limit := 0
  counter := 0

/-- One call of `readpacket`: an error, or a frame with the milliseconds since
the reader has started its timer.  The frame is empty when nothing has
arrived. -/
inductive PacketRead
  | error
  | packet (frame : List UInt8) (elapsed : ℤ)

/-- `SLAC_TIMEOUT`. -/
def slacTimeout : ℤ := 1000

/-- `readmessage` over the results of `readpacket`: the message, or `none` on
timeout and error.  It has not returned yet where the results run out. -/
def readmessage (mmtype : UInt16) :
    List PacketRead → Option (Option (List UInt8))
  | [] => none
  | .error :: _ => some none
  | .packet frame elapsed :: reads =>
      let memory := readpacket frame
      if unwantedMessage memory homeplugMmv mmtype = false then
        some (some memory)
      else if elapsed < slacTimeout then readmessage mmtype reads
      else some none

theorem exists_packet_of_readmessage {mmtype : UInt16}
    {reads : List PacketRead} {memory : List UInt8}
    (message : readmessage mmtype reads = some (some memory)) :
    ∃ frame elapsed, .packet frame elapsed ∈ reads ∧
      memory = readpacket frame ∧
        unwantedMessage memory homeplugMmv mmtype = false := by
  induction reads with
  | nil => cases message
  | cons read reads ih =>
      cases read with
      | error => cases message
      | packet frame elapsed =>
          rw [readmessage] at message
          split_ifs at message with wanted early
          · obtain rfl := Option.some.inj (Option.some.inj message)
            exact ⟨frame, elapsed, List.mem_cons_self, rfl, wanted⟩
          · obtain ⟨earlier, time, member, same, wanted⟩ := ih message
            exact ⟨earlier, time, List.mem_cons_of_mem _ member, same, wanted⟩
          · cases message

/-! ## Calls in progress -/

/-- Where a call stands: at its start, in its reads, in the loop of
`evse_cm_mnbc_sound` with the sums of the groups, or with frames left to
send. -/
inductive CallLocal
  | entered
  | reading
  | sounding (aag : FixedBuffer ℕ slacGroups)
  | sending (left : ℕ)

/-- What a call gets from its environment: it goes on to what it does next,
`readmessage` is called, or `readpacket`.  `sendOk` says whether `sendmessage`
succeeds, `seconds` is the time since the call began. -/
inductive CallInput
  | proceed (sendOk : Bool)
  | readmessage (reads : List PacketRead) (seconds : ℤ) (sendOk : Bool)
  | readpacket (read : PacketRead)

/-- How a call goes on: it returns zero or not, ends the process, or leaves an
array. -/
inductive CallProgress
  | goesOn (state : CallLocal)
  | returns (zero : Bool)
  | exits
  | overruns

structure CallStep where
  session : SlacSession
  sent : List SlacFrame
  progress : CallProgress

/-- `sendmessage`; a frame that cannot be sent ends the process. -/
def SlacSession.send (session : SlacSession) (sendOk : Bool)
    (frame : SlacFrame) (progress : CallProgress) : CallStep :=
  if sendOk then ⟨session, [frame], progress⟩ else ⟨session, [], .exits⟩

/-- A call that changes nothing. -/
def SlacSession.quiet (session : SlacSession) (progress : CallProgress) :
    CallStep :=
  ⟨session, [], progress⟩

/-! ## The exchanges of the EVSE -/

/-- The answer of `evse_cm_slac_param`. -/
def evseSlacParamConfirm (host : EtherAddr) (session : SlacSession) :
    SlacFrame where
  peer := session.pevMac
  host := host
  fields := .slacParamConfirm
    { msoundTarget := broadcast
      numSounds := session.numSounds
      timeOut := session.timeOut
      respType := session.respType
      forwardingSta := session.pevMac
      applicationType := session.applicationType
      securityType := session.securityType
      runId := session.runId
      cipherSuite := session.counter }

/-- `evse_cm_slac_param`, with the result of its `readmessage`. -/
def evseCmSlacParam (host : EtherAddr) (session : SlacSession)
    (message : Option (List UInt8)) (sendOk : Bool) : CallStep :=
  match message with
  | none => session.quiet (.returns false)
  | some memory =>
      let request := ofList (R := Mme CmSlacParamRequest) memory
      let session :=
        { session with
          applicationType := request.fields.applicationType
          securityType := request.fields.securityType
          pevMac := request.ethernet.osa
          runId := request.fields.runId }
      session.send sendOk (evseSlacParamConfirm host session) (.returns true)

/-- `evse_cm_start_atten_char`. -/
def evseCmStartAttenChar (session : SlacSession)
    (message : Option (List UInt8)) : CallStep :=
  match message with
  | none => session.quiet (.returns false)
  | some memory =>
      let indicate :=
        (ofList (R := Mme CmStartAttenCharIndicate) memory).fields
      if session.runId.accepts indicate.runId then
        { session with
          numSounds := indicate.numSounds
          timeOut := indicate.timeOut
          forwardingSta := indicate.forwardingSta }.quiet (.returns true)
      else session.quiet (.returns false)

/-- The `for` loop of `evse_cm_mnbc_sound` over the groups of a profile, from
`group` on; `none` when it leaves the array `AAG`. -/
def addProfile (indicated : List UInt8) :
    ℕ → ℕ → FixedBuffer ℕ slacGroups → Option (FixedBuffer ℕ slacGroups)
  | 0, _, aag => some aag
  | left + 1, group, aag =>
      (aag.store group
        [aag.contents.getD group 0 + (indicated.getD group 0).toNat]).bind
          (addProfile indicated left (group + 1))

/-- A frame in the loop of `evse_cm_mnbc_sound`; `none` when the sums leave
their array. -/
def soundingFrame (session : SlacSession) (aag : FixedBuffer ℕ slacGroups)
    (memory : List UInt8) : Option (SlacSession × FixedBuffer ℕ slacGroups) :=
  let (ethernet, homeplug) :=
    ofList (R := EthernetHdr × HomeplugFmi) memory
  if memory.length = 0 then some (session, aag)
  else if ethernet.mtype ≠ homeplugMtype then some (session, aag)
  else if homeplug.mmv ≠ homeplugMmv then some (session, aag)
  -- `CM_MNBC_SOUND.IND` is counted in a variable that nothing reads
  else if homeplug.mmtype = cmMnbcSound ||| mmtypeInd then some (session, aag)
  else if homeplug.mmtype = cmAttenProfile ||| mmtypeInd then
    let indicate :=
      (ofList (R := Mme CmAttenProfileIndicate) memory).fields
    if memcmp session.pevMac.bytes indicate.pevMac.bytes = 0 then
      (addProfile indicate.aag.toList indicate.numGroups.toNat 0 aag).map
        fun aag =>
          ({ session with
            numGroups := indicate.numGroups
            sounds := session.sounds + 1 }, aag)
    else some (session, aag)
  else some (session, aag)

/-- The groups of a session after the sounds: the means of the sums. -/
def meanGroups (aag : FixedBuffer ℕ slacGroups) (sounds : ℕ) :
    FixedBuffer UInt8 slacGroups where
  contents := aag.contents.map fun total => UInt8.ofNat (total / sounds)
  length_contents := by rw [List.length_map, aag.length_contents]

/-- The end of `evse_cm_mnbc_sound`. -/
def soundingEnd (session : SlacSession) (aag : FixedBuffer ℕ slacGroups) :
    SlacSession :=
  if 0 < session.sounds then
    { session with
      aag := meanGroups aag session.sounds
      numGroups := UInt8.ofNat slacGroups }
  else session

/-- One `readpacket` in `evse_cm_mnbc_sound`. -/
def evseCmMnbcSound (session : SlacSession) (aag : FixedBuffer ℕ slacGroups)
    (read : PacketRead) : CallStep :=
  match read with
  | .error => session.quiet (.returns false)
  | .packet frame elapsed =>
      match soundingFrame session aag (readpacket frame) with
      | none => session.quiet .overruns
      | some (session, aag) =>
          if elapsed < 100 * (session.timeOut.toNat : ℤ) ∧
              session.sounds < session.numSounds.toNat then
            session.quiet (.goesOn (.sounding aag))
          else (soundingEnd session aag).quiet (.returns true)

/-- `evse_cm_mnbc_sound` before its loop. -/
def evseSoundingStart (session : SlacSession) : CallStep :=
  { session with sounds := 0, aag := zeroBuffer }.quiet
    (.goesOn (.sounding zeroBuffer))

/-- The indication of `evse_cm_atten_char`. -/
def evseAttenCharIndicate (host : EtherAddr) (session : SlacSession) :
    SlacFrame where
  peer := session.pevMac
  host := host
  fields := .attenCharIndicate
    { applicationType := session.applicationType
      securityType := session.securityType
      sourceAddress := session.pevMac
      runId := session.runId
      sourceId := fieldVector 17 []
      respId := fieldVector 17 []
      numSounds := UInt8.ofNat session.sounds
      numGroups := session.numGroups
      aag := fieldVector 255
        (session.aag.contents.take session.numGroups.toNat) }

/-- `evse_cm_atten_char` up to its read. -/
def evseAttenCharStart (host : EtherAddr) (session : SlacSession)
    (sendOk : Bool) : CallStep :=
  if slacGroups < session.numGroups.toNat then session.quiet .overruns
  else
    session.send sendOk (evseAttenCharIndicate host session) (.goesOn .reading)

/-- `evse_cm_atten_char` from its read on. -/
def evseCmAttenChar (session : SlacSession) (message : Option (List UInt8)) :
    CallStep :=
  match message with
  | none => session.quiet (.returns false)
  | some memory =>
      let response :=
        (ofList (R := Mme CmAttenCharResponse) memory).fields
      session.quiet (.returns (session.runId.accepts response.runId))

/-- The answer of `evse_cm_slac_match`. -/
def evseSlacMatchConfirm (host : EtherAddr) (session : SlacSession) :
    SlacFrame where
  peer := session.pevMac
  host := host
  fields := .slacMatchConfirm
    { applicationType := session.applicationType
      securityType := session.securityType
      mvfLength := 86
      pevId := session.pevId
      pevMac := session.pevMac
      evseId := session.evseId
      evseMac := session.evseMac
      runId := session.runId
      rsvd1 := fieldVector 8 []
      nid := session.nid
      rsvd2 := 0
      nmk := session.nmk }

/-- One turn of the loop of `evse_cm_slac_match`. -/
def evseCmSlacMatch (host : EtherAddr) (session : SlacSession)
    (message : Option (List UInt8)) (seconds : ℤ) (sendOk : Bool) : CallStep :=
  match message with
  | none => session.quiet (.returns false)
  | some memory =>
      let request :=
        (ofList (R := Mme CmSlacMatchRequest) memory).fields
      if session.runId.accepts request.runId then
        let session :=
          { session with
            pevId := request.pevId
            pevMac := request.pevMac
            runId := request.runId }
        session.send sendOk (evseSlacMatchConfirm host session) (.returns true)
      else if 10 ≤ seconds then session.quiet (.returns false)
      else session.quiet (.goesOn .entered)

/-- A step of a call of the EVSE; `none` when it waits for something else. -/
def evseCallStep (host : EtherAddr) (session : SlacSession) :
    SlacCall → CallLocal → CallInput → Option CallStep
  | .cmSlacParam, .entered, .readmessage reads _ sendOk =>
      (readmessage (cmSlacParam ||| mmtypeReq) reads).map fun message =>
        evseCmSlacParam host session message sendOk
  | .exchange .cmStartAttenChar, .entered, .readmessage reads _ _ =>
      (readmessage (cmStartAttenChar ||| mmtypeInd) reads).map
        (evseCmStartAttenChar session)
  | .exchange .cmMnbcSound, .entered, .proceed _ =>
      some (evseSoundingStart session)
  | .exchange .cmMnbcSound, .sounding aag, .readpacket read =>
      some (evseCmMnbcSound session aag read)
  | .exchange .cmAttenChar, .entered, .proceed sendOk =>
      some (evseAttenCharStart host session sendOk)
  | .exchange .cmAttenChar, .reading, .readmessage reads _ _ =>
      (readmessage (cmAttenChar ||| mmtypeRsp) reads).map
        (evseCmAttenChar session)
  | .exchange .cmSlacMatch, .entered, .readmessage reads seconds sendOk =>
      (readmessage (cmSlacMatch ||| mmtypeReq) reads).map fun message =>
        evseCmSlacMatch host session message seconds sendOk
  | _, _, _ => none

/-! ## The exchanges of the PEV -/

/-- The request of `pev_cm_slac_param`. -/
def pevSlacParamRequest (host : EtherAddr) (session : SlacSession) :
    SlacFrame where
  peer := broadcast
  host := host
  fields := .slacParamRequest
    { applicationType := session.applicationType
      securityType := session.securityType
      runId := session.runId
      cipherSuiteSetSize := 0
      cipherSuite := session.counter }

/-- One turn of the loop of `pev_cm_slac_param`. -/
def pevCmSlacParam (session : SlacSession) (message : Option (List UInt8)) :
    CallStep :=
  match message with
  | none => session.quiet (.returns false)
  | some memory =>
      let confirm := (ofList (R := Mme CmSlacParamConfirm) memory).fields
      if session.runId.accepts confirm.runId then
        { session with
          forwardingSta := confirm.forwardingSta
          msoundTarget := confirm.msoundTarget
          numSounds := confirm.numSounds
          timeOut := confirm.timeOut
          respType := confirm.respType }.quiet (.returns true)
      else session.quiet (.goesOn .reading)

/-- The indication that `pev_cm_start_atten_char` sends three times. -/
def pevStartAttenCharIndicate (host : EtherAddr) (session : SlacSession) :
    SlacFrame where
  peer := session.msoundTarget
  host := host
  fields := .startAttenCharIndicate
    { applicationType := session.applicationType
      securityType := session.securityType
      numSounds := session.numSounds
      timeOut := session.timeOut
      respType := session.respType
      forwardingSta := session.forwardingSta
      runId := session.runId }

/-- The indication of `pev_cm_mnbc_sound`, with the sounds that are left. -/
def pevMnbcSoundIndicate (host : EtherAddr) (session : SlacSession)
    (sound : ℕ) : SlacFrame where
  peer := session.msoundTarget
  host := host
  fields := .mnbcSoundIndicate
    { applicationType := session.applicationType
      securityType := session.securityType
      senderId := session.pevId
      cnt := UInt8.ofNat sound
      runId := session.runId
      rnd := fieldVector 17 [] }

/-- The loop of a call that sends frames only. -/
def sendingStep (session : SlacSession) (sendOk : Bool)
    (frame : ℕ → SlacFrame) : ℕ → CallStep
  | 0 => session.quiet (.returns true)
  | left + 1 => session.send sendOk (frame left) (.goesOn (.sending left))

/-- The answer of `pev_cm_atten_char`. -/
def pevAttenCharResponse (host : EtherAddr) (session : SlacSession) :
    SlacFrame where
  peer := session.evseMac
  host := host
  fields := .attenCharResponse
    { applicationType := session.applicationType
      securityType := session.securityType
      sourceAddress := session.pevMac
      runId := session.runId
      sourceId := fieldVector 17 []
      respId := fieldVector 17 []
      result := 0 }

/-- One turn of the loop of `pev_cm_atten_char`. -/
def pevCmAttenChar (host : EtherAddr) (session : SlacSession)
    (message : Option (List UInt8)) (sendOk : Bool) : CallStep :=
  match message with
  | none => session.quiet (.returns false)
  | some memory =>
      let indicate := ofList (R := Mme CmAttenCharIndicate) memory
      if session.runId.accepts indicate.fields.runId then
        let session :=
          { session with
            evseMac := indicate.ethernet.osa
            numSounds := indicate.fields.numSounds
            numGroups := indicate.fields.numGroups }
        -- `memcpy` into `session->AAG`
        match session.aag.store 0 (indicate.fields.aag.toList.take
          indicate.fields.numGroups.toNat) with
        | none => session.quiet .overruns
        | some aag =>
            let session := { session with aag := aag }
            session.send sendOk (pevAttenCharResponse host session)
              (.returns true)
      else session.quiet (.goesOn .entered)

/-- Whether `slac_connect` returns zero. -/
def slacConnect (session : SlacSession) : Bool :=
  if slacGroups < session.numGroups.toNat then false
  else if 0 < session.numGroups.toNat then
    let total :=
      ((session.aag.contents.take session.numGroups.toNat).map
        UInt8.toNat).sum / session.numGroups.toNat
    if session.limit < total then false else decide (0 < total)
  else false

/-- The request of `pev_cm_slac_match`. -/
def pevSlacMatchRequest (host : EtherAddr) (session : SlacSession) :
    SlacFrame where
  peer := session.evseMac
  host := host
  fields := .slacMatchRequest
    { applicationType := session.applicationType
      securityType := session.securityType
      mvfLength := 62
      pevId := session.pevId
      pevMac := session.pevMac
      evseId := fieldVector 17 []
      evseMac := session.evseMac
      runId := session.runId
      rsvd := fieldVector 8 [] }

/-- `pev_cm_slac_match` from its read on. -/
def pevCmSlacMatch (session : SlacSession) (message : Option (List UInt8)) :
    CallStep :=
  match message with
  | none => session.quiet (.returns false)
  | some memory =>
      let confirm := (ofList (R := Mme CmSlacMatchConfirm) memory).fields
      if session.runId.accepts confirm.runId then
        { session with
          evseId := confirm.evseId
          evseMac := confirm.evseMac
          nmk := confirm.nmk
          nid := confirm.nid }.quiet (.returns true)
      else session.quiet (.returns false)

/-- The request of `evse_cm_set_key` and `pev_cm_set_key`, which goes to the
modem of the device. -/
def setKeyRequest (host : EtherAddr) (session : SlacSession) : SlacFrame where
  peer := localcast
  host := host
  fields := .setKeyRequest
    { keytype := 0x01
      mynounce := fieldVector 4 [0xAA, 0xAA, 0xAA, 0xAA]
      yournounce := fieldVector 4 []
      pid := 0x02
      prn := 0x00
      pmn := 0x00
      ccocap := 0x00
      nid := session.nid
      neweks := 0x01
      newkey := session.nmk
      rsvd := fieldVector 3 [] }

/-- One `readpacket` in the loop of `evse_cm_set_key` and `pev_cm_set_key`. -/
def cmSetKeyRead (session : SlacSession) (read : PacketRead) : CallStep :=
  match read with
  | .error => session.quiet (.returns false)
  | .packet frame _ =>
      let confirm := ofList (R := Mme CmSetKeyConfirm) (readpacket frame)
      if (readpacket frame).length = 0 then session.quiet (.returns false)
      else if confirm.ethernet.mtype ≠ homeplugMtype then
        session.quiet (.goesOn .reading)
      else if confirm.homeplug.mmv ≠ homeplugMmv then
        session.quiet (.goesOn .reading)
      else if confirm.homeplug.mmtype ≠ cmSetKey ||| mmtypeCnf then
        session.quiet (.goesOn .reading)
      else session.quiet (.returns (decide (confirm.fields.result ≠ 0)))

/-- A step of a call of the PEV; `none` when it waits for something else. -/
def pevCallStep (host : EtherAddr) (session : SlacSession) :
    SlacCall → CallLocal → CallInput → Option CallStep
  | .cmSlacParam, .entered, .proceed sendOk =>
      some (session.send sendOk (pevSlacParamRequest host session)
        (.goesOn .reading))
  | .cmSlacParam, .reading, .readmessage reads _ _ =>
      (readmessage (cmSlacParam ||| mmtypeCnf) reads).map
        (pevCmSlacParam session)
  | .exchange .cmStartAttenChar, .entered, .proceed _ =>
      some (session.quiet (.goesOn (.sending 3)))
  | .exchange .cmStartAttenChar, .sending left, .proceed sendOk =>
      some (sendingStep session sendOk
        (fun _ => pevStartAttenCharIndicate host session) left)
  | .exchange .cmMnbcSound, .entered, .proceed _ =>
      some (session.quiet (.goesOn (.sending session.numSounds.toNat)))
  | .exchange .cmMnbcSound, .sending left, .proceed sendOk =>
      some (sendingStep session sendOk (pevMnbcSoundIndicate host session)
        left)
  | .exchange .cmAttenChar, .entered, .readmessage reads _ sendOk =>
      (readmessage (cmAttenChar ||| mmtypeInd) reads).map fun message =>
        pevCmAttenChar host session message sendOk
  | .exchange .slacConnect, .entered, .proceed _ =>
      some (session.quiet (.returns (slacConnect session)))
  | .exchange .cmSlacMatch, .entered, .proceed sendOk =>
      some (session.send sendOk (pevSlacMatchRequest host session)
        (.goesOn .reading))
  | .exchange .cmSlacMatch, .reading, .readmessage reads _ _ =>
      (readmessage (cmSlacMatch ||| mmtypeCnf) reads).map
        (pevCmSlacMatch session)
  | .cmSetKey, .entered, .proceed sendOk =>
      some (session.send sendOk (setKeyRequest host session)
        (.goesOn .reading))
  | .cmSetKey, .reading, .readpacket read =>
      some (cmSetKeyRead session read)
  | _, _, _ => none

end OpenRTH
