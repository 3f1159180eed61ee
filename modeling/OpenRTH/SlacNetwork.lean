import OpenRTH.SlacExchanges
import Mathlib.Logic.Function.Basic

/-!
# SLAC on one power line

Any number of EVSEs and PEVs run their SLAC state machines on one line.  The
calls of a machine exchange frames with the other stations; a frame that has
been sent may reach the stations it is addressed to at any later time, in any
order, more than once or never, between frames of other kinds, such as those of
the modems.
-/

namespace OpenRTH

open PackedRecord (ofList fieldVector)

/-! ## Stations -/

/-- A device on the line: its state machine, the call it is in, its session, and
how often `PEV_DisconnectedState` has begun. -/
structure SlacStation where
  slac : SlacState
  call : CallLocal
  session : SlacSession
  attempts : ℕ
  overrun : Bool

/-- A step of a station: its call goes on, or the state machine gets the time or
the result of `NetInfo2`. -/
inductive StationInput
  | call (input : CallInput)
  | slac (input : SlacInput)

/-- The call of messages that the machine is in. -/
def SlacPc.slacCall : SlacPc → Option SlacCall
  | .param _ => some .cmSlacParam
  | .exchange call => some (.exchange call)
  | .setKey => some .cmSetKey
  | _ => none

/-- What the two kinds of stations differ in. -/
structure StationCode where
  slacStep : SlacState → SlacInput → Option SlacState
  callStep : SlacSession → SlacCall → CallLocal → CallInput → Option CallStep
  /-- What the state machine does before it starts a timer. -/
  begin : SlacStation → SlacStation

/-- How a station goes on after a step of its call. -/
def StationCode.afterCall (code : StationCode) (station : SlacStation)
    (step : CallStep) : Option SlacStation :=
  let station := { station with session := step.session }
  match step.progress with
  | .goesOn state => some { station with call := state }
  | .returns zero =>
      (code.slacStep station.slac (.returned zero)).map fun slac =>
        { station with slac := slac, call := .entered }
  | .exits =>
      (code.slacStep station.slac .exits).map fun slac =>
        { station with slac := slac, call := .entered }
  | .overruns => some { station with overrun := true }

/-- The station when its state machine takes a step on its own. -/
def StationCode.begun (code : StationCode) (station : SlacStation) :
    SlacStation :=
  if station.slac.pc = .startTimer then code.begin station else station

/-- One step of a station and the frames it sends.  Nothing is said about a
station that has left an array. -/
def StationCode.step (code : StationCode) (station : SlacStation)
    (input : StationInput) : Option (SlacStation × List SlacFrame) :=
  if station.overrun then none
  else
    match station.slac.pc.slacCall, input with
    | some call, .call input =>
        (code.callStep station.session call station.call input).bind
          fun step =>
            (code.afterCall station step).map fun station =>
              (station, step.sent)
    | none, .slac input =>
        (code.slacStep station.slac input).map fun slac =>
          ({ code.begun station with slac := slac }, [])
    | _, _ => none

def evseCode (config : SlacConfig) (host : EtherAddr) : StationCode where
  slacStep := evseSlacStep config
  callStep := evseCallStep host
  begin station := station

def pevCode (config : SlacConfig) (host : EtherAddr) : StationCode where
  slacStep := pevSlacStep config
  callStep := pevCallStep host
  begin station :=
    { station with
      session :=
        { station.session with runId := station.session.runId.memincr }
      attempts := station.attempts + 1 }

/-! ## The line -/

/-- The stations on a line.  No two EVSEs have the same address and no two PEVs,
and none has the broadcast address. -/
structure SlacSites (ι κ : Type) where
  evseHost : ι → EtherAddr
  pevHost : κ → EtherAddr
  evseNmk : ι → List.Vector UInt8 16
  evseNid : ι → List.Vector UInt8 7
  pevLimit : κ → ℕ
  evseConfig : ι → SlacConfig
  pevConfig : κ → SlacConfig
  evseHost_injective : Function.Injective evseHost
  pevHost_injective : Function.Injective pevHost
  evseHost_ne_broadcast : ∀ i, evseHost i ≠ broadcast
  pevHost_ne_broadcast : ∀ k, pevHost k ≠ broadcast

variable {ι κ : Type}

/-- The session of an EVSE after `evse_identifier` and `evse_initialize`. -/
def SlacSites.evseSession (sites : SlacSites ι κ) (i : ι) : SlacSession :=
  { zeroSession with
    evseMac := sites.evseHost i
    nmk := sites.evseNmk i
    nid := sites.evseNid i
    -- `SLAC_MSOUNDS`, `SLAC_TIMETOSOUND` and `SLAC_RESPONSE_TYPE`
    numSounds := 10
    timeOut := 6
    respType := 1 }

/-- `PEV_NMK`. -/
def pevNmk : List UInt8 :=
  [0x50, 0xD3, 0xE4, 0x93, 0x3F, 0x85, 0x5B, 0x70, 0x40, 0x78, 0x4D, 0xF8,
    0x15, 0xAA, 0x8D, 0xB7]

/-- `PEV_NID`. -/
def pevNid : List UInt8 :=
  [0xB0, 0xF2, 0xE6, 0x95, 0x66, 0x6B, 0x03]

/-- The session of a PEV after `pev_identifier` and `pev_initialize`. -/
def SlacSites.pevSession (sites : SlacSites ι κ) (k : κ) : SlacSession :=
  { zeroSession with
    runId := pevIdentifier (sites.pevHost k)
    pevMac := sites.pevHost k
    nmk := fieldVector 16 pevNmk
    nid := fieldVector 7 pevNid
    limit := sites.pevLimit k }

def SlacSites.evseStation (sites : SlacSites ι κ) (i : ι) : SlacStation where
  slac := (slacSystem .evse (sites.evseConfig i) 0).initial
  call := .entered
  session := sites.evseSession i
  attempts := 0
  overrun := false

def SlacSites.pevStation (sites : SlacSites ι κ) (k : κ) : SlacStation where
  slac := (slacSystem .pev (sites.pevConfig k) 0).initial
  call := .entered
  session := sites.pevSession k
  attempts := 0
  overrun := false

/-- The stations and every frame sent so far. -/
structure SlacLine (ι κ : Type) where
  evse : ι → SlacStation
  pev : κ → SlacStation
  sent : List SlacFrame

inductive LineAction (ι κ : Type)
  | evse (i : ι) (input : StationInput)
  | pev (k : κ) (input : StationInput)

/-- A frame that is none of the SLAC messages. -/
def foreignPacket (packet : List UInt8) : Bool :=
  let (_, homeplug) :=
    ofList (R := EthernetHdr × HomeplugFmi) (readpacket packet)
  homeplug.mmtype ∉ SlacFields.readers.map Prod.fst

/-- Whether a frame goes to a station: its interface is not in promiscuous
mode. -/
def SlacFrame.goesTo (frame : SlacFrame) (host : EtherAddr) : Bool :=
  frame.peer = host || frame.peer = broadcast

/-- What `readpacket` can get from the line. -/
def deliverable (sent : List SlacFrame) (host : EtherAddr) :
    PacketRead → Bool
  | .error => true
  | .packet packet _ =>
      packet.isEmpty || foreignPacket packet ||
        sent.any fun frame => frame.goesTo host && frame.bytes == packet

/-- Whether everything that a step reads comes from the line. -/
def StationInput.delivered (sent : List SlacFrame) (host : EtherAddr) :
    StationInput → Bool
  | .call (.readmessage reads _ _) => reads.all (deliverable sent host)
  | .call (.readpacket read) => deliverable sent host read
  | _ => true

/-- One step of one station. -/
def lineStep [DecidableEq ι] [DecidableEq κ] (sites : SlacSites ι κ)
    (line : SlacLine ι κ) : LineAction ι κ → Option (SlacLine ι κ)
  | .evse i input =>
      if input.delivered line.sent (sites.evseHost i) then
        ((evseCode (sites.evseConfig i) (sites.evseHost i)).step
          (line.evse i) input).map fun (station, frames) =>
            { line with
              evse := Function.update line.evse i station
              sent := line.sent ++ frames }
      else none
  | .pev k input =>
      if input.delivered line.sent (sites.pevHost k) then
        ((pevCode (sites.pevConfig k) (sites.pevHost k)).step
          (line.pev k) input).map fun (station, frames) =>
            { line with
              pev := Function.update line.pev k station
              sent := line.sent ++ frames }
      else none

/-- All runs of the stations of a line. -/
def slacLine [DecidableEq ι] [DecidableEq κ] (sites : SlacSites ι κ) :
    TransitionSystem (SlacLine ι κ) (LineAction ι κ) where
  initial :=
    { evse := sites.evseStation
      pev := sites.pevStation
      sent := [] }
  step := lineStep sites

end OpenRTH
