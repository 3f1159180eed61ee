import OpenRTH.TransitionRuns
import Mathlib.Algebra.Order.Ring.Int
import Mathlib.Data.List.Basic

/-!
# The SLAC state machines

`EVSESlac` and `PEVSlac` as machines driven by the results of the SLAC calls and
by the clock.  Both leave their loop by `break` in the matched state and derive
their result from the session state that is left behind, with different
encodings and different final tests.
-/

namespace OpenRTH

/-- `m_device_type`. -/
inductive SlacDevice
  | evse
  | pev
  deriving DecidableEq, Repr

/-- The calls of the unmatched state. -/
inductive SlacExchange
  | cmStartAttenChar
  | cmMnbcSound
  | cmAttenChar
  | slacConnect
  | cmSlacMatch
  deriving DecidableEq, Repr

/-- The calls whose result decides how a machine goes on. -/
inductive SlacCall
  | cmSlacParam
  | exchange (call : SlacExchange)
  | cmSetKey
  | netInfo2
  deriving DecidableEq, Repr

/-- What the environment tells a machine: the value of `time(0)`, whether a call
has returned zero, or that a call has ended the process. -/
inductive SlacInput
  | clock (now : ℤ)
  | returned (zero : Bool)
  | exits

inductive SlacPc
  | startTimer
  | param (initTime : ℤ)
  | paramTimer (initTime : ℤ)
  | exchange (call : SlacExchange)
  | setKey
  | startJoin
  | netInfo (initTime : ℤ)
  | netInfoTimer (initTime : ℤ)
  | pevNetInfo
  | returned (result : ℤ)
  | exited
  deriving DecidableEq

/-- `slac_timeout_sec` and `num_retries`. -/
structure SlacConfig where
  timeoutSec : ℤ
  numRetries : ℤ

/-- `Session.state`, `C_sequ_retry` and the calls made so far, each with whether
it returned zero. -/
structure SlacState where
  pc : SlacPc
  state : ℕ
  sequRetry : UInt8
  calls : List (SlacCall × Bool)

def evseStateUnavailable : ℕ := 0
def evseStateUnoccupied : ℕ := 1
def evseStateUnmatched : ℕ := 2
def evseStateMatched : ℕ := 3

def pevStateDisconnected : ℕ := 1
def pevStateUnmatched : ℕ := 2
def pevStateMatched : ℕ := 3
def pevStateUnavailable : ℕ := 4

def SlacState.log (session : SlacState) (call : SlacCall) (zero : Bool) :
    SlacState :=
  { session with calls := session.calls ++ [(call, zero)] }

/-- After the loop of `EVSESlac`. -/
def evseReturn (session : SlacState) : SlacState :=
  { session with
    pc := .returned (if session.state = evseStateMatched then 0 else 1) }

/-- The head of the loop of `EVSESlac`. -/
def evseLoop (session : SlacState) : SlacState :=
  if session.state = 0 then evseReturn session
  else if session.state = evseStateUnoccupied then
    { session with pc := .startTimer }
  else if session.state = evseStateUnmatched then
    { session with pc := .exchange .cmStartAttenChar }
  else if session.state = evseStateMatched then
    { session with pc := .startJoin }
  -- `debug (1, __func__, "Illegal state!")`
  else { session with pc := .exited }

/-- The timeout of `UnoccupiedState` and `PEV_DisconnectedState`, with the state
for giving up and the state for another attempt. -/
def retryOrGiveUp (config : SlacConfig) (unavailable again : ℕ)
    (session : SlacState) : SlacState :=
  if config.numRetries ≤ session.sequRetry.toNat then
    { session with state := unavailable, sequRetry := 0 }
  else { session with state := again, sequRetry := session.sequRetry + 1 }

/-- The order of the exchanges in `UnmatchedState`. -/
def evseNextExchange : SlacExchange → Option SlacExchange
  | .cmStartAttenChar => some .cmMnbcSound
  | .cmMnbcSound => some .cmAttenChar
  | .cmAttenChar => some .cmSlacMatch
  | _ => none

/-- `EVSESlac`, with `UnoccupiedState`, `UnmatchedState` and `MatchedState`. -/
def evseSlacStep (config : SlacConfig) (session : SlacState)
    (input : SlacInput) : Option SlacState :=
  match session.pc, input with
  | .startTimer, .clock now => some { session with pc := .param now }
  | .param initTime, .returned zero =>
      let session := session.log .cmSlacParam zero
      some <|
        if zero then evseLoop { session with state := evseStateUnmatched }
        else { session with pc := .paramTimer initTime }
  | .paramTimer initTime, .clock now =>
      some <|
        if config.timeoutSec ≤ now - initTime then
          evseLoop (retryOrGiveUp config evseStateUnavailable
            evseStateUnoccupied session)
        else { session with pc := .param initTime }
  | .exchange call, .returned zero =>
      let session := session.log (.exchange call) zero
      some <|
        if zero then
          match evseNextExchange call with
          | some next => { session with pc := .exchange next }
          | none => evseLoop { session with state := evseStateMatched }
        else evseLoop { session with state := evseStateUnoccupied }
  | .startJoin, .clock now => some { session with pc := .netInfo now }
  | .netInfo initTime, .returned zero =>
      let session := session.log .netInfo2 zero
      some <|
        if zero then evseReturn session
        else { session with pc := .netInfoTimer initTime }
  | .netInfoTimer initTime, .clock now =>
      some <|
        if config.timeoutSec ≤ now - initTime then
          evseReturn { session with state := evseStateUnoccupied }
        else { session with pc := .netInfo initTime }
  | .param _, .exits | .exchange _, .exits | .netInfo _, .exits =>
      some { session with pc := .exited }
  | _, _ => none

/-- After the loop of `PEVSlac`. -/
def pevReturn (session : SlacState) : SlacState :=
  { session with
    pc := .returned (if session.state = pevStateUnavailable then 1 else 0) }

/-- The head of the loop of `PEVSlac`. -/
def pevLoop (session : SlacState) : SlacState :=
  if session.state = 0 then pevReturn session
  else if session.state = pevStateDisconnected then
    { session with pc := .startTimer }
  else if session.state = pevStateUnmatched then
    { session with pc := .exchange .cmStartAttenChar }
  else if session.state = pevStateMatched then { session with pc := .setKey }
  else if session.state = pevStateUnavailable then pevReturn session
  else { session with pc := .exited }

/-- The order of the exchanges in `PEV_UnmatchedState`. -/
def pevNextExchange : SlacExchange → Option SlacExchange
  | .cmStartAttenChar => some .cmMnbcSound
  | .cmMnbcSound => some .cmAttenChar
  | .cmAttenChar => some .slacConnect
  | .slacConnect => some .cmSlacMatch
  | _ => none

/-- `PEVSlac`, with `PEV_DisconnectedState`, `PEV_UnmatchedState` and
`PEV_MatchedState`. -/
def pevSlacStep (config : SlacConfig) (session : SlacState)
    (input : SlacInput) : Option SlacState :=
  match session.pc, input with
  | .startTimer, .clock now => some { session with pc := .param now }
  | .param initTime, .returned zero =>
      let session := session.log .cmSlacParam zero
      some <|
        if zero then pevLoop { session with state := pevStateUnmatched }
        else { session with pc := .paramTimer initTime }
  | .paramTimer initTime, .clock now =>
      some <|
        if config.timeoutSec ≤ now - initTime then
          pevLoop (retryOrGiveUp config pevStateUnavailable
            pevStateDisconnected session)
        else { session with pc := .param initTime }
  | .exchange call, .returned zero =>
      let session := session.log (.exchange call) zero
      some <|
        if zero then
          match pevNextExchange call with
          | some next => { session with pc := .exchange next }
          | none => pevLoop { session with state := pevStateMatched }
        else pevLoop { session with state := pevStateDisconnected }
  | .setKey, .returned zero =>
      let session := session.log .cmSetKey zero
      some <|
        if zero then { session with pc := .pevNetInfo }
        -- the state asks for another attempt, but the loop is left
        else pevReturn { session with state := pevStateDisconnected }
  | .pevNetInfo, .returned zero =>
      let session := session.log .netInfo2 zero
      some <|
        if zero then pevReturn { session with state := 0 } else session
  | .param _, .exits | .exchange _, .exits | .setKey, .exits
  | .pevNetInfo, .exits => some { session with pc := .exited }
  | _, _ => none

/-- Where `EVSESlac` and `PEVSlac` start: the setting `'c'` returns at once, and
`'l'` sets the state on the PEV. -/
def slacStart (device : SlacDevice) (setting : Char) (session : SlacState) :
    SlacState :=
  if setting = 'c' then { session with pc := .returned 0 }
  else
    match device with
    | .evse => evseLoop session
    | .pev =>
        if setting = 'l' then
          pevLoop { session with state := pevStateDisconnected }
        else pevLoop session

/-- The session after `CSLACify::init`. -/
def initialSession (device : SlacDevice) (sequRetry : UInt8) : SlacState where
  pc := .exited
  state := match device with
    | .evse => evseStateUnoccupied
    | .pev => pevStateDisconnected
  sequRetry := sequRetry
  calls := []

/-- The `slac_setting` with which `perform_SLAC` initialises a device. -/
def slacSetting : SlacDevice → Char
  | .evse => 'n'
  | .pev => 'l'

/-- A call of `CSLACify::connect` in `perform_SLAC`, over the results of all
calls it makes. -/
def slacSystem (device : SlacDevice) (config : SlacConfig)
    (sequRetry : UInt8) : TransitionSystem SlacState SlacInput where
  initial := slacStart device (slacSetting device)
    (initialSession device sequRetry)
  step := match device with
    | .evse => evseSlacStep config
    | .pev => pevSlacStep config

/-- The result of `CSLACify::connect`, once the machine has returned. -/
def SlacState.connectResult (session : SlacState) : Option ℤ :=
  match session.pc with
  | .returned result => some (if result = 0 then 1 else 0)
  | _ => none

end OpenRTH
