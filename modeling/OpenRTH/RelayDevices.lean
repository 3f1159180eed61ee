import OpenRTH.MqttDelivery
import OpenRTH.NetSock

/-!
# The relay tasks

`CServer::task` and `CClient::task` as machines with one step for each access to
a shared variable, each call on the socket and each publication.  The results of
the socket calls are part of the actions.  Deliveries are numbered, and the
number of the delivery that wrote `rth_datapacket` is kept beside it.
-/

namespace OpenRTH

/-- `sizeof(buffer)` in both tasks. -/
def relayBufferSize : ℕ := 0x10000

/-- A call of `CClient::send`: the delivery the packet came from, the packet and
the number of bytes that the socket took. -/
structure ClientWrite where
  number : ℕ
  packet : List UInt8
  accepted : ℕ
  deriving DecidableEq

/-- Where `CClient::task` is. -/
inductive ClientPc
  | again
  | connecting
  | polling
  | reading
  | sending (number : ℕ) (packet : List UInt8)
  | waiting (write : ClientWrite)
  | publishing (chunk : List UInt8)
  | clearing
  | exited
  | aborted
  | overrun
  deriving DecidableEq

/-- The client task with the globals of its device. -/
structure ClientState where
  pc : ClientPc
  globals : MessageGlobals
  packetNumber : ℕ
  writes : List ClientWrite

/-- The steps of `CClient::task`.  A drop is one of the three `break`
statements, and a reception is the chunk that `bytes_available` and `receive`
return. -/
inductive ClientAction
  | signal
  | restart
  | connect (calls : ConnectCalls)
  | poll
  | read (stale : ℕ → UInt8)
  | send (accepted : ℕ)
  | drop
  | receive (chunk : List UInt8)
  | publish
  | clear

/-- `CClient::task`: the state after a step and the messages published on
`mqtt.ev_message`. -/
def clientStep (state : ClientState) :
    ClientAction → Option (ClientState × List CString)
  | .signal =>
      match state.pc with
      | .again => some ({ state with pc := .exited }, [])
      | _ => none
  | .restart =>
      match state.pc with
      | .again => some ({ state with pc := .connecting }, [])
      | _ => none
  | .connect calls =>
      match state.pc with
      | .connecting =>
          match calls.connect with
          | .throws => some ({ state with pc := .aborted }, [])
          | .returns false => some (state, [])
          | .returns true => some ({ state with pc := .polling }, [])
      | _ => none
  | .poll =>
      match state.pc with
      | .polling =>
          if state.globals.rthDataReceived then
            some ({ state with pc := .reading }, [])
          else some (state, [])
      | _ => none
  | .read stale =>
      match state.pc with
      | .reading =>
          some ({ state with
            pc := .sending state.packetNumber
              (convertHexToBinary state.globals.rthDatapacket stale) }, [])
      | _ => none
  | .send accepted =>
      match state.pc with
      | .sending number packet =>
          if accepted ≤ packet.length then
            let write := ⟨number, packet, accepted⟩
            some ({ state with
              pc := .waiting write, writes := state.writes ++ [write] }, [])
          else none
      | _ => none
  | .drop =>
      match state.pc with
      | .waiting _ => some ({ state with pc := .again }, [])
      | _ => none
  | .receive chunk =>
      match state.pc with
      | .waiting _ =>
          if chunk = [] then none
          -- the client does not limit `bytes_ready` to its buffer
          else if relayBufferSize < chunk.length then
            some ({ state with pc := .overrun }, [])
          else some ({ state with pc := .publishing chunk }, [])
      | _ => none
  | .publish =>
      match state.pc with
      | .publishing chunk =>
          some ({ state with pc := .clearing }, [convertBinaryToHex chunk])
      | _ => none
  | .clear =>
      match state.pc with
      | .clearing =>
          some ({ state with
            pc := .polling
            globals := { state.globals with rthDataReceived := false } }, [])
      | _ => none

/-- A call of `CServer::send`: the accepted connection it goes to, the packet
and the number of bytes that the socket took. -/
structure ServerWrite where
  connection : ℕ
  packet : List UInt8
  accepted : ℕ
  deriving DecidableEq

/-- Where `CServer::task` is. -/
inductive ServerPc
  | again
  | accepting (isCreated : Bool)
  | waiting (attached : Bool)
  | publishing (chunk : List UInt8)
  | awaiting
  | reading
  | sending (packet : List UInt8)
  | clearing
  | exited
  | aborted
  deriving DecidableEq

/-- The server task with the globals of its device and the number of
connections accepted so far. -/
structure ServerState where
  pc : ServerPc
  globals : MessageGlobals
  connection : ℕ
  writes : List ServerWrite

/-- The steps of `CServer::task`. -/
inductive ServerAction
  | signal
  | create (calls : CreateServerCalls)
  | accept (calls : AcceptCalls)
  | drop
  | receive (chunk : List UInt8)
  | publish
  | poll
  | read (stale : ℕ → UInt8)
  | send (accepted : ℕ)
  | clear

/-- `CServer::task`: the state after a step and the messages published on
`mqtt.evse_message`. -/
def serverStep (state : ServerState) :
    ServerAction → Option (ServerState × List CString)
  | .signal =>
      match state.pc with
      | .again => some ({ state with pc := .exited }, [])
      | _ => none
  | .create calls =>
      match state.pc with
      | .again =>
          match calls.createServer with
          | .throws => some ({ state with pc := .aborted }, [])
          -- the task does not look at the result
          | .returns isCreated =>
              some ({ state with pc := .accepting isCreated }, [])
      | _ => none
  | .accept calls =>
      match state.pc with
      | .accepting isCreated =>
          match calls.listenAndAccept isCreated with
          | .throws => some ({ state with pc := .aborted }, [])
          | .returns attached =>
              some ({ state with
                pc := .waiting attached
                connection := state.connection + 1 }, [])
      | _ => none
  | .drop =>
      match state.pc with
      | .waiting _ => some ({ state with pc := .again }, [])
      | _ => none
  | .receive chunk =>
      match state.pc with
      | .waiting true =>
          if chunk = [] ∨ relayBufferSize < chunk.length then none
          else some ({ state with pc := .publishing chunk }, [])
      | _ => none
  | .publish =>
      match state.pc with
      | .publishing chunk =>
          some ({ state with pc := .awaiting }, [convertBinaryToHex chunk])
      | _ => none
  | .poll =>
      match state.pc with
      | .awaiting =>
          if state.globals.rthDataReceived then
            some ({ state with pc := .reading }, [])
          else some (state, [])
      | _ => none
  | .read stale =>
      match state.pc with
      | .reading =>
          some ({ state with
            pc := .sending
              (convertHexToBinary state.globals.rthDatapacket stale) }, [])
      | _ => none
  | .send accepted =>
      match state.pc with
      | .sending packet =>
          if accepted ≤ packet.length then
            some ({ state with
              pc := .clearing
              writes := state.writes ++
                [⟨state.connection, packet, accepted⟩] }, [])
          else none
      | _ => none
  | .clear =>
      match state.pc with
      | .clearing =>
          some ({ state with
            pc := .waiting true
            globals := { state.globals with rthDataReceived := false } }, [])
      | _ => none

/-! ## What a step can do -/

/-- The steps of the client task, each with its guard. -/
inductive ClientTransition (state : ClientState) :
    ClientAction → ClientState → List CString → Prop
  | signal (atPc : state.pc = .again) :
      ClientTransition state .signal { state with pc := .exited } []
  | restart (atPc : state.pc = .again) :
      ClientTransition state .restart { state with pc := .connecting } []
  | connectThrows {calls : ConnectCalls} (atPc : state.pc = .connecting)
      (throws : calls.connect = .throws) :
      ClientTransition state (.connect calls) { state with pc := .aborted } []
  | connectFails {calls : ConnectCalls} (atPc : state.pc = .connecting)
      (returned : calls.connect = .returns false) :
      ClientTransition state (.connect calls) state []
  | connect {calls : ConnectCalls} (atPc : state.pc = .connecting)
      (returned : calls.connect = .returns true) :
      ClientTransition state (.connect calls) { state with pc := .polling } []
  | pollEmpty (atPc : state.pc = .polling)
      (empty : state.globals.rthDataReceived = false) :
      ClientTransition state .poll state []
  | pollFull (atPc : state.pc = .polling)
      (full : state.globals.rthDataReceived = true) :
      ClientTransition state .poll { state with pc := .reading } []
  | read {stale : ℕ → UInt8} (atPc : state.pc = .reading) :
      ClientTransition state (.read stale)
        { state with
          pc := .sending state.packetNumber
            (convertHexToBinary state.globals.rthDatapacket stale) } []
  | send {number accepted : ℕ} {packet : List UInt8}
      (atPc : state.pc = .sending number packet)
      (taken : accepted ≤ packet.length) :
      ClientTransition state (.send accepted)
        { state with
          pc := .waiting ⟨number, packet, accepted⟩
          writes := state.writes ++ [⟨number, packet, accepted⟩] } []
  | drop {write : ClientWrite} (atPc : state.pc = .waiting write) :
      ClientTransition state .drop { state with pc := .again } []
  | overrun {write : ClientWrite} {chunk : List UInt8}
      (atPc : state.pc = .waiting write)
      (long : relayBufferSize < chunk.length) :
      ClientTransition state (.receive chunk)
        { state with pc := .overrun } []
  | receive {write : ClientWrite} {chunk : List UInt8}
      (atPc : state.pc = .waiting write) (nonempty : chunk ≠ [])
      (fits : chunk.length ≤ relayBufferSize) :
      ClientTransition state (.receive chunk)
        { state with pc := .publishing chunk } []
  | publish {chunk : List UInt8} (atPc : state.pc = .publishing chunk) :
      ClientTransition state .publish { state with pc := .clearing }
        [convertBinaryToHex chunk]
  | clear (atPc : state.pc = .clearing) :
      ClientTransition state .clear
        { state with
          pc := .polling
          globals := { state.globals with rthDataReceived := false } } []

theorem clientTransition_of_step {state after : ClientState}
    {action : ClientAction} {published : List CString}
    (step : clientStep state action = some (after, published)) :
    ClientTransition state action after published := by
  cases action with
  | signal =>
      simp only [clientStep] at step
      split at step
      · next atPc => cases step; exact .signal atPc
      · cases step
  | restart =>
      simp only [clientStep] at step
      split at step
      · next atPc => cases step; exact .restart atPc
      · cases step
  | connect calls =>
      simp only [clientStep] at step
      split at step
      · next atPc =>
          split at step
          · next throws => cases step; exact .connectThrows atPc throws
          · next returned => cases step; exact .connectFails atPc returned
          · next returned => cases step; exact .connect atPc returned
      · cases step
  | poll =>
      simp only [clientStep] at step
      split at step
      · next atPc =>
          split_ifs at step with full
          · cases step; exact .pollFull atPc full
          · cases step; exact .pollEmpty atPc (by simpa using full)
      · cases step
  | read stale =>
      simp only [clientStep] at step
      split at step
      · next atPc => cases step; exact .read atPc
      · cases step
  | send accepted =>
      simp only [clientStep] at step
      split at step
      · next atPc =>
          split_ifs at step with taken
          cases step
          exact .send atPc taken
      · cases step
  | drop =>
      simp only [clientStep] at step
      split at step
      · next atPc => cases step; exact .drop atPc
      · cases step
  | receive chunk =>
      simp only [clientStep] at step
      split at step
      · next atPc =>
          split_ifs at step with empty long
          · cases step; exact .overrun atPc long
          · cases step; exact .receive atPc empty (by omega)
      · cases step
  | publish =>
      simp only [clientStep] at step
      split at step
      · next atPc => cases step; exact .publish atPc
      · cases step
  | clear =>
      simp only [clientStep] at step
      split at step
      · next atPc => cases step; exact .clear atPc
      · cases step

/-- The steps of the server task, each with its guard. -/
inductive ServerTransition (state : ServerState) :
    ServerAction → ServerState → List CString → Prop
  | signal (atPc : state.pc = .again) :
      ServerTransition state .signal { state with pc := .exited } []
  | createThrows {calls : CreateServerCalls} (atPc : state.pc = .again)
      (throws : calls.createServer = .throws) :
      ServerTransition state (.create calls) { state with pc := .aborted } []
  | create {calls : CreateServerCalls} {isCreated : Bool}
      (atPc : state.pc = .again)
      (returned : calls.createServer = .returns isCreated) :
      ServerTransition state (.create calls)
        { state with pc := .accepting isCreated } []
  | acceptThrows {calls : AcceptCalls} {isCreated : Bool}
      (atPc : state.pc = .accepting isCreated)
      (throws : calls.listenAndAccept isCreated = .throws) :
      ServerTransition state (.accept calls) { state with pc := .aborted } []
  | accept {calls : AcceptCalls} {isCreated attached : Bool}
      (atPc : state.pc = .accepting isCreated)
      (returned : calls.listenAndAccept isCreated = .returns attached) :
      ServerTransition state (.accept calls)
        { state with
          pc := .waiting attached
          connection := state.connection + 1 } []
  | drop {attached : Bool} (atPc : state.pc = .waiting attached) :
      ServerTransition state .drop { state with pc := .again } []
  | receive {chunk : List UInt8} (atPc : state.pc = .waiting true)
      (nonempty : chunk ≠ []) (fits : chunk.length ≤ relayBufferSize) :
      ServerTransition state (.receive chunk)
        { state with pc := .publishing chunk } []
  | publish {chunk : List UInt8} (atPc : state.pc = .publishing chunk) :
      ServerTransition state .publish { state with pc := .awaiting }
        [convertBinaryToHex chunk]
  | pollEmpty (atPc : state.pc = .awaiting)
      (empty : state.globals.rthDataReceived = false) :
      ServerTransition state .poll state []
  | pollFull (atPc : state.pc = .awaiting)
      (full : state.globals.rthDataReceived = true) :
      ServerTransition state .poll { state with pc := .reading } []
  | read {stale : ℕ → UInt8} (atPc : state.pc = .reading) :
      ServerTransition state (.read stale)
        { state with
          pc := .sending
            (convertHexToBinary state.globals.rthDatapacket stale) } []
  | send {accepted : ℕ} {packet : List UInt8}
      (atPc : state.pc = .sending packet)
      (taken : accepted ≤ packet.length) :
      ServerTransition state (.send accepted)
        { state with
          pc := .clearing
          writes := state.writes ++
            [⟨state.connection, packet, accepted⟩] } []
  | clear (atPc : state.pc = .clearing) :
      ServerTransition state .clear
        { state with
          pc := .waiting true
          globals := { state.globals with rthDataReceived := false } } []

theorem serverTransition_of_step {state after : ServerState}
    {action : ServerAction} {published : List CString}
    (step : serverStep state action = some (after, published)) :
    ServerTransition state action after published := by
  cases action with
  | signal =>
      simp only [serverStep] at step
      split at step
      · next atPc => cases step; exact .signal atPc
      · cases step
  | create calls =>
      simp only [serverStep] at step
      split at step
      · next atPc =>
          split at step
          · next throws => cases step; exact .createThrows atPc throws
          · next returned => cases step; exact .create atPc returned
      · cases step
  | accept calls =>
      simp only [serverStep] at step
      split at step
      · next atPc =>
          split at step
          · next throws => cases step; exact .acceptThrows atPc throws
          · next returned => cases step; exact .accept atPc returned
      · cases step
  | drop =>
      simp only [serverStep] at step
      split at step
      · next atPc => cases step; exact .drop atPc
      · cases step
  | receive chunk =>
      simp only [serverStep] at step
      split at step
      · next atPc =>
          split_ifs at step with refused
          cases step
          rw [not_or, Nat.not_lt] at refused
          exact .receive atPc refused.1 refused.2
      · cases step
  | publish =>
      simp only [serverStep] at step
      split at step
      · next atPc => cases step; exact .publish atPc
      · cases step
  | poll =>
      simp only [serverStep] at step
      split at step
      · next atPc =>
          split_ifs at step with full
          · cases step; exact .pollFull atPc full
          · cases step; exact .pollEmpty atPc (by simpa using full)
      · cases step
  | read stale =>
      simp only [serverStep] at step
      split at step
      · next atPc => cases step; exact .read atPc
      · cases step
  | send accepted =>
      simp only [serverStep] at step
      split at step
      · next atPc =>
          split_ifs at step with taken
          cases step
          exact .send atPc taken
      · cases step
  | clear =>
      simp only [serverStep] at step
      split at step
      · next atPc => cases step; exact .clear atPc
      · cases step

end OpenRTH
