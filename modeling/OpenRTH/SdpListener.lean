import OpenRTH.SdpExchange
import OpenRTH.TransitionRuns

/-!
# The socket that waits for the SDP response

The system calls of `perform_SDP` on the EV: the request goes out through a
socket that is then closed, and the response is received through a second socket
which is bound to the same port.  Datagrams arrive between any two calls; the
main result says which of them the second socket still holds.
-/

namespace OpenRTH

/-! ## Sockets and system calls -/

/-- A datagram, numbered in the order of arrival. -/
structure Datagram where
  number : ℕ
  bytes : List UInt8
  deriving DecidableEq

/-- A UDP socket in the kernel: its port, once it is bound, and what waits to be
received. -/
structure UdpSocket where
  port : Option ℕ
  queue : List Datagram
  deriving DecidableEq

/-- A datagram is queued when the socket is bound to its port. -/
def UdpSocket.deliver (port : ℕ) (datagram : Datagram) (socket : UdpSocket) :
    UdpSocket :=
  if socket.port = some port then
    { socket with queue := socket.queue ++ [datagram] }
  else socket

/-- The next system call of `perform_SDP`. -/
inductive ListenerPc
  | closeOld
  | openSender
  | senderTimeout
  | send
  | getPort
  | closeSender
  | openServer
  | bind
  | serverTimeout
  | receive
  | exited
  | received (datagram : Option Datagram)
  deriving DecidableEq

/-- `perform_SDP` has ended, or has the result of `receive`. -/
def ListenerPc.ended : ListenerPc → Bool
  | .exited | .received _ => true
  | _ => false

/-- A datagram to the port of the request: its number, where `perform_SDP` was
when it arrived, and the port that `evcc_udp` was bound to. -/
structure ResponseArrival where
  number : ℕ
  port : ℕ
  pc : ListenerPc
  boundTo : Option ℕ
  deriving DecidableEq

/-- `create_server` has bound its socket to the port of the request. -/
def ResponseArrival.Listened (response : ResponseArrival) : Prop :=
  (response.pc = .serverTimeout ∨ response.pc = .receive) ∧
    response.boundTo = some response.port

instance (response : ResponseArrival) : Decidable response.Listened :=
  inferInstanceAs (Decidable (_ ∧ _))

/-- `perform_SDP` on the EV, with the socket of `evcc_udp`, the port that the
request was sent from, `e_port`, the number of datagrams so far and those sent
to the port of the request. -/
structure ListenerState where
  pc : ListenerPc
  socket : Option UdpSocket
  requestPort : Option ℕ
  ePort : ℕ
  senderCreated : Bool
  serverCreated : Bool
  datagrams : ℕ
  responses : List ResponseArrival

/-- The system calls with their results, and the arrival of a datagram.
`openSocket` stands for the address lookup and `socket`; the port in `send` is
the one the kernel binds the socket to, and the one in `bind` is chosen by the
kernel only when `e_port` is 0. -/
inductive ListenerAction
  | close
  | openSocket (success : Bool)
  | setTimeout (success : Bool)
  | send (port : Option ℕ)
  | getPort (success : Bool)
  | bind (port : Option ℕ)
  | receive
  | expire
  | arrive (port : ℕ) (bytes : List UInt8)

def ListenerState.exit (state : ListenerState) : ListenerState :=
  { state with pc := .exited }

/-- The record of an arrival. -/
def ListenerState.arrival (port : ℕ) (state : ListenerState) :
    ResponseArrival :=
  ⟨state.datagrams, port, state.pc, state.socket.bind (·.port)⟩

/-- A datagram arrives. -/
def ListenerState.arrive (port : ℕ) (bytes : List UInt8)
    (state : ListenerState) : ListenerState :=
  { state with
    socket := state.socket.map
      (UdpSocket.deliver port ⟨state.datagrams, bytes⟩)
    datagrams := state.datagrams + 1
    responses :=
      if state.requestPort = some port then
        state.responses ++ [state.arrival port]
      else state.responses }

/-- `perform_SDP` on the EV up to the return of `evcc_udp.receive`. -/
def listenerStep (state : ListenerState) :
    ListenerAction → Option ListenerState
  | .close =>
      match state.pc with
      | .closeOld => some { state with pc := .openSender, socket := none }
      | .closeSender => some { state with pc := .openServer, socket := none }
      | _ => none
  | .openSocket success =>
      match state.pc with
      | .openSender =>
          some (if success then
            { state with pc := .senderTimeout, socket := some ⟨none, []⟩ }
          else state.exit)
      | .openServer =>
          some (if success then
            { state with pc := .bind, socket := some ⟨none, []⟩ }
          else state.exit)
      | _ => none
  | .setTimeout success =>
      match state.pc with
      | .senderTimeout =>
          some (if success then
            { state with pc := .send, senderCreated := true }
          else { state.exit with socket := none })
      | .serverTimeout =>
          some (if success then
            { state with pc := .receive, serverCreated := true }
          else { state.exit with socket := none })
      | _ => none
  | .send port =>
      match state.pc with
      | .send =>
          if port = some 0 then none
          else
            some { state with
              pc := .getPort
              socket := state.socket.map ({ · with port := port })
              requestPort := port }
      | _ => none
  | .getPort success =>
      match state.pc with
      | .getPort =>
          some { state with
            pc := .closeSender
            ePort := if success then
                (state.socket.bind (·.port)).getD 0 else 0 }
      | _ => none
  | .bind port =>
      match state.pc, port with
      | .bind, none => some state.exit
      | .bind, some port =>
          if 0 < port ∧ (state.ePort = 0 ∨ port = state.ePort) then
            some { state with
              pc := .serverTimeout
              socket := state.socket.map ({ · with port := some port }) }
          else none
      | _, _ => none
  | .receive =>
      match state.pc, state.socket with
      | .receive, some ⟨port, datagram :: queue⟩ =>
          some { state with
            pc := .received (some datagram)
            socket := some ⟨port, queue⟩ }
      | _, _ => none
  | .expire =>
      match state.pc, state.socket with
      | .receive, some ⟨_, []⟩ =>
          some { state with pc := .received none }
      | _, _ => none
  | .arrive port bytes =>
      if state.pc.ended then none else some (state.arrive port bytes)

def sdpListener : TransitionSystem ListenerState ListenerAction where
  initial :=
    { pc := .closeOld
      socket := none
      requestPort := none
      ePort := 0
      senderCreated := false
      serverCreated := false
      datagrams := 0
      responses := [] }
  step := listenerStep

/-- The datagram with this number waits in the socket of `evcc_udp`. -/
def ListenerState.Holds (state : ListenerState) (number : ℕ) : Prop :=
  ∃ socket, state.socket = some socket ∧
    ∃ datagram ∈ socket.queue, datagram.number = number

/-! ## What a step can do -/

/-- The steps of `perform_SDP`, each with its guard. -/
inductive ListenerTransition (state : ListenerState) : ListenerState → Prop
  | closeOld (atPc : state.pc = .closeOld) :
      ListenerTransition state
        { state with pc := .openSender, socket := none }
  | closeSender (atPc : state.pc = .closeSender) :
      ListenerTransition state
        { state with pc := .openServer, socket := none }
  | openSender (atPc : state.pc = .openSender) :
      ListenerTransition state
        { state with pc := .senderTimeout, socket := some ⟨none, []⟩ }
  | openServer (atPc : state.pc = .openServer) :
      ListenerTransition state
        { state with pc := .bind, socket := some ⟨none, []⟩ }
  | senderCreated (atPc : state.pc = .senderTimeout) :
      ListenerTransition state
        { state with pc := .send, senderCreated := true }
  | serverCreated (atPc : state.pc = .serverTimeout) :
      ListenerTransition state
        { state with pc := .receive, serverCreated := true }
  | exit {socket : Option UdpSocket}
      (atPc : state.pc = .openSender ∨ state.pc = .senderTimeout ∨
        state.pc = .openServer ∨ state.pc = .bind ∨
        state.pc = .serverTimeout) :
      ListenerTransition state { state.exit with socket := socket }
  | send (port : Option ℕ) (atPc : state.pc = .send) :
      ListenerTransition state
        { state with
          pc := .getPort
          socket := state.socket.map ({ · with port := port })
          requestPort := port }
  | getPort (ePort : ℕ) (atPc : state.pc = .getPort) :
      ListenerTransition state
        { state with pc := .closeSender, ePort := ePort }
  | bind (port : ℕ) (atPc : state.pc = .bind) :
      ListenerTransition state
        { state with
          pc := .serverTimeout
          socket := state.socket.map ({ · with port := some port }) }
  | received (datagram : Option Datagram) (socket : Option UdpSocket)
      (atPc : state.pc = .receive) :
      ListenerTransition state
        { state with pc := .received datagram, socket := socket }
  | arrive (port : ℕ) (bytes : List UInt8)
      (running : state.pc.ended = false) :
      ListenerTransition state (state.arrive port bytes)

theorem listenerTransition_of_step {state after : ListenerState}
    {action : ListenerAction} (step : listenerStep state action = some after) :
    ListenerTransition state after := by
  cases action with
  | close =>
      simp only [listenerStep] at step
      split at step
      · next atPc => cases step; exact .closeOld atPc
      · next atPc => cases step; exact .closeSender atPc
      · cases step
  | openSocket success =>
      simp only [listenerStep] at step
      split at step
      · next atPc =>
          split_ifs at step
          · cases step; exact .openSender atPc
          · cases step; exact .exit (.inl atPc)
      · next atPc =>
          split_ifs at step
          · cases step; exact .openServer atPc
          · cases step; exact .exit (.inr (.inr (.inl atPc)))
      · cases step
  | setTimeout success =>
      simp only [listenerStep] at step
      split at step
      · next atPc =>
          split_ifs at step
          · cases step; exact .senderCreated atPc
          · cases step; exact .exit (.inr (.inl atPc))
      · next atPc =>
          split_ifs at step
          · cases step; exact .serverCreated atPc
          · cases step; exact .exit (.inr (.inr (.inr (.inr atPc))))
      · cases step
  | send port =>
      simp only [listenerStep] at step
      split at step
      · next atPc =>
          split_ifs at step
          cases step
          exact .send port atPc
      · cases step
  | getPort success =>
      simp only [listenerStep] at step
      split at step
      · next atPc => cases step; exact .getPort _ atPc
      · cases step
  | bind port =>
      simp only [listenerStep] at step
      split at step
      · next atPc => cases step; exact .exit (.inr (.inr (.inr (.inl atPc))))
      · next atPc =>
          split_ifs at step
          cases step
          exact .bind _ atPc
      · cases step
  | receive =>
      simp only [listenerStep] at step
      split at step
      · next atPc _ => cases step; exact .received _ _ atPc
      · cases step
  | expire =>
      simp only [listenerStep] at step
      split at step
      · next atPc _ => cases step; exact .received _ _ atPc
      · cases step
  | arrive port bytes =>
      simp only [listenerStep] at step
      split_ifs at step with ended
      cases step
      exact .arrive port bytes (by simpa using ended)

/-! ## Which datagrams are held -/

/-- `create_server` has not bound its socket yet. -/
def ListenerPc.beforeBind : ListenerPc → Bool
  | .closeOld | .openSender | .senderTimeout | .send | .getPort
  | .closeSender | .openServer | .bind => true
  | _ => false

/-- Numbers are fresh, and the second socket holds exactly the responses that
found it bound. -/
structure HoldsListened (state : ListenerState) : Prop where
  queued : state.pc.ended = false →
    ∀ {number}, state.Holds number → number < state.datagrams
  recorded : ∀ response ∈ state.responses, response.number < state.datagrams
  unbound : state.pc = .bind → state.socket = some ⟨none, []⟩
  before : state.pc.beforeBind → ∀ response ∈ state.responses,
    ¬ response.Listened
  listening : state.pc = .serverTimeout ∨ state.pc = .receive →
    state.socket.isSome ∧ ∀ response ∈ state.responses,
      state.Holds response.number ↔ response.Listened

theorem holds_of_map {state : ListenerState} {number : ℕ}
    {port : Option ℕ} {pc : ListenerPc} {requestPort : Option ℕ}
    (holds : ListenerState.Holds
      { state with
        pc := pc
        socket := state.socket.map ({ · with port := port })
        requestPort := requestPort } number) :
    state.Holds number := by
  obtain ⟨bound, boundEq, datagram, member, numberEq⟩ := holds
  obtain ⟨socket, socketEq, rfl⟩ := Option.map_eq_some_iff.mp boundEq
  exact ⟨socket, socketEq, datagram, member, numberEq⟩

/-- What waits after an arrival: what waited before and, if the socket is bound
to its port, the datagram. -/
theorem holds_arrive_iff (state : ListenerState) (port : ℕ)
    (bytes : List UInt8) (number : ℕ) :
    (state.arrive port bytes).Holds number ↔
      state.Holds number ∨
        state.socket.bind (·.port) = some port ∧
          number = state.datagrams := by
  unfold ListenerState.Holds ListenerState.arrive
  cases state.socket with
  | none => simp
  | some socket =>
      by_cases bound : socket.port = some port
      · simp [UdpSocket.deliver, bound, or_and_right, exists_or, eq_comm]
      · simp [UdpSocket.deliver, bound]

theorem mem_responses_arrive {state : ListenerState} {port : ℕ}
    {bytes : List UInt8} {response : ResponseArrival}
    (member : response ∈ (state.arrive port bytes).responses) :
    response ∈ state.responses ∨ response = state.arrival port := by
  unfold ListenerState.arrive at member
  dsimp only at member
  split_ifs at member with requested
  · simpa using member
  · exact .inl member

theorem holdsListened_arrive {state : ListenerState}
    (holds : HoldsListened state) (port : ℕ) (bytes : List UInt8)
    (running : state.pc.ended = false) :
    HoldsListened (state.arrive port bytes) where
  queued _ {number} waiting := by
    change number < state.datagrams + 1
    rcases (holds_arrive_iff state port bytes number).mp waiting with
      earlier | ⟨-, rfl⟩
    · exact (holds.queued running earlier).trans (Nat.lt_succ_self _)
    · exact Nat.lt_succ_self _
  recorded response member := by
    change response.number < state.datagrams + 1
    rcases mem_responses_arrive member with old | rfl
    · exact (holds.recorded response old).trans (Nat.lt_succ_self _)
    · exact Nat.lt_succ_self _
  unbound atPc := by
    change state.socket.map _ = _
    rw [holds.unbound atPc]
    rfl
  before early response member := by
    rcases mem_responses_arrive member with old | rfl
    · exact holds.before early response old
    · rintro ⟨atPc | atPc, -⟩
      · change state.pc = _ at atPc
        change state.pc.beforeBind = true at early
        simp [atPc, ListenerPc.beforeBind] at early
      · change state.pc = _ at atPc
        change state.pc.beforeBind = true at early
        simp [atPc, ListenerPc.beforeBind] at early
  listening atPc := by
    change state.pc = .serverTimeout ∨ state.pc = .receive at atPc
    obtain ⟨isOpen, listened⟩ := holds.listening atPc
    refine ⟨by simpa [ListenerState.arrive] using isOpen, ?_⟩
    intro response member
    rw [holds_arrive_iff]
    rcases mem_responses_arrive member with old | rfl
    · -- numbers are not used twice
      have earlier := holds.recorded response old
      rw [← listened response old]
      constructor
      · rintro (waiting | ⟨-, same⟩)
        · exact waiting
        · omega
      · exact .inl
    · have unused : ¬ state.Holds state.datagrams := fun waiting =>
        Nat.lt_irrefl _ (holds.queued running waiting)
      simp [ListenerState.arrival, ResponseArrival.Listened, unused, atPc]

theorem ended_eq_false_of_beforeBind {pc : ListenerPc}
    (early : pc.beforeBind = true) : pc.ended = false := by
  cases pc <;> first
    | rfl
    | cases early

/-- A call before the second socket is bound adds nothing to a queue. -/
theorem HoldsListened.early {state after : ListenerState}
    (holds : HoldsListened state) (early : state.pc.beforeBind)
    (earlyAfter : after.pc.beforeBind)
    (fewer : ∀ {number}, after.Holds number → state.Holds number)
    (datagrams : after.datagrams = state.datagrams)
    (responses : after.responses = state.responses)
    (unbound : after.pc = .bind → after.socket = some ⟨none, []⟩) :
    HoldsListened after where
  queued _ {number} waiting := by
    rw [datagrams]
    exact holds.queued (ended_eq_false_of_beforeBind early) (fewer waiting)
  recorded := by
    rw [datagrams, responses]
    exact holds.recorded
  unbound := unbound
  before _ := by
    rw [responses]
    exact holds.before early
  listening := by
    rintro (atPc | atPc)
    · simp [atPc, ListenerPc.beforeBind] at earlyAfter
    · simp [atPc, ListenerPc.beforeBind] at earlyAfter

theorem HoldsListened.end {state : ListenerState}
    (holds : HoldsListened state) {pc : ListenerPc} (ended : pc.ended = true)
    (socket : Option UdpSocket) :
    HoldsListened { state with pc := pc, socket := socket } where
  queued running := by simp [ended] at running
  recorded := holds.recorded
  unbound := by
    rintro rfl
    simp [ListenerPc.ended] at ended
  before early := by
    have running := ended_eq_false_of_beforeBind early
    simp [ended] at running
  listening := by
    rintro (rfl | rfl)
    · simp [ListenerPc.ended] at ended
    · simp [ListenerPc.ended] at ended

/-- The second socket is bound with an empty queue, and all earlier responses
are lost. -/
theorem HoldsListened.bind {state : ListenerState}
    (holds : HoldsListened state) (atPc : state.pc = .bind) (port : ℕ) :
    HoldsListened { state with
      pc := .serverTimeout
      socket := state.socket.map ({ · with port := some port }) } := by
  have early : state.pc.beforeBind := by
    rw [atPc]
    rfl
  have bound := holds.unbound atPc
  exact
    { queued := by simp [ListenerState.Holds, bound]
      recorded := holds.recorded
      unbound := by simp
      before := by simp [ListenerPc.beforeBind]
      listening := fun _ => by
        refine ⟨by simp [bound], fun response member => ?_⟩
        have lost := holds.before early response member
        simp [ListenerState.Holds, bound, lost] }

theorem holdsListened_of_transition {state after : ListenerState}
    (holds : HoldsListened state) (moved : ListenerTransition state after) :
    HoldsListened after := by
  cases moved with
  | closeOld atPc =>
      exact holds.early (by rw [atPc]; rfl) rfl
        (by simp [ListenerState.Holds]) rfl rfl (by simp)
  | closeSender atPc =>
      exact holds.early (by rw [atPc]; rfl) rfl
        (by simp [ListenerState.Holds]) rfl rfl (by simp)
  | openSender atPc =>
      exact holds.early (by rw [atPc]; rfl) rfl
        (by simp [ListenerState.Holds]) rfl rfl (by simp)
  | openServer atPc =>
      exact holds.early (by rw [atPc]; rfl) rfl
        (by simp [ListenerState.Holds]) rfl rfl (fun _ => rfl)
  | senderCreated atPc =>
      exact holds.early (by rw [atPc]; rfl) rfl id rfl rfl (by simp)
  | serverCreated atPc =>
      exact
        { queued := fun _ => holds.queued (by rw [atPc]; rfl)
          recorded := holds.recorded
          unbound := by simp
          before := by simp [ListenerPc.beforeBind]
          listening := fun _ => holds.listening (.inl atPc) }
  | exit atPc => exact holds.end rfl _
  | send port atPc =>
      exact holds.early (by rw [atPc]; rfl) rfl holds_of_map rfl rfl (by simp)
  | getPort ePort atPc =>
      exact holds.early (by rw [atPc]; rfl) rfl id rfl rfl (by simp)
  | bind port atPc => exact holds.bind atPc port
  | received datagram socket atPc => exact holds.end rfl socket
  | arrive port bytes running =>
      exact holdsListened_arrive holds port bytes running

theorem holdsListened_of_step {state after : ListenerState}
    {action : ListenerAction} (holds : HoldsListened state)
    (step : sdpListener.step state action = some after) :
    HoldsListened after :=
  holdsListened_of_transition holds (listenerTransition_of_step step)

theorem sdpListener_holdsListened {state : ListenerState}
    (reachable : sdpListener.Reachable state) : HoldsListened state := by
  refine reachable.invariant ?_
    fun holds _ step => holdsListened_of_step holds step
  exact
    { queued := by simp [sdpListener, ListenerState.Holds]
      recorded := by simp [sdpListener]
      unbound := by simp [sdpListener]
      before := by simp [sdpListener]
      listening := by simp [sdpListener] }

/-- At the call of `receive` no response is lost exactly when all of them have
arrived after `create_server` had bound its socket to the port of the
request. -/
theorem sdpListener_no_response_lost_iff {state : ListenerState}
    (reachable : sdpListener.Reachable state)
    (atReceive : state.pc = .receive) :
    (∀ response ∈ state.responses, state.Holds response.number) ↔
      ∀ response ∈ state.responses, response.Listened := by
  have listened :=
    ((sdpListener_holdsListened reachable).listening (.inr atReceive)).2
  exact forall₂_congr listened

/-- A response that arrives while `receive` waits is held. -/
theorem sdpListener_response_held :
    ∃ state, sdpListener.Reachable state ∧ state.pc = .receive ∧
      state.responses ≠ [] ∧
      ∀ response ∈ state.responses, state.Holds response.number := by
  obtain ⟨state, reachable, found⟩ :=
    TransitionSystem.exists_reaches_of_follow sdpListener (fun _ _ => True)
      [.close, .openSocket true, .setTimeout true, .send (some 40000),
        .getPort true, .close, .openSocket true, .bind (some 40000),
        .setTimeout true, .arrive 40000 [0x01, 0xFE]]
      (fun state => decide (state.pc = .receive ∧ state.responses ≠ [] ∧
        ∀ response ∈ state.responses, response.Listened)) (by decide)
  obtain ⟨atReceive, nonempty, listened⟩ := of_decide_eq_true found
  exact ⟨state, reachable, atReceive, nonempty,
    (sdpListener_no_response_lost_iff reachable atReceive).mpr listened⟩

/-- A fast response arrives while the socket of the request is still open, and
is thrown away with it. -/
theorem sdpListener_response_lost :
    ∃ state, sdpListener.Reachable state ∧ state.pc = .receive ∧
      some state.ePort = state.requestPort ∧
      ¬ ∀ response ∈ state.responses, state.Holds response.number := by
  obtain ⟨state, reachable, found⟩ :=
    TransitionSystem.exists_reaches_of_follow sdpListener (fun _ _ => True)
      [.close, .openSocket true, .setTimeout true, .send (some 40000),
        .arrive 40000 [0x01, 0xFE], .getPort true, .close, .openSocket true,
        .bind (some 40000), .setTimeout true]
      (fun state => decide (state.pc = .receive ∧
        some state.ePort = state.requestPort ∧
        state.responses = [⟨0, 40000, .getPort, some 40000⟩] ∧
        state.socket = some ⟨some 40000, []⟩)) (by decide)
  obtain ⟨atReceive, samePort, responses, emptied⟩ := of_decide_eq_true found
  refine ⟨state, reachable, atReceive, samePort, fun held => ?_⟩
  rw [responses] at held
  obtain ⟨socket, socketEq, datagram, member, -⟩ :=
    held _ (List.mem_singleton_self _)
  rw [emptied] at socketEq
  obtain rfl := Option.some.inj socketEq
  exact List.not_mem_nil member

/-! ## The calls as a run of `perform_SDP` -/

/-- `create_sender` has returned, and the call has not ended early. -/
def ListenerPc.afterSender : ListenerPc → Bool
  | .closeOld | .openSender | .senderTimeout | .exited => false
  | _ => true

/-- `create_server` has returned. -/
def ListenerPc.afterServer : ListenerPc → Bool
  | .receive | .received _ => true
  | _ => false

/-- The results of `create_sender` and `create_server` so far. -/
structure TracksCreation (state : ListenerState) : Prop where
  sender : state.pc.afterSender → state.senderCreated
  server : state.serverCreated = state.pc.afterServer

theorem tracksCreation_of_step {state after : ListenerState}
    {action : ListenerAction} (holds : TracksCreation state)
    (step : sdpListener.step state action = some after) :
    TracksCreation after := by
  obtain ⟨sender, server⟩ := holds
  cases listenerTransition_of_step step with
  | closeOld atPc | openSender atPc =>
      rw [atPc] at server
      exact ⟨by simp [ListenerPc.afterSender], server⟩
  | closeSender atPc | openServer atPc | getPort _ atPc | send _ atPc
  | bind _ atPc | received _ _ atPc =>
      rw [atPc] at server sender
      exact ⟨fun _ => sender rfl, server⟩
  | senderCreated atPc =>
      rw [atPc] at server
      exact ⟨fun _ => rfl, server⟩
  | serverCreated atPc =>
      rw [atPc] at sender
      exact ⟨fun _ => sender rfl, rfl⟩
  | exit atPc =>
      refine ⟨by simp [ListenerPc.afterSender, ListenerState.exit], ?_⟩
      rcases atPc with atPc | atPc | atPc | atPc | atPc <;>
        · rw [atPc] at server
          exact server
  | arrive port bytes running => exact ⟨sender, server⟩

/-- What the calls of a run tell the rest of `perform_SDP`. -/
def ListenerState.environment (base : SdpEnvironment)
    (state : ListenerState) : SdpEnvironment :=
  { base with
    senderCreated := state.senderCreated
    serverCreated := state.serverCreated
    received := match state.pc with
      | .received (some datagram) => .datagram datagram.bytes
      | _ => .failed }

theorem performSDP_EV_exits_iff (environment : SdpEnvironment)
    (memory : SdpMemory) :
    (performSDP .EV environment memory).outcome = .exits ↔
      ¬ (environment.senderCreated = true ∧
        environment.serverCreated = true) := by
  simp only [performSDP]
  split_ifs <;> simp_all

/-- The machine of the calls ends the process where `perform_SDP` does. -/
theorem sdpListener_performSDP {state : ListenerState}
    (reachable : sdpListener.Reachable state) (ended : state.pc.ended = true)
    (base : SdpEnvironment) (memory : SdpMemory) :
    (performSDP .EV (state.environment base) memory).outcome = .exits ↔
      state.pc = .exited := by
  have holds : TracksCreation state := by
    refine reachable.invariant ?_
      fun holds _ step => tracksCreation_of_step holds step
    exact ⟨by simp [sdpListener, ListenerPc.afterSender], rfl⟩
  obtain ⟨sender, server⟩ := holds
  rw [performSDP_EV_exits_iff]
  simp only [ListenerState.environment, server]
  cases atPc : state.pc with
  | exited => simp [ListenerPc.afterServer]
  | received datagram =>
      rw [atPc] at sender
      simp [ListenerPc.afterServer, sender rfl]
  | _ => simp [atPc, ListenerPc.ended] at ended

end OpenRTH
