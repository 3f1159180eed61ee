import Mathlib.Data.Bool.Basic

/-!
# Creating and connecting sockets

The calls of `NetSock` that set up a connection.  They report some failures by
their return value and throw `std::runtime_error` for the others.
-/

namespace OpenRTH

/-- How a call of `NetSock` ends. -/
inductive SocketCall
  | returns (success : Bool)
  | throws
  deriving DecidableEq, Repr

/-- The results of the system calls in `NetSock::connect`; `scopeFound` is also
true when the address needs no scope. -/
structure ConnectCalls where
  serverFound : Bool
  socketOpened : Bool
  scopeFound : Bool
  connected : Bool

/-- `NetSock::connect`. -/
def ConnectCalls.connect (calls : ConnectCalls) : SocketCall :=
  if ¬ calls.serverFound then .returns false
  else if ¬ calls.socketOpened then .throws
  else if ¬ calls.scopeFound then .returns false
  else if ¬ calls.connected then .returns false
  else .returns true

/-- The results of the system calls in `NetSock::create_server`. -/
structure CreateServerCalls where
  addressFound : Bool
  socketOpened : Bool
  scopeFound : Bool
  bound : Bool

/-- `NetSock::create_server`.  Its value is also that of `m_is_created`. -/
def CreateServerCalls.createServer (calls : CreateServerCalls) :
    SocketCall :=
  if ¬ calls.addressFound then .throws
  else if ¬ calls.socketOpened then .throws
  else if ¬ calls.scopeFound then .returns false
  else if ¬ calls.bound then .returns false
  else .returns true

theorem CreateServerCalls.createServer_eq_throws_iff
    (calls : CreateServerCalls) :
    calls.createServer = .throws ↔
      (calls.addressFound && calls.socketOpened) = false := by
  obtain ⟨addressFound, socketOpened, scopeFound, bound⟩ := calls
  unfold CreateServerCalls.createServer
  cases addressFound <;> cases socketOpened <;> cases scopeFound <;>
    cases bound <;> decide

/-- The results of the system calls in `NetSock::listen_and_accept`; `ready` is
false when `select` is interrupted. -/
structure AcceptCalls where
  listening : Bool
  ready : Bool
  accepted : Bool

/-- `NetSock::listen_and_accept`. -/
def AcceptCalls.listenAndAccept (calls : AcceptCalls) (isCreated : Bool) :
    SocketCall :=
  if ¬ isCreated then .throws
  else if ¬ calls.listening then .throws
  else if ¬ calls.ready then .returns false
  else if ¬ calls.accepted then .throws
  else .returns true

theorem AcceptCalls.listenAndAccept_eq_throws_iff (calls : AcceptCalls)
    (isCreated : Bool) :
    calls.listenAndAccept isCreated = .throws ↔
      (isCreated && calls.listening && (!calls.ready || calls.accepted)) =
        false := by
  obtain ⟨listening, ready, accepted⟩ := calls
  unfold AcceptCalls.listenAndAccept
  cases isCreated <;> cases listening <;> cases ready <;> cases accepted <;>
    decide

end OpenRTH
