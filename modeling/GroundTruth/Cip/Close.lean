/-
# Closing connections and timing them out

`CloseIoConnection` and `HandleIoConnectionTimeOut` (`cipioconnection.c`) tell the application what
becomes of the connection, hand the producing socket on, and take other connections down: the
listen only connections of an input assembly when nobody is left to produce for them, and with an
exclusive owner that times out the input only connections too.  Those are closed by
`CloseAllConnectionsForInputWithSameType` (`appcontype.c`), which tells the application itself,
and then calls `CloseIoConnection`, which tells it again.

The two call each other, one level deep: closing a listen only connection takes nothing else
down.  `closeIoWith` is `CloseIoConnection` with that call left open.
-/
import GroundTruth.Cip.Connections

namespace GroundTruth.Cip

/-! ## 1. Closing -/

/-- `RemoveFromActiveConnections` and `ConnectionObjectInitializeEmpty`, with which
`CloseConnection` and `CloseCommunicationChannelsAndRemoveFromActiveConnectionsList` end. -/
def Stack.release (c : Slot) (s : Stack) : Stack :=
  { s.set c .empty with connectionList := s.connectionList.erase c }

/-- `CloseConnection`, which explicit connections are closed with. -/
def closeConnection (c : Slot) (s : Stack) : Stack := s.release c

/-- `transfer_master_connection`.  The next master gets the producing socket; with none there is
no transfer. -/
def transferMasterConnection (c : Slot) (s : Stack) : Option Stack :=
  (getNextNonControlMasterConnection (s.connectionData c).producedPoint s).map fun active =>
    (s.set active { s.connectionData active with
        producing := (s.connectionData c).producing }).set c
      { s.connectionData c with producing := false }

/-- `CloseAllConnectionsForInputWithSameType`, over the nodes still to visit.  The next node is
read before a connection is closed; if that frees it, it holds a NULL pointer. -/
def closeEachForInput (close : Slot → Stack → Option Stack) (point : Nat) (type : InstanceType) :
    List Slot → Stack → Option Stack
  | [], s => some s
  | c :: nodes, s =>
    if c ∈ s.connectionList ∧ (s.connectionData c).isMember type point = true then
      (close c (s.notify .closed)).bind fun t =>
        if (nodes.find? (· ∈ s.connectionList)).all (· ∈ t.connectionList) = true then
          closeEachForInput close point type nodes t
        else none
    else closeEachForInput close point type nodes s

def closeAllConnectionsForInputWithSameType (close : Slot → Stack → Option Stack) (point : Nat)
    (type : InstanceType) (s : Stack) : Option Stack :=
  closeEachForInput close point type s.connectionList s

/-- `CloseIoConnection`, where `closeListeners` closes the listen only connections of an input
assembly. -/
def closeIoWith (closeListeners : Nat → Stack → Option Stack) (c : Slot) (s : Stack) :
    Option Stack :=
  let o := s.connectionData c
  let s := (s.notify .closed).setState c .nonExistent
  (if o.isMaster = true then
      match transferMasterConnection c s with
      | some s => some s
      | none => closeListeners o.producedPoint s
    else some s).map fun s => s.release c

/-- What it does to the listen only connections.  They are no masters, so it is not asked to close
any listeners of theirs. -/
def closeListeners (point : Nat) (s : Stack) : Option Stack :=
  closeAllConnectionsForInputWithSameType (closeIoWith fun _ => some) point .ioListenOnly s

def closeIoConnection (c : Slot) (s : Stack) : Option Stack := closeIoWith closeListeners c s

/-- `connection_close_function`. -/
def connectionCloseFunction (c : Slot) (s : Stack) : Option Stack :=
  match (s.connectionData c).instanceType with
  | .explicitMessaging => some (closeConnection c s)
  | .ioExclusiveOwner | .ioInputOnly | .ioListenOnly => closeIoConnection c s

/-- `CloseAllConnections`, which closes the first connection of the list until there is none. -/
def closeEach : List Slot → Stack → Option Stack
  | [], s => some s
  | c :: nodes, s =>
    if c ∈ s.connectionList then (connectionCloseFunction c s).bind (closeEach nodes)
    else closeEach nodes s

def closeAllConnections (s : Stack) : Option Stack := closeEach s.connectionList s

/-- `CloseClass3ConnectionBasedOnSession`.  Closing the connection frees the node the loop goes on
from, which ends it. -/
def closeClass3ConnectionBasedOnSession (session : Nat) (s : Stack) : Option Stack :=
  match s.search fun o => o.transportClass3 && decide (o.encapsulationSession = session) with
  | some c => connectionCloseFunction c s
  | none => some s

/-! ## 2. Timing out -/

/-- `CloseEncapsulationSessionBySockAddr`, where `sessions` are the sessions that are registered to
the address of the originator. -/
def closeEncapsulationSessions : List Nat → Stack → Option Stack
  | [], s => some s
  | session :: sessions, s =>
    (closeClass3ConnectionBasedOnSession session s).bind (closeEncapsulationSessions sessions)

/-- `CheckForTimedOutConnectionsAndCloseTCPConnections`, with the function that closes the
sessions. -/
def checkForTimedOutConnectionsAndCloseTcpConnections (closeSessions : Stack → Option Stack)
    (c : Slot) (s : Stack) : Option Stack :=
  if s.connectionList.any (fun d => equalOriginator (s.connectionData c) (s.connectionData d) &&
      decide (c ≠ d ∧ (s.connectionData d).state ≠ .timedOut)) = true then some s
  else closeSessions s

/-- What becomes of the producing socket: whether it was handed over, and the state after it. -/
def handOver (c : Slot) (o : ConnectionObject) (s : Stack) : Option (Bool × Stack) :=
  if o.isMaster = true then
    match transferMasterConnection c s with
    | some t => some (true, t)
    | none => (closeListeners o.producedPoint s).map fun t => (false, t)
  else some (false, s)

/-- The connections that an exclusive owner takes down when it times out and nobody takes over. -/
def closeDependants (point : Nat) (s : Stack) : Option Stack :=
  (closeAllConnectionsForInputWithSameType closeIoConnection point .ioInputOnly s).bind
    (closeListeners point)

/-- `HandleIoConnectionTimeOut`. -/
def handleIoConnectionTimeOut (sessions : List Nat) (c : Slot) (s : Stack) : Option Stack :=
  let o := s.connectionData c
  let s := (s.notify .timedOut).setState c .timedOut
  (if o.lastPackageWatchdogTimer = o.inactivityWatchdogTimer then
      checkForTimedOutConnectionsAndCloseTcpConnections (closeEncapsulationSessions sessions) c s
    else some s).bind fun s =>
  (handOver c o s).bind fun (handover, s) =>
  (if o.instanceType = .ioExclusiveOwner ∧ handover = false then closeDependants o.producedPoint s
    else some s).map (Stack.setState c .timedOut)

/-- `Class3ConnectionTimeoutHandler`.  The session it closes by its handle is a TCP socket only. -/
def class3ConnectionTimeoutHandler (c : Slot) (s : Stack) : Stack := closeConnection c s

/-- `connection_timeout_function`. -/
def connectionTimeoutFunction (sessions : List Nat) (c : Slot) (s : Stack) : Option Stack :=
  match (s.connectionData c).instanceType with
  | .explicitMessaging => some (class3ConnectionTimeoutHandler c s)
  | .ioExclusiveOwner | .ioInputOnly | .ioListenOnly => handleIoConnectionTimeOut sessions c s

end GroundTruth.Cip
