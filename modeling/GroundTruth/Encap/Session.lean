/-
# Encapsulation sessions, their sockets and their timers

`g_registered_sessions` (`encap.c`) has the socket of each session, `g_timestamps` the sockets whose
inactivity is watched (`socket_timer.c`), and `master_socket` the TCP connections that are open
(`generic_networkhandler.c`).  The three are written in different places, mostly by functions that
call each other, and class 3 connections keep the handle of the session they came by.

* `Network`, `networkStep`: the three tables beside the connection manager, and what happens to
  them;
* `Sees`: the tables as sets of sockets; what each function does to these sets;
* `sessions_and_timers`: in every run the sessions have different sockets, and the timers are those
  of the sessions.

The sockets of I/O connections are kept as numbers in the connection objects.  All connections share
one, `transfer_master_connection` hands it on when it is closed at the same time, and a number that
is closed once more may be one that `accept` has given out since.  Which numbers these are is left
open here: `CloseUdpSocket` is an event with any socket.  Where it hits no TCP connection, the
sockets of the sessions are open, too.
-/
import GroundTruth.Lib.Outcome
import GroundTruth.Lib.Table
import GroundTruth.Cip.Manager

namespace GroundTruth.Encap

open GroundTruth.Lib GroundTruth.Lib.Table GroundTruth.Cip

/-! ## 1. The tables -/

/-- `OPENER_NUMBER_OF_SUPPORTED_SESSIONS`. -/
def numberOfSupportedSessions : Nat := 20

abbrev SessionIndex := Fin numberOfSupportedSessions

/-- The handle of a session, which is never zero. -/
def handleOf (i : SessionIndex) : Nat := i + 1

/-- `SocketTimer`; `none` is `kEipInvalidSocket`. -/
structure SocketTimer where
  socket : Option Nat
  lastUpdate : UInt32
  deriving DecidableEq, Repr

/-- What `SocketTimerClear` makes of a timer. -/
def SocketTimer.clear : SocketTimer := ⟨none, 0⟩

structure Network where
  /-- `g_registered_sessions` -/
  registeredSessions : SessionIndex → Option Nat
  /-- `g_timestamps` -/
  timestamps : SessionIndex → SocketTimer
  /-- the TCP connections of `master_socket` -/
  connections : List Nat
  /-- `g_actual_time` -/
  actualTime : UInt32
  stack : Stack

/-- After `NetworkHandlerInitialize` and `EncapsulationInit`. -/
def Network.init : Network where
  registeredSessions := free
  timestamps := fun _ => .clear
  connections := []
  actualTime := 0
  stack := Stack.init

/-- Why the device goes no further. -/
inductive Stop
  /-- a loop that does not end -/
  | hang
  /-- `OPENER_ASSERT` -/
  | assertion
  /-- a write through the NULL that a search returned -/
  | nullTimer
  /-- an index outside of `g_registered_sessions` -/
  | outOfBounds
  /-- a NULL pointer in the connection manager -/
  | stack
  deriving DecidableEq, Repr

namespace Network

variable (s : Network)

/-- The sockets of the timers. -/
def timerSockets : SessionIndex → Option Nat := fun i => (s.timestamps i).socket

def setSession (i : SessionIndex) (x : Option Nat) : Network :=
  { s with registeredSessions := put s.registeredSessions i x }

def setTimer (i : SessionIndex) (timer : SocketTimer) : Network :=
  { s with timestamps := Function.update s.timestamps i timer }

/-- The connection manager does something. -/
def withStack : Option Stack → Except Stop Network
  | none => .error .stack
  | some stack => .ok { s with stack }

end Network

/-! ## 2. Sockets -/

/-- `SocketTimerArrayGetSocketTimer`; with `none` it is `SocketTimerArrayGetEmptySocketTimer`. -/
def socketTimerArrayGetSocketTimer (s : Network) (socket : Option Nat) : Option SessionIndex :=
  find s.timerSockets socket

/-- `RemoveSocketTimerFromList`, with the rounds that the loop may take; `none` when it is still
under way after these. -/
def removeSocketTimerFromList (socket : Option Nat) : Nat → Network → Option Network
  | 0, _ => none
  | rounds + 1, s =>
    match socketTimerArrayGetSocketTimer s socket with
    | none => some s
    | some i => removeSocketTimerFromList socket rounds (s.setTimer i .clear)

/-- `CloseTcpSocket`.  No more rounds come to an end than one for each timer and the last
(`removeSocketTimerFromList_stuck`). -/
def closeTcpSocket (socket : Option Nat) (s : Network) : Except Stop Network :=
  match removeSocketTimerFromList socket (numberOfSupportedSessions + 1) s with
  | none => .error .hang
  | some s => .ok { s with connections := socket.elim s.connections s.connections.erase }

/-- `CheckAndHandleTcpListenerSocket`, for the socket that `accept` returns. -/
def checkAndHandleTcpListenerSocket (socket : Nat) (s : Network) : Except Stop Network :=
  if socketTimerArrayGetSocketTimer s none = none then .error .assertion
  else .ok { s with connections := socket :: s.connections }

/-! ## 3. Sessions -/

/-- `EncapsulationProtocolErrorCode`, as far as sessions go. -/
inductive ProtocolStatus
  | success
  | invalidCommand
  | insufficientMemory
  | invalidSessionHandle
  | unsupportedProtocol
  deriving DecidableEq, Repr

/-- `GetFreeSessionIndex`. -/
def getFreeSessionIndex (s : Network) : Option SessionIndex := find s.registeredSessions none

/-- The session of a handle that is in range. -/
def indexOf (handle : Nat) : Option SessionIndex :=
  if h : 0 < handle ∧ handle ≤ numberOfSupportedSessions then some ⟨handle - 1, by omega⟩ else none

/-- `CheckRegisteredSessions`. -/
def checkRegisteredSessions (handle : Nat) (s : Network) : Bool :=
  (indexOf handle).any fun i => (s.registeredSessions i).isSome

/-- `HandleReceivedRegisterSessionCommand`: the session handle and the status of the reply. -/
def handleReceivedRegisterSessionCommand (socket protocolVersion optionFlag : Nat) (s : Network) :
    Except Stop ((Nat × ProtocolStatus) × Network) :=
  if 0 < protocolVersion ∧ protocolVersion ≤ 1 ∧ optionFlag = 0 then
    match find s.registeredSessions (some socket) with
    | some i => .ok ((handleOf i, .invalidCommand), s)
    | none =>
      match getFreeSessionIndex s with
      | none => .ok ((0, .insufficientMemory), s)
      | some i =>
        match socketTimerArrayGetSocketTimer s none with
        | none => .error .nullTimer
        | some timer =>
          .ok ((handleOf i, .success),
            (s.setTimer timer ⟨some socket, s.actualTime⟩).setSession i (some socket))
  else .ok ((0, .unsupportedProtocol), s)

/-- `CloseClass3ConnectionBasedOnSession`. -/
def closeClass3 (handle : Nat) (s : Network) : Except Stop Network :=
  s.withStack (closeClass3ConnectionBasedOnSession handle s.stack)

/-- The socket of a session is closed, and the session is free. -/
def closeSocketOf (i : SessionIndex) (s : Network) : Except Stop Network :=
  (closeTcpSocket (s.registeredSessions i) s).map (·.setSession i none)

/-- `HandleReceivedUnregisterSessionCommand`, with the status of its reply if there is one. -/
def handleReceivedUnregisterSessionCommand (handle : Nat) (s : Network) :
    Except Stop (Option ProtocolStatus × Network) :=
  match (indexOf handle).filter fun i => (s.registeredSessions i).isSome with
  | some i => (closeSocketOf i s >>= closeClass3 (handleOf i)).map fun s => (none, s)
  | none => .ok (some .invalidSessionHandle, s)

/-- `RemoveSession`. -/
def removeSession (socket : Nat) (s : Network) : Except Stop Network :=
  match find s.registeredSessions (some socket) with
  | none => .ok s
  | some i => closeClass3 (handleOf i) (s.setSession i none)

/-- `CloseSession`. -/
def closeSession (socket : Nat) (s : Network) : Except Stop Network :=
  match find s.registeredSessions (some socket) with
  | none => .ok s
  | some i =>
    (closeTcpSocket (some socket) s).map (·.setSession i none) >>= closeClass3 (handleOf i)

/-- `CloseSessionBySessionHandle`. -/
def closeSessionBySessionHandle (handle : Nat) (s : Network) : Except Stop Network :=
  match indexOf handle with
  | none => .error .outOfBounds
  | some i => closeSocketOf i s

/-- `CloseEncapsulationSessionBySockAddr`, where `peer` is what `getpeername` says. -/
def closeEncapsulationSessionBySockAddr (peer : Nat → Nat) (address : Nat) :
    List SessionIndex → Network → Except Stop Network
  | [], s => .ok s
  | i :: rest, s =>
    match (s.registeredSessions i).filter fun socket => peer socket = address with
    | none => closeEncapsulationSessionBySockAddr peer address rest s
    | some socket =>
      closeSession socket s >>= closeEncapsulationSessionBySockAddr peer address rest

/-- `GetSessionFromSocket`, which returns the index. -/
def getSessionFromSocket (socket : Nat) (s : Network) : Nat :=
  (find s.registeredSessions (some socket)).elim numberOfSupportedSessions Fin.val

/-- `CheckEncapsulationInactivity`, with the index of the session for its handle in the first
call. -/
def checkEncapsulationInactivity (encapsulationInactivityTimeout : UInt16) (socket : Nat)
    (s : Network) : Except Stop Network :=
  if 0 < encapsulationInactivityTimeout then
    match socketTimerArrayGetSocketTimer s (some socket) with
    | none => .ok s
    | some timer =>
      if s.actualTime - (s.timestamps timer).lastUpdate ≥
          1000 * encapsulationInactivityTimeout.toUInt32 then
        closeClass3 (getSessionFromSocket socket s) s >>= closeTcpSocket (some socket) >>=
          removeSession socket
      else .ok s
  else .ok s

/-! ## 4. Connections that time out -/

/-- Another connection of the same originator has not timed out. -/
def originatorActive (c : Slot) (s : Stack) : Bool :=
  s.connectionList.any fun d => equalOriginator (s.connectionData c) (s.connectionData d) &&
    decide (c ≠ d ∧ (s.connectionData d).state ≠ .timedOut)

/-- `CheckForTimedOutConnectionsAndCloseTCPConnections`, with the function that closes sessions. -/
def checkForTimedOutConnections (closeSessions : Network → Except Stop Network) (c : Slot)
    (s : Network) : Except Stop Network :=
  if originatorActive c s.stack = true then .ok s else closeSessions s

/-- `Class3ConnectionTimeoutHandler`. -/
def class3ConnectionTimeoutHandler (c : Slot) (s : Network) : Except Stop Network :=
  (checkForTimedOutConnections
    (closeSessionBySessionHandle (s.stack.connectionData c).encapsulationSession) c s).map
    fun s => { s with stack := closeConnection c s.stack }

/-- `HandleIoConnectionTimeOut`. -/
def handleIoConnectionTimeOut (peer : Nat → Nat) (c : Slot) (s : Network) :
    Except Stop Network :=
  let o := s.stack.connectionData c
  let s := { s with stack := (s.stack.notify .timedOut).setState c .timedOut }
  (if o.lastPackageWatchdogTimer = o.inactivityWatchdogTimer then
      checkForTimedOutConnections (closeEncapsulationSessionBySockAddr peer o.originatorAddress
        (List.finRange numberOfSupportedSessions)) c s
    else .ok s) >>= fun s =>
  s.withStack ((handOver c o s.stack).bind fun (handover, t) =>
    (if o.instanceType = .ioExclusiveOwner ∧ handover = false then
        closeDependants o.producedPoint t
      else some t).map (Stack.setState c .timedOut))

/-- `connection_timeout_function`. -/
def connectionTimeoutFunction (peer : Nat → Nat) (c : Slot) (s : Network) :
    Except Stop Network :=
  match (s.stack.connectionData c).instanceType with
  | .explicitMessaging => class3ConnectionTimeoutHandler c s
  | .ioExclusiveOwner | .ioInputOnly | .ioListenOnly => handleIoConnectionTimeOut peer c s

/-- `ManageConnections`, for one connection. -/
def manageConnection (peer : Nat → Nat) (elapsedTime : UInt64) (c : Slot) (s : Network) :
    Except Stop Network :=
  if expired elapsedTime (s.stack.connectionData c) = true then
    connectionTimeoutFunction peer c { s with stack := { s.stack with statistics :=
      { s.stack.statistics with
        connectionTimeouts := s.stack.statistics.connectionTimeouts + 1 } } }
  else s.withStack (Cip.manageConnection elapsedTime [] c s.stack)

/-! ## 5. The machine -/

/-- A request for the message router. -/
inductive Request
  | forwardOpen (r : ForwardOpenRequest)
  | forwardClose (r : ForwardCloseRequest)
  | other
  deriving DecidableEq, Repr

/-- The request, by the session of the message. -/
def bySession (handle : Nat) (r : ForwardOpenRequest) : ForwardOpenRequest :=
  { r with connection := { r.connection with encapsulationSession := handle } }

/-- `NotifyMessageRouter`, which gets the session handle of the message. -/
def notifyMessageRouter (points : ConnectionPoints) (handle : Nat) (request : Request)
    (s : Network) : Except Stop Network :=
  match request with
  | .forwardOpen r =>
    s.withStack ((forwardOpen points (bySession handle r) s.stack).map Prod.snd)
  | .forwardClose r => s.withStack ((forwardClose r s.stack).map Prod.snd)
  | .other => .ok s

/-- The commands of `HandleReceivedExplictTcpData`.  `other` are those that change nothing. -/
inductive Command
  | registerSession (protocolVersion optionFlag : Nat)
  | unregisterSession (handle : Nat)
  | sendRequestReplyData (handle : Nat) (request : Request)
  /-- on a connection, whose sequence count may be that of the last request -/
  | sendUnitData (handle : Nat) (c : Slot) (repeated : Bool) (request : Request)
  | other
  deriving DecidableEq, Repr

/-- `ConnectionObjectResetInactivityWatchdogTimerValue`. -/
def resetInactivityWatchdogTimer (c : Slot) (s : Network) : Network :=
  { s with stack := s.stack.set c { s.stack.connectionData c with
      inactivityWatchdogTimer := (s.stack.connectionData c).regularTimeout } }

/-- `HandleReceivedExplictTcpData`. -/
def handleReceivedExplicitTcpData (points : ConnectionPoints) (socket : Nat) (s : Network) :
    Command → Except Stop Network
  | .registerSession protocolVersion optionFlag =>
    (handleReceivedRegisterSessionCommand socket protocolVersion optionFlag s).map Prod.snd
  | .unregisterSession handle => (handleReceivedUnregisterSessionCommand handle s).map Prod.snd
  | .sendRequestReplyData handle request =>
    if checkRegisteredSessions handle s = true then notifyMessageRouter points handle request s
    else .ok s
  | .sendUnitData handle c repeated request =>
    if checkRegisteredSessions handle s = true ∧
        (s.stack.connectionData c).state = .established then
      if repeated = true then .ok (resetInactivityWatchdogTimer c s)
      else notifyMessageRouter points handle request (resetInactivityWatchdogTimer c s)
    else .ok s
  | .other => .ok s

/-- `HandleDataOnTcpSocket` when a whole message has come.  The timer is looked for first, and gets
the time when the message has been handled, whatever its socket is then. -/
def handleDataOnTcpSocket (points : ConnectionPoints) (socket : Nat) (command : Command)
    (s : Network) : Except Stop Network :=
  (handleReceivedExplicitTcpData points socket s command).map fun t =>
    match socketTimerArrayGetSocketTimer s (some socket) with
    | none => t
    | some i => t.setTimer i { t.timestamps i with lastUpdate := t.actualTime }

inductive Event
  /-- `accept` returns a socket -/
  | accept (socket : Nat)
  | received (socket : Nat) (command : Command)
  /-- `recv` returns 0 -/
  | closedByClient (socket : Nat)
  /-- `HandleDataOnTcpSocket` returns an error -/
  | failed (socket : Nat)
  | checkEncapsulationInactivity (encapsulationInactivityTimeout : UInt16) (socket : Nat)
  /-- `ManageConnections` comes to a connection of the list -/
  | manageConnection (peer : Nat → Nat) (elapsedTime : UInt64) (c : Slot)
  | receivedConnectedData (c : Slot) (fresh : Bool)
  /-- `CloseUdpSocket`, of a number that a connection object has kept -/
  | closeUdpSocket (socket : Nat)
  | setActualTime (actualTime : UInt32)
  | linkUp
  | linkDown
  /-- `ShutdownCipStack` -/
  | shutDown

/-- `EncapsulationShutDown`, over the sessions still to visit. -/
def encapsulationShutDown : List SessionIndex → Network → Except Stop Network
  | [], s => .ok s
  | i :: rest, s =>
    if (s.registeredSessions i).isSome = true then closeSocketOf i s >>= encapsulationShutDown rest
    else encapsulationShutDown rest s

/-- What can happen: a new socket is none of those that are open, and data come on one that is. -/
def Possible (s : Network) : Event → Prop
  | .accept socket => socket ∉ s.connections
  | .received socket _ | .closedByClient socket | .failed socket => socket ∈ s.connections
  | .manageConnection _ _ c => c ∈ s.stack.connectionList
  | .checkEncapsulationInactivity _ _ | .receivedConnectedData _ _ | .closeUdpSocket _
  | .setActualTime _ | .linkUp | .linkDown | .shutDown => True

/-- No TCP connection is closed as a UDP socket. -/
def Apart (s : Network) : Event → Prop
  | .closeUdpSocket socket => socket ∉ s.connections
  | _ => True

def networkStep (points : ConnectionPoints) (s : Network) : Event → Except Stop Network
  | .accept socket => checkAndHandleTcpListenerSocket socket s
  | .received socket command => handleDataOnTcpSocket points socket command s
  | .closedByClient socket =>
    match removeSocketTimerFromList (some socket) (numberOfSupportedSessions + 1) s with
    | none => .error .hang
    | some s => removeSession socket s >>= closeTcpSocket (some socket) >>= removeSession socket
  | .failed socket => closeTcpSocket (some socket) s >>= removeSession socket
  | .checkEncapsulationInactivity timeout socket => checkEncapsulationInactivity timeout socket s
  | .manageConnection peer elapsedTime c => manageConnection peer elapsedTime c s
  | .receivedConnectedData c fresh =>
    .ok { s with stack := handleReceivedConnectedData c fresh s.stack }
  | .closeUdpSocket socket => .ok { s with connections := s.connections.erase socket }
  | .setActualTime actualTime => .ok { s with actualTime }
  | .linkUp => .ok { s with stack := { s.stack with
      application := notifyLinkUp s.stack.application } }
  | .linkDown => .ok { s with stack := { s.stack with
      application := notifyLinkDown s.stack.application } }
  | .shutDown => s.withStack (closeAllConnections s.stack) >>=
      encapsulationShutDown (List.finRange numberOfSupportedSessions)

/-! ## 6. The tables as sets of sockets -/

variable {s t : Network} {S T : Set Nat} {i : SessionIndex} {k : Nat} {Q : Stop → Prop}

/-- The sockets of the sessions are `S`, those of the timers are `T`, and none is there twice. -/
structure Sees (S T : Set Nat) (s : Network) : Prop where
  sessions : Distinct s.registeredSessions
  timers : Distinct s.timerSockets
  hasSession : ∀ k, Has s.registeredSessions k ↔ k ∈ S
  hasTimer : ∀ k, Has s.timerSockets k ↔ k ∈ T

theorem Sees.init : Sees ∅ ∅ Network.init where
  sessions := .free
  timers := .free
  hasSession _ := iff_of_false not_has_free (Set.notMem_empty _)
  hasTimer _ := iff_of_false not_has_free (Set.notMem_empty _)

/-- Only the two tables matter. -/
theorem Sees.congr (h : Sees S T s) (hsessions : t.registeredSessions = s.registeredSessions)
    (htimers : t.timerSockets = s.timerSockets) : Sees S T t := by
  obtain ⟨hs, ht, hhs, hht⟩ := h
  rw [← hsessions] at hs hhs
  rw [← htimers] at ht hht
  exact ⟨hs, ht, hhs, hht⟩

@[simp] theorem setTimer_timerSockets (i : SessionIndex) (timer : SocketTimer) :
    (s.setTimer i timer).timerSockets = put s.timerSockets i timer.socket := by
  funext j
  by_cases hj : j = i
  · subst hj
    rw [put_self]
    exact congrArg SocketTimer.socket (Function.update_self ..)
  · rw [put_of_ne hj]
    exact congrArg SocketTimer.socket (Function.update_of_ne hj ..)

@[simp] theorem setTimer_registeredSessions (i : SessionIndex) (timer : SocketTimer) :
    (s.setTimer i timer).registeredSessions = s.registeredSessions := rfl

@[simp] theorem setSession_registeredSessions (i : SessionIndex) (x : Option Nat) :
    (s.setSession i x).registeredSessions = put s.registeredSessions i x := rfl

@[simp] theorem setSession_timerSockets (i : SessionIndex) (x : Option Nat) :
    (s.setSession i x).timerSockets = s.timerSockets := rfl

/-- A session and its timer come together. -/
theorem Sees.register {timer : SessionIndex} {now : UInt32} (h : Sees S S s) (hk : k ∉ S)
    (hi : s.registeredSessions i = none) (ht : s.timerSockets timer = none) :
    Sees (insert k S) (insert k S) ((s.setTimer timer ⟨some k, now⟩).setSession i (some k)) where
  sessions := h.sessions.put fun hin => hk ((h.hasSession k).1 hin)
  timers := by
    rw [setSession_timerSockets, setTimer_timerSockets]
    exact h.timers.put fun hin => hk ((h.hasTimer k).1 hin)
  hasSession l := by
    rw [setSession_registeredSessions, setTimer_registeredSessions, has_put hi, h.hasSession]
    rfl
  hasTimer l := by
    rw [setSession_timerSockets, setTimer_timerSockets, has_put ht, h.hasTimer]
    rfl

/-- A session is made free. -/
theorem Sees.clearSession (h : Sees S T s) (hi : s.registeredSessions i = some k) :
    Sees (S \ {k}) T (s.setSession i none) where
  sessions := h.sessions.clear
  timers := h.timers
  hasSession l := by
    rw [setSession_registeredSessions, h.sessions.has_clear hi, h.hasSession]
    exact and_comm
  hasTimer := h.hasTimer

/-- A timer is made free. -/
theorem Sees.clearTimer (h : Sees S T s) (hi : s.timerSockets i = some k) :
    Sees S (T \ {k}) (s.setTimer i .clear) where
  sessions := h.sessions
  timers := by
    rw [setTimer_timerSockets]
    exact h.timers.clear
  hasSession := h.hasSession
  hasTimer l := by
    rw [setTimer_timerSockets]
    change Has (put s.timerSockets i none) l ↔ _
    rw [h.timers.has_clear hi, h.hasTimer]
    exact and_comm

/-- Nothing but the timers has changed. -/
structure TimersOnly (s t : Network) : Prop where
  registeredSessions : t.registeredSessions = s.registeredSessions
  connections : t.connections = s.connections
  actualTime : t.actualTime = s.actualTime
  stack : t.stack = s.stack

/-- A socket that has no timer ends the loop. -/
theorem removeSocketTimerFromList_absent {socket : Option Nat} {rounds : Nat}
    (h : find s.timerSockets socket = none) (hrounds : 0 < rounds) :
    removeSocketTimerFromList socket rounds s = some s := by
  obtain ⟨m, rfl⟩ := Nat.exists_eq_add_one_of_ne_zero (Nat.ne_of_gt hrounds)
  rw [removeSocketTimerFromList, socketTimerArrayGetSocketTimer, h]

/-- **The loop of `RemoveSocketTimerFromList`** takes a socket out of the timers. -/
theorem Sees.removeSocketTimer (h : Sees S T s) (k : Nat) :
    ∃ t, removeSocketTimerFromList (some k) (numberOfSupportedSessions + 1) s = some t ∧
      Sees S (T \ {k}) t ∧ TimersOnly s t := by
  cases hi : find s.timerSockets (some k) with
  | none =>
    have hk : k ∉ T := fun hk => find_none_iff_not_has.1 hi ((h.hasTimer k).2 hk)
    rw [Set.sdiff_singleton_eq_self hk]
    exact ⟨s, removeSocketTimerFromList_absent hi (by decide), h, rfl, rfl, rfl, rfl⟩
  | some i =>
    have hcleared := h.clearTimer (find_some hi)
    have hgone : find (s.setTimer i .clear).timerSockets (some k) = none := by
      rw [find_none_iff_not_has, hcleared.hasTimer]
      exact fun hk => hk.2 rfl
    refine ⟨s.setTimer i .clear, ?_, hcleared, rfl, rfl, rfl, rfl⟩
    rw [removeSocketTimerFromList, socketTimerArrayGetSocketTimer, hi]
    exact removeSocketTimerFromList_absent hgone (by decide)

/-- With `kEipInvalidSocket` and a free timer it clears that timer for ever. -/
theorem removeSocketTimerFromList_stuck (hfree : s.timerSockets i = none) (rounds : Nat) :
    removeSocketTimerFromList none rounds s = none := by
  induction rounds generalizing s i with
  | zero => rfl
  | succ rounds ih =>
    rw [removeSocketTimerFromList, socketTimerArrayGetSocketTimer]
    cases hj : find s.timerSockets none with
    | none => exact absurd hfree (find_none.1 hj i)
    | some j =>
      refine ih (i := j) ?_
      rw [setTimer_timerSockets, put_self]
      rfl

/-! ## 7. What the functions do to the sets -/

variable {C : List Nat}

/-- The sockets of the sessions, those of the timers, and the connections that are open. -/
def Stands (S T : Set Nat) (C : List Nat) (s : Network) : Prop := Sees S T s ∧ s.connections = C

/-- A connection is closed, and no session is. -/
theorem Stands.closeTcpSocket (h : Stands S T C s) (k : Nat) :
    ∃ t, Encap.closeTcpSocket (some k) s = .ok t ∧ Stands S (T \ {k}) (C.erase k) t ∧
      t.registeredSessions = s.registeredSessions ∧ t.stack = s.stack := by
  obtain ⟨hsees, rfl⟩ := h
  obtain ⟨t, ht, hseest, htimers⟩ := hsees.removeSocketTimer k
  refine ⟨{ t with connections := t.connections.erase k }, ?_, ⟨?_, ?_⟩,
    htimers.registeredSessions, htimers.stack⟩
  · rw [Encap.closeTcpSocket, ht]
    rfl
  · exact hseest.congr rfl rfl
  · exact congrArg (·.erase k) htimers.connections

theorem Stands.withStack (h : Stands S T C s) (hQ : Q .stack) (x : Option Stack) :
    Ends (Stands S T C) Q (s.withStack x) := by
  cases x with
  | none => exact hQ
  | some stack => exact ⟨h.1.congr rfl rfl, h.2⟩

theorem Stands.setStack (h : Stands S T C s) (stack : Stack) :
    Stands S T C { s with stack := stack } := ⟨h.1.congr rfl rfl, h.2⟩

theorem Stands.clearSession (h : Stands S T C s) (hi : s.registeredSessions i = some k) :
    Stands (S \ {k}) T C (s.setSession i none) := ⟨h.1.clearSession hi, h.2⟩

/-- `RemoveSession` ends the session of a socket. -/
theorem Stands.removeSession (h : Stands S T C s) (hQ : Q .stack) (k : Nat) :
    Ends (Stands (S \ {k}) T C) Q (Encap.removeSession k s) := by
  rw [Encap.removeSession]
  cases hi : find s.registeredSessions (some k) with
  | none =>
    have hk : k ∉ S := fun hk => find_none_iff_not_has.1 hi ((h.1.hasSession k).2 hk)
    rw [Set.sdiff_singleton_eq_self hk]
    exact h
  | some i => exact (h.clearSession (find_some hi)).withStack hQ _

/-- The socket of a session is closed along with it. -/
theorem Stands.closeSocketOf (h : Stands S T C s) (hi : s.registeredSessions i = some k) :
    Ends (Stands (S \ {k}) (T \ {k}) (C.erase k)) Q (Encap.closeSocketOf i s) := by
  obtain ⟨t, ht, hstands, hsame, -⟩ := h.closeTcpSocket k
  rw [Encap.closeSocketOf, hi, ht]
  rw [← hsame] at hi
  exact hstands.clearSession hi

/-- The sockets are those of connections that are open, each of them once. -/
def AllOpen (S : Set Nat) (C : List Nat) : Prop := (∀ k ∈ S, k ∈ C) ∧ C.Nodup

/-- Sessions and timers have the same sockets, and under the condition `o` all of them are open. -/
def Sound (o : Prop) (s : Network) : Prop :=
  ∃ S, Stands S S s.connections s ∧ (o → AllOpen S s.connections)

variable {o : Prop}

theorem Sound.init : Sound o Network.init :=
  ⟨∅, ⟨.init, rfl⟩, fun _ => ⟨fun _ hk => absurd hk (Set.notMem_empty _), List.nodup_nil⟩⟩

theorem Stands.sound (h : Stands S S C s) (hopen : o → AllOpen S C) : Sound o s := by
  obtain ⟨hsees, rfl⟩ := h
  exact ⟨S, ⟨hsees, rfl⟩, hopen⟩

/-- A connection goes, and its session and its timer with it. -/
theorem Stands.drop (h : Stands (S \ {k}) (S \ {k}) (C.erase k) s) (hopen : o → AllOpen S C) :
    Sound o s := by
  refine h.sound fun ho => ⟨?_, (hopen ho).2.erase k⟩
  intro l hl
  exact (List.mem_erase_of_ne hl.2).2 ((hopen ho).1 l hl.1)

theorem Sound.withStack (h : Sound o s) (hQ : Q .stack) (x : Option Stack) :
    Ends (Sound o) Q (s.withStack x) := by
  obtain ⟨S, hstands, hopen⟩ := h
  exact (hstands.withStack hQ x).mono (fun t ht => ht.sound hopen) fun _ he => he

theorem Sound.setStack (h : Sound o s) (stack : Stack) : Sound o { s with stack := stack } := by
  obtain ⟨S, hstands, hopen⟩ := h
  exact (hstands.setStack stack).sound hopen

/-- There is a free timer as long as there is a free session. -/
theorem Sound.free_timer (h : Sound o s) (hi : s.registeredSessions i = none) :
    ∃ timer, s.timerSockets timer = none := by
  obtain ⟨S, ⟨hsees, -⟩, -⟩ := h
  by_contra hfull
  have hsame : ∀ k, Has s.timerSockets k → Has s.registeredSessions k := by
    intro k hk
    rw [hsees.hasSession, ← hsees.hasTimer]
    exact hk
  exact full_of_full hsees.timers hsame (fun j hj => hfull ⟨j, hj⟩) i hi

/-- A session that is free has no socket to close. -/
theorem Sound.closeSocketOf_free (h : Sound o s) (hi : s.registeredSessions i = none) :
    Encap.closeSocketOf i s = .error .hang := by
  obtain ⟨timer, htimer⟩ := h.free_timer hi
  rw [Encap.closeSocketOf, hi, Encap.closeTcpSocket, removeSocketTimerFromList_stuck htimer]
  rfl

theorem Sound.closeSocketOf (h : Sound o s) (hi : s.registeredSessions i ≠ none) :
    Ends (Sound o) Q (Encap.closeSocketOf i s) := by
  obtain ⟨S, hstands, hopen⟩ := h
  obtain ⟨k, hk⟩ := Option.ne_none_iff_exists'.1 hi
  exact (hstands.closeSocketOf hk).mono (fun t ht => ht.drop hopen) fun _ he => he

theorem Sound.closeClass3 (h : Sound o s) (hQ : Q .stack) (handle : Nat) :
    Ends (Sound o) Q (Encap.closeClass3 handle s) := h.withStack hQ _

theorem Sound.closeSession (h : Sound o s) (hQ : Q .stack) (k : Nat) :
    Ends (Sound o) Q (Encap.closeSession k s) := by
  rw [Encap.closeSession]
  cases hi : find s.registeredSessions (some k) with
  | none => exact h
  | some i =>
    -- the socket that is closed is the one of the session
    have hclosed : Ends (Sound o) Q (Encap.closeSocketOf i s) := by
      refine h.closeSocketOf ?_
      rw [find_some hi]
      exact Option.some_ne_none k
    rw [Encap.closeSocketOf, find_some hi] at hclosed
    exact hclosed.bind fun t ht => ht.closeClass3 hQ _

theorem Sound.closeEncapsulationSessions (h : Sound o s) (hQ : Q .stack) (peer : Nat → Nat)
    (address : Nat) (sessions : List SessionIndex) :
    Ends (Sound o) Q (closeEncapsulationSessionBySockAddr peer address sessions s) := by
  induction sessions generalizing s with
  | nil => exact h
  | cons i rest ih =>
    rw [closeEncapsulationSessionBySockAddr]
    split
    · exact ih h
    · exact (h.closeSession hQ _).bind fun t ht => ih ht

theorem Sound.shutDown (h : Sound o s) (sessions : List SessionIndex) :
    Ends (Sound o) Q (encapsulationShutDown sessions s) := by
  induction sessions generalizing s with
  | nil => exact h
  | cons i rest ih =>
    rw [encapsulationShutDown]
    split
    · rename_i hi
      refine (h.closeSocketOf ?_).bind fun t ht => ih ht
      exact Option.isSome_iff_ne_none.1 hi
    · exact ih h

/-! ## 8. One event -/

variable {points : ConnectionPoints}

/-- `accept` gives a socket that is none of those that are open. -/
theorem Sound.accept (h : Sound o s) (hQ : (∀ i, s.registeredSessions i ≠ none) → Q .assertion)
    (hk : k ∉ s.connections) : Ends (Sound o) Q (checkAndHandleTcpListenerSocket k s) := by
  rw [checkAndHandleTcpListenerSocket]
  split
  · rename_i hfull
    refine hQ ?_
    intro i hi
    obtain ⟨timer, htimer⟩ := h.free_timer hi
    exact find_none.1 hfull timer htimer
  · obtain ⟨S, hstands, hopen⟩ := h
    refine ⟨S, ⟨hstands.1.congr rfl rfl, rfl⟩, fun ho => ⟨?_, ?_⟩⟩
    · intro l hl
      exact List.mem_cons_of_mem k ((hopen ho).1 l hl)
    · exact List.nodup_cons.2 ⟨hk, (hopen ho).2⟩

/-- A session is registered to a connection that has none, and finds a timer. -/
theorem Sound.register (h : Sound o s) (hk : k ∈ s.connections) (version flag : Nat) :
    Ends (fun r => Sound o r.2) Q (handleReceivedRegisterSessionCommand k version flag s) := by
  rw [handleReceivedRegisterSessionCommand]
  split
  · cases hfound : find s.registeredSessions (some k) with
    | some i => exact h
    | none =>
      cases hi : getFreeSessionIndex s with
      | none => exact h
      | some i =>
        have hfree : s.registeredSessions i = none := find_some hi
        obtain ⟨timer, htimer⟩ := h.free_timer hfree
        cases hj : socketTimerArrayGetSocketTimer s none with
        | none => exact absurd htimer (find_none.1 hj timer)
        | some j =>
          obtain ⟨S, hstands, hopen⟩ := h
          have hnew : k ∉ S := by
            rw [← hstands.1.hasSession]
            exact find_none_iff_not_has.1 hfound
          refine ⟨insert k S, ⟨hstands.1.register hnew hfree (find_some hj), rfl⟩,
            fun ho => ⟨?_, (hopen ho).2⟩⟩
          rintro l (rfl | hl)
          · exact hk
          · exact (hopen ho).1 l hl
  · exact h

theorem Sound.unregister (h : Sound o s) (hQ : Q .stack) (handle : Nat) :
    Ends (fun r => Sound o r.2) Q (handleReceivedUnregisterSessionCommand handle s) := by
  rw [handleReceivedUnregisterSessionCommand]
  split
  · rename_i i hi
    have hsome := (Option.filter_eq_some_iff.1 hi).2
    have hclosed : Ends (Sound o) Q (Encap.closeSocketOf i s >>= Encap.closeClass3 (handleOf i)) :=
      (h.closeSocketOf (Option.isSome_iff_ne_none.1 hsome)).bind fun t ht => ht.closeClass3 hQ _
    exact hclosed.bind fun t ht => ht
  · exact h

theorem Sound.notifyMessageRouter (h : Sound o s) (hQ : Q .stack) (handle : Nat)
    (request : Request) : Ends (Sound o) Q (Encap.notifyMessageRouter points handle request s) := by
  cases request with
  | forwardOpen r => exact h.withStack hQ _
  | forwardClose r => exact h.withStack hQ _
  | other => exact h

theorem Sound.command (h : Sound o s) (hQ : Q .stack) (hk : k ∈ s.connections)
    (command : Command) : Ends (Sound o) Q (handleReceivedExplicitTcpData points k s command) := by
  cases command with
  | registerSession version flag => exact (h.register hk version flag).bind fun r hr => hr
  | unregisterSession handle => exact (h.unregister hQ handle).bind fun r hr => hr
  | sendRequestReplyData handle request =>
    rw [handleReceivedExplicitTcpData]
    split
    · exact h.notifyMessageRouter hQ handle request
    · exact h
  | sendUnitData handle c repeated request =>
    rw [handleReceivedExplicitTcpData]
    split
    · split
      · exact h.setStack _
      · exact (h.setStack _).notifyMessageRouter hQ handle request
    · exact h
  | other => exact h

/-- The time of a timer is not its socket. -/
theorem Sound.touch (h : Sound o s) (i : SessionIndex) (now : UInt32) :
    Sound o (s.setTimer i { s.timestamps i with lastUpdate := now }) := by
  obtain ⟨S, hstands, hopen⟩ := h
  refine ⟨S, ⟨hstands.1.congr rfl ?_, rfl⟩, hopen⟩
  rw [setTimer_timerSockets]
  exact Function.update_eq_self i s.timerSockets

theorem Sound.received (h : Sound o s) (hQ : Q .stack) (hk : k ∈ s.connections)
    (command : Command) : Ends (Sound o) Q (handleDataOnTcpSocket points k command s) := by
  refine (h.command hQ hk command).bind ?_
  intro t ht
  cases socketTimerArrayGetSocketTimer s (some k) with
  | none => exact ht
  | some i => exact ht.touch i _

theorem Sound.failed (h : Sound o s) (hQ : Q .stack) (k : Nat) :
    Ends (Sound o) Q (closeTcpSocket (some k) s >>= Encap.removeSession k) := by
  obtain ⟨S, hstands, hopen⟩ := h
  obtain ⟨t, ht, hstandst, -, -⟩ := hstands.closeTcpSocket k
  rw [ht]
  exact (hstandst.removeSession hQ k).mono (fun u hu => hu.drop hopen) fun _ he => he

/-- The session goes first, and its timer before it. -/
theorem Sound.closedByClient (h : Sound o s) (hQ : Q .stack) (k : Nat) :
    Ends (Sound o) Q (networkStep points s (.closedByClient k)) := by
  obtain ⟨S, hstands, hopen⟩ := h
  obtain ⟨t, ht, hsees, htimers⟩ := hstands.1.removeSocketTimer k
  rw [networkStep, ht]
  have hstandst : Stands S (S \ {k}) s.connections t := ⟨hsees, htimers.connections⟩
  have hremoved := (hstandst.removeSession hQ k).bind (f := closeTcpSocket (some k))
    (R := Stands (S \ {k}) (S \ {k}) (s.connections.erase k)) ?_
  · refine hremoved.bind ?_
    intro u hu
    refine (hu.removeSession hQ k).mono ?_ fun _ he => he
    intro v hv
    rw [sdiff_idem] at hv
    exact hv.drop hopen
  · intro u hu
    obtain ⟨v, hv, hstandsv, -, -⟩ := hu.closeTcpSocket k
    rw [hv]
    rwa [sdiff_idem] at hstandsv

theorem Sound.inactivity (h : Sound o s) (hQ : Q .stack) (timeout : UInt16) (k : Nat) :
    Ends (Sound o) Q (Encap.checkEncapsulationInactivity timeout k s) := by
  rw [Encap.checkEncapsulationInactivity]
  split
  · split
    · exact h
    · split
      · rw [bind_assoc]
        exact (h.closeClass3 hQ _).bind fun t ht => ht.failed hQ k
      · exact h
  · exact h

theorem registered_iff {handle : Nat} : checkRegisteredSessions handle s = true ↔
    ∃ i, indexOf handle = some i ∧ s.registeredSessions i ≠ none := by
  rw [checkRegisteredSessions, Option.any_eq_true]
  simp only [Option.isSome_iff_ne_none]

theorem Sound.checkForTimedOut (h : Sound o s) {f : Network → Except Stop Network} {c : Slot}
    (hf : originatorActive c s.stack = false → Ends (Sound o) Q (f s)) :
    Ends (Sound o) Q (checkForTimedOutConnections f c s) := by
  rw [checkForTimedOutConnections]
  split
  · exact h
  · rename_i hactive
    exact hf (Bool.eq_false_iff.2 hactive)

/-- Closing a session by its handle goes well if the session is registered. -/
theorem Sound.closeByHandle (h : Sound o s) {handle : Nat}
    (hrange : indexOf handle = none → Q .outOfBounds)
    (hfree : ∀ i, indexOf handle = some i → s.registeredSessions i = none → Q .hang) :
    Ends (Sound o) Q (closeSessionBySessionHandle handle s) := by
  rw [closeSessionBySessionHandle]
  cases hi : indexOf handle with
  | none => exact hrange hi
  | some i =>
    change Ends (Sound o) Q (Encap.closeSocketOf i s)
    by_cases hsession : s.registeredSessions i = none
    · rw [h.closeSocketOf_free hsession]
      exact hfree i hi hsession
    · exact h.closeSocketOf hsession

theorem Sound.ioTimeOut (h : Sound o s) (hQ : Q .stack) (peer : Nat → Nat) (c : Slot) :
    Ends (Sound o) Q (Encap.handleIoConnectionTimeOut peer c s) := by
  have hmarked := h.setStack ((s.stack.notify .timedOut).setState c .timedOut)
  refine Ends.bind (P := Sound o) ?_ fun t ht => ht.withStack hQ _
  split
  · exact hmarked.checkForTimedOut fun _ => hmarked.closeEncapsulationSessions hQ peer _ _
  · exact hmarked

/-- An explicit connection that times out, the last of its originator, is to have its session
closed. -/
def ClosesItsSession (s : Network) (c : Slot) : Event → Prop
  | .manageConnection _ elapsedTime d => d = c ∧
      expired elapsedTime (s.stack.connectionData c) = true ∧
      (s.stack.connectionData c).instanceType = .explicitMessaging ∧
      originatorActive c s.stack = false
  | _ => False

/-- **One event** keeps the tables in step.  What can stop the device are an `accept` with all
sessions registered, a session that is closed for a class 3 connection and is not there, and the
connection manager. -/
theorem Sound.step (h : Sound o s) {e : Event} (hpossible : Possible s e) (hstack : Q .stack)
    (hapart : o → Apart s e) (hassert : (∀ i, s.registeredSessions i ≠ none) → Q .assertion)
    (hrange : ∀ c, ClosesItsSession s c e →
      indexOf (s.stack.connectionData c).encapsulationSession = none → Q .outOfBounds)
    (hfree : ∀ c, ClosesItsSession s c e → ∀ i,
      indexOf (s.stack.connectionData c).encapsulationSession = some i →
        s.registeredSessions i = none → Q .hang) :
    Ends (Sound o) Q (networkStep points s e) := by
  cases e with
  | accept socket => exact h.accept hassert hpossible
  | received socket command => exact h.received hstack hpossible command
  | closedByClient socket => exact h.closedByClient hstack socket
  | failed socket => exact h.failed hstack socket
  | checkEncapsulationInactivity timeout socket => exact h.inactivity hstack timeout socket
  | manageConnection peer elapsedTime c =>
    rw [networkStep, Encap.manageConnection]
    split
    · rename_i hexpired
      have hcounted := h.setStack { s.stack with statistics := { s.stack.statistics with
        connectionTimeouts := s.stack.statistics.connectionTimeouts + 1 } }
      rw [Encap.connectionTimeoutFunction]
      split
      · rename_i htype
        refine Ends.bind (P := Sound o) ?_ fun t ht => ht.setStack _
        refine hcounted.checkForTimedOut ?_
        intro hactive
        have hcloses : ClosesItsSession s c (.manageConnection peer elapsedTime c) :=
          ⟨rfl, hexpired, htype, hactive⟩
        exact hcounted.closeByHandle (hrange c hcloses) (hfree c hcloses)
      all_goals exact hcounted.ioTimeOut hstack peer c
    · exact h.withStack hstack _
  | receivedConnectedData c fresh => exact h.setStack _
  | closeUdpSocket socket =>
    obtain ⟨S, hstands, hopen⟩ := h
    refine ⟨S, ⟨hstands.1.congr rfl rfl, rfl⟩, fun ho => ?_⟩
    have hsame : s.connections.erase socket = s.connections := List.erase_of_not_mem (hapart ho)
    change AllOpen S (s.connections.erase socket)
    rw [hsame]
    exact hopen ho
  | setActualTime now =>
    obtain ⟨S, hstands, hopen⟩ := h
    exact ⟨S, ⟨hstands.1.congr rfl rfl, rfl⟩, hopen⟩
  | linkUp => exact h.setStack _
  | linkDown => exact h.setStack _
  | shutDown => exact (h.withStack hstack _).bind fun t ht => ht.shutDown _

/-! ## 9. Runs -/

/-- The states that a run of possible events comes to. -/
abbrev Reached (points : ConnectionPoints) : Network → Prop :=
  Run (halting (networkStep points)) Possible Network.init

theorem Reached.sound (h : Reached points s) : Sound False s := by
  refine (Run.ends (Q := fun _ => True) h ?_ Sound.init).1
  intro u e hu hpossible
  exact hu.step hpossible trivial False.elim (fun _ => trivial) (fun _ _ _ => trivial)
    fun _ _ _ _ _ => trivial

/-- In a run in which no TCP connection is closed as a UDP socket the sockets are open. -/
theorem Reached.sound_apart
    (h : Run (halting (networkStep points)) (fun s e => Possible s e ∧ Apart s e)
      Network.init s) : Sound True s := by
  refine (Run.ends (Q := fun _ => True) h ?_ Sound.init).1
  rintro u e hu ⟨hpossible, hapart⟩
  exact hu.step hpossible trivial (fun _ => hapart) (fun _ => trivial) (fun _ _ _ => trivial)
    fun _ _ _ _ _ => trivial

/-- **Sessions and timers.**  In every run the sessions have different sockets, and there is a timer
for each session and none for anything else.  So a session that is registered finds a timer, and
`accept` fails its assertion exactly when all sessions are registered.  If no TCP connection is
closed as a UDP socket, the sockets of the sessions are open. -/
theorem sessions_and_timers (h : Reached points s) :
    (∀ i j k, s.registeredSessions i = some k → s.registeredSessions j = some k → i = j) ∧
      (∀ k, (∃ i, s.registeredSessions i = some k) ↔ ∃ i, (s.timestamps i).socket = some k) ∧
      (∀ e, Possible s e → networkStep points s e ≠ .error .nullTimer) ∧
      (∀ k, k ∉ s.connections → (networkStep points s (.accept k) = .error .assertion ↔
        ∀ i, s.registeredSessions i ≠ none)) ∧
      (Run (halting (networkStep points)) (fun s e => Possible s e ∧ Apart s e) Network.init s →
        ∀ i k, s.registeredSessions i = some k → k ∈ s.connections) := by
  have hsound := h.sound
  refine ⟨?_, ?_, ?_, ?_, ?_⟩
  · obtain ⟨S, hstands, -⟩ := hsound
    exact hstands.1.sessions
  · obtain ⟨S, hstands, -⟩ := hsound
    intro k
    exact (hstands.1.hasSession k).trans (hstands.1.hasTimer k).symm
  · intro e hpossible herror
    have hends : Ends (Sound False) (· ≠ .nullTimer) (networkStep points s e) :=
      hsound.step hpossible (by decide) False.elim (fun _ => by decide) (fun _ _ _ => by decide)
        fun _ _ _ _ _ => by decide
    exact hends.error herror rfl
  · intro k hk
    constructor
    · intro herror
      have hends : Ends (Sound False) (fun e => e = .assertion → ∀ i, s.registeredSessions i ≠ none)
          (networkStep points s (.accept k)) := hsound.accept (fun hfull _ => hfull) hk
      exact hends.error herror rfl
    · intro hfull
      obtain ⟨S, hstands, -⟩ := hsound
      have hsame : ∀ k, Has s.registeredSessions k → Has s.timerSockets k := by
        intro l hl
        rw [hstands.1.hasTimer, ← hstands.1.hasSession]
        exact hl
      have hnone : socketTimerArrayGetSocketTimer s none = none :=
        find_none.2 (full_of_full hstands.1.sessions hsame hfull)
      rw [networkStep, checkAndHandleTcpListenerSocket, if_pos hnone]
  · intro hrun i k hi
    obtain ⟨S, hstands, hopen⟩ := Reached.sound_apart hrun
    exact (hopen trivial).1 k ((hstands.1.hasSession k).1 ⟨i, hi⟩)

/-- A connection that is accepted and registers a session, and the number of a UDP socket that is
closed. -/
theorem sessions_and_timers_one : ∃ s, Reached configured s ∧
    s.registeredSessions ⟨0, by decide⟩ = some 54 ∧
      (∀ k, (∃ i, s.registeredSessions i = some k) ↔ ∃ i, (s.timestamps i).socket = some k) ∧
      ∀ i k, s.registeredSessions i = some k → k ∈ s.connections := by
  have hmeets : execMeets (halting (networkStep configured)) (fun s e => Possible s e ∧ Apart s e)
      Network.init [.accept 54, .received 54 (.registerSession 1 0), .closeUdpSocket 55] := by
    refine ⟨⟨List.not_mem_nil, trivial⟩, ⟨List.mem_cons_self, trivial⟩, ⟨trivial, ?_⟩, trivial⟩
    intro hin
    cases List.mem_singleton.1 hin
  have hrun : Run (halting (networkStep configured)) (fun s e => Possible s e ∧ Apart s e)
      Network.init _ := exec_run hmeets rfl
  have hreached : Reached configured _ := hrun.mono fun _ _ h => h.1
  have h := sessions_and_timers hreached
  exact ⟨_, hreached, rfl, h.2.1, h.2.2.2.2 hrun⟩

end GroundTruth.Encap
