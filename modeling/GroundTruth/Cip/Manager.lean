/-
# The connection manager

`ForwardOpen` and `ForwardClose` (`cipconnectionmanager.c`), the search for a slot
(`appcontype.c`), the opening of a connection (`cipioconnection.c`, `cipclass3connection.c`) and
the watchdogs of `ManageConnections`; and the machine that they make, `stackStep`.

A request comes as what `ConnectionObjectInitializeFromMessage` and `ParseConnectionPath` make of
the message, with the verdicts that depend on the rest of it: whether the path can be parsed, and
whether the production inhibit time, the sizes, the other producers' parameters, the configuration
data and the addresses are accepted once a slot has been found.

The points of the three application connection paths are a parameter: `configured` are those of
`ApplicationInitialization`, but the stack's code is the same for all of them.
-/
import GroundTruth.Lib.Run
import GroundTruth.Cip.Close

namespace GroundTruth.Cip

open GroundTruth.Lib

/-! ## 1. Requests and replies -/

/-- `ConnectionManagerExtendedStatusCode`, those that are decided here. -/
inductive ExtendedStatus
  | success
  | connectionInUseOrDuplicateForwardOpen
  | transportClassAndTriggerCombinationNotSupported
  | ownershipConflict
  | targetConnectionNotFound
  | noMoreConnectionsAvailable
  | nonListenOnlyConnectionNotOpened
  | targetObjectOutOfConnections
  | invalidOToTConnectionType
  | invalidTToOConnectionType
  | invalidProducingApplicationPath
  | inconsistentApplicationPathCombo
  | nullForwardOpenNotSupported
  | invalidSegmentTypeInPath
  | notConfiguredForOffSubnetMulticast
  | wrongCloser
  | other (code : Nat)
  deriving DecidableEq, Repr

/-- A Forward Open is answered with success, or with a failure and its extended status. -/
inductive Reply
  | opened
  | refused (status : ExtendedStatus)
  deriving DecidableEq, Repr

structure ForwardOpenRequest where
  /-- `g_dummy_connection_object` once the message has been read -/
  connection : ConnectionObject
  /-- the originator is in the subnet of the interface -/
  onSubnet : Bool
  /-- the production trigger is a valid one -/
  triggerValid : Bool
  /-- what is wrong with the segments of the connection path -/
  pathError : Option ExtendedStatus
  /-- the class of the configuration path -/
  classId : Nat
  /-- what is wrong with the rest, if anything; `success` if a channel cannot be opened -/
  setupError : Option ExtendedStatus
  deriving DecidableEq, Repr

structure ForwardCloseRequest where
  connectionSerialNumber : Nat
  originatorVendorId : Nat
  originatorSerialNumber : Nat
  originatorAddress : Nat
  deriving DecidableEq, Repr

/-- The points of one application connection path. -/
structure ConnectionPath where
  outputAssembly : Nat
  inputAssembly : Nat
  configAssembly : Nat
  deriving DecidableEq, Repr

structure ConnectionPoints where
  exclusiveOwner : ConnectionPath
  inputOnly : ConnectionPath
  listenOnly : ConnectionPath
  deriving DecidableEq, Repr

/-- `DEMO_APP_OUTPUT_ASSEMBLY_NUM`, `DEMO_APP_INPUT_ASSEMBLY_NUM` and
`DEMO_APP_CONFIG_ASSEMBLY_NUM`, for all three. -/
def configured : ConnectionPoints := ⟨⟨150, 100, 151⟩, ⟨150, 100, 151⟩, ⟨150, 100, 151⟩⟩

def kCipMessageRouterClassCode : Nat := 0x02
def kCipAssemblyClassCode : Nat := 0x04

/-! ## 2. The search for a slot -/

/-- What the search for a slot comes to: a free slot, the slot of a connection that has timed out
and is closed for it, or NULL and the extended error. -/
inductive Choice
  | take (c : Slot)
  | reopen (c : Slot)
  | refuse (error : ExtendedStatus)
  deriving DecidableEq, Repr

/-- `GetExclusiveOwnerConnection`. -/
def getExclusiveOwnerConnection (path : ConnectionPath) (o : ConnectionObject) (s : Stack) :
    Choice :=
  if path.outputAssembly = o.consumedPoint ∧ path.inputAssembly = o.producedPoint ∧
      (path.configAssembly = o.configurationPoint ∨ 0 = o.configurationPoint) then
    match getConnectedOutputAssembly o.producedPoint s with
    | none => .take .exclusiveOwner
    | some owner =>
      if (s.connectionData owner).state = .established then .refuse .ownershipConflict
      else if (s.connectionData owner).state = .timedOut ∧
          equalOriginator o (s.connectionData owner) = true then .reopen .exclusiveOwner
      else .refuse .ownershipConflict
  else .refuse .success

/-- `GetInputOnlyConnection` and `GetListenOnlyConnection`, but for what the second looks at before
it searches its pool. -/
def getPoolConnection (path : ConnectionPath) (pool : List Slot)
    (unavailable : Option ExtendedStatus) (o : ConnectionObject) (s : Stack) : Choice :=
  if path.outputAssembly ≠ o.consumedPoint then .refuse .success
  else if path.inputAssembly ≠ o.producedPoint then .refuse .invalidProducingApplicationPath
  else if path.configAssembly ≠ o.configurationPoint ∧ 0 ≠ o.configurationPoint then
    .refuse .inconsistentApplicationPathCombo
  else
    match unavailable with
    | some error => .refuse error
    | none =>
      match pool.find? (fun c => decide ((s.connectionData c).state = .timedOut) &&
          equalOriginator o (s.connectionData c)) with
      | some c => .reopen c
      | none =>
        match pool.find? (fun c => decide ((s.connectionData c).state = .nonExistent)) with
        | some c => .take c
        | none => .refuse .targetObjectOutOfConnections

/-- `GetInputOnlyConnection`. -/
def getInputOnlyConnection (path : ConnectionPath) (o : ConnectionObject) (s : Stack) : Choice :=
  getPoolConnection path inputOnlyPool none o s

/-- `GetListenOnlyConnection`. -/
def getListenOnlyConnection (path : ConnectionPath) (o : ConnectionObject) (s : Stack) : Choice :=
  getPoolConnection path listenOnlyPool
    (if getExistingProducerIoConnection false o.producedPoint s = none then
      some .nonListenOnlyConnectionNotOpened else none) o s

/-- NULL without an error: the next kind of connection is tried. -/
def Choice.orElse : Choice → Choice → Choice
  | .refuse .success, next => next
  | choice, _ => choice

/-- The search of `GetIoConnectionForConnectionData`. -/
def chooseIoConnection (points : ConnectionPoints) (o : ConnectionObject) (s : Stack) : Choice :=
  (getExclusiveOwnerConnection points.exclusiveOwner o s).orElse <|
  (getInputOnlyConnection points.inputOnly o s).orElse <|
  (getListenOnlyConnection points.listenOnly o s).orElse <|
  .refuse .inconsistentApplicationPathCombo

/-- The instance type that goes with the pool. -/
def Slot.instanceType : Slot → InstanceType
  | .exclusiveOwner => .ioExclusiveOwner
  | .inputOnly _ => .ioInputOnly
  | .listenOnly _ => .ioListenOnly
  | .explicit _ => .explicitMessaging

/-- The copy of the request that goes into the slot `c`.  `ConnectionObjectInitializeFromMessage`
has set the state to NonExistent, until the setup is done. -/
def ConnectionObject.copyTo (c : Slot) (o : ConnectionObject) : ConnectionObject :=
  { o with state := .nonExistent, instanceType := c.instanceType }

/-- `GetIoConnectionForConnectionData`: the slot, with the request copied into it.  The connection
that has timed out is closed by the function that finds it, as the last thing it does. -/
def getIoConnectionForConnectionData (points : ConnectionPoints) (o : ConnectionObject)
    (s : Stack) : Option (Except ExtendedStatus Slot × Stack) :=
  match chooseIoConnection points o s with
  | .take c => some (.ok c, s.set c (o.copyTo c))
  | .reopen c => (connectionCloseFunction c s).map fun t => (.ok c, t.set c (o.copyTo c))
  | .refuse error => some (.error error, s)

/-! ## 3. Opening -/

/-- `AddNewActiveConnection`.  With no node left `DoublyLinkedListNodeCreate` writes through the
NULL pointer it gets. -/
def addNewActiveConnection (c : Slot) (s : Stack) : Option Stack :=
  if s.connectionList.length < nodesAmount then
    some ({ s with connectionList := c :: s.connectionList }.setState c .established)
  else none

/-- `OpenProducingMulticastConnection`.  An exclusive owner takes the socket of a producer that is
there already; other connections leave the producing to it. -/
def openProducingMulticastConnection (c : Slot) (s : Stack) : Stack :=
  let o := s.connectionData c
  match getExistingProducerIoConnection true o.producedPoint s with
  | none => s.set c { o with producing := true }
  | some existing =>
    if o.instanceType = .ioExclusiveOwner then
      (s.set c { o with producing := (s.connectionData existing).producing }).set existing
        { s.connectionData existing with producing := false }
    else s.set c { o with producing := false }

/-- `OpenCommunicationChannels`, the producing side, where `CreateUdpSocket` succeeds: that a socket
cannot be created, which refuses the request, is left out. -/
def openCommunicationChannels (c : Slot) (s : Stack) : Stack :=
  match (s.connectionData c).tToOConnectionType with
  | .multicast => openProducingMulticastConnection c s
  | .pointToPoint => s.set c { s.connectionData c with producing := true }
  | .null | .invalid => s

/-- What `ConnectionObjectGeneralConfiguration` and the setup of the consuming side make of the
connection object. -/
def ConnectionObject.configure (o : ConnectionObject) : ConnectionObject :=
  { o with producing := false, consuming := decide (o.oToTConnectionType ≠ .null) }

/-- `EstablishIoConnection`. -/
def establishIoConnection (points : ConnectionPoints) (r : ForwardOpenRequest) (s : Stack) :
    Option (Reply × Stack) :=
  (getIoConnectionForConnectionData points r.connection s).bind fun (slot, s) =>
  match slot with
  | .error error => some (.refused error, s)
  | .ok c =>
    match r.setupError with
    | some error => some (.refused error, s)
    | none =>
      (addNewActiveConnection c
        (openCommunicationChannels c (s.set c (s.connectionData c).configure))).map fun s =>
          (.opened, s.notify .opened)

/-- `EstablishClass3Connection`. -/
def establishClass3Connection (o : ConnectionObject) (s : Stack) : Option (Reply × Stack) :=
  match explicitConnectionObjectPool.find?
      (fun c => decide ((s.connectionData c).state = .nonExistent)) with
  | none => some (.refused .noMoreConnectionsAvailable, s)
  | some c =>
    (addNewActiveConnection c (s.set c { o.copyTo c with
      consuming := false, producing := false })).map fun s => (.opened, s)

/-! ## 4. The services -/

/-- `ParseConnectionPath`: class 3 connections end at the message router. -/
def parseConnectionPath (r : ForwardOpenRequest) : Option ExtendedStatus :=
  match r.pathError with
  | some error => some error
  | none =>
    if r.connection.transportClass3 = true ∧ r.classId ≠ kCipMessageRouterClassCode then
      some .inconsistentApplicationPathCombo
    else none

/-- The open function that is registered for the class. -/
def openConnectionFunction (points : ConnectionPoints) (r : ForwardOpenRequest) (s : Stack) :
    Option (Reply × Stack) :=
  if r.classId = kCipMessageRouterClassCode then establishClass3Connection r.connection s
  else if r.classId = kCipAssemblyClassCode then establishIoConnection points r s
  else some (.refused .inconsistentApplicationPathCombo, s)

/-- The counter that an open function's reply counts in. -/
def countReply (reply : Reply) (n : ConnectionManagerStatistics) : ConnectionManagerStatistics :=
  match reply with
  | .opened => { n with openRequests := n.openRequests + 1 }
  | .refused .invalidSegmentTypeInPath => { n with openFormatRejects := n.openFormatRejects + 1 }
  | .refused .connectionInUseOrDuplicateForwardOpen | .refused .ownershipConflict
  | .refused .targetObjectOutOfConnections =>
    { n with openResourceRejects := n.openResourceRejects + 1 }
  | .refused _ => { n with openOtherRejects := n.openOtherRejects + 1 }

/-- What `ForwardOpenRoutine` and the handler that it chooses object to before they open anything:
the connection types, a null request, a matching one, the trigger, the path. -/
def refusal (r : ForwardOpenRequest) (s : Stack) : Option ExtendedStatus :=
  let o := r.connection
  if o.oToTConnectionType = .invalid then some .invalidOToTConnectionType
  else if o.tToOConnectionType = .invalid then some .invalidTToOConnectionType
  else if o.tToOConnectionType = .multicast ∧ r.onSubnet = false then
    some .notConfiguredForOffSubnetMulticast
  else if o.oToTConnectionType = .null ∧ o.tToOConnectionType = .null then
    some .nullForwardOpenNotSupported
  else if (checkForExistingConnection o s).isSome = true then
    some .connectionInUseOrDuplicateForwardOpen
  else if r.triggerValid = false then some .transportClassAndTriggerCombinationNotSupported
  else parseConnectionPath r

/-- `ForwardOpenRoutine`.  Only what an open function answers is counted. -/
def forwardOpen (points : ConnectionPoints) (r : ForwardOpenRequest) (s : Stack) :
    Option (Reply × Stack) :=
  match refusal r s with
  | some error => some (.refused error, s)
  | none =>
    (openConnectionFunction points r s).map fun (reply, s) =>
      (reply, { s with statistics := countReply reply s.statistics })

/-- The connection `ForwardClose` is about. -/
def ForwardCloseRequest.target (r : ForwardCloseRequest) (s : Stack) : Option Slot :=
  s.search fun o => decide ((o.state = .established ∨ o.state = .timedOut) ∧
    o.connectionSerialNumber = r.connectionSerialNumber ∧
    o.originatorVendorId = r.originatorVendorId ∧
    o.originatorSerialNumber = r.originatorSerialNumber)

/-- `ForwardClose`. -/
def forwardClose (r : ForwardCloseRequest) (s : Stack) : Option (ExtendedStatus × Stack) :=
  match r.target s with
  | none =>
    some (.targetConnectionNotFound, { s with statistics :=
      { s.statistics with closeOtherRequests := s.statistics.closeOtherRequests + 1 } })
  | some c =>
    if r.originatorAddress = (s.connectionData c).originatorAddress then
      (connectionCloseFunction c s).map fun s =>
        (.success, { s with statistics :=
          { s.statistics with closeRequests := s.statistics.closeRequests + 1 } })
    else
      some (.wrongCloser, { s with statistics :=
        { s.statistics with closeFormatRequests := s.statistics.closeFormatRequests + 1 } })

/-! ## 5. The watchdogs -/

/-- The watchdog of the connection has run out. -/
def expired (elapsedTime : UInt64) (o : ConnectionObject) : Bool :=
  decide (o.state = .established ∧ (o.consuming = true ∨ o.server = true) ∧
    elapsedTime ≥ o.inactivityWatchdogTimer)

/-- `ManageConnections`, for one connection.  What it sends is left out. -/
def manageConnection (elapsedTime : UInt64) (sessions : List Nat) (c : Slot) (s : Stack) :
    Option Stack :=
  let o := s.connectionData c
  if expired elapsedTime o = true then
    connectionTimeoutFunction sessions c { s with statistics :=
      { s.statistics with connectionTimeouts := s.statistics.connectionTimeouts + 1 } }
  else if o.state = .established ∧ (o.consuming = true ∨ o.server = true) then
    some (s.set c { o with
      inactivityWatchdogTimer := o.inactivityWatchdogTimer - elapsedTime
      lastPackageWatchdogTimer := o.lastPackageWatchdogTimer - elapsedTime })
  else some s

/-- `ManageConnections`, over the nodes still to visit.  When the node of the connection is freed,
its `next` is gone and the loop ends. -/
def manageConnections (elapsedTime : UInt64) (sessions : Slot → List Nat) :
    List Slot → Stack → Option Stack
  | [], s => some s
  | c :: nodes, s =>
    if c ∈ s.connectionList then
      (manageConnection elapsedTime (sessions c) c s).bind fun t =>
        if c ∈ t.connectionList then manageConnections elapsedTime sessions nodes t else some t
    else manageConnections elapsedTime sessions nodes s

/-- `HandleReceivedConnectedData` for an established connection; `fresh` is its sequence count
being newer than the last. -/
def handleReceivedConnectedData (c : Slot) (fresh : Bool) (s : Stack) : Stack :=
  let o := s.connectionData c
  if o.state = .established then
    s.set c { o with
      lastPackageWatchdogTimer := o.regularTimeout
      inactivityWatchdogTimer :=
        if fresh = true then o.regularTimeout else o.inactivityWatchdogTimer }
  else s

/-! ## 6. The machine -/

inductive Event
  | forwardOpen (r : ForwardOpenRequest)
  | forwardClose (r : ForwardCloseRequest)
  /-- `ManageConnections` comes to a connection of the list -/
  | manageConnection (c : Slot) (elapsedTime : UInt64) (sessions : List Nat)
  | receivedConnectedData (c : Slot) (fresh : Bool)
  /-- an encapsulation session ends -/
  | closeSession (session : Nat)
  | closeAllConnections
  | linkUp
  | linkDown
  deriving DecidableEq, Repr

def stackStep (points : ConnectionPoints) (s : Stack) : Event → Option Stack
  | .forwardOpen r => (forwardOpen points r s).map Prod.snd
  | .forwardClose r => (forwardClose r s).map Prod.snd
  | .manageConnection c elapsedTime sessions =>
    if c ∈ s.connectionList then manageConnection elapsedTime sessions c s else none
  | .receivedConnectedData c fresh => some (handleReceivedConnectedData c fresh s)
  | .closeSession session => closeClass3ConnectionBasedOnSession session s
  | .closeAllConnections => Cip.closeAllConnections s
  | .linkUp => some { s with application := notifyLinkUp s.application }
  | .linkDown => some { s with application := notifyLinkDown s.application }

/-- A pass of `ManageConnections` is a run of the machine. -/
theorem manageConnections_reach {points : ConnectionPoints} {elapsedTime : UInt64}
    {sessions : Slot → List Nat} {nodes : List Slot} {s t : Stack}
    (h : manageConnections elapsedTime sessions nodes s = some t) :
    Reach (stackStep points) s t := by
  induction nodes generalizing s with
  | nil =>
    obtain rfl := Option.some.inj h
    exact .refl s
  | cons c nodes ih =>
    rw [manageConnections] at h
    by_cases hin : c ∈ s.connectionList
    · rw [if_pos hin] at h
      obtain ⟨u, hu, hrest⟩ := Option.bind_eq_some_iff.1 h
      have hstep : stackStep points s (.manageConnection c elapsedTime (sessions c)) = some u := by
        rw [stackStep, if_pos hin]
        exact hu
      have hfirst : Reach (stackStep points) s u := (Run.refl s).tail trivial hstep
      by_cases hstays : c ∈ u.connectionList
      · rw [if_pos hstays] at hrest
        exact hfirst.trans (ih hrest)
      · rw [if_neg hstays] at hrest
        obtain rfl := Option.some.inj hrest
        exact hfirst
    · rw [if_neg hin] at h
      exact ih h

end GroundTruth.Cip
