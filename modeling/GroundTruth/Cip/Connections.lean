/-
# The connections of the CIP stack

The connection objects live in pools, one for each application connection type and one for the
explicit connections (`appcontype.c`, `cipclass3connection.c`); `connection_list` holds pointers
to those that are in use, the newest first.  A pointer is a `Slot` here, and the pools are one
function from slots to connection objects.

A node that is taken out of the list is zeroed, its `next` with it.  A loop over the list
therefore goes over the nodes that were there when it began, and is given that list: it passes
over those that have left, and what it does when the node it holds is freed under it stands with
each loop.

Everything that can end in a close returns an `Option`: `none` is a NULL pointer dereferenced.
-/
import Mathlib.Data.Fintype.Sum
import Mathlib.Data.Finset.Card
import Mathlib.Tactic.DeriveFintype
import GroundTruth.Cip.Application

namespace GroundTruth.Cip

/-! ## 1. Connection objects and where they are kept -/

/-- `ConnectionObjectState`, those that this stack sets. -/
inductive ConnectionState
  | nonExistent
  | established
  | timedOut
  deriving DecidableEq, Repr

/-- `ConnectionObjectInstanceType`, those that this stack sets. -/
inductive InstanceType
  | explicitMessaging
  | ioExclusiveOwner
  | ioInputOnly
  | ioListenOnly
  deriving DecidableEq, Repr

/-- `ConnectionObjectConnectionType`. -/
inductive ConnectionType
  | null
  | multicast
  | pointToPoint
  | invalid
  deriving DecidableEq, Repr

/-- `CipConnectionObject`. -/
structure ConnectionObject where
  state : ConnectionState
  instanceType : InstanceType
  /-- the transport class of `transport_class_trigger` is 3 -/
  transportClass3 : Bool
  /-- its direction is server -/
  server : Bool
  connectionSerialNumber : Nat
  originatorVendorId : Nat
  originatorSerialNumber : Nat
  /-- `originator_address` -/
  originatorAddress : Nat
  /-- `associated_encapsulation_session` -/
  encapsulationSession : Nat
  /-- `instance_id` of the consumed, the produced and the configuration path -/
  consumedPoint : Nat
  producedPoint : Nat
  configurationPoint : Nat
  oToTConnectionType : ConnectionType
  tToOConnectionType : ConnectionType
  /-- `consuming_instance` is not NULL -/
  consuming : Bool
  /-- the producing socket is valid -/
  producing : Bool
  /-- `ConnectionObjectCalculateRegularInactivityWatchdogTimerValue` -/
  regularTimeout : UInt64
  inactivityWatchdogTimer : UInt64
  lastPackageWatchdogTimer : UInt64
  deriving DecidableEq, Repr

/-- `ConnectionObjectInitializeEmpty`. -/
def ConnectionObject.empty : ConnectionObject where
  state := .nonExistent
  instanceType := .explicitMessaging
  transportClass3 := false
  server := false
  connectionSerialNumber := 0
  originatorVendorId := 0
  originatorSerialNumber := 0
  originatorAddress := 0
  encapsulationSession := 0
  consumedPoint := 0
  producedPoint := 0
  configurationPoint := 0
  oToTConnectionType := .null
  tToOConnectionType := .null
  consuming := false
  producing := false
  regularTimeout := 0
  inactivityWatchdogTimer := 0
  lastPackageWatchdogTimer := 0

/-- A pointer into one of the pools.  Their sizes are those of `opener_user_conf.h`. -/
inductive Slot
  | exclusiveOwner
  | inputOnly (j : Fin 3)
  | listenOnly (j : Fin 3)
  | explicit (i : Fin 6)
  deriving DecidableEq, Repr, Fintype

/-- `connection_data` of the input only and the listen only connection path, and the pool of the
explicit connections, in the order in which they are searched. -/
def inputOnlyPool : List Slot := (List.finRange 3).map .inputOnly
def listenOnlyPool : List Slot := (List.finRange 3).map .listenOnly
def explicitConnectionObjectPool : List Slot := (List.finRange 6).map .explicit

/-- `kNodesAmount` of `CipConnectionObjectListArrayAllocator`, the nodes the list can have: one for
each explicit connection and one for each connection path. -/
def nodesAmount : Nat := 6 + 1 + 1 + 1

/-- `ConnectionManagerStatistics`, the counters. -/
structure ConnectionManagerStatistics where
  openRequests : UInt16
  openFormatRejects : UInt16
  openResourceRejects : UInt16
  openOtherRejects : UInt16
  closeRequests : UInt16
  closeFormatRequests : UInt16
  closeOtherRequests : UInt16
  connectionTimeouts : UInt16
  deriving DecidableEq, Repr

structure Stack where
  connectionData : Slot → ConnectionObject
  /-- `connection_list` -/
  connectionList : List Slot
  /-- `g_connection_manager_stats` -/
  statistics : ConnectionManagerStatistics
  application : Application

/-- After `CipStackInit`. -/
def Stack.init : Stack where
  connectionData := fun _ => .empty
  connectionList := []
  statistics := ⟨0, 0, 0, 0, 0, 0, 0, 0⟩
  application := applicationInitialization

def Stack.set (c : Slot) (o : ConnectionObject) (s : Stack) : Stack :=
  { s with connectionData := Function.update s.connectionData c o }

/-- `ConnectionObjectSetState`. -/
def Stack.setState (c : Slot) (q : ConnectionState) (s : Stack) : Stack :=
  s.set c { s.connectionData c with state := q }

/-- The call of `CheckIoConnectionEvent`. -/
def Stack.notify (e : IoConnectionEvent) (s : Stack) : Stack :=
  { s with application := checkIoConnectionEvent s.application e }

/-- The first connection of the list with the property. -/
def Stack.search (p : ConnectionObject → Bool) (s : Stack) : Option Slot :=
  s.connectionList.find? fun c => p (s.connectionData c)

/-- All connections of the list with the property. -/
def Stack.select (p : ConnectionObject → Bool) (s : Stack) : List Slot :=
  s.connectionList.filter fun c => p (s.connectionData c)

/-! ## 2. What the searches look for -/

variable (o o' : ConnectionObject)

/-- `ConnectionObjectIsTypeIOConnection`. -/
def isTypeIoConnection : Bool :=
  match o.instanceType with
  | .ioExclusiveOwner | .ioInputOnly | .ioListenOnly => true
  | .explicitMessaging => false

/-- `ConnectionObjectIsTypeNonLOIOConnection`. -/
def isTypeNonLoIoConnection : Bool :=
  match o.instanceType with
  | .ioExclusiveOwner | .ioInputOnly => true
  | .ioListenOnly | .explicitMessaging => false

/-- `ConnectionObjectEqualOriginator`. -/
def equalOriginator : Bool :=
  decide (o.originatorVendorId = o'.originatorVendorId ∧
    o.originatorSerialNumber = o'.originatorSerialNumber)

/-- `EqualConnectionTriad`. -/
def equalConnectionTriad : Bool :=
  decide (o.connectionSerialNumber = o'.connectionSerialNumber ∧
    o.originatorVendorId = o'.originatorVendorId ∧
    o.originatorSerialNumber = o'.originatorSerialNumber)

/-- It is an exclusive owner or an input only connection that does the producing for the multicast
group of its input assembly. -/
def ConnectionObject.isMaster : Bool :=
  decide ((o.instanceType = .ioExclusiveOwner ∨ o.instanceType = .ioInputOnly) ∧
    o.tToOConnectionType = .multicast ∧ o.producing = true)

/-- A connection of the type `type` that produces `point`. -/
def ConnectionObject.isMember (type : InstanceType) (point : Nat) : Bool :=
  decide (o.instanceType = type ∧ o.producedPoint = point)

/-- `GetConnectedOutputAssembly`, which looks at the produced path. -/
def getConnectedOutputAssembly (point : Nat) (s : Stack) : Option Slot :=
  s.search fun o => decide (o.instanceType = .ioExclusiveOwner ∧
    (o.state = .established ∨ o.state = .timedOut) ∧ point = o.producedPoint)

/-- `CheckForExistingConnection`. -/
def checkForExistingConnection (s : Stack) : Option Slot :=
  s.search fun o' => decide (o'.state = .established) && equalConnectionTriad o o'

/-- `GetExistingProducerIoConnection`. -/
def getExistingProducerIoConnection (multicastOnly : Bool) (point : Nat) (s : Stack) :
    Option Slot :=
  s.search fun o => isTypeIoConnection o && decide (point = o.producedPoint ∧ o.producing = true ∧
    (o.tToOConnectionType = .multicast ∨
      multicastOnly = false ∧ o.tToOConnectionType = .pointToPoint))

/-- What `GetNextNonControlMasterConnection` looks for. -/
def isNextMaster (point : Nat) (o : ConnectionObject) : Bool :=
  isTypeNonLoIoConnection o && decide (o.state = .established ∧ point = o.producedPoint ∧
    o.tToOConnectionType = .multicast ∧ o.producing = false)

/-- `GetNextNonControlMasterConnection`. -/
def getNextNonControlMasterConnection (point : Nat) (s : Stack) : Option Slot :=
  s.search (isNextMaster point)

end GroundTruth.Cip
