/-
# The sample application: what it hears of the connections and of the link

`sampleapplication.c` counts the I/O connections by the events it gets through
`CheckIoConnectionEvent` and drives the Identity object from the count.
-/
import Mathlib.Tactic.Common

namespace GroundTruth.Cip

/-- `CipIdentityState`. -/
inductive IdentityState
  | selfTesting
  | standby
  | operational
  | majorRecoverableFault
  | majorUnrecoverableFault
  deriving DecidableEq, Repr

/-- `CipIdentityExtendedStatus`. -/
inductive ExtendedDeviceStatus
  | selftestingUnknown
  | noIoConnectionsEstablished
  | majorFault
  | atLeastOneIoConnectionInRunMode
  | atLeastOneIoConnectionEstablishedAllInIdleMode
  deriving DecidableEq, Repr

/-- `IoConnectionEvent`. -/
inductive IoConnectionEvent
  | opened
  | timedOut
  | closed
  deriving DecidableEq, Repr

structure Application where
  /-- `s_active_io_connections` -/
  activeIoConnections : Nat
  /-- `s_io_activity_seen` -/
  ioActivitySeen : Bool
  /-- `g_identity.state` -/
  identityState : IdentityState
  /-- `g_identity.ext_status` -/
  extStatus : ExtendedDeviceStatus
  /-- the two fault flags of `g_identity.status` -/
  majorRecoverableFault : Bool
  majorUnrecoverableFault : Bool
  /-- the interface state of Ethernet Link instance 1 -/
  interfaceEnabled : Bool
  deriving DecidableEq, Repr

variable (a : Application)

/-- `IdentityEnter`. -/
def identityEnter (state : IdentityState) (ext : ExtendedDeviceStatus) : Application :=
  { a with identityState := state, extStatus := ext }

/-- `CipIdentityClearStatusFlags`, of both fault flags. -/
def clearFaults : Application :=
  { a with majorRecoverableFault := false, majorUnrecoverableFault := false }

/-- `IdentityFlagFault`. -/
def identityFlagFault (fatal : Bool) : Application :=
  if fatal = true then
    identityEnter { a with majorUnrecoverableFault := true } .majorUnrecoverableFault .majorFault
  else identityEnter { a with majorRecoverableFault := true } .majorRecoverableFault .majorFault

/-- `SampleApplicationNotifyLinkUp`. -/
def notifyLinkUp : Application :=
  identityEnter { clearFaults a with interfaceEnabled := true } .standby
    (if a.activeIoConnections > 0 then .atLeastOneIoConnectionEstablishedAllInIdleMode
      else .noIoConnectionsEstablished)

/-- `SampleApplicationNotifyLinkDown`. -/
def notifyLinkDown : Application :=
  identityFlagFault
    { a with activeIoConnections := 0, interfaceEnabled := false, ioActivitySeen := false } false

/-- `CheckIoConnectionEvent`.  The counter stops at zero. -/
def checkIoConnectionEvent : IoConnectionEvent → Application
  | .opened =>
    let opened := { a with activeIoConnections := a.activeIoConnections + 1 }
    if a.activeIoConnections = 0 then
      identityEnter opened .standby .atLeastOneIoConnectionEstablishedAllInIdleMode
    else opened
  | .timedOut | .closed =>
    let closed := { a with activeIoConnections := a.activeIoConnections - 1 }
    if closed.activeIoConnections = 0 then
      identityEnter { closed with ioActivitySeen := false } .standby .noIoConnectionsEstablished
    else closed

/-- What `IdentityNoteIoActivity` does before it enters Operational: whether it goes on, and the
flag it sets. -/
def notesIoActivity : Bool := decide (a.activeIoConnections > 0)
def noteIoActivity : Application := { a with ioActivitySeen := true }

/-- The entry it ends with. -/
def enterOperational : Application :=
  identityEnter a .operational .atLeastOneIoConnectionInRunMode

/-- What `ResetDevice` and `ResetDeviceToInitialConfiguration` leave of all this. -/
def resetApplication : Application :=
  identityEnter
    { clearFaults a with
      activeIoConnections := 0, interfaceEnabled := false, ioActivitySeen := false }
    .selfTesting .selftestingUnknown

/-- What `ApplicationInitialization` leaves of all this. -/
def applicationInitialization : Application where
  activeIoConnections := 0
  ioActivitySeen := false
  identityState := .standby
  extStatus := .noIoConnectionsEstablished
  majorRecoverableFault := false
  majorUnrecoverableFault := false
  interfaceEnabled := false

/-- At power-on. -/
def Application.powerOn : Application where
  activeIoConnections := 0
  ioActivitySeen := false
  identityState := .selfTesting
  extStatus := .selftestingUnknown
  majorRecoverableFault := false
  majorUnrecoverableFault := false
  interfaceEnabled := false

variable {a}

@[simp] theorem opened_active :
    (checkIoConnectionEvent a .opened).activeIoConnections = a.activeIoConnections + 1 := by
  unfold checkIoConnectionEvent
  dsimp only
  split
  · rfl
  · rfl

@[simp] theorem timedOut_active :
    (checkIoConnectionEvent a .timedOut).activeIoConnections = a.activeIoConnections - 1 := by
  unfold checkIoConnectionEvent
  dsimp only
  split
  · rfl
  · rfl

@[simp] theorem closed_active :
    (checkIoConnectionEvent a .closed).activeIoConnections = a.activeIoConnections - 1 :=
  timedOut_active

/-- **An event** enters Standby, or leaves the state and a counter that was not zero and is not
zero now. -/
theorem checkIoConnectionEvent_cases (a : Application) (e : IoConnectionEvent) :
    (checkIoConnectionEvent a e).identityState = .standby ∨
      (checkIoConnectionEvent a e).identityState = a.identityState ∧
        0 < a.activeIoConnections ∧ 0 < (checkIoConnectionEvent a e).activeIoConnections := by
  have hlower : ∀ e, e = .timedOut ∨ e = .closed →
      (checkIoConnectionEvent a e).identityState = .standby ∨
        (checkIoConnectionEvent a e).identityState = a.identityState ∧
          0 < a.activeIoConnections ∧ 0 < (checkIoConnectionEvent a e).activeIoConnections := by
    intro e he
    by_cases hlast : a.activeIoConnections - 1 = 0
    · refine Or.inl ?_
      rcases he with rfl | rfl
      · rw [checkIoConnectionEvent, if_pos hlast]
        rfl
      · rw [checkIoConnectionEvent, if_pos hlast]
        rfl
    · have hcount : 0 < a.activeIoConnections - 1 := Nat.pos_of_ne_zero hlast
      refine Or.inr ⟨?_, Nat.lt_of_lt_of_le hcount (Nat.sub_le _ _), ?_⟩
      · rcases he with rfl | rfl
        · rw [checkIoConnectionEvent, if_neg hlast]
        · rw [checkIoConnectionEvent, if_neg hlast]
      · rcases he with rfl | rfl
        · rw [timedOut_active]
          exact hcount
        · rw [closed_active]
          exact hcount
  cases e with
  | opened =>
    by_cases hfirst : a.activeIoConnections = 0
    · refine Or.inl ?_
      rw [checkIoConnectionEvent, if_pos hfirst]
      rfl
    · refine Or.inr ⟨?_, Nat.pos_of_ne_zero hfirst, ?_⟩
      · rw [checkIoConnectionEvent, if_neg hfirst]
      · rw [opened_active]
        exact Nat.succ_pos _
  | timedOut => exact hlower _ (Or.inl rfl)
  | closed => exact hlower _ (Or.inr rfl)

end GroundTruth.Cip
