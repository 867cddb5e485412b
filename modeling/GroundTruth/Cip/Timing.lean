/-
# Time on a connection

The stack keeps time by counting down.  `NetworkHandlerProcessCyclic` (`generic_networkhandler.c`)
adds up the milliseconds that have passed, and when a tick of ten is full it hands them to
`ManageConnections` (`cipconnectionmanager.c`), which takes them from the watchdog and the
transmission timer of each connection.  The readings wrap, the handler may be late, and a timer that
is set between two ticks has the whole of the later one taken from it.

Above it a connection has two times: one by which it has to hear something, and one at which it is
to produce (`Deadlines`).  They never count, they only move when something happens.

* `run_deadlines`: what counts down is the time until these;
* `timed_out_iff`: when exactly a connection times out;
* `no_drift`: how many packets are produced;
* `triggered_silent`: a connection that is triggered too often produces nothing.
-/
import Mathlib.Algebra.GroupWithZero.Nat
import Mathlib.Data.List.Basic
import Mathlib.Tactic.Common
import GroundTruth.Lib.Run

namespace GroundTruth.Cip.Timing

open GroundTruth.Lib

/-! ## 1. The clock -/

def kOpenerTimerTickInMilliSeconds : UInt32 := 10

/-- `portTICK_PERIOD_MS`. -/
def portTickPeriodMs : UInt32 := 10

/-- `GetMilliSeconds`, of the tick count. -/
def getMilliSeconds (tickCount : UInt32) : UInt32 := tickCount * portTickPeriodMs

/-- `g_last_time` and `g_network_status.elapsed_time`. -/
structure Clock where
  lastTime : UInt32
  elapsedTime : UInt32
  deriving DecidableEq, Repr

/-- The end of `NetworkHandlerProcessCyclic`: what `ManageConnections` is called with, if it is. -/
def Clock.cycle (now : UInt32) (k : Clock) : Option UInt32 × Clock :=
  let elapsedTime := k.elapsedTime + (now - k.lastTime)
  if kOpenerTimerTickInMilliSeconds ≤ elapsedTime then (some elapsedTime, ⟨now, 0⟩)
  else (none, ⟨now, elapsedTime⟩)

/-! ## 2. The timers of a connection -/

/-- `ConnectionObjectTransportClassTriggerProductionTrigger`. -/
inductive ProductionTrigger
  | cyclic
  | changeOfState
  | applicationObject
  deriving DecidableEq, Repr

/-- What `CipConnectionObject` says about time. -/
structure Connection where
  /-- in microseconds -/
  oToTRequestedPacketInterval : UInt32
  tToORequestedPacketInterval : UInt32
  connectionTimeoutMultiplier : UInt8
  productionInhibitTime : UInt16
  productionTrigger : ProductionTrigger
  /-- `consuming_instance` is not NULL, or the direction is server -/
  watched : Bool
  /-- the producing socket is valid -/
  producing : Bool
  deriving DecidableEq, Repr

structure Timers where
  transmissionTriggerTimer : UInt64
  inactivityWatchdogTimer : UInt64
  lastPackageWatchdogTimer : UInt64
  productionInhibitTimer : UInt64
  deriving DecidableEq, Repr

namespace Connection

/-- `ConnectionObjectGetRequestedPacketInterval`, in milliseconds. -/
def requestedPacketInterval (c : Connection) : UInt16 :=
  let remainder := c.tToORequestedPacketInterval % (kOpenerTimerTickInMilliSeconds * 1000)
  if remainder = 0 then (c.tToORequestedPacketInterval / 1000).toUInt16
  else (c.tToORequestedPacketInterval / 1000 - remainder / 1000).toUInt16

/-- `ConnectionObjectSetExpectedPacketRate`. -/
def expectedPacketRate (c : Connection) : UInt16 :=
  let remainder := c.tToORequestedPacketInterval % (kOpenerTimerTickInMilliSeconds * 1000)
  if remainder = 0 then (c.tToORequestedPacketInterval / 1000).toUInt16
  else (c.tToORequestedPacketInterval / 1000 +
    (kOpenerTimerTickInMilliSeconds - remainder / 1000)).toUInt16

/-- `ConnectionObjectCalculateRegularInactivityWatchdogTimerValue`. -/
def regularTimeout (c : Connection) : UInt64 :=
  (c.oToTRequestedPacketInterval.toUInt64 / 1000) <<< (2 + c.connectionTimeoutMultiplier.toUInt64)

/-- `ConnectionObjectSetInitialInactivityWatchdogTimerValue`. -/
def initialTimeout (c : Connection) : UInt64 :=
  if 10000 < c.regularTimeout then c.regularTimeout else 10000

/-- It is one of those that `ManageConnections` lets produce. -/
def produces (c : Connection) : Bool := decide (c.expectedPacketRate ≠ 0) && c.producing

/-- The timers of a connection that has been opened: `ConnectionObjectInitializeFromMessage` and
`ConnectionObjectGeneralConfiguration`. -/
def opened (c : Connection) : Timers where
  transmissionTriggerTimer := 0
  inactivityWatchdogTimer := c.initialTimeout
  lastPackageWatchdogTimer := 0
  productionInhibitTimer := c.productionInhibitTime.toUInt64

/-- The part of `ManageConnections` that produces: whether data are sent, and the timers. -/
def produce (c : Connection) (elapsedTime : UInt32) (t : Timers) : Bool × Timers :=
  let elapsed := elapsedTime.toUInt64
  if c.produces = true then
    let inhibit :=
      if c.productionTrigger ≠ .cyclic ∧ ¬elapsed ≤ t.productionInhibitTimer then
        t.productionInhibitTimer - elapsed
      else t.productionInhibitTimer
    if t.transmissionTriggerTimer ≤ elapsed then
      let next := t.transmissionTriggerTimer + c.requestedPacketInterval.toUInt64
      (true, { t with
        transmissionTriggerTimer := if elapsed < next then next - elapsed else 0
        productionInhibitTimer :=
          if c.productionTrigger ≠ .cyclic then c.productionInhibitTime.toUInt64 else inhibit })
    else
      (false, { t with
        transmissionTriggerTimer := t.transmissionTriggerTimer - elapsed
        productionInhibitTimer := inhibit })
  else (false, t)

/-- `ManageConnections`, for one established connection; `none` if it times out. -/
def manage (c : Connection) (elapsedTime : UInt32) (t : Timers) : Option (Bool × Timers) :=
  if c.watched = true then
    if t.inactivityWatchdogTimer ≤ elapsedTime.toUInt64 then none
    else some (c.produce elapsedTime { t with
      inactivityWatchdogTimer := t.inactivityWatchdogTimer - elapsedTime.toUInt64
      lastPackageWatchdogTimer := t.lastPackageWatchdogTimer - elapsedTime.toUInt64 })
  else some (c.produce elapsedTime t)

/-- `HandleReceivedConnectedData`; `fresh` is a sequence number newer than the last. -/
def received (c : Connection) (fresh : Bool) (t : Timers) : Timers :=
  { t with
    lastPackageWatchdogTimer := c.regularTimeout
    inactivityWatchdogTimer :=
      if fresh = true then c.regularTimeout else t.inactivityWatchdogTimer }

/-- `TriggerConnections`, when it finds this connection. -/
def triggered (c : Connection) (t : Timers) : Timers :=
  if c.productionTrigger = .applicationObject then
    { t with transmissionTriggerTimer := c.productionInhibitTime.toUInt64 }
  else t

end Connection

/-! ## 3. The connection as time goes on -/

inductive Event
  | received (fresh : Bool)
  | triggered
  /-- a cycle of the network handler ends, that many milliseconds after some origin -/
  | cycle (time : Nat)
  deriving DecidableEq, Repr

structure State where
  clock : Clock
  timers : Timers
  /-- how often data have been sent -/
  sent : Nat
  deriving DecidableEq, Repr

/-- A cycle with that reading of the clock; `none` if the connection times out. -/
def State.cycle (c : Connection) (now : UInt32) (s : State) : Option State :=
  match s.clock.cycle now with
  | (none, clock) => some { s with clock }
  | (some elapsedTime, clock) =>
    (c.manage elapsedTime s.timers).map fun
      | (sends, timers) => ⟨clock, timers, if sends = true then s.sent + 1 else s.sent⟩

def step (c : Connection) (s : State) : Event → Option State
  | .received fresh => some { s with timers := c.received fresh s.timers }
  | .triggered => some { s with timers := c.triggered s.timers }
  | .cycle time => s.cycle c (.ofNat time)

/-- The readings of the clock follow the time: a cycle at a tick count of the operating system is
one at ten times as many milliseconds. -/
theorem step_ticks (c : Connection) (s : State) (tickCount : Nat) :
    step c s (.cycle (tickCount * 10)) = s.cycle c (getMilliSeconds (.ofNat tickCount)) :=
  congrArg (s.cycle c) (UInt32.ofNat_mul tickCount 10)

/-! ## 4. Deadlines -/

/-- What is to happen when. -/
structure Deadlines where
  /-- when the connections were last managed -/
  managed : Nat
  /-- when the last cycle ended -/
  last : Nat
  /-- when the connection times out -/
  timeout : Nat
  /-- when it is to produce -/
  due : Nat
  sent : Nat
  deriving DecidableEq, Repr

/-- The connections are managed at that time. -/
def Deadlines.Ticks (d : Deadlines) (time : Nat) : Prop := d.managed + 10 ≤ time

instance (d : Deadlines) (time : Nat) : Decidable (d.Ticks time) :=
  inferInstanceAs (Decidable (_ ≤ _))

/-- Production when it is due; what is late is not made up for. -/
def Deadlines.produce (c : Connection) (d : Deadlines) (time : Nat) : Deadlines :=
  if c.produces = true ∧ d.due ≤ time then
    { d with due := max (d.due + c.requestedPacketInterval.toNat) time, sent := d.sent + 1 }
  else d

/-- What an event does to the times.  They are reckoned from the last tick. -/
def Deadlines.after (c : Connection) (d : Deadlines) : Event → Deadlines
  | .received fresh =>
    if fresh = true then { d with timeout := d.managed + c.regularTimeout.toNat } else d
  | .triggered =>
    if c.productionTrigger = .applicationObject then
      { d with due := d.managed + c.productionInhibitTime.toNat }
    else d
  | .cycle time =>
    if d.Ticks time then { d.produce c time with managed := time, last := time }
    else { d with last := time }

def Deadlines.afterAll (c : Connection) (d : Deadlines) (es : List Event) : Deadlines :=
  es.foldl (Deadlines.after c) d

/-- It is too late for the connection. -/
def Deadlines.Over (c : Connection) (d : Deadlines) (time : Nat) : Prop :=
  c.watched = true ∧ d.Ticks time ∧ d.timeout ≤ time

/-- The cycles follow one another within the range of the clock, 49 days. -/
def Paced : Nat → List Event → Prop
  | _, [] => True
  | last, .cycle time :: es => last ≤ time ∧ time + 10 ≤ last + 4294967296 ∧ Paced time es
  | last, _ :: es => Paced last es

instance Paced.decidable : ∀ (last : Nat) (es : List Event), Decidable (Paced last es)
  | _, [] => inferInstanceAs (Decidable True)
  | _, .cycle time :: es =>
    haveI := Paced.decidable time es
    inferInstanceAs (Decidable (_ ∧ _ ∧ _))
  | last, .received _ :: es => Paced.decidable last es
  | last, .triggered :: es => Paced.decidable last es

/-- The timers are what is left until the deadlines. -/
structure Shows (c : Connection) (d : Deadlines) (s : State) : Prop where
  lastTime : s.clock.lastTime = .ofNat d.last
  elapsedTime : s.clock.elapsedTime = .ofNat (d.last - d.managed)
  managed_le : d.managed ≤ d.last
  last_lt : d.last < d.managed + 10
  timeout : c.watched = true → s.timers.inactivityWatchdogTimer.toNat + d.managed = d.timeout
  due : c.produces = true → s.timers.transmissionTriggerTimer.toNat + d.managed = d.due
  due_le : d.due ≤ d.managed + 65535
  sent : s.sent = d.sent

variable {c : Connection} {d : Deadlines} {s : State} {t : Timers} {time k : Nat}

/-! ## 5. What counts down is the time that is left -/

theorem ofNat_toUInt64 (hk : k < 4294967296) : (UInt32.ofNat k).toUInt64.toNat = k := by
  rw [UInt32.toNat_toUInt64, UInt32.toNat_ofNat', Nat.mod_eq_of_lt hk]

/-- A cycle of the handler adds the time since the last one, and hands on the time since the last
tick. -/
theorem cycle_eq (h : Shows c d s) (hlast : d.last ≤ time)
    (hnear : time + 10 ≤ d.last + 4294967296) :
    s.clock.cycle (.ofNat time) =
      if d.Ticks time then (some (.ofNat (time - d.managed)), ⟨.ofNat time, 0⟩)
      else (none, ⟨.ofNat time, .ofNat (time - d.managed)⟩) := by
  have hle := h.managed_le
  have hlt := h.last_lt
  have hsum : s.clock.elapsedTime + (UInt32.ofNat time - s.clock.lastTime) =
      .ofNat (time - d.managed) := by
    rw [h.elapsedTime, h.lastTime, ← UInt32.ofNat_sub hlast, ← UInt32.ofNat_add]
    congr 1
    omega
  have htick : kOpenerTimerTickInMilliSeconds ≤ UInt32.ofNat (time - d.managed) ↔ d.Ticks time := by
    rw [UInt32.le_iff_toNat_le, UInt32.toNat_ofNat', Nat.mod_eq_of_lt (by omega)]
    change 10 ≤ time - d.managed ↔ d.managed + 10 ≤ time
    omega
  rw [Clock.cycle, hsum]
  by_cases hc : d.Ticks time
  · rw [if_pos hc, if_pos (htick.mpr hc)]
  · rw [if_neg hc, if_neg (mt htick.mp hc)]

/-- Production takes the time from the transmission timer, and adds the interval when it sends. -/
theorem produce_eq (hk : k < 4294967296)
    (htimer : c.produces = true → t.transmissionTriggerTimer.toNat ≤ 65535) :
    (c.produce (.ofNat k) t).2.inactivityWatchdogTimer = t.inactivityWatchdogTimer ∧
      ((c.produce (.ofNat k) t).1 = true ↔
        c.produces = true ∧ t.transmissionTriggerTimer.toNat ≤ k) ∧
      (c.produces = true → (c.produce (.ofNat k) t).2.transmissionTriggerTimer.toNat =
        (if t.transmissionTriggerTimer.toNat ≤ k then
          t.transmissionTriggerTimer.toNat + c.requestedPacketInterval.toNat
        else t.transmissionTriggerTimer.toNat) - k) := by
  have helapsed := ofNat_toUInt64 hk
  have hinterval := c.requestedPacketInterval.toNat_lt
  unfold Connection.produce
  dsimp only
  by_cases hproduces : c.produces = true
  · have hsmall := htimer hproduces
    rw [if_pos hproduces]
    by_cases hdue : t.transmissionTriggerTimer ≤ (UInt32.ofNat k).toUInt64
    · have hdue' : t.transmissionTriggerTimer.toNat ≤ k := by
        rw [UInt64.le_iff_toNat_le, helapsed] at hdue
        exact hdue
      rw [if_pos hdue, if_pos hdue']
      have hnext : (t.transmissionTriggerTimer + c.requestedPacketInterval.toUInt64).toNat =
          t.transmissionTriggerTimer.toNat + c.requestedPacketInterval.toNat := by
        rw [UInt64.toNat_add, UInt16.toNat_toUInt64]
        exact Nat.mod_eq_of_lt (by omega)
      refine ⟨rfl, by simp [hproduces, hdue'], fun _ => ?_⟩
      dsimp only
      split
      · next hlt =>
        rw [UInt64.toNat_sub_of_le _ _ (UInt64.le_of_lt hlt), hnext, helapsed]
      · next hle =>
        rw [UInt64.not_lt, UInt64.le_iff_toNat_le, hnext, helapsed] at hle
        exact (Nat.sub_eq_zero_of_le hle).symm
    · have hdue' : ¬t.transmissionTriggerTimer.toNat ≤ k := by
        rw [UInt64.le_iff_toNat_le, helapsed] at hdue
        exact hdue
      rw [if_neg hdue, if_neg hdue']
      refine ⟨rfl, by simp [hdue'], fun _ => ?_⟩
      dsimp only
      rw [UInt64.toNat_sub_of_le _ _ (UInt64.le_of_lt (UInt64.not_le.mp hdue)), helapsed]
  · rw [if_neg hproduces]
    exact ⟨rfl, by simp [hproduces], fun h => absurd h hproduces⟩

@[simp] theorem Deadlines.produce_timeout (c : Connection) (d : Deadlines) (time : Nat) :
    (d.produce c time).timeout = d.timeout := by
  unfold Deadlines.produce
  split <;> rfl

theorem produce_shows (h : Shows c d s) (hticks : d.Ticks time)
    (hnear : time - d.managed < 4294967296)
    (htimer : t.transmissionTriggerTimer = s.timers.transmissionTriggerTimer)
    (hwatch : c.watched = true → t.inactivityWatchdogTimer.toNat + time = d.timeout) :
    Shows c { d.produce c time with managed := time, last := time }
      ⟨⟨.ofNat time, 0⟩, (c.produce (.ofNat (time - d.managed)) t).2,
        if (c.produce (.ofNat (time - d.managed)) t).1 = true then s.sent + 1 else s.sent⟩ := by
  have hle : d.managed ≤ time := Nat.le_trans (Nat.le_add_right _ 10) hticks
  have hlarge := h.due_le
  have hinterval := c.requestedPacketInterval.toNat_lt
  have hsent := h.sent
  have hleft : c.produces = true → t.transmissionTriggerTimer.toNat + d.managed = d.due := by
    rw [htimer]
    exact h.due
  obtain ⟨hkept, hsends, htime⟩ := produce_eq (t := t) hnear fun hp => by
    have := hleft hp
    omega
  have hdue : c.produces = true →
      (t.transmissionTriggerTimer.toNat ≤ time - d.managed ↔ d.due ≤ time) := by
    intro hp
    have := hleft hp
    omega
  refine ⟨rfl, by rw [Nat.sub_self]; rfl, Nat.le_refl _, Nat.lt_add_of_pos_right (by decide),
    fun hw => ?_, fun hp => ?_, ?_, ?_⟩
  · rw [hkept]
    exact (hwatch hw).trans (Deadlines.produce_timeout ..).symm
  · have hstart := hleft hp
    have hnew := htime hp
    rw [hnew, Deadlines.produce]
    by_cases hd : d.due ≤ time
    · rw [if_pos ((hdue hp).mpr hd), if_pos ⟨hp, hd⟩]
      dsimp only
      omega
    · rw [if_neg (mt (hdue hp).mp hd), if_neg (not_and_of_not_right _ hd)]
      dsimp only
      omega
  · rw [Deadlines.produce]
    split
    · dsimp only
      omega
    · dsimp only
      omega
  · rw [Deadlines.produce]
    by_cases hp : c.produces = true ∧ d.due ≤ time
    · rw [if_pos hp, if_pos (hsends.mpr ⟨hp.1, (hdue hp.1).mpr hp.2⟩)]
      exact congrArg (· + 1) hsent
    · rw [if_neg hp, if_neg (mt hsends.mp fun hs => hp ⟨hs.1, (hdue hs.1).mp hs.2⟩)]
      exact hsent

/-- A tick: the connection times out when it is over, and produces when it is due. -/
theorem manage_shows (h : Shows c d s) (hticks : d.Ticks time)
    (hnear : time - d.managed < 4294967296) :
    (c.manage (.ofNat (time - d.managed)) s.timers = none ↔ d.Over c time) ∧
      ∀ sends timers, c.manage (.ofNat (time - d.managed)) s.timers = some (sends, timers) →
        Shows c { d.produce c time with managed := time, last := time }
          ⟨⟨.ofNat time, 0⟩, timers, if sends = true then s.sent + 1 else s.sent⟩ := by
  have hle : d.managed ≤ time := Nat.le_trans (Nat.le_add_right _ 10) hticks
  have helapsed := ofNat_toUInt64 hnear
  by_cases hw : c.watched = true
  · have htimeout := h.timeout hw
    rw [Connection.manage, if_pos hw]
    have hover : s.timers.inactivityWatchdogTimer ≤ (UInt32.ofNat (time - d.managed)).toUInt64 ↔
        d.timeout ≤ time := by
      rw [UInt64.le_iff_toNat_le, helapsed]
      omega
    by_cases hlate : d.timeout ≤ time
    · rw [if_pos (hover.mpr hlate)]
      exact ⟨⟨fun _ => ⟨hw, hticks, hlate⟩, fun _ => rfl⟩, nofun⟩
    · rw [if_neg (mt hover.mp hlate)]
      refine ⟨⟨nofun, fun ho => absurd ho.2.2 hlate⟩, ?_⟩
      rintro sends timers hproduce
      have hpair := Option.some.inj hproduce
      have hshows := produce_shows (t := { s.timers with
        inactivityWatchdogTimer :=
          s.timers.inactivityWatchdogTimer - (UInt32.ofNat (time - d.managed)).toUInt64
        lastPackageWatchdogTimer :=
          s.timers.lastPackageWatchdogTimer - (UInt32.ofNat (time - d.managed)).toUInt64 })
        h hticks hnear rfl fun _ => by
          dsimp only
          rw [UInt64.toNat_sub_of_le _ _
            (UInt64.le_of_lt (UInt64.not_le.mp (mt hover.mp hlate))), helapsed]
          omega
      rw [hpair] at hshows
      exact hshows
  · rw [Connection.manage, if_neg hw]
    refine ⟨⟨nofun, fun ho => absurd ho.1 hw⟩, ?_⟩
    rintro sends timers hproduce
    have hshows := produce_shows h hticks hnear rfl fun hwatched => absurd hwatched hw
    rw [Option.some.inj hproduce] at hshows
    exact hshows

/-- What an event does to the timers, it does to the deadlines. -/
theorem step_shows (h : Shows c d s) (e : Event)
    (hpaced : ∀ time, e = .cycle time → d.last ≤ time ∧ time + 10 ≤ d.last + 4294967296) :
    (step c s e = none ↔ ∃ time, e = .cycle time ∧ d.Over c time) ∧
      ∀ s', step c s e = some s' → Shows c (d.after c e) s' := by
  cases e with
  | received fresh =>
    refine ⟨⟨nofun, fun ⟨_, h, _⟩ => nomatch h⟩, ?_⟩
    rintro s' ⟨⟩
    cases fresh with
    | false => exact ⟨h.1, h.2, h.3, h.4, h.5, h.6, h.7, h.8⟩
    | true => exact ⟨h.1, h.2, h.3, h.4, fun _ => Nat.add_comm _ _, h.6, h.7, h.8⟩
  | triggered =>
    refine ⟨⟨nofun, fun ⟨_, h, _⟩ => nomatch h⟩, ?_⟩
    rintro s' ⟨⟩
    rw [Deadlines.after, Connection.triggered]
    have hinhibit := c.productionInhibitTime.toNat_lt
    split
    · refine ⟨h.1, h.2, h.3, h.4, h.5, fun _ => ?_, ?_, h.8⟩
      · dsimp only
        rw [UInt16.toNat_toUInt64, Nat.add_comm]
      · dsimp only
        omega
    · exact h
  | cycle time =>
    obtain ⟨hlast, hnear⟩ := hpaced time rfl
    have hle := h.managed_le
    have hlt := h.last_lt
    rw [step, State.cycle, cycle_eq h hlast hnear, Deadlines.after]
    by_cases hticks : d.Ticks time
    · obtain ⟨hnone, hsome⟩ := manage_shows h hticks (by omega)
      rw [if_pos hticks, if_pos hticks]
      dsimp only
      rw [Option.map_eq_none_iff, hnone]
      refine ⟨⟨fun ho => ⟨time, rfl, ho⟩, ?_⟩, fun s' hs => ?_⟩
      · rintro ⟨_, ⟨⟩, hover⟩
        exact hover
      obtain ⟨⟨sends, timers⟩, hmanage, rfl⟩ := Option.map_eq_some_iff.mp hs
      exact hsome sends timers hmanage
    · rw [if_neg hticks, if_neg hticks]
      dsimp only
      refine ⟨⟨nofun, ?_⟩, ?_⟩
      · rintro ⟨_, ⟨⟩, hover⟩
        exact absurd hover.2.1 hticks
      rintro s' ⟨⟩
      have hlate : time < d.managed + 10 := Nat.not_le.mp hticks
      exact ⟨rfl, rfl, Nat.le_trans hle hlast, hlate, h.5, h.6, h.7, h.8⟩

theorem paced_after {e : Event} {es : List Event} (h : Paced d.last (e :: es)) :
    Paced (d.after c e).last es := by
  cases e with
  | received fresh => cases fresh <;> exact h
  | triggered =>
    rw [Deadlines.after]
    split <;> exact h
  | cycle time =>
    rw [Deadlines.after]
    split <;> exact h.2.2

/-- **What counts down is the time until the deadlines**, over every run; and the run ends with the
first tick that comes too late. -/
theorem run_deadlines {es : List Event} (h : Shows c d s) (hpaced : Paced d.last es) :
    (exec (step c) s es = none ↔
        ∃ pre time, pre ++ [.cycle time] <+: es ∧ (d.afterAll c pre).Over c time) ∧
      ∀ s', exec (step c) s es = some s' → Shows c (d.afterAll c es) s' := by
  induction es generalizing d s with
  | nil =>
    refine ⟨⟨fun h => ?_, ?_⟩, ?_⟩
    · cases h
    · rintro ⟨pre, time, hpre, -⟩
      simp at hpre
    · rintro s' ⟨⟩
      exact h
  | cons e es ih =>
    have hnow : ∀ time, e = .cycle time → d.last ≤ time ∧ time + 10 ≤ d.last + 4294967296 := by
      rintro time rfl
      exact ⟨hpaced.1, hpaced.2.1⟩
    have hrest : Paced (d.after c e).last es := paced_after hpaced
    obtain ⟨hnone, hsome⟩ := step_shows h e hnow
    rw [exec]
    cases hs : step c s e with
    | none =>
      obtain ⟨time, rfl, hover⟩ := hnone.mp hs
      refine ⟨⟨fun _ => ⟨[], time, by simp, hover⟩, fun _ => rfl⟩, fun s' hs' => ?_⟩
      cases hs'
    | some t =>
      obtain ⟨hend, hshows⟩ := ih (hsome t hs) hrest
      rw [Option.bind_some]
      refine ⟨hend.trans ⟨?_, ?_⟩, hshows⟩
      · rintro ⟨pre, time, hpre, hover⟩
        exact ⟨e :: pre, time, List.cons_prefix_cons.mpr ⟨rfl, hpre⟩, hover⟩
      · rintro ⟨pre, time, hpre, hover⟩
        cases pre with
        | nil =>
          obtain ⟨rfl, -⟩ := List.cons_prefix_cons.mp hpre
          have := hnone.mpr ⟨time, rfl, hover⟩
          rw [hs] at this
          cases this
        | cons e' pre =>
          obtain ⟨rfl, hmore⟩ := List.cons_prefix_cons.mp hpre
          exact ⟨pre, time, hmore, hover⟩

/-! ## 6. The watchdog -/

/-- The originator's interval times the multiplier; a multiplier of more than 38 may shift it out of
the timer. -/
theorem regularTimeout_toNat (hmultiplier : c.connectionTimeoutMultiplier ≤ 38) :
    c.regularTimeout.toNat = c.oToTRequestedPacketInterval.toNat / 1000 *
      2 ^ (2 + c.connectionTimeoutMultiplier.toNat) := by
  have hinterval := c.oToTRequestedPacketInterval.toNat_lt
  have hsmall : c.connectionTimeoutMultiplier.toNat ≤ 38 := UInt8.le_iff_toNat_le.mp hmultiplier
  have hshift : (2 + c.connectionTimeoutMultiplier.toUInt64).toNat % 64 =
      2 + c.connectionTimeoutMultiplier.toNat := by
    rw [UInt64.toNat_add, UInt8.toNat_toUInt64]
    change (2 + _) % 18446744073709551616 % 64 = _
    omega
  have hms : (c.oToTRequestedPacketInterval.toUInt64 / 1000).toNat =
      c.oToTRequestedPacketInterval.toNat / 1000 := by
    rw [UInt64.toNat_div, UInt32.toNat_toUInt64]
    rfl
  rw [Connection.regularTimeout, UInt64.toNat_shiftLeft, hshift, hms, Nat.shiftLeft_eq]
  refine Nat.mod_eq_of_lt ?_
  calc c.oToTRequestedPacketInterval.toNat / 1000 * 2 ^ (2 + c.connectionTimeoutMultiplier.toNat)
      ≤ c.oToTRequestedPacketInterval.toNat / 1000 * 2 ^ 40 :=
        Nat.mul_le_mul_left _ (Nat.pow_le_pow_right (by decide) (by omega))
    _ < 2 ^ 64 := by omega

/-- A connection that is opened in the cycle after `last`. -/
def State.opened (c : Connection) (managed last : Nat) : State :=
  ⟨⟨.ofNat last, .ofNat (last - managed)⟩, c.opened, 0⟩

/-- It has the initial time to hear something, and produces at the next tick. -/
def Deadlines.opened (c : Connection) (managed last : Nat) : Deadlines :=
  ⟨managed, last, managed + c.initialTimeout.toNat, managed, 0⟩

theorem opened_shows {managed last : Nat} (hle : managed ≤ last) (hlt : last < managed + 10) :
    Shows c (.opened c managed last) (.opened c managed last) :=
  ⟨rfl, rfl, hle, hlt, fun _ => Nat.add_comm _ _, fun _ => Nat.zero_add _,
    Nat.le_add_right _ _, rfl⟩

/-- The initial time is the regular one, but ten seconds at least. -/
theorem initialTimeout_toNat (c : Connection) :
    c.initialTimeout.toNat = max 10000 c.regularTimeout.toNat := by
  have hiff : 10000 < c.regularTimeout ↔ 10000 < c.regularTimeout.toNat :=
    UInt64.lt_iff_toNat_lt
  rw [Connection.initialTimeout]
  by_cases hlong : 10000 < c.regularTimeout
  · rw [if_pos hlong, Nat.max_eq_right (Nat.le_of_lt (hiff.mp hlong))]
  · rw [if_neg hlong, Nat.max_eq_left (Nat.not_lt.mp (mt hiff.mpr hlong))]
    rfl

/-- **When a connection times out**: at the first tick that is the regular time after the last tick
before its last new packet, or the initial time after the last tick before it was opened; and it
never does otherwise.  Until then its timers are what is left until its deadlines.  The regular time
is the originator's interval in whole milliseconds times the multiplier. -/
theorem timed_out_iff {managed last : Nat} {es : List Event} (hle : managed ≤ last)
    (hlt : last < managed + 10) (hpaced : Paced last es) :
    (exec (step c) (.opened c managed last) es = none ↔
        ∃ pre time, pre ++ [.cycle time] <+: es ∧
          ((Deadlines.opened c managed last).afterAll c pre).Over c time) ∧
      (∀ s', exec (step c) (.opened c managed last) es = some s' →
        Shows c ((Deadlines.opened c managed last).afterAll c es) s') ∧
      (c.connectionTimeoutMultiplier ≤ 38 → c.regularTimeout.toNat =
        c.oToTRequestedPacketInterval.toNat / 1000 *
          2 ^ (2 + c.connectionTimeoutMultiplier.toNat)) ∧
      c.initialTimeout.toNat = max 10000 c.regularTimeout.toNat :=
  have hrun := run_deadlines (opened_shows hle hlt) hpaced
  ⟨hrun.1, hrun.2, regularTimeout_toNat, initialTimeout_toNat c⟩

/-- A connection with intervals of 100 and of 25 milliseconds. -/
def listener : Connection := ⟨100000, 25000, 0, 50, .applicationObject, true, true⟩

/-- Heard between 10 and 20, it times out at 410 and not at 400. -/
theorem timed_out_listener :
    exec (step listener) (.opened listener 0 0)
        [.cycle 10, .received true, .cycle 20, .cycle 410] = none ∧
      exec (step listener) (.opened listener 0 0)
        [.cycle 10, .received true, .cycle 20, .cycle 400] ≠ none :=
  ⟨(timed_out_iff (by decide) (by decide) (by decide)).1.mpr
    ⟨[.cycle 10, .received true, .cycle 20], 410, by decide, rfl, by decide, by decide⟩, by decide⟩

/-! ## 7. Production -/

/-- What is left of an interval, in microseconds, beyond whole ticks. -/
theorem ticks_rem (interval : UInt32) :
    (interval % (kOpenerTimerTickInMilliSeconds * 1000)).toNat = interval.toNat % 10000 :=
  UInt32.toNat_mod _ _

theorem ticks_rem_eq_zero {interval : UInt32} :
    interval % (kOpenerTimerTickInMilliSeconds * 1000) = 0 ↔ interval.toNat % 10000 = 0 := by
  rw [← ticks_rem]
  exact UInt32.toNat_inj.symm

/-- The interval is the requested one, in whole ticks, as far as 16 bits go. -/
theorem requestedPacketInterval_toNat (c : Connection) :
    c.requestedPacketInterval.toNat = c.tToORequestedPacketInterval.toNat / 10000 * 10 % 65536 := by
  have hlt := c.tToORequestedPacketInterval.toNat_lt
  have hms : (c.tToORequestedPacketInterval / 1000).toNat =
      c.tToORequestedPacketInterval.toNat / 1000 := UInt32.toNat_div _ _
  unfold Connection.requestedPacketInterval
  dsimp only
  split
  · next hzero =>
    have hr := ticks_rem_eq_zero.mp hzero
    rw [UInt32.toNat_toUInt16, hms]
    omega
  · rw [UInt32.toNat_toUInt16, UInt32.toNat_sub_of_le, hms, UInt32.toNat_div, ticks_rem]
    · change (_ - _ % 10000 / 1000) % 65536 = _
      omega
    · rw [UInt32.le_iff_toNat_le, UInt32.toNat_div, ticks_rem, hms]
      change _ % 10000 / 1000 ≤ _
      omega

/-- What decides whether there is production is the interval rounded up, in 16 bits; it is 0 also
for an interval of 327.68 seconds. -/
theorem expectedPacketRate_toNat (c : Connection) :
    c.expectedPacketRate.toNat =
      (c.tToORequestedPacketInterval.toNat + 9999) / 10000 * 10 % 65536 := by
  have hlt := c.tToORequestedPacketInterval.toNat_lt
  have hms : (c.tToORequestedPacketInterval / 1000).toNat =
      c.tToORequestedPacketInterval.toNat / 1000 := UInt32.toNat_div _ _
  unfold Connection.expectedPacketRate
  dsimp only
  split
  · next hzero =>
    have hr := ticks_rem_eq_zero.mp hzero
    rw [UInt32.toNat_toUInt16, hms]
    omega
  · next hnonzero =>
    have hr := mt ticks_rem_eq_zero.mpr hnonzero
    have hup : (kOpenerTimerTickInMilliSeconds -
        c.tToORequestedPacketInterval % (kOpenerTimerTickInMilliSeconds * 1000) / 1000).toNat =
          10 - c.tToORequestedPacketInterval.toNat % 10000 / 1000 := by
      rw [UInt32.toNat_sub_of_le, UInt32.toNat_div, ticks_rem]
      · rfl
      · rw [UInt32.le_iff_toNat_le, UInt32.toNat_div, ticks_rem]
        change _ % 10000 / 1000 ≤ 10
        omega
    rw [UInt32.toNat_toUInt16, UInt32.toNat_add, hms, hup]
    omega

/-- No tick comes later than an interval after the one before. -/
def Prompt (c : Connection) (d : Deadlines) (es : List Event) : Prop :=
  ∀ pre time, pre ++ [.cycle time] <+: es → (d.afterAll c pre).Ticks time →
    time ≤ (d.afterAll c pre).managed + c.requestedPacketInterval.toNat

theorem prompt_nil : Prompt c d [] := by
  intro pre time hpre
  simp at hpre

theorem prompt_cons {e : Event} {es : List Event} :
    Prompt c d (e :: es) ↔
      (∀ time, e = .cycle time → d.Ticks time →
        time ≤ d.managed + c.requestedPacketInterval.toNat) ∧ Prompt c (d.after c e) es := by
  constructor
  · intro h
    refine ⟨fun time he => h [] time (by rw [he]; simp), fun pre time hpre => ?_⟩
    exact h (e :: pre) time (List.cons_prefix_cons.mpr ⟨rfl, hpre⟩)
  · rintro ⟨hnow, hrest⟩ pre time hpre
    cases pre with
    | nil => exact hnow time (List.cons_prefix_cons.mp hpre).1.symm
    | cons e' pre =>
      obtain ⟨rfl, hmore⟩ := List.cons_prefix_cons.mp hpre
      exact hrest pre time hmore

/-- A schedule from `start` on. -/
structure Scheduled (c : Connection) (start : Nat) (d : Deadlines) : Prop where
  sent : start + d.sent * c.requestedPacketInterval.toNat ≤ d.due
  due_le : d.due ≤ d.managed + c.requestedPacketInterval.toNat
  managed_le : d.managed ≤ d.due

theorem scheduled_produce {start : Nat} (h : Scheduled c start d) (hticks : d.Ticks time)
    (hp : c.produces = true) :
    Scheduled c start { d.produce c time with managed := time, last := time } := by
  have hsent := h.sent
  have hdue := h.due_le
  have hmanaged := h.managed_le
  have hle : d.managed ≤ time := Nat.le_trans (Nat.le_add_right _ 10) hticks
  rw [Deadlines.produce]
  by_cases hd : d.due ≤ time
  · rw [if_pos ⟨hp, hd⟩]
    refine ⟨?_, ?_, Nat.le_max_right _ _⟩
    · dsimp only
      rw [Nat.add_mul, Nat.one_mul]
      omega
    · dsimp only
      omega
  · rw [if_neg (not_and_of_not_right _ hd)]
    exact ⟨hsent, by dsimp only; omega, Nat.le_of_lt (Nat.not_le.mp hd)⟩

theorem scheduled_after {start : Nat} {e : Event} (h : Scheduled c start d)
    (hp : c.produces = true) (he : e ≠ .triggered) : Scheduled c start (d.after c e) := by
  cases e with
  | received fresh => cases fresh <;> exact ⟨h.1, h.2, h.3⟩
  | triggered => exact absurd rfl he
  | cycle time =>
    rw [Deadlines.after]
    split
    · next hticks => exact scheduled_produce h hticks hp
    · exact ⟨h.1, h.2, h.3⟩

/-- What is due follows from what was sent, if the ticks are prompt. -/
theorem prompt_after {start : Nat} {e : Event} {es : List Event} (h : Scheduled c start d)
    (hexact : d.due = start + d.sent * c.requestedPacketInterval.toNat)
    (he : e ≠ .triggered) (hprompt : Prompt c d (e :: es)) :
    (d.after c e).due = start + (d.after c e).sent * c.requestedPacketInterval.toNat := by
  cases e with
  | received fresh => cases fresh <;> exact hexact
  | triggered => exact absurd rfl he
  | cycle time =>
    rw [Deadlines.after]
    split
    · next hticks =>
      have hnear := (prompt_cons.mp hprompt).1 time rfl hticks
      have hmanaged := h.managed_le
      dsimp only
      rw [Deadlines.produce]
      split
      · dsimp only
        rw [Nat.add_mul, Nat.one_mul]
        omega
      · exact hexact
    · exact hexact

theorem schedule_run {start : Nat} {es : List Event} (h : Scheduled c start d)
    (hp : c.produces = true) (hfree : .triggered ∉ es) :
    Scheduled c start (d.afterAll c es) ∧
      (d.due = start + d.sent * c.requestedPacketInterval.toNat → Prompt c d es →
        (d.afterAll c es).due =
          start + (d.afterAll c es).sent * c.requestedPacketInterval.toNat) := by
  induction es generalizing d with
  | nil => exact ⟨h, fun hexact _ => hexact⟩
  | cons e es ih =>
    obtain ⟨he, hfree⟩ := not_or.mp (mt List.mem_cons.mpr hfree)
    have he : e ≠ .triggered := fun heq => he heq.symm
    obtain ⟨hrest, hexact⟩ := ih (scheduled_after h hp he) hfree
    refine ⟨hrest, fun hd hprompt => ?_⟩
    exact hexact (prompt_after h hd he hprompt) (prompt_cons.mp hprompt).2

/-- **No drift**: however the ticks come, a connection that produces and is not triggered has never
sent more than its interval allows, the first packet being at once; and if no tick comes an interval
late it has sent as much as that.  It produces when it has a socket and its interval, in whole ticks
and 16 bits, is not 0. -/
theorem no_drift {managed last : Nat} {es : List Event} {s' : State} (hle : managed ≤ last)
    (hlt : last < managed + 10) (hpaced : Paced last es) (hsocket : c.producing = true)
    (hrate : (c.tToORequestedPacketInterval.toNat + 9999) / 10000 * 10 % 65536 ≠ 0)
    (hfree : .triggered ∉ es) (h : exec (step c) (.opened c managed last) es = some s') :
    managed + s'.sent * (c.tToORequestedPacketInterval.toNat / 10000 * 10 % 65536) ≤
        ((Deadlines.opened c managed last).afterAll c es).managed +
          c.tToORequestedPacketInterval.toNat / 10000 * 10 % 65536 ∧
      (Prompt c (.opened c managed last) es →
        ((Deadlines.opened c managed last).afterAll c es).managed ≤
          managed + s'.sent * (c.tToORequestedPacketInterval.toNat / 10000 * 10 % 65536)) := by
  have hp : c.produces = true := by
    rw [← expectedPacketRate_toNat] at hrate
    have hnonzero : c.expectedPacketRate ≠ 0 := fun hzero => hrate (congrArg UInt16.toNat hzero)
    rw [Connection.produces, hsocket, Bool.and_true]
    exact decide_eq_true hnonzero
  rw [← requestedPacketInterval_toNat]
  have hshows := (run_deadlines (opened_shows hle hlt) hpaced).2 s' h
  have hstart : Scheduled c managed (.opened c managed last) :=
    ⟨by simp [Deadlines.opened], Nat.le_add_right _ _, Nat.le_refl _⟩
  obtain ⟨hrun, hexact⟩ := schedule_run hstart hp hfree
  rw [hshows.sent]
  refine ⟨Nat.le_trans hrun.sent hrun.due_le, fun hprompt => ?_⟩
  rw [← hexact (by simp [Deadlines.opened]) hprompt]
  exact hrun.managed_le

/-- Four packets in 70 milliseconds, of which the last is to come at 80. -/
theorem no_drift_listener :
    ∃ s', exec (step listener) (.opened listener 0 0)
        [.cycle 10, .cycle 20, .cycle 35, .cycle 50, .cycle 70] = some s' ∧ s'.sent = 4 ∧
      0 + s'.sent * 20 ≤ 70 + 20 ∧ 70 ≤ 0 + s'.sent * 20 := by
  refine ⟨_, rfl, rfl, ?_⟩
  obtain ⟨hmost, hleast⟩ := @no_drift listener 0 0
    [.cycle 10, .cycle 20, .cycle 35, .cycle 50, .cycle 70] _ (by decide) (by decide) (by decide)
    rfl (by decide) (by decide) rfl
  refine ⟨hmost, hleast ?_⟩
  simp only [prompt_cons, prompt_nil, and_true, Event.cycle.injEq, forall_eq']
  decide

/-! ## 8. Triggers -/

/-- The next tick does not come when production is due. -/
theorem silent_step {e : Event} (htick : ∀ time, e = .cycle time → d.Ticks time → time < d.due) :
    (d.after c e).sent = d.sent ∧ (e ≠ .triggered → (d.after c e).due = d.due) := by
  cases e with
  | received fresh => cases fresh <;> exact ⟨rfl, fun _ => rfl⟩
  | triggered =>
    rw [Deadlines.after]
    exact ⟨by split <;> rfl, fun h => absurd rfl h⟩
  | cycle time =>
    rw [Deadlines.after]
    split
    · next hticks =>
      have hnot := Nat.not_le.mpr (htick time rfl hticks)
      rw [Deadlines.produce, if_neg (not_and_of_not_right _ hnot)]
      exact ⟨rfl, fun _ => rfl⟩
    · exact ⟨rfl, fun _ => rfl⟩

theorem silent_run {es : List Event} (htrigger : c.productionTrigger = .applicationObject)
    (hfirst : ∀ mid time, mid ++ [.cycle time] <+: es → .triggered ∉ mid →
      (d.afterAll c mid).Ticks time → time < d.due)
    (hlater : ∀ pre mid time, pre ++ .triggered :: (mid ++ [.cycle time]) <+: es →
      .triggered ∉ mid → (d.afterAll c (pre ++ .triggered :: mid)).Ticks time →
        time < (d.afterAll c pre).managed + c.productionInhibitTime.toNat) :
    (d.afterAll c es).sent = d.sent := by
  induction es generalizing d with
  | nil => rfl
  | cons e es ih =>
    obtain ⟨hsent, hdue⟩ := silent_step (c := c) (e := e) fun time he hticks =>
      hfirst [] time (by rw [he]; simp) (by simp) hticks
    refine (ih ?_ fun pre mid time hpre =>
      hlater (e :: pre) mid time (List.cons_prefix_cons.mpr ⟨rfl, hpre⟩)).trans hsent
    intro mid time hmid hfree hticks
    by_cases he : e = .triggered
    · subst he
      have hlt := hlater [] mid time (List.cons_prefix_cons.mpr ⟨rfl, hmid⟩) hfree hticks
      rw [Deadlines.after, if_pos htrigger]
      exact hlt
    · rw [hdue he]
      refine hfirst (e :: mid) time (List.cons_prefix_cons.mpr ⟨rfl, hmid⟩) ?_ hticks
      exact fun hin => (List.mem_cons.mp hin).elim (fun h => he h.symm) hfree

/-- **A connection that is triggered too often produces nothing**: not at the triggers, and not at
its interval either, as long as no tick comes the production inhibit time after the last tick before
a trigger with no trigger in between. -/
theorem triggered_silent {es : List Event} {s' : State} (h : Shows c d s)
    (hpaced : Paced d.last es) (htrigger : c.productionTrigger = .applicationObject)
    (hoften : ∀ pre mid time, pre ++ .triggered :: (mid ++ [.cycle time]) <+: .triggered :: es →
      .triggered ∉ mid → (d.afterAll c (pre ++ .triggered :: mid)).Ticks time →
        time < (d.afterAll c pre).managed + c.productionInhibitTime.toNat)
    (hrun : exec (step c) s (.triggered :: es) = some s') : s'.sent = s.sent := by
  have hshows := (@run_deadlines c d s (.triggered :: es) h hpaced).2 s' hrun
  have hquiet : (d.afterAll c (.triggered :: es)).sent = d.sent := by
    refine silent_run htrigger (fun mid time hmid hfree hticks => ?_) hoften
    cases mid with
    | nil => cases (List.cons_prefix_cons.mp hmid).1
    | cons e mid =>
      obtain ⟨rfl, -⟩ := List.cons_prefix_cons.mp hmid
      exact absurd List.mem_cons_self hfree
  rw [hshows.sent, h.sent, hquiet]

/-- Triggered every 40 milliseconds, with an inhibit time of 50. -/
theorem triggered_silent_listener :
    ∃ s', exec (step listener) (.opened listener 0 0)
        [.triggered, .cycle 40, .triggered, .cycle 80] = some s' ∧ s'.sent = 0 := by
  refine ⟨_, rfl, ?_⟩
  refine @triggered_silent listener (.opened listener 0 0) (.opened listener 0 0)
    [.cycle 40, .triggered, .cycle 80] _ (opened_shows (by decide) (by decide)) (by decide) rfl
    ?_ rfl
  rintro pre mid time hpre hfree -
  rcases pre with _ | ⟨e₁, _ | ⟨e₂, _ | ⟨e₃, _ | ⟨e₄, pre⟩⟩⟩⟩
  · rcases mid with _ | ⟨e₁, _ | ⟨e₂, mid⟩⟩ <;> simp_all [List.cons_prefix_cons]
    decide
  · simp [List.cons_prefix_cons] at hpre
  · rcases mid with _ | ⟨e, mid⟩ <;> simp_all [List.cons_prefix_cons]
    decide
  · simp [List.cons_prefix_cons] at hpre
  · simp [List.cons_prefix_cons] at hpre

end GroundTruth.Cip.Timing
