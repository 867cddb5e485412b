/-
# Two ACD clients on one link

The protocol `acd.c` is one half of: two stations with different hardware addresses, both after
the same IP address, on a link that carries every frame one of them sends to the other.  A
station may be started, stopped and started again at any moment, its user may do either from
inside a callback, and frames of third parties may arrive at any moment too.

What the two share is time: a station's clock is at most one tick ahead of the other's
(`tick` is guarded so), and a station has processed what the other sent it before it ticks
again (`tick` wants an empty inbox).  Nothing else is assumed of the order of events.

With the shipped timing a client needs 25 ticks from `acd_start` to its first announcement
(`Client.age` counts them), and one that announces does so every 20.  So a prober hears of the
holder before its own window closes -- by an announcement, or, once the holder is in ONGOING
and announces no more, by the reply to its first probe.  `Window` says how much of the window
may be gone in each case; `Link.Inv.step` keeps it and `mutual_exclusion` reads it off.
-/
import GroundTruth.Lib.Run
import GroundTruth.Acd.Client

namespace GroundTruth.Acd

open GroundTruth.Lib

/-! ## 1. The link -/

/-- The two stations. -/
inductive Side
  | left
  | right
  deriving DecidableEq, Repr

/-- The peer. -/
def Side.other : Side → Side
  | .left => .right
  | .right => .left

@[simp] theorem Side.other_other (i : Side) : i.other.other = i := by cases i <;> rfl

@[simp] theorem Side.other_ne (i : Side) : i.other ≠ i := by cases i <;> decide

@[simp] theorem Side.ne_other (i : Side) : i ≠ i.other := by cases i <;> decide

theorem Side.eq_or_other (i j : Side) : j = i ∨ j = i.other := by
  cases i <;> cases j <;> decide

/-- A station: its client, the frames it has not processed yet, and its clock. -/
structure Station where
  acd : Client
  inbox : List ArpHdr
  ticks : Nat
  deriving DecidableEq

structure Link where
  stn : Side → Station

namespace Link

/-- Before anybody has started. -/
def init : Link := ⟨fun _ => ⟨Client.zero, [], 0⟩⟩

def set (s : Link) (i : Side) (x : Station) : Link := ⟨fun j => if j = i then x else s.stn j⟩

@[simp] theorem set_self (s : Link) (i : Side) (x : Station) : (s.set i x).stn i = x := by
  simp [set]

@[simp] theorem set_other (s : Link) (i : Side) (x : Station) :
    (s.set i x).stn i.other = s.stn i.other := by
  simp [set]

@[simp] theorem set_of_other (s : Link) (i : Side) (x : Station) :
    (s.set i.other x).stn i = s.stn i := by
  simp [set]

def setAcd (i : Side) (a : Client) (s : Link) : Link := s.set i { s.stn i with acd := a }

/-- Station `i` sends `f`; the link carries it to the peer. -/
def send (i : Side) (f : ArpHdr) (s : Link) : Link :=
  s.set i.other { s.stn i.other with inbox := (s.stn i.other).inbox ++ [f] }

end Link

/-- What the user of a client may do to it when it is called back. -/
inductive UserAct
  | leave
  | stop
  | start (rand : Nat)
  deriving DecidableEq, Repr

/-- The user of a client: what it does at each callback. -/
abbrev User := AcdCallback → UserAct

section Model

variable (t : Timing) (hw : Side → EthAddr) (ip : Ip4)

def UserAct.apply (a : Client) : UserAct → Client
  | .leave => a
  | .stop => acdStop a
  | .start rand => acdStart t rand ip a

/-- Station `i` as `acd.c` sees it. -/
def station (i : Side) (user : User) : Host Link where
  acd s := (s.stn i).acd
  setAcd := Link.setAcd i
  hwaddr _ := hw i
  probe ip := Link.send i (probeFrame (hw i) ip)
  announce ip := Link.send i (announceFrame (hw i) ip)
  setLastConflict _ s := s
  callback c s := s.setAcd i ((user c).apply t ip (s.stn i).acd)

/-- An ARP probe for the address. -/
def ArpHdr.probesFor (f : ArpHdr) : Prop :=
  f.opcode = .request ∧ f.sipaddr = ip4Any ∧ f.dipaddr = ip

instance (f : ArpHdr) : Decidable (f.probesFor ip) := by
  unfold ArpHdr.probesFor
  infer_instance

/-- The answer of a station that was in ONGOING when the frame came. -/
def answer (i : Side) (before : Client) (f : ArpHdr) (s : Link) : Link :=
  if before.state = .ongoing ∧ f.probesFor before.ipaddr then
    s.send i (replyFrame (hw i) before.ipaddr f)
  else s

inductive LinkEvent
  /-- `acd_start` -/
  | start (i : Side) (rand : Nat)
  /-- `acd_stop` -/
  | stop (i : Side)
  /-- `acd_tmr` -/
  | tick (i : Side) (rand : Nat) (user : User)
  /-- the first frame of the inbox goes through `etharp_input` -/
  | deliver (i : Side) (user : User)
  /-- a third party's frame goes through `etharp_input` -/
  | foreign (i : Side) (f : ArpHdr) (user : User)

/-- One event on the link.  The guard of `tick` is the link's notion of time. -/
def linkStep (s : Link) : LinkEvent → Option Link
  | .start i rand => some (s.setAcd i (acdStart t rand ip (s.stn i).acd))
  | .stop i => some (s.setAcd i (acdStop (s.stn i).acd))
  | .tick i rand user =>
    if (s.stn i).inbox = [] ∧ (s.stn i).ticks ≤ (s.stn i.other).ticks then
      some (acdTmr t (station t hw ip i user) rand
        (s.set i { s.stn i with ticks := (s.stn i).ticks + 1 }))
    else none
  | .deliver i user =>
    match (s.stn i).inbox with
    | [] => none
    | f :: rest =>
      some (answer hw i (s.stn i).acd f
        (acdArpReply t (station t hw ip i user) f (s.set i { s.stn i with inbox := rest })))
  | .foreign i f user => some (acdArpReply t (station t hw ip i user) f s)

end Model

/-! ## 2. A client under the shipped timing -/

theorem shipped_probeWait (rand : Nat) : Timing.shipped.randomProbeWait rand % 65536 ≤ 1 := by
  have h : Timing.shipped.randomProbeWait rand = rand % 2 := by
    simp [Timing.randomProbeWait, Timing.shipped, msToTicks, acdTmrInterval]
  omega

theorem shipped_probeInterval (rand : Nat) :
    Timing.shipped.randomProbeInterval rand % 65536 = 2 := by
  simp [Timing.randomProbeInterval, Timing.shipped, msToTicks, acdTmrInterval]

theorem shipped_announceWait : Timing.shipped.announceWaitTicks = 20 := by decide

theorem shipped_announceInterval : Timing.shipped.announceIntervalTicks = 20 := by decide

/-- Where the shipped timing can take a client that is after `ip`. -/
def Client.Shipped (ip : Ip4) (a : Client) : Prop :=
  match a.state with
  | .off | .rateLimit => True
  | .probeWait => a.ipaddr = ip ∧ a.sentNum = 0 ∧ a.ttw ≤ 1
  | .probing => a.ipaddr = ip ∧ (a.sentNum = 1 ∨ a.sentNum = 2) ∧ 1 ≤ a.ttw ∧ a.ttw ≤ 2
  | .announceWait => a.ipaddr = ip ∧ a.sentNum = 0 ∧ 1 ≤ a.ttw ∧ a.ttw ≤ 20
  | .announcing => a.ipaddr = ip ∧ 1 ≤ a.sentNum ∧ a.sentNum ≤ 3 ∧ 1 ≤ a.ttw ∧ a.ttw ≤ 20
  | .ongoing => a.ipaddr = ip
  | .passiveOngoing => False

/-- The ticks a prober has behind it: 0 in PROBE_WAIT, and 25 when it announces. -/
def Client.age (a : Client) : Nat :=
  match a.state with
  | .probing => if a.sentNum = 1 then 3 - a.ttw else 5 - a.ttw
  | .announceWait => 25 - a.ttw
  | _ => 0

/-- A client that claims nothing yet: it does not hold the address, and if it probes it has
just begun. -/
structure Client.Fresh (ip : Ip4) (a : Client) : Prop where
  shipped : a.Shipped ip
  holds : a.state.holds = false
  age : a.age = 0

theorem Client.Shipped.ipaddr {ip : Ip4} {a : Client} (h : a.Shipped ip)
    (hs : a.state.probes ∨ a.state.holds) : a.ipaddr = ip := by
  unfold Client.Shipped at h
  cases ha : a.state <;> simp_all [AcdState.probes, AcdState.holds]

theorem fresh_start (rand : Nat) (ip : Ip4) (a : Client) :
    (acdStart .shipped rand ip a).Fresh ip :=
  ⟨⟨rfl, rfl, shipped_probeWait rand⟩, rfl, rfl⟩

theorem fresh_stop (ip : Ip4) (a : Client) : (acdStop a).Fresh ip := ⟨trivial, rfl, rfl⟩

theorem fresh_limited (ip : Ip4) (a : Client) (n : Nat) :
    Client.Fresh ip { a with state := .rateLimit, ttw := n } := ⟨trivial, rfl, rfl⟩

/-- The user of a client cannot spoil it. -/
theorem fresh_apply {ip : Ip4} {a : Client} (h : a.Fresh ip) (u : UserAct) :
    (u.apply .shipped ip a).Fresh ip := by
  cases u with
  | leave => exact h
  | stop => exact fresh_stop ip a
  | start rand => exact fresh_start rand ip a

/-- The user of a client in ONGOING leaves it there, or fresh. -/
theorem apply_shipped {ip : Ip4} {a : Client} (h : a.Shipped ip) (hs : a.state = .ongoing)
    (u : UserAct) : (u.apply .shipped ip a).Shipped ip ∧
      ((u.apply .shipped ip a).state = .ongoing ∨ (u.apply .shipped ip a).Fresh ip) := by
  cases u with
  | leave => exact ⟨h, .inl hs⟩
  | stop => exact ⟨trivial, .inr (fresh_stop ip a)⟩
  | start rand => exact ⟨(fresh_start rand ip a).shipped, .inr (fresh_start rand ip a)⟩

/-! One lemma for each way a tick can take a client that has a place in the shipped timing. -/

section Advance

variable {ip : Ip4} {a : Client}

theorem wait_advance (hwf : a.Shipped ip) (h : a.state.active → a.countDown.ttw ≠ 0) :
    a.countDown.Shipped ip ∧
      (a.state.probes → a.countDown.age = a.age + 1 ∧ 1 ≤ a.age) ∧
      (a.state = .announcing → a.countDown.ttw + 1 = a.ttw) := by
  obtain ⟨_, state, sentNum, ttw, _, _⟩ := a
  cases state <;>
    simp_all [Client.Shipped, Client.age, Client.countDown, AcdState.active, AcdState.probes]
  case probing => split <;> omega
  all_goals omega

theorem probe_advance (hwf : a.Shipped ip) (rand : Nat)
    (hstate : a.state = .probeWait ∨ a.state = .probing) (httw : a.countDown.ttw = 0)
    (hnum : (a.sentNum + 1) % 256 < Timing.shipped.probeNum) :
    Client.Shipped ip { a.countDown with
        state := .probing, sentNum := (a.sentNum + 1) % 256,
        ttw := Timing.shipped.randomProbeInterval rand % 65536 } ∧
      Client.age { a.countDown with
        state := .probing, sentNum := (a.sentNum + 1) % 256,
        ttw := Timing.shipped.randomProbeInterval rand % 65536 } = a.age + 1 := by
  rw [shipped_probeInterval]
  obtain ⟨_, state, sentNum, ttw, _, _⟩ := a
  rcases hstate with rfl | rfl
  · obtain ⟨h1, rfl, h2⟩ := hwf
    exact ⟨⟨h1, .inl rfl, Nat.le_succ 1, Nat.le_refl 2⟩, rfl⟩
  · obtain ⟨h1, hsent, h2, h3⟩ := hwf
    have hsent1 : sentNum = 1 := by
      rcases hsent with h | h
      · exact h
      · subst h
        exact absurd hnum (by decide : ¬(2 + 1) % 256 < 3)
    have httw1 : ttw = 1 := by
      simp only [Client.countDown] at httw h2
      omega
    subst hsent1 httw1
    exact ⟨⟨h1, .inr rfl, Nat.le_succ 1, Nat.le_refl 2⟩, rfl⟩

theorem lastProbe_advance (hwf : a.Shipped ip)
    (hstate : a.state = .probeWait ∨ a.state = .probing) (httw : a.countDown.ttw = 0)
    (hnum : Timing.shipped.probeNum ≤ (a.sentNum + 1) % 256) :
    Client.Shipped ip { a.countDown with
        state := .announceWait, sentNum := 0, ttw := Timing.shipped.announceWaitTicks } ∧
      Client.age { a.countDown with
        state := .announceWait, sentNum := 0,
        ttw := Timing.shipped.announceWaitTicks } = a.age + 1 := by
  rw [shipped_announceWait]
  obtain ⟨_, state, sentNum, ttw, _, _⟩ := a
  rcases hstate with rfl | rfl
  · obtain ⟨-, rfl, -⟩ := hwf
    exact absurd hnum (by decide : ¬3 ≤ (0 + 1) % 256)
  · obtain ⟨h1, hsent, h2, h3⟩ := hwf
    have hsent2 : sentNum = 2 := by
      rcases hsent with h | h
      · subst h
        exact absurd hnum (by decide : ¬3 ≤ (1 + 1) % 256)
      · exact h
    have httw1 : ttw = 1 := by
      simp only [Client.countDown] at httw h2
      omega
    subst hsent2 httw1
    exact ⟨⟨h1, rfl, show 1 ≤ 20 by decide, Nat.le_refl 20⟩, rfl⟩

/-- The client an announcement is due from: at the end of its window, or between two
announcements. -/
theorem announce_due (hwf : a.Shipped ip)
    (hstate : a.state = .announceWait ∨ a.state = .announcing)
    (httw : a.countDown.ttw = 0) :
    (a.state = .announceWait ∧ a.age = 24) ∨ a.state = .announcing := by
  obtain ⟨_, state, sentNum, ttw, _, _⟩ := a
  rcases hstate with rfl | rfl
  · obtain ⟨-, -, h1, h2⟩ := hwf
    refine .inl ⟨rfl, ?_⟩
    simp only [Client.countDown] at httw h1
    simp only [Client.age]
    omega
  · exact .inr rfl

theorem announce_advance (hwf : a.Shipped ip)
    (hstate : a.state = .announceWait ∨ a.state = .announcing)
    (hnum : (a.sentNum + 1) % 256 < Timing.shipped.announceNum) :
    Client.Shipped ip { a.countDown.entered with
        sentNum := (a.countDown.entered.sentNum + 1) % 256,
        ttw := Timing.shipped.announceIntervalTicks } ∧
      a.countDown.entered.state = .announcing := by
  rw [shipped_announceInterval, entered_sentNum, countDown_sentNum]
  obtain ⟨_, state, sentNum, ttw, _, _⟩ := a
  have hlt : (sentNum + 1) % 256 < 4 := hnum
  rcases hstate with rfl | rfl
  · obtain ⟨h1, rfl, -⟩ := hwf
    exact ⟨⟨h1, Nat.le_refl 1, show 1 ≤ 3 by decide, show 1 ≤ 20 by decide, Nat.le_refl 20⟩, rfl⟩
  · obtain ⟨h1, h2, h3, -⟩ := hwf
    have hpos : sentNum ≠ 0 := Nat.ne_of_gt h2
    have hle : sentNum ≤ 3 := h3
    simp only [Client.entered, Client.countDown, hpos, if_false]
    refine ⟨⟨h1, ?_, ?_, ?_, ?_⟩, trivial⟩
    all_goals simp only []
    all_goals omega

end Advance

/-- What a tick does to a station's client, and the frames it sends. -/
inductive Ticked (hw : EthAddr) (ip : Ip4) (a : Client) : Client → List ArpHdr → Prop
  | quiet {a' : Client} (hwf : a'.Shipped ip) (hstate : a'.state = a.state)
      (hage : a.state.probes → a'.age = a.age + 1 ∧ 1 ≤ a.age)
      (httw : a.state = .announcing → a'.ttw + 1 = a.ttw) : Ticked hw ip a a' []
  | probed {a' : Client} (hwf : a'.Shipped ip) (hstate : a.state.probes)
      (hstate' : a'.state.probes) (hage : a'.age = a.age + 1) :
      Ticked hw ip a a' [probeFrame hw ip]
  | announced {a' : Client} (hwf : a'.Shipped ip)
      (hstate : (a.state = .announceWait ∧ a.age = 24) ∨ a.state = .announcing)
      (hstate' : a'.state = .announcing ∨ a'.state = .ongoing ∨ a'.Fresh ip) :
      Ticked hw ip a a' [announceFrame hw ip]
  | defended {a' : Client} (hwf : a'.Shipped ip) (hstate : a.state = .ongoing)
      (hstate' : a'.state = .ongoing) : Ticked hw ip a a' [probeFrame hw ip]
  | unlimited {a' : Client} (hfresh : a'.Fresh ip) : Ticked hw ip a a' []

/-- What a frame does to a station's client, and the frames it sends back through `acd.c`. -/
inductive Heard (hw : EthAddr) (ip : Ip4) (f : ArpHdr) (a : Client) :
    Client → List ArpHdr → Prop
  | ignored (hprobes : a.state.probes → probeConflict hw a.ipaddr f = false)
      (hholds : a.state.holds → useConflict hw a.ipaddr f = false) : Heard hw ip f a a []
  | gaveUp {a' : Client} (hfresh : a'.Fresh ip) : Heard hw ip f a a' []
  | defended {a' : Client} (hwf : a'.Shipped ip) (hstate : a.state.holds)
      (hstate' : a'.state = a.state) : Heard hw ip f a a' [announceFrame hw ip]

/-- A client whose user has just been told `ACD_DECLINE`. -/
def declined (ip : Ip4) (a : Client) (user : User) : Client :=
  (user .decline).apply .shipped ip { a with numConflicts := (a.numConflicts + 1) % 256 }

/-- Station `i`'s client became `a`, and the frames `fs` are in the peer's inbox. -/
structure Moved (s s' : Link) (i : Side) (a : Client) (fs : List ArpHdr) : Prop where
  self : s'.stn i = { s.stn i with acd := a }
  peer : s'.stn i.other =
    { s.stn i.other with inbox := (s.stn i.other).inbox ++ fs }

section Drivers

variable (hw : Side → EthAddr) {ip : Ip4} {s : Link} {i : Side} (user : User)

/-- One pass of `acd_tmr` over a station's client. -/
theorem ticked (hwf : (s.stn i).acd.Shipped ip) (rand : Nat) :
    ∃ a fs, Ticked (hw i) ip (s.stn i).acd a fs ∧
      Moved s (acdTmr .shipped (station .shipped hw ip i user) rand s) i a fs := by
  generalize hs' : acdTmr .shipped (station .shipped hw ip i user) rand s = s'
  have hcase := acdTmr_cases .shipped (station .shipped hw ip i user) rand s
  rw [hs'] at hcase
  have hacd : (station .shipped hw ip i user).acd s = (s.stn i).acd := rfl
  have hip (hs : (s.stn i).acd.state.probes ∨ (s.stn i).acd.state.holds) :
      (s.stn i).acd.ipaddr = ip := hwf.ipaddr hs
  cases hcase with
  | wait hactive =>
    obtain ⟨h1, h2, h3⟩ := wait_advance hwf hactive
    exact ⟨_, [], .quiet h1 rfl h2 h3,
      ⟨by simp [station, Link.setAcd], by simp [station, Link.setAcd]⟩⟩
  | probe hstate httw hnum =>
    have hp : (s.stn i).acd.state.probes := by
      rcases hstate with h | h <;> rw [hacd] at h <;> rw [h] <;> rfl
    obtain ⟨h1, h2⟩ := probe_advance hwf rand hstate httw hnum
    refine ⟨_, _, .probed h1 hp rfl h2, ?_, ?_⟩ <;>
      simp [station, Link.setAcd, Link.send, hip (.inl hp)]
  | lastProbe hstate httw hnum =>
    have hp : (s.stn i).acd.state.probes := by
      rcases hstate with h | h <;> rw [hacd] at h <;> rw [h] <;> rfl
    obtain ⟨h1, h2⟩ := lastProbe_advance hwf hstate httw hnum
    refine ⟨_, _, .probed h1 hp rfl h2, ?_, ?_⟩ <;>
      simp [station, Link.setAcd, Link.send, hip (.inl hp)]
  | announce hstate httw hnum =>
    have hp : (s.stn i).acd.state.probes ∨ (s.stn i).acd.state.holds := by
      rcases hstate with h | h <;> rw [hacd] at h <;> rw [h]
      · exact .inl rfl
      · exact .inr rfl
    obtain ⟨h1, h2⟩ := announce_advance hwf hstate hnum
    refine ⟨_, _, .announced h1 (announce_due hwf hstate httw) (.inl h2), ?_, ?_⟩ <;>
      simp [station, Link.setAcd, Link.send, hip hp]
  | lastAnnounce hstate httw hnum =>
    have hp : (s.stn i).acd.state.probes ∨ (s.stn i).acd.state.holds := by
      rcases hstate with h | h <;> rw [hacd] at h <;> rw [h]
      · exact .inl rfl
      · exact .inr rfl
    have hongoing : Client.Shipped ip { (s.stn i).acd.countDown.entered with
        state := .ongoing, sentNum := 0, ttw := Timing.shipped.periodicDefendTicks } :=
      (entered_ipaddr _).trans (hip hp)
    obtain ⟨h1, h2⟩ := apply_shipped hongoing rfl (user .ipOk)
    refine ⟨_, _, .announced h1 (announce_due hwf hstate httw) (.inr h2), ?_, ?_⟩ <;>
      simp [station, Link.setAcd, Link.send, hip hp]
  | defend hstate =>
    rw [hacd] at hstate
    have hip' : (s.stn i).acd.ipaddr = ip := hip (.inr (by rw [hstate]; rfl))
    refine ⟨{ (s.stn i).acd.countDown with ttw := Timing.shipped.periodicDefendTicks }, _,
      .defended ?_ hstate hstate, ?_, ?_⟩
    · simpa [Client.Shipped, hstate] using hip'
    all_goals simp [station, Link.setAcd, Link.send, hip']
  | unlimit hstate =>
    refine ⟨_, [], .unlimited (fresh_apply (fresh_stop ip (s.stn i).acd.countDown)
      (user .restartClient)), ?_, ?_⟩ <;>
      simp [station, Link.setAcd]

/-- One frame through `acd_arp_reply`. -/
theorem heard (hwf : (s.stn i).acd.Shipped ip) (f : ArpHdr) :
    ∃ a fs, Heard (hw i) ip f (s.stn i).acd a fs ∧
      Moved s (acdArpReply .shipped (station .shipped hw ip i user) f s) i a fs := by
  generalize hs' : acdArpReply .shipped (station .shipped hw ip i user) f s = s'
  have hcase := acdArpReply_cases .shipped (station .shipped hw ip i user) f s rfl
  rw [hs'] at hcase
  have hacd : (station .shipped hw ip i user).acd s = (s.stn i).acd := rfl
  cases hcase with
  | ignored hprobes hholds =>
    exact ⟨_, [], .ignored hprobes hholds, ⟨rfl, by simp⟩⟩
  | limited hstate =>
    refine ⟨_, [], .gaveUp (fresh_limited ip (declined ip (s.stn i).acd user)
      Timing.shipped.rateLimitTicks), ?_, ?_⟩ <;>
      simp [acdLimited, acdDeclined, declined, station, Link.setAcd]
  | stopped hstate =>
    refine ⟨_, [], .gaveUp (fresh_apply (fresh_stop ip (declined ip (s.stn i).acd user))
      (user .restartClient)), ?_, ?_⟩ <;>
      simp [acdStopped, acdDeclined, declined, station, Link.setAcd]
  | defended hstate hconf =>
    have hip : (s.stn i).acd.ipaddr = ip := hwf.ipaddr (.inr hstate)
    refine ⟨{ (s.stn i).acd with lastconflict := defendInterval * acdTicksPerSecond }, _,
      .defended hwf hstate rfl, ?_, ?_⟩ <;>
      simp [acdDefended, station, Link.setAcd, Link.send, hip]
  | passive hstate =>
    rw [hacd] at hstate
    simp [Client.Shipped, hstate] at hwf

end Drivers

/-! ## 3. The window

`Window ip x y` is what station `x` knows about a prober `y`.  As long as something of `x`'s
waits in `y`'s inbox nothing need be said: `y` cannot tick before it has read it, and it does
not survive the reading. -/

/-- A frame that puts a prober for `ip` off, from the station with address `hw`. -/
def Claims (hw : EthAddr) (ip : Ip4) (f : ArpHdr) : Prop :=
  f.shwaddr = hw ∧ (f.sipaddr = ip ∨ f.probesFor ip)

/-- A station whose client the shipped timing can produce, and whose inbox holds frames of the
station with address `hw` only. -/
structure Station.Ok (hw : EthAddr) (ip : Ip4) (x : Station) : Prop where
  shipped : x.acd.Shipped ip
  claims : ∀ f ∈ x.inbox, Claims hw ip f

structure Window (ip : Ip4) (x y : Station) : Prop where
  near : x.ticks ≤ y.ticks + 1
  excl : x.acd.state.holds → y.acd.state.holds = false
  announcing : x.acd.state = .announcing → y.acd.state.probes → y.inbox = [] →
    y.acd.age + x.acd.ttw + x.ticks ≤ 21 + y.ticks
  ongoing : x.acd.state = .ongoing → y.acd.state.probes → y.inbox = [] →
    y.acd.age = 0 ∨
      (∃ f ∈ x.inbox, f.probesFor ip) ∧ y.acd.age + x.ticks ≤ 1 + y.ticks

/-- The invariant of the link. -/
structure Link.Inv (hw : Side → EthAddr) (ip : Ip4) (s : Link) : Prop where
  ok : ∀ i, (s.stn i).Ok (hw i.other) ip
  window : ∀ i, Window ip (s.stn i) (s.stn i.other)

theorem claims_probe (hw : EthAddr) (ip : Ip4) : Claims hw ip (probeFrame hw ip) :=
  ⟨rfl, .inr ⟨rfl, rfl, rfl⟩⟩

theorem claims_announce (hw : EthAddr) (ip : Ip4) : Claims hw ip (announceFrame hw ip) :=
  ⟨rfl, .inl rfl⟩

theorem claims_reply (hw : EthAddr) (ip : Ip4) (f : ArpHdr) :
    Claims hw ip (replyFrame hw ip f) := ⟨rfl, .inl rfl⟩

/-- A claim of another station conflicts with a probe. -/
theorem Claims.conflict {hw hw' : EthAddr} {ip : Ip4} {f : ArpHdr} (h : Claims hw' ip f)
    (hne : hw ≠ hw') : probeConflict hw ip f = true := by
  obtain ⟨rfl, hf | ⟨-, hs, hd⟩⟩ := h
  · simp [probeConflict, hf, hne]
  · simp [probeConflict, hs, hd, hne]

section Pairs

variable {ip : Ip4} {x y : Station}

/-- **Nobody announces under a holder's nose.**  A prober that may tick is not at the end of
its window while the peer holds the address. -/
theorem Window.age_lt (hw : Window ip x y) (hx : x.acd.Shipped ip) (hh : x.acd.state.holds)
    (hp : y.acd.state.probes) (hin : y.inbox = []) (htick : y.ticks ≤ x.ticks) :
    y.acd.age < 24 := by
  rcases (AcdState.holds_iff _).1 hh with hs | hs
  · have hlt := hw.announcing hs hp hin
    have httw : 1 ≤ x.acd.ttw := by
      rw [Client.Shipped, hs] at hx
      exact hx.2.2.2.1
    omega
  · rcases hw.ongoing hs hp hin with h0 | ⟨-, hlt⟩ <;> omega

/-- One that does not hold the address watches nobody. -/
theorem Window.of_not_holds (near : x.ticks ≤ y.ticks + 1) (hx : x.acd.state.holds = false) :
    Window ip x y where
  near := near
  excl hh := by simp [hx] at hh
  announcing hs := by simp [hs, AcdState.holds] at hx
  ongoing hs := by simp [hs, AcdState.holds] at hx

/-- One whose frames have not been read yet need not watch. -/
theorem Window.of_unread (near : x.ticks ≤ y.ticks + 1)
    (excl : x.acd.state.holds → y.acd.state.holds = false) (hin : y.inbox ≠ []) :
    Window ip x y where
  near := near
  excl := excl
  announcing _ _ h := absurd h hin
  ongoing _ _ h := absurd h hin

/-- A fresh prober has its whole window before it. -/
theorem Window.of_fresh (near : x.ticks ≤ y.ticks + 1) (hx : x.acd.Shipped ip)
    (hy : y.acd.Fresh ip) : Window ip x y where
  near := near
  excl _ := hy.holds
  announcing hs _ _ := by
    have httw : x.acd.ttw ≤ 20 := by
      rw [Client.Shipped, hs] at hx
      exact hx.2.2.2.2
    rw [hy.age]
    omega
  ongoing _ _ _ := .inl hy.age

/-- A tick of `x` keeps the windows of both. -/
theorem Ticked.window {hw : EthAddr} {a : Client} {fs : List ArpHdr}
    (h : Ticked hw ip x.acd a fs) (hy : y.acd.Shipped ip)
    (hxy : Window ip x y) (hyx : Window ip y x) (hin : x.inbox = [])
    (htick : x.ticks ≤ y.ticks) :
    Window ip { x with acd := a, ticks := x.ticks + 1 } { y with inbox := y.inbox ++ fs } ∧
      Window ip { y with inbox := y.inbox ++ fs } { x with acd := a, ticks := x.ticks + 1 } := by
  have hnear : x.ticks + 1 ≤ y.ticks + 1 := by omega
  have hnear' : y.ticks ≤ x.ticks + 1 + 1 := by have := hyx.near; omega
  cases h with
  | quiet hwf hstate hage httw =>
    rw [List.append_nil]
    constructor
    · refine ⟨hnear, by simpa [hstate] using hxy.excl, ?_, ?_⟩
      · intro hs hp hyin
        have hs' : x.acd.state = .announcing := hstate ▸ hs
        have := hxy.announcing hs' hp hyin
        have := httw hs'
        simp only
        omega
      · intro hs hp hyin
        rcases hxy.ongoing (hstate ▸ hs) hp hyin with h0 | ⟨⟨f, hf, -⟩, -⟩
        · exact .inl h0
        · simp [hin] at hf
    · refine ⟨hnear', by simpa [hstate] using hyx.excl, ?_, ?_⟩
      · intro hs hp _
        have hp' : x.acd.state.probes := by simpa [hstate] using hp
        have := hyx.announcing hs hp' hin
        have := hage hp'
        simp only
        omega
      · intro hs hp _
        have hp' : x.acd.state.probes := by simpa [hstate] using hp
        obtain ⟨hage, hpos⟩ := hage hp'
        rcases hyx.ongoing hs hp' hin with h0 | ⟨hf, hle⟩
        · omega
        · exact .inr ⟨hf, by simp only; omega⟩
  | probed hwf hstate hstate' hage =>
    constructor
    · refine .of_not_holds hnear ?_
      cases hs : a.state <;> simp_all [AcdState.probes, AcdState.holds]
    · refine ⟨hnear', ?_, ?_, ?_⟩
      · intro _
        cases hs : a.state <;> simp_all [AcdState.probes, AcdState.holds]
      · intro hs _ _
        have := hyx.announcing hs hstate hin
        simp only
        omega
      · intro hs _ _
        refine .inr ⟨⟨probeFrame hw ip, by simp, rfl, rfl, rfl⟩, ?_⟩
        have := hyx.near
        rcases hyx.ongoing hs hstate hin with h0 | ⟨-, hle⟩ <;> simp only <;> omega
  | announced hwf hstate hstate' =>
    have hy0 : y.acd.state.holds = false := by
      rcases hstate with ⟨hs, hage⟩ | hs
      · -- the end of the window: no holder can have let it come to this
        by_contra hh
        rw [Bool.not_eq_false] at hh
        have := hyx.age_lt hy hh (by rw [hs]; rfl) hin htick
        omega
      · exact hxy.excl (by rw [hs]; rfl)
    exact ⟨.of_unread hnear (fun _ => hy0) (by simp), .of_not_holds hnear' hy0⟩
  | defended hwf hstate hstate' =>
    have hy0 : y.acd.state.holds = false := hxy.excl (by rw [hstate]; rfl)
    exact ⟨.of_unread hnear (fun _ => hy0) (by simp), .of_not_holds hnear' hy0⟩
  | unlimited hfresh =>
    rw [List.append_nil]
    exact ⟨.of_not_holds hnear hfresh.holds, .of_fresh hnear' hy hfresh⟩

/-- A third party's frame at `x` keeps the windows of both. -/
theorem Heard.window {hw : EthAddr} {f : ArpHdr} {a : Client} {fs : List ArpHdr}
    (h : Heard hw ip f x.acd a fs) (hy : y.acd.Shipped ip)
    (hxy : Window ip x y) (hyx : Window ip y x) :
    Window ip { x with acd := a } { y with inbox := y.inbox ++ fs } ∧
      Window ip { y with inbox := y.inbox ++ fs } { x with acd := a } := by
  cases h with
  | ignored _ _ =>
    rw [List.append_nil]
    exact ⟨hxy, hyx⟩
  | gaveUp hfresh =>
    rw [List.append_nil]
    exact ⟨.of_not_holds hxy.near hfresh.holds, .of_fresh hyx.near hy hfresh⟩
  | defended hwf hstate hstate' =>
    have hy0 : y.acd.state.holds = false := hxy.excl hstate
    exact ⟨.of_unread hxy.near (fun _ => hy0) (by simp), .of_not_holds hyx.near hy0⟩

/-- What `x` sends back to a frame of its peer: through `acd.c`, and the answer of
`etharp_input`. -/
def answered (hw : EthAddr) (a : Client) (f : ArpHdr) (fs : List ArpHdr) : List ArpHdr :=
  if a.state = .ongoing ∧ f.probesFor a.ipaddr then fs ++ [replyFrame hw a.ipaddr f] else fs

/-- The first frame of `x`'s inbox, which is the peer's, keeps the windows of both. -/
theorem Heard.window_deliver {hw hw' : EthAddr} {f : ArpHdr} {a : Client}
    {fs rest : List ArpHdr} (h : Heard hw ip f x.acd a fs) (hne : hw ≠ hw')
    (hx : x.acd.Shipped ip) (hy : y.acd.Shipped ip) (hf : Claims hw' ip f)
    (hxy : Window ip x y) (hyx : Window ip y x) :
    Window ip { x with acd := a, inbox := rest }
        { y with inbox := y.inbox ++ answered hw x.acd f fs } ∧
      Window ip { y with inbox := y.inbox ++ answered hw x.acd f fs }
        { x with acd := a, inbox := rest } := by
  cases h with
  | ignored hprobes hholds =>
    have hp : x.acd.state.probes = false := by
      -- no prober survives a frame of its peer
      by_contra hp
      rw [Bool.not_eq_false] at hp
      have := hprobes hp
      rw [hx.ipaddr (.inl hp), hf.conflict hne] at this
      contradiction
    refine ⟨?_, hyx.near, hyx.excl, fun _ h => by simp [hp] at h, fun _ h => by simp [hp] at h⟩
    by_cases hh : x.acd.state.holds
    · have hip : x.acd.ipaddr = ip := hx.ipaddr (.inr hh)
      have hprobe : f.probesFor ip := by
        -- a holder ignores nothing but probes
        obtain ⟨hsh, hs | hs⟩ := hf
        · have := hholds hh
          simp [useConflict, hip, hs, hsh, hne] at this
        · exact hs
      rcases (AcdState.holds_iff _).1 hh with hs | hs
      · exact ⟨hxy.near, fun _ => hxy.excl hh,
          fun _ hyp hyin => hxy.announcing hs hyp (List.append_eq_nil_iff.1 hyin).1,
          fun hs' => by simp [hs] at hs'⟩
      · have hans : answered hw x.acd f [] = [replyFrame hw x.acd.ipaddr f] := by
          rw [answered, if_pos ⟨hs, hip ▸ hprobe⟩, List.nil_append]
        rw [hans]
        exact .of_unread hxy.near (fun _ => hxy.excl hh) (by simp)
    · exact .of_not_holds hxy.near (by simpa using hh)
  | gaveUp hfresh =>
    exact ⟨.of_not_holds hxy.near hfresh.holds, .of_fresh hyx.near hy hfresh⟩
  | defended hwf hstate hstate' =>
    have hy0 : y.acd.state.holds = false := hxy.excl hstate
    refine ⟨.of_unread hxy.near (fun _ => hy0) ?_, .of_not_holds hyx.near hy0⟩
    unfold answered
    split <;> simp

end Pairs

/-! ## 4. Mutual exclusion -/

section Safety

variable {hw : Side → EthAddr} {ip : Ip4} {s s' : Link}

theorem Ticked.ok {h : EthAddr} {a a' : Client} {fs : List ArpHdr} (ht : Ticked h ip a a' fs) :
    a'.Shipped ip ∧ ∀ f ∈ fs, Claims h ip f := by
  cases ht with
  | quiet hwf _ _ _ => exact ⟨hwf, by simp⟩
  | probed hwf _ _ _ => exact ⟨hwf, by simpa using claims_probe h ip⟩
  | announced hwf _ _ => exact ⟨hwf, by simpa using claims_announce h ip⟩
  | defended hwf _ _ => exact ⟨hwf, by simpa using claims_probe h ip⟩
  | unlimited hfresh => exact ⟨hfresh.shipped, by simp⟩

theorem Heard.ok {h : EthAddr} {f : ArpHdr} {a a' : Client} {fs : List ArpHdr}
    (hh : Heard h ip f a a' fs) (ha : a.Shipped ip) :
    a'.Shipped ip ∧ ∀ f ∈ fs, Claims h ip f := by
  cases hh with
  | ignored _ _ => exact ⟨ha, by simp⟩
  | gaveUp hfresh => exact ⟨hfresh.shipped, by simp⟩
  | defended hwf _ _ => exact ⟨hwf, by simpa using claims_announce h ip⟩

/-- The invariant of a link whose two stations are given. -/
theorem Link.Inv.of_pair {i : Side} {x y : Station} (hx : s.stn i = x) (hy : s.stn i.other = y)
    (okx : x.Ok (hw i.other) ip) (oky : y.Ok (hw i) ip)
    (hw' : Window ip x y ∧ Window ip y x) : s.Inv hw ip := by
  subst hx hy
  constructor
  · intro j
    rcases Side.eq_or_other i j with rfl | rfl
    · exact okx
    · simpa using oky
  · intro j
    rcases Side.eq_or_other i j with rfl | rfl
    · exact hw'.1
    · simpa using hw'.2

/-- The stations of a link that keeps the invariant. -/
theorem Link.Inv.pair (h : s.Inv hw ip) (i : Side) :
    (s.stn i).Ok (hw i.other) ip ∧ (s.stn i.other).Ok (hw i) ip ∧
      Window ip (s.stn i) (s.stn i.other) ∧ Window ip (s.stn i.other) (s.stn i) := by
  refine ⟨h.ok i, ?_, h.window i, ?_⟩
  · simpa using h.ok i.other
  · simpa using h.window i.other

theorem Station.Ok.receive {h : EthAddr} {y : Station} (hy : y.Ok h ip) {fs : List ArpHdr}
    (hfs : ∀ f ∈ fs, Claims h ip f) : Station.Ok h ip { y with inbox := y.inbox ++ fs } :=
  ⟨hy.shipped, fun f hf => (List.mem_append.1 hf).elim (hy.claims f) (hfs f)⟩

/-- Starting or stopping a client keeps the invariant. -/
theorem Link.Inv.fresh (h : s.Inv hw ip) (i : Side) {a : Client} (ha : a.Fresh ip) :
    (s.setAcd i a).Inv hw ip := by
  obtain ⟨hx, hy, hxy, hyx⟩ := h.pair i
  refine .of_pair (i := i) (x := { s.stn i with acd := a }) (y := s.stn i.other)
    (by simp [Link.setAcd]) (by simp [Link.setAcd]) ⟨ha.shipped, hx.claims⟩ hy ⟨?_, ?_⟩
  · exact .of_not_holds hxy.near ha.holds
  · exact .of_fresh hyx.near hy.shipped ha

theorem Link.Inv.tick (h : s.Inv hw ip) (i : Side) (rand : Nat) (user : User)
    (hin : (s.stn i).inbox = []) (hle : (s.stn i).ticks ≤ (s.stn i.other).ticks) :
    (acdTmr .shipped (station .shipped hw ip i user) rand
      (s.set i { s.stn i with ticks := (s.stn i).ticks + 1 })).Inv hw ip := by
  obtain ⟨hx, hy, hxy, hyx⟩ := h.pair i
  obtain ⟨a, fs, ht, hm⟩ := ticked hw user
    (s := s.set i { s.stn i with ticks := (s.stn i).ticks + 1 }) (i := i)
    (by simpa using hx.shipped) rand
  rw [Link.set_self] at ht
  refine .of_pair (i := i) (x := { s.stn i with acd := a, ticks := (s.stn i).ticks + 1 })
    (by rw [hm.self, Link.set_self]) (by rw [hm.peer, Link.set_other])
    ⟨ht.ok.1, hx.claims⟩ (hy.receive ht.ok.2) ?_
  exact Ticked.window (x := s.stn i) ht hy.shipped hxy hyx hin hle

theorem Link.Inv.foreign (h : s.Inv hw ip) (i : Side) (f : ArpHdr) (user : User) :
    (acdArpReply .shipped (station .shipped hw ip i user) f s).Inv hw ip := by
  obtain ⟨hx, hy, hxy, hyx⟩ := h.pair i
  obtain ⟨a, fs, hh, hm⟩ := heard hw user hx.shipped f
  refine .of_pair hm.self hm.peer ⟨(hh.ok hx.shipped).1, hx.claims⟩
    (hy.receive (hh.ok hx.shipped).2) ?_
  exact hh.window hy.shipped hxy hyx

theorem Link.Inv.deliver (h : s.Inv hw ip) (hne : hw .left ≠ hw .right) (i : Side)
    {f : ArpHdr} {rest : List ArpHdr} (hin : (s.stn i).inbox = f :: rest) (user : User) :
    (answer hw i (s.stn i).acd f (acdArpReply .shipped (station .shipped hw ip i user) f
      (s.set i { s.stn i with inbox := rest }))).Inv hw ip := by
  obtain ⟨hx, hy, hxy, hyx⟩ := h.pair i
  have hne' : hw i ≠ hw i.other := by
    cases i
    · exact hne
    · exact hne.symm
  have hf : Claims (hw i.other) ip f := hx.claims f (by simp [hin])
  obtain ⟨a, fs, hh, hm⟩ := heard hw user
    (s := s.set i { s.stn i with inbox := rest }) (i := i) (by simpa using hx.shipped) f
  rw [Link.set_self] at hh
  have hok := hh.ok hx.shipped
  refine .of_pair (i := i) (x := { s.stn i with acd := a, inbox := rest })
    (y := { s.stn i.other with
      inbox := (s.stn i.other).inbox ++ answered (hw i) (s.stn i).acd f fs }) ?_ ?_
    ⟨hok.1, fun g hg => hx.claims g (by simp [hin, hg])⟩ (hy.receive ?_)
    (Heard.window_deliver (x := s.stn i) hh hne' hx.shipped hy.shipped hf hxy hyx)
  · unfold answer
    split
    · simp [Link.send, hm.self]
    · simp [hm.self]
  · unfold answer answered
    split
    · simp [Link.send, hm.peer]
    · simp [hm.peer]
  · unfold answered
    split
    · rename_i hans
      have hip : (s.stn i).acd.ipaddr = ip := hx.shipped.ipaddr (.inr (by rw [hans.1]; rfl))
      intro g hg
      rcases List.mem_append.1 hg with hg | hg
      · exact hok.2 g hg
      · rw [List.mem_singleton.1 hg, hip]
        exact claims_reply _ _ _
    · exact hok.2

/-- **One event keeps the invariant.** -/
theorem Link.Inv.step (hne : hw .left ≠ hw .right) (h : s.Inv hw ip) {e : LinkEvent}
    (hs : linkStep .shipped hw ip s e = some s') : s'.Inv hw ip := by
  cases e with
  | start i rand =>
    obtain rfl := Option.some.inj hs
    exact h.fresh i (fresh_start rand ip _)
  | stop i =>
    obtain rfl := Option.some.inj hs
    exact h.fresh i (fresh_stop ip _)
  | tick i rand user =>
    rw [linkStep] at hs
    split at hs
    · rename_i hg
      obtain rfl := Option.some.inj hs
      exact h.tick i rand user hg.1 hg.2
    · cases hs
  | deliver i user =>
    rw [linkStep] at hs
    split at hs
    · cases hs
    · rename_i f rest hin
      obtain rfl := Option.some.inj hs
      exact h.deliver hne i hin user
  | foreign i f user =>
    obtain rfl := Option.some.inj hs
    exact h.foreign i f user

theorem Link.Inv.init : Link.init.Inv hw ip where
  ok _ := ⟨trivial, by simp [Link.init]⟩
  window _ := .of_not_holds (by simp [Link.init]) rfl

/-- **Mutual exclusion.**  Two clients with the shipped timing and different hardware addresses
never hold one address together: whatever the order of starts, stops, ticks and frames, and
whatever their users do when called back. -/
theorem mutual_exclusion (hne : hw .left ≠ hw .right)
    (hr : Reach (linkStep .shipped hw ip) Link.init s) :
    ¬((s.stn .left).acd.state.holds ∧ (s.stn .right).acd.state.holds) := by
  rintro ⟨hl, hr'⟩
  have hinv : s.Inv hw ip :=
    Run.invariant hr (fun _ _ _ h _ hs => h.step hne hs) Link.Inv.init
  have := (hinv.window .left).excl hl
  rw [Side.other, hr'] at this
  contradiction

/-- Two hardware addresses. -/
def macs : Side → EthAddr
  | .left => #v[0x02, 0, 0, 0, 0, 0x0A]
  | .right => #v[0x02, 0, 0, 0, 0, 0x0B]

/-- A tick of each station, with the frames the left one sent processed in between. -/
def round (frames : Nat) : List LinkEvent :=
  let idle : User := fun _ => .leave
  .tick .left 0 idle :: (List.replicate frames (.deliver .right idle) ++ [.tick .right 0 idle])

/-- The left station probes and announces; then the right one starts and sends a probe, which
the left one, in ANNOUNCING, does not answer. -/
def race : List LinkEvent :=
  [.start .left 1] ++ round 1 ++ round 0 ++ round 1 ++ round 0 ++ round 1 ++
    (List.replicate 19 (round 0)).flatten ++ round 1 ++ [.start .right 1] ++ round 0

/-- The run the window is about: a prober beside a holder that ignores it. -/
theorem mutual_exclusion_race :
    ∃ s, Reach (linkStep .shipped macs 0x6401A8C0) Link.init s ∧
      (s.stn .left).acd.state = .announcing ∧ (s.stn .right).acd.state = .probing ∧
      ¬((s.stn .left).acd.state.holds ∧ (s.stn .right).acd.state.holds) := by
  have h : (exec (linkStep .shipped macs 0x6401A8C0) Link.init race).map
      (fun s => ((s.stn .left).acd.state, (s.stn .right).acd.state)) =
        some (.announcing, .probing) := by decide +kernel
  obtain ⟨s, hs, hst⟩ := Option.map_eq_some_iff.1 h
  have hr := exec_reach hs
  rw [Prod.mk.injEq] at hst
  exact ⟨s, hr, hst.1, hst.2, mutual_exclusion (by decide) hr⟩

end Safety

end GroundTruth.Acd
