/-
# Address safety

`main.c` decides in four places what becomes of the static address: the callback assigns it, a
resumed `tcpip_try_pending_acd` assigns it once more, a conflict removes it and starts the retry
timer, and after too many conflicts nothing is done at all.  They share half a dozen flags and
may be entered in any order.  This module proves that the order does not matter:

* `address_safety`: in every run, whenever the static address is written the client has
  delivered `ACD_IP_OK` for it since it was last started and no conflict since, and whenever a
  conflict callback returns the address last written is 0.0.0.0 (or none was).

The invariant has two halves.  `Device.Core` does not mention the client, so it survives the
moments inside `acd_restart` in which the client still probes although its user has been told of
a conflict; its key clause is `count`, by which the branch that gives up and removes nothing is
only taken when nothing is assigned.  `Device.Running` is what the flags say about the client.
`Device.Defended` -- a client whose address is in use is at work -- is not an invariant of the
code; each handler but the two that stop the client keeps it, and `Acd/Defence.lean` says
what follows.
-/
import GroundTruth.Acd.Events

namespace GroundTruth.Acd

open GroundTruth.Lib

/-! ## 1. What the log says -/

/-- The address of the most recent `acd_start`. -/
def lastStart : List Obs → Option Ip4
  | [] => none
  | .started ip :: _ => some ip
  | _ :: older => lastStart older

/-- The address `main.c` last wrote to the netif. -/
def lastWrite : List Obs → Option Ip4
  | [] => none
  | .wrote cfg :: _ => some cfg.ip
  | _ :: older => lastWrite older

/-- Since the most recent `acd_start`, which was for `ip`, `ACD_IP_OK` has been delivered, and no
conflict after it. -/
def Cleared (ip : Ip4) : List Obs → Prop
  | [] => False
  | .started _ :: _ => False
  | .entered .ipOk :: older => lastStart older = some ip
  | .entered .decline :: _ => False
  | .entered .restartClient :: _ => False
  | _ :: older => Cleared ip older

/-- The address last written is 0.0.0.0, or none was ever written. -/
def Removed (log : List Obs) : Prop := lastWrite log = none ∨ lastWrite log = some ip4Any

/-- One entry of the log is as address safety wants it, over the entries before it. -/
def Obs.SafeAfter (older : List Obs) : Obs → Prop
  | .wrote cfg => cfg.ip ≠ ip4Any → Cleared cfg.ip older
  | .returned .decline => Removed older
  | .returned .restartClient => Removed older
  | _ => True

/-- Every entry of the log is. -/
def AddressSafe : List Obs → Prop
  | [] => True
  | o :: older => o.SafeAfter older ∧ AddressSafe older

namespace Device

/-! ## 2. The invariant -/

/-- The static address is the one last written. -/
def InUse (s : Device) : Prop := s.booted = true ∧ lastWrite s.log = some s.pendingCfg.ip

/-- The half of the invariant that does not mention the client. -/
structure Core (s : Device) : Prop where
  safe : AddressSafe s.log
  selected : s.selectAcd = true
  cfg : s.booted = true → s.pendingCfg.ip ≠ ip4Any
  fresh : s.booted = false →
    s.log = [] ∧ s.callbackReceived = false ∧ s.probePending = false ∧ s.retryNetif = false
  ok : s.callbackReceived = true → s.lastState = .ipOk →
    Cleared s.pendingCfg.ip s.log ∧ s.retryCount = 0 ∧ s.InUse
  count : 0 < s.retryCount → Removed s.log

/-- The half that does. -/
structure Running (s : Device) : Prop where
  live : s.acd.state ≠ .off → s.booted = true
  direct : s.acd.state ≠ .passiveOngoing
  listed : s.registered = true → .staticIp ∈ s.acdList
  place : s.acd.state.probes ∨ s.acd.state.holds →
    .staticIp ∈ s.acdList ∧ s.acd.ipaddr = s.pendingCfg.ip
  active : s.acd.state.active →
    s.probePending = true ∧ lastStart s.log = some s.pendingCfg.ip ∧ s.callbackReceived = false

structure Inv (s : Device) : Prop where
  core : s.Core
  running : s.Running

/-- A client whose address is in use probes for it or holds it. -/
def Defended (s : Device) : Prop := s.InUse → s.acd.state.probes ∨ s.acd.state.holds

/-- A handler keeps the invariant, and does not give up a defence. -/
structure Kept (s s' : Device) : Prop where
  inv : s'.Inv
  defended : s.Defended → s'.Defended

variable {s : Device} {b : Build} {o : Outcome} {timerOk : Bool}

theorem Core.booted_of_pending (h : s.Core) (hp : s.probePending = true) : s.booted = true := by
  by_contra hb
  have := (h.fresh (by simpa using hb)).2.2.1
  simp [this] at hp

theorem Core.booted_of_retryNetif (h : s.Core) (hn : s.retryNetif = true) : s.booted = true := by
  by_contra hb
  have := (h.fresh (by simpa using hb)).2.2.2
  simp [this] at hn

theorem Core.not_inUse (h : s.Core) (hr : Removed s.log) : ¬s.InUse := by
  rintro ⟨hb, hw⟩
  rcases hr with hr | hr
  · rw [hr] at hw
    cases hw
  · rw [hr, Option.some.injEq] at hw
    exact h.cfg hb hw.symm

theorem defended_of_not_inUse (h : ¬s.InUse) : s.Defended := fun hu => absurd hu h

/-! ## 3. The callback -/

/-- `ACD_IP_OK` while the address is pending: it is assigned, and the retries are over. -/
theorem callback_ipOk (hp : s.probePending = true) (hip : s.pendingCfg.ip ≠ ip4Any) :
    s.tcpipAcdConflictCallback b timerOk .ipOk =
      { s with
        lastState := .ipOk, callbackReceived := true, acdFault := false, acdActivity := 1,
        retryCount := 0,
        retryTimer := if s.retryTimer = .absent then .absent else .stopped,
        ipInfo := s.pendingCfg, probePending := false, acdSem := s.acdSem.map fun _ => true,
        log := .returned .ipOk :: .wrote s.pendingCfg :: .entered .ipOk :: s.log } := by
  have hip' : s.pendingCfg.ip ≠ 0 := hip
  simp [tcpipAcdConflictCallback, callbackIpOk, stopRetryTimer, setIpInfo, giveAcdSem, hp, hip']

/-- What a conflict leaves alone, and what it does to the rest. -/
structure Conflicted (c : AcdCallback) (s s' : Device) : Prop where
  acdList : s'.acdList = s.acdList
  pendingCfg : s'.pendingCfg = s.pendingCfg
  probePending : s'.probePending = s.probePending
  booted : s'.booted = s.booted
  selectAcd : s'.selectAcd = s.selectAcd
  lastState : s'.lastState = c
  callbackReceived : s'.callbackReceived = true
  registered : s'.registered = true → s.registered = true
  /-- the client is left as it is or stopped -/
  acd : s'.acd = s.acd ∨ s'.acd = acdStop s.acd
  /-- the address is removed, or this was one conflict too many -/
  log : s'.log = .returned c :: .wrote IpInfo.zero :: .entered c :: s.log ∨
    s'.log = .returned c :: .entered c :: s.log ∧ 0 < s.retryCount ∧
      s'.retryCount = s.retryCount

/-- Either of the two conflicts goes through the same branch. -/
theorem callback_eq_conflict (b : Build) (timerOk : Bool) (s : Device) {c : AcdCallback}
    (hc : c ≠ .ipOk) :
    s.tcpipAcdConflictCallback b timerOk c =
      { (callbackConflict b timerOk { s with
          lastState := c, callbackReceived := true, log := .entered c :: s.log }).giveAcdSem with
        log := .returned c :: (callbackConflict b timerOk { s with
          lastState := c, callbackReceived := true,
          log := .entered c :: s.log }).giveAcdSem.log } := by
  cases c with
  | ipOk => exact absurd rfl hc
  | decline => rfl
  | restartClient => rfl

theorem callback_conflict (b : Build) (timerOk : Bool) (s : Device) {c : AcdCallback}
    (hc : c ≠ .ipOk) :
    Conflicted c s (s.tcpipAcdConflictCallback b timerOk c) := by
  rw [callback_eq_conflict b timerOk s hc]
  unfold callbackConflict
  dsimp only
  split
  · -- the address is removed and a retry scheduled
    unfold tcpipAcdStartRetry
    by_cases hreg : s.registered <;>
      by_cases ht : s.retryTimer = .absent ∧ timerOk = false <;>
      constructor <;> simp [hreg, ht, setIpInfo, giveAcdSem]
  · rename_i hmax
    have hpos : 0 < s.retryCount := by
      rw [not_or] at hmax
      omega
    constructor <;> simp [giveAcdSem, hpos]

/-- A conflict callback keeps the client-free half, whatever state the client is in. -/
theorem Core.conflict (h : s.Core) (hb : s.booted = true) {c : AcdCallback} (hc : c ≠ .ipOk)
    {s' : Device} (hk : Conflicted c s s') : s'.Core ∧ Removed s'.log := by
  have hrem : Removed s'.log := by
    rcases hk.log with hl | ⟨hl, hpos, -⟩
    · rw [hl]
      exact .inr rfl
    · rw [hl]
      exact h.count hpos
  have hsafe : AddressSafe s'.log := by
    cases c with
    | ipOk => exact absurd rfl hc
    | decline =>
      rcases hk.log with hl | ⟨hl, -⟩ <;> rw [hl] at hrem ⊢
      · exact ⟨hrem, fun hne => absurd rfl hne, trivial, h.safe⟩
      · exact ⟨hrem, trivial, h.safe⟩
    | restartClient =>
      rcases hk.log with hl | ⟨hl, -⟩ <;> rw [hl] at hrem ⊢
      · exact ⟨hrem, fun hne => absurd rfl hne, trivial, h.safe⟩
      · exact ⟨hrem, trivial, h.safe⟩
  refine ⟨⟨hsafe, hk.selectAcd.trans h.selected, fun hb' => ?_, fun hb' => ?_, fun _ hl => ?_,
    fun _ => hrem⟩, hrem⟩
  · rw [hk.pendingCfg]
    exact h.cfg hb
  · rw [hk.booted, hb] at hb'
    cases hb'
  · exact absurd (hk.lastState.symm.trans hl) hc

/-! ## 4. The client's drivers -/

/-- A client that is not at work: nothing is asked of the flags. -/
theorem Running.of_idle (hs : s.acd.state = .off ∨ s.acd.state = .rateLimit)
    (hlive : s.acd.state ≠ .off → s.booted = true)
    (hreg : s.registered = true → .staticIp ∈ s.acdList) : s.Running where
  live := hlive
  direct hp := by rcases hs with hs | hs <;> simp [hs] at hp
  listed := hreg
  place hw := by rcases hs with hs | hs <;> simp [hs, AcdState.probes, AcdState.holds] at hw
  active ha := by rcases hs with hs | hs <;> simp [hs, AcdState.active] at ha

/-- What holds at every moment of `acd_restart`, where the client's state lags behind. -/
structure MidConflict (s : Device) : Prop where
  core : s.Core
  booted : s.booted = true
  listed : s.registered = true → .staticIp ∈ s.acdList

theorem MidConflict.setAcd (h : s.MidConflict) (a : Client) :
    ({ s with acd := a } : Device).MidConflict :=
  ⟨⟨h.core.safe, h.core.selected, h.core.cfg, h.core.fresh, h.core.ok, h.core.count⟩,
    h.booted, h.listed⟩

theorem MidConflict.callback (h : s.MidConflict) (b : Build) (timerOk : Bool) {c : AcdCallback}
    (hc : c ≠ .ipOk) :
    (s.tcpipAcdConflictCallback b timerOk c).MidConflict ∧
      Removed (s.tcpipAcdConflictCallback b timerOk c).log := by
  have hk := callback_conflict b timerOk s hc
  obtain ⟨hcore, hrem⟩ := h.core.conflict h.booted hc hk
  refine ⟨⟨hcore, hk.booted.trans h.booted, fun hr => ?_⟩, hrem⟩
  rw [hk.acdList]
  exact h.listed (hk.registered hr)

/-- A conflict that ends with the client stopped. -/
theorem MidConflict.stopped (h : s.MidConflict) (b : Build) (timerOk : Bool) :
    (acdStopped (host b timerOk) s).Inv ∧ ¬(acdStopped (host b timerOk) s).InUse := by
  have hne : AcdCallback.restartClient ≠ .ipOk := by decide
  have hk := callback_conflict b timerOk { s with acd := acdStop s.acd } hne
  obtain ⟨hmid, hrem⟩ := (h.setAcd (acdStop s.acd)).callback b timerOk hne
  have hoff : (acdStopped (host b timerOk) s).acd.state = .off := by
    rcases hk.acd with ha | ha <;> exact congrArg Client.state ha
  exact ⟨⟨hmid.core, .of_idle (.inl hoff) (absurd hoff) hmid.listed⟩, hmid.core.not_inUse hrem⟩

/-- A conflict that ends with the client rate limited. -/
theorem MidConflict.limited (h : s.MidConflict) (b : Build) (timerOk : Bool)
    (hr : Removed s.log) (t : Timing) :
    (acdLimited t (host b timerOk) s).Inv ∧ ¬(acdLimited t (host b timerOk) s).InUse := by
  have hmid := h.setAcd { s.acd with state := .rateLimit, ttw := t.rateLimitTicks }
  exact ⟨⟨hmid.core, .of_idle (.inr rfl) (fun _ => h.booted) hmid.listed⟩,
    hmid.core.not_inUse hr⟩

/-- The packet a conflict is about is noted before anything else. -/
theorem MidConflict.declined (h : s.MidConflict) (b : Build) (timerOk : Bool) (hdr : ArpHdr) :
    (acdDeclined (host b timerOk) ((host b timerOk).setLastConflict hdr s)).MidConflict ∧
      Removed (acdDeclined (host b timerOk) ((host b timerOk).setLastConflict hdr s)).log := by
  have hmid : ({ s with lastConflict := some hdr } : Device).MidConflict :=
    ⟨⟨h.core.safe, h.core.selected, h.core.cfg, h.core.fresh, h.core.ok, h.core.count⟩,
      h.booted, h.listed⟩
  exact (hmid.setAcd _).callback b timerOk (c := .decline) (by decide)

/-- The log grows by a frame at most. -/
inductive Sent (log : List Obs) : List Obs → Prop
  | nothing : Sent log log
  | probe (ip : Ip4) : Sent log (.probed ip :: log)
  | announce (ip : Ip4) : Sent log (.announced ip :: log)

/-- A step of the client that tells its user nothing: it stays in its phase and may send a
frame. -/
theorem Kept.quiet (h : s.Inv) (hon : s.acd.state ≠ .off) {a : Client} {log : List Obs}
    (hlog : Sent s.log log) (hip : a.ipaddr = s.acd.ipaddr)
    (hphase : a.state.probes ∨ a.state.holds ↔ s.acd.state.probes ∨ s.acd.state.holds)
    (hactive : a.state.active → s.acd.state.active) (hdirect : a.state ≠ .passiveOngoing)
    (lc : Option ArpHdr) :
    Kept s { s with acd := a, log := log, lastConflict := lc } := by
  have hb : s.booted = true := h.running.live hon
  have hstart : lastStart log = lastStart s.log := by cases hlog <;> rfl
  have hwrite : lastWrite log = lastWrite s.log := by cases hlog <;> rfl
  have hclear (ip : Ip4) (hc : Cleared ip s.log) : Cleared ip log := by cases hlog <;> exact hc
  have hsafe : AddressSafe log := by
    cases hlog with
    | nothing => exact h.core.safe
    | probe ip => exact ⟨trivial, h.core.safe⟩
    | announce ip => exact ⟨trivial, h.core.safe⟩
  refine ⟨⟨⟨hsafe, h.core.selected, h.core.cfg, fun hb' => ?_, fun hr hl => ?_, fun hc => ?_⟩,
    ⟨fun _ => hb, hdirect, h.running.listed, fun hs => ?_, fun ha => ?_⟩⟩, fun hd hu => ?_⟩
  · simp [hb] at hb'
  · obtain ⟨h1, h2, h3, h4⟩ := h.core.ok hr hl
    exact ⟨hclear _ h1, h2, h3, hwrite.trans h4⟩
  · have hrem := h.core.count hc
    unfold Removed at hrem ⊢
    rwa [hwrite]
  · exact ⟨(h.running.place (hphase.1 hs)).1, hip.trans (h.running.place (hphase.1 hs)).2⟩
  · rw [hstart]
    exact h.running.active (hactive ha)
  · exact hphase.2 (hd ⟨hu.1, hwrite.symm.trans hu.2⟩)

/-- The client is off and stays off. -/
theorem Kept.idle (h : s.Inv) {a : Client} (hoff : s.acd.state = .off) (ha : a.state = .off) :
    Kept s { s with acd := a } := by
  refine ⟨⟨⟨h.core.safe, h.core.selected, h.core.cfg, h.core.fresh, h.core.ok, h.core.count⟩,
    .of_idle (.inl ha) (absurd ha) h.running.listed⟩, fun hd hu => ?_⟩
  have := hd hu
  simp [hoff, AcdState.probes, AcdState.holds] at this

theorem entered_state {a : Client} (hs : a.state = .announceWait ∨ a.state = .announcing) :
    a.entered.state = .announceWait ∨ a.entered.state = .announcing := by
  unfold Client.entered
  split
  · exact .inr rfl
  · exact hs

/-- `ACD_IP_OK` after an announcement. -/
theorem callback_announced (h : s.Inv) (hp : s.probePending = true) (b : Build) (timerOk : Bool)
    (a : Client) (ip : Ip4) :
    tcpipAcdConflictCallback b timerOk .ipOk { s with acd := a, log := .announced ip :: s.log } =
      { s with
        acd := a, lastState := .ipOk, callbackReceived := true, acdFault := false, acdActivity := 1,
        retryCount := 0,
        retryTimer := if s.retryTimer = .absent then .absent else .stopped,
        ipInfo := s.pendingCfg, probePending := false, acdSem := s.acdSem.map fun _ => true,
        log := .returned .ipOk :: .wrote s.pendingCfg :: .entered .ipOk :: .announced ip ::
          s.log } :=
  callback_ipOk hp (h.core.cfg (h.core.booted_of_pending hp))

/-- The last announcement: the client is in ONGOING and its user assigns the address. -/
theorem Kept.ipOk (h : s.Inv) (b : Build) (timerOk : Bool) (hp : s.probePending = true)
    (hstart : lastStart s.log = some s.pendingCfg.ip) (hlist : .staticIp ∈ s.acdList)
    (a : Client) (ha : a.state = .ongoing) (hip : a.ipaddr = s.pendingCfg.ip) (ip : Ip4) :
    Kept s (tcpipAcdConflictCallback b timerOk .ipOk
      { s with acd := a, log := .announced ip :: s.log }) := by
  have hb := h.core.booted_of_pending hp
  rw [callback_announced h hp]
  refine ⟨⟨⟨⟨trivial, fun _ => hstart, trivial, trivial, h.core.safe⟩, h.core.selected,
    h.core.cfg, fun hb' => ?_, fun _ _ => ⟨hstart, rfl, hb, rfl⟩, fun h0 => ?_⟩,
    ⟨fun _ => hb, ?_, h.running.listed, fun _ => ⟨hlist, hip⟩, fun hact => ?_⟩⟩, fun _ _ => ?_⟩
  · simp [hb] at hb'
  · simp at h0
  · simp [ha]
  · simp [ha, AcdState.active] at hact
  · simp [ha, AcdState.holds]

/-- **A timer tick.** -/
theorem Kept.tick (h : s.Inv) (rand : Nat) : Kept s (s.tick b timerOk rand) := by
  have hcase := tick_cases b timerOk rand s
  generalize s.tick b timerOk rand = s' at hcase ⊢
  cases hcase with
  | unlisted => exact ⟨h, id⟩
  | wait hactive =>
    by_cases hoff : s.acd.state = .off
    · exact .idle (a := s.acd.countDown) h hoff hoff
    · exact .quiet (a := s.acd.countDown) h hoff .nothing rfl Iff.rfl id h.running.direct
        s.lastConflict
  | probe hstate =>
    refine .quiet (a := { s.acd.countDown with
        state := .probing, sentNum := (s.acd.sentNum + 1) % 256,
        ttw := b.timing.randomProbeInterval rand % 65536 })
      h ?_ (.probe s.acd.ipaddr) rfl ?_ (fun _ => ?_) (by simp) s.lastConflict
    all_goals rcases hstate with hs | hs <;> simp [hs, AcdState.probes, AcdState.active]
  | lastProbe hstate =>
    refine .quiet (a := { s.acd.countDown with
        state := .announceWait, sentNum := 0, ttw := b.timing.announceWaitTicks })
      h ?_ (.probe s.acd.ipaddr) rfl ?_ (fun _ => ?_) (by simp) s.lastConflict
    all_goals rcases hstate with hs | hs <;> simp [hs, AcdState.probes, AcdState.active]
  | announce hstate =>
    have hent := entered_state (a := s.acd.countDown) hstate
    refine .quiet (a := { s.acd.countDown.entered with
        sentNum := (s.acd.countDown.entered.sentNum + 1) % 256,
        ttw := b.timing.announceIntervalTicks })
      h ?_ (.announce s.acd.countDown.entered.ipaddr) (entered_ipaddr _) ?_ (fun _ => ?_) ?_
      s.lastConflict
    · rcases hstate with hs | hs <;> simp [hs]
    · rcases hent with he | he <;> rcases hstate with hs | hs <;>
        simp [he, hs, AcdState.probes, AcdState.holds]
    · rcases hstate with hs | hs <;> simp [hs, AcdState.active]
    · rcases hent with he | he <;> simp [he]
  | lastAnnounce hlist hstate =>
    obtain ⟨hp, hstart, -⟩ := h.running.active (active_of_announces hstate)
    have hip : s.acd.ipaddr = s.pendingCfg.ip :=
      (h.running.place (by rcases hstate with hs | hs <;> simp [hs, AcdState.probes,
        AcdState.holds])).2
    exact .ipOk h b timerOk hp hstart hlist { s.acd.countDown.entered with
        state := .ongoing, sentNum := 0, ttw := b.timing.periodicDefendTicks }
      rfl ((entered_ipaddr _).trans hip) s.acd.countDown.entered.ipaddr
  | defend hstate =>
    exact .quiet (a := { s.acd.countDown with ttw := b.timing.periodicDefendTicks }) h
      (by simp [hstate]) (.probe s.acd.ipaddr) rfl Iff.rfl id h.running.direct s.lastConflict
  | unlimit hstate =>
    have hmid : s.MidConflict :=
      ⟨h.core, h.running.live (by simp [hstate]), h.running.listed⟩
    obtain ⟨hinv, hnot⟩ := (hmid.setAcd s.acd.countDown).stopped b timerOk
    exact ⟨hinv, fun _ => defended_of_not_inUse hnot⟩

/-- **An ARP packet.** -/
theorem Kept.arp (h : s.Inv) (hdr : ArpHdr) : Kept s (s.arp b timerOk hdr) := by
  unfold Device.arp
  split
  case isFalse => exact ⟨h, id⟩
  case isTrue hlist =>
  have hcase := acdArpReply_cases b.timing (host b timerOk) hdr s rfl
  generalize acdArpReply b.timing (host b timerOk) hdr s = s' at hcase
  have hacd : (host b timerOk).acd s = s.acd := rfl
  have hmid (hs : s.acd.state.probes ∨ s.acd.state.holds) : s.MidConflict := by
    refine ⟨h.core, h.running.live fun hoff => ?_, h.running.listed⟩
    simp [hoff, AcdState.probes, AcdState.holds] at hs
  cases hcase with
  | ignored _ _ => exact ⟨h, id⟩
  | limited hstate =>
    obtain ⟨hmid', hrem⟩ := (hmid hstate).declined b timerOk hdr
    obtain ⟨hinv, hnot⟩ := hmid'.limited b timerOk hrem b.timing
    exact ⟨hinv, fun _ => defended_of_not_inUse hnot⟩
  | stopped hstate =>
    obtain ⟨hmid', -⟩ := (hmid hstate).declined b timerOk hdr
    obtain ⟨hinv, hnot⟩ := hmid'.stopped b timerOk
    exact ⟨hinv, fun _ => defended_of_not_inUse hnot⟩
  | defended hstate hconf =>
    refine .quiet (a := { s.acd with lastconflict := defendInterval * acdTicksPerSecond })
      h ?_ (.announce s.acd.ipaddr) rfl Iff.rfl id h.running.direct (some hdr)
    intro hoff
    simp [hacd, hoff, AcdState.holds] at hstate
  | passive hstate => exact absurd hstate h.running.direct

/-! ## 5. The probe sequence -/

/-- The two states agree on what the invariant reads. -/
structure SameView (s s' : Device) : Prop where
  acd : s'.acd = s.acd := by rfl
  acdList : s'.acdList = s.acdList := by rfl
  selectAcd : s'.selectAcd = s.selectAcd := by rfl
  registered : s'.registered = s.registered := by rfl
  lastState : s'.lastState = s.lastState := by rfl
  callbackReceived : s'.callbackReceived = s.callbackReceived := by rfl
  probePending : s'.probePending = s.probePending := by rfl
  pendingCfg : s'.pendingCfg = s.pendingCfg := by rfl
  retryCount : s'.retryCount = s.retryCount := by rfl
  retryNetif : s'.retryNetif = s.retryNetif := by rfl
  booted : s'.booted = s.booted := by rfl
  log : s'.log = s.log := by rfl

/-- A step that touches no field the invariant reads. -/
theorem Kept.frame (h : s.Inv) {s' : Device} (hv : SameView s s') : Kept s s' := by
  obtain ⟨⟨h1, h2, h3, h4, h5, h6⟩, ⟨h7, h8, h9, h10, h11⟩⟩ := h
  constructor
  · constructor
    · constructor <;> simp only [InUse, hv.log, hv.selectAcd, hv.booted, hv.pendingCfg,
        hv.callbackReceived, hv.probePending, hv.retryNetif, hv.lastState, hv.retryCount] <;>
        assumption
    · constructor <;> simp only [hv.acd, hv.booted, hv.registered, hv.acdList, hv.pendingCfg,
        hv.probePending, hv.log, hv.callbackReceived] <;> assumption
  · simp only [Defended, InUse, hv.acd, hv.booted, hv.log, hv.pendingCfg]
    exact id

theorem Kept.trans {s₁ s₂ s₃ : Device} (h : Kept s₁ s₂) (h' : Kept s₂ s₃) : Kept s₁ s₃ :=
  ⟨h'.inv, fun hd => h'.defended (h.defended hd)⟩

theorem Kept.finish (h : s.Inv) (k : Caller) : Kept s (s.finish k) := by
  cases k with
  | connected => exact .frame h {}
  | other => exact ⟨h, id⟩

/-- The callback flags are reset before a probe sequence. -/
theorem Kept.reset (h : s.Inv) (n : Nat) :
    Kept s { s with callbackReceived := false, lastState := .ipOk, acdActivity := n } := by
  refine ⟨⟨⟨h.core.safe, h.core.selected, h.core.cfg, fun hb => ?_, fun hr => ?_, h.core.count⟩,
    ⟨h.running.live, h.running.direct, h.running.listed, h.running.place, fun ha => ?_⟩⟩, id⟩
  · exact ⟨(h.core.fresh hb).1, rfl, (h.core.fresh hb).2.2⟩
  · cases hr
  · exact ⟨(h.running.active ha).1, (h.running.active ha).2.1, rfl⟩

/-- The client is registered and started, and its caller waits. -/
theorem Kept.launched (h : s.Inv) (hready : s.Ready) (k : Caller) :
    Kept s (s.launched b o k) := by
  have hb := h.core.booted_of_pending hready.1
  have hmem : .staticIp ∈ (s.launched b o k).acdList := by
    by_cases hr : s.registered
    · simpa [Device.launched, hr] using h.running.listed hr
    · simp [Device.launched, hr]
  refine ⟨⟨⟨⟨trivial, h.core.safe⟩, h.core.selected, h.core.cfg, fun hb' => ?_, fun hr => ?_,
    h.core.count⟩, ⟨fun _ => hb, AcdState.noConfusion, fun _ => hmem, fun _ => ⟨hmem, rfl⟩,
      fun _ => ⟨hready.1, rfl, rfl⟩⟩⟩, fun _ _ => .inl rfl⟩
  · exact absurd (hb.symm.trans hb') (by decide)
  · cases hr

/-- A resource is missing, and the client is left as it is. -/
theorem Kept.unstarted (h : s.Inv) {u : Device} (hu : Unstarted s u) : Kept s u := by
  cases hu with
  | noSem => exact .frame h {}
  | noContext =>
    have hreset := Kept.reset h 3
    exact hreset.trans (.frame hreset.inv {})

/-- The address is assigned again, or the attempt is called off. -/
theorem Kept.tryPendingAcdDone (h : s.Inv) : Kept s (s.tcpipTryPendingAcdDone o) := by
  have hidle (hcb : s.callbackReceived = true) : s.acd.state.active = false := by
    by_contra ha
    have := (h.running.active (by simpa using ha)).2.2
    simp [hcb] at this
  unfold tcpipTryPendingAcdDone
  split
  · -- a conflict: the address is pending no more
    rename_i hc
    refine ⟨⟨⟨h.core.safe, h.core.selected, h.core.cfg, fun hb => ?_, h.core.ok, h.core.count⟩,
      ⟨h.running.live, h.running.direct, h.running.listed, h.running.place, fun ha => ?_⟩⟩, id⟩
    · have hf := h.core.fresh hb
      exact ⟨hf.1, hf.2.1, rfl, hf.2.2.2⟩
    · have hactive : s.acd.state.active = true := ha
      have hinactive := hidle hc.1
      rw [hactive] at hinactive
      cases hinactive
  · dsimp only
    split
    · -- the callback has assigned the address already, and it is assigned once more
      rename_i hc
      obtain ⟨h1, h2, h3⟩ := h.core.ok hc.1 hc.2
      refine ⟨⟨⟨⟨fun _ => h1, h.core.safe⟩, h.core.selected, h.core.cfg, fun hb => ?_,
        fun _ _ => ⟨h1, h2, h3.1, rfl⟩, fun h0 => ?_⟩,
        ⟨h.running.live, h.running.direct, h.running.listed, h.running.place, fun ha => ?_⟩⟩,
        fun hd _ => hd h3⟩
      · exact absurd (h3.1.symm.trans hb) (by decide)
      · simp only [setIpInfo] at h0
        omega
      · have hactive : s.acd.state.active = true := ha
        have hinactive := hidle hc.1
        rw [hactive] at hinactive
        cases hinactive
    · exact .frame h {}

/-- **`tcpip_try_pending_acd`**, whoever calls it. -/
theorem Kept.attempt (h : s.Inv) {k : Caller} {s' : Device} (ha : AttemptCase b o k s s') :
    Kept s s' := by
  cases ha with
  | skipped hskip => exact .finish h k
  | noLink hlink =>
    have hdef : Kept s { s with deferred := s.deferred + 1 } := .frame h {}
    exact hdef.trans (.finish hdef.inv k)
  | failed hready hno hu =>
    have hfail := Kept.unstarted h hu
    have hdone := hfail.trans (.tryPendingAcdDone (o := o) hfail.inv)
    exact hdone.trans (.finish hdone.inv k)
  | started hready => exact .launched h hready k

/-- The address becomes pending: at boot, or when the retry timer expires. -/
theorem Kept.pending (h : s.Inv) (hb : s.booted = true) :
    Kept s { s with probePending := true } := by
  refine ⟨⟨⟨h.core.safe, h.core.selected, h.core.cfg, fun hb' => ?_, h.core.ok, h.core.count⟩,
    ⟨h.running.live, h.running.direct, h.running.listed, h.running.place, fun ha => ?_⟩⟩, id⟩
  · simp [hb] at hb'
  · exact ⟨rfl, (h.running.active ha).2⟩

/-- Boot sets the pending configuration, over an empty log and an idle client. -/
theorem Kept.boot (h : s.Inv) (hb : s.booted = false) {cfg : IpInfo} (hip : cfg.ip ≠ ip4Any) :
    Kept s { s with booted := true, pendingCfg := cfg, probePending := true,
                    acdActivity := 1 } := by
  obtain ⟨hlog, hcb, -, -⟩ := h.core.fresh hb
  have hoff : s.acd.state = .off := by
    by_contra hs
    exact absurd (h.running.live hs) (by simp [hb])
  refine ⟨⟨⟨h.core.safe, h.core.selected, fun _ => hip, fun hb' => (by cases hb'), fun hr => ?_,
    h.core.count⟩, .of_idle (.inl hoff) (absurd hoff) h.running.listed⟩, fun _ hu => ?_⟩
  · simp [hcb] at hr
  · have := hu.2
    simp [hlog, lastWrite] at this

/-- What comes before an attempt. -/
theorem Kept.prepared (h : s.Inv) {e : DeviceEvent} {k : Caller} {u : Device}
    (hu : Prepared s e o k u) : Kept s u := by
  cases hu with
  | boot hfresh hip => exact .boot h hfresh hip
  | connected => exact .frame h {}
  | deferred => exact .frame h {}
  | timer harmed hnet =>
    have hpend := Kept.pending h (h.core.booted_of_retryNetif hnet)
    exact hpend.trans (.frame hpend.inv {})
  | retry => exact .frame h {}

/-- The client is stopped.  Nothing is said about a defence. -/
theorem Inv.stop (h : s.Inv) : ({ s with acd := acdStop s.acd } : Device).Inv :=
  ⟨⟨h.core.safe, h.core.selected, h.core.cfg, h.core.fresh, h.core.ok, h.core.count⟩,
    .of_idle (.inl rfl) (absurd rfl) h.running.listed⟩

/-- The wait ends. -/
theorem Kept.resume (h : s.Inv) (taken : Bool) (k : Caller) :
    Kept s (s.resume o taken k) := by
  have hres : Kept s (tcpipPerformAcdResume o taken { s with waiting := none }).1 := by
    unfold tcpipPerformAcdResume
    split
    · dsimp only
      split <;> exact .frame h {}
    · split
      · exact .frame h {}
      · split <;> exact .frame h {}
  have hdone := hres.trans (.tryPendingAcdDone (o := o) hres.inv)
  exact hdone.trans (.finish hdone.inv k)

end Device

/-! ## 6. Every run -/

/-- The two events that stop the client: a posted `tcpip_acd_stop_cb`, and lwIP taking down a
link that is up. -/
def DeviceEvent.stops (s : Device) : DeviceEvent → Bool
  | .stop => true
  | .netifDown => s.linkUp
  | _ => false

namespace Device

variable {s s' : Device} {b : Build} {e : DeviceEvent}

/-- **One event.**  It keeps the invariant, and the defence unless it stops the client. -/
theorem Inv.step (h : s.Inv) (hs : deviceStep b s e = some s') :
    s'.Inv ∧ (e.stops s = false → s.Defended → s'.Defended) := by
  suffices hk : Kept s s' ∨ s'.Inv ∧ e.stops s = true by
    rcases hk with hk | ⟨hinv, hstops⟩
    · exact ⟨hk.inv, fun _ => hk.defended⟩
    · refine ⟨hinv, fun hno => ?_⟩
      simp [hstops] at hno
  have hcase := deviceStep_cases h.core.selected hs
  cases hcase with
  | attempt hwait hu ha =>
    have hprep := Kept.prepared h hu
    exact .inl (hprep.trans (.attempt hprep.inv ha))
  | disconnected o => exact .inl (.frame h {})
  | netifUp => exact .inl (.frame h {})
  | netifDown hup =>
    have hdown : s.acdNetworkChangedLinkDown.Inv := by
      unfold acdNetworkChangedLinkDown
      split
      · exact h.stop
      · exact h
    have hlink : Kept s.acdNetworkChangedLinkDown
        { s.acdNetworkChangedLinkDown with linkUp := false } := .frame hdown {}
    exact .inr ⟨hlink.inv, hup⟩
  | netifDownIdle hdown => exact .inl ⟨h, id⟩
  | tick rand timerOk => exact .inl (.tick h rand)
  | arp hdr timerOk => exact .inl (.arp h hdr)
  | deferredIdle o hpend => exact .inl (.frame h {})
  | timerIdle o hnet => exact .inl (.frame h {})
  | timerPosted o hwait harmed hnet =>
    have hpend := Kept.pending h (h.core.booted_of_retryNetif hnet)
    exact .inl (hpend.trans (.frame hpend.inv {}))
  | retryIdle o hnet => exact .inl (.frame h {})
  | stop hposted =>
    have hpop : Kept s { s with postedStop := s.postedStop - 1 } := .frame h {}
    exact .inr ⟨hpop.inv.stop, rfl⟩
  | resume o taken k hwait => exact .inl (.resume h taken k)

theorem Inv.init (others : List Nat) : (Device.init others).Inv where
  core := ⟨trivial, rfl, fun h => (by cases h), fun _ => ⟨rfl, rfl, rfl, rfl⟩,
    fun h => (by cases h), fun h => (by cases h)⟩
  running := .of_idle (.inl rfl) (absurd rfl) fun h => (by cases h)

end Device

/-- **Address safety.**  In every run of the device, for every timing and every limit on the
retries, the static address is written only once the client has cleared it, and a conflict
callback leaves no address behind. -/
theorem address_safety {b : Build} {others : List Nat} {s : Device}
    (h : Reach (deviceStep b) (Device.init others) s) : AddressSafe s.log :=
  (Run.invariant h (fun _ _ _ hi _ hs => (hi.step hs).1) (Device.Inv.init others)).core.safe

/-- A static configuration, and the hardware address of the board. -/
def benchCfg : IpInfo := ⟨0x6401A8C0, 0x00FFFFFF, 0x0101A8C0⟩

def benchMac : EthAddr := #v[0x02, 0, 0, 0, 0, 1]

/-- `n` timer ticks. -/
def benchTicks (n : Nat) : List DeviceEvent := List.replicate n (.tick 1 true)

/-- Boot without a link, the link comes up, the connect handler's attempt times out, its deferred
retry starts the probe sequence again, and that one runs to `ACD_IP_OK`. -/
def benchAssign : List DeviceEvent :=
  [.boot benchCfg .good, .netifUp, .connected benchMac .good] ++ benchTicks 20 ++
    [.resume .good false] ++ benchTicks 2 ++ [.deferred .good] ++ benchTicks 20 ++
    [.resume .good false] ++ benchTicks 66

theorem address_safety_assigned :
    ∃ s, Reach (deviceStep .shipped) (Device.init [7]) s ∧
      s.ipInfo = benchCfg ∧ s.acd.state = .ongoing ∧ AddressSafe s.log := by
  have h : (exec (deviceStep .shipped) (Device.init [7]) benchAssign).map
      (fun s => (s.ipInfo, s.acd.state)) = some (benchCfg, .ongoing) := by decide +kernel
  obtain ⟨s, hs, hst⟩ := Option.map_eq_some_iff.1 h
  have hr := exec_reach hs
  rw [Prod.mk.injEq] at hst
  exact ⟨s, hr, hst.1, hst.2, address_safety hr⟩

end GroundTruth.Acd
