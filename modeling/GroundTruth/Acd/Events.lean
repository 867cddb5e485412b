/-
# What one event of the device can do

Whatever is proved about the runs of the device is proved by cases on the event; this module does
the case analysis once.

* `attempt_cases` takes `tcpip_try_pending_acd` apart: it does nothing, it puts itself off, it
  lacks a resource, or it starts the client and waits (`launched`).
* `tick_cases` says what `acd_tmr` does, and `arp_cases` when an ARP packet is a conflict.
* `deviceStep_cases` takes `deviceStep` apart.  Five of its handlers end in
  `tcpip_try_pending_acd`, on states that differ in a field or two: `Prepared` says in which.
-/
import GroundTruth.Acd.Device

namespace GroundTruth.Acd

/-! ## 1. Attempts to start the client -/

/-- What `tcpip_perform_acd` asks for is there, or was made by an earlier call. -/
def Outcome.Enough (o : Outcome) (s : Device) : Prop :=
  (s.acdSem = none → o.sem = true) ∧ o.ctx = true ∧ (s.registrationSem = none → o.regSem = true)

instance (o : Outcome) (s : Device) : Decidable (o.Enough s) :=
  inferInstanceAs (Decidable (_ ∧ _))

namespace Device

variable {s s' : Device} {b : Build} {o : Outcome} {timerOk : Bool} {rand : Nat}
  {hdr : ArpHdr} {e : DeviceEvent}

/-- The client is neither on its way to the address nor in possession of it. -/
def Idle (s : Device) : Prop := s.acd.state = .off ∨ s.acd.state = .rateLimit

instance (s : Device) : Decidable s.Idle := inferInstanceAs (Decidable (_ ∨ _))

/-- `tcpip_try_pending_acd` gets as far as `tcpip_perform_acd`. -/
def Ready (s : Device) : Prop :=
  s.probePending = true ∧ s.netifHasValidHwaddr = true ∧ s.linkUp = true

instance (s : Device) : Decidable s.Ready := inferInstanceAs (Decidable (_ ∧ _))

/-- A probe sequence is started, and `k` waits for it. -/
def launched (b : Build) (o : Outcome) (k : Caller) (s : Device) : Device :=
  { s with
    acd := acdStart b.timing o.rand s.pendingCfg.ip (if s.registered then s.acd else Client.zero)
    acdList := if s.registered then s.acdList else [.staticIp]
    registered := true
    acdActivity := 2
    acdSem := some false
    registrationSem := some false
    callbackReceived := false
    lastState := .ipOk
    waiting := some k
    log := .started s.pendingCfg.ip :: s.log }

/-- A semaphore or the context is missing. -/
inductive Unstarted (s : Device) : Device → Prop
  | noSem : Unstarted s { s with acdActivity := 3, acdFault := true }
  | noContext : Unstarted s { s with
      acdSem := some false, callbackReceived := false, lastState := .ipOk, acdActivity := 3,
      acdFault := true }

/-- The outcomes of `tcpip_try_pending_acd`. -/
inductive AttemptCase (b : Build) (o : Outcome) (k : Caller) (s : Device) : Device → Prop
  | skipped (h : s.probePending = false ∨ s.netifHasValidHwaddr = false) :
      AttemptCase b o k s (s.finish k)
  | noLink (hlink : s.linkUp = false) :
      AttemptCase b o k s (({ s with deferred := s.deferred + 1 } : Device).finish k)
  | failed {u : Device} (hready : s.Ready) (hno : ¬o.Enough s) (hu : Unstarted s u) :
      AttemptCase b o k s ((u.tcpipTryPendingAcdDone o).finish k)
  | started (hready : s.Ready) (henough : o.Enough s) :
      AttemptCase b o k s (s.launched b o k)

/-- `tcpip_try_pending_acd` does one of these. -/
theorem attempt_cases (hsel : s.selectAcd = true) (k : Caller) :
    AttemptCase b o k s (s.tcpipTryPendingAcd b o k) := by
  unfold tcpipTryPendingAcd
  split
  · exact .skipped (.inl ‹_›)
  rename_i hpend
  split
  · exact .skipped (.inr ‹_›)
  rename_i hmac
  split
  · exact .noLink ‹_›
  rename_i hlink
  have hready : s.Ready := ⟨by simpa using hpend, by simpa using hmac, by simpa using hlink⟩
  by_cases hsem : s.acdSem = none ∧ o.sem = false
  · -- the first semaphore is missing, and the callback flags are those of an earlier attempt
    have hperform : tcpipPerformAcd b o s.pendingCfg.ip { s with acdActivity := 2 } =
        ({ s with acdActivity := 3, acdFault := true }, some false) := by
      simp [tcpipPerformAcd, hsel, hsem, acdFailed]
    rw [hperform]
    exact .failed hready (fun h => by simp [h.1 hsem.1] at hsem) .noSem
  by_cases hctx : o.ctx = false ∨ s.registrationSem = none ∧ o.regSem = false
  · have hperform : tcpipPerformAcd b o s.pendingCfg.ip { s with acdActivity := 2 } =
        ({ s with acdSem := some false, callbackReceived := false, lastState := .ipOk,
                  acdActivity := 3, acdFault := true }, some false) := by
      simp only [tcpipPerformAcd, hsel, hsem, hready.1, acdFailed]
      rcases hctx with hctx | hctx
      · simp [hctx]
      · simp [hctx]
    rw [hperform]
    refine .failed hready (fun h => ?_) .noContext
    rcases hctx with hctx | hctx
    · simp [h.2.1] at hctx
    · simp [h.2.2 hctx.1] at hctx
  · rw [not_or] at hctx
    have henough : o.Enough s := by
      refine ⟨fun h => ?_, by simpa using hctx.1, fun h => ?_⟩
      · by_contra hc
        exact hsem ⟨h, by simpa using hc⟩
      · by_contra hc
        exact hctx.2 ⟨h, by simpa using hc⟩
    have hperform : tcpipPerformAcd b o s.pendingCfg.ip { s with acdActivity := 2 } =
        ({ s.launched b o k with waiting := s.waiting }, none) := by
      by_cases hreg : s.registered = true <;>
        simp [tcpipPerformAcd, launched, hsel, hsem, hctx, hready.1, hreg, register, start,
          acdAdd]
    rw [hperform]
    exact .started hready henough

/-! ## 2. Ticks -/

/-- The outcomes of `acd_tmr` on the netif. -/
inductive TickCase (b : Build) (timerOk : Bool) (rand : Nat) (s : Device) : Device → Prop
  | unlisted (hlist : .staticIp ∉ s.acdList) : TickCase b timerOk rand s s
  /-- nothing but the two counters moves -/
  | wait (hactive : s.acd.state.active → s.acd.countDown.ttw ≠ 0) :
    TickCase b timerOk rand s { s with acd := s.acd.countDown }
  /-- a probe, and not the last one -/
  | probe (hstate : s.acd.state = .probeWait ∨ s.acd.state = .probing)
      (httw : s.acd.countDown.ttw = 0)
      (hmore : (s.acd.sentNum + 1) % 256 < b.timing.probeNum) :
    TickCase b timerOk rand s { s with
      acd := { s.acd.countDown with
        state := .probing, sentNum := (s.acd.sentNum + 1) % 256,
        ttw := b.timing.randomProbeInterval rand % 65536 }
      log := .probed s.acd.ipaddr :: s.log }
  /-- the last probe -/
  | lastProbe (hstate : s.acd.state = .probeWait ∨ s.acd.state = .probing)
      (httw : s.acd.countDown.ttw = 0)
      (hlast : b.timing.probeNum ≤ (s.acd.sentNum + 1) % 256) :
    TickCase b timerOk rand s { s with
      acd := { s.acd.countDown with
        state := .announceWait, sentNum := 0, ttw := b.timing.announceWaitTicks }
      log := .probed s.acd.ipaddr :: s.log }
  /-- an announcement, and not the last one -/
  | announce (hstate : s.acd.state = .announceWait ∨ s.acd.state = .announcing)
      (httw : s.acd.countDown.ttw = 0)
      (hmore : (s.acd.sentNum + 1) % 256 < b.timing.announceNum) :
    TickCase b timerOk rand s { s with
      acd := { s.acd.countDown.entered with
        sentNum := (s.acd.countDown.entered.sentNum + 1) % 256,
        ttw := b.timing.announceIntervalTicks }
      log := .announced s.acd.countDown.entered.ipaddr :: s.log }
  /-- the last announcement: the user is told `ACD_IP_OK` -/
  | lastAnnounce (hlist : .staticIp ∈ s.acdList)
      (hstate : s.acd.state = .announceWait ∨ s.acd.state = .announcing)
      (httw : s.acd.countDown.ttw = 0)
      (hlast : b.timing.announceNum ≤ (s.acd.sentNum + 1) % 256) :
    TickCase b timerOk rand s (tcpipAcdConflictCallback b timerOk .ipOk { s with
      acd := { s.acd.countDown.entered with
        state := .ongoing, sentNum := 0, ttw := b.timing.periodicDefendTicks }
      log := .announced s.acd.countDown.entered.ipaddr :: s.log })
  /-- the periodic probe of a client that holds its address -/
  | defend (hstate : s.acd.state = .ongoing) :
    TickCase b timerOk rand s { s with
      acd := { s.acd.countDown with ttw := b.timing.periodicDefendTicks }
      log := .probed s.acd.ipaddr :: s.log }
  /-- the rate limit is over -/
  | unlimit (hstate : s.acd.state = .rateLimit) (httw : s.acd.countDown.ttw = 0) :
    TickCase b timerOk rand s (tcpipAcdConflictCallback b timerOk .restartClient
      { s with acd := acdStop s.acd.countDown })

/-- A tick does one of these. -/
theorem tick_cases (b : Build) (timerOk : Bool) (rand : Nat) (s : Device) :
    TickCase b timerOk rand s (s.tick b timerOk rand) := by
  unfold Device.tick
  split
  case isFalse hlist => exact .unlisted hlist
  case isTrue hlist =>
  by_cases hlim : s.acd.state = .rateLimit ∧ s.acd.countDown.ttw ≠ 0
  · rw [acdTmr_limited b.timing (host b timerOk) rand s hlim.1 hlim.2]
    exact .wait fun _ => hlim.2
  have hcase := acdTmr_cases b.timing (host b timerOk) rand s
  generalize acdTmr b.timing (host b timerOk) rand s = s' at hcase
  cases hcase with
  | wait hactive => exact .wait hactive
  | probe hstate httw hmore => exact .probe hstate httw hmore
  | lastProbe hstate httw hlast => exact .lastProbe hstate httw hlast
  | announce hstate httw hmore => exact .announce hstate httw hmore
  | lastAnnounce hstate httw hlast => exact .lastAnnounce hlist hstate httw hlast
  | defend hstate => exact .defend hstate
  | unlimit hstate =>
    refine .unlimit hstate ?_
    by_contra hwait
    exact hlim ⟨hstate, hwait⟩

/-- A client that announces has its address pending. -/
theorem active_of_announces (hstate : s.acd.state = .announceWait ∨ s.acd.state = .announcing) :
    s.acd.state.active := by
  rcases hstate with hs | hs
  · rw [hs]
    rfl
  · rw [hs]
    rfl

/-! ## 3. Packets -/

/-- The packet makes `acd_arp_reply` call `acd_restart` for the client. -/
def Conflicts (s : Device) (hdr : ArpHdr) : Prop :=
  .staticIp ∈ s.acdList ∧
    (s.acd.state.probes = true ∧ probeConflict s.netifHwaddr s.acd.ipaddr hdr = true ∨
      s.acd.state.holds = true ∧ useConflict s.netifHwaddr s.acd.ipaddr hdr = true ∧
        0 < s.acd.lastconflict)

instance (s : Device) (hdr : ArpHdr) : Decidable (s.Conflicts hdr) :=
  inferInstanceAs (Decidable (_ ∧ _))

theorem Conflicts.working (h : s.Conflicts hdr) : s.acd.state.probes ∨ s.acd.state.holds := by
  rcases h.2 with h | h
  · exact .inl h.1
  · exact .inr h.1

/-- The outcomes of an ARP packet. -/
inductive ArpOutcome (b : Build) (timerOk : Bool) (hdr : ArpHdr) (s : Device) : Device → Prop
  | ignored (hno : ¬s.Conflicts hdr) : ArpOutcome b timerOk hdr s s
  | defended (hno : ¬s.Conflicts hdr) (hholds : s.acd.state.holds = true)
      (huse : useConflict s.netifHwaddr s.acd.ipaddr hdr = true) :
      ArpOutcome b timerOk hdr s { s with
        acd := { s.acd with lastconflict := defendInterval * acdTicksPerSecond }
        lastConflict := some hdr
        log := .announced s.acd.ipaddr :: s.log }
  | conflict (h : s.Conflicts hdr) :
      ArpOutcome b timerOk hdr s
        (acdRestart b.timing (host b timerOk) { s with lastConflict := some hdr })

/-- A conflict in use is defended, or given up when it is the second within ten seconds. -/
theorem acdHandleArpConflict_direct {σ : Type} (t : Timing) (h : Host σ) (x : σ)
    (hdirect : (h.acd x).state ≠ .passiveOngoing) :
    acdHandleArpConflict t h x =
      if 0 < (h.acd x).lastconflict then acdRestart t h x else acdDefended h x := if_neg hdirect

/-- An ARP packet does one of these. -/
theorem arp_cases (hdirect : s.acd.state ≠ .passiveOngoing) (hdr : ArpHdr) (timerOk : Bool) :
    ArpOutcome b timerOk hdr s (s.arp b timerOk hdr) := by
  have hhost : (host b timerOk).acd s = s.acd := rfl
  unfold arp
  by_cases hlist : AcdRef.staticIp ∈ s.acdList
  case neg =>
    rw [if_neg hlist]
    exact .ignored fun h => hlist h.1
  rw [if_pos hlist]
  have hprobing (hp : s.acd.state.probes = true) (hh : s.acd.state.holds = false) :
      ArpOutcome b timerOk hdr s (if probeConflict s.netifHwaddr s.acd.ipaddr hdr
        then acdRestart b.timing (host b timerOk) { s with lastConflict := some hdr } else s) := by
    split
    · exact .conflict ⟨hlist, .inl ⟨hp, ‹_›⟩⟩
    · rename_i hc
      refine .ignored fun h => ?_
      rcases h.2 with h | h
      · exact hc h.2
      · simp [hh] at h
  have hholding (hh : s.acd.state.holds = true) (hp : s.acd.state.probes = false) :
      ArpOutcome b timerOk hdr s (if useConflict s.netifHwaddr s.acd.ipaddr hdr
        then acdHandleArpConflict b.timing (host b timerOk) { s with lastConflict := some hdr }
        else s) := by
    split
    · rename_i hc
      rw [acdHandleArpConflict_direct _ _ _ hdirect]
      split
      · exact .conflict ⟨hlist, .inr ⟨hh, hc, ‹_›⟩⟩
      · rename_i hlast
        refine .defended (fun h => ?_) hh hc
        rcases h.2 with h | h
        · simp [hp] at h
        · exact hlast h.2.2
    · rename_i hc
      refine .ignored fun h => ?_
      rcases h.2 with h | h
      · simp [hp] at h
      · exact hc h.2.1
  have hidle (hp : s.acd.state.probes = false) (hh : s.acd.state.holds = false) :
      ArpOutcome b timerOk hdr s s := .ignored fun h => by
    rcases h.working with h | h
    · simp [hp] at h
    · simp [hh] at h
  unfold acdArpReply
  dsimp only
  rw [hhost]
  split
  case h_1 hs => exact hidle (by rw [hs]; rfl) (by rw [hs]; rfl)
  case h_2 hs => exact hidle (by rw [hs]; rfl) (by rw [hs]; rfl)
  case h_3 hs => exact hprobing (by rw [hs]; rfl) (by rw [hs]; rfl)
  case h_4 hs => exact hprobing (by rw [hs]; rfl) (by rw [hs]; rfl)
  case h_5 hs => exact hprobing (by rw [hs]; rfl) (by rw [hs]; rfl)
  case h_6 hs => exact hholding (by rw [hs]; rfl) (by rw [hs]; rfl)
  case h_7 hs => exact hholding (by rw [hs]; rfl) (by rw [hs]; rfl)
  case h_8 hs => exact absurd hs hdirect

/-! ## 4. Events -/

/-- The events that end in `tcpip_try_pending_acd`, called by `k` on the state `u`. -/
inductive Prepared (s : Device) : DeviceEvent → Outcome → Caller → Device → Prop
  | boot {cfg : IpInfo} {o : Outcome} (hfresh : s.booted = false) (hip : cfg.ip ≠ 0) :
      Prepared s (.boot cfg o) o .other
        { s with booted := true, pendingCfg := cfg, probePending := true, acdActivity := 1 }
  | connected {mac : EthAddr} {o : Outcome} :
      Prepared s (.connected mac o) o .connected { s with hwaddr := mac.toList }
  | deferred {o : Outcome} (hpend : s.probePending = true) :
      Prepared s (.deferred o) o .other { s with deferred := s.deferred - 1 }
  | timer {o : Outcome} (harmed : s.retryTimer = .armed) (hnet : s.retryNetif = true)
      (hpost : o.post = false) :
      Prepared s (.timer o) o .other { s with retryTimer := .stopped, probePending := true }
  | retry {o : Outcome} (hposted : 0 < s.postedRetry) (hnet : s.retryNetif = true) :
      Prepared s (.retry o) o .other { s with postedRetry := s.postedRetry - 1 }

/-- The outcomes of an event. -/
inductive DeviceCase (b : Build) (s : Device) : DeviceEvent → Device → Prop
  | attempt {e : DeviceEvent} {o : Outcome} {k : Caller} {u s' : Device}
      (hwait : s.waiting = none) (hu : Prepared s e o k u) (h : AttemptCase b o k u s') :
      DeviceCase b s e s'
  | disconnected (o : Outcome) : DeviceCase b s (.disconnected o) (s.postStop o.post)
  | netifUp : DeviceCase b s .netifUp { s with linkUp := true }
  | netifDown (hup : s.linkUp = true) :
      DeviceCase b s .netifDown { s.acdNetworkChangedLinkDown with linkUp := false }
  | netifDownIdle (hdown : s.linkUp = false) : DeviceCase b s .netifDown s
  | tick (rand : Nat) (timerOk : Bool) :
      DeviceCase b s (.tick rand timerOk) (s.tick b timerOk rand)
  | arp (hdr : ArpHdr) (timerOk : Bool) : DeviceCase b s (.arp hdr timerOk) (s.arp b timerOk hdr)
  | deferredIdle (o : Outcome) (hpend : s.probePending = false) :
      DeviceCase b s (.deferred o) { s with deferred := s.deferred - 1 }
  | timerIdle (o : Outcome) (hnet : s.retryNetif = false) :
      DeviceCase b s (.timer o) { s with retryTimer := .stopped }
  | timerPosted (o : Outcome) (hwait : s.waiting = none) (harmed : s.retryTimer = .armed)
      (hnet : s.retryNetif = true) :
      DeviceCase b s (.timer o)
        { s with retryTimer := .stopped, probePending := true, postedRetry := s.postedRetry + 1 }
  | retryIdle (o : Outcome) (hnet : s.retryNetif = false) :
      DeviceCase b s (.retry o) { s with postedRetry := s.postedRetry - 1 }
  | stop (hposted : 0 < s.postedStop) :
      DeviceCase b s .stop { s with postedStop := s.postedStop - 1, acd := acdStop s.acd }
  | resume (o : Outcome) (taken : Bool) (k : Caller) (hwait : s.waiting = some k) :
      DeviceCase b s (.resume o taken) (s.resume o taken k)

theorem Prepared.selectAcd {k : Caller} {u : Device} (h : Prepared s e o k u) :
    u.selectAcd = s.selectAcd := by
  cases h <;> rfl

/-- An event does one of these. -/
theorem deviceStep_cases (hsel : s.selectAcd = true) (h : deviceStep b s e = some s') :
    DeviceCase b s e s' := by
  have hattempt {o : Outcome} {k : Caller} {u : Device} (hwait : s.waiting = none)
      (hu : Prepared s e o k u) : DeviceCase b s e (u.tcpipTryPendingAcd b o k) :=
    .attempt hwait hu (attempt_cases (hu.selectAcd.trans hsel) k)
  cases e with
  | boot cfg o =>
    rw [deviceStep] at h
    split at h
    · rename_i hg
      obtain rfl := Option.some.inj h
      exact hattempt hg.2.1 (.boot hg.1 hg.2.2.1)
    · cases h
  | connected mac o =>
    rw [deviceStep] at h
    split at h
    · obtain rfl := Option.some.inj h
      exact hattempt ‹_› .connected
    · cases h
  | disconnected o =>
    rw [deviceStep] at h
    split at h
    · obtain rfl := Option.some.inj h
      exact .disconnected o
    · cases h
  | netifUp =>
    obtain rfl := Option.some.inj h
    exact .netifUp
  | netifDown =>
    rw [deviceStep] at h
    split at h
    · obtain rfl := Option.some.inj h
      exact .netifDown ‹_›
    · obtain rfl := Option.some.inj h
      exact .netifDownIdle (Bool.eq_false_iff.2 ‹_›)
  | tick rand timerOk =>
    obtain rfl := Option.some.inj h
    exact .tick rand timerOk
  | arp hdr timerOk =>
    obtain rfl := Option.some.inj h
    exact .arp hdr timerOk
  | deferred o =>
    rw [deviceStep] at h
    split at h
    · rename_i hg
      obtain rfl := Option.some.inj h
      rw [tcpipRetryAcdDeferred]
      split
      · exact .deferredIdle o ‹_›
      · exact hattempt hg.2 (.deferred (eq_true_of_ne_false ‹_›))
    · cases h
  | timer o =>
    rw [deviceStep] at h
    split at h
    · rename_i hg
      obtain rfl := Option.some.inj h
      rw [tcpipAcdRetryTimerCallback]
      split
      · exact .timerIdle o ‹_›
      · rename_i hnet
        dsimp only
        split
        · exact .timerPosted o hg.2 hg.1 (eq_true_of_ne_false hnet)
        · exact hattempt hg.2
            (.timer hg.1 (eq_true_of_ne_false hnet) (Bool.eq_false_iff.2 ‹_›))
    · cases h
  | retry o =>
    rw [deviceStep] at h
    split at h
    · rename_i hg
      obtain rfl := Option.some.inj h
      rw [retryCallback]
      split
      · exact hattempt hg.2 (.retry hg.1 ‹_›)
      · exact .retryIdle o (Bool.eq_false_iff.2 ‹_›)
    · cases h
  | stop =>
    rw [deviceStep] at h
    split at h
    · obtain rfl := Option.some.inj h
      exact .stop ‹_›
    · cases h
  | resume o taken =>
    rw [deviceStep] at h
    split at h
    · rename_i k hk
      split at h
      · obtain rfl := Option.some.inj h
        exact .resume o taken k hk
      · cases h
    · cases h

end Device

end GroundTruth.Acd
