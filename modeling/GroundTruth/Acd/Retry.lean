/-
# The retry cycle

What the flags of `main.c`, the one-shot timer and lwIP's client amount to, as far as trying
again after a conflict is concerned, is a small machine: nothing has happened, a retry is
delayed, it is posted to the tcpip thread, its probe sequence runs, or the cycle has come to an
end.  A `Cycle` is that machine's state, with the conflicts since the last `ACD_IP_OK` and the
attempts they have taken.

* `InCycle.step`: the device refines it.  While after a conflict no attempt but the retry's own
  reaches `tcpip_perform_acd`, and no rate limit ends over a posted retry, each event of the
  device is one move of the cycle.
* `CycleMove.ok`: what the moves keep of the two counts.  A retry is on its way only while the
  conflicts before the last have left an attempt.
-/
import GroundTruth.Acd.Conflict

namespace GroundTruth.Acd

open GroundTruth.Lib

/-! ## 1. The cycle -/

inductive RetryPhase
  /-- no conflict since the last `ACD_IP_OK` -/
  | fresh
  /-- the retry timer runs -/
  | delayed
  /-- it has expired, and `retry_callback` is posted -/
  | posted
  /-- the probe sequence of the retry runs -/
  | probing
  /-- nothing is on its way -/
  | ended
  deriving DecidableEq, Repr

structure Cycle where
  phase : RetryPhase
  conflicts : Nat
  count : Nat
  deriving DecidableEq, Repr

/-- The attempts one conflict takes of `n` made so far: a client that is limited by its first
conflict tells its user once, and any other one twice. -/
def Build.consume (b : Build) (n : Nat) : Nat :=
  if b.timing.maxConflicts ≤ 1 then b.spend n else b.spend (b.spend n)

/-- How many attempts that is at most. -/
def Build.cost (b : Build) : Nat := if b.timing.maxConflicts ≤ 1 then 1 else 2

/-- The event comes from the retry timer. -/
def DeviceEvent.retries : DeviceEvent → Bool
  | .timer _ => true
  | .retry _ => true
  | _ => false

/-- The retry timer expires. -/
def DeviceEvent.expires : DeviceEvent → Bool
  | .timer _ => true
  | _ => false

/-- Whether `xTimerCreate` succeeds, for an event that may be a conflict. -/
def DeviceEvent.timerMade : DeviceEvent → Bool
  | .arp _ timerOk => timerOk
  | _ => true

namespace Device

/-- The next tick is the last announcement. -/
def Announces (b : Build) (s : Device) : Prop :=
  (s.acd.state = .announceWait ∨ s.acd.state = .announcing) ∧ s.acd.countDown.ttw = 0 ∧
    b.timing.announceNum ≤ (s.acd.sentNum + 1) % 256

instance (b : Build) (s : Device) : Decidable (s.Announces b) :=
  inferInstanceAs (Decidable (_ ∧ _))

/-- The next tick ends the rate limit. -/
def Unlimited (s : Device) : Prop := s.acd.state = .rateLimit ∧ s.acd.countDown.ttw = 0

instance (s : Device) : Decidable s.Unlimited := inferInstanceAs (Decidable (_ ∧ _))

/-- After a conflict no attempt but the retry's own gets through to `tcpip_perform_acd`, and no
rate limit ends over a posted retry. -/
def Steady (s : Device) : DeviceEvent → Prop
  | .connected mac _ =>
    0 < recentConflicts s.log → ¬({ s with hwaddr := mac.toList } : Device).Ready
  | .deferred _ => 0 < recentConflicts s.log → ¬s.Ready
  | .tick _ _ => s.Unlimited → s.postedRetry = 0
  | _ => True

instance (s : Device) : ∀ e : DeviceEvent, Decidable (s.Steady e)
  | .connected _ _ => inferInstanceAs (Decidable (_ → _))
  | .deferred _ => inferInstanceAs (Decidable (_ → _))
  | .tick _ _ => inferInstanceAs (Decidable (_ → _))
  | .boot _ _ | .disconnected _ | .netifUp | .netifDown | .arp _ _ | .timer _ | .retry _ | .stop
  | .resume _ _ => inferInstanceAs (Decidable True)

/-- A probe sequence is stopped, or a retry that expires or is run does not start one. -/
inductive Fails (s : Device) (e : DeviceEvent) : Prop
  | stopped (h : e.stops s = true) (hwork : ¬s.Idle)
  | attempt {o : Outcome} {k : Caller} {u : Device} (he : e.retries = true)
      (hu : Prepared s e o k u) (hno : ¬(u.Ready ∧ o.Enough u))

end Device

/-- The moves of the cycle, and the events of the device that make them. -/
inductive CycleMove (b : Build) (s : Device) (e : DeviceEvent) (s' : Device) (c : Cycle) :
    Cycle → Prop
  | stay (hstart : starts s'.log = starts s.log ∨ c.phase = .fresh ∧ e.retries = false) :
      CycleMove b s e s' c c
  | conflict {ph : RetryPhase} (hphase : c.phase = .fresh ∨ c.phase = .probing)
      (hph : ph = .delayed ∧ b.Retries c.count ∨
        ph = .ended ∧ (¬b.Retries c.count ∨ e.timerMade = false))
      (hstart : starts s'.log = starts s.log) :
      CycleMove b s e s' c ⟨ph, c.conflicts + 1, b.consume c.count⟩
  | lift {ph : RetryPhase} (hphase : c.phase = .delayed ∨ c.phase = .ended)
      (he : e.ticks = true) (hlift : s.Unlimited)
      (hph : ph = c.phase ∨ ph = .delayed ∧ b.Retries c.count)
      (hstart : starts s'.log = starts s.log) :
      CycleMove b s e s' c ⟨ph, c.conflicts, b.spend c.count⟩
  | expire (hphase : c.phase = .delayed) (he : e.expires = true)
      (hstart : starts s'.log = starts s.log) :
      CycleMove b s e s' c { c with phase := .posted }
  | start (hphase : c.phase = .delayed ∧ e.expires = true ∨ c.phase = .posted)
      (hretry : e.retries = true)
      (hstart : starts s'.log = starts s.log + 1) :
      CycleMove b s e s' c { c with phase := .probing }
  | drop (hphase : c.phase ≠ .fresh) (hfail : s.Fails e)
      (hstart : starts s'.log = starts s.log) :
      CycleMove b s e s' c { c with phase := .ended }
  | ok (hphase : c.phase = .fresh ∨ c.phase = .probing) (he : e.ticks = true)
      (hok : s.Announces b) (hstart : starts s'.log = starts s.log) :
      CycleMove b s e s' c ⟨.fresh, 0, 0⟩

/-! ## 2. The device in the cycle -/

namespace Device

/-- What each phase of the cycle means for the device. -/
def Fits (s : Device) : RetryPhase → Prop
  | .fresh => s.retryTimer ≠ .armed ∧ s.postedRetry = 0 ∧ s.acd.numConflicts = 0 ∧
      s.acd.state ≠ .rateLimit
  | .delayed => s.retryTimer = .armed ∧ s.postedRetry = 0 ∧ s.Idle ∧ s.registered = false ∧
      s.retryNetif = true
  | .posted => s.retryTimer ≠ .armed ∧ s.postedRetry = 1 ∧ s.Idle ∧ s.registered = false ∧
      s.retryNetif = true ∧ s.probePending = true ∧ s.waiting = none
  | .probing => s.retryTimer ≠ .armed ∧ s.postedRetry = 0 ∧ ¬s.Idle ∧ s.acd.numConflicts = 0
  | .ended => s.retryTimer ≠ .armed ∧ s.postedRetry = 0 ∧ s.Idle

/-- The device is where the cycle says. -/
structure InCycle (s : Device) (c : Cycle) : Prop where
  conflicts : recentConflicts s.log = c.conflicts
  count : s.retryCount = c.count
  fits : s.Fits c.phase

variable {s s' : Device} {b : Build} {o : Outcome} {timerOk : Bool} {c : Cycle} {e : DeviceEvent}

/-- The two states agree on what the cycle reads, but for the flags of a posted retry. -/
structure Aside (s s' : Device) : Prop where
  idle : s'.Idle ↔ s.Idle := by exact Iff.rfl
  limited : s'.acd.state = .rateLimit → s.acd.state = .rateLimit := by exact id
  numConflicts : s.acd.numConflicts = 0 → s'.acd.numConflicts = 0 := by exact id
  registered : s'.registered = s.registered := by rfl
  retryTimer : s'.retryTimer = s.retryTimer := by rfl
  retryCount : s'.retryCount = s.retryCount := by rfl
  retryNetif : s'.retryNetif = s.retryNetif := by rfl
  postedRetry : s'.postedRetry = s.postedRetry := by rfl
  recent : recentConflicts s'.log = recentConflicts s.log := by rfl
  starts : starts s'.log = starts s.log := by rfl

/-- The two states agree on what the cycle reads. -/
structure Unmoved (s s' : Device) : Prop extends Aside s s' where
  pending : s.waiting = none → s'.probePending = s.probePending ∧ s'.waiting = none := by
    exact fun h => ⟨rfl, h⟩

theorem Fits.aside {ph : RetryPhase} (h : s.Fits ph) (hne : ph ≠ .posted) (ha : Aside s s') :
    s'.Fits ph := by
  cases ph with
  | fresh =>
    obtain ⟨h1, h2, h3, h4⟩ := h
    exact ⟨ha.retryTimer ▸ h1, ha.postedRetry.trans h2, ha.numConflicts h3,
      fun hl => h4 (ha.limited hl)⟩
  | delayed =>
    obtain ⟨h1, h2, h3, h4, h5⟩ := h
    exact ⟨ha.retryTimer.trans h1, ha.postedRetry.trans h2, ha.idle.2 h3, ha.registered.trans h4,
      ha.retryNetif.trans h5⟩
  | posted => exact absurd rfl hne
  | probing =>
    obtain ⟨h1, h2, h3, h4⟩ := h
    exact ⟨ha.retryTimer ▸ h1, ha.postedRetry.trans h2, fun hi => h3 (ha.idle.1 hi),
      ha.numConflicts h4⟩
  | ended =>
    obtain ⟨h1, h2, h3⟩ := h
    exact ⟨ha.retryTimer ▸ h1, ha.postedRetry.trans h2, ha.idle.2 h3⟩

theorem Fits.unmoved {ph : RetryPhase} (h : s.Fits ph) (hu : Unmoved s s') : s'.Fits ph := by
  by_cases hph : ph = .posted
  · subst hph
    obtain ⟨h1, h2, h3, h4, h5, h6, h7⟩ := h
    exact ⟨hu.retryTimer ▸ h1, hu.postedRetry.trans h2, hu.idle.2 h3, hu.registered.trans h4,
      hu.retryNetif.trans h5, (hu.pending h7).1.trans h6, (hu.pending h7).2⟩
  · exact h.aside hph hu.toAside

/-- What leaves the cycle alone. -/
theorem InCycle.unmoved (h : s.InCycle c) (hu : Unmoved s s') :
    s'.InCycle c ∧ CycleMove b s e s' c c :=
  ⟨⟨hu.recent.trans h.conflicts, hu.retryCount.trans h.count, h.fits.unmoved hu⟩,
    .stay (.inl hu.starts)⟩

theorem Aside.trans {s₁ s₂ s₃ : Device} (h : Aside s₁ s₂) (h' : Aside s₂ s₃) : Aside s₁ s₃ where
  idle := h'.idle.trans h.idle
  limited hl := h.limited (h'.limited hl)
  numConflicts h0 := h'.numConflicts (h.numConflicts h0)
  registered := h'.registered.trans h.registered
  retryTimer := h'.retryTimer.trans h.retryTimer
  retryCount := h'.retryCount.trans h.retryCount
  retryNetif := h'.retryNetif.trans h.retryNetif
  postedRetry := h'.postedRetry.trans h.postedRetry
  recent := h'.recent.trans h.recent
  starts := h'.starts.trans h.starts

theorem Unmoved.trans {s₁ s₂ s₃ : Device} (h : Unmoved s₁ s₂) (h' : Unmoved s₂ s₃) :
    Unmoved s₁ s₃ where
  toAside := h.toAside.trans h'.toAside
  pending hw := ⟨(h'.pending (h.pending hw).2).1.trans (h.pending hw).1,
    (h'.pending (h.pending hw).2).2⟩

theorem Unmoved.finish (s : Device) (k : Caller) : Unmoved s (s.finish k) := by
  cases k <;> exact {}

/-- The end of an attempt: the address is assigned or given up. -/
theorem Aside.done (s : Device) (o : Outcome) : Aside s (s.tcpipTryPendingAcdDone o) := by
  unfold tcpipTryPendingAcdDone
  split
  · exact {}
  · dsimp only
    split <;> exact {}

/-- A blocked caller returns. -/
theorem Aside.resume (s : Device) (o : Outcome) (taken : Bool) (k : Caller) :
    Aside s (s.resume o taken k) := by
  have hres : Aside s (tcpipPerformAcdResume o taken { s with waiting := none }).1 := by
    unfold tcpipPerformAcdResume
    split
    · dsimp only
      split <;> exact {}
    · split
      · exact {}
      · split <;> exact {}
  exact (hres.trans (.done _ o)).trans (Unmoved.finish _ k).toAside

/-! ## 3. The client's drivers -/

/-- A call of the user that ends the rate limit. -/
theorem InCycle.lift (h : s.InCycle c) (he : e.ticks = true) (hlift : s.Unlimited)
    (hposted : s.postedRetry = 0) :
    ∃ c', (tcpipAcdConflictCallback b timerOk .restartClient
        { s with acd := acdStop s.acd.countDown }).InCycle c' ∧
      CycleMove b s e (tcpipAcdConflictCallback b timerOk .restartClient
        { s with acd := acdStop s.acd.countDown }) c c' := by
  have hne : AcdCallback.restartClient ≠ .ipOk := by decide
  have hconf := callback_conflict b timerOk { s with acd := acdStop s.acd.countDown } hne
  have hdeny := callback_denied b timerOk { s with acd := acdStop s.acd.countDown } hne
  generalize tcpipAcdConflictCallback b timerOk .restartClient
    { s with acd := acdStop s.acd.countDown } = s' at hconf hdeny
  have hidle : s'.Idle := by
    rcases hconf.acd with ha | ha
    · exact .inl (congrArg Client.state ha)
    · exact .inl (congrArg Client.state ha)
  have hcount : s'.retryCount = b.spend c.count := by
    rw [hdeny.retryCount, ← h.count]
  have hrecent : recentConflicts s'.log = c.conflicts :=
    hconf.recent_restartClient.trans h.conflicts
  have hpost : s'.postedRetry = 0 := hdeny.postedRetry.trans hposted
  have hreg : s'.registered = if b.Retries c.count then false else s.registered := by
    rw [hdeny.registered, ← h.count]
  have hnet : s'.retryNetif = if b.Retries c.count then true else s.retryNetif := by
    rw [hdeny.retryNetif, ← h.count]
  have htimer : s'.retryTimer =
      if b.Retries c.count ∧ (s.retryTimer = .absent → timerOk) then .armed else s.retryTimer := by
    rw [hdeny.retryTimer, ← h.count]
  obtain ⟨ph, n, m⟩ := c
  have hfits := h.fits
  cases ph with
  | fresh => exact absurd hlift.1 hfits.2.2.2
  | posted => simp [hfits.2.1] at hposted
  | probing => exact absurd (.inr hlift.1) hfits.2.2.1
  | delayed =>
    obtain ⟨h1, h2, h3, h4, h5⟩ := hfits
    refine ⟨⟨.delayed, n, b.spend m⟩, ⟨hrecent, hcount, ?_⟩,
      .lift (.inl rfl) he hlift (.inl rfl) hconf.starts⟩
    refine ⟨?_, hpost, hidle, ?_, ?_⟩
    · rw [htimer, h1]
      split <;> rfl
    · rw [hreg, h4]
      split <;> rfl
    · rw [hnet, h5]
      split <;> rfl
  | ended =>
    obtain ⟨h1, h2, h3⟩ := hfits
    by_cases hr : b.Retries m ∧ (s.retryTimer = .absent → timerOk = true)
    · -- a client that was limited without a timer gets one now
      refine ⟨⟨.delayed, n, b.spend m⟩, ⟨hrecent, hcount, ?_⟩,
        .lift (.inr rfl) he hlift (.inr ⟨rfl, hr.1⟩) hconf.starts⟩
      refine ⟨?_, hpost, hidle, ?_, ?_⟩
      · rw [htimer, if_pos hr]
      · rw [hreg, if_pos hr.1]
      · rw [hnet, if_pos hr.1]
    · refine ⟨⟨.ended, n, b.spend m⟩, ⟨hrecent, hcount, ?_⟩,
        .lift (.inr rfl) he hlift (.inl rfl) hconf.starts⟩
      refine ⟨?_, hpost, hidle⟩
      rw [htimer, if_neg hr]
      exact h1

/-- `ACD_IP_OK`: there is nothing left to retry. -/
theorem InCycle.ipOk (h : s.InCycle c) (timerOk : Bool) (he : e.ticks = true) (hi : s.Inv)
    (hp : s.probePending = true)
    (hok : s.Announces b) (a : Client) (ha : a.state = .ongoing)
    (hnum : s.acd.numConflicts = 0 → a.numConflicts = 0) (ip : Ip4) :
    ∃ c', (tcpipAcdConflictCallback b timerOk .ipOk
        { s with acd := a, log := .announced ip :: s.log }).InCycle c' ∧
      CycleMove b s e (tcpipAcdConflictCallback b timerOk .ipOk
        { s with acd := a, log := .announced ip :: s.log }) c c' := by
  rw [callback_announced hi hp]
  have hactive : ¬s.Idle := by
    rintro (hs | hs) <;> rcases hok.1 with h' | h' <;> rw [hs] at h' <;> cases h'
  have htimer (h1 : s.retryTimer ≠ .armed) :
      (if s.retryTimer = .absent then RetryTimer.absent else .stopped) ≠ .armed := by
    split <;> decide
  have hlimit : a.state ≠ .rateLimit := by simp [ha]
  obtain ⟨ph, n, m⟩ := c
  have hfits := h.fits
  cases ph with
  | fresh =>
    obtain ⟨h1, h2, h3, h4⟩ := hfits
    exact ⟨⟨.fresh, 0, 0⟩, ⟨rfl, rfl, htimer h1, h2, hnum h3, hlimit⟩, .ok (.inl rfl) he hok rfl⟩
  | delayed => exact absurd hfits.2.2.1 hactive
  | posted => exact absurd hfits.2.2.1 hactive
  | ended => exact absurd hfits.2.2 hactive
  | probing =>
    obtain ⟨h1, h2, h3, h4⟩ := hfits
    exact ⟨⟨.fresh, 0, 0⟩, ⟨rfl, rfl, htimer h1, h2, hnum h4, hlimit⟩,
      .ok (.inr rfl) he hok rfl⟩

/-- A tick of a client at work that tells its user nothing. -/
theorem Unmoved.quiet (hwork : ¬s.Idle) {a : Client} {log : List Obs} (hlog : Sent s.log log)
    (ha : a.state ≠ .off ∧ a.state ≠ .rateLimit)
    (hnum : s.acd.numConflicts = 0 → a.numConflicts = 0) (lc : Option ArpHdr) :
    Unmoved s { s with acd := a, log := log, lastConflict := lc } := by
  have hidle : ¬({ s with acd := a, log := log, lastConflict := lc } : Device).Idle :=
    fun h => h.elim ha.1 ha.2
  cases hlog with
  | nothing => exact { idle := iff_of_false hidle hwork, limited := fun h => absurd h ha.2,
                       numConflicts := hnum }
  | probe ip => exact { idle := iff_of_false hidle hwork, limited := fun h => absurd h ha.2,
                        numConflicts := hnum }
  | announce ip => exact { idle := iff_of_false hidle hwork, limited := fun h => absurd h ha.2,
                           numConflicts := hnum }

theorem entered_numConflicts {a : Client} (h : a.numConflicts = 0) :
    a.entered.numConflicts = 0 := by
  unfold Client.entered
  split
  · rfl
  · exact h

/-- **A tick.** -/
theorem InCycle.tick (h : s.InCycle c) (hi : s.Inv) (hg : s.Unlimited → s.postedRetry = 0)
    (he : e.ticks = true) (rand : Nat) :
    ∃ c', (s.tick b timerOk rand).InCycle c' ∧
      CycleMove b s e (s.tick b timerOk rand) c c' := by
  have hcase := tick_cases b timerOk rand s
  generalize s.tick b timerOk rand = s' at hcase ⊢
  have hwork {st : AcdState} (hs : s.acd.state = st) (h1 : st ≠ .off) (h2 : st ≠ .rateLimit) :
      ¬s.Idle := fun hidle => hidle.elim (fun h' => h1 (hs.symm.trans h'))
        fun h' => h2 (hs.symm.trans h')
  cases hcase with
  | unlisted => exact ⟨c, h.unmoved {}⟩
  | wait hactive => exact ⟨c, h.unmoved {}⟩
  | probe hstate =>
    refine ⟨c, h.unmoved (.quiet (a := { s.acd.countDown with
        state := .probing, sentNum := (s.acd.sentNum + 1) % 256,
        ttw := b.timing.randomProbeInterval rand % 65536 })
      ?_ (.probe s.acd.ipaddr) (by simp) id s.lastConflict)⟩
    rcases hstate with hs | hs <;> exact hwork hs (by decide) (by decide)
  | lastProbe hstate =>
    refine ⟨c, h.unmoved (.quiet (a := { s.acd.countDown with
        state := .announceWait, sentNum := 0, ttw := b.timing.announceWaitTicks })
      ?_ (.probe s.acd.ipaddr) (by simp) id s.lastConflict)⟩
    rcases hstate with hs | hs <;> exact hwork hs (by decide) (by decide)
  | announce hstate =>
    have hent := entered_state (a := s.acd.countDown) hstate
    refine ⟨c, h.unmoved (.quiet (a := { s.acd.countDown.entered with
        sentNum := (s.acd.countDown.entered.sentNum + 1) % 256,
        ttw := b.timing.announceIntervalTicks })
      ?_ (.announce s.acd.countDown.entered.ipaddr) ?_
      (fun h0 => entered_numConflicts (a := s.acd.countDown) h0) s.lastConflict)⟩
    · rcases hstate with hs | hs <;> exact hwork hs (by decide) (by decide)
    · rcases hent with he | he <;> simp [he]
  | lastAnnounce hlist hstate httw hlast =>
    exact h.ipOk timerOk he hi (hi.running.active (active_of_announces hstate)).1
      ⟨hstate, httw, hlast⟩ { s.acd.countDown.entered with
        state := .ongoing, sentNum := 0, ttw := b.timing.periodicDefendTicks } rfl
      (fun h0 => entered_numConflicts (a := s.acd.countDown) h0) _
  | defend hstate =>
    exact ⟨c, h.unmoved (.quiet (a := { s.acd.countDown with ttw := b.timing.periodicDefendTicks })
      (hwork hstate (by decide) (by decide)) (.probe s.acd.ipaddr)
      (by simp [hstate]) id s.lastConflict)⟩
  | unlimit hstate httw => exact h.lift he ⟨hstate, httw⟩ (hg ⟨hstate, httw⟩)

/-- **A conflict.** -/
theorem InCycle.conflict {hdr : ArpHdr} (h : s.InCycle c) (hc : s.Conflicts hdr) :
    ∃ c', (acdRestart b.timing (host b timerOk) { s with lastConflict := some hdr }).InCycle c' ∧
      CycleMove b s (.arp hdr timerOk)
        (acdRestart b.timing (host b timerOk) { s with lastConflict := some hdr }) c c' := by
  have hwork : ¬s.Idle := by
    rintro (hs | hs) <;> rcases hc.working with h' | h' <;> rw [hs] at h' <;> cases h'
  obtain ⟨ph, n, m⟩ := c
  have hfits := h.fits
  have hn : recentConflicts s.log = n := h.conflicts
  have hm : s.retryCount = m := h.count
  have hphase : (ph = .fresh ∨ ph = .probing) ∧ s.retryTimer ≠ .armed ∧ s.postedRetry = 0 ∧
      s.acd.numConflicts = 0 := by
    cases ph with
    | fresh => exact ⟨.inl rfl, hfits.1, hfits.2.1, hfits.2.2.1⟩
    | delayed => exact absurd hfits.2.2.1 hwork
    | posted => exact absurd hfits.2.2.1 hwork
    | ended => exact absurd hfits.2.2 hwork
    | probing => exact ⟨.inr rfl, hfits.1, hfits.2.1, hfits.2.2.2⟩
  obtain ⟨hph, htimer, hpost, hnum⟩ := hphase
  -- the client has counted no conflict since it was wiped
  have hspec := restart_spec b timerOk { s with lastConflict := some hdr }
  generalize acdRestart b.timing (host b timerOk) { s with lastConflict := some hdr } = s' at hspec
  have hone : (({ s with lastConflict := some hdr } : Device).acd.numConflicts + 1) % 256 = 1 := by
    simp [hnum]
  rw [hone] at hspec
  obtain ⟨st, hst, hr⟩ : ∃ st, (st = .off ∨ st = .rateLimit) ∧
      Restarted b timerOk st (b.consume m) { s with lastConflict := some hdr } s' := by
    unfold Build.consume
    rw [← hm]
    split
    · exact ⟨_, .inr rfl, hspec.1 ‹_›⟩
    · exact ⟨_, .inl rfl, hspec.2 (Nat.lt_of_not_le ‹_›)⟩
  have hidle : s'.Idle := by
    unfold Idle
    rw [hr.state]
    exact hst
  have hrecent : recentConflicts s'.log = n + 1 := by
    rw [hr.recent, ← hn]
  have hpost' : s'.postedRetry = 0 := hr.postedRetry.trans hpost
  have htimer' : s'.retryTimer =
      if b.Retries m ∧ (s.retryTimer = .absent → timerOk) then .armed else s.retryTimer := by
    rw [hr.retryTimer, ← hm]
  by_cases hgo : b.Retries m ∧ (s.retryTimer = .absent → timerOk = true)
  · refine ⟨⟨.delayed, n + 1, b.consume m⟩, ⟨hrecent, hr.count, ?_⟩,
      .conflict hph (.inl ⟨rfl, hgo.1⟩) hr.starts⟩
    refine ⟨?_, hpost', hidle, ?_, ?_⟩
    · rw [htimer', if_pos hgo]
    · rw [hr.registered, if_pos (hm ▸ hgo.1)]
    · rw [hr.retryNetif, if_pos (hm ▸ hgo.1)]
  · refine ⟨⟨.ended, n + 1, b.consume m⟩, ⟨hrecent, hr.count, ?_⟩,
      .conflict hph (.inr ⟨rfl, ?_⟩) hr.starts⟩
    · refine ⟨?_, hpost', hidle⟩
      rw [htimer', if_neg hgo]
      exact htimer
    · by_cases hretry : b.Retries m
      · refine .inr ?_
        cases timerOk with
        | true => exact absurd ⟨hretry, fun _ => rfl⟩ hgo
        | false => rfl
      · exact .inl hretry

/-! ## 4. Attempts -/

/-- An attempt that does not get through to `tcpip_perform_acd`. -/
theorem AttemptCase.unmoved {k : Caller} {u : Device} (h : AttemptCase b o k u s')
    (hno : ¬u.Ready) : Unmoved u s' := by
  cases h with
  | skipped _ => exact .finish u k
  | noLink _ =>
    have hdef : Unmoved u { u with deferred := u.deferred + 1 } := {}
    exact hdef.trans (.finish _ k)
  | failed hready _ _ => exact absurd hready hno
  | started hready _ => exact absurd hready hno

/-- An attempt starts the client, or leaves the cycle alone. -/
theorem AttemptCase.launches {k : Caller} {u : Device} (h : AttemptCase b o k u s') :
    s' = u.launched b o k ∨ ¬(u.Ready ∧ o.Enough u) ∧ Aside u s' := by
  cases h with
  | skipped hs =>
    refine .inr ⟨fun hready => ?_, (Unmoved.finish u k).toAside⟩
    rcases hs with hs | hs
    · simp [hready.1.1] at hs
    · simp [hready.1.2.1] at hs
  | noLink hlink =>
    refine .inr ⟨fun hready => by simp [hready.1.2.2] at hlink, ?_⟩
    have hdef : Aside u { u with deferred := u.deferred + 1 } := {}
    exact hdef.trans (Unmoved.finish _ k).toAside
  | @failed v _ hno hu =>
    refine .inr ⟨fun hready => hno hready.2, ?_⟩
    have hun : Aside u v := by cases hu <;> exact {}
    exact (hun.trans (.done v o)).trans (Unmoved.finish _ k).toAside
  | started _ _ => exact .inl rfl

theorem launched_numConflicts {k : Caller} {u : Device}
    (h : u.registered = false ∨ u.acd.numConflicts = 0) :
    (u.launched b o k).acd.numConflicts = 0 := by
  by_cases hr : u.registered = true
  · have hnum := h.resolve_left (by simp [hr])
    simp [launched, hr, acdStart, hnum]
  · simp [launched, hr, acdStart, Client.zero]

/-- An attempt of the boot, of the connect handler or of a deferred retry before any conflict. -/
theorem InCycle.attempt_fresh (h : s.InCycle c) (hc : c.phase = .fresh) {k : Caller} {u : Device}
    (hu : Aside s u) (he : e.retries = false) (ha : AttemptCase b o k u s') :
    s'.InCycle c ∧ CycleMove b s e s' c c := by
  refine ⟨?_, .stay (.inr ⟨hc, he⟩)⟩
  have hne : c.phase ≠ .posted := by simp [hc]
  rcases ha.launches with rfl | ⟨-, has⟩
  · have hf : u.Fits .fresh := (hc ▸ h.fits : s.Fits .fresh).aside (by decide) hu
    refine ⟨hu.recent.trans h.conflicts, hu.retryCount.trans h.count, ?_⟩
    rw [hc]
    exact ⟨hf.1, hf.2.1, launched_numConflicts (.inr hf.2.2.1), AcdState.noConfusion⟩
  · have hboth := hu.trans has
    exact ⟨hboth.recent.trans h.conflicts, hboth.retryCount.trans h.count,
      h.fits.aside hne hboth⟩

/-- The attempt of the retry itself: its probe sequence is started, or the cycle is over. -/
theorem InCycle.attempt_retry (h : s.InCycle c) {k : Caller} {u : Device}
    (hphase : c.phase = .delayed ∧ e.expires = true ∨ c.phase = .posted) (he : e.retries = true)
    (hp : Prepared s e o k u) (hidle : u.Idle) (htimer : u.retryTimer ≠ .armed)
    (hpost : u.postedRetry = 0) (hreg : u.registered = false) (hcount : u.retryCount = s.retryCount)
    (hlog : u.log = s.log) (ha : AttemptCase b o k u s') :
    ∃ c', s'.InCycle c' ∧ CycleMove b s e s' c c' := by
  rcases ha.launches with rfl | ⟨hno, has⟩
  · refine ⟨{ c with phase := .probing }, ⟨?_, hcount.trans h.count, htimer, hpost, ?_,
      launched_numConflicts (.inl hreg)⟩, .start hphase he ?_⟩
    · exact (congrArg recentConflicts hlog).trans h.conflicts
    · rintro (hs | hs) <;> cases hs
    · exact congrArg (fun log => starts log + 1) hlog
  · refine ⟨{ c with phase := .ended }, ⟨?_, ?_, ?_, ?_, ?_⟩, .drop ?_ (.attempt he hp hno) ?_⟩
    · exact (has.recent.trans (congrArg recentConflicts hlog)).trans h.conflicts
    · exact (has.retryCount.trans hcount).trans h.count
    · exact has.retryTimer ▸ htimer
    · exact has.postedRetry.trans hpost
    · exact has.idle.2 hidle
    · rcases hphase with ⟨hph, -⟩ | hph <;> simp [hph]
    · exact has.starts.trans (congrArg starts hlog)

/-- The client is stopped: a probe sequence ends with it, and nothing else does. -/
theorem InCycle.stop (h : s.InCycle c) (he : e.stops s = true)
    (hu : Unmoved { s with acd := acdStop s.acd } s') :
    ∃ c', s'.InCycle c' ∧ CycleMove b s e s' c c' := by
  have hrecent : recentConflicts s'.log = c.conflicts := hu.recent.trans h.conflicts
  have hcount : s'.retryCount = c.count := hu.retryCount.trans h.count
  have hfits := h.fits
  by_cases hph : c.phase = .probing
  · rw [hph] at hfits
    refine ⟨{ c with phase := .ended }, ⟨hrecent, hcount, ?_⟩,
      .drop (by simp [hph]) (.stopped he hfits.2.2.1) hu.starts⟩
    exact ⟨hu.retryTimer ▸ hfits.1, hu.postedRetry.trans hfits.2.1, hu.idle.2 (.inl rfl)⟩
  · have hfits' : ({ s with acd := acdStop s.acd } : Device).Fits c.phase := by
      obtain ⟨ph, n, m⟩ := c
      cases ph with
      | fresh => exact ⟨hfits.1, hfits.2.1, hfits.2.2.1, AcdState.noConfusion⟩
      | delayed => exact ⟨hfits.1, hfits.2.1, .inl rfl, hfits.2.2.2⟩
      | posted => exact ⟨hfits.1, hfits.2.1, .inl rfl, hfits.2.2.2⟩
      | probing => exact absurd rfl hph
      | ended => exact ⟨hfits.1, hfits.2.1, .inl rfl⟩
    exact ⟨c, ⟨hrecent, hcount, hfits'.unmoved hu⟩, .stay (.inl hu.starts)⟩

/-- An expiry that finds no netif stored is none of a retry's. -/
theorem Fits.noNetif {ph : RetryPhase} (h : s.Fits ph) (hnet : s.retryNetif = false) :
    ({ s with retryTimer := .stopped } : Device).Fits ph ∧
      ({ s with postedRetry := s.postedRetry - 1 } : Device).Fits ph := by
  have hpred (h0 : s.postedRetry = 0) : s.postedRetry - 1 = 0 := by rw [h0]
  cases ph with
  | fresh => exact ⟨⟨RetryTimer.noConfusion, h.2⟩, h.1, hpred h.2.1, h.2.2⟩
  | delayed => exact absurd h.2.2.2.2 (by simp [hnet])
  | posted => exact absurd h.2.2.2.2.1 (by simp [hnet])
  | probing => exact ⟨⟨RetryTimer.noConfusion, h.2⟩, h.1, hpred h.2.1, h.2.2⟩
  | ended => exact ⟨⟨RetryTimer.noConfusion, h.2⟩, h.1, hpred h.2.1, h.2.2⟩

/-! ## 5. The refinement -/

/-- **Every event is a move of the cycle.** -/
theorem InCycle.step (h : s.InCycle c) (hi : s.Inv) (hpos : c.phase ≠ .fresh → 0 < c.conflicts)
    (hg : s.Steady e) (hs : deviceStep b s e = some s') :
    ∃ c', s'.InCycle c' ∧ CycleMove b s e s' c c' := by
  have hafter (hne : c.phase ≠ .fresh) : 0 < recentConflicts s.log := by
    rw [h.conflicts]
    exact hpos hne
  have hfits := h.fits
  cases deviceStep_cases hi.core.selected hs with
  | attempt hwait hu ha =>
    cases hu with
    | boot hfresh hip =>
      have hc : c.phase = .fresh := by
        by_contra hne
        have hlog := (hi.core.fresh hfresh).1
        have := hafter hne
        simp [hlog, recentConflicts] at this
      exact ⟨c, h.attempt_fresh hc (by exact {}) rfl ha⟩
    | connected =>
      by_cases hc : c.phase = .fresh
      · exact ⟨c, h.attempt_fresh hc (by exact {}) rfl ha⟩
      · have hu' : Unmoved s _ := Unmoved.trans (by exact {}) (ha.unmoved (hg (hafter hc)))
        exact ⟨c, h.unmoved hu'⟩
    | deferred hpend =>
      by_cases hc : c.phase = .fresh
      · exact ⟨c, h.attempt_fresh hc (by exact {}) rfl ha⟩
      · have hu' : Unmoved s _ := Unmoved.trans (by exact {}) (ha.unmoved (hg (hafter hc)))
        exact ⟨c, h.unmoved hu'⟩
    | timer harmed hnet hpost =>
      obtain ⟨ph, n, m⟩ := c
      cases ph with
      | delayed =>
        obtain ⟨-, h2, h3, h4, -⟩ := hfits
        exact h.attempt_retry (.inl ⟨rfl, rfl⟩) rfl (.timer harmed hnet hpost) h3
          (by decide : RetryTimer.stopped ≠ .armed) h2 h4 rfl rfl ha
      | fresh => exact absurd harmed hfits.1
      | posted => exact absurd harmed hfits.1
      | probing => exact absurd harmed hfits.1
      | ended => exact absurd harmed hfits.1
    | retry hposted hnet =>
      obtain ⟨ph, n, m⟩ := c
      have hposted' (h0 : s.postedRetry = 0) : False := by simp [h0] at hposted
      cases ph with
      | posted =>
        obtain ⟨h1, h2, h3, h4, -⟩ := hfits
        exact h.attempt_retry (.inr rfl) rfl (.retry hposted hnet) h3 h1
          (congrArg (· - 1) h2) h4 rfl rfl ha
      | fresh => exact (hposted' hfits.2.1).elim
      | delayed => exact (hposted' hfits.2.1).elim
      | probing => exact (hposted' hfits.2.1).elim
      | ended => exact (hposted' hfits.2.1).elim
  | disconnected o => exact ⟨c, h.unmoved {}⟩
  | netifUp => exact ⟨c, h.unmoved {}⟩
  | netifDown hup =>
    by_cases hlist : AcdRef.staticIp ∈ s.acdList
    · rw [acdNetworkChangedLinkDown, if_pos hlist]
      exact h.stop hup {}
    · rw [acdNetworkChangedLinkDown, if_neg hlist]
      exact ⟨c, h.unmoved {}⟩
  | netifDownIdle _ => exact ⟨c, h.unmoved {}⟩
  | tick rand timerOk => exact h.tick hi hg rfl rand
  | arp hdr timerOk =>
    have harp := arp_cases (b := b) hi.running.direct hdr timerOk
    clear hs
    generalize s.arp b timerOk hdr = s' at harp
    cases harp with
    | ignored _ => exact ⟨c, h.unmoved {}⟩
    | defended hno hholds _ =>
      have hon : s.acd.state ≠ .off ∧ s.acd.state ≠ .rateLimit := by
        constructor <;> intro hs <;> simp [hs, AcdState.holds] at hholds
      exact ⟨c, h.unmoved (.quiet (a := { s.acd with
        lastconflict := defendInterval * acdTicksPerSecond }) (fun hidle => hidle.elim hon.1 hon.2)
        (.announce s.acd.ipaddr) hon id (some hdr))⟩
    | conflict hc => exact h.conflict hc
  | deferredIdle o _ => exact ⟨c, h.unmoved {}⟩
  | timerIdle o hnet =>
    exact ⟨c, ⟨h.conflicts, h.count, (hfits.noNetif hnet).1⟩, .stay (.inl rfl)⟩
  | timerPosted o hwait harmed _ =>
    obtain ⟨ph, n, m⟩ := c
    cases ph with
    | delayed =>
      obtain ⟨-, h2, h3, h4, h5⟩ := hfits
      refine ⟨⟨.posted, n, m⟩, ⟨h.conflicts, h.count, ?_⟩, .expire rfl rfl rfl⟩
      exact ⟨fun h => RetryTimer.noConfusion h, congrArg (· + 1) h2, h3, h4, h5, rfl, hwait⟩
    | fresh => exact absurd harmed hfits.1
    | posted => exact absurd harmed hfits.1
    | probing => exact absurd harmed hfits.1
    | ended => exact absurd harmed hfits.1
  | retryIdle o hnet =>
    exact ⟨c, ⟨h.conflicts, h.count, (hfits.noNetif hnet).2⟩, .stay (.inl rfl)⟩
  | stop _ => exact h.stop rfl {}
  | resume o taken k hwait =>
    refine ⟨c, h.unmoved { Aside.resume s o taken k with pending := fun h0 => ?_ }⟩
    rw [hwait] at h0
    cases h0

end Device

/-! ## 6. The counts -/

/-- What the moves keep of the two counts. -/
structure Cycle.Ok (b : Build) (c : Cycle) : Prop where
  fresh : c.phase = .fresh → c.conflicts = 0 ∧ c.count = 0
  after : c.phase ≠ .fresh → 0 < c.conflicts
  spent : b.maxAttempts ≠ 0 → min b.maxAttempts (b.cost * c.conflicts) ≤ c.count
  left : c.phase = .delayed ∨ c.phase = .posted ∨ c.phase = .probing →
    b.maxAttempts = 0 ∨ b.cost * (c.conflicts - 1) < b.maxAttempts

variable {b : Build} {s s' : Device} {e : DeviceEvent} {c c' : Cycle}

theorem Build.cost_pos (b : Build) : 0 < b.cost := by
  unfold Build.cost
  split <;> decide

theorem Build.spend_min {n m : Nat} (h : min b.maxAttempts m ≤ n) :
    min b.maxAttempts (m + 1) ≤ b.spend n := by
  by_cases h0 : b.Retries n
  · rw [Build.spend, if_pos h0]
    omega
  · have hge : b.maxAttempts ≤ n := by
      by_contra hlt
      exact h0 (.inr (Nat.lt_of_not_le hlt))
    rw [Build.spend, if_neg h0]
    omega

/-- A conflict takes `cost` attempts, if so many are left. -/
theorem Build.consume_min {n m : Nat} (h : min b.maxAttempts m ≤ n) :
    min b.maxAttempts (m + b.cost) ≤ b.consume n := by
  unfold Build.consume Build.cost
  split
  · exact spend_min h
  · exact spend_min (spend_min h)

/-- While attempts are left, the conflicts have not used them up. -/
theorem Cycle.Ok.left_of_retries (h : c.Ok b) (hr : b.Retries c.count) :
    b.maxAttempts = 0 ∨ b.cost * c.conflicts < b.maxAttempts := by
  by_cases hm : b.maxAttempts = 0
  · exact .inl hm
  · have hspent := h.spent hm
    have hlt := hr.resolve_left hm
    exact .inr (by omega)

/-- **A move keeps the counts right.** -/
theorem CycleMove.ok_keeps (hmv : CycleMove b s e s' c c') (h : c.Ok b) : c'.Ok b := by
  have hpred (hleft : b.maxAttempts = 0 ∨ b.cost * c.conflicts < b.maxAttempts) :
      b.maxAttempts = 0 ∨ b.cost * (c.conflicts - 1) < b.maxAttempts := by
    refine hleft.imp_right fun hlt => ?_
    exact Nat.lt_of_le_of_lt (Nat.mul_le_mul_left _ (Nat.sub_le _ _)) hlt
  cases hmv with
  | stay _ => exact h
  | conflict hphase hph _ =>
    refine ⟨fun hf => ?_, fun _ => Nat.succ_pos _, fun hm => ?_, fun hgo => ?_⟩
    · rcases hph with ⟨rfl, -⟩ | ⟨rfl, -⟩ <;> cases hf
    · exact Build.consume_min (h.spent hm)
    · rcases hph with ⟨-, hr⟩ | ⟨rfl, -⟩
      · exact h.left_of_retries hr
      · rcases hgo with hgo | hgo | hgo <;> cases hgo
  | lift hphase _ _ hph _ =>
    have hafter : 0 < c.conflicts := h.after (by rcases hphase with hp | hp <;> simp [hp])
    refine ⟨fun hf => ?_, fun _ => hafter, fun hm => ?_, fun hgo => ?_⟩
    · rcases hph with rfl | ⟨rfl, -⟩
      · rcases hphase with hp | hp <;> simp [hp] at hf
      · cases hf
    · exact Nat.le_trans (h.spent hm) (Build.spend_le _)
    · rcases hph with rfl | ⟨-, hr⟩
      · exact h.left hgo
      · exact hpred (h.left_of_retries hr)
  | expire hphase _ _ =>
    exact ⟨fun hf => (by cases hf), fun _ => h.after (by simp [hphase]), h.spent,
      fun _ => h.left (.inl hphase)⟩
  | start hphase _ _ =>
    refine ⟨fun hf => (by cases hf), fun _ => h.after ?_, h.spent, fun _ => h.left ?_⟩
    · rcases hphase with ⟨hp, -⟩ | hp <;> simp [hp]
    · rcases hphase with ⟨hp, -⟩ | hp <;> simp [hp]
  | drop hphase _ _ =>
    refine ⟨fun hf => (by cases hf), fun _ => h.after hphase, h.spent, fun hgo => ?_⟩
    rcases hgo with hgo | hgo | hgo <;> cases hgo
  | ok _ _ _ _ =>
    refine ⟨fun _ => ⟨rfl, rfl⟩, fun hf => absurd rfl hf, fun _ => ?_, fun hgo => ?_⟩
    · exact Nat.min_le_right _ _
    · rcases hgo with hgo | hgo | hgo <;> cases hgo

/-- Power-on. -/
theorem Cycle.Ok.init (b : Build) : (⟨.fresh, 0, 0⟩ : Cycle).Ok b :=
  ⟨fun _ => ⟨rfl, rfl⟩, fun hf => absurd rfl hf, fun _ => Nat.min_le_right _ _,
    fun hgo => by rcases hgo with hgo | hgo | hgo <;> cases hgo⟩

theorem Device.InCycle.init (others : List Nat) :
    (Device.init others).InCycle ⟨.fresh, 0, 0⟩ :=
  ⟨rfl, rfl, RetryTimer.noConfusion, rfl, rfl, AcdState.noConfusion⟩

end GroundTruth.Acd
