/-
# The activity byte of attribute 11

The first byte of TCP/IP attribute 11 tells an originator what the ACD client is doing: 2 while
it probes, 1 once it announces and defends the address, 3 after a conflict.  `main.c` keeps the
byte by itself, in more than fifteen assignments, and never looks at the client's phase.  Most of
them are right; the ones that guess are those after a return of `tcpip_perform_acd` without a
verdict, those at boot, and the assignment that is missing where the client goes from waiting to
announcing or is stopped.

* `activity_guessed`: `app_main` configures the netif before it starts the Ethernet driver, so that
  every run comes by the guess at boot: the byte says 1 and the client is off.
* `Reporting.step`: every event that does not guess keeps the byte truthful.
* `truthful_since_start`: so it is from a start of the client on, as long as no event guesses.
-/
import GroundTruth.Acd.Conflict

namespace GroundTruth.Acd

open GroundTruth.Lib

/-! ## 1. The property -/

/-- A conflict has been reported since the client was last started. -/
def ConflictSince : List Obs → Prop
  | [] => False
  | .started _ :: _ => False
  | .entered .ipOk :: _ => False
  | .entered .decline :: _ => True
  | .entered .restartClient :: _ => True
  | _ :: older => ConflictSince older

/-- An address that is cleared has met no conflict. -/
theorem Cleared.not_conflictSince {ip : Ip4} {log : List Obs} (h : Cleared ip log) :
    ¬ConflictSince log := by
  induction log with
  | nil => exact id
  | cons obs older ih =>
    cases obs with
    | started _ => exact id
    | probed _ => exact ih h
    | announced _ => exact ih h
    | returned _ => exact ih h
    | wrote _ => exact ih h
    | entered c =>
      cases c with
      | ipOk => exact id
      | decline => exact h.elim
      | restartClient => exact h.elim

namespace Device

/-- The byte agrees with the client. -/
structure Truthful (s : Device) : Prop where
  ongoing : s.acdActivity = 1 → s.acd.state = .announcing ∨ s.acd.state = .ongoing
  probing : s.acdActivity = 2 ↔ s.acd.state.probes = true
  conflict : ConflictSince s.log → s.acdActivity = 3

/-- The event is none of those that guess. -/
def Candid (b : Build) (s : Device) : DeviceEvent → Prop
  | .boot _ o => s.netifHasValidHwaddr = true ∧ s.linkUp = true ∧ o.Enough s
  | .connected mac o => ({ s with hwaddr := mac.toList } : Device).Ready → o.Enough s
  | .deferred o => s.Ready → o.Enough s
  | .timer o =>
    o.post = false → s.netifHasValidHwaddr = true → s.linkUp = true → o.Enough s
  | .retry o => s.Ready → o.Enough s
  | .resume _ _ => s.callbackReceived = true
  | .tick _ _ =>
    s.acd.state = .announceWait → s.acd.countDown.ttw = 0 →
      b.timing.announceNum ≤ (s.acd.sentNum + 1) % 256
  | .stop => s.Idle
  | .netifDown => s.linkUp = true → s.Idle
  | .disconnected _ | .netifUp | .arp _ _ => True

instance (b : Build) (s : Device) : ∀ e : DeviceEvent, Decidable (s.Candid b e)
  | .boot _ _ => inferInstanceAs (Decidable (_ ∧ _))
  | .connected _ _ | .deferred _ | .timer _ | .retry _ | .tick _ _ | .netifDown =>
    inferInstanceAs (Decidable (_ → _))
  | .resume _ _ => inferInstanceAs (Decidable (_ = _))
  | .stop => inferInstanceAs (Decidable (_ ∨ _))
  | .disconnected _ | .netifUp | .arp _ _ => inferInstanceAs (Decidable True)

/-! ## 2. The invariant -/

/-- The byte is truthful, and what the code assumes when it assigns 1 is so. -/
structure Reporting (s : Device) : Prop where
  truthful : s.Truthful
  assigned : s.callbackReceived = true → s.lastState = .ipOk → s.acd.state = .ongoing
  quiet : s.acd.state ≠ .announcing

variable {s s' : Device} {b : Build} {o : Outcome} {timerOk : Bool} {e : DeviceEvent}

/-- The two states agree on what the byte is about. -/
structure SameReport (s s' : Device) : Prop where
  acd : s'.acd = s.acd := by rfl
  acdActivity : s'.acdActivity = s.acdActivity := by rfl
  callbackReceived : s'.callbackReceived = s.callbackReceived := by rfl
  lastState : s'.lastState = s.lastState := by rfl
  log : s'.log = s.log := by rfl

theorem Reporting.same (h : s.Reporting) (hs : SameReport s s') : s'.Reporting := by
  obtain ⟨⟨h1, h2, h3⟩, h4, h5⟩ := h
  constructor
  · constructor <;> simp only [hs.acd, hs.acdActivity, hs.log] <;> assumption
  · simp only [hs.acd, hs.callbackReceived, hs.lastState]
    exact h4
  · rw [hs.acd]
    exact h5

theorem Idle.not_probes (h : s.Idle) : s.acd.state.probes = false := by
  rcases h with hs | hs <;> rw [hs] <;> rfl

theorem Idle.not_holds (h : s.Idle) : ¬(s.acd.state = .announcing ∨ s.acd.state = .ongoing) := by
  rcases h with hs | hs <;> rw [hs] <;> decide

/-- After a conflict. -/
theorem Reporting.of_conflict (hprobes : s.acd.state.probes = false)
    (hquiet : s.acd.state ≠ .announcing) (hact : s.acdActivity = 3) (hlast : s.lastState ≠ .ipOk) :
    s.Reporting := by
  refine ⟨⟨fun h1 => ?_, ?_, fun _ => hact⟩, fun _ hl => absurd hl hlast, hquiet⟩
  · rw [hact] at h1
    cases h1
  · rw [hact, hprobes]
    decide

/-- A sequence is started. -/
theorem Reporting.launched (s : Device) (k : Caller) : (s.launched b o k).Reporting where
  truthful := ⟨fun h => (by cases h), iff_of_true rfl rfl, fun h => h.elim⟩
  assigned h _ := (by cases h)
  quiet := AcdState.noConfusion

/-- The client changes its state without leaving the phase that the byte reports, and may send a
frame. -/
theorem Reporting.quietly (h : s.Reporting) {a : Client} {log : List Obs} (hlog : Sent s.log log)
    (hprobes : a.state.probes = s.acd.state.probes)
    (hongoing : s.acd.state = .ongoing → a.state = .ongoing) (hquiet : a.state ≠ .announcing)
    (lc : Option ArpHdr) :
    ({ s with acd := a, log := log, lastConflict := lc } : Device).Reporting := by
  obtain ⟨⟨h1, h2, h3⟩, h4, h5⟩ := h
  have hsince : ConflictSince log → ConflictSince s.log := by
    cases hlog with
    | nothing => exact id
    | probe ip => exact id
    | announce ip => exact id
  refine ⟨⟨fun hone => ?_, ?_, fun hc => h3 (hsince hc)⟩, fun hr hl => hongoing (h4 hr hl), hquiet⟩
  · exact .inr (hongoing ((h1 hone).resolve_left h5))
  · exact hprobes ▸ h2

/-! ## 3. The client's drivers -/

/-- The end of a rate limit is reported as a conflict. -/
theorem Reporting.denied (hconf : Conflicted .restartClient s s') (hoff : s.acd.state = .off)
    (hdeny : Denied b timerOk s s') : s'.Reporting := by
  have hidle : s'.Idle := by
    rcases hconf.acd with ha | ha
    · exact .inl ((congrArg Client.state ha).trans hoff)
    · exact .inl (congrArg Client.state ha)
  refine .of_conflict hidle.not_probes (fun hs => hidle.not_holds (.inl hs)) hdeny.acdActivity ?_
  · rw [hconf.lastState]
    exact AcdCallback.noConfusion

/-- **A tick.** -/
theorem Reporting.tick (h : s.Reporting) (hi : s.Inv) {rand : Nat}
    (hg : s.Candid b (.tick rand timerOk)) : (s.tick b timerOk rand).Reporting := by
  have hcase := tick_cases b timerOk rand s
  generalize s.tick b timerOk rand = s' at hcase ⊢
  cases hcase with
  | unlisted => exact h
  | wait hactive =>
    exact h.quietly (a := s.acd.countDown) .nothing rfl id h.quiet s.lastConflict
  | probe hstate =>
    refine h.quietly (a := { s.acd.countDown with
        state := .probing, sentNum := (s.acd.sentNum + 1) % 256,
        ttw := b.timing.randomProbeInterval rand % 65536 })
      (.probe s.acd.ipaddr) ?_ ?_ AcdState.noConfusion s.lastConflict
    all_goals rcases hstate with hs | hs <;> rw [hs] <;> first | rfl | exact AcdState.noConfusion
  | lastProbe hstate =>
    refine h.quietly (a := { s.acd.countDown with
        state := .announceWait, sentNum := 0, ttw := b.timing.announceWaitTicks })
      (.probe s.acd.ipaddr) ?_ ?_ AcdState.noConfusion s.lastConflict
    all_goals rcases hstate with hs | hs <;> rw [hs] <;> first | rfl | exact AcdState.noConfusion
  | announce hstate httw hmore =>
    rcases hstate with hs | hs
    · -- the first of several announcements: nobody tells the byte
      exact absurd (hg hs httw) (Nat.not_le.2 hmore)
    · exact absurd hs h.quiet
  | lastAnnounce hlist hstate =>
    have hpend := (hi.running.active (active_of_announces hstate)).1
    rw [callback_announced hi hpend]
    exact ⟨⟨fun _ => .inr rfl, iff_of_false (by intro h; cases h) (by intro h; cases h),
      fun hc => hc.elim⟩,
      fun _ _ => rfl, AcdState.noConfusion⟩
  | defend hstate =>
    exact h.quietly (a := { s.acd.countDown with ttw := b.timing.periodicDefendTicks })
      (.probe s.acd.ipaddr) rfl id h.quiet s.lastConflict
  | unlimit hstate =>
    have hne : AcdCallback.restartClient ≠ .ipOk := AcdCallback.noConfusion
    exact .denied (callback_conflict b timerOk { s with acd := acdStop s.acd.countDown } hne) rfl
      (callback_denied b timerOk { s with acd := acdStop s.acd.countDown } hne)

/-- **An ARP packet.** -/
theorem Reporting.arp (h : s.Reporting) (hi : s.Inv) (hdr : ArpHdr) :
    (s.arp b timerOk hdr).Reporting := by
  have harp := arp_cases (b := b) hi.running.direct hdr timerOk
  generalize s.arp b timerOk hdr = s' at harp
  cases harp with
  | ignored _ => exact h
  | defended _ hholds _ =>
    exact h.quietly (a := { s.acd with lastconflict := defendInterval * acdTicksPerSecond })
      (.announce s.acd.ipaddr) rfl id h.quiet (some hdr)
  | conflict hc =>
    have hspec := restart_spec b timerOk { s with lastConflict := some hdr }
    obtain ⟨st, n, hst, hr⟩ : ∃ st n, (st = .off ∨ st = .rateLimit) ∧
        Restarted b timerOk st n { s with lastConflict := some hdr }
          (acdRestart b.timing (host b timerOk) { s with lastConflict := some hdr }) := by
      rcases Nat.lt_or_ge ((s.acd.numConflicts + 1) % 256) b.timing.maxConflicts with hfew | hmany
      · exact ⟨_, _, .inl rfl, hspec.2 hfew⟩
      · exact ⟨_, _, .inr rfl, hspec.1 hmany⟩
    generalize acdRestart b.timing (host b timerOk) { s with lastConflict := some hdr } = s' at hr
    have hidle : s'.Idle := by
      unfold Idle
      rw [hr.state]
      exact hst
    exact .of_conflict hidle.not_probes (fun hs => hidle.not_holds (.inl hs)) hr.acdActivity
      hr.lastState

/-- A client that does nothing is stopped. -/
theorem Reporting.stop (h : s.Reporting) (hidle : s.Idle)
    (hs : SameReport { s with acd := acdStop s.acd } s') : s'.Reporting := by
  obtain ⟨⟨h1, h2, h3⟩, h4, h5⟩ := h
  have hstop : ({ s with acd := acdStop s.acd } : Device).Reporting := by
    refine ⟨⟨fun hone => absurd (h1 hone) hidle.not_holds, ?_, h3⟩,
      fun hr hl => absurd (.inr (h4 hr hl)) hidle.not_holds, AcdState.noConfusion⟩
    rw [hidle.not_probes] at h2
    exact h2
  exact hstop.same hs

/-! ## 4. Attempts and returns -/

theorem Reporting.finish (h : s.Reporting) (k : Caller) : (s.finish k).Reporting := by
  cases k with
  | connected => exact h.same {}
  | other => exact h

/-- An attempt that has its resources, or does not get as far as to need them. -/
theorem Reporting.attempt (h : s.Reporting) {k : Caller} (ha : AttemptCase b o k s s')
    (henough : s.Ready → o.Enough s) : s'.Reporting := by
  cases ha with
  | skipped _ => exact h.finish k
  | noLink _ =>
    have hdef : ({ s with deferred := s.deferred + 1 } : Device).Reporting := h.same {}
    exact hdef.finish k
  | failed hready hno _ => exact absurd (henough hready) hno
  | started _ _ => exact .launched s k

/-- An attempt that gets through. -/
theorem Reporting.of_ready {k : Caller} (hready : s.Ready) (henough : o.Enough s)
    (ha : AttemptCase b o k s s') : s'.Reporting := by
  cases ha with
  | skipped hs =>
    rcases hs with hs | hs
    · exact absurd (hready.1.symm.trans hs) (by decide)
    · exact absurd (hready.2.1.symm.trans hs) (by decide)
  | noLink hlink => exact absurd (hready.2.2.symm.trans hlink) (by decide)
  | failed _ hno _ => exact absurd henough hno
  | started _ _ => exact .launched s k

/-- The wait returns a verdict. -/
theorem Reporting.resume (h : s.Reporting) (hi : s.Inv) (hcb : s.callbackReceived = true)
    (o : Outcome) (taken : Bool) (k : Caller) : (s.resume o taken k).Reporting := by
  unfold Device.resume
  refine Reporting.finish ?_ k
  by_cases hl : s.lastState = .ipOk
  · -- the address is assigned once more, and the client has not left ONGOING
    have hstate := h.assigned hcb hl
    have hclear := (hi.core.ok hcb hl).1.not_conflictSince
    have hone : tcpipTryPendingAcdDone o
        (tcpipPerformAcdResume o taken { s with waiting := none }).1 =
        { s with
          waiting := none, acdSem := if taken then some false else s.acdSem, acdActivity := 1,
          ipInfo := s.pendingCfg, probePending := false, log := .wrote s.pendingCfg :: s.log } := by
      cases taken <;>
        simp [tcpipPerformAcdResume, tcpipTryPendingAcdDone, hl, hcb, setIpInfo]
    rw [hone]
    refine ⟨⟨fun _ => .inr hstate, ?_, fun hc => absurd hc hclear⟩, fun _ _ => hstate, h.quiet⟩
    refine iff_of_false (by intro h; cases h) fun hp => ?_
    have hprobes : s.acd.state.probes = true := hp
    rw [hstate] at hprobes
    cases hprobes
  · have hthree : ∃ n, tcpipTryPendingAcdDone o
        (tcpipPerformAcdResume o taken { s with waiting := none }).1 =
        { s with
          waiting := none, acdSem := if taken then some false else s.acdSem, acdActivity := 3,
          acdFault := true, probePending := false, postedStop := n } := by
      cases hlast : s.lastState with
      | ipOk => exact absurd hlast hl
      | decline =>
        cases taken <;>
          simp [tcpipPerformAcdResume, tcpipTryPendingAcdDone, hcb, acdFailed, postStop]
      | restartClient =>
        cases taken <;>
          simp [tcpipPerformAcdResume, tcpipTryPendingAcdDone, hcb, acdFailed, postStop]
    obtain ⟨n, hthree⟩ := hthree
    rw [hthree]
    refine .of_conflict ?_ h.quiet rfl hl
    -- a client at work has reported nothing yet
    by_contra hp
    have hprobes : s.acd.state.probes = true := by simpa using hp
    have hact : s.acd.state.active = true := by
      cases hst : s.acd.state <;> rw [hst] at hprobes <;> first | rfl | cases hprobes
    rw [(hi.running.active hact).2.2] at hcb
    cases hcb

/-! ## 5. Every event -/

/-- **One event.** -/
theorem Reporting.step (h : s.Reporting) (hi : s.Inv) (hg : s.Candid b e)
    (hs : deviceStep b s e = some s') : s'.Reporting := by
  cases deviceStep_cases hi.core.selected hs with
  | attempt hwait hu ha =>
    cases hu with
    | @boot cfg o hfresh hip =>
      have hready : ({ s with booted := true, pendingCfg := cfg, probePending := true,
                              acdActivity := 1 } : Device).Ready := ⟨rfl, hg.1, hg.2.1⟩
      exact .of_ready hready hg.2.2 ha
    | @connected mac o =>
      have hmac : ({ s with hwaddr := mac.toList } : Device).Reporting := h.same {}
      exact hmac.attempt ha hg
    | deferred hpend =>
      have hdef : ({ s with deferred := s.deferred - 1 } : Device).Reporting := h.same {}
      exact hdef.attempt ha hg
    | timer harmed hnet hpost =>
      have hexp : ({ s with retryTimer := .stopped, probePending := true } : Device).Reporting :=
        h.same {}
      exact hexp.attempt ha fun hready => hg hpost hready.2.1 hready.2.2
    | retry hposted hnet =>
      have hpop : ({ s with postedRetry := s.postedRetry - 1 } : Device).Reporting := h.same {}
      exact hpop.attempt ha hg
  | disconnected o => exact h.same {}
  | netifUp => exact h.same {}
  | netifDown hup =>
    unfold acdNetworkChangedLinkDown
    split
    · exact h.stop (hg hup) {}
    · exact h.same {}
  | netifDownIdle _ => exact h
  | tick rand timerOk => exact h.tick hi hg
  | arp hdr timerOk => exact h.arp hi hdr
  | deferredIdle o _ => exact h.same {}
  | timerIdle o _ => exact h.same {}
  | timerPosted o _ _ _ => exact h.same {}
  | retryIdle o _ => exact h.same {}
  | stop _ => exact h.stop hg {}
  | resume o taken k hwait => exact h.resume hi hg o taken k

end Device

/-! ## 6. Every run -/

/-- `netif_set_link_up`, which takes a running driver. -/
def DeviceEvent.linksUp : DeviceEvent → Bool
  | .netifUp => true
  | _ => false

namespace Device

/-- No link has come up: nothing has started the client. -/
structure Unlinked (s : Device) : Prop where
  linkUp : s.linkUp = false
  off : s.acd.state = .off

variable {s s' : Device} {b : Build} {o : Outcome} {timerOk : Bool} {e : DeviceEvent}

theorem Unlinked.finish (h : s.Unlinked) (k : Caller) : (s.finish k).Unlinked := by
  cases k <;> exact ⟨h.linkUp, h.off⟩

theorem Unlinked.done (h : s.Unlinked) (o : Outcome) : (s.tcpipTryPendingAcdDone o).Unlinked := by
  unfold tcpipTryPendingAcdDone
  split
  · exact ⟨h.linkUp, h.off⟩
  · dsimp only
    split <;> exact ⟨h.linkUp, h.off⟩

theorem Unlinked.performResume (h : s.Unlinked) (o : Outcome) (taken : Bool) :
    (tcpipPerformAcdResume o taken s).1.Unlinked := by
  unfold tcpipPerformAcdResume
  split
  · dsimp only
    split <;> exact ⟨h.linkUp, h.off⟩
  · split
    · exact ⟨h.linkUp, h.off⟩
    · split <;> exact ⟨h.linkUp, h.off⟩

@[simp] theorem finish_acdActivity (k : Caller) (s : Device) :
    (s.finish k).acdActivity = s.acdActivity := by
  cases k <;> rfl

/-- Without a link an attempt changes nothing that matters here. -/
theorem AttemptCase.unlinked {k : Caller} (ha : AttemptCase b o k s s') (h : s.Unlinked) :
    s'.Unlinked ∧ s'.acdActivity = s.acdActivity := by
  cases ha with
  | skipped _ => exact ⟨h.finish k, finish_acdActivity k s⟩
  | noLink _ =>
    have hdef : ({ s with deferred := s.deferred + 1 } : Device).Unlinked := ⟨h.linkUp, h.off⟩
    exact ⟨hdef.finish k, finish_acdActivity k _⟩
  | failed hready _ _ =>
    have hup := hready.2.2
    rw [h.linkUp] at hup
    cases hup
  | started hready _ =>
    have hup := hready.2.2
    rw [h.linkUp] at hup
    cases hup

theorem Unlinked.prepared {k : Caller} {u : Device} (h : s.Unlinked) (hu : Prepared s e o k u) :
    u.Unlinked := by
  cases hu <;> exact ⟨h.linkUp, h.off⟩

/-- **An event before the driver is started.** -/
theorem Unlinked.step (h : s.Unlinked) (hi : s.Inv) (he : e.linksUp = false)
    (hs : deviceStep b s e = some s') : s'.Unlinked := by
  have hidle (hp : s.acd.state.probes = true ∨ s.acd.state.holds = true) : False := by
    rw [h.off] at hp
    rcases hp with hp | hp <;> cases hp
  cases deviceStep_cases hi.core.selected hs with
  | attempt hwait hu ha => exact (ha.unlinked (h.prepared hu)).1
  | disconnected o => exact ⟨h.linkUp, h.off⟩
  | netifUp => cases he
  | netifDown hup =>
    rw [h.linkUp] at hup
    cases hup
  | netifDownIdle _ => exact h
  | tick rand timerOk =>
    have hcase := tick_cases b timerOk rand s
    generalize s.tick b timerOk rand = s' at hcase ⊢
    cases hcase with
    | unlisted _ => exact h
    | wait _ => exact ⟨h.linkUp, h.off⟩
    | probe hstate => rcases hstate with hs | hs <;> exact (hidle (.inl (by rw [hs]; rfl))).elim
    | lastProbe hstate => rcases hstate with hs | hs <;> exact (hidle (.inl (by rw [hs]; rfl))).elim
    | announce hstate =>
      rw [h.off] at hstate
      rcases hstate with hs | hs <;> cases hs
    | lastAnnounce _ hstate =>
      rw [h.off] at hstate
      rcases hstate with hs | hs <;> cases hs
    | defend hstate => exact (hidle (.inr (by rw [hstate]; rfl))).elim
    | unlimit hstate =>
      rw [h.off] at hstate
      cases hstate
  | arp hdr timerOk =>
    have harp := arp_cases (b := b) hi.running.direct hdr timerOk
    generalize s.arp b timerOk hdr = s' at harp
    cases harp with
    | ignored _ => exact h
    | defended _ hholds _ => exact (hidle (.inr hholds)).elim
    | conflict hc => exact (hidle hc.working).elim
  | deferredIdle o _ => exact ⟨h.linkUp, h.off⟩
  | timerIdle o _ => exact ⟨h.linkUp, h.off⟩
  | timerPosted o _ _ _ => exact ⟨h.linkUp, h.off⟩
  | retryIdle o _ => exact ⟨h.linkUp, h.off⟩
  | stop _ => exact ⟨h.linkUp, rfl⟩
  | resume o taken k hwait =>
    have hback : ({ s with waiting := none } : Device).Unlinked := ⟨h.linkUp, h.off⟩
    exact ((hback.performResume o taken).done o).finish k

end Device

/-- **Attribute 11 at boot.**  In every run the netif is configured before a link has come up, and
from then on the byte says 1 with the client off. -/
theorem activity_guessed {b : Build} {others : List Nat} {cfg : IpInfo} {o : Outcome}
    {s s' : Device}
    (h : Run (deviceStep b) (fun _ e => e.linksUp = false) (Device.init others) s)
    (hs : deviceStep b s (.boot cfg o) = some s') :
    s'.acdActivity = 1 ∧ s'.acd.state = .off ∧ ¬s'.Truthful := by
  have hinv : s.Inv ∧ s.Unlinked := by
    refine h.invariant (P := fun s => s.Inv ∧ s.Unlinked) ?_ ⟨.init others, rfl, rfl⟩
    rintro u e v ⟨hi, hu⟩ hg hs
    exact ⟨(hi.step hs).1, hu.step hi hg hs⟩
  obtain ⟨hi, hu⟩ := hinv
  have hboot : s'.acdActivity = 1 ∧ s'.acd.state = .off := by
    cases Device.deviceStep_cases hi.core.selected hs with
    | attempt hwait hp ha =>
      cases hp with
      | boot hfresh hip =>
        obtain ⟨hoff, hact⟩ := ha.unlinked ⟨hu.linkUp, hu.off⟩
        exact ⟨hact, hoff.off⟩
  refine ⟨hboot.1, hboot.2, fun htrue => ?_⟩
  have hholds := htrue.ongoing hboot.1
  rw [hboot.2] at hholds
  rcases hholds with hh | hh <;> cases hh

/-- The shipped build, some ticks after power-on. -/
theorem activity_guessed_ticked :
    ∃ s s', exec (deviceStep .shipped) (Device.init [7]) (benchTicks 3) = some s ∧
      deviceStep .shipped s (.boot benchCfg .good) = some s' ∧ ¬s'.Truthful := by
  have hm : execMeets (deviceStep .shipped) (fun _ e => e.linksUp = false) (Device.init [7])
      (benchTicks 3) := by decide
  have hruns : ((exec (deviceStep .shipped) (Device.init [7]) (benchTicks 3)).bind fun s =>
      deviceStep .shipped s (.boot benchCfg .good)).isSome = true := by decide
  obtain ⟨s', hs'⟩ := Option.isSome_iff_exists.1 hruns
  obtain ⟨s, hs, hboot⟩ := Option.bind_eq_some_iff.1 hs'
  exact ⟨s, s', hs, hboot, (activity_guessed (exec_run hm hs) hboot).2.2⟩

/-- At the boot of the shipped build the byte is 1, and the client has not been started. -/
theorem guessed_at_boot :
    ∃ s, Reach (deviceStep .shipped) (Device.init []) s ∧ s.acdActivity = 1 ∧
      s.acd.state = .off ∧ ¬s.Truthful := by
  have h : (exec (deviceStep .shipped) (Device.init []) [.boot benchCfg .good]).map
      (fun s => (s.acdActivity, s.acd.state)) = some (1, .off) := by decide
  obtain ⟨s, hs, hobs⟩ := Option.map_eq_some_iff.1 h
  rw [Prod.mk.injEq] at hobs
  refine ⟨s, exec_reach hs, hobs.1, hobs.2, fun htrue => ?_⟩
  have hholds := htrue.ongoing hobs.1
  rw [hobs.2] at hholds
  rcases hholds with hh | hh <;> cases hh

/-- **Attribute 11 after a start.**  From a start of the client on the byte agrees with it in every
run of events that do not guess. -/
theorem truthful_since_start {b : Build} {others : List Nat} {o : Outcome} {k : Caller}
    {u s : Device} (hstart : Reach (deviceStep b) (Device.init others) (u.launched b o k))
    (h : Run (deviceStep b) (fun s e => s.Candid b e) (u.launched b o k) s) : s.Truthful := by
  have hinit : (u.launched b o k).Inv :=
    hstart.invariant (fun _ _ _ hi _ hs => (hi.step hs).1) (.init others)
  have hinv : s.Inv ∧ s.Reporting := by
    refine h.invariant (P := fun s => s.Inv ∧ s.Reporting) ?_ ⟨hinit, .launched u k⟩
    rintro v e w ⟨hi, hr⟩ hg hs
    exact ⟨(hi.step hs).1, hr.step hi hg hs⟩
  exact hinv.2.truthful

end GroundTruth.Acd
