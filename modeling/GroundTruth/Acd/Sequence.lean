/-
# One probe sequence for an address

`acd_start` begins a sequence anew whatever the client is doing, and `tcpip_try_pending_acd`
calls it as long as the address is pending, that is until `ACD_IP_OK`, seconds after the
sequence began.  The connect handler tries and waits two seconds; when it has given up waiting it
schedules a deferred retry, which tries again 200 ms later.  By then the client has sent its probes
and waits to announce.

So it is a matter of time.  `sequenceTicks` is how long a sequence of the build can take, and a
clock beside the run counts the ticks since the client was first started.

* `Orderly.step`: in a run with no conflict and no link-down, as long as no attempt gets through
  to a client that is on its way to the address, the frames sent add up to one sequence.
* `Clocked.step`: the client's countdowns and counters fit into what is left of that time.
* `one_sequence`: so if the attempts come before the first start or after that time, the client is
  started at most once, and `ACD_IP_OK` comes after exactly PROBE_NUM probes and ANNOUNCE_NUM
  announcements.
* `sequence_thrown_away`: the ordinary run, in which the deferred retry starts it once more.
-/
import GroundTruth.Acd.Conflict

namespace GroundTruth.Acd

open GroundTruth.Lib

/-! ## 1. The property -/

/-- The probes sent so far. -/
def probesSent : List Obs → Nat
  | [] => 0
  | .probed _ :: older => probesSent older + 1
  | _ :: older => probesSent older

/-- The announcements sent so far. -/
def announcementsSent : List Obs → Nat
  | [] => 0
  | .announced _ :: older => announcementsSent older + 1
  | _ :: older => announcementsSent older

/-- Every `ACD_IP_OK` has the frames of one sequence before it. -/
def Announced (t : Timing) : List Obs → Prop
  | [] => True
  | .entered .ipOk :: older =>
    (probesSent older = t.probeNum ∧ announcementsSent older = t.announceNum) ∧ Announced t older
  | _ :: older => Announced t older

instance Announced.decidable (t : Timing) : ∀ log : List Obs, Decidable (Announced t log)
  | [] => inferInstanceAs (Decidable True)
  | .entered .ipOk :: older =>
    haveI := Announced.decidable t older
    inferInstanceAs (Decidable (_ ∧ Announced t older))
  | .entered .decline :: older => Announced.decidable t older
  | .entered .restartClient :: older => Announced.decidable t older
  | .started _ :: older => Announced.decidable t older
  | .probed _ :: older => Announced.decidable t older
  | .announced _ :: older => Announced.decidable t older
  | .returned _ :: older => Announced.decidable t older
  | .wrote _ :: older => Announced.decidable t older

/-- The client has been started once at most, and has sent one sequence before `ACD_IP_OK`. -/
def OneSequence (b : Build) (s : Device) : Prop := starts s.log ≤ 1 ∧ Announced b.timing s.log

instance (b : Build) (s : Device) : Decidable (OneSequence b s) :=
  inferInstanceAs (Decidable (_ ∧ _))

namespace Device

/-- Nobody else uses the address, and the link is not lost. -/
def Peaceful (s : Device) : DeviceEvent → Prop
  | .arp hdr _ =>
    (s.acd.state.probes = true → probeConflict s.netifHwaddr s.acd.ipaddr hdr = false) ∧
      (s.acd.state.holds = true → useConflict s.netifHwaddr s.acd.ipaddr hdr = false)
  | .netifDown => s.linkUp = false
  | .disconnected _ => False
  | .boot _ _ | .connected _ _ | .netifUp | .tick _ _ | .deferred _ | .timer _ | .retry _ | .stop
  | .resume _ _ => True

instance (s : Device) : ∀ e : DeviceEvent, Decidable (s.Peaceful e)
  | .arp _ _ => inferInstanceAs (Decidable (_ ∧ _))
  | .netifDown => inferInstanceAs (Decidable (_ = _))
  | .disconnected _ => inferInstanceAs (Decidable False)
  | .boot _ _ | .connected _ _ | .netifUp | .tick _ _ | .deferred _ | .timer _ | .retry _ | .stop
  | .resume _ _ => inferInstanceAs (Decidable True)

/-- An attempt of the connect handler, or a deferred retry, that finds a MAC address, the link and
its resources. -/
def Finds (s : Device) : DeviceEvent → Prop
  | .connected mac o =>
    ({ s with hwaddr := mac.toList } : Device).netifHasValidHwaddr = true ∧ s.linkUp = true ∧
      o.Enough s
  | .deferred o => s.netifHasValidHwaddr = true ∧ s.linkUp = true ∧ o.Enough s
  | _ => False

instance (s : Device) : ∀ e : DeviceEvent, Decidable (s.Finds e)
  | .connected _ _ | .deferred _ => inferInstanceAs (Decidable (_ ∧ _))
  | .boot _ _ | .disconnected _ | .netifUp | .netifDown | .tick _ _ | .arp _ _ | .timer _
  | .retry _ | .stop | .resume _ _ => inferInstanceAs (Decidable False)

end Device

namespace Timing

variable (t : Timing)

/-- The longest wait for the first probe, in ticks. -/
def waitTicks : Nat := max 1 (max 1 (msToTicks t.probeWaitMs) - 1)

/-- The longest wait for the next probe. -/
def probeTicks : Nat :=
  max 1 (if msToTicks t.probeMaxMs > msToTicks t.probeMinMs then msToTicks t.probeMaxMs - 1
    else msToTicks t.probeMinMs)

/-- From the last probe to the last announcement. -/
def announceTicks : Nat :=
  max 1 t.announceWaitTicks + (t.announceNum - 1) * t.announceIntervalTicks

/-- The longest time that a sequence can take, in ticks. -/
def sequenceTicks : Nat := t.waitTicks + (t.probeNum - 1) * t.probeTicks + t.announceTicks

end Timing

/-- The clock beside the run: the ticks since the client was first started. -/
def noteStarted (s : Device) (e : DeviceEvent) (s' : Device) : Option Nat → Option (Option Nat)
  | none => some (if starts s.log < starts s'.log then some 0 else none)
  | some n => some (some (if e.ticks then n + 1 else n))

/-- The attempts of the connect handler and the deferred retries come before the first start, or
once the sequence has had its time. -/
def Late (b : Build) (x : Device × Option Nat) (e : DeviceEvent) : Prop :=
  x.1.Finds e → ∀ n ∈ x.2, b.timing.sequenceTicks ≤ n

instance (b : Build) (x : Device × Option Nat) (e : DeviceEvent) : Decidable (Late b x e) :=
  inferInstanceAs (Decidable (_ → _))

namespace Device

/-! ## 2. The frames of a sequence -/

/-- No attempt of the connect handler and no deferred retry gets through while a sequence is
running. -/
def Spaced (s : Device) : DeviceEvent → Prop
  | .connected mac o =>
    s.acd.state.active = true →
      ¬(({ s with hwaddr := mac.toList } : Device).Ready ∧ o.Enough s)
  | .deferred o => s.acd.state.active = true → ¬(s.Ready ∧ o.Enough s)
  | _ => True

instance (s : Device) : ∀ e : DeviceEvent, Decidable (s.Spaced e)
  | .connected _ _ | .deferred _ => inferInstanceAs (Decidable (_ → _))
  | .boot _ _ | .disconnected _ | .netifUp | .netifDown | .tick _ _ | .arp _ _ | .timer _
  | .retry _ | .stop | .resume _ _ => inferInstanceAs (Decidable True)

/-- What has been sent, by the phase of the client. -/
def Sending (t : Timing) (s : Device) : AcdState → Prop
  | .off => starts s.log = 0 ∧ probesSent s.log = 0 ∧ announcementsSent s.log = 0
  | .probeWait | .probing =>
    starts s.log = 1 ∧ announcementsSent s.log = 0 ∧
      (t.probeNum < 256 → probesSent s.log = s.acd.sentNum ∧ s.acd.sentNum < t.probeNum)
  | .announceWait | .announcing =>
    starts s.log = 1 ∧ probesSent s.log = t.probeNum ∧
      (t.announceNum < 256 →
        announcementsSent s.log = s.acd.sentNum ∧ s.acd.sentNum < t.announceNum)
  | .ongoing => starts s.log = 1 ∧ s.probePending = false
  | .passiveOngoing | .rateLimit => False

structure Orderly (b : Build) (s : Device) : Prop where
  lastState : s.lastState = .ipOk
  retryNetif : s.retryNetif = false
  postedStop : s.postedStop = 0
  announced : Announced b.timing s.log
  sending : s.Sending b.timing s.acd.state

variable {s s' : Device} {b : Build} {o : Outcome} {timerOk : Bool} {e : DeviceEvent}

/-- The client sends nothing and is left alone. -/
structure Silent (s s' : Device) : Prop where
  acd : s'.acd = s.acd := by rfl
  lastState : s.lastState = .ipOk → s'.lastState = .ipOk := by exact id
  retryNetif : s'.retryNetif = s.retryNetif := by rfl
  postedStop : s'.postedStop = s.postedStop := by rfl
  pending : s.probePending = false → s'.probePending = false := by exact id
  log : s'.log = s.log ∨ ∃ cfg, s'.log = .wrote cfg :: s.log := by exact .inl rfl

theorem Orderly.silent (h : s.Orderly b) (hs : Silent s s') : s'.Orderly b := by
  have hcount (f : List Obs → Nat) (hf : ∀ cfg log, f (.wrote cfg :: log) = f log) :
      f s'.log = f s.log := by
    rcases hs.log with hl | ⟨cfg, hl⟩
    · rw [hl]
    · rw [hl, hf]
  have hok : Announced b.timing s'.log := by
    rcases hs.log with hl | ⟨cfg, hl⟩ <;> rw [hl] <;> exact h.announced
  refine ⟨hs.lastState h.lastState, hs.retryNetif.trans h.retryNetif,
    hs.postedStop.trans h.postedStop, hok, ?_⟩
  have hsend := h.sending
  unfold Sending at hsend ⊢
  rw [hs.acd, hcount starts fun _ _ => rfl, hcount probesSent fun _ _ => rfl,
    hcount announcementsSent fun _ _ => rfl]
  split at hsend <;> try exact hsend
  exact ⟨hsend.1, hs.pending hsend.2⟩

theorem Silent.trans {s₁ s₂ s₃ : Device} (h : Silent s₁ s₂) (h' : Silent s₂ s₃)
    (hlog : s₂.log = s₁.log ∨ s₃.log = s₂.log) : Silent s₁ s₃ where
  acd := h'.acd.trans h.acd
  lastState hl := h'.lastState (h.lastState hl)
  retryNetif := h'.retryNetif.trans h.retryNetif
  postedStop := h'.postedStop.trans h.postedStop
  pending hp := h'.pending (h.pending hp)
  log := by
    rcases hlog with hl | hl
    · rw [← hl]
      exact h'.log
    · rw [hl]
      exact h.log

theorem Silent.finish (s : Device) (k : Caller) : Silent s (s.finish k) := by
  cases k <;> exact {}

/-- The end of an attempt that no conflict has interrupted. -/
theorem Silent.done (hl : s.lastState = .ipOk) (o : Outcome) :
    Silent s (s.tcpipTryPendingAcdDone o) := by
  unfold tcpipTryPendingAcdDone
  rw [if_neg (by simp [hl])]
  dsimp only
  split
  · exact { pending := fun _ => rfl, log := .inr ⟨_, rfl⟩ }
  · exact {}

theorem Silent.resume (hl : s.lastState = .ipOk) (o : Outcome) (taken : Bool) (k : Caller) :
    Silent s (s.resume o taken k) := by
  have hres : Silent s (tcpipPerformAcdResume o taken { s with waiting := none }).1 ∧
      (tcpipPerformAcdResume o taken { s with waiting := none }).1.log = s.log := by
    unfold tcpipPerformAcdResume
    dsimp only
    rw [hl]
    split
    · exact ⟨{ lastState := fun _ => rfl }, rfl⟩
    · split
      · exact ⟨{ lastState := fun _ => rfl }, rfl⟩
      · rw [if_neg (by decide)]
        exact ⟨{ lastState := fun _ => rfl }, rfl⟩
  have hdone := hres.1.trans (.done (hres.1.lastState hl) o) (.inl hres.2)
  exact hdone.trans (.finish _ k) (.inr (by cases k <;> rfl))

theorem sending_probing {t : Timing} {st : AcdState} (hst : st = .probeWait ∨ st = .probing) :
    s.Sending t st ↔ starts s.log = 1 ∧ announcementsSent s.log = 0 ∧
      (t.probeNum < 256 → probesSent s.log = s.acd.sentNum ∧ s.acd.sentNum < t.probeNum) := by
  rcases hst with rfl | rfl <;> exact Iff.rfl

theorem sending_announcing {t : Timing} {st : AcdState}
    (hst : st = .announceWait ∨ st = .announcing) :
    s.Sending t st ↔ starts s.log = 1 ∧ probesSent s.log = t.probeNum ∧
      (t.announceNum < 256 →
        announcementsSent s.log = s.acd.sentNum ∧ s.acd.sentNum < t.announceNum) := by
  rcases hst with rfl | rfl <;> exact Iff.rfl

/-! ## 3. The client's drivers -/

/-- **A tick.** -/
theorem Orderly.tick (h : s.Orderly b) (hi : s.Inv) (hnum : 0 < b.timing.announceNum)
    (rand : Nat) : (s.tick b timerOk rand).Orderly b := by
  have hcase := tick_cases b timerOk rand s
  generalize s.tick b timerOk rand = s' at hcase ⊢
  obtain ⟨hl, hnet, hstop, hok, hsend⟩ := h
  cases hcase with
  | unlisted => exact ⟨hl, hnet, hstop, hok, hsend⟩
  | wait hactive => exact ⟨hl, hnet, hstop, hok, hsend⟩
  | probe hstate httw hmore =>
    obtain ⟨h1, h2, h3⟩ := (sending_probing hstate).1 hsend
    refine ⟨hl, hnet, hstop, hok, h1, h2, fun hp => ?_⟩
    obtain ⟨h4, h5⟩ := h3 hp
    have hmod : (s.acd.sentNum + 1) % 256 = s.acd.sentNum + 1 := Nat.mod_eq_of_lt (by omega)
    rw [hmod] at hmore
    exact ⟨(congrArg (· + 1) h4).trans hmod.symm, hmod.symm ▸ hmore⟩
  | lastProbe hstate httw hlast =>
    obtain ⟨h1, h2, h3⟩ := (sending_probing hstate).1 hsend
    -- a build with more probes than the counter can count never gets here
    have hp : b.timing.probeNum < 256 := Nat.lt_of_le_of_lt hlast (Nat.mod_lt _ (by decide))
    obtain ⟨h4, h5⟩ := h3 hp
    have hmod : (s.acd.sentNum + 1) % 256 = s.acd.sentNum + 1 := Nat.mod_eq_of_lt (by omega)
    have hall : probesSent s.log + 1 = b.timing.probeNum := by omega
    exact ⟨hl, hnet, hstop, hok, h1, hall, fun _ => ⟨h2, hnum⟩⟩
  | announce hstate httw hmore =>
    obtain ⟨h1, h2, h3⟩ := (sending_announcing hstate).1 hsend
    have hent := entered_state (a := s.acd.countDown) hstate
    refine ⟨hl, hnet, hstop, hok, (sending_announcing hent).2 ⟨h1, h2, fun hp => ?_⟩⟩
    obtain ⟨h4, h5⟩ := h3 hp
    have hmod : (s.acd.sentNum + 1) % 256 = s.acd.sentNum + 1 := Nat.mod_eq_of_lt (by omega)
    have hcount : (s.acd.countDown.entered.sentNum + 1) % 256 = s.acd.sentNum + 1 := by
      rw [entered_sentNum, countDown_sentNum, hmod]
    rw [hmod] at hmore
    exact ⟨(congrArg (· + 1) h4).trans hcount.symm, hcount.symm ▸ hmore⟩
  | lastAnnounce hlist hstate httw hlast =>
    obtain ⟨h1, h2, h3⟩ := (sending_announcing hstate).1 hsend
    have hpend := (hi.running.active (active_of_announces hstate)).1
    have hp : b.timing.announceNum < 256 := Nat.lt_of_le_of_lt hlast (Nat.mod_lt _ (by decide))
    obtain ⟨h4, h5⟩ := h3 hp
    have hmod : (s.acd.sentNum + 1) % 256 = s.acd.sentNum + 1 := Nat.mod_eq_of_lt (by omega)
    have hall : announcementsSent s.log + 1 = b.timing.announceNum := by omega
    rw [callback_announced hi hpend]
    exact ⟨rfl, hnet, hstop, ⟨⟨h2, hall⟩, hok⟩, h1, rfl⟩
  | defend hstate =>
    rw [hstate] at hsend
    refine ⟨hl, hnet, hstop, hok, ?_⟩
    have hgo : s.Sending b.timing .ongoing := hsend
    exact (congrArg (fun st => Sending b.timing _ st) hstate).mpr hgo
  | unlimit hstate =>
    rw [hstate] at hsend
    exact hsend.elim

/-- A packet of a station that leaves the address alone. -/
theorem Peaceful.arp {hdr : ArpHdr} (hi : s.Inv) (h : s.Peaceful (.arp hdr timerOk)) :
    s.arp b timerOk hdr = s := by
  have harp := arp_cases (b := b) hi.running.direct hdr timerOk
  generalize s.arp b timerOk hdr = s' at harp
  cases harp with
  | ignored _ => rfl
  | defended hno hholds huse =>
    rw [h.2 hholds] at huse
    cases huse
  | conflict hc =>
    rcases hc.2 with ⟨hp, hconf⟩ | ⟨hh, hconf, -⟩
    · rw [h.1 hp] at hconf
      cases hconf
    · rw [h.2 hh] at hconf
      cases hconf

/-! ## 4. Attempts -/

/-- The client is started for the first time. -/
theorem Orderly.launched (h : s.Orderly b) (hidle : s.acd.state.active = false)
    (hpend : s.probePending = true) (hnum : 0 < b.timing.probeNum) (k : Caller) :
    (s.launched b o k).Orderly b := by
  have hsend := h.sending
  have hzero : starts s.log = 0 ∧ probesSent s.log = 0 ∧ announcementsSent s.log = 0 := by
    cases hst : s.acd.state with
    | off =>
      rw [hst] at hsend
      exact hsend
    | ongoing =>
      -- the address has been assigned, and nothing makes it pending again
      rw [hst] at hsend
      rw [hsend.2] at hpend
      cases hpend
    | passiveOngoing =>
      rw [hst] at hsend
      exact hsend.elim
    | rateLimit =>
      rw [hst] at hsend
      exact hsend.elim
    | _ =>
      rw [hst] at hidle
      cases hidle
  refine ⟨rfl, h.retryNetif, h.postedStop, h.announced, ?_⟩
  exact ⟨congrArg (· + 1) hzero.1, hzero.2.2, fun _ => ⟨hzero.2.1, hnum⟩⟩

/-- An attempt does not get through, or starts the client. -/
theorem AttemptCase.silent {k : Caller} (ha : AttemptCase b o k s s') (hl : s.lastState = .ipOk) :
    Silent s s' ∨ (s.Ready ∧ o.Enough s) ∧ s' = s.launched b o k := by
  cases ha with
  | skipped _ => exact .inl (.finish s k)
  | noLink _ =>
    have hdef : Silent s { s with deferred := s.deferred + 1 } := {}
    exact .inl (hdef.trans (.finish _ k) (.inl rfl))
  | @failed u _ _ hu =>
    have hun : Silent s u ∧ u.log = s.log := by
      cases hu with
      | noSem => exact ⟨{}, rfl⟩
      | noContext => exact ⟨{ lastState := fun _ => rfl }, rfl⟩
    have hdone := hun.1.trans (.done (hun.1.lastState hl) o) (.inl hun.2)
    exact .inl (hdone.trans (.finish _ k) (.inr (by cases k <;> rfl)))
  | started hready henough => exact .inr ⟨⟨hready, henough⟩, rfl⟩

theorem Orderly.attempt (h : s.Orderly b) {k : Caller} (ha : AttemptCase b o k s s')
    (hidle : s.Ready ∧ o.Enough s → s.acd.state.active = false) (hnum : 0 < b.timing.probeNum) :
    s'.Orderly b := by
  rcases ha.silent h.lastState with hs | ⟨hthrough, rfl⟩
  · exact h.silent hs
  · exact h.launched (hidle hthrough) hthrough.1.1 hnum k

/-- The address becomes pending at boot, over an idle client. -/
theorem Orderly.boot (h : s.Orderly b) (hoff : s.acd.state = .off) (cfg : IpInfo) :
    ({ s with booted := true, pendingCfg := cfg, probePending := true,
              acdActivity := 1 } : Device).Orderly b := by
  have hsend := h.sending
  refine ⟨h.lastState, h.retryNetif, h.postedStop, h.announced, ?_⟩
  unfold Sending at hsend ⊢
  simp only [hoff] at hsend ⊢
  exact hsend

/-! ## 5. Every event -/

/-- **One event.** -/
theorem Orderly.step (h : s.Orderly b) (hi : s.Inv) (hp : 0 < b.timing.probeNum)
    (ha : 0 < b.timing.announceNum) (hg : s.Peaceful e ∧ s.Spaced e)
    (hs : deviceStep b s e = some s') : s'.Orderly b := by
  have hnet := h.retryNetif
  cases deviceStep_cases hi.core.selected hs with
  | attempt hwait hu hcase =>
    cases hu with
    | @boot cfg o hfresh hip =>
      -- nothing has happened yet
      have hoff : s.acd.state = .off := by
        by_contra hon
        rw [hi.running.live hon] at hfresh
        cases hfresh
      exact (h.boot hoff cfg).attempt hcase (fun _ => by rw [hoff]; rfl) hp
    | @connected mac o =>
      have hmac : ({ s with hwaddr := mac.toList } : Device).Orderly b := h.silent {}
      refine hmac.attempt hcase (fun hready => ?_) hp
      exact Bool.eq_false_iff.2 fun hact => hg.2 hact hready
    | deferred hpend =>
      have hdef : ({ s with deferred := s.deferred - 1 } : Device).Orderly b := h.silent {}
      refine hdef.attempt hcase (fun hready => ?_) hp
      exact Bool.eq_false_iff.2 fun hact => hg.2 hact hready
    | timer _ hset _ =>
      rw [hnet] at hset
      cases hset
    | retry _ hset =>
      rw [hnet] at hset
      cases hset
  | disconnected o => exact hg.1.elim
  | netifUp => exact h.silent {}
  | netifDown hup => exact absurd (hg.1.symm.trans hup) (by decide)
  | netifDownIdle _ => exact h
  | tick rand timerOk => exact h.tick hi ha rand
  | arp hdr timerOk =>
    rw [hg.1.arp hi]
    exact h
  | deferredIdle o _ => exact h.silent {}
  | timerIdle o _ => exact h.silent {}
  | timerPosted o _ _ hset =>
    rw [hnet] at hset
    cases hset
  | retryIdle o _ => exact h.silent {}
  | stop hposted =>
    rw [h.postedStop] at hposted
    cases hposted
  | resume o taken k hwait => exact h.silent (.resume h.lastState o taken k)

end Device

/-! ## 6. The clock -/

theorem Timing.randomProbeWait_le (t : Timing) (rand : Nat) :
    max 1 (t.randomProbeWait rand % 65536) ≤ t.waitTicks := by
  unfold Timing.randomProbeWait Timing.waitTicks
  split
  · omega
  · next hms =>
    have hlt : rand % (if msToTicks t.probeWaitMs > 0 then msToTicks t.probeWaitMs else 1) <
        max 1 (msToTicks t.probeWaitMs) := by
      split
      · exact Nat.lt_of_lt_of_le (Nat.mod_lt _ ‹_›) (Nat.le_max_right _ _)
      · exact Nat.lt_of_lt_of_le (Nat.mod_lt _ Nat.one_pos) (Nat.le_max_left _ _)
    have hmod := Nat.mod_le
      (rand % (if msToTicks t.probeWaitMs > 0 then msToTicks t.probeWaitMs else 1)) 65536
    omega

theorem Timing.randomProbeInterval_le (t : Timing) (rand : Nat) :
    max 1 (t.randomProbeInterval rand % 65536) ≤ t.probeTicks := by
  have hmod := Nat.mod_le (t.randomProbeInterval rand) 65536
  unfold Timing.randomProbeInterval at hmod ⊢
  unfold Timing.probeTicks
  split at hmod
  · next hrange =>
    rw [if_pos hrange] at ⊢
    have hlt : rand % (msToTicks t.probeMaxMs - msToTicks t.probeMinMs) <
        msToTicks t.probeMaxMs - msToTicks t.probeMinMs := Nat.mod_lt _ (by omega)
    rw [if_pos hrange]
    omega
  · next hfixed =>
    rw [if_neg hfixed, if_neg hfixed]
    omega

/-- The longest a client can take from here to `ACD_IP_OK`, in ticks. -/
def Client.ticksLeft (t : Timing) (a : Client) : Nat :=
  match a.state with
  | .probeWait | .probing =>
    max 1 a.ttw + (t.probeNum - 1 - a.sentNum) * t.probeTicks + t.announceTicks
  | .announceWait | .announcing =>
    max 1 a.ttw + (t.announceNum - 1 - a.sentNum) * t.announceIntervalTicks
  | .off | .ongoing | .passiveOngoing | .rateLimit => 0

theorem ticksLeft_probing {t : Timing} {a : Client} (h : a.state = .probeWait ∨ a.state = .probing) :
    a.ticksLeft t =
      max 1 a.ttw + (t.probeNum - 1 - a.sentNum) * t.probeTicks + t.announceTicks := by
  unfold Client.ticksLeft
  rcases h with h | h <;> rw [h]

theorem ticksLeft_announcing {t : Timing} {a : Client}
    (h : a.state = .announceWait ∨ a.state = .announcing) :
    a.ticksLeft t = max 1 a.ttw + (t.announceNum - 1 - a.sentNum) * t.announceIntervalTicks := by
  unfold Client.ticksLeft
  rcases h with h | h <;> rw [h]

theorem active_iff {st : AcdState} : st.active = true ↔
    (st = .probeWait ∨ st = .probing) ∨ (st = .announceWait ∨ st = .announcing) := by
  cases st <;> decide

/-- A client on its way has at least a tick left. -/
theorem ticksLeft_pos {t : Timing} {a : Client} (h : a.state.active = true) :
    0 < a.ticksLeft t := by
  rcases active_iff.1 h with h | h
  · rw [ticksLeft_probing h]
    omega
  · rw [ticksLeft_announcing h]
    omega

/-- Another step of so many, and one less to go. -/
theorem steps_left {n k : Nat} (h : k + 1 < n) (c : Nat) :
    (n - 1 - k) * c = c + (n - 1 - (k + 1)) * c := by
  have hk : n - 1 - k = (n - 1 - (k + 1)) + 1 := by omega
  rw [hk, Nat.succ_mul, Nat.add_comm]

namespace Device

variable {s s' : Device} {b : Build} {o : Outcome} {timerOk : Bool} {e : DeviceEvent}
  {k : Option Nat}

/-- The clock runs from the first start, and a client on its way is within its time. -/
structure Clocked (b : Build) (s : Device) (k : Option Nat) : Prop where
  started : k = none ↔ starts s.log = 0
  due : s.acd.state.active = true →
    ∃ n, k = some n ∧ n + s.acd.ticksLeft b.timing ≤ b.timing.sequenceTicks

/-- An attempt that comes late finds the client not yet started, as long as the address is
pending. -/
theorem Clocked.first (h : Clocked b s k) (ho : s.Orderly b)
    (hlate : ∀ n ∈ k, b.timing.sequenceTicks ≤ n) (hpend : s.probePending = true) :
    s.acd.state = .off := by
  have hidle : ¬s.acd.state.active = true := by
    intro hact
    obtain ⟨n, hn, hdue⟩ := h.due hact
    have hlong := hlate n hn
    have hpos := ticksLeft_pos (t := b.timing) hact
    omega
  have hsend := ho.sending
  cases hst : s.acd.state with
  | off => rfl
  | ongoing =>
    rw [hst] at hsend
    rw [hsend.2] at hpend
    cases hpend
  | passiveOngoing =>
    rw [hst] at hsend
    exact hsend.elim
  | rateLimit =>
    rw [hst] at hsend
    exact hsend.elim
  | _ =>
    rw [hst] at hidle
    exact absurd rfl hidle

theorem Clocked.spaced (h : Clocked b s k) (ho : s.Orderly b) (hlate : Late b (s, k) e) :
    s.Spaced e := by
  cases e with
  | connected mac o =>
    rintro hact ⟨⟨hpend, hmac, hlink⟩, henough⟩
    rw [h.first ho (hlate ⟨hmac, hlink, henough⟩) hpend] at hact
    cases hact
  | deferred o =>
    rintro hact ⟨⟨hpend, hmac, hlink⟩, henough⟩
    rw [h.first ho (hlate ⟨hmac, hlink, henough⟩) hpend] at hact
    cases hact
  | _ => trivial

theorem Silent.starts_eq (hs : Silent s s') : starts s'.log = starts s.log := by
  rcases hs.log with hl | ⟨cfg, hl⟩
  · rw [hl]
  · rw [hl]
    rfl

/-- Anything but a tick that leaves the client alone. -/
theorem Clocked.congr (h : Clocked b s k) (hacd : s'.acd = s.acd)
    (hstarts : starts s'.log = starts s.log) : Clocked b s' k := by
  constructor
  · rw [hstarts]
    exact h.started
  · rw [hacd]
    exact h.due

/-- The clock stands still, unless the client is started. -/
theorem noteStarted_same {k' : Option Nat} (he : e.ticks = false)
    (hstarts : starts s'.log = starts s.log) (hnote : noteStarted s e s' k = some k') : k' = k := by
  cases k with
  | none =>
    rw [noteStarted, if_neg (by omega)] at hnote
    exact (Option.some.inj hnote).symm
  | some n =>
    rw [noteStarted, if_neg (by simp [he])] at hnote
    exact (Option.some.inj hnote).symm

/-- The first start. -/
theorem Clocked.launched (b : Build) (o : Outcome) (c : Caller) (s : Device) :
    Clocked b (s.launched b o c) (some 0) := by
  refine ⟨iff_of_false (by intro h; cases h) (by intro h; cases h), fun _ => ⟨0, rfl, ?_⟩⟩
  have hwait := b.timing.randomProbeWait_le o.rand
  rw [Nat.zero_add, ticksLeft_probing (.inl rfl)]
  change max 1 (b.timing.randomProbeWait o.rand % 65536) + (b.timing.probeNum - 1 - 0) *
    b.timing.probeTicks + b.timing.announceTicks ≤ _
  unfold Timing.sequenceTicks
  rw [Nat.sub_zero]
  omega

/-- A tick that brings the client closer, or off its way. -/
theorem Clocked.advance (h : Clocked b s k) (hstarts : starts s'.log = starts s.log)
    (hdue : s'.acd.state.active = true → s.acd.state.active = true ∧
      s'.acd.ticksLeft b.timing + 1 ≤ s.acd.ticksLeft b.timing) :
    Clocked b s' (k.map (· + 1)) := by
  constructor
  · rw [hstarts, Option.map_eq_none_iff]
    exact h.started
  · intro hact
    obtain ⟨hbefore, hless⟩ := hdue hact
    obtain ⟨n, hn, hle⟩ := h.due hbefore
    refine ⟨n + 1, by rw [hn]; rfl, ?_⟩
    omega

/-- **A tick** takes one from what is left. -/
theorem Clocked.tick (h : Clocked b s k) (ho : s.Orderly b) (hi : s.Inv)
    (hp : b.timing.probeNum < 256) (ha : b.timing.announceNum < 256) (timerOk : Bool) (rand : Nat) :
    Clocked b (s.tick b timerOk rand) (k.map (· + 1)) := by
  have hcase := tick_cases b timerOk rand s
  generalize s.tick b timerOk rand = s' at hcase ⊢
  have hsend := ho.sending
  cases hcase with
  | unlisted hlist =>
    refine h.advance rfl fun hact => ?_
    have hplace : s.acd.state.probes = true ∨ s.acd.state.holds = true := by
      cases hst : s.acd.state <;> rw [hst] at hact <;>
        first | exact .inl rfl | exact .inr rfl | cases hact
    exact absurd (hi.running.place hplace).1 hlist
  | wait hactive =>
    refine h.advance rfl fun hact => ⟨hact, ?_⟩
    have hact' : s.acd.state.active = true := hact
    have httw : s.acd.ttw - 1 ≠ 0 := hactive hact'
    rcases active_iff.1 hact' with hst | hst
    · rw [ticksLeft_probing hst, ticksLeft_probing (a := s.acd.countDown) hst]
      change max 1 (s.acd.ttw - 1) + (b.timing.probeNum - 1 - s.acd.sentNum) * b.timing.probeTicks +
        b.timing.announceTicks + 1 ≤ _
      omega
    · rw [ticksLeft_announcing hst, ticksLeft_announcing (a := s.acd.countDown) hst]
      change max 1 (s.acd.ttw - 1) +
        (b.timing.announceNum - 1 - s.acd.sentNum) * b.timing.announceIntervalTicks + 1 ≤ _
      omega
  | probe hstate httw hmore =>
    obtain ⟨-, -, hnum⟩ := (sending_probing hstate).1 hsend
    obtain ⟨-, hlt⟩ := hnum hp
    have hmod : (s.acd.sentNum + 1) % 256 = s.acd.sentNum + 1 := Nat.mod_eq_of_lt (by omega)
    rw [hmod] at hmore
    refine h.advance rfl fun _ => ⟨active_iff.2 (.inl hstate), ?_⟩
    have hnext := b.timing.randomProbeInterval_le rand
    have hsteps := steps_left hmore b.timing.probeTicks
    rw [ticksLeft_probing hstate, ticksLeft_probing (.inr rfl)]
    dsimp only
    rw [hmod]
    omega
  | lastProbe hstate httw hlast =>
    refine h.advance rfl fun _ => ⟨active_iff.2 (.inl hstate), ?_⟩
    rw [ticksLeft_probing hstate, ticksLeft_announcing (.inl rfl)]
    change max 1 b.timing.announceWaitTicks +
      (b.timing.announceNum - 1 - 0) * b.timing.announceIntervalTicks + 1 ≤ _
    unfold Timing.announceTicks
    rw [Nat.sub_zero]
    omega
  | announce hstate httw hmore =>
    obtain ⟨-, -, hnum⟩ := (sending_announcing hstate).1 hsend
    obtain ⟨-, hlt⟩ := hnum ha
    have hmod : (s.acd.sentNum + 1) % 256 = s.acd.sentNum + 1 := Nat.mod_eq_of_lt (by omega)
    rw [hmod] at hmore
    refine h.advance rfl fun _ => ⟨active_iff.2 (.inr hstate), ?_⟩
    have hpos : 1 ≤ b.timing.announceIntervalTicks := by
      unfold Timing.announceIntervalTicks
      split <;> omega
    have hsteps := steps_left hmore b.timing.announceIntervalTicks
    have hent := entered_state (a := s.acd.countDown) hstate
    rw [ticksLeft_announcing hstate]
    have hleft := ticksLeft_announcing (t := b.timing) (a := { s.acd.countDown.entered with
      sentNum := (s.acd.countDown.entered.sentNum + 1) % 256
      ttw := b.timing.announceIntervalTicks }) hent
    rw [entered_sentNum, countDown_sentNum, hmod] at hleft ⊢
    rw [hleft]
    dsimp only
    omega
  | lastAnnounce hlist hstate httw hlast =>
    have hpend := (hi.running.active (active_of_announces hstate)).1
    rw [callback_announced hi hpend]
    exact h.advance rfl fun hact => by cases hact
  | defend hstate =>
    refine h.advance rfl fun hact => ?_
    have hact' : s.acd.state.active = true := hact
    rw [hstate] at hact'
    cases hact'
  | unlimit hstate =>
    rw [hstate] at hsend
    exact hsend.elim

/-- **One event, with the clock.** -/
theorem Clocked.step (h : Clocked b s k) (ho : s.Orderly b) (hi : s.Inv)
    (hp : b.timing.probeNum < 256) (ha : b.timing.announceNum < 256) (hg : s.Peaceful e)
    (hlate : Late b (s, k) e) (hs : deviceStep b s e = some s') {k' : Option Nat}
    (hnote : noteStarted s e s' k = some k') : Clocked b s' k' := by
  have hnet := ho.retryNetif
  -- what is not a tick leaves the client alone or starts it for the first time
  have hquiet (he : e.ticks = false) (hs : Silent s s') : Clocked b s' k' := by
    rw [noteStarted_same he hs.starts_eq hnote]
    exact h.congr hs.acd hs.starts_eq
  have hattempt {u : Device} {o : Outcome} {c : Caller} (hcase : AttemptCase b o c u s')
      (he : e.ticks = false) (hacd : u.acd = s.acd) (hlog : u.log = s.log)
      (hlast : u.lastState = .ipOk) (hfirst : u.Ready ∧ o.Enough u → s.acd.state = .off) :
      Clocked b s' k' := by
    rcases hcase.silent hlast with hsil | ⟨hthrough, rfl⟩
    · have hstarts : starts s'.log = starts s.log := hsil.starts_eq.trans (congrArg starts hlog)
      rw [noteStarted_same he hstarts hnote]
      exact h.congr (hsil.acd.trans hacd) hstarts
    · have hsend := ho.sending
      rw [hfirst hthrough] at hsend
      have hzero : starts s.log = 0 := hsend.1
      obtain rfl := h.started.2 hzero
      have hone : starts s.log < starts (u.launched b o c).log := by
        rw [hzero]
        exact Nat.succ_pos _
      rw [noteStarted, if_pos hone] at hnote
      obtain rfl := Option.some.inj hnote
      exact .launched b o c u
  cases deviceStep_cases hi.core.selected hs with
  | attempt hwait hu hcase =>
    cases hu with
    | @boot cfg o hfresh hip =>
      refine hattempt hcase rfl rfl rfl ho.lastState fun _ => ?_
      by_contra hon
      rw [hi.running.live hon] at hfresh
      cases hfresh
    | @connected mac o =>
      refine hattempt hcase rfl rfl rfl ho.lastState ?_
      rintro ⟨⟨hpend, hmac, hlink⟩, henough⟩
      exact h.first ho (hlate ⟨hmac, hlink, henough⟩) hpend
    | deferred hpend =>
      refine hattempt hcase rfl rfl rfl ho.lastState ?_
      rintro ⟨⟨-, hmac, hlink⟩, henough⟩
      exact h.first ho (hlate ⟨hmac, hlink, henough⟩) hpend
    | timer _ hset _ =>
      rw [hnet] at hset
      cases hset
    | retry _ hset =>
      rw [hnet] at hset
      cases hset
  | disconnected o => exact hg.elim
  | netifUp => exact hquiet rfl {}
  | netifDown hup => exact absurd (hg.symm.trans hup) (by decide)
  | netifDownIdle _ => exact hquiet rfl {}
  | tick rand timerOk =>
    have hnext : k' = k.map (· + 1) := by
      cases k with
      | none =>
        have htick := h.tick ho hi hp ha timerOk rand
        have hsame := h.started.1 rfl
        have hsame' := htick.started.1 rfl
        rw [noteStarted, if_neg (by omega)] at hnote
        exact (Option.some.inj hnote).symm
      | some n =>
        exact (Option.some.inj hnote).symm
    rw [hnext]
    exact h.tick ho hi hp ha timerOk rand
  | arp hdr timerOk =>
    have hsame : s.arp b timerOk hdr = s := hg.arp hi
    rw [hsame] at hnote ⊢
    rw [noteStarted_same rfl rfl hnote]
    exact h
  | deferredIdle o _ => exact hquiet rfl {}
  | timerIdle o _ => exact hquiet rfl {}
  | timerPosted o _ _ hset =>
    rw [hnet] at hset
    cases hset
  | retryIdle o _ => exact hquiet rfl {}
  | stop hposted =>
    rw [ho.postedStop] at hposted
    cases hposted
  | resume o taken c hwait => exact hquiet rfl (.resume ho.lastState o taken c)

end Device

/-! ## 7. Every run -/

/-- **One probe sequence.**  In every run in which nobody else uses the address and the link is
not lost, and in which the attempts of the connect handler and the deferred retries come before the
client is first started or once a sequence has had its time, the client is started once at most, and
`ACD_IP_OK` comes after PROBE_NUM probes and ANNOUNCE_NUM announcements. -/
theorem one_sequence {b : Build} {others : List Nat} {x : Device × Option Nat}
    (hp : 0 < b.timing.probeNum ∧ b.timing.probeNum < 256)
    (ha : 0 < b.timing.announceNum ∧ b.timing.announceNum < 256)
    (h : Run (watch (deviceStep b) noteStarted) (fun x e => x.1.Peaceful e ∧ Late b x e)
      (Device.init others, none) x) :
    OneSequence b x.1 := by
  have hinv : x.1.Inv ∧ x.1.Orderly b ∧ Device.Clocked b x.1 x.2 := by
    refine h.invariant (P := fun x : Device × Option Nat =>
      x.1.Inv ∧ x.1.Orderly b ∧ Device.Clocked b x.1 x.2) ?_ ?_
    · rintro u e v ⟨hi, ho, hc⟩ ⟨hpeace, hlate⟩ hs
      obtain ⟨hstep, hnote⟩ := watch_some.1 hs
      exact ⟨(hi.step hstep).1, ho.step hi hp.1 ha.1 ⟨hpeace, hc.spaced ho hlate⟩ hstep,
        hc.step ho hi hp.2 ha.2 hpeace hlate hstep hnote⟩
    · exact ⟨.init others, ⟨rfl, rfl, rfl, trivial, rfl, rfl, rfl⟩, iff_of_true rfl rfl,
        fun h => by cases h⟩
  obtain ⟨-, hord, -⟩ := hinv
  refine ⟨?_, hord.announced⟩
  have hsend := hord.sending
  unfold Device.Sending at hsend
  split at hsend
  · omega
  · omega
  · omega
  · omega
  · omega
  · omega
  · exact hsend.elim
  · exact hsend.elim

/-! ## 8. Two runs -/

/-- A build that announces every 200 ms: its sequences take 13 ticks. -/
def Build.brisk : Build :=
  { Build.shipped with
    timing := { Timing.shipped with announceWaitMs := 200, announceIntervalMs := 200 } }

/-- Boot without a link, the link comes up, and the connect handler's attempt returns with
`ACD_IP_OK`; its deferred retry is due two ticks later. -/
def benchBrisk : List DeviceEvent :=
  [.boot benchCfg .good, .netifUp, .connected benchMac .good] ++ benchTicks 13 ++
    [.resume .good true] ++ benchTicks 2 ++ [.deferred .good] ++ benchTicks 5

/-- The sequence is over in time. -/
theorem one_sequence_brisk :
    ∃ x, Run (watch (deviceStep .brisk) noteStarted) (fun x e => x.1.Peaceful e ∧ Late .brisk x e)
        (Device.init [], none) x ∧
      x.1.acd.state = .ongoing ∧ x.1.deferred = 0 ∧ OneSequence .brisk x.1 := by
  have h : (exec (watch (deviceStep .brisk) noteStarted) (Device.init [], none) benchBrisk).map
      (fun x => (x.1.acd.state, x.1.deferred)) = some (.ongoing, 0) := by decide +kernel
  have hm : execMeets (watch (deviceStep .brisk) noteStarted)
      (fun x e => x.1.Peaceful e ∧ Late .brisk x e) (Device.init [], none) benchBrisk := by
    decide +kernel
  obtain ⟨x, hx, hobs⟩ := Option.map_eq_some_iff.1 h
  rw [Prod.mk.injEq] at hobs
  have hrun := exec_run hm hx
  exact ⟨x, hrun, hobs.1, hobs.2, one_sequence (by decide) (by decide) hrun⟩

/-- In the run of `benchAssign` nobody else uses the address and the link is not lost, and the
sequence is begun twice. -/
theorem sequence_thrown_away :
    ∃ s, Run (deviceStep .shipped) (fun s e => s.Peaceful e) (Device.init []) s ∧
      s.acd.state = .ongoing ∧ ¬OneSequence .shipped s := by
  have h : (exec (deviceStep .shipped) (Device.init []) benchAssign).map
      (fun s => (s.acd.state, decide (OneSequence .shipped s))) = some (.ongoing, false) := by
    decide +kernel
  have hm : execMeets (deviceStep .shipped) (fun s e => s.Peaceful e) (Device.init [])
      benchAssign := by decide +kernel
  obtain ⟨s, hs, hobs⟩ := Option.map_eq_some_iff.1 h
  rw [Prod.mk.injEq] at hobs
  exact ⟨s, exec_run hm hs, hobs.1, of_decide_eq_false hobs.2⟩

end GroundTruth.Acd
