/-
# One client, whoever its user is

`Acd/Device.lean` is the client as `main.c` uses it.  Here the user is anybody: when it is called
back it leaves the client alone, stops it, or starts it again, as each event says.  What the client
hands to `etharp.c` to be sent, what it hears, and what its user is told, is written down with the
ticks; `sinceStart` is what has been written since the last `acd_start`.  A frame for which there is
no memory (`ERR_MEM`) is not sent; `acd.c` logs this for a probe, ignores it for an announcement,
and counts the frame in both cases.

* `Phased.step`: what has been sent and heard since the start, by the phase of the client;
* `ipOk_accepted`: so `ACD_IP_OK` comes after PROBE_NUM probes, after ANNOUNCE_NUM announcements
  (one, where the build says none) and one more for every conflict that was defended in between, and
  with no conflict before the first of them; and a packet of the netif itself does nothing;
* `announced_in_defence`: one conflict while the client announces, and the announcements before
  `ACD_IP_OK` are five.
-/
import GroundTruth.Lib.Run
import GroundTruth.Acd.Client

namespace GroundTruth.Acd

open GroundTruth.Lib

/-! ## 1. The client and its user -/

/-- What is written down. -/
inductive LifeObs
  /-- `acd_start` -/
  | started
  | tick
  /-- `etharp_acd_probe` -/
  | probed
  /-- `etharp_acd_announce` -/
  | announced
  /-- `ERR_MEM`, for the frame that was handed over last -/
  | errMem
  /-- a packet is taken for a conflict -/
  | conflict
  | told (c : AcdCallback)
  deriving DecidableEq, Repr

/-- What a user does to the client from inside its callback.  It may wipe the client before it
starts it, as `main.c` does. -/
inductive Reaction
  | keep
  | stop
  | start (rand : Nat) (ip : Ip4) (wipe : Bool)
  deriving DecidableEq, Repr

structure Life where
  acd : Client
  /-- of the netif -/
  hwaddr : EthAddr
  /-- newest first -/
  log : List LifeObs
  deriving DecidableEq

namespace Life

/-- `acd_start` -/
def start (t : Timing) (rand : Nat) (ip : Ip4) (wipe : Bool) (s : Life) : Life :=
  { s with acd := acdStart t rand ip (if wipe = true then Client.zero else s.acd)
           log := .started :: s.log }

/-- `acd_stop` -/
def stop (s : Life) : Life := { s with acd := acdStop s.acd }

def react (t : Timing) (s : Life) : Reaction → Life
  | .keep => s
  | .stop => s.stop
  | .start rand ip wipe => s.start t rand ip wipe

/-- What `etharp.c` returns, if there is something to write down. -/
def returned (sent : Bool) (log : List LifeObs) : List LifeObs :=
  if sent = true then log else .errMem :: log

/-- The surroundings of a client whose user reacts like this; `sent` says whether there is memory
for a frame. -/
def host (t : Timing) (sent : Bool) (user : AcdCallback → Reaction) : Host Life where
  acd := Life.acd
  setAcd a s := { s with acd := a }
  hwaddr := Life.hwaddr
  probe _ s := { s with log := returned sent (.probed :: s.log) }
  announce _ s := { s with log := returned sent (.announced :: s.log) }
  setLastConflict _ s := { s with log := .conflict :: s.log }
  callback c s := react t { s with log := .told c :: s.log } (user c)

end Life

inductive LifeEvent
  | start (rand : Nat) (ip : Ip4) (wipe : Bool)
  | stop
  | tick (rand : Nat) (sent : Bool) (user : AcdCallback → Reaction)
  | arp (hdr : ArpHdr) (sent : Bool) (user : AcdCallback → Reaction)

def lifeStep (t : Timing) (s : Life) : LifeEvent → Option Life
  | .start rand ip wipe => some (s.start t rand ip wipe)
  | .stop => some s.stop
  | .tick rand sent user =>
    some (acdTmr t (Life.host t sent user) rand { s with log := .tick :: s.log })
  | .arp hdr sent user => some (acdArpReply t (Life.host t sent user) hdr s)

/-! ## 2. What was sent before `ACD_IP_OK` -/

/-- What has been written since the last `acd_start`. -/
def sinceStart : List LifeObs → List LifeObs
  | [] => []
  | .started :: _ => []
  | o :: older => o :: sinceStart older

/-- Every conflict comes after an announcement. -/
def HeardAfter : List LifeObs → Prop
  | [] => True
  | .conflict :: older => .announced ∈ older ∧ HeardAfter older
  | _ :: older => HeardAfter older

instance HeardAfter.decidable : ∀ log : List LifeObs, Decidable (HeardAfter log)
  | [] => inferInstanceAs (Decidable True)
  | .conflict :: older =>
    haveI := HeardAfter.decidable older
    inferInstanceAs (Decidable (_ ∧ HeardAfter older))
  | .started :: older => HeardAfter.decidable older
  | .tick :: older => HeardAfter.decidable older
  | .probed :: older => HeardAfter.decidable older
  | .announced :: older => HeardAfter.decidable older
  | .errMem :: older => HeardAfter.decidable older
  | .told _ :: older => HeardAfter.decidable older

/-- The frames of one start: all probes, all announcements and one for each conflict, and no
conflict before the first announcement.  There is at least one of either: `sent_num` is counted up
before it is compared. -/
structure Complete (t : Timing) (sent : List LifeObs) : Prop where
  probes : sent.count .probed = max 1 t.probeNum
  announcements : sent.count .announced = max 1 t.announceNum + sent.count .conflict
  heard : HeardAfter sent

/-- Whenever the user was told `ACD_IP_OK` the frames of the start were complete. -/
def Accepted (t : Timing) : List LifeObs → Prop
  | [] => True
  | .told .ipOk :: older => Complete t (sinceStart older) ∧ Accepted t older
  | _ :: older => Accepted t older

/-! ## 3. The invariant -/

variable {t : Timing} {s s' : Life} {e : LifeEvent} {user : AcdCallback → Reaction}
  {hdr : ArpHdr} {rand : Nat} {ok : Bool}

/-- What has been sent and heard since the start, by the phase of the client. -/
def Sent (t : Timing) (a : Client) (sent : List LifeObs) : Prop :=
  match a.state with
  | .probeWait | .probing =>
    sent.count .announced = 0 ∧ sent.count .conflict = 0 ∧
      (t.probeNum < 256 → sent.count .probed = a.sentNum ∧ a.sentNum < max 1 t.probeNum)
  | .announceWait =>
    sent.count .probed = max 1 t.probeNum ∧ sent.count .announced = 0 ∧ sent.count .conflict = 0 ∧
      a.sentNum = 0
  | .announcing =>
    sent.count .probed = max 1 t.probeNum ∧ .announced ∈ sent ∧ HeardAfter sent ∧
      (t.announceNum < 256 →
        sent.count .announced = a.sentNum + sent.count .conflict ∧ a.sentNum < max 1 t.announceNum)
  | .off | .ongoing | .passiveOngoing | .rateLimit => True

structure Phased (t : Timing) (s : Life) : Prop where
  accepted : Accepted t s.log
  sent : Sent t s.acd (sinceStart s.log)

@[simp] theorem heardAfter_tick {log : List LifeObs} :
    HeardAfter (.tick :: log) ↔ HeardAfter log := Iff.rfl

@[simp] theorem count_returned {o : LifeObs} (ho : o ≠ .errMem) (ok : Bool)
    (log : List LifeObs) : (Life.returned ok log).count o = log.count o := by
  cases ok with
  | true => rfl
  | false => exact List.count_cons_of_ne (Ne.symm ho)

@[simp] theorem heardAfter_returned {ok : Bool} {log : List LifeObs} :
    HeardAfter (Life.returned ok log) ↔ HeardAfter log := by
  cases ok <;> rfl

@[simp] theorem accepted_returned {t : Timing} {ok : Bool} {log : List LifeObs} :
    Accepted t (Life.returned ok log) ↔ Accepted t log := by
  cases ok <;> rfl

@[simp] theorem sinceStart_returned (ok : Bool) (log : List LifeObs) :
    sinceStart (Life.returned ok log) = Life.returned ok (sinceStart log) := by
  cases ok <;> rfl

theorem Complete.returned {t : Timing} {sent : List LifeObs} (h : Complete t sent) (ok : Bool) :
    Complete t (Life.returned ok sent) := by
  refine ⟨?_, ?_, heardAfter_returned.2 h.heard⟩
  · rw [count_returned (by decide), h.probes]
  · rw [count_returned (by decide), count_returned (by decide), h.announcements]

/-- What is returned concerns no phase. -/
theorem Sent.returned {t : Timing} {a : Client} {sent : List LifeObs} (h : Sent t a sent)
    (ok : Bool) : Sent t a (Life.returned ok sent) := by
  cases ok with
  | true => exact h
  | false =>
    unfold Sent at h ⊢
    have hmem : LifeObs.announced ∈ Life.returned false sent ↔ .announced ∈ sent := by
      simp [Life.returned]
    split at h <;> first | trivial | simpa [hmem] using h

/-- Whatever is returned, it does not change what the client is at. -/
theorem Phased.returned {t : Timing} {a : Client} {hw : EthAddr} (log : List LifeObs)
    (h : Accepted t log) (hsent : Sent t a (sinceStart log)) (ok : Bool) :
    Phased t ⟨a, hw, Life.returned ok log⟩ := by
  refine ⟨accepted_returned.2 h, ?_⟩
  rw [sinceStart_returned]
  exact hsent.returned ok

theorem heardAfter_of_none {log : List LifeObs} (h : log.count .conflict = 0) : HeardAfter log := by
  induction log with
  | nil => trivial
  | cons o older ih =>
    cases o with
    | conflict =>
      rw [List.count_cons_self] at h
      cases h
    | _ =>
      rw [List.count_cons_of_ne (by simp)] at h
      exact ih h

theorem sent_probing {a : Client} {sent : List LifeObs}
    (hst : a.state = .probeWait ∨ a.state = .probing) : Sent t a sent ↔
      sent.count .announced = 0 ∧ sent.count .conflict = 0 ∧
        (t.probeNum < 256 → sent.count .probed = a.sentNum ∧ a.sentNum < max 1 t.probeNum) := by
  unfold Sent
  rcases hst with hst | hst <;> rw [hst]

/-- A client that may announce has sent its probes, and has heard no conflict too early. -/
theorem Sent.announces {a : Client} {sent : List LifeObs}
    (h : Sent t a sent) (hst : a.state = .announceWait ∨ a.state = .announcing) :
    sent.count .probed = max 1 t.probeNum ∧ HeardAfter sent ∧
      (t.announceNum < 256 →
        sent.count .announced = a.sentNum + sent.count .conflict ∧
          a.sentNum < max 1 t.announceNum) := by
  unfold Sent at h
  rcases hst with hst | hst
  · rw [hst] at h
    obtain ⟨hprobes, hannounced, hconflict, hzero⟩ := h
    refine ⟨hprobes, heardAfter_of_none hconflict, fun _ => ⟨?_, ?_⟩⟩
    · rw [hannounced, hconflict, hzero]
    · rw [hzero]
      exact Nat.lt_of_lt_of_le Nat.zero_lt_one (Nat.le_max_left _ _)
  · rw [hst] at h
    obtain ⟨hprobes, -, hheard, hcount⟩ := h
    exact ⟨hprobes, hheard, hcount⟩

/-- The first announcement makes the phase. -/
theorem entered_announcing {a : Client}
    (hst : a.state = .announceWait ∧ a.sentNum = 0 ∨ a.state = .announcing) :
    a.entered.state = .announcing := by
  unfold Client.entered
  split
  · rfl
  · rename_i hpos
    rcases hst with ⟨-, hzero⟩ | hst
    · exact absurd hzero hpos
    · exact hst

theorem Sent.entered {a : Client} {sent : List LifeObs} (h : Sent t a sent)
    (hst : a.state = .announceWait ∨ a.state = .announcing) :
    a.countDown.entered.state = .announcing := by
  refine entered_announcing ?_
  rcases hst with hst | hst
  · unfold Sent at h
    rw [hst] at h
    exact .inl ⟨hst, h.2.2.2⟩
  · exact .inr hst

/-- **A start** begins a phase of its own, whatever there was. -/
theorem Phased.start (h : Accepted t s.log) (rand : Nat) (ip : Ip4) (wipe : Bool) :
    Phased t (s.start t rand ip wipe) := by
  refine ⟨h, ?_⟩
  exact ⟨rfl, rfl, fun _ => ⟨rfl, Nat.lt_of_lt_of_le Nat.zero_lt_one (Nat.le_max_left _ _)⟩⟩

/-- A client that has nothing more to send. -/
theorem Phased.rest (h : Accepted t s.log)
    (hst : s.acd.state = .off ∨ s.acd.state = .ongoing ∨ s.acd.state = .rateLimit) :
    Phased t s := by
  refine ⟨h, ?_⟩
  unfold Sent
  rcases hst with hst | hst | hst <;> rw [hst] <;> trivial

/-- **The user reacts**, when the client has nothing more to send. -/
theorem Phased.react (h : Phased t s) (r : Reaction) :
    Phased t (s.react t r) := by
  cases r with
  | keep => exact h
  | stop => exact .rest h.accepted (.inl rfl)
  | start rand ip wipe => exact .start h.accepted rand ip wipe

/-! ## 4. One event -/

/-- A conflict is told to the user, who may do as he likes with the client. -/
theorem accepted_react (h : Accepted t s.log) (r : Reaction) : Accepted t (s.react t r).log := by
  cases r <;> exact h

/-- A client that is limited. -/
theorem Phased.limited (h : Accepted t s.log) :
    Phased t (acdLimited t (Life.host t ok user) (acdDeclined (Life.host t ok user) s)) := by
  have hdeclined : Accepted t (acdDeclined (Life.host t ok user) s).log :=
    accepted_react (s := { s with acd := _, log := .told .decline :: s.log }) h (user .decline)
  exact .rest hdeclined (.inr (.inr rfl))

/-- A client that is stopped, and may have been started again. -/
theorem Phased.stopped (h : Accepted t s.log) :
    Phased t (acdStopped (Life.host t ok user) (acdDeclined (Life.host t ok user) s)) := by
  have hdeclined : Accepted t (acdDeclined (Life.host t ok user) s).log :=
    accepted_react (s := { s with acd := _, log := .told .decline :: s.log }) h (user .decline)
  have hoff : Phased t { acdDeclined (Life.host t ok user) s with
      acd := acdStop (acdDeclined (Life.host t ok user) s).acd
      log := .told .restartClient :: (acdDeclined (Life.host t ok user) s).log } :=
    .rest hdeclined (.inl rfl)
  exact hoff.react (user .restartClient)

/-- A tick that passes. -/
theorem Sent.tick {a : Client} {sent : List LifeObs} (h : Sent t a sent) :
    Sent t a.countDown (.tick :: sent) := by
  unfold Sent at h ⊢
  rw [countDown_state]
  split at h <;> simp only [List.count_cons_of_ne, List.mem_cons, heardAfter_tick, countDown_sentNum,
    ne_eq, reduceCtorEq, not_false_eq_true, false_or] <;> exact h

/-- A probe, and not the last one. -/
theorem Sent.probe {a : Client} {sent : List LifeObs} (h : Sent t a sent)
    (hst : a.state = .probeWait ∨ a.state = .probing)
    (hmore : (a.sentNum + 1) % 256 < t.probeNum) (n : Nat) :
    Sent t { a.countDown with state := .probing, sentNum := (a.sentNum + 1) % 256, ttw := n }
      (.probed :: .tick :: sent) := by
  obtain ⟨hannounced, hconflict, hprobes⟩ := (sent_probing hst).1 h
  refine (sent_probing (.inr rfl)).2 ⟨?_, ?_, fun hlt => ?_⟩
  · simpa using hannounced
  · simpa using hconflict
  · obtain ⟨hcount, hnum⟩ := hprobes hlt
    have hmod : (a.sentNum + 1) % 256 = a.sentNum + 1 := Nat.mod_eq_of_lt (by omega)
    refine ⟨?_, Nat.lt_of_lt_of_le hmore (Nat.le_max_right _ _)⟩
    simpa [hmod] using hcount

/-- The last probe. -/
theorem Sent.lastProbe {a : Client} {sent : List LifeObs} (h : Sent t a sent)
    (hst : a.state = .probeWait ∨ a.state = .probing)
    (hlast : t.probeNum ≤ (a.sentNum + 1) % 256) (n : Nat) :
    Sent t { a.countDown with state := .announceWait, sentNum := 0, ttw := n }
      (.probed :: .tick :: sent) := by
  obtain ⟨hannounced, hconflict, hprobes⟩ := (sent_probing hst).1 h
  -- a build with more probes than the counter can count never gets here
  have hlt : t.probeNum < 256 := Nat.lt_of_le_of_lt hlast (Nat.mod_lt _ (by decide))
  obtain ⟨hcount, hnum⟩ := hprobes hlt
  have hmod : (a.sentNum + 1) % 256 = a.sentNum + 1 := Nat.mod_eq_of_lt (by omega)
  have hall : sent.count .probed + 1 = max 1 t.probeNum := by omega
  refine ⟨?_, ?_, ?_, rfl⟩
  · simpa using hall
  · simpa using hannounced
  · simpa using hconflict

/-- An announcement, and not the last one. -/
theorem Sent.announce {a : Client} {sent : List LifeObs} (h : Sent t a sent)
    (hst : a.state = .announceWait ∨ a.state = .announcing)
    (hmore : (a.sentNum + 1) % 256 < t.announceNum) (n : Nat) :
    Sent t { a.countDown.entered with
        sentNum := (a.countDown.entered.sentNum + 1) % 256, ttw := n }
      (.announced :: .tick :: sent) := by
  obtain ⟨hprobes, hheard, hannounced⟩ := h.announces hst
  unfold Sent
  rw [h.entered hst]
  dsimp only
  rw [entered_sentNum, countDown_sentNum]
  refine ⟨?_, List.mem_cons_self, hheard, fun hlt => ⟨?_,
    Nat.lt_of_lt_of_le hmore (Nat.le_max_right _ _)⟩⟩
  · simpa using hprobes
  · obtain ⟨hcount, hnum⟩ := hannounced hlt
    have hmod : (a.sentNum + 1) % 256 = a.sentNum + 1 := Nat.mod_eq_of_lt (by omega)
    have hnext : sent.count .announced + 1 = a.sentNum + 1 + sent.count .conflict := by omega
    simpa [hmod] using hnext

/-- The last announcement. -/
theorem Sent.lastAnnounce {a : Client} {sent : List LifeObs} (h : Sent t a sent)
    (hst : a.state = .announceWait ∨ a.state = .announcing)
    (hlast : t.announceNum ≤ (a.sentNum + 1) % 256) :
    Complete t (.announced :: .tick :: sent) := by
  obtain ⟨hprobes, hheard, hannounced⟩ := h.announces hst
  have hlt : t.announceNum < 256 := Nat.lt_of_le_of_lt hlast (Nat.mod_lt _ (by decide))
  obtain ⟨hcount, hnum⟩ := hannounced hlt
  have hmod : (a.sentNum + 1) % 256 = a.sentNum + 1 := Nat.mod_eq_of_lt (by omega)
  have hall : sent.count .announced + 1 = max 1 t.announceNum + sent.count .conflict := by omega
  refine ⟨?_, ?_, hheard⟩
  · simpa using hprobes
  · simpa using hall

/-- **A tick.** -/
theorem Phased.tick (h : Phased t s) :
    Phased t (acdTmr t (Life.host t ok user) rand { s with log := .tick :: s.log }) := by
  have hcase := acdTmr_cases t (Life.host t ok user) rand { s with log := .tick :: s.log }
  generalize acdTmr t (Life.host t ok user) rand { s with log := .tick :: s.log } = s' at hcase ⊢
  obtain ⟨hok, hsent⟩ := h
  cases hcase with
  | wait _ => exact ⟨hok, hsent.tick⟩
  | probe hstate httw hmore =>
    exact .returned (.probed :: .tick :: s.log) hok (hsent.probe hstate hmore _) ok
  | lastProbe hstate httw hlast =>
    exact .returned (.probed :: .tick :: s.log) hok (hsent.lastProbe hstate hlast _) ok
  | announce hstate httw hmore =>
    exact .returned (.announced :: .tick :: s.log) hok (hsent.announce hstate hmore _) ok
  | lastAnnounce hstate httw hlast =>
    refine Phased.react ?_ (user .ipOk)
    have hcomplete : Complete t (sinceStart (Life.returned ok (.announced :: .tick :: s.log))) := by
      rw [sinceStart_returned]
      exact (hsent.lastAnnounce hstate hlast).returned ok
    exact .rest ⟨hcomplete, accepted_returned.2 hok⟩ (.inr (.inl rfl))
  | defend hstate => exact .rest (accepted_returned.2 hok) (.inr (.inl hstate))
  | unlimit hstate =>
    refine Phased.react ?_ (user .restartClient)
    exact .rest hok (.inl rfl)

/-- A conflict that is defended adds an announcement of its own. -/
theorem Sent.defended {a : Client} {sent : List LifeObs} (h : Sent t a sent)
    (hst : a.state.holds = true) (n : Nat) :
    Sent t { a with lastconflict := n } (.announced :: .conflict :: sent) := by
  unfold Sent at h ⊢
  rcases (AcdState.holds_iff _).1 hst with hst | hst
  · rw [hst] at h
    obtain ⟨hprobes, hfirst, hheard, hannounced⟩ := h
    dsimp only
    rw [hst]
    refine ⟨?_, List.mem_cons_self, ⟨hfirst, hheard⟩, fun hlt => ⟨?_, (hannounced hlt).2⟩⟩
    · simpa using hprobes
    · have hnext : sent.count .announced + 1 = a.sentNum + (sent.count .conflict + 1) := by
        rw [(hannounced hlt).1, Nat.add_assoc]
      simpa using hnext
  · dsimp only
    rw [hst]
    trivial

/-- **A packet.** -/
theorem Phased.arp (h : Phased t s) :
    Phased t (acdArpReply t (Life.host t ok user) hdr s) := by
  have hcase := acdArpReply_cases t (Life.host t ok user) hdr s rfl
  generalize acdArpReply t (Life.host t ok user) hdr s = s' at hcase ⊢
  obtain ⟨hok, hsent⟩ := h
  cases hcase with
  | ignored _ _ => exact ⟨hok, hsent⟩
  | limited _ => exact .limited (s := { s with log := .conflict :: s.log }) hok
  | stopped _ => exact .stopped (s := { s with log := .conflict :: s.log }) hok
  | defended hstate _ =>
    exact .returned (.announced :: .conflict :: s.log) hok (hsent.defended hstate _) ok
  | passive _ =>
    have hoff :
        Phased t { s with acd := acdStop s.acd, log := .told .decline :: .conflict :: s.log } :=
      .rest hok (.inl rfl)
    exact hoff.react (user .decline)

theorem Phased.step (h : Phased t s) (hs : lifeStep t s e = some s') : Phased t s' := by
  cases e with
  | start rand ip wipe =>
    obtain rfl := Option.some.inj hs
    exact .start h.accepted rand ip wipe
  | stop =>
    obtain rfl := Option.some.inj hs
    exact .rest h.accepted (.inl rfl)
  | tick rand ok user =>
    obtain rfl := Option.some.inj hs
    exact h.tick
  | arp hdr ok user =>
    obtain rfl := Option.some.inj hs
    exact h.arp

/-! ## 5. Runs -/

/-- A packet of the netif itself is no conflict. -/
theorem own_probeConflict (hw : EthAddr) (ip : Ip4) (h : hdr.shwaddr = hw) :
    probeConflict hw ip hdr = false := by
  simp [probeConflict, h]

theorem own_useConflict (hw : EthAddr) (ip : Ip4) (h : hdr.shwaddr = hw) :
    useConflict hw ip hdr = false := by
  simp [useConflict, h]

/-- **A packet of the netif itself** does nothing, to a client of any user. -/
theorem acdArpReply_own {σ : Type} (t : Timing) (h : Host σ) (s : σ)
    (hown : hdr.shwaddr = h.hwaddr s) : acdArpReply t h hdr s = s := by
  unfold acdArpReply
  dsimp only
  rw [own_probeConflict _ _ hown, own_useConflict _ _ hown]
  split <;> rfl

/-- **Acceptance.**  In every run from an `acd_start`, whatever the waits, whatever frames there is
no memory for and whatever the user does from its callback, the user was told `ACD_IP_OK` only when
the frames of the last start were complete; and a packet with the netif's own hardware address does
nothing. -/
theorem ipOk_accepted {a : Client} {hw : EthAddr} {ip : Ip4} {wipe : Bool}
    (h : Reach (lifeStep t) (Life.start t rand ip wipe ⟨a, hw, []⟩) s) :
    Accepted t s.log ∧
      ∀ hdr sent user, hdr.shwaddr = s.hwaddr → lifeStep t s (.arp hdr sent user) = some s := by
  have hphased : Phased t s := by
    refine h.invariant (fun _ _ _ hu _ hs => hu.step hs) ?_
    exact .start (s := ⟨a, hw, []⟩) trivial rand ip wipe
  refine ⟨hphased.accepted, ?_⟩
  intro hdr sent user hown
  exact congrArg some (acdArpReply_own t (Life.host t sent user) s hown)

/-! ## 6. A conflict while the client announces -/

/-- The address, the netif, and another station that announces the address. -/
def lifeIp : Ip4 := 0x0A000001

def lifeMac : EthAddr := #v[0x02, 0, 0, 0, 0, 3]

def lifeRival : ArpHdr := announceFrame #v[0x02, 0, 0, 0, 0, 4] lifeIp

/-- After an `acd_start`. -/
def lifeStarted : Life := Life.start .shipped 1 lifeIp true ⟨.zero, lifeMac, []⟩

def lifeTicks (n : Nat) : List LifeEvent := List.replicate n (.tick 1 true fun _ => .keep)

/-- The client has announced once when the other station does, and goes on to `ACD_IP_OK`. -/
def lifeDefended : List LifeEvent :=
  lifeTicks 25 ++ [.arp lifeRival true fun _ => .keep] ++ lifeTicks 60

theorem ipOk_accepted_defended :
    ∃ s, exec (lifeStep .shipped) lifeStarted lifeDefended = some s ∧
      s.log.head? = some (.told .ipOk) ∧ Accepted .shipped s.log := by
  have hread : (exec (lifeStep .shipped) lifeStarted lifeDefended).map (fun s => s.log.head?) =
      some (some (.told .ipOk)) := by
    decide +kernel
  obtain ⟨s, hs, hhead⟩ := Option.map_eq_some_iff.1 hread
  exact ⟨s, hs, hhead, (ipOk_accepted (exec_reach hs)).1⟩

/-- **Five announcements** before `ACD_IP_OK`, where ANNOUNCE_NUM is four: one was the defence. -/
theorem announced_in_defence :
    ¬ ∀ s, Reach (lifeStep .shipped) lifeStarted s →
      ∀ older, s.log = .told .ipOk :: older →
        (sinceStart older).count .probed = Timing.shipped.probeNum ∧
          (sinceStart older).count .announced = Timing.shipped.announceNum := by
  intro hall
  have hread : (exec (lifeStep .shipped) lifeStarted lifeDefended).map (fun s =>
      (s.log.head?, (sinceStart s.log.tail).count .announced)) = some (some (.told .ipOk), 5) := by
    decide +kernel
  obtain ⟨s, hs, heq⟩ := Option.map_eq_some_iff.1 hread
  obtain ⟨hhead, hfive⟩ := Prod.mk.inj heq
  obtain ⟨older, hlog⟩ := List.head?_eq_some_iff.1 hhead
  have hfour := (hall s (exec_reach hs) older hlog).2
  rw [hlog, List.tail_cons, hfour] at hfive
  cases hfive

end GroundTruth.Acd
