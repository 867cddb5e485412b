/-
# What a conflict does

`restart_spec` says what `acd_restart` leaves behind, the retry of `main.c` included.  Its key
clause is `count`: `acd_restart` calls the user back once when it limits the client and twice when
it does not, and each of these calls takes one of the attempts that are left.
-/
import GroundTruth.Acd.Safety

namespace GroundTruth.Acd

/-! ## 1. Attempts that are left -/

/-- An attempt is left when `n` of them have been made. -/
def Build.Retries (b : Build) (n : Nat) : Prop := b.maxAttempts = 0 ∨ n < b.maxAttempts

instance (b : Build) (n : Nat) : Decidable (b.Retries n) := inferInstanceAs (Decidable (_ ∨ _))

/-- `s_acd_retry_count` after a call of the user that reports a conflict. -/
def Build.spend (b : Build) (n : Nat) : Nat := if b.Retries n then n + 1 else n

theorem Build.spend_le {b : Build} (n : Nat) : n ≤ b.spend n := by
  unfold Build.spend
  split <;> omega

theorem Build.spend_of_not {b : Build} {n : Nat} (h : ¬b.Retries n) : b.spend n = n := if_neg h

/-- The conflicts since the last `ACD_IP_OK`. -/
def recentConflicts : List Obs → Nat
  | [] => 0
  | .entered .ipOk :: _ => 0
  | .entered .decline :: older => recentConflicts older + 1
  | _ :: older => recentConflicts older

/-- The probe sequences started so far. -/
def starts : List Obs → Nat
  | [] => 0
  | .started _ :: older => starts older + 1
  | _ :: older => starts older

/-! ## 2. The two calls of the user -/

namespace Device

variable {s s' : Device} {b : Build} {timerOk : Bool}

/-- What a call of the user that reports a conflict does to the retry. -/
structure Denied (b : Build) (timerOk : Bool) (s s' : Device) : Prop where
  retryCount : s'.retryCount = b.spend s.retryCount
  registered : s'.registered = if b.Retries s.retryCount then false else s.registered
  retryNetif : s'.retryNetif = if b.Retries s.retryCount then true else s.retryNetif
  retryTimer : s'.retryTimer = if b.Retries s.retryCount ∧ (s.retryTimer = .absent → timerOk)
    then .armed else s.retryTimer
  acdActivity : s'.acdActivity = 3
  postedRetry : s'.postedRetry = s.postedRetry
  waiting : s'.waiting = s.waiting

theorem callback_denied (b : Build) (timerOk : Bool) (s : Device) {c : AcdCallback}
    (hc : c ≠ .ipOk) : Denied b timerOk s (s.tcpipAcdConflictCallback b timerOk c) := by
  rw [callback_eq_conflict b timerOk s hc]
  unfold callbackConflict
  dsimp only
  by_cases hr : b.Retries s.retryCount
  · have hr' : b.maxAttempts = 0 ∨ s.retryCount < b.maxAttempts := hr
    rw [if_pos hr']
    unfold tcpipAcdStartRetry
    by_cases hreg : s.registered <;>
      by_cases ht : s.retryTimer = .absent <;>
      cases timerOk <;>
      constructor <;> simp [hreg, ht, setIpInfo, giveAcdSem, Build.spend, hr]
  · have hr' : ¬(b.maxAttempts = 0 ∨ s.retryCount < b.maxAttempts) := hr
    rw [if_neg hr']
    constructor <;> simp [giveAcdSem, Build.spend, hr]

/-- The log counts the first of the two calls, and not the second. -/
theorem Conflicted.recent_decline (h : Conflicted .decline s s') :
    recentConflicts s'.log = recentConflicts s.log + 1 := by
  rcases h.log with hl | ⟨hl, -⟩ <;> rw [hl] <;> rfl

theorem Conflicted.recent_restartClient (h : Conflicted .restartClient s s') :
    recentConflicts s'.log = recentConflicts s.log := by
  rcases h.log with hl | ⟨hl, -⟩ <;> rw [hl] <;> rfl

/-- What `acd_restart` does, with the client in the phase `st` and the count of attempts `n`
afterwards. -/
structure Restarted (b : Build) (timerOk : Bool) (st : AcdState) (n : Nat) (s s' : Device) :
    Prop where
  state : s'.acd.state = st
  count : s'.retryCount = n
  numConflicts : s'.acd.numConflicts = (s.acd.numConflicts + 1) % 256
  registered : s'.registered = if b.Retries s.retryCount then false else s.registered
  retryNetif : s'.retryNetif = if b.Retries s.retryCount then true else s.retryNetif
  retryTimer : s'.retryTimer = if b.Retries s.retryCount ∧ (s.retryTimer = .absent → timerOk)
    then .armed else s.retryTimer
  acdActivity : s'.acdActivity = 3
  lastState : s'.lastState ≠ .ipOk
  postedRetry : s'.postedRetry = s.postedRetry
  waiting : s'.waiting = s.waiting
  recent : recentConflicts s'.log = recentConflicts s.log + 1
  starts : starts s'.log = starts s.log

/-- A second call in a row changes the count, and nothing else that the retry is made of. -/
theorem Denied.twice {s₁ s₂ s₃ : Device} (h : Denied b timerOk s s₁) (h' : Denied b timerOk s₂ s₃)
    (hc : s₂.retryCount = s₁.retryCount) (hr : s₂.registered = s₁.registered)
    (hn : s₂.retryNetif = s₁.retryNetif) (ht : s₂.retryTimer = s₁.retryTimer) :
    s₃.retryCount = b.spend (b.spend s.retryCount) ∧ s₃.registered = s₁.registered ∧
      s₃.retryNetif = s₁.retryNetif ∧ s₃.retryTimer = s₁.retryTimer := by
  refine ⟨?_, ?_, ?_, ?_⟩
  · rw [h'.retryCount, hc, h.retryCount]
  · rw [h'.registered, hc, hr, h.retryCount, h.registered]
    by_cases h0 : b.Retries s.retryCount
    · simp [h0]
    · simp [h0, Build.spend_of_not h0]
  · rw [h'.retryNetif, hc, hn, h.retryCount, h.retryNetif]
    by_cases h0 : b.Retries s.retryCount
    · simp [h0]
    · simp [h0, Build.spend_of_not h0]
  · rw [h'.retryTimer, hc, ht, h.retryCount, h.retryTimer]
    by_cases h0 : b.Retries s.retryCount
    · by_cases habs : s.retryTimer = .absent
      · cases timerOk <;> simp [h0, habs]
      · simp [h0, habs]
    · simp [h0, Build.spend_of_not h0]

theorem Conflicted.starts {c : AcdCallback} (h : Conflicted c s s') :
    starts s'.log = starts s.log := by
  rcases h.log with hl | ⟨hl, -⟩
  · rw [hl]
    rfl
  · rw [hl]
    rfl

theorem Conflicted.numConflicts {c : AcdCallback} (h : Conflicted c s s') :
    s'.acd.numConflicts = s.acd.numConflicts := by
  rcases h.acd with ha | ha
  · rw [ha]
  · rw [ha]
    rfl

/-- **A conflict.**  Too many of them since the client was wiped limit it, and its user is told
once; otherwise it is stopped and its user is told twice. -/
theorem restart_spec (b : Build) (timerOk : Bool) (s : Device) :
    (b.timing.maxConflicts ≤ (s.acd.numConflicts + 1) % 256 →
        Restarted b timerOk .rateLimit (b.spend s.retryCount) s
          (acdRestart b.timing (host b timerOk) s)) ∧
      ((s.acd.numConflicts + 1) % 256 < b.timing.maxConflicts →
        Restarted b timerOk .off (b.spend (b.spend s.retryCount)) s
          (acdRestart b.timing (host b timerOk) s)) := by
  have hne : AcdCallback.decline ≠ .ipOk := by decide
  have hne' : AcdCallback.restartClient ≠ .ipOk := by decide
  -- the first call, on the client with its conflict counted
  have hconf := callback_conflict b timerOk
    { s with acd := { s.acd with numConflicts := (s.acd.numConflicts + 1) % 256 } } hne
  have hdeny := callback_denied b timerOk
    { s with acd := { s.acd with numConflicts := (s.acd.numConflicts + 1) % 256 } } hne
  have hdecl : acdDeclined (host b timerOk) s = tcpipAcdConflictCallback b timerOk .decline
    { s with acd := { s.acd with numConflicts := (s.acd.numConflicts + 1) % 256 } } := rfl
  rw [acdRestart, hdecl]
  generalize tcpipAcdConflictCallback b timerOk .decline
    { s with acd := { s.acd with numConflicts := (s.acd.numConflicts + 1) % 256 } } = s₁
    at hconf hdeny
  have hnum : ((host b timerOk).acd s₁).numConflicts = (s.acd.numConflicts + 1) % 256 :=
    hconf.numConflicts
  rw [hnum]
  constructor
  · intro hlim
    rw [if_pos hlim]
    exact {
      state := rfl
      count := hdeny.retryCount
      numConflicts := hnum
      registered := hdeny.registered
      retryNetif := hdeny.retryNetif
      retryTimer := hdeny.retryTimer
      acdActivity := hdeny.acdActivity
      lastState := hconf.lastState ▸ hne
      postedRetry := hdeny.postedRetry
      waiting := hdeny.waiting
      recent := hconf.recent_decline
      starts := hconf.starts }
  · intro hfew
    rw [if_neg (Nat.not_le.2 hfew)]
    -- the second call, on the client that has been stopped
    have hconf' := callback_conflict b timerOk { s₁ with acd := acdStop s₁.acd } hne'
    have hdeny' := callback_denied b timerOk { s₁ with acd := acdStop s₁.acd } hne'
    have hstop : acdStopped (host b timerOk) s₁ = tcpipAcdConflictCallback b timerOk
      .restartClient { s₁ with acd := acdStop s₁.acd } := rfl
    rw [hstop]
    generalize tcpipAcdConflictCallback b timerOk .restartClient
      { s₁ with acd := acdStop s₁.acd } = s₃ at hconf' hdeny'
    obtain ⟨hcount, hreg, hnet, htimer⟩ := hdeny.twice hdeny' rfl rfl rfl rfl
    exact {
      state := by rcases hconf'.acd with ha | ha <;> rw [ha] <;> rfl
      count := hcount
      numConflicts := hconf'.numConflicts.trans hnum
      registered := hreg.trans hdeny.registered
      retryNetif := hnet.trans hdeny.retryNetif
      retryTimer := htimer.trans hdeny.retryTimer
      acdActivity := hdeny'.acdActivity
      lastState := hconf'.lastState ▸ hne'
      postedRetry := hdeny'.postedRetry.trans hdeny.postedRetry
      waiting := hdeny'.waiting.trans hdeny.waiting
      recent := hconf'.recent_restartClient.trans hconf.recent_decline
      starts := hconf'.starts.trans hconf.starts }

end Device

/-- Another station, and its announcement of the address of `benchCfg`. -/
def benchRivalMac : EthAddr := #v[0x02, 0, 0, 0, 0, 2]

def benchRival : ArpHdr := announceFrame benchRivalMac benchCfg.ip

end GroundTruth.Acd
