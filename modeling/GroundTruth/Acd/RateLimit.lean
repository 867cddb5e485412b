/-
# The rate limit of RFC 5227

After MAX_CONFLICTS conflicts a host is to wait RATE_LIMIT_INTERVAL before it probes again.
lwIP's client counts its conflicts and has a phase for the wait, but `tcpip_acd_start_retry`
unregisters the client, and the next attempt wipes it: the count is one at every conflict, and
what separates two probe sequences is the delay of the retry timer and nothing else.

Time is added to the device here.  An event comes with the milliseconds that have passed since
the one before it, any number of them, and the retry timer does not expire before its delay has.

* `Clocked.step`: how old the last conflict is while a retry is on its way.
* `rate_limit`: the interval is kept when the delay is no shorter, or when so few attempts are
  allowed that MAX_CONFLICTS conflicts are never followed by another one.
* `limit_outrun`: twenty attempts a second apart go on after nine conflicts as before.
-/
import GroundTruth.Acd.Budget

namespace GroundTruth.Acd

open GroundTruth.Lib

/-! ## 1. Time -/

/-- A moment, and two moments before it, in milliseconds. -/
structure Clock where
  now : Nat
  /-- the last conflict -/
  conflict : Nat
  /-- the last `xTimerStart` of the retry timer -/
  armed : Nat
  deriving DecidableEq, Repr

/-- An event after so many milliseconds. -/
def timedStep (b : Build) (s : Device) (te : Nat × DeviceEvent) : Option Device :=
  deviceStep b s te.2

/-- `tcpip_acd_start_retry` starts the timer and is the only one to add to the count;
`delay` is `CONFIG_OPENER_ACD_RETRY_DELAY_MS`. -/
def noteTime (delay : Nat) (s : Device) (te : Nat × DeviceEvent) (s' : Device) (k : Clock) :
    Option Clock :=
  if te.2.expires = true ∧ k.now + te.1 < k.armed + delay then none
  else some {
    now := k.now + te.1
    conflict := if recentConflicts s.log < recentConflicts s'.log then k.now + te.1
      else k.conflict
    armed := if s.retryCount < s'.retryCount then k.now + te.1 else k.armed }

/-- RATE_LIMIT_INTERVAL. -/
def Timing.rateLimitMs (t : Timing) : Nat := t.rateLimitInterval * 1000

/-- A probe sequence that is started after MAX_CONFLICTS conflicts comes no sooner than
RATE_LIMIT_INTERVAL after the last of them. -/
def RateLimitKept (b : Build) (x y : Device × Clock) : Prop :=
  starts x.1.log < starts y.1.log →
    0 < recentConflicts x.1.log → b.timing.maxConflicts ≤ recentConflicts x.1.log →
      x.2.conflict + b.timing.rateLimitMs ≤ y.2.now

instance (b : Build) (x y : Device × Clock) : Decidable (RateLimitKept b x y) :=
  inferInstanceAs (Decidable (_ → _))

/-- The retry timer is slow enough, or gives up early enough. -/
def Build.Patient (b : Build) (delay : Nat) : Prop :=
  b.timing.rateLimitMs ≤ delay ∨
    0 < b.maxAttempts ∧ (b.maxAttempts + 1) / 2 < b.timing.maxConflicts

instance (b : Build) (delay : Nat) : Decidable (b.Patient delay) :=
  inferInstanceAs (Decidable (_ ∨ _))

/-! ## 2. The clock and the cycle -/

/-- How long ago the last conflict was, while a retry is on its way. -/
structure Cycle.Clocked (delay : Nat) (c : Cycle) (k : Clock) : Prop where
  past : k.conflict ≤ k.now
  delayed : c.phase = .delayed → k.conflict ≤ k.armed
  posted : c.phase = .posted → k.conflict + delay ≤ k.now

variable {b : Build} {s s' : Device} {te : Nat × DeviceEvent} {c c' : Cycle} {k k' : Clock}
  {delay : Nat}

theorem Build.lt_consume {n : Nat} (h : b.Retries n) : n < b.consume n := by
  have hlt : n < b.spend n := by
    rw [Build.spend, if_pos h]
    exact Nat.lt_succ_self n
  unfold Build.consume
  split
  · exact hlt
  · exact Nat.lt_of_lt_of_le hlt (Build.spend_le _)

/-- **One event.** -/
theorem Cycle.Clocked.step (h : c.Clocked delay k) (hin : s.InCycle c) (hin' : s'.InCycle c')
    (hmv : CycleMove b s te.2 s' c c') (hk : noteTime delay s te s' k = some k') :
    c'.Clocked delay k' := by
  rw [noteTime, hin.conflicts, hin'.conflicts, hin.count, hin'.count] at hk
  split at hk
  · cases hk
  rename_i hdue
  obtain rfl := Option.some.inj hk
  have hpast : (if c.conflicts < c'.conflicts then k.now + te.1 else k.conflict) ≤ k.now + te.1 := by
    have := h.past
    split <;> omega
  cases hmv with
  | stay _ =>
    simp only [Nat.lt_irrefl, if_false] at hpast ⊢
    refine ⟨hpast, h.delayed, fun hp => ?_⟩
    have := h.posted hp
    dsimp only
    omega
  | conflict hphase hph _ =>
    refine ⟨hpast, fun hp => ?_, fun hp => ?_⟩
    · rcases hph with ⟨-, hr⟩ | ⟨rfl, -⟩
      · simp [Build.lt_consume hr]
      · cases hp
    · rcases hph with ⟨rfl, -⟩ | ⟨rfl, -⟩ <;> cases hp
  | lift hphase _ _ hph _ =>
    simp only [Nat.lt_irrefl, if_false] at hpast ⊢
    refine ⟨hpast, fun hp => ?_, fun hp => ?_⟩
    · dsimp only
      split
      · exact hpast
      · -- the timer goes on as it was: the call has added no attempt
        rename_i hcount
        rcases hph with rfl | ⟨-, hr⟩
        · exact h.delayed hp
        · rw [Build.spend, if_pos hr] at hcount
          exact absurd (Nat.lt_succ_self _) hcount
    · rcases hph with rfl | ⟨rfl, -⟩
      · rcases hphase with h' | h' <;> simp [h'] at hp
      · cases hp
  | expire hphase he _ =>
    simp only [Nat.lt_irrefl, if_false] at hpast ⊢
    refine ⟨hpast, fun hp => (by cases hp), fun _ => ?_⟩
    have hlate : ¬k.now + te.1 < k.armed + delay := fun hlt => hdue ⟨he, hlt⟩
    have := h.delayed hphase
    dsimp only
    omega
  | start hphase _ _ => exact ⟨hpast, fun hp => (by cases hp), fun hp => (by cases hp)⟩
  | drop _ _ _ => exact ⟨hpast, fun hp => (by cases hp), fun hp => (by cases hp)⟩
  | ok _ _ _ _ => exact ⟨hpast, fun hp => (by cases hp), fun hp => (by cases hp)⟩

/-- **The probe sequence of a retry** comes late enough, or too few conflicts lie behind it. -/
theorem Cycle.Clocked.kept (h : c.Clocked delay k) (hok : c.Ok b) (hpat : b.Patient delay)
    (hin : s.InCycle c) (hmv : CycleMove b s te.2 s' c c')
    (hk : noteTime delay s te s' k = some k') : RateLimitKept b (s, k) (s', k') := by
  intro hstart hpos hmax
  rw [hin.conflicts] at hpos hmax
  have hfresh (hp : c.phase = .fresh) : False := by
    have := (hok.fresh hp).1
    omega
  have hnone (heq : starts s'.log = starts s.log) : False := by
    rw [heq] at hstart
    exact Nat.lt_irrefl _ hstart
  cases hmv with
  | stay hs =>
    rcases hs with hs | ⟨hp, -⟩
    · exact (hnone hs).elim
    · exact (hfresh hp).elim
  | conflict _ _ hs => exact (hnone hs).elim
  | lift _ _ _ _ hs => exact (hnone hs).elim
  | expire _ _ hs => exact (hnone hs).elim
  | drop _ _ hs => exact (hnone hs).elim
  | ok _ _ _ hs => exact (hnone hs).elim
  | start hphase _ _ =>
    rcases hpat with hslow | ⟨hm, hfew⟩
    · -- at least the delay lies between the conflict and the retry
      rw [noteTime] at hk
      split at hk
      · cases hk
      rename_i hdue
      obtain rfl := Option.some.inj hk
      rcases hphase with ⟨hp, he⟩ | hp
      · have hlate : ¬k.now + te.1 < k.armed + delay := fun hlt => hdue ⟨he, hlt⟩
        have := h.delayed hp
        dsimp only
        omega
      · have := h.posted hp
        dsimp only
        omega
    · -- the conflicts before the last have left an attempt
      have hleft := hok.left (hphase.imp And.left .inl)
      have hlim : ¬b.timing.maxConflicts ≤ 1 := by omega
      rw [Build.cost, if_neg hlim] at hleft
      omega

/-! ## 3. Every run -/

variable {others : List Nat} {x y : Device × Clock}

/-- **The rate limit.**  In every run in which after a conflict only the retry starts probe
sequences, a retry timer that is slow enough or gives up early enough keeps RATE_LIMIT_INTERVAL
after MAX_CONFLICTS conflicts. -/
theorem rate_limit (hpat : b.Patient delay)
    (h : Run (watch (timedStep b) (noteTime delay)) (fun x te => x.1.Steady te.2)
      (Device.init others, ⟨0, 0, 0⟩) x)
    (hg : x.1.Steady te.2) (hs : watch (timedStep b) (noteTime delay) x te = some y) :
    RateLimitKept b x y := by
  have hinv : x.1.Inv ∧ ∃ c : Cycle, x.1.InCycle c ∧ c.Ok b ∧ c.Clocked delay x.2 := by
    refine h.invariant (P := fun x : Device × Clock => x.1.Inv ∧
      ∃ c : Cycle, x.1.InCycle c ∧ c.Ok b ∧ c.Clocked delay x.2) ?_ ?_
    · intro u e v hu hg hs
      obtain ⟨hi, c, hin, hok, hclock⟩ := hu
      obtain ⟨hstep, hnote⟩ := watch_some.1 hs
      obtain ⟨c', hin', hmv⟩ := hin.step hi hok.after hg hstep
      exact ⟨(hi.step hstep).1, c', hin', hmv.ok_keeps hok, hclock.step hin hin' hmv hnote⟩
    · exact ⟨.init others, ⟨.fresh, 0, 0⟩, .init others, .init b,
        Nat.le_refl _, fun hp => (by cases hp), fun hp => (by cases hp)⟩
  obtain ⟨hi, c, hin, hok, hclock⟩ := hinv
  obtain ⟨hstep, hnote⟩ := watch_some.1 hs
  obtain ⟨c', -, hmv⟩ := hin.step hi hok.after hg hstep
  exact hclock.kept hok hpat hin hmv hnote

/-- Nine conflicts, each followed by a retry as soon as the timer allows it; the last retry has
been posted. -/
def benchPaced (delay : Nat) : List (Nat × DeviceEvent) :=
  let conflict := benchConflict.map fun e => (100, e)
  let expiry : List (Nat × DeviceEvent) := [(delay, .timer .good)]
  [(0, .boot benchCfg .good), (0, .netifUp), (0, .connected benchMac .good)] ++ conflict ++
    [(0, .deferred .good)] ++
    (List.replicate 8 (expiry ++ [(0, .retry .good)] ++ conflict)).flatten ++ expiry

/-- With no limit on the attempts and a delay of twenty seconds the tenth probe sequence waits for
its turn. -/
theorem rate_limit_slow :
    ∃ x y, Run (watch (timedStep ⟨.shipped, 0⟩) (noteTime 20000)) (fun x te => x.1.Steady te.2)
        (Device.init [], ⟨0, 0, 0⟩) x ∧
      recentConflicts x.1.log = 9 ∧
      watch (timedStep ⟨.shipped, 0⟩) (noteTime 20000) x (0, .retry .good) = some y ∧
      starts x.1.log < starts y.1.log ∧ RateLimitKept ⟨.shipped, 0⟩ x y := by
  have h : (exec (watch (timedStep ⟨.shipped, 0⟩) (noteTime 20000)) (Device.init [], ⟨0, 0, 0⟩)
      (benchPaced 20000)).bind (fun x =>
        (watch (timedStep ⟨.shipped, 0⟩) (noteTime 20000) x (0, .retry .good)).map fun y =>
          (recentConflicts x.1.log, starts x.1.log, starts y.1.log)) = some (9, 9, 10) := by
    decide +kernel
  have hm : execMeets (watch (timedStep ⟨.shipped, 0⟩) (noteTime 20000))
      (fun x te => x.1.Steady te.2) (Device.init [], ⟨0, 0, 0⟩) (benchPaced 20000) := by
    decide +kernel
  obtain ⟨x, hx, hlast⟩ := Option.bind_eq_some_iff.1 h
  obtain ⟨y, hy, hobs⟩ := Option.map_eq_some_iff.1 hlast
  simp only [Prod.mk.injEq] at hobs
  have hrun := exec_run hm hx
  exact ⟨x, y, hrun, hobs.1, hy, by omega, rate_limit (by decide) hrun (by exact trivial) hy⟩

/-- With twenty attempts a second apart it does not: the last conflict is a second old. -/
theorem limit_outrun :
    ∃ x y, Run (watch (timedStep ⟨.shipped, 20⟩) (noteTime 1000)) (fun x te => x.1.Steady te.2)
        (Device.init [], ⟨0, 0, 0⟩) x ∧
      watch (timedStep ⟨.shipped, 20⟩) (noteTime 1000) x (0, .retry .good) = some y ∧
      ¬RateLimitKept ⟨.shipped, 20⟩ x y := by
  have h : (exec (watch (timedStep ⟨.shipped, 20⟩) (noteTime 1000)) (Device.init [], ⟨0, 0, 0⟩)
      (benchPaced 1000)).bind (fun x =>
        (watch (timedStep ⟨.shipped, 20⟩) (noteTime 1000) x (0, .retry .good)).map fun y =>
          decide (RateLimitKept ⟨.shipped, 20⟩ x y)) = some false := by decide +kernel
  have hm : execMeets (watch (timedStep ⟨.shipped, 20⟩) (noteTime 1000))
      (fun x te => x.1.Steady te.2) (Device.init [], ⟨0, 0, 0⟩) (benchPaced 1000) := by
    decide +kernel
  obtain ⟨x, hx, hlast⟩ := Option.bind_eq_some_iff.1 h
  obtain ⟨y, hy, hobs⟩ := Option.map_eq_some_iff.1 hlast
  exact ⟨x, y, exec_run hm hx, hy, of_decide_eq_false hobs⟩

end GroundTruth.Acd
