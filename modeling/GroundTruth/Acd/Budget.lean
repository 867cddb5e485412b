/-
# The retry budget

`CONFIG_OPENER_ACD_RETRY_MAX_ATTEMPTS` is how often the probe sequence is to be tried again after
a conflict.  `tcpip_acd_start_retry` counts one attempt whenever the conflict callback lets it,
and `acd_restart` calls that callback twice for one conflict, with `ACD_DECLINE` and, once it has
stopped the client, with `ACD_RESTART_CLIENT`.  So a conflict takes two attempts as long as two
are left, and of M attempts the timer makes (M + 1) / 2.

* `Tallied.step`: what each event of an undisturbed run does to the count of attempts and to the
  number of probe sequences that the retry timer has started.
* `retry_starts`: how many those are once nothing is left to come.
* `retry_budget`: every conflict takes one attempt, and all attempts are made, just when there
  is one attempt only or the client is limited by its first conflict, which leaves out the
  second call.
* `budget_halved`: the shipped build makes three of its five attempts.
-/
import GroundTruth.Acd.Retry

namespace GroundTruth.Acd

open GroundTruth.Lib

/-! ## 1. The property -/

/-- The probe sequences started by the retry timer are counted beside the run. -/
def noteRetries (s : Device) (e : DeviceEvent) (s' : Device) (n : Nat) : Option Nat :=
  some (if e.retries then n + (starts s'.log - starts s.log) else n)

namespace Device

/-- No retry is on its way, and the client does nothing. -/
def Exhausted (s : Device) : Prop :=
  s.retryTimer ≠ .armed ∧ s.postedRetry = 0 ∧ s.Idle

instance (s : Device) : Decidable s.Exhausted := inferInstanceAs (Decidable (_ ∧ _))

/-- A retry that is due finds the netif ready and its resources. -/
def Equipped (s : Device) (o : Outcome) : Prop :=
  s.netifHasValidHwaddr = true ∧ s.linkUp = true ∧ o.Enough s

instance (s : Device) (o : Outcome) : Decidable (s.Equipped o) :=
  inferInstanceAs (Decidable (_ ∧ _))

/-- Every probe sequence ends in a conflict: none succeeds, and after the first conflict none is
stopped and none is started but by the retry timer, which can do so. -/
def Undisturbed (b : Build) (s : Device) : DeviceEvent → Prop
  | .connected mac _ =>
    0 < recentConflicts s.log → ¬({ s with hwaddr := mac.toList } : Device).Ready
  | .deferred _ => 0 < recentConflicts s.log → ¬s.Ready
  | .tick _ _ =>
    ¬s.Announces b ∧ (s.Unlimited → s.retryTimer ≠ .armed ∧ s.postedRetry = 0)
  | .arp _ timerOk => timerOk = true
  | .timer o => o.post = true ∨ s.Equipped o
  | .retry o => s.Equipped o
  | .netifDown => 0 < recentConflicts s.log → s.linkUp = true → s.Idle
  | .stop => 0 < recentConflicts s.log → s.Idle
  | .boot _ _ | .disconnected _ | .netifUp | .resume _ _ => True

instance (b : Build) (s : Device) : ∀ e : DeviceEvent, Decidable (s.Undisturbed b e)
  | .connected _ _ | .deferred _ | .netifDown | .stop => inferInstanceAs (Decidable (_ → _))
  | .tick _ _ => inferInstanceAs (Decidable (_ ∧ _))
  | .arp _ _ => inferInstanceAs (Decidable (_ = _))
  | .timer _ => inferInstanceAs (Decidable (_ ∨ _))
  | .retry _ => inferInstanceAs (Decidable (_ ∧ _))
  | .boot _ _ | .disconnected _ | .netifUp | .resume _ _ => inferInstanceAs (Decidable True)

end Device

/-- Every conflict has taken one attempt, as long as there were any, and once nothing is left to
come every attempt has been made. -/
def BudgetKept (b : Build) (x : Device × Nat) : Prop :=
  x.1.retryCount = min b.maxAttempts (recentConflicts x.1.log) ∧
    (0 < recentConflicts x.1.log → x.1.Exhausted → x.2 = b.maxAttempts)

/-! ## 2. The tally -/

/-- The attempts counted and the retries started, over the conflicts. -/
structure Cycle.Tallied (b : Build) (c : Cycle) (n : Nat) : Prop where
  count : c.count = min b.maxAttempts (b.cost * c.conflicts)
  fresh : c.phase = .fresh → n = 0
  waiting : c.phase = .delayed ∨ c.phase = .posted → n + 1 = c.conflicts
  probing : c.phase = .probing → n = c.conflicts
  ended : c.phase = .ended → n + 1 = c.conflicts ∧ b.maxAttempts ≤ b.cost * n ∧
    b.cost * (n - 1) < b.maxAttempts

theorem Build.spend_min_eq {b : Build} {m : Nat} (hm : b.maxAttempts ≠ 0) :
    b.spend (min b.maxAttempts m) = min b.maxAttempts (m + 1) := by
  unfold Build.spend
  by_cases h : b.Retries (min b.maxAttempts m)
  · have hlt := h.resolve_left hm
    rw [if_pos h]
    omega
  · have hge : b.maxAttempts ≤ min b.maxAttempts m := by
      by_contra hlt
      exact h (.inr (Nat.lt_of_not_le hlt))
    rw [if_neg h]
    omega

/-- A conflict takes exactly `cost` attempts, if so many are left. -/
theorem Build.consume_min_eq {b : Build} {m : Nat} (hm : b.maxAttempts ≠ 0) :
    b.consume (min b.maxAttempts m) = min b.maxAttempts (m + b.cost) := by
  unfold Build.consume Build.cost
  split
  · exact spend_min_eq hm
  · rw [spend_min_eq hm, spend_min_eq hm]

variable {b : Build} {s s' : Device} {e : DeviceEvent} {c c' : Cycle} {n : Nat}

/-- In an undisturbed run no probe sequence is lost. -/
theorem Device.Fails.disturbed (h : s.Fails e) (hin : s.InCycle c) (hc : 0 < c.conflicts)
    (hne : c.phase ≠ .fresh) : ¬s.Undisturbed b e := by
  intro hg
  have hafter : 0 < recentConflicts s.log := by
    rw [hin.conflicts]
    exact hc
  cases h with
  | stopped hstop hwork =>
    cases e with
    | stop => exact hwork (hg hafter)
    | netifDown => exact hwork (hg hafter hstop)
    | _ => cases hstop
  | attempt he hu hno =>
    cases hu with
    | boot _ _ => cases he
    | connected => cases he
    | deferred _ => cases he
    | timer harmed hnet hpost =>
      have heq : s.Equipped _ := hg.resolve_left (by simp [hpost])
      exact hno ⟨⟨rfl, heq.1, heq.2.1⟩, heq.2.2⟩
    | retry hposted hnet =>
      have heq : s.Equipped _ := hg
      -- only a posted retry is run, and its expiry has made the address pending
      have hpend : s.probePending = true := by
        have hfits := hin.fits
        obtain ⟨ph, m, k⟩ := c
        cases ph with
        | posted => exact hfits.2.2.2.2.2.1
        | fresh => exact absurd rfl hne
        | delayed => exact absurd hfits.2.1 (Nat.pos_iff_ne_zero.1 hposted)
        | probing => exact absurd hfits.2.1 (Nat.pos_iff_ne_zero.1 hposted)
        | ended => exact absurd hfits.2.1 (Nat.pos_iff_ne_zero.1 hposted)
      exact hno ⟨⟨hpend, heq.1, heq.2.1⟩, heq.2.2⟩

/-- **One event of an undisturbed run.** -/
theorem Cycle.Tallied.step (h : c.Tallied b n) (hok : c.Ok b) (hin : s.InCycle c)
    (hm : b.maxAttempts ≠ 0) (hg : s.Undisturbed b e) (hmv : CycleMove b s e s' c c') :
    c'.Tallied b (if e.retries then n + (starts s'.log - starts s.log) else n) := by
  have hsame (hs : starts s'.log = starts s.log) :
      (if e.retries then n + (starts s'.log - starts s.log) else n) = n := by
    rw [hs]
    split <;> omega
  cases hmv with
  | stay hstart =>
    rcases hstart with hs | ⟨-, he⟩
    · rw [hsame hs]
      exact h
    · rw [if_neg (by simp [he])]
      exact h
  | conflict hphase hph hs =>
    rw [hsame hs]
    have hcount : b.consume c.count = min b.maxAttempts (b.cost * (c.conflicts + 1)) := by
      rw [h.count, Build.consume_min_eq hm, Nat.mul_succ]
    have hn : n = c.conflicts := by
      rcases hphase with hp | hp
      · rw [h.fresh hp, (hok.fresh hp).1]
      · exact h.probing hp
    rcases hph with ⟨rfl, -⟩ | ⟨rfl, hfail⟩
    · exact ⟨hcount, fun hf => (by cases hf), fun _ => congrArg (· + 1) hn,
        fun hf => (by cases hf), fun hf => (by cases hf)⟩
    · -- the last conflict: no attempt is left, and the conflict before it had left one
      have hnone : ¬b.Retries c.count := by
        refine hfail.resolve_right fun htimer => ?_
        cases e with
        | arp hdr timerOk => exact absurd (hg.symm.trans htimer) (by decide)
        | _ => cases htimer
      have hge : b.maxAttempts ≤ c.count := by
        by_contra hlt
        exact hnone (.inr (Nat.lt_of_not_le hlt))
      have hspent : b.maxAttempts ≤ b.cost * n := by
        rw [h.count] at hge
        rw [hn]
        omega
      have hleft : b.cost * (n - 1) < b.maxAttempts := by
        rcases hphase with hp | hp
        · rw [h.fresh hp]
          exact Nat.pos_of_ne_zero hm
        · rw [hn]
          exact (hok.left (.inr (.inr hp))).resolve_left hm
      exact ⟨hcount, fun hf => (by cases hf),
        fun hf => (by rcases hf with hf | hf <;> cases hf), fun hf => (by cases hf),
        fun _ => ⟨congrArg (· + 1) hn, hspent, hleft⟩⟩
  | lift hphase he hlift hph hs =>
    rw [hsame hs]
    -- a rate limit that ends over a retry disturbs it, and one that ends later finds no attempt
    cases e with
    | tick rand timerOk =>
      rcases hphase with hp | hp
      · have hfits := hin.fits
        rw [hp] at hfits
        exact absurd hfits.1 (hg.2 hlift).1
      · obtain ⟨hn, hspent, hleft⟩ := h.ended hp
        have hle : b.cost * n ≤ b.cost * c.conflicts := Nat.mul_le_mul_left _ (by omega)
        have hcount : c.count = b.maxAttempts := by
          rw [h.count]
          omega
        have hnone : ¬b.Retries c.count := by
          rintro (h0 | hlt)
          · exact hm h0
          · omega
        rw [Build.spend_of_not hnone]
        have hph' := hph.resolve_right fun hr => hnone hr.2
        rw [hph']
        exact h
    | _ => cases he
  | expire hphase _ hs =>
    rw [hsame hs]
    exact ⟨h.count, fun hf => (by cases hf), fun _ => h.waiting (.inl hphase),
      fun hf => (by cases hf), fun hf => (by cases hf)⟩
  | start hphase he hs =>
    have hn : (if e.retries then n + (starts s'.log - starts s.log) else n) = n + 1 := by
      rw [if_pos he, hs]
      omega
    rw [hn]
    exact ⟨h.count, fun hf => (by cases hf), fun hf => (by rcases hf with hf | hf <;> cases hf),
      fun _ => h.waiting (hphase.imp_left And.left), fun hf => (by cases hf)⟩
  | drop hphase hfail hs =>
    exact absurd hg (hfail.disturbed hin (hok.after hphase) hphase)
  | ok hphase he hsucc hs =>
    cases e with
    | tick rand timerOk => exact absurd hsucc hg.1
    | _ => cases he

/-! ## 3. Every undisturbed run -/

theorem Device.Undisturbed.steady (h : s.Undisturbed b e) : s.Steady e := by
  cases e with
  | connected mac o => exact h
  | deferred o => exact h
  | tick rand timerOk => exact fun hlift => (h.2 hlift).2
  | _ => trivial

/-- An exhausted device has come to the end of its cycle, if there was a conflict. -/
theorem Device.InCycle.ended_of_exhausted (h : s.InCycle c) (hok : c.Ok b)
    (hpos : 0 < recentConflicts s.log) (hend : s.Exhausted) : c.phase = .ended := by
  rw [h.conflicts] at hpos
  have hfits := h.fits
  obtain ⟨ph, m, k⟩ := c
  cases ph with
  | fresh => exact absurd (hok.fresh rfl).1 (Nat.pos_iff_ne_zero.1 hpos)
  | delayed => exact absurd hfits.1 hend.1
  | posted => exact absurd (hfits.2.1.symm.trans hend.2.1) (by decide)
  | probing => exact absurd hend.2.2 hfits.2.2.1
  | ended => rfl

variable {others : List Nat} {x : Device × Nat}

/-- The tally of a run. -/
theorem tallied (hm : b.maxAttempts ≠ 0)
    (h : Run (watch (deviceStep b) noteRetries) (fun x e => x.1.Undisturbed b e)
      (Device.init others, 0) x) :
    ∃ c : Cycle, x.1.InCycle c ∧ c.Ok b ∧ c.Tallied b x.2 := by
  have hinv : x.1.Inv ∧ ∃ c : Cycle, x.1.InCycle c ∧ c.Ok b ∧ c.Tallied b x.2 := by
    refine h.invariant (P := fun x : Device × Nat => x.1.Inv ∧
      ∃ c : Cycle, x.1.InCycle c ∧ c.Ok b ∧ c.Tallied b x.2) ?_ ?_
    · intro u e v hu hg hs
      obtain ⟨hi, c, hin, hok, htally⟩ := hu
      obtain ⟨hstep, hnote⟩ := watch_some.1 hs
      obtain ⟨c', hin', hmv⟩ := hin.step hi hok.after hg.steady hstep
      refine ⟨(hi.step hstep).1, c', hin', hmv.ok_keeps hok, ?_⟩
      rw [noteRetries, Option.some.injEq] at hnote
      rw [← hnote]
      exact htally.step hok hin hm hg hmv
    · refine ⟨.init others, ⟨.fresh, 0, 0⟩, .init others, .init b, ?_⟩
      exact ⟨(Nat.min_zero _).symm, fun _ => rfl, fun hf => (by rcases hf with hf | hf <;> cases hf),
        fun hf => (by cases hf), fun hf => (by cases hf)⟩
  exact hinv.2

/-- The probe sequences that the retry timer starts: one for each attempt, or one for every two. -/
theorem retry_starts (hm : b.maxAttempts ≠ 0)
    (h : Run (watch (deviceStep b) noteRetries) (fun x e => x.1.Undisturbed b e)
      (Device.init others, 0) x)
    (hpos : 0 < recentConflicts x.1.log) (hend : x.1.Exhausted) :
    x.2 = (b.maxAttempts + (b.cost - 1)) / b.cost := by
  obtain ⟨c, hin, hok, htally⟩ := tallied hm h
  obtain ⟨-, hspent, hleft⟩ := htally.ended (hin.ended_of_exhausted hok hpos hend)
  unfold Build.cost at hspent hleft ⊢
  split at hspent
  · rename_i h1
    rw [if_pos h1] at hleft ⊢
    omega
  · rename_i h1
    rw [if_neg h1] at hleft ⊢
    omega

/-- **The retry budget.**  With a limit on the attempts, in every run whose probe sequences all end
in conflicts: when the limit is one, or the first conflict limits the client, each conflict takes
one attempt and all attempts are made; and a run that has come to its end shows that nothing else
will do. -/
theorem retry_budget (hm : 1 ≤ b.maxAttempts)
    (h : Run (watch (deviceStep b) noteRetries) (fun x e => x.1.Undisturbed b e)
      (Device.init others, 0) x) :
    (b.maxAttempts = 1 ∨ b.timing.maxConflicts ≤ 1 → BudgetKept b x) ∧
      (0 < recentConflicts x.1.log → x.1.Exhausted → BudgetKept b x →
        b.maxAttempts = 1 ∨ b.timing.maxConflicts ≤ 1) := by
  have hm0 : b.maxAttempts ≠ 0 := by omega
  obtain ⟨c, hin, hok, htally⟩ := tallied hm0 h
  constructor
  · intro hcond
    refine ⟨?_, fun hpos hend => ?_⟩
    · rw [hin.count, htally.count, hin.conflicts]
      rcases hcond with h1 | h1
      · -- one attempt: the first conflict takes it, whatever it costs
        have hcost := b.cost_pos
        rw [h1]
        cases c.conflicts with
        | zero => rfl
        | succ k =>
          have : 1 ≤ b.cost * (k + 1) := Nat.mul_pos hcost (Nat.succ_pos k)
          omega
      · rw [Build.cost, if_pos h1, Nat.one_mul]
    · rw [retry_starts hm0 h hpos hend]
      rcases hcond with h1 | h1
      · rw [h1]
        unfold Build.cost
        split <;> rfl
      · rw [Build.cost, if_pos h1, Nat.sub_self, Nat.add_zero, Nat.div_one]
  · intro hpos hend hkept
    have hall := hkept.2 hpos hend
    rw [retry_starts hm0 h hpos hend] at hall
    by_cases h1 : b.timing.maxConflicts ≤ 1
    · exact .inr h1
    · rw [Build.cost, if_neg h1] at hall
      exact .inl (by omega)

/-! ## 4. Two builds -/

/-- The sequence runs into it, the blocked caller returns and the posted stop is run. -/
def benchConflict : List DeviceEvent :=
  [.tick 1 true, .arp benchRival true, .resume .good true, .stop]

/-- The retry timer expires, and the retry is run. -/
def benchRetry : List DeviceEvent := [.timer .good, .retry .good]

/-- A first conflict, and a retry that runs into the next one. -/
def benchOneRetry : List DeviceEvent :=
  [.boot benchCfg .good, .netifUp, .connected benchMac .good] ++ benchConflict ++
    [.deferred .good] ++ benchRetry ++ benchConflict

/-- With one attempt the budget is kept. -/
theorem retry_budget_single :
    ∃ x, Run (watch (deviceStep ⟨.shipped, 1⟩) noteRetries)
        (fun x e => x.1.Undisturbed ⟨.shipped, 1⟩ e) (Device.init [], 0) x ∧
      recentConflicts x.1.log = 2 ∧ x.1.Exhausted ∧ x.2 = 1 ∧ BudgetKept ⟨.shipped, 1⟩ x := by
  have h : (exec (watch (deviceStep ⟨.shipped, 1⟩) noteRetries) (Device.init [], 0)
      benchOneRetry).map (fun x => (recentConflicts x.1.log, decide x.1.Exhausted, x.2)) =
        some (2, true, 1) := by decide +kernel
  have hm : execMeets (watch (deviceStep ⟨.shipped, 1⟩) noteRetries)
      (fun x e => x.1.Undisturbed ⟨.shipped, 1⟩ e) (Device.init [], 0) benchOneRetry := by
    decide +kernel
  obtain ⟨x, hx, hobs⟩ := Option.map_eq_some_iff.1 h
  simp only [Prod.mk.injEq, decide_eq_true_eq] at hobs
  have hrun := exec_run hm hx
  exact ⟨x, hrun, hobs.1, hobs.2.1, hobs.2.2,
    (retry_budget (by decide) hrun).1 (.inl rfl)⟩

/-- A first conflict and all the retries it sets off in the shipped build. -/
def benchRetries : List DeviceEvent :=
  benchOneRetry ++ benchRetry ++ benchConflict ++ benchRetry ++ benchConflict

/-- Of the five attempts of the shipped build the timer makes three. -/
theorem budget_halved :
    ∃ x, Run (watch (deviceStep .shipped) noteRetries) (fun x e => x.1.Undisturbed .shipped e)
        (Device.init [], 0) x ∧
      0 < recentConflicts x.1.log ∧ x.1.Exhausted ∧ x.2 = 3 ∧ ¬BudgetKept .shipped x := by
  have h : (exec (watch (deviceStep .shipped) noteRetries) (Device.init [], 0) benchRetries).map
      (fun x => (recentConflicts x.1.log, decide x.1.Exhausted, x.2)) = some (4, true, 3) := by
    decide +kernel
  have hm : execMeets (watch (deviceStep .shipped) noteRetries)
      (fun x e => x.1.Undisturbed .shipped e) (Device.init [], 0) benchRetries := by
    decide +kernel
  obtain ⟨x, hx, hobs⟩ := Option.map_eq_some_iff.1 h
  simp only [Prod.mk.injEq, decide_eq_true_eq] at hobs
  obtain ⟨hpos, hend, hn⟩ := hobs
  have hpos' : 0 < recentConflicts x.1.log := by omega
  refine ⟨x, exec_run hm hx, hpos', hend, hn, fun hkept => ?_⟩
  have hall := hkept.2 hpos' hend
  rw [hn] at hall
  exact absurd hall (by decide)

end GroundTruth.Acd
