/-
# The defence of an address

RFC 5227 leaves a host three ways to meet a conflict over an address in use; `acd.c` takes the
second: it keeps the address "when having only one conflict in DEFEND_INTERVAL seconds".  The window
is a counter, `lastconflict`, that a defence sets, that every tick takes down whatever else the tick
does, and that `acd_start` clears.

* `Windowed.step`: while the client is at work the counter is what the window has left, counted from
  the last conflict that was heard;
* `defence_rule`: so a conflict is answered and the address kept if and only if no other was heard
  in the last DEFEND_INTERVAL seconds since the start, and given up otherwise.
-/
import GroundTruth.Acd.Life

namespace GroundTruth.Acd

open GroundTruth.Lib

/-! ## 1. The window -/

/-- The ticks since the last conflict, if there has been one since `acd_start`. -/
def ticksSinceConflict : List LifeObs → Option Nat
  | [] => none
  | .started :: _ => none
  | .conflict :: _ => some 0
  | .tick :: older => (ticksSinceConflict older).map (· + 1)
  | _ :: older => ticksSinceConflict older

/-- DEFEND_INTERVAL in ticks. -/
def defendTicks : Nat := defendInterval * acdTicksPerSecond

/-- A conflict was heard in the last DEFEND_INTERVAL seconds since `acd_start`. -/
def RecentConflict (log : List LifeObs) : Prop :=
  ∃ k, ticksSinceConflict log = some k ∧ k < defendTicks

/-- What the window has left. -/
def windowLeft (log : List LifeObs) : Nat :=
  match ticksSinceConflict log with
  | none => 0
  | some k => defendTicks - k

/-- The client has been started, and not been stopped or limited. -/
def AcdState.works : AcdState → Bool
  | .probeWait | .probing | .announceWait | .announcing | .ongoing => true
  | .off | .passiveOngoing | .rateLimit => false

/-- The counter is what the window has left. -/
def Windowed (s : Life) : Prop :=
  s.acd.state.works = true → s.acd.lastconflict = windowLeft s.log

/-- The conflict is answered with an announcement, and the address kept; `ok` says whether there was
memory to send it. -/
def Answered (ok : Bool) (s s' : Life) : Prop :=
  s'.log = Life.returned ok (.announced :: .conflict :: s.log) ∧ s'.acd.state = s.acd.state

/-- The user is told `ACD_DECLINE`, and the client neither announces nor defends any more. -/
def Retreats (s s' : Life) : Prop :=
  (∃ newer, s'.log = newer ++ .told .decline :: .conflict :: s.log) ∧ s'.acd.state.holds = false

/-! ## 2. The counter -/

variable {t : Timing} {s s' : Life} {e : LifeEvent} {user : AcdCallback → Reaction}
  {hdr : ArpHdr} {rand : Nat} {ok : Bool}

theorem recentConflict_iff (log : List LifeObs) : RecentConflict log ↔ 0 < windowLeft log := by
  unfold RecentConflict windowLeft
  cases hk : ticksSinceConflict log with
  | none => simp
  | some k =>
    simp only [Option.some.injEq, exists_eq_left', Nat.sub_pos_iff_lt]

/-- A tick takes the window down. -/
@[simp] theorem windowLeft_tick (log : List LifeObs) :
    windowLeft (.tick :: log) = windowLeft log - 1 := by
  unfold windowLeft
  rw [ticksSinceConflict]
  cases ticksSinceConflict log with
  | none => rfl
  | some k =>
    dsimp only [Option.map_some]
    rw [Nat.sub_sub]

/-- What `etharp.c` returns has nothing to do with the window. -/
theorem windowLeft_returned (ok : Bool) (log : List LifeObs) :
    windowLeft (Life.returned ok log) = windowLeft log := by
  cases ok <;> rfl

@[simp] theorem entered_lastconflict (a : Client) : a.entered.lastconflict = a.lastconflict := by
  unfold Client.entered
  split <;> rfl

@[simp] theorem countDown_lastconflict (a : Client) :
    a.countDown.lastconflict = a.lastconflict - 1 := rfl

/-- Every phase from which the client sends is one in which it works. -/
theorem works_of_sends {st : AcdState} (h : st = .probeWait ∨ st = .probing ∨ st = .announceWait ∨
    st = .announcing ∨ st = .ongoing) : st.works = true := by
  rcases h with rfl | rfl | rfl | rfl | rfl <;> rfl

theorem Windowed.start (rand : Nat) (ip : Ip4) (wipe : Bool) :
    Windowed (s.start t rand ip wipe) := fun _ => rfl

theorem Windowed.rest (h : s.acd.state.works = false) : Windowed s := by
  intro hworks
  rw [h] at hworks
  cases hworks

theorem Windowed.react (h : Windowed s) (r : Reaction) : Windowed (s.react t r) := by
  cases r with
  | keep => exact h
  | stop => exact .rest rfl
  | start rand ip wipe => exact .start rand ip wipe

/-- **A tick.** -/
theorem Windowed.tick (h : Windowed s) :
    Windowed (acdTmr t (Life.host t ok user) rand { s with log := .tick :: s.log }) := by
  have hcase := acdTmr_cases t (Life.host t ok user) rand { s with log := .tick :: s.log }
  generalize acdTmr t (Life.host t ok user) rand { s with log := .tick :: s.log } = s' at hcase ⊢
  -- the counter and the window go down together
  have hdown : s.acd.state.works = true →
      s.acd.countDown.lastconflict = windowLeft (.tick :: s.log) := by
    intro hworks
    rw [countDown_lastconflict, windowLeft_tick, h hworks]
  have hentered : s.acd.state.works = true →
      s.acd.countDown.entered.lastconflict = windowLeft (.tick :: s.log) := by
    intro hworks
    rw [entered_lastconflict, hdown hworks]
  -- a frame does not move the window
  have hprobed : windowLeft (.tick :: s.log) =
      windowLeft (Life.returned ok (.probed :: .tick :: s.log)) :=
    (windowLeft_returned ok (.probed :: .tick :: s.log)).symm
  have hannounced : windowLeft (.tick :: s.log) =
      windowLeft (Life.returned ok (.announced :: .tick :: s.log)) :=
    (windowLeft_returned ok (.announced :: .tick :: s.log)).symm
  cases hcase with
  | wait _ => exact hdown
  | probe hstate _ _ =>
    intro _
    refine (hdown (works_of_sends ?_)).trans hprobed
    rcases hstate with hst | hst
    · exact .inl hst
    · exact .inr (.inl hst)
  | lastProbe hstate _ _ =>
    intro _
    refine (hdown (works_of_sends ?_)).trans hprobed
    rcases hstate with hst | hst
    · exact .inl hst
    · exact .inr (.inl hst)
  | announce hstate _ _ =>
    intro _
    refine (hentered (works_of_sends ?_)).trans hannounced
    rcases hstate with hst | hst
    · exact .inr (.inr (.inl hst))
    · exact .inr (.inr (.inr (.inl hst)))
  | lastAnnounce hstate _ _ =>
    refine Windowed.react ?_ (user .ipOk)
    intro _
    refine (hentered (works_of_sends ?_)).trans hannounced
    rcases hstate with hst | hst
    · exact .inr (.inr (.inl hst))
    · exact .inr (.inr (.inr (.inl hst)))
  | defend hstate =>
    intro _
    exact (hdown (works_of_sends (.inr (.inr (.inr (.inr hstate)))))).trans hprobed
  | unlimit hstate =>
    refine Windowed.react ?_ (user .restartClient)
    exact .rest rfl

/-- **A packet.** -/
theorem Windowed.arp (h : Windowed s) : Windowed (acdArpReply t (Life.host t ok user) hdr s) := by
  have hcase := acdArpReply_cases t (Life.host t ok user) hdr s rfl
  generalize acdArpReply t (Life.host t ok user) hdr s = s' at hcase ⊢
  cases hcase with
  | ignored _ _ => exact h
  | limited _ => exact .rest rfl
  | stopped _ =>
    refine Windowed.react ?_ (user .restartClient)
    exact .rest rfl
  | defended _ _ =>
    intro _
    exact (windowLeft_returned ok (.announced :: .conflict :: s.log)).symm
  | passive _ =>
    refine Windowed.react ?_ (user .decline)
    exact .rest rfl

theorem Windowed.step (h : Windowed s) (hs : lifeStep t s e = some s') : Windowed s' := by
  cases e with
  | start rand ip wipe =>
    obtain rfl := Option.some.inj hs
    exact .start rand ip wipe
  | stop =>
    obtain rfl := Option.some.inj hs
    exact .rest rfl
  | tick rand sent user =>
    obtain rfl := Option.some.inj hs
    exact h.tick
  | arp hdr sent user =>
    obtain rfl := Option.some.inj hs
    exact h.arp

/-! ## 3. A conflict -/

/-- What `acd_arp_reply` does for a client that announces or defends. -/
theorem acdArpReply_holds {σ : Type} (t : Timing) (h : Host σ) (hdr : ArpHdr) (s : σ)
    (hst : (h.acd s).state.holds = true)
    (hconf : useConflict (h.hwaddr s) (h.acd s).ipaddr hdr = true) :
    acdArpReply t h hdr s = acdHandleArpConflict t h (h.setLastConflict hdr s) := by
  unfold acdArpReply
  dsimp only
  rcases (AcdState.holds_iff _).1 hst with hst | hst
  · rw [hst]
    exact if_pos hconf
  · rw [hst]
    exact if_pos hconf

theorem holds_direct {st : AcdState} (h : st.holds = true) : st ≠ .passiveOngoing := by
  rintro rfl
  cases h

/-- The reaction of the user only adds to the log, and a client that does not announce or defend
does not do so after it. -/
theorem react_retreats (hst : s.acd.state.holds = false) (r : Reaction) :
    (∃ newer, (s.react t r).log = newer ++ s.log) ∧ (s.react t r).acd.state.holds = false := by
  cases r with
  | keep => exact ⟨⟨[], rfl⟩, hst⟩
  | stop => exact ⟨⟨[], rfl⟩, rfl⟩
  | start rand ip wipe => exact ⟨⟨[.started], rfl⟩, rfl⟩

/-- **A retreat**: `acd_restart` tells the user, and the client is off, limited or started anew. -/
theorem restart_retreats (s : Life) :
    Retreats s (acdRestart t (Life.host t ok user) { s with log := .conflict :: s.log }) := by
  have hdeclined : ∃ newer,
      (acdDeclined (Life.host t ok user) { s with log := .conflict :: s.log }).log =
        newer ++ .told .decline :: .conflict :: s.log := by
    show ∃ newer, (Life.react t _ (user .decline)).log = _
    cases user .decline with
    | keep => exact ⟨[], rfl⟩
    | stop => exact ⟨[], rfl⟩
    | start rand ip wipe => exact ⟨[.started], rfl⟩
  unfold acdRestart
  dsimp only
  generalize acdDeclined (Life.host t ok user) { s with log := .conflict :: s.log } = u at hdeclined ⊢
  obtain ⟨newer, hu⟩ := hdeclined
  split
  · exact ⟨⟨newer, hu⟩, rfl⟩
  · have hstopped := react_retreats (t := t)
      (s := { u with acd := acdStop u.acd, log := .told .restartClient :: u.log }) rfl
      (user .restartClient)
    obtain ⟨⟨later, hlog⟩, hholds⟩ := hstopped
    refine ⟨⟨later ++ .told .restartClient :: newer, ?_⟩, hholds⟩
    rw [List.append_assoc, List.cons_append, ← hu]
    exact hlog

/-- **The defence rule.**  In every run from an `acd_start`, whatever the waits and whatever the
user does from its callback, a client that announces or defends meets a conflicting packet like
this: it answers it with an announcement and keeps the address just when it has heard no conflict in
the last DEFEND_INTERVAL seconds since that start, and otherwise it retreats. -/
theorem defence_rule {a : Client} {hw : EthAddr} {ip : Ip4} {wipe : Bool}
    (h : Reach (lifeStep t) (Life.start t rand ip wipe ⟨a, hw, []⟩) s)
    (hst : s.acd.state.holds = true) (hconf : useConflict s.hwaddr s.acd.ipaddr hdr = true)
    (hs : lifeStep t s (.arp hdr ok user) = some s') :
    (Answered ok s s' ↔ ¬RecentConflict s.log) ∧ (¬Answered ok s s' → Retreats s s') := by
  have hwindow : Windowed s :=
    h.invariant (fun _ _ _ hu _ hs => hu.step hs) (.start (s := ⟨a, hw, []⟩) rand ip wipe)
  have hworks : s.acd.state.works = true := by
    rcases (AcdState.holds_iff _).1 hst with hst | hst <;> rw [hst] <;> rfl
  have harp : acdArpReply t (Life.host t ok user) hdr s =
      if 0 < s.acd.lastconflict then
        acdRestart t (Life.host t ok user) { s with log := .conflict :: s.log }
      else acdDefended (Life.host t ok user) { s with log := .conflict :: s.log } :=
    (acdArpReply_holds t (Life.host t ok user) hdr s hst hconf).trans (if_neg (holds_direct hst))
  obtain rfl := Option.some.inj hs
  rw [harp, recentConflict_iff, ← hwindow hworks]
  by_cases hlast : 0 < s.acd.lastconflict
  · -- a conflict within the window
    rw [if_pos hlast]
    have hretreats : Retreats s
        (acdRestart t (Life.host t ok user) { s with log := .conflict :: s.log }) :=
      restart_retreats s
    refine ⟨iff_of_false ?_ (fun hno => hno hlast), fun _ => hretreats⟩
    rintro ⟨-, hsame⟩
    have hgone := hretreats.2
    rw [show Client.state _ = s.acd.state from hsame, hst] at hgone
    cases hgone
  · rw [if_neg hlast]
    have hanswered : Answered ok s (acdDefended (Life.host t ok user)
        { s with log := .conflict :: s.log }) := ⟨rfl, rfl⟩
    exact ⟨iff_of_true hanswered hlast, fun hno => absurd hanswered hno⟩

/-- A conflict while the client announces, and some ticks after it. -/
def lifeEdge (n : Nat) : List LifeEvent :=
  lifeTicks 25 ++ [.arp lifeRival true fun _ => .keep] ++ lifeTicks n

/-- A conflict while the client announces is answered; one 99 ticks later makes it retreat, and one
100 ticks later is answered again. -/
theorem defence_rule_edges :
    (∃ s s', exec (lifeStep .shipped) lifeStarted (lifeEdge 99) = some s ∧
      lifeStep .shipped s (.arp lifeRival true fun _ => .keep) = some s' ∧ Retreats s s') ∧
    (∃ s s', exec (lifeStep .shipped) lifeStarted (lifeEdge 100) = some s ∧
      lifeStep .shipped s (.arp lifeRival true fun _ => .keep) = some s' ∧ Answered true s s') := by
  have hedge : ∀ n, n = 99 ∨ n = 100 →
      ∃ s s', exec (lifeStep .shipped) lifeStarted (lifeEdge n) = some s ∧
        lifeStep .shipped s (.arp lifeRival true fun _ => .keep) = some s' ∧
        (Answered true s s' ↔ ¬n < 100) ∧ (¬Answered true s s' → Retreats s s') := by
    intro n hn
    have hread : (exec (lifeStep .shipped) lifeStarted (lifeEdge n)).map (fun s =>
        (s.acd.state.holds, useConflict s.hwaddr s.acd.ipaddr lifeRival,
          ticksSinceConflict s.log)) = some (true, true, some n) := by
      rcases hn with rfl | rfl <;> decide +kernel
    obtain ⟨s, hs, heq⟩ := Option.map_eq_some_iff.1 hread
    obtain ⟨hholds, heq⟩ := Prod.mk.inj heq
    obtain ⟨hconf, hticks⟩ := Prod.mk.inj heq
    have hrecent : RecentConflict s.log ↔ n < 100 := by
      unfold RecentConflict
      rw [hticks]
      simp [defendTicks, defendInterval, acdTicksPerSecond, acdTmrInterval]
    have hstep : lifeStep .shipped s (.arp lifeRival true fun _ => .keep) = some _ := rfl
    have hrule := defence_rule (exec_reach hs) hholds hconf hstep
    rw [hrecent] at hrule
    exact ⟨s, _, hs, rfl, hrule⟩
  obtain ⟨s, s', hs, hstep, hanswered, hretreats⟩ := hedge 99 (.inl rfl)
  obtain ⟨u, u', hu, hstep', hanswered', -⟩ := hedge 100 (.inr rfl)
  refine ⟨⟨s, s', hs, hstep, hretreats fun h => ?_⟩, u, u', hu, hstep', hanswered'.2 (by omega)⟩
  exact absurd (by omega) (hanswered.1 h)

end GroundTruth.Acd
