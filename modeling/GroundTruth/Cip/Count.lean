/-
# The count of the I/O connections

`s_active_io_connections` is to be the number of the established I/O connections.  The events it
is moved by are not one for each connection that comes or goes: a connection that times out and is
closed later, by its originator or to be opened again, raises two; so does one that is closed along
with another, because `CloseAllConnectionsForInputWithSameType` raises an event of its own; and
`SampleApplicationNotifyLinkDown` sets the counter to zero while the connections stay.

* `count_le_established`: the counter is never too high, whatever happens;
* `Balanced`: an event raises none too many, or no I/O connection is left established after it;
* `io_count`: in every run of such events the counter is what it is to be.
-/
import GroundTruth.Cip.Open

namespace GroundTruth.Cip

open GroundTruth.Lib

variable {s t u v : Stack} {c d : Slot} {o o' : ConnectionObject} {q : ConnectionState}
  {p : ConnectionObject → Bool} {points : ConnectionPoints} {point : Nat} {type : InstanceType}

/-! ## 1. The searches -/

theorem select_congr (hlist : t.connectionList = s.connectionList)
    (h : ∀ d, p (t.connectionData d) = p (s.connectionData d)) : t.select p = s.select p := by
  unfold Stack.select
  rw [hlist]
  exact List.filter_congr fun d _ => h d

/-- The first of those that are selected. -/
theorem search_eq_head (s : Stack) (p : ConnectionObject → Bool) :
    s.search p = (s.select p).head? := List.head?_filter.symm

theorem mem_select : d ∈ s.select p ↔ d ∈ s.connectionList ∧ p (s.connectionData d) = true :=
  List.mem_filter

/-- Releasing a connection that is not looked for. -/
theorem release_select (hc : p (s.connectionData c) = false) (hempty : p .empty = false) :
    (s.release c).select p = s.select p := by
  have hsame : ∀ d, p ((s.release c).connectionData d) = p (s.connectionData d) := by
    intro d
    by_cases hd : d = c
    · subst hd
      rw [release_self, hempty, hc]
    · rw [release_of_ne hd]
  unfold Stack.select
  rw [release_connectionList, List.filter_congr fun d _ => hsame d]
  generalize s.connectionList = nodes
  induction nodes with
  | nil => rfl
  | cons d nodes ih =>
    by_cases hd : d = c
    · subst hd
      rw [List.erase_cons_head, List.filter_cons_of_neg]
      rw [hc]
      exact Bool.false_ne_true
    · rw [List.erase_cons_tail (by simpa using hd), List.filter_cons, List.filter_cons, ih]

theorem isMember_eq_true : o.isMember type point = true ↔
    o.instanceType = type ∧ o.producedPoint = point := decide_eq_true_iff

/-- Marking a connection changes nothing for a search that does not look at the state. -/
theorem mark_select (e : IoConnectionEvent) :
    ((s.notify e).setState c q).select (fun o => o.isMember type point) =
      s.select fun o => o.isMember type point := by
  refine select_congr rfl ?_
  intro d
  by_cases hd : d = c
  · subst hd
    rw [setState_self]
    rfl
  · rw [setState_of_ne hd]
    rfl

/-- A master is not its own successor, marked or not. -/
theorem isNextMaster_of_producing (h : o.producing = true) : isNextMaster point o = false := by
  unfold isNextMaster
  rw [Bool.and_eq_false_iff]
  refine Or.inr (decide_eq_false ?_)
  rintro ⟨-, -, -, hno⟩
  rw [h] at hno
  cases hno

theorem isMaster_producing (h : o.isMaster = true) : o.producing = true :=
  (of_decide_eq_true h).2.2

theorem mark_next (e : IoConnectionEvent) (h : (s.connectionData c).isMaster = true) :
    ((s.notify e).setState c q).select (isNextMaster point) = s.select (isNextMaster point) := by
  refine select_congr rfl ?_
  intro d
  by_cases hd : d = c
  · subst hd
    have hproducing := isMaster_producing h
    rw [setState_self, isNextMaster_of_producing hproducing]
    exact isNextMaster_of_producing hproducing
  · rw [setState_of_ne hd]
    rfl

/-! ## 2. Who goes with a connection -/

/-- The listen only connections that go with `c` when it closes: those on its input assembly, when
there is nobody to take the producing over. -/
def Stack.listenersOf (c : Slot) (s : Stack) : List Slot :=
  let o := s.connectionData c
  if o.isMaster = true ∧ getNextNonControlMasterConnection o.producedPoint s = none then
    s.select fun o' => o'.isMember .ioListenOnly o.producedPoint
  else []

/-- Those that go with `c` when it times out: the same, and with an exclusive owner that is not
taken over from all that get their data from its input assembly. -/
def Stack.dependantsOf (c : Slot) (s : Stack) : List Slot :=
  let o := s.connectionData c
  s.listenersOf c ++
    if o.instanceType = .ioExclusiveOwner ∧ ¬ (o.isMaster = true ∧
        (getNextNonControlMasterConnection o.producedPoint s).isSome = true) then
      (s.select fun o' => o'.isMember .ioInputOnly o.producedPoint) ++
        s.select fun o' => o'.isMember .ioListenOnly o.producedPoint
    else []

/-- No I/O connection is established but `c` and those of `cs`. -/
def Stack.NoneBut (c : Slot) (cs : List Slot) (s : Stack) : Prop :=
  ∀ d ∈ s.ioEstablished, d = c ∨ d ∈ cs

/-- Closing an I/O connection raises one event, for a connection that was established; or nothing
is left to count. -/
def Stack.ClosesEvenly (c : Slot) (s : Stack) : Prop :=
  isTypeIoConnection (s.connectionData c) = true →
    (s.connectionData c).state = .established ∧ s.listenersOf c = [] ∨
      s.NoneBut c (s.listenersOf c)

/-- So does its timeout. -/
def Stack.TimesOutEvenly (c : Slot) (s : Stack) : Prop :=
  isTypeIoConnection (s.connectionData c) = true →
    s.dependantsOf c = [] ∨ s.NoneBut c (s.dependantsOf c)

/-- **The condition.** -/
def Balanced (points : ConnectionPoints) (s : Stack) : Event → Prop
  | .forwardOpen r => ∀ c, r.reopens points s = some c → s.ClosesEvenly c
  | .forwardClose r => ∀ c, r.target s = some c →
    r.originatorAddress = (s.connectionData c).originatorAddress → s.ClosesEvenly c
  | .manageConnection c elapsedTime _ =>
    expired elapsedTime (s.connectionData c) = true → s.TimesOutEvenly c
  | .linkDown => s.ioEstablished = ∅
  | .receivedConnectedData _ _ | .closeSession _ | .closeAllConnections | .linkUp => True

/-! ## 3. All of them are closed -/

/-- **The cascade closes every member**, as far as it was there when the loop began. -/
theorem closeEachForInput_gone {close : Slot → Stack → Option Stack}
    (hclose : ∀ c u v, close c u = some v → Shrinks u v ∧ v.connectionData c = .empty)
    {nodes : List Slot} (hd : d ∈ nodes) (hin : d ∈ s.connectionList)
    (hmember : (s.connectionData d).isMember type point = true)
    (h : closeEachForInput close point type nodes s = some t) :
    (t.connectionData d).state = .nonExistent := by
  induction nodes generalizing s with
  | nil => cases hd
  | cons c nodes ih =>
    rw [closeEachForInput] at h
    by_cases hc : c ∈ s.connectionList ∧ (s.connectionData c).isMember type point = true
    · rw [if_pos hc] at h
      obtain ⟨u, hu, hrest⟩ := Option.bind_eq_some_iff.1 h
      split at hrest
      swap
      · cases hrest
      obtain ⟨hclosed, hempty⟩ := hclose _ _ _ hu
      have hlater : Shrinks u t :=
        closing_shrinks.closeEachForInput (fun c u v huv => (hclose c u v huv).1) hrest
      rcases List.mem_cons.1 hd with rfl | hlast
      · exact hlater.gone (congrArg ConnectionObject.state hempty)
      · -- what has become of `d` meanwhile: it is gone, or still a member
        have hevent : Shrinks s (s.notify .closed) := ⟨1, .closed_event s⟩
        obtain ⟨k, hk⟩ := hevent.trans hclosed
        rcases hk.listed d hin with hin' | hgone
        · rcases hk.object d with ⟨hgone, -⟩ | ⟨htype, hpoint, -, -⟩
          · exact hlater.gone hgone
          · refine ih hlast hin' ?_ hrest
            rw [isMember_eq_true] at hmember ⊢
            rw [htype, hpoint]
            exact hmember
        · exact hlater.gone hgone
    · rw [if_neg hc] at h
      rcases List.mem_cons.1 hd with rfl | hlast
      · exact absurd ⟨hin, hmember⟩ hc
      · exact ih hlast hin hmember h

/-- The same for a cascade that begins later on. -/
theorem cascade_gone {close : Slot → Stack → Option Stack}
    (hclose : ∀ c u v, close c u = some v → Shrinks u v ∧ v.connectionData c = .empty)
    (hst : Shrinks s t) (hd : d ∈ s.select fun o => o.isMember type point)
    (h : closeAllConnectionsForInputWithSameType close point type t = some u) :
    (u.connectionData d).state = .nonExistent := by
  obtain ⟨hin, hmember⟩ := mem_select.1 hd
  have hlater : Shrinks t u :=
    closing_shrinks.closeEachForInput (fun c u v huv => (hclose c u v huv).1) h
  obtain ⟨k, hk⟩ := hst
  rcases hk.listed d hin with hin' | hgone
  · rcases hk.object d with ⟨hgone, -⟩ | ⟨htype, hpoint, -, -⟩
    · exact hlater.gone hgone
    · refine closeEachForInput_gone hclose hin' hin' ?_ h
      rw [isMember_eq_true] at hmember ⊢
      rw [htype, hpoint]
      exact hmember
  · exact hlater.gone hgone

theorem closeListeners_gone (hst : Shrinks s t)
    (hd : d ∈ s.select fun o => o.isMember .ioListenOnly point)
    (h : closeListeners point t = some u) : (u.connectionData d).state = .nonExistent := by
  refine cascade_gone ?_ hst hd h
  intro c u v huv
  refine ⟨closing_shrinks.closeIoWith ?_ huv, closeIoWith_empty huv⟩
  intro point u v huv
  obtain rfl := Option.some.inj huv
  exact .refl u

theorem closeDependants_gone (hst : Shrinks s t)
    (hd : d ∈ (s.select fun o => o.isMember .ioInputOnly point) ++
      s.select fun o => o.isMember .ioListenOnly point)
    (h : closeDependants point t = some u) : (u.connectionData d).state = .nonExistent := by
  obtain ⟨v, hv, hlast⟩ := Option.bind_eq_some_iff.1 h
  have hinputs : Shrinks t v :=
    closing_shrinks.closeEachForInput (fun _ _ _ => closing_shrinks.closeIoConnection) hv
  rcases List.mem_append.1 hd with hinput | hlisten
  · refine (closing_shrinks.closeListeners hlast).gone (cascade_gone ?_ hst hinput hv)
    exact fun c u v huv => ⟨closing_shrinks.closeIoConnection huv, closeIoWith_empty huv⟩
  · exact closeListeners_gone (hst.trans hinputs) hlisten hlast

/-- **`CloseAllConnections`** leaves none. -/
theorem closeEach_gone {nodes : List Slot} (hd : d ∈ nodes) (hin : d ∈ s.connectionList)
    (h : closeEach nodes s = some t) : (t.connectionData d).state = .nonExistent := by
  induction nodes generalizing s with
  | nil => cases hd
  | cons c nodes ih =>
    rw [closeEach] at h
    by_cases hc : c ∈ s.connectionList
    · rw [if_pos hc] at h
      obtain ⟨u, hu, hrest⟩ := Option.bind_eq_some_iff.1 h
      obtain ⟨k, hk⟩ := closing_shrinks.connectionCloseFunction hu
      have hempty := connectionCloseFunction_empty hu
      rcases List.mem_cons.1 hd with rfl | hlast
      · exact (closing_shrinks.closeEach hrest).gone (congrArg ConnectionObject.state hempty)
      · rcases hk.listed d hin with hin' | hgone
        · exact ih hlast hin' hrest
        · exact (closing_shrinks.closeEach hrest).gone hgone
    · rw [if_neg hc] at h
      rcases List.mem_cons.1 hd with rfl | hlast
      · exact absurd hin hc
      · exact ih hlast hin h

/-- What is gone in the end is all that was established: nothing is. -/
theorem none_established (hst : Shrinks s t)
    (h : ∀ d ∈ s.ioEstablished, (t.connectionData d).state ≠ .established) :
    t.ioEstablished = ∅ := by
  refine Finset.eq_empty_of_forall_notMem fun d hd => ?_
  exact h d (hst.subset hd) (mem_ioEstablished.1 hd).2

theorem closeAllConnections_none (hwf : Wf points s) (h : closeAllConnections s = some t) :
    t.ioEstablished = ∅ := by
  refine none_established (closing_shrinks.closeEach h) fun d hd => ?_
  have hstate := (mem_ioEstablished.1 hd).2
  have hin : d ∈ s.connectionList := by
    refine hwf.listed d ?_
    rw [hstate]
    exact ConnectionState.noConfusion
  rw [closeEach_gone hin hin h]
  exact ConnectionState.noConfusion

/-! ## 4. Nothing to close -/

/-- **A cascade with no members** does nothing. -/
theorem closeEachForInput_none {close : Slot → Stack → Option Stack} {nodes : List Slot}
    (hnone : (s.select fun o => o.isMember type point) = []) :
    closeEachForInput close point type nodes s = some s := by
  induction nodes with
  | nil => rfl
  | cons c nodes ih =>
    rw [closeEachForInput, if_neg, ih]
    rintro ⟨hin, hmember⟩
    have hc : c ∈ s.select fun o => o.isMember type point := mem_select.2 ⟨hin, hmember⟩
    rw [hnone] at hc
    cases hc

theorem closeListeners_none (hnone : (s.select fun o => o.isMember .ioListenOnly point) = [])
    (h : closeListeners point s = some t) : t = s :=
  (Option.some.inj ((closeEachForInput_none hnone).symm.trans h)).symm

theorem closeDependants_none (hinput : (s.select fun o => o.isMember .ioInputOnly point) = [])
    (hlisten : (s.select fun o => o.isMember .ioListenOnly point) = [])
    (h : closeDependants point s = some t) : t = s := by
  obtain ⟨u, hu, hlast⟩ := Option.bind_eq_some_iff.1 h
  obtain rfl := Option.some.inj ((closeEachForInput_none hinput).symm.trans hu)
  exact closeListeners_none hlisten hlast

/-! ## 5. One event for one connection -/

theorem mark_exact {e : IoConnectionEvent} (he : e ≠ .opened) (hq : q ≠ .established)
    (hc : (s.connectionData c).IoEstablished) (hexact : s.tally.Exact) :
    ((s.notify e).setState c q).tally.Exact := by
  have hrank : q.rank ≤ (s.connectionData c).state.rank := by
    rw [hc.2]
    cases q with
    | established => exact absurd rfl hq
    | nonExistent => exact Nat.zero_le _
    | timedOut => exact Nat.le_succ 1
  have hmembers : ((s.notify e).setState c q).ioEstablished = s.ioEstablished.erase c := by
    rw [Stack.setState, ioEstablished_set, if_neg (not_ioEstablished_of_state hq)]
    rfl
  refine (Shrunk.lower he hrank hq).tally.exact ?_ hexact
  show s.ioEstablished.card = ((s.notify e).setState c q).ioEstablished.card + 1
  rw [hmembers, Finset.card_erase_add_one (mem_ioEstablished.2 hc)]

/-- Before the connection is marked and after it, the same one is next. -/
theorem transfer_mark {e : IoConnectionEvent} (hmaster : (s.connectionData c).isMaster = true) :
    transferMasterConnection c ((s.notify e).setState c q) = none ↔
      getNextNonControlMasterConnection (s.connectionData c).producedPoint s = none := by
  rw [transferMasterConnection_eq_none, setState_self]
  unfold getNextNonControlMasterConnection
  rw [search_eq_head, search_eq_head, mark_next e hmaster]
  exact Iff.rfl

theorem listenersOf_eq (hmaster : (s.connectionData c).isMaster = true)
    (hnext : getNextNonControlMasterConnection (s.connectionData c).producedPoint s = none) :
    s.listenersOf c =
      s.select fun o => o.isMember .ioListenOnly (s.connectionData c).producedPoint :=
  if_pos ⟨hmaster, hnext⟩

/-- With no listeners to go with it, a close raises one event. -/
theorem closeIoConnection_exact (hexact : s.tally.Exact)
    (hc : (s.connectionData c).IoEstablished) (hnone : s.listenersOf c = [])
    (h : closeIoConnection c s = some t) : t.tally.Exact := by
  obtain ⟨u, rfl, hu⟩ := closeIoWith_cases h
  have hmarked : ((s.notify .closed).setState c .nonExistent).tally.Exact :=
    mark_exact (by decide) (by decide) hc hexact
  have hpassed : Shrunk 0 ((s.notify .closed).setState c .nonExistent) u := by
    rcases hu with ⟨rfl, -⟩ | ⟨-, htransfer⟩ | ⟨hmaster, hno, hclosed⟩
    · exact .refl _
    · exact transferMasterConnection_shrunk htransfer
    · have hlisteners := listenersOf_eq hmaster ((transfer_mark hmaster).1 hno)
      rw [hnone] at hlisteners
      obtain rfl := closeListeners_none ((mark_select _).trans hlisteners.symm) hclosed
      exact .refl _
  have hgone : (u.connectionData c).state = .nonExistent :=
    (hpassed.object c).gone (congrArg ConnectionObject.state setState_self)
  have hreleased : Shrunk 0 u (u.release c) := by
    refine .release (not_ioEstablished_of_state ?_)
    rw [hgone]
    exact ConnectionState.noConfusion
  exact hreleased.tally.exact_zero (hpassed.tally.exact_zero hmarked)

/-- With nothing else established but its listeners, a close leaves none. -/
theorem closeIoConnection_none (honly : s.NoneBut c (s.listenersOf c))
    (h : closeIoConnection c s = some t) : t.ioEstablished = ∅ := by
  have hshrinks : Shrinks s t := closing_shrinks.closeIoConnection h
  have hempty : t.connectionData c = .empty := closeIoWith_empty h
  refine none_established hshrinks fun d hd => ?_
  rcases honly d hd with rfl | hlistener
  · rw [hempty]
    exact ConnectionState.noConfusion
  obtain ⟨u, rfl, hu⟩ := closeIoWith_cases h
  unfold Stack.listenersOf at hlistener
  dsimp only at hlistener
  split at hlistener
  swap
  · cases hlistener
  rename_i hlast
  have hno := (transfer_mark (e := .closed) (q := .nonExistent) hlast.1).2 hlast.2
  rcases hu with ⟨-, hmaster⟩ | ⟨-, htransfer⟩ | ⟨-, -, hclosed⟩
  · rw [hlast.1] at hmaster
    cases hmaster
  · rw [hno] at htransfer
    cases htransfer
  have hmarked : Shrinks s ((s.notify .closed).setState c .nonExistent) :=
    ⟨1, .lower (by decide) (Nat.zero_le _) (by decide)⟩
  have hgone := closeListeners_gone hmarked hlistener hclosed
  by_cases hdc : d = c
  · subst hdc
    rw [hempty]
    exact ConnectionState.noConfusion
  · rw [release_of_ne hdc, hgone]
    exact ConnectionState.noConfusion

theorem isTypeIoConnection_of (h : o.instanceType ≠ .explicitMessaging) :
    isTypeIoConnection o = true := by
  unfold isTypeIoConnection
  split
  · rfl
  · rfl
  · rfl
  · rename_i hexplicit
    exact absurd hexplicit h

/-- **An even close** keeps the counter right. -/
theorem Stack.ClosesEvenly.exact (heven : s.ClosesEvenly c) (hexact : s.tally.Exact)
    (h : connectionCloseFunction c s = some t) : t.tally.Exact := by
  have hbounded : t.tally.Bounded := by
    obtain ⟨k, hk⟩ := closing_shrinks.connectionCloseFunction h
    exact hk.tally.bounded hexact.bounded
  by_cases hexplicit : (s.connectionData c).instanceType = .explicitMessaging
  · unfold connectionCloseFunction at h
    rw [hexplicit] at h
    obtain rfl := Option.some.inj h
    exact (explicit_release hexplicit).tally.exact_zero hexact
  have hio := isTypeIoConnection_of hexplicit
  have hclose : closeIoConnection c s = some t := by
    unfold connectionCloseFunction at h
    split at h
    · rename_i htype
      exact absurd htype hexplicit
    · exact h
    · exact h
    · exact h
  rcases heven hio with ⟨hstate, hnone⟩ | honly
  · exact closeIoConnection_exact hexact ⟨hio, hstate⟩ hnone hclose
  · exact Tally.exact_of_empty hbounded (closeIoConnection_none honly hclose)

/-! ## 6. Timeouts -/

/-- No explicit connection is looked for. -/
def Blind (p : ConnectionObject → Bool) : Prop :=
  ∀ o, o.instanceType = .explicitMessaging → p o = false

theorem isMember_blind (h : type ≠ .explicitMessaging) :
    Blind fun o => o.isMember type point := by
  intro o ho
  refine decide_eq_false ?_
  rintro ⟨htype, -⟩
  exact h (htype.symm.trans ho)

theorem isNextMaster_blind : Blind (isNextMaster point) := by
  intro o ho
  unfold isNextMaster isTypeNonLoIoConnection
  rw [ho]
  rfl

/-- The sessions that end with a timeout take nothing along that counts or is looked for. -/
theorem sessions_quiet {sessions : List Nat} (hwf : Wf points s)
    (hu : u = s ∨ closeEncapsulationSessions sessions s = some u) :
    Shrunk 0 s u ∧ ∀ p, Blind p → u.select p = s.select p := by
  rcases hu with rfl | hclosed
  · exact ⟨.refl _, fun _ _ => rfl⟩
  refine hwf.closeEncapsulationSessions
    (P := fun v w => Shrunk 0 v w ∧ ∀ p, Blind p → w.select p = v.select p) ?_ ?_ ?_ hclosed
  · intro v
    exact ⟨.refl v, fun _ _ => rfl⟩
  · rintro v w x ⟨hvw, hselect⟩ ⟨hwx, hselect'⟩
    exact ⟨hvw.trans hwx, fun p hp => (hselect' p hp).trans (hselect p hp)⟩
  · intro v d hexplicit
    exact ⟨explicit_release hexplicit, fun p hp => release_select (hp _ hexplicit) (hp _ rfl)⟩

/-- What a timeout finds when it comes to the socket: as far as the members of an input assembly
and the next master are concerned, what was there before. -/
structure Undisturbed (s : Stack) (c : Slot) (u : Stack) : Prop where
  marked : Shrinks s u
  exact : s.tally.Exact → u.tally.Exact
  members : ∀ type point, type ≠ .explicitMessaging →
    (u.select fun o => o.isMember type point) = s.select fun o => o.isMember type point
  next : (s.connectionData c).isMaster = true →
    (transferMasterConnection c u = none ↔
      getNextNonControlMasterConnection (s.connectionData c).producedPoint s = none)

theorem TimesOut.undisturbed {sessions : List Nat} (hwf : Wf points s) (hc : TimesOut s c)
    (hu : u = (s.notify .timedOut).setState c .timedOut ∨
      closeEncapsulationSessions sessions ((s.notify .timedOut).setState c .timedOut) = some u) :
    Undisturbed s c u := by
  obtain ⟨hshrinks, hspares⟩ := hc.sessions hwf hu
  have hmarked : Shrinks s ((s.notify .timedOut).setState c .timedOut) :=
    ⟨1, .lower (by decide) hc.rank (by decide)⟩
  obtain ⟨hquiet, hselect⟩ := sessions_quiet (hwf.shrinks hmarked) hu
  refine ⟨hshrinks, ?_, ?_, ?_⟩
  · intro hexact
    exact hquiet.tally.exact_zero
      (mark_exact (by decide) (by decide) ⟨hc.io, hc.established⟩ hexact)
  · intro type point htype
    rw [hselect _ (isMember_blind htype), mark_select]
  · intro hmaster
    have hpoint : (u.connectionData c).producedPoint = (s.connectionData c).producedPoint := by
      obtain ⟨b, hb⟩ := hspares
      rw [hb, setState_self]
      rfl
    rw [transferMasterConnection_eq_none, hpoint]
    unfold getNextNonControlMasterConnection
    rw [search_eq_head, search_eq_head, hselect _ isNextMaster_blind, mark_next _ hmaster]

/-- An exclusive owner that nobody takes over from has its dependants closed. -/
theorem dependantsOf_eq
    (howner : (s.connectionData c).instanceType = .ioExclusiveOwner)
    (hno : ¬ ((s.connectionData c).isMaster = true ∧
      (getNextNonControlMasterConnection (s.connectionData c).producedPoint s).isSome = true)) :
    s.dependantsOf c = s.listenersOf c ++
      ((s.select fun o => o.isMember .ioInputOnly (s.connectionData c).producedPoint) ++
        s.select fun o => o.isMember .ioListenOnly (s.connectionData c).producedPoint) := by
  unfold Stack.dependantsOf
  dsimp only
  rw [if_pos ⟨howner, hno⟩]

/-- What `handOver` answers is whether there is a next master. -/
theorem handOver_eq_false {handover : Bool} (hund : Undisturbed s c u)
    (hv : handOver c (s.connectionData c) u = some (handover, v)) : handover = false ↔
      ¬ ((s.connectionData c).isMaster = true ∧
        (getNextNonControlMasterConnection (s.connectionData c).producedPoint s).isSome =
          true) := by
  rcases handOver_cases hv with ⟨hmaster, rfl, htransfer⟩ | ⟨hmaster, rfl, hno, -⟩ |
    ⟨hmaster, rfl, -⟩
  · refine iff_of_false (by decide) (not_not_intro ⟨hmaster, ?_⟩)
    rw [Option.isSome_iff_ne_none]
    intro hnone
    rw [(hund.next hmaster).2 hnone] at htransfer
    cases htransfer
  · refine iff_of_true rfl ?_
    rintro ⟨-, hsome⟩
    rw [(hund.next hmaster).1 hno] at hsome
    cases hsome
  · refine iff_of_true rfl ?_
    rintro ⟨hmaster', -⟩
    rw [hmaster] at hmaster'
    cases hmaster'

/-- With nobody to go with it, a timeout raises one event. -/
theorem handleIoConnectionTimeOut_exact {sessions : List Nat} (hwf : Wf points s)
    (hexact : s.tally.Exact) (hc : TimesOut s c) (hnone : s.dependantsOf c = [])
    (h : handleIoConnectionTimeOut sessions c s = some t) : t.tally.Exact := by
  obtain ⟨u, handover, v, w, hu, hv, hw, rfl⟩ := handleIoConnectionTimeOut_cases h
  have hstate := (hc.dependants hwf hu hv hw).2
  have hund := hc.undisturbed hwf hu
  have hlisteners : s.listenersOf c = [] := (List.append_eq_nil_iff.1 hnone).1
  have huv : Shrunk 0 u v ∧ (handover = false → v = u) := by
    rcases handOver_cases hv with ⟨-, rfl, htransfer⟩ | ⟨hmaster, -, hno, hclosed⟩ | ⟨-, -, rfl⟩
    · exact ⟨transferMasterConnection_shrunk htransfer, fun hfalse => by cases hfalse⟩
    · have hselect := listenersOf_eq hmaster ((hund.next hmaster).1 hno)
      rw [hlisteners] at hselect
      have hmembers := hund.members .ioListenOnly (s.connectionData c).producedPoint (by decide)
      obtain rfl := closeListeners_none (hmembers.trans hselect.symm) hclosed
      exact ⟨.refl _, fun _ => rfl⟩
    · exact ⟨.refl _, fun _ => rfl⟩
  have hvw : w = v := by
    rcases hw with ⟨howner, hfalse, hclosed⟩ | ⟨-, rfl⟩
    · obtain rfl := huv.2 hfalse
      rw [dependantsOf_eq howner ((handOver_eq_false hund hv).1 hfalse), hlisteners,
        List.nil_append, List.append_eq_nil_iff] at hnone
      exact closeDependants_none ((hund.members _ _ (by decide)).trans hnone.1)
        ((hund.members _ _ (by decide)).trans hnone.2) hclosed
    · rfl
  subst hvw
  exact (Shrunk.settled hstate).tally.exact_zero (huv.1.tally.exact_zero (hund.exact hexact))

/-- With nothing else established but its dependants, a timeout leaves none. -/
theorem handleIoConnectionTimeOut_none {sessions : List Nat} (hwf : Wf points s)
    (hc : TimesOut s c) (honly : s.NoneBut c (s.dependantsOf c))
    (h : handleIoConnectionTimeOut sessions c s = some t) : t.ioEstablished = ∅ := by
  obtain ⟨hshrinks, hself⟩ := handleIoConnectionTimeOut_shrinks hwf hc h
  refine none_established hshrinks fun d hd => ?_
  by_cases hdc : d = c
  · subst hdc
    rw [hself]
    exact ConnectionState.noConfusion
  obtain ⟨u, handover, v, w, hu, hv, hw, rfl⟩ := handleIoConnectionTimeOut_cases h
  have hund := hc.undisturbed hwf hu
  have hsv : Shrinks s v := hund.marked.trans (closing_shrinks.handOver hv)
  have hvw : Shrinks v w := by
    rcases hw with ⟨-, -, hclosed⟩ | ⟨-, rfl⟩
    · exact closing_shrinks.closeDependants hclosed
    · exact .refl _
  have hgone : (w.connectionData d).state = .nonExistent := by
    have hdependant := (honly d hd).resolve_left hdc
    unfold Stack.dependantsOf at hdependant
    dsimp only at hdependant
    rcases List.mem_append.1 hdependant with hlistener | hother
    · -- a listener, closed where the socket is not handed over
      unfold Stack.listenersOf at hlistener
      dsimp only at hlistener
      split at hlistener
      swap
      · cases hlistener
      rename_i hlast
      have hno := (hund.next hlast.1).2 hlast.2
      rcases handOver_cases hv with ⟨-, -, htransfer⟩ | ⟨-, -, -, hclosed⟩ | ⟨hmaster, -, -⟩
      · rw [hno] at htransfer
        cases htransfer
      · exact hvw.gone (closeListeners_gone hund.marked hlistener hclosed)
      · rw [hlast.1] at hmaster
        cases hmaster
    · -- closed with the exclusive owner
      split at hother
      swap
      · cases hother
      rename_i howner
      have hfalse := (handOver_eq_false hund hv).2 howner.2
      rcases hw with ⟨-, -, hclosed⟩ | ⟨hnot, -⟩
      · exact closeDependants_gone hsv hother hclosed
      · exact absurd ⟨howner.1, hfalse⟩ hnot
  rw [setState_of_ne hdc, hgone]
  exact ConnectionState.noConfusion

/-- **An even timeout** keeps the counter right. -/
theorem Stack.TimesOutEvenly.exact {sessions : List Nat} (heven : s.TimesOutEvenly c)
    (hwf : Wf points s) (hexact : s.tally.Exact)
    (hstate : (s.connectionData c).state = .established)
    (h : connectionTimeoutFunction sessions c s = some t) : t.tally.Exact := by
  have hbounded : t.tally.Bounded := by
    obtain ⟨k, hk⟩ := connectionTimeoutFunction_shrinks hwf hstate h
    exact hk.tally.bounded hexact.bounded
  by_cases hexplicit : (s.connectionData c).instanceType = .explicitMessaging
  · unfold connectionTimeoutFunction at h
    rw [hexplicit] at h
    obtain rfl := Option.some.inj h
    exact (explicit_release hexplicit).tally.exact_zero hexact
  have hio := isTypeIoConnection_of hexplicit
  have htimeout : handleIoConnectionTimeOut sessions c s = some t := by
    unfold connectionTimeoutFunction at h
    split at h
    · rename_i htype
      exact absurd htype hexplicit
    · exact h
    · exact h
    · exact h
  rcases heven hio with hnone | honly
  · exact handleIoConnectionTimeOut_exact hwf hexact ⟨hio, hstate⟩ hnone htimeout
  · exact Tally.exact_of_empty hbounded
      (handleIoConnectionTimeOut_none hwf ⟨hio, hstate⟩ honly htimeout)

/-! ## 7. Every run -/

theorem Admits.bounded (h : Admits s t) (hs : s.tally.Bounded) : t.tally.Bounded := by
  rcases h with hsame | ⟨c, hgained⟩
  · rw [hsame]
    exact hs
  · exact hgained.bounded hs

theorem Admits.exact (h : Admits s t) (hs : s.tally.Exact) : t.tally.Exact := by
  rcases h with hsame | ⟨c, hgained⟩
  · rw [hsame]
    exact hs
  · exact hgained.exact hs

theorem Wf.step_bounded {e : Event} (hwf : Wf points s) (hbounded : s.tally.Bounded)
    (h : stackStep points s e = some t) : Wf points t ∧ t.tally.Bounded := by
  obtain ⟨hwf', u, ⟨k, hk⟩, hadmits⟩ := hwf.step h
  exact ⟨hwf', hadmits.bounded (hk.tally.bounded hbounded)⟩

/-- **The counter is never too high**, whatever happens. -/
theorem count_le_established (h : Reach (stackStep points) Stack.init s) :
    s.application.activeIoConnections ≤ s.ioEstablished.card := by
  have hinv : Wf points s ∧ s.tally.Bounded := by
    refine h.invariant (P := fun s => Wf points s ∧ s.tally.Bounded) ?_ ⟨.init, Nat.zero_le _⟩
    rintro u e v ⟨hwf, hbounded⟩ - hs
    exact hwf.step_bounded hbounded hs
  exact hinv.2

/-- So it does not wrap around. -/
theorem count_lt (h : Reach (stackStep points) Stack.init s) :
    s.application.activeIoConnections < 0x100000000 := by
  have hcard : s.ioEstablished.card ≤ Fintype.card Slot := Finset.card_le_univ _
  have hslots : Fintype.card Slot < 0x100000000 := by decide
  exact ((count_le_established h).trans hcard).trans_lt hslots

/-- **One balanced event.** -/
theorem Balanced.exact {e : Event} (hwf : Wf points s) (hexact : s.tally.Exact)
    (hbal : Balanced points s e) (h : stackStep points s e = some t) : t.tally.Exact := by
  cases e with
  | forwardOpen r =>
    obtain ⟨⟨reply, v⟩, hv, rfl⟩ := Option.map_eq_some_iff.1 h
    obtain ⟨-, u, hadmits, hu⟩ := hwf.forwardOpen hv
    refine hadmits.exact ?_
    rcases hu with rfl | ⟨c, hreopens, hclosed⟩
    · exact hexact
    · exact (hbal c hreopens).exact hexact hclosed
  | forwardClose r =>
    obtain ⟨⟨status, v⟩, hv, rfl⟩ := Option.map_eq_some_iff.1 h
    rcases forwardClose_cases hv with hsame | ⟨c, u, htarget, haddress, hclosed, hsame⟩
    · exact hsame.tally.exact_zero hexact
    · exact hsame.tally.exact_zero ((hbal c htarget haddress).exact hexact hclosed)
  | manageConnection c elapsedTime sessions =>
    rw [stackStep] at h
    split at h
    swap
    · cases h
    rcases manageConnection_cases h with ⟨hexpired, n, htimeout⟩ | ⟨-, hquiet⟩
    · have heven : Stack.TimesOutEvenly c { s with statistics := n } := hbal hexpired
      exact heven.exact ⟨hwf.listed, hwf.owner, hwf.class3⟩ hexact
        (expired_established hexpired) htimeout
    · exact hquiet.tally.exact_zero hexact
  | receivedConnectedData c fresh =>
    obtain rfl := Option.some.inj h
    exact (handleReceivedConnectedData_shrunk c fresh s).tally.exact_zero hexact
  | closeSession session =>
    rcases hwf.closeClass3 h with rfl | ⟨c, hexplicit, rfl⟩
    · exact hexact
    · exact (explicit_release hexplicit).tally.exact_zero hexact
  | closeAllConnections =>
    obtain ⟨k, hk⟩ := closing_shrinks.closeEach h
    exact Tally.exact_of_empty (hk.tally.bounded hexact.bounded) (closeAllConnections_none hwf h)
  | linkUp =>
    obtain rfl := Option.some.inj h
    exact hexact
  | linkDown =>
    obtain rfl := Option.some.inj h
    exact Tally.exact_of_empty (Nat.zero_le _) hbal

/-- **The count of the I/O connections** is right in every run of balanced events. -/
theorem io_count (points : ConnectionPoints) {s : Stack}
    (h : Run (stackStep points) (Balanced points) Stack.init s) :
    s.application.activeIoConnections = s.ioEstablished.card := by
  have hinv : Wf points s ∧ s.tally.Exact := by
    refine h.invariant (P := fun s => Wf points s ∧ s.tally.Exact) ?_ ⟨.init, ?_⟩
    · rintro u e v ⟨hwf, hexact⟩ hbal hs
      exact ⟨(hwf.step hs).1, hbal.exact hwf hexact hs⟩
    · rfl
  exact hinv.2

/-! ## 8. Where it goes wrong -/

instance Stack.NoneBut.decidable (c : Slot) (cs : List Slot) (s : Stack) :
    Decidable (s.NoneBut c cs) :=
  inferInstanceAs (Decidable (∀ d ∈ s.ioEstablished, d = c ∨ d ∈ cs))

instance Stack.ClosesEvenly.decidable (c : Slot) (s : Stack) : Decidable (s.ClosesEvenly c) :=
  inferInstanceAs (Decidable (_ → _ ∨ _))

instance Stack.TimesOutEvenly.decidable (c : Slot) (s : Stack) : Decidable (s.TimesOutEvenly c) :=
  inferInstanceAs (Decidable (_ → _ ∨ _))

instance Balanced.decidable (points : ConnectionPoints) (s : Stack) :
    ∀ e, Decidable (Balanced points s e)
  | .forwardOpen r => inferInstanceAs (Decidable (∀ c, r.reopens points s = some c → _))
  | .forwardClose r => inferInstanceAs (Decidable (∀ c, r.target s = some c → _ → _))
  | .manageConnection _ _ _ => inferInstanceAs (Decidable (_ → Stack.TimesOutEvenly _ _))
  | .linkDown => inferInstanceAs (Decidable (s.ioEstablished = ∅))
  | .receivedConnectedData _ _ | .closeSession _ | .closeAllConnections | .linkUp =>
    inferInstanceAs (Decidable True)

/-- Points of their own for each kind of connection. -/
def benchPoints : ConnectionPoints := ⟨⟨150, 100, 151⟩, ⟨152, 100, 151⟩, ⟨153, 100, 151⟩⟩

/-- A Forward Open of originator `serial` for a multicast connection. -/
def benchOpen (serial output : Nat) : ForwardOpenRequest where
  connection := { ConnectionObject.empty with
    connectionSerialNumber := serial
    originatorVendorId := 1
    originatorSerialNumber := serial
    originatorAddress := 0x0A000002
    consumedPoint := output
    producedPoint := 100
    configurationPoint := 151
    oToTConnectionType := .pointToPoint
    tToOConnectionType := .multicast
    regularTimeout := 400
    inactivityWatchdogTimer := 10000 }
  onSubnet := true
  triggerValid := true
  pathError := none
  classId := kCipAssemblyClassCode
  setupError := none

def benchClose (serial : Nat) : ForwardCloseRequest := ⟨serial, 1, serial, 0x0A000002⟩

/-- Two input only connections.  The first times out, and hands over to the second, which is closed;
then the first is opened again. -/
def benchHandOver : List Event :=
  [.forwardOpen (benchOpen 1 152), .forwardOpen (benchOpen 2 152),
    .receivedConnectedData (.inputOnly 1) true, .manageConnection (.inputOnly 1) 100 [],
    .manageConnection (.inputOnly 0) 10000 [], .forwardClose (benchClose 2),
    .forwardOpen (benchOpen 1 152)]

/-- The counter along such a run. -/
theorem io_count_hand_over : ∃ s, exec (stackStep benchPoints) Stack.init benchHandOver = some s ∧
    s.application.activeIoConnections = s.ioEstablished.card ∧
    s.ioEstablished = {Slot.inputOnly 0} := by
  have hsome : (exec (stackStep benchPoints) Stack.init benchHandOver).isSome = true := by
    decide +kernel
  obtain ⟨s, hs⟩ := Option.isSome_iff_exists.1 hsome
  have hmeets : execMeets (stackStep benchPoints) (Balanced benchPoints) Stack.init
      benchHandOver := by
    decide +kernel
  have hlast : (exec (stackStep benchPoints) Stack.init benchHandOver).map Stack.ioEstablished =
      some {Slot.inputOnly 0} := by
    decide +kernel
  rw [hs] at hlast
  exact ⟨s, hs, io_count benchPoints (exec_run hmeets hs), Option.some.inj hlast⟩

/-- The exclusive owner of the device's own points is connected when the link goes down. -/
def benchLinkDown : List Event := [.forwardOpen (benchOpen 1 150), .linkDown]

/-- Two input only connections.  The first times out, and is closed by its originator. -/
def benchClosedLate : List Event :=
  [.forwardOpen (benchOpen 1 152), .forwardOpen (benchOpen 2 152),
    .manageConnection (.inputOnly 0) 10000 [], .forwardClose (benchClose 1)]

/-- **The counter is zero while a connection is established**: after a link-down, and after a
connection was counted out twice. -/
theorem count_lost :
    (∃ s, Reach (stackStep configured) Stack.init s ∧
        s.application.activeIoConnections = 0 ∧ s.ioEstablished = {Slot.exclusiveOwner} ∧
        s.application.activeIoConnections ≠ s.ioEstablished.card) ∧
      ∃ s, Reach (stackStep benchPoints) Stack.init s ∧
        s.application.activeIoConnections = 0 ∧ s.ioEstablished = {Slot.inputOnly 1} ∧
        s.application.activeIoConnections ≠ s.ioEstablished.card := by
  have hread : ∀ (points : ConnectionPoints) (es : List Event) (c : Slot),
      (exec (stackStep points) Stack.init es).map
        (fun s => (s.application.activeIoConnections, s.ioEstablished)) = some (0, {c}) →
      ∃ s, Reach (stackStep points) Stack.init s ∧
        s.application.activeIoConnections = 0 ∧ s.ioEstablished = {c} ∧
        s.application.activeIoConnections ≠ s.ioEstablished.card := by
    intro points es c hrun
    obtain ⟨s, hs, heq⟩ := Option.map_eq_some_iff.1 hrun
    obtain ⟨hcount, hmembers⟩ := Prod.mk.injEq .. ▸ heq
    refine ⟨s, exec_reach hs, hcount, hmembers, ?_⟩
    rw [hcount, hmembers]
    exact Nat.zero_ne_one
  exact ⟨hread configured benchLinkDown _ (by decide +kernel),
    hread benchPoints benchClosedLate _ (by decide +kernel)⟩

end GroundTruth.Cip
