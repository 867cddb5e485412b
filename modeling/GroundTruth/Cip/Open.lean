/-
# What opening a connection can do

A Forward Open that gets past the checks finds a slot, which it may have to clear first, drafts the
new connection there, opens its channels, and puts it into the list.  Until the last of these
nothing that the application counts has changed.

* `Wf.chooseIoConnection`: the slot that is found is free, or is made so;
* `Wf.addNewActive`: the draft becomes a connection;
* `Wf.forwardOpen`: at most one connection is closed for it, and at most one is opened;
* `Wf.step`: so every event takes connections down, and then opens one at most.
-/
import GroundTruth.Cip.Frame

namespace GroundTruth.Cip

open GroundTruth.Lib

variable {s t u : Stack} {c d : Slot} {o o' : ConnectionObject} {points : ConnectionPoints}

/-! ## 1. Drafts -/

/-- Only producing sockets were moved about. -/
theorem tally_of_spares (happ : t.application = s.application) (h : ∀ d, Spares d s t) :
    t.tally = s.tally := by
  have hmembers : t.ioEstablished = s.ioEstablished := by
    ext d
    obtain ⟨b, hb⟩ := h d
    rw [mem_ioEstablished, mem_ioEstablished, hb]
    exact Iff.rfl
  rw [Stack.tally, Stack.tally, hmembers, happ]

theorem Shrunk.of_spares (hlist : t.connectionList = s.connectionList)
    (happ : t.application = s.application) (h : ∀ d, Spares d s t) : Shrunk 0 s t := by
  refine ⟨?_, ?_, fun d hd => Or.inl (hlist ▸ hd)⟩
  · rw [tally_of_spares happ h]
    exact .refl _
  · intro d
    obtain ⟨b, hb⟩ := h d
    rw [hb]
    exact .producing _ b

theorem Spares.set_producing (b : Bool) :
    Spares d s (s.set c { s.connectionData c with producing := b }) := by
  by_cases hd : d = c
  · subst hd
    exact ⟨b, set_self⟩
  · exact .of_ne hd

theorem openCommunicationChannels_spec (c : Slot) (s : Stack) :
    (openCommunicationChannels c s).connectionList = s.connectionList ∧
      (openCommunicationChannels c s).application = s.application ∧
      ∀ d, Spares d s (openCommunicationChannels c s) := by
  unfold openCommunicationChannels
  split
  · unfold openProducingMulticastConnection
    dsimp only
    split
    · exact ⟨rfl, rfl, fun _ => .set_producing _⟩
    · rename_i existing _
      split
      · refine ⟨rfl, rfl, ?_⟩
        intro d
        by_cases hd : d = existing
        · subst hd
          exact ⟨false, set_self⟩
        · have hfirst := Spares.set_producing (s := s) (d := d) (c := c)
            (s.connectionData existing).producing
          exact hfirst.trans (.of_ne hd)
      · exact ⟨rfl, rfl, fun _ => .set_producing _⟩
  · exact ⟨rfl, rfl, fun _ => .set_producing _⟩
  · exact ⟨rfl, rfl, fun d => .refl d s⟩
  · exact ⟨rfl, rfl, fun d => .refl d s⟩

/-- A slot of one of the I/O pools. -/
def Slot.Io (c : Slot) : Prop := c.instanceType ≠ .explicitMessaging

/-- The slot holds the draft of a connection. -/
structure Drafted (points : ConnectionPoints) (c : Slot) (s : Stack) : Prop where
  state : (s.connectionData c).state = .nonExistent
  type : (s.connectionData c).instanceType = c.instanceType
  owner : c = .exclusiveOwner →
    (s.connectionData c).producedPoint = points.exclusiveOwner.inputAssembly
  class3 : (s.connectionData c).transportClass3 = true → c.instanceType = .explicitMessaging

theorem Drafted.spares (h : Drafted points c s) (hst : Spares c s t) : Drafted points c t := by
  obtain ⟨b, hb⟩ := hst
  refine ⟨?_, ?_, ?_, ?_⟩
  · rw [hb]
    exact h.state
  · rw [hb]
    exact h.type
  · intro hc
    rw [hb]
    exact h.owner hc
  · intro hclass
    rw [hb] at hclass
    exact h.class3 hclass

/-- Writing a draft into a free slot changes nothing that counts. -/
theorem Wf.draft (hwf : Wf points s) (hfree : (s.connectionData c).state = .nonExistent)
    (hd : Drafted points c (s.set c o)) :
    Wf points (s.set c o) ∧ (s.set c o).tally = s.tally := by
  have hstate : o.state = .nonExistent := by
    have := hd.state
    rwa [set_self] at this
  have hexists : ∀ d, ((s.set c o).connectionData d).state ≠ .nonExistent → d ≠ c := by
    rintro d hdne rfl
    rw [set_self] at hdne
    exact hdne hstate
  refine ⟨⟨?_, ?_, ?_⟩, ?_⟩
  · intro d hdne
    have hdc := hexists d hdne
    rw [set_of_ne hdc] at hdne
    exact hwf.listed d hdne
  · intro hne
    have hdc := hexists _ hne
    rw [set_of_ne hdc] at hne ⊢
    exact hwf.owner hne
  · intro d hclass
    by_cases hdc : d = c
    · subst hdc
      rw [hd.type]
      exact hd.class3 hclass
    · rw [set_of_ne hdc] at hclass ⊢
      exact hwf.class3 d hclass
  · rw [Stack.tally, ioEstablished_set_of_iff]
    · rfl
    · refine iff_of_false (not_ioEstablished_of_state ?_) (not_ioEstablished_of_state ?_)
      · rw [hstate]
        exact ConnectionState.noConfusion
      · rw [hfree]
        exact ConnectionState.noConfusion

/-- **`AddNewActiveConnection`** puts the draft into the list and establishes it. -/
theorem Wf.addNewActive (hwf : Wf points s) (hd : Drafted points c s)
    (h : addNewActiveConnection c s = some t) :
    Wf points t ∧ t.application = s.application ∧ c ∉ s.ioEstablished ∧
      (c.Io → t.ioEstablished = insert c s.ioEstablished) ∧
      (¬ c.Io → t.ioEstablished = s.ioEstablished) := by
  unfold addNewActiveConnection at h
  split at h
  swap
  · cases h
  obtain rfl := Option.some.inj h
  have hfresh : ¬ (s.connectionData c).IoEstablished := by
    refine not_ioEstablished_of_state ?_
    rw [hd.state]
    exact ConnectionState.noConfusion
  refine ⟨⟨?_, ?_, ?_⟩, rfl, fun hmem => hfresh (mem_ioEstablished.1 hmem), ?_, ?_⟩
  · intro d hdne
    by_cases hdc : d = c
    · subst hdc
      exact List.mem_cons_self
    · rw [setState_of_ne hdc] at hdne
      exact List.mem_cons_of_mem c (hwf.listed d hdne)
  · intro hne
    by_cases hdc : Slot.exclusiveOwner = c
    · subst hdc
      rw [setState_self]
      exact ⟨hd.type, hd.owner rfl⟩
    · rw [setState_of_ne hdc] at hne ⊢
      exact hwf.owner hne
  · intro d hclass
    by_cases hdc : d = c
    · subst hdc
      rw [setState_self] at hclass ⊢
      exact hd.type.trans (hd.class3 hclass)
    · rw [setState_of_ne hdc] at hclass ⊢
      exact hwf.class3 d hclass
  · intro hio
    rw [Stack.setState, ioEstablished_set, if_pos]
    · rfl
    · refine ⟨?_, rfl⟩
      show isTypeIoConnection (s.connectionData c) = true
      unfold isTypeIoConnection
      rw [hd.type]
      cases c with
      | explicit i => exact absurd rfl hio
      | exclusiveOwner => rfl
      | inputOnly j => rfl
      | listenOnly j => rfl
  · intro hio
    refine ioEstablished_set_of_iff (iff_of_false ?_ hfresh)
    rintro ⟨htype, -⟩
    have htype' : isTypeIoConnection (s.connectionData c) = true := htype
    unfold isTypeIoConnection at htype'
    rw [hd.type, of_not_not hio] at htype'
    cases htype'

/-! ## 2. Forward Open -/

/-- A slot that a search may come to for the request. -/
structure Fits (points : ConnectionPoints) (o : ConnectionObject) (c : Slot) : Prop where
  io : c.Io
  owner : c = .exclusiveOwner → o.producedPoint = points.exclusiveOwner.inputAssembly

/-- What the search may come to: a slot that is taken is free, and any slot that is given fits. -/
def Choice.Good (points : ConnectionPoints) (o : ConnectionObject) (s : Stack) : Choice → Prop
  | .take c => Fits points o c ∧ (s.connectionData c).state = .nonExistent
  | .reopen c => Fits points o c
  | .refuse _ => True

theorem Choice.Good.orElse {a b : Choice} (ha : a.Good points o s) (hb : b.Good points o s) :
    (a.orElse b).Good points o s := by
  unfold Choice.orElse
  split
  · exact hb
  · exact ha

/-- The slot of the owner exists in no state but in the list, where it is looked for. -/
theorem Wf.owner_free (hwf : Wf points s)
    (h : getConnectedOutputAssembly points.exclusiveOwner.inputAssembly s = none) :
    (s.connectionData .exclusiveOwner).state = .nonExistent := by
  by_contra hne
  obtain ⟨htype, hpoint⟩ := hwf.owner hne
  have hnot := List.find?_eq_none.1 h _ (hwf.listed _ hne)
  refine hnot (decide_eq_true ⟨htype, ?_, hpoint.symm⟩)
  cases hstate : (s.connectionData Slot.exclusiveOwner).state with
  | nonExistent => exact absurd hstate hne
  | established => exact Or.inl rfl
  | timedOut => exact Or.inr rfl

theorem Wf.getExclusiveOwnerConnection (hwf : Wf points s) :
    (Cip.getExclusiveOwnerConnection points.exclusiveOwner o s).Good points o s := by
  unfold Cip.getExclusiveOwnerConnection
  split
  swap
  · trivial
  rename_i hpath
  have hfits : Fits points o .exclusiveOwner :=
    ⟨InstanceType.noConfusion, fun _ => hpath.2.1.symm⟩
  split
  · rename_i hnone
    rw [← hpath.2.1] at hnone
    exact ⟨hfits, hwf.owner_free hnone⟩
  · split
    · trivial
    · split
      · exact hfits
      · trivial

theorem getPoolConnection_good {path : ConnectionPath} {pool : List Slot}
    {unavailable : Option ExtendedStatus} (hpool : ∀ c ∈ pool, Fits points o c) :
    (getPoolConnection path pool unavailable o s).Good points o s := by
  unfold getPoolConnection
  split
  · trivial
  split
  · trivial
  split
  · trivial
  split
  · trivial
  split
  · rename_i c hfound
    exact hpool c (List.mem_of_find?_eq_some hfound)
  split
  · rename_i c hfound
    have hfree := List.find?_some hfound
    exact ⟨hpool c (List.mem_of_find?_eq_some hfound), of_decide_eq_true hfree⟩
  · trivial

theorem inputOnlyPool_fits (h : c ∈ inputOnlyPool) : Fits points o c := by
  obtain ⟨j, -, rfl⟩ := List.mem_map.1 h
  exact ⟨InstanceType.noConfusion, Slot.noConfusion⟩

theorem listenOnlyPool_fits (h : c ∈ listenOnlyPool) : Fits points o c := by
  obtain ⟨j, -, rfl⟩ := List.mem_map.1 h
  exact ⟨InstanceType.noConfusion, Slot.noConfusion⟩

/-- **The search for a slot.** -/
theorem Wf.chooseIoConnection (hwf : Wf points s) :
    (Cip.chooseIoConnection points o s).Good points o s := by
  refine hwf.getExclusiveOwnerConnection.orElse ?_
  refine Choice.Good.orElse (getPoolConnection_good fun c => inputOnlyPool_fits) ?_
  refine Choice.Good.orElse (getPoolConnection_good fun c => listenOnlyPool_fits) ?_
  trivial

/-- The copy of a request is a draft. -/
theorem Fits.drafted (h : Fits points o c) (hclass : o.transportClass3 = false) :
    Drafted points c (s.set c (o.copyTo c)) := by
  refine ⟨?_, ?_, ?_, ?_⟩
  · rw [set_self]
    rfl
  · rw [set_self]
    rfl
  · intro hc
    rw [set_self]
    exact h.owner hc
  · intro htrue
    rw [set_self] at htrue
    exact absurd (htrue.symm.trans hclass) (by decide)

/-- **`GetIoConnectionForConnectionData`** may close a connection that has timed out, and then
drafts the new one. -/
theorem Wf.getIoConnection (hwf : Wf points s) (hclass : o.transportClass3 = false)
    {slot : Except ExtendedStatus Slot}
    (h : getIoConnectionForConnectionData points o s = some (slot, t)) :
    (∃ error, slot = .error error ∧ t = s) ∨
      ∃ c u, slot = .ok c ∧ c.Io ∧ Drafted points c t ∧ Wf points t ∧ t.tally = u.tally ∧
        (u = s ∧ Cip.chooseIoConnection points o s = .take c ∨
          Cip.chooseIoConnection points o s = .reopen c ∧ connectionCloseFunction c s = some u) := by
  have hgood := hwf.chooseIoConnection (o := o)
  unfold getIoConnectionForConnectionData at h
  cases hchoice : Cip.chooseIoConnection points o s with
  | take c =>
    rw [hchoice] at h hgood
    cases h
    have hdraft := hgood.1.drafted (s := s) hclass
    obtain ⟨hwf', htally⟩ := hwf.draft hgood.2 hdraft
    exact Or.inr ⟨c, s, rfl, hgood.1.io, hdraft, hwf', htally, Or.inl ⟨rfl, rfl⟩⟩
  | reopen c =>
    rw [hchoice] at h hgood
    obtain ⟨u, hu, heq⟩ := Option.map_eq_some_iff.1 h
    cases heq
    have hshrinks : Shrinks s u := closing_shrinks.connectionCloseFunction hu
    have hempty := connectionCloseFunction_empty hu
    have hdraft := Fits.drafted (s := u) hgood hclass
    obtain ⟨hwf', htally⟩ := (hwf.shrinks hshrinks).draft (congrArg _ hempty) hdraft
    exact Or.inr ⟨c, u, rfl, Fits.io hgood, hdraft, hwf', htally, Or.inr ⟨rfl, hu⟩⟩
  | refuse error =>
    rw [hchoice] at h
    cases h
    exact Or.inl ⟨error, rfl, rfl⟩

/-- The connection that a Forward Open closes to open another one in its place. -/
def ForwardOpenRequest.reopens (points : ConnectionPoints) (r : ForwardOpenRequest) (s : Stack) :
    Option Slot :=
  if refusal r s = none ∧ r.classId = kCipAssemblyClassCode then
    match chooseIoConnection points r.connection s with
    | .reopen c => some c
    | .take _ | .refuse _ => none
  else none

/-- What an opening makes of a state: no more than one new connection. -/
def Admits (s t : Stack) : Prop := t.tally = s.tally ∨ ∃ c, s.tally.Gained c t.tally

theorem Wf.establishIoConnection (hwf : Wf points s) {r : ForwardOpenRequest} {reply : Reply}
    (hclass : r.connection.transportClass3 = false)
    (h : Cip.establishIoConnection points r s = some (reply, t)) :
    Wf points t ∧ ∃ u, Admits u t ∧
      (u = s ∨ ∃ c, Cip.chooseIoConnection points r.connection s = .reopen c ∧
        connectionCloseFunction c s = some u) := by
  obtain ⟨⟨slot, v⟩, hv, hrest⟩ := Option.bind_eq_some_iff.1 h
  rcases hwf.getIoConnection hclass hv with ⟨error, rfl, rfl⟩ |
    ⟨c, u, rfl, hio, hdraft, hwfv, htally, hu⟩
  · cases hrest
    exact ⟨hwf, _, Or.inl rfl, Or.inl rfl⟩
  have hfrom : u = s ∨ ∃ c, Cip.chooseIoConnection points r.connection s = .reopen c ∧
      connectionCloseFunction c s = some u := by
    rcases hu with ⟨rfl, -⟩ | ⟨hchoice, hclosed⟩
    · exact Or.inl rfl
    · exact Or.inr ⟨c, hchoice, hclosed⟩
  dsimp only at hrest
  split at hrest
  · cases hrest
    exact ⟨hwfv, u, Or.inl htally, hfrom⟩
  obtain ⟨x, hx, heq⟩ := Option.map_eq_some_iff.1 hrest
  cases heq
  -- the draft is configured, and the channels are opened
  have hconfigured : Drafted points c (v.set c (v.connectionData c).configure) := by
    refine ⟨?_, ?_, ?_, ?_⟩
    · rw [set_self]
      exact hdraft.state
    · rw [set_self]
      exact hdraft.type
    · intro hc
      rw [set_self]
      exact hdraft.owner hc
    · intro hc
      rw [set_self] at hc
      exact hdraft.class3 hc
  obtain ⟨hwfc, htallyc⟩ := hwfv.draft hdraft.state hconfigured
  obtain ⟨hlist, happ, hspares⟩ :=
    openCommunicationChannels_spec c (v.set c (v.connectionData c).configure)
  have hwfo := hwfc.shrinks ⟨0, .of_spares hlist happ hspares⟩
  obtain ⟨hwfx, happx, hfresh, hmembers, -⟩ :=
    hwfo.addNewActive (hconfigured.spares (hspares c)) hx
  have htallyo : (openCommunicationChannels c (v.set c (v.connectionData c).configure)).tally =
      u.tally := (tally_of_spares happ hspares).trans (htallyc.trans htally)
  refine ⟨⟨hwfx.listed, hwfx.owner, hwfx.class3⟩, u, Or.inr ⟨c, ?_, ?_, ?_⟩, hfrom⟩
  · show (checkIoConnectionEvent x.application .opened).activeIoConnections = u.tally.count + 1
    rw [opened_active, happx, ← htallyo]
    rfl
  · rw [← htallyo]
    exact hfresh
  · rw [← htallyo]
    exact hmembers hio

theorem Wf.establishClass3Connection (hwf : Wf points s) {reply : Reply}
    (h : Cip.establishClass3Connection o s = some (reply, t)) :
    Wf points t ∧ t.tally = s.tally := by
  unfold Cip.establishClass3Connection at h
  split at h
  · cases h
    exact ⟨hwf, rfl⟩
  rename_i c hfound
  obtain ⟨x, hx, heq⟩ := Option.map_eq_some_iff.1 h
  cases heq
  have hfree := List.find?_some hfound
  obtain ⟨i, -, rfl⟩ := List.mem_map.1 (List.mem_of_find?_eq_some hfound)
  have hdraft : Drafted points (.explicit i) (s.set (.explicit i)
      { o.copyTo (.explicit i) with consuming := false, producing := false }) := by
    refine ⟨?_, ?_, ?_, fun _ => rfl⟩
    · rw [set_self]
      rfl
    · rw [set_self]
      rfl
    · exact fun hc => Slot.noConfusion hc
  obtain ⟨hwfd, htally⟩ := hwf.draft (of_decide_eq_true hfree) hdraft
  obtain ⟨hwfx, happ, -, -, hmembers⟩ := hwfd.addNewActive hdraft hx
  refine ⟨hwfx, ?_⟩
  rw [← htally, Stack.tally, Stack.tally, hmembers (fun hio => hio rfl), happ]

theorem refusal_path {r : ForwardOpenRequest} (h : refusal r s = none) :
    parseConnectionPath r = none := by
  unfold refusal at h
  dsimp only at h
  split at h
  · cases h
  split at h
  · cases h
  split at h
  · cases h
  split at h
  · cases h
  split at h
  · cases h
  split at h
  · cases h
  · exact h

/-- A request that gets past the checks for an I/O connection is not class 3. -/
theorem refusal_class3 {r : ForwardOpenRequest} (h : refusal r s = none)
    (hassembly : r.classId = kCipAssemblyClassCode) : r.connection.transportClass3 = false := by
  have hpath := refusal_path h
  unfold parseConnectionPath at hpath
  split at hpath
  · cases hpath
  split at hpath
  · cases hpath
  · rename_i hnot
    refine Bool.eq_false_iff.2 fun htrue => hnot ⟨htrue, ?_⟩
    rw [hassembly]
    decide

/-- **`ForwardOpen`.** -/
theorem Wf.forwardOpen (hwf : Wf points s) {r : ForwardOpenRequest} {reply : Reply}
    (h : Cip.forwardOpen points r s = some (reply, t)) :
    Wf points t ∧ ∃ u, Admits u t ∧
      (u = s ∨ ∃ c, r.reopens points s = some c ∧ connectionCloseFunction c s = some u) := by
  unfold Cip.forwardOpen at h
  split at h
  · cases h
    exact ⟨hwf, s, Or.inl rfl, Or.inl rfl⟩
  rename_i hrefusal
  obtain ⟨⟨reply', x⟩, hx, heq⟩ := Option.map_eq_some_iff.1 h
  cases heq
  unfold openConnectionFunction at hx
  split at hx
  · obtain ⟨hwfx, htally⟩ := hwf.establishClass3Connection hx
    exact ⟨⟨hwfx.listed, hwfx.owner, hwfx.class3⟩, s, Or.inl htally, Or.inl rfl⟩
  split at hx
  · rename_i hassembly
    obtain ⟨hwfx, u, hadmits, hu⟩ :=
      hwf.establishIoConnection (refusal_class3 hrefusal hassembly) hx
    refine ⟨⟨hwfx.listed, hwfx.owner, hwfx.class3⟩, u, hadmits, ?_⟩
    rcases hu with rfl | ⟨c, hchoice, hclosed⟩
    · exact Or.inl rfl
    · refine Or.inr ⟨c, ?_, hclosed⟩
      unfold ForwardOpenRequest.reopens
      rw [if_pos ⟨hrefusal, hassembly⟩, hchoice]
  · cases hx
    exact ⟨⟨hwf.listed, hwf.owner, hwf.class3⟩, s, Or.inl rfl, Or.inl rfl⟩

/-! ## 3. One event -/

/-- Nothing that counts has changed. -/
theorem Shrunk.of_eq (hdata : t.connectionData = s.connectionData)
    (hlist : t.connectionList = s.connectionList)
    (happ : t.application.activeIoConnections = s.application.activeIoConnections) :
    Shrunk 0 s t := by
  have hmembers : t.ioEstablished = s.ioEstablished := by
    rw [Stack.ioEstablished, hdata]
    rfl
  refine ⟨⟨happ, ?_, ?_⟩, ?_, ?_⟩
  · exact Finset.subset_of_eq hmembers
  · exact Nat.le_of_eq (congrArg Finset.card hmembers.symm)
  · intro d
    rw [hdata]
    exact .refl _
  · intro d hd
    exact Or.inl (hlist ▸ hd)

/-- A link-down forgets whatever was counted. -/
theorem linkDown_shrinks (s : Stack) :
    Shrinks s { s with application := notifyLinkDown s.application } := by
  refine ⟨s.application.activeIoConnections + s.ioEstablished.card, ⟨?_, ?_, ?_⟩, ?_, ?_⟩
  · show 0 = s.application.activeIoConnections -
      (s.application.activeIoConnections + s.ioEstablished.card)
    omega
  · exact Finset.Subset.refl s.ioEstablished
  · show s.ioEstablished.card ≤ s.ioEstablished.card +
      (s.application.activeIoConnections + s.ioEstablished.card)
    omega
  · intro d
    exact .refl _
  · intro d hd
    exact Or.inl hd

/-- The timers are counted down, or the connection times out. -/
theorem manageConnection_cases {elapsedTime : UInt64} {sessions : List Nat}
    (h : manageConnection elapsedTime sessions c s = some t) :
    expired elapsedTime (s.connectionData c) = true ∧
        (∃ n, connectionTimeoutFunction sessions c { s with statistics := n } = some t) ∨
      expired elapsedTime (s.connectionData c) = false ∧ Shrunk 0 s t := by
  unfold manageConnection at h
  dsimp only at h
  split at h
  · rename_i hexpired
    exact Or.inl ⟨hexpired, _, h⟩
  rename_i hnot
  refine Or.inr ⟨Bool.eq_false_iff.2 hnot, ?_⟩
  split at h
  · obtain rfl := Option.some.inj h
    exact .set (Or.inr ⟨rfl, rfl, rfl, Nat.le_refl _⟩) Iff.rfl
  · obtain rfl := Option.some.inj h
    exact .refl s

theorem handleReceivedConnectedData_shrunk (c : Slot) (fresh : Bool) (s : Stack) :
    Shrunk 0 s (handleReceivedConnectedData c fresh s) := by
  unfold handleReceivedConnectedData
  dsimp only
  split
  · exact .set (Or.inr ⟨rfl, rfl, rfl, Nat.le_refl _⟩) Iff.rfl
  · exact .refl s

theorem expired_established {elapsedTime : UInt64} (h : expired elapsedTime o = true) :
    o.state = .established := (of_decide_eq_true h).1

theorem connectionTimeoutFunction_shrinks {sessions : List Nat} (hwf : Wf points s)
    (hstate : (s.connectionData c).state = .established)
    (h : connectionTimeoutFunction sessions c s = some t) : Shrinks s t := by
  unfold connectionTimeoutFunction at h
  split at h
  · rename_i htype
    obtain rfl := Option.some.inj h
    exact ⟨0, explicit_release htype⟩
  all_goals
    rename_i htype
    refine (handleIoConnectionTimeOut_shrinks hwf ⟨?_, hstate⟩ h).1
    rw [isTypeIoConnection, htype]

theorem Wf.manageConnection (hwf : Wf points s) {elapsedTime : UInt64} {sessions : List Nat}
    (h : Cip.manageConnection elapsedTime sessions c s = some t) : Shrinks s t := by
  rcases manageConnection_cases h with ⟨hexpired, n, htimeout⟩ | ⟨-, hquiet⟩
  · have hsame : Shrinks s { s with statistics := n } := ⟨0, .of_eq rfl rfl rfl⟩
    exact hsame.trans (connectionTimeoutFunction_shrinks (hwf.shrinks hsame)
      (expired_established hexpired) htimeout)
  · exact ⟨0, hquiet⟩

theorem forwardClose_cases {r : ForwardCloseRequest} {status : ExtendedStatus}
    (h : forwardClose r s = some (status, t)) :
    Shrunk 0 s t ∨ ∃ c u, r.target s = some c ∧
      r.originatorAddress = (s.connectionData c).originatorAddress ∧
      connectionCloseFunction c s = some u ∧ Shrunk 0 u t := by
  unfold forwardClose at h
  split at h
  · cases h
    exact Or.inl (.of_eq rfl rfl rfl)
  rename_i c htarget
  split at h
  · rename_i haddress
    obtain ⟨u, hu, heq⟩ := Option.map_eq_some_iff.1 h
    cases heq
    exact Or.inr ⟨c, u, htarget, haddress, hu, .of_eq rfl rfl rfl⟩
  · cases h
    exact Or.inl (.of_eq rfl rfl rfl)

/-- **One event**: connections go down, and then one may come. -/
theorem Wf.step (hwf : Wf points s) {e : Event} (h : stackStep points s e = some t) :
    Wf points t ∧ ∃ u, Shrinks s u ∧ Admits u t := by
  have hshrinks : Shrinks s t → Wf points t ∧ ∃ u, Shrinks s u ∧ Admits u t := by
    intro hst
    exact ⟨hwf.shrinks hst, t, hst, Or.inl rfl⟩
  cases e with
  | forwardOpen r =>
    obtain ⟨⟨reply, v⟩, hv, rfl⟩ := Option.map_eq_some_iff.1 h
    obtain ⟨hwfv, u, hadmits, hu⟩ := hwf.forwardOpen hv
    refine ⟨hwfv, u, ?_, hadmits⟩
    rcases hu with rfl | ⟨c, -, hclosed⟩
    · exact .refl _
    · exact closing_shrinks.connectionCloseFunction hclosed
  | forwardClose r =>
    obtain ⟨⟨status, v⟩, hv, rfl⟩ := Option.map_eq_some_iff.1 h
    rcases forwardClose_cases hv with hsame | ⟨c, u, -, -, hclosed, hsame⟩
    · exact hshrinks ⟨0, hsame⟩
    · exact hshrinks ((closing_shrinks.connectionCloseFunction hclosed).trans ⟨0, hsame⟩)
  | manageConnection c elapsedTime sessions =>
    rw [stackStep] at h
    split at h
    · exact hshrinks (hwf.manageConnection h)
    · cases h
  | receivedConnectedData c fresh =>
    obtain rfl := Option.some.inj h
    exact hshrinks ⟨0, handleReceivedConnectedData_shrunk c fresh s⟩
  | closeSession session => exact hshrinks (closing_shrinks.closeClass3 h)
  | closeAllConnections => exact hshrinks (closing_shrinks.closeEach h)
  | linkUp =>
    obtain rfl := Option.some.inj h
    exact hshrinks ⟨0, .of_eq rfl rfl rfl⟩
  | linkDown =>
    obtain rfl := Option.some.inj h
    exact hshrinks (linkDown_shrinks s)

end GroundTruth.Cip
