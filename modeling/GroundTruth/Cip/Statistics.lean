/-
# The statistics of the connection manager

Four counters are for open requests and three for close requests, 16 bits each.  `ForwardClose`
counts every request in one of its three.  `ForwardOpenRoutine` counts only what comes back from an
open function; a request that is refused before one is called is counted nowhere, although two of
the reasons, a bad segment and a duplicate, are among those that the counters tell apart.

* `forwardOpen_counts_iff`: an open request is counted in exactly one counter just when nothing
  refuses it early, and `forwardClose_counts`: a close request always is;
* `statistics_account`: in every run the counters, and the requests that were refused early, add up
  to the requests;
* `statistics_conserved`: so the counters alone do where none is;
* `duplicate_uncounted`: the second of two equal requests is in no counter.
-/
import GroundTruth.Cip.Count

namespace GroundTruth.Cip

open GroundTruth.Lib

/-! ## 1. The counters -/

inductive OpenCounter
  | requests
  | formatRejects
  | resourceRejects
  | otherRejects
  deriving DecidableEq, Repr

inductive CloseCounter
  | requests
  | formatRequests
  | otherRequests
  deriving DecidableEq, Repr

namespace ConnectionManagerStatistics

/-- One more in one of the counters, the others as they are. -/
def countOpen (k : OpenCounter) (n : ConnectionManagerStatistics) : ConnectionManagerStatistics :=
  match k with
  | .requests => { n with openRequests := n.openRequests + 1 }
  | .formatRejects => { n with openFormatRejects := n.openFormatRejects + 1 }
  | .resourceRejects => { n with openResourceRejects := n.openResourceRejects + 1 }
  | .otherRejects => { n with openOtherRejects := n.openOtherRejects + 1 }

def countClose (k : CloseCounter) (n : ConnectionManagerStatistics) : ConnectionManagerStatistics :=
  match k with
  | .requests => { n with closeRequests := n.closeRequests + 1 }
  | .formatRequests => { n with closeFormatRequests := n.closeFormatRequests + 1 }
  | .otherRequests => { n with closeOtherRequests := n.closeOtherRequests + 1 }

/-- The sums, modulo 2^16. -/
def opens (n : ConnectionManagerStatistics) : UInt16 :=
  n.openRequests + n.openFormatRejects + n.openResourceRejects + n.openOtherRejects

def closes (n : ConnectionManagerStatistics) : UInt16 :=
  n.closeRequests + n.closeFormatRequests + n.closeOtherRequests

end ConnectionManagerStatistics

/-- What an event may do to the counters: an open request goes into exactly one of its four, a close
request into exactly one of its three, and nothing else touches any of them. -/
def Counts : Event → ConnectionManagerStatistics → ConnectionManagerStatistics → Prop
  | .forwardOpen _, n, n' => ∃! k, n' = n.countOpen k
  | .forwardClose _, n, n' => ∃! k, n' = n.countClose k
  | _, n, n' => ∃ timeouts, n' = { n with connectionTimeouts := timeouts }

/-- The requests of a run, and how many of the open requests were refused early. -/
structure Requests where
  opens : Nat
  refused : Nat
  closes : Nat
  deriving DecidableEq, Repr

def noteRequests (s : Stack) (e : Event) (_ : Stack) (n : Requests) : Option Requests :=
  match e with
  | .forwardOpen r =>
    some { n with opens := n.opens + 1
                  refused := n.refused + if refusal r s = none then 0 else 1 }
  | .forwardClose _ => some { n with closes := n.closes + 1 }
  | _ => some n

/-- The machine with the requests counted beside it. -/
def requestStep (points : ConnectionPoints) : Stack × Requests → Event → Option (Stack × Requests) :=
  watch (stackStep points) noteRequests

/-- No open request is refused before an open function is called. -/
def ReachesOpen (x : Stack × Requests) : Event → Prop
  | .forwardOpen r => refusal r x.1 = none
  | _ => True

instance ReachesOpen.decidable (x : Stack × Requests) : ∀ e, Decidable (ReachesOpen x e)
  | .forwardOpen _ => inferInstanceAs (Decidable (_ = _))
  | .forwardClose _ | .manageConnection _ _ _ | .receivedConnectedData _ _ | .closeSession _
  | .closeAllConnections | .linkUp | .linkDown => inferInstanceAs (Decidable True)

/-! ## 2. Exactly one -/

variable {points : ConnectionPoints} {s t u : Stack} {c : Slot} {n : ConnectionManagerStatistics}

theorem uint16_succ_ne (x : UInt16) : x + 1 ≠ x := by
  intro h
  simp at h

/-- The four counters are told apart by what has been counted. -/
theorem countOpen_injective : Function.Injective fun k => n.countOpen k := by
  intro k k' h
  cases k <;> cases k' <;>
    simp [ConnectionManagerStatistics.countOpen, fun x => (uint16_succ_ne x).symm] at h ⊢

theorem countClose_injective : Function.Injective fun k => n.countClose k := by
  intro k k' h
  cases k <;> cases k' <;>
    simp [ConnectionManagerStatistics.countClose, fun x => (uint16_succ_ne x).symm] at h ⊢

@[simp] theorem opens_countOpen (k : OpenCounter) : (n.countOpen k).opens = n.opens + 1 := by
  cases k <;> simp only [ConnectionManagerStatistics.countOpen, ConnectionManagerStatistics.opens] <;>
    ac_rfl

@[simp] theorem closes_countClose (k : CloseCounter) : (n.countClose k).closes = n.closes + 1 := by
  cases k <;>
    simp only [ConnectionManagerStatistics.countClose, ConnectionManagerStatistics.closes] <;> ac_rfl

@[simp] theorem closes_countOpen (k : OpenCounter) : (n.countOpen k).closes = n.closes := by
  cases k <;> rfl

@[simp] theorem opens_countClose (k : CloseCounter) : (n.countClose k).opens = n.opens := by
  cases k <;> rfl

/-- What was counted is something. -/
theorem countOpen_ne (k : OpenCounter) : n.countOpen k ≠ n := by
  intro h
  have hopens := opens_countOpen (n := n) k
  rw [h] at hopens
  exact uint16_succ_ne _ hopens.symm

/-- The counter of a reply. -/
def Reply.counter : Reply → OpenCounter
  | .opened => .requests
  | .refused .invalidSegmentTypeInPath => .formatRejects
  | .refused .connectionInUseOrDuplicateForwardOpen | .refused .ownershipConflict
  | .refused .targetObjectOutOfConnections => .resourceRejects
  | .refused _ => .otherRejects

theorem countReply_eq (reply : Reply) : countReply reply n = n.countOpen reply.counter := by
  cases reply with
  | opened => rfl
  | refused status => cases status <;> rfl

/-! ## 3. What leaves the counters alone -/

/-- The counters are what they were. -/
def Uncounted (s t : Stack) : Prop := t.statistics = s.statistics

theorem Uncounted.refl (s : Stack) : Uncounted s s := rfl

theorem Uncounted.trans (h : Uncounted s t) (h' : Uncounted t u) : Uncounted s u := Eq.trans h' h

/-- Closing does not count. -/
theorem closing_uncounted : Closing fun s t => Shrinks s t ∧ Uncounted s t where
  refl s := ⟨.refl s, .refl s⟩
  trans h h' := ⟨h.1.trans h'.1, h.2.trans h'.2⟩
  event s := ⟨closing_shrinks.event s, rfl⟩
  mark s c := ⟨closing_shrinks.mark s c, rfl⟩
  transfer h := by
    refine ⟨closing_shrinks.transfer h, ?_⟩
    obtain ⟨active, -, rfl⟩ := Option.map_eq_some_iff.1 h
    rfl
  release h := ⟨closing_shrinks.release h, rfl⟩
  gone h := h.1.gone

theorem connectionTimeoutFunction_uncounted {sessions : List Nat}
    (h : connectionTimeoutFunction sessions c s = some t) : Uncounted s t := by
  have hio : handleIoConnectionTimeOut sessions c s = some t → Uncounted s t := by
    intro htimeout
    obtain ⟨u, handover, v, w, hu, hv, hw, rfl⟩ := handleIoConnectionTimeOut_cases htimeout
    have hsessions : Uncounted s u := by
      rcases hu with rfl | hclosed
      · exact .refl s
      · exact (closing_uncounted.closeEncapsulationSessions hclosed).2
    have hdependants : Uncounted v w := by
      rcases hw with ⟨-, -, hclosed⟩ | ⟨-, rfl⟩
      · exact (closing_uncounted.closeDependants hclosed).2
      · exact .refl _
    exact (hsessions.trans (closing_uncounted.handOver hv).2).trans hdependants
  unfold connectionTimeoutFunction at h
  split at h
  · obtain rfl := Option.some.inj h
    exact .refl s
  all_goals exact hio h

/-! ## 4. One event -/

theorem openCommunicationChannels_uncounted (c : Slot) (s : Stack) :
    Uncounted s (openCommunicationChannels c s) := by
  unfold openCommunicationChannels
  split
  · unfold openProducingMulticastConnection
    dsimp only
    split
    · exact .refl s
    · split <;> exact .refl s
  all_goals exact .refl s

theorem addNewActiveConnection_uncounted (h : addNewActiveConnection c s = some t) :
    Uncounted s t := by
  obtain ⟨-, h⟩ := Option.ite_none_right_eq_some.1 h
  obtain rfl := Option.some.inj h
  exact .refl s

theorem getIoConnection_uncounted {o : ConnectionObject} {slot : Except ExtendedStatus Slot}
    (h : getIoConnectionForConnectionData points o s = some (slot, t)) : Uncounted s t := by
  unfold getIoConnectionForConnectionData at h
  split at h
  · cases h
    exact .refl s
  · obtain ⟨u, hu, heq⟩ := Option.map_eq_some_iff.1 h
    cases heq
    have hclosed := (closing_uncounted.connectionCloseFunction hu).2
    exact hclosed
  · cases h
    exact .refl s

theorem establishIoConnection_uncounted {r : ForwardOpenRequest} {reply : Reply}
    (h : establishIoConnection points r s = some (reply, t)) : Uncounted s t := by
  obtain ⟨⟨slot, u⟩, hu, h⟩ := Option.bind_eq_some_iff.1 h
  refine (getIoConnection_uncounted hu).trans ?_
  dsimp only at h
  split at h
  · cases h
    exact .refl _
  split at h
  · cases h
    exact .refl _
  · obtain ⟨v, hv, heq⟩ := Option.map_eq_some_iff.1 h
    cases heq
    have hadded := addNewActiveConnection_uncounted hv
    exact (openCommunicationChannels_uncounted _ (u.set _ _)).trans hadded

theorem establishClass3Connection_uncounted {o : ConnectionObject} {reply : Reply}
    (h : establishClass3Connection o s = some (reply, t)) : Uncounted s t := by
  unfold establishClass3Connection at h
  split at h
  · cases h
    exact .refl s
  · obtain ⟨u, hu, heq⟩ := Option.map_eq_some_iff.1 h
    cases heq
    exact addNewActiveConnection_uncounted (s := s.set _ _) hu

/-- No open function counts anything itself. -/
theorem openConnectionFunction_uncounted {r : ForwardOpenRequest} {reply : Reply}
    (h : openConnectionFunction points r s = some (reply, t)) : Uncounted s t := by
  unfold openConnectionFunction at h
  split at h
  · exact establishClass3Connection_uncounted h
  split at h
  · exact establishIoConnection_uncounted h
  · cases h
    exact .refl s

/-- **An open request** is counted once where an open function is called, and not at all where none
is. -/
theorem forwardOpen_statistics {r : ForwardOpenRequest} {reply : Reply}
    (h : forwardOpen points r s = some (reply, t)) :
    t.statistics =
      if refusal r s = none then s.statistics.countOpen reply.counter else s.statistics := by
  unfold forwardOpen at h
  split at h
  · rename_i error hrefused
    cases h
    rw [if_neg (by simp [hrefused])]
  · rename_i hnone
    obtain ⟨⟨answer, u⟩, hu, heq⟩ := Option.map_eq_some_iff.1 h
    cases heq
    rw [if_pos hnone]
    show countReply reply u.statistics = _
    rw [countReply_eq, openConnectionFunction_uncounted hu]

/-- **Exactly one counter**, just when nothing refuses the request early. -/
theorem forwardOpen_counts_iff {r : ForwardOpenRequest} {reply : Reply}
    (h : forwardOpen points r s = some (reply, t)) :
    Counts (.forwardOpen r) s.statistics t.statistics ↔ refusal r s = none := by
  rw [Counts, forwardOpen_statistics h]
  by_cases hnone : refusal r s = none
  · rw [if_pos hnone]
    refine iff_of_true ⟨reply.counter, rfl, ?_⟩ hnone
    intro k hk
    exact (countOpen_injective hk).symm
  · rw [if_neg hnone]
    refine iff_of_false ?_ hnone
    rintro ⟨k, hk, -⟩
    exact countOpen_ne k hk.symm

/-- **A close request** is counted in exactly one counter. -/
theorem forwardClose_counts {r : ForwardCloseRequest} {status : ExtendedStatus}
    (h : forwardClose r s = some (status, t)) :
    Counts (.forwardClose r) s.statistics t.statistics := by
  have hone : ∃ k, t.statistics = s.statistics.countClose k := by
    unfold forwardClose at h
    split at h
    · cases h
      exact ⟨.otherRequests, rfl⟩
    split at h
    · obtain ⟨u, hu, heq⟩ := Option.map_eq_some_iff.1 h
      cases heq
      refine ⟨.requests, ?_⟩
      show ({ u.statistics with closeRequests := u.statistics.closeRequests + 1 } :
        ConnectionManagerStatistics) = _
      rw [(closing_uncounted.connectionCloseFunction hu).2]
      rfl
    · cases h
      exact ⟨.formatRequests, rfl⟩
  obtain ⟨k, hk⟩ := hone
  refine ⟨k, hk, ?_⟩
  intro k' hk'
  exact countClose_injective (hk'.symm.trans hk)

/-- What is no request counts in no counter of requests. -/
theorem Uncounted.counts (h : Uncounted s t) :
    ∃ timeouts, t.statistics = { s.statistics with connectionTimeouts := timeouts } := by
  refine ⟨s.statistics.connectionTimeouts, ?_⟩
  rw [h]

/-- **One event** does to the counters what it should, unless it is an open request that is refused
early. -/
theorem ReachesOpen.counts {e : Event} {q : Requests} (hg : ReachesOpen (s, q) e)
    (h : stackStep points s e = some t) : Counts e s.statistics t.statistics := by
  cases e with
  | forwardOpen r =>
    obtain ⟨⟨reply, u⟩, hu, rfl⟩ := Option.map_eq_some_iff.1 h
    exact (forwardOpen_counts_iff hu).2 hg
  | forwardClose r =>
    obtain ⟨⟨status, u⟩, hu, rfl⟩ := Option.map_eq_some_iff.1 h
    exact forwardClose_counts hu
  | manageConnection c elapsedTime sessions =>
    obtain ⟨-, h⟩ := Option.ite_none_right_eq_some.1 h
    unfold manageConnection at h
    dsimp only at h
    split at h
    · have htimeout := connectionTimeoutFunction_uncounted h
      exact ⟨_, htimeout⟩
    split at h
    · obtain rfl := Option.some.inj h
      exact (Uncounted.refl s).counts
    · obtain rfl := Option.some.inj h
      exact (Uncounted.refl s).counts
  | receivedConnectedData c fresh =>
    obtain rfl := Option.some.inj h
    refine Uncounted.counts (s := s) ?_
    unfold handleReceivedConnectedData
    dsimp only
    split <;> exact .refl s
  | closeSession session => exact (closing_uncounted.closeClass3 h).2.counts
  | closeAllConnections => exact (closing_uncounted.closeEach h).2.counts
  | linkUp =>
    obtain rfl := Option.some.inj h
    exact (Uncounted.refl s).counts
  | linkDown =>
    obtain rfl := Option.some.inj h
    exact (Uncounted.refl s).counts

/-! ## 5. Runs -/

/-- The counters, and the requests that were refused early, add up to the requests. -/
structure Accounted (x : Stack × Requests) : Prop where
  opens : x.1.statistics.opens + UInt16.ofNat x.2.refused = UInt16.ofNat x.2.opens
  closes : x.1.statistics.closes = UInt16.ofNat x.2.closes

theorem Accounted.step {x y : Stack × Requests} {e : Event} (h : Accounted x)
    (hs : requestStep points x e = some y) : Accounted y := by
  obtain ⟨s, q⟩ := x
  obtain ⟨t, q'⟩ := y
  obtain ⟨hstep, hnote⟩ := watch_some.1 hs
  have hquiet : ReachesOpen (s, q) e → (∀ r, e ≠ .forwardOpen r) → (∀ r, e ≠ .forwardClose r) →
      Accounted (t, q) := by
    intro hg hopen hclose
    have hcounts := hg.counts hstep
    have htimeouts : ∃ timeouts,
        t.statistics = { s.statistics with connectionTimeouts := timeouts } := by
      cases e <;> first | exact hcounts | exact absurd rfl (hopen _) | exact absurd rfl (hclose _)
    obtain ⟨timeouts, ht⟩ := htimeouts
    refine ⟨?_, ?_⟩
    · rw [ht]
      exact h.opens
    · rw [ht]
      exact h.closes
  cases e with
  | forwardOpen r =>
    obtain rfl := Option.some.inj hnote
    obtain ⟨⟨reply, u⟩, hu, heq⟩ := Option.map_eq_some_iff.1 hstep
    obtain rfl : u = t := heq
    have hcount := forwardOpen_statistics hu
    have hopens := h.opens
    dsimp only at hopens
    refine ⟨?_, ?_⟩
    · dsimp only
      rw [hcount]
      by_cases hnone : refusal r s = none
      · rw [if_pos hnone, if_pos hnone, opens_countOpen, Nat.add_zero, UInt16.ofNat_add, ← hopens]
        ac_rfl
      · rw [if_neg hnone, if_neg hnone, UInt16.ofNat_add, UInt16.ofNat_add, ← hopens]
        ac_rfl
    · dsimp only
      rw [hcount]
      split
      · rw [closes_countOpen]
        exact h.closes
      · exact h.closes
  | forwardClose r =>
    obtain rfl := Option.some.inj hnote
    obtain ⟨⟨status, u⟩, hu, heq⟩ := Option.map_eq_some_iff.1 hstep
    obtain rfl : u = t := heq
    obtain ⟨k, hk, -⟩ := forwardClose_counts hu
    refine ⟨?_, ?_⟩
    · dsimp only
      rw [hk, opens_countClose]
      exact h.opens
    · dsimp only
      rw [hk, closes_countClose, UInt16.ofNat_add, ← h.closes]
      rfl
  | manageConnection c elapsedTime sessions =>
    obtain rfl := Option.some.inj hnote
    exact hquiet trivial (by simp) (by simp)
  | receivedConnectedData c fresh =>
    obtain rfl := Option.some.inj hnote
    exact hquiet trivial (by simp) (by simp)
  | closeSession session =>
    obtain rfl := Option.some.inj hnote
    exact hquiet trivial (by simp) (by simp)
  | closeAllConnections =>
    obtain rfl := Option.some.inj hnote
    exact hquiet trivial (by simp) (by simp)
  | linkUp =>
    obtain rfl := Option.some.inj hnote
    exact hquiet trivial (by simp) (by simp)
  | linkDown =>
    obtain rfl := Option.some.inj hnote
    exact hquiet trivial (by simp) (by simp)

/-- **The account** of a run, whatever the requests. -/
theorem statistics_account {x : Stack × Requests}
    (h : Reach (requestStep points) (Stack.init, ⟨0, 0, 0⟩) x) : Accounted x :=
  h.invariant (fun _ _ _ ha _ hs => ha.step hs) ⟨rfl, rfl⟩

/-- Where every open request comes to an open function, none is refused early. -/
theorem ReachesOpen.refused {x y : Stack × Requests} {e : Event} (hg : ReachesOpen x e)
    (hzero : x.2.refused = 0) (hs : requestStep points x e = some y) : y.2.refused = 0 := by
  obtain ⟨s, q⟩ := x
  obtain ⟨t, q'⟩ := y
  obtain ⟨-, hnote⟩ := watch_some.1 hs
  cases e with
  | forwardOpen r =>
    obtain rfl := Option.some.inj hnote
    have hnone : refusal r s = none := hg
    show q.refused + (if refusal r s = none then 0 else 1) = 0
    rw [if_pos hnone]
    exact hzero
  | forwardClose r =>
    obtain rfl := Option.some.inj hnote
    exact hzero
  | manageConnection _ _ _ | receivedConnectedData _ _ | closeSession _ | closeAllConnections
  | linkUp | linkDown =>
    obtain rfl := Option.some.inj hnote
    exact hzero

/-- **The statistics are conserved.**  In every run whose open requests all come to an open
function, the counters of each kind add up to the requests of that kind modulo 2^16, and each
further event of that sort counts as it should. -/
theorem statistics_conserved {x : Stack × Requests}
    (h : Run (requestStep points) ReachesOpen (Stack.init, ⟨0, 0, 0⟩) x) :
    x.1.statistics.opens = UInt16.ofNat x.2.opens ∧
      x.1.statistics.closes = UInt16.ofNat x.2.closes ∧
      ∀ e t, ReachesOpen x e → stackStep points x.1 e = some t →
        Counts e x.1.statistics t.statistics := by
  have haccount := statistics_account h.reach
  have hzero : x.2.refused = 0 :=
    h.invariant (fun _ _ _ hz hg hs => hg.refused hz hs) rfl
  refine ⟨?_, haccount.closes, fun e t hg hs => hg.counts hs⟩
  have hopens := haccount.opens
  rw [hzero] at hopens
  simpa using hopens

/-- An exclusive owner is connected, a second one is not; a stranger tries to close the first, its
originator does, and does it again. -/
def benchRequests : List Event :=
  [.forwardOpen (benchOpen 1 150), .forwardOpen (benchOpen 2 150),
    .forwardClose { benchClose 1 with originatorAddress := 0 }, .forwardClose (benchClose 1),
    .forwardClose (benchClose 1)]

theorem statistics_conserved_requests :
    ∃ x, exec (requestStep configured) (Stack.init, ⟨0, 0, 0⟩) benchRequests = some x ∧
      x.2 = ⟨2, 0, 3⟩ ∧ x.1.statistics = ⟨1, 0, 1, 0, 1, 1, 1, 0⟩ ∧
      x.1.statistics.opens = UInt16.ofNat x.2.opens := by
  have hmeets : execMeets (requestStep configured) ReachesOpen (Stack.init, ⟨0, 0, 0⟩)
      benchRequests := by
    decide +kernel
  have hread : (exec (requestStep configured) (Stack.init, ⟨0, 0, 0⟩) benchRequests).map
      (fun x => (x.2, x.1.statistics)) = some (⟨2, 0, 3⟩, ⟨1, 0, 1, 0, 1, 1, 1, 0⟩) := by
    decide +kernel
  obtain ⟨x, hx, heq⟩ := Option.map_eq_some_iff.1 hread
  obtain ⟨hrequests, hcounters⟩ := Prod.mk.inj heq
  exact ⟨x, hx, hrequests, hcounters, (statistics_conserved (exec_run hmeets hx)).1⟩

/-- **A duplicate**: the same Forward Open again is refused and is in no counter, not even in the
one for resources, where the handler of other requests would put it. -/
theorem duplicate_uncounted :
    ¬ ∀ (points : ConnectionPoints) (x : Stack × Requests),
      Reach (requestStep points) (Stack.init, ⟨0, 0, 0⟩) x →
        x.1.statistics.opens = UInt16.ofNat x.2.opens := by
  intro hall
  have hread : (exec (requestStep configured) (Stack.init, ⟨0, 0, 0⟩)
      [.forwardOpen (benchOpen 1 150), .forwardOpen (benchOpen 1 150)]).map
        (fun x => (x.2.opens, x.1.statistics)) = some (2, ⟨1, 0, 0, 0, 0, 0, 0, 0⟩) := by
    decide +kernel
  obtain ⟨x, hx, heq⟩ := Option.map_eq_some_iff.1 hread
  obtain ⟨hrequests, hcounters⟩ := Prod.mk.inj heq
  have hopens := hall configured x (exec_reach hx)
  rw [hrequests, hcounters] at hopens
  revert hopens
  decide

end GroundTruth.Cip
