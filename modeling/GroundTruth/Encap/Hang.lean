/-
# Where the device hangs

A class 3 connection that times out, and is the last of its originator, has the session closed by
which it came.  `CloseSessionBySessionHandle` does not ask whether there is such a session any more.
With none it closes the socket `kEipInvalidSocket`, and the loop that takes this socket out of the
timers finds a free one and clears it, again and again.

* `hang_iff`: in every run the device hangs at such a connection, and at no other event of
  `networkStep`, to which a message is there at once (how it is received is in `Encap/Framing`);
* `Good`: each explicit connection has a session of its own, and that is registered;
* `no_hang`: it stays so, and no event hangs, if connections to the message router are opened with
  class 3, and each by a session that has none yet; `shared_session_hangs` and
  `class1_explicit_hangs` are runs with the one and without the other.

A session that ends takes along the first of its class 3 connections
(`CloseClass3ConnectionBasedOnSession` goes on from the node that it has freed), and none of another
class.
-/
import GroundTruth.Encap.Session
import GroundTruth.Cip.Open

namespace GroundTruth.Encap

open GroundTruth.Lib GroundTruth.Lib.Table GroundTruth.Cip

variable {s t u : Network} {e : Event} {c d : Slot} {i : SessionIndex} {points : ConnectionPoints}

/-! ## 1. The one place -/

/-- The session that is to be closed is not there. -/
theorem Sound.hangs {o : Prop} (h : Sound o s) (hcloses : ClosesItsSession s c e)
    (hi : indexOf (s.stack.connectionData c).encapsulationSession = some i)
    (hfree : s.registeredSessions i = none) : networkStep points s e = .error .hang := by
  cases e with
  | manageConnection peer elapsedTime d =>
    obtain ⟨rfl, hexpired, htype, hactive⟩ := hcloses
    have hcounted := h.setStack { s.stack with statistics := { s.stack.statistics with
      connectionTimeouts := s.stack.statistics.connectionTimeouts + 1 } }
    rw [networkStep, Encap.manageConnection, if_pos hexpired, Encap.connectionTimeoutFunction]
    simp only [htype]
    rw [Encap.class3ConnectionTimeoutHandler, checkForTimedOutConnections, if_neg ?_,
      closeSessionBySessionHandle]
    · simp only [hi]
      rw [hcounted.closeSocketOf_free hfree]
      rfl
    · exact Bool.eq_false_iff.1 hactive
  | _ => exact absurd hcloses id

/-- **Where it hangs.** -/
theorem hang_iff (h : Reached points s) (hpossible : Possible s e) :
    networkStep points s e = .error .hang ↔ ∃ c, ClosesItsSession s c e ∧
      ∃ i, indexOf (s.stack.connectionData c).encapsulationSession = some i ∧
        s.registeredSessions i = none := by
  constructor
  · intro hhang
    have hends : Ends (Sound False) (fun r => r = .hang → ∃ c, ClosesItsSession s c e ∧
        ∃ i, indexOf (s.stack.connectionData c).encapsulationSession = some i ∧
          s.registeredSessions i = none) (networkStep points s e) := by
      refine h.sound.step hpossible (fun h => ?_) False.elim (fun _ h => ?_)
        (fun _ _ _ h => ?_) ?_
      · cases h
      · cases h
      · cases h
      · intro c hcloses i hi hfree _
        exact ⟨c, hcloses, i, hi, hfree⟩
    exact hends.error hhang rfl
  · rintro ⟨c, hcloses, i, hi, hfree⟩
    exact h.sound.hangs hcloses hi hfree

/-! ## 2. Explicit connections -/

/-- An explicit connection: the object exists, or has the class of one. -/
def Explicit (o : ConnectionObject) : Prop :=
  o.instanceType = .explicitMessaging ∧ (o.state ≠ .nonExistent ∨ o.transportClass3 = true)

theorem not_explicit_empty : ¬Explicit .empty := by
  rintro ⟨-, hstate | hclass⟩
  · exact hstate rfl
  · cases hclass

variable {x y z : Stack} {o : ConnectionObject}

/-- The connection was there before, with its class and its session, and in the list. -/
structure Held (x y : Stack) (d : Slot) : Prop where
  explicit : Explicit (x.connectionData d)
  class3 : (y.connectionData d).transportClass3 = (x.connectionData d).transportClass3
  session : (y.connectionData d).encapsulationSession = (x.connectionData d).encapsulationSession
  listed : d ∈ x.connectionList → d ∈ y.connectionList

theorem Held.of_eq (hd : Explicit (y.connectionData d))
    (hdata : y.connectionData d = x.connectionData d)
    (hlisted : d ∈ x.connectionList → d ∈ y.connectionList) : Held x y d :=
  ⟨hdata ▸ hd, congrArg _ hdata, congrArg _ hdata, hlisted⟩

theorem Held.trans (h : Held x y d) (h' : Held y z d) : Held x z d :=
  ⟨h.explicit, h'.class3.trans h.class3, h'.session.trans h.session, h'.listed ∘ h.listed⟩

/-- Connections went down, and no explicit one has come. -/
structure Recedes (x y : Stack) : Prop where
  shrinks : Shrinks x y
  held : ∀ d, Explicit (y.connectionData d) → Held x y d

theorem Recedes.refl (x : Stack) : Recedes x x := ⟨.refl x, fun _ hd => .of_eq hd rfl id⟩

theorem Recedes.trans (h : Recedes x y) (h' : Recedes y z) : Recedes x z := by
  refine ⟨h.shrinks.trans h'.shrinks, ?_⟩
  intro d hd
  have hyz := h'.held d hd
  exact (h.held d hyz.explicit).trans hyz

theorem Recedes.of_spares (hshrinks : Shrinks x y) (hlist : y.connectionList = x.connectionList)
    (h : ∀ d, Spares d x y) : Recedes x y := by
  refine ⟨hshrinks, ?_⟩
  intro d hd
  obtain ⟨b, hb⟩ := h d
  rw [hb] at hd
  exact ⟨hd, by rw [hb], by rw [hb], fun hin => hlist ▸ hin⟩

theorem Recedes.of_data (hshrinks : Shrinks x y) (hlist : y.connectionList = x.connectionList)
    (h : y.connectionData = x.connectionData) : Recedes x y :=
  ⟨hshrinks, fun d hd => .of_eq hd (by rw [h]) fun hin => hlist ▸ hin⟩

/-- One connection object is written, with or without an event. -/
theorem Recedes.set (hshrinks : Shrinks x (y.set c o))
    (hlist : y.connectionList = x.connectionList) (hdata : y.connectionData = x.connectionData)
    (hexplicit : Explicit o → Explicit (x.connectionData c))
    (hclass : o.transportClass3 = (x.connectionData c).transportClass3)
    (hsession : o.encapsulationSession = (x.connectionData c).encapsulationSession) :
    Recedes x (y.set c o) := by
  refine ⟨hshrinks, ?_⟩
  intro d hd
  by_cases hdc : d = c
  · subst hdc
    rw [set_self] at hd
    exact ⟨hexplicit hd, by rw [set_self, hclass], by rw [set_self, hsession],
      fun hin => hlist ▸ hin⟩
  · exact .of_eq hd (by rw [set_of_ne hdc, hdata]) fun hin => hlist ▸ hin

/-- A connection leaves the list, and its object is free. -/
theorem Recedes.release (hshrinks : Shrinks x (x.release c)) : Recedes x (x.release c) := by
  refine ⟨hshrinks, ?_⟩
  intro d hd
  have hdc : d ≠ c := by
    rintro rfl
    rw [release_self] at hd
    exact not_explicit_empty hd
  exact .of_eq hd (release_of_ne hdc) fun hin => (List.mem_erase_of_ne hdc).2 hin

theorem transfer_list (h : transferMasterConnection c x = some y) :
    y.connectionList = x.connectionList := by
  obtain ⟨active, -, rfl⟩ := Option.map_eq_some_iff.1 h
  rfl

/-- **Closing makes connections recede.** -/
theorem closing_recedes : Closing Recedes where
  refl := .refl
  trans := .trans
  event s := .of_data ⟨1, .closed_event s⟩ rfl rfl
  mark s c := by
    refine .set (closing_shrinks.mark s c) rfl rfl ?_ rfl rfl
    rintro ⟨htype, hstate | hclass⟩
    · exact absurd rfl hstate
    · exact ⟨htype, .inr hclass⟩
  transfer h := .of_spares (closing_shrinks.transfer h) (transfer_list h)
    fun _ => transferMasterConnection_spares h
  release h := .release (closing_shrinks.release h)
  gone h := h.shrinks.gone

/-! ## 3. Forward Open -/

/-- What a Forward Open may bring: one explicit connection, by way of the message router, with the
class and the session of the request. -/
def OpensExplicit (r : ForwardOpenRequest) (x y : Stack) : Prop :=
  (∀ d, Explicit (y.connectionData d) → Held x y d) ∨
    r.classId = kCipMessageRouterClassCode ∧ ∃ c, c ∈ y.connectionList ∧
      (y.connectionData c).transportClass3 = r.connection.transportClass3 ∧
      (y.connectionData c).encapsulationSession = r.connection.encapsulationSession ∧
      ∀ d, d ≠ c → Explicit (y.connectionData d) → Held x y d

/-- What else a state has does not matter. -/
theorem OpensExplicit.congr {r : ForwardOpenRequest} (h : OpensExplicit r x y)
    (hdata : z.connectionData = y.connectionData) (hlist : z.connectionList = y.connectionList) :
    OpensExplicit r x z := by
  have hheld : ∀ d, Held x y d → Held x z d := by
    rintro d ⟨hexplicit, hclass, hsession, hlisted⟩
    exact ⟨hexplicit, by rw [hdata, hclass], by rw [hdata, hsession], by rwa [hlist]⟩
  rcases h with hall | ⟨hrouter, c, hin, hclass, hsession, hothers⟩
  · refine .inl fun d hd => hheld d (hall d ?_)
    rwa [← hdata]
  · refine .inr ⟨hrouter, c, by rwa [hlist], by rwa [hdata], by rwa [hdata], ?_⟩
    intro d hdc hd
    rw [hdata] at hd
    exact hheld d (hothers d hdc hd)

/-- `AddNewActiveConnection` establishes the connection, and leaves the others. -/
theorem addNewActive_data (h : addNewActiveConnection c x = some y) :
    y.connectionData c = { x.connectionData c with state := .established } ∧
      (∀ d, d ≠ c → y.connectionData d = x.connectionData d) ∧
      y.connectionList = c :: x.connectionList := by
  unfold addNewActiveConnection at h
  split at h
  · obtain rfl := Option.some.inj h
    exact ⟨setState_self, fun d hd => setState_of_ne hd, rfl⟩
  · cases h

theorem establishClass3Connection_explicit {r : ForwardOpenRequest} {reply : Reply}
    (hrouter : r.classId = kCipMessageRouterClassCode)
    (h : establishClass3Connection r.connection x = some (reply, y)) : OpensExplicit r x y := by
  unfold establishClass3Connection at h
  split at h
  · cases h
    exact .inl (Recedes.refl x).held
  rename_i c _
  obtain ⟨w, hw, heq⟩ := Option.map_eq_some_iff.1 h
  cases heq
  obtain ⟨hself, hother, hlist⟩ := addNewActive_data hw
  rw [set_self] at hself
  refine .inr ⟨hrouter, c, ?_, by rw [hself]; rfl, by rw [hself]; rfl, ?_⟩
  · rw [hlist]
    exact List.mem_cons_self
  · intro d hdc hd
    refine .of_eq hd ((hother d hdc).trans (set_of_ne hdc)) ?_
    intro hin
    rw [hlist]
    exact List.mem_cons_of_mem c hin

/-- An I/O connection is opened in a slot of its own kind, and one may be closed for it. -/
theorem establishIoConnection_explicit (hwf : Wf points x) {r : ForwardOpenRequest}
    {reply : Reply} (hclass : r.connection.transportClass3 = false)
    (h : establishIoConnection points r x = some (reply, y)) :
    ∀ d, Explicit (y.connectionData d) → Held x y d := by
  obtain ⟨⟨slot, v⟩, hv, hrest⟩ := Option.bind_eq_some_iff.1 h
  rcases hwf.getIoConnection hclass hv with ⟨error, rfl, rfl⟩ | ⟨c, -, rfl, hio, -, -⟩
  · cases hrest
    exact (Recedes.refl _).held
  -- what the search has closed, and the draft in the slot
  have hdraft : ∃ w, Recedes x w ∧ v = w.set c (r.connection.copyTo c) := by
    unfold getIoConnectionForConnectionData at hv
    split at hv
    · cases hv
      exact ⟨x, .refl x, rfl⟩
    · obtain ⟨w, hw, heq⟩ := Option.map_eq_some_iff.1 hv
      cases heq
      exact ⟨w, closing_recedes.connectionCloseFunction hw, rfl⟩
    · cases hv
  obtain ⟨w, hw, rfl⟩ := hdraft
  dsimp only at hrest
  split at hrest
  · cases hrest
    intro d hd
    by_cases hdc : d = c
    · subst hdc
      rw [set_self] at hd
      exact absurd hd.1 hio
    · have hdw : Held w (w.set c (r.connection.copyTo c)) d := .of_eq hd (set_of_ne hdc) id
      exact (hw.held d hdw.explicit).trans hdw
  · obtain ⟨q, hq, heq⟩ := Option.map_eq_some_iff.1 hrest
    cases heq
    obtain ⟨hself, hother, hlist⟩ := addNewActive_data hq
    obtain ⟨hchannels, -, hspares⟩ := openCommunicationChannels_spec c
      ((w.set c (r.connection.copyTo c)).set c
        ((w.set c (r.connection.copyTo c)).connectionData c).configure)
    intro d hd
    change Explicit (q.connectionData d) at hd
    obtain ⟨b, hb⟩ := hspares d
    by_cases hdc : d = c
    · subst hdc
      rw [hself, hb, set_self, set_self] at hd
      exact absurd hd.1 hio
    · have hdata : q.connectionData d = { w.connectionData d with producing := b } := by
        rw [hother d hdc, hb, set_of_ne hdc, set_of_ne hdc]
      have hdw : Held w q d := by
        refine ⟨?_, by rw [hdata], by rw [hdata], ?_⟩
        · rw [hdata] at hd
          exact hd
        · intro hin
          rw [hlist, hchannels]
          exact List.mem_cons_of_mem c hin
      exact (hw.held d hdw.explicit).trans ⟨hdw.explicit, hdw.class3, hdw.session, hdw.listed⟩

/-- **`ForwardOpen`** brings no more than one explicit connection. -/
theorem forwardOpen_explicit (hwf : Wf points x) {r : ForwardOpenRequest} {reply : Reply}
    (h : forwardOpen points r x = some (reply, y)) : OpensExplicit r x y := by
  unfold forwardOpen at h
  split at h
  · cases h
    exact .inl (Recedes.refl x).held
  rename_i hrefusal
  obtain ⟨⟨reply', v⟩, hv, heq⟩ := Option.map_eq_some_iff.1 h
  cases heq
  refine OpensExplicit.congr (y := v) ?_ rfl rfl
  unfold openConnectionFunction at hv
  split at hv
  · rename_i hrouter
    exact establishClass3Connection_explicit hrouter hv
  split at hv
  · rename_i hassembly
    exact .inl (establishIoConnection_explicit hwf (refusal_class3 hrefusal hassembly) hv)
  · cases hv
    exact .inl (Recedes.refl x).held

/-! ## 4. A session for each explicit connection -/

variable {X : Set Nat} {Q : Stop → Prop}

/-- Each explicit connection is of class 3 and has a session of its own, which is registered but for
those of `X`. -/
structure Good (points : ConnectionPoints) (X : Set Nat) (s : Network) : Prop where
  wf : Wf points s.stack
  listed : ∀ d, Explicit (s.stack.connectionData d) → d ∈ s.stack.connectionList
  class3 : ∀ d, Explicit (s.stack.connectionData d) →
    (s.stack.connectionData d).transportClass3 = true
  tied : ∀ d, Explicit (s.stack.connectionData d) →
    checkRegisteredSessions (s.stack.connectionData d).encapsulationSession s = true ∨
      (s.stack.connectionData d).encapsulationSession ∈ X
  single : ∀ d d', Explicit (s.stack.connectionData d) → Explicit (s.stack.connectionData d') →
    (s.stack.connectionData d').encapsulationSession =
      (s.stack.connectionData d).encapsulationSession → d' = d

theorem Good.init : Good points ∅ Network.init where
  wf := .init
  listed _ hd := absurd hd not_explicit_empty
  class3 _ hd := absurd hd not_explicit_empty
  tied _ hd := absurd hd not_explicit_empty
  single _ _ hd := absurd hd not_explicit_empty

/-- The check looks at the sessions only. -/
theorem registered_congr {handle : Nat} (h : t.registeredSessions = s.registeredSessions) :
    checkRegisteredSessions handle t = checkRegisteredSessions handle s := by
  rw [checkRegisteredSessions, checkRegisteredSessions, h]

/-- Where no explicit connection has come, with the same sessions. -/
theorem Good.held (h : Good points X s) (hwf : Wf points t.stack)
    (hheld : ∀ d, Explicit (t.stack.connectionData d) → Held s.stack t.stack d)
    (hsessions : t.registeredSessions = s.registeredSessions) : Good points X t := by
  refine ⟨hwf, ?_, ?_, ?_, ?_⟩
  · intro d hd
    exact (hheld d hd).listed (h.listed d (hheld d hd).explicit)
  · intro d hd
    rw [(hheld d hd).class3]
    exact h.class3 d (hheld d hd).explicit
  · intro d hd
    rw [(hheld d hd).session, registered_congr hsessions]
    exact h.tied d (hheld d hd).explicit
  · intro d d' hd hd' heq
    rw [(hheld d hd).session, (hheld d' hd').session] at heq
    exact h.single d d' (hheld d hd).explicit (hheld d' hd').explicit heq

theorem Good.recedes (h : Good points X s) (hstack : Recedes s.stack t.stack)
    (hsessions : t.registeredSessions = s.registeredSessions) : Good points X t :=
  h.held (h.wf.shrinks hstack.shrinks) hstack.held hsessions

/-- Neither the sessions nor the connections change. -/
theorem Good.congr (h : Good points X s) (hsessions : t.registeredSessions = s.registeredSessions)
    (hstack : t.stack = s.stack) : Good points X t := by
  refine h.recedes ?_ hsessions
  rw [hstack]
  exact .refl _

theorem handleOf_of_indexOf {handle : Nat} (h : indexOf handle = some i) : handleOf i = handle := by
  rw [indexOf] at h
  split at h
  · rename_i hrange
    obtain rfl := Option.some.inj h
    exact Nat.succ_pred_eq_of_pos hrange.1
  · cases h

/-- A session ends. -/
theorem Good.clearSession (h : Good points X s) (i : SessionIndex) :
    Good points (insert (handleOf i) X) (s.setSession i none) := by
  refine ⟨h.wf, h.listed, h.class3, ?_, h.single⟩
  intro d hd
  rcases h.tied d hd with hregistered | hmissing
  · obtain ⟨j, hj, hsession⟩ := registered_iff.1 hregistered
    by_cases hji : j = i
    · refine .inr (.inl ?_)
      rw [← hji, handleOf_of_indexOf hj]
      rfl
    · refine .inl (registered_iff.2 ⟨j, hj, ?_⟩)
      rwa [setSession_registeredSessions, put_of_ne hji]
  · exact .inr (.inr hmissing)

/-- The rounds of the loop change no session and no connection. -/
theorem removeSocketTimerFromList_frame {socket : Option Nat} {rounds : Nat}
    (h : removeSocketTimerFromList socket rounds s = some t) : TimersOnly s t := by
  induction rounds generalizing s with
  | zero => cases h
  | succ rounds ih =>
    rw [removeSocketTimerFromList] at h
    split at h
    · obtain rfl := Option.some.inj h
      exact ⟨rfl, rfl, rfl, rfl⟩
    · obtain ⟨hsessions, hconnections, htime, hstack⟩ := ih h
      exact ⟨hsessions, hconnections, htime, hstack⟩

/-- What can be said of the reasons here is said by `Sound.step`. -/
def Any : Stop → Prop := fun _ => True

theorem Good.closeTcpSocket (h : Good points X s) (socket : Option Nat) :
    Ends (Good points X) Any (Encap.closeTcpSocket socket s) := by
  rw [Encap.closeTcpSocket]
  split
  · trivial
  · rename_i u hu
    have hframe := removeSocketTimerFromList_frame hu
    exact h.congr hframe.registeredSessions hframe.stack

theorem Good.withStack (h : Good points X s) {x : Option Stack}
    (hx : ∀ y, x = some y → Recedes s.stack y) : Ends (Good points X) Any (s.withStack x) := by
  cases x with
  | none => trivial
  | some y => exact h.recedes (hx y rfl) rfl

/-- **With a session goes the class 3 connection that it has.** -/
theorem Good.closeClass3 (h : Good points X s) (handle : Nat) :
    Ends (Good points (X \ {handle})) Any (Encap.closeClass3 handle s) := by
  rw [Encap.closeClass3]
  cases hy : closeClass3ConnectionBasedOnSession handle s.stack with
  | none => trivial
  | some y =>
    have hrecedes : Recedes s.stack y := closing_recedes.closeClass3 hy
    have hgood : Good points X { s with stack := y } := h.recedes hrecedes rfl
    refine ⟨hgood.wf, hgood.listed, hgood.class3, ?_, hgood.single⟩
    intro d hd
    refine (hgood.tied d hd).imp id fun hmissing => ⟨hmissing, ?_⟩
    -- a connection of the session would be the one that was closed
    intro hsession
    have hheld := hrecedes.held d hd
    have hold : (s.stack.connectionData d).encapsulationSession = handle :=
      hheld.session.symm.trans hsession
    rw [closeClass3ConnectionBasedOnSession] at hy
    cases hfound : s.stack.search
        (fun o => o.transportClass3 && decide (o.encapsulationSession = handle)) with
    | none =>
      refine List.find?_eq_none.1 hfound d (h.listed d hheld.explicit) ?_
      exact (Bool.and_eq_true ..).mpr ⟨h.class3 d hheld.explicit, decide_eq_true hold⟩
    | some c =>
      rw [hfound] at hy
      have hc := List.find?_some hfound
      rw [Bool.and_eq_true, decide_eq_true_eq] at hc
      have hexplicit : Explicit (s.stack.connectionData c) := ⟨h.wf.class3 c hc.1, .inr hc.1⟩
      obtain rfl : c = d := h.single d c hheld.explicit hexplicit (hc.2.trans hold.symm)
      change Explicit (y.connectionData c) at hd
      rw [connectionCloseFunction_empty hy] at hd
      exact not_explicit_empty hd

/-- Nothing is missing once the connection of the session is closed. -/
theorem Good.endSession (h : Good points ∅ s) (i : SessionIndex) :
    Ends (Good points ∅) Any (Encap.closeClass3 (handleOf i) (s.setSession i none)) := by
  refine ((h.clearSession i).closeClass3 (handleOf i)).mono ?_ fun _ he => he
  intro t ht
  rwa [insert_empty_eq, Set.sdiff_self] at ht

theorem Good.closeSocketOf (h : Good points X s) (i : SessionIndex) :
    Ends (Good points (insert (handleOf i) X)) Any (Encap.closeSocketOf i s) :=
  (h.closeTcpSocket _).map fun _ ht => ht.clearSession i

theorem Good.removeSession (h : Good points ∅ s) (k : Nat) :
    Ends (Good points ∅) Any (Encap.removeSession k s) := by
  rw [Encap.removeSession]
  split
  · exact h
  · exact h.endSession _

theorem Good.closeSession (h : Good points ∅ s) (k : Nat) :
    Ends (Good points ∅) Any (Encap.closeSession k s) := by
  rw [Encap.closeSession]
  split
  · exact h
  · rename_i i _
    have hended := (h.closeTcpSocket (some k)).map (f := (·.setSession i none))
      (R := fun t => Ends (Good points ∅) Any (Encap.closeClass3 (handleOf i) t))
      fun _ ht => ht.endSession i
    exact hended.bind fun _ ht => ht

theorem Good.failed (h : Good points ∅ s) (k : Nat) :
    Ends (Good points ∅) Any (Encap.closeTcpSocket (some k) s >>= Encap.removeSession k) :=
  (h.closeTcpSocket _).bind fun _ ht => ht.removeSession k

theorem Good.closeEncapsulationSessions (h : Good points ∅ s) (peer : Nat → Nat)
    (address : Nat) (sessions : List SessionIndex) :
    Ends (Good points ∅) Any (closeEncapsulationSessionBySockAddr peer address sessions s) := by
  induction sessions generalizing s with
  | nil => exact h
  | cons i rest ih =>
    rw [closeEncapsulationSessionBySockAddr]
    split
    · exact ih h
    · exact (h.closeSession _).bind fun t ht => ih ht

/-- With no explicit connection there is nothing to be missed. -/
theorem Good.of_none (hwf : Wf points s.stack)
    (hnone : ∀ d, ¬Explicit (s.stack.connectionData d)) : Good points X s where
  wf := hwf
  listed d hd := absurd hd (hnone d)
  class3 d hd := absurd hd (hnone d)
  tied d hd := absurd hd (hnone d)
  single d _ hd := absurd hd (hnone d)

/-- Closing all connections leaves no explicit one. -/
theorem closeEach_explicit {nodes : List Slot} (h : closeEach nodes x = some y)
    (hlisted : ∀ d, Explicit (x.connectionData d) → d ∈ x.connectionList) :
    ∀ d ∈ nodes, ¬Explicit (y.connectionData d) := by
  induction nodes generalizing x with
  | nil => exact fun d hd => absurd hd List.not_mem_nil
  | cons c nodes ih =>
    rw [closeEach] at h
    split at h
    · obtain ⟨w, hw, hrest⟩ := Option.bind_eq_some_iff.1 h
      have hrecedes := closing_recedes.connectionCloseFunction hw
      have hlistedw : ∀ d, Explicit (w.connectionData d) → d ∈ w.connectionList := by
        intro d hd
        have hheld := hrecedes.held d hd
        exact hheld.listed (hlisted d hheld.explicit)
      intro d hd
      rcases List.mem_cons.1 hd with rfl | hd
      · intro hexplicit
        have hheld := (closing_recedes.closeEach hrest).held d hexplicit
        refine not_explicit_empty ?_
        rw [← connectionCloseFunction_empty hw]
        exact hheld.explicit
      · exact ih hrest hlistedw d hd
    · rename_i hout
      intro d hd
      rcases List.mem_cons.1 hd with rfl | hd
      · intro hexplicit
        exact hout (hlisted d ((closing_recedes.closeEach h).held d hexplicit).explicit)
      · exact ih h hlisted d hd

/-- What is left after all connections are closed: sessions, and nothing that has one. -/
def Bare (points : ConnectionPoints) (s : Network) : Prop :=
  Wf points s.stack ∧ ∀ d, ¬Explicit (s.stack.connectionData d)

theorem closeSocketOf_stack (i : SessionIndex) :
    Ends (fun t => t.stack = s.stack) Any (Encap.closeSocketOf i s) := by
  rw [Encap.closeSocketOf, Encap.closeTcpSocket]
  split
  · trivial
  · rename_i u hu
    exact (removeSocketTimerFromList_frame hu).stack

theorem Bare.shutDown (h : Bare points s) (sessions : List SessionIndex) :
    Ends (Bare points) Any (encapsulationShutDown sessions s) := by
  induction sessions generalizing s with
  | nil => exact h
  | cons i rest ih =>
    rw [encapsulationShutDown]
    split
    · refine (closeSocketOf_stack i).bind fun t ht => ih ?_
      rw [Bare, ht]
      exact h
    · exact ih h

theorem Good.shutDown (h : Good points ∅ s) :
    Ends (Good points ∅) Any (networkStep points s .shutDown) := by
  rw [networkStep]
  cases hy : closeAllConnections s.stack with
  | none => trivial
  | some y =>
    have hrecedes : Recedes s.stack y := closing_recedes.closeEach hy
    have hbare : Bare points { s with stack := y } := by
      refine ⟨h.wf.shrinks hrecedes.shrinks, ?_⟩
      intro d hd
      have hin := h.listed d (hrecedes.held d hd).explicit
      exact closeEach_explicit hy h.listed d hin hd
    exact (hbare.shutDown _).mono (fun t ht => .of_none ht.1 ht.2) fun _ he => he

/-! ## 5. Connections that time out -/

/-- **The session of a class 3 connection that times out** may end; the connection goes too. -/
theorem Good.class3TimeOut (h : Good points ∅ s) (hc : Explicit (s.stack.connectionData c)) :
    Ends (Good points ∅) Any (Encap.class3ConnectionTimeoutHandler c s) := by
  have hclosed : Ends (fun t =>
      Good points {(s.stack.connectionData c).encapsulationSession} t ∧ t.stack = s.stack) Any
      (checkForTimedOutConnections
        (closeSessionBySessionHandle (s.stack.connectionData c).encapsulationSession) c s) := by
    have hsame : Good points {(s.stack.connectionData c).encapsulationSession} s :=
      ⟨h.wf, h.listed, h.class3, fun d hd => (h.tied d hd).imp id fun hno => absurd hno id,
        h.single⟩
    rw [checkForTimedOutConnections]
    split
    · exact ⟨hsame, rfl⟩
    · rw [closeSessionBySessionHandle]
      split
      · trivial
      · rename_i i hi
        have hended := (h.closeSocketOf i).and (closeSocketOf_stack i)
        rwa [insert_empty_eq, handleOf_of_indexOf hi] at hended
  refine hclosed.map ?_
  rintro t ⟨hgood, hstack⟩
  rw [hstack]
  -- the connection is the only one of its session, and it is closed
  have hrecedes : Recedes s.stack (closeConnection c s.stack) :=
    .release ⟨0, explicit_release hc.1⟩
  have hgood' : Good points {(s.stack.connectionData c).encapsulationSession}
      { t with stack := closeConnection c s.stack } := by
    refine hgood.recedes ?_ rfl
    rw [hstack]
    exact hrecedes
  refine ⟨hgood'.wf, hgood'.listed, hgood'.class3, ?_, hgood'.single⟩
  intro d hd
  refine (hgood'.tied d hd).imp id fun hmissing => ?_
  have hheld := hrecedes.held d hd
  obtain rfl : d = c := h.single c d hc hheld.explicit (hheld.session.symm.trans hmissing)
  change Explicit ((s.stack.release d).connectionData d) at hd
  rw [release_self] at hd
  exact absurd hd not_explicit_empty

/-- What ending sessions does to the connection manager. -/
theorem closeSession_stack (k : Nat) : Ends (fun t => ∃ sessions,
    Cip.closeEncapsulationSessions sessions s.stack = some t.stack) Any
    (Encap.closeSession k s) := by
  rw [Encap.closeSession]
  split
  · exact ⟨[], rfl⟩
  · rename_i i hi
    have hclosed : Ends (fun t => t.stack = s.stack) Any (Encap.closeSocketOf i s) :=
      closeSocketOf_stack i
    rw [Encap.closeSocketOf, find_some hi] at hclosed
    refine hclosed.bind ?_
    intro t ht
    rw [Encap.closeClass3, ht]
    cases hy : closeClass3ConnectionBasedOnSession (handleOf i) s.stack with
    | none => trivial
    | some y =>
      refine ⟨[handleOf i], ?_⟩
      rw [Cip.closeEncapsulationSessions, hy]
      rfl

theorem closeEncapsulationSessions_append {sessions sessions' : List Nat}
    (h : Cip.closeEncapsulationSessions sessions x = some y) :
    Cip.closeEncapsulationSessions (sessions ++ sessions') x =
      Cip.closeEncapsulationSessions sessions' y := by
  induction sessions generalizing x with
  | nil =>
    obtain rfl := Option.some.inj h
    rfl
  | cons session sessions ih =>
    obtain ⟨w, hw, hrest⟩ := Option.bind_eq_some_iff.1 h
    rw [List.cons_append, Cip.closeEncapsulationSessions, hw, Option.bind_some]
    exact ih hrest

theorem closeSessions_stack (peer : Nat → Nat) (address : Nat) (sessions : List SessionIndex) :
    Ends (fun t => ∃ sessions, Cip.closeEncapsulationSessions sessions s.stack = some t.stack) Any
      (closeEncapsulationSessionBySockAddr peer address sessions s) := by
  induction sessions generalizing s with
  | nil => exact ⟨[], rfl⟩
  | cons i rest ih =>
    rw [closeEncapsulationSessionBySockAddr]
    split
    · exact ih
    · refine (closeSession_stack _).bind ?_
      rintro t ⟨first, hfirst⟩
      refine ih.mono ?_ fun _ he => he
      rintro u ⟨second, hsecond⟩
      exact ⟨first ++ second, (closeEncapsulationSessions_append hfirst).trans hsecond⟩

/-- **An I/O connection that times out** may end sessions of its originator. -/
theorem Good.ioTimeOut (h : Good points ∅ s) (hio : TimesOut s.stack c) (peer : Nat → Nat) :
    Ends (Good points ∅) Any (Encap.handleIoConnectionTimeOut peer c s) := by
  have hmarked : Good points ∅
      { s with stack := (s.stack.notify .timedOut).setState c .timedOut } := by
    refine h.recedes (.set ⟨1, .lower (by decide) hio.rank (by decide)⟩ rfl rfl ?_ rfl rfl) rfl
    rintro ⟨htype, -⟩
    exact ⟨htype, .inl (by rw [hio.established]; decide)⟩
  -- the sessions, and what has become of the connection manager
  have hsessions : Ends (fun t => Good points ∅ t ∧
      (t.stack = (s.stack.notify .timedOut).setState c .timedOut ∨
        ∃ sessions, Cip.closeEncapsulationSessions sessions
          ((s.stack.notify .timedOut).setState c .timedOut) = some t.stack)) Any
      (if (s.stack.connectionData c).lastPackageWatchdogTimer =
          (s.stack.connectionData c).inactivityWatchdogTimer then
        checkForTimedOutConnections (closeEncapsulationSessionBySockAddr peer
          (s.stack.connectionData c).originatorAddress
          (List.finRange numberOfSupportedSessions)) c
          { s with stack := (s.stack.notify .timedOut).setState c .timedOut }
      else .ok { s with stack := (s.stack.notify .timedOut).setState c .timedOut }) := by
    split
    · rw [checkForTimedOutConnections]
      split
      · exact ⟨hmarked, .inl rfl⟩
      · exact ((hmarked.closeEncapsulationSessions peer _ _).and
          (closeSessions_stack peer _ _)).mono (fun t ht => ⟨ht.1, .inr ht.2⟩) fun _ he => he
    · exact ⟨hmarked, .inl rfl⟩
  refine hsessions.bind ?_
  rintro t ⟨hgood, hstack⟩
  refine hgood.withStack ?_
  intro y hy
  obtain ⟨⟨handover, v⟩, hv, hrest⟩ := Option.bind_eq_some_iff.1 hy
  obtain ⟨w, hw, rfl⟩ := Option.map_eq_some_iff.1 hrest
  have hcases : (s.stack.connectionData c).instanceType = .ioExclusiveOwner ∧ handover = false ∧
      closeDependants (s.stack.connectionData c).producedPoint v = some w ∨
        ¬((s.stack.connectionData c).instanceType = .ioExclusiveOwner ∧ handover = false) ∧
          w = v := by
    by_cases howner : (s.stack.connectionData c).instanceType = .ioExclusiveOwner ∧
        handover = false
    · rw [if_pos howner] at hw
      exact .inl ⟨howner.1, howner.2, hw⟩
    · rw [if_neg howner] at hw
      exact .inr ⟨howner, (Option.some.inj hw).symm⟩
  have hrecedes : Recedes t.stack w := by
    refine (closing_recedes.handOver hv).trans ?_
    rcases hcases with ⟨-, -, hclosed⟩ | ⟨-, rfl⟩
    · exact closing_recedes.closeDependants hclosed
    · exact .refl w
  -- the connection has been TimedOut all along
  have hstate : (w.connectionData c).state = .timedOut := by
    rcases hstack with heq | ⟨sessions, hclosed⟩
    · have hsame : t.stack = (s.stack.notify .timedOut).setState c .timedOut ∨
          Cip.closeEncapsulationSessions [] ((s.stack.notify .timedOut).setState c .timedOut) =
            some t.stack := .inl heq
      exact (hio.dependants h.wf hsame hv hcases).2
    · exact (hio.dependants h.wf (.inr hclosed) hv hcases).2
  refine hrecedes.trans (.set ⟨0, .settled hstate⟩ rfl rfl ?_ rfl rfl)
  rintro ⟨htype, -⟩
  exact ⟨htype, .inl (by rw [hstate]; decide)⟩

/-! ## 6. One event -/

/-- A connection to the message router is opened with class 3, by a session that has none. -/
def OpensSeparate (handle : Nat) (x : Stack) : Request → Prop
  | .forwardOpen r => r.classId = kCipMessageRouterClassCode →
      r.connection.transportClass3 = true ∧
        ∀ d, Explicit (x.connectionData d) → (x.connectionData d).encapsulationSession ≠ handle
  | .forwardClose _ | .other => True

/-- **The condition.** -/
def Separate (s : Network) : Event → Prop
  | .received _ (.sendRequestReplyData handle request)
  | .received _ (.sendUnitData handle _ _ request) => OpensSeparate handle s.stack request
  | _ => True

/-- The new connection has the session of the request, which is registered. -/
theorem Good.opened (h : Good points ∅ s) {handle : Nat} {r : ForwardOpenRequest}
    (hregistered : checkRegisteredSessions handle s = true)
    (hsession : r.connection.encapsulationSession = handle)
    (hseparate : OpensSeparate handle s.stack (.forwardOpen r)) (hwf : Wf points y)
    (hopens : OpensExplicit r s.stack y) : Good points ∅ { s with stack := y } := by
  rcases hopens with hheld | ⟨hrouter, c, hin, hclass, hnew, hheld⟩
  · exact h.held hwf hheld rfl
  obtain ⟨hclass3, hother⟩ := hseparate hrouter
  -- the others are the old ones, and have other sessions
  have hapart : ∀ d, d ≠ c → Explicit (y.connectionData d) →
      (y.connectionData d).encapsulationSession ≠ handle := by
    intro d hdc hd
    rw [(hheld d hdc hd).session]
    exact hother d (hheld d hdc hd).explicit
  refine ⟨hwf, ?_, ?_, ?_, ?_⟩
  · intro d hd
    by_cases hdc : d = c
    · rw [hdc]
      exact hin
    · exact (hheld d hdc hd).listed (h.listed d (hheld d hdc hd).explicit)
  · intro d hd
    by_cases hdc : d = c
    · rw [hdc]
      exact hclass.trans hclass3
    · exact (hheld d hdc hd).class3.trans (h.class3 d (hheld d hdc hd).explicit)
  · intro d hd
    by_cases hdc : d = c
    · refine .inl ?_
      rw [hdc]
      change checkRegisteredSessions (y.connectionData c).encapsulationSession s = true
      rw [hnew, hsession]
      exact hregistered
    · rw [(hheld d hdc hd).session]
      exact h.tied d (hheld d hdc hd).explicit
  · intro d d' hd hd' heq
    by_cases hdc : d = c
    · by_contra hne
      rw [hdc] at heq hne
      exact hapart d' hne hd' (heq.trans (hnew.trans hsession))
    · by_cases hdc' : d' = c
      · rw [hdc'] at heq
        exact absurd (heq.symm.trans (hnew.trans hsession)) (hapart d hdc hd)
      · rw [(hheld d hdc hd).session, (hheld d' hdc' hd').session] at heq
        exact h.single d d' (hheld d hdc hd).explicit (hheld d' hdc' hd').explicit heq

theorem Good.notifyMessageRouter (h : Good points ∅ s) {handle : Nat} {request : Request}
    (hregistered : checkRegisteredSessions handle s = true)
    (hseparate : OpensSeparate handle s.stack request) :
    Ends (Good points ∅) Any (Encap.notifyMessageRouter points handle request s) := by
  cases request with
  | forwardOpen r =>
    rw [Encap.notifyMessageRouter]
    cases hopen : forwardOpen points (bySession handle r) s.stack with
    | none => trivial
    | some result =>
      obtain ⟨reply, y⟩ := result
      exact h.opened (r := bySession handle r) hregistered rfl hseparate
        (h.wf.forwardOpen hopen).1 (forwardOpen_explicit h.wf hopen)
  | forwardClose r =>
    refine h.withStack ?_
    intro y hy
    obtain ⟨⟨status, v⟩, hv, rfl⟩ := Option.map_eq_some_iff.1 hy
    unfold forwardClose at hv
    split at hv
    · cases hv
      exact .of_data ⟨0, .of_eq rfl rfl rfl⟩ rfl rfl
    · split at hv
      · obtain ⟨w, hw, heq⟩ := Option.map_eq_some_iff.1 hv
        cases heq
        exact (closing_recedes.connectionCloseFunction hw).trans
          (.of_data ⟨0, .of_eq rfl rfl rfl⟩ rfl rfl)
      · cases hv
        exact .of_data ⟨0, .of_eq rfl rfl rfl⟩ rfl rfl
  | other => exact h

/-- The timers of a connection are neither its class nor its session. -/
theorem Recedes.timers (c : Slot) (hclass : o.instanceType = (x.connectionData c).instanceType)
    (hpoint : o.producedPoint = (x.connectionData c).producedPoint)
    (hclass3 : o.transportClass3 = (x.connectionData c).transportClass3)
    (hsession : o.encapsulationSession = (x.connectionData c).encapsulationSession)
    (hstate : o.state = (x.connectionData c).state) : Recedes x (x.set c o) := by
  refine .set ⟨0, .set (.inr ⟨hclass, hpoint, hclass3, ?_⟩) ?_⟩ rfl rfl ?_ hclass3 hsession
  · rw [hstate]
  · rw [ConnectionObject.IoEstablished, ConnectionObject.IoEstablished, isTypeIoConnection,
      isTypeIoConnection, hclass, hstate]
  · rw [Explicit, Explicit, hclass, hstate, hclass3]
    exact id

/-- A session begins: those that were registered still are. -/
theorem Good.register (h : Good points ∅ s) (socket version flag : Nat) :
    Ends (Good points ∅) Any
      ((handleReceivedRegisterSessionCommand socket version flag s).map Prod.snd) := by
  rw [handleReceivedRegisterSessionCommand]
  split
  · cases find s.registeredSessions (some socket) with
    | some i => exact h
    | none =>
      cases getFreeSessionIndex s with
      | none => exact h
      | some i =>
        cases socketTimerArrayGetSocketTimer s none with
        | none => trivial
        | some timer =>
          refine ⟨h.wf, h.listed, h.class3, ?_, h.single⟩
          intro d hd
          refine (h.tied d hd).imp (fun hregistered => ?_) id
          obtain ⟨j, hj, hsession⟩ := registered_iff.1 hregistered
          refine registered_iff.2 ⟨j, hj, ?_⟩
          change put s.registeredSessions i (some socket) j ≠ none
          by_cases hji : j = i
          · rw [hji, put_self]
            exact Option.some_ne_none socket
          · rwa [put_of_ne hji]
  · exact h

theorem Good.unregister (h : Good points ∅ s) (handle : Nat) :
    Ends (Good points ∅) Any ((handleReceivedUnregisterSessionCommand handle s).map Prod.snd) := by
  rw [handleReceivedUnregisterSessionCommand]
  split
  · rename_i i _
    have hclosed : Ends (fun t => Ends (Good points ∅) Any (Encap.closeClass3 (handleOf i) t)) Any
        (Encap.closeSocketOf i s) :=
      (h.closeTcpSocket _).map fun _ ht => ht.endSession i
    exact ((hclosed.bind fun _ ht => ht).map (f := fun s => (none, s)) fun _ ht => ht).map
      fun _ ht => ht
  · exact h

theorem Good.received (h : Good points ∅ s) {socket : Nat} {command : Command}
    (hseparate : Separate s (.received socket command)) :
    Ends (Good points ∅) Any (handleDataOnTcpSocket points socket command s) := by
  have hcommand : Ends (Good points ∅) Any
      (handleReceivedExplicitTcpData points socket s command) := by
    cases command with
    | registerSession version flag => exact h.register socket version flag
    | unregisterSession handle => exact h.unregister handle
    | sendRequestReplyData handle request =>
      rw [handleReceivedExplicitTcpData]
      split
      · rename_i hregistered
        exact h.notifyMessageRouter hregistered hseparate
      · exact h
    | sendUnitData handle c repeated request =>
      have hreset : Recedes s.stack (resetInactivityWatchdogTimer c s).stack :=
        .timers c rfl rfl rfl rfl rfl
      have hgood : Good points ∅ (resetInactivityWatchdogTimer c s) := h.recedes hreset rfl
      rw [handleReceivedExplicitTcpData]
      split
      · rename_i hregistered
        split
        · exact hgood
        · refine hgood.notifyMessageRouter hregistered.1 ?_
          cases request with
          | forwardOpen r =>
            intro hrouter
            refine ⟨(hseparate hrouter).1, ?_⟩
            intro d hd
            rw [(hreset.held d hd).session]
            exact (hseparate hrouter).2 d (hreset.held d hd).explicit
          | forwardClose r => trivial
          | other => trivial
      · exact h
    | other => exact h
  refine hcommand.map ?_
  intro t ht
  split
  · exact ht
  · exact ht.congr rfl rfl

/-- **One event** keeps the explicit connections and their sessions together. -/
theorem Good.step (h : Good points ∅ s) (hseparate : Separate s e) :
    Ends (Good points ∅) Any (networkStep points s e) := by
  cases e with
  | accept socket =>
    rw [networkStep, checkAndHandleTcpListenerSocket]
    split
    · trivial
    · exact h.congr rfl rfl
  | received socket command => exact h.received hseparate
  | closedByClient socket =>
    rw [networkStep]
    split
    · trivial
    · rename_i u hu
      have hframe := removeSocketTimerFromList_frame hu
      have hgood : Good points ∅ u := h.congr hframe.registeredSessions hframe.stack
      rw [bind_assoc]
      exact (hgood.removeSession socket).bind fun _ ht => ht.failed socket
  | failed socket => exact h.failed socket
  | checkEncapsulationInactivity timeout socket =>
    rw [networkStep, Encap.checkEncapsulationInactivity]
    split
    · split
      · exact h
      · split
        · rw [bind_assoc]
          refine (h.closeClass3 _).bind fun t ht => ?_
          rw [Set.empty_sdiff] at ht
          exact ht.failed socket
        · exact h
    · exact h
  | manageConnection peer elapsedTime c =>
    rw [networkStep, Encap.manageConnection]
    split
    · rename_i hexpired
      have hcounted : Good points ∅ { s with stack := { s.stack with statistics :=
          { s.stack.statistics with
            connectionTimeouts := s.stack.statistics.connectionTimeouts + 1 } } } :=
        h.recedes (.of_data ⟨0, .of_eq rfl rfl rfl⟩ rfl rfl) rfl
      have hestablished := expired_established hexpired
      rw [Encap.connectionTimeoutFunction]
      split
      · rename_i htype
        refine hcounted.class3TimeOut ⟨htype, .inl ?_⟩
        rw [hestablished]
        decide
      all_goals
        rename_i htype
        refine hcounted.ioTimeOut ⟨?_, hestablished⟩ peer
        rw [isTypeIoConnection, htype]
    · rename_i hnot
      refine h.withStack ?_
      intro y hy
      unfold Cip.manageConnection at hy
      rw [if_neg hnot] at hy
      split at hy
      · obtain rfl := Option.some.inj hy
        exact .timers c rfl rfl rfl rfl rfl
      · obtain rfl := Option.some.inj hy
        exact .refl _
  | receivedConnectedData c fresh =>
    refine h.recedes ?_ rfl
    change Recedes s.stack (handleReceivedConnectedData c fresh s.stack)
    unfold handleReceivedConnectedData
    dsimp only
    split
    · exact .timers c rfl rfl rfl rfl rfl
    · exact .refl _
  | closeUdpSocket socket => exact h.congr rfl rfl
  | setActualTime now => exact h.congr rfl rfl
  | linkUp => exact h.recedes (.of_data ⟨0, .of_eq rfl rfl rfl⟩ rfl rfl) rfl
  | linkDown => exact h.recedes (.of_data (linkDown_shrinks s.stack) rfl rfl) rfl
  | shutDown => exact h.shutDown

/-! ## 7. Runs -/

/-- **It never hangs** in a run in which connections to the message router are opened with class 3,
and each by a session that has none yet: every explicit connection is in the list and belongs to a
session that is registered. -/
theorem no_hang {s : Network} {e : Event}
    (h : Run (halting (networkStep points)) (fun s e => Possible s e ∧ Separate s e)
      Network.init s) (hpossible : Possible s e) :
    (∀ c, Explicit (s.stack.connectionData c) → c ∈ s.stack.connectionList ∧
      checkRegisteredSessions (s.stack.connectionData c).encapsulationSession s = true) ∧
    networkStep points s e ≠ .error .hang ∧ networkStep points s e ≠ .error .outOfBounds := by
  have hgood : Good points ∅ s := by
    refine (h.ends (Q := Any) ?_ Good.init).1
    intro u e hu hcondition
    exact hu.step hcondition.2
  have hsound : Sound False s := Reached.sound (h.mono fun _ _ hcondition => hcondition.1)
  have htied : ∀ c, Explicit (s.stack.connectionData c) →
      checkRegisteredSessions (s.stack.connectionData c).encapsulationSession s = true := by
    intro c hexplicit
    rcases hgood.tied c hexplicit with hregistered | hmissing
    · exact hregistered
    · exact absurd hmissing (Set.notMem_empty _)
  -- the session of a class 3 connection is there to be closed
  have hsession : ∀ c, ClosesItsSession s c e →
      ∃ i, indexOf (s.stack.connectionData c).encapsulationSession = some i ∧
        s.registeredSessions i ≠ none := by
    intro c hcloses
    have hexplicit : Explicit (s.stack.connectionData c) := by
      cases e with
      | manageConnection peer elapsedTime d =>
        obtain ⟨-, hexpired, htype, -⟩ := hcloses
        refine ⟨htype, .inl ?_⟩
        rw [expired_established hexpired]
        decide
      | _ => exact absurd hcloses id
    exact registered_iff.1 (htied c hexplicit)
  have hends : Ends (Sound False) (fun r => r ≠ .hang ∧ r ≠ .outOfBounds) (networkStep points s e) := by
    refine hsound.step hpossible (by decide) False.elim (fun _ => by decide) ?_ ?_
    · intro c hcloses hnone
      obtain ⟨i, hi, -⟩ := hsession c hcloses
      rw [hnone] at hi
      cases hi
    · intro c hcloses i hi hfree
      obtain ⟨j, hj, hregistered⟩ := hsession c hcloses
      rw [hi] at hj
      obtain rfl := Option.some.inj hj
      exact absurd hfree hregistered
  exact ⟨fun c hc => ⟨hgood.listed c hc, htied c hc⟩, fun hhang => (hends.error hhang).1 rfl,
    fun hout => (hends.error hout).2 rfl⟩

/-- A request for a connection to the message router that times out after ten seconds. -/
def routerRequest (class3 : Bool) (serialNumber : Nat) : ForwardOpenRequest where
  connection := { ConnectionObject.empty with
    transportClass3 := class3
    server := true
    connectionSerialNumber := serialNumber
    originatorVendorId := 1
    originatorSerialNumber := 7
    oToTConnectionType := .pointToPoint
    tToOConnectionType := .pointToPoint
    inactivityWatchdogTimer := 10000 }
  onSubnet := true
  triggerValid := true
  pathError := none
  classId := kCipMessageRouterClassCode
  setupError := none

instance Possible.decidable (s : Network) : ∀ e, Decidable (Possible s e)
  | .accept socket => inferInstanceAs (Decidable (socket ∉ s.connections))
  | .received socket _ => inferInstanceAs (Decidable (socket ∈ s.connections))
  | .closedByClient socket => inferInstanceAs (Decidable (socket ∈ s.connections))
  | .failed socket => inferInstanceAs (Decidable (socket ∈ s.connections))
  | .manageConnection _ _ c => inferInstanceAs (Decidable (c ∈ s.stack.connectionList))
  | .checkEncapsulationInactivity _ _ => inferInstanceAs (Decidable True)
  | .receivedConnectedData _ _ => inferInstanceAs (Decidable True)
  | .closeUdpSocket _ => inferInstanceAs (Decidable True)
  | .setActualTime _ => inferInstanceAs (Decidable True)
  | .linkUp => inferInstanceAs (Decidable True)
  | .linkDown => inferInstanceAs (Decidable True)
  | .shutDown => inferInstanceAs (Decidable True)

/-- A connection with another class than 3 outlives its session. -/
def class1Run : List Event :=
  [.accept 54, .received 54 (.registerSession 1 0),
    .received 54 (.sendRequestReplyData 1 (.forwardOpen (routerRequest false 1))),
    .closedByClient 54]

theorem class1_explicit_hangs : ∃ s, Reached configured s ∧
    networkStep configured s (.manageConnection (fun _ => 0) 10000 (.explicit 0)) =
      .error .hang := by
  have hpossible : execMeets (halting (networkStep configured)) Possible Network.init class1Run :=
    by decide
  have hrun : Reached configured _ := exec_run hpossible rfl
  refine ⟨_, hrun, (hang_iff hrun ?_).2 ⟨.explicit 0, ⟨rfl, ?_, ?_, ?_⟩, ⟨0, by decide⟩, ?_, ?_⟩⟩
  · decide
  · decide
  · decide
  · decide
  · decide
  · decide

/-- Of two connections of one session the one that was opened first outlives it. -/
def sharedSessionRun : List Event :=
  [.accept 54, .received 54 (.registerSession 1 0),
    .received 54 (.sendRequestReplyData 1 (.forwardOpen (routerRequest true 1))),
    .received 54 (.sendRequestReplyData 1 (.forwardOpen (routerRequest true 2))),
    .closedByClient 54]

theorem shared_session_hangs : ∃ s, Reached configured s ∧
    networkStep configured s (.manageConnection (fun _ => 0) 10000 (.explicit 0)) =
      .error .hang := by
  have hpossible : execMeets (halting (networkStep configured)) Possible Network.init
      sharedSessionRun := by decide
  have hrun : Reached configured _ := exec_run hpossible rfl
  refine ⟨_, hrun, hrun.sound.hangs (c := .explicit 0) (i := ⟨0, by decide⟩)
    ⟨rfl, ?_, ?_, ?_⟩ ?_ ?_⟩
  · decide
  · decide
  · decide
  · decide
  · decide

/-- With one class 3 connection a session ends as it should. -/
theorem no_hang_one : ∃ s, s.stack.connectionList = [.explicit 0] ∧
    checkRegisteredSessions (s.stack.connectionData (.explicit 0)).encapsulationSession s = true ∧
    networkStep configured s (.closedByClient 54) ≠ .error .hang := by
  have hpossible : execMeets (halting (networkStep configured))
      (fun s e => Possible s e ∧ Separate s e) Network.init
      [.accept 54, .received 54 (.registerSession 1 0),
        .received 54 (.sendRequestReplyData 1 (.forwardOpen (routerRequest true 1)))] := by
    refine ⟨⟨by decide, trivial⟩, ⟨by decide, trivial⟩, ⟨by decide, ?_⟩, trivial⟩
    intro _
    refine ⟨rfl, ?_⟩
    intro d hd
    exact absurd hd not_explicit_empty
  have hrun := exec_run hpossible rfl
  obtain ⟨htied, hno, -⟩ := no_hang hrun (e := .closedByClient 54) (by decide)
  exact ⟨_, rfl, (htied (.explicit 0) ⟨rfl, .inr rfl⟩).2, hno⟩

end GroundTruth.Encap
