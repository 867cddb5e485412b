/-
# The state of the Identity object and the link

`g_identity.state` is written by two tasks.  The event task tells the application of the link
(`SampleApplicationNotifyLinkUp`, `SampleApplicationNotifyLinkDown`) and initialises it; the OpENer
thread tells it of the connections and of the I/O data, resets the device, and closes every
connection when it ends.  From a link-down to the next link-up the state is to be
MajorRecoverableFault, but `CheckIoConnectionEvent` enters Standby whenever its counter is zero, and
a link-down has set it to zero: the first connection that is closed after it takes the fault away,
and the thread closes all of them because the link is down.

A `CheckIoConnectionEvent` is one step here.  One that is under way when the link goes down writes
its state after the fault, and counts as coming after the link-down.

* `Wf.raises`, `Wf.silent`: which events of the stack the application hears of;
* `operational_connected`: Operational means that an I/O connection is established, in every run;
* `identity_agrees`: while nothing is raised between a link-down and the next link-up, the fault
  stays;
* `Steady.needed`: and the first event that is raised there takes it away.
-/
import GroundTruth.Opener.Lifecycle
import GroundTruth.Cip.Count

namespace GroundTruth.Cip

open GroundTruth.Lib
open GroundTruth.Opener (ThreadPhase)

/-! ## 1. The device -/

structure Device where
  stack : Stack
  /-- the OpENer thread -/
  thread : Option ThreadPhase
  /-- it is in `IdentityNoteIoActivity`, and has still to enter Operational -/
  noting : Bool
  /-- `SampleApplicationNotifyLinkDown` was called, and since then neither
  `SampleApplicationNotifyLinkUp` nor `ApplicationInitialization`; no variable of the code -/
  linkDown : Bool

def Device.powerOn : Device :=
  ⟨{ Stack.init with application := .powerOn }, none, false, false⟩

/-- Something that happens while the thread is in its loop, to the connections only. -/
def Event.inLoop : Event → Bool
  | .forwardOpen _ | .forwardClose _ | .manageConnection _ _ _ | .receivedConnectedData _ _
  | .closeSession _ => true
  | .closeAllConnections | .linkUp | .linkDown => false

inductive DeviceEvent
  /-- `opener_init` calls `CipStackInit`; then it has created the thread or not -/
  | cipStackInit (created : Bool)
  | notifyLinkUp
  | notifyLinkDown
  | connection (e : Event)
  /-- `AfterAssemblyDataReceived` or `BeforeAssemblyDataSend` calls `IdentityNoteIoActivity` -/
  | noteIoActivity
  /-- `IdentityNoteIoActivity` ends -/
  | enterOperational
  | resetDevice
  | resetDeviceToInitialConfiguration
  /-- the thread leaves its loop -/
  | leave
  /-- `ShutdownCipStack` closes the first connection of the list -/
  | closeFirst
  /-- the list is empty, and the thread ends -/
  | finish
  deriving DecidableEq, Repr

/-- The thread is in its loop, and not in the middle of anything. -/
def Device.AtLoop (d : Device) : Prop := d.thread = some .running ∧ d.noting = false

instance Device.AtLoop.decidable (d : Device) : Decidable d.AtLoop :=
  inferInstanceAs (Decidable (_ ∧ _))

def Device.apply (f : Application → Application) (d : Device) : Device :=
  { d with stack := { d.stack with application := f d.stack.application } }

def deviceStep (points : ConnectionPoints) (d : Device) : DeviceEvent → Option Device
  | .cipStackInit created =>
    if d.thread = none then
      some ⟨.init, if created = true then some .running else none, false, false⟩
    else none
  | .notifyLinkUp => some { d.apply notifyLinkUp with linkDown := false }
  | .notifyLinkDown => some { d.apply notifyLinkDown with linkDown := true }
  | .connection e =>
    if d.AtLoop ∧ e.inLoop = true then
      (stackStep points d.stack e).map fun s => { d with stack := s }
    else none
  | .noteIoActivity =>
    if d.AtLoop then
      if notesIoActivity d.stack.application = true then
        some { d.apply noteIoActivity with noting := true }
      else some d
    else none
  | .enterOperational =>
    if d.noting = true then some { d.apply enterOperational with noting := false } else none
  | .resetDevice =>
    if d.AtLoop then
      (closeAllConnections d.stack).map fun s => Device.apply resetApplication { d with stack := s }
    else none
  | .resetDeviceToInitialConfiguration =>
    if d.AtLoop then some (d.apply resetApplication) else none
  | .leave => if d.AtLoop then some { d with thread := some .finishing } else none
  | .closeFirst =>
    if d.thread = some .finishing then
      match d.stack.connectionList with
      | [] => none
      | c :: _ => (connectionCloseFunction c d.stack).map fun s => { d with stack := s }
    else none
  | .finish =>
    if d.thread = some .finishing ∧ d.stack.connectionList = [] then some { d with thread := none }
    else none

/-! ## 2. What the application hears -/

variable {s t u v : Stack} {c : Slot} {o : ConnectionObject} {points : ConnectionPoints}
  {P : Application → Prop} {a : Application} {point : Nat} {type : InstanceType}

/-- Whatever `CheckIoConnectionEvent` is called with, `P` stays. -/
def Lasting (P : Application → Prop) : Prop := ∀ a e, P a → P (checkIoConnectionEvent a e)

/-- Nothing was heard, and none the fewer connections are established. -/
structure Silent (s t : Stack) : Prop where
  application : t.application = s.application
  established : t.ioEstablished = s.ioEstablished

theorem Silent.of_shrunk (h : Shrunk 0 s t) (happ : t.application = s.application) :
    Silent s t :=
  ⟨happ, Finset.eq_of_subset_of_card_le h.tally.subset h.tally.card⟩

theorem Silent.of_tally (h : t.tally = s.tally) (happ : t.application = s.application) :
    Silent s t :=
  ⟨happ, congrArg Tally.members h⟩

theorem transferMasterConnection_application (h : transferMasterConnection c s = some t) :
    t.application = s.application := by
  obtain ⟨active, -, rfl⟩ := Option.map_eq_some_iff.1 h
  rfl

/-- **`CloseIoConnection`** raises an event before it does anything else. -/
theorem closeIoWith_lasting {f : Nat → Stack → Option Stack}
    (hf : ∀ point u v, P u.application → f point u = some v → P v.application)
    (h0 : P (checkIoConnectionEvent s.application .closed)) (h : closeIoWith f c s = some t) :
    P t.application := by
  obtain ⟨u, rfl, hu⟩ := closeIoWith_cases h
  show P u.application
  rcases hu with ⟨rfl, -⟩ | ⟨-, htransfer⟩ | ⟨-, -, hclosed⟩
  · exact h0
  · rw [transferMasterConnection_application htransfer]
    exact h0
  · exact hf _ _ _ h0 hclosed

/-- What lasts through every event lasts through closing. -/
theorem closing_lasting (hP : Lasting P) :
    Closing fun s t => Shrinks s t ∧ (P s.application → P t.application) where
  refl s := ⟨.refl s, id⟩
  trans h h' := ⟨h.1.trans h'.1, fun h0 => h'.2 (h.2 h0)⟩
  event s := ⟨closing_shrinks.event s, hP s.application .closed⟩
  mark s c := ⟨closing_shrinks.mark s c, hP s.application .closed⟩
  transfer h := by
    refine ⟨closing_shrinks.transfer h, fun h0 => ?_⟩
    rwa [transferMasterConnection_application h]
  release h := ⟨closing_shrinks.release h, id⟩
  gone h := h.1.gone

theorem closeListeners_lasting (hP : Lasting P) (h0 : P s.application)
    (h : closeListeners point s = some t) : P t.application :=
  ((closing_lasting hP).closeListeners h).2 h0

theorem closeIoConnection_lasting (hP : Lasting P)
    (h0 : P (checkIoConnectionEvent s.application .closed)) (h : closeIoConnection c s = some t) :
    P t.application :=
  closeIoWith_lasting (fun _ _ _ => closeListeners_lasting hP) h0 h

/-- **`connection_close_function`** is heard of for the I/O connections, and for no others. -/
theorem connectionCloseFunction_lasting (hP : Lasting P)
    (h0 : P (checkIoConnectionEvent s.application .closed))
    (hio : isTypeIoConnection (s.connectionData c) = true)
    (h : connectionCloseFunction c s = some t) : P t.application := by
  unfold connectionCloseFunction at h
  split at h
  · rename_i htype
    rw [isTypeIoConnection, htype] at hio
    cases hio
  · exact closeIoConnection_lasting hP h0 h
  · exact closeIoConnection_lasting hP h0 h
  · exact closeIoConnection_lasting hP h0 h

theorem explicit_of_not_io (h : isTypeIoConnection o ≠ true) :
    o.instanceType = .explicitMessaging := by
  by_contra hnot
  exact h (isTypeIoConnection_of hnot)

theorem connectionCloseFunction_silent (hio : isTypeIoConnection (s.connectionData c) ≠ true)
    (h : connectionCloseFunction c s = some t) : Silent s t := by
  have htype := explicit_of_not_io hio
  unfold connectionCloseFunction at h
  rw [htype] at h
  obtain rfl := Option.some.inj h
  exact .of_shrunk (explicit_release htype) rfl

theorem Wf.sessions_application {sessions : List Nat} (hwf : Wf points s)
    (h : Cip.closeEncapsulationSessions sessions s = some t) : t.application = s.application :=
  hwf.closeEncapsulationSessions (P := fun v w => w.application = v.application)
    (fun _ => rfl) (fun _ _ _ hvw hwx => hwx.trans hvw) (fun _ _ _ => rfl) h

/-- **`HandleIoConnectionTimeOut`** raises its event first, too. -/
theorem handleIoConnectionTimeOut_lasting {sessions : List Nat} (hP : Lasting P)
    (hwf : Wf points s) (hio : TimesOut s c)
    (h0 : P (checkIoConnectionEvent s.application .timedOut))
    (h : handleIoConnectionTimeOut sessions c s = some t) : P t.application := by
  obtain ⟨u, handover, v, w, hu, hv, hw, rfl⟩ := handleIoConnectionTimeOut_cases h
  have hmarked : Shrinks s ((s.notify .timedOut).setState c .timedOut) :=
    ⟨1, .lower (by decide) hio.rank (by decide)⟩
  have hPu : P u.application := by
    rcases hu with rfl | hclosed
    · exact h0
    · rw [(hwf.shrinks hmarked).sessions_application hclosed]
      exact h0
  have hPv : P v.application := by
    rcases handOver_cases hv with ⟨-, -, htransfer⟩ | ⟨-, -, -, hclosed⟩ | ⟨-, -, rfl⟩
    · rw [transferMasterConnection_application htransfer]
      exact hPu
    · exact closeListeners_lasting hP hPu hclosed
    · exact hPu
  show P w.application
  rcases hw with ⟨-, -, hclosed⟩ | ⟨-, rfl⟩
  · exact ((closing_lasting hP).closeDependants hclosed).2 hPv
  · exact hPv

theorem connectionTimeoutFunction_lasting {sessions : List Nat} (hP : Lasting P)
    (hwf : Wf points s) (hio : TimesOut s c)
    (h0 : P (checkIoConnectionEvent s.application .timedOut))
    (h : connectionTimeoutFunction sessions c s = some t) : P t.application := by
  unfold connectionTimeoutFunction at h
  split at h
  · rename_i htype
    have hnot := hio.io
    rw [isTypeIoConnection, htype] at hnot
    cases hnot
  · exact handleIoConnectionTimeOut_lasting hP hwf hio h0 h
  · exact handleIoConnectionTimeOut_lasting hP hwf hio h0 h
  · exact handleIoConnectionTimeOut_lasting hP hwf hio h0 h

theorem connectionTimeoutFunction_silent {sessions : List Nat}
    (hio : isTypeIoConnection (s.connectionData c) ≠ true)
    (h : connectionTimeoutFunction sessions c s = some t) : Silent s t := by
  have htype := explicit_of_not_io hio
  unfold connectionTimeoutFunction at h
  rw [htype] at h
  obtain rfl := Option.some.inj h
  exact .of_shrunk (explicit_release htype) rfl

/-! ## 3. Which events of the stack are heard of -/

/-- A Forward Open that is: something is closed for it, or it comes to its end. -/
def ForwardOpenRequest.Raises (points : ConnectionPoints) (r : ForwardOpenRequest) (s : Stack) :
    Prop :=
  refusal r s = none ∧ r.classId = kCipAssemblyClassCode ∧
    match chooseIoConnection points r.connection s with
    | .take _ => r.setupError = none
    | .reopen c => isTypeIoConnection (s.connectionData c) = true ∨ r.setupError = none
    | .refuse _ => False

/-- An event of the loop that `CheckIoConnectionEvent` is called for. -/
def Raises (points : ConnectionPoints) (s : Stack) : Event → Prop
  | .forwardOpen r => r.Raises points s
  | .forwardClose r => ∃ c, r.target s = some c ∧
    r.originatorAddress = (s.connectionData c).originatorAddress ∧
    isTypeIoConnection (s.connectionData c) = true
  | .manageConnection c elapsedTime _ =>
    expired elapsedTime (s.connectionData c) = true ∧
      isTypeIoConnection (s.connectionData c) = true
  | .receivedConnectedData _ _ | .closeSession _ | .closeAllConnections | .linkUp | .linkDown =>
    False

variable {r : ForwardOpenRequest} {reply : Reply} {e : Event}

/-- With the setup done, an opening is heard of last. -/
theorem establishIoConnection_opened {slot : Except ExtendedStatus Slot}
    (hsetup : r.setupError = none)
    (hv : getIoConnectionForConnectionData points r.connection s = some (slot, v))
    (hslot : slot = .ok c) (h : establishIoConnection points r s = some (reply, t)) :
    t.application = checkIoConnectionEvent v.application .opened := by
  unfold establishIoConnection at h
  rw [hv, hslot, Option.bind_some] at h
  dsimp only at h
  rw [hsetup] at h
  obtain ⟨x, hx, heq⟩ := Option.map_eq_some_iff.1 h
  cases heq
  have hadded : x.application = v.application := by
    unfold addNewActiveConnection at hx
    split at hx
    · obtain rfl := Option.some.inj hx
      exact (openCommunicationChannels_spec c _).2.1
    · cases hx
  rw [← hadded]
  rfl

/-- Refused, it has done nothing but the search. -/
theorem establishIoConnection_refused {slot : Except ExtendedStatus Slot}
    (hv : getIoConnectionForConnectionData points r.connection s = some (slot, v))
    (hrefused : r.setupError ≠ none ∨ ∃ error, slot = .error error)
    (h : establishIoConnection points r s = some (reply, t)) : t = v := by
  unfold establishIoConnection at h
  rw [hv, Option.bind_some] at h
  dsimp only at h
  split at h
  · cases h
    rfl
  split at h
  · cases h
    rfl
  · rename_i hsetup
    rcases hrefused with hnot | ⟨error, herror⟩
    · exact absurd hsetup hnot
    · cases herror

/-- **The search for a slot** is heard of when it closes an I/O connection. -/
theorem getIoConnection_cases {slot : Except ExtendedStatus Slot}
    (h : getIoConnectionForConnectionData points o s = some (slot, t)) :
    (∃ c, chooseIoConnection points o s = .take c ∧ slot = .ok c ∧
        t.application = s.application) ∨
      (∃ c u, chooseIoConnection points o s = .reopen c ∧ slot = .ok c ∧
        connectionCloseFunction c s = some u ∧ t.application = u.application) ∨
      ∃ error, chooseIoConnection points o s = .refuse error ∧ slot = .error error ∧ t = s := by
  unfold getIoConnectionForConnectionData at h
  cases hchoice : chooseIoConnection points o s with
  | take c =>
    rw [hchoice] at h
    cases h
    exact Or.inl ⟨c, rfl, rfl, rfl⟩
  | reopen c =>
    rw [hchoice] at h
    obtain ⟨u, hu, heq⟩ := Option.map_eq_some_iff.1 h
    cases heq
    exact Or.inr (Or.inl ⟨c, u, rfl, rfl, hu, rfl⟩)
  | refuse error =>
    rw [hchoice] at h
    cases h
    exact Or.inr (Or.inr ⟨error, rfl, rfl, rfl⟩)

/-- Past the checks, a Forward Open for the Assembly class establishes an I/O connection. -/
theorem forwardOpen_assembly (hrefusal : refusal r s = none)
    (hclass : r.classId = kCipAssemblyClassCode) (h : forwardOpen points r s = some (reply, t)) :
    ∃ u, establishIoConnection points r s = some (reply, u) ∧ t.application = u.application ∧
      t.ioEstablished = u.ioEstablished := by
  unfold forwardOpen at h
  rw [hrefusal] at h
  obtain ⟨⟨reply', u⟩, hu, heq⟩ := Option.map_eq_some_iff.1 h
  cases heq
  have hrouter : ¬ r.classId = kCipMessageRouterClassCode := by
    rw [hclass]
    decide
  rw [openConnectionFunction, if_neg hrouter, if_pos hclass] at hu
  exact ⟨u, hu, rfl, rfl⟩

/-- **A Forward Open that raises.** -/
theorem forwardOpen_lasting (hP : Lasting P)
    (h0 : ∀ e, P (checkIoConnectionEvent s.application e)) (hraises : r.Raises points s)
    (h : forwardOpen points r s = some (reply, t)) : P t.application := by
  obtain ⟨hrefusal, hclass, hchoice⟩ := hraises
  obtain ⟨u, hu, happ, -⟩ := forwardOpen_assembly hrefusal hclass h
  rw [happ]
  obtain ⟨⟨slot, v⟩, hv, -⟩ := Option.bind_eq_some_iff.1 hu
  rcases getIoConnection_cases hv with ⟨c, htake, hslot, happv⟩ |
    ⟨c, w, hreopen, hslot, hw, happv⟩ | ⟨error, hrefuse, -, -⟩
  · rw [htake] at hchoice
    rw [establishIoConnection_opened hchoice hv hslot hu, happv]
    exact h0 _
  · rw [hreopen] at hchoice
    cases hsetup : r.setupError with
    | none =>
      rw [establishIoConnection_opened hsetup hv hslot hu, happv]
      by_cases hio : isTypeIoConnection (s.connectionData c) = true
      · exact hP _ _ (connectionCloseFunction_lasting hP (h0 _) hio hw)
      · rw [(connectionCloseFunction_silent hio hw).application]
        exact h0 _
    | some error =>
      have hio : isTypeIoConnection (s.connectionData c) = true := by
        rcases hchoice with hio | hnone
        · exact hio
        · rw [hsetup] at hnone
          cases hnone
      have hrefused : r.setupError ≠ none := by
        rw [hsetup]
        exact Option.some_ne_none error
      rw [establishIoConnection_refused hv (Or.inl hrefused) hu, happv]
      exact connectionCloseFunction_lasting hP (h0 _) hio hw
  · rw [hrefuse] at hchoice
    exact hchoice.elim

theorem establishClass3Connection_application
    (h : establishClass3Connection o s = some (reply, t)) : t.application = s.application := by
  unfold establishClass3Connection at h
  split at h
  · cases h
    rfl
  obtain ⟨x, hx, heq⟩ := Option.map_eq_some_iff.1 h
  cases heq
  unfold addNewActiveConnection at hx
  split at hx
  · obtain rfl := Option.some.inj hx
    rfl
  · cases hx

/-- **A Forward Open that does not.** -/
theorem Wf.forwardOpen_silent (hwf : Wf points s) (hquiet : ¬ r.Raises points s)
    (h : Cip.forwardOpen points r s = some (reply, t)) : Silent s t := by
  cases hrefusal : refusal r s with
  | some error =>
    unfold Cip.forwardOpen at h
    rw [hrefusal] at h
    cases h
    exact ⟨rfl, rfl⟩
  | none =>
    by_cases hclass : r.classId = kCipAssemblyClassCode
    · obtain ⟨u, hu, happ, hmembers⟩ := forwardOpen_assembly hrefusal hclass h
      suffices hsu : Silent s u from ⟨happ.trans hsu.application, hmembers.trans hsu.established⟩
      obtain ⟨⟨slot, v⟩, hv, -⟩ := Option.bind_eq_some_iff.1 hu
      rcases hwf.getIoConnection (refusal_class3 hrefusal hclass) hv with ⟨error, rfl, rfl⟩ |
        ⟨c, w, rfl, -, -, -, htally, hw⟩
      · obtain rfl := establishIoConnection_refused hv (Or.inr ⟨error, rfl⟩) hu
        exact ⟨rfl, rfl⟩
      -- a slot was found, so the setup has failed
      rcases hw with ⟨rfl, htake⟩ | ⟨hreopen, hclosed⟩
      · have hsetup : r.setupError ≠ none := by
          intro hnone
          refine hquiet ⟨hrefusal, hclass, ?_⟩
          rw [htake]
          exact hnone
        obtain rfl := establishIoConnection_refused hv (Or.inl hsetup) hu
        refine .of_tally htally ?_
        unfold getIoConnectionForConnectionData at hv
        rw [htake] at hv
        cases hv
        rfl
      · have hboth : ¬ (isTypeIoConnection (s.connectionData c) = true ∨ r.setupError = none) := by
          intro hraises
          refine hquiet ⟨hrefusal, hclass, ?_⟩
          rw [hreopen]
          exact hraises
        obtain ⟨hio, hsetup⟩ := not_or.1 hboth
        obtain rfl := establishIoConnection_refused hv (Or.inl hsetup) hu
        have hsilent := connectionCloseFunction_silent hio hclosed
        refine ⟨?_, (congrArg Tally.members htally).trans hsilent.established⟩
        unfold getIoConnectionForConnectionData at hv
        rw [hreopen] at hv
        dsimp only at hv
        rw [hclosed] at hv
        cases hv
        exact hsilent.application
    · unfold Cip.forwardOpen at h
      rw [hrefusal] at h
      obtain ⟨⟨reply', u⟩, hu, heq⟩ := Option.map_eq_some_iff.1 h
      cases heq
      unfold openConnectionFunction at hu
      split at hu
      · have happ := establishClass3Connection_application hu
        exact ⟨happ, congrArg Tally.members (hwf.establishClass3Connection hu).2⟩
      · cases hu
        exact ⟨rfl, rfl⟩

/-- **The events that raise** make `P` of the application, and it stays. -/
theorem Wf.raises (hwf : Wf points s) (hP : Lasting P)
    (h0 : ∀ e, P (checkIoConnectionEvent s.application e)) (hraises : Raises points s e)
    (h : stackStep points s e = some t) : P t.application := by
  cases e with
  | forwardOpen r =>
    obtain ⟨⟨reply, v⟩, hv, rfl⟩ := Option.map_eq_some_iff.1 h
    exact forwardOpen_lasting hP h0 hraises hv
  | forwardClose r =>
    obtain ⟨c, htarget, haddress, hio⟩ := hraises
    obtain ⟨⟨status, v⟩, hv, rfl⟩ := Option.map_eq_some_iff.1 h
    unfold forwardClose at hv
    rw [htarget] at hv
    dsimp only at hv
    rw [if_pos haddress] at hv
    obtain ⟨u, hu, heq⟩ := Option.map_eq_some_iff.1 hv
    cases heq
    have hPu := connectionCloseFunction_lasting hP (h0 _) hio hu
    exact hPu
  | manageConnection c elapsedTime sessions =>
    obtain ⟨hexpired, hio⟩ := hraises
    rw [stackStep] at h
    split at h
    swap
    · cases h
    rcases manageConnection_cases h with ⟨-, n, htimeout⟩ | ⟨hnot, -⟩
    · have hwf' : Wf points { s with statistics := n } := ⟨hwf.listed, hwf.owner, hwf.class3⟩
      exact connectionTimeoutFunction_lasting hP hwf' ⟨hio, expired_established hexpired⟩ (h0 _)
        htimeout
    · rw [hexpired] at hnot
      cases hnot
  | receivedConnectedData c fresh => exact hraises.elim
  | closeSession session => exact hraises.elim
  | closeAllConnections => exact hraises.elim
  | linkUp => exact hraises.elim
  | linkDown => exact hraises.elim

/-- **The others** change nothing for it. -/
theorem Wf.silent (hwf : Wf points s) (hloop : e.inLoop = true) (hquiet : ¬ Raises points s e)
    (h : stackStep points s e = some t) : Silent s t := by
  cases e with
  | forwardOpen r =>
    obtain ⟨⟨reply, v⟩, hv, rfl⟩ := Option.map_eq_some_iff.1 h
    exact hwf.forwardOpen_silent hquiet hv
  | forwardClose r =>
    obtain ⟨⟨status, v⟩, hv, rfl⟩ := Option.map_eq_some_iff.1 h
    unfold forwardClose at hv
    split at hv
    · cases hv
      exact ⟨rfl, rfl⟩
    rename_i c htarget
    split at hv
    · rename_i haddress
      obtain ⟨u, hu, heq⟩ := Option.map_eq_some_iff.1 hv
      cases heq
      have hsilent : Silent s u :=
        connectionCloseFunction_silent (fun hio => hquiet ⟨c, htarget, haddress, hio⟩) hu
      exact ⟨hsilent.application, hsilent.established⟩
    · cases hv
      exact ⟨rfl, rfl⟩
  | manageConnection c elapsedTime sessions =>
    rw [stackStep] at h
    split at h
    swap
    · cases h
    rcases manageConnection_cases h with ⟨hexpired, n, htimeout⟩ | ⟨hexpired, hsame⟩
    · have hio : isTypeIoConnection (s.connectionData c) ≠ true :=
        fun hio => hquiet ⟨hexpired, hio⟩
      have hsilent : Silent { s with statistics := n } t :=
        connectionTimeoutFunction_silent hio htimeout
      exact ⟨hsilent.application, hsilent.established⟩
    · refine .of_shrunk hsame ?_
      have hnot : ¬ expired elapsedTime (s.connectionData c) = true := by
        rw [hexpired]
        exact Bool.false_ne_true
      unfold Cip.manageConnection at h
      dsimp only at h
      rw [if_neg hnot] at h
      split at h
      · obtain rfl := Option.some.inj h
        rfl
      · obtain rfl := Option.some.inj h
        rfl
  | receivedConnectedData c fresh =>
    obtain rfl := Option.some.inj h
    refine .of_shrunk (handleReceivedConnectedData_shrunk c fresh s) ?_
    unfold handleReceivedConnectedData
    dsimp only
    split
    · rfl
    · rfl
  | closeSession session =>
    rcases hwf.closeClass3 h with rfl | ⟨c, htype, rfl⟩
    · exact ⟨rfl, rfl⟩
    · exact .of_shrunk (explicit_release htype) rfl
  | closeAllConnections => cases hloop
  | linkUp => cases hloop
  | linkDown => cases hloop

/-! ## 4. Every run -/

variable {d d' : Device} {x : DeviceEvent}

/-- Operational means that the counter is not zero.  So it does whenever an event has been heard,
whatever there was before. -/
def Shows (a : Application) : Prop := a.identityState = .operational → 0 < a.activeIoConnections

theorem shows_heard (a : Application) (e : IoConnectionEvent) :
    Shows (checkIoConnectionEvent a e) := by
  intro hstate
  rcases checkIoConnectionEvent_cases a e with hstandby | ⟨-, -, hcount⟩
  · rw [hstandby] at hstate
    cases hstate
  · exact hcount

/-- What holds in every state. -/
structure Device.Sound (points : ConnectionPoints) (d : Device) : Prop where
  wf : Wf points d.stack
  bounded : d.stack.tally.Bounded
  noting : d.noting = true → d.thread = some .running ∧ d.stack.ioEstablished.Nonempty
  operational : d.stack.application.identityState = .operational →
    d.stack.ioEstablished.Nonempty

theorem Wf.application (hwf : Wf points s) (a : Application) :
    Wf points { s with application := a } :=
  ⟨hwf.listed, hwf.owner, hwf.class3⟩

/-- A counter that is not zero counts a connection. -/
theorem Device.Sound.connected (h : d.Sound points)
    (hcount : 0 < d.stack.application.activeIoConnections) : d.stack.ioEstablished.Nonempty :=
  Finset.card_pos.1 (hcount.trans_le h.bounded)

/-- The connections have changed, and the application has heard of it or there is nothing that it
could have heard of. -/
theorem Device.Sound.changed (h : d.Sound points) (hnoting : d.noting = false)
    (hwf : Wf points t) (hbounded : t.tally.Bounded)
    (hheard : Silent d.stack t ∨ Shows t.application) :
    Device.Sound points { d with stack := t } := by
  refine ⟨hwf, hbounded, ?_, ?_⟩
  · intro htrue
    rw [hnoting] at htrue
    cases htrue
  · intro hstate
    have hstate' : t.application.identityState = .operational := hstate
    show t.ioEstablished.Nonempty
    rcases hheard with hsilent | hshows
    · rw [hsilent.application] at hstate'
      rw [hsilent.established]
      exact h.operational hstate'
    · exact Finset.card_pos.1 ((hshows hstate').trans_le hbounded)

/-- The application alone has changed, and is not Operational. -/
theorem Device.Sound.entered (h : d.Sound points) {f : Application → Application}
    (hcount : (f d.stack.application).activeIoConnections ≤ d.stack.application.activeIoConnections)
    (hstate : (f d.stack.application).identityState ≠ .operational) :
    (d.apply f).Sound points :=
  ⟨h.wf.application _, hcount.trans h.bounded, h.noting, fun hop => absurd hop hstate⟩

theorem Device.AtLoop.noting (h : d.AtLoop) : d.noting = false := h.2

theorem Device.Sound.step (h : d.Sound points) (hs : deviceStep points d x = some d') :
    d'.Sound points := by
  cases x with
  | cipStackInit created =>
    obtain ⟨-, hs⟩ := Option.ite_none_right_eq_some.1 hs
    obtain rfl := Option.some.inj hs
    exact ⟨.init, Nat.zero_le _, fun hno => (by cases hno), fun hno => (by cases hno)⟩
  | notifyLinkUp =>
    obtain rfl := Option.some.inj hs
    have hup := h.entered (f := notifyLinkUp) (Nat.le_refl _) IdentityState.noConfusion
    exact ⟨hup.wf, hup.bounded, hup.noting, hup.operational⟩
  | notifyLinkDown =>
    obtain rfl := Option.some.inj hs
    have hdown := h.entered (f := notifyLinkDown) (Nat.zero_le _) IdentityState.noConfusion
    exact ⟨hdown.wf, hdown.bounded, hdown.noting, hdown.operational⟩
  | connection e =>
    obtain ⟨hloop, hs⟩ := Option.ite_none_right_eq_some.1 hs
    obtain ⟨t, ht, rfl⟩ := Option.map_eq_some_iff.1 hs
    obtain ⟨hwf, hbounded⟩ := h.wf.step_bounded h.bounded ht
    refine h.changed hloop.1.noting hwf hbounded ?_
    by_cases hraises : Raises points d.stack e
    · refine Or.inr (h.wf.raises ?_ (shows_heard _) hraises ht)
      exact fun a e _ => shows_heard a e
    · exact Or.inl (h.wf.silent hloop.2 hraises ht)
  | noteIoActivity =>
    obtain ⟨hloop, hs⟩ := Option.ite_none_right_eq_some.1 hs
    split at hs
    · -- the connections are the thread's own: none goes before it enters Operational
      rename_i hcount
      obtain rfl := Option.some.inj hs
      have hconnected := h.connected (of_decide_eq_true hcount)
      exact ⟨h.wf.application _, h.bounded, fun _ => ⟨hloop.1, hconnected⟩, fun _ => hconnected⟩
    · obtain rfl := Option.some.inj hs
      exact h
  | enterOperational =>
    obtain ⟨hnoting, hs⟩ := Option.ite_none_right_eq_some.1 hs
    obtain rfl := Option.some.inj hs
    exact ⟨h.wf.application _, h.bounded, fun hno => (by cases hno),
      fun _ => (h.noting hnoting).2⟩
  | resetDevice =>
    obtain ⟨hloop, hs⟩ := Option.ite_none_right_eq_some.1 hs
    obtain ⟨t, ht, rfl⟩ := Option.map_eq_some_iff.1 hs
    have hwf := h.wf.shrinks (closing_shrinks.closeEach ht)
    refine ⟨hwf.application _, Nat.zero_le _, ?_, fun hno => (by cases hno)⟩
    intro htrue
    exact absurd (hloop.noting.symm.trans htrue) Bool.false_ne_true
  | resetDeviceToInitialConfiguration =>
    obtain ⟨-, hs⟩ := Option.ite_none_right_eq_some.1 hs
    obtain rfl := Option.some.inj hs
    exact h.entered (Nat.zero_le _) IdentityState.noConfusion
  | leave =>
    obtain ⟨hloop, hs⟩ := Option.ite_none_right_eq_some.1 hs
    obtain rfl := Option.some.inj hs
    refine ⟨h.wf, h.bounded, ?_, h.operational⟩
    intro htrue
    exact absurd (hloop.noting.symm.trans htrue) Bool.false_ne_true
  | closeFirst =>
    obtain ⟨hfinishing, hs⟩ := Option.ite_none_right_eq_some.1 hs
    split at hs
    · cases hs
    rename_i c nodes hlist
    obtain ⟨t, ht, rfl⟩ := Option.map_eq_some_iff.1 hs
    obtain ⟨k, hk⟩ := closing_shrinks.connectionCloseFunction ht
    have hnoting : d.noting = false := by
      by_contra hnot
      have hrunning := (h.noting (Bool.eq_true_of_not_eq_false hnot)).1
      rw [hfinishing] at hrunning
      cases hrunning
    refine h.changed hnoting (h.wf.shrinks ⟨k, hk⟩) (hk.tally.bounded h.bounded) ?_
    by_cases hio : isTypeIoConnection (d.stack.connectionData c) = true
    · refine Or.inr (connectionCloseFunction_lasting ?_ (shows_heard _ _) hio ht)
      exact fun a e _ => shows_heard a e
    · exact Or.inl (connectionCloseFunction_silent hio ht)
  | finish =>
    obtain ⟨hfinishing, hs⟩ := Option.ite_none_right_eq_some.1 hs
    obtain rfl := Option.some.inj hs
    refine ⟨h.wf, h.bounded, ?_, h.operational⟩
    intro hnoting
    have hrunning := (h.noting hnoting).1
    rw [hfinishing.1] at hrunning
    cases hrunning

/-- **Operational means connected**, in every run. -/
theorem operational_connected (h : Reach (deviceStep points) .powerOn d)
    (hstate : d.stack.application.identityState = .operational) :
    ∃ c, (d.stack.connectionData c).IoEstablished := by
  have hsound : d.Sound points := by
    refine h.invariant (P := Device.Sound points) ?_ ?_
    · intro d x d' hd _ hs
      exact hd.step hs
    · exact ⟨Wf.init.application _, Nat.zero_le _, fun hno => (by cases hno),
        fun hno => (by cases hno)⟩
  obtain ⟨c, hc⟩ := hsound.operational hstate
  exact ⟨c, mem_ioEstablished.1 hc⟩

/-- **The state of the Identity object** agrees with the link and with the connections. -/
structure Device.Agrees (d : Device) : Prop where
  fault : d.linkDown = true → d.stack.application.identityState = .majorRecoverableFault
  operational : d.stack.application.identityState = .operational →
    ∃ c, (d.stack.connectionData c).IoEstablished

/-- **The condition.**  From a link-down to the next link-up or initialisation no event is raised
for a connection, the device is not reset, and the thread does not come to the end of an
`IdentityNoteIoActivity`. -/
def Steady (points : ConnectionPoints) (d : Device) : DeviceEvent → Prop
  | .connection e => d.linkDown = true → ¬ Raises points d.stack e
  | .closeFirst => d.linkDown = true →
    ∀ c, d.stack.connectionList.head? = some c →
      isTypeIoConnection (d.stack.connectionData c) = false
  | .enterOperational | .resetDevice | .resetDeviceToInitialConfiguration => d.linkDown = false
  | .cipStackInit _ | .notifyLinkUp | .notifyLinkDown | .noteIoActivity | .leave | .finish => True

/-- The fault stands, and the counter is where the link-down has left it. -/
def Device.Faulted (d : Device) : Prop := d.linkDown = true →
  d.stack.application.identityState = .majorRecoverableFault ∧
    d.stack.application.activeIoConnections = 0

/-- Nothing has been heard. -/
theorem Device.Faulted.silent (h : d.Faulted) (hsilent : d.linkDown = true → Silent d.stack t) :
    Device.Faulted { d with stack := t } := by
  intro hdown
  show t.application.identityState = _ ∧ t.application.activeIoConnections = 0
  rw [(hsilent hdown).application]
  exact h hdown

/-- **A steady step** keeps the fault. -/
theorem Device.Faulted.step (h : d.Faulted) (hsound : d.Sound points)
    (hsteady : Steady points d x) (hs : deviceStep points d x = some d') : d'.Faulted := by
  have hnever : d.linkDown = false → ∀ {e : Device}, e.linkDown = d.linkDown → e.Faulted := by
    intro hup e he hdown
    rw [he, hup] at hdown
    cases hdown
  cases x with
  | cipStackInit created =>
    obtain ⟨-, hs⟩ := Option.ite_none_right_eq_some.1 hs
    obtain rfl := Option.some.inj hs
    exact fun hno => (by cases hno)
  | notifyLinkUp =>
    obtain rfl := Option.some.inj hs
    exact fun hno => (by cases hno)
  | notifyLinkDown =>
    obtain rfl := Option.some.inj hs
    exact fun _ => ⟨rfl, rfl⟩
  | connection e =>
    obtain ⟨hloop, hs⟩ := Option.ite_none_right_eq_some.1 hs
    obtain ⟨t, ht, rfl⟩ := Option.map_eq_some_iff.1 hs
    exact h.silent fun hdown => hsound.wf.silent hloop.2 (hsteady hdown) ht
  | noteIoActivity =>
    obtain ⟨-, hs⟩ := Option.ite_none_right_eq_some.1 hs
    split at hs
    · obtain rfl := Option.some.inj hs
      exact h
    · obtain rfl := Option.some.inj hs
      exact h
  | enterOperational =>
    obtain ⟨-, hs⟩ := Option.ite_none_right_eq_some.1 hs
    obtain rfl := Option.some.inj hs
    exact hnever hsteady rfl
  | resetDevice =>
    obtain ⟨-, hs⟩ := Option.ite_none_right_eq_some.1 hs
    obtain ⟨t, -, rfl⟩ := Option.map_eq_some_iff.1 hs
    exact hnever hsteady rfl
  | resetDeviceToInitialConfiguration =>
    obtain ⟨-, hs⟩ := Option.ite_none_right_eq_some.1 hs
    obtain rfl := Option.some.inj hs
    exact hnever hsteady rfl
  | leave =>
    obtain ⟨-, hs⟩ := Option.ite_none_right_eq_some.1 hs
    obtain rfl := Option.some.inj hs
    exact h
  | closeFirst =>
    obtain ⟨-, hs⟩ := Option.ite_none_right_eq_some.1 hs
    split at hs
    · cases hs
    rename_i c nodes hlist
    obtain ⟨t, ht, rfl⟩ := Option.map_eq_some_iff.1 hs
    refine h.silent fun hdown => connectionCloseFunction_silent ?_ ht
    rw [hsteady hdown c (by rw [hlist]; rfl)]
    exact Bool.false_ne_true
  | finish =>
    obtain ⟨-, hs⟩ := Option.ite_none_right_eq_some.1 hs
    obtain rfl := Option.some.inj hs
    exact h

theorem faulted_of_run (h : Run (deviceStep points) (Steady points) .powerOn d) :
    d.Sound points ∧ d.Faulted := by
  refine h.invariant (P := fun d => d.Sound points ∧ d.Faulted) ?_ ⟨?_, ?_⟩
  · rintro d x d' ⟨hsound, hfaulted⟩ hsteady hs
    exact ⟨hsound.step hs, hfaulted.step hsound hsteady hs⟩
  · exact ⟨Wf.init.application _, Nat.zero_le _, fun hno => (by cases hno),
      fun hno => (by cases hno)⟩
  · exact fun hno => (by cases hno)

/-- **The state of the Identity object agrees with the link** in every steady run. -/
theorem identity_agrees (points : ConnectionPoints) {d : Device}
    (h : Run (deviceStep points) (Steady points) .powerOn d) : d.Agrees where
  fault := fun hdown => ((faulted_of_run h).2 hdown).1
  operational := operational_connected h.reach

/-- The events that are raised while the counter is zero enter Standby. -/
theorem heard_at_zero (h : a.activeIoConnections = 0) (e : IoConnectionEvent) :
    (checkIoConnectionEvent a e).identityState ≠ .majorRecoverableFault := by
  rcases checkIoConnectionEvent_cases a e with hstandby | ⟨-, hcount, -⟩
  · rw [hstandby]
    exact IdentityState.noConfusion
  · exact absurd h (Nat.ne_of_gt hcount)

/-- No event enters a fault. -/
theorem lasting_not_fault : Lasting fun a => a.identityState ≠ .majorRecoverableFault := by
  intro a e h
  rcases checkIoConnectionEvent_cases a e with hstandby | ⟨hsame, -, -⟩
  · rw [hstandby]
    exact IdentityState.noConfusion
  · rw [hsame]
    exact h

/-- **The condition is needed**: the first step that does not meet it takes the fault away. -/
theorem Steady.needed (h : Run (deviceStep points) (Steady points) .powerOn d)
    (hnot : ¬ Steady points d x) (hs : deviceStep points d x = some d') : ¬ d'.Agrees := by
  obtain ⟨hsound, hfaulted⟩ := faulted_of_run h
  intro hagrees
  cases x with
  | cipStackInit created => exact hnot trivial
  | notifyLinkUp => exact hnot trivial
  | notifyLinkDown => exact hnot trivial
  | connection e =>
    obtain ⟨hdown, hraises⟩ := Classical.not_imp.1 hnot
    obtain ⟨-, hs⟩ := Option.ite_none_right_eq_some.1 hs
    obtain ⟨t, ht, rfl⟩ := Option.map_eq_some_iff.1 hs
    exact hsound.wf.raises lasting_not_fault (heard_at_zero (hfaulted hdown).2)
      (Classical.not_not.1 hraises) ht (hagrees.fault hdown)
  | noteIoActivity => exact hnot trivial
  | enterOperational =>
    obtain ⟨-, hs⟩ := Option.ite_none_right_eq_some.1 hs
    obtain rfl := Option.some.inj hs
    exact IdentityState.noConfusion (hagrees.fault (Bool.eq_true_of_not_eq_false hnot))
  | resetDevice =>
    obtain ⟨-, hs⟩ := Option.ite_none_right_eq_some.1 hs
    obtain ⟨t, -, rfl⟩ := Option.map_eq_some_iff.1 hs
    exact IdentityState.noConfusion (hagrees.fault (Bool.eq_true_of_not_eq_false hnot))
  | resetDeviceToInitialConfiguration =>
    obtain ⟨-, hs⟩ := Option.ite_none_right_eq_some.1 hs
    obtain rfl := Option.some.inj hs
    exact IdentityState.noConfusion (hagrees.fault (Bool.eq_true_of_not_eq_false hnot))
  | leave => exact hnot trivial
  | closeFirst =>
    obtain ⟨hdown, hio⟩ := Classical.not_imp.1 hnot
    obtain ⟨-, hs⟩ := Option.ite_none_right_eq_some.1 hs
    split at hs
    · cases hs
    rename_i c nodes hlist
    obtain ⟨t, ht, rfl⟩ := Option.map_eq_some_iff.1 hs
    have hio' : isTypeIoConnection (d.stack.connectionData c) = true := by
      by_contra hno
      refine hio fun c' hc' => ?_
      rw [hlist] at hc'
      obtain rfl := Option.some.inj hc'
      exact Bool.eq_false_iff.2 hno
    exact connectionCloseFunction_lasting lasting_not_fault
      (heard_at_zero (hfaulted hdown).2 _) hio' ht (hagrees.fault hdown)
  | finish => exact hnot trivial

/-! ## 5. Where it goes wrong -/

instance ForwardOpenRequest.Raises.decidable (points : ConnectionPoints) (r : ForwardOpenRequest)
    (s : Stack) : Decidable (r.Raises points s) :=
  haveI : Decidable (match chooseIoConnection points r.connection s with
      | .take _ => r.setupError = none
      | .reopen c => isTypeIoConnection (s.connectionData c) = true ∨ r.setupError = none
      | .refuse _ => False) :=
    match chooseIoConnection points r.connection s with
    | .take _ => inferInstanceAs (Decidable (_ = _))
    | .reopen _ => inferInstanceAs (Decidable (_ ∨ _))
    | .refuse _ => inferInstanceAs (Decidable False)
  inferInstanceAs (Decidable (_ ∧ _ ∧ _))

instance Raises.decidable (points : ConnectionPoints) (s : Stack) :
    ∀ e, Decidable (Raises points s e)
  | .forwardOpen r => inferInstanceAs (Decidable (r.Raises points s))
  | .forwardClose _ => inferInstanceAs (Decidable (∃ _c, _ ∧ _ ∧ _))
  | .manageConnection _ _ _ => inferInstanceAs (Decidable (_ ∧ _))
  | .receivedConnectedData _ _ | .closeSession _ | .closeAllConnections | .linkUp | .linkDown =>
    inferInstanceAs (Decidable False)

instance Steady.decidable (points : ConnectionPoints) (d : Device) :
    ∀ x, Decidable (Steady points d x)
  | .connection e => inferInstanceAs (Decidable (_ → ¬ Raises points d.stack e))
  | .closeFirst => inferInstanceAs (Decidable (_ → ∀ _c, _ → _))
  | .enterOperational | .resetDevice | .resetDeviceToInitialConfiguration =>
    inferInstanceAs (Decidable (_ = _))
  | .cipStackInit _ | .notifyLinkUp | .notifyLinkDown | .noteIoActivity | .leave | .finish =>
    inferInstanceAs (Decidable True)

/-- An explicit connection. -/
def benchExplicit : ForwardOpenRequest :=
  { benchOpen 2 150 with
    connection := { (benchOpen 2 150).connection with transportClass3 := true, server := true }
    classId := kCipMessageRouterClassCode }

/-- The device starts, the exclusive owner is connected, and there is I/O data. -/
def benchOperational : List DeviceEvent :=
  [.cipStackInit true, .notifyLinkUp, .connection (.forwardOpen (benchOpen 1 150)),
    .noteIoActivity, .enterOperational]

/-- The exclusive owner closes its connection; an explicit one is there when the link goes down,
and is closed when the thread ends. -/
def benchUnplugged : List DeviceEvent :=
  benchOperational ++ [.connection (.forwardClose (benchClose 1)),
    .connection (.forwardOpen benchExplicit), .notifyLinkDown, .leave, .closeFirst, .finish]

/-- The state along such a run. -/
theorem identity_agrees_unplugged :
    ∃ d, exec (deviceStep configured) .powerOn benchUnplugged = some d ∧ d.linkDown = true ∧
      d.Agrees := by
  have hmeets : execMeets (deviceStep configured) (Steady configured) .powerOn
      benchUnplugged := by
    decide +kernel
  have hdown : (exec (deviceStep configured) .powerOn benchUnplugged).map Device.linkDown =
      some true := by
    decide +kernel
  obtain ⟨d, hd, hlast⟩ := Option.map_eq_some_iff.1 hdown
  exact ⟨d, hd, hlast, identity_agrees configured (exec_run hmeets hd)⟩

/-- The cable is pulled: the thread ends, and closes the connection. -/
def benchShutdown : List DeviceEvent := benchOperational ++ [.notifyLinkDown, .leave, .closeFirst]

/-- It is pulled while I/O data is noted. -/
def benchRace : List DeviceEvent :=
  benchOperational ++ [.noteIoActivity, .notifyLinkDown, .enterOperational]

/-- **The fault is gone while the link is down**: Standby once the thread has closed the
connection, and Operational after the race. -/
theorem fault_lost :
    (∃ d, Reach (deviceStep configured) .powerOn d ∧ d.linkDown = true ∧
        d.stack.application.identityState = .standby ∧ ¬ d.Agrees) ∧
      ∃ d, Reach (deviceStep configured) .powerOn d ∧ d.linkDown = true ∧
        d.stack.application.identityState = .operational ∧ ¬ d.Agrees := by
  have hread : ∀ (xs : List DeviceEvent) (q : IdentityState), q ≠ .majorRecoverableFault →
      (exec (deviceStep configured) .powerOn xs).map
        (fun d => (d.linkDown, d.stack.application.identityState)) = some (true, q) →
      ∃ d, Reach (deviceStep configured) .powerOn d ∧ d.linkDown = true ∧
        d.stack.application.identityState = q ∧ ¬ d.Agrees := by
    intro xs q hq hrun
    obtain ⟨d, hd, heq⟩ := Option.map_eq_some_iff.1 hrun
    obtain ⟨hdown, hstate⟩ := Prod.mk.injEq .. ▸ heq
    exact ⟨d, exec_reach hd, hdown, hstate,
      fun hagrees => hq (hstate.symm.trans (hagrees.fault hdown))⟩
  exact ⟨hread benchShutdown _ (by decide) (by decide +kernel),
    hread benchRace _ (by decide) (by decide +kernel)⟩

end GroundTruth.Cip
