/-
# What closing and timing out can do

Nothing but the opening of a connection brings a connection into being.  Everything else takes
connections down, and raises events for it: at least one for each I/O connection that stops being
established, and possibly more.  `Shrunk k s t` says this once, with `k` the number of events, and
each function of `Cip/Close.lean` is shown to be of this kind, for whatever `k`.

* `Faded`: what may become of a connection object meanwhile;
* `Shrunk.trans`: such steps compose;
* `Spares`: what the functions leave alone, whatever they close;
* `Wf`: what connection objects, the list and the pools have to do with each other.
-/
import GroundTruth.Lib.Tally
import GroundTruth.Cip.Manager

namespace GroundTruth.Cip

open GroundTruth.Lib

/-! ## 1. The established I/O connections -/

/-- An I/O connection in the state Established. -/
def ConnectionObject.IoEstablished (o : ConnectionObject) : Prop :=
  isTypeIoConnection o = true ∧ o.state = .established

instance ConnectionObject.IoEstablished.decidable (o : ConnectionObject) :
    Decidable o.IoEstablished :=
  inferInstanceAs (Decidable (_ ∧ _))

/-- The I/O connections in the state Established. -/
def Stack.ioEstablished (s : Stack) : Finset Slot :=
  Finset.univ.filter fun c => (s.connectionData c).IoEstablished

/-- The counter of the application, and what it is to count. -/
def Stack.tally (s : Stack) : Tally Slot := ⟨s.application.activeIoConnections, s.ioEstablished⟩

variable {s t u : Stack} {c d : Slot} {o o' : ConnectionObject} {q : ConnectionState}
  {p : ConnectionObject → Bool} {points : ConnectionPoints}

theorem mem_ioEstablished : c ∈ s.ioEstablished ↔ (s.connectionData c).IoEstablished := by
  simp [Stack.ioEstablished]

@[simp] theorem set_self : (s.set c o).connectionData c = o := Function.update_self ..

theorem set_of_ne (h : d ≠ c) : (s.set c o).connectionData d = s.connectionData d :=
  Function.update_of_ne h ..

@[simp] theorem setState_self :
    (s.setState c q).connectionData c = { s.connectionData c with state := q } := set_self

theorem setState_of_ne (h : d ≠ c) : (s.setState c q).connectionData d = s.connectionData d :=
  set_of_ne h

@[simp] theorem release_self : (s.release c).connectionData c = .empty := set_self

theorem release_of_ne (h : d ≠ c) : (s.release c).connectionData d = s.connectionData d :=
  set_of_ne h

@[simp] theorem release_connectionList :
    (s.release c).connectionList = s.connectionList.erase c := rfl

/-- **Setting one connection object** adds it to the established ones or takes it away. -/
theorem ioEstablished_set : (s.set c o).ioEstablished =
    if o.IoEstablished then insert c s.ioEstablished else s.ioEstablished.erase c := by
  ext d
  rw [mem_ioEstablished]
  by_cases hd : d = c
  · subst hd
    rw [set_self]
    split
    · simp [*]
    · simp [*]
  · rw [set_of_ne hd]
    split
    · simp [hd, mem_ioEstablished]
    · simp [hd, mem_ioEstablished]

/-- Nothing changes as long as the object is as much established as it was. -/
theorem ioEstablished_set_of_iff (h : o.IoEstablished ↔ (s.connectionData c).IoEstablished) :
    (s.set c o).ioEstablished = s.ioEstablished := by
  rw [ioEstablished_set]
  by_cases ho : o.IoEstablished
  · rw [if_pos ho]
    exact Finset.insert_eq_of_mem (mem_ioEstablished.2 (h.1 ho))
  · rw [if_neg ho]
    exact Finset.erase_eq_of_notMem fun hc => ho (h.2 (mem_ioEstablished.1 hc))

theorem not_ioEstablished_of_state (h : o.state ≠ .established) : ¬ o.IoEstablished :=
  fun ho => h ho.2

/-! ## 2. Going down -/

/-- Established, then timed out, then gone. -/
def ConnectionState.rank : ConnectionState → Nat
  | .nonExistent => 0
  | .timedOut => 1
  | .established => 2

theorem rank_eq_zero : q.rank = 0 ↔ q = .nonExistent := by
  cases q with
  | nonExistent => exact iff_of_true rfl rfl
  | established => exact iff_of_false (by decide) (by decide)
  | timedOut => exact iff_of_false (by decide) (by decide)

/-- What closing and timing out may make of a connection object: it is gone, or it is what it was,
further down. -/
def Faded (o o' : ConnectionObject) : Prop :=
  o'.state = .nonExistent ∧ o'.transportClass3 = false ∨
    o'.instanceType = o.instanceType ∧ o'.producedPoint = o.producedPoint ∧
      o'.transportClass3 = o.transportClass3 ∧ o'.state.rank ≤ o.state.rank

theorem Faded.refl (o : ConnectionObject) : Faded o o := Or.inr ⟨rfl, rfl, rfl, Nat.le_refl _⟩

theorem Faded.empty (o : ConnectionObject) : Faded o .empty := Or.inl ⟨rfl, rfl⟩

theorem Faded.rank_le (h : Faded o o') : o'.state.rank ≤ o.state.rank := by
  rcases h with ⟨hgone, -⟩ | ⟨-, -, -, hrank⟩
  · rw [hgone]
    exact Nat.zero_le _
  · exact hrank

theorem Faded.gone (h : Faded o o') (ho : o.state = .nonExistent) : o'.state = .nonExistent := by
  have hrank := h.rank_le
  rw [ho] at hrank
  exact rank_eq_zero.1 (Nat.le_zero.1 hrank)

theorem Faded.trans {o'' : ConnectionObject} (h : Faded o o') (h' : Faded o' o'') :
    Faded o o'' := by
  rcases h with ⟨hgone, hclass⟩ | ⟨htype, hpoint, hclass, hrank⟩
  · refine Or.inl ⟨h'.gone hgone, ?_⟩
    rcases h' with ⟨-, hclass'⟩ | ⟨-, -, hclass', -⟩
    · exact hclass'
    · exact hclass'.trans hclass
  rcases h' with hgone' | ⟨htype', hpoint', hclass', hrank'⟩
  · exact Or.inl hgone'
  · exact Or.inr ⟨htype'.trans htype, hpoint'.trans hpoint, hclass'.trans hclass,
      hrank'.trans hrank⟩

/-- What has faded was established before if it is now. -/
theorem Faded.ioEstablished (h : Faded o o') (ho : o'.IoEstablished) : o.IoEstablished := by
  obtain ⟨hio, hstate⟩ := ho
  rcases h with ⟨hgone, -⟩ | ⟨htype, -, -, hrank⟩
  · rw [hstate] at hgone
    cases hgone
  refine ⟨?_, ?_⟩
  · simpa only [isTypeIoConnection, htype] using hio
  · rw [hstate] at hrank
    generalize o.state = q at hrank
    cases q with
    | established => rfl
    | nonExistent => exact absurd hrank (by decide)
    | timedOut => exact absurd hrank (by decide)

/-! ## 3. Steps that only take connections down -/

/-- Connections were taken down, and `k` events were raised for it. -/
structure Shrunk (k : Nat) (s t : Stack) : Prop where
  tally : s.tally.Spent k t.tally
  object : ∀ d, Faded (s.connectionData d) (t.connectionData d)
  listed : ∀ d ∈ s.connectionList, d ∈ t.connectionList ∨
    (t.connectionData d).state = .nonExistent

theorem Shrunk.refl (s : Stack) : Shrunk 0 s s :=
  ⟨.refl _, fun _ => .refl _, fun _ hd => Or.inl hd⟩

theorem Shrunk.trans {k m : Nat} (h : Shrunk k s t) (h' : Shrunk m t u) :
    Shrunk (k + m) s u := by
  refine ⟨h.tally.trans h'.tally, fun d => (h.object d).trans (h'.object d), ?_⟩
  intro d hd
  rcases h.listed d hd with hin | hgone
  · exact h'.listed d hin
  · exact Or.inr ((h'.object d).gone hgone)

/-- Some number of events. -/
def Shrinks (s t : Stack) : Prop := ∃ k, Shrunk k s t

theorem Shrinks.refl (s : Stack) : Shrinks s s := ⟨0, .refl s⟩

theorem Shrinks.trans (h : Shrinks s t) (h' : Shrinks t u) : Shrinks s u := by
  obtain ⟨k, hk⟩ := h
  obtain ⟨m, hm⟩ := h'
  exact ⟨k + m, hk.trans hm⟩

theorem Shrinks.gone (h : Shrinks s t) (hd : (s.connectionData d).state = .nonExistent) :
    (t.connectionData d).state = .nonExistent := by
  obtain ⟨k, hk⟩ := h
  exact (hk.object d).gone hd

theorem Shrinks.subset (h : Shrinks s t) : t.ioEstablished ⊆ s.ioEstablished := by
  obtain ⟨k, hk⟩ := h
  exact hk.tally.subset

/-- One connection goes down, with an event. -/
theorem Shrunk.notify_set {e : IoConnectionEvent} (he : e ≠ .opened)
    (ho : Faded (s.connectionData c) o) (hdown : ¬ o.IoEstablished) :
    Shrunk 1 s ((s.notify e).set c o) := by
  refine ⟨.erase (a := c) ?_ ?_, ?_, ?_⟩
  · cases e with
    | opened => exact absurd rfl he
    | timedOut => exact timedOut_active
    | closed => exact closed_active
  · show ((s.notify e).set c o).ioEstablished = s.ioEstablished.erase c
    rw [ioEstablished_set, if_neg hdown]
    rfl
  · intro d
    by_cases hd : d = c
    · subst hd
      rw [set_self]
      exact ho
    · rw [set_of_ne hd]
      exact .refl _
  · intro d hd
    exact Or.inl hd

/-- An event for nothing. -/
theorem Shrunk.closed_event (s : Stack) : Shrunk 1 s (s.notify .closed) :=
  ⟨⟨closed_active, Finset.Subset.refl _, Nat.le_succ _⟩, fun _ => .refl _, fun _ hd => Or.inl hd⟩

/-- A connection object is written without a change of its state. -/
theorem Shrunk.set (ho : Faded (s.connectionData c) o)
    (hsame : o.IoEstablished ↔ (s.connectionData c).IoEstablished) : Shrunk 0 s (s.set c o) := by
  refine ⟨?_, ?_, fun d hd => Or.inl hd⟩
  · have hmembers : (s.set c o).tally = s.tally := by
      rw [Stack.tally, ioEstablished_set_of_iff hsame]
      rfl
    rw [hmembers]
    exact .refl _
  · intro d
    by_cases hd : d = c
    · subst hd
      rw [set_self]
      exact ho
    · rw [set_of_ne hd]
      exact .refl _

/-- A connection that does not count leaves the list. -/
theorem Shrunk.release (hdown : ¬ (s.connectionData c).IoEstablished) :
    Shrunk 0 s (s.release c) := by
  have hset : Shrunk 0 s (s.set c .empty) :=
    .set (.empty _) (iff_of_false (not_ioEstablished_of_state (by decide)) hdown)
  refine ⟨hset.tally, hset.object, ?_⟩
  intro d hd
  by_cases hdc : d = c
  · subst hdc
    exact Or.inr (congrArg _ release_self)
  · exact Or.inl ((List.mem_erase_of_ne hdc).2 hd)

/-! ## 4. The functions -/

theorem Faded.producing (o : ConnectionObject) (b : Bool) : Faded o { o with producing := b } :=
  Or.inr ⟨rfl, rfl, rfl, Nat.le_refl _⟩

theorem Faded.setState (h : q.rank ≤ o.state.rank) : Faded o { o with state := q } :=
  Or.inr ⟨rfl, rfl, rfl, h⟩

/-- A connection object goes down to a state other than Established, with an event. -/
theorem Shrunk.lower {e : IoConnectionEvent} (he : e ≠ .opened)
    (hrank : q.rank ≤ (s.connectionData c).state.rank) (hq : q ≠ .established) :
    Shrunk 1 s ((s.notify e).setState c q) :=
  .notify_set he (.setState hrank) (not_ioEstablished_of_state hq)

theorem transferMasterConnection_shrunk (h : transferMasterConnection c s = some t) :
    Shrunk 0 s t := by
  obtain ⟨active, -, rfl⟩ := Option.map_eq_some_iff.1 h
  have hactive := Shrunk.set (c := active)
    (.producing (s.connectionData active) (s.connectionData c).producing) Iff.rfl
  refine hactive.trans (.set ?_ ?_)
  · by_cases hc : c = active
    · subst hc
      rw [set_self]
      exact .producing _ _
    · rw [set_of_ne hc]
      exact .producing _ _
  · by_cases hc : c = active
    · subst hc
      rw [set_self]
      exact Iff.rfl
    · rw [set_of_ne hc]
      exact Iff.rfl

/-- With no next master there is no transfer. -/
theorem transferMasterConnection_eq_none : transferMasterConnection c s = none ↔
    getNextNonControlMasterConnection (s.connectionData c).producedPoint s = none :=
  Option.map_eq_none_iff

/-- **`CloseIoConnection`** marks the connection, passes the producing socket on or closes the
listeners, and releases it. -/
theorem closeIoWith_cases {f : Nat → Stack → Option Stack} (h : closeIoWith f c s = some t) :
    ∃ u, t = u.release c ∧
      (u = (s.notify .closed).setState c .nonExistent ∧ (s.connectionData c).isMaster = false ∨
        (s.connectionData c).isMaster = true ∧
          transferMasterConnection c ((s.notify .closed).setState c .nonExistent) = some u ∨
        (s.connectionData c).isMaster = true ∧
          transferMasterConnection c ((s.notify .closed).setState c .nonExistent) = none ∧
          f (s.connectionData c).producedPoint
            ((s.notify .closed).setState c .nonExistent) = some u) := by
  obtain ⟨u, hu, rfl⟩ := Option.map_eq_some_iff.1 h
  refine ⟨u, rfl, ?_⟩
  by_cases hmaster : (s.connectionData c).isMaster = true
  · rw [if_pos hmaster] at hu
    cases htransfer : transferMasterConnection c ((s.notify .closed).setState c .nonExistent) with
    | some v =>
      rw [htransfer] at hu
      exact Or.inr (Or.inl ⟨hmaster, hu⟩)
    | none =>
      rw [htransfer] at hu
      exact Or.inr (Or.inr ⟨hmaster, rfl, hu⟩)
  · rw [if_neg hmaster] at hu
    exact Or.inl ⟨(Option.some.inj hu).symm, Bool.eq_false_iff.2 hmaster⟩

/-- An explicit connection does not count. -/
theorem explicit_release (h : (s.connectionData c).instanceType = .explicitMessaging) :
    Shrunk 0 s (s.release c) := by
  refine .release fun ho => ?_
  have hio := ho.1
  rw [isTypeIoConnection, h] at hio
  cases hio

/-- A relation between the state before and the state after that every piece of closing a connection
keeps. -/
structure Closing (R : Stack → Stack → Prop) : Prop where
  refl : ∀ s, R s s
  trans : ∀ {s t u}, R s t → R t u → R s u
  event : ∀ s, R s (s.notify .closed)
  mark : ∀ s c, R s ((s.notify .closed).setState c .nonExistent)
  transfer : ∀ {s t c}, transferMasterConnection c s = some t → R s t
  release : ∀ {s c}, ¬ (s.connectionData c).IoEstablished → R s (s.release c)
  gone : ∀ {s t c}, R s t → (s.connectionData c).state = .nonExistent →
    (t.connectionData c).state = .nonExistent

namespace Closing

variable {R : Stack → Stack → Prop} (hR : Closing R)
include hR

theorem closeIoWith {f : Nat → Stack → Option Stack}
    (hf : ∀ point u v, f point u = some v → R u v) (h : Cip.closeIoWith f c s = some t) :
    R s t := by
  obtain ⟨u, rfl, hu⟩ := closeIoWith_cases h
  have hmarked := hR.mark s c
  have hpassed : R ((s.notify .closed).setState c .nonExistent) u := by
    rcases hu with ⟨rfl, -⟩ | ⟨-, htransfer⟩ | ⟨-, -, hclosed⟩
    · exact hR.refl _
    · exact hR.transfer htransfer
    · exact hf _ _ _ hclosed
  have hgone : (u.connectionData c).state = .nonExistent :=
    hR.gone hpassed (congrArg ConnectionObject.state setState_self)
  refine hR.trans (hR.trans hmarked hpassed) (hR.release (not_ioEstablished_of_state ?_))
  rw [hgone]
  decide

theorem closeEachForInput {close : Slot → Stack → Option Stack} {point : Nat}
    {type : InstanceType} (hclose : ∀ c u v, close c u = some v → R u v)
    {nodes : List Slot} (h : Cip.closeEachForInput close point type nodes s = some t) :
    R s t := by
  induction nodes generalizing s with
  | nil =>
    obtain rfl := Option.some.inj h
    exact hR.refl s
  | cons c nodes ih =>
    rw [Cip.closeEachForInput] at h
    split at h
    · obtain ⟨u, hu, hrest⟩ := Option.bind_eq_some_iff.1 h
      split at hrest
      · exact hR.trans (hR.trans (hR.event s) (hclose _ _ _ hu)) (ih hrest)
      · cases hrest
    · exact ih h

theorem closeListeners {point : Nat} (h : Cip.closeListeners point s = some t) : R s t := by
  refine hR.closeEachForInput ?_ h
  intro c u v huv
  refine hR.closeIoWith ?_ huv
  intro point u v huv
  obtain rfl := Option.some.inj huv
  exact hR.refl u

theorem closeIoConnection (h : Cip.closeIoConnection c s = some t) : R s t :=
  hR.closeIoWith (fun _ _ _ => hR.closeListeners) h

theorem closeDependants {point : Nat} (h : Cip.closeDependants point s = some t) : R s t := by
  obtain ⟨u, hu, hrest⟩ := Option.bind_eq_some_iff.1 h
  have hfirst : R s u := hR.closeEachForInput (fun _ _ _ => hR.closeIoConnection) hu
  exact hR.trans hfirst (hR.closeListeners hrest)

theorem connectionCloseFunction (h : Cip.connectionCloseFunction c s = some t) : R s t := by
  unfold Cip.connectionCloseFunction at h
  split at h
  · rename_i htype
    obtain rfl := Option.some.inj h
    refine hR.release fun hio => ?_
    rw [ConnectionObject.IoEstablished, isTypeIoConnection, htype] at hio
    cases hio.1
  · exact hR.closeIoConnection h
  · exact hR.closeIoConnection h
  · exact hR.closeIoConnection h

theorem closeEach {nodes : List Slot} (h : Cip.closeEach nodes s = some t) : R s t := by
  induction nodes generalizing s with
  | nil =>
    obtain rfl := Option.some.inj h
    exact hR.refl s
  | cons c nodes ih =>
    rw [Cip.closeEach] at h
    split at h
    · obtain ⟨u, hu, hrest⟩ := Option.bind_eq_some_iff.1 h
      exact hR.trans (hR.connectionCloseFunction hu) (ih hrest)
    · exact ih h

theorem closeClass3 {session : Nat}
    (h : closeClass3ConnectionBasedOnSession session s = some t) : R s t := by
  unfold closeClass3ConnectionBasedOnSession at h
  split at h
  · exact hR.connectionCloseFunction h
  · obtain rfl := Option.some.inj h
    exact hR.refl s

theorem closeEncapsulationSessions {sessions : List Nat}
    (h : Cip.closeEncapsulationSessions sessions s = some t) : R s t := by
  induction sessions generalizing s with
  | nil =>
    obtain rfl := Option.some.inj h
    exact hR.refl s
  | cons session sessions ih =>
    obtain ⟨u, hu, hrest⟩ := Option.bind_eq_some_iff.1 h
    exact hR.trans (hR.closeClass3 hu) (ih hrest)

end Closing

/-- **Closing shrinks.** -/
theorem closing_shrinks : Closing Shrinks where
  refl := .refl
  trans := .trans
  event s := ⟨1, .closed_event s⟩
  mark _ _ := ⟨1, .lower (by decide) (Nat.zero_le _) (by decide)⟩
  transfer h := ⟨0, transferMasterConnection_shrunk h⟩
  release h := ⟨0, .release h⟩
  gone := Shrinks.gone

theorem closeIoWith_empty {f : Nat → Stack → Option Stack} (h : closeIoWith f c s = some t) :
    t.connectionData c = .empty := by
  obtain ⟨u, rfl, -⟩ := closeIoWith_cases h
  exact release_self

theorem connectionCloseFunction_empty (h : connectionCloseFunction c s = some t) :
    t.connectionData c = .empty := by
  unfold connectionCloseFunction at h
  split at h
  · obtain rfl := Option.some.inj h
    exact release_self
  · exact closeIoWith_empty h
  · exact closeIoWith_empty h
  · exact closeIoWith_empty h

/-! ## 5. What is left alone -/

/-- The connection object stays what it is, but for the producing socket. -/
def Spares (d : Slot) (s t : Stack) : Prop :=
  ∃ b, t.connectionData d = { s.connectionData d with producing := b }

theorem Spares.refl (d : Slot) (s : Stack) : Spares d s s := ⟨(s.connectionData d).producing, rfl⟩

theorem Spares.trans (h : Spares d s t) (h' : Spares d t u) : Spares d s u := by
  obtain ⟨b, hb⟩ := h
  obtain ⟨b', hb'⟩ := h'
  exact ⟨b', by rw [hb', hb]⟩

theorem Spares.instanceType (h : Spares d s t) :
    (t.connectionData d).instanceType = (s.connectionData d).instanceType := by
  obtain ⟨b, hb⟩ := h
  rw [hb]

theorem Spares.state (h : Spares d s t) :
    (t.connectionData d).state = (s.connectionData d).state := by
  obtain ⟨b, hb⟩ := h
  rw [hb]

theorem Spares.of_ne (hd : d ≠ c) : Spares d s (s.set c o) :=
  ⟨(s.connectionData d).producing, set_of_ne hd⟩

theorem transferMasterConnection_spares (h : transferMasterConnection c s = some t) :
    Spares d s t := by
  obtain ⟨active, -, rfl⟩ := Option.map_eq_some_iff.1 h
  by_cases hc : d = c
  · subst hc
    exact ⟨false, set_self⟩
  refine Spares.trans ?_ (.of_ne hc)
  by_cases hactive : d = active
  · subst hactive
    exact ⟨_, set_self⟩
  · exact .of_ne hactive

theorem closeIoWith_spares {f : Nat → Stack → Option Stack} (hd : d ≠ c)
    (hf : ∀ point u v, Spares d s u → f point u = some v → Spares d u v)
    (h : closeIoWith f c s = some t) : Spares d s t := by
  obtain ⟨u, rfl, hu⟩ := closeIoWith_cases h
  have hmarked : Spares d s ((s.notify .closed).setState c .nonExistent) := .of_ne hd
  have hreleased : Spares d u (u.release c) := .of_ne hd
  refine Spares.trans ?_ hreleased
  rcases hu with ⟨rfl, -⟩ | ⟨-, htransfer⟩ | ⟨-, -, hclosed⟩
  · exact hmarked
  · exact hmarked.trans (transferMasterConnection_spares htransfer)
  · exact hmarked.trans (hf _ _ _ hmarked hclosed)

theorem closeEachForInput_spares {close : Slot → Stack → Option Stack} {point : Nat}
    {type : InstanceType} {nodes : List Slot} (htype : (s.connectionData d).instanceType ≠ type)
    (hclose : ∀ c u v, d ≠ c → Spares d s u → close c u = some v → Spares d u v)
    (h : closeEachForInput close point type nodes s = some t) : Spares d s t := by
  suffices hgeneral : ∀ (nodes : List Slot) (u : Stack), Spares d s u →
      closeEachForInput close point type nodes u = some t → Spares d u t from
    hgeneral nodes s (.refl d s) h
  intro nodes
  induction nodes with
  | nil =>
    intro u _ hu
    obtain rfl := Option.some.inj hu
    exact .refl d u
  | cons c nodes ih =>
    intro u hsu hu
    rw [closeEachForInput] at hu
    split at hu
    · rename_i hmember
      have hdc : d ≠ c := by
        rintro rfl
        have hd := (of_decide_eq_true hmember.2).1
        rw [hsu.instanceType] at hd
        exact htype hd
      obtain ⟨v, hv, hrest⟩ := Option.bind_eq_some_iff.1 hu
      split at hrest
      · have huv : Spares d u v := hclose c (u.notify .closed) v hdc hsu hv
        exact huv.trans (ih v (hsu.trans huv) hrest)
      · cases hrest
    · exact ih u hsu hu

theorem closeListeners_spares {point : Nat}
    (htype : (s.connectionData d).instanceType ≠ .ioListenOnly)
    (h : closeListeners point s = some t) : Spares d s t := by
  refine closeEachForInput_spares htype ?_ h
  intro c u v hdc _ huv
  refine closeIoWith_spares hdc ?_ huv
  intro point w x _ hx
  obtain rfl := Option.some.inj hx
  exact .refl d w

theorem closeIoConnection_spares (hd : d ≠ c)
    (htype : (s.connectionData d).instanceType ≠ .ioListenOnly)
    (h : closeIoConnection c s = some t) : Spares d s t := by
  refine closeIoWith_spares hd ?_ h
  intro point u v hsu huv
  refine closeListeners_spares ?_ huv
  rw [hsu.instanceType]
  exact htype

theorem closeDependants_spares {point : Nat}
    (hinput : (s.connectionData d).instanceType ≠ .ioInputOnly)
    (hlisten : (s.connectionData d).instanceType ≠ .ioListenOnly)
    (h : closeDependants point s = some t) : Spares d s t := by
  obtain ⟨u, hu, hrest⟩ := Option.bind_eq_some_iff.1 h
  have hsu : Spares d s u := by
    refine closeEachForInput_spares hinput ?_ hu
    intro c v w hdc hsv hvw
    refine closeIoConnection_spares hdc ?_ hvw
    rw [hsv.instanceType]
    exact hlisten
  refine hsu.trans (closeListeners_spares ?_ hrest)
  rw [hsu.instanceType]
  exact hlisten

/-! ## 6. What connection objects, the list and the pools have to do with each other -/

structure Wf (points : ConnectionPoints) (s : Stack) : Prop where
  /-- a connection that exists is in the list -/
  listed : ∀ c, (s.connectionData c).state ≠ .nonExistent → c ∈ s.connectionList
  /-- the slot of the exclusive owner is used for nothing else -/
  owner : (s.connectionData .exclusiveOwner).state ≠ .nonExistent →
    (s.connectionData .exclusiveOwner).instanceType = .ioExclusiveOwner ∧
      (s.connectionData .exclusiveOwner).producedPoint = points.exclusiveOwner.inputAssembly
  /-- class 3 is for explicit connections -/
  class3 : ∀ c, (s.connectionData c).transportClass3 = true →
    (s.connectionData c).instanceType = .explicitMessaging

theorem Wf.init : Wf points Stack.init where
  listed := fun _ h => absurd rfl h
  owner := fun h => absurd rfl h
  class3 := fun _ _ => rfl

theorem Wf.shrinks (hwf : Wf points s) (h : Shrinks s t) : Wf points t := by
  obtain ⟨k, hk⟩ := h
  have hback : ∀ d, (t.connectionData d).state ≠ .nonExistent →
      (s.connectionData d).state ≠ .nonExistent := by
    intro d hd hgone
    exact hd ((hk.object d).gone hgone)
  refine ⟨?_, ?_, ?_⟩
  · intro d hd
    rcases hk.listed d (hwf.listed d (hback d hd)) with hin | hgone
    · exact hin
    · exact absurd hgone hd
  · intro hd
    rcases hk.object .exclusiveOwner with ⟨hgone, -⟩ | ⟨htype, hpoint, -, -⟩
    · exact absurd hgone hd
    · rw [htype, hpoint]
      exact hwf.owner (hback _ hd)
  · intro d hd
    rcases hk.object d with ⟨-, hclass⟩ | ⟨htype, -, hclass, -⟩
    · rw [hclass] at hd
      cases hd
    · rw [htype]
      exact hwf.class3 d (hclass ▸ hd)

/-- The connection a session takes with it is an explicit one. -/
theorem Wf.closeClass3 (hwf : Wf points s) {session : Nat}
    (h : closeClass3ConnectionBasedOnSession session s = some t) :
    t = s ∨ ∃ c, (s.connectionData c).instanceType = .explicitMessaging ∧ t = s.release c := by
  unfold closeClass3ConnectionBasedOnSession at h
  split at h
  · rename_i c hfound
    have hclass := List.find?_some hfound
    rw [Bool.and_eq_true] at hclass
    have htype := hwf.class3 c hclass.1
    unfold connectionCloseFunction at h
    rw [htype] at h
    exact Or.inr ⟨c, htype, (Option.some.inj h).symm⟩
  · exact Or.inl (Option.some.inj h).symm

/-- **The end of the sessions** releases explicit connections. -/
theorem Wf.closeEncapsulationSessions {P : Stack → Stack → Prop}
    (hrefl : ∀ s, P s s) (htrans : ∀ s t u, P s t → P t u → P s u)
    (hrelease : ∀ s c, (s.connectionData c).instanceType = .explicitMessaging →
      P s (s.release c))
    {sessions : List Nat} (hwf : Wf points s)
    (h : Cip.closeEncapsulationSessions sessions s = some t) : P s t := by
  induction sessions generalizing s with
  | nil =>
    obtain rfl := Option.some.inj h
    exact hrefl s
  | cons session sessions ih =>
    obtain ⟨u, hu, hrest⟩ := Option.bind_eq_some_iff.1 h
    refine htrans s u t ?_ (ih (hwf.shrinks (closing_shrinks.closeClass3 hu)) hrest)
    rcases hwf.closeClass3 hu with rfl | ⟨c, htype, rfl⟩
    · exact hrefl _
    · exact hrelease s c htype

/-! ## 7. Timing out -/

/-- Handing the socket over, or not. -/
theorem handOver_cases {handover : Bool} (h : handOver c o s = some (handover, t)) :
    o.isMaster = true ∧ handover = true ∧ transferMasterConnection c s = some t ∨
      o.isMaster = true ∧ handover = false ∧ transferMasterConnection c s = none ∧
        closeListeners o.producedPoint s = some t ∨
      o.isMaster = false ∧ handover = false ∧ t = s := by
  unfold handOver at h
  by_cases hmaster : o.isMaster = true
  · rw [if_pos hmaster] at h
    cases htransfer : transferMasterConnection c s with
    | some u =>
      rw [htransfer] at h
      cases h
      exact Or.inl ⟨hmaster, rfl, rfl⟩
    | none =>
      rw [htransfer] at h
      obtain ⟨u, hu, heq⟩ := Option.map_eq_some_iff.1 h
      cases heq
      exact Or.inr (Or.inl ⟨hmaster, rfl, rfl, hu⟩)
  · rw [if_neg hmaster] at h
    cases h
    exact Or.inr (Or.inr ⟨Bool.eq_false_iff.2 hmaster, rfl, rfl⟩)

/-- **`HandleIoConnectionTimeOut`**: the sessions, the socket, and the dependants. -/
theorem handleIoConnectionTimeOut_cases {sessions : List Nat}
    (h : handleIoConnectionTimeOut sessions c s = some t) :
    ∃ u handover v w,
      (u = (s.notify .timedOut).setState c .timedOut ∨
        closeEncapsulationSessions sessions ((s.notify .timedOut).setState c .timedOut) =
          some u) ∧
      handOver c (s.connectionData c) u = some (handover, v) ∧
      ((s.connectionData c).instanceType = .ioExclusiveOwner ∧ handover = false ∧
          closeDependants (s.connectionData c).producedPoint v = some w ∨
        ¬ ((s.connectionData c).instanceType = .ioExclusiveOwner ∧ handover = false) ∧ w = v) ∧
      t = w.setState c .timedOut := by
  unfold handleIoConnectionTimeOut at h
  dsimp only at h
  obtain ⟨u, hu, h⟩ := Option.bind_eq_some_iff.1 h
  obtain ⟨⟨handover, v⟩, hv, h⟩ := Option.bind_eq_some_iff.1 h
  obtain ⟨w, hw, rfl⟩ := Option.map_eq_some_iff.1 h
  refine ⟨u, handover, v, w, ?_, hv, ?_, rfl⟩
  · split at hu
    · unfold checkForTimedOutConnectionsAndCloseTcpConnections at hu
      split at hu
      · exact Or.inl (Option.some.inj hu).symm
      · exact Or.inr hu
    · exact Or.inl (Option.some.inj hu).symm
  · by_cases howner : (s.connectionData c).instanceType = .ioExclusiveOwner ∧ handover = false
    · rw [if_pos howner] at hw
      exact Or.inl ⟨howner.1, howner.2, hw⟩
    · rw [if_neg howner] at hw
      exact Or.inr ⟨howner, (Option.some.inj hw).symm⟩

/-- Only I/O connections are timed out this way, and only those that exist. -/
structure TimesOut (s : Stack) (c : Slot) : Prop where
  io : isTypeIoConnection (s.connectionData c) = true
  established : (s.connectionData c).state = .established

theorem TimesOut.rank (h : TimesOut s c) :
    ConnectionState.timedOut.rank ≤ (s.connectionData c).state.rank := by
  rw [h.established]
  decide

theorem isMaster_type (h : o.isMaster = true) :
    o.instanceType = .ioExclusiveOwner ∨ o.instanceType = .ioInputOnly :=
  (of_decide_eq_true h).1

/-- The connection itself is spared by all that its timeout brings about. -/
theorem TimesOut.sessions {sessions : List Nat} (hwf : Wf points s) (hio : TimesOut s c)
    (hu : u = (s.notify .timedOut).setState c .timedOut ∨
      closeEncapsulationSessions sessions ((s.notify .timedOut).setState c .timedOut) = some u) :
    Shrinks s u ∧ Spares c ((s.notify .timedOut).setState c .timedOut) u := by
  have hmarked : Shrinks s ((s.notify .timedOut).setState c .timedOut) :=
    ⟨1, .lower (by decide) hio.rank (by decide)⟩
  rcases hu with rfl | hclosed
  · exact ⟨hmarked, .refl _ _⟩
  refine ⟨hmarked.trans (closing_shrinks.closeEncapsulationSessions hclosed), ?_⟩
  have htype : isTypeIoConnection
      (((s.notify .timedOut).setState c .timedOut).connectionData c) = true := by
    rw [setState_self]
    exact hio.io
  refine (hwf.shrinks hmarked).closeEncapsulationSessions
    (P := fun v w => isTypeIoConnection (v.connectionData c) = true →
      isTypeIoConnection (w.connectionData c) = true ∧ Spares c v w)
    ?_ ?_ ?_ hclosed htype |>.2
  · intro v hv
    exact ⟨hv, .refl _ _⟩
  · intro v w x hvw hwx hv
    obtain ⟨hw, hsvw⟩ := hvw hv
    obtain ⟨hx, hswx⟩ := hwx hw
    exact ⟨hx, hsvw.trans hswx⟩
  · intro v d hd hv
    have hcd : c ≠ d := by
      rintro rfl
      rw [isTypeIoConnection, hd] at hv
      cases hv
    refine ⟨?_, .of_ne hcd⟩
    rw [release_of_ne hcd]
    exact hv

theorem Closing.handOver {R : Stack → Stack → Prop} (hR : Closing R) {handover : Bool}
    (h : Cip.handOver c o s = some (handover, t)) : R s t := by
  rcases handOver_cases h with ⟨-, -, htransfer⟩ | ⟨-, -, -, hclosed⟩ | ⟨-, -, rfl⟩
  · exact hR.transfer htransfer
  · exact hR.closeListeners hclosed
  · exact hR.refl t

theorem handOver_spares {handover : Bool}
    (htype : o.isMaster = true → (s.connectionData c).instanceType ≠ .ioListenOnly)
    (h : handOver c o s = some (handover, t)) : Spares c s t := by
  rcases handOver_cases h with ⟨-, -, htransfer⟩ | ⟨hmaster, -, -, hclosed⟩ | ⟨-, -, rfl⟩
  · exact transferMasterConnection_spares htransfer
  · exact closeListeners_spares (htype hmaster) hclosed
  · exact .refl c t

/-- The state is set once more at the end; it has been that since the beginning. -/
theorem Shrunk.settled (h : (s.connectionData c).state = .timedOut) :
    Shrunk 0 s (s.setState c .timedOut) := by
  refine .set (.setState (Nat.le_of_eq (congrArg _ h.symm))) ?_
  refine iff_of_false (not_ioEstablished_of_state ?_) (not_ioEstablished_of_state ?_)
  · exact ConnectionState.noConfusion
  · rw [h]
    exact ConnectionState.noConfusion

/-- **All but the last assignment** of `HandleIoConnectionTimeOut`, by its parts. -/
theorem TimesOut.dependants {sessions : List Nat} {handover : Bool} {v w : Stack}
    (hwf : Wf points s) (hio : TimesOut s c)
    (hu : u = (s.notify .timedOut).setState c .timedOut ∨
      closeEncapsulationSessions sessions ((s.notify .timedOut).setState c .timedOut) = some u)
    (hv : handOver c (s.connectionData c) u = some (handover, v))
    (hw : (s.connectionData c).instanceType = .ioExclusiveOwner ∧ handover = false ∧
        closeDependants (s.connectionData c).producedPoint v = some w ∨
      ¬ ((s.connectionData c).instanceType = .ioExclusiveOwner ∧ handover = false) ∧ w = v) :
    Shrinks s w ∧ (w.connectionData c).state = .timedOut := by
  obtain ⟨hsu, hspare⟩ := hio.sessions hwf hu
  have htypeu : (u.connectionData c).instanceType = (s.connectionData c).instanceType := by
    rw [hspare.instanceType, setState_self]
    rfl
  have hspareV : Spares c u v := by
    refine handOver_spares ?_ hv
    intro hmaster hlisten
    rw [htypeu] at hlisten
    rcases isMaster_type hmaster with htype | htype
    · rw [htype] at hlisten
      cases hlisten
    · rw [htype] at hlisten
      cases hlisten
  have hvw : Shrinks v w ∧ Spares c v w := by
    rcases hw with ⟨howner, -, hclosed⟩ | ⟨-, rfl⟩
    · have htypev : (v.connectionData c).instanceType = .ioExclusiveOwner := by
        rw [hspareV.instanceType, htypeu, howner]
      refine ⟨closing_shrinks.closeDependants hclosed, closeDependants_spares ?_ ?_ hclosed⟩
      · rw [htypev]
        decide
      · rw [htypev]
        decide
    · exact ⟨.refl _, .refl _ _⟩
  refine ⟨(hsu.trans (closing_shrinks.handOver hv)).trans hvw.1, ?_⟩
  rw [hvw.2.state, hspareV.state, hspare.state, setState_self]

theorem handleIoConnectionTimeOut_shrinks {sessions : List Nat} (hwf : Wf points s)
    (hio : TimesOut s c) (h : handleIoConnectionTimeOut sessions c s = some t) :
    Shrinks s t ∧ (t.connectionData c).state = .timedOut := by
  obtain ⟨u, handover, v, w, hu, hv, hw, rfl⟩ := handleIoConnectionTimeOut_cases h
  obtain ⟨hsw, hstate⟩ := hio.dependants hwf hu hv hw
  refine ⟨hsw.trans ⟨0, .settled hstate⟩, ?_⟩
  rw [setState_self]

end GroundTruth.Cip
