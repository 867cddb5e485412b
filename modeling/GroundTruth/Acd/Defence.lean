/-
# Continued defence

The address of a device must be defended for as long as it is used: lwIP's client answers
conflicts in ANNOUNCING and ONGOING, and in no other state.  `main.c` stops the client when the
link goes down -- twice, through `tcpip_acd_stop_cb` and through lwIP's own
`acd_network_changed_link_down` -- and leaves the address on the netif.  When the link returns,
`tcpip_try_pending_acd` starts the client again only if `s_acd_probe_pending` is set, which
`ACD_IP_OK` has cleared.

* `defence_lost`: one link flap after the address was assigned, the link is up, every handler
  has run, the address is in use and the client is off.
* `continued_defence`: in every run in which nothing stops the client while its address is in
  use, a client whose address is in use is at work for it.  So the flap is the only way.
-/
import GroundTruth.Acd.Safety

namespace GroundTruth.Acd

open GroundTruth.Lib

/-! ## 1. The property -/

namespace Device

/-- The link is up, and the connect handler and its deferred retries have run. -/
def Settled (s : Device) : Prop := s.linkUp = true ∧ s.waiting = none ∧ s.deferred = 0

/-- While the static address is in use, the client is on the netif's list and announces or
defends it, or probes for it anew. -/
def ContinuedDefence (s : Device) : Prop :=
  s.Settled → s.InUse →
    .staticIp ∈ s.acdList ∧ s.acd.ipaddr = s.pendingCfg.ip ∧
      (s.acd.state = .announcing ∨ s.acd.state = .ongoing ∨ s.acd.state.probes)

instance (s : Device) : Decidable s.InUse :=
  inferInstanceAs (Decidable (_ ∧ _))

/-- The event stops the client of an address in use. -/
def StopsInUse (s : Device) (e : DeviceEvent) : Prop := e.stops s = true ∧ s.InUse

instance (s : Device) (e : DeviceEvent) : Decidable (s.StopsInUse e) :=
  inferInstanceAs (Decidable (_ ∧ _))

/-- A client that is defended in the sense of `Acd/Safety.lean` is so in this one. -/
theorem Inv.continuedDefence {s : Device} (h : s.Inv) (hd : s.Defended) : s.ContinuedDefence := by
  intro _ hu
  have hwork := hd hu
  obtain ⟨hlist, hip⟩ := h.running.place hwork
  refine ⟨hlist, hip, ?_⟩
  rcases hwork with hp | hh
  · exact .inr (.inr hp)
  · rcases (AcdState.holds_iff _).1 hh with hs | hs
    · exact .inl hs
    · exact .inr (.inl hs)

/-- One event that does not stop the client of an address in use keeps the defence. -/
theorem Inv.step_defended {b : Build} {s s' : Device} {e : DeviceEvent}
    (h : s.Inv ∧ s.Defended) (hg : ¬s.StopsInUse e) (hs : deviceStep b s e = some s') :
    s'.Inv ∧ s'.Defended := by
  refine ⟨(h.1.step hs).1, ?_⟩
  cases he : e.stops s with
  | false => exact (h.1.step hs).2 he h.2
  | true =>
    -- the client is stopped, but its address is not in use, and stopping assigns nothing
    have hnot : ¬s.InUse := fun hu => hg ⟨he, hu⟩
    refine defended_of_not_inUse fun hu => hnot ?_
    cases e with
    | stop =>
      rw [deviceStep] at hs
      split at hs
      · obtain rfl := Option.some.inj hs
        exact hu
      · cases hs
    | netifDown =>
      have hup : s.linkUp = true := he
      rw [deviceStep, if_pos hup] at hs
      obtain rfl := Option.some.inj hs
      unfold acdNetworkChangedLinkDown at hu
      split at hu <;> exact hu
    | _ => cases he

end Device

/-! ## 2. Every run -/

/-- **Continued defence.**  In every run none of whose steps stops the client of an address in
use, whenever the link is up and the handlers have run, the address in use is defended. -/
theorem continued_defence {b : Build} {others : List Nat} {s : Device}
    (h : Run (deviceStep b) (fun s e => ¬s.StopsInUse e) (Device.init others) s) :
    s.ContinuedDefence := by
  have hinv : s.Inv ∧ s.Defended :=
    h.invariant (fun _ _ _ hi hg hs => Device.Inv.step_defended hi hg hs)
      ⟨Device.Inv.init others, fun hu => absurd hu.1 Bool.false_ne_true⟩
  exact hinv.1.continuedDefence hinv.2

/-- The run of `benchAssign` stops nothing, and the address it ends with is defended. -/
theorem continued_defence_assigned :
    ∃ s, Run (deviceStep .shipped) (fun s e => ¬s.StopsInUse e) (Device.init []) s ∧
      s.Settled ∧ s.InUse ∧ s.ContinuedDefence := by
  have h : (exec (deviceStep .shipped) (Device.init [])
      (benchAssign)).map (fun s => (s.linkUp, s.waiting, s.deferred, decide s.InUse)) =
        some (true, none, 0, true) := by decide +kernel
  have hm : execMeets (deviceStep .shipped) (fun s e => ¬s.StopsInUse e) (Device.init [])
      benchAssign := by decide +kernel
  obtain ⟨s, hs, hst⟩ := Option.map_eq_some_iff.1 h
  simp only [Prod.mk.injEq, decide_eq_true_eq] at hst
  have hrun := exec_run hm hs
  exact ⟨s, hrun, ⟨hst.1, hst.2.1, hst.2.2.1⟩, hst.2.2.2, continued_defence hrun⟩

/-! ## 3. The link flap -/

/-- The address is assigned; the link is lost and comes back, and everything it set off has run. -/
def benchFlap : List DeviceEvent :=
  benchAssign ++ [.disconnected .good, .stop, .netifDown, .netifUp, .connected benchMac .good,
    .deferred .good]

/-- After one link flap the address is in use and nobody defends it. -/
theorem defence_lost :
    ∃ s, Reach (deviceStep .shipped) (Device.init []) s ∧ s.acd.state = .off ∧
      ¬s.ContinuedDefence := by
  have h : (exec (deviceStep .shipped) (Device.init []) benchFlap).map
      (fun s => (s.linkUp, s.waiting, s.deferred, decide s.InUse, s.acd.state)) =
        some (true, none, 0, true, .off) := by decide +kernel
  obtain ⟨s, hs, hst⟩ := Option.map_eq_some_iff.1 h
  simp only [Prod.mk.injEq, decide_eq_true_eq] at hst
  obtain ⟨h1, h2, h3, h4, h5⟩ := hst
  refine ⟨s, exec_reach hs, h5, fun hc => ?_⟩
  have := (hc ⟨h1, h2, h3⟩ h4).2.2
  simp [h5, AcdState.probes] at this

end GroundTruth.Acd
