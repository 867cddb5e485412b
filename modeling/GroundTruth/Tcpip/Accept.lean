/-
# What is accepted, and what a boot makes of it

The web page and the setters of attributes 3 and 5 accept a configuration and store it; the next
boot checks it again, by rules of its own.  `acceptance` says when the two agree.  The web page
does not check at all, attribute 3 checks the method without the addresses, and attribute 5, which
checks the addresses, lets a configuration without a mask pass.

A boot that refuses a configuration leaves DHCP behind in the object, so that no number of further
boots can bring the configuration back.
-/
import GroundTruth.Lib.CString
import GroundTruth.Tcpip.Device

namespace GroundTruth.Tcpip

open GroundTruth.Lib

/-! ## 1. Accepted and stored -/

variable (inetAton : Bytes → Option UInt32)

/-- A request for `POST /api/ipconfig`, or for attribute 3 or 5, that is answered with success and
reaches the flash. -/
def StoredWrite (d : Device) : Event → Prop
  | .post p => (postIpconfig inetAton p d.tcpip d.nvs).1 = .ok
  | .setAttribute r => (r.attributeNumber = 3 ∨ r.attributeNumber = 5) ∧
      (setAttributeSingle r d.tcpip d.nvs).1 = .success ∧ r.write ≠ .refused
  | _ => False

instance StoredWrite.decidable (d : Device) : (e : Event) → Decidable (StoredWrite inetAton d e)
  | .post _ => inferInstanceAs (Decidable (_ = _))
  | .setAttribute _ => inferInstanceAs (Decidable (_ ∧ _))
  | .boot _ => isFalse id
  | .gotIp _ => isFalse id
  | .disconnected => isFalse id
  | .openerExit => isFalse id

/-- A boot that can read the flash. -/
def ReadableBoot (_ : Device) : Event → Prop
  | .boot e => e.load.readable = true
  | _ => False

instance ReadableBoot.decidable (d : Device) : (e : Event) → Decidable (ReadableBoot d e)
  | .boot _ => inferInstanceAs (Decidable (_ = _))
  | .post _ => isFalse id
  | .setAttribute _ => isFalse id
  | .gotIp _ => isFalse id
  | .disconnected => isFalse id
  | .openerExit => isFalse id

/-- The device still has the method it accepted and, if that is static, uses the addresses. -/
structure Kept (n : Network) (d : Device) : Prop where
  method : d.tcpip.network.method = n.method
  stored : ∃ m, storedNetwork d.nvs = some m ∧ m.method = n.method
  static : n.method = kTcpipCfgCtrlStaticIp →
    d.tcpip.network = n ∧ storedNetwork d.nvs = some n ∧
      d.netif = .acdPending n.addresses.ipAddress n.addresses.networkMask n.addresses.gateway

/-- DHCP, or a static configuration that is valid and has a mask. -/
def Network.Bootable (n : Network) : Prop := n.method = kTcpipCfgCtrlDhcp ∨ n.StaticOk

instance Network.decidableBootable (n : Network) : Decidable n.Bootable :=
  inferInstanceAs (Decidable (_ ∨ _))

variable {inetAton} {d d' d'' : Device} {n : Network} {writes boots : List Event}

/-- A write that is accepted and stored leaves the flash as the image of the object. -/
theorem storedWrite_nvs {e : Event} (h : StoredWrite inetAton d e)
    (hstep : step inetAton d e = some d') : d'.nvs = some d'.tcpip.toNvData := by
  cases e with
  | post p =>
    simp only [step] at hstep
    split at hstep
    · obtain rfl := Option.some.inj hstep
      exact postIpconfig_ok h
    · cases hstep
  | setAttribute r =>
    obtain ⟨hattr, -, hw⟩ := h
    simp only [step] at hstep
    split at hstep
    · obtain rfl := Option.some.inj hstep
      have hd : decoder r.attributeNumber ≠ none := by
        rcases hattr with h3 | h5
        · rw [h3]
          exact Option.some_ne_none _
        · rw [h5]
          exact Option.some_ne_none _
      exact setAttributeSingle_lands hd hw
    · cases hstep
  | boot => exact h.elim
  | gotIp => exact h.elim
  | disconnected => exact h.elim
  | openerExit => exact h.elim

/-- Hence any order of such writes ends with the accepted network in the flash. -/
theorem storedWrites_network (hw : writes ≠ [])
    (haccept : execMeets (step inetAton) (StoredWrite inetAton) d writes)
    (hwrites : exec (step inetAton) d writes = some d') :
    storedNetwork d'.nvs = some d'.tcpip.network := by
  have himage : d'.nvs = some d'.tcpip.toNvData :=
    exec_establishes (J := fun _ => True) (P := fun u => u.nvs = some u.tcpip.toNvData)
      (fun _ _ _ _ h hstep => ⟨trivial, storedWrite_nvs h hstep⟩) trivial hw haccept hwrites
  rw [himage, storedNetwork_toNvData]

/-! ## 2. Booting, once or many times -/

/-- A boot that can read the flash is a boot. -/
theorem readableBoot_cases {e : Event} (h : ReadableBoot d e)
    (hstep : step inetAton d e = some d') :
    ∃ b : BootEnv, b.load.readable = true ∧ d'.netif = (boot b d.nvs).1 ∧
      d'.tcpip = (boot b d.nvs).2.1 ∧ d'.nvs = (boot b d.nvs).2.2 := by
  cases e with
  | boot b =>
    obtain rfl := Option.some.inj hstep
    exact ⟨b, h, rfl, rfl, rfl⟩
  | post => exact h.elim
  | setAttribute => exact h.elim
  | gotIp => exact h.elim
  | disconnected => exact h.elim
  | openerExit => exact h.elim

section

variable (hb : boots ≠ []) (hread : execMeets (step inetAton) ReadableBoot d' boots)
  (hboots : exec (step inetAton) d' boots = some d'')
include hb hread hboots

theorem boots_staticOk (hs : storedNetwork d'.nvs = some n) (hok : n.StaticOk) : Kept n d'' := by
  refine exec_establishes (J := fun u => storedNetwork u.nvs = some n) ?_ hs hb hread hboots
  intro u e v hu he hstep
  obtain ⟨b, hb, hnetif, htcpip, hnvs⟩ := readableBoot_cases he hstep
  obtain ⟨hnet, hobj, hstored⟩ := boot_staticOk hb hu hok
  rw [← hnetif] at hnet
  rw [← htcpip] at hobj
  rw [← hnvs] at hstored
  exact ⟨hstored, by rw [hobj], ⟨n, hstored, rfl⟩, fun _ => ⟨hobj, hstored, hnet⟩⟩

theorem boots_dhcp (hs : storedNetwork d'.nvs = some n) (hm : n.method = kTcpipCfgCtrlDhcp) :
    Kept n d'' := by
  refine exec_establishes
    (J := fun u => ∃ m, storedNetwork u.nvs = some m ∧ m.method = kTcpipCfgCtrlDhcp)
    ?_ ⟨n, hs, hm⟩ hb hread hboots
  rintro u e v ⟨m, hu, hdhcp⟩ he hstep
  obtain ⟨b, hb, -, htcpip, hnvs⟩ := readableBoot_cases he hstep
  obtain ⟨hobj, hstored⟩ := boot_dhcp hb hu hdhcp
  rw [← htcpip] at hobj
  rw [← hnvs] at hstored
  refine ⟨hstored, ?_, ?_, ?_⟩
  · rw [hobj, hm]
  · rw [hm]
    exact hstored
  · intro hstatic
    rw [hm] at hstatic
    exact absurd hstatic dhcp_ne_static

/-- A configuration that a boot refuses is gone from the object for good. -/
theorem boots_else (hs : storedNetwork d'.nvs = some n) (hno : ¬n.Bootable) :
    d''.tcpip.network.method = kTcpipCfgCtrlDhcp := by
  rw [Network.Bootable, not_or] at hno
  refine exec_establishes (J := fun u => HoldsOrDhcp n u.nvs)
    (P := fun u => u.tcpip.network.method = kTcpipCfgCtrlDhcp) ?_ (Or.inl hs) hb hread hboots
  intro u e v hu he hstep
  obtain ⟨b, hb, -, htcpip, hnvs⟩ := readableBoot_cases he hstep
  rw [htcpip, hnvs]
  rcases hu with hu | ⟨m, hu, hdhcp⟩
  · obtain ⟨hobj, hholds⟩ := boot_else hb hu hno.1 hno.2
    exact ⟨hholds, hobj⟩
  · obtain ⟨hobj, hstored⟩ := boot_dhcp hb hu hdhcp
    exact ⟨Or.inr hstored, hobj⟩

end

/-- **Acceptance agrees with boot** exactly for DHCP, and for a static configuration that is valid
and has a mask. -/
theorem acceptance (inetAton : Bytes → Option UInt32) (d d' d'' : Device)
    (writes boots : List Event) (hw : writes ≠ [])
    (haccept : execMeets (step inetAton) (StoredWrite inetAton) d writes)
    (hwrites : exec (step inetAton) d writes = some d') (hb : boots ≠ [])
    (hread : execMeets (step inetAton) ReadableBoot d' boots)
    (hboots : exec (step inetAton) d' boots = some d'') :
    Kept d'.tcpip.network d'' ↔ d'.tcpip.network.Bootable := by
  have hs := storedWrites_network hw haccept hwrites
  constructor
  · intro hkept
    by_contra hno
    have hdhcp := boots_else hb hread hboots hs hno
    rw [hkept.method] at hdhcp
    exact hno (Or.inl hdhcp)
  · rintro (hdhcp | hok)
    · exact boots_dhcp hb hread hboots hs hdhcp
    · exact boots_staticOk hb hread hboots hs hok

/-! ## 3. A gateway inside the subnet, and outside it -/

/-- `inet_aton`, on the addresses used here. -/
def benchAton (s : Bytes) : Option UInt32 :=
  if s = ascii "192.168.1.5" then some 0x0501A8C0
  else if s = ascii "255.255.255.0" then some 0x00FFFFFF
  else if s = ascii "192.168.1.1" then some 0x0101A8C0
  else if s = ascii "192.168.2.1" then some 0x0102A8C0
  else none

/-- A device with the initial configuration, all services running. -/
def benchDevice : Device where
  tcpip := .default
  nvs := none
  netif := .dhcp
  servicesInitialized := true
  openerInitialized := true
  webui := true

/-- The web page asks for 192.168.1.5/24 and a gateway. -/
def benchPost (gateway : String) : Post where
  body := .json ⟨some false, some (ascii "192.168.1.5"), some (ascii "255.255.255.0"),
    some (ascii gateway), none, none⟩
  peek := false
  mutex := true
  taken := true
  write := .ok

/-- Nothing goes wrong. -/
def benchBoot : BootEnv := ⟨⟨true, true, true, .ok, .ok⟩, .ok, .ok, .ok, true⟩

theorem acceptance_inside : ∃ d' d'',
    exec (step benchAton) benchDevice [.post (benchPost "192.168.1.1")] = some d' ∧
      exec (step benchAton) d' [.boot benchBoot] = some d'' ∧ Kept d'.tcpip.network d'' :=
  ⟨_, _, rfl, rfl, (acceptance benchAton benchDevice _ _ [.post (benchPost "192.168.1.1")]
    [.boot benchBoot] (by simp) (by decide +kernel) rfl (by simp) (by decide +kernel) rfl).2
    (by decide +kernel)⟩

/-- With a gateway in another subnet the page answers that the configuration is saved, and the
next boot switches to DHCP. -/
theorem acceptance_outside :
    ¬∀ (inetAton : Bytes → Option UInt32) (d d' d'' : Device) (writes boots : List Event),
      writes ≠ [] → execMeets (step inetAton) (StoredWrite inetAton) d writes →
      exec (step inetAton) d writes = some d' → boots ≠ [] →
      execMeets (step inetAton) ReadableBoot d' boots →
      exec (step inetAton) d' boots = some d'' → Kept d'.tcpip.network d'' := by
  intro hall
  have hkept := hall benchAton benchDevice _ _ [.post (benchPost "192.168.2.1")]
    [.boot benchBoot] (by simp) (by decide +kernel) rfl (by simp) (by decide +kernel) rfl
  exact absurd hkept.method (by decide +kernel)

end GroundTruth.Tcpip
