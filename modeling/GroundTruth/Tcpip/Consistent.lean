/-
# What a successful request leaves: `POST /api/ipconfig`

The handler zeroes three addresses when DHCP is asked for, and then writes what the items for them
say, if it looked at them; it does look, because the condition for it is "static now, or no DHCP
asked for".  The page of the device sends all five strings with every request.  And a string that
cannot be read is the address 0, written like any other.

* `field_iff`: the strings of one field that make no difference;
* `ipconfig_consistent_iff`: the requests whose result is consistent.
-/
import GroundTruth.Lib.CString
import GroundTruth.Tcpip.Atomic
import GroundTruth.Tcpip.Quad

namespace GroundTruth.Tcpip

open GroundTruth.Lib

/-! ## 1. The property -/

/-- A string that is a dotted quad. -/
def isQuad (s : Bytes) : Bool := (dottedQuad s).isSome

/-- The request without the strings that are not dotted quads. -/
def IpConfigJson.quads (j : IpConfigJson) : IpConfigJson where
  useDhcp := j.useDhcp
  ipAddress := j.ipAddress.filter isQuad
  netmask := j.netmask.filter isQuad
  gateway := j.gateway.filter isQuad
  dns1 := j.dns1.filter isQuad
  dns2 := j.dns2.filter isQuad

/-- An address that was there, or that an item gives as a dotted quad. -/
def Sourced (item : Option Bytes) (old new : UInt32) : Prop :=
  new = old ∨ ∃ s ∈ item, dottedQuad s = some new

/-- What a request makes of the object is consistent. -/
structure Consistent (p : Post) (j : IpConfigJson) (t : CipTcpIpObject) (nvs : Option NvData)
    (u : CipTcpIpObject) : Prop where
  /-- DHCP has no addresses -/
  dhcp : j.useDhcp = some true →
    method u.configControl = kTcpipCfgCtrlDhcp ∧ u.interfaceConfiguration.ipAddress = 0 ∧
      u.interfaceConfiguration.networkMask = 0 ∧ u.interfaceConfiguration.gateway = 0
  /-- a static configuration has addresses that somebody gave -/
  static : method u.configControl = kTcpipCfgCtrlStaticIp →
    let old := t.interfaceConfiguration
    let new := u.interfaceConfiguration
    Sourced j.ipAddress old.ipAddress new.ipAddress ∧
      Sourced j.netmask old.networkMask new.networkMask ∧
      Sourced j.gateway old.gateway new.gateway ∧
      Sourced j.dns1 old.nameServer new.nameServer ∧
      Sourced j.dns2 old.nameServer2 new.nameServer2
  /-- the other strings change nothing -/
  quads : (postIpconfig ip4addrAton { p with body := .json j.quads } t nvs).2.1 = u

/-! ## 2. One field -/

/-- What a string is taken for, dotted quad or not. -/
def ReadsAs (a : UInt32) (s : Bytes) : Prop :=
  match ip4addrAton s with
  | some b => b = a
  | none => a = 0

instance ReadsAs.decidable (a : UInt32) (s : Bytes) : Decidable (ReadsAs a s) :=
  match h : ip4addrAton s with
  | some b => decidable_of_iff (b = a) (by rw [ReadsAs, h])
  | none => decidable_of_iff (a = 0) (by rw [ReadsAs, h])

/-- A string that does no harm in a field.  If DHCP has just zeroed the field it has to be read as
0; if not it has to be a dotted quad, or be read as what the field has. -/
def Harmless (zeroed : Prop) (current : UInt32) (s : Bytes) : Prop :=
  (zeroed → ReadsAs 0 s) ∧ (¬zeroed → dottedQuad s ≠ none ∨ ReadsAs current s)

instance Harmless.decidable (zeroed : Prop) [Decidable zeroed] (current : UInt32) (s : Bytes) :
    Decidable (Harmless zeroed current s) :=
  inferInstanceAs (Decidable (_ ∧ _))

theorem readsAs_iff (a : UInt32) (s : Bytes) :
    ReadsAs a s ↔ ipStringToUint32 ip4addrAton s = a := by
  have hread : ipStringToUint32 ip4addrAton s = (ip4addrAton s).getD 0 := by
    unfold ipStringToUint32
    split
    · rename_i h
      rw [h]
      rfl
    · rfl
  rw [hread, ReadsAs]
  cases ip4addrAton s with
  | none => exact eq_comm
  | some b => exact Iff.rfl

variable {zeroed : Prop} [Decidable zeroed] {looked : Bool} {item : Option Bytes}
  {current : UInt32}

/-- **One field**: it is 0 if it was zeroed, and what the string does is done without it, if and
only if the string is harmless or not looked at. -/
theorem field_iff :
    (zeroed → requestedAddress zeroed (itemAddress ip4addrAton looked item) current = 0) ∧
      requestedAddress zeroed (itemAddress ip4addrAton looked (item.filter isQuad)) current =
        requestedAddress zeroed (itemAddress ip4addrAton looked item) current ↔
      (looked = true → ∀ s ∈ item, Harmless zeroed current s) := by
  cases looked with
  | false => simp +contextual [itemAddress, requestedAddress]
  | true =>
    cases item with
    | none => simp +contextual [itemAddress, requestedAddress]
    | some s =>
      have hafter : requestedAddress zeroed (itemAddress ip4addrAton true (some s)) current =
          ipStringToUint32 ip4addrAton s := rfl
      have hall : (∀ s' ∈ some s, Harmless zeroed current s') ↔ Harmless zeroed current s := by
        simp
      rw [hafter, hall, Harmless, readsAs_iff, readsAs_iff]
      by_cases hquad : dottedQuad s = none
      · have hwithout : requestedAddress zeroed
            (itemAddress ip4addrAton true ((some s).filter isQuad)) current =
            if zeroed then 0 else current := by
          simp [Option.filter, isQuad, hquad, requestedAddress]
        rw [hwithout]
        by_cases hz : zeroed
        · simp [hz, eq_comm]
        · simp [hz, hquad, eq_comm]
      · have hkeeps : (some s).filter isQuad = some s := by
          simpa [Option.filter, isQuad, Option.isSome_iff_ne_none] using hquad
        rw [hkeeps, hafter]
        simp [hquad]

/-- An address that the other strings leave alone is sourced. -/
theorem sourced_of_field (hz : ¬zeroed)
    (h : requestedAddress zeroed (itemAddress ip4addrAton looked (item.filter isQuad)) current =
      requestedAddress zeroed (itemAddress ip4addrAton looked item) current) :
    Sourced item current
      (requestedAddress zeroed (itemAddress ip4addrAton looked item) current) := by
  rw [← h]
  cases hitem : item.filter isQuad with
  | none => simp [Sourced, requestedAddress, hz]
  | some s =>
    obtain ⟨hs, hquad⟩ := Option.filter_eq_some_iff.1 hitem
    cases looked with
    | false => simp [Sourced, itemAddress, requestedAddress, hz]
    | true =>
      obtain ⟨a, ha⟩ := Option.isSome_iff_exists.1 hquad
      have hread : ipStringToUint32 ip4addrAton s = a := by
        rw [← readsAs_iff, ReadsAs, ip4addrAton_of_quad ha]
      refine Or.inr ⟨s, hs, ?_⟩
      rw [ha]
      exact congrArg some hread.symm

/-! ## 3. The request -/

/-- A request whose strings do no harm. -/
structure IpConfigJson.Safe (j : IpConfigJson) (looked : Bool) (c : InterfaceConfiguration) :
    Prop where
  ipAddress : looked = true → ∀ s ∈ j.ipAddress, Harmless (j.useDhcp = some true) c.ipAddress s
  networkMask : looked = true → ∀ s ∈ j.netmask, Harmless (j.useDhcp = some true) c.networkMask s
  gateway : looked = true → ∀ s ∈ j.gateway, Harmless (j.useDhcp = some true) c.gateway s
  nameServer : ∀ s ∈ j.dns1, Harmless False c.nameServer s
  nameServer2 : ∀ s ∈ j.dns2, Harmless False c.nameServer2 s

variable {p : Post} {j : IpConfigJson} {t u : CipTcpIpObject} {nvs : Option NvData}

/-- A request that is answered with success has been stored. -/
theorem postIpconfig_success (hbody : p.body = .json j)
    (hok : (postIpconfig ip4addrAton p t nvs).1 = .ok) :
    p.mutex = true ∧ p.taken = true ∧
      (postIpconfig ip4addrAton p t nvs).2.1 = applyIpconfig ip4addrAton j (p.looked j t) t := by
  have hs : p.Stores := by
    by_contra hs
    exact (postIpconfig_of_not_stores hs).2 hok
  exact ⟨hs.2.1, hs.2.2, by rw [postIpconfig_stores ip4addrAton hbody hs.2.1 hs.2.2]⟩

/-- Whether two requests for the same method make the same of the object is a matter of the five
addresses. -/
theorem applyIpconfig_quads_iff (looked : Bool) :
    applyIpconfig ip4addrAton j.quads looked t = applyIpconfig ip4addrAton j looked t ↔
      let new := (applyIpconfig ip4addrAton j.quads looked t).interfaceConfiguration
      let c := (applyIpconfig ip4addrAton j looked t).interfaceConfiguration
      new.ipAddress = c.ipAddress ∧ new.networkMask = c.networkMask ∧ new.gateway = c.gateway ∧
        new.nameServer = c.nameServer ∧ new.nameServer2 = c.nameServer2 := by
  simp only [applyIpconfig_eq]
  simp [IpConfigJson.quads]

theorem method_requestedMethod {useDhcp : Option Bool} (h : useDhcp = some true) (c : UInt32) :
    method (requestedMethod useDhcp c) = kTcpipCfgCtrlDhcp := by
  rw [h]
  exact method_setMethod_dhcp c

/-- What a request makes of the object is consistent if and only if its strings do no harm. -/
theorem consistent_iff_safe (hmutex : p.mutex = true) (htaken : p.taken = true) :
    Consistent p j t nvs (applyIpconfig ip4addrAton j (p.looked j t) t) ↔
      j.Safe (p.looked j t) t.interfaceConfiguration := by
  have hquads : (postIpconfig ip4addrAton { p with body := .json j.quads } t nvs).2.1 =
      applyIpconfig ip4addrAton j.quads (p.looked j t) t := by
    rw [postIpconfig_stores (p := { p with body := .json j.quads }) ip4addrAton rfl hmutex htaken]
    rfl
  constructor
  · intro h
    have hsame := h.quads
    rw [hquads, applyIpconfig_quads_iff] at hsame
    have hdhcp := h.dhcp
    rw [applyIpconfig_eq] at hdhcp
    simp only [applyIpconfig_eq] at hsame
    obtain ⟨hip, hmask, hgw, hns, hns2⟩ := hsame
    exact ⟨field_iff.1 ⟨fun hz => (hdhcp hz).2.1, hip⟩,
      field_iff.1 ⟨fun hz => (hdhcp hz).2.2.1, hmask⟩,
      field_iff.1 ⟨fun hz => (hdhcp hz).2.2.2, hgw⟩,
      field_iff.1 ⟨False.elim, hns⟩ rfl, field_iff.1 ⟨False.elim, hns2⟩ rfl⟩
  · intro h
    obtain ⟨hip0, hip⟩ := field_iff.2 h.ipAddress
    obtain ⟨hmask0, hmask⟩ := field_iff.2 h.networkMask
    obtain ⟨hgw0, hgw⟩ := field_iff.2 h.gateway
    obtain ⟨-, hns⟩ := field_iff.2 fun (_ : true = true) => h.nameServer
    obtain ⟨-, hns2⟩ := field_iff.2 fun (_ : true = true) => h.nameServer2
    refine ⟨fun hz => ?_, fun hstatic => ?_, ?_⟩
    · rw [applyIpconfig_eq]
      exact ⟨method_requestedMethod hz _, hip0 hz, hmask0 hz, hgw0 hz⟩
    · rw [applyIpconfig_eq] at hstatic ⊢
      -- a static result was not asked to be DHCP
      have hz : ¬j.useDhcp = some true := by
        intro hz
        have hdhcp := method_requestedMethod hz t.configControl
        rw [hstatic] at hdhcp
        cases hdhcp
      exact ⟨sourced_of_field hz hip, sourced_of_field hz hmask, sourced_of_field hz hgw,
        sourced_of_field id hns, sourced_of_field id hns2⟩
    · rw [hquads, applyIpconfig_quads_iff]
      simp only [applyIpconfig_eq]
      exact ⟨hip, hmask, hgw, hns, hns2⟩

/-- **When a successful request leaves a consistent configuration**: when its strings do no
harm. -/
theorem ipconfig_consistent_iff (hbody : p.body = .json j)
    (hok : (postIpconfig ip4addrAton p t nvs).1 = .ok) :
    (postIpconfig ip4addrAton p t nvs).2.2 =
        some (postIpconfig ip4addrAton p t nvs).2.1.toNvData ∧
      (Consistent p j t nvs (postIpconfig ip4addrAton p t nvs).2.1 ↔
        j.Safe (p.looked j t) t.interfaceConfiguration) := by
  obtain ⟨hmutex, htaken, hresult⟩ := postIpconfig_success hbody hok
  refine ⟨postIpconfig_ok hok, ?_⟩
  rw [hresult]
  exact consistent_iff_safe hmutex htaken

/-- A device with the static address 192.168.0.2. -/
def benchStatic : CipTcpIpObject :=
  { CipTcpIpObject.default with
    configControl := 0
    interfaceConfiguration := ⟨0x0200A8C0, 0x00FFFFFF, 0, 0, 0, .empty⟩ }

/-- What the page sends, with its fields as they were. -/
def pageItems (useDhcp : Bool) : IpConfigJson :=
  ⟨some useDhcp, some (ascii "192.168.0.2"), some (ascii "255.255.255.0"), some [], some [],
    some []⟩

/-- The page asks for a method, and nothing fails. -/
def benchPage (useDhcp : Bool) : Post := ⟨.json (pageItems useDhcp), true, true, true, .ok⟩

theorem ipconfig_consistent_page :
    Consistent (benchPage false) (pageItems false) benchStatic none
      (postIpconfig ip4addrAton (benchPage false) benchStatic none).2.1 := by
  have hok : (postIpconfig ip4addrAton (benchPage false) benchStatic none).1 = .ok := rfl
  refine (ipconfig_consistent_iff rfl hok).2.2 ⟨?_, ?_, ?_, ?_, ?_⟩
  · decide +kernel
  · decide +kernel
  · decide +kernel
  · decide +kernel
  · decide +kernel

/-- The page asks a static device for DHCP: the addresses stay. -/
theorem dhcp_keeps_address :
    ¬∀ (p : Post) (j : IpConfigJson) (t : CipTcpIpObject) (nvs : Option NvData),
      p.body = .json j → (postIpconfig ip4addrAton p t nvs).1 = .ok →
        Consistent p j t nvs (postIpconfig ip4addrAton p t nvs).2.1 := by
  intro h
  have hok : (postIpconfig ip4addrAton (benchPage true) benchStatic none).1 = .ok := rfl
  have hzero := ((h _ (pageItems true) benchStatic none rfl hok).dhcp rfl).2.1
  have hkept : ¬(postIpconfig ip4addrAton (benchPage true) benchStatic
      none).2.1.interfaceConfiguration.ipAddress = 0 := by
    decide +kernel
  exact hkept hzero

end GroundTruth.Tcpip
