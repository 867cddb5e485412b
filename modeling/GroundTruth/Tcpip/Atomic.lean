/-
# What a failure leaves of the configuration

Two functions change the object step by step and can fail when they have begun.  The handler of
`POST /api/ipconfig` writes to the object what it has read, and then stores it: when the store
fails, what was written stays.  `NvTcpipLoad` copies the addresses and then allocates the strings,
having freed the old ones: when one cannot be allocated, what was copied stays.

* `applyIpconfig_eq_iff`: the requests that give the object what it has;
* `ipconfig_atomic_iff`: when a request that is not answered with success leaves the object alone;
* `failed_load_iff`: when a load that fails does.
-/
import Mathlib.Tactic.Common
import GroundTruth.Tcpip.Web

namespace GroundTruth.Tcpip

open GroundTruth.Lib

/-! ## 1. What a request writes -/

/-- The method bits that a request leaves. -/
def requestedMethod (useDhcp : Option Bool) (configControl : UInt32) : UInt32 :=
  match useDhcp with
  | some true => setMethod kTcpipCfgCtrlDhcp configControl
  | some false => setMethod kTcpipCfgCtrlStaticIp configControl
  | none => configControl

/-- An address that a request leaves: what an item gives, or what is there once the method is
set. -/
def requestedAddress (zeroed : Prop) [Decidable zeroed] (item : Option UInt32) (current : UInt32) :
    UInt32 :=
  item.getD (if zeroed then 0 else current)

/-- The object that a request leaves, field by field. -/
theorem applyIpconfig_eq (inetAton : Bytes → Option UInt32) (j : IpConfigJson) (looked : Bool)
    (t : CipTcpIpObject) :
    applyIpconfig inetAton j looked t =
      let dhcp := j.useDhcp = some true
      let c := t.interfaceConfiguration
      { t with
        configControl := requestedMethod j.useDhcp t.configControl
        interfaceConfiguration :=
          { c with
            ipAddress := requestedAddress dhcp (itemAddress inetAton looked j.ipAddress) c.ipAddress
            networkMask :=
              requestedAddress dhcp (itemAddress inetAton looked j.netmask) c.networkMask
            gateway := requestedAddress dhcp (itemAddress inetAton looked j.gateway) c.gateway
            nameServer := requestedAddress False (itemAddress inetAton true j.dns1) c.nameServer
            nameServer2 :=
              requestedAddress False (itemAddress inetAton true j.dns2) c.nameServer2 } } := by
  unfold applyIpconfig setUseDhcp
  cases j.useDhcp with
  | none => simp [requestedMethod, requestedAddress]
  | some b => cases b <;> simp [requestedMethod, requestedAddress]

/-- An address that a request does not change. -/
def AlreadyHas (zeroed : Prop) (item : Option UInt32) (current : UInt32) : Prop :=
  match item with
  | some a => current = a
  | none => zeroed → current = 0

theorem requestedAddress_eq_iff (zeroed : Prop) [Decidable zeroed] (item : Option UInt32)
    (current : UInt32) :
    requestedAddress zeroed item current = current ↔ AlreadyHas zeroed item current := by
  cases item with
  | some a => exact eq_comm
  | none =>
    rw [requestedAddress, AlreadyHas, Option.getD_none]
    by_cases hz : zeroed
    · simp [hz, eq_comm]
    · simp [hz]

theorem setMethod_eq_iff {m : UInt32} (hm : m &&& kTcpipCfgCtrlMethodMask = m) (c : UInt32) :
    setMethod m c = c ↔ method c = m := by
  constructor
  · intro h
    rw [← h, method_setMethod hm]
  · intro h
    rw [← h, setMethod_method]

/-- A request that gives the object what it has. -/
structure IpConfigJson.Redundant (inetAton : Bytes → Option UInt32) (j : IpConfigJson)
    (looked : Bool) (t : CipTcpIpObject) : Prop where
  dhcp : j.useDhcp = some true → method t.configControl = kTcpipCfgCtrlDhcp
  static : j.useDhcp = some false → method t.configControl = kTcpipCfgCtrlStaticIp
  ipAddress : AlreadyHas (j.useDhcp = some true) (itemAddress inetAton looked j.ipAddress)
    t.interfaceConfiguration.ipAddress
  networkMask : AlreadyHas (j.useDhcp = some true) (itemAddress inetAton looked j.netmask)
    t.interfaceConfiguration.networkMask
  gateway : AlreadyHas (j.useDhcp = some true) (itemAddress inetAton looked j.gateway)
    t.interfaceConfiguration.gateway
  nameServer : AlreadyHas False (itemAddress inetAton true j.dns1)
    t.interfaceConfiguration.nameServer
  nameServer2 : AlreadyHas False (itemAddress inetAton true j.dns2)
    t.interfaceConfiguration.nameServer2

theorem requestedMethod_eq_iff (useDhcp : Option Bool) (c : UInt32) :
    requestedMethod useDhcp c = c ↔
      (useDhcp = some true → method c = kTcpipCfgCtrlDhcp) ∧
        (useDhcp = some false → method c = kTcpipCfgCtrlStaticIp) := by
  cases useDhcp with
  | none => simp [requestedMethod]
  | some b =>
    cases b with
    | true => simpa [requestedMethod] using setMethod_eq_iff rfl c
    | false => simpa [requestedMethod] using setMethod_eq_iff rfl c

variable {inetAton : Bytes → Option UInt32} {p : Post} {t : CipTcpIpObject}

/-- **The requests that write nothing new.** -/
theorem applyIpconfig_eq_iff (j : IpConfigJson) (looked : Bool) :
    applyIpconfig inetAton j looked t = t ↔ j.Redundant inetAton looked t := by
  have hfields : applyIpconfig inetAton j looked t = t ↔
      requestedMethod j.useDhcp t.configControl = t.configControl ∧
        requestedAddress (j.useDhcp = some true) (itemAddress inetAton looked j.ipAddress)
          t.interfaceConfiguration.ipAddress = t.interfaceConfiguration.ipAddress ∧
        requestedAddress (j.useDhcp = some true) (itemAddress inetAton looked j.netmask)
          t.interfaceConfiguration.networkMask = t.interfaceConfiguration.networkMask ∧
        requestedAddress (j.useDhcp = some true) (itemAddress inetAton looked j.gateway)
          t.interfaceConfiguration.gateway = t.interfaceConfiguration.gateway ∧
        requestedAddress False (itemAddress inetAton true j.dns1)
          t.interfaceConfiguration.nameServer = t.interfaceConfiguration.nameServer ∧
        requestedAddress False (itemAddress inetAton true j.dns2)
          t.interfaceConfiguration.nameServer2 = t.interfaceConfiguration.nameServer2 := by
    rw [applyIpconfig_eq]
    obtain ⟨status, configControl, ⟨ip, mask, gw, ns, ns2, domain⟩, hostname, acd, timeout⟩ := t
    simp
  simp only [hfields, requestedMethod_eq_iff, requestedAddress_eq_iff]
  constructor
  · rintro ⟨⟨hdhcp, hstatic⟩, hip, hmask, hgw, hns, hns2⟩
    exact ⟨hdhcp, hstatic, hip, hmask, hgw, hns, hns2⟩
  · intro h
    exact ⟨⟨h.dhcp, h.static⟩, h.ipAddress, h.networkMask, h.gateway, h.nameServer, h.nameServer2⟩

/-! ## 2. A request that fails -/

/-- Whether the items for the address, the mask and the gateway are looked at. -/
def Post.looked (p : Post) (j : IpConfigJson) (t : CipTcpIpObject) : Bool :=
  (p.peek = true ∧ method t.configControl = kTcpipCfgCtrlStaticIp) ∨ ¬j.useDhcp = some true

/-- A request that is stored, item by item. -/
theorem postIpconfig_stores (inetAton : Bytes → Option UInt32) {j : IpConfigJson}
    (hbody : p.body = .json j) (hmutex : p.mutex = true) (htaken : p.taken = true)
    (t : CipTcpIpObject) (nvs : Option NvData) :
    postIpconfig inetAton p t nvs =
      let u := applyIpconfig inetAton j (p.looked j t) t
      (if (nvTcpipStore p.write u nvs).1 = true then .ok else .saveFailed, u,
        (nvTcpipStore p.write u nvs).2) := by
  unfold postIpconfig
  simp [hbody, hmutex, htaken, Post.looked]

theorem nvTcpipStore_ok_iff (w : NvWrite) (t : CipTcpIpObject) (nvs : Option NvData) :
    (nvTcpipStore w t nvs).1 = true ↔ w = .ok := by
  cases w <;> simp [nvTcpipStore]

variable (inetAton) in
/-- The response to a request.  `none` is the 500 that is sent in place of success when
`cJSON_Print` finds no memory for it. -/
def postIpconfigSent (p : Post) (printed : Bool) (t : CipTcpIpObject) (nvs : Option NvData) :
    Option PostReply × CipTcpIpObject × Option NvData :=
  let out := postIpconfig inetAton p t nvs
  (if out.1 = .ok ∧ printed = false then none else some out.1, out.2)

theorem postIpconfigSent_ok_iff {printed : Bool} {nvs : Option NvData} :
    (postIpconfigSent inetAton p printed t nvs).1 = some .ok ↔
      (postIpconfig inetAton p t nvs).1 = .ok ∧ printed = true := by
  unfold postIpconfigSent
  dsimp only
  split
  · rename_i h
    simp [h.2]
  · rename_i h
    cases printed with
    | false => simpa using h
    | true => simp

/-- **When a request that is not answered with success leaves the object as it was**: it does not
get as far as storing, or the store and the response succeed, or it gives the object what it
has. -/
theorem ipconfig_atomic_iff (inetAton : Bytes → Option UInt32) (p : Post) (printed : Bool)
    (t : CipTcpIpObject) (nvs : Option NvData) :
    ((postIpconfigSent inetAton p printed t nvs).1 ≠ some .ok →
        (postIpconfigSent inetAton p printed t nvs).2.1 = t) ↔
      (p.Stores → (p.write = .ok ∧ printed = true) ∨
        ∀ j, p.body = .json j → j.Redundant inetAton (p.looked j t) t) := by
  rw [ne_eq, postIpconfigSent_ok_iff]
  change (_ → (postIpconfig inetAton p t nvs).2.1 = t) ↔ _
  by_cases hs : p.Stores
  · obtain ⟨⟨j, hbody⟩, hmutex, htaken⟩ := id hs
    have hone : (∀ k, p.body = .json k → k.Redundant inetAton (p.looked k t) t) ↔
        j.Redundant inetAton (p.looked j t) t := by
      constructor
      · exact fun h => h j hbody
      · intro h k hk
        rw [hbody] at hk
        obtain rfl := PostBody.json.inj hk
        exact h
    have hok : (postIpconfig inetAton p t nvs).1 = .ok ↔ p.write = .ok := by
      rw [postIpconfig_stores inetAton hbody hmutex htaken]
      dsimp only
      rw [← nvTcpipStore_ok_iff p.write (applyIpconfig inetAton j (p.looked j t) t) nvs]
      split <;> simp_all
    rw [hone, hok, postIpconfig_stores inetAton hbody hmutex htaken, ← applyIpconfig_eq_iff,
      ← or_iff_not_imp_left]
    simp [hs]
  · have hsame : (postIpconfig inetAton p t nvs).2 = (t, nvs) := (postIpconfig_of_not_stores hs).1
    simp [hsame, hs]

/-- A device on DHCP is asked for a static address, and the flash does not take it. -/
theorem method_left_changed :
    ¬∀ (inetAton : Bytes → Option UInt32) (p : Post) (printed : Bool) (t : CipTcpIpObject)
      (nvs : Option NvData), (postIpconfigSent inetAton p printed t nvs).1 ≠ some .ok →
        (postIpconfigSent inetAton p printed t nvs).2.1 = t := by
  intro h
  have hsame := h (fun _ => none)
    ⟨.json ⟨some false, none, none, none, none, none⟩, true, true, true, .refused⟩ true .default
    none (by decide)
  revert hsame
  decide

/-! ## 3. A load that fails -/

/-- The block that a text is restored to. -/
def textBlock (text : Bytes) : Option Bytes := if text = [] then none else some text

/-- There is no memory for a text. -/
def TextFails (alloc : Bool) (text : Bytes) : Prop := text ≠ [] ∧ alloc = false

instance TextFails.decidable (alloc : Bool) (text : Bytes) : Decidable (TextFails alloc text) :=
  inferInstanceAs (Decidable (_ ∧ _))

/-- Clearing a string without a block does nothing. -/
theorem clearCipString_eq_iff (s : CipString) : clearCipString s = s ↔ s.string = none := by
  obtain ⟨length, string, sized⟩ := s
  cases string with
  | none => simp [clearCipString]
  | some d => simp [clearCipString, CipString.empty]

/-- There is no memory: the string is cleared. -/
theorem restoreText_of_fails {alloc : Bool} {text : Bytes} (h : TextFails alloc text)
    (s : CipString) : restoreText alloc text s = (false, clearCipString s) := by
  have hpos : 0 < text.length := List.length_pos_iff.2 h.1
  have htwice : clearCipString (clearCipString s) = clearCipString s := by
    rw [clearCipString_eq_iff]
    obtain ⟨length, string, sized⟩ := s
    cases string <;> rfl
  rw [restoreText, if_pos hpos, setCipStringByData, if_neg h.1, if_pos h.2, htwice]

/-- There is memory, or nothing to restore. -/
theorem restoreText_of_not_fails {alloc : Bool} {text : Bytes} (h : ¬TextFails alloc text)
    (s : CipString) :
    (restoreText alloc text s).1 = true ∧
      ((restoreText alloc text s).2 = s ↔ s.string = textBlock text) := by
  by_cases htext : text = []
  · subst htext
    exact ⟨rfl, clearCipString_eq_iff s⟩
  · have hpos : 0 < text.length := List.length_pos_iff.2 htext
    have halloc : ¬alloc = false := fun ha => h ⟨htext, ha⟩
    rw [restoreText, if_pos hpos, setCipStringByData, if_neg htext, if_neg halloc, textBlock,
      if_neg htext]
    refine ⟨rfl, ?_⟩
    obtain ⟨length, string, sized⟩ := s
    constructor
    · intro heq
      exact (CipString.mk.inj heq).2.symm
    · rintro rfl
      simp [sized text rfl]

/-- **When a load that has begun gives up.** -/
def GivesUp (e : LoadEnv) (b : TcpipNvBlob) : Prop :=
  TextFails e.domainAlloc b.domainText ∨ TextFails e.hostnameAlloc b.hostnameText

/-- What a load that gives up has restored by then is what the object had. -/
structure Restored.Redundant (e : LoadEnv) (r : Restored) (t : CipTcpIpObject) : Prop where
  configControl : t.configControl = r.blob.configControl
  selectAcd : t.selectAcd = r.selectAcd
  addresses : t.interfaceConfiguration.addresses = r.blob.addresses
  domainName : t.interfaceConfiguration.domainName.string =
    if TextFails e.domainAlloc r.blob.domainText then none else textBlock r.blob.domainText
  hostname : ¬TextFails e.domainAlloc r.blob.domainText → t.hostname.string = none

variable {e : LoadEnv} {r : Restored}

theorem restore_gives_up : (restore e r t).1 = false ↔ GivesUp e r.blob := by
  unfold restore GivesUp
  dsimp only
  by_cases hd : TextFails e.domainAlloc r.blob.domainText
  · simp [restoreText_of_fails hd, hd]
  · rw [(restoreText_of_not_fails hd _).1, if_neg (by simp)]
    by_cases hh : TextFails e.hostnameAlloc r.blob.hostnameText
    · simp [restoreText_of_fails hh, hh]
    · simp [(restoreText_of_not_fails hh _).1, hd, hh]

/-- The fields that are copied are what the object had. -/
theorem restoreFields_eq_iff (domain hostname : CipString) :
    { restoreFields r t with
        interfaceConfiguration :=
          { (restoreFields r t).interfaceConfiguration with domainName := domain }
        hostname := hostname } = t ↔
      t.configControl = r.blob.configControl ∧ t.selectAcd = r.selectAcd ∧
        t.interfaceConfiguration.addresses = r.blob.addresses ∧
        domain = t.interfaceConfiguration.domainName ∧ hostname = t.hostname := by
  obtain ⟨status, control, ⟨ip, mask, gw, ns, ns2, name⟩, host, acd, timeout⟩ := t
  simp only [restoreFields, CipTcpIpObject.mk.injEq, InterfaceConfiguration.mk.injEq, true_and,
    and_true, InterfaceConfiguration.addresses, TcpipNvBlob.addresses]
  grind

/-- **What is left by a load that gives up.** -/
theorem restore_eq_iff (hg : GivesUp e r.blob) :
    (restore e r t).2 = t ↔ r.Redundant e t := by
  by_cases hd : TextFails e.domainAlloc r.blob.domainText
  · have hleft : (restore e r t).2 = t ↔ t.configControl = r.blob.configControl ∧
        t.selectAcd = r.selectAcd ∧ t.interfaceConfiguration.addresses = r.blob.addresses ∧
        clearCipString t.interfaceConfiguration.domainName =
          t.interfaceConfiguration.domainName ∧ t.hostname = t.hostname := by
      rw [← restoreFields_eq_iff]
      simp only [restore, restoreText_of_fails hd]
      rfl
    rw [hleft, clearCipString_eq_iff]
    constructor
    · rintro ⟨hcontrol, hacd, haddresses, hdomain, -⟩
      exact ⟨hcontrol, hacd, haddresses, by rw [if_pos hd]; exact hdomain, fun h => absurd hd h⟩
    · intro h
      have hdomain := h.domainName
      rw [if_pos hd] at hdomain
      exact ⟨h.configControl, h.selectAcd, h.addresses, hdomain, rfl⟩
  · have hh := hg.resolve_left hd
    obtain ⟨hdone, hdomain⟩ :=
      restoreText_of_not_fails hd (restoreFields r t).interfaceConfiguration.domainName
    have hleft : (restore e r t).2 = t ↔ t.configControl = r.blob.configControl ∧
        t.selectAcd = r.selectAcd ∧ t.interfaceConfiguration.addresses = r.blob.addresses ∧
        (restoreText e.domainAlloc r.blob.domainText
          t.interfaceConfiguration.domainName).2 = t.interfaceConfiguration.domainName ∧
        clearCipString t.hostname = t.hostname := by
      rw [← restoreFields_eq_iff]
      simp only [restore, hdone, restoreText_of_fails hh]
      rfl
    have hname : (restoreText e.domainAlloc r.blob.domainText
          t.interfaceConfiguration.domainName).2 = t.interfaceConfiguration.domainName ↔
        t.interfaceConfiguration.domainName.string = textBlock r.blob.domainText := hdomain
    rw [hleft, hname, clearCipString_eq_iff]
    constructor
    · rintro ⟨hcontrol, hacd, haddresses, hdomain', hhostname⟩
      exact ⟨hcontrol, hacd, haddresses, by rw [if_neg hd]; exact hdomain', fun _ => hhostname⟩
    · intro h
      have hdomain' := h.domainName
      rw [if_neg hd] at hdomain'
      exact ⟨h.configControl, h.selectAcd, h.addresses, hdomain', h.hostname hd⟩

/-- **When a load that fails leaves the object as it was**: it fails before it has found a
configuration, or what it has restored by the time it gives up is what the object had. -/
theorem failed_load_iff (e : LoadEnv) (t : CipTcpIpObject) (nvs : Option NvData) :
    ((nvTcpipLoad e t nvs).1 = false → (nvTcpipLoad e t nvs).2.1 = t) ↔
      ∀ r, e.readable = true → nvs.bind checkBlob = some r → GivesUp e r.blob →
        r.Redundant e t := by
  unfold nvTcpipLoad
  by_cases hread : e.readable = false
  · simp [hread]
  · rw [if_neg hread]
    rw [Bool.not_eq_false] at hread
    cases hcheck : nvs.bind checkBlob with
    | none => simp
    | some r =>
      dsimp only
      have hone : (∀ r', e.readable = true → some r = some r' → GivesUp e r'.blob →
          r'.Redundant e t) ↔ (GivesUp e r.blob → r.Redundant e t) := by
        simp [hread]
      rw [hone]
      by_cases hg : GivesUp e r.blob
      · rw [if_pos (restore_gives_up.2 hg), ← restore_eq_iff hg]
        simp [hg]
      · rw [if_neg fun h => hg (restore_gives_up.1 h)]
        simp [hg]

/-- A stored static configuration with a domain name for which there is no memory. -/
def benchBlob : TcpipNvBlob where
  configControl := 0
  ipAddress := 0x0200A8C0
  networkMask := 0x00FFFFFF
  gateway := 0
  nameServer := 0
  nameServer2 := 0
  domainLength := 1
  hostnameLength := 0
  domain := 97 :: List.replicate 47 0
  hostname := 0 :: List.replicate 63 0
  domain_size := rfl
  hostname_size := rfl

/-- The load fails, and has made the device static. -/
theorem half_restored :
    ¬∀ (e : LoadEnv) (t : CipTcpIpObject) (nvs : Option NvData),
      (nvTcpipLoad e t nvs).1 = false → (nvTcpipLoad e t nvs).2.1 = t := by
  intro h
  have hsame := h ⟨true, false, true, .ok, .ok⟩ .default (some (.v2 2 benchBlob 0)) (by decide)
  revert hsame
  decide

end GroundTruth.Tcpip
