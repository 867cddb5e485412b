/-
# `POST /api/ipconfig`

The handler takes what it finds in the request, writes it to the object, and stores the object.
The text of an address is read by `inet_aton`, a parameter here, and whatever that cannot read is
the address 0.  What is set is not checked.

* `applyIpconfig_persisted`: a request changes only the fields it sets;
* `postIpconfig_stored_iff`: when a request keeps a stored field that it does not set.
-/
import GroundTruth.Tcpip.Nv

namespace GroundTruth.Tcpip

open GroundTruth.Lib

/-! ## 1. The handler -/

/-- The items of the JSON object that have the type asked for: a boolean, and strings. -/
structure IpConfigJson where
  useDhcp : Option Bool
  ipAddress : Option Bytes
  netmask : Option Bytes
  gateway : Option Bytes
  dns1 : Option Bytes
  dns2 : Option Bytes
  deriving DecidableEq, Repr

/-- What is received, and what `cJSON_Parse` makes of it. -/
inductive PostBody
  /-- `httpd_req_recv` returns 0 or an error -/
  | noData
  | invalidJson
  | json (items : IpConfigJson)
  deriving DecidableEq, Repr

/-- A request, what becomes of its locks, and of its write to the flash. -/
structure Post where
  body : PostBody
  /-- the mutex exists, and is taken within 100 ms to read the method -/
  peek : Bool
  /-- the mutex exists, or can be created -/
  mutex : Bool
  /-- it is taken within a second -/
  taken : Bool
  write : NvWrite
  deriving DecidableEq, Repr

inductive PostReply
  | ok
  /-- 500 -/
  | noData
  /-- 400, "Invalid JSON" -/
  | invalidJson
  /-- 500, "Internal error: mutex creation failed" -/
  | mutexCreationFailed
  /-- 500, "Timeout accessing IP configuration" -/
  | timeout
  /-- 500, "Failed to save IP configuration" -/
  | saveFailed
  deriving DecidableEq, Repr

variable (inetAton : Bytes → Option UInt32)

/-- `ip_string_to_uint32`. -/
def ipStringToUint32 (ipStr : Bytes) : UInt32 :=
  if ipStr = [] then 0 else (inetAton ipStr).getD 0

/-- The address set by an item that was looked at. -/
def itemAddress (looked : Bool) (item : Option Bytes) : Option UInt32 :=
  if looked = true then item.map (ipStringToUint32 inetAton) else none

/-- The method written, and with DHCP three of the addresses set to 0. -/
def setUseDhcp (useDhcp : Option Bool) (t : CipTcpIpObject) : CipTcpIpObject :=
  match useDhcp with
  | some true =>
    { t with
      configControl := setMethod kTcpipCfgCtrlDhcp t.configControl
      interfaceConfiguration :=
        { t.interfaceConfiguration with ipAddress := 0, networkMask := 0, gateway := 0 } }
  | some false => { t with configControl := setMethod kTcpipCfgCtrlStaticIp t.configControl }
  | none => t

/-- What the handler writes to the object. -/
def applyIpconfig (j : IpConfigJson) (looked : Bool) (t : CipTcpIpObject) : CipTcpIpObject :=
  let t := setUseDhcp j.useDhcp t
  let c := t.interfaceConfiguration
  { t with interfaceConfiguration :=
    { c with
      ipAddress := (itemAddress inetAton looked j.ipAddress).getD c.ipAddress
      networkMask := (itemAddress inetAton looked j.netmask).getD c.networkMask
      gateway := (itemAddress inetAton looked j.gateway).getD c.gateway
      nameServer := (itemAddress inetAton true j.dns1).getD c.nameServer
      nameServer2 := (itemAddress inetAton true j.dns2).getD c.nameServer2 } }

/-- `api_post_ipconfig_handler`. -/
def postIpconfig (p : Post) (t : CipTcpIpObject) (nvs : Option NvData) :
    PostReply × CipTcpIpObject × Option NvData :=
  match p.body with
  | .noData => (.noData, t, nvs)
  | .invalidJson => (.invalidJson, t, nvs)
  | .json j =>
    let useDhcpRequested := j.useDhcp = some true
    let isStaticIp := p.peek = true ∧ method t.configControl = kTcpipCfgCtrlStaticIp
    let looked : Bool := isStaticIp ∨ ¬useDhcpRequested
    if p.mutex = false then (.mutexCreationFailed, t, nvs)
    else if p.taken = false then (.timeout, t, nvs)
    else
      let t := applyIpconfig inetAton j looked t
      let stored := nvTcpipStore p.write t nvs
      (if stored.1 = true then .ok else .saveFailed, t, stored.2)

/-- The fields that the items of a request set. -/
def IpConfigJson.sets (j : IpConfigJson) : Field → Prop
  | .ipAddress => j.useDhcp = some true ∨ j.ipAddress ≠ none
  | .networkMask => j.useDhcp = some true ∨ j.netmask ≠ none
  | .gateway => j.useDhcp = some true ∨ j.gateway ≠ none
  | .nameServer => j.dns1 ≠ none
  | .nameServer2 => j.dns2 ≠ none
  | .domainName => False
  | .hostname => False

instance IpConfigJson.decidableSets (j : IpConfigJson) : (F : Field) → Decidable (j.sets F)
  | .ipAddress => inferInstanceAs (Decidable (_ ∨ _))
  | .networkMask => inferInstanceAs (Decidable (_ ∨ _))
  | .gateway => inferInstanceAs (Decidable (_ ∨ _))
  | .nameServer => inferInstanceAs (Decidable (_ ≠ _))
  | .nameServer2 => inferInstanceAs (Decidable (_ ≠ _))
  | .domainName => inferInstanceAs (Decidable False)
  | .hostname => inferInstanceAs (Decidable False)

def Post.sets (p : Post) (F : Field) : Prop :=
  match p.body with
  | .json j => j.sets F
  | _ => False

instance Post.decidableSets (p : Post) (F : Field) : Decidable (p.sets F) :=
  match h : p.body with
  | .json j => decidable_of_iff (j.sets F) (by rw [Post.sets, h])
  | .noData => isFalse (by rw [Post.sets, h]; exact id)
  | .invalidJson => isFalse (by rw [Post.sets, h]; exact id)

/-- The request gets as far as storing the object. -/
def Post.Stores (p : Post) : Prop :=
  (∃ j, p.body = .json j) ∧ p.mutex = true ∧ p.taken = true

instance Post.decidableStores (p : Post) : Decidable p.Stores :=
  haveI : Decidable (∃ j, p.body = .json j) :=
    match p.body with
    | .json j => isTrue ⟨j, rfl⟩
    | .noData => isFalse fun h => nomatch h
    | .invalidJson => isFalse fun h => nomatch h
  inferInstanceAs (Decidable (_ ∧ _))

/-! ## 2. What a request leaves alone -/

variable {inetAton : Bytes → Option UInt32} {p : Post} {t : CipTcpIpObject}
  {nvs : Option NvData} {F : Field}

@[simp] theorem itemAddress_none (looked : Bool) : itemAddress inetAton looked none = none := by
  cases looked <;> rfl

/-- The page has no item for a string. -/
theorem applyIpconfig_strings (inetAton : Bytes → Option UInt32) (j : IpConfigJson) (looked : Bool)
    (t : CipTcpIpObject) :
    (applyIpconfig inetAton j looked t).interfaceConfiguration.domainName =
        t.interfaceConfiguration.domainName ∧
      (applyIpconfig inetAton j looked t).hostname = t.hostname := by
  unfold applyIpconfig setUseDhcp
  cases j.useDhcp with
  | none => exact ⟨rfl, rfl⟩
  | some b => cases b <;> exact ⟨rfl, rfl⟩

/-- A field that no item sets is not changed. -/
theorem applyIpconfig_persisted {j : IpConfigJson} {looked : Bool} (h : ¬j.sets F) :
    (applyIpconfig inetAton j looked t).persisted F = t.persisted F := by
  have hname := applyIpconfig_strings inetAton j looked t
  have hdhcp : j.useDhcp ≠ some true → (setUseDhcp j.useDhcp t).interfaceConfiguration =
      t.interfaceConfiguration := by
    intro hne
    unfold setUseDhcp
    cases hu : j.useDhcp with
    | none => rfl
    | some b =>
      cases b with
      | false => rfl
      | true => exact absurd hu hne
  have hdns : (setUseDhcp j.useDhcp t).interfaceConfiguration.nameServer =
      t.interfaceConfiguration.nameServer ∧
      (setUseDhcp j.useDhcp t).interfaceConfiguration.nameServer2 =
      t.interfaceConfiguration.nameServer2 := by
    unfold setUseDhcp
    cases j.useDhcp with
    | none => exact ⟨rfl, rfl⟩
    | some b => cases b <;> exact ⟨rfl, rfl⟩
  cases F <;>
    simp only [IpConfigJson.sets, not_or, ne_eq, Decidable.not_not, not_false_eq_true] at h <;>
    simp_all [CipTcpIpObject.persisted, TcpipNvBlob.value, TcpipNvBlob.domainText,
      TcpipNvBlob.hostnameText, CipTcpIpObject.toBlob, applyIpconfig]

/-- A request that does not get as far as storing changes nothing, and is not answered with
success. -/
theorem postIpconfig_of_not_stores (h : ¬p.Stores) :
    (postIpconfig inetAton p t nvs).2 = (t, nvs) ∧
      (postIpconfig inetAton p t nvs).1 ≠ .ok := by
  unfold postIpconfig
  cases hb : p.body with
  | noData => exact ⟨rfl, fun h => nomatch h⟩
  | invalidJson => exact ⟨rfl, fun h => nomatch h⟩
  | json j =>
    dsimp only
    split
    · exact ⟨rfl, fun h => nomatch h⟩
    · split
      · exact ⟨rfl, fun h => nomatch h⟩
      · rename_i hm ht
        exact absurd ⟨⟨j, hb⟩, by simpa using hm, by simpa using ht⟩ h

/-- A request that stores leaves the fields it does not set, and stores what it leaves. -/
theorem postIpconfig_of_stores (inetAton : Bytes → Option UInt32) (h : p.Stores)
    (t : CipTcpIpObject) (nvs : Option NvData) :
    ∃ u, (¬p.sets F → u.persisted F = t.persisted F) ∧
      postIpconfig inetAton p t nvs =
        (if (nvTcpipStore p.write u nvs).1 = true then .ok else .saveFailed, u,
          (nvTcpipStore p.write u nvs).2) := by
  obtain ⟨⟨j, hb⟩, hm, ht⟩ := h
  unfold postIpconfig
  rw [hb]
  dsimp only
  rw [if_neg (by simp [hm]), if_neg (by simp [ht])]
  refine ⟨_, ?_, rfl⟩
  intro hsets
  rw [Post.sets, hb] at hsets
  exact applyIpconfig_persisted hsets

/-- A request that is answered with success leaves the image of the object. -/
theorem postIpconfig_ok (h : (postIpconfig inetAton p t nvs).1 = .ok) :
    (postIpconfig inetAton p t nvs).2.2 =
      some (postIpconfig inetAton p t nvs).2.1.toNvData := by
  by_cases hs : p.Stores
  · obtain ⟨u, -, hrun⟩ := postIpconfig_of_stores (F := .hostname) inetAton hs t nvs
    rw [hrun] at h ⊢
    refine nvTcpipStore_lands (fun hw => ?_) u nvs
    rw [hw] at h
    cases h
  · exact absurd h (postIpconfig_of_not_stores hs).2

/-- The write of the request reaches the flash. -/
def Post.Lands (p : Post) : Prop := p.Stores ∧ p.write ≠ .refused

instance Post.decidableLands (p : Post) : Decidable p.Lands :=
  inferInstanceAs (Decidable (_ ∧ _))

theorem postIpconfig_of_not_lands (h : ¬p.Lands) : (postIpconfig inetAton p t nvs).2.2 = nvs := by
  by_cases hs : p.Stores
  · obtain ⟨u, -, hrun⟩ := postIpconfig_of_stores (F := .hostname) inetAton hs t nvs
    have hw : p.write = .refused := by
      by_contra hw
      exact h ⟨hs, hw⟩
    rw [hrun, hw]
    rfl
  · rw [(postIpconfig_of_not_stores hs).1]

/-- **What a request does to a stored field** that it does not set: it keeps it if and only if its
write does not land, or the object agrees with the flash. -/
theorem postIpconfig_stored_iff (inetAton : Bytes → Option UInt32) (hF : ¬p.sets F)
    (t : CipTcpIpObject) (nvs : Option NvData) :
    stored (postIpconfig inetAton p t nvs).2.2 F = stored nvs F ↔
      (p.Lands → stored nvs F = some (t.persisted F)) := by
  by_cases hl : p.Lands
  · obtain ⟨u, hu, hrun⟩ := postIpconfig_of_stores (F := F) inetAton hl.1 t nvs
    rw [hrun, ← hu hF]
    dsimp only
    rw [stored_store hl.2]
    exact ⟨fun h _ => h.symm, fun h => (h hl).symm⟩
  · rw [postIpconfig_of_not_lands hl]
    exact ⟨fun _ h => absurd h hl, fun _ => rfl⟩

end GroundTruth.Tcpip
