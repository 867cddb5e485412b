/-
# The stored configuration: `nvtcpip.c`

`NvTcpipStore` writes the whole object to flash, whoever calls it and for whatever reason;
`NvTcpipLoad` reads it back at boot.  What the flash does with a write is up to the `NvWrite`.

* `Field` and `FieldValue` name what is persisted: `stored` is a field as the flash has it, and
  `CipTcpIpObject.persisted` the same field as the object would store it now;
* `stored_store`: a write that lands makes the first of them the second;
* `restore_persisted`: what is restored would be stored as it was.
-/
import GroundTruth.Tcpip.Object

namespace GroundTruth.Tcpip

open GroundTruth.Lib

/-! ## 1. The stored data -/

def tcpipDomainMaxLen : Nat := 48
def tcpipHostnameMaxLen : Nat := 64

/-- `TcpipNvBlobV1`, less its version: the fields that both formats have. -/
structure TcpipNvBlob where
  configControl : UInt32
  ipAddress : UInt32
  networkMask : UInt32
  gateway : UInt32
  nameServer : UInt32
  nameServer2 : UInt32
  domainLength : Nat
  hostnameLength : Nat
  domain : Bytes
  hostname : Bytes
  domain_size : domain.length = tcpipDomainMaxLen
  hostname_size : hostname.length = tcpipHostnameMaxLen
  deriving DecidableEq

/-- What `nvs_get_blob` finds under the key, told apart by its size. -/
inductive NvData
  /-- `TcpipNvBlob` -/
  | v2 (version : UInt32) (blob : TcpipNvBlob) (selectAcd : UInt8)
  /-- `TcpipNvBlobV1` -/
  | v1 (version : UInt32) (blob : TcpipNvBlob)
  | other (data : Bytes)
  deriving DecidableEq

/-- What becomes of a write: it is made, it fails, or `nvs_commit` reports an error although the
data is in the flash. -/
inductive NvWrite
  | ok
  | refused
  | uncommitted
  deriving DecidableEq, Repr

/-! ## 2. Storing -/

/-- The length stored for a string. -/
def CipString.storedLength (s : CipString) (max : Nat) : Nat := min s.length max

/-- The bytes stored for a string: a zeroed array, with the string copied over its front. -/
def CipString.storedBytes (s : CipString) (max : Nat) : Bytes :=
  match s.string with
  | some d => d.take (s.storedLength max) ++ List.replicate (max - s.storedLength max) 0
  | none => List.replicate max 0

theorem CipString.length_storedBytes (s : CipString) (max : Nat) :
    (s.storedBytes max).length = max := by
  unfold CipString.storedBytes
  cases hs : s.string with
  | none => exact List.length_replicate
  | some d =>
    have hd := s.sized d hs
    simp only [CipString.storedLength, List.length_append, List.length_take,
      List.length_replicate]
    omega

/-- The blob that `NvTcpipStore` fills in. -/
def CipTcpIpObject.toBlob (t : CipTcpIpObject) : TcpipNvBlob where
  configControl := t.configControl
  ipAddress := t.interfaceConfiguration.ipAddress
  networkMask := t.interfaceConfiguration.networkMask
  gateway := t.interfaceConfiguration.gateway
  nameServer := t.interfaceConfiguration.nameServer
  nameServer2 := t.interfaceConfiguration.nameServer2
  domainLength := t.interfaceConfiguration.domainName.storedLength tcpipDomainMaxLen
  hostnameLength := t.hostname.storedLength tcpipHostnameMaxLen
  domain := t.interfaceConfiguration.domainName.storedBytes tcpipDomainMaxLen
  hostname := t.hostname.storedBytes tcpipHostnameMaxLen
  domain_size := CipString.length_storedBytes _ _
  hostname_size := CipString.length_storedBytes _ _

/-- The data to be written, of `TCPIP_NV_VERSION` 2. -/
def CipTcpIpObject.toNvData (t : CipTcpIpObject) : NvData :=
  .v2 2 t.toBlob (if t.selectAcd = true then 1 else 0)

/-- `NvTcpipStore`; `true` is `kEipStatusOk`. -/
def nvTcpipStore (w : NvWrite) (t : CipTcpIpObject) (nvs : Option NvData) :
    Bool × Option NvData :=
  match w with
  | .ok => (true, some t.toNvData)
  | .uncommitted => (false, some t.toNvData)
  | .refused => (false, nvs)

/-! ## 3. Loading -/

/-- A blob that passed the checks of `NvTcpipLoad`. -/
structure Restored where
  blob : TcpipNvBlob
  selectAcd : Bool
  /-- it has the old format -/
  legacy : Bool
  deriving DecidableEq

/-- The size and the version have to fit each other. -/
def checkBlob : NvData → Option Restored
  | .v2 version blob selectAcd => if version = 2 then some ⟨blob, selectAcd ≠ 0, false⟩ else none
  | .v1 version blob => if version = 1 then some ⟨blob, false, true⟩ else none
  | .other _ => none

/-- The domain name of a blob. -/
def TcpipNvBlob.domainText (b : TcpipNvBlob) : Bytes :=
  b.domain.take (min b.domainLength tcpipDomainMaxLen)

/-- The host name of a blob. -/
def TcpipNvBlob.hostnameText (b : TcpipNvBlob) : Bytes :=
  b.hostname.take (min b.hostnameLength tcpipHostnameMaxLen)

/-- A string cleared, and set if there is something to set. -/
def restoreText (alloc : Bool) (text : Bytes) (s : CipString) : Bool × CipString :=
  let s := clearCipString s
  if 0 < text.length then setCipStringByData alloc text s else (true, s)

/-- The fields that are copied before any string is. -/
def restoreFields (r : Restored) (t : CipTcpIpObject) : CipTcpIpObject :=
  { t with
    configControl := r.blob.configControl
    interfaceConfiguration :=
      { t.interfaceConfiguration with
        ipAddress := r.blob.ipAddress
        networkMask := r.blob.networkMask
        gateway := r.blob.gateway
        nameServer := r.blob.nameServer
        nameServer2 := r.blob.nameServer2 }
    selectAcd := r.selectAcd }

/-- What can go wrong while a configuration is loaded. -/
structure LoadEnv where
  /-- the namespace opens and the blob can be read -/
  readable : Bool
  domainAlloc : Bool
  hostnameAlloc : Bool
  /-- the write that stores the switch to DHCP -/
  invalidWrite : NvWrite
  /-- the write that stores the new format -/
  upgradeWrite : NvWrite
  deriving DecidableEq, Repr

/-- The end of `NvTcpipLoad`, once everything is restored: the static configuration is checked,
and the old format replaced. -/
def finishLoad (e : LoadEnv) (r : Restored) (t : CipTcpIpObject) (nvs : Option NvData) :
    CipTcpIpObject × Option NvData :=
  let t := { t with status := markApplied t.status }
  let refused := method t.configControl = kTcpipCfgCtrlStaticIp ∧
    cipTcpIpIsValidNetworkConfig t.interfaceConfiguration = false
  let t := if refused then { t.toDhcp with status := clearAcdStatus t.status } else t
  let nvs := if refused then (nvTcpipStore e.invalidWrite t nvs).2 else nvs
  (t, if r.legacy = true then (nvTcpipStore e.upgradeWrite t nvs).2 else nvs)

/-- The part of `NvTcpipLoad` that restores the blob: the fields, the domain name, the host name.
It gives up at the first string that cannot be allocated. -/
def restore (e : LoadEnv) (r : Restored) (t : CipTcpIpObject) : Bool × CipTcpIpObject :=
  let t := restoreFields r t
  let domain := restoreText e.domainAlloc r.blob.domainText t.interfaceConfiguration.domainName
  let t := { t with interfaceConfiguration :=
    { t.interfaceConfiguration with domainName := domain.2 } }
  if domain.1 = false then (false, t)
  else
    let hostname := restoreText e.hostnameAlloc r.blob.hostnameText t.hostname
    (hostname.1, { t with hostname := hostname.2 })

/-- `NvTcpipLoad`; `true` is `kEipStatusOk`. -/
def nvTcpipLoad (e : LoadEnv) (t : CipTcpIpObject) (nvs : Option NvData) :
    Bool × CipTcpIpObject × Option NvData :=
  if e.readable = false then (false, t, nvs)
  else
    match nvs.bind checkBlob with
    | none => (false, t, nvs)
    | some r =>
      let restored := restore e r t
      if restored.1 = false then (false, restored.2, nvs)
      else (true, finishLoad e r restored.2 nvs)

/-! ## 4. The persisted fields -/

inductive Field
  | ipAddress
  | networkMask
  | gateway
  | nameServer
  | nameServer2
  | domainName
  | hostname
  deriving DecidableEq, Repr

inductive FieldValue
  | address (a : UInt32)
  | text (s : Bytes)
  deriving DecidableEq, Repr

def TcpipNvBlob.value (b : TcpipNvBlob) : Field → FieldValue
  | .ipAddress => .address b.ipAddress
  | .networkMask => .address b.networkMask
  | .gateway => .address b.gateway
  | .nameServer => .address b.nameServer
  | .nameServer2 => .address b.nameServer2
  | .domainName => .text b.domainText
  | .hostname => .text b.hostnameText

/-- A field as the flash has it; nothing, where there is no configuration to be read. -/
def stored (nvs : Option NvData) (F : Field) : Option FieldValue :=
  (nvs.bind checkBlob).map fun r => r.blob.value F

/-- A field as the object would store it. -/
def CipTcpIpObject.persisted (t : CipTcpIpObject) (F : Field) : FieldValue := t.toBlob.value F

/-- The addresses of a configuration, without the domain name. -/
def InterfaceConfiguration.addresses (c : InterfaceConfiguration) : InterfaceConfiguration :=
  { c with domainName := .empty }

def TcpipNvBlob.addresses (b : TcpipNvBlob) : InterfaceConfiguration :=
  ⟨b.ipAddress, b.networkMask, b.gateway, b.nameServer, b.nameServer2, .empty⟩

/-- The bytes of a string that would be stored. -/
def CipString.persisted (s : CipString) (max : Nat) : Bytes :=
  (s.storedBytes max).take (min (s.storedLength max) max)

variable {t t' : CipTcpIpObject} {nvs : Option NvData} {F : Field}

/-- What is stored is of the current version, and is what the object says. -/
theorem checkBlob_toNvData (t : CipTcpIpObject) :
    checkBlob t.toNvData = some ⟨t.toBlob, t.selectAcd, false⟩ := by
  have hacd : decide ((if t.selectAcd = true then 1 else 0 : UInt8) ≠ 0) = t.selectAcd := by
    cases t.selectAcd with
    | false => rfl
    | true => rfl
  rw [CipTcpIpObject.toNvData, checkBlob, if_pos rfl, hacd]

theorem stored_toNvData (t : CipTcpIpObject) (F : Field) :
    stored (some t.toNvData) F = some (t.persisted F) := rfl

/-- A write lands, or does nothing. -/
theorem nvTcpipStore_cases (w : NvWrite) (t : CipTcpIpObject) (nvs : Option NvData) :
    (nvTcpipStore w t nvs).2 = nvs ∨ (nvTcpipStore w t nvs).2 = some t.toNvData := by
  cases w with
  | ok => exact Or.inr rfl
  | refused => exact Or.inl rfl
  | uncommitted => exact Or.inr rfl

/-- A write that is not refused leaves the image of the object. -/
theorem nvTcpipStore_lands {w : NvWrite} (hw : w ≠ .refused) (t : CipTcpIpObject)
    (nvs : Option NvData) : (nvTcpipStore w t nvs).2 = some t.toNvData := by
  cases w with
  | ok => rfl
  | refused => exact absurd rfl hw
  | uncommitted => rfl

/-- **A write that lands** makes every field what the object has. -/
theorem stored_store {w : NvWrite} (hw : w ≠ .refused) :
    stored (nvTcpipStore w t nvs).2 F = some (t.persisted F) := by
  rw [nvTcpipStore_lands hw, stored_toNvData]

/-- A field in which the object and the flash agree is not changed by storing. -/
theorem stored_store_agree (h : stored nvs F = some (t.persisted F)) (w : NvWrite) :
    stored (nvTcpipStore w t nvs).2 F = some (t.persisted F) := by
  cases w with
  | ok => rfl
  | refused => exact h
  | uncommitted => rfl

/-- What is persisted of an object does not depend on its status, its ACD setting or its
timeout. -/
theorem persisted_congr (hc : t.interfaceConfiguration = t'.interfaceConfiguration)
    (hh : t.hostname = t'.hostname) : t.persisted F = t'.persisted F := by
  cases F <;> simp [CipTcpIpObject.persisted, TcpipNvBlob.value, TcpipNvBlob.domainText,
    TcpipNvBlob.hostnameText, CipTcpIpObject.toBlob, hc, hh]

/-- A value that a switch to DHCP does not change: a text, or the address 0. -/
def FieldValue.SurvivesZero : FieldValue → Prop
  | .address a => a = 0
  | .text _ => True

instance FieldValue.decidableSurvivesZero : (v : FieldValue) → Decidable v.SurvivesZero
  | .address a => inferInstanceAs (Decidable (a = 0))
  | .text _ => inferInstanceAs (Decidable True)

/-- Setting the addresses to 0 leaves the texts, and an address that is 0 already. -/
theorem persisted_zeroAddresses
    (hc : t'.interfaceConfiguration = t.interfaceConfiguration.zeroAddresses)
    (hh : t'.hostname = t.hostname) (hz : (t.persisted F).SurvivesZero) :
    t'.persisted F = t.persisted F := by
  cases F <;> simp_all [CipTcpIpObject.persisted, TcpipNvBlob.value, TcpipNvBlob.domainText,
    TcpipNvBlob.hostnameText, CipTcpIpObject.toBlob, InterfaceConfiguration.zeroAddresses,
    FieldValue.SurvivesZero]

/-! ## 5. Restored texts -/

@[simp] theorem CipString.persisted_empty (max : Nat) : CipString.empty.persisted max = [] := by
  simp [CipString.persisted, CipString.empty, CipString.storedLength]

/-- A text that is restored would be stored as it was. -/
theorem restoreText_true {alloc : Bool} {text : Bytes} {s : CipString} {max : Nat}
    (hmax : text.length ≤ max) (h : restoreText alloc text .empty = (true, s)) :
    s.persisted max = text := by
  unfold restoreText at h
  dsimp only at h
  by_cases hpos : 0 < text.length
  · have hne : text ≠ [] := List.ne_nil_of_length_pos hpos
    rw [if_pos hpos, setCipStringByData, if_neg hne] at h
    split at h
    · cases h
    · simp only [Prod.mk.injEq, true_and] at h
      rw [← h]
      simp [CipString.persisted, CipString.storedLength, CipString.storedBytes,
        Nat.min_eq_left hmax]
  · have hnil : text = [] := List.eq_nil_of_length_eq_zero (Nat.eq_zero_of_not_pos hpos)
    rw [if_neg hpos] at h
    simp only [Prod.mk.injEq, true_and] at h
    rw [← h, hnil]
    exact CipString.persisted_empty max

/-- Restoring fails only for want of memory, for a text that is not empty, and leaves the string
empty. -/
theorem restoreText_false {alloc : Bool} {text : Bytes} {s : CipString}
    (h : restoreText alloc text .empty = (false, s)) :
    text ≠ [] ∧ alloc = false ∧ s = .empty := by
  unfold restoreText at h
  dsimp only at h
  split at h
  · rename_i hpos
    have hne : text ≠ [] := List.ne_nil_of_length_pos hpos
    rw [setCipStringByData, if_neg hne] at h
    split at h
    · rename_i ha
      simp only [Prod.mk.injEq, true_and] at h
      exact ⟨hne, ha, h.symm⟩
    · cases h
  · cases h

theorem TcpipNvBlob.domainText_length (b : TcpipNvBlob) :
    b.domainText.length ≤ tcpipDomainMaxLen := by
  rw [TcpipNvBlob.domainText, List.length_take]
  omega

theorem TcpipNvBlob.hostnameText_length (b : TcpipNvBlob) :
    b.hostnameText.length ≤ tcpipHostnameMaxLen := by
  rw [TcpipNvBlob.hostnameText, List.length_take]
  omega

/-! ## 6. What is restored -/

variable {e : LoadEnv} {r : Restored}

/-- A field that the blob holds and memory is found for. -/
def Restores (e : LoadEnv) (b : TcpipNvBlob) : Field → Prop
  | .domainName => b.domainText = [] ∨ e.domainAlloc = true
  | .hostname => b.hostnameText = [] ∨
      (b.domainText = [] ∨ e.domainAlloc = true) ∧ e.hostnameAlloc = true
  | _ => True

instance Restores.decidable (e : LoadEnv) (b : TcpipNvBlob) :
    (F : Field) → Decidable (Restores e b F)
  | .domainName => inferInstanceAs (Decidable (_ ∨ _))
  | .hostname => inferInstanceAs (Decidable (_ ∨ _))
  | .ipAddress => isTrue trivial
  | .networkMask => isTrue trivial
  | .gateway => isTrue trivial
  | .nameServer => isTrue trivial
  | .nameServer2 => isTrue trivial

/-- Whatever becomes of the strings, the method, the addresses and the ACD setting are restored. -/
theorem restore_fields (e : LoadEnv) (r : Restored) (t : CipTcpIpObject) :
    (restore e r t).2.configControl = r.blob.configControl ∧
      (restore e r t).2.selectAcd = r.selectAcd ∧
      (restore e r t).2.interfaceConfiguration.addresses = r.blob.addresses := by
  unfold restore
  dsimp only
  split
  · exact ⟨rfl, rfl, rfl⟩
  · exact ⟨rfl, rfl, rfl⟩

/-- The strings of an object restored at boot. -/
theorem restore_texts (e : LoadEnv) (r : Restored) :
    (Restores e r.blob .domainName →
        (restore e r .default).2.interfaceConfiguration.domainName.persisted tcpipDomainMaxLen =
          r.blob.domainText) ∧
      (Restores e r.blob .hostname →
        (restore e r .default).2.hostname.persisted tcpipHostnameMaxLen =
          r.blob.hostnameText) := by
  cases hd : restoreText e.domainAlloc r.blob.domainText .empty with
  | mk okD d =>
    have hd' : restoreText e.domainAlloc r.blob.domainText
        (restoreFields r .default).interfaceConfiguration.domainName = (okD, d) := hd
    unfold restore
    dsimp only
    rw [hd']
    cases okD with
    | false =>
      obtain ⟨hne, halloc, rfl⟩ := restoreText_false hd
      rw [if_pos rfl]
      constructor
      · rintro (h | h)
        · exact absurd h hne
        · rw [halloc] at h
          cases h
      · rintro (h | ⟨h | h, -⟩)
        · rw [h]
          exact CipString.persisted_empty _
        · exact absurd h hne
        · rw [halloc] at h
          cases h
    | true =>
      rw [if_neg (by simp)]
      refine ⟨fun _ => restoreText_true r.blob.domainText_length hd, ?_⟩
      cases hh : restoreText e.hostnameAlloc r.blob.hostnameText .empty with
      | mk okH hs =>
        have hh' : restoreText e.hostnameAlloc r.blob.hostnameText
            (restoreFields r .default).hostname = (okH, hs) := hh
        dsimp only
        rw [hh']
        cases okH with
        | true => exact fun _ => restoreText_true r.blob.hostnameText_length hh
        | false =>
          obtain ⟨hne, halloc, rfl⟩ := restoreText_false hh
          rintro (h | ⟨-, h⟩)
          · exact absurd h hne
          · rw [halloc] at h
            cases h

/-- The end of a load refuses an invalid static configuration, and otherwise changes the status
only; it may store what it leaves. -/
theorem finishLoad_cases (e : LoadEnv) (r : Restored) (t : CipTcpIpObject)
    (nvs : Option NvData) :
    (finishLoad e r t nvs).1.hostname = t.hostname ∧
      ((finishLoad e r t nvs).2 = nvs ∨
        (finishLoad e r t nvs).2 = some (finishLoad e r t nvs).1.toNvData) ∧
      ((method t.configControl = kTcpipCfgCtrlStaticIp ∧
          cipTcpIpIsValidNetworkConfig t.interfaceConfiguration = false ∧
          method (finishLoad e r t nvs).1.configControl = kTcpipCfgCtrlDhcp ∧
          (finishLoad e r t nvs).1.interfaceConfiguration =
            t.interfaceConfiguration.zeroAddresses) ∨
        ((method t.configControl = kTcpipCfgCtrlStaticIp →
            cipTcpIpIsValidNetworkConfig t.interfaceConfiguration = true) ∧
          (finishLoad e r t nvs).1.configControl = t.configControl ∧
          (finishLoad e r t nvs).1.interfaceConfiguration = t.interfaceConfiguration)) := by
  unfold finishLoad
  dsimp only
  by_cases hrefused : method t.configControl = kTcpipCfgCtrlStaticIp ∧
      cipTcpIpIsValidNetworkConfig t.interfaceConfiguration = false
  · rw [if_pos hrefused, if_pos hrefused]
    refine ⟨rfl, ?_, Or.inl ⟨hrefused.1, hrefused.2, method_setMethod_dhcp _, rfl⟩⟩
    split
    · rcases nvTcpipStore_cases e.upgradeWrite _ _ with hn | hn
      · rw [hn]
        exact nvTcpipStore_cases _ _ _
      · exact Or.inr hn
    · exact nvTcpipStore_cases _ _ _
  · rw [if_neg hrefused, if_neg hrefused]
    refine ⟨rfl, ?_, Or.inr ⟨fun hm => ?_, rfl, rfl⟩⟩
    · split
      · exact nvTcpipStore_cases _ _ _
      · exact Or.inl rfl
    · simpa [hm] using hrefused

/-- **What is restored would be stored as it was.** -/
theorem restore_persisted (h : Restores e r.blob F) :
    (restore e r .default).2.persisted F = r.blob.value F := by
  obtain ⟨-, -, hc⟩ := restore_fields e r .default
  obtain ⟨hdomain, hhostname⟩ := restore_texts e r
  cases F with
  | domainName => exact congrArg FieldValue.text (hdomain h)
  | hostname => exact congrArg FieldValue.text (hhostname h)
  | ipAddress => exact congrArg (fun c => FieldValue.address c.ipAddress) hc
  | networkMask => exact congrArg (fun c => FieldValue.address c.networkMask) hc
  | gateway => exact congrArg (fun c => FieldValue.address c.gateway) hc
  | nameServer => exact congrArg (fun c => FieldValue.address c.nameServer) hc
  | nameServer2 => exact congrArg (fun c => FieldValue.address c.nameServer2) hc

/-- A load that succeeds has restored everything. -/
theorem restores_of_restore (h : (restore e r .default).1 = true) (F : Field) :
    Restores e r.blob F := by
  unfold restore at h
  dsimp only at h
  split at h
  · cases h
  · rename_i hd
    have hdomain : r.blob.domainText = [] ∨ e.domainAlloc = true := by
      by_contra hno
      rw [not_or] at hno
      have hpos : 0 < r.blob.domainText.length := List.length_pos_iff.2 hno.1
      apply hd
      unfold restoreText
      dsimp only
      rw [if_pos hpos, setCipStringByData, if_neg hno.1, if_pos (by simpa using hno.2)]
    have hhostname : r.blob.hostnameText = [] ∨ e.hostnameAlloc = true := by
      by_contra hno
      rw [not_or] at hno
      have hpos : 0 < r.blob.hostnameText.length := List.length_pos_iff.2 hno.1
      rw [restoreText] at h
      dsimp only at h
      rw [if_pos hpos, setCipStringByData, if_neg hno.1, if_pos (by simpa using hno.2)] at h
      cases h
    cases F with
    | domainName => exact hdomain
    | hostname => exact hhostname.imp id fun hh => ⟨hdomain, hh⟩
    | _ => trivial

end GroundTruth.Tcpip
