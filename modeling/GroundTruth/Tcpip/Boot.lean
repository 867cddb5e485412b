/-
# Boot: `app_main` up to `configure_netif_from_tcpip`

The stored configuration is loaded into the initial object, checked twice more, and given to the
interface.  On the way it may be stored again, up to five times, and each of these writes can
fail.

What happens after the load depends on the method that was loaded, and is said once for each
case: `afterLoad_dhcp`, `afterLoad_other`, `afterLoad_static`, `afterLoad_noMask` and
`afterLoad_refused`.  The results on booting come from these:

* `boot_stored`: when a boot leaves a stored field as it was;
* `boot_restores`: when it gives it to the object;
* `boot_staticOk`, `boot_dhcp` and `boot_else`: what becomes of the method and the addresses.

The NVS partition initialises: an erased partition holds no configuration to speak of.  The DNS
servers and the host name given to the interface are left out.
-/
import GroundTruth.Tcpip.Nv

namespace GroundTruth.Tcpip

open GroundTruth.Lib

/-! ## 1. The code -/

/-- What the interface is told to do. -/
inductive NetifSetup
  | dhcp
  | autoIp
  /-- `s_pending_static_ip_cfg`: assigned once ACD finds no conflict -/
  | acdPending (ip netmask gw : UInt32)
  /-- `esp_netif_set_ip_info` -/
  | assigned (ip netmask gw : UInt32)
  deriving DecidableEq, Repr

/-- What can go wrong during a boot. -/
structure BootEnv where
  load : LoadEnv
  /-- the write that stores the ACD setting -/
  acdWrite : NvWrite
  /-- the write after the static configuration is found invalid -/
  checkWrite : NvWrite
  /-- the write after the static configuration is found without address or mask -/
  netifWrite : NvWrite
  /-- `netifapi_autoip_start` succeeds -/
  autoIp : Bool
  deriving DecidableEq, Repr

/-- ACD is enabled for anything but DHCP. -/
def enableAcd (w : NvWrite) (t : CipTcpIpObject) (nvs : Option NvData) :
    CipTcpIpObject × Option NvData :=
  if method t.configControl ≠ kTcpipCfgCtrlDhcp ∧ t.selectAcd = false then
    let t := { t with selectAcd := true }
    (t, (nvTcpipStore w t nvs).2)
  else (t, nvs)

/-- A method that is neither static nor DHCP becomes DHCP. -/
def defaultMethod (t : CipTcpIpObject) : CipTcpIpObject :=
  if method t.configControl ≠ kTcpipCfgCtrlStaticIp ∧ method t.configControl ≠ kTcpipCfgCtrlDhcp
  then { t with configControl := setMethod kTcpipCfgCtrlDhcp t.configControl }
  else t

/-- `tcpip_static_config_valid`. -/
def tcpipStaticConfigValid (t : CipTcpIpObject) : Bool :=
  if method t.configControl ≠ kTcpipCfgCtrlStaticIp then true
  else cipTcpIpIsValidNetworkConfig t.interfaceConfiguration

/-- An invalid static configuration becomes DHCP. -/
def checkStatic (w : NvWrite) (t : CipTcpIpObject) (nvs : Option NvData) :
    CipTcpIpObject × Option NvData :=
  if tcpipStaticConfigValid t = false then
    let t := { t.toDhcp with status := clearAcdStatus t.status }
    (t, (nvTcpipStore w t nvs).2)
  else (t, nvs)

/-- With DHCP there are no addresses yet. -/
def dropDhcpAddresses (t : CipTcpIpObject) : CipTcpIpObject :=
  if method t.configControl = kTcpipCfgCtrlDhcp then
    { t with interfaceConfiguration := t.interfaceConfiguration.zeroAddresses }
  else t

/-- The checks of `app_main`. -/
def appMainChecks (e : BootEnv) (t : CipTcpIpObject) (nvs : Option NvData) :
    CipTcpIpObject × Option NvData :=
  let x := enableAcd e.acdWrite t nvs
  let y := checkStatic e.checkWrite (defaultMethod x.1) x.2
  let t := dropDhcpAddresses y.1
  ({ t with status := markApplied t.status }, y.2)

/-- `configure_netif_from_tcpip`. -/
def configureNetifFromTcpip (e : BootEnv) (t : CipTcpIpObject) (nvs : Option NvData) :
    NetifSetup × CipTcpIpObject × Option NvData :=
  let c := t.interfaceConfiguration
  if method t.configControl = kTcpipCfgCtrlDhcp then
    (.dhcp, { t with status := markApplied t.status }, nvs)
  else if c.ipAddress = 0 ∨ c.networkMask = 0 then
    if e.autoIp = true then
      let t := t.toDhcp
      (.autoIp, t, (nvTcpipStore e.netifWrite t nvs).2)
    else
      let t := { t with configControl := setMethod kTcpipCfgCtrlDhcp t.configControl }
      (.dhcp, t, (nvTcpipStore e.netifWrite t nvs).2)
  else
    (if t.selectAcd = true then .acdPending c.ipAddress c.networkMask c.gateway
      else .assigned c.ipAddress c.networkMask c.gateway,
      { t with status := markApplied t.status }, nvs)

/-- What follows the load. -/
def afterLoad (e : BootEnv) (t : CipTcpIpObject) (nvs : Option NvData) :
    NetifSetup × CipTcpIpObject × Option NvData :=
  let x := appMainChecks e t nvs
  configureNetifFromTcpip e x.1 x.2

/-- A boot.  That the load may fail is ignored. -/
def boot (e : BootEnv) (nvs : Option NvData) : NetifSetup × CipTcpIpObject × Option NvData :=
  let x := nvTcpipLoad e.load .default nvs
  afterLoad e x.2.1 x.2.2

/-! ## 2. After the load, method by method -/

variable {e : BootEnv} {t : CipTcpIpObject} {nvs : Option NvData} {F : Field}

/-- Enabling ACD changes nothing else, and may store what it leaves. -/
theorem enableAcd_cases (w : NvWrite) (t : CipTcpIpObject) (nvs : Option NvData) :
    ∃ acd, (enableAcd w t nvs).1 = { t with selectAcd := acd } ∧
      (method t.configControl ≠ kTcpipCfgCtrlDhcp → acd = true) ∧
      ((enableAcd w t nvs).2 = nvs ∨
        (enableAcd w t nvs).2 = (nvTcpipStore w { t with selectAcd := acd } nvs).2) := by
  unfold enableAcd
  split
  · exact ⟨true, rfl, fun _ => rfl, Or.inr rfl⟩
  · rename_i h
    refine ⟨t.selectAcd, rfl, fun hne => ?_, Or.inl rfl⟩
    simpa [hne] using h

theorem enableAcd_enabled (h : t.selectAcd = true) (w : NvWrite) (nvs : Option NvData) :
    enableAcd w t nvs = (t, nvs) := if_neg fun hno => by simp [h] at hno

theorem enableAcd_dhcp (hm : method t.configControl = kTcpipCfgCtrlDhcp) (w : NvWrite) :
    enableAcd w t nvs = (t, nvs) := if_neg fun h => h.1 hm

@[simp] theorem dhcp_ne_static : kTcpipCfgCtrlDhcp ≠ kTcpipCfgCtrlStaticIp := by decide

@[simp] theorem static_ne_dhcp : kTcpipCfgCtrlStaticIp ≠ kTcpipCfgCtrlDhcp := by decide

theorem checkStatic_of_valid (h : tcpipStaticConfigValid t = true) (w : NvWrite) :
    checkStatic w t nvs = (t, nvs) := if_neg (by simp [h])

theorem tcpipStaticConfigValid_of_ne (h : method t.configControl ≠ kTcpipCfgCtrlStaticIp) :
    tcpipStaticConfigValid t = true := if_pos h

/-- The object `t` on DHCP: without its addresses, and with its names. -/
structure OnDhcp (t u : CipTcpIpObject) : Prop where
  method : method u.configControl = kTcpipCfgCtrlDhcp
  config : u.interfaceConfiguration = t.interfaceConfiguration.zeroAddresses
  hostname : u.hostname = t.hostname

/-- With DHCP the rest of the boot stores nothing. -/
theorem configure_dhcp (hm : method t.configControl = kTcpipCfgCtrlDhcp) (e : BootEnv)
    (nvs : Option NvData) :
    ∃ u, OnDhcp t u ∧
      configureNetifFromTcpip e
        { dropDhcpAddresses t with status := markApplied (dropDhcpAddresses t).status } nvs =
          (.dhcp, u, nvs) := by
  rw [dropDhcpAddresses, if_pos hm, configureNetifFromTcpip]
  dsimp only
  rw [if_pos hm]
  refine ⟨_, ⟨?_, ?_, ?_⟩, rfl⟩
  · exact hm
  · rfl
  · rfl

/-- DHCP: nothing is stored. -/
theorem afterLoad_dhcp (hm : method t.configControl = kTcpipCfgCtrlDhcp) (e : BootEnv)
    (nvs : Option NvData) :
    ∃ u, OnDhcp t u ∧ afterLoad e t nvs = (.dhcp, u, nvs) := by
  have hdefault : defaultMethod t = t := if_neg fun h => h.2 hm
  have hvalid : tcpipStaticConfigValid t = true :=
    tcpipStaticConfigValid_of_ne (by rw [hm]; exact dhcp_ne_static)
  simp only [afterLoad, appMainChecks, enableAcd_dhcp hm, hdefault, checkStatic_of_valid hvalid]
  exact configure_dhcp hm e nvs

/-- Neither static nor DHCP: DHCP from here on, but not in the flash. -/
theorem afterLoad_other (hs : method t.configControl ≠ kTcpipCfgCtrlStaticIp)
    (hd : method t.configControl ≠ kTcpipCfgCtrlDhcp) (e : BootEnv) (nvs : Option NvData) :
    ∃ u, OnDhcp t u ∧
      afterLoad e t nvs = (.dhcp, u, (enableAcd e.acdWrite t nvs).2) := by
  obtain ⟨acd, hacd, -, -⟩ := enableAcd_cases e.acdWrite t nvs
  obtain ⟨u, hdefault, hu, hc, hh⟩ : ∃ u, defaultMethod (enableAcd e.acdWrite t nvs).1 = u ∧
      method u.configControl = kTcpipCfgCtrlDhcp ∧
      u.interfaceConfiguration = t.interfaceConfiguration ∧ u.hostname = t.hostname := by
    rw [hacd]
    exact ⟨_, if_pos ⟨hs, hd⟩, method_setMethod_dhcp _, rfl, rfl⟩
  have hvalid : tcpipStaticConfigValid u = true :=
    tcpipStaticConfigValid_of_ne (by rw [hu]; exact dhcp_ne_static)
  simp only [afterLoad, appMainChecks, hdefault, checkStatic_of_valid hvalid]
  obtain ⟨v, hv, hrun⟩ := configure_dhcp hu e (enableAcd e.acdWrite t nvs).2
  exact ⟨v, ⟨hv.method, hc ▸ hv.config, hv.hostname.trans hh⟩, hrun⟩

section

variable (hm : method t.configControl = kTcpipCfgCtrlStaticIp)
include hm

/-- Static and invalid: DHCP, stored after the addresses are set to 0. -/
theorem afterLoad_refused (hv : cipTcpIpIsValidNetworkConfig t.interfaceConfiguration = false)
    (e : BootEnv) (nvs : Option NvData) :
    ∃ u v, OnDhcp v u ∧ OnDhcp t v ∧
      afterLoad e t nvs =
        (.dhcp, u, (nvTcpipStore e.checkWrite v (enableAcd e.acdWrite t nvs).2).2) := by
  obtain ⟨acd, hacd, -, -⟩ := enableAcd_cases e.acdWrite t nvs
  obtain ⟨w, hdefault, hw, hc, hh⟩ : ∃ w, defaultMethod (enableAcd e.acdWrite t nvs).1 = w ∧
      method w.configControl = kTcpipCfgCtrlStaticIp ∧
      w.interfaceConfiguration = t.interfaceConfiguration ∧ w.hostname = t.hostname := by
    rw [hacd]
    exact ⟨_, if_neg fun h => h.1 hm, hm, rfl, rfl⟩
  have hinvalid : tcpipStaticConfigValid w = false := by
    rw [tcpipStaticConfigValid, if_neg (not_not.2 hw), hc]
    exact hv
  obtain ⟨v, hcheck, hmv, hhv, hcv⟩ : ∃ v,
      checkStatic e.checkWrite w (enableAcd e.acdWrite t nvs).2 =
        (v, (nvTcpipStore e.checkWrite v (enableAcd e.acdWrite t nvs).2).2) ∧
      method v.configControl = kTcpipCfgCtrlDhcp ∧ v.hostname = t.hostname ∧
      v.interfaceConfiguration = t.interfaceConfiguration.zeroAddresses := by
    rw [← hc]
    exact ⟨_, if_pos hinvalid, method_setMethod_dhcp _, hh, rfl⟩
  simp only [afterLoad, appMainChecks, hdefault, hcheck]
  obtain ⟨u, hu, hrun⟩ := configure_dhcp hmv e
    (nvTcpipStore e.checkWrite v (enableAcd e.acdWrite t nvs).2).2
  exact ⟨u, v, hu, ⟨hmv, hcv, hhv⟩, hrun⟩

variable (hv : cipTcpIpIsValidNetworkConfig t.interfaceConfiguration = true)
include hv

/-- What `app_main` makes of a valid static configuration. -/
theorem appMainChecks_valid (e : BootEnv) (nvs : Option NvData) :
    ∃ s, appMainChecks e t nvs = ({ t with selectAcd := true, status := s },
      (enableAcd e.acdWrite t nvs).2) := by
  obtain ⟨acd, hacd, htrue, -⟩ := enableAcd_cases e.acdWrite t nvs
  have hne : method t.configControl ≠ kTcpipCfgCtrlDhcp := by
    rw [hm]
    exact static_ne_dhcp
  obtain rfl := htrue hne
  have hdefault : defaultMethod (enableAcd e.acdWrite t nvs).1 =
      { t with selectAcd := true } := by
    rw [hacd]
    exact if_neg fun h => h.1 hm
  have hvalid : tcpipStaticConfigValid { t with selectAcd := true } = true := by
    rw [tcpipStaticConfigValid, if_neg (by simp [hm])]
    exact hv
  have hdrop : dropDhcpAddresses { t with selectAcd := true } = { t with selectAcd := true } :=
    if_neg hne
  simp only [appMainChecks, hdefault, checkStatic_of_valid hvalid, hdrop]
  exact ⟨_, rfl⟩

/-- Static, valid and with a mask: given to ACD as it is. -/
theorem afterLoad_static (hmask : t.interfaceConfiguration.networkMask ≠ 0) (e : BootEnv)
    (nvs : Option NvData) :
    ∃ s, afterLoad e t nvs =
      (.acdPending t.interfaceConfiguration.ipAddress t.interfaceConfiguration.networkMask
        t.interfaceConfiguration.gateway,
        { t with selectAcd := true, status := s }, (enableAcd e.acdWrite t nvs).2) := by
  obtain ⟨s, hs⟩ := appMainChecks_valid hm hv e nvs
  have hip := ipAddress_ne_zero hv
  simp only [afterLoad, hs, configureNetifFromTcpip, hm, hip, hmask, or_self, if_false, if_true,
    static_ne_dhcp]
  exact ⟨_, rfl⟩

/-- Static and valid, but without a mask: DHCP, and stored, with AutoIP after the addresses are
set to 0. -/
theorem afterLoad_noMask (hmask : t.interfaceConfiguration.networkMask = 0) (e : BootEnv)
    (nvs : Option NvData) :
    ∃ n u, method u.configControl = kTcpipCfgCtrlDhcp ∧ u.hostname = t.hostname ∧
      (u.interfaceConfiguration = t.interfaceConfiguration ∧ e.autoIp = false ∨
        u.interfaceConfiguration = t.interfaceConfiguration.zeroAddresses ∧ e.autoIp = true) ∧
      afterLoad e t nvs =
        (n, u, (nvTcpipStore e.netifWrite u (enableAcd e.acdWrite t nvs).2).2) := by
  obtain ⟨s, hs⟩ := appMainChecks_valid hm hv e nvs
  simp only [afterLoad, hs, configureNetifFromTcpip, hm, hmask, or_true, if_false, if_true,
    static_ne_dhcp]
  cases hauto : e.autoIp with
  | true =>
    refine ⟨_, _, ?_, ?_, Or.inr ⟨?_, rfl⟩, if_pos rfl⟩
    · exact method_setMethod_dhcp _
    · rfl
    · rfl
  | false =>
    refine ⟨_, _, ?_, ?_, Or.inl ⟨?_, rfl⟩, if_neg (by decide)⟩
    · exact method_setMethod_dhcp _
    · rfl
    · rfl

end

/-! ## 3. What is stored -/

/-- The boot leaves a static configuration alone: it is valid and has a mask, or AutoIP, which
would set the addresses to 0, does not start. -/
def Usable (e : BootEnv) (configControl : UInt32) (c : InterfaceConfiguration) : Prop :=
  method configControl = kTcpipCfgCtrlStaticIp →
    cipTcpIpIsValidNetworkConfig c = true ∧ (c.networkMask ≠ 0 ∨ e.autoIp = false)

instance Usable.decidable (e : BootEnv) (configControl : UInt32) (c : InterfaceConfiguration) :
    Decidable (Usable e configControl c) := inferInstanceAs (Decidable (_ → _))

/-- A boot from this configuration stores nothing after the load: it is DHCP, or has ACD enabled
and, if it is static, is valid and has a mask. -/
def Quiet (r : Restored) : Prop :=
  method r.blob.configControl = kTcpipCfgCtrlDhcp ∨
    r.selectAcd = true ∧ (method r.blob.configControl = kTcpipCfgCtrlStaticIp →
      cipTcpIpIsValidNetworkConfig r.blob.addresses = true ∧ r.blob.networkMask ≠ 0)

instance Quiet.decidable (r : Restored) : Decidable (Quiet r) :=
  inferInstanceAs (Decidable (_ ∨ _))

theorem enableAcd_stored (hagree : stored nvs F = some (t.persisted F)) (w : NvWrite) :
    stored (enableAcd w t nvs).2 F = some (t.persisted F) := by
  obtain ⟨acd, -, -, hn | hn⟩ := enableAcd_cases w t nvs
  · rw [hn, hagree]
  · have hsame : ({ t with selectAcd := acd } : CipTcpIpObject).persisted F = t.persisted F :=
      persisted_congr rfl rfl
    rw [hn, ← hsame]
    exact stored_store_agree (hsame ▸ hagree) w

/-- After the load a field in which object and flash agree is stored as it was, if setting the
addresses to 0 does not change it or does not happen. -/
theorem afterLoad_stored (hagree : stored nvs F = some (t.persisted F))
    (hz : (t.persisted F).SurvivesZero ∨ Usable e t.configControl t.interfaceConfiguration) :
    stored (afterLoad e t nvs).2.2 F = some (t.persisted F) := by
  have hacd := enableAcd_stored hagree e.acdWrite
  by_cases hd : method t.configControl = kTcpipCfgCtrlDhcp
  · obtain ⟨u, -, hrun⟩ := afterLoad_dhcp hd e nvs
    rw [hrun]
    exact hagree
  by_cases hm : method t.configControl = kTcpipCfgCtrlStaticIp
  swap
  · obtain ⟨u, -, hrun⟩ := afterLoad_other hm hd e nvs
    rw [hrun]
    exact hacd
  cases hv : cipTcpIpIsValidNetworkConfig t.interfaceConfiguration with
  | false =>
    obtain ⟨u, v, -, ht, hrun⟩ := afterLoad_refused hm hv e nvs
    have hsurvives := hz.resolve_right fun h => by
      rw [(h hm).1] at hv
      cases hv
    have hsame := persisted_zeroAddresses ht.config ht.hostname hsurvives
    rw [hrun, ← hsame]
    exact stored_store_agree (hsame ▸ hacd) _
  | true =>
    by_cases hmask : t.interfaceConfiguration.networkMask = 0
    · obtain ⟨n, u, -, hh, hc, hrun⟩ := afterLoad_noMask hm hv hmask e nvs
      have hsame : u.persisted F = t.persisted F := by
        rcases hc with ⟨hc, -⟩ | ⟨hc, hauto⟩
        · exact persisted_congr hc hh
        · refine persisted_zeroAddresses hc hh (hz.resolve_right fun h => ?_)
          rcases (h hm).2 with h | h
          · exact h hmask
          · rw [hauto] at h
            cases h
      rw [hrun, ← hsame]
      exact stored_store_agree (hsame ▸ hacd) _
    · obtain ⟨s, hrun⟩ := afterLoad_static hm hv hmask e nvs
      rw [hrun]
      exact hacd

/-- The boot leaves a stored field as it was.  If the configuration can be read: the field is a
text or 0, or the addresses are left alone; and the field is restored, or nothing is stored. -/
def BootKeeps (e : BootEnv) (nvs : Option NvData) (F : Field) : Prop :=
  match nvs.bind checkBlob with
  | none => True
  | some r => e.load.readable = true →
    ((r.blob.value F).SurvivesZero ∨ Usable e r.blob.configControl r.blob.addresses) ∧
      (Quiet r ∨ Restores e.load r.blob F)

instance BootKeeps.decidable (e : BootEnv) (nvs : Option NvData) (F : Field) :
    Decidable (BootKeeps e nvs F) :=
  match h : nvs.bind checkBlob with
  | none => isTrue (by rw [BootKeeps, h]; trivial)
  | some r => decidable_of_iff (e.load.readable = true →
      ((r.blob.value F).SurvivesZero ∨ Usable e r.blob.configControl r.blob.addresses) ∧
        (Quiet r ∨ Restores e.load r.blob F)) (by rw [BootKeeps, h])

/-- What a quiet configuration is restored to is not stored, even if a text is missing. -/
theorem afterLoad_quiet {r : Restored} (h : Quiet r)
    (hcc : t.configControl = r.blob.configControl) (hacd : t.selectAcd = r.selectAcd)
    (haddr : t.interfaceConfiguration.addresses = r.blob.addresses) :
    (afterLoad e t nvs).2.2 = nvs := by
  by_cases hd : method t.configControl = kTcpipCfgCtrlDhcp
  · obtain ⟨u, -, hrun⟩ := afterLoad_dhcp hd e nvs
    rw [hrun]
  rw [Quiet, ← hcc, ← hacd] at h
  obtain ⟨hon, hstatic⟩ := h.resolve_left hd
  have hsame := enableAcd_enabled hon e.acdWrite nvs
  by_cases hm : method t.configControl = kTcpipCfgCtrlStaticIp
  · obtain ⟨hv, hmask⟩ := hstatic hm
    rw [← haddr] at hv
    have hsameMask : t.interfaceConfiguration.networkMask = r.blob.networkMask :=
      congrArg InterfaceConfiguration.networkMask haddr
    have hmask' : t.interfaceConfiguration.networkMask ≠ 0 := by rwa [hsameMask]
    obtain ⟨s, hrun⟩ := afterLoad_static hm hv hmask' e nvs
    rw [hrun, hsame]
  · obtain ⟨u, -, hrun⟩ := afterLoad_other hm hd e nvs
    rw [hrun, hsame]

/-- A configuration that cannot be read is not stored over. -/
theorem boot_unread (h : e.load.readable = false ∨ nvs.bind checkBlob = none) :
    (boot e nvs).2.2 = nvs := by
  have hload : nvTcpipLoad e.load .default nvs = (false, .default, nvs) := by
    unfold nvTcpipLoad
    rcases h with h | h
    · exact if_pos h
    · rw [h]
      exact ite_self _
  obtain ⟨u, -, hrun⟩ := afterLoad_dhcp (t := .default) rfl e nvs
  rw [boot, hload]
  exact congrArg (fun x => x.2.2) hrun

/-- A boot that gets past its load: the configuration is read, and what was restored is either
left as it is, or is whole and checked. -/
theorem boot_read {r : Restored} (hread : e.load.readable = true)
    (hblob : nvs.bind checkBlob = some r) :
    boot e nvs = (if (restore e.load r .default).1 = false
      then afterLoad e (restore e.load r .default).2 nvs
      else afterLoad e (finishLoad e.load r (restore e.load r .default).2 nvs).1
        (finishLoad e.load r (restore e.load r .default).2 nvs).2) := by
  rw [boot, nvTcpipLoad, if_neg (by simp [hread]), hblob]
  dsimp only
  split <;> rfl

/-- The end of a load keeps a field that setting the addresses to 0 does not change, or where
that does not happen. -/
theorem finishLoad_same (l : LoadEnv) (r : Restored) (nvs : Option NvData)
    (hz : (t.persisted F).SurvivesZero ∨ Usable e t.configControl t.interfaceConfiguration) :
    (finishLoad l r t nvs).1.persisted F = t.persisted F := by
  obtain ⟨hh, -, ⟨hm, hv, -, hc⟩ | ⟨-, -, hc⟩⟩ := finishLoad_cases l r t nvs
  · refine persisted_zeroAddresses hc hh (hz.resolve_right fun hu => ?_)
    rw [(hu hm).1] at hv
    cases hv
  · exact persisted_congr hc hh

theorem finishLoad_stored (l : LoadEnv) (r : Restored)
    (hagree : stored nvs F = some (t.persisted F))
    (hz : (t.persisted F).SurvivesZero ∨ Usable e t.configControl t.interfaceConfiguration) :
    (finishLoad l r t nvs).1.persisted F = t.persisted F ∧
      stored (finishLoad l r t nvs).2 F = some (t.persisted F) ∧
      ((t.persisted F).SurvivesZero ∨ Usable e (finishLoad l r t nvs).1.configControl
        (finishLoad l r t nvs).1.interfaceConfiguration) := by
  obtain ⟨-, hn, hcases⟩ := finishLoad_cases l r t nvs
  have hsame := finishLoad_same l r nvs hz
  refine ⟨hsame, ?_, hz.imp id fun hu => ?_⟩
  · rcases hn with hn | hn
    · rw [hn, hagree]
    · rw [hn, stored_toNvData, hsame]
  · rcases hcases with ⟨-, -, hd, -⟩ | ⟨-, hc, hi⟩
    · intro hm
      rw [hd] at hm
      exact absurd hm dhcp_ne_static
    · rw [hc, hi]
      exact hu

/-- **A boot keeps a stored field** that is restored, and is not an address of a static
configuration that the boot refuses. -/
theorem boot_stored (h : BootKeeps e nvs F) : stored (boot e nvs).2.2 F = stored nvs F := by
  cases hread : e.load.readable with
  | false => rw [boot_unread (Or.inl hread)]
  | true =>
    cases hblob : nvs.bind checkBlob with
    | none => rw [boot_unread (Or.inr hblob)]
    | some r =>
      rw [BootKeeps, hblob] at h
      obtain ⟨hz, hrestores⟩ := h hread
      obtain ⟨hcc, hacd, haddr⟩ := restore_fields e.load r .default
      have hvalue : stored nvs F = some (r.blob.value F) := by
        rw [stored, hblob]
        rfl
      have huse : Usable e r.blob.configControl r.blob.addresses →
          Usable e (restore e.load r .default).2.configControl
            (restore e.load r .default).2.interfaceConfiguration := by
        rw [← haddr, ← hcc]
        exact id
      have hfrom : (restore e.load r .default).2.persisted F = r.blob.value F →
          stored nvs F = some ((restore e.load r .default).2.persisted F) ∧
          (((restore e.load r .default).2.persisted F).SurvivesZero ∨
            Usable e (restore e.load r .default).2.configControl
              (restore e.load r .default).2.interfaceConfiguration) := by
        intro hsame
        rw [hsame]
        exact ⟨hvalue, hz.imp id huse⟩
      rw [boot_read hread hblob]
      cases hok : (restore e.load r .default).1 with
      | false =>
        rw [if_pos rfl]
        rcases hrestores with hquiet | hrestores
        · rw [afterLoad_quiet hquiet hcc hacd haddr]
        · obtain ⟨hagree, hz'⟩ := hfrom (restore_persisted hrestores)
          rw [afterLoad_stored hagree hz', hagree]
      | true =>
        rw [if_neg (by decide)]
        obtain ⟨hagree, hz'⟩ := hfrom (restore_persisted (restores_of_restore hok F))
        obtain ⟨hsame, hmid, hz''⟩ := finishLoad_stored e.load r hagree hz'
        rw [← hsame] at hmid hz''
        rw [afterLoad_stored hmid hz'', hsame, hagree]

/-! ## 4. What the object is left with -/

/-- The boot does not set the field to 0: it is a text or 0 already, or an address of a static
configuration that is left alone. -/
def Untouched (e : BootEnv) (configControl : UInt32) (c : InterfaceConfiguration)
    (v : FieldValue) : Prop :=
  v.SurvivesZero ∨ method configControl = kTcpipCfgCtrlStaticIp ∧ Usable e configControl c

instance Untouched.decidable (e : BootEnv) (configControl : UInt32) (c : InterfaceConfiguration)
    (v : FieldValue) : Decidable (Untouched e configControl c v) :=
  inferInstanceAs (Decidable (_ ∨ _))

theorem OnDhcp.persisted {u : CipTcpIpObject} (h : OnDhcp t u) (hz : (t.persisted F).SurvivesZero) :
    u.persisted F = t.persisted F := persisted_zeroAddresses h.config h.hostname hz

/-- After the load the object keeps a field that is not set to 0. -/
theorem afterLoad_persisted
    (hz : Untouched e t.configControl t.interfaceConfiguration (t.persisted F)) :
    (afterLoad e t nvs).2.1.persisted F = t.persisted F := by
  by_cases hm : method t.configControl = kTcpipCfgCtrlStaticIp
  swap
  · -- without a static configuration the addresses are dropped
    have hzero : (t.persisted F).SurvivesZero := hz.resolve_right fun h => hm h.1
    by_cases hd : method t.configControl = kTcpipCfgCtrlDhcp
    · obtain ⟨u, hu, hrun⟩ := afterLoad_dhcp hd e nvs
      rw [hrun]
      exact hu.persisted hzero
    · obtain ⟨u, hu, hrun⟩ := afterLoad_other hm hd e nvs
      rw [hrun]
      exact hu.persisted hzero
  cases hv : cipTcpIpIsValidNetworkConfig t.interfaceConfiguration with
  | false =>
    obtain ⟨u, v, hu, ht, hrun⟩ := afterLoad_refused hm hv e nvs
    have hzero : (t.persisted F).SurvivesZero := by
      refine hz.resolve_right fun h => ?_
      rw [(h.2 hm).1] at hv
      cases hv
    have hsame := ht.persisted hzero
    rw [hrun, ← hsame]
    exact hu.persisted (hsame ▸ hzero)
  | true =>
    by_cases hmask : t.interfaceConfiguration.networkMask = 0
    · obtain ⟨n, u, -, hh, hc, hrun⟩ := afterLoad_noMask hm hv hmask e nvs
      rw [hrun]
      rcases hc with ⟨hc, -⟩ | ⟨hc, hauto⟩
      · exact persisted_congr hc hh
      · refine persisted_zeroAddresses hc hh (hz.resolve_right fun h => ?_)
        rcases (h.2 hm).2 with h | h
        · exact h hmask
        · rw [hauto] at h
          cases h
    · obtain ⟨s, hrun⟩ := afterLoad_static hm hv hmask e nvs
      rw [hrun]
      exact persisted_congr rfl rfl

/-- The boot gives the object the field as it is stored.  If the configuration can be read: the
field is not set to 0, and memory is found for it; otherwise it is stored as the initial object has
it. -/
def BootRestores (e : BootEnv) (nvs : Option NvData) (F : Field) : Prop :=
  match nvs.bind checkBlob with
  | none => False
  | some r =>
    (e.load.readable = true →
      Untouched e r.blob.configControl r.blob.addresses (r.blob.value F) ∧
        Restores e.load r.blob F) ∧
    (e.load.readable = false → r.blob.value F = CipTcpIpObject.default.persisted F)

instance BootRestores.decidable (e : BootEnv) (nvs : Option NvData) (F : Field) :
    Decidable (BootRestores e nvs F) :=
  match h : nvs.bind checkBlob with
  | none => isFalse (by rw [BootRestores, h]; exact id)
  | some r => decidable_of_iff ((e.load.readable = true →
      Untouched e r.blob.configControl r.blob.addresses (r.blob.value F) ∧
        Restores e.load r.blob F) ∧
      (e.load.readable = false → r.blob.value F = CipTcpIpObject.default.persisted F))
      (by rw [BootRestores, h])

/-- The end of a load keeps a field that the boot does not set to 0, and does not set it to 0
later. -/
theorem finishLoad_persisted (l : LoadEnv) (r : Restored) (nvs : Option NvData)
    (hz : Untouched e t.configControl t.interfaceConfiguration (t.persisted F)) :
    (finishLoad l r t nvs).1.persisted F = t.persisted F ∧
      Untouched e (finishLoad l r t nvs).1.configControl
        (finishLoad l r t nvs).1.interfaceConfiguration (t.persisted F) := by
  refine ⟨finishLoad_same l r nvs (hz.imp_right And.right), ?_⟩
  obtain ⟨-, -, ⟨hm, hv, -, -⟩ | ⟨-, hcc, hc⟩⟩ := finishLoad_cases l r t nvs
  · refine .inl (hz.resolve_right fun h => ?_)
    rw [(h.2 hm).1] at hv
    cases hv
  · rw [hcc, hc]
    exact hz

/-- **A boot restores a field** under this condition: object and flash agree after it. -/
theorem boot_restores (h : BootRestores e nvs F) :
    stored nvs F = some ((boot e nvs).2.1.persisted F) := by
  cases hblob : nvs.bind checkBlob with
  | none =>
    rw [BootRestores, hblob] at h
    exact h.elim
  | some r =>
    rw [BootRestores, hblob] at h
    have hvalue : stored nvs F = some (r.blob.value F) := by
      rw [stored, hblob]
      rfl
    rw [hvalue]
    congr 1
    cases hread : e.load.readable with
    | false =>
      -- the initial object, which is on DHCP
      have hload : nvTcpipLoad e.load .default nvs = (false, .default, nvs) :=
        if_pos hread
      have hblank : (CipTcpIpObject.default.persisted F).SurvivesZero := by
        cases F <;> first | rfl | trivial
      rw [boot, hload, h.2 hread]
      exact (afterLoad_persisted (.inl hblank)).symm
    | true =>
      obtain ⟨hz, hrestores⟩ := h.1 hread
      obtain ⟨hcc, -, haddr⟩ := restore_fields e.load r .default
      have hsame := restore_persisted hrestores
      have huntouched : Untouched e (restore e.load r .default).2.configControl
          (restore e.load r .default).2.interfaceConfiguration
          ((restore e.load r .default).2.persisted F) := by
        rw [hcc, hsame]
        rw [← haddr] at hz
        exact hz
      rw [boot_read hread hblob]
      split
      · rw [afterLoad_persisted huntouched, hsame]
      · obtain ⟨hkept, hlater⟩ := finishLoad_persisted e.load r nvs huntouched
        rw [← hkept] at hlater
        rw [afterLoad_persisted hlater, hkept, hsame]

/-! ## 5. The method and the addresses -/

/-- A method and five addresses. -/
structure Network where
  method : UInt32
  addresses : InterfaceConfiguration
  deriving DecidableEq

def CipTcpIpObject.network (t : CipTcpIpObject) : Network :=
  ⟨method t.configControl, t.interfaceConfiguration.addresses⟩

def storedNetwork (nvs : Option NvData) : Option Network :=
  (nvs.bind checkBlob).map fun r => ⟨method r.blob.configControl, r.blob.addresses⟩

/-- The check that the boot makes of a static configuration, and the mask it needs. -/
def Network.StaticOk (n : Network) : Prop :=
  n.method = kTcpipCfgCtrlStaticIp ∧ cipTcpIpIsValidNetworkConfig n.addresses = true ∧
    n.addresses.networkMask ≠ 0

instance Network.decidableStaticOk (n : Network) : Decidable n.StaticOk :=
  inferInstanceAs (Decidable (_ ∧ _))

variable {n : Network}

theorem storedNetwork_toNvData (t : CipTcpIpObject) :
    storedNetwork (some t.toNvData) = some t.network := rfl

/-- Storing an object with the stored network changes nothing in it. -/
theorem storedNetwork_store (hs : storedNetwork nvs = some n) (ht : t.network = n) (w : NvWrite) :
    storedNetwork (nvTcpipStore w t nvs).2 = some n := by
  rcases nvTcpipStore_cases w t nvs with h | h
  · rw [h, hs]
  · rw [h, storedNetwork_toNvData, ht]

theorem storedNetwork_enableAcd (hs : storedNetwork nvs = some n) (ht : t.network = n)
    (w : NvWrite) : storedNetwork (enableAcd w t nvs).2 = some n := by
  obtain ⟨acd, -, -, h | h⟩ := enableAcd_cases w t nvs
  · rw [h, hs]
  · rw [h]
    exact storedNetwork_store hs (t := { t with selectAcd := acd }) ht w

/-- The flash holds the network, or DHCP instead. -/
def HoldsOrDhcp (n : Network) (nvs : Option NvData) : Prop :=
  storedNetwork nvs = some n ∨ ∃ m, storedNetwork nvs = some m ∧ m.method = kTcpipCfgCtrlDhcp

theorem HoldsOrDhcp.store (h : HoldsOrDhcp n nvs)
    (ht : t.network = n ∨ method t.configControl = kTcpipCfgCtrlDhcp) (w : NvWrite) :
    HoldsOrDhcp n (nvTcpipStore w t nvs).2 := by
  rcases nvTcpipStore_cases w t nvs with hn | hn
  · rwa [hn]
  · rw [hn]
    rcases ht with ht | ht
    · exact Or.inl (by rw [storedNetwork_toNvData, ht])
    · exact Or.inr ⟨_, storedNetwork_toNvData t, ht⟩

/-- What the load leaves: the stored network, checked and stored again, or refused. -/
theorem load_network (e : BootEnv) (hread : e.load.readable = true)
    (hs : storedNetwork nvs = some n) :
    ∃ t nvs', boot e nvs = afterLoad e t nvs' ∧
      ((t.network = n ∧ storedNetwork nvs' = some n) ∨
        (n.method = kTcpipCfgCtrlStaticIp ∧ cipTcpIpIsValidNetworkConfig n.addresses = false ∧
          method t.configControl = kTcpipCfgCtrlDhcp ∧ HoldsOrDhcp n nvs')) := by
  rw [storedNetwork, Option.map_eq_some_iff] at hs
  obtain ⟨r, hblob, hr⟩ := hs
  have hs : storedNetwork nvs = some n := by rw [storedNetwork, hblob, ← hr]; rfl
  obtain ⟨hcc, -, haddr⟩ := restore_fields e.load r .default
  have hnet : (restore e.load r .default).2.network = n := by
    rw [CipTcpIpObject.network, hcc, haddr, hr]
  rw [boot_read hread hblob]
  split
  · exact ⟨_, _, rfl, Or.inl ⟨hnet, hs⟩⟩
  · refine ⟨_, _, rfl, ?_⟩
    obtain ⟨-, hn, hcases⟩ := finishLoad_cases e.load r (restore e.load r .default).2 nvs
    rcases hcases with ⟨hm, hv, hd, -⟩ | ⟨-, hc, hi⟩
    · right
      have hholds : HoldsOrDhcp n (finishLoad e.load r (restore e.load r .default).2 nvs).2 := by
        rcases hn with hn | hn
        · exact Or.inl (by rw [hn, hs])
        · exact Or.inr ⟨_, by rw [hn, storedNetwork_toNvData], hd⟩
      rw [← hnet]
      exact ⟨hm, hv, hd, hnet ▸ hholds⟩
    · left
      have hsame : (finishLoad e.load r (restore e.load r .default).2 nvs).1.network = n := by
        rw [CipTcpIpObject.network, hc, hi]
        exact hnet
      refine ⟨hsame, ?_⟩
      rcases hn with hn | hn
      · rw [hn, hs]
      · rw [hn, storedNetwork_toNvData, hsame]

/-- **A static configuration that the boot accepts** is given to the interface, and stays in the
object and in the flash. -/
theorem boot_staticOk (hread : e.load.readable = true) (hs : storedNetwork nvs = some n)
    (hok : n.StaticOk) :
    (boot e nvs).1 = .acdPending n.addresses.ipAddress n.addresses.networkMask
        n.addresses.gateway ∧
      (boot e nvs).2.1.network = n ∧ storedNetwork (boot e nvs).2.2 = some n := by
  obtain ⟨hm, hv, hmask⟩ := hok
  obtain ⟨t, nvs', hboot, ⟨rfl, hs'⟩ | ⟨-, hv', -⟩⟩ := load_network e hread hs
  · obtain ⟨s, hrun⟩ := afterLoad_static hm hv hmask e nvs'
    rw [hboot, hrun]
    exact ⟨rfl, rfl, storedNetwork_enableAcd hs' rfl _⟩
  · rw [hv] at hv'
    cases hv'

/-- **DHCP** stays in the object and in the flash. -/
theorem boot_dhcp (hread : e.load.readable = true) (hs : storedNetwork nvs = some n)
    (hm : n.method = kTcpipCfgCtrlDhcp) :
    (boot e nvs).2.1.network.method = kTcpipCfgCtrlDhcp ∧
      ∃ m, storedNetwork (boot e nvs).2.2 = some m ∧ m.method = kTcpipCfgCtrlDhcp := by
  obtain ⟨t, nvs', hboot, ⟨rfl, hs'⟩ | ⟨hm', -⟩⟩ := load_network e hread hs
  · obtain ⟨u, hu, hrun⟩ := afterLoad_dhcp hm e nvs'
    rw [hboot, hrun]
    exact ⟨hu.method, _, hs', hm⟩
  · rw [hm] at hm'
    exact absurd hm' dhcp_ne_static

/-- **Anything else** becomes DHCP in the object, whether or not that is stored. -/
theorem boot_else (hread : e.load.readable = true) (hs : storedNetwork nvs = some n)
    (hd : n.method ≠ kTcpipCfgCtrlDhcp) (hno : ¬n.StaticOk) :
    (boot e nvs).2.1.network.method = kTcpipCfgCtrlDhcp ∧ HoldsOrDhcp n (boot e nvs).2.2 := by
  obtain ⟨t, nvs', hboot, ⟨rfl, hs'⟩ | ⟨-, -, hdhcp, hholds⟩⟩ := load_network e hread hs
  swap
  · obtain ⟨u, hu, hrun⟩ := afterLoad_dhcp hdhcp e nvs'
    rw [hboot, hrun]
    exact ⟨hu.method, hholds⟩
  have hacd : HoldsOrDhcp t.network (enableAcd e.acdWrite t nvs').2 :=
    Or.inl (storedNetwork_enableAcd hs' rfl _)
  rw [hboot]
  by_cases hm : method t.configControl = kTcpipCfgCtrlStaticIp
  swap
  · obtain ⟨u, hu, hrun⟩ := afterLoad_other hm hd e nvs'
    rw [hrun]
    exact ⟨hu.method, hacd⟩
  cases hv : cipTcpIpIsValidNetworkConfig t.interfaceConfiguration with
  | false =>
    obtain ⟨u, v, hu, ht, hrun⟩ := afterLoad_refused hm hv e nvs'
    rw [hrun]
    exact ⟨hu.method, hacd.store (Or.inr ht.method) _⟩
  | true =>
    have hmask : t.interfaceConfiguration.networkMask = 0 := by
      by_contra hmask
      exact hno ⟨hm, hv, hmask⟩
    obtain ⟨k, u, hu, -, -, hrun⟩ := afterLoad_noMask hm hv hmask e nvs'
    rw [hrun]
    exact ⟨hu, hacd.store (Or.inr hu) _⟩

end GroundTruth.Tcpip
