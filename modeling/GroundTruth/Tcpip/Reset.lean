/-
# The factory reset

`ResetDeviceToInitialConfiguration` restores the TCP/IP object field by field and stores it; the
device then restarts.  Afterwards it should be a device that boots with nothing stored.

`factoryReset_iff` says when it is.  The reset has a list of fields of its own: the ACD setting is
not on it, of the method word only the method is, and a string that the stop of the stack has
freed keeps the length it had, so that as many zero bytes are stored for it.
-/
import GroundTruth.Tcpip.Persistence

namespace GroundTruth.Tcpip

open GroundTruth.Lib

/-! ## 1. The code -/

/-- `RestoreTcpIpDefaults`, but for its store. -/
def restoreTcpIpDefaults (t : CipTcpIpObject) : CipTcpIpObject :=
  let t := t.toDhcp
  { t with
    interfaceConfiguration :=
      { t.interfaceConfiguration with
        domainName := clearCipString t.interfaceConfiguration.domainName }
    hostname := clearCipString t.hostname
    status := t.status ||| kTcpipStatusIfaceCfgPend }

/-- `ResetDeviceToInitialConfiguration`, as far as it touches the object and its place in the
flash. -/
def resetDeviceToInitialConfiguration (w : NvWrite) (t : CipTcpIpObject) (nvs : Option NvData) :
    CipTcpIpObject × Option NvData :=
  let t := restoreTcpIpDefaults { t with encapsulationInactivityTimeout := 120 }
  (t, (nvTcpipStore w t nvs).2)

/-! ## 2. A boot with DHCP -/

variable {t : CipTcpIpObject} {nvs : Option NvData}

/-- After the load, DHCP sets the addresses to 0 and leaves the other settings. -/
theorem afterLoad_dhcp_settings (hm : method t.configControl = kTcpipCfgCtrlDhcp) (e : BootEnv)
    (nvs : Option NvData) :
    (afterLoad e t nvs).2.1.settings =
      { t.settings with addresses := ⟨0, 0, 0, 0, 0, .empty⟩ } := by
  have hdefault : defaultMethod t = t := if_neg fun h => h.2 hm
  have hvalid : tcpipStaticConfigValid t = true :=
    tcpipStaticConfigValid_of_ne (by rw [hm]; exact dhcp_ne_static)
  simp only [afterLoad, appMainChecks, enableAcd_dhcp hm, hdefault, checkStatic_of_valid hvalid]
  rw [dropDhcpAddresses, if_pos hm, configureNetifFromTcpip]
  dsimp only
  rw [if_pos hm]
  rfl

/-- A device with nothing stored boots with the initial settings. -/
theorem boot_empty (e : BootEnv) :
    (boot e none).2.1.settings = CipTcpIpObject.default.settings := by
  have hload : nvTcpipLoad e.load .default none = (false, .default, none) := ite_self _
  rw [boot, hload]
  exact afterLoad_dhcp_settings rfl e none

/-- What is restored for a string that the reset has cleared. -/
theorem cleared_text {s : CipString} {max : Nat} (hmax : 0 < max) :
    (restoreText true ((clearCipString s).persisted max) .empty).2.text = (0, []) ↔
      (s.string = none → s.length = 0) := by
  have hwhole := (restoreText_works ((clearCipString s).persisted max) .empty).2.2
    fun _ _ => rfl
  rw [hwhole]
  cases hs : s.string with
  | some d =>
    have hclear : clearCipString s = .empty := by
      rw [clearCipString, hs]
    rw [hclear, CipString.persisted_empty]
    simp
  | none =>
    have hclear : clearCipString s = s := by
      rw [clearCipString, hs]
    have hlength : (s.persisted max).length = min s.length max := by
      rw [CipString.persisted, List.length_take, CipString.length_storedBytes,
        CipString.storedLength]
      omega
    rw [hclear]
    constructor
    · intro h _
      have h0 : (s.persisted max).length = 0 := congrArg Prod.fst h
      omega
    · intro h
      have h0 : (s.persisted max).length = 0 := by
        rw [hlength, h rfl, Nat.zero_min]
      rw [h0, List.eq_nil_of_length_eq_zero h0]

/-! ## 3. The reset -/

/-- What the reset does not restore: the object has ACD selected, or flags in its method word, or
a string that is a length only. -/
structure CipTcpIpObject.Resettable (t : CipTcpIpObject) : Prop where
  selectAcd : t.selectAcd = false
  configControl : t.configControl &&& ~~~kTcpipCfgCtrlMethodMask = 0
  domainName : t.interfaceConfiguration.domainName.string = none →
    t.interfaceConfiguration.domainName.length = 0
  hostname : t.hostname.string = none → t.hostname.length = 0

theorem setMethod_dhcp_iff (c : UInt32) :
    setMethod kTcpipCfgCtrlDhcp c = 2 ↔ c &&& ~~~kTcpipCfgCtrlMethodMask = 0 := by
  constructor
  · intro h
    rw [← flags_setMethod (m := kTcpipCfgCtrlDhcp) rfl, h]
    rfl
  · intro h
    rw [setMethod, h]
    rfl

/-- The settings that a boot finds after the reset. -/
theorem boot_reset (e : BootEnv) (he : e.load.Works) {w : NvWrite} (hw : w ≠ .refused)
    (t : CipTcpIpObject) (nvs : Option NvData) :
    (boot e (resetDeviceToInitialConfiguration w t nvs).2).2.1.settings =
      { configControl := setMethod kTcpipCfgCtrlDhcp t.configControl
        addresses := ⟨0, 0, 0, 0, 0, .empty⟩
        domainName := (restoreText true ((clearCipString
          t.interfaceConfiguration.domainName).persisted tcpipDomainMaxLen) .empty).2.text
        hostname := (restoreText true ((clearCipString
          t.hostname).persisted tcpipHostnameMaxLen) .empty).2.text
        selectAcd := t.selectAcd } := by
  obtain ⟨v, hv⟩ : ∃ v, v = restoreTcpIpDefaults { t with encapsulationInactivityTimeout := 120 } :=
    ⟨_, rfl⟩
  have hm : method v.configControl = kTcpipCfgCtrlDhcp := by
    rw [hv]
    exact method_setMethod_dhcp _
  obtain ⟨u, hu, hacd, -, hhostname, hcases⟩ := load_toNvData he v
  have hreset : (resetDeviceToInitialConfiguration w t nvs).2 = some v.toNvData := by
    rw [hv]
    exact nvTcpipStore_lands hw _ _
  rcases hcases with ⟨hstatic, -⟩ | ⟨-, hcc, -, hdomain⟩
  · rw [hm] at hstatic
    exact absurd hstatic dhcp_ne_static
  · rw [boot, hreset, hu, afterLoad_dhcp_settings (by rw [hcc]; exact hm)]
    simp only [CipTcpIpObject.settings, hcc, hdomain, hhostname, hacd]
    rw [hv]
    rfl

/-- **Factory reset**: after the reset and a restart the settings are those of a device that boots
with nothing stored, if and only if there is nothing that the reset does not restore. -/
theorem factoryReset_iff (e e' : BootEnv) (he : e.load.Works) (w : NvWrite) (hw : w ≠ .refused)
    (t : CipTcpIpObject) (nvs : Option NvData) :
    (boot e (resetDeviceToInitialConfiguration w t nvs).2).2.1.settings =
        (boot e' none).2.1.settings ↔ t.Resettable := by
  have hinitial : CipTcpIpObject.default.settings =
      ⟨2, ⟨0, 0, 0, 0, 0, .empty⟩, (0, []), (0, []), false⟩ := rfl
  rw [boot_reset e he hw, boot_empty, hinitial]
  simp only [Settings.mk.injEq, true_and, setMethod_dhcp_iff]
  rw [cleared_text (by decide), cleared_text (by decide)]
  constructor
  · rintro ⟨hcc, hdomain, hhostname, hacd⟩
    exact ⟨hacd, hcc, hdomain, hhostname⟩
  · rintro ⟨hacd, hcc, hdomain, hhostname⟩
    exact ⟨hcc, hdomain, hhostname, hacd⟩

/-! ## 4. Two devices -/

/-- Everything works. -/
def bootEnv : BootEnv := ⟨loadEnv, .ok, .ok, .ok, true⟩

/-- A device that is off, with nothing stored. -/
def emptyDevice : Device where
  tcpip := .default
  nvs := none
  netif := .dhcp
  servicesInitialized := false
  openerInitialized := false
  webui := false

/-- An address from DHCP, and the host name `eip`. -/
def gotAddress : GotIp :=
  ⟨true, true, true, 0x0501A8C0, 0x00FFFFFF, 0x0101A8C0, ascii "eip", true, true, true⟩

/-- Power on; the interface gets its address; attribute 10 selects ACD. -/
def selectRun : List Event :=
  [.boot bootEnv, .gotIp gotAddress, .setAttribute (request 10 [1])]

/-- A static configuration with both names, and without ACD, is gone after the reset. -/
theorem factoryReset_named :
    (boot bootEnv (resetDeviceToInitialConfiguration .ok { namedObject with selectAcd := false }
        (some namedObject.toNvData)).2).2.1.settings = (boot bootEnv none).2.1.settings :=
  (factoryReset_iff bootEnv bootEnv loadEnv_works .ok (by decide)
    { namedObject with selectAcd := false } (some namedObject.toNvData)).2
    ⟨rfl, by decide, by decide, by decide⟩

/-- The selection of ACD survives a factory reset. -/
theorem factoryReset_keeps_acd :
    ¬∀ d, Reach (step fun _ => none) emptyDevice d →
      (boot bootEnv (resetDeviceToInitialConfiguration .ok d.tcpip d.nvs).2).2.1.settings =
        (boot bootEnv none).2.1.settings := by
  intro hall
  obtain ⟨d, hrun, hkept⟩ : ∃ d, exec (step fun _ => none) emptyDevice selectRun = some d ∧
      (boot bootEnv (resetDeviceToInitialConfiguration .ok d.tcpip d.nvs).2).2.1.settings ≠
        (boot bootEnv none).2.1.settings := ⟨_, rfl, by decide +kernel⟩
  exact hkept (hall d (exec_reach hrun))

/-- So does the length of a host name that was freed when the stack stopped. -/
example : ∃ d, exec (step fun _ => none) emptyDevice
      [.boot bootEnv, .gotIp gotAddress, .disconnected, .openerExit] = some d ∧
    (boot bootEnv (resetDeviceToInitialConfiguration .ok d.tcpip d.nvs).2).2.1.settings.hostname =
      (3, [0, 0, 0]) := ⟨_, rfl, by decide +kernel⟩

end GroundTruth.Tcpip
