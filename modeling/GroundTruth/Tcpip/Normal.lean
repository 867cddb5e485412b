/-
# What a boot settles on

A boot repairs what it finds, in several places, and stores some of what it repaired.  `settle` is
what becomes of the object that was restored: one function of it, and of whether AutoIP starts.

* `boot_settles`: the object after a boot is the settled one;
* `boot_holds`: the flash then holds the object as it was, or repaired in a way that settles the
  same, or settled; which of them depends on the writes;
* `boot_normal_iff`: the boot ends in DHCP without addresses or in a static configuration in order,
  and the next boot ends in the same, unless the stored configuration is static and valid but has
  no mask.  Then that depends on AutoIP: the branch without it keeps the addresses, which the next
  boot drops.
-/
import GroundTruth.Tcpip.Reset

namespace GroundTruth.Tcpip

open GroundTruth.Lib

/-! ## 1. Settling -/

/-- The addresses of a configuration, all 0. -/
def noAddresses : InterfaceConfiguration := ⟨0, 0, 0, 0, 0, .empty⟩

/-- Static, and passes the check, but without a mask. -/
def Maskless (t : CipTcpIpObject) : Prop :=
  method t.configControl = kTcpipCfgCtrlStaticIp ∧
    cipTcpIpIsValidNetworkConfig t.interfaceConfiguration = true ∧
    t.interfaceConfiguration.networkMask = 0

instance Maskless.decidable (t : CipTcpIpObject) : Decidable (Maskless t) :=
  inferInstanceAs (Decidable (_ ∧ _))

/-- What a boot makes of the object that it restored. -/
def settle (autoIp : Bool) (t : CipTcpIpObject) : CipTcpIpObject :=
  if method t.configControl = kTcpipCfgCtrlDhcp then t.toDhcp
  else if method t.configControl ≠ kTcpipCfgCtrlStaticIp then { t.toDhcp with selectAcd := true }
  else if cipTcpIpIsValidNetworkConfig t.interfaceConfiguration = false then t.toDhcp
  else if t.interfaceConfiguration.networkMask ≠ 0 then { t with selectAcd := true }
  else if autoIp = true then { t.toDhcp with selectAcd := true }
  else
    { t with
      selectAcd := true
      configControl := setMethod kTcpipCfgCtrlDhcp t.configControl }

/-- DHCP without addresses, or a static configuration in order. -/
def CipTcpIpObject.Normal (t : CipTcpIpObject) : Prop :=
  method t.configControl = kTcpipCfgCtrlDhcp ∧
      t.interfaceConfiguration.addresses = noAddresses ∨
    method t.configControl = kTcpipCfgCtrlStaticIp ∧
      cipTcpIpIsValidNetworkConfig t.interfaceConfiguration = true ∧
      t.interfaceConfiguration.ipAddress ≠ 0 ∧ t.interfaceConfiguration.networkMask ≠ 0 ∧
      t.selectAcd = true

variable {t u : CipTcpIpObject} {autoIp : Bool}

/-- With the method DHCP already set, setting it changes nothing. -/
theorem setMethod_of_method {c : UInt32} (h : method c = kTcpipCfgCtrlDhcp) :
    setMethod kTcpipCfgCtrlDhcp c = c := by
  conv_rhs => rw [← setMethod_method c, h]

@[simp] theorem setMethod_setMethod (c : UInt32) :
    setMethod kTcpipCfgCtrlDhcp (setMethod kTcpipCfgCtrlDhcp c) = setMethod kTcpipCfgCtrlDhcp c :=
  setMethod_of_method (method_setMethod_dhcp c)

@[simp] theorem toDhcp_toDhcp (t : CipTcpIpObject) : t.toDhcp.toDhcp = t.toDhcp := by
  simp [CipTcpIpObject.toDhcp, InterfaceConfiguration.zeroAddresses]

theorem settle_dhcp (hm : method t.configControl = kTcpipCfgCtrlDhcp) (autoIp : Bool) :
    settle autoIp t = t.toDhcp := if_pos hm

theorem settle_toDhcp (autoIp : Bool) (t : CipTcpIpObject) : settle autoIp t.toDhcp = t.toDhcp := by
  rw [settle_dhcp (method_setMethod_dhcp _), toDhcp_toDhcp]

/-- Only a configuration without a mask asks for AutoIP. -/
theorem settle_autoIp (h : ¬Maskless t) (autoIp autoIp' : Bool) :
    settle autoIp t = settle autoIp' t := by
  unfold settle
  split
  · rfl
  · split
    · rfl
    · rename_i hm
      split
      · rfl
      · rename_i hv
        rw [if_pos, if_pos]
        · intro h0
          exact h ⟨not_not.1 hm, by simpa using hv, h0⟩
        · intro h0
          exact h ⟨not_not.1 hm, by simpa using hv, h0⟩

theorem settle_static (hm : method t.configControl = kTcpipCfgCtrlStaticIp)
    (hv : cipTcpIpIsValidNetworkConfig t.interfaceConfiguration = true)
    (hmask : t.interfaceConfiguration.networkMask ≠ 0) (autoIp : Bool) :
    settle autoIp t = { t with selectAcd := true } := by
  have hv' : ¬cipTcpIpIsValidNetworkConfig t.interfaceConfiguration = false := by simp [hv]
  unfold settle
  rw [if_neg (by rw [hm]; exact static_ne_dhcp), if_neg (not_not.2 hm), if_neg hv', if_pos hmask]

theorem settle_maskless (h : Maskless t) (autoIp : Bool) :
    settle autoIp t =
      if autoIp = true then { t.toDhcp with selectAcd := true }
      else
        { t with
          selectAcd := true
          configControl := setMethod kTcpipCfgCtrlDhcp t.configControl } := by
  obtain ⟨hm, hv, hmask⟩ := h
  unfold settle
  rw [if_neg (by rw [hm]; exact static_ne_dhcp), if_neg (not_not.2 hm), if_neg (by rw [hv]; decide),
    if_neg (not_not.2 hmask)]

/-- Settled is normal, unless AutoIP is asked for and does not start. -/
theorem settle_normal (h : Maskless t → autoIp = true) : (settle autoIp t).Normal := by
  unfold settle
  split
  · exact Or.inl ⟨method_setMethod_dhcp _, rfl⟩
  · split
    · exact Or.inl ⟨method_setMethod_dhcp _, rfl⟩
    · rename_i hm
      split
      · exact Or.inl ⟨method_setMethod_dhcp _, rfl⟩
      · rename_i hv
        have hv' : cipTcpIpIsValidNetworkConfig t.interfaceConfiguration = true := by simpa using hv
        split
        · rename_i hmask
          exact Or.inr ⟨not_not.1 hm, hv', ipAddress_ne_zero hv', hmask, rfl⟩
        · rename_i hmask
          rw [if_pos (h ⟨not_not.1 hm, hv', not_not.1 hmask⟩)]
          exact Or.inl ⟨method_setMethod_dhcp _, rfl⟩

/-- Without AutoIP the addresses stay. -/
theorem settle_not_normal (h : Maskless t) : ¬(settle false t).Normal := by
  have hip := ipAddress_ne_zero h.2.1
  rw [settle_maskless h, if_neg (by decide)]
  rintro (⟨-, haddr⟩ | ⟨hm, -⟩)
  · exact hip (congrArg InterfaceConfiguration.ipAddress haddr)
  · rw [method_setMethod_dhcp] at hm
    exact absurd hm dhcp_ne_static

/-- What was settled with AutoIP settles as it is. -/
theorem settle_settle (h : Maskless t) (autoIp : Bool) :
    settle autoIp (settle true t) = settle true t := by
  rw [settle_maskless h, if_pos rfl]
  exact settle_toDhcp autoIp { t with selectAcd := true }

/-! ## 2. The object after a boot -/

variable {nvs : Option NvData} {r : Restored}

/-- The object that a blob is restored to, from the initial one. -/
def Restored.object (r : Restored) : CipTcpIpObject :=
  { CipTcpIpObject.default with
    configControl := r.blob.configControl
    interfaceConfiguration :=
      { r.blob.addresses with domainName := (restoreText true r.blob.domainText .empty).2 }
    hostname := (restoreText true r.blob.hostnameText .empty).2
    selectAcd := r.selectAcd }

theorem restore_object {e : LoadEnv} (he : e.Works) (r : Restored) :
    restore e r .default = (true, r.object) := by
  have hdomain := (restoreText_works r.blob.domainText .empty).1
  have hhostname := (restoreText_works r.blob.hostnameText .empty).1
  unfold restore
  dsimp only [restoreFields, CipTcpIpObject.default]
  rw [he.domainAlloc, he.hostnameAlloc, hdomain, hhostname, if_neg Bool.true_eq_false.mp]
  rfl

/-- A static configuration that the end of a load refuses. -/
def Refused (t : CipTcpIpObject) : Prop :=
  method t.configControl = kTcpipCfgCtrlStaticIp ∧
    cipTcpIpIsValidNetworkConfig t.interfaceConfiguration = false

instance Refused.decidable (t : CipTcpIpObject) : Decidable (Refused t) :=
  inferInstanceAs (Decidable (_ ∧ _))

/-- With the status of the initial object there is nothing to mark. -/
theorem marked (hs : t.status = 1) :
    ({ t with status := markApplied t.status } : CipTcpIpObject) = t := by
  have hmark : markApplied t.status = t.status := by
    rw [hs]
    rfl
  rw [hmark]

/-- The end of a load, exactly. -/
theorem finishLoad_object (hs : t.status = 1) (e : LoadEnv) (r : Restored)
    (nvs : Option NvData) :
    (finishLoad e r t nvs).1 = if Refused t then t.toDhcp else t := by
  have hmark : markApplied t.status = t.status := by
    rw [hs]
    rfl
  have hclear : clearAcdStatus t.status = t.status := by
    rw [hs]
    rfl
  unfold finishLoad
  dsimp only
  by_cases hrefused : Refused t
  · have hcond : method t.configControl = kTcpipCfgCtrlStaticIp ∧
        cipTcpIpIsValidNetworkConfig t.interfaceConfiguration = false := hrefused
    rw [if_pos hrefused, if_pos hcond, hmark, hclear]
    rfl
  · have hcond : ¬(method t.configControl = kTcpipCfgCtrlStaticIp ∧
        cipTcpIpIsValidNetworkConfig t.interfaceConfiguration = false) := hrefused
    rw [if_neg hrefused, if_neg hcond, hmark]

theorem settle_finishLoad (hs : t.status = 1) (e : LoadEnv) (r : Restored) (nvs : Option NvData)
    (autoIp : Bool) : settle autoIp (finishLoad e r t nvs).1 = settle autoIp t := by
  rw [finishLoad_object hs]
  split
  · rename_i hrefused
    rw [settle_toDhcp, settle, if_neg (by rw [hrefused.1]; exact static_ne_dhcp),
      if_neg (not_not.2 hrefused.1), if_pos hrefused.2]
  · rfl

/-- The checks, and what is told to the interface, of an object with DHCP. -/
theorem configure_object (hs : t.status = 1) (hm : method t.configControl = kTcpipCfgCtrlDhcp)
    (e : BootEnv) (nvs : Option NvData) :
    (configureNetifFromTcpip e
      { dropDhcpAddresses t with status := markApplied (dropDhcpAddresses t).status } nvs).2.1 =
        t.toDhcp := by
  have hdrop : dropDhcpAddresses t = t.toDhcp := by
    rw [dropDhcpAddresses, if_pos hm, CipTcpIpObject.toDhcp, setMethod_of_method hm]
  have hmarked := marked (t := t.toDhcp) hs
  have hdhcp : method t.toDhcp.configControl = kTcpipCfgCtrlDhcp := method_setMethod_dhcp _
  rw [hdrop, hmarked, configureNetifFromTcpip]
  dsimp only
  rw [if_pos hdhcp]
  exact hmarked

/-- What app_main makes of a static configuration that passes the check. -/
theorem appMainChecks_object (hs : t.status = 1)
    (hm : method t.configControl = kTcpipCfgCtrlStaticIp)
    (hv : cipTcpIpIsValidNetworkConfig t.interfaceConfiguration = true) (e : BootEnv)
    (nvs : Option NvData) :
    (appMainChecks e t nvs).1 = { t with selectAcd := true } := by
  obtain ⟨s, hchecks⟩ := appMainChecks_valid hm hv e nvs
  have hstatus : (appMainChecks e t nvs).1.status = markApplied t.status := by
    have hdrop : (appMainChecks e t nvs).1.status =
        markApplied (dropDhcpAddresses (checkStatic e.checkWrite
          (defaultMethod (enableAcd e.acdWrite t nvs).1) (enableAcd e.acdWrite t nvs).2).1).status :=
      rfl
    obtain ⟨acd, hacd, -, -⟩ := enableAcd_cases e.acdWrite t nvs
    have hdefault : defaultMethod (enableAcd e.acdWrite t nvs).1 =
        { t with selectAcd := acd } := by
      rw [hacd]
      exact if_neg fun h => h.1 hm
    have hvalid : tcpipStaticConfigValid { t with selectAcd := acd } = true := by
      rw [tcpipStaticConfigValid, if_neg (by simp [hm])]
      exact hv
    rw [hdrop, hdefault, checkStatic_of_valid hvalid, dropDhcpAddresses,
      if_neg (by rw [hm]; exact static_ne_dhcp)]
  have hmark : markApplied t.status = t.status := by
    rw [hs]
    rfl
  rw [hchecks] at hstatus ⊢
  dsimp only at hstatus ⊢
  rw [hstatus, hmark]

/-- What follows the load settles. -/
theorem afterLoad_object (hs : t.status = 1) (hr : ¬Refused t) (e : BootEnv)
    (nvs : Option NvData) : (afterLoad e t nvs).2.1 = settle e.autoIp t := by
  by_cases hd : method t.configControl = kTcpipCfgCtrlDhcp
  · have hdefault : defaultMethod t = t := if_neg fun h => h.2 hd
    have hvalid : tcpipStaticConfigValid t = true :=
      tcpipStaticConfigValid_of_ne (by rw [hd]; exact dhcp_ne_static)
    rw [settle_dhcp hd]
    simp only [afterLoad, appMainChecks, enableAcd_dhcp hd, hdefault, checkStatic_of_valid hvalid]
    exact configure_object hs hd e nvs
  by_cases hm : method t.configControl = kTcpipCfgCtrlStaticIp
  · have hv : cipTcpIpIsValidNetworkConfig t.interfaceConfiguration = true := by
      by_contra hv
      exact hr ⟨hm, by simpa using hv⟩
    have hchecks := appMainChecks_object hs hm hv e nvs
    have hmarked := marked (t := { t with selectAcd := true }) hs
    rw [afterLoad, hchecks, configureNetifFromTcpip]
    dsimp only
    rw [if_neg hd]
    by_cases hmask : t.interfaceConfiguration.networkMask = 0
    · rw [if_pos (Or.inr hmask), settle_maskless ⟨hm, hv, hmask⟩]
      split
      · rfl
      · rfl
    · rw [if_neg (not_or.2 ⟨ipAddress_ne_zero hv, hmask⟩), settle_static hm hv hmask]
      exact hmarked
  · obtain ⟨acd, hacd, htrue, -⟩ := enableAcd_cases e.acdWrite t nvs
    obtain rfl := htrue hd
    obtain ⟨u, hu⟩ : ∃ u : CipTcpIpObject, u = { t with
        selectAcd := true
        configControl := setMethod kTcpipCfgCtrlDhcp t.configControl } := ⟨_, rfl⟩
    have hdefault : defaultMethod (enableAcd e.acdWrite t nvs).1 = u := by
      rw [hacd, hu]
      exact if_pos ⟨hm, hd⟩
    have hdhcp : method u.configControl = kTcpipCfgCtrlDhcp := by
      rw [hu]
      exact method_setMethod_dhcp t.configControl
    have hvalid : tcpipStaticConfigValid u = true :=
      tcpipStaticConfigValid_of_ne (by rw [hdhcp]; exact dhcp_ne_static)
    have hstatus : u.status = 1 := by
      rw [hu]
      exact hs
    rw [settle, if_neg hd, if_pos hm]
    simp only [afterLoad, appMainChecks, hdefault, checkStatic_of_valid hvalid]
    rw [configure_object hstatus hdhcp, hu]
    simp [CipTcpIpObject.toDhcp]

/-! ## 3. The flash after a boot -/

/-- The flash holds a configuration that is restored to this object. -/
def Holds (nvs : Option NvData) (o : CipTcpIpObject) : Prop :=
  ∃ r, nvs.bind checkBlob = some r ∧ r.object = o

/-- An object as a load leaves it: the status and the timeout of the initial one, and texts that
fit. -/
structure CipTcpIpObject.Clean (o : CipTcpIpObject) : Prop where
  status : o.status = 1
  timeout : o.encapsulationInactivityTimeout = 120
  domainName : ∃ text : Bytes, text.length ≤ tcpipDomainMaxLen ∧
    o.interfaceConfiguration.domainName = (restoreText true text .empty).2
  hostname : ∃ text : Bytes, text.length ≤ tcpipHostnameMaxLen ∧
    o.hostname = (restoreText true text .empty).2

variable {o : CipTcpIpObject}

theorem Restored.object_clean (r : Restored) : r.object.Clean :=
  ⟨rfl, rfl, ⟨_, r.blob.domainText_length, rfl⟩, ⟨_, r.blob.hostnameText_length, rfl⟩⟩

theorem Holds.clean (h : Holds nvs o) : o.Clean := by
  obtain ⟨r, -, rfl⟩ := h
  exact r.object_clean

theorem CipTcpIpObject.Clean.toDhcp (h : o.Clean) : o.toDhcp.Clean :=
  ⟨h.status, h.timeout, h.domainName, h.hostname⟩

theorem CipTcpIpObject.Clean.selectAcd (h : o.Clean) (acd : Bool) :
    CipTcpIpObject.Clean { o with selectAcd := acd } :=
  ⟨h.status, h.timeout, h.domainName, h.hostname⟩

theorem CipTcpIpObject.Clean.settle (h : o.Clean) (autoIp : Bool) : (settle autoIp o).Clean := by
  unfold Tcpip.settle
  split
  · exact h.toDhcp
  · split
    · exact h.toDhcp.selectAcd true
    · split
      · exact h.toDhcp
      · split
        · exact h.selectAcd true
        · split
          · exact h.toDhcp.selectAcd true
          · exact ⟨h.status, h.timeout, h.domainName, h.hostname⟩

/-- A text that was restored is stored and restored as it was. -/
theorem restoreText_restored {text : Bytes} {max : Nat} (hmax : text.length ≤ max)
    {s : CipString} (hs : s = (restoreText true text .empty).2) :
    (restoreText true (s.persisted max) .empty).2 = s := by
  have hwhole : restoreText true text .empty = (true, s) := by
    rw [hs]
    exact Prod.ext (restoreText_works text .empty).1 rfl
  rw [restoreText_true hmax hwhole, hs]

/-- Such an object comes back from the flash as it was stored. -/
theorem holds_store (h : o.Clean) {w : NvWrite} (hw : w ≠ .refused) (nvs : Option NvData) :
    Holds (nvTcpipStore w o nvs).2 o := by
  obtain ⟨domain, hdomain, hd⟩ := h.domainName
  obtain ⟨host, hhost, hh⟩ := h.hostname
  have hdomainText := restoreText_restored hdomain hd
  have hhostText := restoreText_restored hhost hh
  refine ⟨⟨o.toBlob, o.selectAcd, false⟩, ?_, ?_⟩
  · rw [nvTcpipStore_lands hw]
    exact checkBlob_toNvData o
  · have hstatus := h.status
    have htimeout := h.timeout
    obtain ⟨status, cc, ⟨ip, mask, gw, dns, dns2, dom⟩, host', acd, timeout⟩ := o
    dsimp only at hstatus htimeout hdomainText hhostText
    subst hstatus htimeout
    change Restored.object _ = _
    unfold Restored.object
    change CipTcpIpObject.mk 1 cc ⟨ip, mask, gw, dns, dns2,
      (restoreText true (dom.persisted tcpipDomainMaxLen) .empty).2⟩
      (restoreText true (host'.persisted tcpipHostnameMaxLen) .empty).2 acd 120 = _
    rw [hdomainText, hhostText]

/-- A write lands, or leaves what is there. -/
theorem holds_write (h : Holds nvs t) (ho : o.Clean) (w : NvWrite) :
    Holds (nvTcpipStore w o nvs).2 t ∨ Holds (nvTcpipStore w o nvs).2 o := by
  by_cases hw : w = .refused
  · rw [hw]
    exact Or.inl h
  · exact Or.inr (holds_store ho hw nvs)

/-- Where the method is not DHCP, the ACD setting that was loaded does not matter. -/
theorem settle_selectAcd (hd : method o.configControl ≠ kTcpipCfgCtrlDhcp) (hr : ¬Refused o)
    (acd autoIp : Bool) : settle autoIp { o with selectAcd := acd } = settle autoIp o := by
  unfold settle
  rw [if_neg hd, if_neg hd]
  by_cases hm : method o.configControl = kTcpipCfgCtrlStaticIp
  · have hv : ¬cipTcpIpIsValidNetworkConfig o.interfaceConfiguration = false := fun h => hr ⟨hm, h⟩
    rw [if_neg (not_not.2 hm), if_neg (not_not.2 hm), if_neg hv, if_neg hv]
    split
    · rfl
    · split
      · rfl
      · rfl
  · rw [if_pos hm, if_pos hm]
    rfl

/-- Enabling ACD leaves the flash with the object, perhaps with ACD enabled. -/
theorem enableAcd_holds (h : Holds nvs o) (w : NvWrite) :
    ∃ acd, Holds (enableAcd w o nvs).2 { o with selectAcd := acd } := by
  obtain ⟨acd, -, -, hn | hn⟩ := enableAcd_cases w o nvs
  · exact ⟨o.selectAcd, by rw [hn]; exact h⟩
  · rw [hn]
    rcases holds_write h (h.clean.selectAcd acd) w with hold | hnew
    · exact ⟨o.selectAcd, hold⟩
    · exact ⟨acd, hnew⟩

/-- What follows the load leaves in the flash, from an object that is not refused. -/
theorem afterLoad_holds (h : Holds nvs o) (hr : ¬Refused o) (e : BootEnv) :
    ∃ o', Holds (afterLoad e o nvs).2.2 o' ∧
      (Maskless o ∧ e.netifWrite ≠ .refused ∧ o' = settle e.autoIp o ∨
        (Maskless o → e.netifWrite = .refused) ∧ ∀ a, settle a o' = settle a o) := by
  by_cases hd : method o.configControl = kTcpipCfgCtrlDhcp
  · obtain ⟨u, -, hrun⟩ := afterLoad_dhcp hd e nvs
    refine ⟨o, by rw [hrun]; exact h, Or.inr ⟨fun hmask => ?_, fun _ => rfl⟩⟩
    rw [hmask.1] at hd
    exact absurd hd static_ne_dhcp
  obtain ⟨acd, hacd⟩ := enableAcd_holds h e.acdWrite
  have hsame := settle_selectAcd hd hr acd
  by_cases hm : method o.configControl = kTcpipCfgCtrlStaticIp
  swap
  · obtain ⟨u, -, hrun⟩ := afterLoad_other hm hd e nvs
    exact ⟨_, by rw [hrun]; exact hacd, Or.inr ⟨fun hmask => absurd hmask.1 hm, hsame⟩⟩
  have hv : cipTcpIpIsValidNetworkConfig o.interfaceConfiguration = true := by
    by_contra hv
    exact hr ⟨hm, by simpa using hv⟩
  by_cases hmask : o.interfaceConfiguration.networkMask = 0
  swap
  · obtain ⟨s, hrun⟩ := afterLoad_static hm hv hmask e nvs
    exact ⟨_, by rw [hrun]; exact hacd, Or.inr ⟨fun hm' => absurd hm'.2.2 hmask, hsame⟩⟩
  have hmaskless : Maskless o := ⟨hm, hv, hmask⟩
  obtain ⟨n, u, -, -, -, hrun⟩ := afterLoad_noMask hm hv hmask e nvs
  have hu : u = settle e.autoIp o := by
    rw [← afterLoad_object h.clean.status hr e nvs, hrun]
  by_cases hw : e.netifWrite = .refused
  · refine ⟨_, ?_, Or.inr ⟨fun _ => hw, hsame⟩⟩
    rw [hrun, hw]
    exact hacd
  · refine ⟨_, ?_, Or.inl ⟨hmaskless, hw, rfl⟩⟩
    rw [hrun, hu]
    exact holds_store (h.clean.settle _) hw _

/-! ## 4. One boot and the next -/

variable {e e' : BootEnv}

/-- A boot, as the end of a load and what follows it. -/
theorem boot_object (he : e.load.Works) (hr : nvs.bind checkBlob = some r) :
    boot e nvs = afterLoad e (finishLoad e.load r r.object nvs).1
      (finishLoad e.load r r.object nvs).2 := by
  rw [boot_read he.readable hr, restore_object he, if_neg Bool.true_eq_false.mp]

/-- **The object after a boot** is the settled one. -/
theorem boot_settles (he : e.load.Works) (h : Holds nvs o) :
    (boot e nvs).2.1 = settle e.autoIp o := by
  obtain ⟨r, hr, rfl⟩ := h
  have hstatus : (finishLoad e.load r r.object nvs).1.status = 1 := by
    rw [finishLoad_object rfl]
    split
    · rfl
    · rfl
  have hkept : ¬Refused (finishLoad e.load r r.object nvs).1 := by
    rw [finishLoad_object rfl]
    split
    · rintro ⟨hm, -⟩
      have hdhcp : method r.object.toDhcp.configControl = kTcpipCfgCtrlDhcp :=
        method_setMethod_dhcp _
      rw [hdhcp] at hm
      exact absurd hm dhcp_ne_static
    · rename_i hno
      exact hno
  rw [boot_object he hr, afterLoad_object hstatus hkept, settle_finishLoad rfl]

/-- **The flash after a boot**: it holds what settles in the same way, or what was settled, which
takes a configuration without a mask and a write that lands. -/
theorem boot_holds (he : e.load.Works) (h : Holds nvs o) :
    ∃ o', Holds (boot e nvs).2.2 o' ∧
      (Maskless o ∧ e.netifWrite ≠ .refused ∧ o' = settle e.autoIp o ∨
        (Maskless o → e.netifWrite = .refused) ∧ ∀ a, settle a o' = settle a o) := by
  have hclean := h.clean
  obtain ⟨r, hr, rfl⟩ := h
  have hsettle := settle_finishLoad (t := r.object) rfl e.load r nvs
  obtain ⟨-, hflash, -⟩ := finishLoad_cases e.load r r.object nvs
  have hholds : Holds nvs r.object := ⟨r, hr, rfl⟩
  rw [boot_object he hr]
  by_cases hrefused : Refused r.object
  · have hobject : (finishLoad e.load r r.object nvs).1 = r.object.toDhcp := by
      rw [finishLoad_object rfl, if_pos hrefused]
    obtain ⟨u, -, hrun⟩ := afterLoad_dhcp (t := r.object.toDhcp) (method_setMethod_dhcp _) e
      (finishLoad e.load r r.object nvs).2
    have hmask : ¬Maskless r.object := by
      rintro ⟨-, hv, -⟩
      rw [hrefused.2] at hv
      cases hv
    rw [hobject] at hflash hsettle ⊢
    rw [hrun]
    rcases hflash with hn | hn
    · exact ⟨r.object, by rw [hn]; exact hholds, Or.inr ⟨fun hm => absurd hm hmask, fun _ => rfl⟩⟩
    · refine ⟨r.object.toDhcp, ?_, Or.inr ⟨fun hm => absurd hm hmask, hsettle⟩⟩
      rw [hn]
      exact holds_store hclean.toDhcp (w := .ok) (by decide) nvs
  · have hobject : (finishLoad e.load r r.object nvs).1 = r.object := by
      rw [finishLoad_object rfl, if_neg hrefused]
    rw [hobject] at hflash ⊢
    refine afterLoad_holds ?_ hrefused e
    rcases hflash with hn | hn
    · rw [hn]
      exact hholds
    · rw [hn]
      exact holds_store hclean (w := .ok) (by decide) nvs

/-- **Boot normalisation**: a boot ends in DHCP without addresses or in a static configuration in
order, and the next boot ends in the same object, if and only if, for a static configuration that
is valid but has no mask, AutoIP starts, and its outcome is stored or AutoIP starts again. -/
theorem boot_normal_iff (e e' : BootEnv) (he : e.load.Works) (he' : e'.load.Works)
    (nvs : Option NvData) (r : Restored) (hr : nvs.bind checkBlob = some r) :
    (boot e nvs).2.1.Normal ∧ (boot e' (boot e nvs).2.2).2.1 = (boot e nvs).2.1 ↔
      (method r.blob.configControl = kTcpipCfgCtrlStaticIp ∧
          cipTcpIpIsValidNetworkConfig r.blob.addresses = true ∧ r.blob.networkMask = 0 →
        e.autoIp = true ∧ (e.netifWrite ≠ .refused ∨ e'.autoIp = true)) := by
  have hholds : Holds nvs r.object := ⟨r, hr, rfl⟩
  obtain ⟨o', hholds', hcases⟩ := boot_holds he hholds
  rw [boot_settles he hholds, boot_settles he' hholds']
  change _ ↔ (Maskless r.object → _)
  by_cases hmask : Maskless r.object
  swap
  · refine iff_of_true ⟨settle_normal fun h => absurd h hmask, ?_⟩ fun h => absurd h hmask
    rcases hcases with ⟨h, -⟩ | ⟨-, hsame⟩
    · exact absurd h hmask
    · rw [hsame, settle_autoIp hmask]
  cases hauto : e.autoIp with
  | false =>
    constructor
    · rintro ⟨h, -⟩
      exact absurd h (settle_not_normal hmask)
    · intro h
      exact absurd (h hmask).1 (by decide)
  | true =>
    have hnormal : (settle true r.object).Normal := settle_normal fun _ => rfl
    rw [hauto] at hcases
    rcases hcases with ⟨-, hw, rfl⟩ | ⟨hw, hsame⟩
    · exact iff_of_true ⟨hnormal, settle_settle hmask _⟩ fun _ => ⟨rfl, Or.inl hw⟩
    · rw [hsame, hw hmask]
      constructor
      · rintro ⟨-, heq⟩ _
        refine ⟨rfl, Or.inr ?_⟩
        by_contra hauto'
        have hfalse : e'.autoIp = false := by simpa using hauto'
        rw [hfalse] at heq
        exact settle_not_normal hmask (heq ▸ hnormal)
      · intro h
        obtain ⟨-, hno | hauto'⟩ := h hmask
        · exact absurd rfl hno
        · rw [hauto']
          exact ⟨hnormal, rfl⟩

/-! ## 5. Two configurations -/

/-- 192.168.1.5, without a mask. -/
def masklessBlob : TcpipNvBlob where
  configControl := 0
  ipAddress := 0x0501A8C0
  networkMask := 0
  gateway := 0
  nameServer := 0
  nameServer2 := 0
  domainLength := 0
  hostnameLength := 0
  domain := List.replicate 48 0
  hostname := List.replicate 64 0
  domain_size := rfl
  hostname_size := rfl

/-- The same with BOOTP. -/
def bootpBlob : TcpipNvBlob := { masklessBlob with configControl := 1 }

/-- In the old format: a boot makes it DHCP. -/
theorem boot_normal_bootp :
    (boot bootEnv (some (.v1 1 bootpBlob))).2.1.Normal ∧
      (boot bootEnv (boot bootEnv (some (.v1 1 bootpBlob))).2.2).2.1 =
        (boot bootEnv (some (.v1 1 bootpBlob))).2.1 :=
  (boot_normal_iff bootEnv bootEnv loadEnv_works loadEnv_works _ ⟨bootpBlob, false, true⟩ rfl).2
    fun h => absurd h.1 (by decide)

/-- Without AutoIP the address stays, with DHCP, until the next boot. -/
theorem boot_not_normal :
    ¬∀ (e e' : BootEnv) (nvs : Option NvData) (r : Restored), e.load.Works → e'.load.Works →
      nvs.bind checkBlob = some r →
      (boot e nvs).2.1.Normal ∧ (boot e' (boot e nvs).2.2).2.1 = (boot e nvs).2.1 := by
  intro hall
  have hsame := (hall { bootEnv with autoIp := false } bootEnv
    (some (.v2 2 masklessBlob 1)) ⟨masklessBlob, true, false⟩ loadEnv_works loadEnv_works rfl).2
  exact absurd hsame (by decide +kernel)

end GroundTruth.Tcpip
