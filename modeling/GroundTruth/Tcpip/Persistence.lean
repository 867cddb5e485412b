/-
# Settable attributes and the next power cycle

Attributes 3, 5, 6, 10 and 13 are flagged as non-volatile: after a Set_Attribute_Single the
post-set callback stores the object.  What a Get_Attribute_Single answers after the next load is
compared with what the accepted request carried.

* `getAttributeSingle_set`: before the reboot the answer is the value that was set, for every one
  of the five;
* `getAttributeSingle_reboot`: what is left of that answer after the reboot;
* `persistence_iff`: the value is kept, but for attribute 13, which is not in the blob, and for a
  switch to a static configuration that the load then refuses.
-/
import GroundTruth.Lib.Words
import GroundTruth.Tcpip.RoundTrip

namespace GroundTruth.Tcpip

open GroundTruth.Lib

/-! ## 1. Get_Attribute_Single -/

/-- `EncodeCipString`, appended to a message; `none` if it copies from `NULL`.  An odd message is
padded. -/
def encodeCipString (s : CipString) (message : Bytes) : Option Bytes :=
  let message := message ++ le16 (UInt16.ofNat s.length)
  if s.length = 0 then some message
  else
    s.string.map fun data =>
      let message := message ++ data
      if message.length % 2 = 1 then message ++ [0] else message

/-- `EncodeCipTcpIpInterfaceConfiguration`. -/
def encodeCipTcpIpInterfaceConfiguration (c : InterfaceConfiguration) (message : Bytes) :
    Option Bytes :=
  encodeCipString c.domainName (message ++ le32 (ntohl c.ipAddress) ++
    le32 (ntohl c.networkMask) ++ le32 (ntohl c.gateway) ++ le32 (ntohl c.nameServer) ++
    le32 (ntohl c.nameServer2))

/-- The data that `GetAttributeSingle` answers with, for the attributes that can be set:
`EncodeCipDword`, the two encoders above, `EncodeCipBool` and `EncodeCipUint`. -/
def getAttributeSingle (attributeNumber : Nat) (t : CipTcpIpObject) : Option Bytes :=
  match attributeNumber with
  | 3 => some (le32 t.configControl)
  | 5 => encodeCipTcpIpInterfaceConfiguration t.interfaceConfiguration []
  | 6 => encodeCipString t.hostname []
  | 10 => some [if t.selectAcd = true then 1 else 0]
  | 13 => some (le16 t.encapsulationInactivityTimeout)
  | _ => none

/-! ## 2. The value in a request -/

/-- An odd message gets one more byte. -/
def padded (message : Bytes) : Bytes :=
  if message.length % 2 = 1 then message ++ [0] else message

/-- The octets that a request carries for its attribute, as a response has them. -/
def SetRequest.value (r : SetRequest) : Bytes :=
  match r.attributeNumber with
  | 3 => r.octets 0 4
  | 5 => padded (r.octets 0 (22 + (r.uint 20).toNat))
  | 6 => padded (r.octets 0 (2 + (r.uint 0).toNat))
  | 10 => r.octets 0 1
  | 13 => r.octets 0 2
  | _ => []

variable {r : SetRequest} {t : CipTcpIpObject} {nvs : Option NvData}

@[simp] theorem SetRequest.length_octets (r : SetRequest) (off n : Nat) :
    (r.octets off n).length = n := by
  simp [SetRequest.octets]

theorem SetRequest.octets_add (r : SetRequest) (off m n : Nat) :
    r.octets off (m + n) = r.octets off m ++ r.octets (off + m) n := by
  simp only [SetRequest.octets, List.range_add, List.map_append, List.map_map]
  congr 2
  funext i
  simp [Nat.add_assoc]

theorem SetRequest.le16_uint (r : SetRequest) (off : Nat) : le16 (r.uint off) = r.octets off 2 := by
  rw [SetRequest.uint, le16_glue]
  rfl

theorem SetRequest.le32_udint (r : SetRequest) (off : Nat) :
    le32 (r.udint off) = r.octets off 4 := by
  have hglue : r.udint off =
      glue32 (r.data off) (r.data (off + 1)) (r.data (off + 2)) (r.data (off + 3)) := rfl
  rw [hglue, le32_glue32]
  rfl

/-- The four bytes reversed twice. -/
theorem ntohl_ntohl (a : UInt32) : ntohl (ntohl a) = a := by
  rw [← UInt32.toBitVec_inj]
  apply BitVec.eq_of_getLsbD_eq
  intro i hi
  simp [ntohl]
  interval_cases i <;> simp

/-- A string set from octets of the request is encoded as its length and these octets. -/
theorem encodeCipString_set {s : CipString} {data : Bytes} {message : Bytes} {v : UInt16}
    (hs : s.text = (data.length, data)) (hv : data.length = v.toNat)
    (heven : message.length % 2 = 0) :
    encodeCipString s message = some (padded (message ++ le16 v ++ data)) := by
  have hlen : s.length = data.length := congrArg Prod.fst hs
  have hdata : s.string.getD [] = data := congrArg Prod.snd hs
  have hv' : UInt16.ofNat s.length = v := by
    rw [hlen, hv, UInt16.ofNat_toNat]
  unfold encodeCipString
  dsimp only
  rw [hv']
  by_cases h0 : s.length = 0
  · have hnil : data = [] := List.eq_nil_of_length_eq_zero (by omega)
    rw [if_pos h0, hnil, List.append_nil, padded, if_neg]
    simp only [List.length_append, le16_length]
    omega
  · rw [if_neg h0]
    cases hstr : s.string with
    | none =>
      rw [hstr, Option.getD_none] at hdata
      rw [← hdata] at hlen
      exact absurd hlen h0
    | some d =>
      rw [hstr, Option.getD_some] at hdata
      rw [hdata]
      rfl

/-- A host name with the octets of a request is answered with them. -/
theorem encode_hostname {s : CipString}
    (hs : s.text = ((r.octets 2 (r.uint 0).toNat).length, r.octets 2 (r.uint 0).toNat)) :
    encodeCipString s [] = some (padded (r.octets 0 (2 + (r.uint 0).toNat))) := by
  rw [encodeCipString_set hs (r.length_octets 2 _) rfl, List.nil_append, SetRequest.le16_uint,
    SetRequest.octets_add]

/-- A configuration with the octets of a request is answered with them. -/
theorem encode_configuration {c : InterfaceConfiguration}
    (haddr : c.addresses = ⟨ntohl (r.udint 0), ntohl (r.udint 4), ntohl (r.udint 8),
      ntohl (r.udint 12), ntohl (r.udint 16), .empty⟩)
    (hs : c.domainName.text =
      ((r.octets 22 (r.uint 20).toNat).length, r.octets 22 (r.uint 20).toNat)) :
    encodeCipTcpIpInterfaceConfiguration c [] =
      some (padded (r.octets 0 (22 + (r.uint 20).toNat))) := by
  simp only [InterfaceConfiguration.addresses, InterfaceConfiguration.mk.injEq, and_true] at haddr
  obtain ⟨hip, hmask, hgw, hdns, hdns2⟩ := haddr
  have hsplit : r.octets 0 22 = r.octets 0 4 ++ r.octets 4 4 ++ r.octets 8 4 ++
      r.octets 12 4 ++ r.octets 16 4 ++ r.octets 20 2 := by
    rw [r.octets_add 0 20 2, r.octets_add 0 16 4, r.octets_add 0 12 4, r.octets_add 0 8 4,
      r.octets_add 0 4 4]
  rw [encodeCipTcpIpInterfaceConfiguration, hip, hmask, hgw, hdns, hdns2]
  simp only [ntohl_ntohl, List.nil_append, SetRequest.le32_udint]
  rw [encodeCipString_set hs (r.length_octets 22 _) (by simp), SetRequest.le16_uint,
    SetRequest.octets_add, hsplit]

/-- The text of a string that is set from octets. -/
theorem setCipStringByData_text {alloc : Bool} {data : Bytes}
    (h : (setCipStringByData alloc data .empty).1 ≠ false) :
    (setCipStringByData alloc data .empty).2.text = (data.length, data) := by
  unfold setCipStringByData at h ⊢
  split at h
  · rename_i hnil
    rw [if_pos hnil, hnil]
    rfl
  · rename_i hne
    rw [if_neg hne]
    split at h
    · exact absurd rfl h
    · rename_i halloc
      rw [if_neg halloc]
      rfl

/-! ## 3. What an accepted request sets -/

/-- The bits that attribute 3 may have are the method. -/
theorem configControl_accepted {received : UInt32}
    (h : received &&& ~~~kTcpipCfgCtrlMethodMask = 0) :
    received &&& (kTcpipCfgCtrlMethodMask ||| kTcpipCfgCtrlDnsEnable) = received := by
  have hmethod : method received = received := by
    conv_rhs => rw [← setMethod_method received, setMethod, h, UInt32.zero_or]
  rw [← hmethod, method, UInt32.and_assoc]
  rfl

theorem control_success (h : (decodeTcpIpInterfaceConfigurationControl r t).1 = .success) :
    (decodeTcpIpInterfaceConfigurationControl r t).2 =
      { t with configControl := r.udint 0 } := by
  unfold decodeTcpIpInterfaceConfigurationControl at h ⊢
  dsimp only at h ⊢
  split at h
  · cases h
  · rename_i hok
    rw [not_or, not_not] at hok
    rw [if_neg (by rw [not_or, not_not]; exact hok), configControl_accepted hok.2]

theorem configuration_success (h : (decodeCipTcpIpInterfaceConfiguration r t).1 = .success) :
    ∃ u, (decodeCipTcpIpInterfaceConfiguration r t).2 = u ∧
      method u.configControl = kTcpipCfgCtrlStaticIp ∧
      cipTcpIpIsValidNetworkConfig u.interfaceConfiguration = true ∧
      u.interfaceConfiguration.addresses =
        ⟨ntohl (r.udint 0), ntohl (r.udint 4), ntohl (r.udint 8), ntohl (r.udint 12),
          ntohl (r.udint 16), .empty⟩ ∧
      (r.uint 20).toNat ≤ tcpipDomainMaxLen ∧
      u.interfaceConfiguration.domainName.text =
        ((r.octets 22 (r.uint 20).toNat).length, r.octets 22 (r.uint 20).toNat) := by
  unfold decodeCipTcpIpInterfaceConfiguration at h ⊢
  dsimp only at h ⊢
  split at h
  · cases h
  · rename_i hlen
    split at h
    · cases h
    · rename_i hset
      split at h
      · cases h
      · rename_i hok
        rw [if_neg hlen, if_neg hset, if_neg hok]
        rw [not_or] at hok
        refine ⟨_, rfl, ?_, ?_, rfl, Nat.le_of_not_lt hlen, setCipStringByData_text hset⟩
        · dsimp only
          split
          · exact method_setMethod rfl _
          · rename_i hm
            exact (not_not.1 hm).symm
        · simpa using hok.1

theorem hostname_success (h : (decodeCipTcpIpInterfaceHostName r t).1 = .success) :
    (r.uint 0).toNat ≤ tcpipHostnameMaxLen ∧
      (decodeCipTcpIpInterfaceHostName r t).2.hostname.text =
        ((r.octets 2 (r.uint 0).toNat).length, r.octets 2 (r.uint 0).toNat) := by
  unfold decodeCipTcpIpInterfaceHostName at h ⊢
  dsimp only at h ⊢
  split at h
  · cases h
  · rename_i hlen
    split at h
    · cases h
    · rename_i hset
      split at h
      · cases h
      · rename_i hok
        rw [if_neg hlen, if_neg hset, if_neg hok]
        exact ⟨Nat.le_of_not_lt hlen, setCipStringByData_text hset⟩

theorem selectAcd_success (h : (decodeTcpIpSelectAcd r t).1 = .success) :
    (if (decodeTcpIpSelectAcd r t).2.selectAcd = true then (1 : UInt8) else 0) = r.data 0 := by
  obtain ⟨hsize, hdata⟩ := decodeTcpIpSelectAcd_success.1 h
  unfold decodeTcpIpSelectAcd
  rw [if_neg (Nat.not_lt.2 hsize)]
  dsimp only
  rw [if_neg (UInt8.not_lt.2 hdata)]
  have hcases : r.data 0 = 0 ∨ r.data 0 = 1 := by
    have hle := UInt8.le_iff_toNat_le.1 hdata
    rw [← UInt8.toNat_inj, ← UInt8.toNat_inj]
    simp at hle ⊢
    omega
  rcases hcases with h0 | h1
  · rw [h0]
    rfl
  · rw [h1]
    rfl

theorem timeout_success
    (h : (decodeCipTcpIpInterfaceEncapsulationInactivityTimeout r t).1 = .success) :
    (decodeCipTcpIpInterfaceEncapsulationInactivityTimeout r t).2 =
      { t with encapsulationInactivityTimeout := r.uint 0 } := by
  unfold decodeCipTcpIpInterfaceEncapsulationInactivityTimeout at h ⊢
  dsimp only at h ⊢
  split at h
  · cases h
  · rename_i hok
    rw [if_neg hok]

/-- **Before the reboot** the answer is the value that was set. -/
theorem getAttributeSingle_set (h : (setAttributeSingle r t nvs).1 = .success) :
    getAttributeSingle r.attributeNumber (setAttributeSingle r t nvs).2.1 = some r.value := by
  unfold setAttributeSingle at h ⊢
  cases hd : decoder r.attributeNumber with
  | none =>
    simp only [hd, notSettable] at h
    split at h <;> cases h
  | some decode =>
    simp only [hd] at h ⊢
    unfold decoder at hd
    split at hd
    · rename_i h3
      obtain rfl := Option.some.inj hd
      rw [control_success h, h3, getAttributeSingle, SetRequest.value, h3]
      exact congrArg some (r.le32_udint 0)
    · rename_i h5
      obtain rfl := Option.some.inj hd
      obtain ⟨u, hu, -, -, haddr, hlen, htext⟩ := configuration_success h
      rw [hu, h5, getAttributeSingle, SetRequest.value, h5]
      exact encode_configuration haddr htext
    · rename_i h6
      obtain rfl := Option.some.inj hd
      obtain ⟨hlen, htext⟩ := hostname_success h
      rw [h6, getAttributeSingle, SetRequest.value, h6]
      exact encode_hostname htext
    · rename_i h10
      obtain rfl := Option.some.inj hd
      rw [h10, getAttributeSingle, SetRequest.value, h10, selectAcd_success h]
      rfl
    · rename_i h13
      obtain rfl := Option.some.inj hd
      rw [timeout_success h, h13, getAttributeSingle, SetRequest.value, h13]
      exact congrArg some (r.le16_uint 0)
    · cases hd

/-! ## 4. After the reboot -/

variable {e : LoadEnv}

/-- The end of a load leaves the ACD setting and the timeout. -/
theorem finishLoad_keeps (e : LoadEnv) (r : Restored) (t : CipTcpIpObject)
    (nvs : Option NvData) :
    (finishLoad e r t nvs).1.selectAcd = t.selectAcd ∧
      (finishLoad e r t nvs).1.encapsulationInactivityTimeout =
        t.encapsulationInactivityTimeout := by
  unfold finishLoad
  dsimp only
  split
  · exact ⟨rfl, rfl⟩
  · exact ⟨rfl, rfl⟩

/-- The configuration of a stored object, after the load: a static one that does not pass the check
becomes DHCP, and any other is what it was. -/
def Reloaded (t u : CipTcpIpObject) : Prop :=
  method t.configControl = kTcpipCfgCtrlStaticIp ∧
      cipTcpIpIsValidNetworkConfig t.interfaceConfiguration = false ∧
      method u.configControl = kTcpipCfgCtrlDhcp ∨
    (method t.configControl = kTcpipCfgCtrlStaticIp →
        cipTcpIpIsValidNetworkConfig t.interfaceConfiguration = true) ∧
      u.configControl = t.configControl ∧
      u.interfaceConfiguration.addresses = t.interfaceConfiguration.addresses ∧
      u.interfaceConfiguration.domainName = (restoreText true t.toBlob.domainText .empty).2

/-- What the load at the next boot makes of a stored object.  The timeout is not stored. -/
theorem load_toNvData (he : e.Works) (t : CipTcpIpObject) :
    ∃ u, (nvTcpipLoad e .default (some t.toNvData)).2.1 = u ∧
      u.selectAcd = t.selectAcd ∧
      u.encapsulationInactivityTimeout = CipTcpIpObject.default.encapsulationInactivityTimeout ∧
      u.hostname = (restoreText true t.toBlob.hostnameText .empty).2 ∧ Reloaded t u := by
  obtain ⟨v, hrestore, hcc, hsel, htimeout, haddr, hdomain, hhostname⟩ :=
    restore_works he ⟨t.toBlob, t.selectAcd, false⟩ .default
  have hload : (nvTcpipLoad e .default (some t.toNvData)).2.1 =
      (finishLoad e ⟨t.toBlob, t.selectAcd, false⟩ v (some t.toNvData)).1 := by
    rw [nvTcpipLoad, if_neg (by simp [he.readable]), Option.bind_some, checkBlob_toNvData]
    dsimp only
    rw [hrestore, if_neg Bool.true_eq_false.mp]
  have hkept := finishLoad_keeps e ⟨t.toBlob, t.selectAcd, false⟩ v (some t.toNvData)
  obtain ⟨hh, -, hcases⟩ := finishLoad_cases e ⟨t.toBlob, t.selectAcd, false⟩ v (some t.toNvData)
  have hsame : cipTcpIpIsValidNetworkConfig v.interfaceConfiguration =
      cipTcpIpIsValidNetworkConfig t.interfaceConfiguration := by
    have hvalid := congrArg cipTcpIpIsValidNetworkConfig haddr
    exact hvalid
  refine ⟨_, hload, hkept.1.trans hsel, hkept.2.trans htimeout, hh.trans hhostname, ?_⟩
  rcases hcases with ⟨hm, hv, hdhcp, -⟩ | ⟨hv, hcc', hc'⟩
  · left
    rw [hcc] at hm
    rw [hsame] at hv
    exact ⟨hm, hv, hdhcp⟩
  · right
    rw [hcc, hsame] at hv
    rw [hcc', hc']
    exact ⟨hv, hcc, haddr, hdomain⟩

/-- A text that was set comes back as it was. -/
theorem restoreText_persisted {s : CipString} {data : Bytes} {max : Nat}
    (hs : s.text = (data.length, data)) (hmax : data.length ≤ max) :
    (restoreText true (s.persisted max) .empty).2.text = (data.length, data) := by
  have hlen : s.length = data.length := congrArg Prod.fst hs
  have hdata : s.string.getD [] = data := congrArg Prod.snd hs
  have hfits := (storedText_fits (hlen.trans_le hmax) (CipString.string_of_text hs)).1
  rw [hfits, hdata]
  exact (restoreText_works data .empty).2.2 fun _ _ => rfl

/-- What an accepted request has to meet for its value to survive. -/
def SetRequest.Survives (r : SetRequest) (t : CipTcpIpObject) : Prop :=
  (r.attributeNumber = 3 → method (r.udint 0) = kTcpipCfgCtrlStaticIp →
      cipTcpIpIsValidNetworkConfig t.interfaceConfiguration = true) ∧
    (r.attributeNumber = 13 → r.uint 0 = 120)

instance SetRequest.decidableSurvives (r : SetRequest) (t : CipTcpIpObject) :
    Decidable (r.Survives t) := inferInstanceAs (Decidable (_ ∧ _))

/-! ## 5. Persistence -/

/-- Attribute 3 survives unless the method set is static and the addresses do not pass. -/
theorem persistence_control {u v : CipTcpIpObject} (h3 : r.attributeNumber = 3)
    (hv : v = { t with configControl := r.udint 0 }) (hreloaded : Reloaded v u) :
    getAttributeSingle r.attributeNumber u = some r.value ↔ r.Survives t := by
  have hvalue : r.value = le32 (r.udint 0) := by
    simp only [SetRequest.value, h3, SetRequest.le32_udint]
  rw [h3, getAttributeSingle, hvalue, Option.some.injEq, SetRequest.Survives, h3]
  subst hv
  rcases hreloaded with ⟨hm, hinvalid, hdhcp⟩ | ⟨hvalid, hcc, -⟩
  · constructor
    · intro h
      rw [le32_injective h] at hdhcp
      rw [hdhcp] at hm
      exact absurd hm dhcp_ne_static
    · rintro ⟨h, -⟩
      rw [hinvalid] at h
      exact absurd (h rfl hm) (by decide)
  · constructor
    · intro _
      exact ⟨fun _ => hvalid, fun h => by omega⟩
    · intro _
      rw [hcc]

/-- The configuration of attribute 5 passes the check again, and its domain name comes back. -/
theorem persistence_configuration {u v : CipTcpIpObject}
    (hok : (decodeCipTcpIpInterfaceConfiguration r t).1 = .success)
    (hv : (decodeCipTcpIpInterfaceConfiguration r t).2 = v) (hreloaded : Reloaded v u) :
    encodeCipTcpIpInterfaceConfiguration u.interfaceConfiguration [] =
      some (padded (r.octets 0 (22 + (r.uint 20).toNat))) := by
  obtain ⟨w, hw, hm, hvalid, haddr, hlen, htext⟩ := configuration_success hok
  obtain rfl : w = v := hw.symm.trans hv
  have hmax : (r.octets 22 (r.uint 20).toNat).length ≤ tcpipDomainMaxLen := by
    rw [SetRequest.length_octets]
    exact hlen
  rcases hreloaded with ⟨-, hno, -⟩ | ⟨-, -, haddr', hdomain⟩
  · rw [hvalid] at hno
    cases hno
  · refine encode_configuration (haddr'.trans haddr) ?_
    rw [hdomain]
    exact restoreText_persisted htext hmax

/-- The host name of attribute 6 comes back. -/
theorem persistence_hostname {u : CipTcpIpObject}
    (hok : (decodeCipTcpIpInterfaceHostName r t).1 = .success)
    (hu : u.hostname =
      (restoreText true (decodeCipTcpIpInterfaceHostName r t).2.toBlob.hostnameText .empty).2) :
    encodeCipString u.hostname [] = some (padded (r.octets 0 (2 + (r.uint 0).toNat))) := by
  obtain ⟨hlen, htext⟩ := hostname_success hok
  have hmax : (r.octets 2 (r.uint 0).toNat).length ≤ tcpipHostnameMaxLen := by
    rw [SetRequest.length_octets]
    exact hlen
  refine encode_hostname ?_
  rw [hu]
  exact restoreText_persisted htext hmax

/-- The other attributes have nothing to meet. -/
theorem SetRequest.survives_of_ne (h3 : r.attributeNumber ≠ 3) (h13 : r.attributeNumber ≠ 13) :
    r.Survives t := ⟨fun h => absurd h h3, fun h => absurd h h13⟩

/-- **Persistence**: an accepted value whose store lands is what Get_Attribute_Single answers
after a reboot, if and only if the request survives. -/
theorem persistence_iff (e : LoadEnv) (he : e.Works) (r : SetRequest) (hw : r.write ≠ .refused)
    (t : CipTcpIpObject) (nvs : Option NvData)
    (hok : (setAttributeSingle r t nvs).1 = .success) :
    getAttributeSingle r.attributeNumber
        (nvTcpipLoad e .default (setAttributeSingle r t nvs).2.2).2.1 = some r.value ↔
      r.Survives t := by
  have hset := getAttributeSingle_set hok
  have hd : decoder r.attributeNumber ≠ none := by
    intro hnone
    simp only [setAttributeSingle, hnone, notSettable] at hok
    split at hok <;> cases hok
  rw [setAttributeSingle_lands hd hw]
  obtain ⟨u, hu, hacd, htimeout, hhostname, hreloaded⟩ :=
    load_toNvData he (setAttributeSingle r t nvs).2.1
  rw [hu]
  unfold setAttributeSingle at hok hset hacd hhostname hreloaded
  cases hdec : decoder r.attributeNumber with
  | none => exact absurd hdec hd
  | some decode =>
    simp only [hdec] at hok hset hacd hhostname hreloaded
    unfold decoder at hdec
    split at hdec
    · rename_i h3
      obtain rfl := Option.some.inj hdec
      exact persistence_control h3 (control_success hok) hreloaded
    · rename_i h5
      obtain rfl := Option.some.inj hdec
      refine iff_of_true ?_ (SetRequest.survives_of_ne (by omega) (by omega))
      simp only [SetRequest.value, h5, getAttributeSingle]
      exact persistence_configuration hok rfl hreloaded
    · rename_i h6
      obtain rfl := Option.some.inj hdec
      refine iff_of_true ?_ (SetRequest.survives_of_ne (by omega) (by omega))
      simp only [SetRequest.value, h6, getAttributeSingle]
      exact persistence_hostname hok hhostname
    · rename_i h10
      refine iff_of_true ?_ (SetRequest.survives_of_ne (by omega) (by omega))
      rw [h10, getAttributeSingle, hacd]
      rw [h10, getAttributeSingle] at hset
      exact hset
    · rename_i h13
      have hvalue : r.value = le16 (r.uint 0) := by
        simp only [SetRequest.value, h13, SetRequest.le16_uint]
      rw [h13, getAttributeSingle, hvalue, htimeout, Option.some.injEq]
      constructor
      · intro h
        refine ⟨fun h3 => ?_, fun _ => (le16_injective h).symm⟩
        omega
      · rintro ⟨-, h⟩
        rw [h h13]
        rfl
    · cases hdec

/-- A request for an attribute, with these octets. -/
def request (attributeNumber : Nat) (octets : Bytes) : SetRequest :=
  ⟨attributeNumber, octets.length, fun i => octets.getD i 0, true, .ok, .ok⟩

/-- The host name `eip` is kept. -/
theorem persistence_hostname_kept :
    getAttributeSingle 6 (nvTcpipLoad loadEnv .default
        (setAttributeSingle (request 6 [3, 0, 0x65, 0x69, 0x70]) .default none).2.2).2.1 =
      some [3, 0, 0x65, 0x69, 0x70, 0] :=
  (persistence_iff loadEnv loadEnv_works (request 6 [3, 0, 0x65, 0x69, 0x70]) (by decide)
    .default none (by decide)).2 (by decide)

/-- A timeout of 60 seconds is not: the answer after the reboot is 120. -/
theorem persistence_timeout_lost :
    ¬∀ (r : SetRequest) (t : CipTcpIpObject) (nvs : Option NvData),
      r.write ≠ .refused → (setAttributeSingle r t nvs).1 = .success →
      getAttributeSingle r.attributeNumber
        (nvTcpipLoad loadEnv .default (setAttributeSingle r t nvs).2.2).2.1 = some r.value := by
  intro hall
  have hsame := hall (request 13 [60, 0]) .default none (by decide) (by decide)
  exact absurd hsame (by decide)

end GroundTruth.Tcpip
