/-
# `SetAttributeSingle` on the TCP/IP object

Attributes 3, 5, 6, 10 and 13 can be set.  Each has a decoder, which writes to the object when it
accepts; after the decoder, whatever it answered, the post-set callback stores the whole object.

A decoder reads from a pointer and does not look at the size of the data, attribute 10 excepted:
`data` is what the memory holds from that pointer on.  That an I/O connection is active is only
logged, and is left out.

* `decode_persisted`: a decoder changes no field that it is not asked to set, and none at all
  when it refuses;
* `setAttributeSingle_stored_iff`: when a request keeps a stored field that it does not set.
-/
import GroundTruth.Lib.CString
import GroundTruth.Tcpip.Nv

namespace GroundTruth.Tcpip

open GroundTruth.Lib

/-! ## 1. Requests -/

/-- The general status of the response. -/
inductive GeneralStatus
  | success
  | invalidAttributeValue
  | notEnoughData
  | tooMuchData
  | attributeNotSetable
  | attributeNotSupported
  deriving DecidableEq, Repr

/-- A Set_Attribute_Single request for the object, and what the heap and the flash will do. -/
structure SetRequest where
  attributeNumber : Nat
  /-- `request_data_size` -/
  size : Nat
  /-- what the memory holds, from the data of the request on -/
  data : Nat → UInt8
  alloc : Bool
  /-- the write that the decoder of attribute 10 makes -/
  decodeWrite : NvWrite
  /-- the write of the post-set callback -/
  write : NvWrite

/-- `GetUintFromMessage`, at an offset. -/
def SetRequest.uint (r : SetRequest) (off : Nat) : UInt16 := glue (r.data (off + 1)) (r.data off)

/-- `GetUdintFromMessage`, at an offset. -/
def SetRequest.udint (r : SetRequest) (off : Nat) : UInt32 :=
  (r.data off).toUInt32 ||| ((r.data (off + 1)).toUInt32 <<< 8) |||
    ((r.data (off + 2)).toUInt32 <<< 16) ||| ((r.data (off + 3)).toUInt32 <<< 24)

/-- So many octets, from an offset. -/
def SetRequest.octets (r : SetRequest) (off n : Nat) : Bytes :=
  (List.range n).map fun i => r.data (off + i)

/-! ## 2. Decoders -/

def kTcpipMaxDomainLength : Nat := 48
def kTcpipMaxHostnameLength : Nat := 64

/-- `DecodeTcpIpInterfaceConfigurationControl`, attribute 3. -/
def decodeTcpIpInterfaceConfigurationControl (r : SetRequest) (t : CipTcpIpObject) :
    GeneralStatus × CipTcpIpObject :=
  let received := r.udint 0
  if 3 ≤ received &&& kTcpipCfgCtrlMethodMask ∨ received &&& ~~~kTcpipCfgCtrlMethodMask ≠ 0 then
    (.invalidAttributeValue, t)
  else
    (.success, { t with
      configControl := received &&& (kTcpipCfgCtrlMethodMask ||| kTcpipCfgCtrlDnsEnable) })

/-- A name is checked unless it is empty, as the string that its octets begin with. -/
def validName (octets : Bytes) : Bool := octets = [] || isValidDomain (cstr octets)

/-- `DecodeCipTcpIpInterfaceConfiguration`, attribute 5. -/
def decodeCipTcpIpInterfaceConfiguration (r : SetRequest) (t : CipTcpIpObject) :
    GeneralStatus × CipTcpIpObject :=
  let switchToStatic := kTcpipCfgCtrlStaticIp ≠ method t.configControl
  let domainNameLength := (r.uint 20).toNat
  if kTcpipMaxDomainLength < domainNameLength then (.tooMuchData, t)
  else
    let octets := r.octets 22 domainNameLength
    let domainName := setCipStringByData r.alloc octets .empty
    if domainName.1 = false then (.notEnoughData, t)
    else
      let ifCfg : InterfaceConfiguration :=
        { ipAddress := ntohl (r.udint 0)
          networkMask := ntohl (r.udint 4)
          gateway := ntohl (r.udint 8)
          nameServer := ntohl (r.udint 12)
          nameServer2 := ntohl (r.udint 16)
          domainName := domainName.2 }
      if cipTcpIpIsValidNetworkConfig ifCfg = false ∨ validName octets = false then
        (.invalidAttributeValue, t)
      else
        (.success, { t with
          configControl :=
            if switchToStatic then setMethod kTcpipCfgCtrlStaticIp t.configControl
            else t.configControl
          interfaceConfiguration := ifCfg
          status := t.status ||| kTcpipStatusIfaceCfgPend })

/-- `DecodeCipTcpIpInterfaceHostName`, attribute 6. -/
def decodeCipTcpIpInterfaceHostName (r : SetRequest) (t : CipTcpIpObject) :
    GeneralStatus × CipTcpIpObject :=
  let hostNameLength := (r.uint 0).toNat
  if kTcpipMaxHostnameLength < hostNameLength then (.tooMuchData, t)
  else
    let octets := r.octets 2 hostNameLength
    let tmpHostName := setCipStringByData r.alloc octets .empty
    if tmpHostName.1 = false then (.notEnoughData, t)
    else if validName octets = false then (.invalidAttributeValue, t)
    else
      (.success, { t with
        hostname := tmpHostName.2
        status := t.status ||| kTcpipStatusIfaceCfgPend })

/-- `DecodeTcpIpSelectAcd`, attribute 10, but for its store. -/
def decodeTcpIpSelectAcd (r : SetRequest) (t : CipTcpIpObject) : GeneralStatus × CipTcpIpObject :=
  if r.size < 1 then (.notEnoughData, t)
  else
    let selection := r.data 0
    if 1 < selection then (.invalidAttributeValue, t)
    else (.success, { t with selectAcd := selection ≠ 0, status := clearAcdStatus t.status })

/-- `DecodeCipTcpIpInterfaceEncapsulationInactivityTimeout`, attribute 13. -/
def decodeCipTcpIpInterfaceEncapsulationInactivityTimeout (r : SetRequest) (t : CipTcpIpObject) :
    GeneralStatus × CipTcpIpObject :=
  let received := r.uint 0
  if 3600 < received then (.invalidAttributeValue, t)
  else (.success, { t with encapsulationInactivityTimeout := received })

/-- The decoder of an attribute that can be set. -/
def decoder : Nat → Option (SetRequest → CipTcpIpObject → GeneralStatus × CipTcpIpObject)
  | 3 => some decodeTcpIpInterfaceConfigurationControl
  | 5 => some decodeCipTcpIpInterfaceConfiguration
  | 6 => some decodeCipTcpIpInterfaceHostName
  | 10 => some decodeTcpIpSelectAcd
  | 13 => some decodeCipTcpIpInterfaceEncapsulationInactivityTimeout
  | _ => none

/-- The answer for an attribute without a decoder.  Attributes 7 and 12 are dummies. -/
def notSettable (attributeNumber : Nat) : GeneralStatus :=
  if attributeNumber ∈ [1, 2, 4, 8, 9, 11] then .attributeNotSetable else .attributeNotSupported

/-- What the decoder has stored by itself: attribute 10 stores what it accepts. -/
def decodeStore (r : SetRequest) (status : GeneralStatus) (t : CipTcpIpObject)
    (nvs : Option NvData) : Option NvData :=
  if r.attributeNumber = 10 ∧ status = .success then (nvTcpipStore r.decodeWrite t nvs).2 else nvs

/-- `SetAttributeSingle`, with `NvTcpipSetCallback` after the decoder. -/
def setAttributeSingle (r : SetRequest) (t : CipTcpIpObject) (nvs : Option NvData) :
    GeneralStatus × CipTcpIpObject × Option NvData :=
  match decoder r.attributeNumber with
  | none => (notSettable r.attributeNumber, t, nvs)
  | some decode =>
    let (status, t) := decode r t
    (status, t, (nvTcpipStore r.write t (decodeStore r status t nvs)).2)

/-- The fields that a request sets when it is accepted. -/
def SetRequest.sets (r : SetRequest) (F : Field) : Prop :=
  (r.attributeNumber = 5 ∧ F ≠ .hostname) ∨ (r.attributeNumber = 6 ∧ F = .hostname)

instance SetRequest.decidableSets (r : SetRequest) (F : Field) : Decidable (r.sets F) :=
  inferInstanceAs (Decidable (_ ∨ _))

/-! ## 3. What a request leaves alone -/

variable {r : SetRequest} {t : CipTcpIpObject} {nvs : Option NvData} {F : Field}
  {decode : SetRequest → CipTcpIpObject → GeneralStatus × CipTcpIpObject}

/-- What any decoder does: it refuses and leaves the object as it was, or it accepts and writes
to the object what `update` says. -/
def Decodes (t : CipTcpIpObject) (update : CipTcpIpObject → Prop)
    (out : GeneralStatus × CipTcpIpObject) : Prop :=
  (out.1 ≠ .success ∧ out.2 = t) ∨ (out.1 = .success ∧ update out.2)

theorem Decodes.refuse {P : CipTcpIpObject → Prop} {status : GeneralStatus}
    (hs : status ≠ .success) : Decodes t P (status, t) := Or.inl ⟨hs, rfl⟩

theorem Decodes.accept {P : CipTcpIpObject → Prop} {u : CipTcpIpObject} (hu : P u) :
    Decodes t P (.success, u) := Or.inr ⟨rfl, hu⟩

theorem Decodes.mono {P Q : CipTcpIpObject → Prop} {out : GeneralStatus × CipTcpIpObject}
    (h : Decodes t P out) (hPQ : ∀ u, P u → Q u) : Decodes t Q out := by
  rcases h with h | ⟨hs, hp⟩
  · exact Or.inl h
  · exact Or.inr ⟨hs, hPQ _ hp⟩

/-- What holds before, and of whatever an accepted request leaves, holds after. -/
theorem Decodes.holds {P Q : CipTcpIpObject → Prop} {out : GeneralStatus × CipTcpIpObject}
    (h : Decodes t P out) (ht : Q t) (hPQ : ∀ u, P u → Q u) : Q out.2 := by
  rcases h with ⟨-, hsame⟩ | ⟨-, hp⟩
  · rwa [hsame]
  · exact hPQ _ hp

theorem decodes_control : Decodes t
    (fun u => u.interfaceConfiguration = t.interfaceConfiguration ∧ u.hostname = t.hostname)
    (decodeTcpIpInterfaceConfigurationControl r t) := by
  unfold decodeTcpIpInterfaceConfigurationControl
  dsimp only
  split
  · exact .refuse (by decide)
  · exact .accept ⟨rfl, rfl⟩

theorem decodes_configuration : Decodes t
    (fun u => u.hostname = t.hostname ∧ ∃ data, u.interfaceConfiguration.domainName =
      (setCipStringByData r.alloc data .empty).2)
    (decodeCipTcpIpInterfaceConfiguration r t) := by
  unfold decodeCipTcpIpInterfaceConfiguration
  dsimp only
  split
  · exact .refuse (by decide)
  · split
    · exact .refuse (by decide)
    · split
      · exact .refuse (by decide)
      · exact .accept ⟨rfl, _, rfl⟩

theorem decodes_hostname : Decodes t
    (fun u => u.interfaceConfiguration = t.interfaceConfiguration ∧
      ∃ data, u.hostname = (setCipStringByData r.alloc data .empty).2)
    (decodeCipTcpIpInterfaceHostName r t) := by
  unfold decodeCipTcpIpInterfaceHostName
  dsimp only
  split
  · exact .refuse (by decide)
  · split
    · exact .refuse (by decide)
    · split
      · exact .refuse (by decide)
      · exact .accept ⟨rfl, _, rfl⟩

theorem decodes_selectAcd : Decodes t
    (fun u => u.interfaceConfiguration = t.interfaceConfiguration ∧ u.hostname = t.hostname)
    (decodeTcpIpSelectAcd r t) := by
  unfold decodeTcpIpSelectAcd
  dsimp only
  split
  · exact .refuse (by decide)
  · split
    · exact .refuse (by decide)
    · exact .accept ⟨rfl, rfl⟩

theorem decodes_timeout : Decodes t
    (fun u => u.interfaceConfiguration = t.interfaceConfiguration ∧ u.hostname = t.hostname)
    (decodeCipTcpIpInterfaceEncapsulationInactivityTimeout r t) := by
  unfold decodeCipTcpIpInterfaceEncapsulationInactivityTimeout
  dsimp only
  split
  · exact .refuse (by decide)
  · exact .accept ⟨rfl, rfl⟩

/-- Of what is persisted, attribute 5 writes the interface configuration, attribute 6 the host
name, and no other attribute anything. -/
theorem decoder_decodes (hd : decoder r.attributeNumber = some decode) : Decodes t
    (fun u => (r.attributeNumber ≠ 5 → u.interfaceConfiguration = t.interfaceConfiguration) ∧
      (r.attributeNumber ≠ 6 → u.hostname = t.hostname)) (decode r t) := by
  unfold decoder at hd
  split at hd
  · obtain rfl := Option.some.inj hd
    exact decodes_control.mono fun u hu => ⟨fun _ => hu.1, fun _ => hu.2⟩
  · obtain rfl := Option.some.inj hd
    rename_i h5
    exact decodes_configuration.mono fun u hu => ⟨fun hne => absurd h5 hne, fun _ => hu.1⟩
  · obtain rfl := Option.some.inj hd
    rename_i h6
    exact decodes_hostname.mono fun u hu => ⟨fun _ => hu.1, fun hne => absurd h6 hne⟩
  · obtain rfl := Option.some.inj hd
    exact decodes_selectAcd.mono fun u hu => ⟨fun _ => hu.1, fun _ => hu.2⟩
  · obtain rfl := Option.some.inj hd
    exact decodes_timeout.mono fun u hu => ⟨fun _ => hu.1, fun _ => hu.2⟩
  · cases hd

/-- A decoder changes no field that it is not asked to set, and none when it refuses. -/
theorem decode_persisted (hd : decoder r.attributeNumber = some decode)
    (hF : ¬((decode r t).1 = .success ∧ r.sets F)) :
    (decode r t).2.persisted F = t.persisted F := by
  rcases decoder_decodes (t := t) hd with ⟨-, hsame⟩ | ⟨hs, hc, hh⟩
  · rw [hsame]
  · have hsets : ¬r.sets F := fun h => hF ⟨hs, h⟩
    simp only [SetRequest.sets, not_or, not_and, ne_eq, Decidable.not_not] at hsets
    by_cases h5 : r.attributeNumber = 5
    · obtain rfl := hsets.1 h5
      have hhost := hh (by omega)
      simp only [CipTcpIpObject.persisted, TcpipNvBlob.value, TcpipNvBlob.hostnameText,
        CipTcpIpObject.toBlob, hhost]
    · by_cases h6 : r.attributeNumber = 6
      · have hconfig := hc h5
        have hne := hsets.2 h6
        cases F <;> simp_all [CipTcpIpObject.persisted, TcpipNvBlob.value,
          TcpipNvBlob.domainText, CipTcpIpObject.toBlob]
      · exact persisted_congr (hc h5) (hh h6)

/-- A request for an attribute with a decoder leaves the image of the object, unless its write is
refused. -/
theorem setAttributeSingle_lands (hd : decoder r.attributeNumber ≠ none) (hw : r.write ≠ .refused) :
    (setAttributeSingle r t nvs).2.2 = some (setAttributeSingle r t nvs).2.1.toNvData := by
  unfold setAttributeSingle
  cases h : decoder r.attributeNumber with
  | none => exact absurd h hd
  | some decode => exact nvTcpipStore_lands hw _ _

/-- One of the writes of the request reaches the flash: the one after the decoder, or the one that
attribute 10 makes when it accepts. -/
def SetRequest.Lands (r : SetRequest) : Prop :=
  decoder r.attributeNumber ≠ none ∧
    (r.write ≠ .refused ∨
      r.attributeNumber = 10 ∧ 1 ≤ r.size ∧ r.data 0 ≤ 1 ∧ r.decodeWrite ≠ .refused)

instance SetRequest.decidableLands (r : SetRequest) : Decidable r.Lands :=
  haveI : Decidable (decoder r.attributeNumber ≠ none) :=
    match decoder r.attributeNumber with
    | none => isFalse fun h => h rfl
    | some _ => isTrue fun h => nomatch h
  inferInstanceAs (Decidable (_ ∧ _))

theorem decodeTcpIpSelectAcd_success :
    (decodeTcpIpSelectAcd r t).1 = .success ↔ 1 ≤ r.size ∧ r.data 0 ≤ 1 := by
  unfold decodeTcpIpSelectAcd
  by_cases hsize : r.size < 1
  · rw [if_pos hsize]
    constructor
    · intro h
      cases h
    · rintro ⟨h, -⟩
      omega
  · rw [if_neg hsize]
    by_cases hdata : 1 < r.data 0
    · simp only [if_pos hdata]
      constructor
      · intro h
        cases h
      · rintro ⟨-, h⟩
        exact absurd hdata (UInt8.not_lt.2 h)
    · simp only [if_neg hdata]
      exact ⟨fun _ => ⟨by omega, UInt8.not_lt.1 hdata⟩, fun _ => trivial⟩

/-- What the decoder has stored by itself is the image of the object, or nothing. -/
theorem decodeStore_cases (hd : decoder r.attributeNumber = some decode) (t : CipTcpIpObject)
    (nvs : Option NvData) :
    (decodeStore r (decode r t).1 (decode r t).2 nvs = some (decode r t).2.toNvData ∧
        r.Lands) ∨
      (decodeStore r (decode r t).1 (decode r t).2 nvs = nvs ∧
        (r.Lands → r.write ≠ .refused)) := by
  have hne : decoder r.attributeNumber ≠ none := by
    rw [hd]
    exact Option.some_ne_none _
  unfold decodeStore
  by_cases h10 : r.attributeNumber = 10
  · have hdecode : decode = decodeTcpIpSelectAcd := by
      rw [h10] at hd
      exact (Option.some.inj hd).symm
    rw [hdecode]
    by_cases hok : (decodeTcpIpSelectAcd r t).1 = .success
    · rw [if_pos ⟨h10, hok⟩]
      obtain ⟨hsize, hdata⟩ := decodeTcpIpSelectAcd_success.1 hok
      by_cases hw : r.decodeWrite = .refused
      · rw [hw]
        exact Or.inr ⟨rfl, fun h => h.2.resolve_right fun h => h.2.2.2 hw⟩
      · exact Or.inl ⟨nvTcpipStore_lands hw _ _, hne, Or.inr ⟨h10, hsize, hdata, hw⟩⟩
    · rw [if_neg fun h => hok h.2]
      refine Or.inr ⟨rfl, fun h => h.2.resolve_right fun h => hok ?_⟩
      exact decodeTcpIpSelectAcd_success.2 ⟨h.2.1, h.2.2.1⟩
  · rw [if_neg fun h => h10 h.1]
    exact Or.inr ⟨rfl, fun h => h.2.resolve_right fun h => h10 h.1⟩

/-- **What a request does to a stored field** that it does not set: it keeps it if and only if
none of its writes lands, or the object agrees with the flash. -/
theorem setAttributeSingle_stored_iff
    (hF : ¬((setAttributeSingle r t nvs).1 = .success ∧ r.sets F)) :
    stored (setAttributeSingle r t nvs).2.2 F = stored nvs F ↔
      (r.Lands → stored nvs F = some (t.persisted F)) := by
  unfold setAttributeSingle at hF ⊢
  cases hd : decoder r.attributeNumber with
  | none =>
    refine ⟨fun _ h => absurd hd h.1, fun _ => rfl⟩
  | some decode =>
    simp only [hd] at hF ⊢
    rw [← decode_persisted hd hF]
    have hne : decoder r.attributeNumber ≠ none := by
      rw [hd]
      exact Option.some_ne_none _
    by_cases hw : r.write = .refused
    · rw [hw]
      rcases decodeStore_cases hd t nvs with ⟨hn, hlands⟩ | ⟨hn, hlands⟩
      · change stored (decodeStore r _ _ nvs) F = _ ↔ _
        rw [hn, stored_toNvData]
        exact ⟨fun h _ => h.symm, fun h => (h hlands).symm⟩
      · change stored (decodeStore r _ _ nvs) F = _ ↔ _
        rw [hn]
        exact ⟨fun _ h => absurd hw (hlands h), fun _ => rfl⟩
    · rw [stored_store hw]
      exact ⟨fun h _ => h.symm, fun h => (h ⟨hne, Or.inl hw⟩).symm⟩

end GroundTruth.Tcpip
