/-
# What a setter reads

The decoders of `Attributes.lean` read from a pointer; here the same decoders read through it only
as far as `request_data_size`, and give up with `none` where the code would read on.  Of the five
only that of attribute 10 looks at the size before it reads.

* `Checked.control_eq` and the four after it: what a decoder reaches, and that it is the decoder of
  `Attributes.lean` when that fits;
* `setter_bounds`: it stays within the payload, and answers a payload that is shorter than the value
  it announces with not-enough-data and a change of nothing, exactly when the payload is as long as
  the value it announces, or is for attribute 10, or announces a name for which there is no memory;
* `setter_overread`: an empty payload for attribute 3 is enough for the rest.
-/
import GroundTruth.Tcpip.Attributes

namespace GroundTruth.Tcpip

open GroundTruth.Lib

variable {r : SetRequest} {t : CipTcpIpObject} {nvs : Option NvData}

/-! ## 1. Reading within the payload -/

namespace Checked

/-- `GetUsintFromMessage`, at an offset. -/
def usint (r : SetRequest) (off : Nat) : Option UInt8 :=
  if off < r.size then some (r.data off) else none

/-- `GetUintFromMessage`, at an offset. -/
def uint (r : SetRequest) (off : Nat) : Option UInt16 := do
  let low ← usint r off
  let high ← usint r (off + 1)
  return glue high low

/-- `GetUdintFromMessage`, at an offset. -/
def udint (r : SetRequest) (off : Nat) : Option UInt32 := do
  let b0 ← usint r off
  let b1 ← usint r (off + 1)
  let b2 ← usint r (off + 2)
  let b3 ← usint r (off + 3)
  return b0.toUInt32 ||| (b1.toUInt32 <<< 8) ||| (b2.toUInt32 <<< 16) ||| (b3.toUInt32 <<< 24)

/-- The octets that `memcpy` takes, from an offset. -/
def octets (r : SetRequest) : Nat → Nat → Option Bytes
  | _, 0 => some []
  | off, n + 1 => do
    let b ← usint r off
    let rest ← octets r (off + 1) n
    return b :: rest

/-- `SetCipStringByData` of a string that is empty: it copies once there is a block. -/
def setCipStringByData (r : SetRequest) (off n : Nat) : Option (Bool × CipString) :=
  if n = 0 then some (true, .empty)
  else if r.alloc = false then some (false, .empty)
  else (octets r off n).map fun data => Tcpip.setCipStringByData true data .empty

/-- `DecodeTcpIpInterfaceConfigurationControl`, attribute 3. -/
def decodeTcpIpInterfaceConfigurationControl (r : SetRequest) (t : CipTcpIpObject) :
    Option (GeneralStatus × CipTcpIpObject) := do
  let received ← udint r 0
  if 3 ≤ received &&& kTcpipCfgCtrlMethodMask ∨ received &&& ~~~kTcpipCfgCtrlMethodMask ≠ 0 then
    return (.invalidAttributeValue, t)
  else
    return (.success, { t with
      configControl := received &&& (kTcpipCfgCtrlMethodMask ||| kTcpipCfgCtrlDnsEnable) })

/-- A name is checked unless it is empty, as the string that its octets begin with. -/
def validName (name : CipString) : Bool :=
  match name.string with
  | some octets => name.length = 0 || isValidDomain (cstr octets)
  | none => true

/-- `DecodeCipTcpIpInterfaceConfiguration`, attribute 5. -/
def decodeCipTcpIpInterfaceConfiguration (r : SetRequest) (t : CipTcpIpObject) :
    Option (GeneralStatus × CipTcpIpObject) := do
  let switchToStatic := kTcpipCfgCtrlStaticIp ≠ method t.configControl
  let ipAddress ← udint r 0
  let networkMask ← udint r 4
  let gateway ← udint r 8
  let nameServer ← udint r 12
  let nameServer2 ← udint r 16
  let domainNameLength ← uint r 20
  if kTcpipMaxDomainLength < domainNameLength.toNat then return (.tooMuchData, t)
  else
    let domainName ← setCipStringByData r 22 domainNameLength.toNat
    if domainName.1 = false then return (.notEnoughData, t)
    else
      let ifCfg : InterfaceConfiguration :=
        { ipAddress := ntohl ipAddress
          networkMask := ntohl networkMask
          gateway := ntohl gateway
          nameServer := ntohl nameServer
          nameServer2 := ntohl nameServer2
          domainName := domainName.2 }
      if cipTcpIpIsValidNetworkConfig ifCfg = false ∨ validName domainName.2 = false then
        return (.invalidAttributeValue, t)
      else
        return (.success, { t with
          configControl :=
            if switchToStatic then setMethod kTcpipCfgCtrlStaticIp t.configControl
            else t.configControl
          interfaceConfiguration := ifCfg
          status := t.status ||| kTcpipStatusIfaceCfgPend })

/-- `DecodeCipTcpIpInterfaceHostName`, attribute 6. -/
def decodeCipTcpIpInterfaceHostName (r : SetRequest) (t : CipTcpIpObject) :
    Option (GeneralStatus × CipTcpIpObject) := do
  let hostNameLength ← uint r 0
  if kTcpipMaxHostnameLength < hostNameLength.toNat then return (.tooMuchData, t)
  else
    let tmpHostName ← setCipStringByData r 2 hostNameLength.toNat
    if tmpHostName.1 = false then return (.notEnoughData, t)
    else if validName tmpHostName.2 = false then return (.invalidAttributeValue, t)
    else
      return (.success, { t with
        hostname := tmpHostName.2
        status := t.status ||| kTcpipStatusIfaceCfgPend })

/-- `DecodeTcpIpSelectAcd`, attribute 10, but for its store. -/
def decodeTcpIpSelectAcd (r : SetRequest) (t : CipTcpIpObject) :
    Option (GeneralStatus × CipTcpIpObject) :=
  if r.size < 1 then some (.notEnoughData, t)
  else do
    let selection ← usint r 0
    if 1 < selection then return (.invalidAttributeValue, t)
    else return (.success, { t with selectAcd := selection ≠ 0, status := clearAcdStatus t.status })

/-- `DecodeCipTcpIpInterfaceEncapsulationInactivityTimeout`, attribute 13. -/
def decodeCipTcpIpInterfaceEncapsulationInactivityTimeout (r : SetRequest) (t : CipTcpIpObject) :
    Option (GeneralStatus × CipTcpIpObject) := do
  let received ← uint r 0
  if 3600 < received then return (.invalidAttributeValue, t)
  else return (.success, { t with encapsulationInactivityTimeout := received })

/-- The decoder of an attribute that can be set. -/
def decoder : Nat →
    Option (SetRequest → CipTcpIpObject → Option (GeneralStatus × CipTcpIpObject))
  | 3 => some decodeTcpIpInterfaceConfigurationControl
  | 5 => some decodeCipTcpIpInterfaceConfiguration
  | 6 => some decodeCipTcpIpInterfaceHostName
  | 10 => some decodeTcpIpSelectAcd
  | 13 => some decodeCipTcpIpInterfaceEncapsulationInactivityTimeout
  | _ => none

end Checked

/-! ## 2. How far a decoder reaches -/

/-- The octets of the payload that a name of this length takes, after the `fixed` before it: none
when it is too long or there is no memory for it. -/
def SetRequest.nameReach (r : SetRequest) (max n : Nat) : Nat :=
  if n ≤ max ∧ r.alloc = true then n else 0

namespace Checked

theorem usint_eq {off : Nat} (h : off < r.size) : usint r off = some (r.data off) := if_pos h

theorem uint_eq (r : SetRequest) (off : Nat) :
    uint r off = if off + 2 ≤ r.size then some (r.uint off) else none := by
  unfold uint
  by_cases h : off + 2 ≤ r.size
  · rw [if_pos h, usint_eq (by omega), usint_eq (by omega)]
    rfl
  · have hlast : usint r (off + 1) = none := if_neg (by omega)
    rw [if_neg h, hlast]
    cases usint r off <;> rfl

theorem udint_eq (r : SetRequest) (off : Nat) :
    udint r off = if off + 4 ≤ r.size then some (r.udint off) else none := by
  unfold udint
  by_cases h : off + 4 ≤ r.size
  · rw [if_pos h, usint_eq (by omega), usint_eq (by omega), usint_eq (by omega),
      usint_eq (by omega)]
    rfl
  · have hlast : usint r (off + 3) = none := if_neg (by omega)
    rw [if_neg h, hlast]
    cases usint r off with
    | none => rfl
    | some b0 =>
      cases usint r (off + 1) with
      | none => rfl
      | some b1 => cases usint r (off + 2) <;> rfl

theorem octets_succ (r : SetRequest) (off n : Nat) :
    r.octets off (n + 1) = r.data off :: r.octets (off + 1) n := by
  have hshift : (fun i => r.data (off + i.succ)) = fun i => r.data (off + 1 + i) := by
    funext i
    rw [Nat.succ_eq_add_one, Nat.add_comm i 1, Nat.add_assoc]
  rw [SetRequest.octets, List.range_succ_eq_map, List.map_cons, List.map_map]
  exact congrArg (r.data off :: ·) (congrArg (List.map · (List.range n)) hshift)

theorem octets_eq (r : SetRequest) (off n : Nat) :
    octets r off n = if n = 0 ∨ off + n ≤ r.size then some (r.octets off n) else none := by
  induction n generalizing off with
  | zero => rfl
  | succ n ih =>
    rw [octets, ih, octets_succ]
    by_cases hfirst : off < r.size
    · rw [usint_eq hfirst]
      by_cases hrest : n = 0 ∨ off + 1 + n ≤ r.size
      · rw [if_pos hrest, if_pos (by omega)]
        rfl
      · rw [if_neg hrest, if_neg (by omega)]
        rfl
    · have hnone : usint r off = none := if_neg hfirst
      have hout : ¬(n + 1 = 0 ∨ off + (n + 1) ≤ r.size) := by omega
      rw [hnone, if_neg hout]
      rfl

/-- A name is read when its octets fit, or are not read at all. -/
theorem setCipStringByData_eq (r : SetRequest) {off n max : Nat} (hn : n ≤ max)
    (hoff : off ≤ r.size) :
    setCipStringByData r off n =
      if off + r.nameReach max n ≤ r.size then
        some (Tcpip.setCipStringByData r.alloc (r.octets off n) .empty)
      else none := by
  unfold setCipStringByData SetRequest.nameReach
  cases n with
  | zero =>
    rw [if_pos rfl, if_pos (by split <;> omega)]
    rfl
  | succ n =>
    rw [if_neg (Nat.succ_ne_zero n)]
    cases r.alloc with
    | false =>
      have hreach : (if n + 1 ≤ max ∧ false = true then n + 1 else 0) = 0 := if_neg (by simp)
      have hin : off + 0 ≤ r.size := hoff
      rw [if_pos rfl, hreach, if_pos hin, octets_succ]
      rfl
    | true =>
      have hreach : (if n + 1 ≤ max ∧ true = true then n + 1 else 0) = n + 1 := if_pos ⟨hn, rfl⟩
      rw [if_neg (by simp), hreach, octets_eq]
      by_cases hfits : off + (n + 1) ≤ r.size
      · rw [if_pos (.inr hfits), if_pos hfits]
        rfl
      · have hout : ¬(n + 1 = 0 ∨ off + (n + 1) ≤ r.size) := by omega
        rw [if_neg hout, if_neg hfits]
        rfl

/-- The check of a name that was set is the check of its octets. -/
theorem validName_eq {alloc : Bool} {data : Bytes}
    (h : (Tcpip.setCipStringByData alloc data .empty).1 = true) :
    validName (Tcpip.setCipStringByData alloc data .empty).2 = Tcpip.validName data := by
  cases data with
  | nil => rfl
  | cons b data =>
    cases alloc with
    | false => cases h
    | true => rfl

theorem control_eq (r : SetRequest) (t : CipTcpIpObject) :
    decodeTcpIpInterfaceConfigurationControl r t =
      if 4 ≤ r.size then some (Tcpip.decodeTcpIpInterfaceConfigurationControl r t) else none := by
  unfold decodeTcpIpInterfaceConfigurationControl Tcpip.decodeTcpIpInterfaceConfigurationControl
  rw [udint_eq]
  by_cases hfits : 0 + 4 ≤ r.size
  · rw [if_pos hfits, if_pos (Nat.zero_add 4 ▸ hfits)]
    dsimp only [Option.bind_eq_bind, Option.bind_some]
    split <;> rfl
  · rw [if_neg hfits, if_neg (Nat.zero_add 4 ▸ hfits)]
    rfl

theorem timeout_eq (r : SetRequest) (t : CipTcpIpObject) :
    decodeCipTcpIpInterfaceEncapsulationInactivityTimeout r t =
      if 2 ≤ r.size then some (Tcpip.decodeCipTcpIpInterfaceEncapsulationInactivityTimeout r t)
      else none := by
  unfold decodeCipTcpIpInterfaceEncapsulationInactivityTimeout
    Tcpip.decodeCipTcpIpInterfaceEncapsulationInactivityTimeout
  rw [uint_eq]
  by_cases hfits : 0 + 2 ≤ r.size
  · rw [if_pos hfits, if_pos (Nat.zero_add 2 ▸ hfits)]
    dsimp only [Option.bind_eq_bind, Option.bind_some]
    split <;> rfl
  · rw [if_neg hfits, if_neg (Nat.zero_add 2 ▸ hfits)]
    rfl

/-- The only decoder that looks at the size. -/
theorem selectAcd_eq (r : SetRequest) (t : CipTcpIpObject) :
    decodeTcpIpSelectAcd r t = some (Tcpip.decodeTcpIpSelectAcd r t) := by
  unfold decodeTcpIpSelectAcd Tcpip.decodeTcpIpSelectAcd
  by_cases hempty : r.size < 1
  · rw [if_pos hempty, if_pos hempty]
  · rw [if_neg hempty, if_neg hempty, usint_eq (by omega)]
    dsimp only [Option.bind_eq_bind, Option.bind_some]
    split <;> rfl

theorem hostname_eq (r : SetRequest) (t : CipTcpIpObject) :
    decodeCipTcpIpInterfaceHostName r t =
      if 2 + r.nameReach kTcpipMaxHostnameLength (r.uint 0).toNat ≤ r.size then
        some (Tcpip.decodeCipTcpIpInterfaceHostName r t)
      else none := by
  unfold decodeCipTcpIpInterfaceHostName Tcpip.decodeCipTcpIpInterfaceHostName
  rw [uint_eq]
  by_cases hheader : 0 + 2 ≤ r.size
  · rw [if_pos hheader]
    dsimp only [Option.bind_eq_bind, Option.bind_some]
    by_cases hlong : kTcpipMaxHostnameLength < (r.uint 0).toNat
    · have hreach : r.nameReach kTcpipMaxHostnameLength (r.uint 0).toNat = 0 :=
        if_neg fun h => Nat.not_lt.2 h.1 hlong
      rw [if_pos hlong, if_pos hlong, hreach, if_pos (by omega)]
      rfl
    · rw [if_neg hlong, if_neg hlong, setCipStringByData_eq r (Nat.le_of_not_lt hlong) (by omega)]
      by_cases hfits : 2 + r.nameReach kTcpipMaxHostnameLength (r.uint 0).toNat ≤ r.size
      · rw [if_pos hfits, if_pos hfits]
        dsimp only [Option.bind_some]
        by_cases hset : (Tcpip.setCipStringByData r.alloc (r.octets 2 (r.uint 0).toNat)
            .empty).1 = false
        · rw [if_pos hset, if_pos hset]
          rfl
        · rw [if_neg hset, if_neg hset, validName_eq (by simpa using hset)]
          split <;> rfl
      · rw [if_neg hfits, if_neg hfits]
        rfl
  · rw [if_neg hheader, if_neg (by omega)]
    rfl

theorem configuration_eq (r : SetRequest) (t : CipTcpIpObject) :
    decodeCipTcpIpInterfaceConfiguration r t =
      if 22 + r.nameReach kTcpipMaxDomainLength (r.uint 20).toNat ≤ r.size then
        some (Tcpip.decodeCipTcpIpInterfaceConfiguration r t)
      else none := by
  unfold decodeCipTcpIpInterfaceConfiguration Tcpip.decodeCipTcpIpInterfaceConfiguration
  by_cases hheader : 22 ≤ r.size
  · have hlength : uint r 20 = some (r.uint 20) := by rw [uint_eq, if_pos hheader]
    have haddress : ∀ off, off ≤ 16 → udint r off = some (r.udint off) := by
      intro off hoff
      rw [udint_eq, if_pos (by omega)]
    rw [haddress 0 (by omega), haddress 4 (by omega), haddress 8 (by omega),
      haddress 12 (by omega), haddress 16 (by omega), hlength]
    dsimp only [Option.bind_eq_bind, Option.bind_some]
    by_cases hlong : kTcpipMaxDomainLength < (r.uint 20).toNat
    · have hreach : r.nameReach kTcpipMaxDomainLength (r.uint 20).toNat = 0 :=
        if_neg fun h => Nat.not_lt.2 h.1 hlong
      rw [if_pos hlong, if_pos hlong, hreach, if_pos (by omega)]
      rfl
    · rw [if_neg hlong, if_neg hlong, setCipStringByData_eq r (Nat.le_of_not_lt hlong) hheader]
      by_cases hfits : 22 + r.nameReach kTcpipMaxDomainLength (r.uint 20).toNat ≤ r.size
      · rw [if_pos hfits, if_pos hfits]
        dsimp only [Option.bind_some]
        by_cases hset : (Tcpip.setCipStringByData r.alloc (r.octets 22 (r.uint 20).toNat)
            .empty).1 = false
        · rw [if_pos hset, if_pos hset]
          rfl
        · rw [if_neg hset, if_neg hset, validName_eq (by simpa using hset)]
          split <;> rfl
      · rw [if_neg hfits, if_neg hfits]
        rfl
  · -- the length, if nothing before it, is beyond the payload
    have hlength : uint r 20 = none := by rw [uint_eq, if_neg hheader]
    rw [if_neg (by omega), hlength]
    simp

end Checked

/-! ## 3. The bounds of a setter -/

/-- The octets of the value that a payload announces: of a name it gives the length. -/
def SetRequest.announced (r : SetRequest) : Nat :=
  match r.attributeNumber with
  | 3 => 4
  | 5 => 22 + (r.uint 20).toNat
  | 6 => 2 + (r.uint 0).toNat
  | 10 => 1
  | 13 => 2
  | _ => 0

/-- The decoder stays within the payload, and one that is too short for the value it announces is
answered with not-enough-data and changes nothing. -/
structure SetRequest.Bounded (r : SetRequest) (t : CipTcpIpObject) (nvs : Option NvData) :
    Prop where
  reads : ∀ decode, Checked.decoder r.attributeNumber = some decode → decode r t ≠ none
  short : r.size < r.announced →
    (setAttributeSingle r t nvs).1 = .notEnoughData ∧ (setAttributeSingle r t nvs).2.1 = t

/-- A name of this length, after `fixed` octets of the payload, for which there is no memory. -/
def SetRequest.NoMemory (r : SetRequest) (fixed max n : Nat) : Prop :=
  r.alloc = false ∧ fixed ≤ r.size ∧ 0 < n ∧ n ≤ max

/-- The payload is as long as the value it announces, or the decoder does not read on. -/
def SetRequest.Whole (r : SetRequest) : Prop :=
  r.announced ≤ r.size ∨ r.attributeNumber = 10 ∨
    (r.attributeNumber = 5 ∧ r.NoMemory 22 kTcpipMaxDomainLength (r.uint 20).toNat) ∨
    (r.attributeNumber = 6 ∧ r.NoMemory 2 kTcpipMaxHostnameLength (r.uint 0).toNat)

theorem setCipStringByData_fails {alloc : Bool} {data : Bytes} {s : CipString} :
    (setCipStringByData alloc data s).1 = false ↔ data ≠ [] ∧ alloc = false := by
  unfold setCipStringByData
  by_cases hdata : data = []
  · simp [hdata]
  · rw [if_neg hdata]
    cases alloc with
    | false => simp [hdata]
    | true => simp

theorem octets_eq_nil {off n : Nat} : r.octets off n = [] ↔ n = 0 := by
  simp [SetRequest.octets]

/-- The way both decoders of names begin: not-enough-data means that there is no memory. -/
theorem notEnough_iff {off n max : Nat} {rest : GeneralStatus × CipTcpIpObject}
    (hrest : rest.1 ≠ .notEnoughData) :
    (if max < n then (.tooMuchData, t)
      else if (setCipStringByData r.alloc (r.octets off n) .empty).1 = false then
        (.notEnoughData, t)
      else rest).1 = .notEnoughData ↔ n ≤ max ∧ 0 < n ∧ r.alloc = false := by
  by_cases hlong : max < n
  · rw [if_pos hlong]
    exact iff_of_false GeneralStatus.noConfusion fun h => Nat.not_lt.2 h.1 hlong
  · rw [if_neg hlong]
    by_cases hset : (setCipStringByData r.alloc (r.octets off n) .empty).1 = false
    · rw [if_pos hset]
      obtain ⟨hne, halloc⟩ := setCipStringByData_fails.1 hset
      refine iff_of_true rfl ⟨Nat.le_of_not_lt hlong, ?_, halloc⟩
      exact Nat.pos_of_ne_zero fun hzero => hne (octets_eq_nil.2 hzero)
    · rw [if_neg hset]
      refine iff_of_false hrest fun h => hset ?_
      refine setCipStringByData_fails.2 ⟨fun hnil => ?_, h.2.2⟩
      exact Nat.ne_of_gt h.2.1 (octets_eq_nil.1 hnil)

theorem configuration_notEnough :
    (decodeCipTcpIpInterfaceConfiguration r t).1 = .notEnoughData ↔
      (r.uint 20).toNat ≤ kTcpipMaxDomainLength ∧ 0 < (r.uint 20).toNat ∧ r.alloc = false := by
  unfold decodeCipTcpIpInterfaceConfiguration
  dsimp only
  refine notEnough_iff ?_
  split <;> exact GeneralStatus.noConfusion

theorem hostname_notEnough :
    (decodeCipTcpIpInterfaceHostName r t).1 = .notEnoughData ↔
      (r.uint 0).toNat ≤ kTcpipMaxHostnameLength ∧ 0 < (r.uint 0).toNat ∧ r.alloc = false := by
  unfold decodeCipTcpIpInterfaceHostName
  dsimp only
  refine notEnough_iff ?_
  split <;> exact GeneralStatus.noConfusion

/-- A decoder that refuses leaves the object alone. -/
theorem Decodes.kept {P : CipTcpIpObject → Prop} {out : GeneralStatus × CipTcpIpObject}
    (h : Decodes t P out) (hs : out.1 = .notEnoughData) : out.2 = t := by
  rcases h with ⟨-, hsame⟩ | ⟨hok, -⟩
  · exact hsame
  · rw [hok] at hs
    cases hs

/-- **The two decoders of names**: what they reach fits and a short payload is refused as it should
exactly when the payload is whole, or there is no memory for the name. -/
theorem named_bounds {fixed max n : Nat} {out : GeneralStatus × CipTcpIpObject}
    (hstatus : out.1 = .notEnoughData ↔ n ≤ max ∧ 0 < n ∧ r.alloc = false)
    (hkept : out.1 = .notEnoughData → out.2 = t) :
    (fixed + r.nameReach max n ≤ r.size ∧
        (r.size < fixed + n → out.1 = .notEnoughData ∧ out.2 = t)) ↔
      fixed + n ≤ r.size ∨ r.NoMemory fixed max n := by
  constructor
  · rintro ⟨hreach, hshort⟩
    by_cases hwhole : fixed + n ≤ r.size
    · exact .inl hwhole
    · obtain ⟨hmax, hpos, halloc⟩ := hstatus.1 (hshort (by omega)).1
      exact .inr ⟨halloc, by omega, hpos, hmax⟩
  · rintro (hwhole | ⟨halloc, hfixed, hpos, hmax⟩)
    · have hle : r.nameReach max n ≤ n := by
        unfold SetRequest.nameReach
        split <;> omega
      exact ⟨by omega, fun hshort => absurd hwhole (by omega)⟩
    · have hreach : r.nameReach max n = 0 := if_neg (by simp [halloc])
      have hrefused := hstatus.2 ⟨hmax, hpos, halloc⟩
      exact ⟨by omega, fun _ => ⟨hrefused, hkept hrefused⟩⟩

/-- A decoder that reaches a fixed number of octets. -/
theorem fixed_bounds {k : Nat} {P : Prop} : (k ≤ r.size ∧ (r.size < k → P)) ↔ k ≤ r.size :=
  ⟨And.left, fun h => ⟨h, fun hshort => absurd h (by omega)⟩⟩

/-- What `Bounded` says once the decoder is known. -/
theorem bounded_iff {decode : SetRequest → CipTcpIpObject → GeneralStatus × CipTcpIpObject}
    {checked : SetRequest → CipTcpIpObject → Option (GeneralStatus × CipTcpIpObject)} {k : Nat}
    (hd : decoder r.attributeNumber = some decode)
    (hc : Checked.decoder r.attributeNumber = some checked)
    (hreach : checked r t = if k ≤ r.size then some (decode r t) else none) :
    r.Bounded t nvs ↔ k ≤ r.size ∧
      (r.size < r.announced → (decode r t).1 = .notEnoughData ∧ (decode r t).2 = t) := by
  have hout : (setAttributeSingle r t nvs).1 = (decode r t).1 ∧
      (setAttributeSingle r t nvs).2.1 = (decode r t).2 := by
    unfold setAttributeSingle
    rw [hd]
    exact ⟨rfl, rfl⟩
  have hreads : (∀ decode, Checked.decoder r.attributeNumber = some decode → decode r t ≠ none) ↔
      k ≤ r.size := by
    constructor
    · intro h
      by_contra hshort
      exact h checked hc (hreach.trans (if_neg hshort))
    · intro hfits d hd
      obtain rfl := Option.some.inj (hc.symm.trans hd)
      rw [hreach, if_pos hfits]
      exact Option.some_ne_none _
  rw [← hreads, ← hout.1]
  constructor
  · rintro ⟨h, hshort⟩
    refine ⟨h, fun hlt => ?_⟩
    rw [← hout.2]
    exact hshort hlt
  · rintro ⟨h, hshort⟩
    refine ⟨h, fun hlt => ?_⟩
    rw [hout.2]
    exact hshort hlt

theorem settable_cases (h : decoder r.attributeNumber ≠ none) : r.attributeNumber = 3 ∨
    r.attributeNumber = 5 ∨ r.attributeNumber = 6 ∨ r.attributeNumber = 10 ∨
      r.attributeNumber = 13 := by
  unfold decoder at h
  split at h
  all_goals first | omega | exact absurd rfl h

/-- **The bounds of a setter.**  The decoder of a settable attribute reads nothing beyond the
payload and refuses a payload that is too short with not-enough-data and without a change, exactly
when the payload is whole in the sense above. -/
theorem setter_bounds (r : SetRequest) (t : CipTcpIpObject) (nvs : Option NvData)
    (hset : decoder r.attributeNumber ≠ none) : r.Bounded t nvs ↔ r.Whole := by
  rcases settable_cases hset with hn | hn | hn | hn | hn
  · have hd : decoder r.attributeNumber = some decodeTcpIpInterfaceConfigurationControl := by
      rw [hn]
      rfl
    have hc : Checked.decoder r.attributeNumber =
        some Checked.decodeTcpIpInterfaceConfigurationControl := by
      rw [hn]
      rfl
    have hannounced : r.announced = 4 := by
      simp only [SetRequest.announced, hn]
    rw [bounded_iff hd hc (Checked.control_eq r t), hannounced, fixed_bounds, SetRequest.Whole,
      hannounced, hn]
    simp
  · have hd : decoder r.attributeNumber = some decodeCipTcpIpInterfaceConfiguration := by
      rw [hn]
      rfl
    have hc : Checked.decoder r.attributeNumber =
        some Checked.decodeCipTcpIpInterfaceConfiguration := by
      rw [hn]
      rfl
    have hannounced : r.announced = 22 + (r.uint 20).toNat := by
      simp only [SetRequest.announced, hn]
    rw [bounded_iff hd hc (Checked.configuration_eq r t), hannounced,
      named_bounds configuration_notEnough decodes_configuration.kept, SetRequest.Whole,
      hannounced, hn]
    simp
  · have hd : decoder r.attributeNumber = some decodeCipTcpIpInterfaceHostName := by
      rw [hn]
      rfl
    have hc : Checked.decoder r.attributeNumber =
        some Checked.decodeCipTcpIpInterfaceHostName := by
      rw [hn]
      rfl
    have hannounced : r.announced = 2 + (r.uint 0).toNat := by
      simp only [SetRequest.announced, hn]
    rw [bounded_iff hd hc (Checked.hostname_eq r t), hannounced,
      named_bounds hostname_notEnough decodes_hostname.kept, SetRequest.Whole, hannounced, hn]
    simp
  · have hd : decoder r.attributeNumber = some decodeTcpIpSelectAcd := by
      rw [hn]
      rfl
    have hc : Checked.decoder r.attributeNumber = some Checked.decodeTcpIpSelectAcd := by
      rw [hn]
      rfl
    have hannounced : r.announced = 1 := by
      simp only [SetRequest.announced, hn]
    have hreach : Checked.decodeTcpIpSelectAcd r t =
        if 0 ≤ r.size then some (decodeTcpIpSelectAcd r t) else none := by
      rw [if_pos (Nat.zero_le _), Checked.selectAcd_eq]
    have hempty : r.size < 1 → decodeTcpIpSelectAcd r t = (.notEnoughData, t) := fun h => if_pos h
    rw [bounded_iff hd hc hreach, hannounced]
    refine iff_of_true ⟨Nat.zero_le _, fun h => ?_⟩ (.inr (.inl hn))
    rw [hempty h]
    exact ⟨rfl, rfl⟩
  · have hd : decoder r.attributeNumber =
        some decodeCipTcpIpInterfaceEncapsulationInactivityTimeout := by
      rw [hn]
      rfl
    have hc : Checked.decoder r.attributeNumber =
        some Checked.decodeCipTcpIpInterfaceEncapsulationInactivityTimeout := by
      rw [hn]
      rfl
    have hannounced : r.announced = 2 := by
      simp only [SetRequest.announced, hn]
    rw [bounded_iff hd hc (Checked.timeout_eq r t), hannounced, fixed_bounds, SetRequest.Whole,
      hannounced, hn]
    simp

/-- Attribute 6, and the host name "a". -/
def wholeHostname : SetRequest :=
  ⟨6, 3, fun i => if i = 0 then 1 else if i = 2 then 0x61 else 0, true, .ok, .ok⟩

theorem setter_bounds_hostname : wholeHostname.Bounded .default none :=
  (setter_bounds wholeHostname .default none (Option.some_ne_none _)).2 (.inl (by decide))

/-- **An empty payload for attribute 3**, with zeros behind it: it is accepted, and the method is
static. -/
theorem setter_overread :
    ¬∀ (r : SetRequest) (t : CipTcpIpObject) (nvs : Option NvData),
      decoder r.attributeNumber ≠ none → r.Bounded t nvs := by
  intro hall
  have hbounded := hall ⟨3, 0, fun _ => 0, true, .ok, .ok⟩ .default none (Option.some_ne_none _)
  have hrefused := (hbounded.short (by decide)).1
  exact absurd hrefused (by decide)

end GroundTruth.Tcpip
