/-
# The TCP/IP object: `g_tcpip`

The attributes of the object that the boot code, the CIP setters, the web page and the stored
configuration read or write, and the rules of `ciptcpipinterface.c` for addresses and for names.
Addresses are `in_addr_t`: 32 bits in network order, so that the first byte on the wire is the
lowest.

What lives in RAM is two things at once: the configuration that is to be stored, and a view of
what the interface is using.
-/
import GroundTruth.Lib.Bytes

namespace GroundTruth.Tcpip

open GroundTruth.Lib

/-! ## 1. Strings -/

/-- `CipString`: a length, and a block of that length or `NULL`. -/
@[ext] structure CipString where
  length : Nat
  string : Option Bytes
  sized : ∀ d ∈ string, d.length = length
  deriving DecidableEq

def CipString.empty : CipString := ⟨0, none, fun _ h => nomatch h⟩

/-- `ClearCipString`.  Without a block there is nothing to clear, and the length stays. -/
def clearCipString (s : CipString) : CipString :=
  match s.string with
  | some _ => .empty
  | none => s

/-- `SetCipStringByData`; `alloc` says whether `CipCalloc` succeeds.  `false` stands for `NULL`:
then the string is left cleared. -/
def setCipStringByData (alloc : Bool) (data : Bytes) (s : CipString) : Bool × CipString :=
  if data = [] then (true, clearCipString s)
  else if alloc = false then (false, clearCipString s)
  else (true, ⟨data.length, some data, fun _ h => by rw [Option.mem_some.1 h]⟩)

/-- `SetCipStringByCstr`, whose result nobody looks at.  The length is a `CipUint`. -/
def setCipStringByCstr (alloc : Bool) (cstring : Bytes) (s : CipString) : CipString :=
  (setCipStringByData alloc (cstring.take (cstring.length % 0x10000)) s).2

/-- The block freed and set to `NULL`, the length left as it is. -/
def CipString.freed (s : CipString) : CipString := ⟨s.length, none, fun _ h => nomatch h⟩

/-! ## 2. The object -/

/-- `CipTcpIpInterfaceConfiguration`, attribute 5. -/
structure InterfaceConfiguration where
  ipAddress : UInt32
  networkMask : UInt32
  gateway : UInt32
  nameServer : UInt32
  nameServer2 : UInt32
  domainName : CipString
  deriving DecidableEq

/-- The five addresses set to 0. -/
def InterfaceConfiguration.zeroAddresses (c : InterfaceConfiguration) : InterfaceConfiguration :=
  { c with ipAddress := 0, networkMask := 0, gateway := 0, nameServer := 0, nameServer2 := 0 }

/-- `CipTcpIpObject`. -/
structure CipTcpIpObject where
  /-- attribute 1 -/
  status : UInt32
  /-- attribute 3 -/
  configControl : UInt32
  /-- attribute 5 -/
  interfaceConfiguration : InterfaceConfiguration
  /-- attribute 6 -/
  hostname : CipString
  /-- attribute 10 -/
  selectAcd : Bool
  /-- attribute 13 -/
  encapsulationInactivityTimeout : UInt16
  deriving DecidableEq

/-- `g_tcpip` as it is initialised. -/
def CipTcpIpObject.default : CipTcpIpObject where
  status := 1
  configControl := 2
  interfaceConfiguration := ⟨0, 0, 0, 0, 0, .empty⟩
  hostname := .empty
  selectAcd := false
  encapsulationInactivityTimeout := 120

def kTcpipStatusIfaceCfgPend : UInt32 := 0x20
def kTcpipStatusAcdStatus : UInt32 := 0x40
def kTcpipStatusAcdFault : UInt32 := 0x80

def kTcpipCfgCtrlStaticIp : UInt32 := 0
def kTcpipCfgCtrlDhcp : UInt32 := 2
def kTcpipCfgCtrlMethodMask : UInt32 := 0x0F
def kTcpipCfgCtrlDnsEnable : UInt32 := 0x10

/-- The configuration method: static, BOOTP, DHCP, or a reserved value. -/
def method (configControl : UInt32) : UInt32 := configControl &&& kTcpipCfgCtrlMethodMask

/-- The method bits replaced. -/
def setMethod (m configControl : UInt32) : UInt32 :=
  (configControl &&& ~~~kTcpipCfgCtrlMethodMask) ||| m

theorem or_and_distrib (a b m : UInt32) : (a ||| b) &&& m = (a &&& m) ||| (b &&& m) := by
  apply UInt32.toBitVec_inj.1
  simp only [UInt32.toBitVec_and, UInt32.toBitVec_or]
  exact BitVec.and_or_distrib_right

theorem method_setMethod {m : UInt32} (hm : m &&& kTcpipCfgCtrlMethodMask = m) (c : UInt32) :
    method (setMethod m c) = m := by
  rw [method, setMethod, or_and_distrib, UInt32.and_assoc, UInt32.not_and_self, UInt32.and_zero,
    UInt32.zero_or, hm]

/-- The flags above the method bits stay. -/
theorem flags_setMethod {m : UInt32} (hm : m &&& ~~~kTcpipCfgCtrlMethodMask = 0) (c : UInt32) :
    setMethod m c &&& ~~~kTcpipCfgCtrlMethodMask = c &&& ~~~kTcpipCfgCtrlMethodMask := by
  rw [setMethod, or_and_distrib, UInt32.and_assoc, UInt32.and_self, hm, UInt32.or_zero]

/-- The flags and the method are all there is. -/
theorem setMethod_method (c : UInt32) : setMethod (method c) c = c := by
  have hall : ~~~kTcpipCfgCtrlMethodMask ||| kTcpipCfgCtrlMethodMask = -1 := by decide
  rw [setMethod, method, UInt32.and_comm c, UInt32.and_comm c, ← or_and_distrib, hall,
    UInt32.neg_one_and]

@[simp] theorem method_setMethod_dhcp (c : UInt32) :
    method (setMethod kTcpipCfgCtrlDhcp c) = kTcpipCfgCtrlDhcp := method_setMethod rfl c

/-- The object switched to DHCP, its addresses set to 0. -/
def CipTcpIpObject.toDhcp (t : CipTcpIpObject) : CipTcpIpObject :=
  { t with
    configControl := setMethod kTcpipCfgCtrlDhcp t.configControl
    interfaceConfiguration := t.interfaceConfiguration.zeroAddresses }

/-- Both ACD bits of the status cleared. -/
def clearAcdStatus (status : UInt32) : UInt32 :=
  status &&& ~~~(kTcpipStatusAcdStatus ||| kTcpipStatusAcdFault)

/-- The configuration marked as applied, and no longer as pending. -/
def markApplied (status : UInt32) : UInt32 := (status ||| 1) &&& ~~~kTcpipStatusIfaceCfgPend

/-! ## 3. Addresses -/

/-- `ntohl`, which is `htonl`: the four bytes reversed. -/
def ntohl (a : UInt32) : UInt32 :=
  let bytes : UInt32 := 0xFF00
  (a <<< 24) ||| ((a &&& bytes) <<< 8) ||| ((a >>> 8) &&& bytes) ||| (a >>> 24)

/-- `IsValidNetmask`: the host mask plus one is a power of two. -/
def isValidNetmask (netmask : UInt32) : Bool :=
  let v := ~~~(ntohl netmask) + 1
  v ≠ 0 && v &&& (v - 1) = 0 && netmask ≠ 0xFFFFFFFF

/-- `IsInClassAbc`. -/
def isInClassAbc (ipAddr : UInt32) : Bool :=
  let ip := ntohl ipAddr
  ip &&& 0x80000000 = 0 || ip &&& 0xC0000000 = 0x80000000 || ip &&& 0xE0000000 = 0xC0000000

/-- `IsOnLoopbackNetwork`. -/
def isOnLoopbackNetwork (ipAddr : UInt32) : Bool :=
  ntohl ipAddr &&& 0xFF000000 = 0x7F000001 &&& 0xFF000000

/-- `IsNetworkOrBroadcastIp`. -/
def isNetworkOrBroadcastIp (ipAddr netMask : UInt32) : Bool :=
  ipAddr &&& netMask = ipAddr || ipAddr ||| ~~~netMask = ipAddr

/-- `CipTcpIpIsValidNetworkConfig`. -/
def cipTcpIpIsValidNetworkConfig (c : InterfaceConfiguration) : Bool :=
  if ntohl c.ipAddress = 0 then false
  else if ntohl c.networkMask ≠ 0 ∧ isValidNetmask c.networkMask = false then false
  else if isInClassAbc c.ipAddress = false ∨ isInClassAbc c.gateway = false ∨
      isInClassAbc c.nameServer = false ∨ isInClassAbc c.nameServer2 = false then false
  else if isOnLoopbackNetwork c.ipAddress = true ∨ isOnLoopbackNetwork c.gateway = true then false
  else if isNetworkOrBroadcastIp c.ipAddress c.networkMask = true ∨
      ntohl c.gateway ≠ 0 ∧ isNetworkOrBroadcastIp c.gateway c.networkMask = true then false
  else if ntohl c.gateway ≠ 0 ∧ ntohl c.networkMask ≠ 0 ∧
      c.networkMask &&& c.ipAddress ≠ c.networkMask &&& c.gateway then false
  else true

/-- A valid configuration has an address. -/
theorem ipAddress_ne_zero {c : InterfaceConfiguration}
    (h : cipTcpIpIsValidNetworkConfig c = true) : c.ipAddress ≠ 0 := by
  intro h0
  rw [cipTcpIpIsValidNetworkConfig, h0, if_pos (by decide)] at h
  cases h

/-! ## 4. Names -/

def isalnumC (byte : UInt8) : Bool :=
  ('a'.toUInt8 ≤ byte && byte ≤ 'z'.toUInt8) || ('A'.toUInt8 ≤ byte && byte ≤ 'Z'.toUInt8) ||
    ('0'.toUInt8 ≤ byte && byte ≤ '9'.toUInt8)

/-- `IsValidNameLabel`, of a string without its NUL. -/
def isValidNameLabel : Bytes → Bool
  | [] => false
  | c :: rest =>
    isalnumC c && rest.all (fun b => isalnumC b || b = '-'.toUInt8) &&
      (c :: rest).getLast? ≠ some '-'.toUInt8

/-- `IsValidDomain`, with the label that ends before what is left to scan: a dot must follow a
label, and must not be the end. -/
def isValidDomainFrom (label : Bytes) : Bytes → Bool
  | [] => isValidNameLabel label
  | c :: rest =>
    if c = '.'.toUInt8 then
      label ≠ [] && isValidNameLabel label && rest ≠ [] && isValidDomainFrom [] rest
    else isValidDomainFrom (label ++ [c]) rest

/-- `IsValidDomain`. -/
def isValidDomain (domain : Bytes) : Bool := isValidDomainFrom [] domain

end GroundTruth.Tcpip
