/-
# The Ethernet Link object and its counters

The network handler counts packets in a structure of its own.  Attribute 4 of the object is a copy:
a callback before the reading fills it in, and one after it, if the service is Get_And_Clear, sets
both the copy and the counters to 0.

* `ethernetLinkService_counters`: what a request does to the counters;
* `counters_conserved`: what the Get_And_Clear requests have returned, and what a reading would
  return now, is what was counted.
-/
import Mathlib.Algebra.BigOperators.Group.List.Basic
import Mathlib.Data.UInt
import GroundTruth.Cip.Attribute

namespace GroundTruth.Cip

open GroundTruth.Lib

/-! ## 1. The counters -/

/-- `NetworkInterfaceCounters`, and the same fields in `CipEthernetLinkInterfaceCounters`. -/
structure InterfaceCounters where
  inOctets : UInt32
  inUcast : UInt32
  inNucast : UInt32
  inDiscards : UInt32
  inErrors : UInt32
  inUnknownProtos : UInt32
  outOctets : UInt32
  outUcast : UInt32
  outNucast : UInt32
  outDiscards : UInt32
  outErrors : UInt32
  deriving DecidableEq, Repr

def InterfaceCounters.zero : InterfaceCounters := ⟨0, 0, 0, 0, 0, 0, 0, 0, 0, 0, 0⟩

/-- `NetworkCountersRecordRx`. -/
def networkCountersRecordRx (bytes : Nat) (isMulticast : Bool) (c : InterfaceCounters) :
    InterfaceCounters :=
  let c := { c with inOctets := c.inOctets + UInt32.ofNat bytes }
  if isMulticast = true then { c with inNucast := c.inNucast + 1 }
  else { c with inUcast := c.inUcast + 1 }

/-- `NetworkCountersRecordTx`. -/
def networkCountersRecordTx (bytes : Nat) (isMulticast : Bool) (c : InterfaceCounters) :
    InterfaceCounters :=
  let c := { c with outOctets := c.outOctets + UInt32.ofNat bytes }
  if isMulticast = true then { c with outNucast := c.outNucast + 1 }
  else { c with outUcast := c.outUcast + 1 }

/-- `NetworkCountersRecordRxError`. -/
def networkCountersRecordRxError (c : InterfaceCounters) : InterfaceCounters :=
  { c with inErrors := c.inErrors + 1 }

/-- `NetworkCountersRecordTxError`. -/
def networkCountersRecordTxError (c : InterfaceCounters) : InterfaceCounters :=
  { c with outErrors := c.outErrors + 1 }

/-- `NetworkCountersRecordRxDiscard`. -/
def networkCountersRecordRxDiscard (c : InterfaceCounters) : InterfaceCounters :=
  { c with inDiscards := c.inDiscards + 1 }

/-- `NetworkCountersRecordTxDiscard`. -/
def networkCountersRecordTxDiscard (c : InterfaceCounters) : InterfaceCounters :=
  { c with outDiscards := c.outDiscards + 1 }

/-! ## 2. The object -/

/-- `CipEthernetLinkObject`, with an `OPENER_ETHLINK_INSTANCE_CNT` of 1, and without the interface
control, which is not enabled. -/
structure CipEthernetLinkObject where
  interfaceSpeed : UInt32
  interfaceFlags : UInt32
  physicalAddress : Bytes
  interfaceCntrs : InterfaceCounters
  mediaCntrs : List UInt32
  interfaceType : UInt8
  interfaceLabel : Bytes
  capabilityBits : UInt32
  speedDuplexSelector : UInt16
  address_size : physicalAddress.length = 6
  media_size : mediaCntrs.length = 12
  label_size : interfaceLabel.length < 256

/-- The object, its interface state, and the counters of the network handler. -/
structure EthernetLink where
  object : CipEthernetLinkObject
  interfaceState : UInt8
  /-- `g_network_interface_counters` -/
  counters : InterfaceCounters

/-- `NetworkResetInterfaceCounters`, also the last line of `NetworkHandlerInitialize`. -/
def networkResetInterfaceCounters (e : EthernetLink) : EthernetLink := { e with counters := .zero }

/-- `EncodeCipEthernetLinkInterfaceCounters`. -/
def encodeInterfaceCounters (c : InterfaceCounters) : Bytes :=
  [c.inOctets, c.inUcast, c.inNucast, c.inDiscards, c.inErrors, c.inUnknownProtos, c.outOctets,
    c.outUcast, c.outNucast, c.outDiscards, c.outErrors].flatMap le32

/-- `speed_duplex_table`. -/
def speedDuplexTable : List (UInt16 × UInt8) :=
  [(10, 0), (10, 1), (100, 0), (100, 1), (1000, 0), (1000, 1)]

/-- The loop that counts the bits of the selector; 16 turns are enough for 16 bits. -/
def countSelected : (turns : Nat) → UInt16 → UInt8 → UInt8
  | 0, _, count => count
  | turns + 1, selected, count =>
    if selected = 0 then count
    else countSelected turns (selected &&& (selected - 1)) (count + 1)

/-- `EncodeCipEthernetLinkInterfaceCaps`. -/
def encodeInterfaceCaps (o : CipEthernetLinkObject) : Bytes :=
  le32 o.capabilityBits ++ [countSelected 16 o.speedDuplexSelector 0] ++
    (speedDuplexTable.zipIdx.filter fun x =>
      o.speedDuplexSelector &&& (1 <<< UInt16.ofNat x.2) ≠ 0).flatMap
        fun x => le16 x.1.1 ++ [x.1.2]

/-- The two words of attribute 6, which is not enabled. -/
def encodeInterfaceControl : Bytes := le16 0 ++ le16 0

/-- `EncodeCipShortString`. -/
def encodeCipShortString (string : Bytes) : Bytes := UInt8.ofNat string.length :: string

def kEthLinkGetAndClear : UInt8 := 0x4C
def kGetAttributeAll : UInt8 := 0x01
def kGetAttributeSingle : UInt8 := 0x0E

/-- `ZeroMediaCounters`. -/
def zeroMediaCounters (e : EthernetLink) : EthernetLink :=
  { e with object :=
    { e.object with mediaCntrs := List.replicate 12 0, media_size := List.length_replicate } }

/-- The copy that attribute 4 is. -/
def setInterfaceCntrs (c : InterfaceCounters) (e : EthernetLink) : EthernetLink :=
  { e with object := { e.object with interfaceCntrs := c } }

/-- `EthLnkPreGetCallback`. -/
def ethLnkPreGetCallback : GetCallback EthernetLink := fun instanceNumber n _ e =>
  if instanceNumber = 0 ∨ 1 < instanceNumber then e
  else if n = 4 then setInterfaceCntrs e.counters e
  else if n = 5 then zeroMediaCounters e
  else e

/-- `EthLnkPostGetCallback`. -/
def ethLnkPostGetCallback : GetCallback EthernetLink := fun instanceNumber n service e =>
  if service &&& 0x7F ≠ kEthLinkGetAndClear then e
  else if instanceNumber = 0 ∨ 1 < instanceNumber then e
  else if n = 4 then networkResetInterfaceCounters (setInterfaceCntrs .zero e)
  else if n = 5 then zeroMediaCounters e
  else e

/-- The attributes that `CipEthernetLinkInit` inserts. -/
def ethernetLinkAttributes : List (Insertion EthernetLink) :=
  [⟨0, 1, kGetableSingleAndAll, fun e _ => le32 e.object.interfaceSpeed⟩,
    ⟨0, 2, kGetableSingleAndAll, fun e _ => le32 e.object.interfaceFlags⟩,
    ⟨0, 3, kGetableSingleAndAll, fun e _ => e.object.physicalAddress⟩,
    ⟨0, 4, kGetableSingleAndAll, fun e _ => encodeInterfaceCounters e.object.interfaceCntrs⟩,
    ⟨0, 5, kGetableSingleAndAll, fun e _ => e.object.mediaCntrs.flatMap le32⟩,
    ⟨0, 6, kGetableAll, fun _ _ => encodeInterfaceControl⟩,
    ⟨0, 7, kGetableSingleAndAll, fun e _ => [e.object.interfaceType]⟩,
    ⟨0, 8, kGetableAllDummy, fun e _ => [e.interfaceState]⟩,
    ⟨0, 9, kGetableAllDummy, fun _ _ => [0]⟩,
    ⟨0, 10, kGetableAll, fun e _ => encodeCipShortString e.object.interfaceLabel⟩,
    ⟨0, 11, kGetableSingleAndAll, fun e _ => encodeInterfaceCaps e.object⟩]

/-- What `CipEthernetLinkInit` and then `ApplicationInitialization` do with the class. -/
def ethernetLinkOps : List (TableOp EthernetLink) :=
  ethernetLinkAttributes.map .insert ++
    [.preGet ethLnkPreGetCallback, .postGet ethLnkPostGetCallback,
      .enable 0 4 (kPreGetFunc ||| kPostGetFunc), .enable 0 5 (kPreGetFunc ||| kPostGetFunc)]

/-- The class as it is made: 11 attributes, the highest number 11, one instance. -/
def ethernetLinkInit : Option (CipClass EthernetLink) :=
  exec tableStep (CipClass.create 11 11 [1]) ethernetLinkOps

theorem ethernetLinkInit_isSome : ethernetLinkInit.isSome = true := rfl

def ethernetLinkClass : CipClass EthernetLink := ethernetLinkInit.get ethernetLinkInit_isSome

/-- Instance 1. -/
def ethernetLinkInstance : CipInstance EthernetLink where
  instanceNumber := 1
  attributes := ethernetLinkAttributes.map fun i =>
    ⟨i.attributeNumber,
      if i.attributeNumber = 4 ∨ i.attributeNumber = 5 then
        i.cipFlags ||| (kPreGetFunc ||| kPostGetFunc)
      else i.cipFlags, some i.encode⟩

theorem ethernetLinkClass_instance :
    ethernetLinkClass.instances[0]? = some ethernetLinkInstance := rfl

theorem ethernetLinkClass_built : Built ethernetLinkClass ethernetLinkAttributes :=
  built_of_exec (Option.some_get ethernetLinkInit_isSome).symm

/-! ## 3. The services -/

section Services

variable {σ : Type}

/-- One slot in the loop of `GetAttributeAllEthernetLink`. -/
def getAllStep (c : CipClass σ) (inst : CipInstance σ) (service : UInt8) (x : Bytes × σ)
    (a : CipAttributeStruct σ) : Bytes × σ :=
  if maskHas c.getAllBitMask a.attributeNumber.toNat = true then
    let s := runCallback kPreGetFunc c.preGetCallback inst a service x.2
    (x.1 ++ (a.encode.map fun encode => encode s x.1.length).getD [],
      runCallback kPostGetFunc c.postGetCallback inst a service s)
  else x

/-- `GetAttributeAllEthernetLink`. -/
def getAttributeAllEthernetLink (c : CipClass σ) (inst : CipInstance σ) (service : UInt8) (s : σ) :
    CipMessageRouterResponse × σ :=
  if c.numberOfAttributes = 0 then (⟨0x80 ||| service, .serviceNotSupported, []⟩, s)
  else
    let x := inst.attributes.foldl (getAllStep c inst service) ([], s)
    (⟨0x80 ||| service, .success, x.1⟩, x.2)

/-- `GetAndClearEthernetLink`, which appends to the message that it is given. -/
def getAndClearEthernetLink (c : CipClass σ) (inst : CipInstance σ) (service : UInt8) (n : UInt16)
    (message : Bytes) (s : σ) : CipMessageRouterResponse × σ :=
  match getCipAttribute inst n with
  | none => (⟨0x80 ||| service, .attributeNotSupported, message⟩, s)
  | some a =>
    match a.encode with
    | none => (⟨0x80 ||| service, .attributeNotSupported, message⟩, s)
    | some encode =>
      let s := runCallback kPreGetFunc c.preGetCallback inst a service s
      (⟨0x80 ||| service, .success, message ++ encode s message.length⟩,
        runCallback kPostGetFunc c.postGetCallback inst a service s)

/-- A property that the callbacks keep. -/
theorem runCallback_keeps {P : σ → Prop} {flag : UInt8} {callback : Option (GetCallback σ)}
    {inst : CipInstance σ} {a : CipAttributeStruct σ} {service : UInt8} {s : σ} (hs : P s)
    (hcallback : ∀ f, callback = some f →
      P s → P (f inst.instanceNumber a.attributeNumber service s)) :
    P (runCallback flag callback inst a service s) := by
  unfold runCallback
  cases callback with
  | none => exact hs
  | some f =>
    dsimp only
    split
    · exact hcallback f rfl hs
    · exact hs

/-- What both callbacks keep, a reading of one attribute keeps. -/
theorem getAttributeSingle_keeps {P : σ → Prop} {c : CipClass σ} {service : UInt8}
    (hpre : ∀ f, c.preGetCallback = some f → ∀ k n s, P s → P (f k n service s))
    (hpost : ∀ f, c.postGetCallback = some f → ∀ k n s, P s → P (f k n service s))
    (inst : CipInstance σ) (n : UInt16) {s : σ} (hs : P s) :
    P (getAttributeSingle c inst service n s).2 := by
  unfold getAttributeSingle
  dsimp only
  split
  · exact hs
  · split
    · exact hs
    · split
      · exact runCallback_keeps (runCallback_keeps hs fun f hf => hpre f hf _ _ _)
          fun f hf => hpost f hf _ _ _
      · exact hs

/-- And so does a reading of all. -/
theorem getAttributeAllEthernetLink_keeps {P : σ → Prop} {c : CipClass σ} {service : UInt8}
    (hpre : ∀ f, c.preGetCallback = some f → ∀ k n s, P s → P (f k n service s))
    (hpost : ∀ f, c.postGetCallback = some f → ∀ k n s, P s → P (f k n service s))
    (inst : CipInstance σ) {s : σ} (hs : P s) :
    P (getAttributeAllEthernetLink c inst service s).2 := by
  have hstep (x : Bytes × σ) (a : CipAttributeStruct σ) (hx : P x.2) :
      P (getAllStep c inst service x a).2 := by
    unfold getAllStep
    split
    · exact runCallback_keeps (runCallback_keeps hx fun f hf => hpre f hf _ _ _)
        fun f hf => hpost f hf _ _ _
    · exact hx
  have hall (as : List (CipAttributeStruct σ)) (x : Bytes × σ) (hx : P x.2) :
      P (as.foldl (getAllStep c inst service) x).2 := by
    induction as generalizing x with
    | nil => exact hx
    | cons a as ih => exact ih _ (hstep x a hx)
  unfold getAttributeAllEthernetLink
  split
  · exact hs
  · exact hall _ _ hs

end Services

/-- `NotifyClass` for instance 1.  The message is empty when a request comes in. -/
def ethernetLinkService (service : UInt8) (n : UInt16) (e : EthernetLink) :
    CipMessageRouterResponse × EthernetLink :=
  if service = kGetAttributeSingle then
    getAttributeSingle ethernetLinkClass ethernetLinkInstance service n e
  else if service = kGetAttributeAll then
    getAttributeAllEthernetLink ethernetLinkClass ethernetLinkInstance service e
  else if service = kEthLinkGetAndClear then
    getAndClearEthernetLink ethernetLinkClass ethernetLinkInstance service n [] e
  else (⟨0x80 ||| service, .serviceNotSupported, []⟩, e)

/-- The request reads the counters and clears them. -/
def Clears (service : UInt8) (n : UInt16) : Prop := service = kEthLinkGetAndClear ∧ n = 4

instance Clears.decidable (service : UInt8) (n : UInt16) : Decidable (Clears service n) :=
  inferInstanceAs (Decidable (_ ∧ _))

/-! ## 4. What a request does to the counters -/

theorem preGet_counters (k n : UInt16) (service : UInt8) (e : EthernetLink) :
    (ethLnkPreGetCallback k n service e).counters = e.counters := by
  unfold ethLnkPreGetCallback
  split
  · rfl
  · split
    · rfl
    · split <;> rfl

theorem postGet_counters {n : UInt16} {service : UInt8} (h : ¬Clears (service &&& 0x7F) n)
    (k : UInt16) (e : EthernetLink) :
    (ethLnkPostGetCallback k n service e).counters = e.counters := by
  unfold ethLnkPostGetCallback
  split
  · rfl
  · rename_i hservice
    split
    · rfl
    · split
      · rename_i hn
        exact absurd ⟨not_not.1 hservice, hn⟩ h
      · split <;> rfl

theorem class_preGet : ethernetLinkClass.preGetCallback = some ethLnkPreGetCallback := rfl

theorem class_postGet : ethernetLinkClass.postGetCallback = some ethLnkPostGetCallback := rfl

/-- A reading of one attribute, or of all, leaves the counters. -/
theorem reading_keeps {service : UInt8} (h : service &&& 0x7F ≠ kEthLinkGetAndClear)
    (counters : InterfaceCounters) :
    (∀ f, ethernetLinkClass.preGetCallback = some f → ∀ k n (e : EthernetLink),
        e.counters = counters → (f k n service e).counters = counters) ∧
      (∀ f, ethernetLinkClass.postGetCallback = some f → ∀ k n (e : EthernetLink),
        e.counters = counters → (f k n service e).counters = counters) := by
  constructor
  · intro f hf k n e he
    rw [class_preGet] at hf
    obtain rfl := Option.some.inj hf
    rw [preGet_counters, he]
  · intro f hf k n e he
    rw [class_postGet] at hf
    obtain rfl := Option.some.inj hf
    rw [postGet_counters fun hc => h hc.1, he]

/-- Get_And_Clear of attribute 4 returns the counters, and sets them to 0. -/
theorem getAndClear_four (e : EthernetLink) :
    (ethernetLinkService kEthLinkGetAndClear 4 e).1 =
        ⟨0x80 ||| kEthLinkGetAndClear, .success, encodeInterfaceCounters e.counters⟩ ∧
      (ethernetLinkService kEthLinkGetAndClear 4 e).2.counters = .zero := ⟨rfl, rfl⟩

/-- Of any other attribute it leaves the counters. -/
theorem getAndClear_other {n : UInt16} (hn : n ≠ 4) (e : EthernetLink) :
    (ethernetLinkService kEthLinkGetAndClear n e).2.counters = e.counters := by
  change (getAndClearEthernetLink ethernetLinkClass ethernetLinkInstance kEthLinkGetAndClear n []
    e).2.counters = e.counters
  unfold getAndClearEthernetLink
  split
  · rfl
  · rename_i a ha
    have hnumber := getCipAttribute_number ha
    split
    · rfl
    · dsimp only
      rw [class_preGet, class_postGet]
      refine runCallback_keeps (P := fun u : EthernetLink => u.counters = e.counters)
        (runCallback_keeps (P := fun u : EthernetLink => u.counters = e.counters) rfl ?_) ?_
      · intro f hf hu
        obtain rfl := Option.some.inj hf
        rw [preGet_counters, hu]
      · intro f hf hu
        obtain rfl := Option.some.inj hf
        rw [postGet_counters fun hc => hn (hnumber.symm.trans hc.2), hu]

/-- A reading of attribute 4 returns the counters. -/
theorem getAttributeSingle_four (e : EthernetLink) :
    (ethernetLinkService kGetAttributeSingle 4 e).1 =
      ⟨0x80 ||| kGetAttributeSingle, .success, encodeInterfaceCounters e.counters⟩ := rfl

/-- **What a request does to the counters**: it clears them, or leaves them. -/
theorem ethernetLinkService_counters (service : UInt8) (n : UInt16) (e : EthernetLink) :
    (ethernetLinkService service n e).2.counters =
      if Clears service n then .zero else e.counters := by
  by_cases hc : Clears service n
  · obtain ⟨rfl, rfl⟩ := hc
    exact (getAndClear_four e).2
  · rw [if_neg hc]
    by_cases hsingle : service = kGetAttributeSingle
    · subst hsingle
      have hservice : kGetAttributeSingle &&& 0x7F ≠ kEthLinkGetAndClear := by decide
      obtain ⟨hpre, hpost⟩ := reading_keeps hservice e.counters
      exact getAttributeSingle_keeps (P := fun u : EthernetLink => u.counters = e.counters) hpre
        hpost _ n rfl
    · by_cases hall : service = kGetAttributeAll
      · subst hall
        have hservice : kGetAttributeAll &&& 0x7F ≠ kEthLinkGetAndClear := by decide
        obtain ⟨hpre, hpost⟩ := reading_keeps hservice e.counters
        exact getAttributeAllEthernetLink_keeps
          (P := fun u : EthernetLink => u.counters = e.counters) hpre hpost _ rfl
      · by_cases hclear : service = kEthLinkGetAndClear
        · subst hclear
          exact getAndClear_other (fun hn => hc ⟨rfl, hn⟩) e
        · unfold ethernetLinkService
          rw [if_neg hsingle, if_neg hall, if_neg hclear]

/-! ## 5. Nothing is lost and nothing counted twice -/

inductive Counter
  | inOctets
  | inUcast
  | inNucast
  | inDiscards
  | inErrors
  | inUnknownProtos
  | outOctets
  | outUcast
  | outNucast
  | outDiscards
  | outErrors
  deriving DecidableEq, Repr

def InterfaceCounters.get (c : InterfaceCounters) : Counter → UInt32
  | .inOctets => c.inOctets
  | .inUcast => c.inUcast
  | .inNucast => c.inNucast
  | .inDiscards => c.inDiscards
  | .inErrors => c.inErrors
  | .inUnknownProtos => c.inUnknownProtos
  | .outOctets => c.outOctets
  | .outUcast => c.outUcast
  | .outNucast => c.outNucast
  | .outDiscards => c.outDiscards
  | .outErrors => c.outErrors

/-- The place of a counter in attribute 4. -/
def Counter.index : Counter → Nat
  | .inOctets => 0
  | .inUcast => 1
  | .inNucast => 2
  | .inDiscards => 3
  | .inErrors => 4
  | .inUnknownProtos => 5
  | .outOctets => 6
  | .outUcast => 7
  | .outNucast => 8
  | .outDiscards => 9
  | .outErrors => 10

/-- The value of a counter in an answer that holds attribute 4. -/
def Counter.value (k : Counter) (message : Bytes) : UInt32 :=
  let byte (i : Nat) := message.getD (4 * k.index + i) 0
  glue32 (byte 0) (byte 1) (byte 2) (byte 3)

@[simp] theorem Counter.value_encode (k : Counter) (c : InterfaceCounters) :
    k.value (encodeInterfaceCounters c) = c.get k := by
  have hword (v : UInt32) :
      glue32 v.toUInt8 (v >>> 8).toUInt8 (v >>> 16).toUInt8 (v >>> 24).toUInt8 = v :=
    le32_injective (le32_glue32 _ _ _ _)
  cases k <;> exact hword _

/-- What the thread of the stack does: it counts what it receives and sends, and serves requests
to instance 1. -/
inductive LinkEvent
  | recordRx (bytes : Nat) (isMulticast : Bool)
  | recordTx (bytes : Nat) (isMulticast : Bool)
  | recordRxError
  | recordTxError
  | recordRxDiscard
  | recordTxDiscard
  | request (service : UInt8) (attributeNumber : UInt16)

/-- One event, and the answers so far to the requests that clear the counters. -/
def linkStep (x : EthernetLink × List Bytes) : LinkEvent → EthernetLink × List Bytes
  | .recordRx bytes isMulticast =>
    ({ x.1 with counters := networkCountersRecordRx bytes isMulticast x.1.counters }, x.2)
  | .recordTx bytes isMulticast =>
    ({ x.1 with counters := networkCountersRecordTx bytes isMulticast x.1.counters }, x.2)
  | .recordRxError => ({ x.1 with counters := networkCountersRecordRxError x.1.counters }, x.2)
  | .recordTxError => ({ x.1 with counters := networkCountersRecordTxError x.1.counters }, x.2)
  | .recordRxDiscard => ({ x.1 with counters := networkCountersRecordRxDiscard x.1.counters }, x.2)
  | .recordTxDiscard => ({ x.1 with counters := networkCountersRecordTxDiscard x.1.counters }, x.2)
  | .request service n =>
    let (response, e) := ethernetLinkService service n x.1
    (e, if Clears service n then x.2 ++ [response.message] else x.2)

/-- What an event adds to a counter. -/
def LinkEvent.adds : LinkEvent → Counter → Nat
  | .recordRx bytes _, .inOctets => bytes
  | .recordRx _ isMulticast, .inUcast => if isMulticast = true then 0 else 1
  | .recordRx _ isMulticast, .inNucast => if isMulticast = true then 1 else 0
  | .recordTx bytes _, .outOctets => bytes
  | .recordTx _ isMulticast, .outUcast => if isMulticast = true then 0 else 1
  | .recordTx _ isMulticast, .outNucast => if isMulticast = true then 1 else 0
  | .recordRxError, .inErrors => 1
  | .recordTxError, .outErrors => 1
  | .recordRxDiscard, .inDiscards => 1
  | .recordTxDiscard, .outDiscards => 1
  | _, _ => 0

/-- What the requests that clear have returned of a counter, and what a reading would return. -/
def LinkEvent.accounted (k : Counter) (x : EthernetLink × List Bytes) : UInt32 :=
  (x.2.map k.value).sum + k.value (ethernetLinkService kGetAttributeSingle 4 x.1).1.message

/-- What the recording functions do to one counter. -/
theorem get_record (k : Counter) (bytes : Nat) (isMulticast : Bool) (c : InterfaceCounters) :
    (networkCountersRecordRx bytes isMulticast c).get k =
        c.get k + UInt32.ofNat ((LinkEvent.recordRx bytes isMulticast).adds k) ∧
      (networkCountersRecordTx bytes isMulticast c).get k =
        c.get k + UInt32.ofNat ((LinkEvent.recordTx bytes isMulticast).adds k) := by
  constructor
  · cases isMulticast <;> cases k <;>
      simp [networkCountersRecordRx, InterfaceCounters.get, LinkEvent.adds]
  · cases isMulticast <;> cases k <;>
      simp [networkCountersRecordTx, InterfaceCounters.get, LinkEvent.adds]

theorem LinkEvent.accounted_eq (k : Counter) (x : EthernetLink × List Bytes) :
    accounted k x = (x.2.map k.value).sum + x.1.counters.get k := by
  rw [accounted, getAttributeSingle_four, Counter.value_encode]

/-- **One event** adds to what is accounted for what it counts. -/
theorem LinkEvent.accounted_step (k : Counter) (x : EthernetLink × List Bytes) (ev : LinkEvent) :
    accounted k (linkStep x ev) = accounted k x + UInt32.ofNat (ev.adds k) := by
  rw [accounted_eq, accounted_eq, UInt32.add_assoc]
  cases ev with
  | recordRx bytes isMulticast =>
    exact congrArg _ (get_record k bytes isMulticast x.1.counters).1
  | recordTx bytes isMulticast =>
    exact congrArg _ (get_record k bytes isMulticast x.1.counters).2
  | request service n =>
    have hadds : UInt32.ofNat ((LinkEvent.request service n).adds k) = 0 := by cases k <;> rfl
    rw [hadds, UInt32.add_zero]
    unfold linkStep
    dsimp only
    rw [ethernetLinkService_counters]
    by_cases hc : Clears service n
    · -- what is cleared has been returned
      rw [if_pos hc, if_pos hc]
      obtain ⟨rfl, rfl⟩ := hc
      have hzero : InterfaceCounters.zero.get k = 0 := by cases k <;> rfl
      rw [(getAndClear_four x.1).1, hzero, UInt32.add_zero, List.map_append, List.sum_append]
      simp
    · rw [if_neg hc, if_neg hc]
  | recordRxError =>
    refine congrArg _ ?_
    cases k <;> simp [linkStep, networkCountersRecordRxError, InterfaceCounters.get, LinkEvent.adds]
  | recordTxError =>
    refine congrArg _ ?_
    cases k <;> simp [linkStep, networkCountersRecordTxError, InterfaceCounters.get, LinkEvent.adds]
  | recordRxDiscard =>
    refine congrArg _ ?_
    cases k <;>
      simp [linkStep, networkCountersRecordRxDiscard, InterfaceCounters.get, LinkEvent.adds]
  | recordTxDiscard =>
    refine congrArg _ ?_
    cases k <;>
      simp [linkStep, networkCountersRecordTxDiscard, InterfaceCounters.get, LinkEvent.adds]

/-- **The counters are conserved**: from the start of the network handler on, whatever is counted
and whatever requests are served in whatever order, what the requests that clear have returned of a
counter, with what a reading would return now, is what was counted. -/
theorem counters_conserved (e : EthernetLink) (es : List LinkEvent) (k : Counter) :
    LinkEvent.accounted k (es.foldl linkStep (networkResetInterfaceCounters e, [])) =
      UInt32.ofNat (es.map fun ev => ev.adds k).sum := by
  have hrun (es : List LinkEvent) (x : EthernetLink × List Bytes) :
      LinkEvent.accounted k (es.foldl linkStep x) =
        LinkEvent.accounted k x + UInt32.ofNat (es.map fun ev => ev.adds k).sum := by
    induction es generalizing x with
    | nil => simp
    | cons ev es ih =>
      rw [List.foldl_cons, ih, LinkEvent.accounted_step, List.map_cons, List.sum_cons,
        UInt32.ofNat_add, UInt32.add_assoc]
  have hstart : LinkEvent.accounted k (networkResetInterfaceCounters e, []) = 0 := by
    rw [LinkEvent.accounted_eq]
    cases k <;> rfl
  rw [hrun, hstart, UInt32.zero_add]

end GroundTruth.Cip
