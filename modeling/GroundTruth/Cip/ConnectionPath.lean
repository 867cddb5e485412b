/-
# The connection path

A forward open ends with the path of the connection: perhaps an electronic key, perhaps a
production inhibit time, the class, the configuration instance, the connection points and the
configuration data.  `ParseConnectionPath` (`cipconnectionmanager.c`) reads it, and counts the words
of the path as it goes, by the values it finds and not by their encodings.

* `checkElectronicKeyData_iff`: which keys are accepted;
* `path_read`: a path that suits the connection and the device is accepted and read as it was
  written;
* `path_accepted`: what an accepted path names is there;
* `path_inside`: how far a path is read.
-/
import GroundTruth.Cip.Request

namespace GroundTruth.Cip.ConnectionPath

open GroundTruth.Lib GroundTruth.Encap GroundTruth.Discovery

/-! ## 1. The electronic key -/

/-- `ElectronicKeyFormat4`. -/
structure ElectronicKey where
  vendorId : UInt16
  deviceType : UInt16
  productCode : UInt16
  majorRevisionCompatibility : UInt8
  minorRevision : UInt8
  deriving DecidableEq, Repr

/-- `ElectronicKeyFormat4GetMajorRevision`. -/
def ElectronicKey.majorRevision (k : ElectronicKey) : UInt8 := k.majorRevisionCompatibility &&& 0x7F

/-- `ElectronicKeyFormat4GetMajorRevisionCompatibility`. -/
def ElectronicKey.compatible (k : ElectronicKey) : Bool :=
  decide (k.majorRevisionCompatibility &&& 0x80 = 0x80)

/-- `ConnectionManagerExtendedStatusCode`, as far as the path has it. -/
inductive ExtendedCode
  | vendorIdOrProductcode
  | deviceType
  | revisionMismatch
  | inconsistentApplicationPathCombo
  | invalidSegmentTypeInPath
  deriving DecidableEq, Repr

/-- `CheckElectronicKeyData`, for a key of format 4; `none` is success. -/
def checkElectronicKeyData (identity : CipIdentityObject) (k : ElectronicKey) :
    Option ExtendedCode :=
  if (k.vendorId ≠ identity.vendorId ∧ k.vendorId ≠ 0) ∨
      (k.productCode ≠ identity.productCode ∧ k.productCode ≠ 0) then
    some .vendorIdOrProductcode
  else if k.deviceType ≠ identity.deviceType ∧ k.deviceType ≠ 0 then some .deviceType
  else if k.compatible = false then
    if k.majorRevision = 0 then none
    else if k.majorRevision ≠ identity.majorRevision ∨
        (k.minorRevision ≠ identity.minorRevision ∧ k.minorRevision ≠ 0) then
      some .revisionMismatch
    else none
  else if k.majorRevision = identity.majorRevision ∧ 0 < k.minorRevision ∧
      k.minorRevision ≤ identity.minorRevision then none
  else some .revisionMismatch

/-- What a key asks of the device; 0 asks for nothing, but for a minor revision when compatibility
is asked for. -/
structure ElectronicKey.Fits (k : ElectronicKey) (identity : CipIdentityObject) : Prop where
  vendorId : k.vendorId = identity.vendorId ∨ k.vendorId = 0
  productCode : k.productCode = identity.productCode ∨ k.productCode = 0
  deviceType : k.deviceType = identity.deviceType ∨ k.deviceType = 0
  exact : k.compatible = false → k.majorRevision = 0 ∨ k.majorRevision = identity.majorRevision ∧
    (k.minorRevision = identity.minorRevision ∨ k.minorRevision = 0)
  compatible : k.compatible = true → k.majorRevision = identity.majorRevision ∧
    0 < k.minorRevision ∧ k.minorRevision ≤ identity.minorRevision

/-- **The keys that are accepted** are those that fit. -/
theorem checkElectronicKeyData_iff (identity : CipIdentityObject) (k : ElectronicKey) :
    checkElectronicKeyData identity k = none ↔ k.Fits identity := by
  constructor
  · intro h
    unfold checkElectronicKeyData at h
    split at h
    · cases h
    · next hids =>
      split at h
      · cases h
      · next hdevice =>
        refine ⟨by tauto, by tauto, by tauto, fun hc => ?_, fun hc => ?_⟩
        · rw [if_pos hc] at h
          split at h
          · exact .inl ‹_›
          · split at h
            · cases h
            · next hrevision => exact .inr (by tauto)
        · rw [if_neg (by rw [hc]; decide)] at h
          split at h
          · assumption
          · cases h
  · intro h
    unfold checkElectronicKeyData
    rw [if_neg (by have := h.vendorId; have := h.productCode; tauto),
      if_neg (by have := h.deviceType; tauto)]
    cases hc : k.compatible with
    | true => rw [if_neg (by decide), if_pos (h.compatible hc)]
    | false =>
      rw [if_pos rfl]
      split
      · rfl
      · next hmajor =>
        obtain hzero | hrevision := h.exact hc
        · exact absurd hzero hmajor
        · rw [if_neg (by tauto)]

/-- This device is of minor revision 0: no key that asks for compatibility fits it. -/
theorem not_fits_compatible {identity : CipIdentityObject} {k : ElectronicKey}
    (hminor : identity.minorRevision = 0) (hk : k.compatible = true) : ¬k.Fits identity := by
  intro h
  obtain ⟨-, hpos, hle⟩ := h.compatible hk
  rw [hminor] at hle
  exact absurd (UInt8.lt_of_lt_of_le hpos hle) (by decide)

/-! ## 2. The code -/

/-- What the device is: its identity, and the classes and instances that are registered. -/
structure Registry where
  identity : CipIdentityObject
  /-- the instances of a class, if there is such a class -/
  instances : UInt32 → Option (List UInt16)

/-- `GetCipInstance`: instance 0 is the class itself. -/
def hasInstance (instances : List UInt16) (n : UInt16) : Bool :=
  decide (n = 0) || decide (n ∈ instances)

/-- What the path reader looks at in `CipConnectionObject`. -/
structure PathRequest where
  isLargeForwardOpen : Bool
  /-- the production trigger is cyclic -/
  cyclic : Bool
  /-- the transport class is 3 -/
  transportClass3 : Bool
  oToTConnectionType : ConnectionType
  tToOConnectionType : ConnectionType
  requestDataSize : Nat

/-- `message`, and `remaining_path`, a `size_t`. -/
structure Walk where
  message : Nat
  remaining : UInt32

inductive GeneralStatus
  /-- `kEipStatusError` as an `EipUint8` -/
  | eipStatusError
  | tooMuchData
  | notEnoughData
  | connectionFailure
  | pathSegmentError
  deriving DecidableEq, Repr

/-- What is put into `extended_error`. -/
inductive ExtendedError
  /-- it stays as it is -/
  | kept
  | zero
  | code (c : ExtendedCode)
  /-- where in the path the error is, in words -/
  | offset (words : UInt16)
  deriving DecidableEq, Repr

structure Failure where
  general : GeneralStatus
  extended : ExtendedError
  deriving DecidableEq, Repr

def Failure.connection (c : ExtendedCode) : Failure := ⟨.connectionFailure, .code c⟩

/-- `GetPathSegmentType` and, of a logical segment, `GetPathLogicalSegmentLogicalType`. -/
def segmentType (b : UInt8) : UInt8 := b &&& 0xE0
def logicalType (b : UInt8) : UInt8 := b &&& 0x1C

/-- `GetElectronicKeyFormat4FromMessage`. -/
def readElectronicKey (data : Nat → UInt8) (pos : Nat) : ElectronicKey where
  vendorId := getUintFromMessage data (pos + 2)
  deviceType := getUintFromMessage data (pos + 4)
  productCode := getUintFromMessage data (pos + 6)
  majorRevisionCompatibility := data (pos + 8)
  minorRevision := data (pos + 9)

/-- `CipEpathGetLogicalValue`: the value and the position behind it. -/
def cipEpathGetLogicalValue (data : Nat → UInt8) (pos : Nat) : UInt32 × Nat :=
  let format := data pos &&& 0x03
  if format = 0 then ((data (pos + 1)).toUInt32, pos + 2)
  else if format = 1 then ((getUintFromMessage data (pos + 2)).toUInt32, pos + 4)
  else if format = 2 then (getUdintFromMessage data (pos + 2), pos + 6)
  else (3, pos + 1)

/-- A key of format 4. -/
def IsKey (data : Nat → UInt8) (pos : Nat) : Prop :=
  segmentType (data pos) = 0x20 ∧ logicalType (data pos) = 0x14 ∧ data pos &&& 0x03 = 0 ∧
    data (pos + 1) = 4

instance (data : Nat → UInt8) (pos : Nat) : Decidable (IsKey data pos) :=
  inferInstanceAs (Decidable (_ ∧ _))

/-- The key, if the path begins with one of format 4. -/
def takeKey (r : Registry) (data : Nat → UInt8) (w : Walk) :
    Except Failure (Option ElectronicKey × Walk) :=
  if IsKey data w.message then
    if w.remaining < 5 then .error ⟨.notEnoughData, .zero⟩
    else
      let k := readElectronicKey data w.message
      match checkElectronicKeyData r.identity k with
      | none => .ok (some k, ⟨w.message + 10, w.remaining - 5⟩)
      | some code => .error (.connection code)
  else .ok (none, w)

/-- The production inhibit time before the class; 256 says that there is none. -/
def takeInhibitTime (cyclic : Bool) (data : Nat → UInt8) (w : Walk) : UInt16 × Walk :=
  let b := data w.message
  if cyclic = false ∧ segmentType b = 0x40 ∧ b &&& 0x1F = 0x03 then
    ((data (w.message + 1)).toUInt16, ⟨w.message + 2, w.remaining - 1⟩)
  else (256, w)

/-- The class, and its instances; one word is counted for it. -/
def takeClass (r : Registry) (data : Nat → UInt8) (w : Walk) :
    Except Failure ((UInt32 × List UInt16) × Walk) :=
  let b := data w.message
  if segmentType b = 0x20 ∧ logicalType b = 0x00 then
    match cipEpathGetLogicalValue data w.message with
    | (classId, message) =>
      match r.instances classId with
      | none =>
        if 0xC8 ≤ classId then .error (.connection .invalidSegmentTypeInPath)
        else .error (.connection .inconsistentApplicationPathCombo)
      | some instances => .ok ((classId, instances), ⟨message, w.remaining - 1⟩)
  else .error (.connection .invalidSegmentTypeInPath)

/-- What is counted for an instance: by its value. -/
def instanceWords (n : UInt16) : UInt32 := if 0xFF < n then 2 else 1

/-- The configuration instance; 0 if there is none. -/
def takeConfiguration (instances : List UInt16) (data : Nat → UInt8) (w : Walk) :
    Except Failure (UInt16 × Walk) :=
  let b := data w.message
  if segmentType b = 0x20 ∧ logicalType b = 0x04 then
    match cipEpathGetLogicalValue data w.message with
    | (id, message) =>
      if 0xFFFF < id ∨ hasInstance instances id.toUInt16 = false then
        .error (.connection .invalidSegmentTypeInPath)
      else .ok (id.toUInt16, ⟨message, w.remaining - instanceWords id.toUInt16⟩)
  else .ok (0, w)

/-- One connection point. -/
def takePoint (instances : List UInt16) (data : Nat → UInt8) (w : Walk) :
    Except Failure (UInt16 × Walk) :=
  let b := data w.message
  if segmentType b = 0x20 ∧ (logicalType b = 0x04 ∨ logicalType b = 0x0C) then
    match cipEpathGetLogicalValue data w.message with
    | (id, message) =>
      if 0xFFFF < id then .error (.connection .invalidSegmentTypeInPath)
      else if hasInstance instances id.toUInt16 = false then
        .error (.connection .inconsistentApplicationPathCombo)
      else .ok (id.toUInt16, ⟨message, w.remaining - instanceWords id.toUInt16⟩)
  else .error (.connection .invalidSegmentTypeInPath)

/-- The loop over the connection points, as many as there are paths to encode. -/
def takePoints (instances : List UInt16) (data : Nat → UInt8) :
    Nat → Walk → Except Failure (List UInt16 × Walk)
  | 0, w => .ok ([], w)
  | n + 1, w => do
    let (point, w) ← takePoint instances data w
    let (points, w) ← takePoints instances data n w
    return (point :: points, w)

/-- `number_of_encoded_paths`. -/
def PathRequest.numberOfEncodedPaths (q : PathRequest) : Nat :=
  if q.oToTConnectionType = .null then if q.tToOConnectionType = .null then 0 else 1
  else if q.tToOConnectionType = .null then 1 else 2

/-- What the last loop changes: the walk, the production inhibit time and the configuration data,
their start and their length. -/
structure Tail where
  walk : Walk
  productionInhibitTime : UInt16
  configData : Nat × Nat

/-- The loop over the rest of the path; `none` if it goes on for more turns than that.  A production
inhibit time counts two words here. -/
def takeTail (cyclic : Bool) (pathSize : UInt8) (data : Nat → UInt8) :
    Nat → Tail → Option (Except Failure Tail)
  | 0, _ => none
  | turns + 1, t =>
    let m := t.walk.message
    let remaining := t.walk.remaining
    let here := ExtendedError.offset (pathSize.toUInt32 - remaining).toUInt16
    let b := data m
    if remaining = 0 then some (.ok t)
    else if segmentType b = 0x80 then
      if b &&& 0x1F = 0x00 then
        let length := (data (m + 1)).toNat * 2
        takeTail cyclic pathSize data turns
          { t with
            walk := ⟨m + (length + 2), remaining - ((data (m + 1)).toUInt32 + 1)⟩
            configData := (m + 2, length) }
      else some (.error ⟨.pathSegmentError, .kept⟩)
    else if segmentType b = 0x40 then
      if b &&& 0x1F = 0x03 then
        if cyclic = false then
          takeTail cyclic pathSize data turns
            { t with
              walk := ⟨m + 2, remaining - 2⟩
              productionInhibitTime := (data (m + 1)).toUInt16 }
        else some (.error ⟨.pathSegmentError, here⟩)
      else some (.error ⟨.pathSegmentError, .kept⟩)
    else some (.error ⟨.pathSegmentError, here⟩)

/-- What `ParseConnectionPath` finds. -/
structure ParsedPath where
  electronicKey : Option ElectronicKey
  productionInhibitTime : UInt16
  classId : UInt32
  /-- the instance of `configuration_path`, and for class 3 of `produced_path` -/
  configuration : UInt16
  /-- the instances of `consumed_path` and `produced_path`, those that are encoded -/
  points : List UInt16
  /-- `g_config_data_buffer`, as a position, and `g_config_data_length`; a connection of class 3
  leaves them as they are -/
  configData : Option (Nat × Nat)
  message : Nat
  deriving DecidableEq, Repr

def kCipMessageRouterClassCode : UInt32 := 2

/-- The path from the class on, with the key and the inhibit time that came before. -/
def parseApplicationPath (r : Registry) (q : PathRequest) (pathSize : UInt8) (data : Nat → UInt8)
    (turns : Nat) (key : Option ElectronicKey) (inhibit : UInt16) (w : Walk) :
    Option (Except Failure ParsedPath) :=
  match takeClass r data w with
  | .error e => some (.error e)
  | .ok ((classId, instances), w) =>
    match takeConfiguration instances data w with
    | .error e => some (.error e)
    | .ok (configuration, w) =>
      if q.transportClass3 = true then
        if 0 < w.remaining then some (.error (.connection .invalidSegmentTypeInPath))
        else if classId ≠ kCipMessageRouterClassCode ∨ configuration ≠ 1 then
          some (.error (.connection .inconsistentApplicationPathCombo))
        else some (.ok ⟨key, inhibit, classId, configuration, [], none, w.message⟩)
      else
        match takePoints instances data q.numberOfEncodedPaths w with
        | .error e => some (.error e)
        | .ok (points, w) =>
          (takeTail q.cyclic pathSize data turns ⟨w, inhibit, (0, 0)⟩).map fun result =>
            result.map fun t => ⟨key, t.productionInhibitTime, classId, configuration, points,
              some t.configData, t.walk.message⟩

/-- `ParseConnectionPath`, of a path at `pos`; the last loop has that many turns. -/
def parseConnectionPath (r : Registry) (q : PathRequest) (data : Nat → UInt8) (pos turns : Nat) :
    Option (Except Failure ParsedPath) :=
  let pathSize := data pos
  let headerLength := if q.isLargeForwardOpen = true then 40 else 36
  if pathSize = 0 then some (.error ⟨.eipStatusError, .kept⟩)
  else if headerLength + pathSize.toNat * 2 < q.requestDataSize then
    some (.error ⟨.tooMuchData, .zero⟩)
  else if q.requestDataSize < headerLength + pathSize.toNat * 2 then
    some (.error ⟨.notEnoughData, .zero⟩)
  else
    match takeKey r data ⟨pos + 1, pathSize.toUInt32⟩ with
    | .error e => some (.error e)
    | .ok (key, w) =>
      match takeInhibitTime q.cyclic data w with
      | (inhibit, w) => parseApplicationPath r q pathSize data turns key inhibit w

/-! ## 3. Paths as they are written -/

/-- A connection point, as a segment of that type or of an instance id. -/
structure Point where
  connectionPoint : Bool
  instanceId : UInt16
  deriving DecidableEq, Repr

/-- What a connection path says. -/
structure Route where
  key : Option ElectronicKey
  inhibit : Option UInt8
  classId : UInt8
  configuration : Option UInt16
  points : List Point
  data : Option Bytes
  deriving DecidableEq, Repr

def ElectronicKey.encoded (k : ElectronicKey) : Bytes :=
  [0x34, 4] ++ (le16 k.vendorId ++ (le16 k.deviceType ++ (le16 k.productCode ++
    [k.majorRevisionCompatibility, k.minorRevision])))

/-- An id, in 16 bits if it needs them. -/
def encodedId (code : UInt8) (n : UInt16) : Bytes :=
  if 0xFF < n then [code + 1, 0] ++ le16 n else [code, n.toUInt8]

def idWords (n : UInt16) : Nat := if 0xFF < n then 2 else 1

def Point.code (x : Point) : UInt8 := if x.connectionPoint = true then 0x2C else 0x24

def Point.encoded (x : Point) : Bytes := encodedId x.code x.instanceId

/-- A data segment. -/
def dataSegment (bs : Bytes) : Bytes := [0x80, .ofNat (bs.length / 2)] ++ bs

namespace Route

def keyBytes (p : Route) : Bytes := p.key.elim [] ElectronicKey.encoded
def inhibitBytes (p : Route) : Bytes := p.inhibit.elim [] fun v => [0x43, v]
def configurationBytes (p : Route) : Bytes := p.configuration.elim [] (encodedId 0x24)
def pointBytes (p : Route) : Bytes := p.points.flatMap Point.encoded
def dataBytes (p : Route) : Bytes := p.data.elim [] dataSegment

def encoded (p : Route) : Bytes :=
  p.keyBytes ++ (p.inhibitBytes ++ ([0x20, p.classId] ++ (p.configurationBytes ++
    (p.pointBytes ++ p.dataBytes))))

def pointWords (p : Route) : Nat := (p.points.map fun x => idWords x.instanceId).sum
def dataWords (p : Route) : Nat := p.data.elim 0 fun bs => bs.length / 2 + 1
def configurationWords (p : Route) : Nat := p.configuration.elim 0 idWords

/-- The words from behind the class on. -/
def restWords (p : Route) : Nat := p.configurationWords + (p.pointWords + p.dataWords)

def words (p : Route) : Nat :=
  (if p.key.isSome = true then 5 else 0) +
    ((if p.inhibit.isSome = true then 1 else 0) + (1 + p.restWords))

/-- What is read of it, if the path is at `pos`. -/
def parsed (p : Route) (q : PathRequest) (pos : Nat) : ParsedPath where
  electronicKey := p.key
  productionInhibitTime := p.inhibit.elim 256 UInt8.toUInt16
  classId := p.classId.toUInt32
  configuration := p.configuration.getD 0
  points := p.points.map Point.instanceId
  configData :=
    if q.transportClass3 = true then none
    else some (p.data.elim (0, 0) fun bs => (pos + 1 + 2 * p.words - bs.length, bs.length))
  message := pos + 1 + 2 * p.words

end Route

/-- The path suits the connection and the device.  Without a configuration instance the first point
has to be a connection point, or it would be taken for one. -/
structure Suits (r : Registry) (q : PathRequest) (p : Route) : Prop where
  key : ∀ k ∈ p.key, k.Fits r.identity
  inhibit : p.inhibit.isSome = true → q.cyclic = false
  instances : ∃ instances, r.instances p.classId.toUInt32 = some instances ∧
    (∀ n ∈ p.configuration, hasInstance instances n = true) ∧
    ∀ x ∈ p.points, hasInstance instances x.instanceId = true
  first : p.configuration = none → ∃ x ∈ p.points.head?, x.connectionPoint = true
  explicit : q.transportClass3 = true → p.classId = 2 ∧ p.configuration = some 1 ∧ p.points = [] ∧
    p.data = none
  io : q.transportClass3 = false → p.points.length = q.numberOfEncodedPaths
  data : ∀ bs ∈ p.data, bs.length % 2 = 0
  words : p.words ≤ 255
  size : q.requestDataSize =
    (if q.isLargeForwardOpen = true then 40 else 36) + p.words * 2

variable {r : Registry} {q : PathRequest} {p : Route} {data : Nat → UInt8} {pos m k : Nat}
  {bs : Bytes} {n : UInt16} {code b : UInt8} {instances : List UInt16}

/-! ## 4. Reading a path -/

theorem holds_cons : Holds data pos (b :: bs) ↔ data pos = b ∧ Holds data (pos + 1) bs := by
  have hsplit : b :: bs = [b] ++ bs := rfl
  rw [hsplit, holds_append]
  simp [Holds, bytesAt]

theorem encodedId_length (code : UInt8) (n : UInt16) :
    (encodedId code n).length = 2 * idWords n := by
  unfold encodedId idWords
  split <;> rfl

theorem ofNat_sub (k j : Nat) : UInt32.ofNat (k + j) - .ofNat j = .ofNat k := by
  rw [UInt32.ofNat_add, UInt32.add_sub_cancel]

theorem instanceWords_eq (n : UInt16) : instanceWords n = .ofNat (idWords n) := by
  unfold instanceWords idWords
  split <;> rfl

/-- An id is read as it was written. -/
theorem encodedId_read (h : Holds data m (encodedId code n)) (hid : code = 0x24 ∨ code = 0x2C) :
    (data m = code ∨ data m = code + 1) ∧
      cipEpathGetLogicalValue data m = (n.toUInt32, m + 2 * idWords n) := by
  have hcode : code &&& 0x03 = 0 := by rcases hid with rfl | rfl <;> rfl
  have hcode' : (code + 1) &&& 0x03 = 1 := by rcases hid with rfl | rfl <;> rfl
  unfold encodedId at h
  unfold cipEpathGetLogicalValue idWords
  split at h
  · next hwide =>
    obtain ⟨hfront, hvalue⟩ := holds_append.mp h
    obtain ⟨hat, -⟩ := holds_cons.mp hfront
    have hv : getUintFromMessage data (m + 2) = n := hvalue.uint
    refine ⟨.inr hat, ?_⟩
    simp only [hat, hcode', hv, if_pos hwide]
    rfl
  · next hnarrow =>
    obtain ⟨hat, hrest⟩ := holds_cons.mp h
    obtain ⟨hv, -⟩ := holds_cons.mp hrest
    refine ⟨.inl hat, ?_⟩
    have hvalue : n.toUInt8.toUInt32 = n.toUInt32 := by
      have hlt : n.toNat < 256 := by
        have h := UInt16.not_lt.mp hnarrow
        exact Nat.lt_succ_of_le (UInt16.le_iff_toNat_le.mp h)
      rw [← UInt32.toNat_inj, UInt8.toNat_toUInt32, UInt16.toNat_toUInt8, UInt16.toNat_toUInt32]
      exact Nat.mod_eq_of_lt hlt
    simp only [hat, hcode, hv, if_neg hnarrow, hvalue]
    rfl

theorem takeKey_some {key : ElectronicKey} (h : Holds data m key.encoded)
    (hkey : checkElectronicKeyData r.identity key = none) (hk : k < 4294967291) :
    takeKey r data ⟨m, .ofNat (5 + k)⟩ = .ok (some key, ⟨m + 10, .ofNat k⟩) := by
  obtain ⟨hfront, h⟩ := holds_append.mp h
  obtain ⟨hat, hformat⟩ := holds_cons.mp hfront
  obtain ⟨hformat, -⟩ := holds_cons.mp hformat
  obtain ⟨hvendor, h⟩ := holds_append.mp h
  obtain ⟨hdevice, h⟩ := holds_append.mp h
  obtain ⟨hproduct, h⟩ := holds_append.mp h
  obtain ⟨hmajor, h⟩ := holds_cons.mp h
  obtain ⟨hminor, -⟩ := holds_cons.mp h
  have hread : readElectronicKey data m = key := by
    rw [readElectronicKey]
    exact ElectronicKey.mk.injEq .. ▸ ⟨hvendor.uint, hdevice.uint, hproduct.uint, hmajor, hminor⟩
  have hlong : ¬UInt32.ofNat (5 + k) < 5 := by
    rw [UInt32.lt_iff_toNat_lt, UInt32.toNat_ofNat', Nat.mod_eq_of_lt (by omega)]
    exact Nat.not_lt.mpr (Nat.le_add_right 5 k)
  have hsub : UInt32.ofNat (5 + k) - 5 = .ofNat k := by
    rw [Nat.add_comm]
    exact ofNat_sub k 5
  have hcode : IsKey data m := by
    rw [IsKey, hat, hformat]
    decide
  rw [takeKey, if_pos hcode]
  dsimp only
  rw [hread, hkey, if_neg hlong, hsub]

/-- What begins otherwise has no key. -/
theorem takeKey_none {w : Walk} (h : data w.message = 0x43 ∨ data w.message = 0x20) :
    takeKey r data w = .ok (none, w) := by
  have hother : ¬IsKey data w.message := by
    rw [IsKey]
    rcases h with h | h
    · rw [h]
      exact fun hc => absurd hc.1 (by decide)
    · rw [h]
      exact fun hc => absurd hc.2.1 (by decide)
  rw [takeKey, if_neg hother]

theorem takeInhibitTime_some {v : UInt8} (h : Holds data m [0x43, v]) :
    takeInhibitTime false data ⟨m, .ofNat (1 + k)⟩ = (v.toUInt16, ⟨m + 2, .ofNat k⟩) := by
  obtain ⟨hat, h⟩ := holds_cons.mp h
  obtain ⟨hv, -⟩ := holds_cons.mp h
  have hsub : UInt32.ofNat (1 + k) - 1 = .ofNat k := by
    rw [Nat.add_comm]
    exact ofNat_sub k 1
  rw [takeInhibitTime]
  dsimp only
  rw [hat, hv, if_pos (by decide), hsub]

theorem takeInhibitTime_none (cyclic : Bool) {w : Walk} (h : data w.message = 0x20) :
    takeInhibitTime cyclic data w = (256, w) := by
  rw [takeInhibitTime, h, if_neg fun hc => absurd hc.2.1 (by decide)]

theorem takeClass_eq {classId : UInt8} (h : Holds data m [0x20, classId])
    (hclass : r.instances classId.toUInt32 = some instances) :
    takeClass r data ⟨m, .ofNat (1 + k)⟩ =
      .ok ((classId.toUInt32, instances), ⟨m + 2, .ofNat k⟩) := by
  obtain ⟨hat, h⟩ := holds_cons.mp h
  obtain ⟨hv, -⟩ := holds_cons.mp h
  have hsub : UInt32.ofNat (1 + k) - 1 = .ofNat k := by
    rw [Nat.add_comm]
    exact ofNat_sub k 1
  have hvalue : cipEpathGetLogicalValue data m = (classId.toUInt32, m + 2) := by
    rw [cipEpathGetLogicalValue, hat, hv, if_pos (by decide)]
  rw [takeClass]
  dsimp only
  rw [hat, hvalue, if_pos (by decide)]
  dsimp only
  rw [hclass, hsub]

theorem id_le (n : UInt16) : ¬(0xFFFF : UInt32) < n.toUInt32 := by
  have hn := n.toNat_lt
  rw [UInt32.lt_iff_toNat_lt, UInt16.toNat_toUInt32]
  exact Nat.not_lt.mpr (Nat.le_of_lt_succ hn)

theorem takeConfiguration_some (h : Holds data m (encodedId 0x24 n))
    (hinstance : hasInstance instances n = true) :
    takeConfiguration instances data ⟨m, .ofNat (idWords n + k)⟩ =
      .ok (n, ⟨m + 2 * idWords n, .ofNat k⟩) := by
  obtain ⟨hat, hvalue⟩ := encodedId_read h (.inl rfl)
  have htype : segmentType (data m) = 0x20 ∧ logicalType (data m) = 0x04 := by
    rcases hat with hat | hat <;> rw [hat] <;> decide
  have hid : n.toUInt32.toUInt16 = n := UInt16.toUInt16_toUInt32 n
  rw [takeConfiguration]
  dsimp only
  rw [if_pos htype, hvalue]
  dsimp only
  rw [hid, hinstance, if_neg (by simpa using id_le n), instanceWords_eq, Nat.add_comm (idWords n),
    ofNat_sub]

theorem takeConfiguration_none {w : Walk}
    (h : data w.message = 0x2C ∨ data w.message = 0x2D) :
    takeConfiguration instances data w = .ok (0, w) := by
  rw [takeConfiguration]
  rcases h with h | h
  · dsimp only
    rw [h, if_neg fun hc => absurd hc.2 (by decide)]
  · dsimp only
    rw [h, if_neg fun hc => absurd hc.2 (by decide)]

theorem takePoint_eq {x : Point} (h : Holds data m x.encoded)
    (hinstance : hasInstance instances x.instanceId = true) :
    takePoint instances data ⟨m, .ofNat (idWords x.instanceId + k)⟩ =
      .ok (x.instanceId, ⟨m + 2 * idWords x.instanceId, .ofNat k⟩) := by
  have hcode : x.code = 0x24 ∨ x.code = 0x2C := by
    unfold Point.code
    split
    · exact .inr rfl
    · exact .inl rfl
  obtain ⟨hat, hvalue⟩ := encodedId_read h hcode
  have htype : segmentType (data m) = 0x20 ∧
      (logicalType (data m) = 0x04 ∨ logicalType (data m) = 0x0C) := by
    rcases hat with hat | hat <;> rcases hcode with hcode | hcode <;> rw [hat, hcode] <;> decide
  have hid : x.instanceId.toUInt32.toUInt16 = x.instanceId := UInt16.toUInt16_toUInt32 _
  rw [takePoint]
  dsimp only
  rw [if_pos htype, hvalue]
  dsimp only
  rw [hid, hinstance, if_neg (id_le _), if_neg (by decide), instanceWords_eq,
    Nat.add_comm (idWords x.instanceId), ofNat_sub]

theorem takePoints_eq {points : List Point} (h : Holds data m (points.flatMap Point.encoded))
    (hinstances : ∀ x ∈ points, hasInstance instances x.instanceId = true) :
    takePoints instances data points.length
        ⟨m, .ofNat ((points.map fun x => idWords x.instanceId).sum + k)⟩ =
      .ok (points.map Point.instanceId,
        ⟨m + 2 * (points.map fun x => idWords x.instanceId).sum, .ofNat k⟩) := by
  induction points generalizing m with
  | nil => simp [takePoints]
  | cons x points ih =>
    obtain ⟨hx, hrest⟩ := holds_append.mp h
    rw [Point.encoded, encodedId_length] at hrest
    have hpoint := @takePoint_eq data m
      ((points.map fun x => idWords x.instanceId).sum + k) instances x hx
      (hinstances x List.mem_cons_self)
    have hpoints := ih hrest fun y hy => hinstances y (List.mem_cons_of_mem x hy)
    rw [List.length_cons, takePoints, List.map_cons, List.sum_cons, Nat.add_assoc, hpoint]
    simp only [bind, Except.bind, hpoints, pure, Except.pure, List.map_cons]
    congr 3
    omega

theorem takeTail_end (cyclic : Bool) (pathSize : UInt8) (data : Nat → UInt8) (turns : Nat)
    {t : Tail} (h : t.walk.remaining = 0) :
    takeTail cyclic pathSize data (turns + 1) t = some (.ok t) := by
  rw [takeTail]
  dsimp only
  rw [if_pos h]

theorem takeTail_data {cyclic : Bool} {pathSize : UInt8} {turns : Nat} {inhibit : UInt16}
    {config : Nat × Nat} (h : Holds data m (dataSegment bs)) (heven : bs.length % 2 = 0)
    (hsize : bs.length / 2 + 1 ≤ 255) (hturns : 2 ≤ turns) :
    takeTail cyclic pathSize data turns ⟨⟨m, .ofNat (bs.length / 2 + 1)⟩, inhibit, config⟩ =
      some (.ok ⟨⟨m + 2 * (bs.length / 2 + 1), 0⟩, inhibit, (m + 2, bs.length)⟩) := by
  obtain ⟨turns, rfl⟩ := Nat.exists_eq_add_of_le' hturns
  obtain ⟨hfront, -⟩ := holds_append.mp h
  obtain ⟨hat, hlength⟩ := holds_cons.mp hfront
  obtain ⟨hlength, -⟩ := holds_cons.mp hlength
  have hnonzero : UInt32.ofNat (bs.length / 2 + 1) ≠ 0 := by
    rw [Ne, ← UInt32.toNat_inj, UInt32.toNat_ofNat', Nat.mod_eq_of_lt (by omega)]
    exact Nat.succ_ne_zero _
  have hbyte : (UInt8.ofNat (bs.length / 2)).toNat = bs.length / 2 := by
    rw [UInt8.toNat_ofNat', Nat.mod_eq_of_lt (by omega)]
  have hleft :
      UInt32.ofNat (bs.length / 2 + 1) - ((UInt8.ofNat (bs.length / 2)).toUInt32 + 1) = 0 := by
    have hword : (UInt8.ofNat (bs.length / 2)).toUInt32 = .ofNat (bs.length / 2) := by
      rw [← UInt32.toNat_inj, UInt8.toNat_toUInt32, hbyte, UInt32.toNat_ofNat',
        Nat.mod_eq_of_lt (by omega)]
    rw [hword, UInt32.ofNat_add]
    exact UInt32.sub_self _
  rw [takeTail]
  dsimp only
  rw [if_neg hnonzero, hat, hlength, if_pos (by decide), if_pos (by decide), hbyte, hleft]
  rw [takeTail_end _ _ _ _ rfl]
  congr 4
  · omega
  · omega

/-! ## 5. Routes -/

theorem ElectronicKey.encoded_length (k : ElectronicKey) : k.encoded.length = 10 := rfl

theorem key_read (hsuits : Suits r q p) (h : Holds data m p.keyBytes)
    (hnext : data (m + p.keyBytes.length) = 0x43 ∨ data (m + p.keyBytes.length) = 0x20)
    (hk : k < 256) :
    takeKey r data ⟨m, .ofNat ((if p.key.isSome = true then 5 else 0) + k)⟩ =
      .ok (p.key, ⟨m + p.keyBytes.length, .ofNat k⟩) := by
  have hcheck := hsuits.key
  unfold Route.keyBytes at h hnext ⊢
  cases hkey : p.key with
  | none =>
    rw [hkey] at hnext
    rw [takeKey_none hnext]
    simp
  | some key =>
    rw [hkey] at h hcheck
    exact takeKey_some h ((checkElectronicKeyData_iff _ _).mpr (hcheck key rfl)) (by omega)

theorem inhibit_read (hsuits : Suits r q p) (h : Holds data m p.inhibitBytes)
    (hnext : data (m + p.inhibitBytes.length) = 0x20) :
    takeInhibitTime q.cyclic data ⟨m, .ofNat ((if p.inhibit.isSome = true then 1 else 0) + k)⟩ =
      (p.inhibit.elim 256 UInt8.toUInt16, ⟨m + p.inhibitBytes.length, .ofNat k⟩) := by
  have hcyclic := hsuits.inhibit
  unfold Route.inhibitBytes at h hnext ⊢
  cases hinhibit : p.inhibit with
  | none =>
    rw [hinhibit] at hnext
    rw [takeInhibitTime_none q.cyclic hnext]
    simp
  | some v =>
    rw [hinhibit] at h hcyclic
    rw [hcyclic rfl]
    exact takeInhibitTime_some h

/-- The first point shows that there is no configuration instance. -/
theorem point_first (h : Holds data m p.pointBytes)
    (hfirst : ∃ x ∈ p.points.head?, x.connectionPoint = true) : data m = 0x2C ∨ data m = 0x2D := by
  obtain ⟨x, hx, hpoint⟩ := hfirst
  unfold Route.pointBytes at h
  cases hpoints : p.points with
  | nil =>
    rw [hpoints] at hx
    cases hx
  | cons y points =>
    rw [hpoints] at hx h
    cases hx
    have hcode : x.code = 0x2C := by rw [Point.code, if_pos hpoint]
    obtain ⟨hx, -⟩ := holds_append.mp h
    obtain ⟨hat, -⟩ := encodedId_read hx (.inr hcode)
    rw [hcode] at hat
    exact hat

theorem configuration_read (hsuits : Suits r q p) (h : Holds data m p.configurationBytes)
    (hpoints : Holds data (m + p.configurationBytes.length) p.pointBytes)
    (hinstances : ∀ n ∈ p.configuration, hasInstance instances n = true) :
    takeConfiguration instances data ⟨m, .ofNat (p.configurationWords + k)⟩ =
      .ok (p.configuration.getD 0, ⟨m + p.configurationBytes.length, .ofNat k⟩) := by
  have hfirst := hsuits.first
  unfold Route.configurationBytes at h hpoints ⊢
  unfold Route.configurationWords
  cases hconfiguration : p.configuration with
  | none =>
    rw [hconfiguration] at hpoints
    rw [takeConfiguration_none (point_first hpoints (hfirst hconfiguration))]
    simp
  | some n =>
    rw [hconfiguration] at h hinstances
    have hread := takeConfiguration_some (k := k) h (hinstances n rfl)
    rw [Option.elim_some, Option.elim_some, encodedId_length]
    exact hread

theorem tail_read {inhibit : UInt16} {cyclic : Bool} {pathSize : UInt8} {turns : Nat}
    (hsuits : Suits r q p) (h : Holds data m p.dataBytes) (hwords : p.dataWords ≤ 255)
    (hturns : 2 ≤ turns) :
    takeTail cyclic pathSize data turns ⟨⟨m, .ofNat p.dataWords⟩, inhibit, (0, 0)⟩ =
      some (.ok ⟨⟨m + 2 * p.dataWords, 0⟩, inhibit,
        p.data.elim (0, 0) fun bs => (m + 2 * p.dataWords - bs.length, bs.length)⟩) := by
  have heven := hsuits.data
  unfold Route.dataBytes at h
  unfold Route.dataWords at hwords ⊢
  cases hdata : p.data with
  | none =>
    obtain ⟨turns, rfl⟩ := Nat.exists_eq_add_of_le' hturns
    exact takeTail_end cyclic pathSize data _ rfl
  | some bs =>
    rw [hdata] at h hwords heven
    have hbs := heven bs rfl
    simp only [Option.elim_some] at hwords ⊢
    rw [takeTail_data h hbs hwords hturns]
    congr 4
    omega

theorem configurationBytes_length (p : Route) :
    p.configurationBytes.length = 2 * p.configurationWords := by
  unfold Route.configurationBytes Route.configurationWords
  cases p.configuration with
  | none => rfl
  | some n => exact encodedId_length 0x24 n

theorem pointBytes_length (p : Route) : p.pointBytes.length = 2 * p.pointWords := by
  unfold Route.pointBytes Route.pointWords
  induction p.points with
  | nil => rfl
  | cons x points ih =>
    rw [List.flatMap_cons, List.length_append, ih, List.map_cons, List.sum_cons, Point.encoded,
      encodedId_length, Nat.mul_add]

/-- The application path is read as it was written. -/
theorem application_read {pathSize : UInt8} {turns : Nat} (hsuits : Suits r q p)
    (hturns : 2 ≤ turns) (key : Option ElectronicKey) (inhibit : UInt16)
    (h : Holds data m
      ([0x20, p.classId] ++ (p.configurationBytes ++ (p.pointBytes ++ p.dataBytes)))) :
    parseApplicationPath r q pathSize data turns key inhibit ⟨m, .ofNat (1 + p.restWords)⟩ =
      some (.ok ⟨key, inhibit, p.classId.toUInt32, p.configuration.getD 0,
        p.points.map Point.instanceId,
        if q.transportClass3 = true then none
        else some (p.data.elim (0, 0) fun bs =>
          (m + 2 * (1 + p.restWords) - bs.length, bs.length)),
        m + 2 * (1 + p.restWords)⟩) := by
  obtain ⟨hclass, h⟩ := holds_append.mp h
  change Holds data (m + 2) _ at h
  obtain ⟨hconfiguration, h⟩ := holds_append.mp h
  obtain ⟨hpoints, hdata⟩ := holds_append.mp h
  obtain ⟨instances, hregistered, hinstance, hinstances⟩ := hsuits.instances
  have hwords := hsuits.words
  have hrest : p.restWords = p.configurationWords + (p.pointWords + p.dataWords) := rfl
  have hlarge : 1 + p.restWords ≤ 255 := by
    refine le_trans ?_ hwords
    rw [Route.words]
    omega
  rw [parseApplicationPath, takeClass_eq hclass hregistered]
  dsimp only
  rw [hrest, configuration_read hsuits hconfiguration hpoints hinstance]
  dsimp only
  have hlast : m + 2 + p.configurationBytes.length + 2 * p.pointWords + 2 * p.dataWords =
      m + 2 * (1 + (p.configurationWords + (p.pointWords + p.dataWords))) := by
    rw [configurationBytes_length]
    omega
  cases hclass3 : q.transportClass3 with
  | true =>
    obtain ⟨hrouter, hone, hnone, hnodata⟩ := hsuits.explicit hclass3
    have hpointWords : p.pointWords = 0 := by rw [Route.pointWords, hnone]; rfl
    have hdataWords : p.dataWords = 0 := by rw [Route.dataWords, hnodata]; rfl
    rw [hpointWords, hdataWords] at hlast ⊢
    rw [if_pos rfl, if_neg (by decide), hrouter, hone, hnone, if_neg (by decide)]
    simp only [List.map_nil, Option.getD_some]
    rw [← hlast]
    rfl
  | false =>
    have hcount := hsuits.io hclass3
    have hread : takePoints instances data p.points.length
        ⟨m + 2 + p.configurationBytes.length, .ofNat (p.pointWords + p.dataWords)⟩ =
          .ok (p.points.map Point.instanceId,
            ⟨m + 2 + p.configurationBytes.length + 2 * p.pointWords, .ofNat p.dataWords⟩) :=
      takePoints_eq hpoints hinstances
    rw [if_neg (by decide), ← hcount, hread]
    dsimp only
    rw [pointBytes_length] at hdata
    rw [tail_read hsuits hdata (by omega) hturns, ← hlast]
    rfl

theorem Route.words_pos (p : Route) : 0 < p.words := by
  rw [Route.words]
  omega

/-- **A path is read as it was written**, if it suits the connection and the device. -/
theorem path_read {turns : Nat} (hsuits : Suits r q p) (hturns : 2 ≤ turns)
    (h : Holds data pos (.ofNat p.words :: p.encoded)) :
    parseConnectionPath r q data pos turns = some (.ok (p.parsed q pos)) := by
  have hwords := hsuits.words
  have hpos := p.words_pos
  obtain ⟨hsize, h⟩ := holds_cons.mp h
  obtain ⟨hkey, h⟩ := holds_append.mp h
  obtain ⟨hinhibit, h⟩ := holds_append.mp h
  have hbyte : (UInt8.ofNat p.words).toNat = p.words := by
    rw [UInt8.toNat_ofNat', Nat.mod_eq_of_lt (by omega)]
  have hnonzero : UInt8.ofNat p.words ≠ 0 := by
    rw [Ne, ← UInt8.toNat_inj, hbyte]
    exact Nat.pos_iff_ne_zero.mp hpos
  have hword : (UInt8.ofNat p.words).toUInt32 = .ofNat p.words := by
    rw [← UInt32.toNat_inj, UInt8.toNat_toUInt32, hbyte, UInt32.toNat_ofNat',
      Nat.mod_eq_of_lt (by omega)]
  have hclassAt : data (pos + 1 + p.keyBytes.length + p.inhibitBytes.length) = 0x20 :=
    (holds_cons.mp (holds_append.mp h).1).1
  have hinhibitAt : data (pos + 1 + p.keyBytes.length) = 0x43 ∨
      data (pos + 1 + p.keyBytes.length) = 0x20 := by
    unfold Route.inhibitBytes at hinhibit hclassAt
    cases hv : p.inhibit with
    | none =>
      rw [hv] at hclassAt
      exact .inr hclassAt
    | some v =>
      rw [hv] at hinhibit
      exact .inl (holds_cons.mp hinhibit).1
  have hkeyRead := key_read (k := (if p.inhibit.isSome = true then 1 else 0) + (1 + p.restWords))
    hsuits hkey hinhibitAt (by rw [Route.words] at hwords; omega)
  have hinhibitRead := inhibit_read (k := 1 + p.restWords) hsuits hinhibit hclassAt
  have happlication := @application_read _ _ _ _ _ (.ofNat p.words) turns hsuits hturns p.key
    (p.inhibit.elim 256 UInt8.toUInt16) h
  have hend : pos + 1 + p.keyBytes.length + p.inhibitBytes.length + 2 * (1 + p.restWords) =
      pos + 1 + 2 * p.words := by
    have hk : p.keyBytes.length = 2 * (if p.key.isSome = true then 5 else 0) := by
      unfold Route.keyBytes
      cases p.key <;> rfl
    have hi : p.inhibitBytes.length = 2 * (if p.inhibit.isSome = true then 1 else 0) := by
      unfold Route.inhibitBytes
      cases p.inhibit <;> rfl
    rw [hk, hi, Route.words]
    omega
  rw [parseConnectionPath, hsize]
  dsimp only
  rw [if_neg hnonzero, hbyte, if_neg (by rw [hsuits.size]; exact Nat.lt_irrefl _),
    if_neg (by rw [hsuits.size]; exact Nat.lt_irrefl _), hword, Route.words, hkeyRead]
  dsimp only
  rw [hinhibitRead]
  dsimp only
  rw [← Route.words, happlication, hend]
  rfl

/-- The device, with its message router and its assemblies. -/
def thisDevice : Registry where
  identity := ⟨55512, 7, 1, 1, 0, 0, 123456789, [0x45, 0x53, 0x50, 0x33, 0x32, 0x50, 0x34], 3,
    by decide⟩
  instances classId :=
    if classId = 2 then some [1] else if classId = 4 then some [150, 100, 151] else none

/-- An exclusive owner connection with a key, a production inhibit time and configuration data. -/
def ownerRoute : Route :=
  ⟨some ⟨55512, 7, 1, 1, 0⟩, some 20, 4, some 151, [⟨true, 150⟩, ⟨true, 100⟩], some [1, 2, 3, 4]⟩

def ownerRequest : PathRequest := ⟨false, false, false, .pointToPoint, .multicast, 36 + 13 * 2⟩

theorem ownerRoute_suits : Suits thisDevice ownerRequest ownerRoute where
  key := by
    rintro k ⟨⟩
    exact (checkElectronicKeyData_iff _ _).mp (by decide)
  inhibit _ := rfl
  instances := ⟨_, rfl, by rintro n ⟨⟩; decide, by decide⟩
  first := by decide
  explicit := by decide
  io _ := rfl
  data := by rintro bs ⟨⟩; rfl
  words := by decide
  size := rfl

theorem path_read_owner :
    parseConnectionPath thisDevice ownerRequest
        (buffer (.ofNat ownerRoute.words :: ownerRoute.encoded)) 0 2 =
      some (.ok (ownerRoute.parsed ownerRequest 0)) :=
  path_read ownerRoute_suits (by decide) rfl

/-! ## 6. What is accepted -/

/-- `w'` is reached from `w` by reading, with up to `k` words counted and up to `surplus` bytes read
that were not. -/
def Reads (w w' : Walk) (k surplus : Nat) : Prop :=
  ∃ words ≤ k, w.remaining = w'.remaining + .ofNat words ∧
    w'.message ≤ w.message + 2 * words + surplus

theorem Reads.refl (w : Walk) (k surplus : Nat) : Reads w w k surplus :=
  ⟨0, Nat.zero_le k, (UInt32.add_zero _).symm, Nat.le_add_right _ _⟩

theorem Reads.trans {w w' w'' : Walk} {k k' surplus surplus' : Nat} (h : Reads w w' k surplus)
    (h' : Reads w' w'' k' surplus') : Reads w w'' (k + k') (surplus + surplus') := by
  obtain ⟨words, hk, hremaining, hmessage⟩ := h
  obtain ⟨words', hk', hremaining', hmessage'⟩ := h'
  refine ⟨words + words', Nat.add_le_add hk hk', ?_, by omega⟩
  rw [hremaining, hremaining', UInt32.ofNat_add, UInt32.add_assoc, UInt32.add_comm (.ofNat words')]

theorem reads_of_le {w : Walk} {message : Nat} {words k surplus : Nat} (hk : words ≤ k)
    (h : message ≤ w.message + 2 * words + surplus) :
    Reads w ⟨message, w.remaining - .ofNat words⟩ k surplus :=
  ⟨words, hk, (UInt32.sub_add_cancel _ _).symm, h⟩

/-- What was counted had been there, unless the count wrapped. -/
theorem Reads.inside {w w' : Walk} {k surplus : Nat} (h : Reads w w' k surplus)
    (hsize : w'.remaining.toNat + k < 4294967296) :
    w'.message + 2 * w'.remaining.toNat ≤ w.message + 2 * w.remaining.toNat + surplus := by
  obtain ⟨words, hk, hremaining, hmessage⟩ := h
  have hsum : w.remaining.toNat = w'.remaining.toNat + words := by
    rw [hremaining, UInt32.toNat_add, UInt32.toNat_ofNat', Nat.mod_eq_of_lt (a := words) (by omega),
      Nat.mod_eq_of_lt (by omega)]
  omega

/-- The key that a path at `pos` begins with. -/
def keyAt (data : Nat → UInt8) (pos : Nat) : Option ElectronicKey :=
  if IsKey data pos then some (readElectronicKey data pos) else none

theorem takeKey_ok {w w' : Walk} {key : Option ElectronicKey}
    (h : takeKey r data w = .ok (key, w')) :
    key = keyAt data w.message ∧ (∀ k ∈ key, k.Fits r.identity) ∧ Reads w w' 5 0 := by
  unfold takeKey at h
  unfold keyAt
  split at h
  · next hkey =>
    rw [if_pos hkey]
    dsimp only at h
    split at h
    · cases h
    · split at h
      · next hfits =>
        cases h
        refine ⟨rfl, ?_, @reads_of_le _ _ 5 _ _ (Nat.le_refl 5) (Nat.le_refl _)⟩
        rintro k ⟨⟩
        exact (checkElectronicKeyData_iff _ _).mp hfits
      · cases h
  · next hkey =>
    cases h
    exact ⟨(if_neg hkey).symm, by simp, Reads.refl _ _ _⟩

theorem takeInhibitTime_eq (cyclic : Bool) (data : Nat → UInt8) (w : Walk) :
    ((takeInhibitTime cyclic data w).1 ≠ 256 → cyclic = false) ∧
      Reads w (takeInhibitTime cyclic data w).2 1 0 := by
  unfold takeInhibitTime
  dsimp only
  split
  · next h => exact ⟨fun _ => h.1, @reads_of_le _ _ 1 _ _ (Nat.le_refl 1) (Nat.le_refl _)⟩
  · exact ⟨fun h => absurd rfl h, Reads.refl _ _ _⟩

theorem cipEpathGetLogicalValue_le (data : Nat → UInt8) (pos : Nat) :
    (cipEpathGetLogicalValue data pos).2 ≤ pos + 6 := by
  unfold cipEpathGetLogicalValue
  dsimp only
  split
  · exact Nat.add_le_add_left (by decide) pos
  · split
    · exact Nat.add_le_add_left (by decide) pos
    · split
      · exact Nat.le_refl _
      · exact Nat.add_le_add_left (by decide) pos

theorem takeClass_ok {w w' : Walk} {classId : UInt32}
    (h : takeClass r data w = .ok ((classId, instances), w')) :
    r.instances classId = some instances ∧ Reads w w' 1 4 := by
  have hle := cipEpathGetLogicalValue_le data w.message
  unfold takeClass at h
  dsimp only at h
  split at h
  · split at h
    · split at h <;> cases h
    · next hclass =>
      cases h
      exact ⟨hclass, @reads_of_le _ _ 1 _ _ (Nat.le_refl 1) hle⟩
  · cases h

/-- An instance is counted with one word or two, and takes six bytes at most. -/
theorem reads_instance (w : Walk) (n : UInt16) :
    Reads w ⟨(cipEpathGetLogicalValue data w.message).2, w.remaining - instanceWords n⟩ 2 4 := by
  have hle := cipEpathGetLogicalValue_le data w.message
  have hwords : 1 ≤ idWords n ∧ idWords n ≤ 2 := by
    unfold idWords
    split <;> decide
  rw [instanceWords_eq]
  exact reads_of_le hwords.2 (by omega)

theorem takeConfiguration_ok {w w' : Walk}
    (h : takeConfiguration instances data w = .ok (n, w')) :
    hasInstance instances n = true ∧ Reads w w' 2 4 := by
  unfold takeConfiguration at h
  dsimp only at h
  split at h
  · split at h
    · cases h
    · next hinstance =>
      cases h
      exact ⟨by simpa using (not_or.mp hinstance).2, reads_instance w _⟩
  · cases h
    exact ⟨rfl, Reads.refl _ _ _⟩

theorem takePoint_ok {w w' : Walk} (h : takePoint instances data w = .ok (n, w')) :
    hasInstance instances n = true ∧ Reads w w' 2 4 := by
  unfold takePoint at h
  dsimp only at h
  split at h
  · split at h
    · cases h
    · split at h
      · cases h
      · next hinstance =>
        cases h
        exact ⟨by simpa using hinstance, reads_instance w _⟩
  · cases h

theorem takePoints_ok {turns : Nat} {w w' : Walk} {points : List UInt16}
    (h : takePoints instances data turns w = .ok (points, w')) :
    points.length = turns ∧ (∀ x ∈ points, hasInstance instances x = true) ∧
      Reads w w' (2 * turns) (4 * turns) := by
  induction turns generalizing w points with
  | zero =>
    cases h
    exact ⟨rfl, by simp, Reads.refl _ _ _⟩
  | succ turns ih =>
    rw [takePoints] at h
    cases hpoint : takePoint instances data w with
    | error e =>
      rw [hpoint] at h
      cases h
    | ok first =>
      obtain ⟨point, w₁⟩ := first
      obtain ⟨hinstance, hreads⟩ := takePoint_ok hpoint
      cases hpoints : takePoints instances data turns w₁ with
      | error e =>
        simp only [hpoint, hpoints, bind, Except.bind] at h
        cases h
      | ok rest =>
        obtain ⟨points, w₂⟩ := rest
        simp only [hpoint, hpoints, bind, Except.bind, pure, Except.pure] at h
        cases h
        obtain ⟨hlength, hinstances, hrest⟩ := ih hpoints
        refine ⟨by rw [List.length_cons, hlength], ?_, ?_⟩
        · rintro x (_ | ⟨_, hx⟩)
          · exact hinstance
          · exact hinstances x hx
        · rw [Nat.mul_succ, Nat.mul_succ, Nat.add_comm _ 2, Nat.add_comm _ 4]
          exact hreads.trans hrest

/-- Counting words off; the count wraps only to something large. -/
theorem count_off {left words : UInt32} {turns : Nat} (hwords : words.toNat ≤ 256)
    (h : (left - words).toNat ≤ 256 * turns) :
    left.toNat ≤ 256 * (turns + 1) ∧
      (turns + 1 ≤ 8388608 → left.toNat = (left - words).toNat + words.toNat) := by
  have hsum : left.toNat = ((left - words).toNat + words.toNat) % 4294967296 := by
    rw [← UInt32.toNat_add, UInt32.sub_add_cancel]
  refine ⟨?_, fun hturns => ?_⟩
  · have := Nat.mod_le ((left - words).toNat + words.toNat) 4294967296
    omega
  · rw [hsum]
    exact Nat.mod_eq_of_lt (by omega)

/-- A turn counts at least what it reads, and 256 words at most; so few turns cannot count all that
a wrapped count asks for. -/
theorem takeTail_ok {cyclic : Bool} {pathSize : UInt8} {turns : Nat} {t t' : Tail}
    (h : takeTail cyclic pathSize data turns t = some (.ok t')) :
    (t'.productionInhibitTime ≠ 256 → t.productionInhibitTime ≠ 256 ∨ cyclic = false) ∧
      t.walk.remaining.toNat ≤ 256 * turns ∧
      (turns ≤ 8388608 → t'.walk.message ≤ t.walk.message + 2 * t.walk.remaining.toNat) := by
  induction turns generalizing t with
  | zero => cases h
  | succ turns ih =>
    rw [takeTail] at h
    dsimp only at h
    split at h
    · next hend =>
      cases h
      exact ⟨.inl, by rw [hend]; exact Nat.zero_le _, fun _ => Nat.le_add_right _ _⟩
    · split at h
      · split at h
        · obtain ⟨hinhibit, hleft, hmessage⟩ := ih h
          have hbyte := (data (t.walk.message + 1)).toNat_lt
          have hwords : ((data (t.walk.message + 1)).toUInt32 + 1).toNat =
              (data (t.walk.message + 1)).toNat + 1 := by
            rw [UInt32.toNat_add, UInt8.toNat_toUInt32]
            exact Nat.mod_eq_of_lt (by simp; omega)
          obtain ⟨hcount, hexact⟩ := count_off (by omega) hleft
          refine ⟨hinhibit, hcount, fun hturns => ?_⟩
          have hturn := hmessage (by omega)
          have hwalk := hexact hturns
          dsimp only at hturn
          omega
        · cases h
      · split at h
        · split at h
          · split at h
            · next hcyclic =>
              obtain ⟨hinhibit, hleft, hmessage⟩ := ih h
              obtain ⟨hcount, hexact⟩ := @count_off _ 2 _ (by decide) hleft
              refine ⟨fun _ => .inr hcyclic, hcount, fun hturns => ?_⟩
              have hturn := hmessage (by omega)
              have hwalk := hexact hturns
              have htwo : (2 : UInt32).toNat = 2 := rfl
              dsimp only at hturn
              omega
            · cases h
          · cases h
        · cases h

theorem numberOfEncodedPaths_le (q : PathRequest) : q.numberOfEncodedPaths ≤ 2 := by
  unfold PathRequest.numberOfEncodedPaths
  split
  · split <;> decide
  · split <;> decide

/-- What is named by a path that is accepted. -/
structure Accepted (r : Registry) (q : PathRequest) (found : ParsedPath) : Prop where
  key : ∀ k ∈ found.electronicKey, k.Fits r.identity
  inhibit : found.productionInhibitTime ≠ 256 → q.cyclic = false
  instances : ∃ instances, r.instances found.classId = some instances ∧
    hasInstance instances found.configuration = true ∧
    ∀ x ∈ found.points, hasInstance instances x = true
  explicit : q.transportClass3 = true → found.classId = kCipMessageRouterClassCode ∧
    found.configuration = 1 ∧ found.points = []
  io : q.transportClass3 = false → found.points.length = q.numberOfEncodedPaths

/-- The application path, accepted: what it names is there, and what is read is read within what was
counted, but for the ids that are wider than they are counted. -/
theorem parseApplicationPath_ok {pathSize : UInt8} {turns : Nat} {key : Option ElectronicKey}
    {inhibit : UInt16} {w : Walk} {found : ParsedPath}
    (h : parseApplicationPath r q pathSize data turns key inhibit w = some (.ok found))
    (hkey : ∀ k ∈ key, k.Fits r.identity) (hinhibit : inhibit ≠ 256 → q.cyclic = false) :
    Accepted r q found ∧ found.electronicKey = key ∧ ∃ w', Reads w w' 7 16 ∧ (turns ≤ 8388608 →
      found.message ≤ w'.message + 2 * w'.remaining.toNat ∧ w'.remaining.toNat ≤ 256 * turns) := by
  unfold parseApplicationPath at h
  split at h
  · cases h
  · next classId instances w₁ hclass =>
    obtain ⟨hregistered, hclassReads⟩ := takeClass_ok hclass
    split at h
    · cases h
    · next configuration w₂ hconfiguration =>
      obtain ⟨hinstance, hconfigurationReads⟩ := takeConfiguration_ok hconfiguration
      have hreads := hclassReads.trans hconfigurationReads
      split at h
      · next hclass3 =>
        split at h
        · cases h
        · split at h
          · cases h
          · next hend hrouter =>
            cases h
            have hzero : w₂.remaining = 0 := UInt32.le_zero_iff.mp (UInt32.not_lt.mp hend)
            refine ⟨⟨hkey, hinhibit, ⟨instances, hregistered, hinstance, by simp⟩, ?_, ?_⟩, rfl,
              w₂, ?_, fun _ => ?_⟩
            · exact fun _ => ⟨by tauto, by tauto, rfl⟩
            · exact fun hio => absurd (hclass3.symm.trans hio) (by decide)
            · exact hreads.trans (Reads.refl w₂ 4 8)
            · rw [hzero]
              exact ⟨Nat.le_add_right _ _, Nat.zero_le _⟩
      · next hio =>
        split at h
        · cases h
        · next points w₃ hpoints =>
          obtain ⟨hlength, hinstances, hpointReads⟩ := takePoints_ok hpoints
          obtain ⟨result, htail, hresult⟩ := Option.map_eq_some_iff.mp h
          cases result with
          | error e => cases hresult
          | ok t =>
            cases hresult
            obtain ⟨hpit, hleft, hmessage⟩ := takeTail_ok htail
            have hcount := numberOfEncodedPaths_le q
            refine ⟨⟨hkey, fun hne => (hpit hne).elim hinhibit id,
              ⟨instances, hregistered, hinstance, hinstances⟩, ?_, fun _ => hlength⟩, rfl, w₃, ?_,
              fun hturns => ⟨hmessage hturns, hleft⟩⟩
            · exact fun hclass3 => absurd hclass3 hio
            · obtain ⟨words, hwords, hcounted, hread⟩ := hreads.trans hpointReads
              exact ⟨words, by omega, hcounted, by omega⟩

/-- What an accepted path went through. -/
theorem parseConnectionPath_ok {turns : Nat} {found : ParsedPath}
    (h : parseConnectionPath r q data pos turns = some (.ok found)) :
    Accepted r q found ∧ found.electronicKey = keyAt data (pos + 1) ∧
      q.requestDataSize = (if q.isLargeForwardOpen = true then 40 else 36) + (data pos).toNat * 2 ∧
      ∃ w', Reads ⟨pos + 1, (data pos).toUInt32⟩ w' 13 16 ∧ (turns ≤ 8388608 →
        found.message ≤ w'.message + 2 * w'.remaining.toNat ∧
          w'.remaining.toNat ≤ 256 * turns) := by
  unfold parseConnectionPath at h
  dsimp only at h
  generalize (if q.isLargeForwardOpen = true then 40 else 36) = headerLength at h ⊢
  split at h
  · cases h
  · split at h
    · cases h
    · next hmuch =>
      split at h
      · cases h
      · next hlittle =>
        split at h
        · cases h
        · next key w₁ hkey =>
          obtain ⟨hbegins, hfits, hkeyReads⟩ := takeKey_ok hkey
          obtain ⟨hinhibit, hinhibitReads⟩ := takeInhibitTime_eq q.cyclic data w₁
          obtain ⟨haccepted, hfound, w', hreads, hmessage⟩ :=
            parseApplicationPath_ok h hfits hinhibit
          exact ⟨haccepted, hfound.trans hbegins, by omega, w',
            (hkeyReads.trans hinhibitReads).trans hreads, hmessage⟩

/-- **What an accepted path names is there**: the key that it begins with fits, the class and the
instances are registered, there are as many points as the connection has directions, an explicit
connection goes to the message router, and the request ends where the path does. -/
theorem path_accepted {turns : Nat} {found : ParsedPath}
    (h : parseConnectionPath r q data pos turns = some (.ok found)) :
    Accepted r q found ∧ found.electronicKey = keyAt data (pos + 1) ∧
      q.requestDataSize =
        (if q.isLargeForwardOpen = true then 40 else 36) + (data pos).toNat * 2 :=
  have hok := parseConnectionPath_ok h
  ⟨hok.1, hok.2.1, hok.2.2.1⟩

theorem path_accepted_owner :
    Accepted thisDevice ownerRequest (ownerRoute.parsed ownerRequest 0) ∧
      ownerRoute.key = keyAt (buffer (.ofNat ownerRoute.words :: ownerRoute.encoded)) 1 ∧
      ownerRequest.requestDataSize = 36 + (UInt8.ofNat ownerRoute.words).toNat * 2 :=
  @path_accepted thisDevice ownerRequest
    (buffer (.ofNat ownerRoute.words :: ownerRoute.encoded)) 0 2 _ (by decide)

/-- **A path is read to sixteen bytes behind the request at most**, four for each id that is written
wider than it is counted. -/
theorem path_inside {turns : Nat} {found : ParsedPath}
    (h : parseConnectionPath r q data pos turns = some (.ok found)) (hturns : turns ≤ 8388608) :
    found.message ≤ pos + 1 + 2 * (data pos).toNat + 16 := by
  obtain ⟨-, -, -, w', hreads, hmessage⟩ := parseConnectionPath_ok h
  obtain ⟨hle, hleft⟩ := hmessage hturns
  have hinside := hreads.inside (by omega)
  rw [UInt8.toNat_toUInt32] at hinside
  exact le_trans hle hinside

/-- A path of four words: the class and the three instances in 32 bits each. -/
def widePath : Nat → UInt8 :=
  buffer ([4, 0x22, 0, 4, 0, 0, 0, 0x26, 0, 151, 0, 0, 0] ++
    [0x2E, 0, 150, 0, 0, 0, 0x2E, 0, 100, 0, 0, 0])

theorem path_inside_wide :
    ∃ found, parseConnectionPath thisDevice { ownerRequest with requestDataSize := 36 + 4 * 2 }
        widePath 0 1 = some (.ok found) ∧
      found.message = 0 + 1 + 2 * (widePath 0).toNat + 16 ∧
      found.message ≤ 0 + 1 + 2 * (widePath 0).toNat + 16 := by
  refine ⟨⟨none, 256, 4, 151, [150, 100], some (0, 0), 25⟩, by decide, by decide, ?_⟩
  exact @path_inside thisDevice { ownerRequest with requestDataSize := 36 + 4 * 2 } widePath 0 1 _
    (by decide) (by decide)

end GroundTruth.Cip.ConnectionPath
