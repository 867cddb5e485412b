/-
# The common packet format

A packet has an item for the address, one for the data and up to two for socket addresses.
`CreateCommonPacketFormatStructure` (`cpf.c`) reads one from a buffer into a structure that is used
again for each packet, and `AssembleLinearMessage` writes one from it.

* `Packet`: what a packet says, and its bytes; `Shows`: what a structure says;
* `assembleLinearMessage_shows`, `create_shows`: the two functions against `Packet`; together, what
  was written is read back;
* `create_readsAs_iff`: with another count or length than its own the items of a packet are still
  read as they are if the length is right and the count not too small;
* `reply_readable_iff`: when a reply of the message router can be read from its packet.
-/
import Mathlib.Data.Fin.VecNotation
import GroundTruth.Cip.Consume
import GroundTruth.Discovery.ListIdentity

namespace GroundTruth.Encap

open GroundTruth.Lib GroundTruth.Cip GroundTruth.Discovery

/-! ## 1. The structure -/

/-- `CipItemId`, as far as packets have it. -/
def kCipItemIdNullAddress : UInt16 := 0x0000
def kCipItemIdConnectionAddress : UInt16 := 0x00A1
def kCipItemIdConnectedDataItem : UInt16 := 0x00B1
def kCipItemIdUnconnectedDataItem : UInt16 := 0x00B2
def kCipItemIdSocketAddressInfoOriginatorToTarget : UInt16 := 0x8000
def kCipItemIdSocketAddressInfoTargetToOriginator : UInt16 := 0x8001
def kCipItemIdSequencedAddressItem : UInt16 := 0x8002

structure AddressItem where
  typeId : UInt16
  length : UInt16
  connectionIdentifier : UInt32
  sequenceNumber : UInt32

structure DataItem where
  typeId : UInt16
  length : UInt16
  /-- what the pointer points to -/
  data : Nat → UInt8

structure SocketAddressInfoItem where
  typeId : UInt16
  length : UInt16
  sinFamily : UInt16
  sinPort : UInt16
  sinAddr : UInt32
  nasinZero : Bytes

structure CipCommonPacketFormatData where
  itemCount : UInt16
  addressItem : AddressItem
  dataItem : DataItem
  addressInfoItem : Fin 2 → SocketAddressInfoItem

/-! ## 2. Reading -/

/-- The address item at `pos`, and the position after it; what the item does not have stays. -/
def readAddressItem (data : Nat → UInt8) (pos : Nat) (old : AddressItem) : AddressItem × Nat :=
  let item := { old with
    typeId := getUintFromMessage data pos
    length := getUintFromMessage data (pos + 2) }
  let pos := pos + 4
  match if 4 ≤ item.length then
      ({ item with connectionIdentifier := getUdintFromMessage data pos }, pos + 4)
    else (item, pos) with
  | (item, pos) =>
    if item.length = 8 then
      ({ item with sequenceNumber := getUdintFromMessage data pos }, pos + 4)
    else (item, pos)

/-- Where the reader stands: its position, and `length_count`. -/
structure Place where
  pos : Nat
  lengthCount : Nat

/-- One turn of the loop over the socket addresses.  Another item is left where it is, but two
bytes are counted. -/
def readSocketAddressInfoItem (data : Nat → UInt8) (place : Place) (old : SocketAddressInfoItem) :
    SocketAddressInfoItem × Place :=
  let pos := place.pos
  let typeId := getUintFromMessage data pos
  if typeId = kCipItemIdSocketAddressInfoOriginatorToTarget ∨
      typeId = kCipItemIdSocketAddressInfoTargetToOriginator then
    ({ typeId := typeId
       length := getUintFromMessage data (pos + 2)
       sinFamily := getUintFromMessage data (pos + 4)
       sinPort := getUintFromMessage data (pos + 6)
       sinAddr := getUdintFromMessage data (pos + 8)
       nasinZero := bytesAt data (pos + 12) 8 }, ⟨pos + 20, place.lengthCount + 20⟩)
  else ({ old with typeId := 0 }, ⟨pos, place.lengthCount + 2⟩)

/-- The loop, whose number of turns is at most two. -/
def readSocketAddressInfoItems (data : Nat → UInt8) (turns : Nat) (place : Place)
    (old : Fin 2 → SocketAddressInfoItem) : (Fin 2 → SocketAddressInfoItem) × Place :=
  match turns with
  | 0 => (old, place)
  | 1 =>
    match readSocketAddressInfoItem data place (old 0) with
    | (first, place) => (![first, old 1], place)
  | _ =>
    match readSocketAddressInfoItem data place (old 0) with
    | (first, place) =>
      match readSocketAddressInfoItem data place (old 1) with
      | (second, place) => (![first, second], place)

/-- The end of `CreateCommonPacketFormatStructure`: items that were not received are not set, and
the length is checked, unless there may be an unknown item. -/
def checkLength (dataLength lengthCount : Nat) (cpf : CipCommonPacketFormatData) :
    EipStatus × CipCommonPacketFormatData :=
  let first := cpf.addressInfoItem 0
  let second := cpf.addressInfoItem 1
  let cpf := { cpf with
    addressInfoItem := ![if cpf.itemCount < 3 then { first with typeId := 0 } else first,
      if cpf.itemCount < 4 then { second with typeId := 0 } else second] }
  (if lengthCount = dataLength ∨ 2 < cpf.itemCount then .ok else .error, cpf)

/-- The socket addresses marked as not set. -/
def unset (items : Fin 2 → SocketAddressInfoItem) : Fin 2 → SocketAddressInfoItem :=
  fun j => { items j with typeId := 0 }

/-- `CreateCommonPacketFormatStructure`. -/
def createCommonPacketFormatStructure (data : Nat → UInt8) (dataLength : Nat)
    (cpf : CipCommonPacketFormatData) : EipStatus × CipCommonPacketFormatData :=
  let itemCount := getUintFromMessage data 0
  let cpf := { cpf with
    itemCount := itemCount
    addressInfoItem := unset cpf.addressInfoItem }
  match if 1 ≤ itemCount then readAddressItem data 2 cpf.addressItem else (cpf.addressItem, 2) with
  | (addressItem, pos) =>
    let cpf := { cpf with addressItem := addressItem }
    if 2 ≤ itemCount then
      let length := getUintFromMessage data (pos + 2)
      let cpf := { cpf with
        dataItem := ⟨getUintFromMessage data pos, length, fun k => data (pos + 4 + k)⟩ }
      let next := pos + 4 + length.toNat
      if next ≤ dataLength then
        match readSocketAddressInfoItems data (itemCount.toNat - 2) ⟨next, next⟩
          cpf.addressInfoItem with
        | (items, place) =>
          checkLength dataLength place.lengthCount { cpf with addressInfoItem := items }
      else (.error, cpf)
    else checkLength dataLength pos cpf

/-! ## 3. Writing -/

/-- `CipMessageRouterResponse`; the message is what its buffer holds. -/
structure CipMessageRouterResponse where
  replyService : UInt8
  reserved : UInt8
  generalStatus : UInt8
  sizeOfAdditionalStatus : UInt8
  additionalStatus : Fin 2 → UInt16
  message : Bytes

/-- `EncodeExtendedStatusDataItems`: no more than `MAX_SIZE_OF_ADD_STATUS`. -/
def encodeExtendedStatusDataItems (r : CipMessageRouterResponse) : Bytes :=
  ((List.finRange 2).take r.sizeOfAdditionalStatus.toNat).flatMap fun i => le16 (r.additionalStatus i)

/-- The reply as `AssembleLinearMessage` writes it into the data item. -/
def encodeReply (r : CipMessageRouterResponse) : Bytes :=
  [r.replyService, r.reserved, r.generalStatus, r.sizeOfAdditionalStatus] ++
    (encodeExtendedStatusDataItems r ++ r.message)

/-- `EncodeUnconnectedDataItemLength`. -/
def unconnectedDataItemLength (r : CipMessageRouterResponse) : UInt16 :=
  .ofNat (r.message.length + 4 + 2 * r.sizeOfAdditionalStatus.toNat)

/-- `EncodeConnectedDataItemLength`. -/
def connectedDataItemLength (r : CipMessageRouterResponse) : UInt16 :=
  .ofNat (r.message.length + 4 + 2 + 2 * r.sizeOfAdditionalStatus.toNat)

/-- The address item, or none if its type is unknown. -/
def encodeAddressItem (item : AddressItem) : Option Bytes :=
  if item.typeId = kCipItemIdNullAddress then some (le16 kCipItemIdNullAddress ++ le16 0)
  else if item.typeId = kCipItemIdConnectionAddress then
    some (le16 kCipItemIdConnectionAddress ++ le16 4 ++ le32 item.connectionIdentifier)
  else if item.typeId = kCipItemIdSequencedAddressItem then
    some (le16 kCipItemIdSequencedAddressItem ++ le16 8 ++ le32 item.connectionIdentifier ++
      le32 item.sequenceNumber)
  else none

/-- The data item; `EncodeSequenceNumber` takes the number from the global structure, which is the
structure of every caller. -/
def encodeDataItem (response : Option CipMessageRouterResponse) (cpf : CipCommonPacketFormatData) :
    Bytes :=
  let item := cpf.dataItem
  if item.typeId = kCipItemIdUnconnectedDataItem ∨ item.typeId = kCipItemIdConnectedDataItem then
    match response with
    | some r =>
      le16 item.typeId ++
        (if item.typeId = kCipItemIdConnectedDataItem then
          le16 (connectedDataItemLength r) ++ le16 cpf.addressItem.sequenceNumber.toUInt16
        else le16 (unconnectedDataItemLength r)) ++ encodeReply r
    | none => le16 item.typeId ++ le16 item.length ++ bytesAt item.data 0 item.length.toNat
  else []

/-- One of the socket addresses. -/
def encodeSockaddrInfoItem (item : SocketAddressInfoItem) : Bytes :=
  le16 item.typeId ++ le16 item.length ++ encapsulateIpAddress item.sinPort item.sinAddr ++
    List.replicate 8 0

/-- The first item of that type. -/
def infoItem (items : Fin 2 → SocketAddressInfoItem) (typeId : UInt16) :
    Option SocketAddressInfoItem :=
  if (items 0).typeId = typeId then some (items 0)
  else if (items 1).typeId = typeId then some (items 1)
  else none

/-- The inner loop over the socket addresses, for one type. -/
def encodeSockaddrInfo (cpf : CipCommonPacketFormatData) (typeId : UInt16) : Bytes :=
  (infoItem cpf.addressInfoItem typeId).elim [] encodeSockaddrInfoItem

/-- `AssembleLinearMessage`: what it adds to the message. -/
def assembleLinearMessage (response : Option CipMessageRouterResponse)
    (cpf : CipCommonPacketFormatData) : EipStatus × Bytes :=
  let start := (if response.isSome = true then le32 0 ++ le16 0 else []) ++ le16 cpf.itemCount
  match encodeAddressItem cpf.addressItem with
  | none => (.error, start)
  | some address =>
    (.ok, start ++ (address ++ (encodeDataItem response cpf ++
      (encodeSockaddrInfo cpf kCipItemIdSocketAddressInfoOriginatorToTarget ++
        encodeSockaddrInfo cpf kCipItemIdSocketAddressInfoTargetToOriginator))))

/-! ## 4. What a packet says -/

inductive Address
  | null
  | connected (connectionIdentifier : UInt32)
  | sequenced (connectionIdentifier sequenceNumber : UInt32)
  deriving DecidableEq, Repr

/-- What a socket address item tells; its length is 16, but nothing depends on it. -/
structure Endpoint where
  length : UInt16
  port : UInt16
  address : UInt32
  deriving DecidableEq, Repr

structure Packet where
  address : Address
  /-- the data item is a connected one -/
  connected : Bool
  payload : Bytes
  originatorToTarget : Option Endpoint
  targetToOriginator : Option Endpoint
  deriving DecidableEq, Repr

def Address.encoded : Address → Bytes
  | .null => le16 kCipItemIdNullAddress ++ le16 0
  | .connected id => le16 kCipItemIdConnectionAddress ++ le16 4 ++ le32 id
  | .sequenced id n => le16 kCipItemIdSequencedAddressItem ++ le16 8 ++ le32 id ++ le32 n

def Endpoint.encoded (typeId : UInt16) (e : Endpoint) : Bytes :=
  le16 typeId ++ le16 e.length ++ encapsulateIpAddress e.port e.address ++ List.replicate 8 0

/-- The number of items. -/
def Packet.count (p : Packet) : UInt16 :=
  2 + (if p.originatorToTarget.isSome = true then 1 else 0) +
    if p.targetToOriginator.isSome = true then 1 else 0

def Packet.dataType (p : Packet) : UInt16 :=
  if p.connected = true then kCipItemIdConnectedDataItem else kCipItemIdUnconnectedDataItem

/-- The socket addresses of a packet. -/
def Packet.endpoints (p : Packet) : Bytes :=
  p.originatorToTarget.elim []
      (Endpoint.encoded kCipItemIdSocketAddressInfoOriginatorToTarget) ++
    p.targetToOriginator.elim []
      (Endpoint.encoded kCipItemIdSocketAddressInfoTargetToOriginator)

/-- A packet with a count and a length of their own. -/
def Packet.encodedAs (p : Packet) (count length : UInt16) : Bytes :=
  le16 count ++ (p.address.encoded ++ ((le16 p.dataType ++ (le16 length ++ p.payload)) ++
    p.endpoints))

def Packet.encoded (p : Packet) : Bytes := p.encodedAs p.count (.ofNat p.payload.length)

/-- The address that an item has. -/
def AddressItem.address (item : AddressItem) : Option Address :=
  if item.typeId = kCipItemIdNullAddress then some .null
  else if item.typeId = kCipItemIdConnectionAddress then some (.connected item.connectionIdentifier)
  else if item.typeId = kCipItemIdSequencedAddressItem then
    some (.sequenced item.connectionIdentifier item.sequenceNumber)
  else none

def SocketAddressInfoItem.endpoint (item : SocketAddressInfoItem) : Endpoint :=
  ⟨item.length, item.sinPort, item.sinAddr⟩

/-- What the items of that type tell. -/
def endpointOf (items : Fin 2 → SocketAddressInfoItem) (typeId : UInt16) : Option Endpoint :=
  (infoItem items typeId).map SocketAddressInfoItem.endpoint

/-- What the structure says besides the item count and the data. -/
structure ShowsItems (cpf : CipCommonPacketFormatData) (p : Packet) : Prop where
  address : cpf.addressItem.address = some p.address
  dataType : cpf.dataItem.typeId = p.dataType
  originatorToTarget : endpointOf cpf.addressInfoItem
    kCipItemIdSocketAddressInfoOriginatorToTarget = p.originatorToTarget
  targetToOriginator : endpointOf cpf.addressInfoItem
    kCipItemIdSocketAddressInfoTargetToOriginator = p.targetToOriginator

/-- The structure says what the packet says. -/
structure Shows (cpf : CipCommonPacketFormatData) (p : Packet) : Prop where
  items : ShowsItems cpf p
  itemCount : cpf.itemCount = p.count
  payload : bytesAt cpf.dataItem.data 0 cpf.dataItem.length.toNat = p.payload

/-- The items are those of the packet, whatever the count. -/
def ReadsAs (cpf : CipCommonPacketFormatData) (p : Packet) : Prop :=
  ShowsItems cpf p ∧ bytesAt cpf.dataItem.data 0 cpf.dataItem.length.toNat = p.payload

variable {cpf g : CipCommonPacketFormatData} {p : Packet}

/-! ## 5. The encoder -/

theorem encodeAddressItem_eq (item : AddressItem) :
    encodeAddressItem item = item.address.map Address.encoded := by
  unfold encodeAddressItem AddressItem.address
  split
  · rfl
  · split
    · rfl
    · split
      · rfl
      · rfl

theorem infoItem_typeId {items : Fin 2 → SocketAddressInfoItem} {typeId : UInt16}
    {item : SocketAddressInfoItem} (h : infoItem items typeId = some item) : item.typeId = typeId := by
  unfold infoItem at h
  split at h
  · next hfirst => exact Option.some.inj h ▸ hfirst
  · split at h
    · next hsecond => exact Option.some.inj h ▸ hsecond
    · cases h

theorem encodeSockaddrInfo_eq (cpf : CipCommonPacketFormatData) (typeId : UInt16) :
    encodeSockaddrInfo cpf typeId =
      (endpointOf cpf.addressInfoItem typeId).elim [] (Endpoint.encoded typeId) := by
  unfold encodeSockaddrInfo endpointOf
  cases hitem : infoItem cpf.addressInfoItem typeId with
  | none => rfl
  | some item =>
    have htype := infoItem_typeId hitem
    simp only [Option.elim_some, Option.map_some, encodeSockaddrInfoItem, Endpoint.encoded,
      SocketAddressInfoItem.endpoint, htype]

theorem Packet.dataType_eq (p : Packet) : p.dataType = kCipItemIdUnconnectedDataItem ∨
    p.dataType = kCipItemIdConnectedDataItem := by
  unfold Packet.dataType
  split
  · exact .inr rfl
  · exact .inl rfl

/-- The reply of the message router as the payload of a packet. -/
def replyPayload (r : CipMessageRouterResponse) (cpf : CipCommonPacketFormatData) : Bytes :=
  (if cpf.dataItem.typeId = kCipItemIdConnectedDataItem then
    le16 cpf.addressItem.sequenceNumber.toUInt16 else []) ++ encodeReply r

/-- The length that is written for it. -/
def replyLength (r : CipMessageRouterResponse) (cpf : CipCommonPacketFormatData) : UInt16 :=
  if cpf.dataItem.typeId = kCipItemIdConnectedDataItem then connectedDataItemLength r
  else unconnectedDataItemLength r

theorem ShowsItems.encoded (h : ShowsItems cpf p) (response : Option CipMessageRouterResponse)
    {length : UInt16} (hdata : encodeDataItem response cpf =
      le16 p.dataType ++ (le16 length ++ p.payload)) :
    assembleLinearMessage response cpf =
      (.ok, (if response.isSome = true then le32 0 ++ le16 0 else []) ++
        p.encodedAs cpf.itemCount length) := by
  have haddress : encodeAddressItem cpf.addressItem = some p.address.encoded := by
    rw [encodeAddressItem_eq, h.address, Option.map_some]
  unfold assembleLinearMessage
  simp only [haddress, hdata, encodeSockaddrInfo_eq, h.originatorToTarget, h.targetToOriginator,
    Packet.encodedAs, Packet.endpoints, List.append_assoc]

/-- What a structure shows is what is written from it. -/
theorem assembleLinearMessage_shows (h : Shows cpf p) :
    assembleLinearMessage none cpf = (.ok, p.encoded) := by
  have hdata : encodeDataItem none cpf =
      le16 p.dataType ++ (le16 (.ofNat p.payload.length) ++ p.payload) := by
    rw [encodeDataItem, h.items.dataType, if_pos p.dataType_eq, ← h.payload, bytesAt_length,
      UInt16.ofNat_toNat]
    simp only [List.append_assoc]
  rw [h.items.encoded none hdata, h.itemCount]
  rfl

theorem assembleLinearMessage_reply (r : CipMessageRouterResponse) (h : ShowsItems cpf p)
    (hpayload : p.payload = replyPayload r cpf) :
    assembleLinearMessage (some r) cpf =
      (.ok, (le32 0 ++ le16 0) ++ p.encodedAs cpf.itemCount (replyLength r cpf)) := by
  have hdata : encodeDataItem (some r) cpf =
      le16 p.dataType ++ (le16 (replyLength r cpf) ++ p.payload) := by
    rw [hpayload, encodeDataItem, replyLength, replyPayload, ← h.dataType]
    rw [if_pos (h.dataType ▸ p.dataType_eq)]
    split
    · simp only [List.append_assoc]
    · simp only [List.append_assoc, List.nil_append]
  rw [h.encoded (some r) hdata]
  rfl

/-! ## 6. The decoder -/

/-- What the memory holds at a position. -/
def Holds (data : Nat → UInt8) (pos : Nat) (bs : Bytes) : Prop := bytesAt data pos bs.length = bs

variable {data : Nat → UInt8} {pos : Nat} {bs bs' : Bytes} {items : Fin 2 → SocketAddressInfoItem}

theorem bytesAt_add (data : Nat → UInt8) (pos m n : Nat) :
    bytesAt data pos (m + n) = bytesAt data pos m ++ bytesAt data (pos + m) n := by
  unfold bytesAt
  rw [List.range_add, List.map_append, List.map_map]
  congr 2
  funext k
  simp [Nat.add_assoc]

theorem holds_append : Holds data pos (bs ++ bs') ↔
    Holds data pos bs ∧ Holds data (pos + bs.length) bs' := by
  unfold Holds
  rw [List.length_append, bytesAt_add]
  constructor
  · intro h
    exact List.append_inj h (bytesAt_length ..)
  · rintro ⟨h, h'⟩
    rw [h, h']

theorem bytesAt_two (data : Nat → UInt8) (pos : Nat) :
    bytesAt data pos 2 = le16 (getUintFromMessage data pos) := by
  rw [getUintFromMessage, le16_glue]
  rfl

theorem bytesAt_four (data : Nat → UInt8) (pos : Nat) :
    bytesAt data pos 4 = le32 (getUdintFromMessage data pos) := by
  have hglue : getUdintFromMessage data pos =
      glue32 (data pos) (data (pos + 1)) (data (pos + 2)) (data (pos + 3)) := rfl
  rw [hglue, le32_glue32]
  rfl

theorem Holds.uint {v : UInt16} (h : Holds data pos (le16 v)) : getUintFromMessage data pos = v :=
  le16_injective ((bytesAt_two data pos).symm.trans h)

theorem Holds.udint {v : UInt32} (h : Holds data pos (le32 v)) : getUdintFromMessage data pos = v :=
  le32_injective ((bytesAt_four data pos).symm.trans h)

theorem readAddressItem_eq {a : Address} (h : Holds data pos a.encoded) (old : AddressItem) :
    ∃ item, readAddressItem data pos old = (item, pos + a.encoded.length) ∧
      item.address = some a ∧
      ∀ id, a = .connected id → item.sequenceNumber = old.sequenceNumber := by
  cases a with
  | null =>
    obtain ⟨htype, hlength⟩ := holds_append.mp h
    refine ⟨{ old with typeId := kCipItemIdNullAddress, length := 0 }, ?_, rfl, fun _ _ => rfl⟩
    simp only [readAddressItem, htype.uint, show getUintFromMessage data (pos + 2) = 0 from
      hlength.uint]
    rfl
  | connected id =>
    obtain ⟨h, hid⟩ := holds_append.mp h
    obtain ⟨htype, hlength⟩ := holds_append.mp h
    refine ⟨⟨kCipItemIdConnectionAddress, 4, id, old.sequenceNumber⟩, ?_, rfl, fun _ _ => rfl⟩
    simp only [readAddressItem, htype.uint, show getUintFromMessage data (pos + 2) = 4 from
      hlength.uint, show getUdintFromMessage data (pos + 4) = id from hid.udint]
    rfl
  | sequenced id n =>
    obtain ⟨h, hn⟩ := holds_append.mp h
    obtain ⟨h, hid⟩ := holds_append.mp h
    obtain ⟨htype, hlength⟩ := holds_append.mp h
    refine ⟨⟨kCipItemIdSequencedAddressItem, 8, id, n⟩, ?_, rfl, fun _ h => by cases h⟩
    simp only [readAddressItem, htype.uint, show getUintFromMessage data (pos + 2) = 8 from
      hlength.uint, show getUdintFromMessage data (pos + 4) = id from hid.udint,
      show ((4 : UInt16) ≤ 8) = True from by decide, if_true,
      show getUdintFromMessage data (pos + 4 + 4) = n from hn.udint]
    rfl

theorem Endpoint.encoded_length (typeId : UInt16) (e : Endpoint) :
    (e.encoded typeId).length = 20 := rfl

theorem readSocketAddressInfoItem_eq (place : Place) {typeId : UInt16} {e : Endpoint}
    (h : Holds data place.pos (e.encoded typeId))
    (htype : typeId = kCipItemIdSocketAddressInfoOriginatorToTarget ∨
      typeId = kCipItemIdSocketAddressInfoTargetToOriginator) (old : SocketAddressInfoItem) :
    ∃ item, readSocketAddressInfoItem data place old =
        (item, ⟨place.pos + 20, place.lengthCount + 20⟩) ∧
      item.typeId = typeId ∧ item.endpoint = e := by
  obtain ⟨h, hzero⟩ := holds_append.mp h
  obtain ⟨h, hendpoint⟩ := holds_append.mp h
  obtain ⟨hid, hlength⟩ := holds_append.mp h
  obtain ⟨hport, haddr⟩ := holds_append.mp hendpoint
  obtain ⟨hfamily, hport⟩ := holds_append.mp hport
  refine ⟨⟨typeId, e.length, htons 2, e.port, e.address, bytesAt data (place.pos + 12) 8⟩, ?_, rfl,
    rfl⟩
  rw [readSocketAddressInfoItem]
  simp only [hid.uint]
  rw [if_pos htype, show getUintFromMessage data (place.pos + 2) = e.length from hlength.uint,
    show getUintFromMessage data (place.pos + 4) = htons 2 from hfamily.uint,
    show getUintFromMessage data (place.pos + 6) = e.port from hport.uint,
    show getUdintFromMessage data (place.pos + 8) = e.address from haddr.udint]

theorem endpointOf_first {typeId : UInt16} (h : (items 0).typeId = typeId) :
    endpointOf items typeId = some (items 0).endpoint := by
  rw [endpointOf, infoItem, if_pos h, Option.map_some]

theorem endpointOf_second {typeId : UInt16} (hfirst : (items 0).typeId ≠ typeId)
    (h : (items 1).typeId = typeId) : endpointOf items typeId = some (items 1).endpoint := by
  rw [endpointOf, infoItem, if_neg hfirst, if_pos h, Option.map_some]

theorem endpointOf_none {typeId : UInt16} (hfirst : (items 0).typeId ≠ typeId)
    (hsecond : (items 1).typeId ≠ typeId) : endpointOf items typeId = none := by
  rw [endpointOf, infoItem, if_neg hfirst, if_neg hsecond, Option.map_none]

theorem zero_ne {typeId typeId' : UInt16} (h : typeId = 0) (hne : 0 ≠ typeId') : typeId ≠ typeId' :=
  h ▸ hne

/-- What is there is not the type of a socket address. -/
def NoSocketAddress (data : Nat → UInt8) (pos : Nat) : Prop :=
  getUintFromMessage data pos ≠ kCipItemIdSocketAddressInfoOriginatorToTarget ∧
    getUintFromMessage data pos ≠ kCipItemIdSocketAddressInfoTargetToOriginator

/-- Then the reader stays where it is. -/
theorem readSocketAddressInfoItem_skip {place : Place} (h : NoSocketAddress data place.pos)
    (old : SocketAddressInfoItem) :
    readSocketAddressInfoItem data place old =
      ({ old with typeId := 0 }, ⟨place.pos, place.lengthCount + 2⟩) := by
  rw [readSocketAddressInfoItem]
  exact if_neg (not_or.2 h)

/-- What the loop over the socket addresses of a packet leaves, with a count that need not be that
of the packet. -/
structure ReadsEndpoints (data : Nat → UInt8) (place : Place) (old : Fin 2 → SocketAddressInfoItem)
    (p : Packet) (count : UInt16) (items : Fin 2 → SocketAddressInfoItem) : Prop where
  read : ∃ stop, readSocketAddressInfoItems data (count.toNat - 2) place old = (items, stop) ∧
    (count = p.count → stop.lengthCount = place.lengthCount + p.endpoints.length)
  first : count < 3 → (items 0).typeId = 0
  second : count < 4 → (items 1).typeId = 0
  originatorToTarget :
    endpointOf items kCipItemIdSocketAddressInfoOriginatorToTarget = p.originatorToTarget
  targetToOriginator :
    endpointOf items kCipItemIdSocketAddressInfoTargetToOriginator = p.targetToOriginator

/-- Two turns. -/
theorem readSocketAddressInfoItems_two (place : Place) (old : Fin 2 → SocketAddressInfoItem)
    (turns : Nat) :
    readSocketAddressInfoItems data (turns + 2) place old =
      (![(readSocketAddressInfoItem data place (old 0)).1,
        (readSocketAddressInfoItem data (readSocketAddressInfoItem data place (old 0)).2 (old 1)).1],
      (readSocketAddressInfoItem data (readSocketAddressInfoItem data place (old 0)).2 (old 1)).2) :=
  rfl

/-- The turns of the loop for the counts there are. -/
theorem turns_cases {count : UInt16} (h : 2 ≤ count) :
    count = 2 ∧ count.toNat - 2 = 0 ∨ count = 3 ∧ count.toNat - 2 = 1 ∨
      ¬count < 4 ∧ ∃ turns, count.toNat - 2 = turns + 2 := by
  rw [UInt16.le_iff_toNat_le, show (2 : UInt16).toNat = 2 from rfl] at h
  rw [← UInt16.toNat_inj, ← UInt16.toNat_inj, UInt16.lt_iff_toNat_lt,
    show (2 : UInt16).toNat = 2 from rfl, show (3 : UInt16).toNat = 3 from rfl,
    show (4 : UInt16).toNat = 4 from rfl]
  by_cases hfour : count.toNat < 4
  · omega
  · exact .inr (.inr ⟨hfour, count.toNat - 4, by omega⟩)

/-- Without a socket address nothing is set. -/
theorem readNone {count : UInt16} (hcount : 2 ≤ count) (place : Place)
    (hbeyond : count ≠ 2 → NoSocketAddress data place.pos) {old : Fin 2 → SocketAddressInfoItem}
    (hold : ∀ j, (old j).typeId = 0) :
    ∃ items stop, readSocketAddressInfoItems data (count.toNat - 2) place old = (items, stop) ∧
      (items 0).typeId = 0 ∧ (items 1).typeId = 0 ∧
      (count = 2 → stop.lengthCount = place.lengthCount) := by
  rcases turns_cases hcount with ⟨-, hturns⟩ | ⟨hthree, hturns⟩ | ⟨hfour, turns, hturns⟩
  · rw [hturns]
    exact ⟨old, place, rfl, hold 0, hold 1, fun _ => rfl⟩
  · have hskip := hbeyond (by rw [hthree]; decide)
    rw [hturns, readSocketAddressInfoItems, readSocketAddressInfoItem_skip hskip]
    exact ⟨_, _, rfl, rfl, hold 1, fun htwo => absurd (hthree.symm.trans htwo) (by decide)⟩
  · have hne : count ≠ 2 := by
      rintro rfl
      exact hfour (by decide)
    have hskip := hbeyond hne
    rw [hturns, readSocketAddressInfoItems_two, readSocketAddressInfoItem_skip hskip,
      @readSocketAddressInfoItem_skip data ⟨place.pos, place.lengthCount + 2⟩ hskip]
    exact ⟨_, _, rfl, rfl, rfl, fun htwo => absurd htwo hne⟩

/-- One socket address is read, and no second one. -/
theorem readOne {count typeId : UInt16} {e : Endpoint} (hcount : 3 ≤ count) (place : Place)
    (h : Holds data place.pos (e.encoded typeId))
    (htype : typeId = kCipItemIdSocketAddressInfoOriginatorToTarget ∨
      typeId = kCipItemIdSocketAddressInfoTargetToOriginator)
    (hbeyond : count ≠ 3 → NoSocketAddress data (place.pos + 20))
    {old : Fin 2 → SocketAddressInfoItem} (hold : ∀ j, (old j).typeId = 0) :
    ∃ items stop, readSocketAddressInfoItems data (count.toNat - 2) place old = (items, stop) ∧
      (items 0).typeId = typeId ∧ (items 0).endpoint = e ∧ (items 1).typeId = 0 ∧
      (count = 3 → stop.lengthCount = place.lengthCount + 20) := by
  obtain ⟨item, hread, hitem, hendpoint⟩ := readSocketAddressInfoItem_eq place h htype (old 0)
  rcases turns_cases (UInt16.le_trans (by decide) hcount) with
    ⟨htwo, -⟩ | ⟨-, hturns⟩ | ⟨hfour, turns, hturns⟩
  · rw [htwo] at hcount
    exact absurd hcount (by decide)
  · rw [hturns, readSocketAddressInfoItems, hread]
    exact ⟨_, _, rfl, hitem, hendpoint, hold 1, fun _ => rfl⟩
  · have hne : count ≠ 3 := by
      rintro rfl
      exact hfour (by decide)
    rw [hturns, readSocketAddressInfoItems_two, hread,
      @readSocketAddressInfoItem_skip data ⟨place.pos + 20, place.lengthCount + 20⟩
        (hbeyond hne)]
    exact ⟨_, _, rfl, hitem, hendpoint, rfl, fun hthree => absurd hthree hne⟩

/-- The socket addresses of a packet are read back, and items it does not have stay unset: the count
may be larger than that of the packet, if there is nothing behind it that looks like another one. -/
theorem readSocketAddressInfoItems_eq {count : UInt16} (hcount : p.count ≤ count) (place : Place)
    (h : Holds data place.pos p.endpoints)
    (hbeyond : count ≠ p.count → NoSocketAddress data (place.pos + p.endpoints.length))
    {old : Fin 2 → SocketAddressInfoItem} (hold : ∀ j, (old j).typeId = 0) :
    ∃ items, ReadsEndpoints data place old p count items := by
  obtain ⟨address, connected, payload, oToT, tToO⟩ := p
  cases oToT with
  | none =>
    cases tToO with
    | none =>
      obtain ⟨items, stop, hread, hfirst, hsecond, hlength⟩ :=
        readNone hcount place hbeyond hold
      exact ⟨items, ⟨stop, hread, hlength⟩, fun _ => hfirst, fun _ => hsecond,
        endpointOf_none (zero_ne hfirst (by decide)) (zero_ne hsecond (by decide)),
        endpointOf_none (zero_ne hfirst (by decide)) (zero_ne hsecond (by decide))⟩
    | some e =>
      obtain ⟨items, stop, hread, htype, rfl, hsecond, hlength⟩ :=
        readOne hcount place (e := e) h (.inr rfl) hbeyond hold
      refine ⟨items, ⟨stop, hread, hlength⟩, fun hlt => absurd hlt (UInt16.not_lt.2 hcount),
        fun _ => hsecond, endpointOf_none ?_ (zero_ne hsecond (by decide)),
        endpointOf_first htype⟩
      rw [htype]
      decide
  | some e =>
    cases tToO with
    | none =>
      obtain ⟨items, stop, hread, htype, rfl, hsecond, hlength⟩ :=
        readOne hcount place (e := e) h (.inl rfl) hbeyond hold
      refine ⟨items, ⟨stop, hread, hlength⟩, fun hlt => absurd hlt (UInt16.not_lt.2 hcount),
        fun _ => hsecond, endpointOf_first htype,
        endpointOf_none ?_ (zero_ne hsecond (by decide))⟩
      rw [htype]
      decide
    | some e' =>
      obtain ⟨hfirst, hsecond⟩ := holds_append.mp h
      obtain ⟨item, hread, htype, rfl⟩ := readSocketAddressInfoItem_eq place (e := e) hfirst
        (.inl rfl) (old 0)
      obtain ⟨item', hread', htype', rfl⟩ := readSocketAddressInfoItem_eq
        ⟨place.pos + 20, place.lengthCount + 20⟩ (e := e') hsecond (.inr rfl) (old 1)
      have hne : item.typeId ≠ kCipItemIdSocketAddressInfoTargetToOriginator := by
        rw [htype]
        decide
      change 4 ≤ count at hcount
      rcases turns_cases (UInt16.le_trans (by decide) hcount) with
        ⟨htwo, -⟩ | ⟨hthree, -⟩ | ⟨hfour, turns, hturns⟩
      · rw [htwo] at hcount
        exact absurd hcount (by decide)
      · rw [hthree] at hcount
        exact absurd hcount (by decide)
      · refine ⟨![item, item'], ⟨⟨place.pos + 20 + 20, place.lengthCount + 20 + 20⟩, ?_, fun _ => rfl⟩,
          fun hlt => absurd (UInt16.lt_trans hlt (by decide)) hfour, fun hlt => absurd hlt hfour,
          endpointOf_first htype, endpointOf_second hne htype'⟩
        rw [hturns, readSocketAddressInfoItems_two, hread]
        dsimp only
        rw [hread']

theorem Packet.two_le_count (p : Packet) : 2 ≤ p.count := by
  unfold Packet.count
  cases p.originatorToTarget.isSome <;> cases p.targetToOriginator.isSome <;> decide

theorem Packet.count_le_four (p : Packet) : p.count ≤ 4 := by
  unfold Packet.count
  cases p.originatorToTarget.isSome <;> cases p.targetToOriginator.isSome <;> decide

theorem typeId_of_endpointOf {typeId : UInt16} {e : Endpoint}
    (h : endpointOf items typeId = some e) :
    (items 0).typeId = typeId ∨ (items 1).typeId = typeId := by
  by_contra hnone
  obtain ⟨hfirst, hsecond⟩ := not_or.1 hnone
  rw [endpointOf_none hfirst hsecond] at h
  cases h

/-- The items that are not received stay unset. -/
theorem items_unset {count : UInt16} (htwo : 2 ≤ count) {place stop : Place}
    {old : Fin 2 → SocketAddressInfoItem} (hold : ∀ j, (old j).typeId = 0)
    (hread : readSocketAddressInfoItems data (count.toNat - 2) place old = (items, stop)) :
    (count < 3 → (items 0).typeId = 0) ∧ (count < 4 → (items 1).typeId = 0) := by
  rcases turns_cases htwo with ⟨rfl, -⟩ | ⟨rfl, -⟩ | ⟨hfour, -⟩
  · obtain rfl : old = items := (Prod.mk.inj hread).1
    exact ⟨fun _ => hold 0, fun _ => hold 1⟩
  · obtain rfl : ![(readSocketAddressInfoItem data place (old 0)).1, old 1] = items :=
      (Prod.mk.inj hread).1
    exact ⟨fun hlt => absurd hlt (by decide), fun _ => hold 1⟩
  · exact ⟨fun hlt => absurd (UInt16.lt_trans hlt (by decide)) hfour, fun hlt => absurd hlt hfour⟩

/-- A count that is too small leaves out a socket address. -/
theorem endpoints_missing {count : UInt16} (htwo : 2 ≤ count) (hsmall : ¬p.count ≤ count)
    {place stop : Place} {old : Fin 2 → SocketAddressInfoItem} (hold : ∀ j, (old j).typeId = 0)
    (hread : readSocketAddressInfoItems data (count.toNat - 2) place old = (items, stop))
    (hfirst : endpointOf items kCipItemIdSocketAddressInfoOriginatorToTarget =
      p.originatorToTarget) :
    endpointOf items kCipItemIdSocketAddressInfoTargetToOriginator ≠ p.targetToOriginator := by
  intro hsecond
  rcases turns_cases htwo with ⟨rfl, -⟩ | ⟨rfl, -⟩ | ⟨hfour, -⟩
  · -- no turn, and both are unset
    obtain rfl : old = items := (Prod.mk.inj hread).1
    rw [endpointOf_none (zero_ne (hold 0) (by decide)) (zero_ne (hold 1) (by decide))]
      at hfirst hsecond
    rw [Packet.count, ← hfirst, ← hsecond] at hsmall
    exact hsmall (by decide)
  · -- one turn, and the second is unset
    obtain rfl : ![(readSocketAddressInfoItem data place (old 0)).1, old 1] = items :=
      (Prod.mk.inj hread).1
    rw [Packet.count] at hsmall
    cases hoToT : p.originatorToTarget with
    | none =>
      rw [hoToT] at hsmall
      cases htToO : p.targetToOriginator with
      | none =>
        rw [htToO] at hsmall
        exact hsmall (show (2 : UInt16) ≤ 3 by decide)
      | some e' =>
        rw [htToO] at hsmall
        exact hsmall (UInt16.le_refl 3)
    | some e =>
      cases htToO : p.targetToOriginator with
      | none =>
        rw [hoToT, htToO] at hsmall
        exact hsmall (UInt16.le_refl 3)
      | some e' =>
        have hlast : ∀ typeId : UInt16, 0 ≠ typeId → ∀ e,
            endpointOf ![(readSocketAddressInfoItem data place (old 0)).1, old 1] typeId = some e →
              (readSocketAddressInfoItem data place (old 0)).1.typeId = typeId := by
          intro typeId hne e h
          exact (typeId_of_endpointOf h).resolve_right (zero_ne (hold 1) hne)
        have htype := hlast _ (by decide) e (hfirst.trans hoToT)
        rw [hlast _ (by decide) e' (hsecond.trans htToO)] at htype
        exact absurd htype (by decide)
  · exact hsmall (UInt16.le_trans p.count_le_four (UInt16.not_lt.1 hfour))

theorem checkLength_eq (hfirst : cpf.itemCount < 3 → (cpf.addressInfoItem 0).typeId = 0)
    (hsecond : cpf.itemCount < 4 → (cpf.addressInfoItem 1).typeId = 0) (dataLength n : Nat) :
    checkLength dataLength n cpf =
      (if n = dataLength ∨ 2 < cpf.itemCount then .ok else .error, cpf) := by
  have hitems : ![if cpf.itemCount < 3 then { cpf.addressInfoItem 0 with typeId := 0 }
        else cpf.addressInfoItem 0,
      if cpf.itemCount < 4 then { cpf.addressInfoItem 1 with typeId := 0 }
        else cpf.addressInfoItem 1] = cpf.addressInfoItem := by
    funext j
    match j with
    | 0 =>
      change (if cpf.itemCount < 3 then _ else _) = _
      split
      · next hlt => rw [← hfirst hlt]
      · rfl
    | 1 =>
      change (if cpf.itemCount < 4 then _ else _) = _
      split
      · next hlt => rw [← hsecond hlt]
      · rfl
  rw [checkLength]
  simp only [hitems]

@[simp] theorem checkLength_itemCount (dataLength n : Nat) (cpf : CipCommonPacketFormatData) :
    (checkLength dataLength n cpf).2.itemCount = cpf.itemCount := rfl

@[simp] theorem checkLength_dataItem (dataLength n : Nat) (cpf : CipCommonPacketFormatData) :
    (checkLength dataLength n cpf).2.dataItem = cpf.dataItem := rfl

/-- Where the data of the packet begin. -/
def Packet.dataStart (p : Packet) : Nat := 2 + p.address.encoded.length + 4

/-- The structure once the data item has been read. -/
def dataRead (data : Nat → UInt8) (count length : UInt16) (p : Packet) (item : AddressItem)
    (items : Fin 2 → SocketAddressInfoItem) : CipCommonPacketFormatData where
  itemCount := count
  addressItem := item
  dataItem := ⟨p.dataType, length, fun k => data (p.dataStart + k)⟩
  addressInfoItem := items

/-- The front of a packet, whatever its count and its length are. -/
theorem create_eq {count length : UInt16} (h : Holds data 0 (p.encodedAs count length))
    (hcount : 2 ≤ count) (n : Nat) (g : CipCommonPacketFormatData) :
    ∃ item, item.address = some p.address ∧
      (∀ id, p.address = .connected id → item.sequenceNumber = g.addressItem.sequenceNumber) ∧
      createCommonPacketFormatStructure data n g =
      if p.dataStart + length.toNat ≤ n then
        match readSocketAddressInfoItems data (count.toNat - 2)
          ⟨p.dataStart + length.toNat, p.dataStart + length.toNat⟩ (unset g.addressInfoItem) with
        | (items, place) =>
          checkLength n place.lengthCount (dataRead data count length p item items)
      else (.error, dataRead data count length p item (unset g.addressInfoItem)) := by
  obtain ⟨hitems, h⟩ := holds_append.mp h
  obtain ⟨haddress, h⟩ := holds_append.mp h
  obtain ⟨htype, h⟩ := holds_append.mp (holds_append.mp h).1
  obtain ⟨hlength, -⟩ := holds_append.mp h
  obtain ⟨item, hread, hitem, hnumber⟩ := readAddressItem_eq haddress g.addressItem
  refine ⟨item, hitem, hnumber, ?_⟩
  have hone : 1 ≤ count := UInt16.le_trans (by decide) hcount
  have hread' : readAddressItem data 2 g.addressItem = (item, 2 + p.address.encoded.length) := by
    simpa using hread
  have htype' : getUintFromMessage data (2 + p.address.encoded.length) = p.dataType := by
    simpa using htype.uint
  have hlength' : getUintFromMessage data (2 + p.address.encoded.length + 2) = length := by
    simpa using hlength.uint
  simp only [createCommonPacketFormatStructure, hitems.uint, if_pos hone, if_pos hcount, hread',
    htype', hlength']
  rfl

/-- Without a count of two no packet is read: there is more of it than an address. -/
theorem create_short {count length : UInt16} (h : Holds data 0 (p.encodedAs count length))
    (hcount : ¬2 ≤ count) (g : CipCommonPacketFormatData) :
    (createCommonPacketFormatStructure data (p.encodedAs count length).length g).1 = .error := by
  obtain ⟨hitems, hrest⟩ := holds_append.mp h
  obtain ⟨haddress, -⟩ := holds_append.mp hrest
  obtain ⟨item, hread, -⟩ := readAddressItem_eq haddress g.addressItem
  have hmany : ¬2 < count := fun hlt => hcount (UInt16.le_of_lt hlt)
  have hlength : 2 + p.address.encoded.length + 2 ≤ (p.encodedAs count length).length := by
    simp only [Packet.encodedAs, List.length_append, le16_length]
    omega
  simp only [createCommonPacketFormatStructure, hitems.uint, if_neg hcount]
  by_cases hone : 1 ≤ count
  · have hpos : readAddressItem data 2 g.addressItem = (item, 2 + p.address.encoded.length) := by
      simpa using hread
    rw [if_pos hone, hpos]
    exact if_neg (not_or.2 ⟨by omega, hmany⟩)
  · rw [if_neg hone]
    exact if_neg (not_or.2 ⟨by omega, hmany⟩)

/-- **What is written is read**, item for item, if its length is right and its count is not too
small; and a larger one does no harm if nothing behind the packet looks like a socket address. -/
theorem create_reads {count length : UInt16} (h : Holds data 0 (p.encodedAs count length))
    (hcount : p.count ≤ count) (hlength : length.toNat = p.payload.length)
    (hbeyond : count ≠ p.count → NoSocketAddress data (p.encodedAs count length).length)
    (g : CipCommonPacketFormatData) :
    ∃ cpf, createCommonPacketFormatStructure data (p.encodedAs count length).length g =
      (.ok, cpf) ∧ ReadsAs cpf p ∧ cpf.itemCount = count := by
  obtain ⟨-, hrest⟩ := holds_append.mp h
  obtain ⟨item, hitem, -, heq⟩ := create_eq h (UInt16.le_trans p.two_le_count hcount)
    (p.encodedAs count length).length g
  obtain ⟨-, hrest⟩ := holds_append.mp hrest
  obtain ⟨hdata, hendpoints⟩ := holds_append.mp hrest
  obtain ⟨-, hpayload⟩ := holds_append.mp (holds_append.mp hdata).2
  have hend : (p.encodedAs count length).length =
      p.dataStart + length.toNat + p.endpoints.length := by
    rw [hlength, Packet.dataStart, Packet.encodedAs]
    simp only [List.length_append, le16_length]
    omega
  have hat : Holds data (p.dataStart + length.toNat) p.endpoints := by
    refine (congrArg (fun k => Holds data k p.endpoints) ?_).mp hendpoints
    simp only [List.length_append, le16_length, hlength, Packet.dataStart]
    omega
  obtain ⟨items, hreads⟩ := readSocketAddressInfoItems_eq hcount
    ⟨p.dataStart + length.toNat, p.dataStart + length.toNat⟩ hat (hend ▸ hbeyond)
    (fun _ => rfl : ∀ j, (unset g.addressInfoItem j).typeId = 0)
  obtain ⟨stop, hread, hstop⟩ := hreads.read
  refine ⟨dataRead data count length p item items, ?_,
    ⟨⟨hitem, rfl, hreads.originatorToTarget, hreads.targetToOriginator⟩, ?_⟩, rfl⟩
  · rw [heq, if_pos (by omega), hread]
    change checkLength _ stop.lengthCount _ = _
    rw [checkLength_eq hreads.first hreads.second, if_pos]
    by_cases hsame : count = p.count
    · exact .inl ((hstop hsame).trans hend.symm)
    · exact .inr (UInt16.lt_of_le_of_lt p.two_le_count (UInt16.lt_of_le_of_ne hcount (Ne.symm hsame)))
  · have hstart : p.dataStart = 0 + 2 + p.address.encoded.length + 2 + 2 := by
      rw [Packet.dataStart]
    have hdata' : bytesAt (fun k => data (p.dataStart + k)) 0 length.toNat =
        bytesAt data p.dataStart length.toNat := by
      simp only [bytesAt, Nat.zero_add]
    exact hdata'.trans (hstart ▸ hlength ▸ hpayload)

/-- With its own count and length a packet is read back. -/
theorem create_shows {length : UInt16} (h : Holds data 0 (p.encodedAs p.count length))
    (hlength : length.toNat = p.payload.length) (g : CipCommonPacketFormatData) :
    ∃ cpf, createCommonPacketFormatStructure data (p.encodedAs p.count length).length g =
      (.ok, cpf) ∧ Shows cpf p := by
  obtain ⟨cpf, hcreate, hreads, hcount⟩ := create_reads h (UInt16.le_refl _) hlength
    (fun hne => absurd rfl hne) g
  exact ⟨cpf, hcreate, hreads.1, hcount, hreads.2⟩

/-- **When it is read as it was written**, with any count and length. -/
theorem create_readsAs_iff {count length : UInt16} (h : Holds data 0 (p.encodedAs count length))
    (hbeyond : NoSocketAddress data (p.encodedAs count length).length)
    (g : CipCommonPacketFormatData) :
    (∃ cpf, createCommonPacketFormatStructure data (p.encodedAs count length).length g =
        (.ok, cpf) ∧ ReadsAs cpf p) ↔
      p.count ≤ count ∧ length.toNat = p.payload.length := by
  constructor
  · rintro ⟨cpf, hcreate, hitems, hpayload⟩
    have htwo : 2 ≤ count := by
      by_contra hcount
      have herror := create_short h hcount g
      rw [hcreate] at herror
      cases herror
    obtain ⟨item, -, -, heq⟩ := create_eq h htwo (p.encodedAs count length).length g
    rw [hcreate] at heq
    split at heq
    · cases hread : readSocketAddressInfoItems data (count.toNat - 2)
          ⟨p.dataStart + length.toNat, p.dataStart + length.toNat⟩ (unset g.addressInfoItem) with
      | mk items stop =>
        have hold : ∀ j, (unset g.addressInfoItem j).typeId = 0 := fun _ => rfl
        obtain ⟨hfirst, hsecond⟩ := items_unset htwo hold hread
        rw [hread] at heq
        dsimp only at heq
        rw [checkLength_eq hfirst hsecond] at heq
        obtain rfl := (Prod.mk.inj heq).2
        refine ⟨?_, ?_⟩
        · by_contra hsmall
          exact endpoints_missing htwo hsmall hold hread hitems.originatorToTarget
            hitems.targetToOriginator
        · rw [← hpayload, bytesAt_length]
          rfl
    · cases heq
  · rintro ⟨hcount, hlength⟩
    obtain ⟨cpf, hcreate, hreads, -⟩ := create_reads h hcount hlength (fun _ => hbeyond) g
    exact ⟨cpf, hcreate, hreads⟩

/-- An address without a sequence number leaves the one that was there. -/
theorem create_connected {id : UInt32} (h : Holds data 0 p.encoded) (hp : p.address = .connected id)
    (n : Nat) (g : CipCommonPacketFormatData) :
    (createCommonPacketFormatStructure data n g).2.addressItem.sequenceNumber =
      g.addressItem.sequenceNumber := by
  obtain ⟨item, -, hnumber, heq⟩ := create_eq h p.two_le_count n g
  rw [← hnumber id hp, heq]
  split
  · rfl
  · rfl

/-! ## 7. Replies of the message router -/

/-- The packet that a reply is written into. -/
def CipCommonPacketFormatData.replyPacket (cpf : CipCommonPacketFormatData)
    (r : CipMessageRouterResponse) : Option Packet :=
  cpf.addressItem.address.bind fun address =>
    if cpf.dataItem.typeId = kCipItemIdUnconnectedDataItem ∨
        cpf.dataItem.typeId = kCipItemIdConnectedDataItem then
      some {
        address := address
        connected := decide (cpf.dataItem.typeId = kCipItemIdConnectedDataItem)
        payload := replyPayload r cpf
        originatorToTarget := endpointOf cpf.addressInfoItem
          kCipItemIdSocketAddressInfoOriginatorToTarget
        targetToOriginator := endpointOf cpf.addressInfoItem
          kCipItemIdSocketAddressInfoTargetToOriginator }
    else none

variable {r : CipMessageRouterResponse}

theorem showsItems_replyPacket (h : cpf.replyPacket r = some p) :
    ShowsItems cpf p ∧ p.payload = replyPayload r cpf := by
  unfold CipCommonPacketFormatData.replyPacket at h
  cases haddress : cpf.addressItem.address with
  | none =>
    rw [haddress] at h
    cases h
  | some address =>
    rw [haddress, Option.bind_some] at h
    split at h
    · next htype =>
      obtain rfl := Option.some.inj h
      refine ⟨⟨haddress, ?_, rfl, rfl⟩, rfl⟩
      rw [Packet.dataType]
      rcases htype with htype | htype
      · rw [htype]
        rfl
      · rw [htype]
        rfl
    · cases h

theorem flatMap_le16_length (l : List (Fin 2)) (f : Fin 2 → UInt16) :
    (l.flatMap fun i => le16 (f i)).length = 2 * l.length := by
  induction l with
  | nil => rfl
  | cons i l ih =>
    rw [List.flatMap_cons, List.length_append, ih, le16_length, List.length_cons]
    omega

theorem encodeExtendedStatusDataItems_length (r : CipMessageRouterResponse) :
    (encodeExtendedStatusDataItems r).length = 2 * min r.sizeOfAdditionalStatus.toNat 2 := by
  rw [encodeExtendedStatusDataItems, flatMap_le16_length, List.length_take, List.length_finRange]

theorem replyLength_eq_iff (r : CipMessageRouterResponse) (cpf : CipCommonPacketFormatData)
    (hfits : r.message.length ≤ 512) :
    (replyLength r cpf).toNat = (replyPayload r cpf).length ↔ r.sizeOfAdditionalStatus ≤ 2 := by
  have hsize := r.sizeOfAdditionalStatus.toNat_lt
  have hstatus := encodeExtendedStatusDataItems_length r
  rw [UInt8.le_iff_toNat_le, show (2 : UInt8).toNat = 2 from rfl]
  unfold replyLength replyPayload encodeReply connectedDataItemLength unconnectedDataItemLength
  split
  · rw [UInt16.toNat_ofNat', Nat.mod_eq_of_lt (by omega)]
    simp only [List.length_append, le16_length, List.length_cons, List.length_nil, hstatus]
    omega
  · rw [UInt16.toNat_ofNat', Nat.mod_eq_of_lt (by omega)]
    simp only [List.length_append, List.length_cons, List.length_nil, hstatus]
    omega

/-- **When a reply can be read.**  A reply that fits the buffer, with nothing behind it that looks
like a socket address, is read item for item as it was written, by a reader of this format, exactly
when the item count left over from the request is no less than the number of items of the reply and
the additional status is no larger than the array for it. -/
theorem reply_readable_iff (hp : cpf.replyPacket r = some p)
    (hfits : 24 + (assembleLinearMessage (some r) cpf).2.length ≤ 512)
    (hdata : Holds data 0 (assembleLinearMessage (some r) cpf).2)
    (hbeyond : NoSocketAddress data (assembleLinearMessage (some r) cpf).2.length)
    (g : CipCommonPacketFormatData) :
    (∃ cpf', createCommonPacketFormatStructure (fun k => data (6 + k))
        ((assembleLinearMessage (some r) cpf).2.length - 6) g = (.ok, cpf') ∧ ReadsAs cpf' p) ↔
      p.count ≤ cpf.itemCount ∧ r.sizeOfAdditionalStatus ≤ 2 := by
  obtain ⟨hitems, hpayload⟩ := showsItems_replyPacket hp
  rw [assembleLinearMessage_reply r hitems hpayload] at hdata hfits hbeyond ⊢
  obtain ⟨-, hpacket⟩ := holds_append.mp hdata
  have hmessage : r.message.length ≤ 512 := by
    refine le_trans ?_ hfits
    simp only [Packet.encodedAs, hpayload, replyPayload, encodeReply, List.length_append]
    omega
  have hat : Holds (fun k => data (6 + k)) 0 (p.encodedAs cpf.itemCount (replyLength r cpf)) := by
    refine Eq.trans ?_ hpacket
    simp only [bytesAt, Nat.zero_add]
    rfl
  have hlength : (le32 0 ++ le16 0 ++ p.encodedAs cpf.itemCount (replyLength r cpf)).length =
      6 + (p.encodedAs cpf.itemCount (replyLength r cpf)).length := List.length_append
  rw [hlength] at hbeyond ⊢
  have hend : NoSocketAddress (fun k => data (6 + k))
      (p.encodedAs cpf.itemCount (replyLength r cpf)).length := hbeyond
  rw [← replyLength_eq_iff r cpf hmessage, ← hpayload, ← create_readsAs_iff hat hend g,
    Nat.add_sub_cancel_left]

/-- The structure after an unconnected request with that item count, no socket address among its
items. -/
def unconnectedRequest (count : UInt16) : CipCommonPacketFormatData where
  itemCount := count
  addressItem := ⟨kCipItemIdNullAddress, 0, 0, 0⟩
  dataItem := ⟨kCipItemIdUnconnectedDataItem, 0, fun _ => 0⟩
  addressInfoItem := fun _ => ⟨0, 0, 0, 0, 0, []⟩

def vendorIdReply : CipMessageRouterResponse := ⟨0x8E, 0, 0, 0, fun _ => 0, [0x01, 0x00]⟩

def vendorIdPacket : Packet := ⟨.null, false, [0x8E, 0, 0, 0, 0x01, 0x00], none, none⟩

/-- What is sent, as memory. -/
def vendorIdMemory (count : UInt16) : Nat → UInt8 := fun k =>
  (assembleLinearMessage (some vendorIdReply) (unconnectedRequest count)).2.getD k 0

/-- An unknown third item in the request is still counted in the reply, which is read all the same;
a request without a data item leaves a count with which it is not. -/
theorem reply_readable_three :
    (∃ cpf', createCommonPacketFormatStructure (fun k => vendorIdMemory 3 (6 + k)) 16
        (unconnectedRequest 0) = (.ok, cpf') ∧ ReadsAs cpf' vendorIdPacket) ∧
      ¬∃ cpf', createCommonPacketFormatStructure (fun k => vendorIdMemory 1 (6 + k)) 16
        (unconnectedRequest 0) = (.ok, cpf') ∧ ReadsAs cpf' vendorIdPacket := by
  have hthree := @reply_readable_iff (unconnectedRequest 3) vendorIdPacket (vendorIdMemory 3)
    vendorIdReply rfl (by decide) rfl ⟨by decide, by decide⟩ (unconnectedRequest 0)
  have hone := @reply_readable_iff (unconnectedRequest 1) vendorIdPacket (vendorIdMemory 1)
    vendorIdReply rfl (by decide) rfl ⟨by decide, by decide⟩ (unconnectedRequest 0)
  exact ⟨hthree.mpr (by decide), fun h => absurd (hone.mp h) (by decide)⟩

end GroundTruth.Encap
