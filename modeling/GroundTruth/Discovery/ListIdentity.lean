/-
# The List Identity reply

What `encap.c` sends when a List Identity command arrives, over TCP or UDP: the encapsulation
header and one item, the identity object with the socket address before it.  The product name
has a variable length and the state byte comes after it, at the end of the item; the two length
fields count the item and the item with its own header.
-/
import GroundTruth.Lib.Words

namespace GroundTruth.Discovery

open Lib

/-! ## 1. The object and the request -/

/-- What the reply reads of `CipIdentityObject`.  The length of the name, a `CipShortString`, is
one byte. -/
structure CipIdentityObject where
  vendorId : UInt16
  deviceType : UInt16
  productCode : UInt16
  majorRevision : UInt8
  minorRevision : UInt8
  status : UInt16
  serialNumber : UInt32
  productName : Bytes
  state : UInt8
  name_length : productName.length < 256

/-- Two members of `CipIdentityState`. -/
def kStateSelfTesting : UInt8 := 1
def kStateOperational : UInt8 := 3

def kEncapsulationCommandListIdentity : UInt16 := 0x0063

/-- What the reply reads of the request, `EncapsulationData`. -/
structure EncapsulationData where
  commandCode : UInt16
  senderContext : Bytes
  context_length : senderContext.length = 8

/-! ## 2. The reply -/

/-- The two bytes exchanged, on a little-endian processor. -/
def htons (v : UInt16) : UInt16 := glue (low v) (high v)

def kOpenerEthernetPort : UInt16 := 44818

def kSupportedProtocolVersion : UInt16 := 1

/-- `GenerateEncapsulationHeader`; the session handle and the options are 0. -/
def generateEncapsulationHeader (receiveData : EncapsulationData)
    (commandSpecificDataLength : UInt16) (encapsulationProtocolStatus : UInt32) : Bytes :=
  le16 receiveData.commandCode ++ le16 commandSpecificDataLength ++ le32 0 ++
    le32 encapsulationProtocolStatus ++ receiveData.senderContext ++ le32 0

/-- `EncapsulateIpAddress`, on a little-endian processor; `AF_INET` is 2. -/
def encapsulateIpAddress (port : UInt16) (address : UInt32) : Bytes :=
  le16 (htons 2) ++ le16 port ++ le32 address

def listIdentityGetCipIdentityItemLength (o : CipIdentityObject) : UInt16 :=
  .ofNat (2 + 2 + 2 + 4 + 8 * 1 + 2 + 2 + 2 + 2 * 1 + 2 + 4 + 1 + o.productName.length + 1)

/-- The item after its own header. -/
def identityItem (o : CipIdentityObject) (ipAddress : UInt32) : Bytes :=
  le16 kSupportedProtocolVersion ++ encapsulateIpAddress (htons kOpenerEthernetPort) ipAddress ++
    List.replicate 8 0 ++
    le16 o.vendorId ++ le16 o.deviceType ++ le16 o.productCode ++
    [o.majorRevision] ++ [o.minorRevision] ++ le16 o.status ++ le32 o.serialNumber ++
    [UInt8.ofNat o.productName.length] ++ o.productName ++ [o.state]

def encodeListIdentityCipIdentityItem (o : CipIdentityObject) (ipAddress : UInt32) : Bytes :=
  le16 0x0C ++ le16 (listIdentityGetCipIdentityItemLength o) ++ identityItem o ipAddress

def encapsulateListIdentityResponseMessage (receiveData : EncapsulationData)
    (o : CipIdentityObject) (ipAddress : UInt32) : Bytes :=
  generateEncapsulationHeader receiveData
      (listIdentityGetCipIdentityItemLength o + 2 + 2 + 2) 0 ++
    le16 1 ++ encodeListIdentityCipIdentityItem o ipAddress

/-! ## 3. The lengths -/

@[simp] theorem generateEncapsulationHeader_length (receiveData : EncapsulationData)
    (length : UInt16) (status : UInt32) :
    (generateEncapsulationHeader receiveData length status).length = 24 := by
  simp [generateEncapsulationHeader, receiveData.context_length]

@[simp] theorem identityItem_length (o : CipIdentityObject) (ipAddress : UInt32) :
    (identityItem o ipAddress).length = o.productName.length + 34 := by
  simp only [identityItem, encapsulateIpAddress, List.length_append, List.length_cons,
    List.length_nil, List.length_replicate, le16_length, le32_length]
  omega

/-- The length field of the item is the length of the item. -/
theorem itemLength_toNat (o : CipIdentityObject) (ipAddress : UInt32) :
    (listIdentityGetCipIdentityItemLength o).toNat = (identityItem o ipAddress).length := by
  have hname := o.name_length
  rw [identityItem_length, listIdentityGetCipIdentityItemLength, UInt16.toNat_ofNat']
  omega

/-- The length field of the header is the length of what follows the header. -/
theorem commandSpecificDataLength_toNat (o : CipIdentityObject) (ipAddress : UInt32) :
    (listIdentityGetCipIdentityItemLength o + 2 + 2 + 2).toNat =
      (le16 1 ++ encodeListIdentityCipIdentityItem o ipAddress).length := by
  have hname := o.name_length
  have hitem := itemLength_toNat o ipAddress
  rw [identityItem_length] at hitem
  simp only [encodeListIdentityCipIdentityItem, List.length_append, le16_length,
    identityItem_length, UInt16.toNat_add, UInt16.toNat_ofNat, hitem]
  omega

/-- The reply fits the message, whose buffer has 512 bytes. -/
theorem response_length_le (receiveData : EncapsulationData) (o : CipIdentityObject)
    (ipAddress : UInt32) :
    (encapsulateListIdentityResponseMessage receiveData o ipAddress).length ≤ 319 := by
  have hname := o.name_length
  simp only [encapsulateListIdentityResponseMessage, encodeListIdentityCipIdentityItem,
    List.length_append, generateEncapsulationHeader_length, le16_length, identityItem_length]
  omega

end GroundTruth.Discovery
