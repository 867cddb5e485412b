/-
# Requests over a connection

A class 3 connection carries explicit requests, each with a sequence count.
`NotifyConnectedCommonPacketFormat` (`cpf.c`) gives a request to the message router if its count is
not that of the request before, and otherwise sends the last reply again, under a new header.

* `notifyConnectedCommonPacketFormat`, `handleReceivedSendUnitDataCommand`: the two functions;
* `message_new`, `message_again`: what becomes of a request of a client, by its count;
* `message_elsewhere`: a message to another connection leaves this one alone;
* `requests_once`: however often a client repeats its requests, each is executed once.

The count of a new connection is 0 and there is no reply yet, so a client that starts with 0 is not
heard (`again_run`).
-/
import Mathlib.Data.List.GetD
import GroundTruth.Cip.Channel
import GroundTruth.Encap.Session

namespace GroundTruth.Encap.Explicit

open GroundTruth.Lib GroundTruth.Cip GroundTruth.Discovery
open GroundTruth.Cip.Channel (Receiver ReceivingConnection getConnectedObject getConnectedObject_set
  address_connected)

/-! ## 1. The code -/

def kEncapsulationProtocolSuccess : UInt32 := 0x0000
def kEncapsulationProtocolInvalidSessionHandle : UInt32 := 0x0064

/-- `PC_OPENER_ETHERNET_BUFFER_SIZE`. -/
def ethernetBufferSize : Nat := 512

/-- `GenerateEncapsulationHeader`. -/
def generateEncapsulationHeader (receiveData : EncapsulationData)
    (commandSpecificDataLength : UInt16) (sessionHandle encapsulationProtocolStatus : UInt32) :
    Bytes :=
  le16 receiveData.commandCode ++ (le16 commandSpecificDataLength ++ (le32 sessionHandle ++
    (le32 encapsulationProtocolStatus ++ (receiveData.senderContext ++ le32 0))))

/-- A command as it is received. -/
structure UnitData extends EncapsulationData where
  sessionHandle : UInt32
  dataLength : UInt16
  /-- what `current_communication_buffer_position` points to -/
  data : Nat → UInt8

/-- The device, with what the services have besides. -/
structure Server (σ : Type) extends Receiver where
  /-- `g_registered_sessions` -/
  registeredSessions : SessionIndex → Option Nat
  /-- `cip_produced_connection_id` and `last_reply_sent` of the connection objects -/
  cipProducedConnectionId : Slot → UInt32
  lastReplySent : Slot → Bytes
  application : σ

variable {σ : Type}

/-- `NotifyMessageRouter`: `data`, `data_length` and the session; `none` is `kEipStatusError`. -/
abbrev MessageRouter (σ : Type) :=
  (Nat → UInt8) → Int → UInt32 → Server σ → Option CipMessageRouterResponse × Server σ

/-- What comes of a message: what was executed and what the router made of it, and what is sent. -/
structure Outcome where
  executed : Option (Bytes × Option CipMessageRouterResponse)
  sent : Option Bytes

def Outcome.nothing : Outcome := ⟨none, none⟩

/-- `CheckRegisteredSessions`. -/
def Server.checkRegisteredSessions (s : Server σ) (handle : Nat) : Bool :=
  (indexOf handle).any fun i => (s.registeredSessions i).isSome

def Server.set (s : Server σ) (c : Slot) (o : ReceivingConnection) : Server σ :=
  { s with toReceiver := s.toReceiver.set c o }

def Server.setStructure (s : Server σ) (cpf : CipCommonPacketFormatData) : Server σ :=
  { s with cpf := cpf }

/-- `ConnectionObjectResetInactivityWatchdogTimerValue`. -/
def Server.resetInactivityWatchdog (s : Server σ) (c : Slot) : Server σ :=
  s.set c { s.connectionData c with
    inactivityWatchdogTimer := (s.connectionData c).regularTimeout }

/-- The message of a reply, the header before the rest. -/
def UnitData.reply (m : UnitData) (body : Bytes) : Bytes :=
  generateEncapsulationHeader m.toEncapsulationData (.ofNat body.length) m.sessionHandle
    kEncapsulationProtocolSuccess ++ body

/-- `last_reply_sent` with a new header; the message keeps its length. -/
def UnitData.again (m : UnitData) (last : Bytes) : Bytes :=
  (generateEncapsulationHeader m.toEncapsulationData (.ofNat last.length - 24) m.sessionHandle
    kEncapsulationProtocolSuccess ++ last.drop 24).take last.length

def Server.setSequenceCount (s : Server σ) (c : Slot) (n : UInt16) : Server σ :=
  s.set c { s.connectionData c with sequenceCountConsuming := n }

/-- The reply of the router, sent and kept.  `none` is a write past the end of the buffer. -/
def sendReply (m : UnitData) (c : Slot) (bytes : Bytes) (r : CipMessageRouterResponse)
    (s : Server σ) : Option (Outcome × Server σ) :=
  let s := s.setStructure { s.cpf with
    addressItem := { s.cpf.addressItem with connectionIdentifier := s.cipProducedConnectionId c } }
  let message := m.reply (assembleLinearMessage (some r) s.cpf).2
  if message.length ≤ ethernetBufferSize then
    some (⟨some (bytes, some r), some message⟩,
      { s with lastReplySent := Function.update s.lastReplySent c message })
  else none

/-- A request whose count is new. -/
def execute (router : MessageRouter σ) (m : UnitData) (c : Slot) (n : UInt16) (s : Server σ) :
    Option (Outcome × Server σ) :=
  let item := s.cpf.dataItem
  let bytes := bytesAt item.data 2 (item.length.toNat - 2)
  match router (fun j => item.data (2 + j)) (item.length.toNat - 2) m.sessionHandle
    (s.setSequenceCount c n) with
  | (none, s) => some (⟨some (bytes, none), none⟩, s)
  | (some r, s) => sendReply m c bytes r s

/-- `NotifyConnectedCommonPacketFormat`. -/
def notifyConnectedCommonPacketFormat (router : MessageRouter σ) (m : UnitData) (s : Server σ) :
    Option (Outcome × Server σ) :=
  match createCommonPacketFormatStructure m.data m.dataLength.toNat s.cpf with
  | (.error, cpf) => some (.nothing, s.setStructure cpf)
  | (.ok, cpf) =>
    let s := s.setStructure cpf
    if cpf.addressItem.typeId = kCipItemIdConnectionAddress then
      match getConnectedObject cpf.addressItem.connectionIdentifier s.toReceiver with
      | none => some (.nothing, s)
      | some c =>
        let s := s.resetInactivityWatchdog c
        if cpf.dataItem.typeId = kCipItemIdConnectedDataItem then
          let n := getUintFromMessage cpf.dataItem.data 0
          let s := s.setStructure { cpf with
            addressItem := { cpf.addressItem with sequenceNumber := n.toUInt32 } }
          if (s.connectionData c).sequenceCountConsuming = n then
            some (⟨none, some (m.again (s.lastReplySent c))⟩, s)
          else execute router m c n s
        else some (.nothing, s)
    else some (.nothing, s)

/-- `HandleReceivedSendUnitDataCommand`. -/
def handleReceivedSendUnitDataCommand (router : MessageRouter σ) (m : UnitData) (s : Server σ) :
    Option (Outcome × Server σ) :=
  if 6 ≤ m.dataLength then
    let m := { m with dataLength := m.dataLength - 6, data := fun k => m.data (6 + k) }
    if s.checkRegisteredSessions m.sessionHandle.toNat = true then
      notifyConnectedCommonPacketFormat router m s
    else
      some (⟨none, some (generateEncapsulationHeader m.toEncapsulationData 0 m.sessionHandle
        kEncapsulationProtocolInvalidSessionHandle)⟩, s)
  else some (.nothing, s)

/-- The header that `Discovery` writes has the session handle 0. -/
theorem generateEncapsulationHeader_zero (receiveData : EncapsulationData) (length : UInt16)
    (status : UInt32) : generateEncapsulationHeader receiveData length 0 status =
      Discovery.generateEncapsulationHeader receiveData length status := by
  simp only [generateEncapsulationHeader, Discovery.generateEncapsulationHeader, List.append_assoc]

@[simp] theorem generateEncapsulationHeader_length (receiveData : EncapsulationData)
    (length : UInt16) (sessionHandle status : UInt32) :
    (generateEncapsulationHeader receiveData length sessionHandle status).length = 24 := by
  simp [generateEncapsulationHeader, receiveData.context_length]

/-! ## 2. A client -/

/-- A request that fits the buffer of the connection. -/
structure Request where
  interfaceHandle : UInt32
  timeout : UInt16
  count : UInt16
  bytes : Bytes
  length_le : 24 + 22 + bytes.length ≤ ethernetBufferSize

/-- Who sends: the connection, as both sides know it, and the session. -/
structure Client where
  slot : Slot
  connectionId : UInt32
  sessionHandle : UInt32

def Request.packet (k : Client) (q : Request) : Packet where
  address := .connected k.connectionId
  connected := true
  payload := le16 q.count ++ q.bytes
  originatorToTarget := none
  targetToOriginator := none

/-- The command that carries a request. -/
def Request.sent (k : Client) (header : EncapsulationData) (q : Request) : UnitData where
  toEncapsulationData := header
  sessionHandle := k.sessionHandle
  dataLength := .ofNat (6 + (q.packet k).encoded.length)
  data := fun j =>
    ((le32 q.interfaceHandle ++ le16 q.timeout) ++ (q.packet k).encoded).getD j 0

/-- A message with that header. -/
def Client.answer (k : Client) (header : EncapsulationData) (body : Bytes) : Bytes :=
  generateEncapsulationHeader header (.ofNat body.length) k.sessionHandle
    kEncapsulationProtocolSuccess ++ body

/-- The reply on a connection, after the header. -/
def replyBody (produced : UInt32) (count : UInt16) (r : CipMessageRouterResponse) : Bytes :=
  (le32 0 ++ le16 0) ++ (⟨.connected produced, true, le16 count ++ encodeReply r, none, none⟩ :
    Packet).encodedAs 2 (connectedDataItemLength r)

/-- `last_reply_sent` has the last reply, if there was one. -/
def Kept (last : Option Bytes) (message : Bytes) : Prop :=
  message.length = last.elim 0 (fun body => 24 + body.length) ∧ message.drop 24 = last.getD []

/-- The connection is there, with the count of the last request and the reply that was sent last. -/
structure Open (k : Client) (n : UInt16) (produced : UInt32) (last : Option Bytes)
    (s : Server σ) : Prop where
  connected : getConnectedObject k.connectionId s.toReceiver = some k.slot
  session : s.checkRegisteredSessions k.sessionHandle.toNat = true
  count : (s.connectionData k.slot).sequenceCountConsuming = n
  produced : s.cipProducedConnectionId k.slot = produced
  reply : Kept last (s.lastReplySent k.slot)

/-- What has nothing to do with the connection. -/
structure Leaves (k : Client) (s t : Server σ) : Prop where
  connected : getConnectedObject k.connectionId t.toReceiver =
    getConnectedObject k.connectionId s.toReceiver
  session : t.checkRegisteredSessions k.sessionHandle.toNat =
    s.checkRegisteredSessions k.sessionHandle.toNat
  count : (t.connectionData k.slot).sequenceCountConsuming =
    (s.connectionData k.slot).sequenceCountConsuming
  produced : t.cipProducedConnectionId k.slot = s.cipProducedConnectionId k.slot
  reply : t.lastReplySent k.slot = s.lastReplySent k.slot

/-- The service of a request leaves the connection and the structure alone, and its reply fits the
buffer. -/
structure Serves (router : MessageRouter σ) (k : Client) (q : Request) : Prop where
  leaves : ∀ data, Holds data 0 q.bytes → ∀ s,
    Leaves k s (router data q.bytes.length k.sessionHandle s).2
  structure_eq : ∀ data, Holds data 0 q.bytes → ∀ s,
    (router data q.bytes.length k.sessionHandle s).2.cpf = s.cpf
  fits : ∀ data, Holds data 0 q.bytes → ∀ s,
    ∀ r ∈ (router data q.bytes.length k.sessionHandle s).1, r.message.length ≤ 458

variable {router : MessageRouter σ} {k : Client} {q : Request} {n : UInt16} {produced : UInt32}
  {last : Option Bytes} {s t u : Server σ} {header : EncapsulationData}

theorem Leaves.refl (k : Client) (s : Server σ) : Leaves k s s := ⟨rfl, rfl, rfl, rfl, rfl⟩

theorem Leaves.trans (h : Leaves k s t) (h' : Leaves k t u) : Leaves k s u where
  connected := h'.connected.trans h.connected
  session := h'.session.trans h.session
  count := h'.count.trans h.count
  produced := h'.produced.trans h.produced
  reply := h'.reply.trans h.reply

theorem Open.leaves (h : Open k n produced last s) (hl : Leaves k s t) :
    Open k n produced last t where
  connected := hl.connected.trans h.connected
  session := hl.session.trans h.session
  count := hl.count.trans h.count
  produced := hl.produced.trans h.produced
  reply := hl.reply.symm ▸ h.reply

theorem Leaves.setStructure (k : Client) (s : Server σ) (cpf : CipCommonPacketFormatData) :
    Leaves k s (s.setStructure cpf) := ⟨rfl, rfl, rfl, rfl, rfl⟩

/-- A connection that `GetConnectedObject` does not see otherwise. -/
theorem Leaves.set {c : Slot} {o : ReceivingConnection}
    (hstate : o.state = (s.connectionData c).state)
    (hid : o.cipConsumedConnectionId = (s.connectionData c).cipConsumedConnectionId)
    (hcount : k.slot = c → o.sequenceCountConsuming =
      (s.connectionData c).sequenceCountConsuming) : Leaves k s (s.set c o) := by
  refine ⟨getConnectedObject_set hstate hid, rfl, ?_, rfl, rfl⟩
  change (Function.update s.connectionData c o k.slot).sequenceCountConsuming = _
  by_cases hc : k.slot = c
  · subst hc
    rw [Function.update_self, hcount rfl]
  · rw [Function.update_of_ne hc]

theorem Open.again_eq (h : Open k n produced last s) (header : EncapsulationData) (q : Request) :
    (q.sent k header).again (s.lastReplySent k.slot) = last.elim [] (k.answer header) := by
  obtain ⟨hlength, hdrop⟩ := h.reply
  rw [UnitData.again, hdrop, hlength]
  cases last with
  | none => rfl
  | some body =>
    have hsub : UInt16.ofNat (24 + body.length) - 24 = .ofNat body.length := by
      rw [UInt16.ofNat_add, UInt16.add_comm]
      exact UInt16.add_sub_cancel _ _
    have htake : (generateEncapsulationHeader header (.ofNat body.length) k.sessionHandle
        kEncapsulationProtocolSuccess ++ body).length ≤ 24 + body.length := by
      rw [List.length_append, generateEncapsulationHeader_length]
    simp only [Option.elim_some, Option.getD_some, hsub]
    exact List.take_of_length_le htake

/-! ## 3. One message -/

theorem packet_length (k : Client) (q : Request) :
    (q.packet k).encoded.length = 16 + q.bytes.length := by
  simp only [Packet.encoded, Packet.encodedAs, Request.packet, Packet.endpoints, Address.encoded,
    Option.elim_none, List.length_append, le16_length, le32_length, List.length_nil]
  omega

theorem sent_dataLength (k : Client) (header : EncapsulationData) (q : Request) :
    (q.sent k header).dataLength.toNat = 6 + (q.packet k).encoded.length := by
  have hfits := q.length_le
  rw [Request.sent, UInt16.toNat_ofNat', Nat.mod_eq_of_lt]
  rw [packet_length]
  rw [ethernetBufferSize] at hfits
  omega

theorem six_le_dataLength (k : Client) (header : EncapsulationData) (q : Request) :
    6 ≤ (q.sent k header).dataLength := by
  rw [UInt16.le_iff_toNat_le, sent_dataLength]
  exact Nat.le_add_right ..

/-- The request is read as it was sent. -/
theorem sent_read (k : Client) (header : EncapsulationData) (q : Request)
    (g : CipCommonPacketFormatData) :
    ∃ cpf, createCommonPacketFormatStructure (fun j => (q.sent k header).data (6 + j))
        ((q.sent k header).dataLength - 6).toNat g = (.ok, cpf) ∧ Shows cpf (q.packet k) := by
  have hfits := q.length_le
  have hsub : ((q.sent k header).dataLength - 6).toNat = (q.packet k).encoded.length := by
    rw [UInt16.toNat_sub_of_le _ _ (six_le_dataLength k header q), sent_dataLength]
    exact Nat.add_sub_cancel_left ..
  have hat : Holds (fun j => (q.sent k header).data (6 + j)) 0 (q.packet k).encoded := by
    apply List.ext_getElem
    · rw [bytesAt_length]
    · intro j hj hj'
      simp only [bytesAt, Request.sent, List.getElem_map, List.getElem_range, Nat.zero_add]
      rw [List.getD_append_right _ _ _ _ (by simp)]
      simp [hj']
  rw [hsub]
  refine create_shows hat ?_ g
  rw [UInt16.toNat_ofNat', Nat.mod_eq_of_lt]
  simp only [Request.packet, List.length_append, le16_length]
  rw [ethernetBufferSize] at hfits
  omega

/-- The device when a message of the connection has been read. -/
def Server.heard (s : Server σ) (c : Slot) (cpf : CipCommonPacketFormatData) : Server σ :=
  (s.resetInactivityWatchdog c).setStructure cpf

theorem Leaves.heard (k : Client) (s : Server σ) (c : Slot) (cpf : CipCommonPacketFormatData) :
    Leaves k s (s.heard c cpf) :=
  have hreset : Leaves k s (s.resetInactivityWatchdog c) := Leaves.set rfl rfl fun _ => rfl
  hreset.trans (.setStructure k _ cpf)

theorem address_of_connection {item : AddressItem} (h : item.typeId = kCipItemIdConnectionAddress) :
    item.address = some (.connected item.connectionIdentifier) := by
  rw [AddressItem.address, h, if_neg (by decide), if_pos rfl]

/-- The structure, with the count where a reply takes it from. -/
structure Read (k : Client) (q : Request) (cpf : CipCommonPacketFormatData) : Prop where
  items : ShowsItems cpf (q.packet k)
  itemCount : cpf.itemCount = 2
  payload : bytesAt cpf.dataItem.data 0 cpf.dataItem.length.toNat = le16 q.count ++ q.bytes
  sequenceNumber : cpf.addressItem.sequenceNumber = q.count.toUInt32

theorem message_read (hopen : Open k n produced last s) (router : MessageRouter σ)
    (header : EncapsulationData) (q : Request) :
    ∃ cpf, Read k q cpf ∧ ∃ m : UnitData, m.toEncapsulationData = header ∧
      m.sessionHandle = k.sessionHandle ∧
      handleReceivedSendUnitDataCommand router (q.sent k header) s =
        if n = q.count then
          some (⟨none, some (last.elim [] (k.answer header))⟩, s.heard k.slot cpf)
        else execute router m k.slot q.count (s.heard k.slot cpf) := by
  obtain ⟨cpf, hcreate, hshows⟩ := sent_read k header q s.cpf
  obtain ⟨htype, hid⟩ := address_connected hshows.items.address
  have hcount : getUintFromMessage cpf.dataItem.data 0 = q.count := by
    have hlength : cpf.dataItem.length.toNat = (le16 q.count ++ q.bytes).length := by
      rw [← bytesAt_length cpf.dataItem.data 0 cpf.dataItem.length.toNat]
      exact congrArg List.length hshows.payload
    have hpayload := hshows.payload
    rw [hlength] at hpayload
    exact (holds_append.mp hpayload).1.uint
  refine ⟨{ cpf with addressItem := { cpf.addressItem with sequenceNumber := q.count.toUInt32 } },
    ⟨⟨?_, hshows.items.dataType, hshows.items.originatorToTarget,
      hshows.items.targetToOriginator⟩, hshows.itemCount, hshows.payload, rfl⟩,
    { q.sent k header with
      dataLength := (q.sent k header).dataLength - 6
      data := fun j => (q.sent k header).data (6 + j) }, rfl, rfl, ?_⟩
  · refine (address_of_connection ?_).trans ?_
    · exact htype
    · exact congrArg (some ∘ Address.connected) hid
  · have hconnected : getConnectedObject cpf.addressItem.connectionIdentifier
        (s.setStructure cpf).toReceiver = some k.slot := by
      rw [hid]
      exact hopen.connected
    have hdata : cpf.dataItem.typeId = kCipItemIdConnectedDataItem := hshows.items.dataType
    have hstored := (Leaves.heard k s k.slot { cpf with addressItem :=
      { cpf.addressItem with sequenceNumber := q.count.toUInt32 } }).count.trans hopen.count
    rw [handleReceivedSendUnitDataCommand, if_pos (six_le_dataLength k header q)]
    dsimp only
    rw [if_pos (by exact hopen.session), notifyConnectedCommonPacketFormat, hcreate]
    dsimp only
    rw [if_pos htype, hconnected]
    dsimp only
    rw [if_pos hdata, hcount, ← hopen.again_eq header q, ← hstored]
    rfl

/-- A request whose count is the last one is answered with the last reply and not executed. -/
theorem message_again (hopen : Open k q.count produced last s) (router : MessageRouter σ)
    (header : EncapsulationData) :
    ∃ t, handleReceivedSendUnitDataCommand router (q.sent k header) s =
        some (⟨none, some (last.elim [] (k.answer header))⟩, t) ∧
      Open k q.count produced last t := by
  obtain ⟨cpf, -, m, -, -, hhandle⟩ := message_read hopen router header q
  refine ⟨s.heard k.slot cpf, ?_, hopen.leaves (.heard k s k.slot cpf)⟩
  rw [hhandle, if_pos rfl]

/-- What is assembled for the reply. -/
theorem Read.reply {cpf : CipCommonPacketFormatData} (h : Read k q cpf) (produced : UInt32)
    (r : CipMessageRouterResponse) :
    (assembleLinearMessage (some r) { cpf with
      addressItem := { cpf.addressItem with connectionIdentifier := produced } }).2 =
      replyBody produced q.count r := by
  obtain ⟨htype, -⟩ := address_connected h.items.address
  have hdata : cpf.dataItem.typeId = kCipItemIdConnectedDataItem := h.items.dataType
  have hitems : ShowsItems { cpf with
      addressItem := { cpf.addressItem with connectionIdentifier := produced } }
      ⟨.connected produced, true, le16 q.count ++ encodeReply r, none, none⟩ := by
    refine ⟨?_, hdata, h.items.originatorToTarget, h.items.targetToOriginator⟩
    refine (address_of_connection ?_).trans rfl
    exact htype
  rw [assembleLinearMessage_reply r hitems]
  · rw [replyLength, if_pos hdata, replyBody, h.itemCount]
  · rw [replyPayload, if_pos hdata]
    change _ = le16 cpf.addressItem.sequenceNumber.toUInt16 ++ _
    rw [h.sequenceNumber]
    simp

theorem replyBody_length (produced : UInt32) (count : UInt16) (r : CipMessageRouterResponse) :
    (replyBody produced count r).length ≤ 30 + r.message.length := by
  have hstatus := encodeExtendedStatusDataItems_length r
  simp only [replyBody, Packet.encodedAs, Packet.endpoints, Address.encoded, encodeReply,
    Option.elim_none, List.length_append, le16_length, le32_length, List.length_cons,
    List.length_nil, hstatus]
  omega

/-- The request behind its count. -/
theorem Read.bytes {cpf : CipCommonPacketFormatData} (h : Read k q cpf) :
    cpf.dataItem.length.toNat = 2 + q.bytes.length ∧
      bytesAt cpf.dataItem.data 2 q.bytes.length = q.bytes := by
  have hlength : cpf.dataItem.length.toNat = 2 + q.bytes.length := by
    rw [← bytesAt_length cpf.dataItem.data 0 cpf.dataItem.length.toNat, h.payload,
      List.length_append, le16_length]
  refine ⟨hlength, ?_⟩
  have hpayload := h.payload
  rw [hlength, bytesAt_add] at hpayload
  exact (List.append_inj hpayload (bytesAt_length ..)).2

theorem Open.setSequenceCount (h : Open k n produced last s) (n' : UInt16) :
    Open k n' produced last (s.setSequenceCount k.slot n') := by
  refine ⟨?_, h.session, ?_, h.produced, h.reply⟩
  · refine Eq.trans ?_ h.connected
    exact getConnectedObject_set rfl rfl
  · change (Function.update s.connectionData k.slot _ k.slot).sequenceCountConsuming = n'
    rw [Function.update_self]

/-- The reply is sent, and is what is sent again. -/
theorem sendReply_eq (hopen : Open k n produced last s) (hread : Read k q s.cpf)
    {r : CipMessageRouterResponse} (hfits : r.message.length ≤ 458) (m : UnitData)
    (hsession : m.sessionHandle = k.sessionHandle) (bytes : Bytes) :
    ∃ t, sendReply m k.slot bytes r s = some (⟨some (bytes, some r),
        some (k.answer m.toEncapsulationData (replyBody produced q.count r))⟩, t) ∧
      Open k n produced (some (replyBody produced q.count r)) t := by
  have hbody := hread.reply produced r
  have hlength := replyBody_length produced q.count r
  have hmessage : m.reply (replyBody produced q.count r) =
      k.answer m.toEncapsulationData (replyBody produced q.count r) := by
    rw [UnitData.reply, hsession]
    rfl
  have hsize : (k.answer m.toEncapsulationData (replyBody produced q.count r)).length =
      24 + (replyBody produced q.count r).length := by
    rw [Client.answer, List.length_append, generateEncapsulationHeader_length]
  rw [sendReply]
  simp only [hopen.produced, Server.setStructure, hbody, hmessage]
  rw [if_pos (by rw [hsize, ethernetBufferSize]; omega)]
  refine ⟨_, rfl, hopen.connected, hopen.session, hopen.count, hopen.produced, ?_⟩
  change Kept _ (Function.update s.lastReplySent k.slot _ k.slot)
  rw [Function.update_self]
  refine ⟨hsize, ?_⟩
  rw [Client.answer, List.drop_left' (generateEncapsulationHeader_length ..)]
  rfl

/-- A request with another count is executed, and the connection keeps its count and the reply. -/
theorem message_new (hopen : Open k n produced last s) (hcount : n ≠ q.count)
    (hserves : Serves router k q) (header : EncapsulationData) :
    ∃ response t, handleReceivedSendUnitDataCommand router (q.sent k header) s =
        some (⟨some (q.bytes, response),
          response.map fun r => k.answer header (replyBody produced q.count r)⟩, t) ∧
      Open k q.count produced ((response.map (replyBody produced q.count)).or last) t := by
  obtain ⟨cpf, hread, m, rfl, hsession, hhandle⟩ := message_read hopen router header q
  obtain ⟨hlength, hbytes⟩ := hread.bytes
  have hcounted := (hopen.leaves (.heard k s k.slot cpf)).setSequenceCount q.count
  have hat : Holds (fun j => cpf.dataItem.data (2 + j)) 0 q.bytes := by
    refine Eq.trans ?_ hbytes
    simp only [bytesAt, Nat.zero_add]
  have hint : (cpf.dataItem.length.toNat : Int) - 2 = q.bytes.length := by omega
  have hnat : cpf.dataItem.length.toNat - 2 = q.bytes.length := by omega
  have hleaves := hserves.leaves _ hat ((s.heard k.slot cpf).setSequenceCount k.slot q.count)
  have hstructure := hserves.structure_eq _ hat
    ((s.heard k.slot cpf).setSequenceCount k.slot q.count)
  have hfits := hserves.fits _ hat ((s.heard k.slot cpf).setSequenceCount k.slot q.count)
  rw [hhandle, if_neg hcount, execute, show (s.heard k.slot cpf).cpf = cpf from rfl]
  rw [hint, hnat, hbytes, hsession]
  cases hrouter : router (fun j => cpf.dataItem.data (2 + j)) q.bytes.length k.sessionHandle
    ((s.heard k.slot cpf).setSequenceCount k.slot q.count) with
  | mk response t =>
    rw [hrouter] at hleaves hstructure hfits
    have hopen' := hcounted.leaves hleaves
    cases response with
    | none => exact ⟨none, t, rfl, hopen'⟩
    | some r =>
      have hread' : Read k q t.cpf := hstructure.symm ▸ hread
      obtain ⟨u, hsend, hopen''⟩ := sendReply_eq hopen' hread' (hfits r rfl) m hsession q.bytes
      exact ⟨some r, u, hsend, hopen''⟩

/-! ## 4. Messages of others -/

/-- The connection that a message is for. -/
def UnitData.target (m : UnitData) (s : Server σ) : Option Slot :=
  getConnectedObject (createCommonPacketFormatStructure (fun j => m.data (6 + j))
    (m.dataLength - 6).toNat s.cpf).2.addressItem.connectionIdentifier s.toReceiver

theorem sendReply_elsewhere {m : UnitData} {c : Slot} (hc : k.slot ≠ c) {bytes : Bytes}
    {r : CipMessageRouterResponse} {o : Outcome} (h : sendReply m c bytes r s = some (o, t)) :
    Leaves k s t := by
  rw [sendReply] at h
  dsimp only at h
  split at h
  · cases h
    refine ⟨rfl, rfl, rfl, rfl, ?_⟩
    exact Function.update_of_ne hc ..
  · cases h

theorem execute_elsewhere (hrouter : ∀ data length h s, Leaves k s (router data length h s).2)
    {m : UnitData} {c : Slot} (hc : k.slot ≠ c) {n : UInt16} {o : Outcome}
    (h : execute router m c n s = some (o, t)) : Leaves k s t := by
  rw [execute] at h
  have hcounted : Leaves k s (s.setSequenceCount c n) := Leaves.set rfl rfl fun hc' => absurd hc' hc
  have hleaves := hrouter (fun j => s.cpf.dataItem.data (2 + j))
    (s.cpf.dataItem.length.toNat - 2) m.sessionHandle (s.setSequenceCount c n)
  split at h
  · next hr =>
    cases h
    rw [hr] at hleaves
    exact hcounted.trans hleaves
  · next hr =>
    rw [hr] at hleaves
    exact (hcounted.trans hleaves).trans (sendReply_elsewhere hc h)

/-- A message to another connection, or to none, leaves the connection alone. -/
theorem message_elsewhere (hrouter : ∀ data length h s, Leaves k s (router data length h s).2)
    {m : UnitData} (htarget : m.target s ≠ some k.slot) {o : Outcome}
    (h : handleReceivedSendUnitDataCommand router m s = some (o, t)) : Leaves k s t := by
  unfold handleReceivedSendUnitDataCommand at h
  split at h
  · dsimp only at h
    split at h
    · rw [notifyConnectedCommonPacketFormat] at h
      rw [UnitData.target] at htarget
      cases hcreate : createCommonPacketFormatStructure (fun j => m.data (6 + j))
        (m.dataLength - 6).toNat s.cpf with
      | mk status cpf =>
        rw [hcreate] at h htarget
        have hread : Leaves k s (s.setStructure cpf) := .setStructure k s cpf
        cases status with
        | error =>
          cases h
          exact hread
        | ok =>
          dsimp only at h
          split at h
          · cases hconnected : getConnectedObject cpf.addressItem.connectionIdentifier
              (s.setStructure cpf).toReceiver with
            | none =>
              rw [hconnected] at h
              cases h
              exact hread
            | some c =>
              have hc : k.slot ≠ c := fun hc => htarget (hc ▸ hconnected)
              rw [hconnected] at h
              dsimp only at h
              have hheard : ∀ cpf', Leaves k s ((s.setStructure cpf).heard c cpf') := fun cpf' =>
                hread.trans (.heard k _ c cpf')
              split at h
              · split at h
                · cases h
                  exact hheard _
                · exact (hheard _).trans (execute_elsewhere hrouter hc h)
              · cases h
                exact hheard cpf
          · cases h
            exact hread
    · cases h
      exact .refl k s
  · cases h
    exact .refl k s

/-! ## 5. Runs -/

/-- What happens to the device. -/
inductive Input (σ : Type)
  | message (m : UnitData)
  | other (f : Server σ → Server σ)

/-- The device over a list of inputs, and what comes of the messages. -/
def run (router : MessageRouter σ) :
    List (Input σ) → Server σ → Option (List Outcome × Server σ)
  | [], s => some ([], s)
  | .message m :: inputs, s =>
    (handleReceivedSendUnitDataCommand router m s).bind fun (o, s) =>
      (run router inputs s).map fun (outcomes, s) => (o :: outcomes, s)
  | .other f :: inputs, s => run router inputs (f s)

/-- What follows a request until the next one: it is sent again, or something else happens. -/
abbrev Rest (σ : Type) := List (EncapsulationData ⊕ (Server σ → Server σ))

/-- A request, and what follows it. -/
structure Exchange (σ : Type) where
  header : EncapsulationData
  request : Request
  rest : Rest σ

def Rest.inputs (k : Client) (q : Request) (rest : Rest σ) : List (Input σ) :=
  rest.map (Sum.elim (fun header => .message (q.sent k header)) .other)

def Exchange.inputs (k : Client) (e : Exchange σ) : List (Input σ) :=
  .message (e.request.sent k e.header) :: Rest.inputs k e.request e.rest

/-- A request that is sent again gets the last reply, or no bytes if there was none. -/
def Rest.outcomes (k : Client) (last : Option Bytes) (rest : Rest σ) : List Outcome :=
  rest.filterMap (Sum.elim (fun header => some ⟨none, some (last.elim [] (k.answer header))⟩)
    fun _ => none)

/-- The last reply, when the router has made a response of a request. -/
def Exchange.kept (produced : UInt32) (e : Exchange σ) (response : Option CipMessageRouterResponse)
    (last : Option Bytes) : Option Bytes :=
  (response.map (replyBody produced e.request.count)).or last

/-- A request is executed once, and answered with the response of the router. -/
def Exchange.outcomes (k : Client) (produced : UInt32) (e : Exchange σ)
    (response : Option CipMessageRouterResponse) (last : Option Bytes) : List Outcome :=
  ⟨some (e.request.bytes, response), response.map fun r =>
      k.answer e.header (replyBody produced e.request.count r)⟩ ::
    Rest.outcomes k (e.kept produced response last) e.rest

/-- What comes of all exchanges, one response for each. -/
def outcomes (k : Client) (produced : UInt32) :
    List (Exchange σ × Option CipMessageRouterResponse) → Option Bytes → List Outcome
  | [], _ => []
  | (e, response) :: exchanges, last =>
    e.outcomes k produced response last ++
      outcomes k produced exchanges (e.kept produced response last)

theorem run_append (router : MessageRouter σ) (l l' : List (Input σ)) (s : Server σ) :
    run router (l ++ l') s = (run router l s).bind fun (outcomes, s) =>
      (run router l' s).map fun (outcomes', s) => (outcomes ++ outcomes', s) := by
  induction l generalizing s with
  | nil => simp [run]
  | cons input l ih =>
    cases input with
    | other f => exact ih (f s)
    | message m =>
      rw [List.cons_append, run, run]
      cases handleReceivedSendUnitDataCommand router m s with
      | none => rfl
      | some r =>
        obtain ⟨o, t⟩ := r
        rw [Option.bind_some, Option.bind_some]
        dsimp only
        rw [ih]
        cases run router l t with
        | none => rfl
        | some r =>
          obtain ⟨outcomes, u⟩ := r
          rw [Option.bind_some, Option.map_some, Option.bind_some]
          dsimp only
          cases run router l' u <;> rfl

/-- As long as the count stays, nothing is executed. -/
theorem again_run {rest : Rest σ} (router : MessageRouter σ)
    (hopen : Open k q.count produced last s)
    (hothers : ∀ f, .inr f ∈ rest → ∀ s, Leaves k s (f s)) :
    ∃ t, run router (rest.inputs k q) s = some (rest.outcomes k last, t) ∧
      Open k q.count produced last t := by
  induction rest generalizing s with
  | nil => exact ⟨s, rfl, hopen⟩
  | cons input rest ih =>
    have hrest := fun f hf => hothers f (List.mem_cons_of_mem input hf)
    cases input with
    | inl header =>
      obtain ⟨t, hhandle, hopen'⟩ := message_again hopen router header
      obtain ⟨u, hrun, hopen''⟩ := ih hopen' hrest
      refine ⟨u, ?_, hopen''⟩
      change (handleReceivedSendUnitDataCommand router (q.sent k header) s).bind _ = _
      rw [hhandle, Option.bind_some]
      dsimp only
      rw [show run router (List.map _ rest) t = _ from hrun]
      rfl
    | inr f => exact ih (hopen.leaves (hothers f List.mem_cons_self s)) hrest

theorem exchange_run {e : Exchange σ} (hopen : Open k n produced last s)
    (hcount : n ≠ e.request.count) (hserves : Serves router k e.request)
    (hothers : ∀ f, .inr f ∈ e.rest → ∀ s, Leaves k s (f s)) :
    ∃ response t, run router (e.inputs k) s = some (e.outcomes k produced response last, t) ∧
      Open k e.request.count produced (e.kept produced response last) t := by
  obtain ⟨response, t, hhandle, hopen'⟩ := message_new hopen hcount hserves e.header
  obtain ⟨u, hrun, hopen''⟩ := again_run router hopen' hothers
  refine ⟨response, u, ?_, hopen''⟩
  rw [Exchange.inputs, run, hhandle, Option.bind_some]
  dsimp only
  rw [hrun]
  rfl

/-- **Each request is executed once**, however often the client repeats it and whatever else happens
to the device in between, if the counts of one request and the next are different and the first is
not the count of the connection; and each repetition gets the last reply of the connection, which is
that of its request, or an earlier one if the router made no response. -/
theorem requests_once {exchanges : List (Exchange σ)} (hopen : Open k n produced last s)
    (hcounts : List.IsChain (· ≠ ·) (n :: exchanges.map (·.request.count)))
    (hserves : ∀ e ∈ exchanges, Serves router k e.request)
    (hothers : ∀ e ∈ exchanges, ∀ f, .inr f ∈ e.rest → ∀ s, Leaves k s (f s)) :
    ∃ responses t, responses.length = exchanges.length ∧
      run router (exchanges.flatMap (Exchange.inputs k)) s =
        some (outcomes k produced (exchanges.zip responses) last, t) := by
  induction exchanges generalizing n last s with
  | nil => exact ⟨[], s, rfl, rfl⟩
  | cons e exchanges ih =>
    rw [List.map_cons, List.isChain_cons_cons] at hcounts
    obtain ⟨response, t, hrun, hopen'⟩ := exchange_run hopen hcounts.1
      (hserves e List.mem_cons_self) (hothers e List.mem_cons_self)
    obtain ⟨responses, u, hlength, hruns⟩ := ih hopen' hcounts.2
      (fun e' he' => hserves e' (List.mem_cons_of_mem e he'))
      fun e' he' => hothers e' (List.mem_cons_of_mem e he')
    refine ⟨response :: responses, u, congrArg Nat.succ hlength, ?_⟩
    rw [List.flatMap_cons, run_append, hrun, Option.bind_some]
    dsimp only
    rw [hruns]
    rfl

/-- A device with one new connection, whose session is the first. -/
def connected : Server Nat where
  toReceiver := { Channel.adapter 0 with
    connectionList := [.explicit 0]
    connectionData := fun _ => { (Channel.adapter 0).connectionData (.explicit 0) with
      instanceType := .explicitMessaging } }
  registeredSessions := fun i => if i = ⟨0, by decide⟩ then some 54 else none
  cipProducedConnectionId := fun _ => 8
  lastReplySent := fun _ => []
  application := 0

/-- Each request counts up, and is answered with the vendor id. -/
def counting : MessageRouter Nat := fun _ _ _ s =>
  (some vendorIdReply, { s with application := s.application + 1 })

def panel : Client := ⟨.explicit 0, 7, 1⟩

def sendUnitData (context : UInt8) : EncapsulationData where
  commandCode := 0x0070
  senderContext := List.replicate 8 context
  context_length := rfl

/-- A read of the vendor id, its count as given. -/
def readVendorId (count : UInt16) : Request where
  interfaceHandle := 0
  timeout := 0
  count := count
  bytes := [0x0E, 0x03, 0x20, 0x01, 0x24, 0x01, 0x30, 0x01]
  length_le := by decide

/-- The first request comes three times. -/
def repeated : List (Exchange Nat) :=
  [⟨sendUnitData 0, readVendorId 1, [.inl (sendUnitData 1), .inr id, .inl (sendUnitData 2)]⟩,
    ⟨sendUnitData 3, readVendorId 2, []⟩]

theorem requests_once_repeated : ∃ responses t, responses.length = 2 ∧
    run counting (repeated.flatMap (Exchange.inputs panel)) connected =
      some (outcomes panel 8 (repeated.zip responses) none, t) := by
  have hserves : ∀ q, Serves counting panel q := by
    intro q
    refine ⟨fun _ _ s => ⟨rfl, rfl, rfl, rfl, rfl⟩, fun _ _ s => rfl, ?_⟩
    rintro _ _ s r ⟨⟩
    decide
  have hopen : Open panel 0 8 none connected :=
    ⟨by decide, by decide, rfl, rfl, rfl, rfl⟩
  have hcounts : List.IsChain (· ≠ ·) ((0 : UInt16) :: repeated.map (·.request.count)) := by decide
  refine requests_once hopen hcounts (fun e _ => hserves e.request) ?_
  intro e he f hf s
  simp only [repeated, List.mem_cons, List.not_mem_nil, or_false] at he
  rcases he with rfl | rfl
  · simp only [List.mem_cons, reduceCtorEq, Sum.inr.injEq, List.not_mem_nil, or_false,
      false_or] at hf
    subst hf
    exact .refl panel s
  · cases hf

end GroundTruth.Encap.Explicit
