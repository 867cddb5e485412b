/-
# I/O data over a network that loses, repeats and reorders

`SendConnectedData` (`cipioconnection.c`) numbers the packets of a connection and
`HandleReceivedConnectedData` (`cipconnectionmanager.c`) hands a packet over when its number is
ahead of the last.  The two are put end to end here: packets of a sender arrive in any order, some
of them not at all and some again and again, among whatever else the device does.

* `sendConnectedData`, `handleReceivedConnectedData`: the two functions, down to the bytes;
* `Sender`: the packets that one connection sends; `Receives`: a run of the receiving device;
* `handed_over`: what is handed over of a run; `assembly_newest`: what the assembly has after it;
* `class0_first_only`: packets of class 0 have no number.
-/
import Mathlib.Data.Nat.Count
import GroundTruth.Cip.Manager
import GroundTruth.Encap.Cpf
import GroundTruth.Lib.Serial

namespace GroundTruth.Cip.Channel

open GroundTruth.Lib GroundTruth.Encap

/-! ## 1. Sending -/

/-- `CipConnectionObject`, with what the producing side reads. -/
structure ProducingConnection where
  transportClass : TransportClass
  cipProducedConnectionId : UInt32
  eipLevelSequenceCountProducing : UInt32
  sequenceCountProducing : UInt16

/-- The structure as `SendConnectedData` fills it before it assembles the message. -/
def sendStructure (o : ProducingConnection) (cpf : CipCommonPacketFormatData) :
    CipCommonPacketFormatData where
  itemCount := 2
  addressItem :=
    { (if o.transportClass ≠ .class0 then
        { cpf.addressItem with
          typeId := kCipItemIdSequencedAddressItem
          length := 8
          sequenceNumber := o.eipLevelSequenceCountProducing }
      else { cpf.addressItem with typeId := kCipItemIdConnectionAddress, length := 4 }) with
      connectionIdentifier := o.cipProducedConnectionId }
  dataItem := { cpf.dataItem with typeId := kCipItemIdConnectedDataItem, length := 0 }
  addressInfoItem := unset cpf.addressInfoItem

/-- The two counts, before a message is sent; `changed` is what `BeforeAssemblyDataSend` returns. -/
def ProducingConnection.advance (changed : Bool) (o : ProducingConnection) : ProducingConnection :=
  { o with
    eipLevelSequenceCountProducing := o.eipLevelSequenceCountProducing + 1
    sequenceCountProducing :=
      if changed = true then o.sequenceCountProducing + 1 else o.sequenceCountProducing }

/-- The message: it is assembled with no data, and the length of the data, which is 0, is written
again with the data behind it. -/
def sendMessage (attributes : Bytes) (o : ProducingConnection) (cpf : CipCommonPacketFormatData) :
    Bytes :=
  let message := (assembleLinearMessage none (sendStructure o cpf)).2
  let message := message.take (message.length - 2)
  let length := UInt16.ofNat attributes.length
  message ++ ((if o.transportClass = .class1 then
    le16 (length + 2) ++ le16 o.sequenceCountProducing else le16 length) ++ attributes)

/-- `SendConnectedData`: the message for `SendUdpData`, and the connection after it; `attributes` is
the data of the producing instance. -/
def sendConnectedData (changed : Bool) (attributes : Bytes) (o : ProducingConnection)
    (cpf : CipCommonPacketFormatData) : Bytes × ProducingConnection :=
  (sendMessage attributes (o.advance changed) cpf, o.advance changed)

/-! ## 2. Receiving -/

/-- `CipConnectionObject`, with what the receive path reads. -/
structure ReceivingConnection extends IoConnection where
  cipConsumedConnectionId : UInt32
  eipLevelSequenceCountConsuming : UInt32
  eipFirstLevelSequenceCountReceived : Bool

structure Receiver where
  /-- `g_common_packet_format_data_item` -/
  cpf : CipCommonPacketFormatData
  connectionList : List Slot
  connectionData : Slot → ReceivingConnection
  io : IoStack

def Receiver.set (r : Receiver) (c : Slot) (o : ReceivingConnection) : Receiver :=
  { r with connectionData := Function.update r.connectionData c o }

/-- `SEQ_GT32`: the difference cast to `int`. -/
def seqGt32 (a b : UInt32) : Bool := decide (0 < ((a.toNat : Int) - b.toNat).bmod 4294967296)

/-- `GetConnectedObject`. -/
def getConnectedObject (connectionId : UInt32) (r : Receiver) : Option Slot :=
  r.connectionList.find? fun c => decide ((r.connectionData c).state = .established ∧
    connectionId = (r.connectionData c).cipConsumedConnectionId)

/-- What the two watchdogs and the count become when a packet is handed over. -/
def ReceivingConnection.took (n : UInt32) (o : ReceivingConnection) : ReceivingConnection :=
  { o with
    lastPackageWatchdogTimer := o.regularTimeout
    inactivityWatchdogTimer := o.regularTimeout
    eipLevelSequenceCountConsuming := n
    eipFirstLevelSequenceCountReceived := true }

/-- And when it is not. -/
def ReceivingConnection.dropped (o : ReceivingConnection) : ReceivingConnection :=
  { o with lastPackageWatchdogTimer := o.regularTimeout }

/-- `HandleReceivedConnectedData`, up to the call of the receive function: what is returned if there
is no such call, and else the connection it is made for. -/
def acceptConnectedData (data : Nat → UInt8) (dataLength : Nat) (fromAddress : Nat) (r : Receiver) :
    Except EipStatus Slot × Receiver :=
  match createCommonPacketFormatStructure data dataLength r.cpf with
  | (.error, cpf) => (.error .error, { r with cpf := cpf })
  | (.ok, cpf) =>
    let r := { r with cpf := cpf }
    if (cpf.addressItem.typeId = kCipItemIdConnectionAddress ∨
        cpf.addressItem.typeId = kCipItemIdSequencedAddressItem) ∧
        cpf.dataItem.typeId = kCipItemIdConnectedDataItem then
      match getConnectedObject cpf.addressItem.connectionIdentifier r with
      | none => (.error .error, r)
      | some c =>
        let o := r.connectionData c
        if o.originatorAddress = fromAddress then
          if seqGt32 cpf.addressItem.sequenceNumber o.eipLevelSequenceCountConsuming = true ∨
              o.eipFirstLevelSequenceCountReceived = false then
            (.ok c, r.set c (o.took cpf.addressItem.sequenceNumber))
          else (.error .ok, r.set c o.dropped)
        else (.error .ok, r)
    else (.error .ok, r)

/-- `connection_receive_data_function`; an explicit connection has none. -/
def receiveData (c : Slot) (r : Receiver) : Option (EipStatus × Receiver) :=
  let o := r.connectionData c
  if o.instanceType = .explicitMessaging then some (.ok, r)
  else
    (handleReceivedIoConnectionData r.cpf.dataItem.data r.cpf.dataItem.length o.toIoConnection
      r.io).map fun (status, io, stack) =>
        (status, { r.set c { o with toIoConnection := io } with io := stack })

/-- `HandleReceivedConnectedData`; `none` is a NULL `consuming_instance`. -/
def handleReceivedConnectedData (data : Nat → UInt8) (dataLength : Nat) (fromAddress : Nat)
    (r : Receiver) : Option (EipStatus × Receiver) :=
  match acceptConnectedData data dataLength fromAddress r with
  | (.error status, r) => some (status, r)
  | (.ok c, r) => receiveData c r

/-- The buffer of `CheckAndHandleConsumingUdpSocket` after a datagram: 512 bytes, zero behind the
datagram. -/
def incomingMessage (datagram : Bytes) : Nat → UInt8 := fun k => (datagram.take 512).getD k 0

/-! ## 3. A packet on its way -/

/-- The address of what a connection sends. -/
def ProducingConnection.address (o : ProducingConnection) : Address :=
  if o.transportClass ≠ .class0 then
    .sequenced o.cipProducedConnectionId o.eipLevelSequenceCountProducing
  else .connected o.cipProducedConnectionId

/-- What is sent: the sequence count of class 1 and the data. -/
def ProducingConnection.packet (o : ProducingConnection) (attributes : Bytes) : Packet where
  address := o.address
  connected := true
  payload := (if o.transportClass = .class1 then le16 o.sequenceCountProducing else []) ++ attributes
  originatorToTarget := none
  targetToOriginator := none

theorem sendStructure_shows (o : ProducingConnection) (cpf : CipCommonPacketFormatData) :
    Shows (sendStructure o cpf) ⟨o.address, true, [], none, none⟩ := by
  refine ⟨⟨?_, rfl, rfl, rfl⟩, rfl, rfl⟩
  unfold sendStructure ProducingConnection.address
  by_cases hclass : o.transportClass ≠ .class0
  · rw [if_pos hclass, if_pos hclass]
    rfl
  · rw [if_neg hclass, if_neg hclass]
    rfl

/-- The message is a packet. -/
theorem sendMessage_eq (attributes : Bytes) (o : ProducingConnection)
    (cpf : CipCommonPacketFormatData) :
    sendMessage attributes o cpf = (o.packet attributes).encoded := by
  have hfront : ∀ bs : Bytes, (bs ++ le16 0).take ((bs ++ le16 0).length - 2) = bs := by
    intro bs
    rw [List.length_append, le16_length, Nat.add_sub_cancel, List.take_left]
  have hempty : (⟨o.address, true, [], none, none⟩ : Packet).encoded =
      (le16 2 ++ (o.address.encoded ++ le16 kCipItemIdConnectedDataItem)) ++ le16 0 := by
    simp only [Packet.encoded, Packet.encodedAs, List.append_assoc]
    rfl
  have hlength : le16 (.ofNat (o.packet attributes).payload.length) ++ (o.packet attributes).payload =
      (if o.transportClass = .class1 then
        le16 (.ofNat attributes.length + 2) ++ le16 o.sequenceCountProducing
      else le16 (.ofNat attributes.length)) ++ attributes := by
    rw [ProducingConnection.packet]
    split
    · rw [List.length_append, le16_length, UInt16.ofNat_add, UInt16.add_comm]
      simp only [List.append_assoc]
      rfl
    · rfl
  rw [sendMessage, assembleLinearMessage_shows (sendStructure_shows o cpf), hempty]
  simp only [hfront]
  have hnone : (o.packet attributes).endpoints = [] := rfl
  rw [← hlength]
  simp only [Packet.encoded, Packet.encodedAs, hnone, List.append_nil, List.append_assoc]
  rfl

/-- What a structure that shows such an address has. -/
theorem address_sequenced {item : AddressItem} {id n : UInt32}
    (h : item.address = some (.sequenced id n)) : item.typeId = kCipItemIdSequencedAddressItem ∧
      item.connectionIdentifier = id ∧ item.sequenceNumber = n := by
  unfold AddressItem.address at h
  split at h
  · cases h
  · split at h
    · cases h
    · split at h
      · next htype =>
        cases h
        exact ⟨htype, rfl, rfl⟩
      · cases h

theorem address_connected {item : AddressItem} {id : UInt32}
    (h : item.address = some (.connected id)) : item.typeId = kCipItemIdConnectionAddress ∧
      item.connectionIdentifier = id := by
  unfold AddressItem.address at h
  split at h
  · cases h
  · split at h
    · next htype =>
      cases h
      exact ⟨htype, rfl⟩
    · split at h
      · cases h
      · cases h

theorem incomingMessage_holds {datagram : Bytes} (hfits : datagram.length ≤ 512) :
    Holds (incomingMessage datagram) 0 datagram := by
  unfold Holds incomingMessage
  apply List.ext_getElem
  · simp
  · intro k hk hk'
    simp [bytesAt, List.take_of_length_le hfits, hk']

/-! ## 4. A stream of packets -/

/-- What one connection sends: where it starts and, for each message, what `BeforeAssemblyDataSend`
returns, the data, and what the structure holds by then. -/
structure Sender where
  start : ProducingConnection
  changed : Nat → Bool
  data : Nat → Bytes
  cpf : Nat → CipCommonPacketFormatData

namespace Sender

variable (s : Sender)

/-- The connection when `k` messages have been sent. -/
def state : Nat → ProducingConnection
  | 0 => s.start
  | k + 1 => (sendConnectedData (s.changed k) (s.data k) (state k) (s.cpf k)).2

def message (k : Nat) : Bytes :=
  (sendConnectedData (s.changed k) (s.data k) (s.state k) (s.cpf k)).1

def packet (k : Nat) : Packet := (s.state (k + 1)).packet (s.data k)

theorem message_eq (k : Nat) : s.message k = (s.packet k).encoded := sendMessage_eq ..

/-- How often the data have changed. -/
def changes (k : Nat) : Nat := Nat.count (fun j => s.changed j = true) k

theorem state_succ (k : Nat) : s.state (k + 1) = (s.state k).advance (s.changed k) := rfl

theorem state_transportClass (k : Nat) :
    (s.state k).transportClass = s.start.transportClass := by
  induction k with
  | zero => rfl
  | succ k ih => exact ih

theorem state_connectionId (k : Nat) :
    (s.state k).cipProducedConnectionId = s.start.cipProducedConnectionId := by
  induction k with
  | zero => rfl
  | succ k ih => exact ih

theorem state_number (k : Nat) : (s.state k).eipLevelSequenceCountProducing =
    s.start.eipLevelSequenceCountProducing + .ofNat k := by
  induction k with
  | zero => exact (UInt32.add_zero _).symm
  | succ k ih =>
    rw [UInt32.ofNat_add, ← UInt32.add_assoc, ← ih]
    rfl

theorem state_count (k : Nat) : (s.state k).sequenceCountProducing =
    s.start.sequenceCountProducing + .ofNat (s.changes k) := by
  induction k with
  | zero =>
    rw [changes, Nat.count_zero]
    exact (UInt16.add_zero _).symm
  | succ k ih =>
    rw [changes, Nat.count_succ, UInt16.ofNat_add, ← UInt16.add_assoc, ← changes, ← ih]
    rw [state_succ, ProducingConnection.advance]
    by_cases hchanged : s.changed k = true
    · simp only [hchanged, if_true]
      rfl
    · simp only [if_neg hchanged]
      exact (UInt16.add_zero _).symm

/-- The number of a packet, and its sequence count. -/
def number (k : Nat) : UInt32 := (s.state (k + 1)).eipLevelSequenceCountProducing

def sequenceCount (k : Nat) : UInt16 := (s.state (k + 1)).sequenceCountProducing

theorem seqGt32_number {i j : Nat} (h : Near 4294967296 i j) :
    seqGt32 (s.number i) (s.number j) = later i j := by
  have hnumber : ∀ k, (s.number k).toNat =
      (s.start.eipLevelSequenceCountProducing.toNat + 1 + k) % 4294967296 := by
    intro k
    rw [number, state_number, UInt32.toNat_add, UInt32.toNat_ofNat', Nat.add_mod_mod]
    congr 1
    omega
  have hahead := ahead_of_base h (s.start.eipLevelSequenceCountProducing.toNat + 1)
  rw [← hnumber, ← hnumber] at hahead
  exact hahead

end Sender

/-! ## 5. A packet that arrives -/

/-- A datagram at the I/O socket: what is handed to a receive function, if anything. -/
def receive (datagram : Bytes) (fromAddress : Nat) (r : Receiver) :
    Option (List (Slot × Bytes) × Receiver) :=
  match acceptConnectedData (incomingMessage datagram) (min datagram.length 512) fromAddress r with
  | (.error _, r) => some ([], r)
  | (.ok c, r) => (receiveData c r).map fun (_, r') =>
      ([(c, bytesAt r.cpf.dataItem.data 0 r.cpf.dataItem.length.toNat)], r')

/-- The receiving device is as `HandleReceivedConnectedData` leaves it. -/
theorem receive_device (datagram : Bytes) (fromAddress : Nat) (r : Receiver) :
    (receive datagram fromAddress r).map Prod.snd =
      (handleReceivedConnectedData (incomingMessage datagram) (min datagram.length 512) fromAddress
        r).map Prod.snd := by
  unfold receive handleReceivedConnectedData
  split
  · rfl
  · rw [Option.map_map]
    rfl

/-- The connection at `c` is the one that the sender sends to. -/
structure Ready (s : Sender) (fromAddress : Nat) (c : Slot) (i : AssemblyInstance) (r : Receiver) :
    Prop where
  connected : getConnectedObject s.start.cipProducedConnectionId r = some c
  originator : (r.connectionData c).originatorAddress = fromAddress
  ioConnection : (r.connectionData c).instanceType ≠ .explicitMessaging
  transportClass : (r.connectionData c).transportClass = s.start.transportClass
  consumingInstance : (r.connectionData c).consumingInstance = some i
  runIdle : r.io.consumeRunIdle = false

/-- What the device has of the connection, of its assembly and of the way to it. -/
structure Leaves (id : UInt32) (c : Slot) (i : AssemblyInstance) (r r' : Receiver) : Prop where
  connected : getConnectedObject id r' = getConnectedObject id r
  originator : (r'.connectionData c).originatorAddress = (r.connectionData c).originatorAddress
  instanceType : (r'.connectionData c).instanceType = (r.connectionData c).instanceType
  transportClass : (r'.connectionData c).transportClass = (r.connectionData c).transportClass
  consumingInstance :
    (r'.connectionData c).consumingInstance = (r.connectionData c).consumingInstance
  sequenceCount :
    (r'.connectionData c).sequenceCountConsuming = (r.connectionData c).sequenceCountConsuming
  number : (r'.connectionData c).eipLevelSequenceCountConsuming =
    (r.connectionData c).eipLevelSequenceCountConsuming
  received : (r'.connectionData c).eipFirstLevelSequenceCountReceived =
    (r.connectionData c).eipFirstLevelSequenceCountReceived
  runIdle : r'.io.consumeRunIdle = r.io.consumeRunIdle
  assembly : r'.io.assemblies.bytes i = r.io.assemblies.bytes i

variable {s : Sender} {fromAddress : Nat} {c : Slot} {i : AssemblyInstance} {r r' : Receiver}
  {k : Nat}

theorem Ready.leaves (h : Ready s fromAddress c i r)
    (hleaves : Leaves s.start.cipProducedConnectionId c i r r') : Ready s fromAddress c i r' where
  connected := hleaves.connected.trans h.connected
  originator := hleaves.originator.trans h.originator
  ioConnection := hleaves.instanceType.symm ▸ h.ioConnection
  transportClass := hleaves.transportClass.trans h.transportClass
  consumingInstance := hleaves.consumingInstance.trans h.consumingInstance
  runIdle := hleaves.runIdle.trans h.runIdle

/-- The connection as far as `GetConnectedObject` looks stays. -/
theorem getConnectedObject_set {id : UInt32} {o : ReceivingConnection}
    (hstate : o.state = (r.connectionData c).state)
    (hid : o.cipConsumedConnectionId = (r.connectionData c).cipConsumedConnectionId) :
    getConnectedObject id (r.set c o) = getConnectedObject id r := by
  unfold getConnectedObject Receiver.set
  congr 1
  funext d
  by_cases hd : d = c
  · subst hd
    simp only [Function.update_self, hstate, hid]
  · simp only [Function.update_of_ne hd]

/-- What no packet changes of a connection. -/
structure SameConnection (o o' : ReceivingConnection) : Prop where
  state : o'.state = o.state
  connectionId : o'.cipConsumedConnectionId = o.cipConsumedConnectionId
  originator : o'.originatorAddress = o.originatorAddress
  instanceType : o'.instanceType = o.instanceType
  transportClass : o'.transportClass = o.transportClass
  consumingInstance : o'.consumingInstance = o.consumingInstance

theorem Ready.set {o : ReceivingConnection} (h : Ready s fromAddress c i r)
    (ho : SameConnection (r.connectionData c) o) : Ready s fromAddress c i (r.set c o) := by
  have hdata : (r.set c o).connectionData c = o := Function.update_self ..
  refine ⟨(getConnectedObject_set ho.state ho.connectionId).trans h.connected, ?_, ?_, ?_, ?_,
    h.runIdle⟩
  · rw [hdata, ho.originator, h.originator]
  · rw [hdata, ho.instanceType]
    exact h.ioConnection
  · rw [hdata, ho.transportClass, h.transportClass]
  · rw [hdata, ho.consumingInstance, h.consumingInstance]

theorem Leaves.set {id : UInt32} {o : ReceivingConnection}
    (ho : SameConnection (r.connectionData c) o)
    (hcount : o.sequenceCountConsuming = (r.connectionData c).sequenceCountConsuming)
    (hnumber : o.eipLevelSequenceCountConsuming =
      (r.connectionData c).eipLevelSequenceCountConsuming)
    (hreceived : o.eipFirstLevelSequenceCountReceived =
      (r.connectionData c).eipFirstLevelSequenceCountReceived)
    (cpf : CipCommonPacketFormatData) :
    Leaves id c i r (({ r with cpf := cpf } : Receiver).set c o) := by
  have hdata : (({ r with cpf := cpf } : Receiver).set c o).connectionData c = o :=
    Function.update_self ..
  refine ⟨getConnectedObject_set ho.state ho.connectionId, ?_, ?_, ?_, ?_, ?_, ?_, ?_, rfl, rfl⟩
  · rw [hdata, ho.originator]
  · rw [hdata, ho.instanceType]
  · rw [hdata, ho.transportClass]
  · rw [hdata, ho.consumingInstance]
  · rw [hdata, hcount]
  · rw [hdata, hnumber]
  · rw [hdata, hreceived]

theorem payload_length_le (p : Packet) : p.payload.length ≤ p.encoded.length := by
  simp only [Packet.encoded, Packet.encodedAs, List.length_append]
  omega

/-- What a packet of the sender has in its address item. -/
theorem packet_address {cpf : CipCommonPacketFormatData} (h : Shows cpf (s.packet k)) :
    (cpf.addressItem.typeId = kCipItemIdConnectionAddress ∨
        cpf.addressItem.typeId = kCipItemIdSequencedAddressItem) ∧
      cpf.addressItem.connectionIdentifier = s.start.cipProducedConnectionId ∧
      (s.start.transportClass ≠ .class0 → cpf.addressItem.sequenceNumber = s.number k) := by
  have haddress := h.items.address
  rw [Sender.packet, ProducingConnection.packet, ProducingConnection.address,
    s.state_connectionId, s.state_transportClass] at haddress
  by_cases hclass : s.start.transportClass ≠ .class0
  · rw [if_pos hclass] at haddress
    obtain ⟨htype, hid, hnumber⟩ := address_sequenced haddress
    exact ⟨.inr htype, hid, fun _ => hnumber⟩
  · rw [if_neg hclass] at haddress
    obtain ⟨htype, hid⟩ := address_connected haddress
    exact ⟨.inl htype, hid, fun h => absurd h hclass⟩

/-- A packet of the sender comes to its connection, and is handed over if its number is new. -/
theorem accept_packet (h : Ready s fromAddress c i r) (hfits : (s.message k).length ≤ 512) :
    ∃ cpf, createCommonPacketFormatStructure (incomingMessage (s.message k))
        (s.message k).length r.cpf = (.ok, cpf) ∧ Shows cpf (s.packet k) ∧
      acceptConnectedData (incomingMessage (s.message k)) (min (s.message k).length 512) fromAddress
          r =
        if seqGt32 cpf.addressItem.sequenceNumber
            (r.connectionData c).eipLevelSequenceCountConsuming = true ∨
            (r.connectionData c).eipFirstLevelSequenceCountReceived = false then
          (.ok c, ({ r with cpf := cpf } : Receiver).set c
            ((r.connectionData c).took cpf.addressItem.sequenceNumber))
        else (.error .ok, ({ r with cpf := cpf } : Receiver).set c (r.connectionData c).dropped) := by
  have hholds := incomingMessage_holds hfits
  rw [Nat.min_eq_left hfits]
  rw [s.message_eq] at hholds hfits ⊢
  have hpayload := (payload_length_le (s.packet k)).trans hfits
  obtain ⟨cpf, hcreate, hshows⟩ := create_shows hholds
    (by rw [UInt16.toNat_ofNat', Nat.mod_eq_of_lt (by omega)]) r.cpf
  refine ⟨cpf, hcreate, hshows, ?_⟩
  obtain ⟨htype, hid, -⟩ := packet_address hshows
  have hconnected : getConnectedObject cpf.addressItem.connectionIdentifier { r with cpf := cpf } =
      some c := hid ▸ h.connected
  unfold acceptConnectedData
  simp only [show createCommonPacketFormatStructure (incomingMessage (s.packet k).encoded)
    (s.packet k).encoded.length r.cpf = (.ok, cpf) from hcreate]
  rw [if_pos ⟨htype, hshows.items.dataType⟩, hconnected]
  simp only [if_pos h.originator]

/-- The number that a packet of the sender is compared by: its own, or, of class 0, the one that
the structure still has. -/
def arrivalNumber (s : Sender) (k : Nat) (r : Receiver) : UInt32 :=
  if s.start.transportClass ≠ .class0 then s.number k else r.cpf.addressItem.sequenceNumber

theorem arrivalNumber_eq {cpf : CipCommonPacketFormatData} {n : Nat}
    (hfits : (s.message k).length ≤ 512)
    (hcreate : createCommonPacketFormatStructure (incomingMessage (s.message k)) n r.cpf = (.ok, cpf))
    (hshows : Shows cpf (s.packet k)) :
    cpf.addressItem.sequenceNumber = arrivalNumber s k r := by
  unfold arrivalNumber
  by_cases hclass : s.start.transportClass ≠ .class0
  · rw [if_pos hclass]
    exact (packet_address hshows).2.2 hclass
  · have hholds := incomingMessage_holds hfits
    rw [s.message_eq] at hholds hcreate
    have haddress : (s.packet k).address = .connected s.start.cipProducedConnectionId := by
      rw [Sender.packet, ProducingConnection.packet, ProducingConnection.address,
        s.state_connectionId, s.state_transportClass, if_neg hclass]
    rw [if_neg hclass, ← create_connected hholds haddress n r.cpf, hcreate]

/-- The receive function takes the sequence count and does no more to the connection. -/
theorem received_connection {data : Nat → UInt8} {dataLength : UInt16} {o o' : IoConnection}
    {t t' : IoStack} {status : EipStatus}
    (h : handleReceivedIoConnectionData data dataLength o t = some (status, o', t')) :
    o' = (takeSequence data dataLength o).2.2 ∧ t'.consumeRunIdle = t.consumeRunIdle := by
  have hrunIdle : ∀ rest, (takeRunIdle data rest t).2.consumeRunIdle = t.consumeRunIdle := by
    intro rest
    unfold takeRunIdle
    split
    · rfl
    · rfl
  have hnotify : ∀ j rest u,
      (notifyAssemblyConnectedDataReceived j data rest u).2.consumeRunIdle = u.consumeRunIdle := by
    intro j rest u
    unfold notifyAssemblyConnectedDataReceived
    split
    · rfl
    · rfl
  simp only [handleReceivedIoConnectionData] at h
  split at h
  · cases h
    exact ⟨rfl, rfl⟩
  · split at h
    · cases h
      exact ⟨rfl, hrunIdle _⟩
    · obtain ⟨j, -, hj⟩ := Option.map_eq_some_iff.mp h
      cases hj
      exact ⟨rfl, (hnotify ..).trans (hrunIdle _)⟩

theorem takeSequence_keeps (data : Nat → UInt8) (dataLength : UInt16) (o : IoConnection) :
    (takeSequence data dataLength o).2.2.toConnectionObject = o.toConnectionObject ∧
      (takeSequence data dataLength o).2.2.transportClass = o.transportClass ∧
      (takeSequence data dataLength o).2.2.consumingInstance = o.consumingInstance := by
  unfold takeSequence
  split
  · exact ⟨rfl, rfl, rfl⟩
  · exact ⟨rfl, rfl, rfl⟩

/-- The receive function is called. -/
theorem Ready.receiveData (h : Ready s fromAddress c i r) :
    ∃ status r', Channel.receiveData c r = some (status, r') ∧ Ready s fromAddress c i r' ∧
      r'.cpf = r.cpf ∧
      (r'.connectionData c).eipLevelSequenceCountConsuming =
        (r.connectionData c).eipLevelSequenceCountConsuming ∧
      (r'.connectionData c).eipFirstLevelSequenceCountReceived =
        (r.connectionData c).eipFirstLevelSequenceCountReceived ∧
      handleReceivedIoConnectionData r.cpf.dataItem.data r.cpf.dataItem.length
        (r.connectionData c).toIoConnection r.io =
          some (status, (r'.connectionData c).toIoConnection, r'.io) := by
  obtain ⟨status, o', t, hreceived, -, -⟩ := received_off (c := (r.connectionData c).toIoConnection)
    r.cpf.dataItem.data r.cpf.dataItem.length h.runIdle h.consumingInstance
  obtain ⟨ho', hrunIdle⟩ := received_connection hreceived
  obtain ⟨hobject, hclass, hinstance⟩ := takeSequence_keeps r.cpf.dataItem.data
    r.cpf.dataItem.length (r.connectionData c).toIoConnection
  rw [← ho'] at hobject hclass hinstance
  have hsame : SameConnection (r.connectionData c)
      { r.connectionData c with toIoConnection := o' } :=
    ⟨congrArg ConnectionObject.state hobject, rfl,
      congrArg ConnectionObject.originatorAddress hobject,
      congrArg ConnectionObject.instanceType hobject, hclass, hinstance⟩
  have hset := h.set hsame
  have hdata : (r.set c { r.connectionData c with toIoConnection := o' }).connectionData c =
      { r.connectionData c with toIoConnection := o' } := Function.update_self ..
  refine ⟨status, { r.set c { r.connectionData c with toIoConnection := o' } with io := t }, ?_,
    ⟨hset.connected, hset.originator, hset.ioConnection, hset.transportClass,
      hset.consumingInstance, hrunIdle.trans h.runIdle⟩, rfl, ?_, ?_, ?_⟩
  · rw [Channel.receiveData, if_neg h.ioConnection, hreceived]
    rfl
  · rw [hdata]
  · rw [hdata]
  · rw [hdata]
    exact hreceived

/-- What becomes of the device when packet `k` is handed over. -/
structure Took (s : Sender) (fromAddress : Nat) (c : Slot) (i : AssemblyInstance) (k : Nat)
    (r r' : Receiver) : Prop where
  ready : Ready s fromAddress c i r'
  number : (r'.connectionData c).eipLevelSequenceCountConsuming = arrivalNumber s k r
  received : (r'.connectionData c).eipFirstLevelSequenceCountReceived = true
  structureNumber : r'.cpf.addressItem.sequenceNumber = arrivalNumber s k r
  io : ∃ data dataLength status, bytesAt data 0 dataLength.toNat = (s.packet k).payload ∧
    handleReceivedIoConnectionData data dataLength
      ((r.connectionData c).took (arrivalNumber s k r)).toIoConnection r.io =
        some (status, (r'.connectionData c).toIoConnection, r'.io)

/-- A packet with a new number is handed over as it was sent. -/
theorem receive_new (h : Ready s fromAddress c i r) (hfits : (s.message k).length ≤ 512)
    (hnew : seqGt32 (arrivalNumber s k r) (r.connectionData c).eipLevelSequenceCountConsuming = true ∨
      (r.connectionData c).eipFirstLevelSequenceCountReceived = false) :
    ∃ r', receive (s.message k) fromAddress r = some ([(c, (s.packet k).payload)], r') ∧
      Took s fromAddress c i k r r' := by
  obtain ⟨cpf, hcreate, hshows, haccept⟩ := accept_packet h hfits
  have hnumber := arrivalNumber_eq hfits hcreate hshows
  rw [hnumber, if_pos hnew] at haccept
  have hcpf : Leaves s.start.cipProducedConnectionId c i r { r with cpf := cpf } :=
    ⟨rfl, rfl, rfl, rfl, rfl, rfl, rfl, rfl, rfl, rfl⟩
  have hready : Ready s fromAddress c i (({ r with cpf := cpf } : Receiver).set c
      ((r.connectionData c).took (arrivalNumber s k r))) :=
    (h.leaves hcpf).set ⟨rfl, rfl, rfl, rfl, rfl, rfl⟩
  have hdata : (({ r with cpf := cpf } : Receiver).set c
      ((r.connectionData c).took (arrivalNumber s k r))).connectionData c =
      (r.connectionData c).took (arrivalNumber s k r) := Function.update_self ..
  obtain ⟨status, r', hreceive, hready', hcpf', hlevel, hfirst, hio⟩ := hready.receiveData
  rw [hdata] at hlevel hfirst hio
  refine ⟨r', ?_, hready', hlevel, hfirst, ?_, _, _, status, hshows.payload, hio⟩
  · rw [receive, haccept]
    simp only [hreceive, Option.map_some, Option.some.injEq, Prod.mk.injEq, List.cons.injEq,
      and_true]
    exact ⟨trivial, hshows.payload⟩
  · rw [hcpf']
    exact hnumber

/-- A packet with an old number leaves the connection and the assembly as they are. -/
theorem receive_old (h : Ready s fromAddress c i r) (hfits : (s.message k).length ≤ 512)
    (hold : ¬(seqGt32 (arrivalNumber s k r)
        (r.connectionData c).eipLevelSequenceCountConsuming = true ∨
      (r.connectionData c).eipFirstLevelSequenceCountReceived = false)) :
    ∃ r', receive (s.message k) fromAddress r = some ([], r') ∧
      Leaves s.start.cipProducedConnectionId c i r r' ∧
      r'.cpf.addressItem.sequenceNumber = arrivalNumber s k r := by
  obtain ⟨cpf, hcreate, hshows, haccept⟩ := accept_packet h hfits
  have hnumber := arrivalNumber_eq hfits hcreate hshows
  rw [hnumber, if_neg hold] at haccept
  refine ⟨({ r with cpf := cpf } : Receiver).set c (r.connectionData c).dropped, ?_, ?_, hnumber⟩
  · rw [receive, haccept]
  · exact Leaves.set (o := (r.connectionData c).dropped) ⟨rfl, rfl, rfl, rfl, rfl, rfl⟩ rfl rfl rfl
      cpf

theorem message_length_le (s : Sender) (k : Nat) : (s.message k).length ≤ 20 + (s.data k).length := by
  have haddress : (s.state (k + 1)).address.encoded.length ≤ 12 := by
    unfold ProducingConnection.address
    split
    · exact le_rfl
    · exact Nat.le_add_right 8 4
  have hpayload : (s.packet k).payload.length ≤ 2 + (s.data k).length := by
    rw [Sender.packet, ProducingConnection.packet, List.length_append]
    split
    · exact le_rfl
    · exact Nat.add_le_add_right (Nat.zero_le 2) _
  have hendpoints : (s.packet k).endpoints = [] := rfl
  have haddress' : (s.packet k).address = (s.state (k + 1)).address := rfl
  rw [s.message_eq, Packet.encoded, Packet.encodedAs, hendpoints, haddress']
  simp only [List.length_append, le16_length, List.length_nil]
  omega

theorem message_fits (h : (s.data k).length = i.length ∨ (s.data k).length = i.length + 4) :
    (s.message k).length ≤ 512 := by
  have hle := message_length_le s k
  have hlength := i.length_le
  omega

/-! ## 6. The machine of the connection manager -/

/-- The connections of the stack are those of the receiving device. -/
def Same (t : Stack) (r : Receiver) : Prop :=
  ∀ d, t.connectionData d = (r.connectionData d).toConnectionObject

theorem Same.set {t : Stack} {o : ReceivingConnection} (h : Same t r) :
    Same (t.set c o.toConnectionObject) (r.set c o) := by
  intro d
  by_cases hd : d = c
  · subst hd
    simp only [Stack.set, Receiver.set, Function.update_self]
  · simp only [Stack.set, Receiver.set, Function.update_of_ne hd]
    exact h d

theorem Same.receiveData {t : Stack} {status : EipStatus} (h : Same t r)
    (hreceive : Channel.receiveData c r = some (status, r')) : Same t r' := by
  by_cases htype : (r.connectionData c).instanceType = .explicitMessaging
  · rw [Channel.receiveData, if_pos htype] at hreceive
    cases hreceive
    exact h
  · rw [Channel.receiveData, if_neg htype] at hreceive
    obtain ⟨⟨status', o', t'⟩, hio, hr'⟩ := Option.map_eq_some_iff.mp hreceive
    cases hr'
    have hobject : o'.toConnectionObject = (r.connectionData c).toConnectionObject := by
      rw [(received_connection hio).1]
      exact (takeSequence_keeps ..).1
    intro d
    by_cases hd : d = c
    · subst hd
      simp only [Receiver.set, Function.update_self, hobject]
      exact h d
    · simp only [Receiver.set, Function.update_of_ne hd]
      exact h d

theorem getConnectedObject_state {id : UInt32} (h : getConnectedObject id r = some c) :
    (r.connectionData c).state = .established := by
  have hfound := List.find?_some h
  exact (of_decide_eq_true hfound).1

/-- What `HandleReceivedConnectedData` can do to the connections before the receive function. -/
theorem accept_cases (data : Nat → UInt8) (dataLength : Nat) (fromAddress : Nat) (r : Receiver) :
    (∃ status cpf, acceptConnectedData data dataLength fromAddress r =
      (.error status, { r with cpf := cpf })) ∨
    ∃ c cpf n, (r.connectionData c).state = .established ∧
      (acceptConnectedData data dataLength fromAddress r =
          (.ok c, ({ r with cpf := cpf } : Receiver).set c ((r.connectionData c).took n)) ∨
        acceptConnectedData data dataLength fromAddress r =
          (.error .ok, ({ r with cpf := cpf } : Receiver).set c (r.connectionData c).dropped)) := by
  unfold acceptConnectedData
  rcases createCommonPacketFormatStructure data dataLength r.cpf with ⟨status, cpf⟩
  cases status with
  | error => exact .inl ⟨.error, cpf, rfl⟩
  | ok =>
    simp only
    split
    · cases hfound : getConnectedObject cpf.addressItem.connectionIdentifier { r with cpf := cpf } with
      | none => exact .inl ⟨.error, cpf, rfl⟩
      | some c =>
        have hstate := getConnectedObject_state hfound
        simp only
        split
        · refine .inr ⟨c, cpf, cpf.addressItem.sequenceNumber, hstate, ?_⟩
          split
          · exact .inl rfl
          · exact .inr rfl
        · exact .inl ⟨.ok, cpf, rfl⟩
    · exact .inl ⟨.ok, cpf, rfl⟩

/-- **A datagram is a step of the connection manager, or none.**  To the connections it does what
`receivedConnectedData` does to them, for a connection and a packet that is new or is not. -/
theorem handle_refines {data : Nat → UInt8} {dataLength : Nat} {status : EipStatus} {t : Stack}
    (h : Same t r)
    (hhandle : handleReceivedConnectedData data dataLength fromAddress r = some (status, r')) :
    Same t r' ∨ ∃ c fresh, Same (Cip.handleReceivedConnectedData c fresh t) r' := by
  unfold handleReceivedConnectedData at hhandle
  rcases accept_cases data dataLength fromAddress r with
    ⟨status', cpf, haccept⟩ | ⟨c, cpf, n, hstate, haccept | haccept⟩
  · rw [haccept] at hhandle
    cases hhandle
    exact .inl h
  · rw [haccept] at hhandle
    refine .inr ⟨c, true, Same.receiveData ?_ hhandle⟩
    rw [Cip.handleReceivedConnectedData, h c, if_pos hstate, if_pos rfl]
    exact Same.set (r := { r with cpf := cpf }) (o := (r.connectionData c).took n) h
  · rw [haccept] at hhandle
    cases hhandle
    refine .inr ⟨c, false, ?_⟩
    rw [Cip.handleReceivedConnectedData, h c, if_pos hstate, if_neg Bool.false_ne_true]
    exact Same.set (r := { r with cpf := cpf }) (o := (r.connectionData c).dropped) h

/-! ## 7. Runs -/

/-- What comes to the device: a packet of the sender, or anything else. -/
inductive Input
  | packet (k : Nat)
  | other (f : Receiver → Receiver)

/-- The packets of the sender, as they arrive. -/
def arrivals (inputs : List Input) : List Nat :=
  inputs.filterMap fun
    | .packet k => some k
    | .other _ => none

/-- The device over a list of inputs, and what is handed over of the packets. -/
def run (s : Sender) (fromAddress : Nat) :
    List Input → Receiver → Option (List (Slot × Bytes) × Receiver)
  | [], r => some ([], r)
  | .packet k :: inputs, r =>
    (receive (s.message k) fromAddress r).bind fun (handed, r) =>
      (run s fromAddress inputs r).map fun (handed', r) => (handed ++ handed', r)
  | .other f :: inputs, r => run s fromAddress inputs (f r)

/-- The connection keeps the number of packet `last`, if it has taken any. -/
def Last (s : Sender) (c : Slot) (r : Receiver) : Option Nat → Prop
  | none => (r.connectionData c).eipFirstLevelSequenceCountReceived = false
  | some j => (r.connectionData c).eipFirstLevelSequenceCountReceived = true ∧
      (r.connectionData c).eipLevelSequenceCountConsuming = s.number j

variable {last : Option Nat}

theorem Last.leaves (h : Last s c r last) (hleaves : Leaves s.start.cipProducedConnectionId c i r r') :
    Last s c r' last := by
  cases last with
  | none => exact hleaves.received.trans h
  | some j => exact ⟨hleaves.received.trans h.1, hleaves.number.trans h.2⟩

/-- A packet is new if it is newer than the last. -/
theorem Last.new_iff (h : Last s c r last) (hclass : s.start.transportClass ≠ .class0)
    (hnear : ∀ j ∈ last, Near 4294967296 k j) :
    seqGt32 (arrivalNumber s k r) (r.connectionData c).eipLevelSequenceCountConsuming = true ∨
        (r.connectionData c).eipFirstLevelSequenceCountReceived = false ↔
      last.all (later k) = true := by
  rw [arrivalNumber, if_pos hclass]
  cases last with
  | none => exact iff_of_true (.inr h) rfl
  | some j =>
    rw [h.2, s.seqGt32_number (hnear j rfl)]
    refine ⟨fun hnew => hnew.resolve_right ?_, .inl⟩
    rw [h.1]
    exact Bool.noConfusion

/-- The rule for runs: what holds with the newest packet as the last one, is left alone by all else
and is brought about by each packet that is taken, holds after a run. -/
theorem run_rule {P : Option Nat → Receiver → Prop} {m : Nat} (hm : m ≤ 4294967296)
    (hclass : s.start.transportClass ≠ .class0) (hfits : ∀ k, (s.message k).length ≤ 512)
    (hleaves : ∀ last r r', Leaves s.start.cipProducedConnectionId c i r r' → P last r → P last r')
    {inputs : List Input} {first : Option Nat}
    (htook : ∀ last k r r', (last = none → first = some k) → (∀ j ∈ last, j < k ∧ Near m k j) →
      Ready s fromAddress c i r → P last r → Took s fromAddress c i k r r' → P (some k) r')
    (hfirst : last = none → ∀ k ∈ (arrivals inputs).head?, first = some k)
    (hothers : ∀ f, .other f ∈ inputs → ∀ r, Leaves s.start.cipProducedConnectionId c i r (f r))
    (hwithin : Within m last (arrivals inputs)) (hready : Ready s fromAddress c i r)
    (hlast : Last s c r last) (hP : P last r) :
    ∃ r', run s fromAddress inputs r = some ((takes later last (arrivals inputs)).map fun k =>
        (c, (s.packet k).payload), r') ∧ P (newest last (arrivals inputs)) r' := by
  induction inputs generalizing last r with
  | nil => exact ⟨r, rfl, hP⟩
  | cons input inputs ih =>
    have hrest := fun f hf => hothers f (List.mem_cons_of_mem input hf)
    cases input with
    | other f =>
      have hf := hothers f List.mem_cons_self r
      exact ih hfirst hrest hwithin (hready.leaves hf) (hlast.leaves hf) (hleaves _ _ _ hf hP)
    | packet k =>
      obtain ⟨hnear, hwithin⟩ := hwithin
      have hnew := hlast.new_iff (k := k) hclass fun j hj => (hnear j hj).mono hm
      change ∃ r', (receive (s.message k) fromAddress r).bind _ =
        some ((takes later last (k :: arrivals inputs)).map _, r') ∧
          P (newest last (k :: arrivals inputs)) r'
      rw [takes, newest_cons]
      by_cases htaken : last.all (later k) = true
      · obtain ⟨r₁, hreceive, ht⟩ := receive_new hready (hfits k) (hnew.mpr htaken)
        have hmax : last.elim k (max k) = k := by
          cases last with
          | none => rfl
          | some j => exact max_eq_left (of_decide_eq_true htaken : j < k).le
        have hlast₁ : Last s c r₁ (some k) := by
          have hnumber := ht.number
          rw [arrivalNumber, if_pos hclass] at hnumber
          exact ⟨ht.received, hnumber⟩
        have hP₁ : P (some k) r₁ := by
          refine htook last k r r₁ (fun h => hfirst h k rfl) (fun j hj => ⟨?_, hnear j hj⟩) hready hP
            ht
          obtain rfl := Option.mem_def.mp hj
          exact of_decide_eq_true htaken
        rw [hmax] at hwithin ⊢
        obtain ⟨r', hrun, hP'⟩ := ih (fun h => by cases h) hrest hwithin ht.ready hlast₁ hP₁
        refine ⟨r', ?_, hP'⟩
        rw [hreceive, Option.bind_some, if_pos htaken]
        simp only [hrun, Option.map_some]
        rfl
      · obtain ⟨r₁, hreceive, hl, -⟩ := receive_old hready (hfits k) fun h => htaken (hnew.mp h)
        have hmax : some (last.elim k (max k)) = last := by
          cases last with
          | none => exact absurd rfl htaken
          | some j =>
            exact congrArg some (max_eq_right (not_lt.mp fun h => htaken (decide_eq_true h)))
        rw [hmax] at hwithin ⊢
        have hsome : last ≠ none := by
          rw [← hmax]
          exact Option.some_ne_none _
        obtain ⟨r', hrun, hP'⟩ := ih (fun h => absurd h hsome) hrest hwithin (hready.leaves hl)
          (hlast.leaves hl) (hleaves _ _ _ hl hP)
        refine ⟨r', ?_, hP'⟩
        rw [hreceive, Option.bind_some, if_neg htaken]
        simp only [hrun, Option.map_some]
        rfl

/-- **What is handed over.**  In every run, with less than half of the circle between a packet and
the newest before it: the packets that are handed over are, as they were sent, those that are newer
than all that arrived before them; so they come in order, none twice, and the newest of all is the
last of them. -/
theorem handed_over {inputs : List Input} (hready : Ready s fromAddress c i r)
    (hfirst : (r.connectionData c).eipFirstLevelSequenceCountReceived = false)
    (hclass : s.start.transportClass ≠ .class0) (hfits : ∀ k, (s.message k).length ≤ 512)
    (hothers : ∀ f, .other f ∈ inputs → ∀ r, Leaves s.start.cipProducedConnectionId c i r (f r))
    (hwithin : Within 4294967296 none (arrivals inputs)) :
    ∃ (taken : List Nat) (r' : Receiver), run s fromAddress inputs r =
        some (taken.map fun k => (c, (s.packet k).payload), r') ∧
      taken.Pairwise (· < ·) ∧ taken.getLast? = (arrivals inputs).max? ∧
      ∀ k, k ∈ taken ↔
        ∃ before after, arrivals inputs = before ++ k :: after ∧ ∀ j ∈ before, j < k := by
  obtain ⟨r', hrun, -⟩ := run_rule (P := fun _ _ => True) le_rfl hclass hfits
    (fun _ _ _ _ _ => trivial) (fun _ _ _ _ _ _ _ _ _ => trivial) (fun _ k hk => hk)
    hothers hwithin hready hfirst trivial
  refine ⟨takes later none (arrivals inputs), r', hrun, (takes_sorted none _).1, ?_, fun k => ?_⟩
  · rw [← newest_eq_max, ← takes_getLast, Option.or_none]
  · rw [mem_takes_iff]
    simp

/-- A scanner whose numbers are about to wrap; the data of packet `k` are 32 times `k`. -/
def scanner (transportClass : TransportClass) : Sender where
  start := ⟨transportClass, 7, 0xFFFFFFFE, 0⟩
  changed := fun _ => true
  data := fun k => List.replicate 32 (.ofNat k)
  cpf := fun _ => unconnectedRequest 2

/-- A device with one connection, for the scanner at address 1. -/
def adapter (transportClassTrigger : UInt8) : Receiver where
  cpf := unconnectedRequest 2
  connectionList := [.exclusiveOwner]
  connectionData := fun _ =>
    { forcedConnection with
      state := .established
      instanceType := .ioExclusiveOwner
      originatorAddress := 1
      transportClassTrigger := transportClassTrigger
      consumingInstance := some .output
      cipConsumedConnectionId := 7
      eipLevelSequenceCountConsuming := 0
      eipFirstLevelSequenceCountReceived := false }
  io := idleStack

theorem adapter_ready :
    Ready (scanner .class1) 1 .exclusiveOwner .output (adapter 1) ∧
      Ready (scanner .class0) 1 .exclusiveOwner .output (adapter 0) :=
  ⟨⟨by decide, rfl, by decide, by decide, rfl, rfl⟩,
    ⟨by decide, rfl, by decide, by decide, rfl, rfl⟩⟩

theorem scanner_fits (transportClass : TransportClass) (k : Nat) :
    ((scanner transportClass).message k).length ≤ 512 := by
  refine (message_length_le _ k).trans ?_
  rw [show (scanner transportClass).data k = List.replicate 32 (.ofNat k) from rfl,
    List.length_replicate]
  decide

/-- Packets 0, 2, 1, 2, 3, of which the second 2 and the 1 are dropped. -/
def reordered : List Input := [.packet 0, .packet 2, .packet 1, .packet 2, .packet 3]

theorem reordered_others (f : Receiver → Receiver) : .other f ∉ reordered := by
  simp [reordered]

theorem reordered_within {m : Nat} (hm : 6 < m) : Within m none (arrivals reordered) := by
  simp [reordered, arrivals, Within, Near]
  omega

theorem handed_over_reordered : ∃ (taken : List Nat) (r' : Receiver),
    run (scanner .class1) 1 reordered (adapter 1) =
        some (taken.map fun k => (.exclusiveOwner, ((scanner .class1).packet k).payload), r') ∧
      2 ∈ taken ∧ taken.getLast? = some 3 := by
  obtain ⟨taken, r', hrun, -, hlast, htaken⟩ := handed_over adapter_ready.1 rfl (by decide)
    (scanner_fits .class1) (fun f hf => absurd hf (reordered_others f))
    (reordered_within (by decide))
  exact ⟨taken, r', hrun, (htaken 2).mpr ⟨[0], [1, 2, 3], rfl, by decide⟩, hlast⟩

/-! ## 8. What the assembly has -/

/-- The bytes of packet `k` that are for the assembly; an originator may put four before them. -/
def output (s : Sender) (i : AssemblyInstance) (k : Nat) : Bytes :=
  (s.data k).drop ((s.data k).length - i.length)

/-- The sequence count is taken off a packet of class 1. -/
theorem takeSequence_packet {data : Nat → UInt8} {dataLength : UInt16} {o : IoConnection}
    (hclass : o.transportClass = .class1) (hstart : s.start.transportClass = .class1)
    (hdata : bytesAt data 0 dataLength.toNat = (s.packet k).payload) :
    takeSequence data dataLength o =
      (seqLeq16 (s.sequenceCount k) o.sequenceCountConsuming, ⟨2, dataLength - 2⟩,
        { o with sequenceCountConsuming := s.sequenceCount k }) ∧
      dataLength.toNat = 2 + (s.data k).length ∧
      bytesAt data 0 dataLength.toNat = le16 (s.sequenceCount k) ++ s.data k := by
  have hpayload : (s.packet k).payload = le16 (s.sequenceCount k) ++ s.data k := by
    rw [Sender.packet, ProducingConnection.packet, s.state_transportClass, if_pos hstart]
    rfl
  rw [hpayload] at hdata
  have hlength := congrArg List.length hdata
  rw [bytesAt_length, List.length_append, le16_length] at hlength
  have hholds : Holds data 0 (le16 (s.sequenceCount k) ++ s.data k) := by
    rw [Holds, ← hdata, bytesAt_length]
  have hcount := (holds_append.mp hholds).1.uint
  refine ⟨?_, hlength, hdata⟩
  rw [takeSequence, if_pos hclass]
  simp only [hcount]

/-- The receive function on a packet: it leaves its sequence count, and its data if that is new. -/
theorem received_packet {data : Nat → UInt8} {dataLength : UInt16} {o o' : IoConnection}
    {t t' : IoStack} {status : EipStatus} (hclass : o.transportClass = .class1)
    (hinstance : o.consumingInstance = some i) (hoff : t.consumeRunIdle = false)
    (hstart : s.start.transportClass = .class1)
    (hsize : (s.data k).length = i.length ∨ (s.data k).length = i.length + 4)
    (hdata : bytesAt data 0 dataLength.toNat = (s.packet k).payload)
    (h : handleReceivedIoConnectionData data dataLength o t = some (status, o', t')) :
    o'.sequenceCountConsuming = s.sequenceCount k ∧
      (Newer (s.sequenceCount k) o.sequenceCountConsuming → t'.assemblies.bytes i = output s i k) ∧
      (¬Newer (s.sequenceCount k) o.sequenceCountConsuming → t'.assemblies = t.assemblies) := by
  obtain ⟨htake, hlength, hbytes⟩ := takeSequence_packet hclass hstart hdata
  obtain ⟨status', o'', t'', hreceived, hnew, hold⟩ := received_off data dataLength hoff hinstance
  rw [h] at hreceived
  cases hreceived
  have hconnection := (received_connection h).1
  rw [htake] at hconnection hnew hold
  have hrest : (dataLength - 2).toNat = (s.data k).length := by
    have hle : (2 : UInt16) ≤ dataLength := by
      rw [UInt16.le_iff_toNat_le, hlength]
      exact Nat.le_add_right 2 _
    rw [UInt16.toNat_sub_of_le _ _ hle, hlength]
    exact Nat.add_sub_cancel_left ..
  have hsuits : Suits i ⟨2, dataLength - 2⟩ := by
    rw [Suits, hrest]
    exact hsize
  refine ⟨congrArg IoConnection.sequenceCountConsuming hconnection, fun hnewer => ?_,
    fun hnewer => ?_⟩
  · have hfalse : seqLeq16 (s.sequenceCount k) o.sequenceCountConsuming = false := by
      rw [← Bool.not_eq_true, seqLeq16_iff, not_not]
      exact hnewer
    have hdrop : dataLength.toNat - i.length =
        (le16 (s.sequenceCount k)).length + ((s.data k).length - i.length) := by
      rw [le16_length]
      omega
    rw [(hnew ⟨hfalse, hsuits⟩).bytes, hbytes, output, hdrop, List.drop_length_add_append]
  · refine hold fun htaken => ?_
    have htrue := (seqLeq16_iff (s.sequenceCount k) o.sequenceCountConsuming).mpr hnewer
    exact Bool.noConfusion (htaken.1.symm.trans htrue)

/-- Sequence counts of packets: the one is new after the other if the data have changed between. -/
theorem newer_sequenceCount {j : Nat} (hjk : j < k) (hnear : Near 65536 k j) :
    Newer (s.sequenceCount k) (s.sequenceCount j) ↔ s.changes (j + 1) < s.changes (k + 1) := by
  have hcount : ∀ l, (s.sequenceCount l).toNat =
      (s.start.sequenceCountProducing.toNat + s.changes (l + 1)) % 65536 := by
    intro l
    rw [Sender.sequenceCount, s.state_count, UInt16.toNat_add, UInt16.toNat_ofNat', Nat.add_mod_mod]
  have hmono : s.changes (j + 1) ≤ s.changes (k + 1) := Nat.count_monotone _ (by omega)
  have hstep : s.changes (k + 1) ≤ s.changes (j + 1) + (k - j) := by
    rw [Sender.changes, show k + 1 = j + 1 + (k - j) by omega, Nat.count_add]
    exact Nat.add_le_add_left (Nat.count_le _) _
  have hahead := ahead_of_base (m := 65536) (i := s.changes (k + 1)) (j := s.changes (j + 1))
    ⟨by have := hnear.1; omega, by omega⟩ s.start.sequenceCountProducing.toNat
  rw [← hcount, ← hcount] at hahead
  rw [← not_iff_not, ← seqLeq16_iff, ← decide_eq_false_iff_not, ← hahead, seqLeq16, ahead,
    decide_eq_true_iff, decide_eq_false_iff_not, not_lt]

/-- Data that have not changed are the same. -/
theorem output_unchanged {j : Nat} (hchanged : ∀ k, s.changed (k + 1) = false →
      output s i (k + 1) = output s i k) (hjk : j ≤ k)
    (hcount : s.changes (k + 1) = s.changes (j + 1)) : output s i k = output s i j := by
  induction k, hjk using Nat.le_induction with
  | base => rfl
  | succ k hjk ih =>
    have hmono : s.changes (j + 1) ≤ s.changes (k + 1) := Nat.count_monotone _ (by omega)
    have hsucc :
        s.changes (k + 1 + 1) = s.changes (k + 1) + if s.changed (k + 1) = true then 1 else 0 :=
      Nat.count_succ ..
    by_cases h : s.changed (k + 1) = true
    · rw [if_pos h] at hsucc
      omega
    · rw [if_neg h] at hsucc
      rw [hchanged k (Bool.eq_false_iff.mpr h), ih (by omega)]

/-- The connection has the sequence count of packet `last`, and the assembly its data. -/
def Shown (s : Sender) (c : Slot) (i : AssemblyInstance) (count : UInt16) :
    Option Nat → Receiver → Prop
  | none, r => (r.connectionData c).sequenceCountConsuming = count
  | some j, r => (r.connectionData c).sequenceCountConsuming = s.sequenceCount j ∧
      r.io.assemblies.bytes i = output s i j

theorem Shown.leaves {id : UInt32} {count : UInt16} (h : Shown s c i count last r)
    (hleaves : Leaves id c i r r') : Shown s c i count last r' := by
  cases last with
  | none => exact hleaves.sequenceCount.trans h
  | some j => exact ⟨hleaves.sequenceCount.trans h.1, hleaves.assembly.trans h.2⟩

theorem Shown.took {count : UInt16} (h : Shown s c i count last r)
    (hready : Ready s fromAddress c i r) (hclass : s.start.transportClass = .class1)
    (hsize : (s.data k).length = i.length ∨ (s.data k).length = i.length + 4)
    (hchanged : ∀ k, s.changed (k + 1) = false → output s i (k + 1) = output s i k)
    (hcount : last = none → Newer (s.sequenceCount k) count)
    (hlater : ∀ j ∈ last, j < k ∧ Near 65536 k j) (ht : Took s fromAddress c i k r r') :
    Shown s c i count (some k) r' := by
  obtain ⟨data, dataLength, status, hdata, hio⟩ := ht.io
  obtain ⟨hafter, hnew, hold⟩ := received_packet
    (o := ((r.connectionData c).took (arrivalNumber s k r)).toIoConnection)
    (hready.transportClass.trans hclass) hready.consumingInstance hready.runIdle hclass hsize hdata hio
  refine ⟨hafter, ?_⟩
  cases last with
  | none =>
    have hbefore : ((r.connectionData c).took (arrivalNumber s k r)).sequenceCountConsuming =
        count := h
    rw [hbefore] at hnew
    exact hnew (hcount rfl)
  | some j =>
    obtain ⟨hjk, hnear⟩ := hlater j rfl
    have hbefore : ((r.connectionData c).took (arrivalNumber s k r)).sequenceCountConsuming =
        s.sequenceCount j := h.1
    rw [hbefore, newer_sequenceCount hjk hnear] at hnew hold
    by_cases hchanges : s.changes (j + 1) < s.changes (k + 1)
    · exact hnew hchanges
    · have hmono : s.changes (j + 1) ≤ s.changes (k + 1) := Nat.count_monotone _ (by omega)
      rw [hold hchanges, h.2]
      exact (output_unchanged hchanged hjk.le (by omega)).symm

/-- **What the assembly has.**  In every run, with less than 32768 packets between a packet and the
newest before it, and a first packet whose sequence count is new to the connection: the assembly has
the data of the newest packet that arrived, whatever was lost, repeated or overtaken. -/
theorem assembly_newest {inputs : List Input} (hready : Ready s fromAddress c i r)
    (hfirst : (r.connectionData c).eipFirstLevelSequenceCountReceived = false)
    (hcount : ∀ k ∈ (arrivals inputs).head?,
      Newer (s.sequenceCount k) (r.connectionData c).sequenceCountConsuming)
    (hclass : s.start.transportClass = .class1)
    (hsize : ∀ k, (s.data k).length = i.length ∨ (s.data k).length = i.length + 4)
    (hchanged : ∀ k, s.changed (k + 1) = false → output s i (k + 1) = output s i k)
    (hothers : ∀ f, .other f ∈ inputs → ∀ r, Leaves s.start.cipProducedConnectionId c i r (f r))
    (hwithin : Within 65536 none (arrivals inputs)) :
    ∃ handed r', run s fromAddress inputs r = some (handed, r') ∧
      ∀ k ∈ (arrivals inputs).max?, r'.io.assemblies.bytes i = output s i k := by
  have hfits := fun k => message_fits (hsize k)
  obtain ⟨r', hrun, hshown⟩ := run_rule
    (P := Shown s c i (r.connectionData c).sequenceCountConsuming) (m := 65536) (by decide)
    (by rw [hclass]; decide) hfits (fun _ _ _ hl h => h.leaves hl)
    (fun last k _ _ hhead hlater hready h ht => h.took hready hclass (hsize k) hchanged
      (fun hnone => hcount k (hhead hnone)) hlater ht)
    (fun _ k hk => hk) hothers hwithin hready hfirst rfl
  refine ⟨_, r', hrun, fun k hk => ?_⟩
  rw [newest_eq_max, Option.mem_def.mp hk] at hshown
  exact hshown.2

theorem assembly_newest_reordered : ∃ handed r',
    run (scanner .class1) 1 reordered (adapter 1) = some (handed, r') ∧
      r'.io.assemblies.bytes .output = List.replicate 32 3 := by
  obtain ⟨handed, r', hrun, hbytes⟩ := assembly_newest adapter_ready.1 rfl (by decide) rfl
    (fun _ => .inl (List.length_replicate ..)) (fun _ h => by cases h)
    (fun f hf => absurd hf (reordered_others f)) (reordered_within (by decide))
  exact ⟨handed, r', hrun, hbytes 3 rfl⟩

/-! ## 9. Packets without a number -/

/-- The number in the structure is not ahead of that of the connection. -/
def NotAhead (c : Slot) (r : Receiver) : Prop :=
  seqGt32 r.cpf.addressItem.sequenceNumber
    (r.connectionData c).eipLevelSequenceCountConsuming = false

/-- A run in which all else leaves the connection alone and, when a packet has been taken, no number
in the structure that is ahead of it. -/
def Quiet (s : Sender) (fromAddress : Nat) (c : Slot) (i : AssemblyInstance) :
    List Input → Receiver → Prop
  | [], _ => True
  | .packet k :: inputs, r =>
    ∀ handed r', receive (s.message k) fromAddress r = some (handed, r') →
      Quiet s fromAddress c i inputs r'
  | .other f :: inputs, r =>
    Leaves s.start.cipProducedConnectionId c i r (f r) ∧
      ((r.connectionData c).eipFirstLevelSequenceCountReceived = true → NotAhead c (f r)) ∧
      Quiet s fromAddress c i inputs (f r)

/-- Once a packet of class 0 has been taken, none is. -/
theorem class0_stuck {inputs : List Input} (hready : Ready s fromAddress c i r)
    (hclass : s.start.transportClass = .class0) (hfits : ∀ k, (s.message k).length ≤ 512)
    (hquiet : Quiet s fromAddress c i inputs r)
    (hreceived : (r.connectionData c).eipFirstLevelSequenceCountReceived = true)
    (hnumber : NotAhead c r) :
    ∃ r', run s fromAddress inputs r = some ([], r') ∧
      r'.io.assemblies.bytes i = r.io.assemblies.bytes i := by
  induction inputs generalizing r with
  | nil => exact ⟨r, rfl, rfl⟩
  | cons input inputs ih =>
    cases input with
    | other f =>
      obtain ⟨hl, hahead, hrest⟩ := hquiet
      obtain ⟨r', hrun, hbytes⟩ := ih (hready.leaves hl) hrest (hl.received.trans hreceived)
        (hahead hreceived)
      exact ⟨r', hrun, hbytes.trans hl.assembly⟩
    | packet k =>
      have harrival : arrivalNumber s k r = r.cpf.addressItem.sequenceNumber :=
        if_neg fun h => h hclass
      have hold : ¬(seqGt32 (arrivalNumber s k r)
          (r.connectionData c).eipLevelSequenceCountConsuming = true ∨
          (r.connectionData c).eipFirstLevelSequenceCountReceived = false) := by
        rw [harrival, hnumber, hreceived]
        decide
      obtain ⟨r₁, hreceive, hl, hcpf⟩ := receive_old hready (hfits k) hold
      have hahead : NotAhead c r₁ := by
        rw [NotAhead, hcpf, harrival, hl.number]
        exact hnumber
      obtain ⟨r', hrun, hbytes⟩ := ih (hready.leaves hl) (hquiet _ r₁ hreceive)
        (hl.received.trans hreceived) hahead
      refine ⟨r', ?_, hbytes.trans hl.assembly⟩
      rw [run, hreceive, Option.bind_some]
      simp only [hrun, Option.map_some]
      rfl

/-- A packet of class 0 has no sequence count: its data are taken if they fit. -/
theorem Took.output (hready : Ready s fromAddress c i r) (hclass : s.start.transportClass = .class0)
    (hsize : (s.data k).length = i.length ∨ (s.data k).length = i.length + 4)
    (ht : Took s fromAddress c i k r r') : r'.io.assemblies.bytes i = Channel.output s i k := by
  obtain ⟨data, dataLength, status, hdata, hio⟩ := ht.io
  have hpayload : (s.packet k).payload = s.data k := by
    rw [Sender.packet, ProducingConnection.packet, s.state_transportClass, hclass]
    rfl
  rw [hpayload] at hdata
  have hlength : dataLength.toNat = (s.data k).length := by
    rw [← hdata, bytesAt_length]
  have hclass' : ((r.connectionData c).took (arrivalNumber s k r)).transportClass ≠ .class1 := by
    have h : ((r.connectionData c).took (arrivalNumber s k r)).transportClass = .class0 :=
      hready.transportClass.trans hclass
    rw [h]
    decide
  obtain ⟨status', o', t', hreceived, hnew, -⟩ := received_off data dataLength hready.runIdle
    (c := ((r.connectionData c).took (arrivalNumber s k r)).toIoConnection) hready.consumingInstance
  rw [hio] at hreceived
  cases hreceived
  rw [takeSequence, if_neg hclass'] at hnew
  have hsuits : Suits i ⟨0, dataLength⟩ := by
    rw [Suits, hlength]
    exact hsize
  rw [(hnew ⟨rfl, hsuits⟩).bytes, hdata, hlength]
  rfl

/-- **Class 0.**  As long as nothing else leaves a larger number in the structure, a connection of
class 0 takes the first of its packets and no other, in whatever order they come, and the assembly
keeps the data of that one. -/
theorem class0_first_only {inputs : List Input} (hready : Ready s fromAddress c i r)
    (hfirst : (r.connectionData c).eipFirstLevelSequenceCountReceived = false)
    (hclass : s.start.transportClass = .class0)
    (hsize : ∀ k, (s.data k).length = i.length ∨ (s.data k).length = i.length + 4)
    (hquiet : Quiet s fromAddress c i inputs r) :
    ∃ r', run s fromAddress inputs r = some ((arrivals inputs).head?.toList.map fun k =>
        (c, (s.packet k).payload), r') ∧
      ∀ k ∈ (arrivals inputs).head?, r'.io.assemblies.bytes i = output s i k := by
  have hfits := fun k => message_fits (hsize k)
  induction inputs generalizing r with
  | nil => exact ⟨r, rfl, fun k hk => by cases hk⟩
  | cons input inputs ih =>
    cases input with
    | other f =>
      obtain ⟨hl, -, hrest⟩ := hquiet
      exact ih (hready.leaves hl) (hl.received.trans hfirst) hrest
    | packet k =>
      obtain ⟨r₁, hreceive, ht⟩ := receive_new hready (hfits k) (.inr hfirst)
      have hnumber : NotAhead c r₁ := by
        rw [NotAhead, ht.number, ht.structureNumber, seqGt32, Int.sub_self]
        rfl
      obtain ⟨r', hrun, hbytes⟩ := class0_stuck ht.ready hclass hfits (hquiet _ r₁ hreceive)
        ht.received hnumber
      refine ⟨r', ?_, fun j hj => ?_⟩
      · rw [run, hreceive, Option.bind_some]
        simp only [hrun, Option.map_some]
        rfl
      · obtain rfl : k = j := Option.some.inj hj
        exact hbytes.trans (ht.output hready hclass (hsize k))

/-- Another connection's packet has left its number, a small one. -/
def leaveNumber (n : UInt32) (r : Receiver) : Receiver :=
  { r with cpf := { r.cpf with
      addressItem := { r.cpf.addressItem with sequenceNumber := n } } }

theorem leaveNumber_leaves (n : UInt32) (id : UInt32) (r : Receiver) :
    Leaves id c i r (leaveNumber n r) :=
  ⟨rfl, rfl, rfl, rfl, rfl, rfl, rfl, rfl, rfl, rfl⟩

/-- Packet 2 first, then a number that is left behind its own, and then more packets. -/
def numbered : List Input := [.packet 2, .other (leaveNumber 0xFFFFFFF0), .packet 3, .packet 2]

theorem numbered_quiet : Quiet (scanner .class0) 1 .exclusiveOwner .output numbered (adapter 0) := by
  intro handed r' hreceive
  obtain ⟨r₁, hreceive₁, ht⟩ := receive_new adapter_ready.2 (scanner_fits .class0 2) (.inr rfl)
  obtain ⟨-, rfl⟩ := Prod.mk.inj (Option.some.inj (hreceive₁.symm.trans hreceive))
  refine ⟨leaveNumber_leaves .., fun _ => ?_, fun _ _ _ _ _ _ => trivial⟩
  have hnumber : ((leaveNumber 0xFFFFFFF0 r₁).connectionData
      .exclusiveOwner).eipLevelSequenceCountConsuming = 0 := ht.number
  rw [NotAhead, hnumber]
  exact (by decide : seqGt32 0xFFFFFFF0 0 = false)

theorem class0_first_only_numbered : ∃ r', run (scanner .class0) 1 numbered (adapter 0) =
      some ([(.exclusiveOwner, List.replicate 32 2)], r') ∧
    r'.io.assemblies.bytes .output = List.replicate 32 2 := by
  obtain ⟨r', hrun, hbytes⟩ := class0_first_only adapter_ready.2 rfl rfl
    (fun _ => .inl (List.length_replicate ..)) numbered_quiet
  exact ⟨r', hrun, hbytes 2 rfl⟩

end GroundTruth.Cip.Channel
