/-
# Modbus requests: the handlers of `modbus_protocol.c`

A request comes in as a transaction id, a unit id, a function code and the data after it; what
comes out is the response that is sent and the assemblies as they are afterwards.  Sending is
taken to send everything: the code only logs when it does not.

`read_after_write` says when a read gives back what was written: when every value has equal bytes.
The map swaps once on the way out and, in effect, not at all on the way in (`Modbus/RegisterMap`).
-/
import GroundTruth.Modbus.RegisterMap

namespace GroundTruth.Modbus

open GroundTruth.Lib

/-! ## 1. Responses -/

def fcReadHoldingRegisters : UInt8 := 0x03
def fcReadInputRegisters : UInt8 := 0x04
def fcWriteSingleRegister : UInt8 := 0x06
def fcWriteMultipleRegisters : UInt8 := 0x10

def exIllegalFunction : UInt8 := 0x01
def exIllegalDataAddress : UInt8 := 0x02
def exIllegalDataValue : UInt8 := 0x03

/-- `send_exception`. -/
def sendException (transactionId : UInt16) (unitId functionCode exceptionCode : UInt8) : Bytes :=
  [high transactionId, low transactionId, 0x00, 0x00, 0x00, 0x03, unitId,
    functionCode ||| 0x80, exceptionCode]

/-- The response to a read: `response_len` is 9 bytes more than the data. -/
def readResponse (transactionId : UInt16) (unitId functionCode : UInt8) (data : Bytes) : Bytes :=
  [high transactionId, low transactionId, 0x00, 0x00] ++
    wire [UInt16.ofNat (9 + data.length - 6)] ++
    [unitId, functionCode, UInt8.ofNat data.length] ++ data

/-- The response to a write: the address and the value or the quantity. -/
def writeResponse (transactionId : UInt16) (unitId functionCode : UInt8)
    (address value : UInt16) : Bytes :=
  [high transactionId, low transactionId, 0x00, 0x00, 0x00, 0x06, unitId, functionCode] ++
    wire [address, value]

/-- A 16-bit field of the PDU. -/
def field (pdu : Bytes) (i : Nat) : UInt16 := glue (pdu.getD i 0) (pdu.getD (i + 1) 0)

/-! ## 2. The handlers -/

/-- What the two read handlers do with their function of the map. -/
def handleRead (functionCode : UInt8)
    (readMap : UInt16 → UInt16 → Assemblies → Option Bytes) (transactionId : UInt16)
    (unitId : UInt8) (pdu : Bytes) (a : Assemblies) : Bytes :=
  if pdu.length < 4 then sendException transactionId unitId functionCode exIllegalDataValue
  else
    let startAddr := field pdu 0
    let quantity := field pdu 2
    if quantity = 0 ∨ 125 < quantity then
      sendException transactionId unitId functionCode exIllegalDataValue
    else if 250 < quantity.toNat * 2 then
      sendException transactionId unitId functionCode exIllegalDataValue
    else
      match readMap startAddr quantity a with
      | none => sendException transactionId unitId functionCode exIllegalDataAddress
      | some data => readResponse transactionId unitId functionCode data

/-- `handle_read_holding_registers`. -/
def handleReadHoldingRegisters : UInt16 → UInt8 → Bytes → Assemblies → Bytes :=
  handleRead fcReadHoldingRegisters modbusReadHoldingRegisters

/-- `handle_read_input_registers`. -/
def handleReadInputRegisters : UInt16 → UInt8 → Bytes → Assemblies → Bytes :=
  handleRead fcReadInputRegisters modbusReadInputRegisters

/-- `handle_write_single_register`. -/
def handleWriteSingleRegister (transactionId : UInt16) (unitId : UInt8) (pdu : Bytes)
    (a : Assemblies) : Assemblies × Bytes :=
  if pdu.length < 4 then
    (a, sendException transactionId unitId fcWriteSingleRegister exIllegalDataValue)
  else
    let address := field pdu 0
    let value := field pdu 2
    match modbusWriteHoldingRegister address value a with
    | none => (a, sendException transactionId unitId fcWriteSingleRegister exIllegalDataAddress)
    | some a' => (a', writeResponse transactionId unitId fcWriteSingleRegister address value)

/-- `handle_write_multiple_registers`. -/
def handleWriteMultipleRegisters (transactionId : UInt16) (unitId : UInt8) (pdu : Bytes)
    (a : Assemblies) : Assemblies × Bytes :=
  if pdu.length < 6 then
    (a, sendException transactionId unitId fcWriteMultipleRegisters exIllegalDataValue)
  else
    let startAddr := field pdu 0
    let quantity := field pdu 2
    let byteCount := (pdu.getD 4 0).toNat
    if quantity = 0 ∨ 123 < quantity ∨ byteCount ≠ quantity.toNat * 2 ∨
        pdu.length < 5 + byteCount then
      (a, sendException transactionId unitId fcWriteMultipleRegisters exIllegalDataValue)
    else
      match modbusWriteHoldingRegisters startAddr quantity (pdu.drop 5) a with
      | none =>
        (a, sendException transactionId unitId fcWriteMultipleRegisters exIllegalDataAddress)
      | some a' =>
        (a', writeResponse transactionId unitId fcWriteMultipleRegisters startAddr quantity)

/-- The `switch` of `modbus_tcp_handle_request`; `pdu` is what follows the function code. -/
def respond (transactionId : UInt16) (unitId functionCode : UInt8) (pdu : Bytes)
    (a : Assemblies) : Assemblies × Bytes :=
  if functionCode = fcReadHoldingRegisters then
    (a, handleReadHoldingRegisters transactionId unitId pdu a)
  else if functionCode = fcReadInputRegisters then
    (a, handleReadInputRegisters transactionId unitId pdu a)
  else if functionCode = fcWriteSingleRegister then
    handleWriteSingleRegister transactionId unitId pdu a
  else if functionCode = fcWriteMultipleRegisters then
    handleWriteMultipleRegisters transactionId unitId pdu a
  else (a, sendException transactionId unitId functionCode exIllegalFunction)

/-! ## 3. Reading back what was written -/

/-- A write request: FC06 for one register, FC16 for any number. -/
inductive WriteRequest
  | single (v : UInt16)
  | multiple (vs : List UInt16)

namespace WriteRequest

def values : WriteRequest → List UInt16
  | .single v => [v]
  | .multiple vs => vs

def functionCode : WriteRequest → UInt8
  | .single _ => fcWriteSingleRegister
  | .multiple _ => fcWriteMultipleRegisters

/-- The PDU data of the request. -/
def pdu (start : UInt16) : WriteRequest → Bytes
  | .single v => wire [start, v]
  | .multiple vs =>
    wire [start, UInt16.ofNat vs.length] ++ [UInt8.ofNat (2 * vs.length)] ++ wire vs

end WriteRequest

/-- The PDU data of an FC03 request. -/
def readPdu (start : UInt16) (count : Nat) : Bytes := wire [start, UInt16.ofNat count]

/-- A register range, not empty, inside one of the two blocks. -/
def InMap (start : UInt16) (count : Nat) : Prop :=
  0 < count ∧ (100 ≤ start.toNat ∧ start.toNat + count ≤ 116 ∨
    150 ≤ start.toNat ∧ start.toNat + count ≤ 155)

theorem InMap.ofNat {start : UInt16} {count : Nat} (h : InMap start count) :
    (UInt16.ofNat count).toNat = count := by
  obtain ⟨-, h⟩ := h
  exact UInt16.toNat_ofNat_of_lt (by omega : count < 65536)

/-- **The map.**  With the mutex there, what is written is stored, and read back swapped. -/
theorem map_read_write {start : UInt16} {vs : List UInt16} (h : InMap start vs.length)
    {a : Assemblies} (hm : a.mutex = true) :
    ∃ a', modbusWriteHoldingRegisters start (UInt16.ofNat vs.length) (wire vs) a = some a' ∧
      modbusReadHoldingRegisters start (UInt16.ofNat vs.length) a' =
        some (wire (vs.map swapped)) := by
  have hn := h.ofNat
  have hm' : ¬a.mutex = false := by simp [hm]
  obtain ⟨-, ⟨h1, h2⟩ | ⟨h1, h2⟩⟩ := h
  · have hin : inBlock start (UInt16.ofNat vs.length) holdingRegOutputStart
        holdingRegOutputEnd = true := inBlock_iff.2 ⟨h1, by rw [hn]; exact h2⟩
    have hread := readRegisters_writeRegisters a.data096
      (start.toNat - holdingRegOutputStart) vs (by simp only [holdingRegOutputStart]; omega)
    refine ⟨{ a with
      data096 := writeRegisters a.data096 (start.toNat - holdingRegOutputStart) vs.length
        (wire vs) }, ?_, ?_⟩
    · rw [modbusWriteHoldingRegisters, if_pos hin, if_neg hm', hn]
    · rw [modbusReadHoldingRegisters, if_pos hin, if_neg hm', hn, ← hread]
  · have hout : ¬inBlock start (UInt16.ofNat vs.length) holdingRegOutputStart
        holdingRegOutputEnd = true := by
      rw [inBlock_iff, hn]
      simp only [holdingRegOutputEnd]
      omega
    have hin : inBlock start (UInt16.ofNat vs.length) holdingRegConfigStart
        holdingRegConfigEnd = true := inBlock_iff.2 ⟨h1, by rw [hn]; exact h2⟩
    have hread := readRegisters_writeRegisters a.data097
      (start.toNat - holdingRegConfigStart) vs (by simp only [holdingRegConfigStart]; omega)
    refine ⟨{ a with
      data097 := writeRegisters a.data097 (start.toNat - holdingRegConfigStart) vs.length
        (wire vs) }, ?_, ?_⟩
    · rw [modbusWriteHoldingRegisters, if_neg hout, if_pos hin, if_neg hm', hn]
    · rw [modbusReadHoldingRegisters, if_neg hout, if_pos hin, if_neg hm', hn, ← hread]

/-- Without the mutex nothing is read or written. -/
theorem map_no_mutex (start quantity : UInt16) (data : Bytes) {a : Assemblies}
    (hm : a.mutex = false) :
    modbusWriteHoldingRegisters start quantity data a = none ∧
      modbusReadHoldingRegisters start quantity a = none := by
  simp [modbusWriteHoldingRegisters, modbusReadHoldingRegisters, hm]

/-- An exception is not a response to a read. -/
theorem sendException_ne_readResponse (t t' : UInt16) (u u' ex : UInt8) (data : Bytes) :
    sendException t u fcReadHoldingRegisters ex ≠
      readResponse t' u' fcReadHoldingRegisters data := by
  intro h
  have h7 : (fcReadHoldingRegisters ||| 0x80 : UInt8) = fcReadHoldingRegisters :=
    congrArg (·.getD 7 0) h
  exact absurd h7 (by decide)

/-- Responses of one length carry the same data only if it is the same. -/
theorem readResponse_inj {t : UInt16} {u fc : UInt8} {d d' : Bytes}
    (h : readResponse t u fc d = readResponse t u fc d') (hl : d.length = d'.length) : d = d' := by
  unfold readResponse at h
  rw [hl] at h
  exact List.append_cancel_left h

/-- `respond` to a write request in the map: the assemblies are those of the map's function. -/
theorem respond_write (w : WriteRequest) {start : UInt16} (h : InMap start w.values.length)
    (t : UInt16) (u : UInt8) (a : Assemblies) :
    (respond t u w.functionCode (w.pdu start) a).1 =
      (modbusWriteHoldingRegisters start (UInt16.ofNat w.values.length) (wire w.values)
        a).getD a := by
  cases w with
  | single v =>
    have h0 : field (wire [start, v]) 0 = start := glue_high_low start
    have h2 : field (wire [start, v]) 2 = v := glue_high_low v
    have hmap : modbusWriteHoldingRegister start v a =
        modbusWriteHoldingRegisters start (UInt16.ofNat 1) (wire [v]) a := rfl
    change (handleWriteSingleRegister t u (wire [start, v]) a).1 =
      (modbusWriteHoldingRegisters start (UInt16.ofNat 1) (wire [v]) a).getD a
    rw [handleWriteSingleRegister, if_neg (by simp)]
    simp only [h0, h2, hmap]
    cases modbusWriteHoldingRegisters start (UInt16.ofNat 1) (wire [v]) a <;> rfl
  | multiple vs =>
    have hn := h.ofNat
    have hcount : 0 < vs.length ∧ vs.length ≤ 16 := by
      obtain ⟨hpos, h⟩ := h
      simp only [WriteRequest.values] at h hpos
      omega
    simp only [WriteRequest.values] at hn
    have hpdu : WriteRequest.pdu start (.multiple vs) =
        wire [start, UInt16.ofNat vs.length] ++ [UInt8.ofNat (2 * vs.length)] ++ wire vs := rfl
    have h0 : field (WriteRequest.pdu start (.multiple vs)) 0 = start := glue_high_low start
    have h2 : field (WriteRequest.pdu start (.multiple vs)) 2 = UInt16.ofNat vs.length :=
      glue_high_low _
    have hbytes : ((WriteRequest.pdu start (.multiple vs)).getD 4 0).toNat = 2 * vs.length :=
      UInt8.toNat_ofNat_of_lt (by omega : 2 * vs.length < 256)
    have hdrop : (WriteRequest.pdu start (.multiple vs)).drop 5 = wire vs := rfl
    have hlen : (WriteRequest.pdu start (.multiple vs)).length = 5 + 2 * vs.length := by
      rw [hpdu]
      simp
      omega
    change (handleWriteMultipleRegisters t u (WriteRequest.pdu start (.multiple vs)) a).1 =
      (modbusWriteHoldingRegisters start (UInt16.ofNat vs.length) (wire vs) a).getD a
    rw [handleWriteMultipleRegisters, if_neg (by omega)]
    simp only [h0, h2, hbytes, hdrop, hlen, hn]
    rw [if_neg ?_]
    · cases modbusWriteHoldingRegisters start (UInt16.ofNat vs.length) (wire vs) a <;> rfl
    · rintro (h | h | h | h)
      · have hz := congrArg UInt16.toNat h
        rw [hn] at hz
        exact absurd hz (Nat.ne_of_gt hcount.1)
      · have hlt := UInt16.lt_iff_toNat_lt.1 h
        rw [hn] at hlt
        exact absurd hlt (by omega : ¬123 < vs.length)
      · omega
      · omega

/-- `respond` to a read request in the map. -/
theorem respond_read {start : UInt16} {count : Nat} (h : InMap start count)
    (t : UInt16) (u : UInt8) (a : Assemblies) :
    (respond t u fcReadHoldingRegisters (readPdu start count) a).2 =
      match modbusReadHoldingRegisters start (UInt16.ofNat count) a with
      | none => sendException t u fcReadHoldingRegisters exIllegalDataAddress
      | some data => readResponse t u fcReadHoldingRegisters data := by
  have hn := h.ofNat
  have hcount : 0 < count ∧ count ≤ 16 := by
    obtain ⟨hpos, h⟩ := h
    omega
  have h0 : field (readPdu start count) 0 = start := glue_high_low start
  have h2 : field (readPdu start count) 2 = UInt16.ofNat count := glue_high_low _
  change handleRead fcReadHoldingRegisters modbusReadHoldingRegisters t u
    (readPdu start count) a = _
  rw [handleRead, if_neg (by simp [readPdu])]
  simp only [h0, h2, hn]
  rw [if_neg ?_, if_neg (by omega)]
  rintro (h | h)
  · have hz := congrArg UInt16.toNat h
    rw [hn] at hz
    exact absurd hz (Nat.ne_of_gt hcount.1)
  · have hlt := UInt16.lt_iff_toNat_lt.1 h
    rw [hn] at hlt
    exact absurd hlt (by omega : ¬125 < count)

/-- **Read after write.**  Registers written with FC06 or FC16 are read back with FC03 exactly
when there is a mutex to take and every value has two equal bytes. -/
theorem read_after_write (w : WriteRequest) {start : UInt16} (h : InMap start w.values.length)
    (t t' : UInt16) (u u' : UInt8) (a : Assemblies) :
    (respond t' u' fcReadHoldingRegisters (readPdu start w.values.length)
        (respond t u w.functionCode (w.pdu start) a).1).2 =
      readResponse t' u' fcReadHoldingRegisters (wire w.values) ↔
    a.mutex = true ∧ ∀ v ∈ w.values, high v = low v := by
  rw [respond_write w h, respond_read h]
  cases hm : a.mutex with
  | false =>
    obtain ⟨hw, hr⟩ := map_no_mutex start (UInt16.ofNat w.values.length) (wire w.values) hm
    rw [hw, Option.getD_none, hr]
    simp only [Bool.false_eq_true, false_and, iff_false]
    exact sendException_ne_readResponse t' t' u' u' exIllegalDataAddress (wire w.values)
  | true =>
    obtain ⟨a', hw, hr⟩ := map_read_write h hm
    rw [hw, Option.getD_some, hr]
    simp only [true_and]
    constructor
    · intro hresp v hv
      have hwire := readResponse_inj hresp (by simp)
      have hmap : w.values.map swapped = w.values := wire_injective hwire
      rw [← swapped_eq_iff]
      exact List.map_inj_left.1 (hmap.trans (List.map_id _).symm) v hv
    · intro hall
      have hmap : w.values.map swapped = w.values :=
        (List.map_congr_left fun v hv => (swapped_eq_iff v).2 (hall v hv)).trans (List.map_id _)
      rw [hmap]

/-- Assemblies with nothing in them. -/
def Assemblies.zero : Assemblies :=
  ⟨Vector.replicate 32 0, Vector.replicate 32 0, Vector.replicate 10 0, true⟩

/-- A value with equal bytes comes back. -/
theorem read_after_write_palindrome :
    (respond 2 1 fcReadHoldingRegisters (readPdu 100 1)
        (respond 1 1 fcWriteSingleRegister (wire [100, 0x0101]) Assemblies.zero).1).2 =
      readResponse 2 1 fcReadHoldingRegisters (wire [0x0101]) :=
  (read_after_write (.single 0x0101) ⟨by decide, by decide⟩ 1 2 1 1 Assemblies.zero).2
    ⟨rfl, fun _ hv => by rw [List.mem_singleton.1 hv]; decide⟩

/-- 0x1234 comes back as 0x3412, and not as it was written. -/
theorem read_after_write_swapped :
    (respond 2 1 fcReadHoldingRegisters (readPdu 100 1)
        (respond 1 1 fcWriteSingleRegister (wire [100, 0x1234]) Assemblies.zero).1).2 =
      readResponse 2 1 fcReadHoldingRegisters (wire [0x3412]) ∧
    (respond 2 1 fcReadHoldingRegisters (readPdu 100 1)
        (respond 1 1 fcWriteSingleRegister (wire [100, 0x1234]) Assemblies.zero).1).2 ≠
      readResponse 2 1 fcReadHoldingRegisters (wire [0x1234]) := by
  decide +kernel

end GroundTruth.Modbus
