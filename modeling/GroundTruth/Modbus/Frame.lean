/-
# The frame of a response, and the arrays it is built in

`Modbus/Protocol` says what is sent.  This file says how: the handlers once more, with the arrays
they work in, of 9, 12 and 256 bytes and uninitialised, with every byte they write to them, and
with every byte of the request that they read.  An access outside an array, or behind the bytes
that were received, has no result.  What is sent is the list of the `send` calls.

* `Checked.modbusTcpHandleRequest_eq`: there always is a result, it does not depend on what the
  arrays held, and it is that of `Modbus/Segment`;
* `respond_framed`: a response is as long as its header says, and names the request it is for;
* `response_framing`: so every complete request is answered by exactly one such response.
-/
import GroundTruth.Lib.Memory
import GroundTruth.Modbus.Segment

namespace GroundTruth.Modbus

open GroundTruth.Lib

/-! ## 1. The handlers, with their arrays -/

namespace Checked

variable {n : Nat}

/-- A 16-bit field of the received bytes. -/
def field16 (pdu : Bytes) (i : Nat) : Option UInt16 := do
  let h ← pdu[i]?
  let l ← pdu[i + 1]?
  return glue h l

/-- The loop of the read functions, writing from `base` on. -/
def readRegisters (mem : Vector UInt8 n) (regOffset quantity : Nat) (buf : Bytes) (base : Nat) :
    Option Bytes :=
  (List.range quantity).foldlM
    (fun buf i => fill buf (base + i * 2) (fetchRegister mem (regOffset + i))) buf

/-- One turn of the loop of the write function, which reads from `data`. -/
def writeRegister (regOffset : Nat) (data : Bytes) (mem : Vector UInt8 n) (i : Nat) :
    Option (Vector UInt8 n) :=
  if (regOffset + i) * 2 + 1 < n then do
    let b0 ← data[i * 2]?
    let b1 ← data[i * 2 + 1]?
    return storeRegister mem (regOffset + i) b0 b1
  else some mem

/-- The loop of the write function. -/
def writeRegisters (mem : Vector UInt8 n) (regOffset quantity : Nat) (data : Bytes) :
    Option (Vector UInt8 n) :=
  (List.range quantity).foldlM (writeRegister regOffset data) mem

/-- `modbus_read_input_registers`, into `buf`; the inner `none` is `false`. -/
def modbusReadInputRegisters (startAddr quantity : UInt16) (a : Assemblies) (buf : Bytes)
    (base : Nat) : Option (Option Bytes) :=
  if startAddr.toNat > inputRegEnd ∨ quantity = 0 ∨
      startAddr.toNat + quantity.toNat > inputRegEnd + 1 then some none
  else if a.mutex = false then some none
  else (readRegisters a.data064 startAddr.toNat quantity.toNat buf base).map some

/-- `modbus_read_holding_registers`. -/
def modbusReadHoldingRegisters (startAddr quantity : UInt16) (a : Assemblies) (buf : Bytes)
    (base : Nat) : Option (Option Bytes) :=
  if inBlock startAddr quantity holdingRegOutputStart holdingRegOutputEnd then
    if a.mutex = false then some none
    else (readRegisters a.data096 (startAddr.toNat - holdingRegOutputStart) quantity.toNat buf
      base).map some
  else if inBlock startAddr quantity holdingRegConfigStart holdingRegConfigEnd then
    if a.mutex = false then some none
    else (readRegisters a.data097 (startAddr.toNat - holdingRegConfigStart) quantity.toNat buf
      base).map some
  else some none

/-- `modbus_write_holding_registers`. -/
def modbusWriteHoldingRegisters (startAddr quantity : UInt16) (data : Bytes) (a : Assemblies) :
    Option (Option Assemblies) :=
  if inBlock startAddr quantity holdingRegOutputStart holdingRegOutputEnd then
    if a.mutex = false then some none
    else (writeRegisters a.data096 (startAddr.toNat - holdingRegOutputStart) quantity.toNat
      data).map fun mem => some { a with data096 := mem }
  else if inBlock startAddr quantity holdingRegConfigStart holdingRegConfigEnd then
    if a.mutex = false then some none
    else (writeRegisters a.data097 (startAddr.toNat - holdingRegConfigStart) quantity.toNat
      data).map fun mem => some { a with data097 := mem }
  else some none

variable (garbage : Nat → UInt8)

/-- `modbus_write_holding_register`, with its array of two bytes. -/
def modbusWriteHoldingRegister (address value : UInt16) (a : Assemblies) :
    Option (Option Assemblies) := do
  let data ← fill (array garbage 2) 0 (uint16ToBigEndianBytes value)
  modbusWriteHoldingRegisters address 1 data a

/-- An array of `n` bytes, written from its start and sent: one call of `send`. -/
def sendFilled (n : Nat) (bytes : Bytes) : Option (List Bytes) := do
  let response ← fill (array garbage n) 0 bytes
  let sent ← sendArray response n
  return [sent]

/-- `send_exception`. -/
def sendException (transactionId : UInt16) (unitId functionCode exceptionCode : UInt8) :
    Option (List Bytes) :=
  sendFilled garbage 9 [high transactionId, low transactionId, 0x00, 0x00, 0x00, 0x03, unitId,
    functionCode ||| 0x80, exceptionCode]

/-- The end of the two write handlers. -/
def sendWriteResponse (transactionId : UInt16) (unitId functionCode : UInt8)
    (address value : UInt16) : Option (List Bytes) :=
  sendFilled garbage 12 [high transactionId, low transactionId, 0x00, 0x00, 0x00, 0x06, unitId,
    functionCode, high address, low address, high value, low value]

/-- The two read handlers. -/
def handleRead (functionCode : UInt8)
    (readMap : UInt16 → UInt16 → Assemblies → Bytes → Nat → Option (Option Bytes))
    (transactionId : UInt16) (unitId : UInt8) (pdu : Bytes) (a : Assemblies) :
    Option (List Bytes) :=
  if pdu.length < 4 then
    sendException garbage transactionId unitId functionCode exIllegalDataValue
  else do
    let startAddr ← field16 pdu 0
    let quantity ← field16 pdu 2
    if quantity = 0 ∨ 125 < quantity then
      sendException garbage transactionId unitId functionCode exIllegalDataValue
    else
      let responseDataSize := quantity.toNat * 2
      if 250 < responseDataSize then
        sendException garbage transactionId unitId functionCode exIllegalDataValue
      else
        let responseLen := 9 + responseDataSize
        let response ← fill (array garbage 256) 0 [high transactionId, low transactionId, 0x00, 0x00,
          high (UInt16.ofNat (responseLen - 6)), low (UInt16.ofNat (responseLen - 6)), unitId,
          functionCode, UInt8.ofNat responseDataSize]
        match ← readMap startAddr quantity a response 9 with
        | none => sendException garbage transactionId unitId functionCode exIllegalDataAddress
        | some response =>
          let sent ← sendArray response responseLen
          return [sent]

/-- `handle_read_holding_registers`. -/
def handleReadHoldingRegisters : UInt16 → UInt8 → Bytes → Assemblies → Option (List Bytes) :=
  handleRead garbage fcReadHoldingRegisters modbusReadHoldingRegisters

/-- `handle_read_input_registers`. -/
def handleReadInputRegisters : UInt16 → UInt8 → Bytes → Assemblies → Option (List Bytes) :=
  handleRead garbage fcReadInputRegisters modbusReadInputRegisters

/-- `handle_write_single_register`. -/
def handleWriteSingleRegister (transactionId : UInt16) (unitId : UInt8) (pdu : Bytes)
    (a : Assemblies) : Option (Assemblies × List Bytes) :=
  if pdu.length < 4 then do
    let sends ← sendException garbage transactionId unitId fcWriteSingleRegister exIllegalDataValue
    return (a, sends)
  else do
    let address ← field16 pdu 0
    let value ← field16 pdu 2
    match ← modbusWriteHoldingRegister garbage address value a with
    | none =>
      let sends ← sendException garbage transactionId unitId fcWriteSingleRegister
        exIllegalDataAddress
      return (a, sends)
    | some a' =>
      let sends ← sendWriteResponse garbage transactionId unitId fcWriteSingleRegister address value
      return (a', sends)

/-- `handle_write_multiple_registers`. -/
def handleWriteMultipleRegisters (transactionId : UInt16) (unitId : UInt8) (pdu : Bytes)
    (a : Assemblies) : Option (Assemblies × List Bytes) :=
  if pdu.length < 6 then do
    let sends ← sendException garbage transactionId unitId fcWriteMultipleRegisters
      exIllegalDataValue
    return (a, sends)
  else do
    let startAddr ← field16 pdu 0
    let quantity ← field16 pdu 2
    let byteCount ← pdu[4]?
    if quantity = 0 ∨ 123 < quantity ∨ byteCount.toNat ≠ quantity.toNat * 2 ∨
        pdu.length < 5 + byteCount.toNat then
      let sends ← sendException garbage transactionId unitId fcWriteMultipleRegisters
        exIllegalDataValue
      return (a, sends)
    else
      match ← modbusWriteHoldingRegisters startAddr quantity (pdu.drop 5) a with
      | none =>
        let sends ← sendException garbage transactionId unitId fcWriteMultipleRegisters
          exIllegalDataAddress
        return (a, sends)
      | some a' =>
        let sends ← sendWriteResponse garbage transactionId unitId fcWriteMultipleRegisters
          startAddr quantity
        return (a', sends)

/-- The `switch` of `modbus_tcp_handle_request`. -/
def respond (transactionId : UInt16) (unitId functionCode : UInt8) (pdu : Bytes)
    (a : Assemblies) : Option (Assemblies × List Bytes) :=
  if functionCode = fcReadHoldingRegisters then do
    return (a, ← handleReadHoldingRegisters garbage transactionId unitId pdu a)
  else if functionCode = fcReadInputRegisters then do
    return (a, ← handleReadInputRegisters garbage transactionId unitId pdu a)
  else if functionCode = fcWriteSingleRegister then
    handleWriteSingleRegister garbage transactionId unitId pdu a
  else if functionCode = fcWriteMultipleRegisters then
    handleWriteMultipleRegisters garbage transactionId unitId pdu a
  else do
    return (a, ← sendException garbage transactionId unitId functionCode exIllegalFunction)

/-- What a call leaves behind: as `Modbus.Handled`, with the `send` calls one by one. -/
structure Handled where
  stays : Bool
  sends : List Bytes
  assemblies : Assemblies
  conn : Conn

/-- `modbus_tcp_handle_request`.  The bytes that `recv` returns have to fit the array they are
written to, and are the bytes that may be read. -/
def modbusTcpHandleRequest (c : Conn) (a : Assemblies) : Option Handled :=
  match c.recv 6 with
  | (.closed, c) => some ⟨false, [], a, c⟩
  | (.reset, c) => some ⟨false, [], a, c⟩
  | (.wouldBlock, c) => some ⟨true, [], a, c⟩
  | (.failed, c) => some ⟨true, [], a, c⟩
  | (.data mbapHeader, c) => do
    let _ ← fill (array garbage 6) 0 mbapHeader
    if mbapHeader.length < 6 then return ⟨true, [], a, c⟩
    else
      let transactionId ← field16 mbapHeader 0
      let protocolId ← field16 mbapHeader 2
      let length ← field16 mbapHeader 4
      if protocolId ≠ 0 ∨ length.toNat < 2 ∨ 253 < length.toNat then return ⟨false, [], a, c⟩
      else
        match Conn.readExactly c.steps length.toNat c.rest [] with
        | none => return ⟨false, [], a, c⟩
        | some (pdu, c') =>
          let _ ← fill (array garbage 256) 0 pdu
          let unitId ← pdu[0]?
          let functionCode ← pdu[1]?
          let r ← respond garbage transactionId unitId functionCode (pdu.drop 2) a
          return ⟨true, r.2, r.1, c'⟩

/-! ## 2. There always is a result -/

theorem field16_eq {pdu : Bytes} {i : Nat} (h : i + 1 < pdu.length) :
    field16 pdu i = some (field pdu i) := by
  rw [field16, getElem?_eq_getD (by omega), getElem?_eq_getD h]
  rfl

/-- The loop writes the registers behind what stands before them. -/
theorem readRegisters_eq (mem : Vector UInt8 n) (regOffset quantity : Nat) {buf : Bytes}
    {base : Nat} (h : base + 2 * quantity ≤ buf.length) :
    readRegisters mem regOffset quantity buf base =
      some (buf.take base ++ Modbus.readRegisters mem regOffset quantity ++
        buf.drop (base + 2 * quantity)) := by
  have hloop := foldlM_fill (fun i => fetchRegister mem (regOffset + i))
    (fun i => fetchRegister_length mem (regOffset + i)) buf base quantity
  have hlen := readRegisters_length mem regOffset quantity
  rw [readRegisters, hloop, ← hlen]
  exact fill_eq (by rw [← hlen] at h; exact h)

/-- The loop finds two bytes for each register. -/
theorem writeRegisters_eq (mem : Vector UInt8 n) (regOffset quantity : Nat) {data : Bytes}
    (h : 2 * quantity ≤ data.length) :
    writeRegisters mem regOffset quantity data =
      some (Modbus.writeRegisters mem regOffset quantity data) := by
  unfold writeRegisters Modbus.writeRegisters
  induction quantity with
  | zero => rfl
  | succ q ih =>
    have hturn : ∀ mem : Vector UInt8 n, writeRegister regOffset data mem q =
        some (storeRegister mem (regOffset + q) (data.getD (q * 2) 0)
          (data.getD (q * 2 + 1) 0)) := by
      intro mem
      rw [writeRegister, getElem?_eq_getD (by omega), getElem?_eq_getD (by omega)]
      split
      · rfl
      · rename_i hout
        rw [storeRegister, dif_neg hout]
    rw [List.range_succ, List.foldlM_append, ih (by omega), List.foldl_append]
    simp [hturn]

/-- What a read function of the map has to do with an array that has room for the largest block:
write the registers behind the first `base` bytes, or write nothing. -/
def ReadsAs (checked : UInt16 → UInt16 → Assemblies → Bytes → Nat → Option (Option Bytes))
    (plain : UInt16 → UInt16 → Assemblies → Option Bytes) : Prop :=
  ∀ (startAddr quantity : UInt16) (a : Assemblies) (buf : Bytes) (base : Nat),
    base + 32 ≤ buf.length →
    checked startAddr quantity a buf base =
        some ((plain startAddr quantity a).map fun data =>
          buf.take base ++ data ++ buf.drop (base + data.length)) ∧
      ∀ data, plain startAddr quantity a = some data → data.length = 2 * quantity.toNat

theorem readsAs_block {mem : Vector UInt8 n} {regOffset quantity : Nat} {buf : Bytes}
    {base : Nat} (hq : quantity ≤ 16) (hroom : base + 32 ≤ buf.length) :
    (readRegisters mem regOffset quantity buf base).map some =
        some ((some (Modbus.readRegisters mem regOffset quantity)).map fun data =>
          buf.take base ++ data ++ buf.drop (base + data.length)) ∧
      ∀ data, some (Modbus.readRegisters mem regOffset quantity) = some data →
        data.length = 2 * quantity := by
  have hlen := readRegisters_length mem regOffset quantity
  constructor
  · rw [readRegisters_eq mem regOffset quantity (by omega), Option.map_some, Option.map_some, hlen]
  · intro data hdata
    rw [← Option.some.inj hdata, hlen]

theorem modbusReadInputRegisters_eq :
    ReadsAs modbusReadInputRegisters Modbus.modbusReadInputRegisters := by
  intro startAddr quantity a buf base hroom
  unfold modbusReadInputRegisters Modbus.modbusReadInputRegisters
  split
  · exact ⟨rfl, fun data h => by cases h⟩
  · rename_i hrange
    split
    · exact ⟨rfl, fun data h => by cases h⟩
    · refine readsAs_block ?_ hroom
      simp only [inputRegEnd] at hrange
      omega

theorem modbusReadHoldingRegisters_eq :
    ReadsAs modbusReadHoldingRegisters Modbus.modbusReadHoldingRegisters := by
  intro startAddr quantity a buf base hroom
  unfold modbusReadHoldingRegisters Modbus.modbusReadHoldingRegisters
  split
  · rename_i hin
    rw [inBlock_iff, holdingRegOutputStart, holdingRegOutputEnd] at hin
    split
    · exact ⟨rfl, fun data h => by cases h⟩
    · exact readsAs_block (by omega) hroom
  · split
    · rename_i hin
      rw [inBlock_iff, holdingRegConfigStart, holdingRegConfigEnd] at hin
      split
      · exact ⟨rfl, fun data h => by cases h⟩
      · exact readsAs_block (by omega) hroom
    · exact ⟨rfl, fun data h => by cases h⟩

theorem modbusWriteHoldingRegisters_eq (startAddr quantity : UInt16) {data : Bytes}
    (a : Assemblies) (h : 2 * quantity.toNat ≤ data.length) :
    modbusWriteHoldingRegisters startAddr quantity data a =
      some (Modbus.modbusWriteHoldingRegisters startAddr quantity data a) := by
  unfold modbusWriteHoldingRegisters Modbus.modbusWriteHoldingRegisters
  rw [writeRegisters_eq _ _ _ h, writeRegisters_eq _ _ _ h]
  split
  · split
    · rfl
    · rfl
  · split
    · split
      · rfl
      · rfl
    · rfl

variable {garbage : Nat → UInt8}

/-- An array that is written from end to end holds what was written. -/
theorem fill_array {size : Nat} {bytes : Bytes} (h : bytes.length = size) :
    fill (array garbage size) 0 bytes = some bytes := by
  have hdrop : (array garbage size).drop (0 + bytes.length) = [] :=
    List.drop_eq_nil_of_le (by rw [array_length]; omega)
  rw [fill_eq (by rw [array_length]; omega), hdrop, List.take_zero, List.nil_append,
    List.append_nil]

theorem modbusWriteHoldingRegister_eq (address value : UInt16) (a : Assemblies) :
    modbusWriteHoldingRegister garbage address value a =
      some (Modbus.modbusWriteHoldingRegister address value a) := by
  have hdata : fill (array garbage 2) 0 (uint16ToBigEndianBytes value) =
      some (uint16ToBigEndianBytes value) := fill_array rfl
  rw [modbusWriteHoldingRegister, hdata]
  exact modbusWriteHoldingRegisters_eq address 1 a (Nat.le_refl 2)

theorem sendFilled_eq {size : Nat} {bytes : Bytes} (h : bytes.length = size) :
    sendFilled garbage size bytes = some [bytes] := by
  have hsend : sendArray bytes size = some bytes := by
    rw [sendArray, if_pos (Nat.le_of_eq h.symm), ← h, List.take_length]
  simp [sendFilled, fill_array h, hsend]

theorem sendException_eq (transactionId : UInt16) (unitId functionCode exceptionCode : UInt8) :
    sendException garbage transactionId unitId functionCode exceptionCode =
      some [Modbus.sendException transactionId unitId functionCode exceptionCode] := sendFilled_eq rfl

theorem sendWriteResponse_eq (transactionId : UInt16) (unitId functionCode : UInt8)
    (address value : UInt16) :
    sendWriteResponse garbage transactionId unitId functionCode address value =
      some [writeResponse transactionId unitId functionCode address value] := sendFilled_eq rfl

/-- The header of a response to a read in its array, with room for the registers. -/
theorem fill_header {header : Bytes} (h : header.length = 9) :
    ∃ response, fill (array garbage 256) 0 header = some response ∧ response.length = 256 ∧
      response.take 9 = header := by
  refine ⟨_, fill_eq (by rw [array_length, h]; decide), ?_, ?_⟩
  · simp [h]
  · rw [List.take_zero, List.nil_append, List.take_append_of_le_length (by omega),
      List.take_of_length_le (by omega)]

/-- What stands at the front of the array is sent. -/
theorem sendArray_append (size : Nat) {header data rest : Bytes} (h : header.length = size) :
    sendArray (header ++ data ++ rest) (size + data.length) = some (header ++ data) := by
  have hlen : (header ++ data).length = size + data.length := by
    rw [List.length_append, h]
  rw [sendArray, ← hlen, if_pos (by rw [@List.length_append _ (header ++ data)]; omega),
    List.take_left]

/-- **The read handlers.**  Their array of 256 bytes would be too small for the 125 registers that
they admit, but the map has no block of more than 16. -/
theorem handleRead_eq (functionCode : UInt8) {checked plain} (h : ReadsAs checked plain)
    (transactionId : UInt16) (unitId : UInt8) (pdu : Bytes) (a : Assemblies) :
    handleRead garbage functionCode checked transactionId unitId pdu a =
      some [Modbus.handleRead functionCode plain transactionId unitId pdu a] := by
  unfold handleRead Modbus.handleRead
  simp only [sendException_eq]
  split
  · rfl
  · rename_i hlen
    rw [field16_eq (by omega), field16_eq (by omega)]
    simp only [Option.bind_eq_bind, Option.bind_some]
    split
    · rfl
    · split
      · rfl
      · obtain ⟨response, hfill, hroom, hheader⟩ := @fill_header garbage
          [high transactionId, low transactionId, 0x00, 0x00,
            high (UInt16.ofNat (9 + (field pdu 2).toNat * 2 - 6)),
            low (UInt16.ofNat (9 + (field pdu 2).toNat * 2 - 6)), unitId, functionCode,
            UInt8.ofNat ((field pdu 2).toNat * 2)] rfl
        obtain ⟨hread, hdata⟩ := h (field pdu 0) (field pdu 2) a response 9 (by omega)
        rw [hfill, Option.bind_some, hread, hheader, Option.bind_some]
        cases hplain : plain (field pdu 0) (field pdu 2) a with
        | none => rfl
        | some data =>
          have hlen := hdata data hplain
          have hsize : (field pdu 2).toNat * 2 = data.length := by omega
          simp only [hsize, Option.map_some]
          rw [sendArray_append 9 rfl]
          rfl

theorem handleWriteSingleRegister_eq (transactionId : UInt16) (unitId : UInt8) (pdu : Bytes)
    (a : Assemblies) :
    ∃ a' response, Modbus.handleWriteSingleRegister transactionId unitId pdu a = (a', response) ∧
      handleWriteSingleRegister garbage transactionId unitId pdu a = some (a', [response]) := by
  unfold handleWriteSingleRegister Modbus.handleWriteSingleRegister
  simp only [sendException_eq, sendWriteResponse_eq]
  split
  · exact ⟨_, _, rfl, rfl⟩
  · rw [field16_eq (by omega), field16_eq (by omega)]
    simp only [Option.bind_eq_bind, Option.bind_some, modbusWriteHoldingRegister_eq]
    cases Modbus.modbusWriteHoldingRegister (field pdu 0) (field pdu 2) a with
    | none => exact ⟨_, _, rfl, rfl⟩
    | some a' => exact ⟨_, _, rfl, rfl⟩

theorem handleWriteMultipleRegisters_eq (transactionId : UInt16) (unitId : UInt8) (pdu : Bytes)
    (a : Assemblies) :
    ∃ a' response,
      Modbus.handleWriteMultipleRegisters transactionId unitId pdu a = (a', response) ∧
      handleWriteMultipleRegisters garbage transactionId unitId pdu a = some (a', [response]) := by
  unfold handleWriteMultipleRegisters Modbus.handleWriteMultipleRegisters
  simp only [sendException_eq, sendWriteResponse_eq]
  split
  · exact ⟨_, _, rfl, rfl⟩
  · rw [field16_eq (by omega), field16_eq (by omega), getElem?_eq_getD (by omega)]
    simp only [Option.bind_eq_bind, Option.bind_some]
    split
    · exact ⟨_, _, rfl, rfl⟩
    · rename_i hvalid
      rw [modbusWriteHoldingRegisters_eq _ _ _ (by rw [List.length_drop]; omega)]
      simp only [Option.bind_some]
      cases Modbus.modbusWriteHoldingRegisters (field pdu 0) (field pdu 2) (pdu.drop 5) a with
      | none => exact ⟨_, _, rfl, rfl⟩
      | some a' => exact ⟨_, _, rfl, rfl⟩

/-- **Every function code** is answered by one call of `send`, with what `Modbus.respond` says. -/
theorem respond_eq (transactionId : UInt16) (unitId functionCode : UInt8) (pdu : Bytes)
    (a : Assemblies) :
    respond garbage transactionId unitId functionCode pdu a =
      some ((Modbus.respond transactionId unitId functionCode pdu a).1,
        [(Modbus.respond transactionId unitId functionCode pdu a).2]) := by
  unfold respond Modbus.respond
  split
  · rw [handleReadHoldingRegisters, handleRead_eq _ modbusReadHoldingRegisters_eq]
    rfl
  · split
    · rw [handleReadInputRegisters, handleRead_eq _ modbusReadInputRegisters_eq]
      rfl
    · split
      · obtain ⟨a', response, hplain, hchecked⟩ :=
          @handleWriteSingleRegister_eq garbage transactionId unitId pdu a
        rw [hplain, hchecked]
      · split
        · obtain ⟨a', response, hplain, hchecked⟩ :=
            @handleWriteMultipleRegisters_eq garbage transactionId unitId pdu a
          rw [hplain, hchecked]
        · rw [sendException_eq]
          rfl

/-- **There always is a result**, and it is that of the handler without arrays: no access is
outside an array or behind the received bytes, whatever is received and in whatever pieces. -/
theorem modbusTcpHandleRequest_eq (garbage : Nat → UInt8) (c : Conn) (a : Assemblies) :
    ∃ sends, modbusTcpHandleRequest garbage c a =
        some ⟨(Modbus.modbusTcpHandleRequest c a).stays, sends,
          (Modbus.modbusTcpHandleRequest c a).assemblies,
          (Modbus.modbusTcpHandleRequest c a).conn⟩ ∧
      sends.flatten = (Modbus.modbusTcpHandleRequest c a).sent := by
  unfold modbusTcpHandleRequest Modbus.modbusTcpHandleRequest
  cases hrecv : c.recv 6 with
  | mk result c1 =>
    cases result with
    | closed => exact ⟨[], rfl, rfl⟩
    | reset => exact ⟨[], rfl, rfl⟩
    | wouldBlock => exact ⟨[], rfl, rfl⟩
    | failed => exact ⟨[], rfl, rfl⟩
    | data mbapHeader =>
      have hle : mbapHeader.length ≤ 6 := Conn.recv_length hrecv
      dsimp only
      rw [fill_eq (by rw [array_length]; omega)]
      simp only [Option.bind_eq_bind, Option.bind_some]
      split
      · exact ⟨[], rfl, rfl⟩
      · rw [field16_eq (by omega), field16_eq (by omega), field16_eq (by omega)]
        simp only [Option.bind_some]
        split
        · exact ⟨[], rfl, rfl⟩
        · rename_i hgood
          cases hread : Conn.readExactly c1.steps (field mbapHeader 4).toNat c1.rest [] with
          | none => exact ⟨[], rfl, rfl⟩
          | some r =>
            obtain ⟨pdu, c2⟩ := r
            have hlen : pdu.length = (field mbapHeader 4).toNat := by
              have := Conn.readExactly_length hread
              simpa using this
            dsimp only
            rw [fill_eq (by rw [array_length]; omega), getElem?_eq_getD (by omega),
              getElem?_eq_getD (by omega)]
            simp only [Option.bind_some, respond_eq]
            exact ⟨[_], rfl, List.flatten_singleton⟩
end Checked

/-! ## 3. The frame -/

/-- A response to this request: as long as its header says, with the ids of the request and its
function code, as it is or with bit 7 set. -/
structure Framed (transactionId : UInt16) (unitId functionCode : UInt8) (response : Bytes) :
    Prop where
  length : response.length = 6 + (field response 4).toNat
  transactionId : field response 0 = transactionId
  protocolId : field response 2 = 0
  unitId : response[6]? = some unitId
  functionCode : response[7]? = some functionCode ∨ response[7]? = some (functionCode ||| 0x80)

section

variable (transactionId : UInt16) (unitId functionCode : UInt8)

theorem glue_zero : glue 0 0 = 0 := by decide

theorem sendException_framed (exceptionCode : UInt8) : Framed transactionId unitId functionCode
    (sendException transactionId unitId functionCode exceptionCode) :=
  ⟨(by decide : 9 = 6 + (glue 0 3).toNat), glue_high_low _, glue_zero, rfl, Or.inr rfl⟩

theorem writeResponse_framed (address value : UInt16) : Framed transactionId unitId functionCode
    (writeResponse transactionId unitId functionCode address value) :=
  ⟨(by decide : 12 = 6 + (glue 0 6).toNat), glue_high_low _, glue_zero, rfl, Or.inl rfl⟩

theorem readResponse_framed {data : Bytes} (h : data.length ≤ 250) :
    Framed transactionId unitId functionCode
      (readResponse transactionId unitId functionCode data) := by
  have hfield : field (readResponse transactionId unitId functionCode data) 4 =
      UInt16.ofNat (9 + data.length - 6) := glue_high_low _
  have hlen : (readResponse transactionId unitId functionCode data).length =
      9 + data.length := by
    simp [readResponse]
    omega
  have hnat : (UInt16.ofNat (9 + data.length - 6)).toNat = 9 + data.length - 6 :=
    UInt16.toNat_ofNat_of_lt (by omega : 9 + data.length - 6 < 65536)
  refine ⟨?_, glue_high_low _, glue_zero, rfl, Or.inl rfl⟩
  rw [hlen, hfield, hnat]
  omega

theorem handleRead_framed {checked plain} (h : Checked.ReadsAs checked plain) (pdu : Bytes)
    (a : Assemblies) : Framed transactionId unitId functionCode
      (handleRead functionCode plain transactionId unitId pdu a) := by
  unfold handleRead
  split
  · exact sendException_framed _ _ _ _
  · dsimp only
    split
    · exact sendException_framed _ _ _ _
    · split
      · exact sendException_framed _ _ _ _
      · rename_i hsize
        split
        · exact sendException_framed _ _ _ _
        · rename_i data hplain
          have hlen := (h (field pdu 0) (field pdu 2) a (List.replicate 32 0) 0 (by simp)).2 data
            hplain
          exact readResponse_framed _ _ _ (by omega)

theorem handleWriteSingleRegister_framed (pdu : Bytes) (a : Assemblies) :
    Framed transactionId unitId fcWriteSingleRegister
      (handleWriteSingleRegister transactionId unitId pdu a).2 := by
  unfold handleWriteSingleRegister
  split
  · exact sendException_framed _ _ _ _
  · dsimp only
    split
    · exact sendException_framed _ _ _ _
    · exact writeResponse_framed _ _ _ _ _

theorem handleWriteMultipleRegisters_framed (pdu : Bytes) (a : Assemblies) :
    Framed transactionId unitId fcWriteMultipleRegisters
      (handleWriteMultipleRegisters transactionId unitId pdu a).2 := by
  unfold handleWriteMultipleRegisters
  split
  · exact sendException_framed _ _ _ _
  · dsimp only
    split
    · exact sendException_framed _ _ _ _
    · split
      · exact sendException_framed _ _ _ _
      · exact writeResponse_framed _ _ _ _ _

/-- **Every branch of the switch** frames its response. -/
theorem respond_framed (pdu : Bytes) (a : Assemblies) :
    Framed transactionId unitId functionCode
      (respond transactionId unitId functionCode pdu a).2 := by
  unfold respond
  split
  · rename_i hfc
    rw [hfc]
    exact handleRead_framed _ _ _ Checked.modbusReadHoldingRegisters_eq pdu a
  · split
    · rename_i hfc
      rw [hfc]
      exact handleRead_framed _ _ _ Checked.modbusReadInputRegisters_eq pdu a
    · split
      · rename_i hfc
        rw [hfc]
        exact handleWriteSingleRegister_framed _ _ pdu a
      · split
        · rename_i hfc
          rw [hfc]
          exact handleWriteMultipleRegisters_framed _ _ pdu a
        · exact sendException_framed _ _ _ _

end

/-! ## 4. One request, one response -/

/-- **Response framing**: a complete request, however its bytes came in, is answered by exactly
one response, framed for it; and no access on the way is outside an array or behind what was
received. -/
theorem response_framing (garbage : Nat → UInt8) (r : Adu) (c c1 c2 : Conn)
    (hheader : c.recv 6 = (.data r.header, c1))
    (hbody : Conn.readExactly c1.steps r.length c1.rest [] = some (r.body, c2))
    (a : Assemblies) :
    ∃ response a', Checked.modbusTcpHandleRequest garbage c a =
        some ⟨true, [response], a', c2⟩ ∧
      Framed r.transactionId (r.body.getD 0 0) (r.body.getD 1 0) response := by
  have hproto : field r.header 2 = 0 := glue_high_low _
  have htid : field r.header 0 = r.transactionId := glue_high_low _
  have h2 := r.two_le
  have h253 := r.le_253
  have hgood : ¬(field r.header 2 ≠ 0 ∨ r.length < 2 ∨ 253 < r.length) := by
    rw [hproto, Adu.length]
    simp only [ne_eq, not_true_eq_false, false_or]
    omega
  have hlong : ¬r.header.length < 6 := by simp
  have hlength := r.header_length
  refine ⟨_, (r.respondTo a).1, ?_, respond_framed _ _ _ (r.body.drop 2) a⟩
  unfold Checked.modbusTcpHandleRequest
  rw [hheader]
  dsimp only
  rw [fill_eq (by rw [array_length]; omega), Checked.field16_eq (by omega),
    Checked.field16_eq (by omega), Checked.field16_eq (by omega)]
  simp only [Option.bind_eq_bind, Option.bind_some, if_neg hlong, r.length_field, if_neg hgood,
    hbody, htid]
  rw [fill_eq (by rw [array_length]; omega), getElem?_eq_getD (by omega),
    getElem?_eq_getD (by omega)]
  simp only [Option.bind_some, Checked.respond_eq]
  rfl

/-- FC03, one register from 100. -/
def readRequest : Adu where
  transactionId := 7
  body := [1, 3, 0, 100, 0, 1]
  two_le := by decide
  le_253 := by decide

/-- The header in one piece, the body byte by byte. -/
theorem response_framing_read : ∃ response a',
    Checked.modbusTcpHandleRequest (fun _ => 0xAA)
        ⟨readRequest.bytes, [.bytes 6, .bytes 1, .bytes 1]⟩ Assemblies.zero =
      some ⟨true, [response], a', ⟨[], []⟩⟩ ∧ Framed 7 1 3 response :=
  response_framing (fun _ => 0xAA) readRequest
    ⟨readRequest.bytes, [.bytes 6, .bytes 1, .bytes 1]⟩
    ⟨readRequest.body, [.bytes 1, .bytes 1]⟩ ⟨[], []⟩ rfl rfl Assemblies.zero

end GroundTruth.Modbus
