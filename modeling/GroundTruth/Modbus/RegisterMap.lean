/-
# The Modbus register map: `modbus_register_map.c`

The three assemblies the EtherNet/IP side shares with Modbus, and the functions that read and
write them as registers.  Holding registers 100 to 115 are assembly 150 and 150 to 154 are
assembly 151; input registers 0 to 15 are assembly 100.

The map is meant to keep registers in the assemblies low byte first.  Reading does that: it swaps
the two bytes it finds.  Writing swaps twice, once when it decodes and once when it stores
(`storeRegister`), so it keeps them high byte first: `storeRegister_eq`.
-/
import GroundTruth.Lib.Bytes

namespace GroundTruth.Modbus

open GroundTruth.Lib

/-! ## 1. The assemblies -/

structure Assemblies where
  /-- `g_assembly_data064`: input assembly 100 -/
  data064 : Vector UInt8 32
  /-- `g_assembly_data096`: output assembly 150 -/
  data096 : Vector UInt8 32
  /-- `g_assembly_data097`: config assembly 151 -/
  data097 : Vector UInt8 10
  /-- `sample_application_get_assembly_mutex` returns a mutex -/
  mutex : Bool
  deriving DecidableEq

def inputRegEnd : Nat := 15
def holdingRegOutputStart : Nat := 100
def holdingRegOutputEnd : Nat := 115
def holdingRegConfigStart : Nat := 150
def holdingRegConfigEnd : Nat := 154

/-! ## 2. Byte order -/

/-- `bytes_to_big_endian_uint16`. -/
def bytesToBigEndianUint16 (b0 b1 : UInt8) : UInt16 := (b0.toUInt16 <<< 8) ||| b1.toUInt16

/-- `uint16_to_big_endian_bytes`. -/
def uint16ToBigEndianBytes (value : UInt16) : Bytes :=
  [((value >>> 8) &&& 0xFF).toUInt8, (value &&& 0xFF).toUInt8]

/-- `big_endian_to_little_endian`. -/
def bigEndianToLittleEndian (beValue : UInt16) : UInt16 :=
  ((beValue &&& 0xFF) <<< 8) ||| ((beValue >>> 8) &&& 0xFF)

/-! ## 3. One register -/

variable {n : Nat}

/-- The two bytes the read loops produce for a register. -/
def fetchRegister (mem : Vector UInt8 n) (reg : Nat) : Bytes :=
  if h : reg * 2 + 1 < n then [mem[reg * 2 + 1], mem[reg * 2]] else [0, 0]

/-- What the write loops do with the two bytes of a register. -/
def storeRegister (mem : Vector UInt8 n) (reg : Nat) (b0 b1 : UInt8) : Vector UInt8 n :=
  let beValue := bytesToBigEndianUint16 b0 b1
  let leValue := bigEndianToLittleEndian beValue
  if h : reg * 2 + 1 < n then
    (mem.set (reg * 2) (leValue &&& 0xFF).toUInt8).set (reg * 2 + 1)
      ((leValue >>> 8) &&& 0xFF).toUInt8
  else mem

/-- The loop of the three read functions. -/
def readRegisters (mem : Vector UInt8 n) (regOffset quantity : Nat) : Bytes :=
  (List.range quantity).flatMap fun i => fetchRegister mem (regOffset + i)

/-- The loop of the write function; `data` is the caller's buffer. -/
def writeRegisters (mem : Vector UInt8 n) (regOffset quantity : Nat) (data : Bytes) :
    Vector UInt8 n :=
  (List.range quantity).foldl
    (fun mem i => storeRegister mem (regOffset + i) (data.getD (i * 2) 0)
      (data.getD (i * 2 + 1) 0)) mem

/-! ## 4. The functions of the map -/

/-- `modbus_read_input_registers`. -/
def modbusReadInputRegisters (startAddr quantity : UInt16) (a : Assemblies) : Option Bytes :=
  if startAddr.toNat > inputRegEnd ∨ quantity = 0 ∨
      startAddr.toNat + quantity.toNat > inputRegEnd + 1 then none
  else if a.mutex = false then none
  else some (readRegisters a.data064 startAddr.toNat quantity.toNat)

/-- The registers lie in the block from `first` to `last`. -/
def inBlock (startAddr quantity : UInt16) (first last : Nat) : Bool :=
  decide (first ≤ startAddr.toNat) && decide (startAddr.toNat + quantity.toNat ≤ last + 1)

theorem inBlock_iff {startAddr quantity : UInt16} {first last : Nat} :
    inBlock startAddr quantity first last = true ↔
      first ≤ startAddr.toNat ∧ startAddr.toNat + quantity.toNat ≤ last + 1 := by
  simp [inBlock]

/-- `modbus_read_holding_registers`. -/
def modbusReadHoldingRegisters (startAddr quantity : UInt16) (a : Assemblies) : Option Bytes :=
  if inBlock startAddr quantity holdingRegOutputStart holdingRegOutputEnd then
    if a.mutex = false then none
    else some (readRegisters a.data096 (startAddr.toNat - holdingRegOutputStart)
      quantity.toNat)
  else if inBlock startAddr quantity holdingRegConfigStart holdingRegConfigEnd then
    if a.mutex = false then none
    else some (readRegisters a.data097 (startAddr.toNat - holdingRegConfigStart)
      quantity.toNat)
  else none

/-- `modbus_write_holding_registers`. -/
def modbusWriteHoldingRegisters (startAddr quantity : UInt16) (data : Bytes) (a : Assemblies) :
    Option Assemblies :=
  if inBlock startAddr quantity holdingRegOutputStart holdingRegOutputEnd then
    if a.mutex = false then none
    else some { a with
      data096 := writeRegisters a.data096 (startAddr.toNat - holdingRegOutputStart)
        quantity.toNat data }
  else if inBlock startAddr quantity holdingRegConfigStart holdingRegConfigEnd then
    if a.mutex = false then none
    else some { a with
      data097 := writeRegisters a.data097 (startAddr.toNat - holdingRegConfigStart)
        quantity.toNat data }
  else none

/-- `modbus_write_holding_register`. -/
def modbusWriteHoldingRegister (address value : UInt16) (a : Assemblies) : Option Assemblies :=
  modbusWriteHoldingRegisters address 1 (uint16ToBigEndianBytes value) a

/-! ## 5. What a write leaves, and what a read finds -/

/-- `big_endian_to_little_endian` swaps the two bytes. -/
theorem bigEndianToLittleEndian_eq (v : UInt16) :
    bigEndianToLittleEndian v = glue (low v) (high v) := by
  rw [bigEndianToLittleEndian, glue, low_toUInt16, high_toUInt16]

/-- **The two swaps of the write path cancel**: a register is kept high byte first. -/
theorem storeRegister_eq (mem : Vector UInt8 n) {reg : Nat} (h : reg * 2 + 1 < n)
    (b0 b1 : UInt8) :
    storeRegister mem reg b0 b1 = (mem.set (reg * 2) b0).set (reg * 2 + 1) b1 := by
  have hv : bigEndianToLittleEndian (bytesToBigEndianUint16 b0 b1) = glue b1 b0 := by
    have hglue : bytesToBigEndianUint16 b0 b1 = glue b0 b1 := rfl
    rw [bigEndianToLittleEndian_eq, hglue, low_glue, high_glue]
  simp only [storeRegister, dif_pos h, hv]
  have hlow : (glue b1 b0 &&& 0xFF).toUInt8 = b0 := low_glue b1 b0
  have hhigh : ((glue b1 b0 >>> 8) &&& 0xFF).toUInt8 = b1 := high_glue b1 b0
  rw [hlow, hhigh]

/-- A stored register, and its neighbours. -/
theorem storeRegister_get (mem : Vector UInt8 n) {reg : Nat} (h : reg * 2 + 1 < n)
    (b0 b1 : UInt8) {j : Nat} (hj : j < n) :
    (storeRegister mem reg b0 b1)[j] =
      if j = reg * 2 then b0 else if j = reg * 2 + 1 then b1 else mem[j] := by
  rw [storeRegister_eq mem h, Vector.getElem_set, Vector.getElem_set]
  by_cases h0 : j = reg * 2
  · have h1 : ¬reg * 2 + 1 = j := by omega
    rw [if_neg h1, if_pos h0.symm, if_pos h0]
  · by_cases h1 : j = reg * 2 + 1
    · rw [if_pos h1.symm, if_neg h0, if_pos h1]
    · rw [if_neg (Ne.symm h1), if_neg (Ne.symm h0), if_neg h0, if_neg h1]

theorem writeRegisters_succ (mem : Vector UInt8 n) (regOffset quantity : Nat) (data : Bytes) :
    writeRegisters mem regOffset (quantity + 1) data =
      storeRegister (writeRegisters mem regOffset quantity data) (regOffset + quantity)
        (data.getD (quantity * 2) 0) (data.getD (quantity * 2 + 1) 0) := by
  simp [writeRegisters, List.range_succ]

/-- **What a write leaves**: the caller's bytes in the block, in the caller's order. -/
theorem writeRegisters_get (mem : Vector UInt8 n) (regOffset quantity : Nat) (data : Bytes)
    (h : (regOffset + quantity) * 2 ≤ n) {j : Nat} (hj : j < n) :
    (writeRegisters mem regOffset quantity data)[j] =
      if regOffset * 2 ≤ j ∧ j < (regOffset + quantity) * 2 then
        data.getD (j - regOffset * 2) 0
      else mem[j] := by
  induction quantity with
  | zero =>
    have hout : ¬(regOffset * 2 ≤ j ∧ j < (regOffset + 0) * 2) := by omega
    rw [if_neg hout]
    rfl
  | succ quantity ih =>
    have hih := ih (by omega)
    have hreg : (regOffset + quantity) * 2 + 1 < n := by omega
    have hcell := storeRegister_get (writeRegisters mem regOffset quantity data) hreg
      (data.getD (quantity * 2) 0) (data.getD (quantity * 2 + 1) 0) hj
    simp only [writeRegisters_succ, hcell]
    by_cases h0 : j = (regOffset + quantity) * 2
    · have hin : regOffset * 2 ≤ j ∧ j < (regOffset + (quantity + 1)) * 2 := by omega
      have hoff : j - regOffset * 2 = quantity * 2 := by omega
      rw [if_pos h0, if_pos hin, hoff]
    · by_cases h1 : j = (regOffset + quantity) * 2 + 1
      · have hin : regOffset * 2 ≤ j ∧ j < (regOffset + (quantity + 1)) * 2 := by omega
        have hoff : j - regOffset * 2 = quantity * 2 + 1 := by omega
        rw [if_neg h0, if_pos h1, if_pos hin, hoff]
      · have hiff : (regOffset * 2 ≤ j ∧ j < (regOffset + (quantity + 1)) * 2) ↔
            (regOffset * 2 ≤ j ∧ j < (regOffset + quantity) * 2) := by omega
        rw [if_neg h0, if_neg h1, hih]
        simp only [hiff]

theorem readRegisters_succ (mem : Vector UInt8 n) (regOffset quantity : Nat) :
    readRegisters mem regOffset (quantity + 1) =
      readRegisters mem regOffset quantity ++ fetchRegister mem (regOffset + quantity) := by
  simp [readRegisters, List.range_succ]

theorem fetchRegister_length (mem : Vector UInt8 n) (reg : Nat) :
    (fetchRegister mem reg).length = 2 := by
  unfold fetchRegister
  split
  · rfl
  · rfl

theorem readRegisters_length (mem : Vector UInt8 n) (regOffset quantity : Nat) :
    (readRegisters mem regOffset quantity).length = 2 * quantity := by
  induction quantity with
  | zero => rfl
  | succ quantity ih =>
    rw [readRegisters_succ, List.length_append, ih, fetchRegister_length]
    rfl

/-- A value with its two bytes exchanged. -/
def swapped (v : UInt16) : UInt16 := glue (low v) (high v)

/-- **What a read finds after a write**: every value with its bytes exchanged. -/
theorem readRegisters_writeRegisters (mem : Vector UInt8 n) (regOffset : Nat)
    (vs : List UInt16) (h : (regOffset + vs.length) * 2 ≤ n) :
    readRegisters (writeRegisters mem regOffset vs.length (wire vs)) regOffset vs.length =
      wire (vs.map swapped) := by
  suffices hk : ∀ k ≤ vs.length,
      readRegisters (writeRegisters mem regOffset vs.length (wire vs)) regOffset k =
        wire ((vs.take k).map swapped) by
    simpa using hk vs.length (Nat.le_refl _)
  intro k hk
  induction k with
  | zero => rfl
  | succ k ih =>
    have hlt : k < vs.length := hk
    have hreg : (regOffset + k) * 2 + 1 < n := by omega
    obtain ⟨hhigh, hlow⟩ := wire_getD vs hlt
    have h0 := writeRegisters_get mem regOffset vs.length (wire vs) h
      (by omega : (regOffset + k) * 2 < n)
    have h1 := writeRegisters_get mem regOffset vs.length (wire vs) h hreg
    have hfirst : (regOffset + k) * 2 - regOffset * 2 = 2 * k := by omega
    have hsecond : (regOffset + k) * 2 + 1 - regOffset * 2 = 2 * k + 1 := by omega
    rw [if_pos (by omega), hfirst, hhigh] at h0
    rw [if_pos (by omega), hsecond, hlow] at h1
    rw [readRegisters_succ, ih (by omega), fetchRegister, dif_pos hreg, h0, h1,
      List.take_succ_eq_append_getElem hlt, List.map_append, wire_append]
    simp [swapped]

/-- Exchanging its bytes leaves a value alone exactly when they are equal. -/
theorem swapped_eq_iff (v : UInt16) : swapped v = v ↔ high v = low v := by
  constructor
  · intro h
    have := congrArg low h
    rwa [swapped, low_glue] at this
  · intro h
    rw [swapped, ← h]
    conv_rhs => rw [← glue_high_low v, ← h]

end GroundTruth.Modbus
