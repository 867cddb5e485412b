/-
# The block of the IMU in assembly 100

`imu_io_task` has five scaled `int32_t` values and writes them into assembly 100 as 20 bytes, each
of them shifted and masked out of its value.  Three decoders read them there: the status handlers of
the two sensors, which copy four bytes into an `int32_t` on a machine whose low byte comes first,
and `ParseMpu6050Data` of the WinUI program, which has `BitConverter.ToInt32`.

* `packByte_eq`: a byte shifted out arithmetically is the byte of the word;
* `ImuScaled.pack_eq`: so the block is the words of the values, the low byte of each first;
* `getElem?_memcpy_outside`, `getElem?_memset`: what a write leaves alone, and what it makes;
* `imu_block`: the decoders have the values back, and nothing else in the assembly changes.
-/
import GroundTruth.Imu.Offset

namespace GroundTruth.Imu

open GroundTruth.Lib GroundTruth.Web

/-! ## 1. The task -/

/-- The five scaled values. -/
structure ImuScaled where
  roll : Int32
  pitch : Int32
  groundAngle : Int32
  bottomPressure : Int32
  topPressure : Int32
  deriving DecidableEq, Repr

/-- `(uint8_t)((v >> k) & 0xFF)` -/
def packByte (v k : Int32) : UInt8 := ((v >>> k) &&& 0xFF).toUInt32.toUInt8

/-- `imu_data` -/
def ImuScaled.pack (s : ImuScaled) : Bytes :=
  [ (s.roll &&& 0xFF).toUInt32.toUInt8
  , packByte s.roll 8
  , packByte s.roll 16
  , packByte s.roll 24
  , (s.pitch &&& 0xFF).toUInt32.toUInt8
  , packByte s.pitch 8
  , packByte s.pitch 16
  , packByte s.pitch 24
  , (s.groundAngle &&& 0xFF).toUInt32.toUInt8
  , packByte s.groundAngle 8
  , packByte s.groundAngle 16
  , packByte s.groundAngle 24
  , (s.bottomPressure &&& 0xFF).toUInt32.toUInt8
  , packByte s.bottomPressure 8
  , packByte s.bottomPressure 16
  , packByte s.bottomPressure 24
  , (s.topPressure &&& 0xFF).toUInt32.toUInt8
  , packByte s.topPressure 8
  , packByte s.topPressure 16
  , packByte s.topPressure 24 ]

/-- `memset`, where it fits. -/
def memset (mem : Bytes) (i : Nat) (b : UInt8) (n : Nat) : Bytes :=
  memcpy mem i (List.replicate n b)

/-- `imu_io_task`, enabled and with a reading: the end of the loop. -/
def imuIoTaskWrite (byteStart : UInt8) (s : ImuScaled) (data064 : Bytes) : Bytes :=
  if byteStart.toNat + imuDataSize ≤ data064.length then memcpy data064 byteStart.toNat s.pack
  else data064

/-- `imu_io_task`, disabled. -/
def imuIoTaskClear (byteStart : UInt8) (data064 : Bytes) : Bytes :=
  memset data064 byteStart.toNat 0 imuDataSize

/-! ## 2. The decoders -/

/-- What a status handler answers about the block, less the values that it divides. -/
structure StatusJson where
  scaled : ImuScaled
  byteOffset : Nat
  byteRangeStart : Nat
  byteRangeEnd : Nat
  deriving DecidableEq, Repr

/-- `memcpy` of five `int32_t`. -/
def scaledAt (mem : Bytes) (offset : Nat) : ImuScaled where
  roll := (int32At mem offset).toInt32
  pitch := (int32At mem (offset + 4)).toInt32
  groundAngle := (int32At mem (offset + 8)).toInt32
  bottomPressure := (int32At mem (offset + 12)).toInt32
  topPressure := (int32At mem (offset + 16)).toInt32

def statusJson (data064 : Bytes) (offset : UInt8) : StatusJson :=
  ⟨scaledAt data064 offset.toNat, offset.toNat, offset.toNat, offset.toNat + 19⟩

/-- `api_get_lsm6ds3_status_handler`, once it has the lock and the offset. -/
def lsm6ds3StatusHandler (data064 : Bytes) (offset : UInt8) : Option StatusJson :=
  if offset.toNat + 20 > data064.length then none else some (statusJson data064 offset)

/-- `api_get_mpu6050_status_handler`, with the lock, if there is one, and the offset. -/
def mpu6050StatusHandler (data064 : Bytes) (offset : UInt8) : Option StatusJson :=
  if offset.toNat + 19 ≥ data064.length then none else some (statusJson data064 offset)

/-- `Mpu6050Status`, as far as the parser sets it, less the values that it divides. -/
structure Mpu6050Status where
  enabled : Bool
  byteOffset : Int32
  byteRangeStart : Int32
  byteRangeEnd : Int32
  scaled : ImuScaled
  deriving DecidableEq, Repr

/-- `BitConverter.ToInt32`; `none` is an exception. -/
def bitConverterToInt32 (data : Bytes) (startIndex : Int32) : Option Int32 :=
  if 0 ≤ startIndex.toInt ∧ startIndex.toInt + 4 ≤ data.length then
    some (int32At data startIndex.toInt.toNat).toInt32
  else none

/-- `ParseMpu6050Data`; an exception is caught, and the answer is `null` as well. -/
def parseMpu6050Data (assemblyData : Option Bytes) (byteOffset : Int32) : Option Mpu6050Status :=
  match assemblyData with
  | none => none
  | some data =>
    if byteOffset.toInt < 0 ∨ (byteOffset + 20).toInt > data.length then none
    else do
      let roll ← bitConverterToInt32 data byteOffset
      let pitch ← bitConverterToInt32 data (byteOffset + 4)
      let groundAngle ← bitConverterToInt32 data (byteOffset + 4 + 4)
      let bottomPressure ← bitConverterToInt32 data (byteOffset + 4 + 4 + 4)
      let topPressure ← bitConverterToInt32 data (byteOffset + 4 + 4 + 4 + 4)
      return ⟨true, byteOffset, byteOffset, byteOffset + 20,
        ⟨roll, pitch, groundAngle, bottomPressure, topPressure⟩⟩

/-! ## 3. The block is five words -/

variable {mem bs : Bytes} {i j : Nat}

/-- The bits of the values. -/
def ImuScaled.data (s : ImuScaled) : ImuData :=
  ⟨s.roll.toUInt32, s.pitch.toUInt32, s.groundAngle.toUInt32, s.bottomPressure.toUInt32,
    s.topPressure.toUInt32⟩

/-- **A byte that is shifted out** of a signed value is the byte of its word: the copies of the
sign bit come in from above, and the mask does not see them. -/
theorem packByte_eq (v k : Int32) (hk : k = 8 ∨ k = 16 ∨ k = 24) :
    packByte v k = (v.toUInt32 >>> k.toUInt32).toUInt8 := by
  rw [packByte, ← UInt8.toBitVec_inj]
  apply BitVec.eq_of_getLsbD_eq
  intro n hn
  rcases hk with rfl | rfl | rfl
  all_goals
    interval_cases n <;> simp [BitVec.getElem_sshiftRight]

/-- The first byte is not shifted. -/
theorem lowByte_eq (v : Int32) : (v &&& 0xFF).toUInt32.toUInt8 = v.toUInt32.toUInt8 := by
  rw [← UInt8.toBitVec_inj]
  apply BitVec.eq_of_getLsbD_eq
  intro n hn
  interval_cases n <;> simp

/-- Four bytes of a value, as the task has them. -/
theorem packed_eq (v : Int32) :
    [(v &&& 0xFF).toUInt32.toUInt8, packByte v 8, packByte v 16, packByte v 24] =
      le32 v.toUInt32 := by
  rw [lowByte_eq, packByte_eq v 8 (by decide), packByte_eq v 16 (by decide),
    packByte_eq v 24 (by decide)]
  rfl

/-- **The block** is the words of the values, the low byte of each first. -/
theorem ImuScaled.pack_eq (s : ImuScaled) : s.pack = s.data.bytes := by
  rw [ImuData.bytes, ImuScaled.data, ← packed_eq, ← packed_eq, ← packed_eq, ← packed_eq,
    ← packed_eq]
  rfl

@[simp] theorem ImuScaled.pack_length (s : ImuScaled) : s.pack.length = imuDataSize := rfl

theorem scaledAt_eq (mem : Bytes) (offset : Nat) :
    scaledAt mem offset =
      ⟨(decode mem offset).roll.toInt32, (decode mem offset).pitch.toInt32,
        (decode mem offset).groundAngle.toInt32, (decode mem offset).bottomPressure.toInt32,
        (decode mem offset).topPressure.toInt32⟩ :=
  rfl

/-- **What the decoders copy out** of the block is what the task has put there. -/
theorem scaledAt_write (h : i + imuDataSize ≤ mem.length) (s : ImuScaled) :
    scaledAt (memcpy mem i s.pack) i = s := by
  rw [scaledAt_eq, s.pack_eq, decode_write h]
  simp [ImuScaled.data]

/-! ## 4. The rest of the assembly -/

/-- A write leaves what is outside alone. -/
theorem getElem?_memcpy_outside (hout : j < i ∨ i + bs.length ≤ j) :
    (memcpy mem i bs)[j]? = mem[j]? := by
  unfold memcpy
  split
  case isFalse => rfl
  case isTrue hfits =>
    have hfront : (mem.take i).length = i := by
      rw [List.length_take]
      omega
    rcases hout with hbefore | hafter
    · rw [List.append_assoc, List.getElem?_append_left (by omega),
        List.getElem?_take_of_lt hbefore]
    · rw [List.getElem?_append_right (by rw [List.length_append]; omega), List.getElem?_drop]
      congr 1
      rw [List.length_append, hfront]
      omega

/-- A byte of the block. -/
theorem getElem?_memcpy_inside (hfits : i + bs.length ≤ mem.length)
    (hin : i ≤ j) (hin' : j < i + bs.length) : (memcpy mem i bs)[j]? = bs[j - i]? := by
  have hfront : (mem.take i).length = i := by
    rw [List.length_take]
    omega
  rw [memcpy, if_pos hfits, List.append_assoc, List.getElem?_append_right (by omega), hfront,
    List.getElem?_append_left (by omega)]

/-- What `memset` makes of its part. -/
theorem getElem?_memset {b : UInt8} {n : Nat} (hfits : i + n ≤ mem.length) (hin : i ≤ j)
    (hin' : j < i + n) : (memset mem i b n)[j]? = some b := by
  rw [memset, getElem?_memcpy_inside (by rwa [List.length_replicate]) hin
    (by rwa [List.length_replicate]), List.getElem?_replicate, if_pos (by omega)]

/-! ## 5. The codec -/

/-- `BitConverter.ToInt32` of four bytes that are there. -/
theorem bitConverterToInt32_ofNat {n : Nat} (hn : n < 2 ^ 31) (hfits : n + 4 ≤ mem.length) :
    bitConverterToInt32 mem (Int32.ofNat n) = some (int32At mem n).toInt32 := by
  have hindex : (Int32.ofNat n).toInt = n := Int32.toInt_ofNat_of_lt hn
  rw [bitConverterToInt32, hindex, if_pos (by omega), Int.toNat_natCast]

/-- The parser, of an array that has room for the five values. -/
theorem parseMpu6050Data_ofNat {n : Nat} (hn : n + 20 < 2 ^ 31) (hfits : n + 20 ≤ mem.length) :
    parseMpu6050Data (some mem) (Int32.ofNat n) =
      some ⟨true, Int32.ofNat n, Int32.ofNat n, Int32.ofNat (n + 20), scaledAt mem n⟩ := by
  have hadd : ∀ k : Nat, Int32.ofNat k + 4 = Int32.ofNat (k + 4) := fun k =>
    (Int32.ofNat_add k 4).symm
  have hend : Int32.ofNat n + 20 = Int32.ofNat (n + 20) := (Int32.ofNat_add n 20).symm
  have hstart : (Int32.ofNat n).toInt = n := Int32.toInt_ofNat_of_lt (by omega)
  have hlast : (Int32.ofNat (n + 20)).toInt = (n + 20 : Nat) := Int32.toInt_ofNat_of_lt hn
  simp only [parseMpu6050Data, hend]
  rw [hstart, hlast, if_neg (by omega), hadd, hadd, hadd, hadd,
    bitConverterToInt32_ofNat (by omega) (by omega),
    bitConverterToInt32_ofNat (by omega) (by omega),
    bitConverterToInt32_ofNat (by omega) (by omega),
    bitConverterToInt32_ofNat (by omega) (by omega),
    bitConverterToInt32_ofNat (by omega) (by omega)]
  rfl

/-- The task has written: the decoders have the values. -/
theorem decoders_write {byteStart : UInt8} (hfits : byteStart.toNat + imuDataSize ≤ mem.length)
    (s : ImuScaled) :
    mpu6050StatusHandler (imuIoTaskWrite byteStart s mem) byteStart =
        some ⟨s, byteStart.toNat, byteStart.toNat, byteStart.toNat + 19⟩ ∧
      lsm6ds3StatusHandler (imuIoTaskWrite byteStart s mem) byteStart =
        some ⟨s, byteStart.toNat, byteStart.toNat, byteStart.toNat + 19⟩ ∧
      parseMpu6050Data (some (imuIoTaskWrite byteStart s mem)) (Int32.ofNat byteStart.toNat) =
        some ⟨true, Int32.ofNat byteStart.toNat, Int32.ofNat byteStart.toNat,
          Int32.ofNat (byteStart.toNat + 20), s⟩ := by
  have hwritten : imuIoTaskWrite byteStart s mem = memcpy mem byteStart.toNat s.pack :=
    if_pos hfits
  have hlen : (memcpy mem byteStart.toNat s.pack).length = mem.length := memcpy_length _ _ _
  have hvalues := scaledAt_write hfits s
  have hstart := byteStart.toNat_lt
  rw [imuDataSize] at hfits
  rw [hwritten]
  refine ⟨?_, ?_, ?_⟩
  · rw [mpu6050StatusHandler, if_neg (by omega), statusJson, hvalues]
  · rw [lsm6ds3StatusHandler, if_neg (by omega), statusJson, hvalues]
  · rw [parseMpu6050Data_ofNat (by omega) (by omega), hvalues]

/-- The byte is one of the block. -/
def InBlock (byteStart : UInt8) (j : Nat) : Prop :=
  byteStart.toNat ≤ j ∧ j < byteStart.toNat + imuDataSize

/-- A write of 20 bytes at the offset leaves what is not in the block alone. -/
theorem getElem?_memcpy_of_not_inBlock {byteStart : UInt8} (hsize : bs.length = imuDataSize)
    (hout : ¬ InBlock byteStart j) : (memcpy mem byteStart.toNat bs)[j]? = mem[j]? := by
  apply getElem?_memcpy_outside
  rw [hsize]
  unfold InBlock at hout
  omega

/-- **The codec of the block.**  For every content of the assembly, every five values and every
offset up to 12: once the task has written, all three decoders have the values; it has not touched
another byte; and where it is disabled it zeroes the bytes of the block and no others. -/
theorem imu_block {data064 : Bytes} (hsize : data064.length = 32) {byteStart : UInt8}
    (hoffset : byteStart ≤ 12) (s : ImuScaled) :
    (mpu6050StatusHandler (imuIoTaskWrite byteStart s data064) byteStart).map (·.scaled) = some s ∧
      (lsm6ds3StatusHandler (imuIoTaskWrite byteStart s data064) byteStart).map (·.scaled) =
        some s ∧
      (parseMpu6050Data (some (imuIoTaskWrite byteStart s data064))
        (Int32.ofNat byteStart.toNat)).map (·.scaled) = some s ∧
      (imuIoTaskWrite byteStart s data064).length = 32 ∧
      (∀ j, ¬ InBlock byteStart j → (imuIoTaskWrite byteStart s data064)[j]? = data064[j]?) ∧
      (imuIoTaskClear byteStart data064).length = 32 ∧
      (∀ j, ¬ InBlock byteStart j → (imuIoTaskClear byteStart data064)[j]? = data064[j]?) ∧
      ∀ j, InBlock byteStart j → (imuIoTaskClear byteStart data064)[j]? = some 0 := by
  have hnat : byteStart.toNat ≤ 12 := UInt8.le_iff_toNat_le.1 hoffset
  have hfits : byteStart.toNat + imuDataSize ≤ data064.length := by
    rw [hsize, imuDataSize]
    omega
  obtain ⟨hmpu, hlsm, hwin⟩ := decoders_write hfits s
  have hwritten : imuIoTaskWrite byteStart s data064 = memcpy data064 byteStart.toNat s.pack :=
    if_pos hfits
  refine ⟨by rw [hmpu]; rfl, by rw [hlsm]; rfl, by rw [hwin]; rfl, ?_, ?_, ?_, ?_, ?_⟩
  · rw [hwritten, memcpy_length, hsize]
  · intro j hout
    rw [hwritten]
    exact getElem?_memcpy_of_not_inBlock s.pack_length hout
  · exact (memcpy_length _ _ _).trans hsize
  · intro j hout
    exact getElem?_memcpy_of_not_inBlock List.length_replicate hout
  · intro j hin
    exact getElem?_memset hfits hin.1 hin.2

theorem imu_block_last :
    (mpu6050StatusHandler (imuIoTaskWrite 12 ⟨-1, 2, -900000, 4, 5⟩ (List.replicate 32 7)) 12).map
      (·.scaled) = some ⟨-1, 2, -900000, 4, 5⟩ :=
  (imu_block (List.length_replicate) (by decide) ⟨-1, 2, -900000, 4, 5⟩).1

end GroundTruth.Imu
