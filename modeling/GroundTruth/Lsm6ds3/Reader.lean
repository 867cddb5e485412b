/-
# What the calibration of the LSM6DS3 reads

`lsm6ds3_reg_t` has three words and six bytes, one after the other: it is a `struct`, although a
comment of the driver calls it a union.  A read fills the bytes.  `lsm6ds3_read_accel`,
`lsm6ds3_read_gyro` and `lsm6ds3_read_gyro_raw` then make the words out of them, "manually";
`lsm6ds3_read_accel_raw` does not, and goes on with what its local variable has there.

A reading is kept as the counts and the range by which they are scaled; the product is floating
point, and left out.

* `readWith_eq`: what the readers have in common;
* `readAccel_eq`, `readGyro_eq`, `readGyroRaw_eq`: the counts are the little-endian words;
* `readAccelRaw_eq`: those of `lsm6ds3_read_accel_raw` are what was there;
* `calibration_counts`: so the calibration of the gyroscope adds up what the reader reads, and that
  of the accelerometer if and only if the words were there before; `accel_unset`: zeros.
-/
import GroundTruth.Lib.Bytes

namespace GroundTruth.Lsm6ds3

open GroundTruth.Lib

/-! ## 1. The registers -/

/-- Three counts. -/
structure Counts where
  x : Int16
  y : Int16
  z : Int16
  deriving DecidableEq, Repr

/-- Six bytes, of the output registers. -/
structure SixBytes where
  b0 : UInt8
  b1 : UInt8
  b2 : UInt8
  b3 : UInt8
  b4 : UInt8
  b5 : UInt8
  deriving DecidableEq, Repr

/-- `lsm6ds3_reg_t` -/
structure Reg where
  i16bit : Counts
  u8bit : SixBytes
  deriving DecidableEq, Repr

/-- `lsm6ds3_fs_xl_t` -/
inductive FsXl
  | fs2g
  | fs4g
  | fs8g
  | fs16g
  deriving DecidableEq, Repr

/-- `lsm6ds3_fs_g_t` -/
inductive FsG
  | fs125dps
  | fs250dps
  | fs500dps
  | fs1000dps
  | fs2000dps
  deriving DecidableEq, Repr

/-- `lsm6ds3_xl_full_scale_get`, and the `switch` after it, of what `CTRL1_XL` has. -/
def xlFullScale (ctrl1 : UInt8) : Option FsXl :=
  match (ctrl1 &&& 0x0C) >>> 2 with
  | 0 => some .fs2g
  | 2 => some .fs4g
  | 3 => some .fs8g
  | 1 => some .fs16g
  | _ => none

/-- `lsm6ds3_gy_full_scale_get`, and the `switch` after it, of what `CTRL2_G` has. -/
def gyFullScale (ctrl2 : UInt8) : Option FsG :=
  match ctrl2 &&& 0x07 with
  | 0 => some .fs125dps
  | 1 => some .fs250dps
  | 2 => some .fs500dps
  | 3 => some .fs1000dps
  | 4 => some .fs2000dps
  | _ => none

/-- What a reader meets: the local variable before anything is written to it, the six bytes, and the
control register; `none` is a transfer that fails. -/
structure Sample where
  stack : Reg
  bytes : Option SixBytes
  ctrl : Option UInt8
  deriving DecidableEq, Repr

/-- What is scaled, and the range by which. -/
structure Reading (F : Type) where
  fs : F
  counts : Counts
  deriving DecidableEq, Repr

/-! ## 2. The readers -/

/-- `memset` of the bytes and of the words. -/
def Reg.cleared : Reg := ⟨⟨0, 0, 0⟩, ⟨0xFF, 0xFF, 0xFF, 0xFF, 0xFF, 0xFF⟩⟩

/-- `lsm6ds3_acceleration_raw_get` and `lsm6ds3_angular_rate_raw_get`, into the bytes. -/
def rawGet (bytes : Option SixBytes) (r : Reg) : Option Reg :=
  bytes.map fun bytes => { r with u8bit := bytes }

variable {F : Type}

/-- The shape of a reader: into what it reads, how it has the counts from there, and the range. -/
def readWith (into : Reg) (counts : Reg → Counts) (fullScale : UInt8 → Option F) (s : Sample) :
    Option (Reading F) := do
  let r ← rawGet s.bytes into
  let i16bit := counts r
  let fs ← s.ctrl.bind fullScale
  return ⟨fs, i16bit⟩

/-- The words as `lsm6ds3_read_accel` makes them. -/
def accelWords (r : Reg) : Counts :=
  let b := r.u8bit
  ⟨(b.b0.toUInt16 ||| (b.b1.toUInt16 <<< 8)).toInt16,
    (b.b2.toUInt16 ||| (b.b3.toUInt16 <<< 8)).toInt16,
    (b.b4.toUInt16 ||| (b.b5.toUInt16 <<< 8)).toInt16⟩

/-- The words as the readers of the gyroscope make them. -/
def gyroWords (r : Reg) : Counts :=
  let b := r.u8bit
  ⟨((b.b1.toUInt16 <<< 8) ||| b.b0.toUInt16).toInt16,
    ((b.b3.toUInt16 <<< 8) ||| b.b2.toUInt16).toInt16,
    ((b.b5.toUInt16 <<< 8) ||| b.b4.toUInt16).toInt16⟩

/-- `lsm6ds3_read_accel`, with a bus and up to the offsets; a read of zeros is also logged. -/
def readAccel (s : Sample) : Option (Reading FsXl) := readWith .cleared accelWords xlFullScale s

/-- `lsm6ds3_read_gyro`, with a bus and up to the offsets. -/
def readGyro (s : Sample) : Option (Reading FsG) := readWith .cleared gyroWords gyFullScale s

/-- `lsm6ds3_read_accel_raw`: nothing is cleared, and the words are not made. -/
def readAccelRaw (s : Sample) : Option (Reading FsXl) :=
  readWith s.stack Reg.i16bit xlFullScale s

/-- `lsm6ds3_read_gyro_raw` -/
def readGyroRaw (s : Sample) : Option (Reading FsG) := readWith .cleared gyroWords gyFullScale s

/-- The loop of a calibration: the readings that are added up, until one fails. -/
def addedUp (read : Sample → Option (Reading F)) : List Sample → List (Reading F)
  | [] => []
  | s :: samples =>
    match read s with
    | none => []
    | some reading => reading :: addedUp read samples

/-- `lsm6ds3_calibrate_accel` -/
def calibrateAccel (samples : List Sample) : List (Reading FsXl) := addedUp readAccelRaw samples

/-- `lsm6ds3_calibrate_gyro` -/
def calibrateGyro (samples : List Sample) : List (Reading FsG) := addedUp readGyroRaw samples

/-! ## 3. Little-endian words -/

/-- The words of six bytes, the low one first. -/
def littleEndian (b : SixBytes) : Counts :=
  ⟨(glue b.b1 b.b0).toInt16, (glue b.b3 b.b2).toInt16, (glue b.b5 b.b4).toInt16⟩

/-- What a reader should have: the words, and the range. -/
def decoded (fullScale : UInt8 → Option F) (s : Sample) : Option (Reading F) :=
  s.bytes.bind fun b => (s.ctrl.bind fullScale).map fun fs => ⟨fs, littleEndian b⟩

/-- **A reader**: a register of which the bytes are filled, and the rest is what it was. -/
theorem readWith_eq (into : Reg) (counts : Reg → Counts) (fullScale : UInt8 → Option F)
    (s : Sample) :
    readWith into counts fullScale s = s.bytes.bind fun b =>
      (s.ctrl.bind fullScale).map fun fs => ⟨fs, counts { into with u8bit := b }⟩ := by
  obtain ⟨stack, bytes, ctrl⟩ := s
  cases bytes with
  | none => rfl
  | some b =>
    unfold readWith rawGet
    dsimp only [Option.map_some, Option.bind_some, bind]
    cases ctrl.bind fullScale <;> rfl

theorem accelWords_eq (i16bit : Counts) (b : SixBytes) :
    accelWords ⟨i16bit, b⟩ = littleEndian b := by
  unfold accelWords littleEndian glue
  dsimp only
  rw [UInt16.or_comm b.b0.toUInt16, UInt16.or_comm b.b2.toUInt16, UInt16.or_comm b.b4.toUInt16]

theorem gyroWords_eq (i16bit : Counts) (b : SixBytes) : gyroWords ⟨i16bit, b⟩ = littleEndian b :=
  rfl

theorem readAccel_eq (s : Sample) : readAccel s = decoded xlFullScale s := by
  rw [readAccel, readWith_eq, decoded]
  simp only [accelWords_eq]

theorem readGyro_eq (s : Sample) : readGyro s = decoded gyFullScale s := by
  rw [readGyro, readWith_eq, decoded]
  simp only [gyroWords_eq]

theorem readGyroRaw_eq (s : Sample) : readGyroRaw s = decoded gyFullScale s := readGyro_eq s

/-- **The raw reader of the accelerometer** has the words of its local variable. -/
theorem readAccelRaw_eq (s : Sample) :
    readAccelRaw s = (decoded xlFullScale s).map fun r => ⟨r.fs, s.stack.i16bit⟩ := by
  rw [readAccelRaw, readWith_eq, decoded]
  cases s.bytes with
  | none => rfl
  | some b => cases s.ctrl.bind xlFullScale <;> rfl

/-! ## 4. The calibrations -/

/-- Both transfers of the reader give what it needs. -/
def answered (s : Sample) : Bool := s.bytes.isSome && (s.ctrl.bind xlFullScale).isSome

/-- Wherever a sample is added up, the local variable has had the words of its bytes before. -/
def WordsThere (samples : List Sample) : Prop :=
  ∀ s ∈ samples.takeWhile answered, ∀ b ∈ s.bytes, s.stack.i16bit = littleEndian b

theorem WordsThere.cons_iff (s : Sample) (samples : List Sample) :
    WordsThere (s :: samples) ↔
      answered s = false ∨
        (∀ b ∈ s.bytes, s.stack.i16bit = littleEndian b) ∧ WordsThere samples := by
  unfold WordsThere
  cases h : answered s with
  | false => simp [h]
  | true => simp [h]

theorem decoded_none_iff (s : Sample) : decoded xlFullScale s = none ↔ answered s = false := by
  obtain ⟨stack, bytes, ctrl⟩ := s
  unfold decoded answered
  cases bytes with
  | none => simp
  | some b => cases ctrl.bind xlFullScale <;> simp

/-- One sample: the raw reader has the words, if and only if they were there. -/
theorem readAccelRaw_iff {s : Sample} (h : answered s = true) :
    readAccelRaw s = decoded xlFullScale s ↔
      ∀ b ∈ s.bytes, s.stack.i16bit = littleEndian b := by
  rw [readAccelRaw_eq]
  obtain ⟨stack, bytes, ctrl⟩ := s
  unfold decoded
  cases bytes with
  | none => cases h
  | some b =>
    cases hc : ctrl.bind xlFullScale with
    | none => simp [answered, hc] at h
    | some fs => simp

/-- By induction on the samples: the first one that is not answered ends the loop, and before it
each gives a reading of its own. -/
theorem addedUp_accel_iff (samples : List Sample) :
    addedUp readAccelRaw samples = addedUp (decoded xlFullScale) samples ↔ WordsThere samples := by
  induction samples with
  | nil => simp [addedUp, WordsThere]
  | cons s samples ih =>
    rw [WordsThere.cons_iff]
    cases h : decoded xlFullScale s with
    | none =>
      have hr : readAccelRaw s = none := by rw [readAccelRaw_eq, h]; rfl
      simp [addedUp, h, hr, (decoded_none_iff s).1 h]
    | some reading =>
      have ha : answered s = true := by
        cases hc : answered s with
        | true => rfl
        | false => rw [(decoded_none_iff s).2 hc] at h; cases h
      have hr : readAccelRaw s = some ⟨reading.fs, s.stack.i16bit⟩ := by
        rw [readAccelRaw_eq, h]; rfl
      have hw := readAccelRaw_iff ha
      rw [h, hr, Option.some_inj] at hw
      rw [addedUp, addedUp, h, hr, List.cons.injEq, hw, ih, ha]
      simp

/-- **What the calibrations add up.**  The counts of the gyroscope's are those which the readers
have for the same bytes, and those of the accelerometer's are if and only if they were in the local
variable before. -/
theorem calibration_counts (samples : List Sample) :
    (∀ s, readAccel s = decoded xlFullScale s) ∧
    (∀ s, readGyro s = decoded gyFullScale s) ∧
    calibrateGyro samples = addedUp (decoded gyFullScale) samples ∧
    (calibrateAccel samples = addedUp (decoded xlFullScale) samples ↔ WordsThere samples) := by
  refine ⟨readAccel_eq, readGyro_eq, ?_, addedUp_accel_iff samples⟩
  rw [calibrateGyro, funext readGyroRaw_eq]

/-- Zeros on the stack, and 2 g: a device at rest, with 1 g along its last axis. -/
theorem accel_unset :
    let s : Sample := ⟨⟨⟨0, 0, 0⟩, ⟨0, 0, 0, 0, 0, 0⟩⟩, some ⟨0, 0, 0, 0, 0, 0x40⟩, some 0x40⟩
    readAccel s = some ⟨.fs2g, ⟨0, 0, 0x4000⟩⟩ ∧
    calibrateAccel [s] = [⟨.fs2g, ⟨0, 0, 0⟩⟩] ∧
    ¬ calibrateAccel [s] = addedUp readAccel [s] := by
  decide

end GroundTruth.Lsm6ds3
