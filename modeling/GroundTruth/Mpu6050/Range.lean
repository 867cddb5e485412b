/-
# The ranges of the MPU6050, in the device and beside it

The driver keeps the full-scale ranges that it has set, with the factors by which a reading is
scaled.  `mpu6050_set_accel_config` and `mpu6050_set_gyro_config` write the register first and take
the range over only if that has gone well.  The reset, a bit of `PWR_MGMT_1`, clears the registers
as well, and the driver keeps what it had; `mpu6050_init` does the opposite.

* `modifyRegister_some`: what a read-modify-write leaves in a field;
* `Agree.step_iff`: of a step from a state in which the two agree, exactly those resets that get
  through and those `mpu6050_init` break this that find another range than the first;
* `ranges_agree`: over runs; `range_lost`: 8 g, and a reset.
-/
import GroundTruth.Lib.Field
import GroundTruth.Lib.Run

namespace GroundTruth.Mpu6050

open GroundTruth.Lib

/-! ## 1. The registers and the handle -/

/-- `MPU6050_ACCEL_FS_MASK`, and `MPU6050_GYRO_FS_MASK`, which is the same. -/
def fsMask : UInt8 := 0x18

/-- `MPU6050_PWR_MGMT_1_RESET` -/
def pwrMgmt1Reset : UInt8 := 0x80

/-- `MPU6050_PWR_MGMT_1_SLEEP` -/
def pwrMgmt1Sleep : UInt8 := 0x40

/-- `MPU6050_PWR_MGMT_1_CLKSEL_PLL_XGYRO` -/
def pwrMgmt1ClkselPllXgyro : UInt8 := 0x01

/-- The registers, as far as the ranges and the reset go. -/
structure Registers where
  accelConfig : UInt8
  gyroConfig : UInt8
  pwrMgmt1 : UInt8
  deriving DecidableEq, Repr

/-- `mpu6050_t`.  The factors are those of the full scale, which is divided by 32768. -/
structure Handle where
  accelFs : UInt8
  gyroFs : UInt8
  accelScale : Nat
  gyroScale : Nat
  deriving DecidableEq, Repr

/-- The device, the handle, and which ranges have been set with success. -/
structure Imu where
  regs : Registers
  dev : Handle
  accelSet : Bool
  gyroSet : Bool
  deriving DecidableEq, Repr

/-- Whether the transfers of a read-modify-write get through. -/
structure Transfers where
  read : Bool
  write : Bool
  deriving DecidableEq, Repr

/-- `modify_register`: the value that is written, where both transfers get through. -/
def modifyRegister (t : Transfers) (mask value current : UInt8) : Option UInt8 :=
  if t.read = false then none
  else
    let current := (current &&& ~~~mask) ||| (value &&& mask)
    if t.write = false then none else some current

/-- What a write of `PWR_MGMT_1` does in the device: the reset bit clears the configuration, and
leaves the device asleep. -/
def Registers.writePwrMgmt1 (value : UInt8) (r : Registers) : Registers :=
  if value &&& pwrMgmt1Reset ≠ 0 then ⟨0, 0, pwrMgmt1Sleep⟩ else { r with pwrMgmt1 := value }

/-! ## 2. The functions -/

/-- `mpu6050_init`, with a handle of the bus or `NULL`. -/
def mpu6050Init (i2cDev : Bool) (s : Imu) : Imu :=
  if i2cDev = false then s else { s with dev := ⟨0x00, 0x00, 2, 250⟩ }

/-- `mpu6050_reset` -/
def mpu6050Reset (t : Transfers) (s : Imu) : Imu :=
  match modifyRegister t pwrMgmt1Reset pwrMgmt1Reset s.regs.pwrMgmt1 with
  | none => s
  | some value => { s with regs := s.regs.writePwrMgmt1 value }

/-- `mpu6050_wake_up`, and whether the write gets through. -/
def mpu6050WakeUp (write : Bool) (s : Imu) : Imu :=
  if write = false then s
  else { s with regs := s.regs.writePwrMgmt1 pwrMgmt1ClkselPllXgyro }

/-- The `switch` of `mpu6050_set_accel_config` -/
def accelScaleOf (accelFs : UInt8) : Nat :=
  if accelFs = 0x00 then 2
  else if accelFs = 0x08 then 4
  else if accelFs = 0x10 then 8
  else if accelFs = 0x18 then 16
  else 2

/-- The `switch` of `mpu6050_set_gyro_config` -/
def gyroScaleOf (gyroFs : UInt8) : Nat :=
  if gyroFs = 0x00 then 250
  else if gyroFs = 0x08 then 500
  else if gyroFs = 0x10 then 1000
  else if gyroFs = 0x18 then 2000
  else 250

/-- `mpu6050_set_accel_config` -/
def mpu6050SetAccelConfig (t : Transfers) (fsRange : UInt8) (s : Imu) : Imu :=
  match modifyRegister t fsMask (fsRange &&& fsMask) s.regs.accelConfig with
  | none => s
  | some value =>
    let accelFs := fsRange &&& fsMask
    { s with
      regs := { s.regs with accelConfig := value }
      dev := { s.dev with accelFs := accelFs, accelScale := accelScaleOf accelFs }
      accelSet := true }

/-- `mpu6050_set_gyro_config` -/
def mpu6050SetGyroConfig (t : Transfers) (fsRange : UInt8) (s : Imu) : Imu :=
  match modifyRegister t fsMask (fsRange &&& fsMask) s.regs.gyroConfig with
  | none => s
  | some value =>
    let gyroFs := fsRange &&& fsMask
    { s with
      regs := { s.regs with gyroConfig := value }
      dev := { s.dev with gyroFs := gyroFs, gyroScale := gyroScaleOf gyroFs }
      gyroSet := true }

inductive ImuCall
  | init (i2cDev : Bool)
  | reset (t : Transfers)
  | wakeUp (write : Bool)
  | setAccelConfig (t : Transfers) (fsRange : UInt8)
  | setGyroConfig (t : Transfers) (fsRange : UInt8)
  /-- any of them with `NULL` for the handle -/
  | nullDev
  deriving DecidableEq, Repr

def imuCall (s : Imu) : ImuCall → Imu
  | .init i2cDev => mpu6050Init i2cDev s
  | .reset t => mpu6050Reset t s
  | .wakeUp write => mpu6050WakeUp write s
  | .setAccelConfig t fsRange => mpu6050SetAccelConfig t fsRange s
  | .setGyroConfig t fsRange => mpu6050SetGyroConfig t fsRange s
  | .nullDev => s

def imuStep (s : Imu) (e : ImuCall) : Option Imu := some (imuCall s e)

/-- Nothing has been set yet, whatever the device and the handle have. -/
def Imu.new (regs : Registers) (dev : Handle) : Imu := ⟨regs, dev, false, false⟩

/-! ## 3. Agreement -/

/-- A range that has been set is the one that the device has. -/
structure Agree (s : Imu) : Prop where
  accel : s.accelSet = true → s.dev.accelFs = s.regs.accelConfig &&& fsMask
  gyro : s.gyroSet = true → s.dev.gyroFs = s.regs.gyroConfig &&& fsMask

/-- The ranges that have been set are the first ones, 2 g and 250 degrees a second. -/
def FirstRanges (s : Imu) : Prop :=
  (s.accelSet = true → s.dev.accelFs = 0) ∧ (s.gyroSet = true → s.dev.gyroFs = 0)

/-- A reset that gets through, and an initialisation, find the first ranges. -/
def Keeps (s : Imu) : ImuCall → Prop
  | .init i2cDev => i2cDev = true → FirstRanges s
  | .reset t => t.read = true → t.write = true → FirstRanges s
  | _ => True

instance FirstRanges.decidable (s : Imu) : Decidable (FirstRanges s) :=
  inferInstanceAs (Decidable (_ ∧ _))

instance Keeps.decidable (s : Imu) : ∀ e, Decidable (Keeps s e)
  | .init _ => inferInstanceAs (Decidable (_ → _))
  | .reset _ => inferInstanceAs (Decidable (_ → _ → _))
  | .wakeUp _ | .setAccelConfig _ _ | .setGyroConfig _ _ | .nullDev =>
    inferInstanceAs (Decidable True)

variable {s s' : Imu} {t : Transfers}

/-- **A read-modify-write** of the range, where it gets through: the field has the range. -/
theorem modifyRegister_some {value current written : UInt8}
    (h : modifyRegister t fsMask (value &&& fsMask) current = some written) :
    written &&& fsMask = value &&& fsMask := by
  unfold modifyRegister at h
  split at h
  · cases h
  · dsimp only at h
    split at h
    · cases h
    · cases h
      have hfield : setField fsMask (value &&& fsMask) current &&& fsMask =
          value &&& fsMask &&& fsMask := setField_and_mask
      rw [UInt8.and_assoc, UInt8.and_self] at hfield
      exact hfield

theorem Agree.setAccelConfig (h : Agree s) (t : Transfers) (fsRange : UInt8) :
    Agree (mpu6050SetAccelConfig t fsRange s) := by
  unfold mpu6050SetAccelConfig
  split
  · exact h
  · next value hvalue => exact ⟨fun _ => (modifyRegister_some hvalue).symm, h.gyro⟩

theorem Agree.setGyroConfig (h : Agree s) (t : Transfers) (fsRange : UInt8) :
    Agree (mpu6050SetGyroConfig t fsRange s) := by
  unfold mpu6050SetGyroConfig
  split
  · exact h
  · next value hvalue => exact ⟨h.accel, fun _ => (modifyRegister_some hvalue).symm⟩

/-- The wake-up writes no reset bit. -/
theorem Agree.wakeUp (h : Agree s) (write : Bool) : Agree (mpu6050WakeUp write s) := by
  unfold mpu6050WakeUp
  split
  · exact h
  · exact ⟨h.accel, h.gyro⟩

/-- **The initialisation** of the handle: the device keeps the range that it had. -/
theorem Agree.init_iff (h : Agree s) (i2cDev : Bool) :
    Agree (mpu6050Init i2cDev s) ↔ (i2cDev = true → FirstRanges s) := by
  cases i2cDev with
  | false => exact iff_of_true h (fun hno => absurd hno Bool.false_ne_true)
  | true =>
    constructor
    · intro hagree _
      exact ⟨fun hset => (h.accel hset).trans (hagree.accel hset).symm,
        fun hset => (h.gyro hset).trans (hagree.gyro hset).symm⟩
    · intro hfirst
      exact ⟨fun hset => ((hfirst rfl).1 hset).symm.trans (h.accel hset),
        fun hset => ((hfirst rfl).2 hset).symm.trans (h.gyro hset)⟩

/-- A reset that gets through clears the configuration. -/
theorem mpu6050Reset_eq (t : Transfers) (s : Imu) :
    mpu6050Reset t s =
      if t.read = true ∧ t.write = true then { s with regs := ⟨0, 0, pwrMgmt1Sleep⟩ } else s := by
  obtain ⟨read, write⟩ := t
  cases read with
  | false => rfl
  | true =>
    cases write with
    | false => rfl
    | true =>
      have hbit : ((s.regs.pwrMgmt1 &&& ~~~pwrMgmt1Reset) ||| (pwrMgmt1Reset &&& pwrMgmt1Reset)) &&&
          pwrMgmt1Reset ≠ 0 := by
        rw [UInt8.and_self, or_and_self]
        decide
      show { s with regs := s.regs.writePwrMgmt1 _ } = _
      rw [Registers.writePwrMgmt1, if_pos hbit]
      rfl

/-- **The reset** of the device: the handle keeps the range that it had. -/
theorem Agree.reset_iff (h : Agree s) (t : Transfers) :
    Agree (mpu6050Reset t s) ↔ (t.read = true → t.write = true → FirstRanges s) := by
  rw [mpu6050Reset_eq]
  have hzero : (0 : UInt8) &&& fsMask = 0 := rfl
  by_cases hdone : t.read = true ∧ t.write = true
  · rw [if_pos hdone]
    constructor
    · intro hagree _ _
      exact ⟨fun hset => (hagree.accel hset).trans hzero,
        fun hset => (hagree.gyro hset).trans hzero⟩
    · intro hfirst
      exact ⟨fun hset => ((hfirst hdone.1 hdone.2).1 hset).trans hzero.symm,
        fun hset => ((hfirst hdone.1 hdone.2).2 hset).trans hzero.symm⟩
  · rw [if_neg hdone]
    exact iff_of_true h fun hread hwrite => absurd ⟨hread, hwrite⟩ hdone

/-- **One call**, from where the two agree: they agree after it exactly if it is none of those. -/
theorem Agree.step_iff (h : Agree s) (e : ImuCall) : Agree (imuCall s e) ↔ Keeps s e := by
  cases e with
  | init i2cDev => exact h.init_iff i2cDev
  | reset t => exact h.reset_iff t
  | wakeUp write => exact iff_of_true (h.wakeUp write) trivial
  | setAccelConfig t fsRange => exact iff_of_true (h.setAccelConfig t fsRange) trivial
  | setGyroConfig t fsRange => exact iff_of_true (h.setGyroConfig t fsRange) trivial
  | nullDev => exact iff_of_true h trivial

theorem Agree.new (regs : Registers) (dev : Handle) : Agree (.new regs dev) where
  accel := fun hno => absurd hno Bool.false_ne_true
  gyro := fun hno => absurd hno Bool.false_ne_true

/-- **The ranges agree.**  In every run, from whatever the device and the handle have, in which no
reset gets through and nothing is initialised while a range is set to another than the first, the
handle has the ranges of the device once they have been set. -/
theorem ranges_agree {regs : Registers} {dev : Handle}
    (h : Run imuStep Keeps (.new regs dev) s) : Agree s := by
  refine h.invariant (fun u e v hu hg hs => ?_) (Agree.new regs dev)
  cases hs
  exact (hu.step_iff e).2 hg

/-- 8 g, set by a driver whose writes get through. -/
def set8g : ImuCall := .setAccelConfig ⟨true, true⟩ 0x10

/-- A reset and an initialisation first, then the range, and resets that do not get through. -/
theorem ranges_agree_8g :
    ∃ s, exec imuStep (.new ⟨0x08, 0, 0x40⟩ ⟨7, 7, 0, 0⟩)
        [.init true, .reset ⟨true, true⟩, .wakeUp true, set8g, .reset ⟨true, false⟩,
          .setGyroConfig ⟨true, true⟩ 0xFF] = some s ∧
      s.regs.accelConfig = 0x10 ∧ Agree s := by
  have hmeets : execMeets imuStep Keeps (.new ⟨0x08, 0, 0x40⟩ ⟨7, 7, 0, 0⟩)
      [.init true, .reset ⟨true, true⟩, .wakeUp true, set8g, .reset ⟨true, false⟩,
        .setGyroConfig ⟨true, true⟩ 0xFF] := by
    decide
  exact ⟨_, rfl, rfl, ranges_agree (exec_run hmeets rfl)⟩

/-- **A range is lost**: the device measures 2 g again, and the handle scales by 8 g. -/
theorem range_lost :
    ¬ ∀ regs dev s, Reach imuStep (.new regs dev) s → Agree s := by
  intro hall
  obtain ⟨s, hs, hset, hfs, hreg⟩ : ∃ s, exec imuStep (.new ⟨0, 0, 0x40⟩ ⟨0, 0, 2, 250⟩)
      [set8g, .reset ⟨true, true⟩] = some s ∧
      s.accelSet = true ∧ s.dev.accelFs = 0x10 ∧ s.regs.accelConfig = 0 :=
    ⟨_, rfl, rfl, rfl, rfl⟩
  have haccel := (hall _ _ s (exec_reach hs)).accel hset
  rw [hfs, hreg] at haccel
  exact absurd haccel (by decide)

/-! ## 4. The factors -/

/-- The factors are those of the ranges in the handle. -/
structure Scaled (s : Imu) : Prop where
  accel : s.dev.accelScale = accelScaleOf s.dev.accelFs
  gyro : s.dev.gyroScale = gyroScaleOf s.dev.gyroFs

theorem Scaled.call (h : Scaled s) (e : ImuCall) : Scaled (imuCall s e) := by
  cases e with
  | init i2cDev =>
    cases i2cDev with
    | false => exact h
    | true => exact ⟨rfl, rfl⟩
  | reset t =>
    show Scaled (mpu6050Reset t s)
    rw [mpu6050Reset_eq]
    split
    · exact ⟨h.accel, h.gyro⟩
    · exact h
  | wakeUp write =>
    show Scaled (mpu6050WakeUp write s)
    unfold mpu6050WakeUp
    split
    · exact h
    · exact ⟨h.accel, h.gyro⟩
  | setAccelConfig t fsRange =>
    show Scaled (mpu6050SetAccelConfig t fsRange s)
    unfold mpu6050SetAccelConfig
    split
    · exact h
    · exact ⟨rfl, h.gyro⟩
  | setGyroConfig t fsRange =>
    show Scaled (mpu6050SetGyroConfig t fsRange s)
    unfold mpu6050SetGyroConfig
    split
    · exact h
    · exact ⟨h.accel, rfl⟩
  | nullDev => exact h

/-- So a reading is scaled by the range in the handle, whatever the range of the device is. -/
theorem scaled_run (h : Reach imuStep s s') (hs : Scaled s) : Scaled s' :=
  h.invariant (fun _ e _ hu _ hv => Option.some.inj hv ▸ hu.call e) hs

end GroundTruth.Mpu6050
