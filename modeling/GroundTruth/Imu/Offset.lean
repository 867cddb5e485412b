/-
# Where the IMU values lie

`imu_io_task` writes its five values into assembly 100 at an offset that it loads when it starts.
A POST changes the offset in the flash and in the copy of the web interface, and the status handler
reads the values where the copy says.  Enabling and disabling the sensor, by the sibling handlers,
goes to `main.c` as well, "so I/O task picks up the change immediately"; the offset does not.

* `decode_write`: values read where they were written are the values written;
* `Settled.step`: while no POST moves the offset of the sensor that the task runs on, the NVS can be
  read, and the task loads what the copy says, the handler reads where the task writes;
* `offsets_agree`: so it does in every run, and `status_values`: it finds the values;
* `offset_moved`: one POST is enough for something else.
-/
import Mathlib.Data.List.Basic
import Mathlib.Tactic.Common
import GroundTruth.Lib.Run
import GroundTruth.Lib.Words
import GroundTruth.Web.Setting

namespace GroundTruth.Imu

open GroundTruth.Lib GroundTruth.Web
open GroundTruth.Tcpip (NvWrite)

/-! ## 1. The values -/

/-- The five `int32_t` values, scaled, as the bits that they have. -/
structure ImuData where
  roll : UInt32
  pitch : UInt32
  groundAngle : UInt32
  bottomPressure : UInt32
  topPressure : UInt32
  deriving DecidableEq, Repr

def ImuData.zero : ImuData := ⟨0, 0, 0, 0, 0⟩

/-- `imu_data` -/
def ImuData.bytes (v : ImuData) : Bytes :=
  le32 v.roll ++ le32 v.pitch ++ le32 v.groundAngle ++ le32 v.bottomPressure ++ le32 v.topPressure

/-- `memcpy` into an array, where it fits. -/
def memcpy (mem : Bytes) (i : Nat) (bs : Bytes) : Bytes :=
  if i + bs.length ≤ mem.length then mem.take i ++ bs ++ mem.drop (i + bs.length) else mem

/-- `memcpy` of an `int32_t` from an array. -/
def int32At (mem : Bytes) (i : Nat) : UInt32 :=
  glue32 (mem.getD i 0) (mem.getD (i + 1) 0) (mem.getD (i + 2) 0) (mem.getD (i + 3) 0)

/-- The values that the status handlers read. -/
def decode (mem : Bytes) (offset : Nat) : ImuData :=
  ⟨int32At mem offset, int32At mem (offset + 4), int32At mem (offset + 8),
    int32At mem (offset + 12), int32At mem (offset + 16)⟩

@[simp] theorem ImuData.bytes_length (v : ImuData) : v.bytes.length = imuDataSize := rfl

theorem memcpy_length (mem : Bytes) (i : Nat) (bs : Bytes) :
    (memcpy mem i bs).length = mem.length := by
  unfold memcpy
  split
  · simp only [List.length_append, List.length_take, List.length_drop]
    omega
  · rfl

/-- Four bytes that stand in an array, read as one value. -/
theorem int32At_append (front rest : Bytes) (v : UInt32) :
    int32At (front ++ (le32 v ++ rest)) front.length = v := by
  refine le32_injective ?_
  rw [int32At, le32_glue32]
  simp [List.getD_eq_getElem?_getD, le32]

/-- Values that stand in an array. -/
theorem decode_append (front rest : Bytes) (v : ImuData) :
    decode (front ++ (v.bytes ++ rest)) front.length = v := by
  obtain ⟨roll, pitch, ground, bottom, top⟩ := v
  -- what follows each of the values
  let afterBottom := le32 top ++ rest
  let afterGround := le32 bottom ++ afterBottom
  let afterPitch := le32 ground ++ afterGround
  let afterRoll := le32 pitch ++ afterPitch
  have hat : ∀ (before after : Bytes) (x : UInt32) (n : Nat), before.length = front.length + n →
      front ++ (ImuData.bytes ⟨roll, pitch, ground, bottom, top⟩ ++ rest) =
        before ++ (le32 x ++ after) →
      int32At (front ++ (ImuData.bytes ⟨roll, pitch, ground, bottom, top⟩ ++ rest))
        (front.length + n) = x := by
    intro before after x n hlen hsplit
    rw [hsplit, ← hlen, int32At_append]
  rw [decode, ImuData.mk.injEq]
  refine ⟨hat front afterRoll roll 0 ?_ ?_, hat (front ++ le32 roll) afterPitch pitch 4 ?_ ?_,
    hat (front ++ le32 roll ++ le32 pitch) afterGround ground 8 ?_ ?_,
    hat (front ++ le32 roll ++ le32 pitch ++ le32 ground) afterBottom bottom 12 ?_ ?_,
    hat (front ++ le32 roll ++ le32 pitch ++ le32 ground ++ le32 bottom) rest top 16 ?_ ?_⟩
  all_goals simp [ImuData.bytes, afterRoll, afterPitch, afterGround, afterBottom]

/-- **What is read where it was written** is what was written. -/
theorem decode_write {mem : Bytes} {i : Nat} (h : i + imuDataSize ≤ mem.length) (v : ImuData) :
    decode (memcpy mem i v.bytes) i = v := by
  have hfront : (mem.take i).length = i := by
    rw [List.length_take]
    omega
  have hdecode := decode_append (mem.take i) (mem.drop (i + imuDataSize)) v
  rw [hfront] at hdecode
  rw [memcpy, if_pos (by rw [ImuData.bytes_length]; exact h), ImuData.bytes_length,
    List.append_assoc]
  exact hdecode

/-! ## 2. The device -/

/-- `imu_type_t`, less `IMU_TYPE_NONE`. -/
inductive ImuType
  | mpu6050
  | lsm6ds3
  deriving DecidableEq, Repr

inductive ImuIoTask
  /-- not started, or waiting for an IMU -/
  | absent
  /-- in its loop, with the type and the `byte_start` it has determined -/
  | running (type : ImuType) (byteStart : UInt8)
  | ended
  deriving DecidableEq, Repr

/-- The settings, two for each sensor. -/
structure ImuSettings where
  mpu6050ByteStart : Setting UInt8
  lsm6ds3ByteStart : Setting UInt8
  mpu6050Enabled : Setting Bool
  lsm6ds3Enabled : Setting Bool
  deriving DecidableEq, Repr

structure ImuDevice where
  settings : ImuSettings
  /-- `s_active_imu_type` -/
  activeImuType : Option ImuType
  /-- `s_imu_enabled_cached` -/
  imuEnabledCached : Bool
  imuIoTask : ImuIoTask
  /-- `g_assembly_data064` -/
  data064 : Bytes
  /-- what the task has written last, and where -/
  written : Option (UInt8 × ImuData)
  deriving DecidableEq, Repr

/-- After a reboot. -/
def ImuDevice.boot (nv : ImuSettings) : ImuDevice where
  settings :=
    { mpu6050ByteStart := nv.mpu6050ByteStart.reboot
      lsm6ds3ByteStart := nv.lsm6ds3ByteStart.reboot
      mpu6050Enabled := nv.mpu6050Enabled.reboot
      lsm6ds3Enabled := nv.lsm6ds3Enabled.reboot }
  activeImuType := none
  imuEnabledCached := false
  imuIoTask := .absent
  data064 := List.replicate 32 0
  written := none

/-- The offset of a sensor. -/
def ImuSettings.byteStart (x : ImuSettings) : ImuType → Setting UInt8
  | .mpu6050 => x.mpu6050ByteStart
  | .lsm6ds3 => x.lsm6ds3ByteStart

def ImuSettings.setByteStart (type : ImuType) (value : Setting UInt8) (x : ImuSettings) :
    ImuSettings :=
  match type with
  | .mpu6050 => { x with mpu6050ByteStart := value }
  | .lsm6ds3 => { x with lsm6ds3ByteStart := value }

/-- Whether a sensor is enabled. -/
def ImuSettings.enabled (x : ImuSettings) : ImuType → Setting Bool
  | .mpu6050 => x.mpu6050Enabled
  | .lsm6ds3 => x.lsm6ds3Enabled

def ImuSettings.setEnabled (type : ImuType) (value : Setting Bool) (x : ImuSettings) :
    ImuSettings :=
  match type with
  | .mpu6050 => { x with mpu6050Enabled := value }
  | .lsm6ds3 => { x with lsm6ds3Enabled := value }

/-- `imu_test_task`, where it finds an IMU. -/
def imuTestTask (type : ImuType) (readable : Bool) (d : ImuDevice) : ImuDevice :=
  { d with activeImuType := some type
           imuEnabledCached := enabledLoad readable (d.settings.enabled type) }

/-- `imu_io_task`, up to its loop. -/
def imuIoTaskStart (type : ImuType) (readable : Bool) (d : ImuDevice) : ImuDevice :=
  let byteStart := byteStartLoad readable (d.settings.byteStart type)
  if byteStart.toNat + imuDataSize > d.data064.length then { d with imuIoTask := .ended }
  else { d with imuIoTask := .running type byteStart }

/-- The values go into the assembly. -/
def ImuDevice.write (byteStart : UInt8) (v : ImuData) (d : ImuDevice) : ImuDevice :=
  { d with data064 := memcpy d.data064 byteStart.toNat v.bytes, written := some (byteStart, v) }

/-- The loop of `imu_io_task`, once; `reading` is what comes of the sensor. -/
def imuIoTaskCycle (byteStart : UInt8) (reading : Option ImuData) (d : ImuDevice) : ImuDevice :=
  if d.imuEnabledCached = false then d.write byteStart .zero
  else match reading with
    | some v => d.write byteStart v
    | none => d

/-- `api_post_mpu6050_byteoffset_handler` and `api_post_lsm6ds3_byteoffset_handler`, once they have
the value. -/
def postByteOffset (type : ImuType) (w : NvWrite) (startByte : UInt8) (d : ImuDevice) :
    Bool × ImuDevice :=
  let (ok, x) := byteStartPost w startByte (d.settings.byteStart type)
  (ok, { d with settings := d.settings.setByteStart type x })

/-- `api_post_mpu6050_enabled_handler` and `api_post_lsm6ds3_enabled_handler`, once they have the
value, with `sample_application_set_mpu6050_enabled` and its namesake: of these there are two, but
they set one variable. -/
def postEnabled (type : ImuType) (w : NvWrite) (enabled : Bool) (d : ImuDevice) :
    Bool × ImuDevice :=
  let (ok, x) := (d.settings.enabled type).post w enabled
  let d := { d with settings := d.settings.setEnabled type x }
  (ok, if ok = true then { d with imuEnabledCached := enabled } else d)

/-- `api_get_mpu6050_status_handler` and `api_get_lsm6ds3_status_handler`, once they have the lock:
the offset, and the values there if they are all in the assembly. -/
def getStatus (type : ImuType) (readable : Bool) (d : ImuDevice) :
    (UInt8 × Option ImuData) × ImuDevice :=
  let (offset, x) := (d.settings.byteStart type).get (byteStartLoad readable)
  ((offset, if offset.toNat + imuDataSize ≤ d.data064.length then
      some (decode d.data064 offset.toNat) else none),
    { d with settings := d.settings.setByteStart type x })

inductive ImuEvent
  | reboot
  /-- `imu_test_task` finds an IMU -/
  | found (type : ImuType) (readable : Bool)
  /-- `imu_io_task` sees it -/
  | start (readable : Bool)
  | cycle (reading : Option ImuData)
  /-- the task sees the handle of the bus gone -/
  | ended
  | postByteOffset (type : ImuType) (w : NvWrite) (startByte : UInt8)
  | postEnabled (type : ImuType) (w : NvWrite) (enabled : Bool)
  /-- a GET of the status, or of the offset -/
  | getStatus (type : ImuType) (readable : Bool)
  deriving DecidableEq, Repr

def imuStep (d : ImuDevice) : ImuEvent → Option ImuDevice
  | .reboot => some (.boot d.settings)
  | .found type readable =>
    if d.activeImuType = none then some (imuTestTask type readable d) else none
  | .start readable =>
    match d.imuIoTask, d.activeImuType with
    | .absent, some type => some (imuIoTaskStart type readable d)
    | _, _ => none
  | .cycle reading =>
    match d.imuIoTask with
    | .running _ byteStart => some (imuIoTaskCycle byteStart reading d)
    | .absent | .ended => none
  | .ended =>
    match d.imuIoTask with
    | .running _ _ => some { d with imuIoTask := .ended }
    | .absent | .ended => none
  | .postByteOffset type w startByte => some (postByteOffset type w startByte d).2
  | .postEnabled type w enabled => some (postEnabled type w enabled d).2
  | .getStatus type readable => some (getStatus type readable d).2

/-! ## 3. The offset does not move -/

variable {d d' : ImuDevice} {e : ImuEvent} {type : ImuType}

/-- The offset at which the status handler of the sensor reads. -/
def ImuDevice.statusOffset (type : ImuType) (d : ImuDevice) : UInt8 := (getStatus type true d).1.1

/-- The status handler of the sensor that the task runs on reads where the task has last written. -/
def ImuDevice.Agrees (d : ImuDevice) : Prop :=
  ∀ type byteStart, d.imuIoTask = .running type byteStart →
    ∀ offset v, d.written = some (offset, v) → d.statusOffset type = offset

/-- The task runs on the sensor. -/
def ImuDevice.runsOn (type : ImuType) (d : ImuDevice) : Bool :=
  match d.imuIoTask with
  | .running t _ => decide (t = type)
  | .absent | .ended => false

/-- A load finds what is in the flash. -/
def Found (readable : Bool) (x : Setting UInt8) : Prop := readable = true ∨ byteStartLoad true x = 0

/-- A POST leaves the offset in use: it is refused, or sets the same again, or its write is
reported as failed and there is a copy. -/
def Keeps (w : NvWrite) (startByte : UInt8) (x : Setting UInt8) : Prop :=
  12 < startByte ∨ w = .refused ∨ startByte = x.cached.getD (byteStartLoad true x) ∨
    w = .uncommitted ∧ x.cached ≠ none

/-- No POST moves the offset of the sensor that the task runs on; what is loaded for it is what is
in the flash; and when the task loads it, a copy says the same. -/
def Steady (d : ImuDevice) : ImuEvent → Prop
  | .start readable => ∀ type ∈ d.activeImuType,
    Found readable (d.settings.byteStart type) ∧
      ((d.settings.byteStart type).cached = none ∨ (d.settings.byteStart type).cached =
        some (byteStartLoad true (d.settings.byteStart type)))
  | .postByteOffset type w startByte =>
    d.runsOn type = true → Keeps w startByte (d.settings.byteStart type)
  | .getStatus type readable =>
    d.runsOn type = true → (d.settings.byteStart type).cached = none →
      Found readable (d.settings.byteStart type)
  | _ => True

instance Found.decidable (readable : Bool) (x : Setting UInt8) : Decidable (Found readable x) :=
  inferInstanceAs (Decidable (_ ∨ _))

instance Keeps.decidable (w : NvWrite) (startByte : UInt8) (x : Setting UInt8) :
    Decidable (Keeps w startByte x) :=
  inferInstanceAs (Decidable (_ ∨ _))

instance Steady.decidable (d : ImuDevice) : ∀ e, Decidable (Steady d e)
  | .start _ => inferInstanceAs (Decidable (∀ type ∈ d.activeImuType, _))
  | .postByteOffset _ _ _ | .getStatus _ _ => inferInstanceAs (Decidable (_ → _))
  | .reboot | .found _ _ | .cycle _ | .ended | .postEnabled _ _ _ =>
    inferInstanceAs (Decidable True)

theorem byteStart_setByteStart (t type : ImuType) (y : Setting UInt8) (x : ImuSettings) :
    (x.setByteStart t y).byteStart type = if type = t then y else x.byteStart type := by
  cases t <;> cases type <;> rfl

theorem byteStart_setEnabled (t type : ImuType) (y : Setting Bool) (x : ImuSettings) :
    (x.setEnabled t y).byteStart type = x.byteStart type := by
  cases t <;> rfl

theorem statusOffset_eq : d.statusOffset type =
    (d.settings.byteStart type).cached.getD (byteStartLoad true (d.settings.byteStart type)) :=
  rfl

theorem runsOn_of {byteStart : UInt8} (h : d.imuIoTask = .running type byteStart) :
    d.runsOn type = true := by
  rw [ImuDevice.runsOn, h]
  exact decide_eq_true rfl

theorem byteStartLoad_eq {readable : Bool} {x : Setting UInt8} (h : Found readable x) :
    byteStartLoad readable x = byteStartLoad true x := by
  cases readable with
  | true => rfl
  | false =>
    rcases h with hread | hzero
    · cases hread
    · rw [hzero]
      rfl

/-- **A POST that keeps the offset** keeps it for the handlers. -/
theorem Keeps.post {w : NvWrite} {startByte : UInt8} {x : Setting UInt8}
    (h : Keeps w startByte x) :
    (byteStartPost w startByte x).2.cached.getD (byteStartLoad true (byteStartPost w startByte x).2)
      = x.cached.getD (byteStartLoad true x) := by
  unfold byteStartPost
  by_cases hbig : startByte > 12
  · rw [if_pos hbig]
  rw [if_neg hbig]
  cases w with
  | refused => rfl
  | ok =>
    rcases h with hlarge | hw | hsame | ⟨hw, -⟩
    · exact absurd hlarge hbig
    · cases hw
    · exact hsame
    · cases hw
  | uncommitted =>
    show x.cached.getD (byteStartLoad true { x with nv := some startByte }) = _
    cases hcached : x.cached with
    | some c => rfl
    | none =>
      rcases h with hlarge | hw | hsame | ⟨-, hsome⟩
      · exact absurd hlarge hbig
      · cases hw
      · rw [hcached] at hsame
        have hle : decide (startByte ≤ 12) = true := decide_eq_true (UInt8.not_lt.1 hbig)
        rw [Option.getD_none, byteStartLoad, Setting.load, if_pos rfl, Option.filter_some, hle]
        exact hsame
      · exact absurd hcached hsome

/-- Where the task writes is where the handler reads, and what is written is there. -/
structure Settled (d : ImuDevice) : Prop where
  size : d.data064.length = 32
  idle : d.imuIoTask = .absent → d.written = none
  fits : ∀ type byteStart, d.imuIoTask = .running type byteStart →
    byteStart.toNat + imuDataSize ≤ 32
  offset : ∀ type byteStart, d.imuIoTask = .running type byteStart →
    d.statusOffset type = byteStart
  written : ∀ type byteStart, d.imuIoTask = .running type byteStart →
    ∀ o v, d.written = some (o, v) → o = byteStart ∧ decode d.data064 byteStart.toNat = v

theorem Settled.boot (nv : ImuSettings) : Settled (.boot nv) where
  size := List.length_replicate
  idle := fun _ => rfl
  fits := by
    intro type byteStart hrun
    cases hrun
  offset := by
    intro type byteStart hrun
    cases hrun
  written := by
    intro type byteStart hrun
    cases hrun

/-- Settings may change as long as the offset in use does not. -/
theorem Settled.settings (h : Settled d) {x : ImuSettings} {enabled : Bool}
    (hsame : ∀ type, d.runsOn type = true →
      (x.byteStart type).cached.getD (byteStartLoad true (x.byteStart type)) =
        d.statusOffset type) :
    Settled { d with settings := x, imuEnabledCached := enabled } where
  size := h.size
  idle := h.idle
  fits := h.fits
  offset := by
    intro type byteStart hrun
    rw [statusOffset_eq]
    exact (hsame type (runsOn_of hrun)).trans (h.offset type byteStart hrun)
  written := h.written

/-- **One setting** may change as long as it stays what it is for the sensor in use. -/
theorem Settled.setByteStart (h : Settled d) {x : Setting UInt8}
    (hsame : d.runsOn type = true → x.cached.getD (byteStartLoad true x) = d.statusOffset type) :
    Settled { d with settings := d.settings.setByteStart type x } := by
  refine h.settings fun t hrun => ?_
  rw [byteStart_setByteStart]
  by_cases ht : t = type
  · subst ht
    rw [if_pos rfl]
    exact hsame hrun
  · rw [if_neg ht, statusOffset_eq]

/-- **A write** is where the handler reads. -/
theorem Settled.write (h : Settled d) {byteStart : UInt8}
    (hrun : d.imuIoTask = .running type byteStart) (v : ImuData) :
    Settled (d.write byteStart v) where
  size := by
    rw [ImuDevice.write, memcpy_length]
    exact h.size
  idle := by
    intro habsent
    have habsent : d.imuIoTask = .absent := habsent
    rw [hrun] at habsent
    cases habsent
  fits := h.fits
  offset := h.offset
  written := by
    intro t b hrun' o u hwritten
    have hrun' : d.imuIoTask = .running t b := hrun'
    rw [hrun] at hrun'
    obtain ⟨rfl, rfl⟩ := ImuIoTask.running.inj hrun'
    obtain ⟨rfl, rfl⟩ := Prod.mk.inj (Option.some.inj hwritten)
    refine ⟨rfl, decode_write ?_ v⟩
    rw [h.size]
    exact h.fits _ _ hrun

/-- **The task starts** with the offset that the handler uses. -/
theorem Settled.start (h : Settled d) {readable : Bool} (habsent : d.imuIoTask = .absent)
    (hfound : Found readable (d.settings.byteStart type))
    (hcopy : (d.settings.byteStart type).cached = none ∨ (d.settings.byteStart type).cached =
      some (byteStartLoad true (d.settings.byteStart type))) :
    Settled (imuIoTaskStart type readable d) := by
  have hoffset : d.statusOffset type = byteStartLoad readable (d.settings.byteStart type) := by
    rw [statusOffset_eq, byteStartLoad_eq hfound]
    rcases hcopy with hnone | hsome
    · rw [hnone, Option.getD_none]
    · rw [hsome, Option.getD_some]
  have hfits := byteStartLoad_le readable (d.settings.byteStart type)
  unfold imuIoTaskStart
  dsimp only
  rw [if_neg (by rw [h.size]; omega)]
  refine ⟨h.size, ?_, ?_, ?_, ?_⟩
  · intro hno
    cases hno
  · intro t b hrun
    obtain ⟨rfl, rfl⟩ := ImuIoTask.running.inj hrun
    exact hfits
  · intro t b hrun
    obtain ⟨rfl, rfl⟩ := ImuIoTask.running.inj hrun
    exact hoffset
  · intro t b _ o v hwritten
    have hwritten : d.written = some (o, v) := hwritten
    rw [h.idle habsent] at hwritten
    cases hwritten

theorem Settled.step (h : Settled d) (hg : Steady d e) (hs : imuStep d e = some d') :
    Settled d' := by
  cases e with
  | reboot =>
    obtain rfl := Option.some.inj hs
    exact .boot _
  | found type readable =>
    rw [imuStep] at hs
    split at hs
    · obtain rfl := Option.some.inj hs
      exact ⟨h.size, h.idle, h.fits, h.offset, h.written⟩
    · cases hs
  | start readable =>
    rw [imuStep] at hs
    split at hs
    · rename_i type habsent hactive
      obtain rfl := Option.some.inj hs
      obtain ⟨hfound, hcopy⟩ := hg type hactive
      exact h.start habsent hfound hcopy
    · cases hs
  | cycle reading =>
    rw [imuStep] at hs
    split at hs
    · rename_i type byteStart hrun
      obtain rfl := Option.some.inj hs
      unfold imuIoTaskCycle
      split
      · exact h.write hrun _
      · split
        · exact h.write hrun _
        · exact h
    · cases hs
    · cases hs
  | ended =>
    rw [imuStep] at hs
    split at hs
    · obtain rfl := Option.some.inj hs
      refine ⟨h.size, ?_, ?_, ?_, ?_⟩
      · intro hno
        cases hno
      · intro t b hrun
        cases hrun
      · intro t b hrun
        cases hrun
      · intro t b hrun
        cases hrun
    · cases hs
    · cases hs
  | postByteOffset type w startByte =>
    obtain rfl := Option.some.inj hs
    exact h.setByteStart fun hrun => (hg hrun).post
  | postEnabled type w enabled =>
    obtain rfl := Option.some.inj hs
    have hsame : ∀ t, d.runsOn t = true →
        ((d.settings.setEnabled type ((d.settings.enabled type).post w enabled).2).byteStart
            t).cached.getD (byteStartLoad true ((d.settings.setEnabled type
              ((d.settings.enabled type).post w enabled).2).byteStart t)) = d.statusOffset t := by
      intro t _
      rw [byteStart_setEnabled, statusOffset_eq]
    unfold postEnabled
    dsimp only
    split
    · exact h.settings hsame
    · exact h.settings hsame
  | getStatus type readable =>
    obtain rfl := Option.some.inj hs
    refine h.setByteStart fun hrun => ?_
    rw [statusOffset_eq]
    show (d.settings.byteStart type).cached.getD (byteStartLoad readable _) = _
    cases hcached : (d.settings.byteStart type).cached with
    | some c => rfl
    | none =>
      rw [Option.getD_none, Option.getD_none]
      exact byteStartLoad_eq (hg hrun hcached)

theorem Settled.agrees (h : Settled d) : d.Agrees := by
  intro type byteStart hrun o v hwritten
  rw [(h.written type byteStart hrun o v hwritten).1]
  exact h.offset type byteStart hrun

/-- **The offsets agree.**  In every steady run from a boot, the status handler of the sensor that
the task runs on reads where the task has last written. -/
theorem offsets_agree {nv : ImuSettings} (h : Run imuStep Steady (.boot nv) d) : d.Agrees :=
  (h.invariant (fun _ _ _ ht hg hs => ht.step hg hs) (Settled.boot nv)).agrees

/-- So it finds the values that the task has last written. -/
theorem status_values {nv : ImuSettings} (h : Run imuStep Steady (.boot nv) d)
    {byteStart o : UInt8} {v : ImuData} (hrun : d.imuIoTask = .running type byteStart)
    (hwritten : d.written = some (o, v)) : (getStatus type true d).1 = (o, some v) := by
  have hsettled : Settled d :=
    h.invariant (fun _ _ _ ht hg hs => ht.step hg hs) (Settled.boot nv)
  obtain ⟨rfl, hdecode⟩ := hsettled.written type byteStart hrun o v hwritten
  have hoffset : (getStatus type true d).1.1 = o := hsettled.offset type o hrun
  have hfits := hsettled.fits type o hrun
  have hvalues : (getStatus type true d).1.2 =
      if (getStatus type true d).1.1.toNat + imuDataSize ≤ d.data064.length then
        some (decode d.data064 (getStatus type true d).1.1.toNat) else none := rfl
  rw [hoffset, if_pos (by rw [hsettled.size]; exact hfits), hdecode] at hvalues
  exact Prod.ext hoffset hvalues

/-! ## 4. One POST -/

/-- Offset 4 stored for the MPU6050, nothing else. -/
def stored : ImuSettings := ⟨⟨some 4, none⟩, ⟨none, none⟩, ⟨some true, none⟩, ⟨none, none⟩⟩

/-- The task starts on the MPU6050 and writes. -/
def measure : List ImuEvent :=
  [.found .mpu6050 true, .start true, .cycle (some ⟨1, 2, 3, 4, 5⟩)]

theorem offsets_agree_other :
    ∃ d, exec imuStep (.boot stored)
        (measure ++ [.postByteOffset .lsm6ds3 .ok 12, .postEnabled .mpu6050 .ok false,
          .cycle none]) = some d ∧
      d.written = some (4, .zero) ∧ d.imuIoTask = .running .mpu6050 4 ∧ d.Agrees := by
  have hmeets : execMeets imuStep Steady (.boot stored)
      (measure ++ [.postByteOffset .lsm6ds3 .ok 12, .postEnabled .mpu6050 .ok false,
        .cycle none]) := by
    decide
  exact ⟨_, rfl, rfl, rfl, offsets_agree (exec_run hmeets rfl)⟩

/-- **An offset moved** by a POST: the task goes on writing at 4, and the handler reads at 12, where
it takes the last values for the first and finds nothing for the others. -/
theorem offset_moved : ¬ ∀ nv d, Reach imuStep (.boot nv) d → d.Agrees := by
  intro hall
  obtain ⟨d, hd, hrun, hwritten, hoffset⟩ : ∃ d, exec imuStep (.boot stored)
      (measure ++ [.postByteOffset .mpu6050 .ok 12, .cycle (some ⟨1, 2, 3, 4, 5⟩)]) = some d ∧
      d.imuIoTask = .running .mpu6050 4 ∧ d.written = some (4, ⟨1, 2, 3, 4, 5⟩) ∧
      d.statusOffset .mpu6050 = 12 := ⟨_, rfl, rfl, rfl, rfl⟩
  have hsame := hall stored d (exec_reach hd) .mpu6050 4 hrun 4 _ hwritten
  rw [hoffset] at hsame
  cases hsame

end GroundTruth.Imu
