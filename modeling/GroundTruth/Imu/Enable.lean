/-
# What enables the IMU

`imu_io_task` obeys one flag, `s_imu_enabled_cached`.  `imu_test_task` loads it for the sensor that
it finds.  There are two settings, one for each sensor, and two POST handlers that save them; each
then calls its own setter in `main.c`, "so I/O task picks up the change immediately".  But the two
setters set the one flag, and neither looks at which sensor is fitted.

* `enableAgrees_step`: what agrees with the setting of the sensor fitted goes on agreeing with it
  over a step just when the step meets `Fitted`;
* `enable_agrees`: so the flag is that setting in every run of such steps, and `cycle_obeys`: the
  task does what the setting says;
* `enable_overwritten`: a POST for the sensor that is not there stops the one that is.
-/
import GroundTruth.Imu.Offset

namespace GroundTruth.Imu

open GroundTruth.Lib GroundTruth.Web
open GroundTruth.Tcpip (NvWrite)

/-! ## 1. The calls -/

/-- `api_get_mpu6050_enabled_handler` and `api_get_lsm6ds3_enabled_handler`. -/
def getEnabled (type : ImuType) (readable : Bool) (d : ImuDevice) : Bool × ImuDevice :=
  let (enabled, x) := (d.settings.enabled type).get (enabledLoad readable)
  (enabled, { d with settings := d.settings.setEnabled type x })

inductive EnableEvent
  | imu (e : ImuEvent)
  | getEnabled (type : ImuType) (readable : Bool)
  deriving DecidableEq, Repr

def enableStep (d : ImuDevice) : EnableEvent → Option ImuDevice
  | .imu e => imuStep d e
  | .getEnabled type readable => some (getEnabled type readable d).2

/-- The flag that the task obeys is the one in the flash for the sensor fitted. -/
def ImuDevice.EnableAgrees (d : ImuDevice) : Prop :=
  ∀ type, d.activeImuType = some type →
    d.imuEnabledCached = enabledLoad true (d.settings.enabled type)

/-- A POST for `type`, with `active` fitted, leaves the two together: for the sensor fitted it does
unless the flash takes a value and reports that it has not, for the other it does unless it is
saved; and it always does when the value is the one that the task obeys. -/
def KeepsEnabled (active type : ImuType) (w : NvWrite) (enabled : Bool) (d : ImuDevice) : Prop :=
  enabled = d.imuEnabledCached ∨ w ≠ if type = active then .uncommitted else .ok

/-- No POST for the sensor that is not fitted changes the flag, and what `imu_test_task` loads is
what is in the flash. -/
def Fitted (d : ImuDevice) : EnableEvent → Prop
  | .imu (.found type readable) =>
    readable = true ∨ enabledLoad true (d.settings.enabled type) = false
  | .imu (.postEnabled type w enabled) =>
    ∀ active ∈ d.activeImuType, KeepsEnabled active type w enabled d
  | _ => True

instance KeepsEnabled.decidable (active type : ImuType) (w : NvWrite) (enabled : Bool)
    (d : ImuDevice) : Decidable (KeepsEnabled active type w enabled d) :=
  inferInstanceAs (Decidable (_ ∨ _))

instance Fitted.decidable (d : ImuDevice) : ∀ e, Decidable (Fitted d e)
  | .imu (.found _ _) => inferInstanceAs (Decidable (_ ∨ _))
  | .imu (.postEnabled _ _ _) => inferInstanceAs (Decidable (∀ active ∈ d.activeImuType, _))
  | .imu .reboot | .imu (.start _) | .imu (.cycle _) | .imu .ended | .imu (.postByteOffset _ _ _)
  | .imu (.getStatus _ _) | .getEnabled _ _ => inferInstanceAs (Decidable True)

/-! ## 2. One step -/

variable {d d' : ImuDevice} {e : EnableEvent} {type active : ImuType}

theorem enabled_setEnabled (t type : ImuType) (y : Setting Bool) (x : ImuSettings) :
    (x.setEnabled t y).enabled type = if type = t then y else x.enabled type := by
  cases t <;> cases type <;> rfl

@[simp] theorem enabled_setByteStart (t type : ImuType) (y : Setting UInt8) (x : ImuSettings) :
    (x.setByteStart t y).enabled type = x.enabled type := by
  cases t <;> rfl

/-- The two devices have the same sensor, the same flag, and the same in the flash for it. -/
structure SameEnabled (d d' : ImuDevice) : Prop where
  active : d'.activeImuType = d.activeImuType
  cached : d'.imuEnabledCached = d.imuEnabledCached
  stored : ∀ type, (d'.settings.enabled type).nv = (d.settings.enabled type).nv

theorem SameEnabled.refl (d : ImuDevice) : SameEnabled d d := ⟨rfl, rfl, fun _ => rfl⟩

/-- What is loaded is what is in the flash. -/
theorem enabledLoad_congr {x y : Setting Bool} (h : x.nv = y.nv) (readable : Bool) :
    enabledLoad readable x = enabledLoad readable y := by
  simp only [enabledLoad, Setting.load, h]

theorem enabledLoad_some {x : Setting Bool} {b : Bool} (h : x.nv = some b) :
    enabledLoad true x = b := by
  rw [enabledLoad, Setting.load, if_pos rfl, h]
  rfl

theorem SameEnabled.agrees (h : SameEnabled d d') (ha : d.EnableAgrees) : d'.EnableAgrees := by
  intro type hactive
  rw [h.active] at hactive
  rw [h.cached, enabledLoad_congr (h.stored type)]
  exact ha type hactive

theorem SameEnabled.start (readable : Bool) : SameEnabled d (imuIoTaskStart type readable d) := by
  unfold imuIoTaskStart
  dsimp only
  split <;> exact ⟨rfl, rfl, fun _ => rfl⟩

theorem SameEnabled.cycle (byteStart : UInt8) (reading : Option ImuData) :
    SameEnabled d (imuIoTaskCycle byteStart reading d) := by
  unfold imuIoTaskCycle
  split
  · exact ⟨rfl, rfl, fun _ => rfl⟩
  · split
    · exact ⟨rfl, rfl, fun _ => rfl⟩
    · exact .refl d

theorem SameEnabled.setByteStart (x : Setting UInt8) :
    SameEnabled d { d with settings := d.settings.setByteStart type x } :=
  ⟨rfl, rfl, fun t => congrArg Setting.nv (enabled_setByteStart type t x d.settings)⟩

/-- A GET makes a copy and leaves the flash as it is. -/
theorem SameEnabled.getEnabled (readable : Bool) :
    SameEnabled d (getEnabled type readable d).2 := by
  refine ⟨rfl, rfl, fun t => ?_⟩
  show ((d.settings.setEnabled type _).enabled t).nv = _
  rw [enabled_setEnabled]
  split
  · rename_i ht
    subst ht
    rfl
  · rfl

/-- **A sensor found**: the flag is what is loaded. -/
theorem enableAgrees_found (readable : Bool) :
    (imuTestTask type readable d).EnableAgrees ↔
      readable = true ∨ enabledLoad true (d.settings.enabled type) = false := by
  have hagrees : (imuTestTask type readable d).EnableAgrees ↔
      enabledLoad readable (d.settings.enabled type) =
        enabledLoad true (d.settings.enabled type) := by
    constructor
    · intro h
      exact h type rfl
    · intro h t ht
      obtain rfl := Option.some.inj ht
      exact h
  rw [hagrees]
  cases readable with
  | true => simp
  | false =>
    constructor
    · intro h
      exact .inr h.symm
    · rintro (h | h)
      · cases h
      · exact h.symm

@[simp] theorem postEnabled_active (w : NvWrite) (enabled : Bool) :
    (postEnabled type w enabled d).2.activeImuType = d.activeImuType := by
  cases w <;> rfl

theorem postEnabled_cached (w : NvWrite) (enabled : Bool) :
    (postEnabled type w enabled d).2.imuEnabledCached =
      if w = .ok then enabled else d.imuEnabledCached := by
  cases w <;> rfl

/-- A POST reaches the flash unless the flash refuses it, and there the setting of its sensor. -/
theorem postEnabled_stored (w : NvWrite) (enabled : Bool) (t : ImuType) :
    ((postEnabled type w enabled d).2.settings.enabled t).nv =
      if t = type ∧ w ≠ .refused then some enabled else (d.settings.enabled t).nv := by
  have hsettings : (postEnabled type w enabled d).2.settings =
      d.settings.setEnabled type ((d.settings.enabled type).post w enabled).2 := by
    cases w <;> rfl
  rw [hsettings, enabled_setEnabled]
  by_cases ht : t = type
  · subst ht
    rw [if_pos rfl]
    cases w <;> simp [Setting.post, Setting.save]
  · rw [if_neg ht, if_neg (fun h => ht h.1)]

/-- With a sensor fitted there is one setting to look at. -/
theorem enableAgrees_iff (hactive : d.activeImuType = some active) :
    d.EnableAgrees ↔ d.imuEnabledCached = enabledLoad true (d.settings.enabled active) := by
  constructor
  · intro h
    exact h active hactive
  · intro h type htype
    rw [hactive] at htype
    obtain rfl := Option.some.inj htype
    exact h

/-- **A POST** for either sensor. -/
theorem enableAgrees_post (h : d.EnableAgrees) (hactive : d.activeImuType = some active)
    (w : NvWrite) (enabled : Bool) :
    (postEnabled type w enabled d).2.EnableAgrees ↔ KeepsEnabled active type w enabled d := by
  have hbefore := (enableAgrees_iff hactive).1 h
  have hafter : (postEnabled type w enabled d).2.activeImuType = some active := by
    rw [postEnabled_active, hactive]
  rw [enableAgrees_iff hafter, postEnabled_cached, KeepsEnabled]
  have hstored : ((postEnabled type w enabled d).2.settings.enabled active).nv = _ :=
    postEnabled_stored w enabled active
  by_cases ht : active = type
  · subst ht
    rw [if_pos rfl]
    cases w with
    | ok =>
      -- saved, and the flag set
      rw [if_pos ⟨rfl, by simp⟩] at hstored
      rw [enabledLoad_some hstored]
      simp
    | uncommitted =>
      -- in the flash, and the flag as it was
      rw [if_pos ⟨rfl, by simp⟩] at hstored
      rw [enabledLoad_some hstored]
      simp [eq_comm]
    | refused =>
      rw [if_neg (by simp)] at hstored
      rw [enabledLoad_congr hstored]
      simp [hbefore]
  · -- the flash has nothing new for the sensor that is fitted
    rw [if_neg (fun h => ht h.1)] at hstored
    rw [if_neg (Ne.symm ht), enabledLoad_congr hstored, ← hbefore]
    cases w with
    | ok => simp
    | uncommitted => simp
    | refused => simp

/-- **One step** keeps the flag with the setting just when it meets the condition. -/
theorem enableAgrees_step (h : d.EnableAgrees) (hs : enableStep d e = some d') :
    d'.EnableAgrees ↔ Fitted d e := by
  -- a step that touches neither
  have hsame : ∀ x, SameEnabled d x → (x.EnableAgrees ↔ True) := by
    intro x hx
    exact iff_true_intro (hx.agrees h)
  cases e with
  | getEnabled type readable =>
    obtain rfl := Option.some.inj hs
    exact hsame _ (.getEnabled readable)
  | imu e =>
    rw [enableStep] at hs
    cases e with
    | reboot =>
      obtain rfl := Option.some.inj hs
      refine iff_of_true ?_ trivial
      intro type htype
      cases htype
    | found type readable =>
      obtain ⟨-, hfound⟩ := Option.ite_none_right_eq_some.1 hs
      obtain rfl := Option.some.inj hfound
      exact enableAgrees_found readable
    | start readable =>
      rw [imuStep] at hs
      split at hs
      · obtain rfl := Option.some.inj hs
        exact hsame _ (.start readable)
      · cases hs
    | cycle reading =>
      rw [imuStep] at hs
      split at hs
      · obtain rfl := Option.some.inj hs
        exact hsame _ (.cycle _ reading)
      · cases hs
      · cases hs
    | ended =>
      rw [imuStep] at hs
      split at hs
      · obtain rfl := Option.some.inj hs
        exact hsame _ ⟨rfl, rfl, fun _ => rfl⟩
      · cases hs
      · cases hs
    | postByteOffset type w startByte =>
      obtain rfl := Option.some.inj hs
      exact hsame _ (.setByteStart _)
    | getStatus type readable =>
      obtain rfl := Option.some.inj hs
      exact hsame _ (.setByteStart _)
    | postEnabled type w enabled =>
      obtain rfl := Option.some.inj hs
      cases hactive : d.activeImuType with
      | none =>
        refine iff_of_true ?_ ?_
        · intro t ht
          rw [postEnabled_active, hactive] at ht
          cases ht
        · intro active hmem
          rw [hactive] at hmem
          cases hmem
      | some active =>
        rw [enableAgrees_post h hactive]
        constructor
        · intro hkeeps t ht
          rw [hactive] at ht
          obtain rfl := Option.some.inj ht
          exact hkeeps
        · intro hfitted
          exact hfitted active hactive

/-! ## 3. Runs -/

/-- **The flag is the setting.**  In every run from a boot whose POSTs leave the sensor that is not
fitted alone, the flag that the task obeys is the one stored for the sensor fitted. -/
theorem enable_agrees {nv : ImuSettings} (h : Run enableStep Fitted (.boot nv) d) :
    d.EnableAgrees := by
  refine h.invariant (fun _ _ _ ha hg hs => (enableAgrees_step ha hs).2 hg) ?_
  intro type htype
  cases htype

/-- So the task writes zeros when the setting of its sensor says that it is not enabled, and what
the sensor says otherwise. -/
theorem cycle_obeys {nv : ImuSettings} (h : Run enableStep Fitted (.boot nv) d)
    (hactive : d.activeImuType = some type) (byteStart : UInt8) (v : ImuData) :
    imuIoTaskCycle byteStart (some v) d =
      d.write byteStart (if enabledLoad true (d.settings.enabled type) = true then v else .zero) := by
  rw [imuIoTaskCycle, enable_agrees h type hactive]
  cases enabledLoad true (d.settings.enabled type) with
  | true => rfl
  | false => rfl

/-- The MPU6050 is enabled, the LSM6DS3 has never been set. -/
def mpu6050Stored : ImuSettings := ⟨⟨none, none⟩, ⟨none, none⟩, ⟨some true, none⟩, ⟨none, none⟩⟩

theorem enable_agrees_fitted :
    ∃ d, exec enableStep (.boot mpu6050Stored) [.imu (.found .mpu6050 true),
        .imu (.postEnabled .mpu6050 .ok false), .imu (.postEnabled .lsm6ds3 .ok false),
        .getEnabled .lsm6ds3 true, .imu (.postEnabled .mpu6050 .refused true)] = some d ∧
      d.activeImuType = some .mpu6050 ∧ d.imuEnabledCached = false ∧ d.EnableAgrees := by
  have hmeets : execMeets enableStep Fitted (.boot mpu6050Stored) [.imu (.found .mpu6050 true),
      .imu (.postEnabled .mpu6050 .ok false), .imu (.postEnabled .lsm6ds3 .ok false),
      .getEnabled .lsm6ds3 true, .imu (.postEnabled .mpu6050 .refused true)] := by
    decide
  exact ⟨_, rfl, rfl, rfl, enable_agrees (exec_run hmeets rfl)⟩

/-- **A flag overwritten**: the MPU6050 is found and enabled, and a POST that disables the LSM6DS3
makes the task write zeros. -/
theorem enable_overwritten : ¬ ∀ nv d, Reach enableStep (.boot nv) d → d.EnableAgrees := by
  intro hall
  obtain ⟨d, hd, hactive, hcached, hstored⟩ : ∃ d, exec enableStep (.boot mpu6050Stored)
      [.imu (.found .mpu6050 true), .imu (.postEnabled .lsm6ds3 .ok false)] = some d ∧
      d.activeImuType = some .mpu6050 ∧ d.imuEnabledCached = false ∧
      enabledLoad true (d.settings.enabled .mpu6050) = true := ⟨_, rfl, rfl, rfl, rfl⟩
  have hagrees := hall mpu6050Stored d (exec_reach hd) .mpu6050 hactive
  rw [hcached, hstored] at hagrees
  cases hagrees

end GroundTruth.Imu
