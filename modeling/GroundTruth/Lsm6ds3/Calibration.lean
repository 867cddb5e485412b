/-
# The stored calibration of the LSM6DS3

`lsm6ds3_save_calibration_to_nvs` stores two offsets and two flags under four keys;
`lsm6ds3_load_calibration_from_nvs` reads the offsets back straight into the handle, one after the
other, and then the flags.  An offset is three floats, kept as the bytes that the flash has of them.
Every call of the NVS library may fail, and one that reads leaves its output alone if it does.

A blob that is too short is read without an error: the load has noticed by its size, and returns the
error code that says success.  One that is not read at all is an error, but by then the offset of
the accelerometer may be in the handle.

* `nvsGetBlob_cases`: what a read of a blob can do;
* `allOrNothing_iff`: when the load is all or nothing; `load_save`: what it makes of a calibration
  that was saved; `calibration_load`: both;
* `short_loaded`: a short blob is a success.
-/
import GroundTruth.Lib.Bytes

namespace GroundTruth.Lsm6ds3

open GroundTruth.Lib

/-! ## 1. The calibration and the flash -/

/-- `sizeof(float) * 3` -/
def offsetSize : Nat := 12

/-- `float [3]` -/
structure Offset where
  bytes : Bytes
  size : bytes.length = offsetSize
  deriving DecidableEq

/-- `lsm6ds3_calibration_t` -/
@[ext] structure Calibration where
  accelOffsetMg : Offset
  gyroOffsetMdps : Offset
  accelCalibrated : Bool
  gyroCalibrated : Bool
  deriving DecidableEq

/-- `esp_err_t`, as far as it is told apart. -/
inductive EspErr
  | ok
  | nvsNotFound
  | nvsInvalidLength
  | other (code : Nat)
  deriving DecidableEq, Repr

/-- The keys. -/
inductive Key
  | accelOffset
  | gyroOffset
  | accelCal
  | gyroCal
  deriving DecidableEq, Repr

/-- The calls of the NVS library. -/
inductive Call
  | nvsOpen
  | nvsGet (key : Key)
  | nvsSet (key : Key)
  | nvsCommit
  deriving DecidableEq, Repr

/-- What each call has to report, the missing keys and the sizes apart. -/
abbrev Calls := Call → EspErr

/-- The NVS namespace: what is there under each of the keys. -/
structure Namespace where
  accelOffset : Option Bytes
  gyroOffset : Option Bytes
  accelCal : Option UInt8
  gyroCal : Option UInt8
  deriving DecidableEq

/-- Bytes written over the front of an offset. -/
def Offset.write (o : Offset) (data : Bytes) (h : data.length ≤ offsetSize) : Offset where
  bytes := data ++ o.bytes.drop data.length
  size := by
    have := o.size
    rw [List.length_append, List.length_drop]
    omega

/-- `nvs_get_blob` into an offset, and the size it leaves. -/
def nvsGetBlob (err : EspErr) (stored : Option Bytes) (out : Offset) : EspErr × Offset × Nat :=
  if err ≠ .ok then (err, out, offsetSize)
  else
    match stored with
    | none => (.nvsNotFound, out, offsetSize)
    | some data =>
      if h : data.length ≤ offsetSize then (.ok, out.write data h, data.length)
      else (.nvsInvalidLength, out, data.length)

/-- `nvs_get_u8` into a flag of the handle: the flag stays if there is an error. -/
def nvsGetFlag (err : EspErr) (stored : Option UInt8) (flag : Bool) : Bool :=
  if err ≠ .ok then flag
  else
    match stored with
    | none => flag
    | some value => value != 0

/-- `nvs_set_blob` and `nvs_set_u8` -/
def nvsSet {α : Type} (err : EspErr) (value : α) (stored : Option α) : Option α :=
  if err ≠ .ok then stored else some value

/-! ## 2. Saving and loading -/

/-- `lsm6ds3_save_calibration_to_nvs`, of a handle and a name that are there. -/
def saveCalibrationToNvs (err : Calls) (c : Calibration) (nvs : Namespace) : EspErr × Namespace :=
  if err .nvsOpen ≠ .ok then (err .nvsOpen, nvs)
  else
    let e := err (.nvsSet .accelOffset)
    let nvs := { nvs with accelOffset := nvsSet e c.accelOffsetMg.bytes nvs.accelOffset }
    if e ≠ .ok then (e, nvs)
    else
      let e := err (.nvsSet .gyroOffset)
      let nvs := { nvs with gyroOffset := nvsSet e c.gyroOffsetMdps.bytes nvs.gyroOffset }
      if e ≠ .ok then (e, nvs)
      else
        let e := err (.nvsSet .accelCal)
        let nvs := { nvs with
          accelCal := nvsSet e (if c.accelCalibrated then 1 else 0) nvs.accelCal }
        if e ≠ .ok then (e, nvs)
        else
          let e := err (.nvsSet .gyroCal)
          let nvs := { nvs with
            gyroCal := nvsSet e (if c.gyroCalibrated then 1 else 0) nvs.gyroCal }
          if e ≠ .ok then (e, nvs) else (err .nvsCommit, nvs)

/-- `lsm6ds3_load_calibration_from_nvs`, of a handle and a name that are there. -/
def loadCalibrationFromNvs (err : Calls) (nvs : Namespace) (c : Calibration) :
    EspErr × Calibration :=
  if err .nvsOpen ≠ .ok then (err .nvsOpen, c)
  else
    let (e, offset, size) :=
      nvsGetBlob (err (.nvsGet .accelOffset)) nvs.accelOffset c.accelOffsetMg
    let c := { c with accelOffsetMg := offset }
    -- a size that differs comes with the error code that says success
    if e ≠ .ok ∨ size ≠ offsetSize then (e, c)
    else
      let (e, offset, size) :=
        nvsGetBlob (err (.nvsGet .gyroOffset)) nvs.gyroOffset c.gyroOffsetMdps
      let c := { c with gyroOffsetMdps := offset }
      if e ≠ .ok ∨ size ≠ offsetSize then (e, c)
      else
        let accel := nvsGetFlag (err (.nvsGet .accelCal)) nvs.accelCal c.accelCalibrated
        let gyro := nvsGetFlag (err (.nvsGet .gyroCal)) nvs.gyroCal c.gyroCalibrated
        (.ok, { c with accelCalibrated := accel, gyroCalibrated := gyro })

/-! ## 3. What a read does -/

/-- There is a blob of full size. -/
def Full (stored : Option Bytes) : Prop := ∃ data, stored = some data ∧ data.length = offsetSize

/-- A read of the blob is an error: the call fails, or there is no blob, or one that is too long. -/
def Unread (err : EspErr) (stored : Option Bytes) : Prop :=
  err ≠ .ok ∨ ∀ data, stored = some data → offsetSize < data.length

/-- A read of the blob is none, but the blob is too short. -/
def Short (err : EspErr) (stored : Option Bytes) : Prop :=
  err = .ok ∧ ∃ data, stored = some data ∧ data.length < offsetSize

/-- An offset of which all bytes are written. -/
theorem Offset.write_full (o : Offset) {data : Bytes} (h : data.length = offsetSize) :
    o.write data (Nat.le_of_eq h) = ⟨data, h⟩ := by
  have hdrop : o.bytes.drop data.length = [] :=
    List.drop_of_length_le (Nat.le_of_eq (o.size.trans h.symm))
  unfold Offset.write
  rw [Offset.mk.injEq, hdrop, List.append_nil]

/-- **What a read of a blob can do**: it is an error and leaves the offset, or it is none and the
size tells a short blob from a full one. -/
theorem nvsGetBlob_cases (err : EspErr) (stored : Option Bytes) (out : Offset) :
    (Unread err stored ∧ ∃ e n, e ≠ .ok ∧ nvsGetBlob err stored out = (e, out, n)) ∨
    (Short err stored ∧ ∃ o n, n ≠ offsetSize ∧ nvsGetBlob err stored out = (.ok, o, n)) ∨
    (err = .ok ∧ ∃ data, ∃ h : data.length = offsetSize, stored = some data ∧
      nvsGetBlob err stored out = (.ok, ⟨data, h⟩, offsetSize)) := by
  by_cases he : err = .ok
  · subst he
    cases stored with
    | none =>
      refine .inl ⟨.inr fun data hd => ?_, .nvsNotFound, offsetSize, by decide, rfl⟩
      cases hd
    | some data =>
      rcases Nat.lt_trichotomy data.length offsetSize with h | h | h
      · have hle := Nat.le_of_lt h
        refine .inr (.inl ⟨⟨rfl, data, rfl, h⟩, out.write data hle, data.length,
          Nat.ne_of_lt h, ?_⟩)
        simp only [nvsGetBlob, ne_eq, not_true_eq_false, if_false, dif_pos hle]
      · have hle := Nat.le_of_eq h
        refine .inr (.inr ⟨rfl, data, h, rfl, ?_⟩)
        simp only [nvsGetBlob, ne_eq, not_true_eq_false, if_false, dif_pos hle]
        rw [out.write_full h, h]
      · refine .inl ⟨.inr fun d hd => ?_, .nvsInvalidLength, data.length, by decide, ?_⟩
        · cases hd
          exact h
        · simp only [nvsGetBlob, ne_eq, not_true_eq_false, if_false,
            dif_neg (Nat.not_le_of_lt h)]
  · exact .inl ⟨.inl he, err, offsetSize, he, if_pos he⟩

/-- A full blob is read. -/
theorem nvsGetBlob_full {data : Bytes} (h : data.length = offsetSize) (out : Offset) :
    nvsGetBlob .ok (some data) out = (.ok, ⟨data, h⟩, offsetSize) := by
  rcases nvsGetBlob_cases .ok (some data) out with
    ⟨hu, -⟩ | ⟨⟨-, d, hd, hlt⟩, -⟩ | ⟨-, d, hl, hd, hr⟩
  · rcases hu with hn | hlong
    · exact absurd rfl hn
    · have := hlong data rfl
      omega
  · cases hd
    omega
  · cases hd
    exact hr

/-! ## 4. All or nothing -/

/-- A load is all or nothing: success means that both blobs are full, and anything else that the
calibration is what it was. -/
def AllOrNothing (err : Calls) (nvs : Namespace) (c : Calibration) : Prop :=
  ((loadCalibrationFromNvs err nvs c).1 = .ok → Full nvs.accelOffset ∧ Full nvs.gyroOffset) ∧
  ((loadCalibrationFromNvs err nvs c).1 ≠ .ok → (loadCalibrationFromNvs err nvs c).2 = c)

/-- The second blob is read in full, or it is an error and the first is what the handle has. -/
def SecondSafe (err : Calls) (nvs : Namespace) (c : Calibration) : Prop :=
  (err (.nvsGet .gyroOffset) = .ok ∧ Full nvs.gyroOffset) ∨
  (Unread (err (.nvsGet .gyroOffset)) nvs.gyroOffset ∧
    nvs.accelOffset = some c.accelOffsetMg.bytes)

/-- Nothing is read, or all of the first blob and the second is safe. -/
def LoadSafe (err : Calls) (nvs : Namespace) (c : Calibration) : Prop :=
  err .nvsOpen ≠ .ok ∨
  Unread (err (.nvsGet .accelOffset)) nvs.accelOffset ∨
  (Full nvs.accelOffset ∧ SecondSafe err nvs c)

theorem Full.not_short {err : EspErr} {stored : Option Bytes} (h : Full stored) :
    ¬ Short err stored := by
  rintro ⟨-, data, hd, hlt⟩
  obtain ⟨data', hd', hlen⟩ := h
  rw [hd, Option.some_inj] at hd'
  subst hd'
  omega

theorem Short.not_unread {err : EspErr} {stored : Option Bytes} (h : Short err stored) :
    ¬ Unread err stored := by
  obtain ⟨he, data, hd, hlt⟩ := h
  rintro (hn | hlong)
  · exact hn he
  · have := hlong data hd
    omega

theorem Full.not_unread {stored : Option Bytes} (h : Full stored) : ¬ Unread .ok stored := by
  obtain ⟨data, hd, hlen⟩ := h
  rintro (hn | hlong)
  · exact hn rfl
  · have := hlong data hd
    omega

section Load

variable {err : Calls} {nvs : Namespace} {c : Calibration}

/-- The first blob is an error: nothing has happened. -/
theorem load_unread (hopen : err .nvsOpen = .ok) {e : EspErr} {n : Nat} (he : e ≠ .ok)
    (h : nvsGetBlob (err (.nvsGet .accelOffset)) nvs.accelOffset c.accelOffsetMg =
      (e, c.accelOffsetMg, n)) :
    loadCalibrationFromNvs err nvs c = (e, c) := by
  rw [loadCalibrationFromNvs, if_neg (not_not.2 hopen), h]
  exact if_pos (.inl he)

/-- The first blob is too short: success, whatever is in the offset. -/
theorem load_short (hopen : err .nvsOpen = .ok) {o : Offset} {n : Nat} (hn : n ≠ offsetSize)
    (h : nvsGetBlob (err (.nvsGet .accelOffset)) nvs.accelOffset c.accelOffsetMg = (.ok, o, n)) :
    loadCalibrationFromNvs err nvs c = (.ok, { c with accelOffsetMg := o }) := by
  rw [loadCalibrationFromNvs, if_neg (not_not.2 hopen), h]
  exact if_pos (.inr hn)

/-- The first blob is read: the second decides, and the first offset is in the handle. -/
theorem load_second (hopen : err .nvsOpen = .ok) {o o' : Offset} {e : EspErr} {n : Nat}
    (h : nvsGetBlob (err (.nvsGet .accelOffset)) nvs.accelOffset c.accelOffsetMg =
      (.ok, o, offsetSize))
    (h' : nvsGetBlob (err (.nvsGet .gyroOffset)) nvs.gyroOffset c.gyroOffsetMdps = (e, o', n)) :
    loadCalibrationFromNvs err nvs c =
      if e ≠ .ok ∨ n ≠ offsetSize then (e, { c with accelOffsetMg := o, gyroOffsetMdps := o' })
      else (.ok,
        { accelOffsetMg := o
          gyroOffsetMdps := o'
          accelCalibrated :=
            nvsGetFlag (err (.nvsGet .accelCal)) nvs.accelCal c.accelCalibrated
          gyroCalibrated :=
            nvsGetFlag (err (.nvsGet .gyroCal)) nvs.gyroCal c.gyroCalibrated }) := by
  rw [loadCalibrationFromNvs, if_neg (not_not.2 hopen), h]
  dsimp only
  rw [if_neg (by simp), h']

/-- The first blob is full and read: the load is all or nothing if and only if the second is
safe. -/
theorem allOrNothing_second (hopen : err .nvsOpen = .ok) {data : Bytes}
    (hlen : data.length = offsetSize) (hd : nvs.accelOffset = some data)
    (hr : nvsGetBlob (err (.nvsGet .accelOffset)) nvs.accelOffset c.accelOffsetMg =
      (.ok, ⟨data, hlen⟩, offsetSize)) :
    AllOrNothing err nvs c ↔ SecondSafe err nvs c := by
  have hfull : Full nvs.accelOffset := ⟨data, hd, hlen⟩
  unfold AllOrNothing SecondSafe
  rcases nvsGetBlob_cases (err (.nvsGet .gyroOffset)) nvs.gyroOffset c.gyroOffsetMdps with
    ⟨hu, e, n, he, hr'⟩ | ⟨hs, o, n, hn, hr'⟩ | ⟨hok', data', hlen', hd', hr'⟩
  · -- an error: the first offset has been written, and must be what it was
    rw [load_second hopen hr hr', if_pos (.inl he)]
    constructor
    · rintro ⟨-, h⟩
      have hsame := congrArg Calibration.accelOffsetMg (h he)
      refine .inr ⟨hu, ?_⟩
      rw [hd, ← hsame]
    · rintro (⟨hok', h⟩ | ⟨-, h⟩)
      · rw [hok'] at hu
        exact absurd hu h.not_unread
      · refine ⟨fun h' => absurd h' he, fun _ => ?_⟩
        rw [hd, Option.some_inj] at h
        subst h
        rfl
  · -- too short: success
    rw [load_second hopen hr hr', if_pos (.inr hn)]
    constructor
    · rintro ⟨h, -⟩
      exact absurd hs (h rfl).2.not_short
    · rintro (⟨-, h⟩ | ⟨h, -⟩)
      · exact absurd hs h.not_short
      · exact absurd h hs.not_unread
  · have hfull' : Full nvs.gyroOffset := ⟨data', hd', hlen'⟩
    rw [load_second hopen hr hr', if_neg (by simp)]
    exact ⟨fun _ => .inl ⟨hok', hfull'⟩,
      fun _ => ⟨fun _ => ⟨hfull, hfull'⟩, fun h => absurd rfl h⟩⟩

end Load

/-- **When a load is all or nothing**: by what the read of the first blob does. -/
theorem allOrNothing_iff (err : Calls) (nvs : Namespace) (c : Calibration) :
    AllOrNothing err nvs c ↔ LoadSafe err nvs c := by
  unfold LoadSafe
  by_cases hopen : err .nvsOpen = .ok
  · have hno : ¬ err .nvsOpen ≠ .ok := not_not.2 hopen
    rcases nvsGetBlob_cases (err (.nvsGet .accelOffset)) nvs.accelOffset c.accelOffsetMg with
      ⟨hu, e, n, he, hr⟩ | ⟨hs, o, n, hn, hr⟩ | ⟨hok, data, hlen, hd, hr⟩
    · rw [AllOrNothing, load_unread hopen he hr]
      exact ⟨fun _ => .inr (.inl hu), fun _ => ⟨fun h => absurd h he, fun _ => rfl⟩⟩
    · rw [AllOrNothing, load_short hopen hn hr]
      constructor
      · rintro ⟨h, -⟩
        exact absurd hs (h rfl).1.not_short
      · rintro (h | h | ⟨h, -⟩)
        · exact absurd h hno
        · exact absurd h hs.not_unread
        · exact absurd hs h.not_short
    · have hfull : Full nvs.accelOffset := ⟨data, hd, hlen⟩
      have hnu : ¬ Unread (err (.nvsGet .accelOffset)) nvs.accelOffset := by
        rw [hok]
        exact hfull.not_unread
      rw [allOrNothing_second hopen hlen hd hr]
      constructor
      · intro h
        exact .inr (.inr ⟨hfull, h⟩)
      · rintro (h | h | ⟨-, h⟩)
        · exact absurd h hno
        · exact absurd h hnu
        · exact h
  · rw [AllOrNothing, loadCalibrationFromNvs, if_pos hopen]
    exact ⟨fun _ => .inl hopen, fun _ => ⟨fun h => absurd h hopen, fun _ => rfl⟩⟩

/-! ## 5. What is saved is loaded -/

/-- The namespace after a calibration has been saved. -/
def Calibration.stored (c : Calibration) : Namespace where
  accelOffset := some c.accelOffsetMg.bytes
  gyroOffset := some c.gyroOffsetMdps.bytes
  accelCal := some (if c.accelCalibrated then 1 else 0)
  gyroCal := some (if c.gyroCalibrated then 1 else 0)

/-- A save that succeeds has stored everything. -/
theorem save_ok {err : Calls} {c : Calibration} {nvs : Namespace}
    (h : (saveCalibrationToNvs err c nvs).1 = .ok) :
    (saveCalibrationToNvs err c nvs).2 = c.stored := by
  by_cases h0 : err .nvsOpen = .ok
  · by_cases h1 : err (.nvsSet .accelOffset) = .ok
    · by_cases h2 : err (.nvsSet .gyroOffset) = .ok
      · by_cases h3 : err (.nvsSet .accelCal) = .ok
        · by_cases h4 : err (.nvsSet .gyroCal) = .ok
          · simp [saveCalibrationToNvs, h0, h1, h2, h3, h4, nvsSet, Calibration.stored]
          · simp [saveCalibrationToNvs, h0, h1, h2, h3, h4] at h
        · simp [saveCalibrationToNvs, h0, h1, h2, h3] at h
      · simp [saveCalibrationToNvs, h0, h1, h2] at h
    · simp [saveCalibrationToNvs, h0, h1] at h
  · simp [saveCalibrationToNvs, h0] at h

/-- A flag that is read is the flag that was stored. -/
theorem nvsGetFlag_iff (err : EspErr) (saved flag : Bool) :
    nvsGetFlag err (some (if saved then 1 else 0)) flag = saved ↔ err = .ok ∨ flag = saved := by
  by_cases h : err = .ok
  · cases saved <;> simp [nvsGetFlag, h]
  · simp [nvsGetFlag, h]

/-- **What was saved is loaded**, into any handle, if no call fails that reads what the handle does
not have. -/
theorem load_save (err : Calls) (saved c : Calibration) :
    loadCalibrationFromNvs err saved.stored c = (.ok, saved) ↔
      err .nvsOpen = .ok ∧
      err (.nvsGet .accelOffset) = .ok ∧
      err (.nvsGet .gyroOffset) = .ok ∧
      (err (.nvsGet .accelCal) = .ok ∨ c.accelCalibrated = saved.accelCalibrated) ∧
      (err (.nvsGet .gyroCal) = .ok ∨ c.gyroCalibrated = saved.gyroCalibrated) := by
  by_cases h0 : err .nvsOpen = .ok
  · by_cases h1 : err (.nvsGet .accelOffset) = .ok
    · have hr : nvsGetBlob (err (.nvsGet .accelOffset)) saved.stored.accelOffset
          c.accelOffsetMg = (.ok, saved.accelOffsetMg, offsetSize) := by
        rw [h1]
        exact nvsGetBlob_full saved.accelOffsetMg.size c.accelOffsetMg
      by_cases h2 : err (.nvsGet .gyroOffset) = .ok
      · have hr' : nvsGetBlob (err (.nvsGet .gyroOffset)) saved.stored.gyroOffset
            c.gyroOffsetMdps = (.ok, saved.gyroOffsetMdps, offsetSize) := by
          rw [h2]
          exact nvsGetBlob_full saved.gyroOffsetMdps.size c.gyroOffsetMdps
        have haccel := nvsGetFlag_iff (err (.nvsGet .accelCal)) saved.accelCalibrated
          c.accelCalibrated
        have hgyro := nvsGetFlag_iff (err (.nvsGet .gyroCal)) saved.gyroCalibrated
          c.gyroCalibrated
        rw [load_second h0 hr hr', if_neg (by simp), ← haccel, ← hgyro, Prod.mk.injEq,
          Calibration.ext_iff]
        simp [h0, h1, h2, Calibration.stored]
      · rw [load_second h0 hr (if_pos h2), if_pos (.inl h2)]
        simp [h2]
    · rw [load_unread h0 h1 (if_pos h1)]
      simp [h1]
  · rw [loadCalibrationFromNvs, if_pos h0]
    simp [h0]

/-- **The stored calibration.**  A load is all or nothing if and only if it is safe; and after a
save that succeeds a load has the calibration that was saved, if and only if no call of its own
fails that reads what the handle does not have. -/
theorem calibration_load (err : Calls) (nvs : Namespace) (c : Calibration) (errSave : Calls)
    (nvsSave : Namespace) (saved : Calibration) :
    (AllOrNothing err nvs c ↔ LoadSafe err nvs c) ∧
    ((saveCalibrationToNvs errSave saved nvsSave).1 = .ok →
      (loadCalibrationFromNvs err (saveCalibrationToNvs errSave saved nvsSave).2 c = (.ok, saved) ↔
        err .nvsOpen = .ok ∧
        err (.nvsGet .accelOffset) = .ok ∧
        err (.nvsGet .gyroOffset) = .ok ∧
        (err (.nvsGet .accelCal) = .ok ∨ c.accelCalibrated = saved.accelCalibrated) ∧
        (err (.nvsGet .gyroCal) = .ok ∨ c.gyroCalibrated = saved.gyroCalibrated))) := by
  refine ⟨allOrNothing_iff err nvs c, fun h => ?_⟩
  rw [save_ok h]
  exact load_save err saved c

/-- No calibration. -/
def Offset.zero : Offset := ⟨List.replicate 12 0, by decide⟩

/-- One float under the first key and nothing under the others: the load succeeds, and has written
the float over a calibration of zeros. -/
theorem short_loaded :
    let nvs : Namespace := ⟨some [0, 0, 0x80, 0x3F], none, none, none⟩
    let c : Calibration := ⟨.zero, .zero, false, false⟩
    loadCalibrationFromNvs (fun _ => .ok) nvs c =
      (.ok, ⟨⟨[0, 0, 0x80, 0x3F, 0, 0, 0, 0, 0, 0, 0, 0], by decide⟩, .zero, false, false⟩) ∧
    ¬ AllOrNothing (fun _ => .ok) nvs c := by
  refine ⟨by decide, fun h => ?_⟩
  obtain ⟨⟨data, hd, hlen⟩, -⟩ := h.1 (by decide)
  cases hd
  revert hlen
  decide

end GroundTruth.Lsm6ds3
