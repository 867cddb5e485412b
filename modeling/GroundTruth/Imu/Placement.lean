/-
# The number of a POST and the offset it becomes

The handlers of `/api/mpu6050/byteoffset` and `/api/lsm6ds3/byteoffset` convert the number of the
request to `uint8_t` first and check what has come of it: "must be 0-12".  The save function checks
again, the load function once more, and the task a last time, all of them the converted value.
So what is checked is the number without its fraction, modulo 256.

* `InBounds.step`: whatever is sent, the task writes inside the assembly;
* `toUint8_offset`: a number that is an offset is converted to itself;
* `Stored.step`: while every number is an offset, which the flash takes, or is converted to more
  than 12, a POST is answered as it should be, and the next boot has the last number accepted;
* `placement`: both, over runs; `wide_accepted`: 256 is accepted, and the offset becomes 0.
-/
import Mathlib.Data.Rat.Defs
import GroundTruth.Imu.Offset

namespace GroundTruth.Imu

open GroundTruth.Lib GroundTruth.Web
open GroundTruth.Tcpip (NvWrite)

/-! ## 1. The requests -/

/-- `(uint8_t)` of a number: the fraction goes, and what is above the low byte. -/
def toUint8 (x : ℚ) : UInt8 := UInt8.ofInt (x.num.tdiv x.den)

/-- `api_post_mpu6050_byteoffset_handler` and `api_post_lsm6ds3_byteoffset_handler`, once the JSON
has been parsed. -/
def postStartByte (type : ImuType) (w : NvWrite) (number : ℚ) (d : ImuDevice) : Bool × ImuDevice :=
  postByteOffset type w (toUint8 number) d

/-- A request that has been answered. -/
structure BytePost where
  type : ImuType
  number : ℚ
  succeeded : Bool
  deriving DecidableEq

/-- The device, and beside it the requests, the last one first. -/
structure Placement where
  device : ImuDevice
  posts : List BytePost

/-- After a boot. -/
def Placement.boot (nv : ImuSettings) : Placement := ⟨.boot nv, []⟩

inductive PlacementEvent
  | post (type : ImuType) (w : NvWrite) (number : ℚ)
  /-- anything else -/
  | device (e : ImuEvent)

def placementStep (p : Placement) : PlacementEvent → Option Placement
  | .post type w number =>
    let (ok, d) := postStartByte type w number p.device
    some ⟨d, ⟨type, number, ok⟩ :: p.posts⟩
  | .device (.postByteOffset _ _ _) => none
  | .device e => (imuStep p.device e).map fun d => { p with device := d }

/-! ## 2. What the requests should do -/

/-- An integer from 0 to 12. -/
def IsOffset (x : ℚ) : Prop := ∃ n : Nat, n ≤ 12 ∧ x = n

/-- The number accepted last, or else what was in the flash when the record begins, or else 0. -/
def lastAccepted (stored : Option UInt8) (type : ImuType) : List BytePost → ℚ
  | [] => ((stored.filter fun b => decide (b ≤ 12)).getD 0).toNat
  | q :: posts =>
    if q.type = type ∧ q.succeeded = true then q.number else lastAccepted stored type posts

/-- The requests were answered as they should be, and the next boot finds what was accepted. -/
structure Accepts (nv : ImuSettings) (p : Placement) : Prop where
  posts : ∀ q ∈ p.posts, q.succeeded = true ↔ IsOffset q.number
  next : ∀ type, ∃ byteStart : UInt8,
    (byteStart.toNat : ℚ) = lastAccepted (nv.byteStart type).nv type p.posts ∧
      (imuIoTaskStart type true (.boot p.device.settings)).imuIoTask = .running type byteStart

/-- What the task writes is inside the 32 bytes. -/
structure InBounds (d : ImuDevice) : Prop where
  size : d.data064.length = 32
  fits : ∀ type byteStart, d.imuIoTask = .running type byteStart →
    byteStart.toNat + imuDataSize ≤ 32

/-- A number is an offset and the flash takes it, or it is none and is refused: by the conversion,
which makes more than 12 of it, or by the flash. -/
def Told : PlacementEvent → Prop
  | .post _ w number =>
    IsOffset number ∧ w = .ok ∨ ¬ IsOffset number ∧ (12 < toUint8 number ∨ w = .refused)
  | .device _ => True

/-! ## 3. Inside the assembly -/

variable {d d' : ImuDevice} {e : ImuEvent} {p p' : Placement} {type : ImuType} {nv : ImuSettings}

theorem InBounds.boot (nv : ImuSettings) : InBounds (.boot nv) where
  size := List.length_replicate
  fits := by
    intro type byteStart hrun
    cases hrun

theorem InBounds.write (h : InBounds d) (byteStart : UInt8) (v : ImuData) :
    InBounds (d.write byteStart v) where
  size := (memcpy_length _ _ _).trans h.size
  fits := h.fits

/-- The task starts: whatever byte the flash has, what is loaded fits. -/
theorem InBounds.start (h : InBounds d) (type : ImuType) (readable : Bool) :
    InBounds (imuIoTaskStart type readable d) := by
  have hfits := byteStartLoad_le readable (d.settings.byteStart type)
  unfold imuIoTaskStart
  dsimp only
  rw [if_neg (by rw [h.size]; omega)]
  refine ⟨h.size, ?_⟩
  intro t b hrun
  obtain ⟨rfl, rfl⟩ := ImuIoTask.running.inj hrun
  exact hfits

theorem InBounds.step (h : InBounds d) (hs : imuStep d e = some d') : InBounds d' := by
  cases e with
  | reboot =>
    cases hs
    exact .boot d.settings
  | found type readable =>
    rw [imuStep] at hs
    split at hs
    · cases hs
      exact ⟨h.size, h.fits⟩
    · cases hs
  | start readable =>
    rw [imuStep] at hs
    split at hs
    · cases hs
      exact h.start _ _
    · cases hs
  | cycle reading =>
    rw [imuStep] at hs
    split at hs
    · cases hs
      unfold imuIoTaskCycle
      split
      · exact h.write _ _
      · split
        · exact h.write _ _
        · exact h
    · cases hs
    · cases hs
  | ended =>
    rw [imuStep] at hs
    split at hs
    · cases hs
      refine ⟨h.size, ?_⟩
      intro type byteStart hrun
      cases hrun
    · cases hs
    · cases hs
  | postByteOffset type w startByte =>
    cases hs
    exact ⟨h.size, h.fits⟩
  | postEnabled type w enabled =>
    cases hs
    unfold postEnabled
    dsimp only
    split
    · exact ⟨h.size, h.fits⟩
    · exact ⟨h.size, h.fits⟩
  | getStatus type readable =>
    cases hs
    exact ⟨h.size, h.fits⟩

theorem placementStep_device (hs : placementStep p (.device e) = some p') :
    ∃ d', ((∀ type w startByte, e ≠ .postByteOffset type w startByte) ∧
      imuStep p.device e = some d') ∧ p' = { p with device := d' } := by
  cases e with
  | postByteOffset type w startByte => cases hs
  | reboot | found | start | cycle | ended | postEnabled | getStatus =>
    simp only [placementStep, Option.map_eq_some_iff] at hs
    obtain ⟨d', hd, rfl⟩ := hs
    exact ⟨d', ⟨by simp, hd⟩, rfl⟩

theorem InBounds.placementStep (h : InBounds p.device) {e : PlacementEvent}
    (hs : placementStep p e = some p') : InBounds p'.device := by
  cases e with
  | post type w number =>
    cases hs
    exact ⟨h.size, h.fits⟩
  | device e =>
    obtain ⟨d', hd, rfl⟩ := placementStep_device hs
    exact h.step hd.2

/-! ## 4. The conversion -/

/-- **An offset** is converted to itself. -/
theorem toUint8_offset {x : ℚ} (h : IsOffset x) :
    toUint8 x ≤ 12 ∧ ((toUint8 x).toNat : ℚ) = x := by
  obtain ⟨n, hn, rfl⟩ := h
  have hlow : ((n : Int) % 2 ^ 8).toNat = n := by omega
  have hnat : (toUint8 n).toNat = n := by
    rw [toUint8, Rat.num_natCast, Rat.den_natCast, Int.natCast_one, Int.tdiv_one, UInt8.ofInt,
      hlow]
    exact UInt8.toNat_ofNat_of_lt' (by rw [UInt8.size]; omega)
  refine ⟨?_, by rw [hnat]⟩
  rw [UInt8.le_iff_toNat_le, hnat]
  exact hn

/-! ## 5. What is accepted -/

variable {x : Setting UInt8} {b : UInt8} {w : NvWrite}

/-- A POST that goes well: its value is in the flash. -/
theorem byteStartPost_ok (hb : b ≤ 12) (x : Setting UInt8) :
    (byteStartPost .ok b x).1 = true ∧ byteStartLoad true (byteStartPost .ok b x).2 = b := by
  rw [byteStartPost, if_neg (UInt8.not_lt.2 hb)]
  refine ⟨rfl, ?_⟩
  show ((some b).filter fun b => decide (b ≤ 12)).getD 0 = b
  rw [Option.filter_some, if_pos (decide_eq_true hb), Option.getD_some]

/-- A POST that is refused: the flash has what it had. -/
theorem byteStartPost_refused (h : 12 < b ∨ w = .refused) (x : Setting UInt8) :
    (byteStartPost w b x).1 = false ∧ (byteStartPost w b x).2 = x := by
  unfold byteStartPost
  split
  · exact ⟨rfl, rfl⟩
  · next hle =>
    rcases h with hbig | rfl
    · exact absurd hbig hle
    · exact ⟨rfl, rfl⟩

/-- No other event writes an offset to the flash. -/
theorem imuStep_load (hne : ∀ type w startByte, e ≠ .postByteOffset type w startByte)
    (hs : imuStep d e = some d') (type : ImuType) :
    byteStartLoad true (d'.settings.byteStart type) =
      byteStartLoad true (d.settings.byteStart type) := by
  cases e with
  | reboot =>
    cases hs
    cases type <;> rfl
  | found t readable =>
    rw [imuStep] at hs
    split at hs <;> cases hs
    rfl
  | start readable =>
    rw [imuStep] at hs
    split at hs
    · cases hs
      unfold imuIoTaskStart
      dsimp only
      split <;> rfl
    · cases hs
  | cycle reading =>
    rw [imuStep] at hs
    split at hs <;> cases hs
    unfold imuIoTaskCycle
    split
    · rfl
    · split <;> rfl
  | ended =>
    rw [imuStep] at hs
    split at hs <;> cases hs
    rfl
  | postByteOffset t w startByte => exact absurd rfl (hne t w startByte)
  | postEnabled t w enabled =>
    cases hs
    unfold postEnabled
    dsimp only
    split
    · rw [byteStart_setEnabled]
    · rw [byteStart_setEnabled]
  | getStatus t readable =>
    cases hs
    show byteStartLoad true ((d.settings.setByteStart t _).byteStart type) = _
    rw [byteStart_setByteStart]
    split
    · next htype =>
      rw [htype]
      rfl
    · rfl

/-- The task of the next boot takes what is in the flash. -/
theorem start_boot (type : ImuType) (x : ImuSettings) :
    (imuIoTaskStart type true (.boot x)).imuIoTask =
      .running type (byteStartLoad true (x.byteStart type)) := by
  have hreboot : byteStartLoad true ((ImuDevice.boot x).settings.byteStart type) =
      byteStartLoad true (x.byteStart type) := by
    cases type <;> rfl
  have hfits := byteStartLoad_le true (x.byteStart type)
  have hsize : (ImuDevice.boot x).data064.length = 32 := List.length_replicate
  unfold imuIoTaskStart
  dsimp only
  rw [hreboot, if_neg (by rw [hsize]; omega)]

/-- `Accepts`, of the flash. -/
structure Stored (nv : ImuSettings) (p : Placement) : Prop where
  posts : ∀ q ∈ p.posts, q.succeeded = true ↔ IsOffset q.number
  load : ∀ type, ((byteStartLoad true (p.device.settings.byteStart type)).toNat : ℚ) =
    lastAccepted (nv.byteStart type).nv type p.posts

theorem Stored.accepts (h : Stored nv p) : Accepts nv p where
  posts := h.posts
  next := fun type => ⟨_, h.load type, start_boot type p.device.settings⟩

theorem Stored.boot (nv : ImuSettings) : Stored nv (.boot nv) where
  posts := by
    intro q hq
    cases hq
  load := by
    intro type
    cases type <;> rfl

/-- What is loaded for a sensor after a POST for one of them. -/
theorem load_postStartByte (type t : ImuType) (w : NvWrite) (number : ℚ) (d : ImuDevice) :
    byteStartLoad true ((postStartByte type w number d).2.settings.byteStart t) =
      if t = type then
        byteStartLoad true (byteStartPost w (toUint8 number) (d.settings.byteStart type)).2
      else byteStartLoad true (d.settings.byteStart t) := by
  have hset : (postStartByte type w number d).2.settings = d.settings.setByteStart type
      (byteStartPost w (toUint8 number) (d.settings.byteStart type)).2 := rfl
  rw [hset, byteStart_setByteStart]
  split <;> rfl

/-- **An offset that the flash takes** is accepted, and is the last one. -/
theorem Stored.taken (h : Stored nv p) {number : ℚ} (hoffset : IsOffset number) (type : ImuType) :
    Stored nv ⟨(postStartByte type .ok number p.device).2,
      ⟨type, number, (postStartByte type .ok number p.device).1⟩ :: p.posts⟩ := by
  obtain ⟨hle, hvalue⟩ := toUint8_offset hoffset
  obtain ⟨hok, hload⟩ := byteStartPost_ok hle (p.device.settings.byteStart type)
  have hfirst : (postStartByte type .ok number p.device).1 = true := hok
  refine ⟨?_, ?_⟩
  · intro q hq
    rcases List.mem_cons.1 hq with rfl | hold
    · exact ⟨fun _ => hoffset, fun _ => hfirst⟩
    · exact h.posts q hold
  · intro t
    rw [load_postStartByte, lastAccepted, hfirst]
    by_cases ht : t = type
    · rw [if_pos ht, if_pos ⟨ht.symm, rfl⟩, hload, hvalue]
    · rw [if_neg ht, if_neg (fun hboth => ht hboth.1.symm), h.load t]

/-- **What is no offset** and is refused changes nothing. -/
theorem Stored.refused (h : Stored nv p) {number : ℚ} (hoffset : ¬ IsOffset number)
    (hrefused : 12 < toUint8 number ∨ w = .refused) (type : ImuType) :
    Stored nv ⟨(postStartByte type w number p.device).2,
      ⟨type, number, (postStartByte type w number p.device).1⟩ :: p.posts⟩ := by
  obtain ⟨hfail, hsame⟩ := byteStartPost_refused hrefused (p.device.settings.byteStart type)
  have hfirst : (postStartByte type w number p.device).1 = false := hfail
  refine ⟨?_, ?_⟩
  · intro q hq
    rcases List.mem_cons.1 hq with rfl | hold
    · rw [hfirst]
      exact ⟨fun hno => absurd hno Bool.false_ne_true, fun hyes => absurd hyes hoffset⟩
    · exact h.posts q hold
  · intro t
    have hlast : lastAccepted (nv.byteStart t).nv t (⟨type, number, false⟩ :: p.posts) =
        lastAccepted (nv.byteStart t).nv t p.posts :=
      if_neg fun hboth => Bool.false_ne_true hboth.2
    rw [load_postStartByte, hsame, hfirst, hlast, ← h.load t]
    by_cases ht : t = type
    · rw [if_pos ht, ht]
    · rw [if_neg ht]

theorem Stored.step (h : Stored nv p) {e : PlacementEvent} (hg : Told e)
    (hs : placementStep p e = some p') : Stored nv p' := by
  cases e with
  | post type w number =>
    cases hs
    rcases hg with ⟨hoffset, rfl⟩ | ⟨hoffset, hrefused⟩
    · exact h.taken hoffset type
    · exact h.refused hoffset hrefused type
  | device e =>
    obtain ⟨d', ⟨hne, hd⟩, rfl⟩ := placementStep_device hs
    refine ⟨h.posts, fun type => ?_⟩
    rw [← h.load type, imuStep_load hne hd type]

/-- **The placement of the block.**  In every run from a boot, with any byte in the flash, the task
writes inside the assembly.  In every run in which each number is an offset that the flash takes,
or is no offset and is refused, the requests are answered as they should be, and the next boot of
the task of a sensor has the number accepted last for it. -/
theorem placement (nv : ImuSettings) (p : Placement) :
    (Reach placementStep (.boot nv) p → InBounds p.device) ∧
      (Run placementStep (fun _ e => Told e) (.boot nv) p → Accepts nv p) := by
  constructor
  · intro hreach
    exact hreach.invariant (P := fun p => InBounds p.device)
      (fun _ _ _ h _ hs => h.placementStep hs) (.boot nv)
  · intro hrun
    have hstored : Stored nv p :=
      hrun.invariant (fun _ _ _ h hg hs => h.step hg hs) (Stored.boot nv)
    exact hstored.accepts

/-- No larger integer is an offset. -/
theorem not_isOffset {n : Nat} (hn : 12 < n) : ¬ IsOffset n := by
  rintro ⟨m, hm, heq⟩
  have hnat : n = m := Nat.cast_injective heq
  omega

/-- 5 is stored for one of the sensors, and a byte that is no offset for the other. -/
def storedBytes : ImuSettings := ⟨⟨some 5, none⟩, ⟨some 77, none⟩, ⟨none, none⟩, ⟨none, none⟩⟩

/-- 500 is sent for the one, and refused; 12 for the other, and accepted. -/
theorem placement_told :
    ∃ p, exec placementStep (.boot storedBytes)
        [.post .mpu6050 .ok 500, .post .lsm6ds3 .ok 12, .device .reboot] = some p ∧
      Accepts storedBytes p := by
  have hmeets : execMeets placementStep (fun _ e => Told e) (.boot storedBytes)
      [.post .mpu6050 .ok 500, .post .lsm6ds3 .ok 12, .device .reboot] :=
    ⟨Or.inr ⟨not_isOffset (n := 500) (by decide), Or.inl (by decide)⟩,
      Or.inl ⟨⟨12, by decide, rfl⟩, rfl⟩, trivial, trivial⟩
  exact ⟨_, rfl, (placement storedBytes _).2 (exec_run hmeets rfl)⟩

/-- **256 is accepted.**  It is converted to 0, and the next boot has 0. -/
theorem wide_accepted : ¬ ∀ nv p, Reach placementStep (.boot nv) p → Accepts nv p := by
  intro hall
  obtain ⟨p, hp, hpost⟩ : ∃ p, exec placementStep (.boot storedBytes) [.post .mpu6050 .ok 256] =
      some p ∧ ⟨.mpu6050, 256, true⟩ ∈ p.posts := ⟨_, rfl, by decide⟩
  have hoffset : IsOffset 256 := ((hall _ _ (exec_reach hp)).posts _ hpost).1 rfl
  exact not_isOffset (n := 256) (by decide) hoffset

end GroundTruth.Imu
