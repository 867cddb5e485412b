/-
# Settings: `system_config.c`, and what the web interface keeps of them

A setting is a blob of one byte in the flash and, once a handler has loaded or saved it, a copy in
a static variable of `webui_api.c`.  A save writes the flash first and the copy only if the write
is reported as done.

`byteStartLoad_le`: an offset that is loaded leaves room for what is written there.
-/
import GroundTruth.Tcpip.Nv

namespace GroundTruth.Web

open GroundTruth.Tcpip (NvWrite)

structure Setting (α : Type) where
  /-- the blob in the flash -/
  nv : Option α
  /-- the copy, if there is one -/
  cached : Option α
  deriving DecidableEq, Repr

variable {α : Type}

/-- After a reboot. -/
def Setting.reboot (x : Setting α) : Setting α := { x with cached := none }

/-- The `save` functions, but for what some of them check; `true` is success. -/
def Setting.save (w : NvWrite) (value : α) (x : Setting α) : Bool × Setting α :=
  match w with
  | .ok => (true, { x with nv := some value })
  | .uncommitted => (false, { x with nv := some value })
  | .refused => (false, x)

/-- What a POST handler does with a value: it saves it, and copies it if that went well. -/
def Setting.post (w : NvWrite) (value : α) (x : Setting α) : Bool × Setting α :=
  let (ok, x) := x.save w value
  if ok = true then (true, { x with cached := some value }) else (false, x)

/-- A `load` function: what is not there, cannot be read or is not accepted is the default. -/
def Setting.load (accept : α → Bool) (default : α) (readable : Bool) (x : Setting α) : α :=
  if readable = true then (x.nv.filter accept).getD default else default

/-- What a GET handler has: the copy, which it makes if there is none. -/
def Setting.get (load : Setting α → α) (x : Setting α) : α × Setting α :=
  let value := x.cached.getD (load x)
  (value, { x with cached := some value })

/-- The bytes that five `int32_t` values take. -/
def imuDataSize : Nat := 20

/-- `system_mpu6050_byte_start_load` and `system_lsm6ds3_byte_start_load`. -/
def byteStartLoad (readable : Bool) (x : Setting UInt8) : UInt8 :=
  x.load (fun b => decide (b ≤ 12)) 0 readable

/-- `system_mpu6050_byte_start_save` and `system_lsm6ds3_byte_start_save`, and the copy. -/
def byteStartPost (w : NvWrite) (value : UInt8) (x : Setting UInt8) : Bool × Setting UInt8 :=
  if value > 12 then (false, x) else x.post w value

/-- `system_mpu6050_enabled_load` and `system_lsm6ds3_enabled_load`. -/
def enabledLoad (readable : Bool) (x : Setting Bool) : Bool := x.load (fun _ => true) false readable

/-- An offset that is loaded leaves room for the data. -/
theorem byteStartLoad_le (readable : Bool) (x : Setting UInt8) :
    (byteStartLoad readable x).toNat + imuDataSize ≤ 32 := by
  have hle : byteStartLoad readable x ≤ 12 := by
    unfold byteStartLoad Setting.load
    split
    · cases hx : x.nv.filter fun b => decide (b ≤ 12) with
      | none => exact (by decide : (0 : UInt8) ≤ 12)
      | some b =>
        have hb := (Option.filter_eq_some_iff.1 hx).2
        exact of_decide_eq_true hb
    · exact (by decide : (0 : UInt8) ≤ 12)
  have hnat := UInt8.le_iff_toNat_le.1 hle
  have htwelve : (12 : UInt8).toNat = 12 := rfl
  rw [imuDataSize]
  omega

end GroundTruth.Web
