/-
# 16-bit values as two bytes

The two bytes of a `UInt16` and the value of two bytes, as shifts and masks compute them, and
the round trips between them.  Every fact goes through `toNat`, where a shift is a multiplication
and a disjunction of disjoint bits a sum.
-/
import Mathlib.Data.List.Basic
import Mathlib.Tactic.Common

namespace GroundTruth.Lib

abbrev Bytes := List UInt8

/-! ## 1. The two directions -/

/-- The value of two bytes, the high one first. -/
def glue (high low : UInt8) : UInt16 := (high.toUInt16 <<< 8) ||| low.toUInt16

/-- The high byte. -/
def high (v : UInt16) : UInt8 := ((v >>> 8) &&& 0xFF).toUInt8

/-- The low byte. -/
def low (v : UInt16) : UInt8 := (v &&& 0xFF).toUInt8

theorem glue_toNat (h l : UInt8) : (glue h l).toNat = h.toNat * 256 + l.toNat := by
  have hmod : (h.toNat <<< 8) % 65536 = h.toNat <<< 8 := by
    have := h.toNat_lt
    apply Nat.mod_eq_of_lt
    rw [Nat.shiftLeft_eq]
    omega
  rw [glue, UInt16.toNat_or, UInt16.toNat_shiftLeft]
  change (h.toNat <<< 8) % 65536 ||| l.toNat = _
  rw [hmod, ← Nat.shiftLeft_add_eq_or_of_lt l.toNat_lt, Nat.shiftLeft_eq]

theorem low_toNat (v : UInt16) : (low v).toNat = v.toNat % 256 := by
  rw [low, UInt16.toNat_toUInt8, UInt16.toNat_and]
  have hand : v.toNat &&& UInt16.toNat 255 = v.toNat % 256 :=
    Nat.and_two_pow_sub_one_eq_mod v.toNat 8
  rw [hand]
  omega

theorem high_toNat (v : UInt16) : (high v).toNat = v.toNat / 256 := by
  have hlt := v.toNat_lt
  have hlow := low_toNat (v >>> 8)
  rw [low, UInt16.toNat_shiftRight] at hlow
  have hshift : v.toNat >>> (UInt16.toNat 8 % 16) = v.toNat / 256 :=
    Nat.shiftRight_eq_div_pow _ 8
  rw [high, hlow, hshift]
  omega

/-- Widened again, the low byte is what the mask left. -/
theorem low_toUInt16 (v : UInt16) : (low v).toUInt16 = v &&& 0xFF := by
  apply UInt16.toNat_inj.1
  rw [UInt8.toNat_toUInt16, low_toNat, UInt16.toNat_and]
  exact (Nat.and_two_pow_sub_one_eq_mod v.toNat 8).symm

theorem high_toUInt16 (v : UInt16) : (high v).toUInt16 = (v >>> 8) &&& 0xFF :=
  low_toUInt16 (v >>> 8)

@[simp] theorem glue_high_low (v : UInt16) : glue (high v) (low v) = v := by
  apply UInt16.toNat_inj.1
  rw [glue_toNat, high_toNat, low_toNat]
  omega

@[simp] theorem high_glue (h l : UInt8) : high (glue h l) = h := by
  have := l.toNat_lt
  apply UInt8.toNat_inj.1
  rw [high_toNat, glue_toNat]
  omega

@[simp] theorem low_glue (h l : UInt8) : low (glue h l) = l := by
  have := l.toNat_lt
  apply UInt8.toNat_inj.1
  rw [low_toNat, glue_toNat]
  omega

/-! ## 2. Lists of values -/

/-- The values on the wire, the high byte of each first. -/
def wire (vs : List UInt16) : Bytes := vs.flatMap fun v => [high v, low v]

@[simp] theorem wire_nil : wire [] = [] := rfl

@[simp] theorem wire_cons (v : UInt16) (vs : List UInt16) :
    wire (v :: vs) = high v :: low v :: wire vs := rfl

@[simp] theorem wire_append (vs ws : List UInt16) : wire (vs ++ ws) = wire vs ++ wire ws :=
  List.flatMap_append

@[simp] theorem wire_length (vs : List UInt16) : (wire vs).length = 2 * vs.length := by
  induction vs with
  | nil => rfl
  | cons v vs ih =>
    simp only [wire_cons, List.length_cons, ih]
    omega

/-- The two bytes of the `i`-th value. -/
theorem wire_getD (vs : List UInt16) {i : Nat} (hi : i < vs.length) :
    (wire vs).getD (2 * i) 0 = high vs[i] ∧ (wire vs).getD (2 * i + 1) 0 = low vs[i] := by
  induction vs generalizing i with
  | nil => cases hi
  | cons v vs ih =>
    cases i with
    | zero => exact ⟨rfl, rfl⟩
    | succ i => exact ih (Nat.lt_of_succ_lt_succ hi)

/-- The wire determines the values. -/
theorem wire_injective {vs ws : List UInt16} (h : wire vs = wire ws) : vs = ws := by
  induction vs generalizing ws with
  | nil =>
    cases ws with
    | nil => rfl
    | cons w ws => cases h
  | cons v vs ih =>
    cases ws with
    | nil => cases h
    | cons w ws =>
      simp only [wire_cons, List.cons.injEq] at h
      rw [← glue_high_low v, ← glue_high_low w, h.1, h.2.1, ih h.2.2]

end GroundTruth.Lib
