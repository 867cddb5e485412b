/-
# Little-endian words

16- and 32-bit values as the bytes of a message, the low one first, and the values that such
bytes have.  Bytes that were read as a value are the bytes that are written for it, and the bytes
of a value determine it.  For 32 bits both are proved bit by bit.
-/
import Mathlib.Tactic.IntervalCases
import GroundTruth.Lib.Bytes

namespace GroundTruth.Lib

/-- The bytes of a 16-bit value. -/
def le16 (v : UInt16) : Bytes := [v.toUInt8, (v >>> 8).toUInt8]

/-- The bytes of a 32-bit value. -/
def le32 (v : UInt32) : Bytes :=
  [v.toUInt8, (v >>> 8).toUInt8, (v >>> 16).toUInt8, (v >>> 24).toUInt8]

/-- The value of four bytes, the low one first. -/
def glue32 (a b c d : UInt8) : UInt32 :=
  a.toUInt32 ||| (b.toUInt32 <<< 8) ||| (c.toUInt32 <<< 16) ||| (d.toUInt32 <<< 24)

@[simp] theorem le16_length (v : UInt16) : (le16 v).length = 2 := rfl

@[simp] theorem le32_length (v : UInt32) : (le32 v).length = 4 := rfl

@[simp] theorem le16_glue (h l : UInt8) : le16 (glue h l) = [l, h] := by
  have hl := l.toNat_lt
  have hh := h.toNat_lt
  have hshift : (h.toNat * 256 + l.toNat) >>> (UInt16.toNat 8 % 16) =
      (h.toNat * 256 + l.toNat) / 256 := Nat.shiftRight_eq_div_pow _ 8
  simp only [le16, List.cons.injEq, and_true, ← UInt8.toNat_inj, UInt16.toNat_toUInt8,
    UInt16.toNat_shiftRight, glue_toNat, hshift]
  constructor
  · omega
  · omega

@[simp] theorem le32_glue32 (a b c d : UInt8) : le32 (glue32 a b c d) = [a, b, c, d] := by
  simp only [le32, glue32, List.cons.injEq, and_true, ← UInt8.toBitVec_inj]
  refine ⟨?_, ?_, ?_, ?_⟩
  · apply BitVec.eq_of_getLsbD_eq
    intro i hi
    simp
  all_goals
    apply BitVec.eq_of_getLsbD_eq
    intro i hi
    simp
    interval_cases i <;> simp

theorem le16_injective {v w : UInt16} (h : le16 v = le16 w) : v = w := by
  rw [← glue_high_low v, ← glue_high_low w, le16_glue, le16_glue] at h
  simp only [List.cons.injEq, and_true] at h
  rw [← glue_high_low v, ← glue_high_low w, h.1, h.2]

theorem le32_injective {v w : UInt32} (h : le32 v = le32 w) : v = w := by
  simp only [le32, List.cons.injEq, and_true] at h
  obtain ⟨h0, h1, h2, h3⟩ := h
  rw [← UInt32.toBitVec_inj]
  apply BitVec.eq_of_getLsbD_eq
  intro i hi
  have b0 := congrArg (fun b : UInt8 => b.toBitVec.getLsbD (i % 8)) h0
  have b1 := congrArg (fun b : UInt8 => b.toBitVec.getLsbD (i % 8)) h1
  have b2 := congrArg (fun b : UInt8 => b.toBitVec.getLsbD (i % 8)) h2
  have b3 := congrArg (fun b : UInt8 => b.toBitVec.getLsbD (i % 8)) h3
  simp at b0 b1 b2 b3
  interval_cases i <;> simp_all

end GroundTruth.Lib
