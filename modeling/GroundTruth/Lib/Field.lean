/-
# Fields of a register

A register of eight bits has fields, and a driver that changes one reads the register, replaces the
bits under a mask and writes it back.  `setField` is what it writes; the field has the new bits then
and every bit outside the mask is as it was.
-/
import Mathlib.Tactic.Common

namespace GroundTruth.Lib

variable {mask other data b : UInt8}

/-- The register with the bits under the mask replaced. -/
def setField (mask data b : UInt8) : UInt8 := (b &&& ~~~mask) ||| (data &&& mask)

/-- Some bit under the mask is set. -/
def hasBits (mask b : UInt8) : Prop := b &&& mask ≠ 0

instance hasBits.decidable (mask b : UInt8) : Decidable (hasBits mask b) :=
  inferInstanceAs (Decidable (_ ≠ _))

/-- **The field** has the new bits. -/
theorem setField_and_mask : setField mask data b &&& mask = data &&& mask := by
  rw [setField, ← UInt8.toBitVec_inj]
  apply BitVec.eq_of_getLsbD_eq
  intro i hi
  simp only [UInt8.toBitVec_and, UInt8.toBitVec_or, UInt8.toBitVec_not, BitVec.getLsbD_and,
    BitVec.getLsbD_or, BitVec.getLsbD_not, hi, decide_true, Bool.true_and]
  cases mask.toBitVec.getLsbD i <;> simp

/-- Two masks with no bit in common. -/
theorem disjoint_bits (h : other &&& mask = 0) (i : Nat) :
    (other.toBitVec.getLsbD i && mask.toBitVec.getLsbD i) = false := by
  rw [← BitVec.getLsbD_and, ← UInt8.toBitVec_and, h]
  simp

/-- **Other bits** are as they were. -/
theorem setField_and_other (h : other &&& mask = 0) :
    setField mask data b &&& other = b &&& other := by
  rw [setField, ← UInt8.toBitVec_inj]
  apply BitVec.eq_of_getLsbD_eq
  intro i hi
  have hdisjoint := disjoint_bits h i
  simp only [UInt8.toBitVec_and, UInt8.toBitVec_or, UInt8.toBitVec_not, BitVec.getLsbD_and,
    BitVec.getLsbD_or, BitVec.getLsbD_not, hi, decide_true, Bool.true_and]
  revert hdisjoint
  cases mask.toBitVec.getLsbD i <;> cases other.toBitVec.getLsbD i <;> simp

/-- Bits that are set are there. -/
theorem or_and_self : (b ||| mask) &&& mask = mask := by
  rw [← UInt8.toBitVec_inj]
  apply BitVec.eq_of_getLsbD_eq
  intro i _
  simp only [UInt8.toBitVec_and, UInt8.toBitVec_or, BitVec.getLsbD_and, BitVec.getLsbD_or]
  cases mask.toBitVec.getLsbD i <;> simp

/-- Bits that are cleared are gone. -/
theorem not_hasBits_clear : ¬ hasBits mask (b &&& ~~~mask) := by
  rw [hasBits, UInt8.and_assoc, UInt8.not_and_self, UInt8.and_zero]
  exact fun h => h rfl

/-- Setting bits. -/
theorem or_and_other (h : other &&& data = 0) : (b ||| data) &&& other = b &&& other := by
  rw [← UInt8.toBitVec_inj]
  apply BitVec.eq_of_getLsbD_eq
  intro i _
  have hdisjoint := disjoint_bits h i
  simp only [UInt8.toBitVec_and, UInt8.toBitVec_or, BitVec.getLsbD_and, BitVec.getLsbD_or]
  revert hdisjoint
  cases data.toBitVec.getLsbD i <;> cases other.toBitVec.getLsbD i <;> simp

end GroundTruth.Lib
