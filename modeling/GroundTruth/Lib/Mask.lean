/-
# Sets of numbers as bit masks

A mask is a list of bytes: the number `n` is bit `n % 8` of byte `n / 8`.

`maskHas_add`: setting a bit adds one number to the set, and no other.
-/
import Mathlib.Tactic.IntervalCases
import GroundTruth.Lib.Bytes

namespace GroundTruth.Lib

/-- The bit of a number within its byte. -/
def maskBit (n : Nat) : UInt8 := 1 <<< UInt8.ofNat (n % 8)

/-- The mask has the number. -/
def maskHas (mask : Bytes) (n : Nat) : Bool := mask.getD (n / 8) 0 &&& maskBit n ≠ 0

/-- The mask with the number added. -/
def maskAdd (n : Nat) (mask : Bytes) : Bytes :=
  mask.set (n / 8) (mask.getD (n / 8) 0 ||| maskBit n)

@[simp] theorem maskAdd_length (n : Nat) (mask : Bytes) :
    (maskAdd n mask).length = mask.length := List.length_set

@[simp] theorem maskHas_replicate (k n : Nat) : maskHas (List.replicate k 0) n = false := by
  have hzero : (List.replicate k (0 : UInt8)).getD (n / 8) 0 = 0 := by
    rw [List.getD_eq_getElem?_getD, List.getElem?_replicate]
    split <;> rfl
  rw [maskHas, hzero, UInt8.zero_and]
  rfl

theorem maskBit_and (n m : Nat) :
    maskBit n &&& maskBit m = if n % 8 = m % 8 then maskBit m else 0 := by
  have hn : n % 8 < 8 := Nat.mod_lt _ (by decide)
  have hm : m % 8 < 8 := Nat.mod_lt _ (by decide)
  unfold maskBit
  generalize n % 8 = i at *
  generalize m % 8 = j at *
  interval_cases i <;> interval_cases j <;> rfl

theorem maskBit_ne_zero (n : Nat) : maskBit n ≠ 0 := by
  have hn : n % 8 < 8 := Nat.mod_lt _ (by decide)
  unfold maskBit
  generalize n % 8 = i at *
  interval_cases i <;> decide

/-- A byte with a bit added, masked. -/
theorem or_and_maskBit (b : UInt8) (n m : Nat) :
    (b ||| maskBit n) &&& maskBit m ≠ 0 ↔ n % 8 = m % 8 ∨ b &&& maskBit m ≠ 0 := by
  have hdistrib : (b ||| maskBit n) &&& maskBit m =
      (b &&& maskBit m) ||| (maskBit n &&& maskBit m) := by
    apply UInt8.toBitVec_inj.1
    simp only [UInt8.toBitVec_and, UInt8.toBitVec_or]
    exact BitVec.and_or_distrib_right
  rw [hdistrib, maskBit_and]
  by_cases h : n % 8 = m % 8
  · rw [if_pos h]
    simp only [h, true_or, iff_true]
    intro hzero
    have habsorb : (b &&& maskBit m ||| maskBit m) &&& maskBit m = maskBit m := by
      apply UInt8.toBitVec_inj.1
      apply BitVec.eq_of_getLsbD_eq
      intro i hi
      simp only [UInt8.toBitVec_and, UInt8.toBitVec_or, BitVec.getLsbD_and, BitVec.getLsbD_or]
      grind
    rw [hzero, UInt8.zero_and] at habsorb
    exact maskBit_ne_zero m habsorb.symm
  · rw [if_neg h, UInt8.or_zero]
    simp [h]

/-- **A number added to a mask**: the mask has it, and what it had before. -/
theorem maskHas_add {n : Nat} {mask : Bytes} (h : n / 8 < mask.length) (m : Nat) :
    maskHas (maskAdd n mask) m = true ↔ m = n ∨ maskHas mask m = true := by
  unfold maskHas maskAdd
  by_cases hbyte : n / 8 = m / 8
  · have hget : (mask.set (n / 8) (mask.getD (n / 8) 0 ||| maskBit n)).getD (m / 8) 0 =
        mask.getD (m / 8) 0 ||| maskBit n := by
      rw [← hbyte, List.getD_eq_getElem?_getD, List.getElem?_set_self h, Option.getD_some]
    have hnumber : n % 8 = m % 8 ↔ m = n := by omega
    rw [hget, decide_eq_true_iff, decide_eq_true_iff, or_and_maskBit, hnumber]
  · have hget : (mask.set (n / 8) (mask.getD (n / 8) 0 ||| maskBit n)).getD (m / 8) 0 =
        mask.getD (m / 8) 0 := by
      rw [List.getD_eq_getElem?_getD, List.getElem?_set_ne hbyte, List.getD_eq_getElem?_getD]
    have hne : m ≠ n := by
      rintro rfl
      exact hbyte rfl
    rw [hget]
    simp [hne]

end GroundTruth.Lib
