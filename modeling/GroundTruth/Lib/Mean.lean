/-
# Sums and truncated means

The sum of bounded integers is bounded by their number, and its truncated quotient by that number
lies where they lie, on whichever side of zero the truncation goes.
-/
import Mathlib.Algebra.Order.BigOperators.Group.List
import Mathlib.Algebra.Order.Ring.Int
import Mathlib.Data.Finset.Max
import Mathlib.Tactic.Common

namespace GroundTruth.Lib

variable {l : List Int} {a b : Int}

theorem sum_le_length_mul (h : ∀ x ∈ l, x ≤ b) : l.sum ≤ l.length * b := by
  have hsum := List.sum_le_card_nsmul l b h
  rwa [nsmul_eq_mul] at hsum

theorem length_mul_le_sum (h : ∀ x ∈ l, a ≤ x) : l.length * a ≤ l.sum := by
  have hsum := List.card_nsmul_le_sum l a h
  rwa [nsmul_eq_mul] at hsum

/-- **A truncated mean** is between any bounds of what it is the mean of. -/
theorem mean_mem_bounds (hne : l ≠ []) (h : ∀ x ∈ l, a ≤ x ∧ x ≤ b) :
    a ≤ l.sum.tdiv l.length ∧ l.sum.tdiv l.length ≤ b := by
  have hlen : (0 : Int) < l.length := by
    have := List.length_pos_iff.2 hne
    omega
  constructor
  · calc a = (l.length * a).tdiv l.length := (Int.mul_tdiv_cancel_left a (by omega)).symm
      _ ≤ l.sum.tdiv l.length :=
        Int.tdiv_le_tdiv hlen (length_mul_le_sum fun x hx => (h x hx).1)
  · calc l.sum.tdiv l.length ≤ (l.length * b).tdiv l.length :=
        Int.tdiv_le_tdiv hlen (sum_le_length_mul fun x hx => (h x hx).2)
      _ = b := Int.mul_tdiv_cancel_left b (by omega)

/-- The least and the greatest of them. -/
theorem exists_bounds (hne : l ≠ []) : ∃ lo ∈ l, ∃ hi ∈ l, ∀ x ∈ l, lo ≤ x ∧ x ≤ hi := by
  have hset : l.toFinset.Nonempty := (List.toFinset_nonempty_iff l).2 hne
  obtain ⟨lo, hlo, hleast⟩ := l.toFinset.exists_min_image id hset
  obtain ⟨hi, hhi, hgreatest⟩ := l.toFinset.exists_max_image id hset
  refine ⟨lo, List.mem_toFinset.1 hlo, hi, List.mem_toFinset.1 hhi, ?_⟩
  intro x hx
  exact ⟨hleast x (List.mem_toFinset.2 hx), hgreatest x (List.mem_toFinset.2 hx)⟩

end GroundTruth.Lib
