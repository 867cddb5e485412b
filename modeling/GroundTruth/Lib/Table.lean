/-
# Tables with a place for each key

A table has a fixed number of places; each is free or has a key.  A key is looked for from the first
place on, and so is a free place.  What such tables are used for depends on no key being in two
places: then taking a key out of its place takes it out of the table, and two tables with the same
keys run out of places together.

* `Distinct`, `Has`, and what `put` does to both;
* `full_of_full`: of two tables with the same keys both are full if one is.
-/
import Mathlib.Data.Fintype.EquivFin
import Mathlib.Logic.Function.Basic
import Mathlib.Tactic.Common

namespace GroundTruth.Lib.Table

variable {n : Nat} {κ : Type}

/-! ## 1. Looking up -/

/-- No key is in two places. -/
def Distinct (t : Fin n → Option κ) : Prop := ∀ i j k, t i = some k → t j = some k → i = j

/-- The key is in the table. -/
def Has (t : Fin n → Option κ) (k : κ) : Prop := ∃ i, t i = some k

/-- The first place with this key, or the first that is free. -/
def find [DecidableEq κ] (t : Fin n → Option κ) (x : Option κ) : Option (Fin n) :=
  (List.finRange n).find? fun i => t i = x

/-- A table with nothing in it. -/
def free : Fin n → Option κ := fun _ => none

/-- What is in a place is written. -/
def put (t : Fin n → Option κ) (i : Fin n) (x : Option κ) : Fin n → Option κ :=
  Function.update t i x

variable {t u : Fin n → Option κ} {i j : Fin n} {k l : κ} {x : Option κ}

theorem find_some [DecidableEq κ] (h : find t x = some i) : t i = x := by
  rw [find, List.find?_eq_some_iff_append] at h
  exact of_decide_eq_true h.1

theorem find_none [DecidableEq κ] : find t x = none ↔ ∀ i, t i ≠ x := by
  rw [find, List.find?_eq_none]
  constructor
  · intro h i hi
    exact h i (List.mem_finRange i) (decide_eq_true hi)
  · intro h i _ hi
    exact h i (of_decide_eq_true hi)

theorem find_none_iff_not_has [DecidableEq κ] : find t (some k) = none ↔ ¬Has t k := by
  rw [find_none, Has, not_exists]

/-- A key is found in the one place where it is. -/
theorem Distinct.find [DecidableEq κ] (h : Distinct t) (hi : t i = some k) :
    Table.find t (some k) = some i := by
  cases hj : Table.find t (some k) with
  | none => exact absurd hi (find_none.1 hj i)
  | some j => rw [h j i k (find_some hj) hi]

/-! ## 2. Writing -/

@[simp] theorem put_self : put t i x i = x := by
  rw [put, Function.update_self]

theorem put_of_ne (h : j ≠ i) : put t i x j = t j := by
  rw [put, Function.update_of_ne h]

theorem Distinct.free : Distinct (free : Fin n → Option κ) := by
  intro i j k hi
  cases hi

theorem not_has_free : ¬Has (free : Fin n → Option κ) k := by
  rintro ⟨i, hi⟩
  cases hi

/-- A key that is not in the table goes into a place. -/
theorem Distinct.put (h : Distinct t) (hk : ¬Has t k) : Distinct (put t i (some k)) := by
  intro a b l ha hb
  by_cases hai : a = i
  · by_cases hbi : b = i
    · rw [hai, hbi]
    · rw [hai, put_self, Option.some_inj] at ha
      rw [put_of_ne hbi, ← ha] at hb
      exact absurd ⟨b, hb⟩ hk
  · by_cases hbi : b = i
    · rw [hbi, put_self, Option.some_inj] at hb
      rw [put_of_ne hai, ← hb] at ha
      exact absurd ⟨a, ha⟩ hk
    · rw [put_of_ne hai] at ha
      rw [put_of_ne hbi] at hb
      exact h a b l ha hb

theorem has_put (hi : t i = none) : Has (put t i (some k)) l ↔ l = k ∨ Has t l := by
  constructor
  · rintro ⟨j, hj⟩
    by_cases hji : j = i
    · rw [hji, put_self, Option.some_inj] at hj
      exact .inl hj.symm
    · exact .inr ⟨j, by rwa [put_of_ne hji] at hj⟩
  · rintro (rfl | ⟨j, hj⟩)
    · exact ⟨i, put_self⟩
    · have hji : j ≠ i := by
        rintro rfl
        rw [hi] at hj
        cases hj
      exact ⟨j, by rwa [put_of_ne hji]⟩

/-- A place is made free. -/
theorem Distinct.clear (h : Distinct t) : Distinct (Table.put t i none) := by
  have hold : ∀ a l, Table.put t i none a = some l → t a = some l := by
    intro a l ha
    by_cases hai : a = i
    · rw [hai, put_self] at ha
      cases ha
    · rwa [put_of_ne hai] at ha
  intro a b l ha hb
  exact h a b l (hold a l ha) (hold b l hb)

/-- With the place of a key the key is gone, and no other. -/
theorem Distinct.has_clear (h : Distinct t) (hi : t i = some k) :
    Has (Table.put t i none) l ↔ l ≠ k ∧ Has t l := by
  constructor
  · rintro ⟨j, hj⟩
    by_cases hji : j = i
    · rw [hji, put_self] at hj
      cases hj
    · rw [put_of_ne hji] at hj
      refine ⟨?_, j, hj⟩
      rintro rfl
      exact hji (h j i l hj hi)
  · rintro ⟨hl, j, hj⟩
    refine ⟨j, ?_⟩
    have hji : j ≠ i := by
      rintro rfl
      exact hl (Option.some.inj (hj.symm.trans hi))
    rwa [put_of_ne hji]

/-! ## 3. Two tables -/

/-- **Two tables with the same keys** are full together. -/
theorem full_of_full (ht : Distinct t) (hsame : ∀ k, Has t k → Has u k) (hfull : ∀ i, t i ≠ none)
    (j : Fin n) : u j ≠ none := by
  have hplace : ∀ i, ∃ j, u j = t i := by
    intro i
    obtain ⟨k, hk⟩ := Option.ne_none_iff_exists'.1 (hfull i)
    obtain ⟨j, hj⟩ := hsame k ⟨i, hk⟩
    exact ⟨j, hj.trans hk.symm⟩
  choose f hf using hplace
  have hinj : Function.Injective f := by
    intro a b hab
    obtain ⟨k, hk⟩ := Option.ne_none_iff_exists'.1 (hfull a)
    have hb : t b = some k := by rw [← hf b, ← hab, hf a, hk]
    exact ht a b k hk hb
  obtain ⟨i, rfl⟩ := (Finite.injective_iff_surjective.1 hinj) j
  rw [hf i]
  exact hfull i

end GroundTruth.Lib.Table
