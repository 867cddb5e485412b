/-
# Serial numbers

A sender numbers what it sends, and the numbers wrap.  A receiver keeps the number of what it took
last and takes a thing whose number is ahead of it, by less than half of the circle.

* `ahead_of_base`: of two numbers counted from one base, less than half of the circle apart, one is
  ahead of the other exactly when it was counted later;
* `takes`: what such a receiver takes of the things that arrive.  In the order of sending these are
  the records of the arrivals: they come in order, none twice, and the newest is always among them.
-/
import Mathlib.Data.List.MinMax
import Mathlib.Algebra.Order.Group.Int
import Mathlib.Order.Lattice

namespace GroundTruth.Lib

/-! ## 1. Numbers on a circle -/

/-- `a` is ahead of `b` on the circle of `m` numbers. -/
def ahead (m a b : Nat) : Bool := decide (0 < ((a : Int) - b).bmod m)

/-- Only the places on the circle count. -/
theorem ahead_mod (m a b : Nat) : ahead m (a % m) (b % m) = ahead m a b := by
  rw [ahead, ahead, Int.natCast_emod, Int.natCast_emod, Int.emod_sub_bmod, Int.sub_emod_bmod]

/-- Less than half of the circle apart. -/
def Near (m i j : Nat) : Prop := 2 * i < 2 * j + m ∧ 2 * j < 2 * i + m

theorem Near.mono {m n i j : Nat} (h : Near m i j) (hmn : m ≤ n) : Near n i j :=
  ⟨h.1.trans_le (Nat.add_le_add_left hmn _), h.2.trans_le (Nat.add_le_add_left hmn _)⟩

theorem ahead_of_base {m i j : Nat} (h : Near m i j) (base : Nat) :
    ahead m ((base + i) % m) ((base + j) % m) = decide (j < i) := by
  obtain ⟨hij, hji⟩ := h
  have hdiff : (((base + i : Nat) : Int) - (base + j : Nat)).bmod m = (i : Int) - j := by
    rw [Int.natCast_add, Int.natCast_add, add_sub_add_left_eq_sub]
    exact Int.bmod_eq_of_le_mul_two (by omega) (by omega)
  rw [ahead_mod, ahead, hdiff]
  exact decide_eq_decide.mpr ⟨fun h => by omega, fun h => by omega⟩

/-! ## 2. What a receiver takes -/

/-- The numbers that are taken of those that arrive; `last` is the number taken last. -/
def takes {ν : Type} (newer : ν → ν → Bool) : Option ν → List ν → List ν
  | _, [] => []
  | last, n :: l =>
    if last.all (newer n) = true then n :: takes newer (some n) l else takes newer last l

/-! ## 3. In the order of sending -/

section Later

variable {κ : Type} [LinearOrder κ]

/-- `i` was sent after `j`. -/
def later (i j : κ) : Bool := decide (j < i)

/-- What has been taken so far: the newest of what arrived. -/
def newest (last : Option κ) (arrivals : List κ) : Option κ :=
  arrivals.foldl (fun last i => some (last.elim i (max i))) last

theorem newest_cons (last : Option κ) (i : κ) (arrivals : List κ) :
    newest last (i :: arrivals) = newest (some (last.elim i (max i))) arrivals := rfl

theorem newest_eq_max (arrivals : List κ) : newest none arrivals = arrivals.max? := by
  have hsome : ∀ (l : List κ) (j : κ), newest (some j) l = some (l.foldl max j) := by
    intro l
    induction l with
    | nil => exact fun j => rfl
    | cons i l ih =>
      intro j
      rw [newest_cons, ih, List.foldl_cons, max_comm]
      rfl
  cases arrivals with
  | nil => rfl
  | cons i arrivals => exact hsome arrivals i

/-- In order, none twice, and all after what was taken before. -/
theorem takes_sorted (last : Option κ) (arrivals : List κ) :
    (takes later last arrivals).Pairwise (· < ·) ∧
      ∀ j ∈ last, ∀ i ∈ takes later last arrivals, j < i := by
  induction arrivals generalizing last with
  | nil => exact ⟨.nil, fun j _ i hi => by simp [takes] at hi⟩
  | cons i arrivals ih =>
    rw [takes]
    split
    · next htaken =>
      obtain ⟨hsorted, hafter⟩ := ih (some i)
      refine ⟨List.pairwise_cons.mpr ⟨hafter i rfl, hsorted⟩, fun j hj k hk => ?_⟩
      obtain rfl := Option.mem_def.mp hj
      have hji : j < i := of_decide_eq_true htaken
      rcases List.mem_cons.mp hk with rfl | hk
      · exact hji
      · exact hji.trans (hafter i rfl k hk)
    · exact ih last

/-- The one taken last is the newest of all that arrived. -/
theorem takes_getLast (last : Option κ) (arrivals : List κ) :
    (takes later last arrivals).getLast?.or last = newest last arrivals := by
  induction arrivals generalizing last with
  | nil => rfl
  | cons i arrivals ih =>
    rw [takes, newest_cons]
    split
    · next htaken =>
      have hmax : last.elim i (max i) = i := by
        cases last with
        | none => rfl
        | some j => exact max_eq_left (of_decide_eq_true htaken : j < i).le
      rw [hmax, ← ih (some i), List.getLast?_cons]
      cases (takes later (some i) arrivals).getLast? with
      | none => rfl
      | some k => rfl
    · next hold =>
      cases last with
      | none => exact absurd rfl hold
      | some j =>
        have hij : i ≤ j := not_lt.mp fun h => hold (decide_eq_true h)
        rw [ih (some j)]
        exact congrArg (fun k => newest (some k) arrivals) (max_eq_right hij).symm

/-- What is taken: each arrival that is newer than all that arrived before it. -/
theorem mem_takes_iff {i : κ} {last : Option κ} {arrivals : List κ} :
    i ∈ takes later last arrivals ↔ ∃ before after, arrivals = before ++ i :: after ∧
      (∀ j ∈ before, j < i) ∧ ∀ j ∈ last, j < i := by
  induction arrivals generalizing last with
  | nil => simp [takes]
  | cons k arrivals ih =>
    rw [takes]
    constructor
    · intro hi
      by_cases htaken : last.all (later k) = true
      · rw [if_pos htaken] at hi
        rcases List.mem_cons.mp hi with rfl | hi
        · refine ⟨[], arrivals, rfl, by simp, fun j hj => ?_⟩
          obtain rfl := Option.mem_def.mp hj
          exact of_decide_eq_true htaken
        · obtain ⟨before, after, rfl, hbefore, hk⟩ := ih.mp hi
          have hki : k < i := hk k rfl
          refine ⟨k :: before, after, rfl, fun j hj => ?_, fun j hj => ?_⟩
          · rcases List.mem_cons.mp hj with rfl | hj
            · exact hki
            · exact hbefore j hj
          · obtain rfl := Option.mem_def.mp hj
            exact (of_decide_eq_true htaken : j < k).trans hki
      · rw [if_neg htaken] at hi
        obtain ⟨before, after, rfl, hbefore, hlast⟩ := ih.mp hi
        refine ⟨k :: before, after, rfl, fun j hj => ?_, hlast⟩
        rcases List.mem_cons.mp hj with rfl | hj
        · cases last with
          | none => exact absurd rfl htaken
          | some m =>
            exact (not_lt.mp fun h => htaken (decide_eq_true h)).trans_lt (hlast m rfl)
        · exact hbefore j hj
    · rintro ⟨before, after, hsplit, hbefore, hlast⟩
      cases before with
      | nil =>
        obtain ⟨rfl, rfl⟩ := List.cons.inj hsplit
        have htaken : last.all (later k) = true := by
          cases last with
          | none => rfl
          | some j => exact decide_eq_true (hlast j rfl)
        rw [if_pos htaken]
        exact List.mem_cons_self
      | cons b before =>
        obtain ⟨rfl, rfl⟩ := List.cons.inj hsplit
        have hki : k < i := hbefore k List.mem_cons_self
        have hrest : ∀ j ∈ before, j < i := fun j hj => hbefore j (List.mem_cons_of_mem k hj)
        split
        · refine List.mem_cons_of_mem k (ih.mpr ⟨before, after, rfl, hrest, fun j hj => ?_⟩)
          obtain rfl := Option.some.inj (Option.mem_def.mp hj)
          exact hki
        · exact ih.mpr ⟨before, after, rfl, hrest, hlast⟩

end Later

/-- Each arrival is less than half of the circle from the newest before it. -/
def Within (m : Nat) : Option Nat → List Nat → Prop
  | _, [] => True
  | last, i :: arrivals =>
    (∀ j ∈ last, Near m i j) ∧ Within m (some (last.elim i (max i))) arrivals

end GroundTruth.Lib
