/-
# A counter kept beside the set it counts

A program that keeps the size of a set in a counter of its own, and moves the counter from
notifications, keeps the two together only if it is notified once for every change.  `Tally` is
the counter and the set.  The counter goes up by one for each element that comes, and down, as
far as zero and no further, by one for each notification that an element has gone.

* `Spent k x y`: `k` notifications came, and no more than `k` elements went.  Spending composes.
* `Bounded`: the counter is not above the size of the set; `Spent.bounded` and `Gained.bounded`
  keep that whatever the notifications.
* `Exact`: the counter is the size of the set.  `Spent.exact` keeps that where there was one
  notification for each element, and `exact_of_empty` where nothing is left to count.
-/
import Mathlib.Data.Finset.Card

namespace GroundTruth.Lib

variable {α : Type}

/-- A counter and the set it is to count. -/
structure Tally (α : Type) where
  count : Nat
  members : Finset α

namespace Tally

variable {x y z : Tally α} {k m : Nat} {a : α}

/-- The counter is the size of the set. -/
def Exact (x : Tally α) : Prop := x.count = x.members.card

/-- The counter is not above the size of the set. -/
def Bounded (x : Tally α) : Prop := x.count ≤ x.members.card

/-- `k` notifications, for `k` elements at most. -/
structure Spent (k : Nat) (x y : Tally α) : Prop where
  count : y.count = x.count - k
  subset : y.members ⊆ x.members
  card : x.members.card ≤ y.members.card + k

/-- One notification, for one new element. -/
structure Gained [DecidableEq α] (a : α) (x y : Tally α) : Prop where
  count : y.count = x.count + 1
  fresh : a ∉ x.members
  members : y.members = insert a x.members

theorem Exact.bounded (h : x.Exact) : x.Bounded := Nat.le_of_eq h

/-- With nothing left to count, a bounded counter is zero. -/
theorem exact_of_empty (h : x.Bounded) (hempty : x.members = ∅) : x.Exact := by
  have hzero : x.count ≤ 0 := by simpa [Bounded, hempty] using h
  rw [Exact, hempty, Finset.card_empty]
  exact Nat.le_zero.1 hzero

theorem Spent.refl (x : Tally α) : Spent 0 x x := ⟨rfl, Finset.Subset.refl _, Nat.le_refl _⟩

theorem Spent.trans (h : Spent k x y) (h' : Spent m y z) : Spent (k + m) x z := by
  refine ⟨?_, h'.subset.trans h.subset, ?_⟩
  · rw [h'.count, h.count, Nat.sub_sub]
  · have hxy := h.card
    have hyz := h'.card
    omega

/-- One notification for one element, which may not have been there. -/
theorem Spent.erase [DecidableEq α] (hcount : y.count = x.count - 1)
    (hmembers : y.members = x.members.erase a) :
    Spent 1 x y := by
  refine ⟨hcount, hmembers ▸ Finset.erase_subset a x.members, ?_⟩
  rw [hmembers]
  exact Nat.le_add_of_sub_le Finset.pred_card_le_card_erase

theorem Spent.bounded (h : Spent k x y) (hx : x.Bounded) : y.Bounded := by
  have hcount := h.count
  have hcard := h.card
  unfold Bounded at hx ⊢
  omega

/-- As many elements went as there were notifications. -/
theorem Spent.exact (h : Spent k x y) (hcard : x.members.card = y.members.card + k)
    (hx : x.Exact) : y.Exact := by
  have hcount := h.count
  unfold Exact at hx ⊢
  omega

/-- Nothing was notified, so nothing went. -/
theorem Spent.exact_zero (h : Spent 0 x y) (hx : x.Exact) : y.Exact :=
  h.exact (Nat.le_antisymm h.card (Finset.card_le_card h.subset)) hx

theorem Gained.bounded [DecidableEq α] (h : Gained a x y) (hx : x.Bounded) : y.Bounded := by
  rw [Bounded, h.count, h.members, Finset.card_insert_of_notMem h.fresh]
  exact Nat.succ_le_succ hx

theorem Gained.exact [DecidableEq α] (h : Gained a x y) (hx : x.Exact) : y.Exact := by
  rw [Exact, h.count, h.members, Finset.card_insert_of_notMem h.fresh, hx]

end Tally

end GroundTruth.Lib
