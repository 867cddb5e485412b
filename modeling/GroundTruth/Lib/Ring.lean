/-
# The end of a stream in a ring

An array that is written round and round holds the last elements of what was put in.  A flag says
whether it has gone round; as long as it has not, the array is filled from the front.  The next
element may belong behind the last cell: the position may be the length of the array.

* `RingBuffer.contents_put`: what is put in comes after what was there, and what does not fit falls
  off the front, whether it goes in at one place or at two;
* `RingBuffer.Holds.put`: so the ring holds the end of the stream after every put, for every
  alignment;
* `RingBuffer.Holds.size`: how much that is.
-/
import Mathlib.Data.List.DropRight
import Mathlib.Tactic.Common

namespace GroundTruth.Lib

variable {α : Type}

/-! ## 1. The last elements of a list -/

theorem length_rtake (l : List α) (n : Nat) : (l.rtake n).length = min l.length n := by
  rw [List.rtake, List.length_drop]
  omega

/-- All of them. -/
theorem rtake_of_length_le {l : List α} {n : Nat} (h : l.length ≤ n) : l.rtake n = l := by
  rw [List.rtake, Nat.sub_eq_zero_of_le h, List.drop_zero]

/-- **Of two lists**, the last elements of the first are enough. -/
theorem rtake_append_rtake (l r : List α) (n : Nat) :
    (l.rtake n ++ r).rtake n = (l ++ r).rtake n := by
  have hlen := length_rtake l n
  have hfront : l.rtake n ++ r = (l ++ r).drop (l.length - n) := by
    rw [List.drop_append_of_le_length (by omega), List.rtake]
  rw [List.rtake, hfront, List.drop_drop, List.rtake]
  congr 1
  rw [← hfront, List.length_append, List.length_append, hlen]
  omega

/-! ## 2. The ring -/

structure RingBuffer (α : Type) where
  cells : List α
  /-- where the next element goes -/
  pos : Nat
  wrapped : Bool
  deriving DecidableEq

/-- What is in the ring, the oldest first. -/
def RingBuffer.contents (r : RingBuffer α) : List α :=
  if r.wrapped = true then r.cells.drop r.pos ++ r.cells.take r.pos else r.cells.take r.pos

/-- Put a list in, at one place or at two. -/
def RingBuffer.put (xs : List α) (r : RingBuffer α) : RingBuffer α :=
  if r.pos + xs.length ≤ r.cells.length then
    { r with
      cells := r.cells.take r.pos ++ xs ++ r.cells.drop (r.pos + xs.length)
      pos := r.pos + xs.length }
  else
    let first := r.cells.length - r.pos
    { cells := xs.drop first ++ (r.cells.take r.pos).drop (xs.length - first) ++ xs.take first
      pos := xs.length - first
      wrapped := true }

/-- The ring holds the end of the stream. -/
structure RingBuffer.Holds (r : RingBuffer α) (stream : List α) : Prop where
  pos_le : r.pos ≤ r.cells.length
  straight : r.wrapped = false → r.pos = stream.length
  round : r.wrapped = true → r.cells.length ≤ stream.length
  contents : r.contents = stream.rtake r.cells.length

variable {r : RingBuffer α} {xs stream : List α}

/-- How much the ring holds. -/
theorem RingBuffer.Holds.size (h : r.Holds stream) :
    r.contents.length = min stream.length r.cells.length := by
  rw [h.contents, length_rtake]

theorem RingBuffer.Holds.of_empty (cells : List α) : RingBuffer.Holds ⟨cells, 0, false⟩ [] where
  pos_le := Nat.zero_le _
  straight := fun _ => rfl
  round := by
    intro hwrapped
    cases hwrapped
  contents := by simp [RingBuffer.contents]

/-- At one place. -/
theorem RingBuffer.put_straight (hfits : r.pos + xs.length ≤ r.cells.length) :
    r.put xs = { r with
      cells := r.cells.take r.pos ++ xs ++ r.cells.drop (r.pos + xs.length)
      pos := r.pos + xs.length } :=
  if_pos hfits

/-- At two. -/
theorem RingBuffer.put_round (hfits : ¬ r.pos + xs.length ≤ r.cells.length) :
    r.put xs =
      { cells := xs.drop (r.cells.length - r.pos) ++
          (r.cells.take r.pos).drop (xs.length - (r.cells.length - r.pos)) ++
            xs.take (r.cells.length - r.pos)
        pos := xs.length - (r.cells.length - r.pos)
        wrapped := true } :=
  if_neg hfits

/-- Nothing is put in. -/
theorem RingBuffer.put_nil (hpos : r.pos ≤ r.cells.length) : r.put [] = r := by
  rw [RingBuffer.put_straight (by rw [List.length_nil]; omega)]
  simp

/-- The array keeps its length. -/
theorem RingBuffer.length_put (hpos : r.pos ≤ r.cells.length) (hxs : xs.length ≤ r.cells.length) :
    (r.put xs).cells.length = r.cells.length := by
  unfold RingBuffer.put
  split
  · simp only [List.length_append, List.length_take, List.length_drop]
    omega
  · simp only [List.length_append, List.length_take, List.length_drop]
    omega

/-- What is in a ring that has gone round fills it. -/
theorem RingBuffer.length_contents (hpos : r.pos ≤ r.cells.length) :
    r.contents.length = if r.wrapped = true then r.cells.length else r.pos := by
  unfold RingBuffer.contents
  split
  · rw [List.length_append, List.length_drop, List.length_take]
    omega
  · rw [List.length_take]
    omega

/-- In one place: the cells behind the position, which hold the oldest, are overwritten. -/
theorem RingBuffer.contents_put_straight (hfits : r.pos + xs.length ≤ r.cells.length) :
    (r.put xs).contents = (r.contents ++ xs).rtake r.cells.length := by
  obtain ⟨cells, pos, wrapped⟩ := r
  have hfits : pos + xs.length ≤ cells.length := hfits
  have htake : (cells.take pos).length = pos := by
    rw [List.length_take]
    omega
  have hfront : (cells.take pos ++ xs).length = pos + xs.length := by
    rw [List.length_append, htake]
  rw [RingBuffer.put_straight hfits]
  cases wrapped with
  | false =>
    rw [RingBuffer.contents, RingBuffer.contents]
    simp only [Bool.false_eq_true, if_false]
    rw [← hfront, List.take_left, rtake_of_length_le (by omega)]
  | true =>
    rw [RingBuffer.contents, RingBuffer.contents]
    simp only [if_true]
    have hdrop : (cells.drop pos ++ cells.take pos ++ xs).length - cells.length = xs.length := by
      simp only [List.length_append, List.length_drop, htake]
      omega
    rw [← hfront, List.take_left, List.drop_left, hfront, List.rtake, hdrop, List.append_assoc,
      List.drop_append_of_le_length (by rw [List.length_drop]; omega), List.drop_drop]

/-- In two places: what does not fit behind the position goes to the front. -/
theorem RingBuffer.contents_put_round (hpos : r.pos ≤ r.cells.length)
    (hxs : xs.length ≤ r.cells.length) (hfits : ¬ r.pos + xs.length ≤ r.cells.length) :
    (r.put xs).contents = (r.contents ++ xs).rtake r.cells.length := by
  obtain ⟨cells, pos, wrapped⟩ := r
  have hpos : pos ≤ cells.length := hpos
  have hxs : xs.length ≤ cells.length := hxs
  have hfits : ¬ pos + xs.length ≤ cells.length := hfits
  have htake : (cells.take pos).length = pos := by
    rw [List.length_take]
    omega
  -- what stays is what the first place had, less what the second part overwrites
  let kept := (cells.take pos).drop (xs.length - (cells.length - pos))
  have hafter : (RingBuffer.put xs ⟨cells, pos, wrapped⟩).contents = kept ++ xs := by
    have hfront : (xs.drop (cells.length - pos)).length = xs.length - (cells.length - pos) :=
      List.length_drop
    rw [RingBuffer.put_round hfits, RingBuffer.contents]
    dsimp only
    rw [if_pos rfl, List.append_assoc, ← hfront, List.drop_left, List.take_left, hfront,
      List.append_assoc, List.take_append_drop]
  rw [hafter, RingBuffer.contents, List.rtake]
  cases wrapped with
  | false =>
    simp only [Bool.false_eq_true, if_false]
    have hover : (cells.take pos ++ xs).length - cells.length =
        xs.length - (cells.length - pos) := by
      rw [List.length_append, htake]
      omega
    rw [hover, List.drop_append_of_le_length (by rw [htake]; omega)]
  | true =>
    simp only [if_true]
    have hover : (cells.drop pos ++ cells.take pos ++ xs).length - cells.length =
        (cells.drop pos).length + (xs.length - (cells.length - pos)) := by
      simp only [List.length_append, List.length_drop, htake]
      omega
    rw [hover, List.append_assoc, List.drop_append, List.drop_eq_nil_of_le (Nat.le_add_right _ _),
      List.nil_append, Nat.add_sub_cancel_left,
      List.drop_append_of_le_length (by rw [htake]; omega)]

/-- **What is put in** comes last, and the front falls off as far as it must. -/
theorem RingBuffer.contents_put (hpos : r.pos ≤ r.cells.length)
    (hxs : xs.length ≤ r.cells.length) :
    (r.put xs).contents = (r.contents ++ xs).rtake r.cells.length := by
  by_cases hfits : r.pos + xs.length ≤ r.cells.length
  · exact RingBuffer.contents_put_straight hfits
  · exact RingBuffer.contents_put_round hpos hxs hfits

/-- **The end of the stream** is in the ring after every put. -/
theorem RingBuffer.Holds.put (h : r.Holds stream) (hxs : xs.length ≤ r.cells.length) :
    (r.put xs).Holds (stream ++ xs) := by
  have hlen : (r.put xs).cells.length = r.cells.length := RingBuffer.length_put h.pos_le hxs
  have hcontents : (r.put xs).contents = (stream ++ xs).rtake (r.put xs).cells.length := by
    rw [hlen, RingBuffer.contents_put h.pos_le hxs, h.contents, rtake_append_rtake]
  have hsize := h.size
  rw [RingBuffer.length_contents h.pos_le] at hsize
  refine ⟨?_, ?_, ?_, hcontents⟩
  · rw [hlen, RingBuffer.put]
    split
    · next hfits => exact hfits
    · dsimp only
      omega
  · intro hstraight
    rw [List.length_append]
    rw [RingBuffer.put] at hstraight ⊢
    split at hstraight
    · next hfits =>
      have hpos := h.straight hstraight
      rw [if_pos hfits, ← hpos]
    · cases hstraight
  · intro hround
    rw [hlen, List.length_append]
    rw [RingBuffer.put] at hround
    split at hround
    · have hbefore := h.round hround
      omega
    · next hfits =>
      split at hsize
      · omega
      · omega

end GroundTruth.Lib
