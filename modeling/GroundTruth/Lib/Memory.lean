/-
# Arrays with their bounds

An array is the list of its bytes, and its length is its size.  Every access is checked: `none` is
an access outside the array, and a computation that reaches one has no result.

`fill` writes bytes one after the other, and `copy` those of another array.  `fill_eq` and `copy_eq`
say when that is possible and what it leaves, `fill_append` that it can be done in parts, and
`foldlM_fill` that a loop which writes piece after piece is one `fill`.
-/
import GroundTruth.Lib.Bytes

namespace GroundTruth.Lib

/-- An array of `n` bytes that has not been written: whatever is there. -/
def array (garbage : Nat → UInt8) (n : Nat) : Bytes := (List.range n).map garbage

@[simp] theorem array_length (garbage : Nat → UInt8) (n : Nat) : (array garbage n).length = n := by
  simp [array]

/-- One byte read. -/
theorem getElem?_eq_getD {bs : Bytes} {i : Nat} (h : i < bs.length) :
    bs[i]? = some (bs.getD i 0) := by
  rw [List.getD_eq_getElem?_getD, List.getElem?_eq_getElem h, Option.getD_some]

/-- One byte written. -/
def poke (buf : Bytes) (i : Nat) (b : UInt8) : Option Bytes :=
  if i < buf.length then some (buf.set i b) else none

/-- Bytes written one after the other, from `i` on. -/
def fill (buf : Bytes) (i : Nat) : Bytes → Option Bytes
  | [] => some buf
  | b :: bs => (poke buf i b).bind fun buf => fill buf (i + 1) bs

/-- The first `len` bytes, handed over to be sent. -/
def sendArray (buf : Bytes) (len : Nat) : Option Bytes :=
  if len ≤ buf.length then some (buf.take len) else none

/-- `n` bytes of one array, from `j` on, written to another from `i` on. -/
def copy (dst : Bytes) (i : Nat) (src : Bytes) (j n : Nat) : Option Bytes :=
  if j + n ≤ src.length then fill dst i ((src.drop j).take n) else none

/-- **What fits is written**, and nothing else is touched. -/
theorem fill_eq {buf : Bytes} {i : Nat} {bs : Bytes} (h : i + bs.length ≤ buf.length) :
    fill buf i bs = some (buf.take i ++ bs ++ buf.drop (i + bs.length)) := by
  induction bs generalizing buf i with
  | nil => simp [fill]
  | cons b bs ih =>
    simp only [List.length_cons] at h
    have hset : poke buf i b = some (buf.set i b) := if_pos (by omega)
    have htake : (buf.set i b).take (i + 1) = buf.take i ++ [b] := by
      rw [List.take_succ_eq_append_getElem (by rw [List.length_set]; omega),
        List.take_set_of_le (Nat.le_refl i), List.getElem_set_self]
    rw [fill, hset, Option.bind_some, ih (by rw [List.length_set]; omega), htake,
      List.drop_set_of_lt (by omega), List.length_cons]
    simp only [List.append_assoc, List.singleton_append, Nat.add_assoc, Nat.add_comm 1]

theorem fill_append (buf : Bytes) (i : Nat) (bs cs : Bytes) :
    fill buf i (bs ++ cs) = (fill buf i bs).bind fun buf => fill buf (i + bs.length) cs := by
  induction bs generalizing buf i with
  | nil => simp [fill]
  | cons b bs ih =>
    simp only [List.cons_append, fill, List.length_cons]
    cases poke buf i b with
    | none => rfl
    | some buf' =>
      simp only [Option.bind_some, ih]
      rw [Nat.add_assoc, Nat.add_comm 1]

/-- A copy from where the bytes are to where they fit. -/
theorem copy_eq {dst src : Bytes} {i j n : Nat} (hsrc : j + n ≤ src.length)
    (hdst : i + n ≤ dst.length) :
    copy dst i src j n = some (dst.take i ++ (src.drop j).take n ++ dst.drop (i + n)) := by
  have hlen : ((src.drop j).take n).length = n := by
    rw [List.length_take, List.length_drop]
    omega
  rw [copy, if_pos hsrc, fill_eq (by rw [hlen]; exact hdst), hlen]

/-- A loop that writes the pieces of a text, all of one size, is one write of the text. -/
theorem foldlM_fill (piece : Nat → Bytes) {size : Nat} (hsize : ∀ i, (piece i).length = size)
    (buf : Bytes) (base n : Nat) :
    (List.range n).foldlM (fun buf i => fill buf (base + i * size) (piece i)) buf =
      fill buf base ((List.range n).flatMap piece) := by
  induction n with
  | zero => rfl
  | succ n ih =>
    have hlen : ((List.range n).flatMap piece).length = n * size := by
      simp [List.length_flatMap, hsize]
    rw [List.range_succ, List.foldlM_append, ih, List.flatMap_append, fill_append, hlen]
    simp

end GroundTruth.Lib
