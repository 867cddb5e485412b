/-
# Reading fields from an array

A reader keeps a position in an array, checks the end of each field against a limit and then reads
the field; positions are 32-bit ints and wrap.  The same fields can be taken one by one off the
front of a list.  `At` says which list lies between a position and a limit, and `readField_rel`
that a field takes the reader and the list from one such pair to the next.  Whatever is wanted of
the two results, that they are equal or that the reader may fail where the list does not, is a
parameter of the rule.
-/
import GroundTruth.Lib.Words

namespace GroundTruth.Lib

/-! ## 1. Arrays and positions -/

/-- The sum of two 32-bit ints, which wraps. -/
def intAdd (a b : Int) : Int := (a + b).bmod 4294967296

/-- A sum in range is not wrapped. -/
theorem intAdd_eq {a b : Int} (hlow : -2147483648 ≤ a + b) (hhigh : a + b < 2147483648) :
    intAdd a b = a + b :=
  Int.bmod_eq_of_le hlow hhigh

/-- A sum just above the range is negative. -/
theorem intAdd_neg {a b : Int} (hlow : 2147483648 ≤ a + b) (hhigh : a + b < 4294967296) :
    intAdd a b < 0 := by
  rw [intAdd, Int.bmod_def]
  omega

/-- An array of bytes; no array is longer than the bound. -/
structure Buffer where
  bytes : Bytes
  size : bytes.length ≤ 0x7FFFFFC7

def Buffer.length (data : Buffer) : Int := data.bytes.length

theorem Buffer.length_le (data : Buffer) : data.length ≤ 0x7FFFFFC7 := Int.ofNat_le.mpr data.size

/-- `count` bytes from a position.  A read outside the array throws: `none`. -/
def Buffer.slice (data : Buffer) (pos : Int) (count : Nat) : Option Bytes :=
  if pos < 0 ∨ data.length < pos + count then none
  else some ((data.bytes.drop pos.toNat).take count)

/-! ## 2. A field by position and a field off a list -/

/-- A field of `width` bytes: the limit is checked, the bytes are read, the position moves on. -/
def readField {α : Type} (width : Nat) (value : Bytes → α) (data : Buffer) (pos limit : Int) :
    Option (α × Int) :=
  if limit < intAdd pos width then none
  else (data.slice pos width).map fun bs => (value bs, intAdd pos width)

/-- The same field off the front of a list. -/
def takeField {α : Type} (width : Nat) (value : Bytes → α) (l : Bytes) : Option (α × Bytes) :=
  if l.length < width then none else some (value (l.take width), l.drop width)

theorem takeField_append {α : Type} (value : Bytes → α) (bs rest : Bytes) :
    takeField bs.length value (bs ++ rest) = some (value bs, rest) := by
  simp [takeField]

/-! ## 3. Between a position and a limit -/

/-- `l` is what the array holds between the position and the limit. -/
structure At (data : Buffer) (pos limit : Int) (l : Bytes) : Prop where
  split : ∃ pre post, data.bytes = pre ++ l ++ post ∧ pos = pre.length
  stop : limit = pos + l.length

variable {data : Buffer} {pos limit : Int} {l : Bytes}

/-- The rest of the array. -/
theorem At.to_end {pre : Bytes} (h : data.bytes = pre ++ l) :
    At data pre.length data.length l := by
  refine ⟨⟨pre, [], by simpa using h, rfl⟩, ?_⟩
  rw [Buffer.length, h, List.length_append]
  omega

theorem At.pos_nonneg (h : At data pos limit l) : 0 ≤ pos := by
  obtain ⟨pre, post, -, rfl⟩ := h.split
  omega

theorem At.limit_le (h : At data pos limit l) : limit ≤ data.length := by
  obtain ⟨pre, post, hsplit, hpos⟩ := h.split
  have hlen := congrArg List.length hsplit
  simp only [List.length_append] at hlen
  have hstop := h.stop
  rw [Buffer.length]
  omega

/-- A bound for the sums below, none of which wraps. -/
theorem At.limit_small (h : At data pos limit l) : limit ≤ 0x7FFFFFC7 :=
  h.limit_le.trans data.length_le

/-- What is read there is the front of the list. -/
theorem At.slice (h : At data pos limit l) {count : Nat} (hcount : count ≤ l.length) :
    data.slice pos count = some (l.take count) := by
  have hlimit := h.limit_le
  have hstop := h.stop
  obtain ⟨pre, post, hsplit, rfl⟩ := h.split
  rw [Buffer.slice, if_neg (by omega), hsplit, Int.toNat_natCast, List.append_assoc,
    List.drop_left, List.take_append_of_le_length hcount]

theorem At.drop (h : At data pos limit l) {count : Nat} (hcount : count ≤ l.length) :
    At data (pos + count) limit (l.drop count) := by
  have hstop := h.stop
  obtain ⟨pre, post, hsplit, rfl⟩ := h.split
  refine ⟨⟨pre ++ l.take count, post, ?_, ?_⟩, ?_⟩
  · rw [hsplit]
    conv_lhs => rw [← List.take_append_drop count l]
    simp only [List.append_assoc]
  · simp [hcount]
  · rw [List.length_drop]
    omega

theorem At.slice_append {bs rest : Bytes} (h : At data pos limit (bs ++ rest)) :
    data.slice pos bs.length = some bs := by
  simpa using h.slice (show bs.length ≤ (bs ++ rest).length by simp)

theorem At.skip {bs rest : Bytes} (h : At data pos limit (bs ++ rest)) :
    At data (pos + bs.length) limit rest := by
  simpa using h.drop (show bs.length ≤ (bs ++ rest).length by simp)

/-- Less of it, with a nearer limit. -/
theorem At.take (h : At data pos limit l) {count : Nat} (hcount : count ≤ l.length) :
    At data pos (pos + count) (l.take count) := by
  obtain ⟨pre, post, hsplit, rfl⟩ := h.split
  refine ⟨⟨pre, l.drop count ++ post, ?_, rfl⟩, ?_⟩
  · rw [hsplit]
    conv_lhs => rw [← List.take_append_drop count l]
    simp only [List.append_assoc]
  · rw [List.length_take, Nat.min_eq_left hcount]

/-! ## 4. The rule for one field -/

/-- The field is the front of the list, if the list is long enough. -/
theorem At.readField {α : Type} (h : At data pos limit l) {width : Nat} (hwidth : width ≤ 56)
    (value : Bytes → α) :
    readField width value data pos limit =
      if l.length < width then none else some (value (l.take width), pos + width) := by
  have hstop := h.stop
  have hnonneg := h.pos_nonneg
  have hsmall := h.limit_small
  have hadd : intAdd pos width = pos + width := intAdd_eq (by omega) (by omega)
  rw [Lib.readField, hadd]
  by_cases hshort : l.length < width
  · rw [if_pos (by omega), if_pos hshort]
  · rw [if_neg (by omega), if_neg hshort, h.slice (by omega), Option.map_some]

theorem At.readField_append {α : Type} {bs rest : Bytes} (h : At data pos limit (bs ++ rest))
    (hwidth : bs.length ≤ 56) (value : Bytes → α) :
    Lib.readField bs.length value data pos limit = some (value bs, pos + bs.length) := by
  simpa using h.readField hwidth value

/-- **One field.**  What relates the two ways of going on relates the two ways of reading the
field and going on. -/
theorem readField_rel {α β : Type} {R : Option β → Option β → Prop} {width : Nat}
    {value : Bytes → α} {k : α × Int → Option β} {k' : α × Bytes → Option β}
    (hnone : R none none) (hwidth : width ≤ 56) (h : At data pos limit l)
    (hk : ∀ v p rest, At data p limit rest → R (k (v, p)) (k' (v, rest))) :
    R (readField width value data pos limit >>= k) (takeField width value l >>= k') := by
  rw [h.readField hwidth, takeField]
  by_cases hshort : l.length < width
  · rw [if_pos hshort, if_pos hshort]
    exact hnone
  · rw [if_neg hshort, if_neg hshort]
    exact hk _ _ _ (h.drop (by omega))

end GroundTruth.Lib
