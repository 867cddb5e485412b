/-
# Where a boundary shows

`Upload` says how the handler looks for a boundary.  This file says what there is to see: where
the two markers stand, byte by byte, in the data that came with the part headers (`HeadMark`) and
in the chunk buffer (`Mark`), whose bytes are those of the piece that came last, and behind them
those of older pieces or of the heap (`byteAt`).  No definition below uses the search.

* `boundaryInHeader_first`, `boundaryPos_first`: the search stops at the first mark;
* `byteAt_eq`: what the buffer holds after some pieces;
* `stripLineEnds_iff`, `stripLineEnds_length_le`: what is left of the bytes ahead of a mark;
* `drain_unmarked`, `drain_marked`: what the loop writes.
-/
import GroundTruth.Ota.Upload

namespace GroundTruth.Ota

open GroundTruth.Lib

/-! ## 1. Marks -/

/-- At the start, behind a line feed, or behind a line feed and a carriage return. -/
def AtLineStart (mem : Nat → Option UInt8) (p : Nat) : Prop :=
  p = 0 ∨ mem (p - 1) = some lf ∨ 1 < p ∧ mem (p - 2) = some lf ∧ mem (p - 1) = some cr

/-- A mark in the data that came with the part headers: the start marker, wherever it stands. -/
def HeadMark (token data : Bytes) (p : Nat) : Prop :=
  Stands (fun j => data[j]?) (markers token).startBoundary p

/-- The end marker at the start of a line. -/
def EndMark (token : Bytes) (mem : Nat → Option UInt8) (p : Nat) : Prop :=
  Stands mem (markers token).endBoundary p ∧ AtLineStart mem p

/-- A mark in the chunk buffer: the end marker at the start of a line, or, when there is none of
these, the start marker at the start of a line. -/
def Mark (token : Bytes) (mem : Nat → Option UInt8) (p : Nat) : Prop :=
  EndMark token mem p ∨
    Stands mem (markers token).startBoundary p ∧ AtLineStart mem p ∧ ∀ q, ¬EndMark token mem q

theorem precededOk_iff {mem : Bytes} {p : Nat} :
    precededOk mem p = true ↔ AtLineStart (fun j => mem[j]?) p := by
  have hbyte : ∀ (j : Nat) (c : UInt8), c ≠ 0 → (mem.getD j 0 = c ↔ mem[j]? = some c) := by
    intro j c hc
    rw [List.getD_eq_getElem?_getD]
    cases mem[j]? with
    | none => simpa using hc.symm
    | some b => simp
  simp only [precededOk, AtLineStart, Bool.or_eq_true, Bool.and_eq_true, beq_iff_eq,
    decide_eq_true_iff, hbyte _ lf (by decide), hbyte _ cr (by decide)]
  tauto

variable {token : Bytes}

theorem startBoundary_no_nul (h : 0 ∉ token) : 0 ∉ (markers token).startBoundary := by
  intro h0
  rcases List.mem_append.1 h0 with h0 | h0
  · exact absurd h0 (by decide)
  · exact h h0

theorem endBoundary_no_nul (h : 0 ∉ token) : 0 ∉ (markers token).endBoundary := by
  intro h0
  rcases List.mem_append.1 h0 with h0 | h0
  · exact startBoundary_no_nul h h0
  · exact absurd h0 (by decide)

/-- The boundary of a content type has no NUL in it. -/
theorem extractBoundary_no_nul {contentType : Bytes}
    (h : extractBoundary contentType = some token) : 0 ∉ token := by
  obtain ⟨p, -, rfl⟩ := Option.map_eq_some_iff.1 h
  intro h0
  exact zero_not_mem_cstr contentType
    (List.mem_of_mem_drop ((List.takeWhile_prefix _).subset (List.mem_of_mem_take h0)))

/-- A mark stands inside the memory. -/
theorem Stands.le_length {mem pat : Bytes} {p : Nat} (h : Stands (fun j => mem[j]?) pat p) :
    p ≤ mem.length :=
  Nat.le_trans (le_length_cstr h.2) (List.takeWhile_prefix _).length_le

theorem Mark.le_length {mem : Bytes} {p : Nat} (h : Mark token (fun j => mem[j]?) p) :
    p ≤ mem.length := by
  rcases h with h | h
  · exact Stands.le_length h.1
  · exact Stands.le_length h.1

/-! ## 2. The search sees the first -/

/-- **In the data that came with the part headers**, the search stops at the first mark. -/
theorem boundaryInHeader_first (h : 0 ∉ token) {data : Bytes} {p : Nat} :
    boundaryInHeader (markers token) data = some p ↔ First (HeadMark token data) p := by
  have hsearch : strstr data (markers token).startBoundary = some p ↔
      First (HeadMark token data) p := by
    rw [strstr, search_first (startBoundary_no_nul h)]
    exact First.congr fun q => and_iff_left rfl
  unfold boundaryInHeader
  split
  · rename_i hnil
    rw [← hsearch, hnil]
    constructor
    · intro hsome
      cases hsome
    · intro hsome
      cases hsome
  · exact hsearch

theorem boundaryInHeader_none (h : 0 ∉ token) {data : Bytes} :
    boundaryInHeader (markers token) data = none ↔ ∀ p, ¬HeadMark token data p := by
  rw [Option.eq_none_iff_forall_ne_some]
  constructor
  · intro hnone p hp
    obtain ⟨q, hq⟩ := exists_first hp
    exact hnone q ((boundaryInHeader_first h).2 hq)
  · intro hnone p hp
    exact hnone p ((boundaryInHeader_first h).1 hp).1

/-- **In the chunk buffer**, the search stops at the first mark. -/
theorem boundaryPos_first (h : 0 ∉ token) {mem : Bytes} {p : Nat} :
    boundaryPos (markers token) mem = some p ↔ First (Mark token (fun j => mem[j]?)) p := by
  have hend : ∀ q, Stands (fun j => mem[j]?) (markers token).endBoundary q ∧
      precededOk mem q = true ↔ EndMark token (fun j => mem[j]?) q := fun q =>
    and_congr_right fun _ => precededOk_iff
  unfold boundaryPos
  cases hsearch : search (precededOk mem) (markers token).endBoundary 0 (cstr mem) with
  | some r =>
    have hr := (First.congr hend).1 ((search_first (endBoundary_no_nul h)).1 hsearch)
    have hmark : ∀ q, Mark token (fun j => mem[j]?) q ↔ EndMark token (fun j => mem[j]?) q :=
      fun q => ⟨fun hq => hq.resolve_right fun hs => hs.2.2 r hr.1, Or.inl⟩
    rw [First.congr hmark]
    dsimp only
    constructor
    · rintro ⟨⟩
      exact hr
    · intro hp
      rw [hr.unique hp]
  | none =>
    have hnone : ∀ q, ¬EndMark token (fun j => mem[j]?) q := fun q hq =>
      (search_none (endBoundary_no_nul h)).1 hsearch q ((hend q).2 hq)
    dsimp only
    rw [search_first (startBoundary_no_nul h)]
    refine First.congr fun q => ?_
    rw [Bool.and_eq_true, precededOk_iff]
    constructor
    · rintro ⟨hstands, hline, -⟩
      exact Or.inr ⟨hstands, hline, hnone⟩
    · rintro (hq | ⟨hstands, hline, -⟩)
      · exact absurd hq (hnone q)
      · refine ⟨hstands, hline, ?_⟩
        rw [Bool.not_eq_true', Bool.eq_false_iff]
        intro hpre
        have hle := ((stands_iff (startBoundary_no_nul h)).1 hstands).1
        exact hnone q ⟨(stands_iff (endBoundary_no_nul h)).2
          ⟨hle, List.isPrefixOf_iff_prefix.1 hpre⟩, hline⟩

theorem boundaryPos_none (h : 0 ∉ token) {mem : Bytes} :
    boundaryPos (markers token) mem = none ↔ ∀ p, ¬Mark token (fun j => mem[j]?) p := by
  rw [Option.eq_none_iff_forall_ne_some]
  constructor
  · intro hnone p hp
    obtain ⟨q, hq⟩ := exists_first hp
    exact hnone q ((boundaryPos_first h).2 hq)
  · intro hnone p hp
    exact hnone p ((boundaryPos_first h).1 hp).1

/-! ## 3. The chunk buffer -/

/-- The byte at a place of the chunk buffer after the pieces: that of the last piece that reaches
it, or else what the heap held there. -/
def byteAt (heap : Bytes) (pieces : List Bytes) (j : Nat) : Option UInt8 :=
  ((pieces.reverse.find? fun d => decide (j < d.length)).getD heap)[j]?

/-- The chunk buffer after some pieces. -/
def buffer (heap : Bytes) (ds : List Bytes) : Bytes := ds.foldl received heap

theorem buffer_concat (heap : Bytes) (ds : List Bytes) (d : Bytes) :
    buffer heap (ds ++ [d]) = received (buffer heap ds) d := by
  simp [buffer]

/-- **What the buffer holds.** -/
theorem byteAt_eq (heap : Bytes) (pieces : List Bytes) :
    byteAt heap pieces = fun j => (buffer heap pieces)[j]? := by
  funext j
  induction pieces using List.reverseRecOn with
  | nil => rfl
  | append_singleton ds d ih =>
    rw [buffer_concat, received, byteAt, List.reverse_append, List.reverse_singleton,
      List.singleton_append, List.find?_cons]
    by_cases hj : j < d.length
    · rw [decide_eq_true hj, Option.getD_some, List.getElem?_append_left hj]
    · rw [decide_eq_false hj, List.getElem?_append_right (Nat.le_of_not_lt hj),
        List.getElem?_drop, Nat.add_sub_of_le (Nat.le_of_not_lt hj)]
      exact ih

/-! ## 4. What stands ahead of a mark -/

/-- From `k` up to `p`, there is nothing but line ends. -/
def LineEnds (mem : Nat → Option UInt8) (k p : Nat) : Prop :=
  ∀ j, k ≤ j → j < p → mem j = some cr ∨ mem j = some lf

/-- Up to `p` stand these bytes, which do not end in a line end, and then only line ends. -/
def Ahead (mem : Nat → Option UInt8) (fw : Bytes) (p : Nat) : Prop :=
  fw.length ≤ p ∧ (∀ j < fw.length, mem j = fw[j]?) ∧ LineEnds mem fw.length p ∧
    fw.getLast? ≠ some cr ∧ fw.getLast? ≠ some lf

theorem lineEnd_iff {c : UInt8} : lineEnd c = true ↔ c = cr ∨ c = lf := by
  simp [lineEnd]

/-- What is stripped are line ends, and what is left does not end in one. -/
theorem stripLineEnds_spec (bs : Bytes) :
    (∃ gap, bs = stripLineEnds bs ++ gap ∧ ∀ c ∈ gap, lineEnd c = true) ∧
      ∀ c ∈ (stripLineEnds bs).getLast?, lineEnd c = false := by
  refine ⟨⟨bs.rtakeWhile lineEnd, (List.rdropWhile_append_rtakeWhile).symm,
    fun c hc => List.mem_rtakeWhile_imp hc⟩, ?_⟩
  intro c hc
  have hne : stripLineEnds bs ≠ [] := by
    intro hnil
    rw [hnil] at hc
    cases hc
  rw [List.getLast?_eq_some_getLast hne] at hc
  obtain rfl := Option.mem_some_iff.1 hc
  exact Bool.eq_false_iff.2 (List.rdropWhile_last_not lineEnd bs hne)

theorem stripLineEnds_append {fw gap : Bytes} (hgap : ∀ c ∈ gap, lineEnd c = true)
    (hlast : ∀ c ∈ fw.getLast?, lineEnd c = false) : stripLineEnds (fw ++ gap) = fw := by
  induction gap using List.reverseRecOn with
  | nil =>
    rw [List.append_nil]
    refine List.rdropWhile_eq_self_iff.2 fun hne => ?_
    rw [hlast (fw.getLast hne) (List.getLast?_eq_some_getLast hne)]
    exact Bool.false_ne_true
  | append_singleton gap c ih =>
    rw [← List.append_assoc, stripLineEnds, List.rdropWhile_concat_pos _ _ _
      (hgap c (List.mem_append_right gap List.mem_cons_self))]
    exact ih fun x hx => hgap x (List.mem_append_left _ hx)

/-- Line ends ahead of a place, byte by byte and as a list. -/
theorem lineEnds_iff {mem fw gap : Bytes} {p : Nat} (hp : p ≤ mem.length)
    (h : mem.take p = fw ++ gap) :
    LineEnds (fun j => mem[j]?) fw.length p ↔ ∀ c ∈ gap, lineEnd c = true := by
  have hlen := congrArg List.length h
  rw [List.length_take_of_le hp, List.length_append] at hlen
  have hbyte : ∀ k < gap.length, mem[fw.length + k]? = gap[k]? := by
    intro k hk
    rw [← List.getElem?_take_of_lt (by omega : fw.length + k < p), h,
      List.getElem?_append_right (Nat.le_add_right _ _), Nat.add_sub_cancel_left]
  constructor
  · intro hends c hc
    obtain ⟨k, hk, rfl⟩ := List.getElem_of_mem hc
    rw [lineEnd_iff]
    have hends := hends (fw.length + k) (Nat.le_add_right _ _) (by omega)
    dsimp only at hends
    rw [hbyte k hk, List.getElem?_eq_getElem hk] at hends
    exact hends.imp Option.some.inj Option.some.inj
  · intro hgap j hj hjp
    obtain ⟨k, rfl⟩ := Nat.exists_eq_add_of_le hj
    have hk : k < gap.length := by omega
    dsimp only
    rw [hbyte k hk, List.getElem?_eq_getElem hk]
    exact (lineEnd_iff.1 (hgap _ (List.getElem_mem hk))).imp (congrArg some) (congrArg some)

/-- **What is left ahead of a mark.** -/
theorem stripLineEnds_iff {mem fw : Bytes} {p : Nat} (hp : p ≤ mem.length) :
    stripLineEnds (mem.take p) = fw ↔ Ahead (fun j => mem[j]?) fw p := by
  have hlast : (∀ c ∈ fw.getLast?, lineEnd c = false) ↔
      fw.getLast? ≠ some cr ∧ fw.getLast? ≠ some lf := by
    cases fw.getLast? with
    | none => simp
    | some c => simp [lineEnd]
  constructor
  · intro hfw
    obtain ⟨⟨gap, hsplit, hgap⟩, hclean⟩ := stripLineEnds_spec (mem.take p)
    rw [hfw] at hsplit hclean
    have hlen := congrArg List.length hsplit
    rw [List.length_take_of_le hp, List.length_append] at hlen
    refine ⟨by omega, ?_, (lineEnds_iff hp hsplit).2 hgap, hlast.1 hclean⟩
    intro j hj
    rw [← List.getElem?_append_left hj, ← hsplit]
    exact (List.getElem?_take_of_lt (by omega)).symm
  · rintro ⟨hle, hbytes, hends, hclean⟩
    have hpre : mem.take p = fw ++ (mem.take p).drop fw.length := by
      have htake : (mem.take p).take fw.length = fw := by
        refine List.ext_getElem? fun j => ?_
        by_cases hj : j < fw.length
        · rw [List.getElem?_take_of_lt hj, List.getElem?_take_of_lt (by omega)]
          exact hbytes j hj
        · rw [List.getElem?_eq_none (by simp; omega), List.getElem?_eq_none (by omega)]
      conv_lhs => rw [← List.take_append_drop fw.length (mem.take p), htake]
    rw [hpre]
    exact stripLineEnds_append ((lineEnds_iff hp hpre).1 hends) (hlast.2 hclean)

/-- **How much is left ahead of a mark**: as little as can be followed by line ends alone. -/
theorem stripLineEnds_length_le {mem : Bytes} {p n : Nat} (hp : p ≤ mem.length) :
    (stripLineEnds (mem.take p)).length ≤ n ↔
      ∃ k ≤ p, k ≤ n ∧ LineEnds (fun j => mem[j]?) k p := by
  obtain ⟨hle, hbytes, hends, hcr, hlf⟩ := (stripLineEnds_iff hp).1 (rfl : _ = _)
  generalize stripLineEnds (mem.take p) = fw at hle hbytes hends hcr hlf ⊢
  constructor
  · intro hn
    exact ⟨fw.length, hle, hn, hends⟩
  · rintro ⟨k, -, hk, hafter⟩
    refine Nat.le_trans (Nat.le_of_not_lt fun hlt => ?_) hk
    have hlast : mem[fw.length - 1]? = fw.getLast? := by
      rw [List.getLast?_eq_getElem?]
      exact hbytes _ (by omega)
    have hend := hafter (fw.length - 1) (by omega) (by omega)
    dsimp only at hend
    rw [hlast] at hend
    exact hend.elim hcr hlf

/-- After the line ends are gone, there is nothing to strip again. -/
theorem stripAgain_stripLineEnds (bs : Bytes) :
    stripAgain (stripLineEnds bs) = stripLineEnds bs := by
  obtain ⟨-, hlast⟩ := stripLineEnds_spec bs
  generalize stripLineEnds bs = fw at hlast
  have hne : 1 ≤ fw.length → fw.getD (fw.length - 1) 0 ≠ lf := by
    intro hpos hlf
    have hget : fw.getLast? = some (fw.getD (fw.length - 1) 0) := by
      rw [List.getLast?_eq_getElem?, List.getD_eq_getElem?_getD,
        List.getElem?_eq_getElem (by omega)]
      rfl
    have := hlast _ hget
    rw [hlf] at this
    exact absurd this (by decide)
  unfold stripAgain
  rw [if_neg (fun h => hne (by omega) h.2.2), if_neg (fun h => hne h.1 h.2)]

/-! ## 5. What the loop writes -/

/-- After none of these pieces the chunk buffer shows a mark. -/
def Unmarked (token heap : Bytes) (pieces : List Bytes) : Prop :=
  ∀ es, es <+: pieces → es ≠ [] → ∀ p, ¬Mark token (byteAt heap es) p

/-- The first mark in the chunk buffer shows at `p`, after the piece `d`; `es` came before. -/
def FirstMark (token heap : Bytes) (es : List Bytes) (d : Bytes) (p : Nat) : Prop :=
  Unmarked token heap es ∧ First (Mark token (byteAt heap (es ++ [d]))) p

theorem unmarked_nil (token heap : Bytes) : Unmarked token heap [] :=
  fun _ hes hne => absurd (List.prefix_nil.1 hes) hne

/-- The first piece becomes part of what was in the buffer before. -/
theorem byteAt_cons (heap d : Bytes) (es : List Bytes) :
    byteAt heap (d :: es) = byteAt (received heap d) es := by
  rw [byteAt_eq, byteAt_eq, buffer, buffer, List.foldl_cons]

theorem unmarked_cons {heap d : Bytes} {ds : List Bytes} :
    Unmarked token heap (d :: ds) ↔
      (∀ p, ¬Mark token (fun j => (received heap d)[j]?) p) ∧
        Unmarked token (received heap d) ds := by
  have hhead : byteAt heap [d] = fun j => (received heap d)[j]? := byteAt_eq heap [d]
  constructor
  · intro h
    refine ⟨hhead ▸ h [d] ⟨ds, rfl⟩ (List.cons_ne_nil _ _), ?_⟩
    intro es hes _
    rw [← byteAt_cons]
    exact h (d :: es) (List.cons_prefix_cons.2 ⟨rfl, hes⟩) (List.cons_ne_nil _ _)
  · rintro ⟨hfirst, hrest⟩ es hes hne
    obtain ⟨e, es, rfl⟩ := List.exists_cons_of_ne_nil hne
    obtain ⟨rfl, htl⟩ := List.cons_prefix_cons.1 hes
    rw [byteAt_cons]
    cases es with
    | nil => exact hfirst
    | cons e' es => exact hrest _ htl (List.cons_ne_nil _ _)

theorem received_take (mem d : Bytes) : (received mem d).take d.length = d := List.take_left

theorem scanChunk_some {mem d : Bytes} {p : Nat} (h : boundaryPos b (received mem d) = some p) :
    scanChunk b (received mem d) d.length = (stripLineEnds ((received mem d).take p), true) := by
  rw [scanChunk, h]
  dsimp only
  rw [stripAgain_stripLineEnds]

theorem scanChunk_none {mem d : Bytes} (h : boundaryPos b (received mem d) = none) :
    scanChunk b (received mem d) d.length = (d, false) := by
  rw [scanChunk, h]
  dsimp only
  rw [received_take]

/-- **Without a mark**, every piece is written. -/
theorem drain_unmarked (h : 0 ∉ token) {heap : Bytes} {ds : List Bytes}
    (hds : Unmarked token heap ds) : drain (markers token) heap ds = (ds.flatten, false) := by
  induction ds generalizing heap with
  | nil => rfl
  | cons d ds ih =>
    obtain ⟨hfirst, hrest⟩ := unmarked_cons.1 hds
    have hscan := scanChunk_none ((boundaryPos_none h).2 hfirst)
    rw [drain_unseen (by rw [hscan]; exact Bool.false_ne_true), hscan, ih hrest, List.flatten_cons]

/-- **With one**, the pieces before it and what stands ahead of it. -/
theorem drain_marked (h : 0 ∉ token) {heap d : Bytes} {es ds : List Bytes} {p : Nat}
    (hmark : FirstMark token heap es d p) (hpre : es ++ [d] <+: ds) :
    drain (markers token) heap ds =
      (es.flatten ++ stripLineEnds ((buffer heap (es ++ [d])).take p), true) := by
  obtain ⟨tl, rfl⟩ := hpre
  obtain ⟨hes, hp⟩ := hmark
  induction es generalizing heap with
  | nil =>
    rw [byteAt_eq] at hp
    have hscan := scanChunk_some ((boundaryPos_first h).2 hp)
    exact (drain_seen (congrArg Prod.snd hscan) tl).trans hscan
  | cons e es ih =>
    obtain ⟨hfirst, hrest⟩ := unmarked_cons.1 hes
    rw [List.cons_append, byteAt_cons] at hp
    have hscan := scanChunk_none ((boundaryPos_none h).2 hfirst)
    rw [List.cons_append, List.cons_append,
      drain_unseen (by rw [hscan]; exact Bool.false_ne_true), hscan, ih hrest hp,
      List.flatten_cons, List.append_assoc]
    rfl

/-- There is no mark, or a first one. -/
theorem unmarked_or_first (token heap : Bytes) (ds : List Bytes) :
    Unmarked token heap ds ∨ ∃ es d p, es ++ [d] <+: ds ∧ FirstMark token heap es d p := by
  induction ds using List.reverseRecOn with
  | nil => exact Or.inl (unmarked_nil token heap)
  | append_singleton ds d ih =>
    obtain hds | ⟨es, e, p, hes, hmark⟩ := ih
    · by_cases hd : ∃ p, Mark token (byteAt heap (ds ++ [d])) p
      · obtain ⟨p, hp⟩ := hd
        obtain ⟨q, hq⟩ := exists_first hp
        exact Or.inr ⟨ds, d, q, List.prefix_refl _, hds, hq⟩
      · left
        intro es hes hne p hp
        rcases List.prefix_concat_iff.1 hes with rfl | hes
        · exact hd ⟨p, hp⟩
        · exact hds es hes hne p hp
    · exact Or.inr ⟨es, e, p, hes.trans (List.prefix_append _ _), hmark⟩

end GroundTruth.Ota
