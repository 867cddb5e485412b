/-
# What an upload extracts

A multipart body is the part headers, the firmware, and the closing boundary.  This file says when
a successful upload writes exactly the firmware: when the first mark that shows is at the end of
the firmware (`MarkedAtEnd`).  It need not be: the boundary can be cut by the edge of a chunk or
hidden behind a NUL, bytes of the firmware can look like one, and a firmware that ends in a line
end loses it.

* `strstr_partHead`: the separator is found where the part headers end, and not before;
* `readHeader_chunks`: however the body is cut, the firmware begins where it should;
* `extracted_eq_iff`: what is written, against `MarkedAtEnd`;
* `extraction`: all of the handler.
-/
import GroundTruth.Ota.Marks

namespace GroundTruth.Ota

open GroundTruth.Lib

/-! ## 1. Multipart bodies -/

def crlf : Bytes := [cr, lf]

/-- A line of the part headers: something, with no line end in it and no NUL. -/
def Line (l : Bytes) : Prop := l ≠ [] ∧ 0 ∉ l ∧ cr ∉ l ∧ lf ∉ l

/-- Lines, and a blank line. -/
def headText (lines : List Bytes) : Bytes := lines.flatMap (· ++ crlf) ++ crlf

@[simp] theorem headText_nil : headText [] = [cr, lf] := rfl

@[simp] theorem headText_cons (l : Bytes) (ls : List Bytes) :
    headText (l :: ls) = l ++ cr :: lf :: headText ls := by
  simp [headText, crlf]

/-- The delimiter line and the part headers. -/
def partHead (boundary : Bytes) (lines : List Bytes) : Bytes :=
  headText ((ascii "--" ++ boundary) :: lines)

/-- The closing delimiter. -/
def closing (boundary : Bytes) : Bytes :=
  crlf ++ ascii "--" ++ boundary ++ ascii "--" ++ crlf

/-! ## 2. The separator -/

/-- Text after a line does not begin with a line feed, and with a CR only at the blank line. -/
theorem headText_head {ls : List Bytes} (h : ∀ l ∈ ls, Line l) :
    (∀ s, ¬lf :: s <+: headText ls) ∧ (ls ≠ [] → ∀ s, ¬cr :: s <+: headText ls) := by
  cases ls with
  | nil =>
    refine ⟨?_, fun hne => absurd rfl hne⟩
    intro s hs
    rw [headText_nil, List.cons_prefix_cons] at hs
    exact absurd hs.1 (by decide)
  | cons l ls =>
    obtain ⟨hne, -, hcr, hlf⟩ := h l List.mem_cons_self
    obtain ⟨c, l, rfl⟩ := List.exists_cons_of_ne_nil hne
    constructor
    · intro s hs
      rw [headText_cons, List.cons_append, List.cons_prefix_cons] at hs
      exact hlf (hs.1 ▸ List.mem_cons_self)
    · intro _ s hs
      rw [headText_cons, List.cons_append, List.cons_prefix_cons] at hs
      exact hcr (hs.1 ▸ List.mem_cons_self)

/-- The separator stands only at the end of the part headers. -/
theorem separator_at_end {ls : List Bytes} (h : ∀ l ∈ ls, Line l) {q : Nat}
    (hq : [cr, lf, cr, lf] <+: (headText ls).drop q) : q + 4 = (headText ls).length := by
  induction ls generalizing q with
  | nil =>
    have hlen := hq.length_le
    simp at hlen
    omega
  | cons l ls ih =>
    have hl := h l List.mem_cons_self
    have hls : ∀ l ∈ ls, Line l := fun l' hl' => h l' (List.mem_cons_of_mem _ hl')
    rw [headText_cons] at hq ⊢
    obtain ⟨hle, hrest⟩ := prefix_drop_append hl.2.2.1 hq
    obtain ⟨k, rfl⟩ := Nat.exists_eq_add_of_le hle
    rw [Nat.add_sub_cancel_left] at hrest
    rcases k with _ | _ | k
    · -- at the end of this line: then the blank line follows
      have hhead : [cr, lf] <+: headText ls := by
        simpa [List.cons_prefix_cons] using hrest
      cases ls with
      | nil => simp
      | cons l' ls => exact absurd hhead ((headText_head hls).2 (List.cons_ne_nil _ _) _)
    · exact absurd (List.cons_prefix_cons.1 hrest).1 (by decide)
    · have := ih hls (q := k) hrest
      simp only [List.length_append, List.length_cons]
      omega

/-- Two line feeds in a row stand nowhere in them. -/
theorem no_lflf {ls : List Bytes} (h : ∀ l ∈ ls, Line l) (q : Nat) :
    ¬[lf, lf] <+: (headText ls).drop q := by
  induction ls generalizing q with
  | nil =>
    intro hq
    rcases q with _ | _ | q
    · exact absurd (List.cons_prefix_cons.1 hq).1 (by decide)
    · have hlen := hq.length_le
      simp at hlen
    · have hlen := hq.length_le
      simp at hlen
  | cons l ls ih =>
    have hl := h l List.mem_cons_self
    have hls : ∀ l ∈ ls, Line l := fun l' hl' => h l' (List.mem_cons_of_mem _ hl')
    intro hq
    rw [headText_cons] at hq
    obtain ⟨hle, hrest⟩ := prefix_drop_append hl.2.2.2 hq
    obtain ⟨k, rfl⟩ := Nat.exists_eq_add_of_le hle
    rw [Nat.add_sub_cancel_left] at hrest
    rcases k with _ | _ | k
    · exact absurd (List.cons_prefix_cons.1 hrest).1 (by decide)
    · exact (headText_head hls).1 [] (List.cons_prefix_cons.1 hrest).2
    · exact ih hls k hrest

theorem headText_no_nul {ls : List Bytes} (h : ∀ l ∈ ls, Line l) : 0 ∉ headText ls := by
  induction ls with
  | nil => decide
  | cons l ls ih =>
    have hl := h l List.mem_cons_self
    have hls := ih fun l' hl' => h l' (List.mem_cons_of_mem _ hl')
    rw [headText_cons]
    intro hmem
    rcases List.mem_append.1 hmem with hmem | hmem
    · exact hl.2.1 hmem
    · rcases List.mem_cons.1 hmem with h0 | hmem
      · exact absurd h0 (by decide)
      · rcases List.mem_cons.1 hmem with h0 | hmem
        · exact absurd h0 (by decide)
        · exact hls hmem

/-- They end in the separator. -/
theorem headText_ends {ls : List Bytes} (hne : ls ≠ []) :
    ∃ pre, headText ls = pre ++ [cr, lf, cr, lf] := by
  obtain ⟨init, l, rfl⟩ : ∃ init l, ls = init ++ [l] :=
    ⟨ls.dropLast, ls.getLast hne, (List.dropLast_append_getLast hne).symm⟩
  exact ⟨init.flatMap (· ++ crlf) ++ l, by simp [headText, crlf]⟩

/-- **The separator is found where the part headers end.** -/
theorem strstr_headText {ls : List Bytes} (h : ∀ l ∈ ls, Line l) (hne : ls ≠ []) (d : Bytes) :
    strstr (headText ls ++ d) [cr, lf, cr, lf] = some ((headText ls).length - 4) := by
  obtain ⟨pre, hpre⟩ := headText_ends hne
  have hlen : (headText ls).length = pre.length + 4 := by simp [hpre]
  rw [strstr_eq_some_iff, cstr_append (headText_no_nul h)]
  refine ⟨?_, ?_, ?_⟩
  · rw [List.length_append]
    omega
  · rw [hlen, Nat.add_sub_cancel, hpre, List.append_assoc, List.drop_left]
    exact List.prefix_append _ _
  · intro r hr hpat
    have hin := prefix_drop_left hpat (by simp only [List.length_cons, List.length_nil]; omega)
    have := separator_at_end h hin
    omega

theorem headerLen_headText {ls : List Bytes} (h : ∀ l ∈ ls, Line l) (hne : ls ≠ []) (d : Bytes) :
    headerLen (headText ls ++ d) = some (headText ls).length := by
  obtain ⟨pre, hpre⟩ := headText_ends hne
  have hlen : (headText ls).length = pre.length + 4 := by simp [hpre]
  rw [headerLen, strstr_headText h hne]
  simp only [Option.some.injEq]
  omega

/-- Before that, there is no separator. -/
theorem foundSeparator_short {ls : List Bytes} (h : ∀ l ∈ ls, Line l) {acc rest : Bytes}
    (hsplit : acc ++ rest = headText ls) (hrest : rest ≠ []) : foundSeparator acc = false := by
  have hnul : 0 ∉ acc := fun h0 => headText_no_nul h (hsplit ▸ List.mem_append_left rest h0)
  have hcstr : cstr acc = acc := by
    have := cstr_append hnul []
    simpa using this
  have hlen := congrArg List.length hsplit
  have hpos := List.length_pos_of_ne_nil hrest
  rw [List.length_append] at hlen
  have hsep : strstr acc [cr, lf, cr, lf] = none := by
    rw [strstr_eq_none_iff, hcstr]
    intro q hq hpat
    have hwhole : [cr, lf, cr, lf] <+: (headText ls).drop q := by
      rw [← hsplit, List.drop_append_of_le_length hq]
      exact hpat.trans (List.prefix_append _ _)
    have hend := separator_at_end h hwhole
    have hfour := hpat.length_le
    simp only [List.length_cons, List.length_nil, List.length_drop] at hfour
    omega
  have hlflf : strstr acc [lf, lf] = none := by
    rw [strstr_eq_none_iff, hcstr]
    intro q hq hpat
    refine no_lflf h q ?_
    rw [← hsplit, List.drop_append_of_le_length hq]
    exact hpat.trans (List.prefix_append _ _)
  simp [foundSeparator, hsep, hlflf]

/-! ## 3. The pieces of the body -/

/-- What is left of the pieces once `n` bytes have been taken: the rest of the piece that was cut,
and the pieces after it. -/
def afterBytes : Nat → List Bytes → Bytes × List Bytes
  | _, [] => ([], [])
  | n, d :: ds => if n ≤ d.length then (d.drop n, ds) else afterBytes (n - d.length) ds

/-- **However the body is cut, the firmware begins where it should.** -/
theorem readHeader_chunks {ls : List Bytes} (h : ∀ l ∈ ls, Line l) (hne : ls ≠ [])
    {chunks : List Bytes} {acc tail buf : Bytes} {timeouts : Nat} {rest : List Recv}
    (hbody : acc ++ chunks.flatten = headText ls ++ tail)
    (hacc : acc.length < (headText ls).length)
    (hread : readHeader timeouts acc (chunks.map .data) = .found buf rest) :
    buf = headText ls ++ (afterBytes ((headText ls).length - acc.length) chunks).1 ∧
      rest = (afterBytes ((headText ls).length - acc.length) chunks).2.map .data := by
  induction chunks generalizing acc timeouts with
  | nil => cases hread
  | cons d ds ih =>
    rw [List.flatten_cons, ← List.append_assoc] at hbody
    rw [List.map_cons, readHeader] at hread
    by_cases hle : (headText ls).length ≤ (acc ++ d).length
    · have hpre : headText ls <+: acc ++ d :=
        List.prefix_of_prefix_length_le (List.prefix_append _ _)
          (hbody ▸ List.prefix_append _ _) hle
      obtain ⟨x, hx⟩ := hpre
      have hdrop : d.drop ((headText ls).length - acc.length) = x := by
        have hd := congrArg (List.drop (headText ls).length) hx
        rw [List.drop_left, List.drop_append, List.drop_eq_nil_of_le (Nat.le_of_lt hacc),
          List.nil_append] at hd
        exact hd.symm
      have hsep : foundSeparator (acc ++ d) = true := by
        rw [← hx, foundSeparator, strstr_headText h hne]
        rfl
      rw [if_pos hsep] at hread
      obtain ⟨rfl, rfl⟩ := HeaderExit.found.inj hread
      rw [List.length_append] at hle
      rw [afterBytes, if_pos (by omega)]
      exact ⟨by rw [hdrop, hx], rfl⟩
    · have hpre : acc ++ d <+: headText ls :=
        List.prefix_of_prefix_length_le (hbody ▸ List.prefix_append _ _)
          (List.prefix_append _ _) (Nat.le_of_not_le hle)
      obtain ⟨x, hx⟩ := hpre
      have hxne : x ≠ [] := by
        rintro rfl
        rw [List.append_nil] at hx
        exact hle (Nat.le_of_eq (congrArg List.length hx).symm)
      rw [foundSeparator_short h hx hxne, if_neg (by decide)] at hread
      split at hread
      · have hih := ih hbody (Nat.lt_of_not_le hle) hread
        rw [List.length_append] at hle hih
        have hnot : ¬(headText ls).length - acc.length ≤ d.length := by omega
        rw [afterBytes, if_neg hnot, Nat.sub_sub]
        exact hih
      · cases hread

/-- The same for a multipart body. -/
theorem readHeader_body {boundary payload buf : Bytes} {lines chunks : List Bytes}
    {rest : List Recv} (hboundary : Line (ascii "--" ++ boundary)) (hlines : ∀ l ∈ lines, Line l)
    (hbody : chunks.flatten = partHead boundary lines ++ payload)
    (hread : readHeader 0 [] (chunks.map .data) = .found buf rest) :
    buf = partHead boundary lines ++ (afterBytes (partHead boundary lines).length chunks).1 ∧
      rest = (afterBytes (partHead boundary lines).length chunks).2.map .data ∧
      headerLen buf = some (partHead boundary lines).length := by
  have hls : ∀ l ∈ (ascii "--" ++ boundary) :: lines, Line l :=
    List.forall_mem_cons.2 ⟨hboundary, hlines⟩
  have hne : (ascii "--" ++ boundary) :: lines ≠ [] := List.cons_ne_nil _ _
  have hpos : ([] : Bytes).length < (headText ((ascii "--" ++ boundary) :: lines)).length := by
    obtain ⟨pre, hpre⟩ := headText_ends hne
    simp [hpre]
  have hwhole : [] ++ chunks.flatten = headText ((ascii "--" ++ boundary) :: lines) ++ payload :=
    hbody
  obtain ⟨rfl, hrest⟩ := readHeader_chunks hls hne hwhole hpos hread
  exact ⟨rfl, hrest, headerLen_headText hls hne _⟩

/-- The pieces after the cut make up what is left. -/
theorem afterBytes_flatten {n : Nat} {chunks : List Bytes} {pre tail : Bytes}
    (hn : pre.length = n) (h : chunks.flatten = pre ++ tail) :
    (afterBytes n chunks).1 ++ (afterBytes n chunks).2.flatten = tail := by
  induction chunks generalizing n pre with
  | nil =>
    rw [List.flatten_nil] at h
    obtain ⟨rfl, rfl⟩ := List.append_eq_nil_iff.1 h.symm
    rfl
  | cons d ds ih =>
    rw [List.flatten_cons] at h
    rw [afterBytes]
    split
    · rename_i hle
      have hd := congrArg (List.drop n) h
      rw [← hn, List.drop_left, List.drop_append_of_le_length (by omega)] at hd
      rw [← hd, hn]
    · rename_i hle
      have hpre : d <+: pre :=
        List.prefix_of_prefix_length_le (h ▸ List.prefix_append _ _) (List.prefix_append _ _)
          (by omega)
      obtain ⟨x, rfl⟩ := hpre
      rw [List.append_assoc] at h
      rw [List.length_append] at hn
      exact ih (by omega) (List.append_cancel_left h)

/-! ## 4. The whole upload -/

variable {b : Markers}

/-- What comes after the piece in which the boundary was seen is not looked at. -/
theorem drain_append {mem : Bytes} {ds es : List Bytes} (h : (drain b mem ds).2 = true) :
    drain b mem (ds ++ es) = drain b mem ds := by
  induction ds generalizing mem with
  | nil => cases h
  | cons d ds ih =>
    by_cases hseen : (scanChunk b (received mem d) d.length).2 = true
    · rw [List.cons_append, drain_seen hseen, drain_seen hseen]
    · rw [drain_unseen hseen] at h
      rw [List.cons_append, drain_unseen hseen, drain_unseen hseen, ih h]

/-- What an upload writes of the data that came with the part headers and of the chunks. -/
def extracted (b : Markers) (heap data : Bytes) (ds : List Bytes) : Bytes :=
  if (scanInitial b data).2 = true then (scanInitial b data).1
  else data ++ (drain b heap ds).1

theorem extracted_some {heap data : Bytes} {p : Nat} (h : boundaryInHeader b data = some p)
    (ds : List Bytes) : extracted b heap data ds = stripLineEnds (data.take p) := by
  rw [extracted, scanInitial_some h, if_pos rfl]

theorem extracted_none {heap data : Bytes} (h : boundaryInHeader b data = none)
    (ds : List Bytes) : extracted b heap data ds = data ++ (drain b heap ds).1 := by
  rw [extracted, scanInitial_none h, if_neg Bool.false_ne_true]

/-- Of pieces, a success leaves none that matters unread. -/
theorem drain_of_split {heap : Bytes} {ds : List Bytes} {pre post : List Recv}
    (hsplit : ds.map Recv.data = pre ++ post)
    (h : (drain b heap (datas pre)).2 = true ∨ Ended post) :
    drain b heap (datas pre) = drain b heap ds := by
  have hds : ds = datas pre ++ datas post := by
    have := congrArg datas hsplit
    rwa [datas_map, datas_append] at this
  rcases h with hseen | rfl | hclosed
  · rw [hds, drain_append hseen]
  · rw [hds, datas_nil, List.append_nil]
  · obtain ⟨post, rfl⟩ : ∃ rest, post = .closed :: rest := by
      cases post with
      | nil => cases hclosed
      | cons r post => exact ⟨post, by simpa using hclosed⟩
    have hmem : Recv.closed ∈ ds.map Recv.data := by
      rw [hsplit]
      exact List.mem_append_right _ List.mem_cons_self
    obtain ⟨d, -, hd⟩ := List.mem_map.1 hmem
    cases hd

/-- **What a successful upload of pieces writes.** -/
theorem uploadFirmware_extracted {f : Flash} {mem : Memory} {contentLen : Nat} {data : Bytes}
    {ds : List Bytes} {m : Manager}
    (h : (uploadFirmware f mem b contentLen data (ds.map .data) m).1.success = true) :
    written (uploadFirmware f mem b contentLen data (ds.map .data) m).2.calls =
      written m.calls ++ extracted b (mem.chunkBuffer.getD []) data ds := by
  obtain ⟨cs, tail, hcalls, -, htail, ⟨hseen, hcs⟩ | ⟨hunseen, heap, pre, post, hheap, hsplit,
    hcs, hend⟩⟩ := uploadFirmware_success h
  · rw [hcalls, written_append, written_append, htail.written, List.append_nil, hcs, extracted,
      if_pos hseen]
  · have hdrain : drain b heap (datas pre) = drain b heap ds :=
      drain_of_split hsplit (hend.imp id fun he => he.2.1)
    rw [hcalls, written_append, written_append, htail.written, List.append_nil, hcs, extracted,
      hunseen, if_neg Bool.false_ne_true, hheap, Option.getD_some, hdrain]

/-! ## 5. Where the boundary shows -/

/-- The first mark shows where the firmware ends.  The data that came with the part headers has
one, behind the firmware and line ends; or it has none, and the first one in the chunk buffer shows
after a piece up to which there was only firmware, behind what was left of it and line ends.  What
stands right ahead of these line ends is no line end. -/
def MarkedAtEnd (token heap fw data : Bytes) (ds : List Bytes) : Prop :=
  (∃ p, First (HeadMark token data) p ∧ Ahead (fun j => data[j]?) fw p) ∨
    (∀ p, ¬HeadMark token data p) ∧
      ∃ es d rest p, es ++ [d] <+: ds ∧ fw = data ++ es.flatten ++ rest ∧
        FirstMark token heap es d p ∧ Ahead (byteAt heap (es ++ [d])) rest p

/-- **What an upload writes, against where the first mark shows.**  The pieces hold the firmware
and something after it. -/
theorem extracted_eq_iff {token heap fw data tail : Bytes} {ds : List Bytes} (h : 0 ∉ token)
    (htail : tail ≠ []) (hsplit : data ++ ds.flatten = fw ++ tail) :
    extracted (markers token) heap data ds = fw ↔ MarkedAtEnd token heap fw data ds := by
  cases hb : boundaryInHeader (markers token) data with
  | some p =>
    have hp := (boundaryInHeader_first h).1 hb
    rw [extracted_some hb, stripLineEnds_iff (Stands.le_length hp.1)]
    constructor
    · intro hfw
      exact Or.inl ⟨p, hp, hfw⟩
    · rintro (⟨q, hq, hfw⟩ | ⟨hnone, -⟩)
      · rwa [hp.unique hq]
      · exact absurd hp.1 (hnone p)
  | none =>
    have hnone := (boundaryInHeader_none h).1 hb
    rw [extracted_none hb]
    have hmarked : ∀ {es d p}, es ++ [d] <+: ds → FirstMark token heap es d p → ∀ rest,
        (stripLineEnds ((buffer heap (es ++ [d])).take p) = rest ↔
          Ahead (byteAt heap (es ++ [d])) rest p) := by
      intro es d p _ hmark rest
      have hp := hmark.2.1
      rw [byteAt_eq] at hp ⊢
      exact stripLineEnds_iff hp.le_length
    constructor
    · intro hfw
      obtain hun | ⟨es, d, p, hes, hmark⟩ := unmarked_or_first token heap ds
      · rw [drain_unmarked h hun] at hfw
        rw [← hfw] at hsplit
        exact absurd (List.append_right_eq_self.1 hsplit.symm) htail
      · rw [drain_marked h hmark hes, ← List.append_assoc] at hfw
        exact Or.inr ⟨hnone, es, d, _, p, hes, hfw.symm, hmark, (hmarked hes hmark _).1 rfl⟩
    · rintro (⟨q, hq, -⟩ | ⟨-, es, d, rest, p, hes, rfl, hmark, hrest⟩)
      · exact absurd hq.1 (hnone q)
      · rw [drain_marked h hmark hes, (hmarked hes hmark rest).2 hrest, List.append_assoc]

/-- **Extraction.**  A successful upload of a multipart body writes exactly the firmware if and
only if the first mark shows where the firmware ends. -/
theorem extraction (f : Flash) (mem : Memory) (contentType : Bytes) (contentLen : Nat)
    (token boundary fw : Bytes) (lines chunks : List Bytes) (m : Manager)
    (htoken : extractBoundary contentType = some token)
    (hboundary : Line (ascii "--" ++ boundary)) (hlines : ∀ l ∈ lines, Line l)
    (hbody : chunks.flatten = partHead boundary lines ++ (fw ++ closing boundary))
    (hok : (apiOtaUpdateUpload f mem contentType ⟨contentLen, chunks.map .data⟩ m).1.success =
      true) :
    written (apiOtaUpdateUpload f mem contentType ⟨contentLen, chunks.map .data⟩ m).2.calls =
        written m.calls ++ fw ↔
      MarkedAtEnd token (mem.chunkBuffer.getD []) fw
        (afterBytes (partHead boundary lines).length chunks).1
        (afterBytes (partHead boundary lines).length chunks).2 := by
  obtain ⟨b, buf, rest, len, s, hb, hread, hlen, hstart, hrun⟩ := apiOtaUpdateUpload_success hok
  obtain rfl := Option.some.inj (hb.symm.trans htoken)
  obtain ⟨p, -, hs⟩ := start_calls hstart
  obtain ⟨rfl, rfl, hhead⟩ := readHeader_body hboundary hlines hbody hread
  obtain rfl := Option.some.inj (hhead.symm.trans hlen)
  have hbegin : written s.calls = written m.calls := by
    rw [hs, written_append]
    exact List.append_nil _
  rw [hrun] at hok ⊢
  rw [List.drop_left] at hok ⊢
  rw [uploadFirmware_extracted hok, hbegin, List.append_cancel_left_eq]
  exact extracted_eq_iff (extractBoundary_no_nul hb) (by simp [closing, crlf])
    (afterBytes_flatten rfl hbody)

/-! ## 6. Two uploads -/

/-- A flash with the shipped partition. -/
def benchFlash : Flash := Flash.willing ⟨.ota1, 0x180000⟩

def benchContentType : Bytes := ascii "multipart/form-data; boundary=b"

/-- A body with one part that has no headers. -/
def benchBody (fw : Bytes) : Bytes := partHead (ascii "b") [] ++ (fw ++ closing (ascii "b"))

/-- A body that comes in these pieces. -/
def benchUpload (len : Nat) (chunks : List Bytes) : Reply × Manager :=
  apiOtaUpdateUpload benchFlash ⟨true, some []⟩ benchContentType ⟨len, chunks.map .data⟩
    Manager.idle

/-- Enough firmware that delimiters are less than 5 percent of the body. -/
def benchFirmware : Bytes := List.replicate 100 0xE9 ++ List.replicate 220 1

/-- It comes in two pieces, with the closing delimiter in the second. -/
def benchPieces : List Bytes :=
  [partHead (ascii "b") [], List.replicate 100 0xE9, List.replicate 220 1 ++ closing (ascii "b")]

theorem benchPieces_marked :
    MarkedAtEnd (ascii "b") [] benchFirmware
      (afterBytes (partHead (ascii "b") []).length benchPieces).1
      (afterBytes (partHead (ascii "b") []).length benchPieces).2 := by
  refine (extracted_eq_iff (by decide) (by decide : closing (ascii "b") ≠ []) ?_).1 ?_
  · decide +kernel
  · decide +kernel

/-- All of it is written. -/
theorem extraction_plain : written (benchUpload 336 benchPieces).2.calls = benchFirmware := by
  have hwritten := (extraction benchFlash ⟨true, some []⟩ benchContentType 336 (ascii "b")
    (ascii "b") benchFirmware [] benchPieces Manager.idle (by decide)
    ⟨by decide, by decide, by decide, by decide⟩ (fun _ hl => absurd hl List.not_mem_nil)
    (by decide +kernel) (by decide +kernel)).2 benchPieces_marked
  have hidle : written Manager.idle.calls = [] := rfl
  rw [hidle, List.nil_append] at hwritten
  unfold benchUpload
  exact hwritten

/-- A firmware that ends in a line feed is written without it. -/
theorem extraction_stripped :
    (benchUpload 19 [benchBody [0xE9, 10]]).1 = .ok ∧
      written (benchUpload 19 [benchBody [0xE9, 10]]).2.calls = [0xE9] ∧
      written (benchUpload 19 [benchBody [0xE9, 10]]).2.calls ≠ [0xE9, 10] := by
  decide +kernel

end GroundTruth.Ota
