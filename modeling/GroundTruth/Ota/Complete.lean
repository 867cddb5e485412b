/-
# When an upload is finished

`ota_manager_finish_streaming_update` makes the new firmware the one that boots.  The handler calls
it on three occasions (`Finishes`): a mark shows in the data that came with the part headers; one
shows in the chunk buffer; or the connection is closed after 95 percent of the bytes that the
handler expects, which are 1024 fewer than the body has.  None of them is the closing delimiter:
the first piece is not checked for a line end ahead of the mark, a bare line feed or the edge of a
chunk passes for one in the others, bytes that an earlier piece or the heap left in the buffer are
searched too, and the last does not ask for a boundary at all.  `completeness` says that the update
is finished without the closing delimiter in these cases and in no other.
-/
import GroundTruth.Ota.Extract

namespace GroundTruth.Ota

open GroundTruth.Lib

/-! ## 1. Only finishing ends the image -/

/-- No `esp_ota_end` has been called on the way. -/
def Quiet (m m' : Manager) : Prop := .otaEnd ∈ m'.calls → .otaEnd ∈ m.calls

theorem Quiet.refl (m : Manager) : Quiet m m := id

theorem Quiet.trans {m₁ m₂ m₃ : Manager} (h : Quiet m₁ m₂) (h' : Quiet m₂ m₃) : Quiet m₁ m₃ :=
  fun hend => h (h' hend)

/-- Calls other than `esp_ota_end` are quiet. -/
theorem Quiet.of_calls {m m' : Manager} (cs : List FlashCall) (h : m'.calls = m.calls ++ cs)
    (hcs : .otaEnd ∉ cs) : Quiet m m' := by
  intro hend
  rw [h] at hend
  exact (List.mem_append.1 hend).resolve_right hcs

variable {f : Flash} {b : Markers}

theorem abort_quiet (f : Flash) (m : Manager) : Quiet m (m.abort f) :=
  Quiet.of_calls _ (abort_calls f m) (by decide)

theorem writeChunk_quiet (f : Flash) (data : Bytes) (m : Manager) :
    Quiet m (writeChunk f data m).2 := by
  unfold writeChunk
  split
  · exact Quiet.refl m
  · rename_i hne
    refine Quiet.of_calls _ (write_calls hne f m) ?_
    split <;> simp

theorem start_quiet (f : Flash) (n : Nat) (m : Manager) :
    Quiet m (otaManagerStartStreamingUpdate f n m).2 := by
  rcases start_calls_cases f n m with hcalls | ⟨p, hcalls⟩
  · exact Quiet.of_calls [] (hcalls.trans (List.append_nil _).symm) List.not_mem_nil
  · exact Quiet.of_calls _ hcalls (by simp)

theorem connectionClosed_quiet (f : Flash) (expected total : Nat) (m : Manager) :
    Quiet m (connectionClosed f expected total m).manager := by
  unfold connectionClosed
  split
  · exact Quiet.refl m
  · exact abort_quiet f m

/-- The loop ends no image. -/
theorem streamChunks_quiet (f : Flash) (b : Markers) (expected : Nat) (rs : List Recv) (mem : Bytes)
    (total timeouts : Nat) (m : Manager) :
    Quiet m (streamChunks f b expected mem total timeouts m rs).manager := by
  induction rs generalizing mem total timeouts m with
  | nil => exact connectionClosed_quiet f expected total m
  | cons r rs ih =>
    cases r with
    | timeout =>
      rw [streamChunks]
      split
      · exact abort_quiet f m
      · exact ih mem total (timeouts + 1) m
    | closed => exact connectionClosed_quiet f expected total m
    | error => exact abort_quiet f m
    | data bs =>
      have hw := writeChunk_quiet f (scanChunk b (received mem bs) bs.length).1 m
      rw [streamChunks]
      split
      · exact hw
      · split
        · exact hw
        · exact hw.trans (ih _ _ _ _)

theorem uploadFirmware_quiet {mem : Memory} {contentLen : Nat} {data : Bytes}
    {rs : List Recv} {m : Manager}
    (h : (uploadFirmware f mem b contentLen data rs m).1.success = false) :
    Quiet m (uploadFirmware f mem b contentLen data rs m).2 := by
  have hw := writeChunk_quiet f (scanInitial b data).1 m
  unfold uploadFirmware at h ⊢
  dsimp only at h ⊢
  by_cases hfail : (writeChunk f (scanInitial b data).1 m).1 = false
  · rw [if_pos hfail]
    exact hw
  rw [if_neg hfail] at h ⊢
  by_cases hseen : (scanInitial b data).2 = true
  · rw [if_pos hseen, finishUpload_success] at h
    cases h
  rw [if_neg hseen] at h ⊢
  cases hheap : mem.chunkBuffer with
  | none => exact hw.trans (abort_quiet f _)
  | some heap =>
    rw [hheap] at h
    dsimp only at h ⊢
    have hloop := hw.trans (streamChunks_quiet f b (expectedFirmwareBytes contentLen) rs heap
      data.length 0 _)
    cases hexit : streamChunks f b (expectedFirmwareBytes contentLen) heap data.length 0
        (writeChunk f (scanInitial b data).1 m).2 rs with
    | failed httpStatus message m' =>
      rw [hexit] at hloop
      exact hloop
    | complete total m' =>
      rw [hexit, afterStream] at h
      rw [hexit] at hloop
      rw [afterStream]
      split
      · exact hloop.trans (abort_quiet f m')
      · rename_i hlow
        rw [if_neg hlow, finishUpload_success] at h
        cases h

/-- An upload that is refused or fails ends no image. -/
theorem apiOtaUpdateUpload_quiet {mem : Memory} {contentType : Bytes} {req : Request}
    {m : Manager} (h : (apiOtaUpdateUpload f mem contentType req m).1.success = false) :
    Quiet m (apiOtaUpdateUpload f mem contentType req m).2 := by
  obtain ⟨-, httpStatus, message, hrun⟩ | ⟨boundary, buf, rest, len, -, -, -, -, -, hrun⟩ :=
    apiOtaUpdateUpload_cases f mem contentType req m
  · rw [hrun]
    exact Quiet.refl m
  · have hs := start_quiet f (expectedFirmwareBytes req.contentLen) m
    dsimp only at hrun
    rw [hrun] at h ⊢
    split
    · exact hs
    · rename_i hstart
      rw [if_neg hstart] at h
      exact hs.trans (uploadFirmware_quiet h)

/-! ## 2. What has been received -/

/-- The header loop has received the buffer, whatever is still to come; it has met no error. -/
theorem readHeader_found {timeouts : Nat} {acc buf : Bytes} {rs rest : List Recv}
    (h : readHeader timeouts acc rs = .found buf rest) :
    ∃ head, rs = head ++ rest ∧ .error ∉ head ∧
      ∀ later, readHeader timeouts acc (head ++ later) = .found buf later := by
  induction rs generalizing timeouts acc with
  | nil => cases h
  | cons r rs ih =>
    cases r with
    | timeout =>
      rw [readHeader] at h
      split at h
      · cases h
      · rename_i hfew
        obtain ⟨head, rfl, herror, hlater⟩ := ih h
        refine ⟨.timeout :: head, rfl, by simpa using herror, fun later => ?_⟩
        rw [List.cons_append, readHeader, if_neg hfew]
        exact hlater later
    | closed => cases h
    | error => cases h
    | data bs =>
      rw [readHeader] at h
      split at h
      · rename_i hsep
        obtain ⟨rfl, rfl⟩ := HeaderExit.found.inj h
        refine ⟨[.data bs], rfl, by simp, fun later => ?_⟩
        rw [List.singleton_append, readHeader, if_pos hsep]
      · rename_i hsep
        split at h
        · rename_i hroom
          obtain ⟨head, rfl, herror, hlater⟩ := ih h
          refine ⟨.data bs :: head, rfl, by simpa using herror, fun later => ?_⟩
          rw [List.cons_append, readHeader, if_neg hsep, if_pos hroom]
          exact hlater later
        · cases h

/-- The loop over the chunks goes on: no end and no error, and not too many timeouts in a row;
there have been `timeouts` before. -/
def Live : Nat → List Recv → Prop
  | _, [] => True
  | timeouts, .timeout :: rs => timeouts + 1 ≤ maxTimeouts ∧ Live (timeouts + 1) rs
  | _, .data _ :: rs => Live 0 rs
  | _, .closed :: _ => False
  | _, .error :: _ => False

/-- `total_written`, once the pieces have been written as they came. -/
def counted (total : Nat) (pieces : List Bytes) : Nat :=
  pieces.foldl (fun t d => sizeT (t + d.length)) total

/-- `k` of the bytes ahead of `p` are left without the line ends right ahead of it. -/
def Left (mem : Nat → Option UInt8) (p k : Nat) : Prop :=
  k ≤ p ∧ LineEnds mem k p ∧ (0 < k → mem (k - 1) ≠ some cr ∧ mem (k - 1) ≠ some lf)

/-- **The three occasions.**  `data` came with the part headers; after these further results of
`httpd_req_recv`, and not before, the update is finished. -/
inductive Finishes (token : Bytes) (chunkBuffer : Option Bytes) (contentLen : Nat)
    (data : Bytes) : List Recv → Prop
  /-- a mark in the data that came with the part headers -/
  | inHead {p : Nat} (hmark : HeadMark token data p) : Finishes token chunkBuffer contentLen data []
  /-- a mark in the chunk buffer, after enough bytes -/
  | marked {heap : Bytes} {pre : List Recv} {d : Bytes} {p k : Nat}
    (hhead : ∀ q, ¬HeadMark token data q) (hheap : chunkBuffer = some heap) (hlive : Live 0 pre)
    (hmark : FirstMark token heap (datas pre) d p)
    (hleft : Left (byteAt heap (datas pre ++ [d])) p k)
    (henough : contentLen = 0 ∨ minExpected (expectedFirmwareBytes contentLen) ≤
      sizeT (counted data.length (datas pre) + k)) :
    Finishes token chunkBuffer contentLen data (pre ++ [.data d])
  /-- the end of the connection, after enough bytes and no mark -/
  | closed {heap : Bytes} {pre : List Recv}
    (hhead : ∀ q, ¬HeadMark token data q) (hheap : chunkBuffer = some heap) (hlive : Live 0 pre)
    (hunmarked : Unmarked token heap (datas pre)) (hpos : 0 < contentLen)
    (henough : minExpected (expectedFirmwareBytes contentLen) ≤
      counted data.length (datas pre)) :
    Finishes token chunkBuffer contentLen data (pre ++ [.closed])

/-! ## 3. The loop -/

variable {token : Bytes}

/-- What is left is what stripping leaves. -/
theorem left_iff {mem : Bytes} {p k : Nat} (hp : p ≤ mem.length) :
    Left (fun j => mem[j]?) p k ↔ (stripLineEnds (mem.take p)).length = k := by
  constructor
  · rintro ⟨hk, hends, hlast⟩
    refine Nat.le_antisymm ((stripLineEnds_length_le hp).2 ⟨k, hk, Nat.le_refl k, hends⟩) ?_
    refine Nat.le_of_not_lt fun hlt => ?_
    obtain ⟨j, -, hj, hafter⟩ := (stripLineEnds_length_le hp).1 (Nat.le_refl _)
    obtain ⟨hcr, hlf⟩ := hlast (by omega)
    exact (hafter (k - 1) (by omega) (by omega)).elim hcr hlf
  · rintro rfl
    obtain ⟨hle, hbytes, hends, hcr, hlf⟩ := (stripLineEnds_iff hp).1 (rfl : _ = _)
    refine ⟨hle, hends, fun hpos => ?_⟩
    rw [hbytes _ (by omega), ← List.getLast?_eq_getElem?]
    exact ⟨hcr, hlf⟩

/-- The number of bytes ahead of the first mark, less the line ends. -/
theorem FirstMark.left_iff {heap d : Bytes} {es : List Bytes} {p k : Nat}
    (h : FirstMark token heap es d p) :
    Left (byteAt heap (es ++ [d])) p k ↔
      (stripLineEnds ((buffer heap (es ++ [d])).take p)).length = k := by
  have hp := h.2.1
  rw [byteAt_eq] at hp ⊢
  exact Ota.left_iff hp.le_length

/-- **The loop, while it goes on.** -/
theorem streamChunks_live (hf : ∀ n, f.answer n = true) (ht : 0 ∉ token) (expected : Nat)
    {pre : List Recv} (rs : List Recv) {mem : Bytes} (total timeouts : Nat) (m : Manager)
    (hlive : Live timeouts pre) (hun : Unmarked token mem (datas pre)) :
    ∃ timeouts' m', streamChunks f (markers token) expected mem total timeouts m (pre ++ rs) =
      streamChunks f (markers token) expected (buffer mem (datas pre))
        (counted total (datas pre)) timeouts' m' rs := by
  induction pre generalizing mem total timeouts m with
  | nil => exact ⟨timeouts, m, rfl⟩
  | cons r pre ih =>
    cases r with
    | timeout =>
      obtain ⟨timeouts', m', hrun⟩ := ih total (timeouts + 1) m hlive.2 hun
      refine ⟨timeouts', m', ?_⟩
      rw [List.cons_append, streamChunks, if_neg (by have := hlive.1; omega)]
      exact hrun
    | closed => exact absurd hlive id
    | error => exact absurd hlive id
    | data d =>
      obtain ⟨hfirst, hrest⟩ := unmarked_cons.1 hun
      have hscan := scanChunk_none ((boundaryPos_none ht).2 hfirst)
      obtain ⟨timeouts', m', hrun⟩ := ih (sizeT (total + d.length)) 0 (writeChunk f d m).2 hlive hrest
      refine ⟨timeouts', m', ?_⟩
      rw [List.cons_append, streamChunks, hscan]
      dsimp only
      rw [if_neg (by rw [writeChunk_ok hf]; decide), if_neg Bool.false_ne_true]
      exact hrun

/-- How the loop can have come to be complete; an error follows the results. -/
theorem streamChunks_finishes (ht : 0 ∉ token) {expected : Nat} {rs : List Recv} {mem : Bytes}
    {total timeouts total' : Nat} {m m' : Manager}
    (h : streamChunks f (markers token) expected mem total timeouts m (rs ++ [.error]) =
      .complete total' m') :
    ∃ pre, Live timeouts pre ∧
      ((∃ d p, pre ++ [.data d] <+: rs ∧ FirstMark token mem (datas pre) d p ∧
          total' = sizeT (counted total (datas pre) +
            (stripLineEnds ((buffer mem (datas pre ++ [d])).take p)).length)) ∨
        pre ++ [.closed] <+: rs ∧ Unmarked token mem (datas pre) ∧ 0 < expected ∧
          minExpected expected ≤ total' ∧ total' = counted total (datas pre)) := by
  induction rs generalizing mem total timeouts m with
  | nil => cases h
  | cons r rs ih =>
    rw [List.cons_append] at h
    cases r with
    | timeout =>
      rw [streamChunks] at h
      split at h
      · cases h
      · rename_i hfew
        obtain ⟨pre, hlive, hend⟩ := ih h
        refine ⟨.timeout :: pre, ⟨by omega, hlive⟩, ?_⟩
        rcases hend with ⟨d, p, hpre, hrest⟩ | ⟨hpre, hrest⟩
        · exact Or.inl ⟨d, p, List.cons_prefix_cons.2 ⟨rfl, hpre⟩, hrest⟩
        · exact Or.inr ⟨List.cons_prefix_cons.2 ⟨rfl, hpre⟩, hrest⟩
    | closed =>
      obtain ⟨rfl, -, hpos, hmin⟩ := connectionClosed_complete h
      exact ⟨[], trivial, Or.inr ⟨⟨rs, rfl⟩, unmarked_nil _ _, hpos, hmin, rfl⟩⟩
    | error => cases h
    | data d =>
      rw [streamChunks] at h
      split at h
      · cases h
      · cases hp : boundaryPos (markers token) (received mem d) with
        | some p =>
          rw [scanChunk_some hp, if_pos rfl] at h
          obtain ⟨rfl, -⟩ := StreamExit.complete.inj h
          refine ⟨[], trivial, Or.inl ⟨d, p, ⟨rs, rfl⟩, ⟨unmarked_nil _ _, ?_⟩, rfl⟩⟩
          rw [byteAt_eq]
          exact (boundaryPos_first ht).1 hp
        | none =>
          rw [scanChunk_none hp, if_neg Bool.false_ne_true] at h
          have hfirst := (boundaryPos_none ht).1 hp
          obtain ⟨pre, hlive, hend⟩ := ih h
          refine ⟨.data d :: pre, hlive, ?_⟩
          rcases hend with ⟨e, p, hpre, ⟨hun, hmark⟩, hrest⟩ | ⟨hpre, hun, hrest⟩
          · refine Or.inl ⟨e, p, List.cons_prefix_cons.2 ⟨rfl, hpre⟩,
              ⟨unmarked_cons.2 ⟨hfirst, hun⟩, ?_⟩, hrest⟩
            rw [datas_data, List.cons_append, byteAt_cons]
            exact hmark
          · exact Or.inr ⟨List.cons_prefix_cons.2 ⟨rfl, hpre⟩,
              unmarked_cons.2 ⟨hfirst, hun⟩, hrest⟩

/-! ## 4. The upload -/

theorem finishUpload_otaEnd (f : Flash) (m : Manager) :
    .otaEnd ∈ (finishUpload f m).2.calls := by
  obtain ⟨rest, hcalls, -⟩ := finish_calls f m
  have hmem : .otaEnd ∈ (otaManagerFinishStreamingUpdate f m).2.calls := by
    rw [hcalls]
    exact List.mem_append_right _ List.mem_cons_self
  exact hmem

theorem enough_iff {contentLen n : Nat} :
    ¬(0 < contentLen ∧ 0 < expectedFirmwareBytes contentLen ∧
        n < minExpected (expectedFirmwareBytes contentLen)) ↔
      contentLen = 0 ∨ minExpected (expectedFirmwareBytes contentLen) ≤ n := by
  have hpos : 0 < contentLen → 0 < expectedFirmwareBytes contentLen := by
    unfold expectedFirmwareBytes
    intro h
    rw [if_pos h]
    split <;> omega
  constructor
  · intro h
    by_cases hc : contentLen = 0
    · exact Or.inl hc
    · refine Or.inr (Nat.le_of_not_lt fun hlt => ?_)
      exact h ⟨by omega, hpos (by omega), hlt⟩
  · rintro (h | h) ⟨hc, -, hlt⟩
    · omega
    · omega

/-- **On each of the occasions** the update is finished, whatever comes next, when the flash
takes everything. -/
theorem uploadFirmware_of_finishes (hf : ∀ n, f.answer n = true) (ht : 0 ∉ token) {mem : Memory}
    {contentLen : Nat} {data : Bytes} {rs : List Recv}
    (h : Finishes token mem.chunkBuffer contentLen data rs) (later : List Recv) (m : Manager) :
    .otaEnd ∈
      (uploadFirmware f mem (markers token) contentLen data (rs ++ later) m).2.calls := by
  have hw : ∀ bs, ¬(writeChunk f bs m).1 = false := by
    intro bs
    rw [writeChunk_ok hf]
    decide
  unfold uploadFirmware
  dsimp only
  rw [if_neg (hw _)]
  cases h with
  | inHead hmark =>
    obtain ⟨p, hp⟩ := exists_first hmark
    rw [scanInitial_some ((boundaryInHeader_first ht).2 hp), if_pos rfl]
    exact finishUpload_otaEnd f _
  | @marked heap pre d p k hhead hheap hlive hmark hleft henough =>
    obtain ⟨timeouts, m', hrun⟩ := streamChunks_live hf ht (expectedFirmwareBytes contentLen)
      (.data d :: later) data.length 0 (writeChunk f data m).2 hlive hmark.1
    have hp := hmark.2
    rw [byteAt_eq, buffer_concat] at hp
    have hscan := scanChunk_some ((boundaryPos_first ht).2 hp)
    have hk := hmark.left_iff.1 hleft
    rw [buffer_concat] at hk
    rw [scanInitial_none ((boundaryInHeader_none ht).2 hhead), if_neg Bool.false_ne_true, hheap,
      List.append_assoc]
    dsimp only [List.singleton_append]
    rw [hrun, streamChunks, hscan]
    dsimp only
    rw [if_neg (by rw [writeChunk_ok hf]; decide), if_pos rfl, afterStream, hk,
      if_neg (enough_iff.2 henough)]
    exact finishUpload_otaEnd f _
  | @closed heap pre hhead hheap hlive hunmarked hpos henough =>
    obtain ⟨timeouts, m', hrun⟩ := streamChunks_live hf ht (expectedFirmwareBytes contentLen)
      (.closed :: later) data.length 0 (writeChunk f data m).2 hlive hunmarked
    have hexp : 0 < expectedFirmwareBytes contentLen := by
      unfold expectedFirmwareBytes
      rw [if_pos hpos]
      split <;> omega
    rw [scanInitial_none ((boundaryInHeader_none ht).2 hhead), if_neg Bool.false_ne_true, hheap,
      List.append_assoc]
    dsimp only [List.singleton_append]
    rw [hrun, streamChunks, connectionClosed, if_pos ⟨hexp, henough⟩, afterStream,
      if_neg (enough_iff.2 (Or.inr henough))]
    exact finishUpload_otaEnd f _

/-- **There are no others.** -/
theorem finishes_of_uploadFirmware (ht : 0 ∉ token) {mem : Memory} {contentLen : Nat}
    {data : Bytes} {rs : List Recv} {m : Manager}
    (h : (uploadFirmware f mem (markers token) contentLen data (rs ++ [.error]) m).1.success =
      true) :
    ∃ pre, pre <+: rs ∧ Finishes token mem.chunkBuffer contentLen data pre := by
  unfold uploadFirmware at h
  dsimp only at h
  split at h
  · cases h
  cases hb : boundaryInHeader (markers token) data with
  | some p =>
    exact ⟨[], List.nil_prefix, .inHead ((boundaryInHeader_first ht).1 hb).1⟩
  | none =>
    have hhead := (boundaryInHeader_none ht).1 hb
    rw [scanInitial_none hb, if_neg Bool.false_ne_true] at h
    cases hheap : mem.chunkBuffer with
    | none =>
      rw [hheap] at h
      cases h
    | some heap =>
      rw [hheap] at h
      dsimp only at h
      cases hexit : streamChunks f (markers token) (expectedFirmwareBytes contentLen) heap
          data.length 0 (writeChunk f data m).2 (rs ++ [.error]) with
      | failed httpStatus message m' =>
        rw [hexit] at h
        cases h
      | complete total m' =>
        rw [hexit, afterStream] at h
        split at h
        · cases h
        · rename_i henough
          rw [enough_iff] at henough
          obtain ⟨pre, hlive, ⟨d, p, hpre, hmark, rfl⟩ | ⟨hpre, hun, hexp, hmin, rfl⟩⟩ :=
            streamChunks_finishes ht hexit
          · exact ⟨_, hpre, .marked hhead rfl hlive hmark (hmark.left_iff.2 rfl) henough⟩
          · exact ⟨_, hpre, .closed hhead rfl hlive hun (expectedFirmwareBytes_pos hexp) hmin⟩

/-! ## 5. The closing delimiter -/

/-- After these results the update is finished, whatever comes next. -/
def FinishedAfter (f : Flash) (mem : Memory) (contentType : Bytes) (contentLen : Nat)
    (m : Manager) (rs : List Recv) : Prop :=
  ∀ later, .otaEnd ∈ (apiOtaUpdateUpload f mem contentType ⟨contentLen, rs ++ later⟩ m).2.calls

/-- The delimiter that closes the file part has come: a line end, and the boundary, somewhere
behind the part headers. -/
def ClosingReceived (boundary : Bytes) (rs : List Recv) : Prop :=
  ∃ buf rest len, readHeader 0 [] rs = .found buf rest ∧ headerLen buf = some len ∧
    crlf ++ ascii "--" ++ boundary <:+: buf.drop len ++ (datas rest).flatten

/-- After these results the update is finished too early: the request is not refused, it is one of
the three occasions, and the closing delimiter has not come. -/
def Premature (size : Nat) (mem : Memory) (contentType boundary : Bytes) (contentLen : Nat)
    (rs : List Recv) : Prop :=
  ∃ token buf rest len, extractBoundary contentType = some token ∧ mem.headerBuffer = true ∧
    ¬(0 < contentLen ∧ size < contentLen) ∧ readHeader 0 [] rs = .found buf rest ∧
    headerLen buf = some len ∧ Finishes token mem.chunkBuffer contentLen (buf.drop len) rest ∧
    ¬crlf ++ ascii "--" ++ boundary <:+: buf.drop len ++ (datas rest).flatten

/-- What has come stays. -/
theorem ClosingReceived.mono {boundary : Bytes} {pre rs : List Recv}
    (h : ClosingReceived boundary pre) (hpre : pre <+: rs) : ClosingReceived boundary rs := by
  obtain ⟨buf, rest, len, hread, hlen, hin⟩ := h
  obtain ⟨later, rfl⟩ := hpre
  obtain ⟨head, rfl, -, hlater⟩ := readHeader_found hread
  refine ⟨buf, rest ++ later, len, ?_, hlen, ?_⟩
  · rw [List.append_assoc]
    exact hlater _
  · rw [datas_append, List.flatten_append, ← List.append_assoc]
    exact hin.trans (List.prefix_append _ _).isInfix

/-- When the flash takes everything, a premature end is an end. -/
theorem Premature.finished {size : Nat} {mem : Memory} {contentType boundary : Bytes}
    {contentLen : Nat} {rs : List Recv}
    (h : Premature size mem contentType boundary contentLen rs) :
    FinishedAfter (.willing ⟨.ota1, size⟩) mem contentType contentLen .idle rs ∧
      ¬ClosingReceived boundary rs := by
  obtain ⟨token, buf, rest, len, htoken, hmem, hbig, hread, hlen, hfin, hno⟩ := h
  constructor
  · intro later
    obtain ⟨head, rfl, -, hlater⟩ := readHeader_found hread
    have hok := start_ok (n := expectedFirmwareBytes contentLen)
      (rfl : Manager.idle.mutex = true) rfl
      (rfl : chooseUpdatePartition (Flash.willing ⟨.ota1, size⟩) = some _) fun _ => rfl
    have hheader : readHeader 0 [] (head ++ rest ++ later) = .found buf (rest ++ later) := by
      rw [List.append_assoc]
      exact hlater _
    have hsize : ¬(0 < contentLen ∧
        maxFirmwareSize (Flash.willing ⟨.ota1, size⟩) < contentLen) := hbig
    unfold apiOtaUpdateUpload
    simp only [if_neg hsize, htoken, hmem, Bool.true_eq_false, if_false, hheader, hlen, hok]
    exact uploadFirmware_of_finishes (fun _ => rfl) (extractBoundary_no_nul htoken) hfin later _
  · rintro ⟨buf', rest', len', hread', hlen', hin⟩
    rw [hread] at hread'
    obtain ⟨rfl, rfl⟩ := HeaderExit.found.inj hread'
    obtain rfl := Option.some.inj (hlen.symm.trans hlen')
    exact hno hin

/-- An error that comes last is in the later part. -/
theorem split_error {rs head later : List Recv} (herror : .error ∉ head)
    (h : rs ++ [.error] = head ++ later) :
    ∃ rest, rs = head ++ rest ∧ later = rest ++ [.error] := by
  obtain rfl | ⟨rest, r, rfl⟩ := List.eq_nil_or_concat later
  · rw [List.append_nil] at h
    exact absurd (h ▸ List.mem_append_right rs List.mem_cons_self) herror
  · rw [List.concat_eq_append, ← List.append_assoc] at h
    obtain ⟨hrs, hr⟩ := List.append_inj' h rfl
    obtain rfl : Recv.error = r := by simpa using hr
    exact ⟨rest, hrs, List.concat_eq_append⟩

/-- An update that is finished was finished on one of the occasions: after some of the results. -/
theorem FinishedAfter.finishes {f : Flash} {mem : Memory} {contentType : Bytes}
    {contentLen : Nat} {m : Manager} {rs : List Recv} (hm : .otaEnd ∉ m.calls)
    (h : FinishedAfter f mem contentType contentLen m rs) :
    ∃ token buf head rest len, extractBoundary contentType = some token ∧
      mem.headerBuffer = true ∧ ¬(0 < contentLen ∧ maxFirmwareSize f < contentLen) ∧
      head ++ rest <+: rs ∧ readHeader 0 [] (head ++ rest) = .found buf rest ∧
      headerLen buf = some len ∧
      Finishes token mem.chunkBuffer contentLen (buf.drop len) rest := by
  -- an error comes next: the occasion was before
  have hend := h [.error]
  have hok : (apiOtaUpdateUpload f mem contentType
      ⟨contentLen, rs ++ [.error]⟩ m).1.success = true := by
    by_contra hfail
    exact hm (apiOtaUpdateUpload_quiet (Bool.eq_false_iff.2 hfail) hend)
  obtain ⟨-, httpStatus, message, hrun⟩ | ⟨token, buf, rest', len, htoken, hread, hlen, hbig, hbuffer,
    hrun⟩ := apiOtaUpdateUpload_cases f mem contentType ⟨contentLen, rs ++ [.error]⟩ m
  · rw [hrun] at hok
    cases hok
  · obtain ⟨head, hsplit, herror, hlater⟩ := readHeader_found hread
    obtain ⟨rest, rfl, rfl⟩ := split_error herror hsplit
    by_cases hstart : (otaManagerStartStreamingUpdate f
        (expectedFirmwareBytes contentLen) m).1 = false
    · simp only [hstart, if_true] at hrun
      rw [hrun] at hok
      cases hok
    · simp only [if_neg hstart] at hrun
      rw [hrun] at hok
      obtain ⟨pre, hpre, hfin⟩ := finishes_of_uploadFirmware (extractBoundary_no_nul htoken) hok
      exact ⟨token, buf, head, pre, len, htoken, hbuffer, hbig,
        (List.prefix_append_right_inj head).2 hpre, hlater pre, hlen, hfin⟩

/-- **Completeness.**  Whenever the update is finished, the closing delimiter has been received,
for every flash and every state of the manager, exactly when none of the first results of
`httpd_req_recv` make it premature. -/
theorem completeness (size : Nat) (mem : Memory) (contentType boundary : Bytes)
    (contentLen : Nat) (rs : List Recv) :
    (∀ f m, maxFirmwareSize f = size → .otaEnd ∉ m.calls → ∀ pre, pre <+: rs →
        FinishedAfter f mem contentType contentLen m pre → ClosingReceived boundary pre) ↔
      ∀ pre, pre <+: rs → ¬Premature size mem contentType boundary contentLen pre := by
  constructor
  · intro hall pre hpre hearly
    obtain ⟨hfin, hno⟩ := hearly.finished
    exact hno (hall _ _ rfl List.not_mem_nil pre hpre hfin)
  · rintro hnone f m rfl hm pre hpre hfin
    obtain ⟨token, buf, head, rest, len, htoken, hmem, hbig, hfront, hread, hlen, hocc⟩ :=
      hfin.finishes hm
    refine ClosingReceived.mono ?_ hfront
    by_contra hno
    refine hnone _ (hfront.trans hpre) ⟨token, buf, rest, len, htoken, hmem, hbig, hread, hlen,
      hocc, fun hin => hno ⟨buf, rest, len, hread, hlen, hin⟩⟩

/-! ## 6. Two uploads -/

/-- The part headers, and firmware that has the boundary in the middle of a line. -/
def benchCut : List Recv := [.data (partHead (ascii "b") [] ++ ascii "M--bX")]

/-- It is finished after its first byte, with nothing of the closing delimiter received. -/
theorem completeness_cut :
    FinishedAfter benchFlash ⟨true, some []⟩ benchContentType 21 .idle benchCut ∧
      ¬ClosingReceived (ascii "b") benchCut :=
  Premature.finished ⟨ascii "b", partHead (ascii "b") [] ++ ascii "M--bX", [], 7, by decide, rfl,
    by decide, by decide, by decide,
    .inHead ((boundaryInHeader_first (by decide)).1 (by decide : _ = some 1)).1, by decide⟩

end GroundTruth.Ota
