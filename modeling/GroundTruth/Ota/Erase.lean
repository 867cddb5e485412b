/-
# The region that is erased, and the bytes that are written

Before the first byte is written the handler asks for a region to be erased, and guesses its size:
1024 bytes fewer than the body has.  This file says when the guess is enough (`erase_covers`): when
what stands ahead of the first mark fits in the region (`FitsAhead`).  For an upload whose first
mark is at the end of the firmware, that is the firmware (`erase_covers_seen`), and
the guess fails when part headers and delimiters take up fewer than 1024 bytes and the firmware
ends too far into its last sector.
-/
import GroundTruth.Ota.Extract

namespace GroundTruth.Ota

open GroundTruth.Lib

/-! ## 1. The region -/

/-- What `esp_ota_begin` erases: whole sectors of 4096 bytes, or the whole partition. -/
def erasedBytes (p : Partition) (size : Nat) : Nat :=
  if p.size ≤ size then p.size else (size + 4095) / 4096 * 4096

/-- Every write lies inside what has been erased; `room` is what is left of it. -/
def covered : Nat → List FlashCall → Bool
  | _, [] => true
  | _, .otaBegin p size :: cs => covered (erasedBytes p size) cs
  | room, .otaWrite data :: cs => decide (data.length ≤ room) && covered (room - data.length) cs
  | room, _ :: cs => covered room cs

/-- The region for a body of this length. -/
def regionOf (p : Partition) (contentLen : Nat) : Nat :=
  erasedBytes p (otaSize (expectedFirmwareBytes contentLen) p.size)

theorem covered_end {room : Nat} {tail : List FlashCall} (h : EndCalls tail) :
    covered room tail = true := by
  induction tail with
  | nil => rfl
  | cons c tail ih =>
    have htail := ih fun c' hc' => h c' (List.mem_cons_of_mem _ hc')
    obtain rfl | rfl | ⟨p, rfl⟩ := h c List.mem_cons_self <;> exact htail

/-- Erasing alone is covered. -/
theorem covered_begins {room : Nat} {cs : List FlashCall}
    (h : ∀ c ∈ cs, ∃ q n, c = .otaBegin q n) : covered room cs = true := by
  induction cs generalizing room with
  | nil => rfl
  | cons c cs ih =>
    obtain ⟨q, n, rfl⟩ := h c List.mem_cons_self
    exact ih fun c' hc' => h c' (List.mem_cons_of_mem _ hc')

/-- After the region has been erased, the writes are covered exactly when all of them fit. -/
theorem covered_writes {room : Nat} {cs tail : List FlashCall} (hcs : Writes cs)
    (htail : EndCalls tail) :
    covered room (cs ++ tail) = true ↔ (written cs).length ≤ room := by
  induction cs generalizing room with
  | nil => simp [covered_end htail]
  | cons c cs ih =>
    obtain ⟨data, rfl⟩ := hcs c List.mem_cons_self
    have hih := @ih (room - data.length) fun c' hc' => hcs c' (List.mem_cons_of_mem _ hc')
    have hsplit : written (.otaWrite data :: cs) = data ++ written cs := rfl
    rw [List.cons_append, covered, Bool.and_eq_true, decide_eq_true_iff, hih, hsplit,
      List.length_append]
    omega

/-! ## 2. What stands ahead of the first mark -/

variable {b : Markers}

/-- What stands ahead of the first mark, less the line ends that end it, is no more than `room`;
when no mark shows, that is everything. -/
def FitsAhead (token : Bytes) (room : Nat) (heap data : Bytes) (ds : List Bytes) : Prop :=
  (∃ p, First (HeadMark token data) p ∧
      ∃ k ≤ p, k ≤ room ∧ LineEnds (fun j => data[j]?) k p) ∨
    (∀ p, ¬HeadMark token data p) ∧
      ((∃ es d p, es ++ [d] <+: ds ∧ FirstMark token heap es d p ∧
          ∃ k ≤ p, data.length + es.flatten.length + k ≤ room ∧
            LineEnds (byteAt heap (es ++ [d])) k p) ∨
        Unmarked token heap ds ∧ data.length + ds.flatten.length ≤ room)

/-- **What is extracted fits exactly when it fits ahead of the first mark.** -/
theorem extracted_fits {token heap data : Bytes} {room : Nat} {ds : List Bytes} (h : 0 ∉ token) :
    (extracted (markers token) heap data ds).length ≤ room ↔
      FitsAhead token room heap data ds := by
  cases hb : boundaryInHeader (markers token) data with
  | some p =>
    have hp := (boundaryInHeader_first h).1 hb
    rw [extracted_some hb, stripLineEnds_length_le (Stands.le_length hp.1)]
    constructor
    · intro hfits
      exact Or.inl ⟨p, hp, hfits⟩
    · rintro (⟨q, hq, hfits⟩ | ⟨hnone, -⟩)
      · rwa [hp.unique hq]
      · exact absurd hp.1 (hnone p)
  | none =>
    have hnone := (boundaryInHeader_none h).1 hb
    have hmarked : ∀ {es d p}, es ++ [d] <+: ds → FirstMark token heap es d p →
        ((extracted (markers token) heap data ds).length ≤ room ↔
          ∃ k ≤ p, data.length + es.flatten.length + k ≤ room ∧
            LineEnds (byteAt heap (es ++ [d])) k p) := by
      intro es d p hes hmark
      have hp := hmark.2.1
      rw [byteAt_eq] at hp ⊢
      rw [extracted_none hb, drain_marked h hmark hes, List.length_append, List.length_append,
        ← Nat.add_assoc]
      constructor
      · intro hle
        obtain ⟨k, hk, hkn, hends⟩ := (stripLineEnds_length_le hp.le_length).1 (Nat.le_refl _)
        exact ⟨k, hk, by omega, hends⟩
      · rintro ⟨k, hk, hle, hends⟩
        have := (stripLineEnds_length_le (n := k) hp.le_length).2 ⟨k, hk, Nat.le_refl k, hends⟩
        omega
    obtain hun | ⟨es, d, p, hes, hmark⟩ := unmarked_or_first token heap ds
    · rw [extracted_none hb, drain_unmarked h hun, List.length_append]
      constructor
      · intro hfits
        exact Or.inr ⟨hnone, Or.inr ⟨hun, hfits⟩⟩
      · rintro (⟨q, hq, -⟩ | ⟨-, ⟨es, d, p, hes, hmark, -⟩ | ⟨-, hfits⟩⟩)
        · exact absurd hq.1 (hnone q)
        · exact absurd hmark.2.1 (hun _ hes (List.concat_ne_nil d es) p)
        · exact hfits
    · constructor
      · intro hfits
        exact Or.inr ⟨hnone, Or.inl ⟨es, d, p, hes, hmark, (hmarked hes hmark).1 hfits⟩⟩
      · rintro (⟨q, hq, -⟩ | ⟨-, ⟨es', d', p', hes', hmark', hfits⟩ | ⟨hun, -⟩⟩)
        · exact absurd hq.1 (hnone q)
        · exact (hmarked hes' hmark').2 hfits
        · exact absurd hmark.2.1 (hun _ hes (List.concat_ne_nil d es) p)

/-! ## 3. The whole upload -/

theorem EndCalls.append {cs ds : List FlashCall} (hc : EndCalls cs) (hd : EndCalls ds) :
    EndCalls (cs ++ ds) := by
  intro c h
  rcases List.mem_append.1 h with h | h
  · exact hc c h
  · exact hd c h

theorem afterStream_calls (f : Flash) (contentLen : Nat) (e : StreamExit) :
    ∃ tail, EndCalls tail ∧ (afterStream f contentLen e).2.calls = e.manager.calls ++ tail := by
  cases e with
  | failed httpStatus message m => exact ⟨[], EndCalls.nil, (List.append_nil _).symm⟩
  | complete total m =>
    rw [afterStream]
    split
    · exact ⟨[.otaAbort], EndCalls.abort, abort_calls f m⟩
    · obtain ⟨rest, hfinish, hrest⟩ := finish_calls f m
      exact ⟨.otaEnd :: rest, EndCalls.finish hrest, hfinish⟩

/-- **What an upload of pieces writes**, whether it succeeds or not. -/
theorem uploadFirmware_written (f : Flash) {mem : Memory} {heap : Bytes}
    (hheap : mem.chunkBuffer = some heap) (contentLen : Nat) (data : Bytes) (ds : List Bytes)
    (m : Manager) :
    ∃ cs tail, Writes cs ∧ EndCalls tail ∧ written cs <+: extracted b heap data ds ∧
      ((∀ n, f.answer n = true) → written cs = extracted b heap data ds) ∧
      (uploadFirmware f mem b contentLen data (ds.map .data) m).2.calls =
        m.calls ++ (cs ++ tail) := by
  have hpre : (scanInitial b data).1 <+: extracted b heap data ds := by
    unfold extracted
    split
    · exact List.prefix_refl _
    · rename_i hseen
      rw [scanInitial_unseen hseen]
      exact List.prefix_append _ _
  unfold uploadFirmware
  dsimp only
  by_cases hw : (writeChunk f (scanInitial b data).1 m).1 = false
  · rw [if_pos hw]
    refine ⟨chunkCalls (scanInitial b data).1, [.otaAbort], Writes.chunk _, EndCalls.abort, ?_, ?_,
      writeChunk_failed hw⟩
    · rw [written_chunkCalls]
      exact hpre
    · intro hf
      rw [writeChunk_ok hf] at hw
      cases hw
  have hcalls := writeChunk_calls (by simpa using hw)
  rw [if_neg hw]
  by_cases hseen : (scanInitial b data).2 = true
  · obtain ⟨rest, hfinish, hrest⟩ := finish_calls f (writeChunk f (scanInitial b data).1 m).2
    rw [if_pos hseen]
    refine ⟨chunkCalls (scanInitial b data).1, .otaEnd :: rest, Writes.chunk _,
      EndCalls.finish hrest, ?_, ?_, ?_⟩
    · rw [written_chunkCalls]
      exact hpre
    · intro _
      rw [written_chunkCalls, extracted, if_pos hseen]
    · rw [← List.append_assoc, ← hcalls]
      exact hfinish
  · have hall : extracted b heap data ds = data ++ (drain b heap ds).1 := if_neg hseen
    rw [if_neg hseen, hheap, hall]
    rw [scanInitial_unseen hseen] at hcalls ⊢
    dsimp only at hcalls ⊢
    obtain ⟨cs, tail, hcs, htail, hle, heq, hrun⟩ :=
      streamChunks_written f b (expectedFirmwareBytes contentLen) ds heap data.length 0
        (writeChunk f data m).2
    obtain ⟨rest, hrest, hafter⟩ := afterStream_calls f contentLen
      (streamChunks f b (expectedFirmwareBytes contentLen) heap data.length 0
        (writeChunk f data m).2 (ds.map .data))
    refine ⟨chunkCalls data ++ cs, tail ++ rest, (Writes.chunk _).append hcs,
      htail.append hrest, ?_, ?_, ?_⟩
    · rw [written_append, written_chunkCalls]
      exact (List.prefix_append_right_inj _).2 hle
    · intro hf
      rw [written_append, written_chunkCalls, heq hf]
    · rw [hafter, hrun, hcalls]
      simp only [List.append_assoc]

/-- **What a request asks of the flash**: nothing, when it is refused; at most a region, when the
update does not start; and otherwise a region, and writes of what is extracted. -/
theorem apiOtaUpdateUpload_calls {f : Flash} {p : Partition} (hnext : f.next = some p)
    (heap contentType : Bytes) (contentLen : Nat) {boundary payload : Bytes}
    {lines chunks : List Bytes} (hboundary : Line (ascii "--" ++ boundary))
    (hlines : ∀ l ∈ lines, Line l) (hbody : chunks.flatten = partHead boundary lines ++ payload)
    (m : Manager) :
    (Refused p.size contentType ⟨contentLen, chunks.map .data⟩ ∧
        (apiOtaUpdateUpload f ⟨true, some heap⟩ contentType
          ⟨contentLen, chunks.map .data⟩ m).2.calls = m.calls) ∨
      ¬Refused p.size contentType ⟨contentLen, chunks.map .data⟩ ∧
        (((otaManagerStartStreamingUpdate f (expectedFirmwareBytes contentLen) m).1 = false ∧
            ∃ cs, (∀ c ∈ cs, ∃ q n, c = .otaBegin q n) ∧
              (apiOtaUpdateUpload f ⟨true, some heap⟩ contentType
                ⟨contentLen, chunks.map .data⟩ m).2.calls = m.calls ++ cs) ∨
          ∃ token cs tail, extractBoundary contentType = some token ∧ Writes cs ∧ EndCalls tail ∧
            written cs <+: extracted (markers token) heap
              (afterBytes (partHead boundary lines).length chunks).1
              (afterBytes (partHead boundary lines).length chunks).2 ∧
            ((∀ n, f.answer n = true) → written cs = extracted (markers token) heap
              (afterBytes (partHead boundary lines).length chunks).1
              (afterBytes (partHead boundary lines).length chunks).2) ∧
            (apiOtaUpdateUpload f ⟨true, some heap⟩ contentType
              ⟨contentLen, chunks.map .data⟩ m).2.calls = m.calls ++
                .otaBegin p (otaSize (expectedFirmwareBytes contentLen) p.size) ::
                  (cs ++ tail)) := by
  have hmax : maxFirmwareSize f = p.size := by rw [maxFirmwareSize, hnext]
  obtain ⟨hrefused | hmem, httpStatus, message, hrun⟩ |
      ⟨b, buf, rest, len, hb, hread, hlen, hbig, -, hrun⟩ :=
    apiOtaUpdateUpload_cases f ⟨true, some heap⟩ contentType ⟨contentLen, chunks.map .data⟩ m
  · rw [hrun]
    exact Or.inl ⟨hmax ▸ hrefused, rfl⟩
  · cases hmem
  refine Or.inr ⟨?_, ?_⟩
  · rintro (hr | hr | hr)
    · exact hbig (hmax ▸ hr)
    · rw [hb] at hr
      cases hr
    · rw [hr buf rest hread] at hlen
      cases hlen
  obtain ⟨rfl, rfl, hhead⟩ := readHeader_body hboundary hlines hbody hread
  obtain rfl := Option.some.inj (hhead.symm.trans hlen)
  cases hstart : otaManagerStartStreamingUpdate f (expectedFirmwareBytes contentLen) m with
  | mk ok s =>
    simp only [hstart, List.drop_left] at hrun
    cases ok with
    | false =>
      rw [if_pos rfl] at hrun
      rw [hrun]
      refine Or.inl ⟨rfl, ?_⟩
      have hs := start_calls_cases f (expectedFirmwareBytes contentLen) m
      rw [hstart] at hs
      rcases hs with hs | ⟨q, hs⟩
      · exact ⟨[], fun _ hc => absurd hc List.not_mem_nil, by rw [List.append_nil]; exact hs⟩
      · exact ⟨_, fun c hc => ⟨q, _, List.mem_singleton.1 hc⟩, hs⟩
    | true =>
      have hp : chooseUpdatePartition f = some p := by rw [chooseUpdatePartition, hnext]
      obtain ⟨q, hq, hs⟩ := start_calls hstart
      obtain rfl := Option.some.inj (hp.symm.trans hq)
      obtain ⟨cs, tail, hcs, htail, hle, hall, hup⟩ := uploadFirmware_written
        (b := markers b) f (rfl : (⟨true, some heap⟩ : Memory).chunkBuffer = _) contentLen
        (afterBytes (partHead boundary lines).length chunks).1
        (afterBytes (partHead boundary lines).length chunks).2 s
      have hstarted : ¬true = false := by decide
      rw [if_neg hstarted] at hrun
      rw [hrun, hup, hs]
      exact Or.inr ⟨b, cs, tail, hb, hcs, htail, hle, hall, by rw [List.append_assoc]; rfl⟩

/-- **The region covers what is written**, whatever the flash answers and whatever the manager is
doing, exactly when the request is refused, or what stands ahead of the first mark fits in the
region. -/
theorem erase_covers (p : Partition) (heap contentType : Bytes) (contentLen : Nat)
    (boundary payload : Bytes) (lines chunks : List Bytes)
    (hboundary : Line (ascii "--" ++ boundary)) (hlines : ∀ l ∈ lines, Line l)
    (hbody : chunks.flatten = partHead boundary lines ++ payload) :
    (∀ f m, f.next = some p → m.calls = [] →
      covered 0 (apiOtaUpdateUpload f ⟨true, some heap⟩ contentType
        ⟨contentLen, chunks.map .data⟩ m).2.calls = true) ↔
      Refused p.size contentType ⟨contentLen, chunks.map .data⟩ ∨
        ∃ token, extractBoundary contentType = some token ∧
          FitsAhead token (regionOf p contentLen) heap
            (afterBytes (partHead boundary lines).length chunks).1
            (afterBytes (partHead boundary lines).length chunks).2 := by
  constructor
  · intro hall
    have hcov := hall (Flash.willing p) Manager.idle rfl rfl
    obtain ⟨hrefused, -⟩ | ⟨-, ⟨hstart, -⟩ |
        ⟨token, cs, tail, htoken, hcs, htail, -, hwritten, hcalls⟩⟩ :=
      apiOtaUpdateUpload_calls (f := Flash.willing p) rfl heap contentType contentLen hboundary
        hlines hbody Manager.idle
    · exact Or.inl hrefused
    · have hok := start_ok (n := expectedFirmwareBytes contentLen) (rfl : Manager.idle.mutex = true)
        rfl (rfl : chooseUpdatePartition (Flash.willing p) = some p) fun _ => rfl
      rw [hok] at hstart
      cases hstart
    · rw [hcalls] at hcov
      have hle := (covered_writes hcs htail).1 hcov
      rw [hwritten fun _ => rfl] at hle
      exact Or.inr ⟨token, htoken, (extracted_fits (extractBoundary_no_nul htoken)).1 hle⟩
  · intro hcond f m hnext hcalls
    obtain ⟨-, hrun⟩ | ⟨hno, ⟨-, cs, hcs, hrun⟩ |
        ⟨token, cs, tail, htoken, hcs, htail, hle, -, hrun⟩⟩ :=
      apiOtaUpdateUpload_calls hnext heap contentType contentLen hboundary hlines hbody m
    · rw [hrun, hcalls]
      rfl
    · rw [hrun, hcalls]
      exact covered_begins hcs
    · obtain ⟨token', htoken', hfits⟩ := hcond.resolve_left hno
      obtain rfl := Option.some.inj (htoken.symm.trans htoken')
      rw [← extracted_fits (extractBoundary_no_nul htoken)] at hfits
      rw [hrun, hcalls]
      exact (covered_writes hcs htail).2 (Nat.le_trans hle.length_le hfits)

/-- For an upload whose first mark is at the end of the firmware, the firmware has to fit. -/
theorem erase_covers_seen (p : Partition) (heap contentType : Bytes) (contentLen : Nat)
    (token boundary fw : Bytes) (lines chunks : List Bytes)
    (htoken : extractBoundary contentType = some token)
    (hboundary : Line (ascii "--" ++ boundary)) (hlines : ∀ l ∈ lines, Line l)
    (hbody : chunks.flatten = partHead boundary lines ++ (fw ++ closing boundary))
    (hseen : MarkedAtEnd token heap fw
      (afterBytes (partHead boundary lines).length chunks).1
      (afterBytes (partHead boundary lines).length chunks).2) :
    (∀ f m, f.next = some p → m.calls = [] →
      covered 0 (apiOtaUpdateUpload f ⟨true, some heap⟩ contentType
        ⟨contentLen, chunks.map .data⟩ m).2.calls = true) ↔
      Refused p.size contentType ⟨contentLen, chunks.map .data⟩ ∨
        fw.length ≤ regionOf p contentLen := by
  have hclosing : closing boundary ≠ [] := by simp [closing, crlf]
  have hnul := extractBoundary_no_nul htoken
  have hfw := (extracted_eq_iff hnul hclosing (afterBytes_flatten rfl hbody)).2 hseen
  rw [erase_covers p heap contentType contentLen boundary _ lines chunks hboundary hlines hbody]
  refine or_congr_right ?_
  rw [htoken]
  simp only [Option.some.injEq, exists_eq_left', ← extracted_fits hnul, hfw]

/-- The region in numbers: up to 1024 bytes the length of the body, in sectors; beyond, 1024 bytes
less. -/
theorem regionOf_eq {p : Partition} {contentLen : Nat} (hpos : 0 < contentLen)
    (hfit : contentLen < p.size) :
    regionOf p contentLen =
      ((if 1024 < contentLen then contentLen - 1024 else contentLen) + 4095) / 4096 * 4096 := by
  have hexp : expectedFirmwareBytes contentLen =
      if 1024 < contentLen then contentLen - 1024 else contentLen := if_pos hpos
  have hlt : 0 < (if 1024 < contentLen then contentLen - 1024 else contentLen) ∧
      (if 1024 < contentLen then contentLen - 1024 else contentLen) < p.size := by
    split <;> omega
  rw [regionOf, hexp, otaSize, if_pos hlt, erasedBytes, if_neg (by omega)]

/-! ## 4. Two uploads -/

/-- Two bytes of firmware are covered by one sector. -/
theorem erase_covers_plain :
    covered 0 (benchUpload 19 [benchBody [0xE9, 1]]).2.calls = true :=
  (erase_covers ⟨.ota1, 0x180000⟩ [] benchContentType 19 (ascii "b")
    ([0xE9, 1] ++ closing (ascii "b")) [] [benchBody [0xE9, 1]]
    ⟨by decide, by decide, by decide, by decide⟩ (fun _ hl => absurd hl List.not_mem_nil)
    (List.append_nil _)).2 (Or.inr ⟨ascii "b", by decide,
      (extracted_fits (by decide)).1 (by decide +kernel)⟩) benchFlash Manager.idle rfl rfl

/-- A firmware of one byte more than a sector, in a body that is 16 bytes longer: one sector is
erased. -/
theorem erase_covers_not :
    covered 0 (benchUpload 4113 [partHead (ascii "b") [] ++ List.replicate 4097 0,
        closing (ascii "b")]).2.calls = false ∧
      (written (benchUpload 4113 [partHead (ascii "b") [] ++ List.replicate 4097 0,
        closing (ascii "b")]).2.calls).length = 4097 := by
  decide +kernel

end GroundTruth.Ota
