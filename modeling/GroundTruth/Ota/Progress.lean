/-
# The progress of a streaming update

After every chunk the manager reports `100 * total / expected` as a percentage.  The quotient is
taken in 32 bits, put into a `uint8_t`, and only then capped at 100: from 256 per cent on what is
reported is what eight bits are left of it.  `expected` is the size given to `esp_ota_begin`,
which for a small upload is far below what is written.  So the report goes wrong while between 2.56
and 3.56 times the expected size has been written, between 5.12 and 6.12 times, and so on.

* `chunks_manager`: what a sequence of chunks makes of the manager;
* `progressPercent_iff`: when the percentage of one chunk is right;
* `progress_iff`: when it is right after every chunk of an update, and never decreases;
* `faithful_of_upload`: an upload whose length exceeds 1680 bytes meets the condition.

The bands are taken from the product in 32 bits; for less than 2³² / 100 bytes, which is more than
any partition has, that is the product (`faithful_iff_of_few`).
-/
import Mathlib.Tactic.Linarith
import GroundTruth.Lib.Run
import GroundTruth.Ota.Upload

namespace GroundTruth.Ota

open GroundTruth.Lib

/-! ## 1. Chunks that are written -/

/-- A chunk that is written; nothing happens on one that is refused. -/
def chunkStep (f : Flash) (m : Manager) (data : Bytes) : Option Manager :=
  match otaManagerWriteStreamingChunk f data m with
  | (true, m) => some m
  | (false, _) => none

/-- The bytes of some chunks. -/
def totalLength (chunks : List Bytes) : Nat := (chunks.map List.length).sum

@[simp] theorem totalLength_nil : totalLength [] = 0 := rfl

@[simp] theorem totalLength_append (cs ds : List Bytes) :
    totalLength (cs ++ ds) = totalLength cs + totalLength ds := by
  simp [totalLength]

@[simp] theorem totalLength_singleton (data : Bytes) : totalLength [data] = data.length := by
  simp [totalLength]

theorem sizeT_add (a b : Nat) : sizeT (sizeT a + b) = sizeT (a + b) := Nat.mod_add_mod _ _ _

theorem sizeT_mul (a b : Nat) : sizeT (sizeT a * b) = sizeT (a * b) := Nat.mod_mul_mod _ _ _

variable {f : Flash} {m m₀ m₁ m₂ : Manager} {chunks : List Bytes} {total expected n : Nat}

/-- A chunk counts, and the progress follows. -/
theorem chunkStep_some {data : Bytes} (h : chunkStep f m data = some m₁) :
    m₁.expectedSize = m.expectedSize ∧ m₁.totalBytes = sizeT (m.totalBytes + data.length) ∧
      m₁.info.progress =
        if 0 < m.expectedSize then progressPercent m₁.totalBytes m.expectedSize
        else m.info.progress := by
  unfold chunkStep otaManagerWriteStreamingChunk at h
  by_cases hnil : data = []
  · simp [hnil] at h
  cases hans : f.answer m.calls.length with
  | false => simp [hnil, Manager.call, hans] at h
  | true =>
    by_cases hexp : 0 < m.expectedSize
    · simp only [hnil, Manager.call, hans, hexp, if_true, if_false, Bool.true_eq_false,
        Option.some.injEq] at h
      rw [← h]
      exact ⟨rfl, rfl, (if_pos hexp).symm⟩
    · simp only [hnil, Manager.call, hans, hexp, if_false, Bool.true_eq_false,
        Option.some.injEq] at h
      rw [← h]
      exact ⟨rfl, rfl, (if_neg hexp).symm⟩

/-- **A sequence of chunks** leaves the expected size, counts the bytes, and reports them. -/
theorem chunks_manager (h : exec (chunkStep f) m₀ chunks = some m₁) (h0 : m₀.totalBytes = 0) :
    m₁.expectedSize = m₀.expectedSize ∧ m₁.totalBytes = sizeT (totalLength chunks) ∧
      m₁.info.progress =
        if 0 < m₀.expectedSize ∧ chunks ≠ [] then
          progressPercent (sizeT (totalLength chunks)) m₀.expectedSize
        else m₀.info.progress := by
  refine exec_history
    (P := fun m cs => m.expectedSize = m₀.expectedSize ∧ m.totalBytes = sizeT (totalLength cs) ∧
      m.info.progress = if 0 < m₀.expectedSize ∧ cs ≠ [] then
        progressPercent (sizeT (totalLength cs)) m₀.expectedSize else m₀.info.progress)
    ⟨rfl, h0, (if_neg fun hn => hn.2 rfl).symm⟩ ?_ h
  rintro u past data v ⟨hexp, htotal, hprog⟩ hs
  obtain ⟨hexp', htotal', hprog'⟩ := chunkStep_some hs
  have hlen : v.totalBytes = sizeT (totalLength (past ++ [data])) := by
    rw [htotal', htotal, totalLength_append, totalLength_singleton, sizeT_add]
  refine ⟨hexp'.trans hexp, hlen, ?_⟩
  rw [hprog', hexp]
  by_cases hpos : 0 < m₀.expectedSize
  · rw [if_pos hpos, if_pos ⟨hpos, List.append_ne_nil_of_right_ne_nil _ (List.cons_ne_nil _ _)⟩,
      hlen]
  · rw [if_neg hpos, if_neg fun hn => hpos hn.1, hprog, if_neg fun hn => hpos hn.1]

/-- An update starts from nothing, with the size that `esp_ota_begin` was given. -/
theorem start_manager {p : Partition}
    (h : otaManagerStartStreamingUpdate f n m = (true, m₀))
    (hbegin : m₀.calls = m.calls ++ [.otaBegin p expected]) :
    m₀.expectedSize = expected ∧ m₀.totalBytes = 0 ∧ m₀.info.progress = 0 := by
  unfold otaManagerStartStreamingUpdate at h
  split at h
  · cases h
  · split at h
    · cases h
    · split at h
      · cases h
      · cases hans : f.answer m.calls.length with
        | false => simp [Manager.call, hans] at h
        | true =>
          simp only [Manager.call, hans, Bool.true_eq_false, if_false, Prod.mk.injEq,
            true_and] at h
          rw [← h] at hbegin ⊢
          simp only [List.append_cancel_left_eq, List.cons.injEq, FlashCall.otaBegin.injEq,
            and_true] at hbegin
          exact ⟨hbegin.2, rfl, rfl⟩

/-! ## 2. One percentage -/

/-- The percentage to be reported. -/
def percentage (total expected : Nat) : Nat := min 100 (100 * total / expected)

/-- Between 256 k and 256 k + 100 per cent of the expected size has been written, apart from `j`
times what 32 bits hold. -/
def Band (j k total expected : Nat) : Prop :=
  j * 0x100000000 ≤ 100 * total ∧ 100 * total < (j + 1) * 0x100000000 ∧
    256 * k * expected + j * 0x100000000 ≤ 100 * total ∧
    100 * total < (256 * k + 100) * expected + j * 0x100000000

/-- The total is in none of the bands, but for the first. -/
def Faithful (total expected : Nat) : Prop :=
  ∀ j k, Band j k total expected → j = 0 ∧ k = 0

theorem progressPercent_toNat (total expected : Nat) :
    (progressPercent (sizeT total) expected).toNat =
      min 100 (sizeT (100 * total) / expected % 256) := by
  have hval : (UInt8.ofNat (sizeT (sizeT total * 100) / expected)).toNat =
      sizeT (100 * total) / expected % 256 := by
    rw [sizeT_mul, Nat.mul_comm total]
    rfl
  unfold progressPercent
  dsimp only
  split
  · rename_i hcap
    rw [UInt8.lt_iff_toNat_lt, hval] at hcap
    exact (Nat.min_eq_left (Nat.le_of_lt hcap)).symm
  · rename_i hcap
    rw [UInt8.lt_iff_toNat_lt, hval] at hcap
    rw [hval]
    exact (Nat.min_eq_right (Nat.le_of_not_lt hcap)).symm

/-- The band is found from the quotient. -/
theorem band_iff (hpos : 0 < expected) (j k total : Nat) :
    Band j k total expected ↔
      100 * total / 0x100000000 = j ∧ sizeT (100 * total) / expected / 256 = k ∧
        sizeT (100 * total) / expected % 256 < 100 := by
  have hsplit := Nat.div_add_mod (100 * total) 0x100000000
  have hrest : 100 * total % 0x100000000 < 0x100000000 := Nat.mod_lt _ (by decide)
  have hlow : 256 * k ≤ sizeT (100 * total) / expected ↔
      256 * k * expected ≤ sizeT (100 * total) := Nat.le_div_iff_mul_le hpos
  have hhigh : sizeT (100 * total) / expected < 256 * k + 100 ↔
      sizeT (100 * total) < (256 * k + 100) * expected := Nat.div_lt_iff_lt_mul hpos
  have hquotient : sizeT (100 * total) / expected / 256 = k ∧
      sizeT (100 * total) / expected % 256 < 100 ↔
      256 * k * expected ≤ sizeT (100 * total) ∧
        sizeT (100 * total) < (256 * k + 100) * expected := by
    rw [← hlow, ← hhigh]
    generalize sizeT (100 * total) / expected = q
    omega
  rw [hquotient, Band]
  clear hquotient hlow hhigh
  rw [sizeT]
  generalize 256 * k * expected = low
  generalize (256 * k + 100) * expected = high
  omega

/-- **When the percentage is right.** -/
theorem progressPercent_iff (hsize : expected < 0x100000000) (total : Nat) :
    (progressPercent (sizeT total) expected).toNat = percentage total expected ↔
      Faithful total expected := by
  rw [progressPercent_toNat, percentage]
  rcases Nat.eq_zero_or_pos expected with rfl | hpos
  · -- nothing is expected, and there are no bands
    simp only [Nat.div_zero, Nat.zero_mod, true_iff]
    intro j k hband
    obtain ⟨-, -, hlow, hhigh⟩ := hband
    omega
  · have hfaithful : Faithful total expected ↔
        (sizeT (100 * total) / expected % 256 < 100 →
          100 * total / 0x100000000 = 0 ∧ sizeT (100 * total) / expected / 256 = 0) := by
      simp only [Faithful, band_iff hpos]
      constructor
      · intro h hlow
        exact h _ _ ⟨rfl, rfl, hlow⟩
      · rintro h j k ⟨rfl, rfl, hlow⟩
        exact h hlow
    have hsplit := Nat.div_add_mod (100 * total) 0x100000000
    have hle : sizeT (100 * total) / expected ≤ 100 * total / expected :=
      Nat.div_le_div_right (Nat.mod_le _ _)
    -- what 32 bits cut off is at least once the expected size
    have hcut : 100 * total / 0x100000000 ≠ 0 →
        sizeT (100 * total) / expected < 100 * total / expected := by
      intro hj
      have hmore : sizeT (100 * total) + expected ≤ 100 * total := by
        rw [sizeT]
        omega
      have hstep : (sizeT (100 * total) + expected) / expected ≤ 100 * total / expected :=
        Nat.div_le_div_right hmore
      rw [Nat.add_div_right _ hpos] at hstep
      exact hstep
    have hwhole : 100 * total / 0x100000000 = 0 → sizeT (100 * total) = 100 * total := by
      intro hj
      rw [sizeT]
      omega
    rw [hfaithful]
    constructor
    · intro h hlow
      generalize hq : sizeT (100 * total) / expected = q at *
      by_cases hj : 100 * total / 0x100000000 = 0
      · exact ⟨hj, by omega⟩
      · have hlt := hcut hj
        omega
    · intro h
      by_cases hlow : sizeT (100 * total) / expected % 256 < 100
      · obtain ⟨hj, hk⟩ := h hlow
        rw [hwhole hj] at hk ⊢
        rw [Nat.mod_eq_of_lt (by omega)]
      · generalize sizeT (100 * total) / expected = q at *
        omega

/-- The percentage grows with what is written. -/
theorem percentage_mono {t u : Nat} (h : t ≤ u) (expected : Nat) :
    percentage t expected ≤ percentage u expected :=
  min_le_min_left 100 (Nat.div_le_div_right (Nat.mul_le_mul_left 100 h))

/-- For fewer than 2³² / 100 bytes: the total is nowhere between 2.56 k and 2.56 k + 1 times what is
expected. -/
theorem faithful_iff_of_few (hfew : 100 * total < 0x100000000) :
    Faithful total expected ↔ ∀ k, 0 < k →
      ¬(256 * k * expected ≤ 100 * total ∧ 100 * total < (256 * k + 100) * expected) := by
  constructor
  · rintro h k hk ⟨hlow, hhigh⟩
    have hband : Band 0 k total expected := by
      simp only [Band, Nat.zero_mul, Nat.zero_add, Nat.one_mul, Nat.add_zero]
      exact ⟨Nat.zero_le _, hfew, hlow, hhigh⟩
    exact Nat.ne_of_gt hk (h 0 k hband).2
  · rintro h j k ⟨hj, -, hlow, hhigh⟩
    obtain rfl : j = 0 := by omega
    rw [Nat.zero_mul, Nat.add_zero] at hlow hhigh
    exact ⟨rfl, Nat.eq_zero_of_not_pos fun hk => h k hk ⟨hlow, hhigh⟩⟩

/-! ## 3. A whole update -/

/-- After every chunk the percentage is reported. -/
def Reports (f : Flash) (m₀ : Manager) (expected : Nat) (chunks : List Bytes) : Prop :=
  ∀ done rest m₁, chunks = done ++ rest → done ≠ [] → exec (chunkStep f) m₀ done = some m₁ →
    m₁.info.progress.toNat = percentage (totalLength done) expected

/-- The progress never decreases. -/
def NeverDecreases (f : Flash) (m₀ : Manager) (chunks : List Bytes) : Prop :=
  ∀ done more rest m₁ m₂, chunks = done ++ (more ++ rest) →
    exec (chunkStep f) m₀ done = some m₁ → exec (chunkStep f) m₁ more = some m₂ →
    m₁.info.progress ≤ m₂.info.progress

/-- What is reported after some chunks of an update. -/
theorem chunks_progress (hsize : expected < 0x100000000) (h0 : m₀.totalBytes = 0)
    (hexp : m₀.expectedSize = expected) (hprog : m₀.info.progress = 0)
    (hrun : exec (chunkStep f) m₀ chunks = some m₁) (hne : chunks ≠ []) :
    m₁.info.progress.toNat = percentage (totalLength chunks) expected ↔
      Faithful (totalLength chunks) expected := by
  obtain ⟨-, -, hp⟩ := chunks_manager hrun h0
  rw [hp, hexp, ← progressPercent_iff hsize]
  by_cases hpos : 0 < expected
  · rw [if_pos ⟨hpos, hne⟩]
  · -- nothing was expected: the progress stays where it was
    obtain rfl : expected = 0 := Nat.eq_zero_of_not_pos hpos
    rw [if_neg fun hn => hpos hn.1, hprog]
    simp [progressPercent, percentage]

/-- **The progress of an update**, whose expected size is a `size_t`: it is right after every chunk,
and never decreases, if and only if the total is after every chunk outside the bands. -/
theorem progress_iff {p : Partition} {m' : Manager} (hsize : expected < 0x100000000)
    (hstart : otaManagerStartStreamingUpdate f n m = (true, m₀))
    (hbegin : m₀.calls = m.calls ++ [.otaBegin p expected])
    (hrun : exec (chunkStep f) m₀ chunks = some m') :
    Reports f m₀ expected chunks ∧ NeverDecreases f m₀ chunks ↔
      ∀ done rest, chunks = done ++ rest → done ≠ [] →
        Faithful (totalLength done) expected := by
  obtain ⟨hexp, h0, hprog⟩ := start_manager hstart hbegin
  -- every beginning of the update has a manager
  have hfront : ∀ done rest, chunks = done ++ rest →
      ∃ m₁, exec (chunkStep f) m₀ done = some m₁ := by
    intro done rest hsplit
    rw [hsplit, exec_append] at hrun
    cases hm : exec (chunkStep f) m₀ done with
    | none =>
      rw [hm] at hrun
      cases hrun
    | some m₁ => exact ⟨m₁, rfl⟩
  constructor
  · rintro ⟨hreports, -⟩ done rest hsplit hne
    obtain ⟨m₁, hm₁⟩ := hfront done rest hsplit
    exact (chunks_progress hsize h0 hexp hprog hm₁ hne).1 (hreports done rest m₁ hsplit hne hm₁)
  · intro hfaithful
    have hreports : Reports f m₀ expected chunks := fun done rest m₁ hsplit hne hm₁ =>
      (chunks_progress hsize h0 hexp hprog hm₁ hne).2 (hfaithful done rest hsplit hne)
    refine ⟨hreports, ?_⟩
    intro done more rest m₁ m₂ hsplit hm₁ hm₂
    have hm₂' : exec (chunkStep f) m₀ (done ++ more) = some m₂ := by
      rw [exec_append, hm₁]
      exact hm₂
    have hsplit' : chunks = (done ++ more) ++ rest := by rw [hsplit, List.append_assoc]
    by_cases hdone : done = []
    · -- before the first chunk the progress is 0
      obtain rfl : m₀ = m₁ := by
        rw [hdone] at hm₁
        exact Option.some.inj hm₁
      rw [hprog]
      exact UInt8.zero_le
    · have hmore : done ++ more ≠ [] := List.append_ne_nil_of_left_ne_nil hdone _
      rw [UInt8.le_iff_toNat_le, hreports done (more ++ rest) m₁ hsplit hdone hm₁,
        hreports (done ++ more) rest m₂ hsplit' hmore hm₂']
      refine percentage_mono ?_ expected
      rw [totalLength_append]
      exact Nat.le_add_right _ _

/-! ## 4. Uploads -/

/-- An upload of more than 1680 bytes writes less than 256 per cent of what is expected of it. -/
theorem faithful_of_upload {contentLen : Nat} (hlong : 1680 < contentLen)
    (hfits : 100 * contentLen < 0x100000000) (htotal : total ≤ contentLen) :
    Faithful total (expectedFirmwareBytes contentLen) := by
  have hexp : expectedFirmwareBytes contentLen = contentLen - 1024 := by
    rw [expectedFirmwareBytes]
    split
    · split
      · rfl
      · omega
    · omega
  rw [hexp, faithful_iff_of_few (by omega)]
  rintro k hk ⟨hlow, -⟩
  have hband : 256 * (contentLen - 1024) ≤ 256 * k * (contentLen - 1024) :=
    Nat.mul_le_mul_right _ (Nat.le_mul_of_pos_right _ hk)
  omega

def benchPartition : Partition := ⟨.ota0, 0x180000⟩

/-- The manager once an update of so many bytes has been started. -/
def benchStarted (size : Nat) : Manager :=
  (otaManagerStartStreamingUpdate (.willing benchPartition) size .idle).2

theorem progress_iff_halves :
    Reports (.willing benchPartition) (benchStarted 4) 4 [[1, 2], [3, 4]] ∧
      NeverDecreases (.willing benchPartition) (benchStarted 4) [[1, 2], [3, 4]] := by
  refine (progress_iff (n := 4) (m := .idle) (p := benchPartition) (by decide) rfl rfl rfl).2 ?_
  intro done rest hsplit hne
  have hlen : totalLength done ≤ 4 := by
    have hsum := congrArg totalLength hsplit
    rw [totalLength_append] at hsum
    change 4 = _ at hsum
    omega
  rw [faithful_iff_of_few (by omega)]
  rintro k hk ⟨hlow, -⟩
  omega

/-- An upload of 1026 bytes is expected to hold two of firmware.  It holds six, and 44 per cent
are reported. -/
theorem progress_wraps :
    ¬∀ (f : Flash) (m m₀ m' : Manager) (p : Partition) (n expected : Nat) (chunks : List Bytes),
      otaManagerStartStreamingUpdate f n m = (true, m₀) →
      m₀.calls = m.calls ++ [.otaBegin p expected] → exec (chunkStep f) m₀ chunks = some m' →
      Reports f m₀ expected chunks ∧ NeverDecreases f m₀ chunks := by
  intro h
  have hreports := (h (.willing benchPartition) .idle (benchStarted (expectedFirmwareBytes 1026)) _
    benchPartition (expectedFirmwareBytes 1026) 2 [[1, 2, 3, 4, 5, 6]] rfl rfl rfl).1
  have hpercent := hreports [[1, 2, 3, 4, 5, 6]] [] _ rfl (List.cons_ne_nil _ _) rfl
  revert hpercent
  decide

end GroundTruth.Ota
