/-
# Averages of readings: `nau7802_get_average`

A reading has 24 bits, and its sign is extended to 32.  The average adds up to 255 of them in an
`int32_t` and divides, which truncates towards zero.  Between the samples the function polls the
device, for ever or until a time is over.

* `getReading_toInt`: a reading is what the registers hold with the sign extended, for any three
  bytes;
* `loop_readings`: the readings of the loop are those of its passes, where one was available;
* `Averaging.Exact.poll`: while each reading is one, the total is the sum: 255 of them fit, because
  the count has 8 bits;
* `average`: so in every state of the loop, and the result is between the readings taken.
-/
import Mathlib.Algebra.BigOperators.Group.List.Basic
import Mathlib.Data.Nat.Bitwise
import GroundTruth.Lib.Bytes
import GroundTruth.Lib.Mean

namespace GroundTruth.Nau7802

open GroundTruth.Lib

/-! ## 1. The functions -/

/-- `NAU7802_PU_CTRL_CR`: data is ready. -/
def puCtrlCr : UInt8 := 5

/-- `nau7802_available`, of what the power-up register has; `none` is a transfer that failed. -/
def available (pwr : Option UInt8) : Bool :=
  match pwr with
  | none => false
  | some pwr => decide (pwr &&& (1 <<< puCtrlCr) ≠ 0)

/-- `nau7802_get_reading`, of three bytes, the high one first. -/
def getReading (data : Option (UInt8 × UInt8 × UInt8)) : Int32 :=
  match data with
  | none => 0
  | some (b0, b1, b2) =>
    let value := (b0.toUInt32 <<< 16) ||| (b1.toUInt32 <<< 8) ||| b2.toUInt32
    if value &&& 0x00800000 ≠ 0 then (value ||| 0xFF000000).toInt32 else value.toInt32

/-- What one pass of the loop meets. -/
structure Poll where
  pwr : Option UInt8
  data : Option (UInt8 × UInt8 × UInt8)
  /-- since the start, in milliseconds -/
  elapsed : UInt32
  deriving DecidableEq, Repr

/-- The variables of the loop, and beside them the readings taken, the last one first. -/
structure Averaging where
  total : Int32
  samplesAcquired : UInt8
  readings : List Int32
  deriving DecidableEq, Repr

def Averaging.start : Averaging := ⟨0, 0, []⟩

/-- A sample, if there is one. -/
def Averaging.poll (p : Poll) (s : Averaging) : Averaging :=
  if available p.pwr = true then
    let reading := getReading p.data
    ⟨s.total + reading, s.samplesAcquired + 1, reading :: s.readings⟩
  else s

/-- The loop of `nau7802_get_average` over the passes so far: its variables, and whether it has
ended. -/
def averageLoop (sampleCount : UInt8) (timeoutMs : UInt32) :
    List Poll → Averaging → Averaging × Bool
  | polls, s =>
    if s.samplesAcquired < sampleCount then
      match polls with
      | [] => (s, false)
      | p :: polls =>
        let s := s.poll p
        if timeoutMs > 0 ∧ p.elapsed > timeoutMs then (s, true)
        else averageLoop sampleCount timeoutMs polls s
    else (s, true)

/-- What is returned, once the loop has ended. -/
def Averaging.result (s : Averaging) : Int32 :=
  if s.samplesAcquired = 0 then 0 else s.total / s.samplesAcquired.toUInt32.toInt32

/-- `nau7802_get_average`; `none` while it polls. -/
def getAverage (sampleCount : UInt8) (timeoutMs : UInt32) (polls : List Poll) : Option Int32 :=
  let (s, ended) := averageLoop sampleCount timeoutMs polls .start
  if ended = true then some s.result else none

/-! ## 2. A reading -/

/-- The signed value of 24 bits. -/
def signed24 (n : Nat) : Int := if n < 2 ^ 23 then n else n - 2 ^ 24

theorem word24_toNat (b0 b1 b2 : UInt8) :
    ((b0.toUInt32 <<< 16) ||| (b1.toUInt32 <<< 8) ||| b2.toUInt32).toNat =
      b0.toNat * 65536 + b1.toNat * 256 + b2.toNat := by
  have h0 := b0.toNat_lt
  have h1 := b1.toNat_lt
  have h2 := b2.toNat_lt
  have hmiddle : b1.toNat * 256 < 2 ^ 16 := by omega
  have hfront : b0.toNat <<< 16 ||| b1.toNat * 256 = (b0.toNat * 256 + b1.toNat) <<< 8 := by
    rw [← Nat.shiftLeft_add_eq_or_of_lt hmiddle, Nat.shiftLeft_eq, Nat.shiftLeft_eq]
    omega
  have hshift0 : (b0.toUInt32 <<< 16).toNat = b0.toNat <<< 16 := by
    have hk : UInt32.toNat 16 % 32 = 16 := rfl
    rw [UInt32.toNat_shiftLeft, UInt8.toNat_toUInt32, hk, Nat.shiftLeft_eq]
    omega
  have hshift1 : (b1.toUInt32 <<< 8).toNat = b1.toNat * 256 := by
    have hk : UInt32.toNat 8 % 32 = 8 := rfl
    rw [UInt32.toNat_shiftLeft, UInt8.toNat_toUInt32, hk, Nat.shiftLeft_eq]
    omega
  rw [UInt32.toNat_or, UInt32.toNat_or, hshift0, hshift1, UInt8.toNat_toUInt32, hfront,
    ← Nat.shiftLeft_add_eq_or_of_lt h2, Nat.shiftLeft_eq]
  omega

/-- The sign bit of 24 bits. -/
theorem sign24_iff {v : UInt32} (h : v.toNat < 2 ^ 24) :
    v &&& 0x00800000 ≠ 0 ↔ 2 ^ 23 ≤ v.toNat := by
  have hand : (v &&& 0x00800000).toNat = (v.toNat.testBit 23).toNat * 2 ^ 23 := by
    rw [UInt32.toNat_and]
    exact Nat.and_two_pow v.toNat 23
  rw [ne_eq, ← UInt32.toNat_inj, hand, Nat.testBit_eq_decide_div_mod_eq]
  by_cases hbit : v.toNat / 2 ^ 23 % 2 = 1
  · rw [decide_eq_true hbit]
    constructor
    · intro _
      omega
    · intro _ hzero
      exact absurd hzero (by decide)
  · rw [decide_eq_false hbit]
    constructor
    · intro hne
      exact absurd rfl hne
    · intro hle
      omega

/-- **A reading** is the signed value of its 24 bits. -/
theorem getReading_toInt (b0 b1 b2 : UInt8) :
    (getReading (some (b0, b1, b2))).toInt =
      signed24 (b0.toNat * 65536 + b1.toNat * 256 + b2.toNat) := by
  have hvalue := word24_toNat b0 b1 b2
  have hlt : b0.toNat * 65536 + b1.toNat * 256 + b2.toNat < 2 ^ 24 := by
    have h0 := b0.toNat_lt
    have h1 := b1.toNat_lt
    have h2 := b2.toNat_lt
    omega
  rw [← hvalue] at hlt ⊢
  simp only [getReading]
  generalize (b0.toUInt32 <<< 16) ||| (b1.toUInt32 <<< 8) ||| b2.toUInt32 = v at *
  rw [signed24]
  by_cases hsign : v &&& 0x00800000 ≠ 0
  · have hle := (sign24_iff hlt).1 hsign
    have hor : (v ||| 0xFF000000).toNat = 0xFF000000 + v.toNat := by
      rw [UInt32.toNat_or, Nat.or_comm]
      exact (Nat.shiftLeft_add_eq_or_of_lt hlt 0xFF).symm
    rw [if_pos hsign, if_neg (by omega)]
    show (v ||| 0xFF000000).toBitVec.toInt = _
    rw [BitVec.toInt_eq_toNat_cond, UInt32.toNat_toBitVec, hor, if_neg (by omega)]
    omega
  · have hsmall : v.toNat < 2 ^ 23 := by
      by_contra hbig
      exact hsign ((sign24_iff hlt).2 (by omega))
    rw [if_neg hsign, if_pos hsmall]
    show v.toBitVec.toInt = _
    rw [BitVec.toInt_eq_toNat_cond, UInt32.toNat_toBitVec, if_pos (by omega)]

/-- What the registers hold, with the sign extended; 0 where they could not be read. -/
def signExtended (data : Option (UInt8 × UInt8 × UInt8)) : Int :=
  match data with
  | none => 0
  | some (b0, b1, b2) => signed24 (b0.toNat * 65536 + b1.toNat * 256 + b2.toNat)

theorem getReading_eq (data : Option (UInt8 × UInt8 × UInt8)) :
    (getReading data).toInt = signExtended data := by
  match data with
  | none => rfl
  | some (b0, b1, b2) => exact getReading_toInt b0 b1 b2

theorem getReading_bounds (data : Option (UInt8 × UInt8 × UInt8)) :
    -2 ^ 23 ≤ (getReading data).toInt ∧ (getReading data).toInt ≤ 2 ^ 23 := by
  match data with
  | none => decide
  | some (b0, b1, b2) =>
    have h0 := b0.toNat_lt
    have h1 := b1.toNat_lt
    have h2 := b2.toNat_lt
    rw [getReading_toInt, signed24]
    split <;> omega

/-- The sample of a pass, if it finds data ready. -/
def Poll.sample (p : Poll) : List Int :=
  if available p.pwr = true then [signExtended p.data] else []

/-- The samples of some passes, in their order. -/
def samples (passes : List Poll) : List Int := passes.flatMap Poll.sample

/-! ## 3. The loop -/

variable {s s' : Averaging} {sampleCount : UInt8} {timeoutMs : UInt32}

/-- The total is the sum of the readings, with no overflow, and the count their number. -/
structure Averaging.Exact (s : Averaging) : Prop where
  total : s.total.toInt = (s.readings.map Int32.toInt).sum
  count : s.samplesAcquired.toNat = s.readings.length
  bounds : ∀ r ∈ s.readings, -2 ^ 23 ≤ r.toInt ∧ r.toInt ≤ 2 ^ 23

theorem Averaging.Exact.start : Averaging.Exact .start where
  total := rfl
  count := rfl
  bounds := by
    intro r hr
    cases hr

/-- **Up to 255 readings** sum to what 32 bits have room for. -/
theorem sum_fits {readings : List Int32} (hlen : readings.length ≤ 255)
    (h : ∀ r ∈ readings, -2 ^ 23 ≤ r.toInt ∧ r.toInt ≤ 2 ^ 23) :
    -2 ^ 31 ≤ (readings.map Int32.toInt).sum ∧ (readings.map Int32.toInt).sum < 2 ^ 31 := by
  have hhigh : ∀ x ∈ readings.map Int32.toInt, x ≤ 2 ^ 23 := by
    intro x hx
    obtain ⟨r, hr, rfl⟩ := List.mem_map.1 hx
    exact (h r hr).2
  have hlow : ∀ x ∈ readings.map Int32.toInt, -2 ^ 23 ≤ x := by
    intro x hx
    obtain ⟨r, hr, rfl⟩ := List.mem_map.1 hx
    exact (h r hr).1
  have hsum := sum_le_length_mul hhigh
  have hsum' := length_mul_le_sum hlow
  rw [List.length_map] at hsum hsum'
  omega

/-- **A pass** keeps the total exact, as long as there is room in the count. -/
theorem Averaging.Exact.poll (h : s.Exact) (hcount : s.samplesAcquired < sampleCount) (p : Poll) :
    (s.poll p).Exact := by
  unfold Averaging.poll
  split
  case isFalse => exact h
  case isTrue =>
    have hlt : s.samplesAcquired.toNat < sampleCount.toNat := UInt8.lt_iff_toNat_lt.1 hcount
    have hmax := sampleCount.toNat_lt
    have hbounds : ∀ r ∈ getReading p.data :: s.readings, -2 ^ 23 ≤ r.toInt ∧ r.toInt ≤ 2 ^ 23 := by
      intro r hr
      rcases List.mem_cons.1 hr with rfl | hold
      · exact getReading_bounds p.data
      · exact h.bounds r hold
    have hlen : (getReading p.data :: s.readings).length ≤ 255 := by
      rw [List.length_cons, ← h.count]
      omega
    have hfits := sum_fits hlen hbounds
    rw [List.map_cons, List.sum_cons, ← h.total, Int.add_comm] at hfits
    refine ⟨?_, ?_, hbounds⟩
    · show (s.total + getReading p.data).toInt = _
      rw [Int32.toInt_add, Int.bmod_eq_of_le (by omega) (by omega), List.map_cons, List.sum_cons,
        ← h.total, Int.add_comm]
    · show (s.samplesAcquired + 1).toNat = _
      rw [UInt8.toNat_add, h.count, List.length_cons]
      show (s.readings.length + 1) % 2 ^ 8 = _
      rw [Nat.mod_eq_of_lt]
      rw [← h.count]
      omega

/-- **The loop** keeps the total exact, pass by pass. -/
theorem Averaging.Exact.loop (h : s.Exact) (polls : List Poll) :
    (averageLoop sampleCount timeoutMs polls s).1.Exact := by
  induction polls generalizing s with
  | nil =>
    rw [averageLoop]
    split <;> exact h
  | cons p polls ih =>
    rw [averageLoop]
    split
    case isFalse => exact h
    case isTrue hcount =>
      have hnext := h.poll hcount p
      dsimp only
      split
      · exact hnext
      · exact ih hnext

theorem Poll.sample_reverse (p : Poll) : p.sample.reverse = p.sample := by
  unfold Poll.sample
  split <;> rfl

/-- A pass has a reading if it finds data ready. -/
theorem poll_readings (p : Poll) (s : Averaging) :
    (s.poll p).readings.map Int32.toInt = p.sample ++ s.readings.map Int32.toInt := by
  unfold Averaging.poll Poll.sample
  by_cases hready : available p.pwr = true
  · simp [hready, getReading_eq]
  · simp [hready]

variable (sampleCount timeoutMs) in
/-- **The readings** are what the registers held in the passes that were made. -/
theorem loop_readings (polls : List Poll) (s : Averaging) :
    ∃ passes, passes <+: polls ∧
      (averageLoop sampleCount timeoutMs polls s).1.readings.map Int32.toInt =
        (samples passes).reverse ++ s.readings.map Int32.toInt := by
  induction polls generalizing s with
  | nil =>
    refine ⟨[], List.nil_prefix, ?_⟩
    rw [averageLoop]
    split <;> rfl
  | cons p polls ih =>
    rw [averageLoop]
    split
    case isFalse => exact ⟨[], List.nil_prefix, rfl⟩
    case isTrue =>
      dsimp only
      split
      · refine ⟨[p], List.cons_prefix_cons.2 ⟨rfl, List.nil_prefix⟩, ?_⟩
        rw [poll_readings, samples, List.flatMap_singleton, p.sample_reverse]
      · obtain ⟨passes, hfront, hreadings⟩ := ih (s.poll p)
        refine ⟨p :: passes, List.cons_prefix_cons.2 ⟨rfl, hfront⟩, ?_⟩
        rw [hreadings, poll_readings, ← List.append_assoc, samples, samples, List.flatMap_cons,
          List.reverse_append, p.sample_reverse]

/-- **The quotient** is the truncated mean. -/
theorem Averaging.Exact.result (h : s.Exact) (hne : s.readings ≠ []) :
    s.result.toInt = (s.readings.map Int32.toInt).sum.tdiv (s.readings.map Int32.toInt).length := by
  have hpos : 0 < s.readings.length := List.length_pos_iff.2 hne
  have hcount := s.samplesAcquired.toNat_lt
  have hnonzero : s.samplesAcquired ≠ 0 := by
    intro hzero
    have hno := h.count
    rw [hzero] at hno
    exact absurd hno (by show ¬ 0 = s.readings.length; omega)
  have hdivisor : (s.samplesAcquired.toUInt32.toInt32).toInt = s.readings.length := by
    show (s.samplesAcquired.toUInt32).toBitVec.toInt = _
    rw [BitVec.toInt_eq_toNat_cond, UInt32.toNat_toBitVec, UInt8.toNat_toUInt32,
      if_pos (by omega), h.count]
  have hpositive : s.samplesAcquired.toUInt32.toInt32 ≠ -1 := by
    intro hneg
    rw [hneg] at hdivisor
    exact absurd hdivisor (by show ¬ (-1 : Int) = _; omega)
  rw [Averaging.result, if_neg hnonzero, Int32.toInt_div_of_ne_right _ _ hpositive, hdivisor,
    h.total, List.length_map]

/-- **Averages.**  For every sample count, every timeout and every sequence of passes: in the state
that the loop has reached, the total is the sum of what the registers held, with the sign extended,
and 32 bits have room for it.  When it has ended with a sample at least, the result is between the
least and the greatest of them. -/
theorem average (sampleCount : UInt8) (timeoutMs : UInt32) (polls : List Poll) :
    let (s, ended) := averageLoop sampleCount timeoutMs polls .start
    ∃ passes, passes <+: polls ∧ s.readings.map Int32.toInt = (samples passes).reverse ∧
      (s.total.toInt = (samples passes).sum ∧
        -2 ^ 31 ≤ (samples passes).sum ∧ (samples passes).sum < 2 ^ 31) ∧
      (ended = true → samples passes ≠ [] →
        ∃ result, getAverage sampleCount timeoutMs polls = some result ∧
          ∃ lo ∈ samples passes, ∃ hi ∈ samples passes,
            (∀ x ∈ samples passes, lo ≤ x ∧ x ≤ hi) ∧
              lo ≤ result.toInt ∧ result.toInt ≤ hi) := by
  have hexact : (averageLoop sampleCount timeoutMs polls .start).1.Exact :=
    Averaging.Exact.start.loop polls
  obtain ⟨passes, hfront, hreadings⟩ := loop_readings sampleCount timeoutMs polls .start
  have hdef : getAverage sampleCount timeoutMs polls =
      if (averageLoop sampleCount timeoutMs polls .start).2 = true then
        some (averageLoop sampleCount timeoutMs polls .start).1.result else none := rfl
  generalize averageLoop sampleCount timeoutMs polls .start = out at hexact hdef hreadings ⊢
  obtain ⟨s, ended⟩ := out
  have hsame : s.readings.map Int32.toInt = (samples passes).reverse := by
    rw [hreadings]
    exact List.append_nil _
  have hsum : (s.readings.map Int32.toInt).sum = (samples passes).sum := by
    rw [hsame, List.sum_reverse]
  have hlen : s.readings.length ≤ 255 := by
    have hlt := s.samplesAcquired.toNat_lt
    have hcount : s.samplesAcquired.toNat = s.readings.length := hexact.count
    omega
  have hfits := sum_fits hlen hexact.bounds
  rw [hsum] at hfits
  refine ⟨passes, hfront, hsame, ⟨hexact.total.trans hsum, hfits⟩, ?_⟩
  intro hended hne
  have hne' : s.readings.map Int32.toInt ≠ [] := by
    rw [hsame]
    exact fun hnil => hne (List.reverse_eq_nil_iff.1 hnil)
  have hmem (x : Int) : x ∈ s.readings.map Int32.toInt ↔ x ∈ samples passes := by
    rw [hsame, List.mem_reverse]
  obtain ⟨lo, hlo, hi, hhi, hbounds⟩ := exists_bounds hne'
  refine ⟨s.result, hdef.trans (if_pos hended), lo, (hmem lo).1 hlo, hi, (hmem hi).1 hhi, ?_, ?_⟩
  · intro x hx
    exact hbounds x ((hmem x).2 hx)
  · have hresult : s.result.toInt = _ := hexact.result fun hnil => hne' (by rw [hnil]; rfl)
    rw [hresult]
    exact mean_mem_bounds hne' hbounds

/-- The least reading there is, a pass without data, the greatest reading, and a one. -/
def mixedPolls : List Poll :=
  [⟨some 0x20, some (0x80, 0, 0), 0⟩, ⟨some 0, some (0, 0, 0), 1⟩,
    ⟨some 0x20, some (0x7F, 0xFF, 0xFF), 2⟩, ⟨some 0x20, some (0, 0, 1), 3⟩]

theorem average_mixed : ∃ passes, passes <+: mixedPolls ∧
    (samples passes).reverse = [1, 8388607, -8388608] ∧
    ∃ result, getAverage 3 0 mixedPolls = some result ∧ ∃ lo ∈ samples passes,
      ∃ hi ∈ samples passes, (∀ x ∈ samples passes, lo ≤ x ∧ x ≤ hi) ∧
        lo ≤ result.toInt ∧ result.toInt ≤ hi := by
  obtain ⟨passes, hfront, hreadings, -, hresult⟩ := average 3 0 mixedPolls
  have hsamples : (samples passes).reverse = [1, 8388607, -8388608] := by
    rw [← hreadings]
    decide
  refine ⟨passes, hfront, hsamples, hresult (by decide) fun hnil => ?_⟩
  rw [hnil] at hsamples
  cases hsamples

end GroundTruth.Nau7802
