/-
# Calibrations: `nau7802_calibrate_af_mode` and what calls it

`CALMOD`, in `CTRL2`, says against what the device calibrates, and `CALS` starts it.
`nau7802_calibrate_af_mode` sets the field, then the bit.  The two functions for a system
calibration set the field as well, and then call `nau7802_calibrate_af`, "external offset
calibration" and "external gain calibration" as they are called; but that one is the internal mode,
and sets the field again.

The answers of the device are a parameter: for every transfer, nothing, or a byte.  The bus keeps
beside itself each write of `CTRL2` with the start bit that gets through, and what the driver had
read there.

* `calibrateAfMode_starts`, `calibrateSystem_starts`: what a call starts, from the answers alone;
* `afStarts_meet`: `nau7802_calibrate_af_mode` starts the mode it is called for;
* `calibration`: so does a system calibration if and only if it is stopped by a failure before
  it starts at all; `offset_internal` starts the internal one instead.
-/
import GroundTruth.Lib.Field

namespace GroundTruth.Nau7802

open GroundTruth.Lib

/-! ## 1. The bus -/

/-- A write that starts a calibration: the register as it was read, and as it is written. -/
structure Start where
  before : UInt8
  written : UInt8
  deriving DecidableEq, Repr

structure Bus where
  /-- what comes of each transfer: it fails, or has a byte -/
  answers : Nat → Option UInt8
  /-- the number of the next one -/
  next : Nat
  /-- `CTRL2` as it was read last -/
  ctrl2 : UInt8
  starts : List Start

inductive EspErr
  | ok
  /-- what a transfer has returned -/
  | transfer
  | invalidResponse
  | timeout
  deriving DecidableEq, Repr

/-- `NAU7802_REGISTER_CTRL2` -/
def registerCtrl2 : UInt8 := 0x02
/-- `NAU7802_REGISTER_ADC` -/
def registerAdc : UInt8 := 0x15
/-- `NAU7802_CTRL2_CALMOD_MASK` -/
def calmodMask : UInt8 := 0x03
/-- `NAU7802_CTRL2_CALS` -/
def cals : UInt8 := 0x04
/-- `NAU7802_CTRL2_CAL_ERROR` -/
def calError : UInt8 := 0x08
/-- `NAU7802_ADC_CHANNEL_MASK` -/
def adcChannelMask : UInt8 := 0x80

/-- `nau7802_channel_t` -/
inductive Channel
  | channel1
  | channel2
  deriving DecidableEq, Repr

/-- `nau7802_cal_mode_t` -/
inductive CalMode
  | internal
  | offset
  | gain
  deriving DecidableEq, Repr

def CalMode.value : CalMode → UInt8
  | .internal => 0
  | .offset => 2
  | .gain => 3

/-- `nau7802_read_register` -/
def readRegister (reg : UInt8) (bus : Bus) : Option UInt8 × Bus :=
  match bus.answers bus.next with
  | none => (none, { bus with next := bus.next + 1 })
  | some b =>
    (some b, { bus with
      next := bus.next + 1
      ctrl2 := if reg = registerCtrl2 then b else bus.ctrl2 })

/-- The start that a write is, if it is one. -/
def startOf (ctrl2 reg data : UInt8) : List Start :=
  if reg = registerCtrl2 ∧ hasBits cals data then [⟨ctrl2, data⟩] else []

/-- `i2c_master_transmit` of a register and its value. -/
def transmit (reg data : UInt8) (bus : Bus) : Bool × Bus :=
  match bus.answers bus.next with
  | none => (false, { bus with next := bus.next + 1 })
  | some _ =>
    (true, { bus with
      next := bus.next + 1
      starts := bus.starts ++ startOf bus.ctrl2 reg data })

/-- `nau7802_write_register`: a write, and a read that is compared and only logged. -/
def writeRegister (reg data : UInt8) (bus : Bus) : Bool × Bus :=
  let (ok, bus) := transmit reg data bus
  if ok = true then (true, { bus with next := bus.next + 1 }) else (false, bus)

/-! ## 2. The functions -/

/-- `nau7802_set_channel` -/
def setChannel (channel : Channel) (bus : Bus) : Bool × Bus :=
  match readRegister registerAdc bus with
  | (none, bus) => (false, bus)
  | (some adc, bus) =>
    let adc := match channel with
      | .channel1 => adc &&& ~~~adcChannelMask
      | .channel2 => adc ||| adcChannelMask
    writeRegister registerAdc adc bus

/-- The end of `nau7802_calibrate_af_mode`: the passes left of the loop, and the time-out. -/
def waitForCalibration : Nat → UInt8 → Bus → EspErr × Bus
  | 0, ctrl2, bus =>
    let (read, bus) := readRegister registerCtrl2 bus
    let ctrl2 := read.getD ctrl2 &&& ~~~cals
    (.timeout, (writeRegister registerCtrl2 ctrl2 bus).2)
  | n + 1, _, bus =>
    match readRegister registerCtrl2 bus with
    | (none, bus) => (.transfer, bus)
    | (some ctrl2, bus) =>
      if ctrl2 &&& cals = 0 then
        if ctrl2 &&& calError ≠ 0 then
          (.invalidResponse, (writeRegister registerCtrl2 (ctrl2 &&& ~~~cals) bus).2)
        else (.ok, bus)
      else waitForCalibration n ctrl2 bus

/-- `nau7802_calibrate_af_mode` -/
def calibrateAfMode (mode : CalMode) (bus : Bus) : EspErr × Bus :=
  match readRegister registerCtrl2 bus with
  | (none, bus) => (.transfer, bus)
  | (some ctrl2, bus) =>
    let ctrl2 := ctrl2 &&& ~~~calmodMask
    let ctrl2 := ctrl2 ||| (mode.value &&& calmodMask)
    match writeRegister registerCtrl2 ctrl2 bus with
    | (false, bus) => (.transfer, bus)
    | (true, bus) =>
      let ctrl2 := ctrl2 ||| cals
      match writeRegister registerCtrl2 ctrl2 bus with
      | (false, bus) => (.transfer, bus)
      | (true, bus) =>
        match readRegister registerCtrl2 bus with
        | (none, bus) => (.transfer, bus)
        | (some ctrl2, bus) => waitForCalibration 100 ctrl2 bus

/-- `nau7802_calibrate_af` -/
def calibrateAf (bus : Bus) : EspErr × Bus := calibrateAfMode .internal bus

/-- The shape of a system calibration, with what it makes of `CTRL2`. -/
def calibrateSystem (prepare : UInt8 → UInt8) (channel : Channel) (bus : Bus) : EspErr × Bus :=
  match setChannel channel bus with
  | (false, bus) => (.transfer, bus)
  | (true, bus) =>
    match readRegister registerCtrl2 bus with
    | (none, bus) => (.transfer, bus)
    | (some ctrl2, bus) =>
      match writeRegister registerCtrl2 (prepare ctrl2) bus with
      | (false, bus) => (.transfer, bus)
      | (true, bus) => calibrateAf bus

/-- `nau7802_calibrate_system_offset` -/
def calibrateSystemOffset (channel : Channel) (bus : Bus) : EspErr × Bus :=
  calibrateSystem (fun ctrl2 => ctrl2 &&& ~~~calmodMask) channel bus

/-- `nau7802_calibrate_system_gain` -/
def calibrateSystemGain (channel : Channel) (bus : Bus) : EspErr × Bus :=
  calibrateSystem (fun ctrl2 => ctrl2 ||| calmodMask) channel bus

/-- A bus that has not been used. -/
def Bus.new (answers : Nat → Option UInt8) : Bus := ⟨answers, 0, 0, []⟩

/-! ## 3. What a call starts -/

variable {bus : Bus} {reg data b : UInt8}

theorem readRegister_none (h : bus.answers bus.next = none) :
    readRegister reg bus = (none, { bus with next := bus.next + 1 }) := by
  rw [readRegister, h]

theorem readRegister_some (h : bus.answers bus.next = some b) :
    readRegister reg bus = (some b, { bus with
      next := bus.next + 1
      ctrl2 := if reg = registerCtrl2 then b else bus.ctrl2 }) := by
  rw [readRegister, h]

theorem writeRegister_none (h : bus.answers bus.next = none) :
    writeRegister reg data bus = (false, { bus with next := bus.next + 1 }) := by
  rw [writeRegister, transmit, h]
  rfl

theorem writeRegister_some (h : bus.answers bus.next ≠ none) :
    writeRegister reg data bus = (true, { bus with
      next := bus.next + 2
      starts := bus.starts ++ startOf bus.ctrl2 reg data }) := by
  cases hanswer : bus.answers bus.next with
  | none => exact absurd hanswer h
  | some c =>
    rw [writeRegister, transmit, hanswer]
    rfl

/-- A write that is no start. -/
theorem writeRegister_starts (h : ¬ (reg = registerCtrl2 ∧ hasBits cals data)) (bus : Bus) :
    (writeRegister reg data bus).2.starts = bus.starts := by
  by_cases hanswer : bus.answers bus.next = none
  · rw [writeRegister_none hanswer]
  · rw [writeRegister_some hanswer, startOf, if_neg h]
    exact List.append_nil _

theorem readRegister_starts (reg : UInt8) (bus : Bus) :
    (readRegister reg bus).2.starts = bus.starts := by
  cases hanswer : bus.answers bus.next with
  | none => rw [readRegister_none hanswer]
  | some b => rw [readRegister_some hanswer]

/-- **The wait** starts nothing: where it writes, it clears the bit. -/
theorem waitForCalibration_starts (n : Nat) (ctrl2 : UInt8) (bus : Bus) :
    (waitForCalibration n ctrl2 bus).2.starts = bus.starts := by
  induction n generalizing ctrl2 bus with
  | zero =>
    rw [waitForCalibration]
    exact (writeRegister_starts (fun h => not_hasBits_clear h.2) _).trans
      (readRegister_starts _ bus)
  | succ n ih =>
    have hread := readRegister_starts registerCtrl2 bus
    rw [waitForCalibration]
    generalize readRegister registerCtrl2 bus = out at hread
    obtain ⟨read, bus'⟩ := out
    cases read with
    | none => exact hread
    | some ctrl2 =>
      dsimp only
      split
      · split
        · exact (writeRegister_starts (fun h => not_hasBits_clear h.2) _).trans hread
        · exact hread
      · exact (ih ctrl2 bus').trans hread

/-- What `nau7802_calibrate_af_mode` starts, by the answers that it meets. -/
def afStarts (mode : CalMode) (answers : Nat → Option UInt8) : List Start :=
  match answers 0 with
  | none => []
  | some b =>
    if answers 1 = none then []
    else
      let prepared := setField calmodMask mode.value b
      startOf b registerCtrl2 prepared ++
        if answers 3 = none then [] else startOf b registerCtrl2 (prepared ||| cals)

/-- The end of the function starts nothing more. -/
theorem finish_starts (bus : Bus) :
    (match readRegister registerCtrl2 bus with
      | (none, bus) => (EspErr.transfer, bus)
      | (some ctrl2, bus) => waitForCalibration 100 ctrl2 bus).2.starts = bus.starts := by
  have hread := readRegister_starts registerCtrl2 bus
  generalize readRegister registerCtrl2 bus = out at hread
  obtain ⟨read, bus'⟩ := out
  cases read with
  | none => exact hread
  | some ctrl2 => exact (waitForCalibration_starts 100 ctrl2 bus').trans hread

/-- **The calibration of a mode**: the start, and the preparation if the bit was still set. -/
theorem calibrateAfMode_starts (mode : CalMode) (bus : Bus) :
    (calibrateAfMode mode bus).2.starts =
      bus.starts ++ afStarts mode fun k => bus.answers (bus.next + k) := by
  rw [calibrateAfMode, afStarts]
  cases h0 : bus.answers bus.next with
  | none =>
    rw [readRegister_none h0]
    exact (List.append_nil _).symm
  | some b =>
    rw [readRegister_some h0]
    dsimp only
    by_cases h1 : bus.answers (bus.next + 1) = none
    · rw [writeRegister_none h1, if_pos h1]
      exact (List.append_nil _).symm
    rw [writeRegister_some h1, if_neg h1]
    dsimp only
    have hprepared : (b &&& ~~~calmodMask) ||| (mode.value &&& calmodMask) =
        setField calmodMask mode.value b := rfl
    rw [hprepared]
    by_cases h3 : bus.answers (bus.next + 3) = none
    · rw [writeRegister_none h3, if_pos h3, List.append_nil]
      rfl
    · rw [writeRegister_some h3, if_neg h3]
      exact (finish_starts _).trans (List.append_assoc _ _ _)

/-- What a system calibration starts. -/
def systemStarts (prepare : UInt8 → UInt8) (answers : Nat → Option UInt8) : List Start :=
  if answers 0 = none ∨ answers 1 = none then []
  else
    match answers 3 with
    | none => []
    | some b =>
      if answers 4 = none then []
      else startOf b registerCtrl2 (prepare b) ++ afStarts .internal fun k => answers (6 + k)

/-- The channel is set, or a transfer fails. -/
theorem setChannel_eq (channel : Channel) (bus : Bus) :
    (setChannel channel bus).2.starts = bus.starts ∧
      (setChannel channel bus).1 = decide (¬ (bus.answers bus.next = none ∨
        bus.answers (bus.next + 1) = none)) ∧
      ((setChannel channel bus).1 = true →
        (setChannel channel bus).2 = { bus with next := bus.next + 3 }) := by
  have hadc : registerAdc ≠ registerCtrl2 := by decide
  unfold setChannel
  cases h0 : bus.answers bus.next with
  | none =>
    rw [readRegister_none h0]
    simp
  | some b =>
    rw [readRegister_some h0, if_neg hadc]
    dsimp only
    by_cases h1 : bus.answers (bus.next + 1) = none
    · rw [writeRegister_none h1]
      simp [h1]
    · have hno : startOf bus.ctrl2 registerAdc = fun _ => [] := by
        funext data
        exact if_neg fun h => hadc h.1
      rw [writeRegister_some h1, hno]
      simp [h1]

/-- **A system calibration**: the preparation if the bit was set, and what the internal mode
starts. -/
theorem calibrateSystem_starts (prepare : UInt8 → UInt8) (channel : Channel) (bus : Bus) :
    (calibrateSystem prepare channel bus).2.starts =
      bus.starts ++ systemStarts prepare fun k => bus.answers (bus.next + k) := by
  obtain ⟨hstarts, hok, hbus⟩ := setChannel_eq channel bus
  rw [calibrateSystem, systemStarts]
  generalize setChannel channel bus = out at hstarts hok hbus
  obtain ⟨ok, bus'⟩ := out
  by_cases hfail : bus.answers (bus.next + 0) = none ∨ bus.answers (bus.next + 1) = none
  · have hfalse : ok = false := hok.trans (decide_eq_false (fun h => h hfail))
    subst hfalse
    rw [if_pos hfail, List.append_nil]
    exact hstarts
  · have htrue : ok = true := hok.trans (decide_eq_true hfail)
    subst htrue
    have hnext : bus' = { bus with next := bus.next + 3 } := hbus rfl
    subst hnext
    rw [if_neg hfail]
    dsimp only
    cases h3 : bus.answers (bus.next + 3) with
    | none =>
      rw [readRegister_none h3]
      exact (List.append_nil _).symm
    | some b =>
      rw [readRegister_some h3]
      dsimp only
      by_cases h4 : bus.answers (bus.next + 4) = none
      · rw [writeRegister_none h4, if_pos h4]
        exact (List.append_nil _).symm
      · rw [writeRegister_some h4, if_neg h4]
        refine (calibrateAfMode_starts .internal _).trans ?_
        dsimp only
        rw [List.append_assoc]
        congr 3
        funext k
        rw [Nat.add_assoc bus.next 6 k]

/-! ## 4. The mode of what is started -/

variable {answers : Nat → Option UInt8} {mode : CalMode} {starts : List Start}

/-- Each start has the mode, and the other bits as they were read. -/
def Meets (mode : CalMode) (starts : List Start) : Prop :=
  ∀ s ∈ starts, s.written &&& calmodMask = mode.value ∧
    s.written &&& ~~~(calmodMask ||| cals) = s.before &&& ~~~(calmodMask ||| cals)

theorem Meets.nil (mode : CalMode) : Meets mode [] := by
  intro s hs
  cases hs

theorem meets_append {starts' : List Start} :
    Meets mode (starts ++ starts') ↔ Meets mode starts ∧ Meets mode starts' := by
  unfold Meets
  rw [List.forall_mem_append]

/-- One write, of which the bits are right if it is a start. -/
theorem meets_startOf {ctrl2 data : UInt8} (hmode : data &&& calmodMask = mode.value)
    (hother : data &&& ~~~(calmodMask ||| cals) = ctrl2 &&& ~~~(calmodMask ||| cals)) :
    Meets mode (startOf ctrl2 registerCtrl2 data) := by
  intro s hs
  unfold startOf at hs
  split at hs
  · rw [List.mem_singleton.1 hs]
    exact ⟨hmode, hother⟩
  · cases hs

/-- A write of another mode is right only if it is no start. -/
theorem meets_startOf_iff {ctrl2 data : UInt8} (hmode : data &&& calmodMask ≠ mode.value) :
    Meets mode (startOf ctrl2 registerCtrl2 data) ↔ ¬ hasBits cals data := by
  constructor
  · intro hmeets hset
    have hstart : startOf ctrl2 registerCtrl2 data = [⟨ctrl2, data⟩] := if_pos ⟨rfl, hset⟩
    rw [hstart] at hmeets
    exact hmode (hmeets _ (List.mem_singleton_self _)).1
  · intro hclear
    have hnone : startOf ctrl2 registerCtrl2 data = [] := if_neg fun h => hclear h.2
    rw [hnone]
    exact Meets.nil mode

theorem value_and_mask (mode : CalMode) : mode.value &&& calmodMask = mode.value := by
  cases mode <;> rfl

theorem setField_calmod (mode : CalMode) (b : UInt8) :
    setField calmodMask mode.value b &&& calmodMask = mode.value :=
  setField_and_mask.trans (value_and_mask mode)

/-- **`nau7802_calibrate_af_mode`** starts what it is called for. -/
theorem afStarts_meet (mode : CalMode) (answers : Nat → Option UInt8) :
    Meets mode (afStarts mode answers) := by
  have hother : ∀ b, setField calmodMask mode.value b &&& ~~~(calmodMask ||| cals) =
      b &&& ~~~(calmodMask ||| cals) := fun b => setField_and_other (by decide)
  have hcals : ∀ b other, other &&& cals = 0 → (b ||| cals) &&& other = b &&& other :=
    fun b other h => or_and_other h
  unfold afStarts
  split
  · exact Meets.nil mode
  · next b _ =>
    split
    · exact Meets.nil mode
    · refine meets_append.2 ⟨meets_startOf (setField_calmod mode b) (hother b), ?_⟩
      split
      · exact Meets.nil mode
      · refine meets_startOf ?_ ?_
        · rw [hcals _ _ (by decide)]
          exact setField_calmod mode b
        · rw [hcals _ _ (by decide)]
          exact hother b

/-- A transfer of the shared function fails before anything is started: the read, the preparation,
or, if the bit was not set as it was read, the write that sets it. -/
def AfStops (answers : Nat → Option UInt8) : Prop :=
  answers 0 = none ∨ answers 1 = none ∨
    (∀ b ∈ answers 0, ¬ hasBits cals b) ∧ answers 3 = none

/-- **The internal mode** is right for another only where it does not get to start. -/
theorem meets_afStarts_internal_iff (hmode : mode ≠ .internal) :
    Meets mode (afStarts .internal answers) ↔ AfStops answers := by
  have hvalue : CalMode.internal.value ≠ mode.value := by
    cases mode <;> first | exact absurd rfl hmode | decide
  unfold afStarts AfStops
  cases h0 : answers 0 with
  | none => exact iff_of_true (Meets.nil mode) (Or.inl rfl)
  | some b =>
    dsimp only
    have hwrong : setField calmodMask CalMode.internal.value b &&& calmodMask ≠ mode.value := by
      rw [setField_calmod]
      exact hvalue
    have hset : hasBits cals (setField calmodMask CalMode.internal.value b) ↔ hasBits cals b := by
      rw [hasBits, UInt8.and_comm, hasBits, UInt8.and_comm b, UInt8.and_comm cals,
        setField_and_other (by decide), UInt8.and_comm]
    by_cases h1 : answers 1 = none
    · rw [if_pos h1]
      exact iff_of_true (Meets.nil mode) (Or.inr (Or.inl h1))
    · rw [if_neg h1, meets_append, meets_startOf_iff hwrong, hset]
      by_cases h3 : answers 3 = none
      · rw [if_pos h3]
        simp [h1, h3, Meets.nil]
      · rw [if_neg h3, meets_startOf_iff]
        · have hstart : hasBits cals (setField calmodMask CalMode.internal.value b ||| cals) := by
            rw [hasBits, or_and_self]
            decide
          simp [h1, h3, hstart]
        · rw [or_and_other (by decide)]
          exact hwrong

/-- A system calibration fails before anything is started; of the preparation for an offset, which
has not the mode, that means that the bit was not set as it was read. -/
def SystemStops (mode : CalMode) (answers : Nat → Option UInt8) : Prop :=
  answers 0 = none ∨ answers 1 = none ∨ answers 3 = none ∨ answers 4 = none ∨
    (mode = .offset → ∀ b ∈ answers 3, ¬ hasBits cals b) ∧ AfStops fun k => answers (6 + k)

theorem meets_systemStarts_iff {prepare : UInt8 → UInt8} (hmode : mode ≠ .internal)
    (hprepare : ∀ b, Meets mode (startOf b registerCtrl2 (prepare b)) ↔
      (mode = .offset → ¬ hasBits cals b)) :
    Meets mode (systemStarts prepare answers) ↔ SystemStops mode answers := by
  unfold systemStarts SystemStops
  by_cases hchannel : answers 0 = none ∨ answers 1 = none
  · rw [if_pos hchannel]
    refine iff_of_true (Meets.nil mode) ?_
    rcases hchannel with h0 | h1
    · exact Or.inl h0
    · exact Or.inr (Or.inl h1)
  · rw [if_neg hchannel]
    cases h3 : answers 3 with
    | none => exact iff_of_true (Meets.nil mode) (Or.inr (Or.inr (Or.inl rfl)))
    | some b =>
      dsimp only
      by_cases h4 : answers 4 = none
      · rw [if_pos h4]
        exact iff_of_true (Meets.nil mode) (Or.inr (Or.inr (Or.inr (Or.inl h4))))
      · rw [if_neg h4, meets_append, hprepare b, meets_afStarts_internal_iff hmode]
        simp [not_or.1 hchannel, h4]

/-- The preparation for an offset has the internal mode. -/
theorem meets_prepareOffset (b : UInt8) :
    Meets .offset (startOf b registerCtrl2 (b &&& ~~~calmodMask)) ↔
      (CalMode.offset = .offset → ¬ hasBits cals b) := by
  have hmode : (b &&& ~~~calmodMask) &&& calmodMask ≠ CalMode.offset.value := by
    rw [UInt8.and_assoc, UInt8.not_and_self, UInt8.and_zero]
    decide
  have hset : hasBits cals (b &&& ~~~calmodMask) ↔ hasBits cals b := by
    have hmask : ~~~calmodMask &&& cals = cals := by decide
    rw [hasBits, hasBits, UInt8.and_assoc, hmask]
  rw [meets_startOf_iff hmode, hset]
  exact ⟨fun h _ => h, fun h => h rfl⟩

theorem meets_prepareGain (b : UInt8) :
    Meets .gain (startOf b registerCtrl2 (b ||| calmodMask)) ↔
      (CalMode.gain = .offset → ¬ hasBits cals b) := by
  refine iff_of_true (meets_startOf or_and_self (or_and_other (by decide))) ?_
  intro hno
  cases hno

/-- **Calibrations.**  Whatever the device answers, `nau7802_calibrate_af_mode` starts the mode that
it is called for, with the other bits of `CTRL2` as it has read them.  A system calibration does so
if and only if a transfer fails before it has started anything. -/
theorem calibration (answers : Nat → Option UInt8) (channel : Channel) :
    (∀ mode, Meets mode (calibrateAfMode mode (.new answers)).2.starts) ∧
      (Meets .offset (calibrateSystemOffset channel (.new answers)).2.starts ↔
        SystemStops .offset answers) ∧
      (Meets .gain (calibrateSystemGain channel (.new answers)).2.starts ↔
        SystemStops .gain answers) := by
  have hshift : (fun k => (Bus.new answers).answers ((Bus.new answers).next + k)) = answers := by
    funext k
    exact congrArg answers (Nat.zero_add k)
  refine ⟨fun mode => ?_, ?_, ?_⟩
  · rw [calibrateAfMode_starts, hshift]
    exact afStarts_meet mode answers
  · rw [calibrateSystemOffset, calibrateSystem_starts, hshift]
    exact meets_systemStarts_iff (by decide) meets_prepareOffset
  · rw [calibrateSystemGain, calibrateSystem_starts, hshift]
    exact meets_systemStarts_iff (by decide) meets_prepareGain

/-- What a device answers that has 0x30 in `CTRL2`, calibrates and is done. -/
def wellAnswered : Nat → Option UInt8
  | 9 | 10 | 11 => some 0x34
  | _ => some 0x30

/-- **An offset calibration starts the internal one.** -/
theorem offset_internal :
    ¬ ∀ answers channel, Meets .offset (calibrateSystemOffset channel (.new answers)).2.starts := by
  intro hall
  have hmeets := hall wellAnswered .channel1
  have hstart : (calibrateSystemOffset .channel1 (.new wellAnswered)).2.starts =
      [⟨0x30, 0x34⟩] := by decide
  rw [hstart] at hmeets
  exact absurd (hmeets _ (List.mem_singleton_self _)).1 (by decide)

end GroundTruth.Nau7802
