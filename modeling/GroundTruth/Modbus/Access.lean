/-
# What a Modbus request may touch

A request names a range of registers, and there are three windows it can lie in: input registers 0
to 15, holding registers 100 to 115 and 150 to 154.  `modbus_protocol.c` looks at the form of the
request and `modbus_register_map.c` at its range, before it touches a byte.

* `readRegisters_pairSwapped`, `writeRegisters_byte`: what the loops of the map do to the bytes of
  one assembly;
* `readInput_some`, `readHolding_some`, `writeHolding_some`, and the same with `_none`: each
  function of the map in terms of the windows;
* `respond_served`, `respond_refused`: the handlers, with and without the condition;
* `access_contract`: a request succeeds exactly when it is well formed, its range lies in a window
  and the assembly mutex is there; then a read answers with the bytes of the range, the two of each
  register exchanged, and a write changes these bytes and no others; an exception changes nothing.

The mutex is part of the condition by design: the map asks for it at each access and answers with
an exception when there is none (`access_without_mutex`).
-/
import GroundTruth.Modbus.Protocol

namespace GroundTruth.Modbus

open GroundTruth.Lib

/-! ## 1. The windows of the map -/

inductive Window
  | input
  | output
  | config
  deriving DecidableEq, Repr

namespace Window

def first : Window → Nat
  | .input => 0
  | .output => holdingRegOutputStart
  | .config => holdingRegConfigStart

def last : Window → Nat
  | .input => inputRegEnd
  | .output => holdingRegOutputEnd
  | .config => holdingRegConfigEnd

/-- The whole range lies in the window. -/
def Covers (w : Window) (start quantity : UInt16) : Prop :=
  w.first ≤ start.toNat ∧ start.toNat + quantity.toNat ≤ w.last + 1

instance (w : Window) (start quantity : UInt16) : Decidable (w.Covers start quantity) :=
  inferInstanceAs (Decidable (_ ∧ _))

/-- Where the range begins in the assembly of the window. -/
def offset (w : Window) (start : UInt16) : Nat := 2 * (start.toNat - w.first)

end Window

/-- The assembly a window shows. -/
def Assemblies.image (a : Assemblies) : Window → Bytes
  | .input => a.data064.toList
  | .output => a.data096.toList
  | .config => a.data097.toList

/-- The two bytes of each register exchanged. -/
def pairSwapped : Bytes → Bytes
  | b0 :: b1 :: rest => b1 :: b0 :: pairSwapped rest
  | rest => rest

/-- The assembly bytes of a range. -/
def Assemblies.range (a : Assemblies) (w : Window) (start quantity : UInt16) : Bytes :=
  ((a.image w).drop (w.offset start)).take (2 * quantity.toNat)

/-- The range of `w` holds the caller's bytes, and everything else is as it was. -/
structure Written (w : Window) (start quantity : UInt16) (data : Bytes) (a a' : Assemblies) :
    Prop where
  bytes : ∀ v j, (a'.image v).getD j 0 =
    if v = w ∧ w.offset start ≤ j ∧ j < w.offset start + 2 * quantity.toNat then
      data.getD (j - w.offset start) 0
    else (a.image v).getD j 0
  mutex : a'.mutex = a.mutex

/-! ## 2. The loops of the map -/

variable {n : Nat}

theorem readRegisters_cons (mem : Vector UInt8 n) (regOffset quantity : Nat) :
    readRegisters mem regOffset (quantity + 1) =
      fetchRegister mem regOffset ++ readRegisters mem (regOffset + 1) quantity := by
  have hshift : (fun i => fetchRegister mem (regOffset + i.succ)) =
      fun i => fetchRegister mem (regOffset + 1 + i) := by
    funext i
    rw [Nat.succ_eq_add_one, Nat.add_comm i 1, Nat.add_assoc]
  rw [readRegisters, List.range_succ_eq_map, List.flatMap_cons, List.flatMap_map, hshift]
  rfl

/-- **A read**: the bytes of the range, the two of each register exchanged. -/
theorem readRegisters_pairSwapped (mem : Vector UInt8 n) (regOffset quantity : Nat)
    (h : (regOffset + quantity) * 2 ≤ n) :
    readRegisters mem regOffset quantity =
      pairSwapped ((mem.toList.drop (2 * regOffset)).take (2 * quantity)) := by
  induction quantity generalizing regOffset with
  | zero => rfl
  | succ quantity ih =>
    have hreg : regOffset * 2 + 1 < n := by omega
    have h0 : 2 * regOffset < mem.toList.length := by
      rw [Vector.length_toList]
      omega
    have h1 : 2 * regOffset + 1 < mem.toList.length := by
      rw [Vector.length_toList]
      omega
    have hnext : 2 * regOffset + 1 + 1 = 2 * (regOffset + 1) := by omega
    have hindex : regOffset * 2 = 2 * regOffset := by omega
    have htake : 2 * (quantity + 1) = 2 * quantity + 1 + 1 := by omega
    rw [readRegisters_cons, ih (regOffset + 1) (by omega), fetchRegister, dif_pos hreg,
      List.drop_eq_getElem_cons h0, List.drop_eq_getElem_cons h1, hnext, htake]
    simp [pairSwapped, hindex]

/-- **A write**: the caller's bytes in the range, and the rest of the assembly as it was. -/
theorem writeRegisters_byte (mem : Vector UInt8 n) (regOffset quantity : Nat) (data : Bytes)
    (h : (regOffset + quantity) * 2 ≤ n) (j : Nat) :
    (writeRegisters mem regOffset quantity data).toList.getD j 0 =
      if 2 * regOffset ≤ j ∧ j < 2 * regOffset + 2 * quantity then
        data.getD (j - 2 * regOffset) 0
      else mem.toList.getD j 0 := by
  by_cases hj : j < n
  · have hcell := writeRegisters_get mem regOffset quantity data h hj
    have hleft : regOffset * 2 = 2 * regOffset := by omega
    have hright : (regOffset + quantity) * 2 = 2 * regOffset + 2 * quantity := by omega
    rw [hleft, hright] at hcell
    simpa [List.getD_eq_getElem?_getD, hj] using hcell
  · have hout : ¬(2 * regOffset ≤ j ∧ j < 2 * regOffset + 2 * quantity) := by omega
    rw [if_neg hout]
    simp [List.getD_eq_getElem?_getD, hj]

/-! ## 3. The functions of the map -/

section Map

variable {start quantity : UInt16} {w : Window} {a : Assemblies}

/-- The holding windows: `inBlock` is what the code tests. -/
theorem covers_output : inBlock start quantity holdingRegOutputStart holdingRegOutputEnd = true ↔
    Window.output.Covers start quantity := inBlock_iff

theorem covers_config : inBlock start quantity holdingRegConfigStart holdingRegConfigEnd = true ↔
    Window.config.Covers start quantity := inBlock_iff

/-- The second test is only made when the first fails, and no range meets both. -/
theorem Window.Covers.not_output (h : Window.config.Covers start quantity) :
    ¬Window.output.Covers start quantity := by
  intro hout
  have hfirst : 150 ≤ start.toNat := h.1
  have hlast : start.toNat + quantity.toNat ≤ 116 := hout.2
  omega

theorem readInput_some (hq : quantity ≠ 0) (h : Window.input.Covers start quantity)
    (hm : a.mutex = true) : modbusReadInputRegisters start quantity a =
      some (pairSwapped (a.range .input start quantity)) := by
  have hlast : start.toNat + quantity.toNat ≤ 16 := h.2
  have hpos : 0 < quantity.toNat := by
    refine Nat.pos_of_ne_zero fun hzero => hq (UInt16.toNat_inj.1 hzero)
  have hinside : ¬(start.toNat > inputRegEnd ∨ quantity = 0 ∨
      start.toNat + quantity.toNat > inputRegEnd + 1) := by
    rintro (hout | hzero | hout)
    · have hgt : start.toNat > 15 := hout
      omega
    · exact hq hzero
    · have hgt : start.toNat + quantity.toNat > 16 := hout
      omega
  rw [modbusReadInputRegisters, if_neg hinside, if_neg (by simp [hm]),
    readRegisters_pairSwapped a.data064 _ _ (by omega)]
  rfl

theorem readInput_none (h : ¬(Window.input.Covers start quantity ∧ a.mutex = true)) :
    modbusReadInputRegisters start quantity a = none := by
  unfold modbusReadInputRegisters
  split
  · rfl
  · rename_i hinside
    have hcovers : Window.input.Covers start quantity := by
      refine ⟨Nat.zero_le _, ?_⟩
      exact Nat.le_of_not_lt fun hgt => hinside (.inr (.inr hgt))
    have hmutex : a.mutex = false := by
      cases hm : a.mutex with
      | false => rfl
      | true => exact absurd ⟨hcovers, hm⟩ h
    rw [if_pos hmutex]

theorem readHolding_some (hw : w ≠ .input) (h : w.Covers start quantity) (hm : a.mutex = true) :
    modbusReadHoldingRegisters start quantity a =
      some (pairSwapped (a.range w start quantity)) := by
  have hm' : ¬a.mutex = false := by simp [hm]
  cases w with
  | input => exact absurd rfl hw
  | output =>
    have hfirst : 100 ≤ start.toNat := h.1
    have hlast : start.toNat + quantity.toNat ≤ 116 := h.2
    rw [modbusReadHoldingRegisters, if_pos (covers_output.2 h), if_neg hm',
      readRegisters_pairSwapped a.data096 _ _ (by simp only [holdingRegOutputStart]; omega)]
    rfl
  | config =>
    have hfirst : 150 ≤ start.toNat := h.1
    have hlast : start.toNat + quantity.toNat ≤ 155 := h.2
    rw [modbusReadHoldingRegisters, if_neg (fun hout => h.not_output (covers_output.1 hout)),
      if_pos (covers_config.2 h), if_neg hm',
      readRegisters_pairSwapped a.data097 _ _ (by simp only [holdingRegConfigStart]; omega)]
    rfl

/-- With the mutex there, what is refused is in neither of the two ranges. -/
theorem outside_holding
    (h : ¬((∃ w : Window, w ≠ .input ∧ w.Covers start quantity) ∧ a.mutex = true))
    (hmutex : a.mutex = true) :
    ¬inBlock start quantity holdingRegOutputStart holdingRegOutputEnd = true ∧
      ¬inBlock start quantity holdingRegConfigStart holdingRegConfigEnd = true :=
  ⟨fun hin => h ⟨⟨.output, by decide, covers_output.1 hin⟩, hmutex⟩,
    fun hin => h ⟨⟨.config, by decide, covers_config.1 hin⟩, hmutex⟩⟩

theorem readHolding_none
    (h : ¬((∃ w : Window, w ≠ .input ∧ w.Covers start quantity) ∧ a.mutex = true)) :
    modbusReadHoldingRegisters start quantity a = none := by
  unfold modbusReadHoldingRegisters
  by_cases hm : a.mutex = false
  · simp [hm]
  · obtain ⟨houtput, hconfig⟩ := outside_holding h (by simpa using hm)
    rw [if_neg houtput, if_neg hconfig]

theorem writeHolding_some (hw : w ≠ .input) (h : w.Covers start quantity) (hm : a.mutex = true)
    (data : Bytes) : ∃ a', modbusWriteHoldingRegisters start quantity data a = some a' ∧
      Written w start quantity data a a' := by
  have hm' : ¬a.mutex = false := by simp [hm]
  cases w with
  | input => exact absurd rfl hw
  | output =>
    have hfirst : 100 ≤ start.toNat := h.1
    have hlast : start.toNat + quantity.toNat ≤ 116 := h.2
    refine ⟨{ a with
      data096 := writeRegisters a.data096 (start.toNat - holdingRegOutputStart) quantity.toNat
        data }, ?_, fun v j => ?_, rfl⟩
    · rw [modbusWriteHoldingRegisters, if_pos (covers_output.2 h), if_neg hm']
    · cases v with
      | input => exact (if_neg (by simp)).symm
      | config => exact (if_neg (by simp)).symm
      | output =>
        have hbyte := writeRegisters_byte a.data096 (start.toNat - holdingRegOutputStart)
          quantity.toNat data (by simp only [holdingRegOutputStart]; omega) j
        exact hbyte.trans (if_congr ⟨fun hin => ⟨rfl, hin⟩, And.right⟩ rfl rfl)
  | config =>
    have hfirst : 150 ≤ start.toNat := h.1
    have hlast : start.toNat + quantity.toNat ≤ 155 := h.2
    refine ⟨{ a with
      data097 := writeRegisters a.data097 (start.toNat - holdingRegConfigStart) quantity.toNat
        data }, ?_, fun v j => ?_, rfl⟩
    · rw [modbusWriteHoldingRegisters, if_neg (fun hout => h.not_output (covers_output.1 hout)),
        if_pos (covers_config.2 h), if_neg hm']
    · cases v with
      | input => exact (if_neg (by simp)).symm
      | output => exact (if_neg (by simp)).symm
      | config =>
        have hbyte := writeRegisters_byte a.data097 (start.toNat - holdingRegConfigStart)
          quantity.toNat data (by simp only [holdingRegConfigStart]; omega) j
        exact hbyte.trans (if_congr ⟨fun hin => ⟨rfl, hin⟩, And.right⟩ rfl rfl)

theorem writeHolding_none
    (h : ¬((∃ w : Window, w ≠ .input ∧ w.Covers start quantity) ∧ a.mutex = true)) (data : Bytes) :
    modbusWriteHoldingRegisters start quantity data a = none := by
  unfold modbusWriteHoldingRegisters
  by_cases hm : a.mutex = false
  · simp [hm]
  · obtain ⟨houtput, hconfig⟩ := outside_holding h (by simpa using hm)
    rw [if_neg houtput, if_neg hconfig]

end Map

/-! ## 4. Requests -/

/-- The four functions, and what their requests say. -/
inductive Access
  | readHolding
  | readInput
  | writeSingle
  | writeMultiple
  deriving DecidableEq, Repr

namespace Access

def code : Access → UInt8
  | readHolding => fcReadHoldingRegisters
  | readInput => fcReadInputRegisters
  | writeSingle => fcWriteSingleRegister
  | writeMultiple => fcWriteMultipleRegisters

/-- The windows the function is about. -/
def Reaches : Access → Window → Prop
  | readInput, w => w = .input
  | readHolding, w | writeSingle, w | writeMultiple, w => w ≠ .input

/-- Nothing of the request is missing. -/
def Complete (f : Access) (pdu : Bytes) : Prop :=
  match f with
  | readHolding | readInput | writeSingle => 4 ≤ pdu.length
  | writeMultiple => 5 + (pdu.getD 4 0).toNat ≤ pdu.length

def quantity (f : Access) (pdu : Bytes) : UInt16 :=
  match f with
  | writeSingle => 1
  | readHolding | readInput | writeMultiple => field pdu 2

/-- The bytes to be written. -/
def data (f : Access) (pdu : Bytes) : Bytes :=
  match f with
  | readHolding | readInput => []
  | writeSingle => wire [field pdu 2]
  | writeMultiple => pdu.drop 5

def WellFormed (f : Access) (pdu : Bytes) : Prop :=
  match f with
  | readHolding | readInput => 1 ≤ (field pdu 2).toNat ∧ (field pdu 2).toNat ≤ 125
  | writeSingle => True
  | writeMultiple =>
    (1 ≤ (field pdu 2).toNat ∧ (field pdu 2).toNat ≤ 123) ∧
      (pdu.getD 4 0).toNat = 2 * (field pdu 2).toNat

/-- The whole range lies in one window of the function. -/
def InWindow (f : Access) (pdu : Bytes) : Prop :=
  ∃ w, f.Reaches w ∧ w.Covers (field pdu 0) (f.quantity pdu)

end Access

/-- The high bit of the function code tells an exception. -/
def isException (response : Bytes) : Bool := decide (0x80 ≤ response.getD 7 0)

variable {f : Access} {transactionId : UInt16} {unitId : UInt8} {pdu : Bytes} {a : Assemblies}

/-- A request that was carried out, with the window it lay in. -/
def Served (f : Access) (transactionId : UInt16) (unitId : UInt8) (pdu : Bytes) (a : Assemblies)
    (r : Assemblies × Bytes) : Prop :=
  ∃ w, f.Reaches w ∧ w.Covers (field pdu 0) (f.quantity pdu) ∧
    match f with
    | .readHolding | .readInput =>
      r = (a, readResponse transactionId unitId f.code
        (pairSwapped (a.range w (field pdu 0) (f.quantity pdu))))
    | .writeSingle | .writeMultiple =>
      Written w (field pdu 0) (f.quantity pdu) (f.data pdu) a r.1 ∧
        r.2 = writeResponse transactionId unitId f.code (field pdu 0) (field pdu 2)

/-- A request that was not. -/
def Refused (f : Access) (transactionId : UInt16) (unitId : UInt8) (a : Assemblies)
    (r : Assemblies × Bytes) : Prop :=
  r.1 = a ∧ ∃ exceptionCode, r.2 = sendException transactionId unitId f.code exceptionCode

theorem Served.isException {r : Assemblies × Bytes} (h : Served f transactionId unitId pdu a r) :
    isException r.2 = false := by
  obtain ⟨w, -, -, h⟩ := h
  cases f with
  | readHolding => rw [h]; rfl
  | readInput => rw [h]; rfl
  | writeSingle => rw [h.2]; rfl
  | writeMultiple => rw [h.2]; rfl

theorem Refused.isException {r : Assemblies × Bytes} (h : Refused f transactionId unitId a r) :
    isException r.2 = true := by
  obtain ⟨-, ex, h⟩ := h
  rw [h]
  cases f <;> rfl

/-! ## 5. The contract -/

/-- What the two read handlers do with a request in its proper form. -/
theorem handleRead_wellFormed {functionCode : UInt8}
    {readMap : UInt16 → UInt16 → Assemblies → Option Bytes} (hlen : 4 ≤ pdu.length)
    (hq : 1 ≤ (field pdu 2).toNat ∧ (field pdu 2).toNat ≤ 125) :
    handleRead functionCode readMap transactionId unitId pdu a =
      match readMap (field pdu 0) (field pdu 2) a with
      | none => sendException transactionId unitId functionCode exIllegalDataAddress
      | some data => readResponse transactionId unitId functionCode data := by
  have hquantity : ¬(field pdu 2 = 0 ∨ 125 < field pdu 2) := by
    rintro (hzero | hmany)
    · rw [hzero] at hq
      exact absurd hq.1 (by decide)
    · have hlt : 125 < (field pdu 2).toNat := UInt16.lt_iff_toNat_lt.1 hmany
      omega
  rw [handleRead, if_neg (by omega)]
  dsimp only
  rw [if_neg hquantity]
  exact if_neg (by omega)

theorem handleRead_malformed {functionCode : UInt8}
    {readMap : UInt16 → UInt16 → Assemblies → Option Bytes} (hlen : 4 ≤ pdu.length)
    (hq : ¬(1 ≤ (field pdu 2).toNat ∧ (field pdu 2).toNat ≤ 125)) :
    handleRead functionCode readMap transactionId unitId pdu a =
      sendException transactionId unitId functionCode exIllegalDataValue := by
  have hquantity : field pdu 2 = 0 ∨ 125 < field pdu 2 := by
    by_cases hzero : (field pdu 2).toNat = 0
    · exact .inl (UInt16.toNat_inj.1 hzero)
    · refine .inr (UInt16.lt_iff_toNat_lt.2 ?_)
      have hlt : 125 < (field pdu 2).toNat := by omega
      exact hlt
  rw [handleRead, if_neg (by omega)]
  dsimp only
  rw [if_pos hquantity]

theorem handleWriteMultipleRegisters_wellFormed (hlen : Access.writeMultiple.Complete pdu)
    (hwf : Access.writeMultiple.WellFormed pdu) :
    handleWriteMultipleRegisters transactionId unitId pdu a =
      match modbusWriteHoldingRegisters (field pdu 0) (field pdu 2) (pdu.drop 5) a with
      | none =>
        (a, sendException transactionId unitId fcWriteMultipleRegisters exIllegalDataAddress)
      | some a' => (a', writeResponse transactionId unitId fcWriteMultipleRegisters
        (field pdu 0) (field pdu 2)) := by
  obtain ⟨hq, hbytes⟩ := hwf
  have hwhole : 5 + (pdu.getD 4 0).toNat ≤ pdu.length := hlen
  have hform : ¬(field pdu 2 = 0 ∨ 123 < field pdu 2 ∨
      (pdu.getD 4 0).toNat ≠ (field pdu 2).toNat * 2 ∨
      pdu.length < 5 + (pdu.getD 4 0).toNat) := by
    rintro (hzero | hmany | hcount | hshort)
    · rw [hzero] at hq
      exact absurd hq.1 (by decide)
    · have hlt : 123 < (field pdu 2).toNat := UInt16.lt_iff_toNat_lt.1 hmany
      omega
    · omega
    · omega
  rw [handleWriteMultipleRegisters, if_neg (by omega)]
  exact if_neg hform

theorem handleWriteMultipleRegisters_malformed (hwf : ¬Access.writeMultiple.WellFormed pdu) :
    handleWriteMultipleRegisters transactionId unitId pdu a =
      (a, sendException transactionId unitId fcWriteMultipleRegisters exIllegalDataValue) := by
  have hform : field pdu 2 = 0 ∨ 123 < field pdu 2 ∨
      (pdu.getD 4 0).toNat ≠ (field pdu 2).toNat * 2 ∨
      pdu.length < 5 + (pdu.getD 4 0).toNat := by
    by_cases hzero : (field pdu 2).toNat = 0
    · exact .inl (UInt16.toNat_inj.1 hzero)
    · by_cases hmany : 123 < (field pdu 2).toNat
      · exact .inr (.inl (UInt16.lt_iff_toNat_lt.2 hmany))
      · refine .inr (.inr (.inl fun hcount => hwf ⟨⟨?_, ?_⟩, ?_⟩)) <;> omega
  unfold handleWriteMultipleRegisters
  split
  · rfl
  · dsimp only
    rw [if_pos hform]

/-- **What is granted is done.** -/
theorem respond_served (hlen : f.Complete pdu) (hwf : f.WellFormed pdu) (hin : f.InWindow pdu)
    (hm : a.mutex = true) :
    Served f transactionId unitId pdu a (respond transactionId unitId f.code pdu a) := by
  obtain ⟨w, hw, hcovers⟩ := hin
  refine ⟨w, hw, hcovers, ?_⟩
  cases f with
  | readHolding =>
    have hread : modbusReadHoldingRegisters (field pdu 0) (field pdu 2) a = some _ :=
      readHolding_some hw hcovers hm
    change (a, handleRead _ _ _ _ _ _) = _
    rw [handleRead_wellFormed hlen hwf, hread]
    rfl
  | readInput =>
    obtain rfl : w = .input := hw
    have hq : field pdu 2 ≠ 0 := by
      intro hzero
      have hpos := hwf.1
      rw [hzero] at hpos
      exact absurd hpos (by decide)
    change (a, handleRead _ _ _ _ _ _) = _
    rw [handleRead_wellFormed hlen hwf, readInput_some hq hcovers hm]
    rfl
  | writeSingle =>
    obtain ⟨a', hwrite, hwritten⟩ := writeHolding_some hw hcovers hm (wire [field pdu 2])
    have hsingle : modbusWriteHoldingRegister (field pdu 0) (field pdu 2) a = some a' := hwrite
    have hlen4 : 4 ≤ pdu.length := hlen
    change Written _ _ _ _ _ (handleWriteSingleRegister _ _ _ _).1 ∧
      (handleWriteSingleRegister _ _ _ _).2 = _
    rw [handleWriteSingleRegister, if_neg (by omega)]
    dsimp only
    rw [hsingle]
    exact ⟨hwritten, rfl⟩
  | writeMultiple =>
    obtain ⟨a', hwrite, hwritten⟩ := writeHolding_some hw hcovers hm (pdu.drop 5)
    have hmultiple : modbusWriteHoldingRegisters (field pdu 0) (field pdu 2) (pdu.drop 5) a =
      some a' := hwrite
    change Written _ _ _ _ _ (handleWriteMultipleRegisters _ _ _ _).1 ∧
      (handleWriteMultipleRegisters _ _ _ _).2 = _
    rw [handleWriteMultipleRegisters_wellFormed hlen hwf, hmultiple]
    exact ⟨hwritten, rfl⟩

/-- **What is not granted leaves the assemblies alone.** -/
theorem respond_refused (hlen : f.Complete pdu)
    (hno : ¬((f.WellFormed pdu ∧ f.InWindow pdu) ∧ a.mutex = true)) :
    Refused f transactionId unitId a (respond transactionId unitId f.code pdu a) := by
  cases f with
  | readHolding =>
    refine ⟨rfl, ?_⟩
    change ∃ ex, handleRead _ _ _ _ _ _ = _
    by_cases hwf : Access.readHolding.WellFormed pdu
    · have hread : modbusReadHoldingRegisters (field pdu 0) (field pdu 2) a = none :=
        readHolding_none fun hin => hno ⟨⟨hwf, hin.1⟩, hin.2⟩
      rw [handleRead_wellFormed hlen hwf, hread]
      exact ⟨_, rfl⟩
    · rw [handleRead_malformed hlen hwf]
      exact ⟨_, rfl⟩
  | readInput =>
    refine ⟨rfl, ?_⟩
    change ∃ ex, handleRead _ _ _ _ _ _ = _
    by_cases hwf : Access.readInput.WellFormed pdu
    · have hread : modbusReadInputRegisters (field pdu 0) (field pdu 2) a = none :=
        readInput_none fun hin => hno ⟨⟨hwf, _, rfl, hin.1⟩, hin.2⟩
      rw [handleRead_wellFormed hlen hwf, hread]
      exact ⟨_, rfl⟩
    · rw [handleRead_malformed hlen hwf]
      exact ⟨_, rfl⟩
  | writeSingle =>
    have hlen4 : 4 ≤ pdu.length := hlen
    have hnone : modbusWriteHoldingRegister (field pdu 0) (field pdu 2) a = none :=
      writeHolding_none (fun hin => hno ⟨⟨trivial, hin.1⟩, hin.2⟩) _
    change Refused _ _ _ _ (handleWriteSingleRegister _ _ _ _)
    rw [handleWriteSingleRegister, if_neg (by omega)]
    dsimp only
    rw [hnone]
    exact ⟨rfl, _, rfl⟩
  | writeMultiple =>
    change Refused _ _ _ _ (handleWriteMultipleRegisters _ _ _ _)
    by_cases hwf : Access.writeMultiple.WellFormed pdu
    · have hwrite : modbusWriteHoldingRegisters (field pdu 0) (field pdu 2) (pdu.drop 5) a = none :=
        writeHolding_none (fun hin => hno ⟨⟨hwf, hin.1⟩, hin.2⟩) _
      rw [handleWriteMultipleRegisters_wellFormed hlen hwf, hwrite]
      exact ⟨rfl, _, rfl⟩
    · rw [handleWriteMultipleRegisters_malformed hwf]
      exact ⟨rfl, _, rfl⟩

/-- **The contract** of a complete request with one of the four functions: it succeeds exactly when
it is well formed, lies in a window and there is a mutex to take; and what it does then, and when
it does not. -/
theorem access_contract (f : Access) (transactionId : UInt16) (unitId : UInt8) (pdu : Bytes)
    (a : Assemblies) (hlen : f.Complete pdu) :
    (isException (respond transactionId unitId f.code pdu a).2 = false ↔
      (f.WellFormed pdu ∧ f.InWindow pdu) ∧ a.mutex = true) ∧
    (isException (respond transactionId unitId f.code pdu a).2 = false →
      Served f transactionId unitId pdu a (respond transactionId unitId f.code pdu a)) ∧
    (isException (respond transactionId unitId f.code pdu a).2 = true →
      Refused f transactionId unitId a (respond transactionId unitId f.code pdu a)) := by
  by_cases hgranted : (f.WellFormed pdu ∧ f.InWindow pdu) ∧ a.mutex = true
  · have hserved : Served f transactionId unitId pdu a
        (respond transactionId unitId f.code pdu a) :=
      respond_served hlen hgranted.1.1 hgranted.1.2 hgranted.2
    have hok := hserved.isException
    refine ⟨iff_of_true hok hgranted, fun _ => hserved, fun hex => ?_⟩
    rw [hok] at hex
    cases hex
  · have hrefused : Refused f transactionId unitId a
        (respond transactionId unitId f.code pdu a) := respond_refused hlen hgranted
    have hex := hrefused.isException
    refine ⟨iff_of_false ?_ hgranted, fun hok => ?_, fun _ => hrefused⟩
    · rw [hex]
      exact Bool.noConfusion
    · rw [hex] at hok
      cases hok

/-- FC16 writes the last two registers of the second block. -/
def lastTwo : Bytes := wire [153, 2] ++ [4] ++ wire [0x1122, 0x3344]

theorem access_contract_write :
    Served .writeMultiple 1 1 lastTwo Assemblies.zero
      (respond 1 1 fcWriteMultipleRegisters lastTwo Assemblies.zero) := by
  have hlen : Access.writeMultiple.Complete lastTwo := Nat.le_refl 9
  exact (access_contract .writeMultiple 1 1 lastTwo Assemblies.zero hlen).2.1 (by decide +kernel)

/-- Without the mutex a request in its proper form and inside a window is refused. -/
theorem access_without_mutex :
    ¬∀ (f : Access) (transactionId : UInt16) (unitId : UInt8) (pdu : Bytes) (a : Assemblies),
      f.Complete pdu →
        (isException (respond transactionId unitId f.code pdu a).2 = false ↔
          f.WellFormed pdu ∧ f.InWindow pdu) := by
  intro hall
  have hin : Access.readHolding.InWindow (readPdu 100 1) :=
    ⟨.output, (by decide : Window.output ≠ .input), by decide⟩
  have hok := (hall .readHolding 1 1 (readPdu 100 1) { Assemblies.zero with mutex := false }
    (Nat.le_refl 4)).2 ⟨⟨by decide, by decide⟩, hin⟩
  exact absurd hok (by decide)

end GroundTruth.Modbus
