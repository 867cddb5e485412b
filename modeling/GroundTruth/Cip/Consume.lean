/-
# The data an I/O connection consumes

`SetupIoConnectionOriginatorToTargetConnectionPoint` (`cipioconnection.c`) compares the negotiated
size with the assembly, and `HandleReceivedIoConnectionData` takes a packet apart and gives the rest
to the assembly (`NotifyAssemblyConnectedDataReceived`, `cipassembly.c`).  Both allow for the
sequence count of class 1 and, with the run/idle header off, for four bytes too many: the setup by
the negotiated size, the receive path by the length of the packet, in 16 bits without a sign.

* `accepted_size`: the sizes that the setup accepts;
* `seqLeq16_iff`: what the comparison of two sequence counts says;
* `received_off`: with the header off, what a packet does to the assembly it is for;
* `io_consumption`: assembly 150 is left alone or gets the last 32 bytes of the packet, and a
  class 1 packet of the negotiated size is taken exactly when its sequence count is newer.

`data` is the pointer that the receive path gets: the bytes of the packet and whatever lies behind
them, which it reads when the packet is too short for a sequence count.
-/
import GroundTruth.Lib.Bytes
import GroundTruth.Cip.Manager

namespace GroundTruth.Cip

open GroundTruth.Lib

/-! ## 1. The assemblies and the connection -/

/-- The instances that `ApplicationInitialization` creates. -/
inductive AssemblyInstance
  | output
  | input
  | config
  deriving DecidableEq, Repr

namespace AssemblyInstance

def number : AssemblyInstance → Nat
  | output => 150
  | input => 100
  | config => 151

/-- `length` of the byte array. -/
def length : AssemblyInstance → Nat
  | output => 32
  | input => 32
  | config => 10

end AssemblyInstance

/-- `GetCipInstance` of the assembly class. -/
def getCipInstance (number : Nat) : Option AssemblyInstance :=
  [AssemblyInstance.output, .input, .config].find? fun i => decide (i.number = number)

/-- The byte arrays of the instances. -/
structure AssemblyData where
  bytes : AssemblyInstance → Bytes
  sized : ∀ i, (bytes i).length = i.length

/-- `memcpy` into the byte array of an instance. -/
def AssemblyData.copy (a : AssemblyData) (i : AssemblyInstance) (data : Bytes)
    (h : data.length = i.length) : AssemblyData where
  bytes j := if j = i then data else a.bytes j
  sized j := by
    split
    · next hj => rw [h, hj]
    · exact a.sized j

inductive TransportClass
  | class0
  | class1
  | class2
  | class3
  | invalid
  deriving DecidableEq, Repr

/-- `CipConnectionObject`, with what the consuming side reads. -/
structure IoConnection extends ConnectionObject where
  transportClassTrigger : UInt8
  oToTNetworkConnectionParameters : UInt32
  isLargeForwardOpen : Bool
  consumingInstance : Option AssemblyInstance
  sequenceCountConsuming : UInt16

namespace IoConnection

/-- `ConnectionObjectGetTransportClassTriggerTransportClass`. -/
def transportClass (c : IoConnection) : TransportClass :=
  let masked := c.transportClassTrigger &&& 0x0F
  if masked = 0 then .class0
  else if masked = 1 then .class1
  else if masked = 2 then .class2
  else if masked = 3 then .class3
  else .invalid

/-- `ConnectionObjectGetOToTConnectionSize`. -/
def oToTConnectionSize (c : IoConnection) : Nat :=
  (c.oToTNetworkConnectionParameters &&&
    (if c.isLargeForwardOpen = true then 0x0000FFFF else 0x000001FF)).toNat

end IoConnection

/-! ## 2. The setup of the consuming side -/

inductive SetupError
  | invalidConsumingApplicationPath
  /-- with `correct_originator_to_target_size` -/
  | invalidOToTConnectionSize (correct : Int)
  deriving DecidableEq, Repr

/-- `SetupIoConnectionOriginatorToTargetConnectionPoint`; `length_gap` has 16 bits. -/
def setupOriginatorToTarget (consumeRunIdle : Bool) (c : IoConnection) :
    Except SetupError IoConnection :=
  match getCipInstance c.consumedPoint with
  | none => .error .invalidConsumingApplicationPath
  | some i =>
    let sequence : Int := if c.transportClass = .class1 then 2 else 0
    let dataSize : Int := c.oToTConnectionSize - sequence
    let lengthGap : Int := (dataSize - i.length).bmod 65536
    let forced : Int := if lengthGap = 4 ∧ consumeRunIdle = false then 4 else 0
    let dataSize := dataSize - forced
    let header : Int := if consumeRunIdle = true ∧ 0 < dataSize ∧ i.length ≠ 0 then 4 else 0
    if (i.length : Int) ≠ dataSize - header then
      .error (.invalidOToTConnectionSize (i.length + (sequence + forced + header)))
    else .ok { c with consumingInstance := some i, consuming := true }

/-! ## 3. The receive path -/

inductive EipStatus
  | ok
  | error
  deriving DecidableEq, Repr

/-- What the receive path tells others. -/
inductive IoNotice
  /-- `CipIdentitySetExtendedDeviceStatus`: in run mode, or all idle -/
  | extendedDeviceStatus (run : Bool)
  /-- `RunIdleChanged` -/
  | runIdleChanged (runIdle : UInt32)
  /-- `AfterAssemblyDataReceived` -/
  | assemblyDataReceived (i : AssemblyInstance)
  deriving DecidableEq, Repr

structure IoStack where
  /-- `s_consume_run_idle` -/
  consumeRunIdle : Bool
  /-- `g_run_idle_state` -/
  runIdleState : UInt32
  assemblies : AssemblyData
  /-- newest first -/
  told : List IoNotice

/-- `SEQ_LEQ16`: the difference cast to `short`. -/
def seqLeq16 (a b : UInt16) : Bool := decide (((a.toNat : Int) - b.toNat).bmod 65536 ≤ 0)

/-- `GetUintFromMessage` at `pos`. -/
def getUintFromMessage (data : Nat → UInt8) (pos : Nat) : UInt16 :=
  glue (data (pos + 1)) (data pos)

/-- `GetUdintFromMessage` at `pos`. -/
def getUdintFromMessage (data : Nat → UInt8) (pos : Nat) : UInt32 :=
  (data pos).toUInt32 ||| ((data (pos + 1)).toUInt32 <<< 8) |||
    ((data (pos + 2)).toUInt32 <<< 16) ||| ((data (pos + 3)).toUInt32 <<< 24)

/-- The `count` bytes at `pos`. -/
def bytesAt (data : Nat → UInt8) (pos count : Nat) : Bytes :=
  (List.range count).map fun k => data (pos + k)

@[simp] theorem bytesAt_length (data : Nat → UInt8) (pos count : Nat) :
    (bytesAt data pos count).length = count := by
  simp [bytesAt]

/-- How far `data` has been advanced, and `data_length`. -/
structure Rest where
  pos : Nat
  length : UInt16
  deriving DecidableEq, Repr

/-- The sequence count of class 1: whether it is old, what is left, and the connection. -/
def takeSequence (data : Nat → UInt8) (dataLength : UInt16) (c : IoConnection) :
    Bool × Rest × IoConnection :=
  if c.transportClass = .class1 then
    let sequenceBuffer := getUintFromMessage data 0
    (seqLeq16 sequenceBuffer c.sequenceCountConsuming, ⟨2, dataLength - 2⟩,
      { c with sequenceCountConsuming := sequenceBuffer })
  else (false, ⟨0, dataLength⟩, c)

/-- The run/idle header, when there is one. -/
def takeRunIdle (data : Nat → UInt8) (rest : Rest) (s : IoStack) : Rest × IoStack :=
  if s.consumeRunIdle = true then
    let runIdleBuf := getUdintFromMessage data rest.pos
    let told := .extendedDeviceStatus (decide (runIdleBuf &&& 0x0001 = 1)) :: s.told
    let told := if s.runIdleState ≠ runIdleBuf then .runIdleChanged runIdleBuf :: told else told
    (⟨rest.pos + 4, rest.length - 4⟩, { s with runIdleState := runIdleBuf, told := told })
  else (rest, s)

/-- The four bytes that an originator puts first although there is no header. -/
def discardForced (consumeRunIdle : Bool) (i : AssemblyInstance) (rest : Rest) : Rest :=
  if consumeRunIdle = false ∧ rest.length.toNat = i.length + 4 then
    ⟨rest.pos + 4, rest.length - 4⟩
  else rest

/-- `NotifyAssemblyConnectedDataReceived`. -/
def notifyAssemblyConnectedDataReceived (i : AssemblyInstance) (data : Nat → UInt8) (rest : Rest)
    (s : IoStack) : EipStatus × IoStack :=
  if h : i.length = rest.length.toNat then
    (.ok, { s with
      assemblies := s.assemblies.copy i (bytesAt data rest.pos rest.length.toNat)
        ((bytesAt_length data rest.pos rest.length.toNat).trans h.symm)
      told := .assemblyDataReceived i :: s.told })
  else (.error, s)

/-- `HandleReceivedIoConnectionData`; `none` is a NULL `consuming_instance`. -/
def handleReceivedIoConnectionData (data : Nat → UInt8) (dataLength : UInt16) (c : IoConnection)
    (s : IoStack) : Option (EipStatus × IoConnection × IoStack) :=
  match takeSequence data dataLength c with
  | (noNewData, rest, c) =>
    if rest.length = 0 then some (.ok, c, s)
    else
      match takeRunIdle data rest s with
      | (rest, s) =>
        if noNewData = true then some (.ok, c, s)
        else
          c.consumingInstance.map fun i =>
            match notifyAssemblyConnectedDataReceived i data
              (discardForced s.consumeRunIdle i rest) s with
            | (status, s) => (status, c, s)

/-! ## 4. Sequence counts and sizes -/

/-- `a` is ahead of `b`, by less than half of the circle. -/
def Newer (a b : UInt16) : Prop := 0 < (a - b).toNat ∧ (a - b).toNat < 32768

instance (a b : UInt16) : Decidable (Newer a b) := inferInstanceAs (Decidable (_ ∧ _))

theorem seqLeq16_iff (a b : UInt16) : seqLeq16 a b = true ↔ ¬Newer a b := by
  have ha := a.toNat_lt
  have hb := b.toNat_lt
  unfold seqLeq16 Newer
  rw [decide_eq_true_iff, UInt16.toNat_sub, Int.bmod]
  omega

/-- The bytes of the sequence count. -/
def sequenceBytes (c : IoConnection) : Nat := if c.transportClass = .class1 then 2 else 0

variable {c c' : IoConnection} {i : AssemblyInstance}

/-- **The sizes that are accepted**: that of the assembly, or four bytes more. -/
theorem accepted_size : setupOriginatorToTarget false c = .ok c' ↔
    ∃ i, getCipInstance c.consumedPoint = some i ∧
      (c.oToTConnectionSize = sequenceBytes c + i.length ∨
        c.oToTConnectionSize = sequenceBytes c + i.length + 4) ∧
      c' = { c with consumingInstance := some i, consuming := true } := by
  unfold setupOriginatorToTarget
  cases getCipInstance c.consumedPoint with
  | none => simp
  | some i =>
    have hsequence : (if c.transportClass = .class1 then 2 else 0 : Int) = sequenceBytes c := by
      unfold sequenceBytes
      split <;> rfl
    simp only [hsequence, and_true, Bool.false_eq_true, false_and, if_false, Int.sub_zero,
      Option.some.injEq, exists_eq_left']
    -- the size fits, less the four bytes when the gap is four
    have hfits : (i.length : Int) = c.oToTConnectionSize - sequenceBytes c -
          (if ((c.oToTConnectionSize : Int) - sequenceBytes c - i.length).bmod 65536 = 4 then 4
            else 0) ↔
        c.oToTConnectionSize = sequenceBytes c + i.length ∨
          c.oToTConnectionSize = sequenceBytes c + i.length + 4 := by
      by_cases hgap : ((c.oToTConnectionSize : Int) - sequenceBytes c - i.length).bmod 65536 = 4
      · rw [if_pos hgap]
        rw [Int.bmod] at hgap
        omega
      · rw [if_neg hgap]
        rw [Int.bmod] at hgap
        omega
    by_cases hsize : c.oToTConnectionSize = sequenceBytes c + i.length ∨
        c.oToTConnectionSize = sequenceBytes c + i.length + 4
    · rw [if_neg (not_not_intro (hfits.2 hsize))]
      simp only [Except.ok.injEq]
      exact ⟨fun h => ⟨hsize, h.symm⟩, fun h => h.2.symm⟩
    · rw [if_pos (fun h => hsize (hfits.1 h))]
      simp [hsize]

/-- A slot is found only for a connection that consumes assembly 150. -/
theorem chooseIoConnection_consumed {o : ConnectionObject} {s : Stack}
    (h : ∀ error, chooseIoConnection configured o s ≠ .refuse error) : o.consumedPoint = 150 := by
  by_contra hother
  have hpath : 150 ≠ o.consumedPoint := Ne.symm hother
  have howner : getExclusiveOwnerConnection configured.exclusiveOwner o s = .refuse .success :=
    if_neg fun hmatch => hpath hmatch.1
  have hpool : ∀ pool unavailable,
      getPoolConnection ⟨150, 100, 151⟩ pool unavailable o s = .refuse .success :=
    fun pool unavailable => if_pos hpath
  have hinput : getInputOnlyConnection configured.inputOnly o s = .refuse .success := hpool _ _
  have hlisten : getListenOnlyConnection configured.listenOnly o s = .refuse .success := hpool _ _
  refine h .inconsistentApplicationPathCombo ?_
  rw [chooseIoConnection, howner, hinput, hlisten]
  rfl

/-! ## 5. What a packet does -/

variable {data : Nat → UInt8} {dataLength : UInt16} {s : IoStack} {a a' : AssemblyData}

theorem bytesAt_drop (data : Nat → UInt8) (pos count k : Nat) :
    (bytesAt data pos count).drop k = bytesAt data (pos + k) (count - k) := by
  apply List.ext_getElem
  · simp
  · intro j hj hj'
    simp [bytesAt, Nat.add_assoc]

/-- The instance has the last bytes of the packet, and the others what they had. -/
structure Delivered (i : AssemblyInstance) (data : Nat → UInt8) (dataLength : UInt16)
    (a a' : AssemblyData) : Prop where
  long : i.length ≤ dataLength.toNat
  bytes : a'.bytes i =
    (bytesAt data 0 dataLength.toNat).drop (dataLength.toNat - i.length)
  others : ∀ j, j ≠ i → a'.bytes j = a.bytes j

/-- What is left after the sequence count has the size of the assembly, or four bytes more. -/
def Suits (i : AssemblyInstance) (rest : Rest) : Prop :=
  rest.length.toNat = i.length ∨ rest.length.toNat = i.length + 4

/-- The whole packet is left, less the sequence count; a packet that is too short for one leaves
more than 65,000 bytes. -/
theorem takeSequence_rest (data : Nat → UInt8) (dataLength : UInt16) (c : IoConnection) :
    (takeSequence data dataLength c).2.1.pos + (takeSequence data dataLength c).2.1.length.toNat =
        dataLength.toNat ∨
      65534 ≤ (takeSequence data dataLength c).2.1.length.toNat := by
  unfold takeSequence
  split
  · have hlt := dataLength.toNat_lt
    have hsub : (dataLength - 2).toNat = (65536 - 2 + dataLength.toNat) % 65536 :=
      UInt16.toNat_sub dataLength 2
    by_cases hshort : dataLength.toNat < 2
    · refine .inr ?_
      change 65534 ≤ (dataLength - 2).toNat
      omega
    · refine .inl ?_
      change 2 + (dataLength - 2).toNat = dataLength.toNat
      omega
  · exact .inl (Nat.zero_add _)

theorem AssemblyInstance.length_le (i : AssemblyInstance) : 0 < i.length ∧ i.length ≤ 32 := by
  cases i <;> decide

/-- Given the bytes up to the end of the packet, the instance has the last ones. -/
theorem notify_delivered {rest : Rest} (hend : rest.pos + rest.length.toNat = dataLength.toNat)
    (hlen : rest.length.toNat = i.length) :
    Delivered i data dataLength s.assemblies
      (notifyAssemblyConnectedDataReceived i data rest s).2.assemblies := by
  rw [notifyAssemblyConnectedDataReceived, dif_pos hlen.symm]
  refine ⟨by omega, ?_, fun j hj => if_neg hj⟩
  have hpos : 0 + (dataLength.toNat - i.length) = rest.pos := by omega
  have hcount : dataLength.toNat - (dataLength.toNat - i.length) = rest.length.toNat := by omega
  rw [bytesAt_drop, hpos, hcount]
  exact if_pos rfl

/-- The forced header is dropped on the way. -/
theorem forced_delivered {rest : Rest} (hoff : s.consumeRunIdle = false)
    (hend : rest.pos + rest.length.toNat = dataLength.toNat) (hfits : Suits i rest) :
    Delivered i data dataLength s.assemblies
      (notifyAssemblyConnectedDataReceived i data
        (discardForced s.consumeRunIdle i rest) s).2.assemblies := by
  rcases hfits with hlen | hlen
  · have hkept : discardForced s.consumeRunIdle i rest = rest := by
      refine if_neg ?_
      rintro ⟨-, hforced⟩
      omega
    rw [hkept]
    exact notify_delivered hend hlen
  · have hdropped : discardForced s.consumeRunIdle i rest = ⟨rest.pos + 4, rest.length - 4⟩ :=
      if_pos ⟨hoff, hlen⟩
    have hle : (4 : UInt16) ≤ rest.length := by
      refine UInt16.le_iff_toNat_le.2 ?_
      rw [hlen]
      exact Nat.le_add_left 4 _
    have hsub : (rest.length - 4).toNat = rest.length.toNat - 4 := UInt16.toNat_sub_of_le _ _ hle
    rw [hdropped]
    refine notify_delivered ?_ ?_
    · change rest.pos + 4 + (rest.length - 4).toNat = dataLength.toNat
      omega
    · change (rest.length - 4).toNat = i.length
      omega

/-- Anything else is turned down. -/
theorem unfit_kept {rest : Rest} (hunfit : ¬Suits i rest) :
    (notifyAssemblyConnectedDataReceived i data
      (discardForced s.consumeRunIdle i rest) s).2.assemblies = s.assemblies := by
  have hkept : discardForced s.consumeRunIdle i rest = rest :=
    if_neg fun h => hunfit (.inr h.2)
  rw [hkept, notifyAssemblyConnectedDataReceived, dif_neg fun h => hunfit (.inl h.symm)]

/-- **A packet, with the run/idle header off**: it is taken when its sequence count is not old and
what is left of it fits; otherwise the assemblies stay as they are. -/
theorem received_off (data : Nat → UInt8) (dataLength : UInt16) (hoff : s.consumeRunIdle = false)
    (hi : c.consumingInstance = some i) :
    ∃ status c' s', handleReceivedIoConnectionData data dataLength c s = some (status, c', s') ∧
      ((takeSequence data dataLength c).1 = false ∧ Suits i (takeSequence data dataLength c).2.1 →
        Delivered i data dataLength s.assemblies s'.assemblies) ∧
      (¬((takeSequence data dataLength c).1 = false ∧
          Suits i (takeSequence data dataLength c).2.1) →
        s'.assemblies = s.assemblies) := by
  have hrest := takeSequence_rest data dataLength c
  have hinstance : (takeSequence data dataLength c).2.2.consumingInstance = some i := by
    unfold takeSequence
    split
    · exact hi
    · exact hi
  obtain ⟨hpos, hsmall⟩ := i.length_le
  unfold handleReceivedIoConnectionData
  generalize takeSequence data dataLength c = taken at hrest hinstance ⊢
  obtain ⟨noNewData, rest, c'⟩ := taken
  have hrunIdle : takeRunIdle data rest s = (rest, s) := if_neg (by simp [hoff])
  dsimp only at hrest hinstance ⊢
  rw [hrunIdle]
  dsimp only
  by_cases hempty : rest.length = 0
  · rw [if_pos hempty]
    refine ⟨_, _, _, rfl, fun ⟨_, hfits⟩ => ?_, fun _ => rfl⟩
    have hzero : rest.length.toNat = 0 := by rw [hempty]; rfl
    rcases hfits with hlen | hlen <;> omega
  · rw [if_neg hempty]
    cases noNewData with
    | true =>
      rw [if_pos rfl]
      exact ⟨_, _, _, rfl, fun h => (by cases h.1), fun _ => rfl⟩
    | false =>
      rw [if_neg (by simp), hinstance]
      refine ⟨_, _, _, rfl, fun ⟨_, hfits⟩ => ?_, fun hno => ?_⟩
      · refine forced_delivered hoff ?_ hfits
        -- a count that has wrapped does not fit
        rcases hrest with hend | hwrapped
        · exact hend
        · rcases hfits with hlen | hlen <;> omega
      · exact unfit_kept fun hfits => hno ⟨rfl, hfits⟩

/-! ## 6. What a connection takes -/

/-- The setup has found assembly 150. -/
theorem accepted_output {t : Stack} (hslot : ∀ error,
      chooseIoConnection configured c.toConnectionObject t ≠ .refuse error)
    (hsetup : setupOriginatorToTarget false c = .ok c') :
    c'.consumingInstance = some .output ∧
      (c'.oToTConnectionSize = sequenceBytes c' + 32 ∨
        c'.oToTConnectionSize = sequenceBytes c' + 32 + 4) := by
  obtain ⟨i, hi, hsize, rfl⟩ := accepted_size.1 hsetup
  rw [chooseIoConnection_consumed hslot] at hi
  obtain rfl : AssemblyInstance.output = i := Option.some.inj hi
  exact ⟨rfl, hsize⟩

/-- **Consumption.**  A connection for which a slot was found and whose consuming side was accepted
is given a packet of any length, whatever count it has got to: assembly 150 is left alone or has the
last 32 bytes of the packet; and with class 1 an old packet never changes it and a newer one of the
negotiated size always does. -/
theorem io_consumption {t : Stack} (hoff : s.consumeRunIdle = false)
    (hslot : ∀ error, chooseIoConnection configured c.toConnectionObject t ≠ .refuse error)
    (hsetup : setupOriginatorToTarget s.consumeRunIdle c = .ok c') (count : UInt16)
    (data : Nat → UInt8) (dataLength : UInt16) :
    ∃ status c'' s', handleReceivedIoConnectionData data dataLength
        { c' with sequenceCountConsuming := count } s = some (status, c'', s') ∧
      (s'.assemblies = s.assemblies ∨
        Delivered .output data dataLength s.assemblies s'.assemblies) ∧
      (c'.transportClass = .class1 →
        (Newer (getUintFromMessage data 0) count → dataLength.toNat = c'.oToTConnectionSize →
          Delivered .output data dataLength s.assemblies s'.assemblies) ∧
        (¬Newer (getUintFromMessage data 0) count → s'.assemblies = s.assemblies)) := by
  rw [hoff] at hsetup
  obtain ⟨hinstance, hsize⟩ := accepted_output hslot hsetup
  obtain ⟨status, c'', s', hrun, htaken, hkept⟩ :=
    received_off (c := { c' with sequenceCountConsuming := count }) data dataLength hoff hinstance
  refine ⟨status, c'', s', hrun, ?_, fun hclass => ⟨fun hnewer hlength => htaken ?_,
    fun hold => hkept ?_⟩⟩
  · by_cases h : (takeSequence data dataLength { c' with sequenceCountConsuming := count }).1 =
        false ∧
      Suits .output (takeSequence data dataLength { c' with sequenceCountConsuming := count }).2.1
    · exact .inr (htaken h)
    · exact .inl (hkept h)
  · have htake : takeSequence data dataLength { c' with sequenceCountConsuming := count } =
        (seqLeq16 (getUintFromMessage data 0) count, ⟨2, dataLength - 2⟩, _) := if_pos hclass
    rw [htake]
    have hbytes : sequenceBytes c' = 2 := if_pos hclass
    have hle : (2 : UInt16) ≤ dataLength := by
      refine UInt16.le_iff_toNat_le.2 ?_
      change 2 ≤ dataLength.toNat
      omega
    have hsub : (dataLength - 2).toNat = dataLength.toNat - 2 := UInt16.toNat_sub_of_le _ _ hle
    refine ⟨?_, ?_⟩
    · cases hseq : seqLeq16 (getUintFromMessage data 0) count with
      | false => rfl
      | true => exact absurd hnewer ((seqLeq16_iff _ _).1 hseq)
    · change (dataLength - 2).toNat = 32 ∨ (dataLength - 2).toNat = 32 + 4
      omega
  · have htake : takeSequence data dataLength { c' with sequenceCountConsuming := count } =
        (seqLeq16 (getUintFromMessage data 0) count, ⟨2, dataLength - 2⟩, _) := if_pos hclass
    rw [htake, (seqLeq16_iff _ _).2 hold]
    rintro ⟨hfresh, -⟩
    cases hfresh

/-- A class 1 connection of 38 bytes: a sequence count, four bytes too many and the assembly. -/
def forcedConnection : IoConnection where
  toConnectionObject := { ConnectionObject.empty with consumedPoint := 150, producedPoint := 100 }
  transportClassTrigger := 0x01
  oToTNetworkConnectionParameters := 38
  isLargeForwardOpen := false
  consumingInstance := none
  sequenceCountConsuming := 0

def idleStack : IoStack where
  consumeRunIdle := false
  runIdleState := 0
  assemblies := ⟨fun i => List.replicate i.length 0, fun _ => List.length_replicate⟩
  told := []

theorem io_consumption_forced : ∃ c' status c'' s',
    setupOriginatorToTarget false forcedConnection = .ok c' ∧
      handleReceivedIoConnectionData UInt8.ofNat 38 { c' with sequenceCountConsuming := 0 }
        idleStack = some (status, c'', s') ∧
      s'.assemblies.bytes .output = (List.range 32).map fun k => UInt8.ofNat (6 + k) := by
  have hslot : ∀ error, chooseIoConnection configured forcedConnection.toConnectionObject
      Stack.init ≠ .refuse error := by
    have htake : chooseIoConnection configured forcedConnection.toConnectionObject Stack.init =
        .take .exclusiveOwner := by decide +kernel
    intro error
    rw [htake]
    exact Choice.noConfusion
  have hsetup : setupOriginatorToTarget false forcedConnection = .ok _ :=
    accepted_size.2 ⟨.output, rfl, .inr (by decide), rfl⟩
  obtain ⟨status, c'', s', hrun, -, hclass⟩ :=
    io_consumption (s := idleStack) rfl hslot hsetup 0 UInt8.ofNat 38
  have hdelivered := (hclass rfl).1 (by decide) rfl
  exact ⟨_, status, c'', s', hsetup, hrun, hdelivered.bytes⟩

end GroundTruth.Cip
