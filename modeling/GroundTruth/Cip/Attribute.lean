/-
# Attribute tables, and the services that read them: `cipcommon.c`

The instances of a class have one slot for each attribute, and share two bit masks that say which
attribute numbers may be read, one by one or all at once.  `InsertAttribute` fills the next free
slot and adds the number to the masks.  `GetAttributeAll` goes through the numbers by the mask and
looks each of them up; `GetAttributeSingle` looks one up, and has callbacks around it.

What is behind the data pointers is a state `σ`; an encoder writes it to a message that has some
length already, and may go by that length.

* `Built`: what a table is that was made by insertions, and `built_of_exec` that it is that;
* `Built.getAttributeSingle_eq`, `Built.getAttributeAll_eq`: what the services answer;
* `Built.getAttributeAll_agrees`: the two of them agree.

A callback before the reading belongs to `GetAttributeSingle` (so says the comment at the field),
and `GetAttributeAll` does not call it.

The encoders write to a buffer of 512 bytes and do not look for its end, as `GetAttributeList` does
before it calls one.  What `GetAttributeAll` does beyond the end is not defined here.
-/
import GroundTruth.Lib.Mask
import GroundTruth.Lib.Run
import GroundTruth.Lib.Words

namespace GroundTruth.Cip

open GroundTruth.Lib

/-! ## 1. Tables -/

/-- `PC_OPENER_ETHERNET_BUFFER_SIZE`, the length of `message_buffer` in an `ENIPMessage`. -/
def messageBufferSize : Nat := 512

/-- What an `encode` function appends to a message of a length, for the data as it is. -/
abbrev Encoder (σ : Type) := σ → Nat → Bytes

/-- `CipAttributeStruct`; without an encoder its data pointer is `NULL`, and it is a free slot. -/
structure CipAttributeStruct (σ : Type) where
  attributeNumber : UInt16
  attributeFlags : UInt8
  encode : Option (Encoder σ)

structure CipInstance (σ : Type) where
  instanceNumber : UInt16
  attributes : List (CipAttributeStruct σ)

/-- A `CipGetSetCallback`: the instance, the attribute and the service, by their numbers. -/
abbrev GetCallback (σ : Type) := UInt16 → UInt16 → UInt8 → σ → σ

/-- `CipClass`, as it serves its instances.  A meta class has the class itself for its one
instance. -/
structure CipClass (σ : Type) where
  numberOfAttributes : Nat
  highestAttributeNumber : UInt16
  getSingleBitMask : Bytes
  getAllBitMask : Bytes
  instances : List (CipInstance σ)
  preGetCallback : Option (GetCallback σ)
  postGetCallback : Option (GetCallback σ)

def kGetableAll : UInt8 := 0x01
def kGetableSingle : UInt8 := 0x02
def kGetableSingleAndAll : UInt8 := 0x03
def kGetableAllDummy : UInt8 := 0x08
def kPreGetFunc : UInt8 := 0x10
def kPostGetFunc : UInt8 := 0x20

variable {σ : Type}

def CipAttributeStruct.free : CipAttributeStruct σ := ⟨0, 0, none⟩

/-- The table that `CreateCipClass` makes for instances with these numbers, and
`AllocateAttributeMasks` the masks. -/
def CipClass.create (numberOfAttributes : Nat) (highestAttributeNumber : UInt16)
    (instanceNumbers : List UInt16) : CipClass σ where
  numberOfAttributes := numberOfAttributes
  highestAttributeNumber := highestAttributeNumber
  getSingleBitMask := List.replicate (1 + highestAttributeNumber.toNat / 8) 0
  getAllBitMask := List.replicate (1 + highestAttributeNumber.toNat / 8) 0
  instances := instanceNumbers.map fun n => ⟨n, List.replicate numberOfAttributes .free⟩
  preGetCallback := none
  postGetCallback := none

/-- A call of `InsertAttribute`: the instance (by its place), the number, the flags, the data. -/
structure Insertion (σ : Type) where
  place : Nat
  attributeNumber : UInt16
  cipFlags : UInt8
  encode : Encoder σ

def Insertion.toAll (i : Insertion σ) : Bool :=
  i.cipFlags &&& (kGetableAll ||| kGetableAllDummy) ≠ 0

def Insertion.toSingle (i : Insertion σ) : Bool := i.cipFlags &&& kGetableSingle ≠ 0

/-- The first free slot is taken. -/
def takeSlot (a : CipAttributeStruct σ) :
    List (CipAttributeStruct σ) → Option (List (CipAttributeStruct σ))
  | [] => none
  | b :: bs => if b.encode.isNone = true then some (a :: bs) else (takeSlot a bs).map (b :: ·)

/-- The number is added to a mask if the flags ask for it. -/
def addIf (wanted : Bool) (n : UInt16) (mask : Bytes) : Bytes :=
  if wanted = true then maskAdd n.toNat mask else mask

/-- `InsertAttribute`; `none` when one of its assertions fails. -/
def insertAttribute (i : Insertion σ) (c : CipClass σ) : Option (CipClass σ) :=
  match c.instances[i.place]? with
  | none => none
  | some inst =>
    match takeSlot ⟨i.attributeNumber, i.cipFlags, some i.encode⟩ inst.attributes with
    | none => none
    | some attributes =>
      if c.highestAttributeNumber < i.attributeNumber then none
      else some
        { c with
          instances := c.instances.set i.place { inst with attributes := attributes }
          getSingleBitMask := addIf i.toSingle i.attributeNumber c.getSingleBitMask
          getAllBitMask := addIf i.toAll i.attributeNumber c.getAllBitMask }

/-- What the initialisation of an object does with its class. -/
inductive TableOp (σ : Type)
  | insert (i : Insertion σ)
  /-- `InsertGetSetCallback` with `kPreGetFunc` -/
  | preGet (callback : GetCallback σ)
  /-- `InsertGetSetCallback` with `kPostGetFunc` -/
  | postGet (callback : GetCallback σ)
  /-- flags that switch callbacks on, for an attribute that is there -/
  | enable (place : Nat) (attributeNumber : UInt16) (flags : UInt8)

/-- The flags of the first attribute with the number raised. -/
def raiseFlags (n : UInt16) (flags : UInt8) :
    List (CipAttributeStruct σ) → List (CipAttributeStruct σ)
  | [] => []
  | a :: as =>
    if a.attributeNumber = n then { a with attributeFlags := a.attributeFlags ||| flags } :: as
    else a :: raiseFlags n flags as

def tableStep (c : CipClass σ) : TableOp σ → Option (CipClass σ)
  | .insert i => insertAttribute i c
  | .preGet callback => some { c with preGetCallback := some callback }
  | .postGet callback => some { c with postGetCallback := some callback }
  | .enable place n flags =>
    some { c with instances := c.instances.modify place fun inst =>
      { inst with attributes := raiseFlags n flags inst.attributes } }

/-- The insertions among some steps. -/
def insertions (ops : List (TableOp σ)) : List (Insertion σ) :=
  ops.filterMap fun
    | .insert i => some i
    | _ => none

/-! ## 2. The services -/

inductive CipError
  | success
  | serviceNotSupported
  | attributeNotSupported
  deriving DecidableEq, Repr

/-- `CipMessageRouterResponse`, without an additional status. -/
structure CipMessageRouterResponse where
  replyService : UInt8
  generalStatus : CipError
  message : Bytes
  deriving DecidableEq, Repr

/-- `GetCipAttribute`. -/
def getCipAttribute (inst : CipInstance σ) (n : UInt16) : Option (CipAttributeStruct σ) :=
  inst.attributes.find? fun a => decide (a.attributeNumber = n)

/-- A callback, if the class has it and the attribute's flags switch it on. -/
def runCallback (flag : UInt8) (callback : Option (GetCallback σ)) (inst : CipInstance σ)
    (a : CipAttributeStruct σ) (service : UInt8) (s : σ) : σ :=
  match callback with
  | some f =>
    if a.attributeFlags &&& flag ≠ 0 then f inst.instanceNumber a.attributeNumber service s else s
  | none => s

/-- `GetAttributeSingle`. -/
def getAttributeSingle (c : CipClass σ) (inst : CipInstance σ) (service : UInt8) (n : UInt16)
    (s : σ) : CipMessageRouterResponse × σ :=
  let refused : CipMessageRouterResponse × σ := (⟨0x80 ||| service, .attributeNotSupported, []⟩, s)
  match getCipAttribute inst n with
  | none => refused
  | some a =>
    match a.encode with
    | none => refused
    | some encode =>
      if maskHas c.getSingleBitMask n.toNat = true then
        let s := runCallback kPreGetFunc c.preGetCallback inst a service s
        (⟨0x80 ||| service, .success, encode s 0⟩,
          runCallback kPostGetFunc c.postGetCallback inst a service s)
      else refused

/-- What one number adds to the message. -/
def encodeNumber (c : CipClass σ) (inst : CipInstance σ) (n : UInt16) (s : σ) (length : Nat) :
    Bytes :=
  if maskHas c.getAllBitMask n.toNat = true then
    match getCipAttribute inst n with
    | none => []
    | some a => (a.encode.map fun encode => encode s length).getD []
  else []

/-- The loop of `GetAttributeAll`, from an attribute number on, which is an `EipUint16`; `none` when
an encoding has run past the end of the buffer. -/
def getAllLoop (c : CipClass σ) (inst : CipInstance σ) (s : σ) :
    (fuel : Nat) → UInt16 → Bytes → Option Bytes
  | 0, _, _ => none
  | fuel + 1, n, message =>
    if messageBufferSize < message.length then none
    else if c.highestAttributeNumber < n then some message
    else getAllLoop c inst s fuel (n + 1) (message ++ encodeNumber c inst n s message.length)

/-- `GetAttributeAll`. -/
def getAttributeAll (c : CipClass σ) (inst : CipInstance σ) (service : UInt8) (fuel : Nat) (s : σ) :
    Option CipMessageRouterResponse :=
  if c.numberOfAttributes = 0 then some ⟨0x80 ||| service, .serviceNotSupported, []⟩
  else (getAllLoop c inst s fuel 1 []).map fun message => ⟨0x80 ||| service, .success, message⟩

/-! ## 3. What insertions make of a table -/

/-- The numbers and the encoders in some slots. -/
def contents (attributes : List (CipAttributeStruct σ)) : List (UInt16 × Option (Encoder σ)) :=
  attributes.map fun a => (a.attributeNumber, a.encode)

/-- A slot that an insertion has taken. -/
def Insertion.slot (i : Insertion σ) : UInt16 × Option (Encoder σ) :=
  (i.attributeNumber, some i.encode)

/-- A table made by some insertions: the masks have the numbers that were flagged, whatever the
instance, and the slots of an instance are its own insertions and then free ones. -/
structure Built (c : CipClass σ) (ins : List (Insertion σ)) : Prop where
  single (n : Nat) : maskHas c.getSingleBitMask n = true ↔
    ∃ i ∈ ins, i.attributeNumber.toNat = n ∧ i.toSingle = true
  all (n : Nat) : maskHas c.getAllBitMask n = true ↔
    ∃ i ∈ ins, i.attributeNumber.toNat = n ∧ i.toAll = true
  sizes : c.getSingleBitMask.length = 1 + c.highestAttributeNumber.toNat / 8 ∧
    c.getAllBitMask.length = 1 + c.highestAttributeNumber.toNat / 8
  bound : ∀ i ∈ ins, i.attributeNumber ≤ c.highestAttributeNumber
  slots : ∀ (k : Nat) inst, c.instances[k]? = some inst → ∃ free,
    contents inst.attributes = (ins.filter fun i => decide (i.place = k)).map Insertion.slot ++
      List.replicate free (0, none)
  full : ∀ (k : Nat) inst, c.instances[k]? = some inst →
    inst.attributes.length = c.numberOfAttributes

theorem contents_raiseFlags (n : UInt16) (flags : UInt8) (as : List (CipAttributeStruct σ)) :
    contents (raiseFlags n flags as) = contents as := by
  induction as with
  | nil => rfl
  | cons a as ih =>
    unfold raiseFlags
    split
    · rfl
    · exact congrArg (List.cons (a.attributeNumber, a.encode)) ih

/-- The slot that is taken is the first after those that are. -/
theorem contents_takeSlot {a : CipAttributeStruct σ} {as bs : List (CipAttributeStruct σ)}
    {taken : List (Insertion σ)} {free : Nat} (h : takeSlot a as = some bs)
    (hc : contents as = taken.map Insertion.slot ++ List.replicate free (0, none)) :
    ∃ free', contents bs = taken.map Insertion.slot ++
      (a.attributeNumber, a.encode) :: List.replicate free' (0, none) := by
  induction as generalizing taken bs with
  | nil => cases h
  | cons b as ih =>
    unfold takeSlot at h
    cases taken with
    | nil =>
      cases free with
      | zero => cases hc
      | succ free =>
        obtain ⟨hb, hrest⟩ := List.cons.inj hc
        rw [if_pos (by rw [(Prod.mk.inj hb).2]; rfl)] at h
        obtain rfl := Option.some.inj h
        exact ⟨free, congrArg _ hrest⟩
    | cons i taken =>
      obtain ⟨hb, hrest⟩ := List.cons.inj hc
      rw [if_neg (by rw [(Prod.mk.inj hb).2]; simp)] at h
      obtain ⟨bs', hbs, rfl⟩ := Option.map_eq_some_iff.1 h
      obtain ⟨free', hfree⟩ := ih hbs hrest
      refine ⟨free', ?_⟩
      rw [List.map_cons, List.cons_append, ← hfree, ← hb]
      rfl

theorem length_takeSlot {a : CipAttributeStruct σ} {as bs : List (CipAttributeStruct σ)}
    (h : takeSlot a as = some bs) : bs.length = as.length := by
  induction as generalizing bs with
  | nil => cases h
  | cons b as ih =>
    unfold takeSlot at h
    split at h
    · obtain rfl := Option.some.inj h
      rfl
    · obtain ⟨bs', hbs, rfl⟩ := Option.map_eq_some_iff.1 h
      exact congrArg (· + 1) (ih hbs)

theorem length_raiseFlags (n : UInt16) (flags : UInt8) (as : List (CipAttributeStruct σ)) :
    (raiseFlags n flags as).length = as.length := by
  have hsame := congrArg List.length (contents_raiseFlags n flags as)
  simpa [contents] using hsame

variable {c c' : CipClass σ} {ins : List (Insertion σ)} {inst : CipInstance σ} {k : Nat}

theorem maskHas_addIf {mask : Bytes} {wanted : Bool} {n : UInt16} (h : n.toNat / 8 < mask.length)
    (m : Nat) :
    maskHas (addIf wanted n mask) m = true ↔
      (m = n.toNat ∧ wanted = true) ∨ maskHas mask m = true := by
  cases wanted with
  | false => simp [addIf]
  | true => simpa [addIf] using maskHas_add h m

/-- The numbers of a mask after one more insertion. -/
theorem maskHas_insert {mask : Bytes} {toMask : Insertion σ → Bool} {i : Insertion σ}
    (h : i.attributeNumber.toNat / 8 < mask.length)
    (hmask : ∀ n, maskHas mask n = true ↔
      ∃ j ∈ ins, j.attributeNumber.toNat = n ∧ toMask j = true) (n : Nat) :
    maskHas (addIf (toMask i) i.attributeNumber mask) n = true ↔
      ∃ j ∈ ins ++ [i], j.attributeNumber.toNat = n ∧ toMask j = true := by
  rw [maskHas_addIf h, hmask]
  simp only [List.mem_append, List.mem_singleton]
  constructor
  · rintro (⟨rfl, hw⟩ | ⟨j, hj, hn⟩)
    · exact ⟨i, Or.inr rfl, rfl, hw⟩
    · exact ⟨j, Or.inl hj, hn⟩
  · rintro ⟨j, hj | rfl, hn, hw⟩
    · exact Or.inr ⟨j, hj, hn, hw⟩
    · exact Or.inl ⟨hn.symm, hw⟩

theorem length_addIf (wanted : Bool) (n : UInt16) (mask : Bytes) :
    (addIf wanted n mask).length = mask.length := by
  cases wanted with
  | false => rfl
  | true => exact maskAdd_length _ _

/-- After one instance has been replaced, each is the new one or one of the others. -/
theorem getElem?_set_cases {α : Type} {xs : List α} {i k : Nat} {x y old : α}
    (hold : xs[i]? = some old) (h : (xs.set i x)[k]? = some y) :
    i = k ∧ x = y ∨ i ≠ k ∧ xs[k]? = some y := by
  by_cases hik : i = k
  · subst hik
    have hlt : i < xs.length := (List.getElem?_eq_some_iff.1 hold).1
    rw [List.getElem?_set_self hlt] at h
    exact Or.inl ⟨rfl, Option.some.inj h⟩
  · rw [List.getElem?_set_ne hik] at h
    exact Or.inr ⟨hik, h⟩

/-- One more insertion. -/
theorem Built.insert {i : Insertion σ} (hb : Built c ins) (h : insertAttribute i c = some c') :
    Built c' (ins ++ [i]) := by
  unfold insertAttribute at h
  split at h
  · cases h
  · rename_i inst hinst
    split at h
    · cases h
    · rename_i attributes htake
      split at h
      · cases h
      · rename_i hle
        obtain rfl := Option.some.inj h
        have hnumber : i.attributeNumber ≤ c.highestAttributeNumber := UInt16.not_lt.1 hle
        have hindex : i.attributeNumber.toNat / 8 < 1 + c.highestAttributeNumber.toNat / 8 := by
          have hnat := UInt16.le_iff_toNat_le.1 hnumber
          omega
        refine ⟨maskHas_insert (by rw [hb.sizes.1]; exact hindex) hb.single,
          maskHas_insert (by rw [hb.sizes.2]; exact hindex) hb.all, ?_, ?_, ?_, ?_⟩
        · simp only [length_addIf]
          exact hb.sizes
        · intro j hj
          rcases List.mem_append.1 hj with hj | hj
          · exact hb.bound j hj
          · rw [List.mem_singleton.1 hj]
            exact hnumber
        · intro k inst' hk
          rw [List.filter_append, List.map_append]
          rcases getElem?_set_cases hinst hk with ⟨rfl, rfl⟩ | ⟨hplace, hk⟩
          · obtain ⟨free, hfree⟩ := hb.slots _ _ hinst
            obtain ⟨free', hfree'⟩ := contents_takeSlot htake hfree
            exact ⟨free', by simpa [Insertion.slot] using hfree'⟩
          · simpa [hplace] using hb.slots k inst' hk
        · intro k inst' hk
          rcases getElem?_set_cases hinst hk with ⟨rfl, rfl⟩ | ⟨-, hk⟩
          · exact (length_takeSlot htake).trans (hb.full _ _ hinst)
          · exact hb.full k inst' hk

/-- A table without insertions. -/
theorem built_create (numberOfAttributes : Nat) (highest : UInt16) (numbers : List UInt16) :
    Built (CipClass.create numberOfAttributes highest numbers : CipClass σ) [] := by
  refine ⟨fun n => ?_, fun n => ?_, ⟨?_, ?_⟩, (fun i hi => by cases hi), ?_, ?_⟩
  · simp [CipClass.create]
  · simp [CipClass.create]
  · simp [CipClass.create]
  · simp [CipClass.create]
  · intro k inst hk
    simp only [CipClass.create, List.getElem?_map, Option.map_eq_some_iff] at hk
    obtain ⟨n, -, rfl⟩ := hk
    exact ⟨numberOfAttributes, by simp [contents, CipAttributeStruct.free]⟩
  · intro k inst hk
    simp only [CipClass.create, List.getElem?_map, Option.map_eq_some_iff] at hk
    obtain ⟨n, -, rfl⟩ := hk
    exact List.length_replicate

/-- **What the initialisation of an object makes of its table.** -/
theorem built_of_exec {numberOfAttributes : Nat} {highest : UInt16} {numbers : List UInt16}
    {ops : List (TableOp σ)}
    (h : exec tableStep (CipClass.create numberOfAttributes highest numbers) ops = some c) :
    Built c (insertions ops) := by
  refine exec_history (P := fun c ops => Built c (insertions ops)) (built_create _ _ _) ?_ h
  intro u past e v hu hstep
  have hnone (heq : insertions [e] = []) : insertions (past ++ [e]) = insertions past := by
    rw [insertions, List.filterMap_append]
    exact (congrArg _ heq).trans (List.append_nil _)
  cases e with
  | insert i =>
    have hone : insertions (past ++ [TableOp.insert i]) = insertions past ++ [i] := by
      rw [insertions, List.filterMap_append]
      rfl
    rw [hone]
    exact hu.insert hstep
  | preGet callback =>
    rw [hnone rfl]
    obtain rfl := Option.some.inj hstep
    exact ⟨hu.single, hu.all, hu.sizes, hu.bound, hu.slots, hu.full⟩
  | postGet callback =>
    rw [hnone rfl]
    obtain rfl := Option.some.inj hstep
    exact ⟨hu.single, hu.all, hu.sizes, hu.bound, hu.slots, hu.full⟩
  | enable place n flags =>
    rw [hnone rfl]
    obtain rfl := Option.some.inj hstep
    refine ⟨hu.single, hu.all, hu.sizes, hu.bound, ?_, ?_⟩
    · intro k inst hk
      dsimp only at hk
      rw [List.getElem?_modify] at hk
      obtain ⟨inst', hinst', rfl⟩ := Option.map_eq_some_iff.1 hk
      obtain ⟨free, hfree⟩ := hu.slots k inst' hinst'
      refine ⟨free, ?_⟩
      split
      · rw [contents_raiseFlags]
        exact hfree
      · exact hfree
    · intro k inst hk
      dsimp only at hk
      rw [List.getElem?_modify] at hk
      obtain ⟨inst', hinst', rfl⟩ := Option.map_eq_some_iff.1 hk
      split
      · exact (length_raiseFlags _ _ _).trans (hu.full k inst' hinst')
      · exact hu.full k inst' hinst'

/-! ## 4. What the services answer -/

/-- The first insertion of a number into an instance. -/
def firstAt (ins : List (Insertion σ)) (k : Nat) (n : UInt16) : Option (Insertion σ) :=
  (ins.filter fun i => decide (i.place = k)).find? fun i => decide (i.attributeNumber = n)

/-- The number is flagged for `GetAttributeAll`, in whichever instance. -/
def ForAll (ins : List (Insertion σ)) (n : UInt16) : Prop :=
  ∃ i ∈ ins, i.attributeNumber = n ∧ i.toAll = true

instance ForAll.decidable (ins : List (Insertion σ)) (n : UInt16) : Decidable (ForAll ins n) :=
  inferInstanceAs (Decidable (∃ i ∈ ins, _))

/-- The number is flagged for `GetAttributeSingle`, in whichever instance. -/
def ForSingle (ins : List (Insertion σ)) (n : UInt16) : Prop :=
  ∃ i ∈ ins, i.attributeNumber = n ∧ i.toSingle = true

instance ForSingle.decidable (ins : List (Insertion σ)) (n : UInt16) :
    Decidable (ForSingle ins n) :=
  inferInstanceAs (Decidable (∃ i ∈ ins, _))

/-- The attribute found has a pre-get callback. -/
def Refreshes (c : CipClass σ) (inst : CipInstance σ) (n : UInt16) : Prop :=
  ∃ a, getCipAttribute inst n = some a ∧ a.attributeFlags &&& kPreGetFunc ≠ 0 ∧
    c.preGetCallback ≠ none

/-- `GetCipAttribute` finds the first insertion of a number; a free slot that it finds has no
data. -/
theorem Built.lookup (hb : Built c ins) (hinst : c.instances[k]? = some inst) (n : UInt16) :
    ((getCipAttribute inst n).bind fun a => a.encode) =
      (firstAt ins k n).map fun i => i.encode := by
  obtain ⟨free, hfree⟩ := hb.slots k inst hinst
  have hfind : (contents inst.attributes).find? (fun x => decide (x.1 = n)) =
      (getCipAttribute inst n).map fun a => (a.attributeNumber, a.encode) := by
    rw [contents, List.find?_map]
    rfl
  have hins : ((ins.filter fun i => decide (i.place = k)).map Insertion.slot).find?
      (fun x => decide (x.1 = n)) = (firstAt ins k n).map Insertion.slot := by
    rw [List.find?_map]
    rfl
  rw [hfree, List.find?_append, hins] at hfind
  have hbind : ((getCipAttribute inst n).bind fun a => a.encode) =
      ((getCipAttribute inst n).map fun a => (a.attributeNumber, a.encode)).bind Prod.snd := by
    rw [Option.bind_map]
    rfl
  rw [hbind, ← hfind]
  cases firstAt ins k n with
  | some i => rfl
  | none =>
    rw [Option.map_none, Option.none_or, Option.map_none]
    cases hnone : (List.replicate free ((0 : UInt16), (none : Option (Encoder σ)))).find?
        fun x => decide (x.1 = n) with
    | none => rfl
    | some x =>
      have hmem := List.mem_of_find?_eq_some hnone
      rw [(List.mem_replicate.1 hmem).2]
      rfl

theorem getCipAttribute_number {n : UInt16} {a : CipAttributeStruct σ}
    (h : getCipAttribute inst n = some a) : a.attributeNumber = n := by
  have hfound := List.find?_some h
  simpa using hfound

theorem Built.getsAll (hb : Built c ins) (n : UInt16) :
    maskHas c.getAllBitMask n.toNat = true ↔ ForAll ins n := by
  simp only [hb.all, ForAll, UInt16.toNat_inj]

theorem Built.getsSingle (hb : Built c ins) (n : UInt16) :
    maskHas c.getSingleBitMask n.toNat = true ↔ ForSingle ins n := by
  simp only [hb.single, ForSingle, UInt16.toNat_inj]

/-- **`GetAttributeSingle`** of an attribute that is there and may be read: the encoding at the
beginning of a message, as the callback has left the state. -/
theorem Built.getAttributeSingle_eq (hb : Built c ins) (hinst : c.instances[k]? = some inst)
    {n : UInt16} {i : Insertion σ} {a : CipAttributeStruct σ} (hi : firstAt ins k n = some i)
    (ha : getCipAttribute inst n = some a) (hsingle : ForSingle ins n) (service : UInt8) (s : σ) :
    (getAttributeSingle c inst service n s).1 =
      ⟨0x80 ||| service, .success,
        i.encode (runCallback kPreGetFunc c.preGetCallback inst a service s) 0⟩ := by
  have hlookup := hb.lookup hinst n
  rw [hi, ha] at hlookup
  have hencode : a.encode = some i.encode := hlookup
  unfold getAttributeSingle
  rw [ha]
  dsimp only
  rw [hencode]
  dsimp only
  rw [if_pos ((hb.getsSingle n).2 hsingle)]

/-- Without a callback the state stays. -/
theorem runCallback_of_plain {n : UInt16} {a : CipAttributeStruct σ}
    (ha : getCipAttribute inst n = some a) (h : ¬Refreshes c inst n) (service : UInt8) (s : σ) :
    runCallback kPreGetFunc c.preGetCallback inst a service s = s := by
  unfold runCallback
  cases hpre : c.preGetCallback with
  | none => rfl
  | some f =>
    dsimp only
    split
    · rename_i hflag
      exact absurd ⟨a, ha, hflag, by rw [hpre]; simp⟩ h
    · rfl

/-- An attribute that was inserted is found. -/
theorem Built.found (hb : Built c ins) (hinst : c.instances[k]? = some inst) {n : UInt16}
    {i : Insertion σ} (hi : firstAt ins k n = some i) : ∃ a, getCipAttribute inst n = some a := by
  have hlookup := hb.lookup hinst n
  rw [hi] at hlookup
  cases ha : getCipAttribute inst n with
  | none =>
    rw [ha] at hlookup
    cases hlookup
  | some a => exact ⟨a, rfl⟩

/-- The numbers that `GetAttributeAll` goes through. -/
def numbers (highest : UInt16) : List UInt16 :=
  (List.range' 1 highest.toNat).map UInt16.ofNat

/-- The encoder that a number has for `GetAttributeAll`. -/
def encoderAt (ins : List (Insertion σ)) (k : Nat) (n : UInt16) : Option (Encoder σ) :=
  if ForAll ins n then (firstAt ins k n).map fun i => i.encode else none

/-- The encodings of some numbers, one after the other in a message. -/
def pieces (ins : List (Insertion σ)) (k : Nat) (s : σ) :
    List UInt16 → (length : Nat) → List (UInt16 × Bytes)
  | [], _ => []
  | n :: ns, length =>
    match encoderAt ins k n with
    | some encode => (n, encode s length) :: pieces ins k s ns (length + (encode s length).length)
    | none => pieces ins k s ns length

/-- The bytes of some pieces. -/
def joined (ps : List (UInt16 × Bytes)) : Bytes := (ps.map Prod.snd).flatten

theorem Built.encodeNumber_eq (hb : Built c ins) (hinst : c.instances[k]? = some inst) (n : UInt16)
    (s : σ) (length : Nat) :
    encodeNumber c inst n s length =
      ((encoderAt ins k n).map fun encode => encode s length).getD [] := by
  have hlookup := hb.lookup hinst n
  unfold encodeNumber encoderAt
  by_cases hall : ForAll ins n
  · rw [if_pos ((hb.getsAll n).2 hall), if_pos hall, ← hlookup]
    cases getCipAttribute inst n with
    | none => rfl
    | some a => rfl
  · rw [if_neg fun h => hall ((hb.getsAll n).1 h), if_neg hall]
    rfl

/-- The message after some numbers. -/
theorem Built.foldl_encodeNumber (hb : Built c ins) (hinst : c.instances[k]? = some inst) (s : σ)
    (ns : List UInt16) (message : Bytes) :
    ns.foldl (fun m n => m ++ encodeNumber c inst n s m.length) message =
      message ++ joined (pieces ins k s ns message.length) := by
  induction ns generalizing message with
  | nil => simp [pieces, joined]
  | cons n ns ih =>
    rw [List.foldl_cons, ih, hb.encodeNumber_eq hinst, pieces]
    cases encoderAt ins k n with
    | none => simp
    | some encode => simp [joined]

/-- The numbers from one on up to the highest, and the message after them. -/
def messageFrom (c : CipClass σ) (inst : CipInstance σ) (s : σ) (m : Nat) (message : Bytes) :
    Bytes :=
  ((List.range' m (c.highestAttributeNumber.toNat + 1 - m)).map UInt16.ofNat).foldl
    (fun msg n => msg ++ encodeNumber c inst n s msg.length) message

/-- A message only grows. -/
theorem length_le_foldl (inst : CipInstance σ) (s : σ) (ns : List UInt16) (message : Bytes) :
    message.length ≤
      (ns.foldl (fun m n => m ++ encodeNumber c inst n s m.length) message).length := by
  induction ns generalizing message with
  | nil => exact Nat.le_refl _
  | cons n ns ih =>
    refine Nat.le_trans ?_ (ih _)
    rw [List.length_append]
    exact Nat.le_add_right _ _

/-- The loop goes through the numbers and ends, if what they are encoded to fits. -/
theorem getAllLoop_eq {fuel m : Nat} (hhigh : c.highestAttributeNumber.toNat < 65535) (s : σ)
    (hm : m ≤ c.highestAttributeNumber.toNat + 1)
    (hfuel : c.highestAttributeNumber.toNat + 1 < fuel + m) (message : Bytes)
    (hfits : (messageFrom c inst s m message).length ≤ messageBufferSize) :
    getAllLoop c inst s fuel (UInt16.ofNat m) message =
      some (messageFrom c inst s m message) := by
  induction fuel generalizing m message with
  | zero => omega
  | succ fuel ih =>
    have hval : (UInt16.ofNat m).toNat = m := UInt16.toNat_ofNat_of_lt' (by change m < 65536; omega)
    have hshort : ¬messageBufferSize < message.length :=
      Nat.not_lt.2 (Nat.le_trans (length_le_foldl inst s _ message) hfits)
    unfold getAllLoop
    rw [if_neg hshort]
    by_cases hdone : m = c.highestAttributeNumber.toNat + 1
    · rw [if_pos (UInt16.lt_iff_toNat_lt.2 (by rw [hval]; omega)), messageFrom, hdone, Nat.sub_self]
      rfl
    · have hnext : UInt16.ofNat m + 1 = UInt16.ofNat (m + 1) := (UInt16.ofNat_add m 1).symm
      have hcount : c.highestAttributeNumber.toNat + 1 - m =
          (c.highestAttributeNumber.toNat + 1 - (m + 1)) + 1 := by omega
      have hrest : messageFrom c inst s m message = messageFrom c inst s (m + 1)
          (message ++ encodeNumber c inst (UInt16.ofNat m) s message.length) := by
        rw [messageFrom, hcount, List.range'_succ]
        rfl
      rw [if_neg fun h => by rw [UInt16.lt_iff_toNat_lt, hval] at h; omega, hnext,
        ih (by omega) (by omega) _ (hrest ▸ hfits), hrest]

/-- The numbers that have a piece. -/
theorem pieces_numbers (ins : List (Insertion σ)) (k : Nat) (s : σ) (ns : List UInt16)
    (length : Nat) :
    (pieces ins k s ns length).map Prod.fst =
      ns.filter fun n => (encoderAt ins k n).isSome := by
  induction ns generalizing length with
  | nil => rfl
  | cons n ns ih =>
    rw [pieces]
    cases hn : encoderAt ins k n with
    | none => simp [hn, ih]
    | some encode => simp [hn, ih]

/-- A piece is the encoding at its place. -/
theorem pieces_split {ns : List UInt16} {length : Nat} {s : σ} {done rest : List (UInt16 × Bytes)}
    {n : UInt16} {b : Bytes} (h : pieces ins k s ns length = done ++ (n, b) :: rest) :
    ∃ encode, encoderAt ins k n = some encode ∧ b = encode s (length + (joined done).length) := by
  induction ns generalizing length done with
  | nil =>
    rw [pieces] at h
    cases done <;> cases h
  | cons m ns ih =>
    rw [pieces] at h
    cases hm : encoderAt ins k m with
    | none =>
      rw [hm] at h
      exact ih h
    | some encode =>
      rw [hm] at h
      cases done with
      | nil =>
        obtain ⟨hpair, -⟩ := List.cons.inj h
        obtain ⟨rfl, rfl⟩ := Prod.mk.inj hpair
        exact ⟨encode, hm, rfl⟩
      | cons p done =>
        obtain ⟨rfl, hrest⟩ := List.cons.inj h
        obtain ⟨e, he, hb⟩ := ih hrest
        refine ⟨e, he, ?_⟩
        rw [hb]
        simp [joined, Nat.add_assoc]

/-- Without attributes in the class nothing has been inserted. -/
theorem Built.none_of_no_attributes (hb : Built c ins) (hinst : c.instances[k]? = some inst)
    (h : c.numberOfAttributes = 0) (n : UInt16) : encoderAt ins k n = none := by
  have hnil : inst.attributes = [] := List.eq_nil_of_length_eq_zero ((hb.full k inst hinst).trans h)
  have hlookup := hb.lookup hinst n
  rw [getCipAttribute, hnil] at hlookup
  unfold encoderAt
  split
  · exact hlookup.symm
  · rfl

/-- The encodings of the instance's attributes that are flagged, together, fit into the buffer. -/
def InBuffer (c : CipClass σ) (ins : List (Insertion σ)) (k : Nat) (s : σ) : Prop :=
  (joined (pieces ins k s (numbers c.highestAttributeNumber) 0)).length ≤ messageBufferSize

instance InBuffer.decidable (c : CipClass σ) (ins : List (Insertion σ)) (k : Nat) (s : σ) :
    Decidable (InBuffer c ins k s) :=
  inferInstanceAs (Decidable (_ ≤ _))

/-- **`GetAttributeAll`** of an instance answers with the pieces of its attributes. -/
theorem Built.getAttributeAll_eq (hb : Built c ins) (hinst : c.instances[k]? = some inst)
    (hhigh : c.highestAttributeNumber.toNat < 65535) {fuel : Nat}
    (hfuel : c.highestAttributeNumber.toNat < fuel) (service : UInt8) {s : σ}
    (hfits : InBuffer c ins k s) :
    ∃ r, getAttributeAll c inst service fuel s = some r ∧
      r.message = joined (pieces ins k s (numbers c.highestAttributeNumber) 0) := by
  unfold getAttributeAll
  by_cases hnone : c.numberOfAttributes = 0
  · refine ⟨_, if_pos hnone, ?_⟩
    have hempty (ns : List UInt16) : pieces ins k s ns 0 = [] := by
      induction ns with
      | nil => rfl
      | cons n ns ih => rw [pieces, hb.none_of_no_attributes hinst hnone, ih]
    rw [hempty]
    rfl
  · have hmessage : messageFrom c inst s 1 [] =
        joined (pieces ins k s (numbers c.highestAttributeNumber) 0) := by
      rw [messageFrom, Nat.add_sub_cancel, ← numbers, hb.foldl_encodeNumber hinst]
      rfl
    have hloop := getAllLoop_eq hhigh s (Nat.le_add_left 1 _) (Nat.succ_lt_succ hfuel) []
      (by rw [hmessage]; exact hfits)
    rw [hmessage] at hloop
    rw [if_neg hnone]
    exact ⟨_, congrArg _ hloop, rfl⟩

/-- What an answer to `GetAttributeAll` has to be, for a state: in the buffer, one after the other,
in ascending order, the encodings of the attributes that are there and flagged, each at its place;
and where a number can also be read alone, is not refreshed by a callback, and has the same encoding
at the beginning of a message, that is what `GetAttributeSingle` answers. -/
def AgreesWithSingle (c : CipClass σ) (inst : CipInstance σ) (ins : List (Insertion σ)) (k : Nat)
    (s : σ) (message : Bytes) : Prop :=
  message.length ≤ messageBufferSize ∧ ∃ ps : List (UInt16 × Bytes), message = joined ps ∧
    ps.map Prod.fst = (numbers c.highestAttributeNumber).filter (fun n =>
      decide (ForAll ins n) && (firstAt ins k n).isSome) ∧
    ∀ done n b rest, ps = done ++ (n, b) :: rest →
      ∃ i, firstAt ins k n = some i ∧ b = i.encode s (joined done).length ∧
        (ForSingle ins n → ¬Refreshes c inst n →
          i.encode s (joined done).length = i.encode s 0 → ∀ service,
            (getAttributeSingle c inst service n s).1 = ⟨0x80 ||| service, .success, b⟩)

/-- **The two services agree.** -/
theorem Built.getAttributeAll_agrees (hb : Built c ins) (hinst : c.instances[k]? = some inst)
    (hhigh : c.highestAttributeNumber.toNat < 65535) {fuel : Nat}
    (hfuel : c.highestAttributeNumber.toNat < fuel) (service : UInt8) {s : σ}
    (hfits : InBuffer c ins k s) :
    ∃ r, getAttributeAll c inst service fuel s = some r ∧
      AgreesWithSingle c inst ins k s r.message := by
  obtain ⟨r, hr, hmessage⟩ := hb.getAttributeAll_eq hinst hhigh hfuel service hfits
  refine ⟨r, hr, hmessage ▸ hfits, _, hmessage, ?_, ?_⟩
  · rw [pieces_numbers]
    refine List.filter_congr fun n _ => ?_
    unfold encoderAt
    by_cases hall : ForAll ins n
    · simp [hall]
    · simp [hall]
  · intro done n b rest hsplit
    obtain ⟨encode, hencode, hbytes⟩ := pieces_split hsplit
    rw [Nat.zero_add] at hbytes
    unfold encoderAt at hencode
    split at hencode
    · obtain ⟨i, hi, rfl⟩ := Option.map_eq_some_iff.1 hencode
      refine ⟨i, hi, hbytes, fun hsingle hplain hplace service => ?_⟩
      obtain ⟨a, ha⟩ := hb.found hinst hi
      rw [hb.getAttributeSingle_eq hinst hi ha hsingle, runCallback_of_plain ha hplain, hbytes,
        hplace]
    · cases hencode

/-- Where every attribute that is flagged can be read alone, has no callback and does not go by its
place, the answer is made of the answers of `GetAttributeSingle`. -/
theorem AgreesWithSingle.singles {s : σ} {message : Bytes} {service : UInt8}
    (h : AgreesWithSingle c inst ins k s message)
    (hsingle : ∀ n, ForAll ins n → ForSingle ins n) (hplain : ∀ n, ¬Refreshes c inst n)
    (hplace : ∀ n i length, firstAt ins k n = some i → i.encode s length = i.encode s 0) :
    message = ((numbers c.highestAttributeNumber).filter fun n =>
      decide (ForAll ins n) && (firstAt ins k n).isSome).flatMap
        fun n => (getAttributeSingle c inst service n s).1.message := by
  obtain ⟨-, ps, hmessage, hnumbers, hpieces⟩ := h
  rw [hmessage, ← hnumbers, joined, List.flatMap_map, List.flatMap_def]
  congr 1
  refine List.map_congr_left fun p hp => ?_
  obtain ⟨done, rest, hsplit⟩ := List.append_of_mem hp
  obtain ⟨i, hi, -, hsame⟩ := hpieces done p.1 p.2 rest hsplit
  have hflagged : p.1 ∈ ps.map Prod.fst := List.mem_map_of_mem hp
  rw [hnumbers, List.mem_filter, Bool.and_eq_true, decide_eq_true_iff] at hflagged
  rw [hsame (hsingle _ hflagged.2.1) (hplain _) (hplace _ _ _ hi)]

end GroundTruth.Cip
