/-
# The List Identity reply, read by the tool

`ParseListIdentityResponse` of the WinUI tool: the header, the items one after the other until one
is an identity object, and the fields of that object.  An exception ends it with null like a failed
check, so reading and failing are one `Option`.  The state it reports is the low half of the low
byte of the status word; the state byte at the end of the item is never read.

Two facts about it.  Whatever the bytes, the result is null or what `identityOf` makes of the first
identity item, and of nothing else (`parseListIdentityResponse_item`).  And a reply of
the device comes back as the device, its state included, exactly if the state is what those bits
of the status say (`listIdentity_roundTrip_iff`).
-/
import GroundTruth.Lib.Reader
import GroundTruth.Discovery.ListIdentity

namespace GroundTruth.Discovery

open Lib

/-! ## 1. The device as the tool shows it -/

structure DiscoveredDevice where
  ipAddress : String
  vendorId : UInt16
  productCode : UInt16
  productName : String
  serialNumber : String
  state : UInt8
  deviceType : String
deriving DecidableEq

/-- `Encoding.ASCII.GetString`: a byte that is no ASCII character becomes a question mark. -/
def asciiGetString (bs : Bytes) : String :=
  .ofList (bs.map fun b => if b < 0x80 then Char.ofUInt8 b else '?')

def hexDigit (d : Nat) : Char :=
  if d < 10 then .ofNat (48 + d) else .ofNat (55 + d)

/-- The low `count` hexadecimal digits, the highest first. -/
def hexDigits : Nat → Nat → List Char
  | 0, _ => []
  | count + 1, n => hexDigits count (n / 16) ++ [hexDigit (n % 16)]

/-- `ToString("X8")` -/
def toStringX8 (v : UInt32) : String := .ofList (hexDigits 8 v.toNat)

def getDeviceType (state : UInt8) : String :=
  match state with
  | 0 => "Unknown"
  | 1 => "Self Testing"
  | 2 => "Firmware Update"
  | 3 => "Running"
  | 4 => "Running (Minor Fault)"
  | 5 => "Running (Major Fault)"
  | 6 => "Stopped"
  | _ => "Unknown"

/-! ## 2. The parser -/

/-- `BitConverter.ToUInt16` of two bytes. -/
def word (bs : Bytes) : UInt16 := glue (bs.getD 1 0) (bs.getD 0 0)

/-- `BitConverter.ToUInt32` of four bytes. -/
def dword (bs : Bytes) : UInt32 :=
  glue32 (bs.getD 0 0) (bs.getD 1 0) (bs.getD 2 0) (bs.getD 3 0)

def octet (bs : Bytes) : UInt8 := bs.getD 0 0

/-- The name, if the length byte and as many bytes as it says are in front of the end. -/
def readName (data : Buffer) (identityStart identityEnd : Int) : Option String :=
  if identityEnd ≤ identityStart then some ""
  else do
    let productNameLength ← (data.slice identityStart 1).map octet
    let identityStart := intAdd identityStart 1
    if 0 < productNameLength ∧ intAdd identityStart productNameLength.toNat ≤ identityEnd then
      (data.slice identityStart productNameLength.toNat).map asciiGetString
    else some ""

/-- The branch for an item of type 0x000C. -/
def parseIdentity (data : Buffer) (ipAddress : String) (offset : Int) (itemLength : UInt16) :
    Option DiscoveredDevice :=
  if data.length < intAdd offset itemLength.toNat then none
  else
    let identityEnd := intAdd offset itemLength.toNat
    if identityEnd < intAdd offset 20 then none
    else if identityEnd < intAdd offset 18 then none
    else do
      let (vendorId, start) ← readField 2 word data (intAdd offset 18) identityEnd
      let (_deviceType, start) ← readField 2 word data start identityEnd
      let (productCode, start) ← readField 2 word data start identityEnd
      let (_revisionMajor, start) ← readField 1 octet data start identityEnd
      let (_revisionMinor, start) ← readField 1 octet data start identityEnd
      let (status, start) ← readField 2 word data start identityEnd
      let state := (status &&& 0x0F).toUInt8
      let (serialNumber, start) ← readField 4 dword data start identityEnd
      let productName ← readName data start identityEnd
      some {
        ipAddress := ipAddress
        vendorId := vendorId
        productCode := productCode
        productName := productName
        serialNumber := toStringX8 serialNumber
        state := state
        deviceType := getDeviceType state }

/-- The loop over the items, with as many to come as the argument says. -/
def parseItems (data : Buffer) (ipAddress : String) : Nat → Int → Option DiscoveredDevice
  | 0, _ => none
  | count + 1, offset => do
    let (itemTypeId, offset) ← readField 2 word data offset data.length
    let (itemLength, offset) ← readField 2 word data offset data.length
    if itemTypeId = 0x000C then parseIdentity data ipAddress offset itemLength
    else parseItems data ipAddress count (intAdd offset itemLength.toNat)

def parseListIdentityResponse (data : Option Buffer) (ipAddress : String) :
    Option DiscoveredDevice := do
  let data ← data
  if data.length < 24 then none
  else
    let command ← (data.slice 0 2).map word
    if command ≠ 0x0063 then none
    else
      let commandSpecificLength ← (data.slice 2 2).map word
      if commandSpecificLength = 0 ∨ data.length < intAdd 24 commandSpecificLength.toNat then none
      else
        let encapsulationStatus ← (data.slice 8 4).map dword
        if encapsulationStatus ≠ 0 then none
        else
          let (itemCount, offset) ← readField 2 word data 24 data.length
          if itemCount = 0 then none
          else parseItems data ipAddress itemCount.toNat offset

/-! ## 3. What an item says -/

/-- The name at the front of what is left of an item. -/
def nameOf : Bytes → String
  | [] => ""
  | productNameLength :: rest =>
    if 0 < productNameLength ∧ productNameLength.toNat ≤ rest.length then
      asciiGetString (rest.take productNameLength.toNat)
    else ""

/-- The device that an identity item describes, from the bytes of the item alone. -/
def identityOf (ipAddress : String) (item : Bytes) : Option DiscoveredDevice :=
  if item.length < 20 then none
  else do
    let (vendorId, rest) ← takeField 2 word (item.drop 18)
    let (_deviceType, rest) ← takeField 2 word rest
    let (productCode, rest) ← takeField 2 word rest
    let (_revisionMajor, rest) ← takeField 1 octet rest
    let (_revisionMinor, rest) ← takeField 1 octet rest
    let (status, rest) ← takeField 2 word rest
    let state := (status &&& 0x0F).toUInt8
    let (serialNumber, rest) ← takeField 4 dword rest
    some {
      ipAddress := ipAddress
      vendorId := vendorId
      productCode := productCode
      productName := nameOf rest
      serialNumber := toStringX8 serialNumber
      state := state
      deviceType := getDeviceType state }

variable {data : Buffer} {ipAddress : String}

/-- The name is read off the item, unless the sum of its start and its length wraps: then the read
fails. -/
theorem readName_eq {pos limit : Int} {l : Bytes} (h : At data pos limit l) :
    readName data pos limit = some (nameOf l) ∨
      (readName data pos limit = none ∧ 0x7FFFFFFF < limit + 255) := by
  have hstop := h.stop
  have hnonneg := h.pos_nonneg
  have hsmall := h.limit_small
  have hsize := data.length_le
  cases l with
  | nil =>
    left
    rw [readName, if_pos (by simp [hstop]), nameOf]
  | cons productNameLength rest =>
    have hcount := productNameLength.toNat_lt
    simp only [List.length_cons, Nat.cast_add, Nat.cast_one] at hstop
    have hadd : intAdd pos 1 = pos + 1 := intAdd_eq (by omega) (by omega)
    have hone : 1 ≤ (productNameLength :: rest).length := by simp
    have hrest : At data (pos + 1) limit rest := h.drop hone
    have hstop' := hrest.stop
    have hread : data.slice pos 1 = some [productNameLength] := by
      simpa using h.slice hone
    simp only [readName, if_neg (show ¬limit ≤ pos by omega), hread, Option.map_some, octet,
      Option.bind_eq_bind, Option.bind_some, List.getD_cons_zero, hadd, nameOf]
    by_cases hwrap : pos + 1 + productNameLength.toNat < 2147483648
    · left
      rw [intAdd_eq (by omega) hwrap]
      by_cases hfits : 0 < productNameLength ∧ productNameLength.toNat ≤ rest.length
      · rw [if_pos ⟨hfits.1, by omega⟩, if_pos hfits, hrest.slice hfits.2, Option.map_some]
      · rw [if_neg (fun hc => hfits ⟨hc.1, by omega⟩), if_neg hfits]
    · have hneg := intAdd_neg (a := pos + 1) (b := productNameLength.toNat) (by omega) (by omega)
      have hpos : 0 < productNameLength := by
        rw [UInt8.lt_iff_toNat_lt]
        change 0 < productNameLength.toNat
        omega
      rw [if_pos ⟨hpos, by omega⟩, Buffer.slice, if_pos (Or.inr (by omega))]
      right
      exact ⟨rfl, by omega⟩

/-- The branch reads what the item says, or it fails because the sum wraps.  Reading the name is
the only step where the two differ, so what relates the results there relates the whole. -/
theorem parseIdentity_rel {R : Option DiscoveredDevice → Option DiscoveredDevice → Prop}
    (hnone : R none none) {offset : Int} {itemLength : UInt16} {item : Bytes}
    (h : At data offset (offset + itemLength.toNat) item)
    (hname : ∀ (start : Int) (rest : Bytes) (k : String → Option DiscoveredDevice),
      At data start (offset + itemLength.toNat) rest →
        R (readName data start (offset + itemLength.toNat) >>= k) (k (nameOf rest))) :
    R (parseIdentity data ipAddress offset itemLength) (identityOf ipAddress item) := by
  have hnonneg := h.pos_nonneg
  have hlimit := h.limit_le
  have hsmall := h.limit_small
  have hstop := h.stop
  rw [parseIdentity, identityOf, intAdd_eq (by omega) (by omega), if_neg (by omega)]
  simp only []
  rw [intAdd_eq (b := 20) (by omega) (by omega), intAdd_eq (b := 18) (by omega) (by omega)]
  by_cases hshort : item.length < 20
  · rw [if_pos (by omega), if_pos hshort]
    exact hnone
  · have hlong : 18 ≤ item.length := by omega
    have hat : At data (offset + 18) (offset + itemLength.toNat) (item.drop 18) := h.drop hlong
    rw [if_neg (by omega), if_neg (by omega), if_neg hshort]
    refine readField_rel hnone (by omega) hat ?_
    intro vendorId p rest hat
    refine readField_rel hnone (by omega) hat ?_
    intro deviceType p rest hat
    refine readField_rel hnone (by omega) hat ?_
    intro productCode p rest hat
    refine readField_rel hnone (by omega) hat ?_
    intro revisionMajor p rest hat
    refine readField_rel hnone (by omega) hat ?_
    intro revisionMinor p rest hat
    refine readField_rel hnone (by omega) hat ?_
    intro status p rest hat
    refine readField_rel hnone (by omega) hat ?_
    intro serialNumber p rest hat
    exact hname p rest _ hat

/-- Far from the largest int nothing wraps. -/
theorem parseIdentity_eq {offset : Int} {itemLength : UInt16} {item : Bytes}
    (h : At data offset (offset + itemLength.toNat) item)
    (hsmall : offset + itemLength.toNat + 255 ≤ 0x7FFFFFFF) :
    parseIdentity data ipAddress offset itemLength = identityOf ipAddress item := by
  refine parseIdentity_rel rfl h ?_
  intro start rest k hat
  rcases readName_eq hat with hname | ⟨-, hlarge⟩
  · rw [hname]
    rfl
  · omega

theorem parseIdentity_none_or {offset : Int} {itemLength : UInt16} {item : Bytes}
    (h : At data offset (offset + itemLength.toNat) item) :
    parseIdentity data ipAddress offset itemLength = none ∨
      parseIdentity data ipAddress offset itemLength = identityOf ipAddress item := by
  refine parseIdentity_rel (R := fun x y => x = none ∨ x = y) (Or.inl rfl) h ?_
  intro start rest k hat
  rcases readName_eq hat with hname | ⟨hname, -⟩
  · right
    rw [hname]
    rfl
  · left
    rw [hname]
    rfl

/-! ## 4. Any bytes -/

/-- An item, with as many bytes as its length says. -/
structure Item where
  typeId : UInt16
  length : UInt16
  bytes : Bytes
  length_eq : bytes.length = length.toNat

def Item.encoded (i : Item) : Bytes := le16 i.typeId ++ (le16 i.length ++ i.bytes)

/-- A type and a length that the bytes reach are the front of an item. -/
theorem Item.exists_front (typeId : UInt16) {length : UInt16} {rest : Bytes}
    (hfits : length.toNat ≤ rest.length) :
    ∃ i : Item, i.typeId = typeId ∧ i.bytes = rest.take length.toNat ∧
      le16 typeId ++ (le16 length ++ rest) = i.encoded ++ rest.drop length.toNat := by
  refine ⟨⟨typeId, length, rest.take length.toNat, ?_⟩, rfl, rfl, ?_⟩
  · rw [List.length_take, Nat.min_eq_left hfits]
  · rw [Item.encoded, List.append_assoc, List.append_assoc, List.take_append_drop]

/-- Among the first `count` items of a list of bytes, the first identity item has the bytes
`item`. -/
def FirstIdentity (count : Nat) (l item : Bytes) : Prop :=
  ∃ (others : List Item) (i : Item) (post : Bytes),
    l = others.flatMap Item.encoded ++ (i.encoded ++ post) ∧ others.length < count ∧
      (∀ other ∈ others, other.typeId ≠ 0x000C) ∧ i.typeId = 0x000C ∧ i.bytes = item

/-- One more item in front, which is no identity item. -/
theorem FirstIdentity.cons {count : Nat} {l item : Bytes} (h : FirstIdentity count l item)
    {other : Item} (hother : other.typeId ≠ 0x000C) :
    FirstIdentity (count + 1) (other.encoded ++ l) item := by
  obtain ⟨others, i, post, rfl, hcount, hothers, hi⟩ := h
  refine ⟨other :: others, i, post, ?_, ?_, ?_, hi⟩
  · rw [List.flatMap_cons, List.append_assoc]
  · rw [List.length_cons]
    omega
  · intro o ho
    rcases List.mem_cons.mp ho with rfl | ho
    · exact hother
    · exact hothers o ho

@[simp] theorem word_le16 (v : UInt16) : word (le16 v) = v := by
  apply le16_injective
  rw [word]
  exact le16_glue _ _

/-- The front of a list as a 16-bit value. -/
theorem short_or_le16 (l : Bytes) : l.length < 2 ∨ ∃ v rest, l = le16 v ++ rest := by
  rcases l with _ | ⟨low, _ | ⟨high, rest⟩⟩
  · exact Or.inl (by simp)
  · exact Or.inl (by simp)
  · exact Or.inr ⟨glue high low, rest, by rw [le16_glue]; rfl⟩

theorem readField_le16 {pos limit : Int} {v : UInt16} {rest : Bytes}
    (h : At data pos limit (le16 v ++ rest)) :
    readField 2 word data pos limit = some (v, pos + 2) := by
  simpa using h.readField_append (by simp) word

/-- Two bytes are read, or there are none to be read. -/
theorem readField_word {pos limit : Int} {l : Bytes} (h : At data pos limit l) :
    readField 2 word data pos limit = none ∨
      ∃ v rest, l = le16 v ++ rest ∧ readField 2 word data pos limit = some (v, pos + 2) ∧
        At data (pos + 2) limit rest := by
  rcases short_or_le16 l with hshort | ⟨v, rest, rfl⟩
  · left
    rw [h.readField (by omega), if_pos hshort]
  · exact Or.inr ⟨v, rest, rfl, readField_le16 h, h.skip⟩

/-- What the branch reads is within the length of the item, and the item within the data. -/
theorem parseIdentity_item {offset : Int} {rest : Bytes} (h : At data offset data.length rest)
    (ipAddress : String) (itemLength : UInt16) :
    parseIdentity data ipAddress offset itemLength = none ∨
      (itemLength.toNat ≤ rest.length ∧ parseIdentity data ipAddress offset itemLength =
        identityOf ipAddress (rest.take itemLength.toNat)) := by
  have hlength := itemLength.toNat_lt
  have hnonneg := h.pos_nonneg
  have hsize := data.length_le
  have hstop := h.stop
  by_cases hfits : itemLength.toNat ≤ rest.length
  · rcases parseIdentity_none_or (h.take hfits) with hnone | heq
    · exact Or.inl hnone
    · exact Or.inr ⟨hfits, heq⟩
  · left
    rw [parseIdentity]
    by_cases hwrap : offset + itemLength.toNat < 2147483648
    · rw [intAdd_eq (by omega) hwrap, if_pos (by omega)]
    · -- the end of the item has wrapped, and the next check sees a negative end
      have hneg := intAdd_neg (a := offset) (b := itemLength.toNat) (by omega) (by omega)
      have htwenty : intAdd offset 20 = offset + 20 := intAdd_eq (by omega) (by omega)
      rw [if_neg (by omega), htwenty]
      exact if_pos (by omega)

/-- One round of the loop, after the type. -/
theorem parseItems_succ {count : Nat} {offset p : Int} {itemTypeId : UInt16}
    (htype : readField 2 word data offset data.length = some (itemTypeId, p)) :
    parseItems data ipAddress (count + 1) offset =
      (readField 2 word data p data.length).bind fun x =>
        if itemTypeId = 0x000C then parseIdentity data ipAddress x.2 x.1
        else parseItems data ipAddress count (intAdd x.2 x.1.toNat) := by
  rw [parseItems, htype]
  rfl

/-- From a position outside the data, where an item that is too long leads, nothing is read. -/
theorem parseItems_outside {offset : Int} (h : offset < 0 ∨ data.length < offset) (count : Nat) :
    parseItems data ipAddress count offset = none := by
  cases count with
  | zero => rfl
  | succ count =>
    have hslice : data.slice offset 2 = none := if_pos (by omega)
    have hread : readField 2 word data offset data.length = none := by
      rw [readField, hslice, Option.map_none, ite_self]
    rw [parseItems, hread]
    rfl

/-- The loop gives null, or what the first identity item says. -/
theorem parseItems_item (count : Nat) {offset : Int} {l : Bytes}
    (h : At data offset data.length l) :
    parseItems data ipAddress count offset = none ∨
      ∃ item, FirstIdentity count l item ∧
        parseItems data ipAddress count offset = identityOf ipAddress item := by
  induction count generalizing offset l with
  | zero => exact Or.inl rfl
  | succ count ih =>
    rcases readField_word h with hnone | ⟨itemTypeId, l', rfl, htype, h⟩
    · left
      rw [parseItems, hnone]
      rfl
    rw [parseItems_succ htype]
    rcases readField_word h with hnone | ⟨itemLength, rest, rfl, hlength, h⟩
    · left
      rw [hnone]
      rfl
    rw [hlength, Option.bind_some]
    dsimp only
    have hstop := h.stop
    have hnonneg := h.pos_nonneg
    have hsize := data.length_le
    have hbound := itemLength.toNat_lt
    by_cases hidentity : itemTypeId = 0x000C
    · rw [if_pos hidentity]
      rcases parseIdentity_item h ipAddress itemLength with hnone | ⟨hfits, heq⟩
      · exact Or.inl hnone
      · obtain ⟨i, htypeId, hbytes, hl⟩ := Item.exists_front itemTypeId hfits
        refine Or.inr ⟨_, ⟨[], i, _, hl, Nat.succ_pos count, ?_, htypeId.trans hidentity, hbytes⟩,
          heq⟩
        intro other hother
        cases hother
    · rw [if_neg hidentity]
      by_cases hfits : itemLength.toNat ≤ rest.length
      · obtain ⟨i, htypeId, -, hl⟩ := Item.exists_front itemTypeId hfits
        rw [intAdd_eq (by omega) (by omega), hl]
        refine (ih (h.drop hfits)).imp_right ?_
        rintro ⟨item, hitem, heq⟩
        exact ⟨item, hitem.cons (fun h => hidentity (htypeId.symm.trans h)), heq⟩
      · left
        refine parseItems_outside ?_ count
        by_cases hwrap : offset + 2 + 2 + itemLength.toNat < 2147483648
        · rw [intAdd_eq (by omega) hwrap]
          omega
        · exact Or.inl (intAdd_neg (by omega) (by omega))

/-- The header is refused, or the items are read as many as the count behind it says. -/
theorem parseListIdentityResponse_items (data : Buffer) (ipAddress : String) :
    parseListIdentityResponse (some data) ipAddress = none ∨
      ∃ header count l, data.bytes = header ++ (le16 count ++ l) ∧ header.length = 24 ∧
        At data 26 data.length l ∧ parseListIdentityResponse (some data) ipAddress =
          parseItems data ipAddress count.toNat 26 := by
  rw [parseListIdentityResponse, Option.bind_eq_bind, Option.bind_some]
  by_cases hlength : data.length < 24
  · exact Or.inl (if_pos hlength)
  have hlong : 24 ≤ data.bytes.length := Int.ofNat_le.mp (Int.not_lt.mp hlength)
  have hheader : (data.bytes.take 24).length = 24 := List.length_take_of_le hlong
  rw [if_neg hlength]
  rcases (data.slice 0 2).map word with _ | command
  · exact Or.inl rfl
  rw [Option.bind_eq_bind, Option.bind_some]
  by_cases hcommand : command ≠ 0x0063
  · exact Or.inl (if_pos hcommand)
  rw [if_neg hcommand]
  rcases (data.slice 2 2).map word with _ | commandSpecificLength
  · exact Or.inl rfl
  rw [Option.bind_eq_bind, Option.bind_some]
  by_cases hspecific : commandSpecificLength = 0 ∨
      data.length < intAdd 24 commandSpecificLength.toNat
  · exact Or.inl (if_pos hspecific)
  rw [if_neg hspecific]
  rcases (data.slice 8 4).map dword with _ | encapsulationStatus
  · exact Or.inl rfl
  rw [Option.bind_eq_bind, Option.bind_some]
  by_cases hstatus : encapsulationStatus ≠ 0
  · exact Or.inl (if_pos hstatus)
  rw [if_neg hstatus]
  have hat : At data 24 data.length (data.bytes.drop 24) := by
    simpa [hheader] using At.to_end (List.take_append_drop 24 data.bytes).symm
  rcases readField_word hat with hnone | ⟨count, l, hl, hread, hat⟩
  · rw [hnone]
    exact Or.inl rfl
  rw [hread, Option.bind_some]
  by_cases hcount : count = 0
  · exact Or.inl (if_pos hcount)
  · refine Or.inr ⟨data.bytes.take 24, count, l, ?_, hheader, hat, if_neg hcount⟩
    rw [← hl, List.take_append_drop]

/-- The bytes of the first identity item of a reply, behind its header and the count. -/
def IdentityItemIn (data item : Bytes) : Prop :=
  ∃ header count l, data = header ++ (le16 count ++ l) ∧ header.length = 24 ∧
    FirstIdentity count.toNat l item

/-- **Any bytes.**  The parser ends, with null or with what the first identity item says. -/
theorem parseListIdentityResponse_item (data : Buffer) (ipAddress : String) :
    parseListIdentityResponse (some data) ipAddress = none ∨
      ∃ item, IdentityItemIn data.bytes item ∧
        parseListIdentityResponse (some data) ipAddress = identityOf ipAddress item := by
  rcases parseListIdentityResponse_items data ipAddress with
    hnone | ⟨header, count, l, hsplit, hheader, hat, hitems⟩
  · exact Or.inl hnone
  · rw [hitems]
    refine (parseItems_item count.toNat hat).imp_right ?_
    rintro ⟨item, hfirst, heq⟩
    exact ⟨item, ⟨header, count, l, hsplit, hheader, hfirst⟩, heq⟩

/-! ## 5. The reply of the device -/

@[simp] theorem dword_le32 (v : UInt32) : dword (le32 v) = v := by
  apply le32_injective
  rw [dword, le32_glue32]
  rfl

@[simp] theorem takeField_le16 (v : UInt16) (rest : Bytes) :
    takeField 2 word (le16 v ++ rest) = some (v, rest) := by
  have htake := takeField_append word (le16 v) rest
  rwa [le16_length, word_le16] at htake

@[simp] theorem takeField_le32 (v : UInt32) (rest : Bytes) :
    takeField 4 dword (le32 v ++ rest) = some (v, rest) := by
  have htake := takeField_append dword (le32 v) rest
  rwa [le32_length, dword_le32] at htake

@[simp] theorem takeField_octet (b : UInt8) (rest : Bytes) :
    takeField 1 octet ([b] ++ rest) = some (b, rest) :=
  takeField_append octet [b] rest

/-- The name in front of the state byte. -/
theorem nameOf_encoded {name : Bytes} (hname : name.length < 256) (state : UInt8) :
    nameOf ([UInt8.ofNat name.length] ++ name ++ [state]) = asciiGetString name := by
  have hcount : (UInt8.ofNat name.length).toNat = name.length := by
    rw [UInt8.toNat_ofNat']
    exact Nat.mod_eq_of_lt hname
  rw [List.append_assoc, List.singleton_append, nameOf, hcount, List.take_left]
  cases name with
  | nil => rfl
  | cons b name =>
    rw [if_pos]
    refine ⟨?_, by simp⟩
    rw [UInt8.lt_iff_toNat_lt, hcount]
    exact Nat.succ_pos _

/-- The device the tool makes of an item that the device encoded. -/
def deviceOf (o : CipIdentityObject) (ipAddress : String) : DiscoveredDevice where
  ipAddress := ipAddress
  vendorId := o.vendorId
  productCode := o.productCode
  productName := asciiGetString o.productName
  serialNumber := toStringX8 o.serialNumber
  state := (o.status &&& 0x0F).toUInt8
  deviceType := getDeviceType (o.status &&& 0x0F).toUInt8

theorem identityOf_identityItem (o : CipIdentityObject) (ip : UInt32) (ipAddress : String) :
    identityOf ipAddress (identityItem o ip) = some (deviceOf o ipAddress) := by
  have hlen := identityItem_length o ip
  have hfront : (le16 kSupportedProtocolVersion ++
      encapsulateIpAddress (htons kOpenerEthernetPort) ip ++ List.replicate 8 0).length = 18 := rfl
  rw [identityOf, if_neg (by omega)]
  simp only [identityItem, List.append_assoc]
  rw [← List.append_assoc (le16 _), ← List.append_assoc (le16 _ ++ _), List.drop_left' hfront]
  simp only [takeField_le16, takeField_le32, takeField_octet, Option.bind_eq_bind,
    Option.bind_some]
  rw [← List.append_assoc [UInt8.ofNat _], nameOf_encoded o.name_length]
  rfl

/-- The reply as the tool receives it. -/
def reply (receiveData : EncapsulationData) (o : CipIdentityObject) (ip : UInt32) : Buffer where
  bytes := encapsulateListIdentityResponseMessage receiveData o ip
  size := (response_length_le receiveData o ip).trans (by omega)

/-- A header that passes its checks, and the count after it. -/
theorem parseListIdentityResponse_header {specific count : UInt16} {rest : Bytes}
    {receiveData : EncapsulationData} (hcommand : receiveData.commandCode = 0x0063)
    (hdata : data.bytes = generateEncapsulationHeader receiveData specific 0 ++
      (le16 count ++ rest))
    (hspecific : specific.toNat = (le16 count ++ rest).length) (hcount : count ≠ 0) :
    parseListIdentityResponse (some data) ipAddress =
      parseItems data ipAddress count.toNat 26 := by
  have hlength : data.length = 24 + specific.toNat := by
    rw [Buffer.length, hdata, List.length_append, generateEncapsulationHeader_length, hspecific]
    rfl
  have hbound := specific.toNat_lt
  have hpos : 0 < specific.toNat := by
    rw [hspecific, List.length_append, le16_length]
    omega
  have hstart : At data 0 data.length data.bytes := @At.to_end data data.bytes [] rfl
  simp only [hdata, generateEncapsulationHeader, List.append_assoc] at hstart
  have hcommand' : data.slice 0 2 = some (le16 receiveData.commandCode) := hstart.slice_append
  have hat := hstart.skip
  have hspecific' : data.slice 2 2 = some (le16 specific) := hat.slice_append
  have hstatus : data.slice 8 4 = some (le32 0) := hat.skip.skip.slice_append
  have hitems : At data 24 data.length (le16 count ++ rest) := by
    simpa using At.to_end hdata
  have hread : readField 2 word data 24 data.length = some (count, 26) := by
    simpa using hitems.readField_append (by simp) word
  have hlong : intAdd 24 specific.toNat = 24 + specific.toNat := intAdd_eq (by omega) (by omega)
  have hfits : ¬(specific = 0 ∨ data.length < intAdd 24 specific.toNat) := by
    rintro (rfl | hshort)
    · exact absurd hpos (by simp)
    · omega
  rw [parseListIdentityResponse, Option.bind_eq_bind, Option.bind_some, if_neg (by omega),
    hcommand', hspecific', hstatus, hread]
  simp only [Option.map_some, word_le16, dword_le32, Option.bind_eq_bind, Option.bind_some]
  rw [if_neg (by simp [hcommand]), if_neg hfits, if_neg (by simp), if_neg hcount]

/-- **The reply is read as the device** but for the state, which is taken from the status. -/
theorem parseListIdentityResponse_reply {receiveData : EncapsulationData}
    (hcommand : receiveData.commandCode = kEncapsulationCommandListIdentity)
    (o : CipIdentityObject) (ip : UInt32) (ipAddress : String) :
    parseListIdentityResponse (some (reply receiveData o ip)) ipAddress =
      some (deviceOf o ipAddress) := by
  have hdata : (reply receiveData o ip).bytes =
      generateEncapsulationHeader receiveData (listIdentityGetCipIdentityItemLength o + 2 + 2 + 2)
        0 ++ (le16 1 ++ encodeListIdentityCipIdentityItem o ip) := List.append_assoc ..
  have hspecific := commandSpecificDataLength_toNat o ip
  have hitem : At (reply receiveData o ip) 26 (reply receiveData o ip).length
      (le16 0x0C ++ (le16 (listIdentityGetCipIdentityItemLength o) ++ identityItem o ip)) := by
    have hat := At.to_end (hdata.trans (List.append_assoc _ _ _).symm)
    simpa [encodeListIdentityCipIdentityItem] using hat
  have htype : readField 2 word (reply receiveData o ip) 26 (reply receiveData o ip).length =
      some (0x0C, 28) := by
    simpa using hitem.readField_append (by simp) word
  have hlength : readField 2 word (reply receiveData o ip) 28 (reply receiveData o ip).length =
      some (listIdentityGetCipIdentityItemLength o, 30) := by
    simpa using hitem.skip.readField_append (by simp) word
  have hend : At (reply receiveData o ip) 30
      (30 + (listIdentityGetCipIdentityItemLength o).toNat) (identityItem o ip) := by
    have hat := hitem.skip.skip.take (itemLength_toNat o ip).le
    rwa [itemLength_toNat o ip, List.take_length] at *
  have hbound := (listIdentityGetCipIdentityItemLength o).toNat_lt
  rw [parseListIdentityResponse_header hcommand hdata hspecific (by decide)]
  change parseItems _ _ (0 + 1) _ = _
  rw [parseItems_succ htype, hlength, Option.bind_some, if_pos rfl,
    parseIdentity_eq hend (by omega), identityOf_identityItem]

/-! ## 6. What the tool shows -/

/-- An ASCII name is read character by character. -/
theorem asciiGetString_toList {name : Bytes} (hascii : ∀ b ∈ name, b < 0x80) :
    (asciiGetString name).toList.map Char.toNat = name.map UInt8.toNat := by
  rw [asciiGetString, String.toList_ofList, List.map_map]
  apply List.map_congr_left
  intro b hb
  rw [Function.comp_apply, if_pos (hascii b hb)]
  rfl

/-- The tool shows the device that answered. -/
structure SameDevice (o : CipIdentityObject) (d : DiscoveredDevice) : Prop where
  vendorId : d.vendorId = o.vendorId
  productCode : d.productCode = o.productCode
  serialNumber : d.serialNumber = toStringX8 o.serialNumber
  productName : d.productName.toList.map Char.toNat = o.productName.map UInt8.toNat
  state : d.state = o.state

/-- The reply about one identity object is read as the same device. -/
def RoundTrips (receiveData : EncapsulationData) (o : CipIdentityObject) (ip : UInt32)
    (ipAddress : String) : Prop :=
  ∃ d, parseListIdentityResponse (some (reply receiveData o ip)) ipAddress = some d ∧
    SameDevice o d

/-- Any bytes are read as null, or as what their first identity item says. -/
def NullOrItem (data : Option Buffer) (ipAddress : String) : Prop :=
  parseListIdentityResponse data ipAddress = none ∨
    ∃ bytes ∈ data.map Buffer.bytes, ∃ item, IdentityItemIn bytes item ∧
      parseListIdentityResponse data ipAddress = identityOf ipAddress item

theorem nullOrItem (data : Option Buffer) (ipAddress : String) : NullOrItem data ipAddress := by
  cases data with
  | none => exact Or.inl rfl
  | some data =>
    rcases parseListIdentityResponse_item data ipAddress with hnone | ⟨item, hitem, heq⟩
    · exact Or.inl hnone
    · exact Or.inr ⟨data.bytes, rfl, item, hitem, heq⟩

theorem roundTrips_iff {receiveData : EncapsulationData}
    (hcommand : receiveData.commandCode = kEncapsulationCommandListIdentity)
    {o : CipIdentityObject} (hascii : ∀ b ∈ o.productName, b < 0x80) (ip : UInt32)
    (ipAddress : String) :
    RoundTrips receiveData o ip ipAddress ↔ (o.status &&& 0x0F).toUInt8 = o.state := by
  rw [RoundTrips, parseListIdentityResponse_reply hcommand]
  constructor
  · rintro ⟨d, hd, hsame⟩
    cases hd
    exact hsame.state
  · intro hstate
    exact ⟨_, rfl, rfl, rfl, rfl, asciiGetString_toList hascii, hstate⟩

/-- **The discovery round trip.**  For every object with an ASCII name the reply comes back as the
device exactly if its state is the low half of the low byte of its status; and any bytes give null
or what their first identity item says. -/
theorem listIdentity_roundTrip_iff {receiveData : EncapsulationData}
    (hcommand : receiveData.commandCode = kEncapsulationCommandListIdentity)
    {o : CipIdentityObject} (hascii : ∀ b ∈ o.productName, b < 0x80) (ip : UInt32)
    (ipAddress : String) :
    (RoundTrips receiveData o ip ipAddress ↔ (o.status &&& 0x0F).toUInt8 = o.state) ∧
      ∀ data, NullOrItem data ipAddress :=
  ⟨roundTrips_iff hcommand hascii ip ipAddress, fun data => nullOrItem data ipAddress⟩

/-- The request of `CreateListIdentityRequest`. -/
def listIdentityRequest : EncapsulationData where
  commandCode := kEncapsulationCommandListIdentity
  senderContext := List.replicate 8 0
  context_length := rfl

/-- The device of `devicedata.h`. -/
def esp32p4 (status : UInt16) (state : UInt8) : CipIdentityObject where
  vendorId := 55512
  deviceType := 7
  productCode := 1
  majorRevision := 1
  minorRevision := 0
  status := status
  serialNumber := 123456789
  productName := [0x45, 0x53, 0x50, 0x33, 0x32, 0x50, 0x34, 0x2D, 0x45, 0x49, 0x50]
  state := state
  name_length := by decide

/-- Owned and in its self test, the two happen to agree. -/
theorem selfTesting_roundTrips :
    RoundTrips listIdentityRequest (esp32p4 0x0001 kStateSelfTesting) 0 "192.168.1.20" := by
  have hascii : ∀ b ∈ (esp32p4 0x0001 kStateSelfTesting).productName, b < 0x80 := by
    simp [esp32p4]
  exact (listIdentity_roundTrip_iff rfl hascii 0 "192.168.1.20").1.mpr (by decide)

/-- Operational with a connection in run mode, extended status 0x60: the tool shows state 0. -/
theorem operational_shown_unknown :
    ¬RoundTrips listIdentityRequest (esp32p4 0x0060 kStateOperational) 0 "192.168.1.20" := by
  have hascii : ∀ b ∈ (esp32p4 0x0060 kStateOperational).productName, b < 0x80 := by
    simp [esp32p4]
  rw [roundTrips_iff rfl hascii]
  decide

end GroundTruth.Discovery
