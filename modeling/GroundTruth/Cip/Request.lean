/-
# Requests and their paths

A request is a service, a path and the data of the service.  `DecodePaddedEPath` (`cipcommon.c`)
reads the path, `EncodeEPath` writes one, and `CreateMessageRouterRequestStructure`
(`cipmessagerouter.c`) takes a request apart for the message router.

* `decodePaddedEPath_iff`: which bytes are taken for a path, and what is read from them;
* `request_read`: what a client sends is read back; after a 16-bit member id the data are read two
  bytes too early;
* `request_inside`: the data of a request lie in it, unless its length is not positive;
* `request_reads`: how far the code looks;
* `epath_read_back`: what `EncodeEPath` writes is read back.
-/
import Mathlib.Algebra.GroupWithZero.Nat
import GroundTruth.Encap.Cpf

namespace GroundTruth.Cip

open GroundTruth.Lib GroundTruth.Encap

/-! ## 1. The code -/

/-- `CipEpath`. -/
structure Epath where
  pathSize : UInt8
  classId : UInt16
  instanceNumber : UInt16
  attributeNumber : UInt16
  deriving DecidableEq, Repr

/-- Where `DecodePaddedEPath` stands: `message_runner` and `number_of_decoded_elements`. -/
structure Decoding where
  epath : Epath
  runner : Nat
  elements : Nat
  deriving DecidableEq, Repr

/-- One turn of the loop; `none` is `kEipStatusError`.  The reserved segment type is compared as
`kSegmentTypeReserved`, which is 7. -/
def decodeSegment (data : Nat → UInt8) (d : Decoding) : Option Decoding :=
  let b := data d.runner
  let narrow := (data (d.runner + 1)).toUInt16
  let wide := getUintFromMessage data (d.runner + 2)
  if b &&& 7 = 7 then none
  else if b = 0x20 then
    some ⟨{ d.epath with classId := narrow }, d.runner + 2, d.elements + 1⟩
  else if b = 0x21 then
    some ⟨{ d.epath with classId := wide }, d.runner + 4, d.elements + 2⟩
  else if b = 0x24 then
    some ⟨{ d.epath with instanceNumber := narrow }, d.runner + 2, d.elements + 1⟩
  else if b = 0x25 then
    some ⟨{ d.epath with instanceNumber := wide }, d.runner + 4, d.elements + 2⟩
  else if b = 0x30 then
    some ⟨{ d.epath with attributeNumber := narrow }, d.runner + 2, d.elements + 1⟩
  else if b = 0x31 then
    some ⟨{ d.epath with attributeNumber := wide }, d.runner + 4, d.elements + 2⟩
  else if b = 0x28 then some ⟨d.epath, d.runner + 2, d.elements + 1⟩
  else if b = 0x29 then some ⟨d.epath, d.runner + 2, d.elements + 2⟩
  else none

/-- The loop; it takes no more turns than the path has words. -/
def decodeSegments (data : Nat → UInt8) : Nat → Decoding → Option Decoding
  | 0, d => some d
  | turns + 1, d =>
    if d.elements < d.epath.pathSize.toNat then
      (decodeSegment data d).bind (decodeSegments data turns)
    else some d

/-- `DecodePaddedEPath` at `pos`: the path, where `message` is then, and `bytes_consumed`. -/
def decodePaddedEPath (data : Nat → UInt8) (pos : Nat) : Option (Epath × Nat × Nat) :=
  let pathSize := data pos
  (decodeSegments data pathSize.toNat ⟨⟨pathSize, 0, 0, 0⟩, pos + 1, 0⟩).map fun d =>
    (d.epath, d.runner, d.elements * 2 + 1)

/-- `CipMessageRouterRequest`; the data begin at `data`. -/
structure MessageRouterRequest where
  service : UInt8
  requestPath : Epath
  data : Nat
  requestDataSize : Nat
  deriving DecidableEq, Repr

inductive RequestError
  | pathSegmentError
  | pathSizeInvalid
  deriving DecidableEq, Repr

/-- A number as `size_t`. -/
def toSize (i : Int) : Nat := (i % 4294967296).toNat

/-- `CreateMessageRouterRequestStructure`; `data_length` becomes an `EipInt16`, and is compared as
`size_t`. -/
def createMessageRouterRequestStructure (data : Nat → UInt8) (dataLength : Int) :
    Except RequestError MessageRouterRequest :=
  let dataLength := (dataLength.bmod 65536 - 1).bmod 65536
  match decodePaddedEPath data 1 with
  | none => .error .pathSegmentError
  | some (epath, message, numberOfDecodedBytes) =>
    if toSize dataLength < numberOfDecodedBytes then .error .pathSizeInvalid
    else .ok ⟨data 0, epath, message, toSize (dataLength - numberOfDecodedBytes)⟩

/-- One id of `EncodeEPath`, after the others; `length` is what is left of the path. -/
def encodeId (code : UInt8) (id : UInt16) (length : UInt32) : Bytes × UInt32 :=
  if id < 256 then ([code, id.toUInt8], length - 1)
  else ([code + 1, 0] ++ le16 id, length - 2)

/-- `EncodeEPath`; `none` is a failed assertion. -/
def encodeEPath (e : Epath) : Option Bytes :=
  let (bytes, length) := encodeId 0x20 e.classId e.pathSize.toUInt32
  let bytes :=
    if 0 < length then
      let (instanceBytes, length) := encodeId 0x24 e.instanceNumber length
      bytes ++ (instanceBytes ++
        if 0 < length then (encodeId 0x30 e.attributeNumber length).1 else [])
    else bytes
  if e.pathSize.toNat * 2 = bytes.length then some bytes else none

/-! ## 2. Segments -/

inductive LogicalType
  | classId
  | instanceId
  | memberId
  | attributeId
  deriving DecidableEq, Repr

/-- The first byte of a segment with an 8-bit value. -/
def LogicalType.code : LogicalType → UInt8
  | .classId => 0x20
  | .instanceId => 0x24
  | .memberId => 0x28
  | .attributeId => 0x30

/-- A logical segment of a padded path. -/
inductive Segment
  | narrow (t : LogicalType) (v : UInt8)
  | wide (t : LogicalType) (pad : UInt8) (v : UInt16)
  deriving DecidableEq, Repr

namespace Segment

def encoded : Segment → Bytes
  | narrow t v => [t.code, v]
  | wide t pad v => [t.code + 1, pad] ++ le16 v

/-- Its size in words. -/
def words : Segment → Nat
  | narrow _ _ => 1
  | wide _ _ _ => 2

/-- How far the decoder goes: it does not step over a 16-bit member id. -/
def stride : Segment → Nat
  | narrow _ _ | wide .memberId _ _ => 2
  | wide _ _ _ => 4

def type : Segment → LogicalType
  | narrow t _ | wide t _ _ => t

def value : Segment → UInt16
  | narrow _ v => v.toUInt16
  | wide _ _ v => v

/-- What a segment says of a path. -/
def put (epath : Epath) (g : Segment) : Epath :=
  match g.type with
  | .classId => { epath with classId := g.value }
  | .instanceId => { epath with instanceNumber := g.value }
  | .memberId => epath
  | .attributeId => { epath with attributeNumber := g.value }

end Segment

def Decoding.after (d : Decoding) (g : Segment) : Decoding :=
  ⟨g.put d.epath, d.runner + g.stride, d.elements + g.words⟩

@[simp] theorem Segment.put_pathSize (epath : Epath) (g : Segment) :
    (g.put epath).pathSize = epath.pathSize := by
  unfold Segment.put
  cases g.type <;> rfl

variable {data data' : Nat → UInt8} {pos : Nat} {d d' : Decoding} {g : Segment}
  {segments : List Segment}

theorem holds_narrow {t : LogicalType} {v : UInt8} :
    Holds data pos (Segment.narrow t v).encoded ↔ data pos = t.code ∧ data (pos + 1) = v := by
  simp [Holds, bytesAt, Segment.encoded, List.range_succ]

theorem holds_wide {t : LogicalType} {pad : UInt8} {v : UInt16} :
    Holds data pos (Segment.wide t pad v).encoded ↔
      data pos = t.code + 1 ∧ data (pos + 1) = pad ∧ getUintFromMessage data (pos + 2) = v := by
  rw [Segment.encoded, holds_append]
  have htwo : Holds data (pos + 2) (le16 v) ↔ getUintFromMessage data (pos + 2) = v :=
    ⟨Holds.uint, fun h => h ▸ bytesAt_two data (pos + 2)⟩
  simp only [List.length_cons, List.length_nil, htwo]
  simp [Holds, bytesAt, List.range_succ, and_assoc]

/-- The code reads a segment as it is. -/
theorem decodeSegment_holds (h : Holds data d.runner g.encoded) :
    decodeSegment data d = some (d.after g) := by
  cases g with
  | narrow t v =>
    obtain ⟨hcode, hvalue⟩ := holds_narrow.mp h
    unfold decodeSegment
    cases t <;> simp only [hcode, hvalue, LogicalType.code] <;> rfl
  | wide t pad v =>
    obtain ⟨hcode, hpad, hvalue⟩ := holds_wide.mp h
    unfold decodeSegment
    cases t <;> simp only [hcode, hvalue, LogicalType.code] <;> rfl

/-- And reads nothing else. -/
theorem exists_segment (h : decodeSegment data d = some d') :
    ∃ g : Segment, Holds data d.runner g.encoded := by
  have hnarrow : ∀ t : LogicalType, data d.runner = t.code →
      ∃ g : Segment, Holds data d.runner g.encoded := fun t ht =>
    ⟨.narrow t (data (d.runner + 1)), holds_narrow.mpr ⟨ht, rfl⟩⟩
  have hwide : ∀ t : LogicalType, data d.runner = t.code + 1 →
      ∃ g : Segment, Holds data d.runner g.encoded := fun t ht =>
    ⟨.wide t (data (d.runner + 1)) (getUintFromMessage data (d.runner + 2)),
      holds_wide.mpr ⟨ht, rfl, rfl⟩⟩
  unfold decodeSegment at h
  dsimp only at h
  split at h
  · cases h
  split at h
  · exact hnarrow .classId ‹_›
  split at h
  · exact hwide .classId ‹_›
  split at h
  · exact hnarrow .instanceId ‹_›
  split at h
  · exact hwide .instanceId ‹_›
  split at h
  · exact hnarrow .attributeId ‹_›
  split at h
  · exact hwide .attributeId ‹_›
  split at h
  · exact hnarrow .memberId ‹_›
  split at h
  · exact hwide .memberId ‹_›
  · cases h

/-! ## 3. Paths -/

/-- Segments one after the other, as the decoder goes. -/
def Found (data : Nat → UInt8) : Nat → List Segment → Prop
  | _, [] => True
  | pos, g :: segments => Holds data pos g.encoded ∧ Found data (pos + g.stride) segments

/-- The loop ends after these segments, not before: `n` words are left of the path. -/
def Covers : Nat → List Segment → Prop
  | n, [] => n = 0
  | n, g :: segments => 0 < n ∧ Covers (n - g.words) segments

def wordsOf (segments : List Segment) : Nat := (segments.map Segment.words).sum

def strides (segments : List Segment) : Nat := (segments.map Segment.stride).sum

/-- The path that segments stand for. -/
def pathOf (pathSize : UInt8) (segments : List Segment) : Epath :=
  segments.foldl (fun epath g => g.put epath) ⟨pathSize, 0, 0, 0⟩

theorem after_foldl (segments : List Segment) (d : Decoding) :
    segments.foldl Decoding.after d = ⟨segments.foldl (fun epath g => g.put epath) d.epath,
      d.runner + strides segments, d.elements + wordsOf segments⟩ := by
  induction segments generalizing d with
  | nil => rfl
  | cons g segments ih =>
    rw [List.foldl_cons, List.foldl_cons, ih]
    simp only [Decoding.after, strides, wordsOf, List.map_cons, List.sum_cons, Nat.add_assoc]

theorem Segment.words_pos (g : Segment) : 0 < g.words := by
  cases g <;> simp [Segment.words]

theorem Segment.words_le (g : Segment) : g.words ≤ 2 := by
  cases g <;> simp [Segment.words]

theorem Segment.stride_le (g : Segment) : g.stride ≤ 2 * g.words := by
  cases g with
  | narrow t v => simp [Segment.stride, Segment.words]
  | wide t pad v => cases t <;> simp [Segment.stride, Segment.words]

theorem decodeSegments_iff {turns : Nat}
    (hturns : d.epath.pathSize.toNat ≤ d.elements + turns) :
    decodeSegments data turns d = some d' ↔ ∃ segments, Found data d.runner segments ∧
      Covers (d.epath.pathSize.toNat - d.elements) segments ∧
      d' = segments.foldl Decoding.after d := by
  induction turns generalizing d with
  | zero =>
    rw [decodeSegments]
    constructor
    · rintro ⟨⟩
      exact ⟨[], trivial, Nat.sub_eq_zero_of_le hturns, rfl⟩
    · rintro ⟨segments, -, hcovers, rfl⟩
      cases segments with
      | nil => rfl
      | cons g segments => exact absurd hcovers.1 (by omega)
  | succ turns ih =>
    rw [decodeSegments]
    by_cases hmore : d.elements < d.epath.pathSize.toNat
    · rw [if_pos hmore]
      have hrest : ∀ g : Segment, ((d.after g).epath.pathSize.toNat ≤
          (d.after g).elements + turns) := by
        intro g
        have hwords := g.words_pos
        simp only [Decoding.after, Segment.put_pathSize]
        omega
      have hleft : ∀ g : Segment, (d.after g).epath.pathSize.toNat - (d.after g).elements =
          d.epath.pathSize.toNat - d.elements - g.words := by
        intro g
        simp only [Decoding.after, Segment.put_pathSize]
        omega
      constructor
      · intro h
        obtain ⟨d₁, hsegment, hloop⟩ := Option.bind_eq_some_iff.mp h
        obtain ⟨g, hg⟩ := exists_segment hsegment
        rw [decodeSegment_holds hg] at hsegment
        cases hsegment
        obtain ⟨segments, hfound, hcovers, rfl⟩ := (ih (hrest g)).mp hloop
        exact ⟨g :: segments, ⟨hg, hfound⟩, ⟨by omega, hleft g ▸ hcovers⟩, rfl⟩
      · rintro ⟨segments, hfound, hcovers, rfl⟩
        cases segments with
        | nil => exact absurd hcovers (by simp only [Covers]; omega)
        | cons g segments =>
          rw [decodeSegment_holds hfound.1, Option.bind_some, ih (hrest g)]
          exact ⟨segments, hfound.2, (hleft g).symm ▸ hcovers.2, rfl⟩
    · rw [if_neg hmore]
      have hzero : d.epath.pathSize.toNat - d.elements = 0 := by omega
      rw [hzero]
      constructor
      · rintro ⟨⟩
        exact ⟨[], trivial, rfl, rfl⟩
      · rintro ⟨segments, -, hcovers, rfl⟩
        cases segments with
        | nil => rfl
        | cons g segments => exact absurd hcovers.1 (Nat.lt_irrefl 0)

/-- **What is taken for a path**: segments that have its words, the last perhaps one too many. -/
theorem decodePaddedEPath_iff {epath : Epath} {message consumed : Nat} :
    decodePaddedEPath data pos = some (epath, message, consumed) ↔ ∃ segments,
      Found data (pos + 1) segments ∧ Covers (data pos).toNat segments ∧
      epath = pathOf (data pos) segments ∧ message = pos + 1 + strides segments ∧
      consumed = wordsOf segments * 2 + 1 := by
  have hiff : ∀ d', decodeSegments data (data pos).toNat ⟨⟨data pos, 0, 0, 0⟩, pos + 1, 0⟩ =
      some d' ↔ _ := fun d' => decodeSegments_iff (by simp)
  rw [decodePaddedEPath, Option.map_eq_some_iff]
  simp only [hiff, Nat.sub_zero]
  constructor
  · rintro ⟨d', ⟨segments, hfound, hcovers, rfl⟩, h⟩
    rw [after_foldl] at h
    cases h
    exact ⟨segments, hfound, hcovers, rfl, rfl, by rw [Nat.zero_add]⟩
  · rintro ⟨segments, hfound, hcovers, rfl, rfl, rfl⟩
    refine ⟨_, ⟨segments, hfound, hcovers, rfl⟩, ?_⟩
    rw [after_foldl, Nat.zero_add]
    rfl

/-! ## 4. Requests -/

/-- The decoder steps over all of it. -/
def Segment.Plain (g : Segment) : Prop := g.stride = g.encoded.length

instance (g : Segment) : Decidable g.Plain := inferInstanceAs (Decidable (_ = _))

theorem Segment.encoded_length (g : Segment) : g.encoded.length = 2 * g.words := by
  cases g <;> rfl

def bytesOf (segments : List Segment) : Bytes := segments.flatMap Segment.encoded

theorem bytesOf_length (segments : List Segment) :
    (bytesOf segments).length = 2 * wordsOf segments := by
  induction segments with
  | nil => rfl
  | cons g segments ih =>
    simp only [bytesOf, wordsOf, List.flatMap_cons, List.length_append, List.map_cons,
      List.sum_cons, g.encoded_length] at ih ⊢
    omega

theorem wordsOf_append (segments segments' : List Segment) :
    wordsOf (segments ++ segments') = wordsOf segments + wordsOf segments' := by
  simp [wordsOf]

theorem strides_append (segments segments' : List Segment) :
    strides (segments ++ segments') = strides segments + strides segments' := by
  simp [strides]

theorem strides_plain (h : ∀ g ∈ segments, g.Plain) : strides segments = 2 * wordsOf segments := by
  induction segments with
  | nil => rfl
  | cons g segments ih =>
    have hg : g.stride = 2 * g.words := (h g List.mem_cons_self).trans g.encoded_length
    have hrest := ih fun g' hg' => h g' (List.mem_cons_of_mem g hg')
    simp only [strides, wordsOf, List.map_cons, List.sum_cons] at hrest ⊢
    omega

theorem found_append {segments' : List Segment} :
    Found data pos (segments ++ segments') ↔
      Found data pos segments ∧ Found data (pos + strides segments) segments' := by
  induction segments generalizing pos with
  | nil => simp [Found, strides]
  | cons g segments ih =>
    rw [List.cons_append, Found, Found, ih, and_assoc]
    simp only [strides, List.map_cons, List.sum_cons, Nat.add_assoc]

theorem found_plain (h : ∀ g ∈ segments, g.Plain) :
    Found data pos segments ↔ Holds data pos (bytesOf segments) := by
  induction segments generalizing pos with
  | nil => simp [Found, bytesOf, Holds, bytesAt]
  | cons g segments ih =>
    have hg : g.stride = g.encoded.length := h g List.mem_cons_self
    rw [Found, ih fun g' hg' => h g' (List.mem_cons_of_mem g hg'), hg]
    exact holds_append.symm

theorem covers_wordsOf (segments : List Segment) : Covers (wordsOf segments) segments := by
  induction segments with
  | nil => rfl
  | cons g segments ih =>
    have hwords := g.words_pos
    have hsum : wordsOf (g :: segments) = g.words + wordsOf segments := by simp [wordsOf]
    refine ⟨by omega, ?_⟩
    rwa [hsum, Nat.add_sub_cancel_left]

/-- The last segment of a path may be a 16-bit member id. -/
def withMember (segments : List Segment) (member : Option (UInt8 × UInt16)) : List Segment :=
  segments ++ member.toList.map fun (pad, v) => .wide .memberId pad v

/-- Its value. -/
def memberBytes (member : Option (UInt8 × UInt16)) : Bytes := member.elim [] fun (_, v) => le16 v

/-- A request as a client sends it. -/
def requestBytes (service : UInt8) (segments : List Segment) (body : Bytes) : Bytes :=
  [service, .ofNat (wordsOf segments)] ++ (bytesOf segments ++ body)

theorem requestBytes_length (service : UInt8) (segments : List Segment) (body : Bytes) :
    (requestBytes service segments body).length = 2 + 2 * wordsOf segments + body.length := by
  simp only [requestBytes, List.length_append, List.length_cons, List.length_nil, bytesOf_length]
  omega

/-- The path is read, and then the decoder is at the value of the member id, if there is one. -/
theorem segments_read {member : Option (UInt8 × UInt16)} (hplain : ∀ g ∈ segments, g.Plain)
    (hdata : Holds data pos (bytesOf (withMember segments member))) :
    Found data pos (withMember segments member) ∧
      strides (withMember segments member) + (memberBytes member).length =
        2 * wordsOf (withMember segments member) ∧
      Holds data (pos + strides (withMember segments member)) (memberBytes member) := by
  cases member with
  | none =>
    have hnone : withMember segments none = segments := List.append_nil segments
    rw [hnone] at hdata ⊢
    refine ⟨(found_plain hplain).mpr hdata, ?_, ?_⟩
    · rw [strides_plain hplain]
      rfl
    · rfl
  | some m =>
    obtain ⟨pad, v⟩ := m
    have hsome : withMember segments (some (pad, v)) = segments ++ [.wide .memberId pad v] := rfl
    have hbytes : bytesOf (segments ++ [.wide .memberId pad v]) =
        bytesOf segments ++ (Segment.wide .memberId pad v).encoded := by
      simp [bytesOf]
    have hlast : strides [.wide .memberId pad v] = 2 := rfl
    rw [hsome, hbytes, holds_append, bytesOf_length, ← strides_plain hplain] at hdata
    rw [hsome, found_append, found_plain hplain, strides_append, wordsOf_append,
      strides_plain hplain, hlast]
    refine ⟨⟨hdata.1, ?_, trivial⟩, rfl, ?_⟩
    · rw [← strides_plain hplain]
      exact hdata.2
    · have hvalue := (holds_append.mp hdata.2).2
      rw [strides_plain hplain] at hvalue
      exact hvalue

theorem pred_bmod {n : Int} (hlow : -32768 < n) (hhigh : n < 32768) :
    (n.bmod 65536 - 1).bmod 65536 = n - 1 := by
  rw [Int.bmod_eq_of_le_mul_two (x := n) (by omega) (by omega)]
  exact Int.bmod_eq_of_le_mul_two (by omega) (by omega)

theorem toSize_nonneg {i : Int} (h : 0 ≤ i) (hlt : i < 4294967296) : (toSize i : Int) = i := by
  rw [toSize, Int.emod_eq_of_lt h hlt, Int.toNat_of_nonneg h]

theorem toSize_neg {i : Int} (h : i < 0) (hle : -4294967296 ≤ i) :
    (toSize i : Int) = i + 4294967296 := by
  rw [toSize, ← Int.add_emod_right, Int.emod_eq_of_lt (by omega) (by omega),
    Int.toNat_of_nonneg (by omega)]

variable {service : UInt8} {body : Bytes} {member : Option (UInt8 × UInt16)}

/-- **Requests are read back**: the service, the path and the data; but after a 16-bit member id at
the end of the path, which the decoder does not step over, its value comes before the data.  (A
member id before another segment has its value taken for a segment, and is not read back.) -/
theorem request_read (hplain : ∀ g ∈ segments, g.Plain)
    (hwords : wordsOf (withMember segments member) ≤ 255)
    (hdata : Holds data 0 (requestBytes service (withMember segments member) body))
    (hlength : (requestBytes service (withMember segments member) body).length < 32768) :
    ∃ r, createMessageRouterRequestStructure data
        (requestBytes service (withMember segments member) body).length = .ok r ∧
      r.service = service ∧
      r.requestPath = pathOf (.ofNat (wordsOf (withMember segments member)))
        (withMember segments member) ∧
      bytesAt data r.data r.requestDataSize = (memberBytes member ++ body).take body.length := by
  generalize hpath : withMember segments member = path at *
  obtain ⟨hfront, hrest⟩ := holds_append.mp hdata
  obtain ⟨hsegments, hbody⟩ := holds_append.mp hrest
  rw [← hpath] at hsegments
  obtain ⟨hfound, hstrides, hmember⟩ := segments_read hplain hsegments
  rw [hpath] at hfound hstrides hmember
  have hservice : data 0 = service ∧ data 1 = .ofNat (wordsOf path) := by
    simpa [Holds, bytesAt, List.range_succ] using hfront
  have hsize : (data 1).toNat = wordsOf path := by
    rw [hservice.2, UInt8.toNat_ofNat', Nat.mod_eq_of_lt (by omega)]
  have hdecode : decodePaddedEPath data 1 =
      some (pathOf (data 1) path, 2 + strides path, wordsOf path * 2 + 1) :=
    decodePaddedEPath_iff.mpr ⟨path, hfound, hsize ▸ covers_wordsOf path, rfl, rfl, rfl⟩
  have hlen := requestBytes_length service path body
  have hn : ((requestBytes service path body).length : Int) - 1 =
      (1 + 2 * wordsOf path + body.length : Nat) := by omega
  have hall : (toSize (((requestBytes service path body).length : Int) - 1) : Int) =
      (1 + 2 * wordsOf path + body.length : Nat) := by
    rw [hn]
    exact toSize_nonneg (by omega) (by omega)
  have hrequest : (toSize (((requestBytes service path body).length : Int) - 1 -
      (wordsOf path * 2 + 1 : Nat)) : Int) = body.length := by
    rw [hn, show ((1 + 2 * wordsOf path + body.length : Nat) : Int) -
      (wordsOf path * 2 + 1 : Nat) = body.length by omega]
    exact toSize_nonneg (by omega) (by omega)
  refine ⟨⟨service, pathOf (data 1) path, 2 + strides path, body.length⟩, ?_, rfl, ?_, ?_⟩
  · rw [createMessageRouterRequestStructure, hdecode]
    dsimp only
    rw [pred_bmod (by omega) (by omega), if_neg (by omega), hservice.1]
    congr 2
    omega
  · rw [hservice.2]
  · have hlast : Holds data (2 + strides path) (memberBytes member ++ body) := by
      refine holds_append.mpr ⟨hmember, ?_⟩
      rw [Nat.add_assoc, hstrides, ← bytesOf_length]
      exact hbody
    have htake := congrArg (List.take body.length) hlast
    rw [← htake]
    simp only [bytesAt, List.length_append, ← List.map_take, List.take_range]
    rw [Nat.min_eq_left (Nat.le_add_left ..)]

/-- A buffer, zero behind the bytes. -/
def buffer (bs : Bytes) : Nat → UInt8 := fun k => bs.getD k 0

/-- A read of attribute 3 of assembly 100. -/
def assemblyPath : List Segment :=
  [.narrow .classId 4, .narrow .instanceId 100, .narrow .attributeId 3]

theorem request_read_member :
    (∃ r, createMessageRouterRequestStructure
        (buffer (requestBytes 0x10 (withMember assemblyPath none) [1, 2, 3])) 11 = .ok r ∧
      bytesAt (buffer (requestBytes 0x10 (withMember assemblyPath none) [1, 2, 3])) r.data
        r.requestDataSize = [1, 2, 3]) ∧
    ∃ r, createMessageRouterRequestStructure
        (buffer (requestBytes 0x10 (withMember assemblyPath (some (0, 0x0807))) [1, 2, 3])) 15 =
          .ok r ∧
      bytesAt (buffer (requestBytes 0x10 (withMember assemblyPath (some (0, 0x0807))) [1, 2, 3]))
        r.data r.requestDataSize = [7, 8, 1] := by
  constructor
  · obtain ⟨r, hr, -, -, hdata⟩ := @request_read
      (buffer (requestBytes 0x10 (withMember assemblyPath none) [1, 2, 3])) assemblyPath 0x10
      [1, 2, 3] none (by decide) (by decide) rfl (by decide)
    exact ⟨r, hr, hdata⟩
  · obtain ⟨r, hr, -, -, hdata⟩ := @request_read
      (buffer (requestBytes 0x10 (withMember assemblyPath (some (0, 0x0807))) [1, 2, 3]))
      assemblyPath 0x10 [1, 2, 3] (some (0, 0x0807)) (by decide) (by decide) rfl (by decide)
    exact ⟨r, hr, hdata⟩

/-! ## 5. Where the data lie -/

theorem covers_le {n : Nat} (h : Covers n segments) : wordsOf segments ≤ n + 1 := by
  induction segments generalizing n with
  | nil => exact Nat.zero_le _
  | cons g segments ih =>
    have hle := g.words_le
    have hrest := ih h.2
    have hsum : wordsOf (g :: segments) = g.words + wordsOf segments := by simp [wordsOf]
    have hpos := h.1
    by_cases hlt : g.words ≤ n
    · omega
    · rw [Nat.sub_eq_zero_of_le (by omega)] at hrest
      have hnil : wordsOf segments = 0 := by
        cases segments with
        | nil => rfl
        | cons g' segments' => exact absurd h.2.1 (by omega)
      omega

theorem strides_le (segments : List Segment) : strides segments ≤ 2 * wordsOf segments := by
  induction segments with
  | nil => exact Nat.le_refl 0
  | cons g segments ih =>
    have hg := g.stride_le
    simp only [strides, wordsOf, List.map_cons, List.sum_cons] at ih ⊢
    omega

/-- **Where the data of a request lie**: in the request, if its length is positive.  With another
length, which items without data have, any path is short enough, and the data have no end. -/
theorem request_inside {n : Int} {r : MessageRouterRequest} (hlow : -32768 < n) (hhigh : n < 32768)
    (h : createMessageRouterRequestStructure data n = .ok r) :
    (((r.data + r.requestDataSize : Nat) : Int) ≤ n ↔ 0 < n) ∧
      (n ≤ 0 → 4294967296 + n ≤ r.requestDataSize + 514) := by
  rw [createMessageRouterRequestStructure, pred_bmod hlow hhigh] at h
  cases hdecode : decodePaddedEPath data 1 with
  | none =>
    rw [hdecode] at h
    cases h
  | some found =>
    obtain ⟨epath, message, consumed⟩ := found
    rw [hdecode] at h
    dsimp only at h
    split at h
    · cases h
    · next hlong =>
      cases h
      obtain ⟨segments, -, hcovers, -, hmessage, hconsumed⟩ := decodePaddedEPath_iff.mp hdecode
      have hwords := covers_le hcovers
      have hstrides := strides_le segments
      have hsize := (data 1).toNat_lt
      dsimp only
      by_cases hpos : 0 < n
      · have hall := @toSize_nonneg (n - 1) (by omega) (by omega)
        have hrest := @toSize_nonneg (n - 1 - consumed) (by omega) (by omega)
        refine ⟨⟨fun _ => hpos, fun _ => ?_⟩, fun hn => absurd hpos (by omega)⟩
        omega
      · have hrest := @toSize_neg (n - 1 - consumed) (by omega) (by omega)
        exact ⟨⟨fun hle => by omega, fun h => absurd h hpos⟩, fun _ => by omega⟩

/-- An item without data. -/
theorem request_inside_empty :
    ∃ r, createMessageRouterRequestStructure (buffer [0x0E, 0]) 0 = .ok r ∧
      4294967296 + (0 : Int) ≤ r.requestDataSize + 514 := by
  have hok : createMessageRouterRequestStructure (buffer [0x0E, 0]) 0 =
      .ok ⟨0x0E, ⟨0, 0, 0, 0⟩, 2, 4294967294⟩ := by decide
  exact ⟨_, hok, (request_inside (by decide) (by decide) hok).2 (by decide)⟩

/-! ## 6. How far the code looks -/

/-- Four zero bytes stop the decoder, and it does not look behind them. -/
theorem decodeSegment_reads {z : Nat} (hzero : ∀ j, z ≤ j → j < z + 4 → data j = 0)
    (hagree : ∀ j, j < z + 4 → data' j = data j) (hd : d.runner < z + 4) :
    decodeSegment data' d = decodeSegment data d ∧
      ∀ d₁, decodeSegment data d = some d₁ → d₁.runner < z + 4 := by
  by_cases hbefore : d.runner < z
  · constructor
    · simp only [decodeSegment, getUintFromMessage, hagree d.runner hd,
        hagree (d.runner + 1) (by omega), hagree (d.runner + 2) (by omega),
        hagree (d.runner + 2 + 1) (by omega)]
    · intro d₁ h
      obtain ⟨g, hg⟩ := exists_segment h
      rw [decodeSegment_holds hg] at h
      cases h
      have hstride := g.stride_le
      have hwords := g.words_le
      simp only [Decoding.after]
      omega
  · have hb : data d.runner = 0 := hzero _ (by omega) hd
    have hnone : decodeSegment data d = none := by
      simp only [decodeSegment, hb]
      rfl
    have hnone' : decodeSegment data' d = none := by
      simp only [decodeSegment, hagree d.runner hd, hb]
      rfl
    rw [hnone, hnone']
    exact ⟨rfl, fun d₁ h => by cases h⟩

theorem decodeSegments_reads {z : Nat} (hzero : ∀ j, z ≤ j → j < z + 4 → data j = 0)
    (hagree : ∀ j, j < z + 4 → data' j = data j) {turns : Nat} (hd : d.runner < z + 4) :
    decodeSegments data' turns d = decodeSegments data turns d := by
  induction turns generalizing d with
  | zero => rfl
  | succ turns ih =>
    obtain ⟨hsegment, hrunner⟩ := decodeSegment_reads hzero hagree hd
    rw [decodeSegments, decodeSegments, hsegment]
    cases hd₁ : decodeSegment data d with
    | none => rfl
    | some d₁ =>
      rw [Option.bind_some, Option.bind_some, ih (hrunner d₁ hd₁)]

/-- **How far the code looks**: a request in a buffer with four bytes of zero behind it is taken
apart without a look behind these, whatever its path says. -/
theorem request_reads {z : Nat} (hzero : ∀ j, z ≤ j → j < z + 4 → data j = 0)
    (hagree : ∀ j, j < z + 4 → data' j = data j) (n : Int) :
    createMessageRouterRequestStructure data' n = createMessageRouterRequestStructure data n := by
  have hpath : decodePaddedEPath data' 1 = decodePaddedEPath data 1 := by
    rw [decodePaddedEPath, decodePaddedEPath, hagree 1 (by omega),
      decodeSegments_reads hzero hagree (Nat.lt_add_left z (by decide : 2 < 4))]
  rw [createMessageRouterRequestStructure, createMessageRouterRequestStructure, hpath,
    hagree 0 (by omega)]

/-- A path of 255 words of which one is there. -/
theorem request_reads_short :
    createMessageRouterRequestStructure
        (fun k => if k < 8 then buffer [0x0E, 255, 0x20, 4] k else 0xAA) 488 =
      createMessageRouterRequestStructure (buffer [0x0E, 255, 0x20, 4]) 488 := by
  have hzero : ∀ j, 4 ≤ j → j < 4 + 4 → buffer [0x0E, 255, 0x20, 4] j = 0 := by
    intro j hj _
    have hnone : ([0x0E, 255, 0x20, 4] : Bytes)[j]? = none := List.getElem?_eq_none hj
    rw [buffer, List.getD_eq_getElem?_getD, hnone, Option.getD_none]
  exact request_reads hzero (fun j hj => if_pos hj) 488

/-! ## 7. Paths of the device -/

/-- The segment that `EncodeEPath` writes for an id. -/
def idSegment (t : LogicalType) (id : UInt16) : Segment :=
  if id < 256 then .narrow t id.toUInt8 else .wide t 0 id

theorem encodeId_eq (t : LogicalType) (id : UInt16) (length : UInt32) :
    encodeId t.code id length =
      ((idSegment t id).encoded, length - .ofNat (idSegment t id).words) := by
  unfold encodeId idSegment
  split <;> rfl

theorem idSegment_value (t : LogicalType) (id : UInt16) : (idSegment t id).value = id := by
  unfold idSegment
  split
  · next hlt =>
    rw [Segment.value, ← UInt16.toNat_inj, UInt8.toNat_toUInt16, UInt16.toNat_toUInt8]
    exact Nat.mod_eq_of_lt (UInt16.lt_iff_toNat_lt.mp hlt)
  · rfl

theorem idSegment_type (t : LogicalType) (id : UInt16) : (idSegment t id).type = t := by
  unfold idSegment
  split <;> rfl

theorem idSegment_plain {t : LogicalType} (ht : t ≠ .memberId) (id : UInt16) :
    (idSegment t id).Plain := by
  unfold idSegment
  split
  · rfl
  · cases t with
    | memberId => exact absurd rfl ht
    | classId | instanceId | attributeId => rfl

/-- The words that are left, counted in 32 bits. -/
theorem left_pos {pathSize : UInt8} {k : Nat} (hk : k < 256) :
    0 < pathSize.toUInt32 - .ofNat k ↔ pathSize.toNat ≠ k := by
  have hsize := pathSize.toNat_lt
  rw [UInt32.lt_iff_toNat_lt, UInt32.toNat_sub, UInt8.toNat_toUInt32, UInt32.toNat_ofNat']
  simp only [UInt32.toNat_zero]
  omega

/-- The segments of a path: as many as it is long enough for. -/
def Epath.written (e : Epath) : List Segment :=
  let c := idSegment .classId e.classId
  let i := idSegment .instanceId e.instanceNumber
  if e.pathSize.toNat = c.words then [c]
  else if e.pathSize.toNat = c.words + i.words then [c, i]
  else [c, i, idSegment .attributeId e.attributeNumber]

theorem encodeEPath_eq (e : Epath) : encodeEPath e =
    if e.pathSize.toNat * 2 = (bytesOf e.written).length then some (bytesOf e.written)
      else none := by
  have hc := (idSegment .classId e.classId).words_le
  have hi := (idSegment .instanceId e.instanceNumber).words_le
  have hone := @left_pos e.pathSize (idSegment .classId e.classId).words (by omega)
  have htwo := @left_pos e.pathSize ((idSegment .classId e.classId).words +
    (idSegment .instanceId e.instanceNumber).words) (by omega)
  have hsub : e.pathSize.toUInt32 - .ofNat (idSegment .classId e.classId).words -
      .ofNat (idSegment .instanceId e.instanceNumber).words = e.pathSize.toUInt32 -
        .ofNat ((idSegment .classId e.classId).words +
          (idSegment .instanceId e.instanceNumber).words) := by
    rw [← UInt32.toNat_inj]
    simp only [UInt32.toNat_sub, UInt32.toNat_ofNat']
    omega
  have hclass : encodeId 0x20 e.classId e.pathSize.toUInt32 = _ := encodeId_eq .classId _ _
  have hinstance : ∀ length, encodeId 0x24 e.instanceNumber length = _ :=
    encodeId_eq .instanceId _
  have hattribute : ∀ length, encodeId 0x30 e.attributeNumber length = _ :=
    encodeId_eq .attributeId _
  rw [encodeEPath, hclass]
  simp only [hinstance, hattribute, hsub, hone, htwo, Epath.written]
  by_cases hc₁ : e.pathSize.toNat = (idSegment .classId e.classId).words
  · have hc₂ : ¬e.pathSize.toNat ≠ (idSegment .classId e.classId).words := fun h => h hc₁
    simp only [if_pos hc₁, if_neg hc₂]
    simp [bytesOf]
  · by_cases hi₁ : e.pathSize.toNat = (idSegment .classId e.classId).words +
      (idSegment .instanceId e.instanceNumber).words
    · have hi₂ : ¬e.pathSize.toNat ≠ (idSegment .classId e.classId).words +
          (idSegment .instanceId e.instanceNumber).words := fun h => h hi₁
      simp only [if_neg hc₁, if_pos (show _ ≠ _ from hc₁), if_pos hi₁, if_neg hi₂]
      simp [bytesOf]
    · simp only [if_neg hc₁, if_pos (show _ ≠ _ from hc₁), if_neg hi₁,
        if_pos (show _ ≠ _ from hi₁)]
      simp [bytesOf]

theorem Epath.written_plain (e : Epath) : ∀ g ∈ e.written, g.Plain := by
  have hids : ∀ g ∈ [idSegment .classId e.classId, idSegment .instanceId e.instanceNumber,
      idSegment .attributeId e.attributeNumber], g.Plain := by
    simp only [List.mem_cons, List.not_mem_nil, or_false]
    rintro g (rfl | rfl | rfl)
    · exact idSegment_plain (by decide) _
    · exact idSegment_plain (by decide) _
    · exact idSegment_plain (by decide) _
  intro g hg
  refine hids g ?_
  rw [Epath.written] at hg
  split at hg
  · simp only [List.mem_cons, List.not_mem_nil, or_false] at hg ⊢
    exact .inl hg
  · split at hg
    · simp only [List.mem_cons, List.not_mem_nil, or_false] at hg ⊢
      exact hg.imp_right .inl
    · exact hg

/-- The ids that the path is long enough for. -/
def Epath.shown (e : Epath) : Epath := pathOf e.pathSize e.written

theorem idSegment_put (epath : Epath) (t : LogicalType) (id : UInt16) :
    (idSegment t id).put epath = match t with
      | .classId => { epath with classId := id }
      | .instanceId => { epath with instanceNumber := id }
      | .memberId => epath
      | .attributeId => { epath with attributeNumber := id } := by
  rw [Segment.put, idSegment_type, idSegment_value]

theorem Epath.shown_iff {e : Epath} (h : e.pathSize.toNat = wordsOf e.written) : e.shown = e ↔
    (e.pathSize.toNat = (idSegment .classId e.classId).words → e.instanceNumber = 0) ∧
      (e.pathSize.toNat ≤ (idSegment .classId e.classId).words +
        (idSegment .instanceId e.instanceNumber).words → e.attributeNumber = 0) := by
  have hi := (idSegment .instanceId e.instanceNumber).words_pos
  have ha := (idSegment .attributeId e.attributeNumber).words_pos
  have hfield : ∀ i a : UInt16, (⟨e.pathSize, e.classId, i, a⟩ : Epath) = e ↔
      e.instanceNumber = i ∧ e.attributeNumber = a := by
    intro i a
    cases e
    simp only [Epath.mk.injEq, true_and, eq_comm]
  rw [Epath.shown, pathOf]
  rw [Epath.written] at h ⊢
  split at h
  · next hc =>
    rw [if_pos hc, List.foldl_cons, List.foldl_nil, idSegment_put, hfield]
    exact ⟨fun h => ⟨fun _ => h.1, fun _ => h.2⟩, fun h => ⟨h.1 hc, h.2 (by omega)⟩⟩
  · next hc =>
    split at h
    · next hci =>
      rw [if_neg hc, if_pos hci]
      simp only [List.foldl_cons, List.foldl_nil, idSegment_put, hfield, true_and]
      exact ⟨fun h => ⟨fun h' => absurd h' hc, fun _ => h⟩, fun h => h.2 (by omega)⟩
    · next hci =>
      rw [if_neg hc, if_neg hci]
      simp only [List.foldl_cons, List.foldl_nil, idSegment_put, true_iff]
      simp only [wordsOf, List.map_cons, List.map_nil, List.sum_cons, List.sum_nil] at h
      exact ⟨fun h' => absurd h' hc, fun h' => by omega⟩

/-- **What `EncodeEPath` writes is read back**, as far as the path goes; and a path is written whole
exactly when the ids that it is too short for are 0. -/
theorem epath_read_back {e : Epath} {bs : Bytes} (h : encodeEPath e = some bs)
    (hdata : Holds data pos (e.pathSize :: bs)) :
    decodePaddedEPath data pos = some (e.shown, pos + 1 + bs.length, bs.length + 1) ∧
      (e.shown = e ↔
        (e.pathSize.toNat = (idSegment .classId e.classId).words → e.instanceNumber = 0) ∧
        (e.pathSize.toNat ≤ (idSegment .classId e.classId).words +
          (idSegment .instanceId e.instanceNumber).words → e.attributeNumber = 0)) := by
  rw [encodeEPath_eq] at h
  split at h
  · next hsize =>
    cases h
    have hwords : e.pathSize.toNat = wordsOf e.written := by
      rw [bytesOf_length] at hsize
      omega
    have hsplit : Holds data pos ([e.pathSize] ++ bytesOf e.written) := hdata
    obtain ⟨hfront, hbytes⟩ := holds_append.mp hsplit
    have hat : data pos = e.pathSize := by simpa [Holds, bytesAt] using hfront
    constructor
    · refine decodePaddedEPath_iff.mpr ⟨e.written, (found_plain e.written_plain).mpr hbytes, ?_, ?_,
        ?_, ?_⟩
      · rw [hat, hwords]
        exact covers_wordsOf e.written
      · rw [hat, Epath.shown]
      · rw [strides_plain e.written_plain, bytesOf_length]
      · rw [bytesOf_length]
        omega
    · exact Epath.shown_iff hwords
  · cases h

/-- The Ethernet link object, instance 1, as the TCP/IP object names it. -/
def physicalLinkPath : Epath := ⟨2, 0xF6, 1, 0⟩

theorem epath_read_back_link :
    decodePaddedEPath (buffer [2, 0x20, 0xF6, 0x24, 1]) 0 = some (physicalLinkPath, 5, 5) := by
  have h : encodeEPath physicalLinkPath = some [0x20, 0xF6, 0x24, 1] := by decide
  obtain ⟨hdecode, hwhole⟩ := epath_read_back h
    (show Holds (buffer [2, 0x20, 0xF6, 0x24, 1]) 0 _ from rfl)
  rwa [hwhole.mpr (by decide)] at hdecode

end GroundTruth.Cip
