/-
# Addresses in text: `ip4addr_aton`

lwIP's parser takes more than dotted quads: one to four numbers, each in decimal, octal or hex, and
whatever follows a blank.  What is meant by a dotted quad is said here without it.

`ip4addrAton_of_quad`: the parser reads a dotted quad as what it says.
-/
import Mathlib.Tactic.Common
import GroundTruth.Tcpip.Object

namespace GroundTruth.Tcpip

open GroundTruth.Lib

/-! ## 1. The parser -/

/-- `lwip_isdigit`. -/
def isDigit (c : UInt8) : Bool := '0'.toUInt8 ≤ c && c ≤ '9'.toUInt8

/-- `lwip_isxdigit`, of what is not a digit. -/
def isHexLetter (c : UInt8) : Bool :=
  ('a'.toUInt8 ≤ c && c ≤ 'f'.toUInt8) || ('A'.toUInt8 ≤ c && c ≤ 'F'.toUInt8)

/-- `lwip_islower`. -/
def isLower (c : UInt8) : Bool := 'a'.toUInt8 ≤ c && c ≤ 'z'.toUInt8

/-- `lwip_isspace`. -/
def isSpace (c : UInt8) : Bool :=
  c = ' '.toUInt8 || c = 12 || c = '\n'.toUInt8 || c = '\r'.toUInt8 || c = '\t'.toUInt8 || c = 11

/-- What a digit stands for. -/
def digitValue (c : UInt8) : UInt32 := (c - '0'.toUInt8).toUInt32

/-- What a letter stands for in hex. -/
def hexValue (c : UInt8) : UInt32 :=
  (c + 10 - (if isLower c = true then 'a'.toUInt8 else 'A'.toUInt8)).toUInt32

/-- The digits of a number in the given base, after some that are worth `val`. -/
def atonDigits (base : UInt32) : UInt32 → Bytes → UInt32 × Bytes
  | val, [] => (val, [])
  | val, c :: cp =>
    if isDigit c = true then
      if base = 8 ∧ 8 ≤ digitValue c then (val, c :: cp)
      else atonDigits base (val * base + digitValue c) cp
    else if base = 16 ∧ isHexLetter c = true then
      atonDigits base ((val <<< 4) ||| hexValue c) cp
    else (val, c :: cp)

/-- A number: hex after `0x`, octal after `0`, or decimal. -/
def atonNumber : Bytes → Option (UInt32 × Bytes)
  | [] => none
  | c :: cp =>
    if isDigit c = false then none
    else if c = '0'.toUInt8 then
      if cp.head? = some 'x'.toUInt8 ∨ cp.head? = some 'X'.toUInt8 then
        some (atonDigits 16 0 cp.tail)
      else some (atonDigits 8 0 cp)
    else some (atonDigits 10 0 (c :: cp))

/-- Numbers with dots between them: those before the last, the last, and what follows.  `room` is
how many may still have a dot after them. -/
def atonParts (room : Nat) (parts : List UInt32) (cp : Bytes) :
    Option (List UInt32 × UInt32 × Bytes) :=
  match atonNumber cp with
  | none => none
  | some (val, rest) =>
    if rest.head? = some '.'.toUInt8 then
      match room with
      | 0 => none
      | room + 1 => atonParts room (parts ++ [val]) rest.tail
    else some (parts, val, rest)

/-- The address that the parts make, in host order. -/
def concoct (val : UInt32) : List UInt32 → Option UInt32
  | [] => some val
  | [a] => if 0xffffff < val ∨ 0xff < a then none else some (val ||| a <<< 24)
  | [a, b] =>
    if 0xffff < val ∨ 0xff < a ∨ 0xff < b then none else some (val ||| (a <<< 24 ||| b <<< 16))
  | a :: b :: c :: _ =>
    if 0xff < val ∨ 0xff < a ∨ 0xff < b ∨ 0xff < c then none
    else some (val ||| (a <<< 24 ||| b <<< 16 ||| c <<< 8))

/-- `ip4addr_aton`, of a string without its NUL. -/
def ip4addrAton (cp : Bytes) : Option UInt32 :=
  match atonParts 3 [] cp with
  | none => none
  | some (parts, val, rest) =>
    let c := rest.headD 0
    if c ≠ 0 ∧ isSpace c = false then none else (concoct val parts).map ntohl

/-! ## 2. Dotted quads -/

/-- The number that decimal digits say. -/
def decimalValue (digits : Bytes) : Nat :=
  digits.foldl (fun n c => n * 10 + (c.toNat - '0'.toNat)) 0

/-- A number from 0 to 255 in decimal, without a superfluous 0 in front. -/
def octet (s : Bytes) : Option UInt32 :=
  if s ≠ [] ∧ s.all isDigit = true ∧ (s.head? = some '0'.toUInt8 → s.length = 1) ∧
      decimalValue s < 256 then
    some (UInt32.ofNat (decimalValue s))
  else none

/-- The address that a dotted quad says, and nothing for any other string. -/
def dottedQuad (s : Bytes) : Option UInt32 :=
  match s.splitOn '.'.toUInt8 with
  | [s₁, s₂, s₃, s₄] =>
    match octet s₁, octet s₂, octet s₃, octet s₄ with
    | some a, some b, some c, some d => some (ntohl (a <<< 24 ||| b <<< 16 ||| c <<< 8 ||| d))
    | _, _, _, _ => none
  | _ => none

/-! ## 3. The parser on dotted quads -/

variable {s rest : Bytes} {a : UInt32}

/-- No number goes on with what comes next. -/
def Stops (rest : Bytes) : Prop := rest = [] ∨ rest.head? = some '.'.toUInt8

theorem Stops.atonDigits (h : Stops rest) (base val : UInt32) :
    atonDigits base val rest = (val, rest) := by
  cases rest with
  | nil => rfl
  | cons c rest =>
    have hc : c = '.'.toUInt8 := by simpa [Stops] using h
    have hletter : ¬(base = 16 ∧ isHexLetter c = true) := by
      rw [hc]
      exact fun h => absurd h.2 (by decide)
    rw [Tcpip.atonDigits, if_neg (by rw [hc]; decide), if_neg hletter]

theorem digitValue_eq {c : UInt8} (h : isDigit c = true) :
    digitValue c = UInt32.ofNat (c.toNat - '0'.toNat) := by
  have hle : '0'.toUInt8 ≤ c := by
    simp only [isDigit, Bool.and_eq_true, decide_eq_true_eq] at h
    exact h.1
  apply UInt32.toNat_inj.1
  rw [digitValue, UInt8.toNat_toUInt32, UInt8.toNat_sub_of_le _ _ hle]
  have hlt := c.toNat_lt
  rw [UInt32.toNat_ofNat_of_lt' (by change _ < 4294967296; omega)]
  rfl

/-- Decimal digits are read as what they say. -/
theorem atonDigits_decimal (hs : s.all isDigit = true) (h : Stops rest) (n : Nat) :
    atonDigits 10 (UInt32.ofNat n) (s ++ rest) =
      (UInt32.ofNat (s.foldl (fun n c => n * 10 + (c.toNat - '0'.toNat)) n), rest) := by
  induction s generalizing n with
  | nil => exact h.atonDigits _ _
  | cons c s ih =>
    rw [List.all_cons, Bool.and_eq_true] at hs
    have hstep : UInt32.ofNat n * 10 + digitValue c =
        UInt32.ofNat (n * 10 + (c.toNat - '0'.toNat)) := by
      rw [digitValue_eq hs.1, UInt32.ofNat_add, UInt32.ofNat_mul]
      rfl
    rw [List.cons_append, atonDigits, if_pos hs.1, if_neg (by simp), hstep, ih hs.2]
    rfl

/-- A number of a dotted quad, in front of a dot or of nothing. -/
theorem atonNumber_octet (ho : octet s = some a) (h : Stops rest) :
    atonNumber (s ++ rest) = some (a, rest) := by
  unfold octet at ho
  split at ho
  · rename_i hoct
    obtain ⟨hne, hdigits, hzero, -⟩ := hoct
    obtain rfl := Option.some.inj ho
    cases s with
    | nil => exact absurd rfl hne
    | cons c s =>
      have hc : isDigit c = true := List.all_eq_true.1 hdigits c List.mem_cons_self
      rw [List.cons_append, atonNumber, if_neg (by simp [hc])]
      by_cases h0 : c = '0'.toUInt8
      · -- a 0 stands alone, and so is not the beginning of `0x`
        have hs : s = [] := by simpa using hzero (by rw [h0]; rfl)
        have hx : ¬(rest.head? = some 'x'.toUInt8 ∨ rest.head? = some 'X'.toUInt8) := by
          rcases h with rfl | hdot
          · simp
          · rw [hdot]
            decide
        rw [if_pos h0, hs, List.nil_append, if_neg hx, h.atonDigits, h0]
        rfl
      · rw [if_neg h0, ← List.cons_append]
        exact congrArg some (atonDigits_decimal hdigits h 0)
  · cases ho

/-- A number of a dotted quad and the dot after it. -/
theorem atonParts_octet (ho : octet s = some a) (room : Nat) (parts : List UInt32) :
    atonParts (room + 1) parts (s ++ '.'.toUInt8 :: rest) =
      atonParts room (parts ++ [a]) rest := by
  rw [atonParts, atonNumber_octet ho (Or.inr rfl)]
  exact if_pos rfl

theorem octet_lt (ho : octet s = some a) : ¬0xff < a := by
  unfold octet at ho
  split at ho
  · rename_i hoct
    obtain rfl := Option.some.inj ho
    rw [UInt32.lt_iff_toNat_lt, UInt32.toNat_ofNat_of_lt' (by change _ < 4294967296; omega)]
    change ¬255 < _
    omega
  · cases ho

/-- **The parser reads a dotted quad** as what it says. -/
theorem ip4addrAton_of_quad (h : dottedQuad s = some a) : ip4addrAton s = some a := by
  have hwhole : ((s.splitOn '.'.toUInt8).intersperse ['.'.toUInt8]).flatten = s :=
    List.intercalate_splitOn '.'.toUInt8
  unfold dottedQuad at h
  split at h
  · rename_i s₁ s₂ s₃ s₄ hsplit
    split at h
    · rename_i a b c d ha hb hc hd
      obtain rfl := Option.some.inj h
      have hs : s = s₁ ++ '.'.toUInt8 :: (s₂ ++ '.'.toUInt8 :: (s₃ ++ '.'.toUInt8 :: s₄)) := by
        rw [← hwhole, hsplit]
        simp
      have hlast : atonParts 0 ([] ++ [a] ++ [b] ++ [c]) s₄ = some ([a, b, c], d, []) := by
        have hnumber : atonNumber s₄ = some (d, []) := by
          simpa using atonNumber_octet hd (Or.inl rfl)
        rw [atonParts, hnumber]
        rfl
      have hsmall : ¬(0xff < d ∨ 0xff < a ∨ 0xff < b ∨ 0xff < c) := by
        rintro (h | h | h | h)
        · exact octet_lt hd h
        · exact octet_lt ha h
        · exact octet_lt hb h
        · exact octet_lt hc h
      rw [ip4addrAton, hs, atonParts_octet ha, atonParts_octet hb, atonParts_octet hc, hlast]
      dsimp only
      rw [if_neg (by simp), concoct, if_neg hsmall, Option.map_some, UInt32.or_comm d]
    · cases h
  · cases h

end GroundTruth.Tcpip
