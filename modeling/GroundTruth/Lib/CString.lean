/-
# Strings in memory, and the search for one

A string is what memory holds up to the first NUL.  `search` finds the first place where a
pattern stands and a test on the place holds; `strstr` is the search without a test.

`search_eq_some_iff` says what is found.  The lemmas after it say where a search that runs into a
known text stops: the pattern cannot begin with a byte that is not its first.

`Stands` says the same of memory byte by byte, with no string and no search in it, and
`search_first` and `search_none` connect the two.
-/
import Mathlib.Data.Nat.Find
import GroundTruth.Lib.Bytes

namespace GroundTruth.Lib

/-! ## 1. Strings -/

/-- The bytes of a string literal. -/
def ascii (s : String) : Bytes := s.toList.map fun c => c.toNat.toUInt8

/-- The string at the start of memory. -/
def cstr (mem : Bytes) : Bytes := mem.takeWhile (· ≠ 0)

@[simp] theorem cstr_nil : cstr [] = [] := rfl

@[simp] theorem cstr_zero (mem : Bytes) : cstr (0 :: mem) = [] := rfl

theorem cstr_append {s : Bytes} (h : 0 ∉ s) (mem : Bytes) : cstr (s ++ mem) = s ++ cstr mem := by
  refine List.takeWhile_append_of_pos ?_
  intro b hb
  have hne : b ≠ 0 := fun h0 => h (h0 ▸ hb)
  simpa using hne

theorem cstr_cons {b : UInt8} (h : b ≠ 0) (mem : Bytes) : cstr (b :: mem) = b :: cstr mem :=
  List.takeWhile_cons_of_pos (by simpa using h)

/-- A NUL ends the string, wherever it is. -/
theorem cstr_append_zero (s mem : Bytes) : cstr (s ++ 0 :: mem) = cstr s := by
  induction s with
  | nil => rfl
  | cons b s ih =>
    by_cases hb : b = 0
    · subst hb
      rfl
    · rw [List.cons_append, cstr_cons hb, cstr_cons hb, ih]

theorem cstr_of_zero_not_mem {s : Bytes} (h : 0 ∉ s) : cstr s = s := by
  have happend := cstr_append h []
  rwa [List.append_nil, cstr_nil, List.append_nil] at happend

theorem zero_not_mem_cstr (mem : Bytes) : 0 ∉ cstr mem := by
  intro h
  have hall : (cstr mem).all (fun b => decide (b ≠ 0)) = true := List.all_takeWhile
  simpa using List.all_eq_true.1 hall 0 h

/-- A byte that is not NUL begins a string. -/
theorem cstr_ne_nil_iff (mem : Bytes) (pos : Nat) :
    cstr (mem.drop pos) ≠ [] ↔ mem.getD pos 0 ≠ 0 := by
  have hhead : mem.getD pos 0 = (mem.drop pos).headD 0 := by
    rw [List.getD_eq_getElem?_getD, List.headD_eq_head?_getD, List.head?_drop]
  rw [hhead]
  cases mem.drop pos with
  | nil => simp
  | cons b rest =>
    by_cases hb : b = 0
    · subst hb
      simp
    · simp [cstr_cons hb, hb]

/-! ## 2. The search -/

/-- The first place, counted from `i`, where the pattern stands and the test holds. -/
def search (ok : Nat → Bool) (pat : Bytes) : Nat → Bytes → Option Nat
  | i, [] => if pat = [] ∧ ok i = true then some i else none
  | i, c :: s => if pat <+: c :: s ∧ ok i = true then some i else search ok pat (i + 1) s

/-- `strstr`. -/
def strstr (mem pat : Bytes) : Option Nat := search (fun _ => true) pat 0 (cstr mem)

variable {ok : Nat → Bool} {pat : Bytes}

theorem search_eq_some_iff {i p : Nat} {s : Bytes} :
    search ok pat i s = some p ↔
      ∃ q, p = i + q ∧ q ≤ s.length ∧ pat <+: s.drop q ∧ ok p = true ∧
        ∀ r < q, ¬(pat <+: s.drop r ∧ ok (i + r) = true) := by
  induction s generalizing i with
  | nil =>
    simp only [search, List.length_nil, List.drop_nil, List.prefix_nil]
    constructor
    · intro h
      split at h
      · rename_i hp
        obtain rfl : i = p := by simpa using h
        exact ⟨0, rfl, Nat.le_refl _, hp.1, hp.2, fun r hr => absurd hr (Nat.not_lt_zero r)⟩
      · cases h
    · rintro ⟨q, rfl, hq, hpat, hok, -⟩
      obtain rfl : q = 0 := Nat.le_zero.1 hq
      rw [if_pos ⟨hpat, hok⟩]
      rfl
  | cons c s ih =>
    simp only [search]
    by_cases hhere : pat <+: c :: s ∧ ok i = true
    · rw [if_pos hhere]
      constructor
      · intro h
        obtain rfl : i = p := by simpa using h
        exact ⟨0, rfl, Nat.zero_le _, hhere.1, hhere.2, fun r hr => absurd hr (Nat.not_lt_zero r)⟩
      · rintro ⟨q, rfl, -, -, -, hfirst⟩
        cases q with
        | zero => rfl
        | succ q => exact absurd hhere (hfirst 0 (Nat.succ_pos q))
    · rw [if_neg hhere, ih]
      constructor
      · rintro ⟨q, rfl, hq, hpat, hok, hfirst⟩
        refine ⟨q + 1, by omega, Nat.succ_le_succ hq, hpat, hok, ?_⟩
        intro r hr
        cases r with
        | zero => exact hhere
        | succ r =>
          have h := hfirst r (Nat.lt_of_succ_lt_succ hr)
          rwa [Nat.add_right_comm, Nat.add_assoc] at h
      · rintro ⟨q, rfl, hq, hpat, hok, hfirst⟩
        cases q with
        | zero => exact absurd ⟨hpat, hok⟩ hhere
        | succ q =>
          refine ⟨q, by omega, Nat.le_of_succ_le_succ hq, hpat, hok, ?_⟩
          intro r hr
          have h := hfirst (r + 1) (Nat.succ_lt_succ hr)
          rwa [← Nat.add_assoc, Nat.add_right_comm] at h

theorem search_eq_none_iff {i : Nat} {s : Bytes} :
    search ok pat i s = none ↔
      ∀ q ≤ s.length, ¬(pat <+: s.drop q ∧ ok (i + q) = true) := by
  induction s generalizing i with
  | nil => simp [search]
  | cons c s ih =>
    simp only [search]
    by_cases hhere : pat <+: c :: s ∧ ok i = true
    · rw [if_pos hhere]
      constructor
      · intro h
        cases h
      · intro h
        exact absurd hhere (h 0 (Nat.zero_le _))
    · rw [if_neg hhere, ih]
      constructor
      · intro h q hq
        cases q with
        | zero => exact hhere
        | succ q =>
          have hq' := h q (Nat.le_of_succ_le_succ hq)
          rwa [Nat.add_right_comm, Nat.add_assoc] at hq'
      · intro h q hq
        have hq' := h (q + 1) (Nat.succ_le_succ hq)
        rwa [← Nat.add_assoc, Nat.add_right_comm] at hq'

/-- **What `strstr` finds**: the first place in the string. -/
theorem strstr_eq_some_iff {mem : Bytes} {p : Nat} :
    strstr mem pat = some p ↔
      p ≤ (cstr mem).length ∧ pat <+: (cstr mem).drop p ∧
        ∀ r < p, ¬pat <+: (cstr mem).drop r := by
  rw [strstr, search_eq_some_iff]
  constructor
  · rintro ⟨q, rfl, hq, hpat, -, hfirst⟩
    rw [Nat.zero_add]
    exact ⟨hq, hpat, fun r hr h => hfirst r hr ⟨h, rfl⟩⟩
  · rintro ⟨hp, hpat, hfirst⟩
    exact ⟨p, (Nat.zero_add p).symm, hp, hpat, rfl, fun r hr h => hfirst r hr h.1⟩

theorem strstr_eq_none_iff {mem : Bytes} :
    strstr mem pat = none ↔ ∀ q ≤ (cstr mem).length, ¬pat <+: (cstr mem).drop q := by
  rw [strstr, search_eq_none_iff]
  simp

/-! ## 3. Where a pattern can stand -/

/-- A pattern does not begin inside a text that lacks its first byte. -/
theorem prefix_drop_append {c : UInt8} {l s : Bytes} {q : Nat} (hc : c ∉ l)
    (h : c :: pat <+: (l ++ s).drop q) :
    l.length ≤ q ∧ c :: pat <+: s.drop (q - l.length) := by
  rw [List.drop_append] at h
  by_cases hq : l.length ≤ q
  · rw [List.drop_eq_nil_of_le hq, List.nil_append] at h
    exact ⟨hq, h⟩
  · obtain ⟨x, xs, hx⟩ := List.exists_cons_of_length_pos
      (by rw [List.length_drop]; omega : 0 < (l.drop q).length)
    rw [hx, List.cons_append, List.cons_prefix_cons] at h
    have hmem : x ∈ l := List.mem_of_mem_drop (hx ▸ List.mem_cons_self)
    exact absurd (h.1 ▸ hmem) hc

/-- What stands inside the front part stands in it. -/
theorem prefix_drop_left {l s : Bytes} {q : Nat} (h : pat <+: (l ++ s).drop q)
    (hq : q + pat.length ≤ l.length) : pat <+: l.drop q := by
  rw [List.drop_append_of_le_length (by omega)] at h
  refine List.prefix_of_prefix_length_le h (List.prefix_append _ _) ?_
  rw [List.length_drop]
  omega

/-! ## 4. Memory, byte by byte -/

/-- The pattern stands at `p`, and no NUL ahead of it. -/
def Stands (mem : Nat → Option UInt8) (pat : Bytes) (p : Nat) : Prop :=
  (∀ k < pat.length, mem (p + k) = pat[k]?) ∧ ∀ j < p, ∃ c, mem j = some c ∧ c ≠ 0

/-- The first of the places that have a property. -/
def First (P : Nat → Prop) (p : Nat) : Prop := P p ∧ ∀ q < p, ¬P q

theorem First.congr {P Q : Nat → Prop} {p : Nat} (h : ∀ q, P q ↔ Q q) : First P p ↔ First Q p := by
  rw [(funext fun q => propext (h q) : P = Q)]

theorem First.unique {P : Nat → Prop} {p q : Nat} (hp : First P p) (hq : First P q) : p = q :=
  Nat.le_antisymm (Nat.le_of_not_lt fun h => hp.2 q h hq.1)
    (Nat.le_of_not_lt fun h => hq.2 p h hp.1)

/-- Places that have a property have a first one. -/
theorem exists_first {P : Nat → Prop} {p : Nat} (h : P p) : ∃ q, First P q := by
  classical
  exact ⟨Nat.find ⟨p, h⟩, Nat.find_spec ⟨p, h⟩, fun _ hq => Nat.find_min ⟨p, h⟩ hq⟩

/-- Bytes without a NUL are inside the string. -/
theorem le_length_cstr {mem : Bytes} {n : Nat} (h : ∀ j < n, ∃ c, mem[j]? = some c ∧ c ≠ 0) :
    n ≤ (cstr mem).length := by
  induction n generalizing mem with
  | zero => exact Nat.zero_le _
  | succ n ih =>
    obtain ⟨c, hc, hne⟩ := h 0 (Nat.succ_pos n)
    cases mem with
    | nil => cases hc
    | cons b mem =>
      obtain rfl : b = c := by simpa using hc
      rw [cstr_cons hne, List.length_cons]
      exact Nat.succ_le_succ (ih fun j hj => h (j + 1) (Nat.succ_lt_succ hj))

/-- Inside the string, it is what memory holds. -/
theorem getElem?_cstr {mem : Bytes} {j : Nat} (h : j < (cstr mem).length) :
    mem[j]? = (cstr mem)[j]? := by
  obtain ⟨rest, hrest⟩ : cstr mem <+: mem := List.takeWhile_prefix _
  conv_lhs => rw [← hrest]
  exact List.getElem?_append_left h

/-- **A pattern without a NUL stands at a place exactly when it stands there in the string.** -/
theorem stands_iff {mem : Bytes} (hpat : 0 ∉ pat) {p : Nat} :
    Stands (fun j => mem[j]?) pat p ↔ p ≤ (cstr mem).length ∧ pat <+: (cstr mem).drop p := by
  constructor
  · rintro ⟨hbytes, hahead⟩
    have hinside : ∀ j < p + pat.length, ∃ c, mem[j]? = some c ∧ c ≠ 0 := by
      intro j hj
      by_cases hjp : j < p
      · exact hahead j hjp
      · obtain ⟨k, rfl⟩ := Nat.exists_eq_add_of_le (Nat.le_of_not_lt hjp)
        have hk : k < pat.length := by omega
        refine ⟨pat[k], (hbytes k hk).trans (List.getElem?_eq_getElem hk), ?_⟩
        exact fun h0 => hpat (h0 ▸ List.getElem_mem hk)
    have hle := le_length_cstr hinside
    refine ⟨by omega, List.prefix_iff_getElem?.2 fun k hk => ?_⟩
    rw [List.getElem?_drop, ← getElem?_cstr (by omega)]
    exact (hbytes k hk).trans (List.getElem?_eq_getElem hk)
  · rintro ⟨hp, hpre⟩
    have hlen := hpre.length_le
    rw [List.length_drop] at hlen
    constructor
    · intro k hk
      dsimp only
      rw [getElem?_cstr (by omega), ← List.getElem?_drop, List.prefix_iff_getElem?.1 hpre k hk,
        List.getElem?_eq_getElem hk]
    · intro j hj
      have hj' : j < (cstr mem).length := by omega
      refine ⟨(cstr mem)[j], (getElem?_cstr hj').trans (List.getElem?_eq_getElem hj'), ?_⟩
      exact fun h0 => zero_not_mem_cstr mem (h0 ▸ List.getElem_mem hj')

/-- **What a search finds in memory**: the first place where the pattern stands and the test
holds. -/
theorem search_first {mem : Bytes} (hpat : 0 ∉ pat) {p : Nat} :
    search ok pat 0 (cstr mem) = some p ↔
      First (fun q => Stands (fun j => mem[j]?) pat q ∧ ok q = true) p := by
  rw [search_eq_some_iff]
  constructor
  · rintro ⟨q, rfl, hq, hhere, hok, hfirst⟩
    rw [Nat.zero_add] at hok ⊢
    refine ⟨⟨(stands_iff hpat).2 ⟨hq, hhere⟩, hok⟩, ?_⟩
    rintro r hr ⟨hstands, hokr⟩
    rw [← Nat.zero_add r] at hokr
    exact hfirst r hr ⟨((stands_iff hpat).1 hstands).2, hokr⟩
  · rintro ⟨⟨hstands, hok⟩, hfirst⟩
    obtain ⟨hp, hhere⟩ := (stands_iff hpat).1 hstands
    refine ⟨p, (Nat.zero_add p).symm, hp, hhere, hok, ?_⟩
    rintro r hr ⟨hthere, hokr⟩
    rw [Nat.zero_add] at hokr
    exact hfirst r hr ⟨(stands_iff hpat).2 ⟨by omega, hthere⟩, hokr⟩

theorem search_none {mem : Bytes} (hpat : 0 ∉ pat) :
    search ok pat 0 (cstr mem) = none ↔
      ∀ q, ¬(Stands (fun j => mem[j]?) pat q ∧ ok q = true) := by
  rw [Option.eq_none_iff_forall_ne_some]
  constructor
  · rintro hnone q hq
    obtain ⟨p, hp⟩ := exists_first
      (P := fun q => Stands (fun j => mem[j]?) pat q ∧ ok q = true) hq
    exact hnone p ((search_first hpat).2 hp)
  · rintro hnone p hp
    exact hnone p ((search_first hpat).1 hp).1

end GroundTruth.Lib
