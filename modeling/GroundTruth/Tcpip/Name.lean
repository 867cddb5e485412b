/-
# The grammar of names

`IsValidDomain` takes a name apart in place: it puts a NUL where the first dot is, checks the label
before it, calls itself on what comes after, and puts the dot back.  `isValidDomainAt` is that
recursion on a buffer, and total because every call begins further on.

* `isValidDomainAt_eq`: it leaves the buffer as it was, and its answer is `isValidDomain` of the
  string;
* `isValidDomain_iff`: that is the grammar without a bound on the labels, every part between the
  dots being a label;
* `name_grammar`: the setters of attributes 5 and 6 accept a name if and only if it is in the
  grammar with the bound, unless it is one label of 64 characters, or a name with a NUL behind it.

The comment at `IsValidNameLabel` has the bound of 63 "already enforced on data reception": what is
enforced there is 64, for the whole host name (`long_label`).  And the check ends at a NUL, where
the attribute does not.
-/
import GroundTruth.Tcpip.Attributes

namespace GroundTruth.Tcpip

open GroundTruth.Lib

/-! ## 1. The check, in place -/

abbrev dot : UInt8 := '.'.toUInt8

abbrev hyphen : UInt8 := '-'.toUInt8

/-- The `while` of `IsValidNameLabel` and what follows it; `last` is `label[-1]`. -/
def labelScan (last : UInt8) : Bytes → Bool
  | [] => last ≠ hyphen
  | b :: rest =>
    if b ≠ 0 ∧ (isalnumC b = true ∨ b = hyphen) then labelScan b rest
    else decide (b = 0) && last ≠ hyphen

/-- `IsValidNameLabel`, of the string at the start of memory. -/
def isValidNameLabelAt : Bytes → Bool
  | [] => false
  | b :: rest => isalnumC b && labelScan b rest

/-- `strchr` of a dot, in the string at `pos`. -/
def strchrDot (buf : Bytes) (pos : Nat) : Option Nat :=
  (strstr (buf.drop pos) [dot]).map (pos + ·)

/-- What a dot that is found parts: the name before it, and memory after it. -/
theorem strchrDot_some {buf : Bytes} {pos p : Nat} (h : strchrDot buf pos = some p) :
    ∃ label rest, buf.drop pos = label ++ dot :: rest ∧ dot ∉ label ∧ 0 ∉ label ∧
      p = pos + label.length := by
  obtain ⟨k, hk, rfl⟩ := Option.map_eq_some_iff.1 h
  obtain ⟨hlen, ⟨after, hafter⟩, hfirst⟩ := strstr_eq_some_iff.1 hk
  obtain ⟨tail, hmem⟩ : cstr (buf.drop pos) <+: buf.drop pos := List.takeWhile_prefix _
  have hsplit : cstr (buf.drop pos) = (cstr (buf.drop pos)).take k ++ dot :: after := by
    have hdrop : (cstr (buf.drop pos)).drop k = dot :: after := hafter.symm
    rw [← hdrop, List.take_append_drop]
  refine ⟨(cstr (buf.drop pos)).take k, after ++ tail, ?_, ?_, ?_, ?_⟩
  · rw [← List.cons_append, ← List.append_assoc, ← hsplit]
    exact hmem.symm
  · intro hdot
    obtain ⟨i, hi, hget⟩ := List.getElem_of_mem hdot
    have hlt : i < k := Nat.lt_of_lt_of_le hi (List.length_take_le _ _)
    refine hfirst i hlt ⟨(cstr (buf.drop pos)).drop (i + 1), ?_⟩
    rw [List.getElem_take] at hget
    rw [List.drop_eq_getElem_cons (Nat.lt_of_lt_of_le hlt hlen), hget]
    rfl
  · exact fun hzero => zero_not_mem_cstr _ (List.mem_of_mem_take hzero)
  · rw [List.length_take, Nat.min_eq_left hlen]

theorem strchrDot_none {buf : Bytes} {pos : Nat} (h : strchrDot buf pos = none) :
    dot ∉ cstr (buf.drop pos) := by
  intro hdot
  obtain ⟨i, hi, hget⟩ := List.getElem_of_mem hdot
  refine strstr_eq_none_iff.1 (Option.map_eq_none_iff.1 h) i (Nat.le_of_lt hi) ?_
  rw [List.drop_eq_getElem_cons hi, hget]
  exact ⟨_, rfl⟩

theorem strchrDot_lt {buf : Bytes} {pos p : Nat} (h : strchrDot buf pos = some p) :
    pos ≤ p ∧ p < buf.length := by
  obtain ⟨label, rest, hmem, -, -, rfl⟩ := strchrDot_some h
  have hlength := congrArg List.length hmem
  rw [List.length_drop, List.length_append, List.length_cons] at hlength
  omega

/-- `IsValidDomain`: the answer, and the buffer as it is left. -/
def isValidDomainAt (buf : Bytes) (pos : Nat) : Bool × Bytes :=
  if buf.getD pos 0 = dot then (false, buf)
  else
    match h : strchrDot buf pos with
    | none => (isValidNameLabelAt (buf.drop pos), buf)
    | some p =>
      let cut := buf.set p 0
      let rc := isValidNameLabelAt (cut.drop pos)
      if cut.getD (p + 1) 0 ≠ 0 then
        let rest := isValidDomainAt cut (p + 1)
        (rc && rest.1, rest.2.set p dot)
      else (false, cut.set p dot)
termination_by buf.length - pos
decreasing_by
  have hp := strchrDot_lt h
  rw [List.length_set]
  omega

/-! ## 2. The buffer and the answer -/

/-- The label check is that of the string. -/
theorem labelScan_eq (last : UInt8) (mem : Bytes) : labelScan last mem =
    ((cstr mem).all (fun b => isalnumC b || b = hyphen) &&
      (last :: cstr mem).getLast? ≠ some hyphen) := by
  induction mem generalizing last with
  | nil => simp [labelScan]
  | cons b mem ih =>
    by_cases hb : b = 0
    · subst hb
      simp [labelScan]
    · have hcstr := cstr_cons hb mem
      rw [labelScan, hcstr]
      by_cases hok : isalnumC b = true ∨ b = hyphen
      · rw [if_pos ⟨hb, hok⟩, ih]
        have hall : (isalnumC b || decide (b = hyphen)) = true := by simpa using hok
        rw [List.all_cons, hall, Bool.true_and, List.getLast?_cons_cons]
      · rw [if_neg fun h => hok h.2]
        have hall : (isalnumC b || decide (b = hyphen)) = false := by simpa using hok
        rw [List.all_cons, hall]
        simp [hb]

theorem isValidNameLabelAt_eq (mem : Bytes) :
    isValidNameLabelAt mem = isValidNameLabel (cstr mem) := by
  cases mem with
  | nil => rfl
  | cons b mem =>
    by_cases hb : b = 0
    · subst hb
      rfl
    · have hcstr := cstr_cons hb mem
      rw [hcstr, isValidNameLabelAt, labelScan_eq, isValidNameLabel, Bool.and_assoc]

/-- Without a dot, what is left is one label. -/
theorem isValidDomainFrom_noDot (label s : Bytes) (h : dot ∉ s) :
    isValidDomainFrom label s = isValidNameLabel (label ++ s) := by
  induction s generalizing label with
  | nil => rw [isValidDomainFrom, List.append_nil]
  | cons b s ih =>
    rw [List.mem_cons, not_or] at h
    rw [isValidDomainFrom, if_neg (Ne.symm h.1), ih _ h.2, List.append_assoc]
    rfl

/-- Up to a dot, a label is taken in. -/
theorem isValidDomainFrom_dot (label s rest : Bytes) (h : dot ∉ s) :
    isValidDomainFrom label (s ++ dot :: rest) =
      (isValidNameLabel (label ++ s) && decide (rest ≠ []) && isValidDomain rest) := by
  induction s generalizing label with
  | nil =>
    rw [List.nil_append, isValidDomainFrom, if_pos rfl, List.append_nil]
    cases label with
    | nil => rfl
    | cons b label => simp [isValidDomain]
  | cons b s ih =>
    rw [List.mem_cons, not_or] at h
    rw [List.cons_append, isValidDomainFrom, if_neg (Ne.symm h.1), ih _ h.2, List.append_assoc]
    rfl

/-- A dot at the start is not a name. -/
theorem isValidDomain_leadingDot (s : Bytes) : isValidDomain (dot :: s) = false := by
  rw [isValidDomain, isValidDomainFrom, if_pos rfl]
  rfl

/-- What is in memory once a dot that has been found is a NUL. -/
theorem cut_memory {buf label rest : Bytes} {pos : Nat}
    (hmem : buf.drop pos = label ++ dot :: rest) :
    (buf.set (pos + label.length) 0).drop pos = label ++ 0 :: rest ∧
      (buf.set (pos + label.length) 0).drop (pos + label.length + 1) = rest ∧
      (buf.set (pos + label.length) 0).set (pos + label.length) dot = buf := by
  have hcut : (buf.set (pos + label.length) 0).drop pos = label ++ 0 :: rest := by
    have hoff : pos + label.length - pos = label.length := by omega
    rw [List.drop_set, if_neg (by omega), hmem, hoff, List.set_append_right _ _ (Nat.le_refl _),
      Nat.sub_self]
    rfl
  refine ⟨hcut, ?_, ?_⟩
  · have hdrop := congrArg (List.drop (label.length + 1)) hcut
    have hlabel : label.drop (label.length + 1) = [] := List.drop_of_length_le (Nat.le_succ _)
    rw [List.drop_drop, ← Nat.add_assoc, List.drop_append, hlabel] at hdrop
    simpa using hdrop
  · have hlength := congrArg List.length hmem
    rw [List.length_drop, List.length_append, List.length_cons] at hlength
    have hlt : pos + label.length < buf.length := by omega
    have hget : buf[pos + label.length] = dot := by
      have hat := congrArg (·[label.length]?) hmem
      simp only [List.getElem?_drop, List.getElem?_append_right (Nat.le_refl _), Nat.sub_self,
        List.getElem?_cons_zero] at hat
      rw [List.getElem?_eq_getElem hlt] at hat
      exact Option.some.inj hat
    rw [List.set_set, ← hget, List.set_getElem_self]

/-- The string of a label with a NUL after it. -/
theorem cstr_label {label : Bytes} (h : 0 ∉ label) (rest : Bytes) :
    cstr (label ++ 0 :: rest) = label := by
  rw [cstr_append_zero, cstr_of_zero_not_mem h]

/-- The string at a label with a dot after it. -/
theorem cstr_dot {label : Bytes} (h : 0 ∉ label) (rest : Bytes) :
    cstr (label ++ dot :: rest) = label ++ dot :: cstr rest := cstr_append h _

/-- The check where no dot is left. -/
theorem isValidDomainAt_last {buf : Bytes} {pos : Nat} (hdot : ¬buf.getD pos 0 = dot)
    (h : strchrDot buf pos = none) :
    isValidDomainAt buf pos = (isValidNameLabelAt (buf.drop pos), buf) := by
  rw [isValidDomainAt, if_neg hdot]
  split
  · rfl
  · next p hsome =>
    rw [h] at hsome
    cases hsome

/-- The check where there is a dot. -/
theorem isValidDomainAt_cut {buf : Bytes} {pos p : Nat} (hdot : ¬buf.getD pos 0 = dot)
    (h : strchrDot buf pos = some p) :
    isValidDomainAt buf pos =
      if (buf.set p 0).getD (p + 1) 0 ≠ 0 then
        (isValidNameLabelAt ((buf.set p 0).drop pos) && (isValidDomainAt (buf.set p 0) (p + 1)).1,
          (isValidDomainAt (buf.set p 0) (p + 1)).2.set p dot)
      else (false, (buf.set p 0).set p dot) := by
  rw [isValidDomainAt, if_neg hdot]
  split
  · next hnone =>
    rw [h] at hnone
    cases hnone
  · next q hq =>
    obtain rfl : p = q := Option.some.inj (h.symm.trans hq)
    rfl

/-- **The check of a name** leaves the buffer as it was, and its answer is that of the string. -/
theorem isValidDomainAt_eq (buf : Bytes) (pos : Nat) :
    isValidDomainAt buf pos = (isValidDomain (cstr (buf.drop pos)), buf) := by
  induction buf, pos using isValidDomainAt.induct with
  | case1 buf pos hdot =>
    have hhead : (buf.drop pos).head? = some dot := by
      rw [List.head?_drop]
      rw [List.getD_eq_getElem?_getD] at hdot
      cases hget : buf[pos]? with
      | none =>
        rw [hget] at hdot
        cases hdot
      | some b =>
        rw [hget] at hdot
        exact congrArg some hdot
    obtain ⟨rest, hrest⟩ := List.head?_eq_some_iff.1 hhead
    have hstring : cstr (dot :: rest) = dot :: cstr rest := @cstr_dot [] List.not_mem_nil rest
    rw [isValidDomainAt, if_pos hdot, hrest, hstring, isValidDomain_leadingDot]
  | case2 buf pos hdot hnone =>
    rw [isValidDomainAt_last hdot hnone, isValidNameLabelAt_eq, isValidDomain,
      isValidDomainFrom_noDot _ _ (strchrDot_none hnone)]
    rfl
  | case3 buf pos hdot p hsome cut hmore ih =>
    obtain ⟨label, rest, hmem, hlabel, hzero, rfl⟩ := strchrDot_some hsome
    obtain ⟨hcut, hrest, hback⟩ := cut_memory hmem
    have hne : cstr rest ≠ [] := by
      rw [← hrest]
      exact (cstr_ne_nil_iff cut _).2 hmore
    rw [isValidDomainAt_cut hdot hsome, if_pos hmore, ih, isValidNameLabelAt_eq, hcut,
      cstr_label hzero, hrest, hback, hmem, cstr_dot hzero, isValidDomain.eq_def (label ++ _),
      isValidDomainFrom_dot _ _ _ hlabel]
    simp [hne]
  | case4 buf pos hdot p hsome cut hend =>
    obtain ⟨label, rest, hmem, hlabel, hzero, rfl⟩ := strchrDot_some hsome
    obtain ⟨hcut, hrest, hback⟩ := cut_memory hmem
    have hnil : cstr rest = [] := by
      by_contra hne
      rw [← hrest] at hne
      exact hend ((cstr_ne_nil_iff cut _).1 hne)
    rw [isValidDomainAt_cut hdot hsome, if_neg hend, hback, hmem, cstr_dot hzero, isValidDomain,
      isValidDomainFrom_dot _ _ _ hlabel]
    simp [hnil]

/-! ## 3. The grammar -/

/-- An ASCII letter or digit. -/
def IsAlnum (b : UInt8) : Prop :=
  (97 ≤ b.toNat ∧ b.toNat ≤ 122) ∨ (65 ≤ b.toNat ∧ b.toNat ≤ 90) ∨ (48 ≤ b.toNat ∧ b.toNat ≤ 57)

/-- Letters, digits and hyphens, with a letter or digit at either end. -/
structure IsLabel (label : Bytes) : Prop where
  first : ∃ b, label.head? = some b ∧ IsAlnum b
  last : ∃ b, label.getLast? = some b ∧ IsAlnum b
  chars : ∀ b ∈ label, IsAlnum b ∨ b = hyphen

/-- Every part between the dots is a label, whatever its length. -/
def Dotted (s : Bytes) : Prop := ∀ label ∈ s.splitOn dot, IsLabel label

/-- No part between the dots is too long for a label. -/
def Short (s : Bytes) : Prop := ∀ label ∈ s.splitOn dot, label.length ≤ 63

/-- A name: nothing, or labels with dots between them. -/
def IsName (s : Bytes) : Prop := s = [] ∨ Dotted s ∧ Short s

theorem isalnumC_iff (b : UInt8) : isalnumC b = true ↔ IsAlnum b := by
  simp [isalnumC, IsAlnum, UInt8.le_iff_toNat_le, or_assoc]
  rfl

theorem isAlnum_ne_hyphen {b : UInt8} (h : IsAlnum b) : b ≠ hyphen := by
  rintro rfl
  revert h
  unfold IsAlnum
  decide

theorem isValidNameLabel_iff (label : Bytes) : isValidNameLabel label = true ↔ IsLabel label := by
  cases label with
  | nil =>
    refine iff_of_false Bool.noConfusion fun h => ?_
    obtain ⟨b, hb, -⟩ := h.first
    cases hb
  | cons b rest =>
    simp only [isValidNameLabel, Bool.and_eq_true, List.all_eq_true, Bool.or_eq_true,
      decide_eq_true_eq, isalnumC_iff]
    constructor
    · rintro ⟨⟨hfirst, hrest⟩, hlast⟩
      have hchars : ∀ c ∈ b :: rest, IsAlnum c ∨ c = hyphen := by
        intro c hc
        rcases List.mem_cons.1 hc with rfl | hc
        · exact .inl hfirst
        · exact hrest c hc
      refine ⟨⟨b, rfl, hfirst⟩, ?_, hchars⟩
      have hget := List.getLast?_eq_some_getLast (List.cons_ne_nil b rest)
      rcases hchars _ (List.getLast_mem (List.cons_ne_nil b rest)) with halnum | hhyphen
      · exact ⟨_, hget, halnum⟩
      · rw [hget, hhyphen] at hlast
        exact absurd rfl hlast
    · intro h
      obtain ⟨c, hc, hfirst⟩ := h.first
      obtain rfl : b = c := Option.some.inj hc
      obtain ⟨c, hc, hlast⟩ := h.last
      refine ⟨⟨hfirst, fun c hc => h.chars c (List.mem_cons_of_mem _ hc)⟩, ?_⟩
      rw [hc]
      exact fun heq => isAlnum_ne_hyphen hlast (Option.some.inj heq)

/-- The scan of a label and of what follows it, in terms of the parts. -/
theorem isValidDomainFrom_iff (label s : Bytes) (h : dot ∉ label) :
    isValidDomainFrom label s = true ↔ Dotted (label ++ s) := by
  induction s generalizing label with
  | nil =>
    rw [isValidDomainFrom, isValidNameLabel_iff, List.append_nil, Dotted,
      List.splitOn_eq_singleton h]
    simp
  | cons b s ih =>
    by_cases hb : b = dot
    · subst hb
      have hparts : Dotted (label ++ dot :: s) ↔ IsLabel label ∧ Dotted s := by
        rw [Dotted, List.splitOn_append_cons_self_of_not_mem h]
        exact List.forall_mem_cons
      rw [isValidDomainFrom, if_pos rfl, hparts, ← isValidNameLabel_iff]
      simp only [Bool.and_eq_true, decide_eq_true_eq, ih [] (by simp), List.nil_append]
      constructor
      · rintro ⟨⟨⟨-, hlabel⟩, -⟩, hrest⟩
        exact ⟨hlabel, hrest⟩
      · rintro ⟨hlabel, hrest⟩
        refine ⟨⟨⟨?_, hlabel⟩, ?_⟩, hrest⟩
        · rintro rfl
          cases hlabel
        · rintro rfl
          have hempty := (isValidNameLabel_iff []).2 (hrest [] (by simp))
          cases hempty
    · rw [isValidDomainFrom, if_neg hb, ih _ (by simp [h, Ne.symm hb]), List.append_assoc]
      rfl

/-- **The check without a bound**: every part between the dots is a label. -/
theorem isValidDomain_iff (s : Bytes) : isValidDomain s = true ↔ Dotted s :=
  isValidDomainFrom_iff [] s (by simp)

/-- The check lets no NUL pass. -/
theorem zero_not_mem_of_valid (label s : Bytes) (h : isValidDomainFrom label s = true) :
    0 ∉ label ++ s := by
  have hlabel : ∀ l : Bytes, isValidNameLabel l = true → 0 ∉ l := by
    intro l hl hzero
    rcases ((isValidNameLabel_iff l).1 hl).chars 0 hzero with hz | hz
    · revert hz
      unfold IsAlnum
      decide
    · exact absurd hz (by decide)
  induction s generalizing label with
  | nil =>
    rw [List.append_nil]
    exact hlabel label h
  | cons b s ih =>
    rw [isValidDomainFrom] at h
    split at h
    · next hb =>
      simp only [Bool.and_eq_true] at h
      have hrest := ih [] h.2
      rw [hb, List.mem_append, List.mem_cons, not_or, not_or]
      exact ⟨hlabel label h.1.1.2, by decide, hrest⟩
    · have hrest := ih _ h
      rwa [List.append_assoc] at hrest

/-! ## 4. The setters -/

/-- The two attributes that are or end in a name. -/
inductive NameAttribute
  | hostname
  | domainName
  deriving DecidableEq

namespace NameAttribute

def number : NameAttribute → Nat
  | hostname => 6
  | domainName => 5

/-- Where the length of the name stands in the data of the request. -/
def offset : NameAttribute → Nat
  | hostname => 0
  | domainName => 20

def max : NameAttribute → Nat
  | hostname => kTcpipMaxHostnameLength
  | domainName => kTcpipMaxDomainLength

/-- The name that the object has. -/
def ofObject (t : CipTcpIpObject) : NameAttribute → CipString
  | hostname => t.hostname
  | domainName => t.interfaceConfiguration.domainName

/-- `host_buf` and `domain_buf`: the octets, and zeros up to one more than fit. -/
def buffer (a : NameAttribute) (name : Bytes) : Bytes :=
  name ++ List.replicate (a.max + 1 - name.length) 0

end NameAttribute

/-- A request that sets a name to octets that are not too many. -/
structure SetRequest.Carries (r : SetRequest) (a : NameAttribute) (name : Bytes) : Prop where
  number : r.attributeNumber = a.number
  length : (r.uint a.offset).toNat = name.length
  octets : r.octets (a.offset + 2) name.length = name
  fits : name.length ≤ a.max

/-- The addresses of a request for attribute 5. -/
def SetRequest.addresses (r : SetRequest) : InterfaceConfiguration where
  ipAddress := ntohl (r.udint 0)
  networkMask := ntohl (r.udint 4)
  gateway := ntohl (r.udint 8)
  nameServer := ntohl (r.udint 12)
  nameServer2 := ntohl (r.udint 16)
  domainName := .empty

/-- Nothing but the name can stand in the way: there is memory for it, and the addresses that come
with a domain name are valid. -/
structure SetRequest.Admits (r : SetRequest) (a : NameAttribute) (name : Bytes) : Prop where
  memory : name ≠ [] → r.alloc = true
  addresses : a = .domainName → cipTcpIpIsValidNetworkConfig r.addresses = true

variable {r : SetRequest} {t : CipTcpIpObject} {nvs : Option NvData} {a : NameAttribute}
  {name : Bytes}

theorem setCipStringByData_iff {alloc : Bool} (s : CipString) :
    (setCipStringByData alloc name s).1 = true ↔ (name ≠ [] → alloc = true) := by
  unfold setCipStringByData
  by_cases hname : name = []
  · simp [hname]
  · cases alloc <;> simp [hname]

theorem setCipStringByData_octets {alloc : Bool}
    (h : (setCipStringByData alloc name .empty).1 = true) :
    (setCipStringByData alloc name .empty).2.string.getD [] = name := by
  have hmemory := (setCipStringByData_iff .empty).1 h
  unfold setCipStringByData
  by_cases hname : name = []
  · subst hname
    rfl
  · rw [if_neg hname, hmemory hname]
    rfl

/-- Both setters go on in this way once they have read the request: there has to be memory for the
name, and then come the checks. -/
def answer (alloc : Bool) (name : Bytes) (ok : Bool) (t u : CipTcpIpObject) :
    GeneralStatus × CipTcpIpObject :=
  if (setCipStringByData alloc name .empty).1 = false then (.notEnoughData, t)
  else if ok = false then (.invalidAttributeValue, t)
  else (.success, u)

theorem answer_success {alloc ok : Bool} {u : CipTcpIpObject} :
    (answer alloc name ok t u).1 = .success ↔ (name ≠ [] → alloc = true) ∧ ok = true := by
  rw [← setCipStringByData_iff .empty]
  unfold answer
  cases (setCipStringByData alloc name .empty).1 with
  | false => simp
  | true => cases ok <;> simp

theorem answer_object {alloc ok : Bool} {u : CipTcpIpObject}
    (h : (answer alloc name ok t u).1 = .success) : (answer alloc name ok t u).2 = u := by
  obtain ⟨hmemory, rfl⟩ := answer_success.1 h
  rw [answer, (setCipStringByData_iff .empty).2 hmemory]
  rfl

/-- What the setter of attribute 6 answers, and the name that it leaves when it accepts. -/
theorem decodeHostName_iff (h : r.Carries .hostname name) :
    ((decodeCipTcpIpInterfaceHostName r t).1 = .success ↔
        r.Admits .hostname name ∧ validName name = true) ∧
      ((decodeCipTcpIpInterfaceHostName r t).1 = .success →
        (decodeCipTcpIpInterfaceHostName r t).2.hostname.string.getD [] = name) := by
  have hlength : (r.uint 0).toNat = name.length := h.length
  have hoctets : r.octets 2 name.length = name := h.octets
  have hfits : ¬kTcpipMaxHostnameLength < name.length := Nat.not_lt.2 h.fits
  obtain ⟨u, hrun, hu⟩ : ∃ u, decodeCipTcpIpInterfaceHostName r t =
      answer r.alloc name (validName name) t u ∧
      u.hostname = (setCipStringByData r.alloc name .empty).2 := by
    unfold decodeCipTcpIpInterfaceHostName
    simp only [hlength, hoctets, if_neg hfits]
    exact ⟨_, rfl, rfl⟩
  rw [hrun]
  constructor
  · rw [answer_success]
    constructor
    · rintro ⟨hmemory, hvalid⟩
      exact ⟨⟨hmemory, fun hdomain => by cases hdomain⟩, hvalid⟩
    · rintro ⟨hadmits, hvalid⟩
      exact ⟨hadmits.memory, hvalid⟩
  · intro hsuccess
    rw [answer_object hsuccess, hu]
    exact setCipStringByData_octets ((setCipStringByData_iff .empty).2 (answer_success.1 hsuccess).1)

/-- What the setter of attribute 5 answers, and the name that it leaves when it accepts. -/
theorem decodeConfiguration_iff (h : r.Carries .domainName name) :
    ((decodeCipTcpIpInterfaceConfiguration r t).1 = .success ↔
        r.Admits .domainName name ∧ validName name = true) ∧
      ((decodeCipTcpIpInterfaceConfiguration r t).1 = .success →
        (decodeCipTcpIpInterfaceConfiguration r t).2.interfaceConfiguration.domainName.string.getD
          [] = name) := by
  have hlength : (r.uint 20).toNat = name.length := h.length
  have hoctets : r.octets 22 name.length = name := h.octets
  have hfits : ¬kTcpipMaxDomainLength < name.length := Nat.not_lt.2 h.fits
  -- the rules for addresses do not look at the name
  have haddresses : ∀ d : CipString, cipTcpIpIsValidNetworkConfig ⟨ntohl (r.udint 0),
      ntohl (r.udint 4), ntohl (r.udint 8), ntohl (r.udint 12), ntohl (r.udint 16), d⟩ =
        cipTcpIpIsValidNetworkConfig r.addresses := fun d => rfl
  obtain ⟨u, hrun, hu⟩ : ∃ u, decodeCipTcpIpInterfaceConfiguration r t =
      answer r.alloc name (cipTcpIpIsValidNetworkConfig r.addresses && validName name) t u ∧
      u.interfaceConfiguration.domainName = (setCipStringByData r.alloc name .empty).2 := by
    unfold decodeCipTcpIpInterfaceConfiguration answer
    simp only [hlength, hoctets, if_neg hfits, haddresses, Bool.and_eq_false_iff]
    exact ⟨_, rfl, rfl⟩
  rw [hrun]
  constructor
  · rw [answer_success, Bool.and_eq_true]
    constructor
    · rintro ⟨hmemory, haddress, hvalid⟩
      exact ⟨⟨hmemory, fun _ => haddress⟩, hvalid⟩
    · rintro ⟨hadmits, hvalid⟩
      exact ⟨hadmits.memory, hadmits.addresses rfl, hvalid⟩
  · intro hsuccess
    rw [answer_object hsuccess, hu]
    exact setCipStringByData_octets ((setCipStringByData_iff .empty).2 (answer_success.1 hsuccess).1)

/-- **What the setter answers**, and the name that it leaves when it accepts. -/
theorem setAttributeSingle_name_iff (h : r.Carries a name) (t : CipTcpIpObject)
    (nvs : Option NvData) :
    ((setAttributeSingle r t nvs).1 = .success ↔ r.Admits a name ∧ validName name = true) ∧
      ((setAttributeSingle r t nvs).1 = .success →
        (a.ofObject (setAttributeSingle r t nvs).2.1).string.getD [] = name) := by
  have hdecoder := h.number
  unfold setAttributeSingle
  cases a with
  | hostname =>
    have hd : decoder r.attributeNumber = some decodeCipTcpIpInterfaceHostName := by
      rw [hdecoder]
      rfl
    rw [hd]
    exact decodeHostName_iff h
  | domainName =>
    have hd : decoder r.attributeNumber = some decodeCipTcpIpInterfaceConfiguration := by
      rw [hdecoder]
      rfl
    rw [hd]
    exact decodeConfiguration_iff h

/-! ## 5. The grammar and the setters -/

/-- A label of 64 characters, and nothing else. -/
def Overlong (name : Bytes) : Prop := name.length = 64 ∧ IsLabel name

/-- Labels with dots between them, and then a NUL. -/
def Trailing (name : Bytes) : Prop := 0 ∈ name ∧ Dotted (cstr name)

/-- The string in a zero-filled buffer is that of the octets. -/
theorem cstr_buffer (h : name.length ≤ a.max) : cstr (a.buffer name) = cstr name := by
  have hzero : List.replicate (a.max + 1 - name.length) (0 : UInt8) =
      0 :: List.replicate (a.max - name.length) 0 := by
    rw [← List.replicate_succ]
    congr 1
    omega
  rw [NameAttribute.buffer, hzero, cstr_append_zero]

theorem validName_iff (name : Bytes) : validName name = true ↔ name = [] ∨ Dotted (cstr name) := by
  rw [validName, Bool.or_eq_true, decide_eq_true_eq, isValidDomain_iff]

theorem zero_not_mem_of_dotted (h : Dotted name) : 0 ∉ name :=
  zero_not_mem_of_valid [] name ((isValidDomain_iff name).2 h)

theorem IsLabel.dot_not_mem (h : IsLabel name) : dot ∉ name := by
  intro hdot
  rcases h.chars dot hdot with halnum | hhyphen
  · revert halnum
    unfold IsAlnum
    decide
  · exact absurd hhyphen (by decide)

/-- One label is a list of one. -/
theorem IsLabel.splitOn (h : IsLabel name) : name.splitOn dot = [name] :=
  List.splitOn_eq_singleton h.dot_not_mem

theorem IsLabel.dotted (h : IsLabel name) : Dotted name := by
  intro label hlabel
  rw [h.splitOn, List.mem_singleton] at hlabel
  rwa [hlabel]

/-- A part stands in the whole. -/
theorem part_infix {label s : Bytes} (h : label ∈ s.splitOn dot) : label <:+: s := by
  obtain ⟨i, hi⟩ := List.mem_iff_getElem?.1 h
  have hmem : label ∈ (s.splitOn dot).intersperse [dot] :=
    List.mem_iff_getElem?.2 ⟨2 * i, by rw [List.getElem?_intersperse_two_mul, hi]⟩
  have hwhole : ((s.splitOn dot).intersperse [dot]).flatten = s := List.intercalate_splitOn dot
  rw [← hwhole]
  exact List.infix_of_mem_flatten hmem

/-- In 64 characters there is room for one label that is too long, and for nothing else. -/
theorem overlong_of_not_short (hfits : name.length ≤ 64) (h : Dotted name) (hlong : ¬Short name) :
    Overlong name := by
  simp only [Short, not_forall] at hlong
  obtain ⟨label, hlabel, hlength⟩ := hlong
  have hinfix := part_infix hlabel
  have hle := hinfix.length_le
  obtain rfl : label = name := hinfix.eq_of_length (by omega)
  exact ⟨by omega, h label hlabel⟩

theorem not_short_of_overlong (h : Overlong name) : ¬Short name := by
  intro hshort
  have hle := hshort name (by rw [h.2.splitOn]; exact List.mem_singleton_self name)
  rw [h.1] at hle
  exact absurd hle (by decide)

/-- The check of the string and the grammar of the octets: they differ on one long label, and on
what has a NUL behind a name. -/
theorem valid_iff_isName (hfits : name.length ≤ 64) :
    (validName name = true ↔ IsName name) ↔ ¬Overlong name ∧ ¬Trailing name := by
  rw [validName_iff]
  constructor
  · intro hiff
    constructor
    · intro hlong
      have hdotted := hlong.2.dotted
      have hstring := cstr_of_zero_not_mem (zero_not_mem_of_dotted hdotted)
      rcases hiff.1 (.inr (by rwa [hstring])) with hnil | ⟨-, hshort⟩
      · rw [hnil] at hlong
        exact absurd hlong.1 (by decide)
      · exact not_short_of_overlong hlong hshort
    · rintro ⟨hzero, hdotted⟩
      rcases hiff.1 (.inr hdotted) with hnil | ⟨hwhole, -⟩
      · rw [hnil] at hzero
        cases hzero
      · exact zero_not_mem_of_dotted hwhole hzero
  · rintro ⟨hlong, htrailing⟩
    constructor
    · rintro (hnil | hdotted)
      · exact .inl hnil
      · have hzero : 0 ∉ name := fun hzero => htrailing ⟨hzero, hdotted⟩
        rw [cstr_of_zero_not_mem hzero] at hdotted
        refine .inr ⟨hdotted, ?_⟩
        by_contra hshort
        exact hlong (overlong_of_not_short hfits hdotted hshort)
    · rintro (hnil | ⟨hdotted, -⟩)
      · exact .inl hnil
      · rw [cstr_of_zero_not_mem (zero_not_mem_of_dotted hdotted)]
        exact .inr hdotted

theorem NameAttribute.max_le (a : NameAttribute) : a.max ≤ 64 := by
  cases a <;> decide

/-- **The grammar of names**: the check ends and leaves every buffer as it was; when nothing but the
name can stand in the way, the setter accepts it if and only if it is a name, exactly when it is not
one label of 64 characters, and no name with a NUL behind it. -/
theorem name_grammar (r : SetRequest) (t : CipTcpIpObject) (nvs : Option NvData) (a : NameAttribute)
    (name : Bytes) (h : r.Carries a name) :
    (∀ buf pos, (isValidDomainAt buf pos).2 = buf) ∧
      ((setAttributeSingle r t nvs).1 = .success ↔
        r.Admits a name ∧ (name = [] ∨ (isValidDomainAt (a.buffer name) 0).1 = true)) ∧
      ((setAttributeSingle r t nvs).1 = .success →
        (a.ofObject (setAttributeSingle r t nvs).2.1).string.getD [] = name) ∧
      (r.Admits a name → (((setAttributeSingle r t nvs).1 = .success ↔ IsName name) ↔
        ¬Overlong name ∧ ¬Trailing name)) := by
  obtain ⟨hiff, hname⟩ := setAttributeSingle_name_iff h t nvs
  refine ⟨fun buf pos => by rw [isValidDomainAt_eq], ?_, hname, fun hadmits => ?_⟩
  · have hcheck : (isValidDomainAt (a.buffer name) 0).1 = isValidDomain (cstr name) := by
      rw [isValidDomainAt_eq, List.drop_zero, cstr_buffer h.fits]
    rw [hiff, hcheck, validName, Bool.or_eq_true, decide_eq_true_eq]
  · have hvalid : (setAttributeSingle r t nvs).1 = .success ↔ validName name = true :=
      hiff.trans (and_iff_right hadmits)
    rw [hvalid]
    exact valid_iff_isName (Nat.le_trans h.fits a.max_le)

/-- Attribute 6, set to a name of fewer than 256 octets. -/
def hostnameRequest (name : Bytes) : SetRequest :=
  ⟨6, name.length + 2, fun i =>
    if i = 0 then name.length.toUInt8 else if i = 1 then 0 else name.getD (i - 2) 0, true, .ok, .ok⟩

theorem name_grammar_hostname :
    (setAttributeSingle (hostnameRequest (ascii "a.b-1")) .default none).1 = .success ↔
      IsName (ascii "a.b-1") := by
  have hcarries : (hostnameRequest (ascii "a.b-1")).Carries .hostname (ascii "a.b-1") :=
    ⟨rfl, by decide, by decide, by decide⟩
  refine ((name_grammar _ .default none .hostname _ hcarries).2.2.2 ⟨fun _ => rfl, ?_⟩).2 ⟨?_, ?_⟩
  · intro hdomain
    cases hdomain
  · exact fun hlong => absurd hlong.1 (by decide)
  · exact fun htrailing => absurd htrailing.1 (by decide)

/-- **A host name of one label of 64 letters** is accepted. -/
theorem long_label :
    ¬∀ (r : SetRequest) (t : CipTcpIpObject) (nvs : Option NvData) (a : NameAttribute)
      (name : Bytes), r.Carries a name → r.Admits a name →
        ((setAttributeSingle r t nvs).1 = .success ↔ IsName name) := by
  intro hall
  let letters : Bytes := List.replicate 64 97
  have hcarries : (hostnameRequest letters).Carries .hostname letters :=
    ⟨rfl, by decide, by decide, by decide⟩
  have hadmits : (hostnameRequest letters).Admits .hostname letters :=
    ⟨fun _ => rfl, fun hdomain => by cases hdomain⟩
  have hlabel : IsLabel letters := by
    have halnum : IsAlnum 97 := (isalnumC_iff 97).1 (by decide)
    refine ⟨⟨97, rfl, halnum⟩, ⟨97, rfl, halnum⟩, fun b hb => .inl ?_⟩
    rwa [List.eq_of_mem_replicate hb]
  have hiff := hall _ .default none .hostname letters hcarries hadmits
  have hanswer := (setAttributeSingle_name_iff hcarries .default none).1
  have hvalid : validName letters = true ↔ IsName letters :=
    (hanswer.trans (and_iff_right hadmits)).symm.trans hiff
  exact ((valid_iff_isName (by decide)).1 hvalid).1 ⟨rfl, hlabel⟩

end GroundTruth.Tcpip
