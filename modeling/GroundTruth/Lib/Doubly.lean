/-
# Doubly linked lists in memory

The nodes of a list come from a pool.  Each has two links and a place for a pointer; a node that is
all NULL is free, and that is how the allocator finds one.  `Holds pool m l` says that the memory
`m` has the list of the nodes `l`: the links in both directions, the two ends, and that the rest of
the pool is free.

* `splice` and `unlink` put a node between two neighbours and take one out, where a missing
  neighbour is an end of the list; `Holds.splice`, `Holds.unlink`: what they do to the list;
* `Holds.alloc_eq_none_iff`: a free node is found as long as the list does not have them all;
* `Holds.forward_eq`, `Holds.backward_eq`, `Holds.search_eq`: the loops along the links end, and
  what they come to.
-/
import Mathlib.Data.List.Nodup
import Mathlib.Data.Finset.Card
import Mathlib.Logic.Function.Basic
import Mathlib.Tactic.Common

namespace GroundTruth.Lib.Doubly

variable {ν δ : Type}

/-! ## 1. The memory -/

@[ext]
structure Node (ν δ : Type) where
  previous : Option ν
  next : Option ν
  data : Option δ
  deriving DecidableEq, Repr

/-- A node of the pool that is free. -/
def Node.zero : Node ν δ := ⟨none, none, none⟩

@[ext]
structure Memory (ν δ : Type) where
  nodes : ν → Node ν δ
  first : Option ν
  last : Option ν

/-- A list that has just been initialised, and a pool of free nodes. -/
def Memory.init : Memory ν δ := ⟨fun _ => .zero, none, none⟩

/-- The nodes of `l` are linked, with `before` and `after` on their sides. -/
def Linked (nodes : ν → Node ν δ) : Option ν → List ν → Option ν → Prop
  | _, [], _ => True
  | before, a :: l, after =>
    (nodes a).previous = before ∧ (nodes a).next = l.head?.or after ∧
      Linked nodes (some a) l after

/-- The memory has this list, and all other nodes are free. -/
structure Holds (pool : List ν) (m : Memory ν δ) (l : List ν) : Prop where
  nodup : l.Nodup
  subset : l ⊆ pool
  linked : Linked m.nodes none l none
  first : m.first = l.head?
  last : m.last = l.getLast?
  used : ∀ a ∈ l, (m.nodes a).data ≠ none
  free : ∀ a, a ∉ l → m.nodes a = .zero

theorem Holds.init (pool : List ν) : Holds pool (.init : Memory ν δ) [] where
  nodup := List.nodup_nil
  subset := List.nil_subset pool
  linked := trivial
  first := rfl
  last := rfl
  used := by simp
  free := fun _ _ => rfl

/-! ## 2. Linked nodes -/

variable {nodes nodes' : ν → Node ν δ} {before after : Option ν} {l l₁ l₂ : List ν} {a : ν}

/-- Two stretches, each of which has the end of the other on its side. -/
theorem linked_append : Linked nodes before (l₁ ++ l₂) after ↔
    Linked nodes before l₁ (l₂.head?.or after) ∧ Linked nodes (l₁.getLast?.or before) l₂ after := by
  induction l₁ generalizing before with
  | nil => simp [Linked]
  | cons a l₁ ih =>
    have hhead : (l₁ ++ l₂).head?.or after = l₁.head?.or (l₂.head?.or after) := by
      rw [List.head?_append, Option.or_assoc]
    have hlast : ((a :: l₁).getLast?.or before) = l₁.getLast?.or (some a) := by
      cases l₁ with
      | nil => rfl
      | cons b l₁ => simp [List.getLast?_cons]
    rw [List.cons_append, Linked, Linked, ih, hhead, hlast]
    tauto

/-- Only the nodes of the stretch matter. -/
theorem Linked.congr (h : Linked nodes before l after) (heq : ∀ a ∈ l, nodes' a = nodes a) :
    Linked nodes' before l after := by
  induction l generalizing before with
  | nil => trivial
  | cons a l ih =>
    have ha := heq a List.mem_cons_self
    refine ⟨by rw [ha]; exact h.1, by rw [ha]; exact h.2.1, ih h.2.2 ?_⟩
    intro b hb
    exact heq b (List.mem_cons_of_mem a hb)

/-- The link behind the stretch is written. -/
theorem Linked.setNext {x : Option ν} (h : Linked nodes before l after) (hnodup : l.Nodup)
    (hlast : ∀ p ∈ l.getLast?, (nodes' p).previous = (nodes p).previous ∧ (nodes' p).next = x)
    (heq : ∀ b ∈ l, l.getLast? ≠ some b → nodes' b = nodes b) :
    Linked nodes' before l x := by
  induction l generalizing before with
  | nil => trivial
  | cons a l ih =>
    cases l with
    | nil =>
      obtain ⟨hprevious, hnext⟩ := hlast a rfl
      exact ⟨hprevious.trans h.1, hnext, trivial⟩
    | cons b l =>
      have hne : (a :: b :: l).getLast? ≠ some a := by
        rw [List.getLast?_cons_cons]
        intro hmem
        exact (List.nodup_cons.1 hnodup).1 (List.mem_of_getLast? hmem)
      have ha := heq a List.mem_cons_self hne
      refine ⟨by rw [ha]; exact h.1, by rw [ha]; exact h.2.1, ih h.2.2 hnodup.of_cons ?_ ?_⟩
      · intro p hp
        exact hlast p (by rwa [List.getLast?_cons_cons])
      · intro c hc hlc
        exact heq c (List.mem_cons_of_mem a hc) (by rwa [List.getLast?_cons_cons])

/-- The link in front of the stretch is written. -/
theorem Linked.setPrevious {x : Option ν} (h : Linked nodes before l after) (hnodup : l.Nodup)
    (hhead : ∀ n ∈ l.head?, (nodes' n).previous = x ∧ (nodes' n).next = (nodes n).next)
    (heq : ∀ b ∈ l, l.head? ≠ some b → nodes' b = nodes b) :
    Linked nodes' x l after := by
  cases l with
  | nil => trivial
  | cons a l =>
    obtain ⟨hprevious, hnext⟩ := hhead a rfl
    refine ⟨hprevious, hnext.trans h.2.1, h.2.2.congr ?_⟩
    intro b hb
    refine heq b (List.mem_cons_of_mem a hb) ?_
    rw [List.head?_cons, ne_eq, Option.some_inj]
    rintro rfl
    exact (List.nodup_cons.1 hnodup).1 hb

/-! ## 3. Putting a node in and taking one out -/

variable [DecidableEq ν]

namespace Memory

variable (m : Memory ν δ)

/-- A node is written. -/
def set (a : ν) (n : Node ν δ) : Memory ν δ := { m with nodes := Function.update m.nodes a n }

/-- The link to what comes after `p`; with no `p` that is the head. -/
def setNext (p x : Option ν) : Memory ν δ :=
  match p with
  | none => { m with first := x }
  | some p => m.set p { m.nodes p with next := x }

/-- The link to what comes before `n`; with no `n` that is the tail. -/
def setPrevious (n x : Option ν) : Memory ν δ :=
  match n with
  | none => { m with last := x }
  | some n => m.set n { m.nodes n with previous := x }

/-- The node `a` goes between `p` and `n`. -/
def splice (a : ν) (d : δ) (p n : Option ν) : Memory ν δ :=
  ((m.set a ⟨p, n, some d⟩).setNext p (some a)).setPrevious n (some a)

/-- The node `a` goes out from between its neighbours, and is free. -/
def unlink (a : ν) : Memory ν δ :=
  let p := (m.nodes a).previous
  let n := (m.nodes a).next
  ((m.setNext p n).setPrevious n p).set a .zero

end Memory

variable {m : Memory ν δ} {pool : List ν} {d : δ} {p n : Option ν}

@[simp] theorem set_nodes (x : Node ν δ) (b : ν) :
    (m.set a x).nodes b = if b = a then x else m.nodes b :=
  Function.update_apply m.nodes a x b

@[simp] theorem set_set (x y : Node ν δ) : (m.set a x).set a y = m.set a y := by
  rw [Memory.set, Memory.set, Memory.set, Function.update_idem]

@[simp] theorem setNext_nodes (p x : Option ν) (b : ν) :
    (m.setNext p x).nodes b =
      ⟨(m.nodes b).previous, if p = some b then x else (m.nodes b).next, (m.nodes b).data⟩ := by
  cases p with
  | none => rfl
  | some p =>
    rw [Memory.setNext, set_nodes]
    by_cases h : b = p
    · simp [h]
    · simp [h, Ne.symm h]

@[simp] theorem setPrevious_nodes (n x : Option ν) (b : ν) :
    (m.setPrevious n x).nodes b =
      ⟨if n = some b then x else (m.nodes b).previous, (m.nodes b).next, (m.nodes b).data⟩ := by
  cases n with
  | none => rfl
  | some n =>
    rw [Memory.setPrevious, set_nodes]
    by_cases h : b = n
    · simp [h]
    · simp [h, Ne.symm h]

@[simp] theorem set_first (x : Node ν δ) : (m.set a x).first = m.first := rfl

@[simp] theorem set_last (x : Node ν δ) : (m.set a x).last = m.last := rfl

@[simp] theorem setNext_first (p x : Option ν) :
    (m.setNext p x).first = if p = none then x else m.first := by
  cases p <;> rfl

@[simp] theorem setNext_last (p x : Option ν) : (m.setNext p x).last = m.last := by
  cases p <;> rfl

@[simp] theorem setPrevious_first (n x : Option ν) : (m.setPrevious n x).first = m.first := by
  cases n <;> rfl

@[simp] theorem setPrevious_last (n x : Option ν) :
    (m.setPrevious n x).last = if n = none then x else m.last := by
  cases n <;> rfl

/-- Only the new node gets something to point to. -/
@[simp] theorem splice_data (b : ν) :
    ((m.splice a d p n).nodes b).data = if b = a then some d else (m.nodes b).data := by
  by_cases hba : b = a <;> simp [Memory.splice, hba]

/-- Only the node that goes out loses what it points to. -/
@[simp] theorem unlink_data (b : ν) :
    ((m.unlink a).nodes b).data = if b = a then none else (m.nodes b).data := by
  by_cases hba : b = a <;> simp [Memory.unlink, hba, Node.zero]

/-- A node that is not on the stretch is written. -/
theorem Linked.set (h : Linked m.nodes before l after) (ha : a ∉ l) (x : Node ν δ) :
    Linked (m.set a x).nodes before l after := by
  refine h.congr ?_
  intro b hb
  have hba : b ≠ a := fun hba => ha (hba ▸ hb)
  simp [hba]

/-- Two stretches, and the links from the one to the other are written. -/
theorem Linked.relink {c c' : Option ν} (h₁ : Linked m.nodes before l₁ c)
    (h₂ : Linked m.nodes c' l₂ after) (hnodup : (l₁ ++ l₂).Nodup) (x y : Option ν) :
    Linked ((m.setNext l₁.getLast? x).setPrevious l₂.head? y).nodes before l₁ x ∧
      Linked ((m.setNext l₁.getLast? x).setPrevious l₂.head? y).nodes y l₂ after := by
  obtain ⟨hnodup₁, hnodup₂, -⟩ := List.nodup_append.1 hnodup
  have hapart : ∀ b ∈ l₁, b ∉ l₂ := fun _ hb hb' => List.disjoint_of_nodup_append hnodup hb hb'
  constructor
  · refine h₁.setNext hnodup₁ ?_ ?_
    · intro b hb
      have hlast : l₁.getLast? = some b := hb
      have hhead : l₂.head? ≠ some b :=
        fun hh => hapart b (List.mem_of_getLast? hb) (List.mem_of_head? hh)
      simp [hlast, hhead]
    · intro b hb hlast
      have hhead : l₂.head? ≠ some b := fun hh => hapart b hb (List.mem_of_head? hh)
      simp [hlast, hhead]
  · refine h₂.setPrevious hnodup₂ ?_ ?_
    · intro b hb
      have hhead : l₂.head? = some b := hb
      have hlast : l₁.getLast? ≠ some b :=
        fun hh => hapart b (List.mem_of_getLast? hh) (List.mem_of_head? hb)
      simp [hlast, hhead]
    · intro b hb hhead
      have hlast : l₁.getLast? ≠ some b := fun hh => hapart b (List.mem_of_getLast? hh) hb
      simp [hlast, hhead]

/-- **A node goes in**, at any place of the list. -/
theorem Holds.splice (h : Holds pool m (l₁ ++ l₂)) (hpool : a ∈ pool) (ha : a ∉ l₁ ++ l₂) :
    Holds pool (m.splice a d l₁.getLast? l₂.head?) (l₁ ++ a :: l₂) := by
  have hnew := ha
  rw [List.mem_append, not_or] at ha
  have hp : l₁.getLast? ≠ some a := fun hlast => ha.1 (List.mem_of_getLast? hlast)
  have hn : l₂.head? ≠ some a := fun hhead => ha.2 (List.mem_of_head? hhead)
  refine ⟨?_, ?_, ?_, ?_, ?_, ?_, ?_⟩
  · rw [List.nodup_middle]
    exact List.nodup_cons.2 ⟨hnew, h.nodup⟩
  · intro b hb
    rcases List.mem_cons.1 (List.perm_middle.mem_iff.1 hb) with rfl | hb
    · exact hpool
    · exact h.subset hb
  · -- the links in front of the node, of the node, and behind it
    obtain ⟨hlinked₁, hlinked₂⟩ := linked_append.1 h.linked
    obtain ⟨hfront, hback⟩ := (hlinked₁.set ha.1 ⟨l₁.getLast?, l₂.head?, some d⟩).relink
      (hlinked₂.set ha.2 _) h.nodup (some a) (some a)
    refine linked_append.2 ⟨hfront, ?_, ?_, hback⟩
    · simp [Memory.splice, hp, hn]
    · simp [Memory.splice, hp, hn]
  · have hfirst := h.first
    cases l₁ with
    | nil => simp [Memory.splice]
    | cons b l₁ => simpa [Memory.splice] using hfirst
  · have hlast := h.last
    cases l₂ with
    | nil => simp [Memory.splice]
    | cons b l₂ => simpa [Memory.splice, List.getLast?_append] using hlast
  · intro b hb
    by_cases hba : b = a
    · simp [Memory.splice, hba]
    · have hold := h.used b (by simpa [hba] using hb)
      simpa [Memory.splice, hba] using hold
  · intro b hb
    simp only [List.mem_append, List.mem_cons, not_or] at hb
    have hpb : l₁.getLast? ≠ some b := fun hh => hb.1 (List.mem_of_getLast? hh)
    have hnb : l₂.head? ≠ some b := fun hh => hb.2.2 (List.mem_of_head? hh)
    have hold := h.free b (by simp [hb.1, hb.2.2])
    simp [Memory.splice, hb.2.1, hpb, hnb, hold, Node.zero]

/-- **A node goes out**, from any place of the list. -/
theorem Holds.unlink (h : Holds pool m (l₁ ++ a :: l₂)) :
    Holds pool (m.unlink a) (l₁ ++ l₂) := by
  obtain ⟨hlinked₁, hprevious, hnext, hlinked₂⟩ := linked_append.1 h.linked
  rw [Option.or_none] at hprevious hnext
  obtain ⟨ha, hnodup⟩ := List.nodup_cons.1 (List.nodup_middle.1 h.nodup)
  refine ⟨hnodup, ?_, ?_, ?_, ?_, ?_, ?_⟩
  · intro b hb
    exact h.subset (List.perm_middle.mem_iff.2 (List.mem_cons_of_mem a hb))
  · obtain ⟨hfront, hback⟩ := hlinked₁.relink hlinked₂ hnodup l₂.head? l₁.getLast?
    rw [List.mem_append, not_or] at ha
    rw [Memory.unlink, hprevious, hnext, linked_append, Option.or_none, Option.or_none]
    exact ⟨hfront.set ha.1 _, hback.set ha.2 _⟩
  · have hfirst := h.first
    cases l₁ with
    | nil => simp [Memory.unlink, hprevious, hnext]
    | cons b l₁ => simpa [Memory.unlink, hprevious, hnext] using hfirst
  · have hlast := h.last
    cases l₂ with
    | nil => simp [Memory.unlink, hprevious, hnext]
    | cons b l₂ => simpa [Memory.unlink, hprevious, hnext, List.getLast?_append] using hlast
  · intro b hb
    have hba : b ≠ a := fun hba => ha (hba ▸ hb)
    have hold := h.used b (List.perm_middle.mem_iff.2 (List.mem_cons_of_mem a hb))
    simpa [Memory.unlink, hba] using hold
  · intro b hb
    by_cases hba : b = a
    · simp [Memory.unlink, hba]
    · have hpb : l₁.getLast? ≠ some b :=
        fun hh => hb (List.mem_append_left l₂ (List.mem_of_getLast? hh))
      have hnb : l₂.head? ≠ some b :=
        fun hh => hb (List.mem_append_right l₁ (List.mem_of_head? hh))
      have hold := h.free b (by simpa [hba] using hb)
      simp [Memory.unlink, hprevious, hnext, hba, hpb, hnb, hold, Node.zero]

/-! ## 4. The loops along the links -/

namespace Memory

variable (m : Memory ν δ)

/-- A node with three NULL pointers. -/
def isFree (a : ν) : Bool :=
  (m.nodes a).previous.isNone && (m.nodes a).next.isNone && (m.nodes a).data.isNone

/-- The first free node of the pool. -/
def alloc (pool : List ν) : Option ν := pool.find? m.isFree

/-- The nodes that a loop comes through; `none` when it is still under way. -/
def walk (link : Node ν δ → Option ν) : Nat → Option ν → Option (List ν)
  | _, none => some []
  | 0, some _ => none
  | fuel + 1, some a => (walk link fuel (link (m.nodes a))).map (a :: ·)

/-- The node at which a loop stops, or the end; `none` when it is still under way. -/
def search (test : ν → Bool) : Nat → Option ν → Option (Option ν)
  | _, none => some none
  | 0, some _ => none
  | fuel + 1, some a =>
    if test a = true then some (some a) else search test fuel (m.nodes a).next

end Memory

omit [DecidableEq ν]

/-- The neighbours of a node of the list, and which end of the list it is. -/
theorem Holds.neighbours (h : Holds pool m (l₁ ++ a :: l₂)) :
    (m.nodes a).previous = l₁.getLast? ∧ (m.nodes a).next = l₂.head? ∧
      (m.first = some a ↔ l₁ = []) ∧ (m.last = some a ↔ l₂ = []) := by
  obtain ⟨-, hprevious, hnext, -⟩ := linked_append.1 h.linked
  rw [Option.or_none] at hprevious hnext
  obtain ⟨ha, -⟩ := List.nodup_cons.1 (List.nodup_middle.1 h.nodup)
  rw [List.mem_append, not_or] at ha
  refine ⟨hprevious, hnext, ?_, ?_⟩
  · rw [h.first]
    cases l₁ with
    | nil => simp
    | cons b l₁ =>
      have hb : b ≠ a := fun hb => ha.1 (hb ▸ List.mem_cons_self)
      simp [hb]
  · rw [h.last]
    cases l₂ with
    | nil => simp
    | cons b l₂ =>
      have hb : (b :: l₂).getLast? ≠ some a := fun hb => ha.2 (List.mem_of_getLast? hb)
      rw [List.getLast?_append, List.getLast?_cons_cons, Option.or_of_isSome (by simp)]
      simp [hb]

theorem Holds.isFree_iff (h : Holds pool m l) : m.isFree a = true ↔ a ∉ l := by
  constructor
  · intro hfree ha
    have hused := h.used a ha
    simp only [Memory.isFree, Bool.and_eq_true, Option.isNone_iff_eq_none] at hfree
    exact hused hfree.2
  · intro ha
    simp [Memory.isFree, h.free a ha, Node.zero]

/-- What is found is a free node of the pool. -/
theorem Holds.alloc_some (h : Holds pool m l) (ha : m.alloc pool = some a) : a ∈ pool ∧ a ∉ l :=
  ⟨List.mem_of_find?_eq_some ha, h.isFree_iff.1 (List.find?_some ha)⟩

/-- It is none of the list, and has no links. -/
theorem Holds.alloc_zero (h : Holds pool m l) (ha : m.alloc pool = some a) :
    m.nodes a = .zero ∧ ∀ b ∈ l, b ≠ a := by
  have hnew := (h.alloc_some ha).2
  refine ⟨h.free a hnew, ?_⟩
  rintro b hb rfl
  exact hnew hb

/-- **There is no free node** exactly when all of the pool is on the list. -/
theorem Holds.alloc_eq_none_iff (h : Holds pool m l) (hpool : pool.Nodup) :
    m.alloc pool = none ↔ ¬l.length < pool.length := by
  rw [Memory.alloc, List.find?_eq_none]
  have hsub : l.Subperm pool := h.nodup.subperm h.subset
  constructor
  · intro hall
    have hback : pool ⊆ l := by
      intro b hb
      by_contra hbl
      exact hall b hb (h.isFree_iff.2 hbl)
    exact Nat.not_lt.2 (hpool.subperm hback).length_le
  · intro hlen b hb hfree
    have hperm := hsub.perm_of_length_le (Nat.not_lt.1 hlen)
    exact h.isFree_iff.1 hfree (hperm.mem_iff.2 hb)

/-- Along the links to the next. -/
theorem Linked.walk_next {fuel : Nat} (h : Linked m.nodes before l none)
    (hfuel : l.length ≤ fuel) : m.walk Node.next fuel l.head? = some l := by
  induction l generalizing before fuel with
  | nil => cases fuel <;> rfl
  | cons a l ih =>
    obtain ⟨k, rfl⟩ := Nat.exists_eq_add_one_of_ne_zero
      (Nat.ne_zero_of_lt (Nat.lt_of_lt_of_le (Nat.succ_pos l.length) hfuel))
    have hnext : (m.nodes a).next = l.head? := h.2.1.trans (Option.or_none)
    rw [List.head?_cons, Memory.walk, hnext, ih h.2.2 (Nat.le_of_succ_le_succ hfuel)]
    rfl

/-- Along the links to the previous. -/
theorem Linked.walk_previous {fuel : Nat} (h : Linked m.nodes none l after)
    (hfuel : l.length ≤ fuel) : m.walk Node.previous fuel l.getLast? = some l.reverse := by
  induction l using List.reverseRecOn generalizing after fuel with
  | nil => cases fuel <;> rfl
  | append_singleton l a ih =>
    rw [List.length_append, List.length_singleton] at hfuel
    obtain ⟨k, rfl⟩ := Nat.exists_eq_add_one_of_ne_zero
      (Nat.ne_zero_of_lt (Nat.lt_of_lt_of_le (Nat.succ_pos l.length) hfuel))
    obtain ⟨hlinked, hprevious, -⟩ := linked_append.1 h
    rw [Option.or_none] at hprevious
    rw [List.getLast?_concat, Memory.walk, hprevious, ih hlinked (Nat.le_of_succ_le_succ hfuel),
      List.reverse_concat]
    rfl

/-- **A loop forwards** comes through the nodes of the list in their order. -/
theorem Holds.forward_eq {fuel : Nat} (h : Holds pool m l) (hfuel : l.length ≤ fuel) :
    m.walk Node.next fuel m.first = some l := by
  rw [h.first]
  exact h.linked.walk_next hfuel

/-- **A loop backwards** comes through them the other way. -/
theorem Holds.backward_eq {fuel : Nat} (h : Holds pool m l) (hfuel : l.length ≤ fuel) :
    m.walk Node.previous fuel m.last = some l.reverse := by
  rw [h.last]
  exact h.linked.walk_previous hfuel

/-- A loop that comes to its end along some nodes finds the first of them that passes. -/
theorem search_of_walk {fuel : Nat} {start : Option ν} (test : ν → Bool)
    (h : m.walk Node.next fuel start = some l) :
    m.search test fuel start = some (l.find? test) := by
  induction fuel generalizing start l with
  | zero =>
    cases start with
    | none =>
      obtain rfl := Option.some.inj h
      rfl
    | some a => cases h
  | succ fuel ih =>
    cases start with
    | none =>
      obtain rfl := Option.some.inj h
      rfl
    | some a =>
      obtain ⟨rest, hrest, rfl⟩ := Option.map_eq_some_iff.1 h
      rw [Memory.search, List.find?_cons]
      cases test a with
      | true => rfl
      | false => simpa using ih hrest

/-- **A loop that looks for a node** stops at the first that passes, or at the end. -/
theorem Holds.search_eq {fuel : Nat} (h : Holds pool m l) (hfuel : l.length ≤ fuel)
    (test : ν → Bool) : m.search test fuel m.first = some (l.find? test) :=
  search_of_walk test (h.forward_eq hfuel)

end GroundTruth.Lib.Doubly
