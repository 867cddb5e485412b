/-
# Singly linked lists in memory

A node is an address, and `next` is its link.  `Chain next head l` says that the links from `head`
on run through the nodes of `l` and end there; a list that runs into itself has no chain.

* `Chain.unique`: the nodes are determined by the links;
* `Chain.nodup`: no node is there twice;
* `Chain.update`, `Chain.push`: writing the link of a node that is not on the list, and putting it
  in front;
* `walk_eq`: a loop along the links that looks for a node finds it just when it is there.
-/
import Mathlib.Data.List.Nodup
import Mathlib.Tactic.Common

namespace GroundTruth.Lib

variable {α : Type}

/-- The links from the head on run through these nodes, and end. -/
def Chain (next : α → Option α) : Option α → List α → Prop
  | head, [] => head = none
  | head, a :: l => head = some a ∧ Chain next (next a) l

variable {next : α → Option α} {head : Option α} {a : α} {l l' : List α}

@[simp] theorem chain_nil : Chain next head [] ↔ head = none := Iff.rfl

@[simp] theorem chain_cons :
    Chain next head (a :: l) ↔ head = some a ∧ Chain next (next a) l := Iff.rfl

/-- **The links determine the nodes.** -/
theorem Chain.unique (h : Chain next head l) (h' : Chain next head l') : l = l' := by
  induction l generalizing head l' with
  | nil =>
    cases l' with
    | nil => rfl
    | cons b l' =>
      rw [chain_nil] at h
      rw [chain_cons, h] at h'
      cases h'.1
  | cons a l ih =>
    cases l' with
    | nil =>
      rw [chain_nil] at h'
      rw [chain_cons, h'] at h
      cases h.1
    | cons b l' =>
      obtain ⟨ha, hl⟩ := h
      obtain ⟨hb, hl'⟩ := h'
      rw [ha, Option.some.injEq] at hb
      rw [← hb] at hl' ⊢
      rw [ih hl hl']

/-- The links from a node of the list on run through what follows it. -/
theorem Chain.from_mem {l₁ l₂ : List α} (h : Chain next head (l₁ ++ a :: l₂)) :
    Chain next (some a) (a :: l₂) := by
  induction l₁ generalizing head with
  | nil =>
    obtain ⟨ha, hl⟩ := h
    exact ⟨rfl, hl⟩
  | cons b l₁ ih => exact ih h.2

/-- **No node is on the list twice**: the links would never end. -/
theorem Chain.nodup (h : Chain next head l) : l.Nodup := by
  induction l generalizing head with
  | nil => exact List.nodup_nil
  | cons a l ih =>
    refine List.nodup_cons.2 ⟨?_, ih h.2⟩
    intro hmem
    obtain ⟨l₁, l₂, hsplit⟩ := List.append_of_mem hmem
    have hwhole : Chain next head ((a :: l₁) ++ a :: l₂) := by
      rw [List.cons_append, ← hsplit]
      exact h
    have hagain : Chain next (some a) (a :: l₂) := hwhole.from_mem
    have heq := Chain.unique (chain_cons.2 ⟨rfl, h.2⟩) hagain
    have hlen := congrArg List.length heq
    rw [hsplit] at hlen
    simp only [List.length_cons, List.length_append] at hlen
    omega

variable [DecidableEq α]

/-- A list is on the nodes it runs through: the link of another node does not matter. -/
theorem Chain.update (h : Chain next head l) (ha : a ∉ l) (link : Option α) :
    Chain (Function.update next a link) head l := by
  induction l generalizing head with
  | nil => exact h
  | cons b l ih =>
    rw [List.mem_cons, not_or] at ha
    refine ⟨h.1, ?_⟩
    rw [Function.update_of_ne (Ne.symm ha.1)]
    exact ih h.2 ha.2

/-- A node that is not on the list is put in front. -/
theorem Chain.push (h : Chain next head l) (ha : a ∉ l) :
    Chain (Function.update next a head) (some a) (a :: l) := by
  refine ⟨rfl, ?_⟩
  rw [Function.update_self]
  exact h.update ha head

/-- The loop along the links that stops at a node; `none` when it is still under way. -/
def walk (next : α → Option α) (a : α) : Nat → Option α → Option Bool
  | 0, _ => none
  | _ + 1, none => some false
  | fuel + 1, some b => if b = a then some true else walk next a fuel (next b)

/-- **The loop finds the node just when it is there**, and ends. -/
theorem walk_eq {fuel : Nat} (h : Chain next head l) (hfuel : l.length < fuel) :
    walk next a fuel head = some (decide (a ∈ l)) := by
  induction l generalizing head fuel with
  | nil =>
    rw [chain_nil] at h
    obtain ⟨k, rfl⟩ := Nat.exists_eq_add_one_of_ne_zero (Nat.ne_zero_of_lt hfuel)
    rw [h]
    rfl
  | cons b l ih =>
    obtain ⟨k, rfl⟩ := Nat.exists_eq_add_one_of_ne_zero (Nat.ne_zero_of_lt hfuel)
    rw [List.length_cons, Nat.add_lt_add_iff_right] at hfuel
    rw [h.1, walk]
    by_cases hba : b = a
    · rw [if_pos hba]
      simp [hba]
    · rw [if_neg hba, ih h.2 hfuel]
      simp [Ne.symm hba]

end GroundTruth.Lib
