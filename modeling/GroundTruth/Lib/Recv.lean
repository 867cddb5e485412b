/-
# A connection, and how `recv` cuts its stream

What a peer sends is one stream of bytes; what a program sees of it depends on how each `recv`
call ends.  A `Conn` is the stream that is left and a plan: how the next calls end.  When the
plan is used up, every call returns all it asks for.  At the end of the stream the connection is
closed.

`Conn.readExactly` is the loop every program has that needs `n` bytes and takes them in pieces;
`readExactly_cut` says that a plan of pieces does not matter to it.
-/
import GroundTruth.Lib.Bytes

namespace GroundTruth.Lib

/-- How one call of `recv` ends. -/
inductive RecvStep
  /-- with `n` bytes, but at least one and no more than were asked for or are left -/
  | bytes (n : Nat)
  | wouldBlock
  | reset
  | failed
  deriving DecidableEq, Repr

/-- What one call of `recv` returns. -/
inductive RecvResult
  | data (bs : Bytes)
  | closed
  | wouldBlock
  | reset
  | failed
  deriving DecidableEq, Repr

structure Conn where
  rest : Bytes
  steps : List RecvStep
  deriving DecidableEq, Repr

namespace Conn

/-- The next `k` bytes, or the end of the stream. -/
def deliver (rest : Bytes) (steps : List RecvStep) (k : Nat) : RecvResult × Conn :=
  if rest = [] then (.closed, ⟨[], steps⟩) else (.data (rest.take k), ⟨rest.drop k, steps⟩)

/-- How many bytes a step gives to a call that asks for `ask`. -/
def cut (n ask : Nat) : Nat := min (max n 1) ask

/-- `recv`, asked for `ask` bytes. -/
def recv (ask : Nat) (c : Conn) : RecvResult × Conn :=
  match c.steps with
  | [] => deliver c.rest [] ask
  | .bytes n :: steps => deliver c.rest steps (cut n ask)
  | .wouldBlock :: steps => (.wouldBlock, ⟨c.rest, steps⟩)
  | .reset :: steps => (.reset, ⟨c.rest, steps⟩)
  | .failed :: steps => (.failed, ⟨c.rest, steps⟩)

theorem deliver_data {rest : Bytes} (steps : List RecvStep) (k : Nat) (h : rest ≠ []) :
    deliver rest steps k = (.data (rest.take k), ⟨rest.drop k, steps⟩) := if_neg h

theorem recv_nil (ask : Nat) (rest : Bytes) : recv ask ⟨rest, []⟩ = deliver rest [] ask := rfl

theorem recv_bytes (ask n : Nat) (rest : Bytes) (steps : List RecvStep) :
    recv ask ⟨rest, .bytes n :: steps⟩ = deliver rest steps (cut n ask) := rfl

/-- Read `need` more bytes in as many calls as it takes, again after a call that would have
blocked.  Once the plan is used up, one call returns what is asked for, or what is left and the
next the end of the stream. -/
def readExactly : List RecvStep → Nat → Bytes → Bytes → Option (Bytes × Conn)
  | steps, 0, rest, acc => some (acc, ⟨rest, steps⟩)
  | [], need + 1, rest, acc =>
    if need + 1 ≤ rest.length then
      some (acc ++ rest.take (need + 1), ⟨rest.drop (need + 1), []⟩)
    else none
  | .bytes n :: steps, need + 1, rest, acc =>
    if rest = [] then none
    else
      readExactly steps (need + 1 - (rest.take (cut n (need + 1))).length)
        (rest.drop (cut n (need + 1))) (acc ++ rest.take (cut n (need + 1)))
  | .wouldBlock :: steps, need + 1, rest, acc => readExactly steps (need + 1) rest acc
  | .reset :: _, _ + 1, _, _ => none
  | .failed :: _, _ + 1, _, _ => none

/-- What is left of a plan of pieces once `need` bytes have been read. -/
def cutsAfter : List Nat → Nat → List Nat
  | plan, 0 => plan
  | [], _ + 1 => []
  | n :: plan, need + 1 => cutsAfter plan (need + 1 - cut n (need + 1))

/-- **Pieces do not matter.**  With enough bytes left, any plan of pieces reads the same bytes. -/
theorem readExactly_cut (plan : List Nat) (need : Nat) (rest acc : Bytes)
    (h : need ≤ rest.length) :
    readExactly (plan.map .bytes) need rest acc =
      some (acc ++ rest.take need, ⟨rest.drop need, (cutsAfter plan need).map .bytes⟩) := by
  induction plan generalizing need rest acc with
  | nil =>
    cases need with
    | zero => simp [readExactly, cutsAfter]
    | succ need => simp [readExactly, cutsAfter, h]
  | cons n plan ih =>
    cases need with
    | zero => simp [readExactly, cutsAfter]
    | succ need =>
      have hne : rest ≠ [] := by
        rintro rfl
        simp at h
      have hk : cut n (need + 1) ≤ need + 1 := Nat.min_le_right _ _
      have hlen : (rest.take (cut n (need + 1))).length = cut n (need + 1) := by
        rw [List.length_take]
        omega
      have hrest : need + 1 - cut n (need + 1) ≤ (rest.drop (cut n (need + 1))).length := by
        rw [List.length_drop]
        omega
      have hsum : cut n (need + 1) + (need + 1 - cut n (need + 1)) = need + 1 := by omega
      rw [List.map_cons, readExactly, if_neg hne, hlen, ih _ _ _ hrest, cutsAfter,
        List.drop_drop, List.append_assoc, ← List.take_add, hsum]

/-- A successful read consumes what it read, and no step comes back. -/
theorem readExactly_le {steps : List RecvStep} {need : Nat} {rest acc bs : Bytes} {c : Conn}
    (h : readExactly steps need rest acc = some (bs, c)) :
    c.rest.length + need = rest.length ∧ c.steps.length ≤ steps.length := by
  induction steps generalizing need rest acc with
  | nil =>
    cases need with
    | zero =>
      simp only [readExactly, Option.some.injEq, Prod.mk.injEq] at h
      obtain ⟨-, rfl⟩ := h
      simp
    | succ need =>
      rw [readExactly] at h
      split at h
      · simp only [Option.some.injEq, Prod.mk.injEq] at h
        obtain ⟨-, rfl⟩ := h
        simp only [List.length_drop, Nat.le_refl, and_true]
        omega
      · cases h
  | cons e steps ih =>
    cases need with
    | zero =>
      simp only [readExactly, Option.some.injEq, Prod.mk.injEq] at h
      obtain ⟨-, rfl⟩ := h
      simp
    | succ need =>
      cases e with
      | bytes n =>
        rw [readExactly] at h
        split at h
        · cases h
        · obtain ⟨h1, h2⟩ := ih h
          have hk : cut n (need + 1) ≤ need + 1 := Nat.min_le_right _ _
          rw [List.length_take, List.length_drop] at h1
          refine ⟨?_, by simp only [List.length_cons]; omega⟩
          omega
      | wouldBlock =>
        obtain ⟨h1, h2⟩ := ih h
        exact ⟨h1, by simp only [List.length_cons]; omega⟩
      | reset => cases h
      | failed => cases h

/-- What `recv` returns is no more than was asked for. -/
theorem recv_length {ask : Nat} {c c' : Conn} {bs : Bytes} (h : c.recv ask = (.data bs, c')) :
    bs.length ≤ ask := by
  obtain ⟨rest, steps⟩ := c
  have hdeliver : ∀ {steps : List RecvStep} {k : Nat}, k ≤ ask →
      deliver rest steps k = (.data bs, c') → bs.length ≤ ask := by
    intro steps k hk h
    unfold deliver at h
    split at h
    · cases h
    · simp only [Prod.mk.injEq, RecvResult.data.injEq] at h
      rw [← h.1, List.length_take]
      omega
  cases steps with
  | nil => exact hdeliver (Nat.le_refl _) h
  | cons e steps =>
    cases e with
    | bytes n => exact hdeliver (Nat.min_le_right _ _) h
    | wouldBlock => cases h
    | reset => cases h
    | failed => cases h

/-- The data that `recv` returns are the next of the stream, and none only if none were asked. -/
theorem recv_data {ask : Nat} {c c' : Conn} {bs : Bytes} (h : c.recv ask = (.data bs, c')) :
    c.rest = bs ++ c'.rest ∧ (0 < ask → 0 < bs.length) := by
  obtain ⟨rest, steps⟩ := c
  have hdeliver : ∀ {steps : List RecvStep} {k : Nat}, (0 < ask → 0 < k) →
      deliver rest steps k = (.data bs, c') → rest = bs ++ c'.rest ∧ (0 < ask → 0 < bs.length) := by
    intro steps k hk h
    unfold deliver at h
    split at h
    · cases h
    · next hne =>
      simp only [Prod.mk.injEq, RecvResult.data.injEq] at h
      obtain ⟨rfl, rfl⟩ := h
      refine ⟨(List.take_append_drop k rest).symm, fun hask => ?_⟩
      have hpos := List.length_pos_of_ne_nil hne
      rw [List.length_take]
      exact Nat.lt_min.mpr ⟨hk hask, hpos⟩
  cases steps with
  | nil => exact hdeliver id h
  | cons e steps =>
    cases e with
    | bytes n =>
      refine hdeliver (fun hask => ?_) h
      exact Nat.lt_min.mpr ⟨Nat.lt_of_lt_of_le Nat.one_pos (Nat.le_max_right n 1), hask⟩
    | wouldBlock => cases h
    | reset => cases h
    | failed => cases h

/-- A call that would have blocked takes nothing. -/
theorem recv_wouldBlock {ask : Nat} {c c' : Conn} (h : c.recv ask = (.wouldBlock, c')) :
    c'.rest = c.rest := by
  obtain ⟨rest, steps⟩ := c
  have hdeliver : ∀ {steps : List RecvStep} {k : Nat},
      deliver rest steps k ≠ (.wouldBlock, c') := by
    intro steps k h
    unfold deliver at h
    split at h <;> cases h
  cases steps with
  | nil => exact absurd h hdeliver
  | cons e steps =>
    cases e with
    | bytes n => exact absurd h hdeliver
    | wouldBlock =>
      cases h
      rfl
    | reset => cases h
    | failed => cases h

/-- A successful read has as many bytes as it needed. -/
theorem readExactly_length {steps : List RecvStep} {need : Nat} {rest acc bs : Bytes} {c : Conn}
    (h : readExactly steps need rest acc = some (bs, c)) : bs.length = acc.length + need := by
  induction steps generalizing need rest acc with
  | nil =>
    cases need with
    | zero =>
      simp only [readExactly, Option.some.injEq, Prod.mk.injEq] at h
      rw [← h.1]
      rfl
    | succ need =>
      rw [readExactly] at h
      split at h
      · rename_i hle
        simp only [Option.some.injEq, Prod.mk.injEq] at h
        rw [← h.1, List.length_append, List.length_take, Nat.min_eq_left hle]
      · cases h
  | cons e steps ih =>
    cases need with
    | zero =>
      simp only [readExactly, Option.some.injEq, Prod.mk.injEq] at h
      rw [← h.1]
      rfl
    | succ need =>
      cases e with
      | bytes n =>
        rw [readExactly] at h
        split at h
        · cases h
        · have hlen := ih h
          have hk : cut n (need + 1) ≤ need + 1 := Nat.min_le_right _ _
          rw [List.length_append, List.length_take] at hlen
          omega
      | wouldBlock => exact ih h
      | reset => cases h
      | failed => cases h

end Conn

end GroundTruth.Lib
