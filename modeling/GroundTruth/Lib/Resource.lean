/-
# Handles and locks

Two disciplines for what a program gets and has to give back.

* A **handle** is acquired, used, and released; after that it is gone.  A history of one handle
  is a list of `HandleOp`, `track` runs it through an automaton, and `ReleasedOnce` says that the
  history is over: nothing is held, and nothing was done to a handle that is not there.
* A **lock** is kept as two counters, how often it was taken and how often it was given back.
  Taking a lock that is not free never returns.  `Lock.Balanced` compares two moments: in between,
  the lock was given as often as it was taken.
-/
import Mathlib.Data.List.Basic
import Mathlib.Tactic.Common

namespace GroundTruth.Lib

/-! ## 1. Handles -/

/-- What can be done to a handle. -/
inductive HandleOp
  | acquire
  | use
  | release
  deriving DecidableEq, Repr

/-- What has become of a handle. -/
inductive HandleState
  | fresh
  | held
  | released
  /-- used, released or acquired when it must not be -/
  | misused
  deriving DecidableEq, Repr

def HandleState.next : HandleState → HandleOp → HandleState
  | .fresh, .acquire => .held
  | .held, .use => .held
  | .held, .release => .released
  | _, _ => .misused

/-- What becomes of a handle. -/
def track (s : HandleState) (ops : List HandleOp) : HandleState := ops.foldl HandleState.next s

/-- The history is over: the handle was never there, or it has been released, once, and has not
been used since. -/
def ReleasedOnce (ops : List HandleOp) : Prop :=
  track .fresh ops = .fresh ∨ track .fresh ops = .released

instance ReleasedOnce.decidable (ops : List HandleOp) : Decidable (ReleasedOnce ops) :=
  inferInstanceAs (Decidable (_ ∨ _))

@[simp] theorem track_nil (s : HandleState) : track s [] = s := rfl

@[simp] theorem track_cons (s : HandleState) (op : HandleOp) (ops : List HandleOp) :
    track s (op :: ops) = track (s.next op) ops := rfl

theorem track_append (s : HandleState) (ops ops' : List HandleOp) :
    track s (ops ++ ops') = track (track s ops) ops' := List.foldl_append

/-- Nothing mends a misuse. -/
@[simp] theorem track_misused (ops : List HandleOp) : track .misused ops = .misused := by
  induction ops with
  | nil => rfl
  | cons op ops ih => exact ih

@[simp] theorem track_uses (n : Nat) : track .held (List.replicate n .use) = .held := by
  induction n with
  | zero => rfl
  | succ n ih => exact ih

/-! ## 2. Locks -/

/-- A lock that only its holder gives back: how often it was taken, and how often given. -/
structure Lock where
  taken : Nat
  given : Nat
  deriving DecidableEq, Repr

/-- A lock that nobody has taken yet. -/
def Lock.new : Lock := ⟨0, 0⟩

/-- Nobody holds the lock. -/
def Lock.Free (l : Lock) : Prop := l.taken = l.given

instance Lock.Free.decidable (l : Lock) : Decidable l.Free :=
  inferInstanceAs (Decidable (_ = _))

/-- Take the lock; `none` when it is held, and the caller waits for ever. -/
def Lock.take (l : Lock) : Option Lock :=
  if l.Free then some { l with taken := l.taken + 1 } else none

def Lock.give (l : Lock) : Lock := { l with given := l.given + 1 }

/-- The lock after it has been taken and given back. -/
def Lock.cycle (l : Lock) : Lock := ⟨l.taken + 1, l.given + 1⟩

/-- Between the two moments the lock was given as often as it was taken. -/
def Lock.Balanced (l l' : Lock) : Prop := l'.taken + l.given = l'.given + l.taken

instance Lock.Balanced.decidable (l l' : Lock) : Decidable (l.Balanced l') :=
  inferInstanceAs (Decidable (_ = _))

variable {l l' : Lock}

theorem Lock.take_free (h : l.Free) : l.take = some ⟨l.taken + 1, l.given⟩ := if_pos h

theorem Lock.take_held (h : ¬l.Free) : l.take = none := if_neg h

@[simp] theorem Lock.cycle_free : l.cycle.Free ↔ l.Free := by
  simp only [Lock.Free, Lock.cycle, Nat.add_right_cancel_iff]

/-- A lock that has been taken from free is held until it is given. -/
theorem Lock.not_free_taken (h : l.Free) : ¬(Lock.mk (l.taken + 1) l.given).Free := by
  simp only [Lock.Free] at *
  omega

theorem Lock.Balanced.refl (l : Lock) : l.Balanced l := Nat.add_comm _ _

theorem Lock.balanced_cycle (l : Lock) : l.Balanced l.cycle := by
  simp only [Lock.Balanced, Lock.cycle]
  omega

/-- The lock has not been touched, or it was free and is free again. -/
def Lock.Returned (l l' : Lock) : Prop := l' = l ∨ l.Free ∧ l' = l.cycle

theorem Lock.Returned.balanced (h : l.Returned l') : l.Balanced l' := by
  rcases h with rfl | ⟨-, rfl⟩
  · exact Balanced.refl l'
  · exact balanced_cycle l

/-- From a free lock, balanced means free again. -/
theorem Lock.Balanced.free_iff (h : l.Free) : l.Balanced l' ↔ l'.Free := by
  simp only [Lock.Free, Lock.Balanced] at *
  omega

end GroundTruth.Lib
