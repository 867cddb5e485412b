/-
# Endless runs

`Run` is about what happens; this is about what must happen.  An endless run is a machine that
never stops taking events, and what it comes to depends on which of them are taken again and again.

* `Endless.invariant` is the induction rule of `Run`, along an endless run;
* `Endless.eventually_zero` is the rule for progress: a rank that never grows, and that falls again
  as long as it is not zero, is zero from some point on.
-/
import Mathlib.Order.Monotone.Basic
import GroundTruth.Lib.Run

namespace GroundTruth.Lib

variable {σ ε : Type} {step : σ → ε → Option σ} {s : σ}

/-- A run of the machine from `s` that goes on for ever. -/
structure Endless (step : σ → ε → Option σ) (s : σ) where
  state : Nat → σ
  event : Nat → ε
  start : state 0 = s
  next : ∀ n, step (state n) (event n) = some (state (n + 1))

/-- **The invariant rule**, with a condition that all events of the run meet. -/
theorem Endless.invariant (r : Endless step s) {P : σ → Prop} {G : σ → ε → Prop}
    (hstep : ∀ u e v, P u → G u e → step u e = some v → P v)
    (hG : ∀ n, G (r.state n) (r.event n)) (h0 : P s) (n : Nat) : P (r.state n) := by
  induction n with
  | zero =>
    rw [r.start]
    exact h0
  | succ n ih => exact hstep _ _ _ ih (hG n) (r.next n)

/-- **The rule for progress.**  By induction on the rank: either it is zero somewhere, and stays
so, or it falls. -/
theorem Endless.eventually_zero (r : Endless step s) {rank : σ → Nat}
    (hle : ∀ n, rank (r.state (n + 1)) ≤ rank (r.state n))
    (hfalls : ∀ n, (∀ m, n ≤ m → rank (r.state m) ≠ 0) →
      ∃ m, n ≤ m ∧ rank (r.state (m + 1)) < rank (r.state m)) :
    ∃ N, ∀ n, N ≤ n → rank (r.state n) = 0 := by
  have hanti : Antitone fun n => rank (r.state n) := antitone_nat_of_succ_le hle
  suffices hbound : ∀ k n, rank (r.state n) ≤ k → ∃ N, ∀ m, N ≤ m → rank (r.state m) = 0 from
    hbound (rank (r.state 0)) 0 (Nat.le_refl _)
  intro k
  induction k with
  | zero =>
    intro n hn
    exact ⟨n, fun m hm => Nat.le_zero.1 ((hanti hm).trans hn)⟩
  | succ k ih =>
    intro n hn
    by_cases hzero : ∀ m, n ≤ m → rank (r.state m) ≠ 0
    · obtain ⟨m, hm, hlt⟩ := hfalls n hzero
      have hmn : rank (r.state m) ≤ rank (r.state n) := hanti hm
      exact ih (m + 1) (by omega)
    · simp only [not_forall, not_not] at hzero
      obtain ⟨m, -, hm⟩ := hzero
      exact ⟨m, fun n hn => Nat.le_zero.1 ((hanti hn).trans hm.le)⟩

end GroundTruth.Lib
