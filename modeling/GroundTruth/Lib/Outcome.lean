/-
# What a computation comes to that may stop

A computation that may stop gives a value, or the reason why there is none.  `Ends P Q` says of both
what they meet: `P` of the value, `Q` of the reason.  With `Q` false it says that the computation
does not stop.

* `Ends.bind`: one computation after the other, with the same account of the reasons;
* `Run.ends`: what a step keeps, and what it says of its reasons, holds all along a run.
-/
import GroundTruth.Lib.Run

namespace GroundTruth.Lib

variable {ρ α β : Type} {P P' : α → Prop} {R : β → Prop} {Q Q' : ρ → Prop} {x : Except ρ α}

/-- The value meets `P`, or the reason meets `Q`. -/
def Ends (P : α → Prop) (Q : ρ → Prop) : Except ρ α → Prop
  | .ok a => P a
  | .error e => Q e

theorem Ends.bind {f : α → Except ρ β} (hx : Ends P Q x) (hf : ∀ a, P a → Ends R Q (f a)) :
    Ends R Q (x >>= f) := by
  cases x with
  | error e => exact hx
  | ok a => exact hf a hx

theorem Ends.map {f : α → β} (hx : Ends P Q x) (hf : ∀ a, P a → R (f a)) :
    Ends R Q (x.map f) := by
  cases x with
  | error e => exact hx
  | ok a => exact hf a hx

theorem Ends.and (hx : Ends P Q x) (hx' : Ends P' Q x) : Ends (fun a => P a ∧ P' a) Q x := by
  cases x with
  | error e => exact hx
  | ok a => exact ⟨hx, hx'⟩

theorem Ends.mono (hx : Ends P Q x) (hP : ∀ a, P a → P' a) (hQ : ∀ e, Q e → Q' e) :
    Ends P' Q' x := by
  cases x with
  | error e => exact hQ e hx
  | ok a => exact hP a hx

theorem Ends.ok {a : α} (hx : Ends P Q x) (h : x = .ok a) : P a := by
  rw [h] at hx
  exact hx

theorem Ends.error {e : ρ} (hx : Ends P Q x) (h : x = .error e) : Q e := by
  rw [h] at hx
  exact hx

/-- The machine of a step that may stop. -/
def halting {σ ε : Type} (step : σ → ε → Except ρ σ) (s : σ) (e : ε) : Option σ :=
  (step s e).toOption

theorem halting_some {σ ε : Type} {step : σ → ε → Except ρ σ} {s t : σ} {e : ε} :
    halting step s e = some t ↔ step s e = .ok t := by
  rw [halting]
  cases step s e with
  | error e => simp [Except.toOption]
  | ok a => simp [Except.toOption]

/-- **The rule for runs that may stop.** -/
theorem Run.ends {σ ε : Type} {step : σ → ε → Except ρ σ} {G : σ → ε → Prop} {P : σ → Prop}
    {s t : σ} (h : Run (halting step) G s t)
    (hstep : ∀ u e, P u → G u e → Ends P Q (step u e)) (h0 : P s) :
    P t ∧ ∀ e, G t e → Ends P Q (step t e) := by
  have hP : P t := by
    refine h.invariant ?_ h0
    intro u e v hu hg hv
    exact (hstep u e hu hg).ok (halting_some.1 hv)
  exact ⟨hP, fun e => hstep t e hP⟩

end GroundTruth.Lib
