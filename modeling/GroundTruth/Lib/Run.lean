/-
# Runs of a machine driven by events

A machine is a partial step function: `step s e = none` says that event `e` cannot happen in
state `s`.  Everything the development proves about "every order of events" is a fact about
the runs of such a machine, and every one of those facts is obtained the same way: what one
step preserves, and then the induction below, done once.

* `Run step G s t` is a run from `s` to `t` all of whose steps meet the side condition `G`.
  `Reach step s t` is the same with no side condition.
* `Run.invariant` is the induction rule, in the form in which the side condition of a step is
  available where the step is taken.
* `exec` runs a list of events and is computable, so that a concrete run can be evaluated;
  `exec_reach` and `exec_run` turn the evaluation into a run, `exec_establishes` is the rule for
  what each event of a list brings about, `exec_history` for what the whole list does, and
  `execMeets_iff` for the condition under which something holds all along.
* `watch` keeps a record beside the machine, a count or a clock, that the machine does not see:
  `watch_some` takes a watched step apart into a step and a note of it.
* `exec_rel` is the rule for two machines that take the same events side by side, where the one
  refuses an event exactly when the other does.
-/
import Mathlib.Data.List.Basic
import Mathlib.Tactic.Common

namespace GroundTruth.Lib

variable {σ ε : Type}

/-! ## 1. Runs -/

/-- A run of the machine `step`, each of whose steps meets `G` in the state it is taken in. -/
inductive Run (step : σ → ε → Option σ) (G : σ → ε → Prop) : σ → σ → Prop
  | refl (s : σ) : Run step G s s
  | tail {s t u : σ} {e : ε} : Run step G s t → G t e → step t e = some u → Run step G s u

/-- A run with no condition on its steps. -/
abbrev Reach (step : σ → ε → Option σ) : σ → σ → Prop := Run step fun _ _ => True

variable {step : σ → ε → Option σ} {G H : σ → ε → Prop}

/-- **The invariant rule.**  What holds at the start and is preserved by every step that meets
the side condition holds at the end of every run. -/
theorem Run.invariant {P : σ → Prop} {s t : σ} (h : Run step G s t)
    (hstep : ∀ u e v, P u → G u e → step u e = some v → P v) (h0 : P s) : P t := by
  induction h with
  | refl => exact h0
  | tail _ hg hs ih => exact hstep _ _ _ ih hg hs

/-- A run whose steps meet `G` is one whose steps meet anything weaker. -/
theorem Run.mono {s t : σ} (h : Run step G s t) (hGH : ∀ u e, G u e → H u e) :
    Run step H s t := by
  induction h with
  | refl => exact .refl s
  | tail _ hg hs ih => exact .tail ih (hGH _ _ hg) hs

/-- Forgetting the side condition. -/
theorem Run.reach {s t : σ} (h : Run step G s t) : Reach step s t := h.mono fun _ _ _ => trivial

/-- Runs compose. -/
theorem Run.trans {s t u : σ} (h : Run step G s t) (h' : Run step G t u) : Run step G s u := by
  induction h' with
  | refl => exact h
  | tail _ hg hs ih => exact .tail ih hg hs

/-! ## 2. Executing a list of events -/

/-- Take the events in turn; `none` as soon as one of them cannot happen. -/
def exec (step : σ → ε → Option σ) : σ → List ε → Option σ
  | s, [] => some s
  | s, e :: es => (step s e).bind fun t => exec step t es

/-- A list of events is executed in two turns. -/
theorem exec_append {s : σ} (es fs : List ε) :
    exec step s (es ++ fs) = (exec step s es).bind fun t => exec step t fs := by
  induction es generalizing s with
  | nil => rfl
  | cons e es ih =>
    rw [List.cons_append, exec, exec]
    cases step s e with
    | none => rfl
    | some t => exact ih

/-- Every event of the list meets `G` where it is taken.  Decidable when `G` is. -/
def execMeets (step : σ → ε → Option σ) (G : σ → ε → Prop) : σ → List ε → Prop
  | _, [] => True
  | s, e :: es => G s e ∧ ((step s e).elim True fun t => execMeets step G t es)

instance execMeets.decidable (step : σ → ε → Option σ) (G : σ → ε → Prop)
    [∀ s e, Decidable (G s e)] : ∀ (s : σ) (es : List ε), Decidable (execMeets step G s es)
  | _, [] => inferInstanceAs (Decidable True)
  | s, e :: es =>
    haveI : Decidable ((step s e).elim True fun t => execMeets step G t es) :=
      match step s e with
      | none => inferInstanceAs (Decidable True)
      | some t => execMeets.decidable step G t es
    inferInstanceAs (Decidable (G s e ∧ _))

/-- What `exec` computes is a run. -/
theorem exec_run {s t : σ} {es : List ε} (hm : execMeets step G s es)
    (h : exec step s es = some t) : Run step G s t := by
  induction es generalizing s with
  | nil =>
    rw [exec, Option.some.injEq] at h
    exact h ▸ .refl s
  | cons e es ih =>
    simp only [exec, Option.bind_eq_some_iff] at h
    obtain ⟨u, hu, hrest⟩ := h
    rw [execMeets, hu] at hm
    exact (Run.tail (.refl s) hm.1 hu).trans (ih hm.2 hrest)

/-- The condition that is always met is met by every list of events. -/
theorem execMeets_true (s : σ) (es : List ε) : execMeets step (fun _ _ => True) s es := by
  induction es generalizing s with
  | nil => trivial
  | cons e es ih =>
    refine ⟨trivial, ?_⟩
    cases step s e with
    | none => trivial
    | some t => exact ih t

/-- What `exec` computes is reachable. -/
theorem exec_reach {s t : σ} {es : List ε} (h : exec step s es = some t) : Reach step s t :=
  exec_run (execMeets_true s es) h

/-- **The exact condition of a run.**  If `G` is, step by step, what keeps `P`, then the events of a
list all meet `G` if and only if `P` holds after each of them. -/
theorem execMeets_iff {P : σ → Prop} {s t : σ} {es : List ε}
    (hstep : ∀ u e v, P u → step u e = some v → (G u e ↔ P v)) (h0 : P s)
    (h : exec step s es = some t) :
    execMeets step G s es ↔ ∀ fs u, fs <+: es → exec step s fs = some u → P u := by
  induction es generalizing s with
  | nil =>
    refine ⟨fun _ fs u hfs hu => ?_, fun _ => trivial⟩
    rw [List.prefix_nil.1 hfs, exec, Option.some.injEq] at hu
    exact hu ▸ h0
  | cons e es ih =>
    simp only [exec, Option.bind_eq_some_iff] at h
    obtain ⟨v, hv, hrest⟩ := h
    have hiff := hstep s e v h0 hv
    rw [execMeets, hv]
    constructor
    · rintro ⟨hg, hm⟩ fs u hfs hu
      have hPv := hiff.1 hg
      rcases List.prefix_cons_iff.1 hfs with rfl | ⟨fs', rfl, hfs'⟩
      · rw [exec, Option.some.injEq] at hu
        exact hu ▸ h0
      · rw [exec, hv, Option.bind_some] at hu
        exact (ih hPv hrest).1 hm fs' u hfs' hu
    · intro hall
      have hPv : P v := hall [e] v (by simp) (by rw [exec, hv]; rfl)
      refine ⟨hiff.2 hPv, (ih hPv hrest).2 fun fs u hfs hu => ?_⟩
      refine hall (e :: fs) u (List.prefix_cons_inj e |>.2 hfs) ?_
      rw [exec, hv, Option.bind_some]
      exact hu

/-- **The rule for lists of events.**  What every event of the list establishes, given an invariant
that it also preserves, holds once the list has been executed, unless the list is empty. -/
theorem exec_establishes {J P : σ → Prop} {s t : σ} {es : List ε}
    (hstep : ∀ u e v, J u → G u e → step u e = some v → J v ∧ P v) (h0 : J s) (hne : es ≠ [])
    (hm : execMeets step G s es) (h : exec step s es = some t) : P t := by
  induction es generalizing s with
  | nil => exact absurd rfl hne
  | cons e es ih =>
    simp only [exec, Option.bind_eq_some_iff] at h
    obtain ⟨u, hu, hrest⟩ := h
    rw [execMeets, hu] at hm
    obtain ⟨hJ, hP⟩ := hstep s e u h0 hm.1 hu
    cases es with
    | nil =>
      rw [exec, Option.some.injEq] at hrest
      exact hrest ▸ hP
    | cons e' es => exact ih hJ (List.cons_ne_nil _ _) hm.2 hrest

/-- **The rule for a run and its events.**  What holds at the start, with no event taken, and is
kept as the events are taken one by one, holds of the end and the whole list. -/
theorem exec_history {P : σ → List ε → Prop} {s t : σ} {es : List ε} (h0 : P s [])
    (hstep : ∀ u past e v, P u past → step u e = some v → P v (past ++ [e]))
    (h : exec step s es = some t) : P t es := by
  suffices hpast : ∀ (es past : List ε) (u : σ), P u past → exec step u es = some t →
      P t (past ++ es) from hpast es [] s h0 h
  intro es
  induction es with
  | nil =>
    intro past u hu hend
    rw [exec, Option.some.injEq] at hend
    rw [List.append_nil, ← hend]
    exact hu
  | cons e es ih =>
    intro past u hu hend
    simp only [exec, Option.bind_eq_some_iff] at hend
    obtain ⟨v, hv, hrest⟩ := hend
    rw [List.append_cons]
    exact ih (past ++ [e]) v (hstep u past e v hu hv) hrest

/-! ## 3. A record beside the machine -/

variable {γ : Type}

/-- The machine with a record of the run beside it.  The record may look at the event and at the
states around it, and may rule the event out, as a clock does with a timer that is not due. -/
def watch (step : σ → ε → Option σ) (note : σ → ε → σ → γ → Option γ) :
    σ × γ → ε → Option (σ × γ)
  | (s, r), e => (step s e).bind fun t => (note s e t r).map fun r' => (t, r')

variable {note : σ → ε → σ → γ → Option γ}

/-- A watched step is a step, and a note of it. -/
theorem watch_some {x y : σ × γ} {e : ε} :
    watch step note x e = some y ↔ step x.1 e = some y.1 ∧ note x.1 e y.1 x.2 = some y.2 := by
  obtain ⟨s, r⟩ := x
  obtain ⟨t, r'⟩ := y
  simp only [watch, Option.bind_eq_some_iff, Option.map_eq_some_iff, Prod.mk.injEq]
  constructor
  · rintro ⟨u, hu, q, hq, rfl, rfl⟩
    exact ⟨hu, hq⟩
  · rintro ⟨hs, hn⟩
    exact ⟨t, hs, r', hn, rfl, rfl⟩

/-! ## 4. Two machines side by side -/

/-- **The rule for two machines.**  What relates them at the start and is kept by an event that both
take or both refuse relates them at the end. -/
theorem exec_rel {τ : Type} {step' : τ → ε → Option τ} {R : σ → τ → Prop} {s : σ} {t : τ}
    (hstep : ∀ s t e, R s t → Option.Rel R (step s e) (step' t e)) (h : R s t) (es : List ε) :
    Option.Rel R (exec step s es) (exec step' t es) := by
  induction es generalizing s t with
  | nil => exact .some h
  | cons e es ih =>
    have hone := hstep s t e h
    rw [exec, exec]
    revert hone
    cases step s e <;> cases step' t e
    · intro
      exact .none
    · rintro ⟨⟩
    · rintro ⟨⟩
    · rintro ⟨h'⟩
      exact ih h'

end GroundTruth.Lib
