/-
# Handing things over to another thread

One thread does what it has to do and posts some of the things it works on; another one takes what
was posted, in order, and runs a callback on each.  They take turns in any way.  A thing that is not
touched by the first thread once it has posted it has a history that does not depend on the turns:
what the first thread did to it, and where it was posted, what the callback does.

* `Handed` is the discipline, `history` the history;
* `turn` is what one turn does, `whole_step` what it leaves as it is, and `handover` what a whole
  run comes to;
* `exists_over`: the turns can always be taken to the end, so that `handover_iff` holds.
-/
import Mathlib.Algebra.GroupWithZero.Nat
import GroundTruth.Lib.Run

namespace GroundTruth.Lib

variable {κ ω : Type}

/-! ## 1. The two threads -/

/-- What the first thread does: something to a thing, or it posts it. -/
inductive Deed (κ ω : Type)
  | op (c : κ) (o : ω)
  | post (c : κ)
  deriving DecidableEq, Repr

/-- The thing it is done to. -/
def Deed.thing : Deed κ ω → κ
  | .op c _ => c
  | .post c => c

structure Threads (κ ω : Type) where
  /-- what the first thread still has to do -/
  rest : List (Deed κ ω)
  /-- what has been posted and not been taken -/
  queue : List κ
  /-- what the second thread still has to do, in the callback it runs -/
  running : List (κ × ω)
  /-- what has been done -/
  past : List (κ × ω)
  deriving DecidableEq, Repr

inductive Turn
  | poster
  | worker
  deriving DecidableEq, Repr

/-- One turn; `none` when that thread has nothing to do. -/
def turn (callback : κ → List ω) (s : Threads κ ω) : Turn → Option (Threads κ ω)
  | .poster =>
    match s.rest with
    | [] => none
    | .op c o :: rest => some { s with rest := rest, past := s.past ++ [(c, o)] }
    | .post c :: rest => some { s with rest := rest, queue := s.queue ++ [c] }
  | .worker =>
    match s.running with
    | x :: running => some { s with running := running, past := s.past ++ [x] }
    | [] =>
      match s.queue with
      | [] => none
      | c :: queue => some { s with queue := queue, running := (callback c).map (c, ·) }

/-- The first thread has everything before it. -/
def Threads.start (l : List (Deed κ ω)) : Threads κ ω := ⟨l, [], [], []⟩

/-- Nobody has anything to do. -/
def Threads.Over (s : Threads κ ω) : Prop := s.rest = [] ∧ s.queue = [] ∧ s.running = []

/-- Nothing is done to the thing. -/
def Untouched (c : κ) (l : List (Deed κ ω)) : Prop := ∀ d ∈ l, d.thing ≠ c

/-- What is posted is left alone afterwards. -/
def Handed : List (Deed κ ω) → Prop
  | [] => True
  | .op _ _ :: l => Handed l
  | .post c :: l => Untouched c l ∧ Handed l

theorem Untouched.tail {c : κ} {d : Deed κ ω} {l : List (Deed κ ω)} (h : Untouched c (d :: l)) :
    Untouched c l := fun d' hd' => h d' (List.mem_cons_of_mem d hd')

/-! ## 2. Histories -/

section History

variable [DecidableEq κ]

/-- What is done to one thing. -/
def opsOf (c : κ) : List (κ × ω) → List ω
  | [] => []
  | x :: l => if x.1 = c then x.2 :: opsOf c l else opsOf c l

/-- What the callbacks of the things in the queue do to one. -/
def queued (callback : κ → List ω) (c : κ) : List κ → List ω
  | [] => []
  | c' :: l => if c' = c then callback c ++ queued callback c l else queued callback c l

/-- **The history of a thing**, in the order of the first thread. -/
def history (callback : κ → List ω) (c : κ) : List (Deed κ ω) → List ω
  | [] => []
  | .op c' o :: l => if c' = c then o :: history callback c l else history callback c l
  | .post c' :: l => if c' = c then callback c ++ history callback c l else history callback c l

@[simp] theorem opsOf_nil (c : κ) : opsOf c ([] : List (κ × ω)) = [] := rfl

theorem opsOf_append (c : κ) (l l' : List (κ × ω)) :
    opsOf c (l ++ l') = opsOf c l ++ opsOf c l' := by
  induction l with
  | nil => rfl
  | cons x l ih =>
    rw [List.cons_append, opsOf, opsOf]
    by_cases h : x.1 = c
    · rw [if_pos h, if_pos h, ih, List.cons_append]
    · rw [if_neg h, if_neg h, ih]

theorem opsOf_map (c c' : κ) (l : List ω) :
    opsOf c (l.map (c', ·)) = if c' = c then l else [] := by
  induction l with
  | nil => simp
  | cons o l ih =>
    rw [List.map_cons, opsOf, ih]
    by_cases h : c' = c
    · rw [if_pos h, if_pos h, if_pos h]
    · rw [if_neg h, if_neg h, if_neg h]

variable {callback : κ → List ω}

theorem queued_append (c : κ) (l l' : List κ) :
    queued callback c (l ++ l') = queued callback c l ++ queued callback c l' := by
  induction l with
  | nil => rfl
  | cons c' l ih =>
    rw [List.cons_append, queued, queued]
    by_cases h : c' = c
    · rw [if_pos h, if_pos h, ih, List.append_assoc]
    · rw [if_neg h, if_neg h, ih]

theorem queued_of_not_mem {c : κ} {l : List κ} (h : c ∉ l) : queued callback c l = [] := by
  induction l with
  | nil => rfl
  | cons c' l ih =>
    rw [List.mem_cons, not_or] at h
    rw [queued, if_neg fun he => h.1 he.symm, ih h.2]

theorem opsOf_of_not_mem {c : κ} {l : List (κ × ω)} (h : c ∉ l.map Prod.fst) : opsOf c l = [] := by
  induction l with
  | nil => rfl
  | cons x l ih =>
    rw [List.map_cons, List.mem_cons, not_or] at h
    rw [opsOf, if_neg fun he => h.1 he.symm, ih h.2]

/-- Everything that is done to one thing: what has been done, and what is still to be. -/
def Threads.whole (callback : κ → List ω) (c : κ) (s : Threads κ ω) : List ω :=
  opsOf c s.past ++ (opsOf c s.running ++ (queued callback c s.queue ++ history callback c s.rest))

end History

/-! ## 3. The turns -/

/-- What is posted, and not done with, is left alone. -/
structure Threads.Inv (s : Threads κ ω) : Prop where
  handed : Handed s.rest
  queue : ∀ c ∈ s.queue, Untouched c s.rest
  running : ∀ c ∈ s.running.map Prod.fst, Untouched c s.rest

theorem Threads.Inv.start {l : List (Deed κ ω)} (h : Handed l) : (Threads.start l).Inv :=
  ⟨h, fun _ hc => absurd hc List.not_mem_nil, fun _ hc => absurd hc List.not_mem_nil⟩

section Turn

variable {callback : κ → List ω} {s s' : Threads κ ω} {t : Turn}

/-- **One turn** keeps the discipline. -/
theorem Threads.Inv.step (h : s.Inv) (hs : turn callback s t = some s') : s'.Inv := by
  obtain ⟨rest, queue, running, past⟩ := s
  obtain ⟨hhanded, hqueue, hrunning⟩ := h
  cases t with
  | poster =>
    cases rest with
    | nil => cases hs
    | cons d rest =>
      have hq := fun c hc => (hqueue c hc).tail
      have hr := fun c hc => (hrunning c hc).tail
      cases d with
      | op c o =>
        obtain rfl := Option.some.inj hs
        exact ⟨hhanded, hq, hr⟩
      | post c =>
        obtain rfl := Option.some.inj hs
        refine ⟨hhanded.2, fun c' hc' => ?_, hr⟩
        rcases List.mem_append.1 hc' with hc' | hc'
        · exact hq c' hc'
        · obtain rfl := List.mem_singleton.1 hc'
          exact hhanded.1
  | worker =>
    cases running with
    | cons x running =>
      obtain rfl := Option.some.inj hs
      exact ⟨hhanded, hqueue, fun c hc => hrunning c (List.mem_cons_of_mem _ hc)⟩
    | nil =>
      cases queue with
      | nil => cases hs
      | cons c queue =>
        obtain rfl := Option.some.inj hs
        refine ⟨hhanded, fun c' hc' => hqueue c' (List.mem_cons_of_mem c hc'), fun c' hc' => ?_⟩
        rw [List.map_map, List.mem_map] at hc'
        obtain ⟨o, -, rfl⟩ := hc'
        exact hqueue c List.mem_cons_self

variable [DecidableEq κ]

/-- **One turn** leaves to be done what it does not do: the history of each thing is what it was.
The first thread works on a thing only while nothing is to be done to it by the second. -/
theorem whole_step (h : s.Inv) (hs : turn callback s t = some s') (c : κ) :
    s'.whole callback c = s.whole callback c := by
  obtain ⟨rest, queue, running, past⟩ := s
  obtain ⟨hhanded, hqueue, hrunning⟩ := h
  unfold Threads.whole
  cases t with
  | poster =>
    cases rest with
    | nil => cases hs
    | cons d rest =>
      cases d with
      | op c' o =>
        obtain rfl := Option.some.inj hs
        dsimp only
        rw [opsOf_append, history, opsOf, opsOf_nil]
        by_cases hc : c' = c
        · subst hc
          have hmem : ¬ Untouched c' (.op c' o :: rest) := fun hu => hu _ List.mem_cons_self rfl
          have hq : queued callback c' queue = [] :=
            queued_of_not_mem fun hc => hmem (hqueue c' hc)
          have hr : opsOf c' running = [] := opsOf_of_not_mem fun hc => hmem (hrunning c' hc)
          rw [hq, hr, if_pos rfl, if_pos rfl]
          simp
        · rw [if_neg hc, if_neg hc, List.append_nil]
      | post c' =>
        obtain rfl := Option.some.inj hs
        dsimp only
        rw [queued_append, history, queued, queued]
        by_cases hc : c' = c
        · rw [if_pos hc, if_pos hc, List.append_nil, List.append_assoc (queued callback c queue)]
        · rw [if_neg hc, if_neg hc, List.append_nil]
  | worker =>
    cases running with
    | cons x running =>
      obtain rfl := Option.some.inj hs
      dsimp only
      simp only [opsOf_append, opsOf]
      by_cases hc : x.1 = c
      · rw [if_pos hc, if_pos hc]
        simp
      · rw [if_neg hc, if_neg hc, List.append_nil]
    | nil =>
      cases queue with
      | nil => cases hs
      | cons c' queue =>
        obtain rfl := Option.some.inj hs
        dsimp only
        rw [opsOf_map, queued, opsOf_nil]
        by_cases hc : c' = c
        · subst hc
          rw [if_pos rfl, if_pos rfl, List.nil_append, List.append_assoc]
        · rw [if_neg hc, if_neg hc]

/-- **What a run comes to.**  When both threads are done, each thing has the history that the first
thread has planned for it, whatever the turns were. -/
theorem handover {l : List (Deed κ ω)} (h : Handed l) (hr : Reach (turn callback) (.start l) s)
    (hover : s.Over) (c : κ) : opsOf c s.past = history callback c l := by
  have hinv : s.Inv ∧ s.whole callback c = history callback c l :=
    hr.invariant (P := fun s => s.Inv ∧ s.whole callback c = history callback c l)
      (fun _ _ _ hu _ hs => ⟨hu.1.step hs, (whole_step hu.1 hs c).trans hu.2⟩) ⟨.start h, rfl⟩
  obtain ⟨hrest, hqueue, hrunning⟩ := hover
  rw [← hinv.2, Threads.whole, hrest, hqueue, hrunning]
  simp [queued, history]

end Turn

/-! ## 4. The end -/

/-- The turns that are left. -/
def Threads.turnsLeft (callback : κ → List ω) (s : Threads κ ω) : Nat :=
  s.running.length + (s.queue.map fun c => (callback c).length + 1).sum +
    (s.rest.map fun
      | .op _ _ => 1
      | .post c => (callback c).length + 2).sum

/-- As long as there is something to do, somebody can do it, and then there is less. -/
theorem turn_progress (callback : κ → List ω) (s : Threads κ ω) :
    s.Over ∨ ∃ t s', turn callback s t = some s' ∧
      s'.turnsLeft callback < s.turnsLeft callback := by
  obtain ⟨rest, queue, running, past⟩ := s
  cases rest with
  | cons d rest =>
    right
    cases d with
    | op c o =>
      refine ⟨.poster, _, rfl, ?_⟩
      simp only [Threads.turnsLeft, List.map_cons, List.sum_cons]
      omega
    | post c =>
      refine ⟨.poster, _, rfl, ?_⟩
      simp only [Threads.turnsLeft, List.map_append, List.map_cons, List.map_nil, List.sum_append,
        List.sum_cons, List.sum_nil]
      omega
  | nil =>
    cases running with
    | cons x running =>
      refine .inr ⟨.worker, _, rfl, ?_⟩
      simp only [Threads.turnsLeft, List.length_cons]
      omega
    | nil =>
      cases queue with
      | nil => exact .inl ⟨rfl, rfl, rfl⟩
      | cons c queue =>
        refine .inr ⟨.worker, _, rfl, ?_⟩
        simp only [Threads.turnsLeft, List.length_map, List.map_cons, List.sum_cons,
          List.length_nil]
        omega

/-- **Every run can be taken to its end**, by induction on the turns that are left. -/
theorem exists_over (callback : κ → List ω) (s : Threads κ ω) :
    ∃ s', Reach (turn callback) s s' ∧ s'.Over := by
  suffices hbound : ∀ n s, Threads.turnsLeft callback s ≤ n →
      ∃ s', Reach (turn callback) s s' ∧ s'.Over from hbound _ s (Nat.le_refl _)
  intro n
  induction n with
  | zero =>
    intro s hn
    rcases turn_progress callback s with hover | ⟨t, s', -, hlt⟩
    · exact ⟨s, .refl s, hover⟩
    · omega
  | succ n ih =>
    intro s hn
    rcases turn_progress callback s with hover | ⟨t, s', hs, hlt⟩
    · exact ⟨s, .refl s, hover⟩
    · obtain ⟨u, hu, hover⟩ := ih s' (by omega)
      have hfirst : Reach (turn callback) s s' := .tail (.refl s) trivial hs
      exact ⟨u, hfirst.trans hu, hover⟩

/-- **What holds of the histories**, holds whenever the threads are done. -/
theorem handover_iff [DecidableEq κ] {callback : κ → List ω} {l : List (Deed κ ω)} (h : Handed l)
    (P : List ω → Prop) :
    (∀ s, Reach (turn callback) (.start l) s → s.Over → ∀ c, P (opsOf c s.past)) ↔
      ∀ c, P (history callback c l) := by
  constructor
  · intro hall c
    obtain ⟨s, hr, hover⟩ := exists_over callback (.start l)
    rw [← handover h hr hover c]
    exact hall s hr hover c
  · intro hall s hr hover c
    rw [handover h hr hover c]
    exact hall c

end GroundTruth.Lib
