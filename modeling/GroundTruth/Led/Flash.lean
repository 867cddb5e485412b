/-
# The task that flashes the user LED

`user_led_start_flash` creates the flash task when `s_user_led_task_handle` is NULL.
`user_led_stop_flash` clears `s_user_led_flash_enabled`, waits for 100 ms "for the task to exit
cleanly" and sets the handle to NULL.  The task looks at the flag only once in a second: when the
handle is NULL it is as a rule still asleep, and a start that comes then sets the flag again and
creates another one.

The callbacks of ACD are made one after the other, on the thread of lwIP; the first start is that of
`user_led_init`.

* `ledStep_cases`: what a step can do;
* `InTime`: no start comes sooner after a conflict than the task looks at the flag;
* `Timely.step`: then the task that a conflict stops is on its way out, and has gone by the time of
  the next start;
* `UserLed.Inv.step`: what the flag, the handle and the pin are between the steps of a callback;
* `ends_solid`: once a conflict is over the LED ends on, in every run;
* `led_task`: both; `two_tasks`: a start while the task is asleep.
-/
import Mathlib.Algebra.GroupWithZero.Nat
import Mathlib.Tactic.Common
import GroundTruth.Lib.Fair

namespace GroundTruth.Led

open GroundTruth.Lib

/-! ## 1. The task and the callbacks -/

/-- Where a flash task is. -/
inductive TaskPhase
  /-- at the head of its loop -/
  | atLoop
  /-- it has seen the flag set -/
  | goingOn
  /-- in the delay with the LED on, and what is left of it -/
  | lit (ms : Nat)
  /-- in the delay with the LED off, and what is left of it -/
  | dark (ms : Nat)
  /-- it has seen the flag cleared -/
  | goingSolid
  /-- before `vTaskDelete` -/
  | exiting
  deriving DecidableEq, Repr

/-- What the callback of ACD is called with, as far as it matters to the LED. -/
inductive Callback
  /-- `ACD_IP_OK` -/
  | ipOk
  /-- `ACD_DECLINE` and `ACD_RESTART_CLIENT` -/
  | conflict
  deriving DecidableEq, Repr

/-- Where the thread is that makes the callbacks. -/
inductive Caller
  | idle
  /-- in `user_led_start_flash`, before `xTaskCreate` -/
  | creating
  /-- `xTaskCreate` has failed -/
  | createFailed
  /-- in the delay of `user_led_stop_flash`, and what is left of it -/
  | stopping (ms : Nat)
  /-- back from it, before the LED is turned on -/
  | stopped
  deriving DecidableEq, Repr

structure UserLed where
  /-- `s_user_led_initialized` -/
  initialized : Bool
  /-- `s_user_led_flash_enabled` -/
  flashEnabled : Bool
  /-- `s_user_led_task_handle` is not NULL -/
  taskHandle : Bool
  /-- the level of the pin -/
  on : Bool
  tasks : List TaskPhase
  caller : Caller
  /-- the callback that was made last -/
  last : Option Callback
  deriving DecidableEq, Repr

/-- `user_led_set` -/
def UserLed.userLedSet (s : UserLed) (on : Bool) : UserLed :=
  if s.initialized then { s with on := on } else s

/-- `flash_interval`, in milliseconds -/
def flashInterval : Nat := 500

/-- `user_led_flash_task`, from where it is to the next place at which another task may come in
between: what it sets the LED to, and where it is then, if it is anywhere.  It does nothing while
there is something left of a delay. -/
def userLedFlashTask (flashEnabled : Bool) : TaskPhase → Option (Option Bool × Option TaskPhase)
  | .atLoop => some (none, some (if flashEnabled then .goingOn else .goingSolid))
  | .goingOn => some (some true, some (.lit flashInterval))
  | .lit 0 => some (some false, some (.dark flashInterval))
  | .lit (_ + 1) => none
  | .dark 0 => some (none, some .atLoop)
  | .dark (_ + 1) => none
  | .goingSolid => some (some true, some .exiting)
  | .exiting => some (none, none)

/-- `user_led_start_flash`, as far as `xTaskCreate`. -/
def UserLed.userLedStartFlash (s : UserLed) : UserLed :=
  if !s.initialized then s
  else if !s.taskHandle then { s with flashEnabled := true, caller := .creating }
  else s

/-- `user_led_stop_flash`, as far as its delay. -/
def UserLed.userLedStopFlash (s : UserLed) : UserLed :=
  if s.taskHandle then { s with flashEnabled := false, caller := .stopping 100 }
  else { s with caller := .stopped }

/-- `user_led_init`, with what `gpio_config` made of it, as far as `xTaskCreate`. -/
def userLedInit (configured : Bool) : UserLed :=
  let s : UserLed := ⟨configured, false, false, false, [], .idle, none⟩
  if configured then s.userLedStartFlash else s

/-! ## 2. What can happen -/

inductive LedEvent
  /-- `tcpip_acd_conflict_callback` is called -/
  | callback (c : Callback)
  /-- `xTaskCreate` returns -/
  | create (created : Bool)
  /-- the flag is cleared, because there is no task -/
  | giveUp
  /-- the delay of `user_led_stop_flash` is over -/
  | forget
  /-- `user_led_set(true)`, in the callback -/
  | light
  /-- the task runs -/
  | task (i : Nat)
  /-- time passes -/
  | elapse (ms : Nat)
  deriving DecidableEq, Repr

/-- A delay, so much later. -/
def TaskPhase.after (ms : Nat) : TaskPhase → TaskPhase
  | .lit left => .lit (left - ms)
  | .dark left => .dark (left - ms)
  | p => p

/-- The delay of `user_led_stop_flash`, so much later. -/
def Caller.after (ms : Nat) : Caller → Caller
  | .stopping left => .stopping (left - ms)
  | c => c

/-- The pin, and the tasks. -/
def UserLed.taskStep (s : UserLed) (i : Nat) (set : Option Bool) (next : Option TaskPhase) :
    UserLed :=
  { set.elim s s.userLedSet with
    tasks := next.elim (s.tasks.eraseIdx i) (s.tasks.set i) }

def ledStep (s : UserLed) : LedEvent → Option UserLed
  | .callback c =>
    if s.caller = .idle then
      let s := { s with last := some c }
      match c with
      | .ipOk => some s.userLedStartFlash
      | .conflict => some s.userLedStopFlash
    else none
  | .create created =>
    if s.caller = .creating then
      if created then
        some { s with taskHandle := true, tasks := s.tasks ++ [.atLoop], caller := .idle }
      else some { s with caller := .createFailed }
    else none
  | .giveUp =>
    if s.caller = .createFailed then some { s with flashEnabled := false, caller := .idle }
    else none
  | .forget =>
    if s.caller = .stopping 0 then some { s with taskHandle := false, caller := .stopped }
    else none
  | .light =>
    if s.caller = .stopped then some { s.userLedSet true with caller := .idle } else none
  | .task i =>
    s.tasks[i]?.bind fun p => (userLedFlashTask s.flashEnabled p).map fun (set, next) =>
      s.taskStep i set next
  | .elapse ms =>
    some { s with tasks := s.tasks.map (TaskPhase.after ms), caller := s.caller.after ms }

/-! ## 3. One step -/

section Step

variable {s s' : UserLed} {i : Nat} {set : Option Bool} {next : Option TaskPhase} {e : LedEvent}

/-- A pin has the level it is given, if it is configured, and nothing else changes. -/
theorem userLedSet_eq (on : Bool) :
    s.userLedSet on = { s with on := if s.initialized then on else s.on } := by
  unfold UserLed.userLedSet
  split <;> rfl

/-- A run of a task: the level of the pin, and the tasks. -/
theorem taskStep_eq :
    s.taskStep i set next = { s with
      on := set.elim s.on fun on => if s.initialized then on else s.on
      tasks := next.elim (s.tasks.eraseIdx i) (s.tasks.set i) } := by
  cases set with
  | none => rfl
  | some on => rw [UserLed.taskStep, Option.elim_some, userLedSet_eq, Option.elim_some]

/-- A start changes the flag, and where its thread is. -/
theorem userLedStartFlash_same :
    ∃ flag caller, s.userLedStartFlash = { s with flashEnabled := flag, caller := caller } := by
  unfold UserLed.userLedStartFlash
  split
  · exact ⟨_, _, rfl⟩
  · split <;> exact ⟨_, _, rfl⟩

/-- So does a stop. -/
theorem userLedStopFlash_same :
    ∃ flag caller, s.userLedStopFlash = { s with flashEnabled := flag, caller := caller } := by
  unfold UserLed.userLedStopFlash
  split <;> exact ⟨_, _, rfl⟩

/-- What a step can do, with what it needs. -/
inductive LedStep (s : UserLed) : LedEvent → UserLed → Prop
  | ipOk (hc : s.caller = .idle) :
    LedStep s (.callback .ipOk) { s with last := some .ipOk }.userLedStartFlash
  | conflict (hc : s.caller = .idle) :
    LedStep s (.callback .conflict) { s with last := some .conflict }.userLedStopFlash
  | created (hc : s.caller = .creating) :
    LedStep s (.create true)
      { s with taskHandle := true, tasks := s.tasks ++ [.atLoop], caller := .idle }
  | notCreated (hc : s.caller = .creating) :
    LedStep s (.create false) { s with caller := .createFailed }
  | giveUp (hc : s.caller = .createFailed) :
    LedStep s .giveUp { s with flashEnabled := false, caller := .idle }
  | forget (hc : s.caller = .stopping 0) :
    LedStep s .forget { s with taskHandle := false, caller := .stopped }
  | light (hc : s.caller = .stopped) :
    LedStep s .light { s.userLedSet true with caller := .idle }
  | task {i : Nat} {p : TaskPhase} {set : Option Bool} {next : Option TaskPhase}
    (hp : s.tasks[i]? = some p) (hq : userLedFlashTask s.flashEnabled p = some (set, next)) :
    LedStep s (.task i) (s.taskStep i set next)
  | elapse (ms : Nat) :
    LedStep s (.elapse ms)
      { s with tasks := s.tasks.map (TaskPhase.after ms), caller := s.caller.after ms }

/-- **One step**, by what it does. -/
theorem ledStep_cases (h : ledStep s e = some s') : LedStep s e s' := by
  cases e with
  | callback c =>
    simp only [ledStep, Option.ite_none_right_eq_some] at h
    obtain ⟨hc, h⟩ := h
    cases c with
    | ipOk =>
      obtain rfl := Option.some.inj h
      exact .ipOk hc
    | conflict =>
      obtain rfl := Option.some.inj h
      exact .conflict hc
  | create created =>
    simp only [ledStep, Option.ite_none_right_eq_some] at h
    obtain ⟨hc, h⟩ := h
    cases created with
    | false =>
      obtain rfl := Option.some.inj h
      exact .notCreated hc
    | true =>
      obtain rfl := Option.some.inj h
      exact .created hc
  | giveUp =>
    simp only [ledStep, Option.ite_none_right_eq_some, Option.some.injEq] at h
    obtain ⟨hc, rfl⟩ := h
    exact .giveUp hc
  | forget =>
    simp only [ledStep, Option.ite_none_right_eq_some, Option.some.injEq] at h
    obtain ⟨hc, rfl⟩ := h
    exact .forget hc
  | light =>
    simp only [ledStep, Option.ite_none_right_eq_some, Option.some.injEq] at h
    obtain ⟨hc, rfl⟩ := h
    exact .light hc
  | task i =>
    simp only [ledStep, Option.bind_eq_some_iff, Option.map_eq_some_iff] at h
    obtain ⟨p, hp, ⟨set, next⟩, hq, rfl⟩ := h
    exact .task hp hq
  | elapse ms =>
    obtain rfl := Option.some.inj h
    exact .elapse ms

/-- The task that runs is replaced by where it is then, if it is anywhere. -/
theorem taskStep_tasks (set : Option Bool) (next : Option TaskPhase) {p : TaskPhase}
    (h : s.tasks[i]? = some p) :
    ∃ l₁ l₂, s.tasks = l₁ ++ p :: l₂ ∧ (s.taskStep i set next).tasks = l₁ ++ next.toList ++ l₂ := by
  obtain ⟨hi, hp⟩ := List.getElem?_eq_some_iff.1 h
  refine ⟨s.tasks.take i, s.tasks.drop (i + 1), ?_, ?_⟩
  · rw [← hp, ← List.drop_eq_getElem_cons hi, List.take_append_drop]
  · rw [taskStep_eq]
    cases next with
    | none => simp [List.eraseIdx_eq_take_drop_succ]
    | some q => simp [List.set_eq_take_append_cons_drop, hi]

end Step

/-! ## 4. One task -/

/-- What is left of the delay that a task is in. -/
def TaskPhase.left : TaskPhase → Nat
  | .lit left => left
  | .dark left => left
  | _ => 0

/-- How long a task sleeps before it looks at the flag. -/
def TaskPhase.untilLook : TaskPhase → Nat
  | .goingOn => flashInterval + flashInterval
  | .lit left => left + flashInterval
  | .dark left => left
  | _ => 0

/-- The flag has been cleared: how long ago, and after what time the task looks at it. -/
structure Stop where
  since : Nat
  due : Nat
  deriving DecidableEq, Repr

/-- The clock of the last stop, which a creation ends. -/
def noteStop (s : UserLed) (e : LedEvent) (_ : UserLed) (w : Option Stop) : Option (Option Stop) :=
  match e with
  | .callback .conflict =>
    some (if s.taskHandle then some ⟨0, (s.tasks.map TaskPhase.untilLook).sum⟩ else w)
  | .create true => some none
  | .elapse ms => some (w.map fun x => { x with since := x.since + ms })
  | _ => some w

/-- The steps, with the clock beside them. -/
def timedStep : UserLed × Option Stop → LedEvent → Option (UserLed × Option Stop) :=
  watch ledStep noteStop

/-- A task runs when its delay is over, before any more time passes; and `ACD_IP_OK`, when it finds
the handle `NULL`, comes later after the stop than the task's look at the flag. -/
def InTime : UserLed × Option Stop → LedEvent → Prop
  | (s, _), .elapse ms => ∀ p ∈ s.tasks, ms ≤ p.left
  | (s, some w), .callback .ipOk => s.taskHandle = false → w.due < w.since
  | _, _ => True

instance InTime.decidable : ∀ x e, Decidable (InTime x e)
  | (s, _), .elapse ms => inferInstanceAs (Decidable (∀ p ∈ s.tasks, ms ≤ p.left))
  | (s, some _), .callback .ipOk => inferInstanceAs (Decidable (s.taskHandle = false → _))
  | (_, none), .callback .ipOk => inferInstanceAs (Decidable True)
  | (_, _), .callback .conflict => inferInstanceAs (Decidable True)
  | (_, _), .create _ => inferInstanceAs (Decidable True)
  | (_, _), .giveUp => inferInstanceAs (Decidable True)
  | (_, _), .forget => inferInstanceAs (Decidable True)
  | (_, _), .light => inferInstanceAs (Decidable True)
  | (_, _), .task _ => inferInstanceAs (Decidable True)

/-- One task, which goes on. -/
def Flashing (flag : Bool) (tasks : List TaskPhase) (w : Option Stop) : Prop :=
  flag = true ∧ w = none ∧ ∃ p, tasks = [p] ∧ p ≠ .goingSolid ∧ p ≠ .exiting

/-- One task, which has been stopped, and comes to look at the flag when it is due. -/
def Leaving (flag : Bool) (tasks : List TaskPhase) (w : Option Stop) : Prop :=
  flag = false ∧ ∃ x p, w = some x ∧ tasks = [p] ∧ x.since + p.untilLook = x.due

/-- No task, and the one that was stopped was due. -/
def Gone (tasks : List TaskPhase) (w : Option Stop) : Prop :=
  tasks = [] ∧ ∀ x ∈ w, x.due ≤ x.since

/-- A task that has been stopped: it is still there, or it has gone. -/
def Stopped (flag : Bool) (tasks : List TaskPhase) (w : Option Stop) : Prop :=
  Leaving flag tasks w ∨ Gone tasks w

/-- The tasks, by where the thread of the callbacks is. -/
def UserLed.Timely (s : UserLed) (w : Option Stop) : Prop :=
  match s.caller with
  | .idle =>
    (s.taskHandle = true → Flashing s.flashEnabled s.tasks w) ∧
      (s.taskHandle = false → Stopped s.flashEnabled s.tasks w)
  | .creating => s.flashEnabled = true ∧ s.taskHandle = false ∧ Gone s.tasks w
  | .createFailed => s.taskHandle = false ∧ Gone s.tasks w
  | .stopping _ => Stopped s.flashEnabled s.tasks w
  | .stopped => s.taskHandle = false ∧ Stopped s.flashEnabled s.tasks w

section Timely

variable {s s' : UserLed} {i : Nat} {set : Option Bool} {next : Option TaskPhase} {flag : Bool}
  {tasks : List TaskPhase} {w w' : Option Stop} {e : LedEvent} {p : TaskPhase}

/-- A run of the only task. -/
theorem taskStep_lone (set : Option Bool) (next : Option TaskPhase) (h : s.tasks = [p])
    {q : TaskPhase} (hq : s.tasks[i]? = some q) :
    q = p ∧ (s.taskStep i set next).tasks = next.toList := by
  rw [h] at hq
  obtain rfl : i = 0 := by
    have hi := (List.getElem?_eq_some_iff.1 hq).1
    simpa using hi
  refine ⟨(Option.some.inj hq).symm, ?_⟩
  rw [taskStep_eq, h]
  cases next <;> rfl

/-- While the flag is set a task goes on. -/
theorem flashing_next (h : userLedFlashTask true p = some (set, next)) (hs : p ≠ .goingSolid)
    (he : p ≠ .exiting) : ∃ q, next = some q ∧ q ≠ .goingSolid ∧ q ≠ .exiting := by
  cases p with
  | lit ms =>
    cases ms <;> cases h
    exact ⟨_, rfl, by decide, by decide⟩
  | dark ms =>
    cases ms <;> cases h
    exact ⟨_, rfl, by decide, by decide⟩
  | goingSolid => exact absurd rfl hs
  | exiting => exact absurd rfl he
  | _ =>
    cases h
    exact ⟨_, rfl, by decide, by decide⟩

/-- A task that runs does not come nearer to its look at the flag: only time brings it there. -/
theorem untilLook_next (h : userLedFlashTask false p = some (set, next)) :
    next.elim 0 TaskPhase.untilLook = p.untilLook := by
  cases p with
  | lit ms =>
    cases ms <;> cases h
    rfl
  | dark ms =>
    cases ms <;> cases h
    rfl
  | _ =>
    cases h
    rfl

theorem untilLook_after {ms : Nat} (h : ms ≤ p.left) :
    ms + (p.after ms).untilLook = p.untilLook := by
  cases p with
  | lit left =>
    change ms ≤ left at h
    change ms + (left - ms + flashInterval) = left + flashInterval
    omega
  | dark left => exact Nat.add_sub_cancel' h
  | _ =>
    obtain rfl := Nat.le_zero.1 h
    exact Nat.zero_add _

theorem Flashing.task (h : Flashing s.flashEnabled s.tasks w) (hp : s.tasks[i]? = some p)
    (hq : userLedFlashTask s.flashEnabled p = some (set, next)) :
    Flashing s.flashEnabled (s.taskStep i set next).tasks w := by
  obtain ⟨hflag, hw, p₀, htasks, hs, he⟩ := h
  obtain ⟨rfl, hnext⟩ := taskStep_lone set next htasks hp
  rw [hflag] at hq
  obtain ⟨q, rfl, hqs, hqe⟩ := flashing_next hq hs he
  exact ⟨hflag, hw, q, hnext, hqs, hqe⟩

theorem Leaving.task (h : Leaving s.flashEnabled s.tasks w) (hp : s.tasks[i]? = some p)
    (hq : userLedFlashTask s.flashEnabled p = some (set, next)) :
    Leaving s.flashEnabled (s.taskStep i set next).tasks w ∨
      Gone (s.taskStep i set next).tasks w := by
  obtain ⟨hflag, x, p₀, rfl, htasks, hdue⟩ := h
  obtain ⟨rfl, hnext⟩ := taskStep_lone set next htasks hp
  rw [hflag] at hq
  have hlook := untilLook_next hq
  cases next with
  | none =>
    refine Or.inr ⟨hnext, fun y hy => ?_⟩
    obtain rfl := Option.some.inj hy
    change 0 = p.untilLook at hlook
    omega
  | some q =>
    refine Or.inl ⟨hflag, x, q, rfl, hnext, ?_⟩
    change q.untilLook = p.untilLook at hlook
    rw [hlook, hdue]

/-- Where there is no task none runs. -/
theorem Gone.no_task (h : Gone s.tasks w) (hp : s.tasks[i]? = some p) : False := by
  rw [h.1] at hp
  cases hp

theorem Flashing.elapse (h : Flashing flag tasks w) (ms : Nat) :
    Flashing flag (tasks.map (TaskPhase.after ms))
      (w.map fun x => { x with since := x.since + ms }) := by
  obtain ⟨hflag, rfl, p, rfl, hs, he⟩ := h
  refine ⟨hflag, rfl, p.after ms, rfl, ?_, ?_⟩ <;> cases p <;> simp_all [TaskPhase.after]

theorem Leaving.elapse {ms : Nat} (h : Leaving flag tasks w) (hms : ∀ p ∈ tasks, ms ≤ p.left) :
    Leaving flag (tasks.map (TaskPhase.after ms))
      (w.map fun x => { x with since := x.since + ms }) := by
  obtain ⟨hflag, x, p, rfl, rfl, hdue⟩ := h
  have hlook := untilLook_after (hms p (List.mem_singleton_self p))
  refine ⟨hflag, _, p.after ms, rfl, rfl, ?_⟩
  change x.since + ms + (p.after ms).untilLook = x.due
  omega

theorem Gone.elapse (h : Gone tasks w) (ms : Nat) :
    Gone (tasks.map (TaskPhase.after ms)) (w.map fun x => { x with since := x.since + ms }) := by
  obtain ⟨rfl, hdue⟩ := h
  refine ⟨rfl, fun y hy => ?_⟩
  obtain ⟨x, hx, rfl⟩ := Option.map_eq_some_iff.1 hy
  exact Nat.le_trans (hdue x hx) (Nat.le_add_right _ _)

/-- A task that is stopped comes to its look at the flag when it is due. -/
theorem Flashing.stop (h : Flashing flag tasks w) :
    Leaving false tasks (some ⟨0, (tasks.map TaskPhase.untilLook).sum⟩) := by
  obtain ⟨-, -, p, rfl, -, -⟩ := h
  exact ⟨rfl, _, p, rfl, rfl, by simp⟩

/-- A task that has been due for some time has gone. -/
theorem Leaving.early (h : Leaving flag tasks w) : ∃ x ∈ w, x.since ≤ x.due := by
  obtain ⟨-, x, p, hw, -, hdue⟩ := h
  exact ⟨x, hw, by omega⟩

theorem Stopped.task (h : Stopped s.flashEnabled s.tasks w) (hp : s.tasks[i]? = some p)
    (hq : userLedFlashTask s.flashEnabled p = some (set, next)) :
    Stopped s.flashEnabled (s.taskStep i set next).tasks w := by
  rcases h with h | h
  · exact h.task hp hq
  · exact (h.no_task hp).elim

theorem Stopped.elapse {ms : Nat} (h : Stopped flag tasks w) (hms : ∀ p ∈ tasks, ms ≤ p.left) :
    Stopped flag (tasks.map (TaskPhase.after ms))
      (w.map fun x => { x with since := x.since + ms }) :=
  h.imp (fun h => h.elapse hms) fun h => h.elapse ms

/-- A start that is in time finds no task. -/
theorem Stopped.gone (h : Stopped flag tasks w) (hw : ∀ x ∈ w, x.due < x.since) :
    Gone tasks w := by
  rcases h with h | h
  · obtain ⟨x, hx, hle⟩ := h.early
    exact absurd (hw x hx) (Nat.not_lt.2 hle)
  · exact h

/-- A run of a task changes neither the thread of the callbacks nor what it goes by. -/
theorem UserLed.Timely.task (h : s.Timely w) (hp : s.tasks[i]? = some p)
    (hq : userLedFlashTask s.flashEnabled p = some (set, next)) :
    (s.taskStep i set next).Timely w := by
  have hstate : s.taskStep i set next = { s with
      on := (s.taskStep i set next).on
      tasks := (s.taskStep i set next).tasks } := by
    rw [taskStep_eq]
  unfold UserLed.Timely at h
  rw [hstate]
  unfold UserLed.Timely
  dsimp only
  cases hc : s.caller with
  | idle =>
    rw [hc] at h
    exact ⟨fun hh => (h.1 hh).task hp hq, fun hh => (h.2 hh).task hp hq⟩
  | creating =>
    rw [hc] at h
    exact (h.2.2.no_task hp).elim
  | createFailed =>
    rw [hc] at h
    exact (h.2.no_task hp).elim
  | stopping ms =>
    rw [hc] at h
    exact Stopped.task h hp hq
  | stopped =>
    rw [hc] at h
    exact ⟨h.1, h.2.task hp hq⟩

theorem UserLed.Timely.elapse {ms : Nat} (h : s.Timely w) (hms : ∀ p ∈ s.tasks, ms ≤ p.left) :
    UserLed.Timely
      { s with tasks := s.tasks.map (TaskPhase.after ms), caller := s.caller.after ms }
      (w.map fun x => { x with since := x.since + ms }) := by
  unfold UserLed.Timely at h ⊢
  dsimp only
  cases hc : s.caller with
  | idle =>
    rw [hc] at h
    exact ⟨fun hh => (h.1 hh).elapse ms, fun hh => (h.2 hh).elapse hms⟩
  | creating =>
    rw [hc] at h
    exact ⟨h.1, h.2.1, h.2.2.elapse ms⟩
  | createFailed =>
    rw [hc] at h
    exact ⟨h.1, h.2.elapse ms⟩
  | stopping left =>
    rw [hc] at h
    exact Stopped.elapse h hms
  | stopped =>
    rw [hc] at h
    exact ⟨h.1, h.2.elapse hms⟩

theorem UserLed.Timely.ipOk (h : s.Timely w) (hc : s.caller = .idle)
    (hw : s.taskHandle = false → ∀ x ∈ w, x.due < x.since) :
    { s with last := some .ipOk }.userLedStartFlash.Timely w := by
  unfold UserLed.Timely at h
  rw [hc] at h
  by_cases hi : s.initialized = true
  · cases hh : s.taskHandle with
    | true => simpa [UserLed.userLedStartFlash, hi, hh, UserLed.Timely, hc] using h.1 hh
    | false =>
      simpa [UserLed.userLedStartFlash, hi, hh, UserLed.Timely] using (h.2 hh).gone (hw hh)
  · simpa [UserLed.userLedStartFlash, hi, UserLed.Timely, hc] using h

theorem UserLed.Timely.conflict (h : s.Timely w) (hc : s.caller = .idle) :
    { s with last := some .conflict }.userLedStopFlash.Timely
      (if s.taskHandle then some ⟨0, (s.tasks.map TaskPhase.untilLook).sum⟩ else w) := by
  unfold UserLed.Timely at h
  rw [hc] at h
  cases hh : s.taskHandle with
  | true =>
    have hstopped : Stopped false s.tasks _ := Or.inl (h.1 hh).stop
    simpa [UserLed.userLedStopFlash, hh, UserLed.Timely] using hstopped
  | false => simpa [UserLed.userLedStopFlash, hh, UserLed.Timely] using h.2 hh

/-- **One step** that is in time. -/
theorem UserLed.Timely.step {x y : UserLed × Option Stop} (h : x.1.Timely x.2) (hg : InTime x e)
    (hs : timedStep x e = some y) : y.1.Timely y.2 := by
  obtain ⟨s, w⟩ := x
  obtain ⟨s', w'⟩ := y
  obtain ⟨hstep, hnote⟩ := watch_some.1 hs
  dsimp only at h hstep hnote ⊢
  cases ledStep_cases hstep with
  | ipOk hc =>
    obtain rfl := Option.some.inj hnote
    refine h.ipOk hc fun hh x hx => ?_
    obtain rfl := Option.mem_def.1 hx
    exact hg hh
  | conflict hc =>
    obtain rfl := Option.some.inj hnote
    exact h.conflict hc
  | created hc =>
    obtain rfl := Option.some.inj hnote
    rw [UserLed.Timely, hc] at h
    obtain ⟨hflag, -, htasks, -⟩ := h
    refine ⟨fun _ => ⟨hflag, rfl, .atLoop, ?_, by decide, by decide⟩, ?_⟩
    · rw [htasks]
      rfl
    · intro hh
      cases hh
  | notCreated hc =>
    obtain rfl := Option.some.inj hnote
    rw [UserLed.Timely, hc] at h
    exact h.2
  | giveUp hc =>
    obtain rfl := Option.some.inj hnote
    rw [UserLed.Timely, hc] at h
    refine ⟨fun hh => ?_, fun _ => Or.inr h.2⟩
    rw [h.1] at hh
    cases hh
  | forget hc =>
    obtain rfl := Option.some.inj hnote
    rw [UserLed.Timely, hc] at h
    exact ⟨rfl, h⟩
  | light hc =>
    obtain rfl := Option.some.inj hnote
    rw [UserLed.Timely, hc] at h
    rw [userLedSet_eq]
    refine ⟨fun hh => ?_, fun _ => h.2⟩
    rw [h.1] at hh
    cases hh
  | task hp hq =>
    obtain rfl := Option.some.inj hnote
    exact h.task hp hq
  | elapse ms =>
    obtain rfl := Option.some.inj hnote
    exact h.elapse hg

theorem UserLed.Timely.init (configured : Bool) : (userLedInit configured).Timely none := by
  have hgone : Gone [] none := ⟨rfl, by simp⟩
  cases configured with
  | false =>
    refine ⟨fun hh => ?_, fun _ => Or.inr hgone⟩
    cases hh
  | true => exact ⟨rfl, rfl, hgone⟩

/-- There is one task at most. -/
theorem UserLed.Timely.one (h : s.Timely w) : s.tasks.length ≤ 1 := by
  have hflashing (h : Flashing s.flashEnabled s.tasks w) : s.tasks.length ≤ 1 := by
    obtain ⟨-, -, p, htasks, -⟩ := h
    rw [htasks]
    rfl
  have hgone (h : Gone s.tasks w) : s.tasks.length ≤ 1 := by
    rw [h.1]
    exact Nat.zero_le _
  have hstopped (h : Stopped s.flashEnabled s.tasks w) : s.tasks.length ≤ 1 := by
    rcases h with ⟨-, x, p, -, htasks, -⟩ | h
    · rw [htasks]
      rfl
    · exact hgone h
  unfold UserLed.Timely at h
  cases hc : s.caller with
  | idle =>
    rw [hc] at h
    cases hh : s.taskHandle with
    | true => exact hflashing (h.1 hh)
    | false => exact hstopped (h.2 hh)
  | creating =>
    rw [hc] at h
    exact hgone h.2.2
  | createFailed =>
    rw [hc] at h
    exact hgone h.2
  | stopping ms =>
    rw [hc] at h
    exact hstopped h
  | stopped =>
    rw [hc] at h
    exact hstopped h.2

/-- **A start that comes sooner** makes a second task. -/
theorem UserLed.Timely.second (h : s.Timely w) (hi : s.initialized = true) (hc : s.caller = .idle)
    {x : Stop} (hx : w = some x) (hsoon : x.since < x.due) :
    ∃ u, exec ledStep s [.callback .ipOk, .create true] = some u ∧ u.tasks.length = 2 := by
  unfold UserLed.Timely at h
  rw [hc] at h
  have hh : s.taskHandle = false := by
    cases hh : s.taskHandle with
    | true =>
      have hnone := (h.1 hh).2.1
      rw [hx] at hnone
      cases hnone
    | false => rfl
  obtain ⟨p, htasks⟩ : ∃ p, s.tasks = [p] := by
    rcases h.2 hh with ⟨-, y, p, -, htasks, -⟩ | hgone
    · exact ⟨p, htasks⟩
    · exact absurd (hgone.2 x hx) (Nat.not_le.2 hsoon)
  refine ⟨_, by simp [exec, ledStep, UserLed.userLedStartFlash, hc, hi, hh]; rfl, ?_⟩
  simp [htasks]

end Timely

/-! ## 5. The LED after a conflict -/

/-- The flag is cleared, and the LED is on unless a task is still to turn it on. -/
def UserLed.Solid (s : UserLed) : Prop :=
  s.flashEnabled = false ∧
    (s.initialized = true → (∀ p ∈ s.tasks, p = .exiting) → s.on = true)

/-- What the callbacks rely on, by where their thread is. -/
def UserLed.Inv (s : UserLed) : Prop :=
  match s.caller with
  | .idle =>
    (s.taskHandle = false → s.flashEnabled = false) ∧ (s.last = some .conflict → s.Solid)
  | .creating => s.taskHandle = false ∧ s.last ≠ some .conflict
  | .createFailed => s.taskHandle = false ∧ s.last ≠ some .conflict
  | .stopping _ => s.flashEnabled = false
  | .stopped => s.flashEnabled = false ∧ s.taskHandle = false

section Inv

variable {s s' : UserLed} {i : Nat} {set : Option Bool} {next : Option TaskPhase} {e : LedEvent}

/-- Where the task is then is where a task is. -/
theorem next_mem {p q : TaskPhase} (h : s.tasks[i]? = some p) :
    q ∈ (s.taskStep i set (some q)).tasks := by
  obtain ⟨l₁, l₂, -, hs'⟩ := taskStep_tasks set (some q) h
  simp [hs']

/-- A task that turns the LED off, or leaves it, is not the last to go: it still has to turn it
on. -/
theorem UserLed.Solid.task (h : s.Solid) {p : TaskPhase} (hp : s.tasks[i]? = some p)
    (hq : userLedFlashTask s.flashEnabled p = some (set, next)) :
    (s.taskStep i set next).Solid := by
  obtain ⟨hflag, hon⟩ := h
  refine ⟨by rw [taskStep_eq, hflag], fun hi hall => ?_⟩
  have hinit : s.initialized = true := by rwa [taskStep_eq] at hi
  rw [hflag] at hq
  cases p with
  | atLoop =>
    cases hq
    exact absurd (hall _ (next_mem hp)) (by decide)
  | goingOn =>
    cases hq
    exact absurd (hall _ (next_mem hp)) (by decide)
  | lit ms =>
    cases ms with
    | zero =>
      cases hq
      exact absurd (hall _ (next_mem hp)) (by decide)
    | succ ms => cases hq
  | dark ms =>
    cases ms with
    | zero =>
      cases hq
      exact absurd (hall _ (next_mem hp)) (by decide)
    | succ ms => cases hq
  | goingSolid =>
    cases hq
    rw [taskStep_eq, Option.elim_some, hinit]
    rfl
  | exiting =>
    cases hq
    obtain ⟨l₁, l₂, hs, hs'⟩ := taskStep_tasks none none hp
    refine hon hinit fun q hq => ?_
    rw [hs, List.mem_append, List.mem_cons] at hq
    rcases hq with hq | rfl | hq
    · exact hall q (by simp [hs', hq])
    · rfl
    · exact hall q (by simp [hs', hq])

theorem UserLed.Solid.elapse (h : s.Solid) (ms : Nat) (c : Caller) :
    { s with tasks := s.tasks.map (TaskPhase.after ms), caller := c }.Solid := by
  refine ⟨h.1, fun hi hall => h.2 hi fun p hp => ?_⟩
  have hafter := hall _ (List.mem_map_of_mem hp)
  cases p <;> simp_all [TaskPhase.after]

/-- What a callback relies on depends on no task, but for the LED after a conflict. -/
theorem UserLed.Inv.of_same (h : s.Inv) (hc : s'.caller = s.caller)
    (hh : s'.taskHandle = s.taskHandle) (hf : s'.flashEnabled = s.flashEnabled)
    (hl : s'.last = s.last) (hsolid : s.Solid → s'.Solid) : s'.Inv := by
  unfold UserLed.Inv at h ⊢
  rw [hc, hh, hf, hl]
  cases hcaller : s.caller with
  | idle =>
    rw [hcaller] at h
    exact ⟨h.1, fun hlast => hsolid (h.2 hlast)⟩
  | creating => rwa [hcaller] at h
  | createFailed => rwa [hcaller] at h
  | stopping ms => rwa [hcaller] at h
  | stopped => rwa [hcaller] at h

theorem UserLed.Inv.ipOk (h : s.Inv) (hc : s.caller = .idle) :
    { s with last := some .ipOk }.userLedStartFlash.Inv := by
  unfold UserLed.Inv at h
  rw [hc] at h
  by_cases hi : s.initialized = true
  · by_cases hh : s.taskHandle = true
    · simp [UserLed.userLedStartFlash, hi, hh, UserLed.Inv, hc]
    · simp [UserLed.userLedStartFlash, hi, hh, UserLed.Inv]
  · simpa [UserLed.userLedStartFlash, hi, UserLed.Inv, hc] using h.1

theorem UserLed.Inv.conflict (h : s.Inv) (hc : s.caller = .idle) :
    { s with last := some .conflict }.userLedStopFlash.Inv := by
  unfold UserLed.Inv at h
  rw [hc] at h
  by_cases hh : s.taskHandle = true
  · simp [UserLed.userLedStopFlash, hh, UserLed.Inv]
  · rw [Bool.not_eq_true] at hh
    simpa [UserLed.userLedStopFlash, hh, UserLed.Inv] using h.1 hh

/-- **One step.** -/
theorem UserLed.Inv.step (h : s.Inv) (hs : ledStep s e = some s') : s'.Inv := by
  cases ledStep_cases hs with
  | ipOk hc => exact h.ipOk hc
  | conflict hc => exact h.conflict hc
  | created hc =>
    rw [UserLed.Inv, hc] at h
    exact ⟨fun hh => absurd hh (by simp), fun hl => absurd hl h.2⟩
  | notCreated hc =>
    rw [UserLed.Inv, hc] at h
    exact h
  | giveUp hc =>
    rw [UserLed.Inv, hc] at h
    exact ⟨fun _ => rfl, fun hl => absurd hl h.2⟩
  | forget hc =>
    rw [UserLed.Inv, hc] at h
    exact ⟨h, rfl⟩
  | light hc =>
    rw [UserLed.Inv, hc] at h
    rw [userLedSet_eq]
    exact ⟨fun _ => h.1, fun _ => ⟨h.1, fun hi _ => if_pos hi⟩⟩
  | task hp hq =>
    exact h.of_same (by rw [taskStep_eq]) (by rw [taskStep_eq]) (by rw [taskStep_eq])
      (by rw [taskStep_eq]) fun hsolid => hsolid.task hp hq
  | elapse ms =>
    cases hc : s.caller with
    | stopping left =>
      rw [UserLed.Inv, hc] at h
      exact h
    | _ => exact h.of_same hc.symm rfl rfl rfl fun hsolid => hsolid.elapse ms _

theorem step_initialized (hs : ledStep s e = some s') : s'.initialized = s.initialized := by
  cases ledStep_cases hs with
  | ipOk =>
    obtain ⟨flag, caller, he⟩ := userLedStartFlash_same (s := { s with last := some .ipOk })
    rw [he]
  | conflict =>
    obtain ⟨flag, caller, he⟩ := userLedStopFlash_same (s := { s with last := some .conflict })
    rw [he]
  | light => rw [userLedSet_eq]
  | task => rw [taskStep_eq]
  | _ => rfl

end Inv

theorem UserLed.Inv.init (configured : Bool) : (userLedInit configured).Inv := by
  cases configured with
  | false => exact ⟨fun _ => rfl, fun hl => absurd hl (by decide)⟩
  | true => exact ⟨rfl, by decide⟩

/-! ## 6. The steps that are left -/

/-- The steps that a task has left when the flag is cleared. -/
def TaskPhase.stepsLeft : TaskPhase → Nat
  | .goingOn => 6
  | .lit _ => 5
  | .dark _ => 4
  | .atLoop => 3
  | .goingSolid => 2
  | .exiting => 1

/-- The steps that all tasks together have left. -/
def UserLed.stepsLeft (s : UserLed) : Nat := (s.tasks.map TaskPhase.stepsLeft).sum

/-- A conflict is over, and the LED as it leaves it. -/
structure UserLed.Settled (s : UserLed) : Prop where
  initialized : s.initialized = true
  idle : s.caller = .idle
  solid : s.Solid

section Settled

variable {s s' : UserLed} {e : LedEvent}

theorem TaskPhase.after_stepsLeft (ms : Nat) (p : TaskPhase) :
    (p.after ms).stepsLeft = p.stepsLeft := by
  cases p <;> rfl

/-- A task that runs has one step less. -/
theorem stepsLeft_next {p : TaskPhase} {set : Option Bool} {next : Option TaskPhase}
    (h : userLedFlashTask false p = some (set, next)) :
    next.elim 0 TaskPhase.stepsLeft < p.stepsLeft := by
  cases p with
  | lit ms =>
    cases ms with
    | zero =>
      cases h
      decide
    | succ ms => cases h
  | dark ms =>
    cases ms with
    | zero =>
      cases h
      decide
    | succ ms => cases h
  | _ =>
    cases h
    decide

theorem stepsLeft_task {i : Nat} {p : TaskPhase} {set : Option Bool} {next : Option TaskPhase}
    (hflag : s.flashEnabled = false) (hp : s.tasks[i]? = some p)
    (hq : userLedFlashTask s.flashEnabled p = some (set, next)) :
    (s.taskStep i set next).stepsLeft < s.stepsLeft := by
  rw [hflag] at hq
  have hlt := stepsLeft_next hq
  obtain ⟨l₁, l₂, hs, hs'⟩ := taskStep_tasks set next hp
  unfold UserLed.stepsLeft
  rw [hs, hs']
  cases next with
  | none =>
    simp only [Option.elim_none] at hlt
    simp
    omega
  | some q =>
    simp only [Option.elim_some] at hlt
    simp
    omega

/-- Nothing is left to do when there is no task. -/
theorem stepsLeft_eq_zero : s.stepsLeft = 0 ↔ s.tasks = [] := by
  unfold UserLed.stepsLeft
  cases s.tasks with
  | nil => simp
  | cons p l =>
    have hp : p.stepsLeft ≠ 0 := by cases p <;> exact Nat.succ_ne_zero _
    simp [hp]

/-- **What happens after a conflict**, other than another callback: a task runs and has one step
less, or time passes. -/
theorem UserLed.Settled.step (h : s.Settled) (he : ∀ c, e ≠ .callback c)
    (hs : ledStep s e = some s') :
    s'.Settled ∧ ((∃ i, e = .task i) ∧ s'.stepsLeft < s.stepsLeft ∨
      (∃ ms, e = .elapse ms) ∧ s'.stepsLeft = s.stepsLeft) := by
  have hi : s'.initialized = true := (step_initialized hs).trans h.initialized
  have hidle := h.idle
  cases ledStep_cases hs with
  | ipOk => exact absurd rfl (he .ipOk)
  | conflict => exact absurd rfl (he .conflict)
  | task hp hq =>
    exact ⟨⟨hi, by rw [taskStep_eq, hidle], h.solid.task hp hq⟩,
      .inl ⟨⟨_, rfl⟩, stepsLeft_task h.solid.1 hp hq⟩⟩
  | elapse ms =>
    refine ⟨⟨hi, ?_, h.solid.elapse ms _⟩, .inr ⟨⟨ms, rfl⟩, ?_⟩⟩
    · simp [hidle, Caller.after]
    · simp [UserLed.stepsLeft, Function.comp_def, TaskPhase.after_stepsLeft]
  | _ hc =>
    rw [hidle] at hc
    cases hc

/-- A task can run, once its delay is over. -/
theorem TaskPhase.after_runs (flashEnabled : Bool) (p : TaskPhase) :
    ∃ ms r, userLedFlashTask flashEnabled (p.after ms) = some r := by
  cases p with
  | lit left => exact ⟨left, _, by rw [TaskPhase.after, Nat.sub_self]; rfl⟩
  | dark left => exact ⟨left, _, by rw [TaskPhase.after, Nat.sub_self]; rfl⟩
  | _ => exact ⟨0, _, rfl⟩

/-- No task waits for ever: there is a time after which it can run. -/
theorem task_wakes {i : Nat} (hi : i < s.tasks.length) :
    ∃ ms s', ledStep s (.elapse ms) = some s' ∧ (ledStep s' (.task i)).isSome := by
  obtain ⟨ms, ⟨set, next⟩, hr⟩ := s.tasks[i].after_runs s.flashEnabled
  refine ⟨ms, _, rfl, ?_⟩
  rw [ledStep, List.getElem?_map, List.getElem?_eq_getElem hi, Option.map_some, Option.bind_some,
    hr]
  rfl

end Settled

/-! ## 7. How it ends -/

/-- The last callback was that of a conflict, and it has returned. -/
def UserLed.ConflictOver (s : UserLed) : Prop := s.caller = .idle ∧ s.last = some .conflict

/-- No other callback is made. -/
def Quiet {s : UserLed} (r : Endless ledStep s) : Prop := ∀ n c, r.event n ≠ .callback c

/-- As long as there are tasks, one of them runs again; `task_wakes` says that it can. -/
def TasksRun {s : UserLed} (r : Endless ledStep s) : Prop :=
  ∀ n, (∀ m, n ≤ m → (r.state m).tasks ≠ []) → ∃ m i, n ≤ m ∧ r.event m = .task i

/-- From some point on there is no task, and the LED is on. -/
def UserLed.EndsSolid (s : UserLed) : Prop :=
  ∀ r : Endless ledStep s, Quiet r → TasksRun r →
    ∃ N, ∀ n, N ≤ n → (r.state n).tasks = [] ∧ (r.state n).on = true

/-- A conflict that is over leaves the LED to its tasks, however many there are. -/
theorem UserLed.Settled.endsSolid {s : UserLed} (h : s.Settled) : s.EndsSolid := by
  intro r hquiet hruns
  have hsettled : ∀ n, (r.state n).Settled :=
    r.invariant (G := fun _ e => ∀ c, e ≠ .callback c) (fun _ _ _ hu he hs => (hu.step he hs).1)
      hquiet h
  have hstep := fun n => ((hsettled n).step (hquiet n) (r.next n)).2
  have hle : ∀ n, (r.state (n + 1)).stepsLeft ≤ (r.state n).stepsLeft := by
    intro n
    rcases hstep n with ⟨-, hlt⟩ | ⟨-, heq⟩
    · exact Nat.le_of_lt hlt
    · exact Nat.le_of_eq heq
  have hfalls : ∀ n, (∀ m, n ≤ m → (r.state m).stepsLeft ≠ 0) →
      ∃ m, n ≤ m ∧ (r.state (m + 1)).stepsLeft < (r.state m).stepsLeft := by
    intro n hleft
    obtain ⟨m, i, hm, hev⟩ := hruns n fun m hm ht => hleft m hm (stepsLeft_eq_zero.2 ht)
    rcases hstep m with ⟨-, hlt⟩ | ⟨⟨ms, hms⟩, -⟩
    · exact ⟨m, hm, hlt⟩
    · rw [hev] at hms
      cases hms
  obtain ⟨N, hN⟩ := r.eventually_zero hle hfalls
  refine ⟨N, fun n hn => ?_⟩
  have hnone : (r.state n).tasks = [] := stepsLeft_eq_zero.1 (hN n hn)
  refine ⟨hnone, (hsettled n).solid.2 (hsettled n).initialized ?_⟩
  simp [hnone]

/-- **The LED ends on**, after any run, once a conflict is over. -/
theorem ends_solid {s : UserLed} (h : Reach ledStep (userLedInit true) s) (hover : s.ConflictOver) :
    s.EndsSolid := by
  have hinv : s.Inv := h.invariant (fun _ _ _ hi _ hs => hi.step hs) (.init true)
  have hinit : s.initialized = true :=
    h.invariant (P := fun u => u.initialized = true)
      (fun _ _ _ hi _ hs => (step_initialized hs).trans hi) rfl
  rw [UserLed.Inv, hover.1] at hinv
  exact UserLed.Settled.endsSolid ⟨hinit, hover.1, hinv.2 hover.2⟩

/-- **The flash task.**  In every state of a run that is in time there is one task at most, and a
start that comes before the stopped task is due makes a second one; and in every run whatsoever, if
the pin could be configured, the LED ends on once a conflict is over. -/
theorem led_task {configured : Bool} {x : UserLed × Option Stop}
    (h : Run timedStep InTime (userLedInit configured, none) x) :
    x.1.tasks.length ≤ 1 ∧
    (∀ w, x.2 = some w → w.since < w.due → x.1.initialized = true → x.1.caller = .idle →
      ∃ u, exec ledStep x.1 [.callback .ipOk, .create true] = some u ∧ u.tasks.length = 2) ∧
    ∀ s, Reach ledStep (userLedInit true) s → s.ConflictOver → s.EndsSolid := by
  have htimely : x.1.Timely x.2 :=
    h.invariant (P := fun x => x.1.Timely x.2) (fun _ _ _ hu hg hs => hu.step hg hs)
      (.init configured)
  exact ⟨htimely.one, fun w hw hsoon hi hc => htimely.second hi hc hw hsoon,
    fun _ hreach hover => ends_solid hreach hover⟩

/-- The LED flashes, and there is a conflict. -/
def flashAndStop : List LedEvent :=
  [.create true, .task 0, .task 0, .callback .conflict, .elapse 100, .forget, .light]

/-- The task wakes up twice, and goes; a little later the address is found to be free. -/
def goAndStart : List LedEvent :=
  [.elapse 400, .task 0, .elapse 500, .task 0, .task 0, .task 0, .task 0, .elapse 1,
    .callback .ipOk, .create true]

theorem led_task_stopped : ∃ x y,
    exec timedStep (userLedInit true, none) flashAndStop = some x ∧ x.1.tasks = [.lit 400] ∧
      x.1.EndsSolid ∧ exec timedStep x goAndStart = some y ∧ y.1.tasks = [.atLoop] ∧
      y.1.tasks.length ≤ 1 := by
  have hmeets : execMeets timedStep InTime (userLedInit true, none) (flashAndStop ++ goAndStart) :=
    by decide
  have hstop : exec ledStep (userLedInit true) flashAndStop = some _ := rfl
  have h := led_task (exec_run hmeets rfl)
  have hreach := exec_reach hstop
  exact ⟨_, _, rfl, rfl, h.2.2 _ hreach ⟨rfl, rfl⟩, rfl, rfl, h.1⟩

/-- **Two tasks.**  The address is found to be free while the task is in its delay: it goes on
beside the one that is created then. -/
theorem two_tasks :
    ¬∀ s, Reach ledStep (userLedInit true) s → s.tasks.length ≤ 1 := by
  intro h
  have hrun : exec ledStep (userLedInit true)
      (flashAndStop ++ [.callback .ipOk, .create true]) = some _ := rfl
  have htwo := h _ (exec_reach hrun)
  revert htwo
  decide

end GroundTruth.Led
