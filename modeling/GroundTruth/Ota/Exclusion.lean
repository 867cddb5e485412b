/-
# One update at a time

The manager with everything that can be going on around it: the streaming updates whose handle is
open and the tasks that have not ended.  The three start functions ask one question, whether
`s_ota_task_handle` is set; a task sets it and a streaming update does not.

* `run_start`: a start function refuses and changes nothing, or it has found no task and goes on
  to start its update (`Op.Starts`);
* `Alone.step`: while no update is started beside an open streaming update, there is one update
  at most, and a task is known by its handle;
* `update_exclusion`: so it is in every run, and what is started meanwhile is refused.
-/
import GroundTruth.Ota.Task

namespace GroundTruth.Ota

open GroundTruth.Lib

/-! ## 1. The system -/

/-- A task that has been created. -/
inductive Task
  | url (p : UrlPhase)
  | data (image : Bytes) (p : DataPhase)
  deriving DecidableEq, Repr

/-- What a task is told. -/
inductive TaskAnswer
  | url (a : UrlAnswer)
  | data (ok : Bool)
  deriving DecidableEq, Repr

def Task.step (f : Flash) : Task → TaskAnswer → Guarded → Option (Task × Guarded)
  | .url p, .url a, g => (taskStep otaTask (p, g) a).map fun (p, g) => (.url p, g)
  | .data image p, .data ok, g =>
    (taskStep (otaUpdateFromDataTask f.next image) (p, g) ok).map fun (p, g) =>
      (.data image p, g)
  | _, _, _ => none

/-- `vTaskDelete(NULL)` -/
def Task.ended : Task → Bool
  | .url p => p == .ended
  | .data _ p => p == .ended

structure System where
  guarded : Guarded
  /-- the handles of streaming updates that are open -/
  streams : List Nat
  /-- the tasks that have not ended -/
  tasks : List Task
  deriving DecidableEq, Repr

def System.powerOn : System := ⟨.powerOn, [], []⟩

/-- What can happen.  A streaming update is written, finished or aborted by whoever has its
handle. -/
inductive Event
  /-- an operation that needs no handle -/
  | call (r : Resources) (op : Op)
  | write (handle : Nat) (data : Bytes)
  | finish (handle : Nat)
  | abort (handle : Nat)
  /-- a step of a task -/
  | task (i : Nat) (a : TaskAnswer)
  /-- `esp_restart`, or the power is gone -/
  | restart

/-- The operation takes the handle of a streaming update. -/
def Op.takesHandle : Op → Bool
  | .writeStreamingChunk _ _ => true
  | .finishStreamingUpdate _ => true
  | _ => false

/-- An operation has returned: a task has been created, or a handle is open, if it says so. -/
def System.returned (s : System) (op : Op) (ok : Bool) (g : Guarded) : System :=
  match op, ok with
  | .startUpdate _, true => ⟨g, s.streams, s.tasks ++ [.url .created]⟩
  | .startUpdateFromData data, true => ⟨g, s.streams, s.tasks ++ [.data data .created]⟩
  | .startStreamingUpdate _, true => ⟨g, s.streams ++ [g.manager.calls.length], s.tasks⟩
  | _, _ => ⟨g, s.streams, s.tasks⟩

/-- A task that has ended is gone. -/
def advance (tasks : List Task) (i : Nat) (t : Task) : List Task :=
  if t.ended = true then tasks.eraseIdx i else tasks.set i t

/-- Write a chunk to a streaming update; a write that fails aborts it. -/
def System.write (f : Flash) (handle : Nat) (data : Bytes) (s : System) :
    Option (Bool × System) :=
  (s.guarded.writeStreamingChunk f true data).map fun (ok, g) =>
    (ok, ⟨g, if ok = true ∨ data = [] then s.streams else s.streams.erase handle, s.tasks⟩)

def System.finish (f : Flash) (handle : Nat) (s : System) : Option (Bool × System) :=
  (s.guarded.finishStreamingUpdate f true).map fun (ok, g) =>
    (ok, ⟨g, s.streams.erase handle, s.tasks⟩)

/-- `esp_ota_abort` on the handle of a streaming update. -/
def System.abort (f : Flash) (handle : Nat) (s : System) : System :=
  ⟨{ s.guarded with manager := s.guarded.manager.abort f }, s.streams.erase handle, s.tasks⟩

def systemStep (f : Flash) (s : System) : Event → Option System
  | .call r op =>
    if op.takesHandle = true then none
    else (op.run f r s.guarded).map fun (ok, g) => s.returned op ok g
  | .write handle data =>
    if handle ∈ s.streams then (s.write f handle data).map Prod.snd else none
  | .finish handle =>
    if handle ∈ s.streams then (s.finish f handle).map Prod.snd else none
  | .abort handle => if handle ∈ s.streams then some (s.abort f handle) else none
  | .task i a =>
    s.tasks[i]?.bind fun t =>
      (t.step f a s.guarded).map fun (t, g) => ⟨g, s.streams, advance s.tasks i t⟩
  | .restart => some .powerOn

/-- An update is under way. -/
def System.Busy (s : System) : Prop := s.streams ≠ [] ∨ s.tasks ≠ []

/-! ## 2. What the start functions do -/

/-- The operation starts an update. -/
def Op.isStart : Op → Bool
  | .startUpdate _ => true
  | .startUpdateFromData _ => true
  | .startStreamingUpdate _ => true
  | _ => false

/-- Nothing but the task handle stands in the way of the update. -/
def Op.Starts (f : Flash) (r : Resources) : Op → Prop
  | .startUpdate url => validUrl url = true ∧ r.strdup = true ∧ r.taskCreate = true
  | .startUpdateFromData data =>
    data ≠ [] ∧ fits f data = true ∧ r.otaData = true ∧ r.firmwareData = true ∧
      r.taskCreate = true
  | .startStreamingUpdate _ => chooseUpdatePartition f ≠ none
  | _ => False

/-- The operation creates a task. -/
def Op.startsTask : Op → Bool
  | .startUpdate _ => true
  | .startUpdateFromData _ => true
  | _ => false

variable {f : Flash} {r : Resources} {g g' : Guarded} {ok : Bool}

/-- A section under the mutex, and the manager. -/
theorem take_map_some {α : Type} {k : Guarded → α × Guarded} {a : α}
    (h : g.take.map k = some (a, g')) :
    k ⟨g.manager, ⟨g.lock.taken + 1, g.lock.given⟩⟩ = (a, g') := by
  by_cases hav : g.Available
  · rw [take_available hav, Option.map_some, Option.some.injEq] at h
    exact h
  · rw [take_unavailable hav] at h
    cases h

/-- A call that is refused. -/
theorem refused_same {g₁ : Guarded} (h : (false, g₁) = (ok, g'))
    (hm : g₁.manager = g.manager) : ok = false ∧ g'.manager = g.manager := by
  obtain ⟨rfl, rfl⟩ := Prod.mk.inj h
  exact ⟨rfl, hm⟩

/-- **The question that a start function asks** under the mutex: with a task it is refused, and
without one it goes on. -/
theorem asks_taskHandle {k : Guarded → Bool × Guarded}
    (h : (if g.manager.mutex = false then some (false, g)
      else g.take.map fun g => if g.manager.taskHandle = true then (false, g.give) else k g) =
        some (ok, g')) :
    ok = false ∧ g'.manager = g.manager ∨
      g.manager.taskHandle = false ∧
        k ⟨g.manager, ⟨g.lock.taken + 1, g.lock.given⟩⟩ = (ok, g') := by
  by_cases hm : g.manager.mutex = false
  · rw [if_pos hm] at h
    exact Or.inl (refused_same (Option.some.inj h) rfl)
  · rw [if_neg hm] at h
    have hk := take_map_some h
    dsimp only at hk
    by_cases ht : g.manager.taskHandle = true
    · rw [if_pos ht] at hk
      exact Or.inl (refused_same hk rfl)
    · rw [if_neg ht] at hk
      exact Or.inr ⟨Bool.eq_false_iff.2 ht, hk⟩

theorem startUpdate_cases {url : Option Bytes} (h : g.startUpdate r url = some (ok, g')) :
    ok = false ∧ g'.manager = g.manager ∨
      g.manager.taskHandle = false ∧ (Op.startUpdate url).Starts f r ∧ ok = true ∧
        g'.manager = { g.manager with taskHandle := true } := by
  unfold Guarded.startUpdate at h
  by_cases hurl : validUrl url = false
  · rw [if_pos hurl] at h
    exact Or.inl (refused_same (Option.some.inj h) rfl)
  rw [if_neg hurl] at h
  rcases asks_taskHandle h with hrefused | ⟨ht, hk⟩
  · exact Or.inl hrefused
  dsimp only at hk
  split at hk
  · exact Or.inl (refused_same hk rfl)
  · rename_i hdup
    split at hk
    · exact Or.inl (refused_same hk rfl)
    · rename_i hcreate
      obtain ⟨rfl, rfl⟩ := Prod.mk.inj hk
      refine Or.inr ⟨ht, ⟨?_, ?_, ?_⟩, rfl, rfl⟩
      · simpa using hurl
      · simpa using hdup
      · simpa using hcreate

theorem startUpdateFromData_cases {data : Bytes}
    (h : g.startUpdateFromData f r data = some (ok, g')) :
    ok = false ∧ g'.manager = g.manager ∨
      g.manager.taskHandle = false ∧ (Op.startUpdateFromData data).Starts f r ∧ ok = true ∧
        g'.manager = { g.manager with taskHandle := true } := by
  unfold Guarded.startUpdateFromData at h
  by_cases hne : data = []
  · rw [if_pos hne] at h
    exact Or.inl (refused_same (Option.some.inj h) rfl)
  rw [if_neg hne] at h
  rcases asks_taskHandle h with hrefused | ⟨ht, hk⟩
  · exact Or.inl hrefused
  cases hp : f.next with
  | none =>
    simp only [hp] at hk
    exact Or.inl (refused_same hk rfl)
  | some p =>
    simp only [hp] at hk
    split at hk
    · exact Or.inl (refused_same hk rfl)
    · rename_i hbig
      split at hk
      · exact Or.inl (refused_same hk rfl)
      · rename_i hod
        split at hk
        · exact Or.inl (refused_same hk rfl)
        · rename_i hfd
          split at hk
          · exact Or.inl (refused_same hk rfl)
          · rename_i hcreate
            obtain ⟨rfl, rfl⟩ := Prod.mk.inj hk
            refine Or.inr ⟨ht, ⟨hne, ?_, ?_, ?_, ?_⟩, rfl, rfl⟩
            · simpa [fits, hp] using hbig
            · simpa using hod
            · simpa using hfd
            · simpa using hcreate

theorem startStreaming_cases {n : Nat} (h : g.startStreamingUpdate f n = some (ok, g')) :
    ok = false ∧ g'.manager = g.manager ∨
      g.manager.taskHandle = false ∧ (Op.startStreamingUpdate n).Starts f r ∧
        g'.manager.taskHandle = false := by
  unfold Guarded.startStreamingUpdate at h
  rcases asks_taskHandle h with hrefused | ⟨hfree, hk⟩
  · exact Or.inl hrefused
  cases hp : chooseUpdatePartition f with
  | none =>
    simp only [hp] at hk
    exact Or.inl (refused_same hk rfl)
  | some p =>
    refine Or.inr ⟨hfree, by simp [Op.Starts, hp], ?_⟩
    cases hans : f.answer g.manager.calls.length with
    | false =>
      simp only [hp, Manager.call, hans, if_true] at hk
      obtain ⟨-, rfl⟩ := Prod.mk.inj hk
      exact hfree
    | true =>
      simp only [hp, Manager.call, hans, Bool.true_eq_false, if_false] at hk
      obtain ⟨-, rfl⟩ := Prod.mk.inj hk
      exact hfree

/-- **A start function** refuses and changes nothing, or it has found no task and there is nothing
else to stop it. -/
theorem run_start {op : Op} (hop : op.isStart = true) (h : op.run f r g = some (ok, g')) :
    ok = false ∧ g'.manager = g.manager ∨ g.manager.taskHandle = false ∧ op.Starts f r := by
  cases op with
  | startUpdate url => exact (startUpdate_cases h).imp_right fun h => ⟨h.1, h.2.1⟩
  | startUpdateFromData data => exact (startUpdateFromData_cases h).imp_right fun h => ⟨h.1, h.2.1⟩
  | startStreamingUpdate n => exact (startStreaming_cases h).imp_right fun h => ⟨h.1, h.2.1⟩
  | init => cases hop
  | getStatus _ => cases hop
  | writeStreamingChunk _ _ => cases hop
  | finishStreamingUpdate _ => cases hop

/-- The task handle after an operation that needs no handle. -/
theorem run_taskHandle {op : Op} (hop : op.takesHandle = false)
    (h : op.run f r g = some (ok, g')) :
    g'.manager.taskHandle = (g.manager.taskHandle || (ok && op.startsTask)) := by
  cases op with
  | init =>
    replace h : g.init r = some (ok, g') := h
    unfold Guarded.init at h
    split at h
    · obtain ⟨-, rfl⟩ := Prod.mk.inj (Option.some.inj h)
      simp [Op.startsTask]
    · obtain ⟨g₁, hg₁, heq⟩ := Option.map_eq_some_iff.1 h
      obtain ⟨-, rfl⟩ := Prod.mk.inj heq
      obtain ⟨-, rfl⟩ := locked_some hg₁
      simp [Op.startsTask]
  | startUpdate url =>
    rcases startUpdate_cases (f := f) h with ⟨rfl, hm⟩ | ⟨-, -, rfl, hm⟩
    · simp [hm]
    · simp [hm, Op.startsTask]
  | startUpdateFromData data =>
    rcases startUpdateFromData_cases h with ⟨rfl, hm⟩ | ⟨-, -, rfl, hm⟩
    · simp [hm]
    · simp [hm, Op.startsTask]
  | getStatus statusInfo =>
    obtain ⟨⟨info, g₁⟩, hg₁, heq⟩ := Option.map_eq_some_iff.1 h
    obtain ⟨-, rfl⟩ := Prod.mk.inj heq
    unfold Guarded.getStatus at hg₁
    split at hg₁
    · obtain ⟨-, rfl⟩ := Prod.mk.inj (Option.some.inj hg₁)
      simp [Op.startsTask]
    · split at hg₁
      · obtain ⟨-, rfl⟩ := Prod.mk.inj (Option.some.inj hg₁)
        simp [Op.startsTask]
      · have hk := take_map_some hg₁
        obtain ⟨-, rfl⟩ := Prod.mk.inj hk
        simp [Op.startsTask, Guarded.give]
  | startStreamingUpdate n =>
    rcases startStreaming_cases (r := r) h with ⟨rfl, hm⟩ | ⟨hfree, -, hstill⟩
    · simp [hm]
    · simp [hfree, hstill, Op.startsTask]
  | writeStreamingChunk _ _ => cases hop
  | finishStreamingUpdate _ => cases hop

/-- A step of the download touches the task handle only to end the task. -/
theorem otaTask_taskHandle {p : UrlPhase} {a : UrlAnswer} {s : TaskStep UrlPhase}
    (h : otaTask p a = some s) (hend : s.phase ≠ .ended) (m : Manager) :
    (s.assign.getD id m).taskHandle = m.taskHandle := by
  unfold otaTask at h
  split at h
  case h_10 => cases h
  all_goals
    obtain rfl := Option.some.inj h
    first
      | rfl
      | exact absurd rfl hend

theorem dataTask_taskHandle {next : Option Partition} {data : Bytes} {p : DataPhase} {a : Bool}
    {s : TaskStep DataPhase} (h : otaUpdateFromDataTask next data p a = some s)
    (hend : s.phase ≠ .ended) (m : Manager) :
    (s.assign.getD id m).taskHandle = m.taskHandle := by
  cases p with
  | created =>
    simp only [otaUpdateFromDataTask, dataStep] at h
    split at h
    · obtain rfl := Option.some.inj h
      exact absurd rfl hend
    · split at h
      · obtain rfl := Option.some.inj h
        exact absurd rfl hend
      · obtain rfl := Option.some.inj h
        rfl
  | writing q offset =>
    simp only [otaUpdateFromDataTask, dataStep] at h
    split at h
    · split at h
      · obtain rfl := Option.some.inj h
        exact absurd rfl hend
      · obtain rfl := Option.some.inj h
        rfl
    · split at h
      · obtain rfl := Option.some.inj h
        exact absurd rfl hend
      · obtain rfl := Option.some.inj h
        rfl
  | settingBoot q =>
    simp only [otaUpdateFromDataTask, dataStep] at h
    split at h
    · obtain rfl := Option.some.inj h
      exact absurd rfl hend
    · obtain rfl := Option.some.inj h
      rfl
  | rebooting => cases h
  | ended => cases h

/-- A task that goes on leaves the task handle alone. -/
theorem Task.step_taskHandle {t t' : Task} {a : TaskAnswer} (h : t.step f a g = some (t', g'))
    (hend : t'.ended = false) : g'.manager.taskHandle = g.manager.taskHandle := by
  cases t with
  | url p =>
    cases a with
    | url a =>
      obtain ⟨y, hy, heq⟩ := Option.map_eq_some_iff.1 h
      obtain ⟨rfl, rfl⟩ := Prod.mk.inj heq
      obtain ⟨s, hs, hrun⟩ := taskStep_some hy
      obtain ⟨hphase, -, -, hm⟩ := run_some hrun
      rw [hm, otaTask_taskHandle hs (by simpa [Task.ended, hphase] using hend)]
    | data ok => cases h
  | data image p =>
    cases a with
    | url a => cases h
    | data ok =>
      obtain ⟨y, hy, heq⟩ := Option.map_eq_some_iff.1 h
      obtain ⟨rfl, rfl⟩ := Prod.mk.inj heq
      obtain ⟨s, hs, hrun⟩ := taskStep_some hy
      obtain ⟨hphase, -, -, hm⟩ := run_some hrun
      rw [hm, dataTask_taskHandle hs (by simpa [Task.ended, hphase] using hend)]

/-! ## 3. Runs -/

/-- One update at most, and a task is known by its handle. -/
structure Alone (s : System) : Prop where
  one : s.streams.length + s.tasks.length ≤ 1
  handle : s.tasks ≠ [] → s.guarded.manager.taskHandle = true

/-- No update is started beside a streaming update. -/
def Exclusive (f : Flash) (s : System) : Event → Prop
  | .call r op => s.streams ≠ [] → ¬op.Starts f r
  | _ => True

variable {s t : System}

/-- With a streaming update open there is no task. -/
theorem Alone.no_task (hs : Alone s) (h : s.streams ≠ []) : s.tasks = [] := by
  have hpos := List.length_pos_iff.2 h
  have hone := hs.one
  exact List.eq_nil_of_length_eq_zero (by omega)

/-- Nothing to start, and nothing is started. -/
@[simp] theorem returned_false (s : System) (op : Op) (g : Guarded) :
    s.returned op false g = ⟨g, s.streams, s.tasks⟩ := by
  cases op <;> rfl

/-- What has been started is alone, so there was no task before. -/
theorem Alone.no_task_before {op : Op} (hop : op.isStart = true)
    (h : Alone (s.returned op true g)) : s.tasks = [] := by
  have hone := h.one
  refine List.eq_nil_of_length_eq_zero ?_
  cases op with
  | startUpdate url =>
    simp only [System.returned, List.length_append, List.length_singleton] at hone
    omega
  | startUpdateFromData data =>
    simp only [System.returned, List.length_append, List.length_singleton] at hone
    omega
  | startStreamingUpdate size =>
    simp only [System.returned, List.length_append, List.length_singleton] at hone
    omega
  | _ => cases hop

/-- **A start function is refused** while an update is under way. -/
theorem Alone.refused (hs : Alone s) (hbusy : s.Busy) {op : Op} (hop : op.isStart = true)
    (hg : Exclusive f s (.call r op)) (h : op.run f r s.guarded = some (ok, g')) :
    ok = false ∧ g'.manager = s.guarded.manager := by
  rcases run_start hop h with hrefused | ⟨hfree, hstarts⟩
  · exact hrefused
  · rcases hbusy with hstreams | htasks
    · exact absurd hstarts (hg hstreams)
    · rw [hs.handle htasks] at hfree
      cases hfree

theorem Alone.call (hs : Alone s) {op : Op} (hop : op.takesHandle = false)
    (hg : Exclusive f s (.call r op)) (h : op.run f r s.guarded = some (ok, g')) :
    Alone (s.returned op ok g') := by
  have hhandle := run_taskHandle hop h
  cases ok with
  | false =>
    rw [returned_false]
    refine ⟨hs.one, fun htasks => ?_⟩
    rw [hhandle, hs.handle htasks, Bool.true_or]
  | true =>
    by_cases hbusy : s.Busy
    · by_cases hstart : op.isStart = true
      · exact absurd (hs.refused hbusy hstart hg h).1 (by decide)
      · have hsame : s.returned op true g' = ⟨g', s.streams, s.tasks⟩ := by
          cases op <;> first | rfl | exact absurd rfl hstart
        rw [hsame]
        refine ⟨hs.one, fun htasks => ?_⟩
        rw [hhandle, hs.handle htasks, Bool.true_or]
    · obtain ⟨hstreams, htasks⟩ := not_or.1 hbusy
      rw [ne_eq, not_not] at hstreams htasks
      cases op with
      | startUpdate url =>
        refine ⟨by simp [System.returned, hstreams, htasks], fun _ => ?_⟩
        simpa [System.returned, Op.startsTask] using hhandle
      | startUpdateFromData data =>
        refine ⟨by simp [System.returned, hstreams, htasks], fun _ => ?_⟩
        simpa [System.returned, Op.startsTask] using hhandle
      | startStreamingUpdate n =>
        exact ⟨by simp [System.returned, hstreams, htasks], fun h => absurd htasks h⟩
      | init => exact ⟨by simp [System.returned, hstreams, htasks], fun h => absurd htasks h⟩
      | getStatus _ =>
        exact ⟨by simp [System.returned, hstreams, htasks], fun h => absurd htasks h⟩
      | writeStreamingChunk _ _ => cases hop
      | finishStreamingUpdate _ => cases hop

/-- **One event** leaves one update at most. -/
theorem Alone.step {e : Event} (hs : Alone s) (hg : Exclusive f s e)
    (h : systemStep f s e = some t) : Alone t := by
  cases e with
  | call r op =>
    rw [systemStep] at h
    split at h
    · cases h
    · rename_i hop
      obtain ⟨⟨ok, g'⟩, hrun, rfl⟩ := Option.map_eq_some_iff.1 h
      exact hs.call (by simpa using hop) hg hrun
  | write handle data =>
    rw [systemStep] at h
    split at h
    · rename_i hmem
      obtain ⟨⟨ok, s'⟩, hwrite, rfl⟩ := Option.map_eq_some_iff.1 h
      obtain ⟨⟨ok', g'⟩, -, heq⟩ := Option.map_eq_some_iff.1 hwrite
      obtain ⟨-, rfl⟩ := Prod.mk.inj heq
      have hnone := hs.no_task (List.ne_nil_of_mem hmem)
      refine ⟨?_, fun htasks => absurd hnone htasks⟩
      dsimp only
      split
      · exact hs.one
      · exact Nat.le_trans (Nat.add_le_add_right List.length_erase_le _) hs.one
    · cases h
  | finish handle =>
    rw [systemStep] at h
    split at h
    · rename_i hmem
      obtain ⟨⟨ok, s'⟩, hfinish, rfl⟩ := Option.map_eq_some_iff.1 h
      obtain ⟨⟨ok', g'⟩, -, heq⟩ := Option.map_eq_some_iff.1 hfinish
      obtain ⟨-, rfl⟩ := Prod.mk.inj heq
      have hnone := hs.no_task (List.ne_nil_of_mem hmem)
      exact ⟨Nat.le_trans (Nat.add_le_add_right List.length_erase_le _) hs.one,
        fun htasks => absurd hnone htasks⟩
    · cases h
  | abort handle =>
    rw [systemStep] at h
    split at h
    · rename_i hmem
      obtain rfl := Option.some.inj h
      have hnone := hs.no_task (List.ne_nil_of_mem hmem)
      exact ⟨Nat.le_trans (Nat.add_le_add_right List.length_erase_le _) hs.one,
        fun htasks => absurd hnone htasks⟩
    · cases h
  | task i a =>
    obtain ⟨t₀, hget, hrest⟩ := Option.bind_eq_some_iff.1 h
    obtain ⟨⟨t', g'⟩, hrun, rfl⟩ := Option.map_eq_some_iff.1 hrest
    obtain ⟨hi, -⟩ := List.getElem?_eq_some_iff.1 hget
    have hone := hs.one
    unfold advance
    dsimp only
    split
    · refine ⟨?_, fun htasks => absurd ?_ htasks⟩
      · have hlen : (s.tasks.eraseIdx i).length = s.tasks.length - 1 :=
          List.length_eraseIdx_of_lt hi
        dsimp only
        omega
      · exact List.eq_nil_of_length_eq_zero (by rw [List.length_eraseIdx_of_lt hi]; omega)
    · rename_i hend
      refine ⟨by rwa [List.length_set], fun _ => ?_⟩
      rw [Task.step_taskHandle hrun (by simpa using hend)]
      exact hs.handle (List.ne_nil_of_length_pos (Nat.lt_of_le_of_lt (Nat.zero_le i) hi))
  | restart =>
    obtain rfl := Option.some.inj h
    exact ⟨Nat.zero_le 1, fun htasks => absurd rfl htasks⟩

/-- **Exclusion.**  In every run in which no update is started beside an open streaming update,
one update at most is under way, and while it is, every start function refuses and leaves the
manager as it was. -/
theorem update_exclusion (f : Flash)
    (h : Run (systemStep f) (Exclusive f) .powerOn t) :
    t.streams.length + t.tasks.length ≤ 1 ∧
      ∀ (r : Resources) (op : Op) (ok : Bool) (g : Guarded), op.isStart = true → t.Busy →
        Exclusive f t (.call r op) → op.run f r t.guarded = some (ok, g) →
          ok = false ∧ g.manager = t.guarded.manager := by
  have halone : Alone t :=
    h.invariant (fun _ _ _ hs hg hstep => hs.step hg hstep)
      ⟨Nat.zero_le 1, fun htasks => absurd rfl htasks⟩
  exact ⟨halone.one, fun r op ok g hop hbusy hg hrun => halone.refused hbusy hop hg hrun⟩

/-! ## 4. A download beside an upload -/

/-- An update is started from a URL. -/
def benchDownload : Op := .startUpdate (some (ascii "http://a/b"))

/-- An upload has been started. -/
def benchUploading : List Event :=
  [.call .good .init, .call .good (.startStreamingUpdate 0)]

/-- Two downloads: the second is refused. -/
theorem update_exclusion_downloads :
    ∃ t, exec (systemStep (Flash.willing ⟨.ota1, 8⟩)) .powerOn
        [.call .good .init, .call .good benchDownload] = some t ∧
      t.streams.length + t.tasks.length ≤ 1 ∧
      ∀ ok g, benchDownload.run (Flash.willing ⟨.ota1, 8⟩) .good t.guarded = some (ok, g) →
        ok = false ∧ g.manager = t.guarded.manager := by
  refine ⟨_, rfl, ?_⟩
  obtain ⟨hone, hrefused⟩ := update_exclusion (Flash.willing ⟨.ota1, 8⟩)
    (exec_run (by exact ⟨fun h => absurd rfl h, fun h => absurd rfl h, trivial⟩)
      (rfl : exec _ _ [.call .good .init, .call .good benchDownload] = some _))
  exact ⟨hone, fun ok g hrun => hrefused .good benchDownload ok g rfl
    (Or.inr (List.cons_ne_nil _ _)) (fun h => absurd rfl h) hrun⟩

/-- A download is started while an upload is open: both are under way. -/
theorem download_during_upload :
    ¬∀ (f : Flash) (t : System), Reach (systemStep f) .powerOn t →
      t.streams.length + t.tasks.length ≤ 1 := by
  intro h
  have hone := h (Flash.willing ⟨.ota1, 8⟩) _
    (exec_reach (rfl : exec _ _ (benchUploading ++ [.call .good benchDownload]) = some _))
  revert hone
  decide

end GroundTruth.Ota
