/-
# The mutex of `ota_manager.c`

Every operation of the manager takes `s_ota_mutex` and gives it back by hand on each of its exits.
Here the operations are written with their takes and gives; `none` is a call that never returns,
because the mutex is held or was never created.

* `startStreaming_manager`, `writeStreaming_manager`, `finishStreaming_manager`: but for the mutex
  these are the operations of the streaming half;
* `run_lock`: an operation keeps the mutex exactly when it is `ota_manager_start_update_from_data`
  and gives up between the test of the task handle and the creation of the task (`Forgets`);
* `run_returns`: with the mutex at hand every operation returns, and `run_held`: while the mutex is
  held, it stays held;
* `lock_balance`: what follows for every sequence of operations.
-/
import GroundTruth.Lib.Run
import GroundTruth.Lib.Resource
import GroundTruth.Lib.CString
import GroundTruth.Ota.Manager

namespace GroundTruth.Ota

open GroundTruth.Lib

/-! ## 1. The operations -/

/-- The manager with its mutex. -/
structure Guarded where
  manager : Manager
  lock : Lock
  deriving DecidableEq, Repr

def Guarded.powerOn : Guarded := ⟨Manager.powerOn, Lock.new⟩

/-- `xSemaphoreTake(s_ota_mutex, portMAX_DELAY)` -/
def Guarded.take (g : Guarded) : Option Guarded :=
  if g.manager.mutex = true then g.lock.take.map fun l => { g with lock := l } else none

/-- `xSemaphoreGive(s_ota_mutex)` -/
def Guarded.give (g : Guarded) : Guarded := { g with lock := g.lock.give }

/-- Take the mutex, assign, and give it back. -/
def Guarded.locked (assign : Manager → Manager) (g : Guarded) : Option Guarded :=
  g.take.map fun g => { g with manager := assign g.manager }.give

/-- What the allocations of a call return. -/
structure Resources where
  /-- `xSemaphoreCreateMutex` -/
  mutexCreate : Bool
  /-- `strdup(url)` -/
  strdup : Bool
  /-- `malloc(sizeof(ota_data_t))` -/
  otaData : Bool
  /-- `malloc(data_len)` -/
  firmwareData : Bool
  /-- `xTaskCreate` -/
  taskCreate : Bool
  deriving DecidableEq, Repr

/-- Every allocation succeeds. -/
def Resources.good : Resources := ⟨true, true, true, true, true⟩

/-- `ota_manager_init` -/
def Guarded.init (r : Resources) (g : Guarded) : Option (Bool × Guarded) :=
  if g.manager.mutex = false ∧ r.mutexCreate = false then some (false, g)
  else
    let g := { g with manager := { g.manager with mutex := true } }
    (g.locked fun m => { m with info := ⟨.idle, 0, .ready⟩ }).map fun g => (true, g)

/-- The URL is there and has a length. -/
def validUrl : Option Bytes → Bool
  | none => false
  | some url => decide (cstr url ≠ [])

/-- `ota_manager_start_update`; NULL is `none`. -/
def Guarded.startUpdate (r : Resources) (url : Option Bytes) (g : Guarded) :
    Option (Bool × Guarded) :=
  if validUrl url = false then some (false, g)
  else if g.manager.mutex = false then some (false, g)
  else
    g.take.map fun g =>
      if g.manager.taskHandle = true then (false, g.give)
      else if r.strdup = false then (false, g.give)
      else if r.taskCreate = false then (false, g.give)
      else (true, { g with manager := { g.manager with taskHandle := true } }.give)

/-- `ota_manager_start_update_from_data`; `data` is empty when the pointer is NULL. -/
def Guarded.startUpdateFromData (f : Flash) (r : Resources) (data : Bytes) (g : Guarded) :
    Option (Bool × Guarded) :=
  if data = [] then some (false, g)
  else if g.manager.mutex = false then some (false, g)
  else
    g.take.map fun g =>
      if g.manager.taskHandle = true then (false, g.give)
      else
        match f.next with
        | none => (false, g)   -- no `xSemaphoreGive` from here on to the task
        | some p =>
          if p.size < data.length then (false, g)
          else if r.otaData = false then (false, g)
          else if r.firmwareData = false then (false, g)
          else if r.taskCreate = false then (false, g.give)
          else (true, { g with manager := { g.manager with taskHandle := true } }.give)

/-- `ota_manager_get_status`; `statusInfo` says that the pointer is not NULL. -/
def Guarded.getStatus (statusInfo : Bool) (g : Guarded) : Option (Option StatusInfo × Guarded) :=
  if statusInfo = false then some (none, g)
  else if g.manager.mutex = false then some (none, g)
  else g.take.map fun g => (some g.manager.info, g.give)

/-- `ota_manager_start_streaming_update`; a handle other than 0 is `true`. -/
def Guarded.startStreamingUpdate (f : Flash) (expectedSize : Nat) (g : Guarded) :
    Option (Bool × Guarded) :=
  if g.manager.mutex = false then some (false, g)
  else
    g.take.map fun g =>
      if g.manager.taskHandle = true then (false, g.give)
      else
        match chooseUpdatePartition f with
        | none => (false, g.give)
        | some p =>
          let size := otaSize expectedSize p.size
          let (ok, m) := g.manager.call f (.otaBegin p size)
          let g := { g with manager := m }
          if ok = false then (false, g.give)
          else
            (true, { g with
              manager := { g.manager with
                updatePartition := some p
                totalBytes := 0
                expectedSize := size
                info := ⟨.inProgress, 0, .uploading⟩ } }.give)

/-- `ota_manager_write_streaming_chunk`; `handle` says that the handle is not 0, and `data` is
empty when the pointer is NULL. -/
def Guarded.writeStreamingChunk (f : Flash) (handle : Bool) (data : Bytes) (g : Guarded) :
    Option (Bool × Guarded) :=
  if handle = false ∨ data = [] then some (false, g)
  else
    let (ok, m) := g.manager.call f (.otaWrite data)
    let g := { g with manager := m }
    if ok = false then
      let g := { g with manager := g.manager.abort f }
      (g.locked fun m => { m with
        info := ⟨.error, m.info.progress, .writeFailed⟩
        totalBytes := 0
        expectedSize := 0 }).map fun g => (false, g)
    else
      g.take.map fun g =>
        let total := sizeT (g.manager.totalBytes + data.length)
        let g := { g with manager := { g.manager with totalBytes := total } }
        if 0 < g.manager.expectedSize then
          let progress := progressPercent total g.manager.expectedSize
          (true, { g with
            manager := { g.manager with
              info := ⟨g.manager.info.status, progress,
                .uploadingPercent progress total g.manager.expectedSize⟩ } }.give)
        else
          (true, { g with
            manager := { g.manager with
              info := ⟨g.manager.info.status, g.manager.info.progress,
                .uploadingBytes total⟩ } }.give)

/-- `ota_manager_finish_streaming_update` -/
def Guarded.finishStreamingUpdate (f : Flash) (handle : Bool) (g : Guarded) :
    Option (Bool × Guarded) :=
  if handle = false then some (false, g)
  else
    let (ended, m) := g.manager.call f .otaEnd
    let g := { g with manager := m }
    if ended = false then
      (g.locked (Manager.finishFailed .otaEndFailed)).map fun g => (false, g)
    else
      match g.manager.updatePartition with
      | none => (g.locked (Manager.finishFailed .partitionNotFound)).map fun g => (false, g)
      | some p =>
        let (set, m) := g.manager.call f (.setBootPartition p)
        let g := { g with manager := m }
        if set = false then
          (g.locked (Manager.finishFailed .setBootPartitionFailed)).map fun g => (false, g)
        else
          (g.locked fun m => { m with
            info := ⟨.complete, 100, .updateComplete⟩
            taskHandle := false
            updatePartition := none
            totalBytes := 0
            expectedSize := 0 }).map fun g => (true, g)

/-- An operation of the manager, with its arguments. -/
inductive Op
  | init
  | startUpdate (url : Option Bytes)
  | startUpdateFromData (data : Bytes)
  | getStatus (statusInfo : Bool)
  | startStreamingUpdate (expectedSize : Nat)
  | writeStreamingChunk (handle : Bool) (data : Bytes)
  | finishStreamingUpdate (handle : Bool)
  deriving DecidableEq, Repr

/-- What an operation returns, and the manager after it. -/
def Op.run (f : Flash) (r : Resources) : Op → Guarded → Option (Bool × Guarded)
  | .init, g => g.init r
  | .startUpdate url, g => g.startUpdate r url
  | .startUpdateFromData data, g => g.startUpdateFromData f r data
  | .getStatus statusInfo, g => (g.getStatus statusInfo).map fun (info, g) => (info.isSome, g)
  | .startStreamingUpdate expectedSize, g => g.startStreamingUpdate f expectedSize
  | .writeStreamingChunk handle data, g => g.writeStreamingChunk f handle data
  | .finishStreamingUpdate handle, g => g.finishStreamingUpdate f handle

/-- A call of an operation, with what it meets in the flash and on the heap. -/
structure Call where
  flash : Flash
  resources : Resources
  op : Op

/-- The manager from call to call. -/
def callStep (g : Guarded) (c : Call) : Option Guarded :=
  (c.op.run c.flash c.resources g).map Prod.snd

/-! ## 2. The operations, but for the mutex -/

variable {f : Flash} {r : Resources} {g g' : Guarded}

/-- The mutex is there and nobody holds it. -/
def Guarded.Available (g : Guarded) : Prop := g.manager.mutex = true ∧ g.lock.Free

instance Guarded.Available.decidable (g : Guarded) : Decidable g.Available :=
  inferInstanceAs (Decidable (_ ∧ _))

theorem take_available (h : g.Available) :
    g.take = some ⟨g.manager, ⟨g.lock.taken + 1, g.lock.given⟩⟩ := by
  rw [Guarded.take, if_pos h.1, Lock.take_free h.2]
  rfl

theorem take_unavailable (h : ¬g.Available) : g.take = none := by
  unfold Guarded.take
  split
  · rename_i hm
    rw [Lock.take_held fun hf => h ⟨hm, hf⟩]
    rfl
  · rfl

theorem locked_available (h : g.Available) (assign : Manager → Manager) :
    g.locked assign = some ⟨assign g.manager, g.lock.cycle⟩ := by
  rw [Guarded.locked, take_available h]
  rfl

theorem locked_unavailable (h : ¬g.Available) (assign : Manager → Manager) :
    g.locked assign = none := by
  rw [Guarded.locked, take_unavailable h]
  rfl

/-- What is assigned under the mutex, and that the mutex was there to be taken. -/
theorem locked_some {assign : Manager → Manager} (h : g.locked assign = some g') :
    g.Available ∧ g' = ⟨assign g.manager, g.lock.cycle⟩ := by
  by_cases hav : g.Available
  · rw [locked_available hav, Option.some.injEq] at h
    exact ⟨hav, h.symm⟩
  · rw [locked_unavailable hav] at h
    cases h

/-- The same for a manager and a lock that have just been put together. -/
theorem take_mk {m : Manager} {l : Lock} (hm : m.mutex = true) (hl : l.Free) :
    Guarded.take ⟨m, l⟩ = some ⟨m, ⟨l.taken + 1, l.given⟩⟩ := take_available ⟨hm, hl⟩

theorem locked_mk {m : Manager} {l : Lock} (hm : m.mutex = true) (hl : l.Free)
    (assign : Manager → Manager) :
    Guarded.locked assign ⟨m, l⟩ = some ⟨assign m, l.cycle⟩ := locked_available ⟨hm, hl⟩ assign

/-- With the mutex at hand, starting a streaming update does what the streaming half says. -/
theorem startStreaming_manager (h : g.Available) (f : Flash) (n : Nat) :
    g.startStreamingUpdate f n =
      some ((otaManagerStartStreamingUpdate f n g.manager).1,
        ⟨(otaManagerStartStreamingUpdate f n g.manager).2, g.lock.cycle⟩) := by
  unfold Guarded.startStreamingUpdate otaManagerStartStreamingUpdate
  rw [take_available h, if_neg (by simp [h.1]), if_neg (by simp [h.1]), Option.map_some]
  by_cases ht : g.manager.taskHandle = true
  · simp only [if_pos ht]
    rfl
  · simp only [if_neg ht]
    cases chooseUpdatePartition f with
    | none => rfl
    | some p =>
      cases hans : f.answer g.manager.calls.length with
      | false => simp only [Manager.call, hans, if_true, Guarded.give, Lock.give, Lock.cycle]
      | true =>
        simp only [Manager.call, hans, Bool.true_eq_false, if_false, Guarded.give, Lock.give,
          Lock.cycle]

theorem writeStreaming_manager (h : g.Available) (f : Flash) {data : Bytes} (hne : data ≠ []) :
    g.writeStreamingChunk f true data =
      some ((otaManagerWriteStreamingChunk f data g.manager).1,
        ⟨(otaManagerWriteStreamingChunk f data g.manager).2, g.lock.cycle⟩) := by
  unfold Guarded.writeStreamingChunk otaManagerWriteStreamingChunk
  rw [if_neg (by simp [hne]), if_neg hne]
  cases hans : f.answer g.manager.calls.length with
  | false =>
    simp only [Manager.call, Manager.abort, hans, if_true, locked_mk, h.1, h.2, Option.map_some]
  | true =>
    simp only [Manager.call, hans, Bool.true_eq_false, if_false, take_mk, h.1, h.2,
      Option.map_some]
    split <;> rfl

theorem finishStreaming_manager (h : g.Available) (f : Flash) :
    g.finishStreamingUpdate f true =
      some ((otaManagerFinishStreamingUpdate f g.manager).1,
        ⟨(otaManagerFinishStreamingUpdate f g.manager).2, g.lock.cycle⟩) := by
  unfold Guarded.finishStreamingUpdate otaManagerFinishStreamingUpdate
  rw [if_neg (by simp)]
  cases hend : f.answer g.manager.calls.length with
  | false => simp only [Manager.call, hend, if_true, locked_mk, h.1, h.2, Option.map_some]
  | true =>
    simp only [Manager.call, hend, Bool.true_eq_false, if_false]
    cases g.manager.updatePartition with
    | none => simp only [locked_mk, h.1, h.2, Option.map_some]
    | some p =>
      cases f.answer (g.manager.calls ++ [FlashCall.otaEnd]).length with
      | false => simp only [if_true, locked_mk, h.1, h.2, Option.map_some]
      | true =>
        simp only [Bool.true_eq_false, if_false, locked_mk, h.1, h.2, Option.map_some]

/-- The same when the manager and the lock have just been put together and nobody can take it. -/
theorem take_mk_none {m : Manager} {l : Lock} (h : ¬(m.mutex = true ∧ l.Free)) :
    Guarded.take ⟨m, l⟩ = none := take_unavailable h

theorem locked_mk_none {m : Manager} {l : Lock} (h : ¬(m.mutex = true ∧ l.Free))
    (assign : Manager → Manager) : Guarded.locked assign ⟨m, l⟩ = none := by
  rw [Guarded.locked, take_mk_none h]
  rfl

/-- A chunk that is passed on comes back only with the mutex. -/
theorem writeStreaming_some {data : Bytes} {ok : Bool} (hne : data ≠ [])
    (h : g.writeStreamingChunk f true data = some (ok, g')) :
    ok = (otaManagerWriteStreamingChunk f data g.manager).1 ∧
      g'.manager = (otaManagerWriteStreamingChunk f data g.manager).2 := by
  by_cases hav : g.Available
  · rw [writeStreaming_manager hav f hne, Option.some.injEq, Prod.mk.injEq] at h
    obtain ⟨rfl, rfl⟩ := h
    exact ⟨rfl, rfl⟩
  · have hnone : ¬(g.manager.mutex = true ∧ g.lock.Free) := hav
    unfold Guarded.writeStreamingChunk at h
    rw [if_neg (by simp [hne])] at h
    cases hans : f.answer g.manager.calls.length with
    | false =>
      simp [Manager.call, Manager.abort, hans, locked_mk_none, hnone] at h
    | true =>
      simp [Manager.call, hans, take_mk_none, hnone] at h

theorem finishStreaming_some {ok : Bool}
    (h : g.finishStreamingUpdate f true = some (ok, g')) :
    ok = (otaManagerFinishStreamingUpdate f g.manager).1 ∧
      g'.manager = (otaManagerFinishStreamingUpdate f g.manager).2 := by
  by_cases hav : g.Available
  · rw [finishStreaming_manager hav f, Option.some.injEq, Prod.mk.injEq] at h
    obtain ⟨rfl, rfl⟩ := h
    exact ⟨rfl, rfl⟩
  · have hnone : ¬(g.manager.mutex = true ∧ g.lock.Free) := hav
    unfold Guarded.finishStreamingUpdate at h
    rw [if_neg (by simp)] at h
    cases hend : f.answer g.manager.calls.length with
    | false => simp [Manager.call, hend, locked_mk_none, hnone] at h
    | true =>
      simp only [Manager.call, hend, Bool.true_eq_false, if_false] at h
      cases hp : g.manager.updatePartition with
      | none => simp [hp, locked_mk_none, hnone] at h
      | some p =>
        simp only [hp] at h
        split at h <;> simp [locked_mk_none, hnone] at h

/-! ## 3. Who keeps the mutex -/

/-- A section between a take and a give. -/
theorem take_returned {α : Type} {k : Guarded → α × Guarded} {a : α}
    (hk : ∀ g, (k g).2.lock = g.lock.give) (h : g.take.map k = some (a, g')) :
    g.lock.Returned g'.lock := by
  by_cases hav : g.Available
  · rw [take_available hav, Option.map_some, Option.some.injEq] at h
    refine Or.inr ⟨hav.2, ?_⟩
    have hlock := hk ⟨g.manager, ⟨g.lock.taken + 1, g.lock.given⟩⟩
    rw [h] at hlock
    exact hlock
  · rw [take_unavailable hav] at h
    cases h

theorem locked_returned {assign : Manager → Manager} {α : Type} {a b : α}
    (h : (g.locked assign).map (fun g => (a, g)) = some (b, g')) : g.lock.Returned g'.lock := by
  obtain ⟨g₁, hg₁, heq⟩ := Option.map_eq_some_iff.1 h
  obtain ⟨hav, rfl⟩ := locked_some hg₁
  obtain rfl := (Prod.mk.inj heq).2
  exact Or.inr ⟨hav.2, rfl⟩

/-- The same with a manager that has been changed ahead of it. -/
theorem take_mk_returned {m : Manager} {l : Lock} {α : Type} {k : Guarded → α × Guarded} {a : α}
    (hk : ∀ g, (k g).2.lock = g.lock.give) (h : (Guarded.take ⟨m, l⟩).map k = some (a, g')) :
    l.Returned g'.lock := take_returned hk h

theorem locked_mk_returned {m : Manager} {l : Lock} {assign : Manager → Manager} {α : Type}
    {a b : α} (h : (Guarded.locked assign ⟨m, l⟩).map (fun g => (a, g)) = some (b, g')) :
    l.Returned g'.lock := locked_returned h

/-- A call that returns at once. -/
theorem refused_returned {α : Type} {a b : α} (h : some (a, g) = some (b, g')) :
    g.lock.Returned g'.lock := by
  obtain rfl := (Prod.mk.inj (Option.some.inj h)).2
  exact Or.inl rfl

theorem init_returned {ok : Bool} (h : g.init r = some (ok, g')) :
    g.lock.Returned g'.lock := by
  unfold Guarded.init at h
  split at h
  · exact refused_returned h
  · have hret := locked_returned h
    exact hret

theorem startUpdate_returned {url : Option Bytes} {ok : Bool}
    (h : g.startUpdate r url = some (ok, g')) : g.lock.Returned g'.lock := by
  unfold Guarded.startUpdate at h
  split at h
  · exact refused_returned h
  · split at h
    · exact refused_returned h
    · refine take_returned (fun g₁ => ?_) h
      dsimp only
      split
      · rfl
      · split
        · rfl
        · split <;> rfl

theorem getStatus_returned {statusInfo : Bool} {info : Option StatusInfo}
    (h : g.getStatus statusInfo = some (info, g')) : g.lock.Returned g'.lock := by
  unfold Guarded.getStatus at h
  split at h
  · exact refused_returned h
  · split at h
    · exact refused_returned h
    · exact take_returned (fun _ => rfl) h

theorem startStreaming_returned {n : Nat} {ok : Bool}
    (h : g.startStreamingUpdate f n = some (ok, g')) : g.lock.Returned g'.lock := by
  unfold Guarded.startStreamingUpdate at h
  split at h
  · exact refused_returned h
  · refine take_returned (fun g₁ => ?_) h
    dsimp only
    split
    · rfl
    · split
      · rfl
      · cases hans : f.answer g₁.manager.calls.length with
        | false => simp only [Manager.call, hans, if_true, Guarded.give]
        | true => simp only [Manager.call, hans, Bool.true_eq_false, if_false, Guarded.give]

theorem writeStreaming_returned {handle ok : Bool} {data : Bytes}
    (h : g.writeStreamingChunk f handle data = some (ok, g')) : g.lock.Returned g'.lock := by
  unfold Guarded.writeStreamingChunk at h
  split at h
  · exact refused_returned h
  · cases hans : f.answer g.manager.calls.length with
    | false =>
      simp only [Manager.call, hans, if_true] at h
      exact locked_mk_returned h
    | true =>
      simp only [Manager.call, hans, Bool.true_eq_false, if_false] at h
      exact take_mk_returned (fun g₁ => by split <;> rfl) h

theorem finishStreaming_returned {handle ok : Bool}
    (h : g.finishStreamingUpdate f handle = some (ok, g')) : g.lock.Returned g'.lock := by
  unfold Guarded.finishStreamingUpdate at h
  split at h
  · exact refused_returned h
  · cases hend : f.answer g.manager.calls.length with
    | false =>
      simp only [Manager.call, hend, if_true] at h
      exact locked_mk_returned h
    | true =>
      simp only [Manager.call, hend, Bool.true_eq_false, if_false] at h
      cases hp : g.manager.updatePartition with
      | none =>
        simp only [hp] at h
        exact locked_mk_returned h
      | some p =>
        simp only [hp] at h
        cases hset : f.answer (g.manager.calls ++ [FlashCall.otaEnd]).length with
        | false =>
          simp only [hset, if_true] at h
          exact locked_mk_returned h
        | true =>
          simp only [hset, Bool.true_eq_false, if_false] at h
          exact locked_mk_returned h

/-- There is a partition for the data. -/
def fits (f : Flash) (data : Bytes) : Bool :=
  match f.next with
  | none => false
  | some p => decide (data.length ≤ p.size)

/-- The call takes the mutex and gives up before it creates the task. -/
def Forgets (f : Flash) (r : Resources) : Op → Manager → Prop
  | .startUpdateFromData data, m =>
    data ≠ [] ∧ m.mutex = true ∧ m.taskHandle = false ∧
      (fits f data = false ∨ r.otaData = false ∨ r.firmwareData = false)
  | _, _ => False

instance Forgets.decidable (f : Flash) (r : Resources) :
    ∀ (op : Op) (m : Manager), Decidable (Forgets f r op m)
  | .startUpdateFromData data, m =>
    inferInstanceAs (Decidable (data ≠ [] ∧ m.mutex = true ∧ m.taskHandle = false ∧
      (fits f data = false ∨ r.otaData = false ∨ r.firmwareData = false)))
  | .init, _ => inferInstanceAs (Decidable False)
  | .startUpdate _, _ => inferInstanceAs (Decidable False)
  | .getStatus _, _ => inferInstanceAs (Decidable False)
  | .startStreamingUpdate _, _ => inferInstanceAs (Decidable False)
  | .writeStreamingChunk _ _, _ => inferInstanceAs (Decidable False)
  | .finishStreamingUpdate _, _ => inferInstanceAs (Decidable False)

/-- Updating from data keeps the mutex, or returns it as it was. -/
theorem startUpdateFromData_lock {data : Bytes} {ok : Bool}
    (h : g.startUpdateFromData f r data = some (ok, g')) :
    Forgets f r (.startUpdateFromData data) g.manager ∧ g.lock.Free ∧
        g'.lock = ⟨g.lock.taken + 1, g.lock.given⟩ ∨
      ¬Forgets f r (.startUpdateFromData data) g.manager ∧ g.lock.Returned g'.lock := by
  unfold Guarded.startUpdateFromData at h
  by_cases hne : data = []
  · rw [if_pos hne] at h
    exact Or.inr ⟨fun hf => hf.1 hne, refused_returned h⟩
  rw [if_neg hne] at h
  by_cases hm : g.manager.mutex = false
  · rw [if_pos hm] at h
    exact Or.inr ⟨fun hf => by simp [hf.2.1] at hm, refused_returned h⟩
  rw [if_neg hm] at h
  by_cases hav : g.Available
  case neg =>
    rw [take_unavailable hav] at h
    cases h
  rw [take_available hav, Option.map_some, Option.some.injEq] at h
  dsimp only at h
  by_cases ht : g.manager.taskHandle = true
  · rw [if_pos ht] at h
    obtain rfl := (Prod.mk.inj h).2
    exact Or.inr ⟨fun hf => by simp [hf.2.2.1] at ht, Or.inr ⟨hav.2, rfl⟩⟩
  rw [if_neg ht] at h
  have hforgets : (fits f data = false ∨ r.otaData = false ∨ r.firmwareData = false) →
      g' = ⟨g.manager, ⟨g.lock.taken + 1, g.lock.given⟩⟩ →
      Forgets f r (.startUpdateFromData data) g.manager ∧ g.lock.Free ∧
        g'.lock = ⟨g.lock.taken + 1, g.lock.given⟩ :=
    fun hgive hg' => ⟨⟨hne, hav.1, by simpa using ht, hgive⟩, hav.2, by rw [hg']⟩
  cases hp : f.next with
  | none =>
    simp only [hp] at h
    exact Or.inl (hforgets (Or.inl (by rw [fits, hp])) (Prod.mk.inj h).2.symm)
  | some p =>
    simp only [hp] at h
    by_cases hbig : p.size < data.length
    · rw [if_pos hbig] at h
      exact Or.inl (hforgets (Or.inl (by simpa [fits, hp] using hbig)) (Prod.mk.inj h).2.symm)
    rw [if_neg hbig] at h
    by_cases ho : r.otaData = false
    · rw [if_pos ho] at h
      exact Or.inl (hforgets (Or.inr (Or.inl ho)) (Prod.mk.inj h).2.symm)
    rw [if_neg ho] at h
    by_cases hd : r.firmwareData = false
    · rw [if_pos hd] at h
      exact Or.inl (hforgets (Or.inr (Or.inr hd)) (Prod.mk.inj h).2.symm)
    rw [if_neg hd] at h
    have hkeeps : ¬Forgets f r (.startUpdateFromData data) g.manager := by
      rintro ⟨-, -, -, hfits | hod | hfd⟩
      · simp [fits, hp, hbig] at hfits
      · exact ho hod
      · exact hd hfd
    refine Or.inr ⟨hkeeps, Or.inr ⟨hav.2, ?_⟩⟩
    split at h
    · obtain rfl := (Prod.mk.inj h).2
      rfl
    · obtain rfl := (Prod.mk.inj h).2
      rfl

/-- **What an operation does to the mutex.** -/
theorem run_lock {op : Op} {ok : Bool} (h : op.run f r g = some (ok, g')) :
    Forgets f r op g.manager ∧ g.lock.Free ∧ g'.lock = ⟨g.lock.taken + 1, g.lock.given⟩ ∨
      ¬Forgets f r op g.manager ∧ g.lock.Returned g'.lock := by
  cases op with
  | init => exact Or.inr ⟨fun hf => hf.elim, init_returned h⟩
  | startUpdate url => exact Or.inr ⟨fun hf => hf.elim, startUpdate_returned h⟩
  | startUpdateFromData data => exact startUpdateFromData_lock h
  | getStatus statusInfo =>
    obtain ⟨⟨info, g₁⟩, hg₁, heq⟩ := Option.map_eq_some_iff.1 h
    obtain ⟨-, rfl⟩ := Prod.mk.inj heq
    exact Or.inr ⟨fun hf => hf.elim, getStatus_returned hg₁⟩
  | startStreamingUpdate n => exact Or.inr ⟨fun hf => hf.elim, startStreaming_returned h⟩
  | writeStreamingChunk handle data =>
    exact Or.inr ⟨fun hf => hf.elim, writeStreaming_returned h⟩
  | finishStreamingUpdate handle =>
    exact Or.inr ⟨fun hf => hf.elim, finishStreaming_returned h⟩

/-- An operation gives the mutex back as often as it took it unless it forgets to. -/
theorem run_balanced {op : Op} {ok : Bool} (h : op.run f r g = some (ok, g')) :
    g.lock.Balanced g'.lock ↔ ¬Forgets f r op g.manager := by
  rcases run_lock h with ⟨hf, hfree, hlock⟩ | ⟨hf, hret⟩
  · refine iff_of_false ?_ (not_not_intro hf)
    rw [hlock, Lock.Balanced.free_iff hfree]
    exact Lock.not_free_taken hfree
  · exact iff_of_true hret.balanced hf

/-- While the mutex is held, it stays held. -/
theorem run_held {op : Op} {ok : Bool} (h : op.run f r g = some (ok, g')) (hg : ¬g.lock.Free) :
    ¬g'.lock.Free := by
  rcases run_lock h with ⟨-, hfree, -⟩ | ⟨-, hlock | ⟨hfree, -⟩⟩
  · exact absurd hfree hg
  · rwa [hlock]
  · exact absurd hfree hg

/-- With the mutex at hand every operation returns. -/
theorem run_returns (h : g.Available) (f : Flash) (r : Resources) (op : Op) :
    ∃ result, op.run f r g = some result := by
  have hm : ¬g.manager.mutex = false := by simp [h.1]
  cases op with
  | init =>
    rw [Op.run, Guarded.init, if_neg fun hno => hm hno.1]
    dsimp only
    rw [locked_mk rfl h.2]
    exact ⟨_, rfl⟩
  | startUpdate url =>
    by_cases hurl : validUrl url = false
    · exact ⟨_, if_pos hurl⟩
    · rw [Op.run, Guarded.startUpdate, if_neg hurl, if_neg hm, take_available h]
      exact ⟨_, rfl⟩
  | startUpdateFromData data =>
    by_cases hdata : data = []
    · exact ⟨_, if_pos hdata⟩
    · rw [Op.run, Guarded.startUpdateFromData, if_neg hdata, if_neg hm, take_available h]
      exact ⟨_, rfl⟩
  | getStatus statusInfo =>
    cases statusInfo with
    | false => exact ⟨_, rfl⟩
    | true =>
      rw [Op.run, Guarded.getStatus, if_neg (by decide), if_neg hm, take_available h]
      exact ⟨_, rfl⟩
  | startStreamingUpdate n => exact ⟨_, startStreaming_manager h f n⟩
  | writeStreamingChunk handle data =>
    by_cases hpassed : handle = false ∨ data = []
    · exact ⟨_, if_pos hpassed⟩
    · obtain ⟨hhandle, hdata⟩ := not_or.mp hpassed
      rw [Bool.not_eq_false] at hhandle
      subst hhandle
      exact ⟨_, writeStreaming_manager h f hdata⟩
  | finishStreamingUpdate handle =>
    cases handle with
    | false => exact ⟨_, rfl⟩
    | true => exact ⟨_, finishStreaming_manager h f⟩

/-! ## 4. Sequences of operations -/

/-- The call does not keep the mutex. -/
def Keeps (g : Guarded) (c : Call) : Prop := ¬Forgets c.flash c.resources c.op g.manager

theorem callStep_some {c : Call} (h : callStep g c = some g') :
    ∃ ok, c.op.run c.flash c.resources g = some (ok, g') := by
  obtain ⟨⟨ok, g₁⟩, hg₁, heq⟩ := Option.map_eq_some_iff.1 h
  exact ⟨ok, heq ▸ hg₁⟩

theorem exec_held {calls : List Call} (h : exec callStep g calls = some g')
    (hg : ¬g.lock.Free) : ¬g'.lock.Free := by
  refine (exec_reach h).invariant (P := fun g => ¬g.lock.Free) (fun u c v hu _ hv => ?_) hg
  obtain ⟨ok, hrun⟩ := callStep_some hv
  exact run_held hrun hu

/-- **After any sequence of operations the mutex is free just when none of them kept it.** -/
theorem exec_free {calls : List Call} (h : exec callStep g calls = some g')
    (hg : g.lock.Free) : g'.lock.Free ↔ execMeets callStep Keeps g calls := by
  induction calls generalizing g with
  | nil =>
    rw [exec, Option.some.injEq] at h
    exact iff_of_true (h ▸ hg) trivial
  | cons c cs ih =>
    simp only [exec, Option.bind_eq_some_iff] at h
    obtain ⟨g₁, hg₁, hrest⟩ := h
    obtain ⟨ok, hrun⟩ := callStep_some hg₁
    rw [execMeets, hg₁, Option.elim_some]
    by_cases hfree : g₁.lock.Free
    · have hkeeps : Keeps g c := (run_balanced hrun).1 ((Lock.Balanced.free_iff hg).2 hfree)
      rw [ih hrest hfree, and_iff_right hkeeps]
    · have hforgets : ¬Keeps g c := fun hk =>
        hfree ((Lock.Balanced.free_iff hg).1 ((run_balanced hrun).2 hk))
      exact iff_of_false (exec_held hrest hfree) fun hm => hforgets hm.1

/-- **The balance of the mutex.**  A call of an operation returns if the mutex can be taken, and
gives it back as often as it took it unless it forgets to; and after a sequence of calls that have
all returned, the next operation can take the mutex just when none of them forgot. -/
theorem lock_balance (g : Guarded) :
    (∀ (f : Flash) (r : Resources) (op : Op) (g' : Guarded) (ok : Bool),
        op.run f r g = some (ok, g') →
          (g.lock.Balanced g'.lock ↔ ¬Forgets f r op g.manager)) ∧
      (g.manager.mutex = true → g.lock.Free → ∀ (f : Flash) (r : Resources) (op : Op),
        ∃ result, op.run f r g = some result) ∧
      ∀ (calls : List Call) (g' : Guarded), g.lock.Free → g'.manager.mutex = true →
        exec callStep g calls = some g' →
          (g'.take ≠ none ↔ execMeets callStep Keeps g calls) := by
  refine ⟨fun f r op g' ok h => run_balanced h, fun hm hg f r op => run_returns ⟨hm, hg⟩ f r op,
    fun calls g' hg hm h => ?_⟩
  rw [← exec_free h hg]
  constructor
  · intro htake
    by_contra hfree
    exact htake (take_unavailable fun hav => hfree hav.2)
  · intro hfree
    rw [take_available ⟨hm, hfree⟩]
    exact Option.some_ne_none _

/-! ## 5. An image and no partition for it -/

/-- A manager that has been initialised. -/
def Guarded.idle : Guarded := ⟨Manager.idle, Lock.new⟩

/-- A flash without a partition to update. -/
def Flash.unpartitioned : Flash where
  next := none
  running := none
  ota0 := none
  ota1 := none
  answer := fun _ => true

/-- An image is handed over. -/
def benchData : Call := ⟨.unpartitioned, .good, .startUpdateFromData [0xE9]⟩

/-- The image is refused and the mutex is kept: nobody can take it any more. -/
theorem lock_balance_idle :
    ¬Guarded.idle.lock.Balanced ⟨1, 0⟩ ∧
      (Guarded.take ⟨Manager.idle, ⟨1, 0⟩⟩ ≠ none ↔
        execMeets callStep Keeps Guarded.idle [benchData]) :=
  ⟨fun hbal => ((lock_balance .idle).1 .unpartitioned .good (.startUpdateFromData [0xE9])
      ⟨Manager.idle, ⟨1, 0⟩⟩ false rfl).1 hbal (by decide),
    (lock_balance .idle).2.2 [benchData] ⟨Manager.idle, ⟨1, 0⟩⟩ rfl rfl rfl⟩

/-- The mutex is taken and not given back. -/
theorem data_without_partition :
    ¬∀ (f : Flash) (r : Resources) (op : Op) (g g' : Guarded) (ok : Bool),
      op.run f r g = some (ok, g') → g.lock.Balanced g'.lock := by
  intro h
  have hbal := h .unpartitioned .good (.startUpdateFromData [0xE9]) .idle
    ⟨Manager.idle, ⟨1, 0⟩⟩ false rfl
  revert hbal
  decide

end GroundTruth.Ota
