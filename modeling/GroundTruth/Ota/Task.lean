/-
# The update tasks of `ota_manager.c`

`ota_task` downloads from a URL; `ota_update_from_data_task` writes an image from memory.  Each is
written as a machine over its phases: a step is one call of the flash or of the download, with the
answer it gets, and the assignments up to the next call.

* `TaskStep.run` puts a step into the manager: what it assigns, it assigns under the mutex;
* `dataTask_written`: the task that writes from memory has written the image, from its first byte
  to the offset it has come to.
-/
import GroundTruth.Ota.Guard

namespace GroundTruth.Ota

open GroundTruth.Lib

/-! ## 1. Steps of a task -/

/-- A step of a task. -/
structure TaskStep (φ : Type) where
  /-- where the task stands afterwards -/
  phase : φ
  /-- what it has done to its handle -/
  ops : List HandleOp
  /-- what it has asked of the flash -/
  calls : List FlashCall
  /-- what it assigns, if it takes the mutex -/
  assign : Option (Manager → Manager)

/-- The step, with the manager. -/
def TaskStep.run {φ : Type} (s : TaskStep φ) (g : Guarded) : Option (φ × Guarded) :=
  let g := { g with manager := { g.manager with calls := g.manager.calls ++ s.calls } }
  match s.assign with
  | none => some (s.phase, g)
  | some assign => (g.locked assign).map fun g => (s.phase, g)

/-- A task on its own, with what it has done to its handle. -/
def historyStep {φ α : Type} (task : φ → α → Option (TaskStep φ)) :
    φ × List HandleOp → α → Option (φ × List HandleOp)
  | (p, ops), a => (task p a).map fun s => (s.phase, ops ++ s.ops)

/-- `s_ota_status.status = OTA_STATUS_ERROR`, with a message. -/
def Manager.failed (message : StatusMessage) (m : Manager) : Manager :=
  { m with info := ⟨.error, m.info.progress, message⟩ }

/-- The same where the progress is set to 0. -/
def Manager.failedAtOnce (message : StatusMessage) (m : Manager) : Manager :=
  { m with info := ⟨.error, 0, message⟩ }

/-- `s_ota_status.status = OTA_STATUS_IN_PROGRESS` -/
def Manager.begun (message : StatusMessage) (m : Manager) : Manager :=
  { m with info := ⟨.inProgress, 0, message⟩ }

/-- `s_ota_status.status = OTA_STATUS_COMPLETE` -/
def Manager.completed (m : Manager) : Manager :=
  { m with info := ⟨.complete, 100, .updateComplete⟩ }

/-- `s_ota_task_handle = NULL` -/
def Manager.endTask (m : Manager) : Manager := { m with taskHandle := false }

/-! ## 2. The download -/

inductive UrlPhase
  | created
  /-- in the loop -/
  | performing
  /-- `esp_https_ota_perform` has returned `ESP_OK` -/
  | finishing
  /-- before the `esp_https_ota_abort` at the end -/
  | aborting
  /-- the task is about to restart the device -/
  | rebooting
  | ended
  deriving DecidableEq, Repr

/-- How a call of the download ends. -/
inductive UrlAnswer
  /-- `esp_https_ota_begin` -/
  | begin (ok : Bool)
  /-- `ESP_ERR_HTTPS_OTA_IN_PROGRESS`, and whether `esp_https_ota_get_img_desc` succeeds -/
  | inProgress (imgDesc : Bool)
  /-- `esp_https_ota_perform` returns something else -/
  | perform (ok : Bool)
  /-- `esp_https_ota_finish` -/
  | finish (ok : Bool)
  /-- `esp_https_ota_abort`, whose result nobody looks at -/
  | abort
  deriving DecidableEq, Repr

/-- "Increment progress gradually" -/
def Manager.downloaded (m : Manager) : Manager :=
  { m with
    info := ⟨m.info.status, if m.info.progress < 90 then m.info.progress + 1 else m.info.progress,
      .downloading⟩ }

/-- `ota_task` -/
def otaTask : UrlPhase → UrlAnswer → Option (TaskStep UrlPhase)
  | .created, .begin false =>
    some ⟨.ended, [], [], some fun m => (m.failedAtOnce .otaBeginFailed).endTask⟩
  | .created, .begin true => some ⟨.performing, [.acquire], [], some (Manager.begun .downloading)⟩
  | .performing, .inProgress true => some ⟨.performing, [.use, .use], [], some Manager.downloaded⟩
  | .performing, .inProgress false => some ⟨.performing, [.use, .use], [], none⟩
  | .performing, .perform true => some ⟨.finishing, [.use], [], none⟩
  | .performing, .perform false =>
    some ⟨.aborting, [.use], [], some (Manager.failed .otaPerformFailed)⟩
  | .finishing, .finish true => some ⟨.rebooting, [.release], [], some Manager.completed⟩
  | .finishing, .finish false =>
    some ⟨.aborting, [.release], [], some (Manager.failed .otaFinishFailed)⟩
  | .aborting, .abort => some ⟨.ended, [.release], [], some Manager.endTask⟩
  | _, _ => none

/-! ## 3. The image from memory -/

inductive DataPhase
  | created
  /-- in the loop, at this offset -/
  | writing (p : Partition) (offset : Nat)
  /-- `esp_ota_end` has returned `ESP_OK` -/
  | settingBoot (p : Partition)
  /-- the task is about to restart the device -/
  | rebooting
  | ended
  deriving DecidableEq, Repr

/-- `chunk_size` -/
def chunkSize : Nat := 4096

/-- The chunk at an offset. -/
def dataChunk (data : Bytes) (offset : Nat) : Bytes :=
  (data.drop offset).take (if data.length < offset + chunkSize then data.length - offset
    else chunkSize)

/-- What a call of the flash does to the handle; `ok` is how it is answered. -/
def FlashCall.handleOp (ok : Bool) : FlashCall → List HandleOp
  | .otaBegin _ _ => if ok = true then [.acquire] else []
  | .otaWrite _ => [.use]
  | .otaAbort => [.release]
  | .otaEnd => [.release]
  | .setBootPartition _ => []

/-- A step of the task that writes from memory: its calls, the first of which is answered by `ok`,
and what it assigns. -/
def dataStep (ok : Bool) (phase : DataPhase) (calls : List FlashCall)
    (assign : Option (Manager → Manager)) : Option (TaskStep DataPhase) :=
  some ⟨phase, calls.flatMap (FlashCall.handleOp ok), calls, assign⟩

/-- `ota_update_from_data_task`; `next` is what `esp_ota_get_next_update_partition` returns. -/
def otaUpdateFromDataTask (next : Option Partition) (data : Bytes) :
    DataPhase → Bool → Option (TaskStep DataPhase)
  | .created, ok =>
    match next with
    | none => dataStep ok .ended [] (some fun m => (m.failedAtOnce .noOtaPartition).endTask)
    | some p =>
      if ok = false then
        dataStep ok .ended [.otaBegin p data.length]
          (some fun m => (m.failedAtOnce .otaBeginFailed).endTask)
      else
        dataStep ok (.writing p 0) [.otaBegin p data.length]
          (some (Manager.begun .writingFirmware))
  | .writing p offset, ok =>
    if offset < data.length then
      let chunk := dataChunk data offset
      if ok = false then
        dataStep ok .ended [.otaWrite chunk, .otaAbort]
          (some fun m => (m.failed .writeFailed).endTask)
      else
        let progress := UInt8.ofNat (sizeT ((offset + chunk.length) * 100) / data.length)
        dataStep ok (.writing p (offset + chunkSize)) [.otaWrite chunk]
          (some fun m => { m with info := ⟨m.info.status, progress, .writing progress⟩ })
    else if ok = false then
      dataStep ok .ended [.otaEnd] (some fun m => (m.failed .otaEndFailed).endTask)
    else dataStep ok (.settingBoot p) [.otaEnd] none
  | .settingBoot p, ok =>
    if ok = false then
      dataStep ok .ended [.setBootPartition p]
        (some fun m => (m.failed .setBootPartitionFailed).endTask)
    else dataStep ok .rebooting [.setBootPartition p] (some Manager.completed)
  | _, _ => none

/-! ## 4. What the second task writes -/

/-- A task in the manager. -/
def taskStep {φ α : Type} (task : φ → α → Option (TaskStep φ)) :
    φ × Guarded → α → Option (φ × Guarded)
  | (p, g), a => (task p a).bind fun s => s.run g

theorem taskStep_some {φ α : Type} {task : φ → α → Option (TaskStep φ)} {x y : φ × Guarded}
    {a : α} (h : taskStep task x a = some y) : ∃ s, task x.1 a = some s ∧ s.run x.2 = some y :=
  Option.bind_eq_some_iff.1 h

/-- What a step does to the manager, and that the mutex was at hand if the step takes it. -/
theorem run_some {φ : Type} {s : TaskStep φ} {g : Guarded} {y : φ × Guarded}
    (h : s.run g = some y) :
    y.1 = s.phase ∧ (s.assign.isSome = true → g.Available) ∧ g.lock.Returned y.2.lock ∧
      y.2.manager = s.assign.getD id { g.manager with calls := g.manager.calls ++ s.calls } := by
  unfold TaskStep.run at h
  dsimp only at h
  cases hassign : s.assign with
  | none =>
    rw [hassign] at h
    obtain rfl := Option.some.inj h
    exact ⟨rfl, fun hs => by simp at hs, Or.inl rfl, rfl⟩
  | some assign =>
    rw [hassign] at h
    obtain ⟨g₁, hg₁, rfl⟩ := Option.map_eq_some_iff.1 h
    obtain ⟨hav, rfl⟩ := locked_some hg₁
    exact ⟨rfl, fun _ => hav, Or.inr ⟨hav.2, rfl⟩, rfl⟩

/-- The assignments of the tasks leave the record of the calls alone. -/
def KeepsCalls (assign : Manager → Manager) : Prop := ∀ m, (assign m).calls = m.calls

/-- What has been written of the image when the task stands in a phase. -/
def DataPhase.Written (data w : Bytes) : DataPhase → Prop
  | .created => w = []
  | .writing _ offset => w = data.take offset
  | .settingBoot _ => w = data
  | .rebooting => w = data
  | .ended => w <+: data

theorem take_dataChunk (data : Bytes) (offset : Nat) :
    data.take offset ++ dataChunk data offset = data.take (offset + chunkSize) := by
  rw [List.take_add, dataChunk]
  congr 1
  split
  · rename_i h
    rw [List.take_of_length_le (by simp), List.take_of_length_le (by simp; omega)]
  · rfl

/-- One step of the task: what it writes, and that its assignments are about other things. -/
theorem dataTask_step {next : Option Partition} {data w : Bytes} {p : DataPhase} {ok : Bool}
    {s : TaskStep DataPhase} (h : otaUpdateFromDataTask next data p ok = some s)
    (hw : p.Written data w) :
    s.phase.Written data (w ++ written s.calls) ∧ KeepsCalls (s.assign.getD id) := by
  cases p with
  | created =>
    obtain rfl : w = [] := hw
    unfold otaUpdateFromDataTask dataStep at h
    cases next with
    | none =>
      obtain rfl := Option.some.inj h
      exact ⟨List.nil_prefix, fun _ => rfl⟩
    | some q =>
      dsimp only at h
      split at h
      · obtain rfl := Option.some.inj h
        exact ⟨List.nil_prefix, fun _ => rfl⟩
      · obtain rfl := Option.some.inj h
        exact ⟨List.take_zero.symm, fun _ => rfl⟩
  | writing q offset =>
    obtain rfl : w = data.take offset := hw
    unfold otaUpdateFromDataTask dataStep at h
    dsimp only at h
    split at h
    · split at h
      · obtain rfl := Option.some.inj h
        refine ⟨?_, fun _ => rfl⟩
        have hwritten : written [.otaWrite (dataChunk data offset), .otaAbort] =
            dataChunk data offset := List.append_nil _
        simp only [DataPhase.Written, hwritten, take_dataChunk]
        exact List.take_prefix _ _
      · obtain rfl := Option.some.inj h
        refine ⟨?_, fun _ => rfl⟩
        simp only [DataPhase.Written, written_otaWrite, take_dataChunk]
    · rename_i hoff
      have hall : data.take offset = data := List.take_of_length_le (by omega)
      split at h
      · obtain rfl := Option.some.inj h
        refine ⟨?_, fun _ => rfl⟩
        rw [hall]
        exact (List.append_nil data).symm ▸ List.prefix_refl data
      · obtain rfl := Option.some.inj h
        refine ⟨?_, fun _ => rfl⟩
        rw [hall]
        exact List.append_nil data
  | settingBoot q =>
    obtain rfl : w = data := hw
    simp only [otaUpdateFromDataTask, dataStep] at h
    split at h
    · obtain rfl := Option.some.inj h
      exact ⟨(List.append_nil w).symm ▸ List.prefix_refl w, fun _ => rfl⟩
    · obtain rfl := Option.some.inj h
      exact ⟨List.append_nil w, fun _ => rfl⟩
  | rebooting => cases h
  | ended => cases h

/-- **The task that writes from memory** has at any time written the image up to where it stands;
when it sets the boot partition it has written all of it. -/
theorem dataTask_written {next : Option Partition} {data : Bytes} {g : Guarded}
    {y : DataPhase × Guarded}
    (h : Reach (taskStep (otaUpdateFromDataTask next data)) (.created, g) y) :
    ∃ cs, y.2.manager.calls = g.manager.calls ++ cs ∧ y.1.Written data (written cs) := by
  refine h.invariant (P := fun y => ∃ cs, y.2.manager.calls = g.manager.calls ++ cs ∧
    y.1.Written data (written cs)) ?_ ⟨[], (List.append_nil _).symm, rfl⟩
  rintro x ok z ⟨cs, hcs, hw⟩ - hstep
  obtain ⟨s, hs, hrun⟩ := taskStep_some hstep
  obtain ⟨hphase, -, -, hm⟩ := run_some hrun
  obtain ⟨hw', hkeep⟩ := dataTask_step hs hw
  refine ⟨cs ++ s.calls, ?_, ?_⟩
  · rw [hm, hkeep, hcs, List.append_assoc]
  · rw [hphase, written_append]
    exact hw'

end GroundTruth.Ota
