/-
# The streaming half of `ota_manager.c`

An upload starts, writes chunk after chunk, and finishes.  What the manager asks of the flash is
kept as a list of calls, in order; how each call is answered is up to the `Flash`.  Sizes are
`size_t`, 32 bits wide.

* `start_calls`: starting an update either calls nothing or calls `esp_ota_begin`, once;
* `write_calls`: writing a chunk passes exactly that chunk to `esp_ota_write`;
* `finish_calls`: the boot partition is set only by finishing.
-/
import GroundTruth.Lib.Bytes

namespace GroundTruth.Ota

open GroundTruth.Lib

/-! ## 1. The flash -/

/-- The subtype of an application partition. -/
inductive Subtype
  | ota0
  | ota1
  | other
  deriving DecidableEq, Repr

structure Partition where
  subtype : Subtype
  size : Nat
  deriving DecidableEq, Repr

/-- What the flash holds and how it answers. -/
structure Flash where
  /-- `esp_ota_get_next_update_partition` -/
  next : Option Partition
  /-- `esp_ota_get_running_partition` -/
  running : Option Partition
  ota0 : Option Partition
  ota1 : Option Partition
  /-- the call with this number succeeds -/
  answer : Nat → Bool

/-- A call of the flash. -/
inductive FlashCall
  /-- `esp_ota_begin` on a partition, for so many bytes -/
  | otaBegin (p : Partition) (size : Nat)
  | otaWrite (data : Bytes)
  | otaAbort
  | otaEnd
  | setBootPartition (p : Partition)
  deriving DecidableEq, Repr

/-- All bytes passed to `esp_ota_write`, in order. -/
def written (calls : List FlashCall) : Bytes :=
  calls.flatMap fun
    | .otaWrite data => data
    | _ => []

@[simp] theorem written_nil : written [] = [] := rfl

@[simp] theorem written_append (cs ds : List FlashCall) :
    written (cs ++ ds) = written cs ++ written ds := List.flatMap_append

@[simp] theorem written_otaWrite (data : Bytes) : written [.otaWrite data] = data :=
  List.append_nil data

/-! ## 2. The manager -/

inductive OtaStatus
  | idle
  | inProgress
  | complete
  | error
  deriving DecidableEq, Repr

/-- The text of the status. -/
inductive StatusMessage
  | none
  /-- "Ready" -/
  | ready
  /-- "Uploading firmware..." -/
  | uploading
  /-- "Uploading firmware... %d%% (%d/%d bytes)" -/
  | uploadingPercent (progress : UInt8) (total expected : Nat)
  /-- "Uploading firmware... %d bytes written" -/
  | uploadingBytes (total : Nat)
  | writeFailed
  | otaEndFailed
  /-- "Update partition not found" -/
  | partitionNotFound
  | setBootPartitionFailed
  /-- "Update complete, rebooting..." -/
  | updateComplete
  | otaBeginFailed
  /-- "Downloading firmware..." -/
  | downloading
  | otaPerformFailed
  | otaFinishFailed
  /-- "No OTA partition found" -/
  | noOtaPartition
  /-- "Writing firmware..." -/
  | writingFirmware
  /-- "Writing: %d%%" -/
  | writing (progress : UInt8)
  deriving DecidableEq, Repr

structure StatusInfo where
  status : OtaStatus
  progress : UInt8
  message : StatusMessage
  deriving DecidableEq, Repr

/-- The static variables of the manager, and the calls it has made. -/
structure Manager where
  /-- `s_ota_mutex` has been created -/
  mutex : Bool
  /-- `s_ota_task_handle` is not NULL -/
  taskHandle : Bool
  /-- `s_update_partition` -/
  updatePartition : Option Partition
  /-- `s_streaming_total_bytes` -/
  totalBytes : Nat
  /-- `s_streaming_expected_size` -/
  expectedSize : Nat
  /-- `s_ota_status` -/
  info : StatusInfo
  calls : List FlashCall
  deriving DecidableEq, Repr

/-- `size_t` arithmetic, of 32 bits. -/
def sizeT (n : Nat) : Nat := n % 0x100000000

/-- Make a call: it is recorded, and answered by its number. -/
def Manager.call (f : Flash) (c : FlashCall) (m : Manager) : Bool × Manager :=
  (f.answer m.calls.length, { m with calls := m.calls ++ [c] })

/-- The partition to update: the next one, or the one that is not running. -/
def chooseUpdatePartition (f : Flash) : Option Partition :=
  match f.next with
  | some p => some p
  | none =>
    match f.running with
    | some r =>
      if r.subtype = .ota0 ∧ f.ota1.isSome then f.ota1
      else if r.subtype = .ota1 ∧ f.ota0.isSome then f.ota0
      else if f.ota0.isSome then f.ota0
      else f.ota1
    | none => if f.ota0.isSome then f.ota0 else f.ota1

/-- The size given to `esp_ota_begin`. -/
def otaSize (expectedSize partitionSize : Nat) : Nat :=
  if 0 < expectedSize ∧ expectedSize < partitionSize then expectedSize else partitionSize

/-- `ota_manager_start_streaming_update`; a handle other than 0 is `true`. -/
def otaManagerStartStreamingUpdate (f : Flash) (expectedSize : Nat) (m : Manager) :
    Bool × Manager :=
  if m.mutex = false then (false, m)
  else if m.taskHandle = true then (false, m)
  else
    match chooseUpdatePartition f with
    | none => (false, m)
    | some p =>
      let size := otaSize expectedSize p.size
      let (ok, m) := m.call f (.otaBegin p size)
      if ok = false then (false, m)
      else
        (true, { m with
          updatePartition := some p
          totalBytes := 0
          expectedSize := size
          info := ⟨.inProgress, 0, .uploading⟩ })

/-- `esp_ota_abort`, whose result nobody looks at. -/
def Manager.abort (f : Flash) (m : Manager) : Manager := (m.call f .otaAbort).2

/-- The progress in percent: cut to eight bits, and then capped. -/
def progressPercent (total expected : Nat) : UInt8 :=
  let progress := UInt8.ofNat (sizeT (total * 100) / expected)
  if 100 < progress then 100 else progress

/-- `ota_manager_write_streaming_chunk`, with a handle. -/
def otaManagerWriteStreamingChunk (f : Flash) (data : Bytes) (m : Manager) : Bool × Manager :=
  if data = [] then (false, m)
  else
    let (ok, m) := m.call f (.otaWrite data)
    if ok = false then
      let m := m.abort f
      (false, { m with
        info := ⟨.error, m.info.progress, .writeFailed⟩
        totalBytes := 0
        expectedSize := 0 })
    else
      let total := sizeT (m.totalBytes + data.length)
      if 0 < m.expectedSize then
        let progress := progressPercent total m.expectedSize
        (true, { m with
          totalBytes := total
          info := ⟨m.info.status, progress,
            .uploadingPercent progress total m.expectedSize⟩ })
      else
        (true, { m with
          totalBytes := total
          info := ⟨m.info.status, m.info.progress, .uploadingBytes total⟩ })

/-- How `ota_manager_finish_streaming_update` fails. -/
def Manager.finishFailed (message : StatusMessage) (m : Manager) : Manager :=
  { m with
    info := ⟨.error, m.info.progress, message⟩
    taskHandle := false
    updatePartition := none
    totalBytes := 0
    expectedSize := 0 }

/-- `ota_manager_finish_streaming_update`, with a handle.  When it returns `true` the device
restarts. -/
def otaManagerFinishStreamingUpdate (f : Flash) (m : Manager) : Bool × Manager :=
  let (ended, m) := m.call f .otaEnd
  if ended = false then (false, m.finishFailed .otaEndFailed)
  else
    match m.updatePartition with
    | none => (false, m.finishFailed .partitionNotFound)
    | some p =>
      let (set, m) := m.call f (.setBootPartition p)
      if set = false then (false, m.finishFailed .setBootPartitionFailed)
      else
        (true, { m with
          info := ⟨.complete, 100, .updateComplete⟩
          taskHandle := false
          updatePartition := none
          totalBytes := 0
          expectedSize := 0 })

/-- The manager after `ota_manager_init`. -/
def Manager.idle : Manager where
  mutex := true
  taskHandle := false
  updatePartition := none
  totalBytes := 0
  expectedSize := 0
  info := ⟨.idle, 0, .ready⟩
  calls := []

/-- The manager at power-on. -/
def Manager.powerOn : Manager where
  mutex := false
  taskHandle := false
  updatePartition := none
  totalBytes := 0
  expectedSize := 0
  info := ⟨.idle, 0, .none⟩
  calls := []

/-- A flash that updates this partition, and where every call succeeds. -/
def Flash.willing (p : Partition) : Flash where
  next := some p
  running := none
  ota0 := none
  ota1 := none
  answer := fun _ => true

/-! ## 3. What each function asks of the flash -/

variable {f : Flash} {m m' : Manager}

/-- Starting an update asks for nothing, or for a region of the partition to be erased. -/
theorem start_calls_cases (f : Flash) (n : Nat) (m : Manager) :
    (otaManagerStartStreamingUpdate f n m).2.calls = m.calls ∨
      ∃ p, (otaManagerStartStreamingUpdate f n m).2.calls =
        m.calls ++ [.otaBegin p (otaSize n p.size)] := by
  unfold otaManagerStartStreamingUpdate
  split
  · exact Or.inl rfl
  · split
    · exact Or.inl rfl
    · split
      · exact Or.inl rfl
      · rename_i p _
        refine Or.inr ⟨p, ?_⟩
        dsimp only
        split <;> rfl

theorem start_calls {n : Nat} (h : otaManagerStartStreamingUpdate f n m = (true, m')) :
    ∃ p, chooseUpdatePartition f = some p ∧
      m'.calls = m.calls ++ [.otaBegin p (otaSize n p.size)] := by
  unfold otaManagerStartStreamingUpdate at h
  split at h
  · cases h
  · split at h
    · cases h
    · split at h
      · cases h
      · rename_i p hp
        refine ⟨p, hp, ?_⟩
        cases hans : f.answer m.calls.length with
        | false => simp [Manager.call, hans] at h
        | true =>
          simp only [Manager.call, hans, Bool.true_eq_false, if_false, Prod.mk.injEq,
            true_and] at h
          rw [← h]

/-- With a flash that says yes, an update starts. -/
theorem start_ok {n : Nat} {p : Partition} (hm : m.mutex = true) (ht : m.taskHandle = false)
    (hp : chooseUpdatePartition f = some p) (hf : ∀ n, f.answer n = true) :
    (otaManagerStartStreamingUpdate f n m).1 = true := by
  simp [otaManagerStartStreamingUpdate, hm, ht, hp, Manager.call, hf]

/-- A chunk that is written is passed on as it is; a chunk that is refused was passed on as well,
and ends the update. -/
theorem write_calls {data : Bytes} (hne : data ≠ []) (f : Flash) (m : Manager) :
    (otaManagerWriteStreamingChunk f data m).2.calls =
      m.calls ++ .otaWrite data ::
        (if (otaManagerWriteStreamingChunk f data m).1 = true then [] else [.otaAbort]) := by
  cases hans : f.answer m.calls.length with
  | false => simp [otaManagerWriteStreamingChunk, hne, Manager.call, hans, Manager.abort]
  | true =>
    by_cases hexp : 0 < m.expectedSize
    · simp [otaManagerWriteStreamingChunk, hne, Manager.call, hans, hexp]
    · simp [otaManagerWriteStreamingChunk, hne, Manager.call, hans, hexp]

/-- With a flash that says yes, a chunk is written. -/
theorem write_ok {data : Bytes} (hne : data ≠ []) (hf : ∀ n, f.answer n = true) (m : Manager) :
    (otaManagerWriteStreamingChunk f data m).1 = true := by
  by_cases hexp : 0 < m.expectedSize
  · simp [otaManagerWriteStreamingChunk, hne, Manager.call, hf, hexp]
  · simp [otaManagerWriteStreamingChunk, hne, Manager.call, hf, hexp]

theorem abort_calls (f : Flash) (m : Manager) : (m.abort f).calls = m.calls ++ [.otaAbort] := rfl

/-- Finishing asks for the end of the image, and then for nothing but the boot partition. -/
theorem finish_calls (f : Flash) (m : Manager) :
    ∃ rest, (otaManagerFinishStreamingUpdate f m).2.calls = m.calls ++ .otaEnd :: rest ∧
      ∀ c ∈ rest, ∃ p, c = .setBootPartition p := by
  cases hend : f.answer m.calls.length with
  | false =>
    exact ⟨[], by simp [otaManagerFinishStreamingUpdate, Manager.call, hend,
      Manager.finishFailed], fun _ hc => absurd hc List.not_mem_nil⟩
  | true =>
    cases hp : m.updatePartition with
    | none =>
      exact ⟨[], by simp [otaManagerFinishStreamingUpdate, Manager.call, hend, hp,
        Manager.finishFailed], fun _ hc => absurd hc List.not_mem_nil⟩
    | some p =>
      refine ⟨[.setBootPartition p], ?_, fun c hc => ⟨p, List.mem_singleton.1 hc⟩⟩
      cases hset : f.answer (m.calls.length + 1) with
      | false =>
        simp [otaManagerFinishStreamingUpdate, Manager.call, hend, hp, hset,
          Manager.finishFailed]
      | true => simp [otaManagerFinishStreamingUpdate, Manager.call, hend, hp, hset]

end GroundTruth.Ota
