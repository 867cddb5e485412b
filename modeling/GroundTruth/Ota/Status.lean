/-
# The status of an update

`ota_manager_get_status` reports one variable.  The manager writes it when an update begins, ends
or fails; the upload handler of the web server ends an update by itself in five places, with
`esp_ota_abort`, and does not write it; and `ota_manager_init`, which the got-IP handler calls again
after every link flap, sets it to idle.

The web server has one task, so no other request is served while an upload is; the download task
and the network events go on beside it.  The handler is therefore a machine of its own here, one
call at a time:

* `upload_refines`: left alone, the machine does what `uploadFirmware` computes;
* `Told.step`, `status_consistent`: between requests the status is `OTA_STATUS_IN_PROGRESS` just
  when an update is running, as long as the handler does not give up an update that is still
  reported, `ota_manager_init` does not run under a download, and no download that has been
  accepted is still in `esp_https_ota_begin`.
-/
import GroundTruth.Ota.Exclusion
import GroundTruth.Ota.Upload

namespace GroundTruth.Ota

open GroundTruth.Lib

/-! ## 1. The upload handler, step by step -/

/-- Where the handler stands once the update has been started. -/
inductive UploadPhase
  /-- with the data that came with the part headers -/
  | begun (data : Bytes) (rs : List Recv)
  /-- before the chunk buffer is allocated -/
  | allocating (total : Nat) (rs : List Recv)
  /-- in the loop over the chunks -/
  | streaming (mem : Bytes) (total timeouts : Nat) (rs : List Recv)
  /-- after the loop -/
  | streamed (total : Nat)
  | finishing
  /-- `ota_manager_finish_streaming_update` is about to restart the device -/
  | rebooting
  deriving DecidableEq, Repr

structure Upload where
  markers : Markers
  contentLen : Nat
  /-- the chunk buffer, if it can be allocated -/
  chunkBuffer : Option Bytes
  handle : Nat

/-- What a step of the handler leads to. -/
inductive Progress
  | going (p : UploadPhase)
  | returned (r : Reply)
  deriving DecidableEq, Repr

/-- Write a chunk, unless there is nothing in it. -/
def System.writeChunk (f : Flash) (handle : Nat) (data : Bytes) (s : System) :
    Option (Bool × System) :=
  if data = [] then some (true, s) else s.write f handle data

/-- `httpd_req_recv` returns 0 in the loop. -/
def uploadClosed (f : Flash) (u : Upload) (total : Nat) (s : System) : System × Progress :=
  if 0 < expectedFirmwareBytes u.contentLen ∧
      minExpected (expectedFirmwareBytes u.contentLen) ≤ total then
    (s, .going (.streamed total))
  else
    (s.abort f u.handle, .returned (sendJsonError "Connection closed before upload completed" 500))

/-- The handler takes a step. -/
def uploadStep (f : Flash) (u : Upload) : UploadPhase → System → Option (System × Progress)
  | .begun data rs, s =>
    (s.writeChunk f u.handle (scanInitial u.markers data).1).map fun (ok, s) =>
      if ok = false then (s, .returned (sendJsonError "Failed to write firmware data" 500))
      else if (scanInitial u.markers data).2 = true then (s, .going .finishing)
      else (s, .going (.allocating data.length rs))
  | .allocating total rs, s =>
    match u.chunkBuffer with
    | none => some (s.abort f u.handle, .returned (sendJsonError "Failed to allocate memory" 500))
    | some heap => some (s, .going (.streaming heap total 0 rs))
  | .streaming _ total _ [], s => some (uploadClosed f u total s)
  | .streaming _ total _ (.closed :: _), s => some (uploadClosed f u total s)
  | .streaming mem total timeouts (.timeout :: rs), s =>
    if maxTimeouts < timeouts + 1 then
      some (s.abort f u.handle, .returned (sendJsonError "Upload timeout - connection too slow" 408))
    else some (s, .going (.streaming mem total (timeouts + 1) rs))
  | .streaming _ _ _ (.error :: _), s =>
    some (s.abort f u.handle, .returned (sendJsonError "Connection error during upload" 500))
  | .streaming mem total _ (.data bs :: rs), s =>
    let scan := scanChunk u.markers (received mem bs) bs.length
    (s.writeChunk f u.handle scan.1).map fun (ok, s) =>
      if ok = false then (s, .returned (sendJsonError "Failed to write firmware data" 500))
      else if scan.2 = true then (s, .going (.streamed (sizeT (total + scan.1.length))))
      else
        (s, .going (.streaming (received mem bs) (sizeT (total + scan.1.length)) 0 rs))
  | .streamed total, s =>
    if 0 < u.contentLen ∧ 0 < expectedFirmwareBytes u.contentLen ∧
        total < minExpected (expectedFirmwareBytes u.contentLen) then
      some (s.abort f u.handle,
        .returned (sendJsonError "Upload incomplete - connection may have been interrupted" 400))
    else some (s, .going .finishing)
  | .finishing, s =>
    (s.finish f u.handle).map fun (ok, s) =>
      (s, if ok = true then .going .rebooting else .returned .notFinished)
  | .rebooting, _ => none

/-! ## 2. The device -/

/-- The task is in the middle of an update: it has begun, and has neither finished nor failed. -/
def Task.begun : Task → Bool
  | .url p => p == .performing || p == .finishing
  | .data _ p =>
    match p with
    | .writing _ _ => true
    | .settingBoot _ => true
    | _ => false

/-- The update has been accepted, and `esp_https_ota_begin` or `esp_ota_begin` has not returned. -/
def Task.beginning : Task → Bool
  | .url p => p == .created
  | .data _ p => p == .created

/-- The task has written or is about to write the partition. -/
def Task.running (t : Task) : Bool := t.beginning || t.begun

/-- The update manager with the web server and the network events. -/
structure Device where
  system : System
  /-- the upload that is being served -/
  handler : Option (Upload × UploadPhase)
  /-- `s_services_initialized` -/
  servicesInitialized : Bool

def Device.powerOn : Device := ⟨.powerOn, none, false⟩

/-- What can happen. -/
inductive DeviceEvent
  /-- `IP_EVENT_ETH_GOT_IP`; `netif` says that the handler finds a netif -/
  | gotIp (netif : Bool) (r : Resources)
  /-- `ETHERNET_EVENT_DISCONNECTED` -/
  | disconnected
  /-- a request with a file in it -/
  | upload (mem : Memory) (contentType : Bytes) (req : Request)
  /-- a step of the upload handler -/
  | handler
  /-- a request with a URL in it -/
  | url (r : Resources) (url : Option Bytes)
  /-- a step of the download task -/
  | task (i : Nat) (a : TaskAnswer)
  | restart

/-- The part of the handler that comes before the update is started: the boundary and the data
that came with the part headers, or the reply. -/
def uploadHeader (f : Flash) (mem : Memory) (contentType : Bytes) (req : Request) :
    Except Reply (Markers × Bytes × List Recv) :=
  if 0 < req.contentLen ∧ maxFirmwareSize f < req.contentLen then
    .error (sendJsonError "File too large for OTA partition" 400)
  else
    match extractBoundary contentType with
    | none => .error (sendJsonError "Invalid multipart data: no boundary" 400)
    | some boundary =>
      if mem.headerBuffer = false then .error (sendJsonError "Failed to allocate memory" 500)
      else
        match readHeader 0 [] req.recvs with
        | .failed httpStatus message => .error (sendJsonError message httpStatus)
        | .found buf rest =>
          match headerLen buf with
          | none => .error (sendJsonError "Invalid multipart format" 400)
          | some len => .ok (markers boundary, buf.drop len, rest)

/-- The upload handler up to the start of the update. -/
def uploadRequest (f : Flash) (mem : Memory) (contentType : Bytes) (req : Request)
    (d : Device) : Option Device :=
  match uploadHeader f mem contentType req with
  | .error _ => some d
  | .ok (b, data, rs) =>
    let op := Op.startStreamingUpdate (expectedFirmwareBytes req.contentLen)
    (op.run f .good d.system.guarded).map fun (ok, g) =>
      { d with
        system := d.system.returned op ok g
        handler :=
          if ok = true then
            some (⟨b, req.contentLen, mem.chunkBuffer, g.manager.calls.length⟩, .begun data rs)
          else none }

def deviceStep (f : Flash) (d : Device) : DeviceEvent → Option Device
  | .gotIp netif r =>
    if netif = true ∧ d.servicesInitialized = false then
      (d.system.guarded.init r).map fun (_, g) =>
        { d with system := { d.system with guarded := g }, servicesInitialized := true }
    else some d
  | .disconnected => some { d with servicesInitialized := false }
  | .upload mem contentType req =>
    if d.handler.isSome = true then none else uploadRequest f mem contentType req d
  | .handler =>
    d.handler.bind fun (u, p) =>
      (uploadStep f u p d.system).map fun (s, progress) =>
        match progress with
        | .going p => { d with system := s, handler := some (u, p) }
        | .returned _ => { d with system := s, handler := none }
  | .url r url =>
    if d.handler.isSome = true then none
    else (systemStep f d.system (.call r (.startUpdate url))).map fun s => { d with system := s }
  | .task i a => (systemStep f d.system (.task i a)).map fun s => { d with system := s }
  | .restart => some .powerOn

/-- An update that has written or is about to write the partition is running. -/
def System.Running (s : System) : Prop := s.streams ≠ [] ∨ ∃ t ∈ s.tasks, t.running = true

/-- `ota_manager_get_status` reports `OTA_STATUS_IN_PROGRESS`. -/
def System.InProgress (s : System) : Prop := s.guarded.manager.info.status = .inProgress

/-- Between requests the status is right. -/
def Consistent (d : Device) : Prop :=
  d.handler = none → (d.system.InProgress ↔ d.system.Running)

/-! ## 3. The handler left alone -/

/-- The upload handler as a machine. -/
def uploadMachine (f : Flash) (u : Upload) : System × Progress → Unit → Option (System × Progress)
  | (s, .going p), _ => uploadStep f u p s
  | (_, .returned _), _ => none

/-- The reply of a handler that has come to its end. -/
def Progress.reply : Progress → Option Reply
  | .going .rebooting => some .ok
  | .going _ => none
  | .returned r => some r

variable {f : Flash} {u : Upload} {s s' : System}

theorem write_mutex (f : Flash) (data : Bytes) (m : Manager) :
    (otaManagerWriteStreamingChunk f data m).2.mutex = m.mutex := by
  unfold otaManagerWriteStreamingChunk
  split
  · rfl
  · cases hans : f.answer m.calls.length with
    | false => simp [Manager.call, hans, Manager.abort]
    | true =>
      simp only [Manager.call, hans, Bool.true_eq_false, if_false]
      split <;> rfl

/-- A chunk is written as the streaming half says. -/
theorem writeChunk_refines (hav : s.guarded.Available) (f : Flash) (handle : Nat)
    (data : Bytes) :
    ∃ s', s.writeChunk f handle data =
        some ((writeChunk f data s.guarded.manager).1, s') ∧ s'.guarded.Available ∧
      s'.guarded.manager = (writeChunk f data s.guarded.manager).2 := by
  unfold System.writeChunk writeChunk
  by_cases hne : data = []
  · rw [if_pos hne, if_pos hne]
    exact ⟨s, rfl, hav, rfl⟩
  · rw [if_neg hne, if_neg hne, System.write, writeStreaming_manager hav f hne, Option.map_some]
    refine ⟨_, rfl, ⟨?_, Lock.cycle_free.2 hav.2⟩, rfl⟩
    rw [write_mutex]
    exact hav.1

/-- The machine stands where the loop has ended. -/
def StreamExit.At (y : System × Progress) : StreamExit → Prop
  | .complete total m => y.2 = .going (.streamed total) ∧ y.1.guarded.manager = m
  | .failed httpStatus message m =>
    y.2 = .returned (sendJsonError message httpStatus) ∧ y.1.guarded.manager = m

theorem uploadClosed_refines (hav : s.guarded.Available) (f : Flash) (u : Upload)
    (total : Nat) :
    (uploadClosed f u total s).1.guarded.Available ∧
      (connectionClosed f (expectedFirmwareBytes u.contentLen) total
        s.guarded.manager).At (uploadClosed f u total s) := by
  unfold uploadClosed connectionClosed
  split
  · exact ⟨hav, rfl, rfl⟩
  · exact ⟨hav, rfl, rfl⟩

theorem reach_one {y : System × Progress} {p : UploadPhase} (h : uploadStep f u p s = some y) :
    Reach (uploadMachine f u) (s, .going p) y :=
  Run.tail (e := ()) (.refl _) trivial h

/-- The step that writes the first data, given how the write ends. -/
theorem begun_step {data : Bytes} (rs : List Recv) {ok : Bool}
    (h : s.writeChunk f u.handle (scanInitial u.markers data).1 = some (ok, s')) :
    uploadStep f u (.begun data rs) s = some
      (if ok = false then (s', .returned (sendJsonError "Failed to write firmware data" 500))
      else if (scanInitial u.markers data).2 = true then (s', .going .finishing)
      else (s', .going (.allocating data.length rs))) := by
  rw [uploadStep, h]
  rfl

/-- The step that writes a chunk in the loop. -/
theorem streaming_step {mem bs : Bytes} (total timeouts : Nat) (rs : List Recv) {ok : Bool}
    (h : s.writeChunk f u.handle (scanChunk u.markers (received mem bs) bs.length).1 =
      some (ok, s')) :
    uploadStep f u (.streaming mem total timeouts (.data bs :: rs)) s = some
      (if ok = false then (s', .returned (sendJsonError "Failed to write firmware data" 500))
      else if (scanChunk u.markers (received mem bs) bs.length).2 = true then
        (s', .going (.streamed
          (sizeT (total + (scanChunk u.markers (received mem bs) bs.length).1.length))))
      else
        (s', .going (.streaming (received mem bs)
          (sizeT (total + (scanChunk u.markers (received mem bs) bs.length).1.length)) 0 rs))) := by
  rw [uploadStep]
  dsimp only
  rw [h]
  rfl

/-- **The loop**, step by step, ends where `streamChunks` says. -/
theorem streaming_refines (f : Flash) (u : Upload) (rs : List Recv) (mem : Bytes)
    (total timeouts : Nat) (s : System) (hav : s.guarded.Available) :
    ∃ y, Reach (uploadMachine f u) (s, .going (.streaming mem total timeouts rs)) y ∧
      y.1.guarded.Available ∧
      (streamChunks f u.markers (expectedFirmwareBytes u.contentLen) mem total timeouts
        s.guarded.manager rs).At y := by
  induction rs generalizing mem total timeouts s with
  | nil => exact ⟨_, reach_one rfl, uploadClosed_refines hav f u total⟩
  | cons r rs ih =>
    cases r with
    | closed => exact ⟨_, reach_one rfl, uploadClosed_refines hav f u total⟩
    | error => exact ⟨_, reach_one rfl, hav, rfl, rfl⟩
    | timeout =>
      rw [streamChunks]
      by_cases hmany : maxTimeouts < timeouts + 1
      · rw [if_pos hmany]
        exact ⟨_, reach_one (if_pos hmany), hav, rfl, rfl⟩
      · rw [if_neg hmany]
        obtain ⟨y, hy, hrest⟩ := ih mem total (timeouts + 1) s hav
        have hstep : uploadStep f u (.streaming mem total timeouts (.timeout :: rs)) s =
            some (s, .going (.streaming mem total (timeouts + 1) rs)) := if_neg hmany
        exact ⟨y, (reach_one hstep).trans hy, hrest⟩
    | data bs =>
      obtain ⟨s', hwrite, hav', hm'⟩ := writeChunk_refines hav f u.handle
        (scanChunk u.markers (received mem bs) bs.length).1
      have hstep := streaming_step total timeouts rs hwrite
      rw [streamChunks]
      by_cases hw : (writeChunk f (scanChunk u.markers (received mem bs) bs.length).1
          s.guarded.manager).1 = false
      · rw [if_pos hw] at hstep
        simp only [if_pos hw]
        exact ⟨_, reach_one hstep, hav', rfl, hm'⟩
      · rw [if_neg hw] at hstep
        simp only [if_neg hw]
        by_cases hseen : (scanChunk u.markers (received mem bs) bs.length).2 = true
        · rw [if_pos hseen] at hstep
          rw [if_pos hseen]
          exact ⟨_, reach_one hstep, hav', rfl, hm'⟩
        · rw [if_neg hseen] at hstep
          rw [if_neg hseen, ← hm']
          obtain ⟨y, hy, hrest⟩ := ih (received mem bs)
            (sizeT (total + (scanChunk u.markers (received mem bs) bs.length).1.length)) 0 s' hav'
          exact ⟨y, (reach_one hstep).trans hy, hrest⟩

theorem finishing_refines (f : Flash) (u : Upload) (hav : s.guarded.Available) :
    ∃ y, Reach (uploadMachine f u) (s, .going .finishing) y ∧
      y.2.reply = some (finishUpload f s.guarded.manager).1 ∧
      y.1.guarded.manager = (finishUpload f s.guarded.manager).2 := by
  have hstep : uploadStep f u .finishing s = _ :=
    congrArg (Option.map _) (congrArg (Option.map _) (finishStreaming_manager hav f))
  refine ⟨_, reach_one hstep, ?_, rfl⟩
  unfold finishUpload
  dsimp only
  split <;> rfl

/-- **The handler, step by step**, ends as `uploadFirmware` says: with the same reply, and with the
same calls of the flash and the same status. -/
theorem upload_refines (f : Flash) (u : Upload) (data : Bytes) (rs : List Recv)
    (hav : s.guarded.Available) :
    ∃ y, Reach (uploadMachine f u) (s, .going (.begun data rs)) y ∧
      y.2.reply = some (uploadFirmware f ⟨true, u.chunkBuffer⟩ u.markers u.contentLen data rs
        s.guarded.manager).1 ∧
      y.1.guarded.manager = (uploadFirmware f ⟨true, u.chunkBuffer⟩ u.markers u.contentLen data
        rs s.guarded.manager).2 := by
  obtain ⟨s', hwrite, hav', hm'⟩ := writeChunk_refines hav f u.handle
    (scanInitial u.markers data).1
  have hstep := begun_step rs hwrite
  unfold uploadFirmware
  dsimp only
  by_cases hw : (writeChunk f (scanInitial u.markers data).1 s.guarded.manager).1 = false
  · rw [if_pos hw] at hstep ⊢
    exact ⟨_, reach_one hstep, rfl, hm'⟩
  rw [if_neg hw] at hstep ⊢
  rw [← hm']
  by_cases hseen : (scanInitial u.markers data).2 = true
  · rw [if_pos hseen] at hstep ⊢
    obtain ⟨y, hy, hrest⟩ := finishing_refines f u hav'
    exact ⟨y, (reach_one hstep).trans hy, hrest⟩
  rw [if_neg hseen] at hstep ⊢
  cases hheap : u.chunkBuffer with
  | none =>
    have halloc : uploadStep f u (.allocating data.length rs) s' = some (s'.abort f u.handle,
        .returned (sendJsonError "Failed to allocate memory" 500)) := by simp only [uploadStep, hheap]
    exact ⟨_, (reach_one hstep).trans (reach_one halloc), rfl, rfl⟩
  | some heap =>
    have halloc : uploadStep f u (.allocating data.length rs) s' =
        some (s', .going (.streaming heap data.length 0 rs)) := by
      simp only [uploadStep, hheap]
    obtain ⟨⟨s'', p⟩, hy, hav'', hat⟩ := streaming_refines f u rs heap data.length 0 s' hav'
    have hrun := ((reach_one hstep).trans (reach_one halloc)).trans hy
    dsimp only
    cases hexit : streamChunks f u.markers (expectedFirmwareBytes u.contentLen) heap data.length
        0 s'.guarded.manager rs with
    | failed httpStatus message m =>
      rw [hexit] at hat
      obtain ⟨rfl, hm⟩ := hat
      exact ⟨_, hrun, rfl, hm⟩
    | complete total m =>
      rw [hexit] at hat
      obtain ⟨rfl, rfl⟩ := hat
      rw [afterStream]
      split
      · rename_i hlow
        exact ⟨_, hrun.trans (reach_one (if_pos hlow)), rfl, rfl⟩
      · rename_i hlow
        obtain ⟨y, hy, hrest⟩ := finishing_refines f u hav''
        exact ⟨y, (hrun.trans (reach_one (if_neg hlow))).trans hy, hrest⟩

/-- The request is refused before anything is asked of the manager, or the update is started. -/
theorem apiOtaUpdateUpload_header (f : Flash) (mem : Memory) (contentType : Bytes)
    (req : Request) (m : Manager) :
    apiOtaUpdateUpload f mem contentType req m =
      match uploadHeader f mem contentType req with
      | .error reply => (reply, m)
      | .ok (b, data, rs) =>
        let s := otaManagerStartStreamingUpdate f (expectedFirmwareBytes req.contentLen) m
        if s.1 = false then
          (sendJsonError "Failed to start OTA update. Check device logs for details." 500, s.2)
        else uploadFirmware f mem b req.contentLen data rs s.2 := by
  unfold apiOtaUpdateUpload uploadHeader
  split
  · rfl
  · cases extractBoundary contentType with
    | none => rfl
    | some boundary =>
      dsimp only
      split
      · rfl
      · cases readHeader 0 [] req.recvs with
        | failed httpStatus message => rfl
        | found buf rest =>
          dsimp only
          cases headerLen buf <;> rfl

/-! ## 4. What a step does to the status -/

/-- The step that the handler takes next ends the update behind the manager's back. -/
def GivesUp (u : Upload) : UploadPhase → Prop
  | .allocating _ _ => u.chunkBuffer = none
  | .streaming _ total _ [] =>
    ¬(0 < expectedFirmwareBytes u.contentLen ∧
      minExpected (expectedFirmwareBytes u.contentLen) ≤ total)
  | .streaming _ total _ (.closed :: _) =>
    ¬(0 < expectedFirmwareBytes u.contentLen ∧
      minExpected (expectedFirmwareBytes u.contentLen) ≤ total)
  | .streaming _ _ timeouts (.timeout :: _) => maxTimeouts < timeouts + 1
  | .streaming _ _ _ (.error :: _) => True
  | .streamed total =>
    0 < u.contentLen ∧ 0 < expectedFirmwareBytes u.contentLen ∧
      total < minExpected (expectedFirmwareBytes u.contentLen)
  | _ => False

theorem write_error {data : Bytes} {m : Manager} (hne : data ≠ [])
    (h : (otaManagerWriteStreamingChunk f data m).1 = false) :
    (otaManagerWriteStreamingChunk f data m).2.info.status = .error := by
  unfold otaManagerWriteStreamingChunk at *
  rw [if_neg hne] at h ⊢
  cases hans : f.answer m.calls.length with
  | false => simp [Manager.call, hans]
  | true =>
    simp only [Manager.call, hans, Bool.true_eq_false, if_false] at h
    split at h <;> cases h

theorem finish_error {m : Manager} (h : (otaManagerFinishStreamingUpdate f m).1 = false) :
    (otaManagerFinishStreamingUpdate f m).2.info.status = .error := by
  unfold otaManagerFinishStreamingUpdate at *
  cases hend : f.answer m.calls.length with
  | false => simp [Manager.call, hend, Manager.finishFailed]
  | true =>
    cases hp : m.updatePartition with
    | none => simp [Manager.call, hend, hp, Manager.finishFailed]
    | some p =>
      cases hset : f.answer (m.calls.length + 1) with
      | false => simp [Manager.call, hend, hp, hset, Manager.finishFailed]
      | true => simp [Manager.call, hend, hp, hset] at h

/-- A chunk is written and the handle stays open, or the update has ended with an error. -/
theorem writeChunk_cases {handle : Nat} {data : Bytes} {ok : Bool} (hs : s.streams = [handle])
    (h : s.writeChunk f handle data = some (ok, s')) :
    s'.tasks = s.tasks ∧
      (ok = true ∧ s'.streams = [handle] ∨
        ok = false ∧ s'.streams = [] ∧ ¬s'.InProgress) := by
  unfold System.writeChunk at h
  split at h
  · obtain ⟨rfl, rfl⟩ := Prod.mk.inj (Option.some.inj h)
    exact ⟨rfl, Or.inl ⟨rfl, hs⟩⟩
  · rename_i hne
    obtain ⟨⟨ok', g'⟩, hwrite, heq⟩ := Option.map_eq_some_iff.1 h
    obtain ⟨rfl, rfl⟩ := Prod.mk.inj heq
    obtain ⟨hok, hm⟩ := writeStreaming_some hne hwrite
    refine ⟨rfl, ?_⟩
    cases ok' with
    | true => exact Or.inl ⟨rfl, by simp [hs]⟩
    | false =>
      refine Or.inr ⟨rfl, by simp [hs, hne], ?_⟩
      simp [System.InProgress, hm, write_error hne hok.symm]

theorem finish_cases {handle : Nat} {ok : Bool} (hs : s.streams = [handle])
    (h : s.finish f handle = some (ok, s')) :
    s'.tasks = s.tasks ∧ s'.streams = [] ∧ (ok = false → ¬s'.InProgress) := by
  obtain ⟨⟨ok', g'⟩, hfinish, heq⟩ := Option.map_eq_some_iff.1 h
  obtain ⟨rfl, rfl⟩ := Prod.mk.inj heq
  obtain ⟨hok, hm⟩ := finishStreaming_some hfinish
  refine ⟨rfl, by simp [hs], ?_⟩
  rintro rfl
  simp [System.InProgress, hm, finish_error hok.symm]

/-- The handle that is open, for the handler. -/
def openHandle (u : Upload) : UploadPhase → List Nat
  | .rebooting => []
  | _ => [u.handle]

/-- What a step of the handler leads to: it has its handle open, or it has returned, and no update
is reported. -/
def Progress.Sound (u : Upload) (s : System) : Progress → Prop
  | .going p => s.streams = openHandle u p
  | .returned _ => s.streams = [] ∧ ¬s.InProgress

theorem abort_sound (hs : s.streams = [u.handle]) (hg : ¬s.InProgress) (r : Reply) :
    (s.abort f u.handle).tasks = s.tasks ∧
      Progress.Sound u (s.abort f u.handle) (.returned r) :=
  ⟨rfl, by simp [System.abort, hs], hg⟩

theorem uploadClosed_sound (hs : s.streams = [u.handle]) {total : Nat}
    (hg : ¬(0 < expectedFirmwareBytes u.contentLen ∧
      minExpected (expectedFirmwareBytes u.contentLen) ≤ total) → ¬s.InProgress) :
    (uploadClosed f u total s).1.tasks = s.tasks ∧
      Progress.Sound u (uploadClosed f u total s).1 (uploadClosed f u total s).2 := by
  unfold uploadClosed
  split
  · exact ⟨rfl, hs⟩
  · rename_i hshort
    exact abort_sound hs (hg hshort) _

/-- After a write the handler goes on with its handle, in one phase or the other, or it returns and
the update is not reported. -/
theorem written_sound {data : Bytes} {found : Bool} {p₁ p₂ : UploadPhase} {r : Reply}
    {progress : Progress} (hs : s.streams = [u.handle]) (hopen₁ : openHandle u p₁ = [u.handle])
    (hopen₂ : openHandle u p₂ = [u.handle])
    (h : (s.writeChunk f u.handle data).map (fun (ok, s) =>
      if ok = false then (s, Progress.returned r)
      else if found = true then (s, .going p₁) else (s, .going p₂)) = some (s', progress)) :
    s'.tasks = s.tasks ∧ progress.Sound u s' := by
  obtain ⟨⟨ok, s₁⟩, hwrite, heq⟩ := Option.map_eq_some_iff.1 h
  obtain ⟨htasks, ⟨rfl, hopen⟩ | ⟨rfl, hclosed, hstatus⟩⟩ := writeChunk_cases hs hwrite
  · cases found with
    | true =>
      obtain ⟨rfl, rfl⟩ := Prod.mk.inj heq
      exact ⟨htasks, hopen.trans hopen₁.symm⟩
    | false =>
      obtain ⟨rfl, rfl⟩ := Prod.mk.inj heq
      exact ⟨htasks, hopen.trans hopen₂.symm⟩
  · obtain ⟨rfl, rfl⟩ := Prod.mk.inj heq
    exact ⟨htasks, hclosed, hstatus⟩

/-- **One step of the handler.**  If it gives up only an update that is not reported, no update is
reported when it has returned. -/
theorem uploadStep_sound {p : UploadPhase} {progress : Progress}
    (hs : s.streams = openHandle u p) (hg : GivesUp u p → ¬s.InProgress)
    (h : uploadStep f u p s = some (s', progress)) :
    s'.tasks = s.tasks ∧ progress.Sound u s' := by
  cases p with
  | begun data rs => exact written_sound hs rfl rfl h
  | allocating total rs =>
    rw [uploadStep] at h
    cases hheap : u.chunkBuffer with
    | none =>
      rw [hheap] at h
      obtain ⟨rfl, rfl⟩ := Prod.mk.inj (Option.some.inj h)
      exact abort_sound hs (hg hheap) _
    | some heap =>
      rw [hheap] at h
      obtain ⟨rfl, rfl⟩ := Prod.mk.inj (Option.some.inj h)
      exact ⟨rfl, hs⟩
  | streaming mem total timeouts rs =>
    cases rs with
    | nil =>
      obtain ⟨rfl, rfl⟩ := Prod.mk.inj (Option.some.inj h)
      exact uploadClosed_sound hs hg
    | cons r rs =>
      cases r with
      | closed =>
        obtain ⟨rfl, rfl⟩ := Prod.mk.inj (Option.some.inj h)
        exact uploadClosed_sound hs hg
      | error =>
        obtain ⟨rfl, rfl⟩ := Prod.mk.inj (Option.some.inj h)
        exact abort_sound hs (hg trivial) _
      | timeout =>
        rw [uploadStep] at h
        split at h
        · rename_i hmany
          obtain ⟨rfl, rfl⟩ := Prod.mk.inj (Option.some.inj h)
          exact abort_sound hs (hg hmany) _
        · obtain ⟨rfl, rfl⟩ := Prod.mk.inj (Option.some.inj h)
          exact ⟨rfl, hs⟩
      | data bs => exact written_sound hs rfl rfl h
  | streamed total =>
    rw [uploadStep] at h
    split at h
    · rename_i hlow
      obtain ⟨rfl, rfl⟩ := Prod.mk.inj (Option.some.inj h)
      exact abort_sound hs (hg hlow) _
    · obtain ⟨rfl, rfl⟩ := Prod.mk.inj (Option.some.inj h)
      exact ⟨rfl, hs⟩
  | finishing =>
    obtain ⟨⟨ok, s₁⟩, hfinish, heq⟩ := Option.map_eq_some_iff.1 h
    obtain ⟨htasks, hclosed, hstatus⟩ := finish_cases hs hfinish
    obtain ⟨rfl, rfl⟩ := Prod.mk.inj heq
    cases ok with
    | true => exact ⟨htasks, hclosed⟩
    | false => exact ⟨htasks, hclosed, hstatus rfl⟩
  | rebooting => cases h

/-- **One step of the download.**  The status says whether the task has begun. -/
theorem otaTask_status {p : UrlPhase} {a : UrlAnswer} {t : TaskStep UrlPhase} {m : Manager}
    (h : otaTask p a = some t)
    (hm : m.info.status = .inProgress ↔ (Task.url p).begun = true) :
    (t.assign.getD id m).info.status = .inProgress ↔ (Task.url t.phase).begun = true := by
  unfold otaTask at h
  split at h
  case h_10 => cases h
  all_goals
    obtain rfl := Option.some.inj h
    simp_all [Task.begun, Manager.failedAtOnce, Manager.failed, Manager.begun,
      Manager.completed, Manager.endTask, Manager.downloaded]

/-! ## 5. Runs -/

/-- The handler does not give up an update that is still reported, and the manager is not
initialised again under a download that has begun. -/
def Undisturbed (d : Device) : DeviceEvent → Prop
  | .handler =>
    ∀ u p, d.handler = some (u, p) → GivesUp u p → ¬d.system.InProgress
  | .gotIp netif _ =>
    netif = true → d.servicesInitialized = false → ∀ t ∈ d.system.tasks, t.begun = false
  | _ => True

/-- What holds of the device whenever every step so far has been undisturbed. -/
structure Told (d : Device) : Prop where
  alone : Alone d.system
  urls : ∀ t ∈ d.system.tasks, ∃ p, t = .url p
  idle : d.handler = none → d.system.streams = [] ∧
    (d.system.InProgress ↔ ∃ t ∈ d.system.tasks, t.begun = true)
  busy : ∀ u p, d.handler = some (u, p) →
    d.system.tasks = [] ∧ d.system.streams = openHandle u p

variable {d d' : Device}

theorem begun_of_beginning {t : Task} (h : t.beginning = true) : t.begun = false := by
  cases t with
  | url p => cases p <;> first | rfl | cases h
  | data i p => cases p <;> first | rfl | cases h

/-- A task is the only one. -/
theorem tasks_of_mem {s : System} (hs : Alone s) {t : Task} (ht : t ∈ s.tasks) :
    s.tasks = [t] := by
  have hlen := hs.one
  have hpos := List.length_pos_of_mem ht
  obtain ⟨t₁, ht₁⟩ := List.length_eq_one_iff.1 (by omega : s.tasks.length = 1)
  rw [ht₁] at ht ⊢
  rw [List.mem_singleton.1 ht]

/-- While there is a task, no request is being served. -/
theorem Told.free_of_task (hd : Told d) {t : Task} (ht : t ∈ d.system.tasks) :
    d.handler = none := by
  cases hh : d.handler with
  | none => rfl
  | some up =>
    rw [(hd.busy up.1 up.2 hh).1] at ht
    exact absurd ht List.not_mem_nil

theorem Told.powerOn : Told .powerOn where
  alone := ⟨Nat.zero_le 1, fun h => absurd rfl h⟩
  urls := fun _ h => absurd h List.not_mem_nil
  idle := fun _ => ⟨rfl, iff_of_false (by decide : ¬OtaStatus.idle = .inProgress)
    fun ⟨_, ht, _⟩ => absurd ht List.not_mem_nil⟩
  busy := fun _ _ h => by cases h

/-- Initialising leaves the status idle, if it does anything. -/
theorem init_cases {r : Resources} {g g' : Guarded} {ok : Bool}
    (h : g.init r = some (ok, g')) : g' = g ∨ g'.manager.info.status = .idle := by
  unfold Guarded.init at h
  split at h
  · obtain ⟨-, rfl⟩ := Prod.mk.inj (Option.some.inj h)
    exact Or.inl rfl
  · obtain ⟨g₁, hg₁, heq⟩ := Option.map_eq_some_iff.1 h
    obtain ⟨-, rfl⟩ := Prod.mk.inj heq
    obtain ⟨-, rfl⟩ := locked_some hg₁
    exact Or.inr rfl

theorem Told.gotIp {netif : Bool} {r : Resources} (hd : Told d)
    (hg : Undisturbed d (.gotIp netif r)) (h : deviceStep f d (.gotIp netif r) = some d') :
    Told d' := by
  rw [deviceStep] at h
  split at h
  · rename_i hc
    obtain ⟨⟨ok, g'⟩, hinit, rfl⟩ := Option.map_eq_some_iff.1 h
    have hhandle := run_taskHandle (f := f) (rfl : Op.takesHandle .init = false) hinit
    refine ⟨⟨hd.alone.one, fun htasks => ?_⟩, hd.urls, fun hnone => ?_, hd.busy⟩
    · rw [hhandle, hd.alone.handle htasks, Bool.true_or]
    · obtain ⟨hstreams, hstatus⟩ := hd.idle hnone
      refine ⟨hstreams, ?_⟩
      rcases init_cases hinit with rfl | hidle
      · exact hstatus
      · refine iff_of_false (by simp [System.InProgress, hidle]) ?_
        rintro ⟨t, ht, hrunning⟩
        rw [hg hc.1 hc.2 t ht] at hrunning
        cases hrunning
  · obtain rfl := Option.some.inj h
    exact hd

/-- A streaming update that is not started leaves the status alone. -/
theorem startStreaming_status {g g' : Guarded} {n : Nat}
    (h : g.startStreamingUpdate f n = some (false, g')) : g'.manager.info = g.manager.info := by
  by_cases hav : g.Available
  · rw [startStreaming_manager hav, Option.some.injEq, Prod.mk.injEq] at h
    obtain ⟨hok, rfl⟩ := h
    dsimp only
    unfold otaManagerStartStreamingUpdate at *
    split at hok
    · rw [if_pos (by assumption)]
    · split at hok
      · rw [if_neg (by assumption), if_pos (by assumption)]
      · rw [if_neg (by assumption), if_neg (by assumption)]
        cases hp : chooseUpdatePartition f with
        | none => rfl
        | some p =>
          cases hans : f.answer g.manager.calls.length with
          | false => simp [Manager.call, hans]
          | true => simp [hp, Manager.call, hans] at hok
  · unfold Guarded.startStreamingUpdate at h
    rw [take_unavailable hav] at h
    split at h
    · obtain ⟨-, rfl⟩ := Prod.mk.inj (Option.some.inj h)
      rfl
    · cases h

/-- A request is taken only while no handler runs. -/
theorem free_of_taken {answer : Option Device}
    (h : (if d.handler.isSome = true then none else answer) = some d') :
    d.handler = none ∧ answer = some d' := by
  split at h
  · cases h
  · rename_i hsome
    exact ⟨by simpa using hsome, h⟩

theorem Told.upload {mem : Memory} {contentType : Bytes} {req : Request} (hd : Told d)
    (h : deviceStep f d (.upload mem contentType req) = some d') : Told d' := by
  obtain ⟨hnone, h⟩ := free_of_taken h
  obtain ⟨hstreams, hstatus⟩ := hd.idle hnone
  unfold uploadRequest at h
  split at h
  · obtain rfl := Option.some.inj h
    exact hd
  · rename_i b data rs _
    obtain ⟨⟨ok, g'⟩, hrun, rfl⟩ := Option.map_eq_some_iff.1 h
    have halone := hd.alone.call (r := .good)
      (rfl : Op.takesHandle (.startStreamingUpdate _) = false) (fun hne => absurd hstreams hne) hrun
    cases ok with
    | false =>
      refine ⟨halone, hd.urls, fun _ => ⟨hstreams, ?_⟩, fun u p hu => by cases hu⟩
      have hinfo : g'.manager.info = d.system.guarded.manager.info :=
        startStreaming_status hrun
      simpa [System.InProgress, System.returned, hinfo] using hstatus
    | true =>
      have hnil : d.system.tasks = [] := halone.no_task_before rfl
      refine ⟨halone, hd.urls, fun hn => (by cases hn), fun u p hu => ?_⟩
      obtain ⟨rfl, rfl⟩ := Prod.mk.inj (Option.some.inj hu)
      exact ⟨hnil, by simp [System.returned, hstreams, openHandle]⟩

theorem Told.handler (hd : Told d) (hg : Undisturbed d .handler)
    (h : deviceStep f d .handler = some d') : Told d' := by
  obtain ⟨⟨u, p⟩, hu, hrest⟩ := Option.bind_eq_some_iff.1 h
  obtain ⟨⟨s', progress⟩, hstep, rfl⟩ := Option.map_eq_some_iff.1 hrest
  obtain ⟨htasks, hstreams⟩ := hd.busy u p hu
  obtain ⟨htasks', hsound⟩ := uploadStep_sound hstreams (hg u p hu) hstep
  rw [htasks] at htasks'
  cases progress with
  | going p' =>
    refine ⟨⟨?_, fun hne => absurd htasks' hne⟩, ?_, fun hn => (by cases hn), fun u₁ p₁ hu₁ => ?_⟩
    · rw [hsound, htasks']
      cases p' <;> exact Nat.le_of_ble_eq_true rfl
    · rw [htasks']
      exact fun _ ht => absurd ht List.not_mem_nil
    · obtain ⟨rfl, rfl⟩ := Prod.mk.inj (Option.some.inj hu₁)
      exact ⟨htasks', hsound⟩
  | returned r =>
    obtain ⟨hclosed, hstatus⟩ := hsound
    refine ⟨⟨?_, fun hne => absurd htasks' hne⟩, ?_, fun _ => ⟨hclosed, ?_⟩, fun u₁ p₁ hu₁ => by
      cases hu₁⟩
    · rw [hclosed, htasks']
      exact Nat.zero_le 1
    · rw [htasks']
      exact fun _ ht => absurd ht List.not_mem_nil
    · rw [htasks']
      exact iff_of_false hstatus fun ⟨_, ht, _⟩ => List.not_mem_nil ht

theorem Told.url {r : Resources} {url : Option Bytes} (hd : Told d)
    (h : deviceStep f d (.url r url) = some d') : Told d' := by
  obtain ⟨hnone, h⟩ := free_of_taken h
  obtain ⟨hstreams, hstatus⟩ := hd.idle hnone
  obtain ⟨s', hs', rfl⟩ := Option.map_eq_some_iff.1 h
  have halone := hd.alone.step (e := .call r (.startUpdate url))
    (fun hne => absurd hstreams hne) hs'
  obtain ⟨⟨ok, g'⟩, hrun, rfl⟩ := Option.map_eq_some_iff.1 hs'
  rcases startUpdate_cases (f := f) hrun with ⟨rfl, hm⟩ | ⟨-, -, rfl, hm⟩
  · refine ⟨halone, hd.urls, fun _ => ⟨hstreams, ?_⟩, fun u p hu => by simp [hnone] at hu⟩
    simpa [System.InProgress, System.returned, hm] using hstatus
  · have hnil : d.system.tasks = [] := halone.no_task_before rfl
    rw [hnil] at hstatus
    refine ⟨halone, fun t ht => ⟨.created, ?_⟩, fun _ => ⟨hstreams, ?_⟩, fun u p hu => by
      simp [hnone] at hu⟩
    · simpa [System.returned, hnil] using ht
    · simpa [System.InProgress, System.returned, hm, hnil, Task.begun] using hstatus

theorem Told.task {i : Nat} {a : TaskAnswer} (hd : Told d)
    (h : deviceStep f d (.task i a) = some d') : Told d' := by
  obtain ⟨s', hs', rfl⟩ := Option.map_eq_some_iff.1 h
  have halone := hd.alone.step (by trivial) hs'
  obtain ⟨t, hget, hrest⟩ := Option.bind_eq_some_iff.1 hs'
  obtain ⟨⟨t', g'⟩, hrun, rfl⟩ := Option.map_eq_some_iff.1 hrest
  obtain ⟨hi, hti⟩ := List.getElem?_eq_some_iff.1 hget
  have hmem : t ∈ d.system.tasks := hti ▸ List.getElem_mem hi
  have hnone : d.handler = none := hd.free_of_task hmem
  obtain ⟨hstreams, hstatus⟩ := hd.idle hnone
  -- there is one task, and it is a download
  obtain ⟨p, rfl⟩ := hd.urls t hmem
  have hone : d.system.tasks = [.url p] := tasks_of_mem hd.alone hmem
  obtain rfl : i = 0 := by
    rw [hone] at hi
    simpa using hi
  rw [hone] at hstatus
  cases a with
  | data ok => cases hrun
  | url a =>
    obtain ⟨y, hy, heq⟩ := Option.map_eq_some_iff.1 hrun
    obtain ⟨rfl, rfl⟩ := Prod.mk.inj heq
    obtain ⟨st, hst, hstrun⟩ := taskStep_some hy
    obtain ⟨hphase, -, -, hm⟩ := run_some hstrun
    have hnew := otaTask_status (m := { d.system.guarded.manager with
      calls := d.system.guarded.manager.calls ++ st.calls }) hst
      (by simpa [System.InProgress] using hstatus)
    rw [← hm, ← hphase] at hnew
    refine ⟨halone, ?_, fun _ => ⟨hstreams, ?_⟩, fun u p hu => by simp [hnone] at hu⟩
    · intro t₁ ht₁
      unfold advance at ht₁
      dsimp only at ht₁
      rw [hone] at ht₁
      split at ht₁
      · exact absurd ht₁ List.not_mem_nil
      · exact ⟨y.1, List.mem_singleton.1 ht₁⟩
    · unfold advance
      dsimp only
      rw [hone]
      split
      · rename_i hend
        refine hnew.trans (iff_of_false ?_ fun ⟨_, ht, _⟩ => List.not_mem_nil ht)
        have hended : y.1 = .ended := by simpa [Task.ended] using hend
        rw [hended]
        decide
      · refine hnew.trans ⟨fun hr => ⟨_, List.mem_singleton_self _, hr⟩, ?_⟩
        rintro ⟨t₁, ht₁, hr⟩
        rw [List.mem_singleton.1 ht₁] at hr
        exact hr

/-- **One event** keeps the status right. -/
theorem Told.step {e : DeviceEvent} (hd : Told d) (hg : Undisturbed d e)
    (h : deviceStep f d e = some d') : Told d' := by
  cases e with
  | gotIp netif r => exact hd.gotIp hg h
  | disconnected =>
    obtain rfl := Option.some.inj h
    exact ⟨hd.alone, hd.urls, hd.idle, hd.busy⟩
  | upload mem contentType req => exact hd.upload h
  | handler => exact hd.handler hg h
  | url r url => exact hd.url h
  | task i a => exact hd.task h
  | restart =>
    obtain rfl := Option.some.inj h
    exact Told.powerOn

/-- **The status of an update.**  In a run in which the handler gives up only updates that are not
reported any more, and the manager is not initialised again under a download that has begun, the
status is right in every state in which no download is still to begin, and in no other. -/
theorem status_consistent (f : Flash) (h : Run (deviceStep f) Undisturbed .powerOn d) :
    Consistent d ↔ ∀ t ∈ d.system.tasks, t.beginning = false := by
  have htold : Told d := h.invariant (fun _ _ _ hd hg hstep => hd.step hg hstep) Told.powerOn
  constructor
  · intro hc t ht
    have hnone : d.handler = none := htold.free_of_task ht
    obtain ⟨-, hstatus⟩ := htold.idle hnone
    rw [Bool.eq_false_iff]
    intro hbeginning
    have hbegun : t.begun = false := begun_of_beginning hbeginning
    -- it is running, and it is the only one, so that nothing is reported
    have hrunning : d.system.Running := Or.inr ⟨t, ht, by rw [Task.running, hbeginning]; rfl⟩
    obtain ⟨t', ht', hbegun'⟩ := hstatus.1 ((hc hnone).2 hrunning)
    rw [tasks_of_mem htold.alone ht, List.mem_singleton] at ht'
    rw [ht', hbegun] at hbegun'
    cases hbegun'
  · intro hno hnone
    obtain ⟨hstreams, hstatus⟩ := htold.idle hnone
    rw [hstatus, System.Running]
    constructor
    · rintro ⟨t, ht, hbegun⟩
      exact Or.inr ⟨t, ht, by rw [Task.running, hbegun, Bool.or_true]⟩
    · rintro (hne | ⟨t, ht, hrunning⟩)
      · exact absurd hstreams hne
      · refine ⟨t, ht, ?_⟩
        rwa [Task.running, hno t ht, Bool.false_or] at hrunning

/-! ## 6. An upload that breaks off -/

/-- An upload of which the part headers arrive, and then the connection fails. -/
def benchRequest : Request :=
  ⟨0, [.data (ascii "--b" ++ [cr, lf, cr, lf]), .error]⟩

def benchBroken : DeviceEvent :=
  .upload ⟨true, some []⟩ (ascii "multipart/form-data; boundary=b") benchRequest

def benchWilling : Flash := .willing ⟨.ota1, 8⟩

/-- A download that has begun. -/
def benchDownloading : List DeviceEvent :=
  [.gotIp true .good, .url .good (some (ascii "http://a/b")), .task 0 (.url (.begin true))]

/-- The download is reported. -/
theorem status_consistent_download :
    ∃ d, exec (deviceStep benchWilling) .powerOn benchDownloading = some d ∧ Consistent d := by
  refine ⟨_, rfl, ?_⟩
  refine (status_consistent benchWilling (exec_run ?_
    (rfl : exec _ _ benchDownloading = some _))).2 (by decide)
  refine ⟨?_, ?_⟩
  · exact fun _ _ t ht => absurd ht List.not_mem_nil
  · exact ⟨trivial, trivial, trivial⟩

/-- The upload has ended with an error reply, and the status says that it is in progress. -/
theorem upload_broken_off :
    ¬∀ (f : Flash) (d : Device), Reach (deviceStep f) .powerOn d → Consistent d := by
  intro h
  have hc := h benchWilling _
    (exec_reach (rfl : exec _ _ [.gotIp true .good, benchBroken, .handler, .handler, .handler] =
      some _)) rfl
  have hrunning := hc.1 rfl
  rcases hrunning with hstreams | ⟨t, ht, -⟩
  · exact hstreams rfl
  · exact absurd ht List.not_mem_nil

end GroundTruth.Ota
