/-
# A firmware upload: the multipart branch of `api_ota_update_handler`

The handler reads until it has the part headers, takes what follows them for firmware, and then
streams chunk after chunk to the flash until it sees a boundary.  It looks for the boundary with
`strstr`, in the chunk buffer as it is: a NUL ends the search, and what an earlier chunk or the
heap left behind the new bytes is searched too.  Both are in the model: `mem` below is the buffer
with all that stands behind it.

What the loop writes, and whether it saw a boundary, depends on the chunks and the buffer alone;
`drain` computes it, and `streamChunks_complete` and `streamChunks_written` connect the two.
-/
import Mathlib.Data.List.DropRight
import GroundTruth.Lib.CString
import GroundTruth.Ota.Manager

namespace GroundTruth.Ota

open GroundTruth.Lib

/-! ## 1. Requests and replies -/

/-- How a call of `httpd_req_recv` ends. -/
inductive Recv
  /-- with at least one byte, and no more than were asked for -/
  | data (bs : Bytes)
  /-- `HTTPD_SOCK_ERR_TIMEOUT` -/
  | timeout
  /-- 0: the connection is closed -/
  | closed
  /-- any other negative value -/
  | error
  deriving DecidableEq, Repr

structure Request where
  /-- `req->content_len` -/
  contentLen : Nat
  /-- what the calls of `httpd_req_recv` return; after that, the connection is closed -/
  recvs : List Recv

/-- What `malloc` returns. -/
structure Memory where
  /-- the header buffer is there -/
  headerBuffer : Bool
  /-- the chunk buffer, with what is in it and behind it -/
  chunkBuffer : Option Bytes

inductive Reply
  /-- 200, and the device restarts with the new firmware -/
  | ok
  /-- 200, but the update could not be finished -/
  | notFinished
  /-- this status line, and a body with this message -/
  | error (httpStatus : Nat) (message : String)
  deriving DecidableEq, Repr

/-- `send_json_error`: the status is 400 or 500, and 400 for any other that is asked for. -/
def sendJsonError (message : String) (httpStatus : Nat) : Reply :=
  .error (if httpStatus = 400 then 400 else if httpStatus = 500 then 500 else 400) message

/-- The reply that was sent is a success. -/
def Reply.success : Reply → Bool
  | .ok => true
  | .notFinished => true
  | .error _ _ => false

/-! ## 2. The part headers -/

def cr : UInt8 := 13
def lf : UInt8 := 10

/-- `header_buffer_size` and `chunk_size`. -/
def bufferSize : Nat := 64 * 1024

def maxHeaderTimeouts : Nat := 50
def maxTimeouts : Nat := 100

/-- The data separator is in the buffer. -/
def foundSeparator (headerBuffer : Bytes) : Bool :=
  (strstr headerBuffer [cr, lf, cr, lf]).isSome || (strstr headerBuffer [lf, lf]).isSome

inductive HeaderExit
  | found (headerBuffer : Bytes) (rest : List Recv)
  | failed (httpStatus : Nat) (message : String)
  deriving DecidableEq, Repr

/-- The loop that reads until the separator is there. -/
def readHeader : Nat → Bytes → List Recv → HeaderExit
  | _, _, [] => .failed 500 "Failed to read request headers"
  | timeouts, buf, .timeout :: rs =>
    if maxHeaderTimeouts < timeouts + 1 then
      .failed 408 "Timeout reading request headers"
    else readHeader (timeouts + 1) buf rs
  | _, _, .closed :: _ => .failed 500 "Failed to read request headers"
  | _, _, .error :: _ => .failed 500 "Failed to read request headers"
  | _, buf, .data bs :: rs =>
    if foundSeparator (buf ++ bs) then .found (buf ++ bs) rs
    else if (buf ++ bs).length < bufferSize - 1 then readHeader 0 (buf ++ bs) rs
    else .failed 400 "Invalid multipart format: no data separator"

/-- Where the data starts. -/
def headerLen (headerBuffer : Bytes) : Option Nat :=
  match strstr headerBuffer [cr, lf, cr, lf] with
  | some p => some (p + 4)
  | none =>
    match strstr headerBuffer [lf, lf] with
    | some p => some (p + 2)
    | none => none

/-! ## 3. Boundaries -/

/-- The boundary in a content type: 127 bytes at most, up to a `;`, a blank or a line end. -/
def extractBoundary (contentType : Bytes) : Option Bytes :=
  (strstr contentType (ascii "boundary=")).map fun p =>
    (((cstr contentType).drop (p + 9)).takeWhile fun c =>
      c ≠ 59 && c ≠ 32 && c ≠ cr && c ≠ lf).take 127

/-- `start_boundary` and `end_boundary`. -/
structure Markers where
  startBoundary : Bytes
  endBoundary : Bytes

def markers (boundary : Bytes) : Markers :=
  ⟨ascii "--" ++ boundary, ascii "--" ++ boundary ++ ascii "--"⟩

/-- "should be preceded by \r\n or at start" -/
def precededOk (mem : Bytes) (p : Nat) : Bool :=
  p == 0 || mem.getD (p - 1) 0 == lf ||
    (mem.getD (p - 1) 0 == cr && decide (1 < p) && mem.getD (p - 2) 0 == lf)

/-- `boundary_pos`: the end boundary, or else the start boundary. -/
def boundaryPos (b : Markers) (mem : Bytes) : Option Nat :=
  match search (precededOk mem) b.endBoundary 0 (cstr mem) with
  | some p => some p
  | none =>
    search (fun p => precededOk mem p && !b.endBoundary.isPrefixOf ((cstr mem).drop p))
      b.startBoundary 0 (cstr mem)

def lineEnd (c : UInt8) : Bool := c == cr || c == lf

/-- "Remove trailing \r\n" -/
def stripLineEnds (bs : Bytes) : Bytes := bs.rdropWhile lineEnd

/-- "Also check if there's a \r\n sequence before boundary_pos that we should exclude" -/
def stripAgain (bs : Bytes) : Bytes :=
  if 2 ≤ bs.length ∧ bs.getD (bs.length - 2) 0 = cr ∧ bs.getD (bs.length - 1) 0 = lf then
    bs.take (bs.length - 2)
  else if 1 ≤ bs.length ∧ bs.getD (bs.length - 1) 0 = lf then bs.take (bs.length - 1)
  else bs

/-- The bytes of a chunk to write, and whether a boundary was found; `mem` is the chunk buffer
after `ret` bytes have been received into it. -/
def scanChunk (b : Markers) (mem : Bytes) (ret : Nat) : Bytes × Bool :=
  match boundaryPos b mem with
  | some p => (stripAgain (stripLineEnds (mem.take p)), true)
  | none => (mem.take ret, false)

/-- `boundary_in_header`: the boundary in the data that came with the part headers, which is not
checked for a line end ahead of it. -/
def boundaryInHeader (b : Markers) (data : Bytes) : Option Nat :=
  if data = [] then none else strstr data b.startBoundary

/-- The bytes to write of that data. -/
def scanInitial (b : Markers) (data : Bytes) : Bytes × Bool :=
  match boundaryInHeader b data with
  | some p => (stripLineEnds (data.take p), true)
  | none => (data, false)

/-! ## 4. The streaming loop -/

inductive StreamExit
  | complete (totalWritten : Nat) (m : Manager)
  | failed (httpStatus : Nat) (message : String) (m : Manager)

def StreamExit.manager : StreamExit → Manager
  | .complete _ m => m
  | .failed _ _ m => m

/-- The least number of bytes that counts as complete: 95 percent. -/
def minExpected (expectedFirmwareBytes : Nat) : Nat := sizeT (expectedFirmwareBytes * 95) / 100

/-- `ret == 0` in the loop. -/
def connectionClosed (f : Flash) (expected total : Nat) (m : Manager) : StreamExit :=
  if 0 < expected ∧ minExpected expected ≤ total then .complete total m
  else .failed 500 "Connection closed before upload completed" (m.abort f)

/-- Write a chunk, unless there is nothing in it. -/
def writeChunk (f : Flash) (data : Bytes) (m : Manager) : Bool × Manager :=
  if data = [] then (true, m) else otaManagerWriteStreamingChunk f data m

/-- Receive `bs` into the buffer. -/
def received (mem bs : Bytes) : Bytes := bs ++ mem.drop bs.length

/-- The loop over the chunks. -/
def streamChunks (f : Flash) (b : Markers) (expected : Nat) :
    Bytes → Nat → Nat → Manager → List Recv → StreamExit
  | _, total, _, m, [] => connectionClosed f expected total m
  | mem, total, timeouts, m, .timeout :: rs =>
    if maxTimeouts < timeouts + 1 then
      .failed 408 "Upload timeout - connection too slow" (m.abort f)
    else streamChunks f b expected mem total (timeouts + 1) m rs
  | _, total, _, m, .closed :: _ => connectionClosed f expected total m
  | _, _, _, m, .error :: _ =>
    .failed 500 "Connection error during upload" (m.abort f)
  | mem, total, _, m, .data bs :: rs =>
    let scan := scanChunk b (received mem bs) bs.length
    let w := writeChunk f scan.1 m
    if w.1 = false then .failed 500 "Failed to write firmware data" w.2
    else if scan.2 = true then .complete (sizeT (total + scan.1.length)) w.2
    else streamChunks f b expected (received mem bs) (sizeT (total + scan.1.length)) 0 w.2 rs

/-! ## 5. The handler -/

/-- `expected_firmware_bytes`. -/
def expectedFirmwareBytes (contentLen : Nat) : Nat :=
  if 0 < contentLen then if 1024 < contentLen then contentLen - 1024 else contentLen else 0

/-- Reply, and then finish. -/
def finishUpload (f : Flash) (m : Manager) : Reply × Manager :=
  let r := otaManagerFinishStreamingUpdate f m
  (if r.1 = true then .ok else .notFinished, r.2)

/-- What happens after the loop. -/
def afterStream (f : Flash) (contentLen : Nat) : StreamExit → Reply × Manager
  | .failed httpStatus message m => (sendJsonError message httpStatus, m)
  | .complete total m =>
    if 0 < contentLen ∧ 0 < expectedFirmwareBytes contentLen ∧
        total < minExpected (expectedFirmwareBytes contentLen) then
      (sendJsonError "Upload incomplete - connection may have been interrupted" 400, m.abort f)
    else finishUpload f m

/-- The upload once the update has been started: `data` came with the part headers. -/
def uploadFirmware (f : Flash) (mem : Memory) (b : Markers) (contentLen : Nat) (data : Bytes)
    (rs : List Recv) (m : Manager) : Reply × Manager :=
  let scan := scanInitial b data
  let w := writeChunk f scan.1 m
  if w.1 = false then (sendJsonError "Failed to write firmware data" 500, w.2)
  else if scan.2 = true then finishUpload f w.2
  else
    match mem.chunkBuffer with
    | none => (sendJsonError "Failed to allocate memory" 500, w.2.abort f)
    | some heap =>
      afterStream f contentLen (streamChunks f b (expectedFirmwareBytes contentLen) heap
        data.length 0 w.2 rs)

/-- The size of the partition, as the handler knows it. -/
def maxFirmwareSize (f : Flash) : Nat :=
  match f.next with
  | some p => p.size
  | none => 0x180000

/-- `api_ota_update_handler` for a content type that has `multipart/form-data` in it. -/
def apiOtaUpdateUpload (f : Flash) (mem : Memory) (contentType : Bytes) (req : Request)
    (m : Manager) : Reply × Manager :=
  if 0 < req.contentLen ∧ maxFirmwareSize f < req.contentLen then
    (sendJsonError "File too large for OTA partition" 400, m)
  else
    match extractBoundary contentType with
    | none => (sendJsonError "Invalid multipart data: no boundary" 400, m)
    | some boundary =>
      if mem.headerBuffer = false then (sendJsonError "Failed to allocate memory" 500, m)
      else
        match readHeader 0 [] req.recvs with
        | .failed httpStatus message => (sendJsonError message httpStatus, m)
        | .found buf rest =>
          match headerLen buf with
          | none => (sendJsonError "Invalid multipart format" 400, m)
          | some len =>
            let s := otaManagerStartStreamingUpdate f (expectedFirmwareBytes req.contentLen) m
            if s.1 = false then
              (sendJsonError "Failed to start OTA update. Check device logs for details." 500, s.2)
            else
              uploadFirmware f mem (markers boundary) req.contentLen (buf.drop len) rest s.2

/-! ## 6. What the loop writes -/

/-- The data among the results of `httpd_req_recv`. -/
def datas (rs : List Recv) : List Bytes :=
  rs.filterMap fun
    | .data bs => some bs
    | _ => none

@[simp] theorem datas_nil : datas [] = [] := rfl

@[simp] theorem datas_data (bs : Bytes) (rs : List Recv) :
    datas (.data bs :: rs) = bs :: datas rs := rfl

@[simp] theorem datas_append (rs ss : List Recv) : datas (rs ++ ss) = datas rs ++ datas ss :=
  List.filterMap_append

@[simp] theorem datas_map (chunks : List Bytes) : datas (chunks.map .data) = chunks := by
  induction chunks with
  | nil => rfl
  | cons d ds ih => rw [List.map_cons, datas_data, ih]

/-- What the loop writes of the chunks, one after another, and whether it sees a boundary. -/
def drain (b : Markers) : Bytes → List Bytes → Bytes × Bool
  | _, [] => ([], false)
  | mem, d :: ds =>
    let scan := scanChunk b (received mem d) d.length
    if scan.2 = true then scan
    else
      let r := drain b (received mem d) ds
      (scan.1 ++ r.1, r.2)

/-- The connection has ended: nothing comes, or the next thing is the end. -/
def Ended (rs : List Recv) : Prop := rs = [] ∨ rs.head? = some .closed

/-- The call that writes a chunk, if there is anything in it. -/
def chunkCalls (data : Bytes) : List FlashCall := if data = [] then [] else [.otaWrite data]

@[simp] theorem written_chunkCalls (data : Bytes) : written (chunkCalls data) = data := by
  unfold chunkCalls
  split
  · rename_i h
    rw [h, written_nil]
  · exact written_otaWrite data

/-- A chunk that is written is written as it is. -/
theorem writeChunk_calls {f : Flash} {data : Bytes} {m : Manager}
    (h : (writeChunk f data m).1 = true) :
    (writeChunk f data m).2.calls = m.calls ++ chunkCalls data := by
  unfold writeChunk chunkCalls at *
  split
  · simp
  · rename_i hne
    rw [if_neg hne] at h
    rw [write_calls hne, if_pos h]

/-- A chunk that is refused was passed on, and the update is aborted. -/
theorem writeChunk_failed {f : Flash} {data : Bytes} {m : Manager}
    (h : (writeChunk f data m).1 = false) :
    (writeChunk f data m).2.calls = m.calls ++ (chunkCalls data ++ [.otaAbort]) := by
  unfold writeChunk chunkCalls at *
  split at h
  · cases h
  · rename_i hne
    rw [if_neg hne, if_neg hne, write_calls hne, if_neg (by simp [h])]
    rfl

theorem writeChunk_ok {f : Flash} (hf : ∀ n, f.answer n = true) (data : Bytes) (m : Manager) :
    (writeChunk f data m).1 = true := by
  unfold writeChunk
  split
  · rfl
  · rename_i hne
    exact write_ok hne hf m

/-- The calls are all of `esp_ota_write`. -/
def Writes (cs : List FlashCall) : Prop := ∀ c ∈ cs, ∃ data, c = .otaWrite data

theorem Writes.nil : Writes [] := fun _ hc => absurd hc List.not_mem_nil

theorem Writes.chunk (data : Bytes) : Writes (chunkCalls data) := by
  unfold chunkCalls
  split
  · exact Writes.nil
  · intro c hc
    exact ⟨data, List.mem_singleton.1 hc⟩

theorem Writes.append {cs ds : List FlashCall} (hc : Writes cs) (hd : Writes ds) :
    Writes (cs ++ ds) := by
  intro c h
  rcases List.mem_append.1 h with h | h
  · exact hc c h
  · exact hd c h

/-- Calls that neither begin an update nor write: what comes after the writes. -/
def EndCalls (tail : List FlashCall) : Prop :=
  ∀ c ∈ tail, c = .otaAbort ∨ c = .otaEnd ∨ ∃ p, c = .setBootPartition p

theorem EndCalls.nil : EndCalls [] := fun _ hc => absurd hc List.not_mem_nil

theorem EndCalls.abort : EndCalls [.otaAbort] := fun _ hc => Or.inl (List.mem_singleton.1 hc)

theorem EndCalls.finish {rest : List FlashCall} (h : ∀ c ∈ rest, ∃ p, c = .setBootPartition p) :
    EndCalls (.otaEnd :: rest) := by
  intro c hc
  rcases List.mem_cons.1 hc with rfl | hc
  · exact Or.inr (Or.inl rfl)
  · exact Or.inr (Or.inr (h c hc))

theorem EndCalls.written {tail : List FlashCall} (h : EndCalls tail) : written tail = [] := by
  refine List.flatMap_eq_nil_iff.2 fun c hc => ?_
  obtain rfl | rfl | ⟨p, rfl⟩ := h c hc <;> rfl

theorem connectionClosed_complete {f : Flash} {expected total total' : Nat} {m m' : Manager}
    (h : connectionClosed f expected total m = .complete total' m') :
    total' = total ∧ m' = m ∧ 0 < expected ∧ minExpected expected ≤ total := by
  unfold connectionClosed at h
  split at h
  · rename_i hc
    obtain ⟨rfl, rfl⟩ := StreamExit.complete.inj h
    exact ⟨rfl, rfl, hc⟩
  · cases h

variable {f : Flash} {b : Markers} {expected : Nat}

theorem drain_seen {mem d : Bytes} (h : (scanChunk b (received mem d) d.length).2 = true)
    (ds : List Bytes) : drain b mem (d :: ds) = scanChunk b (received mem d) d.length := if_pos h

theorem drain_unseen {mem d : Bytes} (h : ¬(scanChunk b (received mem d) d.length).2 = true)
    (ds : List Bytes) :
    drain b mem (d :: ds) = ((scanChunk b (received mem d) d.length).1 ++
      (drain b (received mem d) ds).1, (drain b (received mem d) ds).2) := if_neg h

/-- **The loop, when it is complete.**  It has written what `drain` says of the chunks it took,
and either it saw a boundary in the last of them, or the connection ended after enough. -/
theorem streamChunks_complete {rs : List Recv} {mem : Bytes} {total timeouts total' : Nat}
    {m m' : Manager}
    (h : streamChunks f b expected mem total timeouts m rs = .complete total' m') :
    ∃ pre post cs, rs = pre ++ post ∧ m'.calls = m.calls ++ cs ∧ Writes cs ∧
      written cs = (drain b mem (datas pre)).1 ∧
      total' ≤ total + (drain b mem (datas pre)).1.length ∧
      ((drain b mem (datas pre)).2 = true ∨
        (drain b mem (datas pre)).2 = false ∧ Ended post ∧ 0 < expected ∧
          minExpected expected ≤ total') := by
  induction rs generalizing mem total timeouts m with
  | nil =>
    obtain ⟨rfl, rfl, hexp, hmin⟩ := connectionClosed_complete h
    exact ⟨[], [], [], rfl, (List.append_nil _).symm, Writes.nil, rfl, Nat.le_refl _,
      Or.inr ⟨rfl, Or.inl rfl, hexp, hmin⟩⟩
  | cons r rs ih =>
    cases r with
    | timeout =>
      rw [streamChunks] at h
      split at h
      · cases h
      · obtain ⟨pre, post, cs, rfl, hrest⟩ := ih h
        exact ⟨.timeout :: pre, post, cs, rfl, hrest⟩
    | closed =>
      obtain ⟨rfl, rfl, hexp, hmin⟩ := connectionClosed_complete h
      exact ⟨[], .closed :: rs, [], rfl, (List.append_nil _).symm, Writes.nil, rfl,
        Nat.le_refl _, Or.inr ⟨rfl, Or.inr rfl, hexp, hmin⟩⟩
    | error => cases h
    | data bs =>
      rw [streamChunks] at h
      split at h
      · cases h
      · rename_i hw
        have hcalls := writeChunk_calls (by simpa using hw)
        have hle : sizeT (total + (scanChunk b (received mem bs) bs.length).1.length) ≤
            total + (scanChunk b (received mem bs) bs.length).1.length := Nat.mod_le _ _
        split at h
        · rename_i hseen
          obtain ⟨rfl, rfl⟩ := StreamExit.complete.inj h
          have hdrain : drain b mem (datas [.data bs]) =
              scanChunk b (received mem bs) bs.length := drain_seen hseen []
          refine ⟨[.data bs], rs, _, rfl, hcalls, Writes.chunk _, ?_, ?_, ?_⟩
          · rw [written_chunkCalls, hdrain]
          · rw [hdrain]
            exact hle
          · rw [hdrain]
            exact Or.inl hseen
        · rename_i hunseen
          obtain ⟨pre, post, cs, rfl, hm', hcs, hwritten, htotal, hend⟩ := ih h
          have hdrain : drain b mem (datas (.data bs :: pre)) =
              ((scanChunk b (received mem bs) bs.length).1 ++
                (drain b (received mem bs) (datas pre)).1,
              (drain b (received mem bs) (datas pre)).2) := drain_unseen hunseen _
          refine ⟨.data bs :: pre, post,
            chunkCalls (scanChunk b (received mem bs) bs.length).1 ++ cs, rfl, ?_,
            (Writes.chunk _).append hcs, ?_, ?_, ?_⟩
          · rw [hm', hcalls, List.append_assoc]
          · rw [written_append, written_chunkCalls, hwritten, hdrain]
          · rw [hdrain, List.length_append]
            omega
          · rw [hdrain]
            exact hend

/-- **The loop, on chunks.**  Complete or not, it passes to `esp_ota_write` no more than `drain`
says, in that order; and all of it when every call succeeds. -/
theorem streamChunks_written (f : Flash) (b : Markers) (expected : Nat) (chunks : List Bytes)
    (mem : Bytes) (total timeouts : Nat) (m : Manager) :
    ∃ cs tail, Writes cs ∧ EndCalls tail ∧ written cs <+: (drain b mem chunks).1 ∧
      ((∀ n, f.answer n = true) → written cs = (drain b mem chunks).1) ∧
      (streamChunks f b expected mem total timeouts m (chunks.map .data)).manager.calls =
        m.calls ++ (cs ++ tail) := by
  induction chunks generalizing mem total timeouts m with
  | nil =>
    rw [List.map_nil, streamChunks, connectionClosed]
    split
    · exact ⟨[], [], Writes.nil, EndCalls.nil, List.nil_prefix, fun _ => rfl, by
        simp [StreamExit.manager]⟩
    · exact ⟨[], [.otaAbort], Writes.nil, EndCalls.abort, List.nil_prefix, fun _ => rfl, by
        simp [StreamExit.manager, abort_calls]⟩
  | cons d ds ih =>
    have hpre : (scanChunk b (received mem d) d.length).1 <+: (drain b mem (d :: ds)).1 := by
      by_cases hseen : (scanChunk b (received mem d) d.length).2 = true
      · simp only [drain_seen hseen, List.prefix_refl]
      · rw [drain_unseen hseen]
        exact List.prefix_append _ _
    rw [List.map_cons, streamChunks]
    by_cases hw : (writeChunk f (scanChunk b (received mem d) d.length).1 m).1 = false
    · rw [if_pos hw]
      refine ⟨chunkCalls (scanChunk b (received mem d) d.length).1, [.otaAbort], Writes.chunk _,
        EndCalls.abort, ?_, ?_, writeChunk_failed hw⟩
      · rw [written_chunkCalls]
        exact hpre
      · intro hf
        rw [writeChunk_ok hf] at hw
        cases hw
    · have hcalls := writeChunk_calls (by simpa using hw)
      rw [if_neg hw]
      by_cases hseen : (scanChunk b (received mem d) d.length).2 = true
      · rw [if_pos hseen, drain_seen hseen]
        refine ⟨chunkCalls (scanChunk b (received mem d) d.length).1, [], Writes.chunk _,
          EndCalls.nil, ?_, fun _ => written_chunkCalls _, ?_⟩
        · simp only [written_chunkCalls, List.prefix_refl]
        · rw [List.append_nil]
          exact hcalls
      · obtain ⟨cs, tail, hcs, htail, hle, hall, hrun⟩ := ih (received mem d)
          (sizeT (total + (scanChunk b (received mem d) d.length).1.length)) 0
          (writeChunk f (scanChunk b (received mem d) d.length).1 m).2
        rw [if_neg hseen, drain_unseen hseen]
        refine ⟨chunkCalls (scanChunk b (received mem d) d.length).1 ++ cs, tail,
          (Writes.chunk _).append hcs, htail, ?_, ?_, ?_⟩
        · rw [written_append, written_chunkCalls]
          exact (List.prefix_append_right_inj _).2 hle
        · intro hf
          rw [written_append, written_chunkCalls, hall hf]
        · rw [hrun, hcalls]
          simp only [List.append_assoc]

/-! ## 7. How an upload ends -/

theorem scanInitial_some {data : Bytes} {p : Nat} (h : boundaryInHeader b data = some p) :
    scanInitial b data = (stripLineEnds (data.take p), true) := by
  rw [scanInitial, h]

theorem scanInitial_none {data : Bytes} (h : boundaryInHeader b data = none) :
    scanInitial b data = (data, false) := by
  rw [scanInitial, h]

theorem scanInitial_unseen {data : Bytes} (h : ¬(scanInitial b data).2 = true) :
    scanInitial b data = (data, false) := by
  cases hp : boundaryInHeader b data with
  | none => exact scanInitial_none hp
  | some p =>
    rw [scanInitial_some hp] at h
    exact absurd rfl h

theorem expectedFirmwareBytes_pos {contentLen : Nat}
    (h : 0 < expectedFirmwareBytes contentLen) : 0 < contentLen := by
  unfold expectedFirmwareBytes at h
  split at h
  · assumption
  · cases h

theorem finishUpload_success (f : Flash) (m : Manager) :
    (finishUpload f m).1.success = true := by
  unfold finishUpload
  dsimp only
  split <;> rfl

/-- **An upload that succeeds.**  It has written what the scan of the first data and `drain` say,
and then it has finished. -/
theorem uploadFirmware_success {mem : Memory} {contentLen : Nat} {data : Bytes}
    {rs : List Recv} {m : Manager}
    (h : (uploadFirmware f mem b contentLen data rs m).1.success = true) :
    ∃ cs tail, (uploadFirmware f mem b contentLen data rs m).2.calls = m.calls ++ cs ++ tail ∧
      Writes cs ∧ EndCalls tail ∧
      ((scanInitial b data).2 = true ∧ written cs = (scanInitial b data).1 ∨
        (scanInitial b data).2 = false ∧ ∃ heap pre post, mem.chunkBuffer = some heap ∧
          rs = pre ++ post ∧ written cs = data ++ (drain b heap (datas pre)).1 ∧
          ((drain b heap (datas pre)).2 = true ∨
            (drain b heap (datas pre)).2 = false ∧ Ended post ∧ 0 < contentLen ∧
              minExpected (expectedFirmwareBytes contentLen) ≤
                data.length + (drain b heap (datas pre)).1.length)) := by
  unfold uploadFirmware at h ⊢
  dsimp only at h ⊢
  by_cases hw : (writeChunk f (scanInitial b data).1 m).1 = false
  · rw [if_pos hw] at h
    cases h
  · rw [if_neg hw] at h ⊢
    have hcalls := writeChunk_calls (by simpa using hw)
    by_cases hseen : (scanInitial b data).2 = true
    · rw [if_pos hseen]
      obtain ⟨tail, htail, hquiet⟩ := finish_calls f (writeChunk f (scanInitial b data).1 m).2
      refine ⟨chunkCalls (scanInitial b data).1, .otaEnd :: tail, ?_, Writes.chunk _,
        EndCalls.finish hquiet, Or.inl ⟨hseen, written_chunkCalls _⟩⟩
      rw [← hcalls]
      exact htail
    · rw [if_neg hseen] at h ⊢
      rw [scanInitial_unseen hseen] at h hcalls ⊢
      cases hheap : mem.chunkBuffer with
      | none =>
        rw [hheap] at h
        cases h
      | some heap =>
        rw [hheap] at h
        dsimp only at h ⊢
        cases hexit : streamChunks f b (expectedFirmwareBytes contentLen) heap data.length 0
            (writeChunk f data m).2 rs with
        | failed httpStatus message m' =>
          rw [hexit] at h
          cases h
        | complete total m' =>
          rw [hexit, afterStream] at h
          rw [afterStream]
          by_cases hlow : 0 < contentLen ∧ 0 < expectedFirmwareBytes contentLen ∧
              total < minExpected (expectedFirmwareBytes contentLen)
          · rw [if_pos hlow] at h
            cases h
          · rw [if_neg hlow]
            obtain ⟨pre, post, cs, rfl, hm', hcs, hwritten, htotal, hend⟩ :=
              streamChunks_complete hexit
            obtain ⟨tail, htail, hquiet⟩ := finish_calls f m'
            refine ⟨chunkCalls data ++ cs, .otaEnd :: tail, ?_, (Writes.chunk _).append hcs,
              EndCalls.finish hquiet, Or.inr ⟨rfl, heap, pre, post, rfl, rfl, ?_, ?_⟩⟩
            · rw [← List.append_assoc, ← hcalls, ← hm']
              exact htail
            · rw [written_append, written_chunkCalls, hwritten]
            · rcases hend with hend | ⟨hunseen, hend, hexp, hmin⟩
              · exact Or.inl hend
              · exact Or.inr ⟨hunseen, hend, expectedFirmwareBytes_pos hexp,
                  Nat.le_trans hmin htotal⟩

/-- The request is refused before the update is started. -/
def Refused (maxFirmwareSize : Nat) (contentType : Bytes) (req : Request) : Prop :=
  0 < req.contentLen ∧ maxFirmwareSize < req.contentLen ∨
    extractBoundary contentType = none ∨
    ∀ buf rest, readHeader 0 [] req.recvs = .found buf rest → headerLen buf = none

/-- **What can become of a request.**  It is refused and nothing happens; there is no buffer; the
update is not started; or it is an upload. -/
theorem apiOtaUpdateUpload_cases (f : Flash) (mem : Memory) (contentType : Bytes)
    (req : Request) (m : Manager) :
    (Refused (maxFirmwareSize f) contentType req ∨ mem.headerBuffer = false) ∧
        (∃ httpStatus message,
          apiOtaUpdateUpload f mem contentType req m = (.error httpStatus message, m)) ∨
      ∃ boundary buf rest len, extractBoundary contentType = some boundary ∧
        readHeader 0 [] req.recvs = .found buf rest ∧ headerLen buf = some len ∧
        ¬(0 < req.contentLen ∧ maxFirmwareSize f < req.contentLen) ∧ mem.headerBuffer = true ∧
        apiOtaUpdateUpload f mem contentType req m =
          let s := otaManagerStartStreamingUpdate f (expectedFirmwareBytes req.contentLen) m
          if s.1 = false then
            (sendJsonError "Failed to start OTA update. Check device logs for details." 500, s.2)
          else uploadFirmware f mem (markers boundary) req.contentLen (buf.drop len) rest s.2 := by
  unfold apiOtaUpdateUpload
  by_cases hbig : 0 < req.contentLen ∧ maxFirmwareSize f < req.contentLen
  · rw [if_pos hbig]
    exact Or.inl ⟨Or.inl (Or.inl hbig), _, _, rfl⟩
  rw [if_neg hbig]
  cases hboundary : extractBoundary contentType with
  | none => exact Or.inl ⟨Or.inl (Or.inr (Or.inl hboundary)), _, _, rfl⟩
  | some boundary =>
    by_cases hmem : mem.headerBuffer = false
    · rw [hmem]
      exact Or.inl ⟨Or.inr rfl, _, _, rfl⟩
    dsimp only
    rw [if_neg hmem]
    cases hread : readHeader 0 [] req.recvs with
    | failed httpStatus message =>
      refine Or.inl ⟨Or.inl (Or.inr (Or.inr ?_)), _, _, rfl⟩
      intro buf rest h
      rw [hread] at h
      cases h
    | found buf rest =>
      cases hlen : headerLen buf with
      | none =>
        refine Or.inl ⟨Or.inl (Or.inr (Or.inr ?_)), 400, "Invalid multipart format", ?_⟩
        · intro buf' rest' h
          rw [hread] at h
          obtain ⟨rfl, rfl⟩ := HeaderExit.found.inj h
          exact hlen
        · simp only [hlen]
          rfl
      | some len =>
        refine Or.inr ⟨boundary, buf, rest, len, rfl, rfl, hlen, hbig, by simpa using hmem, ?_⟩
        simp only [hlen]

/-- **A request that succeeds** has been an upload. -/
theorem apiOtaUpdateUpload_success {mem : Memory} {contentType : Bytes} {req : Request}
    {m : Manager} (h : (apiOtaUpdateUpload f mem contentType req m).1.success = true) :
    ∃ boundary buf rest len s, extractBoundary contentType = some boundary ∧
      readHeader 0 [] req.recvs = .found buf rest ∧ headerLen buf = some len ∧
      otaManagerStartStreamingUpdate f (expectedFirmwareBytes req.contentLen) m = (true, s) ∧
      apiOtaUpdateUpload f mem contentType req m =
        uploadFirmware f mem (markers boundary) req.contentLen (buf.drop len) rest s := by
  obtain ⟨-, httpStatus, message, hrun⟩ | ⟨boundary, buf, rest, len, hboundary, hread, hlen, -,
    -, hrun⟩ := apiOtaUpdateUpload_cases f mem contentType req m
  · rw [hrun] at h
    cases h
  · by_cases hstart : (otaManagerStartStreamingUpdate f
        (expectedFirmwareBytes req.contentLen) m).1 = false
    · simp only [hstart, if_true] at hrun
      rw [hrun] at h
      cases h
    · simp only [if_neg hstart] at hrun
      exact ⟨boundary, buf, rest, len, _, hboundary, hread, hlen,
        Prod.ext (by simpa using hstart) rfl, hrun⟩

end GroundTruth.Ota
