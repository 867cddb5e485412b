/-
# The lifetime of an update handle

A handle is opened by `esp_ota_begin` or `esp_https_ota_begin`; `esp_ota_end`, `esp_ota_abort`,
`esp_https_ota_finish` and `esp_https_ota_abort` release it, whether or not they report an error.

* `url_released`: `ota_task` releases its handle once, except that it aborts after an
  `esp_https_ota_finish` that has failed;
* `data_released`: `ota_update_from_data_task` releases its handle once;
* `upload_released`: so does an upload, whoever does it: `ota_manager.c` on a write that fails or
  an upload that finishes, and the handler everywhere else.
-/
import GroundTruth.Ota.Task
import GroundTruth.Ota.Upload

namespace GroundTruth.Ota

open GroundTruth.Lib

/-! ## 1. The download -/

/-- The task does nothing more. -/
def UrlPhase.Over (p : UrlPhase) : Prop := p = .rebooting ∨ p = .ended

instance UrlPhase.Over.decidable (p : UrlPhase) : Decidable p.Over :=
  inferInstanceAs (Decidable (_ ∨ _))

/-- What has become of the handle when the task stands in a phase, given whether
`esp_https_ota_finish` has failed. -/
def UrlPhase.Handle (finishFailed : Prop) (h : HandleState) : UrlPhase → Prop
  | .created => h = .fresh ∧ ¬finishFailed
  | .performing => h = .held ∧ ¬finishFailed
  | .finishing => h = .held ∧ ¬finishFailed
  | .aborting => h = .held ∧ ¬finishFailed ∨ h = .released ∧ finishFailed
  | .rebooting => h = .released ∧ ¬finishFailed
  | .ended => (h = .fresh ∨ h = .released) ∧ ¬finishFailed ∨ h = .misused ∧ finishFailed

/-- One step of the task and its handle. -/
theorem otaTask_handle {p : UrlPhase} {a : UrlAnswer} {s : TaskStep UrlPhase}
    {past : List UrlAnswer} {h : HandleState} (hs : otaTask p a = some s)
    (hp : p.Handle (.finish false ∈ past) h) :
    s.phase.Handle (.finish false ∈ past ++ [a]) (track h s.ops) := by
  unfold otaTask at hs
  split at hs
  case h_10 => cases hs
  case h_9 =>
    obtain rfl := Option.some.inj hs
    rcases hp with ⟨rfl, hpast⟩ | ⟨rfl, hpast⟩
    · exact Or.inl ⟨Or.inr rfl, by simpa using hpast⟩
    · exact Or.inr ⟨rfl, by simpa using hpast⟩
  all_goals
    obtain rfl := Option.some.inj hs
    obtain ⟨rfl, hpast⟩ := hp
    simp [UrlPhase.Handle, HandleState.next, hpast]

/-- **The download.**  When the task is over it has released its handle once, unless
`esp_https_ota_finish` has failed. -/
theorem url_released {answers : List UrlAnswer} {p : UrlPhase} {ops : List HandleOp}
    (h : exec (historyStep otaTask) (.created, []) answers = some (p, ops)) (hp : p.Over) :
    ReleasedOnce ops ↔ .finish false ∉ answers := by
  have hinv : p.Handle (.finish false ∈ answers) (track .fresh ops) := by
    refine exec_history
      (P := fun x past => x.1.Handle (.finish false ∈ past) (track .fresh x.2))
      ⟨rfl, List.not_mem_nil⟩ (fun x past a y hx hy => ?_) h
    obtain ⟨s, hs, rfl⟩ := Option.map_eq_some_iff.1 hy
    rw [track_append]
    exact otaTask_handle hs hx
  rcases hp with rfl | rfl
  · exact iff_of_true (Or.inr hinv.1) hinv.2
  · rcases hinv with ⟨hover, hans⟩ | ⟨hmis, hans⟩
    · exact iff_of_true hover hans
    · refine iff_of_false ?_ (not_not_intro hans)
      rw [ReleasedOnce, hmis]
      decide

/-! ## 2. The image from memory -/

def DataPhase.Over (p : DataPhase) : Prop := p = .rebooting ∨ p = .ended

instance DataPhase.Over.decidable (p : DataPhase) : Decidable p.Over :=
  inferInstanceAs (Decidable (_ ∨ _))

def DataPhase.Handle (h : HandleState) : DataPhase → Prop
  | .created => h = .fresh
  | .writing _ _ => h = .held
  | .settingBoot _ => h = .released
  | .rebooting => h = .released
  | .ended => h = .fresh ∨ h = .released

theorem dataTask_handle {next : Option Partition} {data : Bytes} {p : DataPhase} {ok : Bool}
    {s : TaskStep DataPhase} {h : HandleState}
    (hs : otaUpdateFromDataTask next data p ok = some s) (hp : p.Handle h) :
    s.phase.Handle (track h s.ops) := by
  cases p with
  | created =>
    obtain rfl : h = .fresh := hp
    cases next with
    | none =>
      obtain rfl := Option.some.inj hs
      exact Or.inl rfl
    | some q =>
      cases ok with
      | false =>
        obtain rfl := Option.some.inj hs
        exact Or.inl rfl
      | true =>
        obtain rfl := Option.some.inj hs
        rfl
  | writing q offset =>
    obtain rfl : h = .held := hp
    simp only [otaUpdateFromDataTask, dataStep] at hs
    split at hs
    · split at hs
      · obtain rfl := Option.some.inj hs
        exact Or.inr rfl
      · obtain rfl := Option.some.inj hs
        rfl
    · split at hs
      · obtain rfl := Option.some.inj hs
        exact Or.inr rfl
      · obtain rfl := Option.some.inj hs
        rfl
  | settingBoot q =>
    obtain rfl : h = .released := hp
    simp only [otaUpdateFromDataTask, dataStep] at hs
    split at hs
    · obtain rfl := Option.some.inj hs
      exact Or.inr rfl
    · obtain rfl := Option.some.inj hs
      rfl
  | rebooting => cases hs
  | ended => cases hs

/-- **The image from memory.**  When the task is over it has released its handle once. -/
theorem data_released {next : Option Partition} {data : Bytes} {answers : List Bool}
    {p : DataPhase} {ops : List HandleOp}
    (h : exec (historyStep (otaUpdateFromDataTask next data)) (.created, []) answers =
      some (p, ops)) (hp : p.Over) : ReleasedOnce ops := by
  have hinv : p.Handle (track .fresh ops) := by
    refine (exec_reach h).invariant (P := fun x => x.1.Handle (track .fresh x.2)) ?_ rfl
    intro x ok y hx _ hy
    obtain ⟨s, hs, rfl⟩ := Option.map_eq_some_iff.1 hy
    rw [track_append]
    exact dataTask_handle hs hx
  rcases hp with rfl | rfl
  · exact Or.inr hinv
  · exact hinv

/-! ## 3. Uploads -/

/-- What calls of the flash do to the handle; `n` calls have been made before. -/
def handleOps (f : Flash) : Nat → List FlashCall → List HandleOp
  | _, [] => []
  | n, c :: cs => c.handleOp (f.answer n) ++ handleOps f (n + 1) cs

variable {f : Flash}

theorem handleOps_append (f : Flash) (n : Nat) (cs ds : List FlashCall) :
    handleOps f n (cs ++ ds) = handleOps f n cs ++ handleOps f (n + cs.length) ds := by
  induction cs generalizing n with
  | nil => rfl
  | cons c cs ih =>
    rw [List.cons_append, handleOps, handleOps, ih, List.append_assoc, List.length_cons,
      Nat.add_assoc, Nat.add_comm 1]

theorem handleOps_writes {cs : List FlashCall} (h : Writes cs) (n : Nat) :
    handleOps f n cs = List.replicate cs.length .use := by
  induction cs generalizing n with
  | nil => rfl
  | cons c cs ih =>
    obtain ⟨data, rfl⟩ := h c List.mem_cons_self
    rw [handleOps, ih fun c hc => h c (List.mem_cons_of_mem _ hc)]
    rfl

theorem handleOps_setBoot {cs : List FlashCall} (h : ∀ c ∈ cs, ∃ p, c = .setBootPartition p)
    (n : Nat) : handleOps f n cs = [] := by
  induction cs generalizing n with
  | nil => rfl
  | cons c cs ih =>
    obtain ⟨p, rfl⟩ := h c List.mem_cons_self
    rw [handleOps, ih fun c hc => h c (List.mem_cons_of_mem _ hc)]
    rfl

/-- Calls that close an open handle: writes, and then an abort, or an end and nothing but the boot
partition. -/
def Closes (cs : List FlashCall) : Prop :=
  ∃ ws tail, cs = ws ++ tail ∧ Writes ws ∧
    (tail = [.otaAbort] ∨ ∃ rest, tail = .otaEnd :: rest ∧
      ∀ c ∈ rest, ∃ p, c = .setBootPartition p)

/-- Writes can come before. -/
theorem Closes.cons {ws cs : List FlashCall} (h : Closes cs) (hws : Writes ws) :
    Closes (ws ++ cs) := by
  obtain ⟨ws', tail, rfl, hws', htail⟩ := h
  exact ⟨ws ++ ws', tail, (List.append_assoc _ _ _).symm, hws.append hws', htail⟩

theorem Closes.abort : Closes [.otaAbort] := ⟨[], _, rfl, Writes.nil, Or.inl rfl⟩

/-- What closes a handle that is held releases it. -/
theorem Closes.track {cs : List FlashCall} (h : Closes cs) (n : Nat) :
    track .held (handleOps f n cs) = .released := by
  obtain ⟨ws, tail, rfl, hws, htail⟩ := h
  rw [handleOps_append, track_append, handleOps_writes hws, track_uses]
  obtain rfl | ⟨rest, rfl, hrest⟩ := htail
  · rfl
  · rw [handleOps, handleOps_setBoot hrest]
    rfl

/-- What the loop does when it ends. -/
def StreamExit.closing : StreamExit → List FlashCall
  | .complete _ _ => []
  | .failed _ _ _ => [.otaAbort]

/-- The loop writes, and if it fails it aborts. -/
theorem streamChunks_calls (f : Flash) (b : Markers) (expected : Nat) (rs : List Recv)
    (mem : Bytes) (total timeouts : Nat) (m : Manager) :
    ∃ ws, Writes ws ∧
      (streamChunks f b expected mem total timeouts m rs).manager.calls = m.calls ++
        (ws ++ (streamChunks f b expected mem total timeouts m rs).closing) := by
  have hclosed : ∀ total m, ∃ ws, Writes ws ∧
      (connectionClosed f expected total m).manager.calls = m.calls ++
        (ws ++ (connectionClosed f expected total m).closing) := by
    intro total m
    refine ⟨[], Writes.nil, ?_⟩
    unfold connectionClosed
    split
    · exact (List.append_nil _).symm
    · rfl
  induction rs generalizing mem total timeouts m with
  | nil => exact hclosed total m
  | cons r rs ih =>
    cases r with
    | timeout =>
      rw [streamChunks]
      split
      · exact ⟨[], Writes.nil, rfl⟩
      · exact ih mem total (timeouts + 1) m
    | closed => exact hclosed total m
    | error => exact ⟨[], Writes.nil, rfl⟩
    | data bs =>
      rw [streamChunks]
      by_cases hw : (writeChunk f (scanChunk b (received mem bs) bs.length).1 m).1 = false
      · simp only [if_pos hw]
        exact ⟨_, Writes.chunk _, writeChunk_failed hw⟩
      · have hcalls := writeChunk_calls (by simpa using hw)
        simp only [if_neg hw]
        split
        · refine ⟨chunkCalls (scanChunk b (received mem bs) bs.length).1, Writes.chunk _, ?_⟩
          rw [StreamExit.closing, List.append_nil]
          exact hcalls
        · obtain ⟨ws, hws, hrun⟩ := ih (received mem bs)
            (sizeT (total + (scanChunk b (received mem bs) bs.length).1.length)) 0
            (writeChunk f (scanChunk b (received mem bs) bs.length).1 m).2
          refine ⟨chunkCalls (scanChunk b (received mem bs) bs.length).1 ++ ws,
            (Writes.chunk _).append hws, ?_⟩
          rw [hrun, hcalls]
          simp only [List.append_assoc]

theorem finishUpload_closes (f : Flash) (m : Manager) :
    ∃ cs, (finishUpload f m).2.calls = m.calls ++ cs ∧ Closes cs := by
  obtain ⟨rest, hrest, hset⟩ := finish_calls f m
  exact ⟨_, hrest, [], _, rfl, Writes.nil, Or.inr ⟨rest, rfl, hset⟩⟩

/-- An upload that has been started closes its handle. -/
theorem uploadFirmware_closes (f : Flash) (mem : Memory) (b : Markers) (contentLen : Nat)
    (data : Bytes) (rs : List Recv) (m : Manager) :
    ∃ cs, (uploadFirmware f mem b contentLen data rs m).2.calls = m.calls ++ cs ∧
      Closes cs := by
  unfold uploadFirmware
  dsimp only
  by_cases hw : (writeChunk f (scanInitial b data).1 m).1 = false
  · rw [if_pos hw]
    exact ⟨_, writeChunk_failed hw, Closes.abort.cons (Writes.chunk _)⟩
  · rw [if_neg hw]
    have hcalls := writeChunk_calls (by simpa using hw)
    -- the first data has been written: whatever closes the handle comes after it
    have hafter : ∀ {m' : Manager}, (∃ cs, m'.calls =
        (writeChunk f (scanInitial b data).1 m).2.calls ++ cs ∧ Closes cs) →
        ∃ cs, m'.calls = m.calls ++ cs ∧ Closes cs := by
      rintro m' ⟨cs, hcs, hclose⟩
      refine ⟨_, ?_, hclose.cons (Writes.chunk (scanInitial b data).1)⟩
      rw [hcs, hcalls, List.append_assoc]
    refine hafter ?_
    split
    · exact finishUpload_closes f _
    · cases mem.chunkBuffer with
      | none => exact ⟨_, rfl, Closes.abort⟩
      | some heap =>
        dsimp only
        obtain ⟨ws, hws, hrun⟩ := streamChunks_calls f b (expectedFirmwareBytes contentLen) rs
          heap data.length 0 (writeChunk f (scanInitial b data).1 m).2
        cases hexit : streamChunks f b (expectedFirmwareBytes contentLen) heap data.length 0
            (writeChunk f (scanInitial b data).1 m).2 rs with
        | failed httpStatus message m' =>
          rw [hexit] at hrun
          exact ⟨_, hrun, Closes.abort.cons hws⟩
        | complete total m' =>
          rw [hexit] at hrun
          rw [afterStream]
          split
          · refine ⟨_, ?_, Closes.abort.cons hws⟩
            rw [abort_calls, ← List.append_assoc]
            exact congrArg (· ++ [FlashCall.otaAbort]) (by simpa [StreamExit.closing,
              StreamExit.manager] using hrun)
          · obtain ⟨cs, hcs, hclose⟩ := finishUpload_closes f m'
            refine ⟨_, ?_, hclose.cons hws⟩
            rw [hcs, ← List.append_assoc]
            exact congrArg (· ++ cs) (by simpa [StreamExit.closing, StreamExit.manager] using hrun)

/-- Starting an update opens a handle when it succeeds, and else leaves none open. -/
theorem start_handle (f : Flash) (n : Nat) (m : Manager) :
    ∃ cs, (otaManagerStartStreamingUpdate f n m).2.calls = m.calls ++ cs ∧
      track .fresh (handleOps f m.calls.length cs) =
        if (otaManagerStartStreamingUpdate f n m).1 = true then .held else .fresh := by
  unfold otaManagerStartStreamingUpdate
  split
  · exact ⟨[], (List.append_nil _).symm, rfl⟩
  · split
    · exact ⟨[], (List.append_nil _).symm, rfl⟩
    · cases chooseUpdatePartition f with
      | none => exact ⟨[], (List.append_nil _).symm, rfl⟩
      | some p =>
        refine ⟨[.otaBegin p (otaSize n p.size)], ?_⟩
        cases hans : f.answer m.calls.length with
        | false => simp [Manager.call, hans, handleOps, FlashCall.handleOp]
        | true => simp [Manager.call, hans, handleOps, FlashCall.handleOp, HandleState.next]

/-- **Uploads.**  Whatever the request, a handle that the upload has opened is released once when
the handler returns. -/
theorem upload_released (f : Flash) (mem : Memory) (contentType : Bytes) (req : Request)
    (m : Manager) :
    ∃ cs, (apiOtaUpdateUpload f mem contentType req m).2.calls = m.calls ++ cs ∧
      ReleasedOnce (handleOps f m.calls.length cs) := by
  obtain ⟨-, httpStatus, message, hrun⟩ | ⟨boundary, buf, rest, len, -, -, -, -, -, hrun⟩ :=
    apiOtaUpdateUpload_cases f mem contentType req m
  · rw [hrun]
    exact ⟨[], (List.append_nil _).symm, Or.inl rfl⟩
  · obtain ⟨cs, hcs, htrack⟩ := start_handle f (expectedFirmwareBytes req.contentLen) m
    rw [hrun]
    dsimp only
    split
    · rename_i hstart
      rw [hstart] at htrack
      exact ⟨cs, hcs, Or.inl htrack⟩
    · rename_i hstart
      rw [Bool.not_eq_false] at hstart
      rw [if_pos hstart] at htrack
      obtain ⟨ds, hds, hclose⟩ := uploadFirmware_closes f mem (markers boundary) req.contentLen
        (buf.drop len) rest (otaManagerStartStreamingUpdate f
          (expectedFirmwareBytes req.contentLen) m).2
      refine ⟨cs ++ ds, ?_, Or.inr ?_⟩
      · rw [hds, hcs, List.append_assoc]
      · rw [handleOps_append, track_append, htrack]
        exact hclose.track _

/-! ## 4. All three -/

/-- A path of one of the three, by what it meets. -/
inductive Path
  | url (answers : List UrlAnswer)
  | data (next : Option Partition) (image : Bytes) (answers : List Bool)
  | upload (f : Flash) (mem : Memory) (contentType : Bytes) (req : Request) (m : Manager)

/-- What a path does to the handle, from its begin to its end. -/
def Path.History (ops : List HandleOp) : Path → Prop
  | .url answers =>
    ∃ p, exec (historyStep otaTask) (.created, []) answers = some (p, ops) ∧ p.Over
  | .data next image answers =>
    ∃ p, exec (historyStep (otaUpdateFromDataTask next image)) (.created, []) answers =
      some (p, ops) ∧ p.Over
  | .upload f mem contentType req m =>
    ∃ cs, (apiOtaUpdateUpload f mem contentType req m).2.calls = m.calls ++ cs ∧
      ops = handleOps f m.calls.length cs

/-- The path is a download, and `esp_https_ota_finish` fails on it. -/
def Path.FinishFails : Path → Prop
  | .url answers => .finish false ∈ answers
  | _ => False

/-- Every upload has a history. -/
theorem upload_history (f : Flash) (mem : Memory) (contentType : Bytes) (req : Request)
    (m : Manager) : ∃ ops, (Path.upload f mem contentType req m).History ops := by
  obtain ⟨cs, hcs, -⟩ := upload_released f mem contentType req m
  exact ⟨_, cs, hcs, rfl⟩

/-- **The lifetime of a handle.**  A path that has come to its end has released the handle it
opened once, and has not used it since, unless it is a download that could not be finished. -/
theorem handle_lifetime {path : Path} {ops : List HandleOp} (h : path.History ops) :
    ReleasedOnce ops ↔ ¬path.FinishFails := by
  cases path with
  | url answers =>
    obtain ⟨p, hrun, hp⟩ := h
    exact url_released hrun hp
  | data next image answers =>
    obtain ⟨p, hrun, hp⟩ := h
    exact iff_of_true (data_released hrun hp) fun hf => hf
  | upload f mem contentType req m =>
    obtain ⟨cs, hcs, rfl⟩ := h
    obtain ⟨cs', hcs', hreleased⟩ := upload_released f mem contentType req m
    obtain rfl := List.append_cancel_left (hcs.symm.trans hcs')
    exact iff_of_true hreleased fun hf => hf

/-- A download that is received and cannot be finished. -/
def benchAnswers : List UrlAnswer := [.begin true, .perform true, .finish false, .abort]

/-- A download that is finished. -/
theorem handle_lifetime_finished :
    ReleasedOnce [.acquire, .use, .release] ↔
      ¬(Path.url [.begin true, .perform true, .finish true]).FinishFails :=
  handle_lifetime ⟨.rebooting, rfl, Or.inl rfl⟩

/-- The handle is released by `esp_https_ota_finish` and again by `esp_https_ota_abort`. -/
theorem finish_then_abort :
    ¬∀ (path : Path) (ops : List HandleOp), path.History ops → ReleasedOnce ops := by
  intro h
  have hover := h (.url benchAnswers) [.acquire, .use, .release, .release]
    ⟨.ended, rfl, Or.inr rfl⟩
  revert hover
  decide

end GroundTruth.Ota
