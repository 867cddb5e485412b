/-
# The log buffer: `log_buffer.c`

The messages of the log go into a ring of bytes, from which the web interface copies them.  Every
access of the buffer and of the destination is checked here: a function that leaves an array has no
result.

* `logBufferVprintf_eq`: a message is one `put` of the ring, as far as the array on the stack has
  it, and `logBufferGet_eq`: what is copied is the front of what the ring holds;
* `Serves.step`: every event keeps the ring the end of the stream since it was cleared;
* `log_buffer`: so for every sequence of messages and clears.
-/
import GroundTruth.Lib.Memory
import GroundTruth.Lib.Ring
import GroundTruth.Lib.Run

namespace GroundTruth.Log

open GroundTruth.Lib

/-! ## 1. The component -/

/-- The static variables, once the buffer is enabled. -/
structure LogBuffer where
  /-- `s_log_buffer`, of `s_buffer_size` bytes -/
  buffer : Bytes
  writePos : Nat
  totalWritten : UInt32
  wrapped : Bool
  deriving DecidableEq, Repr

def defaultBufferSize : Nat := 16 * 1024

/-- `log_buffer_init`, where the mutex and the memory are there. -/
def logBufferInit (bufferSize : Nat) : LogBuffer :=
  let bufferSize := if bufferSize = 0 then defaultBufferSize else bufferSize
  ⟨List.replicate bufferSize 0, 0, 0, false⟩

/-- The size of `temp_buffer`. -/
def tempBufferSize : Nat := 512

/-- What `vsnprintf` leaves in `temp_buffer`, the bytes behind it apart. -/
def vsnprintf (text : Bytes) : Bytes := text.take (tempBufferSize - 1) ++ [0]

/-- `log_buffer_vprintf`: whether it gets the lock in time, and what there is to print; where there
is nothing, `vsnprintf` fails. -/
def logBufferVprintf (locked : Bool) (text : Option Bytes) (b : LogBuffer) : Option LogBuffer :=
  match locked, text with
  | true, some text =>
    let tempBuffer := vsnprintf text
    let len := text.length
    if len > 0 then
      let bytesToWrite := if len < tempBufferSize then len else tempBufferSize - 1
      let total := b.totalWritten + UInt32.ofNat bytesToWrite
      if b.writePos + bytesToWrite ≤ b.buffer.length then do
        let buffer ← copy b.buffer b.writePos tempBuffer 0 bytesToWrite
        return ⟨buffer, b.writePos + bytesToWrite, total, b.wrapped⟩
      else do
        let firstPart := b.buffer.length - b.writePos
        let buffer ← copy b.buffer b.writePos tempBuffer 0 firstPart
        let buffer ← copy buffer 0 tempBuffer firstPart (bytesToWrite - firstPart)
        return ⟨buffer, bytesToWrite - firstPart, total, true⟩
    else some b
  | _, _ => some b

/-- `log_buffer_get`, up to the termination: the bytes to copy, and the destination. -/
def logBufferCopy (dest : Bytes) (b : LogBuffer) : Option (Nat × Bytes) :=
  let bufferSize := dest.length
  if b.wrapped = true then
    let firstPart := b.buffer.length - b.writePos
    let secondPart := b.writePos
    if bufferSize ≥ b.buffer.length then do
      let dest ← copy dest 0 b.buffer b.writePos firstPart
      let dest ← copy dest firstPart b.buffer 0 secondPart
      return (b.buffer.length, dest)
    else if bufferSize ≤ firstPart then do
      let dest ← copy dest 0 b.buffer b.writePos bufferSize
      return (bufferSize, dest)
    else do
      let dest ← copy dest 0 b.buffer b.writePos firstPart
      let remaining := bufferSize - firstPart
      if remaining ≤ secondPart then do
        let dest ← copy dest firstPart b.buffer 0 remaining
        return (bufferSize, dest)
      else do
        let dest ← copy dest firstPart b.buffer 0 secondPart
        return (firstPart + secondPart, dest)
  else do
    let bytesToCopy := if b.writePos < bufferSize then b.writePos else bufferSize
    let dest ← copy dest 0 b.buffer 0 bytesToCopy
    return (bytesToCopy, dest)

/-- `log_buffer_get`: what it returns, and the destination. -/
def logBufferGet (dest : Bytes) (b : LogBuffer) : Option (Nat × Bytes) :=
  let bufferSize := dest.length
  if bufferSize = 0 then some (0, dest)
  else do
    let (bytesToCopy, dest) ← logBufferCopy dest b
    if bytesToCopy < bufferSize then do
      let dest ← poke dest bytesToCopy 0
      return (bytesToCopy, dest)
    else do
      let dest ← poke dest (bufferSize - 1) 0
      return (bufferSize - 1, dest)

/-- `log_buffer_get_size` -/
def logBufferGetSize (b : LogBuffer) : Nat :=
  if b.wrapped = true then b.buffer.length else b.writePos

/-- `log_buffer_clear`; that the log was cleared is the next message. -/
def logBufferClear (b : LogBuffer) : LogBuffer :=
  ⟨List.replicate b.buffer.length 0, 0, 0, false⟩

/-! ## 2. What is logged -/

inductive LogEvent
  | vprintf (locked : Bool) (text : Option Bytes)
  | clear
  deriving DecidableEq, Repr

def logStep (b : LogBuffer) : LogEvent → Option LogBuffer
  | .vprintf locked text => logBufferVprintf locked text b
  | .clear => some (logBufferClear b)

/-- The record of a message: what fits in `temp_buffer`, and nothing where there is no message. -/
def record (locked : Bool) (text : Option Bytes) : Bytes :=
  if locked = true then (text.getD []).take (tempBufferSize - 1) else []

/-- The stream since it was cleared last. -/
def streamStep (stream : Bytes) : LogEvent → Bytes
  | .vprintf locked text => stream ++ record locked text
  | .clear => []

def logged (es : List LogEvent) : Bytes := es.foldl streamStep []

/-- The buffer gives the end of the stream, as much as it has and the destination takes; the byte
behind that is zero. -/
structure Serves (size : Nat) (stream : Bytes) (b : LogBuffer) : Prop where
  writePos : b.writePos ≤ size
  getSize : logBufferGetSize b = min stream.length size
  get : ∀ dest : Bytes, 0 < dest.length → ∃ dest',
    logBufferGet dest b = some (min (min stream.length size) (dest.length - 1), dest') ∧
      dest'.length = dest.length ∧
      dest'.take (min (min stream.length size) (dest.length - 1)) =
        (stream.rtake (min stream.length size)).take
          (min (min stream.length size) (dest.length - 1)) ∧
      dest'[min (min stream.length size) (dest.length - 1)]? = some 0

/-! ## 3. The ring -/

variable {b b' : LogBuffer} {stream text dest : Bytes} {size : Nat}

def LogBuffer.ring (b : LogBuffer) : RingBuffer UInt8 := ⟨b.buffer, b.writePos, b.wrapped⟩

/-- The buffer has the size, and its ring the end of the stream. -/
structure Logs (size : Nat) (stream : Bytes) (b : LogBuffer) : Prop where
  length : b.buffer.length = size
  holds : b.ring.Holds stream
  total : b.totalWritten = UInt32.ofNat stream.length

theorem Logs.init (hsize : 0 < size) : Logs size [] (logBufferInit size) := by
  have hinit : logBufferInit size = ⟨List.replicate size 0, 0, 0, false⟩ := by
    rw [logBufferInit, if_neg (by omega)]
  rw [hinit]
  exact ⟨List.length_replicate, RingBuffer.Holds.of_empty _, rfl⟩

theorem Logs.clear (h : Logs size stream b) : Logs size [] (logBufferClear b) where
  length := List.length_replicate.trans h.length
  holds := RingBuffer.Holds.of_empty _
  total := rfl

/-- A copy of the message out of `temp_buffer`. -/
theorem copy_vsnprintf {n j : Nat} (hn : j + n ≤ (text.take (tempBufferSize - 1)).length)
    (dst : Bytes) (i : Nat) :
    copy dst i (vsnprintf text) j n =
      fill dst i (((text.take (tempBufferSize - 1)).drop j).take n) := by
  rw [copy, vsnprintf, if_pos (by rw [List.length_append]; omega),
    List.drop_append_of_le_length (by omega),
    List.take_append_of_le_length (by rw [List.length_drop]; omega)]

/-- Nothing was captured. -/
theorem put_record_nil (hpos : b.writePos ≤ b.buffer.length) :
    some b = some ⟨(b.ring.put []).cells, (b.ring.put []).pos,
      b.totalWritten + UInt32.ofNat ([] : Bytes).length, (b.ring.put []).wrapped⟩ := by
  have htotal : b.totalWritten + UInt32.ofNat ([] : Bytes).length = b.totalWritten := by simp
  rw [RingBuffer.put_nil (r := b.ring) hpos, htotal]
  rfl

/-- How much of a message is written. -/
theorem bytesToWrite_eq (text : Bytes) :
    (if text.length < tempBufferSize then text.length else tempBufferSize - 1) =
      (text.take (tempBufferSize - 1)).length := by
  rw [List.length_take, tempBufferSize]
  split <;> omega

/-- The two parts of a message that does not fit behind the position. -/
theorem fill_round {buf bs : Bytes} {pos : Nat} (hpos : pos ≤ buf.length)
    (hbs : bs.length ≤ buf.length) (hfits : ¬ pos + bs.length ≤ buf.length) :
    ((fill buf pos (bs.take (buf.length - pos))).bind fun buf' =>
        fill buf' 0 (bs.drop (buf.length - pos))) =
      some (bs.drop (buf.length - pos) ++
        (buf.take pos).drop (bs.length - (buf.length - pos)) ++ bs.take (buf.length - pos)) := by
  have htake : (buf.take pos).length = pos := by
    rw [List.length_take]
    omega
  have hfirst : (bs.take (buf.length - pos)).length = buf.length - pos := by
    rw [List.length_take]
    omega
  have hsecond : (bs.drop (buf.length - pos)).length = bs.length - (buf.length - pos) :=
    List.length_drop
  have hend : buf.drop (pos + (bs.take (buf.length - pos)).length) = [] :=
    List.drop_eq_nil_of_le (by omega)
  rw [fill_eq (by omega), Option.bind_some, hend, List.append_nil,
    fill_eq (by rw [List.length_append]; omega), List.take_zero, List.nil_append, hsecond,
    Nat.zero_add, List.drop_append_of_le_length (by omega), List.append_assoc]

/-- **A message** is put into the ring, as far as `temp_buffer` has it. -/
theorem logBufferVprintf_eq (hpos : b.writePos ≤ b.buffer.length)
    (hsize : tempBufferSize ≤ b.buffer.length) (locked : Bool) (text : Option Bytes) :
    logBufferVprintf locked text b =
      some ⟨(b.ring.put (record locked text)).cells, (b.ring.put (record locked text)).pos,
        b.totalWritten + UInt32.ofNat (record locked text).length,
        (b.ring.put (record locked text)).wrapped⟩ := by
  match locked, text with
  | false, text => exact put_record_nil hpos
  | true, none => exact put_record_nil hpos
  | true, some [] => exact put_record_nil hpos
  | true, some (c :: cs) =>
    have hlen : ((c :: cs).take (tempBufferSize - 1)).length < tempBufferSize := by
      rw [List.length_take, tempBufferSize]
      omega
    have hrecord : record true (some (c :: cs)) = (c :: cs).take (tempBufferSize - 1) := rfl
    rw [hrecord]
    simp only [logBufferVprintf, bytesToWrite_eq]
    rw [if_pos (by simp)]
    by_cases hfits : b.writePos + ((c :: cs).take (tempBufferSize - 1)).length ≤ b.buffer.length
    · rw [if_pos hfits, copy_vsnprintf (by omega), List.drop_zero, List.take_length,
        fill_eq hfits, RingBuffer.put_straight (r := b.ring) hfits]
      rfl
    · have hparts := fill_round hpos (by omega) hfits
      have hsecond : ∀ buffer : Bytes,
          copy buffer 0 (vsnprintf (c :: cs)) (b.buffer.length - b.writePos)
            (((c :: cs).take (tempBufferSize - 1)).length - (b.buffer.length - b.writePos)) =
          fill buffer 0
            (((c :: cs).take (tempBufferSize - 1)).drop (b.buffer.length - b.writePos)) := by
        intro buffer
        rw [copy_vsnprintf (by omega), ← List.length_drop, List.take_length]
      rw [if_neg hfits, RingBuffer.put_round (r := b.ring) hfits, copy_vsnprintf (by omega),
        List.drop_zero]
      simp only [hsecond]
      refine (Option.bind_assoc _ _ _).symm.trans ?_
      rw [hparts]
      rfl

theorem Logs.vprintf (h : Logs size stream b) (hsize : tempBufferSize ≤ size) (locked : Bool)
    (text : Option Bytes) :
    ∃ b', logBufferVprintf locked text b = some b' ∧
      Logs size (stream ++ record locked text) b' := by
  have hrecord : (record locked text).length ≤ b.buffer.length := by
    rw [h.length, record]
    split
    · rw [List.length_take]
      omega
    · exact Nat.zero_le _
  have hput := h.holds.put hrecord
  have hroom : tempBufferSize ≤ b.buffer.length := by rw [h.length]; exact hsize
  refine ⟨_, logBufferVprintf_eq h.holds.pos_le hroom locked text, ?_, ?_, ?_⟩
  · exact (RingBuffer.length_put h.holds.pos_le hrecord).trans h.length
  · exact hput
  · rw [h.total, List.length_append, UInt32.ofNat_add]

/-! ## 4. What is copied -/

/-- One copy to the front of the destination. -/
theorem copy_front {buf : Bytes} {j n : Nat} (hsrc : j + n ≤ buf.length) (hdst : n ≤ dest.length) :
    copy dest 0 buf j n = some ((buf.drop j).take n ++ dest.drop n) := by
  rw [copy_eq hsrc (by omega), List.take_zero, List.nil_append, Nat.zero_add]

/-- Two copies: from the position to the end, and `n` bytes from the front. -/
theorem copy_copy {buf : Bytes} (dest : Bytes) {pos n : Nat} (hpos : pos ≤ buf.length)
    (hn : n ≤ pos)
    (hdst : buf.length - pos + n ≤ dest.length) :
    ((copy dest 0 buf pos (buf.length - pos)).bind fun dest =>
        copy dest (buf.length - pos) buf 0 n) =
      some (buf.drop pos ++ buf.take n ++ dest.drop (buf.length - pos + n)) := by
  have hall : (buf.drop pos).take (buf.length - pos) = buf.drop pos :=
    List.take_of_length_le (by rw [List.length_drop])
  have hlen : (buf.drop pos).length = buf.length - pos := List.length_drop
  have hroom : buf.length - pos + n ≤
      (buf.drop pos ++ dest.drop (buf.length - pos)).length := by
    rw [List.length_append, List.length_drop, List.length_drop]
    omega
  rw [copy_front (by omega) (by omega), hall, Option.bind_some, copy_eq (by omega) hroom, ← hlen,
    List.take_left, List.drop_zero, List.drop_append, List.drop_eq_nil_of_le (Nat.le_add_right _ _),
    List.nil_append, Nat.add_sub_cancel_left, List.drop_drop]

/-- **The bytes to copy** are the front of what the ring holds. -/
theorem logBufferCopy_eq (hpos : b.writePos ≤ b.buffer.length) (dest : Bytes) :
    logBufferCopy dest b = some (min b.ring.contents.length dest.length,
      b.ring.contents.take dest.length ++ dest.drop b.ring.contents.length) := by
  obtain ⟨buf, pos, total, wrapped⟩ := b
  replace hpos : pos ≤ buf.length := hpos
  have hfirst : (buf.drop pos).length = buf.length - pos := List.length_drop
  have hsecond : (buf.take pos).length = pos := by
    rw [List.length_take]
    omega
  cases wrapped with
  | false =>
    have hcontents : (LogBuffer.ring ⟨buf, pos, total, false⟩).contents = buf.take pos := rfl
    simp only [logBufferCopy, Bool.false_eq_true, if_false, hcontents, hsecond]
    by_cases hd : pos < dest.length
    · have hall : (buf.take pos).take dest.length = buf.take pos :=
        List.take_of_length_le (by omega)
      rw [if_pos hd, copy_front (by omega) (by omega), List.drop_zero, min_eq_left (by omega), hall]
      rfl
    · have hnone : dest.drop pos = [] := List.drop_eq_nil_of_le (by omega)
      rw [if_neg hd, copy_front (by omega) le_rfl, List.drop_zero, min_eq_right (by omega),
        List.take_take, min_eq_left (by omega), List.drop_eq_nil_of_le le_rfl, hnone]
      rfl
  | true =>
    have hcontents : (LogBuffer.ring ⟨buf, pos, total, true⟩).contents =
        buf.drop pos ++ buf.take pos := rfl
    have hlen : (buf.drop pos ++ buf.take pos).length = buf.length := by
      rw [List.length_append, hfirst, hsecond]
      omega
    simp only [logBufferCopy, if_true, hcontents, hlen]
    by_cases hlarge : dest.length ≥ buf.length
    · -- all of it
      have htwo := copy_copy dest hpos le_rfl (by omega)
      have hall : (buf.drop pos ++ buf.take pos).take dest.length = buf.drop pos ++ buf.take pos :=
        List.take_of_length_le (by omega)
      rw [if_pos hlarge, min_eq_left hlarge, hall]
      refine (Option.bind_assoc _ _ _).symm.trans ?_
      rw [htwo, Nat.sub_add_cancel hpos]
      rfl
    · have hnone : dest.drop buf.length = [] := List.drop_eq_nil_of_le (by omega)
      rw [if_neg hlarge, min_eq_right (by omega), hnone, List.append_nil]
      by_cases hone : dest.length ≤ buf.length - pos
      · -- the end of the array is enough
        rw [if_pos hone, copy_front (by omega) le_rfl, List.drop_eq_nil_of_le le_rfl,
          List.append_nil, List.take_append_of_le_length (by omega)]
        rfl
      · have hremaining : dest.length - (buf.length - pos) ≤ pos := by omega
        have htwo := copy_copy dest hpos hremaining (by omega)
        have hend : dest.drop (buf.length - pos + (dest.length - (buf.length - pos))) = [] :=
          List.drop_eq_nil_of_le (by omega)
        have hall : (buf.drop pos).take dest.length = buf.drop pos :=
          List.take_of_length_le (by omega)
        rw [hend, List.append_nil] at htwo
        rw [if_neg hone, List.take_append, hfirst, List.take_take, min_eq_left hremaining, hall]
        simp only [if_pos hremaining]
        refine (Option.bind_assoc _ _ _).symm.trans ?_
        rw [htwo]
        rfl

/-- The termination: behind the bytes, or over the last of them. -/
theorem terminate_eq {out : Bytes} {n d : Nat} (hout : out.length = d) (hd : 0 < d) :
    (if min n d < d then (poke out (min n d) 0).bind fun out => some (min n d, out)
      else (poke out (d - 1) 0).bind fun out => some (d - 1, out)) =
      some (min n (d - 1), out.set (min n (d - 1)) 0) := by
  by_cases hroom : n < d
  · rw [min_eq_left (by omega), min_eq_left (by omega), if_pos hroom, poke, if_pos (by omega)]
    rfl
  · rw [min_eq_right (by omega), min_eq_right (by omega), if_neg (by omega), poke,
      if_pos (by omega)]
    rfl

/-- What is copied, and the rest of the destination behind it. -/
def LogBuffer.copied (dest : Bytes) (b : LogBuffer) : Bytes :=
  b.ring.contents.take dest.length ++ dest.drop b.ring.contents.length

theorem LogBuffer.copied_length (dest : Bytes) (b : LogBuffer) :
    (b.copied dest).length = dest.length := by
  rw [LogBuffer.copied, List.length_append, List.length_take, List.length_drop]
  omega

/-- `log_buffer_get`: the front of what the ring holds, as much as leaves room for a zero. -/
theorem logBufferGet_eq (hpos : b.writePos ≤ b.buffer.length) (hdest : 0 < dest.length) :
    logBufferGet dest b = some (min b.ring.contents.length (dest.length - 1),
      (b.copied dest).set (min b.ring.contents.length (dest.length - 1)) 0) := by
  have hcopy : logBufferCopy dest b = some (min b.ring.contents.length dest.length,
      b.copied dest) := logBufferCopy_eq hpos dest
  simp only [logBufferGet, hcopy]
  rw [if_neg (by omega)]
  exact terminate_eq (b.copied_length dest) hdest

theorem Logs.serves (h : Logs size stream b) : Serves size stream b := by
  have hpos := h.holds.pos_le
  have hcells : b.ring.cells.length = size := h.length
  have hsize : b.ring.contents.length = min stream.length size := by
    rw [h.holds.size, hcells]
  have hend : b.ring.contents = stream.rtake (min stream.length size) := by
    rw [h.holds.contents, hcells]
    by_cases hshort : stream.length ≤ size
    · rw [min_eq_left hshort, rtake_of_length_le hshort, rtake_of_length_le le_rfl]
    · rw [min_eq_right (by omega)]
  refine ⟨hcells ▸ hpos, ?_, ?_⟩
  · rw [← hsize, RingBuffer.length_contents hpos]
    rfl
  intro dest hdest
  have hout := b.copied_length dest
  refine ⟨_, by rw [logBufferGet_eq hpos hdest, hsize], ?_, ?_, ?_⟩
  · rw [List.length_set, hout]
  · rw [List.take_set_of_le le_rfl, ← hend, LogBuffer.copied, List.take_append_of_le_length
      (by rw [List.length_take, hsize]; omega), List.take_take, min_eq_left (by omega)]
  · rw [List.getElem?_set_self (by omega)]

/-! ## 5. Runs -/

theorem Logs.step (h : Logs size stream b) (hsize : tempBufferSize ≤ size) (e : LogEvent) :
    ∃ b', logStep b e = some b' ∧ Logs size (streamStep stream e) b' := by
  cases e with
  | vprintf locked text => exact h.vprintf hsize locked text
  | clear => exact ⟨_, rfl, h.clear⟩

/-- Every sequence of events can be executed, and leaves the end of its stream. -/
theorem Logs.exec (h : Logs size stream b) (hsize : tempBufferSize ≤ size) (es : List LogEvent) :
    ∃ b', Lib.exec logStep b es = some b' ∧ Logs size (es.foldl streamStep stream) b' := by
  induction es generalizing stream b with
  | nil => exact ⟨b, rfl, h⟩
  | cons e es ih =>
    obtain ⟨t, ht, hlogs⟩ := h.step hsize e
    obtain ⟨b', hb', hend⟩ := ih hlogs
    refine ⟨b', ?_, hend⟩
    rw [Lib.exec, ht]
    exact hb'

/-- **The log buffer.**  For every capacity from 512 bytes on and every sequence of messages and
clears no access leaves an array, and what is copied out is the front of the end of the stream since
the last clear: of as many bytes as there are, or as the buffer has, and as many of these as leave
room for a zero. -/
theorem log_buffer {size : Nat} (hsize : 512 ≤ size) (es : List LogEvent) :
    ∃ b, exec logStep (logBufferInit size) es = some b ∧ Serves size (logged es) b := by
  have hinit : Logs size [] (logBufferInit size) := Logs.init (by omega)
  obtain ⟨b, hb, hlogs⟩ := hinit.exec hsize es
  exact ⟨b, hb, hlogs.serves⟩

/-- A clear, and two messages that the smallest buffer has no room for. -/
def wrapping : List LogEvent :=
  [.vprintf true (some [104, 105]), .clear, .vprintf true (some (List.replicate 300 104)),
    .vprintf true (some (List.replicate 300 111))]

theorem log_buffer_smallest : ∃ b, exec logStep (logBufferInit 512) wrapping = some b ∧
    Serves 512 (logged wrapping) b ∧ logBufferGetSize b = 512 := by
  obtain ⟨b, hb, hserves⟩ := log_buffer (by decide : 512 ≤ 512) wrapping
  have hlength : (logged wrapping).length = 600 := by
    simp only [wrapping, logged, List.foldl_cons, List.foldl_nil, streamStep, record, if_true,
      Option.getD_some, List.nil_append, List.length_append, List.length_take,
      List.length_replicate, tempBufferSize]
    rfl
  refine ⟨b, hb, hserves, ?_⟩
  rw [hserves.getSize, hlength]
  decide

end GroundTruth.Log
