/-
# Encapsulation messages on a byte stream

`HandleDataOnTcpSocket` (`generic_networkhandler.c`) reads the first four bytes of a message, which
have its length, and then the rest of it, with one `recv` each.  What the first call returned is
gone when the second one would block; and when the first returns fewer than four bytes, the rest of
the header is taken to be zero.

* `framing_iff`: the calls of a session handle the messages of the stream, whole and in order, as
  long as every head comes at once and the rest is there when it has come; and a call that goes
  otherwise, and does not end the session, leaves it inside a message;
* `drop_iff`: a message that is too large is skipped exactly, unless its rest is a few bytes shorter
  than the buffer and the next message comes with it.  Then all that follows is skipped.
-/
import Mathlib.Data.List.GetD
import GroundTruth.Lib.Recv
import GroundTruth.Lib.Run

namespace GroundTruth.Encap.Framing

open GroundTruth.Lib

/-! ## 1. One call -/

/-- `PC_OPENER_ETHERNET_BUFFER_SIZE`. -/
def ethernetBufferSize : Nat := 512

/-- `ENCAPSULATION_HEADER_LENGTH`. -/
def encapsulationHeaderLength : Nat := 24

inductive Outcome
  /-- `kEipStatusError`: the caller closes the socket -/
  | error
  | wouldBlock
  /-- the message was too large -/
  | dropped
  /-- `HandleReceivedExplictTcpData` is called with it -/
  | handled (incomingMessage : Bytes)
  deriving DecidableEq, Repr

/-- The buffer after the first call; what was not read is 0. -/
def incoming (head : Bytes) : Bytes := head ++ List.replicate (4 - head.length) 0

def reportedLength (message : Bytes) : Nat := (glue (message.getD 3 0) (message.getD 2 0)).toNat

/-- `data_size`, when four bytes have been read. -/
def dataSize (message : Bytes) : Nat := reportedLength message + encapsulationHeaderLength - 4

/-- How much the next call asks for, when `left` bytes are left to drop. -/
def nextAsk (left : UInt32) (ask : {n : Nat // 0 < n}) : {n : Nat // 0 < n} :=
  if h : left.toNat < ethernetBufferSize ∧ 0 < left.toNat then ⟨left.toNat, h.2⟩ else ask

/-- The loop that drops the rest of a message; `data_size` is a `size_t`. -/
def drop (left : UInt32) (ask : {n : Nat // 0 < n}) (c : Conn) : Outcome × Conn :=
  match _h : c.recv ask.1 with
  | (.data bs, c') =>
    let left := left - .ofNat bs.length
    if 0 < left then drop left (nextAsk left ask) c' else (.dropped, c')
  | (.wouldBlock, c') => (.wouldBlock, c')
  | (.closed, c') => (.error, c')
  | (.reset, c') => (.error, c')
  | (.failed, c') => (.error, c')
termination_by c.rest.length
decreasing_by
  obtain ⟨hrest, hpos⟩ := Conn.recv_data _h
  have hlt := hpos ask.2
  rw [hrest, List.length_append]
  omega

/-- `HandleDataOnTcpSocket`. -/
def handleDataOnTcpSocket (c : Conn) : Outcome × Conn :=
  match c.recv 4 with
  | (.closed, c) => (.error, c)
  | (.wouldBlock, c) => (.wouldBlock, c)
  | (.reset, c) => (.error, c)
  | (.failed, c) => (.error, c)
  | (.data head, c) =>
    let message := incoming head
    if ethernetBufferSize + 4 < reportedLength message then (.error, c)
    else if ethernetBufferSize - 4 < dataSize message then
      drop (.ofNat (dataSize message)) ⟨ethernetBufferSize, by decide⟩ c
    else
      match c.recv (dataSize message) with
      | (.closed, c) => (.error, c)
      | (.wouldBlock, c) => (.wouldBlock, c)
      | (.reset, c) => (.error, c)
      | (.failed, c) => (.error, c)
      | (.data bs, c) =>
        if bs.length = dataSize message then (.handled (message ++ bs), c) else (.error, c)

/-! ## 2. A session -/

/-- What is left of the stream, and what has been handled. -/
structure Receiver where
  conn : Conn
  handled : List Bytes
  deriving DecidableEq, Repr

/-- A call for the socket; `none` if it is closed then. -/
def receive (s : Receiver) (_ : Unit) : Option Receiver :=
  match handleDataOnTcpSocket s.conn with
  | (.error, _) => none
  | (.wouldBlock, c) => some { s with conn := c }
  | (.dropped, c) => some { s with conn := c }
  | (.handled message, c) => some ⟨c, s.handled ++ [message]⟩

/-- A message of the protocol that fits the buffer. -/
structure Message (m : Bytes) : Prop where
  header : encapsulationHeaderLength ≤ m.length
  fits : m.length ≤ ethernetBufferSize
  length : reportedLength m + encapsulationHeaderLength = m.length

/-- The head of the message comes at once, and its rest is there when it has come. -/
def InStep (c : Conn) : Prop :=
  ∀ head c', c.recv 4 = (.data head, c') →
    head.length = 4 ∧ (c'.recv (dataSize (incoming head))).1 ≠ .wouldBlock

/-- Some messages have been handled, and the others are to come. -/
def AtBoundary (ms : List Bytes) (s : Receiver) : Prop :=
  ∃ k, s.handled = ms.take k ∧ s.conn.rest = (ms.drop k).flatten

/-- The front of a message is gone, and its end is to come. -/
def Inside (ms : List Bytes) (s : Receiver) : Prop :=
  ∃ k m later i, ms.drop k = m :: later ∧ 0 < i ∧ i < m.length ∧
    s.conn.rest = m.drop i ++ later.flatten

variable {m rest head bs : Bytes} {ms : List Bytes} {c c' : Conn} {outcome : Outcome}

/-! ## 3. A call at the start of a message -/

/-- What is read of a list that goes on. -/
theorem split_front {x : Bytes} (h : m ++ rest = head ++ x) (hle : head.length ≤ m.length) :
    m = head ++ m.drop head.length ∧ x = m.drop head.length ++ rest := by
  have hdrop := congrArg (List.drop head.length) h
  have htake := congrArg (List.take head.length) h
  rw [List.drop_append_of_le_length hle, List.drop_left] at hdrop
  rw [List.take_append_of_le_length hle, List.take_left] at htake
  refine ⟨?_, hdrop.symm⟩
  conv_lhs => rw [← List.take_append_drop head.length m, htake]

theorem incoming_of_length (h : head.length = 4) : incoming head = head := by
  rw [incoming, h]
  exact List.append_nil head

theorem incoming_getD_le (h : m = head ++ m.drop head.length) (i : Nat) :
    ((incoming head).getD i 0).toNat ≤ (m.getD i 0).toNat := by
  by_cases hi : i < head.length
  · refine Nat.le_of_eq ?_
    rw [incoming, List.getD_append _ _ _ _ hi, h, List.getD_append _ _ _ _ hi]
  · have hzero : (incoming head).getD i 0 = 0 := by
      rw [incoming, List.getD_append_right _ _ _ _ (Nat.not_lt.mp hi)]
      by_cases hi : i - head.length < 4 - head.length
      · exact List.getD_replicate 0 hi
      · exact List.getD_eq_default _ _ (by simpa using hi)
    rw [hzero]
    exact Nat.zero_le _

/-- A head that is not whole shows no more than the length. -/
theorem reportedLength_incoming_le (h : m = head ++ m.drop head.length) :
    reportedLength (incoming head) ≤ reportedLength m := by
  rw [reportedLength, reportedLength, glue_toNat, glue_toNat]
  have hhigh := incoming_getD_le h 3
  have hlow := incoming_getD_le h 2
  omega

theorem reportedLength_head (h : m = head ++ m.drop head.length) (hlength : head.length = 4) :
    reportedLength (incoming head) = reportedLength m := by
  rw [incoming_of_length hlength, reportedLength, reportedLength]
  conv_rhs => rw [h, List.getD_append _ _ _ _ (by omega), List.getD_append _ _ _ _ (by omega)]

/-- A call that gets nothing of a head leaves the stream as it is, or ends the session. -/
theorem handle_noHead (hnone : ∀ head c₁, c.recv 4 ≠ (.data head, c₁))
    (h : handleDataOnTcpSocket c = (outcome, c')) :
    InStep c ∧ (outcome = .error ∨ outcome = .wouldBlock ∧ c'.rest = c.rest) := by
  refine ⟨fun head c₁ hdata => absurd hdata (hnone head c₁), ?_⟩
  unfold handleDataOnTcpSocket at h
  cases hrecv : c.recv 4 with
  | mk result c₁ =>
    rw [hrecv] at h
    cases result with
    | closed => exact .inl (congrArg Prod.fst h).symm
    | reset => exact .inl (congrArg Prod.fst h).symm
    | failed => exact .inl (congrArg Prod.fst h).symm
    | wouldBlock =>
      cases h
      exact .inr ⟨rfl, Conn.recv_wouldBlock hrecv⟩
    | data head => exact absurd hrecv (hnone head c₁)

/-- A call that gets a head of a message that fits reads the rest in one piece, or ends the
session, or leaves the head behind. -/
theorem handle_head {c₁ : Conn} (hrecv : c.recv 4 = (.data head, c₁))
    (hfits : dataSize (incoming head) ≤ ethernetBufferSize - 4)
    (h : handleDataOnTcpSocket c = (outcome, c')) :
    outcome = .error ∨
      ((c₁.recv (dataSize (incoming head))).1 = .wouldBlock ∧ outcome = .wouldBlock ∧
        c'.rest = c₁.rest) ∨
      ∃ bs, c₁.recv (dataSize (incoming head)) = (.data bs, c') ∧
        bs.length = dataSize (incoming head) ∧ outcome = .handled (incoming head ++ bs) := by
  have hsmall : ¬ethernetBufferSize + 4 < reportedLength (incoming head) := by
    rw [dataSize, ethernetBufferSize, encapsulationHeaderLength] at hfits
    rw [ethernetBufferSize]
    omega
  unfold handleDataOnTcpSocket at h
  rw [hrecv] at h
  dsimp only at h
  rw [if_neg hsmall, if_neg (Nat.not_lt.2 hfits)] at h
  cases hrest : c₁.recv (dataSize (incoming head)) with
  | mk result c₂ =>
    rw [hrest] at h
    cases result with
    | closed => exact .inl (congrArg Prod.fst h).symm
    | reset => exact .inl (congrArg Prod.fst h).symm
    | failed => exact .inl (congrArg Prod.fst h).symm
    | wouldBlock =>
      cases h
      exact .inr (.inl ⟨rfl, rfl, Conn.recv_wouldBlock hrest⟩)
    | data bs =>
      dsimp only at h
      split at h
      · next hall =>
        cases h
        exact .inr (.inr ⟨bs, rfl, hall, rfl⟩)
      · exact .inl (congrArg Prod.fst h).symm

/-- **A call at the start of a message.**  In step it handles the message or leaves it; out of step
it ends the session or leaves it inside the message. -/
theorem handle_message (hm : Message m) (hrest : c.rest = m ++ rest)
    (h : handleDataOnTcpSocket c = (outcome, c')) :
    outcome = .error ∨
      (InStep c ∧ (outcome = .wouldBlock ∧ c'.rest = c.rest ∨
        outcome = .handled m ∧ c'.rest = rest)) ∨
      (¬InStep c ∧ ∃ k, 0 < k ∧ k < m.length ∧ c'.rest = m.drop k ++ rest) := by
  have hlength := hm.length
  have hheader := hm.header
  have hfits := hm.fits
  rw [encapsulationHeaderLength] at hlength hheader
  rw [ethernetBufferSize] at hfits
  by_cases hnone : ∀ head c₁, c.recv 4 ≠ (.data head, c₁)
  · obtain ⟨hin, rfl | hkept⟩ := handle_noHead hnone h
    · exact .inl rfl
    · exact .inr (.inl ⟨hin, .inl hkept⟩)
  · push Not at hnone
    obtain ⟨head, c₁, hrecv⟩ := hnone
    obtain ⟨hdata, hpos⟩ := Conn.recv_data hrecv
    have hfour := Conn.recv_length hrecv
    have hhead := hpos (by decide)
    obtain ⟨hm', hrest'⟩ := split_front (hrest.symm.trans hdata) (by omega)
    have hle := reportedLength_incoming_le hm'
    have hin : InStep c ↔
        head.length = 4 ∧ (c₁.recv (dataSize (incoming head))).1 ≠ .wouldBlock := by
      constructor
      · intro hin
        exact hin head c₁ hrecv
      · rintro hboth head' c' hdata'
        rw [hrecv] at hdata'
        cases hdata'
        exact hboth
    have hsize : dataSize (incoming head) + 4 ≤ m.length := by
      rw [dataSize, encapsulationHeaderLength]
      omega
    obtain rfl | ⟨hblock, -, hleft⟩ | ⟨bs, hbs, hall, rfl⟩ :=
      handle_head hrecv (by rw [ethernetBufferSize]; omega) h
    · exact .inl rfl
    · refine .inr (.inr ⟨fun hc => (hin.mp hc).2 hblock, head.length, hhead, by omega, ?_⟩)
      rw [hleft, hrest']
    · obtain ⟨hsplit, hend⟩ := split_front (hrest'.symm.trans (Conn.recv_data hbs).1)
        (by rw [List.length_drop]; omega)
      rw [List.drop_drop] at hsplit hend
      by_cases hwhole : head.length = 4
      · have hexact : dataSize (incoming head) = m.length - 4 := by
          rw [dataSize, reportedLength_head hm' hwhole, ← hlength]
          rfl
        have hall' : m.drop (head.length + bs.length) = [] := by
          rw [hall, hexact, hwhole]
          exact List.drop_eq_nil_of_le (by omega)
        rw [hall', List.append_nil] at hsplit
        rw [hall', List.nil_append] at hend
        refine .inr (.inl ⟨hin.mpr ⟨hwhole, by rw [hbs]; nofun⟩, .inr ⟨?_, hend⟩⟩)
        rw [incoming_of_length hwhole, ← hsplit, ← hm']
      · exact .inr (.inr ⟨fun hc => hwhole (hin.mp hc).1, head.length + bs.length,
          Nat.add_pos_left hhead _, by omega, hend⟩)

/-! ## 4. The session -/

theorem flatten_length_drop_le (ms : List Bytes) {j k : Nat} (h : j ≤ k) :
    (ms.drop k).flatten.length ≤ (ms.drop j).flatten.length := by
  have hsplit := List.take_append_drop (k - j) (ms.drop j)
  rw [List.drop_drop, Nat.add_sub_cancel' h] at hsplit
  rw [← hsplit, List.flatten_append, List.length_append]
  exact Nat.le_add_left _ _

theorem Inside.not_atBoundary {s : Receiver} (h : Inside ms s) : ¬AtBoundary ms s := by
  obtain ⟨k, m, later, i, hleft, hpos, hlt, hrest⟩ := h
  rintro ⟨j, -, hj⟩
  have hlength := congrArg List.length (hrest.symm.trans hj)
  rw [List.length_append, List.length_drop] at hlength
  rcases Nat.lt_or_ge k j with hj | hj
  · have hle : (ms.drop j).flatten.length ≤ (ms.drop (k + 1)).flatten.length :=
      flatten_length_drop_le ms hj
    rw [← List.drop_drop, hleft, List.drop_one, List.tail_cons] at hle
    omega
  · have hle := flatten_length_drop_le ms hj
    rw [hleft, List.flatten_cons, List.length_append] at hle
    omega

/-- At the end of the stream there is nothing to lose. -/
theorem handle_end (hrest : c.rest = []) (h : handleDataOnTcpSocket c = (outcome, c')) :
    InStep c ∧ (outcome = .error ∨ outcome = .wouldBlock ∧ c'.rest = []) := by
  have hnone : ∀ bs c₁, c.recv 4 ≠ (.data bs, c₁) := by
    intro bs c₁ hdata
    obtain ⟨hsplit, hpos⟩ := Conn.recv_data hdata
    have hlength := congrArg List.length (hrest.symm.trans hsplit)
    rw [List.length_append, List.length_nil] at hlength
    have := hpos (by decide)
    omega
  have hcall := handle_noHead hnone h
  rw [hrest] at hcall
  exact hcall

/-- A call of a session that is at a message leaves it at a message when it is in step, and inside
one otherwise. -/
theorem receive_boundary (hms : ∀ m ∈ ms, Message m) {s t : Receiver} (hs : AtBoundary ms s)
    (h : receive s () = some t) :
    InStep s.conn ∧ AtBoundary ms t ∨ ¬InStep s.conn ∧ Inside ms t := by
  obtain ⟨k, hhandled, hrest⟩ := hs
  unfold receive at h
  cases hcall : handleDataOnTcpSocket s.conn with
  | mk outcome c' =>
    rw [hcall] at h
    cases hleft : ms.drop k with
    | nil =>
      rw [hleft] at hrest
      obtain ⟨hin, rfl | ⟨rfl, hend⟩⟩ := handle_end hrest hcall
      · cases h
      · cases h
        exact .inl ⟨hin, k, hhandled, by rw [hleft]; exact hend⟩
    | cons m later =>
      have hm := hms m (List.mem_of_mem_drop (hleft ▸ List.mem_cons_self))
      have hrest' : s.conn.rest = m ++ later.flatten := by
        rw [hrest, hleft, List.flatten_cons]
      obtain rfl | ⟨hin, ⟨rfl, hkept⟩ | ⟨rfl, hnext⟩⟩ | ⟨hout, i, hpos, hlt, hinside⟩ :=
        handle_message hm hrest' hcall
      · cases h
      · cases h
        exact .inl ⟨hin, k, hhandled, hkept.trans hrest⟩
      · cases h
        refine .inl ⟨hin, k + 1, ?_, ?_⟩
        · rw [hhandled, List.take_add, hleft]
          rfl
        · rw [← List.drop_drop, hleft]
          exact hnext
      · have ht : t.conn.rest = c'.rest := by
          cases outcome with
          | error => cases h
          | wouldBlock => cases h; rfl
          | dropped => cases h; rfl
          | handled message => cases h; rfl
        exact .inr ⟨hout, k, m, later, i, hleft, hpos, hlt, ht.trans hinside⟩

theorem inStep_iff (hms : ∀ m ∈ ms, Message m) {s t : Receiver} (hs : AtBoundary ms s)
    (h : receive s () = some t) : InStep s.conn ↔ AtBoundary ms t := by
  rcases receive_boundary hms hs h with ⟨hin, hat⟩ | ⟨hout, hinside⟩
  · exact iff_of_true hin hat
  · exact iff_of_false hout hinside.not_atBoundary

/-- **The framing of a session**: over every run of calls that keep it open, all calls are in step
if and only if after each of them the messages that have been handled are the first of the stream,
whole and in order, and the others are still to come; and the first call that is not in step leaves
the session inside a message. -/
theorem framing_iff (hms : ∀ m ∈ ms, Message m) (hc : c.rest = ms.flatten) {es : List Unit}
    {t : Receiver} (h : exec receive ⟨c, []⟩ es = some t) :
    (execMeets receive (fun s _ => InStep s.conn) ⟨c, []⟩ es ↔
        ∀ fs s, fs <+: es → exec receive ⟨c, []⟩ fs = some s → AtBoundary ms s) ∧
      (execMeets receive (fun s _ => InStep s.conn) ⟨c, []⟩ es → ¬InStep t.conn →
        ∀ t', receive t () = some t' → Inside ms t') := by
  have hstart : AtBoundary ms ⟨c, []⟩ := ⟨0, rfl, hc⟩
  have hiff := execMeets_iff (fun _ _ _ hs hstep => inStep_iff hms hs hstep) hstart h
  refine ⟨hiff, fun hsteps hout t' ht' => ?_⟩
  have hat := hiff.mp hsteps es t List.prefix_rfl h
  rcases receive_boundary hms hat ht' with ⟨hin, -⟩ | ⟨-, hinside⟩
  · exact absurd hin hout
  · exact hinside

/-- A Register Session of its own. -/
def registerSession : Bytes :=
  [0x65, 0, 4, 0] ++ (List.replicate 20 0 ++ [1, 0, 0, 0])

/-- One message, with the other one in its data. -/
def carrier : Bytes :=
  [0x6F, 0, 50, 0, 1, 0, 0, 0] ++ (List.replicate 38 0 ++ registerSession)

/-- When the head of the message comes in two pieces, what is in its data is handled. -/
theorem framing_iff_carrier :
    ∃ t, exec receive ⟨⟨carrier, [.bytes 2]⟩, []⟩ [(), (), ()] = some t ∧
      registerSession ∈ t.handled ∧
      (execMeets receive (fun s _ => InStep s.conn) ⟨⟨carrier, [.bytes 2]⟩, []⟩ [(), (), ()] ↔
        ∀ fs s, fs <+: [(), (), ()] → exec receive ⟨⟨carrier, [.bytes 2]⟩, []⟩ fs = some s →
          AtBoundary [carrier] s) := by
  refine ⟨_, rfl, by decide, (framing_iff (fun m hm => ?_) (List.append_nil _).symm rfl).1⟩
  rw [List.mem_singleton.mp hm]
  exact ⟨by decide, by decide, by decide⟩

/-! ## 5. Messages that are too large -/

/-- A message that does not fit the buffer, with a length that is believed. -/
structure LargeMessage (m : Bytes) : Prop where
  large : ethernetBufferSize < m.length
  believed : reportedLength m ≤ ethernetBufferSize + 4
  length : reportedLength m + encapsulationHeaderLength = m.length

/-- The calls take pieces, and none would block or fails. -/
def Pieces (c : Conn) : Prop := ∀ x ∈ c.steps, ∃ n, x = .bytes n

theorem recv_pieces (hp : Pieces c) (ask : Nat) :
    (c.rest = [] ∧ ∃ c', c.recv ask = (.closed, c') ∧ c'.rest = []) ∨
      ∃ bs c', c.recv ask = (.data bs, c') ∧ Pieces c' := by
  obtain ⟨rest, steps⟩ := c
  have hdeliver : ∀ {steps : List RecvStep} (k : Nat), (∀ x ∈ steps, ∃ n, x = .bytes n) →
      (rest = [] ∧ ∃ c', Conn.deliver rest steps k = (.closed, c') ∧ c'.rest = []) ∨
        ∃ bs c', Conn.deliver rest steps k = (.data bs, c') ∧ Pieces c' := by
    intro steps k hsteps
    by_cases hr : rest = []
    · exact .inl ⟨hr, _, if_pos hr, rfl⟩
    · exact .inr ⟨_, _, Conn.deliver_data steps k hr, hsteps⟩
  cases steps with
  | nil => exact hdeliver ask hp
  | cons e steps =>
    obtain ⟨n, rfl⟩ := hp e List.mem_cons_self
    exact hdeliver _ fun x hx => hp x (List.mem_cons_of_mem _ hx)

theorem Pieces.recv {ask : Nat} (hp : Pieces c) (h : c.recv ask = (.data bs, c')) : Pieces c' := by
  rcases recv_pieces hp ask with ⟨-, _, hclosed, -⟩ | ⟨_, _, hsame, hpieces⟩
  · rw [h] at hclosed
    cases hclosed
  · rw [h] at hsame
    cases hsame
    exact hpieces

variable {left : UInt32} {ask : {n : Nat // 0 < n}}

theorem drop_data (h : c.recv ask.1 = (.data bs, c')) :
    drop left ask c =
      if 0 < left - .ofNat bs.length then
        drop (left - .ofNat bs.length) (nextAsk (left - .ofNat bs.length) ask) c'
      else (.dropped, c') := by
  rw [drop]
  split <;> simp_all

theorem drop_closed (h : c.recv ask.1 = (.closed, c')) : drop left ask c = (.error, c') := by
  rw [drop]
  split <;> simp_all

theorem left_sub {k : Nat} (h : k ≤ left.toNat) : (left - .ofNat k).toNat = left.toNat - k := by
  have hlt := left.toNat_lt
  have hk : (UInt32.ofNat k).toNat = k := by
    rw [UInt32.toNat_ofNat', Nat.mod_eq_of_lt (by omega)]
  rw [UInt32.toNat_sub_of_le _ _ (UInt32.le_iff_toNat_le.mpr (by rw [hk]; exact h)), hk]

/-- When the first call returns no more than is left, none does, and the loop ends behind the
message. -/
theorem drop_exactly {body : Bytes} (hp : Pieces c) (hrest : c.rest = body ++ rest)
    (hleft : left.toNat = body.length) (hpos : 0 < body.length)
    (hfirst : ∀ bs c', c.recv ask.1 = (.data bs, c') → bs.length ≤ body.length)
    (hsmall : ask.1 ≤ ethernetBufferSize) :
    (drop left ask c).1 = .dropped ∧ (drop left ask c).2.rest = rest := by
  induction hn : body.length using Nat.strongRecOn generalizing body left ask c with
  | ind n ih =>
    rcases recv_pieces hp ask.1 with ⟨hend, -⟩ | ⟨bs, c₁, hrecv, hp₁⟩
    · have hlength := congrArg List.length (hrest.symm.trans hend)
      rw [List.length_append, List.length_nil] at hlength
      omega
    · obtain ⟨hdata, hsome⟩ := Conn.recv_data hrecv
      have hle := hfirst bs c₁ hrecv
      have hsome := hsome ask.2
      obtain ⟨hbody, hrest₁⟩ := split_front (hrest.symm.trans hdata) (by omega)
      have hleft₁ : (left - .ofNat bs.length).toNat = (body.drop bs.length).length := by
        rw [left_sub (by omega), List.length_drop, hleft]
      rw [drop_data hrecv]
      by_cases hmore : 0 < left - .ofNat bs.length
      · rw [if_pos hmore]
        have hmore' : 0 < (body.drop bs.length).length := by
          rw [← hleft₁]
          exact UInt32.lt_iff_toNat_lt.mp hmore
        have hnext : (nextAsk (left - .ofNat bs.length) ask).1 ≤ (body.drop bs.length).length ∧
            (nextAsk (left - .ofNat bs.length) ask).1 ≤ ethernetBufferSize := by
          unfold nextAsk
          split
          · next h => exact ⟨Nat.le_of_eq hleft₁, Nat.le_of_lt h.1⟩
          · next h => exact ⟨by omega, hsmall⟩
        refine ih _ ?_ hp₁ hrest₁ hleft₁ hmore' (fun bs' c' hrecv' => ?_) hnext.2 rfl
        · rw [List.length_drop] at hmore' ⊢
          omega
        · exact Nat.le_trans (Conn.recv_length hrecv') hnext.1
      · rw [if_neg hmore]
        have hzero : (body.drop bs.length).length = 0 := by
          rw [← hleft₁]
          exact Nat.eq_zero_of_not_pos fun h => hmore (UInt32.lt_iff_toNat_lt.mpr h)
        refine ⟨rfl, ?_⟩
        rw [hrest₁, List.eq_nil_of_length_eq_zero hzero, List.nil_append]

/-- A count that has wrapped outlasts the stream. -/
theorem drop_swallows (hp : Pieces c) (hleft : c.rest.length < left.toNat) :
    (drop left ask c).1 = .error ∧ (drop left ask c).2.rest = [] := by
  induction hn : c.rest.length using Nat.strongRecOn generalizing left ask c with
  | ind n ih =>
    rcases recv_pieces hp ask.1 with ⟨-, c₁, hrecv, hend⟩ | ⟨bs, c₁, hrecv, hp₁⟩
    · rw [drop_closed hrecv]
      exact ⟨rfl, hend⟩
    · obtain ⟨hdata, hsome⟩ := Conn.recv_data hrecv
      have hsome := hsome ask.2
      have hlength := congrArg List.length hdata
      rw [List.length_append] at hlength
      have hleft₁ := @left_sub left bs.length (by omega)
      have hmore : 0 < left - .ofNat bs.length := by
        rw [UInt32.lt_iff_toNat_lt, hleft₁]
        exact Nat.sub_pos_of_lt (by omega)
      rw [drop_data hrecv, if_pos hmore]
      exact ih c₁.rest.length (by omega) hp₁ (by omega) rfl

/-- A call that asks for more than is left makes the count wrap. -/
theorem left_wraps {k : Nat} (h : left.toNat < k) (hk : k ≤ 512) :
    4294967296 - 512 ≤ (left - .ofNat k).toNat := by
  have hlt := left.toNat_lt
  rw [UInt32.toNat_sub, UInt32.toNat_ofNat', Nat.mod_eq_of_lt (a := k) (by omega)]
  omega

/-- **Skipping a message that is too large**: when its head has come whole and the rest comes in
pieces, the call leaves the session behind the message, if the first piece is no longer than the
rest of it; a longer first piece, which takes the front of the next message with it, makes the count
wrap, and the call reads all that follows and ends the session. -/
theorem drop_iff {c₁ c₂ : Conn} (hm : LargeMessage m) (hp : Pieces c) (hrest : c.rest = m ++ rest)
    (hsize : c.rest.length < 4294967296 - 512) (hhead : c.recv 4 = (.data head, c₁))
    (hfour : head.length = 4) (hfirst : c₁.recv ethernetBufferSize = (.data bs, c₂)) :
    ((handleDataOnTcpSocket c).1 = .dropped ∧ (handleDataOnTcpSocket c).2.rest = rest ↔
        head.length + bs.length ≤ m.length) ∧
      (m.length < head.length + bs.length →
        (handleDataOnTcpSocket c).1 = .error ∧ (handleDataOnTcpSocket c).2.rest = []) := by
  have hlarge := hm.large
  have hbelieved := hm.believed
  have hlength := hm.length
  rw [ethernetBufferSize] at hlarge hbelieved
  rw [encapsulationHeaderLength] at hlength
  obtain ⟨hdata, -⟩ := Conn.recv_data hhead
  obtain ⟨hm', hrest₁⟩ := split_front (hrest.symm.trans hdata) (by omega)
  obtain ⟨hdata₁, -⟩ := Conn.recv_data hfirst
  have hreported := reportedLength_head hm' hfour
  have hdataSize : dataSize (incoming head) = m.length - 4 := by
    rw [dataSize, hreported, ← hlength]
    rfl
  have hp₁ := hp.recv hhead
  have hleft : (UInt32.ofNat (m.length - 4)).toNat = (m.drop head.length).length := by
    rw [UInt32.toNat_ofNat', List.length_drop, hfour]
    exact Nat.mod_eq_of_lt (by omega)
  have hbody : (m.drop head.length).length = m.length - 4 := by rw [List.length_drop, hfour]
  have hcall : handleDataOnTcpSocket c =
      drop (.ofNat (m.length - 4)) ⟨ethernetBufferSize, by decide⟩ c₁ := by
    rw [handleDataOnTcpSocket, hhead]
    dsimp only
    rw [hreported, hdataSize, if_neg (by rw [ethernetBufferSize]; omega),
      if_pos (by rw [ethernetBufferSize]; omega)]
  have hover : m.length < head.length + bs.length →
      (handleDataOnTcpSocket c).1 = .error ∧ (handleDataOnTcpSocket c).2.rest = [] := by
    intro hlong
    have hpiece := Conn.recv_length hfirst
    have hlater := congrArg List.length hdata₁
    rw [List.length_append] at hlater
    have hstream := congrArg List.length hdata
    rw [List.length_append] at hstream
    have hwrap := @left_wraps (.ofNat (m.length - 4)) bs.length (by omega) hpiece
    rw [hcall, drop_data hfirst, if_pos]
    · exact drop_swallows (hp₁.recv hfirst) (by omega)
    · rw [UInt32.lt_iff_toNat_lt]
      exact Nat.lt_of_lt_of_le (by decide) hwrap
  refine ⟨⟨fun hdropped => ?_, fun hle => ?_⟩, hover⟩
  · refine Nat.not_lt.mp fun hlong => ?_
    have hboth := (hover hlong).1.symm.trans hdropped.1
    cases hboth
  · rw [hcall]
    refine drop_exactly hp₁ hrest₁ hleft (by omega) (fun bs' c' hrecv => ?_) (Nat.le_refl _)
    rw [hfirst] at hrecv
    cases hrecv
    omega

/-- 513 bytes with their head, and a message that comes with the last of them. -/
def largest : Bytes := [0x6F, 0, 0xE9, 1] ++ List.replicate 509 0

theorem largest_length : largest.length = 513 := by
  rw [largest, List.length_append, List.length_replicate]
  rfl

theorem drop_iff_swallowed :
    (handleDataOnTcpSocket ⟨largest ++ registerSession, [.bytes 4]⟩).1 = .error ∧
      (handleDataOnTcpSocket ⟨largest ++ registerSession, [.bytes 4]⟩).2.rest = [] := by
  have hlength := largest_length
  have hmore : registerSession.length = 28 := rfl
  refine (@drop_iff largest registerSession [0x6F, 0, 0xE9, 1]
    ((List.replicate 509 0 ++ registerSession).take 512)
    ⟨largest ++ registerSession, [.bytes 4]⟩ _ _ ⟨?_, by decide, ?_⟩ ?_ rfl ?_ rfl rfl rfl).2 ?_
  · rw [hlength]
    decide
  · rw [hlength]
    rfl
  · rintro x hx
    exact ⟨4, List.mem_singleton.mp hx⟩
  · rw [List.length_append, hlength, hmore]
    decide
  · rw [hlength, List.length_take, List.length_append, List.length_replicate, hmore]
    decide

end GroundTruth.Encap.Framing
