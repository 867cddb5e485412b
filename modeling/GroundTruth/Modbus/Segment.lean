/-
# Modbus/TCP on a byte stream: `modbus_tcp_handle_request` and the client loop

A request is a six-byte header and a body whose length the header gives.  The body is read in a
loop, however it is cut (`readExactly_cut`).  The header is read with one `recv`: when that
returns fewer than six bytes, they are dropped, and the next call reads on in the middle of a
request.

This file proves that the header is the whole of the problem:

* `serveAll_headersWhole`: a split that leaves every header whole changes nothing;
* `serve_late`: once a header has been cut, requests of one bits get at most one response each
  from those that have not begun;
* `segmentation_iff`: so a split is harmless for all requests of given lengths exactly when it
  cuts no header.
-/
import GroundTruth.Lib.Recv
import GroundTruth.Modbus.Protocol

namespace GroundTruth.Modbus

open GroundTruth.Lib

/-! ## 1. One call, and the loop around it -/

/-- What a call of `modbus_tcp_handle_request` leaves behind. -/
structure Handled where
  /-- what the call returns: the connection stays open -/
  stays : Bool
  sent : Bytes
  assemblies : Assemblies
  conn : Conn

/-- `modbus_tcp_handle_request`. -/
def modbusTcpHandleRequest (c : Conn) (a : Assemblies) : Handled :=
  match c.recv 6 with
  | (.closed, c) => ⟨false, [], a, c⟩
  | (.reset, c) => ⟨false, [], a, c⟩
  | (.wouldBlock, c) => ⟨true, [], a, c⟩
  | (.failed, c) => ⟨true, [], a, c⟩
  | (.data mbapHeader, c) =>
    -- "Wait for more data": but these bytes are gone
    if mbapHeader.length < 6 then ⟨true, [], a, c⟩
    else
      let transactionId := field mbapHeader 0
      let protocolId := field mbapHeader 2
      let length := (field mbapHeader 4).toNat
      if protocolId ≠ 0 ∨ length < 2 ∨ 253 < length then ⟨false, [], a, c⟩
      else
        match Conn.readExactly c.steps length c.rest [] with
        | none => ⟨false, [], a, c⟩
        | some (pdu, c') =>
          let r := respond transactionId (pdu.getD 0 0) (pdu.getD 1 0) (pdu.drop 2) a
          ⟨true, r.2, r.1, c'⟩

/-- The server's loop for one client: call until the connection is closed. -/
def serve : Nat → Conn → Assemblies → Bytes × Assemblies
  | 0, _, a => ([], a)
  | fuel + 1, c, a =>
    let r := modbusTcpHandleRequest c a
    if r.stays then
      let s := serve fuel r.conn r.assemblies
      (r.sent ++ s.1, s.2)
    else (r.sent, r.assemblies)

/-- Bytes and steps that are left. -/
def left (c : Conn) : Nat := c.rest.length + c.steps.length

/-- The loop, to its end: every call that keeps the connection uses up a byte or a step
(`left_lt`). -/
def serveAll (c : Conn) (a : Assemblies) : Bytes × Assemblies := serve (left c + 1) c a

/-! ## 2. The loop ends -/

/-- A call of `recv` uses up a byte or a step, or says that the stream is at its end. -/
theorem left_recv {k : Nat} (hk : 0 < k) (c : Conn) :
    (c.recv k).1 = .closed ∨ left (c.recv k).2 < left c := by
  obtain ⟨rest, steps⟩ := c
  cases steps with
  | nil =>
    by_cases h : rest = []
    · left
      simp [Conn.recv, Conn.deliver, h]
    · right
      have hpos : 0 < rest.length := List.length_pos_of_ne_nil h
      simp only [Conn.recv, Conn.deliver_data [] k h, left, List.length_drop]
      omega
  | cons e steps =>
    cases e with
    | bytes n =>
      by_cases h : rest = []
      · left
        simp [Conn.recv, Conn.deliver, h]
      · right
        simp only [Conn.recv, Conn.deliver_data steps _ h, left, List.length_drop,
          List.length_cons]
        omega
    | wouldBlock => right; simp [Conn.recv, left]
    | reset => right; simp [Conn.recv, left]
    | failed => right; simp [Conn.recv, left]

theorem left_lt {c : Conn} {a : Assemblies} (h : (modbusTcpHandleRequest c a).stays = true) :
    left (modbusTcpHandleRequest c a).conn < left c := by
  have hrecv := left_recv (by decide : 0 < 6) c
  unfold modbusTcpHandleRequest at h ⊢
  revert h
  split
  · intro h; cases h
  · intro h; cases h
  · rename_i hr
    intro _
    simpa [hr] using hrecv
  · rename_i hr
    intro _
    simpa [hr] using hrecv
  · rename_i c' hr
    have hlt : left c' < left c := by simpa [hr] using hrecv
    intro h
    split
    · exact hlt
    · rename_i hlen
      rw [if_neg hlen] at h
      dsimp only at h ⊢
      split
      · rename_i hbad
        rw [if_pos hbad] at h
        cases h
      · rename_i hgood
        rw [if_neg hgood] at h
        split
        · rename_i hread
          rw [hread] at h
          cases h
        · rename_i hread
          obtain ⟨h1, h2⟩ := Conn.readExactly_le hread
          refine Nat.lt_of_le_of_lt ?_ hlt
          simp only [left]
          omega

/-- More fuel than is left in the connection does not matter. -/
theorem serve_fuel {n m : Nat} {c : Conn} (hn : left c < n) (hm : left c < m)
    (a : Assemblies) : serve n c a = serve m c a := by
  induction n generalizing m c a with
  | zero => omega
  | succ n ih =>
    cases m with
    | zero => omega
    | succ m =>
      simp only [serve]
      split
      · rename_i hstays
        have hlt := left_lt hstays
        rw [ih (by omega) (by omega : _ < m)]
      · rfl

/-- The loop, one call at a time. -/
theorem serveAll_eq (c : Conn) (a : Assemblies) :
    serveAll c a =
      if (modbusTcpHandleRequest c a).stays then
        ((modbusTcpHandleRequest c a).sent ++
            (serveAll (modbusTcpHandleRequest c a).conn
              (modbusTcpHandleRequest c a).assemblies).1,
          (serveAll (modbusTcpHandleRequest c a).conn
            (modbusTcpHandleRequest c a).assemblies).2)
      else ((modbusTcpHandleRequest c a).sent, (modbusTcpHandleRequest c a).assemblies) := by
  rw [serveAll, serve]
  split
  · rename_i hstays
    have hlt := left_lt hstays
    rw [serve_fuel hlt (Nat.lt_succ_self _)]
    rfl
  · rfl

/-! ## 3. Requests -/

/-- A well-formed request: protocol id 0, length 2 to 253. -/
structure Adu where
  transactionId : UInt16
  /-- unit id, function code and data -/
  body : Bytes
  two_le : 2 ≤ body.length
  le_253 : body.length ≤ 253

namespace Adu

def header (r : Adu) : Bytes := wire [r.transactionId, 0, UInt16.ofNat r.body.length]

def bytes (r : Adu) : Bytes := r.header ++ r.body

/-- The length its header gives. -/
def length (r : Adu) : Nat := r.body.length

@[simp] theorem header_length (r : Adu) : r.header.length = 6 := rfl

@[simp] theorem bytes_length (r : Adu) : r.bytes.length = 6 + r.length := by
  simp [bytes, length]

theorem length_field (r : Adu) : (field r.header 4).toNat = r.length := by
  have hlt : r.body.length < 65536 := Nat.lt_of_le_of_lt r.le_253 (by decide)
  have hfield : field r.header 4 = UInt16.ofNat r.body.length := glue_high_low _
  rw [hfield, length]
  exact UInt16.toNat_ofNat_of_lt hlt

/-- What `respond` makes of it. -/
def respondTo (r : Adu) (a : Assemblies) : Assemblies × Bytes :=
  respond r.transactionId (r.body.getD 0 0) (r.body.getD 1 0) (r.body.drop 2) a

end Adu

/-- What the client sends. -/
def stream (rs : List Adu) : Bytes := rs.flatMap Adu.bytes

@[simp] theorem stream_cons (r : Adu) (rs : List Adu) :
    stream (r :: rs) = r.header ++ (r.body ++ stream rs) := by
  simp [stream, Adu.bytes]

/-- The responses, request by request, and the assemblies at the end. -/
def answers : List Adu → Assemblies → Bytes × Assemblies
  | [], a => ([], a)
  | r :: rs, a =>
    ((r.respondTo a).2 ++ (answers rs (r.respondTo a).1).1, (answers rs (r.respondTo a).1).2)

/-- The plan gives every header in one piece, for requests of these lengths. -/
def HeadersWhole : List Nat → List Nat → Prop
  | _, [] => True
  | [], _ :: _ => True
  | n :: plan, len :: lens => 6 ≤ n ∧ HeadersWhole (Conn.cutsAfter plan len) lens

/-- A plan that is used up cuts nothing. -/
theorem headersWhole_nil (lens : List Nat) : HeadersWhole [] lens := by
  cases lens <;> trivial

/-! ## 4. Whole headers -/

/-- **One request.**  With its header in one piece, and its body in any, it is answered and
nothing else is touched. -/
theorem modbusTcpHandleRequest_adu (r : Adu) (rest : Bytes) {plan plan' : List Nat}
    (h : (Conn.recv 6 ⟨r.header ++ (r.body ++ rest), plan.map .bytes⟩) =
      (.data r.header, ⟨r.body ++ rest, plan'.map .bytes⟩)) (a : Assemblies) :
    modbusTcpHandleRequest ⟨r.header ++ (r.body ++ rest), plan.map .bytes⟩ a =
      ⟨true, (r.respondTo a).2, (r.respondTo a).1,
        ⟨rest, (Conn.cutsAfter plan' r.length).map .bytes⟩⟩ := by
  have hproto : field r.header 2 = 0 := glue_high_low _
  have htid : field r.header 0 = r.transactionId := glue_high_low _
  have hgood : ¬(field r.header 2 ≠ 0 ∨ r.length < 2 ∨ 253 < r.length) := by
    have h2 := r.two_le
    have h253 := r.le_253
    rintro (hp | hl | hl)
    · exact hp hproto
    · exact absurd hl (Nat.not_lt.2 h2)
    · exact absurd hl (Nat.not_lt.2 h253)
  have hread := Conn.readExactly_cut plan' r.length (r.body ++ rest) []
    (by simp [Adu.length])
  have htake : (r.body ++ rest).take r.length = r.body := List.take_left
  have hdrop : (r.body ++ rest).drop r.length = rest := List.drop_left
  rw [htake, hdrop, List.nil_append] at hread
  have hlong : ¬r.header.length < 6 := by simp
  simp only [modbusTcpHandleRequest, h, if_neg hlong, r.length_field, if_neg hgood, hread, htid]
  rfl

/-- The header comes in one piece when the plan's next piece is long enough, or the plan is used
up. -/
theorem recv_header (r : Adu) (rest : Bytes) {plan : List Nat}
    (h : ∀ n ∈ plan.head?, 6 ≤ n) :
    Conn.recv 6 ⟨r.header ++ rest, plan.map .bytes⟩ =
      (.data r.header, ⟨rest, plan.tail.map .bytes⟩) := by
  have hne : r.header ++ rest ≠ [] := by simp [Adu.header]
  have htake : (r.header ++ rest).take 6 = r.header := List.take_left' r.header_length
  have hdrop : (r.header ++ rest).drop 6 = rest := List.drop_left' r.header_length
  cases plan with
  | nil =>
    rw [List.map_nil, Conn.recv_nil, Conn.deliver_data _ _ hne, htake, hdrop]
    rfl
  | cons n plan =>
    have hcut : Conn.cut n 6 = 6 := by
      have hn : 6 ≤ n := h n rfl
      simp only [Conn.cut]
      omega
    rw [List.map_cons, Conn.recv_bytes, hcut, Conn.deliver_data _ _ hne, htake, hdrop]
    rfl

/-- **Whole headers.**  Under a plan that cuts no header, every request is answered in turn. -/
theorem serveAll_headersWhole (rs : List Adu) {plan : List Nat}
    (h : HeadersWhole plan (rs.map Adu.length)) (a : Assemblies) :
    serveAll ⟨stream rs, plan.map .bytes⟩ a = answers rs a := by
  induction rs generalizing plan a with
  | nil => cases plan <;> rfl
  | cons r rs ih =>
    have hhead : ∀ n ∈ plan.head?, 6 ≤ n := by
      intro n hn
      cases plan with
      | nil => cases hn
      | cons m plan =>
        obtain rfl : m = n := by simpa using hn
        exact h.1
    have htail : HeadersWhole (Conn.cutsAfter plan.tail r.length) (rs.map Adu.length) := by
      cases plan with
      | nil =>
        cases r.length with
        | zero => exact headersWhole_nil _
        | succ n => exact headersWhole_nil _
      | cons m plan => exact h.2
    have hone := modbusTcpHandleRequest_adu r (stream rs) (recv_header r _ hhead) a
    rw [serveAll_eq, stream_cons, hone]
    simp only [if_true, answers, ih htail]

/-! ## 5. A cut header -/

/-- A request of the same length with every bit set that is free. -/
def Adu.allOnes (r : Adu) : Adu where
  transactionId := 0xFFFF
  body := List.replicate r.length 0xFF
  two_le := List.length_replicate.symm ▸ r.two_le
  le_253 := List.length_replicate.symm ▸ r.le_253

namespace Adu

@[simp] theorem allOnes_length (r : Adu) : r.allOnes.length = r.length := by
  simp [length, allOnes]

/-- No function has code 0xFF: the answer is an exception, of nine bytes. -/
theorem respondTo_allOnes (r : Adu) (a : Assemblies) :
    r.allOnes.respondTo a = (a, sendException 0xFFFF 0xFF 0xFF exIllegalFunction) := by
  have h2 := r.two_le
  have hbyte : ∀ i < r.length, (List.replicate r.length (0xFF : UInt8)).getD i 0 = 0xFF := by
    intro i hi
    simp [List.getD_eq_getElem?_getD, hi]
  have hunit : r.allOnes.body.getD 0 0 = 0xFF := hbyte 0 (Nat.lt_of_lt_of_le (by decide) h2)
  have hcode : r.allOnes.body.getD 1 0 = 0xFF := hbyte 1 (Nat.lt_of_lt_of_le (by decide) h2)
  rw [respondTo, hunit, hcode]
  rfl

end Adu

/-- The stream of the same requests with every free bit set. -/
def onesStream (rs : List Adu) : Bytes := stream (rs.map Adu.allOnes)

theorem onesStream_cons (r : Adu) (rs : List Adu) :
    onesStream (r :: rs) =
      0xFF :: 0xFF :: 0 :: 0 :: 0 :: UInt8.ofNat r.length ::
        (List.replicate r.length 0xFF ++ onesStream rs) := by
  have hlow : low (UInt16.ofNat r.length) = UInt8.ofNat r.length := by
    apply UInt8.toNat_inj.1
    rw [low_toNat]
    have h := r.le_253
    have hr : r.length = r.body.length := rfl
    simp
  have hhigh : high (UInt16.ofNat r.length) = 0 := by
    apply UInt8.toNat_inj.1
    rw [high_toNat]
    have h := r.le_253
    have hr : r.length = r.body.length := rfl
    simp
    omega
  have hlen : r.allOnes.body.length = r.length := r.allOnes_length
  have hones : high 0xFFFF = 0xFF ∧ low 0xFFFF = 0xFF := by decide
  have hzero : high 0 = 0 ∧ low 0 = 0 := by decide
  rw [onesStream, List.map_cons, stream_cons, Adu.header, hlen]
  simp only [wire_cons, hlow, hhigh, Adu.allOnes, hones, hzero, wire_nil, List.cons_append,
    List.nil_append, onesStream]

theorem onesStream_cons_append (r : Adu) (rs : List Adu) :
    onesStream (r :: rs) = r.allOnes.bytes ++ onesStream rs := rfl

/-- Past the length, every byte up to the first two of the next request is 0xFF. -/
theorem onesStream_getD (r : Adu) (rs : List Adu) {i : Nat} (h6 : 6 ≤ i)
    (hi : i < 8 + r.length) (hlen : i < (onesStream (r :: rs)).length) :
    (onesStream (r :: rs)).getD i 0 = 0xFF := by
  obtain ⟨j, rfl⟩ := Nat.exists_eq_add_of_le' h6
  rw [onesStream_cons] at hlen ⊢
  simp only [List.length_cons, List.length_append, List.length_replicate] at hlen
  simp only [List.getD_cons_succ]
  by_cases hj : j < r.length
  · simp [List.getD_eq_getElem?_getD, List.getElem?_append_left, hj]
  · obtain ⟨t, rfl⟩ := Nat.exists_eq_add_of_le (Nat.le_of_not_lt hj)
    have hright : (List.replicate r.length 0xFF ++ onesStream rs).getD (r.length + t) 0 =
        (onesStream rs).getD t 0 := by
      simp [List.getD_eq_getElem?_getD, List.getElem?_append_right]
    rw [hright]
    cases rs with
    | nil =>
      simp only [onesStream, stream, List.map_nil, List.flatMap_nil, List.length_nil] at hlen
      omega
    | cons r' rs =>
      rw [onesStream_cons]
      obtain rfl | rfl : t = 0 ∨ t = 1 := by omega
      · rfl
      · rfl

/-- A field is zero only when both its bytes are. -/
theorem glue_eq_zero {h l : UInt8} (hz : glue h l = 0) : h = 0 ∧ l = 0 := by
  have hnat := congrArg UInt16.toNat hz
  rw [glue_toNat] at hnat
  have hsum : h.toNat * 256 + l.toNat = 0 := hnat
  exact ⟨UInt8.toNat_inj.1 (by omega : h.toNat = 0),
    UInt8.toNat_inj.1 (by omega : l.toNat = 0)⟩

/-- **Six bytes from the middle of a request are no header.** -/
theorem onesStream_rejected (r : Adu) (rs : List Adu) {d : Nat} (h1 : 1 ≤ d)
    (hd : d < 6 + r.length) (hlen : d + 6 ≤ (onesStream (r :: rs)).length) :
    field (((onesStream (r :: rs)).drop d).take 6) 2 ≠ 0 ∨
      253 < (field (((onesStream (r :: rs)).drop d).take 6) 4).toNat := by
  have hget : ∀ i < 6, (((onesStream (r :: rs)).drop d).take 6).getD i 0 =
      (onesStream (r :: rs)).getD (d + i) 0 := by
    intro i hi
    simp [List.getD_eq_getElem?_getD, hi]
  have hones : ∀ i, 6 ≤ i → i < 8 + r.length → i < d + 6 →
      (onesStream (r :: rs)).getD i 0 = 0xFF := fun i h6 hi hlt =>
    onesStream_getD r rs h6 hi (Nat.lt_of_lt_of_le hlt hlen)
  have hlength : (onesStream (r :: rs)).getD 5 0 = UInt8.ofNat r.length := by
    rw [onesStream_cons]
    rfl
  have hr2 : 2 ≤ r.length := r.two_le
  have hr253 : r.length ≤ 253 := r.le_253
  have hnat : (UInt8.ofNat r.length).toNat = r.length :=
    UInt8.toNat_ofNat_of_lt (by omega : r.length < 256)
  have hne : UInt8.ofNat r.length ≠ 0 := by
    intro hz
    have := congrArg UInt8.toNat hz
    rw [hnat] at this
    exact absurd this (by omega : r.length ≠ 0)
  simp only [field, hget _ (by decide : 2 < 6), hget _ (by decide : 2 + 1 < 6),
    hget _ (by decide : 4 < 6), hget _ (by decide : 4 + 1 < 6)]
  -- where the length byte of this request falls decides which field is wrong
  obtain rfl | rfl | rfl | h4 : d = 1 ∨ d = 2 ∨ d = 3 ∨ 4 ≤ d := by omega
  · right
    rw [glue_toNat, hlength, hones 6 (by omega) (by omega) (by omega), hnat]
    omega
  · left
    intro hz
    exact hne (hlength ▸ (glue_eq_zero hz).2)
  · left
    intro hz
    exact hne (hlength ▸ (glue_eq_zero hz).1)
  · left
    intro hz
    have hff := hones (d + 2) (by omega) (by omega) (by omega)
    have hzero := (glue_eq_zero hz).1
    rw [hff] at hzero
    exact absurd hzero (by decide)

/-- Where a client that has lost its place reads on: `d` bytes into a request, with `rs` to come. -/
theorem onesStream_drop (r : Adu) (rs : List Adu) {d : Nat} (h1 : 1 ≤ d)
    (hd : d ≤ 12 + r.length) :
    ∃ r' rs' d', (onesStream (r :: rs)).drop d = (onesStream (r' :: rs')).drop d' ∧
      1 ≤ d' ∧ d' ≤ 6 + r'.length ∧ rs'.length ≤ rs.length := by
  by_cases hin : d ≤ 6 + r.length
  · exact ⟨r, rs, d, rfl, h1, hin, Nat.le_refl _⟩
  · have hlen : r.allOnes.bytes.length = 6 + r.length := by simp
    obtain ⟨k, rfl⟩ := Nat.exists_eq_add_of_le (Nat.le_of_not_le hin)
    have hdrop : (onesStream (r :: rs)).drop (6 + r.length + k) = (onesStream rs).drop k := by
      rw [← List.drop_drop, onesStream_cons_append, List.drop_left' hlen]
    cases rs with
    | nil =>
      refine ⟨r, [], 6 + r.length, ?_, by omega, Nat.le_refl _, Nat.le_refl _⟩
      rw [hdrop, onesStream_cons_append, List.drop_left' hlen]
      simp [onesStream, stream]
    | cons r' rs =>
      exact ⟨r', rs, k, hdrop, by omega, by omega, Nat.le_succ _⟩

theorem modbusTcpHandleRequest_short {c c' : Conn} {mbapHeader : Bytes}
    (h : c.recv 6 = (.data mbapHeader, c')) (hlen : mbapHeader.length < 6) (a : Assemblies) :
    modbusTcpHandleRequest c a = ⟨true, [], a, c'⟩ := by
  simp only [modbusTcpHandleRequest, h, if_pos hlen]

theorem modbusTcpHandleRequest_rejected {c c' : Conn} {mbapHeader : Bytes}
    (h : c.recv 6 = (.data mbapHeader, c')) (hlen : ¬mbapHeader.length < 6)
    (hbad : field mbapHeader 2 ≠ 0 ∨ 253 < (field mbapHeader 4).toNat) (a : Assemblies) :
    modbusTcpHandleRequest c a = ⟨false, [], a, c'⟩ := by
  have hbad' : field mbapHeader 2 ≠ 0 ∨ (field mbapHeader 4).toNat < 2 ∨
      253 < (field mbapHeader 4).toNat := hbad.imp_right Or.inr
  simp only [modbusTcpHandleRequest, h, if_neg hlen, if_pos hbad']

/-- One call of `recv` under a plan of pieces. -/
theorem recv_pieces {rest : Bytes} (hne : rest ≠ []) (plan : List Nat) :
    ∃ k plan', 1 ≤ k ∧ k ≤ 6 ∧
      Conn.recv 6 ⟨rest, plan.map .bytes⟩ =
        (.data (rest.take k), ⟨rest.drop k, List.map .bytes plan'⟩) := by
  cases plan with
  | nil => exact ⟨6, [], by decide, by decide, Conn.deliver_data _ _ hne⟩
  | cons n plan =>
    exact ⟨Conn.cut n 6, plan, by simp only [Conn.cut]; omega, Nat.min_le_right _ _,
      Conn.deliver_data _ _ hne⟩

/-- **A client that has lost its place** gets at most one answer, of nine bytes, for each request
that had not begun. -/
theorem serve_late (fuel : Nat) (r : Adu) (rs : List Adu) {d : Nat} (h1 : 1 ≤ d)
    (hd : d ≤ 6 + r.length) (plan : List Nat) (a : Assemblies) :
    (serve fuel ⟨(onesStream (r :: rs)).drop d, plan.map .bytes⟩ a).1.length ≤
      9 * rs.length := by
  induction fuel generalizing r rs d plan with
  | zero => exact Nat.zero_le _
  | succ fuel ih =>
    by_cases hend : (onesStream (r :: rs)).drop d = []
    · have hclosed : modbusTcpHandleRequest ⟨(onesStream (r :: rs)).drop d, plan.map .bytes⟩ a =
          ⟨false, [], a, ⟨[], plan.tail.map .bytes⟩⟩ := by
        rw [hend]
        cases plan <;> rfl
      simp [serve, hclosed]
    · obtain ⟨k, plan', hk1, hk6, hrecv⟩ := recv_pieces hend plan
      by_cases hshort : (((onesStream (r :: rs)).drop d).take k).length < 6
      · obtain ⟨r', rs', d', hdrop, h1', hd', hle⟩ :=
          onesStream_drop r rs (by omega : 1 ≤ d + k) (by omega)
        have hih := ih r' rs' h1' hd' plan'
        rw [serve, modbusTcpHandleRequest_short hrecv hshort, List.drop_drop, hdrop]
        simp only [if_true, List.nil_append]
        omega
      · have hlen := hshort
        rw [List.length_take, List.length_drop] at hlen
        obtain rfl : k = 6 := by omega
        by_cases hin : d < 6 + r.length
        · have hbad := onesStream_rejected r rs h1 hin (by omega)
          rw [serve, modbusTcpHandleRequest_rejected hrecv hshort hbad]
          exact Nat.zero_le _
        · obtain rfl : d = 6 + r.length := by omega
          have hrest : (onesStream (r :: rs)).drop (6 + r.length) = onesStream rs := by
            rw [onesStream_cons_append, List.drop_left' (by simp)]
          rw [hrest] at hend hrecv ⊢
          cases rs with
          | nil => exact absurd rfl hend
          | cons r' rs =>
            have hhead : Conn.recv 6 ⟨r'.allOnes.header ++ (r'.allOnes.body ++ onesStream rs),
                plan.map .bytes⟩ = (.data r'.allOnes.header,
                  ⟨r'.allOnes.body ++ onesStream rs, plan'.map .bytes⟩) := hrecv
            have hone := modbusTcpHandleRequest_adu r'.allOnes (onesStream rs) hhead a
            have hih := ih r' rs (by omega : 1 ≤ 6 + r'.length) (Nat.le_refl _)
              (Conn.cutsAfter plan' r'.allOnes.length)
            rw [onesStream_cons_append, List.drop_left' (by simp)] at hih
            have hsplit : onesStream (r' :: rs) =
                r'.allOnes.header ++ (r'.allOnes.body ++ onesStream rs) := stream_cons _ _
            rw [serve, hsplit, hone, Adu.respondTo_allOnes]
            simp only [if_true, List.length_append, sendException, List.length_cons,
              List.length_nil]
            omega

theorem answers_allOnes (rs : List Adu) (a : Assemblies) :
    (answers (rs.map Adu.allOnes) a).1.length = 9 * rs.length := by
  induction rs with
  | nil => rfl
  | cons r rs ih =>
    simp only [List.map_cons, answers, Adu.respondTo_allOnes, List.length_append, ih,
      sendException, List.length_cons, List.length_nil]
    omega

/-- A plan that cuts a header loses an answer. -/
theorem serveAll_cutHeader (rs : List Adu) {plan : List Nat}
    (h : ¬HeadersWhole plan (rs.map Adu.length)) (a : Assemblies) :
    (serveAll ⟨onesStream rs, plan.map .bytes⟩ a).1.length < 9 * rs.length := by
  induction rs generalizing plan with
  | nil => exact absurd trivial (by cases plan <;> exact h)
  | cons r rs ih =>
    cases plan with
    | nil => exact absurd (headersWhole_nil _) h
    | cons n plan =>
      have hsplit : onesStream (r :: rs) =
          r.allOnes.header ++ (r.allOnes.body ++ onesStream rs) := stream_cons _ _
      by_cases hn : 6 ≤ n
      · have hhead := recv_header r.allOnes (r.allOnes.body ++ onesStream rs)
          (by simpa using hn : ∀ m ∈ (n :: plan).head?, 6 ≤ m)
        have hone := modbusTcpHandleRequest_adu r.allOnes (onesStream rs) hhead a
        have hrest := ih (fun hw => h ⟨hn, hw⟩)
        rw [serveAll_eq, hsplit, hone, Adu.respondTo_allOnes, Adu.allOnes_length, List.tail_cons]
        simp only [if_true, List.length_append, sendException, List.length_cons,
          List.length_nil]
        omega
      · have hne : onesStream (r :: rs) ≠ [] := by
          rw [onesStream_cons]
          exact List.cons_ne_nil _ _
        have hcut : Conn.cut n 6 < 6 := by
          simp only [Conn.cut]
          omega
        have hrecv : Conn.recv 6 ⟨onesStream (r :: rs), (n :: plan).map .bytes⟩ =
            (.data ((onesStream (r :: rs)).take (Conn.cut n 6)),
              ⟨(onesStream (r :: rs)).drop (Conn.cut n 6), plan.map .bytes⟩) :=
          Conn.deliver_data _ _ hne
        have hshort : ((onesStream (r :: rs)).take (Conn.cut n 6)).length < 6 := by
          rw [List.length_take]
          omega
        have hlate := serve_late (left ⟨(onesStream (r :: rs)).drop (Conn.cut n 6),
          plan.map .bytes⟩ + 1) r rs (by simp only [Conn.cut]; omega : 1 ≤ Conn.cut n 6)
          (by omega) plan a
        rw [serveAll_eq, modbusTcpHandleRequest_short hrecv hshort]
        simp only [if_true, List.nil_append, List.length_cons]
        rw [serveAll]
        omega

/-! ## 6. Independence of the split -/

/-- **Segmentation.**  Cutting the stream by a plan gives all requests of these lengths the
answers and the assemblies that they get uncut exactly when it cuts no header. -/
theorem segmentation_iff (rs : List Adu) (plan : List Nat) :
    (∀ rs' : List Adu, rs'.map Adu.length = rs.map Adu.length → ∀ a,
      serveAll ⟨stream rs', plan.map .bytes⟩ a = serveAll ⟨stream rs', []⟩ a) ↔
    HeadersWhole plan (rs.map Adu.length) := by
  constructor
  · intro hall
    by_contra hcut
    have hones : (rs.map Adu.allOnes).map Adu.length = rs.map Adu.length := by simp
    have hsame := hall _ hones Assemblies.zero
    have huncut := serveAll_headersWhole (rs.map Adu.allOnes) (headersWhole_nil _)
      Assemblies.zero
    have hfew := serveAll_cutHeader rs hcut Assemblies.zero
    have hmany := answers_allOnes rs Assemblies.zero
    rw [List.map_nil] at huncut
    rw [← huncut, ← hsame] at hmany
    exact absurd hmany (Nat.ne_of_lt hfew)
  · intro hwhole rs' hlen a
    have hcut := serveAll_headersWhole rs' (hlen ▸ hwhole) a
    have huncut := serveAll_headersWhole rs' (headersWhole_nil _) a
    exact hcut.trans huncut.symm

/-- A request to write 0x0101 to register 100. -/
def writeOne : Adu where
  transactionId := 7
  body := [1, 6, 0, 100, 1, 1]
  two_le := by decide
  le_253 := by decide

/-- Five bytes of the header, and then the rest: the write is lost, and there is no answer. -/
theorem segmentation_lost :
    serveAll ⟨stream [writeOne], [.bytes 5]⟩ Assemblies.zero = ([], Assemblies.zero) ∧
    serveAll ⟨stream [writeOne], [.bytes 5]⟩ Assemblies.zero ≠
      serveAll ⟨stream [writeOne], []⟩ Assemblies.zero := by
  decide +kernel

end GroundTruth.Modbus
