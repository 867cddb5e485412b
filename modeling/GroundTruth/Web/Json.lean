/-
# JSON requests that are read with one call

The POST handlers of the web interface have one shape: one `httpd_req_recv` into a buffer, the text
parsed by `cJSON_Parse`, the items looked at, and then whatever the handler does.  `JsonHandler` is
this shape, and carries with it that what it refuses it answers with 400.

`cJSON_Parse` is a parameter.  What is known of it is `ReadsOne`: it reads one value from the front
and does not look at what follows.

* `recv_front`: what one call returns is the front of the body;
* `JsonHandler.observed_eq_iff`: a split makes no difference just when what arrives first is a JSON
  text already, or the handler refuses the whole body anyway.
-/
import GroundTruth.Lib.Recv
import GroundTruth.Lib.CString

namespace GroundTruth.Web

open GroundTruth.Lib

/-! ## 1. JSON and replies -/

/-- An item of a JSON object, as far as the handlers tell items apart. -/
inductive Item
  | bool (value : Bool)
  /-- a number, known by what its cast to `uint8_t` is -/
  | number (value : UInt8)
  | string (value : Bytes)
  | other
  deriving DecidableEq, Repr

/-- A JSON value, by what `cJSON_GetObjectItem` finds in it: nothing, unless it is an object. -/
abbrev Json := String → Option Item

/-- The item, if it passes `cJSON_IsBool`; it is then `cJSON_IsTrue` of it. -/
def Json.bool (j : Json) (key : String) : Option Bool :=
  match j key with
  | some (.bool value) => some value
  | _ => none

/-- The item, if it passes `cJSON_IsNumber`. -/
def Json.number (j : Json) (key : String) : Option UInt8 :=
  match j key with
  | some (.number value) => some value
  | _ => none

/-- The item, if it passes `cJSON_IsString`. -/
def Json.string (j : Json) (key : String) : Option Bytes :=
  match j key with
  | some (.string value) => some value
  | _ => none

/-- `cJSON_Parse` reads one value from the front of the text and does not look at what follows. -/
structure ReadsOne (parse : Bytes → Option Json) : Prop where
  append : ∀ text rest j, parse text = some j → parse (text ++ rest) = some j

inductive ReplyItem
  | text (value : String)
  | flag (value : Bool)
  | number (value : Nat)
  deriving DecidableEq, Repr

inductive ReplyBody
  /-- what `httpd_resp_send_500` sends -/
  | standard
  | text (value : String)
  | json (items : List (String × ReplyItem))
  deriving DecidableEq, Repr

structure Reply where
  status : Nat
  body : ReplyBody
  deriving DecidableEq, Repr

/-- `httpd_resp_send_err` with `HTTPD_400_BAD_REQUEST`. -/
def Reply.badRequest (text : String) : Reply := ⟨400, .text text⟩

/-- `httpd_resp_send_err` with `HTTPD_500_INTERNAL_SERVER_ERROR`. -/
def Reply.serverError (text : String) : Reply := ⟨500, .text text⟩

/-- `send_json_error`. -/
def sendJsonError (message : String) (status : Nat) : Reply :=
  ⟨if status = 500 then 500 else 400,
    .json [("status", .text "error"), ("message", .text message)]⟩

/-- `send_json_response`. -/
def sendJsonResponse (items : List (String × ReplyItem)) (ok : Bool) : Reply :=
  ⟨if ok = true then 200 else 400, .json items⟩

/-! ## 2. A handler -/

/-- A handler that reads its request with one call.  `ν` are the values that it acts on. -/
structure JsonHandler (σ ν : Type) where
  /-- `sizeof(content)` -/
  size : Nat
  /-- the answer when nothing is received -/
  noData : Reply
  /-- the answer to a text that is not JSON -/
  invalidJson : Reply
  /-- the values it takes from the items, or its answer when it does not like them -/
  read : Json → Except Reply ν
  /-- what it does then; `none` is a call that does not return -/
  act : ν → σ → Option (Reply × σ)
  noData_status : noData.status = 500
  invalidJson_status : invalidJson.status = 400
  read_status : ∀ j r, read j = .error r → r.status = 400

/-- What comes of a request. -/
structure Outcome (σ ν : Type) where
  /-- the values that were acted on, if it came to that -/
  values : Option ν
  result : Option (Reply × σ)

variable {σ ν : Type}

/-- The values acted on, the HTTP status and the new state. -/
def Outcome.observed (o : Outcome σ ν) : Option ν × Option (Nat × σ) :=
  (o.values, o.result.map fun r => (r.1.status, r.2))

/-- An answer, and nothing else. -/
def Outcome.refused (r : Reply) (s : σ) : Outcome σ ν := ⟨none, some (r, s)⟩

namespace JsonHandler

variable (h : JsonHandler σ ν) (parse : Bytes → Option Json)

/-- What the handler does with the bytes it has received, a terminating NUL after them. -/
def onContent (content : Bytes) (s : σ) : Outcome σ ν :=
  match parse (cstr content) with
  | none => .refused h.invalidJson s
  | some j =>
    match h.read j with
    | .error r => .refused r s
    | .ok v => ⟨some v, h.act v s⟩

/-- The handler. -/
def handle (c : Conn) (s : σ) : Outcome σ ν :=
  match (c.recv (h.size - 1)).1 with
  | .data content => h.onContent parse content s
  | .closed | .wouldBlock | .reset | .failed => .refused h.noData s

/-- The body is not JSON, or the handler does not like what is in it. -/
def Refuses (body : Bytes) : Prop := ∀ j, parse (cstr body) = some j → ∃ r, h.read j = .error r

/-- What the first call returns is enough: it is a JSON text already, or the handler refuses the
whole body. -/
def Enough (body : Bytes) : RecvResult → Prop
  | .data content => (parse (cstr content)).isSome = true ∨ h.Refuses parse body
  | .closed | .wouldBlock | .reset | .failed => body = []

end JsonHandler

/-! ## 3. A split -/

/-- What one call returns is the front of the stream. -/
theorem recv_front {ask : Nat} {c : Conn} {bs : Bytes} (h : (c.recv ask).1 = .data bs) :
    c.rest ≠ [] ∧ ∃ rest, c.rest = bs ++ rest := by
  obtain ⟨body, steps⟩ := c
  have hdeliver : ∀ {steps : List RecvStep} {k : Nat},
      (Conn.deliver body steps k).1 = .data bs → body ≠ [] ∧ ∃ rest, body = bs ++ rest := by
    intro steps k h
    unfold Conn.deliver at h
    split at h
    · cases h
    · rename_i hbody
      obtain rfl := RecvResult.data.inj h
      exact ⟨hbody, body.drop k, (List.take_append_drop k body).symm⟩
  cases steps with
  | nil => exact hdeliver h
  | cons e steps =>
    cases e with
    | bytes n => exact hdeliver h
    | wouldBlock => cases h
    | reset => cases h
    | failed => cases h

/-- The string in the front of a text is the front of the string in the text. -/
theorem cstr_append_eq (front rest : Bytes) : ∃ more, cstr (front ++ rest) = cstr front ++ more := by
  by_cases h : (0 : UInt8) ∈ front
  · obtain ⟨before, after, rfl, -⟩ := List.eq_append_cons_of_mem h
    refine ⟨[], ?_⟩
    rw [List.append_assoc, List.cons_append, cstr_append_zero, cstr_append_zero, List.append_nil]
  · refine ⟨cstr rest, ?_⟩
    rw [cstr_append h, cstr_of_zero_not_mem h]

/-- Undivided, a body that fits arrives whole. -/
theorem recv_whole {ask : Nat} {body : Bytes} (hfit : body.length ≤ ask) :
    (Conn.recv ask ⟨body, []⟩).1 = if body = [] then .closed else .data body := by
  rw [Conn.recv_nil, Conn.deliver]
  split
  · rfl
  · rw [List.take_of_length_le hfit]

namespace JsonHandler

variable {h : JsonHandler σ ν} {parse : Bytes → Option Json} {body content : Bytes} {s : σ}

@[simp] theorem observed_refused (r : Reply) :
    (Outcome.refused r s : Outcome σ ν).observed = (none, some (r.status, s)) := rfl

/-- The whole body, where the handler refuses it. -/
theorem onContent_of_refuses (hr : h.Refuses parse body) :
    (h.onContent parse body s).observed = (none, some (400, s)) := by
  unfold onContent
  cases hp : parse (cstr body) with
  | none => rw [observed_refused, h.invalidJson_status]
  | some j =>
    obtain ⟨r, hread⟩ := hr j hp
    simp only [hread, observed_refused, h.read_status j r hread]

/-- The whole body, where it does not. -/
theorem onContent_of_not_refuses (hr : ¬h.Refuses parse body) :
    ∃ v, (h.onContent parse body s).observed.1 = some v := by
  unfold Refuses at hr
  push Not at hr
  obtain ⟨j, hp, hread⟩ := hr
  cases hv : h.read j with
  | error r => exact absurd hv (hread r)
  | ok v =>
    refine ⟨v, ?_⟩
    simp only [onContent, hp, hv, Outcome.observed]

/-- What is JSON already is read as the whole. -/
theorem onContent_append (hparse : ReadsOne parse) {rest : Bytes}
    (hsome : (parse (cstr content)).isSome = true) :
    h.onContent parse (content ++ rest) s = h.onContent parse content s := by
  obtain ⟨j, hj⟩ := Option.isSome_iff_exists.1 hsome
  obtain ⟨more, hmore⟩ := cstr_append_eq content rest
  simp only [onContent, hmore, hparse.append _ more j hj, hj]

/-- What is not JSON yet is refused. -/
theorem onContent_of_none (hnone : ¬(parse (cstr content)).isSome = true) :
    (h.onContent parse content s).observed = (none, some (400, s)) := by
  rw [Bool.not_eq_true, Option.isSome_eq_false_iff, Option.isNone_iff_eq_none] at hnone
  simp only [onContent, hnone, observed_refused, h.invalidJson_status]

/-- Undivided, a body that fits is read whole. -/
theorem handle_whole (hfit : body.length ≤ h.size - 1) :
    h.handle parse ⟨body, []⟩ s =
      if body = [] then .refused h.noData s else h.onContent parse body s := by
  rw [handle, recv_whole hfit]
  by_cases hbody : body = []
  · rw [if_pos hbody, if_pos hbody]
  · rw [if_neg hbody, if_neg hbody]

/-- Nothing received is as good as the whole only where there is nothing. -/
theorem refused_eq_iff (hfit : body.length ≤ h.size - 1) :
    (Outcome.refused h.noData s : Outcome σ ν).observed =
      (h.handle parse ⟨body, []⟩ s).observed ↔ body = [] := by
  rw [handle_whole hfit]
  by_cases hbody : body = []
  · rw [if_pos hbody]
    exact iff_of_true rfl hbody
  · rw [if_neg hbody]
    refine iff_of_false (fun heq => ?_) hbody
    by_cases hrefuses : h.Refuses parse body
    · rw [onContent_of_refuses hrefuses, observed_refused, h.noData_status] at heq
      simp at heq
    · obtain ⟨v, hv⟩ := onContent_of_not_refuses (s := s) hrefuses
      rw [← heq] at hv
      cases hv

/-- The front of a body, against the whole. -/
theorem onContent_eq_iff (hparse : ReadsOne parse) (content rest : Bytes) :
    (h.onContent parse content s).observed =
        (h.onContent parse (content ++ rest) s).observed ↔
      (parse (cstr content)).isSome = true ∨ h.Refuses parse (content ++ rest) := by
  by_cases hsome : (parse (cstr content)).isSome = true
  · rw [onContent_append hparse hsome]
    exact iff_of_true rfl (Or.inl hsome)
  · rw [onContent_of_none hsome]
    by_cases hrefuses : h.Refuses parse (content ++ rest)
    · rw [onContent_of_refuses hrefuses]
      exact iff_of_true rfl (Or.inr hrefuses)
    · obtain ⟨v, hv⟩ := onContent_of_not_refuses (s := s) hrefuses
      refine iff_of_false (fun heq => ?_) (not_or_intro hsome hrefuses)
      rw [← heq] at hv
      cases hv

/-- **A split body**: status, state and values are those of the whole body just when what the
first call returns is enough. -/
theorem observed_eq_iff (h : JsonHandler σ ν) (hparse : ReadsOne parse)
    (hfit : body.length ≤ h.size - 1) (steps : List RecvStep) (s : σ) :
    (h.handle parse ⟨body, steps⟩ s).observed = (h.handle parse ⟨body, []⟩ s).observed ↔
      h.Enough parse body (Conn.recv (h.size - 1) ⟨body, steps⟩).1 := by
  rw [handle]
  cases hrecv : (Conn.recv (h.size - 1) ⟨body, steps⟩).1 with
  | data content =>
    obtain ⟨hbody, rest, hrest⟩ := recv_front hrecv
    have hrest : body = content ++ rest := hrest
    have hwhole := onContent_eq_iff (h := h) (s := s) hparse content rest
    rw [handle_whole hfit, if_neg hbody]
    rw [← hrest] at hwhole
    exact hwhole
  | closed => exact refused_eq_iff hfit
  | wouldBlock => exact refused_eq_iff hfit
  | reset => exact refused_eq_iff hfit
  | failed => exact refused_eq_iff hfit

end JsonHandler

end GroundTruth.Web
