/-
# The contexts of the callbacks of `tcpip_perform_acd`

`tcpip_perform_acd` allocates an `AcdStartContext` before it knows whether it needs it, and an
`AcdStartProbeContext` when `acd_start` fails.  It frees them itself, or posts them with a callback
to the thread of lwIP, and the callback frees them.

The variables it shares with other threads are read where the source reads them, and each time they
may be anything: whoever else is at work, this covers it.  The two threads take turns.

* `history_start`, `history_probe`: what becomes of the two contexts;
* `contexts_owned`: both are freed once, and not used afterwards, if and only if one of two things
  happens and not the other: the direct registration, or that the callback is posted;
* `registered_leak`: when the client is registered already, neither does.

A post that fails is one of the cases in which the context is lost: the comment under it says that
the callback has freed it.
-/
import GroundTruth.Lib.Handover
import GroundTruth.Lib.Resource

namespace GroundTruth.Acd

open GroundTruth.Lib

/-! ## 1. The calls -/

/-- The two contexts. -/
inductive Context
  /-- `ctx`, an `AcdStartContext` -/
  | start
  /-- `probe_ctx`, an `AcdStartProbeContext` -/
  | probe
  deriving DecidableEq, Repr

/-- What a call of `tcpip_perform_acd` meets, in the order of the source, and what its callbacks
meet. -/
structure Meets where
  /-- `g_tcpip.select_acd` -/
  selectAcd : Bool
  /-- `netif` is not NULL -/
  netif : Bool
  /-- `s_acd_sem` is there, or can be created -/
  acdSem : Bool
  /-- `s_acd_probe_pending` -/
  probePending : Bool
  /-- `malloc` of the `AcdStartContext` -/
  ctx : Bool
  /-- `s_acd_registration_sem` is there, or can be created -/
  registrationSem : Bool
  /-- `s_acd_registered`, before the direct registration -/
  registered : Bool
  /-- `acd_add` in the direct registration returns `ERR_OK` -/
  directAdd : Bool
  /-- `s_acd_registered`, after it -/
  registeredThen : Bool
  /-- `tcpip_callback_with_block` of `tcpip_acd_start_cb` returns `ERR_OK` -/
  startPosted : Bool
  /-- the registration semaphore is taken in time -/
  signalled : Bool
  /-- `s_acd_registered`, if it was not -/
  registeredLate : Bool
  /-- `acd_add` in the last resort -/
  fallbackAdd : Bool
  /-- `s_acd_registered`, after the wait -/
  registeredAtLast : Bool
  /-- `s_acd_probe_pending && s_acd_registered` -/
  canStart : Bool
  /-- `acd_start` returns `ERR_OK` -/
  started : Bool
  /-- `malloc` of the `AcdStartProbeContext` -/
  probeCtx : Bool
  /-- `tcpip_callback_with_block` of `acd_start_probe_cb` returns `ERR_OK` -/
  probePosted : Bool
  /-- `s_acd_probe_pending`, in `tcpip_acd_start_cb` -/
  cbProbePending : Bool
  /-- `s_acd_registered`, there -/
  cbRegistered : Bool
  /-- `acd_add`, there -/
  cbAdd : Bool

/-- `acd_start`, and the probe context if it fails. -/
def startProbe (m : Meets) : List (Deed Context HandleOp) :=
  if m.canStart then
    if m.started then []
    else if !m.probeCtx then []
    else
      [.op .probe .acquire, .op .probe .use] ++
        if !m.probePosted then [.op .probe .release] else [.post .probe]
  else []

/-- The wait for the registration: whether the call goes on. -/
def awaitRegistration (m : Meets) : Bool :=
  if !m.signalled && !m.registeredLate && !m.fallbackAdd then false else m.registeredAtLast

/-- `tcpip_perform_acd`, up to its wait: what it does to the contexts. -/
def tcpipPerformAcd (m : Meets) : List (Deed Context HandleOp) :=
  if !m.selectAcd then []
  else if !m.netif then []
  else if !m.acdSem then []
  else if !m.probePending then []
  else if !m.ctx then []
  else
    [.op .start .acquire, .op .start .use] ++
      if !m.registrationSem then [.op .start .release]
      else
        (if !m.registered && m.directAdd then [.op .start .release] else []) ++
          if !m.registeredThen then
            if !m.startPosted then []
            else .post .start :: if !awaitRegistration m then [] else startProbe m
          else startProbe m

/-- `tcpip_acd_start_cb`: what it does to its context. -/
def tcpipAcdStartCb (m : Meets) : List HandleOp :=
  -- logged, and `err` set
  [.use, .use] ++
    if !m.netif then [.use, .release]
    else if !m.cbRegistered && !m.cbAdd then
      -- the list of the netif, `acd_add`, `err`
      [.use, .use, .use, .release]
    else
      (if !m.cbRegistered then [.use, .use] else []) ++
        -- the address, and the netif for `acd_add`
        (if !m.cbProbePending then [.use, .use] else []) ++ [.use, .release]

/-- `acd_start_probe_cb`: what it does to its context. -/
def acdStartProbeCb (m : Meets) : List HandleOp :=
  if !m.netif then [.use, .release] else [.use, .use, .use, .use, .use, .release]

/-- The callback that each context is posted with. -/
def callback (m : Meets) : Context → List HandleOp
  | .start => tcpipAcdStartCb m
  | .probe => acdStartProbeCb m

/-! ## 2. The contexts -/

/-- However the call and the callbacks take turns, when they are done each context has been freed
once, and not used afterwards, if it was allocated. -/
def Owned (m : Meets) : Prop :=
  ∀ s, Reach (turn (callback m)) (.start (tcpipPerformAcd m)) s → s.Over →
    ∀ c, ReleasedOnce (opsOf c s.past)

/-- The call comes as far as the registration. -/
def Meets.reaches (m : Meets) : Bool :=
  m.selectAcd && m.netif && m.acdSem && m.probePending && m.ctx && m.registrationSem

/-- The direct registration frees the context. -/
def Meets.direct (m : Meets) : Bool := !m.registered && m.directAdd

/-- The callback is posted, and frees it. -/
def Meets.posts (m : Meets) : Bool := !m.registeredThen && m.startPosted

section History

variable {m : Meets}

/-- The probe context: it is not there, or it is freed at once, or posted. -/
theorem startProbe_cases (m : Meets) :
    startProbe m = [] ∨
    startProbe m = [.op .probe .acquire, .op .probe .use, .op .probe .release] ∨
    startProbe m = [.op .probe .acquire, .op .probe .use, .post .probe] := by
  unfold startProbe
  split_ifs
  · exact .inl rfl
  · exact .inl rfl
  · exact .inr (.inl rfl)
  · exact .inr (.inr rfl)
  · exact .inl rfl

/-- Short of the registration the start context is not there, or it is freed at once. -/
theorem performAcd_before (h : m.reaches = false) :
    tcpipPerformAcd m = [] ∨
    tcpipPerformAcd m = [.op .start .acquire, .op .start .use, .op .start .release] := by
  unfold tcpipPerformAcd
  split
  · exact .inl rfl
  split
  · exact .inl rfl
  split
  · exact .inl rfl
  split
  · exact .inl rfl
  split
  · exact .inl rfl
  split
  · exact .inr rfl
  · simp_all [Meets.reaches]

/-- **The call from the registration on.** -/
theorem performAcd_from (h : m.reaches = true) :
    ∃ l, (l = [] ∨ l = startProbe m) ∧
      tcpipPerformAcd m = [.op .start .acquire, .op .start .use] ++
        ((if m.direct then [.op .start .release] else []) ++
          ((if m.posts then [.post .start] else []) ++ l)) := by
  simp only [Meets.reaches, Bool.and_eq_true] at h
  obtain ⟨⟨⟨⟨⟨h1, h2⟩, h3⟩, h4⟩, h5⟩, h6⟩ := h
  unfold tcpipPerformAcd Meets.direct Meets.posts
  rw [h1, h2, h3, h4, h5, h6]
  cases hthen : m.registeredThen with
  | true => exact ⟨startProbe m, .inr rfl, by simp⟩
  | false =>
    cases hposted : m.startPosted with
    | false => exact ⟨[], .inl rfl, by simp⟩
    | true =>
      cases hawait : awaitRegistration m with
      | false => exact ⟨[], .inl rfl, by simp⟩
      | true => exact ⟨startProbe m, .inr rfl, by simp⟩

/-- What is posted is left to the callback. -/
theorem handed_tcpipPerformAcd (m : Meets) : Handed (tcpipPerformAcd m) := by
  cases h : m.reaches with
  | false => rcases performAcd_before h with he | he <;> simp [he, Handed]
  | true =>
    obtain ⟨l, hl, he⟩ := performAcd_from h
    have hprobe : Handed l ∧ Untouched .start l := by
      rcases hl with rfl | rfl
      · simp [Handed, Untouched]
      · rcases startProbe_cases m with hp | hp | hp <;>
          simp [hp, Handed, Untouched, Deed.thing]
    rw [he]
    cases m.direct <;> cases m.posts <;> simp [Handed, hprobe]

/-- The history of the probe context. -/
theorem history_probe (m : Meets) :
    history (callback m) .probe (tcpipPerformAcd m) = [] ∨
    history (callback m) .probe (tcpipPerformAcd m) = [.acquire, .use, .release] ∨
    history (callback m) .probe (tcpipPerformAcd m) = [.acquire, .use] ++ acdStartProbeCb m := by
  cases h : m.reaches with
  | false => rcases performAcd_before h with he | he <;> simp [he, history]
  | true =>
    obtain ⟨l, hl, he⟩ := performAcd_from h
    have hsame : history (callback m) .probe (tcpipPerformAcd m) =
        history (callback m) .probe l := by
      rw [he]
      cases m.direct <;> cases m.posts <;> simp [history]
    rw [hsame]
    rcases hl with rfl | rfl
    · exact .inl rfl
    · rcases startProbe_cases m with hp | hp | hp <;> simp [hp, history, callback]

/-- **The history of the start context**, from the registration on. -/
theorem history_start (h : m.reaches = true) :
    history (callback m) .start (tcpipPerformAcd m) =
      [.acquire, .use] ++
        ((if m.direct then [.release] else []) ++ if m.posts then tcpipAcdStartCb m else []) := by
  obtain ⟨l, hl, he⟩ := performAcd_from h
  have hnone : history (callback m) .start l = [] := by
    rcases hl with rfl | rfl
    · rfl
    · rcases startProbe_cases m with hp | hp | hp <;> simp [hp, history]
  rw [he]
  cases m.direct <;> cases m.posts <;> simp [history, hnone, callback]

end History

/-! ## 3. The callbacks -/

/-- `tcpip_acd_start_cb` frees its context, at its end. -/
theorem track_startCb (m : Meets) : track .held (tcpipAcdStartCb m) = .released := by
  unfold tcpipAcdStartCb
  split
  · rfl
  split
  · rfl
  · cases m.cbRegistered <;> cases m.cbProbePending <;> rfl

/-- It uses it before. -/
theorem track_startCb_released (m : Meets) : track .released (tcpipAcdStartCb m) = .misused :=
  track_misused _

/-- So does `acd_start_probe_cb`. -/
theorem track_startProbeCb (m : Meets) : track .held (acdStartProbeCb m) = .released := by
  unfold acdStartProbeCb
  split <;> rfl

/-! ## 4. Once and no more -/

/-- The probe context is always freed once. -/
theorem probe_released (m : Meets) :
    ReleasedOnce (history (callback m) .probe (tcpipPerformAcd m)) := by
  rcases history_probe m with h | h | h
  · rw [h]
    exact .inl rfl
  · rw [h]
    exact .inr rfl
  · rw [h]
    refine .inr ?_
    rw [track_append]
    exact track_startProbeCb m

/-- **The start context**: it is freed by the direct registration or by the callback, if by one of
them only. -/
theorem start_released_iff (m : Meets) :
    ReleasedOnce (history (callback m) .start (tcpipPerformAcd m)) ↔
      (m.reaches = true → m.direct ≠ m.posts) := by
  cases h : m.reaches with
  | false =>
    refine iff_of_true ?_ (fun hr => absurd hr (by simp))
    rcases performAcd_before h with he | he
    · rw [he]
      exact .inl rfl
    · rw [he]
      exact .inr rfl
  | true =>
    rw [history_start h, ReleasedOnce, track_append, track_append]
    have hheld : track .fresh [.acquire, .use] = .held := rfl
    rw [hheld]
    cases m.direct <;> cases m.posts
    · simp
    · simp [track_startCb]
    · simp [HandleState.next]
    · simp [HandleState.next, track_startCb_released]

/-- **The contexts**, however the two threads take turns. -/
theorem contexts_owned (m : Meets) : Owned m ↔ (m.reaches = true → m.direct ≠ m.posts) := by
  rw [Owned, handover_iff (handed_tcpipPerformAcd m), ← start_released_iff]
  constructor
  · intro h
    exact h .start
  · intro h c
    cases c with
    | start => exact h
    | probe => exact probe_released m

/-- The link is lost during the probes and comes back: the client is registered, and nothing
fails. -/
def reconnected : Meets where
  selectAcd := true
  netif := true
  acdSem := true
  probePending := true
  ctx := true
  registrationSem := true
  registered := true
  directAdd := true
  registeredThen := true
  startPosted := true
  signalled := true
  registeredLate := true
  fallbackAdd := true
  registeredAtLast := true
  canStart := true
  started := true
  probeCtx := true
  probePosted := true
  cbProbePending := true
  cbRegistered := true
  cbAdd := true

/-- **A context is lost**: it is allocated and written to, and that is all. -/
theorem registered_leak :
    tcpipPerformAcd reconnected = [.op .start .acquire, .op .start .use] ∧ ¬ Owned reconnected := by
  refine ⟨rfl, fun h => ?_⟩
  have hr : Reach (turn (callback reconnected)) (.start (tcpipPerformAcd reconnected))
      ⟨[], [], [], [(.start, .acquire), (.start, .use)]⟩ :=
    exec_reach (rfl : exec _ _ [Turn.poster, Turn.poster] = _)
  have hlost := h _ hr ⟨rfl, rfl, rfl⟩ .start
  revert hlost
  decide

end GroundTruth.Acd
