/-
# The ACD client: `acd.c`

Address conflict detection as the vendored lwIP does it: one state machine per client, driven
by a 100 ms timer (`acd_tmr`) and by every ARP packet received (`acd_arp_reply`), which sends
probes and announcements and tells its user the outcome through a callback.

The user's callback runs INSIDE the two drivers, and it may stop the very client that called
it (`main.c` does), after which `acd_restart` goes on to write the client's state again.  So
the drivers below are not functions on a client: they act on a `Host`, whatever state the
client is part of, through the few things `acd.c` does to its surroundings.  The two users in
this development are the device itself (`Acd/Device.lean`) and a station on a two-party link
(`Acd/Wire.lean`).

Machine integers: `sent_num`, `lastconflict` and `num_conflicts` are `u8_t` and `ttw` is
`u16_t` in the source.  The two that count up wrap, so they are taken modulo 256 here; the two
that count down are only ever set from the configuration.
-/
import Mathlib.Data.List.Basic
import Mathlib.Tactic.Common

namespace GroundTruth.Acd

/-! ## 1. Addresses, packets and the client -/

/-- An IPv4 address as lwIP holds it, in network byte order. -/
abbrev Ip4 := UInt32

/-- `IP4_ADDR_ANY`. -/
def ip4Any : Ip4 := 0

/-- A hardware address. -/
abbrev EthAddr := Vector UInt8 6

inductive ArpOpcode
  | request
  | reply
  deriving DecidableEq, Repr

/-- `struct etharp_hdr`, less the four fields `etharp_input` has already checked. -/
structure ArpHdr where
  opcode : ArpOpcode
  shwaddr : EthAddr
  sipaddr : Ip4
  dhwaddr : EthAddr
  dipaddr : Ip4
  deriving DecidableEq

/-- `acd_state_enum_t`. -/
inductive AcdState
  | off
  | probeWait
  | probing
  | announceWait
  | announcing
  | ongoing
  | passiveOngoing
  | rateLimit
  deriving DecidableEq, Repr

/-- `acd_callback_enum_t`. -/
inductive AcdCallback
  | ipOk
  | restartClient
  | decline
  deriving DecidableEq, Repr

/-- `struct acd`, less the list link and the callback pointer. -/
structure Client where
  ipaddr : Ip4
  state : AcdState
  sentNum : Nat
  ttw : Nat
  lastconflict : Nat
  numConflicts : Nat
  deriving DecidableEq

/-- The client `memset` leaves. -/
def Client.zero : Client := ⟨0, .off, 0, 0, 0, 0⟩

/-! ## 2. Timing -/

/-- The constants of `prot/acd.h` with the `OPENER_ACD_*` overrides of the build. -/
structure Timing where
  probeNum : Nat
  announceNum : Nat
  probeWaitMs : Nat
  probeMinMs : Nat
  probeMaxMs : Nat
  announceIntervalMs : Nat
  announceWaitMs : Nat
  periodicDefendMs : Nat
  maxConflicts : Nat
  rateLimitInterval : Nat

/-- The values of the shipped `sdkconfig`. -/
def Timing.shipped : Timing where
  probeNum := 3
  announceNum := 4
  probeWaitMs := 200
  probeMinMs := 200
  probeMaxMs := 200
  announceIntervalMs := 2000
  announceWaitMs := 2000
  periodicDefendMs := 90000
  maxConflicts := 9
  rateLimitInterval := 20

/-- `ACD_TMR_INTERVAL`. -/
def acdTmrInterval : Nat := 100

/-- `ACD_TICKS_PER_SECOND`. -/
def acdTicksPerSecond : Nat := 1000 / acdTmrInterval

/-- `DEFEND_INTERVAL`, in seconds. -/
def defendInterval : Nat := 10

/-- `OPENER_ACD_MS_TO_TICKS`. -/
def msToTicks (ms : Nat) : Nat :=
  if ms = 0 then 0 else (ms + (acdTmrInterval - 1)) / acdTmrInterval % 65536

namespace Timing

variable (t : Timing)

/-- `ACD_RANDOM_PROBE_WAIT`; `rand` is what `LWIP_RAND` returns. -/
def randomProbeWait (rand : Nat) : Nat :=
  if t.probeWaitMs = 0 then 0
  else rand % (if msToTicks t.probeWaitMs > 0 then msToTicks t.probeWaitMs else 1)

/-- `ACD_RANDOM_PROBE_INTERVAL`. -/
def randomProbeInterval (rand : Nat) : Nat :=
  if msToTicks t.probeMaxMs > msToTicks t.probeMinMs then
    rand % (msToTicks t.probeMaxMs - msToTicks t.probeMinMs) + msToTicks t.probeMinMs
  else msToTicks t.probeMinMs

/-- `ACD_ANNOUNCE_WAIT_TICKS_VALUE`. -/
def announceWaitTicks : Nat := msToTicks t.announceWaitMs

/-- `ACD_ANNOUNCE_INTERVAL_TICKS_VALUE`. -/
def announceIntervalTicks : Nat :=
  if msToTicks t.announceIntervalMs > 0 then msToTicks t.announceIntervalMs else 1

/-- `ACD_PERIODIC_DEFEND_INTERVAL_TICKS`. -/
def periodicDefendTicks : Nat := msToTicks t.periodicDefendMs

/-- `RATE_LIMIT_INTERVAL` in ticks. -/
def rateLimitTicks : Nat := t.rateLimitInterval * acdTicksPerSecond % 65536

end Timing

/-! ## 3. The phases of a client -/

namespace AcdState

/-- Probing or waiting to announce: the client may not use the address yet. -/
def probes : AcdState → Bool
  | .probeWait | .probing | .announceWait => true
  | _ => false

/-- Announcing or defending: the client holds the address. -/
def holds : AcdState → Bool
  | .announcing | .ongoing => true
  | _ => false

/-- On the way to `ACD_IP_OK`. -/
def active : AcdState → Bool
  | .probeWait | .probing | .announceWait | .announcing => true
  | _ => false

theorem holds_iff (st : AcdState) : st.holds ↔ st = .announcing ∨ st = .ongoing := by
  cases st <;> decide

end AcdState

/-! ## 4. Starting and stopping -/

/-- `acd_start`.  It has no failing branch: it returns `ERR_OK` always. -/
def acdStart (t : Timing) (rand : Nat) (ip : Ip4) (a : Client) : Client :=
  { a with sentNum := 0, lastconflict := 0, ipaddr := ip, state := .probeWait,
           ttw := t.randomProbeWait rand % 65536 }

/-- `acd_stop`. -/
def acdStop (a : Client) : Client := { a with state := .off }

/-! ## 5. The client's surroundings, and the two drivers -/

/-- What `acd.c` sees of, and does to, the state `σ` its client is part of. -/
structure Host (σ : Type) where
  acd : σ → Client
  setAcd : Client → σ → σ
  /-- the hardware address of the client's netif -/
  hwaddr : σ → EthAddr
  /-- `etharp_acd_probe`.  What it returns is logged and nothing else: a frame kept back by
  `ERR_MEM` is counted like one that went out, so whether it did is up to the host -/
  probe : Ip4 → σ → σ
  /-- `etharp_acd_announce`, whose result nobody looks at -/
  announce : Ip4 → σ → σ
  /-- `CipTcpIpSetLastAcdMac` and `CipTcpIpSetLastAcdRawData` -/
  setLastConflict : ArpHdr → σ → σ
  /-- the user's `acd_conflict_callback` -/
  callback : AcdCallback → σ → σ

variable {σ : Type}

/-- The two counters every pass of `acd_tmr` takes down. -/
def Client.countDown (a : Client) : Client :=
  { a with lastconflict := a.lastconflict - 1, ttw := a.ttw - 1 }

/-- The client as it sends an announcement: the first one takes it into ANNOUNCING. -/
def Client.entered (a : Client) : Client :=
  if a.sentNum = 0 then { a with state := .announcing, numConflicts := 0 } else a

@[simp] theorem entered_sentNum (a : Client) : a.entered.sentNum = a.sentNum := by
  unfold Client.entered
  split <;> rfl

@[simp] theorem countDown_sentNum (a : Client) : a.countDown.sentNum = a.sentNum := rfl

@[simp] theorem countDown_ipaddr (a : Client) : a.countDown.ipaddr = a.ipaddr := rfl

@[simp] theorem countDown_state (a : Client) : a.countDown.state = a.state := rfl

@[simp] theorem entered_ipaddr (a : Client) : a.entered.ipaddr = a.ipaddr := by
  unfold Client.entered
  split <;> rfl

/-- `acd_tmr`, for one client of the list it loops over. -/
def acdTmr (t : Timing) (h : Host σ) (rand : Nat) (s : σ) : σ :=
  let a := (h.acd s).countDown
  match a.state with
  | .probeWait | .probing =>
    if a.ttw = 0 then
      let s := h.probe a.ipaddr (h.setAcd { a with state := .probing } s)
      let sent := (a.sentNum + 1) % 256
      if t.probeNum ≤ sent then
        h.setAcd { a with state := .announceWait, sentNum := 0, ttw := t.announceWaitTicks } s
      else
        h.setAcd { a with state := .probing, sentNum := sent,
                          ttw := t.randomProbeInterval rand % 65536 } s
    else h.setAcd a s
  | .announceWait | .announcing =>
    if a.ttw = 0 then
      let a := a.entered
      let s := h.announce a.ipaddr (h.setAcd a s)
      let sent := (a.sentNum + 1) % 256
      if t.announceNum ≤ sent then
        -- the address is good: the client is in ONGOING before its user hears of it
        h.callback .ipOk
          (h.setAcd { a with state := .ongoing, sentNum := 0, ttw := t.periodicDefendTicks } s)
      else h.setAcd { a with sentNum := sent, ttw := t.announceIntervalTicks } s
    else h.setAcd a s
  | .ongoing =>
    if 0 < t.periodicDefendMs ∧ a.ttw = 0 then
      h.setAcd { a with ttw := t.periodicDefendTicks } (h.probe a.ipaddr (h.setAcd a s))
    else h.setAcd a s
  | .rateLimit =>
    if a.ttw = 0 then h.callback .restartClient (h.setAcd (acdStop a) s) else h.setAcd a s
  | .passiveOngoing | .off => h.setAcd a s

/-- The first half of `acd_restart`: the conflict is counted and the address declined. -/
def acdDeclined (h : Host σ) (s : σ) : σ :=
  h.callback .decline
    (h.setAcd { h.acd s with numConflicts := ((h.acd s).numConflicts + 1) % 256 } s)

/-- The second half after too many conflicts. -/
def acdLimited (t : Timing) (h : Host σ) (s : σ) : σ :=
  h.setAcd { h.acd s with state := .rateLimit, ttw := t.rateLimitTicks } s

/-- The second half otherwise. -/
def acdStopped (h : Host σ) (s : σ) : σ :=
  h.callback .restartClient (h.setAcd (acdStop (h.acd s)) s)

/-- `acd_restart`.  The client is read again after the first callback, which may have changed
it. -/
def acdRestart (t : Timing) (h : Host σ) (s : σ) : σ :=
  let s := acdDeclined h s
  if t.maxConflicts ≤ (h.acd s).numConflicts then acdLimited t h s else acdStopped h s

/-- The defence of an address in use: one announcement, and none again for ten seconds. -/
def acdDefended (h : Host σ) (s : σ) : σ :=
  h.setAcd { h.acd s with lastconflict := defendInterval * acdTicksPerSecond }
    (h.announce (h.acd s).ipaddr s)

/-- `acd_handle_arp_conflict`. -/
def acdHandleArpConflict (t : Timing) (h : Host σ) (s : σ) : σ :=
  if (h.acd s).state = .passiveOngoing then
    h.callback .decline (h.setAcd (acdStop (h.acd s)) s)
  else if 0 < (h.acd s).lastconflict then acdRestart t h s
  else acdDefended h s

/-- The conflict test of a client that has not announced yet: somebody uses the address, or
somebody else probes for it. -/
def probeConflict (hw : EthAddr) (ip : Ip4) (hdr : ArpHdr) : Bool :=
  (hdr.sipaddr == ip && hw != hdr.shwaddr) ||
    (hdr.sipaddr == ip4Any && hdr.dipaddr == ip && hw != hdr.shwaddr)

/-- The conflict test of a client that has: somebody else uses the address. -/
def useConflict (hw : EthAddr) (ip : Ip4) (hdr : ArpHdr) : Bool :=
  hdr.sipaddr == ip && hw != hdr.shwaddr

/-- `acd_arp_reply`, for one client of the list it loops over. -/
def acdArpReply (t : Timing) (h : Host σ) (hdr : ArpHdr) (s : σ) : σ :=
  let a := h.acd s
  match a.state with
  | .off | .rateLimit => s
  | .probeWait | .probing | .announceWait =>
    if probeConflict (h.hwaddr s) a.ipaddr hdr then acdRestart t h (h.setLastConflict hdr s)
    else s
  | .announcing | .ongoing | .passiveOngoing =>
    if useConflict (h.hwaddr s) a.ipaddr hdr then
      acdHandleArpConflict t h (h.setLastConflict hdr s)
    else s

/-! ## 6. What the drivers can do

The two drivers taken apart, once: every outcome, with the guards under which it happens.  The
proofs about a client's surroundings go through these and never unfold a driver. -/

/-- The outcomes of `acd_tmr`. -/
inductive TmrCase (t : Timing) (h : Host σ) (rand : Nat) (s : σ) : σ → Prop
  /-- nothing but the two counters moves -/
  | wait
      (hactive : (h.acd s).state.active → (h.acd s).countDown.ttw ≠ 0) :
      TmrCase t h rand s (h.setAcd (h.acd s).countDown s)
  /-- a probe, and not the last one -/
  | probe
      (hstate : (h.acd s).state = .probeWait ∨ (h.acd s).state = .probing)
      (httw : (h.acd s).countDown.ttw = 0)
      (hnum : ((h.acd s).sentNum + 1) % 256 < t.probeNum) :
      TmrCase t h rand s
        (h.setAcd { (h.acd s).countDown with
            state := .probing, sentNum := ((h.acd s).sentNum + 1) % 256,
            ttw := t.randomProbeInterval rand % 65536 }
          (h.probe (h.acd s).ipaddr
            (h.setAcd { (h.acd s).countDown with state := .probing } s)))
  /-- the last probe -/
  | lastProbe
      (hstate : (h.acd s).state = .probeWait ∨ (h.acd s).state = .probing)
      (httw : (h.acd s).countDown.ttw = 0)
      (hnum : t.probeNum ≤ ((h.acd s).sentNum + 1) % 256) :
      TmrCase t h rand s
        (h.setAcd { (h.acd s).countDown with
            state := .announceWait, sentNum := 0, ttw := t.announceWaitTicks }
          (h.probe (h.acd s).ipaddr
            (h.setAcd { (h.acd s).countDown with state := .probing } s)))
  /-- an announcement, and not the last one -/
  | announce
      (hstate : (h.acd s).state = .announceWait ∨ (h.acd s).state = .announcing)
      (httw : (h.acd s).countDown.ttw = 0)
      (hnum : ((h.acd s).sentNum + 1) % 256 < t.announceNum) :
      TmrCase t h rand s
        (h.setAcd { (h.acd s).countDown.entered with
            sentNum := ((h.acd s).countDown.entered.sentNum + 1) % 256,
            ttw := t.announceIntervalTicks }
          (h.announce (h.acd s).countDown.entered.ipaddr
            (h.setAcd (h.acd s).countDown.entered s)))
  /-- the last announcement: the user is told `ACD_IP_OK` -/
  | lastAnnounce
      (hstate : (h.acd s).state = .announceWait ∨ (h.acd s).state = .announcing)
      (httw : (h.acd s).countDown.ttw = 0)
      (hnum : t.announceNum ≤ ((h.acd s).sentNum + 1) % 256) :
      TmrCase t h rand s
        (h.callback .ipOk
          (h.setAcd { (h.acd s).countDown.entered with
              state := .ongoing, sentNum := 0, ttw := t.periodicDefendTicks }
            (h.announce (h.acd s).countDown.entered.ipaddr
            (h.setAcd (h.acd s).countDown.entered s))))
  /-- the periodic probe of a client that holds its address -/
  | defend
      (hstate : (h.acd s).state = .ongoing) :
      TmrCase t h rand s
        (h.setAcd { (h.acd s).countDown with ttw := t.periodicDefendTicks }
          (h.probe (h.acd s).ipaddr (h.setAcd (h.acd s).countDown s)))
  /-- the rate limit is over -/
  | unlimit
      (hstate : (h.acd s).state = .rateLimit) :
      TmrCase t h rand s
        (h.callback .restartClient (h.setAcd (acdStop (h.acd s).countDown) s))

/-- `acd_tmr` does one of these. -/
theorem acdTmr_cases (t : Timing) (h : Host σ) (rand : Nat) (s : σ) :
    TmrCase t h rand s (acdTmr t h rand s) := by
  unfold acdTmr
  simp only [countDown_state]
  split
  case h_1 hs =>
    by_cases h0 : (h.acd s).countDown.ttw = 0
    · rw [if_pos h0]
      split
      · exact .lastProbe (.inl hs) h0 ‹_›
      · exact .probe (.inl hs) h0 (Nat.lt_of_not_le ‹_›)
    · rw [if_neg h0]
      exact .wait fun _ => h0
  case h_2 hs =>
    by_cases h0 : (h.acd s).countDown.ttw = 0
    · rw [if_pos h0]
      split
      · exact .lastProbe (.inr hs) h0 ‹_›
      · exact .probe (.inr hs) h0 (Nat.lt_of_not_le ‹_›)
    · rw [if_neg h0]
      exact .wait fun _ => h0
  case h_3 hs =>
    by_cases h0 : (h.acd s).countDown.ttw = 0
    · rw [if_pos h0]
      split
      · rename_i hnum
        exact .lastAnnounce (.inl hs) h0 (by simpa using hnum)
      · rename_i hnum
        exact .announce (.inl hs) h0 (by simpa using hnum)
    · rw [if_neg h0]
      exact .wait fun _ => h0
  case h_4 hs =>
    by_cases h0 : (h.acd s).countDown.ttw = 0
    · rw [if_pos h0]
      split
      · rename_i hnum
        exact .lastAnnounce (.inr hs) h0 (by simpa using hnum)
      · rename_i hnum
        exact .announce (.inr hs) h0 (by simpa using hnum)
    · rw [if_neg h0]
      exact .wait fun _ => h0
  case h_5 hs =>
    -- in ONGOING a probe is due only when the build asks for them
    split
    · exact .defend hs
    · exact .wait (by simp [hs, AcdState.active])
  case h_6 hs =>
    split
    · exact .unlimit hs
    · exact .wait (by simp [hs, AcdState.active])
  case h_7 hs => exact .wait (by simp [hs, AcdState.active])
  case h_8 hs => exact .wait (by simp [hs, AcdState.active])

/-- While the rate limit lasts, a tick only counts down. -/
theorem acdTmr_limited (t : Timing) (h : Host σ) (rand : Nat) (s : σ)
    (hs : (h.acd s).state = .rateLimit) (h0 : (h.acd s).countDown.ttw ≠ 0) :
    acdTmr t h rand s = h.setAcd (h.acd s).countDown s := by
  unfold acdTmr
  simp [hs, h0]

/-- The outcomes of `acd_arp_reply`. -/
inductive ArpCase (t : Timing) (h : Host σ) (hdr : ArpHdr) (s : σ) : σ → Prop
  /-- the packet is none of the client's business -/
  | ignored
      (hprobes : (h.acd s).state.probes →
        probeConflict (h.hwaddr s) (h.acd s).ipaddr hdr = false)
      (hholds : (h.acd s).state.holds →
        useConflict (h.hwaddr s) (h.acd s).ipaddr hdr = false) :
      ArpCase t h hdr s s
  /-- the address is given up, and the client may not try again at once -/
  | limited
      (hstate : (h.acd s).state.probes ∨ (h.acd s).state.holds) :
      ArpCase t h hdr s (acdLimited t h (acdDeclined h (h.setLastConflict hdr s)))
  /-- the address is given up -/
  | stopped
      (hstate : (h.acd s).state.probes ∨ (h.acd s).state.holds) :
      ArpCase t h hdr s (acdStopped h (acdDeclined h (h.setLastConflict hdr s)))
  /-- the address is defended -/
  | defended
      (hstate : (h.acd s).state.holds)
      (hconf : useConflict (h.hwaddr s) (h.acd s).ipaddr hdr) :
      ArpCase t h hdr s (acdDefended h (h.setLastConflict hdr s))
  /-- a passive client backs off -/
  | passive
      (hstate : (h.acd s).state = .passiveOngoing) :
      ArpCase t h hdr s
        (h.callback .decline
          (h.setAcd (acdStop (h.acd (h.setLastConflict hdr s))) (h.setLastConflict hdr s)))

/-- `acd_arp_reply` does one of these. -/
theorem acdArpReply_cases (t : Timing) (h : Host σ) (hdr : ArpHdr) (s : σ)
    (hlaw : h.acd (h.setLastConflict hdr s) = h.acd s) :
    ArpCase t h hdr s (acdArpReply t h hdr s) := by
  have hrestart (hstate : (h.acd s).state.probes ∨ (h.acd s).state.holds) :
      ArpCase t h hdr s (acdRestart t h (h.setLastConflict hdr s)) := by
    unfold acdRestart
    dsimp only
    split
    · exact .limited hstate
    · exact .stopped hstate
  have hprobing (hp : (h.acd s).state.probes) (hn : (h.acd s).state.holds = false) :
      ArpCase t h hdr s (if probeConflict (h.hwaddr s) (h.acd s).ipaddr hdr
        then acdRestart t h (h.setLastConflict hdr s) else s) := by
    split
    · exact hrestart (.inl hp)
    · exact .ignored (fun _ => Bool.eq_false_iff.2 ‹_›) (by simp [hn])
  have hholding (hh : (h.acd s).state.holds) (hn : (h.acd s).state.probes = false)
      (hp : (h.acd s).state ≠ .passiveOngoing) :
      ArpCase t h hdr s (if useConflict (h.hwaddr s) (h.acd s).ipaddr hdr
        then acdHandleArpConflict t h (h.setLastConflict hdr s) else s) := by
    split
    · rw [acdHandleArpConflict, if_neg (hlaw ▸ hp)]
      split
      · exact hrestart (.inr hh)
      · exact .defended hh ‹_›
    · exact .ignored (by simp [hn]) (fun _ => Bool.eq_false_iff.2 ‹_›)
  unfold acdArpReply
  dsimp only
  split
  case h_1 hs => exact .ignored (by simp [hs, AcdState.probes]) (by simp [hs, AcdState.holds])
  case h_2 hs => exact .ignored (by simp [hs, AcdState.probes]) (by simp [hs, AcdState.holds])
  case h_3 hs => exact hprobing (by rw [hs]; rfl) (by rw [hs]; rfl)
  case h_4 hs => exact hprobing (by rw [hs]; rfl) (by rw [hs]; rfl)
  case h_5 hs => exact hprobing (by rw [hs]; rfl) (by rw [hs]; rfl)
  case h_6 hs => exact hholding (by rw [hs]; rfl) (by rw [hs]; rfl) (by simp [hs])
  case h_7 hs => exact hholding (by rw [hs]; rfl) (by rw [hs]; rfl) (by simp [hs])
  case h_8 hs =>
    split
    · rw [acdHandleArpConflict, if_pos (by rw [hlaw, hs])]
      exact .passive hs
    · exact .ignored (by simp [hs, AcdState.probes]) (by simp [hs, AcdState.holds])

/-! ## 7. The packets a client sends -/

/-- The frame of `etharp_acd_probe`: an ARP request from 0.0.0.0. -/
def probeFrame (hw : EthAddr) (ip : Ip4) : ArpHdr :=
  ⟨.request, hw, ip4Any, Vector.replicate 6 0, ip⟩

/-- The frame of `etharp_acd_announce`: an ARP request from the address itself. -/
def announceFrame (hw : EthAddr) (ip : Ip4) : ArpHdr :=
  ⟨.request, hw, ip, Vector.replicate 6 0, ip⟩

/-- The reply of `etharp_input` to a request for the address of the netif. -/
def replyFrame (hw : EthAddr) (ip : Ip4) (req : ArpHdr) : ArpHdr :=
  ⟨.reply, hw, ip, req.shwaddr, req.sipaddr⟩

end GroundTruth.Acd
