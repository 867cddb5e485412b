/-
# Attribute 11: the packet of the last conflict

`s_tcpip_last_conflict` has three fields, written by three functions: the activity by a dozen
places of `main.c`, the hardware address and the raw packet by `acd_arp_reply`, one after the other,
before it does anything about the conflict.  `Device` keeps the packet as one value; here the
fields are bytes, the packets are the 28 bytes that arrive, and every client on the list looks at
each of them, lwIP's own included.

* `acdArpReply_eq`: a client either classifies a packet as a conflict, and records it before
  anything else, or leaves everything alone;
* `Reporter.Shows.step`: the record shows the last packet that was so classified;
* `evidence`: in every run it is that packet, whose address and bytes the attribute gives;
* `Reporter.arp_device`: what `Device` does with the packet is what the static client does here.
-/
import Mathlib
import GroundTruth.Lib.Words
import GroundTruth.Acd.Safety

namespace GroundTruth.Acd

open GroundTruth.Lib

/-! ## 1. The attribute -/

/-- `s_tcpip_last_conflict`. -/
structure LastConflict where
  activity : UInt8
  remoteMac : EthAddr
  rawData : Vector UInt8 28
  deriving DecidableEq

def LastConflict.zero : LastConflict := ⟨0, Vector.replicate 6 0, Vector.replicate 28 0⟩

/-- `TcpipSetLastConflictState`. -/
def tcpipSetLastConflictState (activity : UInt8) (c : LastConflict) : LastConflict :=
  { c with activity := activity }

/-- `CipTcpIpSetLastAcdActivity`. -/
def cipTcpIpSetLastAcdActivity (activity : UInt8) (c : LastConflict) : LastConflict :=
  tcpipSetLastConflictState activity c

/-- `CipTcpIpSetLastAcdMac`; `none` is NULL. -/
def cipTcpIpSetLastAcdMac (mac : Option EthAddr) (c : LastConflict) : LastConflict :=
  match mac with
  | some mac => { c with remoteMac := mac }
  | none => c

/-- `CipTcpIpSetLastAcdRawData`: what is too long is cut, what is too short is filled up. -/
def cipTcpIpSetLastAcdRawData (data : Option Bytes) (length : Nat) (c : LastConflict) :
    LastConflict :=
  match data with
  | some data =>
    { c with rawData := Vector.ofFn fun i => if i.val < min length 28 then data.getD i 0 else 0 }
  | none => { c with rawData := Vector.replicate 28 0 }

/-- `EncodeCipLastConflictDetected`: it appends to the message. -/
def encodeCipLastConflictDetected (c : LastConflict) (message : Bytes) : Bytes :=
  message ++ [c.activity] ++ c.remoteMac.toList ++ c.rawData.toList

/-! ## 2. Packets -/

/-- `struct etharp_hdr`, packed. -/
structure EtharpHdr where
  bytes : Vector UInt8 28
  deriving DecidableEq

namespace EtharpHdr

def shwaddr (f : EtharpHdr) : EthAddr := Vector.ofFn fun i => f.bytes[8 + i.val]

def sipaddr (f : EtharpHdr) : Ip4 := glue32 f.bytes[14] f.bytes[15] f.bytes[16] f.bytes[17]

def dhwaddr (f : EtharpHdr) : EthAddr := Vector.ofFn fun i => f.bytes[18 + i.val]

def dipaddr (f : EtharpHdr) : Ip4 := glue32 f.bytes[24] f.bytes[25] f.bytes[26] f.bytes[27]

/-- The fields that `acd.c` has.  It does not look at the operation; what is not a request is a
reply here. -/
def hdr (f : EtharpHdr) : ArpHdr where
  opcode := if f.bytes[6] = 0 ∧ f.bytes[7] = 1 then .request else .reply
  shwaddr := f.shwaddr
  sipaddr := f.sipaddr
  dhwaddr := f.dhwaddr
  dipaddr := f.dipaddr

end EtharpHdr

/-- The two calls of `acd_arp_reply` that record a packet. -/
def record (f : EtharpHdr) (c : LastConflict) : LastConflict :=
  cipTcpIpSetLastAcdRawData (some f.bytes.toList) 28 (cipTcpIpSetLastAcdMac (some f.shwaddr) c)

/-- The record of a packet is the packet. -/
theorem record_eq (f : EtharpHdr) (c : LastConflict) :
    record f c = ⟨c.activity, f.shwaddr, f.bytes⟩ := by
  have hraw : (Vector.ofFn fun i : Fin 28 =>
      if i.val < min 28 28 then f.bytes.toList.getD i 0 else 0) = f.bytes := by
    ext i hi
    simp
  simp only [record, cipTcpIpSetLastAcdRawData, cipTcpIpSetLastAcdMac, hraw]

/-! ## 3. A client and a packet -/

/-- The client takes the packet for a conflict. -/
def Client.classifies (hw : EthAddr) (hdr : ArpHdr) (a : Client) : Bool :=
  match a.state with
  | .off | .rateLimit => false
  | .probeWait | .probing | .announceWait => probeConflict hw a.ipaddr hdr
  | .announcing | .ongoing | .passiveOngoing => useConflict hw a.ipaddr hdr

variable {σ τ : Type}

/-- What is done about a conflict, once it has been recorded. -/
def acdReact (t : Timing) (h : Host σ) (st : AcdState) (s : σ) : σ :=
  match st with
  | .probeWait | .probing | .announceWait => acdRestart t h s
  | _ => acdHandleArpConflict t h s

/-- **A client records what it takes for a conflict, and then reacts**; otherwise it does
nothing. -/
theorem acdArpReply_eq (t : Timing) (h : Host σ) (hdr : ArpHdr) (s : σ) :
    acdArpReply t h hdr s =
      if (h.acd s).classifies (h.hwaddr s) hdr = true then
        acdReact t h (h.acd s).state (h.setLastConflict hdr s)
      else s := by
  unfold acdArpReply Client.classifies acdReact
  dsimp only
  cases (h.acd s).state <;> rfl

/-- A property of the surroundings that no action of the client touches, but for the record. -/
structure Host.Untouched (h : Host σ) (P : σ → Prop) : Prop where
  setAcd : ∀ a s, P s → P (h.setAcd a s)
  announce : ∀ ip s, P s → P (h.announce ip s)
  callback : ∀ c s, P s → P (h.callback c s)

variable {t : Timing} {h : Host σ} {P : σ → Prop} {s : σ}

theorem Host.Untouched.restart (hp : h.Untouched P) (hs : P s) : P (acdRestart t h s) := by
  have hdeclined : P (acdDeclined h s) := hp.callback _ _ (hp.setAcd _ _ hs)
  unfold acdRestart
  dsimp only
  split
  · exact hp.setAcd _ _ hdeclined
  · exact hp.callback _ _ (hp.setAcd _ _ hdeclined)

/-- The reaction does not touch it. -/
theorem Host.Untouched.react (hp : h.Untouched P) (st : AcdState) (hs : P s) :
    P (acdReact t h st s) := by
  have hhandle : P (acdHandleArpConflict t h s) := by
    unfold acdHandleArpConflict
    split
    · exact hp.callback _ _ (hp.setAcd _ _ hs)
    · split
      · exact hp.restart hs
      · exact hp.setAcd _ _ (hp.announce _ _ hs)
  cases st with
  | probeWait => exact hp.restart hs
  | probing => exact hp.restart hs
  | announceWait => exact hp.restart hs
  | _ => exact hhandle

/-! ## 4. The device and all clients of its netif -/

/-- The device with the attribute, and with the clients that lwIP has on the list. -/
structure Reporter where
  dev : Device
  conflict : LastConflict
  others : Nat → Client

def Reporter.init (others : List Nat) : Reporter :=
  ⟨Device.init others, LastConflict.zero, fun _ => Client.zero⟩

/-- What lwIP's own callbacks make of lwIP's own clients. -/
abbrev LwipCallback := Nat → AcdCallback → (Nat → Client) → Nat → Client

namespace Reporter

/-- `main.c` has done something: the activity is what it set last. -/
def become (d : Device) (s : Reporter) : Reporter :=
  { s with dev := d, conflict := cipTcpIpSetLastAcdActivity (UInt8.ofNat d.acdActivity) s.conflict }

/-- The surroundings of the static client while a packet is looked at. -/
def staticHost (b : Build) (timerOk : Bool) (f : EtharpHdr) : Host Reporter where
  acd s := s.dev.acd
  setAcd a s := { s with dev := (Device.host b timerOk).setAcd a s.dev }
  hwaddr s := s.dev.netifHwaddr
  probe ip s := { s with dev := (Device.host b timerOk).probe ip s.dev }
  announce ip s := { s with dev := (Device.host b timerOk).announce ip s.dev }
  setLastConflict hdr s :=
    { s with dev := (Device.host b timerOk).setLastConflict hdr s.dev,
             conflict := record f s.conflict }
  callback c s := s.become (Device.tcpipAcdConflictCallback b timerOk c s.dev)

/-- The surroundings of one of lwIP's clients. -/
def otherHost (user : LwipCallback) (f : EtharpHdr) (n : Nat) : Host Reporter where
  acd s := s.others n
  setAcd a s := { s with others := Function.update s.others n a }
  hwaddr s := s.dev.netifHwaddr
  probe _ s := s
  announce _ s := s
  setLastConflict _ s := { s with conflict := record f s.conflict }
  callback c s := { s with others := user n c s.others }

def hostOf (b : Build) (timerOk : Bool) (user : LwipCallback) (f : EtharpHdr) :
    AcdRef → Host Reporter
  | .staticIp => staticHost b timerOk f
  | .other n => otherHost user f n

/-- `acd_arp_reply` for one client of the list. -/
def arpOne (b : Build) (timerOk : Bool) (user : LwipCallback) (f : EtharpHdr) (s : Reporter)
    (r : AcdRef) : Reporter :=
  acdArpReply b.timing (hostOf b timerOk user f r) f.hdr s

/-- `acd_arp_reply`. -/
def arp (b : Build) (timerOk : Bool) (user : LwipCallback) (f : EtharpHdr) (s : Reporter) :
    Reporter :=
  s.dev.acdList.foldl (arpOne b timerOk user f) s

/-- When its turn comes, one of these clients takes the packet for a conflict. -/
def classifiedBy (b : Build) (timerOk : Bool) (user : LwipCallback) (f : EtharpHdr) :
    Reporter → List AcdRef → Bool
  | _, [] => false
  | s, r :: rs =>
    ((hostOf b timerOk user f r).acd s).classifies s.dev.netifHwaddr f.hdr ||
      classifiedBy b timerOk user f (arpOne b timerOk user f s r) rs

end Reporter

inductive ReporterEvent
  /-- anything that happens to `main.c` and the static client, but for packets -/
  | dev (e : DeviceEvent)
  | arp (f : EtharpHdr) (timerOk : Bool) (user : LwipCallback)
  /-- lwIP starts, stops or runs a client of its own -/
  | lwip (n : Nat) (a : Client)
  /-- the activity is set from where `Device` does not go: with DHCP, or with ACD deselected -/
  | activity (a : UInt8)

def DeviceEvent.isArp : DeviceEvent → Bool
  | .arp _ _ => true
  | _ => false

def reporterStep (b : Build) (s : Reporter) : ReporterEvent → Option Reporter
  | .dev e => if e.isArp = true then none else (deviceStep b s.dev e).map s.become
  | .arp f timerOk user => some (s.arp b timerOk user f)
  | .lwip n a => some { s with others := Function.update s.others n a }
  | .activity a => some (s.become { s.dev with acdActivity := a.toNat })

/-- The last packet that was taken for a conflict. -/
def lastClassified (b : Build) (s : Reporter) (e : ReporterEvent) (_ : Reporter)
    (last : Option EtharpHdr) : Option (Option EtharpHdr) :=
  match e with
  | .arp f timerOk user =>
    some (if s.classifiedBy b timerOk user f s.dev.acdList = true then some f else last)
  | _ => some last

/-! ## 5. The record -/

/-- The address and the bytes are those of the packet; before there is one, they are 0. -/
def LastConflict.Shows (c : LastConflict) : Option EtharpHdr → Prop
  | some f => c.remoteMac = f.shwaddr ∧ c.rawData = f.bytes
  | none => c.remoteMac = Vector.replicate 6 0 ∧ c.rawData = Vector.replicate 28 0

variable {c : LastConflict} {last : Option EtharpHdr} {b : Build} {timerOk : Bool}
  {user : LwipCallback} {f : EtharpHdr} {s s' : Reporter}

/-- **No activity alters the record.** -/
theorem LastConflict.Shows.activity (h : c.Shows last) (a : UInt8) :
    (cipTcpIpSetLastAcdActivity a c).Shows last := by
  cases last with
  | none => exact h
  | some f => exact h

theorem shows_record (f : EtharpHdr) (c : LastConflict) : (record f c).Shows (some f) := by
  rw [record_eq]
  exact ⟨rfl, rfl⟩

/-- Whatever a client does about a conflict, the record stays. -/
theorem Reporter.untouched (b : Build) (timerOk : Bool) (user : LwipCallback) (f : EtharpHdr)
    (last : Option EtharpHdr) (r : AcdRef) :
    (Reporter.hostOf b timerOk user f r).Untouched fun s => s.conflict.Shows last := by
  cases r with
  | staticIp => exact ⟨fun _ _ hs => hs, fun _ _ hs => hs, fun _ _ hs => hs.activity _⟩
  | other n => exact ⟨fun _ _ hs => hs, fun _ _ hs => hs, fun _ _ hs => hs⟩

variable (b timerOk user f) in
/-- One client: if it takes the packet for a conflict the record shows it, and if not the record is
as it was. -/
theorem Reporter.shows_arpOne (h : s.conflict.Shows last) (r : AcdRef) :
    (Reporter.arpOne b timerOk user f s r).conflict.Shows
      (if ((Reporter.hostOf b timerOk user f r).acd s).classifies s.dev.netifHwaddr f.hdr = true
        then some f else last) := by
  have hhw : (Reporter.hostOf b timerOk user f r).hwaddr s = s.dev.netifHwaddr := by
    cases r with
    | staticIp => rfl
    | other n => rfl
  unfold Reporter.arpOne
  rw [acdArpReply_eq, hhw]
  by_cases hclass :
      ((Reporter.hostOf b timerOk user f r).acd s).classifies s.dev.netifHwaddr f.hdr = true
  · rw [if_pos hclass, if_pos hclass]
    refine (Reporter.untouched b timerOk user f (some f) r).react _ ?_
    cases r with
    | staticIp => exact shows_record f s.conflict
    | other n => exact shows_record f s.conflict
  · rw [if_neg hclass, if_neg hclass]
    exact h

/-- All clients. -/
theorem Reporter.shows_clients (rs : List AcdRef) (h : s.conflict.Shows last) :
    (rs.foldl (Reporter.arpOne b timerOk user f) s).conflict.Shows
      (if s.classifiedBy b timerOk user f rs = true then some f else last) := by
  induction rs generalizing s last with
  | nil => exact h
  | cons r rs ih =>
    rw [List.foldl_cons, Reporter.classifiedBy]
    have hrest := ih (Reporter.shows_arpOne b timerOk user f h r)
    by_cases hclass :
        ((Reporter.hostOf b timerOk user f r).acd s).classifies s.dev.netifHwaddr f.hdr = true
    · rw [if_pos hclass] at hrest
      rw [hclass, Bool.true_or, if_pos rfl]
      -- whoever comes after, it is the same packet
      rwa [ite_self] at hrest
    · rw [if_neg hclass] at hrest
      rw [Bool.eq_false_iff.2 hclass, Bool.false_or]
      exact hrest

/-- **One event**: the record shows the last packet that was taken for a conflict. -/
theorem Reporter.Shows.step {e : ReporterEvent} {last' : Option EtharpHdr}
    (h : s.conflict.Shows last) (hs : reporterStep b s e = some s')
    (hn : lastClassified b s e s' last = some last') : s'.conflict.Shows last' := by
  cases e with
  | dev e =>
    rw [reporterStep] at hs
    split at hs
    · cases hs
    · obtain ⟨d, -, rfl⟩ := Option.map_eq_some_iff.1 hs
      obtain rfl := Option.some.inj hn
      exact h.activity _
  | arp f timerOk user =>
    obtain rfl := Option.some.inj hs
    obtain rfl := Option.some.inj hn
    exact Reporter.shows_clients _ h
  | lwip n a =>
    obtain rfl := Option.some.inj hs
    obtain rfl := Option.some.inj hn
    exact h
  | activity a =>
    obtain rfl := Option.some.inj hs
    obtain rfl := Option.some.inj hn
    exact h.activity _

/-- The address and the bytes of a packet; zeros, where there is none. -/
def evidenceBytes : Option EtharpHdr → Bytes
  | some f => f.shwaddr.toList ++ f.bytes.toList
  | none => List.replicate 34 0

/-- **The evidence of attribute 11.**  In every run the address and the packet are those of the
last packet that was taken for a conflict, no activity alters them, and the attribute is encoded
as the activity, that address and that packet. -/
theorem evidence {others : List Nat}
    (h : Reach (watch (reporterStep b) (lastClassified b)) (Reporter.init others, none)
      (s, last)) :
    s.conflict.Shows last ∧
      (∀ a, (cipTcpIpSetLastAcdActivity a s.conflict).Shows last) ∧
      ∀ message, encodeCipLastConflictDetected s.conflict message =
        message ++ s.conflict.activity :: evidenceBytes last := by
  have hshows : s.conflict.Shows last :=
    h.invariant (P := fun x => x.1.conflict.Shows x.2)
      (fun x e y hx _ hs =>
        Reporter.Shows.step hx (watch_some.1 hs).1 (watch_some.1 hs).2) ⟨rfl, rfl⟩
  refine ⟨hshows, hshows.activity, fun message => ?_⟩
  unfold encodeCipLastConflictDetected
  cases last with
  | none =>
    rw [hshows.1, hshows.2, List.append_assoc, List.append_assoc]
    rfl
  | some f =>
    rw [hshows.1, hshows.2, List.append_assoc, List.append_assoc]
    rfl

/-- The rival's announcement of the address of `benchCfg`, as it is on the wire. -/
def benchPacket : EtharpHdr :=
  ⟨#v[0, 1, 8, 0, 6, 4, 0, 1, 0x02, 0, 0, 0, 0, 2, 0xC0, 0xA8, 0x01, 0x64,
    0, 0, 0, 0, 0, 0, 0xC0, 0xA8, 0x01, 0x64]⟩

/-- The rival answers a probe; the retry that follows changes the activity and nothing else. -/
def benchEvidence : List ReporterEvent :=
  [.dev .netifUp, .dev (.connected benchMac .good), .dev (.deferred .good),
    .dev (.boot benchCfg .good)] ++ List.replicate 3 (.dev (.tick 1 true)) ++
    [.arp benchPacket true fun _ _ => id, .dev (.resume .good true), .dev .stop,
      .dev (.timer .good), .dev (.retry .good), .activity 1]

theorem evidence_rival :
    ∃ s : Reporter, s.conflict.Shows (some benchPacket) ∧
      encodeCipLastConflictDetected s.conflict [] = 1 :: evidenceBytes (some benchPacket) := by
  have h : (exec (watch (reporterStep .shipped) (lastClassified .shipped))
      (Reporter.init [], none) benchEvidence).map (fun x => (x.1.conflict.activity, x.2)) =
        some (1, some benchPacket) := by decide +kernel
  obtain ⟨⟨s, last⟩, hs, hobs⟩ := Option.map_eq_some_iff.1 h
  obtain ⟨hact, hlast⟩ := Prod.mk.inj hobs
  obtain ⟨hshows, -, henc⟩ := evidence (exec_reach hs)
  refine ⟨s, hlast ▸ hshows, ?_⟩
  have hbytes := henc []
  rw [List.nil_append, hact] at hbytes
  rw [hbytes]
  exact congrArg (fun l => 1 :: evidenceBytes l) hlast

/-! ## 6. The device -/

/-- One state is part of another, and the client's actions on the larger are those on the
smaller. -/
structure Host.Over (h : Host σ) (h' : Host τ) (part : σ → τ) : Prop where
  acd : ∀ s, h.acd s = h'.acd (part s)
  setAcd : ∀ a s, part (h.setAcd a s) = h'.setAcd a (part s)
  hwaddr : ∀ s, h.hwaddr s = h'.hwaddr (part s)
  announce : ∀ ip s, part (h.announce ip s) = h'.announce ip (part s)
  setLastConflict : ∀ hdr s, part (h.setLastConflict hdr s) = h'.setLastConflict hdr (part s)
  callback : ∀ c s, part (h.callback c s) = h'.callback c (part s)

/-- A packet does the same to the part and to the whole. -/
theorem Host.Over.arpReply {h' : Host τ} {part : σ → τ} (ho : h.Over h' part) (hdr : ArpHdr)
    (s : σ) : part (acdArpReply t h hdr s) = acdArpReply t h' hdr (part s) := by
  have hdeclined (s : σ) : part (acdDeclined h s) = acdDeclined h' (part s) := by
    rw [acdDeclined, acdDeclined, ho.callback, ho.setAcd, ho.acd]
  have hlimited (s : σ) : part (acdLimited t h s) = acdLimited t h' (part s) := by
    rw [acdLimited, acdLimited, ho.setAcd, ho.acd]
  have hstopped (s : σ) : part (acdStopped h s) = acdStopped h' (part s) := by
    rw [acdStopped, acdStopped, ho.callback, ho.setAcd, ho.acd]
  have hdefended (s : σ) : part (acdDefended h s) = acdDefended h' (part s) := by
    rw [acdDefended, acdDefended, ho.setAcd, ho.announce, ho.acd]
  have hrestart (s : σ) : part (acdRestart t h s) = acdRestart t h' (part s) := by
    unfold acdRestart
    dsimp only
    rw [apply_ite part, hlimited, hstopped, ho.acd, hdeclined]
  have hhandle (s : σ) : part (acdHandleArpConflict t h s) =
      acdHandleArpConflict t h' (part s) := by
    unfold acdHandleArpConflict
    rw [apply_ite part, apply_ite part, ho.callback, ho.setAcd, hrestart, hdefended, ho.acd]
  have hreact (st : AcdState) (s : σ) : part (acdReact t h st s) = acdReact t h' st (part s) := by
    cases st with
    | probeWait => exact hrestart s
    | probing => exact hrestart s
    | announceWait => exact hrestart s
    | _ => exact hhandle s
  rw [acdArpReply_eq, acdArpReply_eq, apply_ite part, hreact, ho.setLastConflict, ho.acd,
    ho.hwaddr]

/-- lwIP's clients leave the device alone. -/
theorem Reporter.arpOne_other (n : Nat) :
    (Reporter.arpOne b timerOk user f s (.other n)).dev = s.dev := by
  have hp : (Reporter.otherHost user f n).Untouched fun u => u.dev = s.dev :=
    ⟨fun _ _ hs => hs, fun _ _ hs => hs, fun _ _ hs => hs⟩
  unfold Reporter.arpOne
  rw [acdArpReply_eq]
  split
  · exact hp.react _ rfl
  · rfl

/-- The static client does to the device what `Device` says. -/
theorem Reporter.arpOne_static :
    (Reporter.arpOne b timerOk user f s .staticIp).dev =
      acdArpReply b.timing (Device.host b timerOk) f.hdr s.dev :=
  have hover : (Reporter.staticHost b timerOk f).Over (Device.host b timerOk) Reporter.dev :=
    ⟨fun _ => rfl, fun _ _ => rfl, fun _ => rfl, fun _ _ => rfl, fun _ _ => rfl, fun _ _ => rfl⟩
  hover.arpReply f.hdr s

/-- **A packet does to the device what `Device.arp` says**, whoever else is on the list. -/
theorem Reporter.arp_device (hone : s.dev.acdList.count .staticIp ≤ 1) :
    (s.arp b timerOk user f).dev = s.dev.arp b timerOk f.hdr := by
  have hnone (rs : List AcdRef) (hrs : .staticIp ∉ rs) (u : Reporter) :
      (rs.foldl (Reporter.arpOne b timerOk user f) u).dev = u.dev := by
    induction rs generalizing u with
    | nil => rfl
    | cons r rs ih =>
      rw [List.mem_cons, not_or] at hrs
      rw [List.foldl_cons, ih hrs.2]
      cases r with
      | staticIp => exact absurd rfl hrs.1
      | other n => exact Reporter.arpOne_other n
  have hall (rs : List AcdRef) (hrs : rs.count .staticIp ≤ 1) (u : Reporter) :
      (rs.foldl (Reporter.arpOne b timerOk user f) u).dev =
        if .staticIp ∈ rs then acdArpReply b.timing (Device.host b timerOk) f.hdr u.dev
        else u.dev := by
    induction rs generalizing u with
    | nil => rfl
    | cons r rs ih =>
      rw [List.foldl_cons]
      cases r with
      | staticIp =>
        rw [List.count_cons_self] at hrs
        have hrest : .staticIp ∉ rs := List.count_eq_zero.1 (by omega)
        rw [hnone rs hrest, if_pos List.mem_cons_self]
        exact Reporter.arpOne_static
      | other n =>
        rw [List.count_cons_of_ne (by simp)] at hrs
        rw [ih hrs, Reporter.arpOne_other]
        simp only [List.mem_cons, reduceCtorEq, false_or]
  exact hall _ hone s

end GroundTruth.Acd
