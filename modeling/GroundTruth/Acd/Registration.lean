/-
# The list of ACD clients, as it is in memory

The clients of a netif are a linked list through their `next` fields.  lwIP's DHCP and AutoIP put
theirs on it with `acd_add`; so does `main.c` with `s_static_ip_acd`, but in three places it first
sets the head to NULL and the node to zero.  Whoever is on the list then is not after it.

`Device` has the list as a list, and `Device.register` for all three places; here it is the head
and the links.

* `Path.run_spec`: the list that each way of registering the static client leaves;
* `registration_keeps_iff`: when the other clients are still on it;
* `registerDirect_refines`: the links do what `Device.register` does to the list.
-/
import GroundTruth.Lib.Chain
import GroundTruth.Acd.Device

namespace GroundTruth.Acd

open GroundTruth.Lib

/-! ## 1. The list and its operations -/

/-- The netif's list, and what `main.c` knows of it. -/
structure AcdMemory where
  /-- `netif->acd_list` -/
  acdList : Option AcdRef
  /-- the `next` field of each client -/
  next : AcdRef → Option AcdRef
  /-- `s_acd_registered` -/
  registered : Bool
  /-- `s_acd_probe_pending` -/
  probePending : Bool

namespace AcdMemory

/-- The clients on the list. -/
def Lists (m : AcdMemory) (l : List AcdRef) : Prop := Chain m.next m.acdList l

/-- `acd_add`, which returns `ERR_OK`; `none` when its loop does not come to an end. -/
def acdAdd (fuel : Nat) (a : AcdRef) (m : AcdMemory) : Option AcdMemory :=
  (walk m.next a fuel m.acdList).map fun found =>
    if found = true then m
    else { m with next := Function.update m.next a m.acdList, acdList := some a }

/-- The list is emptied, the static client wiped and added. -/
def addAnew (fuel : Nat) (m : AcdMemory) : Option AcdMemory :=
  (acdAdd fuel .staticIp
    { m with acdList := none, next := Function.update m.next .staticIp none }).map fun m =>
      { m with registered := true }

/-- What the three places have in common. -/
def registerOnce (fuel : Nat) (m : AcdMemory) : Option AcdMemory :=
  if m.registered = false then m.addAnew fuel else some m

/-- The direct registration in `tcpip_perform_acd`. -/
def registerDirect (fuel : Nat) (m : AcdMemory) : Option AcdMemory := m.registerOnce fuel

/-- The one after the callback has timed out. -/
def registerFallback (fuel : Nat) (m : AcdMemory) : Option AcdMemory := m.registerOnce fuel

/-- `tcpip_acd_start_cb`. -/
def tcpipAcdStartCb (fuel : Nat) (m : AcdMemory) : Option AcdMemory :=
  let probeWasPending := m.probePending
  (m.registerOnce fuel).bind fun m =>
    if probeWasPending = false then m.acdAdd fuel .staticIp else some m

/-- `tcpip_acd_start_retry`: the client is stopped, and stays on the list. -/
def tcpipAcdStartRetry (m : AcdMemory) : AcdMemory :=
  if m.registered = true then { m with registered := false } else m

end AcdMemory

/-- What becomes of the callback that `tcpip_perform_acd` posts. -/
structure CallbackOutcome where
  posted : Bool
  /-- it is run before the semaphore is waited for in vain -/
  ran : Bool
  /-- the semaphore is taken within half a second -/
  taken : Bool
  deriving DecidableEq, Repr

/-- The registration in `tcpip_perform_acd`; the answer is whether it goes on. -/
def AcdMemory.performRegistration (fuel : Nat) (o : CallbackOutcome) (m : AcdMemory) :
    Option (Bool × AcdMemory) :=
  (m.registerDirect fuel).bind fun m =>
    if m.registered = true then some (true, m)
    else if o.posted = false then some (false, m)
    else
      (if o.ran = true then m.tcpipAcdStartCb fuel else some m).bind fun m =>
        (if o.taken = false then m.registerFallback fuel else some m).map fun m =>
          (m.registered, m)

/-- The ways to a registration. -/
inductive Path
  /-- `tcpip_perform_acd` -/
  | direct (o : CallbackOutcome)
  /-- `tcpip_acd_start_cb` -/
  | callback
  /-- the last resort of `tcpip_perform_acd` -/
  | fallback
  /-- a conflict schedules a retry, and the retry comes to `tcpip_perform_acd` -/
  | retry (o : CallbackOutcome)
  deriving DecidableEq, Repr

namespace Path

def run (fuel : Nat) (m : AcdMemory) : Path → Option AcdMemory
  | .direct o => (m.performRegistration fuel o).map Prod.snd
  | .callback => m.tcpipAcdStartCb fuel
  | .fallback => m.registerFallback fuel
  | .retry o => (m.tcpipAcdStartRetry.performRegistration fuel o).map Prod.snd

/-- The way leads over the three lines that empty the list. -/
def Resets (m : AcdMemory) : Path → Prop
  | .direct _ | .callback | .fallback => m.registered = false
  | .retry _ => True

/-- The way leads to `acd_add`. -/
def Registers (m : AcdMemory) : Path → Prop
  | .direct _ | .fallback => m.registered = false
  | .callback => m.registered = false ∨ m.probePending = false
  | .retry _ => True

instance decidableResets (m : AcdMemory) : (p : Path) → Decidable (p.Resets m)
  | .direct _ => inferInstanceAs (Decidable (m.registered = false))
  | .callback => inferInstanceAs (Decidable (m.registered = false))
  | .fallback => inferInstanceAs (Decidable (m.registered = false))
  | .retry _ => inferInstanceAs (Decidable True)

end Path

/-! ## 2. What the operations make of a list -/

variable {m m' : AcdMemory} {l : List AcdRef} {a : AcdRef} {fuel : Nat} {p : Path}

/-- `acd_add` ends, and puts a client in front that was not there. -/
theorem AcdMemory.acdAdd_spec (h : m.Lists l) (hfuel : l.length < fuel) (a : AcdRef) :
    ∃ m', m.acdAdd fuel a = some m' ∧ m'.Lists (if a ∈ l then l else a :: l) ∧
      m'.registered = m.registered ∧ m'.probePending = m.probePending := by
  unfold AcdMemory.acdAdd
  rw [walk_eq h hfuel]
  by_cases ha : a ∈ l
  · refine ⟨m, by simp [ha], ?_, rfl, rfl⟩
    rw [if_pos ha]
    exact h
  · refine ⟨{ m with next := Function.update m.next a m.acdList, acdList := some a },
      by simp [ha], ?_, rfl, rfl⟩
    rw [if_neg ha]
    exact Chain.push h ha

/-- **Registering anew leaves the static client alone on the list**, whatever was on it. -/
theorem AcdMemory.addAnew_spec (hfuel : 0 < fuel) (m : AcdMemory) :
    ∃ m', m.addAnew fuel = some m' ∧ m'.Lists [.staticIp] ∧ m'.registered = true ∧
      m'.probePending = m.probePending := by
  have hempty : AcdMemory.Lists
      { m with acdList := none, next := Function.update m.next .staticIp none } [] := rfl
  obtain ⟨m', hadd, hlists, -, hpending⟩ := AcdMemory.acdAdd_spec hempty hfuel .staticIp
  unfold AcdMemory.addAnew
  rw [hadd]
  exact ⟨_, rfl, hlists, rfl, hpending⟩

theorem AcdMemory.registerOnce_spec (h : m.Lists l) (hfuel : 0 < fuel) :
    ∃ m', m.registerOnce fuel = some m' ∧
      m'.Lists (if m.registered = false then [.staticIp] else l) ∧ m'.registered = true ∧
      m'.probePending = m.probePending := by
  unfold AcdMemory.registerOnce
  by_cases hreg : m.registered = false
  · rw [if_pos hreg, if_pos hreg]
    exact m.addAnew_spec hfuel
  · rw [if_neg hreg, if_neg hreg]
    exact ⟨m, rfl, h, by simpa using hreg, rfl⟩

/-- The direct registration does not fail, and `tcpip_perform_acd` goes on at once. -/
theorem AcdMemory.performRegistration_spec (h : m.Lists l) (hfuel : 0 < fuel)
    (o : CallbackOutcome) :
    ∃ m', m.performRegistration fuel o = some (true, m') ∧
      m'.Lists (if m.registered = false then [.staticIp] else l) := by
  obtain ⟨m', hreg, hlists, hset, -⟩ := AcdMemory.registerOnce_spec h hfuel
  refine ⟨m', ?_, hlists⟩
  unfold AcdMemory.performRegistration AcdMemory.registerDirect
  rw [hreg, Option.bind_some, if_pos hset]

/-- The list that a way of registering leaves. -/
def Path.leaves (m : AcdMemory) (l : List AcdRef) (p : Path) : List AcdRef :=
  if p.Resets m then [.staticIp]
  else if p = .callback ∧ m.probePending = false ∧ .staticIp ∉ l then .staticIp :: l
  else l

/-- The other ways leave the list as it is or with the one client on it. -/
theorem Path.leaves_of_ne {p : Path} (hp : p ≠ .callback) :
    p.leaves m l = if p.Resets m then [.staticIp] else l := by
  simp [Path.leaves, hp]

/-- The callback registers the client if it is not, and adds it again unless a probe is pending. -/
theorem Path.callback_spec (h : m.Lists l) (hfuel : l.length + 1 < fuel) :
    ∃ m', Path.callback.run fuel m = some m' ∧ m'.Lists (Path.callback.leaves m l) := by
  have hpos : 0 < fuel := Nat.zero_lt_of_lt hfuel
  obtain ⟨m₁, hrun, hlists, hset, hpending⟩ := AcdMemory.registerOnce_spec h hpos
  simp only [Path.run, AcdMemory.tcpipAcdStartCb, hrun, Option.bind_some]
  rw [Path.leaves]
  by_cases hreg : m.registered = false
  · -- the client is the only one; adding it again changes nothing
    rw [if_pos hreg] at hlists
    rw [if_pos (show Path.Resets m .callback from hreg)]
    split
    · have hone : [AcdRef.staticIp].length < fuel := by
        rw [List.length_singleton]
        omega
      obtain ⟨m', hadd, hlists', -⟩ := AcdMemory.acdAdd_spec hlists hone .staticIp
      rw [if_pos (List.mem_singleton_self _)] at hlists'
      exact ⟨m', hadd, hlists'⟩
    · exact ⟨m₁, rfl, hlists⟩
  · rw [if_neg hreg] at hlists
    rw [if_neg (show ¬Path.Resets m .callback from hreg)]
    by_cases hprobe : m.probePending = false
    · rw [if_pos hprobe]
      obtain ⟨m', hadd, hlists', -⟩ :=
        AcdMemory.acdAdd_spec hlists (Nat.lt_of_succ_lt hfuel) .staticIp
      refine ⟨m', hadd, ?_⟩
      by_cases hmem : .staticIp ∈ l
      · rw [if_neg (by simp [hmem])]
        rw [if_pos hmem] at hlists'
        exact hlists'
      · rw [if_pos ⟨rfl, hprobe, hmem⟩]
        rw [if_neg hmem] at hlists'
        exact hlists'
    · rw [if_neg hprobe, if_neg (by simp [hprobe])]
      exact ⟨m₁, rfl, hlists⟩

/-- The retry has taken the flag back, and leaves the links. -/
theorem AcdMemory.tcpipAcdStartRetry_spec (h : m.Lists l) :
    m.tcpipAcdStartRetry.Lists l ∧ m.tcpipAcdStartRetry.registered = false := by
  unfold AcdMemory.tcpipAcdStartRetry
  split
  · exact ⟨h, rfl⟩
  · rename_i hreg
    exact ⟨h, by simpa using hreg⟩

/-- **Every way of registering** comes to an end, and leaves a list. -/
theorem Path.run_spec (h : m.Lists l) (hfuel : l.length + 1 < fuel) (p : Path) :
    ∃ m', p.run fuel m = some m' ∧ m'.Lists (p.leaves m l) := by
  have hpos : 0 < fuel := Nat.zero_lt_of_lt hfuel
  cases p with
  | direct o =>
    obtain ⟨m', hrun, hlists⟩ := AcdMemory.performRegistration_spec h hpos o
    refine ⟨m', by rw [Path.run, hrun]; rfl, ?_⟩
    rw [Path.leaves_of_ne (by simp)]
    exact hlists
  | callback => exact Path.callback_spec h hfuel
  | fallback =>
    obtain ⟨m', hrun, hlists, -, -⟩ := AcdMemory.registerOnce_spec h hpos
    refine ⟨m', hrun, ?_⟩
    rw [Path.leaves_of_ne (by simp)]
    exact hlists
  | retry o =>
    have hretry := AcdMemory.tcpipAcdStartRetry_spec h
    obtain ⟨m', hrun, hlists⟩ := AcdMemory.performRegistration_spec hretry.1 hpos o
    rw [if_pos hretry.2] at hlists
    refine ⟨m', by rw [Path.run, hrun]; rfl, ?_⟩
    rw [Path.leaves_of_ne (by simp), if_pos (show Path.Resets m (.retry o) from trivial)]
    exact hlists

/-! ## 3. The other clients -/

/-- Every client that was on the list is on it exactly once, and so is the static client; nobody
else is. -/
def AcdMemory.Keeps (m' : AcdMemory) (l : List AcdRef) : Prop :=
  ∃ l', m'.Lists l' ∧ l'.count .staticIp = 1 ∧ (∀ a ∈ l, l'.count a = 1) ∧
    ∀ a ∈ l', a = .staticIp ∨ a ∈ l

/-- **When the other clients stay on the list**: when the way to the registration does not lead
over the lines that empty it, or there is no other client. -/
theorem registration_keeps_iff (h : m.Lists l) (hfuel : l.length + 1 < fuel)
    (hp : p.Registers m) :
    ∃ m', p.run fuel m = some m' ∧
      (m'.Keeps l ↔ (p.Resets m → ∀ a ∈ l, a = .staticIp)) := by
  obtain ⟨m', hrun, hlists⟩ := Path.run_spec h hfuel p
  refine ⟨m', hrun, ?_⟩
  by_cases hreset : p.Resets m
  · rw [Path.leaves, if_pos hreset] at hlists
    constructor
    · rintro ⟨l', hl', -, hothers, -⟩ _ a ha
      have honly := hothers a ha
      rw [← Chain.unique hlists hl', List.count_singleton] at honly
      by_contra hne
      rw [if_neg (by simpa using Ne.symm hne)] at honly
      cases honly
    · intro hall
      refine ⟨[.staticIp], hlists, rfl, ?_, fun a ha => Or.inl (List.mem_singleton.1 ha)⟩
      intro a ha
      rw [hall hreset a ha]
      rfl
  · refine ⟨fun _ hr => absurd hr hreset, fun _ => ?_⟩
    -- only the callback registers a client that is registered already
    have hcallback : p = .callback ∧ m.probePending = false := by
      cases p with
      | direct o => exact absurd hp hreset
      | callback => exact ⟨rfl, hp.resolve_left hreset⟩
      | fallback => exact absurd hp hreset
      | retry o => exact absurd trivial hreset
    have hnodup : l.Nodup := Chain.nodup h
    rw [Path.leaves, if_neg hreset] at hlists
    by_cases hmem : .staticIp ∈ l
    · rw [if_neg fun hn => hn.2.2 hmem] at hlists
      exact ⟨l, hlists, List.count_eq_one_of_mem hnodup hmem,
        fun a ha => List.count_eq_one_of_mem hnodup ha, fun a ha => Or.inr ha⟩
    · rw [if_pos ⟨hcallback.1, hcallback.2, hmem⟩] at hlists
      have hnodup' : (.staticIp :: l).Nodup := List.nodup_cons.2 ⟨hmem, hnodup⟩
      exact ⟨_, hlists, List.count_eq_one_of_mem hnodup' List.mem_cons_self,
        fun a ha => List.count_eq_one_of_mem hnodup' (List.mem_cons_of_mem _ ha),
        fun a ha => List.mem_cons.1 ha⟩

/-- The netif on which lwIP has put its DHCP client. -/
def benchDhcp (registered probePending : Bool) : AcdMemory :=
  ⟨some (.other 0), fun _ => none, registered, probePending⟩

theorem registration_keeps_ongoing :
    ∃ m', Path.run 9 (benchDhcp true false) .callback = some m' ∧ m'.Keeps [.other 0] := by
  have hlists : (benchDhcp true false).Lists [.other 0] := ⟨rfl, rfl⟩
  have hroom : [AcdRef.other 0].length + 1 < 9 := by decide
  obtain ⟨m', hrun, hkeeps⟩ := registration_keeps_iff (p := .callback) hlists hroom (Or.inr rfl)
  exact ⟨m', hrun, hkeeps.2 fun hreset => by cases hreset⟩

/-- The first registration takes lwIP's client off the list. -/
theorem client_dropped :
    ¬∀ (fuel : Nat) (m : AcdMemory) (l : List AcdRef) (p : Path), m.Lists l →
      l.length + 1 < fuel → p.Registers m → ∃ m', p.run fuel m = some m' ∧ m'.Keeps l := by
  intro h
  obtain ⟨m', hrun, l', hl', -, hothers, -⟩ :=
    h 9 (benchDhcp false true) [.other 0] (.direct ⟨true, true, true⟩) ⟨rfl, rfl⟩ (by decide) rfl
  have hhead : m'.acdList = some .staticIp ∧ m'.next .staticIp = none := by
    obtain rfl := Option.some.inj hrun
    decide
  have hlists : m'.Lists [.staticIp] := ⟨hhead.1, hhead.2⟩
  have hgone := hothers (.other 0) List.mem_cons_self
  rw [← Chain.unique hlists hl'] at hgone
  revert hgone
  decide

/-! ## 4. The list of `Device` -/

/-- **The direct registration does to the links what `Device.register` does to the list.** -/
theorem registerDirect_refines {d : Device} (h : m.Lists d.acdList)
    (hreg : m.registered = d.registered) (hfuel : 0 < fuel) :
    ∃ m', m.registerDirect fuel = some m' ∧ m'.Lists d.register.acdList ∧
      m'.registered = d.register.registered := by
  obtain ⟨m', hrun, hlists, hset, -⟩ := AcdMemory.registerOnce_spec h hfuel
  refine ⟨m', hrun, ?_⟩
  unfold Device.register
  rw [hreg] at hlists
  by_cases hd : d.registered = true
  · rw [if_pos hd]
    rw [if_neg (by simp [hd])] at hlists
    exact ⟨hlists, hset.trans hd.symm⟩
  · rw [if_neg hd]
    rw [if_pos (by simpa using hd)] at hlists
    exact ⟨hlists, hset⟩

end GroundTruth.Acd
