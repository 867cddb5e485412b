/-
# The OpENer thread and the link

`opener_init` starts the thread, from the got-IP handler and once for each time the services are
initialised; the thread leaves its loop by itself when it sees the link down or its network handler
fails, shuts the stack down, and only then clears `opener_initialized`.  The got-IP handler sets
`s_services_initialized` whatever `opener_init` did, which does not tell.

* `initialized_thread`: `opener_initialized` is set just while there is a thread;
* `Served.step`: while the got-IP handler finds the link up and either a thread in its loop or none
  at all and the means to create one, and the network handler does not fail, initialised services
  mean a thread in its loop;
* `opener_live`: so it is in every run.
-/
import Mathlib
import GroundTruth.Lib.Run

namespace GroundTruth.Opener

open GroundTruth.Lib

/-! ## 1. The device -/

inductive ThreadPhase
  /-- in the loop of `opener_thread` -/
  | running
  /-- after the loop, before `opener_initialized` is cleared -/
  | finishing
  deriving DecidableEq, Repr

structure Device where
  /-- `netif_is_link_up` -/
  linkUp : Bool
  /-- an address has been obtained since the link is up -/
  hasAddress : Bool
  /-- `s_netif_mutex` has been created -/
  netifMutex : Bool
  /-- `s_netif` is not NULL -/
  netif : Bool
  /-- `s_services_initialized` -/
  servicesInitialized : Bool
  /-- `opener_init_mutex` has been created -/
  initMutex : Bool
  /-- `opener_initialized` -/
  openerInitialized : Bool
  /-- `g_end_stack` -/
  endStack : Bool
  /-- the OpENer thread -/
  thread : Option ThreadPhase
  deriving DecidableEq, Repr

def Device.powerOn : Device := ⟨false, false, false, false, false, false, false, false, none⟩

/-- What the allocations of the got-IP handler return. -/
structure Resources where
  netifMutex : Bool
  initMutex : Bool
  /-- `xTaskCreatePinnedToCore` -/
  taskCreate : Bool
  deriving DecidableEq, Repr

def Resources.good : Resources := ⟨true, true, true⟩

/-- `opener_init`.  The status of `NetworkHandlerInitialize` goes to a variable of the inner block
and is not looked at. -/
def openerInit (r : Resources) (d : Device) : Device :=
  if d.initMutex = false ∧ r.initMutex = false then d
  else
    let d := { d with initMutex := true }
    if d.openerInitialized = true then d
    else
      let d := if d.linkUp = true then { d with endStack := false }
        else { d with endStack := true }
      if d.endStack = false then
        if r.taskCreate = true then
          { d with openerInitialized := true, thread := some .running }
        else d
      else d

/-- `got_ip_event_handler`, as far as OpENer is concerned. -/
def gotIpEventHandler (r : Resources) (d : Device) : Device :=
  let d := { d with hasAddress := true }
  if d.netifMutex = false ∧ r.netifMutex = false then d
  else
    let d := { d with netifMutex := true, netif := d.netif || d.linkUp }
    if d.netif = false then d
    else if d.servicesInitialized = true then d
    else { openerInit r d with servicesInitialized := true }

/-- What can happen. -/
inductive Event
  /-- `ETHERNET_EVENT_CONNECTED` -/
  | linkUp
  /-- `ETHERNET_EVENT_DISCONNECTED` -/
  | linkDown
  /-- `IP_EVENT_ETH_GOT_IP` -/
  | gotIp (r : Resources)
  /-- the thread goes once through its loop; `ok` is what `NetworkHandlerProcessCyclic` says -/
  | iterate (ok : Bool)
  /-- it leaves the loop -/
  | leave
  /-- it has shut the stack down, and ends -/
  | clear
  deriving DecidableEq, Repr

def openerStep (d : Device) : Event → Option Device
  | .linkUp => some { d with linkUp := true }
  | .linkDown =>
    some { d with linkUp := false, hasAddress := false, servicesInitialized := false }
  | .gotIp r => some (gotIpEventHandler r d)
  | .iterate ok =>
    if d.thread = some .running ∧ d.endStack = false then
      some { d with endStack := !ok || !d.linkUp }
    else none
  | .leave =>
    if d.thread = some .running ∧ d.endStack = true then
      some { d with thread := some .finishing }
    else none
  | .clear =>
    if d.thread = some .finishing then
      some { d with openerInitialized := false, thread := none }
    else none

/-- The thread is in its loop, and stays there. -/
def Device.Live (d : Device) : Prop := d.thread = some .running ∧ d.endStack = false

instance Device.Live.decidable (d : Device) : Decidable d.Live :=
  inferInstanceAs (Decidable (_ ∧ _))

/-- No shutdown is under way. -/
def Device.Quiescent (d : Device) : Prop := d.thread = none ∨ d.Live

instance Device.Quiescent.decidable (d : Device) : Decidable d.Quiescent :=
  inferInstanceAs (Decidable (_ ∨ _))

/-! ## 2. There is one thread at most -/

variable {d d' : Device} {r : Resources}

/-- `opener_initialized` is set just while there is a thread. -/
def Marked (d : Device) : Prop := d.openerInitialized = d.thread.isSome

/-- **`opener_init`** does nothing that matters here, or there was no thread and it says what there
is now. -/
theorem openerInit_cases (r : Resources) (d : Device) :
    (openerInit r d).linkUp = d.linkUp ∧
      ((openerInit r d).openerInitialized = d.openerInitialized ∧
          (openerInit r d).thread = d.thread ∧ (openerInit r d).endStack = d.endStack ∧
          (d.openerInitialized = true ∨ d.initMutex = false ∧ r.initMutex = false) ∨
        d.openerInitialized = false ∧ (openerInit r d).openerInitialized = false ∧
          (openerInit r d).thread = d.thread ∧ (d.linkUp = false ∨ r.taskCreate = false) ∨
        d.openerInitialized = false ∧ (openerInit r d).openerInitialized = true ∧
          (openerInit r d).thread = some .running ∧ (openerInit r d).endStack = false) := by
  unfold openerInit
  by_cases hmutex : d.initMutex = false ∧ r.initMutex = false
  · rw [if_pos hmutex]
    exact ⟨rfl, Or.inl ⟨rfl, rfl, rfl, Or.inr hmutex⟩⟩
  rw [if_neg hmutex]
  dsimp only
  by_cases hinit : d.openerInitialized = true
  · rw [if_pos hinit]
    exact ⟨rfl, Or.inl ⟨rfl, rfl, rfl, Or.inl hinit⟩⟩
  rw [if_neg hinit]
  rw [Bool.not_eq_true] at hinit
  by_cases hlink : d.linkUp = true
  · rw [if_pos hlink]
    by_cases htask : r.taskCreate = true
    · simp [htask, hinit]
    · simp [htask, hinit]
  · rw [if_neg hlink]
    simp [hlink, hinit]

theorem Marked.openerInit (h : Marked d) : Marked (openerInit r d) := by
  obtain ⟨-, ⟨hi, ht, -, -⟩ | ⟨hno, hi, ht, -⟩ | ⟨-, hi, ht, -⟩⟩ := openerInit_cases r d
  · rw [Marked, hi, ht]
    exact h
  · rw [Marked, hi, ht, ← hno]
    exact h
  · rw [Marked, hi, ht]
    rfl

theorem Marked.gotIp (h : Marked d) : Marked (gotIpEventHandler r d) := by
  unfold gotIpEventHandler
  dsimp only
  split
  · exact h
  · split
    · exact h
    · split
      · exact h
      · exact Marked.openerInit (d := { d with
          hasAddress := true, netifMutex := true, netif := d.netif || d.linkUp }) h

theorem Marked.step {e : Event} (h : Marked d) (hs : openerStep d e = some d') : Marked d' := by
  cases e with
  | linkUp =>
    obtain rfl := Option.some.inj hs
    exact h
  | linkDown =>
    obtain rfl := Option.some.inj hs
    exact h
  | gotIp r =>
    obtain rfl := Option.some.inj hs
    exact h.gotIp
  | iterate ok =>
    rw [openerStep] at hs
    split at hs
    · obtain rfl := Option.some.inj hs
      exact h
    · cases hs
  | leave =>
    rw [openerStep] at hs
    split at hs
    · rename_i hrun
      obtain rfl := Option.some.inj hs
      have hm : d.openerInitialized = true := by rw [h, hrun.1, Option.isSome_some]
      exact hm
    · cases hs
  | clear =>
    rw [openerStep] at hs
    split at hs
    · obtain rfl := Option.some.inj hs
      rfl
    · cases hs

/-- **There is one thread at most**, and the flag says whether there is one. -/
theorem initialized_thread (h : Reach openerStep .powerOn d) :
    d.openerInitialized = d.thread.isSome :=
  h.invariant (P := Marked) (fun _ _ _ hm _ hs => hm.step hs) rfl

/-! ## 3. Services and the thread -/

/-- The got-IP handler goes on to initialise the services. -/
def Initialises (d : Device) (r : Resources) : Prop :=
  (d.netifMutex = true ∨ r.netifMutex = true) ∧ (d.netif = true ∨ d.linkUp = true) ∧
    d.servicesInitialized = false

/-- The thread is in its loop, or there is none and it can be created. -/
def Startable (d : Device) (r : Resources) : Prop :=
  d.linkUp = true ∧ (d.Live ∨ d.openerInitialized = false ∧
    (d.initMutex = true ∨ r.initMutex = true) ∧ r.taskCreate = true)

/-- The services are initialised only when the thread is there or can be started, and the network
handler does not fail once they are. -/
def Orderly (d : Device) : Event → Prop
  | .gotIp r => Initialises d r → Startable d r
  | .iterate ok => d.servicesInitialized = true → ok = true
  | _ => True

/-- Initialised services mean that the link is up and the thread in its loop. -/
structure Served (d : Device) : Prop where
  marked : Marked d
  live : d.servicesInitialized = true → d.linkUp = true ∧ d.Live

/-- The thread is in its loop after `opener_init`. -/
theorem openerInit_live (hm : Marked d) (h : Startable d r) : (openerInit r d).Live := by
  obtain ⟨hlink, hcan⟩ := h
  obtain ⟨-, ⟨-, ht, he, hwhy⟩ | ⟨hno, -, -, hwhy⟩ | ⟨-, -, ht, he⟩⟩ := openerInit_cases r d
  · have hlive : d.Live := by
      rcases hcan with hlive | ⟨hno, hmutex, -⟩
      · exact hlive
      · rcases hwhy with hyes | ⟨hd, hr⟩
        · rw [hno] at hyes
          cases hyes
        · rw [hd, hr] at hmutex
          simp at hmutex
    rw [Device.Live, ht, he]
    exact hlive
  · rcases hcan with ⟨hrun, -⟩ | ⟨-, -, htask⟩
    · rw [Marked, hno, hrun] at hm
      cases hm
    · rcases hwhy with hdown | hfail
      · rw [hlink] at hdown
        cases hdown
      · rw [htask] at hfail
        cases hfail
  · exact ⟨ht, he⟩

theorem Served.gotIp (h : Served d) (hg : Orderly d (.gotIp r)) :
    Served (gotIpEventHandler r d) := by
  refine ⟨h.marked.gotIp, ?_⟩
  unfold gotIpEventHandler
  dsimp only
  split
  · exact h.live
  · rename_i hmutex
    split
    · exact h.live
    · rename_i hnetif
      split
      · exact h.live
      · rename_i hservices
        intro _
        have hstart : Startable d r := by
          refine hg ⟨?_, ?_, by simpa using hservices⟩
          · rcases hd : d.netifMutex with _ | _
            · exact Or.inr (by simpa [hd] using hmutex)
            · exact Or.inl rfl
          · rcases hd : d.netif with _ | _
            · exact Or.inr (by simpa [hd] using hnetif)
            · exact Or.inl rfl
        refine ⟨?_, openerInit_live (d := { d with
          hasAddress := true, netifMutex := true, netif := d.netif || d.linkUp })
          h.marked hstart⟩
        exact (openerInit_cases r _).1.trans hstart.1

/-- **One event.** -/
theorem Served.step {e : Event} (h : Served d) (hg : Orderly d e)
    (hs : openerStep d e = some d') : Served d' := by
  cases e with
  | linkUp =>
    obtain rfl := Option.some.inj hs
    exact ⟨h.marked, fun hserv => ⟨rfl, (h.live hserv).2⟩⟩
  | linkDown =>
    obtain rfl := Option.some.inj hs
    exact ⟨h.marked, fun hserv => by cases hserv⟩
  | gotIp r =>
    obtain rfl := Option.some.inj hs
    exact h.gotIp hg
  | iterate ok =>
    refine ⟨h.marked.step hs, ?_⟩
    rw [openerStep] at hs
    split at hs
    · rename_i hrun
      obtain rfl := Option.some.inj hs
      intro hserv
      obtain ⟨hlink, -⟩ := h.live hserv
      exact ⟨hlink, hrun.1, by simp [hg hserv, hlink]⟩
    · cases hs
  | leave =>
    refine ⟨h.marked.step hs, ?_⟩
    rw [openerStep] at hs
    split at hs
    · rename_i hrun
      obtain rfl := Option.some.inj hs
      intro hserv
      obtain ⟨-, -, hend⟩ := h.live hserv
      rw [hrun.2] at hend
      cases hend
    · cases hs
  | clear =>
    refine ⟨h.marked.step hs, ?_⟩
    rw [openerStep] at hs
    split at hs
    · rename_i hfin
      obtain rfl := Option.some.inj hs
      intro hserv
      obtain ⟨-, hrun, -⟩ := h.live hserv
      rw [hfin] at hrun
      cases hrun
    · cases hs

/-- **The OpENer thread is there.**  In every run whose steps are orderly, a quiescent state with
the link up, an address, and the services initialised has a thread in its loop. -/
theorem opener_live (h : Run openerStep Orderly .powerOn d) (_ : d.Quiescent)
    (_ : d.linkUp = true) (_ : d.hasAddress = true) (hserv : d.servicesInitialized = true) :
    d.Live :=
  ((h.invariant (P := Served) (fun _ _ _ hd hg hs => hd.step hg hs)
    ⟨rfl, fun hf => by cases hf⟩).live hserv).2

/-- The device comes up and serves. -/
def benchServing : List Event := [.linkUp, .gotIp .good, .iterate true]

/-- The link flaps; the next address is obtained before the thread has ended. -/
def benchFlapping : List Event :=
  benchServing ++ [.linkDown, .iterate true, .leave, .linkUp, .gotIp .good, .clear]

theorem opener_live_serving :
    ∃ d, exec openerStep .powerOn benchServing = some d ∧ d.Live := by
  refine ⟨_, rfl, opener_live (exec_run ?_ (rfl : exec _ _ benchServing = some _))
    (by decide) rfl rfl rfl⟩
  refine ⟨trivial, fun _ => ⟨rfl, Or.inr ⟨rfl, Or.inr rfl, rfl⟩⟩, fun _ => rfl, trivial⟩

/-- After the flap the services are initialised, and there is no thread. -/
theorem thread_lost_in_flap :
    ¬∀ d, Reach openerStep .powerOn d → d.Quiescent → d.linkUp = true → d.hasAddress = true →
      d.servicesInitialized = true → d.Live := by
  intro h
  have hlive := h _ (exec_reach (rfl : exec _ _ benchFlapping = some _)) (by decide) rfl rfl rfl
  revert hlive
  decide

end GroundTruth.Opener
