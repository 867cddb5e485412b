/-
# What GET says of the Modbus server

`api_post_modbus_handler` saves the setting, copies it, and starts or stops the server to match.
`got_ip_event_handler` starts the server whenever it starts the services, on every link-up:
"ModbusTCP is always enabled".  It does not look at the setting, and GET reports nothing else.

The two handlers run in tasks of their own.  Each call of `modbus_tcp_init`, `modbus_tcp_start` and
`modbus_tcp_stop` is one step here, and the steps of the server task come between them as they like.
The first call of `modbus_tcp_init` makes the mutex; what becomes of two that both make it is in
`Server.lean`.

* `Matched.step`: while the link handler creates a task only where the setting says enabled, the
  server runs where the setting says so, or a handler is about to see to it;
* `server_as_reported`: so GET says whether there is a server task, in every quiescent state;
* `start_unreported`: and a start that does not meet the condition is enough for GET to be wrong.
-/
import GroundTruth.Modbus.Server
import GroundTruth.Web.Setting

namespace GroundTruth.Modbus

open GroundTruth.Lib GroundTruth.Web
open GroundTruth.Tcpip (NvWrite)

/-! ## 1. The two handlers -/

/-- Where `api_post_modbus_handler` is, once it has saved the value. -/
inductive PostPhase
  | idle
  | toInit
  | toStart
  | toStop
  /-- in the wait of `modbus_tcp_stop` -/
  | stopping
  deriving DecidableEq, Repr

/-- Where `got_ip_event_handler` is. -/
inductive GotIpPhase
  | idle
  | toInit
  | toStart
  deriving DecidableEq, Repr

structure ModbusDevice where
  server : Server
  /-- the blob, and `s_cached_modbus_enabled` -/
  enabled : Setting Bool
  post : PostPhase
  gotIp : GotIpPhase
  linkUp : Bool
  /-- `server_handle` of the web interface is not NULL -/
  webui : Bool
  /-- `s_services_initialized` -/
  servicesInitialized : Bool
  deriving DecidableEq, Repr

/-- After a reboot. -/
def ModbusDevice.boot (enabled : Setting Bool) : ModbusDevice where
  server := .initial
  enabled := enabled.reboot
  post := .idle
  gotIp := .idle
  linkUp := false
  webui := false
  servicesInitialized := false

/-- `system_modbus_enabled_load` -/
def modbusEnabledLoad (readable : Bool) (x : Setting Bool) : Bool :=
  x.load (fun _ => true) false readable

/-- `modbus_tcp_init`, where all it calls succeeds. -/
def initOk (s : Server) : Server := modbusTcpInit .ok { s with mutex := true }

/-- `api_get_modbus_handler` -/
def getModbus (readable : Bool) (d : ModbusDevice) : Bool × ModbusDevice :=
  let (enabled, x) := d.enabled.get (modbusEnabledLoad readable)
  (enabled, { d with enabled := x })

/-- `api_post_modbus_handler`, once it has the value, up to its calls of the server. -/
def postModbus (w : NvWrite) (enabled : Bool) (d : ModbusDevice) : ModbusDevice :=
  let (ok, x) := d.enabled.post w enabled
  { d with enabled := x
           post := if ok = false then .idle else if enabled = true then .toInit else .toStop }

inductive ModbusEvent
  | reboot
  | linkUp
  | linkDown
  /-- the event of a new address comes; `webui` is what `webui_init` says -/
  | gotIp (webui : Bool)
  | gotIpInit
  | gotIpStart
  | get (readable : Bool)
  | post (w : NvWrite) (enabled : Bool)
  | postInit
  | postStart
  | postStop
  /-- the wait of `modbus_tcp_stop` ends -/
  | postStopped (closed : Option Nat)
  | task (i : Nat) (a : TaskStep)
  | ended (i : Nat)
  deriving DecidableEq, Repr

/-- The events of the link and of the address come from one queue; the web server serves one request
at a time. -/
def modbusStep (d : ModbusDevice) : ModbusEvent → Option ModbusDevice
  | .reboot => some (.boot d.enabled)
  | .linkUp => if d.gotIp = .idle then some { d with linkUp := true } else none
  | .linkDown =>
    if d.gotIp = .idle then some { d with linkUp := false, servicesInitialized := false } else none
  | .gotIp webui =>
    if d.gotIp = .idle then
      some (if d.servicesInitialized = true then d
        else { d with webui := d.webui || webui, gotIp := .toInit })
    else none
  | .gotIpInit =>
    if d.gotIp = .toInit then some { d with server := initOk d.server, gotIp := .toStart } else none
  | .gotIpStart =>
    if d.gotIp = .toStart then
      some { d with server := modbusTcpStart true d.server, gotIp := .idle
                    servicesInitialized := true }
    else none
  | .get readable =>
    if d.webui = true ∧ d.post = .idle then some (getModbus readable d).2 else none
  | .post w enabled =>
    if d.webui = true ∧ d.post = .idle then some (postModbus w enabled d) else none
  | .postInit =>
    if d.post = .toInit then some { d with server := initOk d.server, post := .toStart } else none
  | .postStart =>
    if d.post = .toStart then some { d with server := modbusTcpStart true d.server, post := .idle }
    else none
  | .postStop =>
    if d.post = .toStop then
      some { d with server := modbusTcpStop d.server
                    post := if d.server.mutex = true ∧ d.server.handle = true then .stopping
                      else .idle }
    else none
  | .postStopped closed =>
    if d.post = .stopping then
      (serverStep d.server (.stopped closed)).map fun s => { d with server := s, post := .idle }
    else none
  | .task i a => (serverStep d.server (.task i a)).map fun s => { d with server := s }
  | .ended i => (serverStep d.server (.ended i)).map fun s => { d with server := s }

/-- What GET reports. -/
def ModbusDevice.reported (d : ModbusDevice) : Bool := (getModbus true d).1

/-- The link is up, requests are served, no handler is at work, and no task has yet to find out
that the server is stopped. -/
structure Quiescent (d : ModbusDevice) : Prop where
  linkUp : d.linkUp = true
  webui : d.webui = true
  post : d.post = .idle
  gotIp : d.gotIp = .idle
  stopped : d.server.running = false → d.server.tasks = []

/-- GET says whether a server task is running. -/
def ModbusDevice.AsReported (d : ModbusDevice) : Prop :=
  Quiescent d → (d.reported = true ↔ ∃ p ∈ d.server.tasks, p.inLoop = true)

/-- The link handler creates a task only where GET says enabled, or where a POST is about to stop
it again; what is loaded, or left behind by a write that is reported as failed, is what GET would
have said; and `select` fails only on a socket that has been closed. -/
def Consulted (d : ModbusDevice) : ModbusEvent → Prop
  | .gotIpStart => d.reported = true ∨ d.post = .toStop ∨ d.server.handle = true ∨
    d.server.listen = none
  | .get readable => readable = true ∨ d.enabled.cached ≠ none ∨ d.reported = false
  | .post w enabled => w ≠ .uncommitted ∨ d.enabled.cached ≠ none ∨ enabled = d.reported
  | .task i a => a = .selected false → d.server.tasks[i]? ≠ some (.selecting d.server.listen)
  | _ => True

instance Consulted.decidable (d : ModbusDevice) : ∀ e, Decidable (Consulted d e)
  | .gotIpStart | .get _ | .post _ _ => inferInstanceAs (Decidable (_ ∨ _))
  | .task _ _ => inferInstanceAs (Decidable (_ → _))
  | .reboot | .linkUp | .linkDown | .gotIp _ | .gotIpInit | .postInit | .postStart | .postStop
  | .postStopped _ | .ended _ => inferInstanceAs (Decidable True)

/-! ## 2. A task that stays -/

variable {s s' : Server} {d d' : ModbusDevice} {e : ModbusEvent}

/-- The task is in its loop, and if it waits in `select`, then on the listening socket. -/
def TaskPhase.Stays (listen : Option Nat) : TaskPhase → Prop
  | .selecting k => k = listen
  | .leaving => False
  | _ => True

theorem TaskPhase.Stays.inLoop {p : TaskPhase} {listen : Option Nat} (h : p.Stays listen) :
    p.inLoop = true := by
  cases p <;> first | rfl | exact h.elim

/-- **A task stays** while the server is running and `select` does not fail. -/
theorem serverTask_stays {p q : TaskPhase} {a : TaskStep} (hrun : s.running = true)
    (hp : p.Stays s.listen) (hfail : a = .selected false → p ≠ .selecting s.listen)
    (hq : serverTask s p a = some q) : q.Stays s.listen := by
  unfold serverTask at hq
  split at hq
  · rw [hrun] at hq
    obtain rfl := Option.some.inj hq
    simp [TaskPhase.Stays]
  · obtain rfl := Option.some.inj hq
    rfl
  · rename_i k ok
    obtain rfl := Option.some.inj hq
    cases ok with
    | true => trivial
    | false => exact absurd (congrArg TaskPhase.selecting hp) (hfail rfl)
  · obtain rfl := Option.some.inj hq
    split <;> trivial
  · obtain rfl := Option.some.inj hq
    trivial
  · obtain rfl := Option.some.inj hq
    trivial
  · cases hq

/-- A running server listens, and has a task that stays. -/
def Serves (s : Server) : Prop :=
  s.listen ≠ none ∧ ∃ p ∈ s.tasks, p.Stays s.listen

theorem Serves.task {i : Nat} {a : TaskStep} (h : Serves s) (hrun : s.running = true)
    (hfail : a = .selected false → s.tasks[i]? ≠ some (.selecting s.listen))
    (hs : serverStep s (.task i a) = some s') : Serves s' := by
  simp only [serverStep, Option.bind_eq_some_iff, Option.map_eq_some_iff] at hs
  obtain ⟨p, hp, q, hq, rfl⟩ := hs
  obtain ⟨hlisten, r, hmem, hr⟩ := h
  refine ⟨hlisten, ?_⟩
  obtain ⟨j, hj, rfl⟩ := List.mem_iff_getElem.1 hmem
  by_cases hij : i = j
  · -- the task itself
    subst hij
    have hpr : p = s.tasks[i] := Option.some.inj (hp.symm.trans (List.getElem?_eq_getElem hj))
    subst hpr
    refine ⟨q, List.mem_set hj q, serverTask_stays hrun hr ?_ hq⟩
    intro ha hsel
    exact hfail ha (hp.trans (congrArg some hsel))
  · refine ⟨s.tasks[j], ?_, hr⟩
    rw [List.mem_iff_getElem?]
    exact ⟨j, by rw [List.getElem?_set_ne hij, List.getElem?_eq_getElem hj]⟩

/-- A task that ends had left its loop. -/
theorem Serves.ended {i : Nat} (h : Serves s) (hs : serverStep s (.ended i) = some s') :
    Serves s' := by
  obtain ⟨hi, hs⟩ := Option.ite_none_right_eq_some.1 hs
  obtain rfl := Option.some.inj hs
  obtain ⟨hlisten, r, hmem, hr⟩ := h
  refine ⟨hlisten, r, ?_, hr⟩
  obtain ⟨j, hj, rfl⟩ := List.mem_iff_getElem.1 hmem
  refine List.mem_eraseIdx_iff_getElem.2 ⟨j, hj, ?_, rfl⟩
  rintro rfl
  rw [List.getElem?_eq_getElem hj] at hi
  rw [Option.some.inj hi] at hr
  exact hr

/-! ## 3. The calls -/

theorem modbusEnabledLoad_some {x : Setting Bool} {b : Bool} (h : x.nv = some b) :
    modbusEnabledLoad true x = b := by
  rw [modbusEnabledLoad, Setting.load, if_pos rfl, h]
  rfl

theorem reported_eq : d.reported = d.enabled.cached.getD (modbusEnabledLoad true d.enabled) := rfl

theorem initOk_mutex : (initOk s).mutex = true := by
  unfold initOk modbusTcpInit
  split <;> rfl

theorem initOk_listen : (initOk s).listen ≠ none := by
  unfold initOk modbusTcpInit
  split
  · rename_i hsome
    exact Option.isSome_iff_ne_none.1 hsome
  · intro hnone
    cases hnone

theorem initOk_running : (initOk s).running = s.running := by
  unfold initOk modbusTcpInit
  split <;> rfl

theorem initOk_handle : (initOk s).handle = s.handle := by
  unfold initOk modbusTcpInit
  split <;> rfl

/-- A server that serves has nothing to open. -/
theorem Serves.initOk (h : Serves s) : Serves (initOk s) := by
  have hsome : ({ s with mutex := true } : Server).listen.isSome = true :=
    Option.isSome_iff_ne_none.2 h.1
  rw [Modbus.initOk, modbusTcpInit, if_pos hsome]
  exact h

/-- **A start** on a listening socket, where the handle does not lie, leaves a serving server. -/
theorem start_serves (hmutex : s.listen ≠ none → s.mutex = true) (hlisten : s.listen ≠ none)
    (hhandle : s.handle = true → s.running = true) (hserves : s.running = true → Serves s) :
    (modbusTcpStart true s).running = true ∧ Serves (modbusTcpStart true s) := by
  unfold modbusTcpStart
  rw [if_neg (by simp [hmutex hlisten]), if_neg hlisten]
  by_cases hh : s.handle = true
  · rw [if_pos hh]
    exact ⟨hhandle hh, hserves (hhandle hh)⟩
  · rw [if_neg hh, if_pos rfl]
    exact ⟨rfl, hlisten, .top, List.mem_append_right _ (List.mem_singleton_self _), trivial⟩

theorem start_listen : (modbusTcpStart true s).listen = s.listen := by
  unfold modbusTcpStart
  split
  · rfl
  split
  · rfl
  split
  · rfl
  · rw [if_pos rfl]

theorem start_mutex : (modbusTcpStart true s).mutex = s.mutex := by
  unfold modbusTcpStart
  split
  · rfl
  split
  · rfl
  split
  · rfl
  · rw [if_pos rfl]

/-- A start that finds the handle set, or no listening socket, does nothing. -/
theorem start_idle (h : s.handle = true ∨ s.listen = none) : modbusTcpStart true s = s := by
  unfold modbusTcpStart
  split
  · rfl
  split
  · rfl
  · rename_i hlisten
    rcases h with hhandle | hnone
    · rw [if_pos hhandle]
    · exact absurd hnone hlisten

/-- **A stop** of a server that has its mutex if it is running. -/
theorem stop_running (h : s.running = true → s.mutex = true) :
    (modbusTcpStop s).running = false := by
  unfold modbusTcpStop
  split
  · rename_i hmutex
    cases hrun : s.running with
    | false => rfl
    | true => exact absurd (h hrun) (by simp [hmutex])
  · dsimp only
    split <;> rfl

theorem stop_handle : (modbusTcpStop s).handle = s.handle := by
  unfold modbusTcpStop
  split
  · rfl
  · dsimp only
    split <;> rfl

theorem stop_listen (h : (modbusTcpStop s).listen ≠ none) : modbusTcpStop s = s := by
  unfold modbusTcpStop at h ⊢
  split
  · rfl
  · rename_i hmutex
    rw [if_neg hmutex] at h
    dsimp only at h
    split at h <;> exact absurd rfl h

/-- A step of the task leaves the rest of the server as it is. -/
theorem task_frame {i : Nat} {a : TaskStep} (hs : serverStep s (.task i a) = some s') :
    s'.mutex = s.mutex ∧ s'.listen = s.listen ∧ s'.running = s.running ∧
      s'.handle = s.handle := by
  simp only [serverStep, Option.bind_eq_some_iff, Option.map_eq_some_iff] at hs
  obtain ⟨p, -, q, -, rfl⟩ := hs
  exact ⟨rfl, rfl, rfl, rfl⟩

/-! ## 4. The server and the setting -/

/-- The server runs where the setting says so, or one of the handlers has yet to see to it. -/
structure Matched (d : ModbusDevice) : Prop where
  mutex : d.server.listen ≠ none → d.server.mutex = true
  serves : d.server.running = true → Serves d.server
  handle : d.server.handle = true → d.server.running = true ∨ d.post = .stopping
  reported : d.server.running = true → d.reported = true ∨ d.post = .toStop
  enabling : d.post = .toInit ∨ d.post = .toStart → d.reported = true
  disabling : d.post = .toStop ∨ d.post = .stopping → d.reported = false
  stopping : d.post = .stopping → d.server.running = false
  postListen : d.post = .toStart → d.server.listen ≠ none
  gotIpListen : d.gotIp = .toStart → d.post = .idle → d.reported = true → d.server.listen ≠ none
  runs : d.webui = true → d.post = .idle → d.gotIp = .idle → d.reported = true →
    d.server.running = true

theorem Matched.boot (enabled : Setting Bool) : Matched (.boot enabled) where
  mutex := fun h => absurd rfl h
  serves := by
    intro h
    cases h
  handle := by
    intro h
    cases h
  reported := by
    intro h
    cases h
  enabling := by
    rintro (h | h) <;> cases h
  disabling := by
    rintro (h | h) <;> cases h
  stopping := by
    intro h
    cases h
  postListen := by
    intro h
    cases h
  gotIpListen := by
    intro h
    cases h
  runs := by
    intro h
    cases h

/-- The setting may change as long as GET says the same. -/
theorem Matched.setEnabled (h : Matched d) {x : Setting Bool}
    (hsame : x.cached.getD (modbusEnabledLoad true x) = d.reported) :
    Matched { d with enabled := x } := by
  have hreported : ModbusDevice.reported { d with enabled := x } = d.reported := hsame
  refine ⟨h.mutex, h.serves, h.handle, ?_, ?_, ?_, h.stopping, h.postListen, ?_, ?_⟩
  · rw [hreported]
    exact h.reported
  · rw [hreported]
    exact h.enabling
  · rw [hreported]
    exact h.disabling
  · rw [hreported]
    exact h.gotIpListen
  · rw [hreported]
    exact h.runs

theorem Matched.get (h : Matched d) {readable : Bool}
    (hg : readable = true ∨ d.enabled.cached ≠ none ∨ d.reported = false) :
    Matched (getModbus readable d).2 := by
  refine h.setEnabled ?_
  show d.enabled.cached.getD (modbusEnabledLoad readable d.enabled) = d.reported
  rw [reported_eq] at hg ⊢
  cases hcached : d.enabled.cached with
  | some b => rfl
  | none =>
    rw [hcached] at hg
    cases readable with
    | true => rfl
    | false =>
      rcases hg with hread | hsome | hfalse
      · cases hread
      · exact absurd rfl hsome
      · exact hfalse.symm

/-- **A POST** that is saved leaves the handler with what there is to do. -/
theorem Matched.post (h : Matched d) {w : NvWrite} {enabled : Bool} (hidle : d.post = .idle)
    (hg : w ≠ .uncommitted ∨ d.enabled.cached ≠ none ∨ enabled = d.reported) :
    Matched (postModbus w enabled d) := by
  have hkeep : ∀ x : Setting Bool, x.cached.getD (modbusEnabledLoad true x) = d.reported →
      Matched { d with enabled := x, post := .idle } := by
    intro x hx
    rw [← hidle]
    exact h.setEnabled hx
  cases w with
  | refused => exact hkeep d.enabled rfl
  | uncommitted =>
    refine hkeep { d.enabled with nv := some enabled } ?_
    rw [reported_eq] at hg ⊢
    cases hcached : d.enabled.cached with
    | some b => rfl
    | none =>
      rw [hcached] at hg
      rcases hg with hw | hsome | hsame
      · exact absurd rfl hw
      · exact absurd rfl hsome
      · exact (modbusEnabledLoad_some rfl).trans hsame
  | ok =>
    have hhandle : d.server.handle = true → d.server.running = true := by
      intro hh
      refine (h.handle hh).resolve_right ?_
      rw [hidle]
      simp
    cases enabled with
    | true =>
      refine ⟨h.mutex, h.serves, fun hh => .inl (hhandle hh), fun _ => .inl rfl, fun _ => rfl, ?_,
        ?_, ?_, ?_, ?_⟩
      · rintro (hp | hp) <;> cases hp
      · intro hp
        cases hp
      · intro hp
        cases hp
      · intro _ hp
        cases hp
      · intro _ hp
        cases hp
    | false =>
      refine ⟨h.mutex, h.serves, fun hh => .inl (hhandle hh), fun _ => .inr rfl, ?_, fun _ => rfl,
        ?_, ?_, ?_, ?_⟩
      · rintro (hp | hp) <;> cases hp
      · intro hp
        cases hp
      · intro hp
        cases hp
      · intro _ hp
        cases hp
      · intro _ hp
        cases hp

theorem Matched.gotIpInit (h : Matched d) :
    Matched { d with server := initOk d.server, gotIp := .toStart } where
  mutex := fun _ => initOk_mutex
  serves := by
    intro hrun
    exact (h.serves (initOk_running.symm.trans hrun)).initOk
  handle := by
    intro hh
    refine (h.handle (initOk_handle.symm.trans hh)).imp_left fun hrun => ?_
    exact initOk_running.trans hrun
  reported := fun hrun => h.reported (initOk_running.symm.trans hrun)
  enabling := h.enabling
  disabling := h.disabling
  stopping := fun hp => initOk_running.trans (h.stopping hp)
  postListen := fun _ => initOk_listen
  gotIpListen := fun _ _ _ => initOk_listen
  runs := by
    intro _ _ hp
    cases hp

/-- **The services start**, where the setting says that the server may. -/
theorem Matched.gotIpStart (h : Matched d) (hip : d.gotIp = .toStart)
    (hg : Consulted d .gotIpStart) :
    Matched { d with server := modbusTcpStart true d.server, gotIp := .idle
                     servicesInitialized := true } := by
  by_cases hnone : d.server.handle = true ∨ d.server.listen = none
  · -- there is a task, or it would have nothing to listen on
    rw [start_idle hnone]
    refine ⟨h.mutex, h.serves, h.handle, h.reported, h.enabling, h.disabling, h.stopping,
      h.postListen, ?_, ?_⟩
    · intro hp
      cases hp
    · intro _ hidle _ hrep
      have hlisten := h.gotIpListen hip hidle hrep
      have hhandle := hnone.resolve_right hlisten
      refine (h.handle hhandle).resolve_right ?_
      rw [show d.post = .idle from hidle]
      simp
  · obtain ⟨hhandle, hlisten⟩ := not_or.1 hnone
    obtain ⟨hrun, hserves⟩ := start_serves h.mutex hlisten (fun hh => absurd hh hhandle) h.serves
    have hsays : d.reported = true ∨ d.post = .toStop := by
      rcases hg with hrep | hstop | hh | hl
      · exact .inl hrep
      · exact .inr hstop
      · exact absurd hh hhandle
      · exact absurd hl hlisten
    refine ⟨?_, fun _ => hserves, fun _ => .inl hrun, fun _ => hsays, h.enabling, h.disabling, ?_,
      ?_, ?_, fun _ _ _ _ => hrun⟩
    · intro _
      rw [start_mutex]
      exact h.mutex hlisten
    · -- a POST in its wait has said that the server is not enabled
      intro hp
      have hrep := h.disabling (.inr hp)
      rcases hsays with hyes | hstop
      · rw [hrep] at hyes
        cases hyes
      · rw [show d.post = .stopping from hp] at hstop
        cases hstop
    · intro _
      rw [start_listen]
      exact hlisten
    · intro hp
      cases hp

theorem Matched.postInit (h : Matched d) (hpost : d.post = .toInit) :
    Matched { d with server := initOk d.server, post := .toStart } where
  mutex := fun _ => initOk_mutex
  serves := by
    intro hrun
    exact (h.serves (initOk_running.symm.trans hrun)).initOk
  handle := by
    intro hh
    refine .inl (initOk_running.trans ((h.handle (initOk_handle.symm.trans hh)).resolve_right ?_))
    rw [hpost]
    simp
  reported := fun _ => .inl (h.enabling (.inl hpost))
  enabling := fun _ => h.enabling (.inl hpost)
  disabling := by
    rintro (hp | hp) <;> cases hp
  stopping := by
    intro hp
    cases hp
  postListen := fun _ => initOk_listen
  gotIpListen := fun _ _ _ => initOk_listen
  runs := by
    intro _ hp
    cases hp

theorem Matched.postStart (h : Matched d) (hpost : d.post = .toStart) :
    Matched { d with server := modbusTcpStart true d.server, post := .idle } := by
  have hlisten := h.postListen hpost
  have hhandle : d.server.handle = true → d.server.running = true := by
    intro hh
    refine (h.handle hh).resolve_right ?_
    rw [hpost]
    simp
  obtain ⟨hrun, hserves⟩ := start_serves h.mutex hlisten hhandle h.serves
  refine ⟨?_, fun _ => hserves, fun _ => .inl hrun, fun _ => .inl (h.enabling (.inr hpost)), ?_, ?_,
    ?_, ?_, ?_, fun _ _ _ _ => hrun⟩
  · intro _
    rw [start_mutex]
    exact h.mutex hlisten
  · rintro (hp | hp) <;> cases hp
  · rintro (hp | hp) <;> cases hp
  · intro hp
    cases hp
  · intro hp
    cases hp
  · intro _ _ _
    rw [start_listen]
    exact hlisten

/-- **The server stops**, and the handler waits if there is a task. -/
theorem Matched.postStop (h : Matched d) (hpost : d.post = .toStop) :
    Matched { d with server := modbusTcpStop d.server
                     post := if d.server.mutex = true ∧ d.server.handle = true then .stopping
                       else .idle } := by
  have hmutex : d.server.running = true → d.server.mutex = true := by
    intro hrun
    exact h.mutex (h.serves hrun).1
  have hrun := stop_running hmutex
  have hrep := h.disabling (.inl hpost)
  refine ⟨?_, ?_, ?_, ?_, ?_, fun _ => hrep, fun _ => hrun, ?_, ?_, ?_⟩
  · intro hlisten
    have hsame := stop_listen (s := d.server) hlisten
    rw [hsame] at hlisten ⊢
    exact h.mutex hlisten
  · intro hyes
    rw [hrun] at hyes
    cases hyes
  · intro hh
    rw [stop_handle] at hh
    have hwas : d.server.running = true := by
      refine (h.handle hh).resolve_right ?_
      rw [hpost]
      simp
    exact .inr (if_pos ⟨hmutex hwas, hh⟩)
  · intro hyes
    rw [hrun] at hyes
    cases hyes
  · intro hp
    dsimp only at hp
    split at hp
    · rcases hp with hp | hp <;> cases hp
    · rcases hp with hp | hp <;> cases hp
  · intro hp
    dsimp only at hp
    split at hp <;> cases hp
  · intro _ _ hyes
    have hyes : d.reported = true := hyes
    rw [hrep] at hyes
    cases hyes
  · intro _ _ _ hyes
    have hyes : d.reported = true := hyes
    rw [hrep] at hyes
    cases hyes

theorem Matched.postStopped (h : Matched d) (hpost : d.post = .stopping) {closed : Option Nat}
    (hs : serverStep d.server (.stopped closed) = some s') :
    Matched { d with server := s', post := .idle } := by
  obtain ⟨-, hs⟩ := Option.ite_none_right_eq_some.1 hs
  obtain rfl := Option.some.inj hs
  have hrun := h.stopping hpost
  have hrep := h.disabling (.inr hpost)
  have hnot : ∀ {p : Prop}, d.server.running = true → p := by
    intro p hyes
    rw [hrun] at hyes
    cases hyes
  have hnever : ∀ {p : Prop}, d.reported = true → p := by
    intro p hyes
    rw [hrep] at hyes
    cases hyes
  refine ⟨h.mutex, hnot, ?_, hnot, ?_, ?_, ?_, ?_, fun _ _ => hnever, fun _ _ _ => hnever⟩
  · intro hh
    cases hh
  · rintro (hp | hp) <;> cases hp
  · rintro (hp | hp) <;> cases hp
  · intro hp
    cases hp
  · intro hp
    cases hp

theorem Matched.task (h : Matched d) {i : Nat} {a : TaskStep}
    (hfail : a = .selected false → d.server.tasks[i]? ≠ some (.selecting d.server.listen))
    (hs : serverStep d.server (.task i a) = some s') : Matched { d with server := s' } := by
  obtain ⟨hmutex, hlisten, hrun, hhandle⟩ := task_frame hs
  refine ⟨?_, ?_, ?_, ?_, h.enabling, h.disabling, ?_, ?_, ?_, ?_⟩
  · rw [hlisten, hmutex]
    exact h.mutex
  · intro hyes
    rw [hrun] at hyes
    exact (h.serves hyes).task hyes hfail hs
  · rw [hhandle, hrun]
    exact h.handle
  · rw [hrun]
    exact h.reported
  · rw [hrun]
    exact h.stopping
  · rw [hlisten]
    exact h.postListen
  · rw [hlisten]
    exact h.gotIpListen
  · rw [hrun]
    exact h.runs

theorem Matched.ended (h : Matched d) {i : Nat}
    (hs : serverStep d.server (.ended i) = some s') : Matched { d with server := s' } := by
  have hserves : d.server.running = true → Serves s' := fun hrun => (h.serves hrun).ended hs
  obtain ⟨-, hs⟩ := Option.ite_none_right_eq_some.1 hs
  obtain rfl := Option.some.inj hs
  refine ⟨h.mutex, hserves, ?_, h.reported, h.enabling, h.disabling, h.stopping, h.postListen,
    h.gotIpListen, h.runs⟩
  intro hh
  cases hh

theorem Matched.step (h : Matched d) (hg : Consulted d e) (hs : modbusStep d e = some d') :
    Matched d' := by
  cases e with
  | reboot =>
    obtain rfl := Option.some.inj hs
    exact .boot _
  | linkUp =>
    obtain ⟨-, hs⟩ := Option.ite_none_right_eq_some.1 hs
    obtain rfl := Option.some.inj hs
    exact ⟨h.mutex, h.serves, h.handle, h.reported, h.enabling, h.disabling, h.stopping,
      h.postListen, h.gotIpListen, h.runs⟩
  | linkDown =>
    obtain ⟨-, hs⟩ := Option.ite_none_right_eq_some.1 hs
    obtain rfl := Option.some.inj hs
    exact ⟨h.mutex, h.serves, h.handle, h.reported, h.enabling, h.disabling, h.stopping,
      h.postListen, h.gotIpListen, h.runs⟩
  | gotIp webui =>
    obtain ⟨-, hs⟩ := Option.ite_none_right_eq_some.1 hs
    obtain rfl := Option.some.inj hs
    split
    · exact h
    · refine ⟨h.mutex, h.serves, h.handle, h.reported, h.enabling, h.disabling, h.stopping,
        h.postListen, ?_, ?_⟩
      · intro hp
        cases hp
      · intro _ _ hp
        cases hp
  | gotIpInit =>
    obtain ⟨-, hs⟩ := Option.ite_none_right_eq_some.1 hs
    obtain rfl := Option.some.inj hs
    exact h.gotIpInit
  | gotIpStart =>
    obtain ⟨hip, hs⟩ := Option.ite_none_right_eq_some.1 hs
    obtain rfl := Option.some.inj hs
    exact h.gotIpStart hip hg
  | get readable =>
    obtain ⟨-, hs⟩ := Option.ite_none_right_eq_some.1 hs
    obtain rfl := Option.some.inj hs
    exact h.get hg
  | post w enabled =>
    obtain ⟨hserved, hs⟩ := Option.ite_none_right_eq_some.1 hs
    obtain rfl := Option.some.inj hs
    exact h.post hserved.2 hg
  | postInit =>
    obtain ⟨hpost, hs⟩ := Option.ite_none_right_eq_some.1 hs
    obtain rfl := Option.some.inj hs
    exact h.postInit hpost
  | postStart =>
    obtain ⟨hpost, hs⟩ := Option.ite_none_right_eq_some.1 hs
    obtain rfl := Option.some.inj hs
    exact h.postStart hpost
  | postStop =>
    obtain ⟨hpost, hs⟩ := Option.ite_none_right_eq_some.1 hs
    obtain rfl := Option.some.inj hs
    exact h.postStop hpost
  | postStopped closed =>
    obtain ⟨hpost, hs⟩ := Option.ite_none_right_eq_some.1 hs
    obtain ⟨s', hserver, rfl⟩ := Option.map_eq_some_iff.1 hs
    exact h.postStopped hpost hserver
  | task i a =>
    obtain ⟨s', hserver, rfl⟩ := Option.map_eq_some_iff.1 hs
    exact h.task hg hserver
  | ended i =>
    obtain ⟨s', hserver, rfl⟩ := Option.map_eq_some_iff.1 hs
    exact h.ended hserver

theorem Matched.asReported (h : Matched d) : d.AsReported := by
  intro hq
  constructor
  · intro hrep
    obtain ⟨-, p, hmem, hp⟩ := h.serves (h.runs hq.webui hq.post hq.gotIp hrep)
    exact ⟨p, hmem, hp.inLoop⟩
  · rintro ⟨p, hmem, -⟩
    have hrun : d.server.running = true := by
      by_contra hno
      rw [hq.stopped (Bool.eq_false_iff.2 hno)] at hmem
      cases hmem
    refine (h.reported hrun).resolve_right ?_
    rw [hq.post]
    simp

/-! ## 5. Runs -/

/-- **The server is as reported.**  In every run in which the link handler creates a task only where
GET says enabled, GET says in every quiescent state whether a server task is running. -/
theorem server_as_reported {enabled : Setting Bool}
    (h : Run modbusStep Consulted (.boot enabled) d) : d.AsReported :=
  (h.invariant (fun _ _ _ hm hg hs => hm.step hg hs) (Matched.boot enabled)).asReported

/-- The link comes up, and the services start. -/
def linkUpAndStart : List ModbusEvent := [.linkUp, .gotIp true, .gotIpInit, .gotIpStart]

/-- A POST of false, as far as the end of the task and of the wait. -/
def disable : List ModbusEvent :=
  [.post .ok false, .postStop, .task 0 .check, .ended 0, .postStopped (some 0)]

theorem server_as_reported_enabled :
    ∃ d, exec modbusStep (.boot ⟨some true, none⟩)
        (linkUpAndStart ++ disable ++ [.post .ok true, .postInit, .postStart, .linkDown] ++
          linkUpAndStart) = some d ∧
      d.server.tasks = [.top] ∧ d.AsReported := by
  have hmeets : execMeets modbusStep Consulted (.boot ⟨some true, none⟩)
      (linkUpAndStart ++ disable ++ [.post .ok true, .postInit, .postStart, .linkDown] ++
        linkUpAndStart) := by
    decide
  exact ⟨_, rfl, rfl, server_as_reported (exec_run hmeets rfl)⟩

/-- **A start against the setting** leaves a quiescent state in which GET is wrong, if the link is
up, requests are served and no POST is at work. -/
theorem start_unreported (h : Matched d) (hlink : d.linkUp = true) (hwebui : d.webui = true)
    (hidle : d.post = .idle) (hg : ¬ Consulted d .gotIpStart)
    (hs : modbusStep d .gotIpStart = some d') : ¬ d'.AsReported := by
  obtain ⟨-, hs⟩ := Option.ite_none_right_eq_some.1 hs
  obtain rfl := Option.some.inj hs
  obtain ⟨hrep, hg⟩ := not_or.1 hg
  obtain ⟨-, hg⟩ := not_or.1 hg
  obtain ⟨hhandle, hlisten⟩ := not_or.1 hg
  obtain ⟨hrun, -, p, hmem, hp⟩ :=
    start_serves h.mutex hlisten (fun hh => absurd hh hhandle) h.serves
  intro hall
  have hquiet : Quiescent { d with server := modbusTcpStart true d.server, gotIp := .idle
                                   servicesInitialized := true } := by
    refine ⟨hlink, hwebui, hidle, rfl, ?_⟩
    intro hno
    rw [hrun] at hno
    cases hno
  exact hrep ((hall hquiet).2 ⟨p, hmem, hp.inLoop⟩)

/-- **Disabled, and started again**: a POST stops the server, the link goes down and comes up, and
there is a task again, of which GET knows nothing. -/
theorem started_again : ¬ ∀ enabled d, Reach modbusStep (.boot enabled) d → d.AsReported := by
  intro hall
  obtain ⟨d, hd, hlink, hwebui, hpost, hip, hrun, htasks, hrep⟩ :
      ∃ d, exec modbusStep (.boot ⟨some true, none⟩)
        (linkUpAndStart ++ disable ++ [.linkDown] ++ linkUpAndStart) = some d ∧
      d.linkUp = true ∧ d.webui = true ∧ d.post = .idle ∧ d.gotIp = .idle ∧
      d.server.running = true ∧ d.server.tasks = [.top] ∧ d.reported = false :=
    ⟨_, rfl, rfl, rfl, rfl, rfl, rfl, rfl, rfl⟩
  have hquiet : Quiescent d := by
    refine ⟨hlink, hwebui, hpost, hip, ?_⟩
    intro hno
    rw [hrun] at hno
    cases hno
  have htask : ∃ p ∈ d.server.tasks, p.inLoop = true := by
    rw [htasks]
    exact ⟨.top, List.mem_singleton_self _, rfl⟩
  have hyes := (hall _ d (exec_reach hd) hquiet).2 htask
  rw [hrep] at hyes
  cases hyes

end GroundTruth.Modbus
