/-
# The device: `main.c` over one ACD client

What `main.c` does with `s_static_ip_acd` in static-IP mode with ACD selected: boot and link
events start a probe sequence, the client's callback decides what becomes of the address, and a
one-shot timer tries again after a conflict.  The handlers share half a dozen flags and run on
three threads; here each of them is a function on one state, `Device`, and `deviceStep` lets
them happen in any order.

A handler is one step, except that `tcpip_perform_acd` blocks on its semaphore for up to two
seconds.  It is cut there: `tcpipPerformAcd` runs up to the wait, `waiting` says that a caller
is blocked and what it does when it returns, and `tcpipPerformAcdResume` is the rest.  While a
caller waits, ticks, ARP packets, link changes of the netif and posted stops still happen.

What can fail outside this code (semaphores, memory, timers, posts to the tcpip thread) fails as
the event says.  `acd_add` and `acd_start` return `ERR_OK` on every path, so the fallbacks for
their failure (`tcpip_acd_start_cb`, `acd_start_probe_cb`) are never posted and are not modelled;
nor are the LED and the DNS servers, which nothing here reads.  The address changes seen by lwIP
are between 0.0.0.0 and the static address, for which `acd_netif_ip_addr_changed` does nothing.

`log` is a ghost: what the two properties of `Acd/Safety.lean` and `Acd/Defence.lean` speak of,
newest first.  No handler reads it.
-/
import GroundTruth.Lib.Run
import GroundTruth.Acd.Client

namespace GroundTruth.Acd

/-! ## 1. The state -/

/-- `esp_netif_ip_info_t`. -/
structure IpInfo where
  ip : Ip4
  netmask : Ip4
  gw : Ip4
  deriving DecidableEq, Repr

def IpInfo.zero : IpInfo := ⟨0, 0, 0⟩

/-- An entry of `netif->acd_list`: the static client, or one of lwIP's own. -/
inductive AcdRef
  | staticIp
  | other (n : Nat)
  deriving DecidableEq, Repr

/-- What the log records. -/
inductive Obs
  /-- `acd_start` -/
  | started (ip : Ip4)
  | probed (ip : Ip4)
  | announced (ip : Ip4)
  /-- the conflict callback is entered, and left -/
  | entered (c : AcdCallback)
  | returned (c : AcdCallback)
  /-- `esp_netif_set_ip_info` -/
  | wrote (cfg : IpInfo)
  deriving DecidableEq, Repr

/-- `s_acd_retry_timer`, a one-shot timer. -/
inductive RetryTimer
  | absent
  | stopped
  | armed
  deriving DecidableEq, Repr

/-- What the caller of `tcpip_try_pending_acd` still has to do. -/
inductive Caller
  /-- the connect handler schedules one more try -/
  | connected
  | other
  deriving DecidableEq, Repr

structure Device where
  acd : Client
  acdList : List AcdRef
  hwaddr : List UInt8
  linkUp : Bool
  /-- the address of the netif -/
  ipInfo : IpInfo
  selectAcd : Bool
  /-- the bits `kTcpipStatusAcdStatus` and `kTcpipStatusAcdFault`, which change together -/
  acdFault : Bool
  acdActivity : Nat
  lastConflict : Option ArpHdr
  registered : Bool
  /-- `s_acd_sem`, once it exists: has it been given? -/
  acdSem : Option Bool
  registrationSem : Option Bool
  lastState : AcdCallback
  callbackReceived : Bool
  probePending : Bool
  pendingCfg : IpInfo
  retryTimer : RetryTimer
  retryCount : Nat
  /-- `s_acd_retry_netif` and `s_acd_retry_lwip_netif` are set -/
  retryNetif : Bool
  /-- `configure_netif_from_tcpip` has run -/
  booted : Bool
  /-- `tcpip_retry_acd_deferred` calls scheduled by `sys_timeout` -/
  deferred : Nat
  /-- `tcpip_acd_stop_cb` calls posted to the tcpip thread -/
  postedStop : Nat
  /-- `retry_callback` calls posted to the tcpip thread -/
  postedRetry : Nat
  /-- the caller blocked in `tcpip_perform_acd` -/
  waiting : Option Caller
  log : List Obs
  deriving DecidableEq

/-- Power-on, in static-IP mode with ACD selected; `others` are the clients lwIP has put on the
list. -/
def Device.init (others : List Nat) : Device where
  acd := Client.zero
  acdList := others.map .other
  hwaddr := []
  linkUp := false
  ipInfo := IpInfo.zero
  selectAcd := true
  acdFault := false
  acdActivity := 0
  lastConflict := none
  registered := false
  acdSem := none
  registrationSem := none
  lastState := .ipOk
  callbackReceived := false
  probePending := false
  pendingCfg := IpInfo.zero
  retryTimer := .absent
  retryCount := 0
  retryNetif := false
  booted := false
  deferred := 0
  postedStop := 0
  postedRetry := 0
  waiting := none
  log := []

/-- The build: the client's timing and `CONFIG_OPENER_ACD_RETRY_MAX_ATTEMPTS` (0 is no limit). -/
structure Build where
  timing : Timing
  maxAttempts : Nat

/-- The shipped `sdkconfig`. -/
def Build.shipped : Build := ⟨.shipped, 5⟩

/-- How the calls out of this code end. -/
structure Outcome where
  /-- `xSemaphoreCreateBinary` for `s_acd_sem` -/
  sem : Bool
  /-- `malloc` for the context -/
  ctx : Bool
  /-- `xSemaphoreCreateBinary` for `s_acd_registration_sem` -/
  regSem : Bool
  /-- `tcpip_callback_with_block` -/
  post : Bool
  /-- what `LWIP_RAND` returns -/
  rand : Nat

def Outcome.good : Outcome := ⟨true, true, true, true, 1⟩

namespace Device

/-! ## 2. The address and the retry -/

/-- `esp_netif_set_ip_info`. -/
def setIpInfo (cfg : IpInfo) (s : Device) : Device :=
  { s with ipInfo := cfg, log := .wrote cfg :: s.log }

/-- `tcpip_callback_with_block` for `tcpip_acd_stop_cb`. -/
def postStop (ok : Bool) (s : Device) : Device :=
  { s with postedStop := s.postedStop + if ok then 1 else 0 }

/-- `tcpip_acd_start_retry`; `timerOk` is whether `xTimerCreate` succeeds. -/
def tcpipAcdStartRetry (timerOk : Bool) (s : Device) : Device :=
  let s := { s with retryCount := s.retryCount + 1, retryNetif := true }
  let s := s.setIpInfo IpInfo.zero
  let s := if s.registered then { s with acd := acdStop s.acd, registered := false } else s
  if s.retryTimer = .absent ∧ timerOk = false then s else { s with retryTimer := .armed }

/-- `xTimerStop`, when the timer exists. -/
def stopRetryTimer (s : Device) : Device :=
  { s with retryTimer := if s.retryTimer = .absent then .absent else .stopped }

/-- `xSemaphoreGive(s_acd_sem)`, when the semaphore exists. -/
def giveAcdSem (s : Device) : Device := { s with acdSem := s.acdSem.map fun _ => true }

/-! ## 3. The callback -/

/-- `tcpip_acd_conflict_callback` on `ACD_IP_OK`. -/
def callbackIpOk (s : Device) : Device :=
  let s := { s with acdFault := false, acdActivity := 1, retryCount := 0 }.stopRetryTimer
  if s.probePending ∧ s.pendingCfg.ip ≠ 0 then
    { s.setIpInfo s.pendingCfg with probePending := false }
  else s

/-- `tcpip_acd_conflict_callback` on `ACD_DECLINE` and `ACD_RESTART_CLIENT`. -/
def callbackConflict (b : Build) (timerOk : Bool) (s : Device) : Device :=
  let s := { s with acdFault := true, acdActivity := 3 }
  if b.maxAttempts = 0 ∨ s.retryCount < b.maxAttempts then s.tcpipAcdStartRetry timerOk else s

/-- `tcpip_acd_conflict_callback`. -/
def tcpipAcdConflictCallback (b : Build) (timerOk : Bool) (c : AcdCallback) (s : Device) :
    Device :=
  let s := { s with lastState := c, callbackReceived := true, log := .entered c :: s.log }
  let s := match c with
    | .ipOk => s.callbackIpOk
    | .decline | .restartClient => s.callbackConflict b timerOk
  let s := s.giveAcdSem
  { s with log := .returned c :: s.log }

/-- `tcpip_acd_stop_cb`. -/
def tcpipAcdStopCb (s : Device) : Device := { s with acd := acdStop s.acd }

/-! ## 4. The client on the device's netif -/

/-- The netif's hardware address, as `acd.c` reads it. -/
def netifHwaddr (s : Device) : EthAddr := Vector.ofFn fun i => s.hwaddr.getD i 0

/-- The surroundings of `s_static_ip_acd`. -/
def host (b : Build) (timerOk : Bool) : Host Device where
  acd := Device.acd
  setAcd a s := { s with acd := a }
  hwaddr := netifHwaddr
  probe ip s := { s with log := .probed ip :: s.log }
  announce ip s := { s with log := .announced ip :: s.log }
  setLastConflict hdr s := { s with lastConflict := some hdr }
  callback := tcpipAcdConflictCallback b timerOk

/-- `acd_tmr` on the netif: the loop reaches the static client if it is on the list. -/
def tick (b : Build) (timerOk : Bool) (rand : Nat) (s : Device) : Device :=
  if .staticIp ∈ s.acdList then acdTmr b.timing (host b timerOk) rand s else s

/-- `acd_arp_reply` on the netif. -/
def arp (b : Build) (timerOk : Bool) (hdr : ArpHdr) (s : Device) : Device :=
  if .staticIp ∈ s.acdList then acdArpReply b.timing (host b timerOk) hdr s else s

/-- `acd_network_changed_link_down`, called by `netif_set_link_down`. -/
def acdNetworkChangedLinkDown (s : Device) : Device :=
  if .staticIp ∈ s.acdList then { s with acd := acdStop s.acd } else s

/-- `acd_add` for the static client. -/
def acdAdd (s : Device) : Device :=
  if .staticIp ∈ s.acdList then s else { s with acdList := .staticIp :: s.acdList }

/-! ## 5. The probe sequence -/

/-- `netif_has_valid_hwaddr`. -/
def netifHasValidHwaddr (s : Device) : Bool := s.hwaddr.length == 6 && s.hwaddr.any (· != 0)

/-- A fault is reported and the activity byte says so. -/
def acdFailed (s : Device) : Device := { s with acdFault := true, acdActivity := 3 }

/-- Direct registration: the list is emptied and the client wiped first. -/
def register (s : Device) : Device :=
  if s.registered then s
  else { ({ s with acdList := [], acd := Client.zero } : Device).acdAdd with registered := true }

/-- `acd_start` on the static client. -/
def start (b : Build) (rand : Nat) (ip : Ip4) (s : Device) : Device :=
  { s with acd := acdStart b.timing rand ip s.acd, log := .started ip :: s.log }

/-- `tcpip_perform_acd` up to its wait.  `some r` is a return before the wait. -/
def tcpipPerformAcd (b : Build) (o : Outcome) (ip : Ip4) (s : Device) :
    Device × Option Bool :=
  if s.selectAcd = false then ({ s with acdFault := false, acdActivity := 0 }, some true)
  else if s.acdSem = none ∧ o.sem = false then (s.acdFailed, some false)
  else
    let s := { s with acdSem := some false }
    if s.probePending = false then (s, some true)
    else
      let s := { s with callbackReceived := false, lastState := .ipOk, acdActivity := 2 }
      if o.ctx = false then (s.acdFailed, some false)
      else if s.registrationSem = none ∧ o.regSem = false then (s.acdFailed, some false)
      else
        let s := { s with registrationSem := some false }.register
        if s.probePending ∧ s.registered then (s.start b o.rand ip, none) else (s, none)

/-- `tcpip_perform_acd` from its wait on; `taken` is whether the semaphore was. -/
def tcpipPerformAcdResume (o : Outcome) (taken : Bool) (s : Device) : Device × Bool :=
  if taken then
    let s := { s with acdSem := some false }
    match s.lastState with
    | .ipOk => ({ s with acdActivity := 0 }, true)
    | .decline | .restartClient => ({ s with acdActivity := 3 }, false)
  else if s.callbackReceived ∧ s.lastState = .ipOk then ({ s with acdActivity := 0 }, true)
  else if s.lastState = .restartClient ∨ s.lastState = .decline then
    ({ s with acdActivity := 3 }.postStop o.post, false)
  else (s, true)

/-- `tcpip_try_pending_acd` from the return of `tcpip_perform_acd` on.  What that returned is
not looked at. -/
def tcpipTryPendingAcdDone (o : Outcome) (s : Device) : Device :=
  if s.callbackReceived ∧ (s.lastState = .decline ∨ s.lastState = .restartClient) then
    { s.acdFailed with probePending := false }.postStop o.post
  else
    let s := if s.callbackReceived ∧ s.lastState = .ipOk then
        { s.setIpInfo s.pendingCfg with probePending := false }
      else s
    { s with acdActivity := 1 }

/-- The rest of whoever called `tcpip_try_pending_acd`. -/
def finish (k : Caller) (s : Device) : Device :=
  match k with
  | .connected => { s with deferred := s.deferred + 1 }
  | .other => s

/-- `tcpip_try_pending_acd`, called by `k`. -/
def tcpipTryPendingAcd (b : Build) (o : Outcome) (k : Caller) (s : Device) : Device :=
  if s.probePending = false then s.finish k
  else if s.netifHasValidHwaddr = false then s.finish k
  else if s.linkUp = false then ({ s with deferred := s.deferred + 1 } : Device).finish k
  else
    match tcpipPerformAcd b o s.pendingCfg.ip { s with acdActivity := 2 } with
    | (s, some _) => (s.tcpipTryPendingAcdDone o).finish k
    | (s, none) => { s with waiting := some k }

/-! ## 6. The handlers -/

/-- `configure_netif_from_tcpip` with a static address and ACD selected. -/
def configureNetifFromTcpip (b : Build) (o : Outcome) (cfg : IpInfo) (s : Device) : Device :=
  { s with booted := true, pendingCfg := cfg, probePending := true,
           acdActivity := 1 }.tcpipTryPendingAcd b o .other

/-- `ethernet_event_handler` on `ETHERNET_EVENT_CONNECTED`. -/
def ethernetConnected (b : Build) (o : Outcome) (mac : EthAddr) (s : Device) : Device :=
  { s with hwaddr := mac.toList }.tcpipTryPendingAcd b o .connected

/-- `ethernet_event_handler` on `ETHERNET_EVENT_DISCONNECTED`. -/
def ethernetDisconnected (o : Outcome) (s : Device) : Device := s.postStop o.post

/-- `tcpip_retry_acd_deferred`. -/
def tcpipRetryAcdDeferred (b : Build) (o : Outcome) (s : Device) : Device :=
  if s.probePending = false then s else s.tcpipTryPendingAcd b o .other

/-- `retry_callback`. -/
def retryCallback (b : Build) (o : Outcome) (s : Device) : Device :=
  if s.retryNetif then s.tcpipTryPendingAcd b o .other else s

/-- `tcpip_acd_retry_timer_callback`: through the tcpip thread, or at once if the post fails. -/
def tcpipAcdRetryTimerCallback (b : Build) (o : Outcome) (s : Device) : Device :=
  if s.retryNetif = false then s
  else
    let s := { s with probePending := true }
    if o.post then { s with postedRetry := s.postedRetry + 1 }
    else s.tcpipTryPendingAcd b o .other

/-- A blocked `tcpip_perform_acd` returns, and its caller with it. -/
def resume (o : Outcome) (taken : Bool) (k : Caller) (s : Device) : Device :=
  let s := (tcpipPerformAcdResume o taken { s with waiting := none }).1
  (s.tcpipTryPendingAcdDone o).finish k

end Device

/-! ## 7. Events -/

inductive DeviceEvent
  | boot (cfg : IpInfo) (o : Outcome)
  | connected (mac : EthAddr) (o : Outcome)
  | disconnected (o : Outcome)
  /-- `netif_set_link_up` and `netif_set_link_down` -/
  | netifUp
  | netifDown
  | tick (rand : Nat) (timerOk : Bool)
  | arp (hdr : ArpHdr) (timerOk : Bool)
  /-- a scheduled `tcpip_retry_acd_deferred` is due -/
  | deferred (o : Outcome)
  /-- the retry timer expires -/
  | timer (o : Outcome)
  /-- a posted `retry_callback` is run -/
  | retry (o : Outcome)
  /-- a posted `tcpip_acd_stop_cb` is run -/
  | stop
  /-- the wait in `tcpip_perform_acd` ends -/
  | resume (o : Outcome) (taken : Bool)

/-- A tick of `acd_tmr`. -/
def DeviceEvent.ticks : DeviceEvent → Bool
  | .tick _ _ => true
  | _ => false

/-- One event on the device.  A handler that may call `tcpip_perform_acd` waits for one that is
blocked there. -/
def deviceStep (b : Build) (s : Device) : DeviceEvent → Option Device
  | .boot cfg o =>
    if s.booted = false ∧ s.waiting = none ∧ cfg.ip ≠ 0 ∧ cfg.netmask ≠ 0 then
      some (s.configureNetifFromTcpip b o cfg) else none
  | .connected mac o =>
    if s.waiting = none then some (s.ethernetConnected b o mac) else none
  | .disconnected o => if s.waiting = none then some (s.ethernetDisconnected o) else none
  | .netifUp => some { s with linkUp := true }
  | .netifDown =>
    if s.linkUp then some { s.acdNetworkChangedLinkDown with linkUp := false } else some s
  | .tick rand timerOk => some (s.tick b timerOk rand)
  | .arp hdr timerOk => some (s.arp b timerOk hdr)
  | .deferred o =>
    if 0 < s.deferred ∧ s.waiting = none then
      some ({ s with deferred := s.deferred - 1 }.tcpipRetryAcdDeferred b o) else none
  | .timer o =>
    if s.retryTimer = .armed ∧ s.waiting = none then
      some ({ s with retryTimer := .stopped }.tcpipAcdRetryTimerCallback b o) else none
  | .retry o =>
    if 0 < s.postedRetry ∧ s.waiting = none then
      some ({ s with postedRetry := s.postedRetry - 1 }.retryCallback b o) else none
  | .stop =>
    if 0 < s.postedStop then
      some ({ s with postedStop := s.postedStop - 1 }.tcpipAcdStopCb) else none
  | .resume o taken =>
    match s.waiting with
    | some k => if taken = true → s.acdSem = some true then some (s.resume o taken k) else none
    | none => none

end GroundTruth.Acd
