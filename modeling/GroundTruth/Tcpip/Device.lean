/-
# The device: one object, and everything that writes to it

`g_tcpip` is read from the flash at boot, and from then on written by four parties: the OpENer
stack when it starts, which takes over what the interface is using; the stack when it stops,
which frees the strings; the setters of the object; and the web page.  `step` lets them act in
any order.  A request for the object needs a running stack, and the web page needs its server.

What an action does is in `Boot.lean`, `Attributes.lean` and `Web.lean`, and for the stack here.
-/
import GroundTruth.Lib.Run
import GroundTruth.Tcpip.Attributes
import GroundTruth.Tcpip.Web
import GroundTruth.Tcpip.Boot

namespace GroundTruth.Tcpip

open GroundTruth.Lib

/-! ## 1. The state -/

structure Device where
  /-- `g_tcpip` -/
  tcpip : CipTcpIpObject
  /-- the flash, under the key of the configuration -/
  nvs : Option NvData
  netif : NetifSetup
  /-- `s_services_initialized` -/
  servicesInitialized : Bool
  /-- `opener_initialized`: the thread of the stack runs -/
  openerInitialized : Bool
  /-- the web server runs -/
  webui : Bool
  deriving DecidableEq

/-- The interface that got an address, and what can go wrong while the services start. -/
structure GotIp where
  /-- an interface is found -/
  found : Bool
  /-- `opener_init_mutex` exists, or can be created -/
  mutex : Bool
  linkUp : Bool
  ipAddr : UInt32
  netmask : UInt32
  gw : UInt32
  /-- `netif_get_hostname` -/
  hostname : Bytes
  hostnameAlloc : Bool
  /-- the network handler and the thread start -/
  threadStarts : Bool
  /-- `webui_init` succeeds -/
  webuiStarts : Bool
  deriving DecidableEq, Repr

inductive Event
  | boot (e : BootEnv)
  /-- `IP_EVENT_ETH_GOT_IP` -/
  | gotIp (g : GotIp)
  /-- `ETHERNET_EVENT_DISCONNECTED` -/
  | disconnected
  /-- `opener_thread` leaves its loop -/
  | openerExit
  | setAttribute (r : SetRequest)
  | post (p : Post)

/-! ## 2. The stack -/

/-- `IfaceGetConfiguration`: the whole attribute is replaced. -/
def ifaceGetConfiguration (g : GotIp) : InterfaceConfiguration where
  ipAddress := g.ipAddr
  networkMask := g.netmask
  gateway := g.gw
  nameServer := 0
  nameServer2 := 0
  domainName := .empty

/-- `opener_init`. -/
def openerInit (g : GotIp) (d : Device) : Device :=
  if g.mutex = false then d
  else if d.openerInitialized = true then d
  else if g.linkUp = true then
    { d with
      tcpip := { d.tcpip with
        hostname := setCipStringByCstr g.hostnameAlloc g.hostname d.tcpip.hostname
        interfaceConfiguration := ifaceGetConfiguration g }
      openerInitialized := g.threadStarts }
  else d

/-- `got_ip_event_handler`. -/
def gotIpEventHandler (g : GotIp) (d : Device) : Device :=
  if g.found = false then d
  else if d.servicesInitialized = true then d
  else
    let d := openerInit g d
    { d with servicesInitialized := true, webui := d.webui || g.webuiStarts }

/-- `ShutdownTcpIpInterface`: the strings are freed, and their lengths stay. -/
def shutdownTcpIpInterface (t : CipTcpIpObject) : CipTcpIpObject :=
  { t with
    hostname := t.hostname.freed
    interfaceConfiguration :=
      { t.interfaceConfiguration with domainName := t.interfaceConfiguration.domainName.freed } }

/-! ## 3. Steps -/

variable (inetAton : Bytes → Option UInt32)

def step (d : Device) : Event → Option Device
  | .boot e =>
    let x := boot e d.nvs
    some
      { tcpip := x.2.1
        nvs := x.2.2
        netif := x.1
        servicesInitialized := false
        openerInitialized := false
        webui := false }
  | .gotIp g => some (gotIpEventHandler g d)
  | .disconnected => some { d with servicesInitialized := false }
  | .openerExit =>
    if d.openerInitialized = true then
      some { d with tcpip := shutdownTcpIpInterface d.tcpip, openerInitialized := false }
    else none
  | .setAttribute r =>
    if d.openerInitialized = true then
      let x := setAttributeSingle r d.tcpip d.nvs
      some { d with tcpip := x.2.1, nvs := x.2.2 }
    else none
  | .post p =>
    if d.webui = true then
      let x := postIpconfig inetAton p d.tcpip d.nvs
      some { d with tcpip := x.2.1, nvs := x.2.2 }
    else none

/-! ## 4. What starts and stops do to the flash: nothing -/

@[simp] theorem openerInit_nvs (g : GotIp) (d : Device) : (openerInit g d).nvs = d.nvs := by
  unfold openerInit
  split
  · rfl
  · split
    · rfl
    · split <;> rfl

@[simp] theorem gotIpEventHandler_nvs (g : GotIp) (d : Device) :
    (gotIpEventHandler g d).nvs = d.nvs := by
  unfold gotIpEventHandler
  split
  · rfl
  · split
    · rfl
    · exact openerInit_nvs g d

end GroundTruth.Tcpip
