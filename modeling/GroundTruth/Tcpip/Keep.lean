/-
# No lost configuration

`g_tcpip` is both the configuration to be stored and a view of what the interface is using.  A
start of the stack writes the second over the first: the name servers and the domain name are
gone, the addresses and the host name are those of the interface.  A stop frees the strings.
Nothing is lost by that, until something stores the object; and everything that stores stores all
of it, a request for another attribute, accepted or not, as well as one for the web page.

So whether a request loses a field is decided by what came before it.  `asStored` is a record of
that, kept beside the run from the events alone and what is in the flash: what the last boot
restored, what the interface had at the last start of the stack, whether the stack has stopped, and
whether a POST for the field has failed.  `Keeps` is the condition on a step, a request whose write
reaches the flash with that record spoiled being the one that loses.

* `agrees_step`: while the record says so, object and flash agree, whatever the stack does;
* `keeps_step`, `stored_kept`: the step and the run;
* `stored_lost_nameServer`: a start of the stack, and a request for the timeout.
-/
import GroundTruth.Tcpip.Device

namespace GroundTruth.Tcpip

open GroundTruth.Lib

/-! ## 1. The record -/

/-- An accepted request sets the field. -/
def Changes (inetAton : Bytes → Option UInt32) (F : Field) (d : Device) : Event → Prop
  | .setAttribute r => (setAttributeSingle r d.tcpip d.nvs).1 = .success ∧ r.sets F
  | .post p => (postIpconfig inetAton p d.tcpip d.nvs).1 = .ok ∧ p.sets F
  | _ => False

/-- The host name that a start of the stack sets, unless it just clears it. -/
def GotIp.name (g : GotIp) : Option Bytes :=
  let text := g.hostname.take (g.hostname.length % 0x10000)
  if g.hostnameAlloc = true ∧ text ≠ [] then some (text.take tcpipHostnameMaxLen) else none

/-- What the interface has for the field when the stack starts: no name server and no domain name,
ever. -/
def GotIp.value (g : GotIp) : Field → Option FieldValue
  | .ipAddress => some (.address g.ipAddr)
  | .networkMask => some (.address g.netmask)
  | .gateway => some (.address g.gw)
  | .nameServer | .nameServer2 => some (.address 0)
  | .domainName => some (.text [])
  | .hostname => g.name.map .text

/-- The event starts the stack. -/
def GotIp.Starts (g : GotIp) (d : Device) : Prop :=
  (g.found = true ∧ d.servicesInitialized = false) ∧
    (g.mutex = true ∧ d.openerInitialized = false ∧ g.linkUp = true)

instance GotIp.decidableStarts (g : GotIp) (d : Device) : Decidable (g.Starts d) :=
  inferInstanceAs (Decidable (_ ∧ _))

/-- The texts, which a stop of the stack frees. -/
def Field.isText : Field → Bool
  | .domainName | .hostname => true
  | _ => false

/-- The record after an event: the object has the field as it is stored. -/
def asStored (F : Field) (d : Device) (same : Bool) : Event → Bool
  | .boot b => decide (BootRestores b d.nvs F)
  | .gotIp g =>
    if g.Starts d then
      match g.value F with
      | some v => decide (stored d.nvs F = some v)
      | none => same && decide (stored d.nvs F = some (.text []))
    else same
  | .openerExit => same && (!F.isText || decide (stored d.nvs F = some (.text [])))
  | .post p => same && !decide (p.Stores ∧ p.sets F)
  | .disconnected | .setAttribute _ => same

/-- The device with the record beside it. -/
def recorded (inetAton : Bytes → Option UInt32) (F : Field) :
    Device × Bool → Event → Option (Device × Bool) :=
  watch (step inetAton) fun d e _ same => some (asStored F d same e)

/-- The condition under which a step keeps a stored field that it does not change.  A request whose
write reaches the flash must find the record unspoiled, and a POST among them that sets the field
must not be answered with an error. -/
def Keeps (F : Field) (x : Device × Bool) : Event → Prop
  | .boot e => BootKeeps e x.1.nvs F
  | .setAttribute r => r.Lands → x.2 = true
  | .post p => p.Lands → x.2 = true ∧ ¬p.sets F
  | _ => True

instance Changes.decidable (inetAton : Bytes → Option UInt32) (F : Field) (d : Device) :
    (e : Event) → Decidable (Changes inetAton F d e)
  | .setAttribute _ => inferInstanceAs (Decidable (_ ∧ _))
  | .post _ => inferInstanceAs (Decidable (_ ∧ _))
  | .boot _ => isFalse id
  | .gotIp _ => isFalse id
  | .disconnected => isFalse id
  | .openerExit => isFalse id

instance Keeps.decidable (F : Field) (x : Device × Bool) : (e : Event) → Decidable (Keeps F x e)
  | .boot _ => inferInstanceAs (Decidable (BootKeeps _ _ _))
  | .setAttribute _ => inferInstanceAs (Decidable (_ → _))
  | .post _ => inferInstanceAs (Decidable (_ → _))
  | .gotIp _ => isTrue trivial
  | .disconnected => isTrue trivial
  | .openerExit => isTrue trivial

/-! ## 2. What the stack does to the object -/

/-- The object has the field as the flash has it. -/
def Agrees (F : Field) (d : Device) : Prop := stored d.nvs F = some (d.tcpip.persisted F)

variable {inetAton : Bytes → Option UInt32} {F : Field} {d d' : Device} {e : Event} {g : GotIp}
  {t : CipTcpIpObject} {nvs : Option NvData}

/-- A string that would be stored as nothing has no length. -/
theorem length_of_persisted {s : CipString} (max : Nat) (hmax : 0 < max)
    (h : s.persisted max = []) : s.length = 0 := by
  have hlen : (s.persisted max).length = 0 := by rw [h]; rfl
  rw [CipString.persisted, List.length_take, CipString.length_storedBytes,
    CipString.storedLength] at hlen
  omega

theorem persisted_of_length {s : CipString} {max : Nat} (h : s.length = 0) :
    s.persisted max = [] := by
  rw [CipString.persisted, CipString.storedLength, h]
  simp

/-- A string set from a block would be stored as the block, as far as there is room. -/
theorem persisted_block {data : Bytes} {max : Nat} {sized : ∀ d ∈ some data, d.length = data.length} :
    CipString.persisted ⟨data.length, some data, sized⟩ max = data.take max := by
  have hmin : min (min data.length max) max = min data.length max := by omega
  have hlen : (data.take (min data.length max)).length = min data.length max := by
    rw [List.length_take]
    omega
  rw [CipString.persisted, CipString.storedBytes, CipString.storedLength, hmin,
    List.take_left' hlen, Nat.min_comm, ← List.take_eq_take_min]

/-- The host name after a start of the stack. -/
theorem gotIp_name (g : GotIp) (s : CipString) :
    (∀ text, g.name = some text →
      (setCipStringByCstr g.hostnameAlloc g.hostname s).persisted tcpipHostnameMaxLen = text) ∧
    (g.name = none → s.length = 0 →
      (setCipStringByCstr g.hostnameAlloc g.hostname s).length = 0) := by
  have hclear : s.length = 0 → (clearCipString s).length = 0 := by
    intro h
    unfold clearCipString
    split
    · rfl
    · exact h
  unfold GotIp.name setCipStringByCstr setCipStringByData
  dsimp only
  generalize g.hostname.take (g.hostname.length % 0x10000) = text
  by_cases htext : text = []
  · simp only [htext, if_true, ne_eq, not_true_eq_false, and_false, if_false]
    refine ⟨fun _ h => ?_, fun _ => hclear⟩
    cases h
  · cases halloc : g.hostnameAlloc with
    | false =>
      simp only [htext, if_true, if_false, Bool.false_eq_true, false_and]
      refine ⟨fun _ h => ?_, fun _ => hclear⟩
      cases h
    | true =>
      simp only [htext, if_true, if_false, ne_eq, not_false_eq_true, and_self,
        Bool.true_eq_false]
      constructor
      · intro _ h
        rw [← Option.some.inj h]
        exact persisted_block
      · intro h
        cases h

/-- A start of the stack, in full. -/
theorem gotIp_starts (h : g.Starts d) :
    (gotIpEventHandler g d).tcpip = { d.tcpip with
      hostname := setCipStringByCstr g.hostnameAlloc g.hostname d.tcpip.hostname
      interfaceConfiguration := ifaceGetConfiguration g } := by
  obtain ⟨⟨hfound, hservices⟩, hmutex, hopener, hlink⟩ := h
  rw [gotIpEventHandler, if_neg (by simp [hfound]), if_neg (by simp [hservices]), openerInit,
    if_neg (by simp [hmutex]), if_neg (by simp [hopener]), if_pos hlink]

/-- Anything else leaves the object alone. -/
theorem gotIp_idle (h : ¬g.Starts d) : (gotIpEventHandler g d).tcpip = d.tcpip := by
  unfold gotIpEventHandler
  split
  · rfl
  · split
    · rfl
    · next hfound hservices =>
      dsimp only
      unfold openerInit
      split
      · rfl
      · split
        · rfl
        · split
          · next hmutex hopener hlink =>
            exact absurd ⟨⟨by simpa using hfound, by simpa using hservices⟩, by simpa using hmutex,
              by simpa using hopener, hlink⟩ h
          · rfl

/-- **A start of the stack** puts into the object what the interface has. -/
theorem start_agrees (h : g.Starts d) {v : FieldValue} (hv : g.value F = some v) :
    (gotIpEventHandler g d).tcpip.persisted F = v := by
  rw [gotIp_starts h]
  cases F with
  | hostname =>
    rw [GotIp.value, Option.map_eq_some_iff] at hv
    obtain ⟨text, hname, rfl⟩ := hv
    exact congrArg FieldValue.text ((gotIp_name g d.tcpip.hostname).1 text hname)
  | domainName =>
    obtain rfl := Option.some.inj hv
    exact congrArg FieldValue.text (CipString.persisted_empty _)
  | ipAddress => exact Option.some.inj hv
  | networkMask => exact Option.some.inj hv
  | gateway => exact Option.some.inj hv
  | nameServer => exact Option.some.inj hv
  | nameServer2 => exact Option.some.inj hv

/-- If it just clears the host name, an empty one stays empty. -/
theorem start_clears (h : g.Starts d) (hv : g.value F = none)
    (hempty : d.tcpip.persisted F = .text []) :
    (gotIpEventHandler g d).tcpip.persisted F = .text [] := by
  cases F with
  | hostname =>
    rw [GotIp.value, Option.map_eq_none_iff] at hv
    have hlen : d.tcpip.hostname.length = 0 :=
      length_of_persisted tcpipHostnameMaxLen (by decide) (FieldValue.text.inj hempty)
    rw [gotIp_starts h]
    exact congrArg FieldValue.text
      (persisted_of_length ((gotIp_name g d.tcpip.hostname).2 hv hlen))
  | domainName => cases hv
  | ipAddress => cases hv
  | networkMask => cases hv
  | gateway => cases hv
  | nameServer => cases hv
  | nameServer2 => cases hv

/-- **A stop of the stack** leaves the addresses, and a text that is empty. -/
theorem shutdown_persisted (h : F.isText = false ∨ t.persisted F = .text []) :
    (shutdownTcpIpInterface t).persisted F = t.persisted F := by
  cases F with
  | hostname =>
    have hempty := h.resolve_left (by decide)
    have hlen : t.hostname.length = 0 :=
      length_of_persisted tcpipHostnameMaxLen (by decide) (FieldValue.text.inj hempty)
    rw [hempty]
    exact congrArg FieldValue.text (persisted_of_length hlen)
  | domainName =>
    have hempty := h.resolve_left (by decide)
    have hlen : t.interfaceConfiguration.domainName.length = 0 :=
      length_of_persisted tcpipDomainMaxLen (by decide) (FieldValue.text.inj hempty)
    rw [hempty]
    exact congrArg FieldValue.text (persisted_of_length hlen)
  | ipAddress => rfl
  | networkMask => rfl
  | gateway => rfl
  | nameServer => rfl
  | nameServer2 => rfl

/-! ## 3. One step -/

/-- A request leaves a field that it does not set, in the object. -/
theorem setAttributeSingle_persisted {r : SetRequest}
    (hF : ¬((setAttributeSingle r t nvs).1 = .success ∧ r.sets F)) :
    (setAttributeSingle r t nvs).2.1.persisted F = t.persisted F := by
  unfold setAttributeSingle at hF ⊢
  cases hd : decoder r.attributeNumber with
  | none => rfl
  | some decode =>
    simp only [hd] at hF ⊢
    exact decode_persisted hd hF

/-- So does a POST, unless it sets the field and gets as far as storing. -/
theorem postIpconfig_persisted {p : Post} (hp : ¬(p.Stores ∧ p.sets F)) :
    (postIpconfig inetAton p t nvs).2.1.persisted F = t.persisted F := by
  by_cases hs : p.Stores
  · obtain ⟨u, hu, hrun⟩ := postIpconfig_of_stores (F := F) inetAton hs t nvs
    rw [hrun]
    exact hu fun hsets => hp ⟨hs, hsets⟩
  · rw [(postIpconfig_of_not_stores hs).1]

/-- **One step** keeps the field. -/
theorem keeps_step {same : Bool} (hsame : same = true → Agrees F d)
    (hno : ¬Changes inetAton F d e) (hk : Keeps F (d, same) e)
    (hstep : step inetAton d e = some d') : stored d'.nvs F = stored d.nvs F := by
  cases e with
  | boot b =>
    obtain rfl := Option.some.inj hstep
    exact boot_stored hk
  | gotIp g =>
    obtain rfl := Option.some.inj hstep
    rw [gotIpEventHandler_nvs]
  | disconnected =>
    obtain rfl := Option.some.inj hstep
    rfl
  | openerExit =>
    simp only [step] at hstep
    split at hstep
    · obtain rfl := Option.some.inj hstep
      rfl
    · cases hstep
  | setAttribute r =>
    simp only [step] at hstep
    split at hstep
    · obtain rfl := Option.some.inj hstep
      exact (setAttributeSingle_stored_iff hno).2 fun hl => hsame (hk hl)
    · cases hstep
  | post p =>
    simp only [step] at hstep
    split at hstep
    · obtain rfl := Option.some.inj hstep
      by_cases hl : p.Lands
      · exact (postIpconfig_stored_iff inetAton (hk hl).2 d.tcpip d.nvs).2 fun _ =>
          hsame (hk hl).1
      · exact congrArg (stored · F) (postIpconfig_of_not_lands hl)
    · cases hstep

/-- **The record is right**: where it says that the object has the field as it is stored, it has. -/
theorem agrees_step {same : Bool} (hsame : same = true → Agrees F d)
    (hno : ¬Changes inetAton F d e) (hk : Keeps F (d, same) e)
    (hstep : step inetAton d e = some d') (h : asStored F d same e = true) : Agrees F d' := by
  have hkept := keeps_step hsame hno hk hstep
  rw [Agrees, hkept]
  cases e with
  | boot b =>
    obtain rfl := Option.some.inj hstep
    have hrestores : BootRestores b d.nvs F := of_decide_eq_true h
    exact boot_restores hrestores
  | gotIp g =>
    obtain rfl := Option.some.inj hstep
    rw [asStored] at h
    split at h
    · next hstarts =>
      split at h
      · next v hv =>
        rw [start_agrees hstarts hv]
        exact of_decide_eq_true h
      · next hv =>
        obtain ⟨hs, hempty⟩ := Bool.and_eq_true_iff.1 h
        have hold : stored d.nvs F = some (.text []) := of_decide_eq_true hempty
        have hagree : stored d.nvs F = some (d.tcpip.persisted F) := hsame hs
        rw [hagree, Option.some.injEq] at hold
        rw [hagree, start_clears hstarts hv hold, hold]
    · next hidle =>
      rw [gotIp_idle hidle]
      exact hsame h
  | disconnected =>
    obtain rfl := Option.some.inj hstep
    exact hsame h
  | openerExit =>
    simp only [step] at hstep
    split at hstep
    · obtain rfl := Option.some.inj hstep
      obtain ⟨hs, htext⟩ := Bool.and_eq_true_iff.1 h
      have hagree : stored d.nvs F = some (d.tcpip.persisted F) := hsame hs
      rw [Bool.or_eq_true, Bool.not_eq_true', decide_eq_true_eq, hagree, Option.some.injEq] at htext
      rw [hagree, shutdown_persisted htext]
    · cases hstep
  | setAttribute r =>
    simp only [step] at hstep
    split at hstep
    · obtain rfl := Option.some.inj hstep
      rw [setAttributeSingle_persisted hno]
      exact hsame h
    · cases hstep
  | post p =>
    simp only [step] at hstep
    split at hstep
    · obtain rfl := Option.some.inj hstep
      obtain ⟨hs, hp⟩ := Bool.and_eq_true_iff.1 h
      rw [Bool.not_eq_true', decide_eq_false_iff_not] at hp
      rw [postIpconfig_persisted hp]
      exact hsame hs
    · cases hstep

/-! ## 4. Every run -/

/-- **No lost configuration**: in a run whose steps all meet the condition, from any state, a field
that no accepted request sets has the same value in the flash in every state that is reached. -/
theorem stored_kept (inetAton : Bytes → Option UInt32) (F : Field) (d : Device)
    (y : Device × Bool)
    (h : Run (recorded inetAton F) (fun x e => ¬Changes inetAton F x.1 e ∧ Keeps F x e)
      (d, false) y) :
    stored y.1.nvs F = stored d.nvs F := by
  have hinv : stored y.1.nvs F = stored d.nvs F ∧ (y.2 = true → Agrees F y.1) := by
    refine h.invariant (P := fun x => stored x.1.nvs F = stored d.nvs F ∧
      (x.2 = true → Agrees F x.1)) ?_ ⟨rfl, fun h => Bool.noConfusion h⟩
    rintro x e z ⟨hkept, hsame⟩ ⟨hno, hk⟩ hstep
    obtain ⟨hs, hnote⟩ := watch_some.1 hstep
    refine ⟨(keeps_step hsame hno hk hs).trans hkept, fun h => ?_⟩
    rw [← Option.some.inj hnote] at h
    exact agrees_step hsame hno hk hs h
  exact hinv.1

/-! ## 5. Two runs -/

/-- A static configuration with a name server: 192.168.1.5/24, and 8.8.8.8. -/
def benchObject : CipTcpIpObject :=
  { CipTcpIpObject.default with
    configControl := 0
    interfaceConfiguration := ⟨0x0501A8C0, 0x00FFFFFF, 0x0101A8C0, 0x08080808, 0, .empty⟩
    selectAcd := true }

/-- A device that is off, with this configuration stored. -/
def benchOff : Device where
  tcpip := .default
  nvs := some benchObject.toNvData
  netif := .dhcp
  servicesInitialized := false
  openerInitialized := false
  webui := false

/-- Power on; the interface gets the static address; attribute 13 is set to 60 seconds. -/
def benchRun : List Event :=
  [.boot ⟨⟨true, true, true, .ok, .ok⟩, .ok, .ok, .ok, true⟩,
    .gotIp ⟨true, true, true, 0x0501A8C0, 0x00FFFFFF, 0x0101A8C0, [0x65], true, true, true⟩,
    .setAttribute ⟨13, 2, fun i => if i = 0 then 60 else 0, true, .ok, .ok⟩]

/-- The address is the same in the interface and in the flash, and is kept. -/
theorem stored_kept_address :
    ∃ y, exec (recorded (fun _ => none) .ipAddress) (benchOff, false) benchRun = some y ∧
      stored y.1.nvs .ipAddress = some (.address 0x0501A8C0) :=
  ⟨_, rfl, stored_kept (fun _ => none) .ipAddress benchOff _
    (exec_run (by decide +kernel : execMeets _ _ _ benchRun) rfl)⟩

/-- The name server is lost. -/
theorem stored_lost_nameServer :
    ¬∀ (inetAton : Bytes → Option UInt32) (F : Field) (d d' : Device),
      Run (step inetAton) (fun d e => ¬Changes inetAton F d e) d d' →
      stored d'.nvs F = stored d.nvs F := by
  intro hall
  have hsame := hall (fun _ => none) .nameServer benchOff _
    (exec_run (by decide +kernel : execMeets _ _ _ benchRun) rfl)
  exact absurd hsame (by decide +kernel)

end GroundTruth.Tcpip
