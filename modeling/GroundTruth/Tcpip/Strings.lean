/-
# Stored strings are real

The host name and the domain name of the object are a length, and a block or `NULL`.  Where there
is a length there should be a block: `NvTcpipStore` writes the length that it finds, and zeros if
there is nothing to copy.

Six functions set, clear, copy or free the two strings.  `act` lets them act in any order: the
device, and the factory reset beside it.  Every step keeps a string real but one.
`ShutdownTcpIpInterface` frees the blocks and leaves the lengths, where `ClearCipString` sets both,
and from then on `ClearCipString` does not touch the length either.

* `act_real_iff`: what one step does to strings that are real;
* `act_written`: what one step leaves in the flash;
* `strings_real`: every run in which the stack stops only while both names are empty;
* `freed_length`: a stop with a host name, and a POST after it.
-/
import GroundTruth.Tcpip.Reset

namespace GroundTruth.Tcpip

open GroundTruth.Lib

/-! ## 1. Strings -/

/-- A length comes with a block. -/
def CipString.Real (s : CipString) : Prop := 0 < s.length → s.string ≠ none

theorem real_empty : CipString.empty.Real := fun h => absurd h (by decide)

variable {s : CipString}

theorem CipString.Real.clear (h : s.Real) : (clearCipString s).Real := by
  unfold clearCipString
  split
  · exact real_empty
  · exact h

theorem CipString.Real.setByData (h : s.Real) (alloc : Bool) (data : Bytes) :
    (setCipStringByData alloc data s).2.Real := by
  unfold setCipStringByData
  split
  · exact h.clear
  · split
    · exact h.clear
    · exact fun _ => Option.some_ne_none _

theorem CipString.Real.restoreText (h : s.Real) (alloc : Bool) (text : Bytes) :
    (restoreText alloc text s).2.Real := by
  unfold Tcpip.restoreText
  dsimp only
  split
  · exact h.clear.setByData alloc text
  · exact h.clear

/-- Without its block a string is real only if it has no length. -/
theorem freed_real_iff (s : CipString) : s.freed.Real ↔ s.length = 0 := by
  constructor
  · intro h
    by_contra hne
    exact h (Nat.pos_of_ne_zero hne) rfl
  · intro h hpos
    exact absurd h (Nat.ne_of_gt hpos)

/-- What is stored for a string: if there is a length, the bytes of the block. -/
def StoredFrom (s : CipString) (length : Nat) (bytes : Bytes) : Prop :=
  0 < length → ∃ data, s.string = some data ∧ bytes.take length = data.take length

/-- **What is stored** for a string is stored from its block if and only if the string is real. -/
theorem stored_iff (s : CipString) (max : Nat) (hmax : 0 < max) :
    StoredFrom s (s.storedLength max) (s.storedBytes max) ↔ s.Real := by
  constructor
  · intro h hlength
    obtain ⟨data, hdata, -⟩ := h (Nat.lt_min.2 ⟨hlength, hmax⟩)
    rw [hdata]
    exact Option.some_ne_none data
  · intro h hpos
    have hlength : 0 < s.length := Nat.lt_of_lt_of_le hpos (Nat.min_le_left _ _)
    obtain ⟨data, hdata⟩ := Option.ne_none_iff_exists'.1 (h hlength)
    have hsized : (data.take (s.storedLength max)).length = s.storedLength max := by
      rw [List.length_take, s.sized data hdata]
      exact Nat.min_eq_left (Nat.min_le_left _ _)
    refine ⟨data, hdata, ?_⟩
    rw [CipString.storedBytes, hdata]
    exact List.take_left' hsized

/-! ## 2. The object and the flash -/

/-- Both names are real. -/
structure CipTcpIpObject.Real (t : CipTcpIpObject) : Prop where
  domainName : t.interfaceConfiguration.domainName.Real
  hostname : t.hostname.Real

variable {t u : CipTcpIpObject} {nvs base : Option NvData}

theorem real_default : CipTcpIpObject.default.Real := ⟨real_empty, real_empty⟩

theorem CipTcpIpObject.Real.congr (h : t.Real)
    (hdomain : u.interfaceConfiguration.domainName = t.interfaceConfiguration.domainName)
    (hhost : u.hostname = t.hostname) : u.Real :=
  ⟨hdomain ▸ h.domainName, hhost ▸ h.hostname⟩

/-- The flash has a configuration whose two strings are stored from those of the object. -/
def Written (t : CipTcpIpObject) (nvs : Option NvData) : Prop :=
  ∃ b acd, nvs = some (.v2 2 b acd) ∧
    StoredFrom t.interfaceConfiguration.domainName b.domainLength b.domain ∧
    StoredFrom t.hostname b.hostnameLength b.hostname

/-- The image of an object is written from its strings if and only if they are real. -/
theorem written_iff (t : CipTcpIpObject) : Written t (some t.toNvData) ↔ t.Real := by
  have hdomain := stored_iff t.interfaceConfiguration.domainName tcpipDomainMaxLen (by decide)
  have hhost := stored_iff t.hostname tcpipHostnameMaxLen (by decide)
  constructor
  · rintro ⟨b, acd, hb, hbdomain, hbhost⟩
    obtain ⟨-, rfl, -⟩ := NvData.v2.inj (Option.some.inj hb)
    exact ⟨hdomain.1 hbdomain, hhost.1 hbhost⟩
  · intro h
    exact ⟨t.toBlob, _, rfl, hdomain.2 h.domainName, hhost.2 h.hostname⟩

/-- The object is real, and the flash has what it had or what is written from the object. -/
structure Sound (base : Option NvData) (x : CipTcpIpObject × Option NvData) : Prop where
  real : x.1.Real
  flash : x.2 = base ∨ Written x.1 x.2

theorem CipTcpIpObject.Real.sound (h : t.Real) (nvs : Option NvData) : Sound nvs (t, nvs) :=
  ⟨h, .inl rfl⟩

/-- Storing a real object writes its strings. -/
theorem Sound.store (h : Sound base (t, nvs)) (w : NvWrite) :
    Sound base (t, (nvTcpipStore w t nvs).2) := by
  refine ⟨h.real, ?_⟩
  rcases nvTcpipStore_cases w t nvs with hkept | hstored
  · rw [hkept]
    exact h.flash
  · rw [hstored]
    exact .inr ((written_iff t).2 h.real)

/-- What is not a string does not matter. -/
theorem Sound.congr (h : Sound base (t, nvs))
    (hdomain : u.interfaceConfiguration.domainName = t.interfaceConfiguration.domainName)
    (hhost : u.hostname = t.hostname) : Sound base (u, nvs) := by
  refine ⟨h.real.congr hdomain hhost, ?_⟩
  rcases h.flash with hkept | ⟨b, acd, hb, hbdomain, hbhost⟩
  · exact .inl hkept
  · exact .inr ⟨b, acd, hb, hdomain ▸ hbdomain, hhost ▸ hbhost⟩

/-! ## 3. The boot -/

theorem real_restore (h : t.Real) (e : LoadEnv) (r : Restored) : (restore e r t).2.Real := by
  have hdomain := h.domainName.restoreText e.domainAlloc r.blob.domainText
  unfold restore
  dsimp only
  split
  · exact ⟨hdomain, h.hostname⟩
  · exact ⟨hdomain, h.hostname.restoreText e.hostnameAlloc r.blob.hostnameText⟩

theorem Sound.finishLoad (h : Sound base (t, nvs)) (e : LoadEnv) (r : Restored) :
    Sound base (finishLoad e r t nvs) := by
  unfold Tcpip.finishLoad
  dsimp only
  split
  · have hdhcp : Sound base ({ { t with status := markApplied t.status }.toDhcp with
        status := clearAcdStatus (markApplied t.status) }, nvs) := h.congr rfl rfl
    split
    · exact (hdhcp.store _).store _
    · exact hdhcp.store _
  · have hmarked : Sound base ({ t with status := markApplied t.status }, nvs) := h.congr rfl rfl
    split
    · exact hmarked.store _
    · exact hmarked

theorem Sound.appMainChecks (h : Sound base (t, nvs)) (e : BootEnv) :
    Sound base (appMainChecks e t nvs) := by
  have hacd : Sound base (enableAcd e.acdWrite t nvs) := by
    unfold enableAcd
    split
    · have hon : Sound base ({ t with selectAcd := true }, nvs) := h.congr rfl rfl
      exact hon.store _
    · exact h
  obtain ⟨u, m, hum⟩ : ∃ u m, enableAcd e.acdWrite t nvs = (u, m) := ⟨_, _, rfl⟩
  rw [hum] at hacd
  have hdefault : Sound base (defaultMethod u, m) := by
    unfold defaultMethod
    split
    · exact hacd.congr rfl rfl
    · exact hacd
  have hstatic : Sound base (checkStatic e.checkWrite (defaultMethod u) m) := by
    unfold checkStatic
    split
    · have hdhcp : Sound base ({ (defaultMethod u).toDhcp with
          status := clearAcdStatus (defaultMethod u).status }, m) := hdefault.congr rfl rfl
      exact hdhcp.store _
    · exact hdefault
  unfold Tcpip.appMainChecks
  dsimp only
  rw [hum]
  refine hstatic.congr ?_ ?_
  · unfold dropDhcpAddresses
    split <;> rfl
  · unfold dropDhcpAddresses
    split <;> rfl

theorem Sound.afterLoad (h : Sound base (t, nvs)) (e : BootEnv) :
    Sound base (afterLoad e t nvs).2 := by
  have hchecks := h.appMainChecks e
  obtain ⟨u, m, hum⟩ : ∃ u m, Tcpip.appMainChecks e t nvs = (u, m) := ⟨_, _, rfl⟩
  rw [hum] at hchecks
  unfold Tcpip.afterLoad configureNetifFromTcpip
  rw [hum]
  dsimp only
  split
  · exact hchecks.congr rfl rfl
  · split
    · split
      · have hauto : Sound base (u.toDhcp, m) := hchecks.congr rfl rfl
        exact hauto.store _
      · have hdhcp : Sound base ({ u with
            configControl := setMethod kTcpipCfgCtrlDhcp u.configControl }, m) :=
          hchecks.congr rfl rfl
        exact hdhcp.store _
    · exact hchecks.congr rfl rfl

/-- A boot starts from the initial object, whatever the flash holds. -/
theorem sound_boot (e : BootEnv) (nvs : Option NvData) : Sound nvs (boot e nvs).2 := by
  have hload : Sound nvs (nvTcpipLoad e.load .default nvs).2 := by
    unfold nvTcpipLoad
    split
    · exact real_default.sound nvs
    · split
      · exact real_default.sound nvs
      · next r _ =>
        have hrestored := (real_restore real_default e.load r).sound nvs
        dsimp only
        split
        · exact hrestored
        · exact hrestored.finishLoad e.load r
  exact hload.afterLoad e

/-! ## 4. Requests and the reset -/

/-- A decoder keeps a string, or sets it from scratch. -/
theorem real_decode {r : SetRequest}
    {decode : SetRequest → CipTcpIpObject → GeneralStatus × CipTcpIpObject}
    (hd : decoder r.attributeNumber = some decode) (h : t.Real) : (decode r t).2.Real := by
  unfold decoder at hd
  split at hd
  · obtain rfl := Option.some.inj hd
    exact decodes_control.holds h fun u hu => h.congr (by rw [hu.1]) hu.2
  · obtain rfl := Option.some.inj hd
    refine decodes_configuration.holds h fun u hu => ?_
    obtain ⟨hhost, data, hdomain⟩ := hu
    exact ⟨hdomain ▸ real_empty.setByData r.alloc data, hhost ▸ h.hostname⟩
  · obtain rfl := Option.some.inj hd
    refine decodes_hostname.holds h fun u hu => ?_
    obtain ⟨hconfig, data, hhost⟩ := hu
    exact ⟨by rw [hconfig]; exact h.domainName, hhost ▸ real_empty.setByData r.alloc data⟩
  · obtain rfl := Option.some.inj hd
    exact decodes_selectAcd.holds h fun u hu => h.congr (by rw [hu.1]) hu.2
  · obtain rfl := Option.some.inj hd
    exact decodes_timeout.holds h fun u hu => h.congr (by rw [hu.1]) hu.2
  · cases hd

theorem sound_setAttributeSingle (r : SetRequest) (h : t.Real) (nvs : Option NvData) :
    Sound nvs (setAttributeSingle r t nvs).2 := by
  unfold setAttributeSingle
  split
  · exact h.sound nvs
  · next decode hd =>
    have hdecoded := (real_decode hd h).sound nvs
    have hown : Sound nvs ((decode r t).2, decodeStore r (decode r t).1 (decode r t).2 nvs) := by
      unfold decodeStore
      split
      · exact hdecoded.store _
      · exact hdecoded
    exact hown.store r.write

theorem sound_postIpconfig (inetAton : Bytes → Option UInt32) (p : Post) (h : t.Real)
    (nvs : Option NvData) : Sound nvs (postIpconfig inetAton p t nvs).2 := by
  unfold postIpconfig
  split
  · exact h.sound nvs
  · exact h.sound nvs
  · dsimp only
    split
    · exact h.sound nvs
    · split
      · exact h.sound nvs
      · obtain ⟨hdomain, hhost⟩ := applyIpconfig_strings inetAton _ _ t
        exact ((h.congr hdomain hhost).sound nvs).store p.write

theorem sound_reset (w : NvWrite) (h : t.Real) (nvs : Option NvData) :
    Sound nvs (resetDeviceToInitialConfiguration w t nvs) := by
  have hcleared : (restoreTcpIpDefaults { t with encapsulationInactivityTimeout := 120 }).Real :=
    ⟨h.domainName.clear, h.hostname.clear⟩
  exact (hcleared.sound nvs).store w

/-! ## 5. Steps -/

/-- What the device does, and the factory reset, which a request to the running stack asks for. -/
inductive Action
  | device (e : Event)
  /-- `ResetDeviceToInitialConfiguration`, before the restart -/
  | factoryReset (w : NvWrite)

variable (inetAton : Bytes → Option UInt32)

def act (d : Device) : Action → Option Device
  | .device e => step inetAton d e
  | .factoryReset w =>
    if d.openerInitialized = true then
      let x := resetDeviceToInitialConfiguration w d.tcpip d.nvs
      some { d with tcpip := x.1, nvs := x.2 }
    else none

/-- The stack stops only while both names are empty. -/
def StopsEmpty (d : Device) : Action → Prop
  | .device .openerExit =>
    d.tcpip.interfaceConfiguration.domainName.length = 0 ∧ d.tcpip.hostname.length = 0
  | _ => True

instance StopsEmpty.decidable (d : Device) : (a : Action) → Decidable (StopsEmpty d a)
  | .device .openerExit => inferInstanceAs (Decidable (_ ∧ _))
  | .device (.boot _) => isTrue trivial
  | .device (.gotIp _) => isTrue trivial
  | .device .disconnected => isTrue trivial
  | .device (.setAttribute _) => isTrue trivial
  | .device (.post _) => isTrue trivial
  | .factoryReset _ => isTrue trivial

theorem shutdown_real_iff (t : CipTcpIpObject) : (shutdownTcpIpInterface t).Real ↔
    t.interfaceConfiguration.domainName.length = 0 ∧ t.hostname.length = 0 := by
  rw [← freed_real_iff, ← freed_real_iff]
  exact ⟨fun h => ⟨h.domainName, h.hostname⟩, fun h => ⟨h.1, h.2⟩⟩

theorem real_gotIp {d : Device} (h : d.tcpip.Real) (g : GotIp) :
    (gotIpEventHandler g d).tcpip.Real := by
  have hinit : (openerInit g d).tcpip.Real := by
    unfold openerInit
    split
    · exact h
    · split
      · exact h
      · split
        · exact ⟨real_empty, h.hostname.setByData g.hostnameAlloc _⟩
        · exact h
  unfold gotIpEventHandler
  split
  · exact h
  · split
    · exact h
    · exact hinit

variable {inetAton} {d d' : Device} {a : Action}

/-- Apart from a stop of the stack, a step leaves real strings, and in the flash what was there or
what is written from them. -/
theorem act_sound (hne : a ≠ .device .openerExit) (h : d.tcpip.Real)
    (hact : act inetAton d a = some d') : Sound d.nvs (d'.tcpip, d'.nvs) := by
  cases a with
  | factoryReset w =>
    simp only [act] at hact
    split at hact
    · obtain rfl := Option.some.inj hact
      exact sound_reset w h d.nvs
    · cases hact
  | device e =>
    simp only [act] at hact
    cases e with
    | boot b =>
      obtain rfl := Option.some.inj hact
      exact sound_boot b d.nvs
    | gotIp g =>
      obtain rfl := Option.some.inj hact
      exact ⟨real_gotIp h g, .inl (gotIpEventHandler_nvs g d)⟩
    | disconnected =>
      obtain rfl := Option.some.inj hact
      exact h.sound d.nvs
    | openerExit => exact absurd rfl hne
    | setAttribute r =>
      simp only [step] at hact
      split at hact
      · obtain rfl := Option.some.inj hact
        exact sound_setAttributeSingle r h d.nvs
      · cases hact
    | post p =>
      simp only [step] at hact
      split at hact
      · obtain rfl := Option.some.inj hact
        exact sound_postIpconfig inetAton p h d.nvs
      · cases hact

theorem act_exit (hact : act inetAton d (.device .openerExit) = some d') :
    d' = { d with tcpip := shutdownTcpIpInterface d.tcpip, openerInitialized := false } := by
  simp only [act, step] at hact
  split at hact
  · exact (Option.some.inj hact).symm
  · cases hact

/-- **One step** keeps the strings real if and only if it is not a stop of the stack, or both names
are empty. -/
theorem act_real_iff (h : d.tcpip.Real) (hact : act inetAton d a = some d') :
    d'.tcpip.Real ↔ StopsEmpty d a := by
  by_cases ha : a = .device .openerExit
  · subst ha
    rw [act_exit hact]
    exact shutdown_real_iff d.tcpip
  · refine iff_of_true (act_sound ha h hact).real ?_
    unfold StopsEmpty
    split
    · exact absurd rfl ha
    · trivial

/-- **What one step writes** comes from the strings that it leaves. -/
theorem act_written (h : d.tcpip.Real) (hact : act inetAton d a = some d') :
    d'.nvs = d.nvs ∨ Written d'.tcpip d'.nvs := by
  by_cases ha : a = .device .openerExit
  · subst ha
    rw [act_exit hact]
    exact .inl rfl
  · exact (act_sound ha h hact).flash

/-! ## 6. Every run -/

/-- **Stored strings are real**: in a run from power on, whatever is in the flash, in which the
stack stops only while both names are empty, every state has real strings, and what any step from
it leaves in the flash is what was there or is written from real strings.  A write that a later one
of the same step covers is the last one when the later one is refused. -/
theorem strings_real (inetAton : Bytes → Option UInt32) (nvs : Option NvData) (d : Device)
    (h : Run (act inetAton) StopsEmpty { emptyDevice with nvs := nvs } d) :
    d.tcpip.Real ∧
      ∀ a d', act inetAton d a = some d' → d'.nvs = d.nvs ∨ Written d'.tcpip d'.nvs := by
  have hreal : d.tcpip.Real := by
    refine h.invariant (P := fun u => u.tcpip.Real) ?_ real_default
    intro u a v hu hg hact
    exact (act_real_iff hu hact).2 hg
  exact ⟨hreal, fun a d' hact => act_written hreal hact⟩

/-! ## 7. Two runs -/

/-- Power on; the interface gets its address, the stack starts with the host name "eip", and
attribute 10 selects ACD, which stores. -/
def namedRun : List Action := selectRun.map .device

theorem strings_real_named : ∃ d, exec (act fun _ => none) emptyDevice namedRun = some d ∧
    d.tcpip.hostname.length = 3 ∧ d.nvs = some d.tcpip.toNvData ∧ d.tcpip.Real :=
  ⟨_, rfl, rfl, rfl, (strings_real (fun _ => none) none _
    (exec_run (by decide +kernel : execMeets _ StopsEmpty _ namedRun) rfl)).1⟩

/-- The stack starts, with the host name "eip" of the interface, and stops. -/
def stopRun : List Action :=
  [.device (.boot bootEnv), .device (.gotIp gotAddress), .device .disconnected,
    .device .openerExit]

/-- A POST of nothing, which stores. -/
def emptyPost : Post := ⟨.json ⟨none, none, none, none, none, none⟩, true, true, true, .ok⟩

/-- **A stop with the host name "eip"** leaves its length, and a POST after it stores that with
three zeros. -/
theorem freed_length :
    (¬∀ (inetAton : Bytes → Option UInt32) (nvs : Option NvData) (d : Device),
        Reach (act inetAton) { emptyDevice with nvs := nvs } d → d.tcpip.Real) ∧
      ¬∀ (inetAton : Bytes → Option UInt32) (nvs : Option NvData) (d : Device),
        Reach (act inetAton) { emptyDevice with nvs := nvs } d →
          ∀ a d', act inetAton d a = some d' → d'.nvs = d.nvs ∨ Written d'.tcpip d'.nvs := by
  obtain ⟨d, d', hrun, hpost, ⟨hlength, hstring⟩, hempty, hstored, hlength', hstring'⟩ :
      ∃ d d', exec (act fun _ => none) emptyDevice stopRun = some d ∧
        act (fun _ => none) d (.device (.post emptyPost)) = some d' ∧
        (d.tcpip.hostname.length = 3 ∧ d.tcpip.hostname.string = none) ∧ d.nvs = none ∧
        d'.nvs = some d'.tcpip.toNvData ∧ d'.tcpip.hostname.length = 3 ∧
        d'.tcpip.hostname.string = none := ⟨_, _, rfl, rfl, by decide +kernel⟩
  have hreach := exec_reach hrun
  constructor
  · intro hall
    have hreal := (hall _ none d hreach).hostname
    exact hreal (by omega) hstring
  · intro hall
    rcases hall _ none d hreach _ d' hpost with hkept | hwritten
    · rw [hempty, hstored] at hkept
      cases hkept
    · rw [hstored, written_iff] at hwritten
      exact hwritten.hostname (by omega) hstring'

end GroundTruth.Tcpip
