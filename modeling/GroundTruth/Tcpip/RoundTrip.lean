/-
# The round trip through the flash

What `NvTcpipStore` writes, `NvTcpipLoad` reads back: the method and the flags, the addresses, the
two names with their lengths, and the ACD setting.  `Settings` is all that together, and does not
look at where a string lives.

The target of a load is an object with a past.  A string is restored by clearing it and setting
what is stored, and the second is left out when nothing is stored; `ClearCipString` then leaves
the length of a string that has no block, as the stop of the stack leaves them behind.  `Takes` is
what a string of the target has to meet.

* `load_settings_iff`: when a load gives the settings that are stored, for both formats;
* `nvTcpip_roundTrip_iff`: when the round trip gives back what was stored, and when an old blob
  survives its upgrade and a second load.
-/
import GroundTruth.Tcpip.Device

namespace GroundTruth.Tcpip

open GroundTruth.Lib

/-! ## 1. What is to survive -/

/-- What a string says: its length, and the bytes there are. -/
def CipString.text (s : CipString) : Nat × Bytes := (s.length, s.string.getD [])

/-- What is stored of an object. -/
structure Settings where
  configControl : UInt32
  addresses : InterfaceConfiguration
  domainName : Nat × Bytes
  hostname : Nat × Bytes
  selectAcd : Bool
  deriving DecidableEq

def CipTcpIpObject.settings (t : CipTcpIpObject) : Settings where
  configControl := t.configControl
  addresses := t.interfaceConfiguration.addresses
  domainName := t.interfaceConfiguration.domainName.text
  hostname := t.hostname.text
  selectAcd := t.selectAcd

/-- The settings in a blob, whose texts are as long as its lengths say. -/
def TcpipNvBlob.settings (b : TcpipNvBlob) (selectAcd : Bool) : Settings where
  configControl := b.configControl
  addresses := b.addresses
  domainName := (b.domainLength, b.domain.take b.domainLength)
  hostname := (b.hostnameLength, b.hostname.take b.hostnameLength)
  selectAcd := selectAcd

/-- DHCP, or a static configuration that passes the check. -/
def Configured (configControl : UInt32) (c : InterfaceConfiguration) : Prop :=
  method configControl = kTcpipCfgCtrlDhcp ∨
    method configControl = kTcpipCfgCtrlStaticIp ∧ cipTcpIpIsValidNetworkConfig c = true

/-- An object that fits the blob, with a block behind every length. -/
structure CipTcpIpObject.Storable (t : CipTcpIpObject) : Prop where
  domainLength : t.interfaceConfiguration.domainName.length ≤ tcpipDomainMaxLen
  hostnameLength : t.hostname.length ≤ tcpipHostnameMaxLen
  domainString : t.interfaceConfiguration.domainName.length ≠ 0 →
    t.interfaceConfiguration.domainName.string ≠ none
  hostnameString : t.hostname.length ≠ 0 → t.hostname.string ≠ none
  configured : Configured t.configControl t.interfaceConfiguration

/-- A blob with such content. -/
structure TcpipNvBlob.Storable (b : TcpipNvBlob) : Prop where
  domainLength : b.domainLength ≤ tcpipDomainMaxLen
  hostnameLength : b.hostnameLength ≤ tcpipHostnameMaxLen
  configured : Configured b.configControl b.addresses

/-- The flash can be read, and there is memory for the strings. -/
structure LoadEnv.Works (e : LoadEnv) : Prop where
  readable : e.readable = true
  domainAlloc : e.domainAlloc = true
  hostnameAlloc : e.hostnameAlloc = true

/-- The string takes `n` bytes, whatever it held: if there are none to set, it has a block to be
freed, or no length. -/
def CipString.Takes (s : CipString) (n : Nat) : Prop :=
  n = 0 → s.string = none → s.length = 0

instance CipString.decidableTakes (s : CipString) (n : Nat) : Decidable (s.Takes n) :=
  inferInstanceAs (Decidable (_ → _))

/-! ## 2. Strings -/

@[simp] theorem CipString.text_empty : CipString.empty.text = (0, []) := rfl

/-- What is restored for a text, if there is memory. -/
theorem restoreText_works (text : Bytes) (s : CipString) :
    (restoreText true text s).1 = true ∧
      ((restoreText true text s).2.text = (text.length, text) ↔ s.Takes text.length) := by
  unfold restoreText
  dsimp only
  by_cases hpos : 0 < text.length
  · have hne : text ≠ [] := List.ne_nil_of_length_pos hpos
    have hset : setCipStringByData true text (clearCipString s) =
        (true, ⟨text.length, some text, fun _ h => by rw [Option.mem_some.1 h]⟩) := by
      rw [setCipStringByData, if_neg hne, if_neg (by decide)]
    rw [if_pos hpos, hset]
    refine ⟨rfl, ?_⟩
    constructor
    · intro _ h0
      omega
    · intro _
      rfl
  · have hnil : text = [] := List.eq_nil_of_length_eq_zero (Nat.eq_zero_of_not_pos hpos)
    rw [if_neg hpos, hnil]
    refine ⟨rfl, ?_⟩
    cases hs : s.string with
    | some d =>
      have hclear : clearCipString s = .empty := by
        rw [clearCipString, hs]
      simp [hclear, CipString.Takes, hs]
    | none =>
      have hclear : clearCipString s = s := by
        rw [clearCipString, hs]
      simp [hclear, CipString.Takes, CipString.text, hs]

/-- A string that says `n` bytes, and has them, has a block if `n` is not 0. -/
theorem CipString.string_of_text {s : CipString} {data : Bytes}
    (h : s.text = (data.length, data)) (hne : s.length ≠ 0) : s.string ≠ none := by
  intro hnone
  simp only [CipString.text, Prod.mk.injEq, hnone, Option.getD_none] at h
  rw [← h.2, List.length_nil] at h
  exact hne h.1

/-! ## 3. A load -/

variable {e : LoadEnv} {r : Restored} {d : NvData}

/-- The settings that a load is to restore: the lengths are cut to what the fields can hold. -/
def Restored.settings (r : Restored) : Settings where
  configControl := r.blob.configControl
  addresses := r.blob.addresses
  domainName := (r.blob.domainText.length, r.blob.domainText)
  hostname := (r.blob.hostnameText.length, r.blob.hostnameText)
  selectAcd := r.selectAcd

/-- With memory, everything is restored. -/
theorem restore_works (he : e.Works) (r : Restored) (u : CipTcpIpObject) :
    ∃ t, restore e r u = (true, t) ∧
      t.configControl = r.blob.configControl ∧ t.selectAcd = r.selectAcd ∧
      t.encapsulationInactivityTimeout = u.encapsulationInactivityTimeout ∧
      t.interfaceConfiguration.addresses = r.blob.addresses ∧
      t.interfaceConfiguration.domainName =
        (restoreText true r.blob.domainText u.interfaceConfiguration.domainName).2 ∧
      t.hostname = (restoreText true r.blob.hostnameText u.hostname).2 := by
  have hdomain := (restoreText_works r.blob.domainText u.interfaceConfiguration.domainName).1
  have hhostname := (restoreText_works r.blob.hostnameText u.hostname).1
  unfold restore
  dsimp only [restoreFields]
  rw [he.domainAlloc, he.hostnameAlloc, hdomain, hhostname, if_neg Bool.true_eq_false.mp]
  exact ⟨_, rfl, rfl, rfl, rfl, rfl, rfl, rfl⟩

/-- The end of a load leaves a configuration that passes the check as it is, and stores it if the
format is the old one. -/
theorem finishLoad_configured {t : CipTcpIpObject}
    (hc : Configured t.configControl t.interfaceConfiguration) (e : LoadEnv) (r : Restored)
    (nvs : Option NvData) :
    ∃ t', finishLoad e r t nvs = (t',
        if r.legacy = true then (nvTcpipStore e.upgradeWrite t' nvs).2 else nvs) ∧
      t' = { t with status := markApplied t.status } := by
  have hkept : ¬(method t.configControl = kTcpipCfgCtrlStaticIp ∧
      cipTcpIpIsValidNetworkConfig t.interfaceConfiguration = false) := by
    rintro ⟨hm, hv⟩
    rcases hc with h | ⟨-, h⟩
    · rw [hm] at h
      exact absurd h static_ne_dhcp
    · rw [hv] at h
      cases h
  unfold finishLoad
  dsimp only
  rw [if_neg hkept, if_neg hkept]
  exact ⟨_, rfl, rfl⟩

/-- A load of a configuration that passes the check restores it field by field, and stores what
it restored if the format is the old one. -/
theorem load_works (he : e.Works) (hr : checkBlob d = some r)
    (hc : Configured r.blob.configControl r.blob.addresses) (u : CipTcpIpObject) :
    ∃ t, nvTcpipLoad e u (some d) = (true, t,
        if r.legacy = true then (nvTcpipStore e.upgradeWrite t (some d)).2 else some d) ∧
      t.configControl = r.blob.configControl ∧ t.selectAcd = r.selectAcd ∧
      t.interfaceConfiguration.addresses = r.blob.addresses ∧
      t.interfaceConfiguration.domainName =
        (restoreText true r.blob.domainText u.interfaceConfiguration.domainName).2 ∧
      t.hostname = (restoreText true r.blob.hostnameText u.hostname).2 := by
  obtain ⟨t, hrestore, hcc, hacd, -, haddr, hdomain, hhostname⟩ := restore_works he r u
  have hconfigured : Configured t.configControl t.interfaceConfiguration := by
    rw [← haddr, ← hcc] at hc
    exact hc
  obtain ⟨t', hfinish, rfl⟩ := finishLoad_configured hconfigured e r (some d)
  refine ⟨{ t with status := markApplied t.status }, ?_, hcc, hacd, haddr, hdomain, hhostname⟩
  rw [nvTcpipLoad, if_neg (by simp [he.readable]), Option.bind_some, hr]
  dsimp only
  rw [hrestore, if_neg Bool.true_eq_false.mp, hfinish]

/-- **What a load restores**: the settings that are stored, if and only if both strings of the
target take what is stored for them. -/
theorem load_settings_iff (he : e.Works) (hr : checkBlob d = some r)
    (hc : Configured r.blob.configControl r.blob.addresses) (u : CipTcpIpObject) :
    (nvTcpipLoad e u (some d)).2.1.settings = r.settings ↔
      u.interfaceConfiguration.domainName.Takes r.blob.domainText.length ∧
        u.hostname.Takes r.blob.hostnameText.length := by
  obtain ⟨t, hload, hcc, hacd, haddr, hdomain, hhostname⟩ := load_works he hr hc u
  rw [hload, ← (restoreText_works r.blob.domainText _).2, ← (restoreText_works _ u.hostname).2,
    ← hdomain, ← hhostname]
  simp only [CipTcpIpObject.settings, Restored.settings, Settings.mk.injEq, hcc, hacd, haddr,
    true_and, and_true]

/-! ## 4. What is stored -/

variable {t t' : CipTcpIpObject} {b : TcpipNvBlob}

/-- The bytes stored for a string that fits are its own. -/
theorem storedText_fits {s : CipString} {max : Nat} (hmax : s.length ≤ max)
    (hs : s.length ≠ 0 → s.string ≠ none) :
    s.persisted max = s.string.getD [] ∧ (s.string.getD []).length = s.length := by
  have hlen : s.storedLength max = s.length := Nat.min_eq_left hmax
  rw [CipString.persisted, CipString.storedBytes, hlen, Nat.min_eq_left hmax]
  cases hstr : s.string with
  | none =>
    have h0 : s.length = 0 := by
      by_contra hne
      exact hs hne hstr
    rw [h0]
    exact ⟨rfl, rfl⟩
  | some data =>
    have hdata := s.sized data hstr
    dsimp only [Option.getD_some]
    rw [List.take_of_length_le (Nat.le_of_eq hdata), List.take_append_of_le_length
      (Nat.le_of_eq hdata.symm), List.take_of_length_le (Nat.le_of_eq hdata)]
    exact ⟨rfl, hdata⟩

/-- The image of an object that can be stored holds its settings. -/
theorem toNvData_settings (h : t.Storable) :
    ∃ r, checkBlob t.toNvData = some r ∧ r.legacy = false ∧ r.settings = t.settings ∧
      Configured r.blob.configControl r.blob.addresses ∧
      r.blob.domainText.length = t.interfaceConfiguration.domainName.length ∧
      r.blob.hostnameText.length = t.hostname.length := by
  obtain ⟨hdomain, hdomainLength⟩ := storedText_fits h.domainLength h.domainString
  obtain ⟨hhostname, hhostnameLength⟩ := storedText_fits h.hostnameLength h.hostnameString
  have hd : t.toBlob.domainText = t.interfaceConfiguration.domainName.string.getD [] := hdomain
  have hh : t.toBlob.hostnameText = t.hostname.string.getD [] := hhostname
  refine ⟨⟨t.toBlob, t.selectAcd, false⟩, checkBlob_toNvData t, rfl, ?_, h.configured, ?_, ?_⟩
  · simp only [Restored.settings, CipTcpIpObject.settings, CipString.text, hd, hh,
      hdomainLength, hhostnameLength]
    rfl
  · rw [hd, hdomainLength]
  · rw [hh, hhostnameLength]

/-- A blob with such content has its texts as they are. -/
theorem TcpipNvBlob.Storable.settings (h : b.Storable) :
    (⟨b, false, true⟩ : Restored).settings = b.settings false ∧
      b.domainText.length = b.domainLength ∧ b.hostnameText.length = b.hostnameLength := by
  have hdomain : b.domainText = b.domain.take b.domainLength := by
    rw [TcpipNvBlob.domainText, Nat.min_eq_left h.domainLength]
  have hhostname : b.hostnameText = b.hostname.take b.hostnameLength := by
    rw [TcpipNvBlob.hostnameText, Nat.min_eq_left h.hostnameLength]
  have hdomainLength : b.domainText.length = b.domainLength := by
    rw [hdomain, List.length_take, b.domain_size, Nat.min_eq_left h.domainLength]
  have hhostnameLength : b.hostnameText.length = b.hostnameLength := by
    rw [hhostname, List.length_take, b.hostname_size, Nat.min_eq_left h.hostnameLength]
  refine ⟨?_, hdomainLength, hhostnameLength⟩
  simp only [Restored.settings, TcpipNvBlob.settings, hdomainLength, hhostnameLength, ← hdomain,
    ← hhostname]

/-- An object that has the settings of such a blob can be stored. -/
theorem CipTcpIpObject.Storable.of_blob (h : b.Storable)
    (hs : t.settings = b.settings false) : t.Storable := by
  obtain ⟨-, hdomain, hhostname⟩ := h.settings
  have hd : b.domain.take b.domainLength = b.domainText := by
    rw [TcpipNvBlob.domainText, Nat.min_eq_left h.domainLength]
  have hh : b.hostname.take b.hostnameLength = b.hostnameText := by
    rw [TcpipNvBlob.hostnameText, Nat.min_eq_left h.hostnameLength]
  simp only [CipTcpIpObject.settings, TcpipNvBlob.settings, Settings.mk.injEq, hd, hh] at hs
  obtain ⟨hcc, haddr, hdtext, hhtext, -⟩ := hs
  have hdlen : t.interfaceConfiguration.domainName.length = b.domainLength :=
    congrArg Prod.fst hdtext
  have hhlen : t.hostname.length = b.hostnameLength := congrArg Prod.fst hhtext
  refine ⟨?_, ?_, ?_, ?_, ?_⟩
  · rw [hdlen]
    exact h.domainLength
  · rw [hhlen]
    exact h.hostnameLength
  · exact CipString.string_of_text (by rw [hdtext, hdomain])
  · exact CipString.string_of_text (by rw [hhtext, hhostname])
  · have hc := h.configured
    rw [← hcc, ← haddr] at hc
    exact hc

/-! ## 5. The round trip -/

/-- A load of what was stored. -/
theorem stored_load_settings_iff {w : NvWrite} (he : e.Works) (hw : w ≠ .refused)
    (ht : t.Storable) (u : CipTcpIpObject) (nvs : Option NvData) :
    (nvTcpipLoad e u (nvTcpipStore w t nvs).2).2.1.settings = t.settings ↔
      u.interfaceConfiguration.domainName.Takes t.interfaceConfiguration.domainName.length ∧
        u.hostname.Takes t.hostname.length := by
  obtain ⟨r, hr, -, hsame, hc, hdomain, hhostname⟩ := toNvData_settings ht
  rw [nvTcpipStore_lands hw, ← hsame, ← hdomain, ← hhostname]
  exact load_settings_iff he hr hc u

/-- A blob of the old format: the load gives its settings, writes them in the new format, and a
second load gives the same again. -/
def Upgrades (e e' : LoadEnv) (u u' : CipTcpIpObject) (b : TcpipNvBlob) : Prop :=
  let first := (nvTcpipLoad e u (some (.v1 1 b))).2
  first.1.settings = b.settings false ∧
    (∃ blob selectAcd, first.2 = some (.v2 2 blob selectAcd)) ∧
    (nvTcpipLoad e' u' first.2).2.1.settings = first.1.settings

theorem upgrades_iff {e' : LoadEnv} (he : e.Works) (hw : e.upgradeWrite ≠ .refused)
    (he' : e'.Works) (hb : b.Storable) (u u' : CipTcpIpObject) :
    Upgrades e e' u u' b ↔
      (u.interfaceConfiguration.domainName.Takes b.domainLength ∧
        u.hostname.Takes b.hostnameLength) ∧
      (u'.interfaceConfiguration.domainName.Takes b.domainLength ∧
        u'.hostname.Takes b.hostnameLength) := by
  obtain ⟨hsettings, hdomain, hhostname⟩ := hb.settings
  have hr : checkBlob (.v1 1 b) = some ⟨b, false, true⟩ := rfl
  have hfirst := load_settings_iff he hr hb.configured u
  rw [hsettings, hdomain, hhostname] at hfirst
  rw [Upgrades, hfirst]
  refine and_congr_right fun htakes => ?_
  -- the first load went right, and what it left is stored
  obtain ⟨t, hload, -⟩ := load_works he hr hb.configured u
  rw [← hfirst] at htakes
  rw [hload] at htakes ⊢
  dsimp only at htakes ⊢
  rw [if_pos rfl, htakes]
  have hlengths : t.interfaceConfiguration.domainName.length = b.domainLength ∧
      t.hostname.length = b.hostnameLength :=
    ⟨congrArg (fun s => s.domainName.1) htakes, congrArg (fun s => s.hostname.1) htakes⟩
  have hsecond := stored_load_settings_iff he' hw (.of_blob hb htakes) u'
    (some (.v1 1 b))
  rw [htakes, hlengths.1, hlengths.2] at hsecond
  rw [hsecond]
  constructor
  · rintro ⟨-, h⟩
    exact h
  · intro h
    exact ⟨⟨_, _, nvTcpipStore_lands hw _ _⟩, h⟩

/-- **The round trip**: what is stored comes back from a load into another object, and a blob of
the old format survives its upgrade, if and only if the strings of the targets take what is stored
for them. -/
theorem nvTcpip_roundTrip_iff (e e' : LoadEnv) (he : e.Works)
    (hw : e.upgradeWrite ≠ .refused) (he' : e'.Works) (u u' : CipTcpIpObject) :
    (∀ (t : CipTcpIpObject) (w : NvWrite) (nvs : Option NvData), t.Storable → w ≠ .refused →
      ((nvTcpipLoad e u (nvTcpipStore w t nvs).2).2.1.settings = t.settings ↔
        u.interfaceConfiguration.domainName.Takes t.interfaceConfiguration.domainName.length ∧
          u.hostname.Takes t.hostname.length)) ∧
    ∀ b : TcpipNvBlob, b.Storable →
      (Upgrades e e' u u' b ↔
        (u.interfaceConfiguration.domainName.Takes b.domainLength ∧
          u.hostname.Takes b.hostnameLength) ∧
        (u'.interfaceConfiguration.domainName.Takes b.domainLength ∧
          u'.hostname.Takes b.hostnameLength)) := by
  constructor
  · intro t w nvs ht hlands
    exact stored_load_settings_iff he hlands ht u nvs
  · intro b hb
    exact upgrades_iff he hw he' hb u u'

/-- Everything works. -/
def loadEnv : LoadEnv := ⟨true, true, true, .ok, .ok⟩

theorem loadEnv_works : loadEnv.Works := ⟨rfl, rfl, rfl⟩

/-- An object as the stop of the stack leaves it: the host name `eip` freed. -/
def stoppedObject : CipTcpIpObject :=
  shutdownTcpIpInterface
    { CipTcpIpObject.default with hostname := (setCipStringByData true (ascii "eip") .empty).2 }

theorem default_storable : CipTcpIpObject.default.Storable :=
  ⟨by decide, by decide, by decide, by decide, Or.inl rfl⟩

/-- A static configuration with both names and ACD: 192.168.1.5/24, 8.8.8.8, `press` in
`plant.net`. -/
def namedObject : CipTcpIpObject :=
  { CipTcpIpObject.default with
    configControl := 0
    interfaceConfiguration := ⟨0x0501A8C0, 0x00FFFFFF, 0x0101A8C0, 0x08080808, 0,
      (setCipStringByData true (ascii "plant.net") .empty).2⟩
    hostname := (setCipStringByData true (ascii "press") .empty).2
    selectAcd := true }

/-- An object in use: an address from DHCP, and names of its own. -/
def usedObject : CipTcpIpObject :=
  { CipTcpIpObject.default with
    interfaceConfiguration := ⟨0x0601A8C0, 0x00FFFFFF, 0x0101A8C0, 0, 0,
      (setCipStringByData true (ascii "lab") .empty).2⟩
    hostname := (setCipStringByData true (ascii "eip") .empty).2 }

theorem namedObject_storable : namedObject.Storable :=
  ⟨by decide, by decide, by decide, by decide, Or.inr (by decide)⟩

/-- Loaded into the object in use everything comes back; and so it does from the old format, here
into that object and then into one whose host name was freed. -/
theorem roundTrip_named :
    (nvTcpipLoad loadEnv usedObject (nvTcpipStore .ok namedObject none).2).2.1.settings =
        namedObject.settings ∧
      Upgrades loadEnv loadEnv usedObject stoppedObject namedObject.toBlob := by
  have htrip := nvTcpip_roundTrip_iff loadEnv loadEnv loadEnv_works (by decide) loadEnv_works
    usedObject stoppedObject
  have hblob : namedObject.toBlob.Storable := ⟨by decide, by decide, Or.inr (by decide)⟩
  exact ⟨(htrip.1 namedObject .ok none namedObject_storable (by decide)).2 (by decide),
    (htrip.2 namedObject.toBlob hblob).2 (by decide)⟩

/-- An empty host name, loaded over one that was freed, has its length of 3. -/
theorem roundTrip_stale :
    ¬∀ (t u : CipTcpIpObject), t.Storable →
      (nvTcpipLoad loadEnv u (nvTcpipStore .ok t none).2).2.1.settings = t.settings := by
  intro hall
  have hsame := hall .default stoppedObject default_storable
  exact absurd hsame (by decide)

end GroundTruth.Tcpip
