/-
# Get_Attribute_All against Get_Attribute_Single

For every table, what `GetAttributeAll` answers is one encoding after the other, in ascending
order; and the answer of `GetAttributeSingle` is the same encoding where the attribute is not
refreshed by a callback and does not go by its place in the message.  The Ethernet Link object,
whose counters are refreshed by callbacks, has a service of its own that calls them.  Neither looks
for the end of the 512 bytes that a message has; the Ethernet Link object does not come to it.

* `stated_fails`: four tables on which the two services do not agree to the letter;
* `getAttributeAll_concatenates`: what holds of every table, and of the Ethernet Link object.
-/
import GroundTruth.Cip.Connections
import GroundTruth.Cip.EthernetLink

namespace GroundTruth.Cip

open GroundTruth.Lib

/-! ## 1. To the letter -/

/-- `EncodeCipString`: a byte is added if the message is of odd length then. -/
def encodeCipString (string : Bytes) (length : Nat) : Bytes :=
  le16 (UInt16.ofNat string.length) ++
    if string.length = 0 then []
    else string ++ if (length + 2 + string.length) % 2 = 1 then [0] else []

variable {σ : Type}

/-- An attribute of the instance is flagged. -/
def flaggedHere (ins : List (Insertion σ)) (k : Nat) (flag : Insertion σ → Bool) (n : UInt16) :
    Bool :=
  ins.any fun i => decide (i.place = k) && decide (i.attributeNumber = n) && flag i

/-- The two services agree on a table to the letter: exactly the attributes of the instance that
are flagged for `GetAttributeAll` are in its answer, and those that are flagged for
`GetAttributeSingle` too are what it answers in the same state. -/
def AgreesToTheLetter (numberOfAttributes : Nat) (highest : UInt16) (instances : List UInt16)
    (ops : List (TableOp σ)) (k : Nat) (s : σ) : Prop :=
  ∀ c inst service fuel r,
    exec tableStep (CipClass.create numberOfAttributes highest instances) ops = some c →
    c.instances[k]? = some inst → getAttributeAll c inst service fuel s = some r →
    ∃ ps : List (UInt16 × Bytes), r.message = joined ps ∧
      ps.map Prod.fst = ((List.range (highest.toNat + 1)).map UInt16.ofNat).filter
        (flaggedHere (insertions ops) k Insertion.toAll) ∧
      ∀ p ∈ ps, flaggedHere (insertions ops) k Insertion.toSingle p.1 = true →
        (getAttributeSingle c inst service p.1 s).1.message = p.2

/-- Where what is flagged for the one is flagged for the other, the answer of the one is made of the
answers of the other; if it is not, the services do not agree. -/
theorem disagrees {numberOfAttributes k : Nat} {highest : UInt16} {instances : List UInt16}
    {ops : List (TableOp σ)} {s : σ} {c : CipClass σ} {inst : CipInstance σ}
    {r : CipMessageRouterResponse} (service : UInt8) (fuel : Nat)
    (hbuild : exec tableStep (CipClass.create numberOfAttributes highest instances) ops = some c)
    (hinst : c.instances[k]? = some inst) (hr : getAttributeAll c inst service fuel s = some r)
    (hboth : (((List.range (highest.toNat + 1)).map UInt16.ofNat).filter
      (flaggedHere (insertions ops) k Insertion.toAll)).all
        (flaggedHere (insertions ops) k Insertion.toSingle) = true)
    (hmessage : r.message ≠ (((List.range (highest.toNat + 1)).map UInt16.ofNat).filter
      (flaggedHere (insertions ops) k Insertion.toAll)).flatMap
        fun n => (getAttributeSingle c inst service n s).1.message) :
    ¬AgreesToTheLetter numberOfAttributes highest instances ops k s := by
  intro h
  obtain ⟨ps, hjoined, hnumbers, hsingle⟩ := h c inst service fuel r hbuild hinst hr
  refine hmessage ?_
  rw [hjoined, ← hnumbers, joined, List.flatMap_map, List.flatMap_def]
  congr 1
  refine List.map_congr_left fun p hp => (hsingle p hp (List.all_eq_true.mp hboth _ ?_)).symm
  rw [← hnumbers]
  exact List.mem_map_of_mem hp

/-- An attribute that a callback sets to 1 before it is read. -/
def benchRefreshed : List (TableOp UInt8) :=
  [.insert ⟨0, 1, kGetableSingleAndAll ||| kPreGetFunc, fun s _ => [s]⟩, .preGet fun _ _ _ _ => 1]

/-- Two instances, of which the first has the attribute flagged for both services. -/
def benchShared : List (TableOp UInt8) :=
  [.insert ⟨0, 1, kGetableSingleAndAll, fun s _ => [s]⟩,
    .insert ⟨1, 1, kGetableSingle, fun s _ => [s]⟩]

/-- A string behind a single byte. -/
def benchOdd : List (TableOp UInt8) :=
  [.insert ⟨0, 1, kGetableSingleAndAll, fun s _ => [s]⟩,
    .insert ⟨0, 2, kGetableSingleAndAll, fun _ => encodeCipString [97]⟩]

/-- An attribute with the number 0. -/
def benchZeroth : List (TableOp UInt8) := [.insert ⟨0, 0, kGetableSingleAndAll, fun s _ => [s]⟩]

/-- On none of these tables do the services agree to the letter. -/
theorem stated_fails :
    ¬AgreesToTheLetter 1 1 [1] benchRefreshed 0 0 ∧ ¬AgreesToTheLetter 1 1 [1, 2] benchShared 1 0 ∧
      ¬AgreesToTheLetter 2 2 [1] benchOdd 0 0 ∧ ¬AgreesToTheLetter 1 1 [1] benchZeroth 0 0 := by
  refine ⟨?_, ?_, ?_, ?_⟩
  · exact disagrees kGetAttributeAll 3 rfl rfl rfl (by decide) (by decide)
  · exact disagrees kGetAttributeAll 3 rfl rfl rfl (by decide) (by decide)
  · exact disagrees kGetAttributeAll 3 rfl rfl rfl (by decide) (by decide)
  · exact disagrees kGetAttributeAll 3 rfl rfl rfl (by decide) (by decide)

/-! ## 2. The Ethernet Link object -/

/-- The same for a service that calls the callbacks: every attribute is encoded as its own callback
leaves it, at whatever place, and what can be read alone is what `GetAttributeSingle` answers.  And
all of them fit into the buffer. -/
def AgreesRefreshed (c : CipClass σ) (inst : CipInstance σ) (ins : List (Insertion σ)) (k : Nat)
    (s : σ) (message : Bytes) : Prop :=
  message.length ≤ messageBufferSize ∧ ∃ ps : List (UInt16 × Bytes), message = joined ps ∧
    ps.map Prod.fst = (numbers c.highestAttributeNumber).filter (fun n =>
      decide (ForAll ins n) && (firstAt ins k n).isSome) ∧
    ∀ p ∈ ps, ∃ i a, firstAt ins k p.1 = some i ∧ getCipAttribute inst p.1 = some a ∧
      p.2 = i.encode (runCallback kPreGetFunc c.preGetCallback inst a kGetAttributeAll s) 0 ∧
      (ForSingle ins p.1 → ∀ service,
        (getAttributeSingle c inst service p.1 s).1 = ⟨0x80 ||| service, .success, p.2⟩)

/-- The eleven pieces of the answer. -/
def ethernetLinkPieces (e : EthernetLink) : List (UInt16 × Bytes) :=
  [(1, le32 e.object.interfaceSpeed), (2, le32 e.object.interfaceFlags),
    (3, e.object.physicalAddress), (4, encodeInterfaceCounters e.counters),
    (5, (List.replicate 12 0).flatMap le32), (6, encodeInterfaceControl),
    (7, [e.object.interfaceType]), (8, [e.interfaceState]), (9, [0]),
    (10, encodeCipShortString e.object.interfaceLabel), (11, encodeInterfaceCaps e.object)]

theorem ethernetLink_joined (n : UInt16) (e : EthernetLink) :
    (ethernetLinkService kGetAttributeAll n e).1.message = joined (ethernetLinkPieces e) := by
  have hloop : (ethernetLinkService kGetAttributeAll n e).1.message =
      (ethernetLinkPieces e).foldl (fun message p => message ++ p.2) [] := rfl
  rw [hloop]
  simp only [joined, ethernetLinkPieces, List.foldl_cons, List.foldl_nil, List.nil_append,
    List.append_assoc, List.map_cons, List.map_nil, List.flatten_cons, List.flatten_nil,
    List.append_nil]

/-- Three bytes for each of the modes that are selected, of which the table has six. -/
theorem length_encodeInterfaceCaps (o : CipEthernetLinkObject) :
    (encodeInterfaceCaps o).length ≤ 23 := by
  have hmodes (modes : List ((UInt16 × UInt8) × Nat)) :
      (modes.flatMap fun x => le16 x.1.1 ++ [x.1.2]).length = 3 * modes.length := by
    induction modes with
    | nil => rfl
    | cons x modes ih =>
      rw [List.flatMap_cons, List.length_append, ih, List.length_cons]
      change 3 + 3 * modes.length = _
      omega
  have hselected := List.length_filter_le (fun x : (UInt16 × UInt8) × Nat =>
    decide (o.speedDuplexSelector &&& (1 <<< UInt16.ofNat x.2) ≠ 0)) speedDuplexTable.zipIdx
  have htable : speedDuplexTable.zipIdx.length = 6 := rfl
  rw [encodeInterfaceCaps, List.length_append, hmodes]
  change 5 + _ ≤ 23
  omega

/-- Only the label can be long, and its length is a byte. -/
theorem ethernetLink_fits (e : EthernetLink) :
    (joined (ethernetLinkPieces e)).length ≤ messageBufferSize := by
  have hlabel := e.object.label_size
  have haddress := e.object.address_size
  have hcaps := length_encodeInterfaceCaps e.object
  have hlength : (joined (ethernetLinkPieces e)).length = 4 + (4 + (e.object.physicalAddress.length +
      (44 + (48 + (4 + (1 + (1 + (1 + (e.object.interfaceLabel.length + 1 +
        (encodeInterfaceCaps e.object).length))))))))) := by
    rw [joined, List.length_flatten]
    rfl
  rw [hlength, messageBufferSize]
  omega

/-- **The service of the Ethernet Link object** agrees with `GetAttributeSingle`. -/
theorem ethernetLink_agrees (n : UInt16) (e : EthernetLink) :
    AgreesRefreshed ethernetLinkClass ethernetLinkInstance ethernetLinkAttributes 0 e
      (ethernetLinkService kGetAttributeAll n e).1.message := by
  rw [ethernetLink_joined]
  refine ⟨ethernetLink_fits e, ethernetLinkPieces e, rfl, ?_, ?_⟩
  · have hnumbers : (ethernetLinkPieces e).map Prod.fst = numbers 11 := rfl
    rw [hnumbers]
    rfl
  · intro p hp
    obtain ⟨i, a, hi, ha, hpiece⟩ : ∃ i a, firstAt ethernetLinkAttributes 0 p.1 = some i ∧
        getCipAttribute ethernetLinkInstance p.1 = some a ∧ p.2 = i.encode (runCallback kPreGetFunc
          ethernetLinkClass.preGetCallback ethernetLinkInstance a kGetAttributeAll e) 0 := by
      simp only [ethernetLinkPieces, List.mem_cons, List.not_mem_nil, or_false] at hp
      rcases hp with rfl | rfl | rfl | rfl | rfl | rfl | rfl | rfl | rfl | rfl | rfl <;>
        exact ⟨_, _, rfl, rfl, rfl⟩
    refine ⟨i, a, hi, ha, hpiece, fun hsingle service => ?_⟩
    -- the callback before the reading does not look at the service
    have hservice : runCallback kPreGetFunc ethernetLinkClass.preGetCallback ethernetLinkInstance a
        service e = runCallback kPreGetFunc ethernetLinkClass.preGetCallback ethernetLinkInstance a
          kGetAttributeAll e := rfl
    rw [ethernetLinkClass_built.getAttributeSingle_eq ethernetLinkClass_instance hi ha hsingle,
      hservice, ← hpiece]

/-! ## 3. The connection manager, whose numbers have a gap -/

/-- What the attributes of the connection manager show. -/
structure ConnectionManagerObject where
  stack : Stack
  cpuUtilization : UInt16
  maxBuffSize : UInt16
  buffSizeRemaining : UInt16

/-- `EncodeConnectionEntryList`: how many connections are established, and as many bits. -/
def encodeConnectionEntryList (s : Stack) : Bytes :=
  let established := s.connectionList.filter fun x =>
    decide ((s.connectionData x).state = .established)
  let entries := established.length % 0x10000
  le16 (UInt16.ofNat entries) ++
    (List.range entries).foldl (fun bits i => maskAdd i bits) (List.replicate ((entries + 7) / 8) 0)

/-- The instance attributes that `InitializeConnectionManager` inserts. -/
def connectionManagerAttributes : List (Insertion ConnectionManagerObject) :=
  [⟨0, 1, kGetableSingleAndAll, fun s _ => le16 s.stack.statistics.openRequests⟩,
    ⟨0, 2, kGetableSingleAndAll, fun s _ => le16 s.stack.statistics.openFormatRejects⟩,
    ⟨0, 3, kGetableSingleAndAll, fun s _ => le16 s.stack.statistics.openResourceRejects⟩,
    ⟨0, 4, kGetableSingleAndAll, fun s _ => le16 s.stack.statistics.openOtherRejects⟩,
    ⟨0, 5, kGetableSingleAndAll, fun s _ => le16 s.stack.statistics.closeRequests⟩,
    ⟨0, 6, kGetableSingleAndAll, fun s _ => le16 s.stack.statistics.closeFormatRequests⟩,
    ⟨0, 7, kGetableSingleAndAll, fun s _ => le16 s.stack.statistics.closeOtherRequests⟩,
    ⟨0, 8, kGetableSingleAndAll, fun s _ => le16 s.stack.statistics.connectionTimeouts⟩,
    ⟨0, 9, kGetableSingleAndAll, fun s _ => encodeConnectionEntryList s.stack⟩,
    ⟨0, 11, kGetableSingleAndAll, fun s _ => le16 s.cpuUtilization⟩,
    ⟨0, 12, kGetableSingleAndAll, fun s _ => le16 s.maxBuffSize⟩,
    ⟨0, 13, kGetableSingleAndAll, fun s _ => le16 s.buffSizeRemaining⟩]

/-- The class that `ConnectionManagerInit` makes: 13 attributes, the highest number 14, one
instance. -/
def connectionManagerInit : Option (CipClass ConnectionManagerObject) :=
  exec tableStep (CipClass.create 13 14 [1]) (connectionManagerAttributes.map .insert)

theorem connectionManagerInit_isSome : connectionManagerInit.isSome = true := rfl

def connectionManagerClass : CipClass ConnectionManagerObject :=
  connectionManagerInit.get connectionManagerInit_isSome

def connectionManagerInstance : CipInstance ConnectionManagerObject where
  instanceNumber := 1
  attributes := (connectionManagerAttributes.map fun i =>
    ⟨i.attributeNumber, i.cipFlags, some i.encode⟩) ++ [.free]

theorem connectionManagerClass_build :
    exec tableStep (CipClass.create 13 14 [1]) (connectionManagerAttributes.map .insert) =
      some connectionManagerClass :=
  (Option.some_get connectionManagerInit_isSome).symm

theorem connectionManagerClass_instance :
    connectionManagerClass.instances[0]? = some connectionManagerInstance := rfl

/-- **The connection manager** answers with its twelve attributes, each as it is read alone. -/
theorem connectionManager_getAll (service : UInt8) {s : ConnectionManagerObject}
    (hfits : InBuffer connectionManagerClass connectionManagerAttributes 0 s) :
    ∃ r, getAttributeAll connectionManagerClass connectionManagerInstance service 15 s = some r ∧
      r.message = [1, 2, 3, 4, 5, 6, 7, 8, 9, 11, 12, 13].flatMap fun n =>
        (getAttributeSingle connectionManagerClass connectionManagerInstance service n
          s).1.message := by
  have hb : Built connectionManagerClass connectionManagerAttributes :=
    built_of_exec connectionManagerClass_build
  have hhigh : connectionManagerClass.highestAttributeNumber.toNat < 15 := by decide
  obtain ⟨r, hr, hagrees⟩ :=
    hb.getAttributeAll_agrees connectionManagerClass_instance (by decide) hhigh service hfits
  have hsingle : ∀ i ∈ connectionManagerAttributes, i.toSingle = true := by decide
  have hplace : ∀ i ∈ connectionManagerAttributes, ∀ length,
      i.encode s length = i.encode s 0 := by
    simp [connectionManagerAttributes]
  refine ⟨r, hr, hagrees.singles ?_ ?_ ?_⟩
  · rintro n ⟨i, hi, hn, -⟩
    exact ⟨i, hi, hn, hsingle i hi⟩
  · rintro n ⟨a, -, -, hcallback⟩
    exact hcallback rfl
  · intro n i length hi
    exact hplace i (List.mem_of_mem_filter (List.mem_of_find?_eq_some hi)) length

/-! ## 4. Every table -/

/-- **What `GetAttributeAll` answers.**  For every table that is made by insertions, with or without
gaps, and every state whose encodings fit into the buffer: the encodings one after the other, and
those of `GetAttributeSingle`.  And the service of the Ethernet Link object calls the callbacks
besides. -/
theorem getAttributeAll_concatenates {numberOfAttributes k fuel : Nat} {highest : UInt16}
    {instances : List UInt16} {ops : List (TableOp σ)} {c : CipClass σ} {inst : CipInstance σ}
    (hbuild : exec tableStep (CipClass.create numberOfAttributes highest instances) ops = some c)
    (hinst : c.instances[k]? = some inst) (hhigh : c.highestAttributeNumber.toNat < 65535)
    (hfuel : c.highestAttributeNumber.toNat < fuel) (service : UInt8) {s : σ}
    (hfits : InBuffer c (insertions ops) k s) :
    (∃ r, getAttributeAll c inst service fuel s = some r ∧
      AgreesWithSingle c inst (insertions ops) k s r.message) ∧
    ∀ n e, AgreesRefreshed ethernetLinkClass ethernetLinkInstance ethernetLinkAttributes 0 e
      (ethernetLinkService kGetAttributeAll n e).1.message :=
  ⟨(built_of_exec hbuild).getAttributeAll_agrees hinst hhigh hfuel service hfits,
    fun n e => ethernetLink_agrees n e⟩

theorem getAttributeAll_concatenates_gap :
    ∃ r, getAttributeAll connectionManagerClass connectionManagerInstance kGetAttributeAll 15
        ⟨.init, 0, 0, 0⟩ = some r ∧
      AgreesWithSingle connectionManagerClass connectionManagerInstance connectionManagerAttributes
        0 ⟨.init, 0, 0, 0⟩ r.message :=
  (getAttributeAll_concatenates connectionManagerClass_build connectionManagerClass_instance
    (by decide) (by decide) kGetAttributeAll (by decide)).1

end GroundTruth.Cip
