/-
# The connection list in memory

`connection_list` is a doubly linked list (`doublylinkedlist.c`) whose nodes come from a static
array of `kNodesAmount` (`CipConnectionObjectListArrayAllocator`); a node is free if all of it is
NULL, and freeing zeroes it.  The rest of the model has the list of the connections instead.  Here
are the functions as they are, with the links they read and write.

* `insertAtHead_eq` to `removeNode_eq`, `destroy_holds`: each function is a splice, an unlinking, or
  frees the whole list, whatever the place;
* `Represents.step`: one call does to the memory what it is for, and fails when the list is full or
  has been destroyed, which takes its allocator away;
* `connection_list`: in every run of calls the memory has, forwards and backwards, the list that
  `Cip/Manager` and `Cip/Close` keep (`addNewActiveConnection_list`, `release_list`).
-/
import GroundTruth.Lib.Doubly
import GroundTruth.Cip.Manager

namespace GroundTruth.Cip

open GroundTruth.Lib GroundTruth.Lib.Doubly

/-! ## 1. `doublylinkedlist.c` -/

variable {ν δ : Type} [DecidableEq ν]

/-- `DoublyLinkedList`, with the nodes of the array; its `allocator` and its `deallocator` are set
together, and both are NULL after that. -/
structure DoublyLinkedList (ν δ : Type) where
  memory : Memory ν δ
  allocator : Bool

namespace DoublyLinkedList

/-- `DoublyLinkedListInitialize`, of a list whose nodes are all free. -/
def init : DoublyLinkedList ν δ := ⟨.init, true⟩

/-- The assertion that the list has its allocator, and then a function. -/
def asserting (f : Memory ν δ → Option (Memory ν δ)) (s : DoublyLinkedList ν δ) :
    Option (DoublyLinkedList ν δ) :=
  if s.allocator = true then (f s.memory).map fun m => { s with memory := m } else none

/-- `DoublyLinkedListNodeCreate`; `none` is a write through the NULL of the allocator. -/
def nodeCreate (pool : List ν) (data : δ) (m : Memory ν δ) : Option (ν × Memory ν δ) :=
  (m.alloc pool).map fun new => (new, m.set new { m.nodes new with data := some data })

/-- `DoublyLinkedListInsertAtHead`. -/
def insertAtHead (pool : List ν) (data : δ) (m : Memory ν δ) : Option (Memory ν δ) :=
  (nodeCreate pool data m).map fun (new, m) =>
    match m.first with
    | none => { m with first := some new, last := some new }
    | some first =>
      let m := m.set new { m.nodes new with next := some first }
      let m := m.set first { m.nodes first with previous := some new }
      { m with first := some new }

/-- `DoublyLinkedListInsertAtTail`. -/
def insertAtTail (pool : List ν) (data : δ) (m : Memory ν δ) : Option (Memory ν δ) :=
  (nodeCreate pool data m).map fun (new, m) =>
    match m.last with
    | none => { m with first := some new, last := some new }
    | some last =>
      let m := m.set new { m.nodes new with previous := some last }
      let m := m.set last { m.nodes last with next := some new }
      { m with last := some new }

/-- `DoublyLinkedListInsertBeforeNode`. -/
def insertBeforeNode (pool : List ν) (node : ν) (data : δ) (m : Memory ν δ) :
    Option (Memory ν δ) :=
  if m.first = some node then insertAtHead pool data m
  else
    (nodeCreate pool data m).bind fun (new, m) =>
      let m := m.set new { m.nodes new with previous := (m.nodes node).previous }
      let m := m.set new { m.nodes new with next := some node }
      let m := m.set node { m.nodes node with previous := some new }
      (m.nodes new).previous.map fun previous =>
        m.set previous { m.nodes previous with next := some new }

/-- `DoublyLinkedListInsertAfterNode`. -/
def insertAfterNode (pool : List ν) (node : ν) (data : δ) (m : Memory ν δ) :
    Option (Memory ν δ) :=
  if m.last = some node then insertAtTail pool data m
  else
    (nodeCreate pool data m).bind fun (new, m) =>
      let m := m.set new { m.nodes new with previous := some node }
      let m := m.set new { m.nodes new with next := (m.nodes node).next }
      (m.nodes node).next.map fun next =>
        let m := m.set next { m.nodes next with previous := some new }
        m.set node { m.nodes node with next := some new }

/-- `DoublyLinkedListRemoveNode`, with `CipConnectionObjectListArrayFree`. -/
def removeNode (node : ν) (m : Memory ν δ) : Memory ν δ :=
  let previous := (m.nodes node).previous
  let next := (m.nodes node).next
  let m :=
    if some node = m.first ∧ some node = m.last then { m with first := none, last := none }
    else
      let m := if some node = m.first then { m with first := next } else m
      let m := if some node = m.last then { m with last := previous } else m
      let m := previous.elim m fun previous => m.set previous { m.nodes previous with next := next }
      next.elim m fun next => m.set next { m.nodes next with previous := previous }
  m.set node .zero

/-- The loop of `DoublyLinkedListDestroy`, which reads the next node before it frees one. -/
def destroyFrom : Nat → Option ν → Memory ν δ → Option (Memory ν δ)
  | _, none, m => some m
  | 0, some _, _ => none
  | fuel + 1, some a, m => destroyFrom fuel (m.nodes a).next (m.set a .zero)

/-- `DoublyLinkedListDestroy`; the assertion is made for each node that is freed. -/
def destroy (fuel : Nat) (s : DoublyLinkedList ν δ) : Option (DoublyLinkedList ν δ) :=
  if s.memory.first.isSome = true ∧ s.allocator = false then none
  else
    (destroyFrom fuel s.memory.first s.memory).map fun m =>
      ⟨{ m with first := none, last := none }, false⟩

end DoublyLinkedList

open DoublyLinkedList

/-! ## 2. What they do to a list -/

variable {pool : List ν} {m m' : Memory ν δ} {l l₁ l₂ : List ν} {a b node : ν} {data : δ}
variable {before after : Option ν}

theorem nodeCreate_of_alloc (h : m.alloc pool = some a) :
    nodeCreate pool data m = some (a, m.set a { m.nodes a with data := some data }) := by
  rw [nodeCreate, h]
  rfl

/-- The new node goes in front of the head. -/
theorem insertAtHead_eq (h : Holds pool m l) (ha : m.alloc pool = some a) :
    insertAtHead pool data m = some (m.splice a data none l.head?) := by
  obtain ⟨hzero, hne⟩ := h.alloc_zero ha
  have hfirst := h.first
  simp only [insertAtHead, nodeCreate_of_alloc ha, Option.map_some, set_first, Option.some_inj]
  cases l with
  | nil =>
    rw [List.head?_nil] at hfirst ⊢
    rw [hfirst]
    ext1
    · funext b
      by_cases hba : b = a <;> simp [Memory.splice, hba, hzero, Node.zero]
    · simp [Memory.splice]
    · simp [Memory.splice]
  | cons c l =>
    have hca : c ≠ a := hne c List.mem_cons_self
    rw [List.head?_cons] at hfirst ⊢
    rw [hfirst]
    ext1
    · funext b
      by_cases hba : b = a
      · simp [Memory.splice, hba, hzero, Node.zero, hca, hca.symm]
      · by_cases hbc : b = c
        · simp [Memory.splice, hbc, hca]
        · simp [Memory.splice, hba, hbc, Ne.symm hbc]
    · simp [Memory.splice]
    · simp [Memory.splice]

/-- The new node goes behind the tail. -/
theorem insertAtTail_eq (h : Holds pool m l) (ha : m.alloc pool = some a) :
    insertAtTail pool data m = some (m.splice a data l.getLast? none) := by
  obtain ⟨hzero, hne⟩ := h.alloc_zero ha
  have hlast := h.last
  simp only [insertAtTail, nodeCreate_of_alloc ha, Option.map_some, set_last, Option.some_inj]
  cases hc : l.getLast? with
  | none =>
    rw [hc] at hlast
    rw [hlast]
    ext1
    · funext b
      by_cases hba : b = a <;> simp [Memory.splice, hba, hzero, Node.zero]
    · simp [Memory.splice]
    · simp [Memory.splice]
  | some c =>
    have hca : c ≠ a := hne c (List.mem_of_getLast? hc)
    rw [hc] at hlast
    rw [hlast]
    ext1
    · funext b
      by_cases hba : b = a
      · simp [Memory.splice, hba, hzero, Node.zero, hca, hca.symm]
      · by_cases hbc : b = c
        · simp [Memory.splice, hbc, hca]
        · simp [Memory.splice, hba, hbc, Ne.symm hbc]
    · simp [Memory.splice]
    · simp [Memory.splice]

/-- Between two nodes it does not matter which of their links is written first. -/
theorem splice_between {p n : ν} (hp : p ≠ a) (hn : n ≠ a) (hpn : p ≠ n) :
    m.splice a data (some p) (some n) =
      ((m.set a ⟨some p, some n, some data⟩).set n { m.nodes n with previous := some a }).set p
        { m.nodes p with next := some a } := by
  ext1
  · funext b
    by_cases hba : b = a
    · simp [Memory.splice, hba, hp, hn, hp.symm, hn.symm]
    · by_cases hbp : b = p
      · simp [Memory.splice, hbp, hp, hpn.symm]
      · by_cases hbn : b = n
        · simp [Memory.splice, hbn, hn, hpn, hpn.symm]
        · simp [Memory.splice, hba, hbp, hbn, Ne.symm hbp, Ne.symm hbn]
  · simp [Memory.splice]
  · simp [Memory.splice]

/-- The new node goes in front of a node of the list. -/
theorem insertBeforeNode_eq (h : Holds pool m (l₁ ++ node :: l₂)) (ha : m.alloc pool = some a) :
    insertBeforeNode pool node data m = some (m.splice a data l₁.getLast? (some node)) := by
  obtain ⟨hzero, hne⟩ := h.alloc_zero ha
  obtain ⟨hprevious, -, hfirst, -⟩ := h.neighbours
  have hnode : node ≠ a := hne node (by simp)
  rw [insertBeforeNode]
  by_cases hl : l₁ = []
  · rw [if_pos (hfirst.2 hl), insertAtHead_eq h ha, hl]
    rfl
  · rw [if_neg (mt hfirst.1 hl), nodeCreate_of_alloc ha]
    obtain ⟨p, hp⟩ := Option.ne_none_iff_exists'.1 (mt List.getLast?_eq_none_iff.1 hl)
    have hpl : p ∈ l₁ := List.mem_of_getLast? hp
    have hpa : p ≠ a := hne p (List.mem_append_left _ hpl)
    have hpn : p ≠ node := by
      rintro rfl
      exact List.disjoint_of_nodup_append h.nodup hpl List.mem_cons_self
    rw [hp, splice_between hpa hnode hpn]
    rw [hp] at hprevious
    simp [hzero, hprevious, hnode, hnode.symm, hpa, hpn, Node.zero]

/-- The new node goes behind a node of the list. -/
theorem insertAfterNode_eq (h : Holds pool m (l₁ ++ node :: l₂)) (ha : m.alloc pool = some a) :
    insertAfterNode pool node data m = some (m.splice a data (some node) l₂.head?) := by
  obtain ⟨hzero, hne⟩ := h.alloc_zero ha
  obtain ⟨-, hnext, -, hlast⟩ := h.neighbours
  have hnode : node ≠ a := hne node (by simp)
  rw [insertAfterNode]
  by_cases hl : l₂ = []
  · rw [if_pos (hlast.2 hl), insertAtTail_eq h ha, hl, List.getLast?_concat]
    rfl
  · rw [if_neg (mt hlast.1 hl), nodeCreate_of_alloc ha]
    obtain ⟨n, hn⟩ := Option.ne_none_iff_exists'.1 (mt List.head?_eq_none_iff.1 hl)
    have hnl : n ∈ l₂ := List.mem_of_head? hn
    have hna : n ≠ a := hne n (List.mem_append_right _ (List.mem_cons_of_mem node hnl))
    have hnn : node ≠ n := by
      rintro rfl
      exact (List.nodup_cons.1 (List.nodup_append.1 h.nodup).2.1).1 hnl
    rw [hn, splice_between hnode hna hnn]
    rw [hn] at hnext
    simp [hzero, hnext, hnode, hna, hnn, Node.zero]

/-- A node is taken out: an end that it was moves to its neighbour. -/
theorem removeNode_eq (h : Holds pool m (l₁ ++ node :: l₂)) :
    removeNode node m = m.unlink node := by
  obtain ⟨hprevious, hnext, hfirst, hlast⟩ := h.neighbours
  rw [← List.getLast?_eq_none_iff, ← hprevious] at hfirst
  rw [← List.head?_eq_none_iff, ← hnext] at hlast
  cases hp : (m.nodes node).previous with
  | none =>
    have hf : m.first = some node := hfirst.2 hp
    cases hn : (m.nodes node).next with
    | none => simp [removeNode, Memory.unlink, hp, hn, hf, hlast.2 hn, Memory.setNext,
        Memory.setPrevious]
    | some n =>
      have hl : some node ≠ m.last := by simp [eq_comm, hlast, hn]
      simp [removeNode, Memory.unlink, hp, hn, hf, hl, Memory.setNext, Memory.setPrevious]
  | some p =>
    have hf : some node ≠ m.first := by simp [eq_comm, hfirst, hp]
    cases hn : (m.nodes node).next with
    | none => simp [removeNode, Memory.unlink, hp, hn, hf, hlast.2 hn, Memory.setNext,
        Memory.setPrevious, Memory.set]
    | some n =>
      have hl : some node ≠ m.last := by simp [eq_comm, hlast, hn]
      simp [removeNode, Memory.unlink, hp, hn, hf, hl, Memory.setNext, Memory.setPrevious]

/-- The loop frees the nodes from its place on. -/
theorem destroyFrom_eq {fuel : Nat} (h : Linked m.nodes before l none) (hnodup : l.Nodup)
    (hfuel : l.length ≤ fuel) :
    ∃ t, destroyFrom fuel l.head? m = some t ∧
      ∀ b, t.nodes b = if b ∈ l then .zero else m.nodes b := by
  induction l generalizing before fuel m with
  | nil => exact ⟨m, by cases fuel <;> rfl, by simp⟩
  | cons a l ih =>
    obtain ⟨k, rfl⟩ := Nat.exists_eq_add_one_of_ne_zero
      (Nat.ne_zero_of_lt (Nat.lt_of_lt_of_le (Nat.succ_pos l.length) hfuel))
    obtain ⟨ha, hnodup⟩ := List.nodup_cons.1 hnodup
    have hnext : (m.nodes a).next = l.head? := h.2.1.trans (Option.or_none)
    obtain ⟨t, ht, hnodes⟩ := ih (h.2.2.set ha .zero) hnodup (Nat.le_of_succ_le_succ hfuel)
    refine ⟨t, ?_, ?_⟩
    · rw [List.head?_cons, destroyFrom, hnext]
      exact ht
    · intro b
      rw [hnodes, set_nodes]
      by_cases hba : b = a <;> simp [hba, ha]

/-- Destroying a list frees all of it. -/
theorem destroy_holds {s : DoublyLinkedList ν δ} (h : Holds pool s.memory l)
    (hlive : s.allocator = false → l = []) :
    ∃ t, s.destroy pool.length = some ⟨t, false⟩ ∧ Holds pool t [] := by
  have hlen : l.length ≤ pool.length := (h.nodup.subperm h.subset).length_le
  obtain ⟨t, ht, hnodes⟩ := destroyFrom_eq h.linked h.nodup hlen
  have hassert : ¬(s.memory.first.isSome = true ∧ s.allocator = false) := by
    rintro ⟨hfirst, hdead⟩
    rw [h.first, hlive hdead] at hfirst
    cases hfirst
  refine ⟨{ t with first := none, last := none }, ?_, ?_⟩
  · rw [DoublyLinkedList.destroy, if_neg hassert, h.first, ht]
    rfl
  · refine ⟨List.nodup_nil, List.nil_subset pool, trivial, rfl, rfl, by simp, ?_⟩
    intro b _
    change t.nodes b = .zero
    rw [hnodes]
    by_cases hb : b ∈ l
    · rw [if_pos hb]
    · rw [if_neg hb, h.free b hb]

/-! ## 3. The list of what the nodes point to -/

variable [DecidableEq δ]

/-- The node of the first `x`, as `RemoveFromActiveConnections` looks for it.  A loop under way is
`none`. -/
def nodeOf (pool : List ν) (x : δ) (m : Memory ν δ) : Option (Option ν) :=
  m.search (fun a => (m.nodes a).data = some x) pool.length m.first

/-- A function of the node of the first `y`, which is not called if there is none. -/
def atNodeOf (pool : List ν) (y : δ) (f : ν → Memory ν δ → Option (Memory ν δ))
    (s : DoublyLinkedList ν δ) : Option (DoublyLinkedList ν δ) :=
  (nodeOf pool y s.memory).bind fun node => node.elim (some s) fun node => s.asserting (f node)

/-- `RemoveFromActiveConnections`. -/
def removeFromActiveConnections (pool : List ν) (x : δ) (s : DoublyLinkedList ν δ) :
    Option (DoublyLinkedList ν δ) :=
  atNodeOf pool x (fun node m => some (removeNode node m)) s

/-- What a loop along a link comes to read. -/
def dataAlong (pool : List ν) (link : Node ν δ → Option ν) (start : Option ν) (m : Memory ν δ) :
    Option (List (Option δ)) :=
  (m.walk link pool.length start).map (List.map fun a => (m.nodes a).data)

/-- The calls of the functions.  `insertBefore y` and `insertAfter y` are made with the node of the
first `y`, and not made if there is none. -/
inductive Change (δ : Type)
  | insertAtHead (x : δ)
  | insertAtTail (x : δ)
  | insertBefore (y x : δ)
  | insertAfter (y x : δ)
  | remove (x : δ)
  | destroy
  deriving DecidableEq, Repr

def Change.onMemory (pool : List ν) (s : DoublyLinkedList ν δ) :
    Change δ → Option (DoublyLinkedList ν δ)
  | .insertAtHead x => s.asserting (DoublyLinkedList.insertAtHead pool x)
  | .insertAtTail x => s.asserting (DoublyLinkedList.insertAtTail pool x)
  | .insertBefore y x => atNodeOf pool y (insertBeforeNode pool · x) s
  | .insertAfter y x => atNodeOf pool y (insertAfterNode pool · x) s
  | .remove x => removeFromActiveConnections pool x s
  | .destroy => s.destroy pool.length

/-- A list of at most `n` gets one more; not when it is full, or has been destroyed. -/
def roomFor (n : Nat) (l : List δ) (live : Bool) (l' : List δ) : Option (List δ × Bool) :=
  if live = true ∧ l.length < n then some (l', live) else none

/-- What a call is for, on a list of at most `n` and whether it is still to be used. -/
def Change.onList (n : Nat) : List δ × Bool → Change δ → Option (List δ × Bool)
  | (l, live), .insertAtHead x => roomFor n l live (x :: l)
  | (l, live), .insertAtTail x => roomFor n l live (l ++ [x])
  | (l, live), .insertBefore y x =>
    if y ∉ l then some (l, live)
    else roomFor n l live (l.takeWhile (· ≠ y) ++ x :: l.dropWhile (· ≠ y))
  | (l, live), .insertAfter y x =>
    if y ∉ l then some (l, live)
    else roomFor n l live (l.takeWhile (· ≠ y) ++ y :: x :: (l.dropWhile (· ≠ y)).tail)
  | (l, live), .remove x => some (l.erase x, live)
  | _, .destroy => some ([], false)

/-- The nodes of the memory point to these, in this order. -/
def Represents (pool : List ν) (m : Memory ν δ) (ds : List δ) : Prop :=
  ∃ l, Holds pool m l ∧ l.map (fun a => (m.nodes a).data) = ds.map some

variable {ds ds₁ ds₂ : List δ} {x y : δ}

omit [DecidableEq ν] [DecidableEq δ] in
theorem Represents.init (pool : List ν) : Represents pool (.init : Memory ν δ) [] :=
  ⟨[], .init pool, rfl⟩

omit [DecidableEq δ] in
/-- A node goes in between two stretches. -/
theorem Represents.splice (h : Holds pool m (l₁ ++ l₂))
    (h₁ : l₁.map (fun a => (m.nodes a).data) = ds₁.map some)
    (h₂ : l₂.map (fun a => (m.nodes a).data) = ds₂.map some) (ha : m.alloc pool = some a) :
    Represents pool (m.splice a x l₁.getLast? l₂.head?) (ds₁ ++ x :: ds₂) := by
  obtain ⟨hpool, hnew⟩ := h.alloc_some ha
  refine ⟨l₁ ++ a :: l₂, h.splice hpool hnew, ?_⟩
  rw [List.mem_append, not_or] at hnew
  have hrest : ∀ l : List ν, a ∉ l →
      l.map (fun b => ((m.splice a x l₁.getLast? l₂.head?).nodes b).data) =
        l.map fun b => (m.nodes b).data := by
    intro l hl
    refine List.map_congr_left ?_
    intro b hb
    have hba : b ≠ a := fun hba => hl (hba ▸ hb)
    rw [splice_data, if_neg hba]
  rw [List.map_append, List.map_cons, hrest l₁ hnew.1, hrest l₂ hnew.2, h₁, h₂, splice_data,
    if_pos rfl, List.map_append, List.map_cons]

omit [DecidableEq δ] in
/-- A node goes out from between them. -/
theorem Represents.unlink (h : Holds pool m (l₁ ++ a :: l₂))
    (h₁ : l₁.map (fun a => (m.nodes a).data) = ds₁.map some)
    (h₂ : l₂.map (fun a => (m.nodes a).data) = ds₂.map some) :
    Represents pool (m.unlink a) (ds₁ ++ ds₂) := by
  refine ⟨l₁ ++ l₂, h.unlink, ?_⟩
  have hgone := (List.nodup_cons.1 (List.nodup_middle.1 h.nodup)).1
  have hrest : (l₁ ++ l₂).map (fun b => ((m.unlink a).nodes b).data) =
      (l₁ ++ l₂).map fun b => (m.nodes b).data := by
    refine List.map_congr_left ?_
    intro b hb
    have hba : b ≠ a := fun hba => hgone (hba ▸ hb)
    rw [unlink_data, if_neg hba]
  rw [hrest, List.map_append, h₁, h₂, List.map_append]

omit [DecidableEq δ] in
/-- **One insertion**: a function that puts the node it creates between two stretches, and fails
when it gets none. -/
theorem Represents.insert (l₁ l₂ : List ν) (ds₁ ds₂ : List δ) (hpool : pool.Nodup)
    (h : Holds pool m (l₁ ++ l₂))
    (h₁ : l₁.map (fun a => (m.nodes a).data) = ds₁.map some)
    (h₂ : l₂.map (fun a => (m.nodes a).data) = ds₂.map some) {r : Option (Memory ν δ)}
    (hsome : ∀ a, m.alloc pool = some a → r = some (m.splice a x l₁.getLast? l₂.head?))
    (hnone : m.alloc pool = none → r = none) :
    Option.Rel (Represents pool) r
      (if (ds₁ ++ ds₂).length < pool.length then some (ds₁ ++ x :: ds₂) else none) := by
  have hlen : (ds₁ ++ ds₂).length = (l₁ ++ l₂).length := by
    have hlen₁ := congrArg List.length h₁
    have hlen₂ := congrArg List.length h₂
    simp only [List.length_map] at hlen₁ hlen₂
    rw [List.length_append, List.length_append, hlen₁, hlen₂]
  cases ha : m.alloc pool with
  | none =>
    rw [hnone ha, hlen, if_neg ((h.alloc_eq_none_iff hpool).1 ha)]
    exact .none
  | some a =>
    have hroom : (l₁ ++ l₂).length < pool.length := by
      by_contra hfull
      rw [(h.alloc_eq_none_iff hpool).2 hfull] at ha
      cases ha
    rw [hsome a ha, hlen, if_pos hroom]
    exact .some (.splice h h₁ h₂ ha)

omit [DecidableEq ν] in
/-- The place of the first `y`, in the memory and in the list. -/
theorem Represents.nodeOf (h : Represents pool m ds) (y : δ) :
    (Cip.nodeOf pool y m = some none ∧ y ∉ ds) ∨
      ∃ l₁ node l₂ ds₁ ds₂, Cip.nodeOf pool y m = some (some node) ∧
        Holds pool m (l₁ ++ node :: l₂) ∧ (m.nodes node).data = some y ∧
        l₁.map (fun a => (m.nodes a).data) = ds₁.map some ∧
        l₂.map (fun a => (m.nodes a).data) = ds₂.map some ∧ ds = ds₁ ++ y :: ds₂ ∧ y ∉ ds₁ := by
  obtain ⟨l, hl, hds⟩ := h
  have hlen : l.length ≤ pool.length := (hl.nodup.subperm hl.subset).length_le
  rw [Cip.nodeOf, hl.search_eq hlen]
  cases hfind : l.find? (fun a => (m.nodes a).data = some y) with
  | none =>
    refine .inl ⟨rfl, ?_⟩
    intro hy
    have hmem : some y ∈ l.map fun a => (m.nodes a).data := hds ▸ List.mem_map_of_mem hy
    obtain ⟨b, hb, hby⟩ := List.mem_map.1 hmem
    exact List.find?_eq_none.1 hfind b hb (decide_eq_true hby)
  | some node =>
    obtain ⟨hnode, l₁, l₂, rfl, hbefore⟩ := List.find?_eq_some_iff_append.1 hfind
    rw [List.map_append, List.map_cons, of_decide_eq_true hnode] at hds
    obtain ⟨ds₁, ds', rfl, hds₁, hds'⟩ := List.map_eq_append_iff.1 hds.symm
    obtain ⟨z, ds₂, rfl, hz, hds₂⟩ := List.map_eq_cons_iff.1 hds'
    obtain rfl := Option.some.inj hz
    refine .inr ⟨l₁, node, l₂, ds₁, ds₂, rfl, hl, of_decide_eq_true hnode, hds₁.symm, hds₂.symm,
      rfl, ?_⟩
    intro hy
    have hmem : some z ∈ l₁.map fun a => (m.nodes a).data := hds₁ ▸ List.mem_map_of_mem hy
    obtain ⟨b, hb, hbz⟩ := List.mem_map.1 hmem
    simpa [hbz] using hbefore b hb

/-- The first `y` of a list, and what is on its sides. -/
theorem split_at (ds₂ : List δ) (hy : y ∉ ds₁) :
    (ds₁ ++ y :: ds₂).takeWhile (· ≠ y) = ds₁ ∧
      (ds₁ ++ y :: ds₂).dropWhile (· ≠ y) = y :: ds₂ ∧ (ds₁ ++ y :: ds₂).erase y = ds₁ ++ ds₂ := by
  have hall : ∀ z ∈ ds₁, decide (z ≠ y) = true := by
    intro z hz
    exact decide_eq_true fun hzy => hy (hzy ▸ hz)
  refine ⟨?_, ?_, ?_⟩
  · rw [List.takeWhile_append_of_pos hall]
    simp
  · rw [List.dropWhile_append_of_pos hall]
    simp
  · rw [List.erase_append_right _ hy, List.erase_cons_head]

/-- The memory and the list, and that nothing is left of a list that has been destroyed. -/
def Stands (pool : List ν) (s : DoublyLinkedList ν δ) (x : List δ × Bool) : Prop :=
  Represents pool s.memory x.1 ∧ s.allocator = x.2 ∧ (x.2 = false → x.1 = [])

omit [DecidableEq ν] [DecidableEq δ] in
/-- An insertion, behind its assertion. -/
theorem Stands.insert {s : DoublyLinkedList ν δ} {live : Bool}
    {f : Memory ν δ → Option (Memory ν δ)} (halloc : s.allocator = live)
    (h : Option.Rel (Represents pool) (f s.memory)
      (if ds₁.length < pool.length then some ds₂ else none)) :
    Option.Rel (Stands pool) (s.asserting f) (roomFor pool.length ds₁ live ds₂) := by
  unfold asserting roomFor
  cases live with
  | false =>
    rw [if_neg (by simp [halloc]), if_neg (by simp)]
    exact .none
  | true =>
    rw [if_pos halloc]
    by_cases hroom : ds₁.length < pool.length
    · rw [if_pos hroom] at h
      rw [if_pos ⟨rfl, hroom⟩]
      revert h
      cases f s.memory with
      | none => rintro ⟨⟩
      | some m =>
        rintro ⟨h⟩
        exact .some ⟨h, halloc, fun hlive => absurd hlive (by simp)⟩
    · rw [if_neg hroom] at h
      rw [if_neg fun h => hroom h.2]
      revert h
      cases f s.memory with
      | none =>
        intro _
        exact .none
      | some m => rintro ⟨⟩

/-- **One call** does to the memory what it is for, and fails when the list is full or has been
destroyed. -/
theorem Represents.step (hpool : pool.Nodup) {s : DoublyLinkedList ν δ} {x : List δ × Bool}
    (h : Stands pool s x) (c : Change δ) :
    Option.Rel (Stands pool) (c.onMemory pool s) (c.onList pool.length x) := by
  obtain ⟨ds, live⟩ := x
  obtain ⟨h, halloc, hlive⟩ := h
  dsimp only at h halloc hlive
  cases c with
  | insertAtHead x =>
    obtain ⟨l, hl, hds⟩ := h
    refine Stands.insert halloc (Represents.insert [] l [] ds hpool hl rfl hds
      (fun a ha => insertAtHead_eq hl ha) ?_)
    intro ha
    rw [DoublyLinkedList.insertAtHead, nodeCreate, ha]
    rfl
  | insertAtTail x =>
    obtain ⟨l, hl, hds⟩ := h
    have hinsert := Represents.insert (x := x) l [] ds [] hpool
      ((List.append_nil l).symm ▸ hl) hds rfl (fun a ha => insertAtTail_eq hl ha) ?_
    · rw [List.append_nil] at hinsert
      exact Stands.insert halloc hinsert
    · intro ha
      rw [DoublyLinkedList.insertAtTail, nodeCreate, ha]
      rfl
  | insertBefore y x =>
    rw [Change.onMemory, Change.onList, atNodeOf]
    rcases h.nodeOf y with ⟨hnode, hy⟩ |
      ⟨l₁, node, l₂, ds₁, ds₂, hnode, hl, hdata, h₁, h₂, rfl, hy⟩
    · rw [hnode, if_pos hy]
      exact .some ⟨h, halloc, hlive⟩
    · obtain ⟨htake, hdrop, -⟩ := split_at ds₂ hy
      rw [hnode, if_neg (by simp), htake, hdrop]
      refine Stands.insert halloc (Represents.insert l₁ (node :: l₂) ds₁ (y :: ds₂) hpool hl h₁ ?_
        (fun a ha => insertBeforeNode_eq hl ha) ?_)
      · rw [List.map_cons, List.map_cons, hdata, h₂]
      · intro ha
        simp only [insertBeforeNode, insertAtHead, nodeCreate, ha, Option.map_none,
          Option.bind_none, ite_self]
  | insertAfter y x =>
    rw [Change.onMemory, Change.onList, atNodeOf]
    rcases h.nodeOf y with ⟨hnode, hy⟩ |
      ⟨l₁, node, l₂, ds₁, ds₂, hnode, hl, hdata, h₁, h₂, rfl, hy⟩
    · rw [hnode, if_pos hy]
      exact .some ⟨h, halloc, hlive⟩
    · obtain ⟨htake, hdrop, -⟩ := split_at ds₂ hy
      rw [hnode, if_neg (by simp), htake, hdrop, List.tail_cons]
      have hinsert := Represents.insert (x := x) (l₁ ++ [node]) l₂ (ds₁ ++ [y]) ds₂ hpool
        (by simpa using hl) ?_ h₂
        (fun a ha => by simpa using insertAfterNode_eq hl ha) ?_
      · simp only [List.append_assoc, List.singleton_append] at hinsert
        exact Stands.insert halloc hinsert
      · rw [List.map_append, List.map_append, h₁, List.map_singleton, List.map_singleton, hdata]
      · intro ha
        simp only [insertAfterNode, insertAtTail, nodeCreate, ha, Option.map_none,
          Option.bind_none, ite_self]
  | remove x =>
    rw [Change.onMemory, Change.onList, removeFromActiveConnections, atNodeOf]
    rcases h.nodeOf x with ⟨hnode, hx⟩ |
      ⟨l₁, node, l₂, ds₁, ds₂, hnode, hl, -, h₁, h₂, rfl, hx⟩
    · rw [hnode, List.erase_of_not_mem hx]
      exact .some ⟨h, halloc, hlive⟩
    · have hset : live = true := by
        cases live with
        | true => rfl
        | false => exact absurd (hlive rfl) (by simp)
      rw [hnode, (split_at ds₂ hx).2.2, Option.bind_some, Option.elim_some, asserting,
        if_pos (halloc.trans hset)]
      refine .some ⟨?_, halloc, fun hdead => ?_⟩
      · change Represents pool (removeNode node s.memory) (ds₁ ++ ds₂)
        rw [removeNode_eq hl]
        exact .unlink hl h₁ h₂
      · rw [hset] at hdead
        cases hdead
  | destroy =>
    obtain ⟨l, hl, hds⟩ := h
    obtain ⟨t, ht, hempty⟩ := destroy_holds hl fun hdead => by
      rw [hlive (halloc.symm.trans hdead)] at hds
      exact List.map_eq_nil_iff.1 hds
    rw [Change.onMemory, ht]
    exact .some ⟨⟨[], hempty, rfl⟩, rfl, fun _ => rfl⟩

omit [DecidableEq ν] [DecidableEq δ] in
/-- What the loops along the links read. -/
theorem Represents.dataAlong (h : Represents pool m ds) :
    Cip.dataAlong pool Node.next m.first m = some (ds.map some) ∧
      Cip.dataAlong pool Node.previous m.last m = some (ds.reverse.map some) := by
  obtain ⟨l, hl, hds⟩ := h
  have hlen : l.length ≤ pool.length := (hl.nodup.subperm hl.subset).length_le
  constructor
  · rw [Cip.dataAlong, hl.forward_eq hlen, Option.map_some, hds]
  · rw [Cip.dataAlong, hl.backward_eq hlen, Option.map_some, List.map_reverse, hds,
      List.map_reverse]

/-! ## 4. Runs -/

/-- **The connection list.**  In every run of calls the memory and the list of the connections go
together: the loops end and read the list, forwards and backwards, and the first call that fails is
the first insertion into a list of `kNodesAmount` connections, where it writes through NULL, or into
one that has been destroyed, where its assertion does not hold. -/
theorem connection_list (changes : List (Change Slot)) :
    (exec (Change.onMemory (List.finRange nodesAmount)) .init changes).map
        (fun s => (dataAlong (List.finRange nodesAmount) Node.next s.memory.first s.memory,
          dataAlong (List.finRange nodesAmount) Node.previous s.memory.last s.memory)) =
      (exec (Change.onList nodesAmount) ([], true) changes).map
        fun x => (some (x.1.map some), some (x.1.reverse.map some)) := by
  have hinit : Stands (List.finRange nodesAmount) DoublyLinkedList.init (([] : List Slot), true) :=
    ⟨Represents.init _, rfl, fun hdead => absurd hdead (by simp)⟩
  have hrel := exec_rel
    (fun m ds (c : Change Slot) h => Represents.step (List.nodup_finRange nodesAmount) h c)
    hinit changes
  rw [List.length_finRange] at hrel
  revert hrel
  cases exec (Change.onMemory (List.finRange nodesAmount)) DoublyLinkedList.init changes <;>
    cases exec (Change.onList nodesAmount) ([], true) changes
  · intro _
    rfl
  · rintro ⟨⟩
  · rintro ⟨⟩
  · rintro ⟨h⟩
    rw [Option.map_some, Option.map_some, h.1.dataAlong.1, h.1.dataAlong.2]

/-- `AddNewActiveConnection` and `RemoveFromActiveConnections` of the model are the two calls that
the connection manager makes. -/
theorem addNewActiveConnection_list (c : Slot) (s : Stack) :
    (addNewActiveConnection c s).map (fun s => (s.connectionList, true)) =
      Change.onList nodesAmount (s.connectionList, true) (.insertAtHead c) := by
  rw [addNewActiveConnection, Change.onList, roomFor]
  by_cases hroom : s.connectionList.length < nodesAmount
  · rw [if_pos hroom, if_pos ⟨rfl, hroom⟩]
    rfl
  · rw [if_neg hroom, if_neg fun h => hroom h.2]
    rfl

theorem release_list (c : Slot) (s : Stack) :
    some ((s.release c).connectionList, true) =
      Change.onList nodesAmount (s.connectionList, true) (.remove c) := rfl

end GroundTruth.Cip
