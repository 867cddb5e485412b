/-
# What `opener_init` makes of the statuses

The function declares `eip_status` twice: once at its top, where it is 0 and stays 0, and once in
the block that starts the stack, where the results of `CipStackInit`, `IfaceGetConfiguration` and
`NetworkHandlerInitialize` go one over the other.  The test before the task is created reads the
first of them.

* `openerInitCalls_eq`: the three statuses change nothing, and what is left is `openerInit`;
* `creates_iff`: when a task is created;
* `start_status_iff`: when that is only done after a start that went well.
-/
import Mathlib.Tactic.Common
import GroundTruth.Opener.Lifecycle

namespace GroundTruth.Opener

/-! ## 1. The function -/

inductive EipStatus
  | ok
  | okSend
  | error
  deriving DecidableEq, Repr

/-- How the calls out of `opener_init` end. -/
structure InitCalls where
  /-- `xSemaphoreCreateMutex`, if it is called -/
  mutexCreate : Bool
  /-- `xSemaphoreTake` -/
  mutexTake : Bool
  cipStackInit : EipStatus
  ifaceGetConfiguration : EipStatus
  networkHandlerInitialize : EipStatus
  /-- `xTaskCreatePinnedToCore` returns `pdPASS` -/
  taskCreate : Bool
  deriving DecidableEq, Repr

/-- The two variables of the name `eip_status`. -/
structure Statuses where
  outer : EipStatus
  /-- declared in the block of the link that is up -/
  inner : Option EipStatus
  deriving DecidableEq, Repr

/-- An assignment in the block goes to the variable of the block. -/
def Statuses.assign (v : EipStatus) (s : Statuses) : Statuses := { s with inner := some v }

/-- The block that starts the stack. -/
def startStack (c : InitCalls) (d : Device) (s : Statuses) : Device × Statuses :=
  let s := s.assign c.cipStackInit
  let d := { d with endStack := false }
  let s := s.assign c.ifaceGetConfiguration
  let s := s.assign c.networkHandlerInitialize
  -- the block ends, and its variable with it
  (d, { s with inner := none })

/-- `opener_init`; the first component says that a task was created. -/
def openerInitCalls (c : InitCalls) (d : Device) : Bool × Device :=
  if d.initMutex = false ∧ c.mutexCreate = false then (false, d)
  else
    let d := { d with initMutex := true }
    if c.mutexTake = false then (false, d)
    else if d.openerInitialized = true then (false, d)
    else
      let (d, s) :=
        if d.linkUp = true then startStack c d ⟨.ok, none⟩
        else ({ d with endStack := true }, ⟨.ok, none⟩)
      if d.endStack = false ∧ s.outer = .ok then
        if c.taskCreate = true then
          (true, { d with openerInitialized := true, thread := some .running })
        else (false, d)
      else (false, d)

/-- The outcomes that the life of the thread depends on. -/
def InitCalls.resources (c : InitCalls) (netifMutex : Bool) : Resources :=
  ⟨netifMutex, c.mutexCreate, c.taskCreate⟩

/-! ## 2. The statuses are not looked at -/

variable {c : InitCalls} {d : Device}

/-- **With the mutex taken `opener_init` is `openerInit`**, whatever the statuses are. -/
theorem openerInitCalls_eq (htake : c.mutexTake = true) (netifMutex : Bool) (d : Device) :
    (openerInitCalls c d).2 = openerInit (c.resources netifMutex) d := by
  have hcreate : (c.resources netifMutex).initMutex = c.mutexCreate := rfl
  unfold openerInitCalls openerInit
  by_cases hmutex : d.initMutex = false ∧ c.mutexCreate = false
  · rw [hcreate, if_pos hmutex, if_pos hmutex]
  rw [hcreate, if_neg hmutex, if_neg hmutex]
  dsimp only
  rw [if_neg (by simp [htake])]
  by_cases hinit : d.openerInitialized = true
  · rw [if_pos hinit, if_pos hinit]
  rw [if_neg hinit, if_neg hinit]
  by_cases hlink : d.linkUp = true
  · rw [if_pos hlink, if_pos hlink]
    cases htask : c.taskCreate with
    | true => simp [startStack, Statuses.assign, InitCalls.resources, htask]
    | false => simp [startStack, Statuses.assign, InitCalls.resources, htask]
  · rw [if_neg hlink, if_neg hlink]
    simp

/-- The call goes as far as asking for the task. -/
def AsksForTask (c : InitCalls) (d : Device) : Prop :=
  (d.initMutex = true ∨ c.mutexCreate = true) ∧ c.mutexTake = true ∧
    d.openerInitialized = false ∧ d.linkUp = true

instance AsksForTask.decidable (c : InitCalls) (d : Device) : Decidable (AsksForTask c d) :=
  inferInstanceAs (Decidable (_ ∧ _))

/-- A call that does not ask for the task creates none, and leaves `opener_initialized`. -/
theorem openerInitCalls_of_not_asks (h : ¬AsksForTask c d) :
    (openerInitCalls c d).1 = false ∧
      (openerInitCalls c d).2.openerInitialized = d.openerInitialized := by
  unfold openerInitCalls
  by_cases hmutex : d.initMutex = false ∧ c.mutexCreate = false
  · rw [if_pos hmutex]
    exact ⟨rfl, rfl⟩
  rw [if_neg hmutex]
  dsimp only
  by_cases htake : c.mutexTake = false
  · rw [if_pos htake]
    exact ⟨rfl, rfl⟩
  rw [if_neg htake]
  by_cases hinit : d.openerInitialized = true
  · rw [if_pos hinit]
    exact ⟨rfl, rfl⟩
  rw [if_neg hinit]
  have hlink : d.linkUp ≠ true := by
    intro hlink
    refine h ⟨?_, by simpa using htake, by simpa using hinit, hlink⟩
    cases hd : d.initMutex with
    | true => exact Or.inl rfl
    | false => exact Or.inr (by simpa [hd] using hmutex)
  rw [if_neg hlink]
  exact ⟨rfl, rfl⟩

/-- A call that asks for the task has it if it can be created. -/
theorem openerInitCalls_of_asks (h : AsksForTask c d) :
    (openerInitCalls c d).1 = c.taskCreate ∧
      (openerInitCalls c d).2.openerInitialized = c.taskCreate := by
  obtain ⟨hmutex, htake, hinit, hlink⟩ := h
  unfold openerInitCalls
  rw [if_neg (by rcases hmutex with hm | hm <;> simp [hm])]
  dsimp only
  rw [if_neg (by simp [htake]), if_neg (by simp [hinit]), if_pos hlink]
  cases htask : c.taskCreate with
  | true => simp [startStack, Statuses.assign]
  | false => simp [startStack, Statuses.assign, hinit]

/-- **When a task is created.** -/
theorem creates_iff (c : InitCalls) (d : Device) :
    (openerInitCalls c d).1 = true ↔ AsksForTask c d ∧ c.taskCreate = true := by
  by_cases h : AsksForTask c d
  · rw [(openerInitCalls_of_asks h).1]
    exact ⟨fun ht => ⟨h, ht⟩, fun ht => ht.2⟩
  · rw [(openerInitCalls_of_not_asks h).1]
    exact ⟨fun ht => (Bool.false_ne_true ht).elim, fun ht => absurd ht.1 h⟩

/-! ## 3. Starting only when the start went well -/

/-- The call creates the thread, or sets `opener_initialized`. -/
def Started (c : InitCalls) (d : Device) : Prop :=
  (openerInitCalls c d).1 = true ∨
    d.openerInitialized = false ∧ (openerInitCalls c d).2.openerInitialized = true

instance Started.decidable (c : InitCalls) (d : Device) : Decidable (Started c d) :=
  inferInstanceAs (Decidable (_ ∨ _))

/-- What a start is to be preceded by. -/
def WentWell (c : InitCalls) (d : Device) : Prop :=
  d.linkUp = true ∧ c.cipStackInit = .ok ∧ c.networkHandlerInitialize = .ok

instance WentWell.decidable (c : InitCalls) (d : Device) : Decidable (WentWell c d) :=
  inferInstanceAs (Decidable (_ ∧ _))

/-- The flag is set with the task. -/
theorem started_iff (c : InitCalls) (d : Device) :
    Started c d ↔ AsksForTask c d ∧ c.taskCreate = true := by
  rw [← creates_iff]
  constructor
  · rintro (h | ⟨hno, hyes⟩)
    · exact h
    · by_cases hasks : AsksForTask c d
      · rw [(openerInitCalls_of_asks hasks).2] at hyes
        rw [(openerInitCalls_of_asks hasks).1, hyes]
      · rw [(openerInitCalls_of_not_asks hasks).2, hno] at hyes
        cases hyes
  · exact Or.inl

/-- **The start status.**  `opener_init` starts only what went well, if and only if both statuses
are good whenever the call gets its task. -/
theorem start_status_iff (c : InitCalls) (d : Device) :
    (Started c d → WentWell c d) ↔
      (AsksForTask c d → c.taskCreate = true →
        c.cipStackInit = .ok ∧ c.networkHandlerInitialize = .ok) := by
  rw [started_iff]
  constructor
  · intro h hasks htask
    exact (h ⟨hasks, htask⟩).2
  · rintro h ⟨hasks, htask⟩
    exact ⟨hasks.2.2.2, h hasks htask⟩

/-- The first start after the link has come up, with no socket to be had. -/
def benchNoSocket : InitCalls := ⟨true, true, .ok, .ok, .error, true⟩

/-- The thread is started although its network handler is not there. -/
theorem started_without_network :
    ¬∀ (c : InitCalls) (d : Device), Started c d → WentWell c d := by
  intro h
  have hwell := h benchNoSocket { Device.powerOn with linkUp := true } (by decide)
  revert hwell
  decide

end GroundTruth.Opener
