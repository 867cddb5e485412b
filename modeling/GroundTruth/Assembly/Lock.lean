/-
# The lock of the assemblies

The three assembly arrays are shared between OpENer, the Modbus map, the web interface and the
IMU task, and `s_assembly_mutex` is the lock that all but the first take.
`ApplicationInitialization` creates it, anew at each start of the stack.  The Modbus map and the
web handlers ask for it at every access; the IMU task asks once, when it starts, and keeps what it
got.

* `OneHandle.step`: while the stack starts only when nobody has the lock's handle, and those who do
  without a lock when there is none ask only once there is one, everybody has the same handle;
* `one_lock`: so it is in every run, and there is one at most inside;
* `two_locks`: a stack that is started again while the IMU task runs is enough for two.

What OpENer itself does to the arrays it does without the lock, and is not part of this.
-/
import Mathlib.Data.List.Basic
import Mathlib.Tactic.Common
import GroundTruth.Lib.Run

namespace GroundTruth.Assembly

open GroundTruth.Lib

/-! ## 1. Who takes the lock -/

/-- The code that locks before it touches an assembly. -/
inductive AssemblyUser
  /-- the read and write functions of `modbus_register_map.c` -/
  | modbus
  /-- `api_get_status_handler` -/
  | status
  /-- `api_get_lsm6ds3_status_handler` -/
  | lsm6ds3Status
  /-- `api_get_mpu6050_status_handler` -/
  | mpu6050Status
  /-- `imu_io_task` -/
  | imuIo
  deriving DecidableEq, Repr

/-- It answers with an error when there is no mutex; the others go on without. -/
def AssemblyUser.needsMutex : AssemblyUser → Bool
  | .modbus | .status | .lsm6ds3Status => true
  | .mpu6050Status | .imuIo => false

/-- It waits for the mutex for a second only. -/
def AssemblyUser.givesUp : AssemblyUser → Bool
  | .status | .lsm6ds3Status => true
  | .modbus | .mpu6050Status | .imuIo => false

/-- One access to the assemblies, with the handle it has got: a mutex is known by when it was
created, and `none` is NULL. -/
structure Access where
  user : AssemblyUser
  mutex : Option Nat
  deriving DecidableEq, Repr

inductive ImuTask
  /-- it has not asked for the handle -/
  | absent
  /-- in its loop, with the handle it has got -/
  | running (mutex : Option Nat)
  | ended
  deriving DecidableEq, Repr

structure Device where
  /-- the OpENer thread is there -/
  stackRunning : Bool
  /-- `s_assembly_mutex` -/
  assemblyMutex : Option Nat
  nextMutex : Nat
  /-- the mutexes that are taken -/
  taken : List Nat
  imu : ImuTask
  /-- the accesses that have a handle and have not got the lock -/
  waiting : List Access
  /-- the accesses in their critical sections -/
  inside : List Access
  deriving DecidableEq, Repr

/-- After a reboot. -/
def Device.initial : Device :=
  { stackRunning := false, assemblyMutex := none, nextMutex := 0, taken := [], imu := .absent,
    waiting := [], inside := [] }

/-- `ApplicationInitialization`; `created` is what `xSemaphoreCreateMutex` returns. -/
def applicationInitialization (created : Bool) (s : Device) : Device :=
  { s with assemblyMutex := if created = true then some s.nextMutex else none
           nextMutex := s.nextMutex + 1 }

/-- An access asks for the handle. -/
def getAssemblyMutex (user : AssemblyUser) (mutex : Option Nat) (s : Device) : Device :=
  if user.needsMutex = true ∧ mutex = none then s
  else { s with waiting := ⟨user, mutex⟩ :: s.waiting }

/-- The mutex of an access, if it has one, is free. -/
def Access.free (x : Access) (s : Device) : Bool := x.mutex.all (· ∉ s.taken)

inductive Event
  /-- `opener_init` gets as far as `CipStackInit`; `thread` is whether it starts the thread -/
  | stackStart (created thread : Bool)
  | stackStop
  /-- the IMU task starts, and asks for the handle -/
  | imuStart
  /-- the IMU task comes to one of its critical sections -/
  | imuAccess
  | imuEnd
  /-- the others come to one of theirs -/
  | access (user : AssemblyUser)
  | take (x : Access)
  | giveUp (x : Access)
  | give (x : Access)
  deriving DecidableEq, Repr

def deviceStep (s : Device) : Event → Option Device
  | .stackStart created thread =>
    if s.stackRunning = false then
      some { applicationInitialization created s with stackRunning := thread }
    else none
  | .stackStop => if s.stackRunning = true then some { s with stackRunning := false } else none
  | .imuStart => if s.imu = .absent then some { s with imu := .running s.assemblyMutex } else none
  | .imuAccess =>
    match s.imu with
    | .running mutex =>
      if ∀ x ∈ s.waiting ++ s.inside, x.user ≠ .imuIo then
        some (getAssemblyMutex .imuIo mutex s)
      else none
    | .absent | .ended => none
  | .imuEnd =>
    match s.imu with
    | .running _ =>
      if ∀ x ∈ s.waiting ++ s.inside, x.user ≠ .imuIo then some { s with imu := .ended } else none
    | .absent | .ended => none
  | .access user =>
    if user ≠ .imuIo then some (getAssemblyMutex user s.assemblyMutex s) else none
  | .take x =>
    if x ∈ s.waiting ∧ x.free s = true then
      some { s with waiting := s.waiting.erase x, inside := x :: s.inside,
                    taken := x.mutex.toList ++ s.taken }
    else none
  | .giveUp x =>
    if x ∈ s.waiting ∧ x.user.givesUp = true then some { s with waiting := s.waiting.erase x }
    else none
  | .give x =>
    if x ∈ s.inside then
      some { s with inside := s.inside.erase x,
                    taken := s.taken.filter fun m => x.mutex ≠ some m }
    else none

/-! ## 2. One handle -/

variable {s s' : Device} {e : Event} {x : Access}

/-- The handles that somebody has. -/
def Device.handles (s : Device) : List (Option Nat) :=
  (match s.imu with
    | .running mutex => [mutex]
    | .absent | .ended => []) ++ (s.waiting ++ s.inside).map Access.mutex

/-- Everybody has the handle that the next to ask will get, and there is one at most inside. -/
def Device.OneLock (s : Device) : Prop :=
  (∀ h ∈ s.handles, h = s.assemblyMutex) ∧ s.inside.length ≤ 1

/-- The stack is started only when nobody has a handle; and those who do without a lock when there
is none ask only once there is one. -/
def Orderly (s : Device) : Event → Prop
  | .stackStart _ _ => s.handles = []
  | .imuStart => s.assemblyMutex ≠ none
  | .access user => user.needsMutex = false → s.assemblyMutex ≠ none
  | _ => True

instance Orderly.decidable (s : Device) : ∀ e, Decidable (Orderly s e)
  | .stackStart _ _ => inferInstanceAs (Decidable (_ = _))
  | .imuStart => inferInstanceAs (Decidable (_ ≠ _))
  | .access _ => inferInstanceAs (Decidable (_ → _))
  | .stackStop | .imuAccess | .imuEnd | .take _ | .giveUp _ | .give _ =>
    inferInstanceAs (Decidable True)

/-- There is one handle, of a mutex, and whoever is inside has taken it. -/
structure OneHandle (s : Device) : Prop where
  imu : ∀ h, s.imu = .running h → h = s.assemblyMutex ∧ h ≠ none
  waiting : ∀ x ∈ s.waiting, x.mutex = s.assemblyMutex ∧ x.mutex ≠ none
  inside : ∀ x ∈ s.inside, x.mutex = s.assemblyMutex ∧ x.mutex ≠ none
  taken : ∀ x ∈ s.inside, ∀ m, x.mutex = some m → m ∈ s.taken
  one : s.inside.length ≤ 1

theorem OneHandle.initial : OneHandle .initial where
  imu := by
    intro h hh
    cases hh
  waiting := by
    intro x hx
    cases hx
  inside := by
    intro x hx
    cases hx
  taken := by
    intro x hx
    cases hx
  one := Nat.zero_le _

/-- Nobody has a handle when the IMU task is not in its loop and nobody is at an access. -/
theorem handles_eq_nil : s.handles = [] ↔
    (∀ h, s.imu ≠ .running h) ∧ s.waiting = [] ∧ s.inside = [] := by
  unfold Device.handles
  rw [List.append_eq_nil_iff, List.map_eq_nil_iff, List.append_eq_nil_iff]
  refine and_congr_left' ?_
  cases s.imu with
  | absent => simp
  | running mutex => simp
  | ended => simp

/-- **A start of the stack** changes the lock, and nobody has it. -/
theorem OneHandle.start (hnone : s.handles = []) (created thread : Bool) :
    OneHandle { applicationInitialization created s with stackRunning := thread } := by
  obtain ⟨himu, hwaiting, hinside⟩ := handles_eq_nil.1 hnone
  refine ⟨fun h hh => absurd hh (himu h), ?_, ?_, ?_, ?_⟩
  · intro x hx
    have hx : x ∈ s.waiting := hx
    rw [hwaiting] at hx
    cases hx
  · intro x hx
    have hx : x ∈ s.inside := hx
    rw [hinside] at hx
    cases hx
  · intro x hx
    have hx : x ∈ s.inside := hx
    rw [hinside] at hx
    cases hx
  · show s.inside.length ≤ 1
    rw [hinside]
    exact Nat.zero_le _

/-- One more access with the handle. -/
theorem OneHandle.get (h : OneHandle s) {user : AssemblyUser} {mutex : Option Nat}
    (hmutex : mutex = s.assemblyMutex) (hnull : user.needsMutex = false → mutex ≠ none) :
    OneHandle (getAssemblyMutex user mutex s) := by
  unfold getAssemblyMutex
  split
  · exact h
  · rename_i hgoes
    refine ⟨h.imu, ?_, h.inside, h.taken, h.one⟩
    intro x hx
    rcases List.mem_cons.1 hx with rfl | hx
    · refine ⟨hmutex, fun hnone => ?_⟩
      cases hneeds : user.needsMutex with
      | true => exact hgoes ⟨hneeds, hnone⟩
      | false => exact hnull hneeds hnone
    · exact h.waiting x hx

/-- **Getting the lock**: whoever were inside would have it. -/
theorem OneHandle.take (h : OneHandle s) (hx : x ∈ s.waiting) (hfree : x.free s = true) :
    OneHandle { s with waiting := s.waiting.erase x, inside := x :: s.inside,
                       taken := x.mutex.toList ++ s.taken } := by
  obtain ⟨hsame, hsome⟩ := h.waiting x hx
  obtain ⟨m, hm⟩ := Option.ne_none_iff_exists'.1 hsome
  have hnot : m ∉ s.taken := by
    rw [Access.free, hm] at hfree
    simpa using hfree
  have hempty : s.inside = [] := by
    refine List.eq_nil_iff_forall_not_mem.2 fun y hy => hnot ?_
    refine h.taken y hy m ?_
    rw [(h.inside y hy).1, ← hsame, hm]
  refine ⟨h.imu, fun y hy => h.waiting y (List.mem_of_mem_erase hy), ?_, ?_, ?_⟩
  · intro y hy
    rcases List.mem_cons.1 hy with rfl | hy
    · exact ⟨hsame, hsome⟩
    · exact h.inside y hy
  · intro y hy k hk
    rcases List.mem_cons.1 hy with rfl | hy
    · exact List.mem_append_left _ (Option.mem_toList.2 hk)
    · exact List.mem_append_right _ (h.taken y hy k hk)
  · show (x :: s.inside).length ≤ 1
    rw [hempty]
    exact Nat.le_refl 1

/-- The one inside leaves. -/
theorem OneHandle.give (h : OneHandle s) (hx : x ∈ s.inside) :
    OneHandle { s with inside := s.inside.erase x,
                       taken := s.taken.filter fun m => x.mutex ≠ some m } := by
  have hempty : s.inside.erase x = [] := by
    refine List.eq_nil_of_length_eq_zero ?_
    have hone := h.one
    rw [List.length_erase_of_mem hx]
    omega
  refine ⟨h.imu, h.waiting, fun y hy => h.inside y (List.mem_of_mem_erase hy), ?_, ?_⟩
  · intro y hy
    have hy : y ∈ s.inside.erase x := hy
    rw [hempty] at hy
    cases hy
  · show (s.inside.erase x).length ≤ 1
    rw [hempty]
    exact Nat.zero_le _

theorem OneHandle.step (h : OneHandle s) (hg : Orderly s e) (hs : deviceStep s e = some s') :
    OneHandle s' := by
  cases e with
  | stackStart created thread =>
    rw [deviceStep] at hs
    split at hs
    · obtain rfl := Option.some.inj hs
      exact .start hg created thread
    · cases hs
  | stackStop =>
    rw [deviceStep] at hs
    split at hs
    · obtain rfl := Option.some.inj hs
      exact ⟨h.imu, h.waiting, h.inside, h.taken, h.one⟩
    · cases hs
  | imuStart =>
    rw [deviceStep] at hs
    split at hs
    · obtain rfl := Option.some.inj hs
      refine ⟨?_, h.waiting, h.inside, h.taken, h.one⟩
      intro mutex hmutex
      obtain rfl := ImuTask.running.inj hmutex
      exact ⟨rfl, hg⟩
    · cases hs
  | imuAccess =>
    rw [deviceStep] at hs
    split at hs
    · rename_i mutex hrun
      split at hs
      · obtain rfl := Option.some.inj hs
        exact h.get (h.imu mutex hrun).1 fun _ => (h.imu mutex hrun).2
      · cases hs
    · cases hs
    · cases hs
  | imuEnd =>
    rw [deviceStep] at hs
    split at hs
    · split at hs
      · obtain rfl := Option.some.inj hs
        refine ⟨?_, h.waiting, h.inside, h.taken, h.one⟩
        intro mutex hmutex
        cases hmutex
      · cases hs
    · cases hs
    · cases hs
  | access user =>
    rw [deviceStep] at hs
    split at hs
    · obtain rfl := Option.some.inj hs
      exact h.get rfl hg
    · cases hs
  | take x =>
    rw [deviceStep] at hs
    split at hs
    · rename_i hcan
      obtain rfl := Option.some.inj hs
      exact h.take hcan.1 hcan.2
    · cases hs
  | giveUp x =>
    rw [deviceStep] at hs
    split at hs
    · obtain rfl := Option.some.inj hs
      exact ⟨h.imu, fun y hy => h.waiting y (List.mem_of_mem_erase hy), h.inside, h.taken, h.one⟩
    · cases hs
  | give x =>
    rw [deviceStep] at hs
    split at hs
    · rename_i hx
      obtain rfl := Option.some.inj hs
      exact h.give hx
    · cases hs

theorem OneHandle.oneLock (h : OneHandle s) : s.OneLock := by
  refine ⟨?_, h.one⟩
  intro mutex hmutex
  rcases List.mem_append.1 hmutex with himu | haccess
  · cases hrun : s.imu with
    | absent =>
      rw [hrun] at himu
      cases himu
    | running k =>
      rw [hrun] at himu
      obtain rfl := List.mem_singleton.1 himu
      exact (h.imu _ hrun).1
    | ended =>
      rw [hrun] at himu
      cases himu
  · obtain ⟨x, hx, rfl⟩ := List.mem_map.1 haccess
    rcases List.mem_append.1 hx with hx | hx
    · exact (h.waiting x hx).1
    · exact (h.inside x hx).1

/-- **One assembly lock.**  In every orderly run everybody has the same handle, and there is one at
most inside. -/
theorem one_lock (h : Run deviceStep Orderly .initial s) : s.OneLock :=
  (h.invariant (fun _ _ _ ht hg hs => ht.step hg hs) OneHandle.initial).oneLock

/-! ## 3. A second start -/

/-- The stack starts, the IMU task asks for the handle and is in a critical section. -/
def startAndMeasure : List Event :=
  [.stackStart true true, .imuStart, .imuAccess, .take ⟨.imuIo, some 0⟩]

/-- A register is read meanwhile. -/
theorem one_lock_modbus :
    ∃ s, exec deviceStep .initial (startAndMeasure ++ [.access .modbus]) = some s ∧
      s.inside = [⟨.imuIo, some 0⟩] ∧ s.waiting = [⟨.modbus, some 0⟩] ∧ s.OneLock := by
  have hmeets : execMeets deviceStep Orderly .initial (startAndMeasure ++ [.access .modbus]) := by
    decide
  exact ⟨_, rfl, rfl, rfl, one_lock (exec_run hmeets rfl)⟩

/-- **Two locks.**  The link goes down and comes back; the IMU task keeps the old mutex, the
Modbus map gets the new one, and both are inside. -/
theorem two_locks :
    ¬ (∀ s, Reach deviceStep .initial s → ∀ h ∈ s.handles, h = s.assemblyMutex) ∧
    ¬ (∀ s, Reach deviceStep .initial s → s.inside.length ≤ 1) := by
  obtain ⟨s, hs, hhandles, hmutex, hinside⟩ : ∃ s, exec deviceStep .initial (startAndMeasure ++
      [.stackStop, .stackStart true true, .access .modbus, .take ⟨.modbus, some 1⟩]) = some s ∧
      s.handles = [some 0, some 1, some 0] ∧ s.assemblyMutex = some 1 ∧ s.inside.length = 2 :=
    ⟨_, rfl, rfl, rfl, rfl⟩
  constructor
  · intro hall
    have hsame := hall s (exec_reach hs) (some 0) (by rw [hhandles]; exact List.mem_cons_self)
    rw [hmutex] at hsame
    cases hsame
  · intro hall
    have hle := hall s (exec_reach hs)
    rw [hinside] at hle
    omega

end GroundTruth.Assembly
