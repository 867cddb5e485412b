/-
# One server task

`modbus_tcp_start` creates the server task when `s_server_task_handle` is NULL, and the task
clears it when it ends.  `modbus_tcp_stop` closes the listening socket, waits for one second and
then clears it itself, whether the task has ended or not: a task that is still in `recv` then runs
on beside the one that the next start creates, and both read the one `s_running`.

* `Tracked.step`: while no wait of a stop ends before the task does, and the mutex is created once,
  the handle is set just while there is a task, and no task waits on a socket that a stop which has
  returned closed;
* `single_server`: so it is in every run;
* `two_servers`: a client that is silent for a second is enough for two.

The sections under `s_modbus_mutex` are taken whole.  Once a second mutex has replaced the first
they exclude each other no longer: the machine does not follow that, and the condition of
`single_server` leaves it out.
-/
import Mathlib
import GroundTruth.Lib.Run

namespace GroundTruth.Modbus

open GroundTruth.Lib

/-! ## 1. The server -/

/-- Where a server task is. -/
inductive TaskPhase
  /-- at the head of its loop -/
  | top
  /-- it has seen `s_running` set -/
  | checked
  /-- in `select`, on the listening socket it has read -/
  | selecting (listener : Option Nat)
  /-- `select` has returned -/
  | ready
  /-- in `accept`, on the listening socket it has read -/
  | accepting (listener : Option Nat)
  /-- it goes through its clients, and waits in `recv` for as long as one of them likes -/
  | serving
  /-- out of the loop, before it clears the handle -/
  | leaving
  deriving DecidableEq, Repr

/-- The listening socket that a task is using. -/
def TaskPhase.uses : TaskPhase → Option Nat
  | .selecting k => k
  | .accepting k => k
  | _ => none

/-- The task is in its loop. -/
def TaskPhase.inLoop : TaskPhase → Bool
  | .leaving => false
  | _ => true

structure Server where
  /-- `s_modbus_mutex` is not NULL -/
  mutex : Bool
  /-- the calls of `modbus_tcp_init` that have seen NULL there and are about to create one -/
  creating : Nat
  /-- `s_listen_socket`; a socket is known by when it was opened -/
  listen : Option Nat
  nextSocket : Nat
  /-- the calls of `modbus_tcp_init` that have failed after they opened the socket, have given the
  mutex back and are about to close the socket -/
  undoing : Nat
  /-- `s_running` -/
  running : Bool
  /-- `s_server_task_handle` is not NULL; nothing else of it is looked at -/
  handle : Bool
  /-- the server tasks that there are -/
  tasks : List TaskPhase
  /-- the calls of `modbus_tcp_stop` in their wait, each with the socket it has closed -/
  waits : List (Option Nat)
  /-- the sockets closed by calls of `modbus_tcp_stop` that have returned -/
  retired : List Nat
  deriving DecidableEq, Repr

/-- After a reboot. -/
def Server.initial : Server :=
  { mutex := false, creating := 0, listen := none, nextSocket := 0, undoing := 0,
    running := false, handle := false, tasks := [], waits := [], retired := [] }

/-- What the socket calls of `modbus_tcp_init` bring. -/
inductive Listening
  /-- `socket` fails -/
  | noSocket
  /-- `setsockopt`, `bind` or `listen` fails -/
  | failed
  | ok
  deriving DecidableEq, Repr

/-- The section of `modbus_tcp_init`. -/
def modbusTcpInit (r : Listening) (s : Server) : Server :=
  if s.listen.isSome = true then s
  else match r with
    | .noSocket => s
    | .failed =>
      { s with listen := some s.nextSocket, nextSocket := s.nextSocket + 1,
               undoing := s.undoing + 1 }
    | .ok => { s with listen := some s.nextSocket, nextSocket := s.nextSocket + 1 }

/-- `modbus_tcp_start`; `created` is what `xTaskCreate` says. -/
def modbusTcpStart (created : Bool) (s : Server) : Server :=
  if s.mutex = false then s
  else if s.listen = none then s
  else if s.handle = true then s
  else if created = true then
    { s with running := true, handle := true, tasks := s.tasks ++ [.top] }
  else { s with running := false }

/-- `modbus_tcp_stop` up to its wait, or to its end where there is nothing to wait for. -/
def modbusTcpStop (s : Server) : Server :=
  if s.mutex = false then s
  else
    let closed := s.listen
    let s := { s with running := false, listen := none }
    if s.handle = true then { s with waits := closed :: s.waits }
    else { s with retired := closed.toList ++ s.retired }

/-- A step of `modbus_tcp_server_task`. -/
inductive TaskStep
  /-- it reads `s_running` -/
  | check
  /-- it puts the listening socket into the set and calls `select` -/
  | select
  /-- `select` returns; `ok` unless with an error other than `EINTR` -/
  | selected (ok : Bool)
  /-- it looks whether the listening socket is in the set -/
  | isSet (pending : Bool)
  /-- `accept` returns -/
  | accepted
  /-- it has been through its clients -/
  | served
  deriving DecidableEq, Repr

/-- `modbus_tcp_server_task`, up to where it leaves its loop. -/
def serverTask (s : Server) : TaskPhase → TaskStep → Option TaskPhase
  | .top, .check =>
    some (if s.mutex = true ∧ s.running = false then .leaving else .checked)
  | .checked, .select => some (.selecting s.listen)
  | .selecting _, .selected ok => some (if ok = true then .ready else .leaving)
  | .ready, .isSet pending => some (if pending = true then .accepting s.listen else .serving)
  | .accepting _, .accepted => some .serving
  | .serving, .served => some .top
  | _, _ => none

inductive ServerEvent
  /-- a call of `modbus_tcp_init` finds no mutex -/
  | initEnter
  /-- and creates one, or fails to -/
  | initCreate (created : Bool)
  | initSection (r : Listening)
  /-- a call of `modbus_tcp_init` that has failed closes the socket, without the mutex -/
  | initUndo
  | start (created : Bool)
  | stop
  /-- the wait of a call of `modbus_tcp_stop` ends, and the call returns -/
  | stopped (closed : Option Nat)
  | task (i : Nat) (a : TaskStep)
  /-- a task that has left its loop clears the handle and ends -/
  | ended (i : Nat)
  deriving DecidableEq, Repr

def serverStep (s : Server) : ServerEvent → Option Server
  | .initEnter => if s.mutex = false then some { s with creating := s.creating + 1 } else none
  | .initCreate created =>
    if 0 < s.creating then
      some { s with creating := s.creating - 1, mutex := s.mutex || created }
    else none
  | .initSection r => if s.mutex = true then some (modbusTcpInit r s) else none
  | .initUndo =>
    if 0 < s.undoing then some { s with undoing := s.undoing - 1, listen := none } else none
  | .start created => some (modbusTcpStart created s)
  | .stop => some (modbusTcpStop s)
  | .stopped closed =>
    if closed ∈ s.waits then
      some { s with handle := false, waits := s.waits.erase closed,
                    retired := closed.toList ++ s.retired }
    else none
  | .task i a =>
    s.tasks[i]?.bind fun p => (serverTask s p a).map fun q => { s with tasks := s.tasks.set i q }
  | .ended i =>
    if s.tasks[i]? = some .leaving then
      some { s with handle := false, tasks := s.tasks.eraseIdx i }
    else none

/-- One server task at most is in its loop, and none uses a listening socket that was closed by a
stop which has returned. -/
def Server.Single (s : Server) : Prop :=
  (s.tasks.filter TaskPhase.inLoop).length ≤ 1 ∧ ∀ p ∈ s.tasks, ∀ k, p.uses = some k → k ∉ s.retired

/-- The mutex is created once, and the wait of a stop does not end before the task has. -/
def Waits (s : Server) : ServerEvent → Prop
  | .initCreate _ => s.mutex = false
  | .stopped _ => s.tasks = []
  | _ => True

instance Waits.decidable (s : Server) : ∀ e, Decidable (Waits s e)
  | .initCreate _ => inferInstanceAs (Decidable (_ = _))
  | .stopped _ => inferInstanceAs (Decidable (_ = _))
  | .initEnter | .initSection _ | .initUndo | .start _ | .stop | .task _ _ | .ended _ =>
    inferInstanceAs (Decidable True)

/-! ## 2. What the handle says -/

variable {s s' : Server} {e : ServerEvent}

/-- The handle is set just while there is a task, and the sockets that stops have closed are in
nobody's hands. -/
structure Tracked (s : Server) : Prop where
  tasks : s.tasks.length = s.handle.toNat
  listen : ∀ k, s.listen = some k → k < s.nextSocket ∧ k ∉ s.retired ∧ some k ∉ s.waits
  waits : ∀ k, some k ∈ s.waits → k < s.nextSocket
  retired : ∀ k ∈ s.retired, k < s.nextSocket
  uses : ∀ p ∈ s.tasks, ∀ k, p.uses = some k → k ∉ s.retired

theorem Tracked.initial : Tracked .initial where
  tasks := rfl
  listen := by
    intro k hk
    cases hk
  waits := by
    intro k hk
    cases hk
  retired := by
    intro k hk
    cases hk
  uses := by
    intro p hp
    cases hp

theorem Tracked.no_task (h : Tracked s) (hh : s.handle = false) : s.tasks = [] := by
  have hlen := h.tasks
  rw [hh, Bool.toNat_false] at hlen
  exact List.eq_nil_of_length_eq_zero hlen

/-- A socket just opened is new. -/
theorem Tracked.opened (h : Tracked s) (n : Nat) :
    Tracked { s with listen := some s.nextSocket, nextSocket := s.nextSocket + 1, undoing := n } where
  tasks := h.tasks
  listen := by
    intro k hk
    obtain rfl := Option.some.inj hk
    refine ⟨Nat.lt_succ_self _, ?_, ?_⟩
    · intro hmem
      exact Nat.lt_irrefl _ (h.retired _ hmem)
    · intro hmem
      exact Nat.lt_irrefl _ (h.waits _ hmem)
  waits := fun k hk => Nat.lt_succ_of_lt (h.waits k hk)
  retired := fun k hk => Nat.lt_succ_of_lt (h.retired k hk)
  uses := h.uses

theorem Tracked.init (h : Tracked s) (r : Listening) : Tracked (modbusTcpInit r s) := by
  unfold modbusTcpInit
  split
  · exact h
  · cases r with
    | noSocket => exact h
    | failed => exact h.opened _
    | ok => exact h.opened s.undoing

/-- **`modbus_tcp_start`** creates a task only where there is none. -/
theorem Tracked.start (h : Tracked s) (created : Bool) : Tracked (modbusTcpStart created s) := by
  unfold modbusTcpStart
  split
  · exact h
  · split
    · exact h
    · split
      · exact h
      · rename_i hhandle
        have hnone := h.no_task (Bool.eq_false_iff.2 hhandle)
        split
        · refine ⟨?_, h.listen, h.waits, h.retired, ?_⟩
          · rw [hnone]
            rfl
          · intro p hp
            rw [hnone, List.nil_append, List.mem_singleton] at hp
            subst hp
            intro k hk
            cases hk
        · exact ⟨h.tasks, h.listen, h.waits, h.retired, h.uses⟩

/-- **`modbus_tcp_stop`** leaves no listening socket; the one there was waits for the task, if
there is a task. -/
theorem Tracked.stop (h : Tracked s) : Tracked (modbusTcpStop s) := by
  unfold modbusTcpStop
  split
  · exact h
  · dsimp only
    split
    · refine ⟨h.tasks, ?_, ?_, h.retired, h.uses⟩
      · intro k hk
        cases hk
      · intro k hk
        rcases List.mem_cons.1 hk with hk | hk
        · exact (h.listen k hk.symm).1
        · exact h.waits k hk
    · rename_i hhandle
      have hnone := h.no_task (Bool.eq_false_iff.2 hhandle)
      refine ⟨h.tasks, ?_, h.waits, ?_, ?_⟩
      · intro k hk
        cases hk
      · intro k hk
        rcases List.mem_append.1 hk with hk | hk
        · exact (h.listen k (Option.mem_toList.1 hk)).1
        · exact h.retired k hk
      · intro p hp
        rw [hnone] at hp
        cases hp

/-- Once there is no task the wait of a stop may end. -/
theorem Tracked.stopped {closed : Option Nat} (h : Tracked s) (hmem : closed ∈ s.waits)
    (hnone : s.tasks = []) :
    Tracked { s with handle := false, waits := s.waits.erase closed,
                     retired := closed.toList ++ s.retired } where
  tasks := by rw [hnone]; rfl
  listen := by
    intro k hk
    obtain ⟨hlt, hret, hwait⟩ := h.listen k hk
    refine ⟨hlt, ?_, fun hw => hwait (List.mem_of_mem_erase hw)⟩
    intro hm
    rcases List.mem_append.1 hm with hm | hm
    · rw [Option.mem_toList] at hm
      rw [hm] at hmem
      exact hwait hmem
    · exact hret hm
  waits := fun k hk => h.waits k (List.mem_of_mem_erase hk)
  retired := by
    intro k hk
    rcases List.mem_append.1 hk with hk | hk
    · rw [Option.mem_toList] at hk
      rw [hk] at hmem
      exact h.waits k hmem
    · exact h.retired k hk
  uses := by
    intro p hp
    rw [hnone] at hp
    cases hp

/-- What a task takes into its hands is the listening socket of the moment. -/
theorem serverTask_uses {p q : TaskPhase} {a : TaskStep} (h : serverTask s p a = some q) {k : Nat}
    (hk : q.uses = some k) : s.listen = some k := by
  unfold serverTask at h
  split at h
  · obtain rfl := Option.some.inj h
    split at hk
    · cases hk
    · cases hk
  · obtain rfl := Option.some.inj h
    exact hk
  · obtain rfl := Option.some.inj h
    split at hk
    · cases hk
    · cases hk
  · obtain rfl := Option.some.inj h
    split at hk
    · exact hk
    · cases hk
  · obtain rfl := Option.some.inj h
    cases hk
  · obtain rfl := Option.some.inj h
    cases hk
  · cases h

theorem Tracked.task {i : Nat} {a : TaskStep} {p q : TaskPhase} (h : Tracked s)
    (hq : serverTask s p a = some q) : Tracked { s with tasks := s.tasks.set i q } where
  tasks := by
    rw [List.length_set]
    exact h.tasks
  listen := h.listen
  waits := h.waits
  retired := h.retired
  uses := by
    intro p' hp' k hk
    rcases List.mem_or_eq_of_mem_set hp' with hold | rfl
    · exact h.uses p' hold k hk
    · exact (h.listen k (serverTask_uses hq hk)).2.1

/-- The task that ends is the one there was. -/
theorem Tracked.ended {i : Nat} (h : Tracked s) (hi : i < s.tasks.length) :
    Tracked { s with handle := false, tasks := s.tasks.eraseIdx i } where
  tasks := by
    have hone := h.tasks
    have hle := Bool.toNat_le s.handle
    rw [List.length_eraseIdx_of_lt hi, Bool.toNat_false]
    omega
  listen := h.listen
  waits := h.waits
  retired := h.retired
  uses := fun p hp => h.uses p (List.mem_of_mem_eraseIdx hp)

theorem Tracked.step (h : Tracked s) (hg : Waits s e) (hs : serverStep s e = some s') :
    Tracked s' := by
  cases e with
  | initEnter =>
    rw [serverStep] at hs
    split at hs
    · obtain rfl := Option.some.inj hs
      exact ⟨h.tasks, h.listen, h.waits, h.retired, h.uses⟩
    · cases hs
  | initCreate created =>
    rw [serverStep] at hs
    split at hs
    · obtain rfl := Option.some.inj hs
      exact ⟨h.tasks, h.listen, h.waits, h.retired, h.uses⟩
    · cases hs
  | initSection r =>
    rw [serverStep] at hs
    split at hs
    · obtain rfl := Option.some.inj hs
      exact h.init r
    · cases hs
  | initUndo =>
    rw [serverStep] at hs
    split at hs
    · obtain rfl := Option.some.inj hs
      refine ⟨h.tasks, ?_, h.waits, h.retired, h.uses⟩
      intro k hk
      cases hk
    · cases hs
  | start created =>
    obtain rfl := Option.some.inj hs
    exact h.start created
  | stop =>
    obtain rfl := Option.some.inj hs
    exact h.stop
  | stopped closed =>
    rw [serverStep] at hs
    split at hs
    · rename_i hmem
      obtain rfl := Option.some.inj hs
      exact h.stopped hmem hg
    · cases hs
  | task i a =>
    simp only [serverStep, Option.bind_eq_some_iff, Option.map_eq_some_iff] at hs
    obtain ⟨p, -, q, hq, rfl⟩ := hs
    exact h.task hq
  | ended i =>
    rw [serverStep] at hs
    split at hs
    · rename_i hi
      obtain rfl := Option.some.inj hs
      exact h.ended (List.getElem?_eq_some_iff.1 hi).1
    · cases hs

theorem Tracked.single (h : Tracked s) : s.Single := by
  refine ⟨?_, h.uses⟩
  have hfilter := List.length_filter_le TaskPhase.inLoop s.tasks
  have hone := h.tasks
  have hle := Bool.toNat_le s.handle
  omega

/-- **One server task.**  In every run in which the mutex is created once and no wait of a stop
ends before the task does, one task at most is in its loop, and none uses a listening socket that
was closed by a stop which has returned. -/
theorem single_server (h : Run serverStep Waits .initial s) : s.Single :=
  (h.invariant (fun _ _ _ ht hg hs => ht.step hg hs) Tracked.initial).single

/-! ## 3. A client that is silent for a second -/

/-- The server is started, and its task comes to the clients. -/
def startAndServe : List ServerEvent :=
  [.initEnter, .initCreate true, .initSection .ok, .start true, .task 0 .check, .task 0 .select,
    .task 0 (.selected true), .task 0 (.isSet true), .task 0 .accepted]

/-- Stopped, and started again once the task is gone. -/
def restart : List ServerEvent :=
  [.stop, .task 0 .served, .task 0 .check, .ended 0, .stopped (some 0), .initSection .ok,
    .start true]

theorem single_server_restart :
    ∃ s, exec serverStep .initial (startAndServe ++ restart) = some s ∧ s.tasks = [.top] ∧
      s.Single := by
  have hmeets : execMeets serverStep Waits .initial (startAndServe ++ restart) := by decide
  exact ⟨_, rfl, rfl, single_server (exec_run hmeets rfl)⟩

/-- **Two servers.**  The task waits in `recv` while the server is stopped and started again, and
then finds the server running.  And a task may still be in `select` on the socket that the stop
has closed when the stop returns. -/
theorem two_servers :
    ¬ (∀ s, Reach serverStep .initial s → (s.tasks.filter TaskPhase.inLoop).length ≤ 1) ∧
    ¬ (∀ s, Reach serverStep .initial s →
      ∀ p ∈ s.tasks, ∀ k, p.uses = some k → k ∉ s.retired) := by
  constructor
  · intro hall
    obtain ⟨s, hs, htwo⟩ : ∃ s, exec serverStep .initial (startAndServe ++
        [.stop, .stopped (some 0), .initSection .ok, .start true, .task 0 .served, .task 0 .check,
          .task 1 .check]) = some s ∧ s.tasks = [.checked, .checked] := ⟨_, rfl, rfl⟩
    have hle := hall s (exec_reach hs)
    rw [htwo] at hle
    revert hle
    decide
  · intro hall
    obtain ⟨s, hs, hp, hret⟩ : ∃ s, exec serverStep .initial
        [.initEnter, .initCreate true, .initSection .ok, .start true, .task 0 .check,
          .task 0 .select, .stop, .stopped (some 0)] = some s ∧
        s.tasks = [.selecting (some 0)] ∧ s.retired = [0] := ⟨_, rfl, rfl, rfl⟩
    have hmem : TaskPhase.selecting (some 0) ∈ s.tasks := by
      rw [hp]
      exact List.mem_singleton_self _
    have hnot := hall s (exec_reach hs) _ hmem 0 rfl
    rw [hret] at hnot
    exact hnot (List.mem_singleton_self 0)

end GroundTruth.Modbus
