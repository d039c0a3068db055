/-
The VFS registry of a process with several instances.

All instances register their VFS under one name, and a connection gets the first VFS
with that name, anew for each database that it attaches.  As far as it matters, the registry is
the list of the registered instances, the latest one first.
-/

import Mathlib.Data.List.Induction
import Mathlib.Logic.Function.Basic

namespace ParaQL

abbrev InstanceId := Nat

def paravfsName : String := "paravfs"

inductive VfsEntry where
  | system (name : String)
  | ofInstance (id : InstanceId)
  deriving DecidableEq, Repr

def VfsEntry.name : VfsEntry → String
  | .system name => name
  | .ofInstance _ => paravfsName

def VfsEntry.owner : VfsEntry → Option InstanceId
  | .system _ => none
  | .ofInstance id => some id

structure Platform where
  default : String
  others : List String
  foreign : ∀ name ∈ default :: others, name ≠ paravfsName

def registerVfs (entry : VfsEntry) : List VfsEntry → List VfsEntry
  | [] => [entry]
  | first :: rest => first :: entry :: rest

def findVfs (name : String) (entries : List VfsEntry) : Option VfsEntry :=
  entries.find? fun entry => entry.name = name

inductive InstancePhase where
  | created
  -- `vfsInit` has returned, and `binding.open` is queued or about to be.
  | registered
  -- The VFS of each database of the connection, the main one first.
  | connected (databases : List VfsEntry)
  -- `binding.close` is done, or the open has failed.
  | disconnected
  | destroyed
  deriving DecidableEq, Repr

structure Process where
  entries : List VfsEntry
  phase : InstanceId → InstancePhase
  operations : List (InstanceId × VfsEntry)

/-- `paravfs_init`, `paraql__on_before_open`, what statements do, `paraql__on_before_close` and
`paravfs_destroy`. -/
inductive ProcessEvent where
  | register (id : InstanceId)
  | connect (id : InstanceId)
  | refuse (id : InstanceId)
  -- ATTACH, and VACUUM for the file that it copies to.
  | attach (id : InstanceId)
  -- DETACH, and the end of VACUUM.
  | detach (id : InstanceId) (database : Nat)
  | operate (id : InstanceId) (database : Nat)
  | disconnect (id : InstanceId)
  | unregister (id : InstanceId)
  deriving DecidableEq, Repr

def Process.initial (platform : Platform) : Process :=
  { entries := (platform.default :: platform.others).map .system
    phase := fun _ => .created
    operations := [] }

def Process.setPhase (process : Process) (id : InstanceId) (phase : InstancePhase) : Process :=
  { process with phase := Function.update process.phase id phase }

def Process.step (process : Process) : ProcessEvent → Option Process
  | .register id =>
      match process.phase id with
      | .created => some { process.setPhase id .registered with
          entries := registerVfs (.ofInstance id) process.entries }
      | _ => none
  | .connect id =>
      match process.phase id, findVfs paravfsName process.entries with
      | .registered, some vfs => some (process.setPhase id (.connected [vfs]))
      | _, _ => none
  | .refuse id =>
      match process.phase id with
      | .registered => some (process.setPhase id .disconnected)
      | _ => none
  | .attach id =>
      -- SQLite looks for the name of the VFS that the connection was opened with.
      match process.phase id, findVfs paravfsName process.entries with
      | .connected databases, some vfs =>
          some (process.setPhase id (.connected (databases ++ [vfs])))
      | _, _ => none
  | .detach id database =>
      match process.phase id with
      | .connected (main :: attached) =>
          some (process.setPhase id (.connected (main :: attached.eraseIdx database)))
      | _ => none
  | .operate id database =>
      match process.phase id with
      | .connected databases =>
          databases[database]?.map fun vfs =>
            { process with operations := process.operations ++ [(id, vfs)] }
      | _ => none
  | .disconnect id =>
      match process.phase id with
      | .connected _ => some (process.setPhase id .disconnected)
      | _ => none
  | .unregister id =>
      match process.phase id with
      | .disconnected => some { process.setPhase id .destroyed with
          entries := process.entries.erase (.ofInstance id) }
      | _ => none

def Process.run (process : Process) (events : List ProcessEvent) : Option Process :=
  events.foldlM Process.step process

/-- Every connection is on the VFS of its own instance, and made all its file operations
there. -/
structure Process.OwnVfs (process : Process) : Prop where
  connected : ∀ id databases, process.phase id = .connected databases →
    ∀ vfs ∈ databases, vfs = .ofInstance id
  operated : ∀ id vfs, (id, vfs) ∈ process.operations → vfs = .ofInstance id

def Platform.IsolatesInstances (platform : Platform) : Prop :=
  ∀ events process, (Process.initial platform).run events = some process → process.OwnVfs

/-! ### The registered instances -/

def ProcessEvent.registered (ids : List InstanceId) : ProcessEvent → List InstanceId
  | .register id => id :: ids
  | .unregister id => ids.erase id
  | _ => ids

def registeredAfter (events : List ProcessEvent) : List InstanceId :=
  events.foldl ProcessEvent.registered []

/-- The instance for whose connection SQLite looks for a VFS. -/
def ProcessEvent.seeker : ProcessEvent → Option InstanceId
  | .connect id => some id
  | .attach id => some id
  | _ => none

/-- Whenever a connection is opened or attaches a database, no instance is registered that
came later than its own. -/
def OpensLatest (events : List ProcessEvent) : Prop :=
  ∀ earlier event later id, events = earlier ++ event :: later → event.seeker = some id →
    (registeredAfter earlier).head? = some id

private theorem run_snoc (process : Process) (events : List ProcessEvent) (event : ProcessEvent) :
    process.run (events ++ [event]) = (process.run events).bind fun after => after.step event := by
  simp [Process.run, List.foldlM_append]

private theorem registeredAfter_snoc (events : List ProcessEvent) (event : ProcessEvent) :
    registeredAfter (events ++ [event]) = event.registered (registeredAfter events) :=
  List.foldl_append

private theorem owners_erase (entries : List VfsEntry) (id : InstanceId) :
    (entries.erase (.ofInstance id)).filterMap VfsEntry.owner =
      (entries.filterMap VfsEntry.owner).erase id := by
  induction entries with
  | nil => rfl
  | cons entry entries ih =>
      cases entry with
      | system name =>
          rw [List.erase_cons_tail (by simp)]
          exact ih
      | ofInstance other =>
          by_cases same : other = id
          · subst same
            rw [List.erase_cons_head]
            exact (List.erase_cons_head ..).symm
          · rw [List.erase_cons_tail (by simpa using same)]
            refine (congrArg (List.cons other) ih).trans ?_
            exact (List.erase_cons_tail (by simpa using same)).symm

private theorem findVfs_owners {entries : List VfsEntry}
    (foreign : ∀ name, .system name ∈ entries → name ≠ paravfsName) :
    findVfs paravfsName entries =
      (entries.filterMap VfsEntry.owner).head?.map VfsEntry.ofInstance := by
  induction entries with
  | nil => rfl
  | cons entry entries ih =>
      have rest := ih fun name member => foreign name (List.mem_cons_of_mem _ member)
      cases entry with
      | system name =>
          have other := foreign name List.mem_cons_self
          unfold findVfs
          rw [List.find?_cons_of_neg (by simp [VfsEntry.name, other])]
          exact rest
      | ofInstance id => exact List.find?_cons_of_pos (by simp [VfsEntry.name])

structure Mirrors (process : Process) (ids : List InstanceId) : Prop where
  head : ∃ name rest, process.entries = .system name :: rest
  foreign : ∀ name, .system name ∈ process.entries → name ≠ paravfsName
  owners : process.entries.filterMap VfsEntry.owner = ids

theorem mirrors_initial (platform : Platform) : Mirrors (Process.initial platform) [] := by
  refine ⟨⟨_, _, rfl⟩, ?_, ?_⟩
  · intro name member
    obtain ⟨other, listed, same⟩ := List.mem_map.1 member
    cases same
    exact platform.foreign name listed
  · unfold Process.initial
    rw [List.filterMap_map]
    exact List.filterMap_eq_nil_iff.2 fun _ _ => rfl

private theorem Mirrors.register {process : Process} {ids : List InstanceId}
    (mirrors : Mirrors process ids)
    (id : InstanceId) (phase : InstancePhase) :
    Mirrors { process.setPhase id phase with
      entries := registerVfs (.ofInstance id) process.entries } (id :: ids) := by
  obtain ⟨name, rest, listed⟩ := mirrors.head
  have foreign := mirrors.foreign
  have owners := mirrors.owners
  rw [listed] at foreign owners
  refine ⟨⟨name, .ofInstance id :: rest, ?_⟩, ?_, ?_⟩ <;> simp only [listed, registerVfs]
  · intro other member
    refine foreign other ?_
    simpa using member
  · exact congrArg (List.cons id) owners

theorem Mirrors.unregister {process : Process} {ids : List InstanceId}
    (mirrors : Mirrors process ids) (id : InstanceId) (phase : InstancePhase) :
    Mirrors { process.setPhase id phase with
      entries := process.entries.erase (.ofInstance id) } (ids.erase id) := by
  obtain ⟨name, rest, listed⟩ := mirrors.head
  refine ⟨⟨name, rest.erase (.ofInstance id), ?_⟩, ?_, ?_⟩
  · simp only [listed]
    exact List.erase_cons_tail (by simp)
  · exact fun other member => mirrors.foreign other (List.mem_of_mem_erase member)
  · exact (owners_erase _ _).trans (congrArg (fun list => list.erase id) mirrors.owners)

private theorem step_cases {process after : Process} {event : ProcessEvent}
    (step : process.step event = some after) :
    (∃ id, event = .register id ∧ after = { process.setPhase id .registered with
      entries := registerVfs (.ofInstance id) process.entries }) ∨
    (∃ id vfs databases, event.seeker = some id ∧
      findVfs paravfsName process.entries = some vfs ∧
      (databases = [] ∨ process.phase id = .connected databases) ∧
      after = process.setPhase id (.connected (databases ++ [vfs]))) ∨
    (∃ id main attached database, event = .detach id database ∧
      process.phase id = .connected (main :: attached) ∧
      after = process.setPhase id (.connected (main :: attached.eraseIdx database))) ∨
    (∃ id, (event = .refuse id ∨ event = .disconnect id) ∧
      after = process.setPhase id .disconnected) ∨
    (∃ id database databases vfs, event = .operate id database ∧
      process.phase id = .connected databases ∧ databases[database]? = some vfs ∧
      after = { process with operations := process.operations ++ [(id, vfs)] }) ∨
    ∃ id, event = .unregister id ∧ after = { process.setPhase id .destroyed with
      entries := process.entries.erase (.ofInstance id) } := by
  cases event with
  | register id =>
      simp only [Process.step] at step
      split at step
      · exact .inl ⟨id, rfl, (Option.some.inj step).symm⟩
      · cases step
  | connect id =>
      simp only [Process.step] at step
      split at step
      · rename_i vfs _ found
        exact .inr (.inl ⟨id, vfs, [], rfl, found, .inl rfl, (Option.some.inj step).symm⟩)
      · cases step
  | attach id =>
      simp only [Process.step] at step
      split at step
      · rename_i databases vfs connected found
        exact .inr (.inl ⟨id, vfs, databases, rfl, found, .inr connected,
          (Option.some.inj step).symm⟩)
      · cases step
  | detach id database =>
      simp only [Process.step] at step
      split at step
      · rename_i main attached connected
        exact .inr (.inr (.inl ⟨id, main, attached, database, rfl, connected,
          (Option.some.inj step).symm⟩))
      · cases step
  | refuse id =>
      simp only [Process.step] at step
      split at step
      · exact .inr (.inr (.inr (.inl ⟨id, .inl rfl, (Option.some.inj step).symm⟩)))
      · cases step
  | operate id database =>
      simp only [Process.step] at step
      split at step
      · rename_i databases connected
        obtain ⟨vfs, found, rfl⟩ := Option.map_eq_some_iff.1 step
        exact .inr (.inr (.inr (.inr (.inl
          ⟨id, database, databases, vfs, rfl, connected, found, rfl⟩))))
      · cases step
  | disconnect id =>
      simp only [Process.step] at step
      split at step
      · exact .inr (.inr (.inr (.inl ⟨id, .inr rfl, (Option.some.inj step).symm⟩)))
      · cases step
  | unregister id =>
      simp only [Process.step] at step
      split at step
      · exact .inr (.inr (.inr (.inr (.inr ⟨id, rfl, (Option.some.inj step).symm⟩))))
      · cases step

/-- Looking for a VFS changes nothing in the registry. -/
theorem registered_seeker {event : ProcessEvent} {id : InstanceId} (seeks : event.seeker = some id)
    (ids : List InstanceId) : event.registered ids = ids := by
  cases event <;> first | rfl | cases seeks

theorem Mirrors.step {process after : Process} {ids : List InstanceId} {event : ProcessEvent}
    (mirrors : Mirrors process ids) (step : process.step event = some after) :
    Mirrors after (event.registered ids) := by
  have same {phase : InstancePhase} {id : InstanceId} : Mirrors (process.setPhase id phase) ids :=
    ⟨mirrors.head, mirrors.foreign, mirrors.owners⟩
  rcases step_cases step with ⟨id, rfl, rfl⟩ | ⟨id, vfs, databases, seeks, _, _, rfl⟩ |
    ⟨id, main, attached, database, rfl, _, rfl⟩ | ⟨id, rfl | rfl, rfl⟩ |
    ⟨id, database, databases, vfs, rfl, _, _, rfl⟩ | ⟨id, rfl, rfl⟩
  · exact mirrors.register id _
  · rw [registered_seeker seeks]
    exact same
  · exact same
  · exact same
  · exact same
  · exact ⟨mirrors.head, mirrors.foreign, mirrors.owners⟩
  · exact mirrors.unregister id _

private theorem mirrors_run (platform : Platform) (events : List ProcessEvent) (process : Process)
    (ran : (Process.initial platform).run events = some process) :
    Mirrors process (registeredAfter events) := by
  induction events using List.reverseRecOn generalizing process with
  | nil =>
      cases ran
      exact mirrors_initial platform
  | append_singleton events event ih =>
      rw [run_snoc] at ran
      obtain ⟨before, ranBefore, step⟩ := Option.bind_eq_some_iff.1 ran
      rw [registeredAfter_snoc]
      exact (ih before ranBefore).step step

theorem Process.OwnVfs.setPhase {process : Process} (own : process.OwnVfs) (id : InstanceId)
    {phase : InstancePhase} (mine : ∀ databases, phase = .connected databases →
      ∀ vfs ∈ databases, vfs = .ofInstance id) : (process.setPhase id phase).OwnVfs := by
  refine ⟨fun other databases connected => ?_, own.operated⟩
  unfold Process.setPhase at connected
  by_cases same : other = id
  · subst same
    exact mine databases ((Function.update_self ..).symm.trans connected)
  · exact own.connected other databases ((Function.update_of_ne same ..).symm.trans connected)

theorem Process.OwnVfs.step {process after : Process} {event : ProcessEvent}
    (own : process.OwnVfs) (step : process.step event = some after)
    (opens : ∀ id, event.seeker = some id →
      findVfs paravfsName process.entries = some (.ofInstance id)) : after.OwnVfs := by
  rcases step_cases step with ⟨id, rfl, rfl⟩ | ⟨id, vfs, databases, seeks, found, before, rfl⟩ |
    ⟨id, main, attached, database, rfl, connected, rfl⟩ | ⟨id, _, rfl⟩ |
    ⟨id, database, databases, vfs, rfl, connected, found, rfl⟩ | ⟨id, rfl, rfl⟩
  · have kept : (process.setPhase id .registered).OwnVfs := own.setPhase id (by simp)
    exact ⟨kept.connected, kept.operated⟩
  · refine own.setPhase id fun all same used member => ?_
    cases same
    rcases List.mem_append.1 member with old | new
    · rcases before with rfl | connected
      · cases old
      · exact own.connected id databases connected used old
    · rw [List.mem_singleton.1 new]
      exact Option.some.inj (found.symm.trans (opens id seeks))
  · refine own.setPhase id fun all same used member => ?_
    cases same
    refine own.connected id _ connected used ?_
    rcases List.mem_cons.1 member with rfl | kept
    · exact List.mem_cons_self
    · exact List.mem_cons_of_mem _ (List.mem_of_mem_eraseIdx kept)
  · exact own.setPhase id (by simp)
  · refine ⟨own.connected, fun other asked member => ?_⟩
    rcases List.mem_append.1 member with earlier | last
    · exact own.operated other asked earlier
    · cases List.mem_singleton.1 last
      exact own.connected id databases connected vfs (List.mem_of_getElem? found)
  · have kept : (process.setPhase id .destroyed).OwnVfs := own.setPhase id (by simp)
    exact ⟨kept.connected, kept.operated⟩

private theorem findVfs_run {platform : Platform} {events : List ProcessEvent} {process : Process}
    (ran : (Process.initial platform).run events = some process) :
    findVfs paravfsName process.entries =
      (registeredAfter events).head?.map VfsEntry.ofInstance := by
  have mirrors := mirrors_run platform events process ran
  rw [findVfs_owners mirrors.foreign, mirrors.owners]

theorem OpensLatest.earlier {events : List ProcessEvent} {event : ProcessEvent}
    (opens : OpensLatest (events ++ [event])) : OpensLatest events := by
  intro before seeking after id split
  exact opens before seeking (after ++ [event]) id
    (by rw [split, List.append_assoc, List.cons_append])

private theorem ownVfs_run {platform : Platform} {events : List ProcessEvent}
    (opens : OpensLatest events)
    {process : Process} (ran : (Process.initial platform).run events = some process) :
    process.OwnVfs := by
  induction events using List.reverseRecOn generalizing process with
  | nil =>
      cases ran
      exact ⟨fun _ _ => InstancePhase.noConfusion, fun _ _ member => by cases member⟩
  | append_singleton events event ih =>
      rw [run_snoc] at ran
      obtain ⟨before, ranBefore, step⟩ := Option.bind_eq_some_iff.1 ran
      refine (ih opens.earlier ranBefore).step step fun id seeks => ?_
      rw [findVfs_run ranBefore, opens events event [] id rfl seeks]
      rfl

private theorem run_earlier {process after : Process} {events later : List ProcessEvent}
    (ran : process.run (events ++ later) = some after) :
    ∃ middle, process.run events = some middle := by
  unfold Process.run at ran ⊢
  rw [List.foldlM_append] at ran
  obtain ⟨middle, ranMiddle, _⟩ := Option.bind_eq_some_iff.1 ran
  exact ⟨middle, ranMiddle⟩

private theorem seeker_step {process after : Process} {event : ProcessEvent} {id : InstanceId}
    (step : process.step event = some after) (seeks : event.seeker = some id) :
    ∃ vfs databases, findVfs paravfsName process.entries = some vfs ∧
      after = process.setPhase id (.connected (databases ++ [vfs])) := by
  rcases step_cases step with ⟨_, rfl, _⟩ | ⟨other, vfs, databases, isSeeker, found, _, rfl⟩ |
    ⟨_, _, _, _, rfl, _⟩ | ⟨_, rfl | rfl, _⟩ | ⟨_, _, _, _, rfl, _⟩ | ⟨_, rfl, _⟩
  · cases seeks
  · cases Option.some.inj (isSeeker.symm.trans seeks)
    exact ⟨vfs, databases, found, rfl⟩
  · cases seeks
  · cases seeks
  · cases seeks
  · cases seeks
  · cases seeks

/-- In a possible run, all connections are on their own VFS all the time if and only if
each of them is opened, and attaches databases, while its instance is the latest one. -/
theorem ownVfs_iff (platform : Platform) (events : List ProcessEvent)
    (possible : ((Process.initial platform).run events).isSome) :
    (∀ earlier later process, events = earlier ++ later →
      (Process.initial platform).run earlier = some process → process.OwnVfs) ↔
      OpensLatest events := by
  obtain ⟨final, ran⟩ := Option.isSome_iff_exists.1 possible
  constructor
  · intro own earlier event later id split seeks
    rw [split, List.append_cons] at ran
    obtain ⟨after, ranAfter⟩ := run_earlier ran
    have ownAfter := own _ later after (by rw [split, List.append_cons]) ranAfter
    rw [run_snoc] at ranAfter
    obtain ⟨before, ranBefore, step⟩ := Option.bind_eq_some_iff.1 ranAfter
    obtain ⟨vfs, databases, found, rfl⟩ := seeker_step step seeks
    have isOwn := ownAfter.connected id _ (Function.update_self ..) vfs
      (List.mem_append_right _ (List.mem_singleton.2 rfl))
    rw [findVfs_run ranBefore, isOwn] at found
    obtain ⟨latest, atHead, isLatest⟩ := Option.map_eq_some_iff.1 found
    cases isLatest
    exact atHead
  · intro opens earlier later process split ranEarlier
    refine ownVfs_run (fun before event after id splitEarlier => ?_) ranEarlier
    exact opens before event (after ++ later) id (by
      rw [split, splitEarlier, List.append_assoc, List.cons_append])

/-- `sqlite3_os_init` on Unix. -/
def unix : Platform :=
  { default := "unix"
    others := ["unix-none", "unix-dotfile", "unix-excl"]
    foreign := by decide }

/-- Two instances that are opened one after the other, the first of which attaches a database
when the second is closed again. -/
theorem ownVfs_iff_inTurn :
    let events : List ProcessEvent :=
      [.register 0, .connect 0, .register 1, .connect 1, .attach 1, .operate 0 0, .operate 1 1,
        .disconnect 1, .unregister 1, .attach 0, .operate 0 1, .detach 0 0]
    (∀ earlier later process, events = earlier ++ later →
      (Process.initial unix).run earlier = some process → process.OwnVfs) ↔ OpensLatest events :=
  ownVfs_iff unix _ (by decide)

/-- Two instances that are opened at the same time: the first connection works on the
files of the second instance. -/
theorem isolatesInstances_together_fails : ¬unix.IsolatesInstances := by
  intro isolates
  have own := isolates [.register 0, .register 1, .connect 0, .operate 0 0] _ rfl
  have served := own.operated 0 (.ofInstance 1) (by decide)
  cases served

end ParaQL
