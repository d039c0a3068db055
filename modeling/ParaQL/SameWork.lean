/-
Two connections that do the same work: the states of their VFS differ in counters and
logs only.

Statements run alike on both, when SQLite goes by the SQL text, the parameters and the
pages that it reads.
-/

import ParaQL.EngineSteps
import ParaQL.VfsLockstep

namespace ParaQL

open Async Async.Task Bytes

structure VfsState.SameCore (first second : VfsState) : Prop where
  view : first.view = second.view
  files : first.files = second.files
  stores : first.stores = second.stores
  serial : first.serial = second.serial

namespace VfsState.SameCore

variable {first second third : VfsState}

theorem refl (state : VfsState) : state.SameCore state := ⟨rfl, rfl, rfl, rfl⟩

theorem trans (same : first.SameCore second) (later : second.SameCore third) :
    first.SameCore third :=
  ⟨same.view.trans later.view, same.files.trans later.files, same.stores.trans later.stores,
    same.serial.trans later.serial⟩

theorem record (same : first.SameCore second) (access other : Access) :
    (first.record access).SameCore (second.record other) :=
  ⟨same.view, same.files, same.stores, same.serial⟩

theorem storeOf (same : first.SameCore second) (vfs : ParaVFS) (name : FileName) :
    vfs.storeOf name first = vfs.storeOf name second := by
  simp only [ParaVFS.storeOf, VfsState.currentView, same.view]

theorem addTo (same : first.SameCore second) (name : FileName) (batch : Batch) (op : BatchOp) :
    (first.addTo name batch op).SameCore (second.addTo name batch op) := by
  unfold VfsState.addTo
  rw [same.files]
  cases second.files.lookup name with
  | none => exact same
  | some registered =>
      simp only
      split
      · exact ⟨same.view, rfl, same.stores, same.serial⟩
      · exact same

theorem unregister (same : first.SameCore second) (name : FileName) :
    (first.unregister name).SameCore (second.unregister name) :=
  ⟨same.view, congrArg (Finmap.erase name) same.files, same.stores, same.serial⟩

theorem commit (same : first.SameCore second) (batch : Batch) :
    (first.commit batch).SameCore (second.commit batch) := by
  refine ⟨same.view, same.files, ?_, same.serial⟩
  simp only [VfsState.commit, same.stores]

end VfsState.SameCore

theorem VfsMove.sameCore {vfs : ParaVFS} {name : FileName} {before after : VfsState}
    (move : VfsMove vfs name true before after) : before.SameCore after := by
  cases move with
  | keep => exact .refl _
  | zlib failed => exact ⟨rfl, rfl, rfl, rfl⟩
  | look op failed reads => exact ⟨rfl, rfl, rfl, rfl⟩
  | fail op target mutates => cases mutates
  | make mutates closed => cases mutates
  | add op batch item mutates => cases mutates
  | unregister mutates => cases mutates
  | commit batch mutates => cases mutates

namespace ParaVFS

private theorem sameCore_indiscernible {vfs : ParaVFS} (reliable : vfs.runtime.Reliable)
    (name : FileName) :
    Indiscernible vfs name VfsState.SameCore
      (fun batch counterpart first second => batch = counterpart ∧ first.SameCore second) where
  see op view := related_peerCall reliable fun first second access other same => by
    have recorded := same.record access other
    refine ⟨?_, recorded⟩
    rw [recorded.storeOf, recorded.stores]
  inflate page := by
    intro first second same
    unfold inflate attempt
    simp only [run_atomic, reliable.zlib, Bool.false_or]
    split
    · exact ⟨rfl, same.record _ _⟩
    · exact ⟨rfl, same.record _ _⟩
  openBatch := by
    intro first second same
    unfold openBatch
    simp only [run_atomic, same.files]
    cases second.files.lookup name with
    | some batch => exact ⟨rfl, same⟩
    | none =>
        have sameBatch : Batch.mk (vfs.storeOf name first) first.serial [] =
            Batch.mk (vfs.storeOf name second) second.serial [] := by
          rw [same.storeOf, same.serial]
        exact ⟨sameBatch, same.view,
          congrArg (fun batch => second.files.insert name batch) sameBatch,
          same.stores, congrArg (fun serial => serial + 1) same.serial⟩
  held holding := holding.2
  deflate batch counterpart page := by
    intro first second holding
    unfold deflate attempt
    simp only [run_atomic, reliable.zlib, Bool.false_eq_true, if_false]
    exact ⟨rfl, holding.1, holding.2.record _ _⟩
  addTo op batch counterpart item about := related_peerCall reliable fun _ _ _ _ holding => by
    obtain ⟨rfl, same⟩ := holding
    exact ⟨rfl, (same.record _ _).addTo name batch item⟩
  flush := by
    refine Related.bind (?_ : Related _ _ _ _ fun batch counterpart first second =>
      batch = counterpart ∧ first.SameCore second) fun batch counterpart => ?_
    · intro first second same
      simp only [run_atomic, same.files]
      cases second.files.lookup name with
      | none => exact ⟨rfl, same⟩
      | some batch => exact ⟨rfl, same.unregister name⟩
    · exact related_peerCall reliable fun _ _ _ _ holding => by
        obtain ⟨rfl, same⟩ := holding
        exact ⟨rfl, (same.record _ _).commit batch⟩

end ParaVFS

/-! ### Requests -/

def SqliteCall.timeless : SqliteCall → Prop
  | .currentTime => False
  | _ => True

def SqliteCall.looking : SqliteCall → Prop
  | .file call => call.looks = true
  | .randomness _ => True
  | .currentTime => False

/-- SQLite goes by the SQL text, the parameters and the pages that it reads: it does not
ask for the time, and only statements that run change pages. -/
structure Sqlite.ReadsPages {κ : Type} (sqlite : Sqlite κ) : Prop where
  prepare : ∀ sql, (sqlite.prepare sql).Asks SqliteCall.looking
  reset : ∀ sql, (sqlite.reset sql).Asks SqliteCall.looking
  finalize : ∀ sql, (sqlite.finalize sql).Asks SqliteCall.looking
  bind : ∀ sql parameters, (sqlite.bind sql parameters).Asks SqliteCall.timeless
  run : ∀ sql parameters, (sqlite.run sql parameters).Asks SqliteCall.timeless

private theorem SqliteCall.timeless_of_looking (call : SqliteCall) (looking : call.looking) :
    call.timeless := by
  cases call with
  | currentTime => exact looking
  | _ => trivial

variable {κ α : Type}

structure SameVfs (same : VfsState → VfsState → Prop) (first second : Engine κ) : Prop where
  vfs : same first.vfs second.vfs
  connection : first.connection = second.connection

abbrev SameWork (first second : Engine κ) : Prop := SameVfs VfsState.SameCore first second

theorem SameWork.trans {first second third : Engine κ} (same : SameWork first second)
    (later : SameWork second third) : SameWork first third :=
  ⟨same.vfs.trans later.vfs, same.connection.trans later.connection⟩

namespace Database

variable {db : Database κ}

/-- Alone, a statement runs with the parameters that it was just given. -/
theorem run_bind_bound (sql : String) (parameters : Parameters)
    (next : Parameters → EngineTask κ α) (engine : Engine κ) :
    (do db.bind sql parameters
        let bound ← Task.read fun engine => engine.bound sql
        next bound).run engine =
      (do db.bind sql parameters
          next parameters.stringified).run engine := by
  unfold bind
  split
  · rfl
  · simp only [run_bind, assertArray, run_modify, andThen_ok]
    rcases (db.onHandle sql (db.sqlite.bind sql parameters.stringified)).run _ with
      ⟨result, after⟩
    cases result with
    | error thrown => rfl
    | ok value => simp only [andThen_ok, run_bind, run_modify, run_read, Function.update_self]

section Blind

variable {same : VfsState → VfsState → Prop} {kind : SqliteCall → Prop}
  (blind : ∀ call, kind (.file call) → Blind same (db.vfs.perform call))
  (timeless : ∀ call, kind call → call.timeless)

include blind timeless

private theorem blind_answer {call : SqliteCall} (asked : kind call) :
    Blind (SameVfs same) (db.answer call) := by
  cases call with
  | file call =>
      have native : Blind same (db.vfs.native call) :=
        (blind call asked).bind fun _ => blind_pure _
      exact native.zoom Engine.lawful_vfs (fun _ _ holds => holds.vfs)
        fun _ _ holds _ _ after => ⟨after, holds.connection⟩
  | randomness bytes => exact blind_pure _
  | currentTime => exact (timeless _ asked).elim

private theorem blind_serve {program : Program α} (asks : program.Asks kind) :
    Blind (SameVfs same) (db.serve program) := by
  induction asks with
  | done value => exact blind_pure value
  | ask here _ ih => exact (blind_answer blind timeless here).bind ih

theorem blind_request {program : Request κ α} (asks : program.Asks kind) :
    Blind (SameVfs same) (db.request program) := by
  refine Blind.bind (fun first second holds => ⟨holds.connection, holds⟩) fun connection => ?_
  refine (blind_serve blind timeless (asks connection)).bind fun ended => ?_
  intro first second holds
  rcases ended with ⟨result, connection⟩
  cases result with
  | ok value => exact ⟨rfl, holds.vfs, rfl⟩
  | error thrown => exact ⟨rfl, holds.vfs, rfl⟩

private theorem blind_onHandle (sql : String) {program : Request κ α} (asks : program.Asks kind) :
    Blind (SameVfs same) (db.onHandle sql program) :=
  Blind.bind (fun _ _ holds => ⟨rfl, holds.vfs, holds.connection⟩) fun _ =>
    blind_request blind timeless asks

private theorem blind_bind {sql : String} {parameters : Parameters}
    (asks : (db.sqlite.bind sql parameters.stringified).Asks kind) :
    Blind (SameVfs same) (db.bind sql parameters) := by
  unfold bind
  split
  · exact blind_throw _
  · refine Blind.bind (fun _ _ holds => ⟨rfl, holds.vfs, holds.connection⟩) fun _ => ?_
    exact (blind_onHandle blind timeless sql asks).bind fun _ => fun _ _ holds =>
      ⟨rfl, holds.vfs, holds.connection⟩

/-- A statement runs alike on both connections. -/
theorem blind_runStatement {sql : String} {parameters : Parameters}
    (binds : (db.sqlite.bind sql parameters.stringified).Asks kind)
    (runs : (db.sqlite.run sql parameters.stringified).Asks kind)
    (resets : (db.sqlite.reset sql).Asks kind) :
    Blind (SameVfs same) (db.runStatement sql parameters) := by
  have body : Blind (SameVfs same) (do
      db.bind sql parameters
      let bound ← Task.read fun engine => engine.bound sql
      db.onHandle sql (db.sqlite.run sql bound)) := by
    refine Blind.of_run ?_ (run_bind_bound sql parameters _)
    exact (blind_bind blind timeless binds).bind fun _ => blind_onHandle blind timeless sql runs
  exact Blind.ensure (body.catch fun _ => blind_throw _)
    (blind_onHandle blind timeless sql resets)

end Blind

private theorem sameWork_blind (reliable : db.vfs.runtime.Reliable) (call : VfsCall)
    (_ : SqliteCall.timeless (.file call)) : Blind VfsState.SameCore (db.vfs.perform call) :=
  (ParaVFS.sameCore_indiscernible reliable call.file).perform call rfl

/-- The same work is done by a statement that runs on both. -/
theorem sameWork_runStatement (reliable : db.vfs.runtime.Reliable) (reads : db.sqlite.ReadsPages)
    (sql : String) (parameters : Parameters) :
    Blind SameWork (db.runStatement sql parameters) :=
  blind_runStatement (sameWork_blind reliable) (fun _ known => known) (reads.bind sql _)
    (reads.run sql _) fun connection =>
      (reads.reset sql connection).mono SqliteCall.timeless_of_looking

end Database
end ParaQL
