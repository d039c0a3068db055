/-
What stays open: a statement that was prepared is found in the cache, and no run of a
statement closes another.

Preparing, and the attempt of a STMT, change nothing that a later run can see.
-/

import ParaQL.FlushAccounting
import ParaQL.SameWork

namespace ParaQL

open Async Async.Task Bytes

namespace Database

variable {κ : Type}

def Prepares (db : Database κ) (sql : String) (state : Instance κ) : Prop :=
  ((onEngine (db.prepare sql)).run state).1 = .ok ()

def Opens (db : Database κ) (sql : String) (state : Instance κ) : Prop :=
  db.Prepares sql state ∧ sql ∈ ((onEngine (db.prepare sql)).run state).2.engine.cache

instance (db : Database κ) (sql : String) (state : Instance κ) :
    Decidable (db.Prepares sql state) :=
  inferInstanceAs (Decidable (_ = _))

instance (db : Database κ) (sql : String) (state : Instance κ) :
    Decidable (db.Opens sql state) :=
  inferInstanceAs (Decidable (_ ∧ _))

variable {db : Database κ}

theorem looks_sameCore {α : Type} {task : EngineTask κ α}
    (steps : Guarantees (EngineStep db.vfs SqliteCall.looking) task) (engine : Engine κ) :
    engine.vfs.SameCore (task.run engine).2.vfs := by
  have kept (state after : Engine κ) (step : EngineStep db.vfs SqliteCall.looking state after)
      (same : engine.vfs.SameCore state.vfs) : engine.vfs.SameCore after.vfs := by
    rcases step with unchanged | ⟨call, looks, move⟩
    · rw [unchanged]
      exact same
    · have looking : call.looks = true := looks
      rw [looking] at move
      exact same.trans move.sameCore
  exact steps.run_keeps kept (.refl _)

def Open (sql : String) (engine : Engine κ) : Prop :=
  engine.closed = false ∧ sql ∈ engine.cache

def KeepsStatements (engine after : Engine κ) : Prop :=
  after.closed = engine.closed ∧ after.cache = engine.cache

theorem request_keepsStatements {α : Type} (program : Request κ α) :
    Guarantees KeepsStatements (db.request program) :=
  (request_onlyWorks program).mono fun _ _ works => by
    rw [works]
    exact ⟨rfl, rfl⟩

theorem runStatement_keepsStatements (sql : String) (parameters : Parameters) :
    Guarantees KeepsStatements (db.runStatement sql parameters) :=
  runStatement_guarantees (fun _ => ⟨rfl, rfl⟩) (guarantees_atomic fun _ => ⟨rfl, rfl⟩)
    (fun _ _ => ⟨rfl, rfl⟩) (fun _ => guarantees_atomic fun _ => ⟨rfl, rfl⟩)
    (request_keepsStatements _) (fun _ => request_keepsStatements _)
    (request_keepsStatements _)

private theorem open_of_prepare {sql : String} {engine : Engine κ}
    (prepared : ((db.prepare sql).run engine).1 = .ok ()) : engine.closed = false := by
  cases shut : engine.closed with
  | false => rfl
  | true =>
      unfold prepare lookupCached at prepared
      simp only [run_bind, run_atomic, shut, if_true, andThen_error] at prepared
      cases prepared

theorem prepare_opens {sql : String} {engine : Engine κ}
    (prepared : ((db.prepare sql).run engine).1 = .ok ()) :
    ((db.prepare sql).run engine).2.closed = false := by
  have requested {α : Type} (program : Request κ α) :
      Guarantees (fun engine after : Engine κ => after.closed = engine.closed)
        (db.request program) :=
    (request_keepsStatements program).mono fun _ _ kept => kept.1
  have keeps : Guarantees (fun engine after : Engine κ => after.closed = engine.closed)
      (db.prepare sql) :=
    prepare_guarantees (fun _ _ _ same _ => same) (requested _) fun _ => requested _
  exact keeps.run_keeps (fun state after kept opened => kept.trans opened)
    (open_of_prepare prepared)

theorem prepare_open {sql : String} {engine : Engine κ} (opened : Open sql engine) :
    ((db.prepare sql).run engine).1 = .ok () ∧
      sql ∈ ((db.prepare sql).run engine).2.cache := by
  unfold prepare lookupCached
  simp only [run_bind, run_atomic, opened.1, Bool.false_eq_true, if_false, if_pos opened.2,
    andThen_ok, if_true, run_pure]
  exact ⟨trivial, List.mem_append_right _ (List.mem_singleton.2 rfl)⟩

/-- A STMT has no positional parameters, so that its attempt fails before any request of
its own. -/
theorem run_runStatement_absent (reads : db.sqlite.ReadsPages) (sql : String)
    (engine : Engine κ) :
    ∃ thrown after, (db.runStatement sql .absent).run engine = (.error thrown, after) ∧
      engine.vfs.SameCore after.vfs := by
  -- `_bind` throws, so that nothing of `run` is left.
  have body : Guarantees (EngineStep db.vfs SqliteCall.looking) (do
      db.bind sql .absent
      let bound ← Task.read fun engine => engine.bound sql
      db.onHandle sql (db.sqlite.run sql bound)) := .done _
  have same := looks_sameCore
    ((guarantees_rethrown body).ensure
      (onHandle_guarantees (useHandle_steps _ sql) (request_steps (reads.reset sql)))) engine
  have fails : Triple alone (fun _ => True) (db.runStatement sql .absent) (fun _ _ => False)
      ended := runStatement_absent sql
  have ends := fails engine _ _ trivial (runUnder_run alone _ engine)
  change engine.vfs.SameCore ((db.runStatement sql .absent).run engine).2.vfs at same
  generalize (db.runStatement sql .absent).run engine = outcome at ends same ⊢
  obtain ⟨result, after⟩ := outcome
  cases result with
  | ok value => exact ends.elim
  | error thrown => exact ⟨thrown, after, rfl, same⟩

private theorem evict_keeps {sql other : String} (different : sql ≠ other) :
    Guarantees (fun engine after : Engine κ => sql ∈ engine.cache → sql ∈ after.cache)
      (db.evict (some other)) := by
  have requested :
      Guarantees (fun engine after : Engine κ => sql ∈ engine.cache → sql ∈ after.cache)
        (db.request (db.sqlite.finalize other)) :=
    (request_keepsStatements _).mono fun _ _ kept found => kept.2 ▸ found
  refine Guarantees.bind (guarantees_atomic fun _ found => found) fun opened => ?_
  split
  · exact guarantees_rethrown (requested.bind fun _ => guarantees_atomic fun _ found =>
      (List.mem_erase_of_ne different).2 found)
  · exact guarantees_pure _

theorem prepare_caches {sql : String} {engine : Engine κ} (caching : 0 < db.cacheSize)
    (prepared : ((db.prepare sql).run engine).1 = .ok ()) :
    sql ∈ ((db.prepare sql).run engine).2.cache := by
  by_cases known : Open sql engine
  · exact (prepare_open known).2
  have opened := open_of_prepare prepared
  have absent : sql ∉ engine.cache := fun found => known ⟨opened, found⟩
  have looked : (db.prepare sql).run engine =
      (db.prepareNew sql).run engine := by
    unfold prepare lookupCached
    simp only [run_bind, run_atomic, opened, Bool.false_eq_true, if_false, if_neg absent,
      andThen_ok]
  have requested : Guarantees KeepsStatements (rethrown (db.request (db.sqlite.prepare sql))) :=
    guarantees_rethrown (request_keepsStatements _)
  have kept : ((rethrown (db.request (db.sqlite.prepare sql))).run
      engine).2.cache = engine.cache :=
    requested.run_keeps (fun state after step (same : state.cache = engine.cache) =>
      step.2.trans same) rfl
  rw [looked, prepareNew, run_bind] at prepared ⊢
  generalize (rethrown (db.request (db.sqlite.prepare sql))).run _ = outcome at prepared kept ⊢
  obtain ⟨result, after⟩ := outcome
  cases result with
  | error thrown => cases prepared
  | ok value =>
      replace kept : after.cache = engine.cache := kept
      simp only [andThen_ok, run_bind, insert, run_atomic, kept, if_neg absent]
      have added : sql ∈ engine.cache ++ [sql] :=
        List.mem_append_right _ (List.mem_singleton.2 rfl)
      split
      next full =>
        cases held : engine.cache with
        | nil =>
            rw [held] at full
            exact absurd full (Nat.not_lt.2 caching)
        | cons oldest rest =>
            rw [held] at added absent
            exact (evict_keeps (List.ne_of_not_mem_cons absent)).run_keeps
              (fun _ _ step found => step found) added
      next => exact added

end Database
end ParaQL
