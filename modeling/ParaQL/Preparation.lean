/-
Preparing a statement, on a connection whose statements are prepared and finalized without
changing a file.
-/

import ParaQL.ErrorCodes
import ParaQL.LocalReads
import ParaQL.OpenStatements

namespace ParaQL

open Async Async.Task Bytes

/-- Preparing and finalizing only look at files, and a statement is finalized without an
error. -/
structure Sqlite.LooksToPrepare (sqlite : Sqlite Unit) : Prop where
  prepare : ∀ sql, (sqlite.prepare sql).Asks SqliteCall.looking
  finalize : ∀ sql, (sqlite.finalize sql).Asks SqliteCall.looking
  finalizes : ∀ sql, (sqlite.finalize sql).Fails fun _ => False

namespace Database

/-- The statement is open, or SQLite prepares it on what the connection shows. -/
def CanPrepare (db : Database Unit) (sql : String) (engine : Engine Unit) : Prop :=
  sql ∈ engine.cache ∨ ((db.request (db.sqlite.prepare sql)).run engine).1 = .ok ()

def under (view : Nat) (engine : Engine Unit) : Engine Unit :=
  engine.setVfs { engine.vfs with view := some view }

variable {db : Database Unit} {engine : Engine Unit} {sql : String}
  (prepares : db.sqlite.LooksToPrepare)

include prepares

private theorem evict_rejects (oldest : Option String) :
    Rejects (fun _ => False) (db.evict oldest) := by
  cases oldest with
  | none => exact rejects_pure ()
  | some other =>
      refine (rejects_read _).bind fun opened => ?_
      split
      · refine Rejects.catch (Rejects.bind (request_rejects (prepares.finalizes other))
          fun _ => rejects_modify _) fun rejection known => ?_
        obtain ⟨_, _, impossible⟩ := known
        exact impossible.elim
      · exact rejects_pure ()

/-- Preparing changes nothing that a later request can see. -/
theorem prepare_keeps (sql : String) (engine : Engine Unit) :
    engine.vfs.SameCore ((db.prepare sql).run engine).2.vfs ∧
      ((db.prepare sql).run engine).2.closed = engine.closed ∧
      ((db.prepare sql).run engine).2.aborted = engine.aborted := by
  have steps : Guarantees (EngineStep db.vfs SqliteCall.looking) (db.prepare sql) :=
    prepare_steps (prepares.prepare sql) prepares.finalize
  have requested {β : Type} (program : Request Unit β) :
      Guarantees (fun engine after : Engine Unit =>
        after.closed = engine.closed ∧ after.aborted = engine.aborted) (db.request program) :=
    (request_onlyWorks program).mono fun _ _ works => by
      rw [works]
      exact ⟨rfl, rfl⟩
  have keeps : Guarantees (fun engine after : Engine Unit =>
      after.closed = engine.closed ∧ after.aborted = engine.aborted) (db.prepare sql) :=
    prepare_guarantees (fun _ _ _ closed aborted => ⟨closed, aborted⟩) (requested _)
      fun _ => requested _
  have stays : Triple alone
      (fun after => after.closed = engine.closed ∧ after.aborted = engine.aborted)
      (db.prepare sql)
      (fun _ after => after.closed = engine.closed ∧ after.aborted = engine.aborted)
      (fun _ after => after.closed = engine.closed ∧ after.aborted = engine.aborted) :=
    keeps.keeps (stable_alone _) fun _ _ kept same =>
      ⟨kept.1.trans same.1, kept.2.trans same.2⟩
  exact ⟨looks_sameCore steps engine, stays.run_always ⟨rfl, rfl⟩⟩

section Uncached

variable {left : Engine Unit} (opened : engine.closed = false) (absent : sql ∉ engine.cache)

include opened absent

private theorem prepare_accepted
    (ran : (db.request (db.sqlite.prepare sql)).run engine = (.ok (), left)) :
    ((db.prepare sql).run engine).1 = .ok () := by
  have goesOn : Rejects (fun _ => False) (do
      let oldest ← db.insert sql
      db.evict oldest) :=
    (rejects_atomic fun _ _ impossible => by cases impossible).bind (evict_rejects prepares)
  unfold Database.prepare lookupCached
  simp only [run_bind, run_atomic, opened, Bool.false_eq_true, if_false, if_neg absent,
    andThen_ok, Database.prepareNew, rethrown, run_tryCatch, ran, orElse_ok]
  rw [← run_bind]
  cases ended : ((do
      let oldest ← db.insert sql
      db.evict oldest).run left).1 with
  | ok value => rfl
  | error thrown => exact (Gives.run goesOn left thrown ended).elim

omit prepares in
private theorem prepare_refused {thrown : JsValue}
    (ran : (db.request (db.sqlite.prepare sql)).run engine = (.error thrown, left)) :
    (db.prepare sql).run engine = (.error thrown.fromThrown, left) := by
  unfold Database.prepare lookupCached
  simp only [run_bind, run_atomic, opened, Bool.false_eq_true, if_false, if_neg absent,
    andThen_ok, Database.prepareNew, rethrown, run_tryCatch, ran, orElse_error, run_throw,
    andThen_error]

end Uncached

theorem prepare_ok_iff (opened : engine.closed = false) :
    ((db.prepare sql).run engine).1 = .ok () ↔ db.CanPrepare sql engine := by
  by_cases cached : sql ∈ engine.cache
  · exact iff_of_true (prepare_open ⟨opened, cached⟩).1 (.inl cached)
  · unfold CanPrepare
    rw [or_iff_right cached]
    cases ran : (db.request (db.sqlite.prepare sql)).run engine with
    | mk result left =>
        cases result with
        | ok value => exact iff_of_true (prepare_accepted prepares opened cached ran) rfl
        | error thrown =>
            rw [prepare_refused opened cached ran]
            exact iff_of_false (fun impossible => by cases impossible) fun impossible => by
              cases impossible

/-- Where preparing fails, it has changed nothing that a task goes by. -/
theorem prepare_fails {statements : String → Prop} (opened : engine.closed = false)
    (fails : ¬((db.prepare sql).run engine).1 = .ok ()) :
    SameFor statements engine ((db.prepare sql).run engine).2 := by
  have refused : ¬db.CanPrepare sql engine := fun able =>
    fails ((prepare_ok_iff prepares opened).2 able)
  have spares : SameFor statements engine
      ((db.request (db.sqlite.prepare sql)).run engine).2 :=
    (request_spares (prepares.prepare sql)).run_keeps (fun _ _ step same => same.trans step)
      (.refl engine)
  cases ran : (db.request (db.sqlite.prepare sql)).run engine with
  | mk result left =>
      rw [ran] at spares
      cases result with
      | ok value => exact absurd (.inr (congrArg Prod.fst ran)) refused
      | error thrown =>
          rw [prepare_refused opened (fun cached => refused (.inl cached)) ran]
          exact spares

end Database
end ParaQL
