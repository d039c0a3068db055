/-
What a single step of a local task can do: a step of a VFS call that the kind allows, or
nothing that the VFS sees.
-/

import ParaQL.Oplog
import ParaQL.VfsSteps

namespace ParaQL

open Async Async.Task Bytes

variable {κ α : Type}

/-- One step of a task on the connection, when SQLite asks only what `kind` allows. -/
def EngineStep (vfs : ParaVFS) (kind : SqliteCall → Prop) (engine after : Engine κ) : Prop :=
  after.vfs = engine.vfs ∨
    ∃ call, kind (.file call) ∧ VfsMove vfs call.file call.looks engine.vfs after.vfs

def anything (_ : SqliteCall) : Prop := True

def Request.Asks (kind : SqliteCall → Prop) (request : Request κ α) : Prop :=
  ∀ connection, (request connection).Asks kind

theorem Request.asks_anything (request : Request κ α) : request.Asks anything :=
  fun connection => (request connection).asks_anything

/-- What `get`, `all` and `iterate` of a statement may ask.  `run` is left out: only `_apply`
runs statements to their end. -/
structure Sqlite.StatementAsks (sqlite : Sqlite κ) (kind : SqliteCall → Prop) (sql : String) :
    Prop where
  bind : ∀ parameters, (sqlite.bind sql parameters).Asks kind
  step : ∀ parameters, (sqlite.step sql parameters).Asks kind
  reset : (sqlite.reset sql).Asks kind

private theorem Sqlite.statementAsks_anything (sqlite : Sqlite κ) (sql : String) :
    sqlite.StatementAsks anything sql :=
  ⟨fun _ => Request.asks_anything _, fun _ => Request.asks_anything _, Request.asks_anything _⟩

def Sqlite.LocalAsks (sqlite : Sqlite κ) (kind : SqliteCall → Prop) : LocalCall → Prop
  | .prepare sql => (sqlite.prepare sql).Asks kind
  | .get sql _ => sqlite.StatementAsks kind sql
  | .iterate sql _ _ => sqlite.StatementAsks kind sql
  | .finalize _ => True

theorem Sqlite.localAsks_anything (sqlite : Sqlite κ) (call : LocalCall) :
    sqlite.LocalAsks anything call := by
  cases call with
  | prepare sql => exact Request.asks_anything _
  | get sql parameters => exact sqlite.statementAsks_anything sql
  | iterate sql parameters limit => exact sqlite.statementAsks_anything sql
  | finalize sql => trivial

def LocalCall.sql : LocalCall → String
  | .prepare sql => sql
  | .get sql _ => sql
  | .iterate sql _ _ => sql
  | .finalize sql => sql

/-- `get` and `iterate` go on while their statement is open.  Their parameters are a list. -/
def LocalCall.OnOpen (call : LocalCall) (engine : Engine κ) : Prop :=
  match call with
  | .get sql parameters => sql ∈ engine.cache ∧ parameters.Listed
  | .iterate sql parameters _ => sql ∈ engine.cache ∧ parameters.Listed
  | _ => True

namespace Database

variable {db : Database κ} {kind : SqliteCall → Prop}

private theorem guarantees_engine {vfs : ParaVFS} {action : Engine κ → Except JsValue α × Engine κ}
    (unseen : ∀ engine, (action engine).2.vfs = engine.vfs) :
    Guarantees (EngineStep vfs kind) (Task.atomic action) :=
  guarantees_atomic fun engine => Or.inl (unseen engine)

theorem guarantees_rethrown {σ : Type} {guarantee : σ → σ → Prop} {task : Task σ JsValue α}
    (steps : Guarantees guarantee task) : Guarantees guarantee (rethrown task) :=
  steps.catch fun _ => guarantees_throw _

section Rules

variable {guarantee : Engine κ → Engine κ → Prop} {sql : String}

section Statement

variable (still : ∀ engine, guarantee engine engine)
  (handles : Guarantees guarantee (useHandle (κ := κ) sql))
  (adjusts : ∀ engine parameters,
    guarantee engine { engine with bound := Function.update engine.bound sql parameters })

include handles in
theorem onHandle_guarantees {program : Request κ α}
    (requests : Guarantees guarantee (db.request program)) :
    Guarantees guarantee (db.onHandle sql program) :=
  handles.bind fun _ => requests

include handles adjusts in
private theorem bind_guarantees {parameters : Parameters}
    (checks : parameters.positional ≠ .null →
      Guarantees guarantee (assertArray (κ := κ) parameters.positional))
    (binds : Guarantees guarantee (db.request (db.sqlite.bind sql parameters.stringified))) :
    Guarantees guarantee (db.bind sql parameters) := by
  unfold bind
  split
  · exact guarantees_throw _
  · rename_i present
    refine (checks present).bind fun _ => (onHandle_guarantees handles binds).bind fun _ => ?_
    exact guarantees_atomic fun engine => adjusts engine _

include still handles in
private theorem step_guarantees
    (steps : ∀ bound, Guarantees guarantee (db.request (db.sqlite.step sql bound))) :
    Guarantees guarantee (db.step sql) :=
  (guarantees_atomic still).bind fun bound => onHandle_guarantees handles (steps bound)

include still handles in
private theorem rows_guarantees
    (steps : ∀ bound, Guarantees guarantee (db.request (db.sqlite.step sql bound)))
    (limit : Nat) : Guarantees guarantee (db.rows sql limit) := by
  induction limit with
  | zero => exact guarantees_pure _
  | succ limit ih =>
      refine (step_guarantees still handles steps).bind fun row => ?_
      cases row with
      | none => exact guarantees_pure _
      | some row => exact ih.bind fun _ => guarantees_pure _

include still handles adjusts

theorem runStatement_guarantees {parameters : Parameters}
    (checks : parameters.positional ≠ .null →
      Guarantees guarantee (assertArray (κ := κ) parameters.positional))
    (binds : Guarantees guarantee (db.request (db.sqlite.bind sql parameters.stringified)))
    (runs : ∀ bound, Guarantees guarantee (db.request (db.sqlite.run sql bound)))
    (resets : Guarantees guarantee (db.request (db.sqlite.reset sql))) :
    Guarantees guarantee (db.runStatement sql parameters) := by
  refine Guarantees.ensure (guarantees_rethrown ?_) (onHandle_guarantees handles resets)
  exact (bind_guarantees handles adjusts checks binds).bind fun _ =>
    (guarantees_atomic still).bind fun bound => onHandle_guarantees handles (runs bound)

theorem get_guarantees {parameters : Parameters}
    (checks : parameters.positional ≠ .null →
      Guarantees guarantee (assertArray (κ := κ) parameters.positional))
    (binds : Guarantees guarantee (db.request (db.sqlite.bind sql parameters.stringified)))
    (steps : ∀ bound, Guarantees guarantee (db.request (db.sqlite.step sql bound)))
    (resets : Guarantees guarantee (db.request (db.sqlite.reset sql))) :
    Guarantees guarantee (db.get sql parameters) := by
  refine (guarantees_atomic still).bind fun _ => ?_
  exact (guarantees_rethrown ((bind_guarantees handles adjusts checks binds).bind fun _ =>
    step_guarantees still handles steps)).ensure (onHandle_guarantees handles resets)

theorem iterate_guarantees {parameters : Parameters}
    (checks : parameters.positional ≠ .null →
      Guarantees guarantee (assertArray (κ := κ) parameters.positional))
    (binds : Guarantees guarantee (db.request (db.sqlite.bind sql parameters.stringified)))
    (steps : ∀ bound, Guarantees guarantee (db.request (db.sqlite.step sql bound)))
    (resets : Guarantees guarantee (db.request (db.sqlite.reset sql))) (limit : Nat) :
    Guarantees guarantee (db.iterate sql parameters limit) := by
  refine (guarantees_atomic still).bind fun _ => ?_
  exact (guarantees_rethrown ((bind_guarantees handles adjusts checks binds).bind fun _ =>
    rows_guarantees still handles steps limit)).ensure (onHandle_guarantees handles resets)

end Statement

variable (quiet : ∀ engine after : Engine κ, after.vfs = engine.vfs →
  after.closed = engine.closed → after.aborted = engine.aborted → guarantee engine after)

include quiet

theorem finalize_guarantees
    (finalizes : Guarantees guarantee (db.request (db.sqlite.finalize sql))) :
    Guarantees guarantee (db.finalize sql) := by
  refine Guarantees.bind (guarantees_atomic fun _ => quiet _ _ rfl rfl rfl) fun opened => ?_
  split
  · exact guarantees_rethrown (finalizes.bind fun _ =>
      guarantees_atomic fun _ => quiet _ _ rfl rfl rfl)
  · exact guarantees_pure _

theorem prepare_guarantees
    (prepares : Guarantees guarantee (db.request (db.sqlite.prepare sql)))
    (evicts : ∀ other, Guarantees guarantee (db.request (db.sqlite.finalize other))) :
    Guarantees guarantee (db.prepare sql) := by
  refine Guarantees.bind (guarantees_atomic fun engine => ?_) fun cached => ?_
  · split
    · exact quiet _ _ rfl rfl rfl
    · split <;> exact quiet _ _ rfl rfl rfl
  split
  · exact guarantees_pure _
  refine (guarantees_rethrown prepares).bind fun _ =>
    Guarantees.bind (guarantees_atomic fun _ => quiet _ _ rfl rfl rfl) fun oldest => ?_
  cases oldest with
  | none => exact guarantees_pure _
  | some oldest => exact finalize_guarantees quiet (evicts oldest)

end Rules

def OnlyWorks (engine after : Engine κ) : Prop :=
  after = { engine with
    vfs := after.vfs, connection := after.connection, clockReads := after.clockReads }

private theorem serve_onlyWorks (program : Program α) :
    Guarantees (fun engine after => OnlyWorks engine after ∧ after.connection = engine.connection)
      (db.serve program) := by
  induction program with
  | done value => exact guarantees_pure value
  | ask call next ih =>
      refine Guarantees.bind ?_ ih
      cases call with
      | file call =>
          have native := (guarantees_any (db.vfs.native call)).zoom (Engine.lawful_vfs (κ := κ))
          refine native.mono fun engine after step => ?_
          rw [step.2]
          exact ⟨rfl, rfl⟩
      | randomness bytes => exact guarantees_pure _
      | currentTime => exact guarantees_atomic fun _ => ⟨rfl, rfl⟩

theorem request_onlyWorks (program : Request κ α) :
    Guarantees OnlyWorks (db.request program) := by
  refine Guarantees.bind (guarantees_atomic fun _ => ?_) fun connection =>
    ((serve_onlyWorks (program connection)).mono fun _ _ step => step.1).bind fun ended =>
      guarantees_atomic fun _ => ?_
  · rfl
  · rfl

/-! ### What SQLite asks on the way -/

private theorem answer_steps (call : SqliteCall) (allowed : kind call) :
    Guarantees (EngineStep db.vfs kind) (db.answer call) := by
  cases call with
  | file call =>
      have moves : Guarantees (VfsMove db.vfs call.file call.looks) (db.vfs.native call) :=
        (db.vfs.perform_moves call).bind fun _ => guarantees_pure _
      exact (moves.zoom Engine.lawful_vfs).mono fun _ _ step => Or.inr ⟨call, allowed, step.1⟩
  | randomness bytes => exact guarantees_pure _
  | currentTime => exact guarantees_engine fun _ => rfl

private theorem serve_steps {program : Program α} (asks : program.Asks kind) :
    Guarantees (EngineStep db.vfs kind) (db.serve program) := by
  induction asks with
  | done value => exact guarantees_pure _
  | ask here _ ih => exact (answer_steps _ here).bind ih

theorem request_steps {program : Request κ α} (asks : program.Asks kind) :
    Guarantees (EngineStep db.vfs kind) (db.request program) :=
  (guarantees_engine fun _ => rfl).bind fun connection =>
    (serve_steps (asks connection)).bind fun _ => guarantees_engine fun _ => rfl

theorem useHandle_steps (vfs : ParaVFS) (sql : String) :
    Guarantees (EngineStep vfs kind) (useHandle (κ := κ) sql) :=
  guarantees_engine fun _ => rfl

private theorem assertArray_steps (vfs : ParaVFS) (field : ParameterField) :
    Guarantees (EngineStep vfs kind) (assertArray (κ := κ) field) :=
  guarantees_engine fun _ => rfl

theorem runStatement_steps (db : Database κ) (sql : String) (parameters : Parameters) :
    Guarantees (EngineStep db.vfs anything) (db.runStatement sql parameters) :=
  runStatement_guarantees (fun _ => Or.inl rfl) (useHandle_steps _ sql) (fun _ _ => Or.inl rfl)
    (fun _ => assertArray_steps _ _)
    (request_steps (Request.asks_anything _)) (fun _ => request_steps (Request.asks_anything _))
    (request_steps (Request.asks_anything _))

theorem exec_steps (db : Database κ) (sql : String) :
    Guarantees (EngineStep db.vfs anything) (db.exec sql) :=
  guarantees_rethrown (request_steps (Request.asks_anything _))

private theorem finalize_steps {sql : String} (asks : (db.sqlite.finalize sql).Asks kind) :
    Guarantees (EngineStep db.vfs kind) (db.finalize sql) :=
  finalize_guarantees (fun _ _ same _ _ => Or.inl same) (request_steps asks)

theorem prepare_steps {sql : String} (asks : (db.sqlite.prepare sql).Asks kind)
    (evicts : ∀ other, (db.sqlite.finalize other).Asks kind) :
    Guarantees (EngineStep db.vfs kind) (db.prepare sql) :=
  prepare_guarantees (fun _ _ same _ _ => Or.inl same) (request_steps asks) fun other =>
    request_steps (evicts other)

theorem prepare_steps_anything (db : Database κ) (sql : String) :
    Guarantees (EngineStep db.vfs anything) (db.prepare sql) :=
  prepare_steps (Request.asks_anything _) fun _ => Request.asks_anything _

theorem localCall_steps {call : LocalCall} (asks : db.sqlite.LocalAsks kind call)
    (evicts : ∀ other, (db.sqlite.finalize other).Asks kind) :
    Guarantees (EngineStep db.vfs kind) (db.localCall call) := by
  have still (engine : Engine κ) : EngineStep db.vfs kind engine engine := Or.inl rfl
  cases call with
  | prepare sql => exact prepare_steps asks evicts
  | get sql parameters =>
      change db.sqlite.StatementAsks kind sql at asks
      exact (get_guarantees still (useHandle_steps _ sql) (fun _ _ => Or.inl rfl)
    (fun _ => assertArray_steps _ _)
        (request_steps (asks.bind _)) (fun bound => request_steps (asks.step bound))
        (request_steps asks.reset)).bind fun _ => guarantees_pure _
  | iterate sql parameters limit =>
      change db.sqlite.StatementAsks kind sql at asks
      exact (iterate_guarantees still (useHandle_steps _ sql) (fun _ _ => Or.inl rfl)
    (fun _ => assertArray_steps _ _)
        (request_steps (asks.bind _)) (fun bound => request_steps (asks.step bound))
        (request_steps asks.reset) limit).bind fun _ => guarantees_pure _
  | finalize sql => exact finalize_steps (evicts sql)

def InstanceStep (vfs : ParaVFS) (kind : SqliteCall → Prop) (state after : Instance κ) : Prop :=
  EngineStep vfs kind state.engine after.engine ∧ after = state.setEngine after.engine

theorem move_step {calls : Calls → Calls → Prop} {allowed : LocalCall → Prop}
    (asks : ∀ call, allowed call → db.sqlite.LocalAsks kind call)
    (evicts : ∀ other, (db.sqlite.finalize other).Asks kind) {state moved : Instance κ}
    (move : db.Move calls allowed state moved) :
    InstanceStep db.vfs kind state moved ∨
      ∃ next, calls state.calls next ∧ moved = { state with calls := next } := by
  cases move with
  | call next step => exact Or.inr ⟨next, step, rfl⟩
  | localStep call permitted makes =>
      have step := (localCall_steps (asks call permitted) evicts).of_makes makes state.engine
      exact Or.inl ⟨step, rfl⟩

end Database
end ParaQL
