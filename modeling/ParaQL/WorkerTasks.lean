/-
The tasks of the worker threads on one database and its statements.

Each `paraql__on_before_*` runs as a whole.  What SQLite returns comes with the task, and
what is known of it is part of what a task may be.  A pointer is true where it is not
NULL.
-/

import ParaQL.Async.Machine
import ParaQL.ParameterMatching

namespace ParaQL

open Async

def sqliteRow : Int := 100

def sqliteDone : Int := 101

def stmtFinalized : String := "Statement has already been finalized"

/-- The result of a request.  It comes from `malloc`, and only `errcode` is set at first. -/
structure WorkerRequest where
  errcode : Int
  errmsg : Option String
  deriving DecidableEq, Repr

def WorkerRequest.fresh : WorkerRequest := { errcode := 0, errmsg := none }

def WorkerRequest.failed (errcode : Int) (errmsg : String) : WorkerRequest :=
  { errcode := errcode, errmsg := some errmsg }

/-- The pointers behind one `stmt->db->handle`. -/
structure HandleRead where
  db : Bool
  handle : Bool
  deriving DecidableEq, Repr

structure TaskResult where
  request : WorkerRequest
  reads : List HandleRead
  deriving DecidableEq, Repr

inductive TaskKind where
  | open
  | close
  | exec
  | prepare
  | finalize
  | reset
  | parse
  | bind
  | step
  | run
  | collect
  deriving DecidableEq, Repr

structure TaskRecord where
  kind : TaskKind
  closed : Bool
  result : TaskResult
  deriving DecidableEq, Repr

/-! ### The database -/

inductive DatabasePhase where
  | unopened
  | opened
  | collected
  deriving DecidableEq, Repr

/-- `paraql_statement_t`. -/
structure WorkerStatement where
  handle : Bool
  db : Bool
  deriving DecidableEq, Repr

/-- `paraql_t` and its statements, by the order of their `prepare`. -/
structure WorkerState where
  phase : DatabasePhase
  handle : Bool
  linked : List Nat
  count : Nat
  statements : Nat → WorkerStatement
  -- No code reads this, nor the log.
  closed : Bool
  log : List TaskRecord

/-- A statement of the text of `exec`: the status of `sqlite3_prepare_v2`, whether there was
one, and the last status of `sqlite3_step`. -/
structure ExecPiece where
  prepared : Int
  hasStatement : Bool
  stepped : Int
  deriving DecidableEq, Repr

inductive WorkerTask where
  | open (status : Int) (handle : Bool) (errmsg : String)
  | close (status : Int) (errmsg : String)
  | exec (pieces : List ExecPiece) (errmsg : String)
  | prepare (status : Int) (handle : Bool) (errmsg : String)
  | finalize (stmt : Nat)
  | reset (stmt : Nat)
  | parse (stmt : Nat)
  | bind (stmt : Nat) (statuses : List Int) (errmsg : String)
  | step (stmt : Nat) (status : Int) (errmsg : String)
  | run (stmt : Nat) (status : Int) (errmsg : String)
  | collect

def WorkerTask.kind : WorkerTask → TaskKind
  | .open _ _ _ => .open
  | .close _ _ => .close
  | .exec _ _ => .exec
  | .prepare _ _ _ => .prepare
  | .finalize _ => .finalize
  | .reset _ => .reset
  | .parse _ => .parse
  | .bind _ _ _ => .bind
  | .step _ _ _ => .step
  | .run _ _ _ => .run
  | .collect => .collect

namespace WorkerState

def initial : WorkerState :=
  { phase := .unopened
    handle := false
    linked := []
    count := 0
    statements := fun _ => { handle := false, db := false }
    closed := false
    log := [] }

variable (state : WorkerState)

def setStatement (stmt : Nat) (statement : WorkerStatement) : WorkerState :=
  { state with statements := Function.update state.statements stmt statement }

def readHandle (stmt : Nat) : HandleRead :=
  { db := (state.statements stmt).db
    handle := (state.statements stmt).db && state.handle }

/-- `paraql__insert_statement`, of a statement that was just made. -/
def insertStatement (handle : Bool) : WorkerState :=
  { state.setStatement state.count { handle := handle, db := true } with
    linked := state.count :: state.linked
    count := state.count + 1 }

def removeStatement (stmt : Nat) : WorkerState :=
  if (state.statements stmt).db then
    { state.setStatement stmt { state.statements stmt with db := false } with
      linked := state.linked.filter (· ≠ stmt) }
  else state

def finalizeStatements : WorkerState :=
  { state with
    statements := fun stmt =>
      if stmt ∈ state.linked then { handle := false, db := false } else state.statements stmt
    linked := [] }

def onBeforeOpen (status : Int) (handle : Bool) (errmsg : String) : WorkerState × TaskResult :=
  if status ≠ 0 then ({ state with handle := handle }, ⟨.failed status errmsg, []⟩)
  else ({ state with phase := .opened, handle := handle }, ⟨.fresh, []⟩)

def onBeforeClose (status : Int) (errmsg : String) : WorkerState × TaskResult :=
  if status ≠ 0 then (state, ⟨.failed status errmsg, []⟩)
  else ({ state with handle := false, closed := true }, ⟨.fresh, []⟩)

/-- The loop of `paraql__on_before_exec`. -/
def execPieces (errmsg : String) : List ExecPiece → WorkerRequest
  | [] => .fresh
  | piece :: pieces =>
      if piece.prepared ≠ 0 then .failed piece.prepared errmsg
      else if piece.hasStatement && piece.stepped ≠ sqliteDone then .failed piece.stepped errmsg
      else execPieces errmsg pieces

def onBeforePrepare (status : Int) (handle : Bool) (errmsg : String) : WorkerState × TaskResult :=
  if status ≠ 0 then (state, ⟨.failed status errmsg, []⟩)
  else (state.insertStatement handle, ⟨.fresh, []⟩)

def onBeforeFinalizeDb : WorkerState :=
  { state.finalizeStatements with phase := .collected, handle := false }

def onBeforeFinalize (stmt : Nat) : WorkerState :=
  (state.setStatement stmt { state.statements stmt with handle := false }).removeStatement stmt

def onBeforeReset (stmt : Nat) : TaskResult :=
  if (state.statements stmt).handle then ⟨.fresh, []⟩
  else ⟨.failed sqliteMisuse stmtFinalized, []⟩

def onBeforeParse (stmt : Nat) : TaskResult :=
  if !(state.statements stmt).handle then ⟨{ errcode := sqliteMisuse, errmsg := none }, []⟩
  else if (state.statements stmt).handle then ⟨.fresh, []⟩
  else ⟨.failed sqliteMisuse stmtFinalized, []⟩

def onBeforeBind (stmt : Nat) (statuses : List Int) (errmsg : String) : TaskResult :=
  if (state.statements stmt).handle then
    match statuses.find? (· ≠ 0) with
    | some status => ⟨.failed status errmsg, [state.readHandle stmt]⟩
    | none => ⟨.fresh, []⟩
  else ⟨.failed sqliteMisuse stmtFinalized, []⟩

def onBeforeStep (stmt : Nat) (status : Int) (errmsg : String) : TaskResult :=
  if (state.statements stmt).handle then
    if status = sqliteRow then ⟨.fresh, []⟩
    else if status = sqliteDone then ⟨.fresh, []⟩
    else ⟨.failed status errmsg, [state.readHandle stmt]⟩
  else ⟨.failed sqliteMisuse stmtFinalized, []⟩

def onBeforeRun (stmt : Nat) (status : Int) (errmsg : String) : TaskResult :=
  if (state.statements stmt).handle then
    if status ≠ sqliteDone then ⟨.failed status errmsg, [state.readHandle stmt]⟩
    else ⟨.fresh, [state.readHandle stmt, state.readHandle stmt]⟩
  else ⟨.failed sqliteMisuse stmtFinalized, []⟩

def perform : WorkerTask → WorkerState × TaskResult
  | .open status handle errmsg => state.onBeforeOpen status handle errmsg
  | .close status errmsg => state.onBeforeClose status errmsg
  | .exec pieces errmsg => (state, ⟨execPieces errmsg pieces, []⟩)
  | .prepare status handle errmsg => state.onBeforePrepare status handle errmsg
  | .finalize stmt => (state.onBeforeFinalize stmt, ⟨.fresh, []⟩)
  | .reset stmt => (state, state.onBeforeReset stmt)
  | .parse stmt => (state, state.onBeforeParse stmt)
  | .bind stmt statuses errmsg => (state, state.onBeforeBind stmt statuses errmsg)
  | .step stmt status errmsg => (state, state.onBeforeStep stmt status errmsg)
  | .run stmt status errmsg => (state, state.onBeforeRun stmt status errmsg)
  | .collect => (state.onBeforeFinalizeDb, ⟨.fresh, []⟩)

/-- JavaScript has the database or the statement, and SQLite returns what it documents: an
opened database has a handle, closing NULL succeeds, and preparing on NULL is a misuse. -/
def Allows : WorkerTask → Prop
  | .open status handle _ => state.phase = .unopened ∧ (status = 0 → handle = true)
  | .close status _ => state.phase = .opened ∧ (state.handle = false → status = 0)
  | .exec pieces _ => state.phase = .opened ∧ ∀ piece ∈ pieces, piece.stepped ≠ sqliteRow ∧
      (state.handle = false → piece.prepared = sqliteMisuse)
  | .prepare status _ _ => state.phase = .opened ∧ (state.handle = false → status = sqliteMisuse)
  | .run stmt status _ => stmt < state.count ∧ status ≠ sqliteRow
  | .finalize stmt | .reset stmt | .parse stmt | .bind stmt _ _ | .step stmt _ _ =>
      stmt < state.count
  | .collect => state.phase = .opened

instance : (task : WorkerTask) → Decidable (state.Allows task)
  | .open status handle _ =>
      inferInstanceAs (Decidable (state.phase = .unopened ∧ (status = 0 → handle = true)))
  | .close status _ =>
      inferInstanceAs (Decidable (state.phase = .opened ∧ (state.handle = false → status = 0)))
  | .exec pieces _ =>
      inferInstanceAs (Decidable (state.phase = .opened ∧ ∀ piece ∈ pieces,
        piece.stepped ≠ sqliteRow ∧ (state.handle = false → piece.prepared = sqliteMisuse)))
  | .prepare status _ _ =>
      inferInstanceAs (Decidable (state.phase = .opened ∧
        (state.handle = false → status = sqliteMisuse)))
  | .run stmt status _ => inferInstanceAs (Decidable (stmt < state.count ∧ status ≠ sqliteRow))
  | .finalize stmt | .reset stmt | .parse stmt | .bind stmt _ _ | .step stmt _ _ =>
      inferInstanceAs (Decidable (stmt < state.count))
  | .collect => inferInstanceAs (Decidable (state.phase = .opened))

def step (task : WorkerTask) : Option WorkerState :=
  if state.Allows task then
    some { (state.perform task).1 with
      log := state.log ++ [{
        kind := task.kind
        closed := state.closed
        result := (state.perform task).2 }] }
  else none

variable {state} {next : WorkerState} {task : WorkerTask}

theorem step_eq_some_iff : state.step task = some next ↔
    state.Allows task ∧ next = { (state.perform task).1 with
      log := state.log ++ [{
        kind := task.kind
        closed := state.closed
        result := (state.perform task).2 }] } := by
  unfold step
  rw [Option.ite_none_right_eq_some, Option.some.injEq, eq_comm]

/-- What holds of every record is kept by tasks whose own record has it. -/
theorem mem_log_step (stepped : state.step task = some next) {record : TaskRecord} :
    record ∈ next.log ↔ record ∈ state.log ∨
      record = ⟨task.kind, state.closed, (state.perform task).2⟩ := by
  obtain ⟨_, rfl⟩ := step_eq_some_iff.1 stepped
  exact List.mem_append.trans (or_congr_right List.mem_singleton)

end WorkerState
end ParaQL
