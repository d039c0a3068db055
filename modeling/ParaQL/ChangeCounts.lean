/-
The number of changes that `run` reports.

It is read from the connection after the loop of `paraql__on_before_run`.  There SQLite
keeps the number for the `INSERT`, `UPDATE` or `DELETE` that was completed last, whichever
statement that was.  One that fails is completed too, with the rows that stay changed; so is
one that is reset between two of its rows.
-/

import ParaQL.Sqlite
import ParaQL.WorkerTasks

namespace ParaQL

inductive StatementKind where
  -- an `INSERT`, `UPDATE` or `DELETE`, by the rows that stay changed and the last rowid
  | change (rows : Nat) (rowid : Option Int)
  | other
  deriving DecidableEq, Repr

structure Executed where
  kind : StatementKind
  rows : Nat
  status : Int
  ends : status ≠ sqliteRow

def Executed.changes (execution : Executed) : Bool :=
  match execution.kind with
  | .change _ _ => true
  | .other => false

/-- What `sqlite3_changes64` and `sqlite3_last_insert_rowid` return. -/
structure Connection where
  changes : Int
  lastInsertRowid : Int
  deriving DecidableEq, Repr

namespace Connection

def fresh : Connection := { changes := 0, lastInsertRowid := 0 }

variable (connection : Connection)

def complete (execution : Executed) : Connection :=
  match execution.kind with
  | .change rows rowid =>
      { changes := rows, lastInsertRowid := rowid.getD connection.lastInsertRowid }
  | .other => connection

/-- `sqlite3_step` on a statement that has returned `position` rows so far. -/
def step (execution : Executed) (position : Nat) : Int × Connection :=
  if position < execution.rows then (sqliteRow, connection)
  else (execution.status, connection.complete execution)

/-- `sqlite3_reset` or `sqlite3_finalize` on it: it is completed here if it has begun and has
not come to its end. -/
def reset (execution : Executed) (position : Nat) : Connection :=
  if 0 < position ∧ position ≤ execution.rows then connection.complete execution else connection

/-- The loop of `paraql__on_before_run`, none where it has not ended after so many rounds. -/
def stepAll (execution : Executed) : Nat → Nat → Option (Int × Connection)
  | 0, _ => none
  | rounds + 1, position =>
      if (connection.step execution position).1 = sqliteRow then
        stepAll execution rounds (position + 1)
      else some (connection.step execution position)

end Connection

structure RunTask where
  request : WorkerRequest
  result : Option RunResult
  deriving DecidableEq, Repr

namespace Connection

variable (connection : Connection)

/-- `paraql__on_before_run`, on a statement whose handle is NULL or that was reset. -/
def onBeforeRun (isOpen : Bool) (execution : Executed) (errmsg : String) (rounds : Nat) :
    Option (RunTask × Connection) :=
  if isOpen then
    (connection.stepAll execution rounds 0).map fun (status, connection) =>
      if status ≠ sqliteDone then ({ request := .failed status errmsg, result := none }, connection)
      else
        ({ request := .fresh
           result := some { changes := connection.changes
                            lastInsertRowid := connection.lastInsertRowid } }, connection)
  else some ({ request := .failed sqliteMisuse stmtFinalized, result := none }, connection)

end Connection

/-- A use of a statement that has returned `position` rows since it was last reset. -/
inductive StatementUse where
  | step (execution : Executed) (position : Nat)
  | reset (execution : Executed) (position : Nat)

def StatementUse.completed : StatementUse → Option Executed
  | .step execution position => if execution.rows ≤ position then some execution else none
  | .reset execution position =>
      if 0 < position ∧ position ≤ execution.rows then some execution else none

def Connection.use (connection : Connection) : StatementUse → Connection
  | .step execution position => (connection.step execution position).2
  | .reset execution position => connection.reset execution position

def Connection.after (history : List StatementUse) : Connection :=
  history.foldl use fresh

namespace Connection

variable {connection : Connection} {execution : Executed}

/-- The loop ends with the statement, and not before. -/
theorem stepAll_of_le {rounds position : Nat} (within : position ≤ execution.rows)
    (enough : execution.rows < position + rounds) :
    connection.stepAll execution rounds position =
      some (execution.status, connection.complete execution) := by
  induction rounds generalizing position with
  | zero => omega
  | succ rounds ih =>
      rw [stepAll]
      by_cases more : position < execution.rows
      · have stepped : connection.step execution position = (sqliteRow, connection) := if_pos more
        rw [stepped, if_pos rfl]
        exact ih more (by omega)
      · have stepped : connection.step execution position =
            (execution.status, connection.complete execution) := if_neg more
        rw [stepped, if_neg execution.ends]

/-- The request is the one of the task on its own. -/
theorem onBeforeRun_request (state : WorkerState) (stmt : Nat) (errmsg : String) :
    ∃ task final, connection.onBeforeRun (state.statements stmt).handle execution errmsg
        (execution.rows + 1) = some (task, final) ∧
      task.request = (state.onBeforeRun stmt execution.status errmsg).request := by
  unfold onBeforeRun WorkerState.onBeforeRun
  cases (state.statements stmt).handle with
  | false => exact ⟨_, _, rfl, rfl⟩
  | true =>
      rw [if_pos rfl, if_pos rfl, stepAll_of_le (Nat.zero_le _) (by omega), Option.map_some]
      dsimp only
      split
      · exact ⟨_, _, rfl, rfl⟩
      · exact ⟨_, _, rfl, rfl⟩

end Connection

end ParaQL
