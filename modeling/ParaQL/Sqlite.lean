/-
SQLite as the program around it meets it.

A request of binding.c runs on a worker thread and asks the VFS as it goes.  Here it is
a program: it asks, it goes on with the answer, and it ends with a result.  What the
programs do is a parameter, for each kind of request a function of the SQL text, of
the bound parameters and of the state of the connection.
-/

import ParaQL.Binding

namespace ParaQL

open Async Bytes

inductive SqlValue where
  | null
  | boolean (value : Bool)
  | integer (value : Int)
  | real (bits : UInt64)
  | text (value : String)
  | blob (value : Buffer)
  | array (json : String)
  | object (json : String)
  deriving DecidableEq, Repr

/-- What `named` or `positional` of an operation holds, whoever wrote it. -/
inductive ParameterField where
  | null
  | record (entries : List (String × SqlValue))
  | list (values : List SqlValue)
  -- neither null nor an array nor a plain object
  | other (value : SqlValue)
  deriving DecidableEq, Repr

/-- A parameter list after `splitParameters`, or the two fields of an operation. -/
structure Parameters where
  named : ParameterField
  positional : ParameterField
  deriving DecidableEq, Repr

def Parameters.absent : Parameters := { named := .null, positional := .null }

/-- Parameters as `run` and `flush` write them: null for STMT, or else an array. -/
def Parameters.Listed (parameters : Parameters) : Prop :=
  parameters.positional = .null ∨ ∃ values, parameters.positional = .list values

abbrev Row := List (String × SqlValue)

structure RunResult where
  changes : Int
  lastInsertRowid : Int
  deriving DecidableEq, Repr

inductive SqliteCall where
  | file (call : VfsCall)
  | randomness (bytes : Nat)
  | currentTime
  deriving DecidableEq, Repr

def SqliteCall.Answer : SqliteCall → Type
  | .file _ => NativeReply
  | .randomness _ => Buffer
  | .currentTime => Int

inductive Program (α : Type) where
  | done (value : α)
  | ask (call : SqliteCall) (next : call.Answer → Program α)

inductive Program.Asks {α : Type} (kind : SqliteCall → Prop) : Program α → Prop where
  | done (value : α) : Asks kind (.done value)
  | ask {call : SqliteCall} {next : call.Answer → Program α} (here : kind call)
      (rest : ∀ answer, Asks kind (next answer)) : Asks kind (.ask call next)

theorem Program.asks_anything {α : Type} (program : Program α) :
    program.Asks (fun _ => True) := by
  induction program with
  | done value => exact .done value
  | ask call next ih => exact .ask trivial ih

theorem Program.Asks.mono {α : Type} {kind wider : SqliteCall → Prop} {program : Program α}
    (asks : program.Asks kind) (weakens : ∀ call, kind call → wider call) :
    program.Asks wider := by
  induction asks with
  | done value => exact .done value
  | ask here _ ih => exact .ask (weakens _ here) ih

def Program.calls {α : Type} (value : α) : List VfsCall → Program α
  | [] => .done value
  | call :: calls => .ask (.file call) fun _ => Program.calls value calls

abbrev Request (κ α : Type) := κ → Program (Except JsError α × κ)

/-- The worker side of `paraql_exec` and the other requests, with the lines of C around the
calls of SQLite.  A statement is known by its SQL text. -/
structure Sqlite (κ : Type) where
  exec : String → Request κ Unit
  prepare : String → Request κ Unit
  bind : String → Parameters → Request κ Unit
  step : String → Parameters → Request κ (Option Row)
  run : String → Parameters → Request κ RunResult
  reset : String → Request κ Unit
  finalize : String → Request κ Unit

def Request.calls {κ α : Type} (value : α) (calls : List VfsCall) : Request κ α :=
  fun connection => .calls (.ok value, connection) calls

def Sqlite.idle (κ : Type) : Sqlite κ :=
  { exec := fun _ => .calls () []
    prepare := fun _ => .calls () []
    bind := fun _ _ => .calls () []
    step := fun _ _ => .calls none []
    run := fun _ _ => .calls { changes := 0, lastInsertRowid := 0 } []
    reset := fun _ => .calls () []
    finalize := fun _ => .calls () [] }

def constantSqlite : Sqlite Unit :=
  { Sqlite.idle Unit with
    exec := fun _ => .calls () [.xWrite openPath [7] 0, .xSync openPath] }

def journalingSqlite : Sqlite Unit :=
  let changes : List VfsCall :=
    [.xWrite "paraql.db-journal" [1] 0, .xSync "paraql.db-journal", .xWrite openPath [2] 0,
      .xSync openPath, .xDelete "paraql.db-journal"]
  { Sqlite.idle Unit with
    exec := fun _ => .calls () changes
    prepare := fun _ => .calls () [.xRead openPath (Buffer.alloc 1) 0]
    step := fun _ _ => .calls none [.xRead openPath (Buffer.alloc 1) 0]
    run := fun _ _ => .calls { changes := 1, lastInsertRowid := 1 } changes }

end ParaQL
