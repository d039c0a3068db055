/-
The local side of index.js and lib/statement.js: the statement cache, and the requests
that prepare, bind, step, run and reset a statement.

Between the VFS calls of a request, and between two requests, others may run.
-/

import ParaQL.Sqlite

namespace ParaQL

open Async Bytes

/-- An open `ParaQL` with what stands still. -/
structure Database (κ : Type) where
  vfs : ParaVFS
  sqlite : Sqlite κ
  cacheSize : Nat
  -- What the n-th call of `_apply` on its view or its host throws, if it fails.
  hostFault : Nat → Option JsValue := fun _ => none

def Database.sample {κ : Type} (sqlite : Sqlite κ) : Database κ :=
  { vfs := .sample, sqlite := sqlite, cacheSize := 1024 }

structure Engine (κ : Type) where
  vfs : VfsState
  connection : κ
  -- The parameters bound to each statement.
  bound : String → Parameters
  cache : List String
  closed : Bool
  -- A statement was used after its handle was gone: binding.c has aborted the process.
  aborted : Bool
  clock : Nat → Int
  clockReads : Nat

abbrev EngineTask (κ α : Type) := Task (Engine κ) JsValue α

variable {κ α : Type}

def Engine.setVfs (engine : Engine κ) (vfs : VfsState) : Engine κ := { engine with vfs := vfs }

theorem Engine.lawful_vfs : Task.LawfulPart (Engine.vfs (κ := κ)) Engine.setVfs :=
  ⟨fun _ _ => rfl, fun _ _ _ => rfl, fun _ => rfl⟩

/-- `catch (err) { throw errors.from(err) }`. -/
def rethrown {σ : Type} (task : Task σ JsValue α) : Task σ JsValue α :=
  tryCatch task fun thrown => throw thrown.fromThrown

/-- `_bind` turns arrays into their JSON text. -/
def SqlValue.stringified : SqlValue → SqlValue
  | .array json => .text json
  | value => value

def ParameterField.stringified : ParameterField → ParameterField
  | .record entries => .record (entries.map fun entry => (entry.1, entry.2.stringified))
  | .list values => .list (values.map SqlValue.stringified)
  | field => field

def Parameters.stringified (parameters : Parameters) : Parameters :=
  { named := parameters.named.stringified, positional := parameters.positional.stringified }

def ParameterField.isArray : ParameterField → Bool
  | .list _ => true
  | _ => false

theorem Parameters.Listed.isArray {parameters : Parameters} (listed : parameters.Listed)
    (present : parameters.positional ≠ .null) : parameters.positional.isArray = true := by
  obtain ⟨values, isList⟩ := listed.resolve_left present
  rw [isList]
  rfl

namespace Database

variable (db : Database κ)

/-- The answers of the VFS.  `paravfs__on_randomness` clears the buffer it is given. -/
def answer : (call : SqliteCall) → EngineTask κ call.Answer
  | .file call => (db.vfs.native call).zoom Engine.vfs Engine.setVfs
  | .randomness bytes => pure (Buffer.alloc bytes)
  | .currentTime => .atomic fun engine =>
      (.ok (engine.clock engine.clockReads),
        { engine with clockReads := engine.clockReads + 1 })

def serve : Program α → EngineTask κ α
  | .done value => pure value
  | .ask call next => do
      let answer ← db.answer call
      serve (next answer)

def request (program : Request κ α) : EngineTask κ α := do
  let connection ← Task.read Engine.connection
  let (result, connection) ← db.serve (program connection)
  Task.atomic fun engine =>
    (result.mapError JsValue.error, { engine with connection := connection })

/-! ### lib/statement.js -/

/-- The handle of a statement that was closed is null.  Nothing goes on from there. -/
def useHandle (sql : String) : EngineTask κ Unit :=
  Task.modify fun engine =>
    { engine with aborted := engine.aborted || decide (sql ∉ engine.cache) }

def onHandle (sql : String) (program : Request κ α) : EngineTask κ α := do
  useHandle sql
  db.request program

/-- `js_get_array_length`, of which success is asserted. -/
def assertArray (field : ParameterField) : EngineTask κ Unit :=
  Task.modify fun engine => { engine with aborted := engine.aborted || !field.isArray }

def bind (sql : String) (parameters : Parameters) : EngineTask κ Unit :=
  if parameters.positional = .null then
    throw (.error (JsError.typeError "Cannot read properties of null (reading 'length')"))
  else do
    assertArray parameters.positional
    db.onHandle sql (db.sqlite.bind sql parameters.stringified)
    Task.modify fun engine =>
      { engine with bound := Function.update engine.bound sql parameters.stringified }

def step (sql : String) : EngineTask κ (Option Row) := do
  let parameters ← Task.read fun engine => engine.bound sql
  db.onHandle sql (db.sqlite.step sql parameters)

/-- `_run`, the last part of a RUN, STMT or BATCH operation. -/
def runStatement (sql : String) (parameters : Parameters) : EngineTask κ RunResult :=
  Task.ensure
    (rethrown do
      db.bind sql parameters
      let bound ← Task.read fun engine => engine.bound sql
      db.onHandle sql (db.sqlite.run sql bound))
    (db.onHandle sql (db.sqlite.reset sql))

/-- `if (this.closed) throw ...`: the open statements are those in the cache. -/
def checkOpen (sql : String) : EngineTask κ Unit :=
  .atomic fun engine =>
    (if sql ∈ engine.cache then .ok () else .error (.error JsError.alreadyClosed), engine)

def get (sql : String) (parameters : Parameters) : EngineTask κ (Option Row) := do
  checkOpen sql
  Task.ensure
    (rethrown do
      db.bind sql parameters
      db.step sql)
    (db.onHandle sql (db.sqlite.reset sql))

def rows (sql : String) : Nat → EngineTask κ (List Row)
  | 0 => pure []
  | limit + 1 => do
      let row ← db.step sql
      match row with
      | none => pure []
      | some row => do
          let more ← rows sql limit
          pure (row :: more)

/-- A consumer of the generator that takes at most `limit` rows; `all` takes every row
there is. -/
def iterate (sql : String) (parameters : Parameters) (limit : Nat) : EngineTask κ (List Row) := do
  checkOpen sql
  Task.ensure
    (rethrown do
      db.bind sql parameters
      db.rows sql limit)
    (db.onHandle sql (db.sqlite.reset sql))

def close (sql : String) : EngineTask κ Unit :=
  rethrown do
    db.request (db.sqlite.finalize sql)
    Task.modify fun engine => { engine with cache := engine.cache.erase sql }

/-- `finalize`: `ReadyResource` closes a statement once. -/
def finalize (sql : String) : EngineTask κ Unit := do
  let opened ← Task.read fun engine => decide (sql ∈ engine.cache)
  if opened then db.close sql else pure ()

def exec (sql : String) : EngineTask κ Unit :=
  rethrown (db.request (db.sqlite.exec sql))

def lookupCached (sql : String) : EngineTask κ Bool :=
  .atomic fun engine =>
    if engine.closed then (.error (.error JsError.alreadyClosed), engine)
    else if sql ∈ engine.cache then
      (.ok true, { engine with cache := engine.cache.erase sql ++ [sql] })
    else (.ok false, engine)

/-- `_cache.set`, and the statement to evict. -/
def insert (sql : String) : EngineTask κ (Option String) :=
  .atomic fun engine =>
    let cache := if sql ∈ engine.cache then engine.cache else engine.cache ++ [sql]
    let oldest := if cache.length > db.cacheSize then cache.head? else none
    (.ok oldest, { engine with cache := cache })

def evict : Option String → EngineTask κ Unit
  | some oldest => db.finalize oldest
  | none => pure ()

def prepareNew (sql : String) : EngineTask κ Unit := do
  rethrown (db.request (db.sqlite.prepare sql))
  let oldest ← db.insert sql
  db.evict oldest

def prepare (sql : String) : EngineTask κ Unit := do
  let cached ← lookupCached sql
  if cached then pure () else db.prepareNew sql

end Database

inductive LocalCall where
  | prepare (sql : String)
  | get (sql : String) (parameters : Parameters)
  | iterate (sql : String) (parameters : Parameters) (limit : Nat)
  | finalize (sql : String)
  deriving DecidableEq, Repr

def Database.localCall (db : Database κ) : LocalCall → EngineTask κ Unit
  | .prepare sql => db.prepare sql
  | .get sql parameters => do
      let _ ← db.get sql parameters
      pure ()
  | .iterate sql parameters limit => do
      let _ ← db.iterate sql parameters limit
      pure ()
  | .finalize sql => db.finalize sql

end ParaQL
