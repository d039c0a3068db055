/-
The oplog side of lib/vfs.js: `_apply`, and what `exec`, `run` and `flush` do with
`_interactive`.

Nodes come decoded.  Each carries the call that appended it, which the source does not
know; `attempts` and `completions` are kept for the statements about it and no code
reads them.
-/

import ParaQL.Async.Interference
import ParaQL.Database

namespace ParaQL

open Async Bytes

/-- `OPERATION` of lib/constants.js, with the fields that lib/codecs.js decodes. -/
inductive Operation where
  | writerAdd (key : Buffer)
  | writerDel (key : Buffer)
  | exec (sql : String)
  | run (sql : String) (parameters : Parameters)
  | stmt (sql : String) (parameters : Parameters)
  | batch (parameters : Parameters)
  | flush
  deriving DecidableEq, Repr

/-- The parameters are as `run` and `flush` write them. -/
def Operation.Listed : Operation → Prop
  | .run _ parameters => parameters.Listed
  | .stmt _ parameters => parameters.Listed
  | .batch parameters => parameters.Listed
  | _ => True

abbrev CallId := Nat

structure Node where
  owner : Option CallId
  operation : Operation
  deriving DecidableEq, Repr

/-- `exec`, `run` and `flush` of lib/vfs.js. -/
inductive OplogCall where
  | exec (sql : String)
  | run (sql : String) (parameters : Parameters)
  | flush (sql : String) (operations : List Parameters)
  deriving DecidableEq, Repr

/-- What a call appends.  The fields that it leaves undefined are decoded as null. -/
def OplogCall.operations : OplogCall → List Operation
  | .exec sql => [.exec sql]
  | .run sql parameters => [.run sql parameters]
  | .flush sql operations => .stmt sql .absent :: operations.map .batch ++ [.flush]

/-- What `_interactive` is resolved or rejected with. -/
inductive Settlement where
  | executed
  | ran (result : RunResult)
  | flushed (changes lastInsertRowid : Int) (errors : Nat)
  | rejected (thrown : JsValue)
  deriving DecidableEq, Repr

inductive CallPhase where
  | idle
  -- `_interactive` is set, and `deflate` is awaited.
  | packing
  -- The nodes are appended, and the `Deferred` of a call is awaited.
  | waiting (on : CallId)
  | settled (settlement : Settlement)
  | unsent (thrown : JsValue)
  deriving DecidableEq, Repr

def CallPhase.inProgress : CallPhase → Bool
  | .packing => true
  | .waiting _ => true
  | _ => false

/-- A processed EXEC, RUN or FLUSH node: the outcome of its own SQL, what was passed to
`_interactive`, and whose `Deferred` that was. -/
structure Completion where
  owner : Option CallId
  own : Settlement
  given : Settlement
  interactive : Option CallId
  deriving DecidableEq, Repr

structure Calls where
  interactive : Option CallId
  deferred : CallId → Option Settlement
  phase : CallId → CallPhase
  -- The results of the STMT and BATCH nodes of a call, from its last STMT on.
  attempts : CallId → List (Except JsValue RunResult)
  completions : List Completion

def Calls.initial : Calls :=
  { interactive := none, deferred := fun _ => none, phase := fun _ => .idle,
    attempts := fun _ => [], completions := [] }

/-- `this._interactive?.resolve(...)` or `reject(...)`.  A `Deferred` settles once. -/
def Calls.settle (calls : Calls) (settlement : Settlement) : Calls :=
  match calls.interactive with
  | none => calls
  | some id =>
      if (calls.deferred id).isSome then calls
      else { calls with deferred := Function.update calls.deferred id (some settlement) }

/-- The steps of `exec`, `run` and `flush`.  The append is taken to succeed. -/
inductive CallMove (compressed : Bool) : Calls → Calls → Prop where
  -- Without compression the append follows at once.
  | start (calls : Calls) (id : CallId) (idle : calls.phase id = .idle) :
      CallMove compressed calls
        { calls with
          interactive := some id
          phase := Function.update calls.phase id (if compressed then .packing else .waiting id) }
  | append (calls : Calls) (id on : CallId) (packing : calls.phase id = .packing)
      (current : calls.interactive = some on) :
      CallMove compressed calls
        { calls with phase := Function.update calls.phase id (.waiting on) }
  | orphan (calls : Calls) (id : CallId) (packing : calls.phase id = .packing)
      (none_left : calls.interactive = none) :
      CallMove compressed calls
        { calls with
          phase := Function.update calls.phase id (.settled (.rejected
            (.error (JsError.typeError "Cannot read properties of null (reading 'promise')")))) }
  | unpacked (calls : Calls) (id : CallId) (packing : calls.phase id = .packing) :
      CallMove compressed calls
        { calls with
          interactive := none
          phase := Function.update calls.phase id (.unsent .undefined) }
  | finish (calls : Calls) (id on : CallId) (settlement : Settlement)
      (waiting : calls.phase id = .waiting on) (settled : calls.deferred on = some settlement) :
      CallMove compressed calls
        { calls with
          interactive := none
          phase := Function.update calls.phase id (.settled settlement) }

/-- Calls on the view and on the `host` that `_apply` is given. -/
inductive HostCall where
  -- `view.write()`
  | write
  | addWriter (key : Buffer)
  | removeWriter (key : Buffer)
  -- `batch.flush()`
  | flush
  deriving DecidableEq, Repr

structure Instance (κ : Type) where
  engine : Engine κ
  calls : Calls
  host : List HostCall

variable {κ α : Type}

abbrev InstanceTask (κ α : Type) := Task (Instance κ) JsValue α

def Instance.setEngine (instance_ : Instance κ) (engine : Engine κ) : Instance κ :=
  { instance_ with engine := engine }

def Instance.setVfs (instance_ : Instance κ) (vfs : VfsState) : Instance κ :=
  instance_.setEngine (instance_.engine.setVfs vfs)

theorem Instance.lawful_engine : Task.LawfulPart (Instance.engine (κ := κ)) Instance.setEngine :=
  ⟨fun _ _ => rfl, fun _ _ _ => rfl, fun _ => rfl⟩

def onEngine (task : EngineTask κ α) : InstanceTask κ α :=
  task.zoom Instance.engine Instance.setEngine

theorem run_onEngine (task : EngineTask κ α) (state : Instance κ) :
    (onEngine task).run state =
      ((task.run state.engine).1, state.setEngine (task.run state.engine).2) :=
  Task.run_zoom Instance.lawful_engine task state

/-! ### `_apply` -/

/-- The local variables of `_apply`. -/
structure Progress where
  stmt : Option String
  changes : Int
  lastInsertRowid : Int
  errors : Nat
  deriving DecidableEq, Repr

def Progress.initial : Progress :=
  { stmt := none, changes := 0, lastInsertRowid := 0, errors := 0 }

def Progress.count (progress : Progress) : Except JsValue RunResult → Progress
  | .ok result =>
      { progress with
        changes := progress.changes + result.changes
        lastInsertRowid := result.lastInsertRowid }
  | .error _ => { progress with errors := progress.errors + 1 }

def Progress.flushed (progress : Progress) : Settlement :=
  .flushed progress.changes progress.lastInsertRowid progress.errors

/-- What the FLUSH of a call reports when only the given attempts count. -/
def tally (attempts : List (Except JsValue RunResult)) : Settlement :=
  (attempts.foldl Progress.count .initial).flushed

def Settlement.ofExec : Except JsValue Unit → Settlement
  | .ok _ => .executed
  | .error thrown => .rejected thrown

def Settlement.ofRun : Except JsValue RunResult → Settlement
  | .ok result => .ran result
  | .error thrown => .rejected thrown

def Calls.complete (calls : Calls) (owner : Option CallId) (own given : Settlement) : Calls :=
  let completion : Completion :=
    { owner := owner, own := own, given := given, interactive := calls.interactive }
  { calls.settle given with completions := calls.completions ++ [completion] }

def Calls.attempt (calls : Calls) (owner : Option CallId) (opens : Bool)
    (result : Except JsValue RunResult) : Calls :=
  match owner with
  | none => calls
  | some id =>
      let earlier := if opens then [] else calls.attempts id
      { calls with attempts := Function.update calls.attempts id (earlier ++ [result]) }

namespace Database

variable (db : Database κ)

/-- `_write`. -/
def switchTo (view : Option Nat) : InstanceTask κ Unit :=
  onEngine ((ParaVFS.write view).zoom Engine.vfs Engine.setVfs)

theorem run_switchTo (target : Option Nat) (state : Instance κ) :
    (switchTo target).run state =
      if state.engine.vfs.files.keys.card ≠ 0 then
        (.error (.error (JsError.internal
          ("Unflushed batches: " ++ toString state.engine.vfs.files.keys.card))),
          state.setVfs (state.engine.vfs.record (.switch target)))
      else
        (.ok (), state.setVfs { state.engine.vfs.record (.switch target) with view := target }) := by
  unfold switchTo
  rw [run_onEngine, Task.run_zoom Engine.lawful_vfs]
  by_cases pending : state.engine.vfs.files.keys.card ≠ 0
  · have ran : (ParaVFS.write target).run state.engine.vfs = (.error _, _) := if_pos pending
    rw [ran, if_pos pending]
    rfl
  · have ran : (ParaVFS.write target).run state.engine.vfs = (.ok (), _) := if_neg pending
    rw [ran, if_neg pending]
    rfl

def complete (owner : Option CallId) (own given : Settlement) : InstanceTask κ Unit :=
  Task.modify fun state => { state with calls := state.calls.complete owner own given }

def callHost (call : HostCall) : InstanceTask κ Unit :=
  .atomic fun state =>
    (match db.hostFault state.host.length with
      | some thrown => .error thrown
      | none => .ok (), { state with host := state.host ++ [call] })

def applyWriter (call : HostCall) : InstanceTask κ Unit := do
  db.callHost .write
  db.callHost call
  db.callHost .flush

def applyExec (owner : Option CallId) (view : Nat) (sql : String) : InstanceTask κ Unit := do
  switchTo (some view)
  let result ← (onEngine (db.exec sql)).outcome
  complete owner (.ofExec result) (.ofExec result)
  switchTo none

/-- The `try` block of a RUN: whether the statement could be prepared, and the result. -/
def prepareAndRun (sql : String) (parameters : Parameters) :
    InstanceTask κ (Bool × Except JsValue RunResult) := do
  let prepared ← (onEngine (db.prepare sql)).outcome
  match prepared with
  | .ok _ => do
      let result ← (onEngine (db.runStatement sql parameters)).outcome
      pure (true, result)
  | .error thrown => pure (false, .error thrown)

def applyRun (owner : Option CallId) (view : Nat) (sql : String) (parameters : Parameters)
    (progress : Progress) : InstanceTask κ Progress := do
  switchTo (some view)
  let (prepared, result) ← db.prepareAndRun sql parameters
  complete owner (.ofRun result) (.ofRun result)
  switchTo none
  pure (if prepared then { progress with stmt := some sql } else progress)

/-- `stmt._run` of a STMT or BATCH, when there is a statement. -/
def runOn (stmt : Option String) (parameters : Parameters) : InstanceTask κ RunResult :=
  match stmt with
  | some sql => onEngine (db.runStatement sql parameters)
  | none => throw (.error (JsError.typeError "Cannot read properties of null (reading '_run')"))

def applyBatch (owner : Option CallId) (opens : Bool) (view : Nat) (parameters : Parameters)
    (progress : Progress) : InstanceTask κ Progress := do
  switchTo (some view)
  let result ← (db.runOn progress.stmt parameters).outcome
  Task.modify fun state => { state with calls := state.calls.attempt owner opens result }
  switchTo none
  pure (progress.count result)

/-- `errors` is the counter there, and `errors.INTERNAL(...)` a call of `undefined`. -/
def invalidStatement : JsValue := .error (JsError.typeError "errors.INTERNAL is not a function")

/-- A STMT prepares its statement before `_write`, and outside of the `try` of a BATCH. -/
def prepareStmt (sql : String) : InstanceTask κ Unit := do
  let prepared ← (onEngine (db.prepare sql)).outcome
  .atomic fun state =>
    let failed := match prepared with
      | .ok _ => false
      | .error _ => true
    (if failed then .error invalidStatement else .ok (),
      state.setVfs (state.engine.vfs.record (.prepare sql failed)))

def applyNode (view : Nat) (node : Node) (progress : Progress) : InstanceTask κ Progress :=
  match node.operation with
  | .writerAdd key => do
      db.applyWriter (.addWriter key)
      pure progress
  | .writerDel key => do
      db.applyWriter (.removeWriter key)
      pure progress
  | .exec sql => do
      db.applyExec node.owner view sql
      pure progress
  | .run sql parameters => db.applyRun node.owner view sql parameters progress
  | .stmt sql parameters => do
      db.prepareStmt sql
      db.applyBatch node.owner true view parameters { progress with stmt := some sql }
  | .batch parameters => db.applyBatch node.owner false view parameters progress
  | .flush => do
      Task.modify fun state =>
        { state with
          calls := state.calls.complete node.owner
            (match node.owner with
              | some id => tally (state.calls.attempts id)
              | none => progress.flushed)
            progress.flushed }
      pure progress

def applyFrom (view : Nat) : List Node → Progress → InstanceTask κ Unit
  | [], _ => pure ()
  | node :: nodes, progress => do
      let progress ← db.applyNode view node progress
      applyFrom view nodes progress

def apply (nodes : List Node) (view : Nat) : InstanceTask κ Unit :=
  db.applyFrom view nodes .initial

def mainPages (view : Nat) (peer : Instance κ) : Pages :=
  peer.engine.vfs.stores (.view (.applied view)) db.vfs.name

/-- What can happen while `_apply` waits: a step of a call, or a step that some local call
in progress can make. -/
inductive Move (calls : Calls → Calls → Prop) (allowed : LocalCall → Prop) :
    Instance κ → Instance κ → Prop where
  | call (state : Instance κ) (next : Calls) (move : calls state.calls next) :
      Move calls allowed state { state with calls := next }
  | localStep (state : Instance κ) (call : LocalCall) (permitted : allowed call)
      {update : Engine κ → Engine κ} (makes : Task.Makes (db.localCall call) update) :
      Move calls allowed state { state with engine := update state.engine }

def AnyMove : Instance κ → Instance κ → Prop :=
  db.Move (CallMove db.vfs.compressed) (fun _ => True)

/-- One `_apply` call of a run. -/
structure Applied (κ : Type) where
  nodes : List Node
  view : Nat
  before : Instance κ
  result : Except JsValue Unit
  after : Instance κ

/-- A run from one state to another, with the `_apply` calls made on the way. -/
inductive Served (moves : Instance κ → Instance κ → Prop) (start : Instance κ) :
    List (Applied κ) → Instance κ → Prop where
  | start : Served moves start [] start
  | move {applied : List (Applied κ)} {state moved : Instance κ}
      (run : Served moves start applied state) (step : moves state moved) :
      Served moves start applied moved
  | apply {applied : List (Applied κ)} {state final : Instance κ} {result : Except JsValue Unit}
      (run : Served moves start applied state) (nodes : List Node) (view : Nat)
      (ran : Task.RunUnder moves (db.apply nodes view) state result final) :
      Served moves start (applied ++ [⟨nodes, view, state, result, final⟩]) final

def callAlone (call : LocalCall) (before : Instance κ) : Instance κ :=
  before.setEngine ((db.localCall call).run before.engine).2

variable {db} in
theorem Served.callAlone {calls : Calls → Calls → Prop} {allowed : LocalCall → Prop}
    {start state : Instance κ} {applied : List (Applied κ)}
    (run : db.Served (db.Move calls allowed) start applied state) (call : LocalCall)
    (permitted : allowed call) :
    db.Served (db.Move calls allowed) start applied (db.callAlone call state) := by
  have steps := Task.makes_run (db.localCall call) state.engine
  unfold Database.callAlone
  generalize ((db.localCall call).run state.engine).2 = after at steps ⊢
  induction steps with
  | refl => exact run
  | tail _ step ih =>
      obtain ⟨update, makes, rfl⟩ := step
      exact .move ih (.localStep _ call permitted makes)

def applyAlone (nodes : List Node) (view : Nat) (before : Instance κ) : Applied κ :=
  { nodes := nodes, view := view, before := before
    result := ((db.apply nodes view).run before).1
    after := ((db.apply nodes view).run before).2 }

variable {db} in
theorem Served.applyAlone {moves : Instance κ → Instance κ → Prop} {start state : Instance κ}
    {applied : List (Applied κ)} (run : db.Served moves start applied state) (nodes : List Node)
    (view : Nat) :
    db.Served moves start (applied ++ [db.applyAlone nodes view state])
      (db.applyAlone nodes view state).after :=
  .apply run nodes view (Task.runUnder_run moves _ state)

end Database

def Instance.opened (stores : StoreRef → Store) (clock : Nat → Int) (connection : κ) :
    Instance κ :=
  { engine :=
      { vfs := .initial stores, connection := connection, bound := fun _ => .absent, cache := [],
        closed := false, aborted := false, clock := clock, clockReads := 0 }
    calls := .initial
    host := [] }

end ParaQL
