/-
The errors that callers see.

binding.c makes an error of a code of SQLite and its message, or a `TypeError` of a mismatch
of parameters, and the layers above turn both into a `ParaQLError`.  Only what the last
`reset` of a call rejects with goes past them.
-/

import ParaQL.Async.Rejections
import ParaQL.CallBridge
import ParaQL.OwnOutcomes
import ParaQL.WorkerTasks

namespace ParaQL

open Async Async.Task Bytes

def paraqlCode (errcode : Int) : String :=
  match (errcode % 256).toNat with
  | 1 => "ERROR"
  | 2 => "INTERNAL"
  | 3 => "PERM"
  | 4 => "ABORT"
  | 5 => "BUSY"
  | 6 => "LOCKED"
  | 7 => "NOMEM"
  | 8 => "READONLY"
  | 9 => "INTERRUPT"
  | 10 => "IOERR"
  | 11 => "CORRUPT"
  | 12 => "NOTFOUND"
  | 13 => "FULL"
  | 14 => "CANTOPEN"
  | 15 => "PROTOCOL"
  | 16 => "EMPTY"
  | 17 => "SCHEMA"
  | 18 => "TOOBIG"
  | 19 => "CONSTRAINT"
  | 20 => "MISMATCH"
  | 21 => "MISUSE"
  | 22 => "NOLFS"
  | 23 => "AUTH"
  | 24 => "FORMAT"
  | 25 => "RANGE"
  | 26 => "NOTADB"
  | 27 => "NOTICE"
  | 28 => "WARNING"
  | _ => "ERROR"

def makeError (errcode : Int) (errmsg : String) : JsError :=
  { name := "Error", code := some (paraqlCode errcode), message := errmsg }

def Native (error : JsError) : Prop := ∃ errcode errmsg, error = makeError errcode errmsg

variable {κ α : Type}

inductive Program.Yields (holds : α → Prop) : Program α → Prop where
  | done (value : α) (here : holds value) : Yields holds (.done value)
  | ask {call : SqliteCall} {next : call.Answer → Program α}
      (rest : ∀ answer, Yields holds (next answer)) : Yields holds (.ask call next)

def Request.Fails (request : Request κ α) (errors : JsError → Prop) : Prop :=
  ∀ connection, (request connection).Yields fun ending =>
    ∀ error, ending.1 = .error error → errors error

/-- What the requests of binding.c reject with.  A `finalize` never does, and a `reset` only
when the statement was finalized. -/
structure Sqlite.NativeErrors (sqlite : Sqlite κ) : Prop where
  exec : ∀ sql, (sqlite.exec sql).Fails Native
  prepare : ∀ sql, (sqlite.prepare sql).Fails Native
  bind : ∀ sql parameters, (sqlite.bind sql parameters).Fails fun error =>
    Native error ∨ ∃ errmsg, error = JsError.typeError errmsg
  step : ∀ sql parameters, (sqlite.step sql parameters).Fails Native
  run : ∀ sql parameters, (sqlite.run sql parameters).Fails Native
  reset : ∀ sql, (sqlite.reset sql).Fails fun error => error = makeError sqliteMisuse stmtFinalized
  finalize : ∀ sql, (sqlite.finalize sql).Fails fun _ => False

/-- What `paraql__on_after_*` rejects with, whatever stands where a message was never set. -/
def WorkerRequest.RejectsWith (request : WorkerRequest) (error : JsError) : Prop :=
  request.errcode ≠ 0 ∧ ∃ errmsg, (∀ message ∈ request.errmsg, errmsg = message) ∧
    error = makeError request.errcode errmsg

def TaskFails (kind : TaskKind) (error : JsError) : Prop :=
  ∃ (state : WorkerState) (task : WorkerTask), task.kind = kind ∧
    (state.perform task).2.request.RejectsWith error

/-- `paraql__on_after_parse` cancels the bind. -/
def ParseCancels (error : JsError) : Prop :=
  ∃ (request : BindRequest String), request.onAfterParse .plain = .error (.thrown (.error error))

/-- Every request is a task of a worker, and fails as the task does.  A bind is two tasks, with
`paraql__on_after_parse` in between. -/
structure Sqlite.CompletesTasks (sqlite : Sqlite κ) : Prop where
  exec : ∀ sql, (sqlite.exec sql).Fails (TaskFails .exec)
  prepare : ∀ sql, (sqlite.prepare sql).Fails (TaskFails .prepare)
  bind : ∀ sql parameters, (sqlite.bind sql parameters).Fails fun error =>
    TaskFails .parse error ∨ ParseCancels error ∨ TaskFails .bind error
  step : ∀ sql parameters, (sqlite.step sql parameters).Fails (TaskFails .step)
  run : ∀ sql parameters, (sqlite.run sql parameters).Fails (TaskFails .run)
  reset : ∀ sql, (sqlite.reset sql).Fails (TaskFails .reset)
  finalize : ∀ sql, (sqlite.finalize sql).Fails (TaskFails .finalize)

private theorem native_of_taskFails {kind : TaskKind} {error : JsError}
    (fails : TaskFails kind error) :
    Native error := by
  obtain ⟨_, _, _, _, errmsg, _, same⟩ := fails
  exact ⟨_, errmsg, same⟩

private theorem misuse_of_resetFails {error : JsError} (fails : TaskFails .reset error) :
    error = makeError sqliteMisuse stmtFinalized := by
  obtain ⟨state, task, isReset, failed, errmsg, said, same⟩ := fails
  cases task <;> cases isReset
  rename_i stmt
  change (state.onBeforeReset stmt).request.errcode ≠ 0 at failed
  change ∀ message ∈ (state.onBeforeReset stmt).request.errmsg, errmsg = message at said
  change error = makeError (state.onBeforeReset stmt).request.errcode errmsg at same
  unfold WorkerState.onBeforeReset at failed said same
  split at failed
  · exact absurd rfl failed
  · rename_i finalized
    rw [if_neg finalized] at said same
    rw [same, said stmtFinalized rfl]
    rfl

private theorem not_finalizeFails (error : JsError) : ¬TaskFails .finalize error := by
  rintro ⟨state, task, isFinalize, failed, _⟩
  cases task <;> cases isFinalize
  exact failed rfl

section Cancelled

variable {β : Type}

def ThrowsTypeErrors (result : Except Halt β) : Prop :=
  ∀ thrown, result = .error (.thrown thrown) → ∃ errmsg, thrown = .error (JsError.typeError errmsg)

private theorem throwsTypeErrors_cancel (message : String) :
    ThrowsTypeErrors (.error (cancelBind message) : Except Halt β) := by
  intro thrown same
  cases same
  exact ⟨message, rfl⟩

private theorem throwsTypeErrors_ok (value : β) : ThrowsTypeErrors (.ok value) := by
  intro thrown same
  cases same

theorem ThrowsTypeErrors.bind {γ : Type} {result : Except Halt β} {next : β → Except Halt γ}
    (first : ThrowsTypeErrors result) (rest : ∀ value, ThrowsTypeErrors (next value)) :
    ThrowsTypeErrors (result >>= next) := by
  cases result with
  | ok value => exact rest value
  | error halt =>
      intro thrown same
      cases same
      exact first thrown rfl

private theorem throwsTypeErrors_parse (argument : JsArgument) :
    ThrowsTypeErrors (parseSupported argument) := by
  have parsed : ThrowsTypeErrors (parseValue argument) := by
    intro thrown same
    unfold parseValue at same
    split at same <;> cases same
  refine parsed.bind fun value => ?_
  cases value with
  | some value => exact throwsTypeErrors_ok value
  | none => exact throwsTypeErrors_cancel _

private theorem throwsTypeErrors_onAfterParse (request : BindRequest String) :
    ThrowsTypeErrors (request.onAfterParse .plain) := by
  have placeholder (cursor : BindRequest.Cursor) (i : Nat) :
      ThrowsTypeErrors (request.bindPlaceholder .plain cursor i) := by
    unfold BindRequest.bindPlaceholder
    split
    · exact throwsTypeErrors_ok _
    · split
      · exact throwsTypeErrors_cancel _
      · exact (throwsTypeErrors_parse _).bind fun _ => throwsTypeErrors_ok _
    · split
      · exact throwsTypeErrors_cancel _
      · split
        · exact throwsTypeErrors_cancel _
        · exact (throwsTypeErrors_parse _).bind fun _ => throwsTypeErrors_ok _
  have placeholders (cursor : BindRequest.Cursor) (indices : List Nat) :
      ThrowsTypeErrors (indices.foldlM (request.bindPlaceholder .plain) cursor) := by
    induction indices generalizing cursor with
    | nil => exact throwsTypeErrors_ok _
    | cons i indices ih =>
        rw [List.foldlM_cons]
        exact (placeholder cursor i).bind ih
  unfold BindRequest.onAfterParse
  refine (placeholders _ _).bind fun cursor => ?_
  split
  · exact throwsTypeErrors_cancel _
  · split
    · exact throwsTypeErrors_cancel _
    · exact throwsTypeErrors_ok _

end Cancelled

theorem Request.Fails.mono {request : Request κ α} {errors wider : JsError → Prop}
    (fails : request.Fails errors) (weakens : ∀ error, errors error → wider error) :
    request.Fails wider := by
  intro connection
  have yields := fails connection
  generalize request connection = program at yields ⊢
  induction yields with
  | done value here => exact .done value fun error same => weakens error (here error same)
  | ask _ ih => exact .ask ih

private theorem Sqlite.CompletesTasks.nativeErrors {sqlite : Sqlite κ}
    (tasks : sqlite.CompletesTasks) :
    sqlite.NativeErrors where
  exec sql := (tasks.exec sql).mono fun _ => native_of_taskFails
  prepare sql := (tasks.prepare sql).mono fun _ => native_of_taskFails
  bind sql parameters := by
    refine (tasks.bind sql parameters).mono fun error fails => ?_
    rcases fails with parses | ⟨request, cancelled⟩ | binds
    · exact .inl (native_of_taskFails parses)
    · obtain ⟨errmsg, same⟩ := throwsTypeErrors_onAfterParse request _ cancelled
      exact .inr ⟨errmsg, by cases same; rfl⟩
    · exact .inl (native_of_taskFails binds)
  step sql parameters := (tasks.step sql parameters).mono fun _ => native_of_taskFails
  run sql parameters := (tasks.run sql parameters).mono fun _ => native_of_taskFails
  reset sql := (tasks.reset sql).mono fun _ => misuse_of_resetFails
  finalize sql := (tasks.finalize sql).mono not_finalizeFails

def callerCodes : List String :=
  ["INVALID_ARGUMENT", "ALREADY_CLOSED", "ERROR", "INTERNAL", "PERM", "ABORT", "BUSY", "LOCKED",
    "NOMEM", "READONLY", "INTERRUPT", "IOERR", "CORRUPT", "NOTFOUND", "FULL", "CANTOPEN",
    "PROTOCOL", "EMPTY", "SCHEMA", "TOOBIG", "CONSTRAINT", "MISMATCH", "MISUSE", "NOLFS", "AUTH",
    "FORMAT", "RANGE", "NOTADB", "NOTICE", "WARNING"]

/-- A `ParaQLError` with one of these codes, which its message starts with. -/
def CallerError (thrown : JsValue) : Prop :=
  ∃ code ∈ callerCodes, ∃ message, thrown = .error (JsError.paraQL message code)

/-- What the `reset` in a `finally` rejects with. -/
def resetRejection : JsValue := .error (makeError sqliteMisuse stmtFinalized)

def Seen (thrown : JsValue) : Prop := CallerError thrown ∨ thrown = resetRejection

private theorem paraqlCode_known (errcode : Int) : paraqlCode errcode ∈ callerCodes := by
  unfold paraqlCode
  split <;> decide

private theorem callerError_native {error : JsError} (native : Native error) :
    CallerError (JsValue.fromThrown (.error error)) := by
  obtain ⟨errcode, errmsg, rfl⟩ := native
  exact ⟨_, paraqlCode_known errcode, errmsg, rfl⟩

private theorem callerError_typeError (errmsg : String) :
    CallerError (JsValue.fromThrown (.error (JsError.typeError errmsg))) :=
  ⟨"INVALID_ARGUMENT", by decide, errmsg, rfl⟩

private theorem callerError_closed : CallerError (.error JsError.alreadyClosed) :=
  ⟨"ALREADY_CLOSED", by decide, _, rfl⟩

namespace Database

variable {db : Database κ} {errors : JsError → Prop}

/-! ### Requests -/

private theorem answer_rejects (db : Database κ) (call : SqliteCall) :
    Rejects (fun _ => False) (db.answer call) := by
  cases call with
  | file call =>
      have answers : Rejects (fun _ => False) (db.vfs.native call) :=
        .of_resolves (db.vfs.native_resolves call)
      exact answers.zoom
  | randomness bytes => exact rejects_pure _
  | currentTime => exact rejects_atomic fun _ _ impossible => by cases impossible

private theorem serve_gives {holds : α → Prop} {program : Program α}
    (yields : program.Yields holds) :
    Gives (fun result => ∃ value, result = .ok value ∧ holds value) (db.serve program) := by
  induction yields with
  | done value here => exact .done _ ⟨value, rfl, here⟩
  | ask rest ih =>
      exact Gives.bind (db.answer_rejects _) (fun answer _ => ih answer) fun rejection known =>
        (known rejection rfl).elim

def Among (errors : JsError → Prop) (thrown : JsValue) : Prop :=
  ∃ error, thrown = .error error ∧ errors error

theorem request_rejects {request : Request κ α} (fails : request.Fails errors) :
    Rejects (Among errors) (db.request request) := by
  refine (rejects_read Engine.connection).bind fun connection => ?_
  refine Gives.bind (serve_gives (fails connection)) (fun ending known => ?_) fun _ known => ?_
  · obtain ⟨_, same, here⟩ := known
    cases same
    refine rejects_atomic fun _ rejection isError => ?_
    obtain ⟨result, _⟩ := ending
    cases result with
    | ok value => cases isError
    | error error =>
        cases isError
        exact ⟨error, rfl, here error rfl⟩
  · obtain ⟨_, impossible, _⟩ := known
    cases impossible

private theorem onHandle_rejects (sql : String) {request : Request κ α}
    (fails : request.Fails errors) :
    Rejects (Among errors) (db.onHandle sql request) :=
  (rejects_modify _).bind fun _ => request_rejects fails

private theorem rethrown_rejects {σ : Type} {task : Task σ JsValue α} {thrown : JsValue → Prop}
    (rejects : Rejects thrown task)
    (wraps : ∀ rejection, thrown rejection → CallerError rejection.fromThrown) :
    Rejects Seen (rethrown task) :=
  rejects.catch fun rejection here => rejects_throw (.inl (wraps rejection here))

private theorem wraps_native (rejection : JsValue) (known : Among Native rejection) :
    CallerError rejection.fromThrown := by
  obtain ⟨error, rfl, native⟩ := known
  exact callerError_native native

section Calls

variable (native : db.sqlite.NativeErrors)

include native

private theorem reset_rejects (sql : String) : Rejects Seen
    (db.onHandle sql (db.sqlite.reset sql)) := by
  refine (onHandle_rejects sql (native.reset sql)).mono ?_
  rintro _ ⟨error, rfl, rfl⟩
  exact .inr rfl

private theorem bind_rejects (sql : String) (parameters : Parameters) :
    Rejects (fun rejection => CallerError rejection.fromThrown) (db.bind sql parameters) := by
  unfold bind
  split
  · exact rejects_throw (callerError_typeError _)
  · refine Rejects.bind (rejects_modify _) fun _ => Rejects.bind
      ((onHandle_rejects sql (native.bind sql _)).mono ?_) fun _ => rejects_modify _
    rintro _ ⟨error, rfl, isNative | ⟨errmsg, rfl⟩⟩
    · exact callerError_native isNative
    · exact callerError_typeError errmsg

/-- The body of a call on a statement, and the `reset` that ends it. -/
theorem call_rejects {sql : String} {parameters : Parameters} {body : EngineTask κ α}
    (rejects : Rejects (Among Native) body) :
    Rejects Seen (Task.ensure
      (rethrown do
        db.bind sql parameters
        body)
      (db.onHandle sql (db.sqlite.reset sql))) := by
  have body : Rejects (fun rejection => CallerError rejection.fromThrown)
      (db.bind sql parameters >>= fun _ => body) :=
    (bind_rejects native sql parameters).bind fun _ => rejects.mono wraps_native
  exact Rejects.ensure (rethrown_rejects body fun _ wraps => wraps) (reset_rejects native sql)

private theorem step_rejects (sql : String) : Rejects (Among Native) (db.step sql) :=
  (rejects_read _).bind fun parameters =>
    onHandle_rejects sql (native.step sql parameters)

private theorem rows_rejects (sql : String) (limit : Nat) :
    Rejects (Among Native) (db.rows sql limit) := by
  induction limit with
  | zero => exact rejects_pure []
  | succ limit ih =>
      refine (step_rejects native sql).bind fun row => ?_
      cases row with
      | none => exact rejects_pure []
      | some row => exact ih.bind fun more => rejects_pure (row :: more)

private theorem runStatement_rejects (sql : String) (parameters : Parameters) :
    Rejects Seen (db.runStatement sql parameters) :=
  call_rejects native ((rejects_read _).bind fun bound =>
    onHandle_rejects sql (native.run sql bound))

omit native in
private theorem checkOpen_rejects (sql : String) :
    Rejects Seen (checkOpen sql : EngineTask κ Unit) := by
  refine rejects_atomic fun engine rejection isError => ?_
  by_cases opened : sql ∈ engine.cache
  · simp only [if_pos opened] at isError
    cases isError
  · simp only [if_neg opened] at isError
    cases isError
    exact .inl callerError_closed

private theorem get_rejects (sql : String) (parameters : Parameters) :
    Rejects Seen (db.get sql parameters) :=
  (checkOpen_rejects sql).bind fun _ => call_rejects native (step_rejects native sql)

private theorem iterate_rejects (sql : String) (parameters : Parameters) (limit : Nat) :
    Rejects Seen (db.iterate sql parameters limit) :=
  (checkOpen_rejects sql).bind fun _ => call_rejects native (rows_rejects native sql limit)

private theorem finalize_rejects (sql : String) : Rejects Seen (db.finalize sql) := by
  refine (rejects_read _).bind fun opened => ?_
  split
  · refine rethrown_rejects (Rejects.bind (request_rejects (native.finalize sql)) fun _ =>
      rejects_modify _) fun _ known => ?_
    obtain ⟨_, _, impossible⟩ := known
    exact impossible.elim
  · exact rejects_pure ()

private theorem prepare_rejects (sql : String) : Rejects Seen (db.prepare sql) := by
  have looks : Rejects Seen (lookupCached sql : EngineTask κ Bool) := by
    refine rejects_atomic fun engine rejection isError => ?_
    by_cases closed : engine.closed = true
    · simp only [if_pos closed] at isError
      cases isError
      exact .inl callerError_closed
    · rw [if_neg closed] at isError
      split at isError <;> cases isError
  refine looks.bind fun cached => ?_
  split
  · exact rejects_pure ()
  · refine (rethrown_rejects (request_rejects (native.prepare sql)) wraps_native).bind fun _ => ?_
    refine Rejects.bind (rejects_atomic fun _ _ impossible => by cases impossible) fun oldest => ?_
    cases oldest with
    | none => exact rejects_pure ()
    | some oldest => exact finalize_rejects native oldest

private theorem exec_rejects (sql : String) : Rejects Seen (db.exec sql) :=
  rethrown_rejects (request_rejects (native.exec sql)) wraps_native

private theorem localCall_rejects (call : LocalCall) : Rejects Seen (db.localCall call) := by
  cases call with
  | prepare sql => exact prepare_rejects native sql
  | get sql parameters =>
      exact (get_rejects native sql parameters).bind fun _ => rejects_pure ()
  | iterate sql parameters limit =>
      exact (iterate_rejects native sql parameters limit).bind fun _ => rejects_pure ()
  | finalize sql => exact finalize_rejects native sql

end Calls

end Database

/-! ### Calls of the oplog -/

/-- What a call is rejected with whose `_interactive` was taken away before its append. -/
def orphaned : JsValue :=
  .error (JsError.typeError "Cannot read properties of null (reading 'promise')")

def Settlement.Honest : Settlement → Prop
  | .rejected thrown => Seen thrown
  | _ => True

structure Calls.Honest (calls : Calls) : Prop where
  deferred : ∀ id settlement, calls.deferred id = some settlement → settlement.Honest
  settled : ∀ id thrown, calls.phase id = .settled (.rejected thrown) →
    Seen thrown ∨ thrown = orphaned

namespace Calls

variable {calls next : Calls}

private theorem honest_initial : Calls.initial.Honest :=
  ⟨fun _ _ impossible => (by cases impossible), fun _ _ impossible => (by cases impossible)⟩

theorem Honest.rephase (honest : calls.Honest) (id : CallId) (interactive : Option CallId)
    (phase : CallPhase)
    (here : ∀ thrown, phase = .settled (.rejected thrown) → Seen thrown ∨ thrown = orphaned) :
    Honest { calls with
      interactive := interactive, phase := Function.update calls.phase id phase } := by
  refine ⟨honest.deferred, fun other thrown settled => ?_⟩
  change Function.update calls.phase id phase other = _ at settled
  by_cases same : other = id
  · rw [same, Function.update_self] at settled
    exact here thrown settled
  · rw [Function.update_of_ne same] at settled
    exact honest.settled other thrown settled

theorem Honest.move {compressed : Bool} (honest : calls.Honest)
    (move : CallMove compressed calls next) : next.Honest := by
  cases move with
  | start id idle =>
      exact honest.rephase id _ _ fun thrown impossible => by
        cases compressed <;> cases impossible
  | append id on packing current =>
      exact honest.rephase id _ _ fun thrown impossible => by cases impossible
  | orphan id packing noneLeft =>
      refine honest.rephase id _ _ fun thrown same => .inr ?_
      cases same
      rfl
  | unpacked id packing =>
      exact honest.rephase id _ _ fun thrown impossible => by cases impossible
  | finish id on settlement waiting settled =>
      refine honest.rephase id _ _ fun thrown same => .inl ?_
      cases same
      exact honest.deferred on _ settled

theorem Honest.complete (honest : calls.Honest) (owner : Option CallId) (own : Settlement)
    {given : Settlement} (here : given.Honest) : (calls.complete owner own given).Honest := by
  refine ⟨fun id settlement found => ?_, ?_⟩
  · change (calls.settle given).deferred id = _ at found
    rw [deferred_settle] at found
    split at found
    · cases before : calls.deferred id with
      | none =>
          rw [before] at found
          cases found
          exact here
      | some earlier =>
          rw [before] at found
          cases found
          exact honest.deferred id _ before
    · exact honest.deferred id settlement found
  · intro id thrown settled
    have same : (calls.complete owner own given).phase = calls.phase := by
      unfold Calls.complete settle
      split
      · rfl
      · split <;> rfl
    rw [same] at settled
    exact honest.settled id thrown settled

theorem Honest.attempt (honest : calls.Honest) (owner : Option CallId) (opens : Bool)
    (result : Except JsValue RunResult) : (calls.attempt owner opens result).Honest := by
  cases owner <;> exact ⟨honest.deferred, honest.settled⟩

end Calls

namespace Database

variable {db : Database κ} {view : Nat}

def HonestCalls (state : Instance κ) : Prop := state.calls.Honest

private theorem honest_stable (db : Database κ) : Stable db.AnyMove HonestCalls := by
  intro state moved move honest
  cases move with
  | call next step => exact Calls.Honest.move honest step
  | localStep call permitted makes => exact honest

/-- `_apply` keeps the calls honest, wherever it throws. -/
abbrev KeepsHonest (db : Database κ) (task : InstanceTask κ α) : Prop :=
  Triple db.AnyMove HonestCalls task (fun _ => HonestCalls) (fun _ => HonestCalls)

private theorem switchTo_honest (target : Option Nat) : KeepsHonest db (switchTo target) :=
  switchTo_calls Calls.Honest (honest_stable db) (fun _ _ honest => honest) target

private theorem outcome_honest {task : EngineTask κ α} (rejects : Rejects Seen task) :
    Triple db.AnyMove HonestCalls (onEngine task).outcome
      (fun result state => HonestCalls state ∧ ∀ thrown, result = .error thrown → Seen thrown)
      (fun _ => HonestCalls) := by
  intro state result final honest ran
  have keeps : Triple db.AnyMove HonestCalls (onEngine task).outcome (fun _ => HonestCalls)
      (fun _ => HonestCalls) := outcome_calls Calls.Honest (honest_stable db) (guarantees_any task)
  have kept := keeps state result final honest ran
  obtain ⟨inner, rfl, here⟩ := (Gives.outcome rejects.zoom).ends ran
  exact ⟨kept, here⟩

private theorem complete_honest {owner : Option CallId} {own given : Settlement}
    (here : given.Honest) :
    KeepsHonest db (complete owner own given) :=
  triple_modify (honest_stable db) fun _ honest => Calls.Honest.complete honest owner own here

private theorem applyExec_honest (native : db.sqlite.NativeErrors) (owner : Option CallId)
    (sql : String) : KeepsHonest db (db.applyExec owner view sql) := by
  refine (switchTo_honest (some view)).bind fun _ => ?_
  refine (outcome_honest (exec_rejects native sql)).bind fun result => triple_known fun known => ?_
  have here : (Settlement.ofExec result).Honest := by
    cases result with
    | ok value => exact trivial
    | error thrown => exact known thrown rfl
  exact (complete_honest here).bind fun _ => switchTo_honest none

private theorem prepareAndRun_honest (native : db.sqlite.NativeErrors) (sql : String)
    (parameters : Parameters) :
    Triple db.AnyMove HonestCalls (db.prepareAndRun sql parameters)
      (fun outcome state => HonestCalls state ∧ (Settlement.ofRun outcome.2).Honest)
      (fun _ => HonestCalls) := by
  refine (outcome_honest (prepare_rejects native sql)).bind fun prepared => ?_
  cases prepared with
  | ok value =>
      refine Triple.bind ((outcome_honest (runStatement_rejects native sql parameters)).mono
        (fun _ holds => holds.1) (fun _ _ holds => holds) fun _ _ holds => holds) fun result => ?_
      refine triple_pure _ fun state known => ⟨known.1, ?_⟩
      cases result with
      | ok value => exact trivial
      | error thrown => exact known.2 thrown rfl
  | error thrown => exact triple_pure _ fun _ known => ⟨known.1, known.2 thrown rfl⟩

private theorem applyRun_honest (native : db.sqlite.NativeErrors) (owner : Option CallId)
    (sql : String)
    (parameters : Parameters) (progress : Progress) :
    KeepsHonest db (db.applyRun owner view sql parameters progress) := by
  refine (switchTo_honest (some view)).bind fun _ => ?_
  refine (prepareAndRun_honest native sql parameters).bind fun outcome =>
    triple_known fun here => ?_
  refine (complete_honest here).bind fun _ => (switchTo_honest none).bind fun _ => ?_
  exact triple_pure _ fun _ honest => honest

private theorem applyBatch_honest (owner : Option CallId) (opens : Bool) (parameters : Parameters)
    (progress : Progress) :
    KeepsHonest db (db.applyBatch owner opens view parameters progress) := by
  have ran : Triple db.AnyMove HonestCalls (db.runOn progress.stmt parameters).outcome
      (fun _ => HonestCalls) (fun _ => HonestCalls) := by
    cases progress.stmt with
    | none => exact triple_pure _ fun _ honest => honest
    | some sql => exact outcome_calls Calls.Honest (honest_stable db) (guarantees_any _)
  refine (switchTo_honest (some view)).bind fun _ => ran.bind fun result => ?_
  refine Triple.bind (triple_modify (honest_stable db) fun _ honest =>
    Calls.Honest.attempt honest owner opens result) fun _ => (switchTo_honest none).bind fun _ => ?_
  exact triple_pure _ fun _ honest => honest

private theorem prepareStmt_honest (sql : String) : KeepsHonest db (db.prepareStmt sql) := by
  have prepares : Triple db.AnyMove HonestCalls (onEngine (db.prepare sql)).outcome
      (fun _ => HonestCalls) (fun _ => HonestCalls) :=
    outcome_calls Calls.Honest (honest_stable db) (guarantees_any _)
  refine prepares.bind fun prepared => triple_atomic (honest_stable db) fun state honest => ?_
  cases prepared with
  | ok value => exact honest
  | error thrown => exact honest

private theorem applyNode_honest (native : db.sqlite.NativeErrors) (node : Node)
    (progress : Progress) :
    KeepsHonest db (db.applyNode view node progress) := by
  obtain ⟨owner, operation⟩ := node
  have writer (call : HostCall) : KeepsHonest db (db.applyWriter call) :=
    triple_applyWriter call (honest_stable db) (fun _ _ honest => honest) fun _ _ honest => honest
  have unchanged : KeepsHonest db (pure progress : InstanceTask κ Progress) :=
    triple_pure _ fun _ honest => honest
  cases operation with
  | writerAdd key => exact (writer (.addWriter key)).bind fun _ => unchanged
  | writerDel key => exact (writer (.removeWriter key)).bind fun _ => unchanged
  | exec sql => exact (applyExec_honest native owner sql).bind fun _ => unchanged
  | run sql parameters => exact applyRun_honest native owner sql parameters progress
  | stmt sql parameters =>
      exact (prepareStmt_honest sql).bind fun _ => applyBatch_honest owner true parameters _
  | batch parameters => exact applyBatch_honest owner false parameters progress
  | flush =>
      have counted : progress.flushed.Honest := trivial
      exact Triple.bind (triple_modify (honest_stable db) fun _ honest =>
        Calls.Honest.complete honest _ _ counted) fun _ => unchanged

private theorem apply_honest (native : db.sqlite.NativeErrors) (nodes : List Node) :
    KeepsHonest db (db.apply nodes view) := by
  unfold Database.apply
  generalize Progress.initial = progress
  induction nodes generalizing progress with
  | nil => exact triple_pure () fun _ honest => honest
  | cons node nodes ih =>
      exact (applyNode_honest native node progress).bind fun progress => ih progress

/-- In every history, with any calls in any interleaving, an `exec`, `run` or `flush` that was
appended, and a local call, is rejected with a `ParaQLError` that has a known code, with the
error of a `reset` of a finalized statement, or as an orphan. -/
theorem callers_see (db : Database κ) (native : db.sqlite.NativeErrors)
    (stores : StoreRef → Store) (clock : Nat → Int) (connection : κ)
    (applied : List (Applied κ)) (final : Instance κ)
    (run : db.Served db.AnyMove (.opened stores clock connection) applied final) :
    (∀ id thrown, final.calls.phase id = .settled (.rejected thrown) →
      Seen thrown ∨ thrown = orphaned) ∧
    ∀ call thrown after,
      RunUnder db.AnyMove (onEngine (db.localCall call)) final (.error thrown) after →
        Seen thrown := by
  have honest : HonestCalls final := by
    induction run with
    | start => exact Calls.honest_initial
    | move _ step ih => exact honest_stable db _ _ step ih
    | apply _ nodes view ran ih =>
        rename_i applied state final result _
        have ends := apply_honest native nodes state result final ih ran
        cases result with
        | ok value => exact ends
        | error thrown => exact ends
  refine ⟨honest.settled, fun call thrown after ran => ?_⟩
  exact (localCall_rejects native call).zoom.ends ran thrown rfl

def tablelessSqlite : Sqlite Unit :=
  { Sqlite.idle Unit with
    exec := fun _ connection => .done (.error (makeError 1 "no such table: t"), connection) }

private theorem tablelessSqlite_tasks : tablelessSqlite.CompletesTasks := by
  have succeeds {α : Type} {value : α} {errors : JsError → Prop} :
      (Request.calls value [] : Request Unit α).Fails errors :=
    fun connection => .done _ fun error impossible => by cases impossible
  refine ⟨fun sql connection => .done _ fun error same => ?_, fun _ => succeeds,
    fun _ _ => succeeds, fun _ _ => succeeds, fun _ _ => succeeds, fun _ => succeeds,
    fun _ => succeeds⟩
  cases same
  exact ⟨.initial, .exec [⟨1, false, 0⟩] "no such table: t", rfl, by decide, _,
    fun _ same => Option.some.inj same, rfl⟩

/-- An `exec` that fails on its own instance. -/
theorem callers_see_failedExec :
    let db : Database Unit := sample tablelessSqlite
    let failure : JsValue := .error (JsError.paraQL "no such table: t" "ERROR")
    ∃ applied final, db.Served db.AnyMove (.opened (fun _ _ => ∅) (fun _ => 0) ()) applied final ∧
      final.calls.phase 0 = .settled (.rejected failure) ∧
      (Seen failure ∨ failure = orphaned) := by
  intro db failure
  have started : db.Served db.AnyMove (.opened (fun _ _ => ∅) (fun _ => 0) ()) [] _ :=
    .move .start (.call _ _ (.start _ 0 rfl))
  have finished := (started.applyAlone [⟨some 0, .exec "DELETE FROM t"⟩] 0).move
    (.call _ _ (.finish _ 0 0 (.rejected failure) rfl rfl))
  have seen := callers_see db tablelessSqlite_tasks.nativeErrors _ _ () _ _ finished
  exact ⟨_, _, finished, rfl, seen.1 0 _ rfl⟩

end Database
end ParaQL
