/-
The options of the VFS are hidden from everything above it.

Requests come in at any time and go on in any order: `_apply` calls, calls on statements,
and between their steps the callers of `exec`, `run` and `flush`.  Whatever one database
answers, the other one can answer too, at the same requests and in the same order.
-/

import ParaQL.Oplog
import ParaQL.OptionTandem

namespace ParaQL

open Async Async.Task Bytes Relation

inductive Demand where
  | apply (nodes : List Node) (view : Nat)
  | prepare (sql : String)
  | get (sql : String) (parameters : Parameters)
  | iterate (sql : String) (parameters : Parameters) (limit : Nat)
  | finalize (sql : String)
  deriving DecidableEq, Repr

inductive Reply where
  | done
  | row (row : Option Row)
  | rows (rows : List Row)
  deriving DecidableEq, Repr

variable {κ α β : Type}

def Database.meet (db : Database κ) : Demand → InstanceTask κ Reply
  | .apply nodes view => do
      db.apply nodes view
      pure .done
  | .prepare sql => do
      onEngine (db.prepare sql)
      pure .done
  | .get sql parameters => do
      let row ← onEngine (db.get sql parameters)
      pure (.row row)
  | .iterate sql parameters limit => do
      let rows ← onEngine (db.iterate sql parameters limit)
      pure (.rows rows)
  | .finalize sql => do
      onEngine (db.finalize sql)
      pure .done

abbrev EventLoop (κ : Type) := Pool (Instance κ) JsValue Reply

def EventLoop.opened (stores : StoreRef → Store) (clock : Nat → Int) (connection : κ) :
    EventLoop κ :=
  { shared := .opened stores clock connection, inFlight := [] }

def CallersMove (calls : Calls → Calls → Prop) (state moved : Instance κ) : Prop :=
  ∃ next, calls state.calls next ∧ moved = { state with calls := next }

def Database.LoopMove (db : Database κ) (calls : Calls → Calls → Prop) :
    EventLoop κ → EventLoop κ → Prop :=
  Pool.Moves db.meet (CallersMove calls)

def Database.withVfs (db : Database κ) (vfs : ParaVFS) : Database κ := { db with vfs := vfs }

def SameAbove (first second : ParaVFS) (engine other : Engine κ) : Prop :=
  ∃ vfs, ParaVFS.Doubles first second engine.vfs vfs ∧ other = engine.setVfs vfs

abbrev EngineTandem (first second : ParaVFS) (task : EngineTask κ α) (other : EngineTask κ α) :
    Prop :=
  InTandem (SameAbove first second) Eq task other

variable {first second : ParaVFS}

private theorem tandem_native (hides : ParaVFS.HidesOptions first second) (call : VfsCall) :
    ParaVFS.VfsTandem first second Eq (first.native call) (second.native call) :=
  (ParaVFS.tandem_perform hides call).bind fun _ _ same => same ▸ inTandem_pure rfl

private theorem engineTandem_bind {task other : EngineTask κ α} {next follow : α → EngineTask κ β}
    (tandem : EngineTandem first second task other)
    (rest : ∀ value, EngineTandem first second (next value) (follow value)) :
    EngineTandem first second (task >>= next) (other >>= follow) :=
  InTandem.bind tandem fun value _ same => same ▸ rest value

/-- A step that neither reads nor changes the state of the VFS. -/
theorem engineTandem_atomic {action : Engine κ → Except JsValue α × Engine κ}
    (unseen : ∀ engine vfs, action (engine.setVfs vfs) =
      ((action engine).1, (action engine).2.setVfs vfs))
    (kept : ∀ engine, (action engine).2.vfs = engine.vfs) :
    EngineTandem first second (.atomic action) (.atomic action) := by
  refine tandem_atomic ?_
  rintro engine _ ⟨vfs, doubles, rfl⟩ _ _
  rw [unseen]
  refine ⟨⟨vfs, (kept engine).symm ▸ doubles, rfl⟩, ?_⟩
  cases (action engine).1 with
  | ok value => exact rfl
  | error thrown => exact ⟨rfl, trivial⟩

private theorem engineTandem_rethrown {task other : EngineTask κ α}
    (tandem : EngineTandem first second task other) :
    EngineTandem first second (rethrown task) (rethrown other) :=
  tandem.catch fun _ => inTandem_throw _

namespace Database

variable {db : Database κ} {vfs : ParaVFS} (hides : ParaVFS.HidesOptions db.vfs vfs)

section Engine

include hides

private theorem answer_tandem (call : SqliteCall) :
    EngineTandem db.vfs vfs (db.answer call) ((db.withVfs vfs).answer call) := by
  cases call with
  | file call =>
      refine InTandem.zoom (tandem_native hides call) Engine.lawful_vfs Engine.lawful_vfs ?_ ?_
      · rintro engine _ ⟨state, doubles, rfl⟩
        exact doubles
      · rintro engine _ after afterOther ⟨state, _, rfl⟩ doubles
        exact ⟨afterOther, doubles, rfl⟩
  | randomness bytes => exact inTandem_pure rfl
  | currentTime => exact engineTandem_atomic (fun _ _ => rfl) fun _ => rfl

private theorem serve_tandem (program : Program α) :
    EngineTandem db.vfs vfs (db.serve program) ((db.withVfs vfs).serve program) := by
  induction program with
  | done value => exact inTandem_pure rfl
  | ask call next ih => exact engineTandem_bind (answer_tandem hides call) ih

private theorem request_tandem (program : Request κ α) :
    EngineTandem db.vfs vfs (db.request program) ((db.withVfs vfs).request program) := by
  refine engineTandem_bind (engineTandem_atomic (fun _ _ => rfl) fun _ => rfl) fun connection => ?_
  refine engineTandem_bind (serve_tandem hides _) fun ended => ?_
  exact engineTandem_atomic (fun _ _ => rfl) fun _ => rfl

private theorem onHandle_tandem (sql : String) (program : Request κ α) :
    EngineTandem db.vfs vfs (db.onHandle sql program) ((db.withVfs vfs).onHandle sql program) :=
  engineTandem_bind (engineTandem_atomic (fun _ _ => rfl) fun _ => rfl) fun _ =>
    request_tandem hides program

private theorem bind_tandem (sql : String) (parameters : Parameters) :
    EngineTandem db.vfs vfs (db.bind sql parameters) ((db.withVfs vfs).bind sql parameters) := by
  unfold bind
  split
  · exact inTandem_throw _
  · refine engineTandem_bind (engineTandem_atomic (fun _ _ => rfl) fun _ => rfl) fun _ => ?_
    exact engineTandem_bind (onHandle_tandem hides sql _) fun _ =>
      engineTandem_atomic (fun _ _ => rfl) fun _ => rfl

private theorem step_tandem (sql : String) :
    EngineTandem db.vfs vfs (db.step sql) ((db.withVfs vfs).step sql) :=
  engineTandem_bind (engineTandem_atomic (fun _ _ => rfl) fun _ => rfl) fun parameters =>
    onHandle_tandem hides sql (db.sqlite.step sql parameters)

private theorem rows_tandem (sql : String) (limit : Nat) :
    EngineTandem db.vfs vfs (db.rows sql limit) ((db.withVfs vfs).rows sql limit) := by
  induction limit with
  | zero => exact inTandem_pure rfl
  | succ limit ih =>
      refine engineTandem_bind (step_tandem hides sql) fun row => ?_
      cases row with
      | none => exact inTandem_pure rfl
      | some row => exact engineTandem_bind ih fun _ => inTandem_pure rfl

private theorem ensureReset_tandem (sql : String) {body other : EngineTask κ α}
    (tandem : EngineTandem db.vfs vfs body other) :
    EngineTandem db.vfs vfs (Task.ensure (rethrown body) (db.onHandle sql (db.sqlite.reset sql)))
      (Task.ensure (rethrown other)
        ((db.withVfs vfs).onHandle sql (db.sqlite.reset sql))) :=
  InTandem.ensure (engineTandem_rethrown tandem) (onHandle_tandem hides sql _)

private theorem runStatement_tandem (sql : String) (parameters : Parameters) :
    EngineTandem db.vfs vfs (db.runStatement sql parameters)
      ((db.withVfs vfs).runStatement sql parameters) := by
  refine ensureReset_tandem hides sql ?_
  refine engineTandem_bind (bind_tandem hides sql parameters) fun _ => ?_
  exact engineTandem_bind (engineTandem_atomic (fun _ _ => rfl) fun _ => rfl) fun bound =>
    onHandle_tandem hides sql (db.sqlite.run sql bound)

omit hides in
private theorem checkOpen_tandem (sql : String) :
    EngineTandem db.vfs vfs (checkOpen (κ := κ) sql) (checkOpen sql) :=
  engineTandem_atomic (fun _ _ => rfl) fun _ => rfl

private theorem get_tandem (sql : String) (parameters : Parameters) :
    EngineTandem db.vfs vfs (db.get sql parameters) ((db.withVfs vfs).get sql parameters) := by
  refine engineTandem_bind (checkOpen_tandem sql) fun _ => ensureReset_tandem hides sql ?_
  exact engineTandem_bind (bind_tandem hides sql parameters) fun _ => step_tandem hides sql

private theorem iterate_tandem (sql : String) (parameters : Parameters) (limit : Nat) :
    EngineTandem db.vfs vfs (db.iterate sql parameters limit)
      ((db.withVfs vfs).iterate sql parameters limit) := by
  refine engineTandem_bind (checkOpen_tandem sql) fun _ => ensureReset_tandem hides sql ?_
  exact engineTandem_bind (bind_tandem hides sql parameters) fun _ => rows_tandem hides sql limit

private theorem close_tandem (sql : String) :
    EngineTandem db.vfs vfs (db.close sql) ((db.withVfs vfs).close sql) :=
  engineTandem_rethrown (engineTandem_bind (request_tandem hides _) fun _ =>
    engineTandem_atomic (fun _ _ => rfl) fun _ => rfl)

private theorem finalize_tandem (sql : String) :
    EngineTandem db.vfs vfs (db.finalize sql) ((db.withVfs vfs).finalize sql) := by
  refine engineTandem_bind (engineTandem_atomic (fun _ _ => rfl) fun _ => rfl) fun opened => ?_
  cases opened with
  | true => exact close_tandem hides sql
  | false => exact inTandem_pure rfl

private theorem exec_tandem (sql : String) :
    EngineTandem db.vfs vfs (db.exec sql) ((db.withVfs vfs).exec sql) :=
  engineTandem_rethrown (request_tandem hides _)

private theorem prepareNew_tandem (sql : String) :
    EngineTandem db.vfs vfs (db.prepareNew sql) ((db.withVfs vfs).prepareNew sql) := by
  refine engineTandem_bind (engineTandem_rethrown (request_tandem hides _)) fun _ => ?_
  refine engineTandem_bind (engineTandem_atomic (fun _ _ => rfl) fun _ => rfl) fun oldest => ?_
  cases oldest with
  | none => exact inTandem_pure rfl
  | some other => exact finalize_tandem hides other

omit hides in
private theorem lookupCached_tandem (sql : String) :
    EngineTandem db.vfs vfs (lookupCached (κ := κ) sql) (lookupCached sql) := by
  refine engineTandem_atomic (fun engine state => ?_) fun engine => ?_
  · by_cases shut : engine.closed = true
    · have shutThere : (engine.setVfs state).closed = true := shut
      simp only [if_pos shut, if_pos shutThere]
    · have shutThere : ¬(engine.setVfs state).closed = true := shut
      simp only [if_neg shut, if_neg shutThere]
      by_cases present : sql ∈ engine.cache
      · have presentThere : sql ∈ (engine.setVfs state).cache := present
        simp only [if_pos present, if_pos presentThere]
        rfl
      · have presentThere : sql ∉ (engine.setVfs state).cache := present
        simp only [if_neg present, if_neg presentThere]
  · split
    · rfl
    · split <;> rfl

private theorem prepare_tandem (sql : String) :
    EngineTandem db.vfs vfs (db.prepare sql) ((db.withVfs vfs).prepare sql) := by
  refine engineTandem_bind (lookupCached_tandem sql) fun cached => ?_
  cases cached with
  | true => exact inTandem_pure rfl
  | false => exact prepareNew_tandem hides sql

end Engine

/-! ### Instances -/

abbrev InstanceTandem (first second : ParaVFS) (task : InstanceTask κ α)
    (other : InstanceTask κ α) : Prop :=
  InTandem (fun state other : Instance κ => ∃ vfs,
    ParaVFS.Doubles first second state.engine.vfs vfs ∧ other = state.setVfs vfs) Eq task other

private theorem instanceTandem_bind {task other : InstanceTask κ α}
    {next follow : α → InstanceTask κ β}
    (tandem : InstanceTandem first second task other)
    (rest : ∀ value, InstanceTandem first second (next value) (follow value)) :
    InstanceTandem first second (task >>= next) (other >>= follow) :=
  InTandem.bind tandem fun value _ same => same ▸ rest value

private theorem instanceTandem_outcome {task other : InstanceTask κ α}
    (tandem : InstanceTandem first second task other) :
    InstanceTandem first second task.outcome other.outcome :=
  tandem.outcome.mono (fun _ _ holds => holds) fun _ _ _ _ ends => endsLike_eq.1 ends

private theorem onEngine_tandem {task other : EngineTask κ α}
    (tandem : EngineTandem first second task other) :
    InstanceTandem first second (onEngine task) (onEngine other) := by
  refine InTandem.zoom tandem Instance.lawful_engine Instance.lawful_engine ?_ ?_
  · rintro state _ ⟨vfs, doubles, rfl⟩
    exact ⟨vfs, doubles, rfl⟩
  · rintro state _ engine _ ⟨vfs, _, rfl⟩ ⟨after, doubles, rfl⟩
    exact ⟨after, doubles, rfl⟩

/-- A change of what lies beside the engine. -/
theorem instanceTandem_modify {update : Instance κ → Instance κ}
    (unseen : ∀ state vfs, update (state.setVfs vfs) = (update state).setVfs vfs)
    (kept : ∀ state, (update state).engine = state.engine) :
    InstanceTandem first second (Task.modify update) (Task.modify update) := by
  refine Matches.inTandem (matches_modify ?_)
  rintro state _ ⟨vfs, doubles, rfl⟩
  exact ⟨vfs, (kept state).symm ▸ doubles, unseen state vfs⟩

private theorem complete_tandem (owner : Option CallId) (own given : Settlement) :
    InstanceTandem first second (complete (κ := κ) owner own given) (complete owner own given) :=
  instanceTandem_modify (fun _ _ => rfl) fun _ => rfl

private theorem switchTo_tandem (target : Option Nat) :
    InstanceTandem first second (switchTo (κ := κ) target) (switchTo target) := by
  have writes : ParaVFS.VfsTandem first second Eq (ParaVFS.write target)
      (ParaVFS.write target) := by
    refine tandem_atomic fun state other doubles _ _ => ?_
    have recorded := doubles.record (.switch target) (.switch target) rfl
    simp only [← doubles.sameCard]
    by_cases pending : state.files.keys.card ≠ 0
    · simp only [if_pos pending]
      exact ⟨recorded, rfl, trivial⟩
    · simp only [if_neg pending]
      exact ⟨recorded.switch target, trivial⟩
  refine onEngine_tandem (InTandem.zoom writes Engine.lawful_vfs Engine.lawful_vfs ?_ ?_)
  · rintro engine _ ⟨state, doubles, rfl⟩
    exact doubles
  · rintro engine _ after afterOther ⟨state, _, rfl⟩ doubles
    exact ⟨afterOther, doubles, rfl⟩

section Instance

include hides

private theorem applyExec_tandem (owner : Option CallId) (view : Nat) (sql : String) :
    InstanceTandem db.vfs vfs (db.applyExec owner view sql)
      ((db.withVfs vfs).applyExec owner view sql) :=
  instanceTandem_bind (switchTo_tandem _) fun _ =>
    instanceTandem_bind (instanceTandem_outcome (onEngine_tandem (exec_tandem hides sql))) fun _ =>
      instanceTandem_bind (complete_tandem owner _ _) fun _ => switchTo_tandem _

private theorem prepareAndRun_tandem (sql : String) (parameters : Parameters) :
    InstanceTandem db.vfs vfs (db.prepareAndRun sql parameters)
      ((db.withVfs vfs).prepareAndRun sql parameters) := by
  refine instanceTandem_bind (instanceTandem_outcome (onEngine_tandem
    (prepare_tandem hides sql))) fun prepared => ?_
  cases prepared with
  | ok value =>
      exact instanceTandem_bind (instanceTandem_outcome (onEngine_tandem
        (runStatement_tandem hides sql parameters))) fun _ => inTandem_pure rfl
  | error thrown => exact inTandem_pure rfl

private theorem applyRun_tandem (owner : Option CallId) (view : Nat) (sql : String)
    (parameters : Parameters) (progress : Progress) :
    InstanceTandem db.vfs vfs (db.applyRun owner view sql parameters progress)
      ((db.withVfs vfs).applyRun owner view sql parameters progress) :=
  instanceTandem_bind (switchTo_tandem _) fun _ =>
    instanceTandem_bind (prepareAndRun_tandem hides sql parameters) fun _ =>
      instanceTandem_bind (complete_tandem owner _ _) fun _ =>
        instanceTandem_bind (switchTo_tandem _) fun _ => inTandem_pure rfl

private theorem runOn_tandem (stmt : Option String) (parameters : Parameters) :
    InstanceTandem db.vfs vfs (db.runOn stmt parameters)
      ((db.withVfs vfs).runOn stmt parameters) := by
  cases stmt with
  | none => exact inTandem_throw _
  | some sql => exact onEngine_tandem (runStatement_tandem hides sql parameters)

private theorem applyBatch_tandem (owner : Option CallId) (opens : Bool) (view : Nat)
    (parameters : Parameters) (progress : Progress) :
    InstanceTandem db.vfs vfs (db.applyBatch owner opens view parameters progress)
      ((db.withVfs vfs).applyBatch owner opens view parameters progress) :=
  instanceTandem_bind (switchTo_tandem _) fun _ =>
    instanceTandem_bind (instanceTandem_outcome (runOn_tandem hides progress.stmt parameters))
      fun _ => instanceTandem_bind (instanceTandem_modify (fun _ _ => rfl) fun _ => rfl) fun _ =>
        instanceTandem_bind (switchTo_tandem _) fun _ => inTandem_pure rfl

private theorem prepareStmt_tandem (sql : String) :
    InstanceTandem db.vfs vfs (db.prepareStmt sql) ((db.withVfs vfs).prepareStmt sql) := by
  refine instanceTandem_bind (instanceTandem_outcome (onEngine_tandem
    (prepare_tandem hides sql))) fun prepared => ?_
  refine tandem_atomic ?_
  rintro state _ ⟨other, doubles, rfl⟩ _ _
  refine ⟨⟨_, doubles.record (.prepare sql _) (.prepare sql _) rfl, rfl⟩, ?_⟩
  cases prepared with
  | ok value => exact rfl
  | error thrown => exact ⟨rfl, trivial⟩

omit hides in
private theorem callHost_tandem (call : HostCall) :
    InstanceTandem db.vfs vfs (db.callHost call) ((db.withVfs vfs).callHost call) := by
  refine tandem_atomic ?_
  rintro state _ ⟨other, doubles, rfl⟩ _ _
  refine ⟨⟨other, doubles, rfl⟩, ?_⟩
  have sameFault : (db.withVfs vfs).hostFault (state.setVfs other).host.length =
      db.hostFault state.host.length := rfl
  simp only [sameFault]
  cases db.hostFault state.host.length with
  | some thrown => exact ⟨rfl, trivial⟩
  | none => exact trivial

omit hides in
private theorem applyWriter_tandem (call : HostCall) :
    InstanceTandem db.vfs vfs (db.applyWriter call) ((db.withVfs vfs).applyWriter call) :=
  instanceTandem_bind (callHost_tandem .write) fun _ =>
    instanceTandem_bind (callHost_tandem call) fun _ => callHost_tandem .flush

private theorem applyNode_tandem (view : Nat) (node : Node) (progress : Progress) :
    InstanceTandem db.vfs vfs (db.applyNode view node progress)
      ((db.withVfs vfs).applyNode view node progress) := by
  unfold applyNode
  cases node.operation with
  | writerAdd key =>
      exact instanceTandem_bind (applyWriter_tandem (.addWriter key)) fun _ => inTandem_pure rfl
  | writerDel key =>
      exact instanceTandem_bind (applyWriter_tandem (.removeWriter key)) fun _ =>
        inTandem_pure rfl
  | exec sql =>
      exact instanceTandem_bind (applyExec_tandem hides _ view sql) fun _ => inTandem_pure rfl
  | run sql parameters => exact applyRun_tandem hides _ view sql parameters progress
  | stmt sql parameters =>
      exact instanceTandem_bind (prepareStmt_tandem hides sql) fun _ =>
        applyBatch_tandem hides _ true view parameters _
  | batch parameters => exact applyBatch_tandem hides _ false view parameters progress
  | flush =>
      exact instanceTandem_bind (instanceTandem_modify (fun _ _ => rfl) fun _ => rfl) fun _ =>
        inTandem_pure rfl

private theorem apply_tandem (nodes : List Node) (view : Nat) :
    InstanceTandem db.vfs vfs (db.apply nodes view) ((db.withVfs vfs).apply nodes view) := by
  have fromProgress (progress : Progress) : InstanceTandem db.vfs vfs
      (db.applyFrom view nodes progress) ((db.withVfs vfs).applyFrom view nodes progress) := by
    induction nodes generalizing progress with
    | nil => exact inTandem_pure rfl
    | cons node nodes ih => exact instanceTandem_bind (applyNode_tandem hides view node progress) ih
  exact fromProgress .initial

private theorem meet_tandem (demand : Demand) :
    InstanceTandem db.vfs vfs (db.meet demand) ((db.withVfs vfs).meet demand) := by
  cases demand with
  | apply nodes view =>
      exact instanceTandem_bind (apply_tandem hides nodes view) fun _ => inTandem_pure rfl
  | prepare sql =>
      exact instanceTandem_bind (onEngine_tandem (prepare_tandem hides sql)) fun _ =>
        inTandem_pure rfl
  | get sql parameters =>
      exact instanceTandem_bind (onEngine_tandem (get_tandem hides sql parameters)) fun _ =>
        inTandem_pure rfl
  | iterate sql parameters limit =>
      exact instanceTandem_bind (onEngine_tandem (iterate_tandem hides sql parameters limit))
        fun _ => inTandem_pure rfl
  | finalize sql =>
      exact instanceTandem_bind (onEngine_tandem (finalize_tandem hides sql)) fun _ =>
        inTandem_pure rfl

end Instance

/-- What a request was answered, and everything that is not the state of the VFS, is the
same on both sides. -/
structure SameToCallers (first second : ParaVFS) (loop counterpart : EventLoop κ) : Prop where
  answers : ∀ (request : Nat) (answer : Except JsValue Reply),
    loop.inFlight[request]? = some (.done answer) →
    counterpart.inFlight[request]? = some (.done answer)
  requests : loop.inFlight.length = counterpart.inFlight.length
  shared : ∃ vfs, ParaVFS.Doubles first second loop.shared.engine.vfs vfs ∧
    counterpart.shared = loop.shared.setVfs vfs

/-- Compression is hidden, and encryption of compressed pages: whatever a database does in
some interleaving, one with other options over the same pages can do as well. -/
theorem options_are_hidden (db : Database κ) (vfs : ParaVFS)
    (hides : ParaVFS.HidesOptions db.vfs vfs) (calls : Calls → Calls → Prop)
    (stores storesOther : StoreRef → Store)
    (samePages : ∀ ref name, ∃ pages, db.vfs.encodePages name (stores ref name) pages ∧
      vfs.encodePages name (storesOther ref name) pages)
    (clock : Nat → Int) (connection : κ) (loop : EventLoop κ)
    (ran : ReflTransGen (db.LoopMove calls) (.opened stores clock connection) loop) :
    ∃ counterpart, ReflTransGen ((db.withVfs vfs).LoopMove calls)
        (.opened storesOther clock connection) counterpart ∧
      SameToCallers db.vfs vfs loop counterpart := by
  have tandem : PoolTandem (fun state other : Instance κ =>
      ∃ vfsState, ParaVFS.Doubles db.vfs vfs state.engine.vfs vfsState ∧
        other = state.setVfs vfsState) Eq (EventLoop.opened stores clock connection)
      (EventLoop.opened storesOther clock connection) := by
    refine ⟨⟨.initial storesOther, ⟨rfl, rfl, rfl, fun _ => .none, samePages⟩, rfl⟩, rfl, ?_⟩
    intro index task other present
    cases present
  have callersFollow : Simulates (fun state other : Instance κ =>
      ∃ vfsState, ParaVFS.Doubles db.vfs vfs state.engine.vfs vfsState ∧
        other = state.setVfs vfsState) (CallersMove calls) (CallersMove calls) := by
    rintro state _ _ ⟨vfsState, doubles, rfl⟩ ⟨next, move, rfl⟩
    exact ⟨_, ⟨next, move, rfl⟩, vfsState, doubles, rfl⟩
  obtain ⟨middle, moved, reached⟩ := tandem.followAll (meet_tandem hides) callersFollow ran
  obtain ⟨counterpart, moves, kept, ended⟩ :=
    reached.drive (db.withVfs vfs).meet (CallersMove calls)
  refine ⟨counterpart, moved.trans moves, ?_, kept.sameLength, kept.shared⟩
  intro request answer isDone
  obtain ⟨ending, isEnding, ends⟩ := ended request answer isDone
  rw [isEnding, endsLike_eq.1 ends]

def blobSqlite : Sqlite Unit :=
  { journalingSqlite with
    run := fun _ parameters =>
      match parameters.positional with
      | .list [.blob bytes] =>
          .calls { changes := 1, lastInsertRowid := 1 } [.xWrite "paraql.db-journal" [1] 0,
            .xSync "paraql.db-journal", .xWrite openPath bytes 0, .xSync openPath,
            .xDelete "paraql.db-journal"]
      | _ => .calls { changes := 0, lastInsertRowid := 0 } []
    step := fun _ _ connection =>
      .ask (.file (.xRead openPath (Buffer.alloc 1) 0)) fun reply =>
        .done (.ok (some [("x", .blob reply.buffer)]), connection) }

/-- Calls one after the other, each with nothing else going on. -/
private theorem answered_inTurn (db : Database κ) (calls : Calls → Calls → Prop)
    (earlier : List Demand) (last : Demand) (loop : EventLoop κ) :
    ∃ final : EventLoop κ, ReflTransGen (db.LoopMove calls) loop final ∧
      final.inFlight[loop.inFlight.length + earlier.length]? =
        some (.done ((db.meet last).run
          (earlier.foldl (fun state demand => ((db.meet demand).run state).2) loop.shared)).1) := by
  induction earlier generalizing loop with
  | nil =>
      refine ⟨_, Pool.moves_serve loop last, ?_⟩
      rw [List.length_nil, Nat.add_zero, List.getElem?_concat_length]
      rfl
  | cons demand earlier ih =>
      obtain ⟨final, moves, answer⟩ := ih _
      refine ⟨final, (Pool.moves_serve loop demand).trans moves, ?_⟩
      rw [List.length_append, List.length_singleton, Nat.add_assoc, Nat.add_comm 1] at answer
      exact answer

def plainBlobs : Database Unit :=
  { sample blobSqlite with vfs := { ParaVFS.sample with runtime := .flipping } }

def sealing : ParaVFS :=
  { ParaVFS.sample with
    runtime := .flipping
    encryption := some ⟨Buffer.alloc 32, Buffer.alloc 32⟩
    compressed := true }

def storesOf (page : Buffer) (ref : StoreRef) (name : FileName) : Pages :=
  if ref = .view .bee ∧ name = "paraql.db" then Finmap.singleton 0 page else ∅

def blobDemands : List Demand :=
  [.apply [⟨none, .exec "CREATE TABLE t (x)"⟩,
      ⟨none, .run "INSERT INTO t VALUES (?)" ⟨.null, .list [.blob [7]]⟩⟩] 0,
    .prepare "SELECT x FROM t"]

def blobsOpened : EventLoop Unit := .opened (storesOf [9]) (fun _ => 0) ()

private theorem blob_read :
    ((plainBlobs.meet (.get "SELECT x FROM t" ⟨.null, .list []⟩)).run
      (blobDemands.foldl (fun state demand => ((plainBlobs.meet demand).run state).2)
        blobsOpened.shared)).1 =
      .ok (.row (some [("x", .blob [9])])) := by
  decide +kernel

private theorem storesOf_samePages (ref : StoreRef) (name : FileName) :
    ∃ pages, plainBlobs.vfs.encodePages name (storesOf [9] ref name) pages ∧
      sealing.encodePages name (storesOf [120, 9] ref name) pages := by
  unfold storesOf
  by_cases main : ref = .view .bee ∧ name = "paraql.db"
  · obtain ⟨rfl, rfl⟩ := main
    refine ⟨Finmap.singleton 0 [9], fun index => ?_, fun index => ?_⟩
    · rw [if_pos ⟨rfl, rfl⟩]
      by_cases first : index = 0
      · subst first
        rfl
      · rw [Finmap.lookup_eq_none.2 (by simpa using first)]
        rfl
    · rw [if_pos ⟨rfl, rfl⟩]
      by_cases first : index = 0
      · subst first
        rfl
      · rw [Finmap.lookup_eq_none.2 (by simpa using first),
          Finmap.lookup_eq_none.2 (by simpa using first)]
        rfl
  · rw [if_neg main, if_neg main]
    exact ⟨∅, fun _ => rfl, fun _ => rfl⟩

/-- A page of the view is read back, after a RUN, when pages and the journal are deflated
and the journal is enciphered. -/
theorem options_are_hidden_blob :
    ∃ counterpart : EventLoop Unit,
      ReflTransGen ((plainBlobs.withVfs sealing).LoopMove (CallMove false))
        (.opened (storesOf [120, 9]) (fun _ => 0) ()) counterpart ∧
      counterpart.inFlight[2]? = some (.done (.ok (.row (some [("x", .blob [9])])))) := by
  have hides : ParaVFS.HidesOptions plainBlobs.vfs sealing :=
    { runtime := rfl, name := rfl, codecs := Runtime.flipping_lawful.toLawfulCodecs
      keeps := .inl rfl, keepsOther := .inr rfl }
  obtain ⟨loop, moves, answer⟩ := answered_inTurn plainBlobs (CallMove false) blobDemands
    (.get "SELECT x FROM t" ⟨.null, .list []⟩) blobsOpened
  rw [blob_read] at answer
  obtain ⟨counterpart, follows, same⟩ := options_are_hidden plainBlobs sealing hides
    (CallMove false) (storesOf [9]) (storesOf [120, 9]) storesOf_samePages (fun _ => 0) ()
    loop moves
  exact ⟨counterpart, follows, same.answers 2 _ answer⟩

end Database
end ParaQL
