/-
What a log means: a program over the pages of the database file.

SQLite runs the operations on files of pages, from the pages that the log has come to and
with no other file.  A log has a meaning where the clock is not asked, where nothing but pages
of the database file is left, and where it does not matter that a statement is cached.
`_apply` gives every log its meaning, on every peer.
-/

import ParaQL.Grouping
import ParaQL.LentBytes
import ParaQL.NodeReading
import ParaQL.OptionTandem
import ParaQL.Preparation
import ParaQL.WriteLog

namespace ParaQL

open Async Async.Task Bytes

variable {α : Type}

def PageFiles.reply (files : PageFiles) (call : VfsCall) : NativeReply :=
  nativeReply call
    { args := (files.perform call).1.args
      buffer :=
        match call with
        | .xWrite _ data _ => data
        | _ => (files.perform call).1.bytes }

inductive Program.Leads : Program α → PageFiles → α → PageFiles → Prop where
  | done (value : α) (files : PageFiles) : Leads (.done value) files value files
  | file {call : VfsCall} {next : NativeReply → Program α} {files after : PageFiles} {value : α}
      (rest : Leads (next (files.reply call)) (files.perform call).2 value after) :
      Leads (.ask (.file call) next) files value after
  | randomness {bytes : Nat} {next : Buffer → Program α} {files after : PageFiles} {value : α}
      (rest : Leads (next (Buffer.alloc bytes)) files value after) :
      Leads (.ask (.randomness bytes) next) files value after

def Request.Leads (request : Request Unit α) (files : PageFiles) (result : Except JsError α)
    (after : PageFiles) : Prop :=
  (request ()).Leads files (result, ()) after

def PageFiles.only (main : FileName) (pages : Pages) : PageFiles :=
  Function.update (fun _ => { committed := ∅, pending := none }) main
    { committed := pages, pending := none }

namespace Sqlite

variable (sqlite : Sqlite Unit) (main : FileName)

/-- `_run` on files of pages. -/
inductive Runs (sql : String) (parameters : Parameters) (files after : PageFiles) : Prop where
  | unbound {reset : Except JsError Unit} (absent : parameters.positional = .null)
      (resets : (sqlite.reset sql).Leads files reset after)
  | refused {values : List SqlValue} {error : JsError} {bound : PageFiles}
      {reset : Except JsError Unit} (present : parameters.positional = .list values)
      (binds : (sqlite.bind sql parameters.stringified).Leads files (.error error) bound)
      (resets : (sqlite.reset sql).Leads bound reset after)
  | ran {values : List SqlValue} {bound ran : PageFiles} {result : Except JsError RunResult}
      {reset : Except JsError Unit} (present : parameters.positional = .list values)
      (binds : (sqlite.bind sql parameters.stringified).Leads files (.ok ()) bound)
      (runs : (sqlite.run sql parameters.stringified).Leads bound result ran)
      (resets : (sqlite.reset sql).Leads ran reset after)

inductive RunsEach (sql : String) : List Parameters → Pages → Pages → Prop where
  | nil (pages : Pages) : RunsEach sql [] pages pages
  | cons {parameters : Parameters} {operations : List Parameters} {pages middle after : Pages}
      (first : sqlite.Runs sql parameters (.only main pages) (.only main middle))
      (rest : RunsEach sql operations middle after) :
      RunsEach sql (parameters :: operations) pages after

/-- What an entry of the log does to the pages. -/
inductive Means : OplogAppend → Pages → Pages → Prop where
  | addWriter (key : Buffer) (pages : Pages) : Means (.addWriter key) pages pages
  | removeWriter (key : Buffer) (pages : Pages) : Means (.removeWriter key) pages pages
  | exec {id : CallId} {sql : String} {pages after : Pages} {result : Except JsError Unit}
      (leads : (sqlite.exec sql).Leads (.only main pages) result (.only main after)) :
      Means (.call id (.exec sql)) pages after
  | run {id : CallId} {sql : String} {parameters : Parameters} {pages after : Pages}
      {looked : PageFiles}
      (prepares : (sqlite.prepare sql).Leads (.only main pages) (.ok ()) looked)
      (runs : sqlite.Runs sql parameters (.only main pages) (.only main after)) :
      Means (.call id (.run sql parameters)) pages after
  -- A peer that has the statement in its cache runs it all the same, in vain.
  | unprepared {id : CallId} {sql : String} {parameters : Parameters} {pages : Pages}
      {error : JsError} {looked : PageFiles}
      (fails : (sqlite.prepare sql).Leads (.only main pages) (.error error) looked)
      (vain : sqlite.Runs sql parameters (.only main pages) (.only main pages)) :
      Means (.call id (.run sql parameters)) pages pages
  -- The STMT makes an attempt of its own, without parameters.
  | flush {id : CallId} {sql : String} {operations : List Parameters} {pages after : Pages}
      (runs : sqlite.RunsEach main sql (.absent :: operations) pages after) :
      Means (.call id (.flush sql operations)) pages after

/-- What a log does to the pages. -/
inductive Replays : List OplogAppend → Pages → Pages → Prop where
  | nil (pages : Pages) : Replays [] pages pages
  | cons {append : OplogAppend} {log : List OplogAppend} {pages middle after : Pages}
      (first : sqlite.Means main append pages middle) (rest : Replays log middle after) :
      Replays (append :: log) pages after

end Sqlite

/-- No call on a store, on zlib or on the host fails, the buffers that SQLite lends are kept,
SQLite prepares and finalizes statements without changing files, and a statement that was just
prepared is not closed at once. -/
structure Database.Dependable (db : Database Unit) : Prop where
  lawful : db.vfs.runtime.Lawful
  hosts : ∀ call, db.hostFault call = none
  keepsLent : db.vfs.KeepsLent
  caching : 0 < db.cacheSize
  prepares : db.sqlite.LooksToPrepare

theorem Database.Dependable.reliable {db : Database Unit} (dependable : db.Dependable) :
    db.vfs.runtime.Reliable :=
  ⟨dependable.lawful.noFault, dependable.lawful.noZlibFault⟩

namespace ParaVFS

variable {vfs : ParaVFS} {state : VfsState} {files : PageFiles}

theorem KeepsLent.unciphered (keeps : vfs.KeepsLent) (name : FileName) :
    vfs.compressed = true ∨ vfs.pageEncryption name = none := by
  rcases keeps with plain | packed
  · right
    unfold pageEncryption
    rw [plain]
    split <;> rfl
  · exact .inl packed

private theorem buffer_withBuffer {task : CallTask CallbackArgs} {buffer : Buffer}
    {reply : VfsReply}
    {after : VfsState} (ran : (withBuffer task buffer).run state = (.ok reply, after)) :
    reply.buffer = (task.run (state, buffer)).2.2 := by
  rw [withBuffer, run_bind, run_withLocal] at ran
  cases ended : (task.run (state, buffer)).1 with
  | ok args =>
      rw [ended] at ran
      cases ran
      rfl
  | error thrown =>
      rw [ended] at ran
      cases ran

private theorem buffer_withoutBuffer {task : VfsTask CallbackArgs} {reply : VfsReply}
    {after : VfsState}
    (ran : (withoutBuffer task).run state = (.ok reply, after)) : reply.buffer = [] := by
  rw [withoutBuffer, run_bind] at ran
  generalize task.run state = outcome at ran
  obtain ⟨result, middle⟩ := outcome
  cases result with
  | ok args =>
      cases ran
      rfl
  | error thrown => cases ran

private theorem callback_keeps {data : Buffer} {body : CallTask (List JsValue)}
    (keeps : Triple alone (fun state => state.2 = data) body (fun _ state => state.2 = data)
      (fun _ state => state.2 = data)) :
    Triple alone (fun state => state.2 = data) (callback body) (fun _ state => state.2 = data)
      (fun _ state => state.2 = data) :=
  (keeps.bind fun _ => triple_pure _ fun _ same => same).catch fun _ =>
    triple_pure _ fun _ same => same

private theorem xWrite_keeps (keeps : vfs.KeepsLent) (name : FileName) (data : Buffer)
    (offset : Nat) :
    Triple alone (fun state => state.2 = data) (vfs.xWrite name offset)
      (fun _ state => state.2 = data) (fun _ state => state.2 = data) := by
  have spared (length index : Nat) : vfs.compressed = true ∨ vfs.pageEncryption name = none ∨
      ¬CoversPage offset length index := or_assoc.1 (.inl (keeps.unciphered name))
  exact callback_keeps ((read_keeps _ _ _).bind fun length => Triple.bind
    (triple_forEach fun index _ => writePage_keeps length offset index data (spared length index))
    fun _ => triple_pure _ fun _ same => same)

private theorem xTruncate_keeps (keeps : vfs.KeepsLent) (name : FileName) (data : Buffer)
    (size : Nat) :
    Triple alone (fun state => state.2 = data) (vfs.xTruncate name size)
      (fun _ state => state.2 = data) (fun _ state => state.2 = data) := by
  refine callback_keeps ((onShared_keeps _ _).bind fun index => Triple.bind
    (?_ : Triple _ _ _ (fun _ state => state.2 = data) _) fun _ =>
      triple_pure _ fun _ same => same)
  refine triple_ite (fun _ => triple_forEach fun page _ => tryPut_keeps page _ data ?_)
    fun _ => triple_ite (fun _ => ?_) fun _ => ?_
  · exact (keeps.unciphered name).imp_right Or.inl
  · exact triple_throw _ fun _ same => same
  · exact triple_pure _ fun _ same => same

/-- A call on the files that a state encodes. -/
theorem run_native (lawful : vfs.runtime.Lawful) (keeps : vfs.KeepsLent) (call : VfsCall)
    (encodes : vfs.Encodes state files) :
    ∃ after, (vfs.native call).run state = (.ok (files.reply call), after) ∧
      vfs.Encodes after (files.perform call).2 := by
  obtain ⟨reply, after, ran, outcome, kept⟩ := perform_refines lawful call encodes
  refine ⟨after, ?_, kept⟩
  have returned : nativeReply call reply = files.reply call := by
    unfold PageFiles.reply
    rw [← outcome]
    congr 1
    obtain ⟨args, buffer⟩ := reply
    cases call with
    | xRead name bytes offset => rfl
    | xWrite name data offset =>
        have same := buffer_withBuffer ran
        rw [(xWrite_keeps keeps name data offset).run_always rfl] at same
        exact congrArg (VfsReply.mk args) same
    | xTruncate name size =>
        have same := buffer_withBuffer ran
        rw [(xTruncate_keeps keeps name [] size).run_always rfl] at same
        exact congrArg (VfsReply.mk args) same
    | _ => exact congrArg (VfsReply.mk args) (buffer_withoutBuffer ran)
  rw [native, run_bind, ran, andThen_ok, run_pure, returned]

end ParaVFS

namespace Database

structure Stands (db : Database Unit) (view : Option Nat) (files : PageFiles)
    (engine : Engine Unit) : Prop where
  encodes : db.vfs.Encodes engine.vfs files
  view : engine.vfs.view = view
  opened : engine.closed = false
  running : engine.aborted = false

variable {db : Database Unit} {view : Option Nat} {files after : PageFiles}
  {engine : Engine Unit} {sql : String}

theorem Stands.alike {counterpart : Engine Unit} (stands : db.Stands view files engine)
    (same : engine.vfs.SameCore counterpart.vfs) (closed : counterpart.closed = engine.closed)
    (aborted : counterpart.aborted = engine.aborted) : db.Stands view files counterpart := by
  refine ⟨⟨fun name => ?_, fun name => ?_⟩, same.view.symm.trans stands.view,
    closed.trans stands.opened, aborted.trans stands.running⟩
  · rw [← same.stores, ← same.storeOf db.vfs name]
    exact stands.encodes.stored name
  · exact ParaVFS.encodesBatch_congr same.view.symm
      (congrArg (Finmap.lookup name) same.files).symm (stands.encodes.pending name)

section Dependable

variable (dependable : db.Dependable)

include dependable

private theorem run_answer (call : VfsCall) (stands : db.Stands view files engine) :
    ∃ left, (db.answer (.file call)).run engine = (.ok (files.reply call), left) ∧
      db.Stands view (files.perform call).2 left := by
  obtain ⟨left, ran, encodes⟩ :=
    ParaVFS.run_native dependable.lawful dependable.keepsLent call stands.encodes
  have moves : Guarantees (VfsMove db.vfs call.file call.looks) (db.vfs.native call) :=
    (db.vfs.perform_moves call).bind fun _ => guarantees_pure _
  have sameView : ((db.vfs.native call).run engine.vfs).2.view = view :=
    moves.run_keeps (fun state next move same => move.adds.1.trans same) stands.view
  rw [ran] at sameView
  refine ⟨engine.setVfs left, ?_, encodes, sameView, stands.opened, stands.running⟩
  change (zoom Engine.vfs Engine.setVfs (db.vfs.native call)).run engine = _
  rw [run_zoom Engine.lawful_vfs, ran]
  rfl

private theorem run_serve {program : Program α} {value : α}
    (leads : program.Leads files value after)
    (stands : db.Stands view files engine) :
    ∃ left, (db.serve program).run engine = (.ok value, left) ∧ db.Stands view after left := by
  induction leads generalizing engine with
  | done value files => exact ⟨engine, rfl, stands⟩
  | @file call next files after value rest ih =>
      obtain ⟨middle, ran, standing⟩ := run_answer dependable call stands
      obtain ⟨left, served, ends⟩ := ih standing
      refine ⟨left, ?_, ends⟩
      change (db.answer (.file call) >>= fun answer => db.serve (next answer)).run engine = _
      rw [run_bind, ran]
      exact served
  | randomness rest ih => exact ih stands

private theorem run_request {request : Request Unit α} {result : Except JsError α}
    (leads : request.Leads files result after) (stands : db.Stands view files engine) :
    ∃ left, (db.request request).run engine = (result.mapError .error, left) ∧
      db.Stands view after left := by
  obtain ⟨left, ran, standing⟩ := run_serve dependable leads stands
  refine ⟨left, ?_, standing⟩
  simp only [Database.request, run_bind, run_read, andThen_ok, ran, run_atomic]

omit dependable in
private theorem rethrown_keeps (body : EngineTask Unit α) (engine : Engine Unit) :
    ((rethrown body).run engine).2 = (body.run engine).2 := by
  unfold rethrown
  rw [run_tryCatch]
  generalize body.run engine = outcome
  obtain ⟨result, left⟩ := outcome
  cases result <;> rfl

private theorem stands_exec {result : Except JsError Unit}
    (leads : (db.sqlite.exec sql).Leads files result after) (stands : db.Stands view files engine) :
    db.Stands view after ((db.exec sql).run engine).2 := by
  obtain ⟨left, ran, standing⟩ := run_request dependable leads stands
  rw [Database.exec, rethrown_keeps, ran]
  exact standing

/-- A request on the handle of an open statement. -/
theorem run_onHandle {request : Request Unit α} {result : Except JsError α}
    (leads : request.Leads files result after) (stands : db.Stands view files engine)
    (cached : sql ∈ engine.cache) :
    ∃ left, (db.onHandle sql request).run engine = (result.mapError .error, left) ∧
      db.Stands view after left ∧ sql ∈ left.cache := by
  have used : db.Stands view files
      { engine with aborted := engine.aborted || decide (sql ∉ engine.cache) } :=
    stands.alike (.refl _) rfl (by simp [cached])
  obtain ⟨left, ran, standing⟩ := run_request dependable leads used
  have found : sql ∈
      { engine with aborted := engine.aborted || decide (sql ∉ engine.cache) }.cache := cached
  have keeps : Guarantees (fun engine after : Engine Unit => sql ∈ engine.cache → sql ∈ after.cache)
      (db.request request) :=
    (request_keepsStatements request).mono fun _ _ same found => same.2 ▸ found
  have kept := keeps.run_keeps (fun _ _ same => same) found
  rw [ran] at kept
  exact ⟨left, ran, standing, kept⟩

/-- However the body ended, the statement is reset. -/
theorem stands_ensureReset {body : EngineTask Unit α} {between : PageFiles}
    {reset : Except JsError Unit} (stands : db.Stands view between (body.run engine).2)
    (cached : sql ∈ (body.run engine).2.cache)
    (resets : (db.sqlite.reset sql).Leads between reset after) :
    db.Stands view after
      ((Task.ensure (rethrown body) (db.onHandle sql (db.sqlite.reset sql))).run engine).2 := by
  rw [← rethrown_keeps] at stands cached
  obtain ⟨left, cleared, standing, _⟩ := run_onHandle dependable resets stands cached
  unfold Task.ensure
  simp only [run_bind, run_outcome, andThen_ok, cleared]
  cases reset with
  | error error => exact standing
  | ok value =>
      cases ((rethrown body).run engine).1 <;> exact standing

omit dependable in
private theorem run_bind_list {parameters : Parameters} {values : List SqlValue}
    (present : parameters.positional = .list values) :
    (db.bind sql parameters).run engine =
      (do db.onHandle sql (db.sqlite.bind sql parameters.stringified)
          Task.modify fun engine =>
            { engine with bound := Function.update engine.bound sql parameters.stringified } :
        EngineTask Unit Unit).run engine := by
  unfold Database.bind assertArray
  rw [present, if_neg ParameterField.noConfusion, run_bind, run_modify, andThen_ok]
  simp only [ParameterField.isArray, Bool.not_true, Bool.or_false]

private theorem stands_runStatement {parameters : Parameters}
    (runs : db.sqlite.Runs sql parameters files after) (stands : db.Stands view files engine)
    (cached : sql ∈ engine.cache) :
    db.Stands view after ((db.runStatement sql parameters).run engine).2 := by
  unfold Database.runStatement
  cases runs with
  | unbound absent resets =>
      refine stands_ensureReset dependable ?_ ?_ resets <;>
        simp only [Database.bind, absent, if_true, run_bind, run_throw, andThen_error]
      · exact stands
      · exact cached
  | refused present binds resets =>
      obtain ⟨middle, refused, standing, found⟩ := run_onHandle dependable binds stands cached
      refine stands_ensureReset dependable ?_ ?_ resets <;>
        simp only [run_bind, run_bind_list present, refused, Except.mapError, andThen_error]
      · exact standing
      · exact found
  | ran present binds runs resets =>
      obtain ⟨middle, accepted, standing, found⟩ := run_onHandle dependable binds stands cached
      have bound : db.Stands view _
          { middle with bound := Function.update middle.bound sql parameters.stringified } :=
        standing.alike (.refl _) rfl rfl
      obtain ⟨left, ran, ends, kept⟩ := run_onHandle dependable runs bound found
      refine stands_ensureReset dependable ?_ ?_ resets <;>
        simp only [run_bind, run_bind_list present, accepted, Except.mapError, andThen_ok,
          run_modify, run_read, Function.update_self, ran]
      · exact ends
      · exact kept

/-- A statement that can be prepared on the files is prepared, or was before. -/
theorem prepare_succeeds (stands : db.Stands view files engine)
    (prepares : (db.sqlite.prepare sql).Leads files (.ok ()) after) :
    ((db.prepare sql).run engine).1 = .ok () := by
  obtain ⟨left, ran, _⟩ := run_request dependable prepares stands
  exact (prepare_ok_iff dependable.prepares stands.opened).2 (.inr (congrArg Prod.fst ran))

/-- On what a failed attempt leaves behind, preparing fails again. -/
theorem unprepared_again {statements : String → Prop} {left : Instance Unit}
    (fails : ¬((db.prepare sql).run engine).1 = .ok ())
    (same : SameFor statements engine left.engine) : ¬db.Prepares sql left := by
  have steady : EngineSteady statements (db.prepare sql) :=
    prepare_undisturbed dependable.reliable sql
  have alike := (steady.alone same).1
  unfold Prepares
  rw [run_onEngine]
  exact fun prepares => fails ((endsLike_eq.1 alike).trans prepares)

end Dependable

/-! ### Peers -/

structure Rests (db : Database Unit) (view : Nat) (pages : Pages) (state : Instance Unit) :
    Prop where
  stands : db.Stands (some view) (.only db.vfs.name pages) (under view state.engine)
  idle : state.engine.vfs.view = none

variable {view : Nat} {pages after : Pages} {files : PageFiles} {state : Instance Unit}

/-- Nothing is pending when everything is flushed. -/
theorem Stands.flushed {view : Option Nat} {engine : Engine Unit}
    (stands : db.Stands view (.only db.vfs.name pages) engine) :
    engine.vfs.files.keys.card = 0 := by
  rw [Finset.card_eq_zero, Finset.eq_empty_iff_forall_notMem]
  intro file member
  have nothing : (PageFiles.only db.vfs.name pages file).pending = none := by
    by_cases here : file = db.vfs.name
    · rw [here, PageFiles.only, Function.update_self]
    · rw [PageFiles.only, Function.update_of_ne here]
  have registered := stands.encodes.pending file
  rw [nothing] at registered
  exact (Finmap.lookup_eq_none.1 registered) (Finmap.mem_keys.1 member)

private theorem run_switch (target : Option Nat) (flushed : state.engine.vfs.files.keys.card = 0) :
    ∃ left, (switchTo target).run state = (.ok (), left) ∧
      left.engine.closed = state.engine.closed ∧
      left.engine.aborted = state.engine.aborted ∧ left.engine.cache = state.engine.cache ∧
      VfsState.SameCore { state.engine.vfs with view := target } left.engine.vfs := by
  rw [run_switchTo]
  simp only [flushed, ne_eq, not_true, if_false]
  exact ⟨_, rfl, rfl, rfl, rfl, rfl, rfl, rfl, rfl⟩

theorem Rests.enter (rests : db.Rests view pages state) :
    ∃ left, (switchTo (some view)).run state = (.ok (), left) ∧
      db.Stands (some view) (.only db.vfs.name pages) left.engine ∧
      left.engine.cache = state.engine.cache := by
  obtain ⟨left, ran, closed, aborted, cache, same⟩ := run_switch (some view) rests.stands.flushed
  exact ⟨left, ran, rests.stands.alike same closed aborted, cache⟩

theorem Stands.leave (stands : db.Stands (some view) (.only db.vfs.name pages) state.engine) :
    ∃ left, (switchTo none).run state = (.ok (), left) ∧ db.Rests view pages left ∧
      left.engine.cache = state.engine.cache := by
  obtain ⟨left, ran, closed, aborted, cache, same⟩ := run_switch none stands.flushed
  exact ⟨left, ran,
    ⟨stands.alike ⟨stands.view, same.files, same.stores, same.serial⟩ closed aborted,
      same.view.symm⟩, cache⟩

theorem Rests.alike (rests : db.Rests view pages state) {left : Instance Unit}
    (same : state.engine.vfs.SameCore left.engine.vfs)
    (closed : left.engine.closed = state.engine.closed)
    (aborted : left.engine.aborted = state.engine.aborted) : db.Rests view pages left :=
  ⟨rests.stands.alike ⟨rfl, same.files, same.stores, same.serial⟩ closed aborted,
    same.view.symm.trans rests.idle⟩

private theorem Rests.sameEngine (rests : db.Rests view pages state) {left : Instance Unit}
    (same : left.engine = state.engine) : db.Rests view pages left :=
  rests.alike (same ▸ .refl _) (same ▸ rfl) (same ▸ rfl)

section Dependable

variable (dependable : db.Dependable)

include dependable

private theorem run_applyExec (owner : Option CallId) {sql : String} {result : Except JsError Unit}
    (leads : (db.sqlite.exec sql).Leads (.only db.vfs.name pages) result
      (.only db.vfs.name after)) (rests : db.Rests view pages state) :
    ∃ left, (db.applyExec owner view sql).run state = (.ok (), left) ∧
      db.Rests view after left := by
  obtain ⟨inside, entered, stands, _⟩ := rests.enter
  have ran := stands_exec dependable leads stands
  let completed : Instance Unit :=
    { inside.setEngine ((db.exec sql).run inside.engine).2 with
      calls := inside.calls.complete owner (.ofExec ((db.exec sql).run inside.engine).1)
        (.ofExec ((db.exec sql).run inside.engine).1) }
  have ends : db.Stands (some view) (.only db.vfs.name after) completed.engine := ran
  obtain ⟨left, switched, resting, _⟩ := ends.leave
  refine ⟨left, ?_, resting⟩
  simp only [applyExec, run_bind, entered, andThen_ok, run_outcome, run_onEngine, complete,
    run_modify]
  exact switched

private theorem run_prepared {sql : String} {parameters : Parameters} {id : CallId}
    (means : db.sqlite.Means db.vfs.name (.call id (.run sql parameters)) pages after)
    (stands : db.Stands (some view) (.only db.vfs.name pages) state.engine) :
    ∃ value left, (db.prepareAndRun sql parameters).run state = (.ok value, left) ∧
      db.Stands (some view) (.only db.vfs.name after) left.engine := by
  obtain ⟨same, closed, aborted⟩ := prepare_keeps dependable.prepares sql state.engine
  have looked := stands.alike same closed aborted
  have succeeds {shown : PageFiles}
      (prepares : (db.sqlite.prepare sql).Leads (.only db.vfs.name pages) (.ok ()) shown) :
      ((db.prepare sql).run state.engine).1 = .ok () :=
    prepare_succeeds dependable stands prepares
  have caches (prepared : ((db.prepare sql).run state.engine).1 = .ok ()) :
      sql ∈ ((db.prepare sql).run state.engine).2.cache :=
    prepare_caches dependable.caching prepared
  clear same closed aborted
  unfold prepareAndRun
  simp only [run_bind, run_outcome, run_onEngine, andThen_ok]
  generalize (db.prepare sql).run state.engine = outcome at looked succeeds caches
  obtain ⟨prepared, engine⟩ := outcome
  have goesOn {ending : PageFiles}
      (runs : db.sqlite.Runs sql parameters (.only db.vfs.name pages) ending)
      (cached : sql ∈ engine.cache) :
      db.Stands (some view) ending ((db.runStatement sql parameters).run engine).2 :=
    stands_runStatement dependable runs looked cached
  cases means with
  | run prepares runs =>
      obtain rfl := succeeds prepares
      simp only [run_bind, run_outcome, run_onEngine, andThen_ok, run_pure]
      exact ⟨_, _, rfl, goesOn runs (caches rfl)⟩
  | unprepared fails vain =>
      cases prepared with
      | ok value =>
          simp only [run_bind, run_outcome, run_onEngine, andThen_ok, run_pure]
          exact ⟨_, _, rfl, goesOn vain (caches rfl)⟩
      | error thrown => exact ⟨_, _, rfl, looked⟩

private theorem run_applyRun (owner : Option CallId) {sql : String} {parameters : Parameters}
    {id : CallId} (means : db.sqlite.Means db.vfs.name (.call id (.run sql parameters)) pages after)
    (rests : db.Rests view pages state) (progress : Progress) :
    ∃ next left, (db.applyRun owner view sql parameters progress).run state = (.ok next, left) ∧
      db.Rests view after left := by
  obtain ⟨inside, entered, stands, _⟩ := rests.enter
  obtain ⟨⟨prepared, result⟩, ran, outcome, ends⟩ := run_prepared dependable means stands
  let completed : Instance Unit :=
    { ran with calls := ran.calls.complete owner (.ofRun result) (.ofRun result) }
  have completes : db.Stands (some view) (.only db.vfs.name after) completed.engine := ends
  obtain ⟨left, switched, resting, _⟩ := completes.leave
  refine ⟨if prepared then { progress with stmt := some sql } else progress, left, ?_, resting⟩
  simp only [applyRun, run_bind, entered, andThen_ok, outcome, complete, run_modify]
  change andThen ((switchTo none).run completed) _ = _
  rw [switched]
  rfl

private theorem run_applyBatch (owner : Option CallId) (opens : Bool) {sql : String}
    {parameters : Parameters}
    (runs : db.sqlite.Runs sql parameters (.only db.vfs.name pages) (.only db.vfs.name after))
    (rests : db.Rests view pages state) (cached : sql ∈ state.engine.cache) {progress : Progress}
    (prepared : progress.stmt = some sql) :
    ∃ next left, (db.applyBatch owner opens view parameters progress).run state =
      (.ok next, left) ∧ next.stmt = some sql ∧ db.Rests view after left ∧
        sql ∈ left.engine.cache := by
  obtain ⟨inside, entered, stands, sameCache⟩ := rests.enter
  have found : sql ∈ inside.engine.cache := sameCache ▸ cached
  have ends := stands_runStatement dependable runs stands found
  have kept : sql ∈ ((db.runStatement sql parameters).run inside.engine).2.cache := by
    have keeps : Guarantees (fun engine after : Engine Unit =>
        sql ∈ engine.cache → sql ∈ after.cache) (db.runStatement sql parameters) :=
      (runStatement_keepsStatements sql parameters).mono fun _ _ same found => same.2 ▸ found
    exact keeps.run_keeps (fun _ _ same => same) found
  let attempted : Instance Unit :=
    { inside.setEngine ((db.runStatement sql parameters).run inside.engine).2 with
      calls := inside.calls.attempt owner opens
        ((db.runStatement sql parameters).run inside.engine).1 }
  have attempts : db.Stands (some view) (.only db.vfs.name after) attempted.engine := ends
  obtain ⟨left, switched, resting, sameAfter⟩ := attempts.leave
  refine ⟨progress.count ((db.runStatement sql parameters).run inside.engine).1, left, ?_, ?_,
    resting, sameAfter ▸ kept⟩
  · simp only [applyBatch, run_bind, entered, andThen_ok, prepared, runOn, run_outcome,
      run_onEngine, run_modify]
    change andThen ((switchTo none).run attempted) _ = _
    rw [switched]
    rfl
  · cases ((db.runStatement sql parameters).run inside.engine).1 <;> exact prepared

/-- A STMT is prepared on what the peer shows outside of `_apply`. -/
theorem run_prepareStmt_rests (sql : String) (rests : db.Rests view pages state) :
    ∃ result left, (db.prepareStmt sql).run state = (result, left) ∧ db.Rests view pages left ∧
      (result = .ok () → sql ∈ left.engine.cache) ∧
      ∀ thrown, result = .error thrown → ¬db.Prepares sql left := by
  obtain ⟨same, closed, aborted⟩ := prepare_keeps dependable.prepares sql state.engine
  have fails (unprepared : ¬((db.prepare sql).run state.engine).1 = .ok ()) :
      SameFor (fun _ => True) state.engine ((db.prepare sql).run state.engine).2 :=
    prepare_fails dependable.prepares rests.stands.opened unprepared
  have again {left : Instance Unit} (unprepared : ¬((db.prepare sql).run state.engine).1 = .ok ())
      (kept : SameFor (fun _ => True) state.engine left.engine) : ¬db.Prepares sql left :=
    unprepared_again dependable unprepared kept
  have caches (prepared : ((db.prepare sql).run state.engine).1 = .ok ()) :
      sql ∈ ((db.prepare sql).run state.engine).2.cache :=
    prepare_caches dependable.caching prepared
  unfold prepareStmt
  simp only [run_bind, run_outcome, run_onEngine, andThen_ok, run_atomic]
  generalize (db.prepare sql).run state.engine = outcome at same closed aborted fails again caches ⊢
  obtain ⟨prepared, engine⟩ := outcome
  refine ⟨_, _, rfl,
    rests.alike ⟨same.view, same.files, same.stores, same.serial⟩ closed aborted, ?_, ?_⟩
  · cases prepared with
    | ok value => exact fun _ => caches rfl
    | error rejection => exact fun impossible => by cases impossible
  cases prepared with
  | ok value => exact fun thrown impossible => by cases impossible
  | error rejection =>
      have refused : (Except.error rejection : Except JsValue Unit) ≠ .ok () :=
        fun impossible => by cases impossible
      have kept : SameFor (fun _ => True) state.engine engine := fails refused
      exact fun thrown _ =>
        again refused (kept.trans { SameFor.refl engine with vfs := ⟨rfl, rfl, rfl, rfl⟩ })

end Dependable

/-! ### The log -/

def nodesOf (entry : OplogAppend × Option CallId) : List Node :=
  entry.1.operations.map (Node.mk entry.2)

/-- A log can be cut between its entries. -/
theorem opensBatches_nodesOf (entry : OplogAppend × Option CallId) (opened : Bool) :
    OpensBatches opened (nodesOf entry) := by
  obtain ⟨append, owner⟩ := entry
  cases append with
  | addWriter key => trivial
  | removeWriter key => trivial
  | call id request =>
      cases request with
      | exec sql => trivial
      | run sql parameters => trivial
      | flush sql operations =>
          simp only [nodesOf, OplogAppend.operations, OplogCall.operations, List.map_cons,
            List.cons_append, List.map_append, List.map_map]
          unfold OpensBatches
          induction operations with
          | nil => trivial
          | cons parameters operations ih => exact ⟨rfl, ih⟩

variable (db view)

def GoesOn (entry : OplogAppend × Option CallId) (rest : List Node) (progress : Progress)
    (state : Instance Unit) (pages after : Pages) : Prop :=
  let outcome := (db.applyFrom view (nodesOf entry ++ rest) progress).run state
  (∃ next left, outcome = (db.applyFrom view rest next).run left ∧ db.Rests view after left) ∨
    ∃ id sql operations thrown left, entry.1 = .call id (.flush sql operations) ∧
      outcome = (.error thrown, left) ∧ db.Rests view pages left ∧ ¬db.Prepares sql left

/-- What replaying a log on a peer comes to: everything that it means, or what it means up to a
flush whose statement the peer cannot prepare. -/
def Comes (log : List OplogAppend) (pages after : Pages) (result : Except JsValue Unit)
    (final : Instance Unit) : Prop :=
  (result = .ok () ∧ db.Rests view after final) ∨
    ∃ done id sql operations rest between thrown,
      log = done ++ .call id (.flush sql operations) :: rest ∧
      db.sqlite.Replays db.vfs.name done pages between ∧ result = .error thrown ∧
      db.Rests view between final ∧ ¬db.Prepares sql final

variable {db view}

theorem Comes.cons {append : OplogAppend} {log : List OplogAppend} {middle : Pages}
    {result : Except JsValue Unit} {final : Instance Unit}
    (first : db.sqlite.Means db.vfs.name append pages middle)
    (comes : db.Comes view log middle after result final) :
    db.Comes view (append :: log) pages after result final := by
  obtain done | ⟨done, id, sql, operations, rest, between, thrown, rfl, replays, told⟩ := comes
  · exact .inl done
  · exact .inr ⟨append :: done, id, sql, operations, rest, between, thrown, rfl,
      .cons first replays, told⟩

section Dependable

variable (dependable : db.Dependable)

include dependable

omit dependable in
private theorem run_applyFrom_cons {node : Node} {nodes : List Node} {progress next : Progress}
    {left : Instance Unit}
    (ran : (db.applyNode view node progress).run state = (.ok next, left)) :
    (db.applyFrom view (node :: nodes) progress).run state =
      (db.applyFrom view nodes next).run left := by
  rw [applyFrom, run_bind, ran, andThen_ok]

private theorem run_batches (owner : Option CallId) {sql : String} {operations : List Parameters}
    (runs : db.sqlite.RunsEach db.vfs.name sql operations pages after)
    (rests : db.Rests view pages state) (cached : sql ∈ state.engine.cache)
    {progress : Progress} (prepared : progress.stmt = some sql) (rest : List Node) :
    ∃ next left, (db.applyFrom view
        (operations.map (fun parameters => ⟨owner, .batch parameters⟩) ++ rest) progress).run
          state = (db.applyFrom view rest next).run left ∧ db.Rests view after left := by
  induction runs generalizing state progress with
  | nil pages => exact ⟨progress, state, rfl, rests⟩
  | cons first _ ih =>
      obtain ⟨next, middle, ran, stillPrepared, between, kept⟩ :=
        run_applyBatch dependable owner false first rests cached prepared
      obtain ⟨last, left, ranRest, ends⟩ := ih between kept stillPrepared
      refine ⟨last, left, ?_, ends⟩
      rw [← ranRest]
      exact run_applyFrom_cons ran

theorem run_flush {owner : Option CallId} {id : CallId} {sql : String}
    {operations : List Parameters}
    (runs : db.sqlite.RunsEach db.vfs.name sql (.absent :: operations) pages after)
    (rests : db.Rests view pages state) (progress : Progress) (rest : List Node) :
    db.GoesOn view (.call id (.flush sql operations), owner) rest progress state pages after := by
  obtain ⟨result, middle, prepared, between, caches, fails⟩ :=
    run_prepareStmt_rests dependable sql rests
  have nodes : nodesOf (.call id (.flush sql operations), owner) ++ rest =
      ⟨owner, .stmt sql .absent⟩ ::
        (operations.map (fun parameters => ⟨owner, .batch parameters⟩) ++
          ⟨owner, .flush⟩ :: rest) := by
    simp [nodesOf, OplogAppend.operations, OplogCall.operations, Function.comp_def]
  unfold GoesOn
  rw [nodes]
  cases result with
  | error thrown =>
      refine .inr ⟨id, sql, operations, thrown, middle, rfl, ?_, between, fails thrown rfl⟩
      simp only [applyFrom, applyNode, run_bind, prepared, andThen_error]
  | ok value =>
      cases runs with
      | cons attempt each =>
          have opened : ({ progress with stmt := some sql } : Progress).stmt = some sql := rfl
          obtain ⟨next, left, ran, hasStmt, attempted, kept⟩ :=
            run_applyBatch dependable owner true attempt between (caches rfl) opened
          obtain ⟨last, ending, ranEach, ends⟩ :=
            run_batches dependable owner each attempted kept hasStmt (⟨owner, .flush⟩ :: rest)
          obtain ⟨completed, told, sameEngine⟩ : ∃ completed,
              (db.applyNode view ⟨owner, .flush⟩ last).run ending = (.ok last, completed) ∧
                completed.engine = ending.engine := ⟨_, rfl, rfl⟩
          refine .inl ⟨last, completed, ?_, ends.sameEngine sameEngine⟩
          rw [applyFrom, run_bind, applyNode, run_bind, prepared, andThen_ok, ran, andThen_ok,
            ranEach, run_applyFrom_cons told]

/-- The calls on the host do not fail. -/
theorem run_applyWriter (call : HostCall) (state : Instance Unit) :
    ∃ left, (db.applyWriter call).run state = (.ok (), left) ∧ left.engine = state.engine := by
  simp only [applyWriter, callHost, run_bind, run_atomic, dependable.hosts, andThen_ok]
  exact ⟨_, rfl, rfl⟩

/-- One entry. -/
theorem run_entry {entry : OplogAppend × Option CallId}
    (means : db.sqlite.Means db.vfs.name entry.1 pages after) (rests : db.Rests view pages state)
    (progress : Progress) (rest : List Node) :
    db.GoesOn view entry rest progress state pages after := by
  obtain ⟨append, owner⟩ := entry
  cases append with
  | addWriter key =>
      cases means
      obtain ⟨left, ran, same⟩ := run_applyWriter dependable (.addWriter key) state
      refine .inl ⟨progress, left, run_applyFrom_cons ?_, rests.sameEngine same⟩
      simp only [applyNode, run_bind, ran, andThen_ok, run_pure]
  | removeWriter key =>
      cases means
      obtain ⟨left, ran, same⟩ := run_applyWriter dependable (.removeWriter key) state
      refine .inl ⟨progress, left, run_applyFrom_cons ?_, rests.sameEngine same⟩
      simp only [applyNode, run_bind, ran, andThen_ok, run_pure]
  | call id request =>
      cases request with
      | exec sql =>
          cases means with
          | exec leads =>
              obtain ⟨left, ran, ends⟩ := run_applyExec dependable owner leads rests
              refine .inl ⟨progress, left, run_applyFrom_cons ?_, ends⟩
              simp only [applyNode, run_bind, ran, andThen_ok, run_pure]
      | run sql parameters =>
          obtain ⟨next, left, ran, ends⟩ :=
            run_applyRun dependable owner means rests progress
          exact .inl ⟨next, left, run_applyFrom_cons ran, ends⟩
      | flush sql operations =>
          cases means with
          | flush runs => exact run_flush dependable runs rests progress rest

/-- The whole log, in one call. -/
theorem run_log {log : List (OplogAppend × Option CallId)}
    (replays : db.sqlite.Replays db.vfs.name (log.map Prod.fst) pages after)
    (rests : db.Rests view pages state) (progress : Progress) :
    db.Comes view (log.map Prod.fst) pages after
      ((db.applyFrom view (log.flatMap nodesOf) progress).run state).1
      ((db.applyFrom view (log.flatMap nodesOf) progress).run state).2 := by
  induction log generalizing pages state progress with
  | nil =>
      cases replays
      exact .inl ⟨rfl, rests⟩
  | cons entry log ih =>
      rw [List.map_cons] at replays ⊢
      rw [List.flatMap_cons]
      cases replays with
      | cons means replaysRest =>
          obtain ⟨next, left, ran, ends⟩ |
            ⟨id, sql, operations, thrown, left, isFlush, ran, between, unprepared⟩ :=
            run_entry dependable means rests progress (log.flatMap nodesOf)
          · rw [ran]
            exact Comes.cons means (ih replaysRest ends next)
          · rw [ran]
            exact .inr ⟨[], id, sql, operations, log.map Prod.fst, pages, thrown,
              congrArg (· :: _) isFlush, .nil _, rfl, between, unprepared⟩

theorem Comes.alike {log : List OplogAppend} {result : Except JsValue Unit}
    {statements : String → Prop} {final : Instance Unit}
    (comes : db.Comes view log pages after result state)
    (same : SameFor statements state.engine final.engine) :
    db.Comes view log pages after result final := by
  obtain ⟨returned, ends⟩ | ⟨done, id, sql, operations, rest, between, thrown, isLog, replays,
    threw, ends, unprepared⟩ := comes
  · exact .inl ⟨returned, ends.alike same.vfs same.closed.symm same.aborted.symm⟩
  · refine .inr ⟨done, id, sql, operations, rest, between, thrown, isLog, replays, threw,
      ends.alike same.vfs same.closed.symm same.aborted.symm, unprepared_again dependable ?_ same⟩
    unfold Prepares at unprepared
    rwa [run_onEngine] at unprepared

end Dependable

/-- However the log is cut into calls of `_apply`, whatever else a dependable peer has in its
cache and on its clock, and while calls go on and other statements are read as long as they are
open: the process goes on and the pages of the view become what the log means, unless the peer
cannot prepare the statement of a flush. -/
theorem replay_means (db : Database Unit) (dependable : db.Dependable) (view : Nat)
    (log : List (OplogAppend × Option CallId)) (pages after : Pages)
    (replays : db.sqlite.Replays db.vfs.name (log.map Prod.fst) pages after)
    (groups : List (List Node)) (cut : groups.flatten = log.flatMap nodesOf)
    (opens : ∀ group ∈ groups, OpensBatches false group) (start final : Instance Unit)
    (result : Except JsValue Unit) (rests : db.Rests view pages start)
    (ran : RunUnder (db.ReadingBeside (Names groups.flatten)) (db.applyGroups view groups) start
      result final) :
    db.Comes view (log.map Prod.fst) pages after result final := by
  obtain ⟨ends, same⟩ := applyGroups_undisturbed dependable.reliable dependable.hosts
    (fun group member => opens group (List.mem_of_mem_tail member)) ran
  have comes := run_log dependable replays rests .initial
  rw [← cut] at comes
  rw [ends]
  exact comes.alike dependable same

/-- An `exec` of this peer and a flush of another one, on a peer that was just opened. -/
theorem replay_means_execThenFlush :
    let db : Database Unit := sample constantSqlite
    let opened : Instance Unit := .opened (fun _ _ => ∅) (fun _ => 0) ()
    let dirty : PageFiles := ((PageFiles.only openPath ∅).perform (.xWrite openPath [7] 0)).2
    let written : PageFiles := (dirty.perform (.xSync openPath)).2
    let row : Parameters := { named := .null, positional := .list [] }
    let log : List (OplogAppend × Option CallId) :=
      [(.call 0 (.exec "CREATE TABLE t(x)"), some 0),
        (.call 1 (.flush "INSERT INTO t VALUES (1)" [row]), none)]
    ∃ result final,
      RunUnder (db.ReadingBeside (Names (log.map nodesOf).flatten))
        (db.applyGroups 0 (log.map nodesOf)) opened result final ∧
      db.Comes 0 (log.map Prod.fst) ∅ (written openPath).committed result final := by
  intro db opened dirty written row log
  have dependable : db.Dependable :=
    { lawful := Runtime.copying_lawful
      hosts := fun _ => rfl
      keepsLent := .inl rfl
      caching := by decide
      prepares := ⟨fun _ _ => .done _, fun _ _ => .done _,
        fun _ _ => .done _ fun _ impossible => by cases impossible⟩ }
  have only : written = .only openPath (written openPath).committed := by
    funext name
    by_cases here : name = openPath
    · subst here
      rw [PageFiles.only, Function.update_self]
      rfl
    · simp only [written, dirty, PageFiles.only, PageFiles.perform, VfsCall.file,
        Function.update_of_ne here]
  have executes : db.sqlite.Means openPath (.call 0 (.exec "CREATE TABLE t(x)")) ∅
      (written openPath).committed := by
    have leads : (db.sqlite.exec "CREATE TABLE t(x)").Leads (.only openPath ∅) (.ok ()) written :=
      .file (.file (.done _ _))
    rw [only] at leads
    exact .exec leads
  let sql : String := "INSERT INTO t VALUES (1)"
  let files : PageFiles := .only openPath (written openPath).committed
  have resets : (db.sqlite.reset sql).Leads files (.ok ()) files := .done _ _
  have binds : (db.sqlite.bind sql row.stringified).Leads files (.ok ()) files := .done _ _
  have runs : (db.sqlite.run sql row.stringified).Leads files
      (.ok { changes := 0, lastInsertRowid := 0 }) files := .done _ _
  have ranRow : db.sqlite.Runs sql row files files :=
    .ran rfl binds runs resets
  have flushes : db.sqlite.Means openPath (.call 1 (.flush sql [row]))
      (written openPath).committed (written openPath).committed :=
    .flush (.cons (.unbound rfl resets) (.cons ranRow (.nil _)))
  have nothing : PageFiles.only openPath ∅ = fun _ => { committed := ∅, pending := none } :=
    Function.update_eq_self openPath _
  have rests : db.Rests 0 ∅ opened := by
    refine ⟨⟨?_, rfl, rfl, rfl⟩, rfl⟩
    exact nothing ▸ db.vfs.encodes_empty (some 0)
  refine ⟨_, _, runUnder_run _ _ opened, ?_⟩
  exact replay_means db dependable 0 log ∅ _ (.cons executes (.cons flushes (.nil _)))
    (log.map nodesOf) (List.flatMap_def ..).symm
    (List.forall_mem_map.2 fun entry _ => opensBatches_nodesOf entry false) opened _ _ rests
    (runUnder_run _ _ opened)

end Database
end ParaQL
