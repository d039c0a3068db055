/-
`_apply` among calls that only read.

A call that looks at files changes nothing that a request of `_apply` goes by, wherever in the
request it falls.  The calls on a statement go by the parameters bound to it, so that the
statements must be others.
-/

import ParaQL.Async.Undisturbed
import ParaQL.Grouping
import ParaQL.SameWork

namespace ParaQL

open Async Async.Task Bytes

variable {κ α β : Type}

abbrev VfsSteady (task : VfsTask α) : Prop := Matches VfsState.SameCore Eq task task

abbrev LentSteady (task : CallTask α) : Prop := Matches (onCall VfsState.SameCore) Eq task task

/-- The steps after a step that yields the same on both sides. -/
theorem steady_bind {σ τ : Type} {related : σ → τ → Prop} {task : Task σ JsValue α}
    {other : Task τ JsValue α} {next : α → Task σ JsValue β} {follow : α → Task τ JsValue β}
    (matched : Matches related Eq task other)
    (rest : ∀ value, Matches related Eq (next value) (follow value)) :
    Matches related Eq (task >>= next) (other >>= follow) :=
  matched.bind fun value _ same => same ▸ rest value

private theorem steady_onShared {task : VfsTask α} (steady : VfsSteady task) :
    LentSteady task.onShared :=
  Matches.onShared steady

private theorem lentSteady_read (view : Buffer → α) :
    LentSteady (Task.read fun state => view state.2) :=
  matches_atomic fun _ _ holds => ⟨.value (congrArg view holds.2), holds⟩

private theorem steady_callback {σ : Type} {same : σ → σ → Prop}
    {body : Task σ JsValue (List JsValue)}
    (steady : Matches same Eq body body) :
    Matches same Eq (ParaVFS.callback body) (ParaVFS.callback body) :=
  (steady_bind steady fun _ => matches_pure rfl).catch fun _ => matches_pure rfl

private theorem steady_withBuffer {task : CallTask ParaVFS.CallbackArgs} (steady : LentSteady task)
    (buffer : Buffer) : VfsSteady (ParaVFS.withBuffer task buffer) :=
  steady_bind (Matches.withLocal steady buffer) fun _ => matches_pure rfl

private theorem steady_withoutBuffer {task : VfsTask ParaVFS.CallbackArgs}
    (steady : VfsSteady task) :
    VfsSteady (ParaVFS.withoutBuffer task) :=
  steady_bind steady fun _ => matches_pure rfl

namespace ParaVFS

variable {vfs : ParaVFS}

private theorem steady_encryptPage (name : FileName) (index : Nat) (value : PageBuffer) :
    LentSteady (vfs.encryptPage name index value) := by
  unfold encryptPage
  split
  · split
    · refine matches_atomic ?_
      rintro ⟨first, lent⟩ ⟨second, otherLent⟩ ⟨holds, sameLent⟩
      obtain rfl : lent = otherLent := sameLent
      cases value <;> exact ⟨.value rfl, holds, rfl⟩
    · exact matches_pure rfl
  · exact matches_pure rfl

private theorem steady_openBatch (name : FileName) : VfsSteady (vfs.openBatch name) := by
  refine matches_atomic fun state other same => ?_
  simp only [same.files, same.storeOf vfs name, same.serial]
  cases other.files.lookup name with
  | some batch => exact ⟨.value rfl, same⟩
  | none => exact ⟨.value rfl, same.view, rfl, same.stores, rfl⟩

variable (reliable : vfs.runtime.Reliable)

include reliable

private theorem steady_storeCall (op : StoreOp) (name : FileName) (target : VfsState → StoreRef)
    (action : VfsState → α × VfsState)
    (acts : ∀ state other, state.SameCore other →
      (action state).1 = (action other).1 ∧ (action state).2.SameCore (action other).2) :
    VfsSteady (vfs.storeCall op name target action) := by
  refine matches_atomic fun state other same => ?_
  simp only [reliable.store, Bool.false_eq_true, if_false]
  obtain ⟨sameValue, kept⟩ := acts _ _ (same.record
    (.store op name (target state) state.view false)
    (.store op name (target other) other.view false))
  exact ⟨.value sameValue, kept⟩

private theorem steady_deflate (page : Buffer) : VfsSteady (vfs.deflate page) := by
  refine matches_atomic fun state other same => ?_
  simp only [reliable.zlib, Bool.false_eq_true, if_false]
  exact ⟨.value rfl, same.record _ _⟩

private theorem steady_inflate (page : Buffer) : VfsSteady (vfs.inflate page) := by
  refine matches_atomic fun state other same => ?_
  simp only [reliable.zlib, Bool.false_or]
  split
  · exact ⟨.rejection _, same.record _ _⟩
  · exact ⟨.value rfl, same.record _ _⟩

private theorem steady_see (op : StoreOp) (name : FileName) (view : Pages → α) :
    VfsSteady (vfs.storeCall op name (vfs.storeOf name)
      fun state => (view (state.stores (vfs.storeOf name state) name), state)) :=
  steady_storeCall reliable op name _ _ fun state other same =>
    ⟨by simp only [same.storeOf vfs name, same.stores], same⟩

private theorem steady_get (name : FileName) (index : Nat) : VfsSteady (vfs.get name index) := by
  unfold get
  rw [fetch_eq]
  refine steady_bind (steady_see reliable .get name fun pages =>
    vfs.decipher name index (pages.lookup index)) fun value => ?_
  cases value with
  | none => exact matches_pure rfl
  | some page =>
      simp only [unpack]
      split
      · exact steady_bind (steady_inflate reliable page) fun _ => matches_pure rfl
      · exact matches_pure rfl

private theorem steady_last (name : FileName) : VfsSteady (vfs.last name) := by
  rw [last_eq]
  exact steady_see reliable .peek name Pages.last

private theorem steady_packPage (value : PageBuffer) : LentSteady (vfs.packPage value) := by
  unfold packPage
  split
  · exact steady_bind (lentSteady_read fun lent => value.bytes lent) fun page =>
      steady_bind (steady_onShared (steady_deflate reliable page)) fun _ => matches_pure rfl
  · exact matches_pure rfl

private theorem steady_addTo (op : StoreOp) (name : FileName) (batch : Batch) (item : BatchOp) :
    VfsSteady (vfs.storeCall op name (fun _ => batch.source)
      fun state => ((), state.addTo name batch item)) :=
  steady_storeCall reliable op name _ _ fun _ _ same => ⟨rfl, same.addTo name batch item⟩

private theorem steady_tryPut (name : FileName) (index : Nat) (value : PageBuffer) :
    LentSteady (vfs.tryPut name index value) :=
  steady_bind (steady_onShared (steady_openBatch name)) fun batch =>
    steady_bind (steady_packPage reliable value) fun packed =>
      steady_bind (steady_encryptPage name index packed) fun encrypted =>
        steady_bind (lentSteady_read fun lent => encrypted.bytes lent) fun _ =>
          steady_onShared (steady_addTo reliable .put name batch _)

private theorem steady_tryDelete (name : FileName) (index : Nat) :
    VfsSteady (vfs.tryDelete name index) :=
  steady_bind (steady_openBatch name) fun batch => steady_addTo reliable .delete name batch _

private theorem steady_flush (name : FileName) : VfsSteady (vfs.flush name) := by
  refine steady_bind (matches_atomic fun state other same => ?_) fun batch =>
    steady_storeCall reliable .flush name _ _ fun _ _ same => ⟨rfl, same.commit batch⟩
  simp only [same.files]
  cases other.files.lookup name with
  | none => exact ⟨.rejection _, same⟩
  | some batch => exact ⟨.value rfl, same.unregister name⟩

private theorem steady_readPage (name : FileName) (length offset index : Nat) :
    LentSteady (vfs.readPage name length offset index) := by
  unfold readPage
  simp only
  split
  · refine steady_bind (steady_onShared (steady_get reliable name index)) fun found => ?_
    refine matches_modify ?_
    rintro ⟨first, lent⟩ ⟨second, otherLent⟩ ⟨holds, sameLent⟩
    obtain rfl : lent = otherLent := sameLent
    exact ⟨holds, rfl⟩
  · exact matches_pure rfl

private theorem steady_writePage (name : FileName) (length offset index : Nat) :
    LentSteady (vfs.writePage name length offset index) := by
  unfold writePage
  simp only
  split
  · exact steady_tryPut reliable name index _
  · exact steady_bind (steady_onShared (steady_get reliable name index)) fun found =>
      steady_bind (lentSteady_read fun lent => lent.subarray _ _) fun patch =>
        steady_tryPut reliable name index _

/-- A call of the VFS, one step after the other. -/
theorem steady_perform (call : VfsCall) : VfsSteady (vfs.perform call) := by
  have looked (name : FileName) (values : Int → List JsValue) :
      VfsSteady (do let index ← vfs.last name; pure (values index)) :=
    steady_bind (steady_last reliable name) fun _ => matches_pure rfl
  cases call with
  | xAccess name =>
      exact steady_withoutBuffer (steady_callback (looked name fun index => [.bool (index ≥ 0)]))
  | xSize name =>
      exact steady_withoutBuffer (steady_callback
        (looked name fun index => [.number ((index + 1) * pageSize)]))
  | xSync name =>
      exact steady_withoutBuffer (steady_callback
        (steady_bind (steady_flush reliable name) fun _ => matches_pure rfl))
  | xDelete name =>
      refine steady_withoutBuffer (steady_callback
        (steady_bind (steady_last reliable name) fun index => ?_))
      refine steady_bind ?_ fun _ =>
        steady_bind (steady_flush reliable name) fun _ => matches_pure rfl
      split
      · exact matches_forEach fun page _ => steady_tryDelete reliable name page
      · exact matches_pure rfl
  | xRead name buffer offset =>
      refine steady_withBuffer (steady_callback ?_) buffer
      exact steady_bind (lentSteady_read List.length) fun length =>
        steady_bind (matches_forEach fun page _ => steady_readPage reliable name length offset page)
          fun _ => matches_pure rfl
  | xWrite name data offset =>
      refine steady_withBuffer (steady_callback ?_) data
      exact steady_bind (lentSteady_read List.length) fun length =>
        steady_bind
          (matches_forEach fun page _ => steady_writePage reliable name length offset page)
          fun _ => matches_pure rfl
  | xTruncate name size =>
      refine steady_withBuffer (steady_callback
        (steady_bind (steady_onShared (steady_last reliable name)) fun index => ?_)) []
      refine steady_bind ?_ fun _ => matches_pure rfl
      split
      · exact matches_forEach fun page _ => steady_tryPut reliable name page _
      · split
        · exact matches_throw _
        · exact matches_pure rfl

end ParaVFS

/-! ### The engine -/

structure SameFor (statements : String → Prop) (first second : Engine κ) : Prop where
  vfs : first.vfs.SameCore second.vfs
  connection : first.connection = second.connection
  bound : ∀ sql, statements sql → first.bound sql = second.bound sql
  cache : first.cache = second.cache
  closed : first.closed = second.closed
  aborted : first.aborted = second.aborted
  clock : first.clock = second.clock
  clockReads : first.clockReads = second.clockReads

namespace SameFor

variable {statements : String → Prop} {first second third : Engine κ}

theorem refl (engine : Engine κ) : SameFor statements engine engine :=
  ⟨.refl _, rfl, fun _ _ => rfl, rfl, rfl, rfl, rfl, rfl⟩

theorem trans (same : SameFor statements first second) (later : SameFor statements second third) :
    SameFor statements first third :=
  ⟨same.vfs.trans later.vfs, same.connection.trans later.connection,
    fun sql member => (same.bound sql member).trans (later.bound sql member),
    same.cache.trans later.cache, same.closed.trans later.closed,
    same.aborted.trans later.aborted, same.clock.trans later.clock,
    same.clockReads.trans later.clockReads⟩

theorem symm (same : SameFor statements first second) : SameFor statements second first :=
  ⟨⟨same.vfs.view.symm, same.vfs.files.symm, same.vfs.stores.symm, same.vfs.serial.symm⟩,
    same.connection.symm, fun sql member => (same.bound sql member).symm, same.cache.symm,
    same.closed.symm, same.aborted.symm, same.clock.symm, same.clockReads.symm⟩

theorem setVfs (same : SameFor statements first second) {here there : VfsState}
    (sameVfs : here.SameCore there) :
    SameFor statements (first.setVfs here) (second.setVfs there) :=
  { same with vfs := sameVfs }

theorem bind (same : SameFor statements first second) (sql : String) (parameters : Parameters) :
    SameFor statements
      { first with bound := Function.update first.bound sql parameters }
      { second with bound := Function.update second.bound sql parameters } := by
  refine { same with bound := fun other member => ?_ }
  by_cases here : other = sql
  · simp only [here, Function.update_self]
  · simp only [Function.update_of_ne here, same.bound other member]

end SameFor

abbrev EngineSteady (statements : String → Prop) (task : EngineTask κ α) : Prop :=
  Matches (SameFor statements) Eq task task

private theorem steady_rethrown {σ : Type} {related : σ → σ → Prop} {task : Task σ JsValue α}
    (steady : Matches related Eq task task) :
    Matches related Eq (rethrown task) (rethrown task) :=
  steady.catch fun _ => matches_throw _

namespace Database

variable {db : Database κ} {statements : String → Prop}

/-- A step that reads what related engines have in common. -/
theorem engineSteady_read {view : Engine κ → α}
    (common : ∀ first second, SameFor statements first second → view first = view second) :
    EngineSteady statements (Task.read view) :=
  matches_atomic fun first second same => ⟨.value (common first second same), same⟩

private theorem lookupCached_undisturbed (sql : String) :
    EngineSteady statements (lookupCached (κ := κ) sql) := by
  refine matches_atomic fun first second same => ?_
  simp only [same.closed, same.cache]
  split
  · exact ⟨.rejection _, same⟩
  · split
    · exact ⟨.value rfl, { same with cache := rfl, closed := rfl }⟩
    · exact ⟨.value rfl, same⟩

private theorem insert_undisturbed (sql : String) : EngineSteady statements (db.insert sql) := by
  refine matches_atomic fun first second same => ?_
  simp only [same.cache]
  exact ⟨.value rfl, { same with cache := rfl }⟩

section Reliable

variable (reliable : db.vfs.runtime.Reliable)

include reliable

private theorem answer_undisturbed (call : SqliteCall) : EngineSteady statements
    (db.answer call) := by
  cases call with
  | file call =>
      have native : VfsSteady (db.vfs.native call) :=
        steady_bind (ParaVFS.steady_perform reliable call) fun _ => matches_pure rfl
      exact native.zoom (fun _ _ same => same.vfs) fun _ _ _ _ same sameVfs => same.setVfs sameVfs
  | randomness bytes => exact matches_pure rfl
  | currentTime =>
      refine matches_atomic fun first second same => ?_
      simp only [same.clock, same.clockReads]
      exact ⟨.value rfl, { same with clock := rfl, clockReads := rfl }⟩

private theorem serve_undisturbed (program : Program α) : EngineSteady statements
    (db.serve program) := by
  induction program with
  | done value => exact matches_pure rfl
  | ask call next ih => exact steady_bind (answer_undisturbed reliable call) ih

theorem request_undisturbed (program : Request κ α) :
    EngineSteady statements (db.request program) := by
  refine steady_bind (engineSteady_read fun _ _ same => same.connection) fun connection =>
    steady_bind (serve_undisturbed reliable _) fun ended => ?_
  refine matches_atomic fun first second same => ⟨?_, { same with connection := rfl }⟩
  cases ended.1 with
  | ok value => exact .value rfl
  | error thrown => exact .rejection _

private theorem onHandle_undisturbed (sql : String) (program : Request κ α) :
    EngineSteady statements (db.onHandle sql program) :=
  steady_bind (matches_modify fun _ _ same =>
    { same with aborted := by simp only [same.aborted, same.cache] }) fun _ =>
      request_undisturbed reliable program

private theorem bind_undisturbed (sql : String) (parameters : Parameters) :
    EngineSteady statements (db.bind sql parameters) := by
  unfold bind
  split
  · exact matches_throw _
  · refine steady_bind (matches_modify fun _ _ same =>
      { same with aborted := by rw [same.aborted] }) fun _ => ?_
    exact steady_bind (onHandle_undisturbed reliable sql _) fun _ =>
      matches_modify fun _ _ same => same.bind sql _

private theorem runStatement_undisturbed {sql : String} (member : statements sql)
    (parameters : Parameters) : EngineSteady statements (db.runStatement sql parameters) := by
  refine Matches.ensure (steady_rethrown ?_) (onHandle_undisturbed reliable sql _)
  exact steady_bind (bind_undisturbed reliable sql parameters) fun _ =>
    steady_bind (engineSteady_read fun _ _ same => same.bound sql member) fun _ =>
      onHandle_undisturbed reliable sql _

private theorem exec_undisturbed (sql : String) : EngineSteady statements (db.exec sql) :=
  steady_rethrown (request_undisturbed reliable _)

private theorem close_undisturbed (sql : String) : EngineSteady statements (db.close sql) :=
  steady_rethrown (steady_bind (request_undisturbed reliable _) fun _ =>
    matches_modify fun _ _ same => { same with cache := congrArg (List.erase · sql) same.cache })

private theorem finalize_undisturbed (sql : String) : EngineSteady statements
    (db.finalize sql) := by
  refine steady_bind (engineSteady_read fun first second same => ?_) fun opened => ?_
  · simp only [same.cache]
  · cases opened with
    | true => exact close_undisturbed reliable sql
    | false => exact matches_pure rfl

theorem prepare_undisturbed (sql : String) : EngineSteady statements (db.prepare sql) := by
  refine steady_bind (lookupCached_undisturbed sql) fun cached => ?_
  cases cached with
  | true => exact matches_pure rfl
  | false =>
      refine steady_bind (steady_rethrown (request_undisturbed reliable _)) fun _ =>
        steady_bind (insert_undisturbed sql) fun oldest => ?_
      cases oldest with
      | none => exact matches_pure rfl
      | some other => exact finalize_undisturbed reliable other

end Reliable

/-! ### What `_apply` does -/

abbrev InstanceSteady (statements : String → Prop) (task : InstanceTask κ α) : Prop :=
  Matches (fun first second : Instance κ => SameFor statements first.engine second.engine) Eq
    task task

private theorem onEngine_undisturbed {task : EngineTask κ α}
    (steady : EngineSteady statements task) :
    InstanceSteady statements (onEngine task) :=
  steady.zoom (fun _ _ same => same) fun _ _ _ _ _ same => same

private theorem outcome_undisturbed {task : InstanceTask κ α}
    (steady : InstanceSteady statements task) :
    InstanceSteady statements task.outcome :=
  steady.outcome.mono fun _ _ => endsLike_eq.1

/-- A change of what lies beside the engine. -/
theorem modify_undisturbed {update : Instance κ → Instance κ}
    (kept : ∀ state, (update state).engine = state.engine) :
    InstanceSteady statements (Task.modify update) := by
  refine matches_modify fun first second same => ?_
  rw [kept, kept]
  exact same

private theorem switchTo_undisturbed (target : Option Nat) :
    InstanceSteady statements (switchTo (κ := κ) target) := by
  refine onEngine_undisturbed ?_
  have writes : VfsSteady (ParaVFS.write target) := by
    refine matches_atomic fun state other same => ?_
    simp only [same.files]
    split
    · exact ⟨.rejection _, same.record _ _⟩
    · exact ⟨.value rfl, { same with view := rfl }⟩
  exact writes.zoom (fun _ _ same => same.vfs) fun _ _ _ _ same sameVfs => same.setVfs sameVfs

def KnownStatement (statements : String → Prop) (progress : Progress) : Prop :=
  ∀ sql, progress.stmt = some sql → statements sql

theorem KnownStatement.count {progress : Progress} (known : KnownStatement statements progress)
    (result : Except JsValue RunResult) : KnownStatement statements (progress.count result) := by
  cases result <;> exact known

abbrev NodeSteady (statements : String → Prop) (task : InstanceTask κ Progress) : Prop :=
  Matches (fun first second : Instance κ => SameFor statements first.engine second.engine)
    (fun after other => after = other ∧ KnownStatement statements after) task task

def statementOf : Operation → Option String
  | .run sql _ => some sql
  | .stmt sql _ => some sql
  | _ => none

section Reliable

variable (reliable : db.vfs.runtime.Reliable)

include reliable

private theorem prepareAndRun_undisturbed {sql : String} (member : statements sql)
    (parameters : Parameters) : InstanceSteady statements (db.prepareAndRun sql parameters) := by
  refine steady_bind (outcome_undisturbed (onEngine_undisturbed (prepare_undisturbed reliable sql)))
    fun prepared => ?_
  cases prepared with
  | ok value =>
      exact steady_bind (outcome_undisturbed (onEngine_undisturbed
        (runStatement_undisturbed reliable member parameters))) fun _ => matches_pure rfl
  | error thrown => exact matches_pure rfl

private theorem applyRun_undisturbed (owner : Option CallId) (view : Nat) {sql : String}
    (member : statements sql) (parameters : Parameters) {progress : Progress}
    (known : KnownStatement statements progress) :
    NodeSteady statements (db.applyRun owner view sql parameters progress) := by
  refine (switchTo_undisturbed _).bind fun _ _ _ =>
    (prepareAndRun_undisturbed reliable member parameters).bind ?_
  rintro ⟨prepared, result⟩ _ rfl
  refine Matches.bind (modify_undisturbed fun _ => rfl) fun _ _ _ =>
    (switchTo_undisturbed _).bind fun _ _ _ => matches_pure ⟨rfl, ?_⟩
  cases prepared with
  | true =>
      intro other same
      cases same
      exact member
  | false => exact known

private theorem applyBatch_undisturbed (owner : Option CallId) (opens : Bool) (view : Nat)
    (parameters : Parameters) {progress : Progress} (known : KnownStatement statements progress) :
    NodeSteady statements (db.applyBatch owner opens view parameters progress) := by
  have runs : InstanceSteady statements (db.runOn progress.stmt parameters) := by
    cases prepared : progress.stmt with
    | none => exact matches_throw _
    | some sql =>
        exact onEngine_undisturbed (runStatement_undisturbed reliable (known sql prepared) _)
  refine (switchTo_undisturbed _).bind fun _ _ _ => (outcome_undisturbed runs).bind ?_
  rintro result _ rfl
  exact Matches.bind (modify_undisturbed fun _ => rfl) fun _ _ _ =>
    (switchTo_undisturbed _).bind fun _ _ _ => matches_pure ⟨rfl, known.count result⟩

private theorem prepareStmt_undisturbed (sql : String) :
    InstanceSteady statements (db.prepareStmt sql) := by
  refine steady_bind (outcome_undisturbed (onEngine_undisturbed (prepare_undisturbed reliable sql)))
    fun prepared => matches_atomic fun first second same =>
      ⟨?_, same.setVfs (same.vfs.record _ _)⟩
  cases prepared with
  | ok value => exact .value rfl
  | error thrown => exact .rejection _

omit reliable in
/-- Calls on the view and the host that do not fail. -/
theorem applyWriter_undisturbed (hosts : ∀ call, db.hostFault call = none) (call : HostCall) :
    InstanceSteady statements (db.applyWriter call) := by
  have called (call : HostCall) : InstanceSteady statements (db.callHost call) := by
    refine matches_atomic fun first second same => ?_
    rw [hosts, hosts]
    exact ⟨.value rfl, same⟩
  exact steady_bind (called .write) fun _ => steady_bind (called call) fun _ => called .flush

private theorem applyNode_undisturbed (hosts : ∀ call, db.hostFault call = none) (view : Nat)
    {node : Node} (named : ∀ sql, statementOf node.operation = some sql → statements sql)
    {progress : Progress}
    (known : KnownStatement statements progress) :
    NodeSteady statements (db.applyNode view node progress) := by
  have keeps {task : InstanceTask κ Unit} (steady : InstanceSteady statements task) :
      NodeSteady statements (do task; pure progress) :=
    steady.bind fun _ _ _ => matches_pure ⟨rfl, known⟩
  unfold applyNode
  generalize node.operation = operation at named
  cases operation with
  | writerAdd key => exact keeps (applyWriter_undisturbed hosts _)
  | writerDel key => exact keeps (applyWriter_undisturbed hosts _)
  | exec sql =>
      have executes : InstanceSteady statements (onEngine (db.exec sql)).outcome :=
        outcome_undisturbed (onEngine_undisturbed (exec_undisturbed reliable sql))
      exact keeps (steady_bind (switchTo_undisturbed _) fun _ => steady_bind executes fun _ =>
        steady_bind (modify_undisturbed fun _ => rfl) fun _ => switchTo_undisturbed _)
  | run sql parameters =>
      exact applyRun_undisturbed reliable _ view (named sql rfl) parameters known
  | stmt sql parameters =>
      refine (prepareStmt_undisturbed reliable sql).bind fun _ _ _ =>
        applyBatch_undisturbed reliable _ true view parameters fun other same => ?_
      cases same
      exact named sql rfl
  | batch parameters => exact applyBatch_undisturbed reliable _ false view parameters known
  | flush => exact keeps (modify_undisturbed fun _ => rfl)

private theorem apply_undisturbed (hosts : ∀ call, db.hostFault call = none) (view : Nat)
    {nodes : List Node}
    (named : ∀ node ∈ nodes, ∀ sql, statementOf node.operation = some sql → statements sql) :
    InstanceSteady statements (db.apply nodes view) := by
  have fromProgress {progress : Progress} (known : KnownStatement statements progress) :
      InstanceSteady statements (db.applyFrom view nodes progress) := by
    induction nodes generalizing progress with
    | nil => exact matches_pure rfl
    | cons node nodes ih =>
        refine (applyNode_undisturbed reliable hosts view (named node List.mem_cons_self)
          known).bind ?_
        rintro after _ ⟨rfl, knownAfter⟩
        exact ih (fun other member => named other (List.mem_cons_of_mem _ member)) knownAfter
  exact fromProgress fun sql impossible => by cases impossible

end Reliable

def Names (nodes : List Node) (sql : String) : Prop :=
  ∃ node ∈ nodes, statementOf node.operation = some sql

/-- A `get` or `iterate` that only looks at files, on another statement. -/
structure ReadsBeside (db : Database κ) (statements : String → Prop) (call : LocalCall) : Prop where
  reads : (∃ sql parameters, call = .get sql parameters) ∨
    ∃ sql parameters limit, call = .iterate sql parameters limit
  looks : db.sqlite.StatementAsks SqliteCall.looking call.sql
  apart : ¬statements call.sql

section Reads

variable {db : Database Unit} {statements : String → Prop} {sql : String}

abbrev Spares (statements : String → Prop) (task : EngineTask Unit α) : Prop :=
  Guarantees (SameFor statements) task

private theorem answer_spares {call : SqliteCall} (looks : call.looking) :
    Spares statements (db.answer call) := by
  cases call with
  | file call =>
      have moves : Guarantees (VfsMove db.vfs call.file call.looks) (db.vfs.native call) :=
        (db.vfs.perform_moves call).bind fun _ => guarantees_pure _
      refine (moves.zoom Engine.lawful_vfs).mono fun engine after step => ?_
      obtain ⟨move, rest⟩ := step
      have looking : call.looks = true := looks
      rw [looking] at move
      rw [rest]
      exact { SameFor.refl engine with vfs := move.sameCore }
  | randomness bytes => exact guarantees_pure _
  | currentTime => exact looks.elim

theorem request_spares {request : Request Unit α} (looks : request.Asks SqliteCall.looking) :
    Spares statements (db.request request) := by
  have serves {β : Type} {program : Program β} (asks : program.Asks SqliteCall.looking) :
      Spares statements (db.serve program) := by
    induction asks with
    | done value => exact guarantees_pure value
    | ask here _ ih => exact (answer_spares here).bind ih
  exact (guarantees_atomic fun engine => .refl engine).bind fun connection =>
    (serves (looks connection)).bind fun ended => guarantees_atomic fun engine =>
      { SameFor.refl engine with connection := rfl }

/-- On an open statement. -/
theorem localCall_spares {call : LocalCall} (beside : db.ReadsBeside statements call) :
    Guarantees (fun engine after => call.OnOpen engine → SameFor statements engine after)
      (db.localCall call) := by
  obtain ⟨reads, looks, apart⟩ := beside
  have still (engine : Engine Unit) :
      call.OnOpen engine → SameFor statements engine engine :=
    fun _ => .refl engine
  have spared {β : Type} {task : EngineTask Unit β} (spares : Spares statements task) :
      Guarantees (fun engine after => call.OnOpen engine → SameFor statements engine after) task :=
    spares.mono fun _ _ same _ => same
  have adjusts (engine : Engine Unit) (parameters : Parameters) :
      call.OnOpen engine → SameFor statements engine
        { engine with bound := Function.update engine.bound call.sql parameters } := by
    intro _
    have unchanged : SameFor statements engine engine := .refl engine
    refine { unchanged with bound := fun other member => ?_ }
    have different : other ≠ call.sql := fun here => apart (here ▸ member)
    exact (Function.update_of_ne different _ _).symm
  have handled {engine : Engine Unit} (opened : call.sql ∈ engine.cache) : SameFor statements engine
      { engine with aborted := engine.aborted || decide (call.sql ∉ engine.cache) } :=
    { SameFor.refl engine with
      aborted := by simp only [opened, not_true, decide_false, Bool.or_false] }
  have listed {engine : Engine Unit} {parameters : Parameters} (listed : parameters.Listed)
      (present : parameters.positional ≠ .null) : SameFor statements engine
        { engine with aborted := engine.aborted || !parameters.positional.isArray } :=
    { SameFor.refl engine with
      aborted := by simp only [listed.isArray present, Bool.not_true, Bool.or_false] }
  rcases reads with ⟨sql, parameters, rfl⟩ | ⟨sql, parameters, limit, rfl⟩
  · exact (get_guarantees still (guarantees_atomic fun _ opened => handled opened.1) adjusts
      (fun present => guarantees_atomic fun _ opened => listed opened.2 present)
      (spared (request_spares (looks.bind _)))
      (fun bound => spared (request_spares (looks.step bound)))
      (spared (request_spares looks.reset))).bind fun _ => guarantees_pure _
  · exact (iterate_guarantees still (guarantees_atomic fun _ opened => handled opened.1) adjusts
      (fun present => guarantees_atomic fun _ opened => listed opened.2 present)
      (spared (request_spares (looks.bind _)))
      (fun bound => spared (request_spares (looks.step bound)))
      (spared (request_spares looks.reset)) limit).bind fun _ => guarantees_pure _

/-- The callers go on, and other statements are read while they are open. -/
inductive ReadingBeside (db : Database Unit) (statements : String → Prop) :
    Instance Unit → Instance Unit → Prop where
  | call (state : Instance Unit) (next : Calls)
      (move : CallMove db.vfs.compressed state.calls next) :
      ReadingBeside db statements state { state with calls := next }
  | localStep (state : Instance Unit) (call : LocalCall)
      (beside : db.ReadsBeside statements call) (opened : call.OnOpen state.engine)
      {update : Engine Unit → Engine Unit} (makes : Task.Makes (db.localCall call) update) :
      ReadingBeside db statements state { state with engine := update state.engine }

private theorem readingBeside_unseen :
    Unseen (fun first second : Instance Unit => SameFor statements first.engine second.engine)
      (db.ReadingBeside statements) := by
  intro state moved other same move
  cases move with
  | call next step => exact same
  | localStep call beside opened makes =>
      exact ((localCall_spares beside).of_makes makes state.engine opened).symm.trans same

/-- A log that is applied while others only read ends as it does alone, in one call. -/
theorem applyGroups_undisturbed (reliable : db.vfs.runtime.Reliable)
    (hosts : ∀ call, db.hostFault call = none) {view : Nat} {groups : List (List Node)}
    (opens : ∀ group ∈ groups.tail, OpensBatches false group) {start final : Instance Unit}
    {result : Except JsValue Unit}
    (ran : RunUnder (db.ReadingBeside (Names groups.flatten)) (db.applyGroups view groups) start
      result final) :
    result = ((db.applyFrom view groups.flatten .initial).run start).1 ∧
      SameFor (Names groups.flatten)
        ((db.applyFrom view groups.flatten .initial).run start).2.engine final.engine := by
  -- Nothing that goes on meanwhile is seen.
  have steady : InstanceSteady (Names groups.flatten) (db.applyGroups view groups) :=
    matches_forEach fun group member => apply_undisturbed reliable hosts view
      fun node within sql isNamed => ⟨node, List.mem_flatten_of_mem member within, isNamed⟩
  obtain ⟨ends, same⟩ := steady.undisturbed readingBeside_unseen (.refl start.engine) ran
  -- The groups alone leave the pages that one call leaves.
  obtain ⟨endsWhole, alike⟩ := (matches_cut opens).alone (.refl start)
  rw [← alike.engine] at same
  exact ⟨(endsLike_eq.1 ends).trans (endsLike_eq.1 endsWhole).symm, same.symm⟩

end Reads

end Database
end ParaQL
