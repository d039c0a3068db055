/-
A flushed batch and the same runs one by one.

The STMT of a flush prepares before `_write` and then makes an attempt without
parameters, and every RUN prepares after `_write`.  From there on a BATCH and a RUN do the
same work.
-/

import ParaQL.OpenStatements
import ParaQL.OperationCodec

namespace ParaQL

open Async Async.Task Bytes

/-- What `_apply` finds for a call after `Operation.encode` and `Operation.decode`. -/
def OplogCall.decodedNodes (c : Primitives ParameterField) (allocator : Allocator) (id : CallId)
    (call : OplogCall) : List Node :=
  (call.objects.filterMap fun object =>
    (Operation.encode c allocator object >>= Operation.decode c).toOption.bind
      OperationObject.operation?).map fun operation => ⟨some id, operation⟩

private theorem OplogCall.decodedNodes_eq {c : Primitives ParameterField} {allocator : Allocator}
    {call : OplogCall} (id : CallId)
    (carried : ∀ object ∈ call.objects, object.Carried c .null) :
    call.decodedNodes c allocator id = call.nodes id := by
  have decoded := congrArg (List.filterMap fun found => found)
    (call.operations_decoded c allocator carried)
  simp only [List.filterMap_map, Function.comp_def] at decoded
  rw [OplogCall.decodedNodes, decoded, OplogCall.nodes]
  congr 1
  exact List.filterMap_some

def Completion.succeeded (completion : Completion) : Bool :=
  match completion.own with
  | .ran _ => true
  | _ => false

private theorem succeeded_ofRun (owner interactive : Option CallId)
    (result : Except JsValue RunResult)
    (given : Settlement) :
    Completion.succeeded
      { owner := owner, own := .ofRun result, given := given, interactive := interactive } =
        result.isOk := by
  cases result <;> rfl

/-! ### The two states between two operations -/

structure Apart {κ : Type} (first second : Engine κ) : Prop where
  files : first.vfs.files = second.vfs.files
  stores : first.vfs.stores = second.vfs.stores
  serial : first.vfs.serial = second.vfs.serial
  connection : first.connection = second.connection

theorem SameWork.apart {κ : Type} {first second : Engine κ} (same : SameWork first second) :
    Apart first second :=
  ⟨same.vfs.files, same.vfs.stores, same.vfs.serial, same.connection⟩

namespace Apart

variable {κ : Type} {first second third : Engine κ}

theorem symm (apart : Apart first second) : Apart second first :=
  ⟨apart.files.symm, apart.stores.symm, apart.serial.symm, apart.connection.symm⟩

theorem trans (apart : Apart first second) (later : Apart second third) : Apart first third :=
  ⟨apart.files.trans later.files, apart.stores.trans later.stores,
    apart.serial.trans later.serial, apart.connection.trans later.connection⟩

end Apart

structure Recorded (id : CallId) (seen : Nat) (first second : Calls) : Prop where
  opened : first.attempts id ≠ []
  started : seen ≤ second.completions.length
  results : (first.queued id).map Except.isOk =
    (second.completions.drop seen).map Completion.succeeded

theorem Recorded.ran {id : CallId} {seen : Nat} {first second : Calls}
    (recorded : Recorded id seen first second) (result : Except JsValue RunResult) :
    Recorded id seen (first.attempt (some id) false result)
      (second.complete (some id) (.ofRun result) (.ofRun result)) := by
  have attempts : (first.attempt (some id) false result).attempts id =
      first.attempts id ++ [result] := by
    simp [Calls.attempt]
  refine ⟨?_, ?_, ?_⟩
  · rw [attempts]
    exact List.append_ne_nil_of_left_ne_nil recorded.opened _
  · exact recorded.started.trans ((List.prefix_append _ _).length_le)
  · unfold Calls.queued
    rw [attempts, List.tail_append_of_ne_nil recorded.opened, List.map_append]
    simp only [Calls.complete]
    rw [List.drop_append_of_le_length recorded.started, List.map_append]
    congr 1
    · exact recorded.results
    · exact congrArg (fun one => [one]) (succeeded_ofRun _ _ _ _).symm

theorem Recorded.flushed {id : CallId} {seen : Nat} {first second : Calls}
    (recorded : Recorded id seen first second) (own given : Settlement) :
    Recorded id seen (first.complete (some id) own given) second := by
  have attempts : (first.complete (some id) own given).attempts = first.attempts :=
    (first.settle_rest given).2.2
  refine ⟨?_, recorded.started, ?_⟩
  · rw [attempts]
    exact recorded.opened
  · unfold Calls.queued
    rw [attempts]
    exact recorded.results

namespace Database

variable {κ : Type}

def PreparesIn (db : Database κ) (view : Nat) (sql : String) (state : Instance κ) : Prop :=
  ∃ switched, (switchTo (some view)).run state = (.ok (), switched) ∧ db.Opens sql switched

/-- Both groups leave the same pages of the view, and the runs that were made have the same
outcomes, one by one. -/
def SameMeaning (db : Database κ) (id : CallId) (view : Nat) (flushed ran : List Node)
    (state : Instance κ) : Prop :=
  db.mainPages view (db.applyAlone flushed view state).after =
      db.mainPages view (db.applyAlone ran view state).after ∧
    ((db.applyAlone flushed view state).after.calls.queued id).map Except.isOk =
      ((db.applyAlone ran view state).after.calls.completions.drop
        state.calls.completions.length).map Completion.succeeded

variable {db : Database κ}

/-! ### One operation -/

private theorem mainPages_apart {first second : Instance κ}
    (apart : Apart first.engine second.engine)
    (view : Nat) : db.mainPages view first = db.mainPages view second :=
  congrArg (fun stores => stores (.view (.applied view)) db.vfs.name) apart.stores

structure Level (id : CallId) (seen : Nat) (first second : Instance κ) : Prop where
  apart : Apart first.engine second.engine
  recorded : Recorded id seen first.calls second.calls

structure Inside (id : CallId) (seen : Nat) (first second : Instance κ) : Prop where
  same : SameWork first.engine second.engine
  recorded : Recorded id seen first.calls second.calls

theorem Inside.level {id : CallId} {seen : Nat} {first second : Instance κ}
    (inside : Inside id seen first second) : Level id seen first second :=
  ⟨inside.same.apart, inside.recorded⟩

private theorem related_switchTo (id : CallId) (seen : Nat) (target : Option Nat) :
    Related (Level id seen) (Level id seen) (switchTo (κ := κ) target) (switchTo target)
      (fun _ _ => Inside id seen) := by
  intro first second level
  have files := level.apart.files
  rw [run_switchTo, run_switchTo]
  simp only [← files]
  split
  · exact ⟨rfl, ⟨files, level.apart.stores, level.apart.serial, level.apart.connection⟩,
      level.recorded⟩
  · exact ⟨⟨⟨rfl, files, level.apart.stores, level.apart.serial⟩, level.apart.connection⟩,
      level.recorded⟩

def Preparable (db : Database κ) (view : Nat) (sql : String) (state : Instance κ) : Prop :=
  ∀ switched, (switchTo (some view)).run state = (.ok (), switched) → db.Opens sql switched

theorem PreparesIn.preparable {view : Nat} {sql : String} {state : Instance κ}
    (prepares : db.PreparesIn view sql state) : db.Preparable view sql state := by
  intro switched ran
  obtain ⟨other, same, known⟩ := prepares
  rw [same] at ran
  cases ran
  exact known

private theorem flushed_of_switchTo {target : Option Nat} {state after : Instance κ}
    (ran : (switchTo target).run state = (.ok (), after)) :
    state.engine.vfs.files.keys.card = 0 := by
  rw [run_switchTo] at ran
  by_contra pending
  simp only [if_pos (pending : state.engine.vfs.files.keys.card ≠ 0)] at ran
  cases ran

private theorem switchTo_keeps {target : Option Nat} {state after : Instance κ}
    (ran : (switchTo target).run state = (.ok (), after)) :
    KeepsStatements state.engine after.engine ∧ after.calls = state.calls := by
  rw [run_switchTo] at ran
  simp only at ran
  split at ran
  · cases ran
  · cases ran
    exact ⟨⟨rfl, rfl⟩, rfl⟩

theorem Open.preparable {view : Nat} {sql : String} {state : Instance κ}
    (opened : Open sql state.engine) : db.Preparable view sql state := by
  intro switched ran
  obtain ⟨⟨closed, cache⟩, _⟩ := switchTo_keeps ran
  unfold Opens Prepares
  rw [run_onEngine]
  exact prepare_open ⟨closed.trans opened.1, cache ▸ opened.2⟩

theorem Open.keeps {sql : String} {engine after : Engine κ}
    (step : KeepsStatements engine after) (opened : Open sql engine) : Open sql after :=
  ⟨step.1.trans opened.1, step.2 ▸ opened.2⟩

/-- What is left of a BATCH and of a RUN once their statement is there. -/
theorem related_ran (reliable : db.vfs.runtime.Reliable) (reads : db.sqlite.ReadsPages)
    (id : CallId) (seen : Nat) (sql : String) (parameters : Parameters)
    (progress counterpart : Except JsValue RunResult → Progress) :
    Related (Level id seen)
      (fun first second : Instance κ => Inside id seen first second ∧ Open sql second.engine)
      (do let result ← (onEngine (db.runStatement sql parameters)).outcome
          Task.modify fun state =>
            { state with calls := state.calls.attempt (some id) false result }
          switchTo none
          pure (progress result))
      (do let result ← (onEngine (db.runStatement sql parameters)).outcome
          complete (some id) (.ofRun result) (.ofRun result)
          switchTo none
          pure (counterpart result))
      (fun after _ first second => (∃ result, after = progress result) ∧
        Level id seen first second ∧ Open sql second.engine) := by
  have runs : Related (Level id seen)
      (fun first second : Instance κ => Inside id seen first second ∧ Open sql second.engine)
      (onEngine (db.runStatement sql parameters)).outcome
      (onEngine (db.runStatement sql parameters)).outcome
      (fun value result first second => value = result ∧ Inside id seen first second ∧
        Open sql second.engine) := by
    rintro first second ⟨inside, opened⟩
    obtain ⟨sameResult, same⟩ :=
      (sameWork_runStatement reliable reads sql parameters).agrees inside.same
    rw [run_outcome, run_outcome, run_onEngine, run_onEngine]
    exact ⟨sameResult, ⟨same, inside.recorded⟩,
      (runStatement_keepsStatements sql parameters).run_keeps (fun _ _ => Open.keeps) opened⟩
  have leaves : Related (Level id seen)
      (fun first second : Instance κ => Inside id seen first second ∧ Open sql second.engine)
      (switchTo none) (switchTo none)
      (fun _ _ first second => Level id seen first second ∧ Open sql second.engine) := by
    refine ((related_switchTo id seen none).mono (fun _ _ known => known.1.level)
      (fun _ _ level => level) fun _ _ _ _ inside => inside.level).reached.mono
      (fun _ _ known => known) (fun _ _ level => level) ?_
    rintro _ _ first second ⟨level, _, before, known, _, ran⟩
    exact ⟨level, Open.keeps (switchTo_keeps ran).1 known.2⟩
  refine runs.bindSame fun result => ?_
  refine Related.bind (?_ : Related _ _ _ _ fun _ _ first second =>
    Inside id seen first second ∧ Open sql second.engine) fun _ _ => ?_
  · rintro first second ⟨inside, opened⟩
    exact ⟨⟨inside.same, inside.recorded.ran result⟩, opened⟩
  · exact leaves.bind fun _ _ => related_pure _ _ fun _ _ known => ⟨⟨result, rfl⟩, known⟩

section Reads

variable {db : Database Unit} (reliable : db.vfs.runtime.Reliable) (reads : db.sqlite.ReadsPages)

include reads in
private theorem prepare_sameWork (sql : String) (engine : Engine Unit) :
    SameWork engine ((db.prepare sql).run engine).2 :=
  ⟨looks_sameCore (prepare_steps (reads.prepare sql) reads.finalize) engine, rfl⟩

include reliable reads

private theorem related_node {id : CallId} {seen view : Nat} {sql : String}
    (parameters : Parameters)
    {progress : Progress} (counterpart : Progress) (prepared : progress.stmt = some sql) :
    Related (Level id seen)
      (fun first second => Level id seen first second ∧ db.Preparable view sql second)
      (db.applyNode view ⟨some id, .batch parameters⟩ progress)
      (db.applyNode view ⟨some id, .run sql parameters⟩ counterpart)
      (fun after _ first second => after.stmt = some sql ∧ Level id seen first second ∧
        db.Preparable view sql second) := by
  have enters : Related (Level id seen)
      (fun first second => Level id seen first second ∧ db.Preparable view sql second)
      (switchTo (some view)) (switchTo (some view))
      (fun _ _ first second => Inside id seen first second ∧ db.Opens sql second) := by
    refine ((related_switchTo id seen (some view)).mono (fun _ _ known => known.1)
      (fun _ _ level => level) fun _ _ _ _ inside => inside).reached.mono
      (fun _ _ known => known) (fun _ _ level => level) ?_
    rintro _ _ first second ⟨inside, _, before, known, _, ran⟩
    exact ⟨inside, known.2 second ran⟩
  refine enters.bind fun _ _ => ?_
  rw [prepared]
  refine ((related_ran reliable reads id seen sql parameters progress.count fun _ =>
    { counterpart with stmt := some sql }).afterStart ?_).mono (fun _ _ known => known)
      (fun _ _ level => level) ?_
  · rintro first second ⟨inside, prepares, cached⟩
    have same := prepare_sameWork reads sql second.engine
    unfold Prepares at prepares
    rw [run_onEngine] at prepares cached
    have opened : Open sql ((db.prepare sql).run second.engine).2 :=
      ⟨prepare_opens prepares, cached⟩
    have ran := run_onEngine (db.prepare sql) second
    generalize (db.prepare sql).run second.engine = outcome at prepares same opened ran
    obtain ⟨result, engine⟩ := outcome
    subst prepares
    refine ⟨second.setEngine engine, ?_, ⟨inside.same.trans same, inside.recorded⟩, opened⟩
    simp only [prepareAndRun, run_bind, run_outcome, ran, andThen_ok, run_pure, if_true]
  · rintro after _ first second ⟨⟨result, rfl⟩, level, opened⟩
    refine ⟨?_, level, opened.preparable⟩
    cases result <;> exact prepared

/-- From the first BATCH on, a flush does what the runs do. -/
theorem related_group {id : CallId} {seen view : Nat} {sql : String}
    (operations : List Parameters) {progress : Progress} (counterpart : Progress)
    (prepared : progress.stmt = some sql) :
    Related (Level id seen)
      (fun first second => Level id seen first second ∧ db.Preparable view sql second)
      (db.applyFrom view
        (operations.map (fun parameters => ⟨some id, .batch parameters⟩) ++ [⟨some id, .flush⟩])
        progress)
      (db.applyFrom view (operations.map fun parameters => ⟨some id, .run sql parameters⟩)
        counterpart)
      (fun _ _ => Level id seen) := by
  induction operations generalizing progress counterpart with
  | nil =>
      rintro first second ⟨level, _⟩
      exact ⟨level.apart, level.recorded.flushed _ _⟩
  | cons parameters operations ih =>
      refine (related_node reliable reads parameters counterpart prepared).bind
        fun after other => ?_
      rintro first second ⟨stillPrepared, known⟩
      exact ih other stillPrepared first second known

end Reads

section Stmt

variable {db : Database Unit} (reads : db.sqlite.ReadsPages)

private theorem run_switchTo_flushed (target : Option Nat) {state : Instance Unit}
    (flushed : state.engine.vfs.files.keys.card = 0) :
    ∃ after, (switchTo target).run state = (.ok (), after) ∧ after.calls = state.calls ∧
      Apart state.engine after.engine := by
  rw [run_switchTo]
  simp only [flushed]
  exact ⟨_, rfl, rfl, rfl, rfl, rfl, rfl⟩

include reads

private theorem run_prepareStmt (sql : String) (state : Instance Unit) :
    ∃ result after, (db.prepareStmt sql).run state = (result, after) ∧
      (result = .ok () ↔ db.Prepares sql state) ∧ after.calls = state.calls ∧
      Apart state.engine after.engine := by
  have same := (prepare_sameWork reads sql state.engine).apart
  unfold prepareStmt Prepares
  rw [run_bind, run_outcome, run_onEngine]
  generalize (db.prepare sql).run state.engine = outcome at same ⊢
  obtain ⟨prepared, engine⟩ := outcome
  cases prepared with
  | ok value =>
      exact ⟨_, _, rfl, iff_of_true rfl rfl, rfl, same.files, same.stores, same.serial, rfl⟩
  | error thrown =>
      exact ⟨_, _, rfl, iff_of_false (fun impossible => by cases impossible)
        (fun impossible => by cases impossible), rfl, same.files, same.stores, same.serial, rfl⟩

/-- A STMT that could be prepared opens the attempts of its call, and nothing else. -/
theorem run_stmt {id : CallId} {view : Nat} {sql : String} {state : Instance Unit}
    (prepares : db.Prepares sql state) (flushed : state.engine.vfs.files.keys.card = 0) :
    ∃ progress after,
      (db.applyNode view ⟨some id, .stmt sql .absent⟩ .initial).run state =
        (.ok progress, after) ∧ progress.stmt = some sql ∧
      Level id state.calls.completions.length after state := by
  obtain ⟨result, prepared, ran, ok, sameCalls, apart⟩ := run_prepareStmt reads sql state
  obtain rfl := ok.2 prepares
  have preparedFlushed : prepared.engine.vfs.files.keys.card = 0 := apart.files ▸ flushed
  obtain ⟨entered, enters, enteredCalls, enteredApart⟩ :=
    run_switchTo_flushed (some view) preparedFlushed
  obtain ⟨thrown, engine, fails, same⟩ := run_runStatement_absent reads sql entered.engine
  let attempted : Instance Unit :=
    { entered.setEngine engine with
      calls := entered.calls.attempt (some id) true (.error thrown) }
  have attemptedApart : Apart state.engine attempted.engine :=
    (apart.trans enteredApart).trans ⟨same.files, same.stores, same.serial, rfl⟩
  have attemptedFlushed : attempted.engine.vfs.files.keys.card = 0 :=
    attemptedApart.files ▸ flushed
  obtain ⟨left, leaves, leftCalls, leftApart⟩ := run_switchTo_flushed none attemptedFlushed
  have attempts : left.calls.attempts id = [.error thrown] := by
    rw [leftCalls]
    exact Function.update_self _ _ _
  refine ⟨Progress.count { Progress.initial with stmt := some sql } (.error thrown), left, ?_, rfl,
    ⟨(attemptedApart.trans leftApart).symm, ⟨?_, ?_, ?_⟩⟩⟩
  · simp only [applyNode, applyBatch, runOn, run_bind, ran, andThen_ok, enters, run_outcome,
      run_onEngine, fails, run_modify]
    exact congrArg (fun outcome => andThen outcome _) leaves
  · rw [attempts]
    exact List.cons_ne_nil _ _
  · exact le_rfl
  · unfold Calls.queued
    rw [attempts, List.drop_length]
    rfl

end Stmt

def Grows (state after : Instance κ) : Prop :=
  state.calls.completions.length ≤ after.calls.completions.length

private theorem onEngine_grows {α : Type} (task : EngineTask κ α) : Guarantees Grows
    (onEngine task) :=
  ((guarantees_any task).zoom Instance.lawful_engine).mono fun state after step => by
    rw [step.2]
    exact Nat.le_refl state.calls.completions.length

private theorem applyRun_grows (owner : Option CallId) (view : Nat) (sql : String)
    (parameters : Parameters) (progress : Progress) :
    Guarantees Grows (db.applyRun owner view sql parameters progress) := by
  have ran : Guarantees Grows (db.prepareAndRun sql parameters) := by
    refine (onEngine_grows _).outcome.bind fun prepared => ?_
    cases prepared with
    | ok value => exact (onEngine_grows _).outcome.bind fun _ => guarantees_pure _
    | error thrown => exact guarantees_pure _
  refine (onEngine_grows _).bind fun _ => ran.bind fun result => Guarantees.bind ?_ fun _ =>
    (onEngine_grows _).bind fun _ => guarantees_pure _
  exact guarantees_atomic fun state => (List.prefix_append _ _).length_le

private theorem applyRuns_grow (id : CallId) (view : Nat) (sql : String)
    (operations : List Parameters)
    (progress : Progress) :
    Guarantees Grows
      (db.applyFrom view (operations.map fun parameters => ⟨some id, .run sql parameters⟩)
        progress) := by
  induction operations generalizing progress with
  | nil => exact guarantees_pure ()
  | cons parameters operations ih =>
      exact (applyRun_grows (some id) view sql parameters progress).bind ih

private theorem run_prepareAndRun (sql : String) (parameters : Parameters) (state : Instance κ) :
    ∃ value engine, (db.prepareAndRun sql parameters).run state =
      (.ok value, state.setEngine engine) := by
  unfold prepareAndRun
  rw [run_bind, run_outcome, run_onEngine, andThen_ok]
  rcases (db.prepare sql).run state.engine with ⟨prepared, engine⟩
  cases prepared with
  | ok value =>
      simp only [run_bind, run_outcome, run_onEngine, andThen_ok, run_pure]
      exact ⟨_, _, rfl⟩
  | error thrown => exact ⟨_, engine, rfl⟩

/-- Where a view can be applied, the first of the runs completes. -/
theorem applyRuns_complete {id : CallId} {view : Nat} {sql : String} {parameters : Parameters}
    {operations : List Parameters} {progress : Progress} {state switched : Instance κ}
    (switches : (switchTo (some view)).run state = (.ok (), switched)) :
    state.calls.completions.length <
      ((db.applyFrom view ((parameters :: operations).map fun parameters =>
        ⟨some id, .run sql parameters⟩) progress).run state).2.calls.completions.length := by
  obtain ⟨⟨prepared, result⟩, engine, ran⟩ := db.run_prepareAndRun sql parameters switched
  let completed : Instance κ :=
    { switched.setEngine engine with
      calls := switched.calls.complete (some id) (.ofRun result) (.ofRun result) }
  let rest : InstanceTask κ Unit := do
    switchTo none
    db.applyFrom view (operations.map fun parameters => ⟨some id, .run sql parameters⟩)
      (if prepared then { progress with stmt := some sql } else progress)
  have runs : (db.applyFrom view ((parameters :: operations).map fun parameters =>
      ⟨some id, .run sql parameters⟩) progress).run state = rest.run completed := by
    simp only [List.map_cons, applyFrom, applyNode, applyRun, run_bind, switches, ran, andThen_ok,
      complete, run_modify]
    change andThen (andThen ((switchTo none).run completed) _) _ =
      (switchTo none >>= fun _ => db.applyFrom _ _ _).run completed
    rw [run_bind]
    generalize (switchTo none).run completed = outcome
    obtain ⟨left, after⟩ := outcome
    cases left <;> rfl
  have more : state.calls.completions.length < completed.calls.completions.length := by
    rw [← (switchTo_keeps switches).2]
    simp only [completed, Calls.complete, List.length_append, List.length_singleton]
    exact Nat.lt_succ_self _
  have grows : Guarantees Grows rest :=
    (onEngine_grows _).bind fun _ => applyRuns_grow id view sql operations _
  rw [runs]
  exact grows.run_keeps (fun _ _ grown more => Nat.lt_of_lt_of_le more grown) more

private theorem flush_nodes (id : CallId) (sql : String) (operations : List Parameters) :
    (OplogCall.flush sql operations).nodes id = ⟨some id, .stmt sql .absent⟩ ::
      (operations.map (fun parameters => ⟨some id, .batch parameters⟩) ++
        [⟨some id, .flush⟩]) := by
  simp [OplogCall.nodes, OplogCall.operations]

private theorem runs_nodes (id : CallId) (sql : String) (operations : List Parameters) :
    (operations.flatMap fun parameters => (OplogCall.run sql parameters).nodes id) =
      operations.map fun parameters => ⟨some id, .run sql parameters⟩ :=
  List.map_eq_flatMap.symm

section Groups

variable {db : Database Unit} (reads : db.sqlite.ReadsPages)

include reads

private theorem sameMeaning_of_prepares (reliable : db.vfs.runtime.Reliable) {id : CallId}
    {view : Nat}
    {sql : String} (operations : List Parameters) {state : Instance Unit}
    (prepares : db.PreparesIn view sql state) (prepared : db.Prepares sql state) :
    db.SameMeaning id view ((OplogCall.flush sql operations).nodes id)
      (operations.flatMap fun parameters => (OplogCall.run sql parameters).nodes id) state := by
  have ⟨switched, switches, _⟩ := prepares
  obtain ⟨progress, opened, ran, stmt, level⟩ :=
    run_stmt reads prepared (flushed_of_switchTo switches)
  have begins : (db.apply ((OplogCall.flush sql operations).nodes id) view).run state =
      (db.applyFrom view
        (operations.map (fun parameters => ⟨some id, .batch parameters⟩) ++ [⟨some id, .flush⟩])
        progress).run opened := by
    rw [flush_nodes, apply, applyFrom, run_bind, ran, andThen_ok]
  have ends := (related_group reliable reads operations .initial stmt).always
    ⟨level, prepares.preparable⟩
  unfold SameMeaning applyAlone
  rw [begins, runs_nodes]
  exact ⟨mainPages_apart ends.apart view, ends.recorded.results⟩

/-- After a STMT that could not be prepared, nothing else of the flush is done. -/
theorem sameMeaning_of_unprepared {id : CallId} {view : Nat}
    {sql : String} (operations : List Parameters) {state : Instance Unit}
    (fresh : state.calls.attempts id = [])
    (prepares : db.PreparesIn view sql state) (unprepared : ¬db.Prepares sql state) :
    db.SameMeaning id view ((OplogCall.flush sql operations).nodes id)
      (operations.flatMap fun parameters => (OplogCall.run sql parameters).nodes id) state ↔
        operations = [] := by
  obtain ⟨result, after, ran, ok, sameCalls, apart⟩ := run_prepareStmt reads sql state
  have ends : ((db.apply ((OplogCall.flush sql operations).nodes id) view).run state).2 =
      after := by
    rw [flush_nodes, apply, applyFrom, applyNode]
    cases result with
    | ok value => exact absurd (ok.1 rfl) unprepared
    | error thrown => simp only [run_bind, ran, andThen_error]
  have unmade : (after.calls.queued id).map Except.isOk = [] := by
    unfold Calls.queued
    rw [sameCalls, fresh]
    rfl
  unfold SameMeaning applyAlone
  rw [ends, runs_nodes, unmade]
  cases operations with
  | nil => exact iff_of_true ⟨mainPages_apart apart.symm view, by simp [apply, applyFrom]⟩ rfl
  | cons parameters operations =>
      obtain ⟨switched, switches, _⟩ := prepares
      have completes : state.calls.completions.length <
          ((db.apply ((parameters :: operations).map fun parameters =>
            ⟨some id, .run sql parameters⟩) view).run state).2.calls.completions.length :=
        applyRuns_complete switches
      refine iff_of_false ?_ (List.cons_ne_nil _ _)
      rintro ⟨_, results⟩
      have none_made := congrArg List.length results
      simp only [List.length_nil, List.length_map, List.length_drop] at none_made
      exact absurd completes (Nat.not_lt.2 (Nat.sub_eq_zero_iff_le.1 none_made.symm))

end Groups

def FlushesAsRuns (db : Database Unit) : Prop :=
  ∀ (c : Primitives ParameterField) (allocator : Allocator) (id : CallId) (view : Nat)
    (sql : String) (operations : List Parameters) (state : Instance Unit),
    (∀ call ∈ .flush sql operations :: operations.map (OplogCall.run sql),
      ∀ object ∈ call.objects, object.Carried c .null) →
    state.calls.attempts id = [] → db.PreparesIn view sql state →
      db.SameMeaning id view ((OplogCall.flush sql operations).decodedNodes c allocator id)
        (operations.flatMap fun parameters =>
          (OplogCall.run sql parameters).decodedNodes c allocator id) state

/-- The STMT of a flush prepares before `_write`.  Where that works too, or where nothing
is queued, the flush means the same as its runs, and nowhere else. -/
theorem sameMeaning_iff (db : Database Unit) (reliable : db.vfs.runtime.Reliable)
    (reads : db.sqlite.ReadsPages) (c : Primitives ParameterField) (allocator : Allocator)
    (id : CallId) (view : Nat) (sql : String) (operations : List Parameters)
    (state : Instance Unit)
    (carried : ∀ call ∈ .flush sql operations :: operations.map (OplogCall.run sql),
      ∀ object ∈ call.objects, object.Carried c .null)
    (fresh : state.calls.attempts id = []) (prepares : db.PreparesIn view sql state) :
    db.SameMeaning id view ((OplogCall.flush sql operations).decodedNodes c allocator id)
      (operations.flatMap fun parameters =>
        (OplogCall.run sql parameters).decodedNodes c allocator id) state ↔
      operations = [] ∨ db.Prepares sql state := by
  have flushed : (OplogCall.flush sql operations).decodedNodes c allocator id = _ :=
    OplogCall.decodedNodes_eq id (carried _ List.mem_cons_self)
  have ran : (operations.flatMap fun parameters =>
      (OplogCall.run sql parameters).decodedNodes c allocator id) =
        operations.flatMap fun parameters => (OplogCall.run sql parameters).nodes id :=
    List.flatMap_congr fun parameters queued => OplogCall.decodedNodes_eq id
      (carried _ (List.mem_cons_of_mem _ (List.mem_map_of_mem queued)))
  rw [flushed, ran]
  by_cases prepared : db.Prepares sql state
  · exact iff_of_true (sameMeaning_of_prepares reads reliable operations prepares prepared)
      (Or.inr prepared)
  · rw [sameMeaning_of_unprepared reads operations fresh prepares prepared]
    exact (or_iff_left prepared).symm

def tableSqlite : Sqlite Unit :=
  { Sqlite.idle Unit with
    prepare := fun _ connection => .ask (.file (.xSize openPath)) fun reply =>
      .done (if reply.value = .number 0 then
          .error { name := "Error", code := some "ERROR", message := "no such table: t" }
        else .ok (), connection)
    run := fun _ _ =>
      .calls { changes := 1, lastInsertRowid := 1 } [.xWrite openPath [7] 0, .xSync openPath] }

private theorem tableSqlite_readsPages : tableSqlite.ReadsPages where
  prepare _ _ := .ask rfl fun _ => .done _
  reset _ _ := .done _
  finalize _ _ := .done _
  bind _ _ _ := .done _
  run _ _ _ := .ask trivial fun _ => .ask trivial fun _ => .done _

def tableIn (stores : List StoreRef) : Instance Unit :=
  .opened (fun ref => if ref ∈ stores then fun _ => Finmap.singleton 0 [1] else fun _ => ∅)
    (fun _ => 0) ()

def insertRow : String := "INSERT INTO t VALUES (1)"

def noParameters : Parameters := { named := .null, positional := .list [] }

private theorem insertRow_carried :
    ∀ call ∈ .flush insertRow [noParameters] :: [noParameters].map (OplogCall.run insertRow),
      ∀ object ∈ call.objects, object.Carried Primitives.fields .null := by
  have simple : ∀ call ∈
      .flush insertRow [noParameters] :: [noParameters].map (OplogCall.run insertRow),
      ∀ object ∈ call.objects, (object.type ∈ OPERATION.types ∧ object.type < 256) ∧
        ¬OPERATION.usesKey object.type ∧
        (OPERATION.usesSql object.type → object.sql = some insertRow) ∧
        ∀ field ∈ [object.named, object.positional],
          field ∈ [none, some .null, some (.list []), some (.list [.integer 7])] := by
    decide +kernel
  intro call member object within
  obtain ⟨known, keyless, sql, fields⟩ := simple call member object within
  exact Primitives.carried_fields known (fun uses => absurd uses keyless)
    (fun uses => ⟨insertRow, sql uses, by decide, by decide⟩) fields

theorem sameMeaning_iff_bothTables :
    (sample tableSqlite).SameMeaning 7 0
      ((OplogCall.flush insertRow [noParameters]).decodedNodes Primitives.fields .zeroed 7)
      ([noParameters].flatMap fun parameters =>
        (OplogCall.run insertRow parameters).decodedNodes Primitives.fields .zeroed 7)
      (tableIn [.view .bee, .view (.applied 0)]) :=
  (sameMeaning_iff (sample tableSqlite) Runtime.copying_reliable tableSqlite_readsPages
    Primitives.fields .zeroed 7 0 insertRow [noParameters]
    (tableIn [.view .bee, .view (.applied 0)]) insertRow_carried rfl
    ⟨_, rfl, by decide +kernel⟩).2 (Or.inr (by decide +kernel))

/-- The view has the table and `bee.view` has not: the run inserts its row, and the flush
throws at its STMT. -/
theorem flushesAsRuns_newTable_fails : ¬(sample tableSqlite).FlushesAsRuns := by
  intro means
  obtain ⟨_, results⟩ := means Primitives.fields .zeroed 7 0 insertRow [noParameters]
    (tableIn [.view (.applied 0)]) insertRow_carried rfl
    ⟨_, rfl, by decide +kernel⟩
  revert results
  decide +kernel

end Database
end ParaQL
