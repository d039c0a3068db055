/-
Calls that share a prepared statement.

`ParaQL.prepare` gives all callers of one SQL text the same statement.  A call on it is
a row of tasks, on a worker (parse, bind, step or run, reset) or on the main thread
(the matching of parameters), and others may come between two of them.
-/

import ParaQL.Async.Interference
import ParaQL.Oplog

namespace ParaQL

open Async Async.Task Relation

inductive StepReport where
  | row (row : Row)
  | done
  | failed (thrown : JsValue)
  deriving DecidableEq, Repr

/-- What SQLite does with one statement, given the state of its connection. -/
structure Prepared (δ χ : Type) where
  parameterCount : Nat
  -- `paraql__on_after_parse`: the value of each placeholder.  It depends on the names of the
  -- statement, and on the lists that the call was given.
  matching : Parameters → Except JsValue (List SqlValue)
  matching_length : ∀ {parameters values}, matching parameters = .ok values →
    values.length = parameterCount
  refuses : Nat → SqlValue → Option JsValue
  misuse : JsValue
  begin : List SqlValue → χ
  advance : χ → δ → StepReport × χ × δ
  result : δ → RunResult

/-- The states of a statement that `sqlite3_bind_*` and `sqlite3_step` tell apart. -/
inductive Execution (χ : Type) where
  | ready
  | running (cursor : χ)
  | halted

structure Statement (χ : Type) where
  bound : List SqlValue
  execution : Execution χ

namespace Prepared

variable {δ χ : Type} (prepared : Prepared δ χ)

/-- `sqlite3_reset` and `sqlite3_clear_bindings`. -/
def cleared : Statement χ :=
  { bound := List.replicate prepared.parameterCount .null, execution := .ready }

/-- Where `sqlite3_step` goes on.  A statement that has come to its end starts again. -/
def cursor (statement : Statement χ) : χ :=
  match statement.execution with
  | .running cursor => cursor
  | _ => prepared.begin statement.bound

/-- One `sqlite3_bind_*`. -/
def bindOne (index : Nat) (value : SqlValue) (statement : Statement χ) :
    Option JsValue × Statement χ :=
  match statement.execution with
  | .ready =>
      match prepared.refuses index value with
      | none => (none, { statement with bound := statement.bound.set index value })
      | some thrown => (some thrown, { statement with bound := statement.bound.set index .null })
  | _ => (some prepared.misuse, statement)

/-- The loop of `paraql__on_before_bind`. -/
def bindFrom (index : Nat) : List SqlValue → Statement χ → Option JsValue × Statement χ
  | [], statement => (none, statement)
  | value :: values, statement =>
      match prepared.bindOne index value statement with
      | (none, statement) => bindFrom (index + 1) values statement
      | (some thrown, statement) => (some thrown, statement)

def stepOnce (statement : Statement χ) (database : δ) : StepReport × Statement χ × δ :=
  match prepared.advance (prepared.cursor statement) database with
  | (.row row, next, after) => (.row row, { statement with execution := .running next }, after)
  | (report, _, after) => (report, { statement with execution := .halted }, after)

/-- The loop of `paraql__on_before_run`, and how it ends when it does. -/
inductive RunsOut : χ → δ → Option JsValue → δ → Prop where
  | row {cursor next : χ} {database after final : δ} {row : Row} {ended : Option JsValue}
      (steps : prepared.advance cursor database = (.row row, next, after))
      (rest : RunsOut next after ended final) : RunsOut cursor database ended final
  | done {cursor next : χ} {database after : δ}
      (steps : prepared.advance cursor database = (.done, next, after)) :
      RunsOut cursor database none after
  | failed {cursor next : χ} {database after : δ} {thrown : JsValue}
      (steps : prepared.advance cursor database = (.failed thrown, next, after)) :
      RunsOut cursor database (some thrown) after

end Prepared

/-! ### Calls -/

inductive CallKind where
  | get
  | all
  | iterate
  | run
  deriving DecidableEq, Repr

inductive Delivered where
  | row (row : Option Row)
  | rows (rows : List Row)
  | ran (result : RunResult)
  deriving DecidableEq, Repr

inductive SharedPhase where
  | idle
  | parsing
  | matching
  | binding (values : List SqlValue)
  | stepping
  | resetting (outcome : Except JsValue Delivered)
  | finished (outcome : Except JsValue Delivered)

structure SharedCall (δ : Type) where
  kind : CallKind
  parameters : Parameters
  phase : SharedPhase
  rows : List Row
  -- The states of the connection that the steps of the call have met.  No code reads them.
  met : List δ

structure Shared (δ χ : Type) where
  statement : Statement χ
  database : δ
  calls : CallId → SharedCall δ

variable {δ χ : Type}

def Shared.setCall (state : Shared δ χ) (id : CallId) (call : SharedCall δ) : Shared δ χ :=
  { state with calls := Function.update state.calls id call }

/-- `catch (err) { throw errors.from(err) } finally { ... }`. -/
def SharedPhase.failing (thrown : JsValue) : SharedPhase := .resetting (.error thrown.fromThrown)

/-- `_bind` reads the length of the positional list before anything is queued. -/
def SharedCall.started (kind : CallKind) (parameters : Parameters) : SharedCall δ :=
  { kind := kind
    parameters := parameters
    phase :=
      match parameters.positional with
      | .null => .failing (.error
          (JsError.typeError "Cannot read properties of null (reading 'length')"))
      | _ => .parsing
    rows := []
    met := [] }

def StepReport.rows : StepReport → List Row
  | .row found => [found]
  | _ => []

def SharedCall.told (call : SharedCall δ) (report : StepReport) (database : δ) : SharedCall δ :=
  { call with
    rows := call.rows ++ report.rows
    met := call.met ++ [database]
    phase :=
      match report with
      | .row row => if call.kind = .get then .resetting (.ok (.row (some row))) else .stepping
      | .done => .resetting (.ok (if call.kind = .get then .row none else .rows call.rows))
      | .failed thrown => .failing thrown }

/-- The continuation after `binding.run`. -/
def SharedPhase.ran (result : RunResult) : Option JsValue → SharedPhase
  | none => .resetting (.ok (.ran result))
  | some thrown => .failing thrown

/-- One task of the call `actor`, or one of its continuations on the main thread. -/
inductive SharedStep (prepared : Prepared δ χ) :
    Option CallId → Shared δ χ → Shared δ χ → Prop where
  | start (state : Shared δ χ) (id : CallId) (kind : CallKind) (parameters : Parameters)
      (idle : (state.calls id).phase = .idle) :
      SharedStep prepared (some id) state (state.setCall id (.started kind parameters))
  | parse (state : Shared δ χ) (id : CallId) (parsing : (state.calls id).phase = .parsing) :
      SharedStep prepared (some id) state
        { state.setCall id { state.calls id with phase := .matching } with
          statement := prepared.cleared }
  | matched (state : Shared δ χ) (id : CallId) (matching : (state.calls id).phase = .matching) :
      SharedStep prepared (some id) state
        (state.setCall id { state.calls id with
          phase :=
            match prepared.matching (state.calls id).parameters.stringified with
            | .ok values => .binding values
            | .error thrown => .failing thrown })
  | bind (state : Shared δ χ) (id : CallId) (values : List SqlValue)
      (binding : (state.calls id).phase = .binding values) :
      SharedStep prepared (some id) state
        { state.setCall id { state.calls id with
            phase :=
              match (prepared.bindFrom 0 values state.statement).1 with
              | none => .stepping
              | some thrown => .failing thrown } with
          statement := (prepared.bindFrom 0 values state.statement).2 }
  | step (state : Shared δ χ) (id : CallId) (stepping : (state.calls id).phase = .stepping)
      (kind : (state.calls id).kind ≠ .run) :
      SharedStep prepared (some id) state
        { state.setCall id ((state.calls id).told
            (prepared.stepOnce state.statement state.database).1 state.database) with
          statement := (prepared.stepOnce state.statement state.database).2.1
          database := (prepared.stepOnce state.statement state.database).2.2 }
  | run (state : Shared δ χ) (id : CallId) (ended : Option JsValue) (after : δ)
      (stepping : (state.calls id).phase = .stepping) (kind : (state.calls id).kind = .run)
      (runs : prepared.RunsOut (prepared.cursor state.statement) state.database ended after) :
      SharedStep prepared (some id) state
        { state.setCall id { state.calls id with
            met := (state.calls id).met ++ [state.database]
            phase := .ran (prepared.result after) ended } with
          statement := { state.statement with execution := .halted }
          database := after }
  | stop (state : Shared δ χ) (id : CallId) (stepping : (state.calls id).phase = .stepping)
      (kind : (state.calls id).kind = .iterate) (yielded : (state.calls id).rows ≠ []) :
      SharedStep prepared (some id) state
        (state.setCall id { state.calls id with
          phase := .resetting (.ok (.rows (state.calls id).rows)) })
  | reset (state : Shared δ χ) (id : CallId) (outcome : Except JsValue Delivered)
      (resetting : (state.calls id).phase = .resetting outcome) :
      SharedStep prepared (some id) state
        { state.setCall id { state.calls id with phase := .finished outcome } with
          statement := prepared.cleared }
  | elsewhere (state : Shared δ χ) (after : δ) :
      SharedStep prepared none state { state with database := after }

def Shared.initial (prepared : Prepared δ χ) (database : δ) : Shared δ χ :=
  { statement := prepared.cleared
    database := database
    calls := fun _ =>
      { kind := .get, parameters := .absent, phase := .idle, rows := [], met := [] } }

namespace Prepared

variable (prepared : Prepared δ χ)

def reports : χ → List δ → List StepReport
  | _, [] => []
  | cursor, database :: met =>
      (prepared.advance cursor database).1 ::
        reports (prepared.advance cursor database).2.1 met

def follow : χ → List δ → χ
  | cursor, [] => cursor
  | cursor, database :: met => follow (prepared.advance cursor database).2.1 met

/-- The result that a call with these values should have. -/
def Owes (values : List SqlValue) (met : List δ) : CallKind → Delivered → Prop
  | .get, .row (some row) => prepared.reports (prepared.begin values) met = [.row row]
  | .get, .row none => prepared.reports (prepared.begin values) met = [.done]
  | .all, .rows rows =>
      prepared.reports (prepared.begin values) met = rows.map .row ++ [.done]
  | .iterate, .rows rows =>
      prepared.reports (prepared.begin values) met = rows.map .row ∨
        prepared.reports (prepared.begin values) met = rows.map .row ++ [.done]
  | .run, .ran result =>
      ∃ database after, met = [database] ∧
        prepared.RunsOut (prepared.begin values) database none after ∧
        result = prepared.result after
  | _, _ => False

def Pays (call : SharedCall δ) (delivered : Delivered) : Prop :=
  ∃ values, prepared.matching call.parameters.stringified = .ok values ∧
    prepared.Owes values call.met call.kind delivered

/-- If the call succeeds, it gets its own result. -/
def Isolated (call : SharedCall δ) : Prop :=
  ∀ delivered, call.phase = .finished (.ok delivered) → prepared.Pays call delivered

end Prepared

def SharedCall.Underway (call : SharedCall δ) : Prop := call.phase = .stepping

/-- A step after which every call that is underway finds the statement as it left it.  A
statement without parameters is bound whatever its state: then it must not be in the
middle of an execution. -/
structure Undisturbed (actor : Option CallId) (before after : Shared δ χ) : Prop where
  kept : ∀ id, actor ≠ some id → (before.calls id).Underway → after.statement = before.statement
  fresh : ∀ id, actor = some id → (before.calls id).phase = .binding [] →
    ∀ cursor, before.statement.execution ≠ .running cursor

def AnyStep (prepared : Prepared δ χ) (before after : Shared δ χ) : Prop :=
  ∃ actor, SharedStep prepared actor before after

def CarefulStep (prepared : Prepared δ χ) (before after : Shared δ χ) : Prop :=
  ∃ actor, SharedStep prepared actor before after ∧ Undisturbed actor before after

/-! ### The invariant -/

namespace Prepared

variable {prepared : Prepared δ χ}

structure OnCourse (prepared : Prepared δ χ) (statement : Statement χ) (call : SharedCall δ)
    (values : List SqlValue) : Prop where
  own : prepared.matching call.parameters.stringified = .ok values
  cursor : prepared.cursor statement = prepared.follow (prepared.begin values) call.met
  rows : prepared.reports (prepared.begin values) call.met = call.rows.map .row
  single : call.kind = .get ∨ call.kind = .run → call.rows = [] ∧ call.met = []

structure Sound (prepared : Prepared δ χ) (statement : Statement χ) (call : SharedCall δ) :
    Prop where
  early : (call.phase = .parsing ∨ call.phase = .matching ∨ ∃ values, call.phase = .binding values) →
    call.rows = [] ∧ call.met = []
  bindable : ∀ values, call.phase = .binding values →
    prepared.matching call.parameters.stringified = .ok values
  underway : call.Underway → ∃ values, OnCourse prepared statement call values
  pays : ∀ delivered, call.phase = .resetting (.ok delivered) ∨
    call.phase = .finished (.ok delivered) → prepared.Pays call delivered

private theorem reports_snoc (prepared : Prepared δ χ) (cursor : χ) (met : List δ) (database : δ) :
    prepared.reports cursor (met ++ [database]) = prepared.reports cursor met ++
      [(prepared.advance (prepared.follow cursor met) database).1] := by
  induction met generalizing cursor with
  | nil => rfl
  | cons earlier met ih => exact congrArg (List.cons _) (ih _)

private theorem follow_snoc (prepared : Prepared δ χ) (cursor : χ) (met : List δ) (database : δ) :
    prepared.follow cursor (met ++ [database]) =
      (prepared.advance (prepared.follow cursor met) database).2.1 := by
  induction met generalizing cursor with
  | nil => rfl
  | cons earlier met ih => exact ih _

/-- Only a call that is underway depends on the statement. -/
theorem Sound.of_statement {statement other : Statement χ} {call : SharedCall δ}
    (sound : prepared.Sound statement call) (same : call.Underway → other = statement) :
    prepared.Sound other call :=
  ⟨sound.early, sound.bindable, fun underway => (same underway) ▸ sound.underway underway,
    sound.pays⟩

private theorem bindOne_length (prepared : Prepared δ χ) (index : Nat) (value : SqlValue)
    (statement : Statement χ) :
    (prepared.bindOne index value statement).2.bound.length = statement.bound.length := by
  unfold bindOne
  split
  · split <;> exact List.length_set
  · rfl

private theorem bindFrom_length (index : Nat) (values : List SqlValue) (statement : Statement χ) :
    (prepared.bindFrom index values statement).2.bound.length = statement.bound.length := by
  induction values generalizing index statement with
  | nil => rfl
  | cons value values ih =>
      have kept := bindOne_length prepared index value statement
      unfold bindFrom
      split
      · rename_i next bound
        rw [bound] at kept
        exact (ih _ _).trans kept
      · rename_i thrown next bound
        rw [bound] at kept
        exact kept

private theorem bindOne_ok {index : Nat} {value : SqlValue} {statement after : Statement χ}
    (bound : prepared.bindOne index value statement = (none, after)) :
    statement.execution = .ready ∧
      after = { statement with bound := statement.bound.set index value } := by
  unfold bindOne at bound
  cases execution : statement.execution with
  | ready =>
      simp only [execution] at bound
      split at bound
      · cases bound
        exact ⟨rfl, rfl⟩
      · cases bound
  | running cursor =>
      simp only [execution] at bound
      cases bound
  | halted =>
      simp only [execution] at bound
      cases bound

private theorem bindFrom_ok {index : Nat} {values : List SqlValue} {statement after : Statement χ}
    (bound : prepared.bindFrom index values statement = (none, after))
    (fits : index + values.length = statement.bound.length) :
    after.execution = statement.execution ∧
      after.bound = statement.bound.take index ++ values ∧
      (values ≠ [] → statement.execution = .ready) := by
  induction values generalizing index statement with
  | nil =>
      cases bound
      refine ⟨rfl, ?_, fun some_value => absurd rfl some_value⟩
      rw [List.append_nil, List.take_of_length_le (by simpa using fits.ge)]
  | cons value values ih =>
      unfold bindFrom at bound
      split at bound
      · rename_i next boundOne
        obtain ⟨ready, rfl⟩ := bindOne_ok boundOne
        have fitsRest : index + 1 + values.length = (statement.bound.set index value).length := by
          rw [List.length_set, ← fits, List.length_cons]
          omega
        obtain ⟨sameExecution, boundRest, _⟩ := ih bound fitsRest
        refine ⟨sameExecution, ?_, fun _ => ready⟩
        have inside : index < statement.bound.length := by
          rw [← fits, List.length_cons]
          omega
        rw [boundRest, List.take_set, List.take_succ_eq_append_getElem inside,
          List.set_append_right _ _ (List.length_take_le _ _), List.length_take,
          Nat.min_eq_left inside.le, Nat.sub_self, List.set_cons_zero, List.append_assoc,
          List.singleton_append]
      · cases bound

/-- A call whose bind has succeeded is about to execute the statement from its start. -/
theorem cursor_bindFrom {values : List SqlValue} {statement after : Statement χ}
    (bound : prepared.bindFrom 0 values statement = (none, after))
    (fits : values.length = statement.bound.length)
    (fresh : values = [] → ∀ cursor, statement.execution ≠ .running cursor) :
    prepared.cursor after = prepared.begin values := by
  obtain ⟨sameExecution, sameBound, ready⟩ := bindFrom_ok bound (by omega)
  rw [List.take_zero, List.nil_append] at sameBound
  unfold cursor
  rw [sameExecution, sameBound]
  cases execution : statement.execution with
  | ready => rfl
  | halted => rfl
  | running cursor =>
      by_cases none_bound : values = []
      · exact absurd execution (fresh none_bound cursor)
      · cases execution.symm.trans (ready none_bound)

private theorem sound_started (statement : Statement χ) (kind : CallKind)
    (parameters : Parameters) :
    prepared.Sound statement (.started kind parameters) := by
  unfold SharedCall.started
  cases parameters.positional with
  | null =>
      refine ⟨fun _ => ⟨rfl, rfl⟩, ?_, ?_, ?_⟩ <;> simp [SharedPhase.failing, SharedCall.Underway]
  | _ =>
      refine ⟨fun _ => ⟨rfl, rfl⟩, ?_, ?_, ?_⟩ <;> simp [SharedCall.Underway]

private theorem sound_failing (statement : Statement χ) (call : SharedCall δ) (thrown : JsValue) :
    prepared.Sound statement { call with phase := .failing thrown } := by
  constructor <;> simp [SharedPhase.failing, SharedCall.Underway]

private theorem sound_resetting (statement : Statement χ) {call : SharedCall δ}
    {delivered : Delivered}
    (pays : prepared.Pays call delivered) :
    prepared.Sound statement { call with phase := .resetting (.ok delivered) } := by
  refine ⟨by simp, by simp, by simp [SharedCall.Underway], ?_⟩
  intro other ends
  rcases ends with same | same
  · cases same
    exact pays
  · cases same

private theorem sound_told {statement : Statement χ} {call : SharedCall δ} {values : List SqlValue}
    (kind : call.kind ≠ .run) (onCourse : OnCourse prepared statement call values) (database : δ) :
    prepared.Sound (prepared.stepOnce statement database).2.1
      (call.told (prepared.stepOnce statement database).1 database) := by
  have reported := reports_snoc prepared (prepared.begin values) call.met database
  have followed := follow_snoc prepared (prepared.begin values) call.met database
  rw [onCourse.rows, ← onCourse.cursor] at reported
  rw [← onCourse.cursor] at followed
  unfold stepOnce
  generalize prepared.advance (prepared.cursor statement) database = advanced
    at reported followed ⊢
  obtain ⟨report, next, after⟩ := advanced
  cases report with
  | failed thrown =>
      exact sound_failing _ { call with
        rows := call.rows ++ [], met := call.met ++ [database] } thrown
  | row row =>
      by_cases isGet : call.kind = .get
      · have pays : prepared.Pays
            { call with rows := call.rows ++ [row], met := call.met ++ [database] }
            (.row (some row)) := by
          refine ⟨values, onCourse.own, ?_⟩
          rw [(onCourse.single (Or.inl isGet)).1] at reported
          simp only [isGet]
          exact reported
        simp only [SharedCall.told, if_pos isGet]
        exact sound_resetting _ pays
      · simp only [SharedCall.told, if_neg isGet]
        refine ⟨by simp, by simp, fun _ => ⟨values, onCourse.own, followed.symm, ?_, ?_⟩, by simp⟩
        · rw [reported, StepReport.rows, List.map_append]
          rfl
        · intro either
          rcases either with isOther | isOther
          · exact absurd isOther isGet
          · exact absurd isOther kind
  | done =>
      have pays : prepared.Pays
          { call with rows := call.rows ++ [], met := call.met ++ [database] }
          (if call.kind = .get then .row none else .rows call.rows) := by
        refine ⟨values, onCourse.own, ?_⟩
        cases isKind : call.kind with
        | run => exact absurd isKind kind
        | get =>
            rw [(onCourse.single (Or.inl isKind)).1] at reported
            exact reported
        | all => exact reported
        | iterate => exact Or.inr reported
      exact sound_resetting _ pays

private theorem sound_ran {statement : Statement χ} {call : SharedCall δ} {values : List SqlValue}
    (kind : call.kind = .run) (onCourse : OnCourse prepared statement call values)
    {database after : δ} {ended : Option JsValue}
    (runs : prepared.RunsOut (prepared.cursor statement) database ended after)
    (other : Statement χ) :
    prepared.Sound other
      { call with
        met := call.met ++ [database]
        phase := .ran (prepared.result after) ended } := by
  cases ended with
  | some thrown => exact sound_failing _ { call with met := call.met ++ [database] } thrown
  | none =>
      obtain ⟨_, notMet⟩ := onCourse.single (Or.inr kind)
      have started : prepared.cursor statement = prepared.begin values := by
        rw [onCourse.cursor, notMet]
        rfl
      have pays : prepared.Pays { call with met := call.met ++ [database] }
          (.ran (prepared.result after)) := by
        refine ⟨values, onCourse.own, ?_⟩
        simp only [kind, notMet]
        exact ⟨database, after, rfl, started ▸ runs, rfl⟩
      exact sound_resetting _ pays

structure SharedSound (prepared : Prepared δ χ) (state : Shared δ χ) : Prop where
  bound : state.statement.bound.length = prepared.parameterCount
  calls : ∀ id, prepared.Sound state.statement (state.calls id)

theorem bound_cleared : prepared.cleared.bound.length = prepared.parameterCount :=
  List.length_replicate

private theorem bound_stepOnce (statement : Statement χ) (database : δ) :
    (prepared.stepOnce statement database).2.1.bound = statement.bound := by
  unfold stepOnce
  split <;> rfl

/-- The calls of the others stay as they are, and so does the statement if they need it. -/
theorem SharedSound.of_actor {state after : Shared δ χ} (sound : prepared.SharedSound state)
    {id : CallId} {call : SharedCall δ} (undisturbed : Undisturbed (some id) state after)
    (bound : after.statement.bound.length = prepared.parameterCount)
    (calls : after.calls = Function.update state.calls id call)
    (own : prepared.Sound after.statement call) : prepared.SharedSound after := by
  refine ⟨bound, fun other => ?_⟩
  rw [calls]
  by_cases same : other = id
  · subst same
    rw [Function.update_self]
    exact own
  · rw [Function.update_of_ne same]
    refine (sound.calls other).of_statement fun underway => ?_
    exact undisturbed.kept other (fun actor => same (Option.some.inj actor).symm) underway

theorem SharedSound.step {state after : Shared δ χ} {actor : Option CallId}
    (sound : prepared.SharedSound state) (step : SharedStep prepared actor state after)
    (undisturbed : Undisturbed actor state after) : prepared.SharedSound after := by
  cases step with
  | start _ id kind parameters idle =>
      exact sound.of_actor undisturbed sound.bound rfl (sound_started _ kind parameters)
  | parse _ id parsing =>
      refine sound.of_actor undisturbed bound_cleared rfl ⟨fun _ => ?_, ?_, ?_, ?_⟩
      · exact (sound.calls id).early (Or.inl parsing)
      · simp
      · simp [SharedCall.Underway]
      · simp
  | matched _ id matching =>
      refine sound.of_actor undisturbed sound.bound rfl ?_
      simp only
      cases own : prepared.matching (state.calls id).parameters.stringified with
      | error thrown => exact sound_failing _ (state.calls id) thrown
      | ok values =>
          refine ⟨fun _ => ?_, ?_, ?_, ?_⟩
          · exact (sound.calls id).early (Or.inr (Or.inl matching))
          · intro others same
            cases same
            exact own
          · simp [SharedCall.Underway]
          · simp
  | bind _ id values binding =>
      have own := (sound.calls id).bindable values binding
      have early := (sound.calls id).early (Or.inr (Or.inr ⟨values, binding⟩))
      refine sound.of_actor undisturbed ((bindFrom_length _ _ _).trans sound.bound) rfl ?_
      cases ended : prepared.bindFrom 0 values state.statement with
      | mk result bound =>
          cases result with
          | some thrown => exact sound_failing _ (state.calls id) thrown
          | none =>
              have fits : values.length = state.statement.bound.length :=
                (prepared.matching_length own).trans sound.bound.symm
              have begins := cursor_bindFrom ended fits fun none_bound =>
                undisturbed.fresh id rfl (none_bound ▸ binding)
              refine ⟨by simp, by simp, fun _ => ⟨values, own, ?_, ?_, fun _ => early⟩, by simp⟩
              · simp only [early.2]
                exact begins
              · simp only [early.1, early.2]
                rfl
  | step _ id stepping kind =>
      obtain ⟨values, onCourse⟩ := (sound.calls id).underway stepping
      refine sound.of_actor undisturbed ?_ rfl
        (sound_told kind onCourse state.database)
      simp only [bound_stepOnce]
      exact sound.bound
  | run _ id ended database stepping kind runs =>
      obtain ⟨values, onCourse⟩ := (sound.calls id).underway stepping
      exact sound.of_actor undisturbed sound.bound rfl (sound_ran kind onCourse runs _)
  | stop _ id stepping kind yielded =>
      obtain ⟨values, onCourse⟩ := (sound.calls id).underway stepping
      refine sound.of_actor undisturbed sound.bound rfl
        (sound_resetting _ ⟨values, onCourse.own, ?_⟩)
      simp only [kind]
      exact Or.inl onCourse.rows
  | reset _ id outcome resetting =>
      refine sound.of_actor undisturbed bound_cleared rfl ⟨by simp, by simp, ?_, ?_⟩
      · simp [SharedCall.Underway]
      · intro delivered ends
        rcases ends with same | same
        · cases same
        · cases same
          exact (sound.calls id).pays delivered (Or.inl resetting)
  | elsewhere _ database => exact ⟨sound.bound, sound.calls⟩

private theorem sharedSound_initial (database : δ) :
    prepared.SharedSound (Shared.initial prepared database) := by
  refine ⟨bound_cleared, fun id => ⟨?_, ?_, ?_, ?_⟩⟩ <;>
    simp [Shared.initial, SharedCall.Underway]

/-- In every run whose steps all leave the statement to the call that is underway, every
call that succeeds gets its own result. -/
theorem isolated_of_careful (prepared : Prepared δ χ) (database : δ) (state : Shared δ χ)
    (run : ReflTransGen (CarefulStep prepared) (Shared.initial prepared database) state)
    (id : CallId) : prepared.Isolated (state.calls id) := by
  have stable : Stable (CarefulStep prepared) (prepared.SharedSound) := by
    rintro before after ⟨actor, step, undisturbed⟩ sound
    exact sound.step step undisturbed
  have sound := stable.moves run (sharedSound_initial database)
  intro delivered finished
  exact (sound.calls id).pays delivered (Or.inr finished)

def IsolatesCalls (prepared : Prepared δ χ) : Prop :=
  ∀ database state, ReflTransGen (AnyStep prepared) (Shared.initial prepared database) state →
    ∀ id, prepared.Isolated (state.calls id)

/-- `SELECT ?` -/
def echo : Prepared Unit (List SqlValue × Bool) :=
  { parameterCount := 1
    matching := fun parameters =>
      match parameters.positional with
      | .list [value] => .ok [value]
      | .list (_ :: _) => .error (.error (JsError.typeError "Too many positional parameters"))
      | _ => .error (.error (JsError.typeError "Missing positional parameter"))
    matching_length := by
      intro parameters values matched
      split at matched <;> cases matched
      rfl
    refuses := fun _ _ => none
    misuse := .error (JsError.paraQL "bad parameter or other API misuse" "MISUSE")
    begin := fun values => (values, false)
    advance := fun cursor database =>
      if cursor.2 then (.done, cursor, database)
      else (.row [("?", cursor.1.headD .null)], (cursor.1, true), database)
    result := fun _ => { changes := 0, lastInsertRowid := 0 } }

private theorem careful_of_two (prepared : Prepared δ χ) {id : CallId} {before after : Shared δ χ}
    (step : SharedStep prepared (some id) before after)
    (binds : (before.calls id).phase ≠ .binding [])
    (first : 0 ≠ id → ¬(before.calls 0).Underway) (second : 1 ≠ id → ¬(before.calls 1).Underway)
    (others : ∀ other, ¬(before.calls (other + 2)).Underway) :
    CarefulStep prepared before after := by
  refine ⟨some id, step, fun other different underway => ?_, fun other same none_bound => ?_⟩
  · have apart : other ≠ id := fun same => different (congrArg some same.symm)
    match other with
    | 0 => exact absurd underway (first apart)
    | 1 => exact absurd underway (second apart)
    | other + 2 => exact absurd underway (others other)
  · cases same
    exact absurd none_bound binds

/-- An `all` and a `get` that take turns: the `get` is bound when the `all` has come to its
end, and another statement of the connection is stepped in between. -/
theorem isolated_of_careful_allAndGet : ∃ state : Shared Unit (List SqlValue × Bool),
    (∀ id, echo.Isolated (state.calls id)) ∧
      (state.calls 0).phase = .finished (.ok (.rows [[("?", .integer 1)]])) ∧
      (state.calls 1).phase = .finished (.ok (.row (some [("?", .integer 2)]))) := by
  have run : ReflTransGen (CarefulStep echo) (Shared.initial echo ()) _ :=
    ReflTransGen.refl
      |>.tail (careful_of_two echo (.start _ 0 .all ⟨.null, .list [.integer 1]⟩ rfl)
        SharedPhase.noConfusion (absurd rfl) (fun _ => SharedPhase.noConfusion)
        fun _ => SharedPhase.noConfusion)
      |>.tail (careful_of_two echo (.start _ 1 .get ⟨.null, .list [.integer 2]⟩ rfl)
        SharedPhase.noConfusion (fun _ => SharedPhase.noConfusion) (absurd rfl)
        fun _ => SharedPhase.noConfusion)
      |>.tail (careful_of_two echo (.parse _ 0 rfl)
        SharedPhase.noConfusion (absurd rfl) (fun _ => SharedPhase.noConfusion)
        fun _ => SharedPhase.noConfusion)
      |>.tail (careful_of_two echo (.matched _ 0 rfl)
        SharedPhase.noConfusion (absurd rfl) (fun _ => SharedPhase.noConfusion)
        fun _ => SharedPhase.noConfusion)
      |>.tail (careful_of_two echo (.bind _ 0 [.integer 1] rfl)
        (fun same => List.cons_ne_nil _ _ (SharedPhase.binding.inj same)) (absurd rfl)
        (fun _ => SharedPhase.noConfusion) fun _ => SharedPhase.noConfusion)
      |>.tail (careful_of_two echo (.step _ 0 rfl (by decide))
        SharedPhase.noConfusion (absurd rfl) (fun _ => SharedPhase.noConfusion)
        fun _ => SharedPhase.noConfusion)
      |>.tail ⟨none, .elsewhere _ (), fun _ _ _ => rfl, fun _ same => by cases same⟩
      |>.tail (careful_of_two echo (.step _ 0 rfl (by decide))
        SharedPhase.noConfusion (absurd rfl) (fun _ => SharedPhase.noConfusion)
        fun _ => SharedPhase.noConfusion)
      |>.tail (careful_of_two echo (.parse _ 1 rfl)
        SharedPhase.noConfusion (fun _ => SharedPhase.noConfusion) (absurd rfl)
        fun _ => SharedPhase.noConfusion)
      |>.tail (careful_of_two echo (.reset _ 0 (.ok (.rows [[("?", .integer 1)]])) rfl)
        SharedPhase.noConfusion (absurd rfl) (fun _ => SharedPhase.noConfusion)
        fun _ => SharedPhase.noConfusion)
      |>.tail (careful_of_two echo (.matched _ 1 rfl)
        SharedPhase.noConfusion (fun _ => SharedPhase.noConfusion) (absurd rfl)
        fun _ => SharedPhase.noConfusion)
      |>.tail (careful_of_two echo (.bind _ 1 [.integer 2] rfl)
        (fun same => List.cons_ne_nil _ _ (SharedPhase.binding.inj same))
        (fun _ => SharedPhase.noConfusion) (absurd rfl) fun _ => SharedPhase.noConfusion)
      |>.tail (careful_of_two echo (.step _ 1 rfl (by decide))
        SharedPhase.noConfusion (fun _ => SharedPhase.noConfusion) (absurd rfl)
        fun _ => SharedPhase.noConfusion)
      |>.tail (careful_of_two echo (.reset _ 1 (.ok (.row (some [("?", .integer 2)]))) rfl)
        SharedPhase.noConfusion (fun _ => SharedPhase.noConfusion) (absurd rfl)
        fun _ => SharedPhase.noConfusion)
  exact ⟨_, isolated_of_careful echo () _ run, rfl, rfl⟩

/-- Two calls of `get`: the second one is bound between the bind and the step of the first. -/
theorem isolatesCalls_twoGets_fails : ¬echo.IsolatesCalls := by
  intro isolates
  have run : ReflTransGen (AnyStep echo) (Shared.initial echo ()) _ :=
    ReflTransGen.refl
      |>.tail ⟨_, .start _ 0 .get ⟨.null, .list [.integer 1]⟩ rfl⟩
      |>.tail ⟨_, .start _ 1 .get ⟨.null, .list [.integer 2]⟩ rfl⟩
      |>.tail ⟨_, .parse _ 0 rfl⟩
      |>.tail ⟨_, .parse _ 1 rfl⟩
      |>.tail ⟨_, .matched _ 0 rfl⟩
      |>.tail ⟨_, .matched _ 1 rfl⟩
      |>.tail ⟨_, .bind _ 0 [.integer 1] rfl⟩
      |>.tail ⟨_, .bind _ 1 [.integer 2] rfl⟩
      |>.tail ⟨_, .step _ 0 rfl (by decide)⟩
      |>.tail ⟨_, .reset _ 0 (.ok (.row (some [("?", .integer 2)]))) rfl⟩
  obtain ⟨values, own, owes⟩ := isolates () _ run 0 (.row (some [("?", .integer 2)])) rfl
  cases own
  have wrong : echo.reports (echo.begin [.integer 1]) [()] = [.row [("?", .integer 2)]] := owes
  revert wrong
  decide

end Prepared
end ParaQL
