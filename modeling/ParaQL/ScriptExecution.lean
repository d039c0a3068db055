/-
The statements of a script, one after the other, as `exec` runs them.

`paraql__on_before_exec` walks over the text with the tail that SQLite returns, and over
the rows of each statement.  SQLite is a parameter: what it prepares from where the text
has got to, and what each step of a statement gives.
-/

import ParaQL.WorkerTasks

namespace ParaQL

open Bytes

/-- What `sqlite3_prepare_v2` gives.  A handle of none is NULL. -/
structure PrepareResult where
  status : Int
  stmt : Option Nat
  tail : Buffer
  deriving DecidableEq, Repr

structure ScriptEngine (σ : Type) where
  prepare : σ → Buffer → PrepareResult × σ
  step : Nat → σ → Int × σ
  finalize : Nat → σ → σ
  errmsg : σ → String

inductive ScriptEvent where
  | prepare (text : Buffer) (status : Int) (stmt : Option Nat)
  | step (stmt : Nat) (status : Int)
  | finalize (stmt : Nat)
  deriving DecidableEq, Repr

structure ScriptState (σ : Type) where
  connection : σ
  events : List ScriptEvent

namespace ScriptState

variable {σ : Type} (state : ScriptState σ)

def start (connection : σ) : ScriptState σ := { connection := connection, events := [] }

def record (event : ScriptEvent) (connection : σ) : ScriptState σ :=
  { connection := connection, events := state.events ++ [event] }

end ScriptState

namespace ScriptEngine

variable {σ : Type} (engine : ScriptEngine σ)

def callFinalize (stmt : Nat) (state : ScriptState σ) : ScriptState σ :=
  state.record (.finalize stmt) (engine.finalize stmt state.connection)

def callStep (stmt : Nat) (state : ScriptState σ) : Int × ScriptState σ :=
  ((engine.step stmt state.connection).1,
    state.record (.step stmt (engine.step stmt state.connection).1)
      (engine.step stmt state.connection).2)

def callPrepare (text : Buffer) (state : ScriptState σ) : PrepareResult × ScriptState σ :=
  ((engine.prepare state.connection text).1,
    state.record (.prepare text (engine.prepare state.connection text).1.status
      (engine.prepare state.connection text).1.stmt) (engine.prepare state.connection text).2)

def stepAll (stmt : Nat) : Nat → ScriptState σ → Option (Int × ScriptState σ)
  | 0, _ => none
  | rounds + 1, state =>
      if (engine.callStep stmt state).1 = sqliteRow then
        stepAll stmt rounds (engine.callStep stmt state).2
      else some (engine.callStep stmt state)

/-- `if (stmt != NULL) sqlite3_finalize(stmt)`. -/
def finalizePrepared (stmt : Option Nat) (state : ScriptState σ) : ScriptState σ :=
  match stmt with
  | none => state
  | some stmt => engine.callFinalize stmt state

/-- `paraql__on_before_exec` from the cursor on, in so many rounds. -/
def onBeforeExec : Nat → Buffer → ScriptState σ → Option (WorkerRequest × ScriptState σ)
  | 0, _, _ => none
  | rounds + 1, cursor, state =>
      if cursor = [] then some (.fresh, state)
      else
        let (prepared, state) := engine.callPrepare cursor state
        if prepared.status ≠ 0 then
          some (.failed prepared.status (engine.errmsg state.connection),
            engine.finalizePrepared prepared.stmt state)
        else
          match prepared.stmt with
          | none => onBeforeExec rounds prepared.tail state
          | some stmt =>
              match engine.stepAll stmt rounds state with
              | none => none
              | some (status, state) =>
                  let state := engine.callFinalize stmt state
                  if status ≠ sqliteDone then
                    some (.failed status (engine.errmsg state.connection), state)
                  else onBeforeExec rounds prepared.tail state

def scriptText (sql : String) : Buffer := (cBytes sql).takeWhile (· ≠ 0)

end ScriptEngine

/-! ### Pieces of a script -/

structure ScriptPiece where
  text : Buffer
  prepared : Int
  stmt : Option Nat
  statuses : List Int
  deriving DecidableEq, Repr

namespace ScriptPiece

def events (piece : ScriptPiece) : List ScriptEvent :=
  .prepare piece.text piece.prepared piece.stmt ::
    match piece.stmt with
    | none => []
    | some stmt => piece.statuses.map (ScriptEvent.step stmt) ++ [.finalize stmt]

def Completed (piece : ScriptPiece) : Prop :=
  piece.prepared = 0 ∧
    ((piece.stmt = none ∧ piece.statuses = []) ∨
      (piece.stmt.isSome = true ∧
        ∃ rows, piece.statuses = List.replicate rows sqliteRow ++ [sqliteDone]))

def FailsWith (piece : ScriptPiece) (errcode : Int) : Prop :=
  (piece.prepared = errcode ∧ errcode ≠ 0 ∧ piece.statuses = []) ∨
    (piece.prepared = 0 ∧ piece.stmt.isSome = true ∧ errcode ≠ sqliteRow ∧ errcode ≠ sqliteDone ∧
      ∃ rows, piece.statuses = List.replicate rows sqliteRow ++ [errcode])

end ScriptPiece

namespace ScriptEngine

variable {σ : Type} (engine : ScriptEngine σ)

inductive Steps (stmt : Nat) : σ → List Int → σ → Prop where
  | nil (connection : σ) : Steps stmt connection [] connection
  | cons {connection final : σ} {statuses : List Int}
      (later : Steps stmt (engine.step stmt connection).2 statuses final) :
      Steps stmt connection ((engine.step stmt connection).1 :: statuses) final

inductive Performs (connection : σ) (text : Buffer) : ScriptPiece → σ → Buffer → Prop where
  | blank (status : Int) (tail : Buffer) (after : σ)
      (prepares : engine.prepare connection text = (⟨status, none, tail⟩, after)) :
      Performs connection text ⟨text, status, none, []⟩ after tail
  | statement (status : Int) (stmt : Nat) (tail : Buffer) (opened stepped : σ)
      (statuses : List Int)
      (prepares : engine.prepare connection text = (⟨status, some stmt, tail⟩, opened))
      (steps : engine.Steps stmt opened statuses stepped) :
      Performs connection text ⟨text, status, some stmt, statuses⟩
        (engine.finalize stmt stepped) tail

inductive Executes : σ → Buffer → List ScriptPiece → σ → Buffer → Prop where
  | nil (connection : σ) (text : Buffer) : Executes connection text [] connection text
  | cons {connection middle final : σ} {text tail rest : Buffer} {piece : ScriptPiece}
      {pieces : List ScriptPiece} (here : engine.Performs connection text piece middle tail)
      (later : Executes middle tail pieces final rest) :
      Executes connection text (piece :: pieces) final rest

def RunsPrefix (before : ScriptState σ) (text : Buffer) (request : WorkerRequest)
    (after : ScriptState σ) : Prop :=
  ∃ pieces rest, engine.Executes before.connection text pieces after.connection rest ∧
    after.events = before.events ++ pieces.flatMap ScriptPiece.events ∧
    (((∀ piece ∈ pieces, piece.Completed) ∧ rest = [] ∧ request = .fresh) ∨
      ∃ earlier last errcode errmsg, pieces = earlier ++ [last] ∧
        (∀ piece ∈ earlier, piece.Completed) ∧ last.FailsWith errcode ∧
        request = .failed errcode errmsg)

def FinalizedOnce (events : List ScriptEvent) : Prop :=
  ∀ stmt, events.count (.finalize stmt) = events.countP fun
    | .prepare _ _ prepared => prepared = some stmt
    | _ => false

def Progresses : Prop :=
  ∀ connection text, text ≠ [] → (engine.prepare connection text).1.status = 0 →
    (engine.prepare connection text).1.tail.length < text.length

/-- Every statement comes to its end. -/
def Ends : Prop :=
  ∀ stmt connection, ∃ statuses final, engine.Steps stmt connection statuses final ∧
    ∃ status ∈ statuses, status ≠ sqliteRow

variable {engine}

/-- The loop goes through the rows and ends with another status. -/
theorem stepAll_spec {stmt rounds : Nat} {state final : ScriptState σ} {status : Int}
    (ended : engine.stepAll stmt rounds state = some (status, final)) :
    ∃ rows, engine.Steps stmt state.connection (List.replicate rows sqliteRow ++ [status])
        final.connection ∧ status ≠ sqliteRow ∧
      final.events = state.events ++
        (List.replicate rows sqliteRow ++ [status]).map (ScriptEvent.step stmt) := by
  induction rounds generalizing state with
  | zero => cases ended
  | succ rounds ih =>
      rw [stepAll] at ended
      by_cases row : (engine.callStep stmt state).1 = sqliteRow
      · rw [if_pos row] at ended
        obtain ⟨rows, steps, differs, events⟩ := ih ended
        have first : engine.Steps stmt state.connection _ final.connection := .cons steps
        have recorded : (engine.callStep stmt state).2.events =
            state.events ++ [.step stmt (engine.callStep stmt state).1] := rfl
        change engine.Steps stmt _ ((engine.callStep stmt state).1 :: _) _ at first
        rw [row] at first recorded
        refine ⟨rows + 1, first, differs, ?_⟩
        rw [events, recorded, List.append_assoc]
        rfl
      · rw [if_neg row] at ended
        cases Option.some.inj ended
        refine ⟨0, .cons (.nil _), row, rfl⟩

private theorem stepAll_mono {stmt rounds more : Nat} (within : rounds ≤ more)
    {state : ScriptState σ}
    {result : Int × ScriptState σ} (ended : engine.stepAll stmt rounds state = some result) :
    engine.stepAll stmt more state = some result := by
  induction rounds generalizing more state with
  | zero => cases ended
  | succ rounds ih =>
      obtain ⟨more, rfl⟩ := Nat.exists_eq_add_of_lt within
      rw [stepAll] at ended
      rw [stepAll]
      split
      · rename_i row
        rw [if_pos row] at ended
        exact ih (Nat.le_add_right _ _) ended
      · rename_i last
        rw [if_neg last] at ended
        exact ended

private theorem stepAll_total (ends : engine.Ends) (stmt : Nat) (state : ScriptState σ) :
    ∃ rounds result, engine.stepAll stmt rounds state = some result := by
  obtain ⟨statuses, final, steps, status, member, last⟩ := ends stmt state.connection
  induction statuses generalizing state with
  | nil => cases member
  | cons first statuses ih =>
      by_cases row : (engine.callStep stmt state).1 = sqliteRow
      · cases steps with
        | cons later =>
            rcases List.mem_cons.1 member with rfl | member
            · exact absurd row last
            · obtain ⟨rounds, result, ended⟩ := ih (engine.callStep stmt state).2 later member
              refine ⟨rounds + 1, result, ?_⟩
              rw [stepAll, if_pos row]
              exact ended
      · refine ⟨1, engine.callStep stmt state, ?_⟩
        rw [stepAll, if_neg row]

/-! ### The outer loop -/

private theorem runsPrefix_nil (state : ScriptState σ) : engine.RunsPrefix state [] .fresh state :=
  ⟨[], [], .nil _ _, (List.append_nil _).symm, Or.inl ⟨nofun, rfl, rfl⟩⟩

private theorem runsPrefix_last {before after : ScriptState σ} {text tail : Buffer}
    {piece : ScriptPiece}
    (here : engine.Performs before.connection text piece after.connection tail)
    (events : after.events = before.events ++ piece.events) {errcode : Int}
    (fails : piece.FailsWith errcode) (errmsg : String) :
    engine.RunsPrefix before text (.failed errcode errmsg) after := by
  refine ⟨[piece], tail, .cons here (.nil _ _), ?_, Or.inr ?_⟩
  · rw [List.flatMap_singleton]
    exact events
  · exact ⟨[], piece, errcode, errmsg, rfl, nofun, fails, rfl⟩

theorem RunsPrefix.cons {before middle after : ScriptState σ} {text tail : Buffer}
    {piece : ScriptPiece} {request : WorkerRequest}
    (here : engine.Performs before.connection text piece middle.connection tail)
    (events : middle.events = before.events ++ piece.events) (completed : piece.Completed)
    (later : engine.RunsPrefix middle tail request after) :
    engine.RunsPrefix before text request after := by
  have with_piece {pieces : List ScriptPiece} (known : ∀ other ∈ pieces, other.Completed) :
      ∀ other ∈ piece :: pieces, other.Completed := by
    intro other member
    rcases List.mem_cons.1 member with rfl | member
    · exact completed
    · exact known other member
  obtain ⟨pieces, rest, executes, laterEvents, ends⟩ := later
  refine ⟨piece :: pieces, rest, .cons here executes, ?_, ?_⟩
  · rw [laterEvents, events, List.flatMap_cons, List.append_assoc]
  · rcases ends with ⟨all, isEnd, same⟩ | ⟨earlier, last, errcode, errmsg, split, all, fails, same⟩
    · exact Or.inl ⟨with_piece all, isEnd, same⟩
    · refine Or.inr ⟨piece :: earlier, last, errcode, errmsg, ?_, with_piece all, fails, same⟩
      rw [split, List.cons_append]

private theorem callPrepare_eq {state : ScriptState σ} {text : Buffer} {prepared : PrepareResult}
    {opened : σ} (prepares : engine.prepare state.connection text = (prepared, opened)) :
    engine.callPrepare text state =
      (prepared, state.record (.prepare text prepared.status prepared.stmt) opened) := by
  unfold callPrepare
  rw [prepares]

/-- A text that cannot be prepared may still have given a statement. -/
theorem runsPrefix_unprepared {state : ScriptState σ} {text : Buffer} {prepared : PrepareResult}
    {opened : σ} (prepares : engine.prepare state.connection text = (prepared, opened))
    (fails : prepared.status ≠ 0) (errmsg : String) :
    engine.RunsPrefix state text (.failed prepared.status errmsg)
      (engine.finalizePrepared prepared.stmt
        (state.record (.prepare text prepared.status prepared.stmt) opened)) := by
  obtain ⟨status, stmt, tail⟩ := prepared
  cases stmt with
  | none =>
      have failed : ScriptPiece.FailsWith ⟨text, status, none, []⟩ status :=
        Or.inl ⟨rfl, fails, rfl⟩
      exact runsPrefix_last (.blank status tail opened prepares) rfl failed errmsg
  | some stmt =>
      have failed : ScriptPiece.FailsWith ⟨text, status, some stmt, []⟩ status :=
        Or.inl ⟨rfl, fails, rfl⟩
      have here := Performs.statement status stmt tail opened opened [] prepares (.nil _)
      refine runsPrefix_last here ?_ failed errmsg
      change (state.events ++ [_]) ++ [_] = _
      rw [List.append_assoc]
      rfl

/-- A statement is stepped to its last status and finalized. -/
theorem stepped_spec {rounds : Nat} {state final : ScriptState σ} {text tail : Buffer}
    {opened : σ} {stmt : Nat} {status : Int}
    (prepares : engine.prepare state.connection text = (⟨0, some stmt, tail⟩, opened))
    (stepped : engine.stepAll stmt rounds (state.record (.prepare text 0 (some stmt)) opened) =
      some (status, final)) :
    ∃ rows, status ≠ sqliteRow ∧
      engine.Performs state.connection text
        ⟨text, 0, some stmt, List.replicate rows sqliteRow ++ [status]⟩
        (engine.callFinalize stmt final).connection tail ∧
      (engine.callFinalize stmt final).events = state.events ++
        ScriptPiece.events ⟨text, 0, some stmt, List.replicate rows sqliteRow ++ [status]⟩ := by
  obtain ⟨rows, steps, notRow, events⟩ := stepAll_spec stepped
  refine ⟨rows, notRow, .statement 0 stmt tail opened final.connection _ prepares steps, ?_⟩
  change final.events ++ [_] = _
  rw [events]
  change (state.events ++ [_]) ++ _ ++ [_] = _
  rw [List.append_assoc, List.append_assoc]
  rfl

private theorem onBeforeExec_spec {rounds : Nat} {text : Buffer} {state after : ScriptState σ}
    {request : WorkerRequest}
    (ended : engine.onBeforeExec rounds text state = some (request, after)) :
    engine.RunsPrefix state text request after := by
  induction rounds generalizing text state with
  | zero => cases ended
  | succ rounds ih =>
      rw [onBeforeExec] at ended
      by_cases empty : text = []
      · rw [if_pos empty] at ended
        cases ended
        rw [empty]
        exact runsPrefix_nil _
      rw [if_neg empty] at ended
      cases prepares : engine.prepare state.connection text with
      | mk prepared opened =>
      rw [callPrepare_eq prepares] at ended
      dsimp only at ended
      by_cases fails : prepared.status ≠ 0
      · rw [if_pos fails] at ended
        cases ended
        exact runsPrefix_unprepared prepares fails _
      rw [if_neg fails] at ended
      obtain ⟨status, stmt, tail⟩ := prepared
      have prepared : status = 0 := not_not.1 fails
      subst prepared
      cases stmt with
      | none =>
          have completed : ScriptPiece.Completed ⟨text, 0, none, []⟩ := ⟨rfl, Or.inl ⟨rfl, rfl⟩⟩
          exact (ih ended).cons (.blank 0 tail opened prepares) rfl completed
      | some stmt =>
          dsimp only at ended
          cases stepped : engine.stepAll stmt rounds
              (state.record (.prepare text 0 (some stmt)) opened) with
          | none =>
              rw [stepped] at ended
              cases ended
          | some result =>
              obtain ⟨status, final⟩ := result
              rw [stepped] at ended
              dsimp only at ended
              obtain ⟨rows, notRow, here, recorded⟩ := stepped_spec prepares stepped
              by_cases fails : status ≠ sqliteDone
              · rw [if_pos fails] at ended
                cases ended
                exact runsPrefix_last here recorded
                  (Or.inr ⟨rfl, rfl, notRow, fails, rows, rfl⟩) _
              · rw [if_neg fails] at ended
                have completed : ScriptPiece.Completed ⟨text, 0, some stmt,
                    List.replicate rows sqliteRow ++ [status]⟩ := by
                  rw [not_not.1 fails]
                  exact ⟨rfl, Or.inr ⟨rfl, rows, rfl⟩⟩
                exact (ih ended).cons here recorded completed

/-- More rounds change nothing once the task has ended. -/
theorem onBeforeExec_mono {rounds more : Nat} (within : rounds ≤ more) {text : Buffer}
    {state : ScriptState σ} {result : WorkerRequest × ScriptState σ}
    (ended : engine.onBeforeExec rounds text state = some result) :
    engine.onBeforeExec more text state = some result := by
  induction rounds generalizing more text state with
  | zero => cases ended
  | succ rounds ih =>
      obtain ⟨more, rfl⟩ := Nat.exists_eq_add_of_lt within
      have later := Nat.le_add_right rounds more
      rw [onBeforeExec] at ended ⊢
      split
      · rename_i empty
        rw [if_pos empty] at ended
        exact ended
      rename_i nonempty
      rw [if_neg nonempty] at ended
      dsimp only at ended ⊢
      split
      · rename_i fails
        rw [if_pos fails] at ended
        exact ended
      rename_i succeeds
      rw [if_neg succeeds] at ended
      cases stmt : (engine.callPrepare text state).1.stmt with
      | none =>
          rw [stmt] at ended
          exact ih later ended
      | some stmt' =>
          rw [stmt] at ended
          dsimp only at ended ⊢
          cases stepped : engine.stepAll stmt' rounds (engine.callPrepare text state).2 with
          | none =>
              rw [stepped] at ended
              cases ended
          | some reached =>
              rw [stepped] at ended
              rw [stepAll_mono later stepped]
              dsimp only at ended ⊢
              split
              · rename_i fails
                rw [if_pos fails] at ended
                exact ended
              · rename_i succeeds
                rw [if_neg succeeds] at ended
                exact ih later ended

/-- The tail gets shorter with every piece, so that there is an end. -/
theorem onBeforeExec_total (progresses : engine.Progresses) (ends : engine.Ends) (text : Buffer)
    (state : ScriptState σ) :
    ∃ rounds result, engine.onBeforeExec rounds text state = some result := by
  induction hlen : text.length using Nat.strongRecOn generalizing text state with
  | ind length ih =>
  subst hlen
  by_cases empty : text = []
  · refine ⟨1, (.fresh, state), ?_⟩
    rw [onBeforeExec, if_pos empty]
  by_cases fails : (engine.callPrepare text state).1.status ≠ 0
  · refine ⟨1, ?_⟩
    rw [onBeforeExec, if_neg empty]
    exact ⟨_, if_pos fails⟩
  have shorter := progresses state.connection text empty (not_not.1 fails)
  cases stmt : (engine.callPrepare text state).1.stmt with
  | none =>
      obtain ⟨rounds, result, ended⟩ := ih _ shorter _ (engine.callPrepare text state).2 rfl
      refine ⟨rounds + 1, result, ?_⟩
      rw [onBeforeExec, if_neg empty]
      dsimp only
      rw [if_neg fails, stmt]
      exact ended
  | some stmt' =>
      obtain ⟨steps, ⟨status, reached⟩, stepped⟩ :=
        stepAll_total ends stmt' (engine.callPrepare text state).2
      obtain ⟨rounds, result, ended⟩ := ih _ shorter _ (engine.callFinalize stmt' reached) rfl
      by_cases last : status ≠ sqliteDone
      · refine ⟨steps + 1, ?_⟩
        rw [onBeforeExec, if_neg empty]
        dsimp only
        rw [if_neg fails, stmt]
        dsimp only
        rw [stepped]
        exact ⟨_, if_pos last⟩
      · refine ⟨max steps rounds + 1, result, ?_⟩
        rw [onBeforeExec, if_neg empty]
        dsimp only
        rw [if_neg fails, stmt]
        dsimp only
        rw [stepAll_mono (Nat.le_max_left _ _) stepped]
        dsimp only
        rw [if_neg last]
        exact onBeforeExec_mono (Nat.le_max_right _ _) ended

private theorem finalizedOnce_append {first second : List ScriptEvent}
    (before : FinalizedOnce first)
    (after : FinalizedOnce second) : FinalizedOnce (first ++ second) := by
  intro stmt
  rw [List.count_append, List.countP_append, before stmt, after stmt]

private theorem finalizedOnce_piece (piece : ScriptPiece) : FinalizedOnce piece.events := by
  intro stmt
  obtain ⟨text, prepared, handle, statuses⟩ := piece
  cases handle with
  | none => rfl
  | some handle =>
      have steps (tested : ScriptEvent → Bool) (others : ∀ status, tested (.step handle status) =
          false) : (statuses.map (ScriptEvent.step handle)).countP tested = 0 := by
        rw [List.countP_eq_zero]
        intro event member
        obtain ⟨status, _, rfl⟩ := List.mem_map.1 member
        rw [others status]
        exact Bool.false_ne_true
      unfold ScriptPiece.events
      dsimp only
      rw [List.count, List.countP_cons, List.countP_cons, List.countP_append, List.countP_append,
        steps _ fun _ => rfl, steps _ fun _ => rfl]
      by_cases same : handle = stmt
      · subst same
        simp
      · simp [same]

private theorem finalizedOnce_pieces (pieces : List ScriptPiece) :
    FinalizedOnce (pieces.flatMap ScriptPiece.events) := by
  induction pieces with
  | nil => exact fun _ => rfl
  | cons piece pieces ih =>
      rw [List.flatMap_cons]
      exact finalizedOnce_append (finalizedOnce_piece piece) ih

private theorem RunsPrefix.finalizedOnce {connection : σ} {text : Buffer} {request : WorkerRequest}
    {after : ScriptState σ} (ran : engine.RunsPrefix (.start connection) text request after) :
    FinalizedOnce after.events := by
  obtain ⟨pieces, rest, _, events, _⟩ := ran
  rw [events]
  exact finalizedOnce_pieces pieces

end ScriptEngine

def ScriptPiece.outcome (piece : ScriptPiece) : ExecPiece :=
  { prepared := piece.prepared
    hasStatement := piece.stmt.isSome
    stepped := piece.statuses.getLast?.getD 0 }

theorem ScriptPiece.Completed.execPieces_cons {piece : ScriptPiece} (completed : piece.Completed)
    (errmsg : String) (pieces : List ExecPiece) :
    WorkerState.execPieces errmsg (piece.outcome :: pieces) =
      WorkerState.execPieces errmsg pieces := by
  obtain ⟨prepared, kind⟩ := completed
  have passes : ¬piece.outcome.prepared ≠ 0 := not_not.2 prepared
  rw [WorkerState.execPieces, if_neg passes]
  rcases kind with ⟨blank, _⟩ | ⟨_, rows, statuses⟩
  · have noStatement : piece.outcome.hasStatement = false := by
      rw [outcome, blank]
      rfl
    rw [noStatement]
    rfl
  · have done : piece.outcome.stepped = sqliteDone := by
      rw [outcome, statuses, List.getLast?_concat]
      rfl
    rw [done]
    simp

theorem ScriptPiece.FailsWith.execPieces_cons {piece : ScriptPiece} {errcode : Int}
    (fails : piece.FailsWith errcode) (errmsg : String) (pieces : List ExecPiece) :
    WorkerState.execPieces errmsg (piece.outcome :: pieces) = .failed errcode errmsg := by
  rw [WorkerState.execPieces]
  rcases fails with ⟨prepared, notOk, _⟩ | ⟨prepared, hasStatement, _, notDone, rows, statuses⟩
  · have same : piece.outcome.prepared = errcode := prepared
    rw [same, if_pos notOk]
  · have passes : ¬piece.outcome.prepared ≠ 0 := not_not.2 prepared
    have last : piece.outcome.stepped = errcode := by
      rw [outcome, statuses, List.getLast?_concat]
      rfl
    have isStatement : piece.outcome.hasStatement = true := hasStatement
    rw [if_neg passes, last, isStatement]
    simp [notDone]

namespace ScriptEngine

variable {σ : Type} {engine : ScriptEngine σ}

/-- The request ends as the task on the database has it. -/
theorem RunsPrefix.request_eq {before after : ScriptState σ} {text : Buffer}
    {request : WorkerRequest} (ran : engine.RunsPrefix before text request after) :
    ∃ pieces rest errmsg, engine.Executes before.connection text pieces after.connection rest ∧
      request = WorkerState.execPieces errmsg (pieces.map ScriptPiece.outcome) := by
  obtain ⟨pieces, rest, executes, _, ends⟩ := ran
  have skip {earlier : List ScriptPiece} (all : ∀ piece ∈ earlier, piece.Completed)
      (errmsg : String) (later : List ScriptPiece) :
      WorkerState.execPieces errmsg ((earlier ++ later).map ScriptPiece.outcome) =
        WorkerState.execPieces errmsg (later.map ScriptPiece.outcome) := by
    induction earlier with
    | nil => rfl
    | cons piece earlier ih =>
        rw [List.cons_append, List.map_cons, (all piece List.mem_cons_self).execPieces_cons]
        exact ih fun other member => all other (List.mem_cons_of_mem _ member)
  rcases ends with ⟨all, _, same⟩ | ⟨earlier, last, errcode, errmsg, split, all, fails, same⟩
  · refine ⟨pieces, rest, "", executes, ?_⟩
    have passed := skip all "" []
    rw [List.append_nil] at passed
    rw [same, passed]
    rfl
  · refine ⟨pieces, rest, errmsg, executes, ?_⟩
    rw [same, split, skip all, List.map_cons, fails.execPieces_cons]

/-- The task runs the statements of a script in order, each to its end before the next is
prepared, up to the first failure, and finalizes what it has prepared. -/
theorem exec_runs_prefix (progresses : engine.Progresses) (ends : engine.Ends) (connection : σ)
    (sql : String) :
    ∃ request after,
      (∃ rounds, engine.onBeforeExec rounds (scriptText sql) (.start connection) =
        some (request, after)) ∧
      (∀ rounds result, engine.onBeforeExec rounds (scriptText sql) (.start connection) =
        some result → result = (request, after)) ∧
      engine.RunsPrefix (.start connection) (scriptText sql) request after ∧
      FinalizedOnce after.events := by
  obtain ⟨rounds, ⟨request, after⟩, ended⟩ :=
    onBeforeExec_total progresses ends (scriptText sql) (.start connection)
  have ran := onBeforeExec_spec ended
  refine ⟨request, after, ⟨rounds, ended⟩, fun others result alsoEnded => ?_, ran,
    ran.finalizedOnce⟩
  have first := onBeforeExec_mono (Nat.le_max_left rounds others) ended
  have second := onBeforeExec_mono (Nat.le_max_right rounds others) alsoEnded
  exact Option.some.inj (second.symm.trans first)

/-- Every byte is a statement, but a semicolon is none.  The letter `r` has two rows, and an
exclamation mark breaks a constraint.  The state is the number of rows to come. -/
def bytewise : ScriptEngine Nat :=
  { prepare := fun _ text =>
      let stmt := text.head?.map UInt8.toNat
      (⟨0, if stmt = some 59 then none else stmt, text.tail⟩, if stmt = some 114 then 2 else 0)
    step := fun stmt rows =>
      match rows with
      | later + 1 => (sqliteRow, later)
      | 0 => (if stmt = 33 then 19 else sqliteDone, 0)
    finalize := fun _ rows => rows
    errmsg := fun _ => "constraint failed" }

private theorem bytewise_progresses : bytewise.Progresses := by
  intro rows text nonempty _
  change text.tail.length < text.length
  rw [List.length_tail]
  have := List.length_pos_iff.2 nonempty
  omega

private theorem bytewise_ends : bytewise.Ends := by
  intro stmt rows
  induction rows with
  | zero =>
      refine ⟨[if stmt = 33 then 19 else sqliteDone], 0, .cons (.nil _), _,
        List.mem_singleton_self _, ?_⟩
      split <;> decide
  | succ rows ih =>
      obtain ⟨statuses, final, steps, status, member, ends⟩ := ih
      exact ⟨sqliteRow :: statuses, final, .cons steps, status, List.mem_cons_of_mem _ member,
        ends⟩

/-- The rows of the first statement are stepped over, and the failure of the second is the end. -/
theorem exec_runs_prefix_bytewise : ∃ request after,
    bytewise.onBeforeExec 9 (scriptText "r;!x") (.start 0) = some (request, after) ∧
      request = .failed 19 "constraint failed" ∧
      bytewise.RunsPrefix (.start 0) (scriptText "r;!x") request after ∧
      FinalizedOnce after.events := by
  obtain ⟨request, after, -, unique, runs, finalized⟩ :=
    exec_runs_prefix bytewise_progresses bytewise_ends 0 "r;!x"
  obtain ⟨result, ran, failed⟩ : ∃ result,
      bytewise.onBeforeExec 9 (scriptText "r;!x") (.start 0) = some result ∧
        result.1 = .failed 19 "constraint failed" := ⟨_, rfl, rfl⟩
  obtain rfl := unique 9 result ran
  exact ⟨request, after, ran, failed, runs, finalized⟩

end ScriptEngine
end ParaQL
