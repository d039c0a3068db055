/-
Which connection handles the tasks on a statement read.

They look at the handle of the statement only.  A close takes the handle of the database
away and leaves the statements in its list.
-/

import ParaQL.WorkerTasks

namespace ParaQL

open Async

def TaskKind.usesStatement : TaskKind → Bool
  | .bind | .step | .run => true
  | _ => false

/-- A task that uses a statement reads no NULL pointer, and ends with MISUSE after a close. -/
def TaskRecord.Safe (record : TaskRecord) : Prop :=
  record.kind.usesStatement = true →
    (∀ read ∈ record.result.reads, read.db = true ∧ read.handle = true) ∧
    (record.closed = true → record.result.request.errcode = sqliteMisuse)

namespace WorkerState

def HandlesSafe (state : WorkerState) : Prop := ∀ record ∈ state.log, record.Safe

def OnOpenConnection (state : WorkerState) : WorkerTask → Prop
  | .bind stmt _ _ | .step stmt _ _ | .run stmt _ _ =>
      (state.statements stmt).handle = true → state.handle = true
  | _ => True

structure Linked (state : WorkerState) : Prop where
  db : ∀ stmt, (state.statements stmt).handle = true → (state.statements stmt).db = true
  listed : ∀ stmt, (state.statements stmt).db = true → stmt ∈ state.linked
  connected : ∀ stmt, (state.statements stmt).handle = true →
    state.handle = true ∨ state.closed = true
  shut : state.closed = true → state.handle = false
  unopened : state.phase = .unopened →
    state.closed = false ∧ ∀ stmt, (state.statements stmt).handle = false

private theorem linked_initial : initial.Linked := by
  constructor
  · intro stmt isOpen
    cases isOpen
  · intro stmt isLinked
    cases isLinked
  · intro stmt isOpen
    cases isOpen
  · intro closed
    cases closed
  · intro _
    exact ⟨rfl, fun _ => rfl⟩

variable {state next : WorkerState} {task : WorkerTask}

theorem Linked.opened (linked : state.Linked) (unopened : state.phase = .unopened)
    (status : Int) (handle : Bool) (errmsg : String) :
    (state.onBeforeOpen status handle errmsg).1.Linked := by
  obtain ⟨notClosed, noHandles⟩ := linked.unopened unopened
  have none_ (stmt : Nat) : (state.statements stmt).handle ≠ true := by
    rw [noHandles stmt]
    exact Bool.false_ne_true
  have notShut : state.closed ≠ true := by
    rw [notClosed]
    exact Bool.false_ne_true
  unfold onBeforeOpen
  split
  · exact ⟨linked.db, linked.listed, fun stmt isOpen => absurd isOpen (none_ stmt),
      fun closed => absurd closed notShut, linked.unopened⟩
  · exact ⟨linked.db, linked.listed, fun stmt isOpen => absurd isOpen (none_ stmt),
      fun closed => absurd closed notShut, fun impossible => by cases impossible⟩

theorem Linked.closed (linked : state.Linked) (opened : state.phase = .opened) (status : Int)
    (errmsg : String) : (state.onBeforeClose status errmsg).1.Linked := by
  unfold onBeforeClose
  split
  · exact linked
  · refine ⟨linked.db, linked.listed, fun _ _ => Or.inr rfl, fun _ => rfl, fun unopened => ?_⟩
    cases opened.symm.trans unopened

theorem Linked.prepared (linked : state.Linked) (opened : state.phase = .opened) {status : Int}
    (documented : state.handle = false → status = sqliteMisuse) (handle : Bool)
    (errmsg : String) : (state.onBeforePrepare status handle errmsg).1.Linked := by
  unfold onBeforePrepare
  split
  · exact linked
  · rename_i succeeded
    have connected : state.handle = true := by
      by_contra disconnected
      have misuse := documented (eq_false_of_ne_true disconnected)
      exact succeeded (by rw [misuse]; decide)
    refine ⟨?_, ?_, fun _ _ => Or.inl connected, linked.shut, ?_⟩
    · intro stmt isOpen
      change (Function.update state.statements state.count _ stmt).handle = true at isOpen
      change (Function.update state.statements state.count _ stmt).db = true
      by_cases same : stmt = state.count
      · rw [same, Function.update_self]
      · rw [Function.update_of_ne same] at isOpen ⊢
        exact linked.db stmt isOpen
    · intro stmt isLinked
      change (Function.update state.statements state.count _ stmt).db = true at isLinked
      by_cases same : stmt = state.count
      · rw [same]
        exact List.mem_cons_self
      · rw [Function.update_of_ne same] at isLinked
        exact List.mem_cons_of_mem _ (linked.listed stmt isLinked)
    · intro unopened
      cases opened.symm.trans unopened

/-- Finalizing a statement takes its pointers away, and nothing else. -/
theorem onBeforeFinalize_spec (state : WorkerState) (stmt : Nat) : ∃ linked,
    state.onBeforeFinalize stmt =
      { state.setStatement stmt { handle := false, db := false } with linked := linked } ∧
    ∀ other, other ≠ stmt → other ∈ state.linked → other ∈ linked := by
  unfold onBeforeFinalize removeStatement
  have own : (state.setStatement stmt { state.statements stmt with handle := false }).statements
      stmt = { state.statements stmt with handle := false } := Function.update_self _ _ _
  rw [own]
  cases isLinked : (state.statements stmt).db with
  | true =>
      refine ⟨state.linked.filter (· ≠ stmt), ?_, fun other differs listed => ?_⟩
      · unfold setStatement
        simp only [if_true, Function.update_idem]
      · exact List.mem_filter.2 ⟨listed, decide_eq_true differs⟩
  | false =>
      refine ⟨state.linked, ?_, fun _ _ listed => listed⟩
      simp only [isLinked, Bool.false_eq_true, if_false]
      rfl

theorem Linked.finalized (linked : state.Linked) (stmt : Nat) :
    (state.onBeforeFinalize stmt).Linked := by
  obtain ⟨left, same, kept⟩ := state.onBeforeFinalize_spec stmt
  rw [same]
  -- Whatever still has a pointer is another statement.
  have other_of {other : Nat} {pointer : WorkerStatement → Bool}
      (isSet : pointer (Function.update state.statements stmt
        { handle := false, db := false } other) = true)
      (null : pointer { handle := false, db := false } = false) :
      other ≠ stmt ∧ pointer (state.statements other) = true := by
    rw [Function.update_apply] at isSet
    split at isSet
    · rw [null] at isSet
      cases isSet
    · exact ⟨‹_›, isSet⟩
  constructor
  · intro other isOpen
    obtain ⟨differs, wasOpen⟩ := other_of isOpen rfl
    change (Function.update state.statements stmt _ other).db = true
    rw [Function.update_of_ne differs]
    exact linked.db other wasOpen
  · intro other isLinked
    obtain ⟨differs, wasLinked⟩ := other_of isLinked rfl
    exact kept other differs (linked.listed other wasLinked)
  · intro other isOpen
    exact linked.connected other (other_of isOpen rfl).2
  · exact linked.shut
  · intro unopened
    refine ⟨(linked.unopened unopened).1, fun other => ?_⟩
    change (Function.update state.statements stmt _ other).handle = false
    rw [Function.update_apply]
    split
    · rfl
    · exact (linked.unopened unopened).2 other

theorem Linked.collected (linked : state.Linked) : state.onBeforeFinalizeDb.Linked := by
  have gone (stmt : Nat) : (state.onBeforeFinalizeDb.statements stmt).db = false ∧
      (state.onBeforeFinalizeDb.statements stmt).handle = false := by
    unfold onBeforeFinalizeDb finalizeStatements
    dsimp only
    split
    · exact ⟨rfl, rfl⟩
    · rename_i unlisted
      have noDb : (state.statements stmt).db = false :=
        eq_false_of_ne_true fun isLinked => unlisted (linked.listed stmt isLinked)
      refine ⟨noDb, eq_false_of_ne_true fun isOpen => ?_⟩
      rw [linked.db stmt isOpen] at noDb
      cases noDb
  constructor
  · intro stmt isOpen
    rw [(gone stmt).2] at isOpen
    cases isOpen
  · intro stmt isLinked
    rw [(gone stmt).1] at isLinked
    cases isLinked
  · intro stmt isOpen
    rw [(gone stmt).2] at isOpen
    cases isOpen
  · intro _
    rfl
  · intro impossible
    cases impossible

theorem Linked.perform (linked : state.Linked) (allowed : state.Allows task) :
    (state.perform task).1.Linked := by
  cases task with
  | «open» status handle errmsg => exact linked.opened allowed.1 status handle errmsg
  | close status errmsg => exact linked.closed allowed.1 status errmsg
  | prepare status handle errmsg => exact linked.prepared allowed.1 allowed.2 handle errmsg
  | finalize stmt => exact linked.finalized stmt
  | collect => exact linked.collected
  | exec pieces errmsg => exact linked
  | reset stmt => exact linked
  | parse stmt => exact linked
  | bind stmt statuses errmsg => exact linked
  | step stmt status errmsg => exact linked
  | run stmt status errmsg => exact linked

theorem Linked.step (linked : state.Linked) (stepped : state.step task = some next) :
    next.Linked := by
  obtain ⟨allowed, rfl⟩ := step_eq_some_iff.1 stepped
  have performed := linked.perform allowed
  exact ⟨performed.db, performed.listed, performed.connected, performed.shut,
    performed.unopened⟩

/-! ### What a task reads -/

/-- A task that finds the handle of its statement either reads the handle of the database, or
does not fail with MISUSE.  Else it fails with it. -/
structure Uses (state : WorkerState) (stmt : Nat) (result : TaskResult) : Prop where
  finalized : (state.statements stmt).handle = false →
    result = ⟨.failed sqliteMisuse stmtFinalized, []⟩
  reads : (state.statements stmt).handle = true →
    ∀ read ∈ result.reads, read = state.readHandle stmt
  misuse : (state.statements stmt).handle = true → result.reads = [] →
    result.request.errcode ≠ sqliteMisuse

private theorem uses_onStatement {stmt : Nat} {result : TaskResult}
    (reads : ∀ read ∈ result.reads, read = state.readHandle stmt)
    (misuse : result.reads = [] → result.request.errcode ≠ sqliteMisuse) :
    state.Uses stmt (if (state.statements stmt).handle then result
      else ⟨.failed sqliteMisuse stmtFinalized, []⟩) := by
  constructor
  · intro null
    rw [null]
    rfl
  · intro isOpen
    rw [isOpen]
    exact reads
  · intro isOpen
    rw [isOpen]
    exact misuse

private theorem uses_bind (stmt : Nat) (statuses : List Int) (errmsg : String) :
    state.Uses stmt (state.onBeforeBind stmt statuses errmsg) := by
  apply uses_onStatement
  · split
    · intro read member
      exact List.mem_singleton.1 member
    · intro read member
      cases member
  · split
    · intro impossible
      cases impossible
    · intro _
      decide

private theorem uses_step (stmt : Nat) (status : Int) (errmsg : String) :
    state.Uses stmt (state.onBeforeStep stmt status errmsg) := by
  apply uses_onStatement
  · split
    · intro read member
      cases member
    · split
      · intro read member
        cases member
      · intro read member
        exact List.mem_singleton.1 member
  · split
    · intro _
      decide
    · split
      · intro _
        decide
      · intro impossible
        cases impossible

private theorem uses_run (stmt : Nat) (status : Int) (errmsg : String) :
    state.Uses stmt (state.onBeforeRun stmt status errmsg) := by
  apply uses_onStatement
  · split
    · intro read member
      exact List.mem_singleton.1 member
    · intro read member
      rcases List.mem_cons.1 member with first | member
      · exact first
      · exact List.mem_singleton.1 member
  · split
    · intro impossible
      cases impossible
    · intro impossible
      cases impossible

/-- A statement with a handle may be used exactly while the database has one. -/
theorem Uses.safe_iff {stmt : Nat} {result : TaskResult} {kind : TaskKind}
    (uses : state.Uses stmt result) (linked : state.Linked) (used : kind.usesStatement = true) :
    TaskRecord.Safe ⟨kind, state.closed, result⟩ ↔
      ((state.statements stmt).handle = true → state.handle = true) := by
  cases isOpen : (state.statements stmt).handle with
  | false =>
      refine iff_of_true (fun _ => ?_) nofun
      rw [uses.finalized isOpen]
      refine ⟨fun read member => ?_, fun _ => rfl⟩
      cases member
  | true =>
      have db := linked.db stmt isOpen
      have read_eq : state.readHandle stmt = ⟨true, state.handle⟩ := by
        unfold readHandle
        rw [db, Bool.true_and]
      constructor
      · intro safe _
        obtain ⟨reads, misuse⟩ := safe used
        rcases linked.connected stmt isOpen with connected | closed
        · exact connected
        · -- The statement outlived the connection: whatever comes of the task is wrong.
          cases noReads : result.reads with
          | nil => exact absurd (misuse closed) (uses.misuse isOpen noReads)
          | cons read rest =>
              have member : read ∈ result.reads := by
                rw [noReads]
                exact List.mem_cons_self
              have nonNull := (reads read member).2
              rw [uses.reads isOpen read member, read_eq] at nonNull
              exact nonNull
      · intro connected _
        refine ⟨fun read member => ?_, fun closed => ?_⟩
        · rw [uses.reads isOpen read member, read_eq]
          exact ⟨rfl, connected rfl⟩
        · have shut := linked.shut closed
          rw [connected rfl] at shut
          cases shut

private theorem safe_perform_iff (linked : state.Linked) :
    TaskRecord.Safe ⟨task.kind, state.closed, (state.perform task).2⟩ ↔
      state.OnOpenConnection task := by
  have other {kind : TaskKind} (unused : kind.usesStatement = false) (result : TaskResult) :
      TaskRecord.Safe ⟨kind, state.closed, result⟩ := by
    intro used
    rw [unused] at used
    cases used
  cases task with
  | bind stmt statuses errmsg => exact (uses_bind stmt statuses errmsg).safe_iff linked rfl
  | step stmt status errmsg => exact (uses_step stmt status errmsg).safe_iff linked rfl
  | run stmt status errmsg => exact (uses_run stmt status errmsg).safe_iff linked rfl
  | «open» status handle errmsg => exact iff_of_true (other rfl _) trivial
  | close status errmsg => exact iff_of_true (other rfl _) trivial
  | exec pieces errmsg => exact iff_of_true (other rfl _) trivial
  | prepare status handle errmsg => exact iff_of_true (other rfl _) trivial
  | finalize stmt => exact iff_of_true (other rfl _) trivial
  | reset stmt => exact iff_of_true (other rfl _) trivial
  | parse stmt => exact iff_of_true (other rfl _) trivial
  | collect => exact iff_of_true (other rfl _) trivial

/-- In a run of any tasks, all statements are used safely exactly when none with a handle is
used after the database has lost its own. -/
theorem handlesSafe_iff (tasks : List WorkerTask) :
    Machine.Always WorkerState.step HandlesSafe initial tasks ↔
      Machine.Heeds WorkerState.step OnOpenConnection initial tasks := by
  have keeps : ∀ (state : WorkerState) task next, state.Linked ∧ state.HandlesSafe →
      state.OnOpenConnection task → state.step task = some next →
        next.Linked ∧ next.HandlesSafe := by
    intro state task next ⟨linked, safe⟩ heeds stepped
    refine ⟨linked.step stepped, fun record member => ?_⟩
    rcases (mem_log_step stepped).1 member with earlier | own
    · exact safe record earlier
    · rw [own]
      exact (safe_perform_iff linked).2 heeds
  have breaks : ∀ (state : WorkerState) task next, state.Linked ∧ state.HandlesSafe →
      ¬state.OnOpenConnection task → state.step task = some next → ¬next.HandlesSafe := by
    intro state task next ⟨linked, _⟩ unheeded stepped safe
    have own := safe _ ((mem_log_step stepped).2 (Or.inr rfl))
    exact unheeded ((safe_perform_iff linked).1 own)
  have begins : initial.Linked ∧ initial.HandlesSafe := by
    refine ⟨linked_initial, fun record member => ?_⟩
    cases member
  exact Machine.always_iff_heeds (fun _ known => known.2) keeps breaks begins tasks

/-- A statement is run after the close of its database. -/
theorem handlesSafe_closed_fails : ∃ final,
    Machine.run WorkerState.step initial
      [.open 0 true "", .prepare 0 true "", .close 0 "", .run 0 sqliteDone ""] = some final ∧
      ¬final.HandlesSafe := by
  refine ⟨_, rfl, fun safe => ?_⟩
  have read := safe ⟨.run, true, ⟨.fresh, [⟨true, false⟩, ⟨true, false⟩]⟩⟩ (by decide) rfl
  have nonNull := (read.1 ⟨true, false⟩ List.mem_cons_self).2
  cases nonNull

end WorkerState
end ParaQL
