/-
What a FLUSH reports about the operations of its group.

The STMT of a group runs the BATCH branch itself, with the parameters it does not have,
and the counters of `_apply` are not reset between two groups.
-/

import Mathlib.Algebra.Ring.Int.Defs
import ParaQL.OwnOutcomes

namespace ParaQL

open Async Async.Task Bytes

def OplogCall.nodes (id : CallId) (call : OplogCall) : List Node :=
  call.operations.map fun operation => ⟨some id, operation⟩

def succeeded (results : List (Except JsValue RunResult)) : List RunResult :=
  results.filterMap Except.toOption

def failures (results : List (Except JsValue RunResult)) : Nat :=
  results.countP fun result => !result.isOk

def account (results : List (Except JsValue RunResult)) : Settlement :=
  .flushed ((succeeded results).map RunResult.changes).sum
    (((succeeded results).map RunResult.lastInsertRowid).getLast?.getD 0) (failures results)

def Calls.queued (calls : Calls) (id : CallId) : List (Except JsValue RunResult) :=
  (calls.attempts id).tail

private theorem failures_concat (results : List (Except JsValue RunResult))
    (result : Except JsValue RunResult) :
    failures (results ++ [result]) = failures results + failures [result] :=
  List.countP_append

private theorem errors_count (progress : Progress) (result : Except JsValue RunResult) :
    (progress.count result).errors = progress.errors + failures [result] := by
  cases result with
  | ok value => rfl
  | error thrown => rfl

/-! ### The failing STMT -/

structure Calls.Overcounted (id : CallId) (progress : Progress) (calls : Calls) : Prop where
  opened : calls.attempts id ≠ []
  errors : failures (calls.queued id) < progress.errors

namespace Database

variable {κ : Type} {db : Database κ} {id : CallId} {progress : Progress}

def ended {σ : Type} (_ : JsValue) (_ : σ) : Prop := True

private theorem overcounted_stable : Stable db.AnyMove
    (fun state : Instance κ => state.calls.Overcounted id progress) := by
  intro state moved move overcounted
  cases move with
  | call next step =>
      have same := (Calls.completions_move step).2
      refine ⟨?_, ?_⟩
      · rw [same]
        exact overcounted.opened
      · unfold Calls.queued
        rw [same]
        exact overcounted.errors
  | localStep call permitted makes => exact overcounted

/-- `_bind` reads the length of the positional parameters, which a STMT does not have. -/
theorem runStatement_absent (sql : String) {rely : Engine κ → Engine κ → Prop}
    {before : Engine κ → Prop} :
    Triple rely before (db.runStatement sql .absent) (fun _ _ => False) ended := by
  have binds : Triple rely before (db.bind sql .absent) (fun _ _ => False) ended :=
    triple_throw _ fun _ _ => trivial
  have body : Triple rely before (do
      db.bind sql .absent
      let bound ← Task.read fun engine => engine.bound sql
      db.request (db.sqlite.run sql bound)) (fun _ _ => False) ended :=
    binds.bind fun _ _ _ _ impossible _ => impossible.elim
  exact Triple.ensure_rejects (body.catch fun thrown => triple_throw _ fun _ _ => trivial)

private theorem runOn_absent (sql : String) :
    Triple db.AnyMove (fun _ => True) (db.runOn (some sql) .absent).outcome
      (fun result _ => ∃ thrown, result = .error thrown) ended := by
  have local_rejects : Triple (fun _ _ : Engine κ => True) (fun _ => True)
      (db.runStatement sql .absent) (fun _ _ => False) ended := runStatement_absent sql
  have rejects : Triple db.AnyMove (fun _ => True) (db.runOn (some sql) .absent)
      (fun _ _ => False) ended :=
    local_rejects.zoom Instance.lawful_engine fun _ _ _ => .single trivial
  refine (rejects.outcome ended).mono (fun _ known => known) ?_ fun _ _ _ => trivial
  intro result state ends
  cases result with
  | ok value => exact ends.elim
  | error thrown => exact ⟨thrown, rfl⟩

private theorem switchTo_overcounted (view : Option Nat) :
    Triple db.AnyMove (fun state => state.calls.Overcounted id progress) (switchTo view)
      (fun _ state => state.calls.Overcounted id progress) ended :=
  switchTo_calls (Calls.Overcounted id progress) overcounted_stable (fun _ _ _ => trivial) view

private theorem applyBatch_overcounted {opens : Bool} {view : Nat} {parameters : Parameters}
    {before : Instance κ → Prop} {known : Except JsValue RunResult → Instance κ → Prop}
    (enters : Triple db.AnyMove before (switchTo (some view)) (fun _ => before) ended)
    (ran : Triple db.AnyMove before (db.runOn progress.stmt parameters).outcome known ended)
    (stable : ∀ result, Stable db.AnyMove (known result))
    (counts : ∀ result state, known result state →
      (state.calls.attempt (some id) opens result).Overcounted id (progress.count result)) :
    Triple db.AnyMove before (db.applyBatch (some id) opens view parameters progress)
      (fun after state => state.calls.Overcounted id after) ended := by
  refine enters.bind fun _ => ran.bind fun result => ?_
  have attempted : Triple db.AnyMove (known result)
      (Task.modify fun state =>
        { state with calls := state.calls.attempt (some id) opens result })
      (fun _ state => state.calls.Overcounted id (progress.count result)) ended :=
    triple_modify (stable result) (counts result)
  refine attempted.bind fun _ => (switchTo_overcounted none).bind fun _ => ?_
  exact triple_pure _ fun _ overcounted => overcounted

/-- The STMT of a group counts itself. -/
theorem applyStmt_overcounted (sql : String) (view : Nat) :
    Triple db.AnyMove (fun _ => True)
      (db.applyNode view ⟨some id, .stmt sql .absent⟩ progress)
      (fun after state => state.calls.Overcounted id after) ended := by
  refine (triple_any _ _ (db.prepareStmt sql)).bind fun _ => ?_
  refine applyBatch_overcounted (triple_any _ _ _) (runOn_absent sql)
    (fun result _ _ _ failed => failed) ?_
  rintro _ state ⟨thrown, rfl⟩
  refine ⟨?_, ?_⟩
  · simp [Calls.attempt]
  · simp [Calls.attempt, Calls.queued, failures, Progress.count]

private theorem applyQueued_overcounted (parameters : Parameters) (view : Nat) :
    Triple db.AnyMove (fun state => state.calls.Overcounted id progress)
      (db.applyNode view ⟨some id, .batch parameters⟩ progress)
      (fun after state => state.calls.Overcounted id after) ended := by
  have ran : Triple db.AnyMove (fun state => state.calls.Overcounted id progress)
      (db.runOn progress.stmt parameters).outcome
      (fun _ state => state.calls.Overcounted id progress) ended := by
    cases progress.stmt with
    | none => exact triple_pure _ fun _ known => known
    | some sql =>
        exact outcome_calls (Calls.Overcounted id progress) overcounted_stable
          (db.runStatement_steps sql parameters)
  refine applyBatch_overcounted (switchTo_overcounted _) ran (fun _ => overcounted_stable) ?_
  intro result state overcounted
  have grown : (state.calls.attempt (some id) false result).attempts id =
      state.calls.attempts id ++ [result] := by
    simp [Calls.attempt]
  refine ⟨?_, ?_⟩
  · rw [grown]
    exact List.append_ne_nil_of_left_ne_nil overcounted.opened _
  · unfold Calls.queued
    rw [grown, List.tail_append_of_ne_nil overcounted.opened, failures_concat, errors_count]
    exact Nat.add_lt_add_right overcounted.errors _

/-- The last node that completed was the FLUSH of the call, and it resolved with what the
queued operations of the call amount to. -/
def FlushAccounted (id : CallId) (final : Instance κ) : Prop :=
  ∃ completion ∈ final.calls.completions.getLast?, completion.owner = some id ∧
    completion.given = account (final.calls.queued id)

private theorem applyFlush_unaccounted (view : Nat) :
    Triple db.AnyMove (fun state => state.calls.Overcounted id progress)
      (db.applyNode view ⟨some id, .flush⟩ progress)
      (fun _ state => ¬FlushAccounted id state) ended := by
  refine Triple.bind (?_ : Triple db.AnyMove _ _
    (fun _ state => ¬FlushAccounted id state) ended) fun _ => triple_pure _ fun _ known => known
  refine triple_modify overcounted_stable fun state overcounted accounted => ?_
  obtain ⟨completion, last, _, given⟩ := accounted
  simp only [Calls.complete, List.getLast?_concat, Option.mem_def, Option.some.injEq] at last
  subst last
  have errors : progress.errors = failures (state.calls.queued id) := by
    have sameAttempts := congrFun (state.calls.settle_rest progress.flushed).2.2 id
    have sameErrors := (Settlement.flushed.inj given).2.2
    rw [sameErrors]
    exact congrArg (fun attempts => failures attempts.tail) sameAttempts
  exact absurd overcounted.errors (errors ▸ Nat.lt_irrefl _)

private theorem applyGroup_unaccounted (operations : List Parameters) (view : Nat) :
    Triple db.AnyMove (fun state => state.calls.Overcounted id progress)
      (db.applyFrom view
        (operations.map (fun parameters => ⟨some id, .batch parameters⟩) ++ [⟨some id, .flush⟩])
        progress)
      (fun _ state => ¬FlushAccounted id state) ended := by
  induction operations generalizing progress with
  | nil => exact (applyFlush_unaccounted view).bind fun _ => triple_pure () fun _ known => known
  | cons parameters operations ih =>
      exact (applyQueued_overcounted parameters view).bind fun progress => ih

private theorem apply_unaccounted (earlier : List Node) (sql : String)
    (operations : List Parameters)
    (view : Nat) :
    Triple db.AnyMove (fun _ => True)
      (db.applyFrom view (earlier ++ (OplogCall.flush sql operations).nodes id) progress)
      (fun _ state => ¬FlushAccounted id state) ended := by
  induction earlier generalizing progress with
  | nil =>
      have split : (OplogCall.flush sql operations).nodes id = ⟨some id, .stmt sql .absent⟩ ::
          (operations.map (fun parameters => ⟨some id, .batch parameters⟩) ++
            [⟨some id, .flush⟩]) := by
        simp [OplogCall.nodes, OplogCall.operations]
      rw [List.nil_append, split]
      exact (applyStmt_overcounted sql view).bind fun progress =>
        applyGroup_unaccounted operations view
  | cons node earlier ih =>
      exact (triple_any _ _ (db.applyNode view node progress)).bind fun progress => ih

def AccountsFlushes (db : Database κ) : Prop :=
  ∀ (earlier : List Node) id sql operations view state final,
    RunUnder db.AnyMove
        (db.apply (earlier ++ (OplogCall.flush sql operations).nodes id) view) state (.ok ())
        final →
      FlushAccounted id final

/-- No flush is: whatever its operations, their outcomes and the nodes before them are, and
whatever happens in the meantime, the STMT is one more error. -/
theorem not_flushAccounted {earlier : List Node} {sql : String}
    {operations : List Parameters} {view : Nat} {state final : Instance κ}
    (ran : RunUnder db.AnyMove
      (db.apply (earlier ++ (OplogCall.flush sql operations).nodes id) view) state (.ok ())
      final) :
    ¬FlushAccounted id final :=
  apply_unaccounted earlier sql operations view state (.ok ()) final trivial ran

def insertingSqlite : Sqlite Unit :=
  { Sqlite.idle Unit with run := fun _ _ => .calls { changes := 1, lastInsertRowid := 1 } [] }

def oneInsert : List Node :=
  (OplogCall.flush "INSERT INTO t VALUES (1)" [{ named := .null, positional := .list [] }]).nodes 0

private theorem oneInsert_ran :
    RunUnder (sample insertingSqlite).AnyMove ((sample insertingSqlite).apply ([] ++ oneInsert) 0)
      (.opened (fun _ _ => ∅) (fun _ => 0) ()) (.ok ())
      ((sample insertingSqlite).applyAlone oneInsert 0
        (.opened (fun _ _ => ∅) (fun _ => 0) ())).after := by
  have ran := runUnder_run (sample insertingSqlite).AnyMove
    ((sample insertingSqlite).apply oneInsert 0) (.opened (fun _ _ => ∅) (fun _ => 0) ())
  have returned : (((sample insertingSqlite).apply oneInsert 0).run
      (.opened (fun _ _ => ∅) (fun _ => 0) ())).1 = .ok () := rfl
  rw [returned] at ran
  exact ran

theorem not_flushAccounted_oneInsert :
    ¬FlushAccounted 0 ((sample insertingSqlite).applyAlone oneInsert 0
      (.opened (fun _ _ => ∅) (fun _ => 0) ())).after :=
  not_flushAccounted oneInsert_ran

/-- The one queued operation succeeds, and one error is reported. -/
theorem accountsFlushes_oneInsert_fails : ¬(sample insertingSqlite).AccountsFlushes := by
  intro accounts
  obtain ⟨completion, last, _, given⟩ := accounts _ _ _ _ _ _ _ oneInsert_ran
  have told : ((sample insertingSqlite).applyAlone oneInsert 0
      (.opened (fun _ _ => ∅) (fun _ => 0) ())).after.calls.completions.getLast?.map
        Completion.given = some (.flushed 1 1 1) := by
    decide +kernel
  have due : account (((sample insertingSqlite).applyAlone oneInsert 0
      (.opened (fun _ _ => ∅) (fun _ => 0) ())).after.calls.queued 0) = .flushed 1 1 0 := by
    decide +kernel
  rw [Option.mem_def.1 last, Option.map_some, given, due] at told
  cases told

end Database
end ParaQL
