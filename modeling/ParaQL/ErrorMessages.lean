/-
Whether a task that fails says why.

The requests come from `malloc`, so that an error without a message is built from a
pointer that was never set.
-/

import ParaQL.WorkerTasks

namespace ParaQL

open Async

def WorkerRequest.Explained (request : WorkerRequest) : Prop :=
  request.errcode ≠ 0 → request.errmsg.isSome = true

namespace WorkerState

def ErrorsExplained (state : WorkerState) : Prop :=
  ∀ record ∈ state.log, record.result.request.Explained

def ParsesOpen (state : WorkerState) : WorkerTask → Prop
  | .parse stmt => (state.statements stmt).handle = true
  | _ => True

private theorem explained_fresh : WorkerRequest.fresh.Explained := by
  intro fails
  exact absurd rfl fails

private theorem explained_failed (errcode : Int) (errmsg : String) :
    (WorkerRequest.failed errcode errmsg).Explained := by
  intro _
  rfl

private theorem explained_checked (failing passing : WorkerState) (status : Int) (errmsg : String) :
    (if status ≠ 0 then (failing, ⟨.failed status errmsg, []⟩)
      else (passing, ⟨.fresh, []⟩) : WorkerState × TaskResult).2.request.Explained := by
  split
  · exact explained_failed _ _
  · exact explained_fresh

private theorem explained_exec (errmsg : String) (pieces : List ExecPiece) :
    (execPieces errmsg pieces).Explained := by
  induction pieces with
  | nil => exact explained_fresh
  | cons piece pieces ih =>
      unfold execPieces
      split
      · exact explained_failed _ _
      · split
        · exact explained_failed _ _
        · exact ih

variable {state next : WorkerState} {task : WorkerTask}

/-- The other tasks on a statement say that it was finalized. -/
theorem explained_onStatement {result : TaskResult} (stmt : Nat)
    (explained : result.request.Explained) :
    (if (state.statements stmt).handle then result
      else ⟨.failed sqliteMisuse stmtFinalized, []⟩ : TaskResult).request.Explained := by
  split
  · exact explained
  · exact explained_failed _ _

private theorem explained_bind (stmt : Nat) (statuses : List Int) (errmsg : String) :
    (state.onBeforeBind stmt statuses errmsg).request.Explained := by
  apply explained_onStatement
  split
  · exact explained_failed _ _
  · exact explained_fresh

private theorem explained_step (stmt : Nat) (status : Int) (errmsg : String) :
    (state.onBeforeStep stmt status errmsg).request.Explained := by
  apply explained_onStatement
  split
  · exact explained_fresh
  · split
    · exact explained_fresh
    · exact explained_failed _ _

private theorem explained_run (stmt : Nat) (status : Int) (errmsg : String) :
    (state.onBeforeRun stmt status errmsg).request.Explained := by
  apply explained_onStatement
  split
  · exact explained_failed _ _
  · exact explained_fresh

private theorem explained_parse_iff (stmt : Nat) :
    (state.onBeforeParse stmt).request.Explained ↔ (state.statements stmt).handle = true := by
  unfold onBeforeParse
  cases (state.statements stmt).handle with
  | true => exact iff_of_true explained_fresh rfl
  | false =>
      refine iff_of_false (fun explained => ?_) Bool.false_ne_true
      have impossible := explained (by decide)
      cases impossible

/-- Of all ends of all tasks, one gives an error without a message. -/
theorem explained_perform_iff :
    (state.perform task).2.request.Explained ↔ state.ParsesOpen task := by
  cases task with
  | «open» status handle errmsg => exact iff_of_true (explained_checked _ _ status errmsg) trivial
  | close status errmsg => exact iff_of_true (explained_checked _ _ status errmsg) trivial
  | exec pieces errmsg => exact iff_of_true (explained_exec errmsg pieces) trivial
  | prepare status handle errmsg =>
      exact iff_of_true (explained_checked _ _ status errmsg) trivial
  | finalize stmt => exact iff_of_true explained_fresh trivial
  | reset stmt => exact iff_of_true (explained_onStatement stmt explained_fresh) trivial
  | parse stmt => exact explained_parse_iff stmt
  | bind stmt statuses errmsg => exact iff_of_true (explained_bind stmt statuses errmsg) trivial
  | step stmt status errmsg => exact iff_of_true (explained_step stmt status errmsg) trivial
  | run stmt status errmsg => exact iff_of_true (explained_run stmt status errmsg) trivial
  | collect => exact iff_of_true explained_fresh trivial

theorem ErrorsExplained.step (explained : state.ErrorsExplained) (parses : state.ParsesOpen task)
    (stepped : state.step task = some next) : next.ErrorsExplained := by
  intro record member
  rcases (mem_log_step stepped).1 member with earlier | own
  · exact explained record earlier
  · rw [own]
    exact explained_perform_iff.2 parses

/-- In a run of any tasks, all errors come with messages exactly when no statement is parsed
for that is finalized, or that was prepared of a text without a statement. -/
theorem errorsExplained_iff (tasks : List WorkerTask) :
    Machine.Always WorkerState.step ErrorsExplained initial tasks ↔
      Machine.Heeds WorkerState.step ParsesOpen initial tasks := by
  have keeps : ∀ state task next, ErrorsExplained state → ParsesOpen state task →
      WorkerState.step state task = some next → ErrorsExplained next :=
    fun _ _ _ explained parses stepped => explained.step parses stepped
  have breaks : ∀ state task next, ErrorsExplained state → ¬ParsesOpen state task →
      WorkerState.step state task = some next → ¬ErrorsExplained next := by
    intro state task next _ parses stepped explained
    exact parses (explained_perform_iff.1 (explained _ ((mem_log_step stepped).2 (Or.inr rfl))))
  have begins : initial.ErrorsExplained := by
    intro record member
    cases member
  exact Machine.always_iff_heeds (fun _ explained => explained) keeps breaks begins tasks

/-- A statement is finalized before a `bind` of it is parsed for. -/
theorem errorsExplained_finalized_fails : ∃ final,
    Machine.run WorkerState.step initial
      [.open 0 true "", .prepare 0 true "", .finalize 0, .parse 0] = some final ∧
      ¬final.ErrorsExplained := by
  refine ⟨_, rfl, fun explained => ?_⟩
  have unexplained := explained ⟨.parse, false, ⟨⟨sqliteMisuse, none⟩, []⟩⟩
    (by decide) (by decide)
  cases unexplained

end WorkerState
end ParaQL
