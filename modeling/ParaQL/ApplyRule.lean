/-
The rule for `_apply`.

An assertion for the time between two `_write` calls and one for the rest of the time
carry through every operation, when each `_write` leads from one to the other and the
steps of SQLite keep the inner one.
-/

import ParaQL.EngineSteps

namespace ParaQL

open Async Async.Task Bytes

variable {κ α : Type}

namespace Database

/-- What the two assertions have to survive; `rejected` holds where `_apply` throws. -/
structure ApplyRule (db : Database κ) (moves : Instance κ → Instance κ → Prop) (view : Nat)
    (outside inside : Instance κ → Prop) (rejected : JsValue → Instance κ → Prop) : Prop where
  stableOutside : Stable moves outside
  stableInside : Stable moves inside
  enter : Triple moves outside (switchTo (some view)) (fun _ => inside) rejected
  leave : Triple moves inside (switchTo none) (fun _ => outside) rejected
  ran : ∀ state after, InstanceStep db.vfs anything state after → inside state → inside after
  prepare : ∀ sql, Triple moves outside (db.prepareStmt sql) (fun _ => outside) rejected
  writer : ∀ call, Triple moves outside (db.applyWriter call) (fun _ => outside) rejected
  unseenOutside : ∀ state after : Instance κ, after.engine = state.engine → outside state →
    outside after
  unseenInside : ∀ state after : Instance κ, after.engine = state.engine → inside state →
    inside after

theorem outcome_kept {moves : Instance κ → Instance κ → Prop}
    {guarantee : Engine κ → Engine κ → Prop}
    {holds : Instance κ → Prop} {task : EngineTask κ α} (steps : Guarantees guarantee task)
    (stable : Stable moves holds)
    (kept : ∀ state after, guarantee state.engine after.engine →
      after = state.setEngine after.engine → holds state → holds after)
    (rejected : JsValue → Instance κ → Prop) :
    Triple moves holds (onEngine task).outcome (fun _ => holds) rejected := by
  have keeps := (steps.zoom Instance.lawful_engine).keeps stable fun state after step =>
    kept state after step.1 step.2
  refine (keeps.outcome rejected).mono (fun _ begins => begins) ?_ fun _ _ known => known
  intro result state ends
  cases result with
  | ok value => exact ends
  | error thrown => exact ends

theorem triple_switchTo {moves : Instance κ → Instance κ → Prop} {before : Instance κ → Prop}
    {after : Unit → Instance κ → Prop} {rejected : JsValue → Instance κ → Prop}
    (target : Option Nat) (stable : Stable moves before)
    (throws : ∀ state error, before state → state.engine.vfs.files.keys.card ≠ 0 →
      rejected (.error error) (state.setVfs (state.engine.vfs.record (.switch target))))
    (switches : ∀ state, before state → state.engine.vfs.files.keys.card = 0 →
      after () (state.setVfs { state.engine.vfs.record (.switch target) with view := target })) :
    Triple moves before (switchTo target) after rejected := by
  unfold switchTo onEngine ParaVFS.write
  rw [zoom_atomic, zoom_atomic]
  apply triple_atomic stable
  intro state holds
  by_cases pending : state.engine.vfs.files.keys.card ≠ 0
  · simp only [if_pos pending]
    exact throws state _ holds pending
  · simp only [if_neg pending]
    exact switches state holds (not_not.1 pending)

/-- Calls on the view and the host, each of which may fail. -/
theorem triple_applyWriter {db : Database κ} {moves : Instance κ → Instance κ → Prop}
    {holds : Instance κ → Prop} {rejected : JsValue → Instance κ → Prop} (call : HostCall)
    (stable : Stable moves holds)
    (unseen : ∀ state host, holds state → holds { state with host := host })
    (throws : ∀ thrown state, holds state → rejected thrown state) :
    Triple moves holds (db.applyWriter call) (fun _ => holds) rejected := by
  have called (call : HostCall) :
      Triple moves holds (db.callHost call) (fun _ => holds) rejected := by
    refine triple_atomic stable fun state known => ?_
    cases db.hostFault state.host.length with
    | none => exact unseen state _ known
    | some thrown => exact throws thrown _ (unseen state _ known)
  exact (called .write).bind fun _ => (called call).bind fun _ => called .flush

section Calls

variable {moves : Instance κ → Instance κ → Prop} (holds : Calls → Prop)
  {rejected : JsValue → Instance κ → Prop}

theorem outcome_calls (stable : Stable moves fun state => holds state.calls)
    {guarantee : Engine κ → Engine κ → Prop} {task : EngineTask κ α}
    (steps : Guarantees guarantee task) :
    Triple moves (fun state => holds state.calls) (onEngine task).outcome
      (fun _ state => holds state.calls) rejected := by
  refine outcome_kept steps stable (fun state after _ same known => ?_) rejected
  rw [same]
  exact known

theorem switchTo_calls (stable : Stable moves fun state => holds state.calls)
    (throws : ∀ thrown state, holds state.calls → rejected thrown state) (view : Option Nat) :
    Triple moves (fun state => holds state.calls) (switchTo view)
      (fun _ state => holds state.calls) rejected :=
  triple_switchTo view stable (fun _ _ known _ => throws _ _ known) fun _ known _ => known

end Calls

namespace ApplyRule

variable {db : Database κ} {moves : Instance κ → Instance κ → Prop} {view : Nat}
  {outside inside : Instance κ → Prop} {rejected : JsValue → Instance κ → Prop}
  (rule : ApplyRule db moves view outside inside rejected)

include rule

theorem outcome {task : EngineTask κ α} (steps : Guarantees (EngineStep db.vfs anything) task) :
    Triple moves inside (onEngine task).outcome (fun _ => inside) rejected :=
  outcome_kept steps rule.stableInside (fun state after step same =>
    rule.ran state after ⟨step, same⟩) rejected

private theorem modifyInside {update : Instance κ → Instance κ}
    (unseen : ∀ state, (update state).engine = state.engine) :
    Triple moves inside (Task.modify update) (fun _ => inside) rejected :=
  triple_modify rule.stableInside fun state => rule.unseenInside state _ (unseen state)

private theorem modifyOutside {update : Instance κ → Instance κ}
    (unseen : ∀ state, (update state).engine = state.engine) :
    Triple moves outside (Task.modify update) (fun _ => outside) rejected :=
  triple_modify rule.stableOutside fun state => rule.unseenOutside state _ (unseen state)

theorem applyExec (owner : Option CallId) (sql : String) :
    Triple moves outside (db.applyExec owner view sql) (fun _ => outside) rejected := by
  refine rule.enter.bind fun _ => (rule.outcome (db.exec_steps sql)).bind fun result => ?_
  exact Triple.bind (rule.modifyInside fun _ => rfl) fun _ => rule.leave

theorem prepareAndRun (sql : String) (parameters : Parameters) :
    Triple moves inside (db.prepareAndRun sql parameters) (fun _ => inside) rejected := by
  refine (rule.outcome (db.prepare_steps_anything sql)).bind fun prepared => ?_
  cases prepared with
  | ok value =>
      exact (rule.outcome (db.runStatement_steps sql parameters)).bind fun _ =>
        triple_pure _ fun _ holds => holds
  | error thrown => exact triple_pure _ fun _ holds => holds

theorem applyRun (owner : Option CallId) (sql : String) (parameters : Parameters)
    (progress : Progress) :
    Triple moves outside (db.applyRun owner view sql parameters progress) (fun _ => outside)
      rejected := by
  refine rule.enter.bind fun _ => (rule.prepareAndRun sql parameters).bind fun result => ?_
  refine Triple.bind (rule.modifyInside fun _ => rfl) fun _ => rule.leave.bind fun _ => ?_
  exact triple_pure _ fun _ holds => holds

theorem applyBatch (owner : Option CallId) (opens : Bool) (parameters : Parameters)
    (progress : Progress) :
    Triple moves outside (db.applyBatch owner opens view parameters progress) (fun _ => outside)
      rejected := by
  have ran : Triple moves inside (db.runOn progress.stmt parameters).outcome (fun _ => inside)
      rejected := by
    cases progress.stmt with
    | none => exact triple_pure _ fun _ holds => holds
    | some sql => exact rule.outcome (db.runStatement_steps sql parameters)
  refine rule.enter.bind fun _ => ran.bind fun result => ?_
  refine Triple.bind (rule.modifyInside fun _ => rfl) fun _ => rule.leave.bind fun _ => ?_
  exact triple_pure _ fun _ holds => holds

theorem applyNode (node : Node) (progress : Progress) :
    Triple moves outside (db.applyNode view node progress) (fun _ => outside) rejected := by
  obtain ⟨owner, operation⟩ := node
  have unchanged : Triple moves outside (pure progress : InstanceTask κ Progress)
      (fun _ => outside) rejected := triple_pure _ fun _ holds => holds
  cases operation with
  | writerAdd key => exact (rule.writer (.addWriter key)).bind fun _ => unchanged
  | writerDel key => exact (rule.writer (.removeWriter key)).bind fun _ => unchanged
  | exec sql => exact (rule.applyExec owner sql).bind fun _ => unchanged
  | run sql parameters => exact rule.applyRun owner sql parameters progress
  | stmt sql parameters =>
      exact (rule.prepare sql).bind fun _ => rule.applyBatch owner true parameters _
  | batch parameters => exact rule.applyBatch owner false parameters progress
  | flush => exact Triple.bind (rule.modifyOutside fun _ => rfl) fun _ => unchanged

theorem apply (nodes : List Node) :
    Triple moves outside (db.apply nodes view) (fun _ => outside) rejected := by
  unfold Database.apply
  generalize Progress.initial = progress
  induction nodes generalizing progress with
  | nil => exact triple_pure () fun _ holds => holds
  | cons node nodes ih => exact (rule.applyNode node progress).bind fun progress => ih progress

end ApplyRule
end Database
end ParaQL
