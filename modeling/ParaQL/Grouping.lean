/-
`_apply` on a log that is cut into groups of nodes.

The local variables of `_apply` live as long as one group.  The counters only reach the
callers, through the FLUSH of a group; the statement decides what a BATCH runs.
-/

import ParaQL.Async.Matching
import ParaQL.FlushAccounting

namespace ParaQL

open Async Async.Task Bytes

def Settlement.blank : Settlement → Settlement
  | .flushed _ _ _ => .flushed 0 0 0
  | settlement => settlement

def CallPhase.blank : CallPhase → CallPhase
  | .settled settlement => .settled settlement.blank
  | phase => phase

def Completion.blank (completion : Completion) : Completion :=
  { completion with own := completion.own.blank, given := completion.given.blank }

structure Calls.SameButCounts (first second : Calls) : Prop where
  interactive : first.interactive = second.interactive
  deferred : ∀ id, (first.deferred id).map Settlement.blank =
    (second.deferred id).map Settlement.blank
  phase : ∀ id, (first.phase id).blank = (second.phase id).blank
  attempts : first.attempts = second.attempts
  completions : first.completions.map Completion.blank =
    second.completions.map Completion.blank

namespace Calls.SameButCounts

variable {first second third next : Calls}

theorem refl (calls : Calls) : calls.SameButCounts calls :=
  ⟨rfl, fun _ => rfl, fun _ => rfl, rfl, rfl⟩

theorem symm (same : first.SameButCounts second) : second.SameButCounts first :=
  ⟨same.interactive.symm, fun id => (same.deferred id).symm, fun id => (same.phase id).symm,
    same.attempts.symm, same.completions.symm⟩

theorem trans (same : first.SameButCounts second) (later : second.SameButCounts third) :
    first.SameButCounts third :=
  ⟨same.interactive.trans later.interactive,
    fun id => (same.deferred id).trans (later.deferred id),
    fun id => (same.phase id).trans (later.phase id), same.attempts.trans later.attempts,
    same.completions.trans later.completions⟩

private theorem phase_eq (same : first.SameButCounts second) {id : CallId} {phase : CallPhase}
    (here : first.phase id = phase) (plain : phase.blank = phase)
    (unsettled : ∀ settlement, phase ≠ .settled settlement) : second.phase id = phase := by
  have blanks : (second.phase id).blank = phase := by
    rw [← same.phase id, here, plain]
  cases isPhase : second.phase id with
  | settled settlement =>
      rw [isPhase] at blanks
      exact absurd blanks.symm (unsettled _)
  | _ =>
      rw [isPhase] at blanks
      exact blanks

theorem setPhase (same : first.SameButCounts second) {interactive counterpart : Option CallId}
    (current : interactive = counterpart) (id : CallId) {phase later : CallPhase}
    (alike : phase.blank = later.blank) :
    SameButCounts
      { first with
        interactive := interactive
        phase := Function.update first.phase id phase }
      { second with
        interactive := counterpart
        phase := Function.update second.phase id later } := by
  refine { same with interactive := current, phase := fun key => ?_ }
  by_cases here : key = id
  · simp only [here, Function.update_self, alike]
  · simp only [Function.update_of_ne here, same.phase key]

/-- The calls go on whatever the numbers they are given. -/
theorem move {compressed : Bool} (same : first.SameButCounts second)
    (move : CallMove compressed first next) :
    ∃ after, CallMove compressed second after ∧ next.SameButCounts after := by
  cases move with
  | start id idle =>
      refine ⟨_, .start second id (same.phase_eq idle rfl nofun), ?_⟩
      exact same.setPhase rfl id rfl
  | append id on packing current =>
      refine ⟨_, .append second id on (same.phase_eq packing rfl nofun)
        (same.interactive ▸ current), ?_⟩
      exact same.setPhase same.interactive id rfl
  | orphan id packing none_left =>
      refine ⟨_, .orphan second id (same.phase_eq packing rfl nofun)
        (same.interactive ▸ none_left), ?_⟩
      exact same.setPhase same.interactive id rfl
  | unpacked id packing =>
      refine ⟨_, .unpacked second id (same.phase_eq packing rfl nofun), ?_⟩
      exact same.setPhase rfl id rfl
  | finish id on settlement waiting settled =>
      have given := same.deferred on
      rw [settled, Option.map_some] at given
      obtain ⟨counterpart, isSettled, alike⟩ := Option.map_eq_some_iff.1 given.symm
      refine ⟨_, .finish second id on counterpart (same.phase_eq waiting rfl nofun) isSettled, ?_⟩
      exact same.setPhase rfl id (congrArg CallPhase.settled alike.symm)

theorem settle (same : first.SameButCounts second) {settlement given : Settlement}
    (alike : settlement.blank = given.blank) :
    (first.settle settlement).SameButCounts (second.settle given) := by
  unfold Calls.settle
  rw [same.interactive]
  cases second.interactive with
  | none => exact same
  | some id =>
      have settled : (first.deferred id).isSome = (second.deferred id).isSome := by
        simpa only [Option.isSome_map] using congrArg Option.isSome (same.deferred id)
      simp only [settled]
      split
      · exact same
      · refine ⟨rfl, fun key => ?_, same.phase, same.attempts, same.completions⟩
        by_cases here : key = id
        · simp only [here, Function.update_self, Option.map_some, alike]
        · simp only [Function.update_of_ne here, same.deferred key]

theorem complete (same : first.SameButCounts second) (owner : Option CallId)
    {own given counterpart told : Settlement} (alike : own.blank = counterpart.blank)
    (alikeTold : given.blank = told.blank) :
    (first.complete owner own given).SameButCounts (second.complete owner counterpart told) := by
  refine { same.settle alikeTold with completions := ?_ }
  simp only [Calls.complete, List.map_append, List.map_singleton, same.completions,
    same.interactive, Completion.blank, alike, alikeTold]

theorem attempt (same : first.SameButCounts second) (owner : Option CallId) (opens : Bool)
    (result : Except JsValue RunResult) :
    (first.attempt owner opens result).SameButCounts (second.attempt owner opens result) := by
  cases owner with
  | none => exact same
  | some id =>
      refine { same with attempts := ?_ }
      simp only [Calls.attempt, same.attempts]

end Calls.SameButCounts

structure SameButCounts {κ : Type} (first second : Instance κ) : Prop where
  engine : first.engine = second.engine
  host : first.host = second.host
  calls : first.calls.SameButCounts second.calls

theorem SameButCounts.refl {κ : Type} (state : Instance κ) : SameButCounts state state :=
  ⟨rfl, rfl, .refl _⟩

theorem SameButCounts.symm {κ : Type} {first second : Instance κ}
    (same : SameButCounts first second) : SameButCounts second first :=
  ⟨same.engine.symm, same.host.symm, same.calls.symm⟩

theorem SameButCounts.trans {κ : Type} {first second third : Instance κ}
    (same : SameButCounts first second) (later : SameButCounts second third) :
    SameButCounts first third :=
  ⟨same.engine.trans later.engine, same.host.trans later.host, same.calls.trans later.calls⟩

/-! ### Cutting the log -/

/-- Every BATCH comes after a STMT.  A RUN sets the statement only if it can be prepared. -/
def OpensBatches : Bool → List Node → Prop
  | _, [] => True
  | opened, node :: nodes =>
      match node.operation with
      | .stmt _ _ => OpensBatches true nodes
      | .batch _ => opened = true ∧ OpensBatches opened nodes
      | _ => OpensBatches opened nodes

def SameStatement (opened : Bool) (first second : Progress) : Prop :=
  opened = true → first.stmt = second.stmt

/-- The nodes of whole calls can be cut between any two of these. -/
theorem opensBatches_calls (calls : List (CallId × OplogCall)) {opened : Bool} :
    OpensBatches opened (calls.flatMap fun entry => entry.2.nodes entry.1) := by
  induction calls generalizing opened with
  | nil => trivial
  | cons entry calls ih =>
      obtain ⟨id, call⟩ := entry
      cases call with
      | exec sql => exact ih
      | run sql parameters => exact ih
      | flush sql operations =>
          simp only [List.flatMap_cons, OplogCall.nodes, OplogCall.operations, List.map_append,
            List.map_cons, List.map_map, List.append_assoc, List.cons_append]
          unfold OpensBatches
          induction operations with
          | nil => exact ih
          | cons parameters operations later => exact ⟨rfl, later⟩

theorem opensBatches_opened (nodes : List Node) : OpensBatches true nodes := by
  induction nodes with
  | nil => trivial
  | cons node nodes ih =>
      obtain ⟨owner, operation⟩ := node
      cases operation with
      | batch parameters => exact ⟨rfl, ih⟩
      | _ => exact ih

namespace Database

variable {κ : Type} {db : Database κ} {view : Nat}

private theorem simulates_anyMove : Simulates SameButCounts db.AnyMove db.AnyMove := by
  intro state other moved same move
  cases move with
  | call next move =>
      obtain ⟨after, moves, kept⟩ := same.calls.move move
      exact ⟨_, .call other after moves, same.engine, same.host, kept⟩
  | @localStep call permitted update makes =>
      exact ⟨_, .localStep other call permitted makes, congrArg update same.engine, same.host,
        same.calls⟩

private theorem matches_onEngine {α : Type} (task : EngineTask κ α) :
    Matches SameButCounts Eq (onEngine task) (onEngine task) :=
  matches_zoom (fun _ _ same => same.engine)
    (fun _ _ _ same => ⟨rfl, same.host, same.calls⟩) task

private theorem matches_outcome {α : Type} (task : EngineTask κ α) :
    Matches SameButCounts Eq (onEngine task).outcome (onEngine task).outcome :=
  (matches_onEngine task).outcome.mono fun _ _ => endsLike_eq.1

private theorem matches_complete (owner : Option CallId) {own given counterpart told : Settlement}
    (alike : own.blank = counterpart.blank) (alikeTold : given.blank = told.blank) :
    Matches SameButCounts Eq (complete (κ := κ) owner own given)
      (complete owner counterpart told) :=
  matches_modify fun _ _ same =>
    ⟨same.engine, same.host, same.calls.complete owner alike alikeTold⟩

private theorem matches_applyWriter (call : HostCall) :
    Matches SameButCounts Eq (db.applyWriter call) (db.applyWriter call) := by
  have called (call : HostCall) :
      Matches SameButCounts Eq (db.callHost call) (db.callHost call) := by
    refine matches_atomic fun _ _ same => ?_
    simp only [same.host]
    exact ⟨endsLike_eq.2 rfl, same.engine, rfl, same.calls⟩
  exact (called .write).bind fun _ _ _ => (called call).bind fun _ _ _ => called .flush

private theorem matches_prepareStmt (sql : String) :
    Matches SameButCounts Eq (db.prepareStmt sql) (db.prepareStmt sql) := by
  refine (matches_outcome (db.prepare sql)).bind ?_
  rintro prepared _ rfl
  refine matches_atomic fun state other same => ⟨endsLike_eq.2 rfl, ?_⟩
  refine ⟨?_, same.host, same.calls⟩
  simp only [Instance.setVfs, Instance.setEngine, same.engine]

private theorem matches_applyExec (owner : Option CallId) (sql : String) :
    Matches SameButCounts Eq (db.applyExec owner view sql) (db.applyExec owner view sql) := by
  refine (matches_onEngine _).bind fun _ _ _ => (matches_outcome (db.exec sql)).bind ?_
  rintro result _ rfl
  exact (matches_complete owner rfl rfl).bind fun _ _ _ => matches_onEngine _

private theorem matches_prepareAndRun (sql : String) (parameters : Parameters) :
    Matches SameButCounts Eq (db.prepareAndRun sql parameters)
      (db.prepareAndRun sql parameters) := by
  refine (matches_outcome (db.prepare sql)).bind ?_
  rintro prepared _ rfl
  cases prepared with
  | ok value =>
      refine (matches_outcome (db.runStatement sql parameters)).bind ?_
      rintro result _ rfl
      exact matches_pure rfl
  | error thrown => exact matches_pure rfl

private theorem matches_applyRun (owner : Option CallId) (sql : String) (parameters : Parameters)
    {opened : Bool} {first second : Progress} (same : SameStatement opened first second) :
    Matches SameButCounts (SameStatement opened) (db.applyRun owner view sql parameters first)
      (db.applyRun owner view sql parameters second) := by
  refine (matches_onEngine _).bind fun _ _ _ => (matches_prepareAndRun sql parameters).bind ?_
  rintro ⟨prepared, result⟩ _ rfl
  refine (matches_complete owner rfl rfl).bind fun _ _ _ =>
    (matches_onEngine _).bind fun _ _ _ => matches_pure fun isOpened => ?_
  cases prepared with
  | true => rfl
  | false => exact same isOpened

private theorem matches_runOn (stmt : Option String) (parameters : Parameters) :
    Matches SameButCounts Eq (db.runOn stmt parameters).outcome
      (db.runOn stmt parameters).outcome := by
  cases stmt with
  | some sql => exact matches_outcome (db.runStatement sql parameters)
  | none => exact (matches_throw _).outcome.mono fun _ _ => endsLike_eq.1

private theorem matches_applyBatch (owner : Option CallId) (opens : Bool) (parameters : Parameters)
    {first second : Progress} (same : first.stmt = second.stmt) :
    Matches SameButCounts (fun before after => before.stmt = after.stmt)
      (db.applyBatch owner opens view parameters first)
      (db.applyBatch owner opens view parameters second) := by
  have counted (progress : Progress) (result : Except JsValue RunResult) :
      (progress.count result).stmt = progress.stmt := by
    cases result <;> rfl
  unfold applyBatch
  rw [same]
  refine (matches_onEngine _).bind fun _ _ _ =>
    (matches_runOn second.stmt parameters).bind ?_
  rintro result _ rfl
  refine Matches.bind (matches_modify fun _ _ holds =>
    ⟨holds.engine, holds.host, holds.calls.attempt owner opens result⟩) fun _ _ _ => ?_
  refine (matches_onEngine _).bind fun _ _ _ => matches_pure ?_
  rw [counted, counted, same]

private theorem matches_flush (node : Node) (first second : Progress) :
    Matches SameButCounts Eq
      (Task.modify fun state : Instance κ =>
        { state with
          calls := state.calls.complete node.owner
            (match node.owner with
              | some id => tally (state.calls.attempts id)
              | none => first.flushed)
            first.flushed } : InstanceTask κ Unit)
      (Task.modify fun state =>
        { state with
          calls := state.calls.complete node.owner
            (match node.owner with
              | some id => tally (state.calls.attempts id)
              | none => second.flushed)
            second.flushed }) := by
  refine matches_modify fun state other same => ⟨same.engine, same.host, ?_⟩
  refine same.calls.complete node.owner ?_ rfl
  cases node.owner with
  | some id => rw [same.calls.attempts]
  | none => rfl

variable (view) in
/-- The statement after the first node is the same again. -/
theorem matches_cons {opened : Bool} {node : Node} {nodes : List Node} {first second : Progress}
    (opens : OpensBatches opened (node :: nodes)) (same : SameStatement opened first second) :
    ∃ later, OpensBatches later nodes ∧
      Matches SameButCounts (SameStatement later) (db.applyNode view node first)
        (db.applyNode view node second) := by
  obtain ⟨owner, operation⟩ := node
  cases operation with
  | writerAdd key =>
      exact ⟨opened, opens, (matches_applyWriter _).bind fun _ _ _ => matches_pure same⟩
  | writerDel key =>
      exact ⟨opened, opens, (matches_applyWriter _).bind fun _ _ _ => matches_pure same⟩
  | exec sql =>
      exact ⟨opened, opens, (matches_applyExec owner sql).bind fun _ _ _ => matches_pure same⟩
  | run sql parameters => exact ⟨opened, opens, matches_applyRun owner sql parameters same⟩
  | stmt sql parameters =>
      refine ⟨true, opens, (matches_prepareStmt sql).bind fun _ _ _ => ?_⟩
      refine Matches.mono (matches_applyBatch owner true parameters rfl) ?_
      exact fun before after holds _ => holds
  | batch parameters =>
      refine ⟨opened, opens.2, ?_⟩
      refine Matches.mono (matches_applyBatch owner false parameters (same opens.1)) ?_
      exact fun before after holds _ => holds
  | flush =>
      exact ⟨opened, opens, (matches_flush ⟨owner, .flush⟩ first second).bind
        fun _ _ _ => matches_pure same⟩

/-- A group and what follows it, in one call or apart. -/
theorem matches_group {opened : Bool} {group rest : List Node} {first second : Progress}
    {later : InstanceTask κ Unit} (opens : OpensBatches opened group)
    (same : SameStatement opened first second)
    (goesOn : ∀ progress, Matches SameButCounts Eq (db.applyFrom view rest progress) later) :
    Matches SameButCounts Eq (db.applyFrom view (group ++ rest) first)
      (do db.applyFrom view group second
          later) := by
  induction group generalizing opened first second with
  | nil => exact goesOn first
  | cons node group ih =>
      obtain ⟨_, opensRest, matched⟩ := matches_cons view opens same
      simp only [List.cons_append, applyFrom, bind_assoc_task]
      exact matched.bind fun _ _ sameRest => ih opensRest sameRest

/-- All groups in one call or each in a call of its own. -/
theorem matches_groups {groups : List (List Node)}
    (opens : ∀ group ∈ groups, OpensBatches false group) (progress : Progress) :
    Matches SameButCounts Eq (db.applyFrom view groups.flatten progress)
      (Task.forEach groups fun group => db.apply group view) := by
  induction groups generalizing progress with
  | nil => exact matches_pure rfl
  | cons group groups ih =>
      exact matches_group (opens group List.mem_cons_self) (fun isOpened => by cases isOpened)
        (ih fun other member => opens other (List.mem_cons_of_mem _ member))

/-- One `_apply` call for each group, in turn. -/
def applyGroups (db : Database κ) (view : Nat) (groups : List (List Node)) : InstanceTask κ Unit :=
  Task.forEach groups fun group => db.apply group view

/-- The first group starts like the whole log. -/
theorem matches_cut {groups : List (List Node)}
    (opens : ∀ group ∈ groups.tail, OpensBatches false group) :
    Matches SameButCounts Eq (db.applyFrom view groups.flatten .initial)
      (db.applyGroups view groups) := by
  cases groups with
  | nil => exact matches_pure rfl
  | cons group groups =>
      exact matches_group (opensBatches_opened group) (fun _ => rfl) (matches_groups opens)

/-- However the log is cut, when no group has a BATCH without its STMT: a run of one cut is,
but for the counts that the FLUSH nodes report, a run of any other. -/
theorem apply_any_cut (db : Database κ) (view : Nat) (first second : List (List Node))
    (same : first.flatten = second.flatten)
    (opens : ∀ group ∈ first, OpensBatches false group)
    (alsoOpens : ∀ group ∈ second, OpensBatches false group) (start final : Instance κ)
    (result : Except JsValue Unit)
    (ran : RunUnder db.AnyMove (db.applyGroups view first) start result final) :
    ∃ other, RunUnder db.AnyMove (db.applyGroups view second) start result other ∧
      SameButCounts final other := by
  have simulates : Simulates (fun other state => SameButCounts state other) db.AnyMove
      db.AnyMove := by
    intro state other moved holds move
    obtain ⟨after, moves, kept⟩ := simulates_anyMove _ _ _ holds.symm move
    exact ⟨after, moves, kept.symm⟩
  -- The run is one of a single call for the whole log, and this one of the other cut.
  obtain ⟨ending, middle, whole, ends, alike⟩ :=
    (matches_groups opens .initial).symm.runUnder simulates (.refl start) ran
  obtain rfl : ending = result := by
    cases ends with
    | value same => exact congrArg Except.ok same
    | rejection thrown => rfl
  rw [same] at whole
  obtain ⟨_, other, apart, endsAgain, alikeAgain⟩ :=
    (matches_groups alsoOpens .initial).runUnder simulates_anyMove (.refl start) whole
  obtain rfl := endsLike_eq.1 endsAgain
  exact ⟨other, apart, alike.symm.trans alikeAgain⟩

/-- Two flushes, in one group and in two. -/
theorem apply_any_cut_twoFlushes :
    ∃ final other, RunUnder (sample insertingSqlite).AnyMove
        ((sample insertingSqlite).applyGroups 0 [oneInsert ++ oneInsert])
        (.opened (fun _ _ => ∅) (fun _ => 0) ()) (.ok ()) final ∧
      RunUnder (sample insertingSqlite).AnyMove
        ((sample insertingSqlite).applyGroups 0 [oneInsert, oneInsert])
        (.opened (fun _ _ => ∅) (fun _ => 0) ()) (.ok ()) other ∧ SameButCounts final other := by
  let insert : CallId × OplogCall :=
    (0, .flush "INSERT INTO t VALUES (1)" [{ named := .null, positional := .list [] }])
  have ran := runUnder_run (sample insertingSqlite).AnyMove
    ((sample insertingSqlite).applyGroups 0 [oneInsert ++ oneInsert])
    (.opened (fun _ _ => ∅) (fun _ => 0) ())
  have returned : (((sample insertingSqlite).applyGroups 0 [oneInsert ++ oneInsert]).run
      (.opened (fun _ _ => ∅) (fun _ => 0) ())).1 = .ok () := rfl
  rw [returned] at ran
  have one : OpensBatches false oneInsert := opensBatches_calls [insert]
  have two : OpensBatches false (oneInsert ++ oneInsert) := opensBatches_calls [insert, insert]
  obtain ⟨other, ranOther, alike⟩ := apply_any_cut (sample insertingSqlite) 0
    [oneInsert ++ oneInsert] [oneInsert, oneInsert] rfl
    (fun group member => List.mem_singleton.1 member ▸ two) (fun group member => by
      rcases List.mem_cons.1 member with rfl | member
      · exact one
      · exact List.mem_singleton.1 member ▸ one) _ _ _ ran
  exact ⟨_, other, ran, ranOther, alike⟩

end Database
end ParaQL
