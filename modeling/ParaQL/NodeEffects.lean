/-
What `_apply` tells the outside.

A node that changes the writers makes a batch of the view, calls the host and flushes the batch,
and one that ends an `exec`, `run` or `flush` settles what is in progress once.  Whatever happens
in between, that is done in the order of the log, and up to the node where `_apply` throws.
-/

import ParaQL.ApplyRule
import ParaQL.OwnOutcomes

namespace ParaQL

open Async Async.Task Bytes

def Node.hostCalls (node : Node) : List HostCall :=
  match node.operation with
  | .writerAdd key => [.write, .addWriter key, .flush]
  | .writerDel key => [.write, .removeWriter key, .flush]
  | _ => []

def Node.settled (node : Node) : List (Option CallId) :=
  match node.operation with
  | .exec _ => [node.owner]
  | .run _ _ => [node.owner]
  | .flush => [node.owner]
  | _ => []

variable {κ α : Type}

private theorem completions_attempt (calls : Calls) (owner : Option CallId) (opens : Bool)
    (result : Except JsValue RunResult) :
    (calls.attempt owner opens result).completions = calls.completions := by
  cases owner <;> rfl

structure Reported (start : Instance κ) (host : List HostCall) (owners : List (Option CallId))
    (state : Instance κ) : Prop where
  host : state.host = start.host ++ host
  owners : state.calls.completions.map Completion.owner =
    start.calls.completions.map Completion.owner ++ owners

abbrev ReportedAfter (start : Instance κ) (nodes : List Node) (host : List HostCall)
    (owners : List (Option CallId)) (state : Instance κ) : Prop :=
  Reported start (nodes.flatMap Node.hostCalls ++ host) (nodes.flatMap Node.settled ++ owners) state

/-- What one call of `_apply` tells: what all its nodes have to, or what those do before the node
where it throws, and the first part of what that one does. -/
inductive Tells : List Node → Except JsValue Unit → List HostCall → List (Option CallId) → Prop
    where
  | all (nodes : List Node) :
      Tells nodes (.ok ()) (nodes.flatMap Node.hostCalls) (nodes.flatMap Node.settled)
  | upTo (nodes : List Node) (node : Node) (later : List Node) (thrown : JsValue)
      {host : List HostCall} {owners : List (Option CallId)} (hostPart : host <+: node.hostCalls)
      (ownersPart : owners <+: node.settled) :
      Tells (nodes ++ node :: later) (.error thrown) (nodes.flatMap Node.hostCalls ++ host)
        (nodes.flatMap Node.settled ++ owners)

namespace Reported

variable {start state : Instance κ} {host : List HostCall} {owners : List (Option CallId)}

theorem refl (start : Instance κ) : Reported start [] [] start :=
  ⟨(List.append_nil _).symm, (List.append_nil _).symm⟩

theorem trans {middle : Instance κ} {later : List HostCall} {laterOwners : List (Option CallId)}
    (first : Reported start host owners middle)
    (second : Reported middle later laterOwners state) :
    Reported start (host ++ later) (owners ++ laterOwners) state := by
  constructor
  · rw [second.host, first.host, List.append_assoc]
  · rw [second.owners, first.owners, List.append_assoc]

theorem calls (reported : Reported start host owners state) (call : HostCall) :
    Reported start (host ++ [call]) owners { state with host := state.host ++ [call] } := by
  refine ⟨?_, reported.owners⟩
  rw [reported.host, List.append_assoc]

theorem completes (reported : Reported start host owners state) (owner : Option CallId)
    (own given : Settlement) :
    Reported start host (owners ++ [owner])
      { state with calls := state.calls.complete owner own given } := by
  refine ⟨reported.host, ?_⟩
  simp only [Calls.complete, List.map_append, List.map_cons, List.map_nil, reported.owners,
    List.append_assoc]

theorem settles {nodes : List Node} {node : Node} {owner : Option CallId}
    (reported : ReportedAfter start nodes host [] state) (settled : node.settled = [owner])
    (own given : Settlement) :
    ReportedAfter start nodes host node.settled
      { state with calls := state.calls.complete owner own given } := by
  have completed := reported.completes owner own given
  rw [List.append_assoc] at completed
  rw [settled]
  exact completed

theorem of_same (reported : Reported start host owners state) {after : Instance κ}
    (sameHost : after.host = state.host)
    (sameCompletions : after.calls.completions = state.calls.completions) :
    Reported start host owners after :=
  ⟨sameHost.trans reported.host, (congrArg _ sameCompletions).trans reported.owners⟩

end Reported

namespace Database

variable {db : Database κ} {start : Instance κ} {nodes : List Node} {view : Nat}

private theorem reported_stable (db : Database κ) (start : Instance κ) (host : List HostCall)
    (owners : List (Option CallId)) : Stable db.AnyMove (Reported start host owners) := by
  intro state moved move reported
  cases move with
  | call next step => exact reported.of_same rfl (Calls.completions_move step).1
  | localStep call permitted makes => exact reported.of_same rfl rfl

/-- Where `_apply` throws at a node, a first part of what the node does was done. -/
def ReportedPart (start : Instance κ) (nodes : List Node) (node : Node) (_ : JsValue)
    (state : Instance κ) : Prop :=
  ∃ host owners, host <+: node.hostCalls ∧ owners <+: node.settled ∧
    ReportedAfter start nodes host owners state

section Node

variable {node : Node} {host : List HostCall} {owners : List (Option CallId)}
  (hostPart : host <+: node.hostCalls) (ownersPart : owners <+: node.settled)

private theorem outcome_reported (task : EngineTask κ α) :
    Triple db.AnyMove (ReportedAfter start nodes host owners) (onEngine task).outcome
      (fun _ => ReportedAfter start nodes host owners) (ReportedPart start nodes node) :=
  outcome_kept (guarantees_any task) (reported_stable db start _ _)
    (fun state after _ same reported => by
      rw [same]
      exact reported.of_same rfl rfl) _

private theorem complete_reported {owner : Option CallId} (settles : node.settled = [owner])
    (own given : Settlement) :
    Triple db.AnyMove (ReportedAfter start nodes host []) (complete owner own given)
      (fun _ => ReportedAfter start nodes host node.settled) (ReportedPart start nodes node) :=
  triple_modify (reported_stable db start _ _) fun _ reported =>
    Reported.settles reported settles own given

include hostPart ownersPart

private theorem switchTo_reported (target : Option Nat) :
    Triple db.AnyMove (ReportedAfter start nodes host owners) (switchTo target)
      (fun _ => ReportedAfter start nodes host owners) (ReportedPart start nodes node) :=
  triple_switchTo target (reported_stable db start _ _)
    (fun _ _ reported _ => ⟨host, owners, hostPart, ownersPart, reported.of_same rfl rfl⟩)
    fun _ reported _ => reported.of_same rfl rfl

private theorem prepareStmt_reported (sql : String) :
    Triple db.AnyMove (ReportedAfter start nodes host owners) (db.prepareStmt sql)
      (fun _ => ReportedAfter start nodes host owners) (ReportedPart start nodes node) := by
  refine (outcome_reported (db.prepare sql)).bind fun prepared => ?_
  refine triple_atomic (reported_stable db start _ _) fun state reported => ?_
  cases prepared with
  | ok value => exact reported.of_same rfl rfl
  | error thrown => exact ⟨host, owners, hostPart, ownersPart, reported.of_same rfl rfl⟩

omit ownersPart hostPart in
private theorem callHost_reported {call : HostCall}
    (goesOn : host ++ [call] <+: node.hostCalls) :
    Triple db.AnyMove (ReportedAfter start nodes host []) (db.callHost call)
      (fun _ => ReportedAfter start nodes (host ++ [call]) [])
      (ReportedPart start nodes node) := by
  refine triple_atomic (reported_stable db start _ _) fun state reported => ?_
  have called := reported.calls call
  rw [List.append_assoc] at called
  cases db.hostFault state.host.length with
  | none => exact called
  | some thrown => exact ⟨host ++ [call], [], goesOn, List.nil_prefix, called⟩

end Node

private theorem applyWriter_reported {node : Node} {call : HostCall}
    (hostCalls : node.hostCalls = [.write, call, .flush]) :
    Triple db.AnyMove (ReportedAfter start nodes [] []) (db.applyWriter call)
      (fun _ => ReportedAfter start nodes node.hostCalls [])
      (ReportedPart start nodes node) := by
  rw [hostCalls]
  refine (callHost_reported (by rw [hostCalls]; exact ⟨[call, .flush], rfl⟩)).bind fun _ => ?_
  refine (callHost_reported (by rw [hostCalls]; exact ⟨[.flush], rfl⟩)).bind fun _ => ?_
  exact callHost_reported (by rw [hostCalls]; exact ⟨[], rfl⟩)

private theorem prepareAndRun_reported {node : Node} (sql : String) (parameters : Parameters) :
    Triple db.AnyMove (ReportedAfter start nodes [] []) (db.prepareAndRun sql parameters)
      (fun _ => ReportedAfter start nodes [] []) (ReportedPart start nodes node) := by
  refine (outcome_reported (db.prepare sql)).bind fun prepared => ?_
  cases prepared with
  | ok value =>
      exact (outcome_reported (db.runStatement sql parameters)).bind fun _ =>
        triple_pure _ fun _ reported => reported
  | error thrown => exact triple_pure _ fun _ reported => reported

private theorem applyBatch_reported {node : Node} (owner : Option CallId) (opens : Bool)
    (parameters : Parameters) (progress : Progress) :
    Triple db.AnyMove (ReportedAfter start nodes [] [])
      (db.applyBatch owner opens view parameters progress)
      (fun _ => ReportedAfter start nodes [] []) (ReportedPart start nodes node) := by
  have ran : Triple db.AnyMove (ReportedAfter start nodes [] [])
      (db.runOn progress.stmt parameters).outcome
      (fun _ => ReportedAfter start nodes [] []) (ReportedPart start nodes node) := by
    cases progress.stmt with
    | none => exact triple_pure _ fun _ reported => reported
    | some sql => exact outcome_reported (db.runStatement sql parameters)
  refine (switchTo_reported List.nil_prefix List.nil_prefix (some view)).bind fun _ =>
    ran.bind fun result => ?_
  have attempted : Triple db.AnyMove (ReportedAfter start nodes [] [])
      (Task.modify fun state =>
        { state with calls := state.calls.attempt owner opens result })
      (fun _ => ReportedAfter start nodes [] []) (ReportedPart start nodes node) :=
    triple_modify (reported_stable db start _ _) fun state reported =>
      reported.of_same rfl (completions_attempt _ _ _ _)
  refine attempted.bind fun _ =>
    (switchTo_reported List.nil_prefix List.nil_prefix none).bind fun _ => ?_
  exact triple_pure _ fun _ reported => reported

/-- A node tells what it has to, once. -/
theorem applyNode_reported (node : Node) (progress : Progress) :
    Triple db.AnyMove (ReportedAfter start nodes [] []) (db.applyNode view node progress)
      (fun _ => ReportedAfter start nodes node.hostCalls node.settled)
      (ReportedPart start nodes node) := by
  obtain ⟨owner, operation⟩ := node
  have ends (host : List HostCall) (owners : List (Option CallId)) (progress : Progress) :
      Triple db.AnyMove (ReportedAfter start nodes host owners)
        (pure progress : InstanceTask κ Progress)
        (fun _ => ReportedAfter start nodes host owners)
        (ReportedPart start nodes ⟨owner, operation⟩) :=
    triple_pure _ fun _ reported => reported
  cases operation with
  | writerAdd key => exact (applyWriter_reported rfl).bind fun _ => ends _ _ _
  | writerDel key => exact (applyWriter_reported rfl).bind fun _ => ends _ _ _
  | exec sql =>
      refine Triple.bind ?_ fun _ => ends _ _ _
      refine (switchTo_reported List.nil_prefix List.nil_prefix (some view)).bind fun _ => ?_
      refine (outcome_reported (db.exec sql)).bind fun result => ?_
      exact (complete_reported rfl _ _).bind fun _ =>
        switchTo_reported List.nil_prefix List.prefix_rfl none
  | run sql parameters =>
      refine (switchTo_reported List.nil_prefix List.nil_prefix (some view)).bind fun _ => ?_
      refine (prepareAndRun_reported sql parameters).bind fun result => ?_
      refine (complete_reported rfl _ _).bind fun _ => ?_
      exact (switchTo_reported List.nil_prefix List.prefix_rfl none).bind fun _ => ends _ _ _
  | stmt sql parameters =>
      exact (prepareStmt_reported List.nil_prefix List.nil_prefix sql).bind fun _ =>
        applyBatch_reported owner true parameters _
  | batch parameters => exact applyBatch_reported owner false parameters progress
  | flush =>
      exact Triple.bind (triple_modify (reported_stable db start _ _) fun _ reported =>
        Reported.settles reported rfl _ _) fun _ => ends _ _ _

private theorem applyFrom_tells (later earlier : List Node) (progress : Progress) :
    Triple db.AnyMove (ReportedAfter start earlier [] []) (db.applyFrom view later progress)
      (fun _ => ReportedAfter start (earlier ++ later) [] [])
      (fun thrown state => ∃ host owners, Tells (earlier ++ later) (.error thrown) host owners ∧
        Reported start host owners state) := by
  induction later generalizing earlier progress with
  | nil =>
      rw [List.append_nil]
      exact triple_pure () fun _ reported => reported
  | cons node later ih =>
      have here : Triple db.AnyMove (ReportedAfter start earlier [] [])
          (db.applyNode view node progress)
          (fun _ => ReportedAfter start (earlier ++ [node]) [] [])
          (fun thrown state => ∃ host owners,
            Tells (earlier ++ node :: later) (.error thrown) host owners ∧
              Reported start host owners state) := by
        refine (applyNode_reported node progress).mono (fun _ holds => holds) ?_ ?_
        · intro _ _ reported
          simpa only [ReportedAfter, List.flatMap_append, List.flatMap_singleton,
            List.append_nil] using reported
        · rintro thrown state ⟨host, owners, hostPart, ownersPart, reported⟩
          exact ⟨_, _, .upTo earlier node later thrown hostPart ownersPart, reported⟩
      refine here.bind fun progress => ?_
      rw [List.append_cons earlier node later]
      exact ih (earlier ++ [node]) progress

/-- Over a whole history, with every step of the callers and of local calls in between, the view
and the host are called and calls are settled by the nodes in the order they are applied in, once
for each node: by all nodes of an `_apply` call that returns, and by the first ones of a call that
throws, the last of them perhaps in part. -/
theorem told_in_order (db : Database κ) (start final : Instance κ) (applied : List (Applied κ))
    (run : db.Served db.AnyMove start applied final) :
    ∃ told : List (List HostCall × List (Option CallId)),
      List.Forall₂ (fun part call => Tells call.nodes call.result part.1 part.2) told applied ∧
      Reported start (told.flatMap Prod.fst) (told.flatMap Prod.snd) final := by
  induction run with
  | start => exact ⟨[], .nil, .refl start⟩
  | move _ step ih =>
      obtain ⟨told, each, reported⟩ := ih
      exact ⟨told, each, reported_stable db start _ _ _ _ step reported⟩
  | apply _ nodes view ran ih =>
      rename_i applied state final result _
      obtain ⟨told, each, reported⟩ := ih
      have ends := applyFrom_tells nodes [] .initial state _ _ (Reported.refl state) ran
      obtain ⟨host, owners, tells, reportedHere⟩ : ∃ host owners,
          Tells nodes result host owners ∧ Reported state host owners final := by
        cases result with
        | ok value =>
            have all : ReportedAfter state nodes [] [] final := ends
            simp only [ReportedAfter, List.append_nil] at all
            exact ⟨_, _, .all nodes, all⟩
        | error thrown => exact ends
      refine ⟨told ++ [(host, owners)], List.rel_append each (.cons tells .nil), ?_⟩
      rw [List.flatMap_append, List.flatMap_append, List.flatMap_singleton, List.flatMap_singleton]
      exact reported.trans reportedHere

/-- Between two `exec` calls of other peers a writer is added, and the flush of its batch fails;
the last node is never reached. -/
theorem told_in_order_writerFails :
    let db : Database Unit := { sample constantSqlite with
      hostFault := fun call => if call = 2 then some .undefined else none }
    let opened : Instance Unit := .opened (fun _ _ => ∅) (fun _ => 0) ()
    let nodes : List Node := [⟨none, .exec "CREATE TABLE t(x)"⟩, ⟨none, .writerAdd [1]⟩,
      ⟨none, .exec "INSERT INTO t VALUES (7)"⟩]
    ∃ told : List (List HostCall × List (Option CallId)),
      List.Forall₂ (fun part call => Tells call.nodes call.result part.1 part.2) told
        [db.applyAlone nodes 0 opened] ∧
      Reported opened (told.flatMap Prod.fst) (told.flatMap Prod.snd)
        (db.applyAlone nodes 0 opened).after := by
  intro db opened nodes
  exact told_in_order db opened _ _ (Served.start.applyAlone nodes 0)

end Database
end ParaQL
