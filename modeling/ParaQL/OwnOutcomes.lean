/-
Whose outcome settles an `exec`, `run` or `flush` call.

All calls share `_interactive`, and whichever node completes settles it.  As long as no
call starts while another is in progress and no other node completes in the meantime,
each call gets the outcome of its own SQL.
-/

import ParaQL.ApplyRule

namespace ParaQL

open Async Async.Task Bytes

namespace Calls

def firstOwn (calls : Calls) (id : CallId) : Option Completion :=
  calls.completions.find? fun completion => completion.owner = some id

/-- Each call is settled as soon as its nodes were processed, by their outcome and no
other, and that is what the call waits for and returns. -/
structure DeliversOwn (calls : Calls) : Prop where
  deferred : ∀ id, calls.deferred id = (calls.firstOwn id).map Completion.own
  waiting : ∀ id on, calls.phase id = .waiting on → on = id
  settled : ∀ id settlement, calls.phase id = .settled settlement →
    calls.deferred id = some settlement

def Sent (calls : Calls) (id : CallId) : Prop :=
  (∃ on, calls.phase id = .waiting on) ∨ ∃ settlement, calls.phase id = .settled settlement

theorem Sent.begun {calls : Calls} {id : CallId} (sent : calls.Sent id) :
    calls.phase id ≠ .idle ∧ calls.phase id ≠ .packing := by
  rcases sent with ⟨on, waiting⟩ | ⟨settlement, settled⟩
  · rw [waiting]
    exact ⟨CallPhase.noConfusion, CallPhase.noConfusion⟩
  · rw [settled]
    exact ⟨CallPhase.noConfusion, CallPhase.noConfusion⟩

/-- Whenever a node completed, the call in progress was the one that appended it. -/
def Fair (calls : Calls) : Prop :=
  ∀ completion ∈ calls.completions,
    completion.interactive = none ∨ completion.interactive = completion.owner

/-- A step of a call that does not start it while another one is in progress. -/
def OneAtATime (compressed : Bool) (calls next : Calls) : Prop :=
  CallMove compressed calls next ∧
    ∀ id, calls.phase id = .idle → next.phase id ≠ .idle →
      ∀ other, (calls.phase other).inProgress = false

structure Sound (calls : Calls) : Prop where
  current : ∀ id, calls.interactive = some id ↔ (calls.phase id).inProgress = true
  waiting : ∀ id on, calls.phase id = .waiting on → on = id
  deferred : ∀ id, calls.deferred id = (calls.firstOwn id).map Completion.own
  settled : ∀ id settlement, calls.phase id = .settled settlement →
    calls.deferred id = some settlement
  unsent : ∀ id, (calls.firstOwn id).isSome → calls.Sent id

private theorem Sound.deliversOwn {calls : Calls} (sound : calls.Sound) : calls.DeliversOwn :=
  ⟨sound.deferred, sound.waiting, sound.settled⟩

theorem Sound.rephase {calls : Calls} (sound : calls.Sound) (id : CallId)
    (interactive : Option CallId) (phase : CallPhase)
    (current : ∀ other, interactive = some other ↔
      ((Function.update calls.phase id phase) other).inProgress = true)
    (waiting : ∀ on, phase = .waiting on → on = id)
    (settled : ∀ settlement, phase = .settled settlement → calls.deferred id = some settlement)
    (unsent : (calls.firstOwn id).isSome →
      (∃ on, phase = .waiting on) ∨ ∃ settlement, phase = .settled settlement) :
    Sound { calls with
      interactive := interactive, phase := Function.update calls.phase id phase } := by
  refine ⟨current, ?_, sound.deferred, ?_, ?_⟩
  · intro other on known
    change Function.update calls.phase id phase other = _ at known
    by_cases same : other = id
    · subst same
      rw [Function.update_self] at known
      exact waiting on known
    · rw [Function.update_of_ne same] at known
      exact sound.waiting other on known
  · intro other settlement known
    change Function.update calls.phase id phase other = _ at known
    by_cases same : other = id
    · subst same
      rw [Function.update_self] at known
      exact settled settlement known
    · rw [Function.update_of_ne same] at known
      exact sound.settled other settlement known
  · intro other found
    unfold Sent
    change (∃ on, Function.update calls.phase id phase other = _) ∨
      ∃ settlement, Function.update calls.phase id phase other = _
    by_cases same : other = id
    · subst same
      rw [Function.update_self]
      exact unsent found
    · rw [Function.update_of_ne same]
      exact sound.unsent other found

theorem Sound.ends {calls : Calls} (sound : calls.Sound) {id : CallId}
    (inProgress : (calls.phase id).inProgress = true) (phase : CallPhase)
    (ended : phase.inProgress = false) (other : CallId) :
    none = some other ↔ ((Function.update calls.phase id phase) other).inProgress = true := by
  have mine := (sound.current id).2 inProgress
  by_cases same : other = id
  · subst same
    rw [Function.update_self, ended]
    simp
  · rw [Function.update_of_ne same, ← sound.current other, mine]
    simp [Ne.symm same]

theorem Sound.move {compressed : Bool} {calls next : Calls} (sound : calls.Sound)
    (move : OneAtATime compressed calls next) : next.Sound := by
  obtain ⟨move, alone⟩ := move
  cases move with
  | start id idle =>
      have started : (if compressed then CallPhase.packing else .waiting id) ≠ .idle := by
        cases compressed <;> simp
      have nobody := alone id idle (by
        change Function.update calls.phase id _ id ≠ _
        rw [Function.update_self]
        exact started)
      refine sound.rephase id (some id) _ ?_ ?_ ?_ ?_
      · intro other
        by_cases same : other = id
        · subst same
          rw [Function.update_self]
          cases compressed <;> simp [CallPhase.inProgress]
        · rw [Function.update_of_ne same, nobody other]
          simp [Ne.symm same]
      · intro on known
        cases compressed <;> simp at known
        exact known.symm
      · intro settlement known
        cases compressed <;> simp at known
      · exact fun found => absurd idle (sound.unsent id found).begun.1
  | append id on packing current =>
      have mine := (sound.current id).2 (by rw [packing]; rfl)
      have same : on = id := Option.some.inj (current.symm.trans mine)
      subst same
      refine sound.rephase on calls.interactive (.waiting on) ?_ ?_ ?_ ?_
      · intro other
        by_cases same : other = on
        · subst same
          rw [Function.update_self, mine]
          simp [CallPhase.inProgress]
        · rw [Function.update_of_ne same]
          exact sound.current other
      · intro other known
        cases known
        rfl
      · intro settlement known
        cases known
      · exact fun _ => Or.inl ⟨on, rfl⟩
  | orphan id packing none_left =>
      have mine := (sound.current id).2 (by rw [packing]; rfl)
      rw [none_left] at mine
      cases mine
  | unpacked id packing =>
      have inProgress : (calls.phase id).inProgress = true := by rw [packing]; rfl
      refine sound.rephase id none (.unsent .undefined) (sound.ends inProgress _ rfl) ?_ ?_ ?_
      · intro on known
        cases known
      · intro settlement known
        cases known
      · exact fun found => absurd packing (sound.unsent id found).begun.2
  | finish id on settlement waiting settled =>
      have inProgress : (calls.phase id).inProgress = true := by rw [waiting]; rfl
      have same := sound.waiting id on waiting
      subst same
      refine sound.rephase on none (.settled settlement) (sound.ends inProgress _ rfl) ?_ ?_ ?_
      · intro other known
        cases known
      · intro other known
        cases known
        exact settled
      · exact fun _ => Or.inr ⟨settlement, rfl⟩

theorem Sent.move {compressed : Bool} {calls next : Calls} {id : CallId} (sent : calls.Sent id)
    (move : CallMove compressed calls next) : next.Sent id := by
  have other (changed : CallId) (phase : CallPhase)
      (mine : changed = id →
        (∃ on, phase = .waiting on) ∨ ∃ settlement, phase = .settled settlement) :
      (∃ on, Function.update calls.phase changed phase id = .waiting on) ∨
        ∃ settlement, Function.update calls.phase changed phase id = .settled settlement := by
    by_cases same : id = changed
    · subst same
      rw [Function.update_self]
      exact mine rfl
    · rw [Function.update_of_ne same]
      exact sent
  cases move with
  | start changed idle =>
      refine other changed _ fun same => ?_
      subst same
      exact absurd idle sent.begun.1
  | append changed on packing current => exact other changed _ fun _ => Or.inl ⟨on, rfl⟩
  | orphan changed packing none_left => exact other changed _ fun _ => Or.inr ⟨_, rfl⟩
  | unpacked changed packing =>
      refine other changed _ fun same => ?_
      subst same
      exact absurd packing sent.begun.2
  | finish changed on settlement waiting settled =>
      exact other changed _ fun _ => Or.inr ⟨settlement, rfl⟩

theorem completions_move {compressed : Bool} {calls next : Calls}
    (move : CallMove compressed calls next) :
    next.completions = calls.completions ∧ next.attempts = calls.attempts := by
  cases move <;> exact ⟨rfl, rfl⟩

theorem deferred_settle (calls : Calls) (settlement : Settlement) (id : CallId) :
    (calls.settle settlement).deferred id =
      if calls.interactive = some id then (calls.deferred id).or (some settlement)
      else calls.deferred id := by
  unfold settle
  cases calls.interactive with
  | none => rfl
  | some current =>
      simp only [Option.some.injEq]
      by_cases same : current = id
      · subst same
        rw [if_pos rfl]
        cases found : calls.deferred current with
        | none => simp
        | some earlier => simp [found]
      · rw [if_neg same]
        split
        · rfl
        · exact Function.update_of_ne (Ne.symm same) _ _

theorem settle_rest (calls : Calls) (settlement : Settlement) :
    (calls.settle settlement).interactive = calls.interactive ∧
      (calls.settle settlement).phase = calls.phase ∧
      (calls.settle settlement).attempts = calls.attempts := by
  unfold settle
  split
  · exact ⟨rfl, rfl, rfl⟩
  · split <;> exact ⟨rfl, rfl, rfl⟩

private theorem firstOwn_complete (calls : Calls) (owner : Option CallId) (own given : Settlement)
    (id : CallId) :
    (calls.complete owner own given).firstOwn id =
      (calls.firstOwn id).or
        (if owner = some id then
          some { owner := owner, own := own, given := given, interactive := calls.interactive }
        else none) := by
  change (calls.completions ++ [_]).find? _ = _
  rw [List.find?_append, firstOwn]
  congr 1
  by_cases mine : owner = some id <;> simp [mine]

theorem Sound.complete {calls : Calls} (sound : calls.Sound) {owner : Option CallId}
    {own given : Settlement} (fair : calls.interactive = none ∨ calls.interactive = owner)
    (same : ∀ id, owner = some id → given = own)
    (sent : ∀ id, owner = some id → calls.Sent id) : (calls.complete owner own given).Sound := by
  obtain ⟨interactive, phase, _⟩ := calls.settle_rest given
  have phaseAfter : (calls.complete owner own given).phase = calls.phase := phase
  have deferredAfter (id : CallId) : (calls.complete owner own given).deferred id =
      if calls.interactive = some id then (calls.deferred id).or (some given)
      else calls.deferred id := calls.deferred_settle given id
  refine ⟨?_, ?_, ?_, ?_, ?_⟩
  · intro id
    rw [phaseAfter]
    exact (congrArg (· = some id) interactive).to_iff.trans (sound.current id)
  · intro id on
    rw [phaseAfter]
    exact sound.waiting id on
  · intro id
    rw [deferredAfter, firstOwn_complete, sound.deferred]
    by_cases current : calls.interactive = some id
    · have mine : owner = some id := by
        rcases fair with none_left | other
        · rw [none_left] at current
          cases current
        · exact other.symm.trans current
      rw [if_pos current, if_pos mine, same id mine]
      cases calls.firstOwn id <;> rfl
    · rw [if_neg current]
      by_cases mine : owner = some id
      · -- The call got its result before, from an earlier processing of its nodes.
        have ended : ¬(calls.phase id).inProgress = true := mt (sound.current id).2 current
        rcases sent id mine with ⟨on, waiting⟩ | ⟨settlement, settled⟩
        · rw [waiting] at ended
          exact absurd rfl ended
        · have found := (sound.deferred id).symm.trans (sound.settled id settlement settled)
          cases first : calls.firstOwn id with
          | none =>
              rw [first] at found
              cases found
          | some completion => rfl
      · rw [if_neg mine, Option.or_none]
  · intro id settlement
    rw [phaseAfter, deferredAfter]
    intro settled
    rw [sound.settled id settlement settled]
    split <;> rfl
  · intro id
    rw [firstOwn_complete]
    unfold Sent
    rw [phaseAfter]
    intro found
    by_cases mine : owner = some id
    · exact sent id mine
    · rw [if_neg mine, Option.or_none] at found
      exact sound.unsent id found

theorem Fair.earlier {calls : Calls} {owner : Option CallId} {own given : Settlement}
    (fair : (calls.complete owner own given).Fair) :
    calls.Fair ∧ (calls.interactive = none ∨ calls.interactive = owner) :=
  ⟨fun completion member => fair completion (List.mem_append_left _ member),
    fair _ (List.mem_append_right _ (List.mem_singleton.2 rfl))⟩

end Calls

/-- The operations whose result `_apply` counts. -/
def Node.counts (node : Node) : Bool :=
  match node.operation with
  | .stmt _ _ => true
  | .batch _ => true
  | _ => false

def OplogCall.group (id : CallId) : OplogCall → List Node
  | .flush sql operations =>
      ⟨some id, .stmt sql .absent⟩ :: operations.map fun parameters => ⟨some id, .batch parameters⟩
  | _ => []

/-- Nodes of the calls of this instance are those that they have appended. -/
def Appended (requests : CallId → OplogCall) (calls : Calls) (nodes : List Node) : Prop :=
  ∀ node ∈ nodes, ∀ id, node.owner = some id →
    calls.Sent id ∧ node.operation ∈ (requests id).operations

/-- A FLUSH comes in one `_apply` call with its whole group, and no other STMT or BATCH is
before it there. -/
def WholeGroups (requests : CallId → OplogCall) (nodes : List Node) : Prop :=
  ∀ id before after, nodes = before ++ ⟨some id, .flush⟩ :: after →
    before.filter Node.counts = (requests id).group id

def OneGroup (id : CallId) (nodes : List Node) : Prop :=
  ∃ sql parameters batches,
    nodes.filter Node.counts = ⟨some id, .stmt sql parameters⟩ :: batches ∧
      ∀ node ∈ batches, ∃ parameters, node = ⟨some id, .batch parameters⟩

/-- What the local variables of `_apply` hold when its nodes so far count for one call. -/
structure Counted (handled : List Node) (progress : Progress) (calls : Calls) : Prop where
  fresh : handled.filter Node.counts = [] → progress.flushed = Progress.initial.flushed
  group : ∀ id, OneGroup id handled → progress.flushed = tally (calls.attempts id)

private theorem counted_initial (calls : Calls) : Counted [] .initial calls := by
  refine ⟨fun _ => rfl, ?_⟩
  rintro id ⟨sql, parameters, batches, same, _⟩
  cases same

theorem Counted.congr {handled : List Node} {progress other : Progress} {calls next : Calls}
    (counted : Counted handled progress calls) (same : other.flushed = progress.flushed)
    (attempts : next.attempts = calls.attempts) : Counted handled other next := by
  refine ⟨fun none_yet => same.trans (counted.fresh none_yet), ?_⟩
  intro id group
  rw [attempts, same]
  exact counted.group id group

theorem Counted.skip {handled : List Node} {progress : Progress} {calls : Calls}
    (counted : Counted handled progress calls) {node : Node} (uncounted : node.counts = false) :
    Counted (handled ++ [node]) progress calls := by
  have same : (handled ++ [node]).filter Node.counts = handled.filter Node.counts := by
    rw [List.filter_append, List.filter_cons_of_neg (by rw [uncounted]; exact Bool.false_ne_true)]
    exact List.append_nil _
  refine ⟨fun none_yet => counted.fresh (same.symm.trans none_yet), ?_⟩
  rintro id ⟨sql, parameters, batches, split, each⟩
  exact counted.group id ⟨sql, parameters, batches, same.symm.trans split, each⟩

private theorem flushed_count {first second : Progress} (same : first.flushed = second.flushed)
    (result : Except JsValue RunResult) :
    (first.count result).flushed = (second.count result).flushed := by
  obtain ⟨stmt, changes, rowid, errors⟩ := first
  obtain ⟨other, otherChanges, otherRowid, otherErrors⟩ := second
  simp only [Progress.flushed, Settlement.flushed.injEq] at same
  obtain ⟨rfl, rfl, rfl⟩ := same
  cases result <;> rfl

private theorem tally_concat (attempts : List (Except JsValue RunResult))
    (result : Except JsValue RunResult) :
    tally (attempts ++ [result]) =
      ((attempts.foldl Progress.count .initial).count result).flushed := by
  unfold tally
  rw [List.foldl_append]
  rfl

theorem Counted.attempt {handled : List Node} {progress : Progress} {calls : Calls}
    (counted : Counted handled progress calls) {node : Node} (opens : Bool)
    (kind : if opens then ∃ sql parameters, node.operation = .stmt sql parameters
      else ∃ parameters, node.operation = .batch parameters)
    (result : Except JsValue RunResult) :
    Counted (handled ++ [node]) (progress.count result)
      (calls.attempt node.owner opens result) := by
  have counts : node.counts = true := by
    unfold Node.counts
    cases opens
    · obtain ⟨parameters, batch⟩ := kind
      rw [batch]
    · obtain ⟨sql, parameters, stmt⟩ := kind
      rw [stmt]
  have grown : (handled ++ [node]).filter Node.counts = handled.filter Node.counts ++ [node] := by
    rw [List.filter_append, List.filter_cons_of_pos counts]
    rfl
  constructor
  · intro none_yet
    rw [grown] at none_yet
    simp at none_yet
  · rintro id ⟨sql, parameters, batches, split, each⟩
    rw [grown] at split
    cases found : handled.filter Node.counts with
    | nil =>
        -- The node opens the group.
        rw [found, List.nil_append, List.cons.injEq] at split
        obtain ⟨rfl, rfl⟩ := split
        cases opens
        · obtain ⟨other, batch⟩ := kind
          cases batch
        · rw [flushed_count (counted.fresh found)]
          simp only [Calls.attempt, Function.update_self]
          exact (tally_concat [] result).symm
    | cons first middle =>
        -- The node continues it.
        rw [found, List.cons_append, List.cons.injEq] at split
        obtain ⟨rfl, rfl⟩ := split
        obtain ⟨other, rfl⟩ := each node (List.mem_append_right _ (List.mem_singleton.2 rfl))
        have before : OneGroup id handled :=
          ⟨sql, parameters, middle, found,
            fun node member => each node (List.mem_append_left _ member)⟩
        cases opens
        · rw [flushed_count (counted.group id before)]
          simp only [Calls.attempt, Function.update_self, Bool.false_eq_true, if_false]
          exact (tally_concat _ result).symm
        · obtain ⟨_, _, stmt⟩ := kind
          cases stmt

private theorem WholeGroups.oneGroup {requests : CallId → OplogCall}
    {nodes before after : List Node}
    {calls : Calls} {id : CallId} (whole : WholeGroups requests nodes)
    (appended : Appended requests calls nodes)
    (split : nodes = before ++ ⟨some id, .flush⟩ :: after) : OneGroup id before := by
  have operation := (appended ⟨some id, .flush⟩
    (split ▸ List.mem_append_right _ List.mem_cons_self) id rfl).2
  have group := whole id before after split
  cases request : requests id with
  | exec sql => simp [request, OplogCall.operations] at operation
  | run sql parameters => simp [request, OplogCall.operations] at operation
  | flush sql operations =>
      rw [request] at group
      refine ⟨sql, .absent, _, group, ?_⟩
      intro node member
      obtain ⟨parameters, _, rfl⟩ := List.mem_map.1 member
      exact ⟨parameters, rfl⟩

/-! ### One `_apply` -/

variable {κ α : Type}

structure Calls.Going (handled rest : List Node) (progress : Progress) (calls : Calls) : Prop where
  sound : calls.Fair → calls.Sound
  sent : ∀ node ∈ rest, ∀ id, node.owner = some id → calls.Sent id
  counted : Counted handled progress calls

def Calls.Stopped (_ : JsValue) (state : Instance κ) : Prop :=
  state.calls.Fair → state.calls.Sound

theorem Calls.Going.skip {handled rest : List Node} {progress : Progress} {calls : Calls}
    {node : Node} (going : calls.Going handled (node :: rest) progress)
    (uncounted : node.counts = false) : calls.Going (handled ++ [node]) rest progress :=
  ⟨going.sound, fun other member => going.sent other (List.mem_cons_of_mem _ member),
    going.counted.skip uncounted⟩

namespace Database

def SingleMove (db : Database κ) : Instance κ → Instance κ → Prop :=
  db.Move (Calls.OneAtATime db.vfs.compressed) (fun _ => True)

variable {db : Database κ} {handled rest : List Node} {progress : Progress}

private theorem sound_stable : Stable db.SingleMove
    (fun state : Instance κ => state.calls.Fair → state.calls.Sound) := by
  intro state moved move sound
  cases move with
  | call next step =>
      intro fair
      have fairBefore : state.calls.Fair := by
        unfold Calls.Fair at fair ⊢
        rw [← (Calls.completions_move step.1).1]
        exact fair
      exact (sound fairBefore).move step
  | localStep call permitted makes => exact sound

private theorem going_stable : Stable db.SingleMove
    (fun state : Instance κ => state.calls.Going handled rest progress) := by
  intro state moved move going
  have sound := sound_stable state moved move going.sound
  cases move with
  | call next step =>
      refine ⟨sound, ?_, going.counted.congr rfl (Calls.completions_move step.1).2⟩
      exact fun node member id owner => (going.sent node member id owner).move step.1
  | localStep call permitted makes => exact going

private theorem outcome_going {task : EngineTask κ α}
    (steps : Guarantees (EngineStep db.vfs anything) task) :
    Triple db.SingleMove (fun state => state.calls.Going handled rest progress)
      (onEngine task).outcome (fun _ state => state.calls.Going handled rest progress)
      Calls.Stopped :=
  outcome_calls (Calls.Going handled rest progress) going_stable steps

private theorem switchTo_going (view : Option Nat) :
    Triple db.SingleMove (fun state => state.calls.Going handled rest progress) (switchTo view)
      (fun _ state => state.calls.Going handled rest progress) Calls.Stopped :=
  switchTo_calls (Calls.Going handled rest progress) going_stable
    (fun _ _ going => going.sound) view

private theorem complete_going (node : Node) (uncounted : node.counts = false)
    (own given : Instance κ → Settlement)
    (same : ∀ state : Instance κ, state.calls.Going handled (node :: rest) progress →
      ∀ id, node.owner = some id → given state = own state) :
    Triple db.SingleMove (fun state => state.calls.Going handled (node :: rest) progress)
      (Task.modify fun state =>
        { state with calls := state.calls.complete node.owner (own state) (given state) })
      (fun _ state => state.calls.Going (handled ++ [node]) rest progress) Calls.Stopped := by
  refine triple_modify going_stable fun state going => ⟨?_, ?_, ?_⟩
  · intro fair
    obtain ⟨fairBefore, fairNow⟩ := fair.earlier
    exact (going.sound fairBefore).complete fairNow (same state going)
      fun id owner => going.sent node List.mem_cons_self id owner
  · intro other member id owner
    have sent := going.sent other (List.mem_cons_of_mem _ member) id owner
    unfold Calls.Sent at sent ⊢
    rw [← (state.calls.settle_rest (given state)).2.1] at sent
    exact sent
  · exact (going.counted.skip uncounted).congr rfl
      (state.calls.settle_rest (given state)).2.2

private theorem attempt_going (node : Node) (opens : Bool)
    (kind : if opens then ∃ sql parameters, node.operation = .stmt sql parameters
      else ∃ parameters, node.operation = .batch parameters)
    (result : Except JsValue RunResult) :
    Triple db.SingleMove (fun state => state.calls.Going handled (node :: rest) progress)
      (Task.modify fun state =>
        { state with calls := state.calls.attempt node.owner opens result })
      (fun _ state => state.calls.Going (handled ++ [node]) rest (progress.count result))
      Calls.Stopped := by
  refine triple_modify going_stable fun state going => ?_
  have counted := going.counted.attempt opens kind result
  obtain ⟨attempts, same⟩ : ∃ attempts, state.calls.attempt node.owner opens result =
      { state.calls with attempts := attempts } := by
    unfold Calls.attempt
    cases node.owner with
    | none => exact ⟨state.calls.attempts, rfl⟩
    | some id => exact ⟨_, rfl⟩
  simp only [same] at counted ⊢
  refine ⟨fun fair => ?_, fun other member => going.sent other (List.mem_cons_of_mem _ member),
    counted⟩
  have sound := going.sound fair
  exact ⟨sound.current, sound.waiting, sound.deferred, sound.settled, sound.unsent⟩

private theorem applyBatch_going (view : Nat) (node : Node) (opens : Bool)
    (kind : if opens then ∃ sql parameters, node.operation = .stmt sql parameters
      else ∃ parameters, node.operation = .batch parameters) (parameters : Parameters) :
    Triple db.SingleMove (fun state => state.calls.Going handled (node :: rest) progress)
      (db.applyBatch node.owner opens view parameters progress)
      (fun after state => state.calls.Going (handled ++ [node]) rest after) Calls.Stopped := by
  have ran : Triple db.SingleMove (fun state => state.calls.Going handled (node :: rest) progress)
      (db.runOn progress.stmt parameters).outcome
      (fun _ state => state.calls.Going handled (node :: rest) progress) Calls.Stopped := by
    cases progress.stmt with
    | none => exact triple_pure _ fun _ going => going
    | some sql => exact outcome_going (db.runStatement_steps sql parameters)
  refine (switchTo_going _).bind fun _ => ran.bind fun result => ?_
  refine Triple.bind (attempt_going node opens kind result) fun _ => ?_
  exact (switchTo_going none).bind fun _ => triple_pure _ fun _ going => going

private theorem prepareStmt_going (sql : String) :
    Triple db.SingleMove (fun state => state.calls.Going handled rest progress)
      (db.prepareStmt sql) (fun _ state => state.calls.Going handled rest progress)
      Calls.Stopped := by
  refine (outcome_going (db.prepare_steps_anything sql)).bind fun prepared => ?_
  apply triple_atomic going_stable
  intro state going
  cases prepared with
  | ok value => exact going
  | error thrown => exact going.sound

private theorem prepareAndRun_going (sql : String) (parameters : Parameters) :
    Triple db.SingleMove (fun state => state.calls.Going handled rest progress)
      (db.prepareAndRun sql parameters)
      (fun _ state => state.calls.Going handled rest progress) Calls.Stopped := by
  refine (outcome_going (db.prepare_steps_anything sql)).bind fun prepared => ?_
  cases prepared with
  | ok value =>
      exact (outcome_going (db.runStatement_steps sql parameters)).bind fun _ =>
        triple_pure _ fun _ going => going
  | error thrown => exact triple_pure _ fun _ going => going

private theorem applyNode_going (view : Nat) (node : Node)
    (whole : ∀ id, node = ⟨some id, .flush⟩ → OneGroup id handled) :
    Triple db.SingleMove (fun state => state.calls.Going handled (node :: rest) progress)
      (db.applyNode view node progress)
      (fun after state => state.calls.Going (handled ++ [node]) rest after) Calls.Stopped := by
  have skipped (uncounted : node.counts = false) (call : HostCall) :
      Triple db.SingleMove (fun state => state.calls.Going handled (node :: rest) progress)
        (do db.applyWriter call; pure progress : InstanceTask κ Progress)
        (fun after state => state.calls.Going (handled ++ [node]) rest after) Calls.Stopped := by
    have called : Triple db.SingleMove
        (fun state => state.calls.Going handled (node :: rest) progress) (db.applyWriter call)
        (fun _ state => state.calls.Going handled (node :: rest) progress) Calls.Stopped :=
      triple_applyWriter call going_stable (fun _ _ going => going) fun _ _ going => going.sound
    exact called.bind fun _ => triple_pure progress fun _ going => going.skip uncounted
  obtain ⟨owner, operation⟩ := node
  cases operation with
  | writerAdd key => exact skipped rfl _
  | writerDel key => exact skipped rfl _
  | exec sql =>
      refine Triple.bind ?_ fun _ => triple_pure progress fun _ going => going
      refine (switchTo_going (some view)).bind fun _ => (outcome_going (db.exec_steps sql)).bind
        fun result => ?_
      refine Triple.bind (complete_going ⟨owner, .exec sql⟩ rfl (fun _ => .ofExec result)
        (fun _ => .ofExec result) fun _ _ _ _ => rfl) fun _ => switchTo_going none
  | run sql parameters =>
      refine (switchTo_going (some view)).bind fun _ => (prepareAndRun_going sql parameters).bind
        fun result => ?_
      refine Triple.bind (complete_going ⟨owner, .run sql parameters⟩ rfl (fun _ => .ofRun result.2)
        (fun _ => .ofRun result.2) fun _ _ _ _ => rfl) fun _ => ?_
      refine (switchTo_going none).bind fun _ => triple_pure _ fun state going => ?_
      refine ⟨going.sound, going.sent, going.counted.congr ?_ rfl⟩
      split <;> rfl
  | stmt sql parameters =>
      have prepared : Triple db.SingleMove
          (fun state => state.calls.Going handled (⟨owner, .stmt sql parameters⟩ :: rest) progress)
          (db.prepareStmt sql)
          (fun _ state => state.calls.Going handled (⟨owner, .stmt sql parameters⟩ :: rest)
            { progress with stmt := some sql }) Calls.Stopped :=
        (prepareStmt_going sql).mono (fun _ going => going)
          (fun _ _ going => ⟨going.sound, going.sent, going.counted.congr rfl rfl⟩)
          fun _ _ known => known
      exact prepared.bind fun _ => applyBatch_going view ⟨owner, .stmt sql parameters⟩ true
        ⟨sql, parameters, rfl⟩ parameters
  | batch parameters =>
      exact applyBatch_going view ⟨owner, .batch parameters⟩ false ⟨parameters, rfl⟩ parameters
  | flush =>
      refine Triple.bind (complete_going ⟨owner, .flush⟩ rfl _ (fun _ => progress.flushed) ?_)
        fun _ => triple_pure progress fun _ going => going
      rintro state going id rfl
      exact going.counted.group id (whole id rfl)

private theorem applyFrom_going (view : Nat) (whole : ∀ id before after,
      handled ++ rest = before ++ ⟨some id, .flush⟩ :: after → OneGroup id before) :
    Triple db.SingleMove (fun state => state.calls.Going handled rest progress)
      (db.applyFrom view rest progress)
      (fun _ state => state.calls.Fair → state.calls.Sound) Calls.Stopped := by
  induction rest generalizing handled progress with
  | nil => exact triple_pure () fun _ going => going.sound
  | cons node rest ih =>
      refine (applyNode_going view node fun id same => ?_).bind fun after => ?_
      · exact whole id handled rest (by rw [same])
      · exact ih fun id before after split => whole id before after
          (by rw [← split, List.append_assoc, List.singleton_append])

/-! ### Runs -/

/-- Every call gets the outcome of its own SQL, in every run in which the nodes of the
calls are nodes that the calls have appended. -/
def DeliversOwnOutcomes (db : Database κ) (requests : CallId → OplogCall) : Prop :=
  ∀ stores clock connection applied final,
    db.Served db.AnyMove (Instance.opened stores clock connection) applied final →
      (∀ call ∈ applied, Appended requests call.before.calls call.nodes) →
        final.calls.DeliversOwn

private theorem served_sound {requests : CallId → OplogCall} {stores : StoreRef → Store}
    {clock : Nat → Int} {connection : κ} {applied : List (Applied κ)} {final : Instance κ}
    (run : db.Served db.SingleMove (Instance.opened stores clock connection) applied final)
    (appended : ∀ call ∈ applied, Appended requests call.before.calls call.nodes)
    (whole : ∀ call ∈ applied, WholeGroups requests call.nodes) :
    final.calls.Fair → final.calls.Sound := by
  induction run with
  | start =>
      intro _
      refine ⟨fun id => ?_, ?_, fun id => rfl, ?_, ?_⟩
      · exact iff_of_false (fun known => by cases known) Bool.false_ne_true
      · intro id on known
        cases known
      · intro id settlement known
        cases known
      · intro id known
        cases known
  | move run step ih => exact sound_stable _ _ step (ih appended whole)
  | @apply applied state final result run nodes view ran ih =>
      have before := ih (fun call member => appended call (List.mem_append_left _ member))
        fun call member => whole call (List.mem_append_left _ member)
      have last := List.mem_append_right applied
        (List.mem_singleton.2 (rfl : (⟨nodes, view, state, result, final⟩ : Applied κ) = _))
      have mine := appended _ last
      have begins : state.calls.Going [] nodes .initial :=
        ⟨before, fun node member id owner => (mine node member id owner).1, counted_initial _⟩
      have groups : ∀ id before after, [] ++ nodes = before ++ ⟨some id, .flush⟩ :: after →
          OneGroup id before :=
        fun id before after split => (whole _ last).oneGroup mine split
      have ends := applyFrom_going view groups state result final begins ran
      cases result with
      | ok value => exact ends
      | error thrown => exact ends

/-- Each call gets its own outcome when the calls come one at a time, only nodes of the
call in progress complete meanwhile, and each FLUSH comes with its whole group. -/
theorem deliversOwn_of_single (requests : CallId → OplogCall) {stores : StoreRef → Store}
    {clock : Nat → Int} {connection : κ} {applied : List (Applied κ)} {final : Instance κ}
    (run : db.Served db.SingleMove (Instance.opened stores clock connection) applied final)
    (appended : ∀ call ∈ applied, Appended requests call.before.calls call.nodes)
    (whole : ∀ call ∈ applied, WholeGroups requests call.nodes) (fair : final.calls.Fair) :
    final.calls.DeliversOwn :=
  (served_sound run appended whole fair).deliversOwn

def started (ids : List CallId) : Instance Unit :=
  { Instance.opened (fun _ _ => ∅) (fun _ => 0) () with
    calls := ids.foldl (fun calls id =>
      { calls with interactive := some id, phase := Function.update calls.phase id (.waiting id) })
      .initial }

private theorem appended_exec {calls : Calls} {id : CallId} (sql : String)
    (sent : calls.Sent id) : Appended (fun _ => .exec sql) calls [⟨some id, .exec sql⟩] := by
  intro node member owner owned
  rw [List.mem_singleton.1 member] at owned ⊢
  cases owned
  exact ⟨sent, List.mem_singleton.2 rfl⟩

def mixedRequests : CallId → OplogCall
  | 0 => .flush "INSERT INTO t VALUES (?)" [⟨.null, .list [.integer 7]⟩, ⟨.null, .list []⟩]
  | _ => .run "DELETE FROM t" ⟨.null, .list []⟩

def mixedNodesOf (id : CallId) : List Node :=
  ⟨none, .writerAdd (Buffer.alloc 32)⟩ ::
    (mixedRequests id).operations.map fun operation => ⟨some id, operation⟩

def flushApplied : Applied Unit :=
  (sample journalingSqlite).applyAlone (mixedNodesOf 0) 0 (started [0])

def flushReturned : Instance Unit :=
  { flushApplied.after with
    calls :=
      { flushApplied.after.calls with
        interactive := none
        phase := Function.update flushApplied.after.calls.phase 0 (.settled (.flushed 2 1 1)) } }

def otherApplied : Applied Unit :=
  (sample journalingSqlite).applyAlone [⟨none, .exec "CREATE TABLE u (y)"⟩] 1 flushReturned

def runBegun : Instance Unit :=
  { otherApplied.after with
    calls :=
      { otherApplied.after.calls with
        interactive := some 1
        phase := Function.update otherApplied.after.calls.phase 1 (.waiting 1) } }

def runApplied : Applied Unit :=
  (sample journalingSqlite).applyAlone (mixedNodesOf 1) 2 runBegun

private theorem mixed_fair : runApplied.after.calls.Fair := by
  unfold Calls.Fair
  decide +kernel

private theorem flushReturned_move :
    (sample journalingSqlite).SingleMove flushApplied.after flushReturned := by
  have waiting : flushApplied.after.calls.phase 0 = .waiting 0 := by decide +kernel
  have settled : flushApplied.after.calls.deferred 0 = some (.flushed 2 1 1) := by decide +kernel
  refine .call _ _ ⟨.finish _ 0 0 _ waiting settled, fun id idle begun => absurd ?_ begun⟩
  have other : id ≠ 0 := fun same => by
    rw [same, waiting] at idle
    cases idle
  exact (Function.update_of_ne other _ _).trans idle

private theorem runBegun_move
    (nobody : ∀ id, (otherApplied.after.calls.phase id).inProgress = false) :
    (sample journalingSqlite).SingleMove otherApplied.after runBegun :=
  .call _ _ ⟨.start _ 1 (by decide +kernel), fun _ _ _ => nobody⟩

private theorem appended_own {requests : CallId → OplogCall} {calls : Calls} {nodes : List Node}
    (id : CallId) (sent : calls.Sent id)
    (own : ∀ node ∈ nodes, node.owner = none ∨
      node.owner = some id ∧ node.operation ∈ (requests id).operations) :
    Appended requests calls nodes := by
  intro node member owner owned
  rcases own node member with nobody | ⟨known, operation⟩
  · cases nobody.symm.trans owned
  · cases known.symm.trans owned
    exact ⟨sent, operation⟩

private theorem wholeGroups_of_take {requests : CallId → OplogCall} {nodes : List Node}
    (groups : ∀ index < nodes.length, ∀ node ∈ nodes[index]?, node.operation = .flush →
      ∀ id ∈ node.owner, (nodes.take index).filter Node.counts = (requests id).group id) :
    WholeGroups requests nodes := by
  intro id before after split
  have here : nodes[before.length]? = some ⟨some id, .flush⟩ := by
    rw [split, List.getElem?_append_right le_rfl, Nat.sub_self, List.getElem?_cons_zero]
  have group := groups before.length (List.getElem?_eq_some_iff.1 here).1 _ here rfl id rfl
  rwa [split, List.take_left] at group

private theorem mixed_whole : ∀ call ∈ [flushApplied, otherApplied, runApplied],
    WholeGroups mixedRequests call.nodes := by
  have groups : ∀ nodes ∈ [mixedNodesOf 0, [⟨none, .exec "CREATE TABLE u (y)"⟩], mixedNodesOf 1],
      WholeGroups mixedRequests nodes := by
    intro nodes member
    apply wholeGroups_of_take
    revert nodes
    decide +kernel
  simpa [flushApplied, otherApplied, runApplied, applyAlone] using groups

/-- A flush and a run, one after the other, and nodes of another peer in between. -/
theorem deliversOwn_of_single_mixed : runApplied.after.calls.DeliversOwn := by
  have begun : (sample journalingSqlite).Served (sample journalingSqlite).SingleMove
      (.opened (fun _ _ => ∅) (fun _ => 0) ()) [] (started [0]) :=
    .move .start (.call _ _ ⟨.start .initial 0 rfl, fun _ _ _ _ => rfl⟩)
  have flushed := begun.applyAlone (mixedNodesOf 0) 0
  have other := (Served.move flushed flushReturned_move).applyAlone
    [⟨none, .exec "CREATE TABLE u (y)"⟩] 1
  have flushAppended : Appended mixedRequests (started [0]).calls (mixedNodesOf 0) :=
    appended_own 0 (Or.inl ⟨0, rfl⟩) (by decide +kernel)
  have othersOnly : Appended mixedRequests flushReturned.calls
      [⟨none, .exec "CREATE TABLE u (y)"⟩] :=
    appended_own 0 (Or.inr ⟨.flushed 2 1 1, by decide +kernel⟩) (by decide +kernel)
  have sound : otherApplied.after.calls.Sound := by
    have fair : otherApplied.after.calls.Fair := by
      unfold Calls.Fair
      decide +kernel
    exact served_sound other
      (List.forall_mem_cons.2 ⟨flushAppended, List.forall_mem_singleton.2 othersOnly⟩)
      (fun call member => mixed_whole call (List.mem_append_left [runApplied] member)) fair
  have nobody (id : CallId) : (otherApplied.after.calls.phase id).inProgress = false := by
    have none_left : otherApplied.after.calls.interactive = none := by decide +kernel
    rw [← Bool.not_eq_true, ← sound.current id, none_left]
    simp
  have ran := (Served.move other (runBegun_move nobody)).applyAlone (mixedNodesOf 1) 2
  refine deliversOwn_of_single mixedRequests ran ?_ mixed_whole mixed_fair
  refine List.forall_mem_cons.2 ⟨flushAppended, List.forall_mem_cons.2 ⟨othersOnly, ?_⟩⟩
  exact List.forall_mem_singleton.2
    (appended_own 1 (Or.inl ⟨1, by decide +kernel⟩) (by decide +kernel))

/-- With two calls in progress the node of the first settles the second. -/
theorem deliversOwnOutcomes_overlap_fails :
    ¬(sample (Sqlite.idle Unit)).DeliversOwnOutcomes (fun _ => .exec "SELECT 1") := by
  intro delivers
  have begun : (sample (Sqlite.idle Unit)).Served (sample (Sqlite.idle Unit)).AnyMove
      (.opened (fun _ _ => ∅) (fun _ => 0) ()) [] (started [0, 1]) :=
    .move (.move .start (.call _ _ (.start .initial 0 rfl))) (.call _ _ (.start _ 1 rfl))
  have own := delivers _ _ _ _ _ (begun.applyAlone [⟨some 0, .exec "SELECT 1"⟩] 0)
    (List.forall_mem_singleton.2 (appended_exec "SELECT 1" (Or.inl ⟨0, rfl⟩)))
  have settled : ((sample (Sqlite.idle Unit)).applyAlone [⟨some 0, .exec "SELECT 1"⟩] 0
      (started [0, 1])).after.calls.deferred 1 = some .executed := by
    decide +kernel
  have noneOwn : ((sample (Sqlite.idle Unit)).applyAlone [⟨some 0, .exec "SELECT 1"⟩] 0
      (started [0, 1])).after.calls.firstOwn 1 = none := by
    decide +kernel
  have same := own.deferred 1
  rw [settled, noneOwn] at same
  cases same

end Database
end ParaQL
