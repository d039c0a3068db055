/-
Tasks that run while others change the shared state.

Before each of its steps a task may find the state moved along a relation, its rely.
A triple states what then holds at its end.  A guarantee states what every single
step of a task does, wherever in the task it is, and so what the task is for others.
-/

import ParaQL.Async.Task
import Mathlib.Logic.Relation

namespace Async
namespace Task

open Relation

variable {σ τ ε α β : Type}

/-- Others act before each step, but not after the last one. -/
inductive RunUnder (rely : σ → σ → Prop) : Task σ ε α → σ → Except ε α → σ → Prop where
  | done (result : Except ε α) (state : σ) : RunUnder rely (.done result) state result state
  | step {update : σ → σ} {next : σ → Task σ ε α} {state moved final : σ}
      {result : Except ε α} (moves : ReflTransGen rely state moved)
      (rest : RunUnder rely (next moved) (update moved) result final) :
      RunUnder rely (.step update next) state result final

theorem runUnder_run (rely : σ → σ → Prop) (task : Task σ ε α) (state : σ) :
    RunUnder rely task state (task.run state).1 (task.run state).2 := by
  induction task generalizing state with
  | done result => exact .done result state
  | step update next ih => exact .step .refl (ih state (update state))

theorem RunUnder.bind_inv {rely : σ → σ → Prop} {task : Task σ ε α} {rest : α → Task σ ε β}
    {state final : σ} {result : Except ε β}
    (ran : RunUnder rely (task >>= rest) state result final) :
    (∃ value middle, RunUnder rely task state (.ok value) middle ∧
      RunUnder rely (rest value) middle result final) ∨
    ∃ rejection, RunUnder rely task state (.error rejection) final ∧
      result = .error rejection := by
  change RunUnder rely (task.bind rest) state result final at ran
  induction task generalizing state with
  | done outcome =>
      cases outcome with
      | ok value => exact Or.inl ⟨value, state, .done _ _, ran⟩
      | error rejection =>
          cases ran
          exact Or.inr ⟨rejection, .done _ _, rfl⟩
  | step update next ih =>
      cases ran with
      | step moves ranRest =>
          rcases ih _ ranRest with ⟨value, middle, first, second⟩ | ⟨rejection, first, same⟩
          · exact Or.inl ⟨value, middle, .step moves first, second⟩
          · exact Or.inr ⟨rejection, .step moves first, same⟩

theorem RunUnder.catch_inv {rely : σ → σ → Prop} {task : Task σ ε α}
    {handler : ε → Task σ ε α} {state final : σ} {result : Except ε α}
    (ran : RunUnder rely (tryCatch task handler) state result final) :
    (∃ value, RunUnder rely task state (.ok value) final ∧ result = .ok value) ∨
    ∃ rejection middle, RunUnder rely task state (.error rejection) middle ∧
      RunUnder rely (handler rejection) middle result final := by
  change RunUnder rely (task.catchError handler) state result final at ran
  induction task generalizing state with
  | done outcome =>
      cases outcome with
      | ok value =>
          cases ran
          exact Or.inl ⟨value, .done _ _, rfl⟩
      | error rejection => exact Or.inr ⟨rejection, state, .done _ _, ran⟩
  | step update next ih =>
      cases ran with
      | step moves ranRest =>
          rcases ih _ ranRest with ⟨value, first, same⟩ | ⟨rejection, middle, first, second⟩
          · exact Or.inl ⟨value, .step moves first, same⟩
          · exact Or.inr ⟨rejection, middle, .step moves first, second⟩

theorem RunUnder.bind_ok {rely : σ → σ → Prop} {task : Task σ ε α} {rest : α → Task σ ε β}
    {state middle final : σ} {value : α} {result : Except ε β}
    (ran : RunUnder rely task state (.ok value) middle)
    (goesOn : RunUnder rely (rest value) middle result final) :
    RunUnder rely (task >>= rest) state result final := by
  change RunUnder rely (task.bind rest) state result final
  generalize ended : Except.ok value = outcome at ran
  induction ran with
  | done outcome state =>
      cases ended
      exact goesOn
  | step moves _ ih => exact .step moves (ih goesOn ended)

theorem RunUnder.bind_error {rely : σ → σ → Prop} {task : Task σ ε α} {rest : α → Task σ ε β}
    {state final : σ} {rejection : ε}
    (ran : RunUnder rely task state (.error rejection) final) :
    RunUnder rely (task >>= rest) state (.error rejection) final := by
  change RunUnder rely (task.bind rest) state (.error rejection) final
  generalize ended : Except.error rejection = outcome at ran
  induction ran with
  | done outcome state =>
      cases ended
      exact .done _ _
  | step moves _ ih => exact .step moves (ih ended)

/-- Others act before the first step of a task. -/
theorem RunUnder.head {rely : σ → σ → Prop} {update : σ → σ} {next : σ → Task σ ε α}
    {state moved final : σ} {result : Except ε α} (move : rely state moved)
    (ran : RunUnder rely (.step update next) moved result final) :
    RunUnder rely (.step update next) state result final := by
  cases ran with
  | step moves rest => exact .step (.head move moves) rest

theorem RunUnder.mono {rely wider : σ → σ → Prop} {task : Task σ ε α} {state final : σ}
    {result : Except ε α} (ran : RunUnder rely task state result final)
    (weakens : ∀ state moved, rely state moved → wider state moved) :
    RunUnder wider task state result final := by
  induction ran with
  | done result state => exact .done _ _
  | step moves _ ih => exact .step (ReflTransGen.mono weakens _ _ moves) ih

/-- What others do before a task runs, they may also do before its first step, or after a
task without any. -/
theorem RunUnder.after_moves {rely : σ → σ → Prop} {task : Task σ ε α} {state moved final : σ}
    {result : Except ε α} (moves : ReflTransGen rely state moved)
    (ran : RunUnder rely task moved result final) :
    ∃ middle, RunUnder rely task state result middle ∧ ReflTransGen rely middle final := by
  cases ran with
  | done => exact ⟨state, .done _ _, moves⟩
  | step later rest => exact ⟨final, .step (moves.trans later) rest, .refl⟩

/-! ### Triples -/

def Ends (after : α → σ → Prop) (rejected : ε → σ → Prop) (result : Except ε α) (final : σ) :
    Prop :=
  match result with
  | .ok value => after value final
  | .error rejection => rejected rejection final

def Triple (rely : σ → σ → Prop) (before : σ → Prop) (task : Task σ ε α)
    (after : α → σ → Prop) (rejected : ε → σ → Prop) : Prop :=
  ∀ state result final, before state → RunUnder rely task state result final →
    Ends after rejected result final

def Stable (rely : σ → σ → Prop) (assertion : σ → Prop) : Prop :=
  ∀ state moved, rely state moved → assertion state → assertion moved

theorem Stable.moves {rely : σ → σ → Prop} {assertion : σ → Prop} (stable : Stable rely assertion)
    {state moved : σ} (moves : ReflTransGen rely state moved) (holds : assertion state) :
    assertion moved := by
  induction moves with
  | refl => exact holds
  | tail _ move ih => exact stable _ _ move ih

def alone (_ _ : σ) : Prop := False

theorem stable_alone (assertion : σ → Prop) : Stable alone assertion :=
  fun _ _ move => move.elim

variable {rely : σ → σ → Prop} {before : σ → Prop} {task : Task σ ε α}
  {after : α → σ → Prop} {rejected : ε → σ → Prop}

theorem Triple.run (triple : Triple rely before task after rejected) {state : σ}
    (holds : before state) : Ends after rejected (task.run state).1 (task.run state).2 :=
  triple state _ _ holds (runUnder_run rely task state)

theorem Triple.run_always {final : σ → Prop}
    (triple : Triple rely before task (fun _ => final) (fun _ => final)) {state : σ}
    (holds : before state) : final (task.run state).2 := by
  have ends := triple.run holds
  generalize (task.run state).1 = result at ends
  cases result <;> exact ends

theorem Triple.mono {stronger : σ → Prop} {wider : α → σ → Prop} {weaker : ε → σ → Prop}
    (triple : Triple rely before task after rejected)
    (starts : ∀ state, stronger state → before state)
    (yields : ∀ value state, after value state → wider value state)
    (rejects : ∀ rejection state, rejected rejection state → weaker rejection state) :
    Triple rely stronger task wider weaker := by
  intro state result final holds ran
  have ends := triple state result final (starts state holds) ran
  cases result with
  | ok value => exact yields value final ends
  | error rejection => exact rejects rejection final ends

theorem RunUnder.eq_run {state final : σ} {result : Except ε α}
    (ran : RunUnder alone task state result final) : task.run state = (result, final) := by
  induction ran with
  | done result state => rfl
  | step moves _ ih =>
      cases moves with
      | refl => exact ih
      | tail _ move => exact move.elim

/-- A triple for a task that nobody disturbs is a statement about its run. -/
theorem triple_of_run (runs : ∀ state, before state →
    Ends after rejected (task.run state).1 (task.run state).2) :
    Triple alone before task after rejected := by
  intro state result final holds ran
  have ends := runs state holds
  rw [ran.eq_run] at ends
  exact ends

theorem triple_pure (value : α) (yields : ∀ state, before state → after value state) :
    Triple rely before (pure value : Task σ ε α) after rejected := by
  intro state result final holds ran
  cases ran
  exact yields _ holds

theorem triple_throw (rejection : ε) (rejects : ∀ state, before state → rejected rejection state) :
    Triple rely before (throw rejection : Task σ ε α) after rejected := by
  intro state result final holds ran
  cases ran
  exact rejects _ holds

theorem triple_atomic {action : σ → Except ε α × σ} (stable : Stable rely before)
    (acts : ∀ state, before state → Ends after rejected (action state).1 (action state).2) :
    Triple rely before (atomic action) after rejected := by
  intro state result final holds ran
  cases ran with
  | step moves rest =>
      cases rest
      exact acts _ (stable.moves moves holds)

theorem triple_read {view : σ → α} (stable : Stable rely before)
    (yields : ∀ state, before state → after (view state) state) :
    Triple rely before (read view : Task σ ε α) after rejected :=
  triple_atomic stable yields

theorem triple_modify {update : σ → σ} {after : Unit → σ → Prop} (stable : Stable rely before)
    (yields : ∀ state, before state → after () (update state)) :
    Triple rely before (modify update : Task σ ε Unit) after rejected :=
  triple_atomic stable yields

theorem triple_known {known : Prop} (triple : known → Triple rely before task after rejected) :
    Triple rely (fun state => before state ∧ known) task after rejected :=
  fun state result final holds ran => triple holds.2 state result final holds.1 ran

theorem Triple.bind {next : α → Task σ ε β} {final : β → σ → Prop}
    (triple : Triple rely before task after rejected)
    (rest : ∀ value, Triple rely (after value) (next value) final rejected) :
    Triple rely before (task >>= next) final rejected := by
  intro state result ending holds ran
  rcases ran.bind_inv with ⟨value, middle, first, second⟩ | ⟨rejection, first, rfl⟩
  · exact rest value middle result ending (triple state _ _ holds first) second
  · exact triple state _ _ holds first

theorem Triple.catch {handler : ε → Task σ ε α} {caught : ε → σ → Prop}
    (triple : Triple rely before task after caught)
    (handles : ∀ rejection, Triple rely (caught rejection) (handler rejection) after rejected) :
    Triple rely before (tryCatch task handler) after rejected := by
  intro state result ending holds ran
  rcases ran.catch_inv with ⟨value, first, rfl⟩ | ⟨rejection, middle, first, second⟩
  · exact triple state _ _ holds first
  · exact handles rejection middle result ending (triple state _ _ holds first) second

/-- The loop rule for an invariant of every round. -/
theorem triple_forEach {ι : Type} {items : List ι} {body : ι → Task σ ε Unit}
    (keeps : ∀ item ∈ items, Triple rely before (body item) (fun _ => before) rejected) :
    Triple rely before (forEach items body) (fun _ => before) rejected := by
  induction items with
  | nil => exact triple_pure () (fun _ holds => holds)
  | cons item items ih =>
      exact (keeps item List.mem_cons_self).bind fun _ =>
        ih fun other member => keeps other (List.mem_cons_of_mem _ member)

/-- The loop rule for an invariant that speaks of the items already handled. -/
theorem triple_forEach_handled {ι : Type} {items : List ι} {body : ι → Task σ ε Unit}
    (invariant : List ι → σ → Prop)
    (keeps : ∀ handled item, Triple rely (invariant handled) (body item)
      (fun _ => invariant (handled ++ [item])) rejected) :
    Triple rely (invariant []) (forEach items body) (fun _ => invariant items) rejected := by
  have fromHandled (handled : List ι) : Triple rely (invariant handled) (forEach items body)
      (fun _ => invariant (handled ++ items)) rejected := by
    induction items generalizing handled with
    | nil =>
        rw [List.append_nil]
        exact triple_pure () (fun _ holds => holds)
    | cons item items ih =>
        rw [List.append_cons]
        exact (keeps handled item).bind fun _ => ih (handled ++ [item])
  exact fromHandled []

theorem triple_ite {condition : Prop} [Decidable condition] {other : Task σ ε α}
    (yes : condition → Triple rely before task after rejected)
    (no : ¬condition → Triple rely before other after rejected) :
    Triple rely before (if condition then task else other) after rejected := by
  by_cases holds : condition
  · rw [if_pos holds]
    exact yes holds
  · rw [if_neg holds]
    exact no holds

theorem Triple.outcome (triple : Triple rely before task after rejected)
    (thrown : ε → σ → Prop) :
    Triple rely before task.outcome
      (fun result state => Ends after rejected result state) thrown := by
  refine Triple.catch (?_ : Triple rely before _
    (fun result state => Ends after rejected result state) rejected) fun rejection => ?_
  · exact triple.bind fun value => triple_pure _ fun _ holds => holds
  · exact triple_pure _ fun _ holds => holds

theorem Triple.and {alsoBefore : σ → Prop} {alsoAfter : α → σ → Prop} {alsoRejected : ε → σ → Prop}
    (triple : Triple rely before task after rejected)
    (also : Triple rely alsoBefore task alsoAfter alsoRejected) :
    Triple rely (fun state => before state ∧ alsoBefore state) task
      (fun value state => after value state ∧ alsoAfter value state)
      (fun rejection state => rejected rejection state ∧ alsoRejected rejection state) := by
  intro state result final holds ran
  have ends := triple state result final holds.1 ran
  have alsoEnds := also state result final holds.2 ran
  cases result with
  | ok value => exact ⟨ends, alsoEnds⟩
  | error rejection => exact ⟨ends, alsoEnds⟩

/-- From a state whose runs all end with a value. -/
theorem Triple.never_rejects (triple : Triple rely before task after rejected) :
    Triple rely
      (fun state => before state ∧
        ∀ rejection final, ¬RunUnder rely task state (.error rejection) final)
      task after (fun _ _ => False) := by
  intro state result final holds ran
  cases result with
  | ok value => exact triple state _ _ holds.1 ran
  | error rejection => exact holds.2 rejection final ran

theorem Triple.ensure_keeps {holds : σ → Prop} {cleanup : Task σ ε Unit}
    (triple : Triple rely holds task (fun _ => holds) (fun _ => holds))
    (cleans : Triple rely holds cleanup (fun _ => holds) (fun _ => holds)) :
    Triple rely holds (task.ensure cleanup) (fun _ => holds) (fun _ => holds) := by
  refine Triple.bind ((triple.outcome _).mono (fun _ holds => holds) (?_ : ∀ _ _, _ → holds _)
    fun _ _ kept => kept) fun result => cleans.bind fun _ => ?_
  · intro result state ends
    cases result with
    | ok value => exact ends
    | error rejection => exact ends
  · cases result with
    | ok value => exact triple_pure value fun _ kept => kept
    | error rejection => exact triple_throw rejection fun _ kept => kept

theorem triple_any (rely : σ → σ → Prop) (before : σ → Prop) (task : Task σ ε α) :
    Triple rely before task (fun _ _ => True) (fun _ _ => True) := by
  intro state result final _ _
  cases result with
  | ok value => exact trivial
  | error rejection => exact trivial

theorem Triple.ensure_rejects {cleanup : Task σ ε Unit}
    (triple : Triple rely before task (fun _ _ => False) (fun _ _ => True)) :
    Triple rely before (task.ensure cleanup) (fun _ _ => False) (fun _ _ => True) := by
  refine (triple.outcome fun _ _ => True).bind fun result => ?_
  cases result with
  | ok value => exact fun _ _ _ impossible _ => impossible.elim
  | error rejection =>
      exact (triple_any rely _ cleanup).bind fun _ => triple_throw rejection fun _ _ => trivial

theorem RunUnder.withLocal_inv {κ : Type} {task : Task (σ × κ) ε α} {value : κ} {state final : σ}
    {result : Except ε (α × κ)} (ran : RunUnder rely (task.withLocal value) state result final) :
    ∃ ending left, RunUnder (fun first second => rely first.1 second.1 ∧ second.2 = first.2) task
        (state, value) ending (final, left) ∧
      result = ending.map fun answer => (answer, left) := by
  induction task generalizing state value with
  | done outcome =>
      cases ran
      exact ⟨outcome, value, .done _ _, rfl⟩
  | step update next ih =>
      cases ran with
      | @step _ _ _ moved _ _ moves rest =>
          obtain ⟨ending, left, inner, same⟩ := ih _ rest
          have movesBoth : ReflTransGen (fun first second : σ × κ =>
              rely first.1 second.1 ∧ second.2 = first.2) (state, value) (moved, value) := by
            clear rest inner
            induction moves with
            | refl => exact .refl
            | tail _ move ihMoves => exact ihMoves.tail ⟨move, rfl⟩
          exact ⟨ending, left, .step movesBoth inner, same⟩

theorem Triple.withLocal {κ : Type} {task : Task (σ × κ) ε α} (value : κ)
    {after : α → σ × κ → Prop}
    (triple : Triple (fun first second => rely first.1 second.1 ∧ second.2 = first.2)
      (fun state => before state.1 ∧ state.2 = value) task after
      (fun rejection state => rejected rejection state.1)) :
    Triple rely before (task.withLocal value)
      (fun answer state => after answer.1 (state, answer.2)) rejected := by
  intro state result final holds ran
  obtain ⟨ending, left, inner, rfl⟩ := ran.withLocal_inv
  have ends := triple (state, value) ending (final, left) ⟨holds, rfl⟩ inner
  cases ending with
  | ok answer => exact ends
  | error rejection => exact ends

theorem RunUnder.zoom_inv {get : τ → σ} {set : τ → σ → τ} (lawful : LawfulPart get set)
    {rely : τ → τ → Prop} {part : σ → σ → Prop}
    (projects : ∀ state moved, rely state moved → ReflTransGen part (get state) (get moved))
    {task : Task σ ε α} {state final : τ} {result : Except ε α}
    (ran : RunUnder rely (task.zoom get set) state result final) :
    RunUnder part task (get state) result (get final) := by
  induction task generalizing state with
  | done outcome =>
      cases ran
      exact .done _ _
  | step update next ih =>
      cases ran with
      | step moves rest =>
          have inner := ih _ rest
          rw [lawful.get_set] at inner
          refine .step ?_ inner
          clear rest inner
          induction moves with
          | refl => exact .refl
          | tail _ move ihMoves => exact ihMoves.trans (projects _ _ move)

theorem Triple.zoom {get : τ → σ} {set : τ → σ → τ} (lawful : LawfulPart get set)
    {rely : τ → τ → Prop} {part : σ → σ → Prop}
    (projects : ∀ state moved, rely state moved → ReflTransGen part (get state) (get moved))
    (triple : Triple part before task after rejected) :
    Triple rely (fun state => before (get state)) (task.zoom get set)
      (fun value state => after value (get state))
      (fun rejection state => rejected rejection (get state)) := by
  intro state result final holds ran
  exact triple _ _ _ holds (ran.zoom_inv lawful projects)

theorem Triple.onShared {κ : Type} (triple : Triple rely before task after rejected) :
    Triple (fun first second : σ × κ => rely first.1 second.1 ∧ second.2 = first.2)
      (fun state => before state.1) task.onShared (fun value state => after value state.1)
      (fun rejection state => rejected rejection state.1) := by
  refine Triple.zoom ⟨?_, ?_, ?_⟩ (fun _ _ move => .single move.1) triple <;> intros <;> rfl

/-! ### Guarantees -/

/-- Every step of the task, in any of its branches, changes the state along the relation. -/
inductive Guarantees (guarantee : σ → σ → Prop) : Task σ ε α → Prop where
  | done (result : Except ε α) : Guarantees guarantee (.done result)
  | step {update : σ → σ} {next : σ → Task σ ε α} (here : ∀ state, guarantee state (update state))
      (rest : ∀ state, Guarantees guarantee (next state)) : Guarantees guarantee (.step update next)

variable {guarantee : σ → σ → Prop}

theorem guarantees_pure (value : α) : Guarantees guarantee (pure value : Task σ ε α) :=
  .done _

theorem guarantees_throw (rejection : ε) : Guarantees guarantee (throw rejection : Task σ ε α) :=
  .done _

theorem guarantees_atomic {action : σ → Except ε α × σ}
    (acts : ∀ state, guarantee state (action state).2) : Guarantees guarantee (atomic action) :=
  .step acts fun _ => .done _

theorem Guarantees.bind {next : α → Task σ ε β} (first : Guarantees guarantee task)
    (rest : ∀ value, Guarantees guarantee (next value)) :
    Guarantees guarantee (task >>= next) := by
  change Guarantees guarantee (task.bind next)
  induction first with
  | done result =>
      cases result with
      | ok value => exact rest value
      | error rejection => exact .done _
  | step here _ ih => exact .step here ih

theorem Guarantees.catch {handler : ε → Task σ ε α} (first : Guarantees guarantee task)
    (handles : ∀ rejection, Guarantees guarantee (handler rejection)) :
    Guarantees guarantee (tryCatch task handler) := by
  change Guarantees guarantee (task.catchError handler)
  induction first with
  | done result =>
      cases result with
      | ok value => exact .done _
      | error rejection => exact handles rejection
  | step here _ ih => exact .step here ih

theorem guarantees_forEach {ι : Type} {items : List ι} {body : ι → Task σ ε Unit}
    (each : ∀ item ∈ items, Guarantees guarantee (body item)) :
    Guarantees guarantee (forEach items body) := by
  induction items with
  | nil => exact guarantees_pure ()
  | cons item items ih =>
      exact (each item List.mem_cons_self).bind fun _ =>
        ih fun other member => each other (List.mem_cons_of_mem _ member)

theorem Guarantees.withLocal {κ : Type} {task : Task (σ × κ) ε α}
    (steps : Guarantees (fun state after => guarantee state.1 after.1) task) (value : κ) :
    Guarantees guarantee (task.withLocal value) := by
  induction steps generalizing value with
  | done result => exact .done _
  | step here _ ih => exact .step (fun state => here (state, value)) fun state => ih (state, value) _

theorem Guarantees.onShared {κ : Type} (steps : Guarantees guarantee task) :
    Guarantees (fun state after : σ × κ => guarantee state.1 after.1) task.onShared := by
  induction steps with
  | done result => exact .done _
  | step here _ ih => exact .step (fun state => here state.1) fun state => ih state.1

theorem Guarantees.outcome (steps : Guarantees guarantee task) :
    Guarantees guarantee task.outcome :=
  (steps.bind fun _ => guarantees_pure _).catch fun _ => guarantees_pure _

theorem Guarantees.ensure {cleanup : Task σ ε Unit} (steps : Guarantees guarantee task)
    (cleans : Guarantees guarantee cleanup) : Guarantees guarantee (task.ensure cleanup) := by
  refine steps.outcome.bind fun result => cleans.bind fun _ => ?_
  cases result with
  | ok value => exact guarantees_pure _
  | error rejection => exact guarantees_throw _

theorem Guarantees.zoom {get : τ → σ} {set : τ → σ → τ} (lawful : LawfulPart get set)
    (steps : Guarantees guarantee task) :
    Guarantees (fun state after => guarantee (get state) (get after) ∧ after = set state (get after))
      (task.zoom get set) := by
  induction steps with
  | done result => exact .done _
  | step here _ ih =>
      refine .step (fun state => ?_) fun state => ih (get state)
      rw [lawful.get_set]
      exact ⟨here (get state), rfl⟩

theorem Guarantees.mono {wider : σ → σ → Prop} (steps : Guarantees guarantee task)
    (weakens : ∀ state after, guarantee state after → wider state after) :
    Guarantees wider task := by
  induction steps with
  | done result => exact .done _
  | step here _ ih => exact .step (fun state => weakens _ _ (here state)) ih

/-- An assertion that neither the steps of the task nor the moves of others break. -/
theorem Guarantees.keeps {holds : σ → Prop} (steps : Guarantees guarantee task)
    (stable : Stable rely holds)
    (kept : ∀ state after, guarantee state after → holds state → holds after) :
    Triple rely holds task (fun _ => holds) (fun _ => holds) := by
  intro state result final begins ran
  induction ran with
  | done result state =>
      cases result with
      | ok value => exact begins
      | error rejection => exact begins
  | step moves _ ih =>
      cases steps with
      | step here rest => exact ih (rest _) (kept _ _ (here _) (stable.moves moves begins))

theorem Guarantees.run_keeps {holds : σ → Prop} (steps : Guarantees guarantee task)
    (kept : ∀ state after, guarantee state after → holds state → holds after) {state : σ}
    (begins : holds state) : holds (task.run state).2 :=
  (steps.keeps (stable_alone holds) kept).run_always begins

theorem guarantees_any (task : Task σ ε α) : Guarantees (fun _ _ => True) task := by
  induction task with
  | done result => exact .done result
  | step update next ih => exact .step (fun _ => trivial) ih

inductive Resolves : Task σ ε α → Prop where
  | done (value : α) : Resolves (.done (.ok value))
  | step {update : σ → σ} {next : σ → Task σ ε α} (rest : ∀ state, Resolves (next state)) :
      Resolves (.step update next)

theorem Resolves.bind {next : α → Task σ ε β} (resolves : Resolves task)
    (rest : ∀ value, Resolves (next value)) : Resolves (task >>= next) := by
  change Resolves (task.bind next)
  induction resolves with
  | done value => exact rest value
  | step _ ih => exact .step ih

theorem resolves_catch (task : Task σ ε α) {handler : ε → Task σ ε α}
    (handles : ∀ rejection, Resolves (handler rejection)) :
    Resolves (tryCatch task handler) := by
  change Resolves (task.catchError handler)
  induction task with
  | done result =>
      cases result with
      | ok value => exact .done value
      | error rejection => exact handles rejection
  | step update next ih => exact .step ih

theorem Resolves.triple (resolves : Resolves task) :
    Triple rely before task (fun _ _ => True) (fun _ _ => False) := by
  rintro state result final - ran
  induction ran with
  | done result state =>
      cases resolves
      exact trivial
  | step _ _ ih =>
      cases resolves with
      | step rest => exact ih (rest _)

theorem Resolves.withLocal {κ : Type} {task : Task (σ × κ) ε α} (resolves : Resolves task)
    (value : κ) : Resolves (task.withLocal value) := by
  induction resolves generalizing value with
  | done result => exact .done (result, value)
  | step _ ih => exact .step fun state => ih (state, value) _

inductive Makes : Task σ ε α → (σ → σ) → Prop where
  | here {update : σ → σ} {next : σ → Task σ ε α} : Makes (.step update next) update
  | later {update other : σ → σ} {next : σ → Task σ ε α} {state : σ}
      (rest : Makes (next state) other) : Makes (.step update next) other

/-- A task that runs alone makes such updates one after the other. -/
theorem makes_run (task : Task σ ε α) (state : σ) :
    ReflTransGen (fun before after => ∃ update, Makes task update ∧ after = update before) state
      (task.run state).2 := by
  induction task generalizing state with
  | done result => exact .refl
  | step update next ih =>
      refine (ReflTransGen.single ⟨update, .here, rfl⟩).trans ?_
      have later : ∀ before after, (∃ other, Makes (next state) other ∧ after = other before) →
          ∃ other, Makes (.step update next) other ∧ after = other before :=
        fun _ _ made => made.imp fun _ known => ⟨.later known.1, known.2⟩
      exact ReflTransGen.mono later _ _ (ih state (update state))

theorem Guarantees.of_makes (steps : Guarantees guarantee task) {update : σ → σ}
    (makes : Makes task update) (state : σ) : guarantee state (update state) := by
  induction makes with
  | here =>
      cases steps with
      | step here _ => exact here state
  | later _ ih =>
      cases steps with
      | step _ rest => exact ih (rest _)

end Task
end Async
