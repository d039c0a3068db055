/-
Two tasks that make the same steps on related states.

Such tasks end alike in every interleaving, when what others do to one state can be done
to a related one.
-/

import ParaQL.Async.Interference

namespace Async
namespace Task

open Relation

variable {σ τ υ ε α β γ δ : Type}

inductive EndsLike (alike : α → β → Prop) : Except ε α → Except ε β → Prop where
  | value {value : α} {other : β} (same : alike value other) :
      EndsLike alike (.ok value) (.ok other)
  | rejection (rejection : ε) : EndsLike alike (.error rejection) (.error rejection)

theorem endsLike_eq {result other : Except ε α} : EndsLike Eq result other ↔ result = other := by
  constructor
  · rintro (⟨rfl⟩ | rejection)
    · rfl
    · rfl
  · rintro rfl
    cases result with
    | ok value => exact .value rfl
    | error rejection => exact .rejection rejection

inductive Matches (related : σ → τ → Prop) (alike : α → β → Prop) :
    Task σ ε α → Task τ ε β → Prop where
  | done {result : Except ε α} {other : Except ε β} (ends : EndsLike alike result other) :
      Matches related alike (.done result) (.done other)
  | step {update : σ → σ} {next : σ → Task σ ε α} {change : τ → τ} {follow : τ → Task τ ε β}
      (changes : ∀ state other, related state other → related (update state) (change other))
      (rest : ∀ state other, related state other →
        Matches related alike (next state) (follow other)) :
      Matches related alike (.step update next) (.step change follow)

variable {related : σ → τ → Prop} {alike : α → β → Prop} {task : Task σ ε α} {other : Task τ ε β}

theorem matches_pure {value : α} {result : β} (same : alike value result) :
    Matches related alike (pure value : Task σ ε α) (pure result : Task τ ε β) :=
  .done (.value same)

theorem matches_throw (rejection : ε) :
    Matches related alike (throw rejection : Task σ ε α) (throw rejection : Task τ ε β) :=
  .done (.rejection rejection)

theorem matches_atomic {action : σ → Except ε α × σ} {counterpart : τ → Except ε β × τ}
    (acts : ∀ state other, related state other →
      EndsLike alike (action state).1 (counterpart other).1 ∧
        related (action state).2 (counterpart other).2) :
    Matches related alike (atomic action) (atomic counterpart) :=
  .step (fun state other holds => (acts state other holds).2)
    fun state other holds => .done (acts state other holds).1

theorem matches_modify {update : σ → σ} {change : τ → τ}
    (changes : ∀ state other, related state other → related (update state) (change other)) :
    Matches related Eq (modify update : Task σ ε Unit) (modify change : Task τ ε Unit) :=
  matches_atomic fun state other holds => ⟨.value rfl, changes state other holds⟩

theorem Matches.mono {wider : α → β → Prop} (matched : Matches related alike task other)
    (widens : ∀ value result, alike value result → wider value result) :
    Matches related wider task other := by
  induction matched with
  | done ends =>
      cases ends with
      | value same => exact .done (.value (widens _ _ same))
      | rejection rejection => exact .done (.rejection rejection)
  | step changes _ ih => exact .step changes ih

theorem Matches.symm (matched : Matches related alike task other) :
    Matches (fun other state => related state other) (fun result value => alike value result)
      other task := by
  induction matched with
  | done ends =>
      cases ends with
      | value same => exact .done (.value same)
      | rejection rejection => exact .done (.rejection rejection)
  | step changes _ ih =>
      exact .step (fun other state holds => changes state other holds)
        fun other state holds => ih state other holds

theorem Matches.bind {after : γ → δ → Prop} {next : α → Task σ ε γ} {follow : β → Task τ ε δ}
    (matched : Matches related alike task other)
    (rest : ∀ value result, alike value result →
      Matches related after (next value) (follow result)) :
    Matches related after (task >>= next) (other >>= follow) := by
  change Matches related after (task.bind next) (other.bind follow)
  induction matched with
  | done ends =>
      cases ends with
      | value same => exact rest _ _ same
      | rejection rejection => exact .done (.rejection rejection)
  | step changes _ ih => exact .step changes ih

theorem Matches.catch {handler : ε → Task σ ε α} {counterpart : ε → Task τ ε β}
    (matched : Matches related alike task other)
    (handles : ∀ rejection, Matches related alike (handler rejection) (counterpart rejection)) :
    Matches related alike (tryCatch task handler) (tryCatch other counterpart) := by
  change Matches related alike (task.catchError handler) (other.catchError counterpart)
  induction matched with
  | done ends =>
      cases ends with
      | value same => exact .done (.value same)
      | rejection rejection => exact handles rejection
  | step changes _ ih => exact .step changes ih

theorem Matches.outcome (matched : Matches related alike task other) :
    Matches related (EndsLike alike) task.outcome other.outcome := by
  refine Matches.catch (matched.bind fun value result same => ?_) fun rejection => ?_
  · exact matches_pure (.value same)
  · exact matches_pure (.rejection rejection)

/-- A task on a part that related states have in common. -/
theorem matches_zoom {get : σ → υ} {set : σ → υ → σ} {look : τ → υ} {put : τ → υ → τ}
    (common : ∀ state other, related state other → get state = look other)
    (kept : ∀ state other part, related state other → related (set state part) (put other part))
    (task : Task υ ε α) : Matches related Eq (task.zoom get set) (task.zoom look put) := by
  induction task with
  | done result => exact .done (endsLike_eq.2 rfl)
  | step update next ih =>
      refine .step (fun state other holds => ?_) fun state other holds => ?_
      · rw [common state other holds]
        exact kept state other _ holds
      · rw [common state other holds]
        exact ih (look other)

def Simulates (related : σ → τ → Prop) (rely : σ → σ → Prop) (counterpart : τ → τ → Prop) : Prop :=
  ∀ state other moved, related state other → rely state moved →
    ∃ after, counterpart other after ∧ related moved after

variable {rely : σ → σ → Prop} {counterpart : τ → τ → Prop}

theorem Simulates.moves (simulates : Simulates related rely counterpart) {state moved : σ}
    {other : τ} (holds : related state other) (moves : ReflTransGen rely state moved) :
    ∃ after, ReflTransGen counterpart other after ∧ related moved after := by
  induction moves with
  | refl => exact ⟨other, .refl, holds⟩
  | tail _ move ih =>
      obtain ⟨after, steps, kept⟩ := ih
      obtain ⟨last, step, keptLast⟩ := simulates _ _ _ kept move
      exact ⟨last, steps.tail step, keptLast⟩

/-- Every run of a task, in any interleaving, is one of each task that it matches. -/
theorem Matches.runUnder (simulates : Simulates related rely counterpart)
    (matched : Matches related alike task other) {state final : σ} {start : τ}
    {result : Except ε α} (holds : related state start)
    (ran : RunUnder rely task state result final) :
    ∃ ending last, RunUnder counterpart other start ending last ∧ EndsLike alike result ending ∧
      related final last := by
  induction matched generalizing state start with
  | done ends =>
      cases ran
      exact ⟨_, start, .done _ _, ends, holds⟩
  | step changes _ ih =>
      cases ran with
      | step moves rest =>
          obtain ⟨moved, steps, kept⟩ := simulates.moves holds moves
          obtain ⟨ending, last, ranOther, ends, keptLast⟩ :=
            ih _ moved kept (changes _ moved kept) rest
          exact ⟨ending, last, .step steps ranOther, ends, keptLast⟩

theorem bind_assoc_task (task : Task σ ε α) (next : α → Task σ ε β) (last : β → Task σ ε γ) :
    (task >>= next) >>= last = task >>= fun value => next value >>= last := by
  change (task.bind next).bind last = task.bind fun value => (next value).bind last
  induction task with
  | done result => cases result <;> rfl
  | step update next ih =>
      simp only [bind]
      congr 1
      funext state
      exact ih state

end Task
end Async
