/-
Tasks that what others do cannot disturb.

States are related when they differ only where the task never looks.  If others only change
what it does not look at, a task ends in every interleaving as it does alone.
-/

import ParaQL.Async.Matching

namespace Async
namespace Task

open Relation

variable {σ τ υ ω ε α β : Type}

section Rules

variable {related : σ → τ → Prop} {alike : α → β → Prop} {task : Task σ ε α} {other : Task τ ε β}

theorem matches_forEach {ι : Type} {items : List ι} {body : ι → Task σ ε Unit}
    {round : ι → Task τ ε Unit}
    (each : ∀ item ∈ items, Matches related Eq (body item) (round item)) :
    Matches related Eq (forEach items body) (forEach items round) := by
  induction items with
  | nil => exact matches_pure rfl
  | cons item items ih =>
      exact (each item List.mem_cons_self).bind fun _ _ _ =>
        ih fun next member => each next (List.mem_cons_of_mem _ member)

theorem Matches.ensure {body : Task σ ε α} {counterpart : Task τ ε α} {cleanup : Task σ ε Unit}
    {clearing : Task τ ε Unit} (matched : Matches related Eq body counterpart)
    (cleans : Matches related Eq cleanup clearing) :
    Matches related Eq (body.ensure cleanup) (counterpart.ensure clearing) := by
  refine matched.outcome.bind fun result ending same => cleans.bind fun _ _ _ => ?_
  cases same with
  | value same => exact matches_pure same
  | rejection rejection => exact matches_throw rejection

/-- Tasks on parts of the state. -/
theorem Matches.zoom {part : υ → ω → Prop} {inner : Task υ ε α} {counterpart : Task ω ε β}
    {get : σ → υ} {set : σ → υ → σ} {look : τ → ω} {put : τ → ω → τ}
    (matched : Matches part alike inner counterpart)
    (seen : ∀ state other, related state other → part (get state) (look other))
    (kept : ∀ state other here there, related state other → part here there →
      related (set state here) (put other there)) :
    Matches related alike (inner.zoom get set) (counterpart.zoom look put) := by
  induction matched with
  | done ends => exact .done ends
  | step changes _ ih =>
      exact .step
        (fun state other holds => kept _ _ _ _ holds (changes _ _ (seen state other holds)))
        fun state other holds => ih _ _ (seen state other holds)

theorem Matches.onShared (matched : Matches related alike task other) :
    Matches (fun first second => related first.1 second.1 ∧ first.2 = second.2) alike
      (task.onShared : Task (σ × υ) ε α) (other.onShared : Task (τ × υ) ε β) :=
  matched.zoom (fun _ _ holds => holds.1) fun _ _ _ _ holds part => ⟨part, holds.2⟩

/-- Tasks with private variables that start alike. -/
theorem Matches.withLocal {inner : Task (σ × υ) ε α} {counterpart : Task (τ × υ) ε α}
    (matched : Matches (fun first second => related first.1 second.1 ∧ first.2 = second.2) Eq
      inner counterpart) (value : υ) :
    Matches related Eq (inner.withLocal value) (counterpart.withLocal value) := by
  induction matched generalizing value with
  | done ends =>
      cases ends with
      | value same => exact .done (.value (congrArg (fun answer => (answer, value)) same))
      | rejection rejection => exact .done (.rejection rejection)
  | step changes _ ih =>
      refine .step (fun state other holds => (changes _ _ ⟨holds, rfl⟩).1)
        fun state other holds => ?_
      rw [(changes (state, value) (other, value) ⟨holds, rfl⟩).2]
      exact ih _ _ ⟨holds, rfl⟩ _

end Rules

variable {rely : σ → σ → Prop} {related : σ → τ → Prop}

def Unseen (related : σ → τ → Prop) (rely : σ → σ → Prop) : Prop :=
  ∀ state moved other, related state other → rely state moved → related moved other

theorem Unseen.moves (unseen : Unseen related rely) {state moved : σ} {other : τ}
    (holds : related state other) (moves : ReflTransGen rely state moved) :
    related moved other := by
  induction moves with
  | refl => exact holds
  | tail _ move ih => exact unseen _ _ _ ih move

/-- A run among others ends like the run alone of a task that matches. -/
theorem Matches.undisturbed {alike : α → β → Prop} {task : Task σ ε α} {other : Task τ ε β}
    (matched : Matches related alike task other) (unseen : Unseen related rely)
    {state final : σ} {start : τ} {result : Except ε α} (holds : related state start)
    (ran : RunUnder rely task state result final) :
    EndsLike alike result (other.run start).1 ∧ related final (other.run start).2 := by
  induction matched generalizing state start with
  | done ends =>
      cases ran
      exact ⟨ends, holds⟩
  | step changes _ ih =>
      cases ran with
      | step moves rest =>
          have kept := unseen.moves holds moves
          exact ih _ _ kept (changes _ _ kept) rest

/-- Matching tasks end alike when each runs alone. -/
theorem Matches.alone {alike : α → β → Prop} {task : Task σ ε α} {other : Task τ ε β}
    (matched : Matches related alike task other) {state : σ} {start : τ}
    (holds : related state start) :
    EndsLike alike (task.run state).1 (other.run start).1 ∧
      related (task.run state).2 (other.run start).2 := by
  have unseen : Unseen related (fun _ _ => False) := fun _ _ _ _ impossible => impossible.elim
  exact matched.undisturbed unseen holds (runUnder_run _ task state)

end Task
end Async
