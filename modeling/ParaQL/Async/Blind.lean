/-
Two runs of one task, which is blind to a relation when it cannot tell related states apart.
-/

import ParaQL.Async.Interference
import ParaQL.Async.Related

namespace Async
namespace Task

variable {σ τ ε α β : Type}

def Blind (same : σ → σ → Prop) (task : Task σ ε α) : Prop :=
  Related same same task task fun value other state after => value = other ∧ same state after

variable {same : σ → σ → Prop} {task : Task σ ε α}

theorem blind_pure (value : α) : Blind same (pure value : Task σ ε α) :=
  related_pure value value fun _ _ holds => ⟨rfl, holds⟩

theorem blind_throw (rejection : ε) : Blind same (throw rejection : Task σ ε α) :=
  related_throw rejection fun _ _ holds => holds

/-- The second parts are run on one value, the same for both. -/
theorem Related.bindSame {γ : Type} {rejected before : σ → σ → Prop} {after : γ → γ → σ → σ → Prop}
    {middle : α → σ → σ → Prop} {other : Task σ ε α} {next counterpart : α → Task σ ε γ}
    (related : Related rejected before task other
      fun value result first second => value = result ∧ middle value first second)
    (rest : ∀ value, Related rejected (middle value) (next value) (counterpart value) after) :
    Related rejected before (task >>= next) (other >>= counterpart) after := by
  refine related.bind fun value result => ?_
  rintro first second ⟨rfl, holds⟩
  exact rest value first second holds

theorem Blind.bind {next : α → Task σ ε β} (blind : Blind same task)
    (rest : ∀ value, Blind same (next value)) : Blind same (task >>= next) :=
  Related.bindSame blind rest

theorem Blind.catch {handler : ε → Task σ ε α} (blind : Blind same task)
    (handles : ∀ rejection, Blind same (handler rejection)) :
    Blind same (tryCatch task handler) :=
  Related.catch blind handles

theorem Blind.outcome (blind : Blind same task) : Blind same task.outcome :=
  (blind.bind fun _ => blind_pure _).catch fun _ => blind_pure _

theorem Blind.ensure {cleanup : Task σ ε Unit} (blind : Blind same task)
    (cleans : Blind same cleanup) : Blind same (task.ensure cleanup) := by
  refine blind.outcome.bind fun result => cleans.bind fun _ => ?_
  cases result with
  | ok value => exact blind_pure value
  | error rejection => exact blind_throw rejection

theorem Blind.of_run {other : Task σ ε α} (blind : Blind same other)
    (alike : ∀ state, task.run state = other.run state) : Blind same task := by
  intro first second related
  rw [alike, alike]
  exact blind first second related

theorem Blind.agrees (blind : Blind same task) {first second : σ} (related : same first second) :
    (task.run first).1 = (task.run second).1 ∧ same (task.run first).2 (task.run second).2 := by
  have ends := blind first second related
  generalize task.run first = outcome at ends ⊢
  generalize task.run second = counterpart at ends ⊢
  obtain ⟨result, state⟩ := outcome
  obtain ⟨otherResult, other⟩ := counterpart
  cases result <;> cases otherResult
  · exact ⟨congrArg Except.error ends.1, ends.2⟩
  · exact ends.elim
  · exact ends.elim
  · exact ⟨congrArg Except.ok ends.1, ends.2⟩

/-- With what each step of the task keeps. -/
theorem Blind.keeps {guarantee : σ → σ → Prop} {holds : σ → Prop} (blind : Blind same task)
    (steps : Guarantees guarantee task)
    (kept : ∀ state after, guarantee state after → holds state → holds after) :
    Blind (fun first second => same first second ∧ holds first ∧ holds second) task := by
  rintro first second ⟨related, here, there⟩
  have ends := blind first second related
  have keepsHere := steps.run_keeps kept here
  have keepsThere := steps.run_keeps kept there
  generalize task.run first = outcome at ends keepsHere ⊢
  generalize task.run second = counterpart at ends keepsThere ⊢
  obtain ⟨result, state⟩ := outcome
  obtain ⟨otherResult, other⟩ := counterpart
  cases result <;> cases otherResult
  · exact ⟨ends.1, ends.2, keepsHere, keepsThere⟩
  · exact ends.elim
  · exact ends.elim
  · exact ⟨ends.1, ends.2, keepsHere, keepsThere⟩

theorem Blind.zoom {whole : τ → τ → Prop} {get : τ → σ} {set : τ → σ → τ}
    (lawful : LawfulPart get set) (blind : Blind same task)
    (part : ∀ first second, whole first second → same (get first) (get second))
    (keeps : ∀ first second, whole first second → ∀ after other, same after other →
      whole (set first after) (set second other)) : Blind whole (task.zoom get set) := by
  intro first second related
  obtain ⟨sameResult, sameAfter⟩ := blind.agrees (part first second related)
  rw [run_zoom lawful, run_zoom lawful, sameResult]
  cases (task.run (get second)).1 with
  | ok value => exact ⟨rfl, keeps first second related _ _ sameAfter⟩
  | error rejection => exact ⟨rfl, keeps first second related _ _ sameAfter⟩

theorem blind_forEach {ι : Type} {items : List ι} {body : ι → Task σ ε Unit}
    (each : ∀ item ∈ items, Blind same (body item)) : Blind same (forEach items body) := by
  induction items with
  | nil => exact blind_pure ()
  | cons item items ih =>
      exact (each item List.mem_cons_self).bind fun _ =>
        ih fun other member => each other (List.mem_cons_of_mem _ member)

theorem Blind.withLocal {κ : Type} {task : Task (σ × κ) ε α}
    (blind : Blind (fun state other : σ × κ => same state.1 other.1 ∧ state.2 = other.2) task)
    (value : κ) : Blind same (task.withLocal value) := by
  have ends : Related (fun state other => same state.1 other.1)
      (fun state other => same state.1 other.1 ∧ state.2 = value ∧ other.2 = value) task task
      (fun answer result state other => answer = result ∧ state.2 = other.2 ∧
        same state.1 other.1) := by
    refine blind.mono ?_ (fun _ _ holds => holds.1) ?_
    · rintro state other ⟨holds, isValue, isOther⟩
      exact ⟨holds, isValue.trans isOther.symm⟩
    · rintro answer result state other ⟨sameAnswer, holds, sameValue⟩
      exact ⟨sameAnswer, sameValue, holds⟩
  refine (Related.withLocal (fun _ => Eq) ends).mono (fun _ _ holds => holds)
    (fun _ _ holds => holds) ?_
  rintro answer result state other ⟨sameAnswer, sameValue, holds⟩
  exact ⟨Prod.ext sameAnswer sameValue, holds⟩

theorem Blind.onShared {κ : Type} (blind : Blind same task) :
    Blind (fun state other : σ × κ => same state.1 other.1 ∧ state.2 = other.2)
      (task.onShared : Task (σ × κ) ε α) :=
  (Related.onShared blind Eq).mono (fun _ _ holds => holds) (fun _ _ holds => holds)
    fun _ _ _ _ holds => ⟨holds.1.1, holds.1.2, holds.2⟩

end Task
end Async
