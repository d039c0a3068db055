/-
Tasks that write down beside their state what nothing of them reads.

Once this is forgotten, such a task runs as the one without it.
-/

import ParaQL.Async.Related

namespace Async
namespace Task

variable {σ τ γ κ ε α β : Type}

/-- `forget` drops what a task has only written down, and leaves the run of `plain`. -/
def Erases (forget : σ → τ) (task : Task σ ε α) (plain : Task τ ε α) : Prop :=
  Related (fun state other => forget state = other) (fun state other => forget state = other)
    task plain fun value other state after => value = other ∧ forget state = after

variable {forget : σ → τ} {task : Task σ ε α} {plain : Task τ ε α}

theorem erases_pure (value : α) :
    Erases forget (pure value : Task σ ε α) (pure value : Task τ ε α) :=
  related_pure value value fun _ _ same => ⟨rfl, same⟩

theorem erases_throw (rejection : ε) :
    Erases forget (throw rejection : Task σ ε α) (throw rejection : Task τ ε α) :=
  related_throw rejection fun _ _ same => same

theorem Erases.bind {next : α → Task σ ε β} {follow : α → Task τ ε β}
    (erases : Erases forget task plain) (rest : ∀ value, Erases forget (next value) (follow value)) :
    Erases forget (task >>= next) (plain >>= follow) := by
  refine Related.bind erases fun value other => ?_
  rintro state after ⟨rfl, same⟩
  exact rest value state after same

theorem Erases.catch {handler : ε → Task σ ε α} {counterpart : ε → Task τ ε α}
    (erases : Erases forget task plain)
    (handles : ∀ rejection, Erases forget (handler rejection) (counterpart rejection)) :
    Erases forget (tryCatch task handler) (tryCatch plain counterpart) :=
  Related.catch erases handles

theorem erases_forEach {ι : Type} {items : List ι} {body : ι → Task σ ε Unit}
    {counterpart : ι → Task τ ε Unit}
    (each : ∀ item ∈ items, Erases forget (body item) (counterpart item)) :
    Erases forget (forEach items body) (forEach items counterpart) := by
  induction items with
  | nil => exact erases_pure ()
  | cons item items ih =>
      exact (each item List.mem_cons_self).bind fun _ =>
        ih fun other member => each other (List.mem_cons_of_mem _ member)

/-- What is only written down leaves no trace in the plain task. -/
theorem Erases.afterNote {note : σ → σ} (forgotten : ∀ state, forget (note state) = forget state)
    (erases : Erases forget task plain) :
    Erases forget (do modify note; task) plain := by
  rintro state _ rfl
  rw [run_bind, run_modify, andThen_ok]
  exact erases (note state) (forget state) (forgotten state)

theorem erases_zoom {set : σ → τ → σ} (lawful : LawfulPart forget set) (task : Task τ ε α) :
    Erases forget (task.zoom forget set) task := by
  rintro state _ rfl
  rw [run_zoom lawful]
  generalize task.run (forget state) = ended
  obtain ⟨result, after⟩ := ended
  cases result with
  | ok value => exact ⟨rfl, lawful.get_set _ _⟩
  | error rejection => exact ⟨rfl, lawful.get_set _ _⟩

theorem erases_onShared (task : Task σ ε α) :
    Erases Prod.fst (task.onShared : Task (σ × γ) ε α) task := by
  apply erases_zoom
  constructor <;> intros <;> rfl

theorem Erases.onShared (erases : Erases forget task plain) :
    Erases (Prod.map forget id) (task.onShared : Task (σ × κ) ε α) plain.onShared := by
  refine (Related.onShared erases Eq).mono ?_ ?_ ?_
  · rintro state _ rfl
    exact ⟨rfl, rfl⟩
  · intro state other same
    exact Prod.ext same.1 same.2
  · intro value result state other same
    exact ⟨same.1.1, Prod.ext same.1.2 same.2⟩

theorem Erases.withLocal {task : Task (σ × κ) ε α} {plain : Task (τ × κ) ε α}
    (erases : Erases (Prod.map forget id) task plain) (value : κ) :
    Erases forget (task.withLocal value) (plain.withLocal value) := by
  have ends : Related (fun state other => forget state.1 = other.1)
      (fun state other => forget state.1 = other.1 ∧ state.2 = value ∧ other.2 = value) task plain
      (fun result counterpart state other => result = counterpart ∧ state.2 = other.2 ∧
        forget state.1 = other.1) := by
    refine erases.mono ?_ ?_ ?_
    · rintro state other ⟨same, isValue, isOther⟩
      exact Prod.ext same (isValue.trans isOther.symm)
    · rintro state _ rfl
      rfl
    · rintro result counterpart state _ ⟨same, rfl⟩
      exact ⟨same, rfl, rfl⟩
  have whole : Related (fun state other => forget state = other)
      (fun state other => forget state = other) (task.withLocal value) (plain.withLocal value)
      (fun result counterpart state other => result.1 = counterpart.1 ∧
        result.2 = counterpart.2 ∧ forget state = other) := Related.withLocal (fun _ => Eq) ends
  refine whole.mono (fun _ _ same => same) (fun _ _ same => same) ?_
  rintro result counterpart state other ⟨sameResult, sameValue, same⟩
  exact ⟨Prod.ext sameResult sameValue, same⟩

theorem Erases.run_eq (erases : Erases forget task plain) (state : σ) :
    (task.run state).1 = (plain.run (forget state)).1 ∧
      forget (task.run state).2 = (plain.run (forget state)).2 := by
  have ends := erases state (forget state) rfl
  generalize task.run state = outcome at ends ⊢
  generalize plain.run (forget state) = ending at ends ⊢
  obtain ⟨result, after⟩ := outcome
  obtain ⟨other, otherAfter⟩ := ending
  cases result <;> cases other
  · exact ⟨congrArg Except.error ends.1, ends.2⟩
  · exact ends.elim
  · exact ends.elim
  · exact ⟨congrArg Except.ok ends.1, ends.2⟩

def beside (task : Task (σ × τ) ε α) : Task ((σ × γ) × τ) ε α :=
  task.zoom (Prod.map Prod.fst id) (fun state part => ((part.1, state.1.2), part.2))

theorem erases_beside (task : Task (σ × τ) ε α) :
    Erases (Prod.map Prod.fst id) (task.beside : Task ((σ × γ) × τ) ε α) task := by
  apply erases_zoom
  constructor <;> intros <;> rfl

@[simp] theorem run_beside (task : Task (σ × τ) ε α) (state : σ) (ghost : γ) (value : τ) :
    (task.beside : Task ((σ × γ) × τ) ε α).run ((state, ghost), value) =
      ((task.run (state, value)).1,
        (((task.run (state, value)).2.1, ghost), (task.run (state, value)).2.2)) := by
  refine run_zoom ⟨?_, ?_, ?_⟩ task ((state, ghost), value) <;> intros <;> rfl

end Task
end Async
