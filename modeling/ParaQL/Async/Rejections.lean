/-
What a task can end with.

Whatever states a task meets and whatever happens between its steps, it ends with a value or
with one of the allowed rejections.
-/

import ParaQL.Async.Interference

namespace Async

variable {σ τ ε α β : Type}

namespace Task

inductive Gives (holds : Except ε α → Prop) : Task σ ε α → Prop where
  | done (result : Except ε α) (here : holds result) : Gives holds (.done result)
  | step {update : σ → σ} {next : σ → Task σ ε α} (rest : ∀ state, Gives holds (next state)) :
      Gives holds (.step update next)

def Rejects (allowed : ε → Prop) (task : Task σ ε α) : Prop :=
  Gives (fun result => ∀ rejection, result = .error rejection → allowed rejection) task

variable {holds : Except ε α → Prop} {allowed thrown : ε → Prop} {task : Task σ ε α}

theorem Gives.bind {final : Except ε β → Prop} {next : α → Task σ ε β} (first : Gives holds task)
    (rest : ∀ value, holds (.ok value) → Gives final (next value))
    (rejects : ∀ rejection, holds (.error rejection) → final (.error rejection)) :
    Gives final (task >>= next) := by
  change Gives final (task.bind next)
  induction first with
  | done result here =>
      cases result with
      | ok value => exact rest value here
      | error rejection => exact .done _ (rejects rejection here)
  | step _ ih => exact .step ih

theorem Gives.catch {final : Except ε α → Prop} {handler : ε → Task σ ε α}
    (first : Gives holds task) (yields : ∀ value, holds (.ok value) → final (.ok value))
    (handles : ∀ rejection, holds (.error rejection) → Gives final (handler rejection)) :
    Gives final (tryCatch task handler) := by
  change Gives final (task.catchError handler)
  induction first with
  | done result here =>
      cases result with
      | ok value => exact .done _ (yields value here)
      | error rejection => exact handles rejection here
  | step _ ih => exact .step ih

theorem Gives.outcome (first : Gives holds task) :
    Gives (fun ending => ∃ result, ending = .ok result ∧ holds result) task.outcome := by
  have passes : Gives (fun ending => (∃ result, ending = .ok result ∧ holds result) ∨
      ∃ rejection, ending = .error rejection ∧ holds (.error rejection))
      (task >>= fun value => pure (.ok value) : Task σ ε (Except ε α)) :=
    first.bind (fun value here => .done _ (.inl ⟨_, rfl, here⟩))
      fun rejection here => .inr ⟨rejection, rfl, here⟩
  refine passes.catch (fun value known => ?_) fun rejection known => .done _ ?_
  · exact known.resolve_right fun ⟨_, impossible, _⟩ => by cases impossible
  · rcases known with ⟨_, impossible, _⟩ | ⟨_, same, here⟩
    · cases impossible
    · cases same
      exact ⟨_, rfl, here⟩

theorem Gives.zoom {get : τ → σ} {set : τ → σ → τ} (gives : Gives holds task) :
    Gives holds (task.zoom get set) := by
  induction gives with
  | done result here => exact .done _ here
  | step _ ih => exact .step fun state => ih (get state)

/-- In every interleaving. -/
theorem Gives.ends {rely : σ → σ → Prop} (gives : Gives holds task) {state final : σ}
    {result : Except ε α} (ran : RunUnder rely task state result final) : holds result := by
  induction ran with
  | done result state =>
      cases gives with
      | done _ here => exact here
  | step _ _ ih =>
      cases gives with
      | step rest => exact ih (rest _)

/-- In a run alone. -/
theorem Gives.run (gives : Gives holds task) (state : σ) : holds (task.run state).1 :=
  gives.ends (runUnder_run alone task state)

theorem rejects_pure (value : α) : Rejects allowed (pure value : Task σ ε α) :=
  .done _ fun _ impossible => by cases impossible

theorem rejects_throw {rejection : ε} (here : allowed rejection) :
    Rejects allowed (throw rejection : Task σ ε α) :=
  .done _ fun _ same => by
    cases same
    exact here

theorem rejects_atomic {action : σ → Except ε α × σ}
    (acts : ∀ state rejection, (action state).1 = .error rejection → allowed rejection) :
    Rejects allowed (atomic action) :=
  .step fun state => .done _ (acts state)

theorem rejects_modify (update : σ → σ) : Rejects allowed (modify update : Task σ ε Unit) :=
  rejects_atomic fun _ _ impossible => by cases impossible

theorem rejects_read (view : σ → α) : Rejects allowed (read view : Task σ ε α) :=
  rejects_atomic fun _ _ impossible => by cases impossible

theorem Rejects.of_resolves (resolves : Resolves task) : Rejects allowed task := by
  unfold Rejects
  induction resolves with
  | done value => exact rejects_pure value
  | step _ ih => exact .step ih

theorem Rejects.bind {next : α → Task σ ε β} (first : Rejects allowed task)
    (rest : ∀ value, Rejects allowed (next value)) : Rejects allowed (task >>= next) := by
  refine Gives.bind first (fun value _ => rest value) fun rejection here other same => ?_
  cases same
  exact here _ rfl

theorem Rejects.catch {handler : ε → Task σ ε α} (first : Rejects thrown task)
    (handles : ∀ rejection, thrown rejection → Rejects allowed (handler rejection)) :
    Rejects allowed (tryCatch task handler) :=
  Gives.catch first (fun _ _ _ impossible => by cases impossible)
    fun rejection here => handles rejection (here _ rfl)

theorem Rejects.ensure {cleanup : Task σ ε Unit} (first : Rejects allowed task)
    (cleans : Rejects allowed cleanup) : Rejects allowed (task.ensure cleanup) := by
  refine (Gives.outcome first).bind (fun result known => ?_) fun _ known => ?_
  · obtain ⟨ending, same, here⟩ := known
    cases same
    refine Rejects.bind cleans fun _ => ?_
    cases result with
    | ok value => exact rejects_pure value
    | error rejection => exact rejects_throw (here _ rfl)
  · obtain ⟨_, impossible, _⟩ := known
    cases impossible

theorem Rejects.zoom {get : τ → σ} {set : τ → σ → τ} (rejects : Rejects allowed task) :
    Rejects allowed (task.zoom get set) :=
  Gives.zoom rejects

theorem Rejects.mono {wider : ε → Prop} (rejects : Rejects allowed task)
    (weakens : ∀ rejection, allowed rejection → wider rejection) : Rejects wider task := by
  unfold Rejects at rejects
  induction rejects with
  | done result here => exact .done _ fun _ same => weakens _ (here _ same)
  | step _ ih => exact .step ih

end Task
end Async
