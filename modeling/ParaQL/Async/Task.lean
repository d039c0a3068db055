/-
Tasks of a single-threaded event loop.

A task is a finite tree of atomic updates of a shared state.  Between two
updates the loop may run something else, so a task is also the place where an
interleaving can happen.  A task ends with a value or with a rejection, and a
rejection keeps every update made before it.

The module knows no particular state, error or value type.
-/

import Mathlib.Tactic.Common

namespace Async

inductive Task (σ ε α : Type) where
  | done (result : Except ε α)
  | step (update : σ → σ) (next : σ → Task σ ε α)

namespace Task

variable {σ τ ε α β : Type}

def bind : Task σ ε α → (α → Task σ ε β) → Task σ ε β
  | .done (.ok value), rest => rest value
  | .done (.error rejection), _ => .done (.error rejection)
  | .step update next, rest => .step update (fun state => (next state).bind rest)

def catchError : Task σ ε α → (ε → Task σ ε α) → Task σ ε α
  | .done (.ok value), _ => .done (.ok value)
  | .done (.error rejection), handler => handler rejection
  | .step update next, handler =>
      .step update (fun state => (next state).catchError handler)

instance : Monad (Task σ ε) where
  pure value := .done (.ok value)
  bind := Task.bind

instance : MonadExceptOf ε (Task σ ε) where
  throw rejection := .done (.error rejection)
  tryCatch := Task.catchError

def atomic (action : σ → Except ε α × σ) : Task σ ε α :=
  .step (fun state => (action state).2) (fun state => .done (action state).1)

def read (view : σ → α) : Task σ ε α :=
  atomic fun state => (.ok (view state), state)

def modify (update : σ → σ) : Task σ ε Unit :=
  atomic fun state => (.ok (), update state)

def outcome (task : Task σ ε α) : Task σ ε (Except ε α) :=
  tryCatch (do let value ← task; pure (.ok value)) (fun rejection => pure (.error rejection))

/-- Runs `cleanup` however `body` ends.  A rejection of `cleanup` wins. -/
def ensure (body : Task σ ε α) (cleanup : Task σ ε Unit) : Task σ ε α := do
  let result ← body.outcome
  cleanup
  match result with
  | .ok value => pure value
  | .error rejection => throw rejection

/-- `for (const item of items) await body(item)`. -/
def forEach {ι : Type} : List ι → (ι → Task σ ε Unit) → Task σ ε Unit
  | [], _ => pure ()
  | item :: items, body => do
      body item
      forEach items body

/-! ### Running a task alone -/

def run : Task σ ε α → σ → Except ε α × σ
  | .done result, state => (result, state)
  | .step update next, state => (next state).run (update state)

def andThen (outcome : Except ε α × σ) (rest : α → Task σ ε β) : Except ε β × σ :=
  match outcome with
  | (.ok value, state) => (rest value).run state
  | (.error rejection, state) => (.error rejection, state)

def orElse (outcome : Except ε α × σ) (handler : ε → Task σ ε α) : Except ε α × σ :=
  match outcome with
  | (.ok value, state) => (.ok value, state)
  | (.error rejection, state) => (handler rejection).run state

@[simp] theorem andThen_ok (value : α) (state : σ) (rest : α → Task σ ε β) :
    andThen (.ok value, state) rest = (rest value).run state := rfl

@[simp] theorem andThen_error (rejection : ε) (state : σ) (rest : α → Task σ ε β) :
    andThen (.error rejection, state) rest = (.error rejection, state) := rfl

@[simp] theorem orElse_ok (value : α) (state : σ) (handler : ε → Task σ ε α) :
    orElse (.ok value, state) handler = (.ok value, state) := rfl

@[simp] theorem orElse_error (rejection : ε) (state : σ) (handler : ε → Task σ ε α) :
    orElse (.error rejection, state) handler = (handler rejection).run state := rfl

@[simp] theorem run_done (result : Except ε α) (state : σ) :
    (Task.done result).run state = (result, state) := rfl

@[simp] theorem run_pure (value : α) (state : σ) :
    (pure value : Task σ ε α).run state = (.ok value, state) := rfl

@[simp] theorem run_throw (rejection : ε) (state : σ) :
    (throw rejection : Task σ ε α).run state = (.error rejection, state) := rfl

@[simp] theorem run_atomic (action : σ → Except ε α × σ) (state : σ) :
    (atomic action).run state = action state := rfl

@[simp] theorem run_read (view : σ → α) (state : σ) :
    (read view : Task σ ε α).run state = (.ok (view state), state) := rfl

@[simp] theorem run_modify (update : σ → σ) (state : σ) :
    (modify update : Task σ ε Unit).run state = (.ok (), update state) := rfl

@[simp] theorem run_bind (task : Task σ ε α) (rest : α → Task σ ε β) (state : σ) :
    (task >>= rest).run state = andThen (task.run state) rest := by
  change (task.bind rest).run state = _
  induction task generalizing state with
  | done result => cases result <;> rfl
  | step update next ih => exact ih state (update state)

@[simp] theorem run_tryCatch (task : Task σ ε α) (handler : ε → Task σ ε α) (state : σ) :
    (tryCatch task handler).run state = orElse (task.run state) handler := by
  change (task.catchError handler).run state = _
  induction task generalizing state with
  | done result => cases result <;> rfl
  | step update next ih => exact ih state (update state)

theorem run_outcome (task : Task σ ε α) (state : σ) :
    task.outcome.run state = (.ok (task.run state).1, (task.run state).2) := by
  unfold outcome
  rw [run_tryCatch, run_bind]
  rcases task.run state with ⟨result, after⟩
  cases result <;> rfl

theorem atomic_map (action : σ → Except ε α × σ) (convert : α → β) :
    (atomic action >>= fun value => pure (convert value)) =
      atomic fun state => ((action state).1.map convert, (action state).2) := by
  change Task.bind (.step _ _) _ = .step _ _
  rw [Task.bind]
  congr 1
  funext state
  change Task.bind (.done (action state).1) _ = .done ((action state).1.map convert)
  cases (action state).1 <;> rfl

/-- The loop rule.  The invariant speaks of the items already handled, and the
body is run on a state that satisfies it for some beginning of the list. -/
theorem run_forEach {ι : Type} (items : List ι) (body : ι → Task σ ε Unit)
    (invariant : List ι → σ → Prop)
    (keeps : ∀ handled item, handled ++ [item] <+: items → ∀ state, invariant handled state →
      ∃ after, (body item).run state = (.ok (), after) ∧ invariant (handled ++ [item]) after)
    (state : σ) (initial : invariant [] state) :
    ∃ after, (forEach items body).run state = (.ok (), after) ∧ invariant items after := by
  have fromHandled (handled rest : List ι) (split : handled ++ rest = items) (current : σ)
      (holds : invariant handled current) :
      ∃ after, (forEach rest body).run current = (.ok (), after) ∧ invariant items after := by
    induction rest generalizing handled current with
    | nil =>
        rw [List.append_nil] at split
        subst split
        exact ⟨current, rfl, holds⟩
    | cons item rest ih =>
        have shifted : handled ++ [item] ++ rest = items := by
          rw [← split, List.append_assoc, List.singleton_append]
        obtain ⟨middle, ran, kept⟩ := keeps handled item ⟨rest, shifted⟩ current holds
        obtain ⟨after, finished, final⟩ := ih (handled ++ [item]) shifted middle kept
        refine ⟨after, ?_, final⟩
        simp only [forEach, run_bind, ran, andThen_ok, finished]
  exact fromHandled [] items rfl state initial

/-- Runs a task on the part of the state that `get` and `set` pick out. -/
def zoom (get : τ → σ) (set : τ → σ → τ) : Task σ ε α → Task τ ε α
  | .done result => .done result
  | .step update next =>
      .step (fun state => set state (update (get state)))
        (fun state => (next (get state)).zoom get set)

def withLocal : Task (σ × τ) ε α → τ → Task σ ε (α × τ)
  | .done result, value => .done (result.map fun answer => (answer, value))
  | .step update next, value =>
      .step (fun state => (update (state, value)).1)
        (fun state => (next (state, value)).withLocal (update (state, value)).2)

def onShared (task : Task σ ε α) : Task (σ × τ) ε α :=
  task.zoom Prod.fst (fun state shared => (shared, state.2))

structure LawfulPart (get : τ → σ) (set : τ → σ → τ) : Prop where
  get_set : ∀ state part, get (set state part) = part
  set_set : ∀ state first second, set (set state first) second = set state second
  set_get : ∀ state, set state (get state) = state

theorem zoom_atomic (get : τ → σ) (set : τ → σ → τ) (action : σ → Except ε α × σ) :
    (atomic action).zoom get set =
      atomic fun state => ((action (get state)).1, set state (action (get state)).2) := rfl

theorem zoom_bind (get : τ → σ) (set : τ → σ → τ) (task : Task σ ε α) (rest : α → Task σ ε β) :
    (task >>= rest).zoom get set = task.zoom get set >>= fun value => (rest value).zoom get set := by
  change (task.bind rest).zoom get set = (task.zoom get set).bind _
  induction task with
  | done result => cases result <;> rfl
  | step update next ih =>
      simp only [bind, zoom]
      congr 1
      funext state
      exact ih (get state)

theorem run_zoom {get : τ → σ} {set : τ → σ → τ} (lawful : LawfulPart get set)
    (task : Task σ ε α) (state : τ) :
    (task.zoom get set).run state =
      ((task.run (get state)).1, set state (task.run (get state)).2) := by
  induction task generalizing state with
  | done result =>
      simp only [zoom, run_done, lawful.set_get]
  | step update next ih =>
      simp only [zoom, run]
      rw [ih, lawful.get_set, lawful.set_set]

@[simp] theorem run_withLocal (task : Task (σ × τ) ε α) (state : σ) (value : τ) :
    (task.withLocal value).run state =
      ((task.run (state, value)).1.map (fun answer => (answer, (task.run (state, value)).2.2)),
        (task.run (state, value)).2.1) := by
  induction task generalizing state value with
  | done result => rfl
  | step update next ih => exact ih (state, value) _ _

@[simp] theorem run_onShared (task : Task σ ε α) (state : σ) (value : τ) :
    (task.onShared : Task (σ × τ) ε α).run (state, value) =
      ((task.run state).1, ((task.run state).2, value)) := by
  refine run_zoom ⟨?_, ?_, ?_⟩ task (state, value) <;> intros <;> rfl

end Task
end Async
