/-
Relational rules for two tasks that run side by side.

The tasks may work on different state types.  They are related when, started in
related states, both yield values in related states or both reject with the same
rejection.  A step that only one of them makes is absorbed by a relation on one
side.
-/

import ParaQL.Async.Task

namespace Async
namespace Task

variable {σ τ ε α β γ δ : Type}

def Agree (rejected : σ → τ → Prop) (after : α → β → σ → τ → Prop) :
    Except ε α × σ → Except ε β × τ → Prop
  | (.ok value, state), (.ok other, otherState) => after value other state otherState
  | (.error rejection, state), (.error other, otherState) =>
      rejection = other ∧ rejected state otherState
  | _, _ => False

/-- From states related by `before`, the two tasks end alike. -/
def Related (rejected : σ → τ → Prop) (before : σ → τ → Prop) (left : Task σ ε α)
    (right : Task τ ε β) (after : α → β → σ → τ → Prop) : Prop :=
  ∀ state other, before state other → Agree rejected after (left.run state) (right.run other)

def never (_ : σ) (_ : τ) : Prop := False

variable {rejected before : σ → τ → Prop} {left : Task σ ε α} {right : Task τ ε β}
  {after : α → β → σ → τ → Prop}

theorem Agree.mono {weaker : σ → τ → Prop} {wider : α → β → σ → τ → Prop}
    {first : Except ε α × σ} {second : Except ε β × τ} (agree : Agree rejected after first second)
    (rejects : ∀ state other, rejected state other → weaker state other)
    (yields : ∀ value result state other, after value result state other →
      wider value result state other) :
    Agree weaker wider first second := by
  obtain ⟨result, state⟩ := first
  obtain ⟨other, otherState⟩ := second
  cases result <;> cases other
  · exact ⟨agree.1, rejects _ _ agree.2⟩
  · exact agree.elim
  · exact agree.elim
  · exact yields _ _ _ _ agree

theorem Related.mono {stronger weaker : σ → τ → Prop} {wider : α → β → σ → τ → Prop}
    (related : Related rejected before left right after)
    (starts : ∀ state other, stronger state other → before state other)
    (rejects : ∀ state other, rejected state other → weaker state other)
    (yields : ∀ value result state other, after value result state other →
      wider value result state other) :
    Related weaker stronger left right wider :=
  fun state other holds => (related state other (starts state other holds)).mono rejects yields

theorem related_pure (value : α) (result : β)
    (yields : ∀ state other, before state other → after value result state other) :
    Related rejected before (pure value : Task σ ε α) (pure result) after :=
  yields

theorem related_throw (rejection : ε)
    (rejects : ∀ state other, before state other → rejected state other) :
    Related rejected before (throw rejection : Task σ ε α) (throw rejection : Task τ ε β) after :=
  fun state other holds => ⟨rfl, rejects state other holds⟩

theorem related_of_runs
    (runs : ∀ state other, before state other → ∃ value state' result other',
      left.run state = (.ok value, state') ∧ right.run other = (.ok result, other') ∧
      after value result state' other') :
    Related rejected before left right after := by
  intro state other holds
  obtain ⟨value, state', result, other', ran, ranOther, yields⟩ := runs state other holds
  rw [ran, ranOther]
  exact yields

theorem Related.bind {next : α → Task σ ε γ} {follow : β → Task τ ε δ}
    {final : γ → δ → σ → τ → Prop} (related : Related rejected before left right after)
    (rest : ∀ value result, Related rejected (after value result) (next value) (follow result)
      final) :
    Related rejected before (left >>= next) (right >>= follow) final := by
  intro state other holds
  have first := related state other holds
  rw [run_bind, run_bind]
  generalize left.run state = outcome at first ⊢
  generalize right.run other = counterpart at first ⊢
  obtain ⟨result, middle⟩ := outcome
  obtain ⟨otherResult, otherMiddle⟩ := counterpart
  cases result <;> cases otherResult
  · exact first
  · exact first.elim
  · exact first.elim
  · exact rest _ _ _ _ first

/-- What is reached is reached from related states. -/
theorem Related.reached (related : Related rejected before left right after) :
    Related rejected before left right fun value result state other =>
      after value result state other ∧ ∃ first second, before first second ∧
        left.run first = (.ok value, state) ∧ right.run second = (.ok result, other) := by
  intro first second holds
  have ends := related first second holds
  generalize ran : left.run first = outcome at ends ⊢
  generalize counterpart : right.run second = ending at ends ⊢
  obtain ⟨result, state⟩ := outcome
  obtain ⟨otherResult, other⟩ := ending
  cases result <;> cases otherResult
  · exact ends
  · exact ends.elim
  · exact ends.elim
  · exact ⟨ends, first, second, holds, ran, counterpart⟩

/-- The second task makes a beginning of its own. -/
theorem Related.afterStart {between : σ → τ → Prop} {rest : Task τ ε β}
    (related : Related rejected between left rest after)
    (starts : ∀ state other, before state other → ∃ started, right.run other = rest.run started ∧
      between state started) :
    Related rejected before left right after := by
  intro state other holds
  obtain ⟨started, ran, begins⟩ := starts state other holds
  rw [ran]
  exact related state started begins

/-- What holds at the end, whether the tasks yield or reject. -/
theorem Related.always {final : σ → τ → Prop}
    (related : Related final before left right fun _ _ => final) {state : σ} {other : τ}
    (holds : before state other) : final (left.run state).2 (right.run other).2 := by
  have ends := related state other holds
  generalize left.run state = outcome at ends ⊢
  generalize right.run other = ending at ends ⊢
  obtain ⟨result, after⟩ := outcome
  obtain ⟨otherResult, otherAfter⟩ := ending
  cases result <;> cases otherResult
  · exact ends.2
  · exact ends.elim
  · exact ends.elim
  · exact ends

/-- Both tasks begin by reading what their states are known to hold. -/
theorem Related.afterRead {view : σ → γ} {otherView : τ → δ} {next : γ → Task σ ε α}
    {follow : δ → Task τ ε β} (value : γ) (other : δ)
    (reads : ∀ state otherState, before state otherState →
      view state = value ∧ otherView otherState = other)
    (rest : Related rejected before (next value) (follow other) after) :
    Related rejected before (read view >>= next) (read otherView >>= follow) after := by
  intro state otherState holds
  obtain ⟨sees, otherSees⟩ := reads state otherState holds
  simp only [run_bind, run_read, andThen_ok, sees, otherSees]
  exact rest state otherState holds

theorem Related.catch {handler : ε → Task σ ε α} {counterpart : ε → Task τ ε β}
    {caught : σ → τ → Prop} (related : Related caught before left right after)
    (handles : ∀ rejection, Related rejected caught (handler rejection) (counterpart rejection)
      after) :
    Related rejected before (tryCatch left handler) (tryCatch right counterpart) after := by
  intro state other holds
  have first := related state other holds
  rw [run_tryCatch, run_tryCatch]
  generalize left.run state = outcome at first ⊢
  generalize right.run other = ending at first ⊢
  obtain ⟨result, middle⟩ := outcome
  obtain ⟨otherResult, otherMiddle⟩ := ending
  cases result <;> cases otherResult
  · obtain ⟨same, holdsHere⟩ := first
    subst same
    exact handles _ _ _ holdsHere
  · exact first.elim
  · exact first.elim
  · exact first

/-- The loop rule for two loops over one list. -/
theorem related_forEach {ι : Type} {items : List ι} {body : ι → Task σ ε Unit}
    {counterpart : ι → Task τ ε Unit} (invariant : List ι → σ → τ → Prop)
    (keeps : ∀ handled item, handled ++ [item] <+: items →
      Related rejected (invariant handled) (body item) (counterpart item)
        (fun _ _ => invariant (handled ++ [item]))) :
    Related rejected (invariant []) (forEach items body) (forEach items counterpart)
      (fun _ _ => invariant items) := by
  have fromHandled (handled rest : List ι) (split : handled ++ rest = items) :
      Related rejected (invariant handled) (forEach rest body) (forEach rest counterpart)
        (fun _ _ => invariant items) := by
    induction rest generalizing handled with
    | nil =>
        rw [List.append_nil] at split
        subst split
        exact related_pure () () (fun _ _ holds => holds)
    | cons item rest ih =>
        have shifted : handled ++ [item] ++ rest = items := by
          rw [← split, List.append_assoc, List.singleton_append]
        exact (keeps handled item ⟨rest, shifted⟩).bind fun _ _ =>
          ih (handled ++ [item]) shifted
  exact fromHandled [] items rfl

/-- Tasks with private variables agree on what they yield and on the shared state. -/
theorem Related.withLocal {κ : Type} {left : Task (σ × κ) ε α} {right : Task (τ × κ) ε α}
    {value other : κ} {after : σ → τ → Prop} (final : α → κ → κ → Prop)
    (related : Related (fun state otherState => rejected state.1 otherState.1)
      (fun state otherState => before state.1 otherState.1 ∧ state.2 = value ∧
        otherState.2 = other) left right
      (fun result counterpart state otherState => result = counterpart ∧
        final result state.2 otherState.2 ∧ after state.1 otherState.1)) :
    Related rejected before (left.withLocal value) (right.withLocal other)
      (fun result counterpart state otherState => result.1 = counterpart.1 ∧
        final result.1 result.2 counterpart.2 ∧ after state otherState) := by
  intro state otherState holds
  have ends := related (state, value) (otherState, other) ⟨holds, rfl, rfl⟩
  rw [run_withLocal, run_withLocal]
  generalize left.run (state, value) = outcome at ends ⊢
  generalize right.run (otherState, other) = counterpart at ends ⊢
  obtain ⟨result, middle⟩ := outcome
  obtain ⟨otherResult, otherMiddle⟩ := counterpart
  cases result <;> cases otherResult
  · exact ends
  · exact ends.elim
  · exact ends.elim
  · exact ends

theorem Related.onShared {κ : Type} (related : Related rejected before left right after)
    (aside : κ → κ → Prop) :
    Related (fun state other => rejected state.1 other.1 ∧ aside state.2 other.2)
      (fun state other => before state.1 other.1 ∧ aside state.2 other.2)
      (left.onShared : Task (σ × κ) ε α) (right.onShared : Task (τ × κ) ε β)
      (fun value result state other => after value result state.1 other.1 ∧
        aside state.2 other.2) := by
  rintro ⟨state, value⟩ ⟨other, otherValue⟩ ⟨holds, beside⟩
  have ends := related state other holds
  rw [run_onShared, run_onShared]
  generalize left.run state = outcome at ends ⊢
  generalize right.run other = counterpart at ends ⊢
  obtain ⟨result, middle⟩ := outcome
  obtain ⟨otherResult, otherMiddle⟩ := counterpart
  cases result <;> cases otherResult
  · exact ⟨ends.1, ends.2, beside⟩
  · exact ends.elim
  · exact ends.elim
  · exact ⟨ends, beside⟩

end Task
end Async
