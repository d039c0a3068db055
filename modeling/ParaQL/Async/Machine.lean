/-
Machines that take one event after the other, each a piece of code between two awaits.

An event that the state does not allow cannot happen.  A condition on the events of a
run is met at the states that the run passes.
-/

import Mathlib.Tactic.Common

namespace Async

inductive Promise (ε α : Type) where
  | pending
  | settled (result : Except ε α)
  deriving DecidableEq, Repr

namespace Promise

variable {ε α : Type}

def settle (promise : Promise ε α) (result : Except ε α) : Promise ε α :=
  match promise with
  | .pending => .settled result
  | .settled earlier => .settled earlier

end Promise

namespace Machine

variable {σ ι : Type} (step : σ → ι → Option σ)

def run : σ → List ι → Option σ
  | state, [] => some state
  | state, event :: events => (step state event).bind fun next => run next events

/-- Every event of the run meets the condition where it happens. -/
def Heeds (condition : σ → ι → Prop) : σ → List ι → Prop
  | _, [] => True
  | state, event :: events =>
      ∀ next, step state event = some next → condition state event ∧ Heeds condition next events

def Always (property : σ → Prop) : σ → List ι → Prop
  | state, [] => property state
  | state, event :: events =>
      property state ∧ ∀ next, step state event = some next → Always property next events

variable {step}

theorem run_cons_iff {state final : σ} {event : ι} {events : List ι} :
    run step state (event :: events) = some final ↔
      ∃ next, step state event = some next ∧ run step next events = some final :=
  Option.bind_eq_some_iff

theorem heeds_cons {condition : σ → ι → Prop} {state next : σ} {event : ι} {events : List ι}
    (stepped : step state event = some next) (meets : condition state event)
    (later : Heeds step condition next events) : Heeds step condition state (event :: events) := by
  intro other same
  cases stepped.symm.trans same
  exact ⟨meets, later⟩

/-- What every event of a run keeps holds at its end. -/
theorem run_invariant {condition : σ → ι → Prop} {invariant : σ → Prop}
    (keeps : ∀ state event next, invariant state → condition state event →
      step state event = some next → invariant next)
    {state final : σ} {events : List ι} (begins : invariant state)
    (heeds : Heeds step condition state events) (ran : run step state events = some final) :
    invariant final := by
  induction events generalizing state with
  | nil =>
      cases ran
      exact begins
  | cons event events ih =>
      obtain ⟨next, stepped, rest⟩ := run_cons_iff.1 ran
      obtain ⟨meets, later⟩ := heeds next stepped
      exact ih (keeps state event next begins meets stepped) later rest

theorem heeds_trivial (state : σ) (events : List ι) :
    Heeds step (fun _ _ => True) state events := by
  induction events generalizing state with
  | nil => exact trivial
  | cons event events ih => exact fun next _ => ⟨trivial, ih next⟩

theorem Heeds.mono {condition weaker : σ → ι → Prop} {invariant : σ → Prop}
    (keeps : ∀ state event next, invariant state → condition state event →
      step state event = some next → invariant next)
    (implies : ∀ state event, invariant state → condition state event → weaker state event)
    {state : σ} {events : List ι} (begins : invariant state)
    (heeds : Heeds step condition state events) : Heeds step weaker state events := by
  induction events generalizing state with
  | nil => exact trivial
  | cons event events ih =>
      intro next stepped
      obtain ⟨meets, later⟩ := heeds next stepped
      exact ⟨implies state event begins meets,
        ih (keeps state event next begins meets stepped) later⟩

theorem run_preserves {invariant : σ → Prop}
    (keeps : ∀ state event next, invariant state → step state event = some next → invariant next)
    {state final : σ} {events : List ι} (begins : invariant state)
    (ran : run step state events = some final) : invariant final :=
  run_invariant (fun state event next holds _ => keeps state event next holds) begins
    (heeds_trivial state events) ran

/-- What every event of a kind keeps holds throughout a run of such events. -/
theorem always_of_keeps {allowed : ι → Prop} {property : σ → Prop}
    (keeps : ∀ state event next, property state → allowed event → step state event = some next →
      property next) {state : σ} {events : List ι} (begins : property state)
    (each : ∀ event ∈ events, allowed event) : Always step property state events := by
  induction events generalizing state with
  | nil => exact begins
  | cons event events ih =>
      refine ⟨begins, fun next stepped => ?_⟩
      exact ih (keeps state event next begins (each event List.mem_cons_self) stepped)
        fun later member => each later (List.mem_cons_of_mem _ member)

theorem Always.and {first second : σ → Prop} {state : σ} {events : List ι}
    (always : Always step first state events) (also : Always step second state events) :
    Always step (fun state => first state ∧ second state) state events := by
  induction events generalizing state with
  | nil => exact ⟨always, also⟩
  | cons event events ih =>
      exact ⟨⟨always.1, also.1⟩,
        fun next stepped => ih (always.2 next stepped) (also.2 next stepped)⟩

theorem always_congr {known first second : σ → Prop} {state : σ} {events : List ι}
    (always : Always step known state events)
    (same : ∀ state, known state → (first state ↔ second state)) :
    Always step first state events ↔ Always step second state events := by
  induction events generalizing state with
  | nil => exact same state always
  | cons event events ih =>
      exact and_congr (same state always.1)
        (forall₂_congr fun next stepped => ih (always.2 next stepped))

/-- A property of all states of a run comes down to a condition on its events, when an
invariant with the property is kept by the events that meet it, and the property is lost
after any other. -/
theorem always_iff_heeds {condition : σ → ι → Prop} {invariant property : σ → Prop}
    (shows : ∀ state, invariant state → property state)
    (keeps : ∀ state event next, invariant state → condition state event →
      step state event = some next → invariant next)
    (breaks : ∀ state event next, invariant state → ¬condition state event →
      step state event = some next → ¬property next)
    {state : σ} (begins : invariant state) (events : List ι) :
    Always step property state events ↔ Heeds step condition state events := by
  induction events generalizing state with
  | nil => exact iff_of_true (shows state begins) trivial
  | cons event events ih =>
      have first {next : σ} (always : Always step property next events) : property next := by
        cases events with
        | nil => exact always
        | cons _ _ => exact always.1
      constructor
      · intro always next stepped
        have meets : condition state event := by
          by_contra fails
          exact breaks state event next begins fails stepped (first (always.2 next stepped))
        exact ⟨meets, (ih (keeps state event next begins meets stepped)).1 (always.2 next stepped)⟩
      · intro heeds
        refine ⟨shows state begins, fun next stepped => ?_⟩
        obtain ⟨meets, later⟩ := heeds next stepped
        exact (ih (keeps state event next begins meets stepped)).2 later

end Machine
end Async
