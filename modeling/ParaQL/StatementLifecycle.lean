/-
The handle of a prepared statement under its calls.

`_close` sets `_handle` to null between any two awaits of a call.  A call that goes on
after that passes null to the binding, where an assertion about it fails.
-/

import ParaQL.BatchQueue
import ParaQL.SharedStatement

namespace ParaQL

open Async

inductive NativeFunction where
  | bind
  | step
  | run
  | reset
  deriving DecidableEq, Repr

/-- A call of the binding, with the `_handle` that it is passed. -/
structure NativeCall where
  function : NativeFunction
  handle : Option Nat
  deriving DecidableEq, Repr

inductive HeldPhase where
  | idle
  | binding
  | stepping
  | running
  | yielded
  | resetting (outcome : Except JsValue Delivered)
  | finished (outcome : Except JsValue Delivered)
  deriving DecidableEq

def HeldPhase.underway : HeldPhase → Bool
  | .binding => true
  | .stepping => true
  | .running => true
  | .yielded => true
  | _ => false

structure HeldCall where
  kind : CallKind
  phase : HeldPhase
  rows : List Row
  deriving DecidableEq

structure HeldState where
  handle : Option Nat
  lifecycle : Lifecycle
  calls : CallId → HeldCall
  native : List NativeCall

inductive HeldEvent where
  | start (id : CallId) (kind : CallKind) (parameters : Parameters)
  | bound (id : CallId) (result : Except JsValue Unit)
  | stepped (id : CallId) (result : Except JsValue (Option Row))
  | ran (id : CallId) (result : Except JsValue RunResult)
  | hasReset (id : CallId) (result : Except JsValue Unit)
  | next (id : CallId)
  | stop (id : CallId)
  | interrupt (id : CallId) (thrown : JsValue)
  | finalize
  | finalized (resolves : Bool)
  | closed

namespace HeldState

/-- A statement as `prepare` returns it. -/
def initial : HeldState :=
  { handle := some 0
    lifecycle := .opened
    calls := fun _ => { kind := .get, phase := .idle, rows := [] }
    native := [] }

def setCall (state : HeldState) (id : CallId) (call : HeldCall) : HeldState :=
  { state with calls := Function.update state.calls id call }

/-- The call goes on to a call of the binding, which gets what `_handle` holds now. -/
def enter (state : HeldState) (id : CallId) (call : HeldCall) (function : NativeFunction) :
    HeldState :=
  { state.setCall id call with native := state.native ++ [⟨function, state.handle⟩] }

/-- `finally { await binding.reset(this._handle) }`. -/
def leave (state : HeldState) (id : CallId) (outcome : Except JsValue Delivered) : HeldState :=
  state.enter id { state.calls id with phase := .resetting outcome } .reset

/-- `catch (err) { throw errors.from(err) }`. -/
def fail (state : HeldState) (id : CallId) (thrown : JsValue) : HeldState :=
  state.leave id (.error thrown.fromThrown)

/-- Only `_run` does not look at `closed`. -/
def start (state : HeldState) (id : CallId) (kind : CallKind) (parameters : Parameters) :
    HeldState :=
  let call : HeldCall := { kind := kind, phase := .binding, rows := [] }
  if kind ≠ .run ∧ state.lifecycle = .closed then
    state.setCall id { call with phase := .finished (.error (.error JsError.alreadyClosed)) }
  else
    match parameters.positional with
    | .null => (state.setCall id call).fail id (.error
        (JsError.typeError "Cannot read properties of null (reading 'length')"))
    | _ => state.enter id call .bind

def bound (state : HeldState) (id : CallId) (result : Except JsValue Unit) : HeldState :=
  match result with
  | .error thrown => state.fail id thrown
  | .ok _ =>
      if (state.calls id).kind = .run then
        state.enter id { state.calls id with phase := .running } .run
      else state.enter id { state.calls id with phase := .stepping } .step

def stepped (state : HeldState) (id : CallId) (result : Except JsValue (Option Row)) : HeldState :=
  match result, (state.calls id).kind with
  | .error thrown, _ => state.fail id thrown
  | .ok found, .get => state.leave id (.ok (.row found))
  | .ok none, _ => state.leave id (.ok (.rows (state.calls id).rows))
  | .ok (some row), .iterate =>
      state.setCall id
        { state.calls id with phase := .yielded, rows := (state.calls id).rows ++ [row] }
  | .ok (some row), _ =>
      state.enter id { state.calls id with rows := (state.calls id).rows ++ [row] } .step

def ran (state : HeldState) (id : CallId) (result : Except JsValue RunResult) : HeldState :=
  match result with
  | .error thrown => state.fail id thrown
  | .ok value => state.leave id (.ok (.ran value))

def hasReset (state : HeldState) (id : CallId) (outcome : Except JsValue Delivered)
    (result : Except JsValue Unit) : HeldState :=
  state.setCall id
    { state.calls id with
      phase := .finished (match result with
        | .ok _ => outcome
        | .error thrown => .error thrown) }

def goOn (state : HeldState) : HeldEvent → Option HeldState
  | .start id kind parameters =>
      if (state.calls id).phase = .idle then some (state.start id kind parameters) else none
  | .bound id result =>
      if (state.calls id).phase = .binding then some (state.bound id result) else none
  | .stepped id result =>
      if (state.calls id).phase = .stepping then some (state.stepped id result) else none
  | .ran id result =>
      if (state.calls id).phase = .running then some (state.ran id result) else none
  | .hasReset id result =>
      match (state.calls id).phase with
      | .resetting outcome => some (state.hasReset id outcome result)
      | _ => none
  | .next id =>
      if (state.calls id).phase = .yielded then
        some (state.enter id { state.calls id with phase := .stepping } .step)
      else none
  | .stop id =>
      if (state.calls id).phase = .yielded then
        some (state.leave id (.ok (.rows (state.calls id).rows)))
      else none
  | .interrupt id thrown =>
      if (state.calls id).phase = .yielded then some (state.fail id thrown) else none
  | .finalize =>
      some (if state.lifecycle = .opened then { state with lifecycle := .closing } else state)
  | .finalized resolves =>
      if state.lifecycle = .closing then
        some (if resolves then { state with handle := none, lifecycle := .finalized }
          else { state with lifecycle := .unclosed })
      else none
  | .closed =>
      if state.lifecycle = .finalized then some { state with lifecycle := .closed } else none

def crashed (state : HeldState) : Bool := state.native.any fun call => call.handle.isNone

def step (state : HeldState) (event : HeldEvent) : Option HeldState :=
  if state.crashed then none else state.goOn event

/-! ### Non-null handles -/

def NativeSafe (state : HeldState) : Prop := ∀ call ∈ state.native, call.handle.isSome = true

def KeepsHandle : Prop :=
  ∀ events final, Machine.run step initial events = some final → final.NativeSafe

/-- The handle goes away when no call will need it any more, and no call starts that needs
it after that: `_run` never, the others not before `closed` is set. -/
def Quiet (state : HeldState) : HeldEvent → Prop
  | .start _ kind _ => state.handle.isSome = true ∨ kind ≠ .run ∧ state.lifecycle = .closed
  | .finalized true => ∀ id, (state.calls id).phase.underway = false
  | _ => True

/-- The invariant: a call that is underway has a handle. -/
structure Held (state : HeldState) : Prop where
  native : state.NativeSafe
  underway : ∀ id, (state.calls id).phase.underway = true → state.handle.isSome = true

variable {state next : HeldState}

theorem Held.enter (held : state.Held) (present : state.handle.isSome = true) (id : CallId)
    (call : HeldCall) (function : NativeFunction) : (state.enter id call function).Held := by
  refine ⟨fun native member => ?_, fun _ _ => present⟩
  rcases List.mem_append.1 member with earlier | last
  · exact held.native native earlier
  · rw [List.mem_singleton.1 last]
    exact present

theorem Held.setCall (held : state.Held) (id : CallId) (call : HeldCall)
    (needs : call.phase.underway = true → state.handle.isSome = true) :
    (state.setCall id call).Held := by
  refine ⟨held.native, fun other known => ?_⟩
  change (Function.update state.calls id call other).phase.underway = true at known
  by_cases same : other = id
  · subst same
    rw [Function.update_self] at known
    exact needs known
  · rw [Function.update_of_ne same] at known
    exact held.underway other known

theorem Held.start (held : state.Held) {id : CallId} {kind : CallKind} {parameters : Parameters}
    (quiet : Quiet state (.start id kind parameters)) : (state.start id kind parameters).Held := by
  unfold HeldState.start
  split
  · exact held.setCall id _ fun impossible => by cases impossible
  · rename_i looks
    have present := quiet.resolve_right looks
    split
    · exact (held.setCall id _ fun _ => present).enter present id _ _
    · exact held.enter present id _ _

theorem Held.stepped (held : state.Held) (present : state.handle.isSome = true) (id : CallId)
    (result : Except JsValue (Option Row)) : (state.stepped id result).Held := by
  unfold HeldState.stepped
  split
  · exact held.enter present id _ _
  · exact held.enter present id _ _
  · exact held.enter present id _ _
  · exact held.setCall id _ fun _ => present
  · exact held.enter present id _ _

theorem Held.goOn (held : state.Held) {event : HeldEvent} (quiet : Quiet state event)
    (stepped : state.goOn event = some next) : next.Held := by
  have present {id : CallId} {phase : HeldPhase} (here : (state.calls id).phase = phase)
      (underway : phase.underway = true) : state.handle.isSome = true :=
    held.underway id (here ▸ underway)
  cases event with
  | start id kind parameters =>
      simp only [HeldState.goOn, Option.ite_none_right_eq_some, Option.some.injEq] at stepped
      exact stepped.2 ▸ held.start quiet
  | bound id result =>
      simp only [HeldState.goOn, Option.ite_none_right_eq_some, Option.some.injEq] at stepped
      obtain ⟨binding, rfl⟩ := stepped
      unfold HeldState.bound
      split
      · exact held.enter (present binding rfl) id _ _
      · split <;> exact held.enter (present binding rfl) id _ _
  | stepped id result =>
      simp only [HeldState.goOn, Option.ite_none_right_eq_some, Option.some.injEq] at stepped
      obtain ⟨stepping, rfl⟩ := stepped
      exact held.stepped (present stepping rfl) id result
  | ran id result =>
      simp only [HeldState.goOn, Option.ite_none_right_eq_some, Option.some.injEq] at stepped
      obtain ⟨running, rfl⟩ := stepped
      unfold HeldState.ran
      split <;> exact held.enter (present running rfl) id _ _
  | hasReset id result =>
      simp only [HeldState.goOn] at stepped
      split at stepped
      · cases stepped
        exact held.setCall id _ fun impossible => by cases impossible
      · cases stepped
  | next id =>
      simp only [HeldState.goOn, Option.ite_none_right_eq_some, Option.some.injEq] at stepped
      obtain ⟨yielded, rfl⟩ := stepped
      exact held.enter (present yielded rfl) id _ _
  | stop id =>
      simp only [HeldState.goOn, Option.ite_none_right_eq_some, Option.some.injEq] at stepped
      obtain ⟨yielded, rfl⟩ := stepped
      exact held.enter (present yielded rfl) id _ _
  | interrupt id thrown =>
      simp only [HeldState.goOn, Option.ite_none_right_eq_some, Option.some.injEq] at stepped
      obtain ⟨yielded, rfl⟩ := stepped
      exact held.enter (present yielded rfl) id _ _
  | finalize =>
      cases stepped
      split <;> exact ⟨held.native, held.underway⟩
  | finalized resolves =>
      simp only [HeldState.goOn, Option.ite_none_right_eq_some, Option.some.injEq] at stepped
      obtain ⟨_, rfl⟩ := stepped
      cases resolves
      · exact ⟨held.native, held.underway⟩
      · refine ⟨held.native, fun id underway => ?_⟩
        rw [if_pos rfl] at underway
        rw [quiet id] at underway
        cases underway
  | closed =>
      simp only [HeldState.goOn, Option.ite_none_right_eq_some, Option.some.injEq] at stepped
      obtain ⟨_, rfl⟩ := stepped
      exact ⟨held.native, held.underway⟩

private theorem held_initial : initial.Held :=
  ⟨fun _ member => absurd member List.not_mem_nil, fun _ _ => rfl⟩

/-- In every run in which the statement is finalized while no call needs it, the binding
never gets null. -/
theorem nativeSafe_of_quiet {events : List HeldEvent} {final : HeldState}
    (quiet : Machine.Heeds step Quiet initial events)
    (ran : Machine.run step initial events = some final) : final.NativeSafe := by
  have keeps : ∀ (state : HeldState) event next, state.Held → Quiet state event →
      step state event = some next → next.Held := by
    intro state event next held quiet stepped
    simp only [step, Option.ite_none_left_eq_some] at stepped
    exact held.goOn quiet stepped.2
  exact (Machine.run_invariant keeps held_initial quiet ran).native

/-- A `get`, and a `finalize` while its reset is awaited. -/
theorem nativeSafe_of_quiet_get : ∃ final : HeldState,
    Machine.run step initial
      [.start 0 .get ⟨.null, .list []⟩, .bound 0 (.ok ()), .stepped 0 (.ok none), .finalize,
        .finalized true, .hasReset 0 (.ok ()), .closed] = some final ∧ final.NativeSafe := by
  have noneUnderway : ∀ id, ((((initial.start 0 .get ⟨.null, .list []⟩).bound 0 (.ok ())).stepped 0
      (.ok none)).calls id).phase.underway = false := by
    intro id
    by_cases same : id = 0
    · subst same
      rfl
    · simp [stepped, bound, start, enter, leave, setCall, initial, HeldPhase.underway, same]
  have quiet : Machine.Heeds step Quiet initial
      [.start 0 .get ⟨.null, .list []⟩, .bound 0 (.ok ()), .stepped 0 (.ok none), .finalize,
        .finalized true, .hasReset 0 (.ok ()), .closed] := by
    refine Machine.heeds_cons rfl (Or.inl rfl) ?_
    refine Machine.heeds_cons rfl trivial (Machine.heeds_cons rfl trivial ?_)
    refine Machine.heeds_cons rfl trivial (Machine.heeds_cons rfl noneUnderway ?_)
    exact Machine.heeds_cons rfl trivial (Machine.heeds_cons rfl trivial trivial)
  exact ⟨_, rfl, nativeSafe_of_quiet quiet rfl⟩

/-- The statement is finalized while the bind of a `get` is awaited, which then fails. -/
theorem keepsHandle_get_fails : ¬KeepsHandle := by
  intro keeps
  have safe := keeps [.start 0 .get ⟨.null, .list []⟩, .finalize, .finalized true,
    .bound 0 (.error (.error ⟨"Error", some "MISUSE", "Statement has already been finalized"⟩))]
      _ rfl
  have passed := safe ⟨.reset, none⟩ (List.mem_cons_of_mem _ List.mem_cons_self)
  cases passed

end HeldState
end ParaQL
