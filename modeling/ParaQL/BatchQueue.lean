/-
The queue of a prepared statement.

`_queue` says whether a statement is in batching mode, and holds what `run` was given
since.  Here a statement goes through any sequence of `batch`, `run`, `flush` and
`finalize` calls, and the flushes end as they like.
-/

import ParaQL.Async.Machine
import ParaQL.Sqlite

namespace ParaQL

open Async

inductive Fate where
  -- They were passed to a `vfs.flush`, which has not ended yet.
  | flushing
  | flushed
  | rejected
  | discarded
  deriving DecidableEq, Repr

structure Taken where
  operations : List Parameters
  fate : Fate
  deriving DecidableEq, Repr

/-- `opened`, `closing` and `closed` of a `ReadyResource`. -/
inductive Lifecycle where
  | opened
  -- `binding.finalize` is awaited.
  | closing
  | unclosed
  -- `_close` has returned, and `closed` is not set yet.
  | finalized
  | closed
  deriving DecidableEq, Repr

structure BatchState where
  queue : Option (List Parameters)
  lifecycle : Lifecycle
  -- The operations for which `run` returned null.  No code reads this and the rest.
  accepted : List Parameters
  taken : List Taken
  switched : Bool
  deriving DecidableEq, Repr

inductive BatchEvent where
  | batch (on : JsValue)
  | run (parameters : Parameters)
  | flush
  | flushEnds (index : Nat) (resolves : Bool)
  | finalize
  | finalized (resolves : Bool)
  | closed
  deriving DecidableEq, Repr

inductive RunAnswer where
  | alreadyClosed
  | queued
  | sent
  deriving DecidableEq, Repr

namespace BatchState

/-- A statement as `prepare` returns it. -/
def initial : BatchState :=
  { queue := none, lifecycle := .opened, accepted := [], taken := [], switched := false }

/-- `this._queue = value`, where what was queued meets some fate. -/
def replace (state : BatchState) (value : Option (List Parameters)) (fate : Fate) : BatchState :=
  { state with
    queue := value
    taken := state.taken ++ [{ operations := state.queue.getD [], fate := fate }] }

/-- `this._queue = null`. -/
def drop (state : BatchState) : BatchState :=
  { state.replace none .discarded with switched := false }

/-- `batch(on)`: only `false` switches off. -/
def batch (on : JsValue) (state : BatchState) : BatchState :=
  if on = .bool false then state.drop
  else { state with queue := some (state.queue.getD []), switched := true }

/-- What `run` does on a statement. -/
def answer (state : BatchState) : RunAnswer :=
  if state.lifecycle = .closed then .alreadyClosed
  else
    match state.queue with
    | some _ => .queued
    | none => .sent

def run (parameters : Parameters) (state : BatchState) : BatchState :=
  match state.answer with
  | .queued =>
      { state with
        queue := state.queue.map (· ++ [parameters])
        accepted := state.accepted ++ [parameters] }
  | _ => state

/-- `flush`: `vfs.flush` maps the operations, and so rejects at once when there is no
queue. -/
def flush (state : BatchState) : BatchState :=
  state.replace (some []) (if state.queue.isSome then .flushing else .rejected)

def flushEnds (index : Nat) (resolves : Bool) (state : BatchState) : Option BatchState :=
  match state.taken[index]? with
  | some ⟨operations, .flushing⟩ =>
      some { state with
        taken := state.taken.set index ⟨operations, if resolves then .flushed else .rejected⟩ }
  | _ => none

/-- `finalize`, up to `await binding.finalize`. -/
def finalize (state : BatchState) : BatchState :=
  if state.lifecycle = .opened then { state with lifecycle := .closing } else state

/-- The rest of `_close`. -/
def finalized (resolves : Bool) (state : BatchState) : Option BatchState :=
  if state.lifecycle = .closing then
    some (if resolves then { state.drop with lifecycle := .finalized }
      else { state with lifecycle := .unclosed })
  else none

/-- `closed = true`. -/
def close (state : BatchState) : Option BatchState :=
  if state.lifecycle = .finalized then some { state with lifecycle := .closed } else none

def step (state : BatchState) : BatchEvent → Option BatchState
  | .batch on => some (state.batch on)
  | .run parameters => some (state.run parameters)
  | .flush => some state.flush
  | .flushEnds index resolves => state.flushEnds index resolves
  | .finalize => some state.finalize
  | .finalized resolves => state.finalized resolves
  | .closed => state.close

/-! ### Conservation -/

/-- Each operation was queued at one place, and is at one place still: they are in the
order of `run`, first those that have left the queue and then those in it. -/
def Kept (state : BatchState) : Prop :=
  state.accepted = (state.taken.map Taken.operations).flatten ++ state.queue.getD []

/-- `run` queues only while batch is on, and what it queued is not lost. -/
structure Conserved (state : BatchState) : Prop where
  mode : state.answer = .queued → state.switched = true
  kept : state.Kept
  resolved : ∀ taken ∈ state.taken, taken.fate = .rejected → taken.operations = []

def ConservesQueue : Prop :=
  ∀ events final, Machine.run step initial events = some final → final.Conserved

/-- `flush` comes when the statement is batching, or is closed and takes no more
operations; and a `vfs.flush` that was given operations resolves. -/
def Careful (state : BatchState) : BatchEvent → Prop
  | .flush => state.queue.isSome = true ∨ state.lifecycle = .closed
  | .flushEnds index resolves =>
      resolves = true ∨ ∀ taken, state.taken[index]? = some taken → taken.operations = []
  | _ => True

structure Orderly (state : BatchState) : Prop where
  mode : state.lifecycle ≠ .closed → state.queue.isSome = state.switched
  kept : state.Kept
  resolved : ∀ taken ∈ state.taken, taken.fate = .rejected → taken.operations = []

variable {state next : BatchState}

private theorem answer_queued_iff :
    state.answer = .queued ↔ state.lifecycle ≠ .closed ∧ state.queue.isSome = true := by
  unfold answer
  by_cases closed : state.lifecycle = .closed
  · simp [closed]
  · cases state.queue <;> simp [closed]

private theorem Orderly.conserved (orderly : state.Orderly) : state.Conserved := by
  refine ⟨fun queued => ?_, orderly.kept, orderly.resolved⟩
  obtain ⟨unclosed, batching⟩ := answer_queued_iff.1 queued
  rw [← orderly.mode unclosed]
  exact batching

theorem Orderly.replace (orderly : state.Orderly) {value : Option (List Parameters)} {fate : Fate}
    (empty : value.getD [] = []) (harmless : fate = .rejected → state.queue.getD [] = [])
    (mode : state.lifecycle ≠ .closed → value.isSome = state.switched) :
    (state.replace value fate).Orderly := by
  refine ⟨mode, ?_, ?_⟩
  · have kept := orderly.kept
    unfold Kept BatchState.replace at *
    simp [kept, empty]
  · intro taken member
    rcases List.mem_append.1 member with earlier | last
    · exact orderly.resolved taken earlier
    · rw [List.mem_singleton.1 last]
      exact harmless

theorem Orderly.drop (orderly : state.Orderly) : state.drop.Orderly := by
  refine ⟨fun _ => rfl, ?_, ?_⟩
  · have kept := orderly.kept
    unfold Kept BatchState.drop BatchState.replace at *
    simp [kept]
  · intro taken member
    rcases List.mem_append.1 member with earlier | last
    · exact orderly.resolved taken earlier
    · rw [List.mem_singleton.1 last]
      exact Fate.noConfusion

theorem Orderly.run (orderly : state.Orderly) (parameters : Parameters) :
    (state.run parameters).Orderly := by
  unfold BatchState.run
  split
  · rename_i queued
    obtain ⟨_, batching⟩ := answer_queued_iff.1 queued
    obtain ⟨queue, found⟩ := Option.isSome_iff_exists.1 batching
    refine ⟨fun unclosed => ?_, ?_, orderly.resolved⟩
    · rw [Option.isSome_map]
      exact orderly.mode unclosed
    · have kept := orderly.kept
      unfold Kept at *
      simp [kept, found]
  · exact orderly

private theorem kept_set {index : Nat} {operations : List Parameters} {before after : Fate}
    (found : state.taken[index]? = some ⟨operations, before⟩) :
    (state.taken.set index ⟨operations, after⟩).map Taken.operations =
      state.taken.map Taken.operations := by
  obtain ⟨inside, same⟩ := List.getElem?_eq_some_iff.1 found
  have placed : index < (state.taken.map Taken.operations).length := by
    rw [List.length_map]
    exact inside
  have mapped : (state.taken.map Taken.operations)[index] = operations := by
    rw [List.getElem_map, same]
  rw [List.map_set, ← mapped, List.set_getElem_self]

private theorem flushEnds_eq_some {index : Nat} {resolves : Bool}
    (ends : state.flushEnds index resolves = some next) :
    ∃ operations, state.taken[index]? = some ⟨operations, .flushing⟩ ∧
      next = { state with
        taken := state.taken.set index
          ⟨operations, if resolves then .flushed else .rejected⟩ } := by
  unfold flushEnds at ends
  split at ends
  · rename_i operations found
    exact ⟨operations, found, (Option.some.inj ends).symm⟩
  · cases ends

theorem Orderly.step (orderly : state.Orderly) {event : BatchEvent} (careful : Careful state event)
    (stepped : step state event = some next) : next.Orderly := by
  cases event with
  | batch on =>
      cases stepped
      unfold BatchState.batch
      split
      · exact orderly.drop
      · exact ⟨fun _ => rfl, orderly.kept, orderly.resolved⟩
  | run parameters =>
      cases stepped
      exact orderly.run parameters
  | flush =>
      cases stepped
      refine orderly.replace rfl (fun rejected => ?_) fun unclosed => ?_
      · cases queue : state.queue with
        | none => rfl
        | some operations =>
            rw [queue] at rejected
            cases rejected
      · rw [← orderly.mode unclosed]
        exact (careful.resolve_right unclosed).symm
  | flushEnds index resolves =>
      obtain ⟨operations, found, rfl⟩ := flushEnds_eq_some stepped
      refine ⟨orderly.mode, ?_, ?_⟩
      · unfold Kept
        rw [kept_set found]
        exact orderly.kept
      · intro taken member rejected
        rcases List.mem_or_eq_of_mem_set member with earlier | rfl
        · exact orderly.resolved taken earlier rejected
        · rcases careful with resolved | empty
          · rw [resolved] at rejected
            cases rejected
          · exact (empty _ found : operations = [])
  | finalize =>
      cases stepped
      unfold BatchState.finalize
      split
      · rename_i opened
        exact ⟨fun _ => orderly.mode (by rw [opened]; decide), orderly.kept, orderly.resolved⟩
      · exact orderly
  | finalized resolves =>
      change state.finalized resolves = some next at stepped
      unfold BatchState.finalized at stepped
      split at stepped
      · rename_i closing
        cases stepped
        cases resolves
        · exact ⟨fun _ => orderly.mode (by rw [closing]; decide), orderly.kept, orderly.resolved⟩
        · exact ⟨fun _ => rfl, orderly.drop.kept, orderly.drop.resolved⟩
      · cases stepped
  | closed =>
      change state.close = some next at stepped
      unfold BatchState.close at stepped
      split at stepped
      · cases stepped
        exact ⟨fun unclosed => absurd rfl unclosed, orderly.kept, orderly.resolved⟩
      · cases stepped

/-- Any other event switches batch on, or loses operations. -/
theorem Orderly.breaks (orderly : state.Orderly) {event : BatchEvent}
    (careless : ¬Careful state event) (stepped : BatchState.step state event = some next) :
    ¬next.Conserved := by
  intro conserved
  cases event with
  | batch on => exact careless trivial
  | run parameters => exact careless trivial
  | flush =>
      obtain ⟨none_queued, unclosed⟩ := not_or.1 careless
      cases stepped
      have switched := conserved.mode (answer_queued_iff.2 ⟨unclosed, rfl⟩)
      exact none_queued ((orderly.mode unclosed).trans switched)
  | flushEnds index resolves =>
      obtain ⟨rejects, holds⟩ := not_or.1 careless
      obtain ⟨operations, found, rfl⟩ := flushEnds_eq_some stepped
      apply holds
      intro taken same
      rw [found] at same
      cases same
      rw [Bool.not_eq_true] at rejects
      have inside := (List.getElem?_eq_some_iff.1 found).1
      refine conserved.resolved ⟨operations, .rejected⟩ ?_ rfl
      rw [rejects]
      exact List.mem_set inside _
  | finalize => exact careless trivial
  | finalized resolves => exact careless trivial
  | closed => exact careless trivial

theorem orderly_initial : initial.Orderly :=
  ⟨fun _ => rfl, rfl, fun _ member => absurd member List.not_mem_nil⟩

/-- Through all of a run operations are queued in batching mode only and none is lost,
exactly when every flush comes in batching mode and resolves. -/
theorem conserved_iff_careful (events : List BatchEvent) :
    Machine.Always step Conserved initial events ↔ Machine.Heeds step Careful initial events :=
  Machine.always_iff_heeds (fun _ orderly => orderly.conserved)
    (fun _ _ _ orderly careful => orderly.step careful)
    (fun _ _ _ orderly careless => orderly.breaks careless) orderly_initial events

/-- A flush of a statement on which batch was never switched on. -/
theorem conservesQueue_flush_fails : ¬ConservesQueue := by
  intro conserves
  have switched := (conserves [.flush] _ rfl).mode rfl
  cases switched

end BatchState
end ParaQL
