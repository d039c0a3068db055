/-
A shared statement comes to rest.

Calls that overlap on a statement may get each other's rows.  But every call that has
bound or stepped it resets it at its end: once no call is in progress, nothing is left of
the earlier ones, and a call that then runs by itself gets its own result.
-/

import ParaQL.SharedStatement

namespace ParaQL

open Async Async.Task Relation

variable {δ χ : Type}

def SharedPhase.ended : SharedPhase → Prop
  | .idle => True
  | .finished _ => True
  | _ => False

def SharedPhase.owesReset : SharedPhase → Prop
  | .stepping => True
  | .resetting _ => True
  | _ => False

def SharedPhase.findsCleared : SharedPhase → Prop
  | .matching => True
  | .binding _ => True
  | _ => False

private theorem SharedPhase.not_ended_of_owesReset {phase : SharedPhase} (owes : phase.owesReset) :
    ¬phase.ended := by
  cases phase with
  | stepping => exact id
  | resetting outcome => exact id
  | _ => exact owes.elim

def Shared.alone (id : CallId) (state : Shared δ χ) : Shared δ χ :=
  { state with
    calls := Function.update
      (fun _ => { kind := .get, parameters := .absent, phase := .idle, rows := [], met := [] }) id
      (state.calls id) }

namespace Prepared

variable {prepared : Prepared δ χ}

def Tended (prepared : Prepared δ χ) (state : Shared δ χ) : Prop :=
  state.statement = prepared.cleared ∨ ∃ id, (state.calls id).phase.owesReset

/-- A call that goes on without the statement. -/
theorem Tended.of_call {state : Shared δ χ} (tended : prepared.Tended state) (id : CallId)
    {call : SharedCall δ} (owes : (state.calls id).phase.owesReset → call.phase.owesReset) :
    prepared.Tended (state.setCall id call) := by
  rcases tended with cleared | ⟨other, owing⟩
  · exact Or.inl cleared
  · refine Or.inr ⟨other, ?_⟩
    change (Function.update state.calls id call other).phase.owesReset
    by_cases same : other = id
    · subst same
      rw [Function.update_self]
      exact owes owing
    · rw [Function.update_of_ne same]
      exact owing

private theorem tended_of_owing {state : Shared δ χ} (id : CallId) {call : SharedCall δ}
    (owes : call.phase.owesReset) {after : Shared δ χ}
    (calls : after.calls = Function.update state.calls id call) : prepared.Tended after := by
  refine Or.inr ⟨id, ?_⟩
  rw [calls, Function.update_self]
  exact owes

theorem Tended.step {state after : Shared δ χ} {actor : Option CallId}
    (tended : prepared.Tended state) (step : SharedStep prepared actor state after) :
    prepared.Tended after := by
  cases step with
  | start _ id kind parameters idle =>
      refine tended.of_call id fun owes => ?_
      rw [idle] at owes
      exact owes.elim
  | parse _ id parsing => exact Or.inl rfl
  | matched _ id matching =>
      refine tended.of_call id fun owes => ?_
      rw [matching] at owes
      exact owes.elim
  | bind _ id values binding =>
      refine tended_of_owing id ?_ rfl
      simp only
      split <;> exact trivial
  | step _ id stepping kind =>
      refine tended_of_owing id ?_ rfl
      unfold SharedCall.told
      simp only
      split
      · split <;> exact trivial
      · exact trivial
      · exact trivial
  | run _ id ended database stepping kind runs =>
      refine tended_of_owing id ?_ rfl
      cases ended <;> exact trivial
  | stop _ id stepping kind yielded => exact tended.of_call id fun _ => trivial
  | reset _ id outcome resetting => exact Or.inl rfl
  | elsewhere _ database => exact tended

/-- However calls have overlapped, the statement is reset and without bindings when none is
in progress. -/
theorem cleared_at_rest (database : δ) {state : Shared δ χ}
    (run : ReflTransGen (AnyStep prepared) (Shared.initial prepared database) state)
    (rest : ∀ id, (state.calls id).phase.ended) : state.statement = prepared.cleared := by
  have stable : Stable (AnyStep prepared) prepared.Tended := by
    rintro before after ⟨actor, step⟩ tended
    exact tended.step step
  rcases stable.moves run (Or.inl rfl) with cleared | ⟨id, owing⟩
  · exact cleared
  · exact absurd (rest id) (SharedPhase.not_ended_of_owesReset owing)

/-! ### A call by itself -/

def OwnStep (prepared : Prepared δ χ) (id : CallId) (before after : Shared δ χ) : Prop :=
  ∃ actor, SharedStep prepared actor before after ∧ (actor = some id ∨ actor = none)

section Alone

variable {id : CallId} {state after : Shared δ χ}

private theorem own_actor {id other : CallId} (own : some other = some id ∨ some other = none) :
    other = id := by
  rcases own with same | absent
  · exact Option.some.inj same
  · cases absent

private theorem alone_calls (id : CallId) (state : Shared δ χ) :
    (state.alone id).calls id = state.calls id := by
  simp only [Shared.alone, Function.update_self]

private theorem alone_setCall (id : CallId) (state : Shared δ χ) (call : SharedCall δ) :
    (state.setCall id call).alone id = (state.alone id).setCall id call := by
  simp only [Shared.alone, Shared.setCall, Function.update_self, Function.update_idem]

/-- Calls that stay as they are do not matter. -/
theorem OwnStep.alone (step : OwnStep prepared id state after) :
    OwnStep prepared id (state.alone id) (after.alone id) := by
  obtain ⟨actor, step, own⟩ := step
  refine ⟨actor, ?_, own⟩
  cases step with
  | elsewhere _ database => exact .elsewhere (state.alone id) database
  | start _ other kind parameters idle =>
      obtain rfl := own_actor own
      rw [alone_setCall]
      exact .start _ other kind parameters (alone_calls other state ▸ idle)
  | parse _ other parsing =>
      obtain rfl := own_actor own
      have step : SharedStep prepared (some other) _ _ := .parse (state.alone other) other
        (alone_calls other state ▸ parsing)
      rw [alone_calls, ← alone_setCall] at step
      exact step
  | matched _ other matching =>
      obtain rfl := own_actor own
      have step : SharedStep prepared (some other) _ _ := .matched (state.alone other) other
        (alone_calls other state ▸ matching)
      rw [alone_calls, ← alone_setCall] at step
      exact step
  | bind _ other values binding =>
      obtain rfl := own_actor own
      have step : SharedStep prepared (some other) _ _ := .bind (state.alone other) other values
        (alone_calls other state ▸ binding)
      rw [alone_calls, ← alone_setCall] at step
      exact step
  | step _ other stepping kind =>
      obtain rfl := own_actor own
      have step : SharedStep prepared (some other) _ _ := .step (state.alone other) other
        (alone_calls other state ▸ stepping) (alone_calls other state ▸ kind)
      rw [alone_calls, ← alone_setCall] at step
      exact step
  | run _ other ended database stepping kind runs =>
      obtain rfl := own_actor own
      have step : SharedStep prepared (some other) _ _ := .run (state.alone other) other ended
        database (alone_calls other state ▸ stepping) (alone_calls other state ▸ kind) runs
      rw [alone_calls, ← alone_setCall] at step
      exact step
  | stop _ other stepping kind yielded =>
      obtain rfl := own_actor own
      have step : SharedStep prepared (some other) _ _ := .stop (state.alone other) other
        (alone_calls other state ▸ stepping) (alone_calls other state ▸ kind)
        (alone_calls other state ▸ yielded)
      rw [alone_calls, ← alone_setCall] at step
      exact step
  | reset _ other outcome resetting =>
      obtain rfl := own_actor own
      have step : SharedStep prepared (some other) _ _ := .reset (state.alone other) other outcome
        (alone_calls other state ▸ resetting)
      rw [alone_calls, ← alone_setCall] at step
      exact step

private theorem elsewhere_statement (step : SharedStep prepared none state after) :
    after.statement = state.statement := by
  cases step
  rfl

structure ByItself (prepared : Prepared δ χ) (id : CallId) (state : Shared δ χ) : Prop where
  sound : prepared.SharedSound (state.alone id)
  tended : prepared.Tended (state.alone id)
  cleared : (state.calls id).phase.findsCleared → state.statement = prepared.cleared

theorem ByItself.undisturbed (byItself : prepared.ByItself id state) {actor : Option CallId}
    (step : SharedStep prepared actor (state.alone id) (after.alone id))
    (own : actor = some id ∨ actor = none) :
    Undisturbed actor (state.alone id) (after.alone id) := by
  refine ⟨fun other different underway => ?_, fun other acts binding cursor running => ?_⟩
  · by_cases same : other = id
    · obtain rfl := own.resolve_left (fun acts => different (same ▸ acts))
      exact elsewhere_statement step
    · have idle : ((state.alone id).calls other).phase = .idle := by
        simp only [Shared.alone, Function.update_of_ne same]
      rw [SharedCall.Underway, idle] at underway
      cases underway
  · rcases own with isOwn | absent
    · obtain rfl : id = other := Option.some.inj (isOwn.symm.trans acts)
      rw [alone_calls] at binding
      have rests : state.statement = prepared.cleared := by
        apply byItself.cleared
        rw [binding]
        exact trivial
      change state.statement.execution = .running cursor at running
      rw [rests] at running
      cases running
    · cases absent.symm.trans acts

theorem OwnStep.cleared (step : OwnStep prepared id state after)
    (cleared : (state.calls id).phase.findsCleared → state.statement = prepared.cleared) :
    (after.calls id).phase.findsCleared → after.statement = prepared.cleared := by
  have onUpdate {call : SharedCall δ} {statement : Statement χ}
      (own : call.phase.findsCleared → statement = prepared.cleared) :
      (Function.update state.calls id call id).phase.findsCleared →
        statement = prepared.cleared := by
    rw [Function.update_self]
    exact own
  obtain ⟨actor, step, own⟩ := step
  cases step with
  | elsewhere _ database => exact cleared
  | start _ other kind parameters idle =>
      obtain rfl := own_actor own
      refine onUpdate fun finds => ?_
      unfold SharedCall.started at finds
      cases positional : parameters.positional <;> rw [positional] at finds <;> exact finds.elim
  | parse _ other parsing => exact fun _ => rfl
  | matched _ other matching =>
      obtain rfl := own_actor own
      refine onUpdate fun _ => cleared ?_
      rw [matching]
      exact trivial
  | bind _ other values binding =>
      obtain rfl := own_actor own
      refine onUpdate fun finds => ?_
      simp only at finds
      split at finds <;> exact finds.elim
  | step _ other stepping kind =>
      obtain rfl := own_actor own
      refine onUpdate fun finds => ?_
      simp only [SharedCall.told] at finds
      split at finds
      · split at finds <;> exact finds.elim
      · exact finds.elim
      · exact finds.elim
  | run _ other ended database stepping kind runs =>
      obtain rfl := own_actor own
      refine onUpdate fun finds => ?_
      cases ended <;> exact finds.elim
  | stop _ other stepping kind yielded =>
      obtain rfl := own_actor own
      exact onUpdate fun finds => finds.elim
  | reset _ other outcome resetting => exact fun _ => rfl

theorem ByItself.step (byItself : prepared.ByItself id state)
    (step : OwnStep prepared id state after) : prepared.ByItself id after := by
  obtain ⟨actor, alone, own⟩ := OwnStep.alone step
  exact ⟨byItself.sound.step alone (byItself.undisturbed alone own), byItself.tended.step alone,
    OwnStep.cleared step byItself.cleared⟩

/-- Nothing is left in the statement once the call has ended. -/
theorem ByItself.rests (byItself : prepared.ByItself id state)
    (ended : (state.calls id).phase.ended) : state.statement = prepared.cleared := by
  rcases byItself.tended with cleared | ⟨other, owing⟩
  · exact cleared
  · by_cases same : other = id
    · subst same
      rw [alone_calls] at owing
      exact absurd ended (SharedPhase.not_ended_of_owesReset owing)
    · simp only [Shared.alone, Function.update_of_ne same] at owing
      exact owing.elim

end Alone

/-- A call that starts when no call is in progress, and that no other joins, gets its own
result and leaves the statement at rest, whatever earlier calls have done to each other. -/
theorem isolated_by_itself (prepared : Prepared δ χ) (database : δ) (middle state : Shared δ χ)
    (earlier : ReflTransGen (AnyStep prepared) (Shared.initial prepared database) middle)
    (rest : ∀ id, (middle.calls id).phase.ended) (id : CallId)
    (idle : (middle.calls id).phase = .idle)
    (alone : ReflTransGen (OwnStep prepared id) middle state) :
    prepared.Isolated (state.calls id) ∧
      ((state.calls id).phase.ended → state.statement = prepared.cleared) := by
  have begins : prepared.ByItself id middle := by
    have atRest := cleared_at_rest database earlier rest
    refine ⟨⟨?_, fun other => ?_⟩, Or.inl atRest, fun _ => atRest⟩
    · change middle.statement.bound.length = prepared.parameterCount
      rw [atRest]
      exact bound_cleared
    · have isIdle : ((middle.alone id).calls other).phase = .idle := by
        by_cases same : other = id
        · subst same
          rw [alone_calls]
          exact idle
        · simp only [Shared.alone, Function.update_of_ne same]
      refine ⟨?_, ?_, ?_, ?_⟩ <;> simp [isIdle, SharedCall.Underway]
  have stable : Stable (OwnStep prepared id) (prepared.ByItself id) :=
    fun _ _ step byItself => byItself.step step
  have ends := stable.moves alone begins
  refine ⟨fun delivered finished => ?_, ends.rests⟩
  rw [← alone_calls id state] at finished ⊢
  exact (ends.sound.calls id).pays delivered (Or.inr finished)

/-- Two calls of `get` that spoil each other, and a third one after them. -/
theorem isolated_by_itself_afterOverlap : ∃ state : Shared Unit (List SqlValue × Bool),
    ¬echo.Isolated (state.calls 0) ∧ echo.Isolated (state.calls 2) ∧
      (state.calls 2).phase = .finished (.ok (.row (some [("?", .integer 3)]))) := by
  have overlap : ReflTransGen (AnyStep echo) (Shared.initial echo ()) _ :=
    ReflTransGen.refl
      |>.tail ⟨_, .start _ 0 .get ⟨.null, .list [.integer 1]⟩ rfl⟩
      |>.tail ⟨_, .start _ 1 .get ⟨.null, .list [.integer 2]⟩ rfl⟩
      |>.tail ⟨_, .parse _ 0 rfl⟩
      |>.tail ⟨_, .parse _ 1 rfl⟩
      |>.tail ⟨_, .matched _ 0 rfl⟩
      |>.tail ⟨_, .matched _ 1 rfl⟩
      |>.tail ⟨_, .bind _ 0 [.integer 1] rfl⟩
      |>.tail ⟨_, .bind _ 1 [.integer 2] rfl⟩
      |>.tail ⟨_, .step _ 0 rfl (by decide)⟩
      |>.tail ⟨_, .reset _ 0 (.ok (.row (some [("?", .integer 2)]))) rfl⟩
      |>.tail ⟨_, .step _ 1 rfl (by decide)⟩
      |>.tail ⟨_, .reset _ 1 (.ok (.row (some [("?", .null)]))) rfl⟩
  have owed := isolated_by_itself echo () _ _ overlap
    (by
      intro id
      rcases id with _ | _ | id
      · exact trivial
      · exact trivial
      · exact trivial) 2 rfl
    (ReflTransGen.refl
      |>.tail ⟨_, .start _ 2 .get ⟨.null, .list [.integer 3]⟩ rfl, Or.inl rfl⟩
      |>.tail ⟨_, .parse _ 2 rfl, Or.inl rfl⟩
      |>.tail ⟨_, .matched _ 2 rfl, Or.inl rfl⟩
      |>.tail ⟨_, .bind _ 2 [.integer 3] rfl, Or.inl rfl⟩
      |>.tail ⟨_, .step _ 2 rfl (by decide), Or.inl rfl⟩
      |>.tail ⟨_, .reset _ 2 (.ok (.row (some [("?", .integer 3)]))) rfl, Or.inl rfl⟩)
  refine ⟨_, ?_, owed.1, rfl⟩
  intro isolated
  obtain ⟨values, own, owes⟩ := isolated (.row (some [("?", .integer 2)])) rfl
  cases own
  have wrong : echo.reports (echo.begin [.integer 1]) [()] = [.row [("?", .integer 2)]] := owes
  revert wrong
  decide

end Prepared
end ParaQL
