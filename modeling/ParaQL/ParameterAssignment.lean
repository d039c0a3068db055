/-
Which value SQLite gets for which placeholder.

Whenever `paraql__on_after_parse` lets a request through, the worker binds every
placeholder once, in order, each with the value of its own argument.
-/

import ParaQL.ParameterMatching

namespace ParaQL

open Bytes

namespace BindRequest

variable {Key : Type} [DecidableEq Key] (keys : KeyText Key) (request : BindRequest Key)

/-- The calls bind every placeholder once.  The k-th anonymous one gets the k-th positional
argument, a named one the property of its full name or else of its name without the sigil. -/
structure AssignsSoundly (calls : List BindCall) : Prop where
  once : calls.map BindCall.index = List.range' 1 request.names.length
  anonymous : ∀ i value, request.names[i]? = some none → ⟨i + 1, value⟩ ∈ calls →
    ∃ argument, request.positional[request.anonymousBefore i]? = some argument ∧
      parseSupported argument = .ok value
  named : ∀ i name value, request.names[i]? = some (some name) → ⟨i + 1, value⟩ ∈ calls →
    ∃ object argument, request.named = some object ∧ parseSupported argument = .ok value ∧
      (getProperty keys object name.text = some argument ∨
        getProperty keys object name.text = none ∧
          getProperty keys object (withoutSigil name.text) = some argument)
  used : ∀ k, k < request.positional.length →
    ∃! i, Occurrences.HasRank Option.isNone request.names k i

def entryFor (values : List (Option BoundValue)) (index : Nat) : BoundValue :=
  (values[index - 1]?.getD none).getD .null

def callsFrom (values : List (Option BoundValue)) (index count : Nat) : List BindCall :=
  (List.range' index count).map fun i => ⟨i, entryFor values i⟩

private theorem callsFrom_succ (values : List (Option BoundValue)) (index count : Nat) :
    callsFrom values index (count + 1) =
      ⟨index, entryFor values index⟩ :: callsFrom values (index + 1) count := by
  unfold callsFrom
  rw [List.range'_succ, List.map_cons]

/-- The loop of the worker over an array that is written everywhere. -/
theorem bindFrom_calls (status : BindCall → Int) {values : List (Option BoundValue)}
    (written : ∀ i, i < values.length → ∃ value, values[i]? = some (some value))
    (index count : Nat) (positive : 0 < index) (within : index - 1 + count ≤ values.length) :
    ∃ work, bindFrom status values index count = some work ∧
      work.calls <+: callsFrom values index count ∧
      (work.errcode = 0 → work.calls = callsFrom values index count) ∧
      ((∀ call ∈ callsFrom values index count, status call = 0) → work.errcode = 0) := by
  induction count generalizing index with
  | zero => exact ⟨⟨[], 0⟩, rfl, List.nil_prefix, fun _ => rfl, fun _ => rfl⟩
  | succ count ih =>
      obtain ⟨value, entry⟩ := written (index - 1) (by omega)
      have here : entryFor values index = value := by
        unfold entryFor
        rw [entry]
        rfl
      rw [callsFrom_succ, here, bindFrom, entry]
      dsimp only
      by_cases fails : status ⟨index, value⟩ ≠ 0
      · refine ⟨⟨[⟨index, value⟩], status ⟨index, value⟩⟩, if_pos fails, ?_, ?_, ?_⟩
        · exact List.cons_prefix_cons.2 ⟨rfl, List.nil_prefix⟩
        · intro succeeded
          exact absurd succeeded fails
        · intro accepted
          exact accepted _ List.mem_cons_self
      · obtain ⟨work, ran, begins, whole, accepted⟩ := ih (index + 1) (by omega) (by omega)
        refine ⟨{ work with calls := ⟨index, value⟩ :: work.calls }, ?_, ?_, ?_, ?_⟩
        · rw [if_neg fails, ran]
          rfl
        · exact List.cons_prefix_cons.2 ⟨rfl, begins⟩
        · intro succeeded
          exact congrArg (List.cons _) (whole succeeded)
        · intro all
          exact accepted fun call member => all call (List.mem_cons_of_mem _ member)

variable {keys request}

theorem Filled.written {cursor : Cursor}
    (filled : request.Filled keys request.names.length cursor) (i : Nat)
    (inside : i < cursor.values.length) : ∃ value, cursor.values[i]? = some (some value) := by
  rw [filled.length] at inside
  obtain ⟨argument, value, _, _, stored⟩ := filled.holds i inside
  exact ⟨value, stored⟩

/-- What the entry that a placeholder reads stands for. -/
theorem Filled.entry {cursor : Cursor}
    (filled : request.Filled keys request.names.length cursor) {i : Nat} {value : BoundValue}
    (called : ⟨i + 1, value⟩ ∈ callsFrom cursor.values 1 request.names.length) :
    ∃ argument, request.argumentAt keys i = some argument ∧ parseSupported argument = .ok value := by
  obtain ⟨index, ranged, same⟩ := List.mem_map.1 called
  cases same
  have inside := (List.mem_range'_1.1 ranged).2
  obtain ⟨argument, value, isArgument, parsed, stored⟩ := filled.holds i (by omega)
  refine ⟨argument, isArgument, ?_⟩
  rw [parsed, entryFor, Nat.add_sub_cancel, stored]
  rfl

private theorem Filled.assigns {cursor : Cursor}
    (filled : request.Filled keys request.names.length cursor)
    (enough : request.positional.length ≤ request.anonymousCount) :
    request.AssignsSoundly keys (callsFrom cursor.values 1 request.names.length) := by
  constructor
  · unfold callsFrom
    rw [List.map_map]
    exact List.map_id _
  · intro i value here called
    obtain ⟨argument, isArgument, parsed⟩ := filled.entry called
    rw [argumentAt, here] at isArgument
    exact ⟨argument, isArgument, parsed⟩
  · intro i name value here called
    obtain ⟨argument, isArgument, parsed⟩ := filled.entry called
    rw [argumentAt, here] at isArgument
    obtain ⟨object, named, found⟩ := Option.bind_eq_some_iff.1 isArgument
    refine ⟨object, argument, named, parsed, ?_⟩
    unfold getNamed at found
    cases full : getProperty keys object name.text with
    | some first =>
        rw [full] at found
        exact Or.inl found
    | none =>
        rw [full] at found
        exact Or.inr ⟨rfl, found⟩
  · intro k below
    exact Occurrences.existsUnique_hasRank (Nat.lt_of_lt_of_le below enough)

/-- Whenever matching is not cancelled, the worker makes these calls in order.  It stops
early only when SQLite refuses a value or the statement is finalized before it gets there,
and then the request is rejected. -/
theorem assigns_soundly (keys : KeyText Key) (request : BindRequest Key)
    {values : List (Option BoundValue)} (matched : request.onAfterParse keys = .ok values)
    (status : BindCall → Int) (isOpen : Bool) :
    ∃ calls work, request.AssignsSoundly keys calls ∧
      onBeforeBind status isOpen values = some work ∧ work.calls <+: calls ∧
      (work.errcode = 0 → work.calls = calls) ∧
      (isOpen = true → (∀ call ∈ calls, status call = 0) → work.errcode = 0) := by
  obtain ⟨cursor, ran, rfl, enough, _⟩ := onAfterParse_ok_iff.1 matched
  have filled := bindPlaceholders_filled (Nat.le_refl _) ran
  have assigns := filled.assigns enough
  cases isOpen with
  | false =>
      refine ⟨_, ⟨[], sqliteMisuse⟩, assigns, rfl, List.nil_prefix, ?_, ?_⟩
      · intro succeeded
        cases succeeded
      · intro closed
        cases closed
  | true =>
      obtain ⟨work, ranWork, begins, whole, accepted⟩ := bindFrom_calls status filled.written
        1 cursor.values.length (by omega) (by omega)
      rw [filled.length] at begins whole accepted ranWork
      refine ⟨_, work, assigns, ?_, begins, whole, fun _ => accepted⟩
      rw [onBeforeBind, if_pos rfl, filled.length]
      exact ranWork

/-- `SELECT ?, :a, ?, $b` with two positional values and two properties. -/
def mixed : BindRequest String :=
  { names := [none, some ⟨":a", ':', by decide, rfl⟩, none, some ⟨"$b", '$', by decide, rfl⟩]
    named := some [("b", .value (.string "y")), (":a", .value (.string "x"))]
    positional := [.value (.string "p"), .value .null] }

private theorem mixed_matches : mixed.onAfterParse .plain =
    .ok [some (.text "p"), some (.text "x"), some .null, some (.text "y")] := by
  decide

theorem assigns_soundly_mixed :
    ∃ calls work, mixed.AssignsSoundly .plain calls ∧
      onBeforeBind (fun _ => 0) true
        [some (.text "p"), some (.text "x"), some .null, some (.text "y")] = some work ∧
      work.calls <+: calls ∧ (work.errcode = 0 → work.calls = calls) ∧
      (true = true → (∀ call ∈ calls, (fun _ : BindCall => (0 : Int)) call = 0) →
        work.errcode = 0) :=
  assigns_soundly .plain mixed mixed_matches (fun _ => 0) true

end BindRequest
end ParaQL
