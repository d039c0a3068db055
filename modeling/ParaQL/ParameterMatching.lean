/-
From the placeholders of a statement to its bound values, cursor by cursor.

The main thread walks over the placeholders with an index into the `values` array and a
cursor into the positional arguments (`paraql__on_after_parse`).  The worker walks over
the array again, one ahead of its index (`paraql__on_before_bind`).  The strings of the
engine are a parameter: which key a C string names, and what a key reads as in C.
-/

import ParaQL.Occurrences
import ParaQL.ParameterBinding

namespace ParaQL

open Bytes

/-- The first characters of names that `sqlite3_bind_parameter_name` returns. -/
def sigils : List Char := ['?', ':', '@', '$', '#']

structure ParameterName where
  text : String
  sigil : ∃ char ∈ sigils, text.toList.head? = some char

/-- What binding.c relies on of the strings of the engine. -/
structure KeyText (Key : Type) where
  ofUtf8 : String → Key
  toUtf8 : Key → List UInt8
  buffered : Key → List UInt8

def KeyText.plain : KeyText String := { ofUtf8 := id, toUtf8 := cBytes, buffered := cKey }

abbrev NamedObject (Key : Type) := List (Key × JsArgument)

/-- `param_names`, and the two arguments of `binding.bind` after the handle. -/
structure BindRequest (Key : Type) where
  names : List (Option ParameterName)
  named : Option (NamedObject Key)
  positional : List JsArgument

namespace BindRequest

variable {Key : Type} [DecidableEq Key] (keys : KeyText Key) (request : BindRequest Key)

/-- `js_has_named_property` and `js_get_named_property`. -/
def getProperty (object : NamedObject Key) (name : String) : Option JsArgument :=
  match object.lookup (keys.ofUtf8 name) with
  | some argument => some argument
  | none => if name ∈ objectPrototype then some (.record []) else none

/-- The full name is tried first, then `name + 1`. -/
def getNamed (object : NamedObject Key) (name : ParameterName) : Option JsArgument :=
  match getProperty keys object name.text with
  | some argument => some argument
  | none => getProperty keys object (withoutSigil name.text)

/-- The state of the first loop: `req->values`, as far as it is written, and `pos_idx`. -/
structure Cursor where
  values : List (Option BoundValue)
  posIdx : Nat
  deriving DecidableEq, Repr

def bindPlaceholder (cursor : Cursor) (i : Nat) : Except Halt Cursor :=
  match request.names[i]? with
  | none => .ok cursor
  | some none =>
      match request.positional[cursor.posIdx]? with
      | none => .error (cancelBind "Missing positional parameter")
      | some argument => do
          let value ← parseSupported argument
          .ok { values := cursor.values.set i (some value), posIdx := cursor.posIdx + 1 }
  | some (some name) =>
      match request.named with
      | none => .error (cancelBind "Missing named parameters object")
      | some object =>
          match getNamed keys object name with
          | none => .error (cancelBind "Missing named parameter")
          | some argument => do
              let value ← parseSupported argument
              .ok { cursor with values := cursor.values.set i (some value) }

def bindPlaceholders (count : Nat) : Except Halt Cursor :=
  (List.range count).foldlM (request.bindPlaceholder keys)
    { values := List.replicate request.names.length none, posIdx := 0 }

/-- The inner loop over the names: `strcmp(name, key)` and `strcmp(name + 1, key)`. -/
def knownAsRead (key : Key) : Bool :=
  request.names.any fun
    | none => false
    | some name =>
        cBytes name.text == keys.buffered key || (cBytes name.text).tail == keys.buffered key

def unknownKey : Bool :=
  match request.named with
  | none => false
  | some object => object.any fun entry => !request.knownAsRead keys entry.1

/-- `paraql__on_after_parse`, up to the work that it queues for the values. -/
def onAfterParse : Except Halt (List (Option BoundValue)) := do
  let cursor ← request.bindPlaceholders keys request.names.length
  if cursor.posIdx < request.positional.length then
    .error (cancelBind "Too many positional parameters")
  else if request.unknownKey keys then .error (cancelBind "Unknown named parameter")
  else .ok cursor.values

end BindRequest

/-- One call of `sqlite3_bind_*`, with the index of the placeholder. -/
structure BindCall where
  index : Nat
  value : BoundValue
  deriving DecidableEq, Repr

structure BindWork where
  calls : List BindCall
  errcode : Int
  deriving DecidableEq, Repr

def sqliteMisuse : Int := 21

/-- The loop of the worker from `i` on.  It stops at the first call that fails, and has no
result where it reads an entry that was never written. -/
def bindFrom (status : BindCall → Int) (values : List (Option BoundValue)) (i : Nat) :
    Nat → Option BindWork
  | 0 => some { calls := [], errcode := 0 }
  | remaining + 1 =>
      match values[i - 1]? with
      | some (some value) =>
          if status ⟨i, value⟩ ≠ 0 then
            some { calls := [⟨i, value⟩], errcode := status ⟨i, value⟩ }
          else
            (bindFrom status values (i + 1) remaining).map fun work =>
              { work with calls := ⟨i, value⟩ :: work.calls }
      | _ => none

/-- `isOpen` says whether `stmt->handle` is set when the worker gets there. -/
def onBeforeBind (status : BindCall → Int) (isOpen : Bool) (values : List (Option BoundValue)) :
    Option BindWork :=
  if isOpen then bindFrom status values 1 values.length
  else some { calls := [], errcode := sqliteMisuse }

namespace BindRequest

variable {Key : Type} [DecidableEq Key] (keys : KeyText Key) (request : BindRequest Key)

def anonymousBefore (i : Nat) : Nat := Occurrences.rank Option.isNone request.names i

def anonymousCount : Nat := request.names.countP Option.isNone

def argumentAt (i : Nat) : Option JsArgument :=
  match request.names[i]? with
  | none => none
  | some none => request.positional[request.anonymousBefore i]?
  | some (some name) => request.named.bind fun object => getNamed keys object name

/-- The value in the array at `i` stands for the argument of the placeholder. -/
def Holds (values : List (Option BoundValue)) (i : Nat) : Prop :=
  ∃ argument value, request.argumentAt keys i = some argument ∧
    parseSupported argument = .ok value ∧ values[i]? = some (some value)

/-- After `count` rounds of the loop. -/
structure Filled (count : Nat) (cursor : Cursor) : Prop where
  length : cursor.values.length = request.names.length
  posIdx : cursor.posIdx = request.anonymousBefore count
  holds : ∀ i, i < count → request.Holds keys cursor.values i

variable {keys request}

theorem Holds.set {values : List (Option BoundValue)} {i count : Nat}
    (holds : request.Holds keys values i) (earlier : i < count) (value : BoundValue) :
    request.Holds keys (values.set count (some value)) i := by
  obtain ⟨argument, found, isArgument, parsed, stored⟩ := holds
  refine ⟨argument, found, isArgument, parsed, ?_⟩
  rw [List.getElem?_set_ne (by omega)]
  exact stored

theorem Filled.next {count : Nat} {cursor : Cursor} (filled : request.Filled keys count cursor)
    (inside : count < request.names.length) {argument : JsArgument} {value : BoundValue}
    (isArgument : request.argumentAt keys count = some argument)
    (parsed : parseSupported argument = .ok value) {posIdx : Nat}
    (moved : posIdx = request.anonymousBefore (count + 1)) :
    request.Filled keys (count + 1)
      { values := cursor.values.set count (some value), posIdx := posIdx } := by
  constructor
  · rw [List.length_set]
    exact filled.length
  · exact moved
  · intro i below
    by_cases here : i = count
    · subst here
      refine ⟨argument, value, isArgument, parsed, ?_⟩
      rw [List.getElem?_set_self (by rw [filled.length]; exact inside)]
    · exact (filled.holds i (by omega)).set (by omega) value

/-- A round binds its placeholder, or halts the loop when there is nothing to bind. -/
theorem bindPlaceholder_iff {count : Nat} {cursor next : Cursor}
    (filled : request.Filled keys count cursor) (inside : count < request.names.length) :
    request.bindPlaceholder keys cursor count = .ok next ↔
      ∃ argument value, request.argumentAt keys count = some argument ∧
        parseSupported argument = .ok value ∧
        next = { values := cursor.values.set count (some value)
                 posIdx := request.anonymousBefore (count + 1) } := by
  obtain ⟨name, here⟩ : ∃ name, request.names[count]? = some name :=
    ⟨_, List.getElem?_eq_getElem inside⟩
  have advance : request.anonymousBefore (count + 1) =
      request.anonymousBefore count + if name.isNone then 1 else 0 :=
    Occurrences.rank_succ here
  have bindsValue (argument : JsArgument) (posIdx : Nat) :
      (parseSupported argument >>= fun value =>
        (.ok { values := cursor.values.set count (some value), posIdx := posIdx } :
          Except Halt Cursor)) = .ok next ↔
      ∃ found value, some argument = some found ∧ parseSupported found = .ok value ∧
        next = { values := cursor.values.set count (some value), posIdx := posIdx } := by
    rw [bind_eq_ok]
    constructor
    · intro ⟨value, parsed, same⟩
      exact ⟨argument, value, rfl, parsed, (Except.ok.inj same).symm⟩
    · intro ⟨found, value, isArgument, parsed, same⟩
      cases isArgument
      exact ⟨value, parsed, congrArg Except.ok same.symm⟩
  unfold bindPlaceholder argumentAt
  rw [here, advance]
  cases name with
  | none =>
      simp only [Option.isNone_none, if_true, filled.posIdx]
      cases request.positional[request.anonymousBefore count]? with
      | none => simp
      | some argument => exact bindsValue argument _
  | some name =>
      simp only [Option.isNone_some, Bool.false_eq_true, if_false, Nat.add_zero, ← filled.posIdx]
      cases request.named with
      | none => simp
      | some object =>
          simp only [Option.bind_some]
          cases getNamed keys object name with
          | none => simp
          | some argument => exact bindsValue argument _

theorem filled_start : request.Filled keys 0
    { values := List.replicate request.names.length none, posIdx := 0 } := by
  constructor
  · exact List.length_replicate
  · rfl
  · intro i below
    omega

def Bindable (keys : KeyText Key) (request : BindRequest Key) (i : Nat) : Prop :=
  ∃ argument value, request.argumentAt keys i = some argument ∧ parseSupported argument = .ok value

private theorem bindPlaceholders_succ (count : Nat) :
    request.bindPlaceholders keys (count + 1) =
      request.bindPlaceholders keys count >>= fun cursor =>
        request.bindPlaceholder keys cursor count := by
  unfold bindPlaceholders
  rw [List.range_succ, List.foldlM_append]
  simp only [List.foldlM_cons, List.foldlM_nil, bind_pure]

theorem bindPlaceholders_filled {count : Nat} (within : count ≤ request.names.length)
    {cursor : Cursor} (ran : request.bindPlaceholders keys count = .ok cursor) :
    request.Filled keys count cursor := by
  induction count generalizing cursor with
  | zero =>
      cases ran
      exact filled_start
  | succ count ih =>
      rw [bindPlaceholders_succ, bind_eq_ok] at ran
      obtain ⟨before, ranBefore, round⟩ := ran
      have filled := ih (by omega) ranBefore
      obtain ⟨argument, value, isArgument, parsed, rfl⟩ :=
        (bindPlaceholder_iff filled (by omega)).1 round
      exact filled.next (by omega) isArgument parsed rfl

/-- The loop runs through exactly when every placeholder can be bound. -/
theorem bindPlaceholders_ok_iff {count : Nat} (within : count ≤ request.names.length) :
    (∃ cursor, request.bindPlaceholders keys count = .ok cursor) ↔
      ∀ i, i < count → request.Bindable keys i := by
  induction count with
  | zero =>
      constructor
      · intro _ i below
        omega
      · intro _
        exact ⟨_, rfl⟩
  | succ count ih =>
      constructor
      · intro ⟨cursor, ran⟩ i below
        obtain ⟨argument, value, isArgument, parsed, _⟩ :=
          (bindPlaceholders_filled within ran).holds i below
        exact ⟨argument, value, isArgument, parsed⟩
      · intro bindable
        obtain ⟨cursor, ran⟩ := (ih (by omega)).2 fun i below => bindable i (by omega)
        obtain ⟨argument, value, isArgument, parsed⟩ := bindable count (by omega)
        have filled := bindPlaceholders_filled (by omega) ran
        have round := (bindPlaceholder_iff filled (by omega)).2
          ⟨argument, value, isArgument, parsed, rfl⟩
        refine ⟨{ values := cursor.values.set count (some value)
                  posIdx := request.anonymousBefore (count + 1) }, ?_⟩
        rw [bindPlaceholders_succ, ran]
        exact round

/-- Matching goes through exactly when every placeholder can be bound, no positional argument
is left over and every key of the object reads as a name. -/
theorem onAfterParse_ok_iff {values : List (Option BoundValue)} :
    request.onAfterParse keys = .ok values ↔
      ∃ cursor, request.bindPlaceholders keys request.names.length = .ok cursor ∧
        cursor.values = values ∧ request.positional.length ≤ request.anonymousCount ∧
        request.unknownKey keys = false := by
  unfold onAfterParse
  rw [bind_eq_ok]
  have all (cursor : Cursor)
      (ran : request.bindPlaceholders keys request.names.length = .ok cursor) :
      cursor.posIdx = request.anonymousCount :=
    (bindPlaceholders_filled (Nat.le_refl _) ran).posIdx.trans (Occurrences.rank_length _)
  constructor
  · intro ⟨cursor, ran, ends⟩
    rw [all cursor ran] at ends
    split at ends
    · cases ends
    · rename_i enough
      split at ends
      · cases ends
      · rename_i known
        exact ⟨cursor, ran, Except.ok.inj ends, Nat.not_lt.1 enough,
          eq_false_of_ne_true known⟩
  · intro ⟨cursor, ran, same, enough, known⟩
    refine ⟨cursor, ran, ?_⟩
    rw [all cursor ran, if_neg (Nat.not_lt.2 enough), known, same]
    rfl

end BindRequest

namespace BindRequest

/-! ### The same loop over lists -/

variable {request : BindRequest String}

def texts (names : List (Option ParameterName)) : List (Option String) :=
  names.map (Option.map ParameterName.text)

/-- A round takes the next argument, as in the loop over lists. -/
theorem bindPlaceholder_eq {i : Nat} {name : Option ParameterName}
    (here : request.names[i]? = some name) {cursor : Cursor}
    (inside : cursor.posIdx ≤ request.positional.length) :
    request.bindPlaceholder .plain cursor i =
      (do
        let (argument, rest) ← pickArgument request.named (name.map ParameterName.text)
          (request.positional.drop cursor.posIdx)
        let value ← parseSupported argument
        .ok { values := cursor.values.set i (some value)
              posIdx := request.positional.length - rest.length }) := by
  unfold bindPlaceholder
  rw [here]
  cases name with
  | none =>
      cases next : request.positional[cursor.posIdx]? with
      | none =>
          have ended := List.getElem?_eq_none_iff.1 next
          rw [List.drop_eq_nil_of_le ended]
          rfl
      | some argument =>
          obtain ⟨below, found⟩ := List.getElem?_eq_some_iff.1 next
          rw [List.drop_eq_getElem_cons below, found]
          have moved : request.positional.length -
              (request.positional.drop (cursor.posIdx + 1)).length = cursor.posIdx + 1 := by
            rw [List.length_drop]
            omega
          simp only [Option.map_none, pickArgument, bind, Except.bind, moved]
  | some name =>
      have kept : request.positional.length -
          (request.positional.drop cursor.posIdx).length = cursor.posIdx := by
        rw [List.length_drop]
        omega
      cases named : request.named with
      | none => rfl
      | some object =>
          have same : findNamed object name.text = getNamed .plain object name := rfl
          simp only [Option.map_some, pickArgument, same]
          cases getNamed .plain object name with
          | none => rfl
          | some argument => simp only [bind, Except.bind, kept]

private theorem pickArgument_length {named : Option NamedArguments} {name : Option String}
    {positional rest : List JsArgument} {argument : JsArgument}
    (picked : pickArgument named name positional = .ok (argument, rest)) :
    ∃ count, rest = positional.drop count := by
  unfold pickArgument at picked
  split at picked
  · cases picked
  · cases picked
    exact ⟨1, rfl⟩
  · split at picked
    · cases picked
    · split at picked
      · cases picked
        exact ⟨0, rfl⟩
      · cases picked

/-- From any placeholder on, the array is filled with the values of the loop over lists. -/
theorem foldlM_bindPlaceholder (rest : List (Option ParameterName)) :
    ∀ (done : List (Option ParameterName)) (filled : List (Option BoundValue)) (posIdx : Nat),
      request.names = done ++ rest → filled.length = done.length →
      posIdx ≤ request.positional.length →
      (List.range' done.length rest.length).foldlM (request.bindPlaceholder .plain)
          { values := filled ++ List.replicate rest.length none, posIdx := posIdx } =
        (matchParameters request.named (texts rest) (request.positional.drop posIdx)).map
          fun matched =>
            { values := filled ++ matched.1.map some
              posIdx := request.positional.length - matched.2.length } := by
  induction rest with
  | nil =>
      intro done filled posIdx _ _ inside
      have kept : request.positional.length - (request.positional.length - posIdx) = posIdx := by
        omega
      simp only [texts, List.map_nil, matchParameters, Except.map, List.length_drop, kept]
      rfl
  | cons name rest ih =>
      intro done filled posIdx names sameLength inside
      have here : request.names[done.length]? = some name := by
        rw [names, List.getElem?_append_right (Nat.le_refl _), Nat.sub_self]
        rfl
      rw [List.length_cons, List.range'_succ, List.foldlM_cons,
        bindPlaceholder_eq here (by exact inside)]
      unfold texts
      rw [List.map_cons, matchParameters]
      cases picked : pickArgument request.named (name.map ParameterName.text)
          (request.positional.drop posIdx) with
      | error halt => rfl
      | ok result =>
          obtain ⟨argument, left⟩ := result
          obtain ⟨count, suffix⟩ := pickArgument_length picked
          cases parsed : parseSupported argument with
          | error halt => simp only [bind, Except.bind, Except.map, parsed]
          | ok value =>
              have set : (filled ++ List.replicate (rest.length + 1) none).set done.length
                  (some value) = filled ++ [some value] ++ List.replicate rest.length none := by
                rw [← sameLength, List.set_append_right _ _ (Nat.le_refl _), Nat.sub_self]
                simp [List.replicate_succ]
              have remaining : request.positional.drop
                  (request.positional.length - left.length) = left := by
                rw [suffix, List.drop_drop, List.length_drop]
                by_cases beyond : request.positional.length ≤ posIdx + count
                · rw [List.drop_eq_nil_of_le beyond, List.drop_eq_nil_of_le (by omega)]
                · congr 1
                  omega
              have next := ih (done ++ [name]) (filled ++ [some value])
                (request.positional.length - left.length) (by simp [names]) (by simp [sameLength])
                (Nat.sub_le _ _)
              rw [remaining, List.length_append, List.length_singleton] at next
              simp only [bind, Except.bind, parsed, set]
              rw [next]
              unfold texts
              cases matchParameters request.named (rest.map (Option.map ParameterName.text)) left with
              | error halt => rfl
              | ok matched => simp [Except.map]

private theorem unknownKey_eq : request.unknownKey .plain =
    unknownKeys (texts request.names) request.named := by
  have known (key : String) :
      request.knownAsRead .plain key = knownKey (texts request.names) key := by
    unfold knownAsRead knownKey texts
    rw [List.any_map]
    congr 1
    funext name
    cases name <;> rfl
  unfold unknownKey unknownKeys
  cases request.named with
  | none => rfl
  | some object =>
      dsimp only
      congr 1
      funext entry
      rw [known]

private theorem matchParameters_length {named : Option NamedArguments}
    {names : List (Option String)}
    {positional rest : List JsArgument} {values : List BoundValue}
    (matched : matchParameters named names positional = .ok (values, rest)) :
    rest.length ≤ positional.length := by
  induction names generalizing positional values with
  | nil =>
      cases matched
      exact Nat.le_refl _
  | cons name names ih =>
      rw [matchParameters, bind_eq_ok] at matched
      obtain ⟨⟨argument, left⟩, picked, matched⟩ := matched
      obtain ⟨value, _, matched⟩ := bind_eq_ok.1 matched
      obtain ⟨⟨values, rest⟩, matched, same⟩ := bind_eq_ok.1 matched
      cases same
      obtain ⟨count, rfl⟩ := pickArgument_length picked
      have fewer := ih matched
      rw [List.length_drop] at fewer
      omega

/-- With keys that are texts, the two loops come to the same. -/
theorem onAfterParse_eq (request : BindRequest String) : request.onAfterParse .plain =
    (bindParameters (texts request.names) request.named request.positional).map
      (List.map some) := by
  have loop : request.bindPlaceholders .plain request.names.length =
      (matchParameters request.named (texts request.names) request.positional).map fun matched =>
        { values := matched.1.map some
          posIdx := request.positional.length - matched.2.length } := by
    unfold bindPlaceholders
    rw [List.range_eq_range']
    exact foldlM_bindPlaceholder request.names [] [] 0 rfl rfl (Nat.zero_le _)
  unfold onAfterParse bindParameters
  rw [loop, unknownKey_eq]
  cases matched : matchParameters request.named (texts request.names) request.positional with
  | error halt => rfl
  | ok result =>
      obtain ⟨values, rest⟩ := result
      have fewer := matchParameters_length matched
      have leftOver : (request.positional.length - rest.length < request.positional.length) ↔
          (!rest.isEmpty) = true := by
        cases rest with
        | nil => simp
        | cons argument rest =>
            rw [List.length_cons] at fewer ⊢
            simp only [List.isEmpty_cons, Bool.not_false, iff_true]
            omega
      simp only [Except.map, bind, Except.bind, leftOver]
      split
      · rfl
      · split <;> rfl

end BindRequest
end ParaQL
