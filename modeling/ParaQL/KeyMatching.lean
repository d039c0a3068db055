/-
Which requests `paraql__on_after_parse` accepts.

The placeholders are looked up in the object by their whole names.  The keys of the object
are compared with the names as C strings, in a buffer of 256 bytes: a longer key is cut
off, and one with a NUL ends there.
-/

import ParaQL.ParameterAssignment
import Mathlib.Data.List.TakeWhile

namespace ParaQL

open Bytes

private theorem cBytes_injective {left right : String} (same : cBytes left = cBytes right) :
    left = right := by
  have bytes : left.toUTF8 = right.toUTF8 := ByteArray.ext (Array.toList_inj.1 same)
  exact String.toByteArray_inj.1 bytes

private theorem cBytes_cons (char : Char) (chars : List Char) :
    cBytes (String.ofList (char :: chars)) =
      String.utf8EncodeChar char ++ cBytes (String.ofList chars) := by
  unfold cBytes
  rw [String.toUTF8, String.toByteArray_ofList, List.utf8Encode_cons, List.utf8Encode_singleton,
    ByteArray.data_append, Array.toList_append, List.data_toByteArray, String.toUTF8,
    String.toByteArray_ofList]

/-- Text that fits is stored whole. -/
theorem storedUtf8_of_fits (room : Nat) (chars : List Char)
    (fits : (cBytes (String.ofList chars)).length ≤ room) :
    storedUtf8 room chars = cBytes (String.ofList chars) := by
  induction chars generalizing room with
  | nil => rfl
  | cons char chars ih =>
      rw [cBytes_cons, List.length_append] at fits
      rw [storedUtf8, if_pos (by omega), cBytes_cons, ih _ (by omega)]

/-- A sigil is one byte, so that `name + 1` is the name without it. -/
theorem tail_cBytes (name : ParameterName) :
    (cBytes name.text).tail = cBytes (withoutSigil name.text) := by
  obtain ⟨char, isSigil, first⟩ := name.sigil
  have oneByte : sigils.all fun char => (String.utf8EncodeChar char).tail.isEmpty := by decide
  have single := List.isEmpty_iff.1 (List.all_eq_true.1 oneByte char isSigil)
  obtain ⟨chars, split⟩ := List.head?_eq_some_iff.1 first
  have text : name.text = String.ofList (char :: chars) := by
    rw [← split, String.ofList_toList]
  rw [withoutSigil, split, List.tail_cons, text, cBytes_cons,
    List.tail_append_of_ne_nil String.utf8EncodeChar_ne_nil, single, List.nil_append]

/-- What the names have in common with a key that is text, fits and has no NUL. -/
structure KeyText.Lawful {Key : Type} (keys : KeyText Key) : Prop where
  roundTrip : ∀ text, keys.toUtf8 (keys.ofUtf8 text) = cBytes text
  buffered : ∀ key, (keys.toUtf8 key).length < 256 →
    keys.buffered key = (keys.toUtf8 key).takeWhile (· ≠ 0)

private theorem KeyText.plain_lawful : KeyText.plain.Lawful := by
  constructor
  · intro text
    rfl
  · intro key fits
    have whole := storedUtf8_of_fits 255 key.toList
    rw [String.ofList_toList] at whole
    change (storedUtf8 255 key.toList).takeWhile (· ≠ 0) = _
    rw [whole (Nat.le_of_lt_succ fits)]
    rfl

namespace BindRequest

variable {Key : Type} [DecidableEq Key] (keys : KeyText Key) (request : BindRequest Key)

def Accepts : Prop := ∃ values, request.onAfterParse keys = .ok values

structure SupportedValues : Prop where
  positional : ∀ argument ∈ request.positional, ∃ value, parseSupported argument = .ok value
  named : ∀ object, request.named = some object → ∀ entry ∈ object,
    ∃ value, parseSupported entry.2 = .ok value

def HasProperty (object : NamedObject Key) (key : Key) : Prop := ∃ entry ∈ object, entry.1 = key

def Names (name : ParameterName) (key : Key) : Prop :=
  key = keys.ofUtf8 name.text ∨ key = keys.ofUtf8 (withoutSigil name.text)

structure Covers : Prop where
  count : request.positional.length = request.anonymousCount
  named : ∀ name, some name ∈ request.names → ∃ object, request.named = some object ∧
    ∃ key, Names keys name key ∧ HasProperty object key

def IsName (key : Key) : Prop := ∃ name, some name ∈ request.names ∧ Names keys name key

/-- The buffer begins with the name of a placeholder and a NUL, whatever the key goes on with. -/
def BeginsAsName (key : Key) : Prop :=
  ∃ name, some name ∈ request.names ∧
    (keys.buffered key = cBytes name.text ∨ keys.buffered key = cBytes (withoutSigil name.text))

/-- The key is a text that fits into the buffer and has no NUL. -/
def PlainKey (key : Key) : Prop :=
  ∃ text, key = keys.ofUtf8 text ∧ (cBytes text).length < 256 ∧ 0 ∉ cBytes text

def EveryKey (kind property : Key → Prop) : Prop :=
  ∀ object, request.named = some object → ∀ entry ∈ object, kind entry.1 → property entry.1

def Fits : Prop := request.Covers keys ∧ request.EveryKey (fun _ => True) (request.IsName keys)

variable {keys request}

/-! ### Placeholders -/

private theorem full_not_inherited (name : ParameterName) : name.text ∉ objectPrototype := by
  intro inherited
  obtain ⟨char, isSigil, first⟩ := name.sigil
  have letters : objectPrototype.all fun text =>
      sigils.all fun char => text.toList.head? != some char := by
    decide
  have differs := List.all_eq_true.1 (List.all_eq_true.1 letters name.text inherited) char isSigil
  exact absurd first (bne_iff_ne.1 differs)

private theorem lookup_isSome_iff (object : NamedObject Key) (key : Key) :
    (object.lookup key).isSome ↔ HasProperty object key := by
  unfold HasProperty
  induction object with
  | nil => simp
  | cons entry object ih =>
      rw [List.lookup_cons]
      by_cases here : key = entry.1
      · subst here
        simp
      · have differs : (key == entry.1) = false := beq_eq_false_iff_ne.2 here
        rw [differs]
        simp [ih, Ne.symm here]

private theorem lookup_supported (supported : request.SupportedValues) {object : NamedObject Key}
    (named : request.named = some object) {key : Key} {argument : JsArgument}
    (found : object.lookup key = some argument) : ∃ value, parseSupported argument = .ok value := by
  obtain ⟨before, after, same, _⟩ := List.lookup_eq_some_iff.1 found
  exact supported.named object named (key, argument) (by rw [same]; simp)

/-- A named placeholder finds a value that can be bound among the own properties only. -/
theorem getNamed_iff (supported : request.SupportedValues) {object : NamedObject Key}
    (named : request.named = some object) (name : ParameterName) :
    (∃ argument value, getNamed keys object name = some argument ∧
        parseSupported argument = .ok value) ↔
      ∃ key, Names keys name key ∧ HasProperty object key := by
  have inherited (value : BoundValue) : parseSupported (.record []) ≠ .ok value := by
    intro parsed
    cases parsed
  have own (key : Key) : HasProperty object key ↔
      ∃ argument value, object.lookup key = some argument ∧ parseSupported argument = .ok value := by
    rw [← lookup_isSome_iff, Option.isSome_iff_exists]
    constructor
    · intro ⟨argument, found⟩
      obtain ⟨value, parsed⟩ := lookup_supported supported named found
      exact ⟨argument, value, found, parsed⟩
    · intro ⟨argument, _, found, _⟩
      exact ⟨argument, found⟩
  unfold getNamed getProperty
  rw [if_neg (full_not_inherited name)]
  constructor
  · intro ⟨argument, value, found, parsed⟩
    cases full : object.lookup (keys.ofUtf8 name.text) with
    | some first =>
        exact ⟨_, Or.inl rfl, (lookup_isSome_iff _ _).1 (by rw [full]; rfl)⟩
    | none =>
        rw [full] at found
        cases short : object.lookup (keys.ofUtf8 (withoutSigil name.text)) with
        | some second =>
            exact ⟨_, Or.inr rfl, (lookup_isSome_iff _ _).1 (by rw [short]; rfl)⟩
        | none =>
            simp only [short] at found
            split at found
            · cases found
              exact absurd parsed (inherited value)
            · cases found
  · intro ⟨key, names, has⟩
    obtain ⟨argument, value, found, parsed⟩ := (own key).1 has
    cases full : object.lookup (keys.ofUtf8 name.text) with
    | some first =>
        obtain ⟨value, parsed⟩ := lookup_supported supported named full
        exact ⟨first, value, rfl, parsed⟩
    | none =>
        rcases names with rfl | rfl
        · rw [full] at found
          cases found
        · rw [found]
          exact ⟨argument, value, rfl, parsed⟩

/-- With supported values, what a placeholder lacks is an argument. -/
theorem bindable_iff (supported : request.SupportedValues) {i : Nat}
    {name : Option ParameterName} (here : request.names[i]? = some name) :
    request.Bindable keys i ↔
      (name = none → request.anonymousBefore i < request.positional.length) ∧
      ∀ text, name = some text → ∃ object, request.named = some object ∧
        ∃ key, Names keys text key ∧ HasProperty object key := by
  unfold Bindable argumentAt
  rw [here]
  cases name with
  | none =>
      constructor
      · intro ⟨argument, _, found, _⟩
        obtain ⟨below, _⟩ := List.getElem?_eq_some_iff.1 found
        exact ⟨fun _ => below, nofun⟩
      · intro ⟨below, _⟩
        have found := List.getElem?_eq_getElem (below rfl)
        obtain ⟨value, parsed⟩ := supported.positional _ (List.getElem_mem (below rfl))
        exact ⟨_, value, found, parsed⟩
  | some text =>
      constructor
      · intro ⟨argument, value, found, parsed⟩
        refine ⟨nofun, fun other same => ?_⟩
        cases same
        obtain ⟨object, named, isNamed⟩ := Option.bind_eq_some_iff.1 found
        exact ⟨object, named, (getNamed_iff supported named text).1
          ⟨argument, value, isNamed, parsed⟩⟩
      · intro ⟨_, has⟩
        obtain ⟨object, named, key, names, property⟩ := has text rfl
        obtain ⟨argument, value, found, parsed⟩ :=
          (getNamed_iff supported named text).2 ⟨key, names, property⟩
        exact ⟨argument, value, Option.bind_eq_some_iff.2 ⟨object, named, found⟩, parsed⟩

private theorem covers_iff (supported : request.SupportedValues) :
    request.Covers keys ↔ (∀ i, i < request.names.length → request.Bindable keys i) ∧
      request.positional.length ≤ request.anonymousCount := by
  constructor
  · intro covers
    refine ⟨fun i inside => ?_, Nat.le_of_eq covers.count⟩
    have here := List.getElem?_eq_getElem inside
    apply (bindable_iff supported here).2
    constructor
    · intro isNone
      rw [covers.count]
      exact Occurrences.rank_lt_count here (by rw [isNone]; rfl)
    · intro text isText
      exact covers.named text (isText ▸ List.getElem_mem inside)
  · intro ⟨bindable, enough⟩
    constructor
    · apply Nat.le_antisymm enough
      apply Occurrences.count_le_of_rank_lt
      intro i name here isNone
      have inside := (List.getElem?_eq_some_iff.1 here).1
      exact ((bindable_iff supported here).1 (bindable i inside)).1
        (Option.isNone_iff_eq_none.1 isNone)
    · intro name member
      obtain ⟨i, inside, here⟩ := List.getElem_of_mem member
      have found : request.names[i]? = some (some name) := by
        rw [List.getElem?_eq_getElem inside, here]
      exact ((bindable_iff supported found).1 (bindable i inside)).2 name rfl

omit [DecidableEq Key] in
private theorem knownAsRead_iff (key : Key) :
    request.knownAsRead keys key = true ↔ request.BeginsAsName keys key := by
  unfold knownAsRead BeginsAsName
  rw [List.any_eq_true]
  constructor
  · intro ⟨name, member, equal⟩
    cases name with
    | none => cases equal
    | some name =>
        rw [Bool.or_eq_true, beq_iff_eq, beq_iff_eq, tail_cBytes] at equal
        exact ⟨name, member, equal.imp Eq.symm Eq.symm⟩
  · intro ⟨name, member, begins⟩
    refine ⟨some name, member, ?_⟩
    rw [Bool.or_eq_true, beq_iff_eq, beq_iff_eq, tail_cBytes]
    exact begins.imp Eq.symm Eq.symm

omit [DecidableEq Key] in
private theorem unknownKey_iff : request.unknownKey keys = false ↔
    request.EveryKey (fun _ => True) (request.BeginsAsName keys) := by
  unfold unknownKey EveryKey
  cases request.named with
  | none => simp
  | some object => simp [knownAsRead_iff]

/-- With supported values, requests are accepted by placeholders and by what the keys begin
with. -/
theorem accepts_iff (supported : request.SupportedValues) :
    request.Accepts keys ↔
      request.Covers keys ∧ request.EveryKey (fun _ => True) (request.BeginsAsName keys) := by
  rw [covers_iff supported, ← unknownKey_iff, ← bindPlaceholders_ok_iff (Nat.le_refl _)]
  unfold Accepts
  constructor
  · intro ⟨values, matched⟩
    obtain ⟨cursor, ran, _, enough, known⟩ := onAfterParse_ok_iff.1 matched
    exact ⟨⟨⟨cursor, ran⟩, enough⟩, known⟩
  · intro ⟨⟨⟨cursor, ran⟩, enough⟩, known⟩
    exact ⟨cursor.values, onAfterParse_ok_iff.2 ⟨cursor, ran, rfl, enough, known⟩⟩

omit [DecidableEq Key] in
/-- A plain key begins with a name only if it is one. -/
theorem beginsAsName_iff_of_plain (lawful : keys.Lawful) {key : Key}
    (plain : PlainKey keys key) :
    request.BeginsAsName keys key ↔ request.IsName keys key := by
  obtain ⟨text, rfl, fits, noNul⟩ := plain
  have read : keys.buffered (keys.ofUtf8 text) = cBytes text := by
    rw [lawful.buffered _ (by rw [lawful.roundTrip]; exact fits), lawful.roundTrip]
    apply List.takeWhile_eq_self_iff.2
    intro byte member
    exact decide_eq_true fun zero => noNul (zero ▸ member)
  have whole (name : String) : cBytes text = cBytes name ↔
      keys.ofUtf8 text = keys.ofUtf8 name := by
    constructor
    · intro same
      rw [cBytes_injective same]
    · intro same
      rw [← lawful.roundTrip, ← lawful.roundTrip, same]
  unfold BeginsAsName IsName Names
  simp only [read, whole]

omit [DecidableEq Key] in
private theorem everyKey_split (kind property : Key → Prop) :
    request.EveryKey (fun _ => True) property ↔
      request.EveryKey kind property ∧ request.EveryKey (fun key => ¬kind key) property := by
  unfold EveryKey
  constructor
  · intro every
    exact ⟨fun object named entry member _ => every object named entry member trivial,
      fun object named entry member _ => every object named entry member trivial⟩
  · intro ⟨ofKind, others⟩ object named entry member _
    by_cases isKind : kind entry.1
    · exact ofKind object named entry member isKind
    · exact others object named entry member isKind

omit [DecidableEq Key] in
private theorem everyKey_plain (lawful : keys.Lawful) :
    request.EveryKey (PlainKey keys) (request.BeginsAsName keys) ↔
      request.EveryKey (PlainKey keys) (request.IsName keys) := by
  constructor
  · intro begin object named entry member plain
    exact (beginsAsName_iff_of_plain lawful plain).1 (begin object named entry member plain)
  · intro known object named entry member plain
    exact (beginsAsName_iff_of_plain lawful plain).2 (known object named entry member plain)

/-- The keys that are not plain decide.  Exactly the fitting requests are accepted where these
keys all begin with names just if all of them are names; elsewhere only if a placeholder or a
plain key is against the request already. -/
theorem accepts_exactly_iff (keys : KeyText Key) (lawful : keys.Lawful)
    (request : BindRequest Key) (supported : request.SupportedValues) :
    (request.Accepts keys ↔ request.Fits keys) ↔
      (request.Covers keys → request.EveryKey (PlainKey keys) (request.IsName keys) →
        (request.EveryKey (fun key => ¬PlainKey keys key) (request.BeginsAsName keys) ↔
          request.EveryKey (fun key => ¬PlainKey keys key) (request.IsName keys))) := by
  unfold Fits
  rw [accepts_iff supported, everyKey_split (PlainKey keys) (request.BeginsAsName keys),
    everyKey_split (PlainKey keys) (request.IsName keys), everyKey_plain lawful]
  constructor
  · intro exactly covers plain
    constructor
    · intro begin
      exact (exactly.1 ⟨covers, plain, begin⟩).2.2
    · intro known
      exact (exactly.2 ⟨covers, plain, known⟩).2.2
  · intro agree
    constructor
    · intro ⟨covers, plain, begin⟩
      exact ⟨covers, plain, (agree covers plain).1 begin⟩
    · intro ⟨covers, plain, known⟩
      exact ⟨covers, plain, (agree covers plain).2 known⟩

private theorem mixed_supported : mixed.SupportedValues := by
  constructor
  · intro argument member
    rcases List.mem_cons.1 member with rfl | later
    · exact ⟨_, rfl⟩
    · cases List.mem_singleton.1 later
      exact ⟨_, rfl⟩
  · intro object named entry member
    cases named
    rcases List.mem_cons.1 member with rfl | later
    · exact ⟨_, rfl⟩
    · cases List.mem_singleton.1 later
      exact ⟨_, rfl⟩

theorem accepts_exactly_mixed :
    (mixed.Accepts .plain ↔ mixed.Fits .plain) ↔
      (mixed.Covers .plain → mixed.EveryKey (PlainKey .plain) (mixed.IsName .plain) →
        (mixed.EveryKey (fun key => ¬PlainKey .plain key) (mixed.BeginsAsName .plain) ↔
          mixed.EveryKey (fun key => ¬PlainKey .plain key) (mixed.IsName .plain))) :=
  accepts_exactly_iff .plain KeyText.plain_lawful mixed mixed_supported

/-- `SELECT $a` with the properties `a` and, behind a NUL, another one that reads as `a`. -/
def hidden : BindRequest String :=
  { names := [some ⟨"$a", '$', by decide, rfl⟩]
    named := some [("a", .value (.string "x")), ("a\x00b", .value (.string "y"))]
    positional := [] }

theorem accepts_exactly_hidden_fails :
    hidden.SupportedValues ∧ ¬(hidden.Accepts .plain ↔ hidden.Fits .plain) := by
  constructor
  · constructor
    · intro argument member
      cases member
    · intro object named entry member
      cases named
      rcases List.mem_cons.1 member with rfl | later
      · exact ⟨_, rfl⟩
      · cases List.mem_singleton.1 later
        exact ⟨_, rfl⟩
  · intro exactly
    have fits := exactly.1 ⟨[some (.text "x")], by decide⟩
    obtain ⟨name, member, names⟩ := fits.2 _ rfl ("a\x00b", .value (.string "y")) (by decide)
      trivial
    cases List.mem_singleton.1 member
    rcases names with whole | short
    · exact absurd whole (by decide)
    · exact absurd short (by decide)

end BindRequest
end ParaQL
