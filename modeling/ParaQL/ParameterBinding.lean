/-
The parameters of a statement, value by value: `splitParameters` and `_bind` of
lib/statement.js, and `paraql__parse_value` and `paraql__on_after_parse` of binding.c.

The statement is open.  What the worker does with the values is a function of them, and
is left out.
-/

import ParaQL.Bytes.Buffer
import ParaQL.JsValue

namespace ParaQL

open Bytes

inductive JsNumber where
  | integer (value : Int)
  | double (bits : UInt64)
  deriving DecidableEq, Repr

inductive ViewKind where
  | uint8Array
  | uint8ClampedArray
  | int8Array
  | int16Array
  | uint16Array
  | int32Array
  | uint32Array
  | float32Array
  | float64Array
  | bigInt64Array
  | bigUint64Array
  | dataView
  deriving DecidableEq, Repr

def ViewKind.elementSize : ViewKind → Nat
  | .uint8Array | .uint8ClampedArray | .int8Array | .dataView => 1
  | .int16Array | .uint16Array => 2
  | .int32Array | .uint32Array | .float32Array => 4
  | .float64Array | .bigInt64Array | .bigUint64Array => 8

/-- `BindValue` of lib/statement.d.ts, and arrays of numbers. -/
inductive BindValue where
  | null
  | undefined
  | number (value : JsNumber)
  | bigint (value : Int)
  | string (text : String)
  | arrayBuffer (bytes : Buffer)
  | view (kind : ViewKind) (bytes : Buffer)
  | array (items : List JsNumber)
  deriving DecidableEq, Repr

/-- An argument of `get`, `all`, `iterate` or `run`. -/
inductive JsArgument where
  | value (value : BindValue)
  | record (entries : List (String × BindValue))
  deriving DecidableEq, Repr

abbrev NamedArguments := List (String × JsArgument)

/-- `isNamedParameters`, with the properties of the object. -/
def namedParameters? : JsArgument → Option NamedArguments
  | .value _ => none
  | .record entries => some (entries.map fun entry => (entry.1, .value entry.2))

def splitParameters : List JsArgument → Option NamedArguments × List JsArgument
  | [] => (none, [])
  | first :: rest =>
      match namedParameters? first with
      | none => (none, first :: rest)
      | some named => (some named, rest)

/-- `JSON.stringify` of an array of numbers. -/
def jsonText (numberText : JsNumber → String) (items : List JsNumber) : String :=
  "[" ++ ",".intercalate (items.map numberText) ++ "]"

/-- `if (Array.isArray(...)) ... = JSON.stringify(...)`. -/
def JsArgument.stringified (numberText : JsNumber → String) : JsArgument → JsArgument
  | .value (.array items) => .value (.string (jsonText numberText items))
  | argument => argument

def mapNamed (change : JsArgument → JsArgument) (named : NamedArguments) : NamedArguments :=
  named.map fun entry => (entry.1, change entry.2)

/-- What `paraql__on_before_bind` gives to SQLite, a blob by the bytes that are counted behind
the pointer of the engine. -/
inductive BoundValue where
  | null
  | integer (value : Int)
  | double (bits : UInt64)
  | text (value : String)
  | blob (bytes : Buffer)
  deriving DecidableEq, Repr

def BoundValue.storedBy (isNull : Bool) : BoundValue → BoundValue
  | .blob [] => if isNull then .null else .blob []
  | value => value

@[simp] theorem BoundValue.storedBy_false (value : BoundValue) : value.storedBy false = value := by
  unfold BoundValue.storedBy
  split <;> rfl

inductive Halt where
  | thrown (value : JsValue)
  -- A call into the engine that reads a string is given a bigint, and what is asserted of its
  -- result fails.
  | asserted
  deriving DecidableEq, Repr

def cancelBind (message : String) : Halt := .thrown (.error (JsError.typeError message))

/-- `paraql__parse_value`.  The case of a bigint runs on into the case of a string. -/
def parseValue : JsArgument → Except Halt (Option BoundValue)
  | .value .null => .ok (some .null)
  | .value .undefined => .ok (some .null)
  | .value (.number (.integer value)) => .ok (some (.integer value))
  | .value (.number (.double bits)) => .ok (some (.double bits))
  | .value (.bigint _) => .error .asserted
  | .value (.string text) => .ok (some (.text text))
  | .value (.arrayBuffer bytes) => .ok (some (.blob bytes))
  | .value (.view .dataView _) => .ok none
  -- The length of a typed array is its number of elements.
  | .value (.view kind bytes) => .ok (some (.blob (bytes.take (bytes.length / kind.elementSize))))
  | .value (.array _) => .ok none
  | .record _ => .ok none

def parseSupported (argument : JsArgument) : Except Halt BoundValue := do
  let parsed ← parseValue argument
  match parsed with
  | some value => .ok value
  | none => .error (cancelBind "Unsupported parameter type")

def objectPrototype : List String :=
  ["constructor", "hasOwnProperty", "isPrototypeOf", "propertyIsEnumerable", "toLocaleString",
   "toString", "valueOf", "__defineGetter__", "__defineSetter__", "__lookupGetter__",
   "__lookupSetter__", "__proto__"]

/-- `js_has_named_property` and `js_get_named_property`.  Inherited values are functions and
objects, which are not supported; they are empty records here. -/
def findProperty (named : NamedArguments) (name : String) : Option JsArgument :=
  match named.lookup name with
  | some argument => some argument
  | none => if name ∈ objectPrototype then some (.record []) else none

/-- `name + 1`. -/
def withoutSigil (name : String) : String := String.ofList name.toList.tail

def findNamed (named : NamedArguments) (name : String) : Option JsArgument :=
  match findProperty named name with
  | some argument => some argument
  | none => findProperty named (withoutSigil name)

/-- The argument of a placeholder, and the positional arguments after it.  A placeholder
without a name takes the next of them. -/
def pickArgument (named : Option NamedArguments) :
    Option String → List JsArgument → Except Halt (JsArgument × List JsArgument)
  | none, [] => .error (cancelBind "Missing positional parameter")
  | none, argument :: positional => .ok (argument, positional)
  | some name, positional =>
      match named with
      | none => .error (cancelBind "Missing named parameters object")
      | some named =>
          match findNamed named name with
          | some argument => .ok (argument, positional)
          | none => .error (cancelBind "Missing named parameter")

/-- The first loop of `paraql__on_after_parse`. -/
def matchParameters (named : Option NamedArguments) :
    List (Option String) → List JsArgument → Except Halt (List BoundValue × List JsArgument)
  | [], positional => .ok ([], positional)
  | name :: names, positional => do
      let (argument, positional) ← pickArgument named name positional
      let value ← parseSupported argument
      let (values, positional) ← matchParameters named names positional
      .ok (value :: values, positional)

def cBytes (text : String) : List UInt8 := text.toUTF8.data.toList

/-- The first characters whose UTF-8 fits into the room; no part of a character is stored. -/
def storedUtf8 (room : Nat) : List Char → List UInt8
  | [] => []
  | char :: chars =>
      if (String.utf8EncodeChar char).length ≤ room then
        String.utf8EncodeChar char ++ storedUtf8 (room - (String.utf8EncodeChar char).length) chars
      else []

/-- `char key[256]`, read up to its NUL. -/
def cKey (key : String) : List UInt8 := (storedUtf8 255 key.toList).takeWhile (· ≠ 0)

def knownKey (names : List (Option String)) (key : String) : Bool :=
  names.any fun
    | none => false
    | some name => cBytes name == cKey key || (cBytes name).tail == cKey key

def unknownKeys (names : List (Option String)) (named : Option NamedArguments) : Bool :=
  match named with
  | none => false
  | some named => named.any fun entry => !knownKey names entry.1

def bindParameters (names : List (Option String)) (named : Option NamedArguments)
    (positional : List JsArgument) : Except Halt (List BoundValue) := do
  let (values, rest) ← matchParameters named names positional
  if !rest.isEmpty then .error (cancelBind "Too many positional parameters")
  else if unknownKeys names named then .error (cancelBind "Unknown named parameter")
  else .ok values

/-- `_bind` of a statement whose placeholders have the given names. -/
def bindStatement (numberText : JsNumber → String) (names : List (Option String))
    (named : Option NamedArguments) : Option (List JsArgument) → Except Halt (List BoundValue)
  | none => .error (cancelBind "Cannot read properties of null (reading 'length')")
  | some positional =>
      bindParameters names (named.map (mapNamed (JsArgument.stringified numberText)))
        (positional.map (JsArgument.stringified numberText))

/-- What `get`, `all` and `iterate` bind. -/
def bindArguments (numberText : JsNumber → String) (names : List (Option String))
    (arguments : List JsArgument) : Except Halt (List BoundValue) :=
  bindStatement numberText names (splitParameters arguments).1 (some (splitParameters arguments).2)

/-! ### Which argument each placeholder finds -/

def foundArguments (named : Option NamedArguments) :
    List (Option String) → List JsArgument → List (Option JsArgument) × List JsArgument
  | [], positional => ([], positional)
  | name :: names, positional =>
      match pickArgument named name positional with
      | .ok (argument, rest) =>
          (some argument :: (foundArguments named names rest).1,
            (foundArguments named names rest).2)
      | .error _ =>
          (none :: (foundArguments named names positional).1,
            (foundArguments named names positional).2)

private theorem findProperty_mem {named : NamedArguments} {name : String} {argument : JsArgument}
    (found : findProperty named name = some argument) :
    (∃ name, (name, argument) ∈ named) ∨ argument = .record [] := by
  unfold findProperty at found
  split at found
  · next here looked =>
      cases found
      obtain ⟨before, after, rfl, -⟩ := List.lookup_eq_some_iff.mp looked
      exact .inl ⟨name, List.mem_append_right _ List.mem_cons_self⟩
  · split at found
    · exact .inr (Option.some.inj found).symm
    · cases found

private theorem findNamed_mem {named : NamedArguments} {name : String} {argument : JsArgument}
    (found : findNamed named name = some argument) :
    (∃ name, (name, argument) ∈ named) ∨ argument = .record [] := by
  unfold findNamed at found
  split at found
  · next here direct =>
      cases found
      exact findProperty_mem direct
  · exact findProperty_mem found

private theorem pickArgument_mem {named : Option NamedArguments} {name : Option String}
    {positional rest : List JsArgument} {argument : JsArgument}
    (picked : pickArgument named name positional = .ok (argument, rest)) :
    (argument ∈ positional ∨ (∃ named' name, named = some named' ∧ (name, argument) ∈ named') ∨
      argument = .record []) ∧ rest ⊆ positional := by
  unfold pickArgument at picked
  split at picked
  · cases picked
  · cases picked
    exact ⟨.inl List.mem_cons_self, List.subset_cons_self _ _⟩
  · split at picked
    · cases picked
    · split at picked
      · next named' _ _ found =>
          cases picked
          refine ⟨.inr ?_, List.Subset.refl _⟩
          rcases findNamed_mem found with ⟨name, member⟩ | inherited
          · exact .inl ⟨named', name, rfl, member⟩
          · exact .inr inherited
      · cases picked

/-- A found argument was given, or is inherited. -/
theorem mem_foundArguments {named : Option NamedArguments} {names : List (Option String)}
    {positional : List JsArgument} {argument : JsArgument}
    (found : some argument ∈ (foundArguments named names positional).1) :
    argument ∈ positional ∨ (∃ named' name, named = some named' ∧ (name, argument) ∈ named') ∨
      argument = .record [] := by
  induction names generalizing positional with
  | nil => cases found
  | cons name names ih =>
      unfold foundArguments at found
      cases picked : pickArgument named name positional with
      | error halt =>
          rw [picked] at found
          rcases List.mem_cons.mp found with absent | later
          · cases absent
          · exact ih later
      | ok result =>
          obtain ⟨here, rest⟩ := result
          obtain ⟨given, fewer⟩ := pickArgument_mem picked
          rw [picked] at found
          rcases List.mem_cons.mp found with same | later
          · cases same
            exact given
          · rcases ih later with member | other
            · exact .inl (fewer member)
            · exact .inr other

def boundAs (change : JsArgument → JsArgument) (found : Option JsArgument) : Option BoundValue :=
  found.bind fun argument => (parseSupported (change argument)).toOption

section Changed

variable {change : JsArgument → JsArgument}

private theorem lookup_mapNamed (named : NamedArguments) (name : String) :
    (mapNamed change named).lookup name = (named.lookup name).map change := by
  induction named with
  | nil => rfl
  | cons entry named ih =>
      simp only [mapNamed, List.map_cons] at ih ⊢
      rw [List.lookup_cons, List.lookup_cons]
      cases name == entry.1 with
      | true => rfl
      | false => exact ih

private theorem findProperty_mapNamed (fixes : change (.record []) = .record [])
    (named : NamedArguments) (name : String) :
    findProperty (mapNamed change named) name = (findProperty named name).map change := by
  simp only [findProperty, lookup_mapNamed]
  cases named.lookup name with
  | some argument => rfl
  | none =>
      simp only [Option.map_none]
      split
      · simp only [Option.map_some, fixes]
      · rfl

private theorem findNamed_mapNamed (fixes : change (.record []) = .record [])
    (named : NamedArguments) (name : String) :
    findNamed (mapNamed change named) name = (findNamed named name).map change := by
  simp only [findNamed, findProperty_mapNamed fixes]
  cases findProperty named name <;> rfl

private theorem pickArgument_map (fixes : change (.record []) = .record [])
    (named : Option NamedArguments) (name : Option String) (positional : List JsArgument) :
    pickArgument (named.map (mapNamed change)) name (positional.map change) =
      (pickArgument named name positional).map fun picked =>
        (change picked.1, picked.2.map change) := by
  cases name with
  | none => cases positional <;> rfl
  | some name =>
      cases named with
      | none => rfl
      | some named =>
          simp only [pickArgument, Option.map_some, findNamed_mapNamed fixes]
          cases findNamed named name <;> rfl

private theorem pickArgument_error {named : Option NamedArguments} {name : Option String}
    {positional : List JsArgument} {halt : Halt}
    (fails : pickArgument named name positional = .error halt) :
    ∃ message, halt = cancelBind message := by
  unfold pickArgument at fails
  split at fails
  · exact ⟨_, (Except.error.inj fails).symm⟩
  · cases fails
  · split at fails
    · exact ⟨_, (Except.error.inj fails).symm⟩
    · split at fails
      · cases fails
      · exact ⟨_, (Except.error.inj fails).symm⟩

private theorem toOption_eq_some {ε α : Type} {result : Except ε α} {value : α} :
    result.toOption = some value ↔ result = .ok value := by
  cases result <;> simp [Except.toOption]

theorem bind_eq_ok {ε α β : Type} {first : Except ε α} {next : α → Except ε β} {value : β} :
    (first >>= next) = .ok value ↔ ∃ middle, first = .ok middle ∧ next middle = .ok value := by
  cases first <;> simp [bind, Except.bind]

/-- The loop binds exactly when every placeholder finds an argument that can be bound. -/
theorem matchParameters_ok_iff (fixes : change (.record []) = .record [])
    (named : Option NamedArguments) (names : List (Option String))
    (positional : List JsArgument) (values : List BoundValue) (rest : List JsArgument) :
    matchParameters (named.map (mapNamed change)) names (positional.map change) =
        .ok (values, rest) ↔
      (foundArguments named names positional).1.map (boundAs change) = values.map some ∧
        (foundArguments named names positional).2.map change = rest := by
  induction names generalizing positional values rest with
  | nil =>
      simp only [matchParameters, foundArguments, List.map_nil, Except.ok.injEq, Prod.mk.injEq]
      cases values <;> simp
  | cons name names ih =>
      simp only [matchParameters, foundArguments, pickArgument_map fixes]
      cases picked : pickArgument named name positional with
      | error halt =>
          cases values <;> simp [Except.map, bind, Except.bind, boundAs]
      | ok result =>
          obtain ⟨argument, positional⟩ := result
          have here : boundAs change (some argument) =
              (parseSupported (change argument)).toOption := rfl
          simp only [Except.map, bind_eq_ok, Except.ok.injEq, exists_eq_left', Prod.exists, ih,
            Prod.mk.injEq, List.map_cons, here]
          constructor
          · rintro ⟨value, parsed, values, rest, ⟨bound, rfl⟩, rfl, rfl⟩
            rw [List.map_cons, parsed, bound]
            exact ⟨rfl, rfl⟩
          · rintro ⟨bound, rfl⟩
            cases values with
            | nil => cases bound
            | cons value values =>
                obtain ⟨parsed, bound⟩ := List.cons.inj bound
                exact ⟨value, toOption_eq_some.mp parsed, values, _, ⟨bound, rfl⟩, rfl, rfl⟩

/-- Nothing is asserted in the loop where no argument is found whose parsing asserts. -/
theorem matchParameters_asserted (fixes : change (.record []) = .record [])
    (named : Option NamedArguments) (names : List (Option String))
    (positional : List JsArgument)
    (careful : ∀ argument, some argument ∈ (foundArguments named names positional).1 →
      parseSupported (change argument) ≠ .error .asserted) :
    matchParameters (named.map (mapNamed change)) names (positional.map change) ≠
      .error .asserted := by
  induction names generalizing positional with
  | nil => exact nofun
  | cons name names ih =>
      simp only [foundArguments] at careful
      simp only [matchParameters, pickArgument_map fixes]
      cases picked : pickArgument named name positional with
      | error halt =>
          obtain ⟨message, rfl⟩ := pickArgument_error picked
          exact nofun
      | ok result =>
          obtain ⟨argument, positional⟩ := result
          rw [picked] at careful
          have later := ih positional fun argument member =>
            careful argument (List.mem_cons_of_mem _ member)
          have here := careful argument List.mem_cons_self
          simp only [Except.map, bind, Except.bind]
          cases parsed : parseSupported (change argument) with
          | error halt =>
              intro asserted
              cases asserted
              exact here parsed
          | ok value =>
              cases matched : matchParameters (named.map (mapNamed change)) names
                  (positional.map change) with
              | error halt =>
                  intro asserted
                  cases asserted
                  exact later matched
              | ok result => exact nofun

private theorem unknownKeys_mapNamed (names : List (Option String))
    (named : Option NamedArguments) :
    unknownKeys names (named.map (mapNamed change)) = unknownKeys names named := by
  cases named with
  | none => rfl
  | some named =>
      simp only [Option.map_some, unknownKeys, mapNamed, List.any_map]
      rfl

theorem bindParameters_ok_iff (fixes : change (.record []) = .record [])
    (names : List (Option String)) (named : Option NamedArguments)
    (positional : List JsArgument) (values : List BoundValue) :
    bindParameters names (named.map (mapNamed change)) (positional.map change) = .ok values ↔
      (foundArguments named names positional).1.map (boundAs change) = values.map some ∧
        (foundArguments named names positional).2 = [] ∧ unknownKeys names named = false := by
  have matched := matchParameters_ok_iff fixes named names positional
  simp only [bindParameters, bind_eq_ok, Prod.exists, matched, unknownKeys_mapNamed]
  constructor
  · rintro ⟨values, _, ⟨bound, rfl⟩, ends⟩
    split at ends
    · cases ends
    · split at ends
      · cases ends
      · next empty known =>
          cases ends
          exact ⟨bound, by simpa using empty, by simpa using known⟩
  · rintro ⟨bound, empty, known⟩
    exact ⟨values, _, ⟨bound, rfl⟩, by simp [empty, known]⟩

theorem bindParameters_asserted (fixes : change (.record []) = .record [])
    (names : List (Option String)) (named : Option NamedArguments)
    (positional : List JsArgument)
    (careful : ∀ argument, some argument ∈ (foundArguments named names positional).1 →
      parseSupported (change argument) ≠ .error .asserted) :
    bindParameters names (named.map (mapNamed change)) (positional.map change) ≠
      .error .asserted := by
  have matched := matchParameters_asserted fixes named names positional careful
  unfold bindParameters
  cases result : matchParameters (named.map (mapNamed change)) names (positional.map change) with
  | error halt =>
      intro asserted
      cases asserted
      exact matched result
  | ok result =>
      simp only [bind, Except.bind]
      split
      · exact nofun
      · split <;> exact nofun

end Changed

/-! ### What `get`, `all` and `iterate` reject -/

def JsArgument.isBigint : JsArgument → Bool
  | .value (.bigint _) => true
  | _ => false

def JsArgument.unsupported : JsArgument → Bool
  | .value (.view .dataView _) => true
  | .record _ => true
  | _ => false

/-- Some placeholder finds no argument or an unsupported one, and no placeholder before it
finds a bigint. -/
def refusedFirst : List (Option JsArgument) → Bool
  | [] => false
  | none :: _ => true
  | some argument :: found => argument.unsupported || (!argument.isBigint && refusedFirst found)

def Misfit (names : List (Option String)) (named : Option NamedArguments)
    (positional : List JsArgument) : Prop :=
  refusedFirst (foundArguments named names positional).1 = true ∨
    ((∀ argument, some argument ∈ (foundArguments named names positional).1 →
        argument.isBigint = false) ∧
      ((foundArguments named names positional).2 ≠ [] ∨ unknownKeys names named = true))

section Stringified

variable (numberText : JsNumber → String)

theorem stringified_record (entries : List (String × BindValue)) :
    JsArgument.stringified numberText (.record entries) = .record entries := rfl

private theorem parse_bigint {argument : JsArgument} (bigint : argument.isBigint = true) :
    parseSupported (argument.stringified numberText) = .error .asserted := by
  unfold JsArgument.isBigint at bigint
  split at bigint
  · rfl
  · cases bigint

private theorem parse_unsupported {argument : JsArgument}
    (unsupported : argument.unsupported = true) :
    parseSupported (argument.stringified numberText) =
      .error (cancelBind "Unsupported parameter type") := by
  unfold JsArgument.unsupported at unsupported
  split at unsupported
  · rfl
  · rfl
  · cases unsupported

private theorem parse_supported {argument : JsArgument} (number : argument.isBigint = false)
    (supported : argument.unsupported = false) :
    ∃ value, parseSupported (argument.stringified numberText) = .ok value := by
  rcases argument with value | entries
  · cases value with
    | bigint value => cases number
    | number value => cases value <;> exact ⟨_, rfl⟩
    | view kind bytes =>
        cases kind with
        | dataView => cases supported
        | _ => exact ⟨_, rfl⟩
    | _ => exact ⟨_, rfl⟩
  · cases supported

theorem parse_careful {argument : JsArgument} (number : argument.isBigint = false) :
    parseSupported (argument.stringified numberText) ≠ .error .asserted := by
  cases unsupported : argument.unsupported with
  | true =>
      rw [parse_unsupported numberText unsupported]
      exact nofun
  | false =>
      obtain ⟨value, parsed⟩ := parse_supported numberText number unsupported
      rw [parsed]
      exact nofun

private theorem matchParameters_thrown_iff (named : Option NamedArguments)
    (names : List (Option String)) (positional : List JsArgument) :
    (∃ thrown, matchParameters (named.map (mapNamed (JsArgument.stringified numberText))) names
        (positional.map (JsArgument.stringified numberText)) = .error (.thrown thrown)) ↔
      refusedFirst (foundArguments named names positional).1 = true := by
  induction names generalizing positional with
  | nil => simp [matchParameters, foundArguments, refusedFirst]
  | cons name names ih =>
      simp only [matchParameters, foundArguments,
        pickArgument_map (stringified_record numberText [])]
      cases picked : pickArgument named name positional with
      | error halt =>
          obtain ⟨message, rfl⟩ := pickArgument_error picked
          exact ⟨fun _ => rfl, fun _ => ⟨_, rfl⟩⟩
      | ok result =>
          obtain ⟨argument, positional⟩ := result
          simp only [Except.map, bind, Except.bind, refusedFirst, Bool.or_eq_true,
            Bool.and_eq_true, Bool.not_eq_true', ← ih positional]
          cases unsupported : argument.unsupported with
          | true => simp [parse_unsupported numberText unsupported, cancelBind]
          | false =>
              cases bigint : argument.isBigint with
              | true => simp [parse_bigint numberText bigint]
              | false =>
                  obtain ⟨value, parsed⟩ := parse_supported numberText bigint unsupported
                  rw [parsed]
                  cases matchParameters (named.map (mapNamed (JsArgument.stringified numberText)))
                    names (positional.map (JsArgument.stringified numberText)) <;> simp

private theorem found_bound_iff (found : List (Option JsArgument)) :
    (∃ values : List BoundValue,
        found.map (boundAs (JsArgument.stringified numberText)) = values.map some) ↔
      refusedFirst found = false ∧
        ∀ argument, some argument ∈ found → argument.isBigint = false := by
  induction found with
  | nil => exact ⟨fun _ => ⟨rfl, nofun⟩, fun _ => ⟨[], rfl⟩⟩
  | cons first found ih =>
      constructor
      · rintro ⟨values, bound⟩
        rcases values with _ | ⟨value, values⟩
        · cases bound
        obtain ⟨here, later⟩ := List.cons.inj bound
        obtain ⟨fits, numbers⟩ := ih.mp ⟨values, later⟩
        rcases first with _ | argument
        · cases here
        have parsed : parseSupported (argument.stringified numberText) = .ok value :=
          toOption_eq_some.mp here
        cases unsupported : argument.unsupported with
        | true =>
            rw [parse_unsupported numberText unsupported] at parsed
            cases parsed
        | false =>
            cases bigint : argument.isBigint with
            | true =>
                rw [parse_bigint numberText bigint] at parsed
                cases parsed
            | false =>
                refine ⟨by simp [refusedFirst, unsupported, fits], ?_⟩
                intro other member
                rcases List.mem_cons.mp member with same | member
                · cases same
                  exact bigint
                · exact numbers other member
      · rintro ⟨fits, numbers⟩
        rcases first with _ | argument
        · cases fits
        have bigint := numbers argument List.mem_cons_self
        simp only [refusedFirst, bigint, Bool.not_false, Bool.true_and, Bool.or_eq_false_iff]
          at fits
        obtain ⟨value, parsed⟩ := parse_supported numberText bigint fits.1
        obtain ⟨values, bound⟩ := ih.mpr
          ⟨fits.2, fun other member => numbers other (List.mem_cons_of_mem _ member)⟩
        refine ⟨value :: values, ?_⟩
        rw [List.map_cons, bound, List.map_cons]
        exact congrArg (· :: values.map some) (toOption_eq_some.mpr parsed)

/-- `get`, `all` and `iterate` reject exactly the arguments that do not fit. -/
theorem bindParameters_thrown_iff (names : List (Option String))
    (named : Option NamedArguments) (positional : List JsArgument) :
    (∃ thrown, bindParameters names (named.map (mapNamed (JsArgument.stringified numberText)))
        (positional.map (JsArgument.stringified numberText)) = .error (.thrown thrown)) ↔
      Misfit names named positional := by
  have thrownIff := matchParameters_thrown_iff numberText named names positional
  have okIff := matchParameters_ok_iff (stringified_record numberText []) named names positional
  have boundIff := found_bound_iff numberText (foundArguments named names positional).1
  unfold bindParameters Misfit
  rw [unknownKeys_mapNamed]
  cases matched : matchParameters (named.map (mapNamed (JsArgument.stringified numberText))) names
      (positional.map (JsArgument.stringified numberText)) with
  | error halt =>
      cases halt with
      | thrown thrown =>
          have refused := thrownIff.mp ⟨thrown, matched⟩
          exact ⟨fun _ => .inl refused, fun _ => ⟨thrown, rfl⟩⟩
      | asserted =>
          have fits : ¬refusedFirst (foundArguments named names positional).1 = true := by
            rw [← thrownIff, matched]
            exact nofun
          constructor
          · exact nofun
          · rintro (refused | ⟨numbers, -⟩)
            · exact absurd refused fits
            · obtain ⟨values, bound⟩ := boundIff.mpr ⟨by simpa using fits, numbers⟩
              rw [(okIff values _).mpr ⟨bound, rfl⟩] at matched
              cases matched
  | ok result =>
      obtain ⟨values, rest⟩ := result
      obtain ⟨bound, rfl⟩ := (okIff values rest).mp matched
      obtain ⟨fits, numbers⟩ := boundIff.mp ⟨values, bound⟩
      simp only [fits, Bool.false_eq_true, false_or, bind, Except.bind, ne_eq]
      rw [and_iff_right numbers]
      cases (foundArguments named names positional).2 with
      | nil => cases unknownKeys names named <;> simp [cancelBind]
      | cons => simp [cancelBind]

end Stringified

end ParaQL
