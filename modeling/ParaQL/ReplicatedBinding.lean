/-
The parameters of `run`, from the call to `_bind` in `_apply`: the operation that carries
them is encoded, maybe deflated and inflated, and decoded before they are bound.
-/

import ParaQL.OperationCodec
import ParaQL.ParameterBinding

namespace ParaQL

open Bytes

/-- What `named` or `positional` of an operation holds. -/
inductive Payload where
  | null
  | list (items : List JsArgument)
  | record (entries : NamedArguments)
  deriving DecidableEq, Repr

namespace Payload

def ofNamed : Option NamedArguments → Payload
  | none => .null
  | some named => .record named

def named? : Option Payload → Option NamedArguments
  | some (.record entries) => some entries
  | _ => none

def items? : Option Payload → Option (List JsArgument)
  | some (.list items) => some items
  | _ => none

end Payload

/-- What `run` of lib/vfs.js encodes, or `flush` for a queued call. -/
def sentOperation (queued : Bool) (sql : String) (named : Option NamedArguments)
    (positional : List JsArgument) : OperationObject Payload :=
  if queued then
    { type := OPERATION.batch, named := some (.ofNamed named)
      positional := some (.list positional) }
  else
    { type := OPERATION.run, sql := some sql, named := some (.ofNamed named),
      positional := some (.list positional) }

/-- `deflate` and `inflate` of lib/codecs.js. -/
structure Deflation where
  deflate : Buffer → Buffer
  inflate : Buffer → Buffer
  inflate_deflate : ∀ buffer, inflate (deflate buffer) = buffer

/-- What is between the two ends of the oplog. -/
structure Wire where
  c : Primitives Payload
  allocator : Allocator
  compression : Option Deflation

namespace Wire

/-- The value of the node, as `_apply` finds it after `inflate`. -/
def carry (wire : Wire) (buffer : Buffer) : Buffer :=
  match wire.compression with
  | none => buffer
  | some deflation => deflation.inflate (deflation.deflate buffer)

/-- What `_run` binds in `_apply` for a `run` with the given arguments. -/
def bindArguments (wire : Wire) (numberText : JsNumber → String) (names : List (Option String))
    (queued : Bool) (sql : String) (arguments : List JsArgument) :
    Except Halt (List BoundValue) := do
  let (named, positional) := splitParameters arguments
  let buffer ← (Operation.encode wire.c wire.allocator
    (sentOperation queued sql named positional)).mapError .thrown
  let operation ← (Operation.decode wire.c (wire.carry buffer)).mapError .thrown
  bindStatement numberText names (Payload.named? operation.named)
    (Payload.items? operation.positional)

private theorem carry_eq (wire : Wire) (buffer : Buffer) : wire.carry buffer = buffer := by
  unfold carry
  split
  · rfl
  · exact Deflation.inflate_deflate _ _

end Wire

/-- What the any-codec makes of a number, and of the own enumerable properties of a buffer
or view that is no `Uint8Array`. -/
structure AnyCodec where
  keepNumber : JsNumber → JsNumber
  ownEntries : BindValue → List (String × BindValue)

def BindValue.bigintFree : BindValue → Bool
  | .bigint _ => false
  | .view .bigInt64Array bytes => bytes.length < 8
  | .view .bigUint64Array bytes => bytes.length < 8
  | _ => true

def JsArgument.bigintFree : JsArgument → Bool
  | .value plain => plain.bigintFree
  | .record entries => entries.all fun entry => entry.2.bigintFree

def Payload.bigintFree : Payload → Bool
  | .null => true
  | .list items => items.all JsArgument.bigintFree
  | .record entries => entries.all fun entry => entry.2.bigintFree

namespace AnyCodec

variable (codec : AnyCodec)

def carriedValue : BindValue → JsArgument
  | .undefined => .value .null
  | .number value => .value (.number (codec.keepNumber value))
  | .array items => .value (.array (items.map codec.keepNumber))
  | .arrayBuffer bytes => .record (codec.ownEntries (.arrayBuffer bytes))
  | .view .uint8Array bytes => .value (.view .uint8Array bytes)
  | .view kind bytes => .record (codec.ownEntries (.view kind bytes))
  | other => .value other

def carried : JsArgument → JsArgument
  | .value value => codec.carriedValue value
  | .record entries => .record entries

def carriedPayload : Payload → Payload
  | .null => .null
  | .list items => .list (items.map codec.carried)
  | .record entries => .record (mapNamed codec.carried entries)

/-- An argument as `_bind` leaves it after the way through the oplog. -/
def arrived (numberText : JsNumber → String) (argument : JsArgument) : JsArgument :=
  (codec.carried argument).stringified numberText

/-- A payload goes through `any` as the codec says. -/
structure Handles (c : Primitives Payload) (payload : Payload) : Prop where
  roundTrips : payload.bigintFree = true →
    c.any.RoundTrips (some payload) (some (codec.carriedPayload payload))
  throws : payload.bigintFree = false →
    Refuses (c.any.preencode · (some payload))

end AnyCodec

/-- `Parameters` of lib/statement.d.ts. -/
structure ParameterList where
  named : Option (List (String × BindValue))
  positional : List BindValue
  deriving DecidableEq, Repr

namespace ParameterList

def arguments (list : ParameterList) : List JsArgument :=
  list.named.toList.map .record ++ list.positional.map .value

def namedArguments (list : ParameterList) : Option NamedArguments :=
  list.named.map (List.map fun entry => (entry.1, .value entry.2))

def positionalArguments (list : ParameterList) : List JsArgument := list.positional.map .value

def bigintFree (list : ParameterList) : Bool :=
  (Payload.ofNamed list.namedArguments).bigintFree &&
    (Payload.list list.positionalArguments).bigintFree

private theorem splitParameters_arguments (list : ParameterList) :
    splitParameters list.arguments = (list.namedArguments, list.positionalArguments) := by
  obtain ⟨named, positional⟩ := list
  cases named with
  | some entries => rfl
  | none => cases positional <;> rfl

end ParameterList

/-- At each placeholder, whether the engine's pointer for no bytes is NULL.  It leads somewhere
where they are a part of a larger buffer. -/
abbrev NullPointers := Nat → Bool

def storedValues (pointers : NullPointers) (values : List BoundValue) : List BoundValue :=
  values.mapIdx fun placeholder value => value.storedBy (pointers placeholder)

def SameBinding (first second : Except Halt (List BoundValue)) : Prop :=
  (∀ values, first = .ok values ↔ second = .ok values) ∧
    ((∃ thrown, first = .error (.thrown thrown)) ↔ ∃ thrown, second = .error (.thrown thrown))

/-- The any-codec carries the value to one that is bound in the same way, by the pointers of
the two engines. -/
def BindValue.Kept (codec : AnyCodec) (numberText : JsNumber → String) (here there : Bool) :
    BindValue → Prop
  | .null => True
  | .undefined => True
  | .string _ => True
  | .number value => codec.keepNumber value = value
  | .array items =>
      jsonText numberText (items.map codec.keepNumber) = jsonText numberText items
  | .view .uint8Array bytes => bytes = [] → here = there
  | _ => False

section Paths

variable {wire : Wire} {codec : AnyCodec} {numberText : JsNumber → String} {queued : Bool}
  {sql : String} {named : Option NamedArguments} {positional : List JsArgument}

private theorem encode_throws (queued : Bool)
    (tag : ∀ type ∈ [OPERATION.run, OPERATION.batch], wire.c.uint8.RoundTrips type type)
    (text : wire.c.string.RoundTrips (some sql) (some sql))
    (handlesNamed : codec.Handles wire.c (.ofNamed named))
    (handlesPositional : codec.Handles wire.c (.list positional))
    (bigint :
      ((Payload.ofNamed named).bigintFree && (Payload.list positional).bigintFree) = false) :
    ∃ thrown, Operation.encode wire.c wire.allocator (sentOperation queued sql named positional) =
      .error thrown := by
  have fields : Refuses fun cursor =>
      wire.c.any.preencode cursor (some (.ofNamed named)) >>= fun cursor =>
        wire.c.any.preencode cursor (some (.list positional)) := by
    cases free : (Payload.ofNamed named).bigintFree with
    | false => exact Refuses.before (handlesNamed.throws free) _
    | true =>
        rw [free, Bool.true_and] at bigint
        obtain ⟨bytes, carries⟩ := handlesNamed.roundTrips free
        exact Refuses.after (handlesPositional.throws bigint) carries.counts
  apply Encoding.toBuffer_refuses
  cases queued with
  | true =>
      obtain ⟨tagBytes, tagCarries⟩ := tag OPERATION.batch (by decide)
      exact fields.after tagCarries.counts
  | false =>
      obtain ⟨tagBytes, tagCarries⟩ := tag OPERATION.run (by decide)
      obtain ⟨sqlBytes, sqlCarries⟩ := text
      exact (fields.after sqlCarries.counts).after tagCarries.counts

private theorem roundTrips_sent (queued : Bool)
    (tag : ∀ type ∈ [OPERATION.run, OPERATION.batch], wire.c.uint8.RoundTrips type type)
    (text : wire.c.string.RoundTrips (some sql) (some sql))
    (handlesNamed : codec.Handles wire.c (.ofNamed named))
    (handlesPositional : codec.Handles wire.c (.list positional))
    (freeNamed : (Payload.ofNamed named).bigintFree = true)
    (freePositional : (Payload.list positional).bigintFree = true) :
    ∃ operation : OperationObject Payload,
      (op wire.c).RoundTrips (sentOperation queued sql named positional) operation ∧
      operation.named = some (codec.carriedPayload (.ofNamed named)) ∧
      operation.positional = some (codec.carriedPayload (.list positional)) := by
  have namedTrips := handlesNamed.roundTrips freeNamed
  have positionalTrips := handlesPositional.roundTrips freePositional
  cases queued with
  | true =>
      exact ⟨_, op.roundTrips_batch (tag _ (by decide)) namedTrips positionalTrips none none,
        rfl, rfl⟩
  | false =>
      exact ⟨_, op.roundTrips_statement (.inl rfl) (tag _ (by decide)) text namedTrips
        positionalTrips none, rfl, rfl⟩

/-- Both ends of the wire as one: the carried arguments are bound. -/
theorem bindArguments_eq
    (tag : ∀ type ∈ [OPERATION.run, OPERATION.batch], wire.c.uint8.RoundTrips type type)
    (text : wire.c.string.RoundTrips (some sql) (some sql))
    (names : List (Option String)) (arguments : List JsArgument)
    (split : splitParameters arguments = (named, positional))
    (handlesNamed : codec.Handles wire.c (.ofNamed named))
    (handlesPositional : codec.Handles wire.c (.list positional))
    (freeNamed : (Payload.ofNamed named).bigintFree = true)
    (freePositional : (Payload.list positional).bigintFree = true) :
    wire.bindArguments numberText names queued sql arguments =
      bindParameters names
        (named.map (mapNamed (codec.arrived numberText)))
        (positional.map (codec.arrived numberText)) := by
  obtain ⟨operation, ⟨bytes, carries⟩, namedBack, positionalBack⟩ :=
    roundTrips_sent queued tag text handlesNamed handlesPositional freeNamed
      freePositional
  have encoded :
      Operation.encode wire.c wire.allocator (sentOperation queued sql named positional) =
      .ok bytes := carries.toBuffer wire.allocator
  have decoded : Operation.decode wire.c bytes = .ok operation := carries.fromBuffer
  have fields : bindStatement numberText names (Payload.named? operation.named)
      (Payload.items? operation.positional) =
        bindParameters names
          (named.map (mapNamed (codec.arrived numberText)))
          (positional.map (codec.arrived numberText)) := by
    rw [namedBack, positionalBack]
    cases named with
    | none =>
        simp only [Payload.ofNamed, AnyCodec.carriedPayload, Payload.named?, Payload.items?,
          bindStatement, Option.map_none, List.map_map]
        rfl
    | some named =>
        simp only [Payload.ofNamed, AnyCodec.carriedPayload, Payload.named?, Payload.items?,
          bindStatement, Option.map_some, mapNamed, List.map_map]
        rfl
  simp only [Wire.bindArguments, split, encoded, Except.mapError, bind, Except.bind,
    wire.carry_eq, decoded]
  exact fields

end Paths

/-! ### Value by value -/

section Values

variable (codec : AnyCodec) (numberText : JsNumber → String)

private theorem bound_of_arrived {argument : JsArgument} {value : BoundValue}
    (bound : boundAs (codec.arrived numberText) (some argument) = some value) :
    ∃ value, boundAs (JsArgument.stringified numberText) (some argument) = some value := by
  rcases argument with given | entries
  · cases given with
    | bigint value => cases bound
    | number value => cases value <;> exact ⟨_, rfl⟩
    | view kind bytes =>
        cases kind with
        | dataView => cases bound
        | _ => exact ⟨_, rfl⟩
    | _ => exact ⟨_, rfl⟩
  · cases bound

private theorem boundAs_number (value : JsNumber) :
    boundAs (JsArgument.stringified numberText) (some (.value (.number value))) =
      match value with
      | .integer value => some (.integer value)
      | .double bits => some (.double bits) := by
  cases value <;> rfl

private theorem boundAs_number_inj {first second : JsNumber} :
    boundAs (JsArgument.stringified numberText) (some (.value (.number first))) =
        boundAs (JsArgument.stringified numberText) (some (.value (.number second))) ↔
      first = second := by
  cases first <;> cases second <;> simp [boundAs_number]

def ArrivesAs (argument : JsArgument) (there : Bool) (stored : BoundValue) : Prop :=
  ∃ bound, boundAs (codec.arrived numberText) (some argument) = some bound ∧
    bound.storedBy there = stored

private theorem storedBy_blob_iff {bytes : Buffer} {here there : Bool} :
    (BoundValue.blob bytes).storedBy there = (BoundValue.blob bytes).storedBy here ↔
      (bytes = [] → here = there) := by
  cases bytes with
  | nil => cases here <;> cases there <;> decide
  | cons byte bytes => exact iff_of_true rfl fun empty => by cases empty

private theorem arrivesAs_number {value : JsNumber} {bound : BoundValue} {here there : Bool}
    (isBound : boundAs (JsArgument.stringified numberText) (some (.value (.number value))) =
      some bound) :
    ArrivesAs codec numberText (.value (.number value)) there (bound.storedBy here) ↔
      codec.keepNumber value = value := by
  have plain {number : JsNumber} {given : BoundValue} (isNumber : boundAs
      (JsArgument.stringified numberText) (some (.value (.number number))) = some given)
      (isNull : Bool) : given.storedBy isNull = given := by
    cases number <;> cases isNumber <;> rfl
  unfold ArrivesAs
  rw [← boundAs_number_inj numberText, isBound, plain isBound]
  constructor
  · rintro ⟨arrived, isArrived, rfl⟩
    rw [plain isArrived]
    exact isArrived
  · exact fun isArrived => ⟨bound, isArrived, plain isBound there⟩

private theorem arrived_iff_kept {value : BindValue} {bound : BoundValue} (here there : Bool)
    (isBound : boundAs (JsArgument.stringified numberText) (some (.value value)) = some bound) :
    ArrivesAs codec numberText (.value value) there (bound.storedBy here) ↔
      value.Kept codec numberText here there := by
  have refused {argument : JsArgument} {stored : BoundValue}
      (unsupported : boundAs (codec.arrived numberText) (some argument) = none) :
      ¬ArrivesAs codec numberText argument there stored := by
    rintro ⟨arrived, isArrived, _⟩
    cases unsupported.symm.trans isArrived
  cases value with
  | null =>
      cases isBound
      exact iff_of_true ⟨.null, rfl, rfl⟩ trivial
  | undefined =>
      cases isBound
      exact iff_of_true ⟨.null, rfl, rfl⟩ trivial
  | string text =>
      cases isBound
      exact iff_of_true ⟨.text text, rfl, rfl⟩ trivial
  | bigint value => cases isBound
  | arrayBuffer bytes => exact iff_of_false (refused rfl) id
  | number value => exact arrivesAs_number codec numberText isBound
  | array items =>
      cases isBound
      constructor
      · rintro ⟨_, isArrived, same⟩
        cases isArrived
        exact BoundValue.text.inj same
      · exact fun same => ⟨_, rfl, congrArg BoundValue.text same⟩
  | view kind bytes =>
      cases kind with
      | uint8Array =>
          have whole : bytes.take (bytes.length / ViewKind.uint8Array.elementSize) = bytes := by
            rw [ViewKind.elementSize, Nat.div_one, List.take_length]
          obtain rfl : BoundValue.blob
              (bytes.take (bytes.length / ViewKind.uint8Array.elementSize)) = bound :=
            Option.some.inj isBound
          rw [whole]
          refine Iff.trans ?_ storedBy_blob_iff
          constructor
          · rintro ⟨_, isArrived, same⟩
            obtain rfl := Option.some.inj isArrived
            rwa [whole] at same
          · exact fun same => ⟨.blob bytes, congrArg (some ∘ BoundValue.blob) whole, same⟩
      | dataView => cases isBound
      | _ => exact iff_of_false (refused rfl) id

private theorem arrived_careful {argument : JsArgument} (number : argument.isBigint = false) :
    parseSupported (codec.arrived numberText argument) ≠ .error .asserted := by
  rcases argument with given | entries
  · cases given with
    | bigint value => cases number
    | number value =>
        show parseSupported (.value (.number (codec.keepNumber value))) ≠ _
        cases codec.keepNumber value <;> exact nofun
    | view kind bytes => cases kind <;> exact nofun
    | _ => exact nofun
  · exact nofun

end Values

private theorem isBigint_of_bigintFree {argument : JsArgument} (free : argument.bigintFree = true) :
    argument.isBigint = false := by
  rcases argument with given | entries
  · cases given with
    | bigint value => cases free
    | _ => rfl
  · rfl

namespace ParameterList

private theorem isBigint_found {list : ParameterList} {names : List (Option String)}
    (free : list.bigintFree = true) (argument : JsArgument)
    (found : some argument ∈
      (foundArguments list.namedArguments names list.positionalArguments).1) :
    argument.isBigint = false := by
  rw [bigintFree, Bool.and_eq_true] at free
  rcases mem_foundArguments found with member | ⟨named, name, given, member⟩ | rfl
  · exact isBigint_of_bigintFree (List.all_eq_true.mp free.2 argument member)
  · rw [given] at free
    exact isBigint_of_bigintFree (List.all_eq_true.mp free.1 (name, argument) member)
  · rfl

private theorem bindArguments_thrown (wire : Wire) (codec : AnyCodec)
    (numberText : JsNumber → String)
    (names : List (Option String)) (queued : Bool) (sql : String) (list : ParameterList)
    (tag : ∀ type ∈ [OPERATION.run, OPERATION.batch], wire.c.uint8.RoundTrips type type)
    (text : wire.c.string.RoundTrips (some sql) (some sql))
    (handlesNamed : codec.Handles wire.c (.ofNamed list.namedArguments))
    (handlesPositional : codec.Handles wire.c (.list list.positionalArguments))
    (bigint : list.bigintFree = false) :
    ∃ thrown, wire.bindArguments numberText names queued sql list.arguments =
      .error (.thrown thrown) := by
  obtain ⟨thrown, fails⟩ := encode_throws queued tag text handlesNamed
    handlesPositional bigint
  refine ⟨thrown, ?_⟩
  simp only [Wire.bindArguments, splitParameters_arguments, fails, Except.mapError, bind,
    Except.bind]

end ParameterList

/-! ### Placeholder by placeholder -/

private theorem sameBinding_thrown_iff {first : Except Halt (List BoundValue)} {value : JsValue} :
    SameBinding first (.error (.thrown value)) ↔ ∃ thrown, first = .error (.thrown thrown) := by
  constructor
  · rintro ⟨-, rejects⟩
    exact rejects.mpr ⟨value, rfl⟩
  · rintro ⟨thrown, rfl⟩
    exact ⟨fun _ => iff_of_false nofun nofun, iff_of_true ⟨_, rfl⟩ ⟨_, rfl⟩⟩

private theorem map_eq_ok_iff {α β : Type} {result : Except Halt α} {f : α → β} {value : β} :
    result.map f = .ok value ↔ ∃ given, result = .ok given ∧ f given = value := by
  cases result with
  | ok given => simp [Except.map]
  | error halt => simp [Except.map]

private theorem map_thrown_iff {α β : Type} {result : Except Halt α} {f : α → β} :
    (∃ thrown, result.map f = .error (.thrown thrown)) ↔
      ∃ thrown, result = .error (.thrown thrown) := by
  cases result with
  | ok given => simp [Except.map]
  | error halt => simp [Except.map]

private theorem sameBinding_ok_iff {values : List BoundValue}
    {second : Except Halt (List BoundValue)} :
    SameBinding (.ok values) second ↔ second = .ok values := by
  constructor
  · rintro ⟨binds, -⟩
    exact (binds values).mp rfl
  · rintro rfl
    exact ⟨fun _ => .rfl, .rfl⟩

section Found

variable (codec : AnyCodec) (numberText : JsNumber → String)

private theorem found_bound_of_arrived {found : List (Option JsArgument)} {values : List BoundValue}
    (bound : found.map (boundAs (codec.arrived numberText)) = values.map some) :
    ∃ values : List BoundValue,
      found.map (boundAs (JsArgument.stringified numberText)) = values.map some := by
  induction found generalizing values with
  | nil => exact ⟨[], rfl⟩
  | cons first found ih =>
      rcases values with _ | ⟨value, values⟩
      · cases bound
      obtain ⟨here, later⟩ := List.cons.inj bound
      obtain ⟨values, others⟩ := ih later
      rcases first with _ | argument
      · cases here
      obtain ⟨value, one⟩ := bound_of_arrived codec numberText here
      exact ⟨value :: values, by rw [List.map_cons, one, others, List.map_cons]⟩

def AllKept (here there : NullPointers) (found : List (Option JsArgument)) : Prop :=
  ∀ placeholder value, found[placeholder]? = some (some (JsArgument.value value)) →
    value.Kept codec numberText (here placeholder) (there placeholder)

private theorem allKept_cons {here there : NullPointers} {value : BindValue}
    {found : List (Option JsArgument)} :
    AllKept codec numberText here there (some (.value value) :: found) ↔
      value.Kept codec numberText (here 0) (there 0) ∧
        AllKept codec numberText (fun placeholder => here (placeholder + 1))
          (fun placeholder => there (placeholder + 1)) found := by
  constructor
  · exact fun kept => ⟨kept 0 value rfl, fun placeholder => kept (placeholder + 1)⟩
  · rintro ⟨first, later⟩ placeholder other isOther
    cases placeholder with
    | zero =>
        cases isOther
        exact first
    | succ placeholder => exact later placeholder other isOther

private theorem found_arrived_iff {found : List (Option JsArgument)} {values : List BoundValue}
    (here there : NullPointers)
    (bound : found.map (boundAs (JsArgument.stringified numberText)) = values.map some) :
    (∃ arrived : List BoundValue,
        found.map (boundAs (codec.arrived numberText)) = arrived.map some ∧
          storedValues there arrived = storedValues here values) ↔
      AllKept codec numberText here there found := by
  induction found generalizing values here there with
  | nil =>
      cases values with
      | nil => exact iff_of_true ⟨[], rfl, rfl⟩ fun _ _ impossible => by cases impossible
      | cons value values => cases bound
  | cons first found ih =>
      rcases values with _ | ⟨value, values⟩
      · cases bound
      obtain ⟨isBound, later⟩ := List.cons.inj bound
      rcases first with _ | argument | entries
      · cases isBound
      · rw [allKept_cons, ← arrived_iff_kept codec numberText (here 0) (there 0) isBound,
          ← ih (fun placeholder => here (placeholder + 1))
            (fun placeholder => there (placeholder + 1)) later]
        constructor
        · rintro ⟨arrived, isArrived, same⟩
          rcases arrived with _ | ⟨head, rest⟩
          · cases isArrived
          obtain ⟨isHead, isRest⟩ := List.cons.inj isArrived
          obtain ⟨sameHead, sameRest⟩ := List.cons.inj
            ((List.mapIdx_cons ..).symm.trans (same.trans (List.mapIdx_cons ..)))
          exact ⟨⟨head, isHead, sameHead⟩, rest, isRest, sameRest⟩
        · rintro ⟨⟨head, isHead, sameHead⟩, rest, isRest, sameRest⟩
          refine ⟨head :: rest, by rw [List.map_cons, isHead, isRest, List.map_cons], ?_⟩
          unfold storedValues
          rw [List.mapIdx_cons, List.mapIdx_cons]
          exact congrArg₂ List.cons sameHead sameRest
      · cases isBound

/-- The same for whole argument lists without a bigint. -/
theorem sameBinding_arrived_iff (here there : NullPointers) (names : List (Option String))
    (named : Option NamedArguments) (positional : List JsArgument)
    (numbers : ∀ argument, some argument ∈ (foundArguments named names positional).1 →
      argument.isBigint = false) :
    SameBinding
        ((bindParameters names (named.map (mapNamed (JsArgument.stringified numberText)))
          (positional.map (JsArgument.stringified numberText))).map (storedValues here))
        ((bindParameters names (named.map (mapNamed (codec.arrived numberText)))
          (positional.map (codec.arrived numberText))).map (storedValues there)) ↔
      Misfit names named positional ∨
        AllKept codec numberText here there (foundArguments named names positional).1 := by
  have localOk := bindParameters_ok_iff (stringified_record numberText []) names named positional
  have localThrown := bindParameters_thrown_iff numberText names named positional
  have arrivedRecord : codec.arrived numberText (.record []) = .record [] := rfl
  have remoteOk := bindParameters_ok_iff arrivedRecord names named positional
  cases bound : bindParameters names (named.map (mapNamed (JsArgument.stringified numberText)))
      (positional.map (JsArgument.stringified numberText)) with
  | ok values =>
      have fits : ¬Misfit names named positional := by
        rw [← localThrown, bound]
        exact nofun
      obtain ⟨found, empty, known⟩ := (localOk values).mp bound
      rw [Except.map, sameBinding_ok_iff, map_eq_ok_iff, or_iff_right fits,
        ← found_arrived_iff codec numberText here there found]
      constructor
      · rintro ⟨arrived, isArrived, same⟩
        exact ⟨arrived, ((remoteOk arrived).mp isArrived).1, same⟩
      · rintro ⟨arrived, isFound, same⟩
        exact ⟨arrived, (remoteOk arrived).mpr ⟨isFound, empty, known⟩, same⟩
  | error halt =>
      cases halt with
      | asserted =>
          exact absurd bound (bindParameters_asserted (stringified_record numberText []) names named
            positional fun argument found => parse_careful numberText (numbers argument found))
      | thrown thrown =>
          have misfit := localThrown.mp ⟨thrown, bound⟩
          refine iff_of_true ?_ (.inl misfit)
          cases arrives : bindParameters names (named.map (mapNamed (codec.arrived numberText)))
              (positional.map (codec.arrived numberText)) with
          | ok values =>
              -- What is bound after the way through the oplog is bound before it.
              obtain ⟨found, empty, known⟩ := (remoteOk values).mp arrives
              obtain ⟨values, found⟩ := found_bound_of_arrived codec numberText found
              rw [(localOk values).mpr ⟨found, empty, known⟩] at bound
              cases bound
          | error halt =>
              cases halt with
              | thrown value => exact sameBinding_thrown_iff.mpr ⟨thrown, rfl⟩
              | asserted =>
                  exact absurd arrives (bindParameters_asserted arrivedRecord names named positional
                    fun argument found => arrived_careful codec numberText
                      (numbers argument found))

end Found

namespace ParameterList

/-- The replicated path binds what the local path binds, or both reject, exactly when the
arguments do not fit the placeholders, or there is no bigint among them and every value
that is bound is kept by the any-codec. -/
theorem sameBinding_iff (wire : Wire) (codec : AnyCodec) (numberText : JsNumber → String)
    (here there : NullPointers) (names : List (Option String)) (queued : Bool) (sql : String)
    (list : ParameterList)
    (tag : ∀ type ∈ [OPERATION.run, OPERATION.batch], wire.c.uint8.RoundTrips type type)
    (text : wire.c.string.RoundTrips (some sql) (some sql))
    (handlesNamed : codec.Handles wire.c (.ofNamed list.namedArguments))
    (handlesPositional : codec.Handles wire.c (.list list.positionalArguments)) :
    SameBinding ((bindArguments numberText names list.arguments).map (storedValues here))
        ((wire.bindArguments numberText names queued sql list.arguments).map
          (storedValues there)) ↔
      Misfit names list.namedArguments list.positionalArguments ∨
        (list.bigintFree = true ∧ AllKept codec numberText here there
          (foundArguments list.namedArguments names list.positionalArguments).1) := by
  by_cases free : list.bigintFree = true
  · have freeBoth := free
    rw [bigintFree, Bool.and_eq_true] at freeBoth
    rw [bindArguments_eq tag text names _ list.splitParameters_arguments handlesNamed
      handlesPositional freeBoth.1 freeBoth.2, bindArguments, list.splitParameters_arguments,
      and_iff_right free]
    exact sameBinding_arrived_iff codec numberText here there names _ _ (isBigint_found free)
  · obtain ⟨thrown, fails⟩ := bindArguments_thrown wire codec numberText names queued sql list tag
      text handlesNamed handlesPositional (by simpa using free)
    rw [fails, Except.map, sameBinding_thrown_iff, map_thrown_iff, bindArguments,
      list.splitParameters_arguments]
    have rejects := bindParameters_thrown_iff numberText names list.namedArguments
      list.positionalArguments
    simp only [free, Bool.false_eq_true, false_and, or_false]
    exact rejects

end ParameterList

/-- `any`, on null and on an array with one `ArrayBuffer`, which has no own properties. -/
def bufferEncoding : Encoding JsValue (Option Payload) :=
  .ofBytes
    (fun
      | none => .ok [0]
      | some .null => .ok [0]
      | some (.list [.value (.arrayBuffer _)]) => .ok [7, 1, 8, 0]
      | some _ => .error .undefined)
    (fun
      | 0 :: _ => .ok (some .null, 1)
      | 7 :: 1 :: 8 :: 0 :: _ => .ok (some (.list [.record []]), 4)
      | _ => .error Primitives.outOfBounds)

def Wire.sample : Wire :=
  { c :=
      { uint8 := Primitives.byteEncoding, fixed32 := Primitives.keyEncoding,
        string := Primitives.textEncoding, any := bufferEncoding }
    allocator := .zeroed
    compression := none }

def AnyCodec.sample : AnyCodec := { keepNumber := id, ownEntries := fun _ => [] }

private theorem roundTrips_nullPayload : bufferEncoding.RoundTrips (some .null) (some .null) := by
  refine ⟨[0], ?_⟩
  apply Encoding.carries_ofBytes
  · rfl
  intro rest
  rfl

private theorem roundTrips_arrayBuffer (bytes : Buffer) :
    bufferEncoding.RoundTrips (some (.list [.value (.arrayBuffer bytes)]))
      (some (.list [.record []])) := by
  refine ⟨[7, 1, 8, 0], ?_⟩
  apply Encoding.carries_ofBytes
  · rfl
  intro rest
  rfl

namespace ParameterList

/-- `run(new ArrayBuffer(2))`, with nothing to be said of numbers. -/
theorem sameBinding_iff_arrayBuffer :
    SameBinding
        ((bindArguments (fun _ => "") [none] [.value (.arrayBuffer [0, 0])]).map
          (storedValues fun _ => true))
        ((Wire.sample.bindArguments (fun _ => "") [none] false "SELECT ?"
          [.value (.arrayBuffer [0, 0])]).map (storedValues fun _ => false)) ↔
      Misfit [none] none [.value (.arrayBuffer [0, 0])] ∨
        (ParameterList.bigintFree { named := none, positional := [.arrayBuffer [0, 0]] } = true ∧
          AllKept .sample (fun _ => "") (fun _ => true) (fun _ => false)
            (foundArguments none [none] [.value (.arrayBuffer [0, 0])]).1) := by
  refine sameBinding_iff .sample .sample (fun _ => "") _ _ [none] false "SELECT ?"
    { named := none, positional := [.arrayBuffer [0, 0]] } ?_ ?_
    ⟨fun _ => roundTrips_nullPayload, nofun⟩ ⟨fun _ => roundTrips_arrayBuffer [0, 0], nofun⟩
  · intro type member
    apply Primitives.roundTrips_byte
    simp only [List.mem_cons, List.not_mem_nil, or_false] at member
    rcases member with rfl | rfl <;> decide
  · exact Primitives.roundTrips_text (by decide) (by decide)

/-- `get` binds the two bytes.  `run` sends an object without properties, which is not
supported where it is bound. -/
theorem sameBinding_arrayBuffer_fails :
    ¬SameBinding
        ((bindArguments (fun _ => "") [none] [.value (.arrayBuffer [0, 0])]).map
          (storedValues fun _ => true))
        ((Wire.sample.bindArguments (fun _ => "") [none] false "SELECT ?"
          [.value (.arrayBuffer [0, 0])]).map (storedValues fun _ => false)) := by
  intro same
  have remote : Wire.sample.bindArguments (fun _ => "") [none] false "SELECT ?"
      [.value (.arrayBuffer [0, 0])] = .error (cancelBind "Unsupported parameter type") := by
    decide
  have binds := (same.1 [.blob [0, 0]]).mp rfl
  rw [remote] at binds
  cases binds

end ParameterList

end ParaQL
