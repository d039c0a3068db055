/-
Which values other than numbers SQLite gets whole.

`paraql__parse_value` takes the number of elements of a typed array for its bytes, has no
arm for a `DataView`, and runs on from the arm of a bigint into the one of a string.
-/

import ParaQL.NativeValues

namespace ParaQL

open Bytes

namespace HostValue

def NonNumeric : HostValue → Prop
  | .null | .undefined | .arrayBuffer _ | .view _ _ => True
  | .bigint n => -2 ^ 63 ≤ n ∧ n < 2 ^ 63
  | .string text => (cBytes text).length < 2 ^ 31
  | .number _ | .other _ => False

def content : HostValue → Option SqliteValue
  | .null | .undefined => some .null
  | .bigint n => some (.integer (Int64.ofInt n))
  | .string text => some (.text (cBytes text))
  | .arrayBuffer bytes | .view _ bytes => some (.blob bytes)
  | .number _ | .other _ => none

/-- The element count is the byte count, and NULL is not the pointer of no bytes. -/
def CarriedWhole (engine : JsEngine) : HostValue → Prop
  | .bigint _ => False
  | .arrayBuffer bytes => bytes.length < 2 ^ 31 ∧
      ∃ data len, engine.arraybufferInfo (.arrayBuffer bytes) = some ⟨some data, len⟩
  | .view kind bytes => kind ≠ .dataView ∧ (kind.elementSize = 1 ∨ bytes = []) ∧
      bytes.length < 2 ^ 31 ∧
      ∃ data len, engine.typedarrayInfo (.view kind bytes) = some ⟨some data, len⟩
  | _ => True

end HostValue

/-- There is one call for the value, and it binds its content. -/
def BoundFaithfully (engine : JsEngine) (value : HostValue) : Prop :=
  ∃ call content, engine.Binds value call ∧ value.content = some content ∧
    call.bound = some content

private theorem intOfSize_of_lt {len : Nat} (small : len < 2 ^ 31) : intOfSize len = len := by
  unfold intOfSize
  rw [Int.bmod_def]
  omega

private theorem intOfSize_le (len : Nat) : intOfSize len ≤ len ∧ intOfSize len < 2 ^ 31 := by
  unfold intOfSize
  rw [Int.bmod_def]
  omega

/-- A blob is bound whole when all of it is counted, in an `int`, behind a pointer. -/
theorem blob_bound_iff {bytes : Buffer} {data : Option Buffer} (points : PointsTo bytes data)
    {len : Nat} (within : len ≤ bytes.length) :
    (SqliteBind.blob data (intOfSize len)).bound = some (.blob bytes) ↔
      data.isSome = true ∧ len = bytes.length ∧ bytes.length < 2 ^ 31 := by
  cases data with
  | none =>
      constructor
      · intro bound
        cases bound
      · intro ⟨isSome, _⟩
        cases isSome
  | some memory =>
      have least := intOfSize_le len
      constructor
      · intro bound
        rw [SqliteBind.bound_blob] at bound
        split at bound
        · rename_i nonneg
          injection bound with bound
          injection bound with taken
          have lengths := congrArg List.length taken
          rw [List.length_take] at lengths
          exact ⟨rfl, by omega, by omega⟩
        · cases bound
      · intro ⟨_, whole, small⟩
        have same : intOfSize len = len := intOfSize_of_lt (by omega)
        rw [SqliteBind.bound_blob, same, if_pos (Int.natCast_nonneg _), Int.toNat_natCast, whole]
        exact congrArg (fun bytes => some (SqliteValue.blob bytes))
          (List.prefix_iff_eq_take.1 points).symm

private theorem text_bound {text : String} (small : (cBytes text).length < 2 ^ 31) :
    (SqliteBind.text (some (cBytes text ++ [0])) (intOfSize (cBytes text).length)).bound =
      some (.text (cBytes text)) := by
  rw [SqliteBind.bound_text, intOfSize_of_lt small, if_pos (Int.natCast_nonneg _),
    Int.toNat_natCast, List.take_left]

private theorem binds_region_iff {engine : JsEngine} {value : HostValue} {region : Region}
    (parsed : (engine.parseValue value).result =
      .value { type := .object, isDouble := false, value := .buffer region })
    (call : SqliteBind) :
    engine.Binds value call ↔ call = .blob region.data (intOfSize region.len) := by
  rw [JsEngine.binds_iff, parsed]
  constructor
  · intro ⟨native, same, isCall⟩
    cases same
    exact (Option.some.inj isCall).symm
  · intro isCall
    subst isCall
    exact ⟨_, rfl, rfl⟩

private theorem faithful_region_iff {engine : JsEngine} {value : HostValue} {bytes : Buffer}
    (isContent : value.content = some (.blob bytes)) {region : Region}
    (binds : ∀ call, engine.Binds value call ↔
      call = .blob region.data (intOfSize region.len))
    (points : PointsTo bytes region.data) (within : region.len ≤ bytes.length) :
    BoundFaithfully engine value ↔
      region.data.isSome = true ∧ region.len = bytes.length ∧ bytes.length < 2 ^ 31 := by
  rw [← blob_bound_iff points within]
  constructor
  · intro ⟨call, content, isBound, same, bound⟩
    rw [isContent] at same
    rw [(binds call).1 isBound, ← same] at bound
    exact bound
  · intro bound
    exact ⟨_, _, (binds _).2 rfl, isContent, bound⟩

section Kinds

variable {engine : JsEngine} (documented : engine.Documented)
include documented

private theorem binds_string (text : String) :
    engine.Binds (.string text)
      (.text (some (cBytes text ++ [0])) (intOfSize (cBytes text).length)) := by
  apply JsEngine.binds_iff.2
  unfold JsEngine.parseValue JsEngine.parseString
  rw [documented.typeOf]
  dsimp only [HostValue.type]
  rw [documented.valueStringUtf8]
  exact ⟨_, rfl, rfl⟩

private theorem binds_null {value : HostValue}
    (isNull : value.type = .null ∨ value.type = .undefined) :
    engine.Binds value .null := by
  apply JsEngine.binds_iff.2
  unfold JsEngine.parseValue
  rw [documented.typeOf]
  rcases isNull with isNull | isUndefined
  · rw [isNull]
    exact ⟨_, rfl, rfl⟩
  · rw [isUndefined]
    exact ⟨_, rfl, rfl⟩

private theorem bigint_asserted (n : Int) : (engine.parseValue (.bigint n)).result = .asserted := by
  unfold JsEngine.parseValue JsEngine.parseString
  rw [documented.typeOf, documented.notString _ (by exact nofun)]
  dsimp only [HostValue.type]
  split
  · rfl
  · rfl

private theorem dataView_unsupported (bytes : Buffer) :
    (engine.parseValue (.view .dataView bytes)).result = .unsupported := by
  unfold JsEngine.parseValue JsEngine.parseObject
  rw [documented.typeOf, documented.isTypedarray, documented.isArraybuffer]
  rfl

private theorem bigint_not_bound (n : Int) (call : SqliteBind) : ¬engine.Binds
    (.bigint n) call := by
  intro ⟨native, parsed, _⟩
  rw [bigint_asserted documented] at parsed
  cases parsed

private theorem dataView_not_bound (bytes : Buffer) (call : SqliteBind) :
    ¬engine.Binds (.view .dataView bytes) call := by
  intro ⟨native, parsed, _⟩
  rw [dataView_unsupported documented] at parsed
  cases parsed

private theorem binds_typedarray_iff {kind : ViewKind} (typed : kind ≠ .dataView) {bytes : Buffer}
    {region : Region} (info : engine.typedarrayInfo (.view kind bytes) = some region)
    (call : SqliteBind) :
    engine.Binds (.view kind bytes) call ↔ call = .blob region.data (intOfSize region.len) := by
  apply binds_region_iff
  have isTyped : HostValue.isTypedarray (.view kind bytes) = true := decide_eq_true typed
  unfold JsEngine.parseValue JsEngine.parseObject
  rw [documented.typeOf, documented.isTypedarray, isTyped, info]
  rfl

private theorem binds_arraybuffer_iff {bytes : Buffer} {region : Region}
    (info : engine.arraybufferInfo (.arrayBuffer bytes) = some region) (call : SqliteBind) :
    engine.Binds (.arrayBuffer bytes) call ↔
      call = .blob region.data (intOfSize region.len) := by
  apply binds_region_iff
  unfold JsEngine.parseValue JsEngine.parseObject
  rw [documented.typeOf, documented.isTypedarray, documented.isArraybuffer, info]
  rfl

/-- A typed array is bound whole when its elements are bytes, or there are none. -/
theorem typedarray_faithful_iff {kind : ViewKind} (typed : kind ≠ .dataView) (bytes : Buffer) :
    BoundFaithfully engine (.view kind bytes) ↔
      (HostValue.view kind bytes).CarriedWhole engine := by
  obtain ⟨data, info, points⟩ := documented.typedarrayInfo kind bytes typed
  have elements : bytes.length / kind.elementSize = bytes.length ↔
      kind.elementSize = 1 ∨ bytes = [] := by
    rw [← List.length_eq_zero_iff]
    have positive : 0 < kind.elementSize := by cases kind <;> decide
    rw [Nat.div_eq_self]
    omega
  rw [faithful_region_iff rfl (binds_typedarray_iff documented typed info) points
    (Nat.div_le_self bytes.length kind.elementSize), elements]
  unfold HostValue.CarriedWhole
  constructor
  · intro ⟨isSome, counted, small⟩
    obtain ⟨memory, rfl⟩ := Option.isSome_iff_exists.1 isSome
    exact ⟨typed, counted, small, memory, _, info⟩
  · intro ⟨_, counted, small, memory, len, pointer⟩
    rw [info] at pointer
    cases pointer
    exact ⟨rfl, counted, small⟩

private theorem arraybuffer_faithful_iff (bytes : Buffer) :
    BoundFaithfully engine (.arrayBuffer bytes) ↔
      (HostValue.arrayBuffer bytes).CarriedWhole engine := by
  obtain ⟨data, info, points⟩ := documented.arraybufferInfo bytes
  rw [faithful_region_iff rfl (binds_arraybuffer_iff documented info) points
    (Nat.le_refl bytes.length)]
  unfold HostValue.CarriedWhole
  constructor
  · intro ⟨isSome, _, small⟩
    obtain ⟨memory, rfl⟩ := Option.isSome_iff_exists.1 isSome
    exact ⟨small, memory, _, info⟩
  · intro ⟨small, memory, len, pointer⟩
    rw [info] at pointer
    cases pointer
    exact ⟨rfl, rfl, small⟩

private theorem string_faithful {text : String} (small : (cBytes text).length < 2 ^ 31) :
    BoundFaithfully engine (.string text) :=
  ⟨_, _, binds_string documented text, rfl, text_bound small⟩

end Kinds

/-! ### The values of the direct path -/

def JsArgument.host (number : JsNumber → Double) : JsArgument → HostValue
  | .value .null => .null
  | .value .undefined => .undefined
  | .value (.number n) => .number (number n)
  | .value (.bigint n) => .bigint n
  | .value (.string text) => .string text
  | .value (.arrayBuffer bytes) => .arrayBuffer bytes
  | .value (.view kind bytes) => .view kind bytes
  | .value (.array _) | .record _ => .other .object

def BoundValue.stored : BoundValue → Option SqliteValue
  | .null => some .null
  | .integer n => some (.integer (Int64.ofInt n))
  | .double _ => none
  | .text string => some (.text (cBytes string))
  | .blob bytes => some (.blob bytes)

/-- A value that is no number, whose bytes are counted in an `int`. -/
def HostValue.Counted : HostValue → Prop
  | .string text => (cBytes text).length < 2 ^ 31
  | .arrayBuffer bytes | .view _ bytes => bytes.length < 2 ^ 31
  | .number _ => False
  | _ => True

def JsEngine.nullPointer (engine : JsEngine) (value : HostValue) : Bool :=
  match value with
  | .view _ _ => (engine.typedarrayInfo value).any fun region => region.data.isNone
  | .arrayBuffer _ => (engine.arraybufferInfo value).any fun region => region.data.isNone
  | _ => false

/-- The two models of `paraql__parse_value` come to the same. -/
def Agrees (engine : JsEngine) (value : HostValue) : Except Halt (Option BoundValue) → Prop
  | .ok (some bound) => ∃ call, engine.Binds value call ∧
      call.bound = (bound.storedBy (engine.nullPointer value)).stored
  | .ok none => (engine.parseValue value).result = .unsupported
  | .error _ => (engine.parseValue value).result = .asserted

private theorem blob_take {bytes : Buffer} {data : Option Buffer} (points : PointsTo bytes data)
    {len : Nat} (within : len ≤ bytes.length) (small : bytes.length < 2 ^ 31) :
    (SqliteBind.blob data (intOfSize len)).bound =
      ((BoundValue.blob (bytes.take len)).storedBy data.isNone).stored := by
  cases data with
  | none =>
      obtain rfl : bytes = [] := points
      rw [List.take_nil]
      rfl
  | some memory =>
      obtain ⟨rest, rfl⟩ := points
      rw [SqliteBind.bound_blob, intOfSize_of_lt (by omega), if_pos (Int.natCast_nonneg _),
        Int.toNat_natCast, List.take_append_of_le_length within, Option.isNone_some,
        BoundValue.storedBy_false]
      rfl

section Agreement

variable {engine : JsEngine} (documented : engine.Documented)
include documented

private theorem view_agrees {kind : ViewKind} (typed : kind ≠ .dataView) {bytes : Buffer}
    (small : bytes.length < 2 ^ 31) :
    Agrees engine (.view kind bytes)
      (.ok (some (.blob (bytes.take (bytes.length / kind.elementSize))))) := by
  obtain ⟨data, info, points⟩ := documented.typedarrayInfo kind bytes typed
  refine ⟨_, (binds_typedarray_iff documented typed info _).2 rfl, ?_⟩
  rw [JsEngine.nullPointer, info]
  exact blob_take points (Nat.div_le_self _ _) small

/-- On values that are no numbers, `parseValue` says what the engine and the worker do. -/
theorem parseValue_agrees (number : JsNumber → Double) (argument : JsArgument)
    (counted : (argument.host number).Counted) :
    Agrees engine (argument.host number) (parseValue argument) := by
  have object : (engine.parseValue (.other .object)).result = .unsupported := by
    unfold JsEngine.parseValue JsEngine.parseObject
    rw [documented.typeOf, documented.isTypedarray, documented.isArraybuffer]
    rfl
  cases argument with
  | record entries => exact object
  | value value =>
      cases value with
      | null => exact ⟨_, binds_null documented (Or.inl rfl), rfl⟩
      | undefined => exact ⟨_, binds_null documented (Or.inr rfl), rfl⟩
      | number n => exact False.elim counted
      | bigint n => exact bigint_asserted documented n
      | string text => exact ⟨_, binds_string documented text, text_bound counted⟩
      | arrayBuffer bytes =>
          obtain ⟨data, info, points⟩ := documented.arraybufferInfo bytes
          refine ⟨_, (binds_arraybuffer_iff documented info _).2 rfl, ?_⟩
          have whole := blob_take points (Nat.le_refl _) counted
          rw [List.take_length] at whole
          rw [JsArgument.host, JsEngine.nullPointer, info]
          exact whole
      | view kind bytes =>
          by_cases isView : kind = .dataView
          · subst isView
            exact dataView_unsupported documented bytes
          · have parsed : parseValue (.value (.view kind bytes)) =
                .ok (some (.blob (bytes.take (bytes.length / kind.elementSize)))) := by
              cases kind with
              | dataView => exact absurd rfl isView
              | _ => rfl
            rw [parsed]
            exact view_agrees documented isView counted
      | array items => exact object

/-- What is bound to the placeholders is what the engine makes of their arguments. -/
theorem bindParameters_agree (number : JsNumber → Double) {names : List (Option String)}
    {named : Option NamedArguments} {positional : List JsArgument} {values : List BoundValue}
    (counted : ∀ argument, some argument ∈ (foundArguments named names positional).1 →
      (argument.host number).Counted)
    (bound : bindParameters names named positional = .ok values) :
    ∀ (placeholder : Nat) (value : BoundValue), values[placeholder]? = some value →
      ∃ argument : JsArgument,
        (foundArguments named names positional).1[placeholder]? = some (some argument) ∧
        Agrees engine (argument.host number) (.ok (some value)) := by
  have unchanged : named.map (mapNamed id) = named := by
    cases named with
    | none => rfl
    | some entries => exact congrArg some (List.map_id entries)
  rw [← unchanged, ← List.map_id positional] at bound
  obtain ⟨found, -, -⟩ := (bindParameters_ok_iff rfl _ _ _ _).1 bound
  intro placeholder value isValue
  have here := congrArg (fun list => list[placeholder]?) found
  simp only [List.getElem?_map, isValue, Option.map_some, Option.map_eq_some_iff] at here
  obtain ⟨argument?, isFound, boundHere⟩ := here
  obtain ⟨argument, rfl, parsed⟩ := Option.bind_eq_some_iff.1 boundHere
  refine ⟨argument, isFound, ?_⟩
  have agrees := parseValue_agrees documented number argument
    (counted argument (List.mem_of_getElem? isFound))
  unfold parseSupported at parsed
  rw [id_eq] at parsed
  revert parsed agrees
  rcases parseValue argument with halt | _ | other <;> intro parsed agrees
  · cases parsed
  · cases parsed
  · cases parsed
    exact agrees

end Agreement

/-- Everything but bigints, `DataView`s and arrays of wider elements is bound with its content,
as long as its length is an `int` and the engine has a pointer for no bytes. -/
theorem boundFaithfully_iff (engine : JsEngine) (documented : engine.Documented)
    (value : HostValue) (nonNumeric : value.NonNumeric) :
    BoundFaithfully engine value ↔ value.CarriedWhole engine := by
  cases value with
  | null =>
      refine iff_of_true ⟨_, _, binds_null documented (Or.inl rfl), rfl, rfl⟩ trivial
  | undefined =>
      refine iff_of_true ⟨_, _, binds_null documented (Or.inr rfl), rfl, rfl⟩ trivial
  | number n => cases nonNumeric
  | bigint n =>
      refine iff_of_false ?_ nofun
      intro ⟨call, _, binds, _⟩
      exact bigint_not_bound documented n call binds
  | string text => exact iff_of_true (string_faithful documented nonNumeric) trivial
  | arrayBuffer bytes => exact arraybuffer_faithful_iff documented bytes
  | view kind bytes =>
      by_cases typed : kind = .dataView
      · subst typed
        refine iff_of_false ?_ fun carried => carried.1 rfl
        intro ⟨call, _, binds, _⟩
        exact dataView_not_bound documented bytes call binds
      · exact typedarray_faithful_iff documented typed bytes
  | other type => cases nonNumeric

/-- Three bytes, and no elements of eight bytes. -/
theorem boundFaithfully_typedArrays :
    BoundFaithfully .saturating (.view .uint8Array [1, 2, 3]) ∧
      (BoundFaithfully .saturating (.view .float64Array []) ↔
        (HostValue.view .float64Array []).CarriedWhole .saturating) :=
  ⟨(boundFaithfully_iff .saturating JsEngine.saturating_documented (.view .uint8Array [1, 2, 3])
      trivial).2 ⟨by decide, Or.inl rfl, by decide, _, _, rfl⟩,
    boundFaithfully_iff .saturating JsEngine.saturating_documented (.view .float64Array []) trivial⟩

/-- Of two elements with two bytes each, two bytes are bound.  Bigints and `DataView`s are not
bound at all. -/
theorem boundFaithfully_uint16_fails :
    (HostValue.view .uint16Array [1, 0, 2, 0]).NonNumeric ∧
      JsEngine.saturating.Binds (.view .uint16Array [1, 0, 2, 0]) (.blob (some [1, 0, 2, 0]) 2) ∧
      ¬BoundFaithfully .saturating (.view .uint16Array [1, 0, 2, 0]) ∧
      (∀ call, ¬JsEngine.saturating.Binds (.bigint 1) call) ∧
      ∀ call, ¬JsEngine.saturating.Binds (.view .dataView [1]) call := by
  have documented := JsEngine.saturating_documented
  refine ⟨trivial, ?_, ?_, bigint_not_bound documented 1, dataView_not_bound documented [1]⟩
  · exact (binds_typedarray_iff documented (by decide) rfl _).2 rfl
  · intro faithful
    have carried := (typedarray_faithful_iff documented (by decide) _).1 faithful
    rcases carried.2.1 with bytes | empty
    · cases bytes
    · cases empty

end ParaQL
