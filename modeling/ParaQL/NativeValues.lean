/-
The values of parameters and of columns between the engine and SQLite, as binding.c has them.

`paraql__parse_value` puts a value into a tagged union, and `paraql__on_before_bind` reads
the union by its tag.  A row goes the other way, from `paraql__on_before_step` to
`paraql__on_after_step`.  What js.h does is a parameter, with what it documents as laws.
-/

import ParaQL.Numbers.Binary
import ParaQL.ParameterMatching

namespace ParaQL

open Bytes

def binary64 : Binary.Format := { precision := 53, minExp := -1074, maxExp := 971 }

abbrev Double := Binary.Number binary64

inductive JsType where
  | undefined
  | null
  | boolean
  | number
  | string
  | symbol
  | object
  | function
  | external
  | bigint
  deriving DecidableEq, Repr

inductive HostValue where
  | null
  | undefined
  | number (value : Double)
  | bigint (value : Int)
  | string (text : String)
  | arrayBuffer (bytes : Buffer)
  | view (kind : ViewKind) (bytes : Buffer)
  | other (type : JsType)

structure Region where
  data : Option Buffer
  len : Nat
  deriving DecidableEq, Repr

/-- The calls of js.h, and what `(int64_t) n` gives where C leaves it undefined.  A call that
fails has no result. -/
structure JsEngine where
  typeOf : HostValue → JsType
  valueDouble : HostValue → Option Double
  valueBigintInt64 : HostValue → Option Int64
  valueStringUtf8 : HostValue → Option Buffer
  isTypedarray : HostValue → Bool
  typedarrayInfo : HostValue → Option Region
  isArraybuffer : HostValue → Bool
  arraybufferInfo : HostValue → Option Region
  createInt64 : Int64 → Double
  createStringUtf8 : Buffer → String
  castOutOfRange : Double → Int64

theorem fits_int64 (value : Int64) : binary64.Fits value.toInt := by
  refine ⟨by decide, by decide, ?_⟩
  have below := value.toInt_lt
  have above := value.le_toInt
  have size : Nat.size value.toInt.natAbs ≤ 64 := by
    apply Nat.size_le.2
    omega
  change (Nat.size value.toInt.natAbs : Int) ≤ 971
  omega

/-- `(double) i`. -/
def doubleOfInt64 (i : Int64) : Double := Binary.Number.ofInt binary64 i.toInt (fits_int64 i)

/-- The range that `(int64_t) n` is defined on. -/
def CastDefined (n : Double) : Prop :=
  ∃ truncated, n.truncation = some truncated ∧ -2 ^ 63 ≤ truncated ∧ truncated < 2 ^ 63

def intOfSize (len : Nat) : Int := (len : Int).bmod (2 ^ 32)

namespace JsEngine

variable (engine : JsEngine)

/-- `(int64_t) n`. -/
def int64OfDouble (n : Double) : Int64 :=
  match n.truncation with
  | none => engine.castOutOfRange n
  | some truncated =>
      if -2 ^ 63 ≤ truncated ∧ truncated < 2 ^ 63 then Int64.ofInt truncated
      else engine.castOutOfRange n

end JsEngine

inductive NativePayload where
  | unset
  | i (value : Int64)
  | d (value : Double)
  | buffer (region : Region)

structure NativeValue where
  type : JsType
  isDouble : Bool
  value : NativePayload

inductive Parsed where
  | value (value : NativeValue)
  -- NULL.
  | unsupported
  | asserted

/-- The numbers that `(int64_t) n` was evaluated on, and what came of it. -/
structure ParseRun where
  conversions : List Double
  result : Parsed

namespace JsEngine

variable (engine : JsEngine)

def parseString (value : HostValue) : Parsed :=
  match engine.valueStringUtf8 value with
  | none => .asserted
  | some bytes =>
      .value { type := .string, isDouble := false
               value := .buffer ⟨some (bytes ++ [0]), bytes.length⟩ }

def parseObject (value : HostValue) : Parsed :=
  if engine.isTypedarray value then
    match engine.typedarrayInfo value with
    | none => .asserted
    | some region => .value { type := .object, isDouble := false, value := .buffer region }
  else if engine.isArraybuffer value then
    match engine.arraybufferInfo value with
    | none => .asserted
    | some region => .value { type := .object, isDouble := false, value := .buffer region }
  else .unsupported

def parseValue (value : HostValue) : ParseRun :=
  match engine.typeOf value with
  | .null | .undefined => ⟨[], .value { type := .null, isDouble := false, value := .unset }⟩
  | .number =>
      match engine.valueDouble value with
      | none => ⟨[], .asserted⟩
      | some n =>
          let i := engine.int64OfDouble n
          if n.equal (doubleOfInt64 i) then
            ⟨[n], .value { type := .number, isDouble := false, value := .i i }⟩
          else ⟨[n], .value { type := .number, isDouble := true, value := .d n }⟩
  | .bigint =>
      match engine.valueBigintInt64 value with
      | none => ⟨[], .asserted⟩
      -- There is no break: the integer is stored, and overwritten in the next arm.
      | some _ => ⟨[], engine.parseString value⟩
  | .string => ⟨[], engine.parseString value⟩
  | .object => ⟨[], engine.parseObject value⟩
  | _ => ⟨[], .unsupported⟩

end JsEngine

/-- A call of `sqlite3_bind_*` after the index. -/
inductive SqliteBind where
  | null
  | double (value : Double)
  | int64 (value : Int64)
  | text (data : Option Buffer) (n : Int)
  | blob (data : Option Buffer) (n : Int)

inductive SqliteValue where
  | null
  | integer (value : Int64)
  | float (value : Double)
  | text (bytes : Buffer)
  | blob (bytes : Buffer)

def SqliteBind.bound : SqliteBind → Option SqliteValue
  | .null => some .null
  | .double value => some (.float value)
  | .int64 value => some (.integer value)
  | .text none _ => some .null
  | .text (some data) n =>
      if 0 ≤ n then some (.text (data.take n.toNat)) else some (.text (data.takeWhile (· ≠ 0)))
  | .blob none _ => some .null
  | .blob (some data) n => if 0 ≤ n then some (.blob (data.take n.toNat)) else none

@[simp] theorem SqliteBind.bound_text (data : Buffer) (n : Int) :
    (SqliteBind.text (some data) n).bound =
      if 0 ≤ n then some (.text (data.take n.toNat))
      else some (.text (data.takeWhile (· ≠ 0))) := rfl

@[simp] theorem SqliteBind.bound_blob (data : Buffer) (n : Int) :
    (SqliteBind.blob (some data) n).bound =
      if 0 ≤ n then some (.blob (data.take n.toNat)) else none := rfl

/-- The switch of `paraql__on_before_bind`, none where it makes no call. -/
def NativeValue.bindCall (native : NativeValue) : Option SqliteBind :=
  match native.type, native.value with
  | .null, _ | .undefined, _ => some .null
  | .number, .d value => if native.isDouble then some (.double value) else none
  | .number, .i value => if native.isDouble then none else some (.int64 value)
  | .bigint, .i value => some (.int64 value)
  | .string, .buffer region => some (.text region.data (intOfSize region.len))
  | .object, .buffer region => some (.blob region.data (intOfSize region.len))
  | _, _ => none

structure NativeBind where
  index : Nat
  call : SqliteBind

structure NativeWork where
  calls : List NativeBind
  errcode : Int

/-- The loop from index `i` on.  Where the switch makes no call, `status` is not set. -/
def bindNativeFrom (status : NativeBind → Int) (i : Nat) : List NativeValue → Option NativeWork
  | [] => some { calls := [], errcode := 0 }
  | native :: rest =>
      match native.bindCall with
      | none => none
      | some call =>
          if status ⟨i, call⟩ ≠ 0 then
            some { calls := [⟨i, call⟩], errcode := status ⟨i, call⟩ }
          else
            (bindNativeFrom status (i + 1) rest).map fun work =>
              { work with calls := ⟨i, call⟩ :: work.calls }

/-- `paraql__on_before_bind` on `req->values`. -/
def bindNative (status : NativeBind → Int) (isOpen : Bool) (values : List NativeValue) :
    Option NativeWork :=
  if isOpen then bindNativeFrom status 1 values else some { calls := [], errcode := sqliteMisuse }

inductive ColumnType where
  | integer
  | float
  | text
  | blob
  | null
  deriving DecidableEq, Repr

structure StepValue where
  name : String
  type : ColumnType
  value : NativePayload

/-- The switch of `paraql__on_before_step`. -/
def readColumn (name : String) : SqliteValue → StepValue
  | .integer value => { name := name, type := .integer, value := .i value }
  | .float value => { name := name, type := .float, value := .d value }
  | .text bytes => { name := name, type := .text, value := .buffer ⟨some bytes, bytes.length⟩ }
  | .blob bytes => { name := name, type := .blob, value := .buffer ⟨some bytes, bytes.length⟩ }
  | .null => { name := name, type := .null, value := .unset }

def Region.bytes (region : Region) : Buffer := (region.data.getD []).take region.len

namespace JsEngine

variable (engine : JsEngine)

/-- The switch of `paraql__on_after_step`. -/
def createValue (val : StepValue) : HostValue :=
  match val.type, val.value with
  | .integer, .i value => .number (engine.createInt64 value)
  | .float, .d value => .number value
  | .text, .buffer region => .string (engine.createStringUtf8 region.bytes)
  | .blob, .buffer region => .arrayBuffer region.bytes
  | _, _ => .null

def row (columns : List (String × SqliteValue)) : List (String × HostValue) :=
  (columns.map fun column => readColumn column.1 column.2).map fun val =>
    (val.name, engine.createValue val)

end JsEngine

namespace HostValue

/-- `typeof`, where null has a type of its own. -/
def type : HostValue → JsType
  | .null => .null
  | .undefined => .undefined
  | .number _ => .number
  | .bigint _ => .bigint
  | .string _ => .string
  | .arrayBuffer _ | .view _ _ => .object
  | .other type => type

/-- A `DataView` is none. -/
def isTypedarray : HostValue → Bool
  | .view kind _ => kind ≠ .dataView
  | _ => false

def isArraybuffer : HostValue → Bool
  | .arrayBuffer _ => true
  | _ => false

end HostValue

/-- The pointer leads to the bytes.  For no bytes it may be NULL. -/
def PointsTo (bytes : Buffer) : Option Buffer → Prop
  | none => bytes = []
  | some memory => bytes <+: memory

structure JsEngine.Documented (engine : JsEngine) : Prop where
  typeOf : ∀ value, engine.typeOf value = value.type
  valueDouble : ∀ n, engine.valueDouble (.number n) = some n
  valueBigintInt64 : ∀ n, -2 ^ 63 ≤ n → n < 2 ^ 63 →
    engine.valueBigintInt64 (.bigint n) = some (Int64.ofInt n)
  valueStringUtf8 : ∀ text, engine.valueStringUtf8 (.string text) = some (cBytes text)
  notString : ∀ value, value.type ≠ .string → engine.valueStringUtf8 value = none
  isTypedarray : ∀ value, engine.isTypedarray value = value.isTypedarray
  -- The length of a typed array is its number of elements.
  typedarrayInfo : ∀ kind bytes, kind ≠ .dataView → ∃ data,
    engine.typedarrayInfo (.view kind bytes) = some ⟨data, bytes.length / kind.elementSize⟩ ∧
      PointsTo bytes data
  isArraybuffer : ∀ value, engine.isArraybuffer value = value.isArraybuffer
  arraybufferInfo : ∀ bytes, ∃ data,
    engine.arraybufferInfo (.arrayBuffer bytes) = some ⟨data, bytes.length⟩ ∧ PointsTo bytes data
  createInt64 : ∀ i, ∃ value, (engine.createInt64 i).value = some value ∧
    binary64.Nearest i.toInt value

def JsEngine.saturating : JsEngine where
  typeOf := HostValue.type
  valueDouble
    | .number n => some n
    | _ => none
  valueBigintInt64
    | .bigint n => some (Int64.ofInt n)
    | _ => none
  valueStringUtf8
    | .string text => some (cBytes text)
    | _ => none
  isTypedarray := HostValue.isTypedarray
  typedarrayInfo
    | .view kind bytes => some ⟨some bytes, bytes.length / kind.elementSize⟩
    | _ => none
  isArraybuffer := HostValue.isArraybuffer
  arraybufferInfo
    | .arrayBuffer bytes => some ⟨some bytes, bytes.length⟩
    | _ => none
  createInt64 := doubleOfInt64
  createStringUtf8 bytes := (String.fromUTF8? ⟨bytes.toArray⟩).getD ""
  castOutOfRange
    | .finite value _ => if 0 < value then Int64.maxValue else Int64.minValue
    | .infinity negative => if negative then Int64.minValue else Int64.maxValue
    | .nan => 0

theorem JsEngine.saturating_documented : JsEngine.saturating.Documented where
  typeOf _ := rfl
  valueDouble _ := rfl
  valueBigintInt64 _ _ _ := rfl
  valueStringUtf8 _ := rfl
  notString value notString := by
    cases value with
    | string text => exact absurd rfl notString
    | _ => rfl
  isTypedarray _ := rfl
  typedarrayInfo _ bytes _ := ⟨some bytes, rfl, List.prefix_rfl⟩
  isArraybuffer _ := rfl
  arraybufferInfo bytes := ⟨some bytes, rfl, List.prefix_rfl⟩
  createInt64 i := ⟨_, rfl, Binary.roundInt_nearest (fits_int64 i)⟩

/-! ### Every parsed value is bound once -/

/-- The values in the array come from `paraql__parse_value`. -/
def JsEngine.Parses (engine : JsEngine) (native : NativeValue) : Prop :=
  ∃ value, (engine.parseValue value).result = .value native

private theorem parseString_bindCall {engine : JsEngine} {value : HostValue} {native : NativeValue}
    (parsed : engine.parseString value = .value native) : ∃ call, native.bindCall = some call := by
  unfold JsEngine.parseString at parsed
  split at parsed
  · cases parsed
  · cases parsed
    exact ⟨_, rfl⟩

private theorem parseObject_bindCall {engine : JsEngine} {value : HostValue} {native : NativeValue}
    (parsed : engine.parseObject value = .value native) : ∃ call, native.bindCall = some call := by
  unfold JsEngine.parseObject at parsed
  split at parsed
  · split at parsed
    · cases parsed
    · cases parsed
      exact ⟨_, rfl⟩
  · split at parsed
    · split at parsed
      · cases parsed
      · cases parsed
        exact ⟨_, rfl⟩
    · cases parsed

/-- The two switches agree on tags and payloads. -/
theorem JsEngine.Parses.bindCall {engine : JsEngine} {native : NativeValue}
    (parses : engine.Parses native) : ∃ call, native.bindCall = some call := by
  obtain ⟨value, parsed⟩ := parses
  unfold parseValue at parsed
  split at parsed
  · cases parsed
    exact ⟨_, rfl⟩
  · cases parsed
    exact ⟨_, rfl⟩
  · split at parsed
    · cases parsed
    · dsimp only at parsed
      split at parsed
      · cases parsed
        exact ⟨_, rfl⟩
      · cases parsed
        exact ⟨_, rfl⟩
  · split at parsed
    · cases parsed
    · exact parseString_bindCall parsed
  · exact parseString_bindCall parsed
  · exact parseObject_bindCall parsed
  · cases parsed

/-- The calls are those of the values in order, up to the first that SQLite refuses. -/
theorem bindNativeFrom_calls (status : NativeBind → Int) {values : List NativeValue}
    (bindable : ∀ native ∈ values, ∃ call, native.bindCall = some call) (i : Nat) :
    ∃ work, bindNativeFrom status i values = some work ∧
      ∀ call ∈ work.calls, i ≤ call.index := by
  induction values generalizing i with
  | nil =>
      refine ⟨_, rfl, fun made member => ?_⟩
      cases member
  | cons native rest ih =>
      obtain ⟨call, isCall⟩ := bindable native List.mem_cons_self
      obtain ⟨work, ran, later⟩ := ih (fun other member =>
        bindable other (List.mem_cons_of_mem _ member)) (i + 1)
      rw [bindNativeFrom, isCall]
      dsimp only
      split
      · refine ⟨_, rfl, fun made member => ?_⟩
        rw [List.mem_singleton.1 member]
      · refine ⟨_, by rw [ran]; rfl, fun made member => ?_⟩
        rcases List.mem_cons.1 member with rfl | member
        · exact Nat.le_refl _
        · exact Nat.le_of_succ_le (later made member)

/-- Where the worker gets to a value, it makes one call with the index of the value. -/
theorem bindNativeFrom_once (status : NativeBind → Int) {earlier later : List NativeValue}
    {native : NativeValue} {call : SqliteBind} (isCall : native.bindCall = some call)
    (bindable : ∀ other ∈ later, ∃ call, other.bindCall = some call) (i : Nat)
    (accepted : ∀ k other, earlier[k]? = some other →
      ∃ call, other.bindCall = some call ∧ status ⟨i + k, call⟩ = 0) :
    ∃ work, bindNativeFrom status i (earlier ++ (native :: later)) = some work ∧
      work.calls.filter (fun made => made.index == i + earlier.length) =
        [⟨i + earlier.length, call⟩] := by
  induction earlier generalizing i with
  | nil =>
      obtain ⟨work, ran, after⟩ := bindNativeFrom_calls status bindable (i + 1)
      have others : work.calls.filter (fun made => made.index == i) = [] := by
        apply List.filter_eq_nil_iff.2
        intro made member same
        have := after made member
        have := beq_iff_eq.1 same
        omega
      rw [List.nil_append, bindNativeFrom, isCall]
      simp only [List.length_nil, Nat.add_zero]
      split
      · exact ⟨_, rfl, by simp⟩
      · refine ⟨_, by rw [ran]; rfl, ?_⟩
        rw [List.filter_cons_of_pos (by simp), others]
  | cons first earlier ih =>
      obtain ⟨made, isMade, succeeded⟩ := accepted 0 first rfl
      obtain ⟨work, ran, once⟩ := ih (i + 1) fun k other found => by
        rw [Nat.add_right_comm]
        exact accepted (k + 1) other found
      have index : i + 1 + earlier.length = i + (first :: earlier).length := by
        rw [List.length_cons]
        omega
      rw [index] at once
      have passes : ¬status ⟨i, made⟩ ≠ 0 := not_not.2 succeeded
      rw [List.cons_append, bindNativeFrom, isMade]
      dsimp only
      rw [if_neg passes, ran]
      refine ⟨_, rfl, ?_⟩
      rw [List.filter_cons_of_neg (by simp), once]

def JsEngine.Binds (engine : JsEngine) (value : HostValue) (call : SqliteBind) : Prop :=
  ∃ native, (engine.parseValue value).result = .value native ∧
    ∀ (status : NativeBind → Int) (earlier later : List NativeValue),
      (∀ other ∈ later, engine.Parses other) →
      (∀ k other, earlier[k]? = some other →
        ∃ call, other.bindCall = some call ∧ status ⟨1 + k, call⟩ = 0) →
      ∃ work, bindNative status true (earlier ++ (native :: later)) = some work ∧
        work.calls.filter (fun made => made.index == 1 + earlier.length) =
          [⟨1 + earlier.length, call⟩]

theorem JsEngine.binds_iff {engine : JsEngine} {value : HostValue} {call : SqliteBind} :
    engine.Binds value call ↔
      ∃ native, (engine.parseValue value).result = .value native ∧
        native.bindCall = some call := by
  constructor
  · intro ⟨native, parsed, alone⟩
    obtain ⟨made, isCall⟩ := JsEngine.Parses.bindCall ⟨value, parsed⟩
    obtain ⟨work, ran, once⟩ := alone (fun _ => 0) [] []
      (fun _ member => absurd member List.not_mem_nil) (fun _ _ found => by cases found)
    rw [List.nil_append, bindNative, if_pos rfl, bindNativeFrom, isCall] at ran
    cases ran
    cases once
    exact ⟨native, parsed, isCall⟩
  · intro ⟨native, parsed, isCall⟩
    refine ⟨native, parsed, fun status earlier later parses accepted => ?_⟩
    exact bindNativeFrom_once status isCall (fun other member => (parses other member).bindCall)
      1 accepted

end ParaQL
