/-
`op` and `Operation` of lib/codecs.js: the three switches over the type of an operation,
and what the oplog makes of an operation that went through them.

The encodings of compact-encoding are a parameter.
-/

import ParaQL.Bytes.Encoding
import ParaQL.Oplog

namespace ParaQL

open Bytes

namespace OPERATION

@[match_pattern] def writerAdd : Nat := 1
@[match_pattern] def writerDel : Nat := 2
@[match_pattern] def exec : Nat := 8
@[match_pattern] def run : Nat := 9
@[match_pattern] def stmt : Nat := 10
@[match_pattern] def batch : Nat := 11
@[match_pattern] def flush : Nat := 12

def types : List Nat := [writerAdd, writerDel, exec, run, stmt, batch, flush]

def usesKey (type : Nat) : Bool := type == writerAdd || type == writerDel

def usesSql (type : Nat) : Bool := type == exec || type == run || type == stmt

def usesParameters (type : Nat) : Bool := type == run || type == stmt || type == batch

end OPERATION

/-- An operation object, by the properties that the codec knows.  `ω` is what `named` and
`positional` hold; a property that is not there reads as undefined. -/
structure OperationObject (ω : Type) where
  type : Nat
  key : Option Buffer := none
  sql : Option String := none
  named : Option ω := none
  positional : Option ω := none
  deriving DecidableEq, Repr

/-- The encodings that the codec takes from compact-encoding. -/
structure Primitives (ω : Type) where
  uint8 : Encoding JsValue Nat
  fixed32 : Encoding JsValue (Option Buffer)
  string : Encoding JsValue (Option String)
  any : Encoding JsValue (Option ω)

variable {ω : Type}

namespace op

variable (c : Primitives ω)

def preencodeBatch (state : Cursor) (operation : OperationObject ω) : Except JsValue Cursor := do
  let state ← c.any.preencode state operation.named
  c.any.preencode state operation.positional

def preencode (state : Cursor) (operation : OperationObject ω) : Except JsValue Cursor := do
  let state ← c.uint8.preencode state operation.type
  match operation.type with
  | OPERATION.writerAdd => c.fixed32.preencode state operation.key
  | OPERATION.writerDel => c.fixed32.preencode state operation.key
  | OPERATION.exec => c.string.preencode state operation.sql
  | OPERATION.run => do
      let state ← c.string.preencode state operation.sql
      let state ← c.any.preencode state operation.named
      c.any.preencode state operation.positional
  | OPERATION.stmt => do
      let state ← c.string.preencode state operation.sql
      preencodeBatch c state operation
  | OPERATION.batch => preencodeBatch c state operation
  | OPERATION.flush => .ok state
  | _ => .ok state

def encodeBatch (state : Cursor) (operation : OperationObject ω) : Except JsValue Cursor := do
  let state ← c.any.encode state operation.named
  c.any.encode state operation.positional

def encode (state : Cursor) (operation : OperationObject ω) : Except JsValue Cursor := do
  let state ← c.uint8.encode state operation.type
  match operation.type with
  | OPERATION.writerAdd => c.fixed32.encode state operation.key
  | OPERATION.writerDel => c.fixed32.encode state operation.key
  | OPERATION.exec => c.string.encode state operation.sql
  | OPERATION.run => do
      let state ← c.string.encode state operation.sql
      let state ← c.any.encode state operation.named
      c.any.encode state operation.positional
  | OPERATION.stmt => do
      let state ← c.string.encode state operation.sql
      encodeBatch c state operation
  | OPERATION.batch => encodeBatch c state operation
  | OPERATION.flush => .ok state
  | _ => .ok state

def decodeBatch (operation : OperationObject ω) (state : Cursor) :
    Except JsValue (OperationObject ω × Cursor) := do
  let (named, state) ← c.any.decode state
  let (positional, state) ← c.any.decode state
  .ok ({ operation with named := named, positional := positional }, state)

def decodeFields (type : Nat) (state : Cursor) : Except JsValue (OperationObject ω × Cursor) :=
  match type with
  | OPERATION.writerAdd => do
      let (key, state) ← c.fixed32.decode state
      .ok ({ type := type, key := key }, state)
  | OPERATION.writerDel => do
      let (key, state) ← c.fixed32.decode state
      .ok ({ type := type, key := key }, state)
  | OPERATION.exec => do
      let (sql, state) ← c.string.decode state
      .ok ({ type := type, sql := sql }, state)
  | OPERATION.run => do
      let (sql, state) ← c.string.decode state
      let (named, state) ← c.any.decode state
      let (positional, state) ← c.any.decode state
      .ok ({ type := type, sql := sql, named := named, positional := positional }, state)
  | OPERATION.stmt => do
      let (sql, state) ← c.string.decode state
      decodeBatch c { type := type, sql := sql } state
  | OPERATION.batch => decodeBatch c { type := type } state
  | OPERATION.flush => .ok ({ type := type }, state)
  | _ => .ok ({ type := type }, state)

def decode (state : Cursor) : Except JsValue (OperationObject ω × Cursor) := do
  let (type, state) ← c.uint8.decode state
  decodeFields c type state

end op

/-- The encoding `op`. -/
def op (c : Primitives ω) : Encoding JsValue (OperationObject ω) :=
  { preencode := op.preencode c, encode := op.encode c, decode := op.decode c }

def Operation.encode (c : Primitives ω) (allocator : Allocator) (operation : OperationObject ω) :
    Except JsValue Buffer :=
  (op c).toBuffer allocator operation

def Operation.decode (c : Primitives ω) (buffer : Buffer) : Except JsValue (OperationObject ω) :=
  (op c).fromBuffer buffer

/-! ### Operations that the primitives carry -/

/-- The fields that the type of an operation uses, with null for parameters that are not
there. -/
def OperationObject.canonical (null : ω) (operation : OperationObject ω) : OperationObject ω :=
  { type := operation.type
    key := if OPERATION.usesKey operation.type then operation.key else none
    sql := if OPERATION.usesSql operation.type then operation.sql else none
    named :=
      if OPERATION.usesParameters operation.type then some (operation.named.getD null) else none
    positional :=
      if OPERATION.usesParameters operation.type then some (operation.positional.getD null)
      else none }

/-- The operation is of one of the seven types, has the fields that its type uses, and the
primitives round-trip each of them. -/
structure OperationObject.Carried (c : Primitives ω) (null : ω) (operation : OperationObject ω) :
    Prop where
  known : operation.type ∈ OPERATION.types
  type : c.uint8.RoundTrips operation.type operation.type
  key : OPERATION.usesKey operation.type →
    ∃ key : Buffer, operation.key = some key ∧ key.length = 32 ∧
      c.fixed32.RoundTrips (some key) (some key)
  sql : OPERATION.usesSql operation.type →
    ∃ sql, operation.sql = some sql ∧ c.string.RoundTrips (some sql) (some sql)
  named : OPERATION.usesParameters operation.type →
    c.any.RoundTrips operation.named (some (operation.named.getD null))
  positional : OPERATION.usesParameters operation.type →
    c.any.RoundTrips operation.positional (some (operation.positional.getD null))

namespace op

variable {c : Primitives ω} {null : ω} {operation : OperationObject ω}

private theorem reads_batch {named positional : Option ω} {namedBytes positionalBytes : Buffer}
    {namedBack positionalBack : ω}
    (namedCarries : c.any.Carries named (some namedBack) namedBytes)
    (positionalCarries : c.any.Carries positional (some positionalBack) positionalBytes)
    (operation : OperationObject ω) :
    Reads (decodeBatch c operation) (namedBytes ++ positionalBytes)
      { operation with named := some namedBack, positional := some positionalBack } := by
  have last : Reads
      (fun state => do
        let (positional, state) ← c.any.decode state
        .ok ({ operation with named := some namedBack, positional := positional }, state))
      positionalBytes
      { operation with named := some namedBack, positional := some positionalBack } :=
    positionalCarries.reads.into fun positional =>
      { operation with named := some namedBack, positional := positional }
  exact namedCarries.reads.andThen
    (fun named state => do
      let (positional, state) ← c.any.decode state
      .ok ({ operation with named := named, positional := positional }, state))
    last

private theorem roundTrips_writer (carried : operation.Carried c null)
    (writer : operation.type = OPERATION.writerAdd ∨ operation.type = OPERATION.writerDel) :
    (ParaQL.op c).RoundTrips operation (operation.canonical null) := by
  obtain ⟨type, key, sql, named, positional⟩ := operation
  obtain ⟨typeBytes, typeCarries⟩ := carried.type
  rcases writer with rfl | rfl
  all_goals
    obtain ⟨_, rfl, _, keyBytes, keyCarries⟩ := carried.key rfl
    refine ⟨typeBytes ++ keyBytes, ?_, ?_, ?_⟩
    · exact typeCarries.counts.andThen keyCarries.counts
    · exact typeCarries.writes.andThen keyCarries.writes
    · exact typeCarries.reads.andThen (decodeFields c)
        (keyCarries.reads.into fun key => OperationObject.mk _ key none none none)

private theorem roundTrips_exec (carried : operation.Carried c null)
    (exec : operation.type = OPERATION.exec) :
    (ParaQL.op c).RoundTrips operation (operation.canonical null) := by
  obtain ⟨type, key, sql, named, positional⟩ := operation
  obtain ⟨typeBytes, typeCarries⟩ := carried.type
  subst exec
  obtain ⟨_, rfl, sqlBytes, sqlCarries⟩ := carried.sql rfl
  refine ⟨typeBytes ++ sqlBytes, ?_, ?_, ?_⟩
  · exact typeCarries.counts.andThen sqlCarries.counts
  · exact typeCarries.writes.andThen sqlCarries.writes
  · exact typeCarries.reads.andThen (decodeFields c)
      (sqlCarries.reads.into fun sql => OperationObject.mk _ none sql none none)

/-- A STMT falls through to the fields of a BATCH, and a RUN has the same fields. -/
theorem roundTrips_statement {type : Nat} {sql : String} {named positional : Option ω}
    {namedBack positionalBack : ω} (statement : type = OPERATION.run ∨ type = OPERATION.stmt)
    (tag : c.uint8.RoundTrips type type) (text : c.string.RoundTrips (some sql) (some sql))
    (namedTrips : c.any.RoundTrips named (some namedBack))
    (positionalTrips : c.any.RoundTrips positional (some positionalBack)) (key : Option Buffer) :
    (ParaQL.op c).RoundTrips
      { type := type, key := key, sql := some sql, named := named, positional := positional }
      { type := type, sql := some sql, named := some namedBack,
        positional := some positionalBack } := by
  obtain ⟨tagBytes, tagCarries⟩ := tag
  obtain ⟨sqlBytes, sqlCarries⟩ := text
  obtain ⟨namedBytes, namedCarries⟩ := namedTrips
  obtain ⟨positionalBytes, positionalCarries⟩ := positionalTrips
  rcases statement with rfl | rfl
  all_goals
    refine ⟨tagBytes ++ (sqlBytes ++ (namedBytes ++ positionalBytes)), ?_, ?_, ?_⟩
    · exact tagCarries.counts.andThen (sqlCarries.counts.andThen
        (namedCarries.counts.andThen positionalCarries.counts))
    · exact tagCarries.writes.andThen (sqlCarries.writes.andThen
        (namedCarries.writes.andThen positionalCarries.writes))
    · exact tagCarries.reads.andThen (decodeFields c)
        (sqlCarries.reads.andThen (fun sql => decodeBatch c { type := _, sql := sql })
          (reads_batch namedCarries positionalCarries _))

theorem roundTrips_batch {named positional : Option ω} {namedBack positionalBack : ω}
    (tag : c.uint8.RoundTrips OPERATION.batch OPERATION.batch)
    (namedTrips : c.any.RoundTrips named (some namedBack))
    (positionalTrips : c.any.RoundTrips positional (some positionalBack))
    (key : Option Buffer) (sql : Option String) :
    (ParaQL.op c).RoundTrips
      { type := OPERATION.batch, key := key, sql := sql, named := named, positional := positional }
      { type := OPERATION.batch, named := some namedBack, positional := some positionalBack } := by
  obtain ⟨tagBytes, tagCarries⟩ := tag
  obtain ⟨namedBytes, namedCarries⟩ := namedTrips
  obtain ⟨positionalBytes, positionalCarries⟩ := positionalTrips
  refine ⟨tagBytes ++ (namedBytes ++ positionalBytes), ?_, ?_, ?_⟩
  · exact tagCarries.counts.andThen (namedCarries.counts.andThen positionalCarries.counts)
  · exact tagCarries.writes.andThen (namedCarries.writes.andThen positionalCarries.writes)
  · exact tagCarries.reads.andThen (decodeFields c)
      (reads_batch namedCarries positionalCarries _)

private theorem roundTrips_flush (carried : operation.Carried c null)
    (flush : operation.type = OPERATION.flush) :
    (ParaQL.op c).RoundTrips operation (operation.canonical null) := by
  obtain ⟨type, key, sql, named, positional⟩ := operation
  obtain ⟨typeBytes, typeCarries⟩ := carried.type
  subst flush
  refine ⟨typeBytes ++ [], ?_, ?_, ?_⟩
  · exact typeCarries.counts.andThen .pure
  · exact typeCarries.writes.andThen .pure
  · exact typeCarries.reads.andThen (decodeFields c) (.pure _)

theorem roundTrips (carried : operation.Carried c null) :
    (ParaQL.op c).RoundTrips operation (operation.canonical null) := by
  have known := carried.known
  simp only [OPERATION.types, List.mem_cons, List.not_mem_nil, or_false] at known
  rcases known with add | del | exec | run | stmt | batch | flush
  · exact roundTrips_writer carried (.inl add)
  · exact roundTrips_writer carried (.inr del)
  · exact roundTrips_exec carried exec
  · obtain ⟨type, key, sql, named, positional⟩ := operation
    subst run
    obtain ⟨_, rfl, text⟩ := carried.sql rfl
    exact roundTrips_statement (.inl rfl) carried.type text (carried.named rfl)
      (carried.positional rfl) key
  · obtain ⟨type, key, sql, named, positional⟩ := operation
    subst stmt
    obtain ⟨_, rfl, text⟩ := carried.sql rfl
    exact roundTrips_statement (.inr rfl) carried.type text (carried.named rfl)
      (carried.positional rfl) key
  · obtain ⟨type, key, sql, named, positional⟩ := operation
    subst batch
    exact roundTrips_batch carried.type (carried.named rfl) (carried.positional rfl) key sql
  · exact roundTrips_flush carried flush

end op

/-- Encoding allocates and fills exactly the counted bytes, decoding them gives the operation
back, and no operation that differs has the same bytes. -/
theorem Operation.round_trips (c : Primitives ω) (allocator : Allocator) (null : ω)
    (operation : OperationObject ω) (carried : operation.Carried c null) :
    ∃ counted written,
      op.preencode c .initial operation = .ok counted ∧
      op.encode c { counted with buffer := allocator.allocate counted.finish } operation =
        .ok written ∧
      written.start = counted.finish ∧ written.buffer.length = counted.finish ∧
      Operation.encode c allocator operation = .ok written.buffer ∧
      Operation.decode c written.buffer = .ok (operation.canonical null) ∧
      ∀ other : OperationObject ω, other.Carried c null →
        Operation.encode c allocator other = .ok written.buffer →
          other.canonical null = operation.canonical null := by
  obtain ⟨bytes, carries⟩ := op.roundTrips carried
  obtain ⟨counted, written, counts, writes, full, size, rfl⟩ := carries.written allocator
  refine ⟨counted, written, counts, writes, full, size.symm, carries.toBuffer allocator,
    carries.fromBuffer, ?_⟩
  intro other otherCarried same
  obtain ⟨otherBytes, otherCarries⟩ := op.roundTrips otherCarried
  have sameBytes : otherBytes = written.buffer := by
    have encoded := otherCarries.toBuffer allocator
    exact Except.ok.inj (encoded.symm.trans same)
  rw [sameBytes] at otherCarries
  exact otherCarries.decoded_eq carries

namespace Primitives

def outOfBounds : JsValue := .error { name := "Error", code := none, message := "Out of bounds" }

def byteEncoding : Encoding JsValue Nat :=
  .ofBytes
    (fun value => .ok [UInt8.ofNat value])
    (fun
      | byte :: _ => .ok (byte.toNat, 1)
      | [] => .error outOfBounds)

def keyEncoding : Encoding JsValue (Option Buffer) :=
  .ofBytes
    (fun key => .ok (key.getD []))
    (fun buffer =>
      if buffer.length < 32 then .error outOfBounds else .ok (some (buffer.take 32), 32))

def textBytes (text : Option String) : Buffer :=
  (text.getD "").toList.map fun character => UInt8.ofNat character.toNat

def readText : Buffer → Except JsValue (Option String × Nat)
  | size :: rest =>
      if rest.length < size.toNat then .error outOfBounds
      else
        .ok (some (String.ofList ((rest.take size.toNat).map fun byte => Char.ofNat byte.toNat)),
          size.toNat + 1)
  | [] => .error outOfBounds

/-- `string`, on ASCII texts of at most 252 characters. -/
def textEncoding : Encoding JsValue (Option String) :=
  .ofBytes (fun text => .ok (UInt8.ofNat (textBytes text).length :: textBytes text)) readText

/-- `any`, on null and undefined. -/
def nullEncoding : Encoding JsValue (Option Unit) :=
  .ofBytes
    (fun _ => .ok [0])
    (fun
      | _ :: _ => .ok (some (), 1)
      | [] => .error outOfBounds)

def ascii : Primitives Unit :=
  { uint8 := byteEncoding, fixed32 := keyEncoding, string := textEncoding, any := nullEncoding }

theorem roundTrips_byte {value : Nat} (small : value < 256) :
    byteEncoding.RoundTrips value value := by
  refine ⟨[UInt8.ofNat value], ?_⟩
  apply Encoding.carries_ofBytes
  · rfl
  intro rest
  show Except.ok ((UInt8.ofNat value).toNat, 1) = _
  rw [UInt8.toNat_ofNat_of_lt' small]
  rfl

theorem roundTrips_text {text : String} (short : text.toList.length ≤ 252)
    (plain : text.toList.all fun character => character.toNat < 128) :
    textEncoding.RoundTrips (some text) (some text) := by
  have length : (textBytes (some text)).length = text.toList.length := List.length_map _
  have size : (UInt8.ofNat (textBytes (some text)).length).toNat =
      (textBytes (some text)).length :=
    UInt8.toNat_ofNat_of_lt' (by simp only [length, UInt8.size]; omega)
  have back : (textBytes (some text)).map (fun byte => Char.ofNat byte.toNat) = text.toList := by
    have each : ∀ character ∈ text.toList,
        Char.ofNat (UInt8.ofNat character.toNat).toNat = character := by
      intro character member
      have low := of_decide_eq_true (List.all_eq_true.1 plain character member)
      rw [UInt8.toNat_ofNat_of_lt' (by simp only [UInt8.size]; omega), Char.ofNat_toNat]
    rw [textBytes, Option.getD_some, List.map_map]
    exact (List.map_congr_left each).trans (List.map_id' _)
  refine ⟨UInt8.ofNat (textBytes (some text)).length :: textBytes (some text), ?_⟩
  apply Encoding.carries_ofBytes
  · rfl
  intro rest
  rw [List.cons_append, readText, size, if_neg (by rw [List.length_append]; omega),
    List.take_left, back, String.ofList_toList, List.length_cons]

private theorem roundTrips_null (value : Option Unit) : nullEncoding.RoundTrips value
    (some ()) := by
  refine ⟨[0], ?_⟩
  apply Encoding.carries_ofBytes
  · rfl
  intro rest
  rfl

end Primitives

/-- A STMT of `flush`, which has no parameters. -/
theorem Operation.round_trips_stmt :
    ∃ counted written,
      op.preencode .ascii .initial { type := OPERATION.stmt, sql := some "SELECT 1" } =
        .ok counted ∧
      Operation.encode .ascii .zeroed { type := OPERATION.stmt, sql := some "SELECT 1" } =
        .ok written ∧
      written.length = counted.finish ∧
      Operation.decode .ascii written =
        .ok { type := OPERATION.stmt, sql := some "SELECT 1", named := some (),
              positional := some () } := by
  have carried : OperationObject.Carried .ascii ()
      { type := OPERATION.stmt, sql := some "SELECT 1" } :=
    { known := by decide
      type := Primitives.roundTrips_byte (by decide)
      key := fun uses => absurd uses (by decide)
      sql := fun _ => ⟨_, rfl, Primitives.roundTrips_text (by decide) (by decide)⟩
      named := fun _ => Primitives.roundTrips_null _
      positional := fun _ => Primitives.roundTrips_null _ }
  obtain ⟨counted, written, counts, -, -, size, encoded, decoded, -⟩ :=
    Operation.round_trips .ascii .zeroed () _ carried
  exact ⟨counted, written.buffer, counts, encoded, size, decoded⟩

namespace Primitives

/-- `any`, on null and on arrays of at most one small number. -/
def fieldEncoding : Encoding JsValue (Option ParameterField) :=
  .ofBytes
    (fun
      | none => .ok [0]
      | some .null => .ok [0]
      | some (.list []) => .ok [7, 0]
      | some (.list [.integer value]) => .ok [7, 1, 4, UInt8.ofNat value.toNat]
      | some _ => .error .undefined)
    (fun
      | 0 :: _ => .ok (some .null, 1)
      | 7 :: 0 :: _ => .ok (some (.list []), 2)
      | 7 :: 1 :: 4 :: value :: _ => .ok (some (.list [.integer value.toNat]), 4)
      | _ => .error outOfBounds)

def fields : Primitives ParameterField :=
  { uint8 := byteEncoding, fixed32 := keyEncoding, string := textEncoding, any := fieldEncoding }

private theorem roundTrips_key {key : Buffer} (size : key.length = 32) :
    keyEncoding.RoundTrips (some key) (some key) := by
  refine ⟨key, Encoding.carries_ofBytes rfl fun rest => ?_⟩
  have enough : ¬(key ++ rest).length < 32 := by
    rw [List.length_append]
    omega
  rw [if_neg enough, List.take_left' size, size]

private theorem roundTrips_field {field : Option ParameterField}
    (simple : field ∈ [none, some .null, some (.list []), some (.list [.integer 7])]) :
    fieldEncoding.RoundTrips field (some (field.getD .null)) := by
  simp only [List.mem_cons, List.not_mem_nil, or_false] at simple
  obtain rfl | rfl | rfl | rfl := simple
  · exact ⟨[0], Encoding.carries_ofBytes rfl fun _ => rfl⟩
  · exact ⟨[0], Encoding.carries_ofBytes rfl fun _ => rfl⟩
  · exact ⟨[7, 0], Encoding.carries_ofBytes rfl fun _ => rfl⟩
  · exact ⟨[7, 1, 4, 7], Encoding.carries_ofBytes rfl fun _ => rfl⟩

/-- Objects with fields that the sample codec can carry. -/
theorem carried_fields {object : OperationObject ParameterField}
    (known : object.type ∈ OPERATION.types ∧ object.type < 256)
    (key : OPERATION.usesKey object.type = true →
      ∃ key, object.key = some key ∧ key.length = 32)
    (sql : OPERATION.usesSql object.type = true → ∃ sql, object.sql = some sql ∧
      sql.toList.length ≤ 252 ∧ sql.toList.all fun character => character.toNat < 128)
    (simple : ∀ field ∈ [object.named, object.positional],
      field ∈ [none, some .null, some (.list []), some (.list [.integer 7])]) :
    object.Carried fields .null where
  known := known.1
  type := roundTrips_byte known.2
  key uses := by
    obtain ⟨key, isKey, size⟩ := key uses
    exact ⟨key, isKey, size, roundTrips_key size⟩
  sql uses := by
    obtain ⟨sql, isSql, short, plain⟩ := sql uses
    exact ⟨sql, isSql, roundTrips_text short plain⟩
  named _ := roundTrips_field (simple _ (by simp))
  positional _ := roundTrips_field (simple _ (by simp))

end Primitives

/-- The fields as `_apply` reads them.  The decoder sets both where an operation has them. -/
def Parameters.ofFields (named positional : Option ParameterField) : Parameters :=
  { named := named.getD .null, positional := positional.getD .null }

/-- The objects that `exec`, `run` and `flush` of lib/vfs.js encode. -/
def OplogCall.objects : OplogCall → List (OperationObject ParameterField)
  | .exec sql => [{ type := OPERATION.exec, sql := sql }]
  | .run sql parameters =>
      [{ type := OPERATION.run, sql := sql, named := parameters.named,
         positional := parameters.positional }]
  | .flush sql operations =>
      { type := OPERATION.stmt, sql := sql } ::
        operations.map (fun parameters =>
          { type := OPERATION.batch, named := parameters.named,
            positional := parameters.positional }) ++
        [{ type := OPERATION.flush }]

/-- A decoded object as `_apply` switches on it. -/
def OperationObject.operation? (object : OperationObject ParameterField) : Option Operation :=
  match object.type with
  | OPERATION.writerAdd => object.key.map .writerAdd
  | OPERATION.writerDel => object.key.map .writerDel
  | OPERATION.exec => object.sql.map .exec
  | OPERATION.run => object.sql.map (.run · (.ofFields object.named object.positional))
  | OPERATION.stmt => object.sql.map (.stmt · (.ofFields object.named object.positional))
  | OPERATION.batch => some (.batch (.ofFields object.named object.positional))
  | OPERATION.flush => some .flush
  | _ => none

theorem OplogCall.canonical_objects (call : OplogCall) :
    call.objects.map (fun object => (object.canonical .null).operation?) =
      call.operations.map some := by
  cases call with
  | exec sql => rfl
  | run sql parameters => rfl
  | flush sql operations =>
      simp only [OplogCall.objects, OplogCall.operations, List.map_cons, List.map_append,
        List.map_map, List.map_nil]
      rfl

/-- What a call appends is what its objects are after encoding and decoding. -/
theorem OplogCall.operations_decoded (c : Primitives ParameterField) (allocator : Allocator)
    (call : OplogCall) (carried : ∀ object ∈ call.objects, object.Carried c .null) :
    call.objects.map (fun object =>
        (Operation.encode c allocator object >>= Operation.decode c).toOption.bind
          OperationObject.operation?) =
      call.operations.map some := by
  rw [← OplogCall.canonical_objects]
  apply List.map_congr_left
  intro object member
  obtain ⟨bytes, carries⟩ := op.roundTrips (carried object member)
  have encoded : Operation.encode c allocator object = .ok bytes := carries.toBuffer allocator
  have decoded : Operation.decode c bytes = .ok (object.canonical .null) := carries.fromBuffer
  rw [encoded]
  show (Operation.decode c bytes).toOption.bind _ = _
  rw [decoded]
  rfl

end ParaQL
