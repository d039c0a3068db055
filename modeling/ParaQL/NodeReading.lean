/-
`_apply` on the nodes as they are stored in the oplog: bytes, which it inflates and decodes
one node after the other.
-/

import ParaQL.FlushAccounting
import ParaQL.OperationCodec
import ParaQL.ParameterBinding
import ParaQL.VfsRefinement

namespace ParaQL

open Async Async.Task Bytes Relation

structure EncodedNode where
  owner : Option CallId
  value : Buffer
  deriving DecidableEq, Repr

structure Primitives.Fills {ω : Type} (c : Primitives ω) : Prop where
  fixed32 : ∀ cursor key after, c.fixed32.decode cursor = .ok (key, after) → key.isSome = true
  string : ∀ cursor sql after, c.string.decode cursor = .ok (sql, after) → sql.isSome = true

private theorem decodeFields_fills {ω : Type} {c : Primitives ω} (fills : c.Fills) {type : Nat}
    {state after : Cursor} {object : OperationObject ω}
    (decoded : op.decodeFields c type state = .ok (object, after)) :
    object.type = type ∧ (OPERATION.usesKey type = true → object.key.isSome = true) ∧
      (OPERATION.usesSql type = true → object.sql.isSome = true) := by
  unfold op.decodeFields at decoded
  split at decoded
  all_goals
    simp only [op.decodeBatch, bind_eq_ok, Prod.exists, Except.ok.injEq, Prod.mk.injEq] at decoded
  · obtain ⟨key, rest, read, rfl, -⟩ := decoded
    exact ⟨rfl, fun _ => fills.fixed32 _ _ _ read, nofun⟩
  · obtain ⟨key, rest, read, rfl, -⟩ := decoded
    exact ⟨rfl, fun _ => fills.fixed32 _ _ _ read, nofun⟩
  · obtain ⟨sql, rest, read, rfl, -⟩ := decoded
    exact ⟨rfl, nofun, fun _ => fills.string _ _ _ read⟩
  · obtain ⟨sql, _, read, _, _, -, _, _, -, rfl, -⟩ := decoded
    exact ⟨rfl, nofun, fun _ => fills.string _ _ _ read⟩
  · obtain ⟨sql, _, read, _, _, -, _, _, -, rfl, -⟩ := decoded
    exact ⟨rfl, nofun, fun _ => fills.string _ _ _ read⟩
  · obtain ⟨_, _, -, _, _, -, rfl, -⟩ := decoded
    exact ⟨rfl, nofun, nofun⟩
  · obtain ⟨rfl, -⟩ := decoded
    exact ⟨rfl, nofun, nofun⟩
  · obtain ⟨rfl, -⟩ := decoded
    refine ⟨rfl, fun uses => ?_, fun uses => ?_⟩
    · simp only [OPERATION.usesKey, OPERATION.writerAdd, OPERATION.writerDel, Bool.or_eq_true,
        beq_iff_eq] at uses
      rcases uses with rfl | rfl <;> contradiction
    · simp only [OPERATION.usesSql, OPERATION.exec, OPERATION.run, OPERATION.stmt, Bool.or_eq_true,
        beq_iff_eq] at uses
      rcases uses with (rfl | rfl) | rfl <;> contradiction

/-- The operations that `_apply` passes over are those of other types. -/
theorem operation?_eq_none_iff {c : Primitives ParameterField} (fills : c.Fills) {buffer : Buffer}
    {object : OperationObject ParameterField} (decoded : Operation.decode c buffer = .ok object) :
    object.operation? = none ↔ object.type ∉ OPERATION.types := by
  simp only [Operation.decode, Encoding.fromBuffer, ParaQL.op, op.decode, bind_eq_ok,
    Prod.exists, pure, Except.pure, Except.ok.injEq] at decoded
  obtain ⟨object, _, ⟨type, rest, -, fields⟩, rfl⟩ := decoded
  obtain ⟨rfl, key, sql⟩ := decodeFields_fills fills fields
  obtain ⟨type, key?, sql?, named, positional⟩ := object
  have filled {α : Type} {value : Option α} (present : value.isSome = true)
      (build : α → Operation) : value.map build ≠ none := by
    rw [Ne, Option.map_eq_none_iff]
    exact Option.isSome_iff_ne_none.1 present
  by_cases known : type ∈ OPERATION.types
  · refine iff_of_false ?_ (not_not.2 known)
    simp only [OPERATION.types, List.mem_cons, List.not_mem_nil, or_false] at known
    rcases known with rfl | rfl | rfl | rfl | rfl | rfl | rfl
    · exact filled (key rfl) _
    · exact filled (key rfl) _
    · exact filled (sql rfl) _
    · exact filled (sql rfl) _
    · exact filled (sql rfl) _
    · exact Option.some_ne_none _
    · exact Option.some_ne_none _
  · refine iff_of_true ?_ known
    unfold OperationObject.operation?
    split
    all_goals first
      | rfl
      | exact absurd (by rw [‹type = _›]; decide) known

namespace Database

variable {κ : Type} (db : Database κ) (c : Primitives ParameterField)

/-- `this.compressed ? await inflate(node.value) : node.value`, where zlib may fail. -/
def inflateNode (fails : Bool) (value : Buffer) : Except JsValue Buffer :=
  if db.vfs.compressed then
    match fails, db.vfs.runtime.inflate value with
    | false, some buffer => .ok buffer
    | _, _ => .error .undefined
  else .ok value

def unpackNode (fails : Bool) (value : Buffer) : InstanceTask κ Buffer :=
  if db.vfs.compressed then .atomic fun state => (db.inflateNode fails value, state)
  else pure value

/-- The `switch` of `_apply`.  No case is for an operation of another type. -/
def applyObject (view : Nat) (owner : Option CallId) (object : OperationObject ParameterField)
    (progress : Progress) : InstanceTask κ Progress :=
  match object.operation? with
  | some operation => db.applyNode view ⟨owner, operation⟩ progress
  | none => pure progress

def applyEncodedFrom (view : Nat) :
    (Nat → Bool) → List EncodedNode → Progress → InstanceTask κ Unit
  | _, [], _ => pure ()
  | zlibFault, node :: nodes, progress => do
      let buffer ← db.unpackNode (zlibFault 0) node.value
      match Operation.decode c buffer with
      | .ok object => do
          let progress ← db.applyObject view node.owner object progress
          applyEncodedFrom view (zlibFault ∘ Nat.succ) nodes progress
      | .error thrown => throw thrown

/-- `_apply`, by which of its own calls of zlib fail; those for pages are `Runtime.zlibFault`. -/
def applyEncoded (zlibFault : Nat → Bool) (nodes : List EncodedNode) (view : Nat) :
    InstanceTask κ Unit :=
  db.applyEncodedFrom c view zlibFault nodes .initial

/-! ### What the nodes say -/

def readNode (fails : Bool) (node : EncodedNode) :
    Except JsValue (OperationObject ParameterField) :=
  db.inflateNode fails node.value >>= Operation.decode c

def reading : (Nat → Bool) → List EncodedNode → List Node × Except JsValue Unit
  | _, [] => ([], .ok ())
  | zlibFault, node :: nodes =>
      match db.readNode c (zlibFault 0) node with
      | .ok object =>
          ((object.operation?.map (Node.mk node.owner)).toList ++
              (reading (zlibFault ∘ Nat.succ) nodes).1,
            (reading (zlibFault ∘ Nat.succ) nodes).2)
      | .error thrown => ([], .error thrown)

variable {db c} {rely : Instance κ → Instance κ → Prop} {view : Nat} {fails : Bool}
  {zlibFault : Nat → Bool}

/-- Nothing is done to read a node but to wait for `inflate`. -/
theorem unpackNode_inv {value : Buffer} {state final : Instance κ} {result : Except JsValue Buffer}
    (ran : RunUnder rely (db.unpackNode fails value) state result final) :
    ReflTransGen rely state final ∧ result = db.inflateNode fails value := by
  unfold unpackNode at ran
  by_cases compressed : db.vfs.compressed = true
  · rw [if_pos compressed] at ran
    cases ran with
    | step moves rest =>
        cases rest
        exact ⟨moves, rfl⟩
  · rw [if_neg compressed] at ran
    cases ran
    exact ⟨.refl, (if_neg compressed).symm⟩

private theorem unpackNode_ran (value : Buffer) (state : Instance κ) :
    RunUnder rely (db.unpackNode fails value) state (db.inflateNode fails value) state := by
  unfold unpackNode
  by_cases compressed : db.vfs.compressed = true
  · rw [if_pos compressed]
    exact .step .refl (.done _ _)
  · rw [if_neg compressed]
    have same : db.inflateNode fails value = .ok value := if_neg compressed
    rw [same]
    exact .done _ _

/-- The first node cannot be read, is of no known type, or is applied. -/
theorem applyEncodedFrom_cons_inv {node : EncodedNode} {nodes : List EncodedNode}
    {progress : Progress} {state final : Instance κ} {result : Except JsValue Unit}
    (ran : RunUnder rely (db.applyEncodedFrom c view zlibFault (node :: nodes) progress) state
      result final) :
    ∃ moved, ReflTransGen rely state moved ∧
      ((∃ thrown, db.readNode c (zlibFault 0) node = .error thrown ∧
          result = .error thrown ∧ final = moved) ∨
      ∃ object, db.readNode c (zlibFault 0) node = .ok object ∧
        RunUnder rely
          (do let progress ← db.applyObject view node.owner object progress
              db.applyEncodedFrom c view (zlibFault ∘ Nat.succ) nodes progress)
          moved result final) := by
  rcases ran.bind_inv with ⟨buffer, moved, unpacked, rest⟩ | ⟨thrown, unpacked, rfl⟩
  · obtain ⟨moves, isBuffer⟩ := unpackNode_inv unpacked
    have read : db.readNode c (zlibFault 0) node = Operation.decode c buffer := by
      unfold readNode
      rw [← isBuffer]
      rfl
    refine ⟨moved, moves, ?_⟩
    rw [read]
    cases decoded : Operation.decode c buffer with
    | ok object =>
        rw [decoded] at rest
        exact .inr ⟨object, rfl, rest⟩
    | error thrown =>
        rw [decoded] at rest
        cases rest
        exact .inl ⟨thrown, rfl, rfl, rfl⟩
  · obtain ⟨moves, isThrown⟩ := unpackNode_inv unpacked
    have read : db.readNode c (zlibFault 0) node = .error thrown := by
      unfold readNode
      rw [← isThrown]
      rfl
    exact ⟨final, moves, .inl ⟨thrown, read, rfl, rfl⟩⟩

private theorem applyEncodedFrom_cons_ok {node : EncodedNode} {nodes : List EncodedNode}
    {object : OperationObject ParameterField} {progress : Progress} {state final : Instance κ}
    {result : Except JsValue Unit} (read : db.readNode c (zlibFault 0) node = .ok object)
    (ran : RunUnder rely
      (do let progress ← db.applyObject view node.owner object progress
          db.applyEncodedFrom c view (zlibFault ∘ Nat.succ) nodes progress) state result final) :
    RunUnder rely (db.applyEncodedFrom c view zlibFault (node :: nodes) progress) state result
      final := by
  have unpacked : RunUnder rely (db.unpackNode (zlibFault 0) node.value) state _ state :=
    unpackNode_ran node.value state
  unfold readNode at read
  cases inflated : db.inflateNode (zlibFault 0) node.value with
  | error thrown =>
      rw [inflated] at read
      cases read
  | ok buffer =>
      rw [inflated] at read unpacked
      have decoded : Operation.decode c buffer = .ok object := read
      refine unpacked.bind_ok ?_
      rw [decoded]
      exact ran

private theorem applyEncodedFrom_cons_error {node : EncodedNode} {nodes : List EncodedNode}
    {thrown : JsValue} {progress : Progress} {state : Instance κ}
    (read : db.readNode c (zlibFault 0) node = .error thrown) :
    RunUnder rely (db.applyEncodedFrom c view zlibFault (node :: nodes) progress) state
      (.error thrown) state := by
  have unpacked : RunUnder rely (db.unpackNode (zlibFault 0) node.value) state _ state :=
    unpackNode_ran node.value state
  unfold readNode at read
  cases inflated : db.inflateNode (zlibFault 0) node.value with
  | error other =>
      rw [inflated] at read unpacked
      cases read
      exact unpacked.bind_error
  | ok buffer =>
      rw [inflated] at read unpacked
      have decoded : Operation.decode c buffer = .error thrown := read
      refine unpacked.bind_ok ?_
      rw [decoded]
      exact .done _ _

private theorem reading_cons_ok {node : EncodedNode} {nodes : List EncodedNode}
    {object : OperationObject ParameterField}
    (read : db.readNode c (zlibFault 0) node = .ok object) :
    db.reading c zlibFault (node :: nodes) =
      ((object.operation?.map (Node.mk node.owner)).toList ++
          (db.reading c (zlibFault ∘ Nat.succ) nodes).1,
        (db.reading c (zlibFault ∘ Nat.succ) nodes).2) := by
  rw [reading, read]

private theorem reading_cons_error {node : EncodedNode} {nodes : List EncodedNode}
    {thrown : JsValue}
    (read : db.readNode c (zlibFault 0) node = .error thrown) :
    db.reading c zlibFault (node :: nodes) = ([], .error thrown) := by
  rw [reading, read]

/-- The bytes of the nodes are applied as what they say, up to the first that says nothing. -/
theorem applyFrom_of_encoded {nodes : List EncodedNode} {progress : Progress}
    {state final : Instance κ} {result : Except JsValue Unit}
    (ran : RunUnder rely (db.applyEncodedFrom c view zlibFault nodes progress) state result final) :
    ∃ told middle,
      RunUnder rely (db.applyFrom view (db.reading c zlibFault nodes).1 progress) state told middle ∧
      ReflTransGen rely middle final ∧ result = told >>= fun _ => (db.reading c zlibFault nodes).2 := by
  induction nodes generalizing zlibFault progress state with
  | nil =>
      cases ran
      exact ⟨.ok (), _, .done _ _, .refl, rfl⟩
  | cons node nodes ih =>
      obtain ⟨moved, moves, ⟨thrown, read, rfl, rfl⟩ | ⟨object, read, rest⟩⟩ :=
        applyEncodedFrom_cons_inv ran
      · rw [reading_cons_error read]
        exact ⟨.ok (), state, .done _ _, moves, rfl⟩
      rw [reading_cons_ok read]
      unfold applyObject at rest
      suffices applied : ∃ told middle,
          RunUnder rely (db.applyFrom view ((object.operation?.map (Node.mk node.owner)).toList ++
            (db.reading c (zlibFault ∘ Nat.succ) nodes).1) progress) moved told middle ∧
          ReflTransGen rely middle final ∧
          result = told >>= fun _ => (db.reading c (zlibFault ∘ Nat.succ) nodes).2 by
        obtain ⟨told, middle, ranAfter, last, same⟩ := applied
        obtain ⟨other, ranBefore, later⟩ := ranAfter.after_moves moves
        exact ⟨told, other, ranBefore, later.trans last, same⟩
      cases isOperation : object.operation? with
      | none =>
          rw [isOperation] at rest
          exact ih rest
      | some operation =>
          rw [isOperation] at rest
          rcases rest.bind_inv with ⟨after, middle, first, second⟩ | ⟨thrown, first, rfl⟩
          · obtain ⟨told, last, ranRest, moreMoves, same⟩ := ih second
            exact ⟨told, last, first.bind_ok ranRest, moreMoves, same⟩
          · exact ⟨.error thrown, final, first.bind_error, .refl, rfl⟩

private theorem encoded_of_applyFrom {nodes : List EncodedNode} {progress : Progress}
    {state final : Instance κ} {told : Except JsValue Unit}
    (ran : RunUnder rely (db.applyFrom view (db.reading c zlibFault nodes).1 progress) state told
      final) :
    RunUnder rely (db.applyEncodedFrom c view zlibFault nodes progress) state
      (told >>= fun _ => (db.reading c zlibFault nodes).2) final := by
  induction nodes generalizing zlibFault progress state with
  | nil =>
      cases ran
      exact .done _ _
  | cons node nodes ih =>
      cases read : db.readNode c (zlibFault 0) node with
      | error thrown =>
          rw [reading_cons_error read] at ran ⊢
          cases ran
          exact applyEncodedFrom_cons_error read
      | ok object =>
          rw [reading_cons_ok read] at ran ⊢
          refine applyEncodedFrom_cons_ok read ?_
          unfold applyObject
          cases isOperation : object.operation? with
          | none =>
              rw [isOperation] at ran
              exact ih ran
          | some operation =>
              rw [isOperation] at ran
              rcases ran.bind_inv with ⟨after, middle, first, second⟩ | ⟨thrown, first, rfl⟩
              · exact first.bind_ok (ih second)
              · exact first.bind_error

/-- Whatever the bytes of the nodes and wherever zlib fails, `_apply` on them is `_apply` on the
operations that they say up to the first node that cannot be read, and throws what its reading
throws. -/
theorem applyEncoded_refines (db : Database κ) (c : Primitives ParameterField)
    (rely : Instance κ → Instance κ → Prop) (zlibFault : Nat → Bool) (nodes : List EncodedNode)
    (view : Nat) (start : Instance κ) :
    (∀ result final, RunUnder rely (db.applyEncoded c zlibFault nodes view) start result final →
      ∃ told middle,
        RunUnder rely (db.apply (db.reading c zlibFault nodes).1 view) start told middle ∧
        ReflTransGen rely middle final ∧
        result = told >>= fun _ => (db.reading c zlibFault nodes).2) ∧
    ∀ told final, RunUnder rely (db.apply (db.reading c zlibFault nodes).1 view) start told final →
      RunUnder rely (db.applyEncoded c zlibFault nodes view) start
        (told >>= fun _ => (db.reading c zlibFault nodes).2) final :=
  ⟨fun _ _ ran => applyFrom_of_encoded ran, fun _ _ ran => encoded_of_applyFrom ran⟩

end Database

inductive OplogAppend where
  | addWriter (key : Buffer)
  | removeWriter (key : Buffer)
  | call (id : CallId) (request : OplogCall)
  deriving DecidableEq, Repr

namespace OplogAppend

def owner : OplogAppend → Option CallId
  | .addWriter _ => none
  | .removeWriter _ => none
  | .call id _ => some id

def objects : OplogAppend → List (OperationObject ParameterField)
  | .addWriter key => [{ type := OPERATION.writerAdd, key := key }]
  | .removeWriter key => [{ type := OPERATION.writerDel, key := key }]
  | .call _ request => request.objects

def operations : OplogAppend → List Operation
  | .addWriter key => [.writerAdd key]
  | .removeWriter key => [.writerDel key]
  | .call _ request => request.operations

def nodes (append : OplogAppend) : List Node :=
  append.operations.map (Node.mk append.owner)

theorem canonical_objects (append : OplogAppend) :
    append.objects.map (fun object => (object.canonical .null).operation?) =
      append.operations.map some := by
  cases append with
  | addWriter key => rfl
  | removeWriter key => rfl
  | call id request => exact request.canonical_objects

end OplogAppend

namespace Database

variable {κ : Type} (db : Database κ) (c : Primitives ParameterField)

def packObject (allocator : Allocator) (owner : Option CallId)
    (object : OperationObject ParameterField) : Except JsValue EncodedNode := do
  let buffer ← Operation.encode c allocator object
  .ok ⟨owner, db.vfs.pack buffer⟩

def packAppend (allocator : Allocator) (append : OplogAppend) : Except JsValue (List EncodedNode) :=
  append.objects.mapM (db.packObject c allocator append.owner)

variable {db c}

private theorem inflateNode_pack (inflates : ∀ level buffer,
    db.vfs.runtime.inflate (db.vfs.runtime.deflate level buffer) = some buffer) (buffer : Buffer) :
    db.inflateNode false (db.vfs.pack buffer) = .ok buffer := by
  unfold inflateNode ParaVFS.pack
  by_cases compressed : db.vfs.compressed = true
  · rw [if_pos compressed, if_pos compressed, inflates]
  · rw [if_neg compressed, if_neg compressed]

private theorem readNode_pack (inflates : ∀ level buffer,
    db.vfs.runtime.inflate (db.vfs.runtime.deflate level buffer) = some buffer)
    {object : OperationObject ParameterField} (carried : object.Carried c .null)
    (allocator : Allocator) (owner : Option CallId) :
    ∃ node, db.packObject c allocator owner object = .ok node ∧ node.owner = owner ∧
      db.readNode c false node = .ok (object.canonical .null) := by
  obtain ⟨bytes, carries⟩ := op.roundTrips carried
  have encoded : Operation.encode c allocator object = .ok bytes := carries.toBuffer allocator
  have decoded : Operation.decode c bytes = .ok (object.canonical .null) := carries.fromBuffer
  refine ⟨⟨owner, db.vfs.pack bytes⟩, ?_, rfl, ?_⟩
  · unfold packObject
    rw [encoded]
    rfl
  · unfold readNode
    rw [inflateNode_pack inflates]
    exact decoded

private theorem reading_objects (inflates : ∀ level buffer,
    db.vfs.runtime.inflate (db.vfs.runtime.deflate level buffer) = some buffer)
    (allocator : Allocator) (owner : Option CallId)
    (objects : List (OperationObject ParameterField))
    (carried : ∀ object ∈ objects, object.Carried c .null) :
    ∃ packed, objects.mapM (db.packObject c allocator owner) = .ok packed ∧
      db.reading c (fun _ => false) packed =
        ((objects.filterMap fun object => (object.canonical .null).operation?).map
          (Node.mk owner), .ok ()) := by
  induction objects with
  | nil => exact ⟨[], rfl, rfl⟩
  | cons object objects ih =>
      obtain ⟨packed, packs, reads⟩ := ih fun other member =>
        carried other (List.mem_cons_of_mem _ member)
      obtain ⟨node, isNode, rfl, read⟩ :=
        readNode_pack inflates (carried object List.mem_cons_self) allocator owner
      refine ⟨node :: packed, ?_, ?_⟩
      · rw [List.mapM_cons, isNode]
        show (objects.mapM _ >>= fun rest => Except.ok (node :: rest)) = _
        rw [packs]
        rfl
      · rw [reading_cons_ok read, Function.comp_def, reads, List.filterMap_cons]
        cases (object.canonical .null).operation? <;> rfl

private theorem reading_append {first second : List EncodedNode} {nodes : List Node}
    (reads : db.reading c (fun _ => false) first = (nodes, .ok ())) :
    db.reading c (fun _ => false) (first ++ second) =
      (nodes ++ (db.reading c (fun _ => false) second).1,
        (db.reading c (fun _ => false) second).2) := by
  induction first generalizing nodes with
  | nil =>
      cases reads
      rfl
  | cons node first ih =>
      cases read : db.readNode c false node with
      | error thrown =>
          rw [reading_cons_error read] at reads
          cases reads
      | ok object =>
          rw [reading_cons_ok read, Function.comp_def] at reads
          obtain ⟨isNodes, isRest⟩ := Prod.ext_iff.1 reads
          have rest : db.reading c (fun _ => false) first =
              ((db.reading c (fun _ => false) first).1, .ok ()) := Prod.ext rfl isRest
          obtain rfl : _ = nodes := isNodes
          rw [List.cons_append, reading_cons_ok read, Function.comp_def, ih rest,
            ← List.append_assoc]

/-- What the appends pack says, node by node, what they append. -/
theorem reading_appends (inflates : ∀ level buffer,
    db.vfs.runtime.inflate (db.vfs.runtime.deflate level buffer) = some buffer)
    (allocator : Allocator) (appends : List OplogAppend)
    (carried : ∀ append ∈ appends, ∀ object ∈ append.objects, object.Carried c .null) :
    ∃ packed, appends.mapM (db.packAppend c allocator) = .ok packed ∧
      db.reading c (fun _ => false) packed.flatten = (appends.flatMap OplogAppend.nodes, .ok ()) := by
  induction appends with
  | nil => exact ⟨[], rfl, rfl⟩
  | cons append appends ih =>
      obtain ⟨packed, packs, reads⟩ := ih fun other member =>
        carried other (List.mem_cons_of_mem _ member)
      obtain ⟨nodes, isNodes, readsNodes⟩ := reading_objects inflates allocator append.owner
        append.objects (carried append List.mem_cons_self)
      have operations : append.objects.filterMap
          (fun object => (object.canonical .null).operation?) = append.operations := by
        have same := congrArg (List.filterMap id) append.canonical_objects
        rw [List.filterMap_map, List.filterMap_map] at same
        exact same.trans List.filterMap_some
      rw [operations] at readsNodes
      refine ⟨nodes :: packed, ?_, ?_⟩
      · rw [List.mapM_cons]
        show (db.packAppend c allocator append >>= fun first =>
          appends.mapM _ >>= fun rest => Except.ok (first :: rest)) = _
        rw [show db.packAppend c allocator append = .ok nodes from isNodes]
        show (appends.mapM _ >>= fun rest => Except.ok (nodes :: rest)) = _
        rw [packs]
        rfl
      · rw [List.flatten_cons, reading_append readsNodes, reads]
        rfl

/-- What `addWriter`, `removeWriter`, `exec`, `run` and `flush` append, in any order, is
applied as the operations they are about, in every interleaving, while zlib does not fail. -/
theorem apply_appended (db : Database κ) (c : Primitives ParameterField) (allocator : Allocator)
    (inflates : ∀ level buffer,
      db.vfs.runtime.inflate (db.vfs.runtime.deflate level buffer) = some buffer)
    (appends : List OplogAppend)
    (carried : ∀ append ∈ appends, ∀ object ∈ append.objects, object.Carried c .null)
    (rely : Instance κ → Instance κ → Prop) (view : Nat) (start : Instance κ)
    (result : Except JsValue Unit) :
    ∃ packed, appends.mapM (db.packAppend c allocator) = .ok packed ∧
      (∀ final, RunUnder rely (db.applyEncoded c (fun _ => false) packed.flatten view) start
          result final →
        ∃ middle, RunUnder rely (db.apply (appends.flatMap OplogAppend.nodes) view) start result
            middle ∧ ReflTransGen rely middle final) ∧
      ∀ final, RunUnder rely (db.apply (appends.flatMap OplogAppend.nodes) view) start result
          final →
        RunUnder rely (db.applyEncoded c (fun _ => false) packed.flatten view) start result
          final := by
  obtain ⟨packed, packs, reads⟩ := reading_appends inflates allocator appends carried
  have ends (told : Except JsValue Unit) : (told >>= fun _ => Except.ok ()) = told := by
    cases told <;> rfl
  refine ⟨packed, packs, fun final ran => ?_, fun final ran => ?_⟩
  · obtain ⟨told, middle, applied, moves, same⟩ := applyFrom_of_encoded ran
    rw [reads] at applied same
    obtain rfl : result = told := same.trans (ends told)
    exact ⟨middle, applied, moves⟩
  · have encoded : RunUnder rely
        (db.applyEncodedFrom c view (fun _ => false) packed.flatten .initial) start
        (result >>= fun _ => (db.reading c (fun _ => false) packed.flatten).2) final := by
      apply encoded_of_applyFrom
      rw [reads]
      exact ran
    rw [reads, ends] at encoded
    exact encoded

end Database

namespace Database

def sampleAppends : List OplogAppend :=
  [.addWriter (Buffer.alloc 32), .call 0 (.exec "CREATE TABLE t (x)"),
    .call 1 (.run "INSERT INTO t VALUES (?)" ⟨.null, .list [.integer 7]⟩),
    .call 2 (.flush "INSERT INTO t VALUES (?)" [⟨.null, .list [.integer 7]⟩, ⟨.null, .list []⟩]),
    .removeWriter (Buffer.alloc 32)]

/-- A journal is kept, and pages and nodes are deflated. -/
def compressing : Database Unit :=
  { sample journalingSqlite with
    vfs :=
      { ParaVFS.sample with
        runtime := .flipping
        encryption := some ⟨[1], [2]⟩
        compressed := true } }

private theorem sampleAppends_carried :
    ∀ append ∈ sampleAppends, ∀ object ∈ append.objects,
      object.Carried Primitives.fields .null := by
  have simple : ∀ append ∈ sampleAppends, ∀ object ∈ append.objects,
      (object.type ∈ OPERATION.types ∧ object.type < 256) ∧
        (OPERATION.usesKey object.type → object.key = some (Buffer.alloc 32)) ∧
        (OPERATION.usesSql object.type →
          object.sql ∈ [some "CREATE TABLE t (x)", some "INSERT INTO t VALUES (?)"]) ∧
        ∀ field ∈ [object.named, object.positional],
          field ∈ [none, some .null, some (.list []), some (.list [.integer 7])] := by
    decide +kernel
  intro append member object within
  obtain ⟨known, key, sql, fields⟩ := simple append member object within
  refine Primitives.carried_fields known (fun uses => ⟨_, key uses, List.length_replicate⟩)
    (fun uses => ?_) fields
  have isSql := sql uses
  simp only [List.mem_cons, List.not_mem_nil, or_false] at isSql
  rcases isSql with isSql | isSql
  · exact ⟨_, isSql, by decide, by decide⟩
  · exact ⟨_, isSql, by decide, by decide⟩

private theorem sampleAppends_applied :
    ((compressing.apply (sampleAppends.flatMap OplogAppend.nodes) 0).run
      (.opened (fun _ _ => ∅) (fun _ => 0) ())).1 = .ok () := by
  decide +kernel

/-- Nodes of every kind, with parameters, deflated. -/
theorem apply_appended_everyKind :
    ∃ packed, sampleAppends.mapM (compressing.packAppend .fields .zeroed) = .ok packed ∧
      ∃ final, RunUnder alone
        (compressing.applyEncoded .fields (fun _ => false) packed.flatten 0)
        (.opened (fun _ _ => ∅) (fun _ => 0) ()) (.ok ()) final := by
  have ran := runUnder_run alone
    (compressing.apply (sampleAppends.flatMap OplogAppend.nodes) 0)
    (.opened (fun _ _ => ∅) (fun _ => 0) ())
  rw [sampleAppends_applied] at ran
  obtain ⟨packed, packs, -, applies⟩ := apply_appended compressing .fields .zeroed
    Runtime.flipping_lawful.inflate_deflate sampleAppends sampleAppends_carried alone 0
    (.opened (fun _ _ => ∅) (fun _ => 0) ()) (.ok ())
  exact ⟨packed, packs, _, applies _ ran⟩

end Database
end ParaQL
