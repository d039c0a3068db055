/-
The list of statements of a database, pointer by pointer.

`paraql_statement_t` lives at an address from its `prepare` to its collection, and a
statement holds the links to its neighbours.  A function that follows a pointer to an
address where nothing is allocated has no result here.
-/

import ParaQL.Async.Machine
import ParaQL.Pointers.DoublyLinked
import Mathlib.Data.Option.Basic

namespace ParaQL

open Async Pointers

/-- `paraql_statement_t`.  A pointer is `none` where it is NULL, and there is one database. -/
structure StatementNode where
  handle : Option Nat
  db : Bool
  prev : Option Nat
  next : Option Nat
  deriving DecidableEq, Repr

def StatementNode.detached : StatementNode :=
  { handle := none, db := false, prev := none, next := none }

abbrev StatementMemory := Nat → Option StatementNode

structure StatementHeap where
  memory : StatementMemory
  statements : Option Nat
  dbFreed : Bool
  allocated : Nat
  prepared : Nat
  -- The calls of `sqlite3_finalize`.  No code reads them.
  finalized : List Nat

inductive ListEvent where
  -- The status of `sqlite3_prepare_v2`, whether it gave a handle, and what `malloc` left in the
  -- memory.
  | prepare (status : Int) (hasHandle : Bool) (garbage : StatementNode)
  | finalize (stmt : Nat)
  | collectStatement (stmt : Nat)
  | collectDatabase
  deriving DecidableEq, Repr

namespace StatementHeap

def initial : StatementHeap :=
  { memory := fun _ => none
    statements := none
    dbFreed := false
    allocated := 0
    prepared := 0
    finalized := [] }

variable (state : StatementHeap)

def load (stmt : Nat) : Option StatementNode := state.memory stmt

def store (stmt : Nat) (change : StatementNode → StatementNode) : Option StatementHeap :=
  (state.memory stmt).map fun node =>
    { state with memory := Function.update state.memory stmt (some (change node)) }

def loadHead : Option (Option Nat) := if state.dbFreed then none else some state.statements

def storeHead (stmt : Option Nat) : Option StatementHeap :=
  if state.dbFreed then none else some { state with statements := stmt }

/-- `if (handle != NULL) sqlite3_finalize(handle)`. -/
def sqliteFinalize (handle : Option Nat) : StatementHeap :=
  { state with finalized := state.finalized ++ handle.toList }

/-- `if (after != NULL) after->prev = stmt`. -/
def linkBack (after stmt : Option Nat) : Option StatementHeap :=
  match after with
  | some after => state.store after fun node => { node with prev := stmt }
  | none => some state

/-- `if (before != NULL) before->next = stmt; else db->statements = stmt`. -/
def linkForth (before stmt : Option Nat) : Option StatementHeap :=
  match before with
  | some before => state.store before fun node => { node with next := stmt }
  | none => state.storeHead stmt

def insertStatement (stmt : Nat) : Option StatementHeap := do
  let head ← state.loadHead
  let state ← state.store stmt fun node => { node with db := true, prev := none, next := head }
  let state ← state.linkBack head (some stmt)
  state.storeHead (some stmt)

def removeStatement (stmt : Nat) : Option StatementHeap := do
  let node ← state.load stmt
  if node.db = false then some state
  else do
    let state ← state.linkForth node.prev node.next
    let node ← state.load stmt
    let state ← state.linkBack node.next node.prev
    state.store stmt fun node => { node with db := false, prev := none, next := none }

/-- The loop of `paraql__finalize_statements`. -/
def finalizeFrom : Nat → Option Nat → StatementHeap → Option StatementHeap
  | _, none, state => some state
  | 0, some _, _ => none
  | fuel + 1, some stmt, state => do
      let node ← state.load stmt
      let state := state.sqliteFinalize node.handle
      let state ← state.store stmt fun node =>
        { node with handle := none, db := false, prev := none, next := none }
      finalizeFrom fuel node.next state

/-- `paraql__finalize_statements`.  The list is never longer than there are addresses. -/
def finalizeStatements : Option StatementHeap := do
  let head ← state.loadHead
  let state ← finalizeFrom state.allocated head state
  state.storeHead none

def onBeforePrepare (status : Int) (hasHandle : Bool) (garbage : StatementNode) :
    Option StatementHeap :=
  let handle := if hasHandle then some state.prepared else none
  let state := { state with prepared := if hasHandle then state.prepared + 1 else state.prepared }
  if status ≠ 0 then some (state.sqliteFinalize handle)
  else
    insertStatement
      { state with
        memory := Function.update state.memory state.allocated
          (some { garbage with handle := handle })
        allocated := state.allocated + 1 }
      state.allocated

def onBeforeFinalize (stmt : Nat) : Option StatementHeap := do
  let node ← state.load stmt
  let state := state.sqliteFinalize node.handle
  let state ← state.store stmt fun node => { node with handle := none }
  state.removeStatement stmt

def free (stmt : Nat) : StatementHeap :=
  { state with memory := Function.update state.memory stmt none }

def onBeforeFinalizeStatement (stmt : Nat) : Option StatementHeap := do
  let node ← state.load stmt
  let state ← (state.sqliteFinalize node.handle).removeStatement stmt
  some (state.free stmt)

def onBeforeFinalizeDb : Option StatementHeap := do
  let state ← state.finalizeStatements
  some { state with dbFreed := true }

def perform : ListEvent → Option StatementHeap
  | .prepare status hasHandle garbage => state.onBeforePrepare status hasHandle garbage
  | .finalize stmt => state.onBeforeFinalize stmt
  | .collectStatement stmt => state.onBeforeFinalizeStatement stmt
  | .collectDatabase => state.onBeforeFinalizeDb

def Allows : ListEvent → Prop
  | .prepare _ _ _ => state.dbFreed = false
  | .finalize stmt => (state.memory stmt).isSome = true
  | .collectStatement stmt => (state.memory stmt).isSome = true
  | .collectDatabase => state.dbFreed = false

instance : (event : ListEvent) → Decidable (state.Allows event)
  | .prepare _ _ _ => inferInstanceAs (Decidable (_ = _))
  | .finalize _ => inferInstanceAs (Decidable (_ = _))
  | .collectStatement _ => inferInstanceAs (Decidable (_ = _))
  | .collectDatabase => inferInstanceAs (Decidable (_ = _))

def step (event : ListEvent) : Option StatementHeap :=
  if state.Allows event then state.perform event else none

end StatementHeap

/-! ### What a link points to -/

namespace StatementMemory

variable (memory : StatementMemory)

def nextOf (stmt : Nat) : Option Nat := (memory stmt).bind (·.next)

def prevOf (stmt : Nat) : Option Nat := (memory stmt).bind (·.prev)

def handleOf (stmt : Nat) : Option Nat := (memory stmt).bind (·.handle)

/-- Which of `handle` and `db` are not NULL. -/
def flagsOf (stmt : Nat) : Option (Bool × Bool) :=
  (memory stmt).map fun node => (node.handle.isSome, node.db)

structure Chained (head : Option Nat) (items : List Nat) : Prop where
  linked : DoublyLinked memory.nextOf memory.prevOf head items
  members : ∀ stmt ∈ items, ∃ node, memory stmt = some node ∧ node.db = true

/-- The memory with another link back from the statement `after`, if there is one. -/
def withPrev (after stmt : Option Nat) : StatementMemory := fun other =>
  (memory other).map fun node =>
    { node with prev := if some other = after then stmt else node.prev }

def withNext (before stmt : Option Nat) : StatementMemory := fun other =>
  (memory other).map fun node =>
    { node with next := if some other = before then stmt else node.next }

/-- The memory once a statement is in front of the list that began at `head`. -/
def link (head : Option Nat) (stmt : Nat) (node : StatementNode) : StatementMemory :=
  withPrev (Function.update memory stmt
    (some { node with db := true, prev := none, next := head })) head (some stmt)

def unlink (stmt : Nat) (node : StatementNode) : StatementMemory :=
  Function.update ((memory.withNext node.prev node.next).withPrev node.next node.prev) stmt
    (some { node with db := false, prev := none, next := none })

def detachAll (items : List Nat) : StatementMemory := fun stmt =>
  if stmt ∈ items then some .detached else memory stmt

variable {memory} {head : Option Nat} {items front back : List Nat} {stmt other : Nat}
  {node : StatementNode}

private theorem prevOf_of_memory (found : memory stmt = some node) :
    memory.prevOf stmt = node.prev := by
  rw [prevOf, found, Option.bind_some]

private theorem nextOf_of_memory (found : memory stmt = some node) :
    memory.nextOf stmt = node.next := by
  rw [nextOf, found, Option.bind_some]

private theorem withPrev_of_memory (found : memory other = some node) (after stmt : Option Nat) :
    memory.withPrev after stmt other =
      some { node with prev := if some other = after then stmt else node.prev } := by
  rw [withPrev, found, Option.map_some]

private theorem withNext_of_memory (found : memory other = some node) (before stmt : Option Nat) :
    memory.withNext before stmt other =
      some { node with next := if some other = before then stmt else node.next } := by
  rw [withNext, found, Option.map_some]

theorem handleOf_of_memory (found : memory stmt = some node) :
    memory.handleOf stmt = node.handle := by
  rw [handleOf, found, Option.bind_some]

@[simp] theorem nextOf_withPrev (memory : StatementMemory) (after stmt : Option Nat) (other : Nat) :
    (memory.withPrev after stmt).nextOf other = memory.nextOf other := by
  unfold nextOf withPrev
  cases memory other <;> rfl

@[simp] theorem prevOf_withNext (memory : StatementMemory) (before stmt : Option Nat)
    (other : Nat) : (memory.withNext before stmt).prevOf other = memory.prevOf other := by
  unfold prevOf withNext
  cases memory other <;> rfl

@[simp] theorem handleOf_withPrev (memory : StatementMemory) (after stmt : Option Nat)
    (other : Nat) : (memory.withPrev after stmt).handleOf other = memory.handleOf other := by
  unfold handleOf withPrev
  cases memory other <;> rfl

@[simp] theorem handleOf_withNext (memory : StatementMemory) (before stmt : Option Nat)
    (other : Nat) : (memory.withNext before stmt).handleOf other = memory.handleOf other := by
  unfold handleOf withNext
  cases memory other <;> rfl

private theorem prevOf_withPrev (found : memory other = some node) (after stmt : Option Nat) :
    (memory.withPrev after stmt).prevOf other =
      if some other = after then stmt else memory.prevOf other := by
  rw [prevOf_of_memory (withPrev_of_memory found after stmt), prevOf_of_memory found]

private theorem nextOf_withNext (found : memory other = some node) (before stmt : Option Nat) :
    (memory.withNext before stmt).nextOf other =
      if some other = before then stmt else memory.nextOf other := by
  rw [nextOf_of_memory (withNext_of_memory found before stmt), nextOf_of_memory found]

private theorem nextOf_update (memory : StatementMemory) (stmt other : Nat) (node : StatementNode) :
    nextOf (Function.update memory stmt (some node)) other =
      if other = stmt then node.next else memory.nextOf other := by
  unfold nextOf
  rw [Function.update_apply]
  split <;> rfl

private theorem prevOf_update (memory : StatementMemory) (stmt other : Nat) (node : StatementNode) :
    prevOf (Function.update memory stmt (some node)) other =
      if other = stmt then node.prev else memory.prevOf other := by
  unfold prevOf
  rw [Function.update_apply]
  split <;> rfl

theorem Chained.insert (chained : memory.Chained head items) (fresh : stmt ∉ items)
    (node : StatementNode) : (memory.link head stmt node).Chained (some stmt) (stmt :: items) := by
  have notHead : some stmt ≠ head := by
    intro same
    exact fresh (List.mem_of_head? (chained.linked.head_eq ▸ same.symm))
  have apart {other : Nat} (member : other ∈ items) : other ≠ stmt :=
    fun same => fresh (same ▸ member)
  have here := Function.update_self stmt
    (some { node with db := true, prev := none, next := head }) memory
  have elsewhere {other : Nat} (different : other ≠ stmt) :=
    Function.update_of_ne different
      (some { node with db := true, prev := none, next := head }) memory
  unfold link
  constructor
  · apply chained.linked.insert
    · rw [nextOf_withPrev, nextOf_update, if_pos rfl]
    · rw [prevOf_withPrev here, if_neg notHead, prevOf_update, if_pos rfl]
    · intro other member
      rw [nextOf_withPrev, nextOf_update, if_neg (apart member)]
    · intro other member
      obtain ⟨found, allocated, _⟩ := chained.members other member
      rw [prevOf_withPrev ((elsewhere (apart member)).trans allocated), prevOf_update,
        if_neg (apart member)]
  · intro other member
    by_cases same : other = stmt
    · subst same
      exact ⟨_, withPrev_of_memory here _ _, rfl⟩
    · obtain ⟨found, allocated, onList⟩ := chained.members other
        ((List.mem_cons.1 member).resolve_left same)
      exact ⟨_, withPrev_of_memory ((elsewhere same).trans allocated) _ _, onList⟩

theorem Chained.remove (chained : memory.Chained head (front ++ stmt :: back))
    (found : memory stmt = some node) :
    (memory.unlink stmt node).Chained (if node.prev = none then node.next else head)
      (front ++ back) := by
  have distinct := chained.linked.nodup
  have apart {other : Nat} (member : other ∈ front ++ back) : other ≠ stmt := by
    rintro rfl
    exact (List.nodup_cons.1 (List.nodup_middle.1 distinct)).1 member
  have inside {other : Nat} (member : other ∈ front ++ back) : other ∈ front ++ stmt :: back := by
    rcases List.mem_append.1 member with early | late
    · exact List.mem_append_left _ early
    · exact List.mem_append_right _ (List.mem_cons_of_mem _ late)
  constructor
  · rw [← prevOf_of_memory found, ← nextOf_of_memory found]
    apply chained.linked.remove
    · intro other member
      obtain ⟨neighbour, allocated, _⟩ := chained.members other (inside member)
      rw [unlink, nextOf_update, if_neg (apart member), nextOf_withPrev,
        nextOf_withNext allocated, prevOf_of_memory found, nextOf_of_memory found]
    · intro other member
      obtain ⟨neighbour, allocated, _⟩ := chained.members other (inside member)
      rw [unlink, prevOf_update, if_neg (apart member),
        prevOf_withPrev (withNext_of_memory allocated _ _), prevOf_withNext,
        prevOf_of_memory found, nextOf_of_memory found]
  · intro other member
    obtain ⟨neighbour, allocated, onList⟩ := chained.members other (inside member)
    have relinked := withPrev_of_memory (withNext_of_memory allocated node.prev node.next)
      node.next node.prev
    exact ⟨_, (Function.update_of_ne (apart member) _ _).trans relinked, onList⟩

/-- A statement that is not on the list can be written to. -/
theorem Chained.update (chained : memory.Chained head items) (fresh : stmt ∉ items)
    (content : Option StatementNode) :
    Chained (Function.update memory stmt content) head items := by
  have elsewhere {other : Nat} (member : other ∈ items) :
      Function.update memory stmt content other = memory other := by
    have apart : other ≠ stmt := fun same => fresh (same ▸ member)
    exact Function.update_of_ne apart _ _
  constructor
  · apply chained.linked.congr
    · intro other member
      rw [nextOf, elsewhere member, nextOf]
    · intro other member
      rw [prevOf, elsewhere member, prevOf]
  · intro other member
    rw [elsewhere member]
    exact chained.members other member

/-- The handle is no part of the list. -/
theorem Chained.dropHandle (chained : memory.Chained head items) (found : memory stmt = some node) :
    Chained (Function.update memory stmt (some { node with handle := none })) head items := by
  constructor
  · apply chained.linked.congr
    · intro other _member
      rw [nextOf_update]
      split
      · rename_i same
        rw [same, nextOf_of_memory found]
      · rfl
    · intro other _member
      rw [prevOf_update]
      split
      · rename_i same
        rw [same, prevOf_of_memory found]
      · rfl
  · intro other member
    obtain ⟨current, allocated, onList⟩ := chained.members other member
    rw [Function.update_apply]
    split
    · rename_i same
      subst same
      rw [found] at allocated
      cases allocated
      exact ⟨_, rfl, onList⟩
    · exact ⟨current, allocated, onList⟩

private theorem withPrev_of_ne {after : Option Nat} (different : some other ≠ after)
    (stmt : Option Nat) :
    memory.withPrev after stmt other = memory other := by
  unfold withPrev
  simp only [if_neg different, Option.map_id']

private theorem withNext_of_ne {before : Option Nat} (different : some other ≠ before)
    (stmt : Option Nat) : memory.withNext before stmt other = memory other := by
  unfold withNext
  simp only [if_neg different, Option.map_id']

theorem Chained.link_of_not_mem (chained : memory.Chained head items)
    (outside : other ∉ stmt :: items) (node : StatementNode) :
    memory.link head stmt node other = memory other := by
  rw [List.mem_cons, not_or] at outside
  have notHead : some other ≠ head := by
    intro same
    exact outside.2 (List.mem_of_head? (chained.linked.head_eq ▸ same.symm))
  rw [link, withPrev_of_ne notHead, Function.update_of_ne outside.1]

theorem Chained.unlink_of_not_mem (chained : memory.Chained head (front ++ stmt :: back))
    (found : memory stmt = some node) (outside : other ∉ front ++ stmt :: back) :
    memory.unlink stmt node other = memory other := by
  obtain ⟨behind, ahead⟩ := chained.linked.neighbours
  rw [prevOf_of_memory found] at behind
  rw [nextOf_of_memory found] at ahead
  simp only [List.mem_append, List.mem_cons, not_or] at outside
  have notPrev : some other ≠ node.prev := by
    rw [behind]
    exact fun same => outside.1 (List.mem_of_getLast? same.symm)
  have notNext : some other ≠ node.next := by
    rw [ahead]
    exact fun same => outside.2.2 (List.mem_of_head? same.symm)
  rw [unlink, Function.update_of_ne outside.2.1, withPrev_of_ne notNext, withNext_of_ne notPrev]

theorem handleOf_update (memory : StatementMemory) (stmt other : Nat)
    (content : Option StatementNode) :
    handleOf (Function.update memory stmt content) other =
      if other = stmt then content.bind (·.handle) else memory.handleOf other := by
  unfold handleOf
  rw [Function.update_apply]
  split <;> rfl

theorem handleOf_link (head : Option Nat) (stmt : Nat) (node : StatementNode) (other : Nat) :
    (memory.link head stmt node).handleOf other =
      if other = stmt then node.handle else memory.handleOf other := by
  rw [link, handleOf_withPrev, handleOf_update]
  rfl

theorem handleOf_unlink (stmt : Nat) (node : StatementNode) (other : Nat) :
    (memory.unlink stmt node).handleOf other =
      if other = stmt then node.handle else memory.handleOf other := by
  rw [unlink, handleOf_update, handleOf_withPrev, handleOf_withNext]
  rfl

theorem handleOf_detachAll (items : List Nat) (stmt : Nat) :
    (memory.detachAll items).handleOf stmt =
      if stmt ∈ items then none else memory.handleOf stmt := by
  unfold handleOf detachAll
  split <;> rfl

theorem flagsOf_update (memory : StatementMemory) (stmt other : Nat)
    (content : Option StatementNode) :
    flagsOf (Function.update memory stmt content) other =
      if other = stmt then content.map (fun node => (node.handle.isSome, node.db))
      else memory.flagsOf other := by
  unfold flagsOf
  rw [Function.update_apply]
  split <;> rfl

private theorem flagsOf_withPrev (after stmt : Option Nat) (other : Nat) :
    (memory.withPrev after stmt).flagsOf other = memory.flagsOf other := by
  unfold flagsOf withPrev
  cases memory other <;> rfl

private theorem flagsOf_withNext (before stmt : Option Nat) (other : Nat) :
    (memory.withNext before stmt).flagsOf other = memory.flagsOf other := by
  unfold flagsOf withNext
  cases memory other <;> rfl

theorem flagsOf_link (head : Option Nat) (stmt : Nat) (node : StatementNode) (other : Nat) :
    (memory.link head stmt node).flagsOf other =
      if other = stmt then some (node.handle.isSome, true) else memory.flagsOf other := by
  rw [link, flagsOf_withPrev, flagsOf_update]
  rfl

theorem flagsOf_unlink (stmt : Nat) (node : StatementNode) (other : Nat) :
    (memory.unlink stmt node).flagsOf other =
      if other = stmt then some (node.handle.isSome, false) else memory.flagsOf other := by
  rw [unlink, flagsOf_update, flagsOf_withPrev, flagsOf_withNext]
  rfl

theorem flagsOf_detachAll (items : List Nat) (stmt : Nat) :
    (memory.detachAll items).flagsOf stmt =
      if stmt ∈ items then some (false, false) else memory.flagsOf stmt := by
  unfold flagsOf detachAll
  split <;> rfl

theorem link_of_none (free : memory other = none) (different : other ≠ stmt) (head : Option Nat)
    (node : StatementNode) : memory.link head stmt node other = none := by
  rw [link, withPrev, Function.update_of_ne different, free, Option.map_none]

theorem unlink_of_none (free : memory other = none) (different : other ≠ stmt)
    (node : StatementNode) : memory.unlink stmt node other = none := by
  rw [unlink, Function.update_of_ne different, withPrev, withNext, free]
  rfl

private theorem detachAll_nil (memory : StatementMemory) : memory.detachAll [] = memory := by
  funext stmt
  exact if_neg List.not_mem_nil

private theorem detachAll_update (fresh : stmt ∉ items) :
    detachAll (Function.update memory stmt (some .detached)) items =
      memory.detachAll (stmt :: items) := by
  funext other
  unfold detachAll
  by_cases same : other = stmt
  · subst same
    rw [if_neg fresh, if_pos List.mem_cons_self, Function.update_self]
  · simp only [List.mem_cons, same, false_or]
    rw [Function.update_of_ne same]

end StatementMemory

namespace StatementHeap

open StatementMemory

variable {state : StatementHeap} {items front back : List Nat} {stmt : Nat} {node : StatementNode}

theorem store_of_memory (found : state.memory stmt = some node)
    (change : StatementNode → StatementNode) : state.store stmt change =
      some { state with memory := Function.update state.memory stmt (some (change node)) } := by
  rw [store, found, Option.map_some]

theorem loadHead_of_open (open_ : state.dbFreed = false) :
    state.loadHead = some state.statements := by
  rw [loadHead, open_]
  rfl

private theorem storeHead_of_open (open_ : state.dbFreed = false) (stmt : Option Nat) :
    state.storeHead stmt = some { state with statements := stmt } := by
  rw [storeHead, open_]
  rfl

private theorem linkBack_eq {after : Option Nat} (stmt : Option Nat)
    (valid : ∀ pointer, after = some pointer → ∃ node, state.memory pointer = some node) :
    state.linkBack after stmt = some { state with memory := state.memory.withPrev after stmt } := by
  cases after with
  | none =>
      unfold linkBack withPrev
      simp only [reduceCtorEq, if_false, Option.map_id']
  | some pointer =>
      obtain ⟨node, found⟩ := valid pointer rfl
      rw [linkBack, store_of_memory found]
      congr 2
      funext other
      unfold withPrev
      by_cases same : other = pointer
      · subst same
        simp [found]
      · simp [same]

private theorem linkForth_eq {before : Option Nat} (stmt : Option Nat)
    (open_ : state.dbFreed = false)
    (valid : ∀ pointer, before = some pointer → ∃ node, state.memory pointer = some node) :
    state.linkForth before stmt = some
      { state with
        memory := state.memory.withNext before stmt
        statements := if before = none then stmt else state.statements } := by
  cases before with
  | none =>
      rw [linkForth, storeHead_of_open open_]
      unfold withNext
      simp only [reduceCtorEq, if_false, Option.map_id', if_true]
  | some pointer =>
      obtain ⟨node, found⟩ := valid pointer rfl
      rw [linkForth, store_of_memory found]
      simp only [reduceCtorEq, if_false]
      congr 2
      funext other
      unfold withNext
      by_cases same : other = pointer
      · subst same
        simp [found]
      · simp [same]

theorem insertStatement_eq (open_ : state.dbFreed = false)
    (chained : state.memory.Chained state.statements items)
    (found : state.memory stmt = some node) (fresh : stmt ∉ items) :
    state.insertStatement stmt = some
      { state with
        memory := state.memory.link state.statements stmt node
        statements := some stmt } := by
  unfold insertStatement
  simp only [loadHead_of_open open_, Option.bind_eq_bind, Option.bind_some,
    store_of_memory found]
  rw [linkBack_eq, Option.bind_some]
  · apply storeHead_of_open
    exact open_
  · intro pointer atHead
    have member : pointer ∈ items := List.mem_of_head? (chained.linked.head_eq ▸ atHead)
    obtain ⟨first, foundFirst, _⟩ := chained.members pointer member
    have apart : pointer ≠ stmt := fun same => fresh (same ▸ member)
    exact ⟨first, (Function.update_of_ne apart _ _).trans foundFirst⟩

theorem removeStatement_of_detached (found : state.memory stmt = some node)
    (detached : node.db = false) : state.removeStatement stmt = some state := by
  simp only [removeStatement, load, found, Option.bind_eq_bind, Option.bind_some, detached,
    if_true]

theorem removeStatement_eq (open_ : state.dbFreed = false)
    (chained : state.memory.Chained state.statements (front ++ stmt :: back))
    (found : state.memory stmt = some node) :
    state.removeStatement stmt = some
      { state with
        memory := state.memory.unlink stmt node
        statements := if node.prev = none then node.next else state.statements } := by
  have distinct := chained.linked.nodup
  obtain ⟨behind, ahead⟩ := chained.linked.neighbours
  rw [prevOf_of_memory found] at behind
  rw [nextOf_of_memory found] at ahead
  obtain ⟨_, rest, apart⟩ := List.nodup_append.1 distinct
  have onList : node.db = true := by
    obtain ⟨other, foundOther, holds⟩ := chained.members stmt
      (List.mem_append_right _ List.mem_cons_self)
    rw [found] at foundOther
    cases foundOther
    exact holds
  have notPrev : some stmt ≠ node.prev := by
    intro same
    rw [behind] at same
    exact apart stmt (List.mem_of_getLast? same.symm) stmt List.mem_cons_self rfl
  have notNext : some stmt ≠ node.next := by
    intro same
    rw [ahead] at same
    exact (List.nodup_cons.1 rest).1 (List.mem_of_head? same.symm)
  have unchanged : state.memory.withNext node.prev node.next stmt = some node := by
    rw [withNext_of_memory found, if_neg notPrev]
  have alive (pointer : Nat) (member : pointer ∈ front ++ stmt :: back) :
      ∃ other, state.memory pointer = some other :=
    (chained.members pointer member).imp fun _ known => known.1
  unfold removeStatement load
  simp only [found, onList, Bool.true_eq_false, if_false, Option.bind_eq_bind, Option.bind_some]
  rw [linkForth_eq _ open_]
  · simp only [Option.bind_some, unchanged]
    rw [linkBack_eq]
    · rw [Option.bind_some]
      apply store_of_memory
      exact (withPrev_of_memory unchanged _ _).trans (by rw [if_neg notNext])
    · intro pointer next
      rw [ahead] at next
      obtain ⟨other, valid⟩ := alive pointer
        (List.mem_append_right _ (List.mem_cons_of_mem _ (List.mem_of_head? next)))
      exact ⟨_, withNext_of_memory valid _ _⟩
  · intro pointer prev
    rw [behind] at prev
    exact alive pointer (List.mem_append_left _ (List.mem_of_getLast? prev))

/-! ### The loop -/

/-- The loop comes to the end of the list, with a pass for each statement. -/
theorem finalizeFrom_eq {before entry last : Option Nat} (fuel : Nat) (enough : items.length ≤ fuel)
    (segment : Segment state.memory.nextOf state.memory.prevOf before entry items last none)
    (members : ∀ stmt ∈ items, ∃ node, state.memory stmt = some node) :
    finalizeFrom fuel entry state = some
      { state with
        memory := state.memory.detachAll items
        finalized := state.finalized ++ items.filterMap state.memory.handleOf } := by
  induction items generalizing state before entry fuel with
  | nil =>
      obtain ⟨rfl, _⟩ := segment
      rw [detachAll_nil, List.filterMap_nil, List.append_nil]
      cases fuel <;> rfl
  | cons stmt items ih =>
      have fresh := (List.nodup_cons.1 segment.nodup).1
      obtain ⟨rfl, _, rest⟩ := segment
      obtain ⟨node, found⟩ := members stmt List.mem_cons_self
      rw [nextOf_of_memory found] at rest
      cases fuel with
      | zero => exact absurd enough (Nat.not_succ_le_zero _)
      | succ fuel =>
          let cleared : StatementMemory := Function.update state.memory stmt (some .detached)
          have elsewhere {other : Nat} (member : other ∈ items) :
              cleared other = state.memory other := by
            have apart : other ≠ stmt := fun same => fresh (same ▸ member)
            exact Function.update_of_ne apart _ _
          have handles : items.filterMap cleared.handleOf =
              items.filterMap state.memory.handleOf := by
            apply List.filterMap_congr
            intro other member
            rw [handleOf, elsewhere member, handleOf]
          have behind : Segment cleared.nextOf cleared.prevOf (some stmt) node.next items last
              none := by
            apply rest.congr
            · intro other member
              rw [nextOf, elsewhere member, nextOf]
            · intro other member
              rw [prevOf, elsewhere member, prevOf]
          have allocated : ∀ other ∈ items, ∃ node, cleared other = some node := by
            intro other member
            rw [elsewhere member]
            exact members other (List.mem_cons_of_mem _ member)
          have later : finalizeFrom fuel node.next
              { state.sqliteFinalize node.handle with memory := cleared } = some _ :=
            ih fuel (Nat.le_of_succ_le_succ enough) behind allocated
          have stored : (state.sqliteFinalize node.handle).store stmt (fun node =>
              { node with handle := none, db := false, prev := none, next := none }) =
              some { state.sqliteFinalize node.handle with memory := cleared } := by
            apply store_of_memory
            exact found
          rw [finalizeFrom, load]
          simp only [found, Option.bind_eq_bind, Option.bind_some]
          rw [stored, Option.bind_some]
          refine later.trans ?_
          simp only [sqliteFinalize, cleared, detachAll_update fresh, handles]
          rw [List.append_assoc, List.filterMap_cons, handleOf_of_memory found]
          cases node.handle <;> rfl

end StatementHeap
end ParaQL
