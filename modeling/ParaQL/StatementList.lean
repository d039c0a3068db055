/-
The list of statements through every order of work and garbage collection.

What an event does to the list is an insertion, a removal or the loop of the database's
own finalization.  Beside the list runs an account of the `sqlite3_stmt` that are still
to be finalized.
-/

import ParaQL.StatementPointers
import ParaQL.WorkerTasks
import Mathlib.Data.List.Perm.Subperm

namespace ParaQL

open Async Pointers StatementMemory

/-- Who holds which `sqlite3_stmt`, how many there have been, and which are finalized. -/
structure HandleAccount (holds : Nat → Option Nat) (prepared : Nat) (finalized : List Nat) :
    Prop where
  held : ∀ stmt handle, holds stmt = some handle → handle < prepared ∧ handle ∉ finalized
  distinct : ∀ first second handle, holds first = some handle → holds second = some handle →
    first = second
  once : finalized.Nodup
  old : ∀ handle ∈ finalized, handle < prepared

namespace HandleAccount

variable {holds after : Nat → Option Nat} {prepared : Nat} {finalized : List Nat}

theorem initial : HandleAccount (fun _ => none) 0 [] :=
  ⟨fun _ _ held => absurd held (Option.some_ne_none _).symm,
    fun _ _ _ held => absurd held (Option.some_ne_none _).symm, List.nodup_nil,
    fun _ member => absurd member List.not_mem_nil⟩

/-- Statements that let go of their handles had better finalize them. -/
theorem finalize (account : HandleAccount holds prepared finalized) {stmts : List Nat}
    (distinct : stmts.Nodup)
    (kept : ∀ stmt handle, after stmt = some handle → holds stmt = some handle ∧ stmt ∉ stmts) :
    HandleAccount after prepared (finalized ++ stmts.filterMap holds) := by
  have newly {handle : Nat} (member : handle ∈ stmts.filterMap holds) :
      ∃ stmt ∈ stmts, holds stmt = some handle := List.mem_filterMap.1 member
  constructor
  · intro stmt handle holding
    obtain ⟨held, outside⟩ := kept stmt handle holding
    refine ⟨(account.held stmt handle held).1, ?_⟩
    intro member
    rcases List.mem_append.1 member with early | late
    · exact (account.held stmt handle held).2 early
    · obtain ⟨other, inside, same⟩ := newly late
      exact outside (account.distinct stmt other handle held same ▸ inside)
  · intro first second handle holding same
    exact account.distinct first second handle (kept _ _ holding).1 (kept _ _ same).1
  · refine List.nodup_append.2 ⟨account.once, ?_, ?_⟩
    · exact distinct.filterMap fun first second handle held same =>
        account.distinct first second handle held same
    · intro handle early other late same
      obtain ⟨stmt, _, held⟩ := newly late
      exact (account.held stmt other held).2 (same ▸ early)
  · intro handle member
    rcases List.mem_append.1 member with early | late
    · exact account.old handle early
    · obtain ⟨stmt, _, held⟩ := newly late
      exact (account.held stmt handle held).1

theorem mono (account : HandleAccount holds prepared finalized)
    (kept : ∀ stmt handle, after stmt = some handle → holds stmt = some handle) :
    HandleAccount after prepared finalized :=
  ⟨fun stmt handle held => account.held stmt handle (kept stmt handle held),
    fun first second handle held same =>
      account.distinct first second handle (kept first handle held) (kept second handle same),
    account.once, account.old⟩

/-- One more `sqlite3_stmt`, for a statement that had none. -/
theorem prepare (account : HandleAccount holds prepared finalized) (stmt : Nat)
    (kept : ∀ other handle, after other = some handle →
      holds other = some handle ∨ (other = stmt ∧ handle = prepared)) :
    HandleAccount after (prepared + 1) finalized := by
  have neverMade {other : Nat} (held : holds other = some prepared) : False :=
    absurd (account.held other prepared held).1 (Nat.lt_irrefl _)
  constructor
  · intro other handle holding
    rcases kept other handle holding with held | ⟨_, rfl⟩
    · exact ⟨Nat.lt_succ_of_lt (account.held other handle held).1,
        (account.held other handle held).2⟩
    · exact ⟨Nat.lt_succ_self _, fun member => absurd (account.old _ member) (Nat.lt_irrefl _)⟩
  · intro first second handle holding same
    rcases kept first handle holding with held | ⟨here, rfl⟩
    · rcases kept second handle same with held' | ⟨_, rfl⟩
      · exact account.distinct first second handle held held'
      · exact (neverMade held).elim
    · rcases kept second _ same with held' | ⟨there, _⟩
      · exact (neverMade held').elim
      · exact here.trans there.symm
  · exact account.once
  · exact fun handle member => Nat.lt_succ_of_lt (account.old handle member)

/-- A `sqlite3_stmt` that nobody was given is finalized at once. -/
theorem discard (account : HandleAccount holds prepared finalized) :
    HandleAccount holds (prepared + 1) (finalized ++ [prepared]) := by
  constructor
  · intro stmt handle held
    obtain ⟨made, going⟩ := account.held stmt handle held
    refine ⟨Nat.lt_succ_of_lt made, ?_⟩
    simp only [List.mem_append, List.mem_singleton, not_or]
    exact ⟨going, Nat.ne_of_lt made⟩
  · exact account.distinct
  · refine List.nodup_append.2 ⟨account.once, List.nodup_singleton _, ?_⟩
    intro handle early other late same
    rw [List.mem_singleton.1 late] at same
    exact absurd (account.old handle early) (same ▸ Nat.lt_irrefl _)
  · intro handle member
    rcases List.mem_append.1 member with early | late
    · exact Nat.lt_succ_of_lt (account.old handle early)
    · exact List.mem_singleton.1 late ▸ Nat.lt_succ_self _

end HandleAccount

structure ListInvariant (state : StatementHeap) (items : List Nat) : Prop where
  chained : state.memory.Chained state.statements items
  detached : ∀ stmt node, state.memory stmt = some node → stmt ∉ items → node = .detached
  bounded : ∀ stmt, state.allocated ≤ stmt → state.memory stmt = none
  account : HandleAccount state.memory.handleOf state.prepared state.finalized
  freed : state.dbFreed = true → items = []

structure ListAfter (after : StatementHeap) (items : List Nat) (allocated : Nat)
    (flags : Nat → Option (Bool × Bool)) : Prop where
  invariant : ListInvariant after items
  allocated : after.allocated = allocated
  flags : ∀ stmt, after.memory.flagsOf stmt = flags stmt

namespace ListInvariant

variable {state after : StatementHeap} {items : List Nat} {stmt : Nat} {node : StatementNode}

theorem initial : ListInvariant .initial [] where
  chained := ⟨doublyLinked_nil, fun _ member => absurd member List.not_mem_nil⟩
  detached _ _ found := by cases found
  bounded _ _ := rfl
  account := HandleAccount.initial
  freed _ := rfl

private theorem not_mem_of_none (invariant : ListInvariant state items)
    (free : state.memory stmt = none) : stmt ∉ items := by
  intro member
  obtain ⟨node, found, _⟩ := invariant.chained.members stmt member
  rw [free] at found
  cases found

/-- A statement is on the list exactly when it knows its database. -/
theorem mem_iff (invariant : ListInvariant state items) (found : state.memory stmt = some node) :
    stmt ∈ items ↔ node.db = true := by
  constructor
  · intro member
    obtain ⟨current, allocated, onList⟩ := invariant.chained.members stmt member
    rw [found] at allocated
    cases allocated
    exact onList
  · intro onList
    by_contra outside
    rw [invariant.detached stmt node found outside] at onList
    cases onList

private theorem open_of_mem (invariant : ListInvariant state items) (member : stmt ∈ items) :
    state.dbFreed = false := by
  cases known : state.dbFreed with
  | false => rfl
  | true =>
      rw [invariant.freed known] at member
      cases member

private theorem filter_ne_middle {front back : List Nat}
    (distinct : (front ++ stmt :: back).Nodup) :
    (front ++ stmt :: back).filter (· ≠ stmt) = front ++ back := by
  have apart := (List.nodup_cons.1 (List.nodup_middle.1 distinct)).1
  rw [List.mem_append, not_or] at apart
  have kept (items : List Nat) (outside : stmt ∉ items) : items.filter (· ≠ stmt) = items := by
    apply List.filter_eq_self.2
    intro other member
    exact decide_eq_true fun same => outside (same ▸ member)
  rw [List.filter_append, kept front apart.1, List.filter_cons_of_neg (by simp), kept back apart.2]

theorem length_le (invariant : ListInvariant state items) : items.length ≤ state.allocated := by
  have inRange : items ⊆ List.range state.allocated := by
    intro stmt member
    rw [List.mem_range]
    by_contra beyond
    exact invariant.not_mem_of_none (invariant.bounded stmt (Nat.le_of_not_lt beyond)) member
  have shorter := (List.subperm_of_subset invariant.chained.linked.nodup inRange).length_le
  rwa [List.length_range] at shorter

/-! ### Events -/

private theorem prepareFails (invariant : ListInvariant state items) {status : Int}
    (fails : status ≠ 0)
    (hasHandle : Bool) (garbage : StatementNode) :
    ∃ after, state.onBeforePrepare status hasHandle garbage = some after ∧
      ListAfter after items state.allocated state.memory.flagsOf := by
  refine ⟨_, if_pos fails, ?_, rfl, fun _ => rfl⟩
  cases hasHandle with
  | true =>
      exact ⟨invariant.chained, invariant.detached, invariant.bounded,
        invariant.account.discard, invariant.freed⟩
  | false =>
      refine ⟨invariant.chained, invariant.detached, invariant.bounded, ?_, invariant.freed⟩
      have same := invariant.account
      rw [← List.append_nil state.finalized] at same
      exact same

theorem prepare (invariant : ListInvariant state items) (open_ : state.dbFreed = false)
    (hasHandle : Bool) (garbage : StatementNode) :
    ∃ after, state.onBeforePrepare 0 hasHandle garbage = some after ∧
      ListAfter after (state.allocated :: items) (state.allocated + 1)
        (Function.update state.memory.flagsOf state.allocated (some (hasHandle, true))) := by
  have fresh : state.allocated ∉ items :=
    invariant.not_mem_of_none (invariant.bounded _ (Nat.le_refl _))
  let made : StatementNode :=
    { garbage with handle := if hasHandle then some state.prepared else none }
  let created : StatementMemory := Function.update state.memory state.allocated (some made)
  have chained : created.Chained state.statements items := invariant.chained.update fresh _
  have there : created state.allocated = some made := Function.update_self _ _ _
  have elsewhere {stmt : Nat} (apart : stmt ≠ state.allocated) :
      created stmt = state.memory stmt := Function.update_of_ne apart _ _
  refine ⟨_, StatementHeap.insertStatement_eq open_ chained there fresh,
    ⟨?_, ?_, ?_, ?_, ?_⟩, rfl, ?_⟩
  · exact chained.insert fresh made
  · intro stmt node found outside
    have same := (chained.link_of_not_mem outside made).symm.trans found
    rw [elsewhere (List.ne_of_not_mem_cons outside)] at same
    exact invariant.detached stmt node same (List.not_mem_of_not_mem_cons outside)
  · intro stmt beyond
    have apart : stmt ≠ state.allocated := by
      rintro rfl
      exact absurd beyond (Nat.not_succ_le_self _)
    have free := (elsewhere apart).trans (invariant.bounded stmt (Nat.le_of_succ_le beyond))
    exact link_of_none free apart _ _
  · have kept (other handle : Nat)
        (held : (created.link state.statements state.allocated made).handleOf other = some handle) :
        state.memory.handleOf other = some handle ∨
          (other = state.allocated ∧ made.handle = some handle) := by
      rw [handleOf_link] at held
      split at held
      · rename_i here
        exact Or.inr ⟨here, held⟩
      · rename_i apart
        rw [handleOf, elsewhere apart] at held
        exact Or.inl held
    cases hasHandle with
    | true =>
        apply invariant.account.prepare state.allocated
        intro other handle held
        rcases kept other handle held with old | ⟨here, new⟩
        · exact Or.inl old
        · exact Or.inr ⟨here, (Option.some.inj new).symm⟩
    | false =>
        apply invariant.account.mono
        intro other handle held
        rcases kept other handle held with old | ⟨_, new⟩
        · exact old
        · cases new
  · intro freed
    rw [open_] at freed
    cases freed
  · intro stmt
    have shown : made.handle.isSome = hasHandle := by
      cases hasHandle <;> rfl
    refine (flagsOf_link state.statements state.allocated made stmt).trans ?_
    rw [Function.update_apply, shown]
    split
    · rfl
    · rename_i apart
      exact congrArg (Option.map fun node => (node.handle.isSome, node.db)) (elsewhere apart)

/-- A statement without a handle leaves the list and is NULL all over. -/
theorem remove (invariant : ListInvariant state items) (found : state.memory stmt = some node)
    (member : stmt ∈ items) (released : node.handle = none) :
    ∃ after, state.removeStatement stmt = some after ∧
      ListAfter after (items.filter (· ≠ stmt)) state.allocated
        (Function.update state.memory.flagsOf stmt (some (false, false))) := by
  have open_ := invariant.open_of_mem member
  obtain ⟨front, back, rfl⟩ := List.append_of_mem member
  rw [filter_ne_middle invariant.chained.linked.nodup]
  refine ⟨_, StatementHeap.removeStatement_eq open_ invariant.chained found,
    ⟨?_, ?_, ?_, ?_, ?_⟩, rfl, ?_⟩
  · exact invariant.chained.remove found
  · intro other current allocated outside
    by_cases same : other = stmt
    · subst same
      have cleared := (Function.update_self other _ _).symm.trans allocated
      cases cleared
      rw [released]
      rfl
    · have apart : other ∉ front ++ stmt :: back := by
        simp only [List.mem_append, List.mem_cons, not_or] at outside ⊢
        exact ⟨outside.1, same, outside.2⟩
      have unchanged := (invariant.chained.unlink_of_not_mem found apart).symm.trans allocated
      exact invariant.detached other current unchanged apart
  · intro other beyond
    have free := invariant.bounded other beyond
    have apart : other ≠ stmt := by
      rintro rfl
      rw [found] at free
      cases free
    exact unlink_of_none free apart _
  · apply invariant.account.mono
    intro other handle held
    rw [handleOf_unlink] at held
    split at held
    · rw [released] at held
      cases held
    · exact held
  · intro freed
    rw [open_] at freed
    cases freed
  · intro other
    refine (flagsOf_unlink stmt node other).trans ?_
    rw [Function.update_apply, released]
    rfl

/-- `sqlite3_finalize` and the handle set to NULL. -/
theorem release (invariant : ListInvariant state items) (found : state.memory stmt = some node) :
    ∃ after, (state.sqliteFinalize node.handle).store stmt (fun node =>
        { node with handle := none }) = some after ∧
      after.memory stmt = some { node with handle := none } ∧
      ListAfter after items state.allocated
        (Function.update state.memory.flagsOf stmt (some (false, node.db))) := by
  have allocated : (state.sqliteFinalize node.handle).memory stmt = some node := found
  refine ⟨_, StatementHeap.store_of_memory allocated _, Function.update_self _ _ _,
    ⟨?_, ?_, ?_, ?_, ?_⟩, rfl, ?_⟩
  · exact invariant.chained.dropHandle found
  · intro other current there outside
    by_cases same : other = stmt
    · subst same
      have cleared := (Function.update_self other _ _).symm.trans there
      rw [invariant.detached other node found outside] at cleared
      cases cleared
      rfl
    · have unchanged := (Function.update_of_ne same _ _).symm.trans there
      exact invariant.detached other current unchanged outside
  · intro other beyond
    have free := invariant.bounded other beyond
    have apart : other ≠ stmt := by
      rintro rfl
      rw [found] at free
      cases free
    exact (Function.update_of_ne apart _ _).trans free
  · have handed : node.handle.toList = [stmt].filterMap state.memory.handleOf := by
      rw [List.filterMap_cons, handleOf_of_memory found, List.filterMap_nil]
      cases node.handle <;> rfl
    change HandleAccount _ state.prepared (state.finalized ++ node.handle.toList)
    rw [handed]
    apply invariant.account.finalize (List.nodup_singleton stmt)
    intro other handle held
    have here := (handleOf_update state.memory stmt other _).symm.trans held
    split at here
    · cases here
    · rename_i apart
      exact ⟨here, by rwa [List.mem_singleton]⟩
  · exact invariant.freed
  · intro other
    refine (flagsOf_update _ stmt other _).trans ?_
    rw [Function.update_apply]
    rfl

theorem finalize (invariant : ListInvariant state items) (found : state.memory stmt = some node) :
    ∃ after, state.onBeforeFinalize stmt = some after ∧
      ListAfter after (items.filter (· ≠ stmt)) state.allocated
        (Function.update state.memory.flagsOf stmt (some (false, false))) := by
  obtain ⟨released, stored, current, kept⟩ := invariant.release found
  simp only [StatementHeap.onBeforeFinalize, StatementHeap.load, found, Option.bind_eq_bind,
    Option.bind_some, stored]
  by_cases member : stmt ∈ items
  · obtain ⟨after, removed, left⟩ := kept.invariant.remove current member rfl
    refine ⟨after, removed, left.invariant, left.allocated.trans kept.allocated, ?_⟩
    intro other
    rw [left.flags, Function.update_apply, Function.update_apply, kept.flags]
    split
    · rfl
    · rename_i apart
      exact Function.update_of_ne apart _ _
  · have off : node.db = false := by
      rw [invariant.detached stmt node found member]
      rfl
    refine ⟨released, StatementHeap.removeStatement_of_detached current off, ?_, kept.allocated, ?_⟩
    · rw [List.filter_eq_self.2]
      · exact kept.invariant
      · intro other inside
        exact decide_eq_true fun same => member (same ▸ inside)
    · intro other
      rw [kept.flags, off]

theorem free (invariant : ListInvariant state items) (outside : stmt ∉ items) :
    ListInvariant (state.free stmt) items where
  chained := invariant.chained.update outside none
  detached other current there off := by
    by_cases same : other = stmt
    · subst same
      change Function.update state.memory other none other = some current at there
      rw [Function.update_self] at there
      cases there
    · exact invariant.detached other current
        ((Function.update_of_ne same _ _).symm.trans there) off
  bounded other beyond := by
    by_cases same : other = stmt
    · subst same
      exact Function.update_self _ _ _
    · exact (Function.update_of_ne same _ _).trans (invariant.bounded other beyond)
  account := by
    apply invariant.account.mono
    intro other handle held
    have here := (handleOf_update state.memory stmt other none).symm.trans held
    split at here
    · cases here
    · exact here
  freed := invariant.freed

private theorem free_unlink (memory : StatementMemory) (stmt : Nat) (node released : StatementNode)
    (samePrev : released.prev = node.prev) (sameNext : released.next = node.next) :
    Function.update (memory.unlink stmt node) stmt none =
      Function.update (unlink (Function.update memory stmt (some released)) stmt released) stmt
        none := by
  unfold unlink
  rw [Function.update_idem, Function.update_idem, samePrev, sameNext]
  funext other
  by_cases same : other = stmt
  · rw [same, Function.update_self, Function.update_self]
  · rw [Function.update_of_ne same, Function.update_of_ne same, withPrev, withPrev, withNext,
      withNext, Function.update_of_ne same]

/-- Collection is finalization, and then the memory is free. -/
theorem collect_eq (invariant : ListInvariant state items) (found : state.memory stmt = some node) :
    state.onBeforeFinalizeStatement stmt =
      (state.onBeforeFinalize stmt).map fun after => after.free stmt := by
  have there : (state.sqliteFinalize node.handle).memory stmt = some node := found
  simp only [StatementHeap.onBeforeFinalizeStatement, StatementHeap.onBeforeFinalize,
    StatementHeap.load, found, Option.bind_eq_bind, Option.bind_some,
    StatementHeap.store_of_memory there]
  by_cases member : stmt ∈ items
  · have open_ := invariant.open_of_mem member
    obtain ⟨front, back, rfl⟩ := List.append_of_mem member
    let released : StatementNode := { node with handle := none }
    have left : (state.sqliteFinalize node.handle).removeStatement stmt = some _ :=
      StatementHeap.removeStatement_eq open_ invariant.chained there
    have right : StatementHeap.removeStatement { state.sqliteFinalize node.handle with
        memory := Function.update state.memory stmt (some released) } stmt = some _ :=
      StatementHeap.removeStatement_eq open_ (invariant.chained.dropHandle found)
        (Function.update_self stmt (some released) state.memory)
    simp only [StatementHeap.sqliteFinalize] at left right ⊢
    rw [left, right, Option.bind_some, Option.map_some]
    simp only [StatementHeap.free, released]
    rw [free_unlink state.memory stmt node released rfl rfl]
  · cases invariant.detached stmt node found member
    have left : (state.sqliteFinalize none).removeStatement stmt = some _ :=
      StatementHeap.removeStatement_of_detached found rfl
    have right : StatementHeap.removeStatement { state.sqliteFinalize none with
        memory := Function.update state.memory stmt (some .detached) } stmt = some _ :=
      StatementHeap.removeStatement_of_detached (Function.update_self _ _ _) rfl
    simp only [StatementNode.detached, StatementHeap.sqliteFinalize] at left right ⊢
    rw [left, right, Option.bind_some, Option.map_some]
    simp only [StatementHeap.free, Function.update_idem]

theorem collectDatabase (invariant : ListInvariant state items) (open_ : state.dbFreed = false) :
    ∃ after, state.onBeforeFinalizeDb = some after ∧
      after.memory = state.memory.detachAll items ∧ after.dbFreed = true ∧
      after.allocated = state.allocated ∧ ListInvariant after [] := by
  obtain ⟨last, segment⟩ := invariant.chained.linked
  have allocated : ∀ stmt ∈ items, ∃ node, state.memory stmt = some node := by
    intro stmt member
    exact (invariant.chained.members stmt member).imp fun _ known => known.1
  have looped := StatementHeap.finalizeFrom_eq state.allocated invariant.length_le segment allocated
  have ran : state.onBeforeFinalizeDb = some
      { state with
        memory := state.memory.detachAll items
        statements := none
        dbFreed := true
        finalized := state.finalized ++ items.filterMap state.memory.handleOf } := by
    simp only [StatementHeap.onBeforeFinalizeDb, StatementHeap.finalizeStatements,
      StatementHeap.loadHead_of_open open_, Option.bind_eq_bind, Option.bind_some, looped,
      StatementHeap.storeHead, open_, Bool.false_eq_true, if_false]
  refine ⟨_, ran, rfl, rfl, rfl, ?_⟩
  constructor
  · exact ⟨doublyLinked_nil, fun _ member => absurd member List.not_mem_nil⟩
  · intro stmt node there _
    have content : state.memory.detachAll items stmt = some node := there
    unfold detachAll at content
    split at content
    · cases content
      rfl
    · rename_i outside
      exact invariant.detached stmt node content outside
  · intro stmt beyond
    have free := invariant.bounded stmt beyond
    exact (if_neg (invariant.not_mem_of_none free)).trans free
  · apply invariant.account.finalize invariant.chained.linked.nodup
    intro stmt handle held
    have here := (handleOf_detachAll items stmt).symm.trans held
    split at here
    · cases here
    · rename_i outside
      exact ⟨here, outside⟩
  · exact fun _ => rfl

theorem collect (invariant : ListInvariant state items) (found : state.memory stmt = some node) :
    ∃ after, state.onBeforeFinalizeStatement stmt = some after ∧
      ListAfter after (items.filter (· ≠ stmt)) state.allocated
        (Function.update state.memory.flagsOf stmt none) := by
  obtain ⟨finalized, ran, left⟩ := invariant.finalize found
  refine ⟨finalized.free stmt, ?_, left.invariant.free ?_, left.allocated, ?_⟩
  · rw [invariant.collect_eq found, ran, Option.map_some]
  · simp
  · intro other
    refine (flagsOf_update finalized.memory stmt other none).trans ?_
    rw [Function.update_apply, left.flags]
    split
    · rfl
    · rename_i apart
      exact Function.update_of_ne apart _ _

end ListInvariant

/-! ### The list of the tasks' model -/

namespace WorkerState

/-- The tasks' model sees the list, and which pointers of a statement are not NULL. -/
structure Mirrors (worker : WorkerState) (state : StatementHeap) (items : List Nat) : Prop where
  linked : worker.linked = items
  count : worker.count = state.allocated
  statements : ∀ stmt flags, state.memory.flagsOf stmt = some flags →
    worker.statements stmt = { handle := flags.1, db := flags.2 }

def follow (worker : WorkerState) : ListEvent → WorkerState
  | .prepare status hasHandle _ => (worker.onBeforePrepare status hasHandle "").1
  | .finalize stmt => worker.onBeforeFinalize stmt
  | .collectStatement stmt => worker.onBeforeFinalize stmt
  | .collectDatabase => worker.onBeforeFinalizeDb

variable {worker : WorkerState} {state : StatementHeap} {items : List Nat}

theorem mirrors_initial : Mirrors .initial .initial [] :=
  ⟨rfl, rfl, fun _ _ found => by cases found⟩

private theorem onBeforeFinalize_statements (worker : WorkerState) (stmt : Nat) :
    (worker.onBeforeFinalize stmt).statements =
      Function.update worker.statements stmt { handle := false, db := false } := by
  simp only [onBeforeFinalize, removeStatement, setStatement, Function.update_self]
  split
  · exact Function.update_idem _ _ _
  · rename_i off
    rw [(Bool.not_eq_true _).mp off]

/-- Also a finalization of what is off the list filters the list. -/
theorem Mirrors.onBeforeFinalize (mirrors : worker.Mirrors state items)
    (invariant : ListInvariant state items) {stmt : Nat} {node : StatementNode}
    (found : state.memory stmt = some node) :
    (worker.onBeforeFinalize stmt).linked = items.filter (· ≠ stmt) ∧
      (worker.onBeforeFinalize stmt).count = state.allocated := by
  have flags : state.memory.flagsOf stmt = some (node.handle.isSome, node.db) := by
    rw [flagsOf, found, Option.map_some]
  have onList := mirrors.statements stmt _ flags
  simp only [WorkerState.onBeforeFinalize, removeStatement, setStatement, Function.update_self,
    onList]
  split
  · rw [mirrors.linked]
    exact ⟨rfl, mirrors.count⟩
  · rename_i off
    refine ⟨?_, mirrors.count⟩
    rw [mirrors.linked, List.filter_eq_self.2]
    intro other member
    exact decide_eq_true fun same => off ((invariant.mem_iff found).1 (same ▸ member))

theorem Mirrors.finalize (mirrors : worker.Mirrors state items)
    (invariant : ListInvariant state items) {stmt : Nat} {node : StatementNode}
    (found : state.memory stmt = some node) {after : StatementHeap}
    {flags : Option (Bool × Bool)} (nulled : ∀ shown, flags = some shown → shown = (false, false))
    (left : ListAfter after (items.filter (· ≠ stmt)) state.allocated
      (Function.update state.memory.flagsOf stmt flags)) :
    (worker.onBeforeFinalize stmt).Mirrors after (items.filter (· ≠ stmt)) := by
  obtain ⟨linked, count⟩ := mirrors.onBeforeFinalize invariant found
  refine ⟨linked, count.trans left.allocated.symm, ?_⟩
  intro other shown seen
  rw [left.flags, Function.update_apply] at seen
  rw [onBeforeFinalize_statements, Function.update_apply]
  split at seen
  · rename_i here
    rw [if_pos here, nulled shown seen]
  · rename_i apart
    rw [if_neg apart]
    exact mirrors.statements other shown seen

/-- The pointers do what the tasks' model says, and follow no pointer to nowhere. -/
theorem Mirrors.step (mirrors : worker.Mirrors state items)
    (invariant : ListInvariant state items) {event : ListEvent} (allowed : state.Allows event) :
    ∃ after items', state.perform event = some after ∧ ListInvariant after items' ∧
      (worker.follow event).Mirrors after items' := by
  cases event with
  | prepare status hasHandle garbage =>
      by_cases fails : status ≠ 0
      · obtain ⟨after, ran, left⟩ := invariant.prepareFails fails hasHandle garbage
        refine ⟨after, items, ran, left.invariant, ?_⟩
        have stays : worker.follow (.prepare status hasHandle garbage) = worker := by
          simp only [follow, onBeforePrepare, if_pos fails]
        rw [stays]
        refine ⟨mirrors.linked, mirrors.count.trans left.allocated.symm, ?_⟩
        intro stmt flags seen
        exact mirrors.statements stmt flags ((left.flags stmt).symm.trans seen)
      · have succeeds : status = 0 := not_not.1 fails
        subst succeeds
        obtain ⟨after, ran, left⟩ := invariant.prepare allowed hasHandle garbage
        refine ⟨after, _, ran, left.invariant, ?_⟩
        have moves : worker.follow (.prepare 0 hasHandle garbage) =
            worker.insertStatement hasHandle := rfl
        rw [moves]
        refine ⟨?_, ?_, ?_⟩
        · rw [insertStatement, mirrors.linked, mirrors.count]
        · rw [insertStatement, left.allocated, mirrors.count]
        · intro stmt flags seen
          rw [left.flags, Function.update_apply] at seen
          simp only [insertStatement, setStatement, Function.update_apply, mirrors.count]
          split at seen
          · rename_i here
            cases seen
            rw [if_pos here]
          · rename_i apart
            rw [if_neg apart]
            exact mirrors.statements stmt flags seen
  | finalize stmt =>
      obtain ⟨node, found⟩ := Option.isSome_iff_exists.1 allowed
      obtain ⟨after, ran, left⟩ := invariant.finalize found
      exact ⟨after, _, ran, left.invariant,
        mirrors.finalize invariant found (fun shown same => (Option.some.inj same).symm) left⟩
  | collectStatement stmt =>
      obtain ⟨node, found⟩ := Option.isSome_iff_exists.1 allowed
      obtain ⟨after, ran, left⟩ := invariant.collect found
      exact ⟨after, _, ran, left.invariant,
        mirrors.finalize invariant found (fun shown same => by cases same) left⟩
  | collectDatabase =>
      obtain ⟨after, ran, memory, _, allocated, kept⟩ := invariant.collectDatabase allowed
      refine ⟨after, [], ran, kept, rfl, mirrors.count.trans allocated.symm, ?_⟩
      intro stmt flags seen
      rw [memory, flagsOf_detachAll] at seen
      simp only [follow, onBeforeFinalizeDb, finalizeStatements, mirrors.linked]
      split at seen
      · rename_i member
        cases seen
        rw [if_pos member]
      · rename_i outside
        rw [if_neg outside]
        exact mirrors.statements stmt flags seen

end WorkerState

theorem step_eq_some_iff {state next : StatementHeap} {event : ListEvent} :
    state.step event = some next ↔ state.Allows event ∧ state.perform event = some next :=
  Option.ite_none_right_eq_some

theorem listInvariant_run {events : List ListEvent} {state final : StatementHeap}
    {items : List Nat} {worker : WorkerState} (invariant : ListInvariant state items)
    (mirrors : worker.Mirrors state items)
    (ran : Machine.run StatementHeap.step state events = some final) :
    ∃ items', ListInvariant final items' ∧
      (events.foldl WorkerState.follow worker).Mirrors final items' := by
  induction events generalizing state items worker with
  | nil =>
      cases ran
      exact ⟨items, invariant, mirrors⟩
  | cons event events ih =>
      obtain ⟨next, stepped, rest⟩ := Machine.run_cons_iff.1 ran
      obtain ⟨allowed, performed⟩ := step_eq_some_iff.1 stepped
      obtain ⟨after, items', same, kept, follows⟩ := mirrors.step invariant allowed
      rw [performed] at same
      cases same
      exact ih kept follows rest

/-- In every order of work and garbage collection that the lifetimes allow, `db->statements`
is a doubly linked list of the statements that know their database; a handle is held by such
a statement only, and finalized once; the collection of the database leaves NULL all over in
what was on the list, and in every statement from then on; and no event that may come next
follows a pointer to nowhere. -/
theorem statements_are_linked (events : List ListEvent) (state : StatementHeap)
    (ran : Machine.run StatementHeap.step .initial events = some state) :
    ∃ items, DoublyLinked state.memory.nextOf state.memory.prevOf state.statements items ∧
      items.Nodup ∧ (∀ stmt ∈ items, (state.memory stmt).isSome = true) ∧
      (∀ stmt node, state.memory stmt = some node →
        (stmt ∈ items ↔ node.db = true) ∧ (node.handle ≠ none → node.db = true)) ∧
      state.finalized.Nodup ∧
      (∀ after, state.step .collectDatabase = some after →
        ∀ stmt ∈ items, after.memory stmt = some .detached) ∧
      (state.dbFreed = true →
        ∀ stmt node, state.memory stmt = some node → node = .detached) ∧
      ∀ event, state.Allows event → ∃ after, state.perform event = some after := by
  obtain ⟨items, invariant, mirrors⟩ :=
    listInvariant_run ListInvariant.initial WorkerState.mirrors_initial ran
  refine ⟨items, invariant.chained.linked, invariant.chained.linked.nodup, ?_, ?_,
    invariant.account.once, ?_, ?_, ?_⟩
  · intro stmt member
    obtain ⟨node, found, _⟩ := invariant.chained.members stmt member
    rw [found]
    rfl
  · intro stmt node found
    refine ⟨invariant.mem_iff found, ?_⟩
    intro held
    rw [← invariant.mem_iff found]
    by_contra outside
    rw [invariant.detached stmt node found outside] at held
    exact held rfl
  · intro after stepped stmt member
    obtain ⟨allowed, performed⟩ := step_eq_some_iff.1 stepped
    obtain ⟨collected, same, memory, _⟩ := invariant.collectDatabase allowed
    cases same.symm.trans performed
    rw [memory]
    exact if_pos member
  · intro freed stmt node found
    apply invariant.detached stmt node found
    rw [invariant.freed freed]
    exact List.not_mem_nil
  · intro event allowed
    obtain ⟨after, _, performed, _⟩ := mirrors.step invariant allowed
    exact ⟨after, performed⟩

def cutFromMiddle : List ListEvent :=
  [.prepare 0 true .detached, .prepare 0 true .detached, .prepare 0 true .detached, .finalize 1,
    .finalize 1]

theorem statements_are_linked_cutFromMiddle :
    ∃ state, Machine.run StatementHeap.step .initial cutFromMiddle = some state ∧
      state.statements = some 2 ∧ state.finalized = [1] ∧
      ∃ items, DoublyLinked state.memory.nextOf state.memory.prevOf state.statements items ∧
        items.Nodup :=
  ⟨_, rfl, rfl, rfl, (statements_are_linked cutFromMiddle _ rfl).imp fun _ known =>
    ⟨known.1, known.2.1⟩⟩

end ParaQL
