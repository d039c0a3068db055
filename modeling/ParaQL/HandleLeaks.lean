/-
No `sqlite3_stmt` is lost.

Each one that `sqlite3_prepare_v2` has given is in the hands of a statement until it is
finalized, and the collection of the database finalizes what is left.
-/

import ParaQL.StatementList

namespace ParaQL

open Async Pointers StatementMemory

namespace StatementHeap

def Tended (state : StatementHeap) : Prop :=
  ∀ handle < state.prepared, handle ∈ state.finalized ∨
    ∃ stmt, state.memory.handleOf stmt = some handle

structure SameHandles (before after : StatementHeap) : Prop where
  prepared : after.prepared = before.prepared
  finalized : after.finalized = before.finalized
  handleOf : ∀ stmt, after.memory.handleOf stmt = before.memory.handleOf stmt

variable {state after : StatementHeap} {stmt : Nat} {node : StatementNode}

theorem SameHandles.refl (state : StatementHeap) : SameHandles state state :=
  ⟨rfl, rfl, fun _ => rfl⟩

theorem SameHandles.trans {middle : StatementHeap} (same : SameHandles state middle)
    (later : SameHandles middle after) : SameHandles state after :=
  ⟨later.prepared.trans same.prepared, later.finalized.trans same.finalized,
    fun stmt => (later.handleOf stmt).trans (same.handleOf stmt)⟩

theorem SameHandles.tended (same : SameHandles state after) (tended : state.Tended) :
    after.Tended := by
  intro handle made
  rw [same.prepared] at made
  rw [same.finalized]
  refine (tended handle made).imp_right ?_
  rintro ⟨stmt, holds⟩
  exact ⟨stmt, (same.handleOf stmt).trans holds⟩

private theorem store_inv {change : StatementNode → StatementNode}
    (stored : state.store stmt change = some after) :
    ∃ node, state.memory stmt = some node ∧
      after = { state with memory := Function.update state.memory stmt (some (change node)) } := by
  obtain ⟨node, found, rfl⟩ := Option.map_eq_some_iff.1 stored
  exact ⟨node, found, rfl⟩

theorem SameHandles.store {change : StatementNode → StatementNode}
    (stored : state.store stmt change = some after)
    (keeps : ∀ node, (change node).handle = node.handle) : SameHandles state after := by
  obtain ⟨node, found, rfl⟩ := store_inv stored
  refine ⟨rfl, rfl, fun other => ?_⟩
  rw [handleOf_update]
  split
  · rename_i here
    rw [here, handleOf_of_memory found]
    exact keeps node
  · rfl

theorem SameHandles.storeHead {head : Option Nat} (stored : state.storeHead head = some after) :
    SameHandles state after := by
  unfold StatementHeap.storeHead at stored
  split at stored
  · cases stored
  · cases stored
    exact ⟨rfl, rfl, fun _ => rfl⟩

theorem SameHandles.linkBack {behind target : Option Nat}
    (linked : state.linkBack behind target = some after) : SameHandles state after := by
  cases behind with
  | none =>
      cases linked
      exact .refl _
  | some behind => exact .store linked fun _ => rfl

theorem SameHandles.linkForth {before target : Option Nat}
    (linked : state.linkForth before target = some after) : SameHandles state after := by
  cases before with
  | none => exact .storeHead linked
  | some before => exact .store linked fun _ => rfl

theorem SameHandles.insertStatement (inserted : state.insertStatement stmt = some after) :
    SameHandles state after := by
  obtain ⟨head, _, rest⟩ := Option.bind_eq_some_iff.1 inserted
  obtain ⟨first, stored, rest⟩ := Option.bind_eq_some_iff.1 rest
  obtain ⟨second, linked, last⟩ := Option.bind_eq_some_iff.1 rest
  exact ((SameHandles.store stored fun _ => rfl).trans (.linkBack linked)).trans (.storeHead last)

theorem SameHandles.removeStatement (removed : state.removeStatement stmt = some after) :
    SameHandles state after := by
  obtain ⟨node, _, rest⟩ := Option.bind_eq_some_iff.1 removed
  split at rest
  · cases rest
    exact .refl _
  · obtain ⟨first, forth, rest⟩ := Option.bind_eq_some_iff.1 rest
    obtain ⟨_, _, rest⟩ := Option.bind_eq_some_iff.1 rest
    obtain ⟨second, back, last⟩ := Option.bind_eq_some_iff.1 rest
    exact ((SameHandles.linkForth forth).trans (.linkBack back)).trans (.store last fun _ => rfl)

/-- A statement lets go of its handle, which is finalized. -/
theorem Tended.release (tended : state.Tended) (found : state.memory stmt = some node)
    (later : Option StatementNode) :
    Tended { state.sqliteFinalize node.handle with
      memory := Function.update state.memory stmt later } := by
  intro handle made
  rcases tended handle made with gone | ⟨other, holds⟩
  · exact .inl (List.mem_append_left _ gone)
  · by_cases here : other = stmt
    · subst here
      rw [handleOf_of_memory found] at holds
      exact .inl (List.mem_append_right _ (Option.mem_toList.2 holds))
    · refine .inr ⟨other, ?_⟩
      have elsewhere : Function.update state.memory stmt later other = state.memory other :=
        Function.update_of_ne here _ _
      simp only [handleOf, elsewhere]
      exact holds

private theorem Tended.store_released (tended : state.Tended)
    (found : state.memory stmt = some node)
    {change : StatementNode → StatementNode}
    (stored : (state.sqliteFinalize node.handle).store stmt change = some after) :
    after.Tended := by
  obtain ⟨_, _, rfl⟩ := store_inv stored
  exact tended.release found _

theorem Tended.finalizeFrom {fuel : Nat} {entry : Option Nat} (tended : state.Tended)
    (ran : StatementHeap.finalizeFrom fuel entry state = some after) : after.Tended := by
  induction fuel generalizing entry state with
  | zero =>
      cases entry with
      | none =>
          cases ran
          exact tended
      | some stmt => cases ran
  | succ fuel ih =>
      cases entry with
      | none =>
          cases ran
          exact tended
      | some stmt =>
          obtain ⟨node, found, rest⟩ := Option.bind_eq_some_iff.1 ran
          obtain ⟨middle, stored, rest⟩ := Option.bind_eq_some_iff.1 rest
          exact ih (tended.store_released found stored) rest

/-! ### Events -/

theorem Tended.prepare {status : Int} {hasHandle : Bool} {garbage : StatementNode}
    (tended : state.Tended) (fresh : state.memory state.allocated = none)
    (ran : state.onBeforePrepare status hasHandle garbage = some after) : after.Tended := by
  have others {handle : Nat} (made : Option StatementNode)
      (held : ∃ other, state.memory.handleOf other = some handle) :
      ∃ other, handleOf (Function.update state.memory state.allocated made) other =
        some handle := by
    obtain ⟨other, holds⟩ := held
    have apart : other ≠ state.allocated := by
      rintro rfl
      rw [handleOf, fresh] at holds
      cases holds
    have elsewhere : Function.update state.memory state.allocated made other =
        state.memory other := Function.update_of_ne apart _ _
    refine ⟨other, ?_⟩
    rw [handleOf, elsewhere]
    exact holds
  unfold onBeforePrepare at ran
  cases hasHandle with
  | false =>
      by_cases fails : status ≠ 0
      · cases (if_pos fails).symm.trans ran
        exact fun handle made => (tended handle made).imp_left (List.mem_append_left _)
      · refine (SameHandles.insertStatement ((if_neg fails).symm.trans ran)).tended ?_
        exact fun handle made => (tended handle made).imp_right (others _)
  | true =>
      by_cases fails : status ≠ 0
      · cases (if_pos fails).symm.trans ran
        intro handle made
        rcases Nat.lt_succ_iff_lt_or_eq.1 made with earlier | rfl
        · exact (tended handle earlier).imp_left (List.mem_append_left _)
        · exact .inl (List.mem_append_right _ (List.mem_singleton.2 rfl))
      · refine (SameHandles.insertStatement ((if_neg fails).symm.trans ran)).tended ?_
        intro handle made
        rcases Nat.lt_succ_iff_lt_or_eq.1 made with earlier | rfl
        · exact (tended handle earlier).imp_right (others _)
        · exact .inr ⟨state.allocated, handleOf_of_memory (Function.update_self _ _ _)⟩

theorem Tended.finalize (tended : state.Tended)
    (ran : state.onBeforeFinalize stmt = some after) : after.Tended := by
  obtain ⟨node, found, rest⟩ := Option.bind_eq_some_iff.1 ran
  obtain ⟨middle, stored, removed⟩ := Option.bind_eq_some_iff.1 rest
  exact (SameHandles.removeStatement removed).tended (tended.store_released found stored)

/-- The memory of a statement that is collected is freed with its handle still in it. -/
theorem Tended.collect (tended : state.Tended)
    (ran : state.onBeforeFinalizeStatement stmt = some after) : after.Tended := by
  obtain ⟨node, found, rest⟩ := Option.bind_eq_some_iff.1 ran
  obtain ⟨middle, removed, freed⟩ := Option.bind_eq_some_iff.1 rest
  cases freed
  have found : state.memory stmt = some node := found
  have same := SameHandles.removeStatement removed
  intro handle made
  have finalized : middle.finalized = state.finalized ++ node.handle.toList := same.finalized
  rcases tended handle (same.prepared ▸ made) with gone | ⟨other, holds⟩
  · exact .inl (finalized ▸ List.mem_append_left _ gone)
  by_cases here : other = stmt
  · subst here
    rw [handleOf_of_memory found] at holds
    exact .inl (finalized ▸ List.mem_append_right _ (Option.mem_toList.2 holds))
  · refine .inr ⟨other, ?_⟩
    have elsewhere : Function.update middle.memory stmt none other = middle.memory other :=
      Function.update_of_ne here _ _
    simp only [free, handleOf, elsewhere]
    exact (same.handleOf other).trans holds

theorem Tended.collectDatabase (tended : state.Tended)
    (ran : state.onBeforeFinalizeDb = some after) : after.Tended := by
  obtain ⟨last, finalizes, freed⟩ := Option.bind_eq_some_iff.1 ran
  obtain ⟨head, _, rest⟩ := Option.bind_eq_some_iff.1 finalizes
  obtain ⟨middle, looped, stored⟩ := Option.bind_eq_some_iff.1 rest
  cases freed
  exact (SameHandles.storeHead stored).tended (tended.finalizeFrom looped)

theorem Tended.perform {event : ListEvent} (tended : state.Tended)
    (fresh : state.memory state.allocated = none) (ran : state.perform event = some after) :
    after.Tended := by
  cases event with
  | prepare status hasHandle garbage => exact tended.prepare fresh ran
  | finalize stmt => exact tended.finalize ran
  | collectStatement stmt => exact tended.collect ran
  | collectDatabase => exact tended.collectDatabase ran

private theorem tended_run {events : List ListEvent} {final : StatementHeap} {items : List Nat}
    {worker : WorkerState} (invariant : ListInvariant state items)
    (mirrors : worker.Mirrors state items) (tended : state.Tended)
    (ran : Machine.run step state events = some final) : final.Tended := by
  induction events generalizing state items worker with
  | nil =>
      cases ran
      exact tended
  | cons event events ih =>
      obtain ⟨next, stepped, rest⟩ := Machine.run_cons_iff.1 ran
      obtain ⟨allowed, performed⟩ := step_eq_some_iff.1 stepped
      obtain ⟨after, _, same, kept, follows⟩ := mirrors.step invariant allowed
      cases performed.symm.trans same
      exact ih kept follows (tended.perform (invariant.bounded _ (Nat.le_refl _)) performed) rest

/-- In every order of work and garbage collection, a `sqlite3_stmt` is either held by one
statement, which is on the list of the database, and not finalized, or held by none and
finalized once; and after the collection of the database all of them are finalized, once. -/
theorem handles_finalized_once (events : List ListEvent) (state : StatementHeap)
    (ran : Machine.run step .initial events = some state) :
    (∀ handle < state.prepared,
      (handle ∉ state.finalized ∧ ∃ stmt node, state.memory stmt = some node ∧
        node.handle = some handle ∧ node.db = true ∧
        ∀ other, state.memory.handleOf other = some handle → other = stmt) ∨
      (state.finalized.count handle = 1 ∧ ∀ stmt, state.memory.handleOf stmt ≠ some handle)) ∧
    (state.dbFreed = true → state.finalized.Perm (List.range state.prepared)) := by
  obtain ⟨items, invariant, _⟩ :=
    listInvariant_run ListInvariant.initial WorkerState.mirrors_initial ran
  have tended : state.Tended := tended_run ListInvariant.initial WorkerState.mirrors_initial
    (fun handle made => absurd made (Nat.not_lt_zero _)) ran
  have onList {stmt : Nat} {node : StatementNode} {handle : Nat}
      (found : state.memory stmt = some node) (holds : node.handle = some handle) :
      stmt ∈ items := by
    by_contra outside
    rw [invariant.detached stmt node found outside] at holds
    cases holds
  constructor
  · intro handle made
    rcases tended handle made with gone | ⟨stmt, holds⟩
    · refine .inr ⟨List.count_eq_one_of_mem invariant.account.once gone, fun stmt holds => ?_⟩
      exact (invariant.account.held stmt handle holds).2 gone
    · obtain ⟨node, found, isHandle⟩ := Option.bind_eq_some_iff.1 holds
      refine .inl ⟨(invariant.account.held stmt handle holds).2, stmt, node, found, isHandle, ?_,
        fun other alsoHolds => invariant.account.distinct other stmt handle alsoHolds holds⟩
      exact (invariant.mem_iff found).1 (onList found isHandle)
  · intro freed
    refine (List.perm_ext_iff_of_nodup invariant.account.once List.nodup_range).2 fun handle => ?_
    rw [List.mem_range]
    refine ⟨invariant.account.old handle, fun made => ?_⟩
    refine (tended handle made).resolve_right ?_
    rintro ⟨stmt, holds⟩
    obtain ⟨node, found, isHandle⟩ := Option.bind_eq_some_iff.1 holds
    have member := onList found isHandle
    rw [invariant.freed freed] at member
    cases member

/-- Two statements, of which one is finalized, then the database is collected. -/
theorem handles_finalized_once_twoStatements :
    ∃ state, Machine.run step .initial
        [.prepare 0 true .detached, .prepare 0 true .detached, .finalize 1, .collectDatabase] =
          some state ∧
      state.finalized = [1, 0] ∧ state.finalized.Perm (List.range state.prepared) :=
  ⟨_, rfl, rfl, (handles_finalized_once [.prepare 0 true .detached, .prepare 0 true .detached,
    .finalize 1, .collectDatabase] _ rfl).2 rfl⟩

end StatementHeap
end ParaQL
