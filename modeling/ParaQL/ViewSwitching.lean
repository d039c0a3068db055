/-
No batch crosses a switch of the view.

`_tryPut` and `_tryDelete` choose the view, make the batch and register it without an
await in between, and `_write` switches the view only while no batch is registered.  The
calls may be suspended anywhere else: what they hold in hand is then not registered, or
it was made from the view that still is the current one.
-/

import ParaQL.Async.Machine
import ParaQL.Async.Pool
import ParaQL.VfsSteps

namespace ParaQL

open Async Async.Task Bytes

/-- What the event loop does next: a new call, a step of one in flight, a `_write`. -/
inductive ViewEvent where
  | call (call : VfsCall)
  | advance (index : Nat)
  | write (view : Option Nat)
  deriving DecidableEq, Repr

abbrev CallPool := Pool VfsState JsValue VfsReply

namespace ParaVFS

def viewStep (vfs : ParaVFS) (pool : CallPool) : ViewEvent → Option CallPool
  | .call call => some (pool.start (vfs.perform call))
  | .advance index => pool.advance index
  | .write view => some { pool with shared := ((ParaVFS.write view).run pool.shared).2 }

def CallPool.opened (stores : StoreRef → Store) : CallPool :=
  { shared := .initial stores, inFlight := [] }

def OfCurrentView (vfs : ParaVFS) (state : VfsState) : Prop :=
  ∀ name batch, state.files.lookup name = some batch → batch.source = vfs.storeOf name state

def AnyVfsMove (vfs : ParaVFS) (state after : VfsState) : Prop :=
  ∃ name looks, VfsMove vfs name looks state after

structure Switching (vfs : ParaVFS) (pool : CallPool) : Prop where
  current : vfs.OfCurrentView pool.shared
  moves : pool.Guaranteed vfs.AnyVfsMove

variable {vfs : ParaVFS} {state after : VfsState}

private theorem ofCurrentView_congr (sameView : after.view = state.view)
    (sources : ∀ name batch, after.files.lookup name = some batch →
      batch.source = vfs.storeOf name state) : vfs.OfCurrentView after := by
  intro name batch registered
  rw [sources name batch registered]
  simp only [storeOf, VfsState.currentView, sameView]

theorem OfCurrentView.addTo (current : vfs.OfCurrentView state) (name : FileName) (batch : Batch)
    (op : BatchOp) : vfs.OfCurrentView (state.addTo name batch op) := by
  unfold VfsState.addTo
  cases found : state.files.lookup name with
  | none => exact current
  | some registered =>
      simp only
      split
      · exact ofCurrentView_congr rfl (batches_insert current (current name registered found))
      · exact current

/-- What a suspended call does when it goes on cannot register a batch of another view. -/
theorem OfCurrentView.move (current : vfs.OfCurrentView state) {name : FileName} {looks : Bool}
    (move : VfsMove vfs name looks state after) : vfs.OfCurrentView after := by
  cases move with
  | keep => exact current
  | zlib failed => exact current
  | look op failed reads => exact current
  | fail op target mutates => exact current
  | make mutates closed => exact ofCurrentView_congr rfl (batches_insert current rfl)
  | add op batch item mutates =>
      have recorded : vfs.OfCurrentView
          (state.record (.store op name batch.source state.view false)) := current
      exact recorded.addTo name batch item
  | unregister mutates => exact ofCurrentView_congr rfl (batches_erase current name)
  | commit batch mutates => exact current

private theorem write_throws {view : Option Nat} {rejection : JsValue}
    (threw : (ParaVFS.write view).run state = (.error rejection, after)) :
    after.view = state.view ∧ after.files = state.files := by
  unfold ParaVFS.write at threw
  rw [run_atomic] at threw
  split at threw
  · cases threw
    exact ⟨rfl, rfl⟩
  · cases threw

/-- Where `_write` does not throw, no batch is left to be of the wrong view. -/
theorem OfCurrentView.write (current : vfs.OfCurrentView state) (view : Option Nat) :
    vfs.OfCurrentView ((ParaVFS.write view).run state).2 := by
  unfold ParaVFS.write
  rw [run_atomic]
  split
  · exact current
  · rename_i closed
    intro name batch registered
    have present : name ∈ state.files.keys :=
      Finmap.mem_keys.2 (Finmap.mem_of_lookup_eq_some registered)
    rw [Finset.card_eq_zero.1 (not_not.1 closed)] at present
    exact absurd present (Finset.notMem_empty name)

private theorem switching_opened (vfs : ParaVFS) (stores : StoreRef → Store) :
    vfs.Switching (CallPool.opened stores) := by
  constructor
  · intro name batch registered
    cases registered
  · intro task member
    cases member

theorem Switching.step {pool next : CallPool} (switching : vfs.Switching pool)
    {event : ViewEvent} (stepped : vfs.viewStep pool event = some next) :
    vfs.Switching next := by
  cases event with
  | call call =>
      cases stepped
      have steps := (perform_moves vfs call).mono
        (fun state after move => (⟨_, _, move⟩ : vfs.AnyVfsMove state after))
      exact ⟨switching.current, switching.moves.start steps⟩
  | advance index =>
      obtain ⟨moves, name, looks, move⟩ := switching.moves.advance stepped
      exact ⟨switching.current.move move, moves⟩
  | write view =>
      cases stepped
      exact ⟨switching.current.write view, switching.moves⟩

/-- However calls and `_write`s interleave, a batch registered for the database file was
made from the view that is current, and a `_write` that throws changes nothing. -/
theorem no_batch_crosses_switch (vfs : ParaVFS) (stores : StoreRef → Store)
    (events : List ViewEvent) (pool : CallPool)
    (ran : Machine.run vfs.viewStep (CallPool.opened stores) events = some pool) :
    (∀ batch, pool.shared.files.lookup vfs.name = some batch →
      batch.source = .view pool.shared.currentView) ∧
    ∀ view rejection after, (ParaVFS.write view).run pool.shared = (.error rejection, after) →
      after.view = pool.shared.view ∧ after.files = pool.shared.files := by
  have switching := Machine.run_preserves (fun _ _ _ holds stepped => holds.step stepped)
    (switching_opened vfs stores) ran
  constructor
  · intro batch registered
    rw [switching.current vfs.name batch registered, storeOf, if_neg (not_not.2 rfl)]
  · intro view rejection after threw
    exact write_throws threw

def suspendedWrite : List ViewEvent :=
  [.write (some 3), .call (.xWrite "paraql.db" [7] 0), .advance 0, .advance 0, .advance 0,
    .advance 0, .write none]

theorem no_batch_crosses_switch_suspended :
    ∃ pool, Machine.run sample.viewStep (CallPool.opened fun _ _ => ∅) suspendedWrite =
        some pool ∧ (pool.shared.files.lookup "paraql.db").isSome = true ∧
      ∀ batch, pool.shared.files.lookup "paraql.db" = some batch →
        batch.source = .view pool.shared.currentView :=
  ⟨_, rfl, rfl, (no_batch_crosses_switch sample (fun _ _ => ∅) suspendedWrite _ rfl).1⟩

end ParaVFS
end ParaQL
