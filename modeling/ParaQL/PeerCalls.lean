/-
A VFS call on two peers on which a view is applied.

The peers share some files: the pages in the stores that calls on these go to, and what is
pending for them.  A call on a shared file cannot tell the peers apart.
-/

import ParaQL.SameWork

namespace ParaQL

open Async Async.Task Bytes

/-- `_apply` has the view on both peers, and the files of the given names are the same. -/
structure ParaVFS.Shared (vfs : ParaVFS) (names : FileName → Prop) (id : Nat)
    (first second : VfsState) : Prop where
  view : first.view = some id
  counterpart : second.view = some id
  pages : ∀ name, names name →
    first.stores (vfs.storeOf name first) name = second.stores (vfs.storeOf name second) name
  sources : ∀ name batch, first.files.lookup name = some batch →
    batch.source = vfs.storeOf name first
  otherSources : ∀ name batch, second.files.lookup name = some batch →
    batch.source = vfs.storeOf name second
  pending : ∀ name,
    (first.files.lookup name).map Batch.ops = (second.files.lookup name).map Batch.ops

namespace ParaVFS.Shared

variable {vfs : ParaVFS} {names : FileName → Prop} {id : Nat} {name : FileName}
  {first second after other : VfsState}

theorem storeOf (shared : vfs.Shared names id first second) (name : FileName) :
    vfs.storeOf name first = vfs.storeOf name second := by
  simp only [ParaVFS.storeOf, VfsState.currentView, shared.view, shared.counterpart]

theorem symm (shared : vfs.Shared names id first second) : vfs.Shared names id second first :=
  ⟨shared.counterpart, shared.view, fun name known => (shared.pages name known).symm,
    shared.otherSources, shared.sources, fun name => (shared.pending name).symm⟩

theorem record (shared : vfs.Shared names id first second) (access counterpart : Access) :
    vfs.Shared names id (first.record access) (second.record counterpart) :=
  ⟨shared.view, shared.counterpart, shared.pages, shared.sources, shared.otherSources,
    shared.pending⟩

/-- Both peers have come to states that no call can tell from those before. -/
theorem alike (shared : vfs.Shared names id first second) (same : first.SameCore after)
    (otherSame : second.SameCore other) : vfs.Shared names id after other where
  view := same.view.symm.trans shared.view
  counterpart := otherSame.view.symm.trans shared.counterpart
  pages file known := by
    rw [← same.stores, ← otherSame.stores, ← same.storeOf vfs file, ← otherSame.storeOf vfs file]
    exact shared.pages file known
  sources file batch found := by
    rw [← same.storeOf vfs file]
    exact shared.sources file batch (same.files ▸ found)
  otherSources file batch found := by
    rw [← otherSame.storeOf vfs file]
    exact shared.otherSources file batch (otherSame.files ▸ found)
  pending file := by
    rw [← same.files, ← otherSame.files]
    exact shared.pending file

theorem insert (shared : vfs.Shared names id first second) {batch counterpart : Batch}
    (files : after.files = first.files.insert name batch)
    (otherFiles : other.files = second.files.insert name counterpart)
    (view : after.view = first.view) (otherView : other.view = second.view)
    (stores : after.stores = first.stores) (otherStores : other.stores = second.stores)
    (source : batch.source = vfs.storeOf name first)
    (otherSource : counterpart.source = vfs.storeOf name second)
    (sameOps : batch.ops = counterpart.ops) : vfs.Shared names id after other where
  view := view.trans shared.view
  counterpart := otherView.trans shared.counterpart
  pages file known := by
    simp only [ParaVFS.storeOf, VfsState.currentView, stores, otherStores, view, otherView]
    exact shared.pages file known
  sources file found lookedUp := by
    have kept := batches_insert shared.sources source file found (files ▸ lookedUp)
    rw [kept]
    simp only [ParaVFS.storeOf, VfsState.currentView, view]
  otherSources file found lookedUp := by
    have kept := batches_insert shared.otherSources otherSource file found (otherFiles ▸ lookedUp)
    rw [kept]
    simp only [ParaVFS.storeOf, VfsState.currentView, otherView]
  pending file := by
    rw [files, otherFiles]
    by_cases here : file = name
    · subst here
      rw [Finmap.lookup_insert, Finmap.lookup_insert]
      exact congrArg some sameOps
    · rw [Finmap.lookup_insert_of_ne _ here, Finmap.lookup_insert_of_ne _ here]
      exact shared.pending file

theorem unregister (shared : vfs.Shared names id first second) (name : FileName) :
    vfs.Shared names id (first.unregister name) (second.unregister name) where
  view := shared.view
  counterpart := shared.counterpart
  pages := shared.pages
  sources := batches_erase shared.sources name
  otherSources := batches_erase shared.otherSources name
  pending file := by
    by_cases here : file = name
    · subst here
      simp only [VfsState.unregister, Finmap.lookup_erase, Option.map_none]
    · simp only [VfsState.unregister, Finmap.lookup_erase_ne here]
      exact shared.pending file

/-- The batches of one file go to the same store. -/
theorem commit (shared : vfs.Shared names id first second) {batch counterpart : Batch}
    (source : batch.source = vfs.storeOf name first)
    (otherSource : counterpart.source = vfs.storeOf name second)
    (sameOps : batch.ops = counterpart.ops) :
    vfs.Shared names id (first.commit batch) (second.commit counterpart) := by
  refine { shared with pages := fun file known => ?_ }
  have before := shared.pages file known
  have sameStore := shared.storeOf file
  change Function.update first.stores batch.source _ (vfs.storeOf file first) file =
    Function.update second.stores counterpart.source _ (vfs.storeOf file second) file
  rw [otherSource, source, sameOps, ← shared.storeOf name, ← sameStore]
  rw [← sameStore] at before
  by_cases here : vfs.storeOf file first = vfs.storeOf name first
  · rw [here, Function.update_self, Function.update_self]
    exact Store.commit_congr _ (here ▸ before)
  · rw [Function.update_of_ne here, Function.update_of_ne here]
    exact before

end ParaVFS.Shared

def SharedBatch (vfs : ParaVFS) (names : FileName → Prop) (id : Nat) (name : FileName)
    (batch counterpart : Batch) (first second : VfsState) : Prop :=
  vfs.Shared names id first second ∧
    (∃ found, first.files.lookup name = some found ∧ found.serial = batch.serial) ∧
    ∃ found, second.files.lookup name = some found ∧ found.serial = counterpart.serial

def TakenBatch (vfs : ParaVFS) (names : FileName → Prop) (id : Nat) (name : FileName)
    (batch counterpart : Batch) (first second : VfsState) : Prop :=
  vfs.Shared names id first second ∧ batch.source = vfs.storeOf name first ∧
    counterpart.source = vfs.storeOf name second ∧ batch.ops = counterpart.ops

namespace ParaVFS

variable {vfs : ParaVFS} {names : FileName → Prop} {id : Nat} {name : FileName}

private theorem related_openBatch :
    Related (vfs.Shared names id) (vfs.Shared names id) (vfs.openBatch name) (vfs.openBatch name)
      (SharedBatch vfs names id name) := by
  intro first second shared
  unfold openBatch
  simp only [run_atomic]
  have pending := shared.pending name
  cases found : first.files.lookup name with
  | some batch =>
      rw [found] at pending
      obtain ⟨other, otherFound, _⟩ := Option.map_eq_some_iff.1 pending.symm
      simp only [otherFound]
      exact ⟨shared, ⟨batch, found, rfl⟩, other, otherFound, rfl⟩
  | none =>
      rw [found] at pending
      simp only [Option.map_eq_none_iff.1 pending.symm]
      exact ⟨shared.insert rfl rfl rfl rfl rfl rfl rfl rfl rfl,
        ⟨_, Finmap.lookup_insert _, rfl⟩, _, Finmap.lookup_insert _, rfl⟩

private theorem shared_addTo {batch counterpart : Batch} {first second : VfsState}
    (holding : SharedBatch vfs names id name batch counterpart first second) (op : BatchOp) :
    vfs.Shared names id (first.addTo name batch op) (second.addTo name counterpart op) := by
  obtain ⟨shared, ⟨found, lookedUp, same⟩, other, otherLookedUp, otherSame⟩ := holding
  rw [addTo_eq op lookedUp same, addTo_eq op otherLookedUp otherSame]
  have pending := shared.pending name
  rw [lookedUp, otherLookedUp] at pending
  exact shared.insert rfl rfl rfl rfl rfl rfl (shared.sources name found lookedUp)
    (shared.otherSources name other otherLookedUp)
    (congrArg (fun ops => ops ++ [op]) (Option.some.inj pending))

/-- A shared file looks the same on both peers, and is shared ever after. -/
theorem shared_indiscernible (reliable : vfs.runtime.Reliable) (known : names name) :
    Indiscernible vfs name (vfs.Shared names id) (SharedBatch vfs names id name) where
  see op view := related_peerCall reliable fun first second access other shared => by
    have recorded := shared.record access other
    exact ⟨congrArg view (recorded.pages name known), recorded⟩
  inflate page := by
    intro first second shared
    unfold inflate attempt
    simp only [run_atomic, reliable.zlib, Bool.false_or]
    split
    · exact ⟨rfl, shared.record _ _⟩
    · exact ⟨rfl, shared.record _ _⟩
  openBatch := related_openBatch
  held holding := holding.1
  deflate batch counterpart page := by
    intro first second holding
    unfold deflate attempt
    simp only [run_atomic, reliable.zlib, Bool.false_eq_true, if_false]
    exact ⟨rfl, holding.1.record _ _, holding.2⟩
  addTo op batch counterpart item _ := related_peerCall reliable fun _ _ _ _ holding =>
    ⟨rfl, shared_addTo ⟨holding.1.record _ _, holding.2⟩ item⟩
  flush := by
    refine Related.bind (?_ : Related _ _ _ _ (TakenBatch vfs names id name))
      fun batch counterpart => ?_
    · intro first second shared
      simp only [run_atomic]
      have pending := shared.pending name
      cases found : first.files.lookup name with
      | none =>
          rw [found] at pending
          simp only [Option.map_eq_none_iff.1 pending.symm]
          exact ⟨rfl, shared⟩
      | some batch =>
          rw [found] at pending
          obtain ⟨other, otherFound, sameOps⟩ := Option.map_eq_some_iff.1 pending.symm
          simp only [otherFound]
          exact ⟨shared.unregister name, shared.sources name batch found,
            shared.otherSources name other otherFound, sameOps.symm⟩
    · exact related_peerCall reliable fun _ _ access other taken => by
        obtain ⟨shared, source, otherSource, sameOps⟩ := taken
        exact ⟨rfl, (shared.record access other).commit source otherSource sameOps⟩

end ParaVFS
end ParaQL
