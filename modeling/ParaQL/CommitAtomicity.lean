/-
When the committed pages of a file change, and what a call leaves alone.

The pages of a file change when its batch is flushed, by `_xSync` or `_xDelete` of that
file, and then the whole batch is applied.  Calls into the stores and into zlib may fail
at any point.
-/

import ParaQL.VfsLockstep
import ParaQL.VfsRefinement

namespace ParaQL

open Async Async.Task Bytes

def VfsCall.flushes : VfsCall → Bool
  | .xDelete _ => true
  | .xSync _ => true
  | _ => false

def Pages.applyAll (pages : Pages) (ops : List BatchOp) : Pages :=
  ops.foldl (fun current op => current.apply op.key.index op.value) pages

private theorem Store.commit_on {store : Store} {name : FileName} {ops : List BatchOp}
    (own : ∀ op ∈ ops, op.key.name = name) : store.commit ops name = (store name).applyAll ops := by
  induction ops generalizing store with
  | nil => rfl
  | cons op ops ih =>
      have here : (store.apply op) name = (store name).apply op.key.index op.value := by
        unfold Store.apply
        rw [own op List.mem_cons_self, Function.update_self]
      have rest : (store.apply op).commit ops name = ((store.apply op) name).applyAll ops :=
        ih fun other member => own other (List.mem_cons_of_mem _ member)
      rw [here] at rest
      exact rest

private theorem Store.commit_elsewhere {store : Store} {name : FileName} {ops : List BatchOp}
    (other : ∀ op ∈ ops, op.key.name ≠ name) : store.commit ops name = store name := by
  induction ops generalizing store with
  | nil => rfl
  | cons op ops ih =>
      refine (ih fun later member => other later (List.mem_cons_of_mem _ member)).trans ?_
      exact Function.update_of_ne (Ne.symm (other op List.mem_cons_self)) _ _

namespace ParaVFS

variable (vfs : ParaVFS)

def committed (state : VfsState) (name : FileName) : Pages :=
  state.stores (vfs.storeOf name state) name

def pendingOps (state : VfsState) (name : FileName) : List BatchOp :=
  ((state.files.lookup name).map Batch.ops).getD []

def addedOps (state : VfsState) : VfsCall → List BatchOp
  | .xDelete name =>
      (List.range ((vfs.committed state name).last + 1).toNat).map fun index =>
        .delete ⟨name, index⟩
  | _ => []

/-- The call answers in `after` as in `before`, unless other calls into the stores and zlib
fail there. -/
def AnswersAlike (call : VfsCall) (before after : VfsState) : Prop :=
  ∀ storeCalls zlibCalls, vfs.runtime.Reliable ∨
      (storeCalls = before.storeCalls ∧ zlibCalls = before.zlibCalls) →
    ((vfs.perform call).run { after with storeCalls := storeCalls, zlibCalls := zlibCalls }).1 =
      ((vfs.perform call).run before).1

/-- The committed pages of a file change at a flush of that file only, by all that is
pending; until then its own calls only append.  Nothing of another file changes. -/
structure CommitsAtomically (call : VfsCall) (before : VfsState) (reply : VfsReply)
    (after : VfsState) : Prop where
  kept : call.flushes = false → vfs.committed after call.file = vfs.committed before call.file
  appended : call.flushes = false → pendingOps before call.file <+: pendingOps after call.file
  flushed : call.flushes = true → vfs.committed after call.file =
    if reply.args = [.null] then
      (vfs.committed before call.file).applyAll
        (pendingOps before call.file ++ vfs.addedOps before call)
    else vfs.committed before call.file
  emptied : call.flushes = true → reply.args = [.null] → pendingOps after call.file = []
  committed : ∀ other, other ≠ call.file → vfs.committed after other = vfs.committed before other
  pending : ∀ other, other ≠ call.file → pendingOps after other = pendingOps before other
  answers : ∀ query, query.looks = true → query.file ≠ call.file →
    vfs.AnswersAlike query before after

structure OwnBatch (target : StoreRef) (name : FileName) (batch : Batch) : Prop where
  source : batch.source = target
  keys : ∀ op ∈ batch.ops, op.key.name = name

def OwnBatches (state : VfsState) : Prop :=
  ∀ name batch, state.files.lookup name = some batch →
    OwnBatch (vfs.storeOf name state) name batch

structure Framed (name : FileName) (before state : VfsState) : Prop where
  view : state.view = before.view
  committed : ∀ other, other ≠ name → vfs.committed state other = vfs.committed before other
  files : ∀ other, other ≠ name → state.files.lookup other = before.files.lookup other
  own : ∀ batch, state.files.lookup name = some batch →
    OwnBatch (vfs.storeOf name before) name batch

variable {vfs}

theorem committed_congr {first second : VfsState} (sameView : first.view = second.view)
    (sameStores : first.stores = second.stores) (name : FileName) :
    vfs.committed first name = vfs.committed second name := by
  unfold committed
  rw [storeOf_congr sameView, sameStores]

namespace Framed

variable {name : FileName} {before state : VfsState}

theorem refl (own : vfs.OwnBatches before) : vfs.Framed name before before :=
  ⟨rfl, fun _ _ => rfl, fun _ _ => rfl, own name⟩

theorem record (framed : vfs.Framed name before state) (access : Access) :
    vfs.Framed name before (state.record access) :=
  ⟨framed.view, framed.committed, framed.files, framed.own⟩

theorem insert (framed : vfs.Framed name before state) {batch : Batch} {after : VfsState}
    (sameView : after.view = state.view) (sameStores : after.stores = state.stores)
    (files : after.files = state.files.insert name batch)
    (own : OwnBatch (vfs.storeOf name before) name batch) : vfs.Framed name before after := by
  refine ⟨sameView.trans framed.view, fun other different => ?_, fun other different => ?_, ?_⟩
  · rw [committed_congr sameView sameStores]
    exact framed.committed other different
  · rw [files, Finmap.lookup_insert_of_ne _ different]
    exact framed.files other different
  · intro found lookedUp
    rw [files, Finmap.lookup_insert] at lookedUp
    cases lookedUp
    exact own

theorem addTo (framed : vfs.Framed name before state) (batch : Batch) {op : BatchOp}
    (onFile : op.key.name = name) : vfs.Framed name before (state.addTo name batch op) := by
  unfold VfsState.addTo
  split
  · exact framed
  · rename_i registered found
    split
    · have own := framed.own registered found
      refine framed.insert rfl rfl rfl ⟨own.source, fun item member => ?_⟩
      rcases List.mem_append.1 member with earlier | last
      · exact own.keys item earlier
      · rw [List.mem_singleton.1 last]
        exact onFile
    · exact framed

theorem unregister (framed : vfs.Framed name before state) :
    vfs.Framed name before (state.unregister name) := by
  refine ⟨framed.view, framed.committed, fun other different => ?_, fun batch found => ?_⟩
  · exact (Finmap.lookup_erase_ne different).trans (framed.files other different)
  · exact absurd ((Finmap.lookup_erase _ _).symm.trans found) (by simp)

theorem commit (framed : vfs.Framed name before state) {batch : Batch} {target : StoreRef}
    (own : OwnBatch target name batch) : vfs.Framed name before (state.commit batch) := by
  refine ⟨framed.view, fun other different => ?_, framed.files, framed.own⟩
  refine Eq.trans ?_ (framed.committed other different)
  change Function.update state.stores batch.source _ (vfs.storeOf other state) other =
    state.stores (vfs.storeOf other state) other
  by_cases source : vfs.storeOf other state = batch.source
  · rw [source, Function.update_self]
    exact Store.commit_elsewhere fun op member => own.keys op member ▸ different.symm
  · rw [Function.update_of_ne source]

end Framed

private theorem framed_discipline (name : FileName) (before : VfsState) :
    Discipline vfs name alone (vfs.Framed name before)
      (OwnBatch (vfs.storeOf name before) name) (fun _ => vfs.Framed name before) where
  stable := stable_alone _
  look _ framed := framed.record _
  lookFails _ framed := framed.record _
  zlib framed := framed.record _
  zlibFails framed := framed.record _
  registered framed found := framed.own _ found
  make {state} batch source empty framed _ := by
    have own : OwnBatch (vfs.storeOf name before) name batch := by
      refine ⟨source.trans (storeOf_congr framed.view name), fun op member => ?_⟩
      rw [empty] at member
      cases member
    exact ⟨own, (framed.record (.batch name batch.source state.view)).insert rfl rfl rfl own⟩
  add onFile framed _ := (framed.record _).addTo _ onFile
  unregister framed := framed.unregister
  commit framed own := (framed.record _).commit own
  fails framed _ := framed.record _
  throws framed := framed

/-! ### Writes only append -/

structure OnlyAppends (name : FileName) (state after : VfsState) : Prop where
  stores : after.stores = state.stores
  pending : pendingOps state name <+: pendingOps after name

namespace OnlyAppends

variable {name : FileName} {state middle after : VfsState}

theorem of_same (stores : after.stores = state.stores) (files : after.files = state.files) :
    OnlyAppends name state after := by
  refine ⟨stores, ?_⟩
  unfold pendingOps
  rw [files]

theorem refl (name : FileName) (state : VfsState) : OnlyAppends name state state :=
  of_same rfl rfl

theorem trans (first : OnlyAppends name state middle) (second : OnlyAppends name middle after) :
    OnlyAppends name state after :=
  ⟨second.stores.trans first.stores, first.pending.trans second.pending⟩

theorem record (name : FileName) (state : VfsState) (access : Access) :
    OnlyAppends name state (state.record access) := of_same rfl rfl

private theorem of_looks (move : VfsMove vfs name true state after) :
    OnlyAppends name state after := by
  refine of_same ?_ move.files
  cases move with
  | fail op target mutates => cases mutates
  | make mutates => cases mutates
  | add op batch item mutates => cases mutates
  | unregister mutates => cases mutates
  | commit batch mutates => cases mutates
  | _ => rfl

theorem addTo (state : VfsState) (name : FileName) (batch : Batch) (op : BatchOp) :
    OnlyAppends name state (state.addTo name batch op) := by
  unfold VfsState.addTo
  split
  · exact refl name state
  · rename_i registered found
    split
    · refine ⟨rfl, ?_⟩
      unfold pendingOps
      rw [found, Finmap.lookup_insert]
      exact List.prefix_append _ _
    · exact refl name state

private theorem of_unregistered (found : state.files.lookup name = none)
    (stores : after.stores = state.stores) : OnlyAppends name state after := by
  refine ⟨stores, ?_⟩
  unfold pendingOps
  rw [found]
  exact List.nil_prefix

end OnlyAppends

private theorem onlyAppends_run {α : Type} {name : FileName} {task : VfsTask α}
    (steps : Guarantees (OnlyAppends name) task) (state : VfsState) :
    OnlyAppends name state (task.run state).2 := by
  have keeps := steps.keeps (stable_alone (OnlyAppends name state))
    fun _ _ step earlier => earlier.trans step
  exact keeps.run_always (.refl name state)

private theorem openBatch_appends (name : FileName) :
    Guarantees (OnlyAppends name) (vfs.openBatch name) := by
  apply guarantees_atomic
  intro state
  cases found : state.files.lookup name with
  | some batch =>
      simp only
      exact .refl name state
  | none =>
      simp only
      exact .of_unregistered found rfl

private theorem addTo_appends (op : StoreOp) (name : FileName) (batch : Batch) (item : BatchOp) :
    Guarantees (OnlyAppends name) (vfs.storeCall op name (fun _ => batch.source)
      (fun state => ((), state.addTo name batch item))) :=
  guarantees_storeCall (fun state => .record name state _)
    fun state => (OnlyAppends.record name state _).trans (.addTo _ name batch item)

private theorem tryDelete_appends (vfs : ParaVFS) (name : FileName) (index : Nat) :
    Guarantees (OnlyAppends name) (vfs.tryDelete name index) :=
  (openBatch_appends name).bind fun batch => addTo_appends .delete name batch _

private theorem tryPut_appends (name : FileName) (index : Nat) (value : PageBuffer) :
    Guarantees (fun state after => OnlyAppends name state.1 after.1)
      (vfs.tryPut name index value) := by
  refine (openBatch_appends name).onShared.bind fun batch => ?_
  refine Guarantees.bind ?_ fun packed => Guarantees.bind ?_ fun encrypted =>
    (guarantees_atomic fun state => .refl name state.1).bind fun page =>
      (addTo_appends .put name batch _).onShared
  · unfold packPage
    split
    · exact (guarantees_atomic fun state => .refl name state.1).bind fun _ =>
        (guarantees_zlib fun state _ => .record name state _).onShared.bind fun _ =>
          guarantees_pure _
    · exact guarantees_pure _
  · unfold encryptPage
    split
    · split
      · apply guarantees_atomic
        intro state
        cases packed <;> exact .refl name state.1
      · exact guarantees_pure _
    · exact guarantees_pure _

private theorem writePage_appends (name : FileName) (length offset index : Nat) :
    Guarantees (fun state after => OnlyAppends name state.1 after.1)
      (vfs.writePage name length offset index) := by
  unfold writePage
  simp only
  split
  · exact tryPut_appends name index _
  · exact ((get_moves name index true).mono fun _ _ => OnlyAppends.of_looks).onShared.bind
      fun _ => (guarantees_atomic fun state => .refl name state.1).bind fun _ =>
        tryPut_appends name index _

private theorem perform_appends (vfs : ParaVFS) {call : VfsCall} (keeps : call.flushes = false) :
    Guarantees (OnlyAppends call.file) (vfs.perform call) := by
  have looks (isLook : call.looks = true) : Guarantees (OnlyAppends call.file) (vfs.perform call) :=
    (vfs.perform_moves call).mono fun _ _ move => OnlyAppends.of_looks (isLook ▸ move)
  cases call with
  | xDelete name => cases keeps
  | xSync name => cases keeps
  | xAccess name => exact looks rfl
  | xRead name buffer offset => exact looks rfl
  | xSize name => exact looks rfl
  | xWrite name data offset =>
      exact withBuffer_moves (callback_moves
        ((guarantees_atomic fun state => .refl name state.1).bind fun length =>
          (guarantees_forEach fun page _ => writePage_appends name length offset page).bind
            fun _ => guarantees_pure _)) data
  | xTruncate name size =>
      refine withBuffer_moves (callback_moves (Guarantees.bind ?_ fun index => ?_)) []
      · exact ((last_moves name true).mono fun _ _ => OnlyAppends.of_looks).onShared
      refine Guarantees.bind ?_ fun _ => guarantees_pure _
      split
      · exact guarantees_forEach fun page _ => tryPut_appends name page _
      · split
        · exact guarantees_throw _
        · exact guarantees_pure _

/-! ### Flushes -/

/-- How a flush, or what comes before one, has ended: with a value, or with an `Error`. -/
def Succeeds (result : Except JsValue Unit) (done undone : Prop) : Prop :=
  match result with
  | .ok _ => done
  | .error thrown => thrown ≠ .null ∧ undone

private theorem run_flush_commits {name : FileName} {before state : VfsState}
    (framed : vfs.Framed name before state) :
    Succeeds ((vfs.flush name).run state).1
      (vfs.committed ((vfs.flush name).run state).2 name =
        (vfs.committed state name).applyAll (pendingOps state name))
      (vfs.committed ((vfs.flush name).run state).2 name = vfs.committed state name) := by
  unfold flush
  rw [run_bind, run_atomic]
  cases found : state.files.lookup name with
  | none => exact ⟨JsValue.noConfusion, rfl⟩
  | some batch =>
      rw [andThen_ok]
      unfold storeCall attempt
      rw [run_atomic]
      simp only
      have own := framed.own batch found
      have source : vfs.storeOf name state = batch.source :=
        (storeOf_congr framed.view name).trans own.source.symm
      split
      · exact ⟨JsValue.noConfusion, rfl⟩
      · change Function.update state.stores batch.source _ (vfs.storeOf name state) name =
          (state.stores (vfs.storeOf name state) name).applyAll _
        rw [source, Function.update_self, Store.commit_on own.keys, pendingOps, found]
        rfl

private theorem pendingOps_flush (vfs : ParaVFS) (name : FileName) (state : VfsState) :
    pendingOps ((vfs.flush name).run state).2 name = [] := by
  unfold flush
  rw [run_bind, run_atomic]
  cases found : state.files.lookup name with
  | none =>
      change ((state.files.lookup name).map Batch.ops).getD [] = []
      rw [found]
      rfl
  | some batch =>
      rw [andThen_ok]
      unfold storeCall attempt
      rw [run_atomic]
      simp only
      have erased : (state.unregister name).files.lookup name = none := Finmap.lookup_erase _ _
      split <;>
      · change (((state.unregister name).files.lookup name).map Batch.ops).getD [] = []
        rw [erased]
        rfl

private theorem pendingOps_tryDelete (vfs : ParaVFS) (name : FileName) (index : Nat)
    (state : VfsState) :
    Succeeds ((vfs.tryDelete name index).run state).1
      (pendingOps ((vfs.tryDelete name index).run state).2 name =
        pendingOps state name ++ [.delete ⟨name, index⟩]) True := by
  have grown (current : VfsState) {batch : Batch}
      (found : current.files.lookup name = some batch) (op : BatchOp) :
      pendingOps (current.addTo name batch op) name = batch.ops ++ [op] := by
    unfold VfsState.addTo pendingOps
    simp only [found, if_true, Finmap.lookup_insert]
    rfl
  unfold tryDelete openBatch
  rw [run_bind, run_atomic]
  cases found : state.files.lookup name with
  | some batch =>
      rw [andThen_ok]
      unfold storeCall attempt
      rw [run_atomic]
      simp only
      split
      · exact ⟨JsValue.noConfusion, trivial⟩
      · refine (grown (state.record _) found _).trans ?_
        rw [pendingOps, found]
        rfl
  | none =>
      rw [andThen_ok]
      unfold storeCall attempt
      rw [run_atomic]
      simp only
      split
      · exact ⟨JsValue.noConfusion, trivial⟩
      · refine (grown _ (Finmap.lookup_insert _) _).trans ?_
        rw [pendingOps, found]
        rfl

private theorem run_deletes {name : FileName} {before : VfsState} (indices : List Nat)
    {state : VfsState}
    (framed : vfs.Framed name before state) :
    vfs.Framed name before ((forEach indices (vfs.tryDelete name)).run state).2 ∧
      OnlyAppends name state ((forEach indices (vfs.tryDelete name)).run state).2 ∧
      Succeeds ((forEach indices (vfs.tryDelete name)).run state).1
        (pendingOps ((forEach indices (vfs.tryDelete name)).run state).2 name =
          pendingOps state name ++ indices.map fun index => .delete ⟨name, index⟩) True := by
  induction indices generalizing state with
  | nil => exact ⟨framed, .refl name state, (List.append_nil _).symm⟩
  | cons index indices ih =>
      have kept := ((framed_discipline name before).tryDelete index).run_always framed
      have appends := onlyAppends_run (vfs.tryDelete_appends name index) state
      have grown := vfs.pendingOps_tryDelete name index state
      simp only [forEach, run_bind]
      generalize (vfs.tryDelete name index).run state = first at kept appends grown ⊢
      obtain ⟨result, middle⟩ := first
      cases result with
      | error thrown => exact ⟨kept, appends, grown⟩
      | ok value =>
          obtain ⟨framedRest, appendsRest, rest⟩ := ih kept
          rw [andThen_ok]
          refine ⟨framedRest, appends.trans appendsRest, ?_⟩
          generalize (forEach indices (vfs.tryDelete name)).run middle = last at rest ⊢
          obtain ⟨result, after⟩ := last
          cases result with
          | error thrown => exact rest
          | ok value =>
              refine Eq.trans rest ?_
              rw [show pendingOps middle name = _ from grown, List.append_assoc,
                List.singleton_append, List.map_cons]

/-- The arguments of a callback, and what they say of a task that ends so. -/
theorem Succeeds.callback {result : Except JsValue Unit} {done undone : Prop}
    (succeeds : Succeeds result done undone) (state : VfsState) :
    ∃ args, orElse (andThen (andThen (result, state) fun _ => pure [])
        fun values => pure (JsValue.null :: values)) (fun thrown => pure [thrown]) =
      ((.ok args, state) : Except JsValue CallbackArgs × VfsState) ∧
      if args = [.null] then done else undone := by
  cases result with
  | ok value => exact ⟨[.null], rfl, succeeds⟩
  | error thrown =>
      refine ⟨[thrown], rfl, ?_⟩
      rw [if_neg fun same => succeeds.1 (List.singleton_inj.1 same)]
      exact succeeds.2

private theorem run_xSync_commits (name : FileName) {state : VfsState}
    (own : vfs.OwnBatches state) :
    ∃ args after, (vfs.xSync name).run state = (.ok args, after) ∧
      (vfs.committed after name = if args = [.null] then
        (vfs.committed state name).applyAll (pendingOps state name)
      else vfs.committed state name) ∧ pendingOps after name = [] := by
  have flushed := run_flush_commits (Framed.refl own : vfs.Framed name state state)
  have emptied := vfs.pendingOps_flush name state
  unfold xSync ParaVFS.callback
  simp only [run_tryCatch, run_bind]
  generalize (vfs.flush name).run state = ended at flushed emptied ⊢
  obtain ⟨result, after⟩ := ended
  obtain ⟨args, ran, ends⟩ := flushed.callback after
  refine ⟨args, after, ran, ?_, emptied⟩
  split at ends
  · rename_i succeeded
    rw [if_pos succeeded, ends]
  · rename_i failed
    rw [if_neg failed, ends]

theorem run_last_cases (vfs : ParaVFS) (name : FileName) (state : VfsState) :
    ∃ access, ((∃ error, (vfs.last name).run state = (.error (.error error), state.record access)) ∨
      (vfs.last name).run state = (.ok (vfs.committed state name).last, state.record access)) := by
  rw [last_eq]
  unfold storeCall attempt
  rw [run_atomic]
  refine ⟨.store .peek name (vfs.storeOf name state) state.view
    (vfs.runtime.fault state.storeCalls), ?_⟩
  simp only
  split
  · exact Or.inl ⟨_, rfl⟩
  · exact Or.inr rfl

private theorem run_xDelete_commits (name : FileName) {state : VfsState}
    (own : vfs.OwnBatches state) :
    ∃ args after, (vfs.xDelete name).run state = (.ok args, after) ∧
      (vfs.committed after name = if args = [.null] then
        (vfs.committed state name).applyAll
          (pendingOps state name ++ vfs.addedOps state (.xDelete name))
      else vfs.committed state name) ∧ (args = [.null] → pendingOps after name = []) := by
  have allPages (index : Int) : (if index ≥ 0 then
      Task.forEach (List.range (index + 1).toNat) (vfs.tryDelete name) else pure ()) =
      Task.forEach (List.range (index + 1).toNat) (vfs.tryDelete name) := by
    by_cases stored : index ≥ 0
    · rw [if_pos stored]
    · rw [if_neg stored, show (index + 1).toNat = 0 by omega]
      rfl
  unfold xDelete ParaVFS.callback
  simp only [run_tryCatch, run_bind, allPages]
  obtain ⟨access, ⟨error, ran⟩ | ran⟩ := vfs.run_last_cases name state
  · rw [ran]
    refine ⟨_, _, rfl, ?_, fun same => JsValue.noConfusion (List.singleton_inj.1 same)⟩
    rw [if_neg (by simp)]
    rfl
  rw [ran, andThen_ok, run_bind]
  have looked : vfs.Framed name state (state.record access) := (Framed.refl own).record access
  obtain ⟨kept, appends, deleted⟩ := run_deletes
    (List.range ((vfs.committed state name).last + 1).toNat) looked
  generalize (Task.forEach (List.range ((vfs.committed state name).last + 1).toNat)
    (vfs.tryDelete name)).run (state.record access) = ended at kept appends deleted ⊢
  obtain ⟨result, middle⟩ := ended
  have unchanged : vfs.committed middle name = vfs.committed state name :=
    committed_congr kept.view appends.stores name
  cases result with
  | error thrown =>
      have fails (same : [thrown] = [JsValue.null]) : False :=
        deleted.1 (List.singleton_inj.1 same)
      refine ⟨_, _, rfl, ?_, fun same => (fails same).elim⟩
      rw [if_neg fails]
      exact unchanged
  | ok value =>
      have flushed := run_flush_commits kept
      have emptied := vfs.pendingOps_flush name middle
      simp only [andThen_ok, run_bind]
      generalize (vfs.flush name).run middle = last at flushed emptied ⊢
      obtain ⟨result, after⟩ := last
      obtain ⟨args, ran, ends⟩ := flushed.callback after
      refine ⟨args, after, ran, ?_, fun _ => emptied⟩
      split at ends
      · rename_i succeeded
        rw [if_pos succeeded, ends, unchanged, show pendingOps middle name = _ from deleted]
        rfl
      · rename_i failed
        rw [if_neg failed, ends, unchanged]

theorem perform_framed {state : VfsState} (own : vfs.OwnBatches state) (call : VfsCall) :
    ∃ reply after, (vfs.perform call).run state = (.ok reply, after) ∧
      vfs.Framed call.file state after := by
  have ends := ((framed_discipline call.file state).perform call rfl).run (Framed.refl own)
  generalize (vfs.perform call).run state = outcome at ends ⊢
  obtain ⟨result, after⟩ := outcome
  cases result with
  | error thrown => exact ends.elim
  | ok reply =>
      refine ⟨reply, after, rfl, ?_⟩
      rcases ends with ⟨framed, _⟩ | ⟨_, framed, _⟩
      · exact framed
      · exact framed

theorem Framed.ownBatches {name : FileName} {before after : VfsState}
    (framed : vfs.Framed name before after) (own : vfs.OwnBatches before) :
    vfs.OwnBatches after := by
  intro other batch found
  rw [storeOf_congr framed.view]
  by_cases same : other = name
  · subst same
    exact framed.own batch found
  · exact own other batch ((framed.files other same).symm.trans found)

theorem perform_commits {state : VfsState} (own : vfs.OwnBatches state) {call : VfsCall}
    (flushes : call.flushes = true) {reply : VfsReply} {after : VfsState}
    (ran : (vfs.perform call).run state = (.ok reply, after)) :
    (vfs.committed after call.file = if reply.args = [.null] then
      (vfs.committed state call.file).applyAll
        (pendingOps state call.file ++ vfs.addedOps state call)
    else vfs.committed state call.file) ∧
      (reply.args = [.null] → pendingOps after call.file = []) := by
  cases call with
  | xDelete name =>
      obtain ⟨args, final, ranDelete, commits⟩ := run_xDelete_commits name own
      simp only [perform, withoutBuffer, run_bind, ranDelete, andThen_ok, run_pure] at ran
      cases ran
      exact commits
  | xSync name =>
      obtain ⟨args, final, ranSync, commits, emptied⟩ := run_xSync_commits name own
      simp only [perform, withoutBuffer, run_bind, ranSync, andThen_ok, run_pure] at ran
      cases ran
      rw [show vfs.addedOps state (.xSync name) = [] from rfl, List.append_nil]
      exact ⟨commits, fun _ => emptied⟩
  | xAccess name => cases flushes
  | xRead name buffer offset => cases flushes
  | xWrite name data offset => cases flushes
  | xTruncate name size => cases flushes
  | xSize name => cases flushes

/-- Two states that a look at the file `name` cannot tell apart: it sees the same pages, and
the same calls out of the VFS fail. -/
structure Indistinct (vfs : ParaVFS) (name : FileName) (first second : VfsState) : Prop where
  view : first.view = second.view
  pages : vfs.committed first name = vfs.committed second name
  faults : vfs.runtime.Reliable ∨
    (first.storeCalls = second.storeCalls ∧ first.zlibCalls = second.zlibCalls)

theorem Indistinct.record {name : FileName} {first second : VfsState}
    (indistinct : vfs.Indistinct name first second) (access : Access) :
    vfs.Indistinct name (first.record access) (second.record access) := by
  refine ⟨indistinct.view, indistinct.pages, indistinct.faults.imp id fun same => ?_⟩
  exact ⟨congrArg (fun calls => calls + access.storeCalls) same.1,
    congrArg (fun calls => calls + access.zlibCalls) same.2⟩

private theorem lookalike_indistinct (vfs : ParaVFS) (name : FileName) :
    Lookalike vfs name (vfs.Indistinct name) where
  see op view := by
    intro first second indistinct
    unfold storeCall attempt
    simp only [run_atomic]
    rw [storeOf_congr indistinct.view name, indistinct.view]
    have recorded (failed : Bool) := indistinct.record
      (.store op name (vfs.storeOf name second) second.view failed)
    rcases indistinct.faults with reliable | ⟨sameStore, _⟩
    · simp only [reliable.store, Bool.false_eq_true, if_false]
      exact ⟨congrArg view (recorded false).pages, recorded false⟩
    · rw [sameStore]
      split
      · exact ⟨rfl, recorded _⟩
      · exact ⟨congrArg view (recorded _).pages, recorded _⟩
  inflate page := by
    intro first second indistinct
    unfold inflate attempt
    simp only [run_atomic]
    have sameFault : vfs.runtime.zlibFault first.zlibCalls =
        vfs.runtime.zlibFault second.zlibCalls := by
      rcases indistinct.faults with reliable | ⟨_, sameZlib⟩
      · rw [reliable.zlib, reliable.zlib]
      · rw [sameZlib]
    rw [sameFault]
    split
    · exact ⟨rfl, indistinct.record _⟩
    · exact ⟨rfl, indistinct.record _⟩

theorem ownBatches_performAll (calls : List VfsCall) {state : VfsState}
    (own : vfs.OwnBatches state) :
    ∃ outcomes after, (vfs.performAll calls).run state = (.ok outcomes, after) ∧
      vfs.OwnBatches after := by
  induction calls generalizing state with
  | nil => exact ⟨[], state, rfl, own⟩
  | cons call calls ih =>
      obtain ⟨reply, middle, ran, framed⟩ := perform_framed own call
      obtain ⟨outcomes, after, ranRest, kept⟩ := ih (framed.ownBatches own)
      refine ⟨reply.outcome call :: outcomes, after, ?_, kept⟩
      simp only [performAll, run_bind, ran, andThen_ok, ranRest, run_pure]

private theorem answersAlike {call : VfsCall} {before after : VfsState}
    (framed : vfs.Framed call.file before after) {query : VfsCall} (looks : query.looks = true)
    (elsewhere : query.file ≠ call.file) : vfs.AnswersAlike query before after := by
  intro storeCalls zlibCalls faults
  have blind := (lookalike_indistinct vfs query.file).perform rfl looks
  have indistinct : vfs.Indistinct query.file
      { after with storeCalls := storeCalls, zlibCalls := zlibCalls } before :=
    ⟨framed.view, framed.committed query.file elsewhere, faults⟩
  exact (blind.agrees indistinct).1

/-- In every run of calls under one view, whatever fails in it, each next call changes the
committed pages of its own file at most, and only by a flush of all that is pending. -/
theorem commits_atomically (vfs : ParaVFS) (stores : StoreRef → Store) (view : Option Nat)
    (calls : List VfsCall) (call : VfsCall) :
    ∃ outcomes before reply after,
      (vfs.performAll calls).run { VfsState.initial stores with view := view } =
        (.ok outcomes, before) ∧
      (vfs.perform call).run before = (.ok reply, after) ∧
      vfs.CommitsAtomically call before reply after := by
  have begins : vfs.OwnBatches { VfsState.initial stores with view := view } := by
    intro name batch found
    cases found
  obtain ⟨outcomes, before, ran, own⟩ := ownBatches_performAll calls begins
  obtain ⟨reply, after, ranCall, framed⟩ := perform_framed own call
  have appends (keeps : call.flushes = false) : OnlyAppends call.file before after := by
    have kept := onlyAppends_run (vfs.perform_appends keeps) before
    rwa [ranCall] at kept
  refine ⟨outcomes, before, reply, after, ran, ranCall, ?_⟩
  refine ⟨fun keeps => ?_, fun keeps => (appends keeps).pending, fun flushes => ?_,
    fun flushes => ?_, framed.committed, fun other different => ?_,
    fun query looks elsewhere => answersAlike framed looks elsewhere⟩
  · exact committed_congr framed.view (appends keeps).stores call.file
  · exact (perform_commits own flushes ranCall).1
  · exact (perform_commits own flushes ranCall).2
  · unfold pendingOps
    rw [framed.files other different]

end ParaVFS
end ParaQL
