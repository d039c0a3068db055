/-
What a step of a VFS call can do, said once.

`VfsMove` lists the changes that single steps of a call on one file make; a call that
only looks makes the first three of them.  `Discipline` collects what an assertion has
to survive so that it holds through every call, also while other calls are in flight.
-/

import ParaQL.Async.Interference
import ParaQL.Vfs

namespace ParaQL

open Async Async.Task Bytes

structure Runtime.Reliable (runtime : Runtime) : Prop where
  store : ∀ call, runtime.fault call = false
  zlib : ∀ call, runtime.zlibFault call = false

theorem Runtime.copying_reliable : Runtime.copying.Reliable :=
  ⟨fun _ => rfl, fun _ => rfl⟩

section Batches

variable {files : Finmap (fun _ : FileName => Batch)} {holds : FileName → Batch → Prop}
  (known : ∀ name batch, files.lookup name = some batch → holds name batch)

include known

theorem batches_insert {name : FileName} {batch : Batch} (own : holds name batch)
    (other : FileName) (found : Batch) (lookedUp : (files.insert name batch).lookup other =
      some found) : holds other found := by
  by_cases same : other = name
  · subst same
    rw [Finmap.lookup_insert] at lookedUp
    cases lookedUp
    exact own
  · rw [Finmap.lookup_insert_of_ne _ same] at lookedUp
    exact known other found lookedUp

theorem batches_erase (name other : FileName) (found : Batch)
    (lookedUp : (files.erase name).lookup other = some found) : holds other found := by
  by_cases same : other = name
  · subst same
    rw [Finmap.lookup_erase] at lookedUp
    cases lookedUp
  · rw [Finmap.lookup_erase_ne same] at lookedUp
    exact known other found lookedUp

end Batches

def VfsCall.looks : VfsCall → Bool
  | .xAccess _ => true
  | .xRead _ _ _ => true
  | .xSize _ => true
  | _ => false

/-- One step of a call on the file `name`; `looks` says that the call changes nothing. -/
inductive VfsMove (vfs : ParaVFS) (name : FileName) (looks : Bool) :
    VfsState → VfsState → Prop where
  | keep (state : VfsState) : VfsMove vfs name looks state state
  | zlib (state : VfsState) (failed : Bool) :
      VfsMove vfs name looks state (state.record (.zlib failed))
  | look (state : VfsState) (op : StoreOp) (failed : Bool) (reads : op = .get ∨ op = .peek) :
      VfsMove vfs name looks state
        (state.record (.store op name (vfs.storeOf name state) state.view failed))
  | fail (state : VfsState) (op : StoreOp) (target : StoreRef) (mutates : looks = false) :
      VfsMove vfs name looks state (state.record (.store op name target state.view true))
  | make (state : VfsState) (mutates : looks = false) (closed : state.files.lookup name = none) :
      VfsMove vfs name looks state
        { state.record (.batch name (vfs.storeOf name state) state.view) with
          files := state.files.insert name
            { source := vfs.storeOf name state, serial := state.serial, ops := [] }
          serial := state.serial + 1 }
  | add (state : VfsState) (op : StoreOp) (batch : Batch) (item : BatchOp)
      (mutates : looks = false) :
      VfsMove vfs name looks state
        ((state.record (.store op name batch.source state.view false)).addTo name batch item)
  | unregister (state : VfsState) (mutates : looks = false) :
      VfsMove vfs name looks state (state.unregister name)
  | commit (state : VfsState) (batch : Batch) (mutates : looks = false) :
      VfsMove vfs name looks state
        ((state.record (.store .flush name batch.source state.view false)).commit batch)

theorem VfsMove.view {vfs : ParaVFS} {name : FileName} {looks : Bool} {state after : VfsState}
    (move : VfsMove vfs name looks state after) : after.view = state.view := by
  cases move with
  | add op batch item mutates => exact VfsState.view_addTo _ _ _ _
  | _ => rfl

theorem VfsMove.files {vfs : ParaVFS} {name : FileName} {state after : VfsState}
    (move : VfsMove vfs name true state after) : after.files = state.files := by
  cases move with
  | fail op target mutates => cases mutates
  | make mutates closed => cases mutates
  | add op batch item mutates => cases mutates
  | unregister mutates => cases mutates
  | commit batch mutates => cases mutates
  | _ => rfl

namespace ParaVFS

variable (vfs : ParaVFS)

def pageEncryption (name : FileName) : Option Encryption :=
  if name ≠ vfs.name then vfs.encryption else none

/-- What `_get` does to a stored value before it unpacks it. -/
def decipher (name : FileName) (index : Nat) (value : Option Buffer) : Option Buffer :=
  match vfs.pageEncryption name with
  | some encryption => value.map (fun page => encryption.decrypt vfs.runtime page name index)
  | none => value

variable {vfs}

theorem storeCall_map {α β : Type} (vfs : ParaVFS) (op : StoreOp) (name : FileName)
    (target : VfsState → StoreRef) (action : VfsState → α × VfsState) (convert : α → β) :
    (vfs.storeCall op name target action >>= fun value => pure (convert value)) =
      vfs.storeCall op name target
        (fun state => (convert (action state).1, (action state).2)) := by
  unfold storeCall attempt
  rw [Task.atomic_map]
  congr 1
  funext state
  by_cases fails : vfs.runtime.fault state.storeCalls = true
  · simp only [fails, if_true]
    rfl
  · simp only [if_neg fails]
    rfl

theorem fetch_eq (name : FileName) (index : Nat) :
    vfs.fetch name index = vfs.storeCall .get name (vfs.storeOf name)
      (fun state => (vfs.decipher name index
        ((state.stores (vfs.storeOf name state)).get ⟨name, index⟩), state)) := by
  unfold fetch decipher pageEncryption storeOf
  by_cases tmp : name ≠ vfs.name
  · simp only [if_pos tmp]
    cases vfs.encryption with
    | none => exact storeCall_map _ _ _ _ _ id
    | some encryption => exact storeCall_map _ _ _ _ _ _
  · simp only [if_neg tmp]

theorem last_eq (name : FileName) :
    vfs.last name = vfs.storeCall .peek name (vfs.storeOf name)
      (fun state => ((state.stores (vfs.storeOf name state) name).last, state)) := by
  have lastOf (pages : Pages) : pages.last =
      (pages.lastIndex.map fun index => (⟨name, index⟩ : PageKey)).elim (-1)
        fun key => (key.index : Int) := by
    unfold Pages.last
    cases pages.lastIndex <;> rfl
  have mapped := storeCall_map vfs .peek name (vfs.storeOf name)
    (fun state => ((state.stores (vfs.storeOf name state)).peek name, state))
    (fun entry => entry.elim (-1) fun key => (key.index : Int))
  simp only [lastOf]
  refine Eq.trans ?_ mapped
  unfold last
  congr 1
  funext entry
  cases entry <;> rfl

section Guarantees

variable {guarantee : VfsState → VfsState → Prop}

theorem guarantees_storeCall {α : Type} {op : StoreOp} {name : FileName}
    {target : VfsState → StoreRef} {action : VfsState → α × VfsState}
    (fails : ∀ state, guarantee state (state.record (.store op name (target state) state.view true)))
    (acts : ∀ state, guarantee state
      (action (state.record (.store op name (target state) state.view false))).2) :
    Guarantees guarantee (vfs.storeCall op name target action) := by
  apply guarantees_atomic
  intro state
  by_cases fault : vfs.runtime.fault state.storeCalls = true
  · simp only [fault, if_true]
    exact fails state
  · simp only [Bool.eq_false_of_not_eq_true fault]
    exact acts state

theorem guarantees_zlib {α : Type} {failed : VfsState → Bool} {rejection : VfsState → JsValue}
    {result : VfsState → α}
    (records : ∀ state failed, guarantee state (state.record (.zlib failed))) :
    Guarantees guarantee (attempt (fun _ failed => .zlib failed) failed rejection
      (fun state => (result state, state))) := by
  apply guarantees_atomic
  intro state
  by_cases fails : failed state = true
  · simp only [fails, if_true]
    exact records state true
  · simp only [Bool.eq_false_of_not_eq_true fails]
    exact records state false

end Guarantees

/-! ### Guarantees of the calls -/

theorem get_moves (name : FileName) (index : Nat) (looks : Bool) :
    Guarantees (VfsMove vfs name looks) (vfs.get name index) := by
  unfold get
  rw [fetch_eq]
  apply Guarantees.bind
  · exact guarantees_storeCall (fun state => .look state .get true (Or.inl rfl))
      (fun state => .look state .get false (Or.inl rfl))
  · intro value
    cases value with
    | none => exact guarantees_pure _
    | some page =>
        simp only [unpack]
        split
        · exact (guarantees_zlib VfsMove.zlib).bind fun _ => guarantees_pure _
        · exact guarantees_pure _

theorem last_moves (name : FileName) (looks : Bool) :
    Guarantees (VfsMove vfs name looks) (vfs.last name) := by
  rw [last_eq]
  exact guarantees_storeCall (fun state => .look state .peek true (Or.inr rfl))
    (fun state => .look state .peek false (Or.inr rfl))

private theorem openBatch_moves (name : FileName) :
    Guarantees (VfsMove vfs name false) (vfs.openBatch name) := by
  apply guarantees_atomic
  intro state
  split
  · exact .keep state
  · rename_i closed
    exact .make state rfl closed

private theorem tryDelete_moves (name : FileName) (index : Nat) :
    Guarantees (VfsMove vfs name false) (vfs.tryDelete name index) :=
  (openBatch_moves name).bind fun batch => guarantees_storeCall
    (fun state => .fail state .delete batch.source rfl)
    (fun state => .add state .delete batch _ rfl)

private theorem flush_moves (name : FileName) :
    Guarantees (VfsMove vfs name false) (vfs.flush name) := by
  apply Guarantees.bind
  · apply guarantees_atomic
    intro state
    split
    · exact .keep state
    · exact .unregister state rfl
  · exact fun batch => guarantees_storeCall (fun state => .fail state .flush batch.source rfl)
      (fun state => .commit state batch rfl)

def CallMove (vfs : ParaVFS) (name : FileName) (looks : Bool) (state after : VfsState × Buffer) :
    Prop :=
  VfsMove vfs name looks state.1 after.1

private theorem packPage_moves (name : FileName) (value : PageBuffer) :
    Guarantees (CallMove vfs name false) (vfs.packPage value) := by
  unfold packPage
  split
  · exact (guarantees_atomic fun state => .keep state.1).bind fun page =>
      (Guarantees.onShared (guarantees_zlib VfsMove.zlib)).bind fun _ => guarantees_pure _
  · exact guarantees_pure _

private theorem encryptPage_moves (name : FileName) (index : Nat) (value : PageBuffer) :
    Guarantees (CallMove vfs name false) (vfs.encryptPage name index value) := by
  unfold encryptPage
  split
  · split
    · apply guarantees_atomic
      intro state
      cases value <;> exact .keep state.1
    · exact guarantees_pure _
  · exact guarantees_pure _

private theorem tryPut_moves (name : FileName) (index : Nat) (value : PageBuffer) :
    Guarantees (CallMove vfs name false) (vfs.tryPut name index value) :=
  (openBatch_moves name).onShared.bind fun batch =>
    (packPage_moves name value).bind fun packed =>
      (encryptPage_moves name index packed).bind fun _ =>
        (guarantees_atomic fun state => .keep state.1).bind fun _ =>
          (guarantees_storeCall (fun state => .fail state .put batch.source rfl)
            (fun state => .add state .put batch _ rfl)).onShared

private theorem readPage_moves (name : FileName) (length offset index : Nat) (looks : Bool) :
    Guarantees (CallMove vfs name looks) (vfs.readPage name length offset index) := by
  unfold readPage
  simp only
  split
  · exact (get_moves name index looks).onShared.bind fun _ =>
      guarantees_atomic fun state => .keep state.1
  · exact guarantees_pure _

private theorem writePage_moves (name : FileName) (length offset index : Nat) :
    Guarantees (CallMove vfs name false) (vfs.writePage name length offset index) := by
  unfold writePage
  simp only
  split
  · exact tryPut_moves name index _
  · exact (get_moves name index false).onShared.bind fun _ =>
      (guarantees_atomic fun state => .keep state.1).bind fun _ => tryPut_moves name index _

theorem callback_moves {σ : Type} {guarantee : σ → σ → Prop}
    {body : Task σ JsValue (List JsValue)} (steps : Guarantees guarantee body) :
    Guarantees guarantee (callback body) :=
  (steps.bind fun _ => guarantees_pure _).catch fun _ => guarantees_pure _

theorem withBuffer_moves {guarantee : VfsState → VfsState → Prop} {task : CallTask CallbackArgs}
    (steps : Guarantees (fun state after => guarantee state.1 after.1) task) (buffer : Buffer) :
    Guarantees guarantee (withBuffer task buffer) :=
  (steps.withLocal buffer).bind fun _ => guarantees_pure _

private theorem withoutBuffer_moves {guarantee : VfsState → VfsState → Prop}
    {task : VfsTask CallbackArgs}
    (steps : Guarantees guarantee task) : Guarantees guarantee (withoutBuffer task) :=
  steps.bind fun _ => guarantees_pure _

theorem perform_moves (vfs : ParaVFS) (call : VfsCall) :
    Guarantees (VfsMove vfs call.file call.looks) (vfs.perform call) := by
  cases call with
  | xDelete name =>
      refine withoutBuffer_moves (callback_moves ((last_moves name false).bind fun index => ?_))
      refine Guarantees.bind ?_ fun _ => (flush_moves name).bind fun _ => guarantees_pure _
      split
      · exact guarantees_forEach fun page _ => tryDelete_moves name page
      · exact guarantees_pure _
  | xAccess name =>
      exact withoutBuffer_moves (callback_moves ((last_moves name true).bind fun _ =>
        guarantees_pure _))
  | xRead name buffer offset =>
      exact withBuffer_moves (callback_moves
        ((guarantees_atomic fun state => VfsMove.keep state.1).bind fun length =>
          (guarantees_forEach fun page _ => readPage_moves name length offset page true).bind
            fun _ => guarantees_pure _)) buffer
  | xWrite name data offset =>
      exact withBuffer_moves (callback_moves
        ((guarantees_atomic fun state => VfsMove.keep state.1).bind fun length =>
          (guarantees_forEach fun page _ => writePage_moves name length offset page).bind
            fun _ => guarantees_pure _)) data
  | xTruncate name size =>
      refine withBuffer_moves (callback_moves
        ((last_moves name false).onShared.bind fun index => ?_)) []
      refine Guarantees.bind ?_ fun _ => guarantees_pure _
      split
      · exact guarantees_forEach fun page _ => tryPut_moves name page _
      · split
        · exact guarantees_throw _
        · exact guarantees_pure _
  | xSync name =>
      exact withoutBuffer_moves (callback_moves ((flush_moves name).bind fun _ =>
        guarantees_pure _))
  | xSize name =>
      exact withoutBuffer_moves (callback_moves ((last_moves name true).bind fun _ =>
        guarantees_pure _))

end ParaVFS

/-! ### Assertions through a call -/

/-- What an assertion has to survive so that it holds throughout every call on a file.
`held` says what is known of a batch that a call has in hand, and `thrown` what is known
where a step of the call rejects. -/
structure Discipline (vfs : ParaVFS) (name : FileName) (rely : VfsState → VfsState → Prop)
    (holds : VfsState → Prop) (held : Batch → Prop) (thrown : JsValue → VfsState → Prop) :
    Prop where
  stable : Stable rely holds
  look : ∀ {state op}, op = .get ∨ op = .peek → holds state →
    holds (state.record (.store op name (vfs.storeOf name state) state.view false))
  lookFails : ∀ {state op error}, op = .get ∨ op = .peek → holds state →
    thrown (.error error)
      (state.record (.store op name (vfs.storeOf name state) state.view true))
  zlib : ∀ {state}, holds state → holds (state.record (.zlib false))
  zlibFails : ∀ {state}, holds state → thrown .undefined (state.record (.zlib true))
  registered : ∀ {state batch}, holds state → state.files.lookup name = some batch →
    held batch
  make : ∀ {state} (batch : Batch), batch.source = vfs.storeOf name state → batch.ops = [] →
    holds state → state.files.lookup name = none →
    held batch ∧ holds { state.record (.batch name batch.source state.view) with
      files := state.files.insert name batch
      serial := state.serial + 1 }
  add : ∀ {state op batch item}, item.key.name = name → holds state → held batch →
    holds ((state.record (.store op name batch.source state.view false)).addTo name batch item)
  unregister : ∀ {state}, holds state → holds (state.unregister name)
  commit : ∀ {state batch}, holds state → held batch →
    holds ((state.record (.store .flush name batch.source state.view false)).commit batch)
  fails : ∀ {state op batch error}, holds state → held batch →
    thrown (.error error) (state.record (.store op name batch.source state.view true))
  throws : ∀ {state error}, holds state → thrown (.error error) state

def Returned (holds : VfsState → Prop) (thrown : JsValue → VfsState → Prop)
    (args : ParaVFS.CallbackArgs) (state : VfsState) : Prop :=
  (holds state ∧ args.head? = some .null) ∨ ∃ value, thrown value state ∧ args = [value]

namespace Discipline

variable {vfs : ParaVFS} {name : FileName} {rely : VfsState → VfsState → Prop}
  {holds : VfsState → Prop} {held : Batch → Prop} {thrown : JsValue → VfsState → Prop}

def callRely (rely : VfsState → VfsState → Prop) (first second : VfsState × Buffer) : Prop :=
  rely first.1 second.1 ∧ second.2 = first.2

private theorem stable_call {rely : VfsState → VfsState → Prop} {holds : VfsState → Prop}
    (stable : Stable rely holds) :
    Stable (callRely rely) (fun state : VfsState × Buffer => holds state.1) :=
  fun _ _ move kept => stable _ _ move.1 kept

theorem triple_storeCall {α : Type} {before : VfsState → Prop} {after : α → VfsState → Prop}
    {rejected : JsValue → VfsState → Prop} {op : StoreOp} {name : FileName}
    {target : VfsState → StoreRef} {action : VfsState → α × VfsState}
    (stable : Stable rely before)
    (fails : ∀ state error, before state →
      rejected (.error error) (state.record (.store op name (target state) state.view true)))
    (acts : ∀ state, before state →
      after (action (state.record (.store op name (target state) state.view false))).1
        (action (state.record (.store op name (target state) state.view false))).2) :
    Triple rely before (vfs.storeCall op name target action) after rejected := by
  apply triple_atomic stable
  intro state begins
  by_cases fault : vfs.runtime.fault state.storeCalls = true
  · simp only [fault, if_true]
    exact fails state _ begins
  · simp only [Bool.eq_false_of_not_eq_true fault]
    exact acts state begins

variable (discipline : Discipline vfs name rely holds held thrown)

include discipline

private theorem zlibCall {α : Type} {failed : VfsState → Bool} {result : VfsState → α} :
    Triple rely holds (ParaVFS.attempt (fun _ failed => .zlib failed) failed
      (fun _ => .undefined) (fun state => (result state, state))) (fun _ => holds) thrown := by
  apply triple_atomic discipline.stable
  intro state begins
  by_cases fails : failed state = true
  · simp only [fails, if_true]
    exact discipline.zlibFails begins
  · simp only [Bool.eq_false_of_not_eq_true fails]
    exact discipline.zlib begins

theorem get (index : Nat) :
    Triple rely holds (vfs.get name index) (fun _ => holds) thrown := by
  unfold ParaVFS.get
  rw [ParaVFS.fetch_eq]
  refine Triple.bind (?_ : Triple rely holds _ (fun _ => holds) thrown) fun value => ?_
  · exact triple_storeCall discipline.stable
      (fun _ _ begins => discipline.lookFails (Or.inl rfl) begins)
      (fun _ begins => discipline.look (Or.inl rfl) begins)
  cases value with
  | none => exact triple_pure _ fun _ kept => kept
  | some page =>
      simp only [ParaVFS.unpack]
      split
      · exact discipline.zlibCall.bind fun _ => triple_pure _ fun _ kept => kept
      · exact triple_pure _ fun _ kept => kept

theorem last :
    Triple rely holds (vfs.last name) (fun _ => holds) thrown := by
  rw [ParaVFS.last_eq]
  exact triple_storeCall discipline.stable
    (fun _ _ begins => discipline.lookFails (Or.inr rfl) begins)
    (fun _ begins => discipline.look (Or.inr rfl) begins)

theorem openBatch :
    Triple rely holds (vfs.openBatch name) (fun batch state => held batch ∧ holds state)
      thrown := by
  apply triple_atomic discipline.stable
  intro state begins
  cases found : state.files.lookup name with
  | some batch => exact ⟨discipline.registered begins found, begins⟩
  | none => exact discipline.make _ rfl rfl begins found

theorem addTo (op : StoreOp) (batch : Batch) {item : BatchOp} (onFile : item.key.name = name) :
    Triple rely (fun state => held batch ∧ holds state)
      (vfs.storeCall op name (fun _ => batch.source)
        (fun state => ((), state.addTo name batch item)))
      (fun _ => holds) thrown :=
  triple_storeCall (fun _ _ move kept => ⟨kept.1, discipline.stable _ _ move kept.2⟩)
    (fun _ _ begins => discipline.fails begins.2 begins.1)
    (fun _ begins => discipline.add onFile begins.2 begins.1)

theorem tryDelete (index : Nat) :
    Triple rely holds (vfs.tryDelete name index) (fun _ => holds) thrown :=
  (discipline.openBatch).bind fun batch => discipline.addTo .delete batch rfl

theorem flush :
    Triple rely holds (vfs.flush name) (fun _ => holds) thrown := by
  refine Triple.bind (?_ : Triple rely holds _
    (fun batch state => held batch ∧ holds state) thrown) fun batch => ?_
  · apply triple_atomic discipline.stable
    intro state begins
    cases found : state.files.lookup name with
    | none => exact discipline.throws begins
    | some batch => exact ⟨discipline.registered begins found, discipline.unregister begins⟩
  · exact triple_storeCall (fun _ _ move kept => ⟨kept.1, discipline.stable _ _ move kept.2⟩)
      (fun _ _ begins => discipline.fails begins.2 begins.1)
      (fun _ begins => discipline.commit begins.2 begins.1)

private theorem stable_held (batch : Batch) :
    Stable (callRely rely) (fun state : VfsState × Buffer => held batch ∧ holds state.1) :=
  fun _ _ move kept => ⟨kept.1, discipline.stable _ _ move.1 kept.2⟩

theorem packPage (batch : Batch) (value : PageBuffer) :
    Triple (callRely rely) (fun state => held batch ∧ holds state.1) (vfs.packPage value)
      (fun _ state => held batch ∧ holds state.1) (fun value state => thrown value state.1) := by
  unfold ParaVFS.packPage
  refine triple_ite (fun _ => ?_) fun _ => triple_pure _ fun _ kept => kept
  refine Triple.bind (?_ : Triple (callRely rely) _ _
    (fun _ state => held batch ∧ holds state.1) _) fun page => ?_
  · exact triple_read (discipline.stable_held batch) fun _ kept => kept
  have zlib : Triple rely (fun state => held batch ∧ holds state) (vfs.deflate page)
      (fun _ state => held batch ∧ holds state) thrown := by
    intro state result final begins ran
    have ends := discipline.zlibCall state result final begins.2 ran
    cases result with
    | ok value => exact ⟨begins.1, ends⟩
    | error rejection => exact ends
  exact zlib.onShared.bind fun _ => triple_pure _ fun _ kept => kept

theorem encryptPage (index : Nat) (batch : Batch) (value : PageBuffer) :
    Triple (callRely rely) (fun state => held batch ∧ holds state.1)
      (vfs.encryptPage name index value) (fun _ state => held batch ∧ holds state.1)
      (fun value state => thrown value state.1) := by
  unfold ParaVFS.encryptPage
  split
  · refine triple_ite (fun _ => ?_) fun _ => triple_pure _ fun _ kept => kept
    apply triple_atomic (discipline.stable_held batch)
    intro state begins
    cases value <;> exact begins
  · exact triple_pure _ fun _ kept => kept

theorem tryPut (index : Nat) (value : PageBuffer) :
    Triple (callRely rely) (fun state => holds state.1) (vfs.tryPut name index value)
      (fun _ state => holds state.1) (fun value state => thrown value state.1) :=
  (discipline.openBatch).onShared.bind fun batch =>
    (discipline.packPage batch value).bind fun packed =>
      (discipline.encryptPage index batch packed).bind fun _ =>
        (triple_read (discipline.stable_held batch) fun _ kept => kept).bind fun _ =>
          (discipline.addTo .put batch rfl).onShared

theorem readPage (length offset index : Nat) :
    Triple (callRely rely) (fun state => holds state.1) (vfs.readPage name length offset index)
      (fun _ state => holds state.1) (fun value state => thrown value state.1) := by
  unfold ParaVFS.readPage
  simp only
  exact triple_ite (fun _ => (discipline.get index).onShared.bind fun _ =>
      triple_modify (stable_call discipline.stable) fun _ kept => kept)
    fun _ => triple_pure _ fun _ kept => kept

theorem writePage (length offset index : Nat) :
    Triple (callRely rely) (fun state => holds state.1) (vfs.writePage name length offset index)
      (fun _ state => holds state.1) (fun value state => thrown value state.1) := by
  unfold ParaVFS.writePage
  simp only
  exact triple_ite (fun _ => discipline.tryPut index _)
    fun _ => (discipline.get index).onShared.bind fun _ =>
      (triple_read (stable_call discipline.stable) fun _ kept => kept).bind fun _ =>
        discipline.tryPut index _

omit discipline in
theorem callback {σ : Type} {rely : σ → σ → Prop} {holds : σ → Prop} {thrown : JsValue → σ → Prop}
    {body : Task σ JsValue (List JsValue)} {rejected : JsValue → σ → Prop}
    (triple : Triple rely holds body (fun _ => holds) thrown) :
    Triple rely holds (ParaVFS.callback body)
      (fun args state => (holds state ∧ args.head? = some .null) ∨
        ∃ value, thrown value state ∧ args = [value]) rejected :=
  (triple.bind fun _ => triple_pure _ fun _ kept => Or.inl ⟨kept, rfl⟩).catch fun thrown =>
    triple_pure _ fun _ known => Or.inr ⟨thrown, known, rfl⟩

omit discipline in
theorem withBuffer {task : CallTask ParaVFS.CallbackArgs} (buffer : Buffer)
    {rejected : JsValue → VfsState → Prop}
    (triple : Triple (callRely rely) (fun state => holds state.1) task
      (fun args state => Returned holds thrown args state.1)
      (fun value state => rejected value state.1)) :
    Triple rely holds (ParaVFS.withBuffer task buffer)
      (fun reply => Returned holds thrown reply.args) rejected :=
  (Triple.withLocal buffer (triple.mono (fun _ begins => begins.1) (fun _ _ kept => kept)
    fun _ _ known => known)).bind fun _ => triple_pure _ fun _ kept => kept

omit discipline in
theorem withoutBuffer {task : VfsTask ParaVFS.CallbackArgs}
    {rejected : JsValue → VfsState → Prop}
    (triple : Triple rely holds task (Returned holds thrown) rejected) :
    Triple rely holds (ParaVFS.withoutBuffer task)
      (fun reply => Returned holds thrown reply.args) rejected :=
  triple.bind fun _ => triple_pure _ fun _ kept => kept

/-- Every call on the file keeps the discipline, and always ends by calling back. -/
theorem perform (call : VfsCall) (about : call.file = name) :
    Triple rely holds (vfs.perform call) (fun reply => Returned holds thrown reply.args)
      (fun _ _ => False) := by
  have stableCall := stable_call discipline.stable
  subst about
  cases call with
  | xDelete name =>
      refine withoutBuffer (callback ((discipline.last).bind fun index => ?_))
      refine Triple.bind (?_ : Triple rely holds _ (fun _ => holds) thrown) fun _ =>
        (discipline.flush).bind fun _ => triple_pure _ fun _ kept => kept
      exact triple_ite (fun _ => triple_forEach fun page _ => discipline.tryDelete page)
        fun _ => triple_pure _ fun _ kept => kept
  | xAccess name =>
      exact withoutBuffer (callback ((discipline.last).bind fun _ =>
        triple_pure _ fun _ kept => kept))
  | xRead name buffer offset =>
      exact withBuffer buffer (callback ((triple_read stableCall fun _ kept => kept).bind
        fun length => (triple_forEach fun page _ =>
          discipline.readPage length offset page).bind fun _ =>
            triple_pure _ fun _ kept => kept))
  | xWrite name data offset =>
      exact withBuffer data (callback ((triple_read stableCall fun _ kept => kept).bind
        fun length => (triple_forEach fun page _ =>
          discipline.writePage length offset page).bind fun _ =>
            triple_pure _ fun _ kept => kept))
  | xTruncate name size =>
      refine withBuffer [] (callback ((discipline.last).onShared.bind fun index => ?_))
      refine Triple.bind (?_ : Triple (callRely rely) (fun state => holds state.1) _
        (fun _ state => holds state.1) (fun value state => thrown value state.1)) fun _ =>
        triple_pure _ fun _ kept => kept
      exact triple_ite (fun _ => triple_forEach fun page _ => discipline.tryPut page _)
        fun _ => triple_ite (fun _ => triple_throw _ fun _ kept => discipline.throws kept)
          fun _ => triple_pure _ fun _ kept => kept
  | xSync name =>
      exact withoutBuffer (callback ((discipline.flush).bind fun _ =>
        triple_pure _ fun _ kept => kept))
  | xSize name =>
      exact withoutBuffer (callback ((discipline.last).bind fun _ =>
        triple_pure _ fun _ kept => kept))

end Discipline
end ParaQL
