/-
Calls of the VFS on two states that they cannot tell apart.

A look sees the committed pages of its file.  Other calls also work on the batch of the
file, and each run has its own batch in hand.  What a relation on states has to provide
for this is said once, and every call is derived from it.
-/

import ParaQL.Async.Blind
import ParaQL.VfsSteps

namespace ParaQL

open Async Async.Task Bytes

def onCall (same : VfsState → VfsState → Prop) (first second : VfsState × Buffer) : Prop :=
  same first.1 second.1 ∧ first.2 = second.2

/-- The file `name` looks the same in related states. -/
structure Lookalike (vfs : ParaVFS) (name : FileName) (same : VfsState → VfsState → Prop) :
    Prop where
  see : ∀ {α : Type} (op : StoreOp) (view : Pages → α), Blind same
    (vfs.storeCall op name (vfs.storeOf name)
      fun state => (view (state.stores (vfs.storeOf name state) name), state))
  inflate : ∀ page, Blind same (vfs.inflate page)

/-- Changes of the file keep states related.  `holding` says what is known of the batches
that the two runs have in hand. -/
structure Indiscernible (vfs : ParaVFS) (name : FileName) (same : VfsState → VfsState → Prop)
    (holding : Batch → Batch → VfsState → VfsState → Prop) : Prop
    extends Lookalike vfs name same where
  openBatch : Related same same (vfs.openBatch name) (vfs.openBatch name) holding
  held : ∀ {batch counterpart first second}, holding batch counterpart first second →
    same first second
  deflate : ∀ batch counterpart page, Blind (holding batch counterpart) (vfs.deflate page)
  addTo : ∀ op batch counterpart item, item.key.name = name →
    Related same (holding batch counterpart)
      (vfs.storeCall op name (fun _ => batch.source)
        fun state => ((), state.addTo name batch item))
      (vfs.storeCall op name (fun _ => counterpart.source)
        fun state => ((), state.addTo name counterpart item))
      (fun value other first second => value = other ∧ same first second)
  flush : Blind same (vfs.flush name)

section Calls

variable {same : VfsState → VfsState → Prop}

private theorem blind_lent {α : Type} (view : Buffer → α) :
    Blind (onCall same) (Task.read fun state => view state.2 : CallTask α) :=
  fun _ _ holds => ⟨congrArg view holds.2, holds⟩

private theorem blind_callback {σ : Type} {same : σ → σ → Prop}
    {body : Task σ JsValue (List JsValue)}
    (blind : Blind same body) : Blind same (ParaVFS.callback body) :=
  (blind.bind fun _ => blind_pure _).catch fun _ => blind_pure _

private theorem blind_withBuffer {task : CallTask ParaVFS.CallbackArgs}
    (blind : Blind (onCall same) task)
    (buffer : Buffer) : Blind same (ParaVFS.withBuffer task buffer) :=
  (blind.withLocal buffer).bind fun _ => blind_pure _

private theorem blind_withoutBuffer {task : VfsTask ParaVFS.CallbackArgs}
    (blind : Blind same task) :
    Blind same (ParaVFS.withoutBuffer task) :=
  blind.bind fun _ => blind_pure _

end Calls

namespace Lookalike

variable {vfs : ParaVFS} {name : FileName} {same : VfsState → VfsState → Prop}
  (lookalike : Lookalike vfs name same)

include lookalike

theorem get (index : Nat) : Blind same (vfs.get name index) := by
  unfold ParaVFS.get
  rw [ParaVFS.fetch_eq]
  refine Blind.bind (lookalike.see .get fun pages =>
    vfs.decipher name index (pages.lookup index)) fun value => ?_
  cases value with
  | none => exact blind_pure _
  | some page =>
      simp only [ParaVFS.unpack]
      split
      · exact (lookalike.inflate page).bind fun _ => blind_pure _
      · exact blind_pure _

theorem last : Blind same (vfs.last name) := by
  rw [ParaVFS.last_eq]
  exact lookalike.see .peek Pages.last

theorem readPage (length offset index : Nat) :
    Blind (onCall same) (vfs.readPage name length offset index) := by
  unfold ParaVFS.readPage
  simp only
  split
  · refine (lookalike.get index).onShared.bind fun found => ?_
    rintro ⟨first, lent⟩ ⟨second, otherLent⟩ ⟨holds, sameLent⟩
    obtain rfl : lent = otherLent := sameLent
    exact ⟨rfl, holds, rfl⟩
  · exact blind_pure ()

theorem perform {call : VfsCall} (about : call.file = name) (looks : call.looks = true) :
    Blind same (vfs.perform call) := by
  subst about
  cases call with
  | xAccess name =>
      exact blind_withoutBuffer (blind_callback (lookalike.last.bind fun _ => blind_pure _))
  | xRead name buffer offset =>
      refine blind_withBuffer (blind_callback ?_) buffer
      exact (blind_lent List.length).bind fun length =>
        (blind_forEach fun page _ => lookalike.readPage length offset page).bind
          fun _ => blind_pure _
  | xSize name =>
      exact blind_withoutBuffer (blind_callback (lookalike.last.bind fun _ => blind_pure _))
  | xDelete name => cases looks
  | xWrite name data offset => cases looks
  | xTruncate name size => cases looks
  | xSync name => cases looks

end Lookalike

namespace Indiscernible

variable {vfs : ParaVFS} {name : FileName} {same : VfsState → VfsState → Prop}
  {holding : Batch → Batch → VfsState → VfsState → Prop}
  (indiscernible : Indiscernible vfs name same holding)

include indiscernible

theorem tryDelete (index : Nat) : Blind same (vfs.tryDelete name index) :=
  indiscernible.openBatch.bind fun batch counterpart =>
    indiscernible.addTo .delete batch counterpart _ rfl

theorem packPage (batch counterpart : Batch) (value : PageBuffer) :
    Blind (onCall (holding batch counterpart)) (vfs.packPage value) := by
  unfold ParaVFS.packPage
  split
  · exact (blind_lent fun lent => value.bytes lent).bind fun page =>
      (indiscernible.deflate batch counterpart page).onShared.bind fun _ => blind_pure _
  · exact blind_pure _

omit indiscernible in
theorem encryptPage (index : Nat) (value : PageBuffer) :
    Blind (onCall same) (vfs.encryptPage name index value) := by
  unfold ParaVFS.encryptPage
  split
  · split
    · rintro ⟨first, lent⟩ ⟨second, otherLent⟩ ⟨holds, sameLent⟩
      obtain rfl : lent = otherLent := sameLent
      cases value <;> exact ⟨rfl, holds, rfl⟩
    · exact blind_pure _
  · exact blind_pure _

theorem tryPut (index : Nat) (value : PageBuffer) :
    Blind (onCall same) (vfs.tryPut name index value) := by
  unfold ParaVFS.tryPut
  refine Related.bind (?_ : Related _ _ _ _ fun batch counterpart first second =>
    onCall (holding batch counterpart) first second) fun batch counterpart => ?_
  · exact indiscernible.openBatch.onShared Eq
  have dropped : ∀ first second : VfsState × Buffer,
      onCall (holding batch counterpart) first second → onCall same first second :=
    fun _ _ holds => ⟨indiscernible.held holds.1, holds.2⟩
  refine Related.bindSame ((indiscernible.packPage batch counterpart value).mono
    (fun _ _ holds => holds) dropped fun _ _ _ _ holds => holds) fun packed => ?_
  refine Related.bindSame ((encryptPage index packed).mono (fun _ _ holds => holds) dropped
    fun _ _ _ _ holds => holds) fun encrypted => ?_
  refine Related.bindSame ((blind_lent fun lent => encrypted.bytes lent).mono
    (fun _ _ holds => holds) dropped fun _ _ _ _ holds => holds) fun page => ?_
  exact ((indiscernible.addTo .put batch counterpart _ rfl).onShared Eq).mono
    (fun _ _ holds => holds) (fun _ _ holds => holds) fun _ _ _ _ holds =>
      ⟨holds.1.1, holds.1.2, holds.2⟩

theorem writePage (length offset index : Nat) :
    Blind (onCall same) (vfs.writePage name length offset index) := by
  unfold ParaVFS.writePage
  simp only
  split
  · exact indiscernible.tryPut index _
  · refine (indiscernible.get index).onShared.bind fun found => ?_
    refine Blind.bind (blind_lent fun lent => lent.subarray _ _) fun patch => ?_
    exact indiscernible.tryPut index _

/-- Every call on the file gets the same reply and keeps the states related. -/
theorem perform (call : VfsCall) (about : call.file = name) : Blind same (vfs.perform call) := by
  have looks (isLook : call.looks = true) : Blind same (vfs.perform call) :=
    indiscernible.toLookalike.perform about isLook
  subst about
  cases call with
  | xAccess name => exact looks rfl
  | xRead name buffer offset => exact looks rfl
  | xSize name => exact looks rfl
  | xDelete name =>
      refine blind_withoutBuffer (blind_callback (indiscernible.last.bind fun index => ?_))
      refine Blind.bind ?_ fun _ => indiscernible.flush.bind fun _ => blind_pure _
      split
      · exact blind_forEach fun page _ => indiscernible.tryDelete page
      · exact blind_pure ()
  | xWrite name data offset =>
      refine blind_withBuffer (blind_callback ?_) data
      exact (blind_lent List.length).bind fun length =>
        (blind_forEach fun page _ => indiscernible.writePage length offset page).bind
          fun _ => blind_pure _
  | xTruncate name size =>
      refine blind_withBuffer (blind_callback (indiscernible.last.onShared.bind
        fun index => ?_)) []
      refine Blind.bind ?_ fun _ => blind_pure _
      split
      · exact blind_forEach fun page _ => indiscernible.tryPut page _
      · split
        · exact blind_throw _
        · exact blind_pure ()
  | xSync name =>
      exact blind_withoutBuffer (blind_callback (indiscernible.flush.bind fun _ => blind_pure _))

end Indiscernible

namespace ParaVFS

variable {vfs : ParaVFS}

theorem addTo_eq {state : VfsState} {name : FileName} {registered batch : Batch} (op : BatchOp)
    (found : state.files.lookup name = some registered) (same : registered.serial = batch.serial) :
    state.addTo name batch op =
      { state with
        files := state.files.insert name { registered with ops := registered.ops ++ [op] } } := by
  unfold VfsState.addTo
  rw [found]
  exact if_pos same

section Reliable

variable (reliable : vfs.runtime.Reliable)

include reliable

private theorem run_storeCall_reliable {α : Type} (op : StoreOp) (name : FileName)
    (target : VfsState → StoreRef) (action : VfsState → α × VfsState) (state : VfsState) :
    (vfs.storeCall op name target action).run state =
      (.ok (action (state.record (.store op name (target state) state.view false))).1,
        (action (state.record (.store op name (target state) state.view false))).2) := by
  unfold storeCall attempt
  simp only [run_atomic, reliable.store, Bool.false_eq_true, if_false]

/-- The calls into a store that two peers make, each with its own batch in hand. -/
theorem related_peerCall {α : Type} {rejected before : VfsState → VfsState → Prop}
    {after : α → α → VfsState → VfsState → Prop} {op : StoreOp} {name : FileName}
    {target counterpart : VfsState → StoreRef} {action otherAction : VfsState → α × VfsState}
    (acts : ∀ first second access other, before first second →
      after (action (first.record access)).1 (otherAction (second.record other)).1
        (action (first.record access)).2 (otherAction (second.record other)).2) :
    Related rejected before (vfs.storeCall op name target action)
      (vfs.storeCall op name counterpart otherAction) after := by
  intro first second holds
  rw [run_storeCall_reliable reliable, run_storeCall_reliable reliable]
  exact acts first second _ _ holds

end Reliable

end ParaVFS
end ParaQL
