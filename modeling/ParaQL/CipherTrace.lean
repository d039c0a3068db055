/-
What the VFS hands to `encrypt`, written down beside its state.

The calls are those of lib/vfs.js with one more thing done in `_tryPut`: where it enciphers
a page, the arguments are appended to a trace.  Without the trace they are the same calls.
-/

import ParaQL.Async.Ghost
import ParaQL.LentBytes

namespace ParaQL

open Async Async.Task Bytes

/-- A call of `encrypt`. -/
structure CipherUse where
  page : Buffer
  filename : FileName
  index : Nat
  deriving DecidableEq, Repr

def CipherUse.nonce (use : CipherUse) (vfs : ParaVFS) (encryption : Encryption) : Buffer :=
  encryption.nonce vfs.runtime use.filename use.index

abbrev TracedState := VfsState × List CipherUse

abbrev TracedTask := Task TracedState JsValue

abbrev TracedCallTask := Task (TracedState × Buffer) JsValue

namespace ParaVFS

variable (vfs : ParaVFS)

/-- The call of `encrypt` for a page in hand, if there is one. -/
def cipherUses (name : FileName) (index : Nat) (page : Buffer) : List CipherUse :=
  if (vfs.pageEncryption name).isSome then [{ page := page, filename := name, index := index }]
  else []

namespace Traced

def encryptPage (name : FileName) (index : Nat) (value : PageBuffer) :
    TracedCallTask PageBuffer := do
  Task.modify fun state =>
    ((state.1.1, state.1.2 ++ vfs.cipherUses name index (value.bytes state.2)), state.2)
  (vfs.encryptPage name index value).beside

def tryPut (name : FileName) (index : Nat) (value : PageBuffer) : TracedCallTask Unit := do
  let batch ← (vfs.openBatch name).onShared.onShared
  let value ← (vfs.packPage value).beside
  let value ← encryptPage vfs name index value
  let page ← Task.read fun state => value.bytes state.2
  (vfs.storeCall .put name (fun _ => batch.source)
    (fun state => ((), state.addTo name batch (.put ⟨name, index⟩ page)))).onShared.onShared

def writePage (name : FileName) (length offset index : Nat) : TracedCallTask Unit :=
  let pageStart := index * pageSize
  let pageEnd := pageStart + pageSize
  let writeStart := max offset pageStart
  let writeEnd := min (offset + length) pageEnd
  let writeLength := writeEnd - writeStart
  let pageOffset := writeStart - pageStart
  let dataStart := writeStart - offset
  if writeLength = pageSize then
    tryPut vfs name index (.lent dataStart)
  else do
    let found ← (vfs.get name index).onShared.onShared
    let page := found.getD (Buffer.alloc pageSize)
    let patch ← Task.read fun state => state.2.subarray dataStart (dataStart + writeLength)
    tryPut vfs name index (.own (patch.copy page pageOffset 0 patch.length))

def xWrite (name : FileName) (offset : Nat) : TracedCallTask CallbackArgs :=
  callback do
    let length ← Task.read fun state => state.2.length
    Task.forEach (Paging.pagesTouched pageSize offset length) (writePage vfs name length offset)
    pure []

def xTruncate (name : FileName) (size : Nat) : TracedCallTask CallbackArgs :=
  callback do
    let index ← (vfs.last name).onShared.onShared
    let current := (index + 1) * pageSize
    let targetIndex : Int := ((size : Int) - 1) / pageSize
    (if size > current then
        Task.forEach (List.range' (index + 1).toNat (targetIndex - index).toNat)
          fun page => tryPut vfs name page (.own (Buffer.alloc pageSize))
      else if size < current then throw (.error (JsError.notDefined "lastIndex"))
      else pure ())
    pure []

def withBuffer (task : TracedCallTask CallbackArgs) (buffer : Buffer) : TracedTask VfsReply := do
  let (args, lent) ← task.withLocal buffer
  pure { args := args, buffer := lent }

def perform : VfsCall → TracedTask VfsReply
  | .xWrite name buffer offset => withBuffer (xWrite vfs name offset) buffer
  | .xTruncate name size => withBuffer (xTruncate vfs name size) []
  | call => (vfs.perform call).onShared

abbrev forgetTrace : TracedState × Buffer → VfsState × Buffer := Prod.map Prod.fst id

variable {vfs}

private theorem erases_lent {α : Type} (view : Buffer → α) :
    Erases forgetTrace (Task.read fun state => view state.2 : TracedCallTask α)
      (Task.read fun state => view state.2 : CallTask α) := by
  rintro state _ rfl
  exact ⟨rfl, rfl⟩

private theorem encryptPage_erases (name : FileName) (index : Nat) (value : PageBuffer) :
    Erases forgetTrace (encryptPage vfs name index value) (vfs.encryptPage name index value) :=
  (erases_beside _).afterNote fun _ => rfl

private theorem tryPut_erases (name : FileName) (index : Nat) (value : PageBuffer) :
    Erases forgetTrace (tryPut vfs name index value) (vfs.tryPut name index value) :=
  (erases_onShared _).onShared.bind fun _ =>
    (erases_beside _).bind fun packed =>
      (encryptPage_erases name index packed).bind fun value =>
        (erases_lent fun lent => value.bytes lent).bind fun _ => (erases_onShared _).onShared

private theorem writePage_erases (name : FileName) (length offset index : Nat) :
    Erases forgetTrace (writePage vfs name length offset index)
      (vfs.writePage name length offset index) := by
  unfold writePage ParaVFS.writePage
  simp only
  split
  · exact tryPut_erases name index _
  · exact (erases_onShared _).onShared.bind fun _ =>
      (erases_lent fun lent => lent.subarray _ _).bind fun _ => tryPut_erases name index _

private theorem callback_erases {σ τ : Type} {forget : σ → τ} {task : Task σ JsValue (List JsValue)}
    {plain : Task τ JsValue (List JsValue)} (erases : Erases forget task plain) :
    Erases forget (callback task) (callback plain) :=
  (erases.bind fun _ => erases_pure _).catch fun _ => erases_pure _

private theorem withBuffer_erases {task : TracedCallTask CallbackArgs}
    {plain : CallTask CallbackArgs}
    (erases : Erases forgetTrace task plain) (buffer : Buffer) :
    Erases Prod.fst (withBuffer task buffer) (ParaVFS.withBuffer plain buffer) :=
  (erases.withLocal buffer).bind fun _ => erases_pure _

/-- A traced call is the call, with something written down. -/
theorem perform_erases (call : VfsCall) :
    Erases Prod.fst (perform vfs call) (vfs.perform call) := by
  cases call with
  | xWrite name data offset =>
      exact withBuffer_erases (callback_erases ((erases_lent List.length).bind fun length =>
        (erases_forEach fun page _ => writePage_erases name length offset page).bind fun _ =>
          erases_pure _)) data
  | xTruncate name size =>
      refine withBuffer_erases (callback_erases ((erases_onShared _).onShared.bind
        fun index => ?_)) []
      refine Erases.bind ?_ fun _ => erases_pure _
      split
      · exact erases_forEach fun page _ => tryPut_erases name page _
      · split
        · exact erases_throw _
        · exact erases_pure _
  | xDelete name => exact erases_onShared _
  | xAccess name => exact erases_onShared _
  | xRead name buffer offset => exact erases_onShared _
  | xSync name => exact erases_onShared _
  | xSize name => exact erases_onShared _

end Traced
end ParaVFS
end ParaQL
