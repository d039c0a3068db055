/-
The virtual file system of lib/vfs.js: pages of the database file in the
Autobee view, pages of every other file in the local RocksDB, pending changes in
one batch for each file.

Every call that can reject is one step of a task.  Which of those steps reject is
a parameter (`Runtime.fault`), and each of them leaves an entry in `log`, which no
code reads.  Compression, hashing and the stream cipher are parameters too.
-/

import ParaQL.Async.Task
import ParaQL.Bytes.Paging
import ParaQL.JsValue
import ParaQL.PageStore

namespace ParaQL

open Async Bytes

structure Runtime where
  deflate : Nat → Buffer → Buffer
  -- `zlib.inflate`; `none` when the input is not a deflated buffer.
  inflate : Buffer → Option Buffer
  generichash : Buffer → Buffer
  streamXor : Buffer → Buffer → Buffer → Buffer
  uint64 : Nat → Buffer
  fault : Nat → Bool
  rejection : Nat → JsError
  -- Whether the n-th call into zlib fails, whatever its input.
  zlibFault : Nat → Bool

structure Encryption where
  key : Buffer
  encryptionKey : Buffer

def Encryption.nonce (encryption : Encryption) (runtime : Runtime) (name : FileName)
    (index : Nat) : Buffer :=
  runtime.generichash (encryption.key ++ name.toUTF8.toList ++ runtime.uint64 index)

def Encryption.encrypt (encryption : Encryption) (runtime : Runtime) (page : Buffer)
    (filename : FileName) (index : Nat) : Buffer :=
  runtime.streamXor (encryption.nonce runtime filename index) encryption.encryptionKey page

def Encryption.decrypt (encryption : Encryption) (runtime : Runtime) (page : Buffer)
    (filename : FileName) (index : Nat) : Buffer :=
  runtime.streamXor (encryption.nonce runtime filename index) encryption.encryptionKey page

/-! ### State -/

structure ParaVFS where
  runtime : Runtime
  name : FileName
  encryption : Option Encryption
  compressed : Bool
  compressionLevel : Nat

inductive ViewRef where
  | bee
  | applied (id : Nat)
  deriving DecidableEq, Repr

inductive StoreRef where
  | tmp
  | view (ref : ViewRef)
  deriving DecidableEq, Repr

structure Batch where
  source : StoreRef
  -- Tells batch objects apart.
  serial : Nat
  ops : List BatchOp

inductive StoreOp where
  | get
  | peek
  | put
  | delete
  | flush
  deriving DecidableEq, Repr

/-- What lib/vfs.js does to the outside, with the value of `_view` at the time. -/
inductive Access where
  | store (op : StoreOp) (name : FileName) (target : StoreRef) (view : Option Nat) (failed : Bool)
  | zlib (failed : Bool)
  | batch (name : FileName) (target : StoreRef) (view : Option Nat)
  | unregister (name : FileName)
  | switch (view : Option Nat)
  | prepare (sql : String) (failed : Bool)
  deriving DecidableEq, Repr

namespace Access

def storeCalls : Access → Nat
  | .store _ _ _ _ _ => 1
  | _ => 0

def zlibCalls : Access → Nat
  | .zlib _ => 1
  | _ => 0

def isZlib : Access → Bool
  | .zlib _ => true
  | _ => false

def failed : Access → Bool
  | .store _ _ _ _ failed => failed
  | .zlib failed => failed
  | .prepare _ failed => failed
  | _ => false

end Access

structure VfsState where
  view : Option Nat
  files : Finmap (fun _ : FileName => Batch)
  stores : StoreRef → Store
  serial : Nat
  storeCalls : Nat
  zlibCalls : Nat
  log : List Access

def VfsState.initial (stores : StoreRef → Store) : VfsState :=
  { view := none, files := ∅, stores := stores, serial := 0, storeCalls := 0, zlibCalls := 0,
    log := [] }

/-- `this._view ?? this.bee.view`. -/
def ViewRef.current : Option Nat → ViewRef
  | none => .bee
  | some id => .applied id

def VfsState.currentView (state : VfsState) : ViewRef := .current state.view

def VfsState.record (state : VfsState) (access : Access) : VfsState :=
  { state with
    storeCalls := state.storeCalls + access.storeCalls
    zlibCalls := state.zlibCalls + access.zlibCalls
    log := state.log ++ [access] }

/-- Adds an operation to a batch object.  One that is no longer registered has
been flushed already, and what is added to it is lost. -/
def VfsState.addTo (state : VfsState) (name : FileName) (batch : Batch) (op : BatchOp) :
    VfsState :=
  match state.files.lookup name with
  | none => state
  | some registered =>
      if registered.serial = batch.serial then
        { state with
          files := state.files.insert name { registered with ops := registered.ops ++ [op] } }
      else state

@[simp] theorem VfsState.view_addTo (state : VfsState) (name : FileName) (batch : Batch)
    (op : BatchOp) : (state.addTo name batch op).view = state.view := by
  unfold addTo
  split
  · rfl
  · split <;> rfl

@[simp] theorem VfsState.storeCalls_addTo (state : VfsState) (name : FileName) (batch : Batch)
    (op : BatchOp) : (state.addTo name batch op).storeCalls = state.storeCalls := by
  unfold addTo
  split
  · rfl
  · split <;> rfl

@[simp] theorem VfsState.log_addTo (state : VfsState) (name : FileName) (batch : Batch)
    (op : BatchOp) : (state.addTo name batch op).log = state.log := by
  unfold addTo
  split
  · rfl
  · split <;> rfl

def VfsState.unregister (state : VfsState) (name : FileName) : VfsState :=
  { state.record (.unregister name) with files := state.files.erase name }

def VfsState.commit (state : VfsState) (batch : Batch) : VfsState :=
  { state with
    stores := Function.update state.stores batch.source
      ((state.stores batch.source).commit batch.ops) }

abbrev VfsTask := Task VfsState JsValue

/-- A task that also sees the `ArrayBuffer` the native caller lent to it. -/
abbrev CallTask := Task (VfsState × Buffer) JsValue

/-- A page in hand: a buffer of its own, or `subarray` of the lent bytes. -/
inductive PageBuffer where
  | own (bytes : Buffer)
  | lent (start : Nat)
  deriving DecidableEq, Repr

def PageBuffer.bytes (lent : Buffer) : PageBuffer → Buffer
  | .own bytes => bytes
  | .lent start => lent.subarray start (start + pageSize)

namespace ParaVFS

variable (vfs : ParaVFS)

def attempt {α : Type} (access : VfsState → Bool → Access) (failed : VfsState → Bool)
    (rejection : VfsState → JsValue) (action : VfsState → α × VfsState) : VfsTask α :=
  .atomic fun state =>
    let recorded := state.record (access state (failed state))
    if failed state then (.error (rejection state), recorded)
    else (.ok (action recorded).1, (action recorded).2)

def storeCall {α : Type} (op : StoreOp) (name : FileName) (target : VfsState → StoreRef)
    (action : VfsState → α × VfsState) : VfsTask α :=
  attempt (fun state failed => .store op name (target state) state.view failed)
    (fun state => vfs.runtime.fault state.storeCalls)
    (fun state => .error (vfs.runtime.rejection state.storeCalls)) action

/-- The promise wrapper rejects with the callback's `result`, and zlib leaves that
undefined when it reports an error. -/
def deflate (buffer : Buffer) : VfsTask Buffer :=
  attempt (fun _ failed => .zlib failed) (fun state => vfs.runtime.zlibFault state.zlibCalls)
    (fun _ => .undefined)
    (fun state => (vfs.runtime.deflate vfs.compressionLevel buffer, state))

def inflate (buffer : Buffer) : VfsTask Buffer :=
  attempt (fun _ failed => .zlib failed)
    (fun state => vfs.runtime.zlibFault state.zlibCalls || (vfs.runtime.inflate buffer).isNone)
    (fun _ => .undefined)
    (fun state => ((vfs.runtime.inflate buffer).getD [], state))

/-- `tmp ? this.tmp : (this._view ?? this.bee.view)`. -/
def storeOf (name : FileName) (state : VfsState) : StoreRef :=
  if name ≠ vfs.name then .tmp else .view state.currentView

def fetch (name : FileName) (index : Nat) : VfsTask (Option Buffer) :=
  if name ≠ vfs.name then do
    let value ← vfs.storeCall .get name (fun _ => .tmp)
      (fun state => ((state.stores .tmp).get ⟨name, index⟩, state))
    match vfs.encryption with
    | some encryption =>
        pure (value.map (fun page => encryption.decrypt vfs.runtime page name index))
    | none => pure value
  else
    vfs.storeCall .get name (fun state => .view state.currentView)
      (fun state => ((state.stores (.view state.currentView)).get ⟨name, index⟩, state))

def unpack : Option Buffer → VfsTask (Option Buffer)
  | some value =>
      if vfs.compressed then do
        let page ← vfs.inflate value
        pure (some page)
      else pure (some value)
  | none => pure none

def get (name : FileName) (index : Nat) : VfsTask (Option Buffer) := do
  let value ← vfs.fetch name index
  vfs.unpack value

def last (name : FileName) : VfsTask Int := do
  let entry ← vfs.storeCall .peek name (vfs.storeOf name)
    (fun state => ((state.stores (vfs.storeOf name state)).peek name, state))
  match entry with
  | some key => pure key.index
  | none => pure (-1)

/-- `this._files.get(name) ?? view.write()`, registered under the name. -/
def openBatch (name : FileName) : VfsTask Batch :=
  .atomic fun state =>
    match state.files.lookup name with
    | some batch => (.ok batch, state)
    | none =>
        let batch : Batch := { source := vfs.storeOf name state, serial := state.serial, ops := [] }
        (.ok batch, { state.record (.batch name batch.source state.view) with
          files := state.files.insert name batch
          serial := state.serial + 1 })

/-- `crypto_stream_xor` writes its result over its argument. -/
def encryptPage (name : FileName) (index : Nat) (value : PageBuffer) : CallTask PageBuffer :=
  match vfs.encryption with
  | some encryption =>
      if name ≠ vfs.name then
        .atomic fun state =>
          let page := encryption.encrypt vfs.runtime (value.bytes state.2) name index
          match value with
          | .own _ => (.ok (.own page), state)
          | .lent start => (.ok (.lent start), (state.1, state.2.splice start page))
      else pure value
  | none => pure value

def packPage (value : PageBuffer) : CallTask PageBuffer :=
  if vfs.compressed then do
    let page ← Task.read fun state => value.bytes state.2
    let packed ← (vfs.deflate page).onShared
    pure (.own packed)
  else pure value

def tryPut (name : FileName) (index : Nat) (value : PageBuffer) : CallTask Unit := do
  let batch ← (vfs.openBatch name).onShared
  let value ← vfs.packPage value
  let value ← vfs.encryptPage name index value
  -- The store is taken to copy the bytes at the call.  A lent page goes to it as a view of
  -- the buffer of SQLite, which SQLite has back when the write is answered.
  let page ← Task.read fun state => value.bytes state.2
  (vfs.storeCall .put name (fun _ => batch.source)
    (fun state => ((), state.addTo name batch (.put ⟨name, index⟩ page)))).onShared

def tryDelete (name : FileName) (index : Nat) : VfsTask Unit := do
  let batch ← vfs.openBatch name
  vfs.storeCall .delete name (fun _ => batch.source)
    (fun state => ((), state.addTo name batch (.delete ⟨name, index⟩)))

def flush (name : FileName) : VfsTask Unit := do
  let batch ← Task.atomic fun state : VfsState =>
    match state.files.lookup name with
    | none => (.error (.error (JsError.internal ("No batch for " ++ name))), state)
    | some batch => (.ok batch, state.unregister name)
  vfs.storeCall .flush name (fun _ => batch.source) (fun state => ((), state.commit batch))

/-- `_write`: the view that main-file pages are read from and written to. -/
def write (view : Option Nat) : VfsTask Unit :=
  .atomic fun state =>
    let recorded := state.record (.switch view)
    if state.files.keys.card ≠ 0 then
      (.error (.error (JsError.internal
        ("Unflushed batches: " ++ toString state.files.keys.card))), recorded)
    else (.ok (), { recorded with view := view })

abbrev CallbackArgs := List JsValue

/-- `try { ...; callback(null, ...) } catch (err) { callback(err) }`. -/
def callback {σ : Type} (body : Task σ JsValue (List JsValue)) : Task σ JsValue CallbackArgs :=
  tryCatch (do let values ← body; pure (JsValue.null :: values))
    (fun thrown => pure [thrown])

def xDelete (name : FileName) : VfsTask CallbackArgs :=
  callback do
    let index ← vfs.last name
    (if index ≥ 0 then Task.forEach (List.range (index + 1).toNat) (vfs.tryDelete name)
      else pure ())
    vfs.flush name
    pure []

def xAccess (name : FileName) : VfsTask CallbackArgs :=
  callback do
    let index ← vfs.last name
    pure [.bool (index ≥ 0)]

/-- The body of the loop of `_xRead`, for a range of `length` bytes. -/
def readPage (name : FileName) (length offset index : Nat) : CallTask Unit :=
  let pageStart := index * pageSize
  let pageEnd := pageStart + pageSize
  let readStart := max offset pageStart
  let readEnd := min (offset + length) pageEnd
  if readStart < readEnd then do
    let found ← (vfs.get name index).onShared
    let page := found.getD (Buffer.alloc pageSize)
    let sliceStart := readStart - pageStart
    let sliceLength := readEnd - readStart
    let dataOffset := readStart - offset
    Task.modify fun state =>
      (state.1, page.copy state.2 dataOffset sliceStart (sliceStart + sliceLength))
  else pure ()

/-- `Buffer.from(buffer)` is a view: the pages are copied into the lent bytes. -/
def xRead (name : FileName) (offset : Nat) : CallTask CallbackArgs :=
  callback do
    let length ← Task.read fun state => state.2.length
    Task.forEach (Paging.pagesTouched pageSize offset length) (vfs.readPage name length offset)
    pure []

/-- The body of the loop of `_xWrite`. -/
def writePage (name : FileName) (length offset index : Nat) : CallTask Unit :=
  let pageStart := index * pageSize
  let pageEnd := pageStart + pageSize
  let writeStart := max offset pageStart
  let writeEnd := min (offset + length) pageEnd
  let writeLength := writeEnd - writeStart
  let pageOffset := writeStart - pageStart
  let dataStart := writeStart - offset
  if writeLength = pageSize then
    vfs.tryPut name index (.lent dataStart)
  else do
    let found ← (vfs.get name index).onShared
    let page := found.getD (Buffer.alloc pageSize)
    let patch ← Task.read fun state => state.2.subarray dataStart (dataStart + writeLength)
    vfs.tryPut name index (.own (patch.copy page pageOffset 0 patch.length))

def xWrite (name : FileName) (offset : Nat) : CallTask CallbackArgs :=
  callback do
    let length ← Task.read fun state => state.2.length
    Task.forEach (Paging.pagesTouched pageSize offset length) (vfs.writePage name length offset)
    pure []

/-- Growing appends zero pages.  Shrinking starts its loop at `lastIndex`, a name
that nothing declares, so it ends there with a `ReferenceError` and the code after
it is never reached. -/
def xTruncate (name : FileName) (size : Nat) : CallTask CallbackArgs :=
  callback do
    let index ← (vfs.last name).onShared
    let current := (index + 1) * pageSize
    let targetIndex : Int := ((size : Int) - 1) / pageSize
    (if size > current then
        Task.forEach (List.range' (index + 1).toNat (targetIndex - index).toNat)
          fun page => vfs.tryPut name page (.own (Buffer.alloc pageSize))
      else if size < current then throw (.error (JsError.notDefined "lastIndex"))
      else pure ())
    pure []

def xSync (name : FileName) : VfsTask CallbackArgs :=
  callback do
    vfs.flush name
    pure []

def xSize (name : FileName) : VfsTask CallbackArgs :=
  callback do
    let index ← vfs.last name
    pure [.number ((index + 1) * pageSize)]

end ParaVFS

def Runtime.copying : Runtime :=
  { deflate := fun _ buffer => buffer
    inflate := some
    generichash := id
    streamXor := fun _ _ message => message
    uint64 := fun _ => Buffer.alloc 8
    fault := fun _ => false
    rejection := fun _ => JsError.internal ""
    zlibFault := fun _ => false }

/-- Codecs that change all that they are given: a mark before deflated bytes, and a key stream
of ones. -/
def Runtime.flipping : Runtime :=
  { Runtime.copying with
    deflate := fun _ buffer => 120 :: buffer
    inflate := fun buffer => if buffer.head? = some 120 then some buffer.tail else none
    streamXor := fun _ _ message => message.map (255 - ·) }

def ParaVFS.sample : ParaVFS :=
  { runtime := .copying, name := "paraql.db", encryption := none, compressed := false,
    compressionLevel := 6 }

/-- A call of the native side.  `xRead` lends its buffer to be filled, `xWrite` to
be read. -/
inductive VfsCall where
  | xDelete (name : FileName)
  | xAccess (name : FileName)
  | xRead (name : FileName) (buffer : Buffer) (offset : Nat)
  | xWrite (name : FileName) (buffer : Buffer) (offset : Nat)
  | xTruncate (name : FileName) (size : Nat)
  | xSync (name : FileName)
  | xSize (name : FileName)
  deriving DecidableEq, Repr

def VfsCall.file : VfsCall → FileName
  | .xDelete name => name
  | .xAccess name => name
  | .xRead name _ _ => name
  | .xWrite name _ _ => name
  | .xTruncate name _ => name
  | .xSync name => name
  | .xSize name => name

structure VfsReply where
  args : ParaVFS.CallbackArgs
  buffer : Buffer
  deriving DecidableEq, Repr

namespace ParaVFS

variable (vfs : ParaVFS)

def withBuffer (task : CallTask CallbackArgs) (buffer : Buffer) : VfsTask VfsReply := do
  let (args, lent) ← task.withLocal buffer
  pure { args := args, buffer := lent }

def withoutBuffer (task : VfsTask CallbackArgs) : VfsTask VfsReply := do
  let args ← task
  pure { args := args, buffer := [] }

def perform : VfsCall → VfsTask VfsReply
  | .xDelete name => withoutBuffer (vfs.xDelete name)
  | .xAccess name => withoutBuffer (vfs.xAccess name)
  | .xRead name buffer offset => withBuffer (vfs.xRead name offset) buffer
  | .xWrite name buffer offset => withBuffer (vfs.xWrite name offset) buffer
  | .xTruncate name size => withBuffer (vfs.xTruncate name size) []
  | .xSync name => withoutBuffer (vfs.xSync name)
  | .xSize name => withoutBuffer (vfs.xSize name)

end ParaVFS
end ParaQL
