/-
The VFS of lib/vfs.js refines the page files: while no call out of it fails and
the codecs are inverse to each other, every operation gives the outcome of the
abstract one and leaves stores and batches that encode the abstract files.
-/

import ParaQL.PageFiles
import ParaQL.VfsSteps

namespace ParaQL

open Async Bytes

/-- What the code relies on: `inflate` inverts `deflate` and neither fails, and the
stream cipher keeps the length of a message and is its own inverse. -/
structure Runtime.LawfulCodecs (runtime : Runtime) : Prop where
  noZlibFault : ∀ call, runtime.zlibFault call = false
  inflate_deflate : ∀ level buffer, runtime.inflate (runtime.deflate level buffer) = some buffer
  streamXor_streamXor : ∀ nonce key message,
    runtime.streamXor nonce key (runtime.streamXor nonce key message) = message
  length_streamXor : ∀ nonce key message,
    (runtime.streamXor nonce key message).length = message.length

/-- No call into a store fails either. -/
structure Runtime.Lawful (runtime : Runtime) : Prop extends runtime.LawfulCodecs where
  noFault : ∀ call, runtime.fault call = false

theorem Runtime.copying_lawful : Runtime.copying.Lawful :=
  { noZlibFault := fun _ => rfl
    inflate_deflate := fun _ _ => rfl
    streamXor_streamXor := fun _ _ _ => rfl
    length_streamXor := fun _ _ _ => rfl
    noFault := fun _ => rfl }

theorem Runtime.flipping_lawful : Runtime.flipping.Lawful :=
  { noZlibFault := fun _ => rfl
    inflate_deflate := fun _ _ => rfl
    streamXor_streamXor := fun _ _ message => by
      have twice (byte : UInt8) : 255 - (255 - byte) = byte := by grind
      simp only [Runtime.flipping, List.map_map, Function.comp_def, twice, List.map_id']
    length_streamXor := fun _ _ message => List.length_map _
    noFault := fun _ => rfl }

namespace ParaVFS

variable (vfs : ParaVFS)

def pack (page : Buffer) : Buffer :=
  if vfs.compressed then vfs.runtime.deflate vfs.compressionLevel page else page

def encodePage (name : FileName) (index : Nat) (page : Buffer) : Buffer :=
  match vfs.pageEncryption name with
  | some encryption => encryption.encrypt vfs.runtime (vfs.pack page) name index
  | none => vfs.pack page

def encodeOp (name : FileName) : PageOp → BatchOp
  | (index, some page) => .put ⟨name, index⟩ (vfs.encodePage name index page)
  | (index, none) => .delete ⟨name, index⟩

def encodePages (name : FileName) (stored pages : Pages) : Prop :=
  ∀ index, stored.lookup index = (pages.lookup index).map (vfs.encodePage name index)

def encodesBatch (state : VfsState) (name : FileName) : Option (List PageOp) → Prop
  | none => state.files.lookup name = none
  | some ops => ∃ batch, state.files.lookup name = some batch ∧
      batch.source = vfs.storeOf name state ∧ batch.ops = ops.map (vfs.encodeOp name)

structure Encodes (state : VfsState) (files : PageFiles) : Prop where
  stored : ∀ name, vfs.encodePages name (state.stores (vfs.storeOf name state) name)
    (files name).committed
  pending : ∀ name, vfs.encodesBatch state name (files name).pending

theorem encodes_empty (view : Option Nat) :
    vfs.Encodes { VfsState.initial (fun _ _ => ∅) with view := view }
      (fun _ => { committed := ∅, pending := none }) :=
  ⟨fun _ _ => rfl, fun _ => rfl⟩

variable {vfs : ParaVFS} {state : VfsState} {files : PageFiles}

theorem Encodes.record (encodes : vfs.Encodes state files) (access : Access) :
    vfs.Encodes (state.record access) files :=
  ⟨encodes.stored, encodes.pending⟩

structure NoStoreCall (before after : VfsState) : Prop where
  view : after.view = before.view
  storeCalls : after.storeCalls = before.storeCalls

private theorem noStoreCall_zlib (state : VfsState) (failed : Bool) :
    NoStoreCall state (state.record (.zlib failed)) :=
  ⟨rfl, rfl⟩

theorem NoStoreCall.trans {first second third : VfsState} (before : NoStoreCall first second)
    (after : NoStoreCall second third) : NoStoreCall first third :=
  ⟨after.view.trans before.view, after.storeCalls.trans before.storeCalls⟩

theorem run_storeCall_eq {α : Type} (vfs : ParaVFS) (op : StoreOp) (name : FileName)
    (target : VfsState → StoreRef) (action : VfsState → α × VfsState) (state : VfsState) :
    ∃ failed, failed = vfs.runtime.fault state.storeCalls ∧
      (vfs.storeCall op name target action).run state =
        let recorded := state.record (.store op name (target state) state.view failed)
        if failed then (.error (.error (vfs.runtime.rejection state.storeCalls)), recorded)
        else (.ok (action recorded).1, (action recorded).2) :=
  ⟨_, rfl, rfl⟩

theorem Encodes.last (encodes : vfs.Encodes state files) (name : FileName) :
    (state.stores (vfs.storeOf name state) name).last = (files name).committed.last := by
  have sameIndex : (state.stores (vfs.storeOf name state) name).lastIndex =
      (files name).committed.lastIndex := by
    apply Pages.lastIndex_congr
    intro index
    rw [encodes.stored name index, Option.isSome_map]
  rw [Pages.last, Pages.last, sameIndex]

theorem storeOf_congr {before after : VfsState} (sameView : after.view = before.view)
    (name : FileName) : vfs.storeOf name after = vfs.storeOf name before := by
  simp only [storeOf, VfsState.currentView, sameView]

theorem encodesBatch_congr {before after : VfsState} {name : FileName}
    {pending : Option (List PageOp)} (sameView : after.view = before.view)
    (sameBatch : after.files.lookup name = before.files.lookup name)
    (encodes : vfs.encodesBatch before name pending) : vfs.encodesBatch after name pending := by
  cases pending with
  | none => exact sameBatch.trans encodes
  | some ops =>
      obtain ⟨batch, registered, source, encoded⟩ := encodes
      exact ⟨batch, sameBatch.trans registered,
        source.trans (storeOf_congr sameView name).symm, encoded⟩

/-- An update that stays within one file needs to be justified for that file only. -/
theorem Encodes.update (encodes : vfs.Encodes state files) {after : VfsState} (name : FileName)
    (file : PageFile) (sameView : after.view = state.view)
    (otherStores : ∀ other, other ≠ name → after.stores (vfs.storeOf other state) other =
      state.stores (vfs.storeOf other state) other)
    (otherFiles : ∀ other, other ≠ name → after.files.lookup other = state.files.lookup other)
    (stored : vfs.encodePages name (after.stores (vfs.storeOf name state) name) file.committed)
    (pending : vfs.encodesBatch after name file.pending) :
    vfs.Encodes after (Function.update files name file) := by
  constructor
  · intro other
    rw [storeOf_congr sameView]
    by_cases same : other = name
    · subst same
      rw [Function.update_self]
      exact stored
    · rw [Function.update_of_ne same, otherStores other same]
      exact encodes.stored other
  · intro other
    by_cases same : other = name
    · subst same
      rw [Function.update_self]
      exact pending
    · rw [Function.update_of_ne same]
      exact encodesBatch_congr sameView (otherFiles other same) (encodes.pending other)

def opened (file : PageFile) : PageFile := { file with pending := some (file.pending.getD []) }

theorem run_openBatch (name : FileName) (encodes : vfs.Encodes state files) :
    ∃ batch after, (vfs.openBatch name).run state = (.ok batch, after) ∧
      after.files.lookup name = some batch ∧ NoStoreCall state after ∧
      vfs.Encodes after (Function.update files name (opened (files name))) := by
  have pending := encodes.pending name
  cases open_ : (files name).pending with
  | some ops =>
      rw [open_] at pending
      obtain ⟨batch, registered, _source, _ops⟩ := pending
      refine ⟨batch, state, ?_, registered, ⟨rfl, rfl⟩, ?_⟩
      · simp only [openBatch, Task.run_atomic, registered]
      · have same : opened (files name) = files name := by
          rw [opened, open_, Option.getD_some, ← open_]
        rw [same, Function.update_eq_self]
        exact encodes
  | none =>
      rw [open_] at pending
      let batch : Batch := { source := vfs.storeOf name state, serial := state.serial, ops := [] }
      refine ⟨batch, { state.record (.batch name batch.source state.view) with
        files := state.files.insert name batch
        serial := state.serial + 1 }, ?_, ?_, ⟨rfl, rfl⟩, ?_⟩
      · have closed : state.files.lookup name = none := pending
        simp only [openBatch, Task.run_atomic, closed, batch]
      · exact Finmap.lookup_insert _
      · refine encodes.update name _ rfl (fun _ _ => rfl)
          (fun _ different => Finmap.lookup_insert_of_ne _ different) (encodes.stored name) ?_
        rw [opened, open_]
        exact ⟨batch, Finmap.lookup_insert _, rfl, rfl⟩

theorem Encodes.addTo (encodes : vfs.Encodes state files) (name : FileName) (op : PageOp)
    (batch : Batch) (registered : state.files.lookup name = some batch) :
    vfs.Encodes (state.addTo name batch (vfs.encodeOp name op))
      (Function.update files name ((files name).add op)) := by
  have added : state.addTo name batch (vfs.encodeOp name op) =
      { state with files :=
          state.files.insert name { batch with ops := batch.ops ++ [vfs.encodeOp name op] } } := by
    simp only [VfsState.addTo, registered, if_true]
  have before := encodes.pending name
  rw [added]
  refine encodes.update name _ rfl (fun _ _ => rfl)
    (fun _ different => Finmap.lookup_insert_of_ne _ different) (encodes.stored name) ?_
  cases open_ : (files name).pending with
  | none =>
      rw [open_] at before
      exact absurd (registered.symm.trans before) (by simp)
  | some ops =>
      rw [open_] at before
      obtain ⟨found, lookedUp, source, encoded⟩ := before
      have same : found = batch := Option.some.inj (lookedUp.symm.trans registered)
      subst same
      rw [PageFile.add, open_]
      refine ⟨_, Finmap.lookup_insert _, source, ?_⟩
      rw [encoded, Option.getD_some, List.map_append, List.map_singleton]

theorem Store.commit_other (store : Store) (ops : List PageOp) (name other : FileName)
    (different : other ≠ name) :
    store.commit (ops.map (vfs.encodeOp name)) other = store other := by
  induction ops generalizing store with
  | nil => rfl
  | cons op ops ih =>
      rw [List.map_cons]
      change Store.commit (store.apply (vfs.encodeOp name op)) _ other = _
      rw [ih]
      have sameName : (vfs.encodeOp name op).key.name = name := by
        obtain ⟨index, value⟩ := op
        cases value <;> rfl
      rw [Store.apply, sameName, Function.update_of_ne different]

theorem encodePages_commit (store : Store) (pages : Pages) (ops : List PageOp) (name : FileName)
    (encodes : vfs.encodePages name (store name) pages) :
    vfs.encodePages name (store.commit (ops.map (vfs.encodeOp name)) name) (pages.commit ops) := by
  induction ops generalizing store pages with
  | nil => exact encodes
  | cons op ops ih =>
      rw [List.map_cons]
      apply ih (store.apply (vfs.encodeOp name op)) (pages.apply op.1 op.2)
      intro index
      obtain ⟨target, value⟩ := op
      have applied : store.apply (vfs.encodeOp name (target, value)) name =
          (store name).apply target (value.map (vfs.encodePage name target)) := by
        cases value <;> exact Function.update_self _ _ _
      rw [applied, Pages.lookup_apply, Pages.lookup_apply]
      by_cases same : index = target
      · subst same
        rw [if_pos rfl, if_pos rfl]
      · rw [if_neg same, if_neg same]
        exact encodes index

private theorem update_addAll_add (files : PageFiles) (name : FileName) (ops : List PageOp)
    (op : PageOp) :
    Function.update (Function.update files name ((files name).addAll ops)) name
        ((Function.update files name ((files name).addAll ops) name).add op) =
      Function.update files name ((files name).addAll (ops ++ [op])) := by
  rw [Function.update_self, Function.update_idem, PageFile.addAll_append]
  rfl

theorem run_flush_closed (name : FileName) (closed : state.files.lookup name = none) :
    (vfs.flush name).run state = (.error (PageFile.noBatch name), state) := by
  simp only [flush, Task.run_bind, Task.run_atomic, closed, Task.andThen_error,
    PageFile.noBatch]

theorem run_flush_open (name : FileName) {batch : Batch}
    (registered : state.files.lookup name = some batch) :
    (vfs.flush name).run state = (vfs.storeCall .flush name (fun _ => batch.source)
      (fun current => ((), current.commit batch))).run (state.unregister name) := by
  simp only [flush, Task.run_bind, Task.run_atomic, registered, Task.andThen_ok]

theorem Encodes.unregister (encodes : vfs.Encodes state files) (name : FileName) :
    vfs.Encodes (state.unregister name)
      (Function.update files name { files name with pending := none }) :=
  encodes.update name _ rfl (fun _ _ => rfl)
    (fun _ different => Finmap.lookup_erase_ne different) (encodes.stored name)
    (Finmap.lookup_erase _ _)

theorem Encodes.flush {name : FileName} {batch : Batch} {ops : List PageOp}
    (encodes : vfs.Encodes state files) (access : Access)
    (source : batch.source = vfs.storeOf name state)
    (encoded : batch.ops = ops.map (vfs.encodeOp name)) :
    vfs.Encodes (((state.unregister name).record access).commit batch)
      (Function.update files name
        { committed := (files name).committed.commit ops, pending := none }) := by
  refine encodes.update name _ rfl ?_
    (fun _ different => Finmap.lookup_erase_ne different) ?_ (Finmap.lookup_erase _ _)
  · intro other different
    change Function.update state.stores batch.source _ (vfs.storeOf other state) other = _
    by_cases sameStore : vfs.storeOf other state = batch.source
    · rw [sameStore, Function.update_self, encoded, Store.commit_other _ _ _ _ different]
      rfl
    · rw [Function.update_of_ne sameStore]
  · change vfs.encodePages name (Function.update state.stores batch.source
      ((state.stores batch.source).commit batch.ops) (vfs.storeOf name state) name) _
    rw [← source, Function.update_self, encoded]
    exact encodePages_commit _ _ _ _ (source ▸ encodes.stored name)

def Borrows (value : PageBuffer) (position : Nat) : Prop :=
  ∃ start, value = .lent start ∧ start ≤ position ∧ position < start + pageSize

def Intact (offset : Nat) (handled : List Nat) (data lent : Buffer) : Prop :=
  lent.length = data.length ∧ ∀ position, position < data.length →
    (offset + position) / pageSize ∉ handled → lent.byteAt position = data.byteAt position

theorem Intact.subarray {offset index : Nat} {handled : List Nat} {data lent : Buffer}
    (intact : Intact offset handled data lent) (fresh : index ∉ handled) (start stop : Nat)
    (within : stop ≤ data.length)
    (onPage : ∀ position, start ≤ position → position < stop →
      (offset + position) / pageSize = index) :
    lent.subarray start stop = data.subarray start stop := by
  apply Buffer.subarray_congr start stop intact.1
  intro position lower upper
  apply intact.2 position (by omega)
  rw [onPage position lower upper]
  exact fresh

structure Untouched (value : PageBuffer) (before after : Buffer) : Prop where
  sameLength : after.length = before.length
  sameBytes : ∀ position, ¬Borrows value position →
    after.byteAt position = before.byteAt position

theorem Intact.step {offset index : Nat} {handled : List Nat} {data lent lentAfter : Buffer}
    {value : PageBuffer} (intact : Intact offset handled data lent)
    (untouched : Untouched value lent lentAfter)
    (onPage : ∀ position, Borrows value position → (offset + position) / pageSize = index) :
    Intact offset (handled ++ [index]) data lentAfter := by
  refine ⟨untouched.sameLength.trans intact.1, ?_⟩
  intro position inside unhandled
  simp only [List.mem_append, List.mem_singleton, not_or] at unhandled
  rw [untouched.sameBytes position (fun borrows => unhandled.2 (onPage position borrows))]
  exact intact.2 position inside unhandled.1

/-! ### Steps that call no store -/

section Codecs

variable (lawful : vfs.runtime.LawfulCodecs)

include lawful

theorem run_deflate (buffer : Buffer) (state : VfsState) :
    (vfs.deflate buffer).run state =
      (.ok (vfs.runtime.deflate vfs.compressionLevel buffer), state.record (.zlib false)) := by
  simp only [deflate, attempt, Task.run_atomic, lawful.noZlibFault, Bool.false_eq_true, if_false]

theorem run_inflate_deflate (level : Nat) (buffer : Buffer) (state : VfsState) :
    (vfs.inflate (vfs.runtime.deflate level buffer)).run state =
      (.ok buffer, state.record (.zlib false)) := by
  simp only [inflate, attempt, Task.run_atomic, lawful.noZlibFault, lawful.inflate_deflate,
    Option.isNone_some, Bool.or_self, Bool.false_eq_true, if_false, Option.getD_some]

theorem run_unpack_pack (value : Option Buffer) (encodes : vfs.Encodes state files) :
    ∃ after, (vfs.unpack (value.map vfs.pack)).run state = (.ok value, after) ∧
      NoStoreCall state after ∧ vfs.Encodes after files := by
  cases value with
  | none => exact ⟨state, rfl, ⟨rfl, rfl⟩, encodes⟩
  | some page =>
      by_cases compressed : vfs.compressed = true
      · refine ⟨_, ?_, noStoreCall_zlib state false, encodes.record _⟩
        simp only [unpack, pack, Option.map_some, compressed, if_true, Task.run_bind,
          run_inflate_deflate lawful, Task.andThen_ok, Task.run_pure]
      · refine ⟨state, ?_, ⟨rfl, rfl⟩, encodes⟩
        simp only [unpack, pack, Option.map_some, if_neg compressed, Task.run_pure]

theorem decipher_stored (name : FileName) (index : Nat) (encodes : vfs.Encodes state files) :
    vfs.decipher name index ((state.stores (vfs.storeOf name state)).get ⟨name, index⟩) =
      ((files name).committed.lookup index).map vfs.pack := by
  have stored := encodes.stored name index
  unfold Store.get decipher
  simp only
  rw [stored]
  cases encrypted : vfs.pageEncryption name with
  | none =>
      have plain : vfs.encodePage name index = vfs.pack := by
        funext page
        simp only [encodePage, encrypted]
      rw [plain]
  | some encryption =>
      simp only [Option.map_map, Function.comp_def, encodePage, encrypted,
        Encryption.encrypt, Encryption.decrypt, lawful.streamXor_streamXor]

private theorem run_packPage (value : PageBuffer) (lent : Buffer)
    (encodes : vfs.Encodes state files) :
    ∃ after packed, (vfs.packPage value).run (state, lent) = (.ok packed, (after, lent)) ∧
      packed.bytes lent = vfs.pack (value.bytes lent) ∧
      (packed = value ∨ ∃ page, packed = .own page) ∧
      after.files = state.files ∧ NoStoreCall state after ∧ vfs.Encodes after files := by
  by_cases compressed : vfs.compressed = true
  · refine ⟨state.record (.zlib false), .own (vfs.pack (value.bytes lent)), ?_, rfl,
      Or.inr ⟨_, rfl⟩, rfl, noStoreCall_zlib state false, encodes.record _⟩
    simp only [packPage, pack, compressed, if_true, Task.run_bind, Task.run_read,
      Task.andThen_ok, Task.run_onShared, run_deflate lawful, Task.run_pure]
  · refine ⟨state, value, ?_, ?_, Or.inl rfl, rfl, ⟨rfl, rfl⟩, encodes⟩
    · simp only [packPage, if_neg compressed, Task.run_pure]
    · simp only [pack, if_neg compressed]

/-- Encryption in place changes the lent bytes at most where the page lies. -/
theorem run_encryptPage (name : FileName) (index : Nat) (value : PageBuffer) (lent : Buffer)
    (state : VfsState) (fits : ∀ start, value = .lent start → start + pageSize ≤ lent.length) :
    ∃ encrypted lentAfter,
      (vfs.encryptPage name index value).run (state, lent) = (.ok encrypted, (state, lentAfter)) ∧
      encrypted.bytes lentAfter = (match vfs.pageEncryption name with
        | some encryption => encryption.encrypt vfs.runtime (value.bytes lent) name index
        | none => value.bytes lent) ∧
      Untouched value lent lentAfter := by
  unfold encryptPage pageEncryption
  by_cases tmp : name ≠ vfs.name
  · cases vfs.encryption with
    | none =>
        refine ⟨value, lent, rfl, ?_, rfl, fun _ _ => rfl⟩
        rw [if_pos tmp]
    | some encryption =>
        simp only [if_pos tmp]
        cases value with
        | own page => exact ⟨_, lent, rfl, rfl, rfl, fun _ _ => rfl⟩
        | lent start =>
            have room := fits start rfl
            have pageLength : (encryption.encrypt vfs.runtime
                (lent.subarray start (start + pageSize)) name index).length = pageSize := by
              unfold Encryption.encrypt
              rw [lawful.length_streamXor, Buffer.length_subarray]
              omega
            refine ⟨.lent start, _, rfl, ?_, Buffer.length_splice _ _ _, ?_⟩
            · apply Buffer.ext_byteAt
              · simp only [PageBuffer.bytes, Buffer.length_subarray, Buffer.length_splice,
                  pageLength]
                omega
              · intro position inside
                simp only [PageBuffer.bytes, Buffer.length_subarray, Buffer.length_splice]
                  at inside
                simp only [PageBuffer.bytes, Buffer.byteAt_subarray, Buffer.byteAt_splice,
                  pageLength]
                rw [if_pos (by omega), if_pos (by omega), Nat.add_sub_cancel_left]
            · intro position outside
              rw [Buffer.byteAt_splice, if_neg]
              rintro ⟨lower, upper, _⟩
              simp only [PageBuffer.bytes, pageLength] at upper
              exact outside ⟨start, rfl, lower, upper⟩
  · refine ⟨value, lent, ?_, ?_, rfl, fun _ _ => rfl⟩
    · cases vfs.encryption with
      | none => rfl
      | some encryption => simp only [if_neg tmp, Task.run_pure]
    · simp only [if_neg tmp]

theorem run_tryPut_eq (name : FileName) (index : Nat) (value : PageBuffer) (lent : Buffer)
    (encodes : vfs.Encodes state files)
    (fits : ∀ start, value = .lent start → start + pageSize ≤ lent.length) :
    ∃ batch middle lentAfter,
      (vfs.tryPut name index value).run (state, lent) =
        (vfs.storeCall .put name (fun _ => batch.source) (fun current =>
          ((), current.addTo name batch
            (vfs.encodeOp name (index, some (value.bytes lent)))))).onShared.run
          (middle, lentAfter) ∧
      middle.files.lookup name = some batch ∧ NoStoreCall state middle ∧
      vfs.Encodes middle (Function.update files name (opened (files name))) ∧
      Untouched value lent lentAfter := by
  obtain ⟨batch, opening, ranOpen, registered, quietOpen, encodesOpen⟩ :=
    run_openBatch name encodes
  obtain ⟨packing, packed, ranPack, packedBytes, kind, sameFiles, quietPack, encodesPack⟩ :=
    run_packPage lawful value lent encodesOpen
  have packedFits : ∀ start, packed = .lent start → start + pageSize ≤ lent.length := by
    intro start isLent
    rcases kind with same | ⟨page, isOwn⟩
    · exact fits start (same.symm.trans isLent)
    · rw [isOwn] at isLent
      cases isLent
  obtain ⟨encrypted, lentAfter, ranEncrypt, encryptedBytes, untouched⟩ :=
    run_encryptPage lawful name index packed lent packing packedFits
  have encoded : encrypted.bytes lentAfter = vfs.encodePage name index (value.bytes lent) := by
    rw [encryptedBytes, packedBytes]
    rfl
  refine ⟨batch, packing, lentAfter, ?_, ?_, quietOpen.trans quietPack, encodesPack,
    untouched.sameLength, ?_⟩
  · simp only [tryPut, Task.run_bind, Task.run_onShared, ranOpen, Task.andThen_ok, ranPack,
      ranEncrypt, Task.run_read, encoded]
    rfl
  · rw [sameFiles]
    exact registered
  · intro position outside
    apply untouched.sameBytes
    rintro ⟨start, isLent, lower, upper⟩
    rcases kind with same | ⟨page, isOwn⟩
    · exact outside ⟨start, same.symm.trans isLent, lower, upper⟩
    · rw [isOwn] at isLent
      cases isLent

end Codecs

theorem Encodes.put {name : FileName}
    (encodes : vfs.Encodes state (Function.update files name (opened (files name))))
    (op : PageOp) (batch : Batch) (registered : state.files.lookup name = some batch) :
    vfs.Encodes (state.addTo name batch (vfs.encodeOp name op))
      (Function.update files name ((files name).add op)) := by
  have added := encodes.addTo name op batch registered
  rw [Function.update_self, Function.update_idem] at added
  exact added

section Lawful

variable (lawful : vfs.runtime.Lawful)

include lawful

private theorem run_storeCall {α : Type} (op : StoreOp) (name : FileName)
    (target : VfsState → StoreRef)
    (action : VfsState → α × VfsState) (state : VfsState) :
    ∃ access, (vfs.storeCall op name target action).run state =
      (.ok (action (state.record access)).1, (action (state.record access)).2) := by
  refine ⟨.store op name (target state) state.view false, ?_⟩
  simp only [storeCall, attempt, Task.run_atomic, lawful.noFault, Bool.false_eq_true, if_false]

private theorem run_get (name : FileName) (index : Nat) (encodes : vfs.Encodes state files) :
    ∃ after, (vfs.get name index).run state =
        (.ok ((files name).committed.lookup index), after) ∧ vfs.Encodes after files := by
  obtain ⟨access, ran⟩ := run_storeCall lawful .get name (vfs.storeOf name)
    (fun state => (vfs.decipher name index
      ((state.stores (vfs.storeOf name state)).get ⟨name, index⟩), state)) state
  have fetched := decipher_stored lawful.toLawfulCodecs name index (encodes.record access)
  obtain ⟨after, ranUnpack, _quiet, kept⟩ := run_unpack_pack lawful.toLawfulCodecs
    ((files name).committed.lookup index) (encodes.record access)
  refine ⟨after, ?_, kept⟩
  rw [get, fetch_eq, Task.run_bind, ran, Task.andThen_ok, fetched]
  exact ranUnpack

theorem run_last (name : FileName) (encodes : vfs.Encodes state files) :
    ∃ after, (vfs.last name).run state = (.ok (files name).committed.last, after) ∧
      vfs.Encodes after files := by
  obtain ⟨access, ran⟩ := run_storeCall lawful .peek name (vfs.storeOf name)
    (fun state => ((state.stores (vfs.storeOf name state) name).last, state)) state
  refine ⟨state.record access, ?_, encodes.record access⟩
  rw [last_eq, ran, (encodes.record access).last]

private theorem run_tryPut (name : FileName) (index : Nat) (value : PageBuffer) (lent : Buffer)
    (encodes : vfs.Encodes state files)
    (fits : ∀ start, value = .lent start → start + pageSize ≤ lent.length) :
    ∃ after lentAfter,
      (vfs.tryPut name index value).run (state, lent) = (.ok (), (after, lentAfter)) ∧
      vfs.Encodes after (Function.update files name
        ((files name).add (index, some (value.bytes lent)))) ∧
      Untouched value lent lentAfter := by
  obtain ⟨batch, middle, lentAfter, ran, registered, _quiet, encodesOpen, untouched⟩ :=
    run_tryPut_eq lawful.toLawfulCodecs name index value lent encodes fits
  obtain ⟨access, ranPut⟩ := run_storeCall lawful .put name (fun _ => batch.source)
    (fun current => ((), current.addTo name batch
      (vfs.encodeOp name (index, some (value.bytes lent))))) middle
  refine ⟨_, lentAfter, ?_, (encodesOpen.record access).put _ batch registered, untouched⟩
  rw [ran, Task.run_onShared, ranPut]

private theorem run_tryDelete (name : FileName) (index : Nat) (encodes : vfs.Encodes state files) :
    ∃ after, (vfs.tryDelete name index).run state = (.ok (), after) ∧
      vfs.Encodes after (Function.update files name ((files name).add (index, none))) := by
  obtain ⟨batch, opening, ranOpen, registered, _quiet, encodesOpen⟩ := run_openBatch name encodes
  obtain ⟨access, ranDelete⟩ := run_storeCall lawful .delete name (fun _ => batch.source)
    (fun state => ((), state.addTo name batch (.delete ⟨name, index⟩))) opening
  refine ⟨_, ?_, (encodesOpen.record access).put (index, none) batch registered⟩
  simp only [tryDelete, Task.run_bind, ranOpen, Task.andThen_ok, ranDelete]
  rfl

/-- A flush fails exactly when no batch is open, and then changes nothing. -/
theorem run_flush (name : FileName) (encodes : vfs.Encodes state files) :
    ∃ after, (vfs.flush name).run state = (match (files name).pending with
        | none => .error (PageFile.noBatch name)
        | some _ => .ok (), after) ∧
      vfs.Encodes after (match (files name).pending with
        | none => files
        | some _ => Function.update files name (files name).flushed) := by
  have pending := encodes.pending name
  cases open_ : (files name).pending with
  | none =>
      rw [open_] at pending
      exact ⟨state, run_flush_closed name pending, encodes⟩
  | some ops =>
      rw [open_] at pending
      obtain ⟨batch, registered, source, encoded⟩ := pending
      obtain ⟨access, ran⟩ := run_storeCall lawful .flush name (fun _ => batch.source)
        (fun current => ((), current.commit batch)) (state.unregister name)
      refine ⟨((state.unregister name).record access).commit batch, ?_, ?_⟩
      · rw [run_flush_open name registered, ran]
      · rw [PageFile.flushed, open_, Option.getD_some]
        exact encodes.flush access source encoded

/-! ### Loops over pages -/

private theorem run_readPage (name : FileName) (offset index : Nat) (lent : Buffer)
    (encodes : vfs.Encodes state files) :
    ∃ after, (vfs.readPage name lent.length offset index).run (state, lent) =
        (.ok (), (after, Paging.readPage pageSize offset index
          ((files name).committed.page index) lent)) ∧
      vfs.Encodes after files := by
  unfold readPage Paging.readPage
  by_cases touched : max offset (index * pageSize) <
      min (offset + lent.length) (index * pageSize + pageSize)
  · obtain ⟨after, ran, kept⟩ := run_get lawful name index encodes
    refine ⟨after, ?_, kept⟩
    simp only [if_pos touched, Task.run_bind, Task.run_onShared, ran, Task.andThen_ok,
      Task.run_modify, Pages.page]
  · refine ⟨state, ?_, encodes⟩
    simp only [if_neg touched, Task.run_pure]

theorem run_xRead (name : FileName) (offset : Nat) (buffer : Buffer)
    (encodes : vfs.Encodes state files) :
    ∃ after, (vfs.xRead name offset).run (state, buffer) =
        (.ok [.null], (after, (files name).read buffer offset)) ∧
      vfs.Encodes after files := by
  let page (index : Nat) := (files name).committed.page index
  obtain ⟨⟨after, filled⟩, ran, kept, _sameLength, result⟩ := Task.run_forEach
    (Paging.pagesTouched pageSize offset buffer.length) (vfs.readPage name buffer.length offset)
    (fun handled current => vfs.Encodes current.1 files ∧ current.2.length = buffer.length ∧
      current.2 = handled.foldl
        (fun lent index => Paging.readPage pageSize offset index (page index) lent) buffer)
    (by
      rintro handled index _begins ⟨current, lent⟩ ⟨holds, sameLength, soFar⟩
      obtain ⟨next, ran, kept⟩ := run_readPage lawful name offset index lent holds
      simp only at sameLength
      rw [sameLength] at ran
      refine ⟨_, ran, kept, ?_, ?_⟩
      · simpa only [Paging.length_readPage] using sameLength
      · rw [List.foldl_append, ← soFar]
        rfl)
    (state, buffer) ⟨encodes, rfl, rfl⟩
  refine ⟨after, ?_, kept⟩
  simp only at result
  simp only [xRead, callback, Task.run_tryCatch, Task.run_bind, Task.run_read, Task.andThen_ok,
    ran, Task.run_pure, Task.orElse_ok, result]
  rfl

private theorem run_writePage (name : FileName) (offset index : Nat) (handled : List Nat)
    (data lent : Buffer) (encodes : vfs.Encodes state files)
    (intact : Intact offset handled data lent) (fresh : index ∉ handled)
    (touched : index ∈ Paging.pagesTouched pageSize offset data.length) :
    ∃ after lentAfter, (vfs.writePage name data.length offset index).run (state, lent) =
        (.ok (), (after, lentAfter)) ∧
      vfs.Encodes after (Function.update files name ((files name).add
        (index, some (Paging.patchPage pageSize offset data index
          ((files name).committed.page index))))) ∧
      Intact offset (handled ++ [index]) data lentAfter := by
  rw [Paging.mem_pagesTouched _ _ _ pageSize_pos] at touched
  have positive := pageSize_pos
  unfold writePage Paging.patchPage
  simp only
  generalize startsAt : max offset (index * pageSize) = writeStart
  generalize endsAt : min (offset + data.length) (index * pageSize + pageSize) = writeEnd
  have onPage (position : Nat) (lower : writeStart ≤ offset + position)
      (upper : offset + position < writeEnd) : (offset + position) / pageSize = index :=
    (Paging.page_eq_iff _ _ positive).2 (by omega)
  have sameData := intact.subarray fresh (writeStart - offset)
    (writeStart - offset + (writeEnd - writeStart)) (by omega)
    (fun position lower upper => onPage position (by omega) (by omega))
  by_cases covers : writeEnd - writeStart = pageSize
  · rw [covers] at sameData
    obtain ⟨after, lentAfter, ran, kept, untouched⟩ := run_tryPut lawful name index
      (.lent (writeStart - offset)) lent encodes (by
        intro start isLent
        cases isLent
        rw [intact.1]
        omega)
    rw [if_pos covers, if_pos covers, ← sameData]
    refine ⟨after, lentAfter, ran, kept, intact.step untouched ?_⟩
    intro position borrowed
    rcases borrowed with ⟨start, isLent, lower, upper⟩
    cases isLent
    exact onPage position (by omega) (by omega)
  · obtain ⟨reading, ranGet, keptGet⟩ := run_get lawful name index encodes
    rw [if_neg covers, if_neg covers, ← sameData]
    generalize patched : Buffer.copy _ ((files name).committed.page index) _ _ _ = page
    obtain ⟨after, lentAfter, ran, kept, untouched⟩ := run_tryPut lawful name index
      (.own page) lent keptGet (by intro start isLent; cases isLent)
    refine ⟨after, lentAfter, ?_, kept, intact.step untouched ?_⟩
    · simp only [Task.run_bind, Task.run_onShared, ranGet, Task.andThen_ok, Task.run_read]
      rw [← patched] at ran
      exact ran
    · intro position borrowed
      rcases borrowed with ⟨start, isLent, _, _⟩
      cases isLent

theorem run_xWrite (name : FileName) (offset : Nat) (data : Buffer)
    (encodes : vfs.Encodes state files) :
    ∃ after lentAfter, (vfs.xWrite name offset).run (state, data) =
        (.ok [.null], (after, lentAfter)) ∧
      vfs.Encodes after (Function.update files name
        ((files name).addAll ((files name).writeOps data offset))) := by
  let op (index : Nat) : PageOp := (index, some (Paging.patchPage pageSize offset data index
    ((files name).committed.page index)))
  obtain ⟨⟨after, lentAfter⟩, ran, kept, _intact⟩ := Task.run_forEach
    (Paging.pagesTouched pageSize offset data.length) (vfs.writePage name data.length offset)
    (fun handled current =>
      vfs.Encodes current.1 (Function.update files name
        ((files name).addAll (handled.map op))) ∧
      Intact offset handled data current.2)
    (by
      intro handled index reached ⟨current, lent⟩ ⟨holds, intact⟩
      obtain ⟨fresh, touched⟩ := Paging.next_page reached
      obtain ⟨next, lentNext, ran, kept, intactNext⟩ :=
        run_writePage lawful name offset index handled data lent holds intact fresh touched
      refine ⟨(next, lentNext), ran, ?_, intactNext⟩
      rw [Function.update_self, PageFile.committed_addAll] at kept
      rw [Function.update_idem] at kept
      rw [List.map_append, List.map_singleton, PageFile.addAll_append]
      exact kept)
    (state, data) ⟨by
      rw [List.map_nil, PageFile.addAll_nil, Function.update_eq_self]
      exact encodes, rfl, fun _ _ _ => rfl⟩
  refine ⟨after, lentAfter, ?_, kept⟩
  simp only [xWrite, callback, Task.run_tryCatch, Task.run_bind, Task.run_read, Task.andThen_ok,
    ran, Task.run_pure, Task.orElse_ok]

private theorem run_deletePages (name : FileName) (indices : List Nat)
    (encodes : vfs.Encodes state files) :
    ∃ after, (Task.forEach indices (vfs.tryDelete name)).run state = (.ok (), after) ∧
      vfs.Encodes after (Function.update files name
        ((files name).addAll (indices.map fun index => (index, none)))) := by
  apply Task.run_forEach indices (vfs.tryDelete name)
    (fun handled current => vfs.Encodes current (Function.update files name
      ((files name).addAll (handled.map fun index => (index, none)))))
  · intro handled index _begins current holds
    obtain ⟨next, ran, kept⟩ := run_tryDelete lawful name index holds
    refine ⟨next, ran, ?_⟩
    rw [update_addAll_add] at kept
    rw [List.map_append]
    exact kept
  · rw [List.map_nil, PageFile.addAll_nil, Function.update_eq_self]
    exact encodes

private theorem run_growPages (name : FileName) (indices : List Nat) (lent : Buffer)
    (encodes : vfs.Encodes state files) :
    ∃ after lentAfter, (Task.forEach indices fun page =>
          vfs.tryPut name page (.own (Buffer.alloc pageSize))).run (state, lent) =
        (.ok (), (after, lentAfter)) ∧
      vfs.Encodes after (Function.update files name
        ((files name).addAll (indices.map fun index => (index, some (Buffer.alloc pageSize))))) := by
  obtain ⟨⟨after, lentAfter⟩, ran, kept⟩ := Task.run_forEach indices
    (fun page => vfs.tryPut name page (.own (Buffer.alloc pageSize)))
    (fun handled current => vfs.Encodes current.1 (Function.update files name
      ((files name).addAll (handled.map fun index => (index, some (Buffer.alloc pageSize))))))
    (by
      rintro handled index _begins ⟨current, lent⟩ holds
      obtain ⟨next, lentNext, ran, kept, _untouched⟩ :=
        run_tryPut lawful name index (.own (Buffer.alloc pageSize)) lent holds
          (by intro start isLent; cases isLent)
      refine ⟨(next, lentNext), ran, ?_⟩
      rw [update_addAll_add] at kept
      rw [List.map_append]
      exact kept)
    (state, lent) (by
      rw [List.map_nil, PageFile.addAll_nil, Function.update_eq_self]
      exact encodes)
  exact ⟨after, lentAfter, ran, kept⟩

private theorem run_flush_callback (name : FileName) (encodes : vfs.Encodes state files) :
    ∃ after, (callback do vfs.flush name; pure []).run state =
        (.ok ((files name).flush name).1.args, after) ∧
      vfs.Encodes after (Function.update files name ((files name).flush name).2) := by
  obtain ⟨after, ran, kept⟩ := run_flush lawful name encodes
  refine ⟨after, ?_, ?_⟩
  · simp only [callback, Task.run_tryCatch, Task.run_bind, ran, PageFile.flush]
    cases (files name).pending <;> rfl
  · unfold PageFile.flush
    cases open_ : (files name).pending with
    | none =>
        rw [open_] at kept
        rw [Function.update_eq_self]
        exact kept
    | some ops =>
        rw [open_] at kept
        exact kept

theorem run_xSync (name : FileName) (encodes : vfs.Encodes state files) :
    ∃ after, (vfs.xSync name).run state = (.ok ((files name).flush name).1.args, after) ∧
      vfs.Encodes after (Function.update files name ((files name).flush name).2) :=
  run_flush_callback lawful name encodes

private theorem run_xDelete (name : FileName) (encodes : vfs.Encodes state files) :
    ∃ after, (vfs.xDelete name).run state =
        (.ok (((files name).addAll (files name).deleteOps).flush name).1.args, after) ∧
      vfs.Encodes after (Function.update files name
        (((files name).addAll (files name).deleteOps).flush name).2) := by
  obtain ⟨looked, ranLast, keptLast⟩ := run_last lawful name encodes
  have deleted : ∃ middle, (if (files name).committed.last ≥ 0 then
        Task.forEach (List.range ((files name).committed.last + 1).toNat) (vfs.tryDelete name)
      else pure () : VfsTask Unit).run looked = (.ok (), middle) ∧
      vfs.Encodes middle
        (Function.update files name ((files name).addAll (files name).deleteOps)) := by
    unfold PageFile.deleteOps
    by_cases present : (files name).committed.last ≥ 0
    · rw [if_pos present, if_pos present]
      exact run_deletePages lawful name _ keptLast
    · refine ⟨looked, ?_, ?_⟩
      · rw [if_neg present, Task.run_pure]
      · rw [if_neg present, PageFile.addAll_nil, Function.update_eq_self]
        exact keptLast
  obtain ⟨middle, ranDelete, keptDelete⟩ := deleted
  obtain ⟨after, ranFlush, keptFlush⟩ := run_flush_callback lawful name keptDelete
  rw [Function.update_self] at ranFlush keptFlush
  rw [Function.update_idem] at keptFlush
  refine ⟨after, ?_, keptFlush⟩
  rw [← ranFlush]
  simp only [xDelete, callback, Task.run_tryCatch, Task.run_bind, ranLast, Task.andThen_ok,
    ranDelete]

theorem run_xTruncate (name : FileName) (size : Nat) (lent : Buffer)
    (encodes : vfs.Encodes state files) :
    ∃ after lentAfter, (vfs.xTruncate name size).run (state, lent) =
        (.ok ((files name).truncate size).1.args, (after, lentAfter)) ∧
      vfs.Encodes after (Function.update files name ((files name).truncate size).2) := by
  obtain ⟨looked, ranLast, keptLast⟩ := run_last lawful name encodes
  unfold PageFile.truncate PageFile.sizeInBytes
  by_cases grows : (size : Int) > ((files name).committed.last + 1) * pageSize
  · obtain ⟨after, lentAfter, ran, kept⟩ := run_growPages lawful name
      (List.range' ((files name).committed.last + 1).toNat
        (((size : Int) - 1) / pageSize - (files name).committed.last).toNat) lent keptLast
    refine ⟨after, lentAfter, ?_, ?_⟩
    · simp only [xTruncate, callback, Task.run_tryCatch, Task.run_bind, Task.run_onShared,
        ranLast, Task.andThen_ok, if_pos grows, ran, Task.run_pure, Task.orElse_ok]
    · rw [if_pos grows]
      exact kept
  · refine ⟨looked, lent, ?_, ?_⟩
    · by_cases shrinks : (size : Int) < ((files name).committed.last + 1) * pageSize
      · simp only [xTruncate, callback, Task.run_tryCatch, Task.run_bind, Task.run_onShared,
          ranLast, Task.andThen_ok, if_neg grows, if_pos shrinks, Task.run_throw,
          Task.andThen_error, Task.orElse_error, Task.run_pure]
      · simp only [xTruncate, callback, Task.run_tryCatch, Task.run_bind, Task.run_onShared,
          ranLast, Task.andThen_ok, if_neg grows, if_neg shrinks, Task.run_pure,
          Task.orElse_ok]
    · rw [if_neg grows, apply_ite Prod.snd, ite_self, Function.update_eq_self]
      exact keptLast

/-- One call on the VFS is one call on the page files. -/
theorem perform_refines (call : VfsCall) (encodes : vfs.Encodes state files) :
    ∃ reply after, (vfs.perform call).run state = (.ok reply, after) ∧
      reply.outcome call = (files.perform call).1 ∧
      vfs.Encodes after (files.perform call).2 := by
  have looks (name : FileName) : ∃ after, (vfs.last name).run state =
      (.ok (files name).committed.last, after) ∧
      vfs.Encodes after (Function.update files name (files name)) := by
    rw [Function.update_eq_self]
    exact run_last lawful name encodes
  cases call with
  | xDelete name =>
      obtain ⟨after, ran, kept⟩ := run_xDelete lawful name encodes
      refine ⟨⟨(((files name).addAll (files name).deleteOps).flush name).1.args, []⟩, after,
        ?_, (PageFile.flush_outcome _ _).symm, kept⟩
      simp only [perform, withoutBuffer, Task.run_bind, ran, Task.andThen_ok, Task.run_pure]
  | xAccess name =>
      obtain ⟨after, ran, kept⟩ := looks name
      refine ⟨⟨[.null, .bool ((files name).committed.last ≥ 0)], []⟩, after, ?_, rfl, kept⟩
      simp only [perform, withoutBuffer, xAccess, callback, Task.run_bind, Task.run_tryCatch,
        ran, Task.andThen_ok, Task.run_pure, Task.orElse_ok]
  | xRead name buffer offset =>
      obtain ⟨after, ran, kept⟩ := run_xRead lawful name offset buffer encodes
      refine ⟨⟨[.null], (files name).read buffer offset⟩, after, ?_, rfl, ?_⟩
      · simp only [perform, withBuffer, Task.run_bind, Task.run_withLocal, ran, Except.map,
          Task.andThen_ok, Task.run_pure]
      · change vfs.Encodes after (Function.update files name (files name))
        rw [Function.update_eq_self]
        exact kept
  | xWrite name data offset =>
      obtain ⟨after, lentAfter, ran, kept⟩ := run_xWrite lawful name offset data encodes
      refine ⟨⟨[.null], lentAfter⟩, after, ?_, rfl, kept⟩
      simp only [perform, withBuffer, Task.run_bind, Task.run_withLocal, ran, Except.map,
        Task.andThen_ok, Task.run_pure]
  | xTruncate name size =>
      obtain ⟨after, lentAfter, ran, kept⟩ := run_xTruncate lawful name size [] encodes
      refine ⟨⟨((files name).truncate size).1.args, lentAfter⟩, after, ?_,
        (PageFile.truncate_outcome _ _).symm, kept⟩
      simp only [perform, withBuffer, Task.run_bind, Task.run_withLocal, ran, Except.map,
        Task.andThen_ok, Task.run_pure]
  | xSync name =>
      obtain ⟨after, ran, kept⟩ := run_xSync lawful name encodes
      refine ⟨⟨((files name).flush name).1.args, []⟩, after, ?_,
        (PageFile.flush_outcome _ _).symm, kept⟩
      simp only [perform, withoutBuffer, Task.run_bind, ran, Task.andThen_ok, Task.run_pure]
  | xSize name =>
      obtain ⟨after, ran, kept⟩ := looks name
      refine ⟨⟨[.null, .number (files name).sizeInBytes], []⟩, after, ?_, rfl, kept⟩
      simp only [perform, withoutBuffer, xSize, callback, Task.run_bind, Task.run_tryCatch,
        ran, Task.andThen_ok, Task.run_pure, Task.orElse_ok, PageFile.sizeInBytes]

end Lawful

def performAll (vfs : ParaVFS) : List VfsCall → VfsTask (List Outcome)
  | [] => pure []
  | call :: calls => do
      let reply ← vfs.perform call
      let outcomes ← performAll vfs calls
      pure (reply.outcome call :: outcomes)

theorem performAll_refines (lawful : vfs.runtime.Lawful) (calls : List VfsCall)
    (encodes : vfs.Encodes state files) :
    ∃ after, (vfs.performAll calls).run state = (.ok (files.performAll calls).1, after) ∧
      vfs.Encodes after (files.performAll calls).2 := by
  induction calls generalizing state files with
  | nil => exact ⟨state, rfl, encodes⟩
  | cons call calls ih =>
      obtain ⟨reply, middle, ran, outcome, kept⟩ := perform_refines lawful call encodes
      obtain ⟨after, ranRest, keptRest⟩ := ih kept
      refine ⟨after, ?_, keptRest⟩
      simp only [performAll, Task.run_bind, ran, Task.andThen_ok, ranRest, Task.run_pure,
        outcome, PageFiles.performAll]

end ParaVFS
end ParaQL
