/-
Calls of two instances of the VFS with different options, in any interleaving.

The instances register, fill and flush their batches at the same steps, each with its own
form of the pages.  What one of them does on its own, it does in zlib and in the cipher.
The bytes that SQLite lends stay its own where no page is encrypted in place.
-/

import ParaQL.Async.TandemPools
import ParaQL.Transparency

namespace ParaQL
namespace ParaVFS

open Async Async.Task Bytes

/-- A page that is not deflated would be encrypted in the bytes that SQLite lends. -/
def KeepsLent (vfs : ParaVFS) : Prop := vfs.encryption = none ∨ vfs.compressed = true

structure SameBatch (first second : ParaVFS) (name : FileName) (batch counterpart : Batch) :
    Prop where
  source : batch.source = counterpart.source
  serial : batch.serial = counterpart.serial
  ops : ∃ ops : List PageOp, batch.ops = ops.map (first.encodeOp name) ∧
    counterpart.ops = ops.map (second.encodeOp name)

/-- Every store of the two states holds the same pages, and every batch the same changes.
It does not matter which view is current, nor from which one a batch was made. -/
structure Doubles (first second : ParaVFS) (state other : VfsState) : Prop where
  view : state.view = other.view
  storeCalls : state.storeCalls = other.storeCalls
  serial : state.serial = other.serial
  batches : ∀ name, Option.Rel (SameBatch first second name) (state.files.lookup name)
    (other.files.lookup name)
  stores : ∀ ref name, ∃ pages, first.encodePages name (state.stores ref name) pages ∧
    second.encodePages name (other.stores ref name) pages

variable {first second vfs : ParaVFS} {state other : VfsState} {name : FileName}

private theorem encodePages_last {stored pages : Pages}
    (encodes : vfs.encodePages name stored pages) :
    stored.last = pages.last := by
  have sameIndex : stored.lastIndex = pages.lastIndex := by
    apply Pages.lastIndex_congr
    intro index
    rw [encodes index, Option.isSome_map]
  rw [Pages.last, Pages.last, sameIndex]

private theorem decipher_encoded (lawful : vfs.runtime.LawfulCodecs) {store : Store} {pages : Pages}
    (encodes : vfs.encodePages name (store name) pages) (index : Nat) :
    vfs.decipher name index (store.get ⟨name, index⟩) = (pages.lookup index).map vfs.pack := by
  have stored : vfs.Encodes { VfsState.initial (fun _ => Function.update (fun _ => ∅) name
      (store name)) with view := none }
      (fun here => if here = name then ⟨pages, none⟩ else ⟨∅, none⟩) := by
    refine ⟨fun here => ?_, fun here => ?_⟩
    · by_cases same : here = name
      · subst same
        simp only [VfsState.initial, Function.update_self, if_true]
        exact encodes
      · simp only [VfsState.initial, Function.update_of_ne same, if_neg same]
        exact fun _ => rfl
    · by_cases same : here = name
      · simp only [if_pos same]
        rfl
      · simp only [if_neg same]
        rfl
  have deciphered := decipher_stored lawful name index stored
  simpa only [VfsState.initial, Store.get, Function.update_self, if_true] using deciphered

namespace Doubles

theorem record (doubles : Doubles first second state other) (access counterpart : Access)
    (sameKind : access.storeCalls = counterpart.storeCalls) :
    Doubles first second (state.record access) (other.record counterpart) := by
  refine ⟨doubles.view, ?_, doubles.serial, doubles.batches, doubles.stores⟩
  simp only [VfsState.record, sameKind, doubles.storeCalls]

theorem zlib (doubles : Doubles first second state other) (failed : Bool) :
    Doubles first second (state.record (.zlib failed)) other :=
  ⟨doubles.view, doubles.storeCalls, doubles.serial, doubles.batches, doubles.stores⟩

private theorem zlibOther (doubles : Doubles first second state other) (failed : Bool) :
    Doubles first second state (other.record (.zlib failed)) :=
  ⟨doubles.view, doubles.storeCalls, doubles.serial, doubles.batches, doubles.stores⟩

theorem storeOf (doubles : Doubles first second state other) (sameName : first.name = second.name)
    (name : FileName) : first.storeOf name state = second.storeOf name other := by
  simp only [ParaVFS.storeOf, VfsState.currentView, doubles.view, sameName]

/-- A batch is registered for one file, or the batch of one file changes. -/
theorem insert (doubles : Doubles first second state other) {batch counterpart : Batch}
    (same : SameBatch first second name batch counterpart) (here : FileName) :
    Option.Rel (SameBatch first second here) ((state.files.insert name batch).lookup here)
      ((other.files.insert name counterpart).lookup here) := by
  by_cases isName : here = name
  · subst isName
    rw [Finmap.lookup_insert, Finmap.lookup_insert]
    exact .some same
  · rw [Finmap.lookup_insert_of_ne _ isName, Finmap.lookup_insert_of_ne _ isName]
    exact doubles.batches here

theorem addTo (doubles : Doubles first second state other) {batch counterpart : Batch}
    (sameSerial : batch.serial = counterpart.serial) (op : PageOp) :
    Doubles first second (state.addTo name batch (first.encodeOp name op))
      (other.addTo name counterpart (second.encodeOp name op)) := by
  unfold VfsState.addTo
  have registered := doubles.batches name
  generalize state.files.lookup name = found at registered ⊢
  generalize other.files.lookup name = foundOther at registered ⊢
  cases registered with
  | none => exact doubles
  | @some here there same =>
      simp only
      by_cases current : here.serial = batch.serial
      · rw [if_pos current, if_pos (same.serial.symm.trans (current.trans sameSerial))]
        obtain ⟨ops, encoded, encodedOther⟩ := same.ops
        refine ⟨doubles.view, doubles.storeCalls, doubles.serial, ?_, doubles.stores⟩
        apply doubles.insert
        refine ⟨same.source, same.serial, ops ++ [op], ?_, ?_⟩
        · simp only [encoded, List.map_append, List.map_singleton]
        · simp only [encodedOther, List.map_append, List.map_singleton]
      · rw [if_neg current, if_neg fun there =>
          current (same.serial.trans (there.trans sameSerial.symm))]
        exact doubles

theorem unregister (doubles : Doubles first second state other) (name : FileName) :
    Doubles first second (state.unregister name) (other.unregister name) := by
  refine ⟨doubles.view, doubles.storeCalls, doubles.serial, fun here => ?_, doubles.stores⟩
  simp only [VfsState.unregister]
  by_cases isName : here = name
  · subst isName
    rw [Finmap.lookup_erase, Finmap.lookup_erase]
    exact .none
  · rw [Finmap.lookup_erase_ne isName, Finmap.lookup_erase_ne isName]
    exact doubles.batches here

theorem commit (doubles : Doubles first second state other) {batch counterpart : Batch}
    (same : SameBatch first second name batch counterpart) :
    Doubles first second (state.commit batch) (other.commit counterpart) := by
  refine ⟨doubles.view, doubles.storeCalls, doubles.serial, doubles.batches, fun ref here => ?_⟩
  obtain ⟨pages, encodes, encodesOther⟩ := doubles.stores ref here
  obtain ⟨ops, encoded, encodedOther⟩ := same.ops
  simp only [VfsState.commit, ← same.source, encoded, encodedOther]
  by_cases isSource : ref = batch.source
  · subst isSource
    rw [Function.update_self, Function.update_self]
    by_cases isName : here = name
    · subst isName
      exact ⟨_, encodePages_commit _ _ ops _ encodes, encodePages_commit _ _ ops _ encodesOther⟩
    · rw [Store.commit_other _ _ _ _ isName, Store.commit_other _ _ _ _ isName]
      exact ⟨pages, encodes, encodesOther⟩
  · rw [Function.update_of_ne isSource, Function.update_of_ne isSource]
    exact ⟨pages, encodes, encodesOther⟩

/-- `_write` finds as many batches. -/
theorem sameCard (doubles : Doubles first second state other) :
    state.files.keys.card = other.files.keys.card := by
  have sameKeys : state.files.keys = other.files.keys := by
    ext name
    rw [Finmap.mem_keys, Finmap.mem_keys, ← Finmap.lookup_isSome, ← Finmap.lookup_isSome]
    have registered := doubles.batches name
    generalize state.files.lookup name = found at registered ⊢
    generalize other.files.lookup name = foundOther at registered ⊢
    cases registered <;> rfl
  rw [sameKeys]

theorem switch (doubles : Doubles first second state other) (view : Option Nat) :
    Doubles first second { state with view := view } { other with view := view } :=
  ⟨rfl, doubles.storeCalls, doubles.serial, doubles.batches, doubles.stores⟩

end Doubles

section Alone

variable {τ κ μ α β : Type} {related : VfsState → τ → Prop} {mine : VfsState → κ} {own : τ → μ}
  {rejected : κ → μ → Prop} {after : α → β → κ → μ → Prop} {part : κ} {counterpart : μ}
  {task : Task τ JsValue β}

/-- A page that was found is inflated, unless it is stored as it is. -/
theorem lead_unpack (lawful : vfs.runtime.LawfulCodecs)
    (quiet : ∀ state other, related state other → related (state.record (.zlib false)) other)
    (unseen : ∀ state, mine (state.record (.zlib false)) = mine state) (page : Option Buffer)
    {next : Option Buffer → VfsTask α}
    (rest : Tandem related mine own rejected after part counterpart (next page) task) :
    Tandem related mine own rejected after part counterpart
      (vfs.unpack (page.map vfs.pack) >>= next) task := by
  cases page with
  | none => exact rest
  | some page =>
      by_cases compressed : vfs.compressed = true
      · simp only [unpack, pack, Option.map_some, if_pos compressed, bind_assoc_task]
        refine tandem_lead page part ?_ rest
        intro state other holds isPart _
        have ran : (vfs.inflate (vfs.runtime.deflate vfs.compressionLevel page)).run state = _ :=
          run_inflate_deflate lawful vfs.compressionLevel page state
        rw [inflate, attempt, run_atomic] at ran
        rw [ran]
        exact ⟨quiet state other holds, rfl, (unseen state).trans isPart⟩
      · simp only [unpack, pack, Option.map_some, if_neg compressed]
        exact rest

end Alone

section Lent

variable {τ μ α β γ : Type} {related : VfsState × Buffer → τ → Prop} {own : τ → μ}
  {rejected : Buffer → μ → Prop} {after : α → β → Buffer → μ → Prop} {lent : Buffer}
  {counterpart : μ} {task : Task τ JsValue β}

private theorem lead_read (view : Buffer → γ) {next : γ → CallTask α}
    (rest : Tandem related Prod.snd own rejected after lent counterpart (next (view lent)) task) :
    Tandem related Prod.snd own rejected after lent counterpart
      (Task.read (fun state => view state.2) >>= next) task :=
  tandem_lead (view lent) lent (fun _ _ holds isLent _ =>
    ⟨holds, congrArg (fun lent => Except.ok (view lent)) isLent, isLent⟩) rest

section Codecs

variable (lawful : vfs.runtime.LawfulCodecs) (keeps : vfs.KeepsLent)

/-- Nothing is enciphered in the lent bytes. -/
theorem lead_encryptPage (name : FileName) (index : Nat) (value : PageBuffer)
    (apart : vfs.encryption = none ∨ ∃ page, value = .own page) {next : Buffer → CallTask α}
    (rest : Tandem related Prod.snd own rejected after lent counterpart
      (next (match vfs.pageEncryption name with
        | some encryption => encryption.encrypt vfs.runtime (value.bytes lent) name index
        | none => value.bytes lent)) task) :
    Tandem related Prod.snd own rejected after lent counterpart
      (do
        let value ← vfs.encryptPage name index value
        let page ← Task.read fun state => value.bytes state.2
        next page) task := by
  unfold encryptPage
  unfold pageEncryption at rest
  cases encrypted : vfs.encryption with
  | none =>
      rw [encrypted] at rest
      refine lead_read (fun lent => value.bytes lent) ?_
      by_cases tmp : name ≠ vfs.name
      · rw [if_pos tmp] at rest
        exact rest
      · rw [if_neg tmp] at rest
        exact rest
  | some encryption =>
      rw [encrypted] at rest
      obtain ⟨page, rfl⟩ := apart.resolve_left (by rw [encrypted]; exact Option.some_ne_none _)
      by_cases tmp : name ≠ vfs.name
      · simp only [if_pos tmp] at rest ⊢
        refine tandem_lead (.own (encryption.encrypt vfs.runtime page name index)) lent
          (fun _ _ holds isLent _ => ⟨holds, rfl, isLent⟩) ?_
        exact lead_read (fun lent => PageBuffer.bytes lent (.own _)) rest
      · simp only [if_neg tmp] at rest ⊢
        exact lead_read (fun lent => PageBuffer.bytes lent (.own page)) rest

include lawful keeps

/-- A page is packed and enciphered, and the lent bytes are left alone. -/
theorem lead_encode
    (quiet : ∀ state other, related state other →
      related (state.1.record (.zlib false), state.2) other)
    (name : FileName) (index : Nat) (value : PageBuffer) {next : Buffer → CallTask α}
    (rest : Tandem related Prod.snd own rejected after lent counterpart
      (next (vfs.encodePage name index (value.bytes lent))) task) :
    Tandem related Prod.snd own rejected after lent counterpart
      (do
        let value ← vfs.packPage value
        let value ← vfs.encryptPage name index value
        let page ← Task.read fun state => value.bytes state.2
        next page) task := by
  unfold packPage
  unfold encodePage pack at rest
  by_cases compressed : vfs.compressed = true
  · rw [if_pos compressed] at rest ⊢
    simp only [bind_assoc_task]
    refine lead_read (fun lent => value.bytes lent) ?_
    simp only [deflate, attempt, onShared, zoom_atomic]
    refine tandem_lead (vfs.runtime.deflate vfs.compressionLevel (value.bytes lent)) lent ?_ ?_
    · intro state other holds isLent _
      have ran := run_deflate lawful (value.bytes lent) state.1
      rw [deflate, attempt, run_atomic] at ran
      rw [ran]
      exact ⟨quiet state other holds, rfl, isLent⟩
    · exact lead_encryptPage name index (.own _) (.inr ⟨_, rfl⟩) rest
  · rw [if_neg compressed] at rest ⊢
    exact lead_encryptPage name index value (.inl (keeps.resolve_right compressed)) rest

end Codecs
end Lent

/-! ### Calls into the stores -/

structure HidesOptions (first second : ParaVFS) : Prop extends SameButOptions first second where
  keeps : first.KeepsLent
  keepsOther : second.KeepsLent

abbrev VfsTandem (first second : ParaVFS) {α β : Type} (alike : α → β → Prop) (task : VfsTask α)
    (other : VfsTask β) : Prop :=
  InTandem (Doubles first second) alike task other

def LentTandem (first second : ParaVFS) {α β : Type} (alike : α → β → Prop) (task : CallTask α)
    (other : CallTask β) : Prop :=
  ∀ lent, Tandem (fun state other => Doubles first second state.1 other.1) Prod.snd Prod.snd Eq
    (fun value result here there => alike value result ∧ here = there) lent lent task other

section Lent

variable {α β γ δ : Type} {alike : α → β → Prop} {task : CallTask α} {counterpart : CallTask β}

private theorem lentTandem_pure {value : α} {result : β} (same : alike value result) :
    LentTandem first second alike (pure value) (pure result) :=
  fun _ => tandem_pure ⟨same, rfl⟩

theorem LentTandem.bind {final : γ → δ → Prop} {next : α → CallTask γ} {follow : β → CallTask δ}
    (tandem : LentTandem first second alike task counterpart)
    (rest : ∀ value result, alike value result →
      LentTandem first second final (next value) (follow result)) :
    LentTandem first second final (task >>= next) (counterpart >>= follow) := by
  intro lent
  refine Tandem.bind (tandem lent) ?_
  rintro value result here _ ⟨same, rfl⟩
  exact rest value result same here

theorem VfsTandem.onShared {task : VfsTask α} {counterpart : VfsTask β}
    (tandem : VfsTandem first second alike task counterpart) :
    LentTandem first second alike task.onShared counterpart.onShared := by
  intro lent
  refine (InTandem.onShared tandem).mono ?_ ?_
  · rintro here there ⟨rfl, rfl⟩
    rfl
  · rintro value result here there ⟨same, rfl, rfl⟩
    exact ⟨same, rfl⟩

private theorem lentTandem_read (view : Buffer → γ) :
    LentTandem first second Eq (Task.read fun state => view state.2)
      (Task.read fun state => view state.2) := by
  refine fun lent => tandem_atomic fun state other holds isLent isOther => ⟨holds, ?_, ?_⟩
  · exact congrArg view (isLent.trans isOther.symm)
  · exact isLent.trans isOther.symm

private theorem lentTandem_forEach {ι : Type} {items : List ι} {body round : ι → CallTask Unit}
    (each : ∀ item ∈ items, LentTandem first second Eq (body item) (round item)) :
    LentTandem first second Eq (Task.forEach items body) (Task.forEach items round) := by
  intro lent
  refine (tandem_forEach Eq (fun item member here _ same => ?_) rfl).mono (fun _ _ same => same)
    fun _ _ _ _ same => ⟨rfl, same⟩
  subst same
  exact (each item member here).mono (fun _ _ same => same) fun _ _ _ _ holds => holds.2

end Lent

private theorem tandem_callback {σ τ κ : Type} {related : σ → τ → Prop} {mine : σ → κ} {own : τ → κ}
    {part counterpart : κ} {body : Task σ JsValue (List JsValue)}
    {reaction : Task τ JsValue (List JsValue)}
    (tandem : Tandem related mine own Eq (fun value result here there => value = result ∧
      here = there) part counterpart body reaction) :
    Tandem related mine own Eq (fun value result here there => value = result ∧ here = there)
      part counterpart (callback body) (callback reaction) := by
  refine Tandem.catch (tandem.bind ?_) fun thrown _ _ same => tandem_pure ⟨rfl, same⟩
  rintro values _ here there ⟨rfl, same⟩
  exact tandem_pure ⟨rfl, same⟩

private theorem tandem_withBuffer {task counterpart : CallTask CallbackArgs}
    (tandem : LentTandem first second Eq task counterpart) (buffer : Buffer) :
    VfsTandem first second Eq (withBuffer (callback task) buffer)
      (withBuffer (callback counterpart) buffer) := by
  refine InTandem.bind (Tandem.withLocal ((tandem_callback (tandem buffer)).mono
    (fun _ _ _ => trivial) fun _ _ _ _ holds => holds)) ?_
  rintro ⟨args, lent⟩ ⟨_, _⟩ ⟨rfl, rfl⟩
  exact inTandem_pure rfl

private theorem tandem_withoutBuffer {task counterpart : VfsTask CallbackArgs}
    (tandem : VfsTandem first second Eq task counterpart) :
    VfsTandem first second Eq (withoutBuffer (callback task))
      (withoutBuffer (callback counterpart)) := by
  refine InTandem.bind (?_ : VfsTandem first second Eq _ _) fun args _ same =>
    same ▸ inTandem_pure rfl
  refine (tandem_callback (tandem.mono (fun _ _ _ => rfl) fun _ _ _ _ same => ⟨same, rfl⟩)).mono
    (fun _ _ _ => trivial) fun _ _ _ _ holds => holds.1

section Options

variable (hides : HidesOptions first second)

include hides

private theorem tandem_storeCall {α β : Type} (op : StoreOp) (name : FileName)
    (target counterpart : VfsState → StoreRef) (action : VfsState → α × VfsState)
    (reaction : VfsState → β × VfsState) (alike : α → β → Prop)
    (yields : ∀ state other, Doubles first second state other →
      alike (action state).1 (reaction other).1 ∧
        Doubles first second (action state).2 (reaction other).2) :
    VfsTandem first second alike (first.storeCall op name target action)
      (second.storeCall op name counterpart reaction) := by
  refine tandem_atomic fun state other doubles _ _ => ?_
  have sameFault : second.runtime.fault other.storeCalls =
      first.runtime.fault state.storeCalls := by
    rw [hides.runtime, doubles.storeCalls]
  have recorded (failed : Bool) := doubles.record
    (.store op name (target state) state.view failed)
    (.store op name (counterpart other) other.view failed) rfl
  simp only [sameFault]
  cases first.runtime.fault state.storeCalls with
  | true =>
      refine ⟨recorded true, ?_, trivial⟩
      simp only [hides.runtime, doubles.storeCalls]
  | false => exact (yields _ _ (recorded false)).symm

private theorem tandem_get (name : FileName) (index : Nat) :
    VfsTandem first second Eq (first.get name index) (second.get name index) := by
  unfold get
  rw [fetch_eq, fetch_eq]
  refine InTandem.bind (?_ : InTandem _ (fun value other => ∃ page : Option Buffer,
    value = page.map first.pack ∧ other = page.map second.pack) _ _) ?_
  · refine tandem_storeCall hides .get name _ _ _ _ _ fun state other doubles => ⟨?_, doubles⟩
    obtain ⟨pages, encodes, encodesOther⟩ := doubles.stores (first.storeOf name state) name
    rw [doubles.storeOf hides.name] at encodesOther
    exact ⟨pages.lookup index, decipher_encoded hides.codecs encodes index,
      decipher_encoded hides.codecsOther encodesOther index⟩
  · rintro _ _ ⟨page, rfl, rfl⟩
    rw [← bind_pure_task (first.unpack _), ← bind_pure_task (second.unpack _)]
    refine lead_unpack hides.codecs (fun _ _ doubles => doubles.zlib false) (fun _ => rfl) page ?_
    refine Tandem.symm (lead_unpack hides.codecsOther (fun _ _ doubles => doubles.zlibOther false)
      (fun _ => rfl) page ?_)
    exact tandem_pure rfl

private theorem tandem_last (name : FileName) :
    VfsTandem first second Eq (first.last name) (second.last name) := by
  rw [last_eq, last_eq]
  refine tandem_storeCall hides .peek name _ _ _ _ _ fun state other doubles => ⟨?_, doubles⟩
  obtain ⟨pages, encodes, encodesOther⟩ := doubles.stores (first.storeOf name state) name
  rw [doubles.storeOf hides.name] at encodesOther
  simp only [encodePages_last encodes, encodePages_last encodesOther]

private theorem tandem_openBatch (name : FileName) :
    VfsTandem first second (fun batch counterpart => batch.source = counterpart.source ∧
      batch.serial = counterpart.serial) (first.openBatch name) (second.openBatch name) := by
  refine tandem_atomic fun state other doubles _ _ => ?_
  have registered := doubles.batches name
  generalize found : state.files.lookup name = here at registered ⊢
  generalize foundOther : other.files.lookup name = there at registered ⊢
  cases registered with
  | some same => exact ⟨doubles, same.source, same.serial⟩
  | none =>
      have sameStore := doubles.storeOf hides.name name
      have same : SameBatch first second name
          { source := first.storeOf name state, serial := state.serial, ops := [] }
          { source := second.storeOf name other, serial := other.serial, ops := [] } :=
        ⟨sameStore, doubles.serial, [], rfl, rfl⟩
      refine ⟨⟨doubles.view, doubles.storeCalls, ?_, doubles.insert same, doubles.stores⟩,
        sameStore, doubles.serial⟩
      exact congrArg (fun serial => serial + 1) doubles.serial

private theorem tandem_add (op : StoreOp) (name : FileName) {batch counterpart : Batch}
    (sameSerial : batch.serial = counterpart.serial) (item : PageOp) :
    VfsTandem first second Eq
      (first.storeCall op name (fun _ => batch.source)
        fun state => ((), state.addTo name batch (first.encodeOp name item)))
      (second.storeCall op name (fun _ => counterpart.source)
        fun state => ((), state.addTo name counterpart (second.encodeOp name item))) :=
  tandem_storeCall hides op name _ _ _ _ _ fun _ _ doubles =>
    ⟨rfl, doubles.addTo sameSerial item⟩

private theorem tandem_tryPut (name : FileName) (index : Nat) (value : PageBuffer) :
    LentTandem first second Eq (first.tryPut name index value)
      (second.tryPut name index value) := by
  refine LentTandem.bind (tandem_openBatch hides name).onShared ?_
  rintro batch counterpart ⟨_, sameSerial⟩ lent
  refine lead_encode hides.codecs hides.keeps (fun _ _ doubles => doubles.zlib false) name index
    value ?_
  refine Tandem.symm (lead_encode hides.codecsOther hides.keepsOther
    (fun _ _ doubles => doubles.zlibOther false) name index value (Tandem.symm ?_))
  exact (tandem_add hides .put name sameSerial (index, some (value.bytes lent))).onShared lent

private theorem tandem_tryDelete (name : FileName) (index : Nat) :
    VfsTandem first second Eq (first.tryDelete name index) (second.tryDelete name index) :=
  (tandem_openBatch hides name).bind fun _ _ same =>
    tandem_add hides .delete name same.2 (index, none)

private theorem tandem_flush (name : FileName) :
    VfsTandem first second Eq (first.flush name) (second.flush name) := by
  refine InTandem.bind (?_ : InTandem _ (SameBatch first second name) _ _)
    fun batch counterpart same => ?_
  · refine tandem_atomic fun state other doubles _ _ => ?_
    have registered := doubles.batches name
    generalize found : state.files.lookup name = here at registered ⊢
    generalize foundOther : other.files.lookup name = there at registered ⊢
    cases registered with
    | none => exact ⟨doubles, rfl, trivial⟩
    | some same => exact ⟨doubles.unregister name, same⟩
  · exact tandem_storeCall hides .flush name _ _ _ _ _ fun _ _ doubles =>
      ⟨rfl, doubles.commit same⟩

private theorem tandem_readPage (name : FileName) (length offset index : Nat) :
    LentTandem first second Eq (first.readPage name length offset index)
      (second.readPage name length offset index) := by
  unfold readPage
  simp only
  split
  · refine LentTandem.bind (tandem_get hides name index).onShared ?_
    rintro page _ rfl lent
    refine tandem_atomic fun state other doubles isLent isOther => ⟨doubles, rfl, ?_⟩
    simp only [isLent.trans isOther.symm]
  · exact lentTandem_pure rfl

private theorem tandem_writePage (name : FileName) (length offset index : Nat) :
    LentTandem first second Eq (first.writePage name length offset index)
      (second.writePage name length offset index) := by
  unfold writePage
  simp only
  split
  · exact tandem_tryPut hides name index _
  · refine LentTandem.bind (tandem_get hides name index).onShared ?_
    rintro page _ rfl
    refine LentTandem.bind (lentTandem_read fun lent => lent.subarray _ _) ?_
    rintro patch _ rfl
    exact tandem_tryPut hides name index _

/-- One call, with other calls and anything else in between. -/
theorem tandem_perform (call : VfsCall) :
    VfsTandem first second Eq (first.perform call) (second.perform call) := by
  have looked (name : FileName) (values : Int → List JsValue) : VfsTandem first second Eq
      (do let index ← first.last name; pure (values index))
      (do let index ← second.last name; pure (values index)) :=
    (tandem_last hides name).bind fun index _ same => same ▸ inTandem_pure rfl
  cases call with
  | xAccess name => exact tandem_withoutBuffer (looked name fun index => [.bool (index ≥ 0)])
  | xSize name =>
      exact tandem_withoutBuffer (looked name fun index => [.number ((index + 1) * pageSize)])
  | xSync name =>
      exact tandem_withoutBuffer ((tandem_flush hides name).bind fun _ _ _ => inTandem_pure rfl)
  | xDelete name =>
      refine tandem_withoutBuffer ((tandem_last hides name).bind ?_)
      rintro index _ rfl
      refine InTandem.bind (?_ : InTandem _ Eq _ _) fun _ _ _ =>
        (tandem_flush hides name).bind fun _ _ _ => inTandem_pure rfl
      split
      · exact (tandem_forEach (fun _ _ => True) (fun page _ _ _ _ =>
          (tandem_tryDelete hides name page).mono (fun _ _ holds => holds)
            fun _ _ _ _ _ => trivial) trivial).mono (fun _ _ holds => holds) fun _ _ _ _ _ => rfl
      · exact inTandem_pure rfl
  | xRead name buffer offset =>
      refine tandem_withBuffer (LentTandem.bind (lentTandem_read List.length) ?_) buffer
      rintro length _ rfl
      exact LentTandem.bind (lentTandem_forEach fun page _ =>
        tandem_readPage hides name length offset page) fun _ _ _ => lentTandem_pure rfl
  | xWrite name data offset =>
      refine tandem_withBuffer (LentTandem.bind (lentTandem_read List.length) ?_) data
      rintro length _ rfl
      exact LentTandem.bind (lentTandem_forEach fun page _ =>
        tandem_writePage hides name length offset page) fun _ _ _ => lentTandem_pure rfl
  | xTruncate name size =>
      refine tandem_withBuffer (LentTandem.bind (tandem_last hides name).onShared ?_) []
      rintro index _ rfl
      refine LentTandem.bind (?_ : LentTandem _ _ Eq _ _) fun _ _ _ => lentTandem_pure rfl
      split
      · exact lentTandem_forEach fun page _ => tandem_tryPut hides name page _
      · split
        · exact fun _ => tandem_throw _ rfl
        · exact lentTandem_pure rfl

end Options

end ParaVFS
end ParaQL
