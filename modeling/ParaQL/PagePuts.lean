/-
Which pages a call hands to `encrypt`.

The pages follow from the call and from the committed pages of its file.  How many of them
get there follows from which calls into a store and into zlib fail, and these are counted.
-/

import ParaQL.CipherTrace

namespace ParaQL

open Async Async.Task Bytes

/-- The calls made so far, by which `Runtime` knows the one that fails. -/
structure CallCounts where
  store : Nat
  zlib : Nat
  deriving DecidableEq, Repr

/-- A page for `_tryPut`, and whether it was read to be patched. -/
structure PagePut where
  index : Nat
  patched : Bool
  page : Buffer
  deriving DecidableEq, Repr

namespace ParaVFS

variable (vfs : ParaVFS)

def unpacked (value : Buffer) : Option Buffer :=
  if vfs.compressed then vfs.runtime.inflate value else some value

/-- What `_get` makes of a stored page. -/
def pageFound (name : FileName) (pages : Pages) (index : Nat) : Option Buffer :=
  (vfs.decipher name index (pages.lookup index)).bind vfs.unpacked

def writePut (name : FileName) (pages : Pages) (data : Buffer) (offset index : Nat) : PagePut :=
  { index := index
    patched := !decide (CoversPage offset data.length index)
    page := Paging.patchPage pageSize offset data index
      ((vfs.pageFound name pages index).getD (Buffer.alloc pageSize)) }

def growPut (index : Nat) : PagePut :=
  { index := index, patched := false, page := Buffer.alloc pageSize }

/-- A call into a store; `none` where it rejects. -/
def countStore (counts : CallCounts) : Option CallCounts :=
  if vfs.runtime.fault counts.store then none
  else some { counts with store := counts.store + 1 }

/-- A call into zlib; `broken` says that the input is not deflated. -/
def countZlib (broken : Bool) (counts : CallCounts) : Option CallCounts :=
  if vfs.runtime.zlibFault counts.zlib || broken then none
  else some { counts with zlib := counts.zlib + 1 }

def countUnpack (value : Option Buffer) (counts : CallCounts) : Option CallCounts :=
  match value with
  | some value =>
      if vfs.compressed then vfs.countZlib (vfs.runtime.inflate value).isNone counts
      else some counts
  | none => some counts

def countGet (name : FileName) (pages : Pages) (index : Nat) (counts : CallCounts) :
    Option CallCounts :=
  (vfs.countStore counts).bind (vfs.countUnpack (vfs.decipher name index (pages.lookup index)))

def countPack (counts : CallCounts) : Option CallCounts :=
  if vfs.compressed then vfs.countZlib false counts else some counts

structure Turn where
  ciphers : Bool
  next : Option CallCounts
  deriving DecidableEq, Repr

/-- `_tryPut`. -/
def putTurn (counts : CallCounts) : Turn :=
  match vfs.countPack counts with
  | none => { ciphers := false, next := none }
  | some ready => { ciphers := true, next := vfs.countStore ready }

def turn (name : FileName) (pages : Pages) (counts : CallCounts) (put : PagePut) : Turn :=
  if put.patched then
    match vfs.countGet name pages put.index counts with
    | none => { ciphers := false, next := none }
    | some counted => vfs.putTurn counted
  else vfs.putTurn counts

def putsReached (name : FileName) (pages : Pages) : CallCounts → List PagePut → List PagePut
  | _, [] => []
  | counts, put :: rest =>
      (if (vfs.turn name pages counts put).ciphers then [put] else []) ++
        match (vfs.turn name pages counts put).next with
        | none => []
        | some next => putsReached name pages next rest

def putsOf (state : VfsState) : VfsCall → List PagePut
  | .xWrite name data offset =>
      vfs.putsReached name (state.stores .tmp name)
        { store := state.storeCalls, zlib := state.zlibCalls }
        ((Paging.pagesTouched pageSize offset data.length).map
          (vfs.writePut name (state.stores .tmp name) data offset))
  | .xTruncate name size =>
      let index := (state.stores .tmp name).last
      match vfs.countStore { store := state.storeCalls, zlib := state.zlibCalls } with
      | some counts =>
          if (size : Int) > (index + 1) * pageSize then
            vfs.putsReached name (state.stores .tmp name) counts
              ((List.range' (index + 1).toNat
                (((size : Int) - 1) / pageSize - index).toNat).map growPut)
          else []
      | none => []
  | _ => []

def putUse (name : FileName) (put : PagePut) : CipherUse :=
  { page := vfs.pack put.page, filename := name, index := put.index }

def ciphered (state : VfsState) (call : VfsCall) : List CipherUse :=
  if (vfs.pageEncryption call.file).isSome then
    (vfs.putsOf state call).map (vfs.putUse call.file)
  else []

variable {vfs}

/-- Where no call fails, every page that is not compressed is reached. -/
theorem putsReached_eq (reliable : vfs.runtime.Reliable) (plain : ¬vfs.compressed = true)
    (name : FileName) (pages : Pages) (counts : CallCounts) (puts : List PagePut) :
    vfs.putsReached name pages counts puts = puts := by
  have stores (counts : CallCounts) : vfs.countStore counts =
      some { counts with store := counts.store + 1 } :=
    if_neg (by rw [reliable.store]; exact Bool.false_ne_true)
  have packs (counts : CallCounts) : vfs.countPack counts = some counts := if_neg plain
  have puttings (counts : CallCounts) : vfs.putTurn counts =
      { ciphers := true, next := some { counts with store := counts.store + 1 } } := by
    unfold putTurn
    rw [packs]
    exact congrArg (Turn.mk true) (stores counts)
  have gets (index : Nat) (counts : CallCounts) : vfs.countGet name pages index counts =
      some { counts with store := counts.store + 1 } := by
    unfold countGet countUnpack
    rw [stores, Option.bind_some]
    cases vfs.decipher name index (pages.lookup index) with
    | none => rfl
    | some value => exact if_neg plain
  induction puts generalizing counts with
  | nil => rfl
  | cons put rest ih =>
      rw [putsReached, turn]
      simp only [gets, puttings]
      cases put.patched <;> exact congrArg (put :: ·) (ih _)

theorem putsReached_sublist (name : FileName) (pages : Pages) (counts : CallCounts)
    (puts : List PagePut) : (vfs.putsReached name pages counts puts).Sublist puts := by
  induction puts generalizing counts with
  | nil => exact List.Sublist.slnil
  | cons put rest ih =>
      rw [putsReached]
      change List.Sublist _ ([put] ++ rest)
      apply List.Sublist.append
      · split
        · exact List.Sublist.refl _
        · exact List.nil_sublist _
      · split
        · exact List.nil_sublist _
        · exact ih _

/-- A call puts no page twice. -/
theorem putsOf_nodup (state : VfsState) (call : VfsCall) :
    ((vfs.putsOf state call).map PagePut.index).Nodup := by
  cases call with
  | xWrite name data offset =>
      have distinct := Paging.pagesTouched_nodup pageSize offset data.length
      refine List.Nodup.sublist ((putsReached_sublist _ _ _ _).map _) ?_
      rw [List.map_map]
      exact (List.map_id _).symm ▸ distinct
  | xTruncate name size =>
      unfold putsOf
      simp only
      split
      · split
        · refine List.Nodup.sublist ((putsReached_sublist _ _ _ _).map _) ?_
          rw [List.map_map]
          exact (List.map_id _).symm ▸ List.nodup_range'
        · exact List.nodup_nil
      · exact List.nodup_nil
  | _ => exact List.nodup_nil

theorem mem_ciphered {state : VfsState} {call : VfsCall} {use : CipherUse}
    (member : use ∈ vfs.ciphered state call) :
    ∃ put ∈ vfs.putsOf state call, use = vfs.putUse call.file put := by
  unfold ciphered at member
  split at member
  · obtain ⟨put, reached, rfl⟩ := List.mem_map.1 member
    exact ⟨put, reached, rfl⟩
  · cases member

/-! ### Counted steps -/

structure Metered (name : FileName) (pages : Pages) (uses : List CipherUse) (counts : CallCounts)
    (lent : Buffer) (state : TracedState × Buffer) : Prop where
  store : state.1.1.storeCalls = counts.store
  zlib : state.1.1.zlibCalls = counts.zlib
  pages : state.1.1.stores .tmp name = pages
  uses : state.1.2 = uses
  lent : state.2 = lent

structure Halted (uses : List CipherUse) (turn : Turn) (use : CipherUse)
    (state : TracedState × Buffer) : Prop where
  next : turn.next = none
  uses : state.1.2 = uses ++ if turn.ciphers then [use] else []

variable {name : FileName} {pages : Pages} {uses : List CipherUse} {counts : CallCounts}
  {lent : Buffer}

private theorem storeOf_ciphered (ciphered : (vfs.pageEncryption name).isSome) (state : VfsState) :
    vfs.storeOf name state = .tmp := by
  unfold pageEncryption at ciphered
  split at ciphered
  · rename_i tmp
    exact if_pos tmp
  · cases ciphered

private theorem storeCall_metered {α : Type} (op : StoreOp) (target : VfsState → StoreRef)
    (action : VfsState → α × VfsState)
    (keeps : ∀ state, (action state).2.storeCalls = state.storeCalls ∧
      (action state).2.zlibCalls = state.zlibCalls ∧ (action state).2.stores = state.stores) :
    Triple alone (Metered name pages uses counts lent)
      (vfs.storeCall op name target action).onShared.onShared
      (fun value state => ∃ next before, vfs.countStore counts = some next ∧
        Metered name pages uses next lent state ∧ before.stores .tmp name = pages ∧
        value = (action before).1)
      (fun _ state => vfs.countStore counts = none ∧ state.1.2 = uses) := by
  apply triple_of_run
  rintro ⟨⟨state, trace⟩, buffer⟩ metered
  obtain ⟨failed, isFault, ran⟩ := run_storeCall_eq vfs op name target action state
  rw [run_onShared, run_onShared, ran]
  unfold countStore
  rw [metered.store] at isFault
  rw [← isFault]
  cases failed with
  | true => exact ⟨rfl, metered.uses⟩
  | false =>
      obtain ⟨store, zlib, stores⟩ := keeps
        (state.record (.store op name (target state) state.view false))
      refine ⟨_, _, rfl, ⟨?_, ?_, ?_, metered.uses, metered.lent⟩, ?_, rfl⟩
      · exact store.trans (congrArg (· + 1) metered.store)
      · exact zlib.trans metered.zlib
      · exact (congrArg (fun stores => stores StoreRef.tmp name) stores).trans metered.pages
      · exact metered.pages

private theorem openBatch_metered (rejected : JsValue → TracedState × Buffer → Prop) :
    Triple alone (Metered name pages uses counts lent) (vfs.openBatch name).onShared.onShared
      (fun _ => Metered name pages uses counts lent) rejected := by
  apply triple_of_run
  rintro ⟨⟨state, trace⟩, buffer⟩ ⟨store, zlib, samePages, sameUses, sameLent⟩
  rw [run_onShared, run_onShared, openBatch, run_atomic]
  split <;> exact ⟨store, zlib, samePages, sameUses, sameLent⟩

private theorem zlibCall_metered {α : Type} (failed : VfsState → Bool) (broken : Bool)
    (isFailed : ∀ state, failed state = (vfs.runtime.zlibFault state.zlibCalls || broken))
    (value : α) :
    Triple alone (Metered name pages uses counts lent)
      ((attempt (fun _ failed => .zlib failed) failed (fun _ => .undefined)
        fun state => (value, state)) : VfsTask α).onShared.onShared
      (fun result state => ∃ next, vfs.countZlib broken counts = some next ∧
        Metered name pages uses next lent state ∧ result = value)
      (fun _ state => vfs.countZlib broken counts = none ∧ state.1.2 = uses) := by
  apply triple_of_run
  rintro ⟨⟨state, trace⟩, buffer⟩ ⟨store, zlib, samePages, rfl, rfl⟩
  rw [run_onShared, run_onShared, attempt, run_atomic]
  unfold countZlib
  rw [← zlib, ← isFailed]
  cases failed state with
  | true => exact ⟨rfl, rfl⟩
  | false => exact ⟨_, rfl, ⟨store, rfl, samePages, rfl, rfl⟩, rfl⟩

private theorem onShared_bind {σ τ ε α β : Type} (task : Task σ ε α) (rest : α → Task σ ε β) :
    ((task >>= rest).onShared : Task (σ × τ) ε β) =
      task.onShared >>= fun value => (rest value).onShared :=
  zoom_bind _ _ _ _

private theorem unpack_metered (value : Option Buffer) :
    Triple alone (Metered name pages uses counts lent) (vfs.unpack value).onShared.onShared
      (fun found state => ∃ next, vfs.countUnpack value counts = some next ∧
        Metered name pages uses next lent state ∧
        found = value.bind vfs.unpacked)
      (fun _ state => vfs.countUnpack value counts = none ∧ state.1.2 = uses) := by
  cases value with
  | none => exact triple_pure _ fun _ metered => ⟨counts, rfl, metered, rfl⟩
  | some value =>
      unfold unpack countUnpack unpacked
      simp only [Option.bind_some]
      by_cases compressed : vfs.compressed = true
      · simp only [compressed, if_true, onShared_bind]
        refine Triple.bind (zlibCall_metered _ _ (fun _ => rfl) _) fun page => ?_
        apply triple_of_run
        rintro state ⟨next, counted, metered, rfl⟩
        refine ⟨next, counted, metered, ?_⟩
        unfold countZlib at counted
        split at counted
        · cases counted
        · rename_i sound
          rw [Bool.or_eq_true_iff, not_or, Option.isNone_iff_eq_none] at sound
          obtain ⟨page, inflated⟩ := Option.ne_none_iff_exists'.1 sound.2
          rw [inflated]
          rfl
      · simp only [if_neg compressed]
        exact triple_pure _ fun _ metered => ⟨counts, rfl, metered, rfl⟩

/-- `_get` gives the page as it is committed, or counts as a call that rejects. -/
theorem get_metered (isCiphered : (vfs.pageEncryption name).isSome) (index : Nat) :
    Triple alone (Metered name pages uses counts lent) (vfs.get name index).onShared.onShared
      (fun found state => ∃ next, vfs.countGet name pages index counts = some next ∧
        Metered name pages uses next lent state ∧ found = vfs.pageFound name pages index)
      (fun _ state => vfs.countGet name pages index counts = none ∧ state.1.2 = uses) := by
  unfold get countGet
  rw [fetch_eq, onShared_bind, onShared_bind]
  refine Triple.bind ((storeCall_metered _ _ _ fun _ => ⟨rfl, rfl, rfl⟩).mono
    (fun _ begins => begins) (fun _ _ known => known) ?_) fun value => ?_
  · rintro rejection state ⟨counted, same⟩
    rw [counted]
    exact ⟨rfl, same⟩
  intro state result final begins ran
  obtain ⟨next, before, counted, metered, samePages, rfl⟩ := begins
  rw [counted]
  have stored : (before.stores (vfs.storeOf name before)).get ⟨name, index⟩ =
      pages.lookup index := by
    rw [storeOf_ciphered isCiphered]
    exact congrArg (Finmap.lookup index) samePages
  simp only [stored] at ran
  exact unpack_metered _ state result final metered ran

private theorem packPage_metered (value : PageBuffer) :
    Triple alone (Metered name pages uses counts lent) (vfs.packPage value).beside
      (fun packed state => ∃ ready, vfs.countPack counts = some ready ∧
        Metered name pages uses ready lent state ∧
        packed.bytes lent = vfs.pack (value.bytes lent) ∧
        (packed = value ∨ ∃ page, packed = .own page))
      (fun _ state => vfs.countPack counts = none ∧ state.1.2 = uses) := by
  apply triple_of_run
  rintro ⟨⟨state, trace⟩, buffer⟩ ⟨store, zlib, samePages, rfl, rfl⟩
  rw [run_beside]
  unfold packPage countPack pack
  by_cases compressed : vfs.compressed = true
  · simp only [compressed, if_true, run_bind, run_read, andThen_ok, run_onShared, deflate, attempt,
      run_atomic, countZlib, Bool.or_false, ← zlib]
    cases vfs.runtime.zlibFault state.zlibCalls with
    | true => exact ⟨rfl, rfl⟩
    | false => exact ⟨_, rfl, ⟨store, rfl, samePages, rfl, rfl⟩, rfl, Or.inr ⟨_, rfl⟩⟩
  · simp only [if_neg compressed, run_pure]
    exact ⟨_, rfl, ⟨store, zlib, samePages, rfl, rfl⟩, rfl, Or.inl rfl⟩

private theorem encryptPage_metered {encryption : Encryption}
    (isCiphered : vfs.pageEncryption name = some encryption) (index : Nat) (value : PageBuffer)
    (rejected : JsValue → TracedState × Buffer → Prop) :
    Triple alone (Metered name pages uses counts lent) (Traced.encryptPage vfs name index value)
      (fun _ => Metered name pages
        (uses ++ [{ page := value.bytes lent, filename := name, index := index }]) counts
        (value.written lent (encryption.encrypt vfs.runtime (value.bytes lent) name index)))
      rejected := by
  have tmp : name ≠ vfs.name ∧ vfs.encryption = some encryption := by
    unfold pageEncryption at isCiphered
    split at isCiphered
    · exact ⟨‹_›, isCiphered⟩
    · cases isCiphered
  apply triple_of_run
  rintro ⟨⟨state, trace⟩, buffer⟩ ⟨store, zlib, samePages, rfl, rfl⟩
  unfold Traced.encryptPage cipherUses encryptPage
  simp only [run_bind, run_modify, andThen_ok, run_beside, isCiphered, Option.isSome_some, if_true,
    tmp.2, if_pos tmp.1, run_atomic]
  cases value <;> exact ⟨store, zlib, samePages, rfl, rfl⟩

private theorem addTo_keeps (state : VfsState) (batch : Batch) (op : BatchOp) :
    (state.addTo name batch op).storeCalls = state.storeCalls ∧
      (state.addTo name batch op).zlibCalls = state.zlibCalls ∧
      (state.addTo name batch op).stores = state.stores := by
  unfold VfsState.addTo
  split
  · exact ⟨rfl, rfl, rfl⟩
  · split <;> exact ⟨rfl, rfl, rfl⟩

/-- What `_tryPut` hands to `encrypt`, and how far it gets. -/
theorem tryPut_metered {encryption : Encryption}
    (isCiphered : vfs.pageEncryption name = some encryption) (index : Nat) (value : PageBuffer) :
    Triple alone (Metered name pages uses counts lent) (Traced.tryPut vfs name index value)
      (fun _ state => ∃ next packed, vfs.putTurn counts = { ciphers := true, next := some next } ∧
        Metered name pages
          (uses ++ [{ page := vfs.pack (value.bytes lent), filename := name, index := index }]) next
          (packed.written lent (encryption.encrypt vfs.runtime (packed.bytes lent) name index))
          state ∧ (packed = value ∨ ∃ page, packed = .own page))
      (fun _ => Halted uses (vfs.putTurn counts)
        { page := vfs.pack (value.bytes lent), filename := name, index := index }) := by
  refine (openBatch_metered _).bind fun batch => ?_
  refine ((packPage_metered value).mono (fun _ begins => begins) (fun _ _ known => known)
    ?_).bind fun packed => ?_
  · rintro rejection state ⟨counted, same⟩
    unfold putTurn
    rw [counted]
    exact ⟨rfl, same.trans (List.append_nil _).symm⟩
  intro state result final begins ran
  obtain ⟨ready, counted, metered, bytes, isPacked⟩ := begins
  unfold putTurn
  rw [counted, ← bytes]
  refine (?_ : Triple alone (Metered name pages uses ready lent) _ _ _) state result final
    metered ran
  refine (encryptPage_metered isCiphered index packed _).bind fun _ => ?_
  apply Triple.bind (read_keeps _ _ _)
  intro page
  refine (storeCall_metered .put (fun _ => batch.source)
    (fun state => ((), state.addTo name batch (.put ⟨name, index⟩ page)))
    fun state => addTo_keeps state batch _).mono (fun _ begins => begins) ?_
    fun _ _ ends => ⟨ends.1, ends.2⟩
  rintro _ state ⟨next, _, countedPut, meteredPut, _, _⟩
  exact ⟨next, packed, congrArg (Turn.mk true) countedPut, meteredPut, isPacked⟩

private theorem patch_metered {start stop : Nat} {patch : Buffer}
    (same : lent.subarray start stop = patch)
    (rejected : JsValue → TracedState × Buffer → Prop) :
    Triple alone (Metered name pages uses counts lent)
      (Task.read fun state => state.2.subarray start stop)
      (fun found state => Metered name pages uses counts lent state ∧ found = patch) rejected := by
  apply triple_read (stable_alone _)
  intro state metered
  refine ⟨metered, ?_⟩
  rw [metered.lent]
  exact same

section Writes

variable {encryption : Encryption} (isCiphered : vfs.pageEncryption name = some encryption)
  (sameLength : ∀ nonce key message,
    (vfs.runtime.streamXor nonce key message).length = message.length)
  {offset index : Nat} {handled : List Nat} {data : Buffer}
  (intact : Intact offset handled data lent)

include sameLength intact

/-- The cipher writes at most over the page in hand. -/
theorem intact_written (covers : CoversPage offset data.length index) {packed : PageBuffer}
    (isPacked : packed = .lent (lentStart offset index) ∨ ∃ page, packed = .own page) :
    Intact offset (handled ++ [index]) data
      (packed.written lent (encryption.encrypt vfs.runtime (packed.bytes lent) name index)) := by
  rcases isPacked with rfl | ⟨page, rfl⟩
  · have coversLent := covers
    rw [← intact.1] at coversLent
    exact intact.splice covers (length_encrypt_lentPage encryption sameLength coversLent)
  · exact intact.more index

include isCiphered

private theorem writePage_metered (fresh : index ∉ handled)
    (touched : index ∈ Paging.pagesTouched pageSize offset data.length) :
    Triple alone (Metered name pages uses counts lent)
      (Traced.writePage vfs name data.length offset index)
      (fun _ state => ∃ next lentNext,
        vfs.turn name pages counts (vfs.writePut name pages data offset index) =
          { ciphers := true, next := some next } ∧
        Metered name pages
          (uses ++ [vfs.putUse name (vfs.writePut name pages data offset index)]) next lentNext
          state ∧ Intact offset (handled ++ [index]) data lentNext)
      (fun _ => Halted uses
        (vfs.turn name pages counts (vfs.writePut name pages data offset index))
        (vfs.putUse name (vfs.writePut name pages data offset index))) := by
  unfold Traced.writePage
  simp only
  by_cases covers : CoversPage offset data.length index
  · have whole := covers
    unfold CoversPage at whole
    have isTurn : vfs.turn name pages counts (vfs.writePut name pages data offset index) =
        vfs.putTurn counts := by
      unfold turn writePut
      simp only [covers, decide_true, Bool.not_true, Bool.false_eq_true, if_false]
    have isPage : lentPage offset lent index = (vfs.writePut name pages data offset index).page := by
      rw [lentPage_intact intact fresh covers]
      exact (if_pos whole).symm
    rw [isTurn, if_pos whole]
    unfold putUse
    rw [← isPage]
    refine (tryPut_metered isCiphered index (.lent (lentStart offset index))).mono
      (fun _ begins => begins) ?_ fun _ _ ends => ends
    rintro _ state ⟨next, packed, isNext, metered, isPacked⟩
    exact ⟨next, _, isNext, metered, intact_written sameLength intact covers isPacked⟩
  · have partly := covers
    unfold CoversPage at partly
    rw [Paging.mem_pagesTouched _ _ _ pageSize_pos] at touched
    have sameData := intact.subarray fresh (max offset (index * pageSize) - offset)
      (max offset (index * pageSize) - offset + (min (offset + data.length)
        (index * pageSize + pageSize) - max offset (index * pageSize))) (by omega)
      (fun position lower upper => (Paging.page_eq_iff _ _ pageSize_pos).2 (by omega))
    have isTurn : vfs.turn name pages counts (vfs.writePut name pages data offset index) =
        match vfs.countGet name pages index counts with
        | none => { ciphers := false, next := none }
        | some counted => vfs.putTurn counted := by
      unfold turn writePut
      simp only [covers, decide_false, Bool.not_false, if_true]
    have isPage : (vfs.writePut name pages data offset index).page = _ := if_neg partly
    rw [isTurn, if_neg partly]
    refine ((get_metered (Option.isSome_of_mem isCiphered) index).mono
      (fun _ begins => begins) (fun _ _ known => known) ?_).bind fun found => ?_
    · rintro rejection state ⟨counted, same⟩
      rw [counted]
      exact ⟨rfl, same.trans (List.append_nil _).symm⟩
    intro state result final begins ran
    obtain ⟨next, counted, metered, rfl⟩ := begins
    rw [counted]
    refine (?_ : Triple alone (Metered name pages uses next lent) _ _ _) state result final
      metered ran
    refine (patch_metered sameData _).bind fun patch => triple_known ?_
    rintro rfl
    unfold putUse
    rw [isPage]
    refine (tryPut_metered isCiphered index (.own _)).mono (fun _ begins => begins) ?_
      fun _ _ ends => ends
    rintro _ state ⟨last, packed, isLast, meteredLast, isPacked⟩
    obtain ⟨page, rfl⟩ : ∃ page, packed = .own page := isPacked.elim (fun same => ⟨_, same⟩) id
    exact ⟨last, _, isLast, meteredLast, intact.more index⟩

end Writes

/-! ### Whole calls -/

/-- A loop that takes one page after the other hands on the puts that it reaches. -/
theorem forEach_metered {ι : Type} {items : List ι} {body : ι → TracedCallTask Unit}
    {put : ι → PagePut} (invariant : List ι → Buffer → Prop)
    (each : ∀ handled item, handled ++ [item] <+: items → ∀ uses counts lent,
      invariant handled lent → Triple alone (Metered name pages uses counts lent) (body item)
        (fun _ state => ∃ next lentNext,
          vfs.turn name pages counts (put item) = { ciphers := true, next := some next } ∧
          Metered name pages (uses ++ [vfs.putUse name (put item)]) next lentNext state ∧
          invariant (handled ++ [item]) lentNext)
        (fun _ => Halted uses (vfs.turn name pages counts (put item)) (vfs.putUse name (put item))))
    (begins : invariant [] lent) :
    Triple alone (Metered name pages uses counts lent) (forEach items body)
      (fun _ state => state.1.2 =
        uses ++ (vfs.putsReached name pages counts (items.map put)).map (vfs.putUse name))
      (fun _ state => state.1.2 =
        uses ++ (vfs.putsReached name pages counts (items.map put)).map (vfs.putUse name)) := by
  have fromHandled (handled rest : List ι) (split : handled ++ rest = items)
      (uses : List CipherUse) (counts : CallCounts) (lent : Buffer)
      (holds : invariant handled lent) :
      Triple alone (Metered name pages uses counts lent) (forEach rest body)
        (fun _ state => state.1.2 =
          uses ++ (vfs.putsReached name pages counts (rest.map put)).map (vfs.putUse name))
        (fun _ state => state.1.2 =
          uses ++ (vfs.putsReached name pages counts (rest.map put)).map (vfs.putUse name)) := by
    induction rest generalizing handled uses counts lent with
    | nil => exact triple_pure _ fun _ metered => metered.uses.trans (List.append_nil _).symm
    | cons item rest ih =>
        have shifted : handled ++ [item] ++ rest = items := by
          rw [← split, List.append_assoc, List.singleton_append]
        rw [List.map_cons, putsReached]
        refine ((each handled item ⟨rest, shifted⟩ uses counts lent holds).mono
          (fun _ begins => begins) (fun _ _ known => known) ?_).bind fun _ => ?_
        · rintro _ state ⟨stops, same⟩
          rw [stops, same, List.append_nil]
          split <;> rfl
        · intro state result final known ran
          obtain ⟨next, lentNext, isTurn, metered, kept⟩ := known
          have ends := ih (handled ++ [item]) shifted _ next lentNext kept state result final
            metered ran
          rw [isTurn]
          simp only [if_true, List.map_append, List.map_cons, List.map_nil, ← List.append_assoc]
          exact ends
  exact fromHandled [] items rfl uses counts lent begins

private theorem triple_callback {σ : Type} {before final : σ → Prop}
    {body : Task σ JsValue (List JsValue)}
    (triple : Triple alone before body (fun _ => final) (fun _ => final))
    (rejected : JsValue → σ → Prop) :
    Triple alone before (callback body) (fun _ => final) rejected :=
  (triple.bind fun _ => triple_pure _ fun _ kept => kept).catch fun _ =>
    triple_pure _ fun _ kept => kept

private theorem xWrite_metered {encryption : Encryption}
    (isCiphered : vfs.pageEncryption name = some encryption)
    (sameLength : ∀ nonce key message,
      (vfs.runtime.streamXor nonce key message).length = message.length)
    (offset : Nat) (data : Buffer) (rejected : JsValue → TracedState × Buffer → Prop) :
    Triple alone (Metered name pages uses counts data) (Traced.xWrite vfs name offset)
      (fun _ state => state.1.2 = uses ++
        (vfs.putsReached name pages counts ((Paging.pagesTouched pageSize offset data.length).map
          (vfs.writePut name pages data offset))).map (vfs.putUse name)) rejected := by
  refine triple_callback ?_ _
  refine Triple.bind (?_ : Triple alone _ _ (fun length state =>
    Metered name pages uses counts data state ∧ length = data.length) _) fun length =>
      triple_known ?_
  · apply triple_read (stable_alone _)
    intro state metered
    exact ⟨metered, congrArg List.length metered.lent⟩
  rintro rfl
  refine (forEach_metered (fun handled lent => Intact offset handled data lent) ?_
    ⟨rfl, fun _ _ _ => rfl⟩).bind fun _ => triple_pure _ fun _ kept => kept
  intro handled index reached uses counts lent intact
  obtain ⟨fresh, touched⟩ := Paging.next_page reached
  exact writePage_metered isCiphered sameLength intact fresh touched

/-- A file that grows puts pages of zeros. -/
theorem growPage_metered {encryption : Encryption}
    (isCiphered : vfs.pageEncryption name = some encryption) (index : Nat) :
    Triple alone (Metered name pages uses counts lent)
      (Traced.tryPut vfs name index (.own (Buffer.alloc pageSize)))
      (fun _ state => ∃ next lentNext,
        vfs.turn name pages counts (growPut index) = { ciphers := true, next := some next } ∧
        Metered name pages (uses ++ [vfs.putUse name (growPut index)]) next lentNext state ∧ True)
      (fun _ => Halted uses (vfs.turn name pages counts (growPut index))
        (vfs.putUse name (growPut index))) := by
  refine (tryPut_metered isCiphered index (.own (Buffer.alloc pageSize))).mono
    (fun _ begins => begins) ?_ fun _ _ ends => ends
  rintro _ state ⟨next, packed, isNext, metered, _⟩
  exact ⟨next, _, isNext, metered, trivial⟩

private theorem xTruncate_metered {encryption : Encryption}
    (isCiphered : vfs.pageEncryption name = some encryption) (size : Nat) (data : Buffer)
    (rejected : JsValue → TracedState × Buffer → Prop) :
    Triple alone (Metered name pages uses counts data) (Traced.xTruncate vfs name size)
      (fun _ state => state.1.2 = uses ++ (match vfs.countStore counts with
        | some counted =>
            if (size : Int) > (pages.last + 1) * pageSize then
              vfs.putsReached name pages counted ((List.range' (pages.last + 1).toNat
                (((size : Int) - 1) / pageSize - pages.last).toNat).map growPut)
            else []
        | none => []).map (vfs.putUse name)) rejected := by
  refine triple_callback ?_ _
  rw [last_eq]
  have nothing (state : TracedState × Buffer) (same : state.1.2 = uses) :
      state.1.2 = uses ++ ([] : List PagePut).map (vfs.putUse name) :=
    same.trans (List.append_nil _).symm
  refine Triple.bind ((storeCall_metered _ _ _ fun _ => ⟨rfl, rfl, rfl⟩).mono
    (fun _ begins => begins) (fun _ _ known => known) ?_) fun index => ?_
  · rintro _ state ⟨counted, same⟩
    rw [counted]
    exact nothing state same
  intro state result final begins ran
  obtain ⟨next, before, counted, metered, samePages, rfl⟩ := begins
  rw [counted]
  have isLast : (before.stores (vfs.storeOf name before) name).last = pages.last := by
    rw [storeOf_ciphered (Option.isSome_of_mem isCiphered), samePages]
  simp only [isLast] at ran
  refine (?_ : Triple alone (Metered name pages uses next data) _ _ _) state result final
    metered ran
  refine Triple.bind (triple_ite (fun grows => ?_) fun stays => triple_ite (fun _ => ?_)
    fun _ => ?_) fun _ => triple_pure _ fun _ kept => kept
  · simp only [if_pos grows]
    exact forEach_metered (fun _ _ => True)
      (fun _ page _ _ _ _ _ => growPage_metered isCiphered page) trivial
  · simp only [if_neg stays]
    exact triple_throw _ fun state metered => nothing state metered.uses
  · simp only [if_neg stays]
    exact triple_pure _ fun state metered => nothing state metered.uses

private theorem onShared_silent {α : Type} (task : VfsTask α) (uses : List CipherUse) :
    Triple alone (fun state => state.1.2 = uses) (task.onShared.onShared : TracedCallTask α)
      (fun _ state => state.1.2 = uses) (fun _ state => state.1.2 = uses) := by
  apply triple_of_run
  rintro ⟨⟨state, trace⟩, lent⟩ same
  rw [run_onShared, run_onShared]
  cases (task.run state).1 <;> exact same

private theorem beside_silent {α : Type} (task : CallTask α) (uses : List CipherUse) :
    Triple alone (fun state => state.1.2 = uses) (task.beside : TracedCallTask α)
      (fun _ state => state.1.2 = uses) (fun _ state => state.1.2 = uses) := by
  apply triple_of_run
  rintro ⟨⟨state, trace⟩, lent⟩ same
  rw [run_beside]
  cases (task.run (state, lent)).1 <;> exact same

section Plain

variable (isPlain : vfs.pageEncryption name = none)

include isPlain

private theorem tryPut_silent (index : Nat) (value : PageBuffer) (uses : List CipherUse) :
    Triple alone (fun state => state.1.2 = uses) (Traced.tryPut vfs name index value)
      (fun _ state => state.1.2 = uses) (fun _ state => state.1.2 = uses) := by
  refine (onShared_silent _ uses).bind fun batch => (beside_silent _ uses).bind fun packed => ?_
  refine Triple.bind (?_ : Triple alone _ _ (fun _ state => state.1.2 = uses) _) fun value => ?_
  · refine Triple.bind (?_ : Triple alone _ _ (fun _ state => state.1.2 = uses) _) fun _ =>
      beside_silent _ uses
    apply triple_modify (stable_alone _)
    intro state same
    unfold cipherUses
    rw [isPlain]
    exact (List.append_nil _).trans same
  · exact (read_keeps _ _ _).bind fun _ => onShared_silent _ uses

private theorem writePage_silent (length offset index : Nat) (uses : List CipherUse) :
    Triple alone (fun state => state.1.2 = uses) (Traced.writePage vfs name length offset index)
      (fun _ state => state.1.2 = uses) (fun _ state => state.1.2 = uses) := by
  unfold Traced.writePage
  simp only
  exact triple_ite (fun _ => tryPut_silent isPlain index _ uses) fun _ =>
    (onShared_silent _ uses).bind fun _ => (read_keeps _ _ _).bind fun _ =>
      tryPut_silent isPlain index _ uses

private theorem xWrite_silent (offset : Nat) (uses : List CipherUse)
    (rejected : JsValue → TracedState × Buffer → Prop) :
    Triple alone (fun state => state.1.2 = uses) (Traced.xWrite vfs name offset)
      (fun _ state => state.1.2 = uses) rejected :=
  triple_callback ((read_keeps _ _ _).bind fun length =>
    (triple_forEach fun page _ => writePage_silent isPlain length offset page uses).bind fun _ =>
      triple_pure _ fun _ same => same) _

private theorem xTruncate_silent (size : Nat) (uses : List CipherUse)
    (rejected : JsValue → TracedState × Buffer → Prop) :
    Triple alone (fun state => state.1.2 = uses) (Traced.xTruncate vfs name size)
      (fun _ state => state.1.2 = uses) rejected := by
  refine triple_callback ((onShared_silent _ uses).bind fun index => ?_) _
  refine Triple.bind (?_ : Triple alone _ _ (fun _ state => state.1.2 = uses) _) fun _ =>
    triple_pure _ fun _ same => same
  exact triple_ite (fun _ => triple_forEach fun page _ => tryPut_silent isPlain page _ uses)
    fun _ => triple_ite (fun _ => triple_throw _ fun _ same => same)
      fun _ => triple_pure _ fun _ same => same

end Plain

private theorem run_withBuffer (task : TracedCallTask CallbackArgs) (buffer : Buffer)
    (state : TracedState) :
    ((Traced.withBuffer task buffer).run state).2 = (task.run (state, buffer)).2.1 := by
  unfold Traced.withBuffer
  rw [run_bind, run_withLocal]
  cases (task.run (state, buffer)).1 <;> rfl

/-- The trace of a call is what its pages and the calls that fail say. -/
theorem perform_ciphers (sameLength : ∀ nonce key message,
      (vfs.runtime.streamXor nonce key message).length = message.length)
    (call : VfsCall) (state : VfsState) (uses : List CipherUse) :
    ((Traced.perform vfs call).run (state, uses)).2.2 = uses ++ vfs.ciphered state call := by
  have others (call : VfsCall) (nothing : vfs.putsOf state call = []) :
      (((vfs.perform call).onShared : TracedTask VfsReply).run (state, uses)).2.2 =
        uses ++ vfs.ciphered state call := by
    rw [run_onShared, ciphered, nothing, List.map_nil, ite_self, List.append_nil]
  cases call with
  | xWrite name data offset =>
      change ((Traced.withBuffer (Traced.xWrite vfs name offset) data).run (state, uses)).2.2 = _
      rw [run_withBuffer]
      unfold ciphered
      cases isCiphered : vfs.pageEncryption name with
      | none =>
          simp only [VfsCall.file, isCiphered]
          exact ((xWrite_silent isCiphered offset uses fun _ state => state.1.2 = uses).run_always
            rfl).trans (List.append_nil _).symm
      | some encryption =>
          simp only [VfsCall.file, isCiphered]
          exact (xWrite_metered isCiphered sameLength offset data
            fun _ state => _).run_always ⟨rfl, rfl, rfl, rfl, rfl⟩
  | xTruncate name size =>
      change ((Traced.withBuffer (Traced.xTruncate vfs name size) []).run (state, uses)).2.2 = _
      rw [run_withBuffer]
      unfold ciphered
      cases isCiphered : vfs.pageEncryption name with
      | none =>
          simp only [VfsCall.file, isCiphered]
          exact ((xTruncate_silent isCiphered size uses fun _ state => state.1.2 = uses).run_always
            rfl).trans (List.append_nil _).symm
      | some encryption =>
          simp only [VfsCall.file, isCiphered]
          exact (xTruncate_metered isCiphered size []
            fun _ state => _).run_always ⟨rfl, rfl, rfl, rfl, rfl⟩
  | xDelete name => exact others _ rfl
  | xAccess name => exact others _ rfl
  | xRead name buffer offset => exact others _ rfl
  | xSync name => exact others _ rfl
  | xSize name => exact others _ rfl

end ParaVFS
end ParaQL
