/-
What a write leaves in the bytes that SQLite lent to it.

A page that the range covers is handed on as a view of the lent bytes, and the stream
cipher writes over the page it is given.  The page is a copy where it was compressed
before, and the database file is not ciphered here at all.  What is left is the one case
in which the cipher works in SQLite's buffer.
-/

import ParaQL.VfsRefinement

namespace ParaQL

open Async Async.Task Bytes

def PageBuffer.written (lent : Buffer) (page : Buffer) : PageBuffer → Buffer
  | .own _ => lent
  | .lent start => lent.splice start page

namespace ParaVFS

/-- The range covers the whole page. -/
def CoversPage (offset length index : Nat) : Prop :=
  min (offset + length) (index * pageSize + pageSize) - max offset (index * pageSize) = pageSize

instance (offset length index : Nat) : Decidable (CoversPage offset length index) :=
  inferInstanceAs (Decidable (_ = _))

def lentStart (offset index : Nat) : Nat := max offset (index * pageSize) - offset

def lentPage (offset : Nat) (data : Buffer) (index : Nat) : Buffer :=
  data.subarray (lentStart offset index) (lentStart offset index + pageSize)

def storeCallsOf (offset length index : Nat) : Nat :=
  if CoversPage offset length index then 1 else 2

variable (vfs : ParaVFS)

/-- Whether one of the store calls made for a page fails, `call` being the first. -/
def pageFails (offset length call index : Nat) : Bool :=
  (List.range' call (storeCallsOf offset length index)).any vfs.runtime.fault

def pagesReached (offset length : Nat) : Nat → List Nat → List Nat
  | _, [] => []
  | call, index :: rest =>
      index :: if vfs.pageFails offset length call index then []
        else pagesReached offset length (call + storeCallsOf offset length index) rest

variable {vfs} {name : FileName} {offset index : Nat} {handled : List Nat} {data lent : Buffer}

theorem CoversPage.inside (covers : CoversPage offset data.length index) :
    lentStart offset index + pageSize ≤ data.length := by
  unfold CoversPage pageSize at covers
  unfold lentStart pageSize
  omega

theorem CoversPage.onPage (covers : CoversPage offset data.length index) (position : Nat) :
    (offset + position) / pageSize = index ↔
      lentStart offset index ≤ position ∧ position < lentStart offset index + pageSize := by
  rw [Paging.page_eq_iff (offset + position) index (by decide)]
  unfold CoversPage pageSize at covers
  unfold lentStart pageSize
  omega

theorem lentPage_intact (intact : Intact offset handled data lent) (fresh : index ∉ handled)
    (covers : CoversPage offset data.length index) :
    lentPage offset lent index = lentPage offset data index := by
  apply intact.subarray fresh _ _ covers.inside
  intro position lower upper
  exact (covers.onPage position).2 ⟨lower, upper⟩

theorem Intact.splice {page : Buffer} (intact : Intact offset handled data lent)
    (covers : CoversPage offset data.length index) (full : page.length = pageSize) :
    Intact offset (handled ++ [index]) data (lent.splice (lentStart offset index) page) := by
  constructor
  · rw [Buffer.length_splice, intact.1]
  · intro position inside unhandled
    rw [List.mem_append, List.mem_singleton, not_or, covers.onPage position] at unhandled
    rw [Buffer.byteAt_splice, full, if_neg (by omega)]
    exact intact.2 position inside unhandled.1

theorem Intact.more (intact : Intact offset handled data lent) (index : Nat) :
    Intact offset (handled ++ [index]) data lent := by
  refine ⟨intact.1, fun position inside unhandled => intact.2 position inside ?_⟩
  exact fun member => unhandled (List.mem_append_left _ member)

/-- What is written in place of a page shows, unless it is what was there. -/
theorem splice_eq_data_iff {page : Buffer} (intact : Intact offset handled data lent)
    (fresh : index ∉ handled) (covers : CoversPage offset data.length index)
    (full : page.length = pageSize) :
    lent.splice (lentStart offset index) page = data ↔
      lent = data ∧ page = lentPage offset data index := by
  have inside := covers.inside
  constructor
  · intro same
    have bytes (position : Nat) := congrArg (fun buffer => buffer.byteAt position) same
    simp only [Buffer.byteAt_splice, full, intact.1] at bytes
    constructor
    · apply Buffer.ext_byteAt intact.1
      intro position within
      rw [intact.1] at within
      by_cases here : (offset + position) / pageSize = index
      · exact intact.2 position within (here ▸ fresh)
      · rw [covers.onPage position] at here
        rw [← bytes position, if_neg (by omega)]
    · apply Buffer.ext_byteAt
      · rw [lentPage, Buffer.length_subarray, full]
        omega
      · intro position within
        rw [full] at within
        have written := bytes (lentStart offset index + position)
        rw [if_pos (by omega), Nat.add_sub_cancel_left] at written
        rw [lentPage, Buffer.byteAt_subarray, if_pos (by omega), written]
  · rintro ⟨rfl, rfl⟩
    apply Buffer.ext_byteAt (Buffer.length_splice _ _ _)
    intro position _within
    rw [Buffer.byteAt_splice, full]
    split
    · rename_i within
      rw [lentPage, Buffer.byteAt_subarray, if_pos (by omega)]
      congr 1
      omega
    · rfl

theorem onShared_keeps {α : Type} (task : VfsTask α) (data : Buffer) :
    Triple alone (fun state => state.2 = data) (task.onShared : CallTask α)
      (fun _ state => state.2 = data) (fun _ state => state.2 = data) := by
  apply triple_of_run
  rintro ⟨state, lent⟩ same
  rw [run_onShared]
  cases (task.run state).1 <;> exact same

theorem read_keeps {σ α : Type} (view : σ → α) (kept : σ → Prop)
    (rejected : JsValue → σ → Prop) :
    Triple alone kept (Task.read view) (fun _ => kept) rejected :=
  triple_read (stable_alone _) fun _ known => known

def Spared (vfs : ParaVFS) (name : FileName) (value : PageBuffer) : Prop :=
  vfs.pageEncryption name = none ∨ ∃ page, value = .own page

private theorem encryptPage_keeps (index : Nat) (value : PageBuffer) (data : Buffer) :
    Triple alone (fun state => state.2 = data ∧ Spared vfs name value)
      (vfs.encryptPage name index value) (fun _ state => state.2 = data)
      (fun _ state => state.2 = data) := by
  apply triple_known
  intro spared
  unfold Spared pageEncryption at spared
  unfold encryptPage
  split
  · rename_i encryption encrypted
    refine triple_ite (fun tmp => ?_) fun _ => triple_pure _ fun _ same => same
    rw [if_pos tmp, encrypted] at spared
    obtain ⟨page, rfl⟩ := spared.resolve_left (Option.some_ne_none _)
    exact triple_atomic (stable_alone _) fun _ same => same
  · exact triple_pure _ fun _ same => same

private theorem packPage_keeps (value : PageBuffer) (data : Buffer)
    (spared : vfs.compressed = true ∨ Spared vfs name value) :
    Triple alone (fun state => state.2 = data) (vfs.packPage value)
      (fun packed state => state.2 = data ∧ Spared vfs name packed)
      (fun _ state => state.2 = data) := by
  unfold packPage
  refine triple_ite (fun _ => ?_) fun plain => ?_
  · exact (read_keeps _ _ _).bind fun _ => (onShared_keeps _ data).bind fun packed =>
      triple_pure _ fun _ same => ⟨same, Or.inr ⟨packed, rfl⟩⟩
  · exact triple_pure _ fun _ same => ⟨same, spared.resolve_left plain⟩

theorem tryPut_keeps (index : Nat) (value : PageBuffer) (data : Buffer)
    (spared : vfs.compressed = true ∨ Spared vfs name value) :
    Triple alone (fun state => state.2 = data) (vfs.tryPut name index value)
      (fun _ state => state.2 = data) (fun _ state => state.2 = data) :=
  (onShared_keeps _ data).bind fun _ =>
    (packPage_keeps value data spared).bind fun packed =>
      (encryptPage_keeps index packed data).bind fun _ =>
        (read_keeps _ _ _).bind fun _ => onShared_keeps _ data

/-- Only a page that the range covers, ciphered but not compressed, is touched. -/
theorem writePage_keeps (length offset index : Nat) (data : Buffer)
    (spared : vfs.compressed = true ∨ vfs.pageEncryption name = none ∨
      ¬CoversPage offset length index) :
    Triple alone (fun state => state.2 = data) (vfs.writePage name length offset index)
      (fun _ state => state.2 = data) (fun _ state => state.2 = data) := by
  unfold writePage
  simp only
  refine triple_ite (fun covers => ?_) fun _ => ?_
  · apply tryPut_keeps
    rcases spared with packed | plain | partly
    · exact Or.inl packed
    · exact Or.inr (Or.inl plain)
    · exact absurd covers partly
  · exact (onShared_keeps _ data).bind fun _ => (read_keeps _ _ _).bind fun _ =>
      tryPut_keeps index _ data (Or.inr (Or.inr ⟨_, rfl⟩))

/-! ### A write to a ciphered file -/

private theorem storeCall_counts {α : Type} (op : StoreOp) (name : FileName)
    (target : VfsState → StoreRef) (action : VfsState → α × VfsState)
    (keeps : ∀ state, (action state).2.storeCalls = state.storeCalls) (call : Nat)
    (data : Buffer) :
    Triple alone (fun state => state.1.storeCalls = call ∧ state.2 = data)
      (vfs.storeCall op name target action).onShared
      (fun _ state => state.1.storeCalls = call + 1 ∧ state.2 = data ∧
        vfs.runtime.fault call = false)
      (fun _ state => state.2 = data ∧ vfs.runtime.fault call = true) := by
  apply triple_of_run
  rintro ⟨state, lent⟩ ⟨rfl, same⟩
  obtain ⟨failed, isFault, ran⟩ := run_storeCall_eq vfs op name target action state
  rw [run_onShared, ran]
  cases failed with
  | true => exact ⟨same, isFault.symm⟩
  | false =>
      refine ⟨?_, same, isFault.symm⟩
      exact keeps _

private theorem openBatch_storeCalls (name : FileName) (call : Nat) (data : Buffer)
    (rejected : JsValue → VfsState × Buffer → Prop) :
    Triple alone (fun state => state.1.storeCalls = call ∧ state.2 = data)
      (vfs.openBatch name).onShared
      (fun _ state => state.1.storeCalls = call ∧ state.2 = data) rejected := by
  apply triple_of_run
  rintro ⟨state, lent⟩ ⟨counted, same⟩
  rw [run_onShared, openBatch, run_atomic]
  split <;> exact ⟨counted, same⟩

/-- Without compression a page is read by one store call. -/
theorem get_counts (plain : ¬vfs.compressed = true) (name : FileName) (index call : Nat)
    (data : Buffer) :
    Triple alone (fun state => state.1.storeCalls = call ∧ state.2 = data)
      (vfs.get name index).onShared
      (fun _ state => state.1.storeCalls = call + 1 ∧ state.2 = data ∧
        vfs.runtime.fault call = false)
      (fun _ state => state.2 = data ∧ vfs.runtime.fault call = true) := by
  have unpacked (value : Option Buffer) : vfs.unpack value = pure (id value) := by
    cases value with
    | none => rfl
    | some page => exact if_neg plain
  unfold get
  simp only [fetch_eq, unpacked]
  rw [storeCall_map vfs _ _ _ _ id]
  exact storeCall_counts _ _ _ _ (fun _ => rfl) call data

def pageWritten (vfs : ParaVFS) (encryption : Encryption) (name : FileName) (offset : Nat)
    (lent : Buffer) (index : Nat) : Buffer :=
  if CoversPage offset lent.length index then
    lent.splice (lentStart offset index)
      (encryption.encrypt vfs.runtime (lentPage offset lent index) name index)
  else lent

def LeavesPage (vfs : ParaVFS) (encryption : Encryption) (name : FileName) (offset : Nat)
    (data : Buffer) (index : Nat) : Prop :=
  CoversPage offset data.length index →
    encryption.encrypt vfs.runtime (lentPage offset data index) name index =
      lentPage offset data index

section PageWritten

variable (encryption : Encryption) (intact : Intact offset handled data lent)
  (sameLength : ∀ nonce key message,
    (vfs.runtime.streamXor nonce key message).length = message.length)

include intact sameLength

omit intact in
theorem length_encrypt_lentPage (covers : CoversPage offset data.length index) :
    (encryption.encrypt vfs.runtime (lentPage offset data index) name index).length =
      pageSize := by
  have inside := covers.inside
  rw [Encryption.encrypt, sameLength, lentPage, Buffer.length_subarray]
  omega

private theorem pageWritten_intact (index : Nat) :
    Intact offset (handled ++ [index]) data
      (vfs.pageWritten encryption name offset lent index) := by
  unfold pageWritten
  split
  · rename_i covers
    have full : (encryption.encrypt vfs.runtime (lentPage offset lent index) name index).length =
        pageSize := length_encrypt_lentPage encryption sameLength covers
    rw [intact.1] at covers
    exact intact.splice covers full
  · exact intact.more index

private theorem pageWritten_eq_data_iff (fresh : index ∉ handled) :
    vfs.pageWritten encryption name offset lent index = data ↔
      lent = data ∧ vfs.LeavesPage encryption name offset data index := by
  unfold pageWritten LeavesPage
  rw [intact.1]
  by_cases covers : CoversPage offset data.length index
  · rw [if_pos covers, lentPage_intact intact fresh covers,
      splice_eq_data_iff intact fresh covers
        (length_encrypt_lentPage encryption sameLength covers)]
    exact and_congr_right fun _ => ⟨fun same _ => same, fun leaves => leaves covers⟩
  · rw [if_neg covers]
    exact ⟨fun same => ⟨same, fun whole => absurd whole covers⟩, fun known => known.1⟩

end PageWritten

section Ciphered

variable {encryption : Encryption} (ciphered : vfs.pageEncryption name = some encryption)

include ciphered

private theorem encryptPage_writes (index : Nat) (value : PageBuffer) (call : Nat) (data : Buffer)
    (rejected : JsValue → VfsState × Buffer → Prop) :
    Triple alone (fun state => state.1.storeCalls = call ∧ state.2 = data)
      (vfs.encryptPage name index value)
      (fun _ state => state.1.storeCalls = call ∧ state.2 = value.written data
        (encryption.encrypt vfs.runtime (value.bytes data) name index)) rejected := by
  unfold pageEncryption at ciphered
  split at ciphered
  · rename_i tmp
    unfold encryptPage
    simp only [ciphered, if_pos tmp]
    apply triple_atomic (stable_alone _)
    rintro ⟨state, lent⟩ ⟨counted, rfl⟩
    cases value <;> exact ⟨counted, rfl⟩
  · cases ciphered

variable (plain : ¬vfs.compressed = true)

include plain

private theorem tryPut_writes (index : Nat) (value : PageBuffer) (call : Nat) (data : Buffer) :
    Triple alone (fun state => state.1.storeCalls = call ∧ state.2 = data)
      (vfs.tryPut name index value)
      (fun _ state => state.1.storeCalls = call + 1 ∧ state.2 = value.written data
        (encryption.encrypt vfs.runtime (value.bytes data) name index) ∧
        vfs.runtime.fault call = false)
      (fun _ state => state.2 = value.written data
        (encryption.encrypt vfs.runtime (value.bytes data) name index) ∧
        vfs.runtime.fault call = true) := by
  have unpacked : vfs.packPage value = pure value := if_neg plain
  unfold tryPut
  rw [unpacked]
  refine (openBatch_storeCalls name call data _).bind fun batch => ?_
  change Triple alone _ (vfs.encryptPage name index value >>= _) _ _
  refine (encryptPage_writes ciphered index value call data _).bind fun _ => ?_
  apply Triple.bind (read_keeps _ _ _)
  intro _
  exact storeCall_counts _ _ _ _ (fun state => VfsState.storeCalls_addTo state _ _ _) call _

private theorem writePage_writes (offset index call : Nat) (lent : Buffer) :
    Triple alone (fun state => state.1.storeCalls = call ∧ state.2 = lent)
      (vfs.writePage name lent.length offset index)
      (fun _ state => state.1.storeCalls = call + storeCallsOf offset lent.length index ∧
        state.2 = vfs.pageWritten encryption name offset lent index ∧
        vfs.pageFails offset lent.length call index = false)
      (fun _ state => state.2 = vfs.pageWritten encryption name offset lent index ∧
        vfs.pageFails offset lent.length call index = true) := by
  unfold writePage pageWritten pageFails storeCallsOf
  simp only
  by_cases covers : CoversPage offset lent.length index
  · have whole := covers
    unfold CoversPage at whole
    simp only [if_pos covers, if_pos whole, List.range'_one, List.any_cons, List.any_nil,
      Bool.or_false]
    exact tryPut_writes ciphered plain index (.lent (lentStart offset index)) call lent
  · have partly := covers
    unfold CoversPage at partly
    have calls : (List.range' call 2).any vfs.runtime.fault =
        (vfs.runtime.fault call || vfs.runtime.fault (call + 1)) := by
      simp only [List.range', List.any_cons, List.any_nil, Bool.or_false]
    simp only [if_neg covers, if_neg partly, calls]
    refine Triple.bind ((get_counts plain name index call lent).mono (fun _ begins => begins)
      (fun _ _ known => known) ?_) fun found => ?_
    · intro rejection state known
      exact ⟨known.1, Bool.or_eq_true_iff.2 (Or.inl known.2)⟩
    apply Triple.bind (read_keeps _ _ _)
    intro patch
    have put := tryPut_writes ciphered plain index
      (.own (patch.copy (found.getD (Buffer.alloc pageSize))
        (max offset (index * pageSize) - index * pageSize) 0 patch.length)) (call + 1) lent
    intro state result final begins ran
    obtain ⟨counted, same, succeeded⟩ := begins
    have ends := put state result final ⟨counted, same⟩ ran
    cases result with
    | ok value => exact ⟨ends.1, ends.2.1, by rw [succeeded, ends.2.2]; rfl⟩
    | error rejection => exact ⟨ends.1, Bool.or_eq_true_iff.2 (Or.inr ends.2)⟩

/-- The loop of a write, from the pages that were not handled yet. -/
theorem writePages_eq_data_iff (sameLength : ∀ nonce key message,
      (vfs.runtime.streamXor nonce key message).length = message.length)
    (pages : List Nat) (distinct : (handled ++ pages).Nodup) (call : Nat)
    (intact : Intact offset handled data lent) {state : VfsState}
    (counted : state.storeCalls = call) :
    ((forEach pages (vfs.writePage name data.length offset)).run (state, lent)).2.2 = data ↔
      lent = data ∧ ∀ index ∈ vfs.pagesReached offset data.length call pages,
        vfs.LeavesPage encryption name offset data index := by
  induction pages generalizing handled call lent state with
  | nil => exact ⟨fun same => ⟨same, fun _ member => absurd member List.not_mem_nil⟩, And.left⟩
  | cons index rest ih =>
      have fresh : index ∉ handled := by
        intro member
        exact (List.nodup_append.1 distinct).2.2 index member index List.mem_cons_self rfl
      have written : vfs.pageWritten encryption name offset lent index = data ↔
          lent = data ∧ vfs.LeavesPage encryption name offset data index :=
        pageWritten_eq_data_iff encryption intact sameLength fresh
      have after : Intact offset (handled ++ [index]) data
          (vfs.pageWritten encryption name offset lent index) :=
        pageWritten_intact encryption intact sameLength index
      have begins : (fun state : VfsState × Buffer => state.1.storeCalls = call ∧ state.2 = lent)
          (state, lent) := ⟨counted, rfl⟩
      have ends := (writePage_writes ciphered plain offset index call lent).run begins
      rw [intact.1] at ends
      rw [forEach, run_bind, pagesReached, List.forall_mem_cons, ← and_assoc, ← written]
      generalize (vfs.writePage name data.length offset index).run (state, lent) = ran at ends
      obtain ⟨result, next, lentNext⟩ := ran
      cases result with
      | error rejection =>
          obtain ⟨same, fails⟩ := ends
          simp only [andThen_error, fails, if_true, List.not_mem_nil, false_implies,
            implies_true, and_true]
          simp only at same
          rw [same]
      | ok value =>
          obtain ⟨counts, same, goes⟩ := ends
          simp only at same counts
          subst same
          simp only [andThen_ok, goes, Bool.false_eq_true, if_false]
          apply ih _ _ after counts
          rw [List.append_assoc]
          exact distinct

end Ciphered

private theorem run_xWrite_lent (offset : Nat) (state : VfsState) (data : Buffer) :
    ((vfs.xWrite name offset).run (state, data)).2.2 =
      ((forEach (Paging.pagesTouched pageSize offset data.length)
        (vfs.writePage name data.length offset)).run (state, data)).2.2 := by
  simp only [xWrite, callback, run_tryCatch, run_bind, run_read, andThen_ok]
  generalize (forEach _ (vfs.writePage name data.length offset)).run (state, data) = ran
  obtain ⟨result, after, lent⟩ := ran
  cases result <;> rfl

/-- What the native side finds in its buffer when it is called back. -/
theorem perform_xWrite_buffer (offset : Nat) (state : VfsState) (data : Buffer) :
    ∃ reply after, (vfs.perform (.xWrite name data offset)).run state = (.ok reply, after) ∧
      reply.buffer = ((vfs.xWrite name offset).run (state, data)).2.2 := by
  have always : ∃ args, ((vfs.xWrite name offset).run (state, data)).1 = .ok args := by
    rw [xWrite, callback, run_tryCatch, run_bind]
    generalize run _ (state, data) = ran
    obtain ⟨result, after⟩ := ran
    cases result <;> exact ⟨_, rfl⟩
  obtain ⟨args, called⟩ := always
  refine ⟨{ args := args, buffer := _ }, ((vfs.xWrite name offset).run (state, data)).2.1, ?_, rfl⟩
  simp only [perform, withBuffer, run_bind, run_withLocal, called, Except.map, andThen_ok,
    run_pure]

/-- A write gives SQLite its bytes back as they were exactly when the file is not
ciphered, or its pages are compressed first, or the cipher maps to itself each page that
the range covers and that the write comes to. -/
theorem xWrite_keeps_lent_iff (vfs : ParaVFS) (name : FileName) (offset : Nat) (data : Buffer)
    (state : VfsState) (sameLength : ∀ nonce key message,
      (vfs.runtime.streamXor nonce key message).length = message.length) :
    ((vfs.xWrite name offset).run (state, data)).2.2 = data ↔
      vfs.compressed = true ∨ ∀ encryption, vfs.pageEncryption name = some encryption →
        ∀ index ∈ vfs.pagesReached offset data.length state.storeCalls
            (Paging.pagesTouched pageSize offset data.length),
          vfs.LeavesPage encryption name offset data index := by
  rw [run_xWrite_lent]
  by_cases spared : vfs.compressed = true ∨ vfs.pageEncryption name = none
  · have keeps : Triple alone (fun state => state.2 = data)
        (forEach (Paging.pagesTouched pageSize offset data.length)
          (vfs.writePage name data.length offset))
        (fun _ state => state.2 = data) (fun _ state => state.2 = data) :=
      triple_forEach fun index _ => writePage_keeps _ _ index _ (or_assoc.1 (Or.inl spared))
    refine iff_of_true (keeps.run_always rfl) ?_
    rcases spared with packed | unciphered
    · exact Or.inl packed
    · right
      intro encryption ciphered
      rw [unciphered] at ciphered
      cases ciphered
  · obtain ⟨plain, isCiphered⟩ := not_or.1 spared
    obtain ⟨encryption, ciphered⟩ := Option.ne_none_iff_exists'.1 isCiphered
    have begins : Intact offset [] data data := ⟨rfl, fun _ _ _ => rfl⟩
    rw [writePages_eq_data_iff ciphered plain sameLength
      (Paging.pagesTouched pageSize offset data.length)
      (Paging.pagesTouched_nodup pageSize offset data.length) _ begins rfl]
    constructor
    · rintro ⟨_, leaves⟩
      right
      intro other same
      rw [ciphered] at same
      cases same
      exact leaves
    · intro known
      exact ⟨rfl, known.resolve_left plain encryption ciphered⟩

def flipping : ParaVFS :=
  { sample with
    runtime := { Runtime.copying with streamXor := fun _ _ message => message.map (255 - ·) }
    encryption := some { key := [], encryptionKey := [] } }

theorem xWrite_keeps_lent_database :
    ((flipping.xWrite "paraql.db" 0).run
      (.initial fun _ _ => ∅, Buffer.alloc pageSize)).2.2 = Buffer.alloc pageSize := by
  apply (xWrite_keeps_lent_iff flipping "paraql.db" 0 _ _ fun _ _ _ => List.length_map _).2
  right
  intro encryption ciphered
  cases ciphered

/-- A whole page written to a journal comes back ciphered. -/
theorem xWrite_scrambles_journal_page :
    ((flipping.xWrite "paraql.db-journal" 0).run
      (.initial fun _ _ => ∅, Buffer.alloc pageSize)).2.2 ≠ Buffer.alloc pageSize := by
  have covers : CoversPage 0 (Buffer.alloc pageSize).length 0 := by
    rw [Buffer.length_alloc]
    rfl
  have pages : Paging.pagesTouched pageSize 0 (Buffer.alloc pageSize).length = [0] := by
    rw [Buffer.length_alloc]
    rfl
  rw [run_xWrite_lent, pages]
  intro same
  have begins : Intact 0 [] (Buffer.alloc pageSize) (Buffer.alloc pageSize) :=
    ⟨rfl, fun _ _ _ => rfl⟩
  have ciphered : flipping.pageEncryption "paraql.db-journal" =
      some { key := [], encryptionKey := [] } := rfl
  have leaves := ((writePages_eq_data_iff ciphered (by decide)
    (fun _ _ _ => List.length_map _) [0] (by decide) 0 begins rfl).1 same).2 0
      List.mem_cons_self covers
  have firstByte := congrArg (fun page => page.byteAt 0) leaves
  revert firstByte
  decide

end ParaVFS
end ParaQL
