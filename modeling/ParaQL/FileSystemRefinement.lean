/-
The VFS refines a file system.

Any number of files, with and without a name, are opened, used and closed under any
handles.  As long as the random names differ, each file answers as if it were alone.
-/

import ParaQL.OpenFiles
import ParaQL.Truncation

namespace ParaQL

open Async Async.Task Bytes

def Outcome.heard (outcome : Outcome) (call : VfsCall) : NativeReply :=
  nativeReply call { args := outcome.args, buffer := outcome.bytes }

def fileReply : FileAnswer → NativeReply
  | .done => okReply
  | .bytes buffer => { okReply with buffer := buffer }
  | .size size => { okReply with value := .number size }
  | .present there => { okReply with value := .bool there }
  | .missing => { okReply with status := 2570 }

namespace PageFile

structure Holds (file : PageFile) (held : HeldFile) : Prop where
  shows : file.Shows held.content held.dirty
  settled : held.synced = true ↔ file.pending = none

variable {file : PageFile} {held : HeldFile}

private theorem shows_nothing {pages : Pages} (nothing : ∀ index, pages.lookup index = none) :
    PageFile.Shows ⟨pages, none⟩ .empty ∅ := by
  have full : pages.FullPages := by
    intro index page found
    rw [nothing index] at found
    cases found
  have zero (position : Nat) : Paging.byteOf pageSize pages.page position = 0 := by
    rw [Paging.byteOf, Pages.page, nothing, Option.getD_none, Buffer.byteAt_alloc]
  refine ⟨full, full, zero, fun position _ => zero position, ?_, Or.inl rfl⟩
  intro index stored
  change (pages.lookup index).isSome at stored
  rw [nothing index] at stored
  cases stored

private theorem holds_nothing {pages : Pages} (nothing : ∀ index, pages.lookup index = none) :
    PageFile.Holds ⟨pages, none⟩ .empty :=
  ⟨shows_nothing nothing, iff_of_true rfl rfl⟩

theorem Holds.closed (holds : file.Holds held) (synced : held.synced = true) :
    file.pending = none :=
  holds.settled.1 synced

/-- `_xSize` reports a synced file in whole pages. -/
theorem Holds.sizeInBytes (holds : file.Holds held) (synced : held.synced = true) :
    file.sizeInBytes = held.content.paddedSize pageSize := by
  have lengths := congrArg List.length (holds.shows.concat (holds.closed synced))
  rw [FlatFile.padded, FlatFile.length_read, Pages.concat,
    Paging.length_concat _ _ holds.shows.committedFull.length_page] at lengths
  have lower := Pages.last_ge file.committed
  unfold PageFile.sizeInBytes FlatFile.paddedSize
  rw [← lengths]
  unfold pageSize
  omega

private theorem paddedSize_eq_zero_iff (content : FlatFile) :
    content.paddedSize pageSize = 0 ↔ content.size = 0 := by
  unfold FlatFile.paddedSize pageSize
  omega

private theorem Holds.stored_iff (holds : file.Holds held) (synced : held.synced = true) :
    file.committed.last ≥ 0 ↔ held.content.size ≠ 0 := by
  have size := holds.sizeInBytes synced
  have lower := Pages.last_ge file.committed
  rw [← not_iff_not, not_not, ← paddedSize_eq_zero_iff]
  unfold PageFile.sizeInBytes pageSize at size
  unfold pageSize
  omega

/-! ### The calls on a file -/

def Answers (file : PageFile) (call : VfsCall) (answer : FileAnswer) (held : HeldFile) : Prop :=
  ((file.perform call).1.heard call) = fileReply answer ∧ (file.perform call).2.Holds held

theorem Holds.read (holds : file.Holds held) (name : FileName) (buffer : Buffer) (offset : Nat)
    (clean : ∀ position ∈ held.dirty, ¬InRange offset buffer.length position) :
    file.Answers (.xRead name buffer offset)
      (.bytes (held.content.read offset buffer.length)) held := by
  refine ⟨?_, holds⟩
  rw [← holds.shows.read buffer offset clean]
  rfl

theorem Holds.write (holds : file.Holds held) (name : FileName) (data : Buffer) (offset : Nat)
    (nonempty : 0 < data.length)
    (covers : ∀ position ∈ held.dirty,
      position / pageSize ∈ Paging.pagesTouched pageSize offset data.length →
        InRange offset data.length position) :
    file.Answers (.xWrite name data offset) .done (held.write data offset) := by
  have some_op : file.writeOps data offset ≠ [] := by
    have touched := Paging.page_mem_pagesTouched offset data.length 0 pageSize_pos nonempty
    intro none_
    rw [List.map_eq_nil_iff.1 none_] at touched
    cases touched
  refine ⟨rfl, holds.shows.write data offset nonempty covers, iff_of_false ?_ ?_⟩
  · exact Bool.false_ne_true
  · change (file.addAll (file.writeOps data offset)).pending ≠ none
    rw [pending_addAll file _ some_op]
    exact Option.some_ne_none _

theorem Holds.sync (holds : file.Holds held) (name : FileName) (changed : held.synced = false) :
    file.Answers (.xSync name) .done held.sync := by
  obtain ⟨shows, closed⟩ := holds.shows.sync name
  refine ⟨?_, shows, iff_of_true rfl closed⟩
  have open_ : file.pending ≠ none := by
    intro none_
    rw [holds.settled.2 none_] at changed
    cases changed
  change (file.flush name).1.heard _ = _
  obtain ⟨ops, isOpen⟩ := Option.ne_none_iff_exists'.1 open_
  unfold PageFile.flush
  rw [isOpen]
  rfl

theorem Holds.size (holds : file.Holds held) (name : FileName) (synced : held.synced = true) :
    file.Answers (.xSize name) (.size (held.content.paddedSize pageSize)) held := by
  refine ⟨?_, holds⟩
  change Outcome.heard ⟨[.null, .number file.sizeInBytes], []⟩ _ = _
  rw [holds.sizeInBytes synced]
  rfl

theorem Holds.access (holds : file.Holds held) (name : FileName) (synced : held.synced = true) :
    file.Answers (.xAccess name) (.present (decide (held.content.size ≠ 0))) held := by
  refine ⟨?_, holds⟩
  change Outcome.heard ⟨[.null, .bool (decide (file.committed.last ≥ 0))], []⟩ _ = _
  rw [decide_eq_decide.2 (holds.stored_iff synced)]
  rfl

/-- Zero pages are appended, and nothing that was read before changes. -/
theorem Holds.grown (holds : file.Holds held) (synced : held.synced = true) {size : Nat}
    (grows : (size : Int) > file.sizeInBytes) :
    (file.addAll (file.growOps size)).Shows (held.content.extend size) ∅ := by
  have noneDirty := held.clean synced
  have closed := holds.closed synced
  have same := latest_of_closed closed
  have shows := holds.shows
  rw [noneDirty] at shows
  have isGrown : (file.addAll (file.growOps size)).latest = file.grown size := by
    rw [latest_addAll, same]
    rfl
  have bytes (position : Nat) :
      Paging.byteOf pageSize file.committed.page position = held.content.byte position :=
    shows.committed position (Set.notMem_empty position)
  have beyond := last_lt_target grows
  have lower := Pages.last_ge file.committed
  have further : held.content.size ≤ size := by
    have padded := holds.sizeInBytes synced
    unfold FlatFile.paddedSize pageSize at padded
    omega
  have sizeIs : (held.content.extend size).size = size := max_eq_right further
  refine ⟨?_, ?_, ?_, ?_, ?_, Or.inr ?_⟩
  · rw [committed_addAll]
    exact shows.committedFull
  · rw [isGrown]
    exact grown_full shows.committedFull
  · intro position
    rw [isGrown]
    exact (byte_grown position).trans (bytes position)
  · intro position _
    rw [committed_addAll]
    exact bytes position
  · intro index stored
    rw [isGrown, lookup_grown] at stored
    rw [sizeIs]
    by_cases appended : index ∈ file.growIndices size
    · have upper := ((mem_growIndices index).1 appended).2
      unfold pageSize at upper ⊢
      omega
    · rw [if_neg appended] at stored
      exact lt_of_lt_of_le (shows.stored index (same.symm ▸ stored)) further
  · rw [isGrown, lookup_grown, sizeIs, if_pos]
    · rfl
    · apply (mem_growIndices _).2
      unfold pageSize at beyond ⊢
      omega

theorem Holds.resize (holds : file.Holds held) (name : FileName) (size : Nat)
    (synced : held.synced = true) (grows : held.content.paddedSize pageSize ≤ size) :
    file.Answers (.xTruncate name size) .done (held.resize pageSize size) := by
  have sizeIs := holds.sizeInBytes synced
  unfold PageFile.Answers PageFile.perform PageFile.truncate
  by_cases further : (size : Int) > file.sizeInBytes
  · simp only [if_pos further]
    refine ⟨rfl, holds.grown synced further, iff_of_false ?_ ?_⟩
    · intro isSynced
      have equal : size = held.content.paddedSize pageSize := of_decide_eq_true isSynced
      omega
    · rw [pending_addAll _ _ (growOps_ne_nil further)]
      exact Option.some_ne_none _
  · have equal : size = held.content.paddedSize pageSize := by omega
    have reaches : ¬(size : Int) < file.sizeInBytes := by omega
    simp only [if_neg further, if_neg reaches]
    have noneDirty := held.clean synced
    have same := latest_of_closed (holds.closed synced)
    have shows := holds.shows
    have padded : held.content.size ≤ size := by
      rw [equal]
      unfold FlatFile.paddedSize pageSize
      omega
    refine ⟨rfl, ⟨shows.committedFull, shows.latestFull, shows.latest, ?_, ?_, ?_⟩,
      iff_of_true (decide_eq_true equal) (holds.closed synced)⟩
    · intro position _
      exact shows.committed position (noneDirty ▸ Set.notMem_empty position)
    · intro index stored
      exact lt_of_lt_of_le (shows.stored index stored) (le_max_left _ _)
    · rcases shows.reaches with isEmpty | reached
      · refine Or.inl ?_
        have zero := (paddedSize_eq_zero_iff held.content).2 isEmpty
        change max held.content.size size = 0
        omega
      · refine Or.inr ?_
        have lastPage : (max held.content.size size - 1) / pageSize =
            (held.content.size - 1) / pageSize := by
          have below := shows.stored _ reached
          rw [max_eq_right padded, equal]
          unfold FlatFile.paddedSize pageSize
          omega
        exact lastPage.symm ▸ reached

private theorem lookup_commit_deletes (pages : Pages) (count index : Nat) :
    (pages.commit ((List.range count).map fun target => (target, none))).lookup index =
      if index < count then none else pages.lookup index := by
  induction count with
  | zero => rfl
  | succ count ih =>
      rw [List.range_succ, List.map_append, List.map_singleton, Pages.lookup_commit_append, ih]
      by_cases here : index = count
      · rw [if_pos here, if_pos (by omega)]
      · rw [if_neg here]
        by_cases below : index < count
        · rw [if_pos below, if_pos (by omega)]
        · rw [if_neg below, if_neg (by omega)]

theorem Holds.delete (holds : file.Holds held) (name : FileName) (synced : held.synced = true) :
    file.Answers (.xDelete name) held.removal .empty := by
  have closed := holds.closed synced
  unfold PageFile.Answers PageFile.perform PageFile.deleteOps HeldFile.removal
  by_cases stored : file.committed.last ≥ 0
  · have some_op : (List.range (file.committed.last + 1).toNat).map
        (fun index => ((index, none) : PageOp)) ≠ [] := by
      rw [Ne, List.map_eq_nil_iff, List.range_eq_nil]
      omega
    have isThere := (holds.stored_iff synced).1 stored
    rw [if_pos stored, if_neg fun gone => isThere gone.2]
    unfold PageFile.flush
    rw [pending_addAll file _ some_op, closed]
    refine ⟨rfl, ?_⟩
    unfold PageFile.flushed
    rw [committed_addAll, pending_addAll file _ some_op, closed]
    apply holds_nothing
    intro index
    refine (lookup_commit_deletes file.committed _ index).trans ?_
    by_cases below : index < (file.committed.last + 1).toNat
    · rw [if_pos below]
    · rw [if_neg below]
      exact Pages.lookup_beyond_last _ _ (by omega)
  · have isEmpty := not_not.1 (mt (holds.stored_iff synced).2 stored)
    rw [if_neg stored, addAll_nil, if_pos ⟨synced, isEmpty⟩]
    unfold PageFile.flush
    rw [closed]
    refine ⟨rfl, ?_⟩
    obtain ⟨committed, pending⟩ := file
    obtain rfl : pending = none := closed
    exact holds_nothing fun index => Pages.lookup_beyond_last _ _ (by
      change ¬committed.last ≥ 0 at stored
      omega)

/-- A file that is not synced has something to flush, whatever else is deleted. -/
theorem Holds.removed (holds : file.Holds held) (name : FileName) :
    (file.perform (.xDelete name)).1.heard (.xDelete name) = fileReply held.removal := by
  by_cases synced : held.synced = true
  · exact (holds.delete name synced).1
  · have open_ := mt holds.settled.2 synced
    have stays : (file.addAll file.deleteOps).pending ≠ none := by
      by_cases none_ : file.deleteOps = []
      · rw [none_]
        exact open_
      · rw [pending_addAll _ _ none_]
        exact Option.some_ne_none _
    obtain ⟨ops, isOpen⟩ := Option.ne_none_iff_exists'.1 stays
    unfold PageFile.perform PageFile.flush HeldFile.removal
    rw [isOpen, if_neg fun gone => synced gone.1]
    rfl

theorem Holds.answers (holds : file.Holds held) (name : FileName) {op : FileOp}
    {answer : FileAnswer} {after : HeldFile} (step : held.Step pageSize op answer after) :
    file.Answers (fileCall name op) answer after := by
  cases step with
  | read buffer offset nonempty clean => exact holds.read name buffer offset clean
  | write data offset nonempty covers => exact holds.write name data offset nonempty covers
  | resize size synced grows => exact holds.resize name size synced grows
  | sync changed => exact holds.sync name changed
  | size synced => exact holds.size name synced

end PageFile

section Names

variable (random : Nat → List UInt8) (count : Nat)

def nameOf : FileId FileName → FileName
  | .named name => name
  | .temporary opening => temporaryName (random opening)

def Given (name : FileName) : Prop := ∀ opening < count, name ≠ temporaryName (random opening)

def Live (shown : FileSystem FileName) : FileId FileName → Prop
  | .named name => Given random count name
  | .temporary opening =>
      opening < count ∧
        ∃ handle deletes, shown.opened handle = some ⟨.temporary opening, deletes⟩

variable {random} {count} {shown : FileSystem FileName}

private theorem nameOf_injective
    (distinct : ∀ first < count, ∀ second < count, random first = random second → first = second)
    {first second : FileId FileName} (live : Live random count shown first)
    (alsoLive : Live random count shown second)
    (same : nameOf random first = nameOf random second) : first = second := by
  cases first with
  | named name =>
      cases second with
      | named other => exact congrArg FileId.named same
      | temporary opening => exact absurd same (live opening alsoLive.1)
  | temporary opening =>
      cases second with
      | named other => exact absurd same.symm (alsoLive opening live.1)
      | temporary other =>
          exact congrArg FileId.temporary
            (distinct _ live.1 _ alsoLive.1 (temporaryName_injective same))

end Names

/-- What the program and the file system have in common, for at most `count` files without
a name. -/
structure Reflects (vfs : ParaVFS) (random : Nat → List UInt8) (count : Nat) (files : PageFiles)
    (table : FileTable) (shown : FileSystem FileName) : Prop where
  encodes : vfs.Encodes table.vfs files
  draws : table.draws = shown.openings
  opened : ∀ handle file, shown.opened handle = some file →
    table.files handle = ⟨nameOf random file.id, file.deleteOnClose⟩
  live : ∀ handle file, shown.opened handle = some file → Live random count shown file.id
  holds : ∀ id, Live random count shown id → (files (nameOf random id)).Holds (shown.files id)
  upcoming : ∀ opening, shown.openings ≤ opening → opening < count →
    (files (temporaryName (random opening))).Holds .empty

namespace Reflects

variable {vfs : ParaVFS} {random : Nat → List UInt8} {count : Nat} {files filesAfter : PageFiles}
  {table : FileTable} {shown after : FileSystem FileName}
  (distinct : ∀ first < count, ∀ second < count, random first = random second → first = second)

include distinct

/-- One file changes, and handles may be closed. -/
theorem change (reflects : Reflects vfs random count files table shown) {id : FileId FileName}
    (live : Live random count shown id) {state : VfsState}
    (encodes : vfs.Encodes state filesAfter)
    (otherPages : ∀ name, name ≠ nameOf random id → filesAfter name = files name)
    (sameOpenings : after.openings = shown.openings)
    (closes : ∀ handle file, after.opened handle = some file → shown.opened handle = some file)
    (otherFiles : ∀ other, other ≠ id → after.files other = shown.files other)
    (holds : Live random count after id → (filesAfter (nameOf random id)).Holds (after.files id)) :
    Reflects vfs random count filesAfter (table.setVfs state) after := by
  have wasLive (other : FileId FileName) (isLive : Live random count after other) :
      Live random count shown other := by
    cases other with
    | named name => exact isLive
    | temporary opening =>
        obtain ⟨bound, handle, deletes, isOpen⟩ := isLive
        exact ⟨bound, handle, deletes, closes handle _ isOpen⟩
  refine ⟨encodes, reflects.draws.trans sameOpenings.symm,
    fun handle file isOpen => reflects.opened handle file (closes handle file isOpen), ?_, ?_, ?_⟩
  · intro handle file isOpen
    have before := reflects.live handle file (closes handle file isOpen)
    obtain ⟨other, deletes⟩ := file
    cases other with
    | named name => exact before
    | temporary opening => exact ⟨before.1, handle, deletes, isOpen⟩
  · intro other isLive
    by_cases same : other = id
    · subst same
      exact holds isLive
    · have apart : nameOf random other ≠ nameOf random id := fun sameName =>
        same (nameOf_injective distinct (wasLive other isLive) live sameName)
      rw [otherPages _ apart, otherFiles other same]
      exact reflects.holds other (wasLive other isLive)
  · intro opening later below
    have apart : temporaryName (random opening) ≠ nameOf random id := by
      intro sameName
      cases id with
      | named name => exact live opening below sameName.symm
      | temporary earlier =>
          obtain ⟨bound, handle, deletes, isOpen⟩ := live
          have past := shown.earlier handle earlier deletes isOpen
          have equal := distinct _ below _ bound (temporaryName_injective sameName)
          omega
    rw [otherPages _ apart]
    exact reflects.upcoming opening (sameOpenings ▸ later) below

omit distinct in
/-- A file is opened under a handle. -/
theorem opens (reflects : Reflects vfs random count files table shown) (handle draws : Nat)
    (id : FileId FileName) (deletes : Bool)
    (opened : after.opened = Function.update shown.opened handle (some ⟨id, deletes⟩))
    (live : Live random count after id)
    (holds : (files (nameOf random id)).Holds (after.files id))
    (otherFiles : ∀ other, other ≠ id → after.files other = shown.files other)
    (sameDraws : draws = after.openings) (further : shown.openings ≤ after.openings) :
    Reflects vfs random count files
      { table with
        files := Function.update table.files handle ⟨nameOf random id, deletes⟩
        draws := draws } after := by
  have atHandle {other : Nat} {file : OpenedFile FileName}
      (isOpen : after.opened other = some file) :=
    FileSystem.opened_updated (opened ▸ isOpen)
  refine ⟨reflects.encodes, sameDraws, ?_, ?_, ?_, fun opening later =>
    reflects.upcoming opening (further.trans later)⟩
  · intro other file isOpen
    change Function.update table.files handle _ other = _
    rcases atHandle isOpen with ⟨rfl, rfl⟩ | ⟨different, before⟩
    · rw [Function.update_self]
    · rw [Function.update_of_ne different]
      exact reflects.opened other file before
  · intro other file isOpen
    rcases atHandle isOpen with ⟨rfl, rfl⟩ | ⟨_, before⟩
    · exact live
    · have known := reflects.live other file before
      obtain ⟨old, alsoDeletes⟩ := file
      cases old with
      | named _ => exact known
      | temporary opening => exact ⟨known.1, other, alsoDeletes, isOpen⟩
  · intro other isLive
    by_cases new : other = id
    · exact new ▸ holds
    · rw [otherFiles other new]
      apply reflects.holds other
      cases other with
      | named _ => exact isLive
      | temporary opening =>
          obtain ⟨bound, place, alsoDeletes, isOpen⟩ := isLive
          rcases atHandle isOpen with ⟨_, isNew⟩ | ⟨_, before⟩
          · exact absurd (congrArg OpenedFile.id isNew) new
          · exact ⟨bound, place, alsoDeletes, before⟩

end Reflects

namespace ParaVFS

variable {vfs : ParaVFS} {random : Nat → List UInt8} {count : Nat} {files : PageFiles}
  {table : FileTable} {shown after : FileSystem FileName}

section Steps

variable (lawful : vfs.runtime.Lawful)
  (distinct : ∀ first < count, ∀ second < count, random first = random second → first = second)
  (reflects : Reflects vfs random count files table shown)

include lawful distinct reflects

end Steps

end ParaVFS
end ParaQL
