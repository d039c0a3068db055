/-
A file of the VFS against a flat byte file, for runs of writes, reads and syncs.

Reads and partial writes look at committed pages only, so a run follows the flat file
as long as they meet no byte that was written since the last sync.  `dirty` is the
set of these bytes.  Without that condition a write can bring back an older content
of bytes that it does not cover.
-/

import ParaQL.Bytes.FlatFile
import ParaQL.VfsRefinement

namespace ParaQL

open Async Bytes

inductive FileStep where
  | write (data : Buffer) (offset : Nat)
  | read (buffer : Buffer) (offset : Nat)
  | sync
  deriving DecidableEq, Repr

namespace FileStep

def call (name : FileName) : FileStep → VfsCall
  | .write data offset => .xWrite name data offset
  | .read buffer offset => .xRead name buffer offset
  | .sync => .xSync name

def Nonempty : FileStep → Prop
  | .write data _ => 0 < data.length
  | .read buffer _ => 0 < buffer.length
  | .sync => True

def onFlat : FileStep → FlatFile → FlatFile
  | .write data offset, file => file.write data offset
  | .read _ _, file => file
  | .sync, file => file

def expected : FileStep → FlatFile → Buffer
  | .write _ _, _ => []
  | .read buffer offset, file => file.read offset buffer.length
  | .sync, _ => []

def dirtied : FileStep → Set Nat → Set Nat
  | .write data offset, dirty =>
      { position | position ∈ dirty ∨ InRange offset data.length position }
  | .read _ _, dirty => dirty
  | .sync, _ => ∅

/-- A read meets no dirty byte, and a write covers those on the pages it touches. -/
def Clean : FileStep → Set Nat → Prop
  | .write data offset, dirty => ∀ position ∈ dirty,
      position / pageSize ∈ Paging.pagesTouched pageSize offset data.length →
        InRange offset data.length position
  | .read buffer offset, dirty => ∀ position ∈ dirty, ¬InRange offset buffer.length position
  | .sync, _ => True

end FileStep

def CleanRun : Set Nat → List FileStep → Prop
  | _, [] => True
  | dirty, step :: steps => step.Clean dirty ∧ CleanRun (step.dirtied dirty) steps

def flatRun (file : FlatFile) (steps : List FileStep) : FlatFile :=
  steps.foldl (fun current step => step.onFlat current) file

def expectedAll : FlatFile → List FileStep → List Buffer
  | _, [] => []
  | file, step :: steps => step.expected file :: expectedAll (step.onFlat file) steps

namespace Pages

def FullPages (pages : Pages) : Prop :=
  ∀ index page, pages.lookup index = some page → page.length = pageSize

theorem FullPages.length_page {pages : Pages} (full : pages.FullPages) (index : Nat) :
    (pages.page index).length = pageSize := by
  unfold Pages.page
  cases found : pages.lookup index with
  | none => exact Buffer.length_alloc pageSize
  | some page => exact full index page found

theorem last_ge (pages : Pages) : -1 ≤ pages.last := by
  unfold Pages.last
  split <;> omega

theorem lookup_beyond_last (pages : Pages) (index : Nat) (beyond : pages.last < index) :
    pages.lookup index = none := by
  unfold Pages.last at beyond
  cases found : pages.lastIndex with
  | none => exact (Pages.lastIndex_eq_none_iff pages).1 found index
  | some last =>
      rw [found] at beyond
      exact ((Pages.lastIndex_eq_some_iff pages last).1 found).2 index (by simpa using beyond)

theorem last_eq_of {pages : Pages} {index : Nat} (stored : (pages.lookup index).isSome)
    (none_later : ∀ later, index < later → pages.lookup later = none) :
    pages.last = index := by
  unfold Pages.last
  rw [(Pages.lastIndex_eq_some_iff pages index).2 ⟨stored, none_later⟩]

def concat (pages : Pages) : Buffer :=
  Paging.concat pages.page (pages.last + 1).toNat

def flat (pages : Pages) : FlatFile where
  size := (pages.last + 1).toNat * pageSize
  byte := Paging.byteOf pageSize pages.page
  zeroBeyond := by
    intro position beyond
    have later : (pages.last + 1).toNat ≤ position / pageSize :=
      (Nat.le_div_iff_mul_le pageSize_pos).2 beyond
    have absent := lookup_beyond_last pages (position / pageSize) (by omega)
    rw [Paging.byteOf, Pages.page, absent, Option.getD_none, Buffer.byteAt_alloc]

theorem lookup_commit_puts (pages : Pages) (indices : List Nat) (content : Nat → Buffer)
    (index : Nat) :
    (pages.commit (indices.map fun target => (target, some (content target)))).lookup index =
      if index ∈ indices then some (content index) else pages.lookup index := by
  induction indices using List.reverseRecOn with
  | nil => rfl
  | append_singleton indices last ih =>
      rw [List.map_append, List.map_singleton, Pages.lookup_commit_append, ih]
      by_cases here : index = last
      · subst here
        rw [if_pos rfl, if_pos (by simp)]
      · rw [if_neg here]
        by_cases earlier : index ∈ indices
        · rw [if_pos earlier, if_pos (by simp [earlier])]
        · rw [if_neg earlier, if_neg (by simp [earlier, here])]

end Pages

/-! ### The invariant -/

namespace PageFile

def latest (file : PageFile) : Pages := file.committed.commit (file.pending.getD [])

structure Shows (file : PageFile) (flat : FlatFile) (dirty : Set Nat) : Prop where
  committedFull : file.committed.FullPages
  latestFull : file.latest.FullPages
  latest : ∀ position, Paging.byteOf pageSize file.latest.page position = flat.byte position
  committed : ∀ position, position ∉ dirty →
    Paging.byteOf pageSize file.committed.page position = flat.byte position
  stored : ∀ index, (file.latest.lookup index).isSome → index * pageSize < flat.size
  reaches : flat.size = 0 ∨ (file.latest.lookup ((flat.size - 1) / pageSize)).isSome

variable {file : PageFile} {flat : FlatFile} {dirty : Set Nat}

theorem latest_of_closed (closed : file.pending = none) : file.latest = file.committed := by
  rw [latest, closed]
  rfl

theorem latest_addAll (file : PageFile) (ops : List PageOp) :
    (file.addAll ops).latest = file.latest.commit ops := by
  by_cases none_ : ops = []
  · subst none_
    rfl
  · rw [latest, committed_addAll, pending_addAll file ops none_, Option.getD_some]
    exact List.foldl_append

theorem shows_start {pages : Pages} (full : pages.FullPages) :
    PageFile.Shows ⟨pages, none⟩ pages.flat ∅ := by
  refine ⟨full, full, fun _ => rfl, fun _ _ => rfl, ?_, ?_⟩
  · intro index stored
    by_contra beyond
    have later : (pages.last + 1).toNat ≤ index :=
      Nat.le_of_mul_le_mul_right (Nat.le_of_not_lt beyond) pageSize_pos
    have absent : pages.lookup index = none := pages.lookup_beyond_last index (by omega)
    change (pages.lookup index).isSome at stored
    rw [absent] at stored
    cases stored
  · cases found : pages.lastIndex with
    | none =>
        refine Or.inl ?_
        simp only [Pages.flat, Pages.last, found, Int.reduceNeg, neg_add_cancel, Int.toNat_zero,
          Nat.zero_mul]
    | some last =>
        refine Or.inr ?_
        have lastPage : (pages.flat.size - 1) / pageSize = last := by
          have positive := pageSize_pos
          have size : pages.flat.size = last * pageSize + pageSize := by
            simp only [Pages.flat, Pages.last, found]
            rw [← Nat.succ_mul]
            rfl
          exact (Paging.page_eq_iff _ _ positive).2 (by omega)
        rw [lastPage]
        exact ((pages.lastIndex_eq_some_iff last).1 found).1

theorem touched_of_inRange {offset length position : Nat}
    (inside : InRange offset length position) :
    position / pageSize ∈ Paging.pagesTouched pageSize offset length := by
  have touched := Paging.page_mem_pagesTouched offset length (position - offset) pageSize_pos
    (by omega)
  rwa [Nat.add_sub_cancel' inside.1] at touched

theorem Shows.write (shows : file.Shows flat dirty) (data : Buffer) (offset : Nat)
    (nonempty : 0 < data.length) (clean : (FileStep.write data offset).Clean dirty) :
    (file.addAll (file.writeOps data offset)).Shows (flat.write data offset)
      ((FileStep.write data offset).dirtied dirty) := by
  let patched (index : Nat) : Buffer :=
    Paging.patchPage pageSize offset data index (file.committed.page index)
  have lookups (index : Nat) :
      (file.addAll (file.writeOps data offset)).latest.lookup index =
        if index ∈ Paging.pagesTouched pageSize offset data.length then some (patched index)
        else file.latest.lookup index := by
    rw [latest_addAll]
    exact Pages.lookup_commit_puts _ _ patched index
  have pages (index : Nat) :
      (file.addAll (file.writeOps data offset)).latest.page index =
        if index ∈ Paging.pagesTouched pageSize offset data.length then patched index
        else file.latest.page index := by
    rw [Pages.page, lookups]
    split <;> rfl
  constructor
  · rw [committed_addAll]
    exact shows.committedFull
  · intro index page found
    rw [lookups] at found
    split at found
    · cases found
      exact Paging.length_patchPage offset data index _ pageSize_pos
        (shows.committedFull.length_page index)
    · exact shows.latestFull index page found
  · intro position
    rw [Paging.byteOf, pages]
    have split : position / pageSize * pageSize + position % pageSize = position := by
      rw [Nat.mul_comm]
      exact Nat.div_add_mod position pageSize
    by_cases touched : position / pageSize ∈ Paging.pagesTouched pageSize offset data.length
    · rw [if_pos touched, Paging.byteAt_patchPage offset data _ _ pageSize_pos
        (shows.committedFull.length_page _) _ (Nat.mod_lt _ pageSize_pos), split]
      by_cases inside : InRange offset data.length position
      · rw [if_pos inside]
        exact (if_pos inside).symm
      · rw [if_neg inside]
        refine Eq.trans ?_ (if_neg inside).symm
        exact shows.committed position fun isDirty => inside (clean position isDirty touched)
    · rw [if_neg touched]
      refine (shows.latest position).trans (if_neg ?_).symm
      exact fun inside => touched (touched_of_inRange inside)
  · intro position notDirty
    rw [committed_addAll]
    refine (shows.committed position fun isDirty => notDirty (Or.inl isDirty)).trans ?_
    exact (if_neg fun inside => notDirty (Or.inr inside)).symm
  · intro index stored
    rw [lookups] at stored
    by_cases touched : index ∈ Paging.pagesTouched pageSize offset data.length
    · have bounds := (Paging.mem_pagesTouched offset data.length index pageSize_pos).1 touched
      exact lt_of_lt_of_le bounds.2 (le_max_right _ _)
    · rw [if_neg touched] at stored
      exact lt_of_lt_of_le (shows.stored index stored) (le_max_left _ _)
  · refine Or.inr ?_
    rw [lookups]
    by_cases touched : ((flat.write data offset).size - 1) / pageSize ∈
        Paging.pagesTouched pageSize offset data.length
    · rw [if_pos touched]
      rfl
    · rw [if_neg touched]
      have older : (flat.write data offset).size = flat.size := by
        by_contra grown
        have atEnd : (flat.write data offset).size = offset + data.length := by
          have either := max_choice flat.size (offset + data.length)
          exact either.resolve_left grown
        rw [atEnd] at touched
        exact touched (touched_of_inRange ⟨by omega, by omega⟩)
      rw [older]
      refine shows.reaches.resolve_left fun isEmpty => ?_
      have atLeast : offset + data.length ≤ (flat.write data offset).size := le_max_right _ _
      omega

theorem Shows.sync (shows : file.Shows flat dirty) (name : FileName) :
    (file.flush name).2.Shows flat ∅ ∧ (file.flush name).2.pending = none := by
  unfold PageFile.flush
  cases open_ : file.pending with
  | none =>
      have same := latest_of_closed open_
      exact ⟨⟨shows.committedFull, shows.latestFull, shows.latest,
        fun position _ => same ▸ shows.latest position, shows.stored, shows.reaches⟩, open_⟩
  | some ops =>
      have same : file.flushed.committed = file.latest := rfl
      have latestSame : file.flushed.latest = file.latest := rfl
      exact ⟨⟨shows.latestFull, shows.latestFull, shows.latest,
        fun position _ => shows.latest position, shows.stored, shows.reaches⟩, rfl⟩

theorem length_read (file : PageFile) (buffer : Buffer) (offset : Nat) :
    (file.read buffer offset).length = buffer.length := by
  unfold PageFile.read
  generalize Paging.pagesTouched pageSize offset buffer.length = indices
  induction indices generalizing buffer with
  | nil => rfl
  | cons index indices ih =>
      rw [List.foldl_cons, ih, Paging.length_readPage]

theorem Shows.read (shows : file.Shows flat dirty) (buffer : Buffer) (offset : Nat)
    (clean : (FileStep.read buffer offset).Clean dirty) :
    file.read buffer offset = flat.read offset buffer.length := by
  have bytes := FlatFile.eq_read flat (file.read buffer offset) offset
    (by
      intro index inside
      rw [length_read] at inside
      rw [PageFile.read, Paging.byteAt_readPages offset file.committed.page buffer pageSize_pos
        (fun page => shows.committedFull.length_page page) index inside]
      exact shows.committed _ fun isDirty => clean _ isDirty ⟨by omega, by omega⟩)
  rwa [length_read] at bytes

/-- Once nothing is pending the committed pages are the padded flat file. -/
theorem Shows.concat (shows : file.Shows flat dirty) (closed : file.pending = none) :
    file.committed.concat = flat.padded pageSize := by
  have same := latest_of_closed closed
  have positive := pageSize_pos
  apply Paging.concat_eq_padded _ _ _ positive shows.committedFull.length_page
  · rw [← same]
    exact shows.latest
  · rcases shows.reaches with isEmpty | reached
    · have nothing : file.committed.lastIndex = none := by
        rw [Pages.lastIndex_eq_none_iff]
        intro index
        rw [← Option.not_isSome_iff_eq_none]
        intro stored
        have below := shows.stored index (same.symm ▸ stored)
        omega
      simp only [Pages.last, nothing, Int.reduceNeg, neg_add_cancel, Int.toNat_zero, Nat.zero_mul,
        isEmpty, Nat.zero_add]
      rw [Nat.div_eq_of_lt (by omega), Nat.zero_mul]
    · have nonzero : 0 < flat.size := by
        have below := shows.stored _ reached
        omega
      have lastPage : file.committed.last = ((flat.size - 1) / pageSize : Nat) := by
        apply Pages.last_eq_of (same ▸ reached)
        intro later beyond
        rw [← Option.not_isSome_iff_eq_none]
        intro stored
        have below := shows.stored later (same.symm ▸ stored)
        have bound := (Nat.div_lt_iff_lt_mul positive).1 beyond
        omega
      rw [lastPage]
      have rounded : (flat.size + pageSize - 1) / pageSize = (flat.size - 1) / pageSize + 1 := by
        rw [show flat.size + pageSize - 1 = flat.size - 1 + pageSize by omega,
          Nat.add_div_right _ positive]
      rw [rounded]
      rfl

end PageFile

theorem PageFile.Shows.step {file : PageFile} {flat : FlatFile} {dirty : Set Nat}
    (shows : file.Shows flat dirty) (name : FileName) (step : FileStep)
    (nonempty : step.Nonempty) (clean : step.Clean dirty) :
    (file.perform (step.call name)).1.bytes = step.expected flat ∧
      (file.perform (step.call name)).2.Shows (step.onFlat flat) (step.dirtied dirty) := by
  cases step with
  | write data offset => exact ⟨rfl, shows.write data offset nonempty clean⟩
  | read buffer offset => exact ⟨shows.read buffer offset clean, shows⟩
  | sync =>
      refine ⟨?_, (shows.sync name).1⟩
      change (file.flush name).1.bytes = []
      rw [PageFile.flush_outcome]

private theorem FileStep.file_call (step : FileStep) (name : FileName) :
    (step.call name).file = name := by
  cases step <;> rfl

private theorem performAll_shows (name : FileName) (steps : List FileStep) (files : PageFiles)
    (flat : FlatFile) (dirty : Set Nat) (shows : (files name).Shows flat dirty)
    (nonempty : ∀ step ∈ steps, step.Nonempty) (clean : CleanRun dirty steps) :
    (files.performAll (steps.map (FileStep.call name))).1.map Outcome.bytes =
        expectedAll flat steps ∧
      ∃ left, ((files.performAll (steps.map (FileStep.call name))).2 name).Shows
        (flatRun flat steps) left := by
  induction steps generalizing files flat dirty with
  | nil => exact ⟨rfl, dirty, shows⟩
  | cons step steps ih =>
      obtain ⟨cleanHere, cleanRest⟩ := clean
      obtain ⟨bytes, kept⟩ := shows.step name step (nonempty step List.mem_cons_self) cleanHere
      have after : (files.perform (step.call name)).2 name =
          ((files name).perform (step.call name)).2 := by
        rw [PageFiles.perform, FileStep.file_call]
        exact Function.update_self _ _ _
      obtain ⟨restBytes, left, keptRest⟩ := ih (files.perform (step.call name)).2
        (step.onFlat flat) (step.dirtied dirty) (after ▸ kept)
        (fun later member => nonempty later (List.mem_cons_of_mem _ member)) cleanRest
      refine ⟨?_, left, keptRest⟩
      rw [List.map_cons, PageFiles.performAll, List.map_cons, restBytes, expectedAll]
      congr 1
      rw [PageFiles.perform, FileStep.file_call]
      exact bytes

namespace ParaVFS

/-- The run and a last sync return what the flat file returns, and leave its padded
content in the committed pages. -/
def FollowsFlatFile (vfs : ParaVFS) (name : FileName) (state : VfsState) (flat : FlatFile)
    (steps : List FileStep) : Prop :=
  ∃ outcomes after files,
    (vfs.performAll ((steps ++ [FileStep.sync]).map (FileStep.call name))).run state =
      (.ok outcomes, after) ∧
    outcomes.map Outcome.bytes = expectedAll flat (steps ++ [FileStep.sync]) ∧
    vfs.Encodes after files ∧
    (files name).committed.concat = (flatRun flat steps).padded pageSize

private theorem expectedAll_append (flat : FlatFile) (steps : List FileStep) (step : FileStep) :
    expectedAll flat (steps ++ [step]) =
      expectedAll flat steps ++ [step.expected (flatRun flat steps)] := by
  induction steps generalizing flat with
  | nil => rfl
  | cons first steps ih =>
      rw [List.cons_append, expectedAll, ih]
      rfl

/-- A clean run, over any committed pages of the file and beside any other files,
follows the flat file. -/
theorem followsFlatFile_of_clean {vfs : ParaVFS} {state : VfsState} {files : PageFiles}
    (lawful : vfs.runtime.Lawful) (encodes : vfs.Encodes state files) (name : FileName)
    (pages : Pages) (start : files name = ⟨pages, none⟩) (full : pages.FullPages)
    (steps : List FileStep) (nonempty : ∀ step ∈ steps, step.Nonempty)
    (clean : CleanRun ∅ steps) :
    vfs.FollowsFlatFile name state pages.flat steps := by
  have shows : (files name).Shows pages.flat ∅ := start ▸ PageFile.shows_start full
  obtain ⟨bytes, left, kept⟩ := performAll_shows name steps files pages.flat ∅ shows nonempty clean
  obtain ⟨after, ran, encodesAfter⟩ :=
    performAll_refines lawful ((steps ++ [FileStep.sync]).map (FileStep.call name)) encodes
  refine ⟨_, after, _, ran, ?_, encodesAfter, ?_⟩
  · rw [List.map_append, List.map_singleton, PageFiles.performAll_concat, List.map_append, bytes,
      expectedAll_append, List.map_singleton]
    congr 2
    change (PageFile.flush _ name).1.bytes = []
    rw [PageFile.flush_outcome]
  · rw [List.map_append, List.map_singleton, PageFiles.performAll_concat]
    obtain ⟨synced, closed⟩ := kept.sync name
    have last : ((files.performAll (steps.map (FileStep.call name))).2.perform
        (FileStep.sync.call name)).2 name =
        (((files.performAll (steps.map (FileStep.call name))).2 name).flush name).2 :=
      Function.update_self _ _ _
    rw [last]
    exact synced.concat closed

/-- One byte is written and synced, then its neighbour. -/
theorem followsFlatFile_syncedWrites :
    ParaVFS.sample.FollowsFlatFile "paraql.db" (VfsState.initial fun _ _ => ∅) (Pages.flat ∅)
      [.write [1] 0, .sync, .write [2] 1, .sync, .read [0, 0] 0] := by
  refine followsFlatFile_of_clean Runtime.copying_lawful (encodes_empty _ none) "paraql.db" ∅ rfl
    ?_ _ ?_ ?_
  · intro index page found
    cases found
  · simp [FileStep.Nonempty]
  · simp [CleanRun, FileStep.Clean, FileStep.dirtied]

/-- Two neighbouring bytes written before one sync: the second write starts from the
page without the first. -/
theorem followsFlatFile_unsyncedWrites_fails :
    ¬ParaVFS.sample.FollowsFlatFile "paraql.db" (VfsState.initial fun _ _ => ∅) (Pages.flat ∅)
      [.write [1] 0, .write [2] 1, .sync, .read [0, 0] 0] := by
  rintro ⟨outcomes, after, files, ran, bytes, _encodes, _concat⟩
  let steps : List FileStep := [.write [1] 0, .write [2] 1, .sync, .read [0, 0] 0, .sync]
  obtain ⟨_, ranHere, _kept⟩ := performAll_refines Runtime.copying_lawful
    (steps.map (FileStep.call "paraql.db")) (encodes_empty ParaVFS.sample none)
  have same := congrArg Prod.fst (ran.symm.trans ranHere)
  have actual : (PageFiles.performAll (fun _ => { committed := ∅, pending := none })
      (steps.map (FileStep.call "paraql.db"))).1.map (fun outcome => outcome.bytes.byteAt 0) =
        [0, 0, 0, 0, 0] := rfl
  have wanted : (expectedAll (Pages.flat ∅) steps).map (fun bytes => bytes.byteAt 0) =
      [0, 0, 0, 1, 0] := rfl
  rw [← Except.ok.inj same] at actual
  have firstBytes := congrArg (List.map fun bytes => Buffer.byteAt bytes 0) bytes
  rw [List.map_map] at firstBytes
  exact absurd (actual.symm.trans (firstBytes.trans wanted)) (by decide)

end ParaVFS
end ParaQL
