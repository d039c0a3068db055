/-
How `_xWrite` and `_xRead` cut a range of bytes into pages.

A write puts each page that the range touches once, in order, as a page of full size
that holds the data where the range covers it and the old bytes elsewhere.  A read
fills its whole buffer.  Both are stated on the pages as the caller means them; the
refinement carries them to the stores.
-/

import ParaQL.FlatFiles

namespace ParaQL

open Async Bytes

/-- The puts that a write of `data` should issue on a file with these pages. -/
structure SplitsExactly (pages : Pages) (data : Buffer) (offset : Nat) (puts : List PageOp) :
    Prop where
  order : puts.map Prod.fst = List.range' (offset / pageSize)
    ((offset + data.length - 1) / pageSize - offset / pageSize + 1)
  whole : ∀ put ∈ puts, ∃ page, put.2 = some page ∧ page.length = pageSize
  patched : ∀ position, (pages.commit puts).flat.byte position =
    (pages.flat.write data offset).byte position

namespace PageFile

private theorem writeOps_patched (file : PageFile) (full : file.committed.FullPages) (data : Buffer)
    (offset position : Nat) :
    (file.committed.commit (file.writeOps data offset)).flat.byte position =
      (file.committed.flat.write data offset).byte position := by
  let patched (index : Nat) : Buffer :=
    Paging.patchPage pageSize offset data index (file.committed.page index)
  have stored := Pages.lookup_commit_puts file.committed
    (Paging.pagesTouched pageSize offset data.length) patched (position / pageSize)
  change Buffer.byteAt (Option.getD _ _) _ = ite _ _ _
  rw [writeOps, stored]
  have split : position / pageSize * pageSize + position % pageSize = position := by
    rw [Nat.mul_comm]
    exact Nat.div_add_mod position pageSize
  by_cases touched : position / pageSize ∈ Paging.pagesTouched pageSize offset data.length
  · rw [if_pos touched, Option.getD_some, Paging.byteAt_patchPage offset data _ _ pageSize_pos
      (full.length_page _) _ (Nat.mod_lt _ pageSize_pos), split]
    rfl
  · rw [if_neg touched, if_neg fun inside => touched (touched_of_inRange inside)]
    rfl

private theorem writeOps_splits (file : PageFile) (full : file.committed.FullPages) (data : Buffer)
    (offset : Nat) (nonempty : 0 < data.length) :
    SplitsExactly file.committed data offset (file.writeOps data offset) := by
  constructor
  · rw [← Paging.pagesTouched_eq offset data.length nonempty, writeOps, List.map_map]
    exact List.map_id _
  · intro put member
    obtain ⟨index, _, rfl⟩ := List.mem_map.1 member
    exact ⟨_, rfl,
      Paging.length_patchPage offset data index _ pageSize_pos (full.length_page index)⟩
  · exact writeOps_patched file full data offset

theorem read_eq_flat (file : PageFile) (full : file.committed.FullPages) (buffer : Buffer)
    (offset : Nat) : file.read buffer offset = file.committed.flat.read offset buffer.length := by
  have bytes := FlatFile.eq_read file.committed.flat (file.read buffer offset) offset
    (by
      intro index inside
      rw [length_read] at inside
      exact Paging.byteAt_readPages offset file.committed.page buffer pageSize_pos
        (fun page => full.length_page page) index inside)
  rwa [length_read] at bytes

end PageFile

namespace ParaVFS

variable {vfs : ParaVFS} {state : VfsState} {files : PageFiles}

/-- Without compression and encryption the stores hold the pages themselves. -/
theorem encodes_plain (vfs : ParaVFS) (plain : vfs.compressed = false)
    (open_ : vfs.encryption = none)
    (view : Option Nat) (stores : StoreRef → Store) :
    vfs.Encodes { VfsState.initial stores with view := view }
      (fun name => ⟨stores (vfs.storeOf name { VfsState.initial stores with view := view }) name,
        none⟩) := by
  have copies (name : FileName) (index : Nat) : vfs.encodePage name index = id := by
    funext page
    simp only [encodePage, pageEncryption, open_, ite_self, pack, plain, Bool.false_eq_true,
      if_false, id_eq]
  refine ⟨fun name index => ?_, fun name => rfl⟩
  rw [copies, Option.map_id_apply]
  rfl

/-- A write issues exactly the puts that it should, and a read overwrites its buffer with
the bytes of the file. -/
theorem splits_pages (lawful : vfs.runtime.Lawful) (encodes : vfs.Encodes state files)
    (name : FileName) (full : (files name).committed.FullPages) (buffer : Buffer) (offset : Nat)
    (nonempty : 0 < buffer.length) :
    (∃ puts lent after, SplitsExactly (files name).committed buffer offset puts ∧
        (vfs.perform (.xWrite name buffer offset)).run state = (.ok ⟨[.null], lent⟩, after) ∧
        vfs.Encodes after (Function.update files name ((files name).addAll puts))) ∧
      ∃ after, (vfs.perform (.xRead name buffer offset)).run state =
          (.ok ⟨[.null], (files name).committed.flat.read offset buffer.length⟩, after) ∧
        vfs.Encodes after files := by
  constructor
  · obtain ⟨after, lent, ran, kept⟩ := run_xWrite lawful name offset buffer encodes
    refine ⟨_, lent, after, (files name).writeOps_splits full buffer offset nonempty, ?_, kept⟩
    simp only [perform, withBuffer, Task.run_bind, Task.run_withLocal, ran, Except.map,
      Task.andThen_ok, Task.run_pure]
  · obtain ⟨after, ran, kept⟩ := run_xRead lawful name offset buffer encodes
    refine ⟨after, ?_, kept⟩
    rw [← (files name).read_eq_flat full buffer offset]
    simp only [perform, withBuffer, Task.run_bind, Task.run_withLocal, ran, Except.map,
      Task.andThen_ok, Task.run_pure]

def onesStore : StoreRef → Store
  | .tmp, "paraql.db-journal" => (∅ : Pages).insert 0 (List.replicate pageSize 1)
  | _, _ => ∅

theorem onesStore_full : (onesStore .tmp "paraql.db-journal").FullPages := by
  intro index page found
  by_cases first : index = 0
  · subst first
    rw [onesStore, Finmap.lookup_insert] at found
    cases found
    exact List.length_replicate
  · rw [onesStore, Finmap.lookup_insert_of_ne _ first] at found
    cases found

theorem last_onesStore : (onesStore .tmp "paraql.db-journal").last = 0 := by
  refine Pages.last_eq_of ?_ fun later beyond => ?_
  · rw [onesStore, Finmap.lookup_insert]
    rfl
  · have further : later ≠ 0 := by omega
    rw [onesStore, Finmap.lookup_insert_of_ne _ further]
    rfl

/-- Two bytes on either side of a page boundary. -/
theorem splits_pages_boundary :
    ∃ puts lent after, SplitsExactly (onesStore .tmp "paraql.db-journal") [7, 8] 4095 puts ∧
      (ParaVFS.sample.perform (.xWrite "paraql.db-journal" [7, 8] 4095)).run
        (VfsState.initial onesStore) = (.ok ⟨[.null], lent⟩, after) := by
  obtain ⟨⟨puts, lent, after, splits, ran, _⟩, _⟩ :=
    splits_pages Runtime.copying_lawful (encodes_plain .sample rfl rfl none onesStore)
      "paraql.db-journal" onesStore_full [7, 8] 4095 (by decide)
  exact ⟨puts, lent, after, splits, ran⟩

end ParaVFS
end ParaQL
