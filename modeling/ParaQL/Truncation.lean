/-
What `_xTruncate` makes of a file, seen through `_xSize` and `_xRead` after a sync.

Growing appends whole pages of zeros, so the file is the old one with zeros up to the
next page boundary.  Shrinking ends in a `ReferenceError` before it has changed anything.
-/

import ParaQL.PageSplitting

namespace ParaQL

open Async Bytes

namespace PageFile

variable (file : PageFile) (size : Nat)

def growIndices : List Nat :=
  List.range' (file.committed.last + 1).toNat
    (((size : Int) - 1) / pageSize - file.committed.last).toNat

def grown : Pages := file.committed.commit (file.growOps size)

variable {file size}

theorem lookup_grown (index : Nat) :
    (file.grown size).lookup index =
      if index ∈ file.growIndices size then some (Buffer.alloc pageSize)
      else file.committed.lookup index :=
  Pages.lookup_commit_puts file.committed (file.growIndices size)
    (fun _ => Buffer.alloc pageSize) index

theorem mem_growIndices (index : Nat) :
    index ∈ file.growIndices size ↔
      file.committed.last < index ∧ (index : Int) ≤ ((size : Int) - 1) / pageSize := by
  have lower := Pages.last_ge file.committed
  unfold growIndices
  rw [List.mem_range'_1]
  omega

theorem grown_full (full : file.committed.FullPages) : (file.grown size).FullPages := by
  intro index page found
  rw [lookup_grown] at found
  by_cases appended : index ∈ file.growIndices size
  · rw [if_pos appended] at found
    cases found
    exact Buffer.length_alloc pageSize
  · rw [if_neg appended] at found
    exact full index page found

/-- The appended pages are the zeros that were already read there. -/
theorem byte_grown (position : Nat) :
    (file.grown size).flat.byte position = file.committed.flat.byte position := by
  change ((file.grown size).page _).byteAt _ = (file.committed.page _).byteAt _
  unfold Pages.page
  rw [lookup_grown]
  by_cases appended : position / pageSize ∈ file.growIndices size
  · rw [if_pos appended]
    have beyond := ((mem_growIndices (position / pageSize)).1 appended).1
    rw [Pages.lookup_beyond_last file.committed _ beyond]
    rfl
  · rw [if_neg appended]

variable (grows : (size : Int) > file.sizeInBytes)

include grows

theorem last_lt_target : file.committed.last + 1 ≤ ((size : Int) - 1) / pageSize := by
  have beyond : (size : Int) > (file.committed.last + 1) * pageSize := grows
  rw [Int.le_ediv_iff_mul_le (by decide)]
  omega

theorem growOps_ne_nil : file.growOps size ≠ [] := by
  intro empty
  have none_ : file.growIndices size = [] := List.map_eq_nil_iff.1 empty
  have further := last_lt_target grows
  have lower := Pages.last_ge file.committed
  have member : (file.committed.last + 1).toNat ∈ file.growIndices size :=
    (mem_growIndices _).2 (by omega)
  rw [none_] at member
  cases member

private theorem last_grown : (file.grown size).last = ((size : Int) - 1) / pageSize := by
  have further := last_lt_target grows
  have lower := Pages.last_ge file.committed
  have target : ((((size : Int) - 1) / pageSize).toNat : Int) = ((size : Int) - 1) / pageSize :=
    Int.toNat_of_nonneg (by omega)
  rw [← target]
  apply Pages.last_eq_of
  · rw [lookup_grown, if_pos ((mem_growIndices _).2 (by omega))]
    rfl
  · intro later beyond
    rw [lookup_grown, if_neg fun member => by
      have upper := ((mem_growIndices later).1 member).2
      omega]
    exact Pages.lookup_beyond_last _ _ (by omega)

private theorem grown_resized : file.committed.flat.Resized pageSize size
    (file.grown size).flat := by
  have lower := Pages.last_ge file.committed
  have beyond : (size : Int) > (file.committed.last + 1) * pageSize := grows
  apply FlatFile.resized_of_appended
  · change (file.committed.last + 1).toNat * pageSize ≤ size
    unfold pageSize at beyond ⊢
    omega
  · change ((file.grown size).last + 1).toNat * pageSize = _
    rw [last_grown grows]
    unfold pageSize at beyond ⊢
    omega
  · exact byte_grown

end PageFile

namespace ParaVFS

variable (vfs : ParaVFS)

/-! ### The law -/

structure Reports (name : FileName) (state : VfsState) (flat : FlatFile) : Prop where
  size : ∃ after, (vfs.perform (.xSize name)).run state =
    (.ok ⟨[.null, .number flat.size], []⟩, after)
  bytes : ∀ buffer offset, 0 < buffer.length → ∃ after,
    (vfs.perform (.xRead name buffer offset)).run state =
      (.ok ⟨[.null], flat.read offset buffer.length⟩, after)

def Synced (name : FileName) (state after : VfsState) : Prop :=
  if (state.files.lookup name).isSome then
    (vfs.perform (.xSync name)).run state = (.ok ⟨[.null], []⟩, after)
  else after = state

/-- `_xTruncate` and a sync succeed, and the file is then the old one, resized. -/
def TruncateLaw (name : FileName) (size : Nat) (state : VfsState) : Prop :=
  ∃ before after lent truncated synced, vfs.Reports name state before ∧
    (vfs.perform (.xTruncate name size)).run state = (.ok ⟨[.null], lent⟩, truncated) ∧
    vfs.Synced name truncated synced ∧
    vfs.Reports name synced after ∧ before.Resized pageSize size after

variable {vfs} {state : VfsState} {files : PageFiles}

private theorem reports_flat (lawful : vfs.runtime.Lawful) (encodes : vfs.Encodes state files)
    (name : FileName) (full : (files name).committed.FullPages) :
    vfs.Reports name state (files name).committed.flat := by
  constructor
  · obtain ⟨after, ran, _kept⟩ := run_last lawful name encodes
    have lower := Pages.last_ge (files name).committed
    have size : ((files name).committed.flat.size : Int) =
        ((files name).committed.last + 1) * pageSize := by
      change ((((files name).committed.last + 1).toNat * pageSize : Nat) : Int) = _
      unfold pageSize
      omega
    refine ⟨after, ?_⟩
    rw [size]
    simp only [perform, withoutBuffer, xSize, callback, Task.run_bind, Task.run_tryCatch,
      ran, Task.andThen_ok, Task.run_pure, Task.orElse_ok]
  · intro buffer offset nonempty
    obtain ⟨_, after, ran, _kept⟩ := splits_pages lawful encodes name full buffer offset nonempty
    exact ⟨after, ran⟩

private theorem truncate_shrinking (lawful : vfs.runtime.Lawful) (encodes : vfs.Encodes state files)
    {name : FileName} {size : Nat} (shrinks : (size : Int) < (files name).sizeInBytes) :
    ¬vfs.TruncateLaw name size state := by
  intro law
  obtain ⟨_, _, lent, truncated, _, _, ran, _⟩ := law
  obtain ⟨reply, after, ranHere, outcome, _kept⟩ :=
    perform_refines lawful (.xTruncate name size) encodes
  rw [ran] at ranHere
  cases ranHere
  have args := congrArg Outcome.args outcome
  have keeps : ¬(size : Int) > (files name).sizeInBytes := by omega
  change [JsValue.null] = ((files name).truncate size).1.args at args
  rw [PageFile.truncate, if_neg keeps, if_pos shrinks] at args
  cases args

private theorem synced_of_pending (lawful : vfs.runtime.Lawful) (encodes : vfs.Encodes state files)
    {name : FileName} {ops : List PageOp} (pending : (files name).pending = some ops) :
    ∃ after, vfs.Synced name state after ∧
      vfs.Encodes after
        (Function.update files name ⟨(files name).committed.commit ops, none⟩) := by
  have registered := encodes.pending name
  rw [pending] at registered
  obtain ⟨batch, found, _⟩ := registered
  obtain ⟨after, ran, kept⟩ := run_xSync lawful name encodes
  unfold PageFile.flush PageFile.flushed at ran kept
  simp only [pending, Option.getD_some] at ran kept
  refine ⟨after, ?_, kept⟩
  rw [Synced, found, Option.isSome_some, if_pos rfl]
  simp only [perform, withoutBuffer, Task.run_bind, ran, Task.andThen_ok, Task.run_pure]

private theorem truncate_growing (lawful : vfs.runtime.Lawful) (encodes : vfs.Encodes state files)
    {name : FileName} (full : (files name).committed.FullPages)
    (closed : (files name).pending = none) {size : Nat}
    (grows : (size : Int) > (files name).sizeInBytes) : vfs.TruncateLaw name size state := by
  obtain ⟨truncated, lent, ran, kept⟩ := run_xTruncate lawful name size [] encodes
  rw [PageFile.truncate, if_pos grows] at ran kept
  have pending : (Function.update files name ((files name).addAll ((files name).growOps size))
      name).pending = some ((files name).growOps size) := by
    rw [Function.update_self, PageFile.pending_addAll _ _ (PageFile.growOps_ne_nil grows), closed]
    rfl
  obtain ⟨synced, isSynced, keptSync⟩ := synced_of_pending lawful kept pending
  rw [Function.update_self, Function.update_idem, PageFile.committed_addAll] at keptSync
  have reports := reports_flat lawful keptSync name (by
    rw [Function.update_self]
    exact PageFile.grown_full full)
  rw [Function.update_self] at reports
  refine ⟨_, _, lent, truncated, synced, reports_flat lawful encodes name full, ?_, isSynced,
    reports, PageFile.grown_resized grows⟩
  simp only [perform, withBuffer, Task.run_bind, Task.run_withLocal, ran, Except.map,
    Task.andThen_ok, Task.run_pure]

private theorem truncate_equal (lawful : vfs.runtime.Lawful) (encodes : vfs.Encodes state files)
    {name : FileName} (full : (files name).committed.FullPages)
    (closed : (files name).pending = none) {size : Nat}
    (equal : (size : Int) = (files name).sizeInBytes) : vfs.TruncateLaw name size state := by
  obtain ⟨truncated, lent, ran, kept⟩ := run_xTruncate lawful name size [] encodes
  have keeps : ¬(size : Int) > (files name).sizeInBytes := by omega
  have alsoKeeps : ¬(size : Int) < (files name).sizeInBytes := by omega
  rw [PageFile.truncate, if_neg keeps, if_neg alsoKeeps] at ran kept
  rw [Function.update_eq_self] at kept
  have nothing := kept.pending name
  rw [closed] at nothing
  have unsynced : vfs.Synced name truncated truncated := by
    rw [Synced, show truncated.files.lookup name = none from nothing]
    rfl
  refine ⟨_, _, lent, truncated, truncated, reports_flat lawful encodes name full, ?_, unsynced,
    reports_flat lawful kept name full, ?_⟩
  · simp only [perform, withBuffer, Task.run_bind, Task.run_withLocal, ran, Except.map,
      Task.andThen_ok, Task.run_pure]
  · have size_eq : (files name).committed.flat.size = size := by
      change ((files name).committed.last + 1).toNat * pageSize = size
      unfold PageFile.sizeInBytes pageSize at equal
      unfold pageSize
      omega
    apply FlatFile.resized_of_appended
    · omega
    · rw [size_eq]
      unfold PageFile.sizeInBytes pageSize at equal
      unfold pageSize
      omega
    · intro position
      rfl

/-- The law holds for every size from the current one on, and for no smaller one. -/
theorem truncateLaw_iff (lawful : vfs.runtime.Lawful) (encodes : vfs.Encodes state files)
    (name : FileName) (full : (files name).committed.FullPages)
    (closed : (files name).pending = none) (size : Nat) :
    vfs.TruncateLaw name size state ↔ (files name).sizeInBytes ≤ size := by
  constructor
  · intro law
    by_contra smaller
    exact truncate_shrinking lawful encodes (by omega) law
  · intro reaches
    by_cases equal : (size : Int) = (files name).sizeInBytes
    · exact truncate_equal lawful encodes full closed equal
    · exact truncate_growing lawful encodes full closed (by omega)

/-- A journal of one page, extended into its third one. -/
theorem truncateLaw_extended :
    ParaVFS.sample.TruncateLaw "paraql.db-journal" 10000 (VfsState.initial onesStore) := by
  apply (truncateLaw_iff Runtime.copying_lawful (encodes_plain .sample rfl rfl none onesStore)
    "paraql.db-journal" onesStore_full rfl 10000).2
  change ((onesStore .tmp "paraql.db-journal").last + 1) * pageSize ≤ (10000 : Nat)
  rw [last_onesStore]
  decide

/-- The same journal, cut off at its hundredth byte. -/
theorem truncateLaw_cut_fails :
    ¬ParaVFS.sample.TruncateLaw "paraql.db-journal" 100 (VfsState.initial onesStore) := by
  apply truncate_shrinking Runtime.copying_lawful (encodes_plain .sample rfl rfl none onesStore)
  change ((100 : Nat) : Int) < ((onesStore .tmp "paraql.db-journal").last + 1) * pageSize
  rw [last_onesStore]
  decide

end ParaVFS
end ParaQL
