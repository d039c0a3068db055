/-
What the VFS is for: files made of pages, each with its committed pages and the
changes made since the last flush.

The model knows nothing of stores, batches objects, compression or encryption.
Each operation is a function of one file.
-/

import ParaQL.Vfs

namespace ParaQL

open Async Bytes

abbrev PageOp := Nat × Option Buffer

def Pages.commit (pages : Pages) (ops : List PageOp) : Pages :=
  ops.foldl (fun current op => current.apply op.1 op.2) pages

def Pages.page (pages : Pages) (index : Nat) : Buffer :=
  (pages.lookup index).getD (Buffer.alloc pageSize)

structure PageFile where
  committed : Pages
  -- The changes since the last flush; `none` when no batch is open.
  pending : Option (List PageOp)

abbrev PageFiles := FileName → PageFile

namespace PageFile

def add (file : PageFile) (op : PageOp) : PageFile :=
  { file with pending := some (file.pending.getD [] ++ [op]) }

def addAll (file : PageFile) (ops : List PageOp) : PageFile := ops.foldl add file

def flushed (file : PageFile) : PageFile :=
  { committed := file.committed.commit (file.pending.getD []), pending := none }

def writeOps (file : PageFile) (data : Buffer) (offset : Nat) : List PageOp :=
  (Paging.pagesTouched pageSize offset data.length).map fun index =>
    (index, some (Paging.patchPage pageSize offset data index (file.committed.page index)))

def read (file : PageFile) (buffer : Buffer) (offset : Nat) : Buffer :=
  (Paging.pagesTouched pageSize offset buffer.length).foldl
    (fun current index => Paging.readPage pageSize offset index (file.committed.page index) current)
    buffer

def sizeInBytes (file : PageFile) : Int := (file.committed.last + 1) * pageSize

def growOps (file : PageFile) (size : Nat) : List PageOp :=
  (List.range' (file.committed.last + 1).toNat
    (((size : Int) - 1) / pageSize - file.committed.last).toNat).map fun index =>
      (index, some (Buffer.alloc pageSize))

def deleteOps (file : PageFile) : List PageOp :=
  if file.committed.last ≥ 0 then
    (List.range (file.committed.last + 1).toNat).map fun index => (index, none)
  else []

end PageFile

structure Outcome where
  args : ParaVFS.CallbackArgs
  bytes : Buffer
  deriving DecidableEq, Repr

/-- What the caller of an operation learns from the reply: a written buffer is
passed by value and not looked at again. -/
def VfsReply.outcome (reply : VfsReply) : VfsCall → Outcome
  | .xRead _ _ _ => { args := reply.args, bytes := reply.buffer }
  | _ => { args := reply.args, bytes := [] }

namespace PageFile

def noBatch (name : FileName) : JsValue := .error (JsError.internal ("No batch for " ++ name))

def flush (file : PageFile) (name : FileName) : Outcome × PageFile :=
  match file.pending with
  | none => (⟨[noBatch name], []⟩, file)
  | some _ => (⟨[.null], []⟩, file.flushed)

def truncate (file : PageFile) (size : Nat) : Outcome × PageFile :=
  if (size : Int) > file.sizeInBytes then (⟨[.null], []⟩, file.addAll (file.growOps size))
  else if (size : Int) < file.sizeInBytes then
    (⟨[.error (JsError.notDefined "lastIndex")], []⟩, file)
  else (⟨[.null], []⟩, file)

def perform (file : PageFile) : VfsCall → Outcome × PageFile
  | .xDelete name => (file.addAll file.deleteOps).flush name
  | .xAccess _ => (⟨[.null, .bool (file.committed.last ≥ 0)], []⟩, file)
  | .xRead _ buffer offset => (⟨[.null], file.read buffer offset⟩, file)
  | .xWrite _ data offset => (⟨[.null], []⟩, file.addAll (file.writeOps data offset))
  | .xTruncate _ size => file.truncate size
  | .xSync name => file.flush name
  | .xSize _ => (⟨[.null, .number file.sizeInBytes], []⟩, file)

end PageFile

namespace PageFiles

def perform (files : PageFiles) (call : VfsCall) : Outcome × PageFiles :=
  (((files call.file).perform call).1,
    Function.update files call.file ((files call.file).perform call).2)

def performAll (files : PageFiles) : List VfsCall → List Outcome × PageFiles
  | [] => ([], files)
  | call :: calls =>
      ((files.perform call).1 :: ((files.perform call).2.performAll calls).1,
        ((files.perform call).2.performAll calls).2)

end PageFiles

theorem PageFiles.performAll_concat (files : PageFiles) (calls : List VfsCall) (call : VfsCall) :
    files.performAll (calls ++ [call]) =
      ((files.performAll calls).1 ++ [((files.performAll calls).2.perform call).1],
        ((files.performAll calls).2.perform call).2) := by
  induction calls generalizing files with
  | nil => rfl
  | cons first calls ih =>
      rw [List.cons_append, PageFiles.performAll, ih]
      rfl

theorem Pages.lookup_commit_append (pages : Pages) (ops : List PageOp) (op : PageOp)
    (index : Nat) :
    (pages.commit (ops ++ [op])).lookup index =
      if index = op.1 then op.2 else (pages.commit ops).lookup index := by
  unfold Pages.commit
  rw [List.foldl_append]
  exact Pages.lookup_apply _ _ _ _

@[simp] theorem PageFile.addAll_nil (file : PageFile) : file.addAll [] = file := rfl

theorem PageFile.addAll_append (file : PageFile) (first second : List PageOp) :
    file.addAll (first ++ second) = (file.addAll first).addAll second := by
  unfold PageFile.addAll
  exact List.foldl_append

@[simp] theorem PageFile.committed_addAll (file : PageFile) (ops : List PageOp) :
    (file.addAll ops).committed = file.committed := by
  induction ops generalizing file with
  | nil => rfl
  | cons op ops ih =>
      change ((file.add op).addAll ops).committed = _
      rw [ih]
      rfl

theorem PageFile.flush_outcome (file : PageFile) (name : FileName) :
    (file.flush name).1 = ⟨(file.flush name).1.args, []⟩ := by
  unfold PageFile.flush
  cases file.pending <;> rfl

theorem PageFile.truncate_outcome (file : PageFile) (size : Nat) :
    (file.truncate size).1 = ⟨(file.truncate size).1.args, []⟩ := by
  unfold PageFile.truncate
  split_ifs <;> rfl

theorem PageFile.pending_addAll (file : PageFile) (ops : List PageOp) (some_op : ops ≠ []) :
    (file.addAll ops).pending = some (file.pending.getD [] ++ ops) := by
  induction ops generalizing file with
  | nil => exact absurd rfl some_op
  | cons op ops ih =>
      change ((file.add op).addAll ops).pending = _
      by_cases single : ops = []
      · subst single
        rfl
      · rw [ih _ single]
        simp only [PageFile.add, Option.getD_some, List.append_assoc, List.singleton_append]

end ParaQL
