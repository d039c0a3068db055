/-
The files that SQLite has open: `paravfs__on_open`, `paravfs__on_close`, and the calls on an
open file.

SQLite names the database and its journals.  For other files it asks for a new one, and
binding.c makes up a name from random bytes.
-/

import ParaQL.Async.Serving
import ParaQL.Binding
import ParaQL.Bytes.FileSystem

namespace ParaQL

open Async Async.Task Bytes

/-- `%X` of a half byte. -/
def hexDigit (value : Nat) : Char :=
  if value < 10 then Char.ofNat (48 + value) else Char.ofNat (55 + value)

def hexByte (byte : UInt8) : List Char := [hexDigit (byte.toNat / 16), hexDigit (byte.toNat % 16)]

def temporaryName (bytes : List UInt8) : FileName := String.ofList (bytes.flatMap hexByte)

private theorem hexDigit_injective {first second : Nat} (small : first < 16)
    (alsoSmall : second < 16)
    (same : hexDigit first = hexDigit second) : first = second := by
  have all : ∀ first < 16, ∀ second < 16, hexDigit first = hexDigit second → first = second := by
    decide
  exact all first small second alsoSmall same

private theorem hexByte_injective {first second : UInt8} (same : hexByte first = hexByte second) :
    first = second := by
  obtain ⟨sameHigh, sameLow⟩ := List.cons_eq_cons.1 same
  have bound := first.toNat_lt
  have alsoBound := second.toNat_lt
  have high := hexDigit_injective (by omega) (by omega) sameHigh
  have low := hexDigit_injective (Nat.mod_lt _ (by decide)) (Nat.mod_lt _ (by decide))
    (List.cons_eq_cons.1 sameLow).1
  apply UInt8.toNat_inj.1
  omega

theorem temporaryName_injective {first second : List UInt8}
    (same : temporaryName first = temporaryName second) : first = second := by
  have digits : first.flatMap hexByte = second.flatMap hexByte := String.ofList_injective same
  clear same
  induction first generalizing second with
  | nil =>
      cases second with
      | nil => rfl
      | cons byte rest => cases digits
  | cons byte rest ih =>
      cases second with
      | nil => cases digits
      | cons other others =>
          rw [List.flatMap_cons, List.flatMap_cons] at digits
          obtain ⟨sameByte, sameRest⟩ := List.append_inj digits rfl
          rw [hexByte_injective sameByte, ih sameRest]

structure OpenFile where
  name : FileName
  deleteOnClose : Bool
  deriving DecidableEq, Repr

/-- The VFS, each `paravfs_file_t` by its place in memory, and the number of names made up. -/
structure FileTable where
  vfs : VfsState
  files : Nat → OpenFile
  draws : Nat

def FileTable.setVfs (table : FileTable) (vfs : VfsState) : FileTable := { table with vfs := vfs }

theorem FileTable.lawful_vfs : LawfulPart FileTable.vfs FileTable.setVfs :=
  ⟨fun _ _ => rfl, fun _ _ _ => rfl, fun _ => rfl⟩

/-- A call that finds what it needs returns `SQLITE_OK`. -/
def okReply : NativeReply := { status := sqliteOk, value := .undefined, buffer := [] }

def fileCall (name : FileName) : FileOp → VfsCall
  | .read buffer offset => .xRead name buffer offset
  | .write data offset => .xWrite name data offset
  | .resize size => .xTruncate name size
  | .sync => .xSync name
  | .size => .xSize name

def VfsCall.heard (reply : NativeReply) : VfsCall → NativeReply
  | .xRead _ _ _ => reply
  | _ => { reply with buffer := [] }

namespace ParaVFS

variable (vfs : ParaVFS)

def onFile (call : VfsCall) : Task FileTable JsValue NativeReply := do
  let reply ← (vfs.native call).zoom FileTable.vfs FileTable.setVfs
  pure (call.heard reply)

end ParaVFS
end ParaQL
