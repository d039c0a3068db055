/-
Files by name, files without one, and the handles they are open under.

A file is a flat byte file of which some bytes were written since it was last synced.  What
is asked of it is limited to what a file that is kept in whole units and read from its
synced units can answer.
-/

import ParaQL.Bytes.FlatFile
import Mathlib.Logic.Function.Basic

namespace Bytes

namespace FlatFile

def empty : FlatFile := { size := 0, byte := fun _ => 0, zeroBeyond := fun _ _ => rfl }

def extend (file : FlatFile) (size : Nat) : FlatFile where
  size := max file.size size
  byte := file.byte
  zeroBeyond position beyond := file.zeroBeyond position (by omega)

def paddedSize (file : FlatFile) (unit : Nat) : Nat := (file.size + unit - 1) / unit * unit

end FlatFile

structure HeldFile where
  content : FlatFile
  dirty : Set Nat
  synced : Bool
  clean : synced = true → dirty = ∅

namespace HeldFile

def empty : HeldFile := { content := .empty, dirty := ∅, synced := true, clean := fun _ => rfl }

def ofFlat (content : FlatFile) : HeldFile :=
  { content := content, dirty := ∅, synced := true, clean := fun _ => rfl }

def write (file : HeldFile) (data : Buffer) (offset : Nat) : HeldFile :=
  { content := file.content.write data offset
    dirty := { position | position ∈ file.dirty ∨ InRange offset data.length position }
    synced := false
    clean := fun impossible => absurd impossible (by decide) }

def sync (file : HeldFile) : HeldFile := .ofFlat file.content

def resize (file : HeldFile) (unit size : Nat) : HeldFile :=
  { content := file.content.extend size
    dirty := ∅
    synced := decide (size = file.content.paddedSize unit)
    clean := fun _ => rfl }

end HeldFile

inductive FileOp where
  | read (buffer : Buffer) (offset : Nat)
  | write (data : Buffer) (offset : Nat)
  | resize (size : Nat)
  | sync
  | size
  deriving DecidableEq, Repr

inductive FileRequest (ν : Type) where
  | open (handle : Nat) (name : Option ν) (deleteOnClose : Bool)
  | file (handle : Nat) (op : FileOp)
  | close (handle : Nat)
  | delete (name : ν)
  | access (name : ν)
  deriving DecidableEq, Repr

inductive FileAnswer where
  | done
  | bytes (buffer : Buffer)
  | size (size : Nat)
  | present (there : Bool)
  | missing
  deriving DecidableEq, Repr

/-- What a file answers.  Bytes are read once they are synced, a write covers what is dirty
in the units it touches, and sizes are asked for and changed between a sync and the next
write. -/
inductive HeldFile.Step (unit : Nat) (file : HeldFile) : FileOp → FileAnswer → HeldFile → Prop
    where
  | read (buffer : Buffer) (offset : Nat) (nonempty : 0 < buffer.length)
      (clean : ∀ position ∈ file.dirty, ¬InRange offset buffer.length position) :
      Step unit file (.read buffer offset) (.bytes (file.content.read offset buffer.length)) file
  | write (data : Buffer) (offset : Nat) (nonempty : 0 < data.length)
      (covers : ∀ position ∈ file.dirty,
        position / unit ∈ Paging.pagesTouched unit offset data.length →
          InRange offset data.length position) :
      Step unit file (.write data offset) .done (file.write data offset)
  | resize (size : Nat) (synced : file.synced = true)
      (grows : file.content.paddedSize unit ≤ size) :
      Step unit file (.resize size) .done (file.resize unit size)
  | sync (changed : file.synced = false) : Step unit file .sync .done file.sync
  | size (synced : file.synced = true) :
      Step unit file .size (.size (file.content.paddedSize unit)) file

def HeldFile.removal (file : HeldFile) : FileAnswer :=
  if file.synced = true ∧ file.content.size = 0 then .missing else .done

/-! ### File systems -/

inductive FileId (ν : Type) where
  | named (name : ν)
  | temporary (opening : Nat)
  deriving DecidableEq, Repr

structure OpenedFile (ν : Type) where
  id : FileId ν
  deleteOnClose : Bool
  deriving DecidableEq, Repr

structure FileSystem (ν : Type) where
  files : FileId ν → HeldFile
  opened : Nat → Option (OpenedFile ν)
  openings : Nat
  earlier : ∀ handle opening deleteOnClose,
    opened handle = some ⟨.temporary opening, deleteOnClose⟩ → opening < openings
  unshared : ∀ first second opening deletes alsoDeletes,
    opened first = some ⟨.temporary opening, deletes⟩ →
    opened second = some ⟨.temporary opening, alsoDeletes⟩ → first = second

namespace FileSystem

variable {ν : Type}

theorem opened_updated {opened : Nat → Option (OpenedFile ν)} {handle other : Nat}
    {file found : OpenedFile ν}
    (isOpen : Function.update opened handle (some file) other = some found) :
    (other = handle ∧ found = file) ∨ (other ≠ handle ∧ opened other = some found) := by
  by_cases same : other = handle
  · rw [same, Function.update_self] at isOpen
    exact .inl ⟨same, (Option.some.inj isOpen).symm⟩
  · rw [Function.update_of_ne same] at isOpen
    exact .inr ⟨same, isOpen⟩

theorem opened_erased {opened : Nat → Option (OpenedFile ν)} {handle other : Nat}
    {file : OpenedFile ν} (found : Function.update opened handle none other = some file) :
    other ≠ handle ∧ opened other = some file := by
  by_cases same : other = handle
  · rw [same, Function.update_self] at found
    cases found
  · rw [Function.update_of_ne same] at found
    exact ⟨same, found⟩

def start (files : ν → FlatFile) : FileSystem ν where
  files
    | .named name => .ofFlat (files name)
    | .temporary _ => .empty
  opened _ := none
  openings := 0
  earlier := fun _ _ _ impossible => by cases impossible
  unshared := fun _ _ _ _ _ impossible => by cases impossible

variable [DecidableEq ν]

def hold (system : FileSystem ν) (id : FileId ν) (file : HeldFile) : FileSystem ν :=
  { system with files := Function.update system.files id file }

def openNamed (system : FileSystem ν) (handle : Nat) (name : ν) (deleteOnClose : Bool) :
    FileSystem ν where
  files := system.files
  opened := Function.update system.opened handle (some ⟨.named name, deleteOnClose⟩)
  openings := system.openings
  earlier other opening deletes found := by
    rcases opened_updated found with ⟨_, impossible⟩ | ⟨_, before⟩
    · cases impossible
    · exact system.earlier other opening deletes before
  unshared first second opening deletes alsoDeletes found alsoFound := by
    rcases opened_updated found with ⟨_, impossible⟩ | ⟨_, before⟩
    · cases impossible
    · rcases opened_updated alsoFound with ⟨_, impossible⟩ | ⟨_, alsoBefore⟩
      · cases impossible
      · exact system.unshared first second opening deletes alsoDeletes before alsoBefore

def openTemporary (system : FileSystem ν) (handle : Nat) (deleteOnClose : Bool) :
    FileSystem ν where
  files := Function.update system.files (.temporary system.openings) .empty
  opened := Function.update system.opened handle
    (some ⟨.temporary system.openings, deleteOnClose⟩)
  openings := system.openings + 1
  earlier other opening deletes found := by
    rcases opened_updated found with ⟨_, isNew⟩ | ⟨_, before⟩
    · cases isNew
      exact Nat.lt_succ_self _
    · exact Nat.lt_succ_of_lt (system.earlier other opening deletes before)
  unshared first second opening deletes alsoDeletes found alsoFound := by
    rcases opened_updated found with ⟨isFirst, isNew⟩ | ⟨_, before⟩ <;>
      rcases opened_updated alsoFound with ⟨isSecond, alsoNew⟩ | ⟨_, alsoBefore⟩
    · exact isFirst.trans isSecond.symm
    · cases isNew
      exact absurd (system.earlier second _ _ alsoBefore) (Nat.lt_irrefl _)
    · cases alsoNew
      exact absurd (system.earlier first _ _ before) (Nat.lt_irrefl _)
    · exact system.unshared first second opening deletes alsoDeletes before alsoBefore

def closed (system : FileSystem ν) (handle : Nat) : FileSystem ν where
  files := system.files
  opened := Function.update system.opened handle none
  openings := system.openings
  earlier other opening deletes found :=
    system.earlier other opening deletes (opened_erased found).2
  unshared first second opening deletes alsoDeletes found alsoFound :=
    system.unshared first second opening deletes alsoDeletes (opened_erased found).2
      (opened_erased alsoFound).2

/-- What a file without a name leaves behind is never seen again, so it may be closed before
it was synced. -/
inductive Step (unit : Nat) (system : FileSystem ν) :
    FileRequest ν → FileAnswer → FileSystem ν → Prop where
  | openNamed (handle : Nat) (name : ν) (deleteOnClose : Bool) :
      Step unit system (.open handle (some name) deleteOnClose) .done
        (system.openNamed handle name deleteOnClose)
  | openTemporary (handle : Nat) (deleteOnClose : Bool) :
      Step unit system (.open handle none deleteOnClose) .done
        (system.openTemporary handle deleteOnClose)
  | file {handle : Nat} {op : FileOp} {file : OpenedFile ν} {answer : FileAnswer}
      {after : HeldFile} (opened : system.opened handle = some file)
      (does : (system.files file.id).Step unit op answer after) :
      Step unit system (.file handle op) answer (system.hold file.id after)
  | close {handle : Nat} {id : FileId ν} (opened : system.opened handle = some ⟨id, false⟩) :
      Step unit system (.close handle) .done (system.closed handle)
  | closeNamed {handle : Nat} {name : ν} (opened : system.opened handle = some ⟨.named name, true⟩)
      (synced : (system.files (.named name)).synced = true) :
      Step unit system (.close handle) (system.files (.named name)).removal
        ((system.hold (.named name) .empty).closed handle)
  | closeTemporary {handle opening : Nat}
      (opened : system.opened handle = some ⟨.temporary opening, true⟩) :
      Step unit system (.close handle) (system.files (.temporary opening)).removal
        (system.closed handle)
  | delete (name : ν) (synced : (system.files (.named name)).synced = true) :
      Step unit system (.delete name) (system.files (.named name)).removal
        (system.hold (.named name) .empty)
  | access (name : ν) (synced : (system.files (.named name)).synced = true) :
      Step unit system (.access name)
        (.present (decide ((system.files (.named name)).content.size ≠ 0))) system

end FileSystem
end Bytes
