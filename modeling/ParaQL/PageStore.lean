/-
The two kinds of page store under the VFS (the Autobee view and the local
RocksDB) as one data type: pages keyed by file name and page index, read by key
or by the last key of a file, and changed only by committing a batch.
-/

import ParaQL.Bytes.Buffer
import Mathlib.Data.Finmap
import Mathlib.Data.Finset.Max

namespace ParaQL

open Bytes

def pageSize : Nat := 4096

theorem pageSize_pos : 0 < pageSize := by decide

abbrev FileName := String

/-- `PageKey` of lib/codecs.js: pages of one file are adjacent and ordered by index. -/
structure PageKey where
  name : FileName
  index : Nat
  deriving DecidableEq, Repr

abbrev Pages := Finmap (fun _ : Nat => Buffer)

/-- The key a reverse `peek` over one file finds. -/
def Pages.lastIndex (pages : Pages) : Option Nat := pages.keys.max

/-- `index + 1` pages are needed to reach the last stored page; -1 when there is none. -/
def Pages.last (pages : Pages) : Int :=
  match pages.lastIndex with
  | none => -1
  | some index => index

abbrev Store := FileName → Pages

def Store.get (store : Store) (key : PageKey) : Option Buffer :=
  (store key.name).lookup key.index

/-- `peek({ gte: [name], lte: [name], reverse: true })`, decoded. -/
def Store.peek (store : Store) (name : FileName) : Option PageKey :=
  (store name).lastIndex.map (fun index => ⟨name, index⟩)

inductive BatchOp where
  | put (key : PageKey) (value : Buffer)
  | delete (key : PageKey)
  deriving DecidableEq, Repr

def BatchOp.key : BatchOp → PageKey
  | .put key _ => key
  | .delete key => key

def Pages.apply (pages : Pages) (index : Nat) : Option Buffer → Pages
  | some value => pages.insert index value
  | none => pages.erase index

def BatchOp.value : BatchOp → Option Buffer
  | .put _ value => some value
  | .delete _ => none

def Store.apply (store : Store) (op : BatchOp) : Store :=
  Function.update store op.key.name ((store op.key.name).apply op.key.index op.value)

/-- A flushed batch: its operations in the order they were added. -/
def Store.commit (store : Store) (ops : List BatchOp) : Store := ops.foldl Store.apply store

/-- What a batch makes of one file is decided by that file. -/
theorem Store.commit_congr (ops : List BatchOp) {first second : Store} {name : FileName}
    (same : first name = second name) : first.commit ops name = second.commit ops name := by
  induction ops generalizing first second with
  | nil => exact same
  | cons op ops ih =>
      apply ih
      unfold apply
      by_cases here : name = op.key.name
      · subst here
        rw [Function.update_self, Function.update_self, same]
      · rw [Function.update_of_ne here, Function.update_of_ne here, same]

theorem Pages.lookup_apply (pages : Pages) (index other : Nat) (value : Option Buffer) :
    (pages.apply index value).lookup other =
      if other = index then value else pages.lookup other := by
  cases value with
  | none =>
      by_cases same : other = index
      · subst same
        simp only [apply, Finmap.lookup_erase, if_true]
      · simp only [apply, Finmap.lookup_erase_ne same, if_neg same]
  | some value =>
      by_cases same : other = index
      · subst same
        simp only [apply, Finmap.lookup_insert, if_true]
      · simp only [apply, Finmap.lookup_insert_of_ne _ same, if_neg same]

theorem Pages.lastIndex_eq_none_iff (pages : Pages) :
    pages.lastIndex = none ↔ ∀ index, pages.lookup index = none := by
  have noKeys : pages.lastIndex = none ↔ pages.keys = ∅ := Finset.max_eq_bot
  rw [noKeys, Finset.eq_empty_iff_forall_notMem]
  simp only [Finmap.lookup_eq_none, Finmap.mem_keys]

theorem Pages.lastIndex_eq_some_iff (pages : Pages) (index : Nat) :
    pages.lastIndex = some index ↔
      (pages.lookup index).isSome ∧ ∀ later, index < later → pages.lookup later = none := by
  rw [Finmap.lookup_isSome, ← Finmap.mem_keys]
  constructor
  · intro largest
    refine ⟨Finset.mem_of_max largest, ?_⟩
    intro later beyond
    rw [Finmap.lookup_eq_none, ← Finmap.mem_keys]
    intro present
    have upper : later ≤ index := Finset.le_max_of_eq present largest
    omega
  · intro known
    rcases known with ⟨present, nothingLater⟩
    obtain ⟨largest, found⟩ := Finset.max_of_mem present
    have upper : index ≤ largest := Finset.le_max_of_eq present found
    have lower : ¬index < largest := by
      intro beyond
      have absent := Finmap.lookup_eq_none.1 (nothingLater largest beyond)
      exact absent (Finmap.mem_keys.1 (Finset.mem_of_max found))
    have same : index = largest := by omega
    subst same
    exact found

theorem Pages.lastIndex_congr {first second : Pages}
    (same : ∀ index, (first.lookup index).isSome = (second.lookup index).isSome) :
    first.lastIndex = second.lastIndex := by
  have none_iff (index : Nat) : first.lookup index = none ↔ second.lookup index = none := by
    rw [← Option.isNone_iff_eq_none, ← Option.isNone_iff_eq_none, ← Option.not_isSome,
      ← Option.not_isSome, same]
  cases found : second.lastIndex with
  | none =>
      rw [Pages.lastIndex_eq_none_iff] at found ⊢
      intro index
      exact (none_iff index).2 (found index)
  | some index =>
      rw [Pages.lastIndex_eq_some_iff] at found ⊢
      exact ⟨(same index).trans found.1,
        fun later beyond => (none_iff later).2 (found.2 later beyond)⟩

end ParaQL
