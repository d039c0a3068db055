/-
A flat byte file: its bytes from position 0 on, zero past its end.

The page lemmas say when a sequence of equally long pages, concatenated, is such a
file padded to a whole number of pages.
-/

import ParaQL.Bytes.Paging
import Mathlib.Data.Set.Basic

namespace Bytes

abbrev InRange (offset length position : Nat) : Prop :=
  offset ≤ position ∧ position < offset + length

structure FlatFile where
  size : Nat
  byte : Nat → UInt8
  zeroBeyond : ∀ position, size ≤ position → byte position = 0

namespace FlatFile

open Buffer

def write (file : FlatFile) (data : Buffer) (offset : Nat) : FlatFile where
  size := max file.size (offset + data.length)
  byte position :=
    if InRange offset data.length position then data.byteAt (position - offset)
    else file.byte position
  zeroBeyond := by
    intro position beyond
    rw [if_neg (by unfold InRange; omega)]
    exact file.zeroBeyond position (by omega)

def read (file : FlatFile) (offset length : Nat) : Buffer :=
  (List.range length).map fun index => file.byte (offset + index)

def padded (file : FlatFile) (size : Nat) : Buffer :=
  file.read 0 ((file.size + size - 1) / size * size)

@[simp] theorem length_read (file : FlatFile) (offset length : Nat) :
    (file.read offset length).length = length := by
  simp only [read, List.length_map, List.length_range]

theorem byteAt_read (file : FlatFile) (offset length index : Nat) (inside : index < length) :
    (file.read offset length).byteAt index = file.byte (offset + index) := by
  simp only [read, byteAt, List.getD_eq_getElem?_getD, List.getElem?_map,
    List.getElem?_range inside, Option.map_some, Option.getD_some]

theorem eq_read (file : FlatFile) (buffer : Buffer) (offset : Nat)
    (same : ∀ index, index < buffer.length → buffer.byteAt index = file.byte (offset + index)) :
    buffer = file.read offset buffer.length := by
  apply ext_byteAt (file.length_read offset buffer.length).symm
  intro index inside
  rw [same index inside, byteAt_read _ _ _ _ inside]

/-- `after` is `before` cut off or extended at `size`, in units of `unit` bytes: the last
unit is filled up with zeros. -/
structure Resized (unit size : Nat) (before after : FlatFile) : Prop where
  rounded : after.size = (size + unit - 1) / unit * unit
  kept : ∀ position, position < min size before.size →
    after.byte position = before.byte position
  zeroed : ∀ position, size ≤ position → position < after.size → after.byte position = 0

/-- Appending zeros up to the next whole unit is a resize. -/
theorem resized_of_appended {unit size : Nat} {before after : FlatFile}
    (grows : before.size ≤ size)
    (rounded : after.size = (size + unit - 1) / unit * unit)
    (appended : ∀ position, after.byte position = before.byte position) :
    before.Resized unit size after := by
  constructor
  · exact rounded
  · intro position _below
    exact appended position
  · intro position beyond _reported
    rw [appended position]
    exact before.zeroBeyond position (by omega)

end FlatFile

namespace Paging

open Buffer

def byteOf (size : Nat) (page : Nat → Buffer) (position : Nat) : UInt8 :=
  (page (position / size)).byteAt (position % size)

/-- Reading a range page by page gives the bytes of the pages. -/
theorem byteAt_readPages {size : Nat} (offset : Nat) (page : Nat → Buffer) (buffer : Buffer)
    (positive : 0 < size) (full : ∀ index, (page index).length = size) (position : Nat)
    (inside : position < buffer.length) :
    ((pagesTouched size offset buffer.length).foldl
      (fun current index => readPage size offset index (page index) current) buffer).byteAt
        position = byteOf size page (offset + position) := by
  have fromList (indices : List Nat) (current : Buffer)
      (sameLength : current.length = buffer.length) :
      (indices.foldl (fun current index => readPage size offset index (page index) current)
        current).byteAt position =
      if (offset + position) / size ∈ indices then byteOf size page (offset + position)
      else current.byteAt position := by
    induction indices generalizing current with
    | nil => rfl
    | cons index indices ih =>
        rw [List.foldl_cons, ih _ ((length_readPage _ _ _ _ _).trans sameLength),
          byteAt_readPage offset index (page index) current positive (full index) position
            (sameLength ▸ inside)]
        by_cases later : (offset + position) / size ∈ indices
        · rw [if_pos later, if_pos (List.mem_cons_of_mem _ later)]
        · by_cases here : (offset + position) / size = index
          · subst here
            rw [if_neg later, if_pos rfl, if_pos List.mem_cons_self]
            rfl
          · rw [if_neg later, if_neg here, if_neg]
            simp only [List.mem_cons, not_or]
            exact ⟨here, later⟩
  rw [fromList _ _ rfl, if_pos (page_mem_pagesTouched offset _ _ positive inside)]

def concat (page : Nat → Buffer) (count : Nat) : Buffer := (List.range count).flatMap page

theorem length_concat {size : Nat} (page : Nat → Buffer) (count : Nat)
    (full : ∀ index, (page index).length = size) : (concat page count).length = count * size := by
  induction count with
  | zero => rw [Nat.zero_mul]; rfl
  | succ count ih =>
      unfold concat at ih ⊢
      rw [List.range_succ, List.flatMap_append, List.length_append, ih, Nat.succ_mul]
      simp only [List.flatMap_cons, List.flatMap_nil, List.append_nil, full]

theorem byteAt_concat {size : Nat} (page : Nat → Buffer) (count position : Nat)
    (positive : 0 < size) (full : ∀ index, (page index).length = size)
    (inside : position < count * size) :
    (concat page count).byteAt position = byteOf size page position := by
  induction count with
  | zero => omega
  | succ count ih =>
      have lengthSoFar := length_concat page count full
      have next : concat page (count + 1) = concat page count ++ page count := by
        unfold concat
        rw [List.range_succ, List.flatMap_append, List.flatMap_singleton]
      rw [next, byteAt, List.getD_eq_getElem?_getD, List.getElem?_append, lengthSoFar]
      by_cases before : position < count * size
      · rw [if_pos before, ← List.getD_eq_getElem?_getD]
        exact ih before
      · rw [Nat.succ_mul] at inside
        have here : position / size = count := (page_eq_iff _ _ positive).2 (by omega)
        rw [if_neg before, byteOf, mod_eq_sub here, here, byteAt, List.getD_eq_getElem?_getD]

/-- Pages that reach exactly to the end of a file hold it padded. -/
theorem concat_eq_padded {size : Nat} (page : Nat → Buffer) (count : Nat) (file : FlatFile)
    (positive : 0 < size) (full : ∀ index, (page index).length = size)
    (same : ∀ position, byteOf size page position = file.byte position)
    (reaches : count * size = (file.size + size - 1) / size * size) :
    concat page count = file.padded size := by
  have sameLength := length_concat page count full
  unfold FlatFile.padded
  rw [← reaches, ← sameLength]
  apply FlatFile.eq_read
  intro position inside
  rw [byteAt_concat page count position positive full (sameLength ▸ inside), Nat.zero_add]
  exact same position

end Paging
end Bytes
