/-
Byte ranges cut at page boundaries.

A range of bytes touches a block of consecutive pages.  Reading it copies a
clipped piece of each page, and writing it patches each page in turn.  The
lemmas say what such a clipped copy does to a single byte, for any page size.
-/

import ParaQL.Bytes.Buffer
import Mathlib.Data.Nat.Basic
import Mathlib.Data.List.Range

namespace Bytes
namespace Paging

open Buffer

def endPage (size offset length : Nat) : Int := ((offset : Int) + length - 1) / size + 1

/-- `for (i = floor(offset / size); i <= floor((offset + length - 1) / size); i++)` -/
def pagesTouched (size offset length : Nat) : List Nat :=
  List.range' (offset / size) (endPage size offset length - (offset / size : Nat)).toNat

theorem pagesTouched_eq {size : Nat} (offset length : Nat) (nonempty : 0 < length) :
    pagesTouched size offset length =
      List.range' (offset / size) ((offset + length - 1) / size - offset / size + 1) := by
  have lastPage : endPage size offset length = ((offset + length - 1) / size : Nat) + 1 := by
    unfold endPage
    rw [show (offset : Int) + length - 1 = ((offset + length - 1 : Nat) : Int) by omega]
    rfl
  have ordered : offset / size ≤ (offset + length - 1) / size := Nat.div_le_div_right (by omega)
  unfold pagesTouched
  rw [lastPage]
  congr 1
  omega

theorem pagesTouched_nodup (size offset length : Nat) : (pagesTouched size offset length).Nodup :=
  List.nodup_range'

/-- A loop over the pages comes to a page that it has not handled. -/
theorem next_page {size offset length index : Nat} {handled : List Nat}
    (reached : handled ++ [index] <+: pagesTouched size offset length) :
    index ∉ handled ∧ index ∈ pagesTouched size offset length := by
  have nodup := (pagesTouched_nodup size offset length).sublist reached.sublist
  constructor
  · intro member
    exact (List.nodup_append.1 nodup).2.2 index member index List.mem_cons_self rfl
  · exact reached.subset (List.mem_append_right _ List.mem_cons_self)

theorem page_eq_iff {size : Nat} (position index : Nat) (positive : 0 < size) :
    position / size = index ↔ index * size ≤ position ∧ position < index * size + size := by
  rw [Nat.div_eq_iff positive]
  constructor
  · rintro ⟨lower, upper⟩
    omega
  · rintro ⟨lower, upper⟩
    omega

theorem mod_eq_sub {size position index : Nat} (samePage : position / size = index) :
    position % size = position - index * size := by
  subst samePage
  have split := Nat.div_add_mod position size
  rw [Nat.mul_comm] at split
  omega

theorem mem_pagesTouched {size : Nat} (offset length index : Nat) (positive : 0 < size) :
    index ∈ pagesTouched size offset length ↔
      offset < index * size + size ∧ index * size < offset + length := by
  have lower : offset / size ≤ index ↔ offset < index * size + size := by
    rw [← Nat.lt_succ_iff, Nat.div_lt_iff_lt_mul positive, Nat.succ_mul]
  have upper : (index : Int) < endPage size offset length ↔ index * size < offset + length := by
    unfold endPage
    rw [Int.lt_add_one_iff, Int.le_ediv_iff_mul_le (by omega)]
    have cast : ((index : Int) * (size : Int)) = ((index * size : Nat) : Int) := by simp
    rw [cast]
    omega
  rw [← lower, ← upper]
  unfold pagesTouched
  rw [List.mem_range'_1]
  omega

theorem page_mem_pagesTouched {size : Nat} (offset length index : Nat) (positive : 0 < size)
    (inside : index < length) :
    (offset + index) / size ∈ pagesTouched size offset length := by
  rw [mem_pagesTouched offset length _ positive]
  have bounds := (page_eq_iff (offset + index) _ positive).1 rfl
  omega

/-- Copies the part of `page` that lies in the range into the buffer of the range. -/
def readPage (size offset : Nat) (index : Nat) (page buffer : Buffer) : Buffer :=
  let pageStart := index * size
  let readStart := max offset pageStart
  let readEnd := min (offset + buffer.length) (pageStart + size)
  if readStart < readEnd then
    page.copy buffer (readStart - offset) (readStart - pageStart)
      (readStart - pageStart + (readEnd - readStart))
  else buffer

@[simp] theorem length_readPage (size offset index : Nat) (page buffer : Buffer) :
    (readPage size offset index page buffer).length = buffer.length := by
  unfold readPage
  simp only
  split
  · exact length_copy _ _ _ _ _
  · rfl

theorem byteAt_readPage {size : Nat} (offset index : Nat) (page buffer : Buffer)
    (positive : 0 < size) (full : page.length = size) (position : Nat)
    (inside : position < buffer.length) :
    (readPage size offset index page buffer).byteAt position =
      if (offset + position) / size = index then page.byteAt ((offset + position) % size)
      else buffer.byteAt position := by
  have here := page_eq_iff (offset + position) index positive
  unfold readPage
  simp only
  by_cases onPage : (offset + position) / size = index
  · have bounds := here.1 onPage
    rw [if_pos onPage, if_pos (by omega), copy, byteAt_splice, length_subarray, full,
      if_pos (by omega), byteAt_subarray, if_pos (by omega), mod_eq_sub onPage]
    congr 1
    omega
  · rw [if_neg onPage]
    split
    · rw [copy, byteAt_splice, length_subarray, full, if_neg]
      intro inChunk
      exact onPage (here.2 (by omega))
    · rfl

def patchPage (size offset : Nat) (data : Buffer) (index : Nat) (base : Buffer) : Buffer :=
  let pageStart := index * size
  let writeStart := max offset pageStart
  let writeEnd := min (offset + data.length) (pageStart + size)
  let writeLength := writeEnd - writeStart
  let dataStart := writeStart - offset
  if writeLength = size then data.subarray dataStart (dataStart + size)
  else (data.subarray dataStart (dataStart + writeLength)).copy base (writeStart - pageStart) 0
    (data.subarray dataStart (dataStart + writeLength)).length

theorem length_patchPage {size : Nat} (offset : Nat) (data : Buffer) (index : Nat) (base : Buffer)
    (positive : 0 < size) (full : base.length = size) :
    (patchPage size offset data index base).length = size := by
  unfold patchPage
  simp only
  split
  · rw [length_subarray]
    omega
  · rw [length_copy, full]

theorem byteAt_patchPage {size : Nat} (offset : Nat) (data : Buffer) (index : Nat)
    (base : Buffer) (positive : 0 < size) (full : base.length = size) (position : Nat)
    (inside : position < size) :
    (patchPage size offset data index base).byteAt position =
      if offset ≤ index * size + position ∧ index * size + position < offset + data.length then
        data.byteAt (index * size + position - offset)
      else base.byteAt position := by
  unfold patchPage
  simp only
  by_cases covers : min (offset + data.length) (index * size + size) - max offset (index * size) = size
  · rw [if_pos covers, byteAt_subarray, if_pos (by omega), if_pos (by omega)]
    congr 1
    omega
  · rw [if_neg covers, copy, byteAt_splice, length_subarray, length_subarray, full]
    split <;> split
    · rw [byteAt_subarray, if_pos (by omega), byteAt_subarray, if_pos (by omega)]
      congr 1
      omega
    · omega
    · omega
    · rfl

end Paging
end Bytes
