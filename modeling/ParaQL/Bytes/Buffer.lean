/-
Byte buffers with the operations of a JavaScript `Buffer` that page code needs:
allocation, views and bounded copies.  A buffer is read through `at`, which is
zero past the end, so that statements about content need no length side
conditions.
-/

import Mathlib.Tactic.Common

namespace Bytes

abbrev Buffer := List UInt8

namespace Buffer

def byteAt (buffer : Buffer) (index : Nat) : UInt8 := buffer.getD index 0

def alloc (size : Nat) : Buffer := List.replicate size 0

def subarray (buffer : Buffer) (start stop : Nat) : Buffer := (buffer.take stop).drop start

/-- Overwrites `target` from `start` on.  What does not fit is dropped, so the
length never changes. -/
def splice (target : Buffer) (start : Nat) (chunk : Buffer) : Buffer :=
  target.take start ++ chunk.take (target.length - start) ++ target.drop (start + chunk.length)

/-- `source.copy(target, targetStart, sourceStart, sourceEnd)`. -/
def copy (source target : Buffer) (targetStart sourceStart sourceEnd : Nat) : Buffer :=
  target.splice targetStart (source.subarray sourceStart sourceEnd)

@[simp] theorem length_alloc (size : Nat) : (alloc size).length = size :=
  List.length_replicate

@[simp] theorem byteAt_alloc (size index : Nat) : (alloc size).byteAt index = 0 := by
  simp only [byteAt, alloc, List.getD_eq_getElem?_getD, List.getElem?_replicate]
  split <;> rfl

theorem ext_byteAt {left right : Buffer} (sameLength : left.length = right.length)
    (same : ∀ index, index < left.length → left.byteAt index = right.byteAt index) :
    left = right := by
  apply List.ext_getElem sameLength
  intro index inLeft inRight
  have bytes := same index inLeft
  simpa only [byteAt, List.getD_eq_getElem?_getD, List.getElem?_eq_getElem inLeft,
    List.getElem?_eq_getElem inRight, Option.getD_some] using bytes

@[simp] theorem length_subarray (buffer : Buffer) (start stop : Nat) :
    (buffer.subarray start stop).length = min stop buffer.length - start := by
  simp only [subarray, List.length_drop, List.length_take]

theorem byteAt_subarray (buffer : Buffer) (start stop index : Nat) :
    (buffer.subarray start stop).byteAt index =
      if start + index < stop then buffer.byteAt (start + index) else 0 := by
  simp only [byteAt, subarray, List.getD_eq_getElem?_getD, List.getElem?_drop,
    List.getElem?_take]
  split <;> rfl

theorem subarray_congr {left right : Buffer} (start stop : Nat)
    (sameLength : left.length = right.length)
    (same : ∀ index, start ≤ index → index < stop → left.byteAt index = right.byteAt index) :
    left.subarray start stop = right.subarray start stop := by
  apply ext_byteAt
  · rw [length_subarray, length_subarray, sameLength]
  · intro index inside
    rw [length_subarray] at inside
    rw [byteAt_subarray, byteAt_subarray, if_pos (by omega), if_pos (by omega)]
    exact same _ (by omega) (by omega)

@[simp] theorem length_splice (target chunk : Buffer) (start : Nat) :
    (target.splice start chunk).length = target.length := by
  simp only [splice, List.length_append, List.length_take, List.length_drop]
  omega

private theorem getElem?_splice (target chunk : Buffer) (start index : Nat) :
    (target.splice start chunk)[index]? =
      if start ≤ index ∧ index < start + chunk.length ∧ index < target.length then
        chunk[index - start]?
      else target[index]? := by
  simp only [splice, List.getElem?_append, List.getElem?_take, List.getElem?_drop,
    List.length_append, List.length_take]
  grind

theorem byteAt_splice (target chunk : Buffer) (start index : Nat) :
    (target.splice start chunk).byteAt index =
      if start ≤ index ∧ index < start + chunk.length ∧ index < target.length then
        chunk.byteAt (index - start)
      else target.byteAt index := by
  simp only [byteAt, List.getD_eq_getElem?_getD, getElem?_splice]
  split <;> rfl

@[simp] theorem splice_nil (target : Buffer) (start : Nat) : target.splice start [] = target := by
  simp only [splice, List.take_nil, List.append_nil, List.length_nil, Nat.add_zero,
    List.take_append_drop]

theorem splice_all (target chunk : Buffer) (sameLength : target.length = chunk.length) :
    target.splice 0 chunk = chunk := by
  simp only [splice, List.take_zero, List.nil_append, Nat.zero_add, Nat.sub_zero]
  rw [← sameLength, List.drop_length, List.append_nil, sameLength, List.take_length]

/-- Two chunks written one after the other, where there is room for both. -/
theorem splice_splice (target first second : Buffer) (start : Nat)
    (room : start + (first ++ second).length ≤ target.length) :
    (target.splice start first).splice (start + first.length) second =
      target.splice start (first ++ second) := by
  rw [List.length_append] at room
  apply List.ext_getElem?
  intro index
  simp only [getElem?_splice, length_splice, List.length_append, List.getElem?_append]
  grind

@[simp] theorem length_copy (source target : Buffer) (targetStart sourceStart sourceEnd : Nat) :
    (copy source target targetStart sourceStart sourceEnd).length = target.length :=
  length_splice _ _ _

end Buffer
end Bytes
