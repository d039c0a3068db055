/-
The items of one kind in a list, counted from its start.

An item's rank is the number of items of the kind before it.  The ranks of a kind are
an enumeration: every number below the count belongs to one index.
-/

import Mathlib.Data.List.Count
import Mathlib.Logic.ExistsUnique
import Mathlib.Tactic.Common

namespace Occurrences

variable {α : Type} (kind : α → Bool)

def rank (items : List α) (index : Nat) : Nat := (items.take index).countP kind

variable {kind} {items : List α} {item : α}

@[simp] theorem rank_zero (items : List α) : rank kind items 0 = 0 := rfl

private theorem rank_cons_succ (first : α) (items : List α) (index : Nat) :
    rank kind (first :: items) (index + 1) =
      rank kind items index + if kind first then 1 else 0 := by
  unfold rank
  rw [List.take_succ_cons, List.countP_cons]

theorem rank_succ {index : Nat} (here : items[index]? = some item) :
    rank kind items (index + 1) = rank kind items index + if kind item then 1 else 0 := by
  unfold rank
  rw [List.take_add_one, here, List.countP_append]
  simp only [Option.toList_some, List.countP_singleton]

theorem rank_length (items : List α) : rank kind items items.length = items.countP kind := by
  unfold rank
  rw [List.take_length]

private theorem rank_mono {first second : Nat} (ordered : first ≤ second) :
    rank kind items first ≤ rank kind items second :=
  (List.take_sublist_take_left ordered).countP_le

private theorem rank_le_count (items : List α) (index : Nat) :
    rank kind items index ≤ items.countP kind :=
  (List.take_sublist index items).countP_le

theorem rank_lt_count {index : Nat} (here : items[index]? = some item)
    (isKind : kind item = true) : rank kind items index < items.countP kind := by
  have next : rank kind items (index + 1) = _ := rank_succ here
  rw [if_pos isKind] at next
  have upper : rank kind items (index + 1) ≤ _ := rank_le_count items (index + 1)
  omega

def HasRank (kind : α → Bool) (items : List α) (place index : Nat) : Prop :=
  (∃ item, items[index]? = some item ∧ kind item = true) ∧ rank kind items index = place

private theorem exists_hasRank {place : Nat} (below : place < items.countP kind) :
    ∃ index, HasRank kind items place index := by
  induction items generalizing place with
  | nil => cases below
  | cons first items ih =>
      rw [List.countP_cons] at below
      by_cases isKind : kind first = true
      · rw [if_pos isKind] at below
        cases place with
        | zero => exact ⟨0, ⟨first, rfl, isKind⟩, rfl⟩
        | succ place =>
            obtain ⟨index, here, found⟩ := ih (by omega : place < items.countP kind)
            refine ⟨index + 1, here, ?_⟩
            rw [rank_cons_succ, if_pos isKind, found]
      · rw [if_neg isKind] at below
        obtain ⟨index, here, found⟩ := ih (by omega : place < items.countP kind)
        refine ⟨index + 1, here, ?_⟩
        rw [rank_cons_succ, if_neg isKind, found]
        omega

theorem HasRank.not_lt {place first second : Nat} (former : HasRank kind items place first)
    (latter : HasRank kind items place second) : ¬first < second := by
  intro before
  obtain ⟨item, here, isKind⟩ := former.1
  have next : rank kind items (first + 1) = _ := rank_succ here
  rw [if_pos isKind, former.2] at next
  have further : rank kind items (first + 1) ≤ rank kind items second := rank_mono (by omega)
  rw [next, latter.2] at further
  omega

theorem existsUnique_hasRank {place : Nat} (below : place < items.countP kind) :
    ∃! index, HasRank kind items place index := by
  obtain ⟨index, found⟩ := exists_hasRank below
  refine ⟨index, found, fun other also => ?_⟩
  have notBefore := also.not_lt found
  have notAfter := found.not_lt also
  omega

/-- When every item of the kind has a rank below a bound, no more than that many exist. -/
theorem count_le_of_rank_lt {bound : Nat}
    (ranks : ∀ index item, items[index]? = some item → kind item = true →
      rank kind items index < bound) : items.countP kind ≤ bound := by
  by_contra exceeds
  obtain ⟨index, ⟨item, here, isKind⟩, found⟩ :=
    exists_hasRank (by omega : bound < items.countP kind)
  have below := ranks index item here isKind
  omega

end Occurrences
