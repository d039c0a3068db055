/-
Entries in the order in which their keys were last used.

An entry that is used moves behind all others.  Where the entries are too many, those
at the front go, whose keys were not used for the longest time.
-/

import Mathlib.Data.List.Pairwise
import Mathlib.Tactic.Common

namespace Recency

variable {κ ν : Type} [DecidableEq κ]

def without (key : κ) (entries : List (κ × ν)) : List (κ × ν) :=
  entries.filter fun entry => entry.1 ≠ key

def use (key : κ) (value : ν) (entries : List (κ × ν)) : List (κ × ν) :=
  without key entries ++ [(key, value)]

def trim (capacity : Nat) (entries : List (κ × ν)) : List (κ × ν) :=
  entries.drop (entries.length - capacity)

def UsedBefore (uses : List κ) (former latter : κ) : Prop :=
  ∃ earlier later, uses = earlier ++ former :: later ∧ former ∉ later ∧ latter ∈ later

structure Ordered (uses : List κ) (entries : List (κ × ν)) : Prop where
  used : ∀ entry ∈ entries, entry.1 ∈ uses
  ordered : entries.Pairwise fun former latter => UsedBefore uses former.1 latter.1

variable {uses : List κ} {entries fewer : List (κ × ν)} {key former latter : κ}

omit [DecidableEq κ]

private theorem last_use (used : former ∈ uses) :
    ∃ earlier later, uses = earlier ++ former :: later ∧ former ∉ later := by
  induction uses with
  | nil => cases used
  | cons first uses ih =>
      by_cases again : former ∈ uses
      · obtain ⟨earlier, later, split, last⟩ := ih again
        exact ⟨first :: earlier, later, congrArg (List.cons first) split, last⟩
      · cases (List.mem_cons.1 used).resolve_right again
        exact ⟨[], uses, rfl, again⟩

theorem UsedBefore.then_use (before : UsedBefore uses former latter) (differs : former ≠ key) :
    UsedBefore (uses ++ [key]) former latter := by
  obtain ⟨earlier, later, rfl, last, after⟩ := before
  refine ⟨earlier, later ++ [key], by simp, ?_, List.mem_append_left _ after⟩
  intro member
  rcases List.mem_append.1 member with again | same
  · exact last again
  · exact differs (List.mem_singleton.1 same)

private theorem usedBefore_use (used : former ∈ uses) (differs : former ≠ key) :
    UsedBefore (uses ++ [key]) former key := by
  obtain ⟨earlier, later, rfl, last⟩ := last_use used
  refine ⟨earlier, later ++ [key], by simp, ?_, by simp⟩
  intro member
  rcases List.mem_append.1 member with again | same
  · exact last again
  · exact differs (List.mem_singleton.1 same)

theorem ordered_nil : Ordered uses ([] : List (κ × ν)) := by
  constructor
  · intro entry member
    cases member
  · exact List.Pairwise.nil

theorem Ordered.sublist (ordered : Ordered uses entries) (sublist : fewer.Sublist entries) :
    Ordered uses fewer := by
  constructor
  · intro entry member
    exact ordered.used entry (sublist.subset member)
  · exact ordered.ordered.sublist sublist

/-- A use of a key that has no entry does not change the order. -/
theorem Ordered.then_use (ordered : Ordered uses entries)
    (absent : ∀ entry ∈ entries, entry.1 ≠ key) : Ordered (uses ++ [key]) entries := by
  constructor
  · intro entry member
    exact List.mem_append_left _ (ordered.used entry member)
  · apply ordered.ordered.imp_of_mem
    intro former latter member _ before
    exact before.then_use (absent former member)

variable [DecidableEq κ]

private theorem without_sublist (key : κ) (entries : List (κ × ν)) :
    (without key entries).Sublist entries :=
  List.filter_sublist

theorem without_absent (absent : ∀ entry ∈ entries, entry.1 ≠ key) :
    without key entries = entries := by
  apply List.filter_eq_self.2
  intro entry member
  exact decide_eq_true (absent entry member)

private theorem ne_of_mem_without {entry : κ × ν} (member : entry ∈ without key entries) :
    entry.1 ≠ key :=
  of_decide_eq_true (List.mem_filter.1 member).2

theorem Ordered.use (ordered : Ordered uses entries) (key : κ) (value : ν) :
    Ordered (uses ++ [key]) (use key value entries) := by
  have others := (ordered.sublist (without_sublist key entries)).then_use
    fun entry member => ne_of_mem_without member
  constructor
  · intro entry member
    rcases List.mem_append.1 member with kept | same
    · exact others.used entry kept
    · rw [List.mem_singleton.1 same]
      exact List.mem_append_right _ (List.mem_singleton_self key)
  · apply List.pairwise_append.2
    refine ⟨others.ordered, List.pairwise_singleton _ _, ?_⟩
    intro former kept latter same
    rw [List.mem_singleton.1 same]
    exact usedBefore_use (ordered.used former ((without_sublist key entries).subset kept))
      (ne_of_mem_without kept)

omit [DecidableEq κ]

theorem trim_sublist (capacity : Nat) (entries : List (κ × ν)) :
    (trim capacity entries).Sublist entries :=
  List.drop_sublist _ _

theorem trim_of_le {capacity : Nat} (fits : entries.length ≤ capacity) :
    trim capacity entries = entries := by
  unfold trim
  rw [Nat.sub_eq_zero_of_le fits, List.drop_zero]

theorem trim_of_succ {capacity : Nat} {first : κ × ν} (full : entries.length = capacity) :
    trim capacity (first :: entries) = entries := by
  unfold trim
  rw [List.length_cons, full, Nat.add_sub_cancel_left, List.drop_succ_cons, List.drop_zero]

end Recency
