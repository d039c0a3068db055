/-
The `Map` of JavaScript.

Entries stay in the order in which their keys were inserted.  A deleted entry leaves a
hole, so an iterator is a position: it meets the entries that are added behind it, and
not those that are deleted before it gets there.
-/

import Mathlib.Data.List.Nodup
import Mathlib.Tactic.Common

structure JsMap (κ ν : Type) where
  slots : List (Option (κ × ν))
  distinct : ((slots.filterMap id).map Prod.fst).Nodup

namespace JsMap

variable {κ ν : Type}

def empty : JsMap κ ν := { slots := [], distinct := List.nodup_nil }

def entries (map : JsMap κ ν) : List (κ × ν) := map.slots.filterMap id

def size (map : JsMap κ ν) : Nat := map.entries.length

/-- `map.values().next().value`. -/
def oldest? (map : JsMap κ ν) : Option ν := map.entries.head?.map Prod.snd

def clear (map : JsMap κ ν) : JsMap κ ν :=
  { slots := map.slots.map fun _ => none
    distinct := by simp [List.filterMap_map] }

def scan : List (Option (κ × ν)) → Nat → Option (Nat × (κ × ν))
  | [], _ => none
  | none :: slots, index => scan slots (index + 1)
  | some entry :: _, index => some (index + 1, entry)

/-- `next` of an iterator at a position. -/
def next? (map : JsMap κ ν) (index : Nat) : Option (Nat × (κ × ν)) :=
  scan (map.slots.drop index) index

private theorem filterMap_filter (slots : List (Option (κ × ν))) (keeps : κ × ν → Bool) :
    (slots.map (Option.filter keeps)).filterMap id = (slots.filterMap id).filter keeps := by
  rw [List.filterMap_map, List.filter_filterMap]
  rfl

private theorem filterMap_replace (slots : List (Option (κ × ν))) (replace : κ × ν → κ × ν) :
    (slots.map (Option.map replace)).filterMap id = (slots.filterMap id).map replace := by
  rw [List.filterMap_map, List.map_filterMap]
  rfl

section Keys

variable [DecidableEq κ]

def get? (map : JsMap κ ν) (key : κ) : Option ν :=
  (map.entries.find? fun entry => entry.1 = key).map Prod.snd

def delete (map : JsMap κ ν) (key : κ) : JsMap κ ν :=
  { slots := map.slots.map (Option.filter fun entry => decide (entry.1 ≠ key))
    distinct := by
      rw [filterMap_filter]
      exact map.distinct.sublist ((List.filter_sublist).map Prod.fst) }

def set (map : JsMap κ ν) (key : κ) (value : ν) : JsMap κ ν :=
  if present : key ∈ map.entries.map Prod.fst then
    { slots := map.slots.map (Option.map fun entry =>
        (entry.1, if entry.1 = key then value else entry.2))
      distinct := by
        rw [filterMap_replace, List.map_map]
        exact map.distinct }
  else
    { slots := map.slots ++ [some (key, value)]
      distinct := by
        rw [List.filterMap_append, List.map_append, List.nodup_append]
        refine ⟨map.distinct, List.nodup_singleton _, fun first member last single same => ?_⟩
        rw [same, List.mem_singleton.1 single] at member
        exact present member }

variable {map : JsMap κ ν} {key other : κ} {value : ν}

theorem get?_eq_some_iff : map.get? key = some value ↔ (key, value) ∈ map.entries := by
  unfold get?
  constructor
  · intro found
    obtain ⟨entry, first, rfl⟩ := Option.map_eq_some_iff.1 found
    have same := List.find?_some first
    rw [decide_eq_true_eq] at same
    exact same ▸ List.mem_of_find?_eq_some first
  · intro member
    cases first : map.entries.find? fun entry => entry.1 = key with
    | none =>
        have differs := List.find?_eq_none.1 first _ member
        simp at differs
    | some entry =>
        have same := List.find?_some first
        rw [decide_eq_true_eq] at same
        have equal := List.inj_on_of_nodup_map map.distinct (List.mem_of_find?_eq_some first) member
          same
        rw [equal]
        rfl

theorem get?_eq_none_iff : map.get? key = none ↔ key ∉ map.entries.map Prod.fst := by
  rw [Option.eq_none_iff_forall_ne_some]
  constructor
  · intro absent member
    obtain ⟨entry, present, rfl⟩ := List.mem_map.1 member
    exact absent entry.2 (get?_eq_some_iff.2 present)
  · intro absent value found
    exact absent (List.mem_map.2 ⟨_, get?_eq_some_iff.1 found, rfl⟩)

theorem entries_delete (map : JsMap κ ν) (key : κ) :
    (map.delete key).entries = map.entries.filter fun entry => entry.1 ≠ key :=
  filterMap_filter _ _

theorem entries_set_absent (absent : map.get? key = none) (value : ν) :
    (map.set key value).entries = map.entries ++ [(key, value)] := by
  unfold set
  rw [dif_neg (get?_eq_none_iff.1 absent)]
  exact List.filterMap_append

theorem entries_delete_sublist (map : JsMap κ ν) (key : κ) :
    (map.delete key).entries.Sublist map.entries := by
  rw [entries_delete]
  exact List.filter_sublist

theorem countP_touch_le (found : map.get? key = some value) (counts : κ × ν → Bool)
    (absent : (map.delete key).get? key = none) :
    ((map.delete key).set key value).entries.countP counts ≤ map.entries.countP counts := by
  rw [entries_set_absent absent, entries_delete, List.countP_append,
    List.countP_eq_countP_filter_add map.entries counts fun entry => decide (entry.1 ≠ key)]
  refine Nat.add_le_add_left (List.Sublist.countP_le ?_) _
  rw [List.singleton_sublist, List.mem_filter]
  exact ⟨get?_eq_some_iff.1 found, by simp⟩

theorem slot_of_delete {index : Nat} {entry : κ × ν}
    (found : (map.delete key).slots[index]? = some (some entry)) :
    map.slots[index]? = some (some entry) := by
  unfold delete at found
  rw [List.getElem?_map, Option.map_eq_some_iff] at found
  obtain ⟨slot, same, kept⟩ := found
  rw [same, (Option.filter_eq_some_iff.1 kept).1]

theorem get?_delete_eq_some_iff :
    (map.delete key).get? other = some value ↔ other ≠ key ∧ map.get? other = some value := by
  rw [get?_eq_some_iff, get?_eq_some_iff, entries_delete, List.mem_filter, decide_eq_true_eq,
    and_comm]

theorem get?_delete_self (map : JsMap κ ν) (key : κ) : (map.delete key).get? key = none := by
  rw [Option.eq_none_iff_forall_ne_some]
  exact fun value found => (get?_delete_eq_some_iff.1 found).1 rfl

theorem get?_set_absent_eq_some_iff (absent : map.get? key = none) {added : ν} :
    (map.set key added).get? other = some value ↔
      other = key ∧ value = added ∨ map.get? other = some value := by
  rw [get?_eq_some_iff, get?_eq_some_iff, entries_set_absent absent, List.mem_append,
    List.mem_singleton, Prod.mk.injEq, or_comm]

end Keys

/-! ### Iterators -/

variable {map : JsMap κ ν}

theorem entries_clear (map : JsMap κ ν) : map.clear.entries = [] := by
  simp [entries, clear]

theorem mem_entries_of_slot {index : Nat} {entry : κ × ν}
    (found : map.slots[index]? = some (some entry)) : entry ∈ map.entries :=
  List.mem_filterMap.2 ⟨some entry, List.mem_of_getElem? found, rfl⟩

theorem slot_of_mem_entries {entry : κ × ν} (member : entry ∈ map.entries) :
    ∃ index : Nat, map.slots[index]? = some (some entry) := by
  obtain ⟨slot, present, rfl⟩ := List.mem_filterMap.1 member
  exact List.mem_iff_getElem?.1 present

private theorem scan_none {slots : List (Option (κ × ν))} {index : Nat}
    (ends : scan slots index = none)
    (entry : κ × ν) : some entry ∉ slots := by
  induction slots generalizing index with
  | nil => exact List.not_mem_nil
  | cons slot slots ih =>
      cases slot with
      | none =>
          intro member
          rcases List.mem_cons.1 member with same | later
          · cases same
          · exact ih ends later
      | some first => cases ends

private theorem scan_some {slots : List (Option (κ × ν))} {index later : Nat} {entry : κ × ν}
    (found : scan slots index = some (later, entry)) :
    some entry ∈ slots ∧ ∀ (position : Nat) other, index + position < later →
      slots[position]? = some (some other) → other = entry := by
  induction slots generalizing index with
  | nil => cases found
  | cons slot slots ih =>
      cases slot with
      | none =>
          obtain ⟨member, only⟩ := ih found
          refine ⟨List.mem_cons_of_mem _ member, fun position other behind same => ?_⟩
          cases position with
          | zero => cases same
          | succ position => exact only position other (by omega) same
      | some first =>
          cases found
          refine ⟨List.mem_cons_self, fun position other behind same => ?_⟩
          cases position with
          | zero =>
              cases same
              rfl
          | succ position => omega

theorem next?_none {index : Nat} (ends : map.next? index = none) {position : Nat}
    {entry : κ × ν} (found : map.slots[position]? = some (some entry)) : position < index := by
  by_contra ahead
  refine scan_none ends entry (List.mem_iff_getElem?.2 ⟨position - index, ?_⟩)
  rw [List.getElem?_drop, Nat.add_sub_cancel' (Nat.le_of_not_lt ahead)]
  exact found

/-- An iterator that goes on meets an entry, and passes no other. -/
theorem next?_some {index later : Nat} {entry : κ × ν}
    (found : map.next? index = some (later, entry)) :
    entry ∈ map.entries ∧ ∀ (position : Nat) other, position < later →
      map.slots[position]? = some (some other) → position < index ∨ other = entry := by
  obtain ⟨member, only⟩ := scan_some found
  refine ⟨List.mem_filterMap.2 ⟨some entry, List.mem_of_mem_drop member, rfl⟩, ?_⟩
  intro position other behind same
  by_cases ahead : position < index
  · exact Or.inl ahead
  · refine Or.inr (only (position - index) other (by omega) ?_)
    rw [List.getElem?_drop, Nat.add_sub_cancel' (Nat.le_of_not_lt ahead)]
    exact same

end JsMap
