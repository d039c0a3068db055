/-
Resources in a trace: what is acquired by one event and released by another.

A trace is a list of events, and a resource is accounted for when its releases are as
many as its acquisitions and none comes before the first of these.
-/

import Mathlib.Data.List.Count
import Mathlib.Data.List.Flatten
import Mathlib.Tactic.Common

namespace Traces

variable {ε ι : Type}

/-- No `second` without a `first` somewhere before it. -/
def Precedes (first second : ε) (trace : List ε) : Prop :=
  ∀ before after, trace = before ++ second :: after → first ∈ before

/-- A trace in two halves, with `second` in the latter one only. -/
theorem precedes_append {first second : ε} {front back : List ε} (clean : second ∉ front)
    (acquired : second ∈ back → first ∈ front) : Precedes first second (front ++ back) := by
  intro before after split
  rcases List.append_eq_append_iff.1 split with ⟨middle, rfl, rest⟩ | ⟨middle, rfl, rest⟩
  · apply List.mem_append_left
    apply acquired
    rw [rest]
    exact List.mem_append_right _ List.mem_cons_self
  · cases middle with
    | nil =>
        rw [List.append_nil] at acquired
        apply acquired
        rw [← List.nil_append back, ← rest]
        exact List.mem_cons_self
    | cons event middle =>
        obtain ⟨rfl, _⟩ := List.cons.inj rest
        exact absurd (List.mem_append_right _ List.mem_cons_self) clean

section Counts

variable [DecidableEq ε]

structure Released (acquire release : ε) (trace : List ε) : Prop where
  count : trace.count release = trace.count acquire
  order : Precedes acquire release trace

/-- A trace that acquires in its former half and releases in the latter one. -/
theorem released_append {acquire release : ε} {front back : List ε} (early : release ∉ front)
    (late : acquire ∉ back) (same : back.count release = front.count acquire) :
    Released acquire release (front ++ back) := by
  constructor
  · rw [List.count_append, List.count_append, List.count_eq_zero.2 early,
      List.count_eq_zero.2 late, same, Nat.zero_add, Nat.add_zero]
  · apply precedes_append early
    intro member
    have positive := List.count_pos_iff.2 member
    rw [same] at positive
    exact List.count_pos_iff.1 positive

theorem count_flatMap_congr {items : List ι} {body other : ι → List ε} {event counterpart : ε}
    (same : ∀ item ∈ items, (body item).count event = (other item).count counterpart) :
    (items.flatMap body).count event = (items.flatMap other).count counterpart := by
  induction items with
  | nil => rfl
  | cons item items ih =>
      rw [List.flatMap_cons, List.flatMap_cons, List.count_append, List.count_append,
        same item List.mem_cons_self,
        ih fun later member => same later (List.mem_cons_of_mem _ member)]

end Counts
end Traces
