/-
Doubly linked lists, given by the two links of each node.

A segment says which node comes before it, where it is entered, which node is its last
and where it leaves to.  Segments are put together and cut, and a list is a segment with
nothing before and nothing after it.  A segment depends on the links of its own nodes only.
-/

import Mathlib.Data.List.Nodup
import Mathlib.Logic.Function.Basic

namespace Pointers

variable {ι : Type} {next prev : ι → Option ι}

def Segment (next prev : ι → Option ι) (before entry : Option ι) :
    List ι → Option ι → Option ι → Prop
  | [], last, exit => entry = exit ∧ before = last
  | node :: nodes, last, exit =>
      entry = some node ∧ prev node = before ∧
        Segment next prev (some node) (next node) nodes last exit

theorem segment_append {before entry last exit : Option ι} {front back : List ι} :
    Segment next prev before entry (front ++ back) last exit ↔
      ∃ middle cut, Segment next prev before entry front middle cut ∧
        Segment next prev middle cut back last exit := by
  induction front generalizing before entry with
  | nil =>
      constructor
      · intro whole
        exact ⟨before, entry, ⟨rfl, rfl⟩, whole⟩
      · rintro ⟨_, _, ⟨rfl, rfl⟩, whole⟩
        exact whole
  | cons node nodes ih =>
      constructor
      · rintro ⟨entered, behind, rest⟩
        obtain ⟨middle, cut, first, second⟩ := ih.1 rest
        exact ⟨middle, cut, ⟨entered, behind, first⟩, second⟩
      · rintro ⟨middle, cut, ⟨entered, behind, first⟩, second⟩
        exact ⟨entered, behind, ih.2 ⟨middle, cut, first, second⟩⟩

theorem Segment.congr {next' prev' : ι → Option ι} {before entry last exit : Option ι}
    {nodes : List ι} (segment : Segment next prev before entry nodes last exit)
    (sameNext : ∀ node ∈ nodes, next' node = next node)
    (samePrev : ∀ node ∈ nodes, prev' node = prev node) :
    Segment next' prev' before entry nodes last exit := by
  induction nodes generalizing before entry with
  | nil => exact segment
  | cons node nodes ih =>
      obtain ⟨entered, behind, rest⟩ := segment
      refine ⟨entered, (samePrev node List.mem_cons_self).trans behind, ?_⟩
      rw [sameNext node List.mem_cons_self]
      apply ih rest
      · exact fun other member => sameNext other (List.mem_cons_of_mem _ member)
      · exact fun other member => samePrev other (List.mem_cons_of_mem _ member)

/-- The nodes are determined by the forward links. -/
theorem Segment.unique {before before' entry last last' : Option ι} {nodes others : List ι}
    (segment : Segment next prev before entry nodes last none)
    (other : Segment next prev before' entry others last' none) : nodes = others := by
  induction nodes generalizing before before' entry others with
  | nil =>
      obtain ⟨rfl, _⟩ := segment
      cases others with
      | nil => rfl
      | cons node rest => cases other.1
  | cons node nodes ih =>
      obtain ⟨rfl, _, rest⟩ := segment
      cases others with
      | nil => cases other.1
      | cons node' others =>
          obtain ⟨same, _, rest'⟩ := other
          cases same
          rw [ih rest rest']

/-- From a node that came twice the links would go round for ever. -/
theorem Segment.nodup {before entry last : Option ι} {nodes : List ι}
    (segment : Segment next prev before entry nodes last none) : nodes.Nodup := by
  induction nodes generalizing before entry with
  | nil => exact List.nodup_nil
  | cons node nodes ih =>
      obtain ⟨_, _, rest⟩ := segment
      refine List.nodup_cons.2 ⟨?_, ih rest⟩
      intro again
      obtain ⟨front, back, rfl⟩ := List.append_of_mem again
      obtain ⟨_, _, _, _, _, second⟩ := segment_append.1 rest
      have lengths := congrArg List.length (rest.unique second)
      simp only [List.length_append, List.length_cons] at lengths
      omega

theorem Segment.last_eq {before entry last exit : Option ι} {nodes : List ι}
    (segment : Segment next prev before entry nodes last exit) :
    last = nodes.getLast?.or before := by
  induction nodes generalizing before entry with
  | nil => exact segment.2.symm
  | cons node nodes ih =>
      rw [ih segment.2.2, List.getLast?_cons]
      cases nodes.getLast? <;> rfl

theorem Segment.entry_eq {before entry last exit : Option ι} {nodes : List ι}
    (segment : Segment next prev before entry nodes last exit) :
    entry = nodes.head?.or exit := by
  cases nodes with
  | nil => exact segment.1
  | cons node nodes => exact segment.1

/-- The link out of a segment is the one of its last node. -/
theorem Segment.redirect [DecidableEq ι] {next' prev' : ι → Option ι}
    {before entry last exit exit' : Option ι} {nodes : List ι}
    (segment : Segment next prev before entry nodes last exit) (nonempty : nodes ≠ [])
    (distinct : nodes.Nodup)
    (nextOf : ∀ node ∈ nodes, next' node = if some node = last then exit' else next node)
    (samePrev : ∀ node ∈ nodes, prev' node = prev node) :
    Segment next' prev' before entry nodes last exit' := by
  induction nodes generalizing before entry with
  | nil => exact absurd rfl nonempty
  | cons node nodes ih =>
      obtain ⟨entered, behind, rest⟩ := segment
      refine ⟨entered, (samePrev node List.mem_cons_self).trans behind, ?_⟩
      obtain ⟨fresh, distinct⟩ := List.nodup_cons.1 distinct
      have moved := nextOf node List.mem_cons_self
      cases nodes with
      | nil =>
          obtain ⟨_, ends⟩ := rest
          rw [if_pos ends] at moved
          exact ⟨moved, ends⟩
      | cons second others =>
          have inner : some node ≠ last := by
            rw [rest.last_eq, List.getLast?_eq_some_getLast (List.cons_ne_nil second others)]
            intro same
            exact fresh (Option.some.inj same ▸ List.getLast_mem _)
          rw [if_neg inner] at moved
          rw [moved]
          apply ih rest (List.cons_ne_nil _ _) distinct
          · exact fun other member => nextOf other (List.mem_cons_of_mem _ member)
          · exact fun other member => samePrev other (List.mem_cons_of_mem _ member)

/-- The link into a segment from behind is the one of its first node. -/
theorem Segment.rebase [DecidableEq ι] {next' prev' : ι → Option ι}
    {before before' entry last : Option ι} {nodes : List ι}
    (segment : Segment next prev before entry nodes last none)
    (sameNext : ∀ node ∈ nodes, next' node = next node)
    (prevOf : ∀ node ∈ nodes, prev' node = if some node = entry then before' else prev node) :
    ∃ last', Segment next' prev' before' entry nodes last' none := by
  have distinct := segment.nodup
  cases nodes with
  | nil => exact ⟨before', segment.1, rfl⟩
  | cons node nodes =>
      obtain ⟨entered, _, rest⟩ := segment
      refine ⟨last, entered, ?_, ?_⟩
      · rw [prevOf node List.mem_cons_self, if_pos entered.symm]
      · rw [sameNext node List.mem_cons_self]
        apply rest.congr
        · exact fun other member => sameNext other (List.mem_cons_of_mem _ member)
        · intro other member
          rw [prevOf other (List.mem_cons_of_mem _ member), if_neg]
          rw [entered]
          intro same
          exact (List.nodup_cons.1 distinct).1 (Option.some.inj same ▸ member)

def DoublyLinked (next prev : ι → Option ι) (head : Option ι) (nodes : List ι) : Prop :=
  ∃ last, Segment next prev none head nodes last none

variable {head : Option ι} {nodes : List ι}

theorem doublyLinked_nil : DoublyLinked next prev none [] := ⟨none, rfl, rfl⟩

theorem DoublyLinked.congr {next' prev' : ι → Option ι}
    (linked : DoublyLinked next prev head nodes)
    (sameNext : ∀ node ∈ nodes, next' node = next node)
    (samePrev : ∀ node ∈ nodes, prev' node = prev node) :
    DoublyLinked next' prev' head nodes :=
  linked.imp fun _ segment => segment.congr sameNext samePrev

theorem DoublyLinked.nodup (linked : DoublyLinked next prev head nodes) : nodes.Nodup :=
  linked.elim fun _ segment => segment.nodup

theorem DoublyLinked.head_eq (linked : DoublyLinked next prev head nodes) :
    head = nodes.head? := by
  obtain ⟨last, segment⟩ := linked
  cases nodes with
  | nil => exact segment.1
  | cons node nodes => exact segment.1

/-- A list cut at one of its nodes. -/
theorem DoublyLinked.cut {front back : List ι} {node : ι}
    (linked : DoublyLinked next prev head (front ++ node :: back)) :
    Segment next prev none head front (prev node) (some node) ∧
      ∃ last, Segment next prev (some node) (next node) back last none := by
  obtain ⟨last, segment⟩ := linked
  obtain ⟨middle, cut, first, entered, behind, rest⟩ := segment_append.1 segment
  subst entered behind
  exact ⟨first, last, rest⟩

/-- Both neighbours of a node, as its links have them. -/
theorem DoublyLinked.neighbours {front back : List ι} {node : ι}
    (linked : DoublyLinked next prev head (front ++ node :: back)) :
    prev node = front.getLast? ∧ next node = back.head? := by
  obtain ⟨first, last, rest⟩ := linked.cut
  constructor
  · rw [first.last_eq, Option.or_none]
  · rw [rest.entry_eq, Option.or_none]

section Surgery

variable [DecidableEq ι] {next' prev' : ι → Option ι} {node : ι}

/-- A node put in front of the list. -/
theorem DoublyLinked.insert (linked : DoublyLinked next prev head nodes)
    (entered : next' node = head) (behind : prev' node = none)
    (nextOf : ∀ other ∈ nodes, next' other = next other)
    (prevOf : ∀ other ∈ nodes,
      prev' other = if some other = head then some node else prev other) :
    DoublyLinked next' prev' (some node) (node :: nodes) := by
  obtain ⟨last, segment⟩ := linked
  obtain ⟨last', moved⟩ := segment.rebase nextOf prevOf
  exact ⟨last', rfl, behind, entered ▸ moved⟩

/-- A node cut out of the list: its neighbours are linked to each other. -/
theorem DoublyLinked.remove {front back : List ι}
    (linked : DoublyLinked next prev head (front ++ node :: back))
    (nextOf : ∀ other ∈ front ++ back,
      next' other = if some other = prev node then next node else next other)
    (prevOf : ∀ other ∈ front ++ back,
      prev' other = if some other = next node then prev node else prev other) :
    DoublyLinked next' prev' (if prev node = none then next node else head) (front ++ back) := by
  have distinct := linked.nodup
  obtain ⟨behind, ahead⟩ := linked.neighbours
  obtain ⟨first, last, rest⟩ := linked.cut
  obtain ⟨frontDistinct, _, apart⟩ := List.nodup_append.1 distinct
  have rear : ∃ last', Segment next' prev' (prev node) (next node) back last' none := by
    apply rest.rebase
    · intro other member
      rw [nextOf other (List.mem_append_right _ member), if_neg]
      rw [behind]
      intro same
      exact apart other (List.mem_of_getLast? same.symm) other (List.mem_cons_of_mem _ member) rfl
    · exact fun other member => prevOf other (List.mem_append_right _ member)
  obtain ⟨last', moved⟩ := rear
  refine ⟨last', segment_append.2 ?_⟩
  cases front with
  | nil =>
      rw [behind, if_pos List.getLast?_nil]
      rw [behind, List.getLast?_nil] at moved
      exact ⟨none, next node, ⟨rfl, rfl⟩, moved⟩
  | cons first' others =>
      have occupied : prev node ≠ none := by
        rw [behind, List.getLast?_eq_some_getLast (List.cons_ne_nil _ _)]
        exact Option.some_ne_none _
      rw [if_neg occupied]
      refine ⟨prev node, next node, ?_, moved⟩
      apply first.redirect (List.cons_ne_nil _ _) frontDistinct
      · exact fun other member => nextOf other (List.mem_append_left _ member)
      · intro other member
        rw [prevOf other (List.mem_append_left _ member), if_neg]
        rw [ahead]
        intro same
        exact apart other member other
          (List.mem_cons_of_mem _ (List.mem_of_head? same.symm)) rfl

end Surgery
end Pointers
