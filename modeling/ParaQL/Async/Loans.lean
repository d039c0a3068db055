/-
Answers that are left in memory of somebody else until they are read.

Workers serve requests in any order, each as a whole.  The answer to a request is copied
into it, or it is a pointer into memory that a lender keeps only until it works on another
request of certain kinds.  The loop reads the answer later.
-/

import Mathlib.Logic.Relation
import Mathlib.Logic.Function.Basic
import ParaQL.Async.Machine

namespace Async

open Relation

structure Lending (ρ κ : Type) where
  lends : ρ → κ → Bool
  breaks : ρ → κ → Bool

inductive LoanStage (κ β : Type) where
  | queued
  | kept (answer : β)
  | lent (lender : κ) (region : Nat) (answer : β)
  | completed (lender : Option κ) (found : Option β) (answer : β)

structure LoanJob (ρ κ β : Type) where
  request : ρ
  stage : LoanStage κ β

structure Loans (ρ κ β : Type) where
  jobs : List (LoanJob ρ κ β)
  memory : Nat → Option (κ × β)
  allocated : Nat

inductive LoanEvent (ρ κ β : Type) where
  | call (request : ρ)
  | work (index : Nat) (answer : β) (lender : Option κ)
  | complete (index : Nat)

namespace LoanJob

variable {ρ κ β : Type}

def Exposed (lending : Lending ρ κ) (lender : κ) (job : LoanJob ρ κ β) : Prop :=
  match job.stage with
  | .queued => lending.lends job.request lender = true
  | .lent other _ _ => other = lender
  | _ => False

def Threatens (lending : Lending ρ κ) (lender : κ) (job : LoanJob ρ κ β) : Prop :=
  match job.stage with
  | .queued => lending.breaks job.request lender = true
  | _ => False

def Busy (lending : Lending ρ κ) (lender : κ) (job : LoanJob ρ κ β) : Prop :=
  job.Exposed lending lender ∨ job.Threatens lending lender

end LoanJob

namespace Loans

variable {ρ κ β : Type}

def initial : Loans ρ κ β := { jobs := [], memory := fun _ => none, allocated := 0 }

def giveUp (lending : Lending ρ κ) (request : ρ) (memory : Nat → Option (κ × β)) :
    Nat → Option (κ × β) := fun region =>
  (memory region).filter fun kept => !lending.breaks request kept.1

def setJob (state : Loans ρ κ β) (index : Nat) (request : ρ) (stage : LoanStage κ β) :
    Loans ρ κ β :=
  { state with jobs := state.jobs.set index ⟨request, stage⟩ }

def work (lending : Lending ρ κ) (state : Loans ρ κ β) (index : Nat) (request : ρ) (answer : β) :
    Option κ → Option (Loans ρ κ β)
  | none =>
      some { state.setJob index request (.kept answer) with
        memory := giveUp lending request state.memory }
  | some lender =>
      if lending.lends request lender then
        some { state.setJob index request (.lent lender state.allocated answer) with
          memory := Function.update (giveUp lending request state.memory) state.allocated
            (some (lender, answer))
          allocated := state.allocated + 1 }
      else none

def step (lending : Lending ρ κ) (state : Loans ρ κ β) :
    LoanEvent ρ κ β → Option (Loans ρ κ β)
  | .call request => some { state with jobs := state.jobs ++ [⟨request, .queued⟩] }
  | .work index answer lender =>
      match state.jobs[index]? with
      | some ⟨request, .queued⟩ => state.work lending index request answer lender
      | _ => none
  | .complete index =>
      match state.jobs[index]? with
      | some ⟨request, .kept answer⟩ =>
          some (state.setJob index request (.completed none (some answer) answer))
      | some ⟨request, .lent lender region answer⟩ =>
          some (state.setJob index request
            (.completed (some lender) ((state.memory region).map Prod.snd) answer))
      | _ => none

def GoesOn (lending : Lending ρ κ) (before after : Loans ρ κ β) : Prop :=
  (∃ index answer lender, before.step lending (.work index answer lender) = some after) ∨
    ∃ index, before.step lending (.complete index) = some after

def IntactStage (memory : Nat → Option (κ × β)) (lender : κ) : LoanStage κ β → Prop
  | .lent other region answer => other = lender → memory region = some (other, answer)
  | .completed (some other) found answer => other = lender → found = some answer
  | _ => True

def Intact (lender : κ) (state : Loans ρ κ β) : Prop :=
  ∀ job ∈ state.jobs, IntactStage state.memory lender job.stage

def Apart (lending : Lending ρ κ) (lender : κ) (jobs : List (LoanJob ρ κ β)) : Prop :=
  ∀ (first second : Nat) (job other : LoanJob ρ κ β), first ≠ second →
    jobs[first]? = some job → jobs[second]? = some other → job.Exposed lending lender →
      ¬other.Threatens lending lender

variable {lending : Lending ρ κ} {lender : κ} {state next : Loans ρ κ β}

structure Sound (lending : Lending ρ κ) (state : Loans ρ κ β) : Prop where
  fresh : ∀ region, state.allocated ≤ region → state.memory region = none
  lent : ∀ job ∈ state.jobs, ∀ owner region answer, job.stage = .lent owner region answer →
    lending.lends job.request owner = true

theorem giveUp_of_kept {request : ρ} {memory : Nat → Option (κ × β)} {region : Nat} {answer : β}
    (kept : memory region = some (lender, answer))
    (spares : lending.breaks request lender = false) :
    giveUp lending request memory region = some (lender, answer) := by
  unfold giveUp
  rw [kept, Option.filter_some, spares]
  rfl

theorem giveUp_of_broken {request : ρ} {memory : Nat → Option (κ × β)} {region : Nat} {answer : β}
    (broken : lending.breaks request lender = true) :
    giveUp lending request memory region ≠ some (lender, answer) := by
  intro kept
  have spared := (Option.filter_eq_some_iff.1 kept).2
  simp only [broken] at spared
  cases spared

theorem giveUp_of_none {request : ρ} {memory : Nat → Option (κ × β)} {region : Nat}
    (free : memory region = none) : giveUp lending request memory region = none := by
  unfold giveUp
  rw [free]
  rfl

/-! ### One step -/

/-- What the work on a request does. -/
theorem work_cases {index : Nat} {answer : β} {owner : Option κ}
    (stepped : state.step lending (.work index answer owner) = some next) :
    ∃ request stage, state.jobs[index]? = some ⟨request, .queued⟩ ∧
      next.jobs = state.jobs.set index ⟨request, stage⟩ ∧
      ((owner = none ∧ stage = .kept answer ∧
          next.memory = giveUp lending request state.memory ∧
          next.allocated = state.allocated) ∨
        ∃ other, owner = some other ∧ lending.lends request other = true ∧
          stage = .lent other state.allocated answer ∧
          next.memory = Function.update (giveUp lending request state.memory) state.allocated
            (some (other, answer)) ∧
          next.allocated = state.allocated + 1) := by
  unfold step at stepped
  simp only at stepped
  split at stepped
  · rename_i request here
    cases owner with
    | none =>
        cases stepped
        exact ⟨request, _, here, rfl, .inl ⟨rfl, rfl, rfl, rfl⟩⟩
    | some other =>
        obtain ⟨lends, same⟩ := Option.ite_none_right_eq_some.1 stepped
        cases same
        exact ⟨request, _, here, rfl, .inr ⟨other, rfl, lends, rfl, rfl, rfl⟩⟩
  · cases stepped

/-- What the loop does with an answer. -/
theorem complete_cases {index : Nat}
    (stepped : state.step lending (.complete index) = some next) :
    ∃ request before owner found answer, state.jobs[index]? = some ⟨request, before⟩ ∧
      next = state.setJob index request (.completed owner found answer) ∧
      ((owner = none ∧ before = .kept answer) ∨
        ∃ other region, owner = some other ∧ before = .lent other region answer ∧
          found = (state.memory region).map Prod.snd) := by
  unfold step at stepped
  simp only at stepped
  split at stepped
  · rename_i request answer here
    cases stepped
    exact ⟨request, _, none, _, answer, here, rfl, .inl ⟨rfl, rfl⟩⟩
  · rename_i request other region answer here
    cases stepped
    exact ⟨request, _, some other, _, answer, here, rfl, .inr ⟨other, region, rfl, rfl, rfl⟩⟩
  · cases stepped

theorem Sound.goesOn (sound : state.Sound lending) (goes : state.GoesOn lending next) :
    next.Sound lending := by
  have others {index : Nat} {request : ρ} {stage : LoanStage κ β}
      (lawful : ∀ owner region answer, stage = .lent owner region answer →
        lending.lends request owner = true) :
      ∀ job ∈ state.jobs.set index ⟨request, stage⟩, ∀ owner region answer,
        job.stage = .lent owner region answer → lending.lends job.request owner = true := by
    intro job member
    rcases List.mem_or_eq_of_mem_set member with earlier | rfl
    · exact sound.lent job earlier
    · exact lawful
  rcases goes with ⟨index, answer, owner, stepped⟩ | ⟨index, stepped⟩
  · obtain ⟨request, _, _, set, ⟨_, rfl, memory, allocated⟩ |
      ⟨other, _, lends, rfl, memory, allocated⟩⟩ := work_cases stepped
    · refine ⟨fun region beyond => ?_, set ▸ others nofun⟩
      rw [memory]
      exact giveUp_of_none (sound.fresh region (allocated ▸ beyond))
    · refine ⟨fun region beyond => ?_, set ▸ others ?_⟩
      · rw [allocated] at beyond
        rw [memory, Function.update_of_ne (Nat.ne_of_gt beyond)]
        exact giveUp_of_none (sound.fresh region (Nat.le_of_succ_le beyond))
      · rintro _ _ _ ⟨⟩
        exact lends
  · obtain ⟨request, _, _, _, _, _, rfl, _⟩ := complete_cases stepped
    exact ⟨sound.fresh, others nofun⟩

theorem Sound.step {event : LoanEvent ρ κ β} (sound : state.Sound lending)
    (stepped : state.step lending event = some next) : next.Sound lending := by
  cases event with
  | call request =>
      cases stepped
      refine ⟨sound.fresh, fun job member => ?_⟩
      rcases List.mem_append.1 member with earlier | last
      · exact sound.lent job earlier
      · rw [List.mem_singleton.1 last]
        nofun
  | work index answer owner => exact sound.goesOn (.inl ⟨index, answer, owner, stepped⟩)
  | complete index => exact sound.goesOn (.inr ⟨index, stepped⟩)

theorem sound_initial : (initial : Loans ρ κ β).Sound lending :=
  ⟨fun _ _ => rfl, fun _ member => by cases member⟩

/-- A step sets one job, and no job is more exposed or threatens more after it. -/
theorem jobs_of_goesOn (goes : state.GoesOn lending next) (lender : κ) :
    ∃ index before after, state.jobs[index]? = some before ∧
      next.jobs = state.jobs.set index after ∧
      (after.Exposed lending lender → before.Exposed lending lender) ∧
      ¬after.Threatens lending lender ∧ after.request = before.request := by
  rcases goes with ⟨index, answer, owner, stepped⟩ | ⟨index, stepped⟩
  · obtain ⟨request, _, here, set, ⟨_, rfl, _⟩ | ⟨other, _, lends, rfl, _⟩⟩ := work_cases stepped
    · exact ⟨index, _, _, here, set, False.elim, id, rfl⟩
    · refine ⟨index, _, _, here, set, ?_, id, rfl⟩
      rintro rfl
      exact lends
  · obtain ⟨request, _, _, _, _, here, rfl, _⟩ := complete_cases stepped
    exact ⟨index, _, _, here, rfl, False.elim, id, rfl⟩

theorem getElem?_set_cases {α : Type} {items : List α} {index position : Nat} {value found : α}
    (there : (items.set index value)[position]? = some found) :
    (position = index ∧ found = value) ∨ (position ≠ index ∧ items[position]? = some found) := by
  by_cases here : position = index
  · subst here
    rw [List.getElem?_set_self'] at there
    obtain ⟨_, _, same⟩ := Option.map_eq_some_iff.1 there
    exact .inl ⟨rfl, same.symm⟩
  · rw [List.getElem?_set_ne fun same => here same.symm] at there
    exact .inr ⟨here, there⟩

theorem Apart.goesOn (apart : Apart lending lender state.jobs) (goes : state.GoesOn lending next) :
    Apart lending lender next.jobs := by
  obtain ⟨index, before, after, here, set, exposes, harmless, _⟩ := jobs_of_goesOn goes lender
  rw [set]
  intro first second job other different atFirst atSecond exposed threatens
  rcases getElem?_set_cases atSecond with ⟨_, rfl⟩ | ⟨_, found⟩
  · exact harmless threatens
  rcases getElem?_set_cases atFirst with ⟨rfl, rfl⟩ | ⟨_, foundFirst⟩
  · exact apart _ second before other different here found (exposes exposed) threatens
  · exact apart first second job other different foundFirst found exposed threatens

/-- The answers of a lender stay where they are while nobody who threatens them is served. -/
theorem Intact.goesOn (sound : state.Sound lending) (apart : Apart lending lender state.jobs)
    (intact : state.Intact lender) (goes : state.GoesOn lending next) : next.Intact lender := by
  intro job member
  obtain ⟨position, there⟩ := List.mem_iff_getElem?.1 member
  rcases goes with ⟨index, answer, owner, stepped⟩ | ⟨index, stepped⟩
  · obtain ⟨request, stage, here, set, cases⟩ := work_cases stepped
    rw [set] at there
    rcases getElem?_set_cases there with ⟨rfl, rfl⟩ | ⟨different, found⟩
    · rcases cases with ⟨_, rfl, _⟩ | ⟨other, _, _, rfl, memory, _⟩
      · trivial
      · intro _
        rw [memory, Function.update_self]
    · have old := intact job (List.mem_of_getElem? found)
      obtain ⟨own, jobStage⟩ := job
      cases jobStage with
      | lent other region left =>
          intro isLender
          have kept := old isLender
          have spares : lending.breaks request other = false := by
            by_contra broken
            rw [Bool.not_eq_false] at broken
            exact apart position index _ _ different found here isLender (isLender ▸ broken)
          rcases cases with ⟨_, _, memory, _⟩ | ⟨newer, _, _, _, memory, _⟩
          · rw [memory]
            exact giveUp_of_kept kept spares
          · have apart : region ≠ state.allocated := by
              rintro rfl
              rw [sound.fresh _ (Nat.le_refl _)] at kept
              cases kept
            rw [memory, Function.update_of_ne apart]
            exact giveUp_of_kept kept spares
      | queued => trivial
      | kept _ => trivial
      | completed owner _ _ =>
          cases owner with
          | none => trivial
          | some other => exact old
  · obtain ⟨request, before, owner, found, answer, here, rfl, cases⟩ := complete_cases stepped
    rcases getElem?_set_cases there with ⟨rfl, rfl⟩ | ⟨different, same⟩
    · rcases cases with ⟨rfl, _⟩ | ⟨other, region, rfl, rfl, rfl⟩
      · trivial
      · intro isLender
        have kept : state.memory region = some (other, answer) :=
          intact _ (List.mem_of_getElem? here) isLender
        rw [kept]
        rfl
    · exact intact job (List.mem_of_getElem? same)

/-- A request that threatens an answer is served before that is read. -/
theorem exists_broken {first second : Nat} {request other : ρ} {region : Nat} {answer : β}
    (different : first ≠ second)
    (lent : state.jobs[first]? = some ⟨request, .lent lender region answer⟩)
    (queued : state.jobs[second]? = some ⟨other, .queued⟩)
    (breaks : lending.breaks other lender = true) :
    ∃ next, state.GoesOn lending next ∧ ¬next.Intact lender := by
  refine ⟨{ state.setJob second other (.kept answer) with
    memory := giveUp lending other state.memory }, .inl ⟨second, answer, none, ?_⟩, ?_⟩
  · unfold step
    simp only [queued]
    rfl
  · intro intact
    have still : (state.jobs.set second ⟨other, .kept answer⟩)[first]? =
        some ⟨request, .lent lender region answer⟩ := by
      rw [List.getElem?_set_ne different.symm]
      exact lent
    exact giveUp_of_broken breaks (intact _ (List.mem_of_getElem? still) rfl)

/-- As long as the answers of a lender are intact, they are sure to stay so exactly when no
request threatens the answer to another one. -/
theorem intact_iff_apart [Nonempty β] (sound : state.Sound lending) (intact : state.Intact lender) :
    (∀ final, ReflTransGen (GoesOn lending) state final → final.Intact lender) ↔
      Apart lending lender state.jobs := by
  constructor
  · intro always first second job other different atFirst atSecond exposed threatens
    obtain ⟨own, stage⟩ := job
    obtain ⟨request, otherStage⟩ := other
    cases otherStage with
    | queued =>
        cases stage with
        | queued =>
            -- The answer is left with the lender first.
            let answer := Classical.arbitrary β
            let left : Loans ρ κ β :=
              { state.setJob first own (.lent lender state.allocated answer) with
                memory := Function.update (giveUp lending own state.memory) state.allocated
                  (some (lender, answer))
                allocated := state.allocated + 1 }
            have lends : lending.lends own lender = true := exposed
            have works : state.GoesOn lending left := by
              refine .inl ⟨first, answer, some lender, ?_⟩
              unfold step work
              simp only [atFirst, lends, if_true]
              rfl
            have within := (List.getElem?_eq_some_iff.1 atFirst).1
            have lent : left.jobs[first]? =
                some ⟨own, .lent lender state.allocated answer⟩ := List.getElem?_set_self within
            have queued : left.jobs[second]? = some ⟨request, .queued⟩ :=
              (List.getElem?_set_ne different).trans atSecond
            obtain ⟨broken, goes, fails⟩ := exists_broken different lent queued threatens
            exact fails (always broken (.tail (.single works) goes))
        | lent owner region answer =>
            obtain rfl : owner = lender := exposed
            obtain ⟨broken, goes, fails⟩ := exists_broken different atFirst atSecond threatens
            exact fails (always broken (.single goes))
        | kept _ => exact exposed
        | completed _ _ _ => exact exposed
    | lent _ _ _ => exact threatens
    | kept _ => exact threatens
    | completed _ _ _ => exact threatens
  · intro apart final moves
    have kept : final.Sound lending ∧ Apart lending lender final.jobs ∧ final.Intact lender := by
      induction moves with
      | refl => exact ⟨sound, apart, intact⟩
      | tail _ goes ih =>
          exact ⟨ih.1.goesOn goes, ih.2.1.goesOn goes, ih.2.2.goesOn ih.1 ih.2.1 goes⟩
    exact kept.2.2

def Lone (lending : Lending ρ κ) (lender : κ) (jobs : List (LoanJob ρ κ β)) : Prop :=
  ∀ (first second : Nat) (job other : LoanJob ρ κ β), first ≠ second →
    jobs[first]? = some job → jobs[second]? = some other → job.Busy lending lender →
      ¬other.Busy lending lender

/-- A request that has to do with what the lender keeps is made when no other one has. -/
def Waits (lending : Lending ρ κ) (lender : κ) (state : Loans ρ κ β) :
    LoanEvent ρ κ β → Prop
  | .call request => lending.lends request lender = true ∨ lending.breaks request lender = true →
      ∀ job ∈ state.jobs, ¬job.Busy lending lender
  | _ => True

theorem Lone.apart {jobs : List (LoanJob ρ κ β)} (lone : Lone lending lender jobs) :
    Apart lending lender jobs :=
  fun first second job other different atFirst atSecond exposed threatens =>
    lone first second job other different atFirst atSecond (.inl exposed) (.inr threatens)

theorem Lone.goesOn (lone : Lone lending lender state.jobs) (goes : state.GoesOn lending next) :
    Lone lending lender next.jobs := by
  obtain ⟨index, before, after, here, set, exposes, harmless, _⟩ := jobs_of_goesOn goes lender
  have busier (busy : after.Busy lending lender) : before.Busy lending lender :=
    .inl (exposes (busy.resolve_right harmless))
  rw [set]
  intro first second job other different atFirst atSecond busy alsoBusy
  rcases getElem?_set_cases atFirst with ⟨rfl, rfl⟩ | ⟨_, found⟩
  · rcases getElem?_set_cases atSecond with ⟨rfl, _⟩ | ⟨_, foundSecond⟩
    · exact different rfl
    · exact lone _ second before other different here foundSecond (busier busy) alsoBusy
  · rcases getElem?_set_cases atSecond with ⟨rfl, rfl⟩ | ⟨_, foundSecond⟩
    · exact lone first _ job before different found here busy (busier alsoBusy)
    · exact lone first second job other different found foundSecond busy alsoBusy

theorem Lone.call {jobs : List (LoanJob ρ κ β)} {request : ρ} (lone : Lone lending lender jobs)
    (waits : lending.lends request lender = true ∨ lending.breaks request lender = true →
      ∀ job ∈ jobs, ¬job.Busy lending lender) :
    Lone lending lender (jobs ++ [⟨request, .queued⟩]) := by
  have cases {position : Nat} {job : LoanJob ρ κ β}
      (found : (jobs ++ [⟨request, .queued⟩])[position]? = some job) :
      jobs[position]? = some job ∨ (position = jobs.length ∧ job = ⟨request, .queued⟩) := by
    rcases Nat.lt_or_ge position jobs.length with within | beyond
    · exact .inl ((List.getElem?_append_left within).symm.trans found)
    · rw [List.getElem?_append_right beyond, List.getElem?_singleton] at found
      obtain ⟨last, same⟩ := Option.ite_none_right_eq_some.1 found
      exact .inr ⟨by omega, (Option.some.inj same).symm⟩
  intro first second job other different atFirst atSecond busy alsoBusy
  rcases cases atFirst with found | ⟨rfl, rfl⟩
  · rcases cases atSecond with foundSecond | ⟨_, rfl⟩
    · exact lone first second job other different found foundSecond busy alsoBusy
    · exact waits alsoBusy job (List.mem_of_getElem? found) busy
  · rcases cases atSecond with foundSecond | ⟨rfl, _⟩
    · exact waits busy other (List.mem_of_getElem? foundSecond) alsoBusy
    · exact different rfl

/-- While requests that have to do with what a lender keeps wait for one another, its answers
are intact, whatever the others do. -/
theorem intact_of_waits {events : List (LoanEvent ρ κ β)}
    (waits : Machine.Heeds (step lending) (Waits lending lender) initial events)
    (ran : Machine.run (step lending) initial events = some state) :
    state.Sound lending ∧ Lone lending lender state.jobs ∧ state.Intact lender := by
  refine @Machine.run_invariant _ _ (step lending) _
    (fun state => state.Sound lending ∧ Lone lending lender state.jobs ∧ state.Intact lender)
    (fun state event next holds waits stepped => ?_) _ _ _ ⟨sound_initial, ?_, ?_⟩ waits ran
  · obtain ⟨sound, lone, intact⟩ := holds
    refine ⟨sound.step stepped, ?_⟩
    have goesOn (goes : state.GoesOn lending next) :
        Lone lending lender next.jobs ∧ next.Intact lender :=
      ⟨lone.goesOn goes, intact.goesOn sound lone.apart goes⟩
    cases event with
    | call request =>
        cases stepped
        refine ⟨lone.call waits, fun job member => ?_⟩
        rcases List.mem_append.1 member with earlier | last
        · exact intact job earlier
        · rw [List.mem_singleton.1 last]
          trivial
    | work index answer owner => exact goesOn (.inl ⟨index, answer, owner, stepped⟩)
    | complete index => exact goesOn (.inr ⟨index, stepped⟩)
  · intro first second job other _ atFirst
    cases atFirst
  · intro job member
    cases member

end Loans
end Async
