/-
Two tasks in tandem, where each may make steps of its own.

The tasks work on states of their own, which stay related whatever others do to them, and
on private parts that nobody else changes.  A step that only one of them makes keeps the
states related as they are.  In every interleaving one task can follow the other.
-/

import ParaQL.Async.Matching
import ParaQL.Async.Pool
import ParaQL.Async.Related

namespace Async
namespace Task

open Relation

variable {σ τ υ ω κ μ ε α β γ δ : Type}

/-- `mine` and `own` are the private parts, here `part` and `counterpart`. -/
inductive Tandem (related : σ → τ → Prop) (mine : σ → κ) (own : τ → μ)
    (rejected : κ → μ → Prop) (after : α → β → κ → μ → Prop) :
    κ → μ → Task σ ε α → Task τ ε β → Prop where
  | done {part : κ} {counterpart : μ} {result : Except ε α} {other : Except ε β}
      (ends : Agree rejected after (result, part) (other, counterpart)) :
      Tandem related mine own rejected after part counterpart (.done result) (.done other)
  | both {part : κ} {counterpart : μ} {update : σ → σ} {next : σ → Task σ ε α} {change : τ → τ}
      {follow : τ → Task τ ε β}
      (changes : ∀ state other, related state other → mine state = part →
        own other = counterpart → related (update state) (change other))
      (rest : ∀ state other, related state other → mine state = part → own other = counterpart →
        Tandem related mine own rejected after (mine (update state)) (own (change other))
          (next state) (follow other)) :
      Tandem related mine own rejected after part counterpart (.step update next)
        (.step change follow)
  | left {part : κ} {counterpart : μ} {update : σ → σ} {next : σ → Task σ ε α} {task : Task τ ε β}
      (changes : ∀ state other, related state other → mine state = part →
        own other = counterpart → related (update state) other)
      (rest : ∀ state other, related state other → mine state = part → own other = counterpart →
        Tandem related mine own rejected after (mine (update state)) counterpart (next state)
          task) :
      Tandem related mine own rejected after part counterpart (.step update next) task
  | right {part : κ} {counterpart : μ} {task : Task σ ε α} {change : τ → τ}
      {follow : τ → Task τ ε β}
      (changes : ∀ state other, related state other → mine state = part →
        own other = counterpart → related state (change other))
      (rest : ∀ state other, related state other → mine state = part → own other = counterpart →
        Tandem related mine own rejected after part (own (change other)) task (follow other)) :
      Tandem related mine own rejected after part counterpart task (.step change follow)

abbrev InTandem (related : σ → τ → Prop) (alike : α → β → Prop) (task : Task σ ε α)
    (other : Task τ ε β) : Prop :=
  Tandem related (fun _ => ()) (fun _ => ()) (fun _ _ => True) (fun value result _ _ =>
    alike value result) () () task other

variable {related : σ → τ → Prop} {mine : σ → κ} {own : τ → μ} {rejected : κ → μ → Prop}
  {after : α → β → κ → μ → Prop} {part : κ} {counterpart : μ} {task : Task σ ε α}
  {other : Task τ ε β}

theorem bind_pure_task (task : Task σ ε α) : (task >>= fun value => pure value) = task := by
  change task.bind _ = task
  induction task with
  | done result => cases result <;> rfl
  | step update next ih =>
      simp only [Task.bind]
      congr 1
      funext state
      exact ih state

theorem tandem_pure {value : α} {result : β} (holds : after value result part counterpart) :
    Tandem related mine own rejected after part counterpart (pure value : Task σ ε α)
      (pure result : Task τ ε β) :=
  .done holds

theorem tandem_throw (rejection : ε) (holds : rejected part counterpart) :
    Tandem related mine own rejected after part counterpart (throw rejection : Task σ ε α)
      (throw rejection : Task τ ε β) :=
  .done ⟨rfl, holds⟩

theorem tandem_atomic {action : σ → Except ε α × σ} {reaction : τ → Except ε β × τ}
    (acts : ∀ state other, related state other → mine state = part → own other = counterpart →
      related (action state).2 (reaction other).2 ∧
        Agree rejected after ((action state).1, mine (action state).2)
          ((reaction other).1, own (reaction other).2)) :
    Tandem related mine own rejected after part counterpart (atomic action) (atomic reaction) :=
  .both (fun state other holds isPart isOwn => (acts state other holds isPart isOwn).1)
    fun state other holds isPart isOwn => .done (acts state other holds isPart isOwn).2

/-- The first task makes a step of its own. -/
theorem tandem_lead {action : σ → Except ε γ × σ} {next : γ → Task σ ε α} (value : γ) (later : κ)
    (leads : ∀ state other, related state other → mine state = part → own other = counterpart →
      related (action state).2 other ∧ (action state).1 = .ok value ∧
        mine (action state).2 = later)
    (rest : Tandem related mine own rejected after later counterpart (next value) other) :
    Tandem related mine own rejected after part counterpart (atomic action >>= next) other := by
  refine .left (fun state other holds isPart isOwn => (leads state other holds isPart isOwn).1) ?_
  intro state other holds isPart isOwn
  obtain ⟨_, yields, isLater⟩ := leads state other holds isPart isOwn
  have goesOn : bind (.done (action state).1) next = next value := by
    rw [yields]
    rfl
  rw [goesOn, isLater]
  exact rest

theorem Tandem.symm (tandem : Tandem related mine own rejected after part counterpart task other) :
    Tandem (fun other state => related state other) own mine
      (fun counterpart part => rejected part counterpart)
      (fun result value counterpart part => after value result part counterpart) counterpart part
      other task := by
  induction tandem with
  | @done part counterpart result ending ends =>
      cases result <;> cases ending
      · exact .done ⟨ends.1.symm, ends.2⟩
      · exact ends.elim
      · exact ends.elim
      · exact .done ends
  | both changes _ ih =>
      exact .both (fun other state holds isOwn isPart => changes state other holds isPart isOwn)
        fun other state holds isOwn isPart => ih state other holds isPart isOwn
  | left changes _ ih =>
      exact .right (fun other state holds isOwn isPart => changes state other holds isPart isOwn)
        fun other state holds isOwn isPart => ih state other holds isPart isOwn
  | right changes _ ih =>
      exact .left (fun other state holds isOwn isPart => changes state other holds isPart isOwn)
        fun other state holds isOwn isPart => ih state other holds isPart isOwn

theorem Tandem.mono {wider : α → β → κ → μ → Prop} {weaker : κ → μ → Prop}
    (tandem : Tandem related mine own rejected after part counterpart task other)
    (rejects : ∀ part counterpart, rejected part counterpart → weaker part counterpart)
    (yields : ∀ value result part counterpart, after value result part counterpart →
      wider value result part counterpart) :
    Tandem related mine own weaker wider part counterpart task other := by
  induction tandem with
  | done ends => exact .done (ends.mono rejects yields)
  | both changes _ ih => exact .both changes ih
  | left changes _ ih => exact .left changes ih
  | right changes _ ih => exact .right changes ih

theorem Tandem.bind {final : γ → δ → κ → μ → Prop} {next : α → Task σ ε γ}
    {follow : β → Task τ ε δ}
    (tandem : Tandem related mine own rejected after part counterpart task other)
    (rest : ∀ value result part counterpart, after value result part counterpart →
      Tandem related mine own rejected final part counterpart (next value) (follow result)) :
    Tandem related mine own rejected final part counterpart (task >>= next)
      (other >>= follow) := by
  change Tandem related mine own rejected final part counterpart (task.bind next)
    (other.bind follow)
  induction tandem with
  | @done part counterpart result ending ends =>
      cases result <;> cases ending
      · exact .done ends
      · exact ends.elim
      · exact ends.elim
      · exact rest _ _ _ _ ends
  | both changes _ ih => exact .both changes ih
  | left changes _ ih => exact .left changes ih
  | right changes _ ih => exact .right changes ih

theorem Tandem.catch {thrown : κ → μ → Prop} {handler : ε → Task σ ε α} {rescue : ε → Task τ ε β}
    (tandem : Tandem related mine own thrown after part counterpart task other)
    (handles : ∀ rejection part counterpart, thrown part counterpart →
      Tandem related mine own rejected after part counterpart (handler rejection)
        (rescue rejection)) :
    Tandem related mine own rejected after part counterpart (tryCatch task handler)
      (tryCatch other rescue) := by
  change Tandem related mine own rejected after part counterpart (task.catchError handler)
    (other.catchError rescue)
  induction tandem with
  | @done part counterpart result ending ends =>
      cases result <;> cases ending
      · obtain ⟨rfl, holds⟩ := ends
        exact handles _ _ _ holds
      · exact ends.elim
      · exact ends.elim
      · exact .done ends
  | both changes _ ih => exact .both changes ih
  | left changes _ ih => exact .left changes ih
  | right changes _ ih => exact .right changes ih

theorem tandem_forEach {ι : Type} {items : List ι} {body : ι → Task σ ε Unit}
    {round : ι → Task τ ε Unit} (holds : κ → μ → Prop)
    (each : ∀ item ∈ items, ∀ part counterpart, holds part counterpart →
      Tandem related mine own rejected (fun _ _ => holds) part counterpart (body item)
        (round item))
    (begins : holds part counterpart) :
    Tandem related mine own rejected (fun _ _ => holds) part counterpart (forEach items body)
      (forEach items round) := by
  induction items generalizing part counterpart with
  | nil => exact tandem_pure begins
  | cons item items ih =>
      refine (each item List.mem_cons_self _ _ begins).bind fun _ _ later laterOther kept => ?_
      exact ih (fun item member => each item (List.mem_cons_of_mem _ member)) kept

theorem inTandem_pure {alike : α → β → Prop} {value : α} {result : β}
    (same : alike value result) :
    InTandem related alike (pure value : Task σ ε α) (pure result : Task τ ε β) :=
  tandem_pure same

theorem inTandem_throw {alike : α → β → Prop} (rejection : ε) :
    InTandem related alike (throw rejection : Task σ ε α) (throw rejection : Task τ ε β) :=
  tandem_throw rejection trivial

theorem Matches.inTandem {alike : α → β → Prop} (matched : Matches related alike task other) :
    InTandem related alike task other := by
  induction matched with
  | done ends =>
      cases ends with
      | value same => exact .done same
      | rejection rejection => exact .done ⟨rfl, trivial⟩
  | step changes _ ih =>
      exact .both (fun state other holds _ _ => changes state other holds)
        fun state other holds _ _ => ih state other holds

section InTandem

variable {alike : α → β → Prop} (tandem : InTandem related alike task other)

include tandem

theorem InTandem.bind {final : γ → δ → Prop} {next : α → Task σ ε γ} {follow : β → Task τ ε δ}
    (rest : ∀ value result, alike value result →
      InTandem related final (next value) (follow result)) :
    InTandem related final (task >>= next) (other >>= follow) :=
  Tandem.bind tandem fun value result _ _ same => rest value result same

theorem InTandem.catch {handler : ε → Task σ ε α} {rescue : ε → Task τ ε β}
    (handles : ∀ rejection, InTandem related alike (handler rejection) (rescue rejection)) :
    InTandem related alike (tryCatch task handler) (tryCatch other rescue) :=
  Tandem.catch tandem fun rejection _ _ _ => handles rejection

theorem InTandem.outcome : InTandem related (EndsLike alike) task.outcome other.outcome := by
  refine InTandem.catch (InTandem.bind tandem fun value result same => ?_) fun rejection => ?_
  · exact inTandem_pure (.value same)
  · exact inTandem_pure (.rejection rejection)

theorem InTandem.ensure {cleanup : Task σ ε Unit} {tidying : Task τ ε Unit}
    (cleans : InTandem related Eq cleanup tidying) :
    InTandem related alike (task.ensure cleanup) (other.ensure tidying) := by
  refine InTandem.bind (InTandem.outcome tandem) fun result ending ends => ?_
  refine InTandem.bind cleans fun _ _ _ => ?_
  cases ends with
  | value same => exact inTandem_pure same
  | rejection rejection => exact inTandem_throw rejection

end InTandem

/-! ### Parts of the states -/

/-- Tasks on a part of the states; the private parts lie aside. -/
theorem Tandem.zoom {whole : υ → ω → Prop} {get : υ → σ} {set : υ → σ → υ} {look : ω → τ}
    {put : ω → τ → ω} {alike : α → β → Prop} {aside : υ → κ} {asideOther : ω → μ}
    (lawful : LawfulPart get set) (lawfulOther : LawfulPart look put) {here there : Unit}
    (inner : Tandem related (fun _ => ()) (fun _ => ()) (fun _ _ => True)
      (fun value result _ _ => alike value result) here there task other)
    (parts : ∀ state other, whole state other → related (get state) (look other))
    (sets : ∀ state other first second, whole state other → related first second →
      whole (set state first) (put other second))
    (leaves : ∀ state first, aside (set state first) = aside state)
    (leavesOther : ∀ other second, asideOther (put other second) = asideOther other) :
    Tandem whole aside asideOther (fun here there => here = part ∧ there = counterpart)
      (fun value result here there => alike value result ∧ here = part ∧ there = counterpart)
      part counterpart (task.zoom get set) (other.zoom look put) := by
  induction inner with
  | @done _ _ result ending ends =>
      cases result <;> cases ending
      · exact .done ⟨ends.1, rfl, rfl⟩
      · exact ends.elim
      · exact ends.elim
      · exact .done ⟨ends, rfl, rfl⟩
  | both changes _ ih =>
      refine .both (fun state other holds _ _ =>
        sets _ _ _ _ holds (changes _ _ (parts _ _ holds) rfl rfl)) ?_
      intro state other holds isPart isOwn
      rw [leaves, leavesOther, isPart, isOwn]
      exact ih _ _ (parts _ _ holds) rfl rfl
  | left changes _ ih =>
      refine .left (fun state other holds _ _ => ?_) fun state other holds isPart _ => ?_
      · rw [← lawfulOther.set_get other]
        exact sets _ _ _ _ holds (changes _ _ (parts _ _ holds) rfl rfl)
      · rw [leaves, isPart]
        exact ih _ _ (parts _ _ holds) rfl rfl
  | right changes _ ih =>
      refine .right (fun state other holds _ _ => ?_) fun state other holds _ isOwn => ?_
      · rw [← lawful.set_get state]
        exact sets _ _ _ _ holds (changes _ _ (parts _ _ holds) rfl rfl)
      · rw [leavesOther, isOwn]
        exact ih _ _ (parts _ _ holds) rfl rfl

theorem InTandem.zoom {whole : υ → ω → Prop} {get : υ → σ} {set : υ → σ → υ} {look : ω → τ}
    {put : ω → τ → ω} {alike : α → β → Prop} (inner : InTandem related alike task other)
    (lawful : LawfulPart get set) (lawfulOther : LawfulPart look put)
    (parts : ∀ state other, whole state other → related (get state) (look other))
    (sets : ∀ state other first second, whole state other → related first second →
      whole (set state first) (put other second)) :
    InTandem whole alike (task.zoom get set) (other.zoom look put) :=
  (Tandem.zoom lawful lawfulOther inner parts sets (fun _ _ => rfl) fun _ _ => rfl).mono
    (fun _ _ _ => trivial) fun _ _ _ _ holds => holds.1

theorem InTandem.onShared {alike : α → β → Prop} (inner : InTandem related alike task other) :
    Tandem (fun state other => related state.1 other.1) Prod.snd Prod.snd
      (fun here there => here = part ∧ there = counterpart)
      (fun value result here there => alike value result ∧ here = part ∧ there = counterpart)
      part counterpart (task.onShared : Task (σ × κ) ε α) (other.onShared : Task (τ × μ) ε β) := by
  refine Tandem.zoom ?_ ?_ inner (fun _ _ holds => holds) (fun _ _ _ _ _ holds => holds)
    (fun _ _ => rfl) fun _ _ => rfl
  · constructor <;> intros <;> rfl
  · constructor <;> intros <;> rfl

/-- What is private to the tasks is theirs to begin with. -/
theorem Tandem.withLocal {task : Task (σ × κ) ε α} {other : Task (τ × μ) ε β}
    (tandem : Tandem (fun state other => related state.1 other.1) Prod.snd Prod.snd
      (fun _ _ => True) after part counterpart task other) :
    InTandem related
      (fun value result => after value.1 result.1 value.2 result.2)
      (task.withLocal part) (other.withLocal counterpart) := by
  induction tandem with
  | @done _ _ result ending ends =>
      cases result <;> cases ending
      · exact .done ⟨ends.1, trivial⟩
      · exact ends.elim
      · exact ends.elim
      · exact .done ends
  | both changes _ ih =>
      exact .both (fun state other holds _ _ => changes (state, _) (other, _) holds rfl rfl)
        fun state other holds _ _ => ih (state, _) (other, _) holds rfl rfl
  | left changes _ ih =>
      exact .left (fun state other holds _ _ => changes (state, _) (other, _) holds rfl rfl)
        fun state other holds _ _ => ih (state, _) (other, _) holds rfl rfl
  | right changes _ ih =>
      exact .right (fun state other holds _ _ => changes (state, _) (other, _) holds rfl rfl)
        fun state other holds _ _ => ih (state, _) (other, _) holds rfl rfl

end Task
end Async
