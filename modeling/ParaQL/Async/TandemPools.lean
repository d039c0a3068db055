/-
Two event loops whose tasks are in tandem.

Whatever one loop does, the other can follow it: for a step of a task it lets the
counterpart of this task catch up.  A task that has ended has a counterpart that can be
driven to its end, and then both have ended alike.
-/

import ParaQL.Async.Tandem

namespace Async

open Relation Async.Task

variable {σ τ ι ε α β : Type}

namespace Pool

inductive Moves (serve : ι → Task σ ε α) (others : σ → σ → Prop) :
    Pool σ ε α → Pool σ ε α → Prop where
  | start (pool : Pool σ ε α) (request : ι) :
      Moves serve others pool (pool.start (serve request))
  | advance {pool after : Pool σ ε α} (index : Nat) (advanced : pool.advance index = some after) :
      Moves serve others pool after
  | other (pool : Pool σ ε α) {moved : σ} (step : others pool.shared moved) :
      Moves serve others pool { pool with shared := moved }

def put (pool : Pool σ ε α) (index : Nat) (task : Task σ ε α) (shared : σ) : Pool σ ε α :=
  { shared := shared, inFlight := pool.inFlight.set index task }

variable {serve : ι → Task σ ε α} {others : σ → σ → Prop} {pool : Pool σ ε α} {index : Nat}

theorem put_self {task : Task σ ε α} (present : pool.inFlight[index]? = some task) :
    pool.put index task pool.shared = pool := by
  obtain ⟨inside, isTask⟩ := List.getElem?_eq_some_iff.1 present
  subst isTask
  simp only [put, List.set_getElem_self]

theorem getElem?_put (within : index < pool.inFlight.length) (task : Task σ ε α) (shared : σ) :
    (pool.put index task shared).inFlight[index]? = some task := by
  simp only [put, List.getElem?_set_self within]

theorem moves_put (within : index < pool.inFlight.length) (update : σ → σ)
    (next : σ → Task σ ε α) (shared : σ) :
    Moves serve others (pool.put index (.step update next) shared)
      (pool.put index (next shared) (update shared)) := by
  refine .advance index ?_
  unfold advance
  rw [getElem?_put within]
  simp only [put, List.set_set]

theorem advance_inv {after : Pool σ ε α} (advanced : pool.advance index = some after) :
    ∃ update next, pool.inFlight[index]? = some (.step update next) ∧
      after = pool.put index (next pool.shared) (update pool.shared) := by
  unfold advance at advanced
  split at advanced
  · rename_i update next found
    cases advanced
    exact ⟨update, next, found, rfl⟩
  · cases advanced

/-- A request that nothing interrupts. -/
theorem moves_run (within : index < pool.inFlight.length) (task : Task σ ε α) (shared : σ) :
    ReflTransGen (Moves serve others) (pool.put index task shared)
      (pool.put index (.done (task.run shared).1) (task.run shared).2) := by
  induction task generalizing shared with
  | done result => exact .refl
  | step update next ih => exact .head (moves_put within _ _ _) (ih shared (update shared))

theorem moves_serve (pool : Pool σ ε α) (request : ι) :
    ReflTransGen (Moves serve others) pool
      { shared := ((serve request).run pool.shared).2
        inFlight := pool.inFlight ++ [.done ((serve request).run pool.shared).1] } := by
  refine .head (.start pool request) ?_
  have within : pool.inFlight.length < (pool.start (serve request)).inFlight.length := by
    simp [Pool.start]
  have ran : ReflTransGen (Moves serve others) _ _ := moves_run within (serve request) pool.shared
  simpa [put, Pool.start] using ran

end Pool

namespace Task

variable {related : σ → τ → Prop} {alike : α → β → Prop}

/-- The counterpart makes the same step, and before it what it has to do on its own. -/
theorem Tandem.catchUp {update : σ → σ} {next : σ → Task σ ε α} {other : Task τ ε β}
    {here there : Unit}
    (tandem : Tandem related (fun _ => ()) (fun _ => ()) (fun _ _ => True)
      (fun value result _ _ => alike value result) here there (.step update next) other)
    (serve : ι → Task τ ε β) (others : τ → τ → Prop) (pool : Pool τ ε β) (index : Nat)
    (within : index < pool.inFlight.length) {state : σ} {shared : τ}
    (holds : related state shared) :
    ∃ later final, ReflTransGen (Pool.Moves serve others) (pool.put index other shared)
        (pool.put index later final) ∧
      related (update state) final ∧ InTandem related alike (next state) later := by
  generalize isStep : Task.step update next = task at tandem
  induction tandem generalizing shared with
  | done ends => cases isStep
  | both changes rest _ =>
      cases isStep
      exact ⟨_, _, .single (Pool.moves_put within _ _ _), changes _ _ holds rfl rfl,
        rest _ _ holds rfl rfl⟩
  | left changes rest _ =>
      cases isStep
      exact ⟨_, _, .refl, changes _ _ holds rfl rfl, rest _ _ holds rfl rfl⟩
  | right changes _ ih =>
      obtain ⟨later, final, moves, kept, goesOn⟩ :=
        ih _ _ holds rfl rfl (changes _ _ holds rfl rfl) isStep
      exact ⟨later, final, .head (Pool.moves_put within _ _ _) moves, kept, goesOn⟩

/-- The counterpart of a task that has ended can be driven to its end. -/
theorem Tandem.finishes {result : Except ε α} {other : Task τ ε β}
    {here there : Unit}
    (tandem : Tandem related (fun _ => ()) (fun _ => ()) (fun _ _ => True)
      (fun value result _ _ => alike value result) here there (.done result) other)
    (serve : ι → Task τ ε β) (others : τ → τ → Prop) (pool : Pool τ ε β) (index : Nat)
    (within : index < pool.inFlight.length) {state : σ} {shared : τ}
    (holds : related state shared) :
    ∃ ending final, ReflTransGen (Pool.Moves serve others) (pool.put index other shared)
        (pool.put index (.done ending) final) ∧
      related state final ∧ InTandem related alike (.done result) (.done ending : Task τ ε β) := by
  generalize isDone : Task.done result = task at tandem
  induction tandem generalizing shared with
  | done ends =>
      cases isDone
      exact ⟨_, _, .refl, holds, .done ends⟩
  | both changes rest _ => cases isDone
  | left changes rest _ => cases isDone
  | right changes _ ih =>
      obtain ⟨ending, final, moves, kept, ends⟩ :=
        ih _ _ holds rfl rfl (changes _ _ holds rfl rfl) isDone
      exact ⟨ending, final, .head (Pool.moves_put within _ _ _) moves, kept, ends⟩

theorem InTandem.endsLike {result : Except ε α} {ending : Except ε β}
    (tandem : InTandem related alike (.done result) (.done ending)) :
    EndsLike alike result ending := by
  cases tandem with
  | done ends =>
      cases result <;> cases ending
      · exact ends.1 ▸ .rejection _
      · exact ends.elim
      · exact ends.elim
      · exact .value ends

end Task

/-! ### Pools in tandem -/

structure PoolTandem (related : σ → τ → Prop) (alike : α → β → Prop) (first : Pool σ ε α)
    (second : Pool τ ε β) : Prop where
  shared : related first.shared second.shared
  sameLength : first.inFlight.length = second.inFlight.length
  inFlight : ∀ (index : Nat) (task : Task σ ε α) (other : Task τ ε β),
    first.inFlight[index]? = some task → second.inFlight[index]? = some other →
    InTandem related alike task other

namespace PoolTandem

variable {related : σ → τ → Prop} {alike : α → β → Prop} {first after : Pool σ ε α}
  {second : Pool τ ε β} {serve : ι → Task σ ε α} {serveThere : ι → Task τ ε β}
  {others : σ → σ → Prop} {othersThere : τ → τ → Prop}

theorem counterpart (tandem : PoolTandem related alike first second) {index : Nat}
    {task : Task σ ε α} (present : first.inFlight[index]? = some task) :
    ∃ other, second.inFlight[index]? = some other ∧ InTandem related alike task other := by
  obtain ⟨inside, _⟩ := List.getElem?_eq_some_iff.1 present
  have found := List.getElem?_eq_getElem (tandem.sameLength ▸ inside)
  exact ⟨_, found, tandem.inFlight index task _ present found⟩

/-- Both loops let the tasks at one index go on. -/
theorem put (tandem : PoolTandem related alike first second) (index : Nat) {task : Task σ ε α}
    {other : Task τ ε β} {state : σ} {shared : τ} (holds : related state shared)
    (goesOn : InTandem related alike task other) :
    PoolTandem related alike (first.put index task state) (second.put index other shared) := by
  refine ⟨holds, ?_, ?_⟩
  · simp only [Pool.put, List.length_set, tandem.sameLength]
  · intro place here there atFirst atSecond
    simp only [Pool.put, List.getElem?_set] at atFirst atSecond
    rw [← tandem.sameLength] at atSecond
    by_cases same : index = place
    · rw [if_pos same] at atFirst atSecond
      split at atFirst
      · rename_i inside
        rw [if_pos inside] at atSecond
        cases atFirst
        cases atSecond
        exact goesOn
      · cases atFirst
    · rw [if_neg same] at atFirst atSecond
      exact tandem.inFlight place here there atFirst atSecond

theorem start (tandem : PoolTandem related alike first second) {task : Task σ ε α}
    {other : Task τ ε β} (begins : InTandem related alike task other) :
    PoolTandem related alike (first.start task) (second.start other) := by
  refine ⟨tandem.shared, ?_, ?_⟩
  · simp only [Pool.start, List.length_append, tandem.sameLength, List.length_singleton]
  · intro place here there atFirst atSecond
    simp only [Pool.start] at atFirst atSecond
    by_cases inside : place < first.inFlight.length
    · rw [List.getElem?_append_left inside] at atFirst
      rw [List.getElem?_append_left (tandem.sameLength ▸ inside)] at atSecond
      exact tandem.inFlight place here there atFirst atSecond
    · rw [List.getElem?_append_right (Nat.le_of_not_lt inside)] at atFirst
      rw [List.getElem?_append_right (tandem.sameLength ▸ Nat.le_of_not_lt inside),
        ← tandem.sameLength] at atSecond
      rw [List.getElem?_singleton] at atFirst atSecond
      split at atFirst
      · rename_i last
        rw [if_pos last] at atSecond
        cases atFirst
        cases atSecond
        exact begins
      · cases atFirst

section Simulation

variable (served : ∀ request, InTandem related alike (serve request) (serveThere request))
  (simulates : Simulates related others othersThere)

include served simulates

/-- Whatever the first loop does, the second one can follow it. -/
theorem follow (tandem : PoolTandem related alike first second)
    (move : Pool.Moves serve others first after) :
    ∃ later, ReflTransGen (Pool.Moves serveThere othersThere) second later ∧
      PoolTandem related alike after later := by
  cases move with
  | start request =>
      exact ⟨_, .single (.start second request), tandem.start (served request)⟩
  | advance index advanced =>
      obtain ⟨update, next, present, rfl⟩ := Pool.advance_inv advanced
      obtain ⟨other, presentThere, goes⟩ := tandem.counterpart present
      obtain ⟨within, _⟩ := List.getElem?_eq_some_iff.1 presentThere
      obtain ⟨later, final, moves, kept, goesOn⟩ :=
        goes.catchUp serveThere othersThere second index within tandem.shared
      rw [Pool.put_self presentThere] at moves
      exact ⟨_, moves, tandem.put index kept goesOn⟩
  | other step =>
      obtain ⟨moved, stepThere, kept⟩ := simulates _ _ _ tandem.shared step
      exact ⟨_, .single (.other second stepThere), kept, tandem.sameLength, tandem.inFlight⟩

theorem followAll (tandem : PoolTandem related alike first second)
    (moves : ReflTransGen (Pool.Moves serve others) first after) :
    ∃ later, ReflTransGen (Pool.Moves serveThere othersThere) second later ∧
      PoolTandem related alike after later := by
  induction moves with
  | refl => exact ⟨second, .refl, tandem⟩
  | tail _ move ih =>
      obtain ⟨middle, moved, reached⟩ := ih
      obtain ⟨later, goes, kept⟩ := reached.follow served simulates move
      exact ⟨later, moved.trans goes, kept⟩

end Simulation

def EndedBelow (first : Pool σ ε α) (second : Pool τ ε β) (bound : Nat) : Prop :=
  ∀ (index : Nat) (result : Except ε α), index < bound →
    first.inFlight[index]? = some (.done result) →
    ∃ ending : Except ε β, second.inFlight[index]? = some (.done ending)

theorem driveBelow (tandem : PoolTandem related alike first second)
    (serveThere : ι → Task τ ε β) (othersThere : τ → τ → Prop) (bound : Nat) :
    ∃ later, ReflTransGen (Pool.Moves serveThere othersThere) second later ∧
      PoolTandem related alike first later ∧ EndedBelow first later bound := by
  induction bound with
  | zero =>
      exact ⟨second, .refl, tandem, fun _ _ impossible => absurd impossible (Nat.not_lt_zero _)⟩
  | succ bound ih =>
      obtain ⟨middle, moved, reached, ended⟩ := ih
      by_cases isDone : ∃ result, first.inFlight[bound]? = some (.done result)
      · obtain ⟨result, present⟩ := isDone
        obtain ⟨other, presentThere, goes⟩ := reached.counterpart present
        obtain ⟨within, _⟩ := List.getElem?_eq_some_iff.1 presentThere
        obtain ⟨ending, final, moves, kept, ends⟩ :=
          goes.finishes serveThere othersThere middle bound within reached.shared
        rw [Pool.put_self presentThere] at moves
        have puts := reached.put bound kept ends
        rw [Pool.put_self present] at puts
        refine ⟨_, moved.trans moves, puts, fun index earlier below found => ?_⟩
        by_cases here : index = bound
        · exact ⟨ending, here ▸ Pool.getElem?_put within _ _⟩
        · obtain ⟨last, isLast⟩ := ended index earlier (by omega) found
          refine ⟨last, ?_⟩
          simp only [Pool.put, List.getElem?_set_ne (Ne.symm here), isLast]
      · refine ⟨middle, moved, reached, fun index earlier below found => ?_⟩
        by_cases here : index = bound
        · exact absurd ⟨earlier, here ▸ found⟩ isDone
        · exact ended index earlier (by omega) found

/-- Tasks that have ended in the first loop can all be driven to their ends in the second. -/
theorem drive (tandem : PoolTandem related alike first second)
    (serveThere : ι → Task τ ε β) (othersThere : τ → τ → Prop) :
    ∃ later, ReflTransGen (Pool.Moves serveThere othersThere) second later ∧
      PoolTandem related alike first later ∧
      ∀ (index : Nat) (result : Except ε α), first.inFlight[index]? = some (.done result) →
        ∃ ending : Except ε β, later.inFlight[index]? = some (.done ending) ∧
          EndsLike alike result ending := by
  obtain ⟨later, moves, reached, ended⟩ := 
    tandem.driveBelow serveThere othersThere first.inFlight.length
  refine ⟨later, moves, reached, fun index result found => ?_⟩
  obtain ⟨inside, _⟩ := List.getElem?_eq_some_iff.1 found
  obtain ⟨ending, isEnding⟩ := ended index result inside found
  exact ⟨ending, isEnding, (reached.inFlight index _ _ found isEnding).endsLike⟩

end PoolTandem
end Async
