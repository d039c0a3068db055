/-
Tasks in flight on one event loop.

The loop takes one step of one task at a time, in any order, so a task may be left at
any of its awaits for as long as the others go on.  What every step of every task does
to the shared state is what a move of the pool does to it.
-/

import ParaQL.Async.Interference

namespace Async

open Async.Task

structure Pool (σ ε α : Type) where
  shared : σ
  inFlight : List (Task σ ε α)

namespace Pool

variable {σ ε α : Type}

def start (pool : Pool σ ε α) (task : Task σ ε α) : Pool σ ε α :=
  { pool with inFlight := pool.inFlight ++ [task] }

def advance (pool : Pool σ ε α) (index : Nat) : Option (Pool σ ε α) :=
  match pool.inFlight[index]? with
  | some (.step update next) =>
      some
        { shared := update pool.shared
          inFlight := pool.inFlight.set index (next pool.shared) }
  | _ => none

def Guaranteed (guarantee : σ → σ → Prop) (pool : Pool σ ε α) : Prop :=
  ∀ task ∈ pool.inFlight, Guarantees guarantee task

variable {guarantee : σ → σ → Prop} {pool after : Pool σ ε α}

theorem Guaranteed.start (guaranteed : pool.Guaranteed guarantee) {task : Task σ ε α}
    (steps : Guarantees guarantee task) : (pool.start task).Guaranteed guarantee := by
  intro other member
  rcases List.mem_append.1 member with earlier | last
  · exact guaranteed other earlier
  · rw [List.mem_singleton.1 last]
    exact steps

theorem Guaranteed.advance (guaranteed : pool.Guaranteed guarantee) {index : Nat}
    (advanced : pool.advance index = some after) :
    after.Guaranteed guarantee ∧ guarantee pool.shared after.shared := by
  unfold Pool.advance at advanced
  split at advanced
  · rename_i update next found
    cases advanced
    have steps := guaranteed _ (List.mem_of_getElem? found)
    cases steps with
    | step here rest =>
        refine ⟨?_, here pool.shared⟩
        intro task member
        rcases List.mem_or_eq_of_mem_set member with other | moved
        · exact guaranteed task other
        · rw [moved]
          exact rest pool.shared
  · cases advanced

end Pool
end Async
