/-
Requests answered one after the other.

An abstract server is a relation between two of its states, a request and its answer.  The
tasks of a program refine it when each of them gives the answer that the server gives.
-/

import ParaQL.Async.Task

namespace Async

variable {σ τ ι ε α β : Type}

inductive Answered (step : τ → ι → α → τ → Prop) : τ → List ι → List α → τ → Prop where
  | nil (state : τ) : Answered step state [] [] state
  | cons {state middle final : τ} {request : ι} {requests : List ι} {answer : α}
      {answers : List α} (first : step state request answer middle)
      (rest : Answered step middle requests answers final) :
      Answered step state (request :: requests) (answer :: answers) final

namespace Answered

variable {step : τ → ι → α → τ → Prop} {state final : τ} {requests : List ι}
  {answers : List α}

/-- What no step can bring about was true from the start. -/
theorem before {holds : τ → Prop}
    (back : ∀ state request answer after, step state request answer after → holds after →
      holds state)
    (run : Answered step state requests answers final) (last : holds final) : holds state := by
  induction run with
  | nil state => exact last
  | cons first rest ih => exact back _ _ _ _ first (ih last)

end Answered

namespace Task

end Task
end Async
