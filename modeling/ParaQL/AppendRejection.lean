/-
What becomes of an `exec`, `run` or `flush` whose append rejects.

One call from its beginning, with the two promises that it waits for: the `Deferred`
that `_apply` settles, and after it the promise of `bee.append`.
-/

import ParaQL.Async.Machine
import ParaQL.Oplog

namespace ParaQL

open Async Bytes

structure Sender where
  compressed : Bool
  -- `Operation.encode`, which throws for a value that it cannot carry.
  encode : Operation → Except JsValue Buffer
  deflate : Buffer → Buffer

inductive SendPhase where
  -- `await deflate(...)`, or `await Promise.all(...)`.
  | deflating (encoded : List Buffer)
  -- `await this._interactive.promise`.
  | waiting
  -- `await promise`, whichever way the `Deferred` was settled.
  | appending (told : Except JsValue Settlement)
  | settled (result : Except JsValue (Option Settlement))
  deriving DecidableEq

structure Sending where
  interactive : Option (Promise JsValue Settlement)
  append : Option (List Buffer × Promise JsValue Unit)
  phase : SendPhase
  deriving DecidableEq

/-- The end of the call: `finally { this._interactive = null }`. -/
def Sending.finish (sending : Sending) (result : Except JsValue (Option Settlement)) : Sending :=
  { sending with interactive := none, phase := .settled result }

/-- `this.bee.append(nodes)`, and on to the first `await` after it. -/
def Sending.appended (sending : Sending) (nodes : List Buffer) : Sending :=
  { sending with append := some (nodes, .pending), phase := .waiting }

inductive SendEvent where
  | deflated (result : Except JsValue Unit)
  | applied (result : Except JsValue Settlement)
  | appended (result : Except JsValue Unit)
  | resume
  deriving DecidableEq

def SendEvent.applies : SendEvent → Bool
  | .applied _ => true
  | _ => false

/-- What the caller of `exec` gets, and that of `run` or `flush`. -/
def OplogCall.answer (call : OplogCall) (settlement : Settlement) : Option Settlement :=
  match call with
  | .exec _ => none
  | _ => some settlement

namespace Sender

variable (sender : Sender)

/-- `Operation.encode` of one operation after the other. -/
def encodeAll : List Operation → Except JsValue (List Buffer)
  | [] => .ok []
  | operation :: operations => do
      let buffer ← sender.encode operation
      let buffers ← encodeAll operations
      pure (buffer :: buffers)

/-- The call up to its first `await`. -/
def begin (call : OplogCall) : Sending :=
  let made : Sending := { interactive := some .pending, append := none, phase := .waiting }
  match sender.encodeAll call.operations with
  | .error thrown => made.finish (.error thrown)
  | .ok encoded =>
      if sender.compressed then { made with phase := .deflating encoded }
      else made.appended encoded

def step (call : OplogCall) (sending : Sending) : SendEvent → Option Sending
  | .deflated result =>
      match sending.phase, result with
      | .deflating encoded, .ok _ => some (sending.appended (encoded.map sender.deflate))
      | .deflating _, .error thrown => some (sending.finish (.error thrown))
      | _, _ => none
  | .applied result =>
      some { sending with interactive := sending.interactive.map (·.settle result) }
  | .appended result =>
      match sending.append with
      | some (nodes, .pending) => some { sending with append := some (nodes, .settled result) }
      | _ => none
  | .resume =>
      match sending.phase, sending.interactive, sending.append with
      | .waiting, some (.settled told), _ => some { sending with phase := .appending told }
      | .appending _, _, some (_, .settled (.error thrown)) =>
          some (sending.finish (.error thrown))
      | .appending told, _, some (_, .settled (.ok _)) =>
          some (sending.finish (told.map call.answer))
      | _, _, _ => none

def run (call : OplogCall) (events : List SendEvent) : Option Sending :=
  Machine.run (sender.step call) (sender.begin call) events

/-! ### A rejected append -/

/-- The promise of `bee.append` was rejected. -/
def Rejects (sending : Sending) (reason : JsValue) : Prop :=
  ∃ nodes, sending.append = some (nodes, .settled (.error reason))

/-- Whenever the append rejects and nothing is applied, the call ends with that rejection
as soon as it cannot go on, and leaves `_interactive` free. -/
def RejectionReaches (call : OplogCall) : Prop :=
  ∀ events final reason, (∀ event ∈ events, event.applies = false) →
    sender.run call events = some final → Rejects final reason →
    sender.step call final .resume = none →
      final.phase = .settled (.error reason) ∧ final.interactive = none

def Encodes (call : OplogCall) : Prop :=
  ∀ operation ∈ call.operations, (sender.encode operation).isOk = true

variable {sender}

private theorem encodeAll_isOk (operations : List Operation) :
    (sender.encodeAll operations).isOk = true ↔
      ∀ operation ∈ operations, (sender.encode operation).isOk = true := by
  induction operations with
  | nil => exact iff_of_true rfl fun _ member => absurd member List.not_mem_nil
  | cons operation operations ih =>
      rw [List.forall_mem_cons, ← ih, encodeAll]
      cases sender.encode operation with
      | error thrown => simp [Except.isOk, Except.toBool, bind, Except.bind]
      | ok buffer =>
          cases sender.encodeAll operations <;>
            simp [Except.isOk, Except.toBool, bind, Except.bind, pure, Except.pure]

/-- A call that ended before its append never appends. -/
theorem unappended_step {call : OplogCall} {sending next : Sending} {event : SendEvent}
    {result : Except JsValue (Option Settlement)}
    (ended : sending.phase = .settled result ∧ sending.append = none)
    (stepped : sender.step call sending event = some next) :
    next.phase = .settled result ∧ next.append = none := by
  obtain ⟨phase, append⟩ := ended
  cases event with
  | deflated outcome =>
      simp only [step, phase] at stepped
      cases stepped
  | applied outcome =>
      cases stepped
      exact ⟨phase, append⟩
  | appended outcome =>
      simp only [step, append] at stepped
      cases stepped
  | resume =>
      simp only [step, phase] at stepped
      cases stepped

private theorem rejectionReaches_of_unencoded {call : OplogCall} {thrown : JsValue}
    (throws : sender.encodeAll call.operations = .error thrown) :
    sender.RejectionReaches call := by
  intro events final reason _ ran rejects _
  have begins : (sender.begin call).phase = .settled (.error thrown) ∧
      (sender.begin call).append = none := by
    unfold begin
    rw [throws]
    exact ⟨rfl, rfl⟩
  have unappended :=
    (Machine.run_preserves (fun _ _ _ ended => unappended_step ended) begins ran).2
  obtain ⟨nodes, appended⟩ := rejects
  rw [unappended] at appended
  cases appended

/-- The call was told nothing, and the promise it does not wait for was rejected. -/
def abandoned (nodes : List Buffer) (reason : JsValue) : Sending :=
  { interactive := some .pending
    append := some (nodes, .settled (.error reason))
    phase := .waiting }

def rejecting (compressed : Bool) (reason : JsValue) : List SendEvent :=
  (if compressed then [.deflated (.ok ())] else []) ++ [.appended (.error reason)]

/-- Whatever the call and the settings are, it is left waiting. -/
theorem run_rejecting {call : OplogCall} {encoded : List Buffer}
    (encodes : sender.encodeAll call.operations = .ok encoded) (reason : JsValue) :
    ∃ nodes, sender.run call (rejecting sender.compressed reason) =
      some (abandoned nodes reason) := by
  unfold run begin rejecting
  rw [encodes]
  cases sender.compressed with
  | false => exact ⟨encoded, rfl⟩
  | true => exact ⟨encoded.map sender.deflate, rfl⟩

private theorem rejecting_applies {compressed : Bool} {reason : JsValue} :
    ∀ event ∈ rejecting compressed reason, event.applies = false := by
  intro event member
  cases compressed <;> simp [rejecting] at member
  · rw [member]
    rfl
  · rcases member with same | same <;> rw [same] <;> rfl

/-- A rejection reaches the caller only if there is none: as soon as the call appends, a
rejected append leaves it waiting for a node that never comes. -/
theorem rejectionReaches_iff (call : OplogCall) :
    sender.RejectionReaches call ↔ ¬sender.Encodes call := by
  unfold Encodes
  rw [← encodeAll_isOk]
  cases encodes : sender.encodeAll call.operations with
  | error thrown =>
      exact iff_of_true (rejectionReaches_of_unencoded encodes) Bool.false_ne_true
  | ok encoded =>
      refine iff_of_false (fun reaches => ?_) (not_not.2 rfl)
      obtain ⟨nodes, ran⟩ := run_rejecting encodes .undefined
      have ended := (reaches _ _ .undefined rejecting_applies ran ⟨nodes, rfl⟩ rfl).1
      cases ended

/-- An instance that is not writable. -/
theorem rejectionReaches_exec_fails :
    ¬RejectionReaches { compressed := false, encode := fun _ => .ok [8], deflate := id }
      (.exec "SELECT 1") := by
  intro reaches
  have ended := (reaches [.appended (.error (.error (JsError.typeError "Not writable")))] _ _
    (fun event member => List.mem_singleton.1 member ▸ rfl) rfl ⟨[[8]], rfl⟩ rfl).1
  cases ended

end Sender
end ParaQL
