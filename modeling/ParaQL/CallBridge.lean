/-
The way of a VFS call from a worker thread to the event loop and back (binding.c).

The worker fills a record on its stack, hands it to one of the seven thread-safe functions
and waits on `done`.  The loop calls the handler of lib/vfs.js with a callback that stores
the status in the record and posts `done`.  All calls of a VFS share this one semaphore,
so it is the callers that have to keep out of each other's way.
-/

import ParaQL.Async.Rendezvous
import ParaQL.Binding

namespace ParaQL

open Async Async.Task Bytes Relation

def queueLimit : Nat := 64

/-- The thread-safe functions of `paravfs_t`, each with a queue of its own. -/
inductive ThreadsafeFunction where
  | onDelete
  | onAccess
  | onRead
  | onWrite
  | onTruncate
  | onSync
  | onSize
  deriving DecidableEq, Repr

def VfsCall.threadsafeFunction : VfsCall → ThreadsafeFunction
  | .xDelete _ => .onDelete
  | .xAccess _ => .onAccess
  | .xRead _ _ _ => .onRead
  | .xWrite _ _ _ => .onWrite
  | .xTruncate _ _ => .onTruncate
  | .xSync _ => .onSync
  | .xSize _ => .onSize

structure WorkerCall where
  call : VfsCall
  flag : Int
  deriving DecidableEq, Repr

/-- What the record says before a callback has filled it.  Its initialiser leaves the rest
of the fields zero, but the third one it names is `status` for `xDelete` and `exists` for
`xAccess`.  What a handler has copied into the lent bytes by then is not followed. -/
def WorkerCall.unanswered (native : WorkerCall) : NativeReply :=
  match native.call with
  | .xDelete _ => { status := native.flag, value := .undefined, buffer := [] }
  | .xAccess _ => { status := 0, value := .bool (native.flag ≠ 0), buffer := [] }
  | .xRead _ buffer _ => { status := 0, value := .undefined, buffer := buffer }
  | .xWrite _ buffer _ => { status := 0, value := .undefined, buffer := buffer }
  | .xTruncate _ _ => { status := 0, value := .undefined, buffer := [] }
  | .xSync _ => { status := 0, value := .undefined, buffer := [] }
  | .xSize _ => { status := 0, value := .number 0, buffer := [] }

abbrev BridgeCall := Exchange WorkerCall VfsState JsValue NativeReply

abbrev Bridge := Rendezvous WorkerCall VfsState JsValue NativeReply

/-- Between the steps of the handlers the loop also runs `_write`. -/
abbrev BridgeEvent := RendezvousEvent WorkerCall (Option Nat)

def BridgeCall.returnedReply (exchange : BridgeCall) : Option NativeReply :=
  exchange.found.map fun answer => answer.getD exchange.request.unanswered

def Bridge.replies (bridge : Bridge) : List (WorkerCall × NativeReply) :=
  bridge.exchanges.filterMap fun exchange =>
    (BridgeCall.returnedReply exchange).map fun reply => (exchange.request, reply)

def Bridge.opened (stores : StoreRef → Store) : Bridge := .initial (.initial stores)

namespace ParaVFS

def bridge (vfs : ParaVFS) :
    Service WorkerCall ThreadsafeFunction (Option Nat) VfsState JsValue NativeReply :=
  { lane := fun native => native.call.threadsafeFunction
    capacity := queueLimit
    serve := fun native => vfs.native native.call
    disturb := fun view state => ((ParaVFS.write view).run state).2 }

def bridgeStep (vfs : ParaVFS) : Bridge → BridgeEvent → Option Bridge :=
  Rendezvous.step vfs.bridge

def BridgeGoesOn (vfs : ParaVFS) (before after : Bridge) : Prop :=
  Rendezvous.Internal vfs.bridge after before

variable {vfs : ParaVFS}

private theorem callback_resolves {σ : Type} (body : Task σ JsValue (List JsValue)) :
    Resolves (callback body) :=
  resolves_catch _ fun thrown => .done [thrown]

theorem native_resolves (vfs : ParaVFS) (call : VfsCall) : Resolves (vfs.native call) := by
  have lends {task : CallTask CallbackArgs} (resolves : Resolves task) (buffer : Buffer) :
      Resolves (withBuffer task buffer) :=
    (resolves.withLocal buffer).bind fun answer => .done _
  have plain {task : VfsTask CallbackArgs} (resolves : Resolves task) :
      Resolves (withoutBuffer task) :=
    resolves.bind fun args => .done _
  refine Resolves.bind ?_ fun reply => .done _
  cases call with
  | xDelete name => exact plain (callback_resolves _)
  | xAccess name => exact plain (callback_resolves _)
  | xRead name buffer offset => exact lends (callback_resolves _) buffer
  | xWrite name buffer offset => exact lends (callback_resolves _) buffer
  | xTruncate name size => exact lends (callback_resolves _) []
  | xSync name => exact plain (callback_resolves _)
  | xSize name => exact plain (callback_resolves _)

/-- What holds in every run, whether or not workers wait at the same time. -/
theorem bridge_invariant {stores : StoreRef → Store} {events : List BridgeEvent}
    {bridge : Bridge}
    (ran : Machine.run vfs.bridgeStep (.opened stores) events = some bridge) :
    bridge.Accounted ∧ bridge.Answering := by
  refine @Machine.run_preserves _ _ _ (fun bridge : Bridge =>
    bridge.Accounted ∧ bridge.Answering) (fun state event next holds stepped => ?_) _ _ _
    ⟨Rendezvous.accounted_initial _, ?_⟩ ran
  · exact ⟨holds.1.step stepped,
      holds.2.step (fun native => vfs.native_resolves native.call) stepped⟩
  · intro exchange member
    cases member

/-! ### Results -/

private theorem replies_eq_history {exchanges : List BridgeCall}
    (own : ∀ exchange ∈ exchanges, exchange.Own)
    (returned : ∀ exchange ∈ exchanges, exchange.returned = true) :
    (exchanges.filterMap fun exchange =>
      (BridgeCall.returnedReply exchange).map fun reply => (exchange.request, reply)) =
      Rendezvous.history exchanges := by
  refine List.filterMap_congr fun exchange member => ?_
  obtain ⟨request, stage, found⟩ := exchange
  cases found with
  | none => cases returned _ member
  | some found =>
      obtain ⟨answer, isStage, rfl⟩ := own _ member found rfl
      obtain rfl : stage = .answered answer := isStage
      rfl

/-- As long as SQLite makes one VFS call at a time, a worker returns what the callback of
its own call has stored, and the calls are as if each were run on the loop, `_write`s being
possible at every await. -/
theorem bridge_refines_native (vfs : ParaVFS) (stores : StoreRef → Store)
    (events : List BridgeEvent) (bridge : Bridge)
    (ran : Machine.run vfs.bridgeStep (.opened stores) events = some bridge)
    (alone : Machine.Heeds vfs.bridgeStep Rendezvous.OneAtATime (.opened stores) events) :
    (∀ exchange ∈ bridge.exchanges, ∀ reply, BridgeCall.returnedReply exchange = some reply →
      exchange.stage = .answered reply) ∧
    ((∀ exchange ∈ bridge.exchanges, exchange.returned = true) →
      Sequence vfs.bridge (.initial stores) bridge.replies bridge.shared) := by
  obtain ⟨orderly, follows⟩ := Rendezvous.one_at_a_time alone ran
  constructor
  · intro exchange member reply returns
    obtain ⟨found, isFound, rfl⟩ := Option.map_eq_some_iff.1 returns
    obtain ⟨answer, isStage, rfl⟩ := orderly.own exchange member found isFound
    exact isStage
  · intro returned
    have gone : Rendezvous.Gone bridge.exchanges := fun exchange member =>
      ⟨(orderly.own exchange member).answered_of_returned (returned exchange member),
        returned exchange member⟩
    have sequence := follows.sequence gone
    rw [← replies_eq_history orderly.own returned] at sequence
    exact sequence

def writeSyncRead : List BridgeEvent :=
  [.call ⟨.xWrite "paraql.db" [7] 0, 0⟩, .act .dispatch 0, .disturb (some 3), .act .advance 0,
    .act .advance 0, .act .advance 0, .act .advance 0, .act .advance 0, .act .advance 0,
    .act .answer 0, .act .wake 0, .call ⟨.xSync "paraql.db", 0⟩, .act .dispatch 1,
    .act .advance 1, .act .advance 1, .act .answer 1, .act .wake 1,
    .call ⟨.xRead "paraql.db" [0, 0] 0, 0⟩, .act .dispatch 2, .act .advance 2, .act .advance 2,
    .act .advance 2, .act .answer 2, .act .wake 2]

private theorem writeSyncRead_alone :
    Machine.Heeds sample.bridgeStep Rendezvous.OneAtATime (.opened fun _ _ => ∅)
      writeSyncRead := by
  refine Machine.heeds_cons rfl (fun exchange member => by cases member) ?_
  iterate 10 refine Machine.heeds_cons rfl trivial ?_
  refine Machine.heeds_cons rfl ?_ ?_
  · exact List.forall_mem_singleton.2 rfl
  iterate 5 refine Machine.heeds_cons rfl trivial ?_
  refine Machine.heeds_cons rfl ?_ ?_
  · exact List.forall_mem_cons.2 ⟨rfl, List.forall_mem_singleton.2 rfl⟩
  iterate 6 refine Machine.heeds_cons rfl trivial ?_
  exact trivial

private theorem writeSyncRead_ends :
    (Machine.run sample.bridgeStep (.opened fun _ _ => ∅) writeSyncRead).map
        (fun bridge => (bridge.exchanges.all Exchange.returned, Bridge.replies bridge)) =
      some (true, [(⟨.xWrite "paraql.db" [7] 0, 0⟩, ⟨0, .undefined, [7]⟩),
        (⟨.xSync "paraql.db", 0⟩, ⟨0, .undefined, []⟩),
        (⟨.xRead "paraql.db" [0, 0] 0, 0⟩, ⟨0, .undefined, [7, 0]⟩)]) := by
  decide +kernel

theorem bridge_refines_native_writeSyncRead :
    ∃ bridge, Machine.run sample.bridgeStep (.opened fun _ _ => ∅) writeSyncRead = some bridge ∧
      (Bridge.replies bridge)[2]? =
        some (⟨.xRead "paraql.db" [0, 0] 0, 0⟩, ⟨0, .undefined, [7, 0]⟩) ∧
      Sequence sample.bridge (.initial fun _ _ => ∅) (Bridge.replies bridge) bridge.shared := by
  obtain ⟨bridge, ran, ends⟩ := Option.map_eq_some_iff.1 writeSyncRead_ends
  obtain ⟨returned, replies⟩ := Prod.mk.inj ends
  refine ⟨bridge, ran, by rw [replies]; rfl, ?_⟩
  exact (bridge_refines_native sample (fun _ _ => ∅) writeSyncRead bridge ran
    writeSyncRead_alone).2 (List.all_eq_true.1 returned)

/-- However the loop and the workers take turns, they come to an end after finitely many
steps, and then every call has been answered and every worker has returned.  Every worker
that has returned took the post of some answer. -/
theorem bridge_never_stalls (vfs : ParaVFS) (stores : StoreRef → Store)
    (events : List BridgeEvent) (bridge : Bridge)
    (ran : Machine.run vfs.bridgeStep (.opened stores) events = some bridge) :
    bridge.permits + bridge.exchanges.countP Exchange.returned =
      bridge.exchanges.countP Exchange.answered ∧
    ((¬∃ next, vfs.BridgeGoesOn bridge next) → ∀ exchange ∈ bridge.exchanges,
      exchange.answered = true ∧ exchange.returned = true) ∧
    ¬∃ steps : Nat → Bridge, steps 0 = bridge ∧
      ∀ time, vfs.BridgeGoesOn (steps time) (steps (time + 1)) := by
  obtain ⟨accounted, answering⟩ := bridge_invariant ran
  refine ⟨accounted, fun stuck => Rendezvous.returned_of_stuck accounted answering stuck, ?_⟩
  rintro ⟨steps, _, goesOn⟩
  have ends := Rendezvous.wellFounded_internal vfs.bridge
  exact (wellFounded_iff_isEmpty_descending_chain.1 ends).false ⟨steps, goesOn⟩

theorem bridge_never_stalls_writing :
    ∃ bridge, Machine.run sample.bridgeStep (.opened fun _ _ => ∅) (writeSyncRead.take 5) =
        some bridge ∧ ¬∃ steps : Nat → Bridge, steps 0 = bridge ∧
          ∀ time, sample.BridgeGoesOn (steps time) (steps (time + 1)) :=
  ⟨_, rfl, (bridge_never_stalls sample (fun _ _ => ∅) (writeSyncRead.take 5) _ rfl).2.2⟩

/-- As long as every worker has returned with the answer to its own call, this stays so for
the calls that were made exactly when a worker without an answer is the only one that waits:
otherwise it may pass the semaphore on the post of another call, and return what its record
says before any callback. -/
theorem bridge_own_iff_lone (vfs : ParaVFS) (stores : StoreRef → Store)
    (events : List BridgeEvent) (bridge : Bridge)
    (ran : Machine.run vfs.bridgeStep (.opened stores) events = some bridge)
    (own : ∀ exchange ∈ bridge.exchanges, exchange.Own) :
    (∀ final, ReflTransGen vfs.BridgeGoesOn bridge final →
      ∀ exchange ∈ final.exchanges, exchange.Own) ↔ bridge.Lone := by
  obtain ⟨accounted, answering⟩ := bridge_invariant ran
  exact Rendezvous.own_iff_lone (fun native => vfs.native_resolves native.call) accounted
    answering own

/-- Two workers, one of which asks for the size and one of which reads. -/
theorem bridge_own_iff_lone_twoCalls :
    ∃ bridge, Machine.run sample.bridgeStep (.opened fun _ _ => ∅)
        [.call ⟨.xSize "paraql.db", 0⟩, .call ⟨.xRead "paraql.db" [0] 0, 0⟩] = some bridge ∧
      ¬∀ final, ReflTransGen sample.BridgeGoesOn bridge final →
        ∀ exchange ∈ final.exchanges, exchange.Own := by
  refine ⟨_, rfl, fun always => ?_⟩
  have lone := (bridge_own_iff_lone sample (fun _ _ => ∅)
    [.call ⟨.xSize "paraql.db", 0⟩, .call ⟨.xRead "paraql.db" [0] 0, 0⟩] _ rfl ?_).1 always
  · cases ((List.pairwise_cons.1 lone).1 _ (List.mem_singleton.2 rfl)).1 rfl
  · intro exchange member found isFound
    rcases List.mem_cons.1 member with rfl | later
    · cases isFound
    · rw [List.mem_singleton.1 later] at isFound
      cases isFound

end ParaVFS
end ParaQL
