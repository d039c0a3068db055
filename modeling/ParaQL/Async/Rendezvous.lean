/-
Callers that hand requests to an event loop and wait for the answers on one semaphore.

A caller puts its request into one of several bounded queues and waits.  The loop takes
the requests off the queues, serves each as a task and posts the semaphore when the task
has answered.  A post lets some caller go on, which need not be the one that the answer
is for.

The module knows no particular request, state or answer.
-/

import ParaQL.Async.Interference
import ParaQL.Async.Machine
import Mathlib.Data.List.Count
import Mathlib.Order.GameAdd

namespace Async

open Async.Task Relation

structure Service (ρ κ μ σ ε α : Type) where
  lane : ρ → κ
  capacity : Nat
  serve : ρ → Task σ ε α
  disturb : μ → σ → σ

inductive Stage (σ ε α : Type) where
  | queued
  | serving (task : Task σ ε α)
  | answered (answer : α)

def Stage.answer? {σ ε α : Type} : Stage σ ε α → Option α
  | .answered answer => some answer
  | _ => none

structure Exchange (ρ σ ε α : Type) where
  request : ρ
  stage : Stage σ ε α
  found : Option (Option α)

structure Rendezvous (ρ σ ε α : Type) where
  shared : σ
  exchanges : List (Exchange ρ σ ε α)
  permits : Nat

inductive ExchangeAction where
  | dispatch
  | advance
  | answer
  | wake
  deriving DecidableEq, Repr

inductive RendezvousEvent (ρ μ : Type) where
  | call (request : ρ)
  | act (action : ExchangeAction) (index : Nat)
  | disturb (move : μ)
  deriving DecidableEq, Repr

namespace Exchange

variable {ρ κ μ σ ε α : Type} (service : Service ρ κ μ σ ε α)

def act (exchange : Exchange ρ σ ε α) (shared : σ) (permits : Nat) :
    ExchangeAction → Option (Exchange ρ σ ε α × σ × Nat)
  | .dispatch =>
      match exchange.stage with
      | .queued =>
          some ({ exchange with stage := .serving (service.serve exchange.request) }, shared,
            permits)
      | _ => none
  | .advance =>
      match exchange.stage with
      | .serving (.step update next) =>
          some ({ exchange with stage := .serving (next shared) }, update shared, permits)
      | _ => none
  | .answer =>
      match exchange.stage with
      | .serving (.done (.ok answer)) =>
          some ({ exchange with stage := .answered answer }, shared, permits + 1)
      | _ => none
  | .wake =>
      match exchange.found, permits with
      | none, permits + 1 =>
          some ({ exchange with found := some exchange.stage.answer? }, shared, permits)
      | _, _ => none

def queued (exchange : Exchange ρ σ ε α) : Bool :=
  match exchange.stage with
  | .queued => true
  | _ => false

def answered (exchange : Exchange ρ σ ε α) : Bool := exchange.stage.answer?.isSome

def returned (exchange : Exchange ρ σ ε α) : Bool := exchange.found.isSome

def Own (exchange : Exchange ρ σ ε α) : Prop :=
  ∀ found, exchange.found = some found → ∃ answer, exchange.stage = .answered answer ∧
    found = some answer

end Exchange

namespace Rendezvous

variable {ρ κ μ σ ε α : Type} [DecidableEq κ] (service : Service ρ κ μ σ ε α)

def initial (shared : σ) : Rendezvous ρ σ ε α :=
  { shared := shared, exchanges := [], permits := 0 }

def waiting (exchanges : List (Exchange ρ σ ε α)) (lane : κ) : Nat :=
  exchanges.countP fun exchange => exchange.queued && decide (service.lane exchange.request = lane)

def act (state : Rendezvous ρ σ ε α) (action : ExchangeAction) (index : Nat) :
    Option (Rendezvous ρ σ ε α) := do
  let exchange ← state.exchanges[index]?
  if action = .dispatch ∧
      waiting service (state.exchanges.take index) (service.lane exchange.request) ≠ 0 then none
  else
    let (after, shared, permits) ← exchange.act service state.shared state.permits action
    some { shared := shared, exchanges := state.exchanges.set index after, permits := permits }

def step (state : Rendezvous ρ σ ε α) : RendezvousEvent ρ μ → Option (Rendezvous ρ σ ε α)
  | .call request =>
      -- A caller of a full queue stays blocked before the call.
      if waiting service state.exchanges (service.lane request) < service.capacity then
        some { state with exchanges := state.exchanges ++ [⟨request, .queued, none⟩] }
      else none
  | .act action index => state.act service action index
  | .disturb move => some { state with shared := service.disturb move state.shared }

def Internal (after before : Rendezvous ρ σ ε α) : Prop :=
  ∃ action index, before.act service action index = some after

end Rendezvous

/-! ### One exchange -/

namespace Exchange

variable {ρ κ μ σ ε α : Type} {service : Service ρ κ μ σ ε α}

inductive Acts (service : Service ρ κ μ σ ε α) :
    Exchange ρ σ ε α → σ → Nat → ExchangeAction → Exchange ρ σ ε α → σ → Nat → Prop where
  | dispatch (request : ρ) (found : Option (Option α)) (shared : σ) (permits : Nat) :
      Acts service ⟨request, .queued, found⟩ shared permits .dispatch
        ⟨request, .serving (service.serve request), found⟩ shared permits
  | advance (request : ρ) (update : σ → σ) (next : σ → Task σ ε α) (found : Option (Option α))
      (shared : σ) (permits : Nat) :
      Acts service ⟨request, .serving (.step update next), found⟩ shared permits .advance
        ⟨request, .serving (next shared), found⟩ (update shared) permits
  | answer (request : ρ) (answer : α) (found : Option (Option α)) (shared : σ) (permits : Nat) :
      Acts service ⟨request, .serving (.done (.ok answer)), found⟩ shared permits .answer
        ⟨request, .answered answer, found⟩ shared (permits + 1)
  | wake (request : ρ) (stage : Stage σ ε α) (shared : σ) (permits : Nat) :
      Acts service ⟨request, stage, none⟩ shared (permits + 1) .wake
        ⟨request, stage, some stage.answer?⟩ shared permits

theorem acts_of_act {exchange after : Exchange ρ σ ε α} {shared other : σ} {permits left : Nat}
    {action : ExchangeAction}
    (acted : exchange.act service shared permits action = some (after, other, left)) :
    Acts service exchange shared permits action after other left := by
  obtain ⟨request, stage, found⟩ := exchange
  cases action with
  | dispatch =>
      simp only [act] at acted
      split at acted
      · cases acted
        exact .dispatch _ _ _ _
      · cases acted
  | advance =>
      simp only [act] at acted
      split at acted
      · cases acted
        exact .advance _ _ _ _ _ _
      · cases acted
  | answer =>
      simp only [act] at acted
      split at acted
      · cases acted
        exact .answer _ _ _ _ _
      · cases acted
  | wake =>
      simp only [act] at acted
      split at acted
      · cases acted
        exact .wake _ _ _ _
      · cases acted

theorem Acts.balance {exchange after : Exchange ρ σ ε α} {shared other : σ} {permits left : Nat}
    {action : ExchangeAction} (acts : Acts service exchange shared permits action after other left) :
    permits + [exchange].countP returned + [after].countP answered =
      left + [after].countP returned + [exchange].countP answered := by
  cases acts with
  | dispatch request found => rfl
  | advance request update next found => rfl
  | answer request answer found => cases found <;> rfl
  | wake request stage => cases stage <;> rfl

theorem Acts.resolves {exchange after : Exchange ρ σ ε α} {shared other : σ} {permits left : Nat}
    {action : ExchangeAction} (acts : Acts service exchange shared permits action after other left)
    (serves : ∀ request, Resolves (service.serve request))
    (answering : ∀ task, exchange.stage = .serving task → Resolves task) :
    ∀ task, after.stage = .serving task → Resolves task := by
  intro task same
  cases acts with
  | dispatch request found =>
      cases same
      exact serves request
  | advance request update next found =>
      cases same
      cases answering _ rfl with
      | step rest => exact rest shared
  | answer request answer found => cases same
  | wake request stage => exact answering task same

/-- What the loop does is not seen by the caller before it goes on. -/
theorem Acts.unmoved {exchange after : Exchange ρ σ ε α} {shared other : σ} {permits left : Nat}
    {action : ExchangeAction} (acts : Acts service exchange shared permits action after other left)
    (asleep : action ≠ .wake) : after.found = exchange.found ∧
      (action ≠ .answer → after.answered = exchange.answered) := by
  cases acts with
  | dispatch request found => exact ⟨rfl, fun _ => rfl⟩
  | advance request update next found => exact ⟨rfl, fun _ => rfl⟩
  | answer request answer found => exact ⟨rfl, fun other => absurd rfl other⟩
  | wake request stage => exact absurd rfl asleep

theorem Acts.permitted {exchange after : Exchange ρ σ ε α} {shared other : σ} {permits left : Nat}
    {action : ExchangeAction} (acts : Acts service exchange shared permits action after other left)
    (wakes : action = .wake) : permits ≠ 0 := by
  cases acts with
  | wake request stage => exact Nat.succ_ne_zero _
  | _ => cases wakes

theorem Own.acts {exchange after : Exchange ρ σ ε α} {shared other : σ} {permits left : Nat}
    {action : ExchangeAction} (own : exchange.Own)
    (acts : Acts service exchange shared permits action after other left)
    (wakes : action = .wake → exchange.answered = true) : after.Own := by
  cases acts with
  | dispatch request found =>
      intro answer same
      obtain ⟨_, impossible, _⟩ := own answer same
      cases impossible
  | advance request update next found =>
      intro answer same
      obtain ⟨_, impossible, _⟩ := own answer same
      cases impossible
  | answer request answer found =>
      intro other same
      obtain ⟨_, impossible, _⟩ := own other same
      cases impossible
  | wake request stage =>
      intro found same
      cases same
      cases stage with
      | queued => cases wakes rfl
      | serving task => cases wakes rfl
      | answered answer => exact ⟨answer, rfl, rfl⟩

theorem Own.answered_of_returned {exchange : Exchange ρ σ ε α} (own : exchange.Own)
    (returned : exchange.returned = true) : exchange.answered = true := by
  obtain ⟨request, stage, found⟩ := exchange
  cases found with
  | none => cases returned
  | some found =>
      obtain ⟨answer, rfl, _⟩ := own found rfl
      rfl

end Exchange

namespace Rendezvous

variable {ρ κ μ σ ε α : Type} [DecidableEq κ] {service : Service ρ κ μ σ ε α}
  {state next : Rendezvous ρ σ ε α}

theorem act_set {action : ExchangeAction} {index : Nat}
    (acted : state.act service action index = some next) :
    ∃ exchange after, state.exchanges[index]? = some exchange ∧
      next.exchanges = state.exchanges.set index after ∧
      Exchange.Acts service exchange state.shared state.permits action after next.shared
        next.permits := by
  unfold act at acted
  obtain ⟨exchange, found, rest⟩ := Option.bind_eq_some_iff.1 acted
  split at rest
  · cases rest
  obtain ⟨⟨after, shared, permits⟩, acts, same⟩ := Option.bind_eq_some_iff.1 rest
  cases same
  exact ⟨exchange, after, found, rfl, Exchange.acts_of_act acts⟩

/-- What an action does, seen from the list of exchanges. -/
theorem act_cases {action : ExchangeAction} {index : Nat}
    (acted : state.act service action index = some next) :
    ∃ earlier exchange later after, state.exchanges = earlier ++ exchange :: later ∧
      next.exchanges = earlier ++ after :: later ∧
      Exchange.Acts service exchange state.shared state.permits action after next.shared
        next.permits := by
  obtain ⟨exchange, after, found, changed, acts⟩ := act_set acted
  obtain ⟨within, rfl⟩ := List.getElem?_eq_some_iff.1 found
  refine ⟨state.exchanges.take index, _, state.exchanges.drop (index + 1), after, ?_, ?_, acts⟩
  · rw [List.cons_getElem_drop_succ, List.take_append_drop]
  · rw [changed]
    exact List.set_eq_take_append_cons_drop.trans (if_pos within)

theorem act_of_exchange {earlier later : List (Exchange ρ σ ε α)}
    {exchange after : Exchange ρ σ ε α} {action : ExchangeAction} {shared : σ} {permits : Nat}
    (split : state.exchanges = earlier ++ exchange :: later)
    (first : action = .dispatch → waiting service earlier (service.lane exchange.request) = 0)
    (acts : exchange.act service state.shared state.permits action =
      some (after, shared, permits)) :
    state.act service action earlier.length =
      some { shared := shared, exchanges := earlier ++ after :: later, permits := permits } := by
  unfold act
  have here : state.exchanges[earlier.length]? = some exchange := by
    rw [split, List.getElem?_append_right le_rfl, Nat.sub_self]
    rfl
  have before : state.exchanges.take earlier.length = earlier := by
    rw [split, List.take_left]
  have replaced : state.exchanges.set earlier.length after = earlier ++ after :: later := by
    rw [split, List.set_append_right _ _ le_rfl, Nat.sub_self]
    rfl
  rw [here, Option.bind_eq_bind, Option.bind_some, before,
    if_neg fun blocked => blocked.2 (first blocked.1), acts, Option.bind_eq_bind,
    Option.bind_some]
  exact congrArg (fun exchanges => some (Rendezvous.mk shared exchanges permits)) replaced

def Accounted (state : Rendezvous ρ σ ε α) : Prop :=
  state.permits + state.exchanges.countP Exchange.returned =
    state.exchanges.countP Exchange.answered

theorem accounted_initial (shared : σ) :
    (initial shared : Rendezvous ρ σ ε α).Accounted := rfl

theorem Accounted.act (accounted : state.Accounted) {action : ExchangeAction} {index : Nat}
    (acted : state.act service action index = some next) : next.Accounted := by
  obtain ⟨earlier, exchange, later, after, before, changed, acts⟩ := act_cases acted
  have balance := acts.balance
  unfold Accounted at accounted ⊢
  rw [before, ← List.singleton_append, List.countP_append, List.countP_append,
    List.countP_append, List.countP_append] at accounted
  rw [changed, ← List.singleton_append, List.countP_append, List.countP_append,
    List.countP_append, List.countP_append]
  omega

theorem Accounted.step (accounted : state.Accounted) {event : RendezvousEvent ρ μ}
    (stepped : state.step service event = some next) : next.Accounted := by
  cases event with
  | call request =>
      unfold Rendezvous.step at stepped
      simp only at stepped
      split at stepped
      · cases stepped
        unfold Accounted at accounted ⊢
        simp only [List.countP_append]
        exact accounted
      · cases stepped
  | act action index => exact accounted.act stepped
  | disturb move =>
      cases stepped
      exact accounted

def Answering (state : Rendezvous ρ σ ε α) : Prop :=
  ∀ exchange ∈ state.exchanges, ∀ task, exchange.stage = .serving task → Resolves task

theorem Answering.act (serves : ∀ request, Resolves (service.serve request))
    (answering : state.Answering) {action : ExchangeAction} {index : Nat}
    (acted : state.act service action index = some next) : next.Answering := by
  obtain ⟨earlier, exchange, later, after, before, changed, acts⟩ := act_cases acted
  have kept := acts.resolves serves
    (answering exchange (before ▸ List.mem_append_right _ List.mem_cons_self))
  intro other member
  rw [changed] at member
  rcases List.mem_append.1 member with early | late
  · exact answering other (before ▸ List.mem_append_left _ early)
  · rcases List.mem_cons.1 late with rfl | rest
    · exact kept
    · exact answering other (before ▸ List.mem_append_right _ (List.mem_cons_of_mem _ rest))

theorem Answering.step (serves : ∀ request, Resolves (service.serve request))
    (answering : state.Answering) {event : RendezvousEvent ρ μ}
    (stepped : state.step service event = some next) : next.Answering := by
  cases event with
  | call request =>
      unfold Rendezvous.step at stepped
      simp only at stepped
      split at stepped
      · cases stepped
        intro exchange member task same
        rcases List.mem_append.1 member with earlier | last
        · exact answering exchange earlier task same
        · rw [List.mem_singleton.1 last] at same
          cases same
      · cases stepped
  | act action index => exact answering.act serves stepped
  | disturb move =>
      cases stepped
      exact answering

theorem waiting_eq_zero {exchanges : List (Exchange ρ σ ε α)}
    (none_queued : ∀ exchange ∈ exchanges, exchange.queued = false) (lane : κ) :
    waiting service exchanges lane = 0 :=
  List.countP_eq_zero.2 fun exchange member => by simp [none_queued exchange member]

variable (service) in
/-- While some request is not answered, the loop can go on. -/
theorem loop_can_go_on (answering : state.Answering) {earlier later : List (Exchange ρ σ ε α)}
    {exchange : Exchange ρ σ ε α} (split : state.exchanges = earlier ++ exchange :: later)
    (unanswered : exchange.answered = false) :
    ∃ action index next, state.act service action index = some next ∧ action ≠ .wake ∧
      (action = .answer → index = earlier.length) := by
  have member : exchange ∈ state.exchanges := split ▸ List.mem_append_right _ List.mem_cons_self
  obtain ⟨request, stage, found⟩ := exchange
  cases stage with
  | queued =>
      -- The first request of all that wait is the first one of its queue.
      have some_queued : (state.exchanges.find? Exchange.queued).isSome = true :=
        List.find?_isSome.2 ⟨_, member, rfl⟩
      obtain ⟨first, isFirst⟩ := Option.isSome_iff_exists.1 some_queued
      obtain ⟨isQueued, front, back, split, before⟩ := List.find?_eq_some_iff_append.1 isFirst
      obtain ⟨other, stage, found⟩ := first
      cases stage with
      | queued =>
          have free : waiting service front (service.lane other) = 0 :=
            waiting_eq_zero (fun exchange early => by simpa using before exchange early) _
          exact ⟨.dispatch, front.length, _, act_of_exchange split (fun _ => free) rfl,
            ExchangeAction.noConfusion, ExchangeAction.noConfusion⟩
      | serving task => cases isQueued
      | answered answer => cases isQueued
  | serving task =>
      cases answering _ member task rfl with
      | step rest =>
          exact ⟨.advance, earlier.length, _, act_of_exchange split ExchangeAction.noConfusion rfl,
            ExchangeAction.noConfusion, ExchangeAction.noConfusion⟩
      | done answer =>
          exact ⟨.answer, earlier.length, _, act_of_exchange split ExchangeAction.noConfusion rfl,
            ExchangeAction.noConfusion, fun _ => rfl⟩
  | answered answer => cases unanswered

variable (service) in
/-- A caller that waits can take a permit. -/
theorem act_wake {earlier later : List (Exchange ρ σ ε α)} {request : ρ} {stage : Stage σ ε α}
    (split : state.exchanges = earlier ++ ⟨request, stage, none⟩ :: later)
    (permitted : state.permits ≠ 0) :
    ∃ next, state.act service .wake earlier.length = some next ∧
      next.exchanges = earlier ++ ⟨request, stage, some stage.answer?⟩ :: later := by
  obtain ⟨permits, isSucc⟩ := Nat.exists_eq_succ_of_ne_zero permitted
  refine ⟨{ state with permits := permits, exchanges := _ },
    act_of_exchange split ExchangeAction.noConfusion ?_, rfl⟩
  simp only [Exchange.act, isSucc]

/-- When nothing can go on, every caller has gone on. -/
theorem returned_of_stuck (accounted : state.Accounted) (answering : state.Answering)
    (stuck : ¬∃ next, Internal service next state) :
    ∀ exchange ∈ state.exchanges, exchange.answered = true ∧ exchange.returned = true := by
  have answered : ∀ exchange ∈ state.exchanges, exchange.answered = true := by
    intro exchange member
    obtain ⟨earlier, later, split⟩ := List.append_of_mem member
    by_contra unanswered
    obtain ⟨action, index, next, acted, _⟩ :=
      loop_can_go_on service answering split (eq_false_of_ne_true unanswered)
    exact stuck ⟨next, action, index, acted⟩
  intro exchange member
  refine ⟨answered exchange member, ?_⟩
  by_contra waits
  -- All have answered and one caller has not gone on, so that a permit is left for it.
  have left : state.permits ≠ 0 := by
    have all := List.countP_eq_length.2 answered
    have fewer : state.exchanges.countP Exchange.returned < state.exchanges.length :=
      lt_of_le_of_ne List.countP_le_length
        fun same => waits (List.countP_eq_length.1 same exchange member)
    unfold Accounted at accounted
    omega
  obtain ⟨earlier, later, split⟩ := List.append_of_mem member
  obtain ⟨request, stage, found⟩ := exchange
  cases found with
  | some found => exact waits rfl
  | none =>
      obtain ⟨next, acted, _⟩ := act_wake service split left
      exact stuck ⟨next, .wake, earlier.length, acted⟩

end Rendezvous

section Termination

variable {ι ρ κ μ σ ε α : Type}

def Somewhere (later : ι → ι → Prop) (after before : List ι) : Prop :=
  ∃ earlier item rest moved, before = earlier ++ item :: rest ∧ after = earlier ++ moved :: rest ∧
    later moved item

theorem wellFounded_somewhere {later : ι → ι → Prop} (ends : WellFounded later) :
    WellFounded (Somewhere later) := by
  refine ⟨fun items => ?_⟩
  induction items with
  | nil =>
      refine ⟨_, fun after moved => ?_⟩
      obtain ⟨earlier, item, rest, _, impossible, _⟩ := moved
      exact absurd impossible.symm (List.append_ne_nil_of_right_ne_nil _ (List.cons_ne_nil _ _))
  | cons first items ih =>
      have pairs : ∀ pair : ι × List ι, Acc (Prod.GameAdd later (Somewhere later)) pair →
          Acc (Somewhere later) (pair.1 :: pair.2) := by
        intro pair accessible
        induction accessible with
        | intro pair _ rest =>
            refine ⟨_, fun after moved => ?_⟩
            obtain ⟨earlier, item, others, changed, before, rfl, goesOn⟩ := moved
            cases earlier with
            | nil =>
                obtain ⟨rfl, rfl⟩ := List.cons_eq_cons.1 before
                exact rest (changed, pair.2) (.fst goesOn)
            | cons head earlier =>
                obtain ⟨rfl, split⟩ := List.cons_eq_cons.1 before
                exact rest (pair.1, earlier ++ changed :: others)
                  (.snd ⟨earlier, item, others, changed, split, rfl, goesOn⟩)
      exact pairs (first, items) (Acc.prod_gameAdd (ends.apply first) ih)

/-- Where a relation ends, something is reached that cannot go on. -/
theorem exists_stuck {later : ι → ι → Prop} (ends : WellFounded later) (item : ι) :
    ∃ final, ReflTransGen (fun before after => later after before) item final ∧
      ¬∃ next, later next final := by
  induction item using ends.induction with
  | h item ih =>
      by_cases goesOn : ∃ next, later next item
      · obtain ⟨next, step⟩ := goesOn
        obtain ⟨final, steps, stuck⟩ := ih next step
        exact ⟨final, .head step steps, stuck⟩
      · exact ⟨item, .refl, goesOn⟩

inductive Stage.Later : Stage σ ε α → Stage σ ε α → Prop where
  | dispatched (task : Task σ ε α) : Later (.serving task) .queued
  | advanced (update : σ → σ) (next : σ → Task σ ε α) (shared : σ) :
      Later (.serving (next shared)) (.serving (.step update next))
  | answered (answer : α) : Later (.answered answer) (.serving (.done (.ok answer)))

theorem Stage.wellFounded_later : WellFounded (Stage.Later : Stage σ ε α → _ → Prop) := by
  have answered (answer : α) : Acc Later (.answered answer : Stage σ ε α) := by
    refine ⟨_, fun stage later => ?_⟩
    cases later
  have serving (task : Task σ ε α) : Acc Later (.serving task : Stage σ ε α) := by
    induction task with
    | done result =>
        refine ⟨_, fun stage later => ?_⟩
        cases later with
        | answered answer => exact answered answer
    | step update next ih =>
        refine ⟨_, fun stage later => ?_⟩
        cases later with
        | advanced update next shared => exact ih shared
  refine ⟨fun stage => ?_⟩
  cases stage with
  | queued =>
      refine ⟨_, fun stage later => ?_⟩
      cases later with
      | dispatched task => exact serving task
  | serving task => exact serving task
  | answered answer => exact answered answer

def Exchange.Later : Exchange ρ σ ε α → Exchange ρ σ ε α → Prop :=
  InvImage (Prod.GameAdd Stage.Later Nat.lt) fun exchange =>
    (exchange.stage, bif exchange.returned then 0 else 1)

theorem Exchange.Acts.later {service : Service ρ κ μ σ ε α} {exchange after : Exchange ρ σ ε α}
    {shared other : σ} {permits left : Nat} {action : ExchangeAction}
    (acts : Acts service exchange shared permits action after other left) :
    after.Later exchange := by
  cases acts with
  | dispatch request found => exact .fst (.dispatched _)
  | advance request update next found => exact .fst (.advanced _ _ _)
  | answer request answer found => exact .fst (.answered _)
  | wake request stage => exact .snd Nat.zero_lt_one

variable [DecidableEq κ]

/-- However the loop and the callers take turns, they come to an end. -/
theorem Rendezvous.wellFounded_internal (service : Service ρ κ μ σ ε α) :
    WellFounded (Rendezvous.Internal service) := by
  have exchanges : WellFounded (Somewhere (Exchange.Later (ρ := ρ) (σ := σ) (ε := ε) (α := α))) :=
    wellFounded_somewhere (InvImage.wf _
      (Stage.wellFounded_later.prod_gameAdd Nat.lt_wfRel.wf))
  refine Subrelation.wf (fun {after before} step => ?_) (InvImage.wf Rendezvous.exchanges exchanges)
  obtain ⟨action, index, acted⟩ := step
  obtain ⟨earlier, exchange, later, moved, split, changed, acts⟩ := Rendezvous.act_cases acted
  exact ⟨earlier, exchange, later, moved, split, changed, acts.later⟩

end Termination

namespace Rendezvous

variable {ρ κ μ σ ε α : Type} [DecidableEq κ] {service : Service ρ κ μ σ ε α}
  {state next : Rendezvous ρ σ ε α}

def Apart (first second : Exchange ρ σ ε α) : Prop :=
  (first.answered = false → second.returned = true) ∧
    (second.answered = false → first.returned = true)

def Lone (state : Rendezvous ρ σ ε α) : Prop := state.exchanges.Pairwise Apart

structure Orderly (state : Rendezvous ρ σ ε α) : Prop where
  accounted : state.Accounted
  own : ∀ exchange ∈ state.exchanges, exchange.Own
  lone : state.Lone

theorem orderly_initial (shared : σ) : (initial shared : Rendezvous ρ σ ε α).Orderly := by
  refine ⟨accounted_initial shared, fun exchange member => ?_, .nil⟩
  cases member

def OneAtATime (state : Rendezvous ρ σ ε α) : RendezvousEvent ρ μ → Prop
  | .call _ => ∀ exchange ∈ state.exchanges, exchange.returned = true
  | _ => True

/-- All others have gone on with their answers, so that no permit is left for a caller
without one. -/
theorem Orderly.no_permit (orderly : state.Orderly) {earlier later : List (Exchange ρ σ ε α)}
    {exchange : Exchange ρ σ ε α} (split : state.exchanges = earlier ++ exchange :: later)
    (unanswered : exchange.answered = false) : state.permits = 0 := by
  obtain ⟨accounted, own, lone⟩ := orderly
  unfold Lone at lone
  unfold Accounted at accounted
  rw [split] at own lone accounted
  obtain ⟨_, after, across⟩ := List.pairwise_append.1 lone
  have gone : ∀ other ∈ earlier ++ later, other.returned = true := by
    intro other member
    rcases List.mem_append.1 member with early | late
    · exact (across other early exchange List.mem_cons_self).2 unanswered
    · exact ((List.pairwise_cons.1 after).1 other late).1 unanswered
  have answered : ∀ other ∈ earlier ++ later, other.answered = true := by
    intro other member
    refine (own other ?_).answered_of_returned (gone other member)
    rcases List.mem_append.1 member with early | late
    · exact List.mem_append_left _ early
    · exact List.mem_append_right _ (List.mem_cons_of_mem _ late)
  have notReturned : exchange.returned = false := by
    by_contra returned
    have found := (own exchange (List.mem_append_right _ List.mem_cons_self)).answered_of_returned
      (eq_true_of_ne_false returned)
    rw [unanswered] at found
    cases found
  have allGone := List.countP_eq_length.2 gone
  have allAnswered := List.countP_eq_length.2 answered
  simp only [List.countP_append, List.countP_cons, unanswered, notReturned, Bool.false_eq_true,
    if_false] at accounted allGone allAnswered
  omega

theorem Apart.symm {first second : Exchange ρ σ ε α} (apart : Apart first second) :
    Apart second first :=
  ⟨apart.2, apart.1⟩

omit [DecidableEq κ] in
/-- An exchange that has gone on is no less apart from the others. -/
theorem Apart.acts {other exchange after : Exchange ρ σ ε α} (apart : Apart other exchange)
    {shared result : σ} {permits left : Nat} {action : ExchangeAction}
    (acts : Exchange.Acts service exchange shared permits action after result left) :
    Apart other after := by
  cases acts with
  | dispatch request found => exact apart
  | advance request update following found => exact apart
  | answer request answer found => exact ⟨apart.1, fun unanswered => by cases unanswered⟩
  | wake request stage => exact ⟨fun _ => rfl, apart.2⟩

theorem Orderly.act (orderly : state.Orderly) {action : ExchangeAction} {index : Nat}
    (acted : state.act service action index = some next) : next.Orderly := by
  obtain ⟨earlier, exchange, later, after, split, changed, acts⟩ := act_cases acted
  have wakes : action = .wake → exchange.answered = true := by
    intro isWake
    by_contra unanswered
    exact acts.permitted isWake (orderly.no_permit split (eq_false_of_ne_true unanswered))
  have own := orderly.own
  have lone := orderly.lone
  unfold Lone at lone
  rw [split] at own lone
  refine ⟨orderly.accounted.act acted, fun other member => ?_, ?_⟩
  · rw [changed] at member
    rcases List.mem_append.1 member with early | late
    · exact own other (List.mem_append_left _ early)
    · rcases List.mem_cons.1 late with rfl | rest
      · exact (own exchange (List.mem_append_right _ List.mem_cons_self)).acts acts wakes
      · exact own other (List.mem_append_right _ (List.mem_cons_of_mem _ rest))
  · obtain ⟨before, behind, across⟩ := List.pairwise_append.1 lone
    obtain ⟨fromHere, rest⟩ := List.pairwise_cons.1 behind
    unfold Lone
    rw [changed]
    refine List.pairwise_append.2 ⟨before, List.pairwise_cons.2 ⟨fun other late => ?_, rest⟩,
      fun other early item late => ?_⟩
    · exact ((fromHere other late).symm.acts acts).symm
    · rcases List.mem_cons.1 late with rfl | beyond
      · exact (across other early exchange List.mem_cons_self).acts acts
      · exact across other early item (List.mem_cons_of_mem _ beyond)

theorem Orderly.step (orderly : state.Orderly) {event : RendezvousEvent ρ μ}
    (alone : OneAtATime state event) (stepped : state.step service event = some next) :
    next.Orderly := by
  cases event with
  | call request =>
      have accounted := orderly.accounted.step stepped
      unfold Rendezvous.step at stepped
      simp only at stepped
      split at stepped
      · cases stepped
        refine ⟨accounted, fun exchange member => ?_, List.pairwise_append.2
          ⟨orderly.lone, List.pairwise_singleton _ _, fun other early item last => ?_⟩⟩
        · rcases List.mem_append.1 member with earlier | last
          · exact orderly.own exchange earlier
          · rw [List.mem_singleton.1 last]
            intro found impossible
            cases impossible
        · have gone := alone other early
          refine ⟨fun unanswered => ?_, fun _ => gone⟩
          have answered := (orderly.own other early).answered_of_returned gone
          rw [unanswered] at answered
          cases answered
      · cases stepped
  | act action index => exact orderly.act stepped
  | disturb move =>
      cases stepped
      exact ⟨orderly.accounted, orderly.own, orderly.lone⟩

/-! ### Callers that do -/

def Toward (service : Service ρ κ μ σ ε α) (position : Nat) (after before : Rendezvous ρ σ ε α) :
    Prop :=
  ∃ action index, before.act service action index = some after ∧ action ≠ .wake ∧
    (action = .answer → index = position)

theorem Toward.internal {position : Nat} (toward : Toward service position next state) :
    Internal service next state :=
  toward.imp fun _ known => known.imp fun _ acted => acted.1

structure Unmoved (position : Nat) (before after : Rendezvous ρ σ ε α) : Prop where
  length : after.exchanges.length = before.exchanges.length
  found : ∀ index : Nat, (after.exchanges[index]?).map Exchange.found =
    (before.exchanges[index]?).map Exchange.found
  answered : ∀ index : Nat, index ≠ position →
    (after.exchanges[index]?).map Exchange.answered =
      (before.exchanges[index]?).map Exchange.answered

theorem Toward.unmoved {position : Nat} (toward : Toward service position next state) :
    Unmoved position state next := by
  obtain ⟨action, index, acted, asleep, only⟩ := toward
  obtain ⟨exchange, after, found, changed, acts⟩ := act_set acted
  have within := (List.getElem?_eq_some_iff.1 found).1
  have same := acts.unmoved asleep
  refine ⟨?_, fun other => ?_, fun other elsewhere => ?_⟩
  · rw [changed, List.length_set]
  · rw [changed]
    by_cases here : other = index
    · subst here
      rw [List.getElem?_set_self within, found]
      exact congrArg some same.1
    · rw [List.getElem?_set_ne (Ne.symm here)]
  · rw [changed]
    by_cases here : other = index
    · subst here
      rw [List.getElem?_set_self within, found]
      exact congrArg some (same.2 fun isAnswer => elsewhere (only isAnswer))
    · rw [List.getElem?_set_ne (Ne.symm here)]

theorem Unmoved.trans {position : Nat} {before middle after : Rendezvous ρ σ ε α}
    (first : Unmoved position before middle) (second : Unmoved position middle after) :
    Unmoved position before after :=
  ⟨second.length.trans first.length, fun index => (second.found index).trans (first.found index),
    fun index elsewhere => (second.answered index elsewhere).trans (first.answered index elsewhere)⟩

theorem unmoved_of_steps (serves : ∀ request, Resolves (service.serve request)) {position : Nat}
    {before after : Rendezvous ρ σ ε α} (accounted : before.Accounted)
    (answering : before.Answering)
    (steps : ReflTransGen (fun state next => Toward service position next state) before after) :
    Unmoved position before after ∧ after.Accounted ∧ after.Answering ∧
      ReflTransGen (fun state next => Internal service next state) before after := by
  induction steps with
  | refl => exact ⟨⟨rfl, fun _ => rfl, fun _ _ => rfl⟩, accounted, answering, .refl⟩
  | tail _ toward ih =>
      obtain ⟨unmoved, accounted, answering, internal⟩ := ih
      obtain ⟨action, index, acted, _⟩ := id toward
      exact ⟨unmoved.trans toward.unmoved, accounted.act acted, answering.act serves acted,
        internal.tail toward.internal⟩

/-- The loop can be driven until one request is answered, and no other one. -/
theorem exists_answered (serves : ∀ request, Resolves (service.serve request))
    (accounted : state.Accounted) (answering : state.Answering) {position : Nat}
    {exchange : Exchange ρ σ ε α} (found : state.exchanges[position]? = some exchange) :
    ∃ final, ReflTransGen (fun before after => Internal service after before) state final ∧
      Unmoved position state final ∧ final.Accounted ∧
      ∃ answered, final.exchanges[position]? = some answered ∧ answered.answered = true := by
  have ends : WellFounded (Toward service position) :=
    Subrelation.wf Toward.internal (wellFounded_internal service)
  obtain ⟨final, steps, stuck⟩ := exists_stuck ends state
  obtain ⟨unmoved, accounted, answering, internal⟩ :=
    unmoved_of_steps serves accounted answering steps
  have within : position < final.exchanges.length :=
    unmoved.length ▸ (List.getElem?_eq_some_iff.1 found).1
  refine ⟨final, internal, unmoved, accounted, _, List.getElem?_eq_getElem within, ?_⟩
  by_contra unanswered
  have split : final.exchanges = final.exchanges.take position ++
      final.exchanges[position] :: final.exchanges.drop (position + 1) := by
    rw [List.cons_getElem_drop_succ, List.take_append_drop]
  obtain ⟨action, index, next, acted, asleep, only⟩ :=
    loop_can_go_on service answering split (eq_false_of_ne_true unanswered)
  rw [List.length_take_of_le within.le] at only
  exact stuck ⟨next, action, index, acted, asleep, only⟩

/-- Two callers wait, one of them without an answer: it may be the one to go on. -/
theorem exists_not_own (serves : ∀ request, Resolves (service.serve request))
    (accounted : state.Accounted) (answering : state.Answering)
    (own : ∀ exchange ∈ state.exchanges, exchange.Own) {position other : Nat}
    (different : other ≠ position) {exchange waiter : Exchange ρ σ ε α}
    (found : state.exchanges[position]? = some exchange) (waits : exchange.returned = false)
    (foundOther : state.exchanges[other]? = some waiter) (unanswered : waiter.answered = false) :
    ∃ final, ReflTransGen (fun before after => Internal service after before) state final ∧
      ∃ exchange ∈ final.exchanges, ¬exchange.Own := by
  obtain ⟨middle, steps, unmoved, counted, answered, here, isAnswered⟩ :=
    exists_answered serves accounted answering found
  have stillWaits : answered.returned = false := by
    have same := unmoved.found position
    rw [here, found] at same
    exact (congrArg Option.isSome (Option.some.inj same)).trans waits
  -- Every caller that has gone on was answered, and one more request was.
  have permitted : middle.permits ≠ 0 := by
    have fewer : middle.exchanges.countP Exchange.returned <
        middle.exchanges.countP Exchange.answered := by
      obtain ⟨within, isHere⟩ := List.getElem?_eq_some_iff.1 here
      have implies : ∀ item ∈ middle.exchanges, item.returned = true → item.answered = true := by
        intro item member returned
        obtain ⟨index, inRange, rfl⟩ := List.getElem_of_mem member
        by_cases isPosition : index = position
        · subst isPosition
          rw [isHere]
          exact isAnswered
        · have sameFound := unmoved.found index
          have sameAnswered := unmoved.answered index isPosition
          have before : index < state.exchanges.length := unmoved.length ▸ inRange
          rw [List.getElem?_eq_getElem inRange, List.getElem?_eq_getElem before] at sameFound
          rw [List.getElem?_eq_getElem inRange, List.getElem?_eq_getElem before] at sameAnswered
          refine (Option.some.inj sameAnswered).trans
            ((own _ (List.getElem_mem before)).answered_of_returned ?_)
          exact (congrArg Option.isSome (Option.some.inj sameFound)).symm.trans returned
      rw [← List.take_append_drop position middle.exchanges,
        ← List.cons_getElem_drop_succ (h := within), isHere]
      have early := List.countP_mono_left (p := Exchange.returned) (q := Exchange.answered)
        (l := middle.exchanges.take position) fun item member =>
          implies item (List.mem_of_mem_take member)
      have late := List.countP_mono_left (p := Exchange.returned) (q := Exchange.answered)
        (l := middle.exchanges.drop (position + 1)) fun item member =>
          implies item (List.mem_of_mem_drop member)
      simp only [List.countP_append, List.countP_cons, isAnswered, stillWaits, if_true,
        Bool.false_eq_true, if_false]
      omega
    unfold Accounted at counted
    omega
  have sameOther := unmoved.answered other different
  have sameFound := unmoved.found other
  have inRange : other < middle.exchanges.length :=
    unmoved.length ▸ (List.getElem?_eq_some_iff.1 foundOther).1
  rw [List.getElem?_eq_getElem inRange, foundOther] at sameOther sameFound
  have split : middle.exchanges = middle.exchanges.take other ++
      middle.exchanges[other] :: middle.exchanges.drop (other + 1) := by
    rw [List.cons_getElem_drop_succ, List.take_append_drop]
  have notGone : waiter.found = none := by
    by_contra gone
    have answeredOther := (own waiter (List.mem_of_getElem? foundOther)).answered_of_returned
      (Option.isSome_iff_ne_none.2 gone)
    rw [unanswered] at answeredOther
    cases answeredOther
  have asleep : middle.exchanges[other].found = none := (Option.some.inj sameFound).trans notGone
  have late : middle.exchanges[other].answered = false :=
    (Option.some.inj sameOther).trans unanswered
  generalize middle.exchanges[other] = victim at split asleep late
  obtain ⟨request, stage, found⟩ := victim
  obtain rfl : found = none := asleep
  obtain ⟨final, woke, changed⟩ := act_wake service split permitted
  refine ⟨final, steps.tail ⟨.wake, _, woke⟩, ⟨request, stage, some stage.answer?⟩,
    changed ▸ List.mem_append_right _ List.mem_cons_self, fun isOwn => ?_⟩
  obtain ⟨answer, isStage, _⟩ := isOwn _ rfl
  obtain rfl : stage = .answered answer := isStage
  cases late

/-- Without further requests every caller goes on with its own answer exactly when a caller
without one is the only one that waits. -/
theorem own_iff_lone (serves : ∀ request, Resolves (service.serve request))
    (accounted : state.Accounted) (answering : state.Answering)
    (own : ∀ exchange ∈ state.exchanges, exchange.Own) :
    (∀ final, ReflTransGen (fun before after => Internal service after before) state final →
      ∀ exchange ∈ final.exchanges, exchange.Own) ↔ state.Lone := by
  constructor
  · intro always
    refine List.pairwise_iff_getElem.2 fun first second inRange alsoInRange before => ?_
    have exposed {position other : Nat} (here : position < state.exchanges.length)
        (there : other < state.exchanges.length) (different : other ≠ position)
        (unanswered : state.exchanges[other].answered = false) :
        state.exchanges[position].returned = true := by
      by_contra waits
      obtain ⟨final, steps, exchange, member, notOwn⟩ := exists_not_own serves accounted answering
        own different (List.getElem?_eq_getElem here) (eq_false_of_ne_true waits)
        (List.getElem?_eq_getElem there) unanswered
      exact notOwn (always final steps exchange member)
    exact ⟨exposed alsoInRange inRange before.ne, exposed inRange alsoInRange before.ne'⟩
  · intro lone final steps
    have orderly : final.Orderly := by
      induction steps with
      | refl => exact ⟨accounted, own, lone⟩
      | tail _ internal ih =>
          obtain ⟨action, index, acted⟩ := internal
          exact ih.act acted
    exact orderly.own

end Rendezvous

/-! ### One request after the other -/

def Service.Disturbs {ρ κ μ σ ε α : Type} (service : Service ρ κ μ σ ε α) (before after : σ) :
    Prop :=
  ∃ move, after = service.disturb move before

inductive Sequence {ρ κ μ σ ε α : Type} (service : Service ρ κ μ σ ε α) (start : σ) :
    List (ρ × α) → σ → Prop where
  | start : Sequence service start [] start
  | disturb {served : List (ρ × α)} {shared : σ} (sequence : Sequence service start served shared)
      (move : μ) : Sequence service start served (service.disturb move shared)
  | serve {served : List (ρ × α)} {shared final : σ} {answer : α}
      (sequence : Sequence service start served shared) (request : ρ)
      (ran : RunUnder service.Disturbs (service.serve request) shared (.ok answer) final) :
      Sequence service start (served ++ [(request, answer)]) final

namespace Rendezvous

variable {ρ κ μ σ ε α : Type} {service : Service ρ κ μ σ ε α} {start : σ}

def history (exchanges : List (Exchange ρ σ ε α)) : List (ρ × α) :=
  exchanges.filterMap fun exchange => exchange.stage.answer?.map fun answer =>
    (exchange.request, answer)

theorem history_append (first second : List (Exchange ρ σ ε α)) :
    history (first ++ second) = history first ++ history second :=
  List.filterMap_append

def Gone (exchanges : List (Exchange ρ σ ε α)) : Prop :=
  ∀ exchange ∈ exchanges, exchange.answered = true ∧ exchange.returned = true

inductive Follows (service : Service ρ κ μ σ ε α) (start : σ) :
    List (Exchange ρ σ ε α) → σ → Prop where
  | settled {exchanges : List (Exchange ρ σ ε α)} {shared : σ}
      (answered : ∀ exchange ∈ exchanges, exchange.answered = true)
      (sequence : Sequence service start (history exchanges) shared) :
      Follows service start exchanges shared
  | queued {past : List (Exchange ρ σ ε α)} {shared : σ} (gone : Gone past)
      (sequence : Sequence service start (history past) shared) (request : ρ) :
      Follows service start (past ++ [⟨request, .queued, none⟩]) shared
  | serving {past : List (Exchange ρ σ ε α)} {middle shared : σ} {update : σ → σ}
      {next : σ → Task σ ε α} (gone : Gone past)
      (sequence : Sequence service start (history past) middle) (request : ρ)
      (underway : ∀ result final,
        RunUnder service.Disturbs (.step update next) shared result final →
          RunUnder service.Disturbs (service.serve request) middle result final) :
      Follows service start (past ++ [⟨request, .serving (.step update next), none⟩]) shared
  | ended {past : List (Exchange ρ σ ε α)} {shared : σ} {answer : α} (gone : Gone past)
      (request : ρ)
    (sequence : Sequence service start (history past ++ [(request, answer)]) shared) :
      Follows service start (past ++ [⟨request, .serving (.done (.ok answer)), none⟩]) shared
  | failed {past : List (Exchange ρ σ ε α)} {shared : σ} (gone : Gone past) (request : ρ)
      (rejection : ε) :
      Follows service start (past ++ [⟨request, .serving (.done (.error rejection)), none⟩]) shared

theorem Follows.ofTask {past : List (Exchange ρ σ ε α)} {middle shared : σ} (gone : Gone past)
    (sequence : Sequence service start (history past) middle) (request : ρ) (task : Task σ ε α)
    (underway : ∀ result final, RunUnder service.Disturbs task shared result final →
      RunUnder service.Disturbs (service.serve request) middle result final) :
    Follows service start (past ++ [⟨request, .serving task, none⟩]) shared := by
  cases task with
  | step update next => exact .serving gone sequence request underway
  | done result =>
      cases result with
      | ok answer => exact .ended gone request (sequence.serve request (underway _ _ (.done _ _)))
      | error rejection => exact .failed gone request rejection

theorem Follows.disturb {exchanges : List (Exchange ρ σ ε α)} {shared : σ}
    (follows : Follows service start exchanges shared) (move : μ) :
    Follows service start exchanges (service.disturb move shared) := by
  cases follows with
  | settled answered sequence => exact .settled answered (sequence.disturb move)
  | queued gone sequence request => exact .queued gone (sequence.disturb move) request
  | serving gone sequence request underway =>
      refine .serving gone sequence request fun result final ran => underway result final ?_
      cases ran with
      | step moves rest => exact .step (.head ⟨move, rfl⟩ moves) rest
  | ended gone request sequence => exact .ended gone request (sequence.disturb move)
  | failed gone request rejection => exact .failed gone request rejection

/-- When nobody waits, all requests so far were served one after the other. -/
theorem Follows.sequence {exchanges : List (Exchange ρ σ ε α)} {shared : σ}
    (follows : Follows service start exchanges shared) (gone : Gone exchanges) :
    Sequence service start (history exchanges) shared := by
  have waits {past : List (Exchange ρ σ ε α)} {request : ρ} {stage : Stage σ ε α}
      (all : Gone (past ++ [⟨request, stage, none⟩])) : False := by
    cases (all _ (List.mem_append_right _ (List.mem_singleton.2 rfl))).2
  cases follows with
  | settled answered sequence => exact sequence
  | queued => exact (waits gone).elim
  | serving => exact (waits gone).elim
  | ended => exact (waits gone).elim
  | failed => exact (waits gone).elim

/-- An action is on the last exchange, when all others are done with. -/
theorem last_of_acts {past earlier later : List (Exchange ρ σ ε α)}
    {last exchange after : Exchange ρ σ ε α} (gone : Gone past)
    (split : past ++ [last] = earlier ++ exchange :: later) {shared other : σ}
    {permits left : Nat} {action : ExchangeAction}
    (acts : Exchange.Acts service exchange shared permits action after other left) :
    earlier = past ∧ exchange = last ∧ later = [] := by
  cases later using List.reverseRecOn with
  | nil =>
      obtain ⟨rfl, same⟩ := List.append_inj' split rfl
      exact ⟨rfl, (List.singleton_inj.1 same).symm, rfl⟩
  | append_singleton later final _ =>
      rw [← List.cons_append, ← List.append_assoc] at split
      obtain ⟨rfl, _⟩ := List.append_inj' split rfl
      have done := gone exchange (List.mem_append_right _ List.mem_cons_self)
      cases acts with
      | dispatch request found => cases done.1
      | advance request update next found => cases done.1
      | answer request answer found => cases done.1
      | wake request stage => cases done.2

variable [DecidableEq κ] {state next : Rendezvous ρ σ ε α}

theorem Follows.act (follows : Follows service start state.exchanges state.shared)
    {action : ExchangeAction} {index : Nat}
    (acted : state.act service action index = some next) (orderly : next.Orderly) :
    Follows service start next.exchanges next.shared := by
  obtain ⟨earlier, exchange, later, after, split, changed, acts⟩ := act_cases acted
  rw [split] at follows
  have own := orderly.own
  rw [changed] at own ⊢
  clear orderly acted changed split
  generalize state.shared = shared at follows acts
  generalize next.shared = other at acts ⊢
  generalize state.permits = permits at acts
  generalize next.permits = left at acts
  generalize whole : earlier ++ exchange :: later = exchanges at follows
  have ownAfter := own after (List.mem_append_right _ List.mem_cons_self)
  cases follows with
  | settled answered sequence =>
      subst whole
      have here := answered exchange (List.mem_append_right _ List.mem_cons_self)
      cases acts with
      | dispatch request found => cases here
      | advance request update next found => cases here
      | answer request answer found => cases here
      | wake request stage =>
          refine .settled (fun item member => ?_) ?_
          · rcases List.mem_append.1 member with early | late
            · exact answered item (List.mem_append_left _ early)
            · rcases List.mem_cons.1 late with rfl | rest
              · exact here
              · exact answered item (List.mem_append_right _ (List.mem_cons_of_mem _ rest))
          · rw [history_append] at sequence ⊢
            exact sequence
  | queued gone sequence request =>
      obtain ⟨rfl, rfl, rfl⟩ := last_of_acts gone whole.symm acts
      cases acts with
      | dispatch request found =>
          exact .ofTask gone sequence request _ fun result final ran => ran
      | wake request stage =>
          obtain ⟨answer, impossible, _⟩ := ownAfter _ rfl
          cases impossible
  | serving gone sequence request underway =>
      obtain ⟨rfl, rfl, rfl⟩ := last_of_acts gone whole.symm acts
      cases acts with
      | advance request update next found =>
          exact .ofTask gone sequence request _ fun result final ran =>
            underway result final (.step .refl ran)
      | wake request stage =>
          obtain ⟨answer, impossible, _⟩ := ownAfter _ rfl
          cases impossible
  | ended gone request sequence =>
      obtain ⟨rfl, rfl, rfl⟩ := last_of_acts gone whole.symm acts
      cases acts with
      | answer request answer found =>
          refine .settled (fun item member => ?_) ?_
          · rcases List.mem_append.1 member with early | last
            · exact (gone item early).1
            · rw [List.mem_singleton.1 last]
              rfl
          · rw [history_append]
            exact sequence
      | wake request stage =>
          obtain ⟨answer, impossible, _⟩ := ownAfter _ rfl
          cases impossible
  | failed gone request rejection =>
      obtain ⟨rfl, rfl, rfl⟩ := last_of_acts gone whole.symm acts
      cases acts with
      | wake request stage =>
          obtain ⟨answer, impossible, _⟩ := ownAfter _ rfl
          cases impossible

theorem Follows.step (follows : Follows service start state.exchanges state.shared)
    (orderly : state.Orderly) {event : RendezvousEvent ρ μ} (alone : OneAtATime state event)
    (stepped : state.step service event = some next) :
    Follows service start next.exchanges next.shared := by
  cases event with
  | call request =>
      have gone : Gone state.exchanges := fun exchange member =>
        ⟨(orderly.own exchange member).answered_of_returned (alone exchange member),
          alone exchange member⟩
      unfold Rendezvous.step at stepped
      simp only at stepped
      split at stepped
      · cases stepped
        exact .queued gone (follows.sequence gone) request
      · cases stepped
  | act action index => exact follows.act stepped (orderly.act stepped)
  | disturb move =>
      cases stepped
      exact follows.disturb move

/-- When requests are made one at a time, every caller goes on with its own answer, and the
answers are those of requests served one after the other. -/
theorem one_at_a_time {events : List (RendezvousEvent ρ μ)}
    (heeds : Machine.Heeds (step service) OneAtATime (initial start) events)
    (ran : Machine.run (step service) (initial start) events = some state) :
    state.Orderly ∧ Follows service start state.exchanges state.shared := by
  refine @Machine.run_invariant _ _ _ _
    (fun state => state.Orderly ∧ Follows service start state.exchanges state.shared)
    (fun state event next holds alone stepped => ?_) _ _ _ ⟨orderly_initial start, ?_⟩ heeds ran
  · exact ⟨holds.1.step alone stepped, holds.2.step holds.1 alone stepped⟩
  · refine .settled (fun exchange member => ?_) .start
    cases member

end Rendezvous
end Async
