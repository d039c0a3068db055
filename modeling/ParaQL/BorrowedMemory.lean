/-
What the completions of binding.c read after the worker is done: the row of a statement,
the parameter names of a statement, and the message of the connection.

All of them are pointers into memory of SQLite, which keeps it only until certain other
calls.  Requests of JavaScript calls that run at the same time are served in any order.
-/

import ParaQL.Async.Loans
import ParaQL.WorkerTasks

namespace ParaQL

open Async Relation

structure NativeRequest where
  kind : TaskKind
  stmt : Nat
  deriving DecidableEq, Repr

inductive Lender where
  | row (stmt : Nat)
  | names (stmt : Nat)
  | message
  deriving DecidableEq, Repr

namespace TaskKind

def onStatement : TaskKind → Bool
  | .finalize | .reset | .parse | .bind | .step | .run => true
  | _ => false

/-- The task calls `sqlite3_step`, `sqlite3_reset` or `sqlite3_finalize` on its statement. -/
def leavesRow : TaskKind → Bool
  | .finalize | .reset | .parse | .step | .run => true
  | _ => false

/-- The task frees its statement, or steps it and may prepare it anew: after a change of the
schema, `sqlite3_step` puts a new statement in its place. -/
def renewsStatement : TaskKind → Bool
  | .finalize | .step | .run => true
  | _ => false

def takesMessage : TaskKind → Bool
  | .close | .exec | .prepare | .bind | .step | .run => true
  | _ => false

end TaskKind

namespace NativeRequest

def lends (request : NativeRequest) : Lender → Bool
  | .row stmt => request.kind = .step && request.stmt = stmt
  | .names stmt => request.kind = .parse && request.stmt = stmt
  | .message => request.kind.takesMessage

/-- The pointers that SQLite no longer answers for once it has done a task.  The collection of
the database finalizes every statement, and any other call may overwrite the message. -/
def breaks (request : NativeRequest) : Lender → Bool
  | .row stmt => request.kind = .collect || (request.kind.leavesRow && request.stmt = stmt)
  | .names stmt =>
      request.kind = .collect || (request.kind.renewsStatement && request.stmt = stmt)
  | .message => true

end NativeRequest

def nativeLending : Lending NativeRequest Lender :=
  { lends := NativeRequest.lends, breaks := NativeRequest.breaks }

inductive NativeAnswer where
  | row (names : List String) (texts : List (List UInt8))
  | names (names : List (Option String))
  | message (text : String)
  | nothing
  deriving DecidableEq, Repr

instance : Nonempty NativeAnswer := ⟨.nothing⟩

abbrev NativeRun := Loans NativeRequest Lender NativeAnswer

abbrev NativeEvent := LoanEvent NativeRequest Lender NativeAnswer

abbrev NativeJob := LoanJob NativeRequest Lender NativeAnswer

def nativeStep : NativeRun → NativeEvent → Option NativeRun := Loans.step nativeLending

namespace WorkerTask

def stmt : WorkerTask → Nat
  | .finalize stmt | .reset stmt | .parse stmt | .bind stmt _ _ | .step stmt _ _
  | .run stmt _ _ => stmt
  | _ => 0

def request (task : WorkerTask) : NativeRequest := { kind := task.kind, stmt := task.stmt }

def lender (state : WorkerState) : WorkerTask → Option Lender
  | .close status _ => if status ≠ 0 then some .message else none
  | .exec pieces errmsg =>
      if (WorkerState.execPieces errmsg pieces).errcode ≠ 0 then some .message else none
  | .prepare status _ _ => if status ≠ 0 then some .message else none
  | .parse stmt => if (state.statements stmt).handle then some (.names stmt) else none
  | .bind stmt statuses _ =>
      if (state.statements stmt).handle && (statuses.find? (· ≠ 0)).isSome then some .message
      else none
  | .step stmt status _ =>
      if !(state.statements stmt).handle then none
      else if status = sqliteRow then some (.row stmt)
      else if status = sqliteDone then none
      else some .message
  | .run stmt status _ =>
      if (state.statements stmt).handle && status ≠ sqliteDone then some .message else none
  | _ => none

private theorem eq_of_ite_some {α : Type} {condition : Prop} [Decidable condition] {left found : α}
    (same : (if condition then some left else none) = some found) : found = left :=
  (Option.some.inj (Option.ite_none_right_eq_some.1 same).2).symm

/-- Every exit of every task leaves its answer where its request may. -/
theorem lends_of_lender {state : WorkerState} {task : WorkerTask} {lender : Lender}
    (left : task.lender state = some lender) : task.request.lends lender = true := by
  cases task with
  | close status errmsg =>
      obtain rfl := eq_of_ite_some left
      rfl
  | exec pieces errmsg =>
      obtain rfl := eq_of_ite_some left
      rfl
  | prepare status handle errmsg =>
      obtain rfl := eq_of_ite_some left
      rfl
  | parse stmt =>
      obtain rfl := eq_of_ite_some left
      exact Bool.and_eq_true_iff.2 ⟨rfl, decide_eq_true rfl⟩
  | bind stmt statuses errmsg =>
      obtain rfl := eq_of_ite_some left
      rfl
  | step stmt status errmsg =>
      simp only [WorkerTask.lender] at left
      split at left
      · cases left
      · split at left
        · cases left
          exact Bool.and_eq_true_iff.2 ⟨rfl, decide_eq_true rfl⟩
        · split at left
          · cases left
          · cases left
            rfl
  | run stmt status errmsg =>
      obtain rfl := eq_of_ite_some left
      rfl
  | «open» status handle errmsg => cases left
  | finalize stmt => cases left
  | reset stmt => cases left
  | collect => cases left

end WorkerTask

/-! ### One request after the other on each statement -/

def NativeJob.Pending (job : NativeJob) : Prop :=
  match job.stage with
  | .queued => True
  | .lent _ _ _ => True
  | _ => False

/-- A request on a statement is made when no other one is pending there, and the database is
not collected. -/
def StatementsWait (state : NativeRun) : NativeEvent → Prop
  | .call request => request.kind ≠ .collect ∧
      (request.kind.onStatement = true → ∀ job ∈ state.jobs, NativeJob.Pending job →
        job.request.kind.onStatement = true → job.request.stmt ≠ request.stmt)
  | _ => True

def Lender.stmt? : Lender → Option Nat
  | .row stmt => some stmt
  | .names stmt => some stmt
  | .message => none

private theorem NativeRequest.concerns {request : NativeRequest} {lender : Lender} {stmt : Nat}
    (isStmt : lender.stmt? = some stmt) (standing : request.kind ≠ .collect)
    (concerns : request.lends lender = true ∨ request.breaks lender = true) :
    request.kind.onStatement = true ∧ request.stmt = stmt := by
  obtain ⟨kind, own⟩ := request
  cases lender with
  | row other =>
      cases isStmt
      cases kind <;>
        simp_all [NativeRequest.lends, NativeRequest.breaks, TaskKind.onStatement,
          TaskKind.leavesRow]
  | names other =>
      cases isStmt
      cases kind <;>
        simp_all [NativeRequest.lends, NativeRequest.breaks, TaskKind.onStatement,
          TaskKind.renewsStatement]
  | message => cases isStmt

def NotCollected (state : NativeRun) : Prop :=
  ∀ job ∈ state.jobs, job.request.kind ≠ .collect

theorem NotCollected.step {state next : NativeRun} {event : NativeEvent}
    (standing : NotCollected state) (waits : StatementsWait state event)
    (stepped : nativeStep state event = some next) : NotCollected next := by
  have goesOn (goes : state.GoesOn nativeLending next) : NotCollected next := by
    obtain ⟨index, before, after, here, set, _, _, same⟩ := Loans.jobs_of_goesOn goes .message
    intro job member
    rw [set] at member
    rcases List.mem_or_eq_of_mem_set member with earlier | rfl
    · exact standing job earlier
    · exact same ▸ standing before (List.mem_of_getElem? here)
  cases event with
  | call request =>
      cases stepped
      intro job member
      rcases List.mem_append.1 member with earlier | last
      · exact standing job earlier
      · rw [List.mem_singleton.1 last]
        exact waits.1
  | work index answer owner => exact goesOn (.inl ⟨index, answer, owner, stepped⟩)
  | complete index => exact goesOn (.inr ⟨index, stepped⟩)

private theorem waits_of_statementsWait {state : NativeRun} {event : NativeEvent} {lender : Lender}
    {stmt : Nat} (isStmt : lender.stmt? = some stmt) (sound : state.Sound nativeLending)
    (standing : NotCollected state) (waits : StatementsWait state event) :
    Loans.Waits nativeLending lender state event := by
  cases event with
  | call request =>
      intro concerns job member busy
      obtain ⟨onStatement, same⟩ := NativeRequest.concerns isStmt waits.1 concerns
      have pending : NativeJob.Pending job ∧
          (job.request.lends lender = true ∨ job.request.breaks lender = true) := by
        obtain ⟨own, stage⟩ := job
        cases stage with
        | queued => exact ⟨trivial, busy⟩
        | lent owner region answer =>
            obtain rfl : owner = lender := busy.resolve_right id
            exact ⟨trivial, .inl (sound.lent _ member _ _ _ rfl)⟩
        | kept _ => exact (busy.elim id id).elim
        | completed _ _ _ => exact (busy.elim id id).elim
      obtain ⟨there, sameThere⟩ :=
        NativeRequest.concerns isStmt (standing job member) pending.2
      exact waits.2 onStatement job member pending.1 there (sameThere.trans same.symm)
  | work index answer owner => trivial
  | complete index => trivial

/-- While requests on one statement wait for one another, the loop finds every row and all
parameter names as the worker left them, in whatever order the requests on the other
statements and on the database are served. -/
theorem rows_are_intact (events : List NativeEvent) (state : NativeRun)
    (ran : Machine.run nativeStep .initial events = some state)
    (waits : Machine.Heeds nativeStep StatementsWait .initial events) (stmt : Nat) :
    state.Intact (.row stmt) ∧ state.Intact (.names stmt) := by
  have intact {lender : Lender} (isStmt : lender.stmt? = some stmt) : state.Intact lender := by
    refine (Loans.intact_of_waits ?_ ran).2.2
    refine @Machine.Heeds.mono _ _ nativeStep StatementsWait _
      (fun state => state.Sound nativeLending ∧ NotCollected state)
      (fun state event next holds meets stepped => ?_) (fun state event holds meets => ?_) _ _ ?_
      waits
    · exact ⟨holds.1.step stepped, holds.2.step meets stepped⟩
    · exact waits_of_statementsWait isStmt holds.1 holds.2 meets
    · exact ⟨Loans.sound_initial, fun job member => by cases member⟩
  exact ⟨intact rfl, intact rfl⟩

/-- A statement is stepped, and a script runs before its row is read. -/
def stepThenExec : List NativeEvent :=
  [.call ⟨.step, 0⟩, .call ⟨.exec, 0⟩, .work 0 (.row ["a"] [[1]]) (some (.row 0)),
    .work 1 .nothing none, .complete 0]

theorem rows_are_intact_stepThenExec :
    ∃ state, Machine.run nativeStep .initial stepThenExec = some state ∧
      (state.jobs[0]?.map LoanJob.stage) =
        some (.completed (some (.row 0)) (some (.row ["a"] [[1]])) (.row ["a"] [[1]])) ∧
      state.Intact (.row 0) := by
  refine ⟨_, rfl, rfl, (rows_are_intact stepThenExec _ rfl ?_ 0).1⟩
  refine Machine.heeds_cons rfl ⟨nofun, fun _ _ member => by cases member⟩ ?_
  refine Machine.heeds_cons rfl ⟨nofun, nofun⟩ (Machine.heeds_cons rfl trivial ?_)
  exact Machine.heeds_cons rfl trivial (Machine.heeds_cons rfl trivial trivial)

/-- What the completions of the requests made so far will read is sure to be intact exactly
when no request that is still queued makes SQLite give it up: for the row of a statement a
step, reset, parse, run or finalize there, for its names a step, run or finalize there, and for
the message of an error any request. -/
theorem intact_iff_spared (lender : Lender) (events : List NativeEvent) (state : NativeRun)
    (ran : Machine.run nativeStep .initial events = some state) (intact : state.Intact lender) :
    (∀ final, ReflTransGen (Loans.GoesOn nativeLending) state final → final.Intact lender) ↔
      ∀ (first second : Nat) (job other : NativeJob), first ≠ second →
        state.jobs[first]? = some job → state.jobs[second]? = some other →
        ((job.stage = .queued ∧ job.request.lends lender = true) ∨
          ∃ region answer, job.stage = .lent lender region answer) →
        other.stage = .queued → other.request.breaks lender = false := by
  have sound : state.Sound nativeLending :=
    Machine.run_preserves (fun _ _ _ sound stepped => sound.step stepped) Loans.sound_initial ran
  rw [Loans.intact_iff_apart sound intact]
  have exposed (job : NativeJob) : job.Exposed nativeLending lender ↔
      ((job.stage = .queued ∧ job.request.lends lender = true) ∨
        ∃ region answer, job.stage = .lent lender region answer) := by
    obtain ⟨request, stage⟩ := job
    cases stage with
    | queued => simp [LoanJob.Exposed, nativeLending]
    | lent owner region answer => simp [LoanJob.Exposed]
    | kept _ => simp [LoanJob.Exposed]
    | completed _ _ _ => simp [LoanJob.Exposed]
  have threatens (job : NativeJob) : ¬job.Threatens nativeLending lender ↔
      (job.stage = .queued → job.request.breaks lender = false) := by
    obtain ⟨request, stage⟩ := job
    cases stage with
    | queued => simp [LoanJob.Threatens, nativeLending]
    | lent _ _ _ => simp [LoanJob.Threatens]
    | kept _ => simp [LoanJob.Threatens]
    | completed _ _ _ => simp [LoanJob.Threatens]
  unfold Loans.Apart
  simp only [exposed, threatens]

def parseBesideSteps : List NativeEvent :=
  [.call ⟨.parse, 0⟩, .call ⟨.step, 0⟩, .call ⟨.step, 1⟩]

/-- The names may be lost to the step, and the row of the other statement is safe. -/
theorem intact_iff_spared_parseBesideSteps :
    ∃ state, Machine.run nativeStep .initial parseBesideSteps = some state ∧
      (¬∀ final, ReflTransGen (Loans.GoesOn nativeLending) state final →
        final.Intact (.names 0)) ∧
      ∀ final, ReflTransGen (Loans.GoesOn nativeLending) state final →
        final.Intact (.row 1) := by
  have queued (lender : Lender) : ∀ job ∈ [(⟨⟨.parse, 0⟩, .queued⟩ : NativeJob),
      ⟨⟨.step, 0⟩, .queued⟩, ⟨⟨.step, 1⟩, .queued⟩],
      Loans.IntactStage (fun _ => none) lender job.stage := by
    simp [Loans.IntactStage]
  refine ⟨_, rfl, fun always => ?_, ?_⟩
  · have spared := (intact_iff_spared (.names 0) parseBesideSteps _ rfl (queued _)).1 always
      0 1 _ _ (by decide) rfl rfl (.inl ⟨rfl, rfl⟩) rfl
    cases spared
  · refine (intact_iff_spared (.row 1) parseBesideSteps _ rfl (queued _)).2 ?_
    intro first second job other apart here there exposed _
    match first, second with
    | 0, _ =>
        cases here
        rcases exposed with ⟨_, lends⟩ | ⟨_, _, impossible⟩
        · cases lends
        · cases impossible
    | 1, _ =>
        cases here
        rcases exposed with ⟨_, lends⟩ | ⟨_, _, impossible⟩
        · cases lends
        · cases impossible
    | 2, 0 => cases there; rfl
    | 2, 1 => cases there; rfl
    | 2, 2 => exact absurd rfl apart
    | 2, later + 3 => cases there
    | later + 3, _ => cases here

end ParaQL
