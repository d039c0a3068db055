/-
The cache of prepared statements, call by call.

Each call of `prepare` or `finalize` completes before the next one starts.  Then the
cache keeps the statements that were prepared last, in that order.
-/

import ParaQL.Recency
import ParaQL.StatementCache

namespace ParaQL

open Async

namespace CacheState

inductive CacheCall where
  | prepare (call : CallId) (sql : String)
  | finalize (statement : CallId)

def CacheCall.start : CacheCall → CacheEvent
  | .prepare call sql => .prepare call sql
  | .finalize statement => .finalize statement

def Completes : CacheEvent → Prop
  | .opened _ _ | .evicted _ | .finalized _ => True
  | _ => False

def Performed (cacheSize : Nat) (before : CacheState) (call : CacheCall) (after : CacheState) :
    Prop :=
  ∃ events, (∀ event ∈ events, Completes event) ∧
    Machine.run (step cacheSize) before (call.start :: events) = some after ∧ after.Settled

inductive CallRun (cacheSize : Nat) : List CacheCall → CacheState → Prop where
  | nil : CallRun cacheSize [] initial
  | next {calls : List CacheCall} {before after : CacheState} {call : CacheCall}
      (earlier : CallRun cacheSize calls before)
      (performed : Performed cacheSize before call after) :
      CallRun cacheSize (calls ++ [call]) after

/-- The texts of the `prepare` calls. -/
def prepared (calls : List CacheCall) : List String :=
  calls.filterMap fun
    | .prepare _ sql => some sql
    | .finalize _ => none

/-- The cache holds open statements under their texts, in order of last `prepare`. -/
structure Exact (cacheSize : Nat) (calls : List CacheCall) (state : CacheState) : Prop where
  size : state.cache.size ≤ cacheSize
  entries : ∀ entry ∈ state.cache.entries,
    (state.statements entry.2).status = .opened ∧ (state.statements entry.2).sql = entry.1
  ordered : Recency.Ordered (prepared calls) state.cache.entries

/-- What `prepare` of a cached text does. -/
structure Hit (before : CacheState) (call : CallId) (sql : String) (statement : CallId)
    (after : CacheState) : Prop where
  returned : after.calls call = .returned statement
  statements : after.statements = before.statements
  cache : after.cache.entries = Recency.use sql statement before.cache.entries

/-- What `prepare` of another text does, when the statement opens.  Where the cache is full,
it closes the statement in front. -/
structure Miss (cacheSize : Nat) (before : CacheState) (call : CallId) (sql : String)
    (after : CacheState) : Prop where
  returned : after.calls call = .returned call
  opened : (after.statements call).status = .opened ∧ (after.statements call).sql = sql
  others : ∀ other, other ≠ call → after.statements other ≠ before.statements other →
    before.cache.size = cacheSize ∧ before.cache.oldest? = some other ∧
      (after.statements other).status = .closed
  cache : after.cache.entries =
    Recency.trim cacheSize (Recency.use sql call before.cache.entries)

/-- What `prepare` does when the statement does not open. -/
structure Failure (before : CacheState) (call : CallId) (after : CacheState) : Prop where
  threw : ∃ thrown, after.calls call = .threw thrown
  others : ∀ other, other ≠ call → after.statements other = before.statements other
  cache : after.cache = before.cache

variable {cacheSize : Nat} {state next final : CacheState} {event : CacheEvent}
  {events : List CacheEvent}

private theorem completion_cases (completes : Completes event)
    (stepped : step cacheSize state event = some next) :
    (∃ call result, state.calls call = .opening ∧ next = state.opened cacheSize call result) ∨
    (∃ call oldest, state.calls call = .evicting oldest ∧
      (state.statements oldest).status = .closed ∧ next = state.answer call call) ∨
    ∃ id, (state.statements id).status = .closing ∧ next = state.finalized id := by
  cases event with
  | opened call result =>
      simp only [step, Option.ite_none_right_eq_some, Option.some.injEq] at stepped
      exact Or.inl ⟨call, result, stepped.1, stepped.2.symm⟩
  | evicted call =>
      simp only [step] at stepped
      split at stepped
      · rename_i oldest evicting
        simp only [Option.ite_none_right_eq_some, Option.some.injEq] at stepped
        exact Or.inr (Or.inl ⟨call, oldest, evicting, stepped.1, stepped.2.symm⟩)
      · cases stepped
  | finalized id =>
      simp only [step, Option.ite_none_right_eq_some, Option.some.injEq] at stepped
      exact Or.inr (Or.inr ⟨id, stepped.1, stepped.2.symm⟩)
  | prepare call sql => cases completes
  | finalize statement => cases completes
  | close => cases completes
  | closeNext => cases completes
  | closeEnds resolves => cases completes

private theorem calls_ne {call : CallId} {phase : PreparePhase}
    (quiet : (state.calls call).pending = false) (pending : phase.pending = true) :
    state.calls call ≠ phase := by
  intro asks
  rw [asks, pending] at quiet
  cases quiet

/-- Nothing that is awaited ends where nothing is pending. -/
theorem Settled.stays (settled : state.Settled) (completes : ∀ event ∈ events, Completes event)
    (ran : Machine.run (step cacheSize) state events = some final) : final = state := by
  cases events with
  | nil => exact (Option.some.inj ran).symm
  | cons event events =>
      obtain ⟨next, stepped, _⟩ := Machine.run_cons_iff.1 ran
      rcases completion_cases (completes event List.mem_cons_self) stepped with
        ⟨call, _, opening, _⟩ | ⟨call, _, evicting, _⟩ | ⟨id, closing, _⟩
      · exact absurd opening (calls_ne (settled.calls call) rfl)
      · exact absurd evicting (calls_ne (settled.calls call) rfl)
      · exact absurd closing (settled.statements id)

/-- What is pending ends before the call completes. -/
theorem run_unsettled (unsettled : ¬state.Settled)
    (completes : ∀ event ∈ events, Completes event)
    (ran : Machine.run (step cacheSize) state events = some final) (settled : final.Settled) :
    ∃ event rest next, Completes event ∧ step cacheSize state event = some next ∧
      (∀ event ∈ rest, Completes event) ∧
      Machine.run (step cacheSize) next rest = some final := by
  cases events with
  | nil =>
      cases ran
      exact absurd settled unsettled
  | cons event events =>
      obtain ⟨next, stepped, rest⟩ := Machine.run_cons_iff.1 ran
      exact ⟨event, events, next, completes event List.mem_cons_self, stepped,
        fun later member => completes later (List.mem_cons_of_mem _ member), rest⟩

/-- One `prepare` is pending. -/
structure Waits (state : CacheState) (call : CallId) (phase : PreparePhase) : Prop where
  phase : state.calls call = phase
  others : ∀ other, other ≠ call → (state.calls other).pending = false

theorem Waits.unsettled {call : CallId} {phase : PreparePhase} (waits : Waits state call phase)
    (pending : phase.pending = true) : ¬state.Settled := by
  intro settled
  exact calls_ne (settled.calls call) pending waits.phase

theorem Waits.only {call other : CallId} {phase asked : PreparePhase}
    (waits : Waits state call phase) (asks : state.calls other = asked)
    (pending : asked.pending = true) : other = call ∧ asked = phase := by
  have same : other = call := by
    by_contra differs
    exact calls_ne (waits.others other differs) pending asks
  constructor
  · exact same
  · rw [← asks, same, waits.phase]

theorem Waits.opened {call : CallId} (waits : Waits state call .opening)
    (unclosed : ∀ id, (state.statements id).status ≠ .closing)
    (completes : ∀ event ∈ events, Completes event)
    (ran : Machine.run (step cacheSize) state events = some final) (settled : final.Settled) :
    ∃ result rest, (∀ event ∈ rest, Completes event) ∧
      Machine.run (step cacheSize) (state.opened cacheSize call result) rest = some final := by
  obtain ⟨event, rest, next, ends, stepped, completes, ran⟩ :=
    run_unsettled (waits.unsettled rfl) completes ran settled
  rcases completion_cases ends stepped with
    ⟨other, result, opening, rfl⟩ | ⟨other, _, evicting, _⟩ | ⟨id, closing, _⟩
  · obtain ⟨rfl, _⟩ := waits.only opening rfl
    exact ⟨result, rest, completes, ran⟩
  · cases (waits.only evicting rfl).2
  · exact absurd closing (unclosed id)

/-- A statement is closed before the call that waits for it goes on. -/
theorem closing_finalized {id : CallId} (closing : (state.statements id).status = .closing)
    (only : ∀ other, (state.statements other).status = .closing → other = id)
    (unopening : ∀ call, state.calls call ≠ .opening)
    (waiting : ∀ call oldest, state.calls call = .evicting oldest → oldest = id)
    (completes : ∀ event ∈ events, Completes event)
    (ran : Machine.run (step cacheSize) state events = some final) (settled : final.Settled) :
    ∃ rest, (∀ event ∈ rest, Completes event) ∧
      Machine.run (step cacheSize) (state.finalized id) rest = some final := by
  obtain ⟨event, rest, next, ends, stepped, completes, ran⟩ :=
    run_unsettled (fun settled => settled.statements id closing) completes ran settled
  rcases completion_cases ends stepped with
    ⟨call, _, opening, _⟩ | ⟨call, oldest, evicting, closed, _⟩ | ⟨other, closes, rfl⟩
  · exact absurd opening (unopening call)
  · rw [waiting call oldest evicting, closing] at closed
    cases closed
  · cases only other closes
    exact ⟨rest, completes, ran⟩

theorem Waits.evicted {call oldest : CallId} (waits : Waits state call (.evicting oldest))
    (unclosed : ∀ id, (state.statements id).status ≠ .closing)
    (completes : ∀ event ∈ events, Completes event)
    (ran : Machine.run (step cacheSize) state events = some final) (settled : final.Settled) :
    ∃ rest, (∀ event ∈ rest, Completes event) ∧
      Machine.run (step cacheSize) (state.answer call call) rest = some final := by
  obtain ⟨event, rest, next, ends, stepped, completes, ran⟩ :=
    run_unsettled (waits.unsettled rfl) completes ran settled
  rcases completion_cases ends stepped with
    ⟨other, _, opening, _⟩ | ⟨other, _, evicting, _, rfl⟩ | ⟨id, closing, _⟩
  · cases (waits.only opening rfl).2
  · obtain ⟨rfl, _⟩ := waits.only evicting rfl
    exact ⟨rest, completes, ran⟩
  · exact absurd closing (unclosed id)

structure Between (cacheSize : Nat) (state : CacheState) : Prop where
  tidy : state.Tidy
  few : state.live ≤ cacheSize
  settled : state.Settled
  close : state.close = .notCalled

private theorem between_initial : initial.Between cacheSize := by
  refine ⟨tidy_initial, Nat.zero_le _, ⟨fun _ => rfl, ?_, rfl⟩, rfl⟩
  intro id closing
  cases closing

theorem Between.notClosed (between : state.Between cacheSize) : state.close ≠ .closed := by
  rw [between.close]
  exact ClosePhase.noConfusion

theorem Between.entry (between : state.Between cacheSize) {entry : String × CallId}
    (member : entry ∈ state.cache.entries) :
    (state.statements entry.2).status = .opened ∧ (state.statements entry.2).sql = entry.1 := by
  obtain ⟨sql, isOpen⟩ := between.tidy.entries member
  exact ⟨StatementStatus.opened_of_isOpen isOpen (between.settled.statements entry.2), sql⟩

theorem Between.size (between : state.Between cacheSize) : state.cache.size ≤ cacheSize :=
  (between.tidy.noOrphans between.few).size between.settled

theorem Between.exact (between : state.Between cacheSize) {calls : List CacheCall}
    (ordered : Recency.Ordered (prepared calls) state.cache.entries) :
    state.Exact cacheSize calls :=
  ⟨between.size, fun _ member => between.entry member, ordered⟩

theorem Between.orderly (between : state.Between cacheSize) (call : CallId) (sql : String) :
    Orderly cacheSize state (.prepare call sql) := by
  constructor
  · rw [between.close]
    rfl
  · intro statement found
    exact Or.inl (between.entry (JsMap.get?_eq_some_iff.1 found)).1

variable {before after : CacheState} {call : CallId} {sql : String}

theorem Between.unclosed (between : before.Between cacheSize)
    (own : (state.statements call).status ≠ .closing)
    (others : ∀ other, other ≠ call → state.statements other = before.statements other)
    (id : CallId) : (state.statements id).status ≠ .closing := by
  by_cases same : id = call
  · rw [same]
    exact own
  · rw [others id same]
    exact between.settled.statements id

private theorem setCall_pending {phase : PreparePhase} (quiet : phase.pending = false)
    (others : ∀ other, other ≠ call → (state.calls other).pending = false) (other : CallId) :
    ((state.setCall call phase).calls other).pending = false := by
  unfold setCall
  dsimp only
  rw [Function.update_apply]
  split
  · exact quiet
  · exact others other ‹_›

theorem Waits.answered {phase reply : PreparePhase} (waits : Waits state call phase)
    (quiet : reply.pending = false) (unclosed : ∀ id, (state.statements id).status ≠ .closing)
    (close : state.close = .notCalled) : (state.setCall call reply).Settled := by
  refine ⟨setCall_pending quiet waits.others, unclosed, ?_⟩
  change state.close.pending = false
  rw [close]
  rfl

theorem Waits.returned {phase : PreparePhase} (waits : Waits state call phase)
    (unclosed : ∀ id, (state.statements id).status ≠ .closing) (close : state.close = .notCalled)
    (statement : CallId) : (state.answer call statement).Settled := by
  have answered : (state.setCall call (.returned statement)).Settled :=
    waits.answered rfl unclosed close
  exact ⟨answered.calls, answered.statements, answered.close⟩

/-- A `prepare` starts from where nothing is pending. -/
theorem Between.prepares (between : before.Between cacheSize)
    (performed : Performed cacheSize before (.prepare call sql) after) :
    before.calls call = .idle ∧ (before.prepare call sql).Tidy ∧
      (before.prepare call sql).live ≤ cacheSize ∧
      ∃ events, (∀ event ∈ events, Completes event) ∧
        Machine.run (step cacheSize) (before.prepare call sql) events = some after ∧
        after.Settled := by
  obtain ⟨events, completes, ran, settled⟩ := performed
  obtain ⟨next, stepped, ran⟩ := Machine.run_cons_iff.1 ran
  obtain ⟨tidy, few⟩ := between.tidy.step between.few (between.orderly call sql) stepped
  simp only [CacheCall.start, step, Option.ite_none_right_eq_some, Option.some.injEq] at stepped
  obtain ⟨idle, rfl⟩ := stepped
  exact ⟨idle, tidy, few, events, completes, ran, settled⟩

private theorem prepare_hit {statement : CallId} (open_ : before.close ≠ .closed)
    (cached : before.cache.get? sql = some statement) :
    before.prepare call sql =
      { before with cache := (before.cache.delete sql).set sql statement }.answer call
        statement := by
  unfold prepare
  rw [if_neg open_, cached]

private theorem entries_touch {statement : CallId} (map : JsMap String CallId) :
    ((map.delete sql).set sql statement).entries = Recency.use sql statement map.entries := by
  rw [JsMap.entries_set_absent (JsMap.get?_delete_self _ _), JsMap.entries_delete]
  rfl

private theorem Between.hit_settled (between : before.Between cacheSize) {statement : CallId}
    (cached : before.cache.get? sql = some statement) : (before.prepare call sql).Settled := by
  rw [prepare_hit between.notClosed cached]
  exact ⟨setCall_pending rfl fun other _ => between.settled.calls other,
    between.settled.statements, between.settled.close⟩

private theorem Between.hit (between : before.Between cacheSize) {statement : CallId}
    (cached : before.cache.get? sql = some statement)
    (performed : Performed cacheSize before (.prepare call sql) after) :
    after.Between cacheSize ∧ Hit before call sql statement after := by
  obtain ⟨_, tidy, few, events, completes, ran, settled⟩ := between.prepares performed
  have hits : before.prepare call sql = _ := prepare_hit between.notClosed cached
  cases (between.hit_settled cached).stays completes ran
  refine ⟨⟨tidy, few, settled, ?_⟩, ?_⟩
  · rw [hits]
    exact between.close
  · rw [hits]
    exact ⟨Function.update_self _ _ _, rfl, entries_touch before.cache⟩

/-! ### A new text -/

private theorem insert_fits (fits : (state.cacheSet call).cache.size ≤ cacheSize) :
    state.insert cacheSize call = (state.cacheSet call).answer call call := by
  unfold insert
  exact if_neg (Nat.not_lt.2 fits)

private theorem insert_full {oldest : CallId} (full : cacheSize < (state.cacheSet call).cache.size)
    (first : (state.cacheSet call).cache.oldest? = some oldest) :
    state.insert cacheSize call =
      ((state.cacheSet call).finalize oldest).setCall call (.evicting oldest) := by
  unfold insert
  dsimp only
  rw [if_pos full, first]

structure Opening (before : CacheState) (call : CallId) (sql : String) (state : CacheState) :
    Prop where
  cache : state.cache = before.cache
  close : state.close = .notCalled
  own : state.statements call = { sql := sql, status := .opening, finalized := false }
  statements : ∀ other, other ≠ call → state.statements other = before.statements other
  waits : Waits state call .opening

theorem Between.opening (between : before.Between cacheSize)
    (absent : before.cache.get? sql = none) : Opening before call sql (before.prepare call sql) := by
  unfold prepare
  rw [if_neg between.notClosed, absent]
  refine ⟨rfl, between.close, Function.update_self _ _ _, ?_, Function.update_self _ _ _, ?_⟩
  · intro other differs
    exact Function.update_of_ne differs _ _
  · intro other differs
    change (Function.update before.calls call _ other).pending = false
    rw [Function.update_of_ne differs]
    exact between.settled.calls other

private theorem Between.not_cached (between : before.Between cacheSize)
    (idle : before.calls call = .idle) {entry : String × CallId}
    (member : entry ∈ before.cache.entries) : entry.2 ≠ call := by
  intro same
  have opened := (between.entry member).1
  rw [same, between.tidy.idle call idle] at opened
  cases opened

section NewText

variable (between : before.Between cacheSize) (idle : before.calls call = .idle)
  (absent : before.cache.get? sql = none) (opening : Opening before call sql state)

include between opening

theorem Opening.unclosed (id : CallId) : (state.statements id).status ≠ .closing := by
  refine between.unclosed ?_ opening.statements id
  rw [opening.own]
  exact StatementStatus.noConfusion

theorem Opening.failed (thrown : JsValue) :
    (state.opened cacheSize call (.error thrown)).Settled ∧
      Failure before call (state.opened cacheSize call (.error thrown)) := by
  have own : ((state.setStatus call .failed).statements call).status = .failed :=
    congrArg CachedStatement.status (Function.update_self call _ state.statements)
  have others (id : CallId) (differs : id ≠ call) :
      (state.setStatus call .failed).statements id = before.statements id :=
    (Function.update_of_ne differs _ _).trans (opening.statements id differs)
  have waits : Waits (state.setStatus call .failed) call .opening :=
    ⟨opening.waits.phase, opening.waits.others⟩
  constructor
  · refine waits.answered rfl (between.unclosed ?_ others) opening.close
    rw [own]
    exact StatementStatus.noConfusion
  · exact ⟨⟨_, Function.update_self _ _ _⟩, others, opening.cache⟩

include idle

theorem Opening.roomy (positive : 0 < cacheSize) : state.Roomy cacheSize := by
  rcases Nat.lt_or_ge before.cache.size cacheSize with small | full
  · left
    rw [opening.cache]
    exact small
  · right
    cases entries : before.cache.entries with
    | nil =>
        have size : before.cache.size = 0 := congrArg List.length entries
        omega
    | cons first rest =>
        have member : first ∈ before.cache.entries := by
          rw [entries]
          exact List.mem_cons_self
        have differs := between.not_cached idle member
        refine ⟨first.2, ?_, Or.inl ⟨?_, opening.waits.others _ differs⟩⟩
        · rw [opening.cache, JsMap.oldest?, entries]
          rfl
        · rw [opening.statements _ differs]
          exact (between.entry member).1

end NewText

structure Inserted (before : CacheState) (call : CallId) (sql : String) (state : CacheState) :
    Prop where
  entries : state.cache.entries = before.cache.entries ++ [(sql, call)]
  close : state.close = .notCalled
  own : state.statements call = { sql := sql, status := .opened, finalized := false }
  statements : ∀ other, other ≠ call → state.statements other = before.statements other
  waits : Waits state call .opening

theorem Opening.inserted (absent : before.cache.get? sql = none)
    (opening : Opening before call sql state) : Inserted before call sql (state.cacheSet call) := by
  have text : (state.statements call).sql = sql := congrArg CachedStatement.sql opening.own
  refine ⟨?_, opening.close, ?_, ?_, ⟨opening.waits.phase, opening.waits.others⟩⟩
  · unfold cacheSet
    dsimp only
    rw [opening.cache, text, JsMap.entries_set_absent absent]
  · unfold cacheSet setStatus setStatement
    dsimp only
    rw [Function.update_self, opening.own]
  · intro other differs
    unfold cacheSet setStatus setStatement
    dsimp only
    rw [Function.update_of_ne differs, opening.statements other differs]

private theorem entries_ne (absent : before.cache.get? sql = none) {entry : String × CallId}
    (member : entry ∈ before.cache.entries) : entry.1 ≠ sql := by
  intro same
  apply JsMap.get?_eq_none_iff.1 absent
  rw [← same]
  exact List.mem_map_of_mem member

theorem Inserted.use (absent : before.cache.get? sql = none)
    (inserted : Inserted before call sql state) :
    state.cache.entries = Recency.use sql call before.cache.entries := by
  rw [inserted.entries, Recency.use, Recency.without_absent fun entry => entries_ne absent]

/-- Where there is room, the call returns at once. -/
theorem Inserted.fits (between : before.Between cacheSize)
    (absent : before.cache.get? sql = none) (inserted : Inserted before call sql state)
    (fits : state.cache.size ≤ cacheSize) :
    (state.answer call call).Settled ∧
      Miss cacheSize before call sql (state.answer call call) := by
  constructor
  · refine inserted.waits.returned (between.unclosed ?_ inserted.statements) inserted.close call
    rw [inserted.own]
    exact StatementStatus.noConfusion
  · refine ⟨Function.update_self _ _ _, ?_, ?_, ?_⟩
    · change (state.statements call).status = .opened ∧ (state.statements call).sql = sql
      rw [inserted.own]
      exact ⟨rfl, rfl⟩
    · intro other differs changed
      exact absurd (inserted.statements other differs) changed
    · change state.cache.entries = _
      have length : (Recency.use sql call before.cache.entries).length ≤ cacheSize := by
        rw [← inserted.use absent]
        exact fits
      rw [Recency.trim_of_le length, inserted.use absent]

theorem Inserted.size (inserted : Inserted before call sql state) :
    state.cache.size = before.cache.size + 1 := by
  unfold JsMap.size
  rw [inserted.entries, List.length_append, List.length_singleton]

/-- Where there is no room, the entry in front is not the new one. -/
theorem Inserted.evicts (inserted : Inserted before call sql (state.cacheSet call))
    (between : before.Between cacheSize) (idle : before.calls call = .idle)
    (positive : 0 < cacheSize) (full : cacheSize < (state.cacheSet call).cache.size) :
    ∃ first rest, before.cache.entries = first :: rest ∧ before.cache.size = cacheSize ∧
      first.2 ≠ call ∧
      ((before.statements first.2).status = .opened ∧
        (before.statements first.2).sql = first.1) ∧
      state.insert cacheSize call =
        ((state.cacheSet call).finalize first.2).setCall call (.evicting first.2) := by
  have grown := inserted.size
  have atMost := between.size
  cases entries : before.cache.entries with
  | nil =>
      have none_ : before.cache.size = 0 := congrArg List.length entries
      omega
  | cons first rest =>
      have member : first ∈ before.cache.entries := by
        rw [entries]
        exact List.mem_cons_self
      have oldest : (state.cacheSet call).cache.oldest? = some first.2 := by
        rw [JsMap.oldest?, inserted.entries, entries]
        rfl
      exact ⟨first, rest, rfl, by omega, between.not_cached idle member, between.entry member,
        insert_full full oldest⟩

/-! ### Eviction -/

structure Evicting (before : CacheState) (call : CallId) (sql : String) (oldest : CallId)
    (status : StatementStatus) (state : CacheState) : Prop where
  close : state.close = .notCalled
  own : state.statements call = { sql := sql, status := .opened, finalized := false }
  others : ∀ other, other ≠ call → other ≠ oldest →
    state.statements other = before.statements other
  evicted : (state.statements oldest).status = status
  waits : Waits state call (.evicting oldest)

theorem Inserted.evicting (inserted : Inserted before call sql state) {oldest : CallId}
    (differs : oldest ≠ call) (opened : (before.statements oldest).status = .opened) :
    Evicting before call sql oldest .closing
      ((state.finalize oldest).setCall call (.evicting oldest)) := by
  have isOpen : (state.statements oldest).status = .opened := by
    rw [inserted.statements oldest differs]
    exact opened
  have closes : state.finalize oldest = state.setStatus oldest .closing := if_pos isOpen
  rw [closes]
  refine ⟨inserted.close, ?_, ?_, ?_, Function.update_self _ _ _, ?_⟩
  · exact (Function.update_of_ne differs.symm _ _).trans inserted.own
  · intro other notCall notOldest
    exact (Function.update_of_ne notOldest _ _).trans (inserted.statements other notCall)
  · exact congrArg CachedStatement.status (Function.update_self oldest _ state.statements)
  · intro other notCall
    change (Function.update state.calls call _ other).pending = false
    rw [Function.update_of_ne notCall]
    exact inserted.waits.others other notCall

theorem Evicting.finalized {oldest : CallId} {status : StatementStatus}
    (evicting : Evicting before call sql oldest status state) (differs : oldest ≠ call) :
    Evicting before call sql oldest .closed (state.finalized oldest) := by
  refine ⟨evicting.close, ?_, ?_, ?_, ⟨evicting.waits.phase, evicting.waits.others⟩⟩
  · exact (Function.update_of_ne differs.symm _ _).trans evicting.own
  · intro other notCall notOldest
    exact (Function.update_of_ne notOldest _ _).trans (evicting.others other notCall notOldest)
  · exact congrArg CachedStatement.status (Function.update_self oldest _ state.statements)

theorem Evicting.closing (between : before.Between cacheSize) {oldest : CallId}
    {status : StatementStatus} (evicting : Evicting before call sql oldest status state)
    {other : CallId} (closing : (state.statements other).status = .closing) : other = oldest := by
  by_contra notOldest
  by_cases same : other = call
  · rw [same, evicting.own] at closing
    cases closing
  · rw [evicting.others other same notOldest] at closing
    exact between.settled.statements other closing

theorem Evicting.unclosed (between : before.Between cacheSize) {oldest : CallId}
    (closed : Evicting before call sql oldest .closed state) (id : CallId) :
    (state.statements id).status ≠ .closing := by
  intro closing
  have same := closed.closing between closing
  rw [same, closed.evicted] at closing
  cases closing

theorem Evicting.settled (between : before.Between cacheSize) {oldest : CallId}
    (closed : Evicting before call sql oldest .closed state) :
    (state.answer call call).Settled :=
  closed.waits.returned (closed.unclosed between) closed.close call

/-- What is awaited ends in this order: the statement in front is closed, then the call goes
on. -/
theorem Evicting.ends (between : before.Between cacheSize) {oldest : CallId}
    (evicting : Evicting before call sql oldest .closing state) (differs : oldest ≠ call)
    (completes : ∀ event ∈ events, Completes event)
    (ran : Machine.run (step cacheSize) state events = some after) (settled : after.Settled) :
    after = (state.finalized oldest).answer call call := by
  have unopening (other : CallId) : state.calls other ≠ .opening := by
    intro opening
    cases (evicting.waits.only opening rfl).2
  have waiting (other awaited : CallId) (waits : state.calls other = .evicting awaited) :
      awaited = oldest := by
    cases (evicting.waits.only waits rfl).2
    rfl
  obtain ⟨rest, completes, ran⟩ := closing_finalized evicting.evicted
    (fun _ closing => evicting.closing between closing) unopening waiting completes ran settled
  have closed := evicting.finalized differs
  obtain ⟨rest, completes, ran⟩ := closed.waits.evicted (closed.unclosed between) completes ran
    settled
  exact (closed.settled between).stays completes ran

/-- Without the entry in front there is room for the new one. -/
theorem delete_oldest (absent : before.cache.get? sql = none)
    {first : String × CallId} {rest : List (String × CallId)}
    (entries : before.cache.entries = first :: rest) (full : before.cache.size = cacheSize)
    {cache : JsMap String CallId} (grown : cache.entries = before.cache.entries ++ [(sql, call)]) :
    (cache.delete first.1).entries =
      Recency.trim cacheSize (Recency.use sql call before.cache.entries) := by
  have distinct : (before.cache.entries.map Prod.fst).Nodup := before.cache.distinct
  rw [entries, List.map_cons, List.nodup_cons] at distinct
  have later : ∀ entry ∈ rest ++ [(sql, call)], entry.1 ≠ first.1 := by
    intro entry member same
    rcases List.mem_append.1 member with old | new
    · exact distinct.1 (same ▸ List.mem_map_of_mem old)
    · rw [List.mem_singleton.1 new] at same
      have isFirst : first ∈ before.cache.entries := by
        rw [entries]
        exact List.mem_cons_self
      exact entries_ne absent isFirst same.symm
  have length : (rest ++ [(sql, call)]).length = cacheSize := by
    have size : before.cache.size = rest.length + 1 := congrArg List.length entries
    rw [List.length_append, List.length_singleton, ← size, full]
  rw [JsMap.entries_delete, grown, Recency.use,
    Recency.without_absent fun entry => entries_ne absent, entries, List.cons_append,
    Recency.trim_of_succ length, List.filter_cons_of_neg (by simp)]
  exact Recency.without_absent later

theorem Evicting.miss {first : String × CallId} {rest : List (String × CallId)}
    (absent : before.cache.get? sql = none) (entries : before.cache.entries = first :: rest)
    (full : before.cache.size = cacheSize)
    (evicting : Evicting before call sql first.2 .closing state) (differs : first.2 ≠ call)
    (text : (state.statements first.2).sql = first.1)
    (grown : state.cache.entries = before.cache.entries ++ [(sql, call)]) :
    Miss cacheSize before call sql ((state.finalized first.2).answer call call) := by
  have closed := evicting.finalized differs
  refine ⟨Function.update_self _ _ _, ?_, ?_, ?_⟩
  · change ((state.finalized first.2).statements call).status = .opened ∧
      ((state.finalized first.2).statements call).sql = sql
    rw [closed.own]
    exact ⟨rfl, rfl⟩
  · intro other notCall changed
    have same : other = first.2 := by
      by_contra notOldest
      exact changed (closed.others other notCall notOldest)
    rw [same]
    refine ⟨full, ?_, closed.evicted⟩
    rw [JsMap.oldest?, entries]
    rfl
  · change (state.cache.delete (state.statements first.2).sql).entries = _
    rw [text]
    exact delete_oldest absent entries full grown

/-- A `prepare` of a new text opens a statement or fails. -/
theorem Between.miss (positive : 0 < cacheSize) (between : before.Between cacheSize)
    (absent : before.cache.get? sql = none)
    (performed : Performed cacheSize before (.prepare call sql) after) :
    after.Between cacheSize ∧
      (Miss cacheSize before call sql after ∨ Failure before call after) := by
  obtain ⟨idle, tidy, few, events, completes, ran, settled⟩ := between.prepares performed
  have opening : Opening before call sql (before.prepare call sql) := between.opening absent
  obtain ⟨result, rest, completes, ran⟩ :=
    opening.waits.opened (opening.unclosed between) completes ran settled
  have text : ((before.prepare call sql).statements call).sql = sql :=
    congrArg CachedStatement.sql opening.own
  cases result with
  | error thrown =>
      obtain ⟨finished, failed⟩ := opening.failed between thrown
      have orderly : Orderly cacheSize (before.prepare call sql) (.opened call (.error thrown)) :=
        trivial
      obtain ⟨tidy, few⟩ := tidy.opened few opening.waits.phase orderly
      cases finished.stays completes ran
      exact ⟨⟨tidy, few, finished, opening.close⟩, Or.inr failed⟩
  | ok value =>
      have unknown : (before.prepare call sql).cache.get?
          ((before.prepare call sql).statements call).sql = none := by
        rw [text, opening.cache]
        exact absent
      obtain ⟨tidy, few⟩ := tidy.insert few opening.waits.phase unknown
        (opening.roomy between idle positive)
      have inserted := opening.inserted absent
      change Machine.run _ ((before.prepare call sql).insert cacheSize call) rest = _ at ran
      rcases Nat.lt_or_ge cacheSize ((before.prepare call sql).cacheSet call).cache.size with
        full | fits
      · obtain ⟨first, others, entries, exact, differs, opened, evicts⟩ :=
          inserted.evicts between idle positive full
        rw [evicts] at ran tidy few
        have evicting := inserted.evicting differs opened.1
        cases evicting.ends between differs completes ran settled
        have kept := ((before.prepare call sql).cacheSet call).finalize_restates first.2
        obtain ⟨statements, same, restated, _⟩ := kept
        refine ⟨⟨?_, (live_finalized first.2).trans few, settled, evicting.close⟩, Or.inl ?_⟩
        · have closed := evicting.finalized differs
          apply (tidy.finalized evicting.evicted).answer call
          · rw [closed.own]
            exact Or.inl rfl
          · rw [closed.own]
            exact Or.inl rfl
        · refine evicting.miss absent entries exact differs ?_ ?_
          · change (((before.prepare call sql).cacheSet call).finalize
              first.2 |>.statements first.2).sql = first.1
            rw [same, ← opened.2, ← inserted.statements _ differs]
            exact (restated first.2).sql
          · change (((before.prepare call sql).cacheSet call).finalize first.2).cache.entries = _
            rw [same]
            exact inserted.entries
      · rw [insert_fits fits] at ran tidy few
        obtain ⟨finished, missed⟩ := inserted.fits between absent fits
        cases finished.stays completes ran
        exact ⟨⟨tidy, few, finished, inserted.close⟩, Or.inl missed⟩

/-- The user finalizes a statement.  One that is not open is left alone. -/
theorem userFinalize_cases (settled : state.Settled) (id : CallId) :
    let known := state.setStatement id { state.statements id with finalized := true }
    (known.finalize id).calls = state.calls ∧ (known.finalize id).close = state.close ∧
      (known.finalize id).cache = state.cache ∧
      ∀ other, ((known.finalize id).statements other).status = .closing → other = id := by
  intro known
  have unclosed : ∀ other, other ≠ id → (known.statements other).status ≠ .closing := by
    intro other differs
    change (Function.update state.statements id _ other).status ≠ .closing
    rw [Function.update_of_ne differs]
    exact settled.statements other
  obtain ⟨statements, same, _, others, _⟩ := known.finalize_restates id
  rw [same]
  refine ⟨rfl, rfl, rfl, fun other closing => ?_⟩
  by_contra differs
  change (statements other).status = .closing at closing
  rw [others other differs] at closing
  exact unclosed other differs closing

theorem Between.finalizes (between : before.Between cacheSize) {id : CallId}
    (performed : Performed cacheSize before (.finalize id) after) :
    after.Between cacheSize ∧ after.cache.entries.Sublist before.cache.entries := by
  obtain ⟨events, completes, ran, settled⟩ := performed
  obtain ⟨next, stepped, ran⟩ := Machine.run_cons_iff.1 ran
  have orderly : Orderly cacheSize before (.finalize id) := trivial
  obtain ⟨tidy, few⟩ := between.tidy.step between.few orderly stepped
  simp only [CacheCall.start, step, Option.ite_none_right_eq_some, Option.some.injEq] at stepped
  obtain ⟨_, rfl⟩ := stepped
  obtain ⟨calls, close, cache, only⟩ := userFinalize_cases between.settled id
  generalize ((before.setStatement id { before.statements id with finalized := true }).finalize
    id) = asked at *
  have quiet (call : CallId) : (asked.calls call).pending = false := by
    rw [calls]
    exact between.settled.calls call
  have pending : asked.close.pending = false := by
    rw [close]
    exact between.settled.close
  by_cases closing : (asked.statements id).status = .closing
  · obtain ⟨rest, completes, ran⟩ := closing_finalized closing only
      (fun call => calls_ne (quiet call) rfl)
      (fun call _ evicting => absurd evicting (calls_ne (quiet call) rfl))
      completes ran settled
    have finishes : (asked.finalized id).Settled := by
      refine ⟨quiet, fun other stillClosing => ?_, pending⟩
      change (Function.update asked.statements id _ other).status = .closing at stillClosing
      by_cases same : other = id
      · rw [same, Function.update_self] at stillClosing
        cases stillClosing
      · rw [Function.update_of_ne same] at stillClosing
        exact same (only other stillClosing)
    cases finishes.stays completes ran
    refine ⟨⟨tidy.finalized closing, (live_finalized id).trans few, finishes, ?_⟩, ?_⟩
    · exact close.trans between.close
    · have fewer := JsMap.entries_delete_sublist asked.cache (asked.statements id).sql
      rw [cache] at fewer
      change (asked.cache.delete (asked.statements id).sql).entries.Sublist _
      rw [cache]
      exact fewer
  · have finishes : asked.Settled := by
      refine ⟨quiet, fun other stillClosing => ?_, pending⟩
      cases only other stillClosing
      exact closing stillClosing
    cases finishes.stays completes ran
    refine ⟨⟨tidy, few, finishes, close.trans between.close⟩, ?_⟩
    rw [cache]

private theorem step_prepare (idle : state.calls call = .idle) :
    step cacheSize state (.prepare call sql) = some (state.prepare call sql) :=
  if_pos idle

private theorem step_opened (opening : state.calls call = .opening) (result : Except JsValue Unit) :
    step cacheSize state (.opened call result) = some (state.opened cacheSize call result) :=
  if_pos opening

private theorem step_finalized {id : CallId} (closing : (state.statements id).status = .closing) :
    step cacheSize state (.finalized id) = some (state.finalized id) :=
  if_pos closing

private theorem step_evicted {oldest : CallId} (evicting : state.calls call = .evicting oldest)
    (closed : (state.statements oldest).status = .closed) :
    step cacheSize state (.evicted call) = some (state.answer call call) := by
  simp only [step, evicting, closed, if_true]

theorem Between.completes (positive : 0 < cacheSize) (between : before.Between cacheSize)
    (idle : before.calls call = .idle) (sql : String) :
    ∃ after, Performed cacheSize before (.prepare call sql) after := by
  have starts : step cacheSize before (.prepare call sql) = _ := step_prepare idle
  cases cached : before.cache.get? sql with
  | some statement =>
      exact ⟨_, [], fun _ member => absurd member List.not_mem_nil,
        Machine.run_cons_iff.2 ⟨_, starts, rfl⟩, between.hit_settled cached⟩
  | none =>
      have opening : Opening before call sql (before.prepare call sql) := between.opening cached
      have inserted := opening.inserted cached
      have opens : step cacheSize _ (.opened call (.ok ())) = _ :=
        step_opened opening.waits.phase (.ok ())
      rcases Nat.lt_or_ge cacheSize ((before.prepare call sql).cacheSet call).cache.size with
        full | fits
      · obtain ⟨first, _, _, _, differs, opened, evicts⟩ :=
          inserted.evicts between idle positive full
        have evicting := inserted.evicting differs opened.1
        have closed := evicting.finalized differs
        rw [← evicts] at evicting closed
        refine ⟨_, [.opened call (.ok ()), .finalized first.2, .evicted call], ?_,
          Machine.run_cons_iff.2 ⟨_, starts, Machine.run_cons_iff.2 ⟨_, opens,
            Machine.run_cons_iff.2 ⟨_, step_finalized evicting.evicted,
              Machine.run_cons_iff.2 ⟨_, step_evicted closed.waits.phase closed.evicted,
                rfl⟩⟩⟩⟩, closed.settled between⟩
        intro event member
        rcases List.mem_cons.1 member with rfl | member
        · trivial
        · rcases List.mem_cons.1 member with rfl | member
          · trivial
          · cases List.mem_singleton.1 member
            trivial
      · have finished := (inserted.fits between cached fits).1
        rw [← insert_fits fits] at finished
        refine ⟨_, [.opened call (.ok ())], ?_, Machine.run_cons_iff.2 ⟨_, starts,
          Machine.run_cons_iff.2 ⟨_, opens, rfl⟩⟩, finished⟩
        intro event member
        cases List.mem_singleton.1 member
        trivial

private theorem prepared_prepare (calls : List CacheCall) (call : CallId) (sql : String) :
    prepared (calls ++ [.prepare call sql]) = prepared calls ++ [sql] := by
  unfold prepared
  rw [List.filterMap_append]
  rfl

private theorem prepared_finalize (calls : List CacheCall) (id : CallId) :
    prepared (calls ++ [.finalize id]) = prepared calls := by
  unfold prepared
  rw [List.filterMap_append]
  exact List.append_nil _

theorem CallRun.between (positive : 0 < cacheSize) {calls : List CacheCall}
    (run : CallRun cacheSize calls state) :
    state.Between cacheSize ∧ Recency.Ordered (prepared calls) state.cache.entries := by
  induction run with
  | nil => exact ⟨between_initial, Recency.ordered_nil⟩
  | @next calls before after call earlier performed ih =>
      obtain ⟨between, ordered⟩ := ih
      cases call with
      | finalize id =>
          obtain ⟨finalized, fewer⟩ := between.finalizes performed
          rw [prepared_finalize]
          exact ⟨finalized, ordered.sublist fewer⟩
      | prepare call sql =>
          rw [prepared_prepare]
          cases cached : before.cache.get? sql with
          | some statement =>
              obtain ⟨returned, hit⟩ := between.hit cached performed
              refine ⟨returned, ?_⟩
              rw [hit.cache]
              exact ordered.use sql statement
          | none =>
              obtain ⟨returned, missed | failed⟩ := between.miss positive cached performed
              · refine ⟨returned, ?_⟩
                rw [missed.cache]
                exact (ordered.use sql call).sublist (Recency.trim_sublist _ _)
              · refine ⟨returned, ?_⟩
                rw [failed.cache]
                exact ordered.then_use fun entry => entries_ne cached

/-- After every call the cache holds the statements that were prepared last.  The next
`prepare` is answered from it, and comes to its end. -/
theorem cache_exact (positive : 0 < cacheSize) {calls : List CacheCall}
    (run : CallRun cacheSize calls state) :
    state.Exact cacheSize calls ∧
    ∀ call sql,
      (state.calls call = .idle → ∃ after, Performed cacheSize state (.prepare call sql) after) ∧
      ∀ after, Performed cacheSize state (.prepare call sql) after →
        (∀ statement, state.cache.get? sql = some statement →
          Hit state call sql statement after) ∧
        (state.cache.get? sql = none →
          Miss cacheSize state call sql after ∨ Failure state call after) := by
  obtain ⟨between, ordered⟩ := run.between positive
  refine ⟨between.exact ordered, fun call sql => ⟨?_, fun after performed => ⟨?_, ?_⟩⟩⟩
  · intro idle
    exact between.completes positive idle sql
  · intro statement cached
    exact (between.hit cached performed).2
  · intro absent
    exact (between.miss positive absent performed).2

private theorem settled_of_five {state : CacheState}
    (first : state.close = .notCalled ∧ ∀ id < 5,
      (state.calls id).pending = false ∧ (state.statements id).status ≠ .closing)
    (unused : ∀ id, state.calls (id + 5) = .idle ∧ (state.statements (id + 5)).status = .unmade) :
    state.Settled := by
  have quiet (id : CallId) :
      (state.calls id).pending = false ∧ (state.statements id).status ≠ .closing := by
    rcases Nat.lt_or_ge id 5 with few | many
    · exact first.2 id few
    · obtain ⟨idle, unmade⟩ := unused (id - 5)
      rw [Nat.sub_add_cancel many] at idle unmade
      rw [idle, unmade]
      exact ⟨rfl, StatementStatus.noConfusion⟩
  exact ⟨fun call => (quiet call).1, fun id => (quiet id).2, by rw [first.1]; rfl⟩

private theorem CallRun.tail {calls : List CacheCall} {before after : CacheState}
    (earlier : CallRun cacheSize calls before) (call : CacheCall) (events : List CacheEvent)
    (completes : ∀ event ∈ events, Completes event)
    (ran : Machine.run (step cacheSize) before (call.start :: events) = some after)
    (settled : after.Settled) : CallRun cacheSize (calls ++ [call]) after :=
  .next earlier ⟨events, completes, ran, settled⟩

def fullCache : List CacheCall :=
  [.prepare 0 "SELECT 1", .prepare 1 "SELECT 2", .prepare 2 "SELECT 1", .prepare 3 "SELECT 3",
    .finalize 0, .prepare 4 "SELECT"]

private theorem fullCache_run : ∃ state, CallRun 2 fullCache state := by
  have run : CallRun 2 fullCache _ := CallRun.nil
    |>.tail (.prepare 0 "SELECT 1") [.opened 0 (.ok ())] (by simp [Completes]) rfl
      (settled_of_five (by decide) fun _ => ⟨rfl, rfl⟩)
    |>.tail (.prepare 1 "SELECT 2") [.opened 1 (.ok ())] (by simp [Completes]) rfl
      (settled_of_five (by decide) fun _ => ⟨rfl, rfl⟩)
    |>.tail (.prepare 2 "SELECT 1") [] (by simp) rfl
      (settled_of_five (by decide) fun _ => ⟨rfl, rfl⟩)
    |>.tail (.prepare 3 "SELECT 3") [.opened 3 (.ok ()), .finalized 1, .evicted 3]
      (by simp [Completes]) rfl
      (settled_of_five (by decide) fun _ => ⟨rfl, rfl⟩)
    |>.tail (.finalize 0) [.finalized 0] (by simp [Completes]) rfl
      (settled_of_five (by decide) fun _ => ⟨rfl, rfl⟩)
    |>.tail (.prepare 4 "SELECT") [.opened 4 (.error .undefined)] (by simp [Completes]) rfl
      (settled_of_five (by decide) fun _ => ⟨rfl, rfl⟩)
  exact ⟨_, run⟩

theorem cache_exact_full : ∃ state,
    CallRun 2 fullCache state ∧ state.Exact 2 fullCache ∧
    ∀ call sql,
      (state.calls call = .idle → ∃ after, Performed 2 state (.prepare call sql) after) ∧
      ∀ after, Performed 2 state (.prepare call sql) after →
        (∀ statement, state.cache.get? sql = some statement →
          Hit state call sql statement after) ∧
        (state.cache.get? sql = none →
          Miss 2 state call sql after ∨ Failure state call after) := by
  obtain ⟨state, run⟩ := fullCache_run
  exact ⟨state, run, cache_exact Nat.two_pos run⟩

end CacheState
end ParaQL
