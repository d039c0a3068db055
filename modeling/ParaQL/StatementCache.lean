/-
The cache of prepared statements, under overlapping calls.

`prepare` waits between its lookup and its insertion, and again while it evicts; a
statement that closes deletes the entry of its SQL text, whichever statement that
holds.  Here any number of `prepare`, `finalize` and `close` calls overlap.
-/

import ParaQL.Async.Machine
import ParaQL.JsMap
import ParaQL.Oplog

namespace ParaQL

open Async

inductive StatementStatus where
  | unmade
  -- `binding.prepare` is awaited.
  | opening
  | failed
  | opened
  -- `binding.finalize` is awaited.
  | closing
  | closed
  deriving DecidableEq, Repr

def StatementStatus.isOpen : StatementStatus → Bool
  | .opened => true
  | .closing => true
  | _ => false

theorem StatementStatus.opened_of_isOpen {status : StatementStatus} (isOpen : status.isOpen = true)
    (unclosed : status ≠ .closing) : status = .opened := by
  cases status with
  | opened => rfl
  | closing => exact absurd rfl unclosed
  | unmade => cases isOpen
  | opening => cases isOpen
  | failed => cases isOpen
  | closed => cases isOpen

structure CachedStatement where
  sql : String
  status : StatementStatus
  -- The user has called `finalize`.  No code reads this.
  finalized : Bool
  deriving DecidableEq, Repr

inductive PreparePhase where
  | idle
  | opening
  | evicting (oldest : CallId)
  | returned (statement : CallId)
  | threw (thrown : JsValue)
  deriving DecidableEq, Repr

def PreparePhase.pending : PreparePhase → Bool
  | .opening => true
  | .evicting _ => true
  | _ => false

/-- The `close` of the database. -/
inductive ClosePhase where
  | notCalled
  -- The position of the iterator, and the statement whose `finalize` is awaited.
  | iterating (position : Nat) (waiting : CallId)
  | ending
  | threw
  | closed
  deriving DecidableEq, Repr

def ClosePhase.pending : ClosePhase → Bool
  | .iterating _ _ => true
  | .ending => true
  | _ => false

/-- A statement that a `prepare` has returned, as it was then. -/
structure GivenStatement where
  statement : CallId
  status : StatementStatus
  finalized : Bool
  deriving DecidableEq, Repr

/-- A statement is known by the `prepare` call that made it. -/
structure CacheState where
  cache : JsMap String CallId
  statements : CallId → CachedStatement
  calls : CallId → PreparePhase
  close : ClosePhase
  -- No code reads this.
  returns : List GivenStatement

inductive CacheEvent where
  | prepare (call : CallId) (sql : String)
  | opened (call : CallId) (result : Except JsValue Unit)
  | evicted (call : CallId)
  | finalize (statement : CallId)
  | finalized (statement : CallId)
  | close
  | closeNext
  | closeEnds (resolves : Bool)

namespace CacheState

def initial : CacheState :=
  { cache := .empty
    statements := fun _ => { sql := "", status := .unmade, finalized := false }
    calls := fun _ => .idle
    close := .notCalled
    returns := [] }

def setStatement (state : CacheState) (id : CallId) (statement : CachedStatement) : CacheState :=
  { state with statements := Function.update state.statements id statement }

def setStatus (state : CacheState) (id : CallId) (status : StatementStatus) : CacheState :=
  state.setStatement id { state.statements id with status := status }

def setCall (state : CacheState) (call : CallId) (phase : PreparePhase) : CacheState :=
  { state with calls := Function.update state.calls call phase }

/-- `return stmt`. -/
def answer (state : CacheState) (call statement : CallId) : CacheState :=
  { state.setCall call (.returned statement) with
    returns := state.returns ++ [{
      statement := statement
      status := (state.statements statement).status
      finalized := (state.statements statement).finalized }] }

/-- `stmt.finalize()`, up to its first `await`.  `ReadyResource` closes a statement once. -/
def finalize (state : CacheState) (statement : CallId) : CacheState :=
  if (state.statements statement).status = .opened then state.setStatus statement .closing
  else state

def prepare (state : CacheState) (call : CallId) (sql : String) : CacheState :=
  if state.close = .closed then state.setCall call (.threw (.error JsError.alreadyClosed))
  else
    match state.cache.get? sql with
    | some statement =>
        { state with cache := (state.cache.delete sql).set sql statement }.answer call statement
    | none =>
        (state.setStatement call { sql := sql, status := .opening, finalized := false }).setCall
          call .opening

/-- `this._cache.set(sql, stmt)`, once the statement is open. -/
def cacheSet (state : CacheState) (call : CallId) : CacheState :=
  { state.setStatus call .opened with
    cache := state.cache.set (state.statements call).sql call }

def insert (cacheSize : Nat) (state : CacheState) (call : CallId) : CacheState :=
  let inserted := state.cacheSet call
  if inserted.cache.size > cacheSize then
    match inserted.cache.oldest? with
    | some oldest => (inserted.finalize oldest).setCall call (.evicting oldest)
    | none => inserted.answer call call
  else inserted.answer call call

def opened (cacheSize : Nat) (state : CacheState) (call : CallId) (result : Except JsValue Unit) :
    CacheState :=
  match result with
  | .ok _ => state.insert cacheSize call
  | .error thrown => (state.setStatus call .failed).setCall call (.threw thrown.fromThrown)

/-- The rest of `_close` of a statement. -/
def finalized (state : CacheState) (statement : CallId) : CacheState :=
  { state.setStatus statement .closed with
    cache := state.cache.delete (state.statements statement).sql }

/-- `for (const stmt of this._cache.values()) await stmt.finalize()`, from a position on. -/
def closeFrom (state : CacheState) (position : Nat) : CacheState :=
  match state.cache.next? position with
  | some (later, entry) =>
      { state.finalize entry.2 with close := .iterating later entry.2 }
  | none => { state with cache := state.cache.clear, close := .ending }

def step (cacheSize : Nat) (state : CacheState) : CacheEvent → Option CacheState
  | .prepare call sql =>
      if state.calls call = .idle then some (state.prepare call sql) else none
  | .opened call result =>
      if state.calls call = .opening then some (state.opened cacheSize call result) else none
  | .evicted call =>
      match state.calls call with
      | .evicting oldest =>
          if (state.statements oldest).status = .closed then some (state.answer call call) else none
      | _ => none
  | .finalize statement =>
      if state.returns.any fun returned => returned.statement = statement then
        some ((state.setStatement statement
          { state.statements statement with finalized := true }).finalize statement)
      else none
  | .finalized statement =>
      if (state.statements statement).status = .closing then some (state.finalized statement)
      else none
  | .close => if state.close = .notCalled then some (state.closeFrom 0) else none
  | .closeNext =>
      match state.close with
      | .iterating position waiting =>
          if (state.statements waiting).status = .closed then some (state.closeFrom position)
          else none
      | _ => none
  | .closeEnds resolves =>
      if state.close = .ending then
        some { state with close := if resolves then .closed else .threw }
      else none

/-! ### No orphans -/

structure Settled (state : CacheState) : Prop where
  calls : ∀ call, (state.calls call).pending = false
  statements : ∀ id, (state.statements id).status ≠ .closing
  close : state.close.pending = false

structure NoOrphans (cacheSize : Nat) (state : CacheState) : Prop where
  returns : ∀ returned ∈ state.returns, returned.status = .opened ∨ returned.finalized = true
  single : ∀ first second, (state.statements first).status.isOpen = true →
    (state.statements second).status.isOpen = true →
    (state.statements first).sql = (state.statements second).sql → first = second
  size : state.Settled → state.cache.size ≤ cacheSize
  closed : state.close = .closed → ∀ returned ∈ state.returns,
    (state.statements returned.statement).status = .closed

def LeavesNoOrphans : Prop :=
  ∀ cacheSize events final, Machine.run (step cacheSize) initial events = some final →
    final.NoOrphans cacheSize

def countOpen (statements : CallId → CachedStatement) (entries : List (String × CallId)) : Nat :=
  entries.countP fun entry => (statements entry.2).status = .opened

def live (state : CacheState) : Nat := countOpen state.statements state.cache.entries

/-- There is a place in the cache for one more statement, or there will be: the oldest one
is open and given to somebody, or it is closing already and makes the place. -/
def Roomy (cacheSize : Nat) (state : CacheState) : Prop :=
  state.cache.size < cacheSize ∨ ∃ oldest, state.cache.oldest? = some oldest ∧
    ((state.statements oldest).status = .opened ∧ (state.calls oldest).pending = false ∨
      (state.statements oldest).status = .closing ∧ state.live < cacheSize)

/-- `prepare` finds no statement that others are closing, inserts its statement where none
of the same text is and where there is room, and does not overlap with `close`. -/
def Orderly (cacheSize : Nat) (state : CacheState) : CacheEvent → Prop
  | .prepare _ sql => state.close.pending = false ∧ ∀ statement,
      state.cache.get? sql = some statement →
        (state.statements statement).status = .opened ∨
          (state.statements statement).finalized = true
  | .opened call (.ok _) =>
      state.cache.get? (state.statements call).sql = none ∧ state.Roomy cacheSize
  | .close => ∀ call, (state.calls call).pending = false
  | _ => True

/-! ### The invariant -/

/-- The cache holds the open statements, each under its text. -/
structure Tidy (state : CacheState) : Prop where
  entry : ∀ key id, state.cache.get? key = some id →
    (state.statements id).sql = key ∧ (state.statements id).status.isOpen = true
  cached : ∀ id, (state.statements id).status.isOpen = true →
    state.cache.get? (state.statements id).sql = some id
  idle : ∀ call, state.calls call = .idle → (state.statements call).status = .unmade
  opening : ∀ call, state.calls call = .opening → (state.statements call).status = .opening
  evicting : ∀ call oldest, state.calls call = .evicting oldest →
    (state.statements call).status.isOpen = true ∨ (state.statements call).status = .closed
  owned : ∀ call oldest, state.calls call = .evicting oldest →
    (state.statements call).status = .opened ∨ (state.statements call).finalized = true
  returned : ∀ returned ∈ state.returns,
    ((state.statements returned.statement).status.isOpen = true ∨
      (state.statements returned.statement).status = .closed) ∧
    (returned.status = .opened ∨ returned.finalized = true)
  alone : state.close.pending = true ∨ state.close = .closed →
    ∀ call, (state.calls call).pending = false
  visited : ∀ position waiting, state.close = .iterating position waiting →
    ∀ (index : Nat) entry, index < position → state.cache.slots[index]? = some (some entry) →
      entry.2 = waiting
  emptied : state.close = .ending ∨ state.close = .closed → state.cache.entries = []

variable {cacheSize : Nat} {state next : CacheState}

theorem Tidy.single (tidy : state.Tidy) {first second : CallId}
    (firstOpen : (state.statements first).status.isOpen = true)
    (secondOpen : (state.statements second).status.isOpen = true)
    (same : (state.statements first).sql = (state.statements second).sql) : first = second := by
  have found := tidy.cached first firstOpen
  rw [same, tidy.cached second secondOpen] at found
  exact (Option.some.inj found).symm

theorem Tidy.entries (tidy : state.Tidy) {entry : String × CallId}
    (member : entry ∈ state.cache.entries) :
    (state.statements entry.2).sql = entry.1 ∧
      (state.statements entry.2).status.isOpen = true :=
  tidy.entry entry.1 entry.2 (JsMap.get?_eq_some_iff.2 member)

theorem Tidy.noOrphans (tidy : state.Tidy) (few : state.live ≤ cacheSize) :
    state.NoOrphans cacheSize := by
  refine ⟨fun returned member => (tidy.returned returned member).2, ?_, ?_, ?_⟩
  · exact fun first second => tidy.single
  · intro settled
    have all : state.live = state.cache.size := by
      refine List.countP_eq_length.2 fun entry member => ?_
      rw [decide_eq_true_eq]
      exact StatementStatus.opened_of_isOpen (tidy.entries member).2 (settled.statements entry.2)
    exact all ▸ few
  · intro closed returned member
    refine ((tidy.returned returned member).1).resolve_left fun isOpen => ?_
    have found := JsMap.get?_eq_some_iff.1 (tidy.cached _ isOpen)
    rw [tidy.emptied (Or.inr closed)] at found
    cases found

/-! ### Steps -/

/-- What `finalize` does to statements: an open one is closing. -/
structure Restated (before after : CachedStatement) : Prop where
  sql : after.sql = before.sql
  status : after.status = before.status ∨ before.status = .opened ∧ after.status = .closing
  finalized : before.finalized = true → after.finalized = true

theorem Restated.isOpen {before after : CachedStatement} (restated : Restated before after) :
    after.status.isOpen = before.status.isOpen := by
  rcases restated.status with same | ⟨opened, closing⟩
  · rw [same]
  · rw [opened, closing]
    rfl

private theorem Restated.eq_iff {before after : CachedStatement} (restated : Restated before after)
    {status : StatementStatus} (neither : status.isOpen = false) :
    after.status = status ↔ before.status = status := by
  rcases restated.status with same | ⟨opened, closing⟩
  · rw [same]
  · rw [opened, closing]
    constructor <;> intro same <;> rw [← same] at neither <;> cases neither

private theorem Tidy.restate (tidy : state.Tidy) {statements : CallId → CachedStatement}
    (restated : ∀ id, Restated (state.statements id) (statements id))
    (owned : ∀ call oldest, state.calls call = .evicting oldest →
      (statements call).status = .opened ∨ (statements call).finalized = true) :
    Tidy { state with statements := statements } := by
  refine ⟨?_, ?_, ?_, ?_, ?_, owned, ?_, tidy.alone, tidy.visited, tidy.emptied⟩
  · intro key id found
    obtain ⟨sql, isOpen⟩ := tidy.entry key id found
    exact ⟨(restated id).sql.trans sql, (restated id).isOpen.trans isOpen⟩
  · intro id isOpen
    have found := tidy.cached id ((restated id).isOpen.symm.trans isOpen)
    rw [← (restated id).sql] at found
    exact found
  · exact fun call idle => ((restated call).eq_iff rfl).2 (tidy.idle call idle)
  · exact fun call opening => ((restated call).eq_iff rfl).2 (tidy.opening call opening)
  · intro call oldest evicting
    refine (tidy.evicting call oldest evicting).imp ?_ ?_
    · exact fun isOpen => (restated call).isOpen.trans isOpen
    · exact fun closed => ((restated call).eq_iff rfl).2 closed
  · intro returned member
    refine ⟨(tidy.returned returned member).1.imp ?_ ?_, (tidy.returned returned member).2⟩
    · exact fun isOpen => (restated _).isOpen.trans isOpen
    · exact fun closed => ((restated _).eq_iff rfl).2 closed

private theorem countOpen_mono {before after : CallId → CachedStatement}
    {entries : List (String × CallId)}
    (opened : ∀ entry ∈ entries, (after entry.2).status = .opened →
      (before entry.2).status = .opened) : countOpen after entries ≤ countOpen before entries := by
  refine List.countP_mono_left fun entry member isOpen => ?_
  rw [decide_eq_true_eq] at isOpen ⊢
  exact opened entry member isOpen

private theorem live_le (fewer : next.cache.entries.Sublist state.cache.entries)
    (opened : ∀ id, (next.statements id).status = .opened →
      (state.statements id).status = .opened) : next.live ≤ state.live :=
  (countOpen_mono fun entry _ => opened entry.2).trans fewer.countP_le

private theorem live_restate {statements : CallId → CachedStatement}
    (restated : ∀ id, Restated (state.statements id) (statements id)) :
    live { state with statements := statements } ≤ state.live := by
  refine live_le (List.Sublist.refl _) fun id isOpen => ?_
  rcases (restated id).status with same | ⟨opened, _⟩
  · rw [← same]
    exact isOpen
  · exact opened

private theorem live_setStatement (id : CallId) {statement : CachedStatement}
    (stays : statement.status ≠ .opened) : (state.setStatement id statement).live ≤ state.live := by
  refine live_le (List.Sublist.refl _) fun other isOpen => ?_
  simp only [setStatement, Function.update_apply] at isOpen
  split at isOpen
  · exact absurd isOpen stays
  · exact isOpen

theorem finalize_restates (state : CacheState) (id : CallId) :
    ∃ statements, state.finalize id = { state with statements := statements } ∧
      (∀ other, Restated (state.statements other) (statements other)) ∧
      (∀ other, other ≠ id → statements other = state.statements other) ∧
      (statements id).status ≠ .opened ∧
      (statements id).finalized = (state.statements id).finalized := by
  unfold finalize
  split
  · rename_i opened
    refine ⟨_, rfl, fun other => ?_, fun other different => Function.update_of_ne different _ _, ?_⟩
    · by_cases same : other = id
      · subst same
        rw [Function.update_self]
        exact ⟨rfl, Or.inr ⟨opened, rfl⟩, fun known => known⟩
      · rw [Function.update_of_ne same]
        exact ⟨rfl, Or.inl rfl, fun known => known⟩
    · rw [Function.update_self]
      exact ⟨StatementStatus.noConfusion, rfl⟩
  · rename_i unopened
    exact ⟨state.statements, rfl, fun _ => ⟨rfl, Or.inl rfl, fun known => known⟩, fun _ _ => rfl,
      unopened, rfl⟩

/-- A statement may be closed when no `prepare` is about to return it, or the user says
so. -/
theorem Tidy.finalize (tidy : state.Tidy) {id : CallId}
    (free : (state.calls id).pending = false ∨ (state.statements id).finalized = true) :
    (state.finalize id).Tidy ∧ (state.finalize id).live ≤ state.live := by
  obtain ⟨statements, same, restated, others, _, finalized⟩ := state.finalize_restates id
  rw [same]
  refine ⟨tidy.restate restated fun call oldest evicting => ?_, live_restate restated⟩
  by_cases mine : call = id
  · subst mine
    rcases free with returned | known
    · rw [evicting] at returned
      cases returned
    · exact Or.inr (finalized.trans known)
  · rw [others call mine]
    exact tidy.owned call oldest evicting

private theorem Tidy.userFinalize (tidy : state.Tidy) (id : CallId) :
    let known := state.setStatement id { state.statements id with finalized := true }
    (known.finalize id).Tidy ∧ (known.finalize id).live ≤ state.live := by
  intro known
  have others {other : CallId} (different : other ≠ id) :
      known.statements other = state.statements other :=
    Function.update_of_ne different _ _
  have mine : known.statements id = { state.statements id with finalized := true } :=
    Function.update_self _ _ _
  have restated : ∀ other, Restated (state.statements other) (known.statements other) := by
    intro other
    by_cases same : other = id
    · rw [same, mine]
      exact ⟨rfl, Or.inl rfl, fun _ => rfl⟩
    · rw [others same]
      exact ⟨rfl, Or.inl rfl, fun flag => flag⟩
  have marked : (known.statements id).finalized = true := by rw [mine]
  have tidyKnown : known.Tidy := by
    refine tidy.restate restated fun call oldest evicting => ?_
    change (known.statements call).status = .opened ∨ (known.statements call).finalized = true
    by_cases same : call = id
    · rw [same]
      exact Or.inr marked
    · rw [others same]
      exact tidy.owned call oldest evicting
  obtain ⟨tidyAfter, fewer⟩ := tidyKnown.finalize (Or.inr marked)
  exact ⟨tidyAfter, fewer.trans (live_restate restated)⟩

/-- A call goes on with a statement that is in nobody's hands. -/
theorem Tidy.advance (tidy : state.Tidy) {call : CallId} {statement : CachedStatement}
    {phase : PreparePhase} (unopened : (state.statements call).status.isOpen = false)
    (unclosed : (state.statements call).status ≠ .closed)
    (stays : statement.status.isOpen = false) (begun : phase ≠ .idle)
    (opening : phase = .opening → statement.status = .opening)
    (keeps : ∀ oldest, phase ≠ .evicting oldest)
    (alone : phase.pending = true → ¬(state.close.pending = true ∨ state.close = .closed)) :
    ((state.setStatement call statement).setCall call phase).Tidy := by
  refine ⟨?_, ?_, ?_, ?_, ?_, ?_, ?_, ?_, tidy.visited, tidy.emptied⟩ <;>
    simp only [setCall, setStatement, Function.update_apply]
  · intro key id found
    obtain ⟨sql, isOpen⟩ := tidy.entry key id found
    have different : id ≠ call := by
      rintro rfl
      rw [unopened] at isOpen
      cases isOpen
    rw [if_neg different]
    exact ⟨sql, isOpen⟩
  · intro id isOpen
    split at isOpen
    · rw [stays] at isOpen
      cases isOpen
    · rename_i different
      rw [if_neg different]
      exact tidy.cached id isOpen
  · intro other idle
    split at idle
    · exact absurd idle begun
    · rename_i different
      rw [if_neg different]
      exact tidy.idle other idle
  · intro other isOpening
    split at isOpening
    · rw [if_pos ‹_›]
      exact opening isOpening
    · rw [if_neg ‹_›]
      exact tidy.opening other isOpening
  · intro other oldest evicting
    split at evicting
    · exact absurd evicting (keeps oldest)
    · rw [if_neg ‹_›]
      exact tidy.evicting other oldest evicting
  · intro other oldest evicting
    split at evicting
    · exact absurd evicting (keeps oldest)
    · rw [if_neg ‹_›]
      exact tidy.owned other oldest evicting
  · intro returned member
    obtain ⟨opened, good⟩ := tidy.returned returned member
    have different : returned.statement ≠ call := by
      intro same
      rw [same, unopened] at opened
      exact opened.elim Bool.false_ne_true unclosed
    rw [if_neg different]
    exact ⟨opened, good⟩
  · intro closing other
    split
    · cases pending : phase.pending with
      | false => rfl
      | true => exact absurd closing (alone pending)
    · exact tidy.alone closing other

/-- A call that has its statement returns it, or waits before it does. -/
theorem Tidy.setCall (tidy : state.Tidy) {call : CallId} {phase : PreparePhase}
    (begun : phase ≠ .idle) (unopening : phase ≠ .opening)
    (evicting : ∀ oldest, phase = .evicting oldest → (state.statements call).status = .opened)
    (alone : phase.pending = true → ¬(state.close.pending = true ∨ state.close = .closed)) :
    (state.setCall call phase).Tidy := by
  refine ⟨tidy.entry, tidy.cached, ?_, ?_, ?_, ?_, tidy.returned, ?_, tidy.visited,
    tidy.emptied⟩ <;> simp only [CacheState.setCall, Function.update_apply]
  · intro other idle
    split at idle
    · exact absurd idle begun
    · exact tidy.idle other idle
  · intro other opening
    split at opening
    · exact absurd opening unopening
    · exact tidy.opening other opening
  · intro other oldest waits
    split at waits
    · rename_i same
      rw [same, evicting oldest waits]
      exact Or.inl rfl
    · exact tidy.evicting other oldest waits
  · intro other oldest waits
    split at waits
    · rename_i same
      rw [same]
      exact Or.inl (evicting oldest waits)
    · exact tidy.owned other oldest waits
  · intro closing other
    split
    · cases pending : phase.pending with
      | false => rfl
      | true => exact absurd closing (alone pending)
    · exact tidy.alone closing other

theorem Tidy.returns (tidy : state.Tidy) (statement : CallId)
    (known : (state.statements statement).status.isOpen = true ∨
      (state.statements statement).status = .closed)
    (good : (state.statements statement).status = .opened ∨
      (state.statements statement).finalized = true) :
    Tidy { state with
      returns := state.returns ++ [{
        statement := statement
        status := (state.statements statement).status
        finalized := (state.statements statement).finalized }] } := by
  refine ⟨tidy.entry, tidy.cached, tidy.idle, tidy.opening, tidy.evicting, tidy.owned, ?_,
    tidy.alone, tidy.visited, tidy.emptied⟩
  intro returned member
  rcases List.mem_append.1 member with earlier | last
  · exact tidy.returned returned earlier
  · rw [List.mem_singleton.1 last]
    exact ⟨known, good⟩

theorem Tidy.answer (tidy : state.Tidy) (call : CallId) {statement : CallId}
    (known : (state.statements statement).status.isOpen = true ∨
      (state.statements statement).status = .closed)
    (good : (state.statements statement).status = .opened ∨
      (state.statements statement).finalized = true) : (state.answer call statement).Tidy := by
  have moved : (state.setCall call (.returned statement)).Tidy :=
    tidy.setCall PreparePhase.noConfusion PreparePhase.noConfusion
      (fun _ impossible => by cases impossible) fun impossible => by cases impossible
  exact moved.returns statement known good

private theorem Tidy.touch (tidy : state.Tidy) {sql : String} {statement : CallId}
    (cached : state.cache.get? sql = some statement) (calm : state.close.pending = false)
    (unclosed : state.close ≠ .closed) :
    Tidy { state with cache := (state.cache.delete sql).set sql statement } := by
  have same (key : String) (id : CallId) :
      ((state.cache.delete sql).set sql statement).get? key = some id ↔
        state.cache.get? key = some id := by
    rw [JsMap.get?_set_absent_eq_some_iff (JsMap.get?_delete_self _ _),
      JsMap.get?_delete_eq_some_iff]
    constructor
    · rintro (⟨rfl, rfl⟩ | ⟨_, found⟩)
      · exact cached
      · exact found
    · intro found
      by_cases mine : key = sql
      · subst mine
        exact Or.inl ⟨rfl, Option.some.inj (found.symm.trans cached)⟩
      · exact Or.inr ⟨mine, found⟩
  refine ⟨fun key id found => tidy.entry key id ((same key id).1 found),
    fun id isOpen => (same _ id).2 (tidy.cached id isOpen), tidy.idle, tidy.opening, tidy.evicting,
    tidy.owned, tidy.returned, tidy.alone, ?_, ?_⟩
  · intro position waiting iterating
    rw [show state.close = .iterating position waiting from iterating] at calm
    cases calm
  · rintro (ending | closed)
    · rw [show state.close = .ending from ending] at calm
      cases calm
    · exact absurd closed unclosed

theorem Tidy.prepare (tidy : state.Tidy) {call : CallId} {sql : String}
    (idle : state.calls call = .idle) (orderly : Orderly cacheSize state (.prepare call sql)) :
    (state.prepare call sql).Tidy ∧ (state.prepare call sql).live ≤ state.live := by
  obtain ⟨calm, usable⟩ := orderly
  unfold CacheState.prepare
  split
  · refine ⟨tidy.setCall PreparePhase.noConfusion PreparePhase.noConfusion ?_ ?_, le_refl _⟩
    · exact fun _ impossible => by cases impossible
    · exact fun impossible => by cases impossible
  · rename_i unclosed
    split
    · rename_i statement cached
      have isOpen := (tidy.entry sql statement cached).2
      refine ⟨(tidy.touch cached calm unclosed).answer call (Or.inl isOpen)
        (usable statement cached), ?_⟩
      exact JsMap.countP_touch_le cached _ (JsMap.get?_delete_self _ _)
    · have unmade := tidy.idle call idle
      refine ⟨tidy.advance ?_ ?_ rfl PreparePhase.noConfusion (fun _ => rfl) ?_ ?_, ?_⟩
      · rw [unmade]
        rfl
      · rw [unmade]
        exact StatementStatus.noConfusion
      · exact fun _ => PreparePhase.noConfusion
      · rintro _ (closing | closed)
        · rw [calm] at closing
          cases closing
        · exact unclosed closed
      · exact live_setStatement call StatementStatus.noConfusion

theorem Tidy.inserted (tidy : state.Tidy) {call : CallId} (opening : state.calls call = .opening)
    (absent : state.cache.get? (state.statements call).sql = none) {phase : PreparePhase}
    (begun : phase ≠ .idle) (goesOn : phase ≠ .opening) :
    ((state.cacheSet call).setCall call phase).Tidy := by
  have status := tidy.opening call opening
  have open_ : ¬(state.close.pending = true ∨ state.close = .closed) := by
    intro closing
    have quiet := tidy.alone closing call
    rw [opening] at quiet
    cases quiet
  refine ⟨?_, ?_, ?_, ?_, ?_, ?_, ?_, fun closing => absurd closing open_, ?_, ?_⟩ <;>
    simp only [CacheState.setCall, cacheSet, setStatus, setStatement, Function.update_apply]
  · intro key id found
    rcases (JsMap.get?_set_absent_eq_some_iff absent).1 found with ⟨rfl, rfl⟩ | earlier
    · rw [if_pos rfl]
      exact ⟨rfl, rfl⟩
    · obtain ⟨sql, isOpen⟩ := tidy.entry key id earlier
      have different : id ≠ call := by
        rintro rfl
        rw [status] at isOpen
        cases isOpen
      rw [if_neg different]
      exact ⟨sql, isOpen⟩
  · intro id isOpen
    rw [JsMap.get?_set_absent_eq_some_iff absent]
    split at isOpen
    · rename_i same
      rw [if_pos same, same]
      exact Or.inl ⟨rfl, rfl⟩
    · rename_i different
      rw [if_neg different]
      exact Or.inr (tidy.cached id isOpen)
  · intro other idle
    split at idle
    · exact absurd idle begun
    · rename_i different
      rw [if_neg different]
      exact tidy.idle other idle
  · intro other isOpening
    split at isOpening
    · exact absurd isOpening goesOn
    · rename_i different
      rw [if_neg different]
      exact tidy.opening other isOpening
  · intro other oldest evicting
    split
    · exact Or.inl rfl
    · rename_i different
      rw [if_neg different] at evicting
      exact tidy.evicting other oldest evicting
  · intro other oldest evicting
    split
    · exact Or.inl rfl
    · rename_i different
      rw [if_neg different] at evicting
      exact tidy.owned other oldest evicting
  · intro returned member
    obtain ⟨opened, good⟩ := tidy.returned returned member
    refine ⟨?_, good⟩
    split
    · exact Or.inl rfl
    · exact opened
  · intro position waiting iterating
    rw [show state.close = .iterating position waiting from iterating] at open_
    exact absurd (Or.inl rfl) open_
  · rintro (ending | closed)
    · rw [show state.close = .ending from ending] at open_
      exact absurd (Or.inl rfl) open_
    · exact absurd (Or.inr closed) open_

theorem Tidy.finalized (tidy : state.Tidy) {id : CallId}
    (closing : (state.statements id).status = .closing) : (state.finalized id).Tidy := by
  have isOpen : (state.statements id).status.isOpen = true := by
    rw [closing]
    rfl
  refine ⟨?_, ?_, ?_, ?_, ?_, ?_, ?_, tidy.alone, ?_, ?_⟩ <;>
    simp only [CacheState.finalized, setStatus, setStatement, Function.update_apply]
  · intro key other found
    obtain ⟨differs, earlier⟩ := JsMap.get?_delete_eq_some_iff.1 found
    have different : other ≠ id := by
      rintro rfl
      exact differs (tidy.entry key other earlier).1.symm
    rw [if_neg different]
    exact tidy.entry key other earlier
  · intro other stillOpen
    split at stillOpen
    · cases stillOpen
    · rename_i different
      rw [if_neg different, JsMap.get?_delete_eq_some_iff]
      exact ⟨fun same => different (tidy.single stillOpen isOpen same), tidy.cached other stillOpen⟩
  · intro call idle
    have unmade := tidy.idle call idle
    split
    · rename_i same
      rw [same, closing] at unmade
      cases unmade
    · exact unmade
  · intro call opening
    have status := tidy.opening call opening
    split
    · rename_i same
      rw [same, closing] at status
      cases status
    · exact status
  · intro call oldest evicting
    split
    · exact Or.inr rfl
    · exact tidy.evicting call oldest evicting
  · intro call oldest evicting
    have owned := tidy.owned call oldest evicting
    split
    · rename_i same
      rw [same, closing] at owned
      exact Or.inr (owned.resolve_left StatementStatus.noConfusion)
    · exact owned
  · intro returned member
    obtain ⟨opened, good⟩ := tidy.returned returned member
    refine ⟨?_, good⟩
    split
    · exact Or.inr rfl
    · exact opened
  · intro position waiting iterating index entry behind found
    exact tidy.visited position waiting iterating index entry behind (JsMap.slot_of_delete found)
  · intro ended
    have empty := JsMap.entries_delete_sublist state.cache (state.statements id).sql
    rw [tidy.emptied ended] at empty
    exact List.sublist_nil.1 empty

theorem live_finalized (id : CallId) : (state.finalized id).live ≤ state.live := by
  refine live_le (JsMap.entries_delete_sublist _ _) fun other isOpen => ?_
  simp only [CacheState.finalized, setStatus, setStatement, Function.update_apply] at isOpen
  split at isOpen
  · cases isOpen
  · exact isOpen

private theorem Tidy.live_finalize (tidy : state.Tidy) {id : CallId}
    (opened : (state.statements id).status = .opened) :
    (state.finalize id).live + 1 ≤ state.live := by
  obtain ⟨statements, same, restated, _, closes, _⟩ := state.finalize_restates id
  have isOpen : (state.statements id).status.isOpen = true := by
    rw [opened]
    rfl
  obtain ⟨before, after, split⟩ :=
    List.append_of_mem (JsMap.get?_eq_some_iff.1 (tidy.cached id isOpen))
  have fewer (entries : List (String × CallId)) :
      countOpen statements entries ≤ countOpen state.statements entries := by
    refine countOpen_mono fun entry _ stillOpen => ?_
    rcases (restated entry.2).status with kept | ⟨wasOpen, _⟩
    · exact kept ▸ stillOpen
    · exact wasOpen
  have first := fewer before
  have second := fewer after
  rw [same]
  change countOpen statements state.cache.entries + 1 ≤
    countOpen state.statements state.cache.entries
  rw [split]
  unfold countOpen at *
  simp only [List.countP_append, List.countP_cons, decide_eq_true_eq, opened, closes, if_pos,
    if_false]
  omega

private theorem insert_evicts (state : CacheState) (call oldest : CallId) :
    (state.finalize oldest).setCall call (.evicting oldest) =
      (state.setCall call (.evicting oldest)).finalize oldest := by
  unfold CacheState.finalize
  split
  · rename_i opened
    exact (if_pos opened).symm
  · rename_i unopened
    exact (if_neg unopened).symm

private theorem Tidy.live_inserted (tidy : state.Tidy) {call : CallId}
    (opening : state.calls call = .opening)
    (absent : state.cache.get? (state.statements call).sql = none) :
    (state.cacheSet call).live ≤ state.live + 1 := by
  unfold live cacheSet
  simp only [JsMap.entries_set_absent absent]
  unfold countOpen
  rw [List.countP_append]
  refine Nat.add_le_add (countOpen_mono fun entry member isOpen => ?_) List.countP_le_length
  have different : entry.2 ≠ call := by
    intro same
    have known := (tidy.entries member).2
    rw [same, tidy.opening call opening] at known
    cases known
  simp only [setStatus, setStatement, Function.update_apply, if_neg different] at isOpen
  exact isOpen

theorem Tidy.insert (tidy : state.Tidy) (few : state.live ≤ cacheSize) {call : CallId}
    (opening : state.calls call = .opening)
    (absent : state.cache.get? (state.statements call).sql = none)
    (roomy : state.Roomy cacheSize) :
    (state.insert cacheSize call).Tidy ∧ (state.insert cacheSize call).live ≤ cacheSize := by
  have entries : (state.cacheSet call).cache.entries =
      state.cache.entries ++ [((state.statements call).sql, call)] :=
    JsMap.entries_set_absent absent call
  have opened : ((state.cacheSet call).statements call).status = .opened :=
    congrArg CachedStatement.status (Function.update_self call _ state.statements)
  have grown := tidy.live_inserted opening absent
  have size : (state.cacheSet call).cache.size = state.cache.size + 1 := by
    unfold JsMap.size
    rw [entries, List.length_append, List.length_singleton]
  unfold CacheState.insert
  simp only
  split
  · rename_i full
    obtain ⟨oldest, first, room⟩ := roomy.resolve_left (by omega)
    obtain ⟨entry, head, rfl⟩ := Option.map_eq_some_iff.1 first
    have firstNow : (state.cacheSet call).cache.oldest? = some entry.2 := by
      unfold JsMap.oldest?
      rw [entries, List.head?_append, head]
      rfl
    have different : entry.2 ≠ call := by
      intro same
      have known := (tidy.entries (List.mem_of_head? head)).2
      rw [same, tidy.opening call opening] at known
      cases known
    have same : (state.cacheSet call).statements entry.2 = state.statements entry.2 :=
      Function.update_of_ne different _ _
    have waits : ((state.cacheSet call).setCall call (.evicting entry.2)).Tidy :=
      tidy.inserted opening absent PreparePhase.noConfusion PreparePhase.noConfusion
    simp only [firstNow]
    rw [insert_evicts]
    rcases room with ⟨isOpen, given⟩ | ⟨closing, room⟩
    · have free : ((state.cacheSet call).setCall call (.evicting entry.2)).calls entry.2 =
          state.calls entry.2 := Function.update_of_ne different _ _
      have fewer := waits.live_finalize ((congrArg CachedStatement.status same).trans isOpen)
      refine ⟨(waits.finalize (Or.inl (free ▸ given))).1, ?_⟩
      exact Nat.le_of_succ_le_succ (fewer.trans (grown.trans (Nat.succ_le_succ few)))
    · have kept : ((state.cacheSet call).setCall call (.evicting entry.2)).finalize entry.2 =
          (state.cacheSet call).setCall call (.evicting entry.2) := by
        refine if_neg fun isOpen => ?_
        have closed := (congrArg CachedStatement.status same).trans closing
        cases isOpen.symm.trans closed
      rw [kept]
      exact ⟨waits, grown.trans room⟩
  · rename_i fits
    have returned : ((state.cacheSet call).setCall call (.returned call)).Tidy :=
      tidy.inserted opening absent PreparePhase.noConfusion PreparePhase.noConfusion
    refine ⟨returned.returns call (Or.inl ?_) (Or.inl opened), ?_⟩
    · exact (congrArg StatementStatus.isOpen opened).trans rfl
    · exact List.countP_le_length.trans (Nat.le_of_not_lt fits)

theorem Tidy.opened (tidy : state.Tidy) (few : state.live ≤ cacheSize) {call : CallId}
    {result : Except JsValue Unit} (opening : state.calls call = .opening)
    (orderly : Orderly cacheSize state (.opened call result)) :
    (state.opened cacheSize call result).Tidy ∧
      (state.opened cacheSize call result).live ≤ cacheSize := by
  cases result with
  | ok value => exact tidy.insert few opening orderly.1 orderly.2
  | error thrown =>
      have status := tidy.opening call opening
      refine ⟨tidy.advance ?_ ?_ rfl PreparePhase.noConfusion ?_ ?_ ?_, ?_⟩
      · rw [status]
        rfl
      · rw [status]
        exact StatementStatus.noConfusion
      · exact fun impossible => by cases impossible
      · exact fun _ => PreparePhase.noConfusion
      · exact fun impossible => by cases impossible
      · exact (live_setStatement call StatementStatus.noConfusion).trans few

private theorem Tidy.reclose (tidy : state.Tidy) {close : ClosePhase}
    (alone : ∀ call, (state.calls call).pending = false)
    (visited : ∀ position waiting, close = .iterating position waiting →
      ∀ (index : Nat) entry, index < position → state.cache.slots[index]? = some (some entry) →
        entry.2 = waiting)
    (emptied : close = .ending ∨ close = .closed → state.cache.entries = []) :
    Tidy { state with close := close } :=
  ⟨tidy.entry, tidy.cached, tidy.idle, tidy.opening, tidy.evicting, tidy.owned, tidy.returned,
    fun _ => alone, visited, emptied⟩

/-- The iterator of `close` goes on when every entry behind it is gone. -/
theorem Tidy.closeFrom (tidy : state.Tidy) {position : Nat}
    (behind : ∀ (index : Nat) entry, index < position →
      state.cache.slots[index]? ≠ some (some entry))
    (alone : ∀ call, (state.calls call).pending = false) :
    (state.closeFrom position).Tidy ∧ (state.closeFrom position).live ≤ state.live := by
  unfold CacheState.closeFrom
  split
  · rename_i later entry found
    obtain ⟨tidyAfter, fewer⟩ := tidy.finalize (Or.inl (alone entry.2))
    obtain ⟨statements, same, _⟩ := state.finalize_restates entry.2
    rw [same] at tidyAfter fewer ⊢
    refine ⟨tidyAfter.reclose alone ?_ ?_, fewer⟩
    · rintro _ _ ⟨⟩ index other near slot
      rcases (JsMap.next?_some found).2 index other near slot with before | same
      · exact absurd slot (behind index other before)
      · rw [same]
    · rintro (impossible | impossible) <;> cases impossible
  · rename_i ends
    have none_open (id : CallId) : (state.statements id).status.isOpen ≠ true := by
      intro isOpen
      obtain ⟨index, slot⟩ :=
        JsMap.slot_of_mem_entries (JsMap.get?_eq_some_iff.1 (tidy.cached id isOpen))
      exact behind index _ (JsMap.next?_none ends slot) slot
    have cleared (key : String) (id : CallId) : state.cache.clear.get? key ≠ some id := by
      intro found
      have member := JsMap.get?_eq_some_iff.1 found
      rw [JsMap.entries_clear] at member
      cases member
    refine ⟨⟨fun key id found => absurd found (cleared key id),
      fun id isOpen => absurd isOpen (none_open id), tidy.idle, tidy.opening, tidy.evicting,
      tidy.owned, tidy.returned, fun _ => alone, ?_, fun _ => JsMap.entries_clear _⟩, ?_⟩
    · intro _ _ impossible
      cases impossible
    · refine live_le ?_ fun _ isOpen => isOpen
      rw [JsMap.entries_clear]
      exact List.nil_sublist _

theorem Tidy.step (tidy : state.Tidy) (few : state.live ≤ cacheSize) {event : CacheEvent}
    (orderly : Orderly cacheSize state event) (stepped : step cacheSize state event = some next) :
    next.Tidy ∧ next.live ≤ cacheSize := by
  cases event with
  | prepare call sql =>
      simp only [CacheState.step, Option.ite_none_right_eq_some, Option.some.injEq] at stepped
      obtain ⟨idle, rfl⟩ := stepped
      obtain ⟨tidyAfter, fewer⟩ := tidy.prepare idle orderly
      exact ⟨tidyAfter, fewer.trans few⟩
  | opened call result =>
      simp only [CacheState.step, Option.ite_none_right_eq_some, Option.some.injEq] at stepped
      obtain ⟨opening, rfl⟩ := stepped
      exact tidy.opened few opening orderly
  | evicted call =>
      simp only [CacheState.step] at stepped
      split at stepped
      · rename_i oldest evicting
        simp only [Option.ite_none_right_eq_some, Option.some.injEq] at stepped
        obtain ⟨_, rfl⟩ := stepped
        exact ⟨tidy.answer call (tidy.evicting call oldest evicting)
          (tidy.owned call oldest evicting), few⟩
      · cases stepped
  | finalize statement =>
      simp only [CacheState.step, Option.ite_none_right_eq_some, Option.some.injEq] at stepped
      obtain ⟨_, rfl⟩ := stepped
      obtain ⟨tidyAfter, fewer⟩ := tidy.userFinalize statement
      exact ⟨tidyAfter, fewer.trans few⟩
  | finalized statement =>
      simp only [CacheState.step, Option.ite_none_right_eq_some, Option.some.injEq] at stepped
      obtain ⟨closing, rfl⟩ := stepped
      exact ⟨tidy.finalized closing, (live_finalized statement).trans few⟩
  | close =>
      simp only [CacheState.step, Option.ite_none_right_eq_some, Option.some.injEq] at stepped
      obtain ⟨_, rfl⟩ := stepped
      obtain ⟨tidyAfter, fewer⟩ :=
        tidy.closeFrom (fun _ _ impossible => absurd impossible (Nat.not_lt_zero _)) orderly
      exact ⟨tidyAfter, fewer.trans few⟩
  | closeNext =>
      simp only [CacheState.step] at stepped
      split at stepped
      · rename_i position waiting iterating
        simp only [Option.ite_none_right_eq_some, Option.some.injEq] at stepped
        obtain ⟨closed, rfl⟩ := stepped
        have alone := tidy.alone (Or.inl (by rw [iterating]; rfl))
        have behind : ∀ (index : Nat) entry, index < position →
            state.cache.slots[index]? ≠ some (some entry) := by
          intro index entry near slot
          have isOpen := (tidy.entries (JsMap.mem_entries_of_slot slot)).2
          rw [tidy.visited position waiting iterating index entry near slot, closed] at isOpen
          cases isOpen
        obtain ⟨tidyAfter, fewer⟩ := tidy.closeFrom behind alone
        exact ⟨tidyAfter, fewer.trans few⟩
      · cases stepped
  | closeEnds resolves =>
      simp only [CacheState.step, Option.ite_none_right_eq_some, Option.some.injEq] at stepped
      obtain ⟨ending, rfl⟩ := stepped
      refine ⟨tidy.reclose (tidy.alone (Or.inl (by rw [ending]; rfl))) ?_ ?_, few⟩
      · intro _ _ impossible
        cases resolves <;> cases impossible
      · exact fun _ => tidy.emptied (Or.inl ending)

theorem tidy_initial : initial.Tidy := by
  refine ⟨?_, ?_, fun _ _ => rfl, ?_, ?_, ?_, ?_, ?_, ?_, ?_⟩
  · exact fun key id found => absurd (JsMap.get?_eq_some_iff.1 found) List.not_mem_nil
  · exact fun id isOpen => by cases isOpen
  · exact fun call opening => by cases opening
  · exact fun call oldest evicting => by cases evicting
  · exact fun call oldest evicting => by cases evicting
  · exact fun returned member => absurd member List.not_mem_nil
  · exact fun _ call => rfl
  · exact fun position waiting impossible => by cases impossible
  · exact fun _ => rfl

/-- In every run whose steps all are orderly, no statement is orphaned. -/
theorem noOrphans_of_orderly {events : List CacheEvent} {final : CacheState}
    (orderly : Machine.Heeds (step cacheSize) (Orderly cacheSize) initial events)
    (ran : Machine.run (step cacheSize) initial events = some final) :
    final.NoOrphans cacheSize := by
  have keeps : ∀ (state : CacheState) event next, state.Tidy ∧ state.live ≤ cacheSize →
      Orderly cacheSize state event → step cacheSize state event = some next →
        next.Tidy ∧ next.live ≤ cacheSize :=
    fun _ _ _ known orderly stepped => known.1.step known.2 orderly stepped
  obtain ⟨tidy, few⟩ := Machine.run_invariant keeps ⟨tidy_initial, Nat.zero_le _⟩ orderly ran
  exact tidy.noOrphans few

def evictAndClose : List CacheEvent :=
  [.prepare 0 "SELECT 1", .opened 0 (.ok ()), .prepare 1 "SELECT 2", .prepare 2 "SELECT 3",
    .opened 1 (.ok ()), .prepare 3 "SELECT 1", .opened 2 (.ok ()), .finalized 1, .evicted 2,
    .finalize 0, .finalized 0, .close, .finalized 2, .closeNext, .closeEnds true]

private theorem evictAndClose_heeds : Machine.Heeds (step 2) (Orderly 2) initial evictAndClose := by
  have absent {sql : String} {state : CacheState} (absent : state.cache.get? sql = none) :
      ∀ statement, state.cache.get? sql = some statement →
        (state.statements statement).status = .opened ∨
          (state.statements statement).finalized = true := by
    intro statement found
    rw [absent] at found
    cases found
  refine Machine.heeds_cons rfl ⟨rfl, absent rfl⟩ (Machine.heeds_cons rfl ⟨rfl, Or.inl ?_⟩ ?_)
  · exact Nat.zero_lt_two
  refine Machine.heeds_cons rfl ⟨rfl, absent rfl⟩ ?_
  refine Machine.heeds_cons rfl ⟨rfl, absent rfl⟩ (Machine.heeds_cons rfl ⟨rfl, Or.inl ?_⟩ ?_)
  · exact Nat.one_lt_two
  -- A hit makes the first statement the newest, so the second one is evicted.
  refine Machine.heeds_cons rfl ⟨rfl, fun statement found => ?_⟩ ?_
  · cases found
    exact Or.inl rfl
  refine Machine.heeds_cons rfl ⟨rfl, Or.inr ⟨1, rfl, Or.inl ⟨rfl, rfl⟩⟩⟩ ?_
  refine Machine.heeds_cons rfl trivial (Machine.heeds_cons rfl trivial ?_)
  refine Machine.heeds_cons rfl trivial (Machine.heeds_cons rfl trivial ?_)
  refine Machine.heeds_cons rfl (fun call => ?_) ?_
  · match call with
    | 0 => rfl
    | 1 => rfl
    | 2 => rfl
    | 3 => rfl
    | call + 4 => rfl
  refine Machine.heeds_cons rfl trivial (Machine.heeds_cons rfl trivial ?_)
  exact Machine.heeds_cons rfl trivial trivial

theorem noOrphans_of_orderly_evictAndClose : ∃ final : CacheState,
    Machine.run (step 2) initial evictAndClose = some final ∧ final.NoOrphans 2 :=
  ⟨_, rfl, noOrphans_of_orderly evictAndClose_heeds rfl⟩

/-- Two calls that prepare one text: both find the cache empty. -/
theorem leavesNoOrphans_twoPrepares_fails : ¬LeavesNoOrphans := by
  intro leaves
  have noOrphans := leaves 1024 [.prepare 0 "SELECT 1", .prepare 1 "SELECT 1", .opened 0 (.ok ()),
    .opened 1 (.ok ())] _ rfl
  have same := noOrphans.single 0 1 rfl rfl rfl
  cases same

end CacheState
end ParaQL
