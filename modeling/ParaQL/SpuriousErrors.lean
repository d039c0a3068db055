/-
Which calls report an error although no step of them has failed.

There are three ways to it: a sync of a file without a batch, a delete of a file with
neither pages nor a batch, and a truncation below the current size.
-/

import ParaQL.CommitAtomicity
import ParaQL.ErrorReporting

namespace ParaQL

open Async Async.Task Bytes

private theorem CleanSince.not_record {before : List Access} {state : VfsState}
    (clean : CleanSince before state) {access : Access} (fails : access.failed = true) :
    ¬CleanSince before (state.record access) := by
  intro still
  obtain ⟨made, sameLog, _⟩ := clean
  obtain ⟨all, log, allClean⟩ := still
  have split : before ++ (made ++ [access]) = before ++ all := by
    rw [← List.append_assoc, ← sameLog]
    exact log
  have member : access ∈ all := by
    rw [← List.append_cancel_left split]
    exact List.mem_append_right _ List.mem_cons_self
  rw [allClean access member] at fails
  cases fails

namespace ParaVFS

variable {vfs : ParaVFS} {before : List Access} {name : FileName} {σ α β : Type}

def Registered (name : FileName) (state : VfsState) : Prop := (state.files.lookup name).isSome

def Clear (before : List Access) (holds : VfsState → Prop) (task : VfsTask α)
    (after : VfsState → Prop) : Prop :=
  Triple alone (fun state => CleanSince before state ∧ holds state) task
    (fun _ state => CleanSince before state ∧ after state)
    (fun _ state => ¬CleanSince before state)

def ClearCall (before : List Access) (task : CallTask α) : Prop :=
  Triple (Discipline.callRely alone) (fun state => CleanSince before state.1) task
    (fun _ state => CleanSince before state.1) (fun _ state => ¬CleanSince before state.1)

theorem Clear.onShared {task : VfsTask α} (clear : Clear before (fun _ => True) task fun _ => True) :
    ClearCall before task.onShared :=
  (clear.mono (fun _ begins => ⟨begins, trivial⟩) (fun _ _ kept => kept.1)
    fun _ _ unclean => unclean).onShared

private theorem clearCall_pure (value : α) : ClearCall before (pure value) :=
  triple_pure value fun _ begins => begins

theorem ClearCall.bind {task : CallTask α} {rest : α → CallTask β} (first : ClearCall before task)
    (later : ∀ value, ClearCall before (rest value)) : ClearCall before (task >>= rest) :=
  Triple.bind first later

private theorem clearCall_ite {condition : Prop} [Decidable condition] {task other : CallTask α}
    (yes : ClearCall before task) (no : ClearCall before other) :
    ClearCall before (if condition then task else other) :=
  triple_ite (fun _ => yes) fun _ => no

private theorem clearCall_atomic
    {action : VfsState × Buffer → Except JsValue α × (VfsState × Buffer)}
    (acts : ∀ state, (action state).2.1 = state.1 ∧ ∃ value, (action state).1 = .ok value) :
    ClearCall before (atomic action) := by
  have stable : Stable (Discipline.callRely alone)
      (fun state : VfsState × Buffer => CleanSince before state.1) :=
    fun _ _ move => move.1.elim
  apply triple_atomic stable
  intro state begins
  obtain ⟨same, value, result⟩ := acts state
  rw [result]
  change CleanSince before (action state).2.1
  rw [same]
  exact begins

private theorem clearCall_read (view : VfsState × Buffer → α) : ClearCall before (Task.read view) :=
  clearCall_atomic fun _ => ⟨rfl, _, rfl⟩

private theorem clear_storeCall {op : StoreOp} {target : VfsState → StoreRef}
    {action : VfsState → α × VfsState} {holds after : VfsState → Prop}
    (sameLog : ∀ state, (action state).2.log = state.log)
    (acts : ∀ state, holds state →
      after (action (state.record (.store op name (target state) state.view false))).2) :
    Clear before holds (vfs.storeCall op name target action) after := by
  apply Discipline.triple_storeCall (stable_alone _)
  · intro state error begins
    exact begins.1.not_record rfl
  · intro state begins
    constructor
    · rw [CleanSince, sameLog]
      exact begins.1.record rfl
    · exact acts state begins.2

private theorem clear_zlib {failed : VfsState → Bool} {result : VfsState → α} :
    Clear before (fun _ => True) (attempt (fun _ failed => .zlib failed) failed
      (fun _ => .undefined) (fun state => (result state, state))) fun _ => True := by
  apply triple_atomic (stable_alone _)
  intro state begins
  by_cases fails : failed state = true
  · simp only [fails, if_true]
    exact begins.1.not_record rfl
  · simp only [Bool.eq_false_of_not_eq_true fails]
    exact ⟨begins.1.record rfl, trivial⟩

private theorem clear_get (vfs : ParaVFS) (before : List Access) (name : FileName) (index : Nat) :
    Clear before (fun _ => True) (vfs.get name index) fun _ => True := by
  unfold ParaVFS.get
  rw [fetch_eq]
  refine Triple.bind (?_ : Clear before (fun _ => True) _ fun _ => True) fun value => ?_
  · exact clear_storeCall (fun _ => rfl) fun _ _ => trivial
  cases value with
  | none => exact triple_pure _ fun _ begins => begins
  | some page =>
      simp only [unpack]
      exact triple_ite (fun _ => clear_zlib.bind fun _ => triple_pure _ fun _ begins => begins)
        fun _ => triple_pure _ fun _ begins => begins

private theorem clear_last (vfs : ParaVFS) (before : List Access) (name : FileName) (pages : Pages)
    {holds : VfsState → Prop} (kept : ∀ state access, holds state → holds (state.record access)) :
    Triple alone
      (fun state => CleanSince before state ∧ vfs.committed state name = pages ∧ holds state)
      (vfs.last name)
      (fun index state => (CleanSince before state ∧ holds state) ∧ index = pages.last)
      (fun _ state => ¬CleanSince before state) := by
  rw [last_eq]
  apply Discipline.triple_storeCall (stable_alone _)
  · intro state error begins
    exact begins.1.not_record rfl
  · intro state begins
    obtain ⟨clean, sameStored, holds⟩ := begins
    exact ⟨⟨clean.record rfl, kept state _ holds⟩, congrArg Pages.last sameStored⟩

private theorem clear_openBatch (vfs : ParaVFS) (before : List Access) (name : FileName) :
    Clear before (fun _ => True) (vfs.openBatch name) (Registered name) := by
  apply triple_atomic (stable_alone _)
  intro state begins
  cases found : state.files.lookup name with
  | some batch =>
      refine ⟨begins.1, ?_⟩
      rw [Registered, found]
      rfl
  | none =>
      refine ⟨begins.1.record rfl, ?_⟩
      simp only [Registered, Finmap.lookup_insert, Option.isSome_some]

private theorem registered_addTo (state : VfsState) (registered : Registered name state)
    (batch : Batch)
    (item : BatchOp) : Registered name (state.addTo name batch item) := by
  unfold VfsState.addTo
  split
  · exact registered
  · split
    · simp only [Registered, Finmap.lookup_insert, Option.isSome_some]
    · exact registered

private theorem clear_addTo (vfs : ParaVFS) (before : List Access) (name : FileName) (op : StoreOp)
    (batch : Batch) (item : BatchOp) :
    Clear before (Registered name) (vfs.storeCall op name (fun _ => batch.source)
      (fun state => ((), state.addTo name batch item))) (Registered name) :=
  clear_storeCall (fun state => state.log_addTo name batch item)
    fun state registered => registered_addTo (state.record _) registered batch item

private theorem clear_tryDelete (vfs : ParaVFS) (before : List Access) (name : FileName)
    (index : Nat) :
    Clear before (fun _ => True) (vfs.tryDelete name index) (Registered name) :=
  (clear_openBatch vfs before name).bind fun batch => clear_addTo vfs before name _ batch _

private theorem clear_deletes (vfs : ParaVFS) (before : List Access) (name : FileName)
    (indices : List Nat) {holds : VfsState → Prop}
    (reached : indices = [] → ∀ state, holds state → Registered name state) :
    Clear before holds (forEach indices (vfs.tryDelete name)) (Registered name) := by
  cases indices with
  | nil => exact triple_pure () fun state begins => ⟨begins.1, reached rfl state begins.2⟩
  | cons index indices =>
      have round (page : Nat) (known : VfsState → Prop) :
          Clear before known (vfs.tryDelete name page) (Registered name) :=
        (clear_tryDelete vfs before name page).mono (fun _ begins => ⟨begins.1, trivial⟩)
          (fun _ _ kept => kept) fun _ _ unclean => unclean
      exact (round index holds).bind fun _ =>
        triple_forEach fun page _ => round page (Registered name)

private theorem clear_flush (vfs : ParaVFS) (before : List Access) (name : FileName) :
    Clear before (Registered name) (vfs.flush name) fun _ => True := by
  refine Triple.bind (?_ : Clear before (Registered name) _ fun _ => True) fun batch => ?_
  · apply triple_atomic (stable_alone _)
    intro state begins
    obtain ⟨batch, found⟩ := Option.isSome_iff_exists.1 begins.2
    simp only [found]
    exact ⟨begins.1.record rfl, trivial⟩
  · exact clear_storeCall (fun _ => rfl) fun _ _ => trivial

private theorem clearCall_tryPut (vfs : ParaVFS) (before : List Access) (name : FileName)
    (index : Nat)
    (value : PageBuffer) : ClearCall before (vfs.tryPut name index value) := by
  have opened : Clear before (fun _ => True) (vfs.openBatch name) fun _ => True :=
    (clear_openBatch vfs before name).mono (fun _ begins => begins)
      (fun _ _ kept => ⟨kept.1, trivial⟩) fun _ _ unclean => unclean
  have packed : ClearCall before (vfs.packPage value) := by
    unfold packPage
    refine clearCall_ite ?_ (clearCall_pure _)
    refine (clearCall_read _).bind fun page => ?_
    have deflated : Clear before (fun _ => True) (vfs.deflate page) fun _ => True := clear_zlib
    exact deflated.onShared.bind fun _ => clearCall_pure _
  have encrypted (page : PageBuffer) : ClearCall before (vfs.encryptPage name index page) := by
    unfold encryptPage
    split
    · refine clearCall_ite (clearCall_atomic fun state => ?_) (clearCall_pure _)
      cases page <;> exact ⟨rfl, _, rfl⟩
    · exact clearCall_pure _
  have added (batch : Batch) (item : BatchOp) : Clear before (fun _ => True)
      (vfs.storeCall .put name (fun _ => batch.source)
        (fun state => ((), state.addTo name batch item))) fun _ => True :=
    clear_storeCall (fun state => state.log_addTo name batch item) fun _ _ => trivial
  exact opened.onShared.bind fun batch => packed.bind fun page => (encrypted page).bind fun _ =>
    (clearCall_read _).bind fun _ => (added batch _).onShared

private theorem clearCall_readPage (vfs : ParaVFS) (before : List Access) (name : FileName)
    (length offset index : Nat) : ClearCall before (vfs.readPage name length offset index) := by
  unfold readPage
  exact clearCall_ite ((clear_get vfs before name index).onShared.bind fun _ =>
    clearCall_atomic fun _ => ⟨rfl, _, rfl⟩) (clearCall_pure ())

private theorem clearCall_writePage (vfs : ParaVFS) (before : List Access) (name : FileName)
    (length offset index : Nat) : ClearCall before (vfs.writePage name length offset index) := by
  unfold writePage
  exact clearCall_ite (clearCall_tryPut vfs before name index _)
    ((clear_get vfs before name index).onShared.bind fun _ => (clearCall_read _).bind fun _ =>
      clearCall_tryPut vfs before name index _)

/-! ### Calls -/

def Undisturbed (vfs : ParaVFS) (call : VfsCall) (state : VfsState) : Prop :=
  ∀ access ∈ vfs.accesses call state, access.failed = false

/-- The call hands no error to its callback.  A sync of a file with nothing pending leaves
batches and stores as they are. -/
structure NoSpuriousError (vfs : ParaVFS) (call : VfsCall) (state : VfsState) : Prop where
  succeeds : ∃ reply after, (vfs.perform call).run state = (.ok reply, after) ∧
    reply.args.head? = some .null
  idempotent : ∀ name, call = .xSync name → state.files.lookup name = none →
    ((vfs.perform call).run state).2.files = state.files ∧
      ((vfs.perform call).run state).2.stores = state.stores

/-- What the file has to be like for the call to succeed. -/
def Warranted (vfs : ParaVFS) (state : VfsState) : VfsCall → Prop
  | .xDelete name => 0 ≤ (vfs.committed state name).last ∨ Registered name state
  | .xTruncate name size => ((vfs.committed state name).last + 1) * pageSize ≤ size
  | .xSync name => Registered name state
  | _ => True

def Answers (before : List Access) (args : CallbackArgs) (state : VfsState) : Prop :=
  CleanSince before state → args.head? = some .null

private theorem answers_callback {rely : σ → σ → Prop} {begins : σ → Prop} {see : σ → VfsState}
    {body : Task σ JsValue (List JsValue)}
    (clear : Triple rely begins body (fun _ state => CleanSince before (see state))
      (fun _ state => ¬CleanSince before (see state))) :
    Triple rely begins (callback body) (fun args state => Answers before args (see state))
      (fun _ _ => False) :=
  (clear.bind fun _ => triple_pure _ fun _ _ _ => rfl).catch fun _ =>
    triple_pure _ fun _ unclean clean => absurd clean unclean

private theorem answers_withoutBuffer {task : VfsTask CallbackArgs} {begins : VfsState → Prop}
    (triple : Triple alone begins task (Answers before) (fun _ _ => False)) :
    Triple alone begins (withoutBuffer task) (fun reply => Answers before reply.args)
      (fun _ _ => False) :=
  triple.bind fun _ => triple_pure _ fun _ kept => kept

private theorem answers_withBuffer {task : CallTask CallbackArgs} (buffer : Buffer)
    {begins : VfsState → Prop}
    (triple : Triple (Discipline.callRely alone) (fun state => begins state.1) task
      (fun args state => Answers before args state.1) (fun _ _ => False)) :
    Triple alone begins (withBuffer task buffer) (fun reply => Answers before reply.args)
      (fun _ _ => False) :=
  (Triple.withLocal buffer (triple.mono (fun _ begins => begins.1) (fun _ _ kept => kept)
    fun _ _ known => known)).bind fun _ => triple_pure _ fun _ kept => kept

private theorem clearCall_grow (vfs : ParaVFS) (before : List Access) (name : FileName)
    (indices : List Nat) (page : PageBuffer) :
    ClearCall before (forEach indices fun index => vfs.tryPut name index page) :=
  triple_forEach fun index _ => clearCall_tryPut vfs before name index page

private theorem last_of_state (vfs : ParaVFS) (state : VfsState) (name : FileName)
    {holds : VfsState → Prop} (known : holds state)
    (kept : ∀ current access, holds current → holds (current.record access)) :
    Triple alone (fun current => current = state) (vfs.last name)
      (fun index current => (CleanSince state.log current ∧ holds current) ∧
        index = (vfs.committed state name).last)
      (fun _ current => ¬CleanSince state.log current) := by
  apply (clear_last vfs state.log name (vfs.committed state name) kept).mono
  · intro current same
    subst same
    exact ⟨cleanSince_self _, rfl, known⟩
  · intro index current ends
    exact ends
  · intro thrown current unclean
    exact unclean

private theorem last_clean (vfs : ParaVFS) (state : VfsState) (name : FileName) :
    Triple alone (fun current => current = state) (vfs.last name)
      (fun index current => (CleanSince state.log current ∧ True) ∧
        index = (vfs.committed state name).last)
      (fun _ current => ¬CleanSince state.log current) := by
  apply last_of_state vfs state name
  · exact trivial
  · exact fun _ _ _ => trivial

private theorem delete_answers (vfs : ParaVFS) (state : VfsState) (name : FileName)
    (warranted : 0 ≤ (vfs.committed state name).last ∨ Registered name state) :
    Triple alone (fun current => current = state) (vfs.perform (.xDelete name))
      (fun reply => Answers state.log reply.args) (fun _ _ => False) := by
  have looked : Triple alone (fun current => current = state) (vfs.last name)
      (fun index current => (CleanSince state.log current ∧
        (Registered name state → Registered name current)) ∧
        index = (vfs.committed state name).last)
      (fun _ current => ¬CleanSince state.log current) := by
    apply last_of_state vfs state name
    · exact id
    · exact fun _ _ kept => kept
  refine answers_withoutBuffer (answers_callback (looked.bind fun index => ?_))
  apply triple_known
  intro same
  subst same
  have deletes : Clear state.log
      (fun current => Registered name state → Registered name current)
      (if (vfs.committed state name).last ≥ 0 then
        forEach (List.range ((vfs.committed state name).last + 1).toNat) (vfs.tryDelete name)
        else pure ()) (Registered name) := by
    apply triple_ite
    · intro some_page
      apply clear_deletes
      intro empty
      have none_ : ((vfs.committed state name).last + 1).toNat = 0 := List.range_eq_nil.1 empty
      omega
    · intro no_page
      have registered : Registered name state := warranted.resolve_left no_page
      exact triple_pure () fun _ begins => ⟨begins.1, begins.2 registered⟩
  exact deletes.bind fun _ => (clear_flush vfs state.log name).bind fun _ =>
    triple_pure _ fun _ kept => kept.1

private theorem truncate_answers (vfs : ParaVFS) (state : VfsState) (name : FileName) (size : Nat)
    (warranted : ((vfs.committed state name).last + 1) * pageSize ≤ size) :
    Triple alone (fun current => current = state) (vfs.perform (.xTruncate name size))
      (fun reply => Answers state.log reply.args) (fun _ _ => False) := by
  refine answers_withBuffer [] (answers_callback
    ((last_clean vfs state name).onShared.bind fun index => ?_))
  apply triple_known
  intro same
  subst same
  have keeps : ¬(size : Int) < ((vfs.committed state name).last + 1) * pageSize := by omega
  have grown : ClearCall state.log
      (if (size : Int) > ((vfs.committed state name).last + 1) * pageSize then
        forEach (List.range' ((vfs.committed state name).last + 1).toNat
          (((size : Int) - 1) / pageSize - (vfs.committed state name).last).toNat)
          fun page => vfs.tryPut name page (.own (Buffer.alloc pageSize))
      else if (size : Int) < ((vfs.committed state name).last + 1) * pageSize then
        throw (.error (JsError.notDefined "lastIndex"))
      else pure ()) := by
    rw [if_neg keeps]
    exact clearCall_ite (clearCall_grow vfs state.log name _ _) (clearCall_pure ())
  exact Triple.bind (grown.mono (fun _ begins => begins.1) (fun _ _ kept => kept)
    fun _ _ unclean => unclean) fun _ => clearCall_pure []

private theorem looks_answers (vfs : ParaVFS) (state : VfsState) (name : FileName)
    (answer : Int → List JsValue) :
    Triple alone (fun current => current = state)
      (withoutBuffer (callback do let index ← vfs.last name; pure (answer index)))
      (fun reply => Answers state.log reply.args) (fun _ _ => False) := by
  exact answers_withoutBuffer (answers_callback ((last_clean vfs state name).bind fun _ =>
    triple_pure _ fun _ known => known.1.1))

private theorem buffer_answers (state : VfsState) (buffer : Buffer)
    (offset : Nat) (body : Nat → Nat → CallTask Unit)
    (clear : ∀ length index, ClearCall state.log (body length index)) :
    Triple alone (fun current => current = state)
      (withBuffer (callback do
        let length ← Task.read fun current => current.2.length
        forEach (Paging.pagesTouched pageSize offset length) (body length)
        pure []) buffer)
      (fun reply => Answers state.log reply.args) (fun _ _ => False) := by
  have loop (length : Nat) : ClearCall state.log
      (forEach (Paging.pagesTouched pageSize offset length) (body length)) :=
    triple_forEach fun index _ => clear length index
  have whole := (clearCall_read fun current : VfsState × Buffer => current.2.length).bind
    fun length => (loop length).bind fun _ => clearCall_pure ([] : List JsValue)
  apply answers_withBuffer
  apply answers_callback
  apply whole.mono
  · intro current same
    rw [same]
    exact cleanSince_self state
  · exact fun _ _ kept => kept
  · exact fun _ _ unclean => unclean

/-- A call that its file warrants answers without an error, unless a step of it fails. -/
theorem perform_answers (vfs : ParaVFS) (state : VfsState) (call : VfsCall)
    (warranted : vfs.Warranted state call) :
    Triple alone (fun current => current = state) (vfs.perform call)
      (fun reply => Answers state.log reply.args) (fun _ _ => False) := by
  cases call with
  | xDelete name => exact delete_answers vfs state name warranted
  | xAccess name => exact looks_answers vfs state name _
  | xRead name buffer offset =>
      exact buffer_answers state buffer offset _ fun length index =>
        clearCall_readPage vfs state.log name length offset index
  | xWrite name data offset =>
      exact buffer_answers state data offset _ fun length index =>
        clearCall_writePage vfs state.log name length offset index
  | xTruncate name size => exact truncate_answers vfs state name size warranted
  | xSync name =>
      have flushes := (clear_flush vfs state.log name).mono
        (fun current (same : current = state) => by
          subst same
          exact ⟨cleanSince_self _, warranted⟩)
        (fun _ _ kept => kept) fun _ _ unclean => unclean
      exact answers_withoutBuffer (answers_callback (flushes.bind fun _ =>
        triple_pure _ fun _ kept => kept.1))
  | xSize name => exact looks_answers vfs state name _

private theorem run_sync_closed {state : VfsState} (closed : state.files.lookup name = none) :
    (vfs.perform (.xSync name)).run state = (.ok ⟨[PageFile.noBatch name], []⟩, state) := by
  simp only [perform, withoutBuffer, xSync, callback, run_bind, run_tryCatch,
    run_flush_closed name closed, andThen_error, orElse_error, run_pure, andThen_ok]

private theorem errors_of_unwarranted {state after : VfsState} {call : VfsCall}
    (unwarranted : ¬vfs.Warranted state call) {reply : VfsReply}
    (ran : (vfs.perform call).run state = (.ok reply, after)) :
    reply.args.head? ≠ some .null := by
  intro succeeds
  cases call with
  | xDelete name =>
      have noPages : ¬(vfs.committed state name).last ≥ 0 :=
        fun some_page => unwarranted (Or.inl some_page)
      have closed : state.files.lookup name = none :=
        Option.not_isSome_iff_eq_none.1 fun registered => unwarranted (Or.inr registered)
      obtain ⟨access, ⟨error, ranLast⟩ | ranLast⟩ := vfs.run_last_cases name state
      · simp only [perform, withoutBuffer, xDelete, callback, run_bind, run_tryCatch, ranLast,
          andThen_error, orElse_error, run_pure, andThen_ok] at ran
        cases ran
        cases succeeds
      · have stillClosed : (state.record access).files.lookup name = none := closed
        simp only [perform, withoutBuffer, xDelete, callback, run_bind, run_tryCatch, ranLast,
          andThen_ok, if_neg noPages, run_pure, run_flush_closed name stillClosed, andThen_error,
          orElse_error] at ran
        cases ran
        cases succeeds
  | xTruncate name size =>
      have shrinks : (size : Int) < ((vfs.committed state name).last + 1) * pageSize :=
        Int.not_le.1 unwarranted
      have keeps : ¬(size : Int) > ((vfs.committed state name).last + 1) * pageSize := by omega
      obtain ⟨access, ⟨error, ranLast⟩ | ranLast⟩ := vfs.run_last_cases name state
      · simp only [perform, withBuffer, xTruncate, callback, run_bind, run_tryCatch, run_withLocal,
          run_onShared, ranLast, andThen_error, orElse_error, run_pure, Except.map,
          andThen_ok] at ran
        cases ran
        cases succeeds
      · simp only [perform, withBuffer, xTruncate, callback, run_bind, run_tryCatch, run_withLocal,
          run_onShared, ranLast, andThen_ok, if_neg keeps, if_pos shrinks, run_throw,
          andThen_error, orElse_error, run_pure, Except.map] at ran
        cases ran
        cases succeeds
  | xSync name =>
      rw [run_sync_closed (Option.not_isSome_iff_eq_none.1 unwarranted)] at ran
      cases ran
      cases succeeds
  | xAccess name => exact unwarranted trivial
  | xRead name buffer offset => exact unwarranted trivial
  | xWrite name data offset => exact unwarranted trivial
  | xSize name => exact unwarranted trivial

private theorem cleanSince_of_undisturbed {state after : VfsState} {call : VfsCall}
    {reply : VfsReply}
    (undisturbed : vfs.Undisturbed call state)
    (ran : (vfs.perform call).run state = (.ok reply, after)) : CleanSince state.log after := by
  have accessesAre {made : List Access} (sameLog : after.log = state.log ++ made) :
      vfs.accesses call state = made := by
    rw [accesses, ran, sameLog, List.drop_left]
  obtain ⟨reply, final, ranHere, _, ends⟩ := vfs.native_run call state
  rw [ran] at ranHere
  cases ranHere
  rcases ends with ⟨clean, _⟩ | ⟨thrown, failed | ⟨clean, _⟩, _⟩
  · exact clean
  · obtain ⟨made, access, sameLog, _, fails, _⟩ := failed
    have silent := undisturbed access (by
      rw [accessesAre sameLog]
      exact List.mem_append_right _ List.mem_cons_self)
    rw [fails] at silent
    cases silent
  · exact clean

theorem noSpuriousError_iff {state : VfsState} {call : VfsCall}
    (undisturbed : vfs.Undisturbed call state) :
    vfs.NoSpuriousError call state ↔ vfs.Warranted state call := by
  constructor
  · intro noError
    by_contra unwarranted
    obtain ⟨reply, after, ran, succeeds⟩ := noError.succeeds
    exact errors_of_unwarranted unwarranted ran succeeds
  · intro warranted
    constructor
    · obtain ⟨reply, after, ran, _⟩ := vfs.native_run call state
      have answers := perform_answers vfs state call warranted state _ _ rfl (runUnder_run _ _ _)
      rw [ran] at answers
      exact ⟨reply, after, ran, answers (cleanSince_of_undisturbed undisturbed ran)⟩
    · intro name same closed
      subst same
      rw [run_sync_closed closed]
      exact ⟨rfl, rfl⟩

/-- In every run of calls, whatever fails in it, the next call of which no step fails answers
without an error exactly when its file warrants it. -/
theorem noSpuriousErrors_iff (vfs : ParaVFS) (stores : StoreRef → Store) (view : Option Nat)
    (calls : List VfsCall) (call : VfsCall) :
    ∃ outcomes state,
      (vfs.performAll calls).run { VfsState.initial stores with view := view } =
        (.ok outcomes, state) ∧
      (vfs.Undisturbed call state →
      (vfs.NoSpuriousError call state ↔ vfs.Warranted state call)) := by
  have begins : vfs.OwnBatches { VfsState.initial stores with view := view } := by
    intro file batch found
    cases found
  obtain ⟨outcomes, state, ran, _⟩ := ownBatches_performAll calls begins
  exact ⟨outcomes, state, ran, noSpuriousError_iff⟩

/-- A sync of a journal that nothing was written to. -/
theorem noSpuriousErrors_emptySync_fails :
    ParaVFS.sample.Undisturbed (.xSync "paraql.db-journal") (VfsState.initial fun _ _ => ∅) ∧
      ¬ParaVFS.sample.NoSpuriousError (.xSync "paraql.db-journal")
        (VfsState.initial fun _ _ => ∅) := by
  have ran : (ParaVFS.sample.perform (.xSync "paraql.db-journal")).run
      (VfsState.initial fun _ _ => ∅) = (.ok ⟨[PageFile.noBatch "paraql.db-journal"], []⟩,
        VfsState.initial fun _ _ => ∅) := run_sync_closed rfl
  constructor
  · intro access made
    rw [accesses, ran] at made
    cases made
  · intro noError
    obtain ⟨reply, after, ranHere, succeeds⟩ := noError.succeeds
    rw [ran] at ranHere
    cases ranHere
    cases succeeds

end ParaVFS
end ParaQL
