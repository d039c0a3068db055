/-
When `_apply` returns, and leaves the instance ready for the next node.

`_write` throws while a batch is pending, a STMT throws when its statement cannot be
prepared, and WRITER_ADD and WRITER_DEL wait for the host.  So `_apply` gets through when
SQLite syncs or deletes whatever it changed before a request ends, local calls only look
while nodes are applied, and the rest does not fail.
-/

import ParaQL.ApplyRule
import ParaQL.CallBridge

namespace ParaQL

open Async Async.Task Bytes

variable {κ α : Type}

def SqliteCall.leaves : SqliteCall → Finset FileName → Finset FileName
  | .file (.xWrite name _ _), dirty => insert name dirty
  | .file (.xTruncate name _), dirty => insert name dirty
  | .file (.xSync name), dirty => dirty.erase name
  | .file (.xDelete name), dirty => dirty.erase name
  | _, dirty => dirty

/-- Whatever it is answered, SQLite syncs or deletes every file that it changed before the
request ends, and leaves the connection in one of the given states. -/
inductive Program.Syncs (calm : κ → Prop) : Finset FileName → Program (α × κ) → Prop where
  | done (value : α) {connection : κ} (ends : calm connection) :
      Syncs calm ∅ (.done (value, connection))
  | ask {dirty : Finset FileName} {call : SqliteCall} {next : call.Answer → Program (α × κ)}
      (rest : ∀ answer, Syncs calm (call.leaves dirty) (next answer)) :
      Syncs calm dirty (.ask call next)

private theorem Program.syncs_calls {calm : κ → Prop} {value : α} {connection : κ}
    (ends : calm connection)
    {calls : List VfsCall} {dirty : Finset FileName}
    (clean : calls.foldl (fun dirty call => (SqliteCall.file call).leaves dirty) dirty = ∅) :
    (Program.calls (value, connection) calls).Syncs calm dirty := by
  induction calls generalizing dirty with
  | nil =>
      rw [List.foldl_nil] at clean
      exact clean ▸ .done value ends
  | cons call calls ih => exact .ask fun _ => ih clean

def Request.Syncs (calm : κ → Prop) (request : Request κ α) : Prop :=
  ∀ connection, calm connection → (request connection).Syncs calm ∅

/-- What `_apply` asks of a statement. -/
structure Sqlite.RunSyncs (sqlite : Sqlite κ) (calm : κ → Prop) (sql : String) : Prop where
  prepare : (sqlite.prepare sql).Syncs calm
  bind : ∀ parameters, (sqlite.bind sql parameters).Syncs calm
  run : ∀ parameters, (sqlite.run sql parameters).Syncs calm
  reset : (sqlite.reset sql).Syncs calm

/-- The statement of a BATCH is that of an earlier node. -/
def Sqlite.NodeSyncs (sqlite : Sqlite κ) (calm : κ → Prop) : Operation → Prop
  | .exec sql => (sqlite.exec sql).Syncs calm
  | .run sql _ => sqlite.RunSyncs calm sql
  | .stmt sql _ => sqlite.RunSyncs calm sql
  | _ => True

def Operation.statement : Operation → Option String
  | .run sql _ => some sql
  | .stmt sql _ => some sql
  | _ => none

private theorem keys_insert {files : Finmap (fun _ : FileName => Batch)}
    {dirty : Finset FileName} {name : FileName} (batch : Batch)
    (within : files.keys ⊆ dirty) (member : name ∈ dirty) :
    (files.insert name batch).keys ⊆ dirty := by
  intro other present
  rcases Finmap.mem_insert.1 (Finmap.mem_keys.1 present) with same | old
  · exact same ▸ member
  · exact within (Finmap.mem_keys.2 old)

private theorem keys_erase (files : Finmap (fun _ : FileName => Batch)) (name : FileName) :
    (files.erase name).keys = files.keys.erase name := by
  ext other
  rw [Finmap.mem_keys, Finmap.mem_erase, Finset.mem_erase, Finmap.mem_keys]

private theorem keys_addTo (state : VfsState) (name : FileName) (batch : Batch)
    (item : BatchOp) : (state.addTo name batch item).files.keys = state.files.keys := by
  unfold VfsState.addTo
  cases found : state.files.lookup name with
  | none => rfl
  | some registered =>
      simp only
      split
      · ext other
        simp only [Finmap.mem_keys, Finmap.mem_insert, or_iff_right_iff_imp]
        rintro rfl
        exact Finmap.mem_of_lookup_eq_some found
      · rfl

/-- A step leaves a batch for its own file only, and none when the call looks. -/
theorem VfsMove.keys {vfs : ParaVFS} {name : FileName} {looks : Bool} {state after : VfsState}
    {dirty : Finset FileName} (move : VfsMove vfs name looks state after)
    (writes : looks = false → name ∈ dirty) (within : state.files.keys ⊆ dirty) :
    after.files.keys ⊆ dirty := by
  cases move with
  | make mutates closed => exact keys_insert _ within (writes mutates)
  | add op batch item mutates =>
      rw [keys_addTo]
      exact within
  | unregister mutates =>
      change (state.files.erase name).keys ⊆ dirty
      rw [keys_erase]
      exact (Finset.erase_subset _ _).trans within
  | _ => exact within

def SameBatches (state moved : VfsState) : Prop := moved.files.keys = state.files.keys

private theorem pending_stable (dirty : Finset FileName) :
    Stable SameBatches fun state => state.files.keys ⊆ dirty :=
  fun _ _ same within => (congrArg (· ⊆ dirty) same).mpr within

namespace ParaVFS

variable {vfs : ParaVFS}

private theorem triple_storeCall_kept (serves : ∀ call, vfs.runtime.fault call = false) {α : Type}
    {before after : VfsState → Prop} {rejected : JsValue → VfsState → Prop} {op : StoreOp}
    {name : FileName} {target : VfsState → StoreRef} {action : VfsState → α × VfsState}
    (stable : Stable SameBatches before)
    (acts : ∀ state, before state →
      after (action (state.record (.store op name (target state) state.view false))).2) :
    Triple SameBatches before (vfs.storeCall op name target action) (fun _ => after) rejected := by
  refine triple_atomic stable fun state holds => ?_
  simp only [serves, Bool.false_eq_true, if_false]
  exact acts state holds

/-- The batch is taken out before the flush is awaited. -/
theorem flush_pending (serves : ∀ call, vfs.runtime.fault call = false) (name : FileName)
    (dirty : Finset FileName) :
    Triple SameBatches (fun state => state.files.keys ⊆ dirty) (vfs.flush name)
      (fun _ state => state.files.keys ⊆ dirty.erase name)
      (fun _ state => state.files.keys ⊆ dirty.erase name) := by
  refine Triple.bind (?_ : Triple SameBatches _ _
    (fun _ state => state.files.keys ⊆ dirty.erase name) _) fun batch => ?_
  · refine triple_atomic (pending_stable dirty) fun state within => ?_
    cases found : state.files.lookup name with
    | none =>
        refine Finset.subset_erase.2 ⟨within, fun present => ?_⟩
        exact Finmap.lookup_eq_none.1 found (Finmap.mem_keys.1 present)
    | some batch =>
        change (state.files.erase name).keys ⊆ dirty.erase name
        rw [keys_erase]
        exact Finset.erase_subset_erase name within
  · exact triple_storeCall_kept serves (pending_stable _) fun _ within => within

private theorem tryDelete_pending (serves : ∀ call, vfs.runtime.fault call = false)
    {name : FileName}
    {dirty : Finset FileName} (member : name ∈ dirty) {rejected : JsValue → VfsState → Prop}
    (index : Nat) :
    Triple SameBatches (fun state => state.files.keys ⊆ dirty) (vfs.tryDelete name index)
      (fun _ state => state.files.keys ⊆ dirty) rejected := by
  refine Triple.bind (?_ : Triple SameBatches _ _ (fun _ state => state.files.keys ⊆ dirty) _)
    fun batch => ?_
  · refine triple_atomic (pending_stable dirty) fun state within => ?_
    cases state.files.lookup name with
    | none => exact keys_insert _ within member
    | some batch => exact within
  · refine triple_storeCall_kept serves (pending_stable dirty) fun state within => ?_
    rw [keys_addTo]
    exact within

/-- Only the flush can throw, when there is no batch. -/
theorem xDelete_pending (serves : ∀ call, vfs.runtime.fault call = false) (name : FileName)
    (dirty : Finset FileName) :
    Triple SameBatches (fun state => state.files.keys ⊆ dirty)
      (do let index ← vfs.last name
          (if index ≥ 0 then Task.forEach (List.range (index + 1).toNat) (vfs.tryDelete name)
            else pure ())
          vfs.flush name
          pure ([] : List JsValue))
      (fun _ state => state.files.keys ⊆ dirty.erase name)
      (fun _ state => state.files.keys ⊆ dirty.erase name) := by
  have marked := Finset.mem_insert_self name dirty
  refine Triple.bind (?_ : Triple SameBatches _ _
    (fun _ state => state.files.keys ⊆ insert name dirty) _) fun index => ?_
  · rw [last_eq]
    exact triple_storeCall_kept serves (pending_stable dirty)
      fun _ within => within.trans (Finset.subset_insert _ _)
  refine Triple.bind (?_ : Triple SameBatches _ _
    (fun _ state => state.files.keys ⊆ insert name dirty) _) fun _ => ?_
  · exact triple_ite (fun _ => triple_forEach fun page _ => tryDelete_pending serves marked page)
      fun _ => triple_pure _ fun _ within => within
  have flushed := flush_pending serves name (insert name dirty)
  rw [Finset.erase_insert_eq_erase] at flushed
  exact flushed.bind fun _ => triple_pure _ fun _ within => within

/-- A handler without a buffer calls back, however its body ends. -/
theorem handler_pending {call : VfsCall} {body : VfsTask (List JsValue)}
    (handles : vfs.perform call = withoutBuffer (callback body)) {before after : VfsState → Prop}
    (triple : Triple SameBatches before body (fun _ => after) (fun _ => after)) :
    Triple SameBatches before (vfs.native call) (fun _ => after) (fun _ _ => False) := by
  have called : Triple SameBatches before (callback body) (fun _ => after) (fun _ _ => False) :=
    Triple.catch (triple.bind fun values => triple_pure _ fun _ holds => holds)
      fun thrown => triple_pure _ fun _ holds => holds
  unfold native
  rw [handles]
  exact Triple.bind (called.bind fun args => triple_pure (VfsReply.mk args []) fun _ holds => holds)
    fun reply => triple_pure _ fun _ holds => holds

/-- What a call leaves pending, when others only look. -/
theorem native_pending (serves : ∀ call, vfs.runtime.fault call = false) (call : VfsCall)
    (dirty : Finset FileName) :
    Triple SameBatches (fun state => state.files.keys ⊆ dirty) (vfs.native call)
      (fun _ state => state.files.keys ⊆ (SqliteCall.file call).leaves dirty)
      (fun _ _ => False) := by
  have moved (after : Finset FileName) (writes : call.looks = false → call.file ∈ after)
      (grows : dirty ⊆ after) :
      Triple SameBatches (fun state => state.files.keys ⊆ dirty) (vfs.native call)
        (fun _ state => state.files.keys ⊆ after) (fun _ _ => False) := by
    have steps : Guarantees (VfsMove vfs call.file call.looks) (vfs.native call) :=
      (vfs.perform_moves call).bind fun _ => guarantees_pure _
    have kept := steps.keeps (pending_stable after) fun _ _ move => move.keys writes
    have returns : Triple SameBatches (fun _ => True) (vfs.native call) (fun _ _ => True)
        (fun _ _ => False) := (native_resolves vfs call).triple
    exact (Triple.and kept returns).mono (fun _ within => ⟨within.trans grows, trivial⟩)
      (fun _ _ ends => ends.1) fun _ _ ends => ends.2
  have looked (looks : call.looks = true) := moved dirty (fun mutates => by
    rw [looks] at mutates
    cases mutates) (Finset.Subset.refl _)
  cases call with
  | xDelete name => exact handler_pending rfl (xDelete_pending serves name dirty)
  | xAccess name => exact looked rfl
  | xRead name buffer offset => exact looked rfl
  | xWrite name data offset =>
      exact moved _ (fun _ => Finset.mem_insert_self _ _) (Finset.subset_insert _ _)
  | xTruncate name size =>
      exact moved _ (fun _ => Finset.mem_insert_self _ _) (Finset.subset_insert _ _)
  | xSync name =>
      exact handler_pending rfl ((flush_pending serves name dirty).bind fun _ =>
        triple_pure _ fun _ within => within)
  | xSize name => exact looked rfl

end ParaVFS

/-! ### Engines -/

/-- Under a view, with a connection from which statements sync, and with the statements that
`_apply` goes on with open. -/
structure Engine.Ready (calm : κ → Prop) (view : Option Nat) (opens : String → Prop)
    (engine : Engine κ) : Prop where
  view : engine.vfs.view = view
  calm : calm engine.connection
  opened : ∀ sql, opens sql → sql ∈ engine.cache
  running : engine.aborted = false

structure Engine.Working (calm : κ → Prop) (view : Option Nat) (opens : String → Prop)
    (dirty : Finset FileName) (engine : Engine κ) : Prop extends
    Engine.Ready calm view opens engine where
  pending : engine.vfs.files.keys ⊆ dirty

theorem Engine.Working.mono {calm : κ → Prop} {view : Option Nat} {opens fewer : String → Prop}
    {dirty : Finset FileName} {engine : Engine κ} (working : engine.Working calm view opens dirty)
    (among : ∀ sql, fewer sql → opens sql) : engine.Working calm view fewer dirty :=
  { working with opened := fun sql isFewer => working.opened sql (among sql isFewer) }

def Evicts (size : Nat) (cache : List String) (sql : String) : Prop :=
  size < cache.length ∧ cache.head? = some sql

/-- The connection stays in a state from which statements sync, and none of the given
statements is closed or becomes the one to be closed. -/
structure Engine.LeavesOpen (calm : κ → Prop) (size : Nat) (used : String → Prop)
    (engine moved : Engine κ) : Prop where
  calm : calm engine.connection → calm moved.connection
  opened : ∀ sql, used sql → sql ∈ engine.cache → sql ∈ moved.cache
  evicts : ∀ sql, used sql → Evicts size moved.cache sql → Evicts size engine.cache sql

structure Engine.Spared (calm : κ → Prop) (size : Nat) (used : String → Prop)
    (engine moved : Engine κ) : Prop extends Engine.LeavesOpen calm size used engine moved where
  view : moved.vfs.view = engine.vfs.view
  batches : SameBatches engine.vfs moved.vfs
  closed : moved.closed = engine.closed
  running : engine.aborted = false → moved.aborted = false

namespace Database

variable {db : Database κ} {calm : κ → Prop} {used opens : String → Prop} {view : Option Nat}
  {dirty : Finset FileName} {sql : String}

abbrev Keeps (db : Database κ) (calm : κ → Prop) (used : String → Prop)
    (holds : Engine κ → Prop) (task : EngineTask κ α) : Prop :=
  Triple (Engine.Spared calm db.cacheSize used) holds task (fun _ => holds) (fun _ => holds)

section Engines

variable (uses : ∀ sql, opens sql → used sql)

include uses

private theorem ready_stable (size : Nat) :
    Stable (Engine.Spared calm size used) (Engine.Ready calm view opens) := fun _ _ spared ready =>
  { view := spared.view.trans ready.view
    calm := spared.calm ready.calm
    opened := fun sql same => spared.opened sql (uses sql same) (ready.opened sql same)
    running := spared.running ready.running }

private theorem working_stable (size : Nat) :
    Stable (Engine.Spared calm size used) (Engine.Working calm view opens dirty) :=
  fun state moved spared working =>
    { ready_stable uses size state moved spared working.toReady with
      pending := pending_stable dirty _ _ spared.batches working.pending }

variable (serves : ∀ call, db.vfs.runtime.fault call = false)

include serves

private theorem answer_working (call : SqliteCall) :
    Triple (Engine.Spared calm db.cacheSize used) (Engine.Working calm view opens dirty)
      (db.answer call) (fun _ => Engine.Working calm view opens (call.leaves dirty))
      (fun _ _ => False) := by
  cases call with
  | file call =>
      have moves : Guarantees (VfsMove db.vfs call.file call.looks) (db.vfs.native call) :=
        (db.vfs.perform_moves call).bind fun _ => guarantees_pure _
      have ready : db.Keeps calm used (Engine.Ready calm view opens) (db.answer (.file call)) := by
        refine (moves.zoom Engine.lawful_vfs).keeps (ready_stable uses _) ?_
        intro engine after step ready
        rw [step.2]
        exact { ready with view := step.1.view.trans ready.view }
      have pending : Triple (Engine.Spared calm db.cacheSize used)
          (fun engine => engine.vfs.files.keys ⊆ dirty) (db.answer (.file call))
          (fun _ engine => engine.vfs.files.keys ⊆ (SqliteCall.file call).leaves dirty)
          (fun _ _ => False) :=
        Triple.zoom Engine.lawful_vfs (fun _ _ spared => .single spared.batches)
          (ParaVFS.native_pending serves call dirty)
      exact (Triple.and ready pending).mono (fun _ working => ⟨working.toReady, working.pending⟩)
        (fun _ _ ends => { ends.1 with pending := ends.2 }) fun _ _ ends => ends.2
  | randomness bytes => exact triple_pure _ fun _ ready => ready
  | currentTime =>
      exact triple_atomic (working_stable uses _) fun engine working => { working with }

private theorem serve_working {program : Program (α × κ)} (syncs : program.Syncs calm dirty) :
    Triple (Engine.Spared calm db.cacheSize used) (Engine.Working calm view opens dirty)
      (db.serve program)
      (fun ended engine => engine.Working calm view opens ∅ ∧ calm ended.2) (fun _ _ => False) := by
  induction syncs with
  | done value ends => exact triple_pure _ fun _ working => ⟨working, ends⟩
  | ask _ ih => exact (answer_working uses serves _).bind ih

/-- A request that succeeds or fails leaves nothing pending. -/
theorem request_working {program : Request κ α} (syncs : program.Syncs calm) :
    db.Keeps calm used (Engine.Working calm view opens ∅) (db.request program) := by
  refine Triple.bind (triple_read (working_stable uses _) fun engine working =>
    ⟨working, working.calm⟩ : Triple _ _ _
      (fun connection engine => engine.Working calm view opens ∅ ∧ calm connection) _)
    fun connection => triple_known fun isCalm => ?_
  have served : Triple (Engine.Spared calm db.cacheSize used) (Engine.Working calm view opens ∅)
      (db.serve (program connection))
      (fun ended engine => engine.Working calm view opens ∅ ∧ calm ended.2)
      (fun _ => Engine.Working calm view opens ∅) :=
    (serve_working uses serves (syncs connection isCalm)).mono (fun _ working => working)
      (fun _ _ ends => ends) fun _ _ impossible => impossible.elim
  refine served.bind fun ended => triple_known fun endsCalm => ?_
  obtain ⟨result, connection⟩ := ended
  refine triple_atomic (working_stable uses _) fun engine working => ?_
  cases result with
  | ok value => exact { working with calm := endsCalm }
  | error error => exact { working with calm := endsCalm }

/-- The handle of an open statement is used. -/
theorem onHandle_working (isOpen : opens sql) {program : Request κ α}
    (syncs : program.Syncs calm) :
    db.Keeps calm used (Engine.Working calm view opens ∅) (db.onHandle sql program) := by
  refine Triple.bind (triple_modify (working_stable uses _) fun engine working => ?_)
    fun _ => request_working uses serves syncs
  refine { working with running := ?_ }
  simp [working.running, working.opened sql isOpen]

omit serves in
private theorem assertArray_working {parameters : Parameters} (listed : parameters.Listed)
    (present : parameters.positional ≠ .null) :
    db.Keeps calm used (Engine.Working calm view opens ∅)
      (assertArray parameters.positional : EngineTask κ Unit) := by
  refine triple_modify (working_stable uses _) fun engine working => ?_
  refine { working with running := ?_ }
  simp [working.running, listed.isArray present]

private theorem bind_working (isOpen : opens sql) (syncs : db.sqlite.RunSyncs calm sql)
    {parameters : Parameters} (listed : parameters.Listed) :
    db.Keeps calm used (Engine.Working calm view opens ∅) (db.bind sql parameters) := by
  unfold bind
  split
  · exact triple_throw _ fun _ working => working
  · rename_i present
    refine (assertArray_working uses listed present).bind fun _ => ?_
    exact (onHandle_working uses serves isOpen (syncs.bind _)).bind fun _ =>
      triple_modify (working_stable uses _) fun engine working => { working with }

private theorem runStatement_working (isOpen : opens sql) (syncs : db.sqlite.RunSyncs calm sql)
    {parameters : Parameters} (listed : parameters.Listed) :
    db.Keeps calm used (Engine.Working calm view opens ∅) (db.runStatement sql parameters) := by
  refine Triple.ensure_keeps (Triple.catch (?_ : db.Keeps calm used
    (Engine.Working calm view opens ∅) _) fun thrown => triple_throw _ fun _ working => working)
    (onHandle_working uses serves isOpen syncs.reset)
  refine (bind_working uses serves isOpen syncs listed).bind fun _ => Triple.bind
    (triple_read (working_stable uses _) fun _ working => working :
      Triple _ _ _ (fun _ => Engine.Working calm view opens ∅) _) fun bound => ?_
  exact onHandle_working uses serves isOpen (syncs.run bound)

private theorem exec_working (syncs : (db.sqlite.exec sql).Syncs calm) :
    db.Keeps calm used (Engine.Working calm view opens ∅) (db.exec sql) :=
  Triple.catch (request_working uses serves syncs) fun _ => triple_throw _ fun _ working => working

end Engines

section Preparing

variable (uses : ∀ sql, opens sql → used sql) (known : used sql)

include uses known

private theorem evict_working (serves : ∀ call, db.vfs.runtime.fault call = false)
    (finalizes : ∀ other, (db.sqlite.finalize other).Syncs calm)
    {oldest : Option String} (different : oldest ≠ some sql) :
    Triple (Engine.Spared calm db.cacheSize used)
      (Engine.Working calm view (fun other => opens other ∨ other = sql) ∅) (db.evict oldest)
      (fun _ => Engine.Working calm view (· = sql) ∅)
      (fun _ => Engine.Working calm view opens ∅) := by
  have usesBoth : ∀ other, opens other ∨ other = sql → used other := by
    rintro other (isOpen | rfl)
    · exact uses other isOpen
    · exact known
  have alone (engine : Engine κ)
      (working : engine.Working calm view (fun other => opens other ∨ other = sql) ∅) :
      engine.Working calm view (· = sql) ∅ :=
    { working with opened := fun other same => working.opened other (Or.inr same) }
  cases oldest with
  | none => exact triple_pure _ alone
  | some oldest =>
      refine Triple.bind (triple_read (working_stable usesBoth _) fun _ working => working :
        Triple _ _ _ (fun _ => Engine.Working calm view _ ∅) _) fun isOpen =>
        triple_ite (fun _ => ?_) fun _ => triple_pure _ alone
      refine Triple.catch ((request_working usesBoth serves (finalizes oldest)).bind fun _ =>
        triple_modify (working_stable usesBoth _) fun engine working => ?_) fun thrown =>
          triple_throw _ fun engine working =>
            { working with opened := fun other same => working.opened other (Or.inl same) }
      refine { working with opened := ?_ }
      intro other same
      rw [same]
      have apart : sql ≠ oldest := fun same => different (congrArg some same.symm)
      exact (List.mem_erase_of_ne apart).2 (working.opened sql (Or.inr rfl))

private theorem insert_working (caching : 0 < db.cacheSize) :
    Triple (Engine.Spared calm db.cacheSize used)
      (fun engine => engine.Working calm view opens ∅ ∧ ¬Evicts db.cacheSize engine.cache sql)
      (db.insert sql)
      (fun oldest engine =>
        engine.Working calm view (fun other => opens other ∨ other = sql) ∅ ∧ oldest ≠ some sql)
      (fun _ => Engine.Working calm view opens ∅) := by
  refine triple_atomic (fun engine moved spared held =>
    ⟨working_stable uses _ _ _ spared held.1, mt (spared.evicts sql known) held.2⟩) ?_
  rintro engine ⟨working, notDue⟩
  by_cases present : sql ∈ engine.cache
  · simp only [if_pos present]
    refine ⟨{ working with opened := ?_ }, ?_⟩
    · rintro other (isOpen | rfl)
      · exact working.opened other isOpen
      · exact present
    · split
      next full => exact fun oldest => notDue ⟨full, oldest⟩
      next => exact (Option.some_ne_none sql).symm
  · simp only [if_neg present]
    refine ⟨{ working with opened := ?_ }, ?_⟩
    · rintro other (isOpen | rfl)
      · exact List.mem_append_left _ (working.opened other isOpen)
      · exact List.mem_append_right _ (List.mem_singleton.2 rfl)
    · split
      next full =>
        cases held : engine.cache with
        | nil =>
            rw [held] at full
            exact absurd full (Nat.not_lt.2 caching)
        | cons first rest =>
            rintro ⟨⟩
            exact present (held ▸ List.mem_cons_self)
      next => exact (Option.some_ne_none sql).symm

private theorem prepare_working (serves : ∀ call, db.vfs.runtime.fault call = false)
    (caching : 0 < db.cacheSize)
    (finalizes : ∀ other, (db.sqlite.finalize other).Syncs calm)
    (prepares : (db.sqlite.prepare sql).Syncs calm) :
    Triple (Engine.Spared calm db.cacheSize used) (Engine.Working calm view opens ∅)
      (db.prepare sql) (fun _ => Engine.Working calm view (· = sql) ∅)
      (fun _ => Engine.Working calm view opens ∅) := by
  refine Triple.bind (triple_atomic (working_stable uses _) fun engine working => ?_ :
    Triple _ _ _ (fun found engine => if found then engine.Working calm view (· = sql) ∅ else
      engine.Working calm view opens ∅ ∧ ¬Evicts db.cacheSize engine.cache sql) _) fun found => ?_
  · by_cases shut : engine.closed = true
    · simp only [if_pos shut]
      exact working
    simp only [if_neg shut]
    by_cases present : sql ∈ engine.cache
    · simp only [if_pos present]
      refine { working with opened := ?_ }
      rintro _ rfl
      exact List.mem_append_right _ (List.mem_singleton.2 rfl)
    · simp only [if_neg present]
      refine ⟨working, fun due => present ?_⟩
      exact List.mem_of_mem_head? due.2
  cases found with
  | true => exact triple_pure _ fun _ working => working
  | false =>
      have notDue : db.Keeps calm used (fun engine => ¬Evicts db.cacheSize engine.cache sql)
          (db.request (db.sqlite.prepare sql)) := by
        refine (request_onlyWorks _).keeps (fun _ _ spared => mt (spared.evicts sql known)) ?_
        intro engine after works notDue
        rw [works]
        exact notDue
      refine Triple.bind ?_ fun _ => (insert_working uses known caching).bind fun oldest =>
        triple_known fun different => evict_working uses known serves finalizes different
      refine Triple.catch (Triple.and (request_working uses serves prepares) notDue) fun thrown =>
        triple_throw _ fun _ held => held.1

end Preparing

def leavesFiles : SqliteCall → Prop
  | .file call => call.looks = true
  | _ => True

/-- The callers go on, and so do local calls that change no file and have their own
statement open. -/
inductive QuietMove (db : Database κ) (calm : κ → Prop) (used : String → Prop) :
    Instance κ → Instance κ → Prop where
  | call (state : Instance κ) (next : Calls)
      (move : CallMove db.vfs.compressed state.calls next) :
      QuietMove db calm used state { state with calls := next }
  | localStep (state : Instance κ) (call : LocalCall) {update : Engine κ → Engine κ}
      (makes : Task.Makes (db.localCall call) update)
      (looks : db.sqlite.LocalAsks leavesFiles call)
      (evicts : ∀ other, (db.sqlite.finalize other).Asks leavesFiles)
      (opened : call.OnOpen state.engine)
      (leaves : state.engine.LeavesOpen calm db.cacheSize used (update state.engine)) :
      QuietMove db calm used state { state with engine := update state.engine }

private theorem QuietMove.anyMove {state moved : Instance κ}
    (move : db.QuietMove calm used state moved) :
    db.AnyMove state moved := by
  cases move with
  | call next step => exact .call state next step
  | localStep call makes looks evicts opened leaves => exact .localStep state call trivial makes

private theorem localCall_staysUp (call : LocalCall) :
    Guarantees (fun engine after : Engine κ => after.closed = engine.closed ∧
      (call.OnOpen engine → engine.aborted = false → after.aborted = false))
      (db.localCall call) := by
  have requested {β : Type} {holds : Engine κ → Prop} (program : Request κ β) :
      Guarantees (fun engine after : Engine κ => after.closed = engine.closed ∧
        (holds engine → engine.aborted = false → after.aborted = false)) (db.request program) :=
    (request_onlyWorks program).mono fun engine after works => by
      rw [works]
      exact ⟨rfl, fun _ running => running⟩
  have handles (sql : String) : Guarantees (fun engine after : Engine κ =>
      after.closed = engine.closed ∧
        (sql ∈ engine.cache → engine.aborted = false → after.aborted = false)) (useHandle sql) :=
    guarantees_atomic fun engine => ⟨rfl, fun isOpen running => by simp [running, isOpen]⟩
  have checks (sql : String) {parameters : Parameters}
      (present : parameters.positional ≠ .null) : Guarantees (fun engine after : Engine κ =>
        after.closed = engine.closed ∧ (sql ∈ engine.cache ∧ parameters.Listed →
          engine.aborted = false → after.aborted = false))
        (assertArray parameters.positional) :=
    guarantees_atomic fun engine =>
      ⟨rfl, fun held running => by simp [running, held.2.isArray present]⟩
  have still {holds : Engine κ → Prop} (engine after : Engine κ)
      (closed : after.closed = engine.closed) (same : after.aborted = engine.aborted) :
      after.closed = engine.closed ∧
        (holds engine → engine.aborted = false → after.aborted = false) :=
    ⟨closed, fun _ running => same.trans running⟩
  cases call with
  | prepare sql =>
      exact prepare_guarantees (fun _ _ _ => still _ _) (requested _) fun _ => requested _
  | get sql parameters =>
      exact (get_guarantees (fun _ => ⟨rfl, fun _ running => running⟩)
        ((handles sql).mono fun _ _ kept => ⟨kept.1, fun held => kept.2 held.1⟩)
        (fun _ _ => ⟨rfl, fun _ running => running⟩) (checks sql) (requested _)
        (fun _ => requested _) (requested _)).bind fun _ => guarantees_pure _
  | iterate sql parameters limit =>
      exact (iterate_guarantees (fun _ => ⟨rfl, fun _ running => running⟩)
        ((handles sql).mono fun _ _ kept => ⟨kept.1, fun held => kept.2 held.1⟩)
        (fun _ _ => ⟨rfl, fun _ running => running⟩) (checks sql) (requested _)
        (fun _ => requested _) (requested _) limit).bind fun _ => guarantees_pure _
  | finalize sql => exact finalize_guarantees (fun _ _ _ => still _ _) (requested _)

theorem QuietMove.spared {state moved : Instance κ} (move : db.QuietMove calm used state moved) :
    state.engine.Spared calm db.cacheSize used moved.engine ∧ moved.host = state.host := by
  cases move with
  | call next step =>
      exact ⟨{ view := rfl, batches := rfl, closed := rfl, calm := id, opened := fun _ _ => id
               evicts := fun _ _ => id, running := id }, rfl⟩
  | @localStep call update makes looks evicts opened leaves =>
      have step := (localCall_steps looks evicts).of_makes makes state.engine
      have stays := (localCall_staysUp call).of_makes makes state.engine
      refine ⟨{ leaves with
        view := ?_, batches := ?_, closed := stays.1, running := stays.2 opened }, rfl⟩
      · rcases step with same | ⟨asked, _, move⟩
        · exact congrArg VfsState.view same
        · exact move.view
      · rcases step with same | ⟨asked, looking, move⟩
        · exact congrArg (fun vfs => vfs.files.keys) same
        · have isLook : asked.looks = true := looking
          rw [isLook] at move
          exact congrArg Finmap.keys move.files

/-! ### Nodes -/

def AtRest (calm : κ → Prop) (view : Option Nat) (stmt : Option String) (state : Instance κ) :
    Prop :=
  state.engine.Working calm view (fun sql => stmt = some sql) ∅

/-- What has to hold at the turn of a node: a STMT can be prepared, and the host does what
WRITER_ADD and WRITER_DEL ask. -/
def NodeReady (db : Database κ) (moves : Instance κ → Instance κ → Prop) (state : Instance κ) :
    Operation → Prop
  | .stmt sql _ => ∀ thrown final,
      ¬RunUnder moves (onEngine (db.prepare sql)) state (.error thrown) final
  | .writerAdd _ => ∀ calls < 3, db.hostFault (state.host.length + calls) = none
  | .writerDel _ => ∀ calls < 3, db.hostFault (state.host.length + calls) = none
  | _ => True

section Nodes

variable {stmt : Option String} (uses : ∀ sql, stmt = some sql → used sql)

private theorem triple_onEngine {task : EngineTask κ α} {before : Engine κ → Prop}
    {after : α → Engine κ → Prop} {rejected : JsValue → Engine κ → Prop}
    (triple : Triple (Engine.Spared calm db.cacheSize used) before task after rejected) :
    Triple (db.QuietMove calm used) (fun state => before state.engine) (onEngine task)
      (fun value state => after value state.engine)
      (fun thrown state => rejected thrown state.engine) :=
  Triple.zoom Instance.lawful_engine (fun _ _ move => .single move.spared.1) triple

include uses

private theorem atRest_stable :
    Stable (db.QuietMove calm used) (AtRest calm view stmt) := fun _ _ move atRest =>
  working_stable uses _ _ _ move.spared.1 atRest

/-- `_write` finds nothing pending. -/
theorem switchTo_atRest (target : Option Nat) :
    Triple (db.QuietMove calm used) (AtRest calm view stmt) (switchTo target)
      (fun _ => AtRest calm target stmt) (fun _ _ => False) := by
  refine triple_switchTo target (atRest_stable uses) (fun state error atRest pending => ?_)
    fun state atRest _ => { atRest with view := rfl }
  exact pending (Finset.card_eq_zero.2 (Finset.subset_empty.1 atRest.pending))

private theorem modify_atRest {update : Instance κ → Instance κ}
    (unseen : ∀ state, (update state).engine = state.engine) :
    Triple (db.QuietMove calm used) (AtRest calm view stmt)
      (Task.modify update : InstanceTask κ Unit) (fun _ => AtRest calm view stmt)
      (fun _ _ => False) := by
  refine triple_modify (atRest_stable uses) fun state atRest => ?_
  unfold AtRest
  rw [unseen]
  exact atRest

omit uses in
private theorem outcome_atRest {task : EngineTask κ α}
    (keeps : db.Keeps calm used
      (Engine.Working calm view (fun sql => stmt = some sql) ∅) task) :
    Triple (db.QuietMove calm used) (AtRest calm view stmt) (onEngine task).outcome
      (fun _ => AtRest calm view stmt) (fun _ _ => False) := by
  refine ((triple_onEngine keeps).outcome _).mono (fun _ atRest => atRest) ?_
    fun _ _ impossible => impossible
  intro result state ends
  cases result with
  | ok value => exact ends
  | error thrown => exact ends

private theorem applyExec_atRest (serves : ∀ call, db.vfs.runtime.fault call = false)
    (owner : Option CallId) (target : Nat) {sql : String}
    (syncs : (db.sqlite.exec sql).Syncs calm) :
    Triple (db.QuietMove calm used) (AtRest calm none stmt) (db.applyExec owner target sql)
      (fun _ => AtRest calm none stmt) (fun _ _ => False) :=
  (switchTo_atRest uses _).bind fun _ =>
    (outcome_atRest (exec_working uses serves syncs)).bind fun _ => Triple.bind (modify_atRest uses fun _ => rfl) fun _ => switchTo_atRest uses none

/-- A failing prepare leaves the statement of an earlier node. -/
theorem prepareOutcome_atRest (serves : ∀ call, db.vfs.runtime.fault call = false)
    (caching : 0 < db.cacheSize)
    (finalizes : ∀ other, (db.sqlite.finalize other).Syncs calm) {sql : String} (known : used sql)
    (prepares : (db.sqlite.prepare sql).Syncs calm) :
    Triple (db.QuietMove calm used) (AtRest calm view stmt) (onEngine (db.prepare sql)).outcome
      (fun result => AtRest calm view (if result.isOk then some sql else stmt))
      (fun _ _ => False) := by
  refine ((triple_onEngine (prepare_working uses known serves caching finalizes prepares)).outcome
    _).mono (fun _ atRest => atRest) ?_ fun _ _ impossible => impossible
  intro result state ends
  cases result with
  | ok value => exact Engine.Working.mono ends fun other same => (Option.some.inj same).symm
  | error thrown => exact ends

end Nodes

section Node

variable (serves : ∀ call, db.vfs.runtime.fault call = false) (caching : 0 < db.cacheSize)
  (finalizes : ∀ other, (db.sqlite.finalize other).Syncs calm)
  (syncs : ∀ sql, used sql → db.sqlite.RunSyncs calm sql)
  {progress : Progress} (uses : ∀ sql, progress.stmt = some sql → used sql)

include serves caching finalizes syncs uses

private theorem applyRun_atRest (owner : Option CallId) (target : Nat) {sql : String}
    (known : used sql)
    {parameters : Parameters} (listed : parameters.Listed) :
    Triple (db.QuietMove calm used) (AtRest calm none progress.stmt)
      (db.applyRun owner target sql parameters progress)
      (fun later state => AtRest calm none later.stmt state ∧
        (later.stmt = progress.stmt ∨ later.stmt = some sql)) (fun _ _ => False) := by
  have usesOwn : ∀ other, some sql = some other → used other := by
    rintro _ ⟨⟩
    exact known
  have usesEither (prepared : Bool) (other : String)
      (same : (if prepared then some sql else progress.stmt) = some other) : used other := by
    cases prepared with
    | true => exact usesOwn other same
    | false => exact uses other same
  have ran : Triple (db.QuietMove calm used) (AtRest calm (some target) progress.stmt)
      (db.prepareAndRun sql parameters)
      (fun pair => AtRest calm (some target) (if pair.1 then some sql else progress.stmt))
      (fun _ _ => False) := by
    refine (prepareOutcome_atRest uses serves caching finalizes known (syncs sql known).prepare).bind
      fun result => ?_
    cases result with
    | ok value =>
        refine (outcome_atRest
          (runStatement_working usesOwn serves rfl (syncs sql known) listed)).bind fun _ => ?_
        exact triple_pure _ fun _ atRest => atRest
    | error thrown => exact triple_pure _ fun _ atRest => atRest
  refine (switchTo_atRest uses _).bind fun _ => ran.bind fun pair => ?_
  obtain ⟨prepared, result⟩ := pair
  refine Triple.bind (modify_atRest (usesEither prepared) fun _ => rfl) fun _ =>
    (switchTo_atRest (usesEither prepared) none).bind fun _ => triple_pure _ fun _ atRest => ?_
  cases prepared with
  | true => exact ⟨atRest, Or.inr rfl⟩
  | false => exact ⟨atRest, Or.inl rfl⟩

omit caching finalizes in
private theorem applyBatch_atRest (owner : Option CallId) (opens : Bool) (target : Nat)
    {parameters : Parameters} (listed : parameters.Listed) :
    Triple (db.QuietMove calm used) (AtRest calm none progress.stmt)
      (db.applyBatch owner opens target parameters progress)
      (fun later state => AtRest calm none later.stmt state ∧ later.stmt = progress.stmt)
      (fun _ _ => False) := by
  have ran : Triple (db.QuietMove calm used) (AtRest calm (some target) progress.stmt)
      (db.runOn progress.stmt parameters).outcome
      (fun _ => AtRest calm (some target) progress.stmt) (fun _ _ => False) := by
    cases stmt : progress.stmt with
    | none => exact triple_pure _ fun _ atRest => atRest
    | some sql =>
        have usesOwn : ∀ other, some sql = some other → used other := stmt ▸ uses
        exact outcome_atRest
          (runStatement_working usesOwn serves rfl (syncs sql (uses sql stmt)) listed)
  refine (switchTo_atRest uses _).bind fun _ => ran.bind fun result => ?_
  refine Triple.bind (modify_atRest uses fun _ => rfl) fun _ =>
    (switchTo_atRest uses none).bind fun _ => triple_pure _ fun _ atRest => ?_
  cases result with
  | ok value => exact ⟨atRest, rfl⟩
  | error thrown => exact ⟨atRest, rfl⟩

/-- The STMT finds that its statement can be prepared. -/
theorem prepareStmt_atRest {sql : String} (known : used sql) :
    Triple (db.QuietMove calm used)
      (fun state => AtRest calm none progress.stmt state ∧ ∀ thrown final,
        ¬RunUnder (db.QuietMove calm used) (onEngine (db.prepare sql)) state (.error thrown) final)
      (db.prepareStmt sql) (fun _ => AtRest calm none (some sql)) (fun _ _ => False) := by
  have prepared : Triple (db.QuietMove calm used) (AtRest calm none progress.stmt)
      (onEngine (db.prepare sql))
      (fun _ state => state.engine.Working calm none (· = sql) ∅) (fun _ _ => True) :=
    (triple_onEngine (prepare_working uses known serves caching finalizes
      (syncs sql known).prepare)).mono (fun _ atRest => atRest) (fun _ _ ends => ends)
      fun _ _ _ => trivial
  refine (prepared.never_rejects.outcome _).bind fun result => ?_
  cases result with
  | ok value =>
      refine triple_atomic ?_ fun state working => { working with opened := ?_ }
      · exact fun _ _ move => working_stable (fun other same => same ▸ known) _ _ _ move.spared.1
      · exact fun other same => working.opened other (Option.some.inj same).symm
  | error thrown => exact fun _ _ _ impossible _ => impossible.elim

omit serves caching finalizes syncs

private theorem callHost_atRest (call : HostCall) {made : Nat} (serves : db.hostFault made = none) :
    Triple (db.QuietMove calm used)
      (fun state => AtRest calm none progress.stmt state ∧ state.host.length = made)
      (db.callHost call)
      (fun _ state => AtRest calm none progress.stmt state ∧ state.host.length = made + 1)
      (fun _ _ => False) := by
  refine triple_atomic (fun state moved move held =>
    ⟨atRest_stable uses _ _ move held.1, (congrArg List.length move.spared.2).trans held.2⟩) ?_
  rintro state ⟨atRest, counted⟩
  rw [counted, serves]
  exact ⟨atRest, by rw [List.length_append, counted, List.length_singleton]⟩

private theorem applyWriter_atRest (call : HostCall) :
    Triple (db.QuietMove calm used)
      (fun state => AtRest calm none progress.stmt state ∧
        ∀ calls < 3, db.hostFault (state.host.length + calls) = none)
      (db.applyWriter call) (fun _ => AtRest calm none progress.stmt) (fun _ _ => False) := by
  rintro state result final ⟨atRest, serves⟩ ran
  have triple : Triple (db.QuietMove calm used)
      (fun held => AtRest calm none progress.stmt held ∧ held.host.length = state.host.length)
      (db.applyWriter call) (fun _ => AtRest calm none progress.stmt) (fun _ _ => False) :=
    (callHost_atRest uses .write (serves 0 (by omega))).bind fun _ =>
      (callHost_atRest uses call (serves 1 (by omega))).bind fun _ =>
        (callHost_atRest uses .flush (serves 2 (by omega))).mono (fun _ held => held)
          (fun _ _ held => held.1) fun _ _ impossible => impossible
  exact triple state result final ⟨atRest, rfl⟩ ran

private theorem applyNode_atRest (serves : ∀ call, db.vfs.runtime.fault call = false)
    (caching : 0 < db.cacheSize)
    (finalizes : ∀ other, (db.sqlite.finalize other).Syncs calm)
    (syncs : ∀ sql, used sql → db.sqlite.RunSyncs calm sql) (target : Nat) (node : Node)
    (nodeSyncs : db.sqlite.NodeSyncs calm node.operation)
    (listed : node.operation.Listed)
    (nodeUses : ∀ sql, node.operation.statement = some sql → used sql) :
    Triple (db.QuietMove calm used)
      (fun state => AtRest calm none progress.stmt state ∧
        db.NodeReady (db.QuietMove calm used) state node.operation)
      (db.applyNode target node progress)
      (fun later state => AtRest calm none later.stmt state ∧
        ∀ sql, later.stmt = some sql → used sql) (fun _ _ => False) := by
  obtain ⟨owner, operation⟩ := node
  have unchanged : Triple (db.QuietMove calm used) (AtRest calm none progress.stmt)
      (pure progress : InstanceTask κ Progress)
      (fun later state => AtRest calm none later.stmt state ∧
        ∀ sql, later.stmt = some sql → used sql) (fun _ _ => False) :=
    triple_pure _ fun _ atRest => ⟨atRest, uses⟩
  cases operation with
  | writerAdd key => exact (applyWriter_atRest uses (.addWriter key)).bind fun _ => unchanged
  | writerDel key => exact (applyWriter_atRest uses (.removeWriter key)).bind fun _ => unchanged
  | exec sql =>
      exact ((applyExec_atRest uses serves owner target nodeSyncs).bind fun _ => unchanged).mono
        (fun _ held => held.1) (fun _ _ held => held) fun _ _ impossible => impossible
  | run sql parameters =>
      have known := nodeUses sql rfl
      refine (applyRun_atRest serves caching finalizes syncs uses owner target known listed).mono
        (fun _ held => held.1) ?_ fun _ _ impossible => impossible
      rintro later state ⟨atRest, same | same⟩
      · exact ⟨atRest, fun other isStmt => uses other (same ▸ isStmt)⟩
      · rw [same] at atRest ⊢
        exact ⟨atRest, nodeUses⟩
  | stmt sql parameters =>
      have known := nodeUses sql rfl
      have usesOwn (other : String)
          (same : { progress with stmt := some sql }.stmt = some other) : used other :=
        nodeUses other same
      refine ((prepareStmt_atRest serves caching finalizes syncs uses known).bind fun _ =>
        applyBatch_atRest serves syncs usesOwn owner true target listed).mono
        (fun _ held => held) ?_ fun _ _ impossible => impossible
      rintro later state ⟨atRest, same⟩
      exact ⟨atRest, fun other isStmt => nodeUses other (same.symm.trans isStmt)⟩
  | batch parameters =>
      refine (applyBatch_atRest serves syncs uses owner false target listed).mono
        (fun _ held => held.1) ?_ fun _ _ impossible => impossible
      rintro later state ⟨atRest, same⟩
      exact ⟨atRest, fun other isStmt => uses other (same.symm.trans isStmt)⟩
  | flush =>
      refine Triple.mono (?_ : Triple _ (AtRest calm none progress.stmt) _ _ _)
        (fun _ held => held.1) (fun _ _ held => held) fun _ _ impossible => impossible
      exact Triple.bind (modify_atRest uses fun _ => rfl) fun _ => unchanged

end Node

/-! ### Runs -/

/-- The nodes of an `_apply` call one after the other, with what holds at the turn of each. -/
inductive Turns (db : Database κ) (moves : Instance κ → Instance κ → Prop) (view : Nat)
    (ready : Instance κ → Node → Prop) :
    List Node → Progress → Instance κ → Except JsValue Unit → Instance κ → Prop where
  | done (progress : Progress) (state : Instance κ) :
      Turns db moves view ready [] progress state (.ok ()) state
  | next {node : Node} {nodes : List Node} {progress later : Progress}
      {state middle final : Instance κ} {result : Except JsValue Unit}
      (turn : ready state node)
      (ran : RunUnder moves (db.applyNode view node progress) state (.ok later) middle)
      (rest : Turns db moves view ready nodes later middle result final) :
      Turns db moves view ready (node :: nodes) progress state result final
  | throws {node : Node} {nodes : List Node} {progress : Progress} {state final : Instance κ}
      {thrown : JsValue} (turn : ready state node)
      (ran : RunUnder moves (db.applyNode view node progress) state (.error thrown) final) :
      Turns db moves view ready (node :: nodes) progress state (.error thrown) final

theorem Turns.ran {moves : Instance κ → Instance κ → Prop} {target : Nat}
    {ready : Instance κ → Node → Prop} {nodes : List Node} {progress : Progress}
    {state final : Instance κ} {result : Except JsValue Unit}
    (turns : db.Turns moves target ready nodes progress state result final) :
    RunUnder moves (db.applyFrom target nodes progress) state result final := by
  induction turns with
  | done progress state => exact .done _ _
  | next _ ran _ ih => exact ran.bind_ok ih
  | throws _ ran => exact ran.bind_error

/-- Nodes that are applied without others. -/
theorem turns_alone {moves : Instance κ → Instance κ → Prop} {target : Nat}
    {ready : Instance κ → Node → Prop} {nodes : List Node} {progress : Progress}
    {state : Instance κ}
    (returned : ((db.applyFrom target nodes progress).run state).1 = .ok ())
    (turns : ∀ index node, nodes[index]? = some node →
      ready ((db.applyFrom target (nodes.take index) progress).run state).2 node) :
    db.Turns moves target ready nodes progress state (.ok ())
      ((db.applyFrom target nodes progress).run state).2 := by
  induction nodes generalizing progress state with
  | nil => exact .done progress state
  | cons node nodes ih =>
      have ran := runUnder_run moves (db.applyNode target node progress) state
      obtain ⟨⟨result, middle⟩, ended⟩ :
        ∃ outcome, (db.applyNode target node progress).run state = outcome := ⟨_, rfl⟩
      rw [ended] at ran
      simp only [applyFrom, run_bind, ended] at returned ⊢
      cases result with
      | error thrown => cases returned
      | ok later =>
          refine .next (turns 0 node rfl) ran (ih returned fun index other found => ?_)
          have ready := turns (index + 1) other found
          simp only [List.take_succ_cons, applyFrom, run_bind, ended] at ready
          exact ready

private theorem applyNode_step (target : Nat) (node : Node) (progress : Progress) :
    ∃ update next, db.applyNode target node progress = .step update next := by
  obtain ⟨owner, operation⟩ := node
  cases operation <;> exact ⟨_, _, rfl⟩

/-- What others do before the first node is done while it is applied. -/
theorem Turns.head {moves : Instance κ → Instance κ → Prop} {target : Nat}
    {ready : Instance κ → Node → Prop} {node : Node} {nodes : List Node} {progress : Progress}
    {state moved final : Instance κ} {result : Except JsValue Unit} (move : moves state moved)
    (turn : ready state node)
    (turns : db.Turns moves target ready (node :: nodes) progress moved result final) :
    db.Turns moves target ready (node :: nodes) progress state result final := by
  obtain ⟨update, next, step⟩ :
    ∃ update next, db.applyNode target node progress = .step update next :=
    applyNode_step target node progress
  cases turns with
  | next _ ran rest =>
      rw [step] at ran
      exact .next turn (step ▸ ran.head move) rest
  | throws _ ran =>
      rw [step] at ran
      exact .throws turn (step ▸ ran.head move)

/-- It returned, the process is still there, and the next node can be applied. -/
def Applied.ReturnsClean (call : Applied κ) : Prop :=
  call.result = .ok () ∧ call.after.engine.aborted = false ∧
    call.after.engine.vfs.view = none ∧ call.after.engine.vfs.files = ∅

def NeverWedged (db : Database κ) (start : Instance κ) : Prop :=
  ∀ applied final, db.Served db.AnyMove start applied final →
    ∀ call ∈ applied, call.ReturnsClean

def Statements (nodes : List Node) (sql : String) : Prop :=
  ∃ node ∈ nodes, node.operation.statement = some sql

/-- What an `_apply` call relies on.  It starts with no batch pending, on a connection from
which the statements of its nodes sync; others only look while it goes on; and each node
finds what it needs. -/
structure Applied.Smooth (db : Database κ) (calm : κ → Prop) (call : Applied κ) : Prop where
  flushed : call.before.engine.vfs.files = ∅
  running : call.before.engine.aborted = false
  begins : calm call.before.engine.connection
  syncs : ∀ node ∈ call.nodes, db.sqlite.NodeSyncs calm node.operation
  listed : ∀ node ∈ call.nodes, node.operation.Listed
  finalizes : ∀ other, (db.sqlite.finalize other).Syncs calm
  turns : db.Turns (db.QuietMove calm (Statements call.nodes)) call.view
    (fun state node => db.NodeReady (db.QuietMove calm (Statements call.nodes)) state
      node.operation)
    call.nodes .initial call.before call.result call.after

theorem Turns.clean {nodes : List Node} {target : Nat} {progress : Progress}
    {state final : Instance κ} {result : Except JsValue Unit}
    (serves : ∀ call, db.vfs.runtime.fault call = false) (caching : 0 < db.cacheSize)
    (finalizes : ∀ other, (db.sqlite.finalize other).Syncs calm)
    (runSyncs : ∀ sql, used sql → db.sqlite.RunSyncs calm sql)
    (syncs : ∀ node ∈ nodes, db.sqlite.NodeSyncs calm node.operation)
    (listed : ∀ node ∈ nodes, node.operation.Listed)
    (nodeUses : ∀ node ∈ nodes, ∀ sql, node.operation.statement = some sql → used sql)
    (turns : db.Turns (db.QuietMove calm used) target
      (fun state node => db.NodeReady (db.QuietMove calm used) state node.operation)
      nodes progress state result final)
    (uses : ∀ sql, progress.stmt = some sql → used sql)
    (atRest : AtRest calm none progress.stmt state) :
    result = .ok () ∧ ∃ stmt, AtRest calm none stmt final := by
  induction turns with
  | done progress state => exact ⟨rfl, _, atRest⟩
  | @next node nodes progress later state middle final result turn ran rest ih =>
      have here := applyNode_atRest uses serves caching finalizes runSyncs target node
        (syncs node List.mem_cons_self) (listed node List.mem_cons_self)
        (nodeUses node List.mem_cons_self)
        state _ _ ⟨atRest, turn⟩ ran
      exact ih (fun other member => syncs other (List.mem_cons_of_mem _ member))
        (fun other member => listed other (List.mem_cons_of_mem _ member))
        (fun other member => nodeUses other (List.mem_cons_of_mem _ member)) here.2 here.1
  | @throws node nodes progress state final thrown turn ran =>
      exact (applyNode_atRest uses serves caching finalizes runSyncs target node
        (syncs node List.mem_cons_self) (listed node List.mem_cons_self)
        (nodeUses node List.mem_cons_self)
        state _ _ ⟨atRest, turn⟩ ran).elim

private theorem files_empty {state : VfsState} (none_pending : state.files.keys ⊆ ∅) :
    state.files = ∅ := by
  apply Finmap.ext_lookup
  intro name
  have absent : name ∉ state.files := fun present =>
    absurd (none_pending (Finmap.mem_keys.2 present)) (Finset.notMem_empty name)
  exact Finmap.lookup_eq_none.2 absent

private theorem anyMove_view {state moved : Instance κ} (move : db.AnyMove state moved) :
    moved.engine.vfs.view = state.engine.vfs.view := by
  rcases move_step (fun call _ => db.sqlite.localAsks_anything call)
    (fun _ => Request.asks_anything _) move with ⟨same | ⟨call, _, step⟩, _⟩ | ⟨next, _, rfl⟩
  · exact congrArg VfsState.view same
  · exact step.view
  · rfl

/-- In every run, whatever local calls do between the `_apply` calls: as long as each of
them finds what it relies on, each returns and leaves the instance ready. -/
theorem returnsClean_of_smooth (serves : ∀ call, db.vfs.runtime.fault call = false)
    (caching : 0 < db.cacheSize) {stores : StoreRef → Store}
    {clock : Nat → Int} {connection : κ} {applied : List (Applied κ)} {final : Instance κ}
    (run : db.Served db.AnyMove (Instance.opened stores clock connection) applied final)
    (smooth : ∀ call ∈ applied, call.Smooth db calm) :
    ∀ call ∈ applied, call.ReturnsClean := by
  have known : final.engine.vfs.view = none ∧ ∀ call ∈ applied, call.ReturnsClean := by
    induction run with
    | start => exact ⟨rfl, fun call member => absurd member List.not_mem_nil⟩
    | move run step ih =>
        have earlier := ih smooth
        exact ⟨(anyMove_view step).trans earlier.1, earlier.2⟩
    | @apply applied state final result run nodes view ran ih =>
        obtain ⟨unset, earlier⟩ := ih fun call member => smooth call (List.mem_append_left _ member)
        have here := smooth _ (List.mem_append_right _ (List.mem_singleton.2 rfl))
        have atRest : AtRest calm none Progress.initial.stmt state :=
          { view := unset
            calm := here.begins
            opened := fun sql impossible => by cases impossible
            running := here.running
            pending := by
              rw [here.flushed]
              exact Finset.Subset.refl _ }
        have runSyncs (sql : String) (known : Statements nodes sql) :
            db.sqlite.RunSyncs calm sql := by
          obtain ⟨⟨owner, operation⟩, member, statement⟩ := known
          have nodeSyncs := here.syncs _ member
          cases operation with
          | run own parameters => exact Option.some.inj statement ▸ nodeSyncs
          | stmt own parameters => exact Option.some.inj statement ▸ nodeSyncs
          | _ => cases statement
        obtain ⟨returned, stmt, ends⟩ := Turns.clean serves caching here.finalizes runSyncs
          here.syncs here.listed (fun node member sql statement => ⟨node, member, statement⟩)
          here.turns
          (fun sql impossible => by cases impossible) atRest
        refine ⟨ends.view, fun call member => ?_⟩
        rcases List.mem_append.1 member with old | new
        · exact earlier call old
        · rw [List.mem_singleton.1 new]
          exact ⟨returned, ends.running, ends.view, files_empty ends.pending⟩
  exact known.2

/-- A statement that is open can be prepared. -/
theorem open_preparable {state : Instance κ} (known : used sql)
    (running : state.engine.closed = false) (cached : sql ∈ state.engine.cache)
    (thrown : JsValue) (final : Instance κ) :
    ¬RunUnder (db.QuietMove calm used) (onEngine (db.prepare sql)) state (.error thrown) final := by
  intro ran
  have prepared : Triple (Engine.Spared calm db.cacheSize used)
      (fun engine => engine.closed = false ∧ sql ∈ engine.cache) (db.prepare sql)
      (fun _ _ => True) (fun _ _ => False) := by
    refine Triple.bind (triple_atomic ?_ ?_ : Triple _ _ _ (fun found _ => found = true) _)
      fun found => ?_
    · exact fun _ _ spared held =>
        ⟨spared.closed.trans held.1, spared.opened sql known held.2⟩
    · rintro engine ⟨shut, present⟩
      simp only [shut, Bool.false_eq_true, if_false, if_pos present]
      rfl
    · cases found with
      | true => exact triple_pure () fun _ _ => trivial
      | false => exact fun _ _ _ impossible _ => absurd impossible Bool.false_ne_true
  exact triple_onEngine prepared state _ _ ⟨running, cached⟩ ran

def insertSql : String := "INSERT INTO t VALUES (?)"

def mixedNodes : List Node :=
  [⟨none, .run insertSql ⟨.null, .list [.integer 1]⟩⟩, ⟨some 0, .stmt insertSql .absent⟩,
    ⟨some 0, .batch ⟨.null, .list [.integer 2]⟩⟩, ⟨some 0, .flush⟩,
    ⟨none, .exec "CREATE TABLE u (x)"⟩, ⟨none, .writerAdd [1]⟩]

def readingBefore : Instance Unit :=
  (sample journalingSqlite).callAlone (.get "SELECT x FROM t" ⟨.null, .list []⟩)
    ((sample journalingSqlite).callAlone (.prepare "SELECT x FROM t")
      (.opened (fun _ _ => ∅) (fun _ => 0) ()))

def flushBegun : Instance Unit :=
  { readingBefore with
    calls :=
      { readingBefore.calls with
        interactive := some 0
        phase := Function.update readingBefore.calls.phase 0 (.waiting 0) } }

private theorem mixed_listed : ∀ node ∈ mixedNodes, node.operation.Listed := by
  intro node member
  simp only [mixedNodes, List.mem_cons, List.not_mem_nil, or_false] at member
  rcases member with rfl | rfl | rfl | rfl | rfl | rfl
  · exact .inr ⟨_, rfl⟩
  · exact .inl rfl
  · exact .inr ⟨_, rfl⟩
  all_goals trivial

private theorem mixed_ready {moves : Instance Unit → Instance Unit → Prop}
    {state : Instance Unit} {index : Nat} {node : Node} (found : mixedNodes[index]? = some node)
    (apart : index ≠ 1) : (sample journalingSqlite).NodeReady moves state node.operation := by
  match index with
  | 0 => cases found; trivial
  | 1 => exact absurd rfl apart
  | 2 => cases found; trivial
  | 3 => cases found; trivial
  | 4 => cases found; trivial
  | 5 => cases found; exact fun _ _ => rfl
  | later + 6 => cases found

/-- What the RUN leaves for the STMT. -/
private theorem mixed_open :
    let state := (((sample journalingSqlite).applyFrom 0 (mixedNodes.take 1) .initial).run
      flushBegun).2
    state.engine.closed = false ∧ insertSql ∈ state.engine.cache := by
  decide +kernel

private theorem mixed_returns :
    (((sample journalingSqlite).applyFrom 0 mixedNodes .initial).run flushBegun).1 = .ok () := by
  decide +kernel

private theorem flush_begins (calm : Unit → Prop) (used : String → Prop) :
    (sample journalingSqlite).QuietMove calm used readingBefore flushBegun :=
  .call readingBefore _ (.start readingBefore.calls 0 rfl)

private theorem mixed_turns (calm : Unit → Prop) : ∃ final,
    (sample journalingSqlite).Turns
      ((sample journalingSqlite).QuietMove calm (Statements mixedNodes)) 0
      (fun state node => (sample journalingSqlite).NodeReady
        ((sample journalingSqlite).QuietMove calm (Statements mixedNodes)) state node.operation)
      mixedNodes .initial readingBefore (.ok ()) final := by
  refine ⟨_, Turns.head (flush_begins calm _) trivial
    (turns_alone mixed_returns fun index node found => ?_)⟩
  by_cases isStmt : index = 1
  · subst isStmt
    have same := Option.some.inj found
    subst same
    exact open_preparable ⟨_, List.mem_cons_self, rfl⟩ mixed_open.1 mixed_open.2
  · exact mixed_ready found isStmt

private theorem journaling_runSyncs (calm : Unit → Prop) (sql : String) :
    journalingSqlite.RunSyncs calm sql where
  prepare _ isCalm := Program.syncs_calls isCalm rfl
  bind _ _ isCalm := Program.syncs_calls isCalm rfl
  run _ _ isCalm := Program.syncs_calls isCalm (by decide)
  reset _ isCalm := Program.syncs_calls isCalm rfl

private theorem journaling_nodeSyncs (calm : Unit → Prop) (operation : Operation) :
    journalingSqlite.NodeSyncs calm operation := by
  cases operation with
  | exec sql => exact fun _ isCalm => Program.syncs_calls isCalm (by decide)
  | run sql parameters => exact journaling_runSyncs calm sql
  | stmt sql parameters => exact journaling_runSyncs calm sql
  | _ => trivial

/-- Nodes of every kind. -/
theorem returnsClean_of_smooth_mixed : ∃ call : Applied Unit,
    call.nodes = mixedNodes ∧ call.before = readingBefore ∧
      (sample journalingSqlite).Served (sample journalingSqlite).AnyMove
        (.opened (fun _ _ => ∅) (fun _ => 0) ()) [call] call.after ∧
      call.ReturnsClean := by
  let calm : Unit → Prop := fun _ => True
  obtain ⟨final, turns⟩ := mixed_turns calm
  let call : Applied Unit := ⟨mixedNodes, 0, readingBefore, .ok (), final⟩
  have run : (sample journalingSqlite).Served (sample journalingSqlite).AnyMove
      (.opened (fun _ _ => ∅) (fun _ => 0) ()) [call] final :=
    .apply ((Served.start.callAlone (.prepare _) trivial).callAlone (.get _ _) trivial) _ _
      (turns.ran.mono fun _ _ move => move.anyMove)
  have smooth : call.Smooth (sample journalingSqlite) calm :=
    { flushed := rfl
      running := (by decide +kernel : readingBefore.engine.aborted = false)
      begins := trivial
      syncs := fun node _ => journaling_nodeSyncs calm node.operation
      listed := mixed_listed
      finalizes := fun _ _ _ => Program.syncs_calls trivial rfl
      turns := turns }
  exact ⟨call, rfl, rfl, run, returnsClean_of_smooth (fun _ => rfl) (by decide) run
    (fun other member => List.mem_singleton.1 member ▸ smooth) call (List.mem_singleton.2 rfl)⟩

/-- Every exec changes the first page of the database and does not sync it, as SQLite does
after `PRAGMA synchronous = OFF`. -/
def unsyncedSqlite : Sqlite Unit :=
  { Sqlite.idle Unit with
    exec := fun _ => .calls () [.xWrite openPath [1] 0] }

/-- `_write(null)` throws: one such node stops the replica. -/
theorem neverWedged_unsynced_fails :
    ¬(sample unsyncedSqlite).NeverWedged (.opened (fun _ _ => ∅) (fun _ => 0) ()) := by
  intro never
  have clean := never _ _ (Served.start.applyAlone [⟨none, .exec "CREATE TABLE t (x)"⟩] 0) _
    (List.mem_singleton.2 rfl)
  have returned : ((sample unsyncedSqlite).applyAlone [⟨none, .exec "CREATE TABLE t (x)"⟩] 0
      (.opened (fun _ _ => ∅) (fun _ => 0) ())).result.isOk = true := by
    rw [clean.1]
    rfl
  have thrown : ((sample unsyncedSqlite).applyAlone [⟨none, .exec "CREATE TABLE t (x)"⟩] 0
      (.opened (fun _ _ => ∅) (fun _ => 0) ())).result.isOk = false := rfl
  rw [returned] at thrown
  cases thrown

end Database
end ParaQL
