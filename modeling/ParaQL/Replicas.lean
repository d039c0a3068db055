/-
Two peers that apply the same nodes to equal views.

Where the statements of the nodes ask for no time, and only about the main file and about
temporary files that both peers have alike, the peers go through the nodes abreast: they share
these files while the view is applied, whatever else each of them has.
-/

import ParaQL.PeerCalls
import ParaQL.Preparation

namespace ParaQL

open Async Async.Task Bytes

def SqliteCall.within (names : FileName → Prop) : SqliteCall → Prop
  | .file call => names call.file
  | .randomness _ => True
  | .currentTime => False

private theorem SqliteCall.timeless_of_within {names : FileName → Prop} (call : SqliteCall)
    (asked : call.within names) : call.timeless := by
  cases call with
  | currentTime => exact asked
  | _ => trivial

namespace Sqlite

structure RunsWithin (sqlite : Sqlite Unit) (names : FileName → Prop) (sql : String) : Prop where
  bind : ∀ parameters, (sqlite.bind sql parameters).Asks (SqliteCall.within names)
  run : ∀ parameters, (sqlite.run sql parameters).Asks (SqliteCall.within names)
  reset : (sqlite.reset sql).Asks (SqliteCall.within names)

/-- A RUN is prepared while the view is applied, and a STMT before. -/
def AsksWithin (sqlite : Sqlite Unit) (names : FileName → Prop) : Operation → Prop
  | .exec sql => (sqlite.exec sql).Asks (SqliteCall.within names)
  | .run sql _ =>
      (sqlite.prepare sql).Asks (SqliteCall.within names) ∧ sqlite.RunsWithin names sql
  | .stmt sql _ => sqlite.RunsWithin names sql
  | _ => True

end Sqlite

namespace Database

/-- A statement that SQLite cannot prepare changes no file when it is run. -/
def RunsInVain (db : Database Unit) (sql : String) : Prop :=
  ∀ parameters engine, ((db.request (db.sqlite.prepare sql)).run engine).1 ≠ .ok () →
    engine.vfs.SameCore ((db.runStatement sql parameters).run engine).2.vfs

/-- What the peers find at the turn of a node.  The statement of a STMT can be prepared on both
or on neither.  So can that of a RUN, or it runs in vain and no BATCH goes by it. -/
def FitFor (db : Database Unit) (view : Nat) (node : Node) (rest : List Node)
    (first second : Instance Unit) : Prop :=
  match node.operation with
  | .stmt sql _ => db.CanPrepare sql first.engine ↔ db.CanPrepare sql second.engine
  | .run sql _ =>
      (db.CanPrepare sql (under view first.engine) ↔
        db.CanPrepare sql (under view second.engine)) ∨
      (db.RunsInVain sql ∧ OpensBatches false rest)
  | _ => True

/-- In whatever states the peers come to a node. -/
def FitsThroughout (db : Database Unit) (moves : Instance Unit → Instance Unit → Prop)
    (view : Nat) (nodes otherNodes : List Node) (progress counterpart : Progress)
    (first second : Instance Unit) : Prop :=
  ∀ index node, nodes[index]? = some node → ∀ state other,
    RunUnder moves (db.applyFrom view (nodes.take index) progress) first (.ok ()) state →
    RunUnder moves (db.applyFrom view (otherNodes.take index) counterpart) second (.ok ()) other →
    db.FitFor view node (nodes.drop (index + 1)) state other

def ComesOut (db : Database Unit) (view : Nat) (nodes : List Node) (peer : Instance Unit)
    (result : Except JsValue Unit) (final : Instance Unit) : Prop :=
  ∃ groups : List (List Node), groups.flatten = nodes ∧
    (∀ group ∈ groups.tail, OpensBatches false group) ∧
    RunUnder (db.ReadingBeside (Names nodes)) (db.applyGroups view groups) peer result final

def SameNodes (nodes otherNodes : List Node) : Prop :=
  nodes.map Node.operation = otherNodes.map Node.operation

/-- On equal pages of the view the peers come to equal pages, and both go on. -/
def ReplicasAgree (db : Database Unit) (nodes otherNodes : List Node) (view : Nat)
    (first second : Instance Unit) : Prop :=
  SameNodes nodes otherNodes → db.mainPages view first = db.mainPages view second →
    ∀ result other final ending, db.ComesOut view nodes first result final →
      db.ComesOut view otherNodes second other ending →
      result = other ∧ db.mainPages view final = db.mainPages view ending ∧
        final.engine.aborted = false ∧ ending.engine.aborted = false

/-- A peer that is open and runs, outside of `_apply`, with no batch pending. -/
structure Ready (peer : Instance Unit) : Prop where
  opened : peer.engine.closed = false
  running : peer.engine.aborted = false
  idle : peer.engine.vfs.view = none
  flushed : peer.engine.vfs.files = ∅

structure Up (stmt : Option String) (engine : Engine Unit) : Prop where
  opened : engine.closed = false
  running : engine.aborted = false
  cached : ∀ sql, stmt = some sql → sql ∈ engine.cache

def InView (db : Database Unit) (names : FileName → Prop) (view : Nat) (stmt : Option String)
    (first second : Engine Unit) : Prop :=
  SameVfs (db.vfs.Shared names view) first second ∧ Up stmt first ∧ Up stmt second

structure Abreast (db : Database Unit) (names : FileName → Prop) (view : Nat)
    (stmt : Option String) (first second : Instance Unit) : Prop where
  inside : db.InView names view stmt (under view first.engine) (under view second.engine)
  idle : first.engine.vfs.view = none
  counterpart : second.engine.vfs.view = none
  flushed : first.engine.vfs.files.keys.card = 0

/-- What is left of it where `_apply` ends. -/
structure Alongside (db : Database Unit) (view : Nat) (first second : Instance Unit) : Prop where
  pages : db.mainPages view first = db.mainPages view second
  running : first.engine.aborted = false
  counterpart : second.engine.aborted = false

variable {db : Database Unit} {names : FileName → Prop} {view : Nat} {stmt : Option String}
  {engine after : Engine Unit} {first second : Instance Unit} {sql : String}

theorem Up.forget (up : Up stmt engine) : Up none engine :=
  ⟨up.opened, up.running, fun _ impossible => by cases impossible⟩

private theorem Up.onlyWorks (works : OnlyWorks engine after) (up : Up stmt engine) :
    Up stmt after := by
  rw [works]
  exact ⟨up.opened, up.running, up.cached⟩

/-- A statement that is open stays open, and is run on a handle that is not null. -/
theorem runStatement_staysUp (sql : String) {parameters : Parameters}
    (listed : parameters.Listed) :
    Guarantees (fun engine after : Engine Unit => Up (some sql) engine → Up (some sql) after)
      (db.runStatement sql parameters) := by
  have requested {β : Type} (program : Request Unit β) :
      Guarantees (fun engine after : Engine Unit => Up (some sql) engine → Up (some sql) after)
        (db.request program) :=
    (request_onlyWorks program).mono fun _ _ => Up.onlyWorks
  have handles : Guarantees (fun engine after : Engine Unit =>
      Up (some sql) engine → Up (some sql) after) (useHandle (κ := Unit) sql) :=
    guarantees_atomic fun engine up =>
      ⟨up.opened, by simp [up.running, up.cached sql rfl], up.cached⟩
  have checks (present : parameters.positional ≠ .null) : Guarantees
      (fun engine after : Engine Unit => Up (some sql) engine → Up (some sql) after)
      (assertArray parameters.positional) :=
    guarantees_atomic fun engine up =>
      ⟨up.opened, by simp [up.running, listed.isArray present], up.cached⟩
  exact runStatement_guarantees (fun _ => id) handles
    (fun _ _ up => ⟨up.opened, up.running, up.cached⟩) checks (requested _) (fun _ => requested _)
    (requested _)

/-- What a request finds is the same. -/
theorem canPrepare_congr (reliable : db.vfs.runtime.Reliable) {statements : String → Prop}
    (same : SameFor statements engine after) :
    db.CanPrepare sql engine ↔ db.CanPrepare sql after := by
  have steady : EngineSteady statements (db.request (db.sqlite.prepare sql)) :=
    request_undisturbed reliable _
  unfold CanPrepare
  rw [same.cache, endsLike_eq.1 (steady.alone same).1]

section Prepared

variable (prepares : db.sqlite.LooksToPrepare) (caching : 0 < db.cacheSize)

include prepares caching

/-- What preparing a statement does. -/
theorem prepare_up (up : Up stmt engine) (sql : String) :
    engine.vfs.SameCore ((db.prepare sql).run engine).2.vfs ∧
      (((db.prepare sql).run engine).1 = .ok () ∧ db.CanPrepare sql engine ∧
          Up (some sql) ((db.prepare sql).run engine).2 ∨
        ((db.prepare sql).run engine).1 ≠ .ok () ∧ ¬db.CanPrepare sql engine ∧
          Up stmt ((db.prepare sql).run engine).2) := by
  obtain ⟨same, closed, aborted⟩ := prepare_keeps prepares sql engine
  refine ⟨same, ?_⟩
  by_cases prepared : ((db.prepare sql).run engine).1 = .ok ()
  · refine .inl ⟨prepared, (prepare_ok_iff prepares up.opened).1 prepared,
      closed.trans up.opened, aborted.trans up.running, ?_⟩
    intro other isOther
    exact Option.some.inj isOther ▸ prepare_caches caching prepared
  · have kept : SameFor (fun _ => True) engine ((db.prepare sql).run engine).2 :=
      prepare_fails prepares up.opened prepared
    exact .inr ⟨prepared, fun able => prepared ((prepare_ok_iff prepares up.opened).2 able),
      closed.trans up.opened, aborted.trans up.running,
      fun other isOther => kept.cache ▸ up.cached other isOther⟩

end Prepared

private theorem exists_error {result : Except JsValue Unit} (fails : result ≠ .ok ()) :
    ∃ thrown, result = .error thrown := by
  cases result with
  | ok value => exact (fails rfl).elim
  | error thrown => exact ⟨thrown, rfl⟩

section Sharing

variable (reliable : db.vfs.runtime.Reliable)

include reliable

private theorem shared_blind (call : VfsCall) (asked : SqliteCall.within names (.file call)) :
    Blind (db.vfs.Shared names view) (db.vfs.perform call) :=
  (ParaVFS.shared_indiscernible reliable asked).perform call rfl

private theorem exec_inside (asks : (db.sqlite.exec sql).Asks (SqliteCall.within names)) :
    Blind (db.InView names view stmt) (db.exec sql) := by
  have executes : Blind (SameVfs (db.vfs.Shared names view)) (db.exec sql) :=
    (blind_request (shared_blind reliable) SqliteCall.timeless_of_within asks).catch
      fun _ => blind_throw _
  exact executes.keeps (guarantees_rethrown (request_onlyWorks _)) fun _ _ => Up.onlyWorks

private theorem runStatement_inside (runs : db.sqlite.RunsWithin names sql)
    {parameters : Parameters}
    (listed : parameters.Listed) :
    Blind (db.InView names view (some sql)) (db.runStatement sql parameters) :=
  (blind_runStatement (shared_blind reliable) SqliteCall.timeless_of_within (runs.bind _)
    (runs.run _) runs.reset).keeps (runStatement_staysUp sql listed) fun _ _ => id

end Sharing

theorem InView.alike {first second other : Engine Unit} {later : Option String}
    (inside : db.InView names view stmt first second) (same : first.vfs.SameCore after.vfs)
    (otherSame : second.vfs.SameCore other.vfs) (up : Up later after) (otherUp : Up later other) :
    db.InView names view later after other :=
  ⟨⟨inside.1.vfs.alike same otherSame, rfl⟩, up, otherUp⟩

/-- Where the statement can be prepared on one of the two only, it runs there in vain. -/
theorem runStatement_vain (reliable : db.vfs.runtime.Reliable) (vain : db.RunsInVain sql)
    (asks : (db.sqlite.prepare sql).Asks (SqliteCall.within names)) {other : Engine Unit}
    (shared : db.vfs.Shared names view engine.vfs other.vfs) (unable : ¬db.CanPrepare sql other)
    (up : Up (some sql) engine) {parameters : Parameters} (listed : parameters.Listed) :
    engine.vfs.SameCore ((db.runStatement sql parameters).run engine).2.vfs ∧
      Up none ((db.runStatement sql parameters).run engine).2 := by
  have prepares : Blind (SameVfs (db.vfs.Shared names view))
      (db.request (db.sqlite.prepare sql)) :=
    blind_request (shared_blind reliable) SqliteCall.timeless_of_within asks
  have fails : ((db.request (db.sqlite.prepare sql)).run engine).1 ≠ .ok () := by
    have alike : SameVfs (db.vfs.Shared names view) engine other := ⟨shared, rfl⟩
    rw [(prepares.agrees alike).1]
    exact fun able => unable (.inr able)
  exact ⟨vain parameters engine fails,
    ((runStatement_staysUp sql listed).run_keeps (fun _ _ => id) up).forget⟩

private theorem shared_keys {here there : VfsState} (shared : db.vfs.Shared names view here there) :
    here.files.keys = there.files.keys := by
  ext name
  rw [Finmap.mem_keys, Finmap.mem_keys, ← Finmap.lookup_isSome, ← Finmap.lookup_isSome]
  have pending := congrArg Option.isSome (shared.pending name)
  rw [Option.isSome_map, Option.isSome_map] at pending
  rw [pending]

private theorem shared_main {here there : VfsState} (shared : db.vfs.Shared names view here there)
    (main : names db.vfs.name) :
    here.stores (.view (.applied view)) db.vfs.name =
      there.stores (.view (.applied view)) db.vfs.name := by
  have store {state : VfsState} (applied : state.view = some view) :
      db.vfs.storeOf db.vfs.name state = .view (.applied view) := by
    rw [ParaVFS.storeOf, if_neg (not_not.2 rfl), VfsState.currentView, applied, ViewRef.current]
  have pages := shared.pages db.vfs.name main
  rwa [store shared.view, store shared.counterpart] at pages

private theorem level_inside (main : names db.vfs.name)
    (inside : db.InView names view stmt first.engine second.engine) :
    db.Alongside view first second :=
  ⟨shared_main inside.1.vfs main, inside.2.1.running, inside.2.2.running⟩

private theorem level_abreast (main : names db.vfs.name)
    (abreast : db.Abreast names view stmt first second) : db.Alongside view first second := by
  have pages := shared_main abreast.inside.1.vfs main
  exact ⟨pages, abreast.inside.2.1.running, abreast.inside.2.2.running⟩

theorem Abreast.enter (abreast : db.Abreast names view stmt first second) :
    ∃ here there, (switchTo (some view)).run first = (.ok (), here) ∧
      (switchTo (some view)).run second = (.ok (), there) ∧
      db.InView names view stmt here.engine there.engine ∧
      SameFor (fun _ => True) (under view first.engine) here.engine ∧
      SameFor (fun _ => True) (under view second.engine) there.engine := by
  have otherFlushed : second.engine.vfs.files.keys.card = 0 := by
    have keys := shared_keys abreast.inside.1.vfs
    exact (congrArg Finset.card keys).symm.trans abreast.flushed
  rw [run_switchTo, run_switchTo]
  simp only [abreast.flushed, otherFlushed, ne_eq, not_true, if_false]
  refine ⟨_, _, rfl, rfl, ?_, ?_, ?_⟩
  · exact abreast.inside.alike ⟨rfl, rfl, rfl, rfl⟩ ⟨rfl, rfl, rfl, rfl⟩
      ⟨abreast.inside.2.1.opened, abreast.inside.2.1.running, abreast.inside.2.1.cached⟩
      ⟨abreast.inside.2.2.opened, abreast.inside.2.2.running, abreast.inside.2.2.cached⟩
  · exact ⟨⟨rfl, rfl, rfl, rfl⟩, rfl, fun _ _ => rfl, rfl, rfl, rfl, rfl, rfl⟩
  · exact ⟨⟨rfl, rfl, rfl, rfl⟩, rfl, fun _ _ => rfl, rfl, rfl, rfl, rfl, rfl⟩

/-- `_write(null)` goes through on both peers, or on neither. -/
theorem related_leave (main : names db.vfs.name) :
    Related (db.Alongside view)
      (fun first second => db.InView names view stmt first.engine second.engine)
      (switchTo none) (switchTo none) (fun _ _ => db.Abreast names view stmt) := by
  intro first second inside
  have keys := shared_keys inside.1.vfs
  have up := inside.2.1
  have otherUp := inside.2.2
  rw [run_switchTo, run_switchTo, ← keys]
  by_cases pending : first.engine.vfs.files.keys.card ≠ 0
  · rw [if_pos pending, if_pos pending]
    have level := level_inside main inside
    exact ⟨rfl, level.pages, level.running, level.counterpart⟩
  · rw [if_neg pending, if_neg pending]
    refine ⟨inside.alike ?_ ?_ ⟨up.opened, up.running, up.cached⟩
      ⟨otherUp.opened, otherUp.running, otherUp.cached⟩, rfl, rfl, not_not.1 pending⟩
    · exact ⟨inside.1.vfs.view, rfl, rfl, rfl⟩
    · exact ⟨inside.1.vfs.counterpart, rfl, rfl, rfl⟩

/-! ### One node -/

def OnPar (db : Database Unit) (names : FileName → Prop) (view : Nat) (nodes : List Node)
    (progress counterpart : Progress) (first second : Instance Unit) : Prop :=
  ∃ opened stmt, OpensBatches opened nodes ∧
    (opened = true → progress.stmt = stmt ∧ counterpart.stmt = stmt) ∧
    (∀ sql, stmt = some sql → db.sqlite.RunsWithin names sql) ∧
    db.Abreast names view stmt first second

/-- After `_write(view)`. -/
theorem related_inView {α β : Type} {rest : InstanceTask Unit α} {other : InstanceTask Unit β}
    {ends : α → β → Instance Unit → Instance Unit → Prop}
    (inside : Related (db.Alongside view)
      (fun first second => db.InView names view stmt first.engine second.engine) rest other ends) :
    Related (db.Alongside view) (db.Abreast names view stmt)
      (do switchTo (some view)
          rest)
      (do switchTo (some view)
          other)
      ends := by
  intro first second abreast
  obtain ⟨here, there, entered, alsoEntered, within, _⟩ := abreast.enter
  rw [run_bind, run_bind, entered, alsoEntered, andThen_ok, andThen_ok]
  exact inside here there within

/-- What lies beside the engine makes no difference. -/
theorem related_beside {rejected : Instance Unit → Instance Unit → Prop}
    {before : Engine Unit → Engine Unit → Prop} {update change : Instance Unit → Instance Unit}
    (here : ∀ state, (update state).engine = state.engine)
    (there : ∀ state, (change state).engine = state.engine) :
    Related rejected (fun first second => before first.engine second.engine)
      (Task.modify update : InstanceTask Unit Unit) (Task.modify change)
      (fun _ _ first second => before first.engine second.engine) := by
  refine related_of_runs fun first second holds => ⟨_, _, _, _, run_modify .., run_modify .., ?_⟩
  rw [here, there]
  exact holds

theorem Abreast.alike {here there : Instance Unit} {later : Option String}
    (abreast : db.Abreast names view stmt first second)
    (same : first.engine.vfs.SameCore here.engine.vfs)
    (otherSame : second.engine.vfs.SameCore there.engine.vfs) (up : Up later here.engine)
    (otherUp : Up later there.engine) : db.Abreast names view later here there where
  inside := abreast.inside.alike ⟨rfl, same.files, same.stores, same.serial⟩
    ⟨rfl, otherSame.files, otherSame.stores, otherSame.serial⟩
    ⟨up.opened, up.running, up.cached⟩ ⟨otherUp.opened, otherUp.running, otherUp.cached⟩
  idle := same.view.symm.trans abreast.idle
  counterpart := otherSame.view.symm.trans abreast.counterpart
  flushed := same.files ▸ abreast.flushed

section Nodes

variable (main : names db.vfs.name)

include main

/-- A task on the engines that cannot tell them apart. -/
theorem related_onEngine {α : Type} {task : EngineTask Unit α}
    (blind : Blind (db.InView names view stmt) task) :
    Related (db.Alongside view)
      (fun first second => db.InView names view stmt first.engine second.engine)
      (onEngine task).outcome (onEngine task).outcome
      (fun result other first second => result = other ∧
        db.InView names view stmt first.engine second.engine) := by
  have whole : Blind (fun first second : Instance Unit =>
      db.InView names view stmt first.engine second.engine) (onEngine task).outcome :=
    (blind.zoom Instance.lawful_engine (fun _ _ holds => holds)
      fun _ _ _ _ _ holds => holds).outcome
  exact whole.mono (fun _ _ holds => holds) (fun _ _ => level_inside main)
    fun _ _ _ _ holds => holds

/-- What is left of a node, after the statement. -/
theorem related_finish {update change : Instance Unit → Instance Unit}
    (here : ∀ state, (update state).engine = state.engine)
    (there : ∀ state, (change state).engine = state.engine) :
    Related (db.Alongside view)
      (fun first second => db.InView names view stmt first.engine second.engine)
      (do Task.modify update
          switchTo none)
      (do Task.modify change
          switchTo none)
      (fun _ _ => db.Abreast names view stmt) :=
  (related_beside here there).bind fun _ _ => related_leave main

private theorem applyExec_related (reliable : db.vfs.runtime.Reliable)
    (asks : (db.sqlite.exec sql).Asks (SqliteCall.within names)) (owner other : Option CallId) :
    Related (db.Alongside view) (db.Abreast names view stmt) (db.applyExec owner view sql)
      (db.applyExec other view sql) (fun _ _ => db.Abreast names view stmt) := by
  refine related_inView (Related.bindSame (related_onEngine main (exec_inside reliable asks))
    fun result => ?_)
  exact related_finish main (fun _ => rfl) fun _ => rfl

private theorem applyBatch_related (reliable : db.vfs.runtime.Reliable)
    {progress counterpart : Progress}
    (known : ∀ sql, stmt = some sql → db.sqlite.RunsWithin names sql)
    (same : progress.stmt = stmt ∧ counterpart.stmt = stmt) (owner other : Option CallId)
    (opens : Bool) {parameters : Parameters} (listed : parameters.Listed) :
    Related (db.Alongside view) (db.Abreast names view stmt)
      (db.applyBatch owner opens view parameters progress)
      (db.applyBatch other opens view parameters counterpart)
      (fun after other first second => (after.stmt = stmt ∧ other.stmt = stmt) ∧
        db.Abreast names view stmt first second) := by
  have runs : Related (db.Alongside view)
      (fun first second => db.InView names view stmt first.engine second.engine)
      (db.runOn progress.stmt parameters).outcome (db.runOn counterpart.stmt parameters).outcome
      (fun result other first second => result = other ∧
        db.InView names view stmt first.engine second.engine) := by
    rw [same.1, same.2]
    cases stmt with
    | none => exact related_pure _ _ fun _ _ holds => ⟨rfl, holds⟩
    | some sql =>
        exact related_onEngine main (runStatement_inside reliable (known sql rfl) listed)
  have counted {progress : Progress} (isStmt : progress.stmt = stmt)
      (result : Except JsValue RunResult) : (progress.count result).stmt = stmt := by
    cases result <;> exact isStmt
  refine related_inView (Related.bindSame runs fun result => ?_)
  exact Related.bind (related_beside (fun _ => rfl) fun _ => rfl) fun _ _ =>
    (related_leave main).bind fun _ _ => related_pure _ _ fun _ _ abreast =>
      ⟨⟨counted same.1 result, counted same.2 result⟩, abreast⟩

private theorem related_settle {owner also : Option CallId} {own given other more : Settlement}
    (progress counterpart : Progress) :
    Related (db.Alongside view)
      (fun first second => db.InView names view stmt first.engine second.engine)
      (do complete owner own given
          switchTo none
          pure progress)
      (do complete also other more
          switchTo none
          pure counterpart)
      (fun after ending first second => (after = progress ∧ ending = counterpart) ∧
        db.Abreast names view stmt first second) :=
  Related.bind (related_beside (fun _ => rfl) fun _ => rfl) fun _ _ =>
    (related_leave main).bind fun _ _ =>
      related_pure _ _ fun _ _ abreast => ⟨⟨rfl, rfl⟩, abreast⟩

/-- The two outcomes of the `try` block of a RUN. -/
def RanAbreast (db : Database Unit) (names : FileName → Prop) (view : Nat) (sql : String)
    (stmt : Option String) (loose : Prop) (result other : Bool × Except JsValue RunResult)
    (first second : Engine Unit) : Prop :=
  (result.1 = other.1 ∧
      db.InView names view (if result.1 = true then some sql else stmt) first second) ∨
    (loose ∧ db.InView names view none first second)

omit main in
private theorem prepareAndRun_related (reliable : db.vfs.runtime.Reliable)
    (prepares : db.sqlite.LooksToPrepare) (caching : 0 < db.cacheSize)
    (asks : (db.sqlite.prepare sql).Asks (SqliteCall.within names))
    (runs : db.sqlite.RunsWithin names sql) {parameters : Parameters}
    (listed : parameters.Listed) {loose : Prop}
    (inside : db.InView names view stmt first.engine second.engine)
    (fits : (db.CanPrepare sql first.engine ↔ db.CanPrepare sql second.engine) ∨
      (db.RunsInVain sql ∧ loose)) :
    ∃ result other here there,
      (db.prepareAndRun sql parameters).run first = (.ok result, here) ∧
      (db.prepareAndRun sql parameters).run second = (.ok other, there) ∧
      db.RanAbreast names view sql stmt loose result other here.engine there.engine := by
  obtain ⟨same, prepared⟩ := prepare_up prepares caching inside.2.1 sql
  obtain ⟨otherSame, otherPrepared⟩ := prepare_up prepares caching inside.2.2 sql
  have shared := inside.1.vfs.alike same otherSame
  unfold prepareAndRun
  simp only [run_bind, run_outcome, run_onEngine, andThen_ok]
  generalize (db.prepare sql).run first.engine = outcome at same prepared shared ⊢
  generalize (db.prepare sql).run second.engine = counterpart at otherSame otherPrepared shared ⊢
  obtain ⟨result, here⟩ := outcome
  obtain ⟨other, there⟩ := counterpart
  rcases prepared with ⟨isOk, able, up⟩ | ⟨isError, unable, up⟩ <;>
    rcases otherPrepared with ⟨otherOk, otherAble, otherUp⟩ | ⟨otherError, otherUnable, otherUp⟩
  · -- Both run the statement, on connections that it cannot tell apart.
    obtain rfl : result = .ok () := isOk
    obtain rfl : other = .ok () := otherOk
    obtain ⟨_, ends⟩ := (runStatement_inside reliable runs listed).agrees
      (⟨⟨shared, rfl⟩, up, otherUp⟩ : db.InView names view (some sql) here there)
    simp only [run_bind, run_outcome, run_onEngine, andThen_ok, run_pure]
    exact ⟨_, _, _, _, rfl, rfl, .inl ⟨rfl, ends⟩⟩
  · obtain ⟨vain, isLoose⟩ := fits.resolve_left fun alike => otherUnable (alike.1 able)
    obtain rfl : result = .ok () := isOk
    obtain ⟨thrown, rfl⟩ := exists_error otherError
    obtain ⟨still, upAfter⟩ := runStatement_vain reliable vain asks
      (inside.1.vfs.alike same (.refl _)) otherUnable up listed
    simp only [run_bind, run_outcome, run_onEngine, andThen_ok, run_pure]
    exact ⟨_, _, _, _, rfl, rfl, .inr ⟨isLoose,
      ⟨shared.alike still (.refl _), rfl⟩, upAfter, otherUp.forget⟩⟩
  · obtain ⟨vain, isLoose⟩ := fits.resolve_left fun alike => unable (alike.2 otherAble)
    obtain rfl : other = .ok () := otherOk
    obtain ⟨thrown, rfl⟩ := exists_error isError
    obtain ⟨still, upAfter⟩ := runStatement_vain reliable vain asks
      (inside.1.vfs.alike (.refl _) otherSame).symm unable otherUp listed
    simp only [run_bind, run_outcome, run_onEngine, andThen_ok, run_pure]
    exact ⟨_, _, _, _, rfl, rfl, .inr ⟨isLoose,
      ⟨shared.alike (.refl _) still, rfl⟩, up.forget, upAfter⟩⟩
  · obtain ⟨thrown, rfl⟩ := exists_error isError
    obtain ⟨rejection, rfl⟩ := exists_error otherError
    exact ⟨_, _, _, _, rfl, rfl, .inl ⟨rfl, ⟨shared, rfl⟩, up, otherUp⟩⟩

private theorem applyRun_related (reliable : db.vfs.runtime.Reliable)
    (prepares : db.sqlite.LooksToPrepare) (caching : 0 < db.cacheSize)
    (asks : (db.sqlite.prepare sql).Asks (SqliteCall.within names))
    (runs : db.sqlite.RunsWithin names sql) (owner also : Option CallId)
    {parameters : Parameters} (listed : parameters.Listed) (progress counterpart : Progress)
    {loose : Prop}
    (abreast : db.Abreast names view stmt first second)
    (fits : (db.CanPrepare sql (under view first.engine) ↔
        db.CanPrepare sql (under view second.engine)) ∨ (db.RunsInVain sql ∧ loose)) :
    Agree (db.Alongside view)
      (fun after other first second =>
        (∃ prepared : Bool, after.stmt = (if prepared = true then some sql else progress.stmt) ∧
          other.stmt = (if prepared = true then some sql else counterpart.stmt) ∧
          db.Abreast names view (if prepared = true then some sql else stmt) first second) ∨
        (loose ∧ db.Abreast names view none first second))
      ((db.applyRun owner view sql parameters progress).run first)
      ((db.applyRun also view sql parameters counterpart).run second) := by
  obtain ⟨inside, within, entered, alsoEntered, holds, same, otherSame⟩ := abreast.enter
  have fitsHere : (db.CanPrepare sql inside.engine ↔ db.CanPrepare sql within.engine) ∨
      (db.RunsInVain sql ∧ loose) := by
    rw [← canPrepare_congr reliable same, ← canPrepare_congr reliable otherSame]
    exact fits
  obtain ⟨⟨prepared, result⟩, ⟨otherPrepared, other⟩, here, there, ran, otherRan, ends⟩ :=
    prepareAndRun_related reliable prepares caching asks runs listed holds fitsHere
  unfold applyRun
  rw [run_bind, run_bind, entered, alsoEntered, andThen_ok, andThen_ok, run_bind, run_bind, ran,
    otherRan, andThen_ok, andThen_ok]
  rcases ends with ⟨sameKind, still⟩ | ⟨isLoose, still⟩
  · obtain rfl : prepared = otherPrepared := sameKind
    refine (related_settle main _ _ here there still).mono (fun _ _ level => level) ?_
    rintro after ending final last ⟨⟨rfl, rfl⟩, abreast⟩
    exact .inl ⟨prepared, by cases prepared <;> rfl, by cases prepared <;> rfl, abreast⟩
  · refine (related_settle main _ _ here there still).mono (fun _ _ level => level) ?_
    rintro after ending final last ⟨-, abreast⟩
    exact .inr ⟨isLoose, abreast⟩

/-- A STMT is prepared on what each peer shows outside of `_apply`. -/
theorem prepareStmt_related (prepares : db.sqlite.LooksToPrepare) (caching : 0 < db.cacheSize)
    (abreast : db.Abreast names view stmt first second)
    (fits : db.CanPrepare sql first.engine ↔ db.CanPrepare sql second.engine) :
    Agree (db.Alongside view) (fun _ _ => db.Abreast names view (some sql))
      ((db.prepareStmt sql).run first) ((db.prepareStmt sql).run second) := by
  have up : Up stmt first.engine :=
    ⟨abreast.inside.2.1.opened, abreast.inside.2.1.running, abreast.inside.2.1.cached⟩
  have otherUp : Up stmt second.engine :=
    ⟨abreast.inside.2.2.opened, abreast.inside.2.2.running, abreast.inside.2.2.cached⟩
  obtain ⟨same, prepared⟩ := prepare_up prepares caching up sql
  obtain ⟨otherSame, otherPrepared⟩ := prepare_up prepares caching otherUp sql
  unfold prepareStmt
  simp only [run_bind, run_outcome, run_onEngine, andThen_ok, run_atomic]
  generalize (db.prepare sql).run first.engine = outcome at same prepared ⊢
  generalize (db.prepare sql).run second.engine = counterpart at otherSame otherPrepared ⊢
  obtain ⟨result, here⟩ := outcome
  obtain ⟨other, there⟩ := counterpart
  rcases prepared with ⟨isOk, able, upHere⟩ | ⟨isError, unable, upHere⟩
  · obtain ⟨otherOk, -, upThere⟩ := otherPrepared.resolve_right fun refused =>
      refused.2.1 (fits.1 able)
    obtain rfl : result = .ok () := isOk
    obtain rfl : other = .ok () := otherOk
    have still : db.Abreast names view (some sql) (first.setEngine here)
        (second.setEngine there) := abreast.alike same otherSame upHere upThere
    exact still.alike ⟨rfl, rfl, rfl, rfl⟩ ⟨rfl, rfl, rfl, rfl⟩
      ⟨upHere.opened, upHere.running, upHere.cached⟩
      ⟨upThere.opened, upThere.running, upThere.cached⟩
  · obtain ⟨otherError, -, upThere⟩ := otherPrepared.resolve_left fun accepted =>
      unable (fits.2 accepted.2.1)
    obtain ⟨thrown, rfl⟩ := exists_error isError
    obtain ⟨rejection, rfl⟩ := exists_error otherError
    have still : db.Abreast names view stmt (first.setEngine here) (second.setEngine there) :=
      abreast.alike same otherSame upHere upThere
    have level := level_abreast main still
    exact ⟨rfl, level.pages, level.running, level.counterpart⟩

omit main in
private theorem applyWriter_abreast (hosts : ∀ call, db.hostFault call = none) (call : HostCall)
    (abreast : db.Abreast names view stmt first second) (progress counterpart : Progress) :
    Agree (db.Alongside view)
      (fun after other first second => (after = progress ∧ other = counterpart) ∧
        db.Abreast names view stmt first second)
      ((do db.applyWriter call
           pure progress : InstanceTask Unit Progress).run first)
      ((do db.applyWriter call
           pure counterpart : InstanceTask Unit Progress).run second) := by
  simp only [applyWriter, callHost, run_bind, run_atomic, hosts, andThen_ok, run_pure]
  exact ⟨⟨rfl, rfl⟩, abreast.inside, abreast.idle, abreast.counterpart, abreast.flushed⟩

/-- One node, on both peers. -/
theorem applyNode_onPar (reliable : db.vfs.runtime.Reliable)
    (hosts : ∀ call, db.hostFault call = none) (prepares : db.sqlite.LooksToPrepare)
    (caching : 0 < db.cacheSize) {node other : Node} {rest : List Node}
    {progress counterpart : Progress} (asks : db.sqlite.AsksWithin names node.operation)
    (listed : node.operation.Listed) (sameNode : node.operation = other.operation)
    (onPar : db.OnPar names view (node :: rest) progress counterpart first second)
    (fits : db.FitFor view node rest first second) :
    Agree (db.Alongside view) (db.OnPar names view rest)
      ((db.applyNode view node progress).run first)
      ((db.applyNode view other counterpart).run second) := by
  obtain ⟨opened, stmt, opens, same, known, abreast⟩ := onPar
  obtain ⟨owner, operation⟩ := node
  obtain ⟨also, _⟩ := other
  obtain rfl : operation = _ := sameNode
  -- A node that leaves the statements as they are.
  have keeps {after other : Progress} {state ending : Instance Unit}
      (later : OpensBatches opened rest) (ends : (after = progress ∧ other = counterpart) ∧
        db.Abreast names view stmt state ending) :
      db.OnPar names view rest after other state ending := by
    obtain ⟨⟨rfl, rfl⟩, abreast⟩ := ends
    exact ⟨opened, stmt, later, same, known, abreast⟩
  cases operation with
  | writerAdd key =>
      exact (applyWriter_abreast hosts _ abreast progress counterpart).mono
        (fun _ _ level => level) fun _ _ _ _ => keeps opens
  | writerDel key =>
      exact (applyWriter_abreast hosts _ abreast progress counterpart).mono
        (fun _ _ level => level) fun _ _ _ _ => keeps opens
  | exec sql =>
      exact (applyExec_related main reliable asks owner also).bind (fun _ _ =>
        related_pure _ _ fun _ _ abreast => keeps opens ⟨⟨rfl, rfl⟩, abreast⟩) _ _ abreast
  | run sql parameters =>
      refine (applyRun_related main reliable prepares caching asks.1 asks.2 owner also listed
        progress counterpart abreast fits).mono (fun _ _ level => level) ?_
      rintro after other state ending (⟨prepared, isStmt, otherStmt, abreast⟩ | ⟨loose, abreast⟩)
      · refine ⟨opened, _, opens, fun isOpened => ?_, ?_, abreast⟩
        · obtain ⟨rfl, otherSame⟩ := same isOpened
          rw [otherSame] at otherStmt
          exact ⟨isStmt, otherStmt⟩
        · cases prepared with
          | true => exact fun other isOther => Option.some.inj isOther ▸ asks.2
          | false => exact known
      · refine ⟨false, none, loose, fun impossible => ?_, fun _ impossible => ?_, abreast⟩
        · cases impossible
        · cases impossible
  | stmt sql parameters =>
      have starts : Related (db.Alongside view) (fun state other => state = first ∧ other = second)
          (db.prepareStmt sql) (db.prepareStmt sql)
          (fun _ _ => db.Abreast names view (some sql)) := by
        rintro _ _ ⟨rfl, rfl⟩
        exact prepareStmt_related main prepares caching abreast fits
      have runs (other : String) (isOther : some sql = some other) :
          db.sqlite.RunsWithin names other := Option.some.inj isOther ▸ asks
      refine ((starts.bind fun _ _ => applyBatch_related main reliable runs ⟨rfl, rfl⟩ owner
        also true listed) first second ⟨rfl, rfl⟩).mono (fun _ _ level => level) ?_
      rintro after other state ending ⟨stmts, abreast⟩
      exact ⟨true, some sql, opens, fun _ => stmts, runs, abreast⟩
  | batch parameters =>
      obtain ⟨isOpened, later⟩ := opens
      refine (applyBatch_related main reliable known (same isOpened) owner also false listed
        _ _ abreast).mono (fun _ _ level => level) ?_
      rintro after other state ending ⟨stmts, abreast⟩
      exact ⟨opened, stmt, later, fun _ => stmts, known, abreast⟩
  | flush =>
      exact keeps opens ⟨⟨rfl, rfl⟩, abreast.inside, abreast.idle, abreast.counterpart,
        abreast.flushed⟩

/-- The nodes that are left, on both peers. -/
theorem applyFrom_level (reliable : db.vfs.runtime.Reliable)
    (hosts : ∀ call, db.hostFault call = none) (prepares : db.sqlite.LooksToPrepare)
    (caching : 0 < db.cacheSize) {moves : Instance Unit → Instance Unit → Prop}
    {nodes otherNodes : List Node} {progress counterpart : Progress}
    (asks : ∀ node ∈ nodes, db.sqlite.AsksWithin names node.operation)
    (listed : ∀ node ∈ nodes, node.operation.Listed)
    (sameNodes : SameNodes nodes otherNodes)
    (onPar : db.OnPar names view nodes progress counterpart first second)
    (fits : db.FitsThroughout moves view nodes otherNodes progress counterpart first second) :
    Agree (db.Alongside view) (fun _ _ => db.Alongside view)
      ((db.applyFrom view nodes progress).run first)
      ((db.applyFrom view otherNodes counterpart).run second) := by
  induction nodes generalizing otherNodes progress counterpart first second with
  | nil =>
      obtain rfl := List.map_eq_nil_iff.1 sameNodes.symm
      obtain ⟨_, _, _, _, _, abreast⟩ := onPar
      exact level_abreast main abreast
  | cons node rest ih =>
      obtain ⟨also, otherRest, rfl, sameNode, sameRest⟩ := List.map_eq_cons_iff.1 sameNodes.symm
      have here := applyNode_onPar main reliable hosts prepares caching
        (asks node List.mem_cons_self) (listed node List.mem_cons_self) sameNode.symm onPar
        (fits 0 node rfl first second (.done _ _) (.done _ _))
      have ran := runUnder_run moves (db.applyNode view node progress) first
      have otherRan := runUnder_run moves (db.applyNode view also counterpart) second
      rw [applyFrom, applyFrom, run_bind, run_bind]
      generalize (db.applyNode view node progress).run first = outcome at here ran ⊢
      generalize (db.applyNode view also counterpart).run second = ending at here otherRan ⊢
      obtain ⟨result, middle⟩ := outcome
      obtain ⟨other, between⟩ := ending
      cases result with
      | error thrown =>
          cases other with
          | error rejection => exact here
          | ok later => exact here.elim
      | ok next =>
          cases other with
          | error rejection => exact here.elim
          | ok later =>
              refine ih (fun other member => asks other (List.mem_cons_of_mem _ member))
                (fun other member => listed other (List.mem_cons_of_mem _ member)) sameRest.symm
                here fun index other found state last reached alsoReached => ?_
              exact fits (index + 1) other found state last (ran.bind_ok reached)
                (otherRan.bind_ok alsoReached)

end Nodes

/-! ### Runs -/

def Touches (db : Database Unit) (temporary : FileName → Prop) (name : FileName) : Prop :=
  name = db.vfs.name ∨ temporary name

private theorem Ready.lookup_files (ready : Ready first) (name : FileName) :
    first.engine.vfs.files.lookup name = none := by
  rw [ready.flushed]
  exact Finmap.lookup_empty name

theorem Ready.up (ready : Ready first) : Up none (under view first.engine) :=
  ⟨ready.opened, ready.running, fun _ impossible => by cases impossible⟩

private theorem Ready.abreast {temporary : FileName → Prop} (ready : Ready first)
    (otherReady : Ready second) (pages : db.mainPages view first = db.mainPages view second)
    (files : ∀ name, temporary name →
      first.engine.vfs.stores .tmp name = second.engine.vfs.stores .tmp name) :
    db.Abreast (db.Touches temporary) view none first second := by
  refine ⟨⟨⟨⟨rfl, rfl, fun name known => ?_, fun name batch found => ?_,
    fun name batch found => ?_, fun name => ?_⟩, rfl⟩, ready.up, otherReady.up⟩, ready.idle,
    otherReady.idle, ?_⟩
  · change first.engine.vfs.stores (db.vfs.storeOf name (under view first.engine).vfs) name =
      second.engine.vfs.stores (db.vfs.storeOf name (under view second.engine).vfs) name
    unfold ParaVFS.storeOf
    by_cases isMain : name = db.vfs.name
    · rw [if_neg (not_not.2 isMain), if_neg (not_not.2 isMain), isMain]
      exact pages
    · rw [if_pos isMain, if_pos isMain]
      exact files name (known.resolve_left isMain)
  · cases (ready.lookup_files name).symm.trans found
  · cases (otherReady.lookup_files name).symm.trans found
  · exact congrArg (Option.map Batch.ops)
      ((ready.lookup_files name).trans (otherReady.lookup_files name).symm)
  · rw [ready.flushed]
    rfl

/-- What others only read leaves the peers level. -/
theorem Alongside.carry {here there : Instance Unit} {statements others : String → Prop}
    (level : db.Alongside view first second) (same : SameFor statements first.engine here.engine)
    (otherSame : SameFor others second.engine there.engine) : db.Alongside view here there where
  pages := by
    unfold mainPages
    rw [← same.vfs.stores, ← otherSame.vfs.stores]
    exact level.pages
  running := same.aborted.symm.trans level.running
  counterpart := otherSame.aborted.symm.trans level.counterpart

/-- Peers on equal pages whose statements ask for nothing that only one of them knows: however
each of them cuts the nodes into calls, and whatever its clock, its cache and its other files. -/
theorem replicasAgree_of_shared (db : Database Unit) (reliable : db.vfs.runtime.Reliable)
    (hosts : ∀ call, db.hostFault call = none) (prepares : db.sqlite.LooksToPrepare)
    (caching : 0 < db.cacheSize) (temporary : FileName → Prop)
    (nodes otherNodes : List Node)
    (asks : ∀ node ∈ nodes, db.sqlite.AsksWithin (db.Touches temporary) node.operation)
    (listed : ∀ node ∈ nodes, node.operation.Listed)
    (view : Nat) (first second : Instance Unit) (ready : Ready first) (otherReady : Ready second)
    (files : ∀ name, temporary name →
      first.engine.vfs.stores .tmp name = second.engine.vfs.stores .tmp name)
    (fits : db.FitsThroughout (db.ReadingBeside (Names nodes)) view nodes otherNodes .initial
      .initial first second) : db.ReplicasAgree nodes otherNodes view first second := by
  rintro sameNodes pages result other final ending ⟨groups, isNodes, opens, ran⟩
    ⟨cut, alsoNodes, alsoOpens, also⟩
  have onPar : db.OnPar (db.Touches temporary) view nodes .initial .initial first second := by
    refine ⟨true, none, opensBatches_opened nodes, fun _ => ⟨rfl, rfl⟩, fun _ impossible => ?_,
      ready.abreast otherReady pages files⟩
    cases impossible
  have ends :=
    applyFrom_level (.inl rfl) reliable hosts prepares caching asks listed sameNodes onPar fits
  -- Each peer ends as it does alone, in one call.
  rw [← isNodes] at ran
  obtain ⟨isResult, same⟩ := applyGroups_undisturbed reliable hosts opens ran
  rw [← alsoNodes] at also
  obtain ⟨isOther, otherSame⟩ := applyGroups_undisturbed reliable hosts alsoOpens also
  rw [isNodes] at isResult same
  rw [alsoNodes] at isOther otherSame
  generalize (db.applyFrom view nodes .initial).run first = outcome at ends isResult same
  generalize (db.applyFrom view otherNodes .initial).run second = counterpart
    at ends isOther otherSame
  obtain ⟨value, left⟩ := outcome
  obtain ⟨otherValue, right⟩ := counterpart
  obtain rfl : result = value := isResult
  obtain rfl : other = otherValue := isOther
  cases result with
  | error thrown =>
      cases other with
      | ok value => exact ends.elim
      | error rejection =>
          obtain ⟨rfl, level⟩ := ends
          have carried := level.carry same otherSame
          exact ⟨rfl, carried.pages, carried.running, carried.counterpart⟩
  | ok value =>
      cases other with
      | error rejection => exact ends.elim
      | ok otherValue =>
          have carried := Alongside.carry ends same otherSame
          exact ⟨rfl, carried.pages, carried.running, carried.counterpart⟩

def peerAfter (seconds : Int) (cache : List String) (left : Pages) : Instance Unit :=
  let stores : StoreRef → Store := fun ref name =>
    if ref = .tmp ∧ name = "paraql.db-mj" then left else ∅
  let opened : Instance Unit := .opened stores (fun _ => seconds) ()
  { opened with engine := { opened.engine with cache := cache } }

private theorem ready_peerAfter (seconds : Int) (cache : List String) (left : Pages) :
    Ready (peerAfter seconds cache left) :=
  ⟨rfl, rfl, rfl, rfl⟩

def rollingSqlite : Sqlite Unit :=
  let journal : FileName := "paraql.db-journal"
  { Sqlite.idle Unit with
    run := fun _ _ => .calls { changes := 1, lastInsertRowid := 1 }
      [.xAccess journal, .xWrite journal [1] 0, .xSync journal, .xWrite openPath [7] 0,
        .xSync openPath, .xDelete journal] }

private theorem asks_calls {α : Type} {kind : SqliteCall → Prop} {value : α}
    {calls : List VfsCall} (all : ∀ call ∈ calls, kind (.file call)) :
    (Request.calls value calls : Request Unit α).Asks kind := by
  intro connection
  change (Program.calls (Except.ok value, connection) calls).Asks kind
  induction calls with
  | nil => exact .done _
  | cons call calls ih =>
      exact .ask (all call List.mem_cons_self) fun _ =>
        ih fun other member => all other (List.mem_cons_of_mem _ member)

private theorem rolling_asks (operation : Operation) :
    rollingSqlite.AsksWithin
      ((sample rollingSqlite).Touches fun name => name = "paraql.db-journal") operation := by
  have nothing {α : Type} {kind : SqliteCall → Prop} (value : α) :
      (Request.calls value [] : Request Unit α).Asks kind := asks_calls (by simp)
  have runs (sql : String) : rollingSqlite.RunsWithin
      ((sample rollingSqlite).Touches fun name => name = "paraql.db-journal") sql := by
    refine ⟨fun _ => nothing (), fun _ => asks_calls ?_, nothing ()⟩
    simp only [List.forall_mem_cons]
    exact ⟨.inr rfl, .inr rfl, .inr rfl, .inl rfl, .inl rfl, .inr rfl, by simp⟩
  cases operation with
  | exec sql => exact nothing ()
  | run sql parameters => exact ⟨nothing (), runs sql⟩
  | stmt sql parameters => exact runs sql
  | _ => trivial

/-- The author of a RUN, which has its statement open, and a peer that has not, at another time
and with other files; the one in a single call and the other in two. -/
theorem replicasAgree_of_shared_author :
    let db : Database Unit := sample rollingSqlite
    let row : Parameters := { named := .null, positional := .list [] }
    let own : List Node := [⟨some 0, .run "INSERT INTO t VALUES (1)" row⟩]
    let run : List Node := [⟨none, .run "INSERT INTO t VALUES (1)" row⟩]
    let flush : List Node :=
      [⟨none, .stmt "INSERT INTO t VALUES (2)" .absent⟩, ⟨none, .batch row⟩, ⟨none, .flush⟩]
    let author := peerAfter 1 ["INSERT INTO t VALUES (1)"] ∅
    let other := peerAfter 2 [] (Finmap.singleton 0 [9])
    ∃ result final ending, db.ComesOut 0 (own ++ flush) author result final ∧
      db.ComesOut 0 (run ++ flush) other result ending ∧
      db.mainPages 0 final = db.mainPages 0 ending := by
  intro db row own run flush author other
  have agree : db.ReplicasAgree (own ++ flush) (run ++ flush) 0 author other := by
    refine replicasAgree_of_shared db Runtime.copying_reliable (fun _ => rfl)
      ⟨fun _ _ => .done _, fun _ _ => .done _, fun _ _ => .done _ fun _ impossible => ?_⟩
      (by decide) (fun name => name = "paraql.db-journal") (own ++ flush) (run ++ flush)
      (fun node _ => rolling_asks node.operation) ?_ 0 author other (ready_peerAfter ..)
      (ready_peerAfter ..) ?_ ?_
    · cases impossible
    · intro node member
      simp only [own, flush, row, List.cons_append, List.nil_append, List.mem_cons,
        List.not_mem_nil, or_false] at member
      rcases member with rfl | rfl | rfl | rfl
      · exact .inr ⟨[], rfl⟩
      · exact .inl rfl
      · exact .inr ⟨[], rfl⟩
      · trivial
    · rintro name rfl
      rfl
    · -- SQLite prepares whatever it is given.
      rintro index ⟨owner, operation⟩ _ state left _ _
      cases operation with
      | run sql parameters => exact .inl (iff_of_true (.inr rfl) (.inr rfl))
      | stmt sql parameters => exact iff_of_true (.inr rfl) (.inr rfl)
      | _ => trivial
  obtain ⟨result, final, ran⟩ : ∃ result final, db.ComesOut 0 (own ++ flush) author result final :=
    ⟨_, _, [own ++ flush], rfl, fun _ impossible => (List.not_mem_nil impossible).elim,
      runUnder_run _ _ author⟩
  obtain ⟨_, ending, also⟩ : ∃ result final, db.ComesOut 0 (run ++ flush) other result final := by
    refine ⟨_, _, [run, flush], rfl, fun group member => ?_, runUnder_run _ _ other⟩
    rw [List.mem_singleton.1 member]
    exact ⟨rfl, trivial⟩
  obtain ⟨rfl, pages, _⟩ := agree rfl rfl _ _ _ _ ran also
  exact ⟨_, final, ending, ran, also, pages⟩

def stampingSqlite : Sqlite Unit :=
  { Sqlite.idle Unit with
    exec := fun _ connection => .ask .currentTime fun seconds =>
      .calls (.ok (), connection)
        [.xWrite openPath [UInt8.ofNat (Int.toNat seconds)] 0, .xSync openPath] }

/-- `CURRENT_TIMESTAMP` and its like are evaluated anew on every peer. -/
theorem replicasAgree_clock_fails :
    ¬∀ first second : Instance Unit, Ready first → Ready second →
      (sample stampingSqlite).ReplicasAgree [⟨none, .exec "INSERT INTO t VALUES (unixepoch())"⟩]
        [⟨none, .exec "INSERT INTO t VALUES (unixepoch())"⟩] 0 first second := by
  intro agree
  have comesOut (peer : Instance Unit) := runUnder_run
    ((sample stampingSqlite).ReadingBeside
      (Names [⟨none, .exec "INSERT INTO t VALUES (unixepoch())"⟩]))
    ((sample stampingSqlite).applyGroups 0
      [[⟨none, .exec "INSERT INTO t VALUES (unixepoch())"⟩]]) peer
  have samePages := (agree (peerAfter 1 [] ∅) (peerAfter 2 [] ∅) (ready_peerAfter ..)
    (ready_peerAfter ..) rfl rfl _ _ _ _
    ⟨_, rfl, fun _ impossible => (List.not_mem_nil impossible).elim, comesOut _⟩
    ⟨_, rfl, fun _ impossible => (List.not_mem_nil impossible).elim, comesOut _⟩).2.1
  have sameFirst := congrArg (fun pages : Pages => (pages.lookup 0).map fun page => page.byteAt 0)
    samePages
  revert sameFirst
  decide +kernel

end Database
end ParaQL
