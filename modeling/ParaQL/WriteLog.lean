/-
Which writes reach the main file outside of `_apply`.

`get`, `all` and `iterate` run their statement on the spot, whatever it does.  What such
statements, or `prepare`, do to the main file is done without a node of the oplog; all
other writes happen under the view that an `_apply` call was given.
-/

import ParaQL.ApplyRule

namespace ParaQL

open Async Async.Task Bytes

def Access.Writes (name : FileName) : Access → Prop
  | .store op other _ _ _ => other = name ∧ op ≠ .get ∧ op ≠ .peek
  | _ => False

instance (name : FileName) : DecidablePred (Access.Writes name) := fun access => by
  unfold Access.Writes
  cases access <;> infer_instance

/-- `_view` at the time of an access to a store. -/
def Access.storeView : Access → Option Nat
  | .store _ _ _ view _ => view
  | _ => none

def Adds (known : Access → Prop) (state after : VfsState) : Prop :=
  after.view = state.view ∧
    (after.log = state.log ∨ ∃ access, after.log = state.log ++ [access] ∧ known access)

theorem Adds.mono {known weaker : Access → Prop} {state after : VfsState}
    (adds : Adds known state after) (weakens : ∀ access, known access → weaker access) :
    Adds weaker state after := by
  obtain ⟨view, same | ⟨access, log, holds⟩⟩ := adds
  · exact ⟨view, Or.inl same⟩
  · exact ⟨view, Or.inr ⟨access, log, weakens access holds⟩⟩

/-- Only calls that do not just look write, and they write their own file. -/
theorem VfsMove.adds {vfs : ParaVFS} {name : FileName} {looks : Bool} {state after : VfsState}
    (move : VfsMove vfs name looks state after) :
    Adds (fun access => ∀ file, access.Writes file →
      file = name ∧ looks = false ∧ access.storeView = state.view) state after := by
  cases move with
  | keep => exact ⟨rfl, Or.inl rfl⟩
  | zlib failed => exact ⟨rfl, Or.inr ⟨.zlib failed, rfl, fun file writes => writes.elim⟩⟩
  | look op failed reads =>
      refine ⟨rfl, Or.inr ⟨.store op name _ _ failed, rfl, ?_⟩⟩
      intro file writes
      rcases reads with get | peek
      · exact absurd get writes.2.1
      · exact absurd peek writes.2.2
  | fail op target mutates =>
      exact ⟨rfl, Or.inr ⟨.store op name target _ true, rfl,
        fun file writes => ⟨writes.1.symm, mutates, rfl⟩⟩⟩
  | make mutates closed =>
      exact ⟨rfl, Or.inr ⟨.batch name _ _, rfl, fun file writes => writes.elim⟩⟩
  | add op batch item mutates =>
      refine ⟨VfsState.view_addTo _ _ _ _, Or.inr ⟨.store op name batch.source _ false,
        VfsState.log_addTo _ _ _ _, ?_⟩⟩
      exact fun file writes => ⟨writes.1.symm, mutates, rfl⟩
  | unregister mutates =>
      exact ⟨rfl, Or.inr ⟨.unregister name, rfl, fun file writes => writes.elim⟩⟩
  | commit batch mutates =>
      exact ⟨rfl, Or.inr ⟨.store .flush name batch.source _ false, rfl,
        fun file writes => ⟨writes.1.symm, mutates, rfl⟩⟩⟩

variable {κ : Type}

/-- Of the calls on the main file, those that change nothing; any call on other files. -/
def looksAtMain : SqliteCall → Prop
  | .file call => call.file = openPath → call.looks = true
  | _ => True

/-- A `get`, `all` or `iterate` has a statement that only looks at the main file. -/
def Sqlite.reads (sqlite : Sqlite κ) : LocalCall → Prop
  | .get sql _ => sqlite.StatementAsks looksAtMain sql
  | .iterate sql _ _ => sqlite.StatementAsks looksAtMain sql
  | _ => True

/-- Preparing and finalizing statements changes nothing in the main file. -/
structure Sqlite.WritesWhenRun (sqlite : Sqlite κ) : Prop where
  prepare : ∀ sql, (sqlite.prepare sql).Asks looksAtMain
  finalize : ∀ sql, (sqlite.finalize sql).Asks looksAtMain

private theorem Sqlite.WritesWhenRun.localAsks {sqlite : Sqlite κ} (quiet : sqlite.WritesWhenRun)
    (call : LocalCall) (reads : sqlite.reads call) : sqlite.LocalAsks looksAtMain call := by
  cases call with
  | prepare sql => exact quiet.prepare sql
  | get sql parameters => exact reads
  | iterate sql parameters limit => exact reads
  | finalize sql => trivial

def Instance.Logged (view : Nat) (earlier : List Access) (state : Instance κ) : Prop :=
  ∃ made, state.engine.vfs.log = earlier ++ made ∧
    ∀ access ∈ made, access.Writes openPath → access.storeView = some view

def Instance.Inside (view : Nat) (earlier : List Access) (state : Instance κ) : Prop :=
  state.engine.vfs.view = some view ∧ state.Logged view earlier

theorem Instance.Logged.adds {view : Nat} {earlier : List Access} {state after : Instance κ}
    {known : Access → Prop} (logged : state.Logged view earlier)
    (adds : after.engine.vfs.log = state.engine.vfs.log ∨
      ∃ access, after.engine.vfs.log = state.engine.vfs.log ++ [access] ∧ known access)
    (keeps : ∀ access, known access → access.Writes openPath → access.storeView = some view) :
    after.Logged view earlier := by
  obtain ⟨made, log, each⟩ := logged
  rcases adds with same | ⟨access, grown, holds⟩
  · exact ⟨made, same.trans log, each⟩
  · refine ⟨made ++ [access], ?_, ?_⟩
    · rw [grown, log, List.append_assoc]
    · intro other member
      rcases List.mem_append.1 member with old | new
      · exact each other old
      · rw [List.mem_singleton.1 new]
        exact keeps access holds

namespace Database

/-- Every step of a call, and the local calls that do not run a writing statement. -/
def ReadingMove (db : Database κ) : Instance κ → Instance κ → Prop :=
  db.Move (CallMove db.vfs.compressed) db.sqlite.reads

variable {db : Database κ} {view : Nat} {earlier : List Access}

private theorem looking_adds {state after : Instance κ}
    (step : InstanceStep db.vfs looksAtMain state after) :
    Adds (fun access => ¬access.Writes openPath) state.engine.vfs after.engine.vfs := by
  obtain ⟨sameVfs | ⟨call, looks, move⟩, _⟩ := step
  · rw [sameVfs]
    exact ⟨rfl, Or.inl rfl⟩
  · refine move.adds.mono fun access known writes => ?_
    obtain ⟨same, mutates, _⟩ := known openPath writes
    rw [looks same.symm] at mutates
    cases mutates

private theorem readingMove_adds (quiet : db.sqlite.WritesWhenRun) {state moved : Instance κ}
    (move : db.ReadingMove state moved) :
    Adds (fun access => ¬access.Writes openPath) state.engine.vfs moved.engine.vfs := by
  rcases move_step quiet.localAsks quiet.finalize move with step | ⟨next, _, rfl⟩
  · exact looking_adds step
  · exact ⟨rfl, Or.inl rfl⟩

private theorem logged_stable (quiet : db.sqlite.WritesWhenRun) :
    Stable db.ReadingMove (Instance.Logged view earlier) := fun _ _ move logged =>
  logged.adds (readingMove_adds quiet move).2 fun _ silent writes => absurd writes silent

private theorem inside_stable (quiet : db.sqlite.WritesWhenRun) :
    Stable db.ReadingMove (Instance.Inside view earlier) := fun state moved move inside =>
  ⟨(readingMove_adds quiet move).1.trans inside.1, logged_stable quiet state moved move inside.2⟩

private theorem inside_step {state after : Instance κ}
    (step : InstanceStep db.vfs anything state after)
    (inside : state.Inside view earlier) : after.Inside view earlier := by
  obtain ⟨sameVfs | ⟨call, _, move⟩, _⟩ := step
  · unfold Instance.Inside Instance.Logged
    rw [sameVfs]
    exact inside
  · obtain ⟨sameView, adds⟩ := move.adds
    refine ⟨sameView.trans inside.1, inside.2.adds adds ?_⟩
    exact fun access known writes => (known openPath writes).2.2.trans inside.1

private theorem switchTo_logged (quiet : db.sqlite.WritesWhenRun) (target : Option Nat) :
    Triple db.ReadingMove (Instance.Logged view earlier) (switchTo target)
      (fun _ state => state.engine.vfs.view = target ∧ state.Logged view earlier)
      (fun _ => Instance.Logged view earlier) := by
  have added (state after : Instance κ) (logged : state.Logged view earlier)
      (log : after.engine.vfs.log = state.engine.vfs.log ++ [.switch target]) :
      after.Logged view earlier := by
    refine logged.adds (Or.inr ⟨_, log, rfl⟩) ?_
    intro access same writes
    subst same
    exact writes.elim
  exact triple_switchTo target (logged_stable quiet)
    (fun state _ logged _ => added state _ logged rfl)
    fun state logged _ => ⟨rfl, added state _ logged rfl⟩

private theorem prepareStmt_logged (quiet : db.sqlite.WritesWhenRun) (sql : String) :
    Triple db.ReadingMove (Instance.Logged view earlier) (db.prepareStmt sql)
      (fun _ => Instance.Logged view earlier) (fun _ => Instance.Logged view earlier) := by
  refine (outcome_kept (prepare_steps (quiet.prepare sql) quiet.finalize) (logged_stable quiet)
    (fun state after step same logged => ?_) _).bind fun prepared => ?_
  · exact logged.adds (looking_adds ⟨step, same⟩).2 fun _ silent writes => absurd writes silent
  · apply triple_atomic (logged_stable quiet)
    intro state logged
    have recorded (failed : Bool) : Instance.Logged view earlier
        (state.setVfs (state.engine.vfs.record (.prepare sql failed))) := by
      refine logged.adds (Or.inr ⟨.prepare sql failed, rfl, rfl⟩) ?_
      intro access same writes
      subst same
      exact writes.elim
    cases prepared with
    | ok value => exact recorded false
    | error thrown => exact recorded true

private theorem applyRule_logged (quiet : db.sqlite.WritesWhenRun) (view : Nat)
    (earlier : List Access) :
    ApplyRule db db.ReadingMove view (Instance.Logged view earlier) (Instance.Inside view earlier)
      (fun _ => Instance.Logged view earlier) where
  stableOutside := logged_stable quiet
  stableInside := inside_stable quiet
  enter := switchTo_logged quiet (some view)
  leave := (switchTo_logged quiet none).mono (fun _ inside => inside.2)
    (fun _ _ outside => outside.2) fun _ _ logged => logged
  ran _ _ step := inside_step step
  prepare := prepareStmt_logged quiet
  writer call := triple_applyWriter call (logged_stable quiet) (fun _ _ logged => logged)
    fun _ _ logged => logged
  unseenOutside _ _ same logged := by
    unfold Instance.Logged
    rw [same]
    exact logged
  unseenInside _ _ same inside := by
    unfold Instance.Inside Instance.Logged
    rw [same]
    exact inside

/-! ### Runs -/

/-- Every write of the main file was made during an `_apply` call, with `_view` set to
the view that the call was given. -/
def WrittenByApply (applied : List (Applied κ)) (final : Instance κ) : Prop :=
  ∀ before access after, final.engine.vfs.log = before ++ access :: after →
    access.Writes openPath →
      ∃ call ∈ applied, call.before.engine.vfs.log.length ≤ before.length ∧
        before.length < call.after.engine.vfs.log.length ∧ access.storeView = some call.view

/-- The claim of the README that every write is logged. -/
def LogsEveryWrite (db : Database κ) : Prop :=
  ∀ stores clock connection applied final,
    db.Served db.AnyMove (Instance.opened stores clock connection) applied final →
      WrittenByApply applied final

theorem WrittenByApply.move {applied : List (Applied κ)} {state moved : Instance κ}
    (written : WrittenByApply applied state)
    (adds : Adds (fun access => ¬access.Writes openPath) state.engine.vfs moved.engine.vfs) :
    WrittenByApply applied moved := by
  intro before access after split writes
  rcases adds.2 with same | ⟨last, grown, silent⟩
  · exact written before access after (same.symm.trans split) writes
  · rw [grown] at split
    rcases List.eq_nil_or_concat after with empty | ⟨earlier, final, same⟩
    · subst empty
      obtain ⟨_, sameAccess⟩ := List.append_inj' split rfl
      cases sameAccess
      exact absurd writes silent
    · subst same
      rw [List.concat_eq_append, ← List.cons_append, ← List.append_assoc] at split
      exact written before access earlier (List.append_inj' split rfl).1 writes

theorem WrittenByApply.apply {applied : List (Applied κ)} {call : Applied κ}
    (written : WrittenByApply applied call.before)
    (logged : call.after.Logged call.view call.before.engine.vfs.log) :
    WrittenByApply (applied ++ [call]) call.after := by
  intro before access after split writes
  obtain ⟨made, log, each⟩ := logged
  have both := log.symm.trans split
  by_cases early : before.length < call.before.engine.vfs.log.length
  · obtain ⟨rest, same⟩ : before ++ [access] <+: call.before.engine.vfs.log := by
      refine List.prefix_of_prefix_length_le (⟨after, ?_⟩ : before ++ [access] <+: _)
        (⟨made, rfl⟩ : _ <+: call.before.engine.vfs.log ++ made) ?_
      · rw [both, List.append_assoc, List.singleton_append]
      · rw [List.length_append, List.length_singleton]
        omega
    have splitBefore : call.before.engine.vfs.log = before ++ access :: rest := by
      rw [← same, List.append_assoc, List.singleton_append]
    obtain ⟨found, member, known⟩ := written before access rest splitBefore writes
    exact ⟨found, List.mem_append_left _ member, known⟩
  · have member : access ∈ made := by
      have position : (call.before.engine.vfs.log ++ made)[before.length]? = some access := by
        rw [both]
        simp
      rw [List.getElem?_append_right (by omega)] at position
      exact List.mem_of_getElem? position
    refine ⟨call, List.mem_append_right _ (List.mem_singleton.2 rfl), by omega, ?_,
      each access member writes⟩
    rw [split, List.length_append, List.length_cons]
    omega

/-- When preparing writes nothing and every statement that `get`, `all` and `iterate` are
used on only reads, every write of the main file goes through the oplog, in every run. -/
theorem writtenByApply_of_reading (quiet : db.sqlite.WritesWhenRun)
    {stores : StoreRef → Store} {clock : Nat → Int} {connection : κ} {applied : List (Applied κ)}
    {final : Instance κ}
    (run : db.Served db.ReadingMove (Instance.opened stores clock connection) applied final) :
    WrittenByApply applied final := by
  induction run with
  | start =>
      intro before access after split writes
      have empty : ([] : List Access) = before ++ access :: after := split
      simp at empty
  | move run step ih => exact ih.move (readingMove_adds quiet step)
  | @apply applied state final result run nodes view ran ih =>
      have begins : state.Logged view state.engine.vfs.log :=
        ⟨[], (List.append_nil _).symm, fun access member => absurd member List.not_mem_nil⟩
      have ends := (applyRule_logged quiet view _).apply nodes state result final begins ran
      refine (WrittenByApply.apply ih ?_ :
        WrittenByApply (applied ++ [⟨nodes, view, state, result, final⟩]) final)
      cases result with
      | ok value => exact ends
      | error thrown => exact ends

def selectingSqlite : Sqlite Unit :=
  { Sqlite.idle Unit with
    step := fun sql _ =>
      if sql = "SELECT x FROM t" then
        .calls (some [("x", .integer 1)]) [.xRead openPath (Buffer.alloc 1) 0]
      else .calls none [.xWrite openPath [1] 0, .xSync openPath]
    run := fun _ _ => .calls ⟨1, 1⟩ [.xWrite openPath [1] 0, .xSync openPath] }

/-- The statement of a run is prepared and others are read, before it is applied. -/
theorem writtenByApply_run :
    let db := sample selectingSqlite
    let prepared := db.callAlone (.get "SELECT x FROM t" ⟨.null, .list []⟩)
      (db.callAlone (.prepare "SELECT x FROM t") (db.callAlone (.prepare "INSERT INTO t VALUES (1)")
        (.opened (fun _ _ => ∅) (fun _ => 0) ())))
    let call := db.applyAlone [⟨none, .run "INSERT INTO t VALUES (1)" ⟨.null, .list []⟩⟩] 0 prepared
    WrittenByApply [call] call.after := by
  intro db prepared call
  have quiet : db.sqlite.WritesWhenRun := ⟨fun _ _ => .done _, fun _ _ => .done _⟩
  have reads : db.sqlite.reads (.get "SELECT x FROM t" ⟨.null, .list []⟩) :=
    { bind := fun _ _ => .done _
      step := fun parameters => by
        simp only [db, sample, selectingSqlite, if_true]
        exact fun _ => .ask (fun _ => rfl) fun _ => .done _
      reset := fun _ => .done _ }
  exact writtenByApply_of_reading quiet ((((Served.start.callAlone (.prepare _) trivial).callAlone
    (.prepare _) trivial).callAlone (.get _ _) reads).applyAlone _ _)

def returningSql : String := "INSERT INTO t VALUES (1) RETURNING x"

def returningSqlite : Sqlite Unit :=
  { Sqlite.idle Unit with
    step := fun _ _ => .calls (some [("x", .integer 1)]) [.xWrite openPath [1] 0] }

/-- `prepare` and `get` of such a statement. -/
def returningRun : Instance Unit :=
  (sample returningSqlite).callAlone (.get returningSql ⟨.null, .list []⟩)
    ((sample returningSqlite).callAlone (.prepare returningSql)
      (.opened (fun _ _ => ∅) (fun _ => 0) ()))

/-- The `get` of an `INSERT ... RETURNING` writes to `bee.view`. -/
theorem logsEveryWrite_returning_fails : ¬(sample returningSqlite).LogsEveryWrite := by
  intro logs
  have run : (sample returningSqlite).Served (sample returningSqlite).AnyMove
      (.opened (fun _ _ => ∅) (fun _ => 0) ()) [] returningRun :=
    (Served.start.callAlone (.prepare returningSql) trivial).callAlone (.get returningSql _) trivial
  have log : returningRun.engine.vfs.log = [.store .get openPath (.view .bee) none false,
      .batch openPath (.view .bee) none, .store .put openPath (.view .bee) none false] := by
    decide +kernel
  obtain ⟨call, member, _⟩ := logs _ _ _ _ _ run [_, _] _ [] log ⟨rfl, by decide, by decide⟩
  exact absurd member List.not_mem_nil

end Database
end ParaQL
