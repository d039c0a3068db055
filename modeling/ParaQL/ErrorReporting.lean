/-
Which failures of a VFS call reach SQLite.

A call ends at its first failing step, with the value that step rejects with.  Store
calls reject with an `Error`, which becomes an error status.  The promise wrappers of
zlib reject with `undefined`, which `paravfs__error_from` takes for success.
-/

import ParaQL.Binding
import ParaQL.VfsSteps

namespace ParaQL

open Async Async.Task Bytes

def CleanSince (before : List Access) (state : VfsState) : Prop :=
  ∃ made, state.log = before ++ made ∧ ∀ access ∈ made, access.failed = false

def FailedWith (before : List Access) (thrown : JsValue) (state : VfsState) : Prop :=
  ∃ made access, state.log = before ++ (made ++ [access]) ∧
    (∀ earlier ∈ made, earlier.failed = false) ∧ access.failed = true ∧
    if access.isZlib then thrown = .undefined else ∃ error, thrown = .error error

/-- A rejection that no failing step explains is still an `Error`. -/
def RejectedSince (before : List Access) (thrown : JsValue) (state : VfsState) : Prop :=
  FailedWith before thrown state ∨ CleanSince before state ∧ ∃ error, thrown = .error error

theorem cleanSince_self (state : VfsState) : CleanSince state.log state :=
  ⟨[], (List.append_nil _).symm, fun _ member => absurd member List.not_mem_nil⟩

theorem CleanSince.record {before : List Access} {state : VfsState}
    (clean : CleanSince before state) {access : Access} (succeeds : access.failed = false) :
    CleanSince before (state.record access) := by
  obtain ⟨made, sameLog, allClean⟩ := clean
  refine ⟨made ++ [access], ?_, ?_⟩
  · rw [← List.append_assoc, ← sameLog]
    rfl
  · intro other member
    rcases List.mem_append.1 member with earlier | last
    · exact allClean other earlier
    · rw [List.mem_singleton.1 last]
      exact succeeds

theorem CleanSince.fail {before : List Access} {state : VfsState}
    (clean : CleanSince before state) {access : Access} {thrown : JsValue}
    (fails : access.failed = true)
    (value : if access.isZlib then thrown = .undefined else ∃ error, thrown = .error error) :
    RejectedSince before thrown (state.record access) := by
  obtain ⟨made, sameLog, allClean⟩ := clean
  refine Or.inl ⟨made, access, ?_, allClean, fails, value⟩
  rw [← List.append_assoc, ← sameLog]
  rfl

namespace ParaVFS

private theorem cleanSince_discipline (vfs : ParaVFS) (name : FileName) (before : List Access) :
    Discipline vfs name alone (CleanSince before) (fun _ => True) (RejectedSince before) where
  stable := stable_alone _
  look _ clean := clean.record rfl
  lookFails _ clean := clean.fail rfl ⟨_, rfl⟩
  zlib clean := clean.record rfl
  zlibFails clean := clean.fail rfl rfl
  registered _ _ := trivial
  make _ _ _ clean _ := ⟨trivial, clean.record rfl⟩
  add _ clean _ := by
    rw [CleanSince, VfsState.log_addTo]
    exact clean.record rfl
  unregister clean := clean.record rfl
  commit clean _ := clean.record rfl
  fails clean _ := clean.fail rfl ⟨_, rfl⟩
  throws clean := Or.inr ⟨clean, _, rfl⟩

def accesses (vfs : ParaVFS) (call : VfsCall) (state : VfsState) : List Access :=
  ((vfs.perform call).run state).2.log.drop state.log.length

/-- Whenever a step of the call fails, the status that SQLite gets is not `SQLITE_OK`. -/
def FailuresReported (vfs : ParaVFS) (call : VfsCall) (state : VfsState) : Prop :=
  (∃ access ∈ vfs.accesses call state, access.failed = true) →
    ∃ reply after, (vfs.native call).run state = (.ok reply, after) ∧ reply.status ≠ sqliteOk

theorem native_run (vfs : ParaVFS) (call : VfsCall) (state : VfsState) :
    ∃ reply after, (vfs.perform call).run state = (.ok reply, after) ∧
      (vfs.native call).run state = (.ok (nativeReply call reply), after) ∧
      Returned (CleanSince state.log) (RejectedSince state.log) reply.args after := by
  have ends := ((cleanSince_discipline vfs call.file state.log).perform call rfl).run
    (cleanSince_self state)
  unfold native
  rw [run_bind]
  generalize (vfs.perform call).run state = outcome at ends ⊢
  obtain ⟨result, after⟩ := outcome
  cases result with
  | ok reply => exact ⟨reply, after, rfl, rfl, ends⟩
  | error rejection => exact ends.elim

/-- A failure is reported exactly when the failing step is no call of zlib. -/
theorem failuresReported_iff (vfs : ParaVFS) (call : VfsCall) (state : VfsState) :
    vfs.FailuresReported call state ↔
      ∀ access ∈ vfs.accesses call state, access.failed = true → access.isZlib = false := by
  obtain ⟨reply, after, ran, ranNative, returned⟩ := vfs.native_run call state
  have accessesAre {made : List Access} (sameLog : after.log = state.log ++ made) :
      vfs.accesses call state = made := by
    rw [accesses, ran, sameLog, List.drop_left]
  have cleanCase (clean : CleanSince state.log after) : vfs.FailuresReported call state ↔
      ∀ access ∈ vfs.accesses call state, access.failed = true → access.isZlib = false := by
    obtain ⟨made, sameLog, allClean⟩ := clean
    rw [FailuresReported, accessesAre sameLog]
    constructor
    · intro _ access member fails
      rw [allClean access member] at fails
      cases fails
    · intro _ failing
      rcases failing with ⟨access, member, fails⟩
      rw [allClean access member] at fails
      cases fails
  rcases returned with ⟨clean, _⟩ | ⟨thrown, failed | ⟨clean, _⟩, args⟩
  · exact cleanCase clean
  · obtain ⟨made, access, sameLog, allClean, fails, value⟩ := failed
    rw [FailuresReported, accessesAre sameLog]
    cases kind : access.isZlib with
    | true =>
        rw [kind, if_pos rfl] at value
        have silent : (nativeReply call reply).status = sqliteOk := by
          rw [nativeReply, args, value]
          rfl
        constructor
        · intro reported
          obtain ⟨_, _, ranHere, notOk⟩ := reported ⟨access, by simp, fails⟩
          rw [ranNative] at ranHere
          cases ranHere
          exact absurd silent notOk
        · intro noZlib
          rw [noZlib access (by simp) fails] at kind
          cases kind
    | false =>
        rw [kind, if_neg Bool.false_ne_true] at value
        obtain ⟨error, rfl⟩ := value
        constructor
        · rintro _ other member otherFails
          rcases List.mem_append.1 member with earlier | last
          · rw [allClean other earlier] at otherFails
            cases otherFails
          · rw [List.mem_singleton.1 last]
            exact kind
        · intro _ _
          refine ⟨_, _, ranNative, ?_⟩
          rw [nativeReply, args]
          exact call.errorCode_ne_ok
  · exact cleanCase clean

/-- A compressed database whose first page is no output of `deflate`. -/
theorem failuresReported_corruptPage_fails :
    let compressed : ParaVFS :=
      { ParaVFS.sample with compressed := true, runtime := { Runtime.copying with
        inflate := fun _ => none } }
    let corrupt : StoreRef → Store := fun _ _ => Finmap.singleton 0 [0]
    ¬compressed.FailuresReported (.xRead "paraql.db" [7] 0) (VfsState.initial corrupt) := by
  intro compressed corrupt reported
  have fails : ∃ access ∈ compressed.accesses (.xRead "paraql.db" [7] 0)
      (VfsState.initial corrupt), access.failed = true := by
    refine ⟨.zlib true, ?_, rfl⟩
    have made : compressed.accesses (.xRead "paraql.db" [7] 0) (VfsState.initial corrupt) =
        [.store .get "paraql.db" (.view .bee) none false, .zlib true] := rfl
    rw [made]
    exact List.mem_cons_of_mem _ List.mem_cons_self
  obtain ⟨reply, after, ran, notOk⟩ := reported fails
  have silent : ((compressed.native (.xRead "paraql.db" [7] 0)).run
      (VfsState.initial corrupt)).1 = .ok { status := 0, value := .undefined, buffer := [7] } := rfl
  rw [ran] at silent
  cases silent
  exact notOk rfl

end ParaVFS
end ParaQL
