/-
Where the calls of a connection go: to the Autobee view for its main file, to the
local store for every other file.

The VFS routes by its own `name`, while the connection is opened under a fixed path.
Both agree for one value of the `name` option only.
-/

import ParaQL.Binding
import ParaQL.VfsSteps

namespace ParaQL

open Async Async.Task Bytes

def properStore (main name : FileName) (view : Option Nat) : StoreRef :=
  if name = main then .view (.current view) else .tmp

def Access.Routed (main : FileName) : Access → Prop
  | .store _ name target view _ => target = properStore main name view
  | .batch name target view => target = properStore main name view
  | _ => True

inductive ConnectionStep where
  | call (call : VfsCall)
  | switch (view : Option Nat)
  deriving DecidableEq, Repr

namespace ParaVFS

def connectionStep (vfs : ParaVFS) : ConnectionStep → VfsTask Unit
  | .call call => do
      let _ ← vfs.native call
      pure ()
  | .switch view => tryCatch (write view) (fun _ => pure ())

def connectionRun (vfs : ParaVFS) (steps : List ConnectionStep) : VfsTask Unit :=
  Task.forEach steps vfs.connectionStep

/-- In every run over any stores, every access goes where it should. -/
def RoutesProperly (vfs : ParaVFS) : Prop :=
  ∀ stores steps,
    ∀ access ∈ ((vfs.connectionRun steps).run (VfsState.initial stores)).2.log,
      access.Routed openPath

variable {vfs : ParaVFS}

structure RoutedState (vfs : ParaVFS) (state : VfsState) : Prop where
  log : ∀ access ∈ state.log, access.Routed vfs.name
  sources : ∀ name batch, state.files.lookup name = some batch →
    batch.source = properStore vfs.name name state.view

private theorem storeOf_eq_properStore (name : FileName) (state : VfsState) :
    vfs.storeOf name state = properStore vfs.name name state.view := by
  unfold storeOf properStore
  by_cases same : name = vfs.name
  · rw [if_pos same, if_neg (not_not.2 same)]
    rfl
  · rw [if_neg same, if_pos same]

theorem RoutedState.record {state : VfsState} (routed : RoutedState vfs state) (access : Access)
    (proper : access.Routed vfs.name) : RoutedState vfs (state.record access) := by
  refine ⟨?_, routed.sources⟩
  intro other member
  rcases List.mem_append.1 member with earlier | last
  · exact routed.log other earlier
  · rw [List.mem_singleton.1 last]
    exact proper

theorem RoutedState.insert {state after : VfsState} (routed : RoutedState vfs state)
    (name : FileName) (batch : Batch) (sameLog : after.log = state.log)
    (sameView : after.view = state.view) (files : after.files = state.files.insert name batch)
    (source : batch.source = properStore vfs.name name state.view) : RoutedState vfs after := by
  refine ⟨sameLog ▸ routed.log, ?_⟩
  intro other found lookedUp
  rw [files] at lookedUp
  rw [sameView]
  exact batches_insert routed.sources source other found lookedUp

theorem RoutedState.addTo {state : VfsState} (routed : RoutedState vfs state) (name : FileName)
    (batch : Batch) (op : BatchOp) : RoutedState vfs (state.addTo name batch op) := by
  unfold VfsState.addTo
  cases found : state.files.lookup name with
  | none => exact routed
  | some registered =>
      simp only
      split
      · exact routed.insert name _ rfl rfl rfl (routed.sources name registered found)
      · exact routed

theorem RoutedState.unregister {state : VfsState} (routed : RoutedState vfs state)
    (name : FileName) : RoutedState vfs (state.unregister name) := by
  constructor
  · exact (routed.record (.unregister name) trivial).log
  · exact batches_erase routed.sources name

private theorem routed_discipline (vfs : ParaVFS) (name : FileName) (view : Option Nat) :
    Discipline vfs name alone (fun state => state.view = view ∧ RoutedState vfs state)
      (fun batch => batch.source = properStore vfs.name name view)
      (fun _ state => state.view = view ∧ RoutedState vfs state) where
  stable := stable_alone _
  look _ routed := ⟨routed.1, routed.2.record _ (storeOf_eq_properStore _ _)⟩
  lookFails _ routed := ⟨routed.1, routed.2.record _ (storeOf_eq_properStore _ _)⟩
  zlib routed := ⟨routed.1, routed.2.record _ trivial⟩
  zlibFails routed := ⟨routed.1, routed.2.record _ trivial⟩
  registered routed found := routed.1 ▸ routed.2.sources _ _ found
  make batch source _ routed _ := by
    have proper := source.trans (storeOf_eq_properStore _ _)
    exact ⟨routed.1 ▸ proper, routed.1,
      (routed.2.record (.batch _ batch.source _) proper).insert _ batch rfl rfl rfl
        proper⟩
  add _ routed source := by
    refine ⟨(VfsState.view_addTo _ _ _ _).trans routed.1, RoutedState.addTo ?_ _ _ _⟩
    exact routed.2.record _ (routed.1 ▸ source)
  unregister routed := ⟨routed.1, routed.2.unregister name⟩
  commit routed source := by
    refine ⟨routed.1, ?_⟩
    have recorded := routed.2.record (.store .flush _ _ _ false) (routed.1 ▸ source)
    exact ⟨recorded.log, recorded.sources⟩
  fails routed source := ⟨routed.1, routed.2.record _ (routed.1 ▸ source)⟩
  throws routed := routed

/-! ### Runs -/

private theorem routed_step (step : ConnectionStep) :
    Triple alone (RoutedState vfs) (vfs.connectionStep step) (fun _ => RoutedState vfs)
      (fun _ _ => False) := by
  cases step with
  | call call =>
      intro state result final routed ran
      have called : Triple alone (fun state' => state'.view = state.view ∧ RoutedState vfs state')
          (vfs.connectionStep (.call call)) (fun _ => RoutedState vfs) (fun _ _ => False) := by
        refine Triple.bind (?_ : Triple _ _ _ (fun _ => RoutedState vfs) _) fun _ =>
          triple_pure _ fun _ kept => kept
        refine ((routed_discipline vfs call.file state.view).perform call rfl).bind fun reply =>
          triple_pure _ fun _ returned => ?_
        rcases returned with ⟨kept, _⟩ | ⟨_, kept, _⟩
        · exact kept.2
        · exact kept.2
      exact called state result final ⟨rfl, routed⟩ ran
  | switch view =>
      refine Triple.catch (?_ : Triple _ _ _ _ (fun _ => RoutedState vfs)) fun _ =>
        triple_pure _ fun _ kept => kept
      apply triple_atomic (stable_alone _)
      intro state routed
      have recorded := routed.record (.switch view) trivial
      by_cases pending : state.files.keys.card ≠ 0
      · simp only [if_pos pending]
        exact recorded
      · simp only [if_neg pending]
        refine ⟨recorded.log, ?_⟩
        intro name batch found
        have noFiles : state.files.keys = ∅ := Finset.card_eq_zero.1 (not_not.1 pending)
        have member : name ∈ state.files.keys :=
          Finmap.mem_keys.2 (Finmap.mem_of_lookup_eq_some found)
        rw [noFiles] at member
        exact absurd member (Finset.notMem_empty name)

private theorem routed_run (steps : List ConnectionStep) (stores : StoreRef → Store) :
    ∀ access ∈ ((vfs.connectionRun steps).run (VfsState.initial stores)).2.log,
      access.Routed vfs.name := by
  have begins : RoutedState vfs (VfsState.initial stores) := by
    constructor
    · intro access member
      cases member
    · intro name batch found
      cases found
  have kept : Triple alone (RoutedState vfs) (Task.forEach steps vfs.connectionStep)
      (fun _ => RoutedState vfs) (fun _ _ => False) :=
    triple_forEach fun step _ => routed_step step
  have ends := kept.run begins
  unfold connectionRun
  generalize (Task.forEach steps vfs.connectionStep).run (VfsState.initial stores) = outcome
    at ends ⊢
  obtain ⟨result, final⟩ := outcome
  cases result with
  | ok value => exact ends.log
  | error rejection => exact ends.elim

private theorem log_xSize (vfs : ParaVFS) (stores : StoreRef → Store)
    (other : vfs.name ≠ openPath) :
    .store .peek openPath .tmp none (vfs.runtime.fault 0) ∈
      ((vfs.connectionRun [.call (.xSize openPath)]).run (VfsState.initial stores)).2.log := by
  have tmp : ∀ state, vfs.storeOf openPath state = .tmp := fun state => by
    rw [storeOf, if_pos other.symm]
  have log : ((vfs.connectionRun [.call (.xSize openPath)]).run (VfsState.initial stores)).2.log =
      [.store .peek openPath .tmp none (vfs.runtime.fault 0)] := by
    simp only [connectionRun, forEach, connectionStep, native, perform, withoutBuffer, xSize,
      callback, last_eq, storeCall, attempt, run_bind, run_tryCatch, run_atomic, tmp]
    by_cases fault : vfs.runtime.fault 0 = true
    · simp [VfsState.initial, VfsState.record, fault]
    · simp [VfsState.initial, VfsState.record, fault]
  rw [log]
  exact List.mem_singleton.2 rfl

/-- Every access is routed properly, in every run, exactly for one value of the `name`
option. -/
theorem routesProperly_iff (vfs : ParaVFS) : vfs.RoutesProperly ↔ vfs.name = openPath := by
  constructor
  · intro routes
    by_contra other
    have made := log_xSize vfs (fun _ _ => ∅) other
    have routed := routes _ _ _ made
    simp [Access.Routed, properStore] at routed
  · intro same stores steps access member
    exact same ▸ routed_run steps stores access member

/-- With another name already the first look at the main file goes to the local store. -/
theorem routesProperly_otherName_fails :
    ¬{ ParaVFS.sample with name := "notes.db" }.RoutesProperly := by
  intro routes
  have made := log_xSize { ParaVFS.sample with name := "notes.db" } (fun _ _ => ∅)
    (by decide)
  have routed := routes _ _ _ made
  simp [Access.Routed, properStore] at routed

end ParaVFS
end ParaQL
