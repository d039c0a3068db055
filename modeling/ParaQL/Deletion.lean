/-
What `_xDelete` leaves of a file.

It deletes the pages up to the last committed one and flushes.  Puts that were already in
the batch are flushed with the deletes, so pages that were only pending come into being.
-/

import ParaQL.PageSplitting
import ParaQL.SpuriousErrors

namespace ParaQL

open Async Async.Task Bytes

def VfsCall.writes (name : FileName) : VfsCall → Bool
  | .xWrite other _ _ => other = name
  | .xTruncate other _ => other = name
  | _ => false

private theorem Pages.applyAll_append (pages : Pages) (first second : List BatchOp) :
    pages.applyAll (first ++ second) = (pages.applyAll first).applyAll second := by
  unfold Pages.applyAll
  exact List.foldl_append

private theorem Pages.lookup_applyAll_deletes (pages : Pages) (name : FileName)
    (count index : Nat) :
    (pages.applyAll ((List.range count).map fun page => .delete ⟨name, page⟩)).lookup index =
      if index < count then none else pages.lookup index := by
  induction count with
  | zero => rfl
  | succ count ih =>
      have last : (pages.applyAll ((List.range (count + 1)).map
          fun page => .delete ⟨name, page⟩)).lookup index =
          if index = count then none else (pages.applyAll ((List.range count).map
            fun page => .delete ⟨name, page⟩)).lookup index := by
        rw [List.range_succ, List.map_append, Pages.applyAll_append]
        exact Pages.lookup_apply (pages.applyAll _) count index none
      rw [last, ih]
      split_ifs <;> first | rfl | omega

private theorem Pages.last_eq_neg_one {pages : Pages} (empty : ∀ index, pages.lookup index = none) :
    pages.last = -1 := by
  unfold Pages.last
  rw [(Pages.lastIndex_eq_none_iff pages).2 empty]

private theorem Pages.flat_read_empty (offset length : Nat) :
    (Pages.flat ∅).read offset length = Buffer.alloc length := by
  apply Buffer.ext_byteAt
  · rw [FlatFile.length_read, Buffer.length_alloc]
  · intro index inside
    rw [FlatFile.length_read] at inside
    rw [FlatFile.byteAt_read _ _ _ _ inside, Buffer.byteAt_alloc]
    exact (Pages.flat ∅).zeroBeyond _ (Nat.zero_le _)

namespace ParaVFS

variable (vfs : ParaVFS)

def Yields (call : VfsCall) (state : VfsState) (holds : VfsReply → Prop) : Prop :=
  vfs.Undisturbed call state →
    ∃ reply after, (vfs.perform call).run state = (.ok reply, after) ∧ holds reply

structure Gone (name : FileName) (state : VfsState) : Prop where
  access : vfs.Yields (.xAccess name) state fun reply => reply.args = [.null, .bool false]
  size : vfs.Yields (.xSize name) state fun reply => reply.args = [.null, .number 0]
  reads : ∀ buffer offset, vfs.Yields (.xRead name buffer offset) state fun reply =>
    reply.args.head? = some .null ∧ reply.buffer = Buffer.alloc buffer.length
  unbatched : state.files.lookup name = none

def LeavesNothing (name : FileName) (deleted : VfsState) : Prop :=
  ∀ calls outcomes later, (∀ call ∈ calls, call.writes name = false) →
    (vfs.performAll calls).run deleted = (.ok outcomes, later) → vfs.Gone name later

/-- Nothing that is pending would store a page beyond the last committed one. -/
def StaysWithin (name : FileName) (state : VfsState) : Prop :=
  ∀ index : Nat, (vfs.committed state name).last < index →
    ((vfs.committed state name).applyAll (pendingOps state name)).lookup index = none

structure Emptied (name : FileName) (state : VfsState) : Prop where
  unbatched : state.files.lookup name = none
  pages : ∀ index, (vfs.committed state name).lookup index = none

variable {vfs} {name : FileName} {state after : VfsState}

theorem Emptied.congr (emptied : vfs.Emptied name state) (sameView : after.view = state.view)
    (sameStores : after.stores = state.stores) (sameFiles : after.files = state.files) :
    vfs.Emptied name after := by
  constructor
  · rw [sameFiles]
    exact emptied.unbatched
  · intro index
    rw [committed_congr sameView sameStores]
    exact emptied.pages index

theorem Emptied.record (emptied : vfs.Emptied name state) (access : Access) :
    vfs.Emptied name (state.record access) :=
  emptied.congr rfl rfl rfl

theorem Emptied.look (emptied : vfs.Emptied name state) {file : FileName}
    (move : VfsMove vfs file true state after) : vfs.Emptied name after := by
  cases move with
  | keep => exact emptied
  | zlib => exact emptied.record _
  | look => exact emptied.record _
  | fail op target mutates => cases mutates
  | make mutates => cases mutates
  | add op batch item mutates => cases mutates
  | unregister mutates => cases mutates
  | commit batch mutates => cases mutates

theorem Emptied.last (emptied : vfs.Emptied name state) : (vfs.committed state name).last = -1 :=
  Pages.last_eq_neg_one emptied.pages

theorem Emptied.delete (emptied : vfs.Emptied name state) :
    vfs.Emptied name ((vfs.perform (.xDelete name)).run state).2 := by
  obtain ⟨access, ⟨error, ran⟩ | ran⟩ := vfs.run_last_cases name state
  · simp only [perform, withoutBuffer, xDelete, callback, run_bind, run_tryCatch, ran,
      andThen_error, orElse_error, run_pure, andThen_ok]
    exact emptied.record access
  · have closed := (emptied.record access).unbatched
    have noPages : ¬(-1 : Int) ≥ 0 := by omega
    simp only [perform, withoutBuffer, xDelete, callback, run_bind, run_tryCatch, ran,
      andThen_ok, emptied.last, if_neg noPages, run_pure, run_flush_closed name closed,
      andThen_error, orElse_error]
    exact emptied.record access

theorem Emptied.sync (emptied : vfs.Emptied name state) :
    vfs.Emptied name ((vfs.perform (.xSync name)).run state).2 := by
  simp only [perform, withoutBuffer, xSync, callback, run_bind, run_tryCatch,
    run_flush_closed name emptied.unbatched, andThen_error, orElse_error, run_pure, andThen_ok]
  exact emptied

/-- Only a write of the file brings it back. -/
theorem Emptied.perform (emptied : vfs.Emptied name state) (own : vfs.OwnBatches state)
    {call : VfsCall} (keeps : call.writes name = false) :
    vfs.Emptied name ((vfs.perform call).run state).2 := by
  by_cases elsewhere : name = call.file
  · have looks (isLook : call.looks = true) :
        vfs.Emptied name ((vfs.perform call).run state).2 := by
      have kept (first second : VfsState) (move : VfsMove vfs call.file call.looks first second)
          (holds : vfs.Emptied name first) : vfs.Emptied name second := by
        rw [isLook] at move
        exact holds.look move
      exact (vfs.perform_moves call).run_keeps kept emptied
    subst elsewhere
    cases call with
    | xDelete file => exact emptied.delete
    | xAccess file => exact looks rfl
    | xRead file buffer offset => exact looks rfl
    | xWrite file data offset => exact absurd keeps (by simp [VfsCall.writes, VfsCall.file])
    | xTruncate file size => exact absurd keeps (by simp [VfsCall.writes, VfsCall.file])
    | xSync file => exact emptied.sync
    | xSize file => exact looks rfl
  · obtain ⟨reply, final, ran, framed⟩ := perform_framed own call
    rw [ran]
    constructor
    · exact (framed.files name elsewhere).trans emptied.unbatched
    · intro index
      rw [framed.committed name elsewhere]
      exact emptied.pages index

theorem Emptied.performAll (calls : List VfsCall) (emptied : vfs.Emptied name state)
    (own : vfs.OwnBatches state) (keep : ∀ call ∈ calls, call.writes name = false) :
    vfs.Emptied name ((vfs.performAll calls).run state).2 := by
  induction calls generalizing state with
  | nil => exact emptied
  | cons call calls ih =>
      have kept := emptied.perform own (keep call List.mem_cons_self)
      obtain ⟨reply, middle, ran, framed⟩ := perform_framed own call
      rw [ran] at kept
      have rest := ih kept (framed.ownBatches own) fun other member =>
        keep other (List.mem_cons_of_mem _ member)
      obtain ⟨outcomes, final, ranRest, _⟩ :=
        ownBatches_performAll calls (framed.ownBatches own)
      rw [ranRest] at rest
      simp only [ParaVFS.performAll, run_bind, ran, andThen_ok, ranRest, run_pure]
      exact rest

private theorem emptied_get (vfs : ParaVFS) (name : FileName) (index : Nat) :
    Triple alone (vfs.Emptied name) (vfs.get name index)
      (fun page state => page = none ∧ vfs.Emptied name state) (fun thrown _ => thrown ≠ .null) := by
  unfold ParaVFS.get
  rw [fetch_eq]
  refine Triple.bind (?_ : Triple alone (vfs.Emptied name) _
    (fun page state => page = none ∧ vfs.Emptied name state) _) fun page => ?_
  · apply Discipline.triple_storeCall (stable_alone _)
    · intro state error _emptied
      exact JsValue.noConfusion
    · intro state emptied
      refine ⟨?_, emptied.record _⟩
      have absent : (state.stores (vfs.storeOf name state)).get ⟨name, index⟩ = none :=
        emptied.pages index
      change vfs.decipher name index ((state.stores (vfs.storeOf name state)).get ⟨name, index⟩) = _
      rw [absent]
      unfold decipher
      split <;> rfl
  · cases page with
    | none => exact triple_pure none fun _ known => known
    | some page =>
        intro state result final known _ran
        cases known.1

private theorem emptied_readPage (vfs : ParaVFS) (name : FileName) (lent : Buffer)
    (offset index : Nat) :
    Triple alone (fun state => vfs.Emptied name state.1 ∧ state.2 = lent)
      (vfs.readPage name lent.length offset index)
      (fun _ state => vfs.Emptied name state.1 ∧
        state.2 = Paging.readPage pageSize offset index (Buffer.alloc pageSize) lent)
      (fun thrown _ => thrown ≠ .null) := by
  apply triple_of_run
  intro ⟨state, current⟩ ⟨emptied, same⟩
  simp only at same
  subst same
  unfold readPage Paging.readPage
  by_cases touched : max offset (index * pageSize) <
      min (offset + current.length) (index * pageSize + pageSize)
  · have ends := (emptied_get vfs name index).run emptied
    simp only [if_pos touched, run_bind, run_onShared]
    generalize (vfs.get name index).run state = outcome at ends ⊢
    obtain ⟨result, after⟩ := outcome
    cases result with
    | error thrown => exact ends
    | ok page =>
        obtain ⟨rfl, kept⟩ := ends
        exact ⟨kept, rfl⟩
  · simp only [if_neg touched, run_pure]
    exact ⟨emptied, rfl⟩

private theorem emptied_xRead (vfs : ParaVFS) (name : FileName) (buffer : Buffer) (offset : Nat) :
    Triple alone (fun state => vfs.Emptied name state.1 ∧ state.2 = buffer)
      (vfs.xRead name offset)
      (fun args state => args.head? = some .null → state.2 = Buffer.alloc buffer.length)
      (fun _ _ => False) := by
  let filled (handled : List Nat) : Buffer := handled.foldl
    (fun lent index => Paging.readPage pageSize offset index (Buffer.alloc pageSize) lent) buffer
  have sameLength (handled : List Nat) : (filled handled).length = buffer.length := by
    induction handled using List.reverseRecOn with
    | nil => rfl
    | append_singleton handled last ih =>
        simp only [filled, List.foldl_append, List.foldl_cons, List.foldl_nil,
          Paging.length_readPage]
        exact ih
  have zeros : filled (Paging.pagesTouched pageSize offset buffer.length) =
      Buffer.alloc buffer.length := by
    have full : Pages.FullPages ∅ := by
      intro index page found
      cases found
    have read := (⟨∅, none⟩ : PageFile).read_eq_flat full buffer offset
    rw [Pages.flat_read_empty] at read
    exact read
  have loop : Triple alone (fun state => vfs.Emptied name state.1 ∧ state.2 = filled [])
      (forEach (Paging.pagesTouched pageSize offset buffer.length)
        (vfs.readPage name buffer.length offset))
      (fun _ state => vfs.Emptied name state.1 ∧
        state.2 = filled (Paging.pagesTouched pageSize offset buffer.length))
      (fun thrown _ => thrown ≠ .null) := by
    apply triple_forEach_handled fun handled (state : VfsState × Buffer) =>
      vfs.Emptied name state.1 ∧ state.2 = filled handled
    intro handled index
    have round := emptied_readPage vfs name (filled handled) offset index
    rw [sameLength handled] at round
    refine round.mono (fun _ known => known) (fun _ state known => ⟨known.1, ?_⟩)
      fun _ _ known => known
    rw [known.2]
    simp only [filled, List.foldl_append, List.foldl_cons, List.foldl_nil]
  apply triple_of_run
  intro ⟨state, current⟩ ⟨emptied, same⟩
  simp only at same
  subst same
  have ends := loop (state, current) _ _ ⟨emptied, rfl⟩ (runUnder_run _ _ _)
  simp only [xRead, callback, run_tryCatch, run_bind, run_read, andThen_ok]
  generalize (forEach (Paging.pagesTouched pageSize offset current.length)
    (vfs.readPage name current.length offset)).run (state, current) = outcome at ends ⊢
  obtain ⟨result, after⟩ := outcome
  cases result with
  | ok value =>
      intro _succeeds
      exact ends.2.trans zeros
  | error thrown =>
      intro succeeds
      exact absurd (Option.some.inj succeeds) ends

private theorem yields_of_look {call : VfsCall} (looks : call.looks = true)
    {holds : VfsReply → Prop}
    (known : ∀ reply after, (vfs.perform call).run state = (.ok reply, after) →
      reply.args.head? = some .null → holds reply) : vfs.Yields call state holds := by
  intro undisturbed
  have warranted : vfs.Warranted state call := by
    cases call <;> first | exact trivial | cases looks
  obtain ⟨reply, after, ran, succeeds⟩ :=
    ((noSpuriousError_iff undisturbed).2 warranted).succeeds
  exact ⟨reply, after, ran, known reply after ran succeeds⟩

private theorem Emptied.run_look (emptied : vfs.Emptied name state) (answer : Int → List JsValue)
    {reply : VfsReply}
    (ran : (withoutBuffer (callback do let index ← vfs.last name; pure (answer index))).run state =
      (.ok reply, after)) (succeeds : reply.args.head? = some .null) :
    reply.args = .null :: answer (-1) := by
  obtain ⟨access, ⟨error, ranLast⟩ | ranLast⟩ := vfs.run_last_cases name state
  · simp only [withoutBuffer, callback, run_bind, run_tryCatch, ranLast, andThen_error,
      orElse_error, run_pure, andThen_ok] at ran
    cases ran
    cases succeeds
  · simp only [withoutBuffer, callback, run_bind, run_tryCatch, ranLast, orElse_ok, run_pure,
      andThen_ok, emptied.last] at ran
    cases ran
    rfl

theorem Emptied.gone (emptied : vfs.Emptied name state) : vfs.Gone name state where
  access := by
    apply yields_of_look rfl
    intro reply after ran succeeds
    exact emptied.run_look _ ran succeeds
  size := by
    apply yields_of_look rfl
    intro reply after ran succeeds
    exact emptied.run_look _ ran succeeds
  reads := by
    intro buffer offset
    apply yields_of_look rfl
    intro reply after ran succeeds
    have ends := emptied_xRead vfs name buffer offset (state, buffer) _ _ ⟨emptied, rfl⟩
      (runUnder_run _ _ _)
    simp only [ParaVFS.perform, withBuffer, run_bind, run_withLocal] at ran
    generalize (vfs.xRead name offset).run (state, buffer) = outcome at ends ran
    obtain ⟨result, final⟩ := outcome
    cases result with
    | error thrown => exact ends.elim
    | ok args =>
        cases ran
        exact ⟨succeeds, ends succeeds⟩
  unbatched := emptied.unbatched

/-! ### A delete that succeeds -/

private theorem unbatched_flush (vfs : ParaVFS) (name : FileName) (state : VfsState) :
    ((vfs.flush name).run state).2.files.lookup name = none := by
  cases found : state.files.lookup name with
  | none =>
      rw [run_flush_closed name found]
      exact found
  | some batch =>
      rw [run_flush_open name found]
      unfold storeCall attempt
      rw [run_atomic]
      simp only
      split
      · exact Finmap.lookup_erase _ _
      · exact Finmap.lookup_erase _ _

private theorem never_null (vfs : ParaVFS) (name : FileName) :
    Discipline vfs name alone (fun _ => True) (fun _ => True) (fun thrown _ => thrown ≠ .null) where
  stable := stable_alone _
  look _ _ := trivial
  lookFails _ _ := JsValue.noConfusion
  zlib _ := trivial
  zlibFails _ := JsValue.noConfusion
  registered _ _ := trivial
  make _ _ _ _ _ := ⟨trivial, trivial⟩
  add _ _ _ := trivial
  unregister _ := trivial
  commit _ _ := trivial
  fails _ _ := JsValue.noConfusion
  throws _ := JsValue.noConfusion

private theorem flush_unbatches (vfs : ParaVFS) (name : FileName) :
    Triple alone (fun _ => True) (vfs.flush name)
      (fun _ state => state.files.lookup name = none) (fun thrown _ => thrown ≠ .null) := by
  apply triple_of_run
  intro state _
  have closed := unbatched_flush vfs name state
  have ends := (never_null vfs name).flush state _ _ trivial (runUnder_run _ _ _)
  generalize (vfs.flush name).run state = outcome at closed ends ⊢
  obtain ⟨result, after⟩ := outcome
  cases result with
  | ok value => exact closed
  | error thrown => exact ends

private theorem delete_unbatches (vfs : ParaVFS) (name : FileName) :
    Triple alone (fun _ => True) (vfs.xDelete name)
      (fun args state => args = [.null] → state.files.lookup name = none) (fun _ _ => False) := by
  have deletes (index : Int) : Triple alone (fun _ : VfsState => True)
      (if index ≥ 0 then forEach (List.range (index + 1).toNat) (vfs.tryDelete name) else pure ())
      (fun _ _ => True) (fun thrown _ => thrown ≠ .null) :=
    triple_ite (fun _ => triple_forEach fun page _ => (never_null vfs name).tryDelete page)
      fun _ => triple_pure () fun _ _ => trivial
  have flushes : Triple alone (fun _ => True) (do vfs.flush name; pure [] : VfsTask (List JsValue))
      (fun _ state => state.files.lookup name = none) (fun thrown _ => thrown ≠ .null) :=
    (flush_unbatches vfs name).bind fun _ => triple_pure [] fun _ closed => closed
  have body := (never_null vfs name).last.bind fun index => (deletes index).bind fun _ => flushes
  refine (body.bind fun values => ?_).catch fun thrown => ?_
  · exact triple_pure _ fun _ closed _ => closed
  · apply triple_pure
    intro state notNull same
    exact absurd (List.singleton_inj.1 same) notNull

variable {name : FileName} {state after : VfsState} {reply : VfsReply}

private theorem unbatched_delete
    (ran : (vfs.perform (.xDelete name)).run state = (.ok reply, after))
    (succeeds : reply.args = [.null]) : after.files.lookup name = none := by
  have ends := delete_unbatches vfs name state _ _ trivial (runUnder_run _ _ _)
  simp only [ParaVFS.perform, withoutBuffer, run_bind] at ran
  generalize (vfs.xDelete name).run state = outcome at ends ran
  obtain ⟨result, final⟩ := outcome
  cases result with
  | error thrown => exact ends.elim
  | ok args =>
      cases ran
      exact ends succeeds

private theorem lookup_deleted (own : vfs.OwnBatches state)
    (ran : (vfs.perform (.xDelete name)).run state = (.ok reply, after))
    (succeeds : reply.args = [.null]) (index : Nat) :
    (vfs.committed after name).lookup index =
      if (vfs.committed state name).last < index then
        ((vfs.committed state name).applyAll (pendingOps state name)).lookup index
      else none := by
  have commits : vfs.committed after name = if reply.args = [.null] then
      (vfs.committed state name).applyAll
        (pendingOps state name ++ vfs.addedOps state (.xDelete name))
      else vfs.committed state name := (perform_commits own rfl ran).1
  rw [commits, if_pos succeeds, Pages.applyAll_append, addedOps, Pages.lookup_applyAll_deletes]
  have lower : -1 ≤ (vfs.committed state name).last := Pages.last_ge _
  by_cases beyond : (vfs.committed state name).last < index
  · rw [if_pos beyond, if_neg (by omega)]
  · rw [if_neg beyond, if_pos (by omega)]

private theorem emptied_of_staysWithin (own : vfs.OwnBatches state)
    (ran : (vfs.perform (.xDelete name)).run state = (.ok reply, after))
    (succeeds : reply.args = [.null]) (within : vfs.StaysWithin name state) :
    vfs.Emptied name after := by
  constructor
  · exact unbatched_delete ran succeeds
  · intro index
    rw [lookup_deleted own ran succeeds]
    by_cases beyond : (vfs.committed state name).last < index
    · rw [if_pos beyond]
      exact within index beyond
    · rw [if_neg beyond]

private theorem access_of_page {index : Nat}
    (stored : (vfs.committed state name).lookup index ≠ none)
    (looks : vfs.runtime.fault state.storeCalls = false) :
    ¬vfs.Gone name state := by
  intro gone
  have some_last : 0 ≤ (vfs.committed state name).last := by
    by_contra negative
    exact stored (Pages.lookup_beyond_last _ index (by omega))
  have ran : (vfs.last name).run state = (.ok (vfs.committed state name).last,
      state.record (.store .peek name (vfs.storeOf name state) state.view false)) := by
    rw [last_eq]
    simp only [storeCall, attempt, run_atomic, looks, Bool.false_eq_true, if_false]
    rfl
  have present : (vfs.perform (.xAccess name)).run state = (.ok ⟨[.null, .bool true], []⟩,
      state.record (.store .peek name (vfs.storeOf name state) state.view false)) := by
    simp only [ParaVFS.perform, withoutBuffer, xAccess, callback, run_bind, run_tryCatch, ran,
      andThen_ok, run_pure, orElse_ok, ge_iff_le, some_last, decide_true]
  have undisturbed : vfs.Undisturbed (.xAccess name) state := by
    intro access made
    rw [accesses, present] at made
    change access ∈ (state.log ++ [_]).drop state.log.length at made
    rw [List.drop_left, List.mem_singleton] at made
    rw [made]
    rfl
  obtain ⟨reply, after, ranHere, answer⟩ := gone.access undisturbed
  rw [present] at ranHere
  cases ranHere
  cases answer

/-- After a delete that succeeds, wherever it stands in a run, the file is gone exactly when
nothing pending reached past its last committed page.  The call into the store that follows
the delete must not fail. -/
theorem leavesNothing_iff (vfs : ParaVFS) (stores : StoreRef → Store) (view : Option Nat)
    (calls : List VfsCall) (name : FileName) {outcomes : List Outcome} {state deleted : VfsState}
    {reply : VfsReply}
    (reached : (vfs.performAll calls).run { VfsState.initial stores with view := view } =
      (.ok outcomes, state))
    (ran : (vfs.perform (.xDelete name)).run state = (.ok reply, deleted))
    (succeeds : reply.args = [.null])
    (looks : vfs.runtime.fault deleted.storeCalls = false) :
    vfs.LeavesNothing name deleted ↔ vfs.StaysWithin name state := by
  have begins : vfs.OwnBatches { VfsState.initial stores with view := view } := by
    intro file batch found
    cases found
  obtain ⟨_, _, ranHere, own⟩ := ownBatches_performAll calls begins
  rw [reached] at ranHere
  cases ranHere
  constructor
  · intro nothing index beyond
    by_contra survives
    have stored := lookup_deleted own ran succeeds index
    rw [if_pos beyond] at stored
    have page : (vfs.committed deleted name).lookup index ≠ none := by
      rw [stored]
      exact survives
    refine access_of_page page looks (nothing [] [] deleted ?_ rfl)
    intro call member
    cases member
  · intro within calls outcomes later keep ranLater
    obtain ⟨_, _, ranDelete, framed⟩ := perform_framed own (.xDelete name)
    rw [ran] at ranDelete
    cases ranDelete
    have emptied := emptied_of_staysWithin own ran succeeds within
    have kept := emptied.performAll calls (framed.ownBatches own) keep
    rw [ranLater] at kept
    exact kept.gone

/-- A committed journal is deleted. -/
theorem leavesNothing_committed :
    ∃ reply deleted, (ParaVFS.sample.perform (.xDelete "paraql.db-journal")).run
        (VfsState.initial onesStore) = (.ok reply, deleted) ∧
      reply.args = [.null] ∧ ParaVFS.sample.LeavesNothing "paraql.db-journal" deleted := by
  obtain ⟨reply, deleted, ran, outcome, _⟩ := perform_refines Runtime.copying_lawful
    (.xDelete "paraql.db-journal") (encodes_plain .sample rfl rfl none onesStore)
  have deletes : PageFile.deleteOps ⟨onesStore .tmp "paraql.db-journal", none⟩ = [(0, none)] := by
    rw [PageFile.deleteOps, last_onesStore]
    rfl
  have succeeds : reply.args = [.null] := by
    refine (congrArg Outcome.args outcome).trans ?_
    change (PageFile.flush (PageFile.addAll ⟨onesStore .tmp "paraql.db-journal", none⟩
      (PageFile.deleteOps ⟨onesStore .tmp "paraql.db-journal", none⟩))
      "paraql.db-journal").1.args = _
    rw [deletes]
    rfl
  refine ⟨reply, deleted, ran, succeeds, ?_⟩
  apply (leavesNothing_iff .sample onesStore none [] "paraql.db-journal" rfl ran succeeds rfl).2
  intro index beyond
  exact Pages.lookup_beyond_last _ index beyond

/-- A journal that is deleted between its first write and its first sync. -/
theorem leavesNothing_unsynced_fails :
    ∃ outcomes state reply deleted,
      (ParaVFS.sample.performAll [.xWrite "paraql.db-journal" [7] 0]).run
        (VfsState.initial fun _ _ => ∅) = (.ok outcomes, state) ∧
      (ParaVFS.sample.perform (.xDelete "paraql.db-journal")).run state = (.ok reply, deleted) ∧
      reply.args = [.null] ∧ ¬ParaVFS.sample.LeavesNothing "paraql.db-journal" deleted := by
  obtain ⟨state, ran, written⟩ := performAll_refines Runtime.copying_lawful
    [.xWrite "paraql.db-journal" [7] 0] (encodes_empty ParaVFS.sample none)
  obtain ⟨reply, deleted, ranDelete, outcome, left⟩ := perform_refines Runtime.copying_lawful
    (.xDelete "paraql.db-journal") written
  have stored := left.stored "paraql.db-journal" 0
  refine ⟨_, state, reply, deleted, ran, ranDelete, congrArg Outcome.args outcome, ?_⟩
  intro nothing
  have page : (ParaVFS.sample.committed deleted "paraql.db-journal").lookup 0 ≠ none := by
    intro absent
    rw [committed, stored] at absent
    cases absent
  refine access_of_page page rfl (nothing [] [] deleted ?_ rfl)
  intro call member
  cases member

end ParaVFS
end ParaQL
