/-
Two instances of the VFS that differ in compression and encryption give the same
outcomes, also where calls into the stores fail.

The two run side by side.  What relates their states is that both encode the same
page files, each in its own way, and that they made the same calls into the stores.
-/

import ParaQL.Async.Related
import ParaQL.VfsRefinement

namespace ParaQL
namespace ParaVFS

open Async Async.Task Bytes

structure Twins (first second : ParaVFS) (state other : VfsState) : Prop where
  view : state.view = other.view
  storeCalls : state.storeCalls = other.storeCalls
  files : ∃ files, first.Encodes state files ∧ second.Encodes other files

def CallTwins (first second : ParaVFS) (state other : VfsState × Buffer) : Prop :=
  Twins first second state.1 other.1

def SameLent (first second : ParaVFS) (state other : VfsState × Buffer) : Prop :=
  Twins first second state.1 other.1 ∧ state.2 = other.2

structure SameButOptions (first second : ParaVFS) : Prop where
  runtime : first.runtime = second.runtime
  name : first.name = second.name
  codecs : first.runtime.LawfulCodecs

variable {first second : ParaVFS}

theorem Twins.record {state other : VfsState} (twins : Twins first second state other)
    (access counterpart : Access) (sameKind : access.storeCalls = counterpart.storeCalls) :
    Twins first second (state.record access) (other.record counterpart) := by
  obtain ⟨files, encodes, encodesOther⟩ := twins.files
  refine ⟨twins.view, ?_, files, encodes.record access, encodesOther.record counterpart⟩
  simp only [VfsState.record, sameKind, twins.storeCalls]

theorem Twins.quiet {state other after otherAfter : VfsState}
    (twins : Twins first second state other) (quiet : NoStoreCall state after)
    (quietOther : NoStoreCall other otherAfter)
    (files : ∃ files, first.Encodes after files ∧ second.Encodes otherAfter files) :
    Twins first second after otherAfter :=
  ⟨by rw [quiet.view, quietOther.view, twins.view],
    by rw [quiet.storeCalls, quietOther.storeCalls, twins.storeCalls], files⟩

/-- The batches grow alike, each by its own form of the operation. -/
theorem Twins.addTo {state other : VfsState} (twins : Twins first second state other)
    {name : FileName} {batch otherBatch : Batch} {files : PageFiles} (op : PageOp)
    (registered : state.files.lookup name = some batch)
    (otherRegistered : other.files.lookup name = some otherBatch)
    (encodes : first.Encodes state (Function.update files name (opened (files name))))
    (otherEncodes : second.Encodes other (Function.update files name (opened (files name)))) :
    Twins first second (state.addTo name batch (first.encodeOp name op))
      (other.addTo name otherBatch (second.encodeOp name op)) := by
  refine ⟨?_, ?_, _, encodes.put op batch registered, otherEncodes.put op otherBatch
    otherRegistered⟩
  · rw [VfsState.view_addTo, VfsState.view_addTo, twins.view]
  · rw [VfsState.storeCalls_addTo, VfsState.storeCalls_addTo, twins.storeCalls]

private theorem related_callback {σ τ : Type} {rejected before : σ → τ → Prop}
    {body : Task σ JsValue (List JsValue)} {counterpart : Task τ JsValue (List JsValue)}
    (related : Related rejected before body counterpart
      (fun values others state other => values = others ∧ rejected state other)) :
    Related never before (callback body) (callback counterpart)
      (fun args otherArgs state other => args = otherArgs ∧ rejected state other) := by
  refine Related.catch (?_ : Related rejected _ _ _ _) fun thrown =>
    related_pure _ _ (fun _ _ holds => ⟨rfl, holds⟩)
  apply related.bind
  intro values others
  apply related_pure
  rintro state other ⟨rfl, holds⟩
  exact ⟨rfl, holds⟩

private theorem related_withBuffer {task counterpart : CallTask CallbackArgs} {buffer : Buffer}
    (final : Buffer → Buffer → Prop)
    (related : Related never
      (fun state other => CallTwins first second state other ∧ state.2 = buffer ∧
        other.2 = buffer) task counterpart
      (fun args otherArgs state other => args = otherArgs ∧ final state.2 other.2 ∧
        CallTwins first second state other)) :
    Related never (Twins first second) (withBuffer task buffer)
      (withBuffer counterpart buffer)
      (fun reply other state otherState => (reply.args = other.args ∧
        final reply.buffer other.buffer) ∧ Twins first second state otherState) := by
  refine (Related.withLocal (fun _ => final) related).bind ?_
  rintro ⟨args, lent⟩ ⟨otherArgs, otherLent⟩
  apply related_pure
  rintro state other ⟨sameArgs, holds, twins⟩
  exact ⟨⟨sameArgs, holds⟩, twins⟩

private theorem related_withoutBuffer {task counterpart : VfsTask CallbackArgs}
    (related : Related never (Twins first second) task counterpart
      (fun args otherArgs state other => args = otherArgs ∧ Twins first second state other)) :
    Related never (Twins first second) (withoutBuffer task)
      (withoutBuffer counterpart)
      (fun reply other state otherState => reply = other ∧
        Twins first second state otherState) := by
  apply related.bind
  intro args otherArgs
  apply related_pure
  rintro state other ⟨rfl, twins⟩
  exact ⟨rfl, twins⟩

section SameButOptions

variable (same : SameButOptions first second)

include same

theorem SameButOptions.codecsOther : second.runtime.LawfulCodecs :=
  same.runtime ▸ same.codecs

private theorem related_storeCall {α : Type} (before : VfsState → VfsState → Prop)
    (after : α → α → VfsState → VfsState → Prop) (op : StoreOp) (name : FileName)
    (target counterpart : VfsState → StoreRef) (action otherAction : VfsState → α × VfsState)
    (twins : ∀ state other, before state other → Twins first second state other)
    (yields : ∀ state other access otherAccess, before state other →
      Twins first second (state.record access) (other.record otherAccess) →
      after (action (state.record access)).1 (otherAction (other.record otherAccess)).1
        (action (state.record access)).2 (otherAction (other.record otherAccess)).2) :
    Related (Twins first second) before (first.storeCall op name target action)
      (second.storeCall op name counterpart otherAction) after := by
  intro state other holds
  have related := twins state other holds
  have sameFault : first.runtime.fault state.storeCalls =
      second.runtime.fault other.storeCalls := by
    rw [same.runtime, related.storeCalls]
  obtain ⟨failed, isFault, ran⟩ := run_storeCall_eq first op name target action state
  obtain ⟨otherFailed, isOtherFault, ranOther⟩ :=
    run_storeCall_eq second op name counterpart otherAction other
  rw [← sameFault, ← isFault] at isOtherFault
  subst isOtherFault
  rw [ran, ranOther]
  have recorded := related.record
    (.store op name (target state) state.view otherFailed)
    (.store op name (counterpart other) other.view otherFailed) rfl
  cases otherFailed with
  | true => exact ⟨by rw [same.runtime, related.storeCalls], recorded⟩
  | false => exact yields _ _ _ _ holds recorded

private theorem related_get (name : FileName) (index : Nat) :
    Related (Twins first second) (Twins first second) (first.get name index)
      (second.get name index)
      (fun page other state otherState => page = other ∧ Twins first second state otherState) := by
  unfold get
  rw [fetch_eq, fetch_eq]
  refine (related_storeCall same _ (fun value other state otherState =>
    Twins first second state otherState ∧
      ∃ page : Option Buffer, value = page.map first.pack ∧ other = page.map second.pack)
    .get name _ _ _ _ (fun _ _ twins => twins) ?_).bind ?_
  · intro state other access otherAccess _twins recorded
    obtain ⟨files, encodes, encodesOther⟩ := recorded.files
    exact ⟨recorded, (files name).committed.lookup index,
      decipher_stored same.codecs name index encodes,
      decipher_stored same.codecsOther name index encodesOther⟩
  · intro value other
    apply related_of_runs
    rintro state otherState ⟨twins, page, rfl, rfl⟩
    obtain ⟨files, encodes, encodesOther⟩ := twins.files
    obtain ⟨after, ran, quiet, kept⟩ := run_unpack_pack same.codecs page encodes
    obtain ⟨otherAfter, ranOther, quietOther, keptOther⟩ :=
      run_unpack_pack same.codecsOther page encodesOther
    exact ⟨_, _, _, _, ran, ranOther, rfl, twins.quiet quiet quietOther ⟨files, kept, keptOther⟩⟩

private theorem related_last (name : FileName) :
    Related (Twins first second) (Twins first second) (first.last name) (second.last name)
      (fun index other state otherState => index = other ∧
        Twins first second state otherState) := by
  rw [last_eq, last_eq]
  apply related_storeCall same
  · exact fun _ _ twins => twins
  · intro state other access otherAccess _twins recorded
    obtain ⟨files, encodes, encodesOther⟩ := recorded.files
    refine ⟨?_, recorded⟩
    rw [encodes.last, encodesOther.last]

private theorem related_tryPut (name : FileName) (index : Nat) (value : PageBuffer)
    (lent otherLent : Buffer) (samePage : value.bytes lent = value.bytes otherLent)
    (fits : ∀ start, value = .lent start → start + pageSize ≤ lent.length)
    (otherFits : ∀ start, value = .lent start → start + pageSize ≤ otherLent.length) :
    Related (CallTwins first second)
      (fun state other => CallTwins first second state other ∧ state.2 = lent ∧
        other.2 = otherLent)
      (first.tryPut name index value) (second.tryPut name index value)
      (fun _ _ state other => CallTwins first second state other ∧
        Untouched value lent state.2 ∧ Untouched value otherLent other.2) := by
  rintro ⟨state, held⟩ ⟨other, otherHeld⟩ ⟨twins, isLent, isOther⟩
  have sameState : (state, held) = (state, lent) := congrArg _ isLent
  have sameOther : (other, otherHeld) = (other, otherLent) := congrArg _ isOther
  obtain ⟨files, encodes, encodesOther⟩ := twins.files
  obtain ⟨batch, middle, lentAfter, ran, registered, quiet, kept, untouched⟩ :=
    run_tryPut_eq same.codecs name index value lent encodes fits
  obtain ⟨otherBatch, otherMiddle, otherLentAfter, ranOther, otherRegistered, quietOther,
    keptOther, otherUntouched⟩ :=
    run_tryPut_eq same.codecsOther name index value otherLent encodesOther otherFits
  rw [sameState, sameOther, ran, ranOther]
  refine ((related_storeCall same (fun state other => state = middle ∧ other = otherMiddle)
    (fun _ _ => Twins first second) .put name _ _ _ _ ?_ ?_).onShared
    (fun lent otherLent => lent = lentAfter ∧ otherLent = otherLentAfter)
    (middle, lentAfter) (otherMiddle, otherLentAfter) ⟨⟨rfl, rfl⟩, rfl, rfl⟩).mono ?_ ?_
  · rintro _ _ ⟨rfl, rfl⟩
    exact twins.quiet quiet quietOther ⟨_, kept, keptOther⟩
  · rintro _ _ access otherAccess ⟨rfl, rfl⟩ recorded
    rw [← samePage]
    exact recorded.addTo _ registered otherRegistered (kept.record access)
      (keptOther.record otherAccess)
  · exact fun _ _ holds => holds.1
  · rintro _ _ ⟨_, _⟩ ⟨_, _⟩ ⟨holds, rfl, rfl⟩
    exact ⟨holds, untouched, otherUntouched⟩

private theorem related_tryDelete (name : FileName) (index : Nat) :
    Related (Twins first second) (Twins first second) (first.tryDelete name index)
      (second.tryDelete name index) (fun _ _ => Twins first second) := by
  unfold tryDelete
  refine Related.bind (?_ : Related _ _ _ _ fun batch otherBatch state other =>
    state.files.lookup name = some batch ∧ other.files.lookup name = some otherBatch ∧
    Twins first second state other ∧ ∃ files : PageFiles,
      first.Encodes state (Function.update files name (opened (files name))) ∧
      second.Encodes other (Function.update files name (opened (files name)))) ?_
  · apply related_of_runs
    intro state other twins
    obtain ⟨files, encodes, encodesOther⟩ := twins.files
    obtain ⟨batch, after, ran, registered, quiet, kept⟩ := run_openBatch name encodes
    obtain ⟨otherBatch, otherAfter, ranOther, otherRegistered, quietOther, keptOther⟩ :=
      run_openBatch name encodesOther
    exact ⟨_, _, _, _, ran, ranOther, registered, otherRegistered,
      twins.quiet quiet quietOther ⟨_, kept, keptOther⟩, files, kept, keptOther⟩
  · intro batch otherBatch
    apply related_storeCall same
    · exact fun _ _ holds => holds.2.2.1
    · rintro state other access otherAccess ⟨registered, otherRegistered, _, files, kept, keptOther⟩
        recorded
      exact recorded.addTo (index, none) registered otherRegistered (kept.record access)
        (keptOther.record otherAccess)

private theorem related_flush (name : FileName) :
    Related (Twins first second) (Twins first second) (first.flush name) (second.flush name)
      (fun _ _ => Twins first second) := by
  intro state other twins
  obtain ⟨files, encodes, encodesOther⟩ := twins.files
  have pending := encodes.pending name
  have otherPending := encodesOther.pending name
  cases open_ : (files name).pending with
  | none =>
      rw [open_] at pending otherPending
      rw [run_flush_closed name pending, run_flush_closed name otherPending]
      exact ⟨rfl, twins⟩
  | some ops =>
      rw [open_] at pending otherPending
      obtain ⟨batch, registered, source, encoded⟩ := pending
      obtain ⟨otherBatch, otherRegistered, otherSource, otherEncoded⟩ := otherPending
      rw [run_flush_open name registered, run_flush_open name otherRegistered]
      refine related_storeCall same (fun before otherBefore =>
          before = state.unregister name ∧ otherBefore = other.unregister name)
        (fun _ _ => Twins first second) .flush name _ _ _ _ ?_ ?_ _ _ ⟨rfl, rfl⟩
      · rintro _ _ ⟨rfl, rfl⟩
        exact ⟨twins.view, twins.storeCalls, _, encodes.unregister name,
          encodesOther.unregister name⟩
      · rintro _ _ access otherAccess ⟨rfl, rfl⟩ recorded
        exact ⟨recorded.view, recorded.storeCalls, _, encodes.flush access source encoded,
          encodesOther.flush otherAccess otherSource otherEncoded⟩

private theorem related_readPage (name : FileName) (length offset index : Nat) :
    Related (SameLent first second) (SameLent first second)
      (first.readPage name length offset index) (second.readPage name length offset index)
      (fun _ _ => SameLent first second) := by
  unfold readPage
  simp only
  split
  · refine ((related_get same name index).onShared Eq).bind ?_
    rintro page other ⟨state, lent⟩ ⟨otherState, otherLent⟩ ⟨⟨rfl, twins⟩, sameLent⟩
    obtain rfl : lent = otherLent := sameLent
    exact ⟨twins, rfl⟩
  · exact related_pure () () (fun _ _ holds => holds)

private theorem related_writePage (name : FileName) (offset index : Nat) (handled : List Nat)
    (data : Buffer) (fresh : index ∉ handled)
    (touched : index ∈ Paging.pagesTouched pageSize offset data.length) :
    Related (CallTwins first second)
      (fun state other => CallTwins first second state other ∧
        Intact offset handled data state.2 ∧ Intact offset handled data other.2)
      (first.writePage name data.length offset index)
      (second.writePage name data.length offset index)
      (fun _ _ state other => CallTwins first second state other ∧
        Intact offset (handled ++ [index]) data state.2 ∧
        Intact offset (handled ++ [index]) data other.2) := by
  rw [Paging.mem_pagesTouched _ _ _ pageSize_pos] at touched
  rintro ⟨state, lent⟩ ⟨other, otherLent⟩ ⟨twins, intact, otherIntact⟩
  unfold writePage
  simp only at twins intact otherIntact ⊢
  generalize startsAt : max offset (index * pageSize) = writeStart
  generalize endsAt : min (offset + data.length) (index * pageSize + pageSize) = writeEnd
  have onPage (position : Nat) (lower : writeStart ≤ offset + position)
      (upper : offset + position < writeEnd) : (offset + position) / pageSize = index :=
    (Paging.page_eq_iff _ _ pageSize_pos).2 (by omega)
  have sameData (held : Buffer) (intactHeld : Intact offset handled data held) :=
    intactHeld.subarray fresh (writeStart - offset)
      (writeStart - offset + (writeEnd - writeStart)) (by omega)
      (fun position lower upper => onPage position (by omega) (by omega))
  by_cases covers : writeEnd - writeStart = pageSize
  · rw [if_pos covers, if_pos covers]
    rw [covers] at sameData
    have fits (held : Buffer) (intactHeld : Intact offset handled data held) :
        ∀ start, PageBuffer.lent (writeStart - offset) = .lent start →
          start + pageSize ≤ held.length := by
      intro start isLent
      cases isLent
      rw [intactHeld.1]
      omega
    have borrowed : ∀ position, Borrows (.lent (writeStart - offset)) position →
        (offset + position) / pageSize = index := by
      intro position borrowed
      rcases borrowed with ⟨start, isLent, lower, upper⟩
      cases isLent
      exact onPage position (by omega) (by omega)
    refine (related_tryPut same name index (.lent (writeStart - offset)) lent otherLent
      ((sameData lent intact).trans (sameData otherLent otherIntact).symm) (fits lent intact)
      (fits otherLent otherIntact) (state, lent) (other, otherLent) ⟨twins, rfl, rfl⟩).mono
      (fun _ _ holds => holds) ?_
    rintro _ _ after otherAfter ⟨kept, untouched, otherUntouched⟩
    exact ⟨kept, intact.step untouched borrowed, otherIntact.step otherUntouched borrowed⟩
  · rw [if_neg covers, if_neg covers]
    refine (((related_get same name index).onShared
      (fun held otherHeld => held = lent ∧ otherHeld = otherLent)).mono
      (fun _ _ holds => holds) (fun _ _ holds => holds.1) (fun _ _ _ _ holds => holds)).bind ?_
      (state, lent) (other, otherLent) ⟨twins, rfl, rfl⟩
    rintro page otherPage ⟨reading, held⟩ ⟨otherReading, otherHeld⟩
      ⟨⟨rfl, readTwins⟩, isLent, isOther⟩
    simp only at isLent isOther
    rw [isLent, isOther]
    simp only [run_bind, run_read, andThen_ok]
    rw [sameData _ intact, sameData _ otherIntact]
    refine (related_tryPut same name index (.own _) lent otherLent rfl
      (by intro start isLent; cases isLent) (by intro start isLent; cases isLent)
      (reading, lent) (otherReading, otherLent)
      ⟨readTwins, rfl, rfl⟩).mono (fun _ _ holds => holds) ?_
    rintro _ _ after otherAfter ⟨kept, untouched, otherUntouched⟩
    have borrowsNone : ∀ bytes position, Borrows (.own bytes) position →
        (offset + position) / pageSize = index := by
      intro bytes position borrowed
      rcases borrowed with ⟨start, isLent, _, _⟩
      cases isLent
    exact ⟨kept, intact.step untouched (borrowsNone _),
      otherIntact.step otherUntouched (borrowsNone _)⟩

/-! ### The operations -/

private theorem related_looking (name : FileName) (values : Int → List JsValue) :
    Related never (Twins first second)
      (callback do let index ← first.last name; pure (values index))
      (callback do let index ← second.last name; pure (values index))
      (fun args otherArgs state other => args = otherArgs ∧ Twins first second state other) := by
  apply related_callback
  apply (related_last same name).bind
  intro index other
  apply related_pure
  rintro state otherState ⟨rfl, twins⟩
  exact ⟨rfl, twins⟩

private theorem related_xSync (name : FileName) :
    Related never (Twins first second) (first.xSync name) (second.xSync name)
      (fun args otherArgs state other => args = otherArgs ∧ Twins first second state other) := by
  apply related_callback
  apply (related_flush same name).bind
  intro _ _
  exact related_pure _ _ (fun _ _ twins => ⟨rfl, twins⟩)

private theorem related_xDelete (name : FileName) :
    Related never (Twins first second) (first.xDelete name) (second.xDelete name)
      (fun args otherArgs state other => args = otherArgs ∧ Twins first second state other) := by
  apply related_callback
  apply (related_last same name).bind
  rintro index other state otherState ⟨rfl, twins⟩
  refine Related.bind (?_ : Related _ _ _ _ fun _ _ => Twins first second) ?_ state otherState
    twins
  · split
    · exact related_forEach (fun _ => Twins first second)
        (fun _ page _ => related_tryDelete same name page)
    · exact related_pure () () (fun _ _ holds => holds)
  · intro _ _
    apply (related_flush same name).bind
    intro _ _
    exact related_pure _ _ (fun _ _ holds => ⟨rfl, holds⟩)

private theorem related_xRead (name : FileName) (offset : Nat) (buffer : Buffer) :
    Related never
      (fun state other => CallTwins first second state other ∧ state.2 = buffer ∧
        other.2 = buffer)
      (first.xRead name offset) (second.xRead name offset)
      (fun args otherArgs state other => args = otherArgs ∧ state.2 = other.2 ∧
        CallTwins first second state other) := by
  refine (related_callback (?_ : Related (SameLent first second) _ _ _ _)).mono
    (fun _ _ holds => holds)
    (fun _ _ holds => holds) (fun _ _ _ _ holds => ⟨holds.1, holds.2.2, holds.2.1⟩)
  apply Related.afterRead buffer.length buffer.length
  · rintro state other ⟨_twins, isLent, isOther⟩
    exact ⟨congrArg _ isLent, congrArg _ isOther⟩
  · refine Related.bind ?_ fun _ _ => related_pure _ _ (fun _ _ holds => ⟨rfl, holds⟩)
    exact (related_forEach (fun _ => SameLent first second)
      (fun _ index _ => related_readPage same name buffer.length offset index)).mono
      (fun _ _ holds => ⟨holds.1, holds.2.1.trans holds.2.2.symm⟩) (fun _ _ holds => holds)
      (fun _ _ _ _ holds => holds)

private theorem related_writePages (name : FileName) (offset : Nat) (data : Buffer) :
    Related (CallTwins first second)
      (fun state other => CallTwins first second state other ∧
        Intact offset [] data state.2 ∧ Intact offset [] data other.2)
      (forEach (Paging.pagesTouched pageSize offset data.length)
        (first.writePage name data.length offset))
      (forEach (Paging.pagesTouched pageSize offset data.length)
        (second.writePage name data.length offset))
      (fun _ _ => CallTwins first second) := by
  refine (related_forEach (fun handled state other => CallTwins first second state other ∧
    Intact offset handled data state.2 ∧ Intact offset handled data other.2) ?_).mono
    (fun _ _ holds => holds) (fun _ _ holds => holds) (fun _ _ _ _ holds => holds.1)
  intro handled index reached
  obtain ⟨fresh, touched⟩ := Paging.next_page reached
  exact related_writePage same name offset index handled data fresh touched

private theorem related_xWrite (name : FileName) (offset : Nat) (data : Buffer) :
    Related never
      (fun state other => CallTwins first second state other ∧ state.2 = data ∧
        other.2 = data)
      (first.xWrite name offset) (second.xWrite name offset)
      (fun args otherArgs state other => args = otherArgs ∧ True ∧
        CallTwins first second state other) := by
  refine (related_callback ?_).mono (fun _ _ holds => holds) (fun _ _ holds => holds)
    (fun _ _ _ _ holds => ⟨holds.1, trivial, holds.2⟩)
  apply Related.afterRead data.length data.length
  · rintro state other ⟨_twins, isLent, isOther⟩
    exact ⟨congrArg _ isLent, congrArg _ isOther⟩
  · refine Related.bind ?_ fun _ _ => related_pure _ _ (fun _ _ holds => ⟨rfl, holds⟩)
    refine (related_writePages same name offset data).mono ?_ (fun _ _ holds => holds)
      (fun _ _ _ _ holds => holds)
    rintro ⟨state, _⟩ ⟨other, _⟩ ⟨twins, rfl, rfl⟩
    exact ⟨twins, ⟨rfl, fun _ _ _ => rfl⟩, rfl, fun _ _ _ => rfl⟩

private theorem related_growPages (name : FileName) (pages : List Nat) :
    Related (CallTwins first second) (CallTwins first second)
      (forEach pages fun page => first.tryPut name page (.own (Buffer.alloc pageSize)))
      (forEach pages fun page => second.tryPut name page (.own (Buffer.alloc pageSize)))
      (fun _ _ => CallTwins first second) := by
  refine related_forEach (fun _ => CallTwins first second) ?_
  rintro handled page _begins ⟨state, lent⟩ ⟨other, otherLent⟩ holds
  exact (related_tryPut same name page (.own (Buffer.alloc pageSize)) lent otherLent rfl
    (by intro start isLent; cases isLent) (by intro start isLent; cases isLent)
    (state, lent) (other, otherLent) ⟨holds, rfl, rfl⟩).mono
    (fun _ _ kept => kept) (fun _ _ _ _ kept => kept.1)

private theorem related_xTruncate (name : FileName) (size : Nat) :
    Related never (CallTwins first second)
      (first.xTruncate name size) (second.xTruncate name size)
      (fun args otherArgs state other => args = otherArgs ∧
        CallTwins first second state other) := by
  apply related_callback
  have looked : Related (CallTwins first second) (CallTwins first second)
      ((first.last name).onShared : CallTask Int) (second.last name).onShared
      (fun index other state otherState => index = other ∧
        CallTwins first second state otherState) :=
    ((related_last same name).onShared (fun _ _ => True)).mono
      (fun _ _ holds => ⟨holds, trivial⟩) (fun _ _ holds => holds.1) (fun _ _ _ _ holds => holds.1)
  apply looked.bind
  intro index otherIndex
  refine Related.bind (?_ : Related _ _ _ _ fun _ _ => CallTwins first second) fun _ _ =>
    related_pure _ _ (fun _ _ holds => ⟨rfl, holds⟩)
  rintro state other ⟨rfl, twins⟩
  refine (?_ : Related (CallTwins first second) (CallTwins first second) _ _ _) state other twins
  split
  · exact related_growPages same name _
  · split
    · exact related_throw _ (fun _ _ holds => holds)
    · exact related_pure () () (fun _ _ holds => holds)

/-- One call gives both callers the same outcome. -/
theorem related_perform (call : VfsCall) :
    Related never (Twins first second) (first.perform call) (second.perform call)
      (fun reply other state otherState => reply.outcome call = other.outcome call ∧
        Twins first second state otherState) := by
  have whole {task counterpart : VfsTask VfsReply} (related : Related never
      (Twins first second) task counterpart (fun reply other state otherState => reply = other ∧
        Twins first second state otherState)) :
      Related never (Twins first second) task counterpart
        (fun reply other state otherState => reply.outcome call = other.outcome call ∧
          Twins first second state otherState) := by
    refine related.mono (fun _ _ holds => holds) (fun _ _ holds => holds) ?_
    rintro reply other state otherState ⟨rfl, twins⟩
    exact ⟨rfl, twins⟩
  cases call with
  | xDelete name => exact whole (related_withoutBuffer (related_xDelete same name))
  | xAccess name =>
      exact whole (related_withoutBuffer (related_looking same name fun index =>
        [.bool (index ≥ 0)]))
  | xRead name buffer offset =>
      refine (related_withBuffer Eq (related_xRead same name offset buffer)).mono
        (fun _ _ holds => holds) (fun _ _ holds => holds) ?_
      rintro ⟨args, bytes⟩ ⟨_, _⟩ state other ⟨⟨rfl, rfl⟩, twins⟩
      exact ⟨rfl, twins⟩
  | xWrite name data offset =>
      refine (related_withBuffer (fun _ _ => True) (related_xWrite same name offset data)).mono
        (fun _ _ holds => holds) (fun _ _ holds => holds) ?_
      rintro ⟨args, lent⟩ ⟨_, _⟩ state other ⟨⟨rfl, _⟩, twins⟩
      exact ⟨rfl, twins⟩
  | xTruncate name size =>
      refine (related_withBuffer (fun _ _ => True)
        ((related_xTruncate same name size).mono (fun _ _ holds => holds.1)
          (fun _ _ holds => holds) (fun _ _ _ _ holds => ⟨holds.1, trivial, holds.2⟩))).mono
        (fun _ _ holds => holds) (fun _ _ holds => holds) ?_
      rintro ⟨args, lent⟩ ⟨_, _⟩ state other ⟨⟨rfl, _⟩, twins⟩
      exact ⟨rfl, twins⟩
  | xSync name => exact whole (related_withoutBuffer (related_xSync same name))
  | xSize name =>
      exact whole (related_withoutBuffer (related_looking same name fun index =>
        [.number ((index + 1) * pageSize)]))

private theorem related_performAll (calls : List VfsCall) :
    Related never (Twins first second) (first.performAll calls)
      (second.performAll calls)
      (fun outcomes others state otherState => outcomes = others ∧
        Twins first second state otherState) := by
  induction calls with
  | nil => exact related_pure _ _ (fun _ _ twins => ⟨rfl, twins⟩)
  | cons call calls ih =>
      apply (related_perform same call).bind
      intro reply other
      rintro state otherState ⟨sameOutcome, twins⟩
      refine ih.bind ?_ state otherState twins
      intro outcomes others
      apply related_pure
      rintro _ _ ⟨rfl, kept⟩
      exact ⟨by rw [sameOutcome], kept⟩

end SameButOptions

/-- In every run from empty stores, two instances with different options give the
same outcome at every call. -/
theorem performAll_sameOutcomes (same : SameButOptions first second) (view : Option Nat)
    (calls : List VfsCall) :
    ∃ outcomes,
      ((first.performAll calls).run
        { VfsState.initial (fun _ _ => ∅) with view := view }).1 = .ok outcomes ∧
      ((second.performAll calls).run
        { VfsState.initial (fun _ _ => ∅) with view := view }).1 = .ok outcomes := by
  have ends := related_performAll same calls { VfsState.initial (fun _ _ => ∅) with view := view }
    { VfsState.initial (fun _ _ => ∅) with view := view }
    ⟨rfl, rfl, _, encodes_empty first view, encodes_empty second view⟩
  generalize (first.performAll calls).run _ = outcome at ends ⊢
  generalize (second.performAll calls).run _ = other at ends ⊢
  obtain ⟨result, state⟩ := outcome
  obtain ⟨otherResult, otherState⟩ := other
  cases result <;> cases otherResult
  · exact ends.2.elim
  · exact ends.elim
  · exact ends.elim
  · exact ⟨_, rfl, congrArg _ ends.1.symm⟩

/-- A journal is written over the end of a page, read back, cut and deleted, compressed and
enciphered or neither, beside the main file. -/
theorem performAll_sameOutcomes_journal :
    let plain : ParaVFS := { ParaVFS.sample with runtime := .flipping }
    let sealed : ParaVFS :=
      { plain with encryption := some ⟨[1], [2]⟩, compressed := true }
    let journal : FileName := "paraql.db-journal"
    let calls : List VfsCall := [.xWrite journal [1, 2, 3] 4095, .xSync journal,
      .xWrite "paraql.db" [4] 0, .xSync "paraql.db", .xWrite journal [5] 4096, .xSync journal,
      .xRead journal [0, 0, 0] 4095, .xSize journal, .xTruncate journal 4096, .xAccess journal,
      .xDelete journal, .xSync journal]
    ∃ outcomes,
      ((sealed.performAll calls).run
        { VfsState.initial (fun _ _ => ∅) with view := none }).1 = .ok outcomes ∧
      ((plain.performAll calls).run
        { VfsState.initial (fun _ _ => ∅) with view := none }).1 = .ok outcomes := by
  intro plain sealed journal calls
  have same : SameButOptions sealed plain :=
    ⟨rfl, rfl, Runtime.flipping_lawful.toLawfulCodecs⟩
  exact performAll_sameOutcomes same none calls

end ParaVFS
end ParaQL
