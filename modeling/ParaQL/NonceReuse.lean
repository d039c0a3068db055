/-
Nonces of temporary files over a run of calls.

`_nonce` hashes the key, the name of the file and the index of the page, and nothing that
changes from one put of the page to the next.  The names and indexes of two pages can be
told apart in what is hashed, so a nonce comes again exactly with its page.
-/

import ParaQL.Async.Machine
import ParaQL.FlatFiles
import ParaQL.PagePuts

namespace ParaQL

open Async Async.Task Bytes

private theorem toList_loop (bytes : ByteArray) (position : Nat) (taken : List UInt8) :
    ByteArray.toList.loop bytes position taken =
      taken.reverse ++ bytes.data.toList.drop position := by
  fun_induction ByteArray.toList.loop bytes position taken with
  | case1 position taken inside ih =>
      have below : position < bytes.data.toList.length := by simpa using inside
      have here : bytes.get! position = bytes.data.toList[position] := by
        simp [ByteArray.get!, getElem!_pos, inside]
      rw [ih, List.reverse_cons, List.append_assoc, here, List.singleton_append,
        List.getElem_cons_drop]
  | case2 position taken outside =>
      rw [List.drop_eq_nil_of_le, List.append_nil]
      simpa using outside

private theorem utf8_injective {name other : String}
    (same : name.toUTF8.toList = other.toUTF8.toList) :
    name = other := by
  unfold ByteArray.toList at same
  rw [toList_loop, toList_loop] at same
  exact String.toByteArray_inj.1 (ByteArray.ext (Array.toList_inj.1 same))

/-- `c.uint64` encodes into eight bytes, and the numbers that fit are told apart. -/
structure Runtime.Uint64 (runtime : Runtime) : Prop where
  width : ∀ value, (runtime.uint64 value).length = 8
  separates : ∀ value other, value < 2 ^ 64 → other < 2 ^ 64 →
    runtime.uint64 value = runtime.uint64 other → value = other

namespace CipherUse

/-- What `_nonce` concatenates. -/
def hashed (use : CipherUse) (vfs : ParaVFS) (encryption : Encryption) : Buffer :=
  encryption.key ++ use.filename.toUTF8.toList ++ vfs.runtime.uint64 use.index

variable {vfs : ParaVFS} {encryption : Encryption}

private theorem hashed_injective (uint64 : vfs.runtime.Uint64) {use other : CipherUse}
    (bound : use.index < 2 ^ 64) (otherBound : other.index < 2 ^ 64)
    (same : use.hashed vfs encryption = other.hashed vfs encryption) :
    use.filename = other.filename ∧ use.index = other.index := by
  have widths : (vfs.runtime.uint64 use.index).length = (vfs.runtime.uint64 other.index).length :=
    (uint64.width _).trans (uint64.width _).symm
  obtain ⟨names, indexes⟩ := List.append_inj' same widths
  exact ⟨utf8_injective (List.append_cancel_left names),
    uint64.separates _ _ bound otherBound indexes⟩

end CipherUse

section Traces

variable (vfs : ParaVFS) (uses : List CipherUse)

/-- Different pages have different nonces. -/
def NoncesDiffer : Prop :=
  ∀ encryption, vfs.encryption = some encryption → ∀ use ∈ uses, ∀ other ∈ uses,
    use.page ≠ other.page → use.nonce vfs encryption ≠ other.nonce vfs encryption

/-- `crypto_generichash` is injective on the inputs of a trace. -/
def CollisionFree : Prop :=
  ∀ encryption, vfs.encryption = some encryption → ∀ use ∈ uses, ∀ other ∈ uses,
    vfs.runtime.generichash (use.hashed vfs encryption) =
      vfs.runtime.generichash (other.hashed vfs encryption) →
        use.hashed vfs encryption = other.hashed vfs encryption

def SamePages : Prop :=
  ∀ use ∈ uses, ∀ other ∈ uses, use.filename = other.filename → use.index = other.index →
    use.page = other.page

/-- The indexes are numbers that `c.uint64` tells apart. -/
def Encodable : Prop := ∀ use ∈ uses, use.index < 2 ^ 64

end Traces

private theorem noncesDiffer_iff {vfs : ParaVFS} {encryption : Encryption}
    (encrypted : vfs.encryption = some encryption) (uint64 : vfs.runtime.Uint64)
    {uses : List CipherUse} (collisionFree : CollisionFree vfs uses)
    (encodable : Encodable uses) : NoncesDiffer vfs uses ↔ SamePages uses := by
  constructor
  · intro differ use member other otherMember sameName sameIndex
    by_contra different
    apply differ encryption encrypted use member other otherMember different
    unfold CipherUse.nonce
    rw [sameName, sameIndex]
  · intro same encryption encrypted use member other otherMember different sameNonce
    obtain ⟨sameName, sameIndex⟩ := CipherUse.hashed_injective uint64 (encodable use member)
      (encodable other otherMember)
      (collisionFree encryption encrypted use member other otherMember sameNonce)
    exact different (same use member other otherMember sameName sameIndex)

/-- Native arguments: an `int` length, and `sqlite3_int64` offsets and sizes. -/
def VfsCall.Native : VfsCall → Prop
  | .xWrite _ buffer offset => buffer.length < 2 ^ 31 ∧ offset < 2 ^ 63
  | .xTruncate _ size => size < 2 ^ 63
  | _ => True

namespace ParaVFS

variable (vfs : ParaVFS)

def traceStep (state : TracedState) (call : VfsCall) : Option TracedState :=
  some ((Traced.perform vfs call).run state).2

/-- Without the trace, a step is the call. -/
theorem traceStep_forgets {traced next : TracedState} {call : VfsCall}
    (stepped : vfs.traceStep traced call = some next) :
    next.1 = ((vfs.perform call).run traced.1).2 := by
  cases stepped
  exact ((Traced.perform_erases call).run_eq traced).2

/-- The trace grows by what the call enciphers. -/
theorem traceStep_grows {vfs : ParaVFS}
    (sameLength : ∀ nonce key message,
      (vfs.runtime.streamXor nonce key message).length = message.length)
    {traced next : TracedState} {call : VfsCall}
    (stepped : vfs.traceStep traced call = some next) :
    next.2 = traced.2 ++ vfs.ciphered traced.1 call := by
  cases stepped
  exact perform_ciphers sameLength call traced.1 traced.2

/-- What the call enciphers is, page by page, what has been enciphered there before. -/
def Repeats (state : TracedState) (call : VfsCall) : Prop :=
  ∀ use ∈ vfs.ciphered state.1 call, ∀ earlier ∈ state.2, earlier.filename = use.filename →
    earlier.index = use.index → earlier.page = use.page

variable {vfs}

private theorem ciphered_samePages (state : VfsState) (call : VfsCall) :
    SamePages (vfs.ciphered state call) := by
  intro use member other otherMember _sameName sameIndex
  obtain ⟨put, reached, rfl⟩ := mem_ciphered member
  obtain ⟨otherPut, otherReached, rfl⟩ := mem_ciphered otherMember
  have same : put = otherPut :=
    List.inj_on_of_nodup_map (putsOf_nodup state call) reached otherReached sameIndex
  rw [same]

private theorem ciphered_encodable (state : VfsState) {call : VfsCall} (native : call.Native) :
    Encodable (vfs.ciphered state call) := by
  intro use member
  obtain ⟨put, reached, rfl⟩ := mem_ciphered member
  change put.index < 2 ^ 64
  cases call with
  | xWrite name data offset =>
      obtain ⟨shortData, inRange⟩ := native
      obtain ⟨index, touched, rfl⟩ := List.mem_map.1 ((putsReached_sublist _ _ _ _).subset reached)
      rw [Paging.mem_pagesTouched _ _ _ pageSize_pos] at touched
      change index < 2 ^ 64
      unfold pageSize at touched
      omega
  | xTruncate name size =>
      unfold putsOf at reached
      simp only at reached
      split at reached
      · split at reached
        · obtain ⟨index, grown, rfl⟩ :=
            List.mem_map.1 ((putsReached_sublist _ _ _ _).subset reached)
          have lower := Pages.last_ge (state.stores .tmp name)
          change size < 2 ^ 63 at native
          rw [List.mem_range'_1] at grown
          change index < 2 ^ 64
          unfold pageSize at grown
          omega
        · cases reached
      · cases reached
  | _ => cases reached

/-- The trace keeps to its pages exactly when the call does. -/
theorem samePages_append_iff {uses : List CipherUse} (same : SamePages uses) (state : VfsState)
    (call : VfsCall) :
    SamePages (uses ++ vfs.ciphered state call) ↔ vfs.Repeats (state, uses) call := by
  constructor
  · intro whole use member earlier earlierMember sameName sameIndex
    exact whole earlier (List.mem_append_left _ earlierMember) use
      (List.mem_append_right _ member) sameName sameIndex
  · intro repeats use member other otherMember sameName sameIndex
    rcases List.mem_append.1 member with early | now <;>
      rcases List.mem_append.1 otherMember with otherEarly | otherNow
    · exact same use early other otherEarly sameName sameIndex
    · exact repeats other otherNow use early sameName sameIndex
    · exact (repeats use now other otherEarly sameName.symm sameIndex.symm).symm
    · exact ciphered_samePages state call use now other otherNow sameName sameIndex

def uint64Bytes (value : Nat) : Buffer :=
  (List.range 8).map fun place => UInt8.ofNat (value / 256 ^ place)

def sealing : ParaVFS :=
  { flipping with runtime := { flipping.runtime with uint64 := uint64Bytes } }

private theorem eq_of_digits {value other : Nat} (places : Nat) (bound : value < 256 ^ places)
    (otherBound : other < 256 ^ places) (same : ∀ place, place < places →
      value / 256 ^ place % 256 = other / 256 ^ place % 256) : value = other := by
  induction places generalizing value other with
  | zero =>
      rw [Nat.pow_zero] at bound otherBound
      omega
  | succ places ih =>
      have quotients : value / 256 = other / 256 := by
        apply ih
        · exact Nat.div_lt_of_lt_mul (Nat.pow_succ' ▸ bound)
        · exact Nat.div_lt_of_lt_mul (Nat.pow_succ' ▸ otherBound)
        · intro place below
          rw [Nat.div_div_eq_div_mul, Nat.div_div_eq_div_mul, ← Nat.pow_succ']
          exact same (place + 1) (Nat.succ_lt_succ below)
      have digits := same 0 (Nat.succ_pos places)
      rw [Nat.pow_zero, Nat.div_one, Nat.div_one] at digits
      omega

private theorem uint64Bytes_injective {value other : Nat} (bound : value < 2 ^ 64)
    (otherBound : other < 2 ^ 64) (same : uint64Bytes value = uint64Bytes other) :
    value = other := by
  apply eq_of_digits 8 bound otherBound
  intro place inside
  have sameByte := congrArg (fun bytes => (bytes.getD place 0).toNat) same
  simpa [uint64Bytes, inside] using sameByte

private theorem sealing_uint64 : sealing.runtime.Uint64 where
  width _ := rfl
  separates _ _ := uint64Bytes_injective

/-- A whole page of a temporary file is enciphered as it is. -/
theorem sealing_ciphers (state : VfsState) {name : FileName} (temporary : name ≠ "paraql.db")
    {data : Buffer} (full : data.length = pageSize) :
    sealing.ciphered state (.xWrite name data 0) =
      [{ page := data, filename := name, index := 0 }] := by
  have pages : Paging.pagesTouched pageSize 0 data.length = [0] := by
    rw [full]
    rfl
  have covers : min (0 + data.length) (0 * pageSize + pageSize) - max 0 (0 * pageSize) =
      pageSize := by
    rw [full]
    rfl
  have whole : data.subarray 0 pageSize = data := by
    rw [Buffer.subarray, List.drop_zero, List.take_of_length_le (Nat.le_of_eq full)]
  have isPage (base : Buffer) : Paging.patchPage pageSize 0 data 0 base = data :=
    (if_pos covers).trans whole
  have plain : ¬sealing.compressed = true := Bool.false_ne_true
  have reached : sealing.putsOf state (.xWrite name data 0) =
      [sealing.writePut name (state.stores .tmp name) data 0 0] := by
    change sealing.putsReached _ _ _
      (List.map _ (Paging.pagesTouched pageSize 0 data.length)) = _
    rw [pages]
    exact putsReached_eq ⟨fun _ => rfl, fun _ => rfl⟩ plain _ _ _ _
  have isUse (put : PagePut) : sealing.putUse name put =
      { page := put.page, filename := name, index := put.index } := rfl
  have enciphers :
      (sealing.pageEncryption (VfsCall.xWrite name data 0).file).isSome = true := by
    change (sealing.pageEncryption name).isSome = true
    unfold pageEncryption
    rw [if_pos (show name ≠ sealing.name from temporary)]
    rfl
  unfold ciphered
  rw [reached, if_pos enciphers]
  change [sealing.putUse name _] = _
  rw [isUse, writePut, isPage]

/-! ### Nonces over a run -/

/-- Over a run of calls on an encrypted instance, different pages have different nonces at every
time exactly when no call enciphers a page again that has changed. -/
theorem nonces_differ_iff (vfs : ParaVFS) {encryption : Encryption}
    (encrypted : vfs.encryption = some encryption) (uint64 : vfs.runtime.Uint64)
    (sameLength : ∀ nonce key message,
      (vfs.runtime.streamXor nonce key message).length = message.length)
    (state : VfsState) (calls : List VfsCall) (native : ∀ call ∈ calls, call.Native)
    (collisionFree : Machine.Always vfs.traceStep (fun traced => CollisionFree vfs traced.2)
      (state, []) calls) :
    Machine.Always vfs.traceStep (fun traced => NoncesDiffer vfs traced.2) (state, []) calls ↔
      Machine.Heeds vfs.traceStep vfs.Repeats (state, []) calls := by
  have grows (traced next : TracedState) (call : VfsCall)
      (stepped : vfs.traceStep traced call = some next) :
      next.2 = traced.2 ++ vfs.ciphered traced.1 call := traceStep_grows sameLength stepped
  have encodable : Machine.Always vfs.traceStep (fun traced => Encodable traced.2) (state, [])
      calls := by
    refine Machine.always_of_keeps ?_ (fun _ member => absurd member List.not_mem_nil) native
    intro traced call next known isNative stepped use member
    rw [grows traced next call stepped] at member
    exact (List.mem_append.1 member).elim (known use)
      (ciphered_encodable traced.1 isNative use)
  rw [Machine.always_congr (collisionFree.and encodable) fun traced known =>
    noncesDiffer_iff encrypted uint64 known.1 known.2]
  refine Machine.always_iff_heeds (fun _ same => same) ?_ ?_
    (fun _ member => absurd member List.not_mem_nil) calls
  · intro traced call next same repeats stepped
    rw [grows traced next call stepped]
    exact (samePages_append_iff same traced.1 call).2 repeats
  · intro traced call next same changes stepped
    rw [grows traced next call stepped]
    exact fun whole => changes ((samePages_append_iff same traced.1 call).1 whole)

/-- A page that is written to a temporary file, before other calls. -/
private theorem repeats_write {traced : TracedState} {name : FileName}
    (temporary : name ≠ "paraql.db") {data : Buffer} (full : data.length = pageSize)
    (repeats : ∀ earlier ∈ traced.2, earlier.filename = name → earlier.index = 0 →
      earlier.page = data) {calls : List VfsCall}
    (later : ∀ next : TracedState,
      next.2 = traced.2 ++ [{ page := data, filename := name, index := 0 }] →
        Machine.Heeds sealing.traceStep sealing.Repeats next calls) :
    Machine.Heeds sealing.traceStep sealing.Repeats traced (.xWrite name data 0 :: calls) := by
  intro next stepped
  have grown := traceStep_grows (fun _ _ _ => List.length_map _) stepped
  rw [sealing_ciphers traced.1 temporary full] at grown
  refine ⟨fun use member earlier known sameName sameIndex => ?_, later next grown⟩
  rw [sealing_ciphers traced.1 temporary full] at member
  obtain rfl := List.mem_singleton.1 member
  exact repeats earlier known sameName sameIndex

/-- Pages of two temporary files, one of which is written again as it was, and of the database
file, which is changed. -/
theorem nonces_differ_iff_sealing :
    Machine.Always sealing.traceStep (fun traced => NoncesDiffer sealing traced.2)
      (.initial fun _ _ => ∅, [])
      [.xWrite "paraql.db-journal" (Buffer.alloc pageSize) 0,
        .xWrite "paraql.db-mj" (List.replicate pageSize 1) 0, .xSync "paraql.db-journal",
        .xWrite "paraql.db-journal" (Buffer.alloc pageSize) 0, .xWrite "paraql.db" [1] 0,
        .xWrite "paraql.db" [2] 0] := by
  refine (nonces_differ_iff sealing rfl sealing_uint64 (fun _ _ _ => List.length_map _) _ _ ?_
    ?_).2 ?_
  · intro call member
    simp only [List.mem_cons, List.not_mem_nil, or_false] at member
    have small : pageSize < 2 ^ 31 := by decide
    have start : 0 < 2 ^ 63 := by decide
    rcases member with rfl | rfl | rfl | rfl | rfl | rfl
    · exact ⟨(Buffer.length_alloc _).trans_lt small, start⟩
    · exact ⟨List.length_replicate.trans_lt small, start⟩
    · exact trivial
    · exact ⟨(Buffer.length_alloc _).trans_lt small, start⟩
    · exact ⟨by decide, start⟩
    · exact ⟨by decide, start⟩
  · exact Machine.always_of_keeps (fun _ _ _ _ _ _ _ _ _ _ _ _ same => same)
      (fun _ _ _ _ _ _ same => same) fun _ _ => trivial
  · refine repeats_write (by decide) (Buffer.length_alloc _)
      (fun _ known => absurd known List.not_mem_nil) fun first isFirst => ?_
    refine repeats_write (by decide) List.length_replicate ?_ fun second isSecond => ?_
    · intro earlier known sameName
      rw [isFirst, List.nil_append, List.mem_singleton] at known
      rw [known] at sameName
      exact absurd sameName (by decide)
    intro third stepped
    refine ⟨fun _ member => absurd member List.not_mem_nil, ?_⟩
    have isThird := traceStep_grows (fun _ _ _ => List.length_map _) stepped
    rw [show sealing.ciphered second.1 (.xSync "paraql.db-journal") = [] from rfl,
      List.append_nil, isSecond, isFirst] at isThird
    refine repeats_write (by decide) (Buffer.length_alloc _) ?_ fun fourth _ => ?_
    · intro earlier known sameName _
      rw [isThird, List.nil_append, List.mem_append, List.mem_singleton, List.mem_singleton]
        at known
      rcases known with rfl | rfl
      · rfl
      · exact absurd sameName (by decide)
    intro fifth _
    refine ⟨fun _ member => absurd member List.not_mem_nil, fun last _ => ?_⟩
    exact ⟨fun _ member => absurd member List.not_mem_nil, trivial⟩

/-- A page of the journal that is written twice. -/
theorem rewrite_reuses_nonce :
    sealing.runtime.Uint64 ∧ Function.Injective sealing.runtime.generichash ∧
      ¬Machine.Always sealing.traceStep (fun traced => NoncesDiffer sealing traced.2)
        (.initial fun _ _ => ∅, [])
        [.xWrite "paraql.db-journal" (Buffer.alloc pageSize) 0,
          .xWrite "paraql.db-journal" (List.replicate pageSize 1) 0] := by
  refine ⟨sealing_uint64, fun _ _ same => same, fun always => ?_⟩
  have writes (traced : TracedState) {data : Buffer} (full : data.length = pageSize) :
      ((Traced.perform sealing (.xWrite "paraql.db-journal" data 0)).run traced).2.2 =
        traced.2 ++ [{ page := data, filename := "paraql.db-journal", index := 0 }] := by
    rw [← sealing_ciphers traced.1 (by decide) full]
    exact perform_ciphers (fun _ _ _ => List.length_map _) _ traced.1 traced.2
  have differ : NoncesDiffer sealing ((Traced.perform sealing
      (.xWrite "paraql.db-journal" (List.replicate pageSize 1) 0)).run
        ((Traced.perform sealing (.xWrite "paraql.db-journal" (Buffer.alloc pageSize) 0)).run
          (.initial fun _ _ => ∅, [])).2).2.2 := (always.2 _ rfl).2 _ rfl
  rw [writes _ List.length_replicate, writes _ (Buffer.length_alloc pageSize)] at differ
  refine differ _ rfl _ List.mem_cons_self _ (List.mem_cons_of_mem _ List.mem_cons_self) ?_ rfl
  intro same
  have firstByte := congrArg (fun page => page.byteAt 0) same
  revert firstByte
  decide

end ParaVFS
end ParaQL
