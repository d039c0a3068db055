/-
What a bind request acquires and releases until its promise is settled.

Beside the matching of the arguments runs a trace: the two references, the memory of
every parsed value and of its text, the array slots that are filled and read, and the
promise.  The request has an exit at every placeholder, two after the loop and three in
the worker, and each cleans up by itself.
-/

import ParaQL.ParameterMatching
import ParaQL.Traces.Resources

namespace ParaQL

open Traces

inductive BindReference where
  | named
  | positional
  deriving DecidableEq, Repr

inductive BindEvent where
  | createReference (reference : BindReference)
  | deleteReference (reference : BindReference)
  -- The `malloc` of `paraql__parse_value`, for the value of a slot.
  | allocate (slot : Nat)
  | copyText (slot : Nat)
  | fill (slot : Nat)
  | read (slot : Nat)
  | freeText (slot : Nat)
  | freeValue (slot : Nat)
  | settle (rejected : Bool)
  deriving DecidableEq, Repr

namespace BindEvent

def acquires : BindEvent → Bool
  | .allocate _ | .copyText _ | .fill _ => true
  | _ => false

def releases : BindEvent → Bool
  | .read _ | .freeText _ | .freeValue _ => true
  | _ => false

def settles : BindEvent → Bool
  | .settle _ => true
  | _ => false

end BindEvent

abbrev BindTrace := List BindEvent

/-- `req->values`. -/
abbrev BindSlots := List (Option BoundValue)

/-- What `paraql_bind` creates. -/
def createBind : BindTrace := [.createReference .named, .createReference .positional]

def releaseSlot (values : BindSlots) (slot : Nat) : BindTrace :=
  match values[slot]? with
  | some (some (.text _)) => [.read slot, .freeText slot, .freeValue slot]
  | some (some _) => [.read slot, .freeValue slot]
  | _ => [.read slot]

def cancelBindTrace (values : BindSlots) (index : Nat) : BindTrace :=
  (List.range index).flatMap (releaseSlot values) ++ [.settle true]

def freeBindValues (values : BindSlots) (start : Nat) : BindTrace :=
  (List.range' start (values.length - start)).flatMap (releaseSlot values)

/-- `paraql__on_after_bind`, and the exit of `paraql__on_after_parse` with an error. -/
def settleBind (rejected : Bool) : BindTrace :=
  [.deleteReference .named, .deleteReference .positional, .settle rejected]

/-- The loop of `paraql__on_before_bind`.  A value is freed once it is bound. -/
def workerFrom (status : BindCall → Int) (values : BindSlots) (i : Nat) : Nat → BindTrace
  | 0 => []
  | remaining + 1 =>
      releaseSlot values (i - 1) ++
        match values[i - 1]? with
        | some (some value) =>
            if status ⟨i, value⟩ ≠ 0 then freeBindValues values i
            else workerFrom status values (i + 1) remaining
        | _ => []

def workerTrace (status : BindCall → Int) (isOpen : Bool) (values : BindSlots) : BindTrace :=
  if isOpen then workerFrom status values 1 values.length else freeBindValues values 0

def bindFails (status : BindCall → Int) (isOpen : Bool) (values : BindSlots) : Bool :=
  match onBeforeBind status isOpen values with
  | some work => work.errcode ≠ 0
  | none => false

namespace BindRequest

variable {Key : Type} [DecidableEq Key] (keys : KeyText Key) (request : BindRequest Key)

def lookupArgument (cursor : Cursor) (i : Nat) : Option JsArgument :=
  match request.names[i]? with
  | none => none
  | some none => request.positional[cursor.posIdx]?
  | some (some name) => request.named.bind fun object => getNamed keys object name

/-- `paraql__parse_value`, and the assignment of its result.  What it has allocated stays
where it returns NULL. -/
def parseEvents (slot : Nat) (argument : JsArgument) : BindTrace :=
  match parseSupported argument with
  | .ok (.text _) => [.allocate slot, .copyText slot, .fill slot]
  | .ok _ => [.allocate slot, .fill slot]
  | .error _ => [.allocate slot]

def placeholderEvents (cursor : Cursor) (i : Nat) : BindTrace :=
  match request.lookupArgument keys cursor i with
  | some argument => parseEvents i argument
  | none => []

/-- Where the first loop of `paraql__on_after_parse` halts. -/
structure Stop where
  halt : Halt
  values : BindSlots
  index : Nat

/-- The first loop of `paraql__on_after_parse`, from a placeholder on. -/
def matchFrom (cursor : Cursor) (i : Nat) : Nat → BindTrace × Except Stop Cursor
  | 0 => ([], .ok cursor)
  | remaining + 1 =>
      match request.bindPlaceholder keys cursor i with
      | .error halt =>
          (request.placeholderEvents keys cursor i,
            .error { halt := halt, values := cursor.values, index := i })
      | .ok next =>
          (request.placeholderEvents keys cursor i ++ (matchFrom next (i + 1) remaining).1,
            (matchFrom next (i + 1) remaining).2)

def noValues : Cursor := { values := List.replicate request.names.length none, posIdx := 0 }

/-- `paraql__on_after_parse` without an error, and the values that it queues.  Nothing
follows an assertion that fails. -/
def afterParseTrace : BindTrace × Option BindSlots :=
  let (events, outcome) := request.matchFrom keys request.noValues 0 request.names.length
  match outcome with
  | .error stop =>
      match stop.halt with
      | .thrown _ => (events ++ cancelBindTrace stop.values stop.index, none)
      | .asserted => (events, none)
  | .ok cursor =>
      if cursor.posIdx < request.positional.length then
        (events ++ cancelBindTrace cursor.values request.names.length, none)
      else if request.unknownKey keys then
        (events ++ cancelBindTrace cursor.values request.names.length, none)
      else (events, some cursor.values)

/-- The path of a request from `paraql_bind` on.  The statement may be finalized before
either task of the worker. -/
def bindTrace (openAtParse openAtBind : Bool) (status : BindCall → Int) : BindTrace :=
  createBind ++
    if openAtParse then
      match request.afterParseTrace keys with
      | (events, none) => events
      | (events, some values) =>
          events ++ workerTrace status openAtBind values ++
            settleBind (bindFails status openAtBind values)
    else settleBind true

end BindRequest

/-- Everything the request has acquired is released once, no slot is read before it is
filled, and the promise is settled once. -/
structure Accounted (trace : BindTrace) : Prop where
  created : ∀ reference, trace.count (.createReference reference) = 1
  deleted : ∀ reference, trace.count (.deleteReference reference) = 1
  values : ∀ slot, Released (.allocate slot) (.freeValue slot) trace
  texts : ∀ slot, Released (.copyText slot) (.freeText slot) trace
  reads : ∀ slot, Precedes (.fill slot) (.read slot) trace
  settled : trace.countP BindEvent.settles = 1

private theorem releaseSlot_releases {values : BindSlots} {slot : Nat} {event : BindEvent}
    (member : event ∈ releaseSlot values slot) : event.releases = true := by
  unfold releaseSlot at member
  split at member <;> simp only [List.mem_cons, List.not_mem_nil, or_false] at member
  · rcases member with rfl | rfl | rfl <;> rfl
  · rcases member with rfl | rfl <;> rfl
  · rw [member]
    rfl

private theorem releaseSlots_release {values : BindSlots} {slots : List Nat} {event : BindEvent}
    (member : event ∈ slots.flatMap (releaseSlot values)) : event.releases = true := by
  obtain ⟨slot, _, here⟩ := List.mem_flatMap.1 member
  exact releaseSlot_releases here

private theorem cancelBindTrace_kinds {values : BindSlots} {index : Nat} {event : BindEvent}
    (member : event ∈ cancelBindTrace values index) :
    event.releases = true ∨ event.settles = true := by
  rcases List.mem_append.1 member with release | last
  · exact Or.inl (releaseSlots_release release)
  · rw [List.mem_singleton.1 last]
    exact Or.inr rfl

/-- The loop and its two exits go through the same slots in the same way. -/
theorem workerFrom_eq (status : BindCall → Int) {values : BindSlots}
    (filled : ∀ slot, slot < values.length → ∃ value, values[slot]? = some (some value))
    (i remaining : Nat) (ends : i + remaining = values.length) :
    workerFrom status values (i + 1) remaining =
      (List.range' i remaining).flatMap (releaseSlot values) := by
  induction remaining generalizing i with
  | zero => rfl
  | succ remaining ih =>
      obtain ⟨value, here⟩ := filled i (by omega)
      rw [workerFrom, Nat.add_sub_cancel, here, List.range'_succ, List.flatMap_cons]
      congr 1
      simp only
      split
      · rw [freeBindValues, show values.length - (i + 1) = remaining by omega]
      · exact ih (i + 1) (by omega)

private theorem workerTrace_eq (status : BindCall → Int) (isOpen : Bool) {values : BindSlots}
    (filled : ∀ slot, slot < values.length → ∃ value, values[slot]? = some (some value)) :
    workerTrace status isOpen values =
      (List.range values.length).flatMap (releaseSlot values) := by
  rw [List.range_eq_range']
  unfold workerTrace
  split
  · exact workerFrom_eq status filled 0 values.length (Nat.zero_add _)
  · rfl

namespace BindRequest

variable {Key : Type} [DecidableEq Key] {keys : KeyText Key} {request : BindRequest Key}

private theorem lookupArgument_eq {i : Nat} {cursor : Cursor}
    (filled : request.Filled keys i cursor) :
    request.lookupArgument keys cursor i = request.argumentAt keys i := by
  unfold lookupArgument argumentAt
  cases request.names[i]? with
  | none => rfl
  | some name =>
      cases name with
      | none => exact congrArg (fun index => request.positional[index]?) filled.posIdx
      | some name => rfl

def slotEvents (keys : KeyText Key) (request : BindRequest Key) (slot : Nat) : BindTrace :=
  match request.argumentAt keys slot with
  | some argument => parseEvents slot argument
  | none => []

private theorem parseEvents_acquire {slot : Nat} {argument : JsArgument} {event : BindEvent}
    (member : event ∈ parseEvents slot argument) : event.acquires = true := by
  unfold parseEvents at member
  split at member <;> simp only [List.mem_cons, List.not_mem_nil, or_false] at member
  · rcases member with rfl | rfl | rfl <;> rfl
  · rcases member with rfl | rfl <;> rfl
  · rw [member]
    rfl

private theorem placeholderEvents_acquire {cursor : Cursor} {i : Nat} {event : BindEvent}
    (member : event ∈ request.placeholderEvents keys cursor i) : event.acquires = true := by
  unfold placeholderEvents at member
  split at member
  · exact parseEvents_acquire member
  · cases member

private theorem matchFrom_acquire {cursor : Cursor} {i remaining : Nat} {event : BindEvent}
    (member : event ∈ (request.matchFrom keys cursor i remaining).1) : event.acquires = true := by
  induction remaining generalizing cursor i with
  | zero => cases member
  | succ remaining ih =>
      unfold matchFrom at member
      split at member
      · exact placeholderEvents_acquire member
      · rcases List.mem_append.1 member with here | later
        · exact placeholderEvents_acquire here
        · exact ih later

/-- The trace does not change where the loop gets to. -/
theorem matchFrom_ok_iff {cursor final : Cursor} {i remaining : Nat} :
    (request.matchFrom keys cursor i remaining).2 = .ok final ↔
      (List.range' i remaining).foldlM (request.bindPlaceholder keys) cursor = .ok final := by
  induction remaining generalizing cursor i with
  | zero =>
      simp only [matchFrom, List.range'_zero, List.foldlM_nil, pure, Except.pure, Except.ok.injEq]
  | succ remaining ih =>
      rw [List.range'_succ, List.foldlM_cons, bind_eq_ok]
      unfold matchFrom
      cases round : request.bindPlaceholder keys cursor i with
      | error halt => simp
      | ok next =>
          simp only [Except.ok.injEq, exists_eq_left']
          exact ih

/-- A loop that runs through has acquired what every placeholder asks for. -/
theorem matchFrom_events {cursor final : Cursor} {i remaining : Nat}
    (filled : request.Filled keys i cursor) (within : i + remaining ≤ request.names.length)
    (ran : (request.matchFrom keys cursor i remaining).2 = .ok final) :
    (request.matchFrom keys cursor i remaining).1 =
      (List.range' i remaining).flatMap (request.slotEvents keys) := by
  induction remaining generalizing cursor i with
  | zero => rfl
  | succ remaining ih =>
      have here : request.placeholderEvents keys cursor i = request.slotEvents keys i := by
        rw [placeholderEvents, lookupArgument_eq filled, slotEvents]
      rw [List.range'_succ, List.flatMap_cons, ← here]
      unfold matchFrom at ran ⊢
      cases round : request.bindPlaceholder keys cursor i with
      | error halt =>
          rw [round] at ran
          cases ran
      | ok next =>
          rw [round] at ran
          obtain ⟨argument, value, isArgument, parsed, rfl⟩ :=
            (bindPlaceholder_iff filled (by omega)).1 round
          have later := ih (filled.next (by omega) isArgument parsed rfl) (by omega) ran
          exact congrArg (request.placeholderEvents keys cursor i ++ ·) later

private theorem matchFrom_names_ok_iff {final : Cursor} :
    (request.matchFrom keys request.noValues 0 request.names.length).2 = .ok final ↔
      request.bindPlaceholders keys request.names.length = .ok final := by
  rw [matchFrom_ok_iff, bindPlaceholders, List.range_eq_range']
  exact Iff.rfl

/-- What is queued for the worker is what matching gives. -/
theorem afterParseTrace_of_ok {values : BindSlots}
    (matched : request.onAfterParse keys = .ok values) :
    request.afterParseTrace keys =
      ((List.range request.names.length).flatMap (request.slotEvents keys), some values) := by
  obtain ⟨cursor, ran, rfl, enough, known⟩ := onAfterParse_ok_iff.1 matched
  have ends := matchFrom_names_ok_iff.2 ran
  have all : cursor.posIdx = request.anonymousCount :=
    (bindPlaceholders_filled (Nat.le_refl _) ran).posIdx.trans (Occurrences.rank_length _)
  have events := matchFrom_events filled_start (Nat.le_of_eq (Nat.zero_add _)) ends
  unfold afterParseTrace
  simp only [ends]
  rw [all, if_neg (Nat.not_lt.2 enough), if_neg (by rw [known]; exact Bool.false_ne_true),
    List.range_eq_range', ← events]
  rfl

private theorem afterParseTrace_of_error {halt : Halt}
    (halted : request.onAfterParse keys = .error halt) :
    ∃ events, request.afterParseTrace keys = (events, none) ∧
      ∀ event ∈ events, event.acquires = true ∨ event.releases = true ∨ event.settles = true := by
  have acquired {event : BindEvent} {trace : BindTrace}
      (member : event ∈ (request.matchFrom keys request.noValues 0 request.names.length).1 ++ trace)
      (rest : event ∈ trace → event.releases = true ∨ event.settles = true) :
      event.acquires = true ∨ event.releases = true ∨ event.settles = true := by
    rcases List.mem_append.1 member with here | later
    · exact Or.inl (matchFrom_acquire here)
    · exact Or.inr (rest later)
  unfold afterParseTrace
  cases ends : (request.matchFrom keys request.noValues 0 request.names.length).2 with
  | error stop =>
      simp only [ends]
      cases stop.halt with
      | thrown _ => exact ⟨_, rfl, fun event member => acquired member cancelBindTrace_kinds⟩
      | asserted => exact ⟨_, rfl, fun event member => Or.inl (matchFrom_acquire member)⟩
  | ok cursor =>
      have ran := matchFrom_names_ok_iff.1 ends
      simp only [ends]
      split
      · exact ⟨_, rfl, fun event member => acquired member cancelBindTrace_kinds⟩
      split
      · exact ⟨_, rfl, fun event member => acquired member cancelBindTrace_kinds⟩
      · rename_i enough known
        unfold onAfterParse at halted
        rw [ran] at halted
        simp only [bind, Except.bind, if_neg enough, if_neg known] at halted
        cases halted

/-! ### What a request that goes through leaves behind -/

/-- What is released at a slot is what was acquired for it. -/
theorem slot_balanced {values : BindSlots} {slot : Nat} (holds : request.Holds keys values slot)
    (other : Nat) :
    (releaseSlot values slot).count (.freeValue other) =
        (request.slotEvents keys slot).count (.allocate other) ∧
      (releaseSlot values slot).count (.freeText other) =
        (request.slotEvents keys slot).count (.copyText other) ∧
      (releaseSlot values slot).count (.read other) =
        (request.slotEvents keys slot).count (.fill other) := by
  obtain ⟨argument, value, isArgument, parsed, stored⟩ := holds
  unfold slotEvents parseEvents releaseSlot
  rw [isArgument, stored]
  simp only [parsed]
  cases value with
  | text text => simp [List.count_cons]
  | _ => simp [List.count_cons]

private theorem slotEvents_acquire {slots : List Nat} {event : BindEvent}
    (member : event ∈ slots.flatMap (request.slotEvents keys)) : event.acquires = true := by
  obtain ⟨slot, _, here⟩ := List.mem_flatMap.1 member
  unfold slotEvents at here
  split at here
  · exact parseEvents_acquire here
  · cases here

/-- A request that reaches the worker. -/
theorem bindTrace_of_ok {values : BindSlots} (matched : request.onAfterParse keys = .ok values)
    (openAtBind : Bool) (status : BindCall → Int) :
    ∃ rejected, request.bindTrace keys true openAtBind status =
      (createBind ++ (List.range request.names.length).flatMap (request.slotEvents keys)) ++
        ((List.range request.names.length).flatMap (releaseSlot values) ++ settleBind rejected) := by
  obtain ⟨cursor, ran, rfl, _, _⟩ := onAfterParse_ok_iff.1 matched
  have filled := bindPlaceholders_filled (Nat.le_refl _) ran
  have stored (slot : Nat) (below : slot < cursor.values.length) :
      ∃ value, cursor.values[slot]? = some (some value) := by
    obtain ⟨_, value, _, _, stored⟩ := filled.holds slot (filled.length ▸ below)
    exact ⟨value, stored⟩
  refine ⟨bindFails status openAtBind cursor.values, ?_⟩
  unfold bindTrace
  rw [if_pos rfl, afterParseTrace_of_ok matched]
  simp only [workerTrace_eq status openAtBind stored, filled.length, List.append_assoc]

end BindRequest

open BindRequest

private theorem count_eq_zero_of_kind {kind : BindEvent → Bool} {trace : BindTrace}
    {event : BindEvent}
    (kinds : ∀ other ∈ trace, kind other = true) (different : kind event = false) :
    trace.count event = 0 := by
  apply List.count_eq_zero.2
  intro member
  rw [kinds event member] at different
  cases different

/-- An event of one of the parts only is counted there. -/
theorem count_parts {parse work : BindTrace} (rejected : Bool)
    (parseKinds : ∀ event ∈ parse, event.acquires = true)
    (workKinds : ∀ event ∈ work, event.releases = true) (event : BindEvent) :
    (createBind ++ parse).count event = createBind.count event +
        (if event.acquires then parse.count event else 0) ∧
      (work ++ settleBind rejected).count event =
        (if event.releases then work.count event else 0) + (settleBind rejected).count event := by
  constructor
  · rw [List.count_append]
    split
    · rfl
    · rename_i other
      rw [count_eq_zero_of_kind parseKinds (eq_false_of_ne_true other)]
  · rw [List.count_append]
    split
    · rfl
    · rename_i other
      rw [count_eq_zero_of_kind workKinds (eq_false_of_ne_true other)]

/-- What the main thread acquires and the worker releases, between the references. -/
theorem accounted_of_balanced {parse work : BindTrace} (rejected : Bool)
    (parseKinds : ∀ event ∈ parse, event.acquires = true)
    (workKinds : ∀ event ∈ work, event.releases = true)
    (values : ∀ slot, work.count (.freeValue slot) = parse.count (.allocate slot))
    (texts : ∀ slot, work.count (.freeText slot) = parse.count (.copyText slot))
    (reads : ∀ slot, work.count (.read slot) = parse.count (.fill slot)) :
    Accounted ((createBind ++ parse) ++ (work ++ settleBind rejected)) := by
  have parts := count_parts rejected parseKinds workKinds
  have released {acquire release : BindEvent} (acquires : acquire.acquires = true)
      (releases : release.releases = true) (same : work.count release = parse.count acquire) :
      Released acquire release ((createBind ++ parse) ++ (work ++ settleBind rejected)) := by
    apply released_append
    · apply List.count_eq_zero.1
      rw [(parts release).1]
      cases release <;> cases releases <;> rfl
    · apply List.count_eq_zero.1
      rw [(parts acquire).2]
      cases acquire <;> cases acquires <;> rfl
    · rw [(parts release).2, (parts acquire).1, if_pos acquires, if_pos releases, same]
      cases release <;> cases releases <;> cases acquire <;> cases acquires <;>
        exact Nat.add_comm _ 0
  have neverSettles {kind : BindEvent → Bool} {trace : BindTrace}
      (kinds : ∀ event ∈ trace, kind event = true)
      (excludes : ∀ event, kind event = true → event.settles = false) :
      trace.countP BindEvent.settles = 0 := by
    apply List.countP_eq_zero.2
    intro event member settles
    rw [excludes event (kinds event member)] at settles
    cases settles
  constructor
  · intro reference
    rw [List.count_append, (parts _).1, (parts _).2]
    cases reference <;> rfl
  · intro reference
    rw [List.count_append, (parts _).1, (parts _).2]
    cases reference <;> rfl
  · intro slot
    exact released rfl rfl (values slot)
  · intro slot
    exact released rfl rfl (texts slot)
  · intro slot
    exact (released rfl rfl (reads slot)).order
  · rw [List.countP_append, List.countP_append, List.countP_append,
      neverSettles parseKinds (fun event kind => by cases event <;> first | rfl | cases kind),
      neverSettles workKinds (fun event kind => by cases event <;> first | rfl | cases kind)]
    rfl

private theorem accounted_of_ok {Key : Type} [DecidableEq Key] {keys : KeyText Key}
    {request : BindRequest Key} {values : BindSlots}
    (matched : request.onAfterParse keys = .ok values) (openAtBind : Bool)
    (status : BindCall → Int) : Accounted (request.bindTrace keys true openAtBind status) := by
  obtain ⟨rejected, trace⟩ := bindTrace_of_ok matched openAtBind status
  obtain ⟨cursor, ran, rfl, _, _⟩ := onAfterParse_ok_iff.1 matched
  have filled := bindPlaceholders_filled (Nat.le_refl _) ran
  have holds (slot : Nat) (member : slot ∈ List.range request.names.length) :=
    filled.holds slot (List.mem_range.1 member)
  rw [trace]
  apply accounted_of_balanced
  · intro event member
    exact slotEvents_acquire member
  · intro event member
    exact releaseSlots_release member
  · intro slot
    exact count_flatMap_congr fun item member => (slot_balanced (holds item member) slot).1
  · intro slot
    exact count_flatMap_congr fun item member => (slot_balanced (holds item member) slot).2.1
  · intro slot
    exact count_flatMap_congr fun item member => (slot_balanced (holds item member) slot).2.2

/-- A request that never reaches the worker keeps its references. -/
theorem not_accounted_of_error {Key : Type} [DecidableEq Key] {keys : KeyText Key}
    {request : BindRequest Key} {halt : Halt} (halted : request.onAfterParse keys = .error halt)
    (openAtBind : Bool) (status : BindCall → Int) :
    ¬Accounted (request.bindTrace keys true openAtBind status) := by
  intro accounted
  obtain ⟨events, ended, kinds⟩ := afterParseTrace_of_error halted
  have deleted := accounted.deleted .named
  unfold bindTrace at deleted
  rw [if_pos rfl, ended] at deleted
  have member : BindEvent.deleteReference .named ∈ createBind ++ events := by
    apply List.count_pos_iff.1
    rw [deleted]
    exact Nat.one_pos
  rcases List.mem_append.1 member with created | later
  · simp [createBind] at created
  · rcases kinds _ later with kind | kind | kind <;> cases kind

/-- A request is accounted for when it reaches the worker or is turned away by it. -/
theorem bind_accounted_iff {Key : Type} [DecidableEq Key] (keys : KeyText Key)
    (request : BindRequest Key) (openAtParse openAtBind : Bool) (status : BindCall → Int) :
    Accounted (request.bindTrace keys openAtParse openAtBind status) ↔
      openAtParse = false ∨
        ((∀ i, i < request.names.length → request.Bindable keys i) ∧
          request.positional.length ≤ request.anonymousCount ∧
          request.unknownKey keys = false) := by
  cases openAtParse with
  | false =>
      have turnedAway : request.bindTrace keys false openAtBind status =
          (createBind ++ []) ++ ([] ++ settleBind true) := rfl
      constructor
      · intro _
        exact Or.inl rfl
      · intro _
        rw [turnedAway]
        apply accounted_of_balanced true <;> simp
  | true =>
      cases matched : request.onAfterParse keys with
      | ok values =>
          obtain ⟨cursor, ran, _, enough, known⟩ := onAfterParse_ok_iff.1 matched
          have bindable := (bindPlaceholders_ok_iff (Nat.le_refl _)).1 ⟨cursor, ran⟩
          constructor
          · intro _
            exact Or.inr ⟨bindable, enough, known⟩
          · intro _
            exact accounted_of_ok matched openAtBind status
      | error halt =>
          constructor
          · intro accounted
            exact absurd accounted (not_accounted_of_error matched openAtBind status)
          · intro condition
            obtain ⟨bindable, enough, known⟩ := condition.resolve_left Bool.noConfusion
            obtain ⟨cursor, ran⟩ := (bindPlaceholders_ok_iff (Nat.le_refl _)).2 bindable
            have queued := onAfterParse_ok_iff.2 ⟨cursor, ran, rfl, enough, known⟩
            rw [matched] at queued
            cases queued

/-- A missing argument: the references are never deleted. -/
theorem bind_leaks_references :
    ¬Accounted (({ names := [none], named := none, positional := [] } :
      BindRequest String).bindTrace .plain true true fun _ => 0) := by
  intro accounted
  have deleted := accounted.deleted .named
  revert deleted
  decide

end ParaQL
