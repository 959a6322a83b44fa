import Mathlib.Data.List.Induction
import Galley.Proofs.Template.Aggregate

/-!
# What replay accepts

Replay looks at the records of a history one by one, and gives up at the first that it objects to.
What it accepts, and what a template then knows, can be said without going through the history step
by step: every record is one of the template's own, the versions count the records, every payload
is read, the template is created by the first event and by no other, and every patch can be carried
out on the content that the events before it tell of.

A record may be objected to for many reasons at once. `Check.finds` tells what each check finds on
its own, and the first check that finds anything decides.

Main results:

* `accepts_concat` — it is accepted if what comes before its last record is, and the record passes
  all checks.
* `IsToldBy.applyStored_ok`, `IsToldBy.applyStored_error` — what one record does to a template that
  is told by its events.
* `replay_decides` — which histories are replayed, what is known then, and why the others fail.
-/

namespace Galley

-- ---------------------------------------------------------------------------
-- What events tell
-- ---------------------------------------------------------------------------

namespace TemplateEvent

/-- The shape that the payload of a kind has, if the kind is known. -/
def shapeOf? (kind : String) : Option Json.Shape :=
  if kind = createdKind then some createdShape
  else if kind = updatedKind then some updatedShape
  else if kind = archivedKind then some archivedShape
  else none

/-- Whether a template is created. -/
def isCreation : TemplateEvent → Bool
  | created .. => true
  | _ => false

/-- Whether a template is archived. -/
def isArchiving : TemplateEvent → Bool
  | archived _ => true
  | _ => false

/-- The name and the description that an event gives. -/
def naming : TemplateEvent → Option (String × String)
  | created name description _ _ => some (name, description)
  | updated name description _ _ => some (name, description)
  | archived _ => none

/-- The patch that an event brings. -/
def patch? : TemplateEvent → Option String
  | updated _ _ patch _ => some patch
  | _ => none

/-- The content after an event, if there is any and a patch can be carried out on it. -/
def contentThen : Option Content → TemplateEvent → Option Content
  | _, created _ _ content _ => some content
  | content, updated _ _ patch _ =>
    content.bind fun content =>
      (Patch.apply content.toText patch).toOption.bind fun text => (Content.parse text).toOption
  | content, archived _ => content

/-- The content that a list of events tells of. -/
def contentAfter (events : List TemplateEvent) : Option Content := events.foldl contentThen none

/-- If an event brings a patch, it can be carried out on the content that the events before it tell
of, and what it makes is content. -/
def CanFollow (past : List TemplateEvent) (event : TemplateEvent) : Prop :=
  ∀ patch, event.patch? = some patch → ∃ content text next, contentAfter past = some content ∧
    Patch.apply content.toText patch = .ok text ∧ Content.parse text = .ok next

theorem contentAfter_concat (past : List TemplateEvent) (event : TemplateEvent) :
    contentAfter (past ++ [event]) = contentThen (contentAfter past) event := by
  rw [contentAfter, List.foldl_append]
  rfl

/-- A payload of an unknown kind is not read. -/
theorem decode_of_unknown {kind : String} (h : shapeOf? kind = none) (payload : Json) :
    decode kind payload = .error (.unknownKind kind) := by
  rw [shapeOf?] at h
  split at h
  · cases h
  split at h
  · cases h
  split at h
  · cases h
  · next hCreated hUpdated hArchived =>
    rw [decode, if_neg hCreated, if_neg hUpdated, if_neg hArchived]

/-- A payload is read as data of a shape, or there is a mismatch. -/
theorem map_decodeAs_or (kind : String) (shape : Json.Shape) (payload : Json)
    (f : shape.Value → TemplateEvent) :
    (∃ cause, shape.decode payload = .error cause ∧
        (decodeAs kind shape payload).map f = .error (.unreadablePayload kind cause)) ∨
      ∃ data event, shape.decode payload = .ok data ∧
        (decodeAs kind shape payload).map f = .ok event := by
  rw [decodeAs]
  cases shape.decode payload with
  | error cause => exact .inl ⟨cause, rfl, rfl⟩
  | ok data => exact .inr ⟨data, f data, rfl, rfl⟩

/-- A payload of a known kind is read if it has the shape of the kind. -/
theorem decode_of_known {kind : String} {shape : Json.Shape} (h : shapeOf? kind = some shape)
    (payload : Json) :
    (∃ cause, shape.decode payload = .error cause ∧
        decode kind payload = .error (.unreadablePayload kind cause)) ∨
      ∃ data event, shape.decode payload = .ok data ∧ decode kind payload = .ok event := by
  rw [shapeOf?] at h
  rw [decode]
  split at h
  · next hCreated =>
    cases h
    rw [if_pos hCreated]
    exact map_decodeAs_or kind createdShape payload _
  split at h
  · next hCreated hUpdated =>
    cases h
    rw [if_neg hCreated, if_pos hUpdated]
    exact map_decodeAs_or kind updatedShape payload _
  split at h
  · next hCreated hUpdated hArchived =>
    cases h
    rw [if_neg hCreated, if_neg hUpdated, if_pos hArchived]
    exact map_decodeAs_or kind archivedShape payload _
  · cases h

end TemplateEvent

open TemplateEvent (contentAfter contentAfter_concat)

namespace Aggregate

/-- Why a step fails, if it does. -/
def fault? {ε α : Type} : Except ε α → Option ε
  | .ok _ => none
  | .error e => some e

-- ---------------------------------------------------------------------------
-- Checks
-- ---------------------------------------------------------------------------

/-- What replay checks of a record. -/
inductive Check where
  | owner
  | version
  | type
  | kind
  | payload
  | place
  | patch
  | content
  deriving DecidableEq, Repr

namespace Check

/-- The checks in the order in which they are made. -/
def inOrder : List Check := [owner, version, type, kind, payload, place, patch, content]

/-- The code of the failures of a check. -/
def code : Check → Code
  | owner | version | type | place => .eventStreamCorrupted
  | kind => .unknownEventKind
  | payload | content => .decodeError
  | patch => .corruptPatch

/-- What becomes of the patch that a record brings, if it is read and there is content before it. -/
def patching (past : List TemplateEvent) (e : StoredEvent) :
    Option (Except Patch.Failure String) := do
  let event ← (TemplateEvent.decode e.kind e.payload).toOption
  let patch ← event.patch?
  let content ← contentAfter past
  return Patch.apply content.toText patch

/-- What a check finds in a record that follows the given events. A check finds nothing where there
is nothing for it to look at. -/
def finds (id : Uuid) (past : List TemplateEvent) (e : StoredEvent) : Check → Option Failure
  | owner =>
    if e.aggregateId = id then none else some (.foreignEvent e.sequence e.aggregateId id)
  | version =>
    if e.version = past.length + 1 then none
    else some (.wrongVersion id (past.length + 1) e.version)
  | type =>
    if e.aggregateType = TemplateEvent.aggregateType then none
    else some (.foreignType e.version e.aggregateId e.aggregateType)
  | kind => if (TemplateEvent.shapeOf? e.kind).isSome then none else some (.unknownKind e.kind)
  | payload => do
    let shape ← TemplateEvent.shapeOf? e.kind
    let cause ← fault? (shape.decode e.payload)
    return .unreadablePayload e.kind cause
  | place => do
    let event ← (TemplateEvent.decode e.kind e.payload).toOption
    if event.isCreation = past.isEmpty then none
    else if event.isCreation then some (.createdTwice id (past.length + 1))
    else some (.notCreated id event.kind)
  | patch => do
    let cause ← fault? (← patching past e)
    return .patch cause
  | content => do
    let text ← (← patching past e).toOption
    let message ← fault? (Content.parse text)
    return .patchedContent message

/-- Every check has one code for what it finds. -/
theorem code_of_finds {check : Check} {id : Uuid} {past : List TemplateEvent} {e : StoredEvent}
    {f : Failure} (h : check.finds id past e = some f) : f.code = check.code := by
  cases check with
  | owner | version | type | kind =>
    simp only [finds] at h
    split at h
    · cases h
    · cases h
      rfl
  | payload | patch =>
    simp only [finds, Option.bind_eq_bind, Option.pure_def, Option.bind_eq_some_iff] at h
    obtain ⟨_, -, _, -, hf⟩ := h
    cases hf
    rfl
  | content =>
    simp only [finds, Option.bind_eq_bind, Option.pure_def, Option.bind_eq_some_iff] at h
    obtain ⟨_, -, _, -, _, -, hf⟩ := h
    cases hf
    rfl
  | place =>
    simp only [finds, Option.bind_eq_bind, Option.bind_eq_some_iff] at h
    obtain ⟨event, -, hf⟩ := h
    split at hf
    · cases hf
    split at hf
    · cases hf
      rfl
    · cases hf
      rfl

end Check

/-- The first of some checks that finds anything, and what it finds. -/
def firstFound (id : Uuid) (past : List TemplateEvent) (e : StoredEvent) (checks : List Check) :
    Option (Check × Failure) :=
  checks.findSome? fun check => (check.finds id past e).map (check, ·)

/-- The first check that objects to a record, and why. -/
def objection (id : Uuid) (past : List TemplateEvent) (e : StoredEvent) :
    Option (Check × Failure) :=
  firstFound id past e Check.inOrder

/-- What is found has the code of the check that finds it. -/
theorem code_of_objection {id : Uuid} {past : List TemplateEvent} {e : StoredEvent} {check : Check}
    {f : Failure} (h : objection id past e = some (check, f)) : f.code = check.code := by
  obtain ⟨found, -, hFinds⟩ := List.exists_of_findSome?_eq_some h
  obtain ⟨_, hFinds, hSame⟩ := Option.map_eq_some_iff.mp hFinds
  cases hSame
  exact Check.code_of_finds hFinds

/-- A record passes all checks: it is read as an event that can follow the ones before it. -/
structure Passes (id : Uuid) (past : List TemplateEvent) (e : StoredEvent) (event : TemplateEvent) :
    Prop where
  owner : e.aggregateId = id
  version : e.version = past.length + 1
  type : e.aggregateType = TemplateEvent.aggregateType
  decoded : TemplateEvent.decode e.kind e.payload = .ok event
  place : event.isCreation = past.isEmpty
  canFollow : TemplateEvent.CanFollow past event

/-- A history is that of a template, and it tells of the given events. -/
structure Accepts (id : Uuid) (history : List StoredEvent) (events : List TemplateEvent) :
    Prop where
  owner : ∀ e ∈ history, e.aggregateId = id
  type : ∀ e ∈ history, e.aggregateType = TemplateEvent.aggregateType
  versions : history.map StoredEvent.version = List.range' 1 history.length
  decoded : history.map (fun e => TemplateEvent.decode e.kind e.payload) = events.map .ok
  place : ∀ before event after, events = before ++ event :: after →
    event.isCreation = before.isEmpty
  canFollow : ∀ before event after, events = before ++ event :: after →
    TemplateEvent.CanFollow before event

/-- A history is refused: a check finds something in a record, none finds anything in that record
before it, and what comes before the record is accepted. -/
def Refuses (id : Uuid) (history : List StoredEvent) (f : Failure) : Prop :=
  ∃ before e after past check, history = before ++ e :: after ∧ Accepts id before past ∧
    objection id past e = some (check, f) ∧ f.code = check.code

/-- What a template knows that is told by a list of events. -/
structure IsToldBy (id : Uuid) (events : List TemplateEvent) (a : Aggregate) : Prop where
  owner : a.id = id
  version : a.version = events.length
  nothingWaits : a.uncommitted = []
  createdAt : a.state.map TemplateState.createdAt = events.head?.map TemplateEvent.occurredAt
  updatedAt : a.state.map TemplateState.updatedAt = events.getLast?.map TemplateEvent.occurredAt
  named : a.state.map (fun s => (s.name, s.description)) =
    (events.filterMap TemplateEvent.naming).getLast?
  archived : a.state.any TemplateState.archived = events.any TemplateEvent.isArchiving
  content : a.state.map TemplateState.content = contentAfter events

variable {id : Uuid} {past events events' : List TemplateEvent} {event : TemplateEvent}
  {e : StoredEvent} {history : List StoredEvent} {a b : Aggregate} {f : Failure}

-- ---------------------------------------------------------------------------
-- Histories
-- ---------------------------------------------------------------------------

theorem accepts_nil (id : Uuid) : Accepts id [] [] where
  owner := by simp
  type := by simp
  versions := by simp
  decoded := by simp
  place := by simp
  canFollow := by simp

/-- Each event of an accepted history has been decoded. -/
theorem Accepts.length_eq (h : Accepts id history events) : history.length = events.length := by
  have hLength := congrArg List.length h.decoded
  rwa [List.length_map, List.length_map] at hLength

/-- What holds of every element of a list and the ones before it. -/
theorem forall_split_concat {α : Type} {P : List α → α → Prop} {l : List α} {x : α} :
    (∀ before y after, l ++ [x] = before ++ y :: after → P before y) ↔
      (∀ before y after, l = before ++ y :: after → P before y) ∧ P l x := by
  constructor
  · intro h
    refine ⟨fun before y after hParts => h before y (after ++ [x]) ?_, h l x [] rfl⟩
    rw [hParts, List.append_assoc, List.cons_append]
  · rintro ⟨hAll, hLast⟩ before y after hParts
    rcases List.eq_nil_or_concat after with rfl | ⟨after, z, rfl⟩
    · obtain ⟨rfl, hSame⟩ := List.append_inj' hParts rfl
      cases hSame
      exact hLast
    · rw [List.concat_eq_append, ← List.cons_append, ← List.append_assoc] at hParts
      exact hAll before y after (List.append_inj' hParts rfl).1

/-- **A history is accepted** if what comes before its last record is, and the record passes all
checks. -/
theorem accepts_concat :
    Accepts id (history ++ [e]) (events ++ [event]) ↔
      Accepts id history events ∧ Passes id events e event := by
  constructor
  · -- each of the conditions is one on the events before and one on the last event
    rintro ⟨hOwner, hType, hVersions, hDecoded, hPlace, hCanFollow⟩
    obtain ⟨hOwner, hOwnerLast⟩ := List.forall_mem_append.mp hOwner
    obtain ⟨hType, hTypeLast⟩ := List.forall_mem_append.mp hType
    rw [List.map_append, List.length_append, List.length_singleton, List.range'_concat] at hVersions
    obtain ⟨hVersions, hVersionLast⟩ := List.append_inj' hVersions rfl
    rw [List.map_append, List.map_append] at hDecoded
    obtain ⟨hDecoded, hDecodedLast⟩ := List.append_inj' hDecoded rfl
    obtain ⟨hPlace, hPlaceLast⟩ := forall_split_concat.mp hPlace
    obtain ⟨hCanFollow, hCanFollowLast⟩ := forall_split_concat.mp hCanFollow
    have hBefore : Accepts id history events :=
      ⟨hOwner, hType, hVersions, hDecoded, hPlace, hCanFollow⟩
    refine ⟨hBefore, hOwnerLast e List.mem_cons_self, ?_, hTypeLast e List.mem_cons_self,
      (List.cons.inj hDecodedLast).1, hPlaceLast, hCanFollowLast⟩
    rw [(List.cons.inj hVersionLast).1, hBefore.length_eq]
    omega
  · rintro ⟨hBefore, hLast⟩
    refine ⟨?_, ?_, ?_, ?_, ?_, ?_⟩
    · exact List.forall_mem_append.mpr ⟨hBefore.owner, List.forall_mem_singleton.mpr hLast.owner⟩
    · exact List.forall_mem_append.mpr ⟨hBefore.type, List.forall_mem_singleton.mpr hLast.type⟩
    · rw [List.map_append, List.length_append, List.length_singleton, List.range'_concat,
        hBefore.versions, List.map_singleton, hLast.version, hBefore.length_eq, Nat.one_mul,
        Nat.add_comm]
    · rw [List.map_append, List.map_append, hBefore.decoded, List.map_singleton,
        List.map_singleton, hLast.decoded]
    · exact forall_split_concat.mpr ⟨hBefore.place, hLast.place⟩
    · exact forall_split_concat.mpr ⟨hBefore.canFollow, hLast.canFollow⟩

-- ---------------------------------------------------------------------------
-- One record
-- ---------------------------------------------------------------------------

/-- A template that is told by events has been created if there are any. -/
theorem IsToldBy.isEmpty_eq (h : IsToldBy id past a) : past.isEmpty = a.state.isNone := by
  have hCreated := congrArg Option.isNone h.createdAt
  rw [Option.isNone_map, Option.isNone_map] at hCreated
  rw [hCreated]
  cases past <;> rfl

/-- A record that passes the checks on its envelope is taken as what it stands for. -/
theorem IsToldBy.applyStored_eq (h : IsToldBy id past a) (hOwner : e.aggregateId = id)
    (hVersion : e.version = past.length + 1)
    (hType : e.aggregateType = TemplateEvent.aggregateType) :
    a.applyStored e = TemplateEvent.decode e.kind e.payload >>= a.apply := by
  rw [applyStored, if_neg (not_not.mpr (hOwner.trans h.owner.symm)),
    if_neg (not_not.mpr (by rw [hVersion, h.version])), StoredEvent.decode,
    if_neg (not_not.mpr hType)]

/-- An event in its place is taken, if its patch can be carried out. -/
theorem IsToldBy.exists_applyState (h : IsToldBy id past a)
    (hPlace : event.isCreation = past.isEmpty) (hCanFollow : TemplateEvent.CanFollow past event) :
    ∃ s, applyState a.id a.version a.state event = .ok s := by
  have hContent := h.content
  rw [h.isEmpty_eq] at hPlace
  cases hState : a.state with
  | none =>
    rw [hState] at hPlace
    cases event with
    | created name description content t => exact ⟨_, rfl⟩
    | updated name description patch t => cases hPlace
    | archived t => cases hPlace
  | some s =>
    rw [hState] at hPlace
    cases event with
    | created name description content t => cases hPlace
    | updated name description patch t =>
      obtain ⟨content, text, next, hBefore, hApplied, hRead⟩ := hCanFollow patch rfl
      rw [hState, hBefore] at hContent
      cases hContent
      exact ⟨_, by rw [applyState, patchContent_eq_ok.mpr ⟨text, hApplied, hRead⟩]; rfl⟩
    | archived t => exact ⟨_, rfl⟩

/-- A template that has taken an event is told by one event more. -/
theorem IsToldBy.concat {s : TemplateState} (h : IsToldBy id past a)
    (hState : applyState a.id a.version a.state event = .ok s) :
    IsToldBy id (past ++ [event]) { a with state := some s, version := a.version + 1 } := by
  have hVersion : a.version + 1 = (past ++ [event]).length := by
    rw [h.version, List.length_append, List.length_singleton]
  have hPast := h.isEmpty_eq
  obtain ⟨hOwner, -, hNothing, hCreated, -, hNamed, hArchived, hContent⟩ := h
  -- the first event creates, and no later one does
  cases hBefore : a.state with
  | none =>
    rw [hBefore] at hState hPast
    obtain rfl := List.isEmpty_iff.mp hPast
    cases event with
    | created name description content t =>
      cases hState
      exact ⟨hOwner, hVersion, hNothing, rfl, rfl, rfl, rfl, rfl⟩
    | updated name description patch t => cases hState
    | archived t => cases hState
  | some s₀ =>
    rw [hBefore] at hState hPast hCreated hNamed hArchived hContent
    obtain ⟨first, rest, rfl⟩ := List.exists_cons_of_ne_nil (List.isEmpty_eq_false_iff.mp hPast)
    cases event with
    | created name description content t => cases hState
    | updated name description patch t =>
      obtain ⟨next, hNext, rfl⟩ := map_eq_ok.mp hState
      obtain ⟨text, hApplied, hRead⟩ := patchContent_eq_ok.mp hNext
      refine ⟨hOwner, hVersion, hNothing, hCreated, ?_, ?_, ?_, ?_⟩
      · rw [List.getLast?_concat]
        rfl
      · rw [List.filterMap_append, List.getLast?_append]
        rfl
      · rw [List.any_append, ← hArchived]
        exact (Bool.or_false _).symm
      · rw [contentAfter_concat, ← hContent]
        simp [TemplateEvent.contentThen, hApplied, hRead, Except.toOption]
    | archived t =>
      cases hState
      refine ⟨hOwner, hVersion, hNothing, hCreated, ?_, ?_, ?_, ?_⟩
      · rw [List.getLast?_concat]
        rfl
      · rw [List.filterMap_append]
        exact hNamed.trans (congrArg List.getLast? (List.append_nil _).symm)
      · rw [List.any_append]
        exact (Bool.or_true _).symm
      · rw [contentAfter_concat, ← hContent]
        rfl

/-- **A record that passes all checks** is taken, and the template is then told by one event
more. -/
theorem IsToldBy.applyStored_ok (h : IsToldBy id past a) (hPasses : Passes id past e event) :
    ∃ b, a.applyStored e = .ok b ∧ IsToldBy id (past ++ [event]) b := by
  obtain ⟨s, hState⟩ := h.exists_applyState hPasses.place hPasses.canFollow
  refine ⟨_, ?_, h.concat hState⟩
  rw [h.applyStored_eq hPasses.owner hPasses.version hPasses.type, hPasses.decoded]
  show a.apply event = _
  rw [apply, hState]
  rfl

theorem Check.patching_eq (hDecoded : TemplateEvent.decode e.kind e.payload = .ok event) :
    Check.patching past e = (do
      let patch ← event.patch?
      let content ← contentAfter past
      return Patch.apply content.toText patch) := by
  rw [patching, hDecoded]
  rfl

/-- If a patch can be carried out, there is nothing to find in it. -/
theorem Check.patching_of_canFollow (hDecoded : TemplateEvent.decode e.kind e.payload = .ok event)
    (hCanFollow : TemplateEvent.CanFollow past event) :
    Check.patching past e = none ∨
      ∃ text next, Check.patching past e = some (.ok text) ∧ Content.parse text = .ok next := by
  rw [patching_eq hDecoded]
  cases hPatch : event.patch? with
  | none => exact .inl rfl
  | some patch =>
    obtain ⟨content, text, next, hContent, hApplied, hRead⟩ := hCanFollow patch hPatch
    refine .inr ⟨text, next, ?_, hRead⟩
    rw [hContent, ← hApplied]
    rfl

/-- A check that finds something is the first to do so if it stands first. -/
theorem firstFound_found {check : Check} (h : check.finds id past e = some f)
    (checks : List Check) : firstFound id past e (check :: checks) = some (check, f) := by
  rw [firstFound, List.findSome?_cons, h]
  rfl

/-- A check that finds nothing is passed over. -/
theorem firstFound_skipped {check : Check} {checks : List Check}
    (h : check.finds id past e = none) :
    firstFound id past e (check :: checks) = firstFound id past e checks := by
  rw [firstFound, List.findSome?_cons, h]
  rfl

/-- Nothing is found in an envelope that is right. -/
theorem objection_of_envelope (hOwner : e.aggregateId = id)
    (hVersion : e.version = past.length + 1)
    (hType : e.aggregateType = TemplateEvent.aggregateType) :
    objection id past e = firstFound id past e [.kind, .payload, .place, .patch, .content] := by
  rw [objection, Check.inOrder, firstFound_skipped (by simp [Check.finds, hOwner]),
    firstFound_skipped (by simp [Check.finds, hVersion]),
    firstFound_skipped (by simp [Check.finds, hType])]

/-- Nothing is found in the kind and the payload of a record that is read as an event. -/
theorem firstFound_of_decoded (hDecoded : TemplateEvent.decode e.kind e.payload = .ok event)
    (checks : List Check) :
    firstFound id past e (.kind :: .payload :: checks) = firstFound id past e checks := by
  cases hShape : TemplateEvent.shapeOf? e.kind with
  | none => cases hDecoded.symm.trans (TemplateEvent.decode_of_unknown hShape _)
  | some shape =>
    obtain ⟨cause, hMismatch, hError⟩ | ⟨data, event', hMatch, -⟩ :=
      TemplateEvent.decode_of_known hShape e.payload
    · cases hDecoded.symm.trans hError
    · rw [firstFound_skipped (by simp [Check.finds, hShape]),
        firstFound_skipped (by simp [Check.finds, hShape, hMatch, fault?])]

/-- No check objects to a record that passes all of them. -/
theorem Passes.objection_eq_none (h : Passes id past e event) : objection id past e = none := by
  have hPlace : Check.place.finds id past e = none := by
    simp [Check.finds, h.decoded, h.place, Except.toOption]
  rw [objection_of_envelope h.owner h.version h.type, firstFound_of_decoded h.decoded,
    firstFound_skipped hPlace]
  obtain hNone | ⟨text, next, hApplied, hRead⟩ := Check.patching_of_canFollow h.decoded h.canFollow
  · rw [firstFound_skipped (by simp [Check.finds, hNone]),
      firstFound_skipped (by simp [Check.finds, hNone])]
    rfl
  · rw [firstFound_skipped (by simp [Check.finds, hApplied, fault?]),
      firstFound_skipped (by simp [Check.finds, hApplied, hRead, fault?, Except.toOption])]
    rfl

/-- An event that is out of its place is not taken. -/
theorem IsToldBy.apply_misplaced (h : IsToldBy id past a)
    (hPlace : event.isCreation ≠ past.isEmpty) :
    a.apply event = .error (if event.isCreation then .createdTwice id (past.length + 1)
      else .notCreated id event.kind) := by
  rw [h.isEmpty_eq] at hPlace
  rw [apply, ← h.owner, ← h.version]
  cases hState : a.state with
  | none =>
    rw [hState] at hPlace
    cases event with
    | created name description content t => exact absurd rfl hPlace
    | updated name description patch t => rfl
    | archived t => rfl
  | some s =>
    rw [hState] at hPlace
    cases event with
    | created name description content t => rfl
    | updated name description patch t => exact absurd rfl hPlace
    | archived t => exact absurd rfl hPlace

/-- An event in its place whose patch cannot be carried out is not taken. -/
theorem IsToldBy.apply_unpatched (h : IsToldBy id past a)
    (hPlace : event.isCreation = past.isEmpty) (hNot : ¬ TemplateEvent.CanFollow past event) :
    ∃ content patch, event.patch? = some patch ∧ contentAfter past = some content ∧
      ((∃ cause, Patch.apply content.toText patch = .error cause ∧
          a.apply event = .error (.patch cause)) ∨
        ∃ text message, Patch.apply content.toText patch = .ok text ∧
          Content.parse text = .error message ∧
          a.apply event = .error (.patchedContent message)) := by
  cases event with
  | created name description content t => exact absurd nofun hNot
  | archived t => exact absurd nofun hNot
  | updated name description patch t =>
    cases hState : a.state with
    | none =>
      rw [h.isEmpty_eq, hState] at hPlace
      cases hPlace
    | some s =>
      have hContent := h.content
      rw [hState] at hContent
      refine ⟨s.content, patch, rfl, hContent.symm, ?_⟩
      rw [apply, hState, applyState, patchContent]
      cases hApplied : Patch.apply s.content.toText patch with
      | error cause => exact .inl ⟨cause, rfl, rfl⟩
      | ok text =>
        cases hRead : Content.parse text with
        | error message =>
          refine .inr ⟨text, message, rfl, hRead, ?_⟩
          simp only [hRead]
          rfl
        | ok next =>
          refine absurd (fun _ hPatch => ?_) hNot
          cases hPatch
          exact ⟨s.content, text, next, hContent.symm, hApplied, hRead⟩

/-- A payload is read, or there is a reason not to. -/
theorem decode_or (id : Uuid) (past : List TemplateEvent) (e : StoredEvent) (checks : List Check) :
    (∃ event, TemplateEvent.decode e.kind e.payload = .ok event) ∨
      ∃ check f, firstFound id past e (.kind :: .payload :: checks) = some (check, f) ∧
        TemplateEvent.decode e.kind e.payload = .error f := by
  cases hShape : TemplateEvent.shapeOf? e.kind with
  | none =>
    exact .inr ⟨.kind, _, firstFound_found (by simp [Check.finds, hShape]) _,
      TemplateEvent.decode_of_unknown hShape _⟩
  | some shape =>
    obtain ⟨cause, hMismatch, hError⟩ | ⟨-, event, -, hDecoded⟩ :=
      TemplateEvent.decode_of_known hShape e.payload
    · refine .inr ⟨.payload, _, ?_, hError⟩
      rw [firstFound_skipped (by simp [Check.finds, hShape])]
      exact firstFound_found (by simp [Check.finds, hShape, hMismatch, fault?]) _
    · exact .inl ⟨event, hDecoded⟩

/-- An event can follow the ones before it, or it is not taken, and there is a reason. -/
theorem IsToldBy.apply_or (h : IsToldBy id past a)
    (hDecoded : TemplateEvent.decode e.kind e.payload = .ok event) :
    (event.isCreation = past.isEmpty ∧ TemplateEvent.CanFollow past event) ∨
      ∃ check f, firstFound id past e [.place, .patch, .content] = some (check, f) ∧
        a.apply event = .error f := by
  by_cases hPlace : event.isCreation = past.isEmpty
  swap
  · refine .inr ⟨.place, _, firstFound_found ?_ _, h.apply_misplaced hPlace⟩
    simp only [Check.finds, hDecoded, Except.toOption, Option.bind_eq_bind, Option.bind_some,
      if_neg hPlace]
    exact (apply_ite some _ _ _).symm
  by_cases hCanFollow : TemplateEvent.CanFollow past event
  · exact .inl ⟨hPlace, hCanFollow⟩
  obtain ⟨content, patch, hPatch, hContent, hFails⟩ := h.apply_unpatched hPlace hCanFollow
  have hPatching : Check.patching past e = some (Patch.apply content.toText patch) := by
    rw [Check.patching_eq hDecoded, hPatch, hContent]
    rfl
  rw [firstFound_skipped (by simp [Check.finds, hDecoded, hPlace, Except.toOption])]
  obtain ⟨cause, hApplied, hError⟩ | ⟨text, message, hApplied, hRead, hError⟩ := hFails
  · exact .inr ⟨.patch, _,
      firstFound_found (by simp [Check.finds, hPatching, hApplied, fault?]) _, hError⟩
  · refine .inr ⟨.content, _, ?_, hError⟩
    rw [firstFound_skipped (by simp [Check.finds, hPatching, hApplied, fault?])]
    exact firstFound_found (by simp [Check.finds, hPatching, hApplied, hRead, fault?,
      Except.toOption]) _

/-- A record passes all checks, or it is not taken, for the reason that the first check finds that
finds any. -/
theorem IsToldBy.passes_or (h : IsToldBy id past a) (e : StoredEvent) :
    (∃ event, Passes id past e event) ∨
      ∃ check f, objection id past e = some (check, f) ∧ a.applyStored e = .error f := by
  -- in the order of the checks: each objection is the first, as those before it found nothing
  by_cases hOwner : e.aggregateId = id
  swap
  · refine .inr ⟨.owner, .foreignEvent e.sequence e.aggregateId id, ?_, ?_⟩
    · exact firstFound_found (by simp [Check.finds, hOwner]) _
    · rw [applyStored, h.owner, if_pos hOwner]
  by_cases hVersion : e.version = past.length + 1
  swap
  · refine .inr ⟨.version, .wrongVersion id (past.length + 1) e.version, ?_, ?_⟩
    · rw [objection, Check.inOrder, firstFound_skipped (by simp [Check.finds, hOwner])]
      exact firstFound_found (by simp [Check.finds, hVersion]) _
    · rw [applyStored, h.owner, h.version, if_neg (not_not.mpr hOwner), if_pos hVersion]
  by_cases hType : e.aggregateType = TemplateEvent.aggregateType
  swap
  · refine .inr ⟨.type, .foreignType e.version e.aggregateId e.aggregateType, ?_, ?_⟩
    · rw [objection, Check.inOrder, firstFound_skipped (by simp [Check.finds, hOwner]),
        firstFound_skipped (by simp [Check.finds, hVersion])]
      exact firstFound_found (by simp [Check.finds, hType]) _
    · rw [applyStored, h.owner, h.version, if_neg (not_not.mpr hOwner),
        if_neg (not_not.mpr hVersion), StoredEvent.decode, if_pos hType]
      rfl
  rw [h.applyStored_eq hOwner hVersion hType, objection_of_envelope hOwner hVersion hType]
  obtain ⟨event, hDecoded⟩ | ⟨check, f, hFound, hError⟩ :=
    decode_or id past e [.place, .patch, .content]
  · rw [firstFound_of_decoded hDecoded, hDecoded]
    obtain ⟨hPlace, hCanFollow⟩ | hFails := h.apply_or hDecoded
    · exact .inl ⟨event, hOwner, hVersion, hType, hDecoded, hPlace, hCanFollow⟩
    · exact .inr hFails
  · rw [hError]
    exact .inr ⟨check, f, hFound, rfl⟩

/-- **A record that a check objects to** is not taken, for the reason that the first such check
finds. -/
theorem IsToldBy.applyStored_error {check : Check} (h : IsToldBy id past a)
    (hObjection : objection id past e = some (check, f)) : a.applyStored e = .error f := by
  obtain ⟨event, hPasses⟩ | ⟨_, _, hFirst, hError⟩ := h.passes_or e
  · cases hPasses.objection_eq_none.symm.trans hObjection
  · cases hFirst.symm.trans hObjection
    exact hError

-- ---------------------------------------------------------------------------
-- Replay
-- ---------------------------------------------------------------------------

theorem isToldBy_empty (id : Uuid) : IsToldBy id [] (empty id) :=
  ⟨rfl, rfl, rfl, rfl, rfl, rfl, rfl, rfl⟩

/-- **A history that is accepted is replayed**, and the template is told by its events. -/
theorem Accepts.replay (h : Accepts id history events) :
    ∃ a, replay id history = .ok a ∧ IsToldBy id events a := by
  induction history using List.reverseRecOn generalizing events with
  | nil =>
    cases List.length_eq_zero_iff.mp h.length_eq.symm
    exact ⟨_, rfl, isToldBy_empty id⟩
  | append_singleton history e ih =>
    rcases List.eq_nil_or_concat events with rfl | ⟨past, event, rfl⟩
    · have hLength := h.length_eq
      rw [List.length_append] at hLength
      cases hLength
    · rw [List.concat_eq_append] at h ⊢
      obtain ⟨hBefore, hPasses⟩ := accepts_concat.mp h
      obtain ⟨a, hReplay, hTold⟩ := ih hBefore
      obtain ⟨b, hTaken, hToldBy⟩ := hTold.applyStored_ok hPasses
      refine ⟨b, ?_, hToldBy⟩
      rw [replay_append hReplay, applyAll, hTaken]
      rfl

/-- **A history that is refused is not replayed**, for the reason of the refusal. -/
theorem Refuses.replay (h : Refuses id history f) : replay id history = .error f := by
  obtain ⟨before, e, after, past, check, rfl, hBefore, hObjection, -⟩ := h
  obtain ⟨a, hReplay, hTold⟩ := hBefore.replay
  rw [replay_append hReplay, applyAll, hTold.applyStored_error hObjection]
  rfl

/-- A history is accepted or refused. -/
theorem accepts_or_refuses (id : Uuid) (history : List StoredEvent) :
    (∃ events, Accepts id history events) ∨ ∃ f, Refuses id history f := by
  induction history using List.reverseRecOn with
  | nil => exact .inl ⟨[], accepts_nil id⟩
  | append_singleton history e ih =>
    obtain ⟨past, hBefore⟩ | ⟨f, before, e', after, past, check, rfl, hBefore, hObjection⟩ := ih
    · obtain ⟨a, -, hTold⟩ := hBefore.replay
      obtain ⟨event, hPasses⟩ | ⟨check, f, hObjection, -⟩ := hTold.passes_or e
      · exact .inl ⟨past ++ [event], accepts_concat.mpr ⟨hBefore, hPasses⟩⟩
      · exact .inr ⟨f, history, e, [], past, check, rfl, hBefore, hObjection,
          code_of_objection hObjection⟩
    · exact .inr ⟨f, before, e', after ++ [e], past, check, by simp, hBefore, hObjection⟩

/-- **What replay decides.** A history is replayed if it is that of a template. The template is told
by the events of its history. Otherwise replay fails for what the first check finds that objects to
the first record that any check objects to. -/
theorem replay_decides (id : Uuid) (history : List StoredEvent) :
    ((∃ a, replay id history = .ok a) ↔ ∃ events, Accepts id history events) ∧
      (∀ a, replay id history = .ok a → ∃ events, Accepts id history events ∧
        IsToldBy id events a) ∧
      ∀ f, replay id history = .error f ↔ Refuses id history f := by
  obtain ⟨events, hAccepts⟩ | ⟨f, hRefuses⟩ := accepts_or_refuses id history
  · obtain ⟨a, hReplay, hTold⟩ := hAccepts.replay
    refine ⟨⟨fun _ => ⟨events, hAccepts⟩, fun _ => ⟨a, hReplay⟩⟩, fun a' hReplay' => ?_,
      fun f => ⟨fun hError => ?_, fun hRefuses => hRefuses.replay⟩⟩
    · cases hReplay.symm.trans hReplay'
      exact ⟨events, hAccepts, hTold⟩
    · cases hReplay.symm.trans hError
  · have hError := hRefuses.replay
    refine ⟨⟨?_, ?_⟩, fun a hReplay => ?_, fun f' => ⟨fun hError' => ?_, fun h => h.replay⟩⟩
    · rintro ⟨a, hReplay⟩
      cases hError.symm.trans hReplay
    · rintro ⟨events, hAccepts⟩
      obtain ⟨a, hReplay, -⟩ := hAccepts.replay
      cases hError.symm.trans hReplay
    · cases hError.symm.trans hReplay
    · cases hError.symm.trans hError'
      exact hRefuses

/-- A record of another type and of an unknown kind is refused for its type. -/
example :
    let e : StoredEvent := ⟨"invoice", .ofNat 1, 1, 9, "Paid", .null, default⟩
    (Check.inOrder.filter fun check => (check.finds (.ofNat 1) [] e).isSome) = [.type, .kind] ∧
      objection (.ofNat 1) [] e = some (.type, .foreignType 1 (.ofNat 1) "invoice") := by
  decide +kernel

end Aggregate

end Galley
