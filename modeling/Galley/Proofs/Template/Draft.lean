import Galley.Template.Draft
import Galley.Proofs.Template.Command

/-!
# Drafts that fail as a whole

Steps on a draft overwrite one part after another, and nothing is taken back when one of them fails.
Still a command that fails leaves the draft as it was, as do an event that cannot be taken and a
patch that leads nowhere: all that can fail comes before the first part that is overwritten. So on a
draft that stands for an aggregate, steps do what the function on aggregates does, or they fail and
leave the draft alone (`settled`). What commands do to a draft is then known from the functions.

Every event that is taken counts, and every one that a command takes is kept for the next append. So
the buffer holds the events since the version at which it was empty, and it is on top of that
version that it must be appended.

Main results:

* `on_apply`, `on_perform` — steps on the draft of an aggregate.
* `create_eq`, `replay_eq` — how drafts come about.
* `isArchived_of_on_archive` — what archiving comes to, whatever is done afterwards.
* `isSound_of_reached` — what holds of every draft, and that what fails leaves it alone.
-/

namespace Galley

namespace Edit

variable {α β : Type} (d : Draft)

-- ---------------------------------------------------------------------------
-- Steps
-- ---------------------------------------------------------------------------

/-- One edit after another: if the first one fails, the second is not made. -/
theorem on_bind (x : Edit α) (f : α → Edit β) : (x >>= f).on d =
    match x.on d with
    | (.ok a, d) => (f a).on d
    | (.error e, d) => (.error e, d) := by
  show ((x >>= f).run.run d) = _
  rw [ExceptT.run_bind, StateT.run_bind]
  rcases hx : x.on d with ⟨_ | a, d'⟩ <;>
    (rw [show x.run.run d = _ from hx]; rfl)

@[simp] theorem on_pure (a : α) : (pure a : Edit α).on d = (.ok a, d) := rfl

@[simp] theorem on_get : (get : Edit Draft).on d = (.ok d, d) := rfl

@[simp] theorem on_modify (f : Draft → Draft) : (modify f : Edit Unit).on d = (.ok (), f d) := rfl

@[simp] theorem on_throw (f : Failure) : (throw f : Edit α).on d = (.error f, d) := rfl

@[simp] theorem on_ofExcept (x : Except Failure α) :
    (MonadExcept.ofExcept x : Edit α).on d = (x, d) := by
  cases x <;> rfl

end Edit

namespace Draft

/-- What steps on the draft of an aggregate come to, told by what the aggregate becomes: its draft,
or a failure and the draft as it was. -/
def settled (a : Aggregate) : Except Failure Aggregate → Except Failure Unit × Draft
  | .ok b => (.ok (), ofAggregate b)
  | .error f => (.error f, ofAggregate a)

variable (a : Aggregate)

/-- What a writer does to the buffer of a draft is done to that of its aggregate. -/
theorem ofAggregate_buffer (events : List TemplateEvent) :
    { ofAggregate a with uncommitted := events } =
      ofAggregate { a with uncommitted := events } := by
  obtain ⟨id, state, version, uncommitted⟩ := a
  cases state <;> rfl

theorem uncommitted_ofAggregate : (ofAggregate a).uncommitted = a.uncommitted := by
  obtain ⟨id, state, version, uncommitted⟩ := a
  cases state <;> rfl

theorem id_ofAggregate : (ofAggregate a).id = a.id := by
  obtain ⟨id, state, version, uncommitted⟩ := a
  cases state <;> rfl

theorem version_ofAggregate : (ofAggregate a).version = a.version := by
  obtain ⟨id, state, version, uncommitted⟩ := a
  cases state <;> rfl

theorem isCreated_ofAggregate : (ofAggregate a).isCreated = a.isCreated := by
  obtain ⟨id, state, version, uncommitted⟩ := a
  cases state <;> rfl

-- ---------------------------------------------------------------------------
-- Events
-- ---------------------------------------------------------------------------

/-- **An event is taken as a whole or not at all.** -/
theorem on_apply (e : TemplateEvent) : (apply e).on (ofAggregate a) = settled a (a.apply e) := by
  obtain ⟨id, state, version, uncommitted⟩ := a
  cases state with
  | none => cases e <;> rfl
  | some s =>
    cases e with
    | created name description content t => rfl
    | archived t => rfl
    | updated name description patch t =>
      -- the last step that can fail gives the content, which is the first part to be overwritten
      rw [Aggregate.apply, Aggregate.applyState]
      cases hPatch : Aggregate.patchContent s.content patch <;>
        simp [apply, overwrite, ensureCreated, isCreated, ofAggregate, settled, Edit.on_bind,
          Except.map, hPatch]

/-- An event is recorded as a whole or not at all. -/
theorem on_record (e : TemplateEvent) : (record e).on (ofAggregate a) = settled a (a.record e) := by
  rw [record, Edit.on_bind, on_apply, Aggregate.record]
  cases a.apply e with
  | error f => rfl
  | ok b =>
    show (Except.ok (),
      { ofAggregate b with uncommitted := (ofAggregate b).uncommitted ++ [e] }) = _
    rw [uncommitted_ofAggregate, ofAggregate_buffer]
    rfl

/-- A record is taken as a whole or not at all. -/
theorem on_applyStored (stored : StoredEvent) :
    (applyStored stored).on (ofAggregate a) = settled a (a.applyStored stored) := by
  rw [applyStored, Edit.on_bind, Edit.on_get]
  dsimp only
  rw [id_ofAggregate, version_ofAggregate, Aggregate.applyStored]
  by_cases hOwner : stored.aggregateId ≠ a.id
  · rw [if_pos hOwner, if_pos hOwner]
    rfl
  by_cases hVersion : stored.version ≠ a.version + 1
  · rw [if_neg hOwner, if_neg hOwner, if_pos hVersion]
    simp [hVersion, settled]
  · rw [if_neg hOwner, if_neg hOwner, if_neg hVersion]
    simp only [hVersion, ↓reduceIte, Edit.on_bind, Edit.on_ofExcept]
    cases stored.decode with
    | error f => rfl
    | ok e => exact on_apply a e

/-- A list of records is taken up to the first that cannot be; all in all it makes the same of a
draft as of its aggregate. -/
theorem resultOn_applyAll (history : List StoredEvent) :
    (applyAll history).resultOn (ofAggregate a) = (a.applyAll history).map ofAggregate := by
  induction history generalizing a with
  | nil => rfl
  | cons stored history ih =>
    rw [applyAll, Edit.resultOn, Edit.on_bind, on_applyStored, Aggregate.applyAll]
    cases a.applyStored stored with
    | error f => rfl
    | ok b => exact ih b

/-- **A draft that was rebuilt** is the draft of the aggregate that was. -/
theorem replay_eq (id : Uuid) (history : List StoredEvent) :
    replay id history = (Aggregate.replay id history).map ofAggregate :=
  resultOn_applyAll (.empty id) history

-- ---------------------------------------------------------------------------
-- Commands
-- ---------------------------------------------------------------------------

/-- **A draft that was started** is the draft of the aggregate that was. -/
theorem create_eq (now : Instant) (id : Uuid) (name description : String) (content : Content) :
    create now id name description content =
      (Aggregate.create now id name description content).map ofAggregate := by
  rw [create, Aggregate.create]
  split
  · rfl
  · show (record _).resultOn (ofAggregate (.empty id)) = _
    rw [Edit.resultOn, on_record]
    cases (Aggregate.empty id).record (.created name description content now) <;> rfl

/-- Carries out a command. -/
def carryOut : Aggregate.Command → Edit Unit
  | .update now name description content => update now name description content
  | .archive now => archive now

/-- A draft that does not exist is not edited. -/
theorem on_ensureExists (d : Draft) : ensureExists.on d =
    if d.isCreated then (.ok (), d) else (.error (.notFound d.id), d) := by
  rw [ensureExists, Edit.on_bind, Edit.on_get]
  dsimp only
  split <;> rfl

/-- A blank name is refused. -/
theorem on_ensureNamed (name : String) (d : Draft) : (ensureNamed name).on d =
    if Aggregate.isBlankName name then (.error .blankName, d) else (.ok (), d) := by
  rw [ensureNamed]
  split <;> rfl

/-- A command is carried out as a whole or not at all. -/
theorem on_carryOut (c : Aggregate.Command) :
    (carryOut c).on (ofAggregate a) = settled a (a.carryOut c) := by
  have hCreated : (ofAggregate a).isCreated = a.state.isSome := isCreated_ofAggregate a
  -- the checks come first on both sides, so an error finds nothing overwritten
  cases c with
  | update now name description content =>
    rw [carryOut, update, Aggregate.carryOut, Aggregate.update, Edit.on_bind, on_ensureExists,
      hCreated, id_ofAggregate]
    cases hState : a.state with
    | none => rfl
    | some s =>
      have hContent : (ofAggregate a).content = s.content := by rw [ofAggregate, hState]
      cases hName : Aggregate.isBlankName name with
      | true => simp [Edit.on_bind, on_ensureNamed, hName, settled]
      | false =>
        simp only [Option.isSome_some, ↓reduceIte, Edit.on_bind, on_ensureNamed, hName,
          Bool.false_eq_true, Edit.on_get, hContent]
        exact on_record a _
  | archive now =>
    rw [carryOut, archive, Aggregate.carryOut, Aggregate.archive, Edit.on_bind, on_ensureExists,
      hCreated, id_ofAggregate]
    cases hState : a.state with
    | none => rfl
    | some s =>
      have hArchived : (ofAggregate a).archived = s.archived := by rw [ofAggregate, hState]
      simp only [Option.isSome_some, ↓reduceIte, Edit.on_bind, Edit.on_get, hArchived]
      split
      · rfl
      · exact on_record a _

-- ---------------------------------------------------------------------------
-- What a writer does
-- ---------------------------------------------------------------------------

/-- What a writer does to a draft. -/
inductive Operation where
  | record (e : TemplateEvent)
  | command (c : Aggregate.Command)
  | takeUncommitted
  | clear

namespace Operation

/-- Whether an operation empties the buffer. -/
def drains : Operation → Bool
  | takeUncommitted | clear => true
  | record _ | command _ => false

/-- What an operation does to an aggregate. -/
def onAggregate : Operation → Aggregate → Except Failure Aggregate
  | record e, a => a.record e
  | command c, a => a.carryOut c
  | takeUncommitted, a => .ok a.takeUncommitted.2
  | clear, a => .ok a.clear

end Operation

/-- Carries out an operation. -/
def perform : Operation → Edit Unit
  | .record e => record e
  | .command c => carryOut c
  | .takeUncommitted => discard takeUncommitted
  | .clear => clear

/-- The draft behind an operation, whether it failed or not. -/
def after (d : Draft) (op : Operation) : Draft := ((perform op).on d).2

/-- **An operation is carried out as a whole or not at all.** -/
theorem on_perform (op : Operation) :
    (perform op).on (ofAggregate a) = settled a (op.onAggregate a) := by
  cases op with
  | record e => exact on_record a e
  | command c => exact on_carryOut a c
  | takeUncommitted => exact congrArg (Prod.mk (Except.ok ())) (ofAggregate_buffer a [])
  | clear => exact congrArg (Prod.mk (Except.ok ())) (ofAggregate_buffer a [])

/-- The drafts that a writer can come to have, and the version of each when its buffer was empty for
the last time: when it was started or rebuilt, or when the buffer was taken or cleared. -/
inductive Reached : Draft → (drained : Nat) → Prop
  | empty (id : Uuid) : Reached (empty id) 0
  | created {now : Instant} {id : Uuid} {name description : String} {content : Content} {d : Draft}
      (h : create now id name description content = .ok d) : Reached d 0
  | replayed {id : Uuid} {history : List StoredEvent} {d : Draft} (h : replay id history = .ok d) :
      Reached d d.version
  | changed {d : Draft} {drained : Nat} (h : Reached d drained) {op : Operation}
      (hKeeps : op.drains = false) : Reached (d.after op) drained
  | drained {d : Draft} {drained : Nat} (h : Reached d drained) {op : Operation}
      (hDrains : op.drains = true) : Reached (d.after op) d.version

/-- What holds of the aggregate of a draft whose buffer was empty for the last time at a version. -/
structure Counts (a : Aggregate) (drained : Nat) : Prop where
  version : a.version = drained + a.uncommitted.length
  created : a.version = 0 ↔ a.isCreated = false

variable {a}

/-- An event that is recorded counts in the version and in the buffer. -/
theorem Counts.record {drained : Nat} (h : Counts a drained) {e : TemplateEvent} {b : Aggregate}
    (hRecord : a.record e = .ok b) : Counts b drained := by
  obtain ⟨next, hTaken, rfl⟩ := Aggregate.record_ok hRecord
  obtain ⟨s, -, rfl⟩ := Aggregate.apply_ok hTaken
  have hVersion := h.version
  refine ⟨?_, ?_⟩
  · simp only [List.length_append, List.length_singleton]
    omega
  · simp [Aggregate.isCreated]

/-- An operation that goes through keeps the counts, from the version on at which the buffer was
empty for the last time. -/
theorem Counts.onAggregate {drained : Nat} (h : Counts a drained) {op : Operation} {b : Aggregate}
    (hDone : op.onAggregate a = .ok b) :
    Counts b (if op.drains then a.version else drained) := by
  cases op with
  | record e => exact h.record hDone
  | command c =>
    obtain rfl | ⟨e, -, hRecord⟩ := Aggregate.carryOut_ok hDone
    · exact h
    · exact h.record hRecord
  | takeUncommitted | clear =>
    cases hDone
    exact ⟨rfl, h.created⟩

/-- A rebuilt aggregate has counted its events, and has nothing in the buffer. -/
theorem counts_replay {id : Uuid} {history : List StoredEvent}
    (h : Aggregate.replay id history = .ok a) : Counts a a.version := by
  obtain ⟨-, hVersion, hBuffer, hCreated⟩ := Aggregate.replay_ok h
  refine ⟨by rw [hBuffer]; rfl, ?_⟩
  rw [hVersion, List.length_eq_zero_iff]
  constructor
  · rintro rfl
    cases h
    rfl
  · intro hNot
    by_contra hSome
    rw [hCreated hSome] at hNot
    cases hNot

theorem counts_empty (id : Uuid) : Counts (.empty id) 0 :=
  ⟨rfl, by simp [Aggregate.empty, Aggregate.isCreated]⟩

/-- The draft behind an operation is that of the aggregate that it leads to, or the same draft. -/
theorem after_ofAggregate (op : Operation) : ∃ b, (ofAggregate a).after op = ofAggregate b ∧
    (op.onAggregate a = .ok b ∨ op.drains = false ∧ b = a) := by
  rw [after, on_perform]
  cases hDone : op.onAggregate a with
  | ok b => exact ⟨b, rfl, .inl rfl⟩
  | error f =>
    refine ⟨a, rfl, .inr ⟨?_, rfl⟩⟩
    cases op with
    | record e => rfl
    | command c => rfl
    | takeUncommitted | clear => cases hDone

/-- **Every draft is that of an aggregate whose counts are right.** -/
theorem Reached.exists_aggregate {d : Draft} {drained : Nat} (h : Reached d drained) :
    ∃ a, d = ofAggregate a ∧ Counts a drained := by
  induction h with
  | empty id => exact ⟨.empty id, rfl, counts_empty id⟩
  | created h =>
    rw [create_eq] at h
    obtain ⟨a, hCreate, rfl⟩ := map_eq_ok.mp h
    rw [Aggregate.create] at hCreate
    split at hCreate
    · cases hCreate
    · exact ⟨a, rfl, (counts_empty _).record hCreate⟩
  | replayed h =>
    rw [replay_eq] at h
    obtain ⟨a, hReplay, rfl⟩ := map_eq_ok.mp h
    exact ⟨a, rfl, version_ofAggregate a ▸ counts_replay hReplay⟩
  | changed h hKeeps ih =>
    obtain ⟨a, rfl, hCounts⟩ := ih
    obtain ⟨b, hAfter, hDone | ⟨-, rfl⟩⟩ := after_ofAggregate (a := a) _
    · have hStep := hCounts.onAggregate hDone
      rw [hKeeps] at hStep
      exact ⟨b, hAfter, hStep⟩
    · exact ⟨b, hAfter, hCounts⟩
  | drained h hDrains ih =>
    obtain ⟨a, rfl, hCounts⟩ := ih
    obtain ⟨b, hAfter, hDone | ⟨hKeeps, -⟩⟩ := after_ofAggregate (a := a) _
    · have hStep := hCounts.onAggregate hDone
      rw [if_pos hDrains, ← version_ofAggregate] at hStep
      exact ⟨b, hAfter, hStep⟩
    · cases hDrains.symm.trans hKeeps

-- ---------------------------------------------------------------------------
-- Archived for good
-- ---------------------------------------------------------------------------

/-- Whether an aggregate is that of an archived template. -/
def IsArchived (a : Aggregate) : Prop := ∃ s, a.state = some s ∧ s.archived = true

/-- A recorded event leaves an archived template archived. -/
theorem IsArchived.record (h : IsArchived a) {e : TemplateEvent} {b : Aggregate}
    (hRecord : a.record e = .ok b) : IsArchived b := by
  obtain ⟨s, hState, hArchived⟩ := h
  obtain ⟨next, hTaken, rfl⟩ := Aggregate.record_ok hRecord
  obtain ⟨s', hNext, rfl⟩ := Aggregate.apply_ok hTaken
  refine ⟨s', rfl, ?_⟩
  rw [hState] at hNext
  cases e with
  | created name description content t => cases hNext
  | archived t =>
    cases hNext
    rfl
  | updated name description patch t =>
    obtain ⟨content, -, rfl⟩ := map_eq_ok.mp hNext
    exact hArchived

/-- Whatever a writer does, an archived template stays archived. -/
theorem IsArchived.after (h : IsArchived a) (op : Operation) :
    ∃ b, (ofAggregate a).after op = ofAggregate b ∧ IsArchived b := by
  obtain ⟨b, hAfter, hDone | ⟨-, rfl⟩⟩ := after_ofAggregate (a := a) op
  · refine ⟨b, hAfter, ?_⟩
    cases op with
    | record e => exact h.record hDone
    | command c =>
      obtain rfl | ⟨e, -, hRecord⟩ := Aggregate.carryOut_ok hDone
      · exact h
      · exact h.record hRecord
    | takeUncommitted | clear =>
      cases hDone
      exact h
  · exact ⟨b, hAfter, h⟩

/-- What is archived stays so, whatever is done. -/
theorem IsArchived.afterAll (h : IsArchived a) (ops : List Operation) :
    ∃ b, ops.foldl Draft.after (ofAggregate a) = ofAggregate b ∧ IsArchived b := by
  induction ops generalizing a with
  | nil => exact ⟨a, rfl, h⟩
  | cons op ops ih =>
    obtain ⟨b, hAfter, hArchived⟩ := h.after op
    rw [List.foldl_cons, hAfter]
    exact ih hArchived

/-- Archiving that goes through leaves an archived template. -/
theorem isArchived_archive {now : Instant} {b : Aggregate} (h : a.archive now = .ok b) :
    IsArchived b := by
  rw [Aggregate.archive] at h
  cases hState : a.state with
  | none =>
    rw [hState] at h
    cases h
  | some s =>
    simp only [hState] at h
    split at h
    · next hArchived =>
      cases h
      exact ⟨s, hState, hArchived⟩
    · obtain ⟨next, hTaken, rfl⟩ := Aggregate.record_ok h
      obtain ⟨s', hNext, rfl⟩ := Aggregate.apply_ok hTaken
      rw [hState] at hNext
      cases hNext
      exact ⟨_, rfl, rfl⟩

/-- Once archiving has gone through, the template stays archived, whatever a writer does. -/
theorem isArchived_of_on_archive {now : Instant}
    (hDone : ((archive now).on (ofAggregate a)).1 = .ok ()) (ops : List Operation) :
    ∃ b, ops.foldl Draft.after ((ofAggregate a).after (.command (.archive now))) = ofAggregate b ∧
      IsArchived b := by
  have hOn : (archive now).on (ofAggregate a) = settled a (a.archive now) :=
    on_carryOut a (.archive now)
  have hAfter : (ofAggregate a).after (.command (.archive now)) =
      ((archive now).on (ofAggregate a)).2 := rfl
  rw [hOn] at hDone
  rw [hAfter, hOn]
  cases hArchive : a.archive now with
  | error f =>
    rw [hArchive] at hDone
    cases hDone
  | ok b => exact (isArchived_archive hArchive).afterAll ops

/-- An archived template is not archived again. -/
theorem IsArchived.on_archive (h : IsArchived a) (now : Instant) :
    (archive now).on (ofAggregate a) = (.ok (), ofAggregate a) := by
  obtain ⟨s, hState, hArchived⟩ := h
  have hSame : a.archive now = .ok a := by
    simp only [Aggregate.archive, hState, hArchived, ↓reduceIte]
  have hOn := on_carryOut a (.archive now)
  rw [Aggregate.carryOut, hSame] at hOn
  exact hOn

-- ---------------------------------------------------------------------------
-- Every draft
-- ---------------------------------------------------------------------------

/-- What holds of a draft whose buffer was empty for the last time at a version. -/
structure IsSound (d : Draft) (drained : Nat) : Prop where
  /-- The version counts the events in the buffer. -/
  buffered : d.uncommitted.length ≤ d.version
  /-- The buffer must be appended on top of the version at which it was empty. -/
  expected : d.expectedVersion = drained
  /-- A template is created by its first event. -/
  created : d.version = 0 ↔ d.isCreated = false
  /-- An operation that fails leaves every part as it was. -/
  unharmed : ∀ op f, ((perform op).on d).1 = .error f → d.after op = d
  /-- A template that has been archived is not archived again, whatever is done in between. -/
  archivedOnce : ∀ now, ((archive now).on d).1 = .ok () → ∀ (ops : List Operation) (now' : Instant),
    let later := ops.foldl Draft.after (d.after (.command (.archive now)))
    (archive now').on later = (.ok (), later)

/-- **Every draft that a writer can come to have is sound**, whichever operations have failed on the
way. -/
theorem isSound_of_reached {d : Draft} {drained : Nat} (h : Reached d drained) :
    IsSound d drained := by
  obtain ⟨a, rfl, hCounts⟩ := h.exists_aggregate
  have hVersion := hCounts.version
  refine ⟨?_, ?_, ?_, ?_, ?_⟩
  · rw [uncommitted_ofAggregate, version_ofAggregate]
    omega
  · rw [expectedVersion, uncommitted_ofAggregate, version_ofAggregate]
    omega
  · rw [version_ofAggregate, isCreated_ofAggregate]
    exact hCounts.created
  · intro op f hFailed
    rw [on_perform] at hFailed
    rw [after, on_perform]
    cases hDone : op.onAggregate a with
    | ok b =>
      rw [hDone] at hFailed
      cases hFailed
    | error f => rfl
  · intro now hDone ops now' later
    obtain ⟨b, hLater, hArchived⟩ := isArchived_of_on_archive hDone ops
    have hHere : later = ofAggregate b := hLater
    rw [hHere]
    exact hArchived.on_archive now'

/-- What a writer does who archives a template before it is there, creates it, changes it by a patch
that is none and gives it a blank name. -/
def misuses : List Operation :=
  [.command (.archive default), .record (.created "a" "" .empty default),
    .record (.updated "b" "" "@@ " default), .command (.update default " " "" .empty)]

/-- The draft after that, when its buffer is taken and it is archived. -/
def misused : Draft :=
  ((misuses.foldl after (empty default)).after .takeUncommitted).after (.command (.archive default))

/-- Only the creation and the archiving count, and the archiving waits to be appended on top of the
creation. -/
theorem isSound_of_reached_misused :
    Reached misused 1 ∧ (misused.version, misused.uncommitted.length) = (2, 1) ∧
      IsSound misused 1 := by
  have hMisuses : Reached (misuses.foldl after (empty default)) 0 :=
    ((((Reached.empty default).changed rfl).changed rfl).changed rfl).changed rfl
  have hVersion : (misuses.foldl after (empty default)).version = 1 := by decide +kernel
  have hTaken : Reached ((misuses.foldl after (empty default)).after .takeUncommitted) 1 :=
    hVersion ▸ hMisuses.drained rfl
  have hReached : Reached misused 1 := hTaken.changed rfl
  exact ⟨hReached, by decide +kernel, isSound_of_reached hReached⟩

end Draft

end Galley
