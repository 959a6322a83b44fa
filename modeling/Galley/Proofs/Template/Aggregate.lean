import Galley.Template.Aggregate
import Galley.Proofs.Log.Store
import Galley.Proofs.Patch.RoundTrip
import Galley.Proofs.Template.Event

/-!
# Templates and their recorded history

A command changes a template by an event, and the event is what gets recorded. So a history that
goes on with the recorded event is replayed to the very template that the command made. This does
not depend on the content: the patch that an update records is applied by the command itself before
it is recorded, so whatever it makes of the content, replay makes the same of it.

That the patch makes the wanted content takes more: the content must be read back from its
canonical text.

Main results:

* `replay_ok` — what a replayed template knows about its history.
* `replay_number` — a history that goes on with a recorded event.
* `create_eq`, `update_eq`, `archive_eq` — what the commands do, content and all.
-/

namespace Galley.Aggregate

-- ---------------------------------------------------------------------------
-- One event
-- ---------------------------------------------------------------------------

/-- An event that is taken gives a state and counts. -/
theorem apply_ok {a b : Aggregate} {e : TemplateEvent} (h : a.apply e = .ok b) :
    ∃ s, applyState a.id a.version a.state e = .ok s ∧
      b = { a with state := some s, version := a.version + 1 } := by
  obtain ⟨s, hState, hb⟩ := map_eq_ok.mp h
  exact ⟨s, hState, hb.symm⟩

theorem version_of_snapshot {a : Aggregate} {t : Template} (h : a.snapshot = .ok t) :
    t.version = a.version := by
  rw [snapshot, toTemplate] at h
  cases hState : a.state with
  | none =>
    rw [hState] at h
    cases h
  | some s =>
    rw [hState] at h
    cases h
    rfl

/-- A template that has taken an event can be shown. -/
theorem snapshot_of_apply {a b : Aggregate} {e : TemplateEvent} (h : a.apply e = .ok b) :
    ∃ t, b.snapshot = .ok t ∧ t.version = a.version + 1 := by
  obtain ⟨s, -, rfl⟩ := apply_ok h
  exact ⟨_, rfl, rfl⟩

/-- A record that is taken counts and leaves the buffer alone. -/
theorem applyStored_ok {a b : Aggregate} {stored : StoredEvent} (h : a.applyStored stored = .ok b) :
    b.id = a.id ∧ b.version = a.version + 1 ∧ b.uncommitted = a.uncommitted ∧
      b.isCreated = true := by
  rw [applyStored] at h
  split at h
  · cases h
  split at h
  · cases h
  · obtain ⟨e, -, hApply⟩ := bind_eq_ok.mp h
    obtain ⟨s, -, rfl⟩ := apply_ok hApply
    exact ⟨rfl, rfl, rfl, rfl⟩

/-- The record of an event is taken as the event. -/
theorem applyStored_record (a : Aggregate) {e : TemplateEvent} (hValid : e.IsValid)
    (sequence : Nat) (recordedAt : Instant) :
    a.applyStored ⟨TemplateEvent.aggregateType, a.id, a.version + 1, sequence, e.kind, e.encode,
      recordedAt⟩ = a.apply e := by
  have hDecode : StoredEvent.decode ⟨TemplateEvent.aggregateType, a.id, a.version + 1, sequence,
      e.kind, e.encode, recordedAt⟩ = .ok e := by
    rw [StoredEvent.decode, if_neg (by simp)]
    exact TemplateEvent.decode_encode hValid
  rw [applyStored, if_neg (by simp), if_neg (by simp), hDecode]
  rfl

-- ---------------------------------------------------------------------------
-- Histories
-- ---------------------------------------------------------------------------

/-- Two histories are applied one after the other. -/
theorem applyAll_append (a : Aggregate) (first more : List StoredEvent) :
    applyAll a (first ++ more) = applyAll a first >>= fun b => applyAll b more := by
  induction first generalizing a with
  | nil => rfl
  | cons stored first ih =>
    rw [List.cons_append, applyAll, applyAll]
    cases a.applyStored stored with
    | error f => rfl
    | ok b => exact ih b

/-- **A history that can be applied** adds its length to the version and touches no event that
waits. -/
theorem applyAll_ok {history : List StoredEvent} :
    ∀ {a b : Aggregate}, applyAll a history = .ok b →
      b.id = a.id ∧ b.version = a.version + history.length ∧ b.uncommitted = a.uncommitted ∧
        (history ≠ [] → b.isCreated = true) := by
  induction history with
  | nil =>
    intro a b h
    cases h
    exact ⟨rfl, rfl, rfl, fun h => absurd rfl h⟩
  | cons stored history ih =>
    intro a b h
    obtain ⟨next, hNext, hRest⟩ := bind_eq_ok.mp h
    obtain ⟨hId, hVersion, hBuffer, hCreated⟩ := applyStored_ok hNext
    obtain ⟨hId', hVersion', hBuffer', hCreated'⟩ := ih hRest
    refine ⟨hId'.trans hId, by rw [hVersion', hVersion, List.length_cons]; omega,
      hBuffer'.trans hBuffer, fun _ => ?_⟩
    cases history with
    | nil =>
      cases hRest
      exact hCreated
    | cons _ _ => exact hCreated' (List.cons_ne_nil _ _)

/-- **What a replayed template knows about its history**: its version is the number of events, and
nothing waits to be appended. -/
theorem replay_ok {id : Uuid} {history : List StoredEvent} {a : Aggregate}
    (h : replay id history = .ok a) :
    a.id = id ∧ a.version = history.length ∧ a.uncommitted = [] ∧
      (history ≠ [] → a.isCreated = true) := by
  obtain ⟨hId, hVersion, hBuffer, hCreated⟩ := applyAll_ok h
  exact ⟨hId, by rw [hVersion]; exact Nat.zero_add _, hBuffer, hCreated⟩

/-- Replay of a history goes on with the records behind it. -/
theorem replay_append {id : Uuid} {history : List StoredEvent} {a : Aggregate}
    (h : replay id history = .ok a) (more : List StoredEvent) :
    replay id (history ++ more) = applyAll a more := by
  have hAll : replay id history = applyAll (empty id) history := rfl
  rw [replay, applyAll_append, ← hAll, h]
  rfl

/-- A replay that goes on by one record has taken what the record stands for. -/
theorem replay_append_ok {id : Uuid} {history : List StoredEvent} {stored : StoredEvent}
    {a b : Aggregate} (hBefore : replay id history = .ok a)
    (h : replay id (history ++ [stored]) = .ok b) :
    ∃ event, stored.decode = .ok event ∧ a.apply event = .ok b := by
  rw [replay_append hBefore] at h
  have hStep : (a.applyStored stored >>= fun next => next.applyAll []) = .ok b := h
  obtain ⟨next, hNext, hLast⟩ := bind_eq_ok.mp hStep
  cases hLast
  rw [applyStored] at hNext
  split at hNext
  · cases hNext
  split at hNext
  · cases hNext
  · exact bind_eq_ok.mp hNext

/-- A replay gives a template if there is anything to replay. -/
theorem exists_template_iff {id : Uuid} {history : List StoredEvent} {a : Aggregate}
    (h : replay id history = .ok a) : (∃ t, a.toTemplate = some t) ↔ history ≠ [] := by
  constructor
  · rintro ⟨t, hTemplate⟩ rfl
    cases h
    cases hTemplate
  · intro hSome
    obtain ⟨s, hState⟩ := Option.isSome_iff_exists.mp
      (show a.state.isSome = true from (replay_ok h).2.2.2 hSome)
    exact ⟨_, by rw [toTemplate, hState]; rfl⟩

/-- **A history that goes on with a recorded event** is replayed by taking the event. -/
theorem replay_number {id : Uuid} {history : List StoredEvent} {a : Aggregate}
    (hReplay : replay id history = .ok a) {e : TemplateEvent} (hValid : e.IsValid)
    (recordedAt : Instant) (sequence : Nat) :
    replay id (history ++
        EventStore.number id recordedAt history.length sequence [e.toNewEvent]) =
      a.apply e := by
  obtain ⟨hId, hVersion, -, -⟩ := replay_ok hReplay
  have hRecord : EventStore.number id recordedAt history.length sequence [e.toNewEvent] =
      [⟨TemplateEvent.aggregateType, a.id, a.version + 1, sequence + 1, e.kind, e.encode,
        recordedAt⟩] := by
    rw [hId, hVersion]
    rfl
  rw [replay_append hReplay, hRecord]
  show (a.applyStored _ >>= fun b => applyAll b []) = _
  rw [applyStored_record a hValid]
  cases a.apply e <;> rfl

-- ---------------------------------------------------------------------------
-- Commands
-- ---------------------------------------------------------------------------

/-- A command that records an event has taken it. -/
theorem record_ok {a b : Aggregate} {e : TemplateEvent} (h : a.record e = .ok b) :
    ∃ next, a.apply e = .ok next ∧
      b = { next with uncommitted := next.uncommitted ++ [e] } := by
  obtain ⟨next, hApply, hb⟩ := map_eq_ok.mp h
  exact ⟨next, hApply, hb.symm⟩

/-- An event recorded on a fresh template is all that waits to be appended, on top of the version
that the template had. -/
theorem record_fresh {a b : Aggregate} {e : TemplateEvent} (hBuffer : a.uncommitted = [])
    (h : a.record e = .ok b) :
    ∃ next, a.apply e = .ok next ∧ b = { next with uncommitted := [e] } ∧
      b.expectedVersion = a.version := by
  obtain ⟨next, hApply, rfl⟩ := record_ok h
  obtain ⟨s, -, rfl⟩ := apply_ok hApply
  refine ⟨_, hApply, by rw [hBuffer]; rfl, ?_⟩
  rw [expectedVersion, hBuffer]
  rfl

theorem record_eq {a next : Aggregate} {e : TemplateEvent} (h : a.apply e = .ok next) :
    a.record e = .ok { next with uncommitted := next.uncommitted ++ [e] } := by
  rw [record, h]
  rfl

/-- Content is patched as text. -/
theorem patchContent_eq_ok {content next : Content} {patch : String} :
    patchContent content patch = .ok next ↔
      ∃ text, Patch.apply content.toText patch = .ok text ∧ Content.parse text = .ok next := by
  rw [patchContent]
  cases Patch.apply content.toText patch with
  | error cause => simp
  | ok text =>
    simp only [Except.ok.injEq, exists_eq_left']
    cases Content.parse text with
    | error message => simp only [reduceCtorEq]
    | ok content => simp only [Except.ok.injEq]

/-- The patch between the canonical texts of two contents turns the first into the second, if that
is read back from its text. -/
theorem patchContent_diff (a : Content) {b : Content} (hPlain : b.IsPlain)
    (ha : Text.byteLength a.toText.toList < Word.values64)
    (hb : Text.byteLength b.toText.toList < Word.values64) :
    patchContent a (Patch.diff a.toText b.toText) = .ok b := by
  exact patchContent_eq_ok.mpr ⟨_, Patch.apply_diff ha hb, Content.parse_toText hPlain⟩

/-- A creation, of a name that is not blank. -/
theorem create_eq {name : String} (hName : isBlankName name = false) (now : Instant) (id : Uuid)
    (description : String) (content : Content) :
    create now id name description content =
      .ok ⟨id, some ⟨name, description, content, false, now, now⟩, 1,
        [.created name description content now]⟩ := by
  rw [create, hName]
  rfl

/-- Taking the event of an update, of a template that has been created. -/
theorem apply_updated {a : Aggregate} {s : TemplateState} (hState : a.state = some s)
    (now : Instant) (name description : String) {content : Content} (hPlain : content.IsPlain)
    (hOld : Text.byteLength s.content.toText.toList < Word.values64)
    (hNew : Text.byteLength content.toText.toList < Word.values64) :
    a.apply (.updated name description (Patch.diff s.content.toText content.toText) now) =
      .ok { a with
        state := some { s with
          name := name, description := description, content := content, updatedAt := now }
        version := a.version + 1 } := by
  rw [apply, hState, applyState, patchContent_diff _ hPlain hOld hNew]
  rfl

/-- An update, of a template that has been created. -/
theorem update_eq {a : Aggregate} {s : TemplateState} (hState : a.state = some s) {name : String}
    (hName : isBlankName name = false) (now : Instant) (description : String) {content : Content}
    (hPlain : content.IsPlain) (hOld : Text.byteLength s.content.toText.toList < Word.values64)
    (hNew : Text.byteLength content.toText.toList < Word.values64) :
    a.update now name description content =
      .ok { a with
        state := some { s with
          name := name, description := description, content := content, updatedAt := now }
        version := a.version + 1
        uncommitted := a.uncommitted ++ [.updated name description
          (Patch.diff s.content.toText content.toText) now] } := by
  rw [update]
  simp only [hState, hName]
  exact record_eq (apply_updated hState now name description hPlain hOld hNew)

/-- An archiving, of a template that has been created and not archived. -/
theorem archive_eq {a : Aggregate} {s : TemplateState} (hState : a.state = some s)
    (hArchived : s.archived = false) (now : Instant) :
    a.archive now =
      .ok { a with
        state := some { s with archived := true, updatedAt := now }
        version := a.version + 1
        uncommitted := a.uncommitted ++ [.archived now] } := by
  have hApply : a.apply (.archived now) =
      .ok { a with
        state := some { s with archived := true, updatedAt := now }
        version := a.version + 1 } := by
    rw [apply, hState]
    rfl
  rw [archive]
  simp only [hState, hArchived]
  exact record_eq hApply

end Galley.Aggregate
