import Galley.Proofs.Service.Call

/-!
# The service as a registry of rows

The service keeps no templates, only events; every call replays a stream, takes patches of canonical
texts, and appends with a check of the version. Seen from outside, when calls come one after
another, it is a plain registry that keeps one row for each template.

The registry and the events agree (`Agrees`) if each stream is replayed to its row. A call keeps
them in agreement and answers alike (`Agrees.step`); a run follows by induction on the calls.

Contents must be plain, so that a patch makes the content it was made for, and their canonical texts
must fit in memory.

Main results:

* `Agrees.step` — one call on agreeing sides.
* `answers_eq_registry` — a run of calls answers like the registry.
-/

namespace Galley.Service

-- ---------------------------------------------------------------------------
-- The registry
-- ---------------------------------------------------------------------------

/-- What is kept of a template. -/
structure Row where
  name : String
  description : String
  content : Content
  archived : Bool
  createdAt : Instant
  updatedAt : Instant
  version : Nat

namespace Row

/-- The row as clients see it. -/
def toTemplate (id : Uuid) (row : Row) : Template :=
  ⟨id, row.name, row.description, row.content, row.archived, row.createdAt, row.updatedAt,
    row.version⟩

/-- The row of a new template. -/
def new (now : Instant) (name description : String) (content : Content) : Row :=
  ⟨name, description, content, false, now, now, 1⟩

/-- The row after an update. -/
def update (now : Instant) (name description : String) (content : Content) (row : Row) : Row :=
  { row with
    name := name, description := description, content := content, updatedAt := now
    version := row.version + 1 }

/-- The row after an archiving. -/
def archive (now : Instant) (row : Row) : Row :=
  { row with archived := true, updatedAt := now, version := row.version + 1 }

end Row

/-- At most one row for each template. -/
abbrev Registry := Uuid → Option Row

namespace Registry

/-- The registry without rows. -/
def empty : Registry := fun _ => none

/-- The registry with a row in place. -/
def put (r : Registry) (id : Uuid) (row : Row) : Registry := fun other =>
  if other = id then some row else r other

/-- Puts a row in place and gives the template. -/
def store (r : Registry) (id : Uuid) (row : Row) : Except Code Template × Registry :=
  (.ok (row.toTemplate id), r.put id row)

/-- What a call does to the rows. A failed call changes none. -/
def step (now : Instant) (r : Registry) : Call → Except Code Template × Registry
  | .create id name description content =>
    if Aggregate.isBlankName name then (.error .validationError, r)
    else if (r id).isSome then (.error .concurrencyConflict, r)
    else r.store id (.new now name description content)
  | .get id =>
    match r id with
    | none => (.error .templateNotFound, r)
    | some row => (.ok (row.toTemplate id), r)
  | .update id name description content expected =>
    match r id with
    | none => (.error .templateNotFound, r)
    | some row =>
      if Aggregate.isBlankName name then (.error .validationError, r)
      else if expected.getD row.version ≠ row.version then (.error .concurrencyConflict, r)
      else r.store id (row.update now name description content)
  | .archive id =>
    match r id with
    | none => (.error .templateNotFound, r)
    | some row =>
      if row.archived then (.ok (row.toTemplate id), r) else r.store id (row.archive now)

/-- The answers to calls that come one after another, and the rows afterwards. -/
def run (r : Registry) : List (Clock × Call) → List (Except Code Template) × Registry
  | [] => ([], r)
  | (clock, c) :: rest =>
    let (answer, r) := r.step clock.happened c
    let (answers, r) := run r rest
    (answer :: answers, r)

variable {r : Registry} {id : Uuid} {row : Row} {name : String}

theorem step_get (now : Instant) (hRow : r id = some row) :
    r.step now (.get id) = (.ok (row.toTemplate id), r) := by
  rw [step, hRow]

/-- A template with a name is created, if there is none yet. -/
theorem step_create (now : Instant) (hName : Aggregate.isBlankName name = false)
    (description : String) (content : Content) (hNew : r id = none) :
    r.step now (.create id name description content) =
      r.store id (.new now name description content) := by
  rw [step, if_neg (by rw [hName]; decide), if_neg (by rw [hNew]; decide)]

/-- A row is updated, if its version is the one that was named. -/
theorem step_update (now : Instant) (hName : Aggregate.isBlankName name = false)
    (description : String) (content : Content) {expected : Option Nat} (hRow : r id = some row)
    (hExpected : expected.getD row.version = row.version) :
    r.step now (.update id name description content expected) =
      r.store id (row.update now name description content) := by
  rw [step, hRow]
  simp only
  rw [if_neg (by rw [hName]; decide), if_neg (not_not_intro hExpected)]

theorem store_self (r : Registry) (id : Uuid) (row : Row) : (r.store id row).2 id = some row :=
  if_pos rfl

end Registry

/-- The result as its caller can tell it: the template, or the code of the failure. -/
def answer (result : Except Failure Template) : Except Code Template := result.mapError Failure.code

-- ---------------------------------------------------------------------------
-- Agreement
-- ---------------------------------------------------------------------------

/-- Content whose canonical text is read back and fits in memory. -/
structure Keeps (content : Content) : Prop where
  plain : content.IsPlain
  fits : Text.byteLength content.toText.toList < Word.values64

/-- The state that a row stands for. -/
def Row.state (row : Row) : TemplateState :=
  ⟨row.name, row.description, row.content, row.archived, row.createdAt, row.updatedAt⟩

/-- The template that a row stands for. -/
def Row.toAggregate (id : Uuid) (row : Row) : Aggregate := ⟨id, some row.state, row.version, []⟩

/-- A stream stands for a row if it is replayed to it, and an empty one for none. -/
def StandsFor (id : Uuid) (history : List StoredEvent) : Option Row → Prop
  | none => history = []
  | some row =>
    history ≠ [] ∧ Aggregate.replay id history = .ok (row.toAggregate id) ∧ Keeps row.content

/-- Each stream stands for its row. -/
def Agrees (s : EventStore) (r : Registry) : Prop := ∀ id, StandsFor id (s.held id) (r id)

theorem agrees_empty : Agrees .empty .empty := fun _ => rfl

/-- A stream that goes on with an event stands for the row that the event makes. -/
theorem Agrees.put {s : EventStore} {r : Registry} (h : Agrees s r) {id : Uuid} {a : Aggregate}
    (hReplay : Aggregate.replay id (s.held id) = .ok a) {e : TemplateEvent} (hValid : e.IsValid)
    {row : Row} (hTaken : a.apply e = .ok (row.toAggregate id)) (hKeeps : Keeps row.content)
    (now : Instant) :
    Agrees (s.grown id (EventStore.number id now (s.held id).length s.lastSequence [e.toNewEvent]))
      (r.put id row) := by
  intro other
  by_cases hOther : other = id
  · subst hOther
    rw [EventStore.held_grown_self, Registry.put, if_pos rfl]
    refine ⟨?_, ?_, hKeeps⟩
    · intro hNil
      exact List.cons_ne_nil _ _ (List.append_eq_nil_iff.mp hNil).2
    · rw [Aggregate.replay_number hReplay hValid, hTaken]
  · rw [EventStore.held_grown_of_ne s hOther, Registry.put, if_neg hOther]
    exact h other

/-- A template with a row is loaded as that row. -/
theorem Agrees.load {s : EventStore} {r : Registry} (h : Agrees s r) {id : Uuid} {row : Row}
    (hRow : r id = some row) :
    s.held id ≠ [] ∧ s.load id = .ok (s.held id) ∧
      Aggregate.replay id (s.held id) = .ok (row.toAggregate id) ∧
      (s.held id).length = row.version ∧ Keeps row.content := by
  have hStands := h id
  rw [hRow] at hStands
  obtain ⟨hSome, hReplay, hKeeps⟩ := hStands
  refine ⟨hSome, by rw [EventStore.load_eq, EventStore.loaded, if_neg hSome], hReplay, ?_, hKeeps⟩
  exact (Aggregate.replay_ok hReplay).2.1.symm

/-- A template without a row is not found. -/
theorem Agrees.load_none {s : EventStore} {r : Registry} (h : Agrees s r) {id : Uuid}
    (hRow : r id = none) : s.held id = [] ∧ s.load id = .error (.notFound id) := by
  have hStands := h id
  rw [hRow] at hStands
  have hNil : s.held id = [] := hStands
  exact ⟨hNil, by rw [EventStore.load_eq, EventStore.loaded, if_pos hNil]⟩

-- ---------------------------------------------------------------------------
-- One call
-- ---------------------------------------------------------------------------

/-- The same answer on both sides, which agree afterwards. -/
def Matches (x : Except Failure Template × EventStore) (y : Except Code Template × Registry) :
    Prop :=
  answer x.1 = y.1 ∧ Agrees x.2 y.2

/-- A row together with the event that made it, which waits to be appended. -/
def Row.pending (id : Uuid) (row : Row) (e : TemplateEvent) (expected : Nat) : Pending :=
  ⟨{ row.toAggregate id with uncommitted := [e] }, expected⟩

/-- What a row has planned is appended if its version is still the expected one. -/
theorem Row.effect_pending (id : Uuid) (row : Row) (e : TemplateEvent) (expected : Nat)
    (now : Instant) (s : EventStore) :
    (row.pending id e expected).effect now s =
      if (s.held id).length = expected then
        (.ok (row.toTemplate id),
          s.grown id (EventStore.number id now expected s.lastSequence [e.toNewEvent]))
      else (.error (.conflict id expected (s.held id).length), s) :=
  Pending.effect_event rfl now s

/-- What is appended on top of the whole stream goes through. -/
theorem Agrees.matches_store {s : EventStore} {r : Registry} (h : Agrees s r) {id : Uuid}
    {a : Aggregate} (hReplay : Aggregate.replay id (s.held id) = .ok a) {e : TemplateEvent}
    {row : Row} (hTaken : a.apply e = .ok (row.toAggregate id)) (hValid : e.IsValid)
    (hKeeps : Keeps row.content) {expected : Nat} (hExpected : (s.held id).length = expected)
    (now : Instant) :
    Matches ((row.pending id e expected).effect now s) (r.store id row) := by
  rw [Row.effect_pending, if_pos hExpected, ← hExpected]
  exact ⟨rfl, h.put hReplay hValid hTaken hKeeps now⟩

/-- What is appended on top of another version is refused. -/
theorem Agrees.matches_conflict {s : EventStore} {r : Registry} (h : Agrees s r) {id : Uuid}
    (row : Row) (e : TemplateEvent) {expected : Nat} (hExpected : (s.held id).length ≠ expected)
    (now : Instant) :
    Matches ((row.pending id e expected).effect now s) (.error .concurrencyConflict, r) := by
  rw [Row.effect_pending, if_neg hExpected]
  exact ⟨rfl, h⟩

/-- A template without a row cannot be read or changed. -/
theorem Agrees.matches_notFound {s : EventStore} {r : Registry} (h : Agrees s r) {c : Call}
    (hRow : r c.id = none) (hBase : c.base (s.load c.id) = s.load c.id >>= Aggregate.replay c.id)
    (clock : Clock) : Matches (c.effect clock s) (.error .templateNotFound, r) := by
  have hPlan : c.plan clock.happened (s.load c.id) = .error (.notFound c.id) := by
    rw [Call.plan, hBase, (h.load_none hRow).2]
    rfl
  rw [Call.effect, hPlan]
  exact ⟨rfl, h⟩

/-- A call on a template with a row starts from that row. -/
theorem Agrees.plan_eq {s : EventStore} {r : Registry} (h : Agrees s r) {c : Call} {row : Row}
    (hRow : r c.id = some row)
    (hBase : c.base (s.load c.id) = s.load c.id >>= Aggregate.replay c.id) (now : Instant) :
    c.plan now (s.load c.id) = c.planFrom now (row.toAggregate c.id) := by
  obtain ⟨-, hLoad, hReplay, -⟩ := h.load hRow
  rw [Call.plan, hBase, hLoad]
  show (Aggregate.replay c.id (s.held c.id) >>= _) = _
  rw [hReplay]
  rfl

/-- Creating does the same to the store and to the registry. -/
theorem Agrees.step_create {s : EventStore} {r : Registry} (h : Agrees s r) (clock : Clock)
    (id : Uuid) (name description : String) {content : Content} (hKeeps : Keeps content) :
    Matches ((Call.create id name description content).effect clock s)
      (r.step clock.happened (.create id name description content)) := by
  rw [Registry.step]
  cases hName : Aggregate.isBlankName name with
  | true =>
    have hPlan : (Call.create id name description content).plan clock.happened (s.load id) =
        .error .blankName := by
      show (Aggregate.create clock.happened id name description content).map _ = _
      rw [Aggregate.create, hName]
      rfl
    rw [Call.effect, Call.id, hPlan]
    exact ⟨rfl, h⟩
  | false =>
    have hPlan : (Call.create id name description content).plan clock.happened (s.load id) =
        .ok ((Row.new clock.happened name description content).pending id
          (.created name description content clock.happened) 0) := by
      show (Aggregate.create clock.happened id name description content).map _ = _
      rw [Aggregate.create_eq hName]
      rfl
    rw [Call.effect, Call.id, hPlan, if_neg Bool.false_ne_true]
    cases hRow : r id with
    | none =>
      -- the stream is empty, so the creation is all of its history
      have hNil := (h.load_none hRow).1
      have hValid : (TemplateEvent.created name description content clock.happened).IsValid :=
        hKeeps.plain.valid
      have hReplay : Aggregate.replay id (s.held id) = .ok (.empty id) := by
        rw [hNil]
        rfl
      have hTaken : (Aggregate.empty id).apply (.created name description content clock.happened) =
          .ok ((Row.new clock.happened name description content).toAggregate id) := by
        rfl
      exact h.matches_store hReplay hTaken hValid hKeeps (by rw [hNil]; rfl) clock.recorded
    | some row =>
      -- a new template is appended on top of no events, and the stream has some
      refine h.matches_conflict _ _ ?_ clock.recorded
      exact fun hLength => (h.load hRow).1 (List.length_eq_zero_iff.mp hLength)

/-- Getting answers the same from the store and from the registry. -/
theorem Agrees.step_get {s : EventStore} {r : Registry} (h : Agrees s r) (clock : Clock)
    (id : Uuid) : Matches ((Call.get id).effect clock s) (r.step clock.happened (.get id)) := by
  rw [Registry.step]
  cases hRow : r id with
  | none => exact h.matches_notFound (c := .get id) hRow rfl clock
  | some row =>
    rw [Call.effect, h.plan_eq (c := .get id) hRow rfl]
    exact ⟨rfl, h⟩

/-- An update of a row works out the row with its event. -/
theorem Row.planFrom_update {row : Row} (id : Uuid) (now : Instant) {name : String}
    (hName : Aggregate.isBlankName name = false) (description : String) {content : Content}
    (expected : Option Nat) (hOld : Keeps row.content) (hNew : Keeps content) :
    (Call.update id name description content expected).planFrom now (row.toAggregate id) =
      .ok ((row.update now name description content).pending id
        (.updated name description (Patch.diff row.content.toText content.toText) now)
        (expected.getD row.version)) := by
  rw [Call.planFrom, Change.prepare, Aggregate.update_eq (s := row.state) rfl hName now description
    hNew.plain hOld.fits hNew.fits]
  rfl

/-- Updating does the same to both, conflicts included. -/
theorem Agrees.step_update {s : EventStore} {r : Registry} (h : Agrees s r) (clock : Clock)
    (id : Uuid) (name description : String) {content : Content} (expected : Option Nat)
    (hKeeps : Keeps content) :
    Matches ((Call.update id name description content expected).effect clock s)
      (r.step clock.happened (.update id name description content expected)) := by
  rw [Registry.step]
  cases hRow : r id with
  | none =>
    exact h.matches_notFound (c := .update id name description content expected) hRow rfl clock
  | some row =>
    obtain ⟨-, -, hReplay, hLength, hOld⟩ := h.load hRow
    rw [Call.effect, h.plan_eq (c := .update id name description content expected) hRow rfl]
    cases hName : Aggregate.isBlankName name with
    | true =>
      rw [Call.planFrom, Change.prepare, Aggregate.update]
      simp only [Row.toAggregate, hName]
      exact ⟨rfl, h⟩
    | false =>
      rw [Call.id, row.planFrom_update id clock.happened hName description expected hOld hKeeps]
      have hTaken := Aggregate.apply_updated (a := row.toAggregate id) (s := row.state) rfl
        clock.happened name description hKeeps.plain hOld.fits hKeeps.fits
      have hValid : (TemplateEvent.updated name description
          (Patch.diff row.content.toText content.toText) clock.happened).IsValid := trivial
      simp only [Bool.false_eq_true, if_false]
      -- a version that is not the current one is a conflict on both sides
      by_cases hExpected : expected.getD row.version = row.version
      · rw [if_neg (not_not_intro hExpected)]
        exact h.matches_store hReplay hTaken hValid hKeeps (hLength.trans hExpected.symm)
          clock.recorded
      · rw [if_pos hExpected]
        exact h.matches_conflict _ _ (hLength.trans_ne (Ne.symm hExpected)) clock.recorded

/-- Archiving does the same to both. -/
theorem Agrees.step_archive {s : EventStore} {r : Registry} (h : Agrees s r) (clock : Clock)
    (id : Uuid) :
    Matches ((Call.archive id).effect clock s) (r.step clock.happened (.archive id)) := by
  rw [Registry.step]
  cases hRow : r id with
  | none => exact h.matches_notFound (c := .archive id) hRow rfl clock
  | some row =>
    obtain ⟨-, -, hReplay, hLength, hKeeps⟩ := h.load hRow
    rw [Call.effect, h.plan_eq (c := .archive id) hRow rfl, Call.planFrom, Change.prepare]
    cases hArchived : row.archived with
    | true =>
      rw [Aggregate.archive]
      simp only [Row.toAggregate, Row.state, hArchived]
      exact ⟨by rw [← hArchived]; rfl, h⟩
    | false =>
      have hPlan : ((row.toAggregate id).archive clock.happened).map
          (fun a => Pending.mk a a.expectedVersion) =
          .ok ((row.archive clock.happened).pending id (.archived clock.happened) row.version) := by
        rw [Aggregate.archive_eq (s := row.state) rfl hArchived]
        rfl
      have hTaken : (row.toAggregate id).apply (.archived clock.happened) =
          .ok ((row.archive clock.happened).toAggregate id) := by
        rfl
      have hValid : (TemplateEvent.archived clock.happened).IsValid := trivial
      rw [Call.id, hPlan]
      simp only [hArchived, Bool.false_eq_true, if_false]
      exact h.matches_store hReplay hTaken hValid hKeeps hLength clock.recorded

/-- **One call on agreeing sides**: the same answer, and the sides agree again. -/
theorem Agrees.step {s : EventStore} {r : Registry} (h : Agrees s r) (clock : Clock) {c : Call}
    (hKeeps : ∀ content, c.content? = some content → Keeps content) :
    Matches (c.effect clock s) (r.step clock.happened c) := by
  cases c with
  | create id name description content =>
    exact h.step_create clock id name description (hKeeps content rfl)
  | get id => exact h.step_get clock id
  | update id name description content expected =>
    exact h.step_update clock id name description expected (hKeeps content rfl)
  | archive id => exact h.step_archive clock id

/-- An update that gives a template has found a row of the version that it named, if it named one,
and has updated the row. -/
theorem Agrees.update_ok {s s' : EventStore} {rows : Registry} (h : Agrees s rows)
    {clock : Clock} {id : Uuid} {name description : String} {content : Content}
    {expected : Option Nat} {t : Template} (hKeeps : Keeps content)
    (hEffect : (Call.update id name description content expected).effect clock s = (.ok t, s')) :
    ∃ row, rows id = some row ∧ expected.getD row.version = row.version ∧
      t = (row.update clock.happened name description content).toTemplate id := by
  obtain ⟨hAnswer, -⟩ := h.step_update clock id name description expected hKeeps
  rw [hEffect, Registry.step] at hAnswer
  cases hRow : rows id with
  | none =>
    rw [hRow] at hAnswer
    cases hAnswer
  | some row =>
    rw [hRow] at hAnswer
    simp only at hAnswer
    split at hAnswer
    · cases hAnswer
    split at hAnswer
    · cases hAnswer
    · next hExpected =>
      cases hAnswer
      exact ⟨row, rfl, not_not.mp hExpected, rfl⟩

-- ---------------------------------------------------------------------------
-- A run of calls
-- ---------------------------------------------------------------------------

/-- A run of calls on agreeing sides. -/
theorem Agrees.run {calls : List (Clock × Call)}
    (hKeeps : ∀ call ∈ calls, ∀ content, call.2.content? = some content → Keeps content) :
    ∀ {b : Backend} {r : Registry}, b.IsSteady → Agrees b.events r →
      (runAll b calls).1.map answer = (r.run calls).1 ∧
        Agrees (runAll b calls).2.events (r.run calls).2 := by
  induction calls with
  | nil =>
    intro b r _ h
    exact ⟨rfl, h⟩
  | cons call rest ih =>
    intro b r hSteady h
    obtain ⟨clock, c⟩ := call
    obtain ⟨hResult, hEvents, hSteady'⟩ := c.does_perform clock b hSteady
    obtain ⟨hAnswer, hAgrees⟩ := h.step clock (hKeeps (clock, c) (List.mem_cons_self ..))
    rw [← hResult] at hAnswer
    rw [← hEvents] at hAgrees
    obtain ⟨hAnswers, hAgreesAfter⟩ :=
      ih (fun call hCall => hKeeps call (List.mem_cons_of_mem _ hCall)) hSteady' hAgrees
    exact ⟨congrArg₂ List.cons hAnswer hAnswers, hAgreesAfter⟩

/-- **A run of calls answers like the registry**: on storage that was empty at the start, every call
of a run gives the template that the registry gives, or fails with the same code. -/
theorem answers_eq_registry (calls : List (Clock × Call))
    (hKeeps : ∀ call ∈ calls, ∀ content, call.2.content? = some content → Keeps content) :
    (runAll .empty calls).1.map answer = (Registry.run .empty calls).1 :=
  (Agrees.run hKeeps (Backend.isSteady_ofEvents .empty) agrees_empty).1

theorem keeps_empty : Keeps .empty :=
  ⟨⟨by decide, by decide, by decide⟩, by decide⟩

theorem keeps_single : Keeps ⟨.standard, [.string "logo"], []⟩ :=
  ⟨⟨by decide, by decide, by decide⟩, by decide⟩

/-- A template is created, changed, changed again from a version that is stale by then, and archived
twice. -/
def staleUpdate : List (Clock × Call) :=
  [(⟨default, default⟩, .create default "a" "" .empty),
    (⟨default, default⟩, .update default "b" "" ⟨.standard, [.string "logo"], []⟩ (some 1)),
    (⟨default, default⟩, .update default "c" "" .empty (some 1)),
    (⟨default, default⟩, .archive default), (⟨default, default⟩, .archive default),
    (⟨default, default⟩, .get default)]

theorem answers_eq_registry_of_staleUpdate :
    (∀ call ∈ staleUpdate, ∀ content, call.2.content? = some content → Keeps content) ∧
      (runAll .empty staleUpdate).1.map answer = (Registry.run .empty staleUpdate).1 ∧
      (Registry.run .empty staleUpdate).1.map (fun x => x.toOption.map Template.version) =
        [some 1, some 2, none, some 3, some 3, some 3] := by
  have hKeeps : ∀ call ∈ staleUpdate, ∀ content, call.2.content? = some content →
      Keeps content := by
    intro call hCall content hContent
    simp only [staleUpdate, List.mem_cons, List.not_mem_nil, or_false] at hCall
    rcases hCall with rfl | rfl | rfl | rfl | rfl | rfl <;> cases hContent
    · exact keeps_empty
    · exact keeps_single
    · exact keeps_empty
  exact ⟨hKeeps, answers_eq_registry _ hKeeps, by decide⟩

end Galley.Service
