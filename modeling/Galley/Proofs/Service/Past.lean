import Galley.Proofs.Service.Ending
import Galley.Proofs.Service.Registry
import Galley.Proofs.Template.Past

/-!
# Templates stay readable

A call that gives a template has seen all of its stream, and the template is what the stream is
replayed to. From then on the stream only goes on behind that, by what later calls append and by
records that are placed as they are. Whatever comes there, even what replay refuses, the template
can be read as of its version. The template as it is now is lost once such a record is there.

Main results:

* `KeepsPast.occur` — a stream that begins with a history goes on behind it.
* `past_of_replay` — what can be read of a template whose whole stream is replayed.
* `past_is_kept` — what a call gave can be read ever after.
-/

namespace Galley.Service

-- ---------------------------------------------------------------------------
-- Reading
-- ---------------------------------------------------------------------------

/-- A template as it is now is the replay of its whole stream. -/
theorem does_get (id : Uuid) :
    (get id).Does fun s => (s.load id >>= Aggregate.replay id >>= Aggregate.snapshot, s) := by
  refine ((does_load id).bind fun a => Operation.does_ofExcept a.snapshot).congr fun s => ?_
  rw [EventStore.Effect.andThen]
  cases s.load id >>= Aggregate.replay id <;> rfl

/-- A template as of a version is the replay of the events up to there. -/
theorem does_atVersion (id : Uuid) (version : Nat) :
    (atVersion id version).Does fun s =>
      (s.load id >>= (Aggregate.replayUntil id · version) >>= Aggregate.snapshot, s) := by
  refine ((Operation.does_load id).bind fun history =>
    (Operation.does_ofExcept (Aggregate.replayUntil id history version)).bind fun a =>
      Operation.does_ofExcept a.snapshot).congr fun s => ?_
  rw [EventStore.Effect.andThen]
  cases s.load id with
  | error f => rfl
  | ok history =>
    show EventStore.Effect.andThen _ _ s = _
    rw [EventStore.Effect.andThen]
    show _ = (Aggregate.replayUntil id history version >>= Aggregate.snapshot, s)
    cases Aggregate.replayUntil id history version <;> rfl

/-- The entries of a history, without a change of the events. -/
theorem does_history (id : Uuid) :
    (history id).Does fun s => ((s.load id).map (List.map HistoryEntry.ofStored), s) := by
  refine ((Operation.does_load id).bind fun events =>
    Operation.does_pure (events.map HistoryEntry.ofStored)).congr fun s => ?_
  rw [EventStore.Effect.andThen]
  cases s.load id <;> rfl

/-- The replay of a stream with events, as it is loaded. -/
theorem load_bind {α : Type} {s : EventStore} {id : Uuid} (hSome : s.held id ≠ [])
    (next : List StoredEvent → Except Failure α) : s.load id >>= next = next (s.held id) := by
  rw [EventStore.load_eq, EventStore.loaded, if_neg hSome]
  rfl

-- ---------------------------------------------------------------------------
-- What happens later
-- ---------------------------------------------------------------------------

/-- What may happen to storage: a call of the service, a look at the past of a template, or a record
that is placed as it is. -/
inductive Occurrence where
  | call (clock : Clock) (c : Call)
  | lookAt (id : Uuid) (version : Nat)
  | lookBack (id : Uuid)
  | place (e : StoredEvent)

/-- Storage after something has happened. -/
def Occurrence.after (b : Backend) : Occurrence → Backend
  | call clock c => ((c.perform clock).run b).2
  | lookAt id version => ((atVersion id version).run b).2
  | lookBack id => ((history id).run b).2
  | place e => { b with events := b.events.place e }

/-- Storage after one thing after another has happened. -/
def after (b : Backend) : List Occurrence → Backend
  | [] => b
  | o :: rest => after (o.after b) rest

/-- A record is placed behind a version if it goes to another stream or is of a later version. -/
def Occurrence.IsBehind (id : Uuid) (version : Nat) : Occurrence → Prop
  | place e => e.aggregateId = id → version < e.version
  | _ => True

/-- Storage holds a stream that begins with a history and goes on with records of later versions. -/
structure KeepsPast (id : Uuid) (history : List StoredEvent) (b : Backend) : Prop where
  steady : b.IsSteady
  goesOn : ∃ more, b.events.held id = history ++ more ∧ ∀ e ∈ more, history.length < e.version

variable {id : Uuid} {past : List StoredEvent} {b : Backend}

theorem KeepsPast.refl (hb : b.IsSteady) (id : Uuid) : KeepsPast id (b.events.held id) b :=
  ⟨hb, [], (List.append_nil _).symm, fun _ he => nomatch he⟩

/-- A stream that stays as it is, or goes on by a record of a later version. -/
theorem KeepsPast.step (h : KeepsPast id past b) {b' : Backend} (hb' : b'.IsSteady)
    (hHeld : b'.events.held id = b.events.held id ∨
      ∃ e, past.length < e.version ∧ b'.events.held id = b.events.held id ++ [e]) :
    KeepsPast id past b' := by
  obtain ⟨more, hMore, hAbove⟩ := h.goesOn
  rcases hHeld with hSame | ⟨e, he, hNext⟩
  · exact ⟨hb', more, hSame.trans hMore, hAbove⟩
  · refine ⟨hb', more ++ [e], by rw [hNext, hMore, List.append_assoc], ?_⟩
    intro other hOther
    rcases List.mem_append.mp hOther with hOld | hLast
    · exact hAbove other hOld
    · rw [List.mem_singleton.mp hLast]
      exact he

/-- What changes no event keeps the past. -/
theorem KeepsPast.does {α : Type} (h : KeepsPast id past b) {op : Operation α}
    {result : EventStore → Except Failure α} (hOp : op.Does fun s => (result s, s)) :
    KeepsPast id past (op.run b).2 := by
  obtain ⟨-, hEvents, hSteady⟩ := hOp b h.steady
  exact h.step hSteady (.inl (by rw [hEvents]))

/-- **A stream that begins with a history goes on behind it**, whatever happens. -/
theorem KeepsPast.occur (h : KeepsPast id past b) (o : Occurrence)
    (hBehind : o.IsBehind id past.length) : KeepsPast id past (o.after b) := by
  cases o with
  | call clock c =>
    obtain ⟨-, hEvents, hSteady⟩ := c.does_perform clock b h.steady
    have hHeld := (Call.effect_ends clock c b.events).held id
    rw [← hEvents] at hHeld
    refine h.step hSteady ?_
    rcases hHeld with hSame | ⟨e, -, hVersion, hNext⟩
    · exact .inl hSame
    -- an append counts the whole stream, the history is a part of it
    · obtain ⟨more, hMore, -⟩ := h.goesOn
      have hLength := congrArg List.length hMore
      rw [List.length_append] at hLength
      exact .inr ⟨e, by omega, hNext⟩
  | lookAt other version => exact h.does (does_atVersion other version)
  | lookBack other => exact h.does (does_history other)
  | place e =>
    have hSteady : { b with events := b.events.place e }.IsSteady := h.steady
    refine h.step hSteady ?_
    show (b.events.grown e.aggregateId [e]).held id = b.events.held id ∨
      ∃ e', past.length < e'.version ∧
        (b.events.grown e.aggregateId [e]).held id = b.events.held id ++ [e']
    by_cases hId : e.aggregateId = id
    · exact .inr ⟨e, hBehind hId, by rw [hId, EventStore.held_grown_self]⟩
    · exact .inl (EventStore.held_grown_of_ne _ (Ne.symm hId) _)

theorem KeepsPast.after (h : KeepsPast id past b) {later : List Occurrence}
    (hBehind : ∀ o ∈ later, o.IsBehind id past.length) :
    KeepsPast id past (Service.after b later) := by
  induction later generalizing b with
  | nil => exact h
  | cons o later ih =>
    exact ih (h.occur o (hBehind o List.mem_cons_self))
      fun other hOther => hBehind other (List.mem_cons_of_mem _ hOther)

/-- A template can be read as of its version, if its stream began with its history. -/
theorem KeepsPast.atVersion (h : KeepsPast id past b) {a : Aggregate} {t : Template}
    (hReplay : Aggregate.replay id past = .ok a) (hTemplate : a.snapshot = .ok t) :
    t.id = id ∧ ((atVersion t.id t.version).run b).1 = .ok t := by
  obtain ⟨hSameId, hVersion, -, -⟩ := Aggregate.replay_ok hReplay
  obtain ⟨more, hMore, hAbove⟩ := h.goesOn
  have hShown : t.version = past.length := (Aggregate.version_of_snapshot hTemplate).trans hVersion
  have hId : t.id = id := (Aggregate.id_of_snapshot hTemplate).trans hSameId
  have hSome : b.events.held id ≠ [] := by
    intro hNil
    rw [hMore, List.append_eq_nil_iff] at hNil
    rw [hNil.1] at hReplay
    cases hReplay
    cases hTemplate
  refine ⟨hId, ?_⟩
  rw [(does_atVersion t.id t.version b h.steady).1, hId]
  show (b.events.load id >>= (Aggregate.replayUntil id · t.version) >>= Aggregate.snapshot) = _
  rw [load_bind hSome, hMore, hShown, Aggregate.replayUntil_append hReplay hAbove]
  exact hTemplate

/-- **What can be read of a template whose whole stream is replayed**: from the last version on the
template as it is now, before that one of the version asked for, and nothing before the first. -/
theorem past_of_replay (hb : b.IsSteady) {a : Aggregate}
    (hReplay : Aggregate.replay id (b.events.held id) = .ok a) :
    (∀ version, (b.events.held id).length ≤ version →
        ((atVersion id version).run b).1 = ((get id).run b).1) ∧
      (∀ version, 1 ≤ version → version ≤ (b.events.held id).length →
        ∃ t, ((atVersion id version).run b).1 = .ok t ∧ t.id = id ∧ t.version = version) ∧
      ((atVersion id 0).run b).1 = .error (.notFound id) := by
  have hAt : ∀ version, ((atVersion id version).run b).1 =
      (b.events.load id >>= (Aggregate.replayUntil id · version) >>= Aggregate.snapshot) :=
    fun version => (does_atVersion id version b hb).1
  have hGet : ((get id).run b).1 =
      (b.events.load id >>= Aggregate.replay id >>= Aggregate.snapshot) := (does_get id b hb).1
  by_cases hNil : b.events.held id = []
  -- without a stream there is nothing to read, and no version is asked for
  · have hLoad : b.events.load id = .error (.notFound id) := by
      rw [EventStore.load_eq, EventStore.loaded, if_pos hNil]
    refine ⟨fun version _ => ?_, fun version hFirst hLast => ?_, ?_⟩
    · rw [hAt, hGet, hLoad]
      rfl
    · rw [hNil, List.length_nil] at hLast
      omega
    · rw [hAt, hLoad]
      rfl
  · refine ⟨fun version hLast => ?_, fun version hFirst hLast => ?_, ?_⟩
    · rw [hAt, hGet, load_bind hNil, load_bind hNil, Aggregate.replayUntil_eq hReplay,
        List.take_of_length_le hLast]
    · obtain ⟨c, hc⟩ := Aggregate.replay_take hReplay version
      obtain ⟨hId, hVersion, -, hCreated⟩ := Aggregate.replay_ok hc
      have hLength : ((b.events.held id).take version).length = version :=
        List.length_take_of_le hLast
      have hSome : (b.events.held id).take version ≠ [] := by
        intro hNone
        rw [hNone, List.length_nil] at hLength
        omega
      obtain ⟨t, hTemplate⟩ := Aggregate.snapshot_of_isCreated (hCreated hSome)
      refine ⟨t, ?_, (Aggregate.id_of_snapshot hTemplate).trans hId, ?_⟩
      · rw [hAt, load_bind hNil, Aggregate.replayUntil_eq hReplay, hc]
        exact hTemplate
      · rw [Aggregate.version_of_snapshot hTemplate, hVersion, hLength]
    · rw [hAt, load_bind hNil, Aggregate.replayUntil_eq hReplay]
      rfl

/-- **Templates stay readable.** The template that a call gave, on any events, can be read as of its
version ever after: behind further calls, and behind records of later versions placed on its
stream, whatever they hold. And of a stream that is replayed as a whole every version can be read,
from the last one on the template as it is now, but none before the first. -/
theorem past_is_kept (hb : b.IsSteady) :
    (∀ (clock : Clock) (c : Call) (t : Template),
        (∀ content, c.content? = some content → content.IsValid) →
        ((c.perform clock).run b).1 = .ok t →
        ∀ later : List Occurrence, (∀ o ∈ later, o.IsBehind t.id t.version) →
          ((atVersion t.id t.version).run (after ((c.perform clock).run b).2 later)).1 = .ok t) ∧
      ∀ (id : Uuid) (a : Aggregate), Aggregate.replay id (b.events.held id) = .ok a →
        (∀ version, (b.events.held id).length ≤ version →
            ((atVersion id version).run b).1 = ((get id).run b).1) ∧
          (∀ version, 1 ≤ version → version ≤ (b.events.held id).length →
            ∃ t, ((atVersion id version).run b).1 = .ok t ∧ t.id = id ∧ t.version = version) ∧
          ((atVersion id 0).run b).1 = .error (.notFound id) := by
  refine ⟨fun clock c t hValid hGiven later hBehind => ?_, fun id a => past_of_replay hb⟩
  obtain ⟨hResult, hEvents, hSteady⟩ := c.does_perform clock b hb
  have hEnds := Call.effect_ends clock c b.events
  have hEffect : c.effect clock b.events = (.ok t, ((c.perform clock).run b).2.events) := by
    rw [hEvents, ← hGiven, hResult]
  rw [hEffect] at hEnds
  obtain ⟨a, hReplay, hTemplate⟩ := hEnds.replay hValid
  obtain ⟨hSameId, hVersion, -, -⟩ := Aggregate.replay_ok hReplay
  have hId : t.id = c.id := (Aggregate.id_of_snapshot hTemplate).trans hSameId
  have hShown : t.version = (((c.perform clock).run b).2.events.held c.id).length :=
    (Aggregate.version_of_snapshot hTemplate).trans hVersion
  rw [hShown, hId] at hBehind
  have hKeeps := (KeepsPast.refl hSteady c.id).after hBehind
  exact (hKeeps.atVersion hReplay hTemplate).2

/-- The creation of a template. -/
def draft : Call := .create default "a" "" .empty

/-- What replay refuses: a kind that it does not know, a payload that is no event, a patch that is
none. Calls come in between. -/
def torn : List Occurrence :=
  [.place ⟨TemplateEvent.aggregateType, default, 2, 8, "TemplateShredded", .null, default⟩,
    .call ⟨default, default⟩ (.archive default), .lookBack default,
    .place ⟨TemplateEvent.aggregateType, default, 9, 2, TemplateEvent.updatedKind, .null, default⟩,
    .place ⟨TemplateEvent.aggregateType, default, 2, 0, TemplateEvent.updatedKind,
      (TemplateEvent.updated "b" "" "@@" default).encode, default⟩]

/-- A template stays readable when its stream is torn, though not as it is now. While its stream is
whole it can be read as of its only version and later, and not before. -/
theorem past_is_kept_of_torn :
    (((draft.perform ⟨default, default⟩).run .empty).1 =
        .ok ⟨default, "a", "", .empty, false, default, default, 1⟩ ∧
      ((get default).run (after ((draft.perform ⟨default, default⟩).run .empty).2 torn)).1.isOk =
        false ∧
      ((atVersion default 1).run (after ((draft.perform ⟨default, default⟩).run .empty).2 torn)).1 =
        .ok ⟨default, "a", "", .empty, false, default, default, 1⟩) ∧
      let drafted := (runAll .empty [(⟨default, default⟩, draft)]).2
      ((atVersion default 7).run drafted).1 = ((get default).run drafted).1 ∧
        (∃ t, ((atVersion default 1).run drafted).1 = .ok t ∧ t.id = default ∧ t.version = 1) ∧
        ((atVersion default 0).run drafted).1 = .error (.notFound default) := by
  have hEmpty : Backend.empty.IsSteady := fun _ => rfl
  have hDraft : ((draft.perform ⟨default, default⟩).run .empty).1 =
      .ok ⟨default, "a", "", .empty, false, default, default, 1⟩ := rfl
  refine ⟨⟨hDraft, ?_, ?_⟩, ?_⟩
  · decide +kernel
  · refine (past_is_kept hEmpty).1 ⟨default, default⟩ draft _ ?_ hDraft torn ?_
    · rintro content ⟨⟩
      exact keeps_empty.plain.valid
    · intro o ho
      simp only [torn, List.mem_cons, List.not_mem_nil, or_false] at ho
      rcases ho with rfl | rfl | rfl | rfl | rfl
      · exact fun _ => (by decide : 1 < 2)
      · trivial
      · trivial
      · exact fun _ => (by decide : 1 < 9)
      · exact fun _ => (by decide : 1 < 2)
  · have hKeeps : ∀ call ∈ [((⟨default, default⟩ : Clock), draft)], ∀ content,
        call.2.content? = some content → Keeps content := by
      intro call hCall
      rw [List.mem_singleton.mp hCall]
      rintro content ⟨⟩
      exact keeps_empty
    have hRow : (Registry.run .empty [(⟨default, default⟩, draft)]).2 default =
        some (.new default "a" "" .empty) := rfl
    obtain ⟨-, -, hReplay, hLength, -⟩ := (Agrees.run hKeeps hEmpty agrees_empty).2.load hRow
    obtain ⟨hLate, hBetween, hNone⟩ :=
      (past_is_kept (isSteady_runAll [(⟨default, default⟩, draft)] hEmpty)).2 default _ hReplay
    rw [hLength] at hLate hBetween
    exact ⟨hLate 7 (by decide), hBetween 1 (by decide) (by decide), hNone⟩

end Galley.Service
