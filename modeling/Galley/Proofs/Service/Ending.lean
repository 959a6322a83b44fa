import Galley.Proofs.Service.Call
import Galley.Proofs.Template.Past

/-!
# How a call ends

A call that has storage to itself ends in one of three ways: it fails and leaves the events alone;
it gives the template that its stream is replayed to, with nothing to append; or it appends one
event, which the replay of its stream has taken, and gives what came of that. This holds on any
events, corrupt streams included: a stream that replay refuses lets no call but a creation get so
far, and a creation is refused by any stream that is not empty.

Main results:

* `Call.effect_ends` — a call ends in one of the three ways.
* `Call.Ends.replay` — the template that a call gives is the replay of its stream then.
* `Call.Ends.writes` — a call that gives a template adds at most one record.
-/

namespace Galley

/-- Events with one record more, which stands at the end of the log and of its stream, and counts as
the next version there. -/
structure EventStore.Adds (s : EventStore) (id : Uuid) (record : StoredEvent) (s' : EventStore) :
    Prop where
  owner : record.aggregateId = id
  version : record.version = (s.held id).length + 1
  log : s'.log = s.log ++ [record]
  stream : s'.stream? id = some (s.held id ++ [record])
  others : ∀ other, other ≠ id → s'.stream? other = s.stream? other

theorem EventStore.adds_grown (s : EventStore) {id : Uuid} {record : StoredEvent}
    (hOwner : record.aggregateId = id) (hVersion : record.version = (s.held id).length + 1) :
    s.Adds id record (s.grown id [record]) where
  owner := hOwner
  version := hVersion
  log := rfl
  stream := by rw [EventStore.stream?_grown, if_pos rfl]
  others := fun other hOther => by rw [EventStore.stream?_grown, if_neg hOther]

end Galley

namespace Galley.Service.Call

variable {clock : Clock} {c : Call} {s : EventStore}

/-- The ways in which a call ends on given events: with its result and the events afterwards. -/
inductive Ends (clock : Clock) (c : Call) (s : EventStore) :
    Except Failure Template × EventStore → Prop
  | failed (f : Failure) : Ends clock c s (.error f, s)
  | rested {a : Aggregate} {t : Template}
      (hReplay : Aggregate.replay c.id (s.held c.id) = .ok a) (hRests : c.Rests a)
      (hTemplate : a.snapshot = .ok t) : Ends clock c s (.ok t, s)
  | appended {a b : Aggregate} {e : TemplateEvent} {t : Template}
      (hReplay : Aggregate.replay c.id (s.held c.id) = .ok a)
      (hActs : ¬c.Rests a) (hRecords : c.Records clock.happened a e) (hTaken : a.apply e = .ok b)
      (hTemplate : b.snapshot = .ok t) :
      Ends clock c s (.ok t, s.grown c.id
        (EventStore.number c.id clock.recorded (s.held c.id).length s.lastSequence [e.toNewEvent]))

/-- A call with an event to append could not rest. -/
theorem not_rests_of_event {now : Instant} {loaded : Except Failure (List StoredEvent)} {c : Call}
    {a : Aggregate} {p : Pending} (hBase : c.base loaded = .ok a)
    (hPlan : c.plan now loaded = .ok p) (hEvent : p.aggregate.uncommitted ≠ []) : ¬c.Rests a := by
  intro hRests
  have hBuffer := (base_ok hBase).2
  rw [plan, hBase] at hPlan
  have hFrom : c.planFrom now a = .ok p := hPlan
  cases c with
  | create id name description content => exact hRests
  | get id =>
    cases hFrom
    exact hEvent hBuffer
  | update id name description content expected => exact hRests
  | archive id =>
    obtain ⟨st, hState, hArchived⟩ := hRests
    rw [planFrom, Change.prepare, Aggregate.archive, hState] at hFrom
    simp only [hArchived, if_true] at hFrom
    cases hFrom
    exact hEvent hBuffer

/-- **A call ends in one of the three ways.** -/
theorem effect_ends (clock : Clock) (c : Call) (s : EventStore) :
    c.Ends clock s (c.effect clock s) := by
  rw [effect]
  rcases hPlan : c.plan clock.happened (s.load c.id) with f | p
  · exact .failed f
  rw [EventStore.load_eq] at hPlan
  obtain ⟨a, hBase, hPlans⟩ := plan_ok hPlan
  have hId : p.aggregate.id = c.id := hPlans.id.trans (base_ok hBase).1
  cases hPlans with
  | nothing hRests =>
    have hReplay := replay_of_rests hBase hRests
    show c.Ends clock s (Pending.effect clock.recorded ⟨a, a.version⟩ s)
    rw [Pending.effect_nothing (base_ok hBase).2]
    show c.Ends clock s (a.snapshot, s)
    rcases hTemplate : a.snapshot with f | t
    · exact .failed f
    · exact .rested hReplay hRests hTemplate
  | @event e b hRecords hTaken =>
    obtain ⟨t, hTemplate, -⟩ := Aggregate.snapshot_of_apply hTaken
    have hSame : b.id = c.id := hId
    show c.Ends clock s (Pending.effect clock.recorded
      ⟨{ b with uncommitted := [e] }, c.named.getD a.version⟩ s)
    rw [Pending.effect_event rfl]
    show c.Ends clock s (if (s.held b.id).length = c.named.getD a.version then
        (b.snapshot, s.grown b.id (EventStore.number b.id clock.recorded (c.named.getD a.version)
          s.lastSequence [e.toNewEvent]))
      else (.error (.conflict b.id (c.named.getD a.version) (s.held b.id).length), s))
    rw [hSame, hTemplate]
    split
    · -- the stream is as long as expected; else the call ends in a conflict
      next hLength =>
      rw [← hLength]
      exact .appended (replay_of_base hBase hLength)
        (not_rests_of_event hBase hPlan (List.cons_ne_nil e [])) hRecords hTaken hTemplate
    · exact .failed _

theorem ends_of_effect {outcome : Except Failure Template × EventStore}
    (h : c.effect clock s = outcome) : c.Ends clock s outcome :=
  h ▸ effect_ends clock c s

/-- **The template that a call gives is the replay of its stream then**, if the content that the
call brings along is valid. -/
theorem Ends.replay {t : Template} {s' : EventStore} (h : c.Ends clock s (.ok t, s'))
    (hValid : ∀ content, c.content? = some content → content.IsValid) :
    ∃ a, Aggregate.replay c.id (s'.held c.id) = .ok a ∧ a.snapshot = .ok t := by
  cases h with
  | rested hReplay hRests hTemplate => exact ⟨_, hReplay, hTemplate⟩
  | @appended a b e t hReplay hActs hRecords hTaken hTemplate =>
    refine ⟨b, ?_, hTemplate⟩
    rw [EventStore.held_grown_self, Aggregate.replay_number hReplay (hRecords.isValid hValid)]
    exact hTaken

/-- A call adds nothing to the events, or a record of the next version to its own stream. -/
theorem Ends.held {outcome : Except Failure Template × EventStore}
    (h : c.Ends clock s outcome) (id : Uuid) :
    outcome.2.held id = s.held id ∨ ∃ record, record.aggregateId = id ∧
      record.version = (s.held id).length + 1 ∧
      outcome.2.held id = s.held id ++ [record] := by
  cases h with
  | failed f => exact .inl rfl
  | rested hReplay hRests hTemplate => exact .inl rfl
  | appended hReplay hActs hRecords hTaken hTemplate =>
    by_cases hId : id = c.id
    · subst hId
      exact .inr ⟨_, rfl, rfl, EventStore.held_grown_self s c.id _⟩
    · exact .inl (EventStore.held_grown_of_ne s hId _)

/-- A call that gives a template has added nothing to the events, or the record of its event, as the
version of the template. -/
theorem Ends.writes {t : Template} {s' : EventStore} (h : c.Ends clock s (.ok t, s')) :
    ∃ a, Aggregate.replay c.id (s.held c.id) = .ok a ∧
      ((s' = s ∧ c.Rests a) ∨
        ¬c.Rests a ∧ ∃ e b record, c.Records clock.happened a e ∧ a.apply e = .ok b ∧
          record.kind = e.kind ∧ s.Adds c.id record s' ∧ record.version = t.version) ∧
      t.id = c.id := by
  cases h with
  | @rested a t hReplay hRests hTemplate =>
    have hId := (Aggregate.replay_ok hReplay).1
    exact ⟨a, hReplay, .inl ⟨rfl, hRests⟩, (Aggregate.id_of_snapshot hTemplate).trans hId⟩
  | @appended a b e t hReplay hActs hRecords hTaken hTemplate =>
    obtain ⟨hId, hVersion, -, -⟩ := Aggregate.replay_ok hReplay
    obtain ⟨t', hShown, hNext⟩ := Aggregate.snapshot_of_apply hTaken
    cases hTemplate.symm.trans hShown
    have hSame : b.id = a.id := by
      obtain ⟨st, -, rfl⟩ := Aggregate.apply_ok hTaken
      rfl
    refine ⟨a, hReplay, .inr ⟨hActs, e, b, _, hRecords, hTaken, rfl, s.adds_grown rfl rfl, ?_⟩,
      (Aggregate.id_of_snapshot hTemplate).trans (hSame.trans hId)⟩
    rw [hNext, hVersion]

end Galley.Service.Call
