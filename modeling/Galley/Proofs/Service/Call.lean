import Galley.Service
import Galley.Proofs.Storage.Operation
import Galley.Proofs.Template.Aggregate

/-!
# Calls of the service

A call is one request of a client. It has two halves: `Call.prepare` loads the stream and works out
what to append, `Service.commit` appends it. Between the halves nothing is held, so other calls may
get in. What the first half works out depends on the loaded stream alone (`Call.plan`); what the
second half does depends on the length of the stream then.

A call that records nothing, because it only reads or because the template is archived already, has
a second half that does nothing.

Main results:

* `Call.does_prepare`, `does_commit` — what the two halves do to the events.
* `Call.does_perform` — a whole call is its two halves, one right after the other.
* `Call.plan_ok` — what a plan holds: the replayed template, with at most one event on top.
-/

namespace Galley.Service

/-- Two readings of the clock: when an event happens, and when it is recorded. -/
structure Clock where
  happened : Instant
  recorded : Instant

/-- A call of the service. The identifier of a new template is the one generated for it. -/
inductive Call where
  | create (id : Uuid) (name description : String) (content : Content)
  | get (id : Uuid)
  | update (id : Uuid) (name description : String) (content : Content) (expected : Option Nat)
  | archive (id : Uuid)

namespace Call

/-- The template that a call is about. -/
def id : Call → Uuid
  | create id .. => id
  | get id => id
  | update id .. => id
  | archive id => id

/-- The content that a call brings along. -/
def content? : Call → Option Content
  | create _ _ _ content => some content
  | update _ _ _ content _ => some content
  | _ => none

/-- The version that a call names. -/
def named : Call → Option Nat
  | update _ _ _ _ expected => expected
  | _ => none

/-- Carries out a call. -/
def perform (clock : Clock) : Call → Operation Template
  | create id name description content =>
    createAt clock.happened clock.recorded id name description content
  | get id => Service.get id
  | update id name description content expected =>
    changeAt clock.happened clock.recorded id (.update name description content expected)
  | archive id => changeAt clock.happened clock.recorded id .archive

/-- The first half of a call: everything before the append. -/
def prepare (now : Instant) : Call → Operation Pending
  | create id name description content =>
    Operation.ofExcept (prepareNew now id name description content)
  | get id => do
    let a ← load id
    return ⟨a, a.expectedVersion⟩
  | update id name description content expected => do
    Operation.ofExcept (Change.prepare now (← load id) (.update name description content expected))
  | archive id => do Operation.ofExcept (Change.prepare now (← load id) .archive)

/-- The template that a call starts from, when its stream has been loaded. -/
def base (loaded : Except Failure (List StoredEvent)) : Call → Except Failure Aggregate
  | create id .. => .ok (.empty id)
  | c => loaded >>= Aggregate.replay c.id

/-- What a call works out from the template that it starts from. -/
def planFrom (now : Instant) (a : Aggregate) : Call → Except Failure Pending
  | create id name description content => prepareNew now id name description content
  | get _ => .ok ⟨a, a.expectedVersion⟩
  | update _ name description content expected =>
    Change.prepare now a (.update name description content expected)
  | archive _ => Change.prepare now a .archive

/-- What a call works out from the stream that it has loaded. -/
def plan (now : Instant) (loaded : Except Failure (List StoredEvent)) (c : Call) :
    Except Failure Pending :=
  c.base loaded >>= fun a => c.planFrom now a

end Call

-- ---------------------------------------------------------------------------
-- The two halves
-- ---------------------------------------------------------------------------

/-- What the second half of a call does to the events. -/
def Pending.effect (now : Instant) (p : Pending) : EventStore.Effect Template := fun s =>
  if p.aggregate.newEvents.isEmpty then (p.aggregate.snapshot, s)
  else match s.append now p.aggregate.id p.expected p.aggregate.newEvents with
    | (.ok _, s) => (p.aggregate.snapshot, s)
    | (.error f, s) => (.error f, s)

/-- **The second half of a call** appends, if there is anything to append. -/
theorem does_commit (now : Instant) (p : Pending) : (commit now p).Does (p.effect now) := by
  have hSnapshot := Operation.does_ofExcept p.aggregate.snapshot
  rw [commit]
  cases hEmpty : p.aggregate.newEvents.isEmpty with
  | true =>
    refine Operation.Does.congr hSnapshot fun s => ?_
    rw [Pending.effect, hEmpty]
    rfl
  | false =>
    refine Operation.Does.congr ((Operation.does_append now p.aggregate.id p.expected
      p.aggregate.newEvents).bind fun _ => hSnapshot) fun s => ?_
    rw [Pending.effect, hEmpty, EventStore.Effect.andThen, if_neg Bool.false_ne_true]
    rcases s.append now p.aggregate.id p.expected p.aggregate.newEvents with ⟨_ | _, _⟩ <;> rfl

/-- A template is loaded from its stream, without a change of the events. -/
theorem does_load (id : Uuid) :
    (load id).Does fun s => (s.load id >>= Aggregate.replay id, s) := by
  refine ((Operation.does_load id).bind fun history =>
    Operation.does_ofExcept (Aggregate.replay id history)).congr fun s => ?_
  rw [EventStore.Effect.andThen]
  cases s.load id <;> rfl

/-- **The first half of a call** changes no event. -/
theorem Call.does_prepare (now : Instant) (c : Call) :
    (c.prepare now).Does fun s => (c.plan now (s.load c.id), s) := by
  have hLoaded : ∀ (id : Uuid) (next : Aggregate → Except Failure Pending),
      (load id >>= fun a => Operation.ofExcept (next a)).Does fun s =>
        (s.load id >>= Aggregate.replay id >>= next, s) := by
    intro id next
    refine ((does_load id).bind fun a => Operation.does_ofExcept (next a)).congr fun s => ?_
    rw [EventStore.Effect.andThen]
    cases s.load id >>= Aggregate.replay id <;> rfl
  cases c with
  | create id name description content =>
    exact Operation.does_ofExcept (prepareNew now id name description content)
  | get id => exact hLoaded id fun a => .ok ⟨a, a.expectedVersion⟩
  | update id name description content expected => exact hLoaded id _
  | archive id => exact hLoaded id _

/-- What a whole call does to the events. -/
def Call.effect (clock : Clock) (c : Call) : EventStore.Effect Template := fun s =>
  match c.plan clock.happened (s.load c.id) with
  | .error f => (.error f, s)
  | .ok p => p.effect clock.recorded s

/-- A plan with nothing to append leaves the events alone. -/
theorem Pending.effect_nothing {p : Pending} (h : p.aggregate.uncommitted = []) (now : Instant)
    (s : EventStore) : p.effect now s = (p.aggregate.snapshot, s) := by
  rw [Pending.effect, Aggregate.newEvents, h]
  rfl

/-- A plan with one event to append is checked against the length of the stream. -/
theorem Pending.effect_event {p : Pending} {e : TemplateEvent} (h : p.aggregate.uncommitted = [e])
    (now : Instant) (s : EventStore) :
    p.effect now s =
      if (s.held p.aggregate.id).length = p.expected then
        (p.aggregate.snapshot,
          s.grown p.aggregate.id
            (EventStore.number p.aggregate.id now p.expected s.lastSequence [e.toNewEvent]))
      else (.error (.conflict p.aggregate.id p.expected (s.held p.aggregate.id).length), s) := by
  have hEvents : p.aggregate.newEvents = [e.toNewEvent] := by
    rw [Aggregate.newEvents, h]
    rfl
  rw [Pending.effect, hEvents, EventStore.append_eq, EventStore.currentVersion_eq]
  simp only [List.isEmpty_cons, Bool.false_eq_true, if_false]
  by_cases hLength : (s.held p.aggregate.id).length = p.expected
  · simp only [if_pos hLength]
  · simp only [if_neg hLength]

/-- **A whole call** is its two halves, one right after the other. -/
theorem Call.does_perform (clock : Clock) (c : Call) : (c.perform clock).Does (c.effect clock) := by
  have hHalves : (c.prepare clock.happened >>= commit clock.recorded).Does (c.effect clock) := by
    refine ((c.does_prepare clock.happened).bind fun p => does_commit clock.recorded p).congr
      fun s => ?_
    rw [EventStore.Effect.andThen, effect]
    cases c.plan clock.happened (s.load c.id) <;> rfl
  cases c with
  | create id name description content => exact hHalves
  | get id =>
    -- a call that only reads has no second half, as there would be nothing to append
    refine ((does_load id).bind fun a => Operation.does_ofExcept a.snapshot).congr fun s => ?_
    rw [EventStore.Effect.andThen, effect]
    show _ = (match s.load id >>= Aggregate.replay id >>= fun a =>
        Except.ok (Pending.mk a a.expectedVersion) with
      | .error f => (Except.error f, s)
      | .ok p => Pending.effect clock.recorded p s)
    rcases hLoaded : s.load id >>= Aggregate.replay id with f | a
    · rfl
    · obtain ⟨history, -, hReplay⟩ := bind_eq_ok.mp hLoaded
      exact (Pending.effect_nothing (p := ⟨a, a.expectedVersion⟩)
        (Aggregate.replay_ok hReplay).2.2.1 clock.recorded s).symm
  | update id name description content expected =>
    rw [prepare, bind_assoc] at hHalves
    exact hHalves
  | archive id =>
    rw [prepare, bind_assoc] at hHalves
    exact hHalves

/-- The results of calls that come one after another, and storage afterwards. -/
def runAll (b : Backend) : List (Clock × Call) → List (Except Failure Template) × Backend
  | [] => ([], b)
  | (clock, c) :: rest =>
    let (result, b) := (c.perform clock).run b
    let (results, b) := runAll b rest
    (result :: results, b)

/-- Two runs in a row. -/
theorem runAll_append (first more : List (Clock × Call)) :
    ∀ b : Backend, runAll b (first ++ more) =
      ((runAll b first).1 ++ (runAll (runAll b first).2 more).1,
        (runAll (runAll b first).2 more).2) := by
  induction first with
  | nil =>
    intro b
    rfl
  | cons call first ih =>
    intro b
    obtain ⟨clock, c⟩ := call
    simp only [List.cons_append, runAll, ih]

/-- A run leaves storage without planned outages. -/
theorem isSteady_runAll (calls : List (Clock × Call)) :
    ∀ {b : Backend}, b.IsSteady → (runAll b calls).2.IsSteady := by
  induction calls with
  | nil => exact fun hb => hb
  | cons call rest ih => exact fun hb => ih (call.2.does_perform call.1 _ hb).2.2

/-- One call more. -/
theorem runAll_snoc {b : Backend} (hb : b.IsSteady) (calls : List (Clock × Call)) (clock : Clock)
    (c : Call) :
    (runAll b (calls ++ [(clock, c)])).1 =
        (runAll b calls).1 ++ [(c.effect clock (runAll b calls).2.events).1] ∧
      (runAll b (calls ++ [(clock, c)])).2.events =
        (c.effect clock (runAll b calls).2.events).2 := by
  obtain ⟨hResult, hEvents, -⟩ := c.does_perform clock _ (isSteady_runAll calls hb)
  rw [runAll_append, ← hResult, ← hEvents]
  exact ⟨rfl, rfl⟩

-- ---------------------------------------------------------------------------
-- Plans
-- ---------------------------------------------------------------------------

/-- The version that a template had when it was loaded. -/
def Pending.loadedVersion (p : Pending) : Nat := p.aggregate.expectedVersion

namespace Call

/-- The event that a call records on top of a template, if it records one. -/
def Records (now : Instant) (a : Aggregate) : Call → TemplateEvent → Prop
  | create _ name description content, e => e = .created name description content now
  | get _, _ => False
  | update _ name description content _, e =>
    ∃ s, a.state = some s ∧
      e = .updated name description (Patch.diff s.content.toText content.toText) now
  | archive _, e => e = .archived now

/-- A call records nothing if it only reads, or archives what is archived. -/
def Rests (a : Aggregate) : Call → Prop
  | get _ => True
  | archive _ => ∃ s, a.state = some s ∧ s.archived = true
  | _ => False

/-- What a call wants to append to the template that it starts from: nothing, or one event that it
has taken. -/
inductive Plans (now : Instant) (c : Call) (a : Aggregate) : Pending → Prop
  | nothing (hRests : c.Rests a) : Plans now c a ⟨a, a.version⟩
  | event {e : TemplateEvent} {b : Aggregate} (hRecords : c.Records now a e)
      (hTaken : a.apply e = .ok b) :
      Plans now c a ⟨{ b with uncommitted := [e] }, c.named.getD a.version⟩

/-- A call starts from a new template, if it creates one, and else from the one that it has
loaded. -/
theorem base_cases {loaded : Except Failure (List StoredEvent)} {c : Call} {a : Aggregate}
    (h : c.base loaded = .ok a) :
    (a = .empty c.id ∧ c.named = none ∧ ¬c.Rests a) ∨
      (loaded >>= Aggregate.replay c.id) = .ok a := by
  cases c with
  | create id name description content =>
    cases h
    exact .inl ⟨rfl, rfl, fun hRests => hRests⟩
  | get id => exact .inr h
  | update id name description content expected => exact .inr h
  | archive id => exact .inr h

/-- A call starts from the template that it is about, with nothing to append. -/
theorem base_ok {loaded : Except Failure (List StoredEvent)} {c : Call} {a : Aggregate}
    (h : c.base loaded = .ok a) : a.id = c.id ∧ a.uncommitted = [] := by
  rcases base_cases h with ⟨hNew, -, -⟩ | hLoaded
  · rw [hNew]
    exact ⟨rfl, rfl⟩
  · obtain ⟨history, -, hReplay⟩ := bind_eq_ok.mp hLoaded
    exact ⟨(Aggregate.replay_ok hReplay).1, (Aggregate.replay_ok hReplay).2.2.1⟩

theorem plans_event {now : Instant} {c : Call} {a b : Aggregate} {e : TemplateEvent}
    (hRecords : c.Records now a e) (hBuffer : a.uncommitted = []) (hRecord : a.record e = .ok b) :
    c.Plans now a ⟨b, c.named.getD b.expectedVersion⟩ := by
  obtain ⟨next, hApply, rfl, hExpected⟩ := Aggregate.record_fresh hBuffer hRecord
  rw [hExpected]
  exact .event hRecords hApply

/-- **What a plan holds**: the template that the call started from, with at most one event on
top. -/
theorem plan_ok {now : Instant} {loaded : Except Failure (List StoredEvent)} {c : Call}
    {p : Pending} (h : c.plan now loaded = .ok p) :
    ∃ a, c.base loaded = .ok a ∧ c.Plans now a p := by
  obtain ⟨a, hBase, hFrom⟩ := bind_eq_ok.mp h
  have hBuffer := (base_ok hBase).2
  refine ⟨a, hBase, ?_⟩
  cases c with
  | create id name description content =>
    cases hBase
    obtain ⟨b, hCreate, rfl⟩ := map_eq_ok.mp hFrom
    rw [Aggregate.create] at hCreate
    split at hCreate
    · cases hCreate
    · exact plans_event (c := .create id name description content) rfl rfl hCreate
  | get id =>
    cases hFrom
    have hExpected : a.expectedVersion = a.version := by
      rw [Aggregate.expectedVersion, hBuffer]
      rfl
    rw [hExpected]
    exact .nothing trivial
  | update id name description content expected =>
    obtain ⟨b, hUpdate, rfl⟩ := map_eq_ok.mp hFrom
    rw [Aggregate.update] at hUpdate
    split at hUpdate
    · cases hUpdate
    · next s hState =>
      split at hUpdate
      · cases hUpdate
      · exact plans_event (c := .update id name description content expected) ⟨s, hState, rfl⟩
          hBuffer hUpdate
  | archive id =>
    obtain ⟨b, hArchive, rfl⟩ := map_eq_ok.mp hFrom
    rw [Aggregate.archive] at hArchive
    split at hArchive
    · cases hArchive
    · next s hState =>
      split at hArchive
      · next hArchived =>
        cases hArchive
        have hExpected : a.expectedVersion = a.version := by
          rw [Aggregate.expectedVersion, hBuffer]
          rfl
        rw [hExpected]
        exact .nothing ⟨s, hState, hArchived⟩
      · exact plans_event (c := .archive id) rfl hBuffer hArchive

/-- A plan with an event to append has taken the event. -/
theorem plan_event {now : Instant} {loaded : Except Failure (List StoredEvent)} {c : Call}
    {p : Pending} {e : TemplateEvent} (h : c.plan now loaded = .ok p)
    (hEvent : p.aggregate.uncommitted = [e]) :
    ∃ a b, c.base loaded = .ok a ∧ c.Records now a e ∧ a.apply e = .ok b ∧
      p = ⟨{ b with uncommitted := [e] }, c.named.getD a.version⟩ := by
  obtain ⟨a, hBase, hPlans⟩ := plan_ok h
  cases hPlans with
  | nothing hRests =>
    rw [(base_ok hBase).2] at hEvent
    cases hEvent
  | event hRecords hTaken =>
    cases hEvent
    exact ⟨a, _, hBase, hRecords, hTaken, rfl⟩

/-- A plan with nothing to append is the template that was loaded. -/
theorem plan_nothing {now : Instant} {loaded : Except Failure (List StoredEvent)} {c : Call}
    {p : Pending} (h : c.plan now loaded = .ok p) (hNothing : p.aggregate.uncommitted = []) :
    c.base loaded = .ok p.aggregate ∧ c.Rests p.aggregate := by
  obtain ⟨a, hBase, hPlans⟩ := plan_ok h
  cases hPlans with
  | nothing hRests => exact ⟨hBase, hRests⟩
  | event hRecords hTaken => cases hNothing

/-- A template that was rebuilt from what was loaded is the replay of its stream. -/
theorem replay_of_loaded {id : Uuid} {history : List StoredEvent} {a : Aggregate}
    (h : (EventStore.loaded id history >>= Aggregate.replay id) = .ok a) :
    Aggregate.replay id history = .ok a := by
  obtain ⟨events, hLoaded, hReplay⟩ := bind_eq_ok.mp h
  rw [EventStore.loaded] at hLoaded
  split at hLoaded
  · cases hLoaded
  · cases hLoaded
    exact hReplay

/-- A call starts from no more than the stream that it has loaded. -/
theorem base_version_le {c : Call} {history : List StoredEvent} {a : Aggregate}
    (h : c.base (EventStore.loaded c.id history) = .ok a) : a.version ≤ history.length := by
  rcases base_cases h with ⟨hNew, -, -⟩ | hLoaded
  · rw [hNew]
    exact Nat.zero_le _
  · exact Nat.le_of_eq (Aggregate.replay_ok (replay_of_loaded hLoaded)).2.1

/-- A call that records nothing starts from the replay of its stream. -/
theorem replay_of_rests {c : Call} {history : List StoredEvent} {a : Aggregate}
    (h : c.base (EventStore.loaded c.id history) = .ok a) (hRests : c.Rests a) :
    Aggregate.replay c.id history = .ok a := by
  rcases base_cases h with ⟨-, -, hNot⟩ | hLoaded
  · exact absurd hRests hNot
  · exact replay_of_loaded hLoaded

/-- A plan keeps the version that was loaded. -/
theorem Plans.loadedVersion {now : Instant} {c : Call} {a : Aggregate} {p : Pending}
    (h : c.Plans now a p) (hBuffer : a.uncommitted = []) : p.loadedVersion = a.version := by
  cases h with
  | nothing hRests =>
    rw [Pending.loadedVersion, Aggregate.expectedVersion, hBuffer]
    rfl
  | event hRecords hTaken =>
    obtain ⟨s, -, rfl⟩ := Aggregate.apply_ok hTaken
    rfl

/-- A plan that was made from the beginning of a stream, and is appended on top of the whole stream,
was made from the whole stream, unless the call names a version above the one that it had loaded. -/
theorem plan_whole {happened : Instant} {c : Call} {p : Pending} {e : TemplateEvent}
    {history stream : List StoredEvent} (hHistory : history <+: stream)
    (hPlan : c.plan happened (EventStore.loaded c.id history) = .ok p)
    (hEvent : p.aggregate.uncommitted = [e]) (hLength : stream.length = p.expected)
    (hNamed : ∀ n, c.named = some n → n ≤ p.loadedVersion) : history = stream := by
  obtain ⟨a, hBase, hPlans⟩ := plan_ok hPlan
  have hLoaded : p.loadedVersion = a.version := hPlans.loadedVersion (base_ok hBase).2
  have hVersion : a.version ≤ history.length := base_version_le hBase
  have hExpected : p.expected ≤ a.version := by
    obtain ⟨a', b, hBase', -, -, rfl⟩ := plan_event hPlan hEvent
    cases hBase.symm.trans hBase'
    show c.named.getD a.version ≤ a.version
    cases hName : c.named with
    | none => exact Nat.le_refl _
    | some n => exact hLoaded ▸ hNamed n hName
  exact hHistory.eq_of_length_le (by omega)

/-- A call that appends on top of the whole stream that it has loaded starts from the replay of that
stream. -/
theorem replay_of_base {c : Call} {stream : List StoredEvent} {a : Aggregate}
    (h : c.base (EventStore.loaded c.id stream) = .ok a)
    (hLength : stream.length = c.named.getD a.version) : Aggregate.replay c.id stream = .ok a := by
  rcases base_cases h with ⟨hNew, hNamed, -⟩ | hLoaded
  · rw [hNamed, hNew] at hLength
    rw [List.length_eq_zero_iff.mp hLength, hNew]
    rfl
  · exact replay_of_loaded hLoaded

/-- The event of a call can be recorded if the content that the call brings along is valid. -/
theorem Records.isValid {now : Instant} {a : Aggregate} {c : Call} {e : TemplateEvent}
    (h : c.Records now a e) (hValid : ∀ content, c.content? = some content → content.IsValid) :
    e.IsValid := by
  cases c with
  | create id name description content =>
    rw [h]
    exact hValid content rfl
  | get id => exact h.elim
  | update id name description content expected =>
    obtain ⟨s, -, rfl⟩ := h
    trivial
  | archive id =>
    rw [h]
    trivial

/-- A plan is about the template that the call is about. -/
theorem Plans.id {now : Instant} {c : Call} {a : Aggregate} {p : Pending}
    (h : c.Plans now a p) : p.aggregate.id = a.id := by
  cases h with
  | nothing hRests => rfl
  | event hRecords hTaken =>
    obtain ⟨s, -, rfl⟩ := Aggregate.apply_ok hTaken
    rfl

end Call

end Galley.Service
