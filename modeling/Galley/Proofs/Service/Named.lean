import Mathlib.Data.List.Induction
import Galley.Proofs.Service.Concurrent

/-!
# Updates that name a version

An update works out its patch from the template that it has loaded, but when it names a version, the
append is checked against the version that it names. Other calls may have brought the stream up to
that version in the meantime. Then the append goes through: the event is recorded behind the version
named, with a patch that was made for an older one.

So an update that succeeds gave the template that the stream is replayed to if and only if the
version that it named is the one that it had loaded. As long as this is so for every update of a
run, all streams can be replayed.

Main results:

* `replays_run` — streams can be replayed after a modest run.
* `named_update` — what became of an update that named a version and succeeded.
* `finished_overtaken` — an update after which its stream cannot be replayed any more.
-/

namespace Galley.Service

/-- Every stream can be replayed. -/
def Replays (s : EventStore) : Prop := ∀ id, ∃ a, Aggregate.replay id (s.held id) = .ok a

variable {calls : Nat → Call} {w w' : World} {i : Nat}

/-- A turn of a modest world leaves streams that can be replayed. -/
theorem Moves.replays (hMoves : Moves calls w i w') (hTraces : Traces calls w)
    (hModest : w'.IsModest calls)
    (hValid : ∀ content, (calls i).content? = some content → content.IsValid)
    (h : Replays w.events) : Replays w'.events := by
  rcases hMoves.quiet_or_wins with ⟨hEvents, -⟩ | ⟨happened, now, p, e, hWins⟩
  · exact hEvents ▸ h
  · obtain ⟨hPlan, -⟩ := hWins.plan_whole hTraces hModest
    obtain ⟨a, b, hBase, hRecords, hTaken, hp⟩ := Call.plan_event hPlan hWins.event
    have hExpected : p.expected = (calls i).named.getD a.version := by rw [hp]
    have hReplay := Call.replay_of_base hBase (hWins.length.trans hExpected)
    intro id
    rw [hWins.next.events]
    by_cases hId : id = (calls i).id
    · rw [hId, EventStore.held_grown_self, ← hWins.length]
      exact ⟨b, (Aggregate.replay_number hReplay (hRecords.isValid hValid) now _).trans hTaken⟩
    · rw [EventStore.held_grown_of_ne _ hId]
      exact h id

/-- **Streams can be replayed after a modest run**, if they could be before. -/
theorem replays_run (hValid : ∀ i content, (calls i).content? = some content → content.IsValid)
    {s : EventStore} (h : Replays s) (schedule : List Turn) :
    ((World.initial s).run calls schedule).IsModest calls →
      Replays ((World.initial s).run calls schedule).events := by
  induction schedule using List.reverseRecOn with
  | nil => exact fun _ => h
  | append_singleton schedule turn ih =>
    intro hModest
    rw [World.run_append] at hModest ⊢
    have hTraces := traces_run calls s schedule
    have hMoves := hTraces.moves turn
    exact hMoves.replays hTraces hModest (hValid turn.call) (ih (hMoves.isModest hModest))

/-- The record of an update: behind a version, with the patch from one content to another. -/
def updateRecord (id : Uuid) (version sequence : Nat) (happened recordedAt : Instant)
    (name description : String) (old new : Content) : StoredEvent :=
  ⟨TemplateEvent.aggregateType, id, version + 1, sequence, TemplateEvent.updatedKind,
    (TemplateEvent.updated name description (Patch.diff old.toText new.toText) happened).encode,
    recordedAt⟩

/-- A stream that goes on with the record of an update is replayed by taking the update. -/
theorem replay_updateRecord {id : Uuid} {stream : List StoredEvent} {a : Aggregate}
    (hReplay : Aggregate.replay id stream = .ok a) (sequence : Nat) (happened recordedAt : Instant)
    (name description : String) (old new : Content) :
    Aggregate.replay id (stream ++ [updateRecord id stream.length (sequence + 1) happened recordedAt
      name description old new]) =
      a.apply (.updated name description (Patch.diff old.toText new.toText) happened) :=
  @Aggregate.replay_number id stream a hReplay
    (.updated name description (Patch.diff old.toText new.toText) happened) trivial recordedAt
    sequence

/-- Behind a stream, the record of an update gives the template of the update if and only if the
update started from that whole stream, and not from the beginning of it. -/
theorem replay_updateRecord_iff {id : Uuid} {history stream : List StoredEvent} {a b : Aggregate}
    {t : Template} (hHistory : history <+: stream) (hReplay : Aggregate.replay id history = .ok a)
    {happened : Instant} {name description : String} {old new : Content}
    (hTaken : a.apply (.updated name description (Patch.diff old.toText new.toText) happened) =
      .ok b)
    (hTemplate : b.snapshot = .ok t) (sequence : Nat) (recordedAt : Instant) :
    (∃ c, Aggregate.replay id (stream ++ [updateRecord id stream.length (sequence + 1) happened
        recordedAt name description old new]) = .ok c ∧ c.snapshot = .ok t) ↔
      a.version = stream.length := by
  have hVersion := (Aggregate.replay_ok hReplay).2.1
  constructor
  -- the template is one version above the one loaded, the stream one above the one appended to
  · rintro ⟨c, hReplayed, hShown⟩
    have hCount := (Aggregate.replay_ok hReplayed).2.1
    obtain ⟨t', hShown', hNext⟩ := Aggregate.snapshot_of_apply hTaken
    cases hTemplate.symm.trans hShown'
    have hShownVersion := Aggregate.version_of_snapshot hShown
    rw [List.length_append, List.length_singleton] at hCount
    omega
  -- and if these are the same, the patch was made for the whole stream
  · intro hSame
    have hWhole : history = stream := hHistory.eq_of_length (by omega)
    rw [hWhole] at hReplay
    exact ⟨b, (replay_updateRecord hReplay ..).trans hTaken, hTemplate⟩

/-- An update that named a version and succeeded: the stream that it had loaded is the beginning of
the stream that it was appended to, which had the version named, and its record follows that one. -/
theorem Traces.update_won (h : Traces calls w) {happened : Instant} {p : Pending} {t : Template}
    {id : Uuid} {name description : String} {content : Content} {e : Nat}
    (hCall : calls i = .update id name description content (some e))
    (hPhase : w.phase i = .finished happened p (.ok t)) :
    ∃ history stream more a b st sequence recordedAt,
      history <+: stream ∧ stream.length = e ∧ Aggregate.replay id history = .ok a ∧
      p.loadedVersion = a.version ∧ a.state = some st ∧
      a.apply (.updated name description (Patch.diff st.content.toText content.toText) happened) =
        .ok b ∧
      b.snapshot = .ok t ∧
      w.events.held id = stream ++
        updateRecord id stream.length (sequence + 1) happened recordedAt name description st.content
          content :: more := by
  have hTraced := h.traced i
  rw [hPhase, hCall] at hTraced
  cases hTraced with
  | @finished _ _ _ history hHistory hPlan hOutcome =>
    generalize hResult : Except.ok t = result at hOutcome
    cases hOutcome with
    -- an update that is planned has an event, so it has not rested
    | rested hNothing => exact (Call.plan_nothing hPlan hNothing).2.elim
    | lost f => cases hResult
    | @won event stream recordedAt sequence hEvent hHistory hLength hStream =>
      obtain ⟨a, b, hBase, ⟨st, hState, rfl⟩, hTaken, hp⟩ := Call.plan_event hPlan hEvent
      have hReplay : Aggregate.replay id history = .ok a := Call.replay_of_loaded hBase
      have hExpected : p.expected = e := by rw [hp]; rfl
      have hBuffer := (Aggregate.replay_ok hReplay).2.2.1
      have hLoaded : p.loadedVersion = a.version := by
        obtain ⟨a', hBase', hPlans⟩ := Call.plan_ok hPlan
        cases hBase.symm.trans hBase'
        exact hPlans.loadedVersion hBuffer
      have hTemplate : b.snapshot = p.aggregate.snapshot := by rw [hp]; rfl
      obtain ⟨more, hMore⟩ := hStream
      rw [← hLength, List.append_assoc] at hMore
      exact ⟨history, stream, more, a, b, st, sequence, recordedAt, hHistory,
        hLength.trans hExpected, hReplay, hLoaded, hState, hTaken, hTemplate, hMore.symm⟩

/-- **What became of an update that named a version and succeeded.** It had loaded that version or
an older one. Its patch was made for the version that it had loaded, and is recorded behind the one
that it named. The stream up to there is replayed to the template that the update gave if and only
if the two versions are the same. And as long as they are for all such updates of a run, all streams
can be replayed. -/
theorem named_update (calls : Nat → Call) (s : EventStore) (schedule : List Turn) {i : Nat}
    {happened : Instant} {p : Pending} {t : Template} {id : Uuid} {name description : String}
    {content : Content} {e : Nat} (hCall : calls i = .update id name description content (some e))
    (hDone : ((World.initial s).run calls schedule).phase i = .finished happened p (.ok t)) :
    let w := (World.initial s).run calls schedule
    let stream := w.events.held id
    p.loadedVersion ≤ e ∧
    (∃ a st sequence recordedAt,
      Aggregate.replay id (stream.take p.loadedVersion) = .ok a ∧ a.state = some st ∧
      stream[e]? = some (updateRecord id e sequence happened recordedAt name description st.content
        content)) ∧
    ((∃ b, Aggregate.replay id (stream.take (e + 1)) = .ok b ∧ b.snapshot = .ok t) ↔
      p.loadedVersion = e) ∧
    (Replays s → (∀ i content, (calls i).content? = some content → content.IsValid) →
      w.IsModest calls → Replays w.events) := by
  intro w stream
  obtain ⟨history, before, more, a, b, st, sequence, recordedAt, hHistory, hLength, hReplay,
    hLoaded, hState, hTaken, hTemplate, hSplit⟩ :=
    (traces_run calls s schedule).update_won hCall hDone
  have hStream : stream = _ := hSplit
  have hVersion : p.loadedVersion = history.length :=
    hLoaded.trans (Aggregate.replay_ok hReplay).2.1
  have hLe : history.length ≤ before.length := hHistory.length_le
  refine ⟨by omega, ⟨a, st, sequence + 1, recordedAt, ?_, hState, ?_⟩, ?_,
    fun hReplays hValid hModest => replays_run hValid hReplays schedule hModest⟩
  · -- the stream may have grown since it was loaded, but only behind what was loaded
    obtain ⟨rest, hRest⟩ := hHistory
    rw [hStream, ← hRest, List.append_assoc, hVersion, List.take_left]
    exact hReplay
  · rw [hStream, ← hLength, List.getElem?_append_right (Nat.le_refl _), Nat.sub_self]
    rfl
  · have hTake : stream.take (e + 1) = before ++ [updateRecord id before.length (sequence + 1)
        happened recordedAt name description st.content content] := by
      rw [hStream, ← hLength, List.append_cons]
      exact List.take_left' (by simp)
    rw [hTake, hLoaded, ← hLength]
    exact replay_updateRecord_iff hHistory hReplay hTaken hTemplate sequence recordedAt

-- ---------------------------------------------------------------------------
-- An update that is overtaken
-- ---------------------------------------------------------------------------

/-- A template is created; two updates start from its first version, and the first of them names the
second version. -/
def overtaken : Nat → Call
  | 0 => .create default "a" "" .empty
  | 1 => .update default "b" "" ⟨⟨12, 1⟩, [], []⟩ (some 2)
  | _ => .update default "c" "" ⟨⟨12, 2⟩, [], []⟩ none

/-- The second update gets in between the turns of the first. -/
def overtaking : List Turn :=
  [.start 0 default, .finish 0 default, .start 1 default, .start 2 default, .finish 2 default,
    .finish 1 default]

/-- The overtaken update gives version 2, but its event is the third of a stream that cannot be
replayed any more. -/
theorem finished_overtaken :
    ∃ happened p t,
      ((World.initial .empty).run overtaken overtaking).phase 1 = .finished happened p (.ok t) ∧
      p.loadedVersion = 1 ∧ t.version = 2 ∧
      ∀ a, Aggregate.replay default
        (((World.initial .empty).run overtaken overtaking).events.held default) ≠ .ok a := by
  have hRun : ∃ w, (World.initial .empty).run overtaken overtaking = w ∧
      ((w.phase 1).loadedVersion?,
        ((w.phase 1).result?.bind Except.toOption).map Template.version,
        (Aggregate.replay default (w.events.held default)).toOption.isSome) =
        (some 1, some 2, false) :=
    ⟨_, rfl, by decide +kernel⟩
  obtain ⟨w, hw, hFacts⟩ := hRun
  rw [hw]
  obtain ⟨hLoaded, hVersion, hReplay⟩ : _ ∧ _ ∧ _ := by simpa only [Prod.mk.injEq] using hFacts
  have hNever : ∀ a, Aggregate.replay default (w.events.held default) ≠ .ok a := by
    intro a ha
    rw [ha] at hReplay
    cases hReplay
  rcases hPhase : w.phase 1 with _ | _ | _ | ⟨happened, p, f | t⟩
  · rw [hPhase] at hLoaded
    cases hLoaded
  · rw [hPhase] at hLoaded
    cases hLoaded
  · rw [hPhase] at hLoaded
    cases hLoaded
  · rw [hPhase] at hVersion
    cases hVersion
  · rw [hPhase] at hLoaded hVersion
    exact ⟨happened, p, t, rfl, Option.some.inj hLoaded, Option.some.inj hVersion, hNever⟩

/-- What is known of an update that named a version and succeeded is known of the overtaken one. -/
theorem named_update_of_overtaken :
    ∃ happened p t,
      overtaken 1 = .update default "b" "" ⟨⟨12, 1⟩, [], []⟩ (some 2) ∧
      ((World.initial .empty).run overtaken overtaking).phase 1 = .finished happened p (.ok t) ∧
      p.loadedVersion ≤ 2 := by
  obtain ⟨happened, p, t, hDone, -⟩ := finished_overtaken
  exact ⟨happened, p, t, rfl, hDone, (named_update overtaken .empty overtaking rfl hDone).1⟩

/-- Not every update that names a version and succeeds had loaded that version, leaves a stream that
can be replayed, and gives the template that the stream is replayed to. -/
theorem not_named_update_faithful :
    ¬ ∀ (calls : Nat → Call) (schedule : List Turn) i happened p t id name description content e,
      calls i = .update id name description content (some e) →
      ((World.initial .empty).run calls schedule).phase i = .finished happened p (.ok t) →
      p.loadedVersion = e ∧
      ∃ a, Aggregate.replay id (((World.initial .empty).run calls schedule).events.held id) =
        .ok a := by
  intro hAll
  obtain ⟨happened, p, t, hDone, hLoaded, -, hNever⟩ := finished_overtaken
  obtain ⟨hSame, a, hReplay⟩ :=
    hAll overtaken overtaking 1 happened p t _ _ _ _ _ rfl hDone
  exact hNever a hReplay

end Galley.Service
