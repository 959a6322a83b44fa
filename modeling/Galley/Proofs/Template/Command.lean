import Galley.Proofs.Template.Aggregate

/-!
# Commands on a template, and the replay of what they recorded

A writer holds a template in memory and gives it commands, one after another; some may fail. What
was recorded on the way is appended in one batch. The template in memory and the one rebuilt from
the stream went different ways: the first took its events as they are, the second has them from
recorded payloads. They are the same nevertheless, as every event was taken before it was recorded,
and its payload stands for just that event (`Carries`).

Contents need not be readable from their canonical texts: reals may come out of a patch changed, but
then they do so on both ways.

Main results:

* `applyAll_number` — the records of events are taken as the events.
* `Carries.obeyAll` — commands keep a template on top of its history.
* `replay_appended` — what is rebuilt after the append is the template in memory.
-/

namespace Galley.Aggregate

/-- A command on a template, at a reading of the clock. -/
inductive Command where
  | update (now : Instant) (name description : String) (content : Content)
  | archive (now : Instant)

/-- Carries out a command. -/
def carryOut (a : Aggregate) : Command → Except Failure Aggregate
  | .update now name description content => a.update now name description content
  | .archive now => a.archive now

/-- The template after a command; one that fails leaves it as it was. -/
def obey (a : Aggregate) (c : Command) : Aggregate :=
  match a.carryOut c with
  | .ok b => b
  | .error _ => a

/-- The template after commands that come one after another. -/
def obeyAll (a : Aggregate) (cs : List Command) : Aggregate := cs.foldl obey a

/-- How a template comes into the hands of a writer: it is rebuilt from a history, or it is new and
has none. The values that its content holds are valid, as all are that can be written down. -/
inductive Opened (id : Uuid) : List StoredEvent → Aggregate → Prop
  | rebuilt {history : List StoredEvent} {a : Aggregate} (hReplay : replay id history = .ok a) :
      Opened id history a
  | new {now : Instant} {name description : String} {content : Content} {a : Aggregate}
      (hValid : content.IsValid) (hCreate : create now id name description content = .ok a) :
      Opened id [] a

/-- Appends what a template has recorded, on top of the version that it had before. -/
def appendTo (a : Aggregate) (now : Instant) (s : EventStore) : Except Failure Nat × EventStore :=
  s.append now a.id a.expectedVersion a.newEvents

/-- How the append of a template that was opened with a history ends: the version given is that of
the template, and the stream is rebuilt to the same template, with nothing left to append; or the
append is refused and changes nothing, as the stream was no longer the history. -/
inductive Settles (a : Aggregate) (history : List StoredEvent) (s : EventStore) :
    Except Failure Nat × EventStore → Prop
  | appended {s' : EventStore} {events : List StoredEvent} {rebuilt : Aggregate} {t : Template}
      (hLoad : s'.load a.id = .ok events) (hReplay : replay a.id events = .ok rebuilt)
      (hRebuilt : rebuilt.toTemplate = some t) (hLive : a.toTemplate = some t)
      (hNothing : rebuilt.uncommitted = []) : Settles a history s (.ok a.version, s')
  | overtaken (f : Failure) (hGoneOn : s.held a.id ≠ history) : Settles a history s (.error f, s)

-- ---------------------------------------------------------------------------
-- Events in a row
-- ---------------------------------------------------------------------------

/-- Takes events one after another. -/
def applyEvents : Aggregate → List TemplateEvent → Except Failure Aggregate
  | a, [] => .ok a
  | a, e :: rest => a.apply e >>= fun a => applyEvents a rest

theorem applyEvents_append (a : Aggregate) (first more : List TemplateEvent) :
    a.applyEvents (first ++ more) = a.applyEvents first >>= fun b => b.applyEvents more := by
  induction first generalizing a with
  | nil => rfl
  | cons e first ih =>
    rw [List.cons_append, applyEvents, applyEvents]
    cases a.apply e with
    | error f => rfl
    | ok b => exact ih b

/-- Events that are taken count, and are of the same template. -/
theorem applyEvents_ok {events : List TemplateEvent} {a b : Aggregate}
    (h : a.applyEvents events = .ok b) : b.id = a.id ∧ b.version = a.version + events.length := by
  induction events generalizing a with
  | nil =>
    cases h
    exact ⟨rfl, rfl⟩
  | cons e events ih =>
    obtain ⟨next, hNext, hRest⟩ := bind_eq_ok.mp h
    obtain ⟨s, -, hNext⟩ := apply_ok hNext
    obtain ⟨hId, hVersion⟩ := ih hRest
    rw [hId, hVersion, hNext, List.length_cons]
    exact ⟨rfl, by rw [Nat.add_assoc, Nat.add_comm 1]⟩

/-- Taking an event leaves the buffer alone. -/
theorem apply_clear (a : Aggregate) (e : TemplateEvent) :
    a.clear.apply e = (a.apply e).map clear := by
  rw [apply, apply, clear]
  cases applyState a.id a.version a.state e <;> rfl

/-- **The records of events are taken as the events.** -/
theorem applyAll_number (recordedAt : Instant) {events : List TemplateEvent}
    (hValid : ∀ e ∈ events, e.IsValid) : ∀ (a : Aggregate) (sequence : Nat),
      applyAll a (EventStore.number a.id recordedAt a.version sequence
        (events.map TemplateEvent.toNewEvent)) = a.applyEvents events := by
  induction events with
  | nil => exact fun _ _ => rfl
  | cons e events ih =>
    obtain ⟨hFirst, hRest⟩ := List.forall_mem_cons.mp hValid
    intro a sequence
    show (a.applyStored ⟨TemplateEvent.aggregateType, a.id, a.version + 1, sequence + 1, e.kind,
      e.encode, recordedAt⟩ >>= fun b => applyAll b _) = a.apply e >>= fun b => b.applyEvents events
    rw [applyStored_record a hFirst]
    cases hTaken : a.apply e with
    | error f => rfl
    | ok b =>
      obtain ⟨s, -, rfl⟩ := apply_ok hTaken
      exact ih hRest _ (sequence + 1)

-- ---------------------------------------------------------------------------
-- Templates on top of their history
-- ---------------------------------------------------------------------------

/-- A template on top of a history: rebuilt from it, with the uncommitted events taken since. -/
structure Carries (id : Uuid) (history : List StoredEvent) (a : Aggregate) : Prop where
  valid : ∀ e ∈ a.uncommitted, e.IsValid
  taken : ∃ base, replay id history = .ok base ∧ base.applyEvents a.uncommitted = .ok a.clear

variable {id : Uuid} {history : List StoredEvent} {a b : Aggregate}

/-- A rebuilt template is on top of its history. -/
theorem carries_replay (h : replay id history = .ok a) : Carries id history a := by
  obtain ⟨-, -, hBuffer, -⟩ := replay_ok h
  have hClear : a.clear = a := by rw [clear, ← hBuffer]
  refine ⟨?_, a, h, ?_⟩
  · rw [hBuffer]
    exact fun _ he => nomatch he
  · rw [hBuffer, hClear]
    rfl

/-- An event that is recorded stays on top. -/
theorem Carries.record (h : Carries id history a) {e : TemplateEvent} (hValid : e.IsValid)
    (hRecord : a.record e = .ok b) : Carries id history b := by
  obtain ⟨next, hTaken, rfl⟩ := record_ok hRecord
  obtain ⟨base, hReplay, hEvents⟩ := h.taken
  have hBuffer : next.uncommitted = a.uncommitted := by
    obtain ⟨s, -, rfl⟩ := apply_ok hTaken
    rfl
  refine ⟨?_, base, hReplay, ?_⟩
  · show ∀ e' ∈ next.uncommitted ++ [e], e'.IsValid
    rw [hBuffer]
    intro e' he'
    rcases List.mem_append.mp he' with he' | he'
    · exact h.valid e' he'
    · rw [List.mem_singleton.mp he']
      exact hValid
  · show base.applyEvents (next.uncommitted ++ [e]) = .ok next.clear
    rw [hBuffer, applyEvents_append, hEvents]
    show (a.clear.apply e >>= fun b => b.applyEvents []) = _
    rw [apply_clear, hTaken]
    rfl

/-- A template in a writer's hands is on top of its history. -/
theorem Opened.carries (h : Opened id history a) : Carries id history a := by
  cases h with
  | rebuilt hReplay => exact carries_replay hReplay
  | new hValid hCreate =>
    rw [create] at hCreate
    split at hCreate
    · cases hCreate
    · exact (carries_replay rfl).record (e := .created _ _ _ _) hValid hCreate

/-- A command that succeeds records one valid event, or changes nothing. -/
theorem carryOut_ok {c : Command} (h : a.carryOut c = .ok b) :
    b = a ∨ ∃ e : TemplateEvent, e.IsValid ∧ a.record e = .ok b := by
  cases c with
  | update now name description content =>
    rw [carryOut, update] at h
    split at h
    · cases h
    · split at h
      · cases h
      · exact .inr ⟨.updated _ _ _ now, trivial, h⟩
  | archive now =>
    rw [carryOut, archive] at h
    split at h
    · cases h
    · split at h
      · cases h
        exact .inl rfl
      · exact .inr ⟨.archived now, trivial, h⟩

theorem Carries.obey (h : Carries id history a) (c : Command) : Carries id history (a.obey c) := by
  rw [Aggregate.obey]
  split
  · next b hDone =>
    rcases carryOut_ok hDone with rfl | ⟨e, hValid, hRecord⟩
    · exact h
    · exact h.record hValid hRecord
  · exact h

/-- **Commands keep a template on top of its history.** -/
theorem Carries.obeyAll (h : Carries id history a) (cs : List Command) :
    Carries id history (a.obeyAll cs) := by
  induction cs generalizing a with
  | nil => exact h
  | cons c cs ih => exact ih (h.obey c)

/-- The version that the append must find is the number of events in the history. -/
theorem Carries.version (h : Carries id history a) :
    a.id = id ∧ a.version = history.length + a.uncommitted.length ∧
      a.expectedVersion = history.length := by
  obtain ⟨base, hReplay, hEvents⟩ := h.taken
  obtain ⟨hBaseId, hBase, -, -⟩ := replay_ok hReplay
  obtain ⟨hId, hVersion⟩ : a.id = base.id ∧ a.version = base.version + a.uncommitted.length :=
    applyEvents_ok (b := a.clear) hEvents
  refine ⟨hId.trans hBaseId, by omega, ?_⟩
  rw [expectedVersion]
  omega

/-- A history that goes on with the uncommitted events is replayed to the template itself. -/
theorem Carries.replay_number (h : Carries id history a) (recordedAt : Instant) (sequence : Nat) :
    replay id (history ++
      EventStore.number id recordedAt history.length sequence a.newEvents) = .ok a.clear := by
  obtain ⟨base, hReplay, hEvents⟩ := h.taken
  obtain ⟨hId, hVersion, -, -⟩ := replay_ok hReplay
  have hAll : replay id history = applyAll (empty id) history := rfl
  rw [replay, applyAll_append, ← hAll, hReplay, ← hId, ← hVersion, ← hEvents]
  exact applyAll_number recordedAt h.valid base sequence

/-- A template that has recorded an event can be shown. -/
theorem Carries.exists_template (h : Carries id history a) (hSome : a.uncommitted ≠ []) :
    ∃ t, a.toTemplate = some t := by
  have hReplay := h.replay_number default 0
  have hNew : EventStore.number id default history.length 0 a.newEvents ≠ [] := by
    rw [← List.length_pos_iff, EventStore.length_number, newEvents, List.length_map]
    exact List.length_pos_iff.mpr hSome
  exact (exists_template_iff hReplay).mpr fun hNil => hNew (List.append_eq_nil_iff.mp hNil).2

/-- **What is rebuilt after the append is the template in memory**, if anything was recorded: the
append gives its version, and the stream is replayed to the same template, with nothing left to
append. Only a stream that has gone on in the meantime refuses the append. -/
theorem replay_appended (hOpened : Opened id history a) (commands : List Command) {s : EventStore}
    (hHistory : history <+: s.held id) (now : Instant)
    (hSome : (a.obeyAll commands).uncommitted ≠ []) :
    (a.obeyAll commands).Settles history s ((a.obeyAll commands).appendTo now s) := by
  generalize hLive : a.obeyAll commands = live at hSome ⊢
  have hCarries : Carries id history live := hLive ▸ hOpened.carries.obeyAll commands
  obtain ⟨rfl, hVersion, hExpected⟩ := hCarries.version
  have hLength : live.newEvents.length = live.uncommitted.length := List.length_map _
  have hBatch : live.newEvents ≠ [] := fun hNil => hSome (List.map_eq_nil_iff.mp hNil)
  rcases hAppend : live.appendTo now s with ⟨f | version, s'⟩
  · obtain rfl := EventStore.append_error hAppend
    refine .overtaken f fun hSame => ?_
    rw [appendTo, EventStore.append_eq, if_neg (by simpa using hBatch),
      EventStore.currentVersion_eq, hSame, if_pos hExpected.symm] at hAppend
    cases hAppend
  · obtain ⟨-, hHeld, hGiven, rfl⟩ := EventStore.append_ok hAppend
    obtain rfl : version = live.version := by omega
    -- the append went through, so the stream is still the history
    have hSame : history = s.held live.id := hHistory.eq_of_length (hHeld.trans hExpected).symm
    obtain ⟨t, hTemplate⟩ := hCarries.exists_template hSome
    refine .appended ?_ (hCarries.replay_number now s.lastSequence) hTemplate hTemplate rfl
    rw [EventStore.load_eq, EventStore.loaded, EventStore.held_grown_self, hExpected, ← hSame,
      if_neg]
    intro hNil
    rw [← List.length_eq_zero_iff, List.length_append, EventStore.length_number] at hNil
    exact hBatch (List.length_eq_zero_iff.mp (by omega))

/-- A new template whose content holds a half. -/
def drafted : Aggregate :=
  let content : Content := ⟨.standard, [.number (.real ⟨false, 1022 * Binary64.binade⟩)], []⟩
  ⟨default, some ⟨"a", "", content, false, default, default⟩, 1,
    [.created "a" "" content default]⟩

/-- An update without a name, which fails; one to content with another real; and two archivings, of
which the second changes nothing. -/
def revisions : List Command :=
  [.update default " " "" .empty,
    .update default "b" "" ⟨.standard, [.number (.real ⟨true, 1023 * Binary64.binade⟩)], []⟩,
    .archive default, .archive default]

/-- The new template and its revisions are appended in one batch, as versions 1 to 3. -/
theorem replay_appended_of_drafted :
    Opened default [] drafted ∧
      ((drafted.obeyAll revisions).uncommitted.length, (drafted.obeyAll revisions).version) =
        (3, 3) ∧
      (drafted.obeyAll revisions).Settles [] .empty
        ((drafted.obeyAll revisions).appendTo default .empty) := by
  have hOpened : Opened default [] drafted :=
    @Opened.new default default "a" "" _ drafted (by decide) rfl
  have hLive : ((drafted.obeyAll revisions).uncommitted.length,
      (drafted.obeyAll revisions).version) = (3, 3) := by decide +kernel
  refine ⟨hOpened, hLive, replay_appended hOpened revisions List.nil_prefix default ?_⟩
  rw [← List.length_pos_iff, (Prod.mk.inj hLive).1]
  decide

end Galley.Aggregate
