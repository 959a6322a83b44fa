import Mathlib.Data.List.Induction
import Galley.Projection.Fold
import Galley.Proofs.Log.Reading
import Galley.Proofs.Projection.Catalog
import Galley.Proofs.Template.Aggregate

/-!
# The catalog agrees with replay

There are two ways to read a log. Replay takes the events of one template, checks their versions and
carries out their patches; folding takes the events of all templates as they come and looks at
neither. On a log that replay accepts, template by template, they agree: the row of every template
is what replay makes of its events so far, however the templates take turns.

What carries the induction is that each row is the one of its replayed template (`Catalog.Follows`):
an event that replay takes next is one that folding can take, and both make the same of it.

Main results:

* `take_eq` — an event that a template takes is folded into the row of that template.
* `Follows.fold` — one event keeps catalog and replay together.
* `foldAll_upTo` — so does every log that replay accepts, up to any position.
-/

namespace Galley

/-- The row of a template. -/
def Template.summary (t : Template) : Summary :=
  ⟨t.id, t.name, t.description, t.archived, t.createdAt, t.updatedAt⟩

/-- Whether a record is of what happened to a template. -/
def StoredEvent.IsOfTemplate (e : StoredEvent) (id : Uuid) : Prop :=
  e.aggregateType = TemplateEvent.aggregateType ∧ e.aggregateId = id

instance (e : StoredEvent) (id : Uuid) : Decidable (e.IsOfTemplate id) :=
  inferInstanceAs (Decidable (_ ∧ _))

/-- What a log says of a template. -/
def Log.ofTemplate (id : Uuid) (log : List StoredEvent) : List StoredEvent :=
  log.filter fun e => e.IsOfTemplate id

/-- Replay accepts what a log says of each template. -/
def Log.Replays (log : List StoredEvent) : Prop :=
  ∀ id, ∃ a, Aggregate.replay id (Log.ofTemplate id log) = .ok a

namespace Catalog

/-- A catalog shows the templates of a log: there is one row for each, and it is the row of what
replay makes of the events of that template. -/
structure Shows (c : Catalog) (log : List StoredEvent) : Prop where
  oneEach : (c.rows.map Summary.id).Nodup
  templates : ∀ id, id ∈ c.rows.map Summary.id ↔ ∃ e ∈ log, e.IsOfTemplate id
  rows : ∀ row ∈ c.rows, ∃ a t, Aggregate.replay row.id (Log.ofTemplate row.id log) = .ok a ∧
    a.toTemplate = some t ∧ row = t.summary

/-- A catalog follows a log: it is in order, and for each template it has the row of what replay
makes of its events, or none as long as there are no events. -/
structure Follows (c : Catalog) (log : List StoredEvent) : Prop where
  ordered : c.IsOrdered
  replayed : ∀ id, ∃ a, Aggregate.replay id (Log.ofTemplate id log) = .ok a ∧
    c.get? id = a.toTemplate.map Template.summary

-- ---------------------------------------------------------------------------
-- Folding in parts
-- ---------------------------------------------------------------------------

/-- Two lists are folded one after the other. -/
theorem foldAll_append (c : Catalog) (first more : List StoredEvent) :
    c.foldAll (first ++ more) = c.foldAll first >>= fun d => d.foldAll more := by
  induction first generalizing c with
  | nil => rfl
  | cons e first ih =>
    rw [List.cons_append, foldAll, foldAll]
    cases c.fold e with
    | error f => rfl
    | ok d => exact ih d

theorem foldAll_append_ok {c d : Catalog} {first more : List StoredEvent} :
    c.foldAll (first ++ more) = .ok d ↔
      ∃ between, c.foldAll first = .ok between ∧ between.foldAll more = .ok d := by
  rw [foldAll_append, bind_eq_ok]

theorem foldAll_singleton (c : Catalog) (e : StoredEvent) : c.foldAll [e] = c.fold e := by
  show (c.fold e >>= fun d => d.foldAll []) = c.fold e
  cases c.fold e <;> rfl

variable {c d : Catalog} {e : StoredEvent} {log : List StoredEvent}

-- ---------------------------------------------------------------------------
-- Folding keeps the order
-- ---------------------------------------------------------------------------

/-- An event that is taken in writes one row. -/
theorem take_ok {event : TemplateEvent} (h : c.take e event = .ok d) : ∃ s, d = c.insert s := by
  cases event with
  | created name description content t => exact ⟨_, (Except.ok.inj h).symm⟩
  | updated name description patch t =>
    obtain ⟨row, -, rfl⟩ := map_eq_ok.mp h
    exact ⟨_, rfl⟩
  | archived t =>
    obtain ⟨row, -, rfl⟩ := map_eq_ok.mp h
    exact ⟨_, rfl⟩

/-- An event writes one row or none. -/
theorem fold_ok (h : c.fold e = .ok d) : d = c ∨ ∃ s, d = c.insert s := by
  rw [fold] at h
  split at h
  · exact .inl (Except.ok.inj h).symm
  · obtain ⟨event, -, hTake⟩ := bind_eq_ok.mp h
    exact .inr (take_ok hTake)

/-- Folding keeps the rows in order. -/
theorem IsOrdered.foldAll (hc : c.IsOrdered) (h : c.foldAll log = .ok d) : d.IsOrdered := by
  induction log generalizing c with
  | nil =>
    cases h
    exact hc
  | cons e log ih =>
    obtain ⟨next, hNext, hRest⟩ := bind_eq_ok.mp h
    rcases fold_ok hNext with rfl | ⟨s, rfl⟩
    · exact ih hc hRest
    · exact ih (hc.insert s) hRest

-- ---------------------------------------------------------------------------
-- One event
-- ---------------------------------------------------------------------------

/-- **An event that a template takes is folded into the row of that template**, which becomes the
row of the template after the event. -/
theorem take_eq {a b : Aggregate} {event : TemplateEvent} (hId : a.id = e.aggregateId)
    (hRow : c.get? e.aggregateId = a.toTemplate.map Template.summary)
    (hApply : a.apply event = .ok b) :
    ∃ t, b.toTemplate = some t ∧ t.id = e.aggregateId ∧
      c.take e event = .ok (c.insert t.summary) := by
  obtain ⟨s, hState, rfl⟩ := Aggregate.apply_ok hApply
  refine ⟨_, rfl, hId, ?_⟩
  -- replay takes a creation without a state and any other event with one; both must agree there
  cases hBefore : a.state with
  | none =>
    rw [hBefore] at hState
    cases event with
    | created name description content t =>
      cases hState
      rw [take, ← hId]
      rfl
    | updated name description patch t => cases hState
    | archived t => cases hState
  | some before =>
    rw [hBefore] at hState
    rw [Aggregate.toTemplate, hBefore] at hRow
    have hRowOf : c.rowOf e = .ok ⟨a.id, before.name, before.description, before.archived,
        before.createdAt, before.updatedAt⟩ := by
      rw [rowOf, hRow]
      rfl
    cases event with
    | created name description content t => cases hState
    | updated name description patch t =>
      obtain ⟨content, -, rfl⟩ := map_eq_ok.mp hState
      rw [take, hRowOf]
      rfl
    | archived t =>
      cases hState
      rw [take, hRowOf]
      rfl

/-- One more event belongs to the stream of its own template only. -/
theorem ofTemplate_append (id : Uuid) (log : List StoredEvent) (e : StoredEvent) :
    Log.ofTemplate id (log ++ [e]) =
      if e.IsOfTemplate id then Log.ofTemplate id log ++ [e] else Log.ofTemplate id log := by
  rw [Log.ofTemplate, List.filter_append, List.filter_singleton]
  by_cases h : e.IsOfTemplate id
  · rw [if_pos h, decide_eq_true h]
    rfl
  · rw [if_neg h, decide_eq_false h]
    exact List.append_nil _

/-- **One event keeps catalog and replay together**, if replay takes it. -/
theorem Follows.fold (h : c.Follows log) (hReplays : Log.Replays (log ++ [e])) :
    ∃ d, c.fold e = .ok d ∧ d.Follows (log ++ [e]) := by
  by_cases hType : e.aggregateType = TemplateEvent.aggregateType
  · -- both ways take the event, and only the template of the event changes
    obtain ⟨b, hReplay⟩ := hReplays e.aggregateId
    rw [ofTemplate_append, if_pos ⟨hType, rfl⟩] at hReplay
    obtain ⟨a, hBefore, hRow⟩ := h.replayed e.aggregateId
    obtain ⟨event, hDecode, hApply⟩ := Aggregate.replay_append_ok hBefore hReplay
    obtain ⟨t, hTemplate, hId, hTake⟩ := take_eq (Aggregate.replay_ok hBefore).1 hRow hApply
    refine ⟨c.insert t.summary, ?_, h.ordered.insert _, fun id => ?_⟩
    · rw [Catalog.fold, if_neg (not_not.mpr hType), hDecode]
      exact hTake
    · have hSummary : t.summary.id = e.aggregateId := hId
      rw [ofTemplate_append, get?_insert, hSummary]
      by_cases hSame : id = e.aggregateId
      · rw [if_pos hSame, if_pos ⟨hType, hSame.symm⟩, hSame]
        exact ⟨b, hReplay, by rw [hTemplate]; rfl⟩
      · rw [if_neg hSame, if_neg fun hOf => hSame hOf.2.symm]
        exact h.replayed id
  · -- the event is passed over, and no template has it
    refine ⟨c, by rw [Catalog.fold, if_pos hType], h.ordered, fun id => ?_⟩
    rw [ofTemplate_append, if_neg fun hOf => hType hOf.1]
    exact h.replayed id

-- ---------------------------------------------------------------------------
-- Whole logs
-- ---------------------------------------------------------------------------

theorem follows_empty : empty.Follows [] where
  ordered := isOrdered_empty
  replayed := fun id => ⟨.empty id, rfl, rfl⟩

/-- Replay accepts every beginning of a log that it accepts. -/
theorem replays_beginning {first : List StoredEvent} (h : Log.Replays log)
    (hPrefix : first <+: log) : Log.Replays first := by
  intro id
  obtain ⟨a, hReplay⟩ := h id
  obtain ⟨more, rfl⟩ := hPrefix
  rw [Log.ofTemplate, List.filter_append, Aggregate.replay, Aggregate.applyAll_append] at hReplay
  obtain ⟨b, hFirst, -⟩ := bind_eq_ok.mp hReplay
  exact ⟨b, hFirst⟩

/-- A log that replay accepts is folded to a catalog that follows it. -/
theorem foldAll_follows (h : Log.Replays log) :
    ∃ c, empty.foldAll log = .ok c ∧ c.Follows log := by
  -- from the end of the log, as replay and fold both go on by one event there
  induction log using List.reverseRecOn with
  | nil => exact ⟨empty, rfl, follows_empty⟩
  | append_singleton log e ih =>
    obtain ⟨c, hFold, hFollows⟩ := ih (replays_beginning h (List.prefix_append log [e]))
    obtain ⟨d, hEvent, hNext⟩ := hFollows.fold h
    refine ⟨d, foldAll_append_ok.mpr ⟨c, hFold, ?_⟩, hNext⟩
    rw [foldAll_singleton, hEvent]

/-- A catalog that follows a log shows it. -/
theorem Follows.shows (h : c.Follows log) : c.Shows log where
  oneEach := h.ordered.nodup_ids
  templates := by
    intro id
    obtain ⟨a, hReplay, hRow⟩ := h.replayed id
    have hSome : Log.ofTemplate id log ≠ [] ↔ ∃ e ∈ log, e.IsOfTemplate id := by
      simp [Log.ofTemplate, List.filter_eq_nil_iff]
    rw [mem_ids_iff, hRow, ← hSome, ← Aggregate.exists_template_iff hReplay]
    simp
  rows := by
    intro row hMem
    obtain ⟨a, hReplay, hRow⟩ := h.replayed row.id
    rw [h.ordered.get?_of_mem hMem] at hRow
    obtain ⟨t, hTemplate, hSummary⟩ := Option.map_eq_some_iff.mp hRow.symm
    exact ⟨a, t, hReplay, hTemplate, hSummary.symm⟩

/-- **Folding agrees with replay.** Up to any position, a log that replay accepts is folded, and
the catalog shows the templates of the log up to there. -/
theorem foldAll_upTo (hOrder : Log.InOrder log) (hReplays : Log.Replays log) (position : Nat) :
    ∃ c, empty.foldAll (Log.upTo position log) = .ok c ∧ c.Shows (Log.upTo position log) := by
  have hPrefix : Log.upTo position log <+: log := ⟨_, Log.upTo_append_above hOrder position⟩
  obtain ⟨c, hFold, hFollows⟩ := foldAll_follows (replays_beginning hReplays hPrefix)
  exact ⟨c, hFold, hFollows.shows⟩

/-- Two templates that take turns, with an event of another type in between and gaps in the
sequences. The first template is renamed, its content unchanged, and the second one is archived. -/
def interleaved : List StoredEvent :=
  let record (id : Uuid) (version sequence : Nat) (e : TemplateEvent) : StoredEvent :=
    ⟨TemplateEvent.aggregateType, id, version, sequence, e.kind, e.encode, default⟩
  [record (.ofNat 1) 1 1 (.created "a" "" .empty default),
    record (.ofNat 2) 1 2 (.created "b" "" .empty default),
    ⟨"invoice", .ofNat 1, 1, 5, "Paid", .null, default⟩,
    record (.ofNat 1) 2 7 (.updated "c" "" "" default),
    record (.ofNat 2) 2 9 (.archived default)]

/-- The two templates are listed as of sequence 7, when the second is not archived yet. -/
theorem foldAll_upTo_of_interleaved :
    Log.InOrder interleaved ∧ Log.Replays interleaved ∧
      ∃ c, empty.foldAll (Log.upTo 7 interleaved) = .ok c ∧ c.Shows (Log.upTo 7 interleaved) := by
  have hOrder : Log.InOrder interleaved := by
    simp [Log.InOrder, interleaved]
  have hOk (x : Except Failure Aggregate) (h : x.isOk = true) : ∃ a, x = .ok a := by
    cases x with
    | error f => exact Bool.noConfusion h
    | ok a => exact ⟨a, rfl⟩
  have hReplays : Log.Replays interleaved := by
    intro id
    by_cases hFirst : id = .ofNat 1
    · rw [hFirst]
      exact hOk _ (by decide +kernel)
    by_cases hSecond : id = .ofNat 2
    · rw [hSecond]
      exact hOk _ (by decide +kernel)
    have hNone : Log.ofTemplate id interleaved = [] := by
      simp [Log.ofTemplate, interleaved, StoredEvent.IsOfTemplate, Ne.symm hFirst, Ne.symm hSecond]
    rw [hNone]
    exact ⟨_, rfl⟩
  exact ⟨hOrder, hReplays, foldAll_upTo hOrder hReplays 7⟩

end Catalog

end Galley
