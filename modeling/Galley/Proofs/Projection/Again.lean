import Mathlib.Data.List.Perm.Basic
import Galley.Proofs.Projection.Fold

/-!
# Events folded again

A runner that dies between folding a page and saving its position folds that page again when it is
restarted. It starts from a catalog that has the events already, and must not show it.

Events overwrite different parts of a row: a creation writes all of it, an update leaves
`archived` and `createdAt`, an archiving writes only the flag and a time. So that each event by
itself can be folded twice says nothing about a list of them, in which a second round begins with
events that later ones have overwritten. What decides is who wrote last: a list of events writes to
each template's row an `Overwrite`, the last value for every field that one of the events writes
(`rowFor_foldAll`). After the first round those values stand there, and the second round writes the
same ones, from rows that are all there already.

Main results:

* `get?_fold` — what one event does to the rows.
* `rowFor_foldAll`, `hasRow_foldAll` — what a list of events does to them.
* `foldAll_from_earlier` — going back to an earlier place of the list changes nothing at its end.
* `foldAll_again` — an already folded list is folded again without a trace, also in a batch that
  goes on from it, and also when it is delivered in pieces that go back as often as they like.
-/

namespace Galley

-- ---------------------------------------------------------------------------
-- Overwriting a row
-- ---------------------------------------------------------------------------

/-- What is written to a row: a new value for some of its fields. -/
structure Overwrite where
  name : Option String
  description : Option String
  archived : Option Bool
  createdAt : Option Instant
  updatedAt : Option Instant

namespace Overwrite

/-- Writes no field. -/
def nothing : Overwrite := ⟨none, none, none, none, none⟩

/-- What an event writes to the row of its template. -/
def ofEvent : TemplateEvent → Overwrite
  | .created name description _ t =>
    ⟨some name, some description, some false, some t, some t⟩
  | .updated name description _ t => ⟨some name, some description, none, none, some t⟩
  | .archived t => ⟨none, none, some true, none, some t⟩

/-- The row after writing. -/
def on (w : Overwrite) (row : Summary) : Summary :=
  ⟨row.id, w.name.getD row.name, w.description.getD row.description,
    w.archived.getD row.archived, w.createdAt.getD row.createdAt, w.updatedAt.getD row.updatedAt⟩

/-- Writes `w` and then `v`. -/
def andThen (w v : Overwrite) : Overwrite :=
  ⟨v.name.or w.name, v.description.or w.description, v.archived.or w.archived,
    v.createdAt.or w.createdAt, v.updatedAt.or w.updatedAt⟩

/-- Every field that `w` writes, `v` writes too. -/
structure Within (w v : Overwrite) : Prop where
  name : w.name.isSome → v.name.isSome
  description : w.description.isSome → v.description.isSome
  archived : w.archived.isSome → v.archived.isSome
  createdAt : w.createdAt.isSome → v.createdAt.isSome
  updatedAt : w.updatedAt.isSome → v.updatedAt.isSome

variable {w v : Overwrite} {row other after : Summary}

@[simp] theorem on_id : (w.on row).id = row.id := rfl

theorem getD_or {α : Type} (a b : Option α) (old : α) :
    (b.or a).getD old = b.getD (a.getD old) := by
  cases b <;> rfl

/-- Writing `w` and then `v` is to write both in that order. -/
theorem andThen_on : (w.andThen v).on row = v.on (w.on row) := by
  simp only [on, andThen, getD_or]

/-- What is written last is within what is written altogether. -/
theorem within_andThen : v.Within (w.andThen v) := by
  constructor <;> intro h <;> rw [andThen] <;> simp only [Option.isSome_or, h, Bool.true_or]

@[refl] theorem Within.refl (w : Overwrite) : w.Within w := ⟨id, id, id, id, id⟩

theorem Within.trans {u : Overwrite} (h : u.Within w) (h' : w.Within v) : u.Within v where
  name := h'.name ∘ h.name
  description := h'.description ∘ h.description
  archived := h'.archived ∘ h.archived
  createdAt := h'.createdAt ∘ h.createdAt
  updatedAt := h'.updatedAt ∘ h.updatedAt

/-- A field that was written with the value it has, or not at all, keeps it. -/
theorem getD_of_within {α : Type} {a b : Option α} {old start result : α}
    (hWithin : a.isSome → b.isSome) (hOld : a.getD old = result) (hStart : b.getD start = result) :
    b.getD old = result := by
  cases b with
  | some value => exact hStart
  | none =>
    have hNone : a = none := by
      cases a with
      | none => rfl
      | some value => exact absurd (hWithin rfl) nofun
    rw [hNone] at hOld
    exact hOld

/-- **Writing more than what is still to be written.** If `w` leads from a row to the same result
that `v` once led to, and `v` writes all that `w` does, then `v` leads there from that row too. -/
theorem on_of_within (hWithin : w.Within v) (hRow : w.on row = after)
    (hOther : v.on other = after) : v.on row = after := by
  obtain ⟨id, name, description, archived, createdAt, updatedAt⟩ := after
  simp only [on, Summary.mk.injEq] at hRow hOther ⊢
  obtain ⟨hSame, hName, hDescription, hArchived, hCreated, hUpdated⟩ := hRow
  obtain ⟨-, hName', hDescription', hArchived', hCreated', hUpdated'⟩ := hOther
  exact ⟨hSame, getD_of_within hWithin.name hName hName',
    getD_of_within hWithin.description hDescription hDescription',
    getD_of_within hWithin.archived hArchived hArchived',
    getD_of_within hWithin.createdAt hCreated hCreated',
    getD_of_within hWithin.updatedAt hUpdated hUpdated'⟩

end Overwrite

/-- What a record writes to the row of a template. -/
def StoredEvent.overwrite (id : Uuid) (e : StoredEvent) : Overwrite :=
  if e.IsOfTemplate id then
    match e.decode with
    | .ok event => .ofEvent event
    | .error _ => .nothing
  else .nothing

/-- What a list of records writes to the row of a template. -/
def Log.overwrite (id : Uuid) : List StoredEvent → Overwrite
  | [] => .nothing
  | e :: rest => (e.overwrite id).andThen (Log.overwrite id rest)

/-- The end of a list writes no more fields than the whole list does. -/
theorem Log.overwrite_within_append (id : Uuid) (first more : List StoredEvent) :
    (Log.overwrite id more).Within (Log.overwrite id (first ++ more)) := by
  induction first with
  | nil => exact .refl _
  | cons e first ih => exact ih.trans Overwrite.within_andThen

namespace Catalog

/-- A template has a row. -/
def HasRow (c : Catalog) (id : Uuid) : Prop := (c.get? id).isSome

/-- The row of a template, or an empty one. -/
def rowFor (c : Catalog) (id : Uuid) : Summary :=
  (c.get? id).getD ⟨id, "", "", false, default, default⟩

/-- Every template with a row in `c` has one in `d`. -/
def Within (c d : Catalog) : Prop := ∀ id, c.HasRow id → d.HasRow id

variable {c d x y : Catalog} {e : StoredEvent} {events front back : List StoredEvent} {id : Uuid}

theorem rowFor_id : (c.rowFor id).id = id := by
  rw [rowFor]
  cases h : c.get? id with
  | none => rfl
  | some row => exact id_of_get? h

/-- Two catalogs in order are the same if they have the same rows for the same templates. -/
theorem IsOrdered.eq_of_rows (hc : c.IsOrdered) (hd : d.IsOrdered)
    (hHas : ∀ id, c.HasRow id ↔ d.HasRow id) (hRows : ∀ id, c.rowFor id = d.rowFor id) : c = d := by
  refine hc.eq_of_get? hd fun id => ?_
  have hHas := hHas id
  have hRows := hRows id
  rw [HasRow, HasRow] at hHas
  rw [rowFor, rowFor] at hRows
  cases hLeft : c.get? id <;> cases hRight : d.get? id <;> simp_all

-- ---------------------------------------------------------------------------
-- What events do to the rows
-- ---------------------------------------------------------------------------

/-- An event can be folded if it can be read and its template has a row, which a creation does not
need. -/
theorem take_eq_ok {event : TemplateEvent} :
    c.take e event = .ok d ↔
      ((∃ name description content t, event = .created name description content t) ∨
        c.HasRow e.aggregateId) ∧
      d = c.insert ((Overwrite.ofEvent event).on (c.rowFor e.aggregateId)) := by
  have hRow : (c.rowFor e.aggregateId).id = e.aggregateId := rowFor_id
  have hRowOf : c.HasRow e.aggregateId → c.rowOf e = .ok (c.rowFor e.aggregateId) := by
    rw [HasRow, rowOf, rowFor]
    cases c.get? e.aggregateId with
    | none => exact Bool.noConfusion
    | some row => exact fun _ => rfl
  have hNoRow : ¬c.HasRow e.aggregateId → ∀ row, c.rowOf e ≠ .ok row := by
    rw [HasRow, rowOf]
    cases c.get? e.aggregateId with
    | none =>
      intro _ row hRowOf
      cases hRowOf
    | some row => exact fun h => absurd rfl h
  -- a creation needs no row, the other two need one and keep what they do not write
  cases event with
  | created name description content t =>
    have hInsert : c.take e (.created name description content t) =
        .ok (c.insert ((Overwrite.ofEvent (.created name description content t)).on
          (c.rowFor e.aggregateId))) := by
      rw [take, Overwrite.on, hRow]
      rfl
    rw [hInsert, Except.ok.injEq, eq_comm]
    exact (and_iff_right (.inl ⟨_, _, _, _, rfl⟩)).symm
  | updated name description patch t =>
    by_cases hHas : c.HasRow e.aggregateId
    · rw [take, hRowOf hHas, Except.map, Except.ok.injEq, eq_comm]
      exact (and_iff_right (.inr hHas)).symm
    · rw [take, map_eq_ok]
      simp [hHas, hNoRow hHas]
  | archived t =>
    by_cases hHas : c.HasRow e.aggregateId
    · rw [take, hRowOf hHas, Except.map, Except.ok.injEq, eq_comm]
      exact (and_iff_right (.inr hHas)).symm
    · rw [take, map_eq_ok]
      simp [hHas, hNoRow hHas]

/-- **What one event does to the rows**: it overwrites the row of its template, which is there from
then on, and no other. -/
theorem get?_fold (h : c.fold e = .ok d) (id : Uuid) :
    d.get? id =
      if e.IsOfTemplate id then some ((e.overwrite id).on (c.rowFor id)) else c.get? id := by
  rw [fold] at h
  split at h
  · next hForeign =>
    cases h
    rw [if_neg fun hOf => hForeign hOf.1]
  · next hType =>
    obtain ⟨event, hDecode, hTake⟩ := bind_eq_ok.mp h
    obtain ⟨-, rfl⟩ := take_eq_ok.mp hTake
    rw [get?_insert, Overwrite.on_id, rowFor_id]
    by_cases hSame : id = e.aggregateId
    · have hOf : e.IsOfTemplate id := ⟨not_not.mp hType, hSame.symm⟩
      rw [if_pos hSame, if_pos hOf, StoredEvent.overwrite, if_pos hOf, hDecode, hSame]
    · rw [if_neg hSame, if_neg fun hOf => hSame hOf.2.symm]

/-- An event leaves to the row of a template what it writes to it. -/
theorem rowFor_fold (h : c.fold e = .ok d) (id : Uuid) :
    d.rowFor id = (e.overwrite id).on (c.rowFor id) := by
  rw [rowFor, get?_fold h]
  by_cases hOf : e.IsOfTemplate id
  · rw [if_pos hOf]
    rfl
  · rw [if_neg hOf, StoredEvent.overwrite, if_neg hOf]
    rfl

/-- A row is there if it was there before, or if the event is about its template. -/
theorem hasRow_fold (h : c.fold e = .ok d) (id : Uuid) :
    d.HasRow id ↔ c.HasRow id ∨ e.IsOfTemplate id := by
  rw [HasRow, HasRow, get?_fold h]
  by_cases hOf : e.IsOfTemplate id
  · simp [hOf]
  · simp [hOf]

/-- **What a list of events writes.** -/
theorem rowFor_foldAll (h : c.foldAll events = .ok d) (id : Uuid) :
    d.rowFor id = (Log.overwrite id events).on (c.rowFor id) := by
  induction events generalizing c with
  | nil =>
    cases h
    rfl
  | cons e rest ih =>
    obtain ⟨next, hNext, hRest⟩ := bind_eq_ok.mp h
    rw [ih hRest, rowFor_fold hNext, Log.overwrite, Overwrite.andThen_on]

/-- **The templates that have a row after a list of events**: those that had one, and those of the
events. -/
theorem hasRow_foldAll (h : c.foldAll events = .ok d) (id : Uuid) :
    d.HasRow id ↔ c.HasRow id ∨ ∃ e ∈ events, e.IsOfTemplate id := by
  induction events generalizing c with
  | nil =>
    cases h
    simp
  | cons e rest ih =>
    obtain ⟨next, hNext, hRest⟩ := bind_eq_ok.mp h
    rw [ih hRest, hasRow_fold hNext, List.exists_mem_cons_iff, or_assoc]

/-- Folding takes no row away. -/
theorem within_foldAll (h : c.foldAll events = .ok d) : c.Within d :=
  fun id hHas => (hasRow_foldAll h id).mpr (.inl hHas)

/-- An event that can be folded can be folded from more rows, too. -/
theorem fold_of_within (hWithin : c.Within x) (h : c.fold e = .ok d) : ∃ x', x.fold e = .ok x' := by
  rw [fold] at h ⊢
  by_cases hType : e.aggregateType ≠ TemplateEvent.aggregateType
  · rw [if_pos hType]
    exact ⟨x, rfl⟩
  · rw [if_neg hType] at h ⊢
    obtain ⟨event, hDecode, hTake⟩ := bind_eq_ok.mp h
    obtain ⟨hReady, -⟩ := take_eq_ok.mp hTake
    have hTake' := take_eq_ok.mpr ⟨hReady.imp_right (hWithin _), rfl⟩
    exact ⟨_, bind_eq_ok.mpr ⟨event, hDecode, hTake'⟩⟩

/-- A list that can be folded can be folded over a catalog with more rows. -/
theorem foldAll_of_within (hWithin : c.Within x) (h : c.foldAll events = .ok d) :
    ∃ x', x.foldAll events = .ok x' ∧ d.Within x' := by
  induction events generalizing c x with
  | nil =>
    cases h
    exact ⟨x, rfl, hWithin⟩
  | cons e rest ih =>
    obtain ⟨next, hNext, hRest⟩ := bind_eq_ok.mp h
    obtain ⟨next', hNext'⟩ := fold_of_within hWithin hNext
    have hStill : next.Within next' := fun id hHas =>
      (hasRow_fold hNext' id).mpr (((hasRow_fold hNext id).mp hHas).imp_left (hWithin id))
    obtain ⟨x', hRest', hAfter⟩ := ih hStill hRest
    exact ⟨x', bind_eq_ok.mpr ⟨next', hNext', hRest'⟩, hAfter⟩

-- ---------------------------------------------------------------------------
-- Going back
-- ---------------------------------------------------------------------------

/-- **Going back changes nothing at the end.** A catalog that the rest of a list leads to `d` is led
to `d` from an earlier place of the list as well, if that place once led to `d`, from rows that the
catalog has. -/
theorem foldAll_from_earlier (hOrdered : x.IsOrdered) (hWithin : y.Within x)
    (hEarlier : y.foldAll (front ++ back) = .ok d) (hRest : x.foldAll back = .ok d) :
    x.foldAll (front ++ back) = .ok d := by
  obtain ⟨z, hAgain, -⟩ := foldAll_of_within hWithin hEarlier
  have hSame : z = d := by
    refine (hOrdered.foldAll hAgain).eq_of_rows (hOrdered.foldAll hRest) (fun id => ?_) fun id => ?_
    · -- the templates of `x` have a row in `d` by the rest, those of the events by the whole list
      have hx := hasRow_foldAll hRest id
      have hy := hasRow_foldAll hEarlier id
      have hz := hasRow_foldAll hAgain id
      constructor
      · intro hHas
        rcases hz.mp hHas with hHas | hEvent
        · exact hx.mpr (.inl hHas)
        · exact hy.mpr (.inr hEvent)
      · intro hHas
        rcases hy.mp hHas with hHas | hEvent
        · exact hz.mpr (.inl (hWithin id hHas))
        · exact hz.mpr (.inr hEvent)
    · rw [rowFor_foldAll hAgain]
      exact Overwrite.on_of_within (Log.overwrite_within_append id front back)
        (rowFor_foldAll hRest id).symm (rowFor_foldAll hEarlier id).symm
  rw [hAgain, hSame]

/-- A batch of a list that is delivered: where it starts, and how many events it has. -/
structure Batch where
  start : Nat
  size : Nat

/-- The events of a batch. -/
def Batch.of (batch : Batch) (events : List StoredEvent) : List StoredEvent :=
  (events.drop batch.start).take batch.size

/-- Folds the batches of a list one after another. -/
def deliver (events : List StoredEvent) : Catalog → List Batch → Except Failure Catalog
  | c, [] => .ok c
  | c, batch :: rest => c.foldAll (batch.of events) >>= fun c => deliver events c rest

/-- How far the last of several batches goes. -/
def delivered (position : Nat) (batches : List Batch) : Nat :=
  batches.foldl (fun _ batch => batch.start + batch.size) position

/-- No batch starts after the place that the one before it has reached, so nothing is left out; how
far a batch goes back is open. -/
def LeavesNothingOut : Nat → List Batch → Prop
  | _, [] => True
  | position, batch :: rest =>
    batch.start ≤ position ∧ LeavesNothingOut (batch.start + batch.size) rest

instance : ∀ (position : Nat) (batches : List Batch),
    Decidable (LeavesNothingOut position batches)
  | _, [] => isTrue trivial
  | position, batch :: rest =>
    have := instDecidableLeavesNothingOut (batch.start + batch.size) rest
    inferInstanceAs (Decidable (batch.start ≤ position ∧ _))

/-- A catalog that has reached a place in the delivery of a list: the rest of the list leads it to
the end, and it has the rows that a single delivery has made up to that place. -/
structure IsAt (c d : Catalog) (events : List StoredEvent) (position : Nat) (x : Catalog) :
    Prop where
  ordered : x.IsOrdered
  rest : x.foldAll (events.drop position) = .ok d
  rows : ∃ y, c.foldAll (events.take position) = .ok y ∧ y.Within x

/-- A fold passes through the catalog of every place of its list. -/
theorem foldAll_take (h : c.foldAll events = .ok d) (position : Nat) :
    ∃ y, c.foldAll (events.take position) = .ok y ∧ y.foldAll (events.drop position) = .ok d := by
  rw [← List.take_append_drop position events] at h
  exact foldAll_append_ok.mp h

/-- **One batch** takes a catalog from its place to the end of the batch. -/
theorem IsAt.batch {position : Nat} (h : IsAt c d events position x)
    (hFolded : c.foldAll events = .ok d) {batch : Batch} (hStart : batch.start ≤ position) :
    ∃ x', x.foldAll (batch.of events) = .ok x' ∧
      IsAt c d events (batch.start + batch.size) x' := by
  have hAfter : events.drop batch.start =
      batch.of events ++ events.drop (batch.start + batch.size) := by
    rw [Batch.of, ← List.drop_drop, List.take_append_drop]
  have hUpTo : events.take (batch.start + batch.size) =
      events.take batch.start ++ batch.of events := List.take_add
  have hBack : events.drop batch.start =
      (events.drop batch.start).take (position - batch.start) ++ events.drop position := by
    have hSum : batch.start + (position - batch.start) = position := by omega
    conv_lhs => rw [← List.take_append_drop (position - batch.start) (events.drop batch.start)]
    rw [List.drop_drop, hSum]
  -- the place where the batch starts, in a single delivery
  obtain ⟨y, hBefore, hEarlier⟩ := foldAll_take hFolded batch.start
  obtain ⟨reached, hReached, hWithin⟩ := h.rows
  have hRows : y.Within x := by
    have hSum : position = batch.start + (position - batch.start) := by omega
    rw [hSum, List.take_add] at hReached
    obtain ⟨y', hBefore', hMore⟩ := foldAll_append_ok.mp hReached
    cases hBefore.symm.trans hBefore'
    exact fun id hHas => hWithin id (within_foldAll hMore id hHas)
  have hAgain : x.foldAll (events.drop batch.start) = .ok d := by
    rw [hBack] at hEarlier ⊢
    exact foldAll_from_earlier h.ordered hRows hEarlier h.rest
  rw [hAfter] at hAgain
  obtain ⟨x', hBatch, hRest⟩ := foldAll_append_ok.mp hAgain
  refine ⟨x', hBatch, h.ordered.foldAll hBatch, hRest, ?_⟩
  obtain ⟨y', hOnce, -⟩ := foldAll_take hFolded (batch.start + batch.size)
  refine ⟨y', hOnce, fun id hHas => (hasRow_foldAll hBatch id).mpr ?_⟩
  rw [hUpTo] at hOnce
  obtain ⟨y'', hBefore', hMore⟩ := foldAll_append_ok.mp hOnce
  cases hBefore.symm.trans hBefore'
  exact ((hasRow_foldAll hMore id).mp hHas).imp_left (hRows id)

/-- Batches that leave nothing out take a catalog from one place to the next. -/
theorem IsAt.deliver (hFolded : c.foldAll events = .ok d) {batches : List Batch} {position : Nat}
    (h : IsAt c d events position x) (hBatches : LeavesNothingOut position batches) :
    ∃ x', Catalog.deliver events x batches = .ok x' ∧
      IsAt c d events (delivered position batches) x' := by
  induction batches generalizing position x with
  | nil => exact ⟨x, rfl, h⟩
  | cons batch rest ih =>
    obtain ⟨next, hNext, hAt⟩ := h.batch hFolded hBatches.1
    obtain ⟨x', hRest, hEnd⟩ := ih hAt hBatches.2
    exact ⟨x', bind_eq_ok.mpr ⟨next, hNext, hRest⟩, hEnd⟩

/-- **Events may be folded again.** If a list of events is folded over a catalog, then

* folding it a second time over the result succeeds and changes nothing;
* a batch that overlaps it, starting anywhere in the list and going on after it, leaves or fails
  as the list with what goes on after it would in one delivery;
* however the list is delivered in batches, each of them going back as far as it likes, every batch
  is folded, what is left of the list leads from there to the result of a single delivery, and once
  the end of the list is reached the result is that. -/
theorem foldAll_again (hOrdered : c.IsOrdered) (hFolded : c.foldAll events = .ok d) :
    d.foldAll events = .ok d ∧
    (∀ front back more, events = front ++ back →
      d.foldAll (back ++ more) = c.foldAll (events ++ more)) ∧
    (∀ batches, LeavesNothingOut 0 batches → ∃ x, deliver events c batches = .ok x ∧
      x.foldAll (events.drop (delivered 0 batches)) = .ok d ∧
      (events.length ≤ delivered 0 batches → x = d)) := by
  -- one more round from where the first has led: the case of an earlier place of the list
  have hTwice {y : Catalog} {list : List StoredEvent} (hy : y.IsOrdered)
      (h : y.foldAll list = .ok d) : d.foldAll list = .ok d := by
    have hWhole : y.foldAll (list ++ []) = .ok d := by
      rw [List.append_nil]
      exact h
    have hAgain := foldAll_from_earlier (hy.foldAll h) (within_foldAll h) hWhole rfl
    rwa [List.append_nil] at hAgain
  refine ⟨hTwice hOrdered hFolded, ?_, ?_⟩
  · intro front back more hSplit
    have hFrontBack := hFolded
    rw [hSplit] at hFrontBack
    obtain ⟨between, hFront, hBack⟩ := foldAll_append_ok.mp hFrontBack
    rw [foldAll_append, foldAll_append, hFolded, hTwice (hOrdered.foldAll hFront) hBack]
  · intro batches hBatches
    have hStart : IsAt c d events 0 c := ⟨hOrdered, hFolded, c, rfl, fun _ h => h⟩
    obtain ⟨x, hDeliver, hEnd⟩ := hStart.deliver hFolded hBatches
    refine ⟨x, hDeliver, hEnd.rest, fun hAll => ?_⟩
    have hRest := hEnd.rest
    rw [List.drop_eq_nil_of_le hAll] at hRest
    exact Except.ok.inj hRest

/-- A template that is renamed, archived and created anew while another one comes in between. -/
def recreated : List StoredEvent :=
  let record (id : Uuid) (version sequence : Nat) (e : TemplateEvent) : StoredEvent :=
    ⟨TemplateEvent.aggregateType, id, version, sequence, e.kind, e.encode, default⟩
  [record (.ofNat 1) 1 1 (.created "a" "" .empty default),
    record (.ofNat 1) 2 2 (.updated "b" "" "" default),
    record (.ofNat 2) 1 3 (.created "d" "" .empty default),
    record (.ofNat 1) 3 4 (.archived default),
    record (.ofNat 1) 4 5 (.created "c" "" .empty default),
    record (.ofNat 2) 2 6 (.archived default)]

/-- Folded twice, and delivered in batches that go back to the first name and to the archiving. -/
theorem foldAll_again_recreated :
    let c : Catalog := ⟨[⟨.ofNat 1, "c", "", false, default, default⟩,
      ⟨.ofNat 2, "d", "", true, default, default⟩]⟩
    empty.IsOrdered ∧ empty.foldAll recreated = .ok c ∧ c.foldAll recreated = .ok c ∧
      ∃ x, deliver recreated empty [⟨0, 5⟩, ⟨0, 2⟩, ⟨1, 3⟩, ⟨3, 9⟩] = .ok x ∧ x = c := by
  intro c
  have hFolded : empty.foldAll recreated = .ok c := toOption_eq_some.mp (by decide +kernel)
  obtain ⟨hTwice, -, hBatches⟩ := foldAll_again isOrdered_empty hFolded
  obtain ⟨x, hDeliver, -, hEnd⟩ := hBatches [⟨0, 5⟩, ⟨0, 2⟩, ⟨1, 3⟩, ⟨3, 9⟩] (by decide)
  exact ⟨isOrdered_empty, hFolded, hTwice, x, hDeliver, hEnd (by decide)⟩

end Catalog

end Galley
